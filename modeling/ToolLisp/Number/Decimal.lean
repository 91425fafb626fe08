import ToolLisp.Number.Binary64

/-!
# Decimal texts of doubles

A `Decimal` is a natural number times a power of ten. This module reads decimals from characters,
rounds them to the nearest double, and finds for every finite double the shortest decimal that reads
back as it. The search tries one digit, two digits, and so on; on each grid it looks only at the two
neighbours of the value, and it takes none that does not read back. So what is written always reads
back, and no shorter decimal does.
-/

namespace ToolLisp

/-- The value `significand * 10 ^ exponent`. -/
structure Decimal where
  /-- The integer that the digits spell. -/
  significand : Nat
  /-- The power of ten that it is scaled by. -/
  exponent : Int
deriving DecidableEq

namespace Decimal

/-! ## Reading -/

/-- The number that decimal digits spell. -/
def ofDigits (digits : List Char) : Nat :=
  digits.foldl (fun n c => 10 * n + (c.toNat - '0'.toNat)) 0

/-- Takes a sign off the front; the result says whether it is negative. -/
def splitSign : List Char → Bool × List Char
  | '-' :: rest => (true, rest)
  | '+' :: rest => (false, rest)
  | rest => (false, rest)

/-- A natural number: one or more digits and nothing else. -/
def readNat? (text : List Char) : Option Nat :=
  if text ≠ [] ∧ text.all Char.isDigit then some (ofDigits text) else none

/-- An integer: an optional sign and one or more digits. -/
def readInt? (text : List Char) : Option Int :=
  let (negative, rest) := splitSign text
  (readNat? rest).map (Binary64.withSign negative)

/-- The exponent of a decimal text: nothing, or the letter `e` and an integer. -/
def readExponent? : List Char → Option Int
  | [] => some 0
  | c :: rest => if c = 'e' ∨ c = 'E' then readInt? rest else none

/-- A sign and a decimal: digits with at most one point among, before or after them, then an optional
exponent. -/
def read? (text : List Char) : Option (Bool × Decimal) :=
  let (negative, rest) := splitSign text
  let whole := rest.takeWhile Char.isDigit
  let rest := rest.dropWhile Char.isDigit
  let (fraction, rest) :=
    match rest with
    | '.' :: rest => (rest.takeWhile Char.isDigit, rest.dropWhile Char.isDigit)
    | rest => ([], rest)
  let digits := whole ++ fraction
  if digits = [] then none
  else (readExponent? rest).map fun e => (negative, ⟨ofDigits digits, e - fraction.length⟩)

/-! ## Rounding to a double -/

/-- The fraction `num / den` divided by `10 ^ e`, as a fraction of natural numbers. -/
def divTenPow (num den : Nat) (e : Int) : Nat × Nat :=
  if 0 ≤ e then (num, den * Nat.pow 10 e.toNat) else (num * Nat.pow 10 (-e).toNat, den)

/-- The magnitude of the nearest double. Decimals far outside the range of doubles are recognised by
their exponents, without computing the power. -/
def magnitude (d : Decimal) : Nat :=
  if d.significand = 0 then 0
  else if 400 < d.exponent then Binary64.infinityMagnitude
  else if d.exponent + d.significand.log2 < -400 then 0
  else
    let (n, k) := divTenPow d.significand 1 (-d.exponent)
    Binary64.magnitudeOfRatio n k

/-- The nearest double, with the given sign. -/
def toBinary64 (negative : Bool) (d : Decimal) : Binary64 :=
  Binary64.ofMagnitude negative d.magnitude

/-! ## The shortest decimal of a double -/

/-- A positive finite magnitude as a fraction of natural numbers. -/
def fraction (magnitude : Nat) : Nat × Nat :=
  Binary64.divTwoPow (Binary64.significand magnitude) 1 (-Binary64.exponent magnitude)

/-- The exponent of the leading decimal digit of `num / den`, for fractions above `10 ^ (-324)`. -/
def leadingExponent (num den : Nat) : Int :=
  ((Nat.toDigits 10 (num * Nat.pow 10 324 / den)).length : Int) - 325

/-- Of the two decimals on the grid `10 ^ e` around `num / den`, the nearer one that reads back as
`magnitude`; a tie goes up. -/
def neighbour? (magnitude num den : Nat) (e : Int) : Option Decimal :=
  let (n, d) := divTenPow num den e
  let below : Decimal := ⟨n / d, e⟩
  let above : Decimal := ⟨n / d + 1, e⟩
  match below.magnitude == magnitude, above.magnitude == magnitude with
  -- of two that read back the nearer one, and the greater one if they are equally near
  | true, true => some (if 2 * (n % d) < d then below else above)
  | true, false => some below
  | false, true => some above
  | false, false => none

/-- The exact decimal of a finite magnitude. -/
def exact (magnitude : Nat) : Decimal :=
  let e := Binary64.exponent magnitude
  let m := Binary64.significand magnitude
  if 0 ≤ e then ⟨m * Nat.pow 2 e.toNat, 0⟩ else ⟨m * Nat.pow 5 (-e).toNat, e⟩

/-- The shortest decimal that reads back as a positive finite magnitude. Seventeen digits tell all
doubles apart; the exact decimal stands last so that the result always reads back. -/
def shortest (magnitude : Nat) : Decimal :=
  let (num, den) := fraction magnitude
  let top := leadingExponent num den
  ((List.range 17).findSome? fun (n : Nat) => neighbour? magnitude num den (top - (n : Int))).getD
    (exact magnitude)

/-! ## Writing -/

/-- A run of zeros. -/
def zeros (n : Nat) : List Char :=
  List.replicate n '0'

/-- The same decimal without trailing zeros in its significand. -/
def stripZeros (d : Decimal) : Decimal :=
  let n := ((Nat.toDigits 10 d.significand).reverse.takeWhile (· == '0')).length
  ⟨d.significand / Nat.pow 10 n, d.exponent + n⟩

/-- An integer in decimal notation. -/
def intText (n : Int) : List Char :=
  if n < 0 then '-' :: Nat.toDigits 10 n.natAbs else Nat.toDigits 10 n.natAbs

/-- Digits with a point after the first `point` of them, zeros being added where digits lack; there is
at least one digit on each side. -/
def positional (digits : List Char) (point : Int) : List Char :=
  if point ≤ 0 then '0' :: '.' :: (zeros (-point).toNat ++ digits)
  else
    let n := point.toNat
    if digits.length ≤ n then digits ++ zeros (n - digits.length) ++ ['.', '0']
    else digits.take n ++ '.' :: digits.drop n

/-- One digit, the others after a point if there are any, and the exponent. -/
def scientific (digits : List Char) (e : Int) : List Char :=
  match digits with
  | [] => []
  | [d] => d :: 'e' :: intText e
  | d :: rest => d :: '.' :: (rest ++ 'e' :: intText e)

/-- A positive decimal as text: positional from `0.0001` up to, not including, `10 ^ 16`, and
scientific outside. -/
def text (d : Decimal) : List Char :=
  let d := d.stripZeros
  let digits := Nat.toDigits 10 d.significand
  let e := d.exponent + digits.length - 1
  if -4 ≤ e ∧ e < 16 then positional digits (e + 1) else scientific digits e

end Decimal

/-- A finite double as text, or the spelling of an infinity or NaN. -/
def Binary64.text : Binary64 → List Char
  | .nan _ => "NaN".toList
  | .signed negative m _ =>
    let absolute :=
      if m = Binary64.infinityMagnitude then "Infinity".toList
      else if m = 0 then "0.0".toList
      else (Decimal.shortest m).text
    if negative then '-' :: absolute else absolute

end ToolLisp
