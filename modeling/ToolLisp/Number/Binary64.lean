/-!
# Double-precision numbers

A `Binary64` is an IEEE 754 double. A NaN has a sign like every double, but no other bits: the quiet
pattern is the only one that arises. Every other double is a sign and a *magnitude*: the exponent and
fraction bits of its pattern, read as one natural number. Magnitudes grow with the absolute value, from
`0` up to `infinityMagnitude`, so comparing two doubles is comparing two integers, and rounding an exact
value to a double is one function, `magnitudeOfRatio`.

Arithmetic computes the exact result as a ratio of natural numbers and rounds it once, to the nearest
double, a tie going to the even pattern. Only the square root and the power function are taken from
the machine. The standard leaves the sign of a NaN that an operation gives to the machine. As on the
common ones, the first operand that is NaN is passed on with its sign, and an operation that has no value
gives NaN with the sign bit set (`invalid`).
-/

namespace ToolLisp

/-- The magnitude of the infinities; the magnitudes below it are those of the finite doubles. -/
def Binary64.infinityMagnitude : Nat := 0x7ff0000000000000

/-- A double: not a number, or a sign and a magnitude. -/
inductive Binary64 where
  /-- Not a number. The sign bit tells two of them apart. -/
  | nan (negative : Bool)
  /-- A finite double or an infinity. -/
  | signed (negative : Bool) (magnitude : Nat)
      (bounded : magnitude ≤ Binary64.infinityMagnitude)
deriving DecidableEq

namespace Binary64

/-- The double of a sign and a magnitude; what lies above the infinities is taken to them. -/
def ofMagnitude (negative : Bool) (magnitude : Nat) : Binary64 :=
  .signed negative (min magnitude infinityMagnitude) (Nat.min_le_right _ _)

/-- The double `0.0`. -/
def zero : Binary64 := ofMagnitude false 0

/-- The infinity of the given sign. -/
def infinity (negative : Bool) : Binary64 := ofMagnitude negative infinityMagnitude

/-- The result of an operation that has no value. -/
def invalid : Binary64 := .nan true

instance : Inhabited Binary64 := ⟨zero⟩

/-- Whether the double is not a number. -/
def isNaN : Binary64 → Bool
  | .nan _ => true
  | .signed .. => false

/-- Whether the double is a number other than the infinities. -/
def isFinite : Binary64 → Bool
  | .nan _ => false
  | .signed _ m _ => m < infinityMagnitude

/-- Whether the double is one of the two zeros. -/
def isZero : Binary64 → Bool
  | .nan _ => false
  | .signed _ m _ => m == 0

/-! ## Order -/

/-- The place of a double among the numbers, with one place for both zeros; none for NaN. -/
def place? : Binary64 → Option Int
  | .nan _ => none
  | .signed true m _ => some (-(m : Int))
  | .signed false m _ => some m

/-- Numeric order; nothing compares with NaN. -/
def compare? (x y : Binary64) : Option Ordering :=
  match x.place?, y.place? with
  | some a, some b => some (compare a b)
  | _, _ => none

/-- Numeric equality: the two zeros are equal and NaN equals nothing. -/
def numEq (x y : Binary64) : Bool :=
  x.compare? y == some .eq

/-- The place of a double in the total order: `-0.0` stands just before `0.0`, and NaN outside the
infinities, at the end that its sign says. -/
def rank : Binary64 → Int
  | .nan true => -(infinityMagnitude : Int) - 2
  | .nan false => infinityMagnitude + 1
  | .signed true m _ => -(m : Int) - 1
  | .signed false m _ => m

/-- The total order of doubles by `rank`. -/
def totalCompare (x y : Binary64) : Ordering :=
  compare x.rank y.rank

/-! ## Exact values

A finite double of magnitude `m` is `significand m * 2 ^ exponent m`, up to its sign.
-/

/-- The integer factor of a finite magnitude. -/
def significand (magnitude : Nat) : Nat :=
  if magnitude < Nat.pow 2 52 then magnitude else magnitude % Nat.pow 2 52 + Nat.pow 2 52

/-- The power of two that a finite magnitude is scaled by. -/
def exponent (magnitude : Nat) : Int :=
  if magnitude < Nat.pow 2 52 then -1074 else (magnitude / Nat.pow 2 52 : Nat) - 1075

/-- The fraction `num / den` divided by `2 ^ e`, as a fraction of natural numbers. -/
def divTwoPow (num den : Nat) (e : Int) : Nat × Nat :=
  if 0 ≤ e then (num, den * Nat.pow 2 e.toNat) else (num * Nat.pow 2 (-e).toNat, den)

/-- The quotient rounded to the nearest integer, a half going to the even neighbour. -/
def roundQuotient (num den : Nat) : Nat :=
  let q := num / den
  let r := num % den
  if den < 2 * r || (2 * r == den && q % 2 == 1) then q + 1 else q

/-- The greatest `e` with `2 ^ e ≤ num / den`, for positive `num` and `den`. -/
def floorLog2 (num den : Nat) : Int :=
  let e : Int := (num.log2 : Int) - den.log2
  let (n, d) := divTwoPow num den e
  if d ≤ n then e else e - 1

/-- The magnitude of the double nearest to `num / den`. A significand that rounds up to `2 ^ 53`
carries into the exponent by itself, because magnitudes of consecutive doubles are consecutive. -/
def magnitudeOfRatio (num den : Nat) : Nat :=
  if num = 0 then 0
  else
    let e := max (-1074) (floorLog2 num den - 52)
    let (n, d) := divTwoPow num den e
    min infinityMagnitude ((e + 1074).toNat * Nat.pow 2 52 + roundQuotient n d)

/-- The double nearest to `num / den`, with the given sign. -/
def ofRatio (negative : Bool) (num den : Nat) : Binary64 :=
  ofMagnitude negative (magnitudeOfRatio num den)

/-- The double nearest to `m * 2 ^ e`, with the given sign. -/
def ofScaled (negative : Bool) (m : Nat) (e : Int) : Binary64 :=
  let (n, d) := divTwoPow m 1 (-e)
  ofRatio negative n d

/-- The double nearest to an integer. -/
def ofInt (n : Int) : Binary64 :=
  ofRatio (n < 0) n.natAbs 1

/-! ## Arithmetic -/

/-- The opposite double; the zeros are each other's opposite, and so are the NaNs. -/
def neg : Binary64 → Binary64
  | .nan s => .nan (!s)
  | .signed s m h => .signed (!s) m h

/-- The absolute value. -/
def abs : Binary64 → Binary64
  | .nan _ => .nan false
  | .signed _ m h => .signed false m h

/-- An integer with the given sign. -/
def withSign (negative : Bool) (n : Nat) : Int :=
  if negative then -(n : Int) else n

/-- The sum. Finite operands that cancel give `0.0`; two negative zeros give `-0.0`. -/
def add : Binary64 → Binary64 → Binary64
  | .nan s, _ => .nan s
  | _, .nan t => .nan t
  | .signed s a ha, .signed t b hb =>
    if a = infinityMagnitude then
      if b = infinityMagnitude ∧ s ≠ t then invalid else .signed s a ha
    else if b = infinityMagnitude then .signed t b hb
    else
      let e := min (exponent a) (exponent b)
      let x := withSign s (significand a * Nat.pow 2 (exponent a - e).toNat)
      let y := withSign t (significand b * Nat.pow 2 (exponent b - e).toNat)
      -- a sum of zero is negative only if both summands are
      if x + y = 0 then ofMagnitude (s && t) 0
      else ofScaled (x + y < 0) (x + y).natAbs e

/-- The difference. A NaN is passed on as it is, so it is not subtracted by adding its opposite. -/
def sub (x : Binary64) : Binary64 → Binary64
  | .nan t => x.add (.nan t)
  | y => x.add y.neg

/-- The product. -/
def mul : Binary64 → Binary64 → Binary64
  | .nan s, _ => .nan s
  | _, .nan t => .nan t
  | .signed s a _, .signed t b _ =>
    if a = infinityMagnitude ∨ b = infinityMagnitude then
      if a = 0 ∨ b = 0 then invalid else infinity (s != t)
    else ofScaled (s != t) (significand a * significand b) (exponent a + exponent b)

/-- The quotient. A number over zero is an infinity, zero over zero is not a number. -/
def div : Binary64 → Binary64 → Binary64
  | .nan s, _ => .nan s
  | _, .nan t => .nan t
  | .signed s a _, .signed t b _ =>
    if a = infinityMagnitude then
      if b = infinityMagnitude then invalid else infinity (s != t)
    else if b = infinityMagnitude then ofMagnitude (s != t) 0
    else if b = 0 then
      if a = 0 then invalid else infinity (s != t)
    else
      let (n, d) := divTwoPow (significand a) (significand b) (exponent b - exponent a)
      ofRatio (s != t) n d

/-- The remainder of the division that truncates; it has the sign of the dividend. -/
def rem : Binary64 → Binary64 → Binary64
  | .nan s, _ => .nan s
  | _, .nan t => .nan t
  | .signed s a ha, .signed _ b _ =>
    if a = infinityMagnitude ∨ b = 0 then invalid
    else if b = infinityMagnitude then .signed s a ha
    else
      let e := min (exponent a) (exponent b)
      let x := significand a * Nat.pow 2 (exponent a - e).toNat
      let y := significand b * Nat.pow 2 (exponent b - e).toNat
      ofScaled s (x % y) e

/-! ## Integer parts -/

/-- Where a value between two integers goes. -/
inductive Rounding where
  /-- Towards zero. -/
  | truncate
  /-- Towards negative infinity. -/
  | down
  /-- Towards positive infinity. -/
  | up
  /-- To the nearest integer, a half away from zero. -/
  | nearest
deriving DecidableEq

/-- Whether a value of the given sign, `rest / unit` past an integer, goes away from zero. -/
def Rounding.leavesZero (mode : Rounding) (negative : Bool) (rest unit : Nat) : Bool :=
  match mode with
  | .truncate => false
  | .down => negative && rest != 0
  | .up => !negative && rest != 0
  | .nearest => unit ≤ 2 * rest

/-- The absolute value of a finite magnitude, rounded to an integer. -/
def integerPart (mode : Rounding) (negative : Bool) (magnitude : Nat) : Nat :=
  let e := exponent magnitude
  if 0 ≤ e then significand magnitude * Nat.pow 2 e.toNat
  else
    let unit := Nat.pow 2 (-e).toNat
    let n := significand magnitude / unit
    if mode.leavesZero negative (significand magnitude % unit) unit then n + 1 else n

/-- The double rounded to an integer; it keeps its sign. -/
def roundWith (mode : Rounding) : Binary64 → Binary64
  | .nan s => .nan s
  | .signed s m h =>
    if m = infinityMagnitude then .signed s m h
    else ofRatio s (integerPart mode s m) 1

/-- The integer part of a finite double. -/
def truncate? : Binary64 → Option Int
  | .nan _ => none
  | .signed s m _ =>
    if m = infinityMagnitude then none else some (withSign s (integerPart .truncate s m))

/-- Whether the double is finite and has no fractional part. -/
def isWhole : Binary64 → Bool
  | .nan _ => false
  | .signed _ m _ =>
    m < infinityMagnitude &&
      (0 ≤ exponent m || significand m % Nat.pow 2 (-exponent m).toNat == 0)

/-! ## Functions of the machine -/

/-- The machine's double. -/
def toFloat : Binary64 → Float
  | .nan _ => Float.ofBits 0x7ff8000000000000
  | .signed s m _ => Float.ofBits (UInt64.ofNat (if s then m + Nat.pow 2 63 else m))

/-- The double that the machine has computed, of operands that are numbers. -/
def ofFloat (x : Float) : Binary64 :=
  let bits := x.toBits.toNat
  if infinityMagnitude < bits % Nat.pow 2 63 then invalid
  else ofMagnitude (Nat.pow 2 63 ≤ bits) (bits % Nat.pow 2 63)

/-- The square root. -/
def sqrt : Binary64 → Binary64
  | .nan s => .nan s
  | x => ofFloat x.toFloat.sqrt

/-- The power function. It has a value at some operands that are NaN: everything to the power of zero is
one, and so is one to every power. -/
def pow (x y : Binary64) : Binary64 :=
  let power := ofFloat (x.toFloat.pow y.toFloat)
  if power.isNaN then
    if x.isNaN then x else if y.isNaN then y else power
  else power

end Binary64

end ToolLisp
