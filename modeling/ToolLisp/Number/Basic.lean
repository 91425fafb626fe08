import ToolLisp.Number.Decimal

/-!
# Numbers

A number is a 64-bit integer or a double. Integers stay integers as long as only integers are
involved, and an integer result that does not fit is an error, never a wrapped value. A double among
the operands makes the result a double.

There are three comparisons. `numEq` and `numCompare?` compare values across the two kinds, taking an
integer to the nearest double; `totalCompare` is the order of map keys and of sorting, in which every
two different numbers differ.
-/

namespace ToolLisp

/-- A 64-bit integer or a double. -/
inductive Number where
  /-- An integer. -/
  | int (n : Int64)
  /-- A double. -/
  | float (x : Binary64)
deriving DecidableEq

/-- Why arithmetic has no result. -/
inductive ArithmeticError where
  /-- An integer result lies outside the 64-bit range. -/
  | overflow (operation : String)
  /-- An integer is divided by zero. -/
  | divisionByZero (operation : String)
  /-- A double too large, or no number at all, is to become an integer. -/
  | noInteger (operation : String) (x : Binary64)
  /-- An arithmetic progression has more elements than are allowed. -/
  | tooLong (operation : String) (limit : Nat)
  /-- An arithmetic progression stands still. -/
  | zeroStep (operation : String)
deriving DecidableEq

/-- The integer as a 64-bit one, if it fits. -/
def int64? (n : Int) : Option Int64 :=
  if Int64.minValue.toInt ≤ n ∧ n ≤ Int64.maxValue.toInt then some (Int64.ofInt n) else none

/-- The nearest 64-bit integer. -/
def clampInt64 (n : Int) : Int64 :=
  Int64.ofInt (max Int64.minValue.toInt (min Int64.maxValue.toInt n))

namespace Number

instance : Inhabited Number := ⟨.int 0⟩

/-- The number as a double, rounded if it is a large integer. -/
def toFloat : Number → Binary64
  | .int n => Binary64.ofInt n.toInt
  | .float x => x

/-- Whether the number is zero. -/
def isZero : Number → Bool
  | .int n => n == 0
  | .float x => x.isZero

/-- Whether the number is the double that is not a number. -/
def isNaN : Number → Bool
  | .int _ => false
  | .float x => x.isNaN

/-! ## Comparison -/

/-- Numeric equality across the two kinds; NaN equals nothing. -/
def numEq : Number → Number → Bool
  | .int a, .int b => a == b
  | a, b => a.toFloat.numEq b.toFloat

/-- Numeric order across the two kinds; nothing compares with NaN. -/
def numCompare? : Number → Number → Option Ordering
  | .int a, .int b => some (compare a.toInt b.toInt)
  | a, b => a.toFloat.compare? b.toFloat

/-- Equality within a kind: an integer never equals a double, the two zeros are equal, and so is every
NaN to every other. -/
def sameKindEq : Number → Number → Bool
  | .int a, .int b => a == b
  | .float a, .float b => a.numEq b || (a.isNaN && b.isNaN)
  | _, _ => false

/-- The order of an integer and a double: by value, an integer before the double equal to it, and before
NaN of either sign. -/
def compareIntFloat (n : Int64) (x : Binary64) : Ordering :=
  match (Binary64.ofInt n.toInt).compare? x with
  | some .gt => .gt
  | _ => .lt

/-- The order of map keys: by value, then integers before doubles; NaN stands last. NaN with the sign bit
set has no place in this order: it comes before all other doubles and after all integers. -/
def totalCompare : Number → Number → Ordering
  | .int a, .int b => compare a.toInt b.toInt
  | .float a, .float b => a.totalCompare b
  | .int a, .float b => compareIntFloat a b
  | .float a, .int b => (compareIntFloat b a).swap

/-! ## Arithmetic -/

/-- An integer result, or the overflow of the operation. -/
def checked (operation : String) (n : Int) : Except ArithmeticError Number :=
  match int64? n with
  | some n => .ok (.int n)
  | none => .error (.overflow operation)

/-- The sum. -/
def add : Number → Number → Except ArithmeticError Number
  | .int a, .int b => checked "+" (a.toInt + b.toInt)
  | a, b => .ok (.float (a.toFloat.add b.toFloat))

/-- The difference. -/
def sub : Number → Number → Except ArithmeticError Number
  | .int a, .int b => checked "-" (a.toInt - b.toInt)
  | a, b => .ok (.float (a.toFloat.sub b.toFloat))

/-- The product. -/
def mul : Number → Number → Except ArithmeticError Number
  | .int a, .int b => checked "*" (a.toInt * b.toInt)
  | a, b => .ok (.float (a.toFloat.mul b.toFloat))

/-- The quotient, always a double. -/
def div (a b : Number) : Number :=
  .float (a.toFloat.div b.toFloat)

/-- The opposite number. -/
def neg : Number → Except ArithmeticError Number
  | .int a => checked "-" (-a.toInt)
  | .float x => .ok (.float x.neg)

/-- The absolute value. -/
def abs : Number → Except ArithmeticError Number
  | .int a => checked "abs" a.toInt.natAbs
  | .float x => .ok (.float x.abs)

/-- An integer division: it fails on zero, and on the one pair whose quotient overflows. -/
def divideInts (operation : String) (f : Int64 → Int64 → Int64) (a b : Int64) :
    Except ArithmeticError Number :=
  if b = 0 then .error (.divisionByZero operation)
  else if a = Int64.minValue ∧ b = -1 then .error (.overflow operation)
  else .ok (.int (f a b))

/-- The quotient truncated towards zero. -/
def quot : Number → Number → Except ArithmeticError Number
  | .int a, .int b => divideInts "quot" (· / ·) a b
  | a, b => .ok (.float ((a.toFloat.div b.toFloat).roundWith .truncate))

/-- The remainder, with the sign of the dividend. -/
def rem : Number → Number → Except ArithmeticError Number
  | .int a, .int b => divideInts "rem" (· % ·) a b
  | a, b => .ok (.float (a.toFloat.rem b.toFloat))

/-- The modulus of integers, with the sign of the divisor: a remainder on the other side of zero is moved
by the divisor. -/
def intMod (a b : Int64) : Int64 :=
  let r := a % b
  if r ≠ 0 ∧ ¬(r < 0 ↔ b < 0) then r + b else r

/-- Whether a double lies below zero. -/
def below (x : Binary64) : Bool :=
  x.compare? Binary64.zero == some .lt

/-- The modulus of doubles, with the sign of the divisor. -/
def floatMod (a b : Binary64) : Binary64 :=
  let r := a.rem b
  if !r.isZero && (below r != below b) then r.add b else r

/-- The modulus, with the sign of the divisor. -/
def mod : Number → Number → Except ArithmeticError Number
  | .int a, .int b => divideInts "mod" intMod a b
  | a, b => .ok (.float (floatMod a.toFloat b.toFloat))

/-! ## Texts -/

/-- The double that a special spelling stands for. -/
def special? : List Char → Option Binary64
  | text =>
    if text = "Infinity".toList ∨ text = "##Inf".toList then some (Binary64.infinity false)
    else if text = "-Infinity".toList ∨ text = "##-Inf".toList then some (Binary64.infinity true)
    else if text = "NaN".toList ∨ text = "##NaN".toList then some (.nan false)
    else none

/-- Reads a number. A point or an exponent makes it a double, which has to be finite; otherwise it is
an integer, which has to fit. -/
def read? (text : List Char) : Option Number :=
  match special? text with
  | some x => some (.float x)
  | none =>
    if text.any fun c => c == '.' || c == 'e' || c == 'E' then
      match Decimal.read? text with
      | some (negative, d) =>
        let x := d.toBinary64 negative
        -- what rounds to infinity spells no number
        if x.isFinite then some (.float x) else none
      | none => none
    else ((Decimal.readInt? text).bind int64?).map .int

/-- The number as characters. -/
def text : Number → List Char
  | .int n => Decimal.intText n.toInt
  | .float x => x.text

/-- The number as a string. -/
def render (n : Number) : String :=
  String.ofList n.text

end Number

/-- The message of an arithmetic error. -/
def ArithmeticError.message : ArithmeticError → String
  | .overflow op => "integer overflow in " ++ op
  | .divisionByZero op => op ++ ": division by zero"
  | .noInteger op x => op ++ ": " ++ (Number.float x).render ++ " has no integer value"
  | .tooLong op limit => op ++ ": more than " ++ toString limit ++ " elements"
  | .zeroStep op => op ++ ": step must be non-zero"

end ToolLisp
