import ToolLisp.Builtin.Argument
import ToolLisp.Builtin.Signature

/-!
# Tests of one value

Tests of the type of a value accept everything; tests of a number accept only numbers.
-/

namespace ToolLisp

namespace TestFn

/-- A test that accepts every value. -/
def ofValue (test : Value → Bool) : Signature :=
  .one fun v => return .bool (test v)

/-- A test that accepts numbers. -/
def ofNumber (name : String) (test : Number → Bool) : Signature :=
  .one fun v => do
    let n ← v.asNumber name
    return .bool (test n)

/-- A test of the parity of an integer. -/
def parity (name : String) (even : Bool) : Value → Checked Value
  | .number (.int n) => .ok (.bool ((n % 2 == 0) == even))
  | v => v.unexpected name "an integer"

/-- Whether a number is greater than zero. -/
def isAbove (n : Number) : Bool :=
  n.toFloat.compare? .zero == some .gt

/-- Whether a number is less than zero. -/
def isBelow (n : Number) : Bool :=
  n.toFloat.compare? .zero == some .lt

/-- Whether a value is a number that passes a test. -/
def isNumberThat (test : Number → Bool) : Value → Bool
  | .number n => test n
  | _ => false

/-- Whether a number is an integer. -/
def isIntegral : Number → Bool
  | .int _ => true
  | .float _ => false

/-- The arguments and the effect of each test. -/
def signature : TestFn → Signature
  | .not => ofValue fun v => !v.truthy
  | .isNil => ofValue Value.isNil
  | .isSome => ofValue fun v => !v.isNil
  | .isBoolean => ofValue fun | .bool _ => true | _ => false
  | .isNumber => ofValue (isNumberThat fun _ => true)
  | .isInteger => ofValue (isNumberThat isIntegral)
  | .isInt => ofValue (isNumberThat isIntegral)
  | .isFloat => ofValue (isNumberThat fun n => !isIntegral n)
  | .isString => ofValue fun | .string _ => true | _ => false
  | .isKeyword => ofValue fun | .keyword _ => true | _ => false
  | .isVector => ofValue fun | .vector _ => true | _ => false
  | .isMap => ofValue fun | .map _ => true | _ => false
  | .isCollection => ofValue fun | .vector _ => true | .map _ => true | _ => false
  | .isFunction => ofValue fun | .keyword _ => false | v => v.callable
  | .isZero => ofNumber "zero?" Number.isZero
  | .isPositive => ofNumber "pos?" isAbove
  | .isNegative => ofNumber "neg?" isBelow
  | .isEven => .one fun v => parity "even?" true v
  | .isOdd => .one fun v => parity "odd?" false v
  | .isNaN => ofNumber "nan?" Number.isNaN
  | .isInfinite => ofNumber "infinite?" fun n => !n.toFloat.isFinite && !n.isNaN
  | .isFinite => ofNumber "finite?" fun n => n.toFloat.isFinite

end TestFn

end ToolLisp
