import ToolLisp.Builtin.Argument
import ToolLisp.Builtin.Signature
import ToolLisp.Value.Equality

/-!
# Functions on numbers

Arithmetic and comparison. A sum or product of integers that does not fit is an error. Comparisons
take any number of arguments and hold if they hold between neighbours; a comparison with `nil` or NaN
does not hold, and only numbers and strings can be compared.
-/

namespace ToolLisp

namespace NumberFn

/-- The result of arithmetic. -/
def checked (result : Except ArithmeticError Number) : Checked Value :=
  match result with
  | .ok n => .ok (.number n)
  | .error e => .error (.arithmetic e)

/-- An operation on one number. -/
def unary (name : String) (f : Number → Except ArithmeticError Number) (v : Value) :
    Checked Value := do
  let n ← v.asNumber name
  checked (f n)

/-- An operation on two numbers. -/
def binary (name : String) (f : Number → Number → Except ArithmeticError Number) (v w : Value) :
    Checked Value := do
  let a ← v.asNumber name
  let b ← w.asNumber name
  checked (f a b)

/-- An operation on any number of values, from left to right. Without arguments the result is
`identity`, and one argument goes through `lone`. -/
def fold (identity : Int64) (lone : Value → Checked Value) (f : Value → Value → Checked Value) :
    List Value → Checked Value
  | [] => .ok (.number (.int identity))
  | [v] => lone v
  | v :: rest => rest.foldlM f v

/-- The sum. -/
def sum : List Value → Checked Value :=
  fold 0 (unary "+" .ok) (binary "+" Number.add)

/-- The difference; of one number, the opposite. -/
def difference : List Value → Checked Value :=
  fold 0 (unary "-" Number.neg) (binary "-" Number.sub)

/-- The product. -/
def product : List Value → Checked Value :=
  fold 1 (unary "*" .ok) (binary "*" Number.mul)

/-- The quotient; of one number, the reciprocal. All arguments are checked first. -/
def quotient (v : Value) (rest : List Value) : Checked Value := do
  let a ← v.asNumber "/"
  let ns ← rest.mapM (·.asNumber "/")
  match ns with
  | [] => return .number (Number.div (.int 1) a)
  | ns => return .number (ns.foldl .div a)

/-- Of two numbers, the one that compares as wanted with the other, and the first if they are equal.
NaN wins over everything, and loses its sign. -/
def pick (name : String) (wanted : Ordering) (v w : Value) : Checked Value := do
  let a ← v.asNumber name
  let b ← w.asNumber name
  if a.isNaN || b.isNaN then return .number (.float (.nan false))
  match a.numCompare? b with
  | some o => return if o == wanted || o == .eq then v else w
  | none => return w

/-- The extreme of one or more numbers. -/
def extreme (name : String) (wanted : Ordering) (v : Value) (rest : List Value) : Checked Value :=
  (v :: rest).foldlM (pick name wanted) v

/-! ## Conversions -/

/-- A whole double as an integer if it is small enough. -/
def whole (x : Binary64) : Number :=
  match x.truncate? with
  | some n => if n.natAbs < 9 * Nat.pow 10 18 then .int (clampInt64 n) else .float x
  | none => .float x

/-- Rounds a number to an integer. -/
def rounded (name : String) (mode : Binary64.Rounding) : Value → Checked Value :=
  unary name fun
    | .float x => .ok (whole (x.roundWith mode))
    | n => .ok n

/-- The number as an integer, towards zero; one that is too large is an error. -/
def integer : Value → Checked Value :=
  unary "int" fun
    | .float x =>
      match whole (x.roundWith .truncate) with
      | .int n => .ok (.int n)
      | .float _ => .error (.noInteger "int" x)
    | n => .ok n

/-- A function of doubles. -/
def onFloat (name : String) (f : Binary64 → Binary64) : Value → Checked Value :=
  unary name fun n => .ok (.float (f n.toFloat))

/-- The power function. -/
def power : Value → Value → Checked Value :=
  binary "pow" fun a b => .ok (.float (a.toFloat.pow b.toFloat))

/-! ## Comparisons -/

/-- Whether a value is a number or a string. -/
def hasOrder : Value → Bool
  | .number _ => true
  | .string _ => true
  | _ => false

/-- The order of two arguments of a comparison. There is none with `nil` or NaN. -/
def order (name : String) : Value → Value → Checked (Option Ordering)
  | .nil, _ => .ok none
  | _, .nil => .ok none
  | .number a, .number b => .ok (a.numCompare? b)
  | .string a, .string b => .ok (some (compare a b))
  | v, w =>
    if hasOrder v then
      if hasOrder w then .error (.type (.incomparable name v w))
      else w.unexpected name "numbers or strings"
    else v.unexpected name "numbers or strings"

/-- Whether a test holds of the order of all neighbours. The first pair on which it fails decides. -/
def ascends (name : String) (test : Ordering → Bool) : Value → List Value → Checked Bool
  | _, [] => .ok true
  | v, w :: rest => do
    match ← order name v w with
    | some o => if test o then ascends name test w rest else return false
    | none => return false

/-- A comparison of one or more values. One value alone is compared with itself, so that it is
checked. -/
def compared (name : String) (test : Ordering → Bool) : Value → List Value → Checked Value
  | v, [] => do
    let _ ← order name v v
    return .bool true
  | v, rest => do
    let b ← ascends name test v rest
    return .bool b

/-- Whether all neighbours are equal. -/
def allEqual : Value → List Value → Bool
  | _, [] => true
  | v, w :: rest => v.equal w && allEqual w rest

/-! ## Signatures -/

/-- The arguments and the effect of each function. -/
def signature : NumberFn → Signature
  | .add => .any fun args => sum args
  | .sub => .any fun args => difference args
  | .mul => .any fun args => product args
  | .div => .oneOrMore fun v rest => quotient v rest
  | .max => .oneOrMore fun v rest => extreme "max" .gt v rest
  | .min => .oneOrMore fun v rest => extreme "min" .lt v rest
  | .inc => .one fun v => unary "inc" (Number.add · (.int 1)) v
  | .dec => .one fun v => unary "dec" (Number.sub · (.int 1)) v
  | .abs => .one fun v => unary "abs" Number.abs v
  | .mod => .two fun v w => binary "mod" Number.mod v w
  | .rem => .two fun v w => binary "rem" Number.rem v w
  | .quot => .two fun v w => binary "quot" Number.quot v w
  | .pow => .two fun v w => power v w
  | .sqrt => .one fun v => onFloat "sqrt" .sqrt v
  | .round => .one fun v => rounded "round" .nearest v
  | .floor => .one fun v => rounded "floor" .down v
  | .ceil => .one fun v => rounded "ceil" .up v
  | .double => .one fun v => onFloat "double" id v
  | .int => .one fun v => integer v
  | .eq => .oneOrMore fun v rest => return .bool (allEqual v rest)
  | .ne => .oneOrMore fun v rest => return .bool (!allEqual v rest)
  | .lt => .oneOrMore fun v rest => compared "<" (·.isLT) v rest
  | .gt => .oneOrMore fun v rest => compared ">" (·.isGT) v rest
  | .le => .oneOrMore fun v rest => compared "<=" (·.isLE) v rest
  | .ge => .oneOrMore fun v rest => compared ">=" (·.isGE) v rest

end NumberFn

end ToolLisp
