import ToolLisp.Builtin.Argument

/-!
# Arithmetic progressions

A progression is a list of numbers at equal distances. It is measured before it is built, so that a
progression that is too long costs nothing.
-/

namespace ToolLisp.Sequence

/-- The number of elements that an arithmetic progression may have. -/
def rangeLimit : Nat := 1000000

/-- The number of elements of an arithmetic progression, if it is finite. Integers are counted
exactly. -/
def rangeLength : Number → Number → Number → Option Nat
  | .int first, .int last, .int step =>
    let distance := if 0 < step.toInt then last.toInt - first.toInt else first.toInt - last.toInt
    let stride := step.toInt.natAbs
    some ((distance.toNat + stride - 1) / stride)
  | first, last, step =>
    let span := ((last.toFloat.sub first.toFloat).div step.toFloat).roundWith .up
    match span.truncate? with
    | some n => some n.toNat
    -- a span that is no integer: endless if it is greater than zero, and empty otherwise
    | none => if span.compare? .zero == some .gt then none else some 0

/-- The elements of an arithmetic progression, behind those that are done. -/
def rangeFrom (step current : Number) (done : List Value) :
    Nat → Except ArithmeticError (List Value)
  | 0 => .ok done.reverse
  -- the number behind the last one is not computed, so it cannot overflow
  | 1 => .ok (.number current :: done).reverse
  | n + 2 =>
    match current.add step with
    | .ok next => rangeFrom step next (.number current :: done) (n + 1)
    | .error e => .error e

/-- An arithmetic progression. -/
def progression (first last step : Number) : Except ArithmeticError (List Value) :=
  if step.isZero || step.isNaN then .error (.zeroStep "range")
  else
    match rangeLength first last step with
    | none => .error (.tooLong "range" rangeLimit)
    | some n =>
      if rangeLimit < n then .error (.tooLong "range" rangeLimit)
      else rangeFrom step first [] n

/-- An arithmetic progression up to a bound, between two bounds, or with a step between them. -/
def range (v : Value) (w x : Option Value) : Checked Value := do
  let a ← v.asNumber "range"
  let b ← w.mapM (·.asNumber "range")
  let c ← x.mapM (·.asNumber "range")
  let result :=
    match b with
    | none => progression (.int 0) a (.int 1)
    | some b => progression a b (c.getD (.int 1))
  match result with
  | .ok items => return .vector items
  | .error e => throw (.arithmetic e)

end ToolLisp.Sequence
