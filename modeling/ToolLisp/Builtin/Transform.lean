import ToolLisp.Builtin.Argument
import ToolLisp.Value.Order

/-!
# Tests and transformation of items

Functions that call a test on the items of a collection, from left to right, and no more often than the
result needs; and functions that make a vector from the items of collections.
-/

namespace ToolLisp.Sequence

/-! ## Tests -/

/-- A function that goes through the items of a collection with something to call. -/
def through (name : String) (go : Value → List Value → Action Value) (f v : Value) :
    Action Value := do
  let f ← f.asCallable name
  let items ← v.items name
  go f items

/-- The first items that pass a test, behind those that are done. -/
def takeWhileFrom (f : Value) (done : List Value) : List Value → Action Value
  | [] => .done (.vector done.reverse)
  | x :: rest => .call f [x] fun r =>
    if r.truthy then takeWhileFrom f (x :: done) rest else .done (.vector done.reverse)

/-- The items from the first that fails a test. -/
def dropWhileFrom (f : Value) : List Value → Action Value
  | [] => .done (.vector [])
  | x :: rest => .call f [x] fun r =>
    if r.truthy then dropWhileFrom f rest else .done (.vector (x :: rest))

/-- The items on which a test has the wanted outcome, behind those that are done. -/
def selectFrom (wanted : Bool) (f : Value) (done : List Value) : List Value → Action Value
  | [] => .done (.vector done.reverse)
  | x :: rest => .call f [x] fun r =>
    selectFrom wanted f (if r.truthy == wanted then x :: done else done) rest

/-- The first item that passes a test. -/
def findFrom (f : Value) : List Value → Action Value
  | [] => .done .nil
  | x :: rest => .call f [x] fun r => if r.truthy then .done x else findFrom f rest

/-- The first truthy result. -/
def someFrom (f : Value) : List Value → Action Value
  | [] => .done .nil
  | x :: rest => .call f [x] fun r => if r.truthy then .done r else someFrom f rest

/-- Whether a test has the wanted outcome on all items. -/
def allFrom (wanted : Bool) (f : Value) : List Value → Action Value
  | [] => .done (.bool true)
  | x :: rest => .call f [x] fun r =>
    if r.truthy == wanted then allFrom wanted f rest else .done (.bool false)

/-! ## Transformation -/

/-- The columns of several lists, as long as all of them have items. -/
def columns : List (List Value) → List (List Value)
  | [] => []
  | [items] => items.map ([·])
  | items :: rest => List.zipWith (· :: ·) items (columns rest)

/-- The results of a function on the items of one or more collections. -/
def mapItems (f v : Value) (rest : List Value) : Action Value := do
  let f ← f.asCallable "map"
  let lists ← (v :: rest).mapM (·.items "map")
  let results ← Action.collect f [] (columns lists)
  return .vector results

/-- The results of a function on each index and item. -/
def mapWithIndex (f : Value) (items : List Value) : Action Value := do
  let results ← Action.collect f [] (items.zipIdx.map fun (x, i) => [.ofNat i, x])
  return .vector results

/-- The results that are not `nil`. -/
def keepResults (f : Value) (items : List Value) : Action Value := do
  let results ← Action.results f items
  return .vector (results.filter fun r => !r.isNil)

/-- The items that are not the same as an earlier one. -/
def distinctFrom (done : List Value) : List Value → List Value
  | [] => done.reverse
  | x :: rest => distinctFrom (if done.any x.same then done else x :: done) rest

/-- A function of the items of a collection. -/
def onItems (name : String) (f : List Value → List Value) (v : Value) : Checked Value := do
  let items ← v.items name
  return .vector (f items)

/-- The items of several collections. -/
def concatenated (args : List Value) : Checked Value := do
  let lists ← args.mapM (·.items "concat")
  return .vector lists.flatten

mutual

/-- How many steps it takes to flatten a value. -/
def flattenSteps : Value → Nat
  | .vector items => flattenStepsAll items + 2
  | _ => 1

/-- How many steps it takes to flatten several values. -/
def flattenStepsAll : List Value → Nat
  | [] => 0
  | v :: rest => flattenSteps v + flattenStepsAll rest

end

/-- How many steps it takes to flatten what is pending. -/
def pendingSteps : List (List Value) → Nat
  | [] => 0
  | items :: rest => flattenStepsAll items + 1 + pendingSteps rest

/-- A value is flattened in one step or more. -/
theorem flattenSteps_pos (v : Value) : 0 < flattenSteps v := by
  cases v <;> simp [flattenSteps]

/-- Flattens the vectors that are pending, the innermost first, behind the items that are done. -/
def flattenFrom (done : List Value) : List (List Value) → List Value
  | [] => done.reverse
  | [] :: pending => flattenFrom done pending
  | (.vector inner :: items) :: pending => flattenFrom done (inner :: items :: pending)
  | (v :: items) :: pending => flattenFrom (v :: done) (items :: pending)
termination_by pending => pendingSteps pending
decreasing_by
  · simp [pendingSteps]
  · simp [pendingSteps, flattenStepsAll, flattenSteps]; omega
  · have := flattenSteps_pos v
    simp [pendingSteps, flattenStepsAll]; omega

/-- The items of nested vectors; what is no vector has none. -/
def flattened : Value → Value
  | .vector items => .vector (flattenFrom [] [items])
  | _ => .vector []

/-- The pairs of the items of two collections. -/
def zipped (v w : Value) : Checked Value := do
  let as ← v.items "zip"
  let bs ← w.items "zip"
  return .vector (List.zipWith (fun a b => .vector [a, b]) as bs)

end ToolLisp.Sequence
