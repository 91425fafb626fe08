import ToolLisp.Builtin.Argument
import ToolLisp.Value.Entries

/-!
# Combining items

Calling a function with all items of a collection, or combining items with it one after the other.
-/

namespace ToolLisp.Sequence

/-- Calls a function with some arguments and the items of a collection. -/
def spread (f v : Value) (rest : List Value) : Action Value := do
  let f ← f.asCallable "apply"
  let args := v :: rest
  let items ← (args.getLastD .nil).items "apply"
  Action.invoke f (args.dropLast ++ items)

/-- Combines items one after the other. -/
def reduceFrom (f acc : Value) : List Value → Action Value
  | [] => .done acc
  | x :: rest => .call f [acc, x] fun acc => reduceFrom f acc rest

/-- Combines the items of a collection, from the first one or from a start on. -/
def reduced (f v : Value) (w : Option Value) : Action Value := do
  let f ← f.asCallable "reduce"
  match w with
  | some coll =>
    let items ← coll.items "reduce"
    reduceFrom f v items
  | none =>
    match ← v.items "reduce" with
    | [] => Action.invoke f []
    | x :: rest => reduceFrom f x rest

/-! ## Groups -/

/-- Adds an item to the group of a key. -/
def addToGroup (groups : Entries) (key item : Value) : Entries :=
  match Entries.get? groups key with
  | some (.vector members) => Entries.insert key (.vector (members ++ [item])) groups
  | _ => Entries.insert key (.vector [item]) groups

/-- Groups items by the result of a function. -/
def groupFrom (f : Value) (groups : Entries) : List Value → Action Value
  | [] => .done (.map groups)
  | x :: rest => .call f [x] fun key => groupFrom f (addToGroup groups key x) rest

/-- Counts an item. -/
def addToCount (counts : Entries) (item : Value) : Entries :=
  match Entries.get? counts item with
  | some (.number (.int n)) => Entries.insert item (.number (.int (n + 1))) counts
  | _ => Entries.insert item (.number (.int 1)) counts

/-- How often each item of a collection occurs. -/
def frequencies (v : Value) : Checked Value := do
  let items ← v.items "frequencies"
  return .map (items.foldl addToCount [])

/-! ## Sums and means -/

/-- The numbers among the items; `nil` is left out, and nothing else may stand there. -/
def numbers (name : String) (items : List Value) : Checked (List Number) :=
  (items.filter fun v => !v.isNil).mapM (·.asNumber name)

/-- The sum of numbers. -/
def total (ns : List Number) : Checked Number :=
  match ns.foldlM Number.add (.int 0) with
  | .ok n => .ok n
  | .error e => .error (.arithmetic e)

/-- The sum of the items. -/
def sumOf (name : String) (items : List Value) : Checked Value := do
  let ns ← numbers name items
  let n ← total ns
  return .number n

/-- The mean of the items; without any it is `nil`. -/
def meanOf (name : String) (items : List Value) : Checked Value := do
  match ← numbers name items with
  | [] => return .nil
  | ns =>
    let n ← total ns
    return .number (n.div (.int (clampInt64 ns.length)))

/-- A summary of the items of a collection. -/
def summary (name : String) (f : String → List Value → Checked Value) (v : Value) :
    Checked Value := do
  let items ← v.items name
  f name items

/-- A summary of the results of a function on the items of a collection. -/
def summaryBy (name : String) (g : String → List Value → Checked Value) (f v : Value) :
    Action Value := do
  let f ← f.asCallable name
  let items ← v.items name
  let results ← Action.results f items
  g name results

end ToolLisp.Sequence
