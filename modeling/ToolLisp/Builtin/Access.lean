import ToolLisp.Builtin.Argument
import ToolLisp.Value.Entries

/-!
# Items of collections

How many items a collection has, taking items from its beginning, its end or an index, and adding items to
it. What is added to a map is an entry or another map.
-/

namespace ToolLisp.Sequence

/-! ## Size and access -/

/-- The value, or `nil` if there is none. -/
def orNil (v : Option Value) : Value :=
  v.getD .nil

/-- The number of items. -/
def itemCount (v : Value) : Checked Value := do
  let n ← v.size "count"
  return .ofNat n

/-- Whether there are no items. -/
def isEmpty (v : Value) : Checked Value := do
  let n ← v.size "empty?"
  return .bool (n == 0)

/-- The collection itself, or `nil` if it is empty. -/
def nonEmpty (v : Value) : Checked Value := do
  let n ← v.size "not-empty"
  return if n = 0 then .nil else v

/-- The item at a place. -/
def itemAt (name : String) (place : List Value → Option Value) (v : Value) : Checked Value := do
  let items ← v.items name
  return orNil (place items)

/-- All items but the first. -/
def tail (v : Value) : Checked Value := do
  let items ← v.items "rest"
  return .vector (items.drop 1)

/-- All items but the first, or `nil` if none are left. -/
def nextItems (v : Value) : Checked Value := do
  let items ← v.items "next"
  return if items.length ≤ 1 then .nil else .vector (items.drop 1)

/-- The item at an index, or the default. -/
def nthItem (v i : Value) (default : Option Value) : Checked Value := do
  let items ← v.items "nth"
  let i ← i.asInt "nth"
  let found := if 0 ≤ i.toInt then items[i.toInt.toNat]? else none
  return found.getD (orNil default)

/-- A part of a collection that is cut at a count. -/
def cut (name : String) (f : Nat → List Value → List Value) (n v : Value) : Checked Value := do
  let n ← n.asIndex name
  let items ← v.items name
  return .vector (f n items)

/-- The last items of a list. -/
def lastItems (n : Nat) (items : List Value) : List Value :=
  items.drop (items.length - n)

/-- All but the last items of a list. -/
def butLastItems (n : Nat) (items : List Value) : List Value :=
  items.take (items.length - n)

/-- One field of each item. -/
def fieldOfEach (key v : Value) : Checked Value := do
  let items ← v.items "pluck"
  return .vector (items.map fun x => orNil (x.get? key))

/-- All items but the last. -/
def butLast (v : Value) : Checked Value := do
  let items ← v.items "drop-last"
  return .vector (butLastItems 1 items)

/-! ## Adding items -/

/-- Adds an entry to a map: another map, or a pair of a key and a value. -/
def addEntry (name : String) (m : Entries) : Value → Checked Entries
  | .map other => .ok (Entries.insertAll m other)
  | .vector [k, v] => .ok (Entries.insert k v m)
  | v => v.unexpected name "a [key value] pair"

/-- A collection with more items. -/
def conjoin (v : Value) (rest : List Value) : Checked Value :=
  match v with
  | .map m => do
    let m ← rest.foldlM (addEntry "conj") m
    return .map m
  | .vector items => .ok (.vector (items ++ rest))
  | .nil => .ok (.vector rest)
  | v => v.unexpected "conj" "a vector or map"

/-- A collection with the items of another. -/
def pour (v w : Value) : Checked Value := do
  let items ← w.items "into"
  match v with
  | .map m =>
    let m ← items.foldlM (addEntry "into") m
    return .map m
  | .vector old => return .vector (old ++ items)
  | .nil => return .vector items
  | v => v.unexpected "into" "a vector or map"

end ToolLisp.Sequence
