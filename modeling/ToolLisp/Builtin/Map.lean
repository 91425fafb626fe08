import ToolLisp.Builtin.Argument
import ToolLisp.Builtin.Signature
import ToolLisp.Form.Basic
import ToolLisp.Value.Entries

/-!
# Functions on maps

Reading and writing parts of maps and vectors. Reading finds a key in either spelling. Functions that
change what is there write to the spelling that the map has already; `assoc` writes to the spelling
that it is given.
-/

namespace ToolLisp

namespace MapFn

/-! ## Reading -/

/-- The value at a key, or a default. -/
def valueAt (v k : Value) (default : Option Value) : Value :=
  (v.get? k).getD (default.getD .nil)

/-- The value at a path, or a default. -/
def valueIn (v path : Value) (default : Option Value) : Checked Value := do
  let path ← path.items "get-in"
  return (v.getIn? path).getD (default.getD .nil)

/-- A list made from the entries of a map. -/
def ofEntries (name : String) (f : Value × Value → Value) (v : Value) : Checked Value := do
  let m ← v.asMap name
  return .vector (m.map f)

/-- Adds the entry at a key of one map to another, if there is one. -/
def copyEntry (m picked : Entries) (k : Value) : Entries :=
  let k := Entries.resolve m k
  match Entries.get? m k with
  | some v => Entries.insert k v picked
  | none => picked

/-- The entries at given keys. -/
def selected (v ks : Value) : Checked Value := do
  let m ← v.asMap "select-keys"
  let ks ← ks.items "select-keys"
  return .map (ks.foldl (copyEntry m) [])

/-! ## Writing -/

/-- The error of an index outside of a vector. -/
def badIndex {α : Type} (name : String) (k : Value) (items : List Value) : Checked α :=
  .error (.type (.index name k items.length))

/-- Sets one part of a map or vector. A vector can grow by one item at its end, and `nil` becomes a
map. -/
def setPart (name : String) (coll k v : Value) : Checked Value :=
  match coll, k with
  | .map m, k => .ok (.map (Entries.insert k v m))
  | .nil, k => .ok (.map [(k, v)])
  | .vector items, .number (.int i) =>
    if 0 ≤ i.toInt ∧ i.toInt.toNat < items.length then
      .ok (.vector (items.set i.toInt.toNat v))
    else if i.toInt = items.length then .ok (.vector (items ++ [v]))
    else badIndex name k items
  | .vector items, k => badIndex name k items
  | coll, _ => coll.unexpected name "a map or vector"

/-- The key under which a collection is written: the spelling that a map has already. -/
def writtenKey : Value → Value → Value
  | .map m, k => Entries.resolve m k
  | _, k => k

/-- Sets parts of a collection, one after the other. -/
def setParts (coll k v : Value) (rest : List Value) : Checked Value :=
  if rest.length % 2 = 0 then
    (Form.pairs (k :: v :: rest)).foldlM (fun coll (k, v) => setPart "assoc" coll k v) coll
  else .error (.type .keyWithoutValue)

/-- Sets the part at the end of a path. What is missing on the way becomes a map. -/
def setIn (name : String) (coll : Value) : List Value → Value → Checked Value
  | [], v => .ok v
  | k :: path, v => do
    let part ← setIn name ((coll.get? k).getD .nil) path v
    setPart name coll (writtenKey coll k) part

/-- Sets the part of a collection at a path. -/
def setAtPath (coll path v : Value) : Checked Value := do
  let path ← path.asVector "assoc-in"
  setIn "assoc-in" coll path v

/-- Applies a function to the part at a key. -/
def changePart (coll k f : Value) (extra : List Value) : Action Value := do
  let f ← f.asCallable "update"
  let v ← Action.invoke f ((coll.get? k).getD .nil :: extra)
  setPart "update" coll (writtenKey coll k) v

/-- Applies a function to the part at the end of a path. -/
def changeIn (f : Value) (extra : List Value) (coll : Value) : List Value → Action Value
  | [] => Action.invoke f (coll :: extra)
  | k :: path => do
    let part ← changeIn f extra ((coll.get? k).getD .nil) path
    setPart "update-in" coll (writtenKey coll k) part

/-- Applies a function to the part of a collection at a path. -/
def changeAtPath (coll path f : Value) (extra : List Value) : Action Value := do
  let path ← path.asVector "update-in"
  let f ← f.asCallable "update-in"
  changeIn f extra coll path

/-- Removes keys from a map. -/
def removeKeys (v : Value) (ks : List Value) : Checked Value :=
  match v with
  | .nil => .ok .nil
  | v => do
    let m ← v.asMap "dissoc"
    return .map (ks.foldl (fun m k => Entries.erase (Entries.resolve m k) m) m)

/-- Adds the entries of a map to those that are there already. -/
def mergeInto (merged : Option Entries) : Value → Checked (Option Entries)
  | .nil => .ok merged
  | .map m => .ok (some (Entries.insertAll (merged.getD []) m))
  | v => v.unexpected "merge" "a map"

/-- The entries of several maps, of which later ones win. Without any map it is `nil`. -/
def merged (args : List Value) : Checked Value := do
  match ← args.foldlM mergeInto none with
  | some m => return .map m
  | none => return .nil

/-! ## Building -/

/-- The map of keys and values in the same order. -/
def zipped (ks vs : Value) : Checked Value := do
  let ks ← ks.items "zipmap"
  let vs ← vs.items "zipmap"
  return .map (Entries.ofList (ks.zip vs))

/-- The map of alternating keys and values. -/
def ofAlternating (args : List Value) : Checked Value :=
  if args.length % 2 = 0 then .ok (.map (Entries.ofList (Form.pairs args)))
  else .error (.type .oddArguments)

/-! ## Signatures -/

/-- The arguments and the effect of each function. -/
def signature : MapFn → Signature
  | .get => .twoOrThree fun v k default => return valueAt v k default
  | .getIn => .twoOrThree fun v path default => valueIn v path default
  | .contains => .two fun v k => return .bool (v.hasKey k)
  | .keys => .one fun v => ofEntries "keys" (·.1) v
  | .vals => .one fun v => ofEntries "vals" (·.2) v
  | .selectKeys => .two fun v ks => selected v ks
  | .assoc => .threeOrMore fun coll k v rest => setParts coll k v rest
  | .assocIn => .three fun coll path v => setAtPath coll path v
  | .update => .threeOrMore changePart
  | .updateIn => .threeOrMore changeAtPath
  | .dissoc => .oneOrMore fun v ks => removeKeys v ks
  | .merge => .any fun args => merged args
  | .zipmap => .two fun ks vs => zipped ks vs
  | .hashMap => .any fun args => ofAlternating args

end MapFn

end ToolLisp
