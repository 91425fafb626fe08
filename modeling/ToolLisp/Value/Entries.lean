import ToolLisp.Value.Order

/-!
# Entries of maps and parts of values

The operations on the entries of a map. They look entries up by the order of values, and they keep the
entries in that order, as far as it is one. No key stands in a map twice, whatever the keys are.

A map has its values at its keys, in either spelling of a key, and a vector has its items at the whole
numbers below its length. Nothing else has parts.
-/

namespace ToolLisp

namespace Entries

/-- The value at a key. -/
def get? (m : Entries) (k : Value) : Option Value :=
  (m.find? fun e => k.same e.1).map (·.2)

/-- Whether there is a value at a key. -/
def contains (m : Entries) (k : Value) : Bool :=
  m.any fun e => k.same e.1

/-- Removes a key. -/
def erase (k : Value) (m : Entries) : Entries :=
  m.filter fun e => !k.same e.1

/-- Sets the value at a key. -/
def insert (k v : Value) : Entries → Entries
  | [] => [(k, v)]
  | (l, w) :: rest =>
    match k.compare l with
    -- among keys that are in order there is no second one to remove
    | .lt => (k, v) :: (l, w) :: erase k rest
    | .eq => (k, v) :: rest
    | .gt => (l, w) :: insert k v rest

/-- Sets the values of all entries in a list, one after the other. -/
def insertAll (m : Entries) (new : List (Value × Value)) : Entries :=
  new.foldl (fun m e => insert e.1 e.2 m) m

/-- The map with the entries in a list, in which later entries win. -/
def ofList (entries : List (Value × Value)) : Entries :=
  insertAll [] entries

/-! ## Keys of two spellings

A keyword and the string of its name are two spellings of one key. What is not found under one
spelling is looked for under the other. -/

/-- The other spelling of a key. The empty string has none. -/
def otherSpelling? : Value → Option Value
  | .keyword name => some (.string name)
  | .string s => if s = "" then none else some (.keyword s)
  | _ => none

/-- The value at a key in either spelling. -/
def find? (m : Entries) (k : Value) : Option Value :=
  match get? m k with
  | some v => some v
  | none => (otherSpelling? k).bind (get? m)

/-- The spelling of a key that a map uses, or the given one. -/
def resolve (m : Entries) (k : Value) : Value :=
  if contains m k then k
  else
    match otherSpelling? k with
    | some l => if contains m l then l else k
    | none => k

end Entries

/-! ## Parts of values -/

/-- The index that a number denotes: a double counts if it is whole. -/
def Number.index? (n : Number) : Option Nat :=
  let x := n.toFloat
  match x.truncate? with
  | some i => if x.isWhole && 0 ≤ i then some i.toNat else none
  | none => none

namespace Value

/-- The part of a value at a key. -/
def get? : Value → Value → Option Value
  | .map m, k => Entries.find? m k
  | .vector items, .number n => n.index?.bind fun i => items[i]?
  | _, _ => none

/-- Whether a value has a part at a key. -/
def hasKey : Value → Value → Bool
  | .map m, k => (Entries.find? m k).isSome
  | .vector items, .number n =>
    match n.index? with
    | some i => i < items.length
    | none => false
  | _, _ => false

/-- The part of a value at the end of a path of keys. -/
def getIn? : Value → List Value → Option Value
  | v, [] => some v
  | v, k :: path =>
    match v.get? k with
    | some w => getIn? w path
    | none => none

end Value

end ToolLisp
