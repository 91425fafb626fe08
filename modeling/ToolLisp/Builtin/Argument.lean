import ToolLisp.Builtin.Action
import ToolLisp.Text.Cluster

/-!
# Arguments of builtin functions

Each function here takes an argument for what a builtin function expects it to be, and fails with the
name of that function otherwise. Where a collection is expected, `nil` is the empty one.
-/

namespace ToolLisp

namespace Value

/-- The error of a builtin function that got something else than it takes. -/
def unexpected {α : Type} (name what : String) (v : Value) : Checked α :=
  .error (.type (.expected name what v))

/-- The argument as a number. -/
def asNumber (name : String) : Value → Checked Number
  | .number n => .ok n
  | v => unexpected name "a number" v

/-- The argument as an integer. A double counts if it is whole; one that is too large becomes the
nearest integer. -/
def asInt (name : String) : Value → Checked Int64
  | .number (.int n) => .ok n
  | .number (.float x) =>
    match x.isWhole, x.truncate? with
    | true, some n => .ok (clampInt64 n)
    | _, _ => unexpected name "an integer" (.number (.float x))
  | v => unexpected name "an integer" v

/-- The argument as an index; a negative one counts as zero. -/
def asIndex (name : String) (v : Value) : Checked Nat :=
  (v.asInt name).map fun n => n.toInt.toNat

/-- The argument as a string. -/
def asString (name : String) : Value → Checked String
  | .string s => .ok s
  | v => unexpected name "a string" v

/-- The argument as a map. -/
def asMap (name : String) : Value → Checked Entries
  | .map m => .ok m
  | .nil => .ok []
  | v => unexpected name "a map" v

/-- The argument as a vector. -/
def asVector (name : String) : Value → Checked (List Value)
  | .vector items => .ok items
  | .nil => .ok []
  | v => unexpected name "a vector" v

/-- The argument as something that can be called. -/
def asCallable (name : String) (v : Value) : Checked Value :=
  if v.callable then .ok v else unexpected name "a function" v

/-- The items of a collection: the items of a vector, the entries of a map, the characters of a string
as a reader sees them. -/
def items (name : String) : Value → Checked (List Value)
  | .vector items => .ok items
  | .nil => .ok []
  | .map m => .ok (m.map fun e => .vector [e.1, e.2])
  | .string s => .ok ((Text.clusters s).map .string)
  | v => unexpected name "a collection" v

/-- The number of items of a collection. -/
def size (name : String) : Value → Checked Nat
  | .vector items => .ok items.length
  | .map m => .ok m.length
  | .string s => .ok (Text.clusters s).length
  | .nil => .ok 0
  | v => unexpected name "a collection" v

end Value

end ToolLisp
