import ToolLisp.Value.Env
import ToolLisp.Value.Entries

/-!
# JSON data

Hosts and programs exchange data as JSON. The keys of an object become keywords. On the way back a
keyword is the string of its name, and a double that is not finite is a string, because JSON has no
such numbers.
-/

namespace ToolLisp

/-- JSON data. -/
inductive Json where
  /-- The null value. -/
  | null
  /-- A truth value. -/
  | bool (b : Bool)
  /-- A number. -/
  | number (n : Number)
  /-- A string. -/
  | string (s : String)
  /-- An array. -/
  | array (items : List Json)
  /-- An object, whose members stand in the order of their names. -/
  | object (members : List (String × Json))

instance : Inhabited Json := ⟨.null⟩

namespace Value

mutual

/-- The value of JSON data. -/
def ofJson : Json → Value
  | .null => .nil
  | .bool b => .bool b
  | .number n => .number n
  | .string s => .string s
  | .array items => .vector (ofJsonAll items)
  | .object members => .map (Entries.ofList (ofJsonMembers members))

/-- The values of several data. -/
def ofJsonAll : List Json → List Value
  | [] => []
  | j :: rest => ofJson j :: ofJsonAll rest

/-- The entries of the members of an object. -/
def ofJsonMembers : List (String × Json) → List (Value × Value)
  | [] => []
  | (name, j) :: rest => (.keyword name, ofJson j) :: ofJsonMembers rest

end

/-- The name of the member that an entry with this key becomes. -/
def memberName : Value → String
  | .keyword name => name
  | .string s => s
  | v => v.render

/-- A number as JSON data. -/
def numberToJson : Number → Json
  | .int n => .number (.int n)
  | .float x => if x.isFinite then .number (.float x) else .string (Number.float x).render

mutual

/-- The JSON data of a value. If two keys have the same name, the later one wins. -/
def toJson : Value → Json
  | .nil => .null
  | .bool b => .bool b
  | .number n => numberToJson n
  | .string s => .string s
  | .keyword name => .string name
  | .vector items => .array (toJsonAll items)
  | .map entries => .object (NameMap.ofList (toJsonMembers entries))
  | v => .string v.render

/-- The data of several values. -/
def toJsonAll : List Value → List Json
  | [] => []
  | v :: rest => toJson v :: toJsonAll rest

/-- The members that entries become. -/
def toJsonMembers : List (Value × Value) → List (String × Json)
  | [] => []
  | (k, v) :: rest => (memberName k, toJson v) :: toJsonMembers rest

end

end Value

/-- The entries of an object; what is no object has none. -/
def Entries.ofJson (j : Json) : Entries :=
  match Value.ofJson j with
  | .map m => m
  | _ => []

end ToolLisp
