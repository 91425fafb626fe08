import ToolLisp.Builtin.Basic
import ToolLisp.Expr.Basic
import ToolLisp.Text.Quoted

/-!
# Values

What expressions evaluate to. A map is a list of entries in the order of their keys. A function value
carries the bindings that were visible where it was made, and a stamp of its own, so that a function
equals itself only.
-/

namespace ToolLisp

/-- What an expression evaluates to. -/
inductive Value where
  /-- The value that stands for nothing. -/
  | nil
  /-- A truth value. -/
  | bool (b : Bool)
  /-- A number. -/
  | number (n : Number)
  /-- A string. -/
  | string (s : String)
  /-- A keyword. -/
  | keyword (name : String)
  /-- A vector. -/
  | vector (items : List Value)
  /-- A map, with its entries in the order of their keys. -/
  | map (entries : List (Value × Value))
  /-- A function with the bindings that its body sees. -/
  | closure (stamp : Nat) (params : List Pattern) (body : Expr) (env : List (String × Value))
  /-- A predicate on rows that compares one field with an operand. -/
  | rowTest (stamp : Nat) (path : List Literal) (op : RowOp) (operand : Value)
  /-- A predicate on rows that combines others. -/
  | combined (stamp : Nat) (c : Combinator) (tests : List Value)
  /-- A builtin function. -/
  | builtin (f : Builtin)
  /-- A tool of the host. -/
  | tool (name : String)

/-- The entries of a map. -/
abbrev Entries := List (Value × Value)

/-- Bindings of names, the innermost first. -/
abbrev Env := List (String × Value)

/-- The value of a literal. -/
def Literal.value : Literal → Value
  | .nil => .nil
  | .bool b => .bool b
  | .number n => .number n
  | .string s => .string s
  | .keyword name => .keyword name
  | .emptyVector => .vector []

namespace Value

instance : Inhabited Value := ⟨.nil⟩

/-- An integer as a value; the integers of counts and indices fit. -/
def ofNat (n : Nat) : Value :=
  .number (.int (clampInt64 n))

/-- Whether a value counts as true: all do but `nil` and `false`. -/
def truthy : Value → Bool
  | .nil => false
  | .bool b => b
  | _ => true

/-- Whether the value is `nil`. -/
def isNil : Value → Bool
  | .nil => true
  | _ => false

/-- Whether a value can be called. -/
def callable : Value → Bool
  | .keyword _ => true
  | .closure .. => true
  | .rowTest .. => true
  | .combined .. => true
  | .builtin _ => true
  | .tool _ => true
  | _ => false

/-- The number that a value is. -/
def number? : Value → Option Number
  | .number n => some n
  | _ => none

/-- The string that a value is. -/
def string? : Value → Option String
  | .string s => some s
  | _ => none

/-- The name of a value's type. -/
def typeName : Value → String
  | .nil => "nil"
  | .bool _ => "boolean"
  | .number (.int _) => "integer"
  | .number (.float _) => "float"
  | .string _ => "string"
  | .keyword _ => "keyword"
  | .vector _ => "vector"
  | .map _ => "map"
  | .closure .. => "function"
  | .rowTest .. => "function"
  | .combined .. => "function"
  | .builtin _ => "builtin"
  | .tool _ => "tool"

/-! ## Texts -/

/-- The text of a function that takes so many arguments. -/
def functionText (arity : Nat) : List Char :=
  "#<fn/".toList ++ Decimal.intText arity ++ ['>']

mutual

/-- The characters of a value. Data are written so that the reader gives them back. -/
def text : Value → List Char
  | .nil => "nil".toList
  | .bool true => "true".toList
  | .bool false => "false".toList
  | .number n => n.text
  | .string s => Text.quoted s.toList
  | .keyword name => ':' :: name.toList
  | .vector items => '[' :: (textAll items ++ [']'])
  | .map entries => '\x7b' :: (textEntries entries ++ ['\x7d'])
  | .closure _ params _ _ => functionText params.length
  | .rowTest .. => functionText 1
  | .combined .. => functionText 1
  | .builtin f => "#<builtin ".toList ++ f.name.toList ++ ['>']
  | .tool name => "#<tool ".toList ++ name.toList ++ ['>']

/-- The characters of values with a blank between them. -/
def textAll : List Value → List Char
  | [] => []
  | [v] => text v
  | v :: rest => text v ++ ' ' :: textAll rest

/-- The characters of entries with a comma and a blank between them. -/
def textEntries : List (Value × Value) → List Char
  | [] => []
  | [(k, v)] => text k ++ ' ' :: text v
  | (k, v) :: rest => text k ++ ' ' :: (text v ++ ',' :: ' ' :: textEntries rest)

end

/-- The value as a string. -/
def render (v : Value) : String :=
  String.ofList v.text

/-- The characters of a value inside another text: a string is not quoted, and `nil` is empty. -/
def plainText : Value → List Char
  | .nil => []
  | .string s => s.toList
  | v => v.text

/-- The plain text of a value as a string. -/
def renderPlain (v : Value) : String :=
  String.ofList v.plainText

end Value

end ToolLisp
