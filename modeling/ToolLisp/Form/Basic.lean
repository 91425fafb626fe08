import ToolLisp.Number.Basic
import ToolLisp.Text.Quoted

/-!
# Forms

A form is a piece of source text without its layout: an atom, or forms in brackets. Forms are printed
so that the reader gives them back.
-/

namespace ToolLisp

/-- A piece of source text without its layout. -/
inductive Form where
  /-- The literal `nil`. -/
  | nil
  /-- A truth value. -/
  | bool (b : Bool)
  /-- A number. -/
  | number (n : Number)
  /-- A string. -/
  | string (s : String)
  /-- A keyword. -/
  | keyword (name : String)
  /-- A symbol. -/
  | symbol (name : String)
  /-- A symbol that is qualified by a namespace. -/
  | qualified (ns name : String)
  /-- Forms in round brackets. -/
  | list (items : List Form)
  /-- Forms in square brackets. -/
  | vector (items : List Form)
  /-- Pairs of forms in curly brackets. -/
  | map (entries : List (Form × Form))

namespace Form

instance : Inhabited Form := ⟨.nil⟩

/-- The name of a symbol. -/
def symbol? : Form → Option String
  | .symbol name => some name
  | _ => none

/-- The name of a keyword. -/
def keyword? : Form → Option String
  | .keyword name => some name
  | _ => none

/-- The pairs of consecutive elements; a last element without a partner is left out. -/
def pairs {α : Type} : List α → List (α × α)
  | a :: b :: rest => (a, b) :: pairs rest
  | _ => []

/-! ## Equality -/

mutual

/-- Whether two forms are equal. Numbers are compared within their kind, so the two zeros are equal and so
are all NaNs. -/
def equal : Form → Form → Bool
  | .nil, .nil => true
  | .bool a, .bool b => a == b
  | .number a, .number b => a.sameKindEq b
  | .string a, .string b => a == b
  | .keyword a, .keyword b => a == b
  | .symbol a, .symbol b => a == b
  | .qualified ns a, .qualified ns' b => ns == ns' && a == b
  | .list as, .list bs => equalAll as bs
  | .vector as, .vector bs => equalAll as bs
  | .map as, .map bs => equalPairs as bs
  | _, _ => false

/-- Whether two lists have equal forms. -/
def equalAll : List Form → List Form → Bool
  | [], [] => true
  | f :: fs, g :: gs => equal f g && equalAll fs gs
  | _, _ => false

/-- Whether two lists have equal pairs of forms. -/
def equalPairs : List (Form × Form) → List (Form × Form) → Bool
  | [], [] => true
  | (k, v) :: fs, (l, w) :: gs => equal k l && equal v w && equalPairs fs gs
  | _, _ => false

end

/-! ## Size -/

mutual

/-- The number of forms in a form, itself among them. -/
def size : Form → Nat
  | .list items => sizeAll items + 1
  | .vector items => sizeAll items + 1
  | .map entries => sizePairs entries + 1
  | _ => 1

/-- The number of forms in a list of forms. -/
def sizeAll : List Form → Nat
  | [] => 0
  | f :: rest => size f + sizeAll rest

/-- The number of forms in a list of pairs of forms. -/
def sizePairs : List (Form × Form) → Nat
  | [] => 0
  | (k, v) :: rest => size k + size v + sizePairs rest

end

/-! ## Printing -/

mutual

/-- The characters of a form. -/
def text : Form → List Char
  | .nil => "nil".toList
  | .bool true => "true".toList
  | .bool false => "false".toList
  | .number n => n.text
  | .string s => Text.quoted s.toList
  | .keyword name => ':' :: name.toList
  | .symbol name => name.toList
  | .qualified ns name => ns.toList ++ '/' :: name.toList
  | .list items => '(' :: (textAll items ++ [')'])
  | .vector items => '[' :: (textAll items ++ [']'])
  | .map entries => '\x7b' :: (textPairs entries ++ ['\x7d'])

/-- The characters of forms with a blank between them. -/
def textAll : List Form → List Char
  | [] => []
  | [f] => text f
  | f :: rest => text f ++ ' ' :: textAll rest

/-- The characters of pairs of forms with a comma and a blank between them. -/
def textPairs : List (Form × Form) → List Char
  | [] => []
  | [(k, v)] => text k ++ ' ' :: text v
  | (k, v) :: rest => text k ++ ' ' :: (text v ++ ',' :: ' ' :: textPairs rest)

end

/-- The form as a string. -/
def render (f : Form) : String :=
  String.ofList f.text

end Form

end ToolLisp
