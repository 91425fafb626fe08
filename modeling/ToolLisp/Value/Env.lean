import ToolLisp.Value.Basic

/-!
# Names and bindings

A finite map from names is a list of entries in the order of their names, each name once. Definitions are
such maps. The bindings that an expression sees are a list in which the last binding stands first: adding
a binding hides an older one of the same name and changes nothing for those who hold the older bindings.
-/

namespace ToolLisp

/-! ## Maps from names -/

/-- Entries with names, in the order of their names. -/
abbrev NameMap (α : Type) := List (String × α)

namespace NameMap

variable {α : Type}

/-- The entry of a name. -/
def get? (m : NameMap α) (name : String) : Option α :=
  (m.find? (·.1 == name)).map (·.2)

/-- Whether a name has an entry. -/
def contains (m : NameMap α) (name : String) : Bool :=
  m.any (·.1 == name)

/-- Sets the entry of a name. -/
def insert (name : String) (a : α) : NameMap α → NameMap α
  | [] => [(name, a)]
  | (other, b) :: rest =>
    match compare name other with
    | .lt => (name, a) :: (other, b) :: rest
    | .eq => (name, a) :: rest
    | .gt => (other, b) :: insert name a rest

/-- The map with the entries in a list, in which later entries win. -/
def ofList (entries : List (String × α)) : NameMap α :=
  entries.foldl (fun m e => insert e.1 e.2 m) []

end NameMap

/-! ## Bindings -/

namespace Env

/-- The value of a name. -/
def lookup? (env : Env) (name : String) : Option Value :=
  (env.find? (·.1 == name)).map (·.2)

/-- Adds a binding. -/
def bind (env : Env) (name : String) (v : Value) : Env :=
  (name, v) :: env

/-- The names that are bound, each of them once. -/
def names (env : Env) : List String :=
  (env.map (·.1)).eraseDups

/-- A description of bindings, for people. -/
def describe (env : Env) : String :=
  "<environment with " ++ toString (names env).length ++ " bindings>"

/-- Whether a name is bound. -/
def contains (env : Env) (name : String) : Bool :=
  env.any (·.1 == name)

/-- The bindings of all builtin functions, with which every program starts. -/
def initial : Env :=
  Builtin.all.map fun f => (f.name, .builtin f)

end Env

end ToolLisp
