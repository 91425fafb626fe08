import ToolLisp.Run.Host
import ToolLisp.Text.Quoted
import ToolLisp.Value.Json

/-!
# A registry of tools

A host that has its tools as functions can register them by name.
-/

namespace ToolLisp

/-- A tool: its answer to arguments, after earlier calls, the last of which comes first. -/
abbrev Tool := List ToolCall → Entries → Except String Value

/-- Tools with their names. -/
structure Registry where
  /-- The tools in the order of their names. -/
  tools : NameMap Tool

namespace Registry

/-- The registry without tools. -/
def empty : Registry := ⟨[]⟩

/-- Registers a tool, in place of one of the same name. -/
def insert (r : Registry) (name : String) (tool : Tool) : Registry :=
  ⟨NameMap.insert name tool r.tools⟩

/-- Registers a tool that works on JSON data. -/
def insertJson (r : Registry) (name : String) (tool : List ToolCall → Json → Except String Json) :
    Registry :=
  r.insert name fun calls args => (tool calls (Value.map args).toJson).map Value.ofJson

/-- The names of the tools in order. -/
def names (r : Registry) : List String :=
  r.tools.map (·.1)

/-- The number of tools. -/
def size (r : Registry) : Nat :=
  r.tools.length

/-- Whether there are no tools. -/
def isEmpty (r : Registry) : Bool :=
  r.tools.isEmpty

/-- The tools as a host offers them. -/
def toTools (r : Registry) : Tools where
  has name := NameMap.contains r.tools name
  answer calls name args :=
    match NameMap.get? r.tools name with
    | some tool => tool calls args
    | none => .error (Tools.missing name)

/-- A description of the registry, for people. -/
def describe (r : Registry) : String :=
  "Tools \x7b names: [" ++ ", ".intercalate (r.names.map Text.escaped) ++ "] \x7d"

end Registry

end ToolLisp
