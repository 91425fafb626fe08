import ToolLisp.Value.Basic

/-!
# Hosts

A host passes a context and a memory to a program, limits its runs, and offers tools. The limits keep a
program from running forever or from nesting calls without end. Tools are functions of the host that a
program can call by name. A tool takes one map of named arguments and returns a value or a reason why it
failed. It may answer differently from call to call, so its answer depends on the calls that were made
before.
-/

namespace ToolLisp

/-! ## Limits -/

/-- The limits of a run. -/
structure Limits where
  /-- How often one loop or call can be entered again. -/
  loop : Nat
  /-- How deeply calls can be nested. -/
  recursion : Nat
deriving DecidableEq

namespace Limits

/-- The limits of a run for which none are given. -/
def default : Limits := ⟨10000, 256⟩

instance : Inhabited Limits := ⟨default⟩

/-- The limits with another limit of loops. -/
def withLoop (l : Limits) (n : Nat) : Limits := { l with loop := n }

/-- The limits with another limit of nested calls. -/
def withRecursion (l : Limits) (n : Nat) : Limits := { l with recursion := n }

end Limits

/-! ## Tools -/

/-- A call of a tool. -/
structure ToolCall where
  /-- The name of the tool. -/
  name : String
  /-- The named arguments. -/
  args : Entries

/-- The tools that a host offers. -/
structure Tools where
  /-- Whether there is a tool of that name. -/
  has : String → Bool
  /-- The answer of a tool to its arguments, after earlier calls of this or other tools, the last of
  which comes first. -/
  answer : List ToolCall → String → Entries → Except String Value

namespace Tools

/-- The reason why a tool that does not exist fails. -/
def missing (name : String) : String :=
  "no tool named " ++ name

/-- No tools at all. -/
def none : Tools where
  has _ := false
  answer _ name _ := .error (missing name)

end Tools

/-- What stays the same during a run. -/
structure Host where
  /-- The context. -/
  context : Entries
  /-- The memory. -/
  memory : Entries
  /-- The limits. -/
  limits : Limits
  /-- The tools. -/
  tools : Tools

/-- The host that passes nothing to a program and has no tools. -/
def Host.bare : Host :=
  ⟨[], [], .default, .none⟩

end ToolLisp
