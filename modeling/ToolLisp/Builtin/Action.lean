import ToolLisp.Run.Error

/-!
# Actions

What a builtin function does with its arguments. It can finish with a result, fail, or call a value
and go on with what the call returns. So an action is a tree whose inner nodes are calls. It says
nothing about how calls are made, and everything that holds of all actions is proved by one induction
on such trees.
-/

namespace ToolLisp

/-- A result, or an error. -/
abbrev Checked := Except EvalError

/-- What a builtin function does: it finishes, fails, or calls a value and goes on. -/
inductive Action (α : Type) where
  /-- The action finishes with a result. -/
  | done (a : α)
  /-- The action fails. -/
  | fail (e : EvalError)
  /-- The action calls a value and goes on with what the call returns. -/
  | call (f : Value) (args : List Value) (next : Value → Action α)

namespace Action

variable {α β : Type}

/-- One action after the other. -/
def bind : Action α → (α → Action β) → Action β
  | .done a, k => k a
  | .fail e, _ => .fail e
  | .call f args next, k => .call f args fun v => (next v).bind k

instance : Monad Action where
  pure := .done
  bind := Action.bind

/-- The action that only has a result, or fails. -/
def ofChecked : Checked α → Action α
  | .ok a => .done a
  | .error e => .fail e

instance : MonadLift Checked Action := ⟨Action.ofChecked⟩

/-- Calls a value. -/
def invoke (f : Value) (args : List Value) : Action Value :=
  .call f args .done

/-- Calls a value once for each list of arguments and collects the results behind those that are
there already, which stand in reverse. -/
def collect (f : Value) (results : List Value) : List (List Value) → Action (List Value)
  | [] => .done results.reverse
  | args :: rest => .call f args fun v => collect f (v :: results) rest

/-- The results of a function on each of several items. -/
def results (f : Value) (items : List Value) : Action (List Value) :=
  collect f [] (items.map ([·]))

end Action

end ToolLisp
