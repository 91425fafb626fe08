import ToolLisp.Run.Error
import ToolLisp.Run.Host
import ToolLisp.Value.Env

/-!
# Evaluation with effects

Evaluating an expression can add definitions, call tools and make functions, which have stamps. It
ends with a value, or it is cut short: by an error, by the end of the program, or by entering a loop
again.
-/

namespace ToolLisp

/-- The definitions of a run. -/
abbrev Definitions := NameMap Value

/-- What changes during a run. -/
structure RunState where
  /-- The definitions made so far. -/
  definitions : Definitions
  /-- The calls of tools made so far, the last one first. -/
  calls : List ToolCall
  /-- The stamp of the next function that is made. -/
  stamp : Nat

/-- The state at the beginning of a run. -/
def RunState.start (definitions : Definitions) (stamp : Nat) : RunState :=
  ⟨definitions, [], stamp⟩

/-- The state at the beginning of a first run. -/
def RunState.fresh : RunState :=
  .start [] 0

/-- Why evaluation is cut short. -/
inductive Signal where
  /-- An error. -/
  | error (e : EvalError)
  /-- The program ends with a value. -/
  | ret (v : Value)
  /-- The loop or function around is entered again with new values. -/
  | recur (vs : List Value)

/-- A computation of a run. -/
def EvalM (α : Type) : Type :=
  RunState → Except Signal α × RunState

namespace EvalM

variable {α β : Type}

/-- The computation with a result and no effect. -/
@[inline]
def ret (a : α) : EvalM α :=
  fun s => (.ok a, s)

/-- One computation after the other. -/
@[inline]
def andThen (x : EvalM α) (f : α → EvalM β) : EvalM β :=
  fun s =>
    match x s with
    | (.ok a, s) => f a s
    | (.error e, s) => (.error e, s)

instance : Monad EvalM where
  pure := ret
  bind := andThen

/-- Cuts evaluation short. -/
def cut (e : Signal) : EvalM α :=
  fun s => (.error e, s)

/-- Stops with an error. -/
def fail (e : EvalError) : EvalM α :=
  cut (.error e)

/-- A new stamp. -/
def freshStamp : EvalM Nat :=
  fun s => (.ok s.stamp, { s with stamp := s.stamp + 1 })

/-- Adds a definition. -/
def define (name : String) (v : Value) : EvalM Unit :=
  fun s => (.ok (), { s with definitions := NameMap.insert name v s.definitions })

/-- The value that a name is defined as. -/
def definition? (name : String) : EvalM (Option Value) :=
  fun s => (.ok (NameMap.get? s.definitions name), s)

/-- Calls a tool that exists. -/
def askTool (tools : Tools) (name : String) (args : Entries) : EvalM Value :=
  fun s =>
    let after := { s with calls := ⟨name, args⟩ :: s.calls }
    match tools.answer s.calls name args with
    | .ok v => (.ok v, after)
    | .error reason => (.error (.error (.toolFailed name reason)), after)

end EvalM

end ToolLisp
