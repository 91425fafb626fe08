import ToolLisp.Run.Program

/-!
# Equations of evaluation

How computations in sequence, actions and loops run from a state, and what a run that succeeds consists of.
The proofs about evaluation use these equations and do not open the definitions again.
-/

namespace ToolLisp

open EvalM

theorem EvalM.bind_apply {α β : Type} (x : EvalM α) (f : α → EvalM β) (s : RunState) :
    (x >>= f) s =
      match x s with
      | (.ok a, s) => f a s
      | (.error e, s) => (.error e, s) := rfl

/-- An action that begins with a call goes on with what the call returns. -/
theorem Action.run_call {α : Type} (call : Value → List Value → EvalM Value) (f : Value)
    (args : List Value) (next : Value → Action α) :
    (Action.call f args next).run call = call f args >>= fun v => (next v).run call := by
  funext s
  simp only [Action.run, bind_apply]
  rcases call f args s with ⟨e | v, s'⟩ <;> rfl

theorem Action.run_invoke (call : Value → List Value → EvalM Value) (f : Value) (args : List Value) :
    (Action.invoke f args).run call = call f args := by
  funext s
  rw [Action.invoke, Action.run_call, bind_apply]
  rcases call f args s with ⟨e | v, s'⟩ <;> rfl

/-! ## Loops -/

/-- Goes on with the new values if a turn of a loop asks for another one. -/
def EvalM.orAgain (x : EvalM Value) (again : List Value → EvalM Value) : EvalM Value :=
  fun s =>
    match x s with
    | (.error (.recur vs), s) => again vs s
    | result => result

section

variable {limit : Nat} {body : Env → EvalM Value} {rebind : List Value → EvalM Env}

/-- The last turn that is allowed exceeds the limit if it asks for another one. -/
theorem iterate_zero (env : Env) :
    iterate limit body rebind 0 env = (body env).orAgain fun _ => fail (.loopLimit limit) := by
  funext s
  simp only [iterate, orAgain]
  rcases body env s with ⟨e | v, s'⟩
  · cases e <;> rfl
  · rfl

/-- A turn that asks for another one is followed by it, after the bindings have been made anew. -/
theorem iterate_succ (n : Nat) (env : Env) :
    iterate limit body rebind (n + 1) env =
      (body env).orAgain fun vs => rebind vs >>= iterate limit body rebind n := by
  funext s
  simp only [iterate, orAgain, bind_apply]
  rcases body env s with ⟨e | v, s'⟩
  · cases e with
    | recur vs =>
      simp only
      rcases rebind vs s' with ⟨e | env', s''⟩ <;> rfl
    | error e => rfl
    | ret v => rfl
  · rfl

end

/-- A turn with a value ends a loop. -/
theorem iterate_of_ok {limit : Nat} {body : Env → EvalM Value} {rebind : List Value → EvalM Env} {env : Env}
    {s s' : RunState} {v : Value} (h : body env s = (.ok v, s')) (n : Nat) :
    iterate limit body rebind n env s = (.ok v, s') := by
  cases n with
  | zero =>
    rw [iterate_zero, EvalM.orAgain, h]
  | succ n =>
    rw [iterate_succ, EvalM.orAgain, h]

/-! ## Predicates on rows -/

/-- The bindings of a predicate on rows. -/
def rowEnv (row : Value) : Env :=
  Env.bind [] rowName row

@[simp] theorem rowOf_rowEnv (row : Value) : rowOf (rowEnv row) = row := by
  simp [rowOf, rowEnv, Env.bind, Env.lookup?]

/-- The bindings for the arguments of a predicate on rows. -/
def enterRow : List Value → EvalM Env
  | [row] => pure (rowEnv row)
  | args => fail (.arity 1 args.length)

theorem enter_row (h : Host) (call : Value → List Value → EvalM Value) :
    enter h call [.name rowName] [] = enterRow := by
  funext args
  rcases args with _ | ⟨row, _ | ⟨arg, rest⟩⟩
  · rfl
  · rw [enter, if_pos (by simp), bindItems, bindPattern]
    rfl
  · rw [enter, if_neg (by simp)]
    rfl

/-- A predicate is called as a function of a row. -/
theorem callRow_eq (h : Host) (call : Value → List Value → EvalM Value) (body : RowBody)
    (args : List Value) : callRow h call body args =
      enterRow args >>=
        iterate h.limits.loop (fun env => evalRow call body (rowOf env)) enterRow h.limits.loop := by
  rw [callRow, callClosure, enter_row]

/-- What a predicate says of one row is what it returns. -/
theorem callRow_of_ok {call : Value → List Value → EvalM Value} {body : RowBody} {row v : Value}
    {s s' : RunState} (hrow : evalRow call body row s = (.ok v, s')) (h : Host) :
    callRow h call body [row] s = (.ok v, s') := by
  rw [callRow_eq, enterRow, EvalM.bind_apply]
  refine iterate_of_ok ?_ _
  rwa [rowOf_rowEnv]

/-! ## Runs -/

/-- A run that succeeds evaluates a program, and its output is made from the value of the program. -/
theorem run_eq_ok {h : Host} {source : String} {s s' : RunState} {out : RunOutput}
    (hr : run h source s = (.ok out, s')) :
    ∃ program e, compile source = .ok program ∧ evaluate h program .initial s = (.ok e, s') ∧
      out = ⟨.ofValue e.value h.memory, s'.definitions, e.returned⟩ := by
  unfold run at hr
  cases hp : compile source with
  | error e =>
    rw [hp] at hr
    cases hr
  | ok program =>
    rw [hp] at hr
    dsimp only at hr
    rcases he : evaluate h program .initial s with ⟨e | e, s''⟩
    · rw [he] at hr
      cases hr
    · rw [he] at hr
      cases hr
      exact ⟨program, e, rfl, he, rfl⟩

end ToolLisp
