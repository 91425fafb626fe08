import ToolLisp.Proofs.Congruence

/-!
# Higher limits

The limits of a run only guard against programs that go on too long: no construct looks at them, and
none goes on after they are exceeded. So a run that is not stopped by a limit is the same run under all
higher limits, with the same outcome, the same definitions and the same calls of tools.

`EvalM.Raised x y` says this of two computations. It is a congruence, so it holds of the evaluation of
every expression once it holds of loops, which is an induction on the turns that are left.
-/

namespace ToolLisp

/-- Whether an error says that a limit was exceeded. -/
def EvalError.isLimit : EvalError → Bool
  | .loopLimit _ => true
  | .recursionLimit _ => true
  | _ => false

/-- Whether evaluation is cut short by a limit. -/
def Signal.isLimit : Signal → Bool
  | .error e => e.isLimit
  | _ => false

namespace EvalM

variable {α β : Type}

/-- `y` does what `x` does, from every state from which no limit stops `x`. -/
def Raised (x y : EvalM α) : Prop :=
  ∀ s, (∃ e s', x s = (.error e, s') ∧ e.isLimit = true) ∨ y s = x s

theorem Raised.refl (x : EvalM α) : Raised x x :=
  fun _ => Or.inr rfl

/-- Nothing has to be kept of a computation that a limit stops at once. -/
theorem Raised.of_limit {e : EvalError} (he : e.isLimit = true) (y : EvalM α) :
    Raised (fail e) y :=
  fun s => Or.inl ⟨.error e, s, rfl, he⟩

/-- A limit that stops the first of two computations stops both of them together. -/
theorem Raised.bind {x x' : EvalM α} {f f' : α → EvalM β} (hx : Raised x x')
    (hf : ∀ a, Raised (f a) (f' a)) : Raised (x >>= f) (x' >>= f') := by
  intro s
  rw [bind_apply, bind_apply]
  rcases hx s with ⟨e, s', hs, he⟩ | hs
  · rw [hs]
    exact Or.inl ⟨e, s', rfl, he⟩
  · rw [hs]
    rcases x s with ⟨e | a, s'⟩
    · exact Or.inr rfl
    · exact hf a s'

/-- A limit that stops a turn of a loop stops the loop. -/
theorem Raised.orAgain {x x' : EvalM Value} {again again' : List Value → EvalM Value}
    (hx : Raised x x') (ha : ∀ vs, Raised (again vs) (again' vs)) :
    Raised (x.orAgain again) (x'.orAgain again') := by
  intro s
  rcases hx s with ⟨e, s', hs, he⟩ | hs
  · refine Or.inl ⟨e, s', ?_, he⟩
    cases e with
    | recur vs => cases he
    | error e => simp only [EvalM.orAgain, hs]
    | ret v => simp only [EvalM.orAgain, hs]
  · simp only [EvalM.orAgain, hs]
    rcases x s with ⟨e | v, s'⟩
    · cases e with
      | recur vs => exact ha vs s'
      | error e => exact Or.inr rfl
      | ret v => exact Or.inr rfl
    · exact Or.inr rfl

end EvalM

open EvalM

/-! ## Loops -/

/-- A loop that may be entered again more often. By induction on the number of turns that are left
below the lower limit. -/
theorem iterate_raised {limit limit' : Nat} {body body' : Env → EvalM Value}
    {rebind rebind' : List Value → EvalM Env} (hb : ∀ env, Raised (body env) (body' env))
    (hr : ∀ vs, Raised (rebind vs) (rebind' vs)) :
    ∀ {n m : Nat}, n ≤ m → ∀ env,
      Raised (iterate limit body rebind n env) (iterate limit' body' rebind' m env) := by
  intro n
  induction n with
  | zero =>
    intro m _ env
    rw [iterate_zero]
    cases m with
    | zero =>
      rw [iterate_zero]
      exact (hb env).orAgain fun vs => .of_limit rfl _
    | succ m =>
      rw [iterate_succ]
      exact (hb env).orAgain fun vs => .of_limit rfl _
  | succ n ih =>
    intro m hm env
    obtain ⟨m, rfl⟩ : ∃ k, m = k + 1 := ⟨m - 1, by omega⟩
    rw [iterate_succ, iterate_succ]
    exact (hb env).orAgain fun vs => (hr vs).bind (ih (by omega))

/-! ## Runs -/

/-- Being kept by higher limits is a congruence. -/
theorem raised_congruence {h : Host} {l : Limits} (hl : h.limits.loop ≤ l.loop) :
    Congruence (fun _ => Raised) h l where
  pure _ := .refl _
  bind hx hf := hx.bind hf
  cut _ := .refl _
  freshStamp := .refl _
  definition? _ := .refl _
  define _ _ _ := .refl _
  askTool _ _ _ := .refl _
  loop hb hr env := iterate_raised hb hr hl env

/-- Evaluating a program is kept by higher limits. -/
theorem eval_raised {h : Host} {l : Limits} (hl : h.limits.loop ≤ l.loop)
    (hr : h.limits.recursion ≤ l.recursion) (program : Expr) (env : Env) :
    Raised (eval h (callTop h) program env)
      (eval { h with limits := l } (callTop { h with limits := l }) program env) := by
  have C := raised_congruence hl
  exact C.eval_congr (C.callAt_congr (fun _ _ _ => .of_limit rfl _) hr) program env

/-- An outcome of a program that is no exceeded limit. -/
theorem evaluate_of_eval {h : Host} {l : Limits} {program : Expr} {env : Env} {s : RunState}
    (hx : Raised (eval h (callTop h) program env)
      (eval { h with limits := l } (callTop { h with limits := l }) program env))
    (hn : ∀ e, (evaluate h program env s).1 = .error e → e.isLimit = false) :
    evaluate { h with limits := l } program env s = evaluate h program env s := by
  unfold evaluate
  rcases hx s with ⟨e, s', hs, he⟩ | hs
  · exfalso
    cases e with
    | error e =>
      have := hn e (by simp only [evaluate, hs, Evaluation.ofResult])
      rw [Signal.isLimit, this] at he
      cases he
    | ret v => cases he
    | recur vs => cases he
  · rw [hs]

/-- A run that no limit stops is the same run under all higher limits: it has the same outcome, and it
leaves the same definitions and the same calls of tools with the same arguments. This holds of every
program that is evaluated, from any bindings and any state, and of every source text that is run. -/
theorem run_of_higher_limits (h : Host) (l : Limits) (hl : h.limits.loop ≤ l.loop)
    (hr : h.limits.recursion ≤ l.recursion) :
    (∀ (program : Expr) (env : Env) (s : RunState),
      (∀ e, (evaluate h program env s).1 = .error e → e.isLimit = false) →
        evaluate { h with limits := l } program env s = evaluate h program env s) ∧
    (∀ (source : String) (s : RunState),
      (∀ e, (run h source s).1 = .error (.eval e) → e.isLimit = false) →
        run { h with limits := l } source s = run h source s) := by
  refine ⟨fun program env s hn => evaluate_of_eval (eval_raised hl hr program env) hn, ?_⟩
  intro source s hn
  unfold run
  cases hc : compile source with
  | error e => rfl
  | ok program =>
    simp only
    rw [evaluate_of_eval (eval_raised hl hr program .initial)]
    intro e he
    apply hn e
    rcases hx : evaluate h program .initial s with ⟨r, s'⟩
    rw [hx] at he
    obtain rfl : r = .error e := he
    simp only [run, hc, hx]

/-- A loop that calls a tool and is entered again as often as its limit allows is no different under
another limit. -/
theorem run_of_higher_limits_probing_loop :
    ∃ (h : Host) (l : Limits) (program : Expr) (s : RunState),
      h.limits = ⟨1, 0⟩ ∧ l = ⟨7, 3⟩ ∧
      program = .loop [(.name "n", .literal (.bool true))]
        (.choose (.var "n") (.recur [.toolCall "probe" (.map [])]) (.var "n")) ∧
      (evaluate h program [] s).1 = .ok ⟨.nil, false⟩ ∧
      (evaluate h program [] s).2.calls = [⟨"probe", []⟩] ∧
      evaluate { h with limits := l } program [] s = evaluate h program [] s := by
  let h : Host := { Host.bare with limits := ⟨1, 0⟩, tools := ⟨fun _ => true, fun _ _ _ => .ok .nil⟩ }
  refine ⟨h, ⟨7, 3⟩, _, .fresh, rfl, rfl, rfl, rfl, rfl, ?_⟩
  refine (run_of_higher_limits _ _ (by decide) (by decide)).1 _ _ _ fun e he => ?_
  cases he

end ToolLisp
