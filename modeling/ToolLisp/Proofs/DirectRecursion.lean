import ToolLisp.Proofs.Congruence
import ToolLisp.Proofs.Fuel
import ToolLisp.Proofs.RecurSoundness

/-!
# Direct recursion

An interpretation in which a `recur` does not end the turn of a loop or function that it stands in. It
evaluates the body of this loop or function again, with the new values bound, and its value is what that
gives. So turns are nested in each other instead of following each other. Nothing limits how many they
are but a supply of fuel, and `none` is the answer of an evaluation that nests more of them.

Everything else is as in evaluation: both use the rules of `Interpretation`. The main statement is that the
two agree on programs, as long as no loop exceeds its limit. It holds because a `recur` in a program stands
where nothing remains to be done in its turn: what follows the turn then follows the turns nested in it.
-/

namespace ToolLisp

open EvalM FuelM

/-! ## The interpretation -/

/-- A computation that is told what a `recur` comes to. -/
def DirectM (α : Type) : Type :=
  (List Value → FuelM Value) → FuelM α

namespace DirectM

variable {α β : Type}

instance : Monad DirectM where
  pure a := fun _ => pure a
  bind x f := fun again => x again >>= fun a => f a again

/-- Binds new values and evaluates the body of a loop or function again, in which a `recur` does the
same. -/
def again (body : Env → DirectM Value) (rebind : List Value → FuelM Env) :
    Nat → List Value → FuelM Value
  | 0, _ => out
  | n + 1, vs => do
    let inner ← rebind vs
    body inner (again body rebind n)

/-- A `recur` that no loop or function is around. -/
def stray (vs : List Value) : FuelM Value :=
  FuelM.lift (cut (.recur vs))

end DirectM

/-- The interpretation by direct recursion, which nests at most `fuel` turns of a loop or function. -/
def Interpretation.direct (h : Host) (fuel : Nat) (call : Value → List Value → FuelM Value) :
    Interpretation DirectM where
  host := pure h
  lift x := fun _ => FuelM.lift x
  call f args := fun _ => call f args
  recur vs := fun again => again vs
  loop body rebind env := fun outer =>
    body env (DirectM.again body (fun vs => rebind vs outer) fuel)

/-- Calls a value when so many calls may still be nested. -/
def callDirect (h : Host) (fuel : Nat) : Nat → Value → List Value → FuelM Value
  | 0, _, _ => FuelM.lift (fail (.recursionLimit h.limits.recursion))
  | n + 1, f, args => (Interpretation.direct h fuel (callDirect h fuel n)).dispatch f args DirectM.stray

/-- Evaluates a program by direct recursion, and gives its outcome and the state that it leaves. -/
def evaluateDirect (h : Host) (fuel : Nat) (program : Expr) (env : Env) (s : RunState) :
    Option (Except EvalError Evaluation × RunState) :=
  ((Interpretation.direct h fuel (callDirect h fuel h.limits.recursion)).eval program env
    DirectM.stray s).map fun r => (Evaluation.ofResult r.1, r.2)

/-! ## Agreement -/

variable {V : Value → Prop} {α β : Type} {lacking : Prop}

/-- An outcome of direct recursion is `expected`, unless evaluation exceeds the limit of a loop or fuel is
lacking. -/
def Agrees (lacking : Prop) (result : Except Signal α × RunState)
    (expected outcome : Option (Except Signal α × RunState)) : Prop :=
  (∃ n, result.1 = .error (.error (.loopLimit n))) ∨ (lacking ∧ outcome = none) ∨ outcome = expected

/-- Direct recursion gives what a sound computation gives that asks for no other turn. -/
def Inside (V : Value → Prop) (lacking : Prop) (P : α → Prop) (x : EvalM α)
    (y : DirectM α) : Prop :=
  Sound V (Place.Takes none) P x ∧ ∀ s, RunState.Each V s → ∀ again,
    Agrees lacking (x s) (some (x s)) (y again s)

/-- Direct recursion gives what a sound computation gives, or if this asks for another turn, what the turn
gives. -/
def InPlace (V : Value → Prop) (lacking : Prop) (a : Place) (x : EvalM Value)
    (y : DirectM Value) : Prop :=
  Sound V a.Takes V x ∧ ∀ s, RunState.Each V s → ∀ again,
    Agrees lacking (x s) ((FuelM.lift x).orAgain again s) (y again s)

theorem DirectM.bind_apply (y : DirectM α) (g : α → DirectM β) (again : List Value → FuelM Value)
    (s : RunState) :
    (y >>= g) again s =
      match y again s with
      | some (.ok a, s) => g a again s
      | some (.error e, s) => some (.error e, s)
      | none => none := rfl

/-- A sound computation after which something remains to be done asks for no other turn, so it does not
matter what another turn would give. -/
theorem EvalM.Sound.lift_orAgain {P : Value → Prop} {x : EvalM Value} (hx : Sound V (Place.Takes none) P x)
    {s : RunState} (hs : s.Each V) (again : List Value → FuelM Value) :
    (FuelM.lift x).orAgain again s = some (x s) := by
  have h := (hx s hs).2
  unfold FuelM.orAgain FuelM.lift
  rcases hr : x s with ⟨e | v, s'⟩
  · cases e with
    | recur vs =>
      rw [hr] at h
      cases h.1
    | error e => rfl
    | ret v => rfl
  · rfl

namespace Inside

variable {P : α → Prop} {P' : β → Prop}

theorem lift {x : EvalM α} (hx : Sound V (Place.Takes none) P x) :
    Inside V lacking P x fun _ => FuelM.lift x :=
  ⟨hx, fun _ _ _ => .inr (.inr rfl)⟩

/-- How a computation and direct recursion can end. -/
theorem outcome {x : EvalM α} {y : DirectM α} (h : Inside V lacking P x y) {s : RunState}
    (hs : s.Each V) (again : List Value → FuelM Value) :
    (∃ n s', x s = (.error (.error (.loopLimit n)), s')) ∨ (lacking ∧ y again s = none) ∨
    (∃ e s', x s = (.error e, s') ∧ e.Fits V (Place.Takes none) ∧ y again s = some (.error e, s')) ∨
    (∃ a s', x s = (.ok a, s') ∧ P a ∧ RunState.Each V s' ∧ y again s = some (.ok a, s')) := by
  have hsound := h.1 s hs
  have hagrees := h.2 s hs again
  rcases hr : x s with ⟨e | a, s'⟩
  · rw [hr] at hsound hagrees
    rcases hagrees with ⟨n, hn⟩ | hlack | hy
    · cases hn
      exact .inl ⟨n, s', rfl⟩
    · exact .inr (.inl hlack)
    · exact .inr (.inr (.inl ⟨e, s', rfl, hsound.2, hy⟩))
  · rw [hr] at hsound hagrees
    rcases hagrees with ⟨n, hn⟩ | hlack | hy
    · cases hn
    · exact .inr (.inl hlack)
    · exact .inr (.inr (.inr ⟨a, s', rfl, hsound.2, hsound.1, hy⟩))

theorem bind {x : EvalM α} {y : DirectM α} {f : α → EvalM β} {g : α → DirectM β}
    (hx : Inside V lacking P x y) (hf : ∀ a, P a → Inside V lacking P' (f a) (g a)) :
    Inside V lacking P' (x >>= f) (y >>= g) := by
  refine ⟨hx.1.bind fun a ha => (hf a ha).1, fun s hs again => ?_⟩
  rw [EvalM.bind_apply, DirectM.bind_apply]
  rcases hx.outcome hs again with
    ⟨n, s', hl⟩ | ⟨hlack, hy⟩ | ⟨e, s', hr, _, hy⟩ | ⟨a, s', hr, ha, hs', hy⟩
  · rw [hl]
    exact .inl ⟨n, rfl⟩
  · rw [hy]
    exact .inr (.inl ⟨hlack, rfl⟩)
  · rw [hr, hy]
    exact .inr (.inr rfl)
  · rw [hr, hy]
    exact (hf a ha).2 s' hs' again

/-- A computation that asks for no other turn, as one that gives the value of its place. -/
theorem inPlace {x : EvalM Value} {y : DirectM Value} (h : Inside V lacking V x y)
    (a : Place) : InPlace V lacking a x y := by
  refine ⟨h.1.mono fun _ => .of_none, fun s hs again => ?_⟩
  rw [h.1.lift_orAgain hs]
  exact h.2 s hs again

end Inside

namespace InPlace

theorem inside {x : EvalM Value} {y : DirectM Value} (h : InPlace V lacking none x y) :
    Inside V lacking V x y := by
  refine ⟨h.1, fun s hs again => ?_⟩
  rw [← h.1.lift_orAgain hs again]
  exact h.2 s hs again

theorem before {P : α → Prop} {a : Place} {x : EvalM α} {y : DirectM α} {f : α → EvalM Value}
    {g : α → DirectM Value} (hx : Inside V lacking P x y)
    (hf : ∀ v, P v → InPlace V lacking a (f v) (g v)) :
    InPlace V lacking a (x >>= f) (y >>= g) := by
  refine ⟨(hx.1.mono fun _ => .of_none).bind fun v hv => (hf v hv).1, fun s hs again => ?_⟩
  rw [DirectM.bind_apply]
  unfold FuelM.orAgain FuelM.lift
  rw [EvalM.bind_apply]
  rcases hx.outcome hs again with
    ⟨n, s', hl⟩ | ⟨hlack, hy⟩ | ⟨e, s', hr, he, hy⟩ | ⟨v, s', hr, hv, hs', hy⟩
  · rw [hl]
    exact .inl ⟨n, rfl⟩
  · rw [hy]
    exact .inr (.inl ⟨hlack, rfl⟩)
  · rw [hr, hy]
    cases e with
    | recur vs => cases he.1
    | error e => exact .inr (.inr rfl)
    | ret v => exact .inr (.inr rfl)
  · rw [hr, hy]
    exact (hf v hv).2 s' hs' again

/-- A turn of a loop, with the turn that follows it on one side and the turn nested in it on the other. -/
theorem turn {k : Nat} {x : EvalM Value} {y : DirectM Value} (hx : InPlace V lacking (some k) x y)
    {next : List Value → EvalM Value} {again : List Value → FuelM Value}
    (hn : ∀ vs, (∀ v ∈ vs, V v) → ∀ s, RunState.Each V s →
      Agrees lacking (next vs s) (some (next vs s)) (again vs s)) {s : RunState} (hs : s.Each V) :
    Agrees lacking (x.orAgain next s) (some (x.orAgain next s)) (y again s) := by
  have hsound := hx.1 s hs
  have hagrees := hx.2 s hs again
  unfold FuelM.orAgain FuelM.lift at hagrees
  unfold EvalM.orAgain
  rcases hr : x s with ⟨e | v, s'⟩
  · rw [hr] at hsound hagrees
    cases e with
    | recur vs =>
      rcases hagrees with ⟨n, hl⟩ | hlack | hy
      · cases hl
      · exact .inr (.inl hlack)
      · rw [hy]
        exact hn vs hsound.2.2 s' hsound.1
    | error e => exact hagrees
    | ret v => exact hagrees
  · rw [hr] at hagrees
    exact hagrees

end InPlace

/-! ## Loops -/

section

variable {limit k : Nat} {body : Env → EvalM Value} {body' : Env → DirectM Value}
  {rebind : List Value → EvalM Env} {rebind' : List Value → DirectM Env}
  (hb : ∀ env, Env.Each V env → InPlace V lacking (some k) (body env) (body' env))
  (hr : ∀ vs, (∀ v ∈ vs, V v) → Inside V lacking (Env.Each V) (rebind vs) (rebind' vs))
include hb hr

/-- The turns that follow each other and the turns that are nested in each other. By induction on the
turns that are left of the first kind; `m` more may be nested. -/
theorem iterate_agrees (n : Nat) :
    ∀ m, (m < n → lacking) → ∀ env, Env.Each V env →
      Inside V lacking V (iterate limit body rebind n env)
        fun outer => body' env (DirectM.again body' (fun vs => rebind' vs outer) m) := by
  have hsound (n : Nat) (env : Env) (he : Env.Each V env) :
      Sound V (Place.Takes none) V (iterate limit body rebind n env) :=
    .iterate (fun env he => (hb env he).1) (fun vs hvs => (hr vs hvs).1) n env he
  induction n with
  | zero =>
    intro m _ env he
    refine ⟨hsound 0 env he, fun s hs outer => ?_⟩
    rw [iterate_zero]
    exact (hb env he).turn (fun vs _ s _ => .inl ⟨limit, rfl⟩) hs
  | succ n ih =>
    intro m hm env he
    refine ⟨hsound (n + 1) env he, fun s hs outer => ?_⟩
    rw [iterate_succ]
    refine (hb env he).turn (fun vs hvs s hs => ?_) hs
    cases m with
    -- the loop has a turn left, and direct recursion has no fuel
    | zero => exact .inr (.inl ⟨hm (Nat.succ_pos n), rfl⟩)
    | succ m =>
      have hagain := (hr vs hvs).bind fun inner hi =>
        ih m (fun hlt => hm (Nat.succ_lt_succ hlt)) inner hi
      exact hagain.2 s hs outer

end

/-! ## Expressions and calls -/

section

variable [Value.Stable V] {G : Place → Expr → Prop} (K : Kind V G)
  (hrecur : ∀ {a args}, G a (.recur args) → a.Takes args.length) {h : Host} (hh : h.Each V)
  (fuel : Nat)
include K hrecur hh

/-- Evaluation is simulated by direct recursion, if calls are. -/
theorem direct_simulation {call : Value → List Value → EvalM Value}
    {call' : Value → List Value → FuelM Value} (hc : ∀ f args, V f → (∀ v ∈ args, V v) →
      Inside V (fuel < h.limits.loop) V (call f args) fun _ => call' f args) :
    Simulation V G h h.limits call (.direct h fuel call')
      (fun _ => Inside V (fuel < h.limits.loop)) (InPlace V (fuel < h.limits.loop)) where
  toKind := K
  context := entryNamed_stable (Value.Stable.entries hh.context)
  memory := entryNamed_stable (Value.Stable.entries hh.memory)
  pure ha := .lift (.pure ha)
  bind := .bind
  host hx := hx
  fail he := .lift (.fail he)
  ret hv := .lift (.cut hv)
  freshStamp := .lift .freshStamp
  definition? name := .lift (.definition? name)
  define _ hv := .lift (.define _ hv)
  askTool _ ha := .lift (.askTool hh _ ha)
  call hf ha := hc _ _ hf ha
  loop hb hr := iterate_agrees hb hr h.limits.loop fuel fun hlt => hlt
  recur hg hl hvs :=
    ⟨.cut ⟨hl ▸ hrecur hg, hvs⟩, fun _ _ _ => .inr (.inr rfl)⟩
  last hx := hx.inPlace _
  before := .before
  inside hx := hx.inside

/-- Calls agree. By induction on the number of calls that may still be nested. -/
theorem callDirect_agrees (n : Nat) : ∀ f args, V f → (∀ v ∈ args, V v) →
    Inside V (fuel < h.limits.loop) V (callAt h n f args)
      fun _ => callDirect h fuel n f args := by
  induction n with
  | zero => exact fun _ _ _ _ => .lift (.fail fun h => by cases h)
  | succ n ih =>
    intro f args hf ha
    have hd := (direct_simulation K hrecur hh fuel ih).dispatch_sim hf ha
    exact ⟨hd.1, fun s hs _ => hd.2 s hs DirectM.stray⟩

end

/-! ## Programs -/

/-- Turns of loops and functions that follow each other refine direct recursion.

* Evaluation and calls follow the rules that direct recursion follows. The two differ only in what
  `Interpretation.running` and `Interpretation.direct` pass in: what a `recur` and what a loop comes to.
* Let every function that the host passes to the program come from a program, and so those in the
  definitions at the start. If evaluating a program does not exceed the limit of a loop, then direct
  recursion gives the same value or error, ends the program itself just then if evaluation does, and leaves
  the same definitions and calls of tools. The fuel for it lasts if it allows as many nested turns as the
  limit allows turns; if it does not last, there is no answer. -/
theorem evaluate_refines_direct_recursion {h : Host} (hh : h.EachFn FromProgram) {source : String}
    {program : Expr} (hp : compile source = .ok program) {s : RunState} (hs : s.EachFn FromProgram)
    (hl : ∀ n, (evaluate h program .initial s).1 ≠ .error (.loopLimit n)) (fuel : Nat) :
    (∀ call e env, eval h call e env = (Interpretation.running h call).eval e env) ∧
    (∀ call f args, dispatch h call f args = (Interpretation.running h call).dispatch f args) ∧
    (evaluateDirect h fuel program .initial s = some (evaluate h program .initial s) ∨
      fuel < h.limits.loop ∧ evaluateDirect h fuel program .initial s = none) := by
  refine ⟨fun call e env => (Interpretation.eval_running h call e env).symm,
    fun call f args => (Interpretation.dispatch_running h call f args).symm, ?_⟩
  have K := proper_discipline.kind
  have hc := callDirect_agrees K proper_discipline.recur hh.each fuel h.limits.recursion
  have heval := ((direct_simulation K proper_discipline.recur hh.each fuel hc).eval_sim program none
    .initial (.of_occurs hp .here) Env.eachFn_initial).inside
  unfold evaluateDirect
  rcases heval.2 s (RunState.eachFn_iff.1 hs) DirectM.stray with ⟨n, hn⟩ | ⟨hlack, hy⟩ | hy
  · exact (hl n (congrArg Evaluation.ofResult hn)).elim
  · exact .inr ⟨hlack, by rw [hy]; rfl⟩
  · exact .inl (by rw [hy]; rfl)

/-- A loop that counts up and then calls a function that counts down and calls a tool in each turn. -/
theorem evaluate_refines_direct_recursion_countdown :
    ∃ (h : Host) (source : String) (program : Expr),
      source = "(defn down [n] (if (pos? n) (do (call \"log\" \x7b:n n\x7d) (recur (dec n))) :done))
        (loop [i 0] (if (< i 2) (recur (inc i)) (down i)))" ∧
      h.EachFn FromProgram ∧ compile source = .ok program ∧ h.limits.loop = 2 ∧
      (evaluate h program .initial .fresh).2.calls.length = 2 ∧
      evaluateDirect h 2 program .initial .fresh =
        some (evaluate h program .initial .fresh) := by
  let source := "(defn down [n] (if (pos? n) (do (call \"log\" \x7b:n n\x7d) (recur (dec n))) :done))
        (loop [i 0] (if (< i 2) (recur (inc i)) (down i)))"
  let h : Host := { Host.bare with limits := ⟨2, 10⟩, tools := ⟨(· == "log"), fun _ _ _ => .ok .nil⟩ }
  have hh : h.EachFn FromProgram := by
    refine ⟨.nil, .nil, fun _ _ hv => ?_⟩
    cases hv
    exact .nil
  have hrun : (run h source .fresh).1.isOk = true ∧
      (run h source .fresh).2.calls.length = 2 := by decide +kernel
  rcases hr : run h source .fresh with ⟨e | out, s'⟩
  · rw [hr] at hrun
    cases hrun.1
  · obtain ⟨program, e, hp, he, _⟩ := run_eq_ok hr
    rw [hr] at hrun
    refine ⟨h, source, program, rfl, hh, hp, rfl, by rw [he]; exact hrun.2, ?_⟩
    have hl : ∀ n, (evaluate h program .initial .fresh).1 ≠ .error (.loopLimit n) := by
      intro n hn
      rw [he] at hn
      cases hn
    rcases (evaluate_refines_direct_recursion hh hp .fresh hl 2).2.2 with heq | ⟨hlack, _⟩
    · exact heq
    · exact absurd hlack (by decide)

end ToolLisp
