import ToolLisp.Proofs.Congruence

/-!
# Failing tools

A call of a tool that fails is the last call of its run, and the run ends with that failure
(`failed_call_ends_run`). It does not matter where the call stands: no construct and no builtin function
goes on after an error.

`EvalM.FailFast` says of a computation that either all calls that it makes are answered, or it makes one
more call, which fails, and ends with that failure. Computations in sequence keep this, because the second
one is not begun if the first fails; so it holds of the evaluation of every expression.
-/

namespace ToolLisp

variable {α β : Type} {tools : Tools} {before calls : List ToolCall}

/-! ## Calls that are answered -/

/-- From the calls `before` on, calls were made up to `calls`, and all of them were answered. -/
inductive Answered (tools : Tools) (before : List ToolCall) : List ToolCall → Prop
  /-- No call was made. -/
  | refl : Answered tools before before
  /-- One more call was made. -/
  | call {calls : List ToolCall} {name : String} {args : Entries} {v : Value} :
    Answered tools before calls → tools.answer calls name args = .ok v →
      Answered tools before (⟨name, args⟩ :: calls)

theorem Answered.trans {between : List ToolCall} (h : Answered tools before between)
    (h' : Answered tools between calls) : Answered tools before calls := by
  induction h' with
  | refl => exact h
  | call _ hv ih => exact .call ih hv

theorem Answered.suffix (h : Answered tools before calls) : before <:+ calls := by
  induction h with
  | refl => exact List.suffix_refl before
  | call _ _ ih => exact ih.trans (List.suffix_cons _ _)

/-- Each of the calls has an answer. -/
theorem Answered.answer_ne_error (h : Answered tools before calls) {later earlier : List ToolCall}
    {call : ToolCall} (hcalls : calls = later ++ call :: earlier) (hbefore : before <:+ earlier)
    (reason : String) : tools.answer earlier call.name call.args ≠ .error reason := by
  induction h generalizing later with
  | refl =>
    have hlength := hbefore.length_le
    rw [hcalls] at hlength
    simp only [List.length_append, List.length_cons] at hlength
    omega
  | call _ hv ih =>
    cases later with
    | nil =>
      obtain ⟨rfl, rfl⟩ := List.cons.inj hcalls
      rw [hv]
      exact nofun
    | cons _ later => exact ih (List.cons.inj hcalls).2

/-- How a computation ends that makes the calls from `before` up to some others. -/
inductive EndsFast (tools : Tools) (before : List ToolCall) :
    Except Signal α → List ToolCall → Prop
  /-- All calls were answered. -/
  | answered {result : Except Signal α} {calls : List ToolCall} :
    Answered tools before calls → EndsFast tools before result calls
  /-- The last call failed, and the computation ended with that. -/
  | failed {calls : List ToolCall} {name : String} {args : Entries} {reason : String} :
    Answered tools before calls → tools.answer calls name args = .error reason →
      EndsFast tools before (.error (.error (.toolFailed name reason))) (⟨name, args⟩ :: calls)

namespace EndsFast

/-- Calls that were answered before. -/
theorem after {between : List ToolCall} {result : Except Signal α} (h : Answered tools before between)
    (h' : EndsFast tools between result calls) : EndsFast tools before result calls := by
  cases h' with
  | answered h' => exact .answered (h.trans h')
  | failed h' hreason => exact .failed (h.trans h') hreason

/-- What comes after an error is not begun. -/
theorem error {e : Signal} (h : EndsFast tools before (.error e : Except Signal α) calls) :
    EndsFast tools before (.error e : Except Signal β) calls := by
  cases h with
  | answered h => exact .answered h
  | failed h hreason => exact .failed h hreason

/-- A computation that has a result, or asks for another turn, has had all its calls answered. -/
theorem answered_of_ne {result : Except Signal α} (h : EndsFast tools before result calls)
    (hne : ∀ e, result ≠ .error (.error e)) : Answered tools before calls := by
  cases h with
  | answered h => exact h
  | failed _ _ => exact absurd rfl (hne _)

theorem suffix {result : Except Signal α} (h : EndsFast tools before result calls) :
    before <:+ calls := by
  cases h with
  | answered h => exact h.suffix
  | failed h _ => exact h.suffix.trans (List.suffix_cons _ _)

/-- A call that failed is the last one, and the computation ended with its failure. -/
theorem of_failed {result : Except Signal α} (h : EndsFast tools before result calls)
    {later earlier : List ToolCall} {call : ToolCall} {reason : String}
    (hcalls : calls = later ++ call :: earlier) (hbefore : before <:+ earlier)
    (hreason : tools.answer earlier call.name call.args = .error reason) :
    later = [] ∧ result = .error (.error (.toolFailed call.name reason)) := by
  cases h with
  | answered h => exact absurd hreason (h.answer_ne_error hcalls hbefore reason)
  | failed h hlast =>
    cases later with
    | nil =>
      obtain ⟨rfl, rfl⟩ := List.cons.inj hcalls
      rw [hlast] at hreason
      cases hreason
      exact ⟨rfl, rfl⟩
    | cons _ later =>
      exact absurd hreason (h.answer_ne_error (List.cons.inj hcalls).2 hbefore reason)

end EndsFast

/-! ## Computations -/

namespace EvalM

/-- Either all calls that the computation makes are answered, or the last one fails and the computation
ends with that. -/
def FailFast (tools : Tools) (x : EvalM α) : Prop :=
  ∀ s, EndsFast tools s.calls (x s).1 (x s).2.calls

/-- A computation that makes no calls. -/
theorem FailFast.of_calls_eq {x : EvalM α} (h : ∀ s, (x s).2.calls = s.calls) : FailFast tools x := by
  intro s
  rw [h s]
  exact .answered .refl

theorem FailFast.bind {x : EvalM α} {f : α → EvalM β} (hx : FailFast tools x)
    (hf : ∀ a, FailFast tools (f a)) : FailFast tools (x >>= f) := by
  intro s
  have hs := hx s
  rw [bind_apply]
  rcases hxs : x s with ⟨e | a, s'⟩
  · rw [hxs] at hs
    exact hs.error
  · rw [hxs] at hs
    exact (hf a s').after (hs.answered_of_ne fun _ => nofun)

theorem FailFast.orAgain {x : EvalM Value} {again : List Value → EvalM Value}
    (hx : FailFast tools x) (ha : ∀ vs, FailFast tools (again vs)) :
    FailFast tools (x.orAgain again) := by
  intro s
  have hs := hx s
  unfold EvalM.orAgain
  rcases hxs : x s with ⟨e | v, s'⟩
  · rw [hxs] at hs
    cases e with
    | recur vs => exact (ha vs s').after (hs.answered_of_ne fun _ => nofun)
    | error e => exact hs
    | ret v => exact hs
  · rw [hxs] at hs
    exact hs

theorem askTool_failFast (name : String) (args : Entries) :
    FailFast tools (askTool tools name args) := by
  intro s
  unfold askTool
  cases hanswer : tools.answer s.calls name args with
  | ok v => exact .answered (.call .refl hanswer)
  | error reason => exact .failed .refl hanswer

end EvalM

open EvalM

/-- A loop. By induction on the number of turns that are left. -/
theorem iterate_failFast {limit : Nat} {body : Env → EvalM Value} {rebind : List Value → EvalM Env}
    (hb : ∀ env, FailFast tools (body env)) (hr : ∀ vs, FailFast tools (rebind vs)) (n : Nat) :
    ∀ env, FailFast tools (iterate limit body rebind n env) := by
  induction n with
  | zero =>
    intro env
    rw [iterate_zero]
    exact (hb env).orAgain fun _ => .of_calls_eq fun _ => rfl
  | succ n ih =>
    intro env
    rw [iterate_succ]
    exact (hb env).orAgain fun vs => (hr vs).bind ih

/-- Failing fast is kept by all building blocks of evaluation. -/
theorem failFast_congruence (h : Host) :
    Congruence (fun _ x _ => FailFast h.tools x) h h.limits where
  pure _ := .of_calls_eq fun _ => rfl
  bind hx hf := hx.bind hf
  cut _ := .of_calls_eq fun _ => rfl
  freshStamp := .of_calls_eq fun _ => rfl
  definition? _ := .of_calls_eq fun _ => rfl
  define _ _ _ := .of_calls_eq fun _ => rfl
  askTool name args _ := askTool_failFast name args
  loop hb hr env := iterate_failFast hb hr _ env

theorem eval_failFast (h : Host) (program : Expr) (env : Env) :
    FailFast h.tools (eval h (callTop h) program env) := by
  have C := failFast_congruence h
  have hcall : ∀ f args, FailFast h.tools (callTop h f args) :=
    C.callAt_congr (fun _ _ _ => C.fail _) (Nat.le_refl _)
  exact @Congruence.eval_congr _ _ _ C (callTop h) (callTop h) hcall program env

/-! ## Runs -/

section

variable {h : Host} {later earlier : List ToolCall} {call : ToolCall} {reason : String}

theorem evaluate_of_failed {program : Expr} {env : Env} {s : RunState}
    (hcalls : (evaluate h program env s).2.calls = later ++ call :: earlier)
    (hbefore : s.calls <:+ earlier)
    (hreason : h.tools.answer earlier call.name call.args = .error reason) :
    later = [] ∧ (evaluate h program env s).1 = .error (.toolFailed call.name reason) := by
  obtain ⟨hlater, hresult⟩ := (eval_failFast h program env s).of_failed hcalls hbefore hreason
  refine ⟨hlater, ?_⟩
  show Evaluation.ofResult (eval h (callTop h) program env s).1 = _
  rw [hresult]
  rfl

theorem run_of_failed {source : String} {s : RunState}
    (hcalls : (run h source s).2.calls = later ++ call :: earlier) (hbefore : s.calls <:+ earlier)
    (hreason : h.tools.answer earlier call.name call.args = .error reason) :
    later = [] ∧ (run h source s).1 = .error (.eval (.toolFailed call.name reason)) := by
  unfold run at hcalls ⊢
  cases hcompile : compile source with
  | error e =>
    -- what cannot be read or analysed is not begun, and makes no call
    simp only [hcompile] at hcalls
    exact absurd hreason (Answered.refl.answer_ne_error hcalls hbefore reason)
  | ok program =>
    simp only [hcompile] at hcalls ⊢
    have heval := @evaluate_of_failed h later earlier call reason program .initial s
    rcases hevaluate : evaluate h program .initial s with ⟨e | v, s'⟩
    · rw [hevaluate] at hcalls heval
      obtain ⟨hlater, he⟩ := heval hcalls hbefore hreason
      cases he
      exact ⟨hlater, rfl⟩
    · rw [hevaluate] at hcalls heval
      obtain ⟨-, he⟩ := heval hcalls hbefore hreason
      cases he

end

theorem calls_suffix_evaluate (h : Host) (program : Expr) (env : Env) (s : RunState) :
    s.calls <:+ (evaluate h program env s).2.calls :=
  (eval_failFast h program env s).suffix

theorem calls_suffix_run (h : Host) (source : String) (s : RunState) :
    s.calls <:+ (run h source s).2.calls := by
  unfold run
  cases compile source with
  | error e => exact List.suffix_refl _
  | ok program =>
    have hcalls := calls_suffix_evaluate h program .initial s
    rcases hevaluate : evaluate h program .initial s with ⟨e | v, s'⟩
    · rw [hevaluate] at hcalls
      simpa only [hevaluate] using hcalls
    · rw [hevaluate] at hcalls
      simpa only [hevaluate] using hcalls

/-- A run adds its calls of tools to those made before it, and if one of them fails, it is the last one and
the run ends with exactly its failure. This holds of every program that is evaluated, from any bindings
and any state, and of every source text that is run. The last call comes first in the lists, so `later`
holds the calls that the run made after `call`. -/
theorem failed_call_ends_run (h : Host) :
    (∀ (program : Expr) (env : Env) (s : RunState),
      s.calls <:+ (evaluate h program env s).2.calls ∧
      ∀ (later earlier : List ToolCall) (call : ToolCall) (reason : String),
        (evaluate h program env s).2.calls = later ++ call :: earlier → s.calls <:+ earlier →
        h.tools.answer earlier call.name call.args = .error reason →
          later = [] ∧ (evaluate h program env s).1 = .error (.toolFailed call.name reason)) ∧
    (∀ (source : String) (s : RunState),
      s.calls <:+ (run h source s).2.calls ∧
      ∀ (later earlier : List ToolCall) (call : ToolCall) (reason : String),
        (run h source s).2.calls = later ++ call :: earlier → s.calls <:+ earlier →
        h.tools.answer earlier call.name call.args = .error reason →
          later = [] ∧ (run h source s).1 = .error (.eval (.toolFailed call.name reason))) := by
  refine ⟨fun program env s => ⟨calls_suffix_evaluate h program env s, ?_⟩,
    fun source s => ⟨calls_suffix_run h source s, ?_⟩⟩
  · intro later earlier call reason hcalls hbefore hreason
    exact evaluate_of_failed hcalls hbefore hreason
  · intro later earlier call reason hcalls hbefore hreason
    exact run_of_failed hcalls hbefore hreason

/-- Tools that answer one call and fail from then on. -/
def Tools.answeringOnce (reason : String) : Tools where
  has _ := true
  answer calls _ _ := if calls.isEmpty then .ok .nil else .error reason

/-- The comparator of a sort calls a tool that fails when it is asked the second time. Four items are to be
sorted, and the tool is not asked again. -/
theorem failed_call_ends_run_in_comparator :
    ∃ (h : Host) (program : Expr) (env : Env) (s : RunState) (first second : ToolCall),
      h.tools = .answeringOnce "out of order" ∧
      program = .call (.var "sort") [
        .fn [.name "a", .name "b"] (.toolCall "probe" (.map [])),
        .vector [.literal .nil, .literal .nil, .literal .nil, .literal .nil]] ∧
      (evaluate h program env s).2.calls = [second, first] ∧
      h.tools.answer [first] second.name second.args = .error "out of order" ∧
      (evaluate h program env s).1 = .error (.toolFailed "probe" "out of order") := by
  let h : Host := { Host.bare with limits := ⟨0, 3⟩, tools := .answeringOnce "out of order" }
  let program : Expr := .call (.var "sort") [
    .fn [.name "a", .name "b"] (.toolCall "probe" (.map [])),
    .vector [.literal .nil, .literal .nil, .literal .nil, .literal .nil]]
  let env : Env := [("sort", .builtin (.sequence .sort))]
  have hnames : (evaluate h program env .fresh).2.calls.map ToolCall.name = ["probe", "probe"] := by
    decide +kernel
  obtain ⟨second, _, hcalls, hname, hrest⟩ := List.map_eq_cons_iff.1 hnames
  obtain ⟨first, rfl, -⟩ := List.map_eq_singleton_iff.1 hrest
  refine ⟨h, program, env, .fresh, first, second, rfl, rfl, hcalls, rfl, ?_⟩
  rw [← hname]
  exact (((failed_call_ends_run h).1 program env .fresh).2 [] [first] second "out of order" hcalls
    List.nil_suffix rfl).2

end ToolLisp
