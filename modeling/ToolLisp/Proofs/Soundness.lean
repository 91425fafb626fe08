import ToolLisp.Proofs.Simulation

/-!
# Computations that keep a property of values

`EvalM.Sound` says of a computation that it keeps a stable property of all values in a run: those that are
defined, those that are passed to tools, and those that it ends with. It also says with how many values the
computation may ask for another turn of the loop or function around it. Soundness is shown of every
expression by the induction of `Simulation`, of loops by induction on the turns that are left, and of calls
by induction on the depth.
-/

namespace ToolLisp

open EvalM

variable {V : Value → Prop} {A B : Nat → Prop} {α β : Type}

/-! ## States and hosts -/

/-- `V` holds of everything that is defined or was passed to a tool. -/
def RunState.Each (V : Value → Prop) (s : RunState) : Prop :=
  Env.Each V s.definitions ∧ ∀ c ∈ s.calls, V (.map c.args)

/-- `V` holds of everything that the host passes to a program, provided that it holds of what programs pass
to the host. -/
structure Host.Each (V : Value → Prop) (h : Host) : Prop where
  /-- The context. -/
  context : V (.map h.context)
  /-- The memory. -/
  memory : V (.map h.memory)
  /-- The answers of tools. -/
  tools {calls : List ToolCall} {name : String} {args : Entries} {v : Value} :
    (∀ c ∈ calls, V (.map c.args)) → V (.map args) → h.tools.answer calls name args = .ok v → V v

/-! ## Sound computations -/

/-- What may cut evaluation short where another turn takes a number of values that satisfies `A`. -/
def Signal.Fits (V : Value → Prop) (A : Nat → Prop) : Signal → Prop
  | .error e => e ≠ .type .strayRecur
  | .ret v => V v
  | .recur vs => A vs.length ∧ ∀ v ∈ vs, V v

/-- Whatever ends a computation fits, a result satisfies `P`, and the values of the state satisfy `V` as
before. -/
def EvalM.Sound (V : Value → Prop) (A : Nat → Prop) (P : α → Prop) (x : EvalM α) : Prop :=
  ∀ s, RunState.Each V s → RunState.Each V (x s).2 ∧
    match (x s).1 with
    | .ok v => P v
    | .error e => e.Fits V A

namespace EvalM.Sound

variable {P : α → Prop} {R : β → Prop}

theorem pure {v : α} (hv : P v) : Sound V A P (pure v) :=
  fun _ hs => ⟨hs, hv⟩

theorem bind {x : EvalM α} {f : α → EvalM β} (hx : Sound V A P x)
    (hf : ∀ v, P v → Sound V A R (f v)) : Sound V A R (x >>= f) := by
  intro s hs
  have h := hx s hs
  rw [bind_apply]
  rcases hr : x s with ⟨e | v, s'⟩
  · rw [hr] at h
    exact h
  · rw [hr] at h
    exact hf v h.2 s' h.1

/-- A computation may stand where more is allowed. -/
theorem mono {x : EvalM α} (hx : Sound V A P x) (hAB : ∀ n, A n → B n) : Sound V B P x := by
  intro s hs
  have h := hx s hs
  refine ⟨h.1, ?_⟩
  split
  · next v hv => simpa only [hv] using h.2
  · next e he =>
    have h := h.2
    rw [he] at h
    cases e with
    | error e => exact h
    | ret v => exact h
    | recur vs => exact ⟨hAB _ h.1, h.2⟩

theorem cut {e : Signal} (he : e.Fits V A) : Sound V A P (cut e) :=
  fun _ hs => ⟨hs, he⟩

theorem fail {e : EvalError} (he : e ≠ .type .strayRecur) : Sound V A P (fail e) :=
  cut he

theorem freshStamp : Sound V A (fun _ => True) freshStamp :=
  fun _ hs => ⟨hs, trivial⟩

theorem define (name : String) {v : Value} (hv : V v) :
    Sound V A (fun _ => True) (define name v) :=
  fun _ hs => ⟨⟨NameMap.each_insert hv hs.1, hs.2⟩, trivial⟩

theorem definition? (name : String) : Sound V A (fun o => ∀ v ∈ o, V v) (definition? name) :=
  fun _ hs => ⟨hs, Env.Each.lookup? hs.1 name⟩

theorem askTool {h : Host} (hh : h.Each V) (name : String) {args : Entries}
    (ha : V (.map args)) : Sound V A V (askTool h.tools name args) := by
  intro s hs
  have hafter : RunState.Each V { s with calls := ⟨name, args⟩ :: s.calls } :=
    ⟨hs.1, List.forall_mem_cons.2 ⟨ha, hs.2⟩⟩
  unfold EvalM.askTool
  dsimp only
  cases ht : h.tools.answer s.calls name args with
  | ok v => exact ⟨hafter, hh.tools hs.2 ha ht⟩
  | error reason => exact ⟨hafter, fun h => by cases h⟩

/-- A turn of a loop, and what follows if it asks for another turn. -/
theorem orAgain {x : EvalM Value} {again : List Value → EvalM Value} (hx : Sound V A V x)
    (ha : ∀ vs, A vs.length → (∀ v ∈ vs, V v) → Sound V B V (again vs)) :
    Sound V B V (x.orAgain again) := by
  intro s hs
  have h := hx s hs
  simp only [EvalM.orAgain]
  rcases hr : x s with ⟨e | v, s'⟩
  · rw [hr] at h
    cases e with
    | error e => exact h
    | ret v => exact h
    | recur vs => exact ha vs h.2.1 h.2.2 s' h.1
  · rw [hr] at h
    exact h

/-- A loop asks for no other turns of a loop around it than binding its values does. By induction on the
turns that are left. -/
theorem iterate {limit : Nat} {body : Env → EvalM Value} {rebind : List Value → EvalM Env}
    (hb : ∀ env, Env.Each V env → Sound V A V (body env))
    (hr : ∀ vs, (∀ v ∈ vs, V v) → Sound V B (Env.Each V) (rebind vs)) (turns : Nat) :
    ∀ env, Env.Each V env → Sound V B V (iterate limit body rebind turns env) := by
  induction turns with
  | zero =>
    intro env he
    rw [iterate_zero]
    exact (hb env he).orAgain fun _ _ _ => .fail fun h => by cases h
  | succ turns ih =>
    intro env he
    rw [iterate_succ]
    exact (hb env he).orAgain fun vs _ hvs => (hr vs hvs).bind ih

end EvalM.Sound

/-! ## Expressions and calls -/

section

variable [Value.Stable V] {G : Place → Expr → Prop} (takes : Place → Nat → Prop) (K : Kind V G)
  (hrecur : ∀ {a args}, G a (.recur args) → takes a args.length)
  (hnone : ∀ {a n}, takes none n → takes a n) {h : Host} (hh : h.Each V)
include K hrecur hnone hh

/-- Soundness looks at evaluation alone, so evaluation is a simulation of itself that is sound. -/
theorem EvalM.Sound.simulation {call : Value → List Value → EvalM Value}
    (hc : ∀ f args, V f → (∀ v ∈ args, V v) → Sound V (takes none) V (call f args)) :
    Simulation V G h h.limits call (.running h call) (fun _ P x _ => Sound V (takes none) P x)
      (fun a x _ => Sound V (takes a) V x) where
  toKind := K
  context := entryNamed_stable (Value.Stable.entries hh.context)
  memory := entryNamed_stable (Value.Stable.entries hh.memory)
  pure := .pure
  bind := .bind
  host hx := hx
  fail := .fail
  ret hv := .cut hv
  freshStamp := .freshStamp
  definition? := .definition?
  define _ hv := .define _ hv
  askTool _ ha := .askTool hh _ ha
  call hf ha := hc _ _ hf ha
  loop hb hr := .iterate hb hr _
  recur hg hl hvs := .cut ⟨hl ▸ hrecur hg, hvs⟩
  last hx := hx.mono fun _ => hnone
  before hx hf := (hx.mono fun _ => hnone).bind hf
  inside hx := hx

/-- Calls are sound. By induction on the number of calls that may still be nested. -/
theorem EvalM.Sound.callAt (n : Nat) : ∀ f args, V f → (∀ v ∈ args, V v) →
    Sound V (takes none) V (callAt h n f args) := by
  induction n with
  | zero => exact fun _ _ _ _ => .fail fun h => by cases h
  | succ n ih => exact fun _ _ hf ha =>
    (Sound.simulation takes K hrecur hnone hh ih).dispatch_sim hf ha

end

/-- A sound program keeps the property, and its value has it, however it ends. -/
theorem EvalM.Sound.evaluated {h : Host} {program : Expr} {env : Env}
    (hx : Sound V A V (eval h (callTop h) program env)) {s : RunState} (hs : RunState.Each V s) :
    RunState.Each V (evaluate h program env s).2 ∧
      ∀ e, (evaluate h program env s).1 = .ok e → V e.value := by
  have hx := hx s hs
  unfold evaluate
  rcases hr : eval h (callTop h) program env s with ⟨e | v, s'⟩
  · rw [hr] at hx
    refine ⟨hx.1, fun e' h => ?_⟩
    cases e with
    | error e => cases h
    | ret v =>
      cases h
      exact hx.2
    | recur vs => cases h
  · rw [hr] at hx
    refine ⟨hx.1, fun e h => ?_⟩
    cases h
    exact hx.2

end ToolLisp
