import ToolLisp.Proofs.Simulation

/-!
# Relations between evaluations

Evaluation is built from a few operations on the state of a run, put together by sequencing and by
loops. A relation between computations that these building blocks keep is therefore kept by the
evaluation of every expression, provided that the calls are related. `EvalM.Congruence` lists what has
to be shown of a relation. A relation of this kind is a simulation of evaluation by evaluation, as an
interpretation (`Congruence.simulation`), so the induction on expressions is that of `Simulation`;
`Congruence.callAt_congr` is the induction on the depth of calls.

The two sides may have different limits. A property of one evaluation is a relation that looks at one
side only. Being the same is such a relation too, so evaluation follows the rules of interpretations
(`Interpretation.eval_running`).
-/

namespace ToolLisp

namespace EvalM

/-- What has to be shown of a relation between computations of the host `h` and computations of the
same host with the limits `l`. -/
structure Congruence (R : (α : Type) → EvalM α → EvalM α → Prop) (h : Host) (l : Limits) : Prop where
  /-- Doing nothing. -/
  pure {α : Type} (a : α) : R α (pure a) (pure a)
  /-- One computation after the other. -/
  bind {α β : Type} {x x' : EvalM α} {f f' : α → EvalM β} :
    R α x x' → (∀ a, R β (f a) (f' a)) → R β (x >>= f) (x' >>= f')
  /-- Ending early. -/
  cut {α : Type} (e : Signal) : R α (cut e) (cut e)
  /-- Making a stamp. -/
  freshStamp : R Nat freshStamp freshStamp
  /-- Reading a definition. -/
  definition? (name : String) : R (Option Value) (definition? name) (definition? name)
  /-- Making a definition, which is never that of a builtin function. -/
  define (name : String) (v : Value) :
    Builtin.isName name = false → R Unit (define name v) (define name v)
  /-- Calling a tool that exists. -/
  askTool (name : String) (args : Entries) :
    h.tools.has name = true → R Value (askTool h.tools name args) (askTool h.tools name args)
  /-- Entering a loop. -/
  loop {body body' : Env → EvalM Value} {rebind rebind' : List Value → EvalM Env} :
    (∀ env, R Value (body env) (body' env)) → (∀ vs, R Env (rebind vs) (rebind' vs)) → ∀ env,
      R Value (iterate h.limits.loop body rebind h.limits.loop env)
        (iterate l.loop body' rebind' l.loop env)

end EvalM

open EvalM

/-! ## Results -/

/-- `P` holds of every result of a computation. -/
def EvalM.Ensures {α : Type} (P : α → Prop) (x : EvalM α) : Prop :=
  ∀ s a, (x s).1 = .ok a → P a

namespace EvalM.Ensures

variable {α β : Type} {P : α → Prop} {P' : β → Prop}

theorem pure {a : α} (ha : P a) : Ensures P (pure a) := by
  intro s b hb
  cases hb
  exact ha

theorem cut (e : Signal) : Ensures P (cut e) :=
  fun _ _ h => by cases h

theorem trivial (x : EvalM α) : Ensures (fun _ => True) x :=
  fun _ _ _ => .intro

theorem bind {x : EvalM α} {f : α → EvalM β} (hx : Ensures P x)
    (hf : ∀ a, P a → Ensures P' (f a)) : Ensures P' (x >>= f) := by
  intro s b hb
  rw [bind_apply] at hb
  rcases hr : x s with ⟨e | a, s'⟩
  · rw [hr] at hb
    cases hb
  · rw [hr] at hb
    exact hf a (hx s a (by rw [hr])) s' b hb

/-- What follows a computation matters only for its results. -/
theorem bind_congr {x : EvalM α} {f g : α → EvalM β} (hx : Ensures P x) (h : ∀ a, P a → f a = g a) :
    x >>= f = x >>= g := by
  funext s
  rw [bind_apply, bind_apply]
  rcases hr : x s with ⟨e | a, s'⟩
  · rfl
  · exact congrFun (h a (hx s a (by rw [hr]))) s'

end EvalM.Ensures

namespace EvalM.Congruence

variable {R : (α : Type) → EvalM α → EvalM α → Prop} {h : Host} {l : Limits}

theorem fail (C : Congruence R h l) {α : Type} (e : EvalError) : R α (EvalM.fail e) (EvalM.fail e) :=
  C.cut (.error e)

/-- Computations after related ones have to be related only where their results are. -/
theorem bind_of_ensures (C : Congruence R h l) {α β : Type} {P : α → Prop} {x y : EvalM α}
    {f g : α → EvalM β} (hxy : R α x y) (hx : Ensures P x) (hy : Ensures P y)
    (hfg : ∀ a, P a → R β (f a) (g a)) : R β (x >>= f) (y >>= g) := by
  classical
  -- what follows a value that is no result may be anything, as long as it is the same
  let onResults (k : α → EvalM β) (a : α) : EvalM β := if P a then k a else EvalM.cut (.ret .nil)
  have hf : x >>= f = x >>= onResults f := hx.bind_congr fun a ha => (if_pos ha).symm
  have hg : y >>= g = y >>= onResults g := hy.bind_congr fun a ha => (if_pos ha).symm
  rw [hf, hg]
  exact C.bind hxy fun a => ScopedSimulation.ite (hfg a) fun _ => C.cut _

/-! ## Expressions -/

section

variable {call call' : Value → List Value → EvalM Value} (C : Congruence R h l)
  (hc : ∀ f args, R Value (call f args) (call' f args))
include C hc

/-- A congruence is a simulation by evaluation, when the calls are related. -/
theorem simulation :
    Simulation (fun _ => True) (fun _ _ => True) h l call (.running { h with limits := l } call')
      (fun α P x y => R α x y ∧ Ensures P x ∧ Ensures P y) (fun _ x y => R Value x y) where
  toKind := .all
  context _ := trivial
  memory _ := trivial
  pure ha := ⟨C.pure _, .pure ha, .pure ha⟩
  bind hx hf := ⟨C.bind_of_ensures hx.1 hx.2.1 hx.2.2 fun a ha => (hf a ha).1,
    hx.2.1.bind fun a ha => (hf a ha).2.1, hx.2.2.bind fun a ha => (hf a ha).2.2⟩
  host hx := hx
  fail _ := ⟨C.cut _, .cut _, .cut _⟩
  ret _ := ⟨C.cut _, .cut _, .cut _⟩
  freshStamp := ⟨C.freshStamp, .trivial _, .trivial _⟩
  definition? name := ⟨C.definition? name, fun _ _ _ _ _ => trivial, fun _ _ _ _ _ => trivial⟩
  define hn _ := ⟨C.define _ _ hn, .trivial _, .trivial _⟩
  askTool hn _ := ⟨C.askTool _ _ hn, .trivial _, .trivial _⟩
  call _ _ := ⟨hc _ _, .trivial _, .trivial _⟩
  loop hb hr env _ := by
    refine ⟨C.loop (fun env => hb env fun _ _ => trivial) (fun vs => ?_) env, .trivial _, .trivial _⟩
    exact (hr vs fun _ _ => trivial).1
  recur _ _ _ := C.cut _
  last hx := hx.1
  before hx hf := C.bind_of_ensures hx.1 hx.2.1 hx.2.2 hf
  inside hx := ⟨hx, .trivial _, .trivial _⟩

end

end EvalM.Congruence

/-! ## Evaluation as an interpretation -/

theorem eq_congruence (h : Host) : Congruence (fun _ x y => x = y) h h.limits where
  pure _ := rfl
  bind := by
    rintro α β x _ f g rfl hf
    rw [funext hf]
  cut _ := rfl
  freshStamp := rfl
  definition? _ := rfl
  define _ _ _ := rfl
  askTool _ _ _ := rfl
  loop hb hr env := by rw [funext hb, funext hr]

/-- Evaluation follows the rules of interpretations. -/
theorem Interpretation.eval_running (h : Host) (call : Value → List Value → EvalM Value) (e : Expr)
    (env : Env) : (running h call).eval e env = ToolLisp.eval h call e env := by
  have S := (eq_congruence h).simulation fun f args => (rfl : call f args = call f args)
  exact (S.eval_sim e none env trivial fun _ _ => trivial).symm

/-- So do calls. -/
theorem Interpretation.dispatch_running (h : Host) (call : Value → List Value → EvalM Value)
    (f : Value) (args : List Value) :
    (running h call).dispatch f args = ToolLisp.dispatch h call f args := by
  have S := (eq_congruence h).simulation fun f args => (rfl : call f args = call f args)
  exact (S.dispatch_sim trivial fun _ _ => trivial).1.symm

/-! ## Expressions and calls -/

namespace EvalM.Congruence

variable {R : (α : Type) → EvalM α → EvalM α → Prop} {h : Host} {l : Limits} (C : Congruence R h l)
include C

/-- Evaluating an expression, when the calls it makes are related. -/
theorem eval_congr {call call' : Value → List Value → EvalM Value}
    (hc : ∀ f args, R Value (call f args) (call' f args)) (e : Expr) (env : Env) :
    R Value (eval h call e env) (eval { h with limits := l } call' e env) := by
  rw [← Interpretation.eval_running { h with limits := l }]
  exact (C.simulation hc).eval_sim e none env trivial fun _ _ => trivial

theorem dispatch_congr {call call' : Value → List Value → EvalM Value}
    (hc : ∀ f args, R Value (call f args) (call' f args)) (f : Value) (args : List Value) :
    R Value (dispatch h call f args) (dispatch { h with limits := l } call' f args) := by
  rw [← Interpretation.dispatch_running { h with limits := l }]
  exact ((C.simulation hc).dispatch_sim trivial fun _ _ => trivial).1

/-- Calls of related depths, by induction on the first of them. When no call may be nested any more on
the first side, the relation has to hold of the error that this is. -/
theorem callAt_congr
    (hlimit : ∀ m f args, R Value (EvalM.fail (.recursionLimit h.limits.recursion))
      (callAt { h with limits := l } m f args)) :
    ∀ {n m : Nat}, n ≤ m → ∀ f args,
      R Value (callAt h n f args) (callAt { h with limits := l } m f args) := by
  intro n
  induction n with
  | zero => intro m _ f args; exact hlimit m f args
  | succ n ih =>
    intro m hm f args
    obtain ⟨m, rfl⟩ : ∃ k, m = k + 1 := ⟨m - 1, by omega⟩
    exact dispatch_congr C (ih (by omega)) f args

end EvalM.Congruence

end ToolLisp
