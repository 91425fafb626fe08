import ToolLisp.Proofs.Congruence

/-!
# Answers of tools

A run looks at the tools of the host only by calling them, and it records every call. So a run is the same
with other tools, if these give the same answers to the calls that it makes (`eval_consults`). The calls on
which the tools may differ are called odd. That a call is odd may depend on the calls before it, as the
answer to it may.
-/

namespace ToolLisp

open EvalM

variable {odd : List ToolCall → ToolCall → Prop} {before between calls : List ToolCall} {α β : Type}

/-! ## Odd calls -/

/-- Tools of the same names, which differ at most in the answers to odd calls. -/
structure Tools.SameUnless (odd : List ToolCall → ToolCall → Prop) (t t' : Tools) : Prop where
  /-- The tools that there are. -/
  has (name : String) : t'.has name = t.has name
  /-- The answers to calls that are not odd. -/
  answer {calls : List ToolCall} {c : ToolCall} : ¬ odd calls c →
    t'.answer calls c.name c.args = t.answer calls c.name c.args

theorem Tools.SameUnless.symm {t t' : Tools} (h : t.SameUnless odd t') : t'.SameUnless odd t :=
  ⟨fun name => (h.has name).symm, fun hc => (h.answer hc).symm⟩

/-- From the calls `before` on, no odd call was made up to `calls`. -/
def NoneOdd (odd : List ToolCall → ToolCall → Prop) (before calls : List ToolCall) : Prop :=
  ∀ earlier c, before <:+ earlier → c :: earlier <:+ calls → ¬ odd earlier c

theorem NoneOdd.first (h : NoneOdd odd before calls) (hc : between <:+ calls) :
    NoneOdd odd before between :=
  fun earlier c hb he => h earlier c hb (he.trans hc)

theorem NoneOdd.last (h : NoneOdd odd before calls) (hb : before <:+ between) :
    NoneOdd odd between calls :=
  fun earlier c he hc => h earlier c (hb.trans he) hc

/-! ## Computations that depend on the answers -/

/-- What a computation comes to that makes calls from `before` on, and what the other one comes to. -/
structure Consulted (odd : List ToolCall → ToolCall → Prop) (P : α → Prop) (before : List ToolCall)
    (r r' : Except Signal α × RunState) : Prop where
  /-- The calls that were made before are kept. -/
  suffix : before <:+ r.2.calls
  /-- The result. -/
  result (a : α) : r.1 = .ok a → P a
  /-- The other computation does the same unless an odd call is made. -/
  same : NoneOdd odd before r.2.calls → r' = r

/-- `y` does what `x` does from every state from which `x` makes no odd call. -/
def EvalM.Consults (odd : List ToolCall → ToolCall → Prop) (P : α → Prop) (x y : EvalM α) : Prop :=
  ∀ s, Consulted odd P s.calls (x s) (y s)

namespace EvalM.Consults

variable {P : α → Prop} {P' : β → Prop}

/-- A computation that makes no calls. -/
theorem of_calls_eq {x : EvalM α} (hx : ∀ s, (x s).2.calls = s.calls)
    (hp : ∀ s a, (x s).1 = .ok a → P a) : Consults odd P x x :=
  fun s => ⟨hx s ▸ List.suffix_refl _, hp s, fun _ => rfl⟩

theorem pure {a : α} (ha : P a) : Consults odd P (pure a) (pure a) :=
  .of_calls_eq (fun _ => rfl) fun _ _ h => by cases h; exact ha

theorem cut (e : Signal) : Consults odd P (cut e) (cut e) :=
  .of_calls_eq (fun _ => rfl) fun _ _ h => by cases h

theorem bind {x y : EvalM α} {f g : α → EvalM β} (hx : Consults odd P x y)
    (hf : ∀ a, P a → Consults odd P' (f a) (g a)) : Consults odd P' (x >>= f) (y >>= g) := by
  intro s
  have hfirst := hx s
  rw [bind_apply, bind_apply]
  generalize x s = r, y s = r' at hfirst
  rcases r with ⟨e | a, s'⟩
  · refine ⟨hfirst.suffix, (fun _ h => by cases h), fun hodd => ?_⟩
    rw [hfirst.same hodd]
  · have hlast := hf a (hfirst.result a rfl) s'
    refine ⟨hfirst.suffix.trans hlast.suffix, hlast.result, fun hodd => ?_⟩
    rw [hfirst.same (hodd.first hlast.suffix)]
    exact hlast.same (hodd.last hfirst.suffix)

theorem orAgain {P : Value → Prop} {x y : EvalM Value} {f g : List Value → EvalM Value}
    (hx : Consults odd P x y) (hf : ∀ vs, Consults odd P (f vs) (g vs)) :
    Consults odd P (x.orAgain f) (y.orAgain g) := by
  intro s
  have hfirst := hx s
  unfold EvalM.orAgain
  generalize x s = r, y s = r' at hfirst
  rcases r with ⟨e | a, s'⟩
  · cases e with
    | recur vs =>
      have hlast := hf vs s'
      refine ⟨hfirst.suffix.trans hlast.suffix, hlast.result, fun hodd => ?_⟩
      rw [hfirst.same (hodd.first hlast.suffix)]
      exact hlast.same (hodd.last hfirst.suffix)
    | error e =>
      refine ⟨hfirst.suffix, (fun _ h => by cases h), fun hodd => ?_⟩
      rw [hfirst.same hodd]
    | ret v =>
      refine ⟨hfirst.suffix, (fun _ h => by cases h), fun hodd => ?_⟩
      rw [hfirst.same hodd]
  · refine ⟨hfirst.suffix, hfirst.result, fun hodd => ?_⟩
    rw [hfirst.same hodd]

/-- The turns of a loop, by induction on how many are left. -/
theorem iterate {P : Value → Prop} {P' : Env → Prop} {limit : Nat} {body body' : Env → EvalM Value}
    {rebind rebind' : List Value → EvalM Env} (hb : ∀ env, Consults odd P (body env) (body' env))
    (hr : ∀ vs, Consults odd P' (rebind vs) (rebind' vs)) (n : Nat) :
    ∀ env, Consults odd P (iterate limit body rebind n env) (iterate limit body' rebind' n env) := by
  induction n with
  | zero =>
    intro env
    rw [iterate_zero, iterate_zero]
    exact (hb env).orAgain fun _ => .cut _
  | succ n ih =>
    intro env
    rw [iterate_succ, iterate_succ]
    exact (hb env).orAgain fun vs => (hr vs).bind fun inner _ => ih inner

theorem askTool {t t' : Tools} (ht : t.SameUnless odd t') (name : String) (args : Entries) :
    Consults odd (fun _ => True) (askTool t name args) (askTool t' name args) := by
  have hcalls (s : RunState) : (EvalM.askTool t name args s).2.calls = ⟨name, args⟩ :: s.calls := by
    unfold EvalM.askTool
    dsimp only
    split <;> rfl
  refine fun s => ⟨?_, fun _ _ => trivial, fun hodd => ?_⟩
  · rw [hcalls]
    exact List.suffix_cons _ _
  · rw [hcalls] at hodd
    have hanswer := ht.answer (hodd s.calls ⟨name, args⟩ (List.suffix_refl _) (List.suffix_refl _))
    unfold EvalM.askTool
    rw [hanswer]

end EvalM.Consults

/-! ## Expressions and calls -/

/-- Looking up a variable changes nothing. -/
theorem lookupVar_state (h : Host) (name : String) (env : Env) (s : RunState) :
    (lookupVar h name env s).2 = s := by
  unfold lookupVar
  cases Env.lookup? env name with
  | some v => rfl
  | none =>
    dsimp only
    rw [bind_apply, definition?]
    cases NameMap.get? s.definitions name with
    | some v => rfl
    | none => cases h.tools.has name <;> rfl

section

variable {h : Host} {t : Tools} (ht : h.tools.SameUnless odd t)
include ht

theorem consulting_simulation {call call' : Value → List Value → EvalM Value}
    (hc : ∀ f args, Consults odd (fun _ => True) (call f args) (call' f args)) :
    EnvSimulation (fun _ => True) (fun _ => True) (fun _ _ => True) h { h with tools := t } call
      (.running { h with tools := t } call') (fun _ => Consults odd)
      (fun _ => Consults odd fun _ => True) where
  part _ _ := trivial
  bound _ _ := trivial
  fn _ _ _ := trivial
  entered _ := ⟨trivial, trivial, fun _ _ => trivial⟩
  tools := ht.has
  context _ := ⟨trivial, rfl⟩
  memory _ := ⟨trivial, rfl⟩
  pure := .pure
  bind := .bind
  host hx := hx
  fail _ _ := .cut _
  failed _ := .cut _
  ret _ := .cut _
  freshStamp := .of_calls_eq (fun _ => rfl) fun _ _ _ => trivial
  lookupVar name env _ := by
    have hsame : (Interpretation.running { h with tools := t } call').lookupVar name env =
        lookupVar h name env := by
      unfold Interpretation.lookupVar lookupVar
      rw [← ht.has]
      rfl
    rw [hsame]
    exact .of_calls_eq (fun s => by rw [lookupVar_state]) fun _ _ _ => trivial
  define _ _ := .of_calls_eq (fun _ => rfl) fun _ _ _ => trivial
  askTool _ _ := .askTool ht _ _
  call _ _ := hc _ _
  loop hb hr env _ :=
    .iterate (fun env => hb env trivial) (fun vs => hr vs fun _ _ => trivial) _ env
  rowLoop hb hr env _ :=
    .iterate (fun env => hb (rowOf env) trivial) (fun vs => hr vs fun _ _ => trivial) _ env
  recur _ _ _ := .cut _
  last hx := hx
  before := .bind
  inside hx := hx

/-- Calling a value, by induction on the calls that may be nested in it. -/
theorem callAt_consults (n : Nat) : ∀ f args,
    Consults odd (fun _ => True) (callAt h n f args) (callAt { h with tools := t } n f args) := by
  induction n with
  | zero => exact fun _ _ => .cut _
  | succ n ih =>
    intro f args
    unfold callAt
    rw [← Interpretation.dispatch_running { h with tools := t }]
    exact (consulting_simulation ht ih).dispatch_sim trivial fun _ _ => trivial

/-- Evaluating an expression comes to the same with the other tools, if it makes no odd call. -/
theorem eval_consults (n : Nat) (e : Expr) (env : Env) :
    Consults odd (fun _ => True) (eval h (callAt h n) e env)
      (eval { h with tools := t } (callAt { h with tools := t } n) e env) := by
  rw [← Interpretation.eval_running { h with tools := t }]
  exact (consulting_simulation ht (callAt_consults ht n)).eval_sim e none env trivial trivial

end

end ToolLisp
