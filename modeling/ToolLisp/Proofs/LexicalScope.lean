import Mathlib.Data.List.Forall2
import ToolLisp.Proofs.RecurSoundness
import ToolLisp.Proofs.ToolAnswers

/-!
# Lexical scope

Evaluating an expression asks for no other bindings than those of its free names, and a function asks for no
other bindings than those that its free names had when it was made. So two evaluations in bindings that
agree on the free names make the same calls of tools and end in the same way (`evaluation_is_lexical`).

The functions that they make carry different bindings, though. `Value.pruned` drops from a value all bindings
that no function in it asks for. Values with the same pruned form are alike in the sense of
`ScopedSimulation`, and the relation `EvalM.Agree` of computations that give such values is kept by the
evaluation of every expression and by every call.

A tool sees the functions that are passed to it, with all their bindings. The statement is about runs in which
no tool tells two calls apart that have the same pruned form. To show it for such a run, the tools are first
replaced by tools that fail when the given ones tell two calls apart; the run does not change by this.
-/

namespace ToolLisp

open EvalM

/-! ## The bindings that functions ask for -/

/-- The bindings of some names. -/
def Env.restrict (names : List String) (env : Env) : Env :=
  names.filterMap fun name => (Env.lookup? env name).map (name, ·)

theorem Env.mem_restrict {names : List String} {env : Env} {name : String} {v : Value} :
    (name, v) ∈ Env.restrict names env ↔ name ∈ names ∧ Env.lookup? env name = some v := by
  simp only [Env.restrict, List.mem_filterMap, Option.map_eq_some_iff, Prod.mk.injEq]
  constructor
  · rintro ⟨_, hmem, _, hv, rfl, rfl⟩
    exact ⟨hmem, hv⟩
  · rintro ⟨hmem, hv⟩
    exact ⟨name, hmem, v, hv, rfl, rfl⟩

/-- The names that are kept have the values that they had. -/
theorem Env.lookup?_restrict {names : List String} {name : String} (h : name ∈ names) (env : Env) :
    Env.lookup? (Env.restrict names env) name = Env.lookup? env name := by
  rw [Env.lookup?]
  cases hb : (Env.restrict names env).find? (·.1 == name) with
  | some b =>
    obtain rfl : b.1 = name := by simpa using List.find?_some hb
    exact (Env.mem_restrict.1 (List.mem_of_find?_eq_some hb)).2.symm
  | none =>
    cases hv : Env.lookup? env name with
    | none => rfl
    | some v =>
      have hne := List.find?_eq_none.1 hb (name, v) (Env.mem_restrict.2 ⟨h, hv⟩)
      exact absurd (beq_self_eq_true name) hne

/-- Bindings that give the same names the same values are the same where they are restricted to these. -/
theorem Env.restrict_congr {names : List String} {env env' : Env}
    (h : ∀ name ∈ names, Env.lookup? env name = Env.lookup? env' name) :
    Env.restrict names env = Env.restrict names env' :=
  List.filterMap_congr fun name hname => by rw [h name hname]

/-- The bindings that a function asks for, which are those of its free names. -/
def Env.needed (params : List Pattern) (body : Expr) (env : Env) : Env :=
  Env.restrict (Expr.fn params body).free env

/-- The value in which every function carries only the bindings that it asks for. -/
abbrev Value.pruned (v : Value) : Value :=
  v.rebind Env.needed

/-- The call in which every function carries only the bindings that it asks for. -/
def ToolCall.pruned (c : ToolCall) : ToolCall :=
  ⟨c.name, Entries.rebind Env.needed c.args⟩

/-- The state in which every function carries only the bindings that it asks for. -/
def RunState.pruned (s : RunState) : RunState :=
  ⟨Env.rebind Env.needed s.definitions, s.calls.map ToolCall.pruned, s.stamp⟩

variable {Q : List Pattern → Expr → Env → Prop} {A B : Nat → Prop} {α β : Type}

/-- Two values whose functions have the property `Q`, with the same pruned form. -/
abbrev Value.AlikePruned (Q : List Pattern → Expr → Env → Prop) : Value → Value → Prop :=
  Value.Alike Env.needed (Value.EachFn Q)

/-- Bindings that give values with the same pruned form to some names. -/
def Env.AgreeOn (Q : List Pattern → Expr → Env → Prop) (names : List String) (env env' : Env) : Prop :=
  (∀ name ∈ names, (Env.lookup? env name).map Value.pruned = (Env.lookup? env' name).map Value.pruned) ∧
    Env.EachFn Q env ∧ Env.EachFn Q env'

namespace Env.AgreeOn

theorem subset {names names' : List String} {env env' : Env} (hsub : names ⊆ names')
    (h : Env.AgreeOn Q names' env env') : Env.AgreeOn Q names env env' :=
  ⟨fun name hname => h.1 name (hsub hname), h.2⟩

/-- A name that is bound need not have been bound alike before. -/
theorem bound {names : List String} {name : String} {env env' : Env} {v w : Value}
    (hvw : Value.AlikePruned Q v w) (h : Env.AgreeOn Q (names.filter (· != name)) env env') :
    Env.AgreeOn Q names (Env.bind env name v) (Env.bind env' name w) := by
  refine ⟨fun other hother => ?_, Env.Each.bind h.2.1 name hvw.2.1, Env.Each.bind h.2.2 name hvw.2.2⟩
  by_cases hname : name = other
  · subst hname
    simp only [Env.lookup?, Env.bind, List.find?_cons, beq_self_eq_true, Option.map_some]
    exact congrArg some hvw.1
  · have hagree := h.1 other (List.mem_filter.2 ⟨hother, by simpa using Ne.symm hname⟩)
    simpa [Env.lookup?, Env.bind, hname] using hagree

/-- Functions that carry bindings which agree on their free names have the same pruned form. -/
theorem closure_iff {stamp : Nat} {params : List Pattern} {body : Expr} {env env' : Env} :
    (Value.closure stamp params body env).pruned = (Value.closure stamp params body env').pruned ↔
      ∀ name ∈ (Expr.fn params body).free,
        (Env.lookup? env name).map Value.pruned = (Env.lookup? env' name).map Value.pruned := by
  simp only [Value.pruned, Value.rebind_closure, Value.closure.injEq, true_and]
  constructor
  · intro h name hname
    have hlookup := congrArg (Env.lookup? · name) h
    simpa only [Env.needed, Env.lookup?_restrict hname, Env.lookup?_rebind] using hlookup
  · intro h
    refine Env.restrict_congr fun name hname => ?_
    rw [Env.lookup?_rebind, Env.lookup?_rebind]
    exact h name hname

end Env.AgreeOn

/-! ## States -/

/-- Two states whose functions have the property `Q`, with the same pruned form. -/
def RunState.Alike (Q : List Pattern → Expr → Env → Prop) (s s' : RunState) : Prop :=
  s.pruned = s'.pruned ∧ s.EachFn Q ∧ s'.EachFn Q

theorem NameMap.insert_rebind (σ : List Pattern → Expr → Env → Env) (name : String) (v : Value)
    (m : Definitions) :
    Env.rebind σ (NameMap.insert name v m) = NameMap.insert name (v.rebind σ) (Env.rebind σ m) := by
  induction m with
  | nil => rfl
  | cons e rest ih =>
    simp only [NameMap.insert, List.map_cons, Prod.map_fst, id]
    split
    · rfl
    · rfl
    · exact congrArg (List.cons _) ih

namespace RunState.Alike

variable {s s' : RunState}

/-- A name is defined alike in both states, or in neither. -/
theorem definition? (hs : s.Alike Q s') (name : String) :
    (NameMap.get? s.definitions name).map Value.pruned =
      (NameMap.get? s'.definitions name).map Value.pruned := by
  have h := congrArg (fun s => Env.lookup? s.definitions name) hs.1
  simp only [RunState.pruned, Env.lookup?_rebind] at h
  exact h

theorem freshStamp (hs : s.Alike Q s') :
    RunState.Alike Q { s with stamp := s.stamp + 1 } { s' with stamp := s'.stamp + 1 } := by
  obtain ⟨h, hq⟩ := hs
  simp only [RunState.pruned, RunState.mk.injEq] at h
  refine ⟨?_, hq⟩
  simp only [RunState.pruned, h]

theorem define (hs : s.Alike Q s') (name : String) {v w : Value} (hvw : Value.AlikePruned Q v w) :
    RunState.Alike Q { s with definitions := NameMap.insert name v s.definitions }
      { s' with definitions := NameMap.insert name w s'.definitions } := by
  obtain ⟨h, hq, hq'⟩ := hs
  simp only [RunState.pruned, RunState.mk.injEq] at h
  refine ⟨?_, ⟨NameMap.each_insert hvw.2.1 hq.1, hq.2⟩, ⟨NameMap.each_insert hvw.2.2 hq'.1, hq'.2⟩⟩
  simp only [RunState.pruned, NameMap.insert_rebind, h, hvw.1]

theorem askTool (hs : s.Alike Q s') (name : String) {args args' : Entries}
    (ha : Value.AlikePruned Q (.map args) (.map args')) :
    RunState.Alike Q { s with calls := ⟨name, args⟩ :: s.calls }
      { s' with calls := ⟨name, args'⟩ :: s'.calls } := by
  obtain ⟨h, hq, hq'⟩ := hs
  simp only [RunState.pruned, RunState.mk.injEq] at h
  obtain ⟨hargs, hentries, hentries'⟩ := ha.entries
  refine ⟨?_, ⟨hq.1, List.forall_mem_cons.2 ⟨hentries, hq.2⟩⟩,
    ⟨hq'.1, List.forall_mem_cons.2 ⟨hentries', hq'.2⟩⟩⟩
  simp only [RunState.pruned, List.map_cons, ToolCall.pruned, h, hargs]

end RunState.Alike

/-! ## Computations that agree -/

/-- Two computations end in the same way, apart from bindings that no function asks for. -/
inductive EndsAlike (Q : List Pattern → Expr → Env → Prop) (A : Nat → Prop) (P : α → α → Prop) :
    Except Signal α → Except Signal α → Prop
  /-- Both have a result. -/
  | ok {a b : α} : P a b → EndsAlike Q A P (.ok a) (.ok b)
  /-- Both stop with an error. -/
  | error {e e' : EvalError} : e.rebind Env.needed = e'.rebind Env.needed →
    EndsAlike Q A P (.error (.error e)) (.error (.error e'))
  /-- Both end the program. -/
  | ret {v w : Value} : Value.AlikePruned Q v w →
    EndsAlike Q A P (.error (.ret v)) (.error (.ret w))
  /-- Both ask for another turn, with as many values as it may take. -/
  | recur {vs ws : List Value} : A vs.length → Value.AllAlike Env.needed (Value.EachFn Q) vs ws →
    EndsAlike Q A P (.error (.recur vs)) (.error (.recur ws))

/-- From states with the same pruned form, two computations end in the same way and leave such states
again. -/
def EvalM.Agree (Q : List Pattern → Expr → Env → Prop) (A : Nat → Prop) (P : α → α → Prop)
    (x y : EvalM α) : Prop :=
  ∀ s s', s.Alike Q s' → (x s).2.Alike Q (y s').2 ∧ EndsAlike Q A P (x s).1 (y s').1

namespace EvalM.Agree

variable {P : α → α → Prop} {P' : β → β → Prop}

theorem pure {a b : α} (h : P a b) : Agree Q A P (pure a) (pure b) :=
  fun _ _ hs => ⟨hs, .ok h⟩

/-- After a computation that agrees, what follows starts in states that are alike. -/
theorem bind {x y : EvalM α} {f g : α → EvalM β} (hxy : Agree Q A P x y)
    (hfg : ∀ a b, P a b → Agree Q A P' (f a) (g b)) : Agree Q A P' (x >>= f) (y >>= g) := by
  intro s s' hs
  obtain ⟨hstate, hends⟩ := hxy s s' hs
  rw [bind_apply, bind_apply]
  generalize x s = r, y s' = r' at hstate hends
  rcases r with ⟨o, t⟩
  rcases r' with ⟨o', t'⟩
  cases hends with
  | ok hab => exact hfg _ _ hab t t' hstate
  | error he => exact ⟨hstate, .error he⟩
  | ret hvw => exact ⟨hstate, .ret hvw⟩
  | recur hl hvs => exact ⟨hstate, .recur hl hvs⟩

/-- Computations may stand where more is allowed. -/
theorem mono {x y : EvalM α} (hxy : Agree Q A P x y) (hAB : ∀ n, A n → B n) : Agree Q B P x y := by
  intro s s' hs
  obtain ⟨hstate, hends⟩ := hxy s s' hs
  generalize (x s).1 = o, (y s').1 = o' at hends
  refine ⟨hstate, ?_⟩
  cases hends with
  | ok hab => exact .ok hab
  | error he => exact .error he
  | ret hvw => exact .ret hvw
  | recur hl hvs => exact .recur (hAB _ hl) hvs

/-- Errors that show the same, apart from bindings that no function asks for. -/
theorem fail {e e' : EvalError} (he : e.rebind Env.needed = e'.rebind Env.needed) :
    Agree Q A P (fail e) (fail e') :=
  fun _ _ hs => ⟨hs, .error he⟩

theorem freshStamp : Agree Q A Eq freshStamp freshStamp :=
  fun s s' hs => by
    have hstamp : s.pruned.stamp = s'.pruned.stamp := congrArg RunState.stamp hs.1
    exact ⟨hs.freshStamp, .ok hstamp⟩

theorem define (name : String) {v w : Value} (hvw : Value.AlikePruned Q v w) :
    Agree Q A Eq (define name v) (define name w) :=
  fun _ _ hs => ⟨hs.define name hvw, .ok rfl⟩

theorem definition? (name : String) :
    Agree Q A (Option.Rel (Value.AlikePruned Q)) (definition? name) (definition? name) :=
  fun _ _ hs => ⟨hs, .ok (Value.Alike.option (hs.definition? name)
    (Env.Each.lookup? hs.2.1.1 name) (Env.Each.lookup? hs.2.2.1 name))⟩

/-- A variable that is bound to values with the same pruned form, or not bound on either side. -/
theorem lookupVar (h : Host) {name : String} {env env' : Env} (he : Env.AgreeOn Q [name] env env') :
    Agree Q A (Value.AlikePruned Q) (lookupVar h name env) (lookupVar h name env') := by
  have hbound := Value.Alike.option (he.1 name List.mem_cons_self)
    (Env.Each.lookup? he.2.1 name) (Env.Each.lookup? he.2.2 name)
  unfold ToolLisp.lookupVar
  generalize Env.lookup? env name = o, Env.lookup? env' name = o' at hbound
  cases hbound with
  | some hvw => exact .pure hvw
  | none =>
    refine (definition? name).bind fun o o' hdefined => ?_
    cases hdefined with
    | some hvw => exact .pure hvw
    | none => exact ScopedSimulation.ite (fun _ => .pure (.self (.tool name))) fun _ => .fail rfl

/-- If one turn asks for another one, so does the other, and with values that are alike. -/
theorem orAgain {x y : EvalM Value} {f g : List Value → EvalM Value}
    (hxy : Agree Q A (Value.AlikePruned Q) x y)
    (hfg : ∀ vs ws, A vs.length → Value.AllAlike Env.needed (Value.EachFn Q) vs ws →
      Agree Q B (Value.AlikePruned Q) (f vs) (g ws)) :
    Agree Q B (Value.AlikePruned Q) (x.orAgain f) (y.orAgain g) := by
  intro s s' hs
  obtain ⟨hstate, hends⟩ := hxy s s' hs
  unfold EvalM.orAgain
  generalize x s = r, y s' = r' at hstate hends
  rcases r with ⟨o, t⟩
  rcases r' with ⟨o', t'⟩
  cases hends with
  | ok hab => exact ⟨hstate, .ok hab⟩
  | error he => exact ⟨hstate, .error he⟩
  | ret hvw => exact ⟨hstate, .ret hvw⟩
  | recur hl hvs => exact hfg _ _ hl hvs t t' hstate

/-- A loop that is entered again with as many values as it takes. By induction on the turns that are
left. -/
theorem iterate {E : Env → Env → Prop} {limit : Nat} {body body' : Env → EvalM Value}
    {rebind rebind' : List Value → EvalM Env}
    (hb : ∀ env env', E env env' → Agree Q A (Value.AlikePruned Q) (body env) (body' env'))
    (hr : ∀ vs ws, A vs.length → Value.AllAlike Env.needed (Value.EachFn Q) vs ws →
      Agree Q B E (rebind vs) (rebind' ws)) (turns : Nat) :
    ∀ env env', E env env' → Agree Q B (Value.AlikePruned Q)
      (iterate limit body rebind turns env) (iterate limit body' rebind' turns env') := by
  induction turns with
  | zero =>
    intro env env' he
    rw [iterate_zero, iterate_zero]
    exact (hb env env' he).orAgain fun _ _ _ _ => .fail rfl
  | succ turns ih =>
    intro env env' he
    rw [iterate_succ, iterate_succ]
    exact (hb env env' he).orAgain fun vs ws hl hvs => (hr vs ws hl hvs).bind ih

end EvalM.Agree

/-! ## Tools that see functions -/

namespace Tools

/-- The answers of tools to two calls differ, apart from bindings that no function asks for. -/
def Distinguishes (t : Tools) (calls calls' : List ToolCall) (c c' : ToolCall) : Prop :=
  (t.answer calls c.name c.args).map Value.pruned ≠ (t.answer calls' c'.name c'.args).map Value.pruned

/-- The tools tell a call apart from another one that differs from it, or in the calls made before it, only
in bindings that no function asks for. -/
def TellsApart (t : Tools) (calls : List ToolCall) (c : ToolCall) : Prop :=
  ∃ calls' c', calls'.map ToolCall.pruned = calls.map ToolCall.pruned ∧ c'.pruned = c.pruned ∧
    t.Distinguishes calls calls' c c'

/-- Being told apart does not depend on bindings that no function asks for. -/
theorem TellsApart.congr {t : Tools} {calls calls' : List ToolCall} {c c' : ToolCall}
    (hcalls : calls'.map ToolCall.pruned = calls.map ToolCall.pruned) (hc : c'.pruned = c.pruned)
    (h : t.TellsApart calls c) : t.TellsApart calls' c' := by
  by_cases hsame : t.Distinguishes calls' calls c' c
  · exact ⟨calls, c, hcalls.symm, hc.symm, hsame⟩
  · -- the call that the tools tell apart from `c` is also one that they tell apart from `c'`
    obtain ⟨calls'', c'', hcalls', hc', hdiff⟩ := h
    refine ⟨calls'', c'', hcalls'.trans hcalls.symm, hc'.trans hc.symm, fun heq => ?_⟩
    exact hdiff ((Classical.not_not.1 hsame).symm.trans heq)

open Classical in
/-- The tools that fail where the given ones tell a call apart from another one. -/
noncomputable def blind (t : Tools) : Tools where
  has := t.has
  answer calls name args :=
    if t.TellsApart calls ⟨name, args⟩ then .error "" else t.answer calls name args

/-- Blind tools answer like the given ones where these tell no calls apart. -/
theorem blind_sameUnless (t : Tools) : t.SameUnless t.TellsApart t.blind :=
  ⟨fun _ => rfl, fun hc => if_neg hc⟩

/-- A blind tool answers nothing that the given one does not. -/
theorem answer_of_blind {t : Tools} {calls : List ToolCall} {name : String} {args : Entries} {v : Value}
    (hv : t.blind.answer calls name args = .ok v) : t.answer calls name args = .ok v := by
  unfold blind at hv
  dsimp only at hv
  split at hv
  · cases hv
  · exact hv

/-- Tools that fail so tell no calls apart. -/
theorem blind_answer (t : Tools) {calls calls' : List ToolCall} {name : String} {args args' : Entries}
    (hcalls : calls.map ToolCall.pruned = calls'.map ToolCall.pruned)
    (hargs : Entries.rebind Env.needed args = Entries.rebind Env.needed args') :
    (t.blind.answer calls name args).map Value.pruned =
      (t.blind.answer calls' name args').map Value.pruned := by
  have hc : (ToolCall.mk name args).pruned = (ToolCall.mk name args').pruned :=
    congrArg (ToolCall.mk name) hargs
  unfold blind
  dsimp only
  by_cases happart : t.TellsApart calls ⟨name, args⟩
  · rw [if_pos happart, if_pos (happart.congr hcalls.symm hc.symm)]
  · rw [if_neg happart, if_neg fun h => happart (h.congr hcalls hc)]
    by_contra hdiff
    exact happart ⟨calls', ⟨name, args'⟩, hcalls.symm, hc.symm, hdiff⟩

end Tools

/-- The host whose tools tell no calls apart. -/
noncomputable def Host.blind (h : Host) : Host :=
  { h with tools := h.tools.blind }

theorem Host.EachFn.blind {h : Host} (hh : h.EachFn Q) : h.blind.EachFn Q where
  context := hh.context
  memory := hh.memory
  tools hc ha hv := hh.tools hc ha (Tools.answer_of_blind hv)

/-- Blind tools cannot show bindings that no function asks for. -/
theorem EvalM.Agree.askTool {h : Host} (hh : h.EachFn Q) (name : String) {args args' : Entries}
    (ha : Value.AlikePruned Q (.map args) (.map args')) :
    Agree Q A (Value.AlikePruned Q) (askTool h.blind.tools name args)
      (askTool h.blind.tools name args') := by
  intro s s' hs
  have hcalls : s.pruned.calls = s'.pruned.calls := congrArg RunState.calls hs.1
  obtain ⟨hargs, hentries, hentries'⟩ := ha.entries
  -- blind tools see what is left of the arguments, and this is the same on both sides
  have hanswers : (h.blind.tools.answer s.calls name args).map Value.pruned =
      (h.blind.tools.answer s'.calls name args').map Value.pruned :=
    h.tools.blind_answer hcalls hargs
  have hafter := hs.askTool name ha
  unfold EvalM.askTool
  dsimp only
  cases hv : h.blind.tools.answer s.calls name args with
  | ok v =>
    cases hw : h.blind.tools.answer s'.calls name args' with
    | ok w =>
      rw [hv, hw] at hanswers
      exact ⟨hafter, .ok ⟨Except.ok.inj hanswers, hh.blind.tools hs.2.1.2 hentries hv,
        hh.blind.tools hs.2.2.2 hentries' hw⟩⟩
    | error reason =>
      rw [hv, hw] at hanswers
      cases hanswers
  | error reason =>
    cases hw : h.blind.tools.answer s'.calls name args' with
    | ok w =>
      rw [hv, hw] at hanswers
      cases hanswers
    | error reason' =>
      rw [hv, hw] at hanswers
      cases hanswers
      exact ⟨hafter, .error rfl⟩

/-! ## Expressions and calls -/

section

variable {G : Place → Expr → Prop} (D : Discipline Q G) {h : Host} (hh : h.EachFn Q)
include D hh

/-- What is shown of computations carries over to all expressions and calls. -/
theorem agreeing_simulation {call : Value → List Value → EvalM Value}
    (hc : ∀ f g args args', Value.AlikePruned Q f g →
      Value.AllAlike Env.needed (Value.EachFn Q) args args' →
      Agree Q (Place.Takes none) (Value.AlikePruned Q) (call f args) (call g args')) :
    ScopedSimulation Env.needed (Value.EachFn Q) G (Env.AgreeOn Q) h.blind h.blind call
      (.running h.blind call) (fun _ => Agree Q (Place.Takes none))
      (fun a => Agree Q a.Takes (Value.AlikePruned Q)) where
  part := D.part
  subset := .subset
  bound := .bound
  fn stamp hg he := ⟨Env.AgreeOn.closure_iff.2 he.1, .closure (D.fn _ hg) he.2.1,
    .closure (D.fn _ hg) he.2.2⟩
  entered hf := by
    have hq := hf.2.1.of_closure
    exact ⟨⟨Env.AgreeOn.closure_iff.1 hf.1, hq.2, hf.2.2.of_closure.2⟩, D.enter hq.1⟩
  tools _ := rfl
  context name := .self (entryNamed_eachFn hh.context name)
  memory name := .self (entryNamed_eachFn hh.memory name)
  value := .pure
  values hn hvs := .pure ⟨hn, hvs⟩
  entries := .pure
  bindings := .pure
  test _ := .pure rfl
  bind := .bind
  host hx := hx
  fail he _ _ := .fail he
  failed hvw := .fail (congrArg EvalError.failed hvw.1)
  ret hvw := fun _ _ hs => ⟨hs, .ret hvw⟩
  freshStamp := .freshStamp
  lookupVar he := .lookupVar h.blind he
  define _ hvw := .define _ hvw
  askTool _ ha := .askTool hh _ ha
  call hf ha := hc _ _ _ _ hf ha
  loop hb hr := by
    refine .iterate hb (fun vs ws hl hvs => ?_) _
    have hrebind := hr vs ws hvs
    rwa [if_pos (Option.some.inj hl).symm] at hrebind
  row hrow := .pure ⟨_, _, hrow, rfl, rfl⟩
  rowLoop {body body'} hb hr := by
    have hturn (env env' : Env) (he : RowsAlike Env.needed (Value.EachFn Q) env env') :
        Agree Q (Place.Takes (some 1)) (Value.AlikePruned Q) (body (rowOf env)) (body' (rowOf env')) :=
      hb _ _ he.rowOf
    exact .iterate hturn (fun vs ws _ hvs => hr vs ws hvs) _
  recur hg hl hvs := fun _ _ hs => ⟨hs, .recur (hl ▸ D.recur hg) hvs⟩
  last hx := hx.mono fun _ => .of_none
  before hx hf := (hx.mono fun _ => .of_none).bind hf
  inside hx := hx

/-- Calls of values with the same pruned form agree. By induction on the calls that may be nested. -/
theorem callAt_agree (n : Nat) : ∀ f g args args', Value.AlikePruned Q f g →
    Value.AllAlike Env.needed (Value.EachFn Q) args args' →
    Agree Q (Place.Takes none) (Value.AlikePruned Q) (callAt h.blind n f args)
      (callAt h.blind n g args') := by
  induction n with
  | zero => exact fun _ _ _ _ _ _ => .fail rfl
  | succ n ih =>
    intro f g args args' hf ha
    have hsim := (agreeing_simulation D hh ih).dispatch_sim hf ha
    rwa [Interpretation.dispatch_running] at hsim

/-- Evaluations in bindings that agree on the free names agree. -/
theorem eval_agree (n : Nat) {a : Place} {e : Expr} (hg : G a e) {env env' : Env}
    (he : Env.AgreeOn Q e.free env env') :
    Agree Q a.Takes (Value.AlikePruned Q) (eval h.blind (callAt h.blind n) e env)
      (eval h.blind (callAt h.blind n) e env') := by
  have hsim := (agreeing_simulation D hh (callAt_agree D hh n)).eval_sim e a env env' hg he
  rwa [Interpretation.eval_running] at hsim

end

/-! ## Runs with the given tools -/

/-- Calls with the same pruned forms are told apart alike. -/
theorem NoneOdd.of_pruned {t : Tools} {before calls calls' : List ToolCall}
    (h : NoneOdd t.TellsApart before calls) (hbefore : before <:+ calls)
    (hcalls : calls.map ToolCall.pruned = calls'.map ToolCall.pruned) :
    NoneOdd t.TellsApart before calls' := by
  rintro earlier c hb ⟨later, rfl⟩ happart
  rw [List.map_append, List.map_cons, List.map_eq_append_iff] at hcalls
  obtain ⟨later', rest, rfl, -, hrest⟩ := hcalls
  obtain ⟨c', earlier', rfl, hc, hearlier⟩ := List.map_eq_cons_iff.1 hrest
  have hlength : before.length ≤ earlier'.length := by
    have hsame := congrArg List.length hearlier
    rw [List.length_map, List.length_map] at hsame
    exact hsame ▸ hb.length_le
  have hsuffix : c' :: earlier' <:+ later' ++ c' :: earlier' := List.suffix_append _ _
  have hb' : before <:+ earlier' :=
    List.suffix_of_suffix_length_le hbefore ((List.suffix_cons c' earlier').trans hsuffix) hlength
  exact h earlier' c' hb' hsuffix (happart.congr hearlier hc)

/-- Computations that agree with blind tools also agree with the given ones, in runs in which these tell no
calls apart. -/
theorem EvalM.Agree.of_blind {t : Tools} {x x' y y' : EvalM Value} {P : Value → Value → Prop}
    (hagree : Agree Q A P x' y') (hx : Consults t.TellsApart (fun _ => True) x x')
    (hy : Consults t.TellsApart (fun _ => True) y' y) {s : RunState} (hs : s.EachFn Q)
    (hodd : NoneOdd t.TellsApart s.calls (x s).2.calls) :
    (x s).2.Alike Q (y s).2 ∧ EndsAlike Q A P (x s).1 (y s).1 := by
  have h := hagree s s ⟨rfl, hs, hs⟩
  rw [(hx s).same hodd] at h
  have hodd' := hodd.of_pruned (hx s).suffix (congrArg RunState.calls h.1.1)
  rw [(hy s).same hodd']
  exact h

/-! ## What the host sees -/

/-- There is no function in a value. -/
def Value.WithoutFns (v : Value) : Prop :=
  v.EachFn fun _ _ _ => False

theorem eq_of_map_eq_map {f : α → β} {xs ys : List α} (h : xs.map f = ys.map f)
    (hf : ∀ y ∈ ys, ∀ x, f x = f y → x = y) : xs = ys := by
  induction ys generalizing xs with
  | nil => exact List.map_eq_nil_iff.1 h
  | cons y ys ih =>
    obtain ⟨x, xs, rfl, hx, hxs⟩ := List.map_eq_cons_iff.1 h
    obtain ⟨hy, hys⟩ := List.forall_mem_cons.1 hf
    rw [hy x hx, ih hxs hys]

/-- A value without functions differs in its pruned form from every other value. -/
theorem Value.WithoutFns.eq_of_pruned {v : Value} (hv : v.WithoutFns) :
    ∀ w : Value, w.pruned = v.pruned → w = v := by
  -- pruning changes the environments of functions only, so `w` has the shape of `v`
  have hmatching {u w : Value} (h : w.pruned = u.pruned) : Matching Env.needed (fun _ => True) w u :=
    Alike.matching ⟨h, trivial, trivial⟩
  unfold WithoutFns at hv
  induction hv with
  | nil | bool | number | string | keyword | builtin | tool =>
    intro w h
    cases hmatching h
    rfl
  | vector _ ih =>
    intro w h
    cases hmatching h with
    | vector hws => rw [eq_of_map_eq_map hws.1 ih]
  | map _ _ ihk ihv =>
    intro w h
    cases hmatching h with
    | map hm =>
      rw [eq_of_map_eq_map hm.1 fun e he e' hpair => ?_]
      exact Prod.ext (ihk e he e'.1 (congrArg Prod.fst hpair)) (ihv e he e'.2 (congrArg Prod.snd hpair))
  | closure hq => exact hq.elim
  | rowTest _ ih =>
    intro w h
    cases hmatching h with
    | rowTest hw => rw [ih _ hw]
  | combined _ ih =>
    intro w h
    cases hmatching h with
    | combined hws => rw [eq_of_map_eq_map hws.1 ih]

/-- Two values that differ at most in bindings that no function asks for. They have the same text, and they
are equal if there is no function in them. -/
structure Value.Matches (v w : Value) : Prop where
  /-- The pruned forms. -/
  pruned : v.pruned = w.pruned
  /-- The texts. -/
  text : v.render = w.render
  /-- The values themselves. -/
  same : v.WithoutFns → v = w

/-- Values with the same pruned form have the same text. -/
theorem Value.Matches.of_pruned {v w : Value} (h : v.pruned = w.pruned) : v.Matches w :=
  ⟨h, (render_rebind v).symm.trans ((congrArg render h).trans (render_rebind w)),
    fun hv => (hv.eq_of_pruned w h.symm).symm⟩

/-- Two calls of the same tool with arguments that match. -/
structure ToolCall.Matches (c c' : ToolCall) : Prop where
  /-- The tool. -/
  name : c.name = c'.name
  /-- The arguments. -/
  args : (Value.map c.args).Matches (.map c'.args)

theorem ToolCall.Matches.of_pruned {c c' : ToolCall} (h : c.pruned = c'.pruned) : c.Matches c' := by
  obtain ⟨hname, hargs⟩ := ToolCall.mk.inj h
  refine ⟨hname, .of_pruned ?_⟩
  exact (Value.rebind_map _).trans ((congrArg Value.map hargs).trans (Value.rebind_map _).symm)

/-- Two programs end in the same way: with values that match, or with the same error. -/
inductive Evaluation.Matches : Except EvalError Evaluation → Except EvalError Evaluation → Prop
  /-- Both give a value, or end themselves with a value. -/
  | value {v w : Value} {returned : Bool} : v.Matches w → Matches (.ok ⟨v, returned⟩) (.ok ⟨w, returned⟩)
  /-- Both stop with an error. -/
  | error {e e' : EvalError} : e.message = e'.message → e.kind = e'.kind →
    e.rebind Env.needed = e'.rebind Env.needed → Matches (.error e) (.error e')

/-- What a computation comes to, and the state that it leaves. -/
def EvalM.outcome (x : EvalM Value) (s : RunState) : Except EvalError Evaluation × RunState :=
  (Evaluation.ofResult (x s).1, (x s).2)

/-- Two evaluations make the same calls of tools, leave the same definitions and end in the same way. -/
structure SameOutcome (r r' : Except EvalError Evaluation × RunState) : Prop where
  /-- The ends. -/
  ends : Evaluation.Matches r.1 r'.1
  /-- The calls of tools. -/
  calls : List.Forall₂ ToolCall.Matches r.2.calls r'.2.calls
  /-- The definitions. -/
  definitions : Env.rebind Env.needed r.2.definitions = Env.rebind Env.needed r'.2.definitions

theorem Evaluation.Matches.of_endsAlike {r r' : Except Signal Value}
    (h : EndsAlike Q A (Value.AlikePruned Q) r r') :
    Evaluation.Matches (Evaluation.ofResult r) (Evaluation.ofResult r') := by
  cases h with
  | ok hvw => exact .value (.of_pruned hvw.1)
  | error he =>
    refine .error ?_ ?_ he
    · rw [← EvalError.message_rebind, he, EvalError.message_rebind]
    · rw [← EvalError.kind_rebind, he, EvalError.kind_rebind]
  | ret hvw => exact .value (.of_pruned hvw.1)
  | recur _ _ => exact .error rfl rfl rfl

/-- Two computations that end alike have the same outcome. -/
theorem SameOutcome.of_alike {x y : EvalM Value} {s s' : RunState}
    (h : (x s).2.Alike Q (y s').2 ∧ EndsAlike Q A (Value.AlikePruned Q) (x s).1 (y s').1) :
    SameOutcome (x.outcome s) (y.outcome s') := by
  obtain ⟨hdefinitions, hcalls, -⟩ := RunState.mk.inj h.1.1
  refine ⟨.of_endsAlike h.2, ?_, hdefinitions⟩
  rw [← List.forall₂_eq_eq_eq, List.forall₂_map_left_iff, List.forall₂_map_right_iff] at hcalls
  exact hcalls.imp fun _ _ => .of_pruned

/-- Tools cannot tell calls apart in which there are no functions. -/
theorem Tools.not_tellsApart (t : Tools) {calls : List ToolCall} {c : ToolCall}
    (h : ∀ c' ∈ c :: calls, (Value.map c'.args).WithoutFns) : ¬ t.TellsApart calls c := by
  rintro ⟨calls', c', hcalls, hc, hdiff⟩
  have hsame : ∀ d ∈ c :: calls, ∀ d' : ToolCall, d'.pruned = d.pruned → d' = d := by
    intro d hmem d' hd
    have hmatch := ToolCall.Matches.of_pruned hd.symm
    exact congrArg₂ ToolCall.mk hmatch.name.symm (Value.map.inj (hmatch.args.same (h d hmem))).symm
  obtain ⟨hfirst, hrest⟩ := List.forall_mem_cons.1 hsame
  obtain rfl := hfirst c' hc
  obtain rfl := eq_of_map_eq_map hcalls hrest
  exact hdiff rfl

/-- A tool that reads the binding of `z` in the function which is passed to it. -/
def Tools.peek : Tools where
  has := (· == "peek")
  answer _ _ args :=
    match entryNamed args "f" with
    | .closure _ _ _ env => .ok ((Env.lookup? env "z").getD .nil)
    | _ => .error "no function"

/-- A function that no program makes: the default of its parameter is a `recur`, which no loop of its own
catches. -/
def Value.escaping : Value :=
  .closure 0 [.map [(.name "a", .keyword "a", some (.recur []))]] (.literal .nil) []

/-- The text of the value of a program. -/
def textOfValue? (h : Host) (source : String) (env : Env) (s : RunState) : Option String := do
  let program ← (compile source).toOption
  let e ← (evaluate h program env s).1.toOption
  return e.value.render

/-- The free names of a program. -/
def freeNames? (source : String) : Option (List String) :=
  (compile source).toOption.map Expr.free

end ToolLisp
