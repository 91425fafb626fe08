import ToolLisp.Proofs.Hygiene
import ToolLisp.Proofs.RecurSoundness

/-!
# Temporaries in a run

A temporary is bound wherever it is read. So no run of a program ends with the error of a variable without a
value whose name is generated.

`EvalM.Spares` says this of a computation, besides that it is sound. It is shown of every expression by the
induction of `ScopedSimulation`, in which evaluation is related to itself: the generated names among those that
are still asked for are bound (`Env.Covers`). A function asks for no generated name, so this holds of the
bindings of every function that is called. Loops are covered by induction on the turns that are left, and calls
by induction on the depth.
-/

namespace ToolLisp

open EvalM Expr

variable {V : Value → Prop} {A B : Nat → Prop} {α β : Type}

/-! ## Computations without the error -/

/-- A computation is sound, and does not end with the error of a variable with a generated name. -/
structure EvalM.Spares (V : Value → Prop) (A : Nat → Prop) (P : α → Prop) (x : EvalM α) : Prop where
  sound : Sound V A P x
  unbound : ∀ s, RunState.Each V s → ∀ name, (x s).1 = .error (.error (.unbound name)) →
    isGenerated name = false

/-- A computation that gives the value of its place, where all functions come from programs. -/
abbrev EvalM.SparesAt (a : Place) (x : EvalM Value) : Prop :=
  Spares (Value.EachFn FromProgram) a.Takes (Value.EachFn FromProgram) x

namespace EvalM.Spares

variable {P : α → Prop} {R : β → Prop}

theorem pure {v : α} (hv : P v) : Spares V A P (pure v) :=
  ⟨.pure hv, fun _ _ _ h => by cases h⟩

theorem bind {x : EvalM α} {f : α → EvalM β} (hx : Spares V A P x)
    (hf : ∀ v, P v → Spares V A R (f v)) : Spares V A R (x >>= f) := by
  refine ⟨hx.sound.bind fun v hv => (hf v hv).sound, fun s hs name h => ?_⟩
  have hsound := hx.sound s hs
  have hunbound := hx.unbound s hs name
  rw [bind_apply] at h
  rcases hr : x s with ⟨e | v, s'⟩
  · rw [hr] at h hunbound
    cases h
    exact hunbound rfl
  · rw [hr] at h hsound
    exact (hf v hsound.2).unbound s' hsound.1 name h

/-- A computation may stand where more is allowed. -/
theorem mono {x : EvalM α} (hx : Spares V A P x) (hAB : ∀ n, A n → B n) : Spares V B P x :=
  ⟨hx.sound.mono hAB, hx.unbound⟩

theorem cut {e : Signal} (he : e.Fits V A)
    (hname : ∀ name, e = .error (.unbound name) → isGenerated name = false) : Spares V A P (cut e) :=
  ⟨.cut he, fun _ _ name h => hname name (Except.error.inj h)⟩

theorem fail {e : EvalError} (he : e ≠ .type .strayRecur)
    (hname : ∀ name, e = .unbound name → isGenerated name = false) : Spares V A P (fail e) :=
  cut he fun name h => hname name (Signal.error.inj h)

/-- A computation that does not fail. -/
theorem of_ok {x : EvalM α} (hx : Sound V A P x) (hok : ∀ s, ∃ v, (x s).1 = .ok v) : Spares V A P x := by
  refine ⟨hx, fun s _ name h => ?_⟩
  obtain ⟨v, hv⟩ := hok s
  rw [hv] at h
  cases h

theorem askTool {h : Host} (hh : h.Each V) (name : String) {args : Entries} (ha : V (.map args)) :
    Spares V A V (askTool h.tools name args) := by
  refine ⟨.askTool hh name ha, fun s _ other herr => ?_⟩
  unfold EvalM.askTool at herr
  dsimp only at herr
  cases ht : h.tools.answer s.calls name args <;> rw [ht] at herr <;> cases herr

/-- A turn of a loop, and what follows if it asks for another turn. -/
theorem orAgain {x : EvalM Value} {again : List Value → EvalM Value} (hx : Spares V A V x)
    (ha : ∀ vs, A vs.length → (∀ v ∈ vs, V v) → Spares V B V (again vs)) :
    Spares V B V (x.orAgain again) := by
  refine ⟨hx.sound.orAgain fun vs hl hvs => (ha vs hl hvs).sound, fun s hs name h => ?_⟩
  have hsound := hx.sound s hs
  have hunbound := hx.unbound s hs name
  simp only [EvalM.orAgain] at h
  rcases hr : x s with ⟨e | v, s'⟩
  · rw [hr] at h hsound hunbound
    cases e with
    | error e => exact hunbound h
    | ret v => cases h
    | recur vs => exact (ha vs hsound.2.1 hsound.2.2).unbound s' hsound.1 name h
  · rw [hr] at h
    cases h

/-- A loop whose bindings have a property, provided that each turn asks for another one with values for which
they have it again. By induction on the turns that are left. -/
theorem iterate {N : Env → Prop} {limit : Nat} {body : Env → EvalM Value} {rebind : List Value → EvalM Env}
    (hb : ∀ env, N env → Spares V A V (body env))
    (hr : ∀ vs, A vs.length → (∀ v ∈ vs, V v) → Spares V B N (rebind vs)) (turns : Nat) :
    ∀ env, N env → Spares V B V (iterate limit body rebind turns env) := by
  induction turns with
  | zero =>
    intro env he
    rw [iterate_zero]
    exact (hb env he).orAgain fun _ _ _ => .fail (fun h => by cases h) fun _ h => by cases h
  | succ turns ih =>
    intro env he
    rw [iterate_succ]
    exact (hb env he).orAgain fun vs hl hvs => (hr vs hl hvs).bind ih

end EvalM.Spares

/-! ## Expressions and calls -/

/-- The generated names among `names` are bound, and the functions in the bindings come from programs. -/
def Env.Covers (names : List String) (env : Env) : Prop :=
  Env.EachFn FromProgram env ∧
    ∀ name ∈ names, isGenerated name = true → (Env.lookup? env name).isSome = true

/-- The same bindings on both sides, which cover the names. -/
def Env.BothCover (names : List String) (env env' : Env) : Prop :=
  env = env' ∧ Env.Covers names env

theorem Env.Covers.bound {names : List String} {name : String} {env : Env} {v : Value}
    (hv : v.EachFn FromProgram) (h : Env.Covers (names.filter (· != name)) env) :
    Env.Covers names (Env.bind env name v) := by
  refine ⟨Env.Each.bind h.1 name hv, fun other hother hgen => ?_⟩
  by_cases hname : name = other
  · simp [Env.lookup?, Env.bind, hname]
  · have hcovered := h.2 other (List.mem_filter.2 ⟨hother, by simpa using Ne.symm hname⟩) hgen
    simpa [Env.lookup?, Env.bind, hname] using hcovered

/-- A function of a program asks for no generated name. -/
theorem isGenerated_of_fromProgram {params : List Pattern} {body : Expr} {env : Env}
    (h : FromProgram params body env) : ∀ x ∈ (Expr.fn params body).free, isGenerated x = false := by
  obtain ⟨source, program, a, hp, ho⟩ := h
  exact (compile_hygienic hp).1.function params body ho.mem_within

theorem EvalM.Spares.lookupVar (h : Host) {name : String} {env : Env} (he : Env.Covers [name] env) :
    Spares (Value.EachFn FromProgram) A (Value.EachFn FromProgram) (lookupVar h name env) := by
  unfold ToolLisp.lookupVar
  cases hl : Env.lookup? env name with
  | some v => exact .pure (Env.Each.lookup? he.1 name v hl)
  | none =>
    -- a generated name would be bound
    have hplain : isGenerated name = false := by
      refine Bool.eq_false_iff.2 fun hgen => ?_
      have hbound := he.2 name (List.mem_singleton.2 rfl) hgen
      rw [hl] at hbound
      cases hbound
    refine .bind (.of_ok (.definition? name) fun _ => ⟨_, rfl⟩) fun o ho => ?_
    cases o with
    | some v => exact .pure (ho v rfl)
    | none =>
      dsimp only
      split
      · exact .pure (Value.Stable.tool name)
      · refine .fail (fun h => by cases h) fun other h => ?_
        cases h
        exact hplain

section

variable {h : Host} (hh : h.EachFn FromProgram)
include hh

/-- Evaluation is related to itself, in bindings that cover the names that are asked for. -/
theorem sparing_simulation {call : Value → List Value → EvalM Value}
    (hc : ∀ f args, f.EachFn FromProgram → (∀ v ∈ args, v.EachFn FromProgram) →
      SparesAt none (call f args)) :
    ScopedSimulation Env.keep (Value.EachFn FromProgram) Proper Env.BothCover h h call (.running h call)
      (fun _ P x _ => Spares (Value.EachFn FromProgram) (Place.Takes none) (fun a => P a a) x)
      (fun a x _ => SparesAt a x) where
  -- a run is compared with itself, so both sides have the same bindings and the same values
  part := proper_discipline.part
  subset hsub he := ⟨he.1, he.2.1, fun name hname => he.2.2 name (hsub hname)⟩
  bound hvw he := by
    obtain ⟨rfl, hv⟩ := Value.alike_keep.1 hvw
    obtain ⟨rfl, he⟩ := he
    exact ⟨rfl, he.bound hv⟩
  fn stamp hg he := by
    obtain ⟨rfl, he⟩ := he
    exact .self (.closure (proper_discipline.fn _ hg) he.1)
  entered hf := by
    obtain ⟨henv, hv⟩ := Value.alike_keep.1 hf
    cases henv
    have ⟨hfn, henv⟩ := hv.of_closure
    refine ⟨⟨rfl, henv, fun name hname hgen => ?_⟩, proper_discipline.enter hfn⟩
    rw [isGenerated_of_fromProgram hfn name hname] at hgen
    cases hgen
  tools _ := rfl
  context name := .self (entryNamed_eachFn hh.context name)
  memory name := .self (entryNamed_eachFn hh.memory name)
  value hvw := by
    obtain ⟨rfl, -⟩ := Value.alike_keep.1 hvw
    exact .pure hvw
  values hn hvs := by
    obtain ⟨rfl, -⟩ := Value.allAlike_keep.1 hvs
    exact .pure ⟨hn, hvs⟩
  entries hes := by
    obtain ⟨rfl, -⟩ := Entries.alike_keep.1 hes
    exact .pure hes
  bindings he := by
    obtain ⟨rfl, he⟩ := he
    exact .pure ⟨rfl, he⟩
  test _ := .pure rfl
  bind hx hf := hx.bind fun a ha => hf a a ha
  host hx := hx
  fail _ hne hplain := .fail hne fun name h => by
    rw [h] at hplain
    cases hplain
  failed _ := .fail (fun h => by cases h) fun _ h => by cases h
  ret hvw := .cut hvw.2.1 fun _ h => by cases h
  freshStamp := .of_ok (by simpa using Sound.freshStamp) fun _ => ⟨_, rfl⟩
  lookupVar he := by
    obtain ⟨rfl, he⟩ := he
    rw [EnvSimulation.alike_self]
    exact .lookupVar h he
  define _ hvw := .of_ok (by simpa using Sound.define _ hvw.2.1) fun _ => ⟨_, rfl⟩
  askTool _ ha := by
    rw [EnvSimulation.alike_self]
    exact .askTool hh.each _ ha.2.1
  call hf ha := by
    rw [EnvSimulation.alike_self]
    exact hc _ _ hf.2.1 ha.2.1
  loop hb hr env env' he := by
    obtain ⟨rfl, he⟩ := he
    rw [EnvSimulation.alike_self]
    refine .iterate (fun env he => hb env env ⟨rfl, he⟩) (fun vs hl hvs => ?_) _ env he
    have hrebind := hr vs vs (Value.allAlike_keep.2 ⟨rfl, hvs⟩)
    rw [if_pos (Option.some.inj hl).symm] at hrebind
    simpa [Env.BothCover] using hrebind
  row hrow := by
    obtain ⟨rfl, -⟩ := Value.alike_keep.1 hrow
    exact .pure ⟨_, _, hrow, rfl, rfl⟩
  rowLoop {body _} hb hr env env' he := by
    obtain ⟨rfl, hbinds⟩ := rowsAlike_keep.1 he
    rw [EnvSimulation.alike_self]
    have hturn (env : Env) (he : BindsRow (Value.EachFn FromProgram) env) :
        SparesAt (some 1) (body (rowOf env)) :=
      hb _ _ (.self he.rowOf)
    refine .iterate hturn (fun vs _ hvs => ?_) _ env hbinds
    have hrebind := hr vs vs (Value.allAlike_keep.2 ⟨rfl, hvs⟩)
    rwa [rowsAlike_self] at hrebind
  recur hg hl hvs := .cut ⟨hl ▸ proper_discipline.recur hg, hvs.2.1⟩ fun _ h => by cases h
  last hx := by
    rw [EnvSimulation.alike_self] at hx
    exact hx.mono fun _ => .of_none
  before hx hf := (hx.mono fun _ => .of_none).bind fun v hv => hf v v hv
  inside hx := by
    rw [EnvSimulation.alike_self]
    exact hx

/-- Calls do not end with the error. By induction on the number of calls that may still be nested. -/
theorem callAt_spares (n : Nat) : ∀ f args, f.EachFn FromProgram → (∀ v ∈ args, v.EachFn FromProgram) →
    SparesAt none (callAt h n f args) := by
  induction n with
  | zero => exact fun _ _ _ _ => .fail (fun h => by cases h) fun _ h => by cases h
  | succ n ih =>
    intro f args hf ha
    have hsim := (sparing_simulation hh ih).dispatch_sim (.self hf) (Value.allAlike_keep.2 ⟨rfl, ha⟩)
    rwa [EnvSimulation.alike_self] at hsim

/-- Evaluating a proper expression in bindings that cover its free names. -/
theorem eval_spares (n : Nat) {a : Place} {e : Expr} (hg : Proper a e) {env : Env}
    (he : Env.Covers e.free env) : SparesAt a (eval h (callAt h n) e env) :=
  (sparing_simulation hh (callAt_spares hh n)).eval_sim e a env env hg ⟨rfl, he⟩

end

/-- A program whose free names are not generated does not end with the error. -/
theorem evaluate_ne_unbound {h : Host} (hh : h.EachFn FromProgram) {program : Expr} (hg : Proper none program)
    (hfree : ∀ x ∈ program.free, isGenerated x = false) {env : Env} (henv : Env.EachFn FromProgram env)
    {s : RunState} (hs : s.EachFn FromProgram) {name : String} (hname : isGenerated name = true) :
    (evaluate h program env s).1 ≠ .error (.unbound name) := by
  intro herr
  have hcovers : Env.Covers program.free env := by
    refine ⟨henv, fun x hx hgen => ?_⟩
    rw [hfree x hx] at hgen
    cases hgen
  have hspares := (eval_spares hh h.limits.recursion hg hcovers).unbound s (RunState.eachFn_iff.1 hs) name
  unfold evaluate callTop at herr
  rcases hr : eval h (callAt h h.limits.recursion) program env s with ⟨e | v, s'⟩
  · rw [hr] at herr hspares
    cases e with
    | error e =>
      cases herr
      rw [hspares rfl] at hname
      cases hname
    | ret v => cases herr
    | recur vs => cases herr
  · rw [hr] at herr
    cases herr

/-! ## Programs -/

/-- The temporary `t` is made in one place of an expression. It is read only there and in its scope, and what
was given to that place neither reads it nor binds it. -/
structure Expr.MadeOnce (e : Expr) (t : String) (p : Pattern) (value yes no : Expr) : Prop where
  made : Analyze.bindTruthy t p value yes no ∈ e.within
  bound : e.boundNames.count t = 1
  read : e.readNames.count t = 2
  scope : (Expr.choose (.var t) (.bind [(p, .var t)] yes) no).readNames.count t = 2
  pattern : t ∉ p.names
  given : ∀ e' ∈ value :: no :: yes :: p.defaults, t ∉ e'.readNames ∧ t ∉ e'.boundNames

/-- A temporary is made somewhere. -/
theorem Expr.exists_of_mem_temporaries {e : Expr} {t : String} (h : t ∈ e.temporaries) :
    isGenerated t = true ∧ ∃ p value yes no, Analyze.bindTruthy t p value yes no ∈ e.within := by
  obtain ⟨e', he', ht⟩ := List.mem_flatMap.1 h
  rw [temporaryHere.eq_def] at ht
  split at ht
  · next t' value test p read yes no =>
    split at ht
    · next htemporary =>
      obtain ⟨hgen, rfl, rfl⟩ := htemporary
      obtain rfl := List.mem_singleton.1 ht
      exact ⟨hgen, p, value, yes, no, he'⟩
    · cases ht
  · cases ht

/-- In a hygienic expression with different temporaries each is made once. -/
theorem Expr.Hygienic.exists_madeOnce {e : Expr} (he : e.Hygienic) (hd : e.temporaries.Nodup) {t : String}
    (ht : t ∈ e.temporaries) : ∃ p value yes no, e.MadeOnce t p value yes no := by
  obtain ⟨hgen, p, value, yes, no, hmade⟩ := e.exists_of_mem_temporaries ht
  have hone : e.temporaries.count t = 1 := List.count_eq_one_of_mem hd ht
  have hbound : e.boundNames.count t = 1 := (he.bound t hgen).trans hone
  have hread : e.readNames.count t = 2 := by rw [he.read t hgen, hone]
  -- the place where it is made accounts for all of its uses, so nothing is left for what was given to it
  have hreads : ((value :: no :: yes :: p.defaults).flatMap readNames).count t = 0 := by
    have hle := count_gather_le hmade readHere t
    rw [count_gather_bindTruthy] at hle
    simp only [Analyze.bindTruthy, readHere, List.count_nil, List.count_singleton_self] at hle
    rw [readNames] at hread ⊢
    omega
  have hbinds : p.names.count t = 0 ∧ ((value :: no :: yes :: p.defaults).flatMap boundNames).count t = 0 := by
    have hle := count_gather_le hmade boundHere t
    rw [count_gather_bindTruthy] at hle
    simp only [Analyze.bindTruthy, boundHere, List.flatMap_singleton, Pattern.names, List.count_nil,
      List.count_singleton_self] at hle
    rw [boundNames] at hbound ⊢
    omega
  have hscope : (Expr.choose (.var t) (.bind [(p, .var t)] yes) no).readNames.count t = 2 := by
    have hwhole := count_gather readHere (Analyze.bindTruthy t p value yes no) t
    have hvalue : value.readNames.count t = 0 := by
      rw [List.flatMap_cons, List.count_append] at hreads
      omega
    rw [readNames] at hreads hvalue ⊢
    rw [count_gather_bindTruthy, hreads, Analyze.bindTruthy, direct_bind] at hwhole
    simp only [readHere, ofBindings, Pattern.defaults, List.flatMap_cons, List.flatMap_nil, List.append_nil,
      List.count_nil, List.count_singleton_self, List.count_append, hvalue] at hwhole
    omega
  refine ⟨p, value, yes, no, hmade, hbound, hread, hscope, List.count_eq_zero.1 hbinds.1, fun e' he' => ?_⟩
  have hnone (here : Expr → List String) (h : ((value :: no :: yes :: p.defaults).flatMap here).count t = 0) :
      t ∉ here e' := fun hmem => List.count_eq_zero.1 h (List.mem_flatMap.2 ⟨e', he', hmem⟩)
  exact ⟨hnone readNames hreads, hnone boundNames hbinds.2⟩

/-- Generated names are private to the places that make them. In a program that is compiled:

* a generated name that is bound or read is a temporary, and none is defined or free;
* the parameter of a predicate on rows is neither bound nor read. There is no expression that tests a row: the
  body of a predicate is of a type of its own, and is made only when the predicate is;
* temporaries have different names, made from the name of a form and a number;
* each is made in one place, and bound and read nowhere else. All its uses are in its scope, and the expressions
  that a source text puts into this place neither read nor bind it;
* in all hosts, bindings and states whose functions come from programs, the program does not end with the error
  of a variable whose name is generated. -/
theorem generated_names_are_private {source : String} {program : Expr} (hp : compile source = .ok program) :
    (∀ x ∈ program.boundNames ++ program.readNames, isGenerated x = true → x ∈ program.temporaries) ∧
    (∀ x ∈ program.definedNames ++ program.free, isGenerated x = false) ∧
    rowName ∉ program.boundNames ++ program.readNames ∧
    program.temporaries.Nodup ∧
    (∀ t ∈ program.temporaries, (∃ form n, form ∈ ["if-let", "when-let"] ∧ t = temporaryName form n) ∧
      ∃ p value yes no, program.MadeOnce t p value yes no) ∧
    (∀ h env s, Host.EachFn FromProgram h → Env.EachFn FromProgram env → s.EachFn FromProgram →
      ∀ name, isGenerated name = true → (evaluate h program env s).1 ≠ .error (.unbound name)) := by
  obtain ⟨hhygienic, k, hnumbered⟩ := compile_hygienic hp
  have htemporary : ∀ x ∈ program.boundNames ++ program.readNames, isGenerated x = true →
      x ∈ program.temporaries := by
    intro x hx hgen
    rw [← List.count_pos_iff, List.count_append, hhygienic.bound x hgen, hhygienic.read x hgen] at hx
    exact List.count_pos_iff.1 (by omega)
  have hform : ∀ t ∈ program.temporaries,
      ∃ form n, form ∈ ["if-let", "when-let"] ∧ t = temporaryName form n := by
    intro t ht
    obtain ⟨form, n, hmem, -, heq⟩ := hnumbered.made t ht
    exact ⟨form, n, hmem, heq⟩
  refine ⟨htemporary, ?_, fun hrow => ?_, hnumbered.distinct, fun t ht => ?_, ?_⟩
  · exact List.forall_mem_append.2 ⟨hhygienic.defined, hhygienic.free⟩
  · obtain ⟨form, n, hmem, heq⟩ := hform rowName (htemporary rowName hrow (by decide +kernel))
    have hlist := congrArg String.toList heq
    rcases List.mem_cons.1 hmem with rfl | hmem
    · simp [temporaryName, rowName] at hlist
    · obtain rfl := List.mem_singleton.1 hmem
      simp [temporaryName, rowName] at hlist
  · exact ⟨hform t ht, hhygienic.exists_madeOnce hnumbered.distinct ht⟩
  · intro h env s hh henv hs name hname
    exact evaluate_ne_unbound hh (.of_occurs hp .here) hhygienic.free henv hs hname

/-- Three temporaries, of which one is made in a default and one in a branch, and a run that reads them all. -/
theorem generated_names_are_private_nested :
    ∃ (h : Host) (source : String) (program : Expr),
      source = "(if-let [\x7b:keys [a] :or \x7ba (when-let [b 1] b)\x7d\x7d \x7b\x7d] (when-let [[d] [a]] d) nil)" ∧
      h.EachFn FromProgram ∧ compile source = .ok program ∧
      program.temporaries = ["$if-let2", "$when-let3", "$when-let1"] ∧
      (∃ p value yes no, program.MadeOnce "$if-let2" p value yes no) ∧
      (evaluate h program .initial .fresh).1.toOption.map (·.value.render) = some "1" ∧
      (evaluate h program .initial .fresh).1 ≠ .error (.unbound "$when-let1") := by
  let h : Host := .bare
  let source := "(if-let [\x7b:keys [a] :or \x7ba (when-let [b 1] b)\x7d\x7d \x7b\x7d] (when-let [[d] [a]] d) nil)"
  have hh : h.EachFn FromProgram := .bare
  have hrun : (compile source).toOption.map (fun program => (program.temporaries,
      (evaluate h program .initial .fresh).1.toOption.map (·.value.render))) =
        some (["$if-let2", "$when-let3", "$when-let1"], some "1") := by decide +kernel
  obtain ⟨program, hp⟩ : ∃ program, compile source = .ok program := by
    cases hc : compile source with
    | error e =>
      rw [hc] at hrun
      cases hrun
    | ok program => exact ⟨program, rfl⟩
  rw [hp] at hrun
  have ⟨htemporaries, htext⟩ := Prod.mk.inj (Option.some.inj hrun)
  obtain ⟨-, -, -, -, hmade, hspared⟩ := generated_names_are_private hp
  refine ⟨h, source, program, rfl, hh, hp, htemporaries, (hmade _ ?_).2, htext, ?_⟩
  · rw [htemporaries]
    exact List.mem_cons_self
  · exact hspared h .initial _ hh Env.eachFn_initial .fresh "$when-let1" (by decide +kernel)

end ToolLisp
