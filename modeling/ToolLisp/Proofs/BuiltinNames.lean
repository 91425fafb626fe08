import Mathlib.Data.Set.Basic
import ToolLisp.Proofs.RecurSoundness
import ToolLisp.Proofs.SessionMemory

/-!
# The names of builtin functions

The value of a variable is what is bound to its name, else what the name is defined as, else the tool of
that name. Definitions may come from earlier runs and tools from the host, so nothing keeps them from having
the names of builtin functions. But every program starts with all builtin functions bound, bindings are only
added, and functions carry the bindings that they were made in. A builtin function may be hidden by another
binding, and never by a definition or a tool.

To say so of every variable that a run looks up, the run is watched. `WatchM` is an interpretation that gives
what evaluation gives, and records the names whose definitions are asked for. By the induction of
`EnvSimulation` no name of a builtin function is among them, as long as all functions in the run see the
builtin functions. What a run leaves has this property again, so it holds of all runs, one after the other,
whatever the host does with the functions that it was given (`Knows`).
-/

namespace ToolLisp

open EvalM

variable {V : Value → Prop} {α β : Type}

/-! ## Asking for definitions -/

namespace NameMap

theorem get?_insert_self (name : String) (a : α) (m : NameMap α) :
    get? (insert name a m) name = some a := by
  induction m with
  | nil => simp [insert, get?]
  | cons e rest ih =>
    unfold insert
    split
    · simp [get?]
    · simp [get?]
    · next h =>
      have hne : e.1 ≠ name := by
        rintro rfl
        exact absurd h (by simp)
      simpa [get?, hne] using ih

/-- Another name keeps its definition. -/
theorem get?_insert_of_ne {name other : String} (hne : name ≠ other) (a : α) (m : NameMap α) :
    get? (insert name a m) other = get? m other := by
  induction m with
  | nil => simp [insert, get?, hne]
  | cons e rest ih =>
    unfold insert
    split
    · simp [get?, hne]
    · next h =>
      simp [get?, hne, ← Std.LawfulEqCmp.eq_of_compare h]
    · simp only [get?, List.find?_cons] at ih ⊢
      split
      · rfl
      · exact ih

end NameMap

/-- What a computation comes to can depend on what a name is defined as. -/
def EvalM.Asks (x : EvalM α) (name : String) : Prop :=
  ∃ (s : RunState) (v : Value),
    (x { s with definitions := NameMap.insert name v s.definitions }).1 ≠ (x s).1

theorem EvalM.asks_definition? {name other : String} : (definition? name).Asks other ↔ other = name := by
  constructor
  · rintro ⟨s, v, hne⟩
    by_contra hother
    exact hne (congrArg Except.ok (NameMap.get?_insert_of_ne hother v s.definitions))
  · rintro rfl
    refine ⟨.fresh, .nil, fun h => ?_⟩
    have h := (NameMap.get?_insert_self _ _ _).symm.trans (Except.ok.inj h)
    cases h

/-- The other operations on the state of a run do not ask for definitions. -/
theorem EvalM.not_asks {x : EvalM α} {name : String}
    (hx : ∀ s definitions, (x { s with definitions := definitions }).1 = (x s).1) : ¬ x.Asks name :=
  fun ⟨s, _, hne⟩ => hne (hx s _)

/-! ## Watched runs -/

/-- What a watched computation comes to. -/
structure Watched (α : Type) where
  /-- How it ends. -/
  outcome : Except Signal α
  /-- The state that it leaves. -/
  state : RunState
  /-- The names whose definitions it asked for. -/
  asked : Set String

/-- A watched computation of a run. -/
def WatchM (α : Type) : Type :=
  RunState → Watched α

namespace WatchM

/-- One computation after the other. -/
def andThen (x : WatchM α) (f : α → WatchM β) : WatchM β := fun s =>
  let first := x s
  match first.outcome with
  | .ok a =>
    let last := f a first.state
    ⟨last.outcome, last.state, first.asked ∪ last.asked⟩
  | .error e => ⟨.error e, first.state, first.asked⟩

instance : Monad WatchM where
  pure a := fun s => ⟨.ok a, s, ∅⟩
  bind := andThen

/-- Performs an operation on the state of a run. -/
def lift (x : EvalM α) : WatchM α := fun s =>
  ⟨(x s).1, (x s).2, {name | x.Asks name}⟩

/-- Goes on with the new values if a turn of a loop asks for another one. -/
def orAgain (x : WatchM Value) (again : List Value → WatchM Value) : WatchM Value := fun s =>
  let first := x s
  match first.outcome with
  | .error (.recur vs) =>
    let last := again vs first.state
    ⟨last.outcome, last.state, first.asked ∪ last.asked⟩
  | _ => first

/-- The turns of a loop, at most `n` more of them. -/
def turns (limit : Nat) (body : Env → WatchM Value) (rebind : List Value → WatchM Env) :
    Nat → Env → WatchM Value
  | 0, env => (body env).orAgain fun _ => lift (fail (.loopLimit limit))
  | n + 1, env => (body env).orAgain fun vs => do
    let inner ← rebind vs
    turns limit body rebind n inner

end WatchM

/-- Watched evaluation. -/
def Interpretation.watching (h : Host) (call : Value → List Value → WatchM Value) :
    Interpretation WatchM where
  host := pure h
  lift := WatchM.lift
  call := call
  recur vs := WatchM.lift (cut (.recur vs))
  loop body rebind env := WatchM.turns h.limits.loop body rebind h.limits.loop env

/-- Calls a value, and watches the calls that this makes, at most `n` deep. -/
def watchAt (h : Host) : Nat → Value → List Value → WatchM Value
  | 0, _, _ => WatchM.lift (fail (.recursionLimit h.limits.recursion))
  | n + 1, f, args => (Interpretation.watching h (watchAt h n)).dispatch f args

/-- Evaluates a program and watches it. -/
def watch (h : Host) (program : Expr) : WatchM Value :=
  (Interpretation.watching h (watchAt h h.limits.recursion)).eval program .initial

/-- Runs a source text and watches it: gives what the run comes to, and the names whose definitions it asked
for. -/
def watchRun (h : Host) (source : String) (s : RunState) :
    (Except RunError RunOutput × RunState) × Set String :=
  match compile source with
  | .error e => ((.error e, s), ∅)
  | .ok program =>
    let w := watch h program s
    (match Evaluation.ofResult w.outcome with
      | .error e => (.error (.eval e), w.state)
      | .ok e => (.ok ⟨.ofValue e.value h.memory, w.state.definitions, e.returned⟩, w.state),
      w.asked)

/-! ## Looking up variables -/

namespace WatchM

theorem bind_apply (x : WatchM α) (f : α → WatchM β) (s : RunState) :
    (x >>= f) s =
      match (x s).outcome with
      | .ok a => ⟨(f a (x s).state).outcome, (f a (x s).state).state,
          (x s).asked ∪ (f a (x s).state).asked⟩
      | .error e => ⟨.error e, (x s).state, (x s).asked⟩ := rfl

theorem pure_bind (a : α) (f : α → WatchM β) : pure a >>= f = f a := by
  funext s
  exact congrArg (Watched.mk _ _) (Set.empty_union _)

theorem lift_definition? (name : String) (s : RunState) :
    lift (definition? name) s = ⟨.ok (NameMap.get? s.definitions name), s, {name}⟩ :=
  congrArg (Watched.mk _ _) (Set.ext fun _ => asks_definition?)

theorem lift_cut (e : Signal) (s : RunState) : lift (cut e : EvalM α) s = ⟨.error e, s, ∅⟩ :=
  congrArg (Watched.mk _ _) (Set.eq_empty_iff_forall_notMem.2 fun _ => not_asks fun _ _ => rfl)

end WatchM

/-- Looking up a variable asks for the definition of its name if nothing is bound to it. Otherwise it gives
the binding and asks for nothing. -/
theorem watching_lookupVar (h : Host) (call : Value → List Value → WatchM Value) (name : String)
    (env : Env) (s : RunState) :
    (Interpretation.watching h call).lookupVar name env s =
      match Env.lookup? env name with
      | some v => ⟨.ok v, s, ∅⟩
      | none => ⟨(lookupVar h name env s).1, s, {name}⟩ := by
  unfold Interpretation.lookupVar lookupVar
  cases hv : Env.lookup? env name with
  | some v => rfl
  | none =>
    simp only [Interpretation.watching, WatchM.pure_bind]
    rw [WatchM.bind_apply, EvalM.bind_apply, WatchM.lift_definition?, definition?]
    cases NameMap.get? s.definitions name with
    | some v => exact congrArg (Watched.mk _ _) (Set.union_empty _)
    | none =>
      dsimp only
      cases h.tools.has name with
      | true => exact congrArg (Watched.mk _ _) (Set.union_empty _)
      | false =>
        refine congrArg (Watched.mk _ _) ?_
        rw [if_neg Bool.false_ne_true, fail, WatchM.lift_cut, Set.union_empty]

/-! ## What a watched computation keeps -/

/-- What may cut evaluation short: no builtin function is unbound, and the values that are passed on have the
property of all values. -/
def Signal.Harmless (V : Value → Prop) : Signal → Prop
  | .error (.unbound name) => Builtin.isName name = false
  | .error (.failed v) => V v
  | .error _ => True
  | .ret v => V v
  | .recur vs => ∀ v ∈ vs, V v

/-- An error that the program does not raise itself holds no functions. -/
theorem Signal.Harmless.of_plain {e : EvalError} (he : e.plain = true) :
    (Signal.error e).Harmless V := by
  cases e with
  | unbound name => cases he
  | failed v => cases he
  | _ => trivial

/-- The outcome is harmless, and a result satisfies `P`. -/
def Watched.Ends (V : Value → Prop) (P : α → Prop) : Except Signal α → Prop
  | .ok a => P a
  | .error e => e.Harmless V

/-- A watched computation comes to what the computation of a run comes to, and has not asked for the
definition of a builtin function. -/
structure Watched.Safe (V : Value → Prop) (P : α → Prop) (r : Except Signal α × RunState)
    (w : Watched α) : Prop where
  /-- The outcome and the state are those of the run. -/
  same : (w.outcome, w.state) = r
  /-- The names whose definitions have been asked for. -/
  asked : ∀ name ∈ w.asked, Builtin.isName name = false
  /-- The values in the state. -/
  state : w.state.Each V
  /-- The outcome. -/
  ends : Ends V P w.outcome

/-- From all states whose values satisfy `V`, a watched computation is safe. -/
def WatchM.Shows (V : Value → Prop) (P : α → Prop) (x : EvalM α) (y : WatchM α) : Prop :=
  ∀ s, RunState.Each V s → (y s).Safe V P (x s)

namespace WatchM.Shows

variable {P : α → Prop} {P' : β → Prop}

theorem pure {a : α} (ha : P a) : Shows V P (pure a) (pure a) :=
  fun _ hs => ⟨rfl, fun _ hn => absurd hn (Set.notMem_empty _), hs, ha⟩

/-- What is watched in sequence is watched in both parts. -/
theorem bind {x : EvalM α} {y : WatchM α} {f : α → EvalM β} {g : α → WatchM β} (hx : Shows V P x y)
    (hf : ∀ a, P a → Shows V P' (f a) (g a)) : Shows V P' (x >>= f) (y >>= g) := by
  intro s hs
  have hfirst := hx s hs
  rw [WatchM.bind_apply, EvalM.bind_apply, ← hfirst.same]
  generalize y s = w at hfirst
  rcases w with ⟨e | a, s', asked⟩
  · exact ⟨rfl, hfirst.asked, hfirst.state, hfirst.ends⟩
  · have hlast := hf a hfirst.ends s' hfirst.state
    exact ⟨hlast.same, fun name hn => hn.elim (hfirst.asked name) (hlast.asked name), hlast.state,
      hlast.ends⟩

/-- An operation on the state of a run. -/
theorem lift {x : EvalM α} (ha : ∀ name, ¬ x.Asks name)
    (hx : ∀ s, RunState.Each V s → RunState.Each V (x s).2 ∧ Watched.Ends V P (x s).1) :
    Shows V P x (lift x) :=
  fun s hs => ⟨rfl, fun name hn => absurd hn (ha name), (hx s hs).1, (hx s hs).2⟩

theorem cut {e : Signal} (he : e.Harmless V) : Shows V P (cut e) (WatchM.lift (EvalM.cut e)) :=
  .lift (fun _ => not_asks fun _ _ => rfl) fun _ hs => ⟨hs, he⟩

theorem freshStamp : Shows V (fun _ => True) freshStamp (WatchM.lift EvalM.freshStamp) :=
  .lift (fun _ => not_asks fun _ _ => rfl) fun _ hs => ⟨hs, trivial⟩

/-- Asking for a name that is not that of a builtin function. -/
theorem definition? {name : String} (hn : Builtin.isName name = false) :
    Shows V (fun o => ∀ v ∈ o, V v) (definition? name) (WatchM.lift (EvalM.definition? name)) :=
  fun _ hs => ⟨rfl, fun _ ho => asks_definition?.1 ho ▸ hn, hs, Env.Each.lookup? hs.1 name⟩

theorem define (name : String) {v : Value} (hv : V v) :
    Shows V (fun _ => True) (define name v) (WatchM.lift (EvalM.define name v)) :=
  .lift (fun _ => not_asks fun _ _ => rfl)
    fun _ hs => ⟨⟨NameMap.each_insert hv hs.1, hs.2⟩, trivial⟩

/-- The answers of tools have the property, if what is passed to them does. -/
theorem askTool {h : Host} (hh : h.Each V) (name : String) {args : Entries} (ha : V (.map args)) :
    Shows V V (askTool h.tools name args) (WatchM.lift (EvalM.askTool h.tools name args)) := by
  refine .lift (fun _ => not_asks fun s _ => ?_) fun s hs => ?_
  · unfold EvalM.askTool
    dsimp only
    split <;> rfl
  · have hafter : RunState.Each V { s with calls := ⟨name, args⟩ :: s.calls } :=
      ⟨hs.1, List.forall_mem_cons.2 ⟨ha, hs.2⟩⟩
    unfold EvalM.askTool
    dsimp only
    cases ht : h.tools.answer s.calls name args with
    | ok v => exact ⟨hafter, hh.tools hs.2 ha ht⟩
    | error reason => exact ⟨hafter, trivial⟩

/-- What is asked for in another turn is watched too. -/
theorem orAgain {x : EvalM Value} {y : WatchM Value} {f : List Value → EvalM Value}
    {g : List Value → WatchM Value} (hx : Shows V V x y)
    (hf : ∀ vs, (∀ v ∈ vs, V v) → Shows V V (f vs) (g vs)) :
    Shows V V (x.orAgain f) (y.orAgain g) := by
  intro s hs
  have hfirst := hx s hs
  unfold EvalM.orAgain WatchM.orAgain
  rw [← hfirst.same]
  generalize y s = w at hfirst
  rcases w with ⟨e | v, s', asked⟩
  · cases e with
    | recur vs =>
      have hlast := hf vs hfirst.ends s' hfirst.state
      exact ⟨hlast.same, fun name hn => hn.elim (hfirst.asked name) (hlast.asked name), hlast.state,
        hlast.ends⟩
    | error e => exact ⟨rfl, hfirst.asked, hfirst.state, hfirst.ends⟩
    | ret v => exact ⟨rfl, hfirst.asked, hfirst.state, hfirst.ends⟩
  · exact ⟨rfl, hfirst.asked, hfirst.state, hfirst.ends⟩

/-- The turns of a loop, by induction on how many are left. -/
theorem turns {N : Env → Prop} {limit : Nat} {body : Env → EvalM Value} {body' : Env → WatchM Value}
    {rebind : List Value → EvalM Env} {rebind' : List Value → WatchM Env}
    (hb : ∀ env, N env → Shows V V (body env) (body' env))
    (hr : ∀ vs, (∀ v ∈ vs, V v) → Shows V N (rebind vs) (rebind' vs)) (n : Nat) :
    ∀ env, N env → Shows V V (iterate limit body rebind n env) (turns limit body' rebind' n env) := by
  induction n with
  | zero =>
    intro env he
    rw [iterate_zero]
    exact (hb env he).orAgain fun _ _ => .cut trivial
  | succ n ih =>
    intro env he
    rw [iterate_succ]
    exact (hb env he).orAgain fun vs hvs => (hr vs hvs).bind ih

end WatchM.Shows

/-! ## Bindings with all builtin functions -/

/-- A function sees the builtin functions: its bindings are those that every program starts with, and
further ones before them. -/
def SeesBuiltins (_ : List Pattern) (_ : Expr) (env : Env) : Prop :=
  Env.initial <:+ env

theorem Env.lookup?_initial {name : String} (hn : Builtin.isName name = true) :
    (Env.lookup? Env.initial name).isSome = true := by
  obtain ⟨f, hf, hname⟩ := List.any_eq_true.1 hn
  simp only [Env.lookup?, Option.isSome_map, List.find?_isSome]
  exact ⟨_, List.mem_map.2 ⟨f, hf, rfl⟩, hname⟩

/-- Only other names can be unbound where the builtin functions are seen. -/
theorem isName_of_lookup?_eq_none {env : Env} (he : Env.initial <:+ env) {name : String}
    (hname : Env.lookup? env name = none) : Builtin.isName name = false := by
  by_contra hn
  have hsome := Env.lookup?_initial (Bool.not_eq_false _ ▸ hn)
  obtain ⟨inner, rfl⟩ := he
  simp only [Env.lookup?, Option.isSome_map, Option.map_eq_none_iff, List.find?_append,
    Option.or_eq_none_iff] at hname hsome
  rw [hname.2] at hsome
  cases hsome

/-- Bindings with all builtin functions, of functions that see these. -/
def Env.WithBuiltins (env : Env) : Prop :=
  Env.initial <:+ env ∧ Env.EachFn SeesBuiltins env

/-- A variable that is not bound is looked up among the definitions, and is then not the name of a builtin
function. -/
theorem lookupVar_shows (h : Host) (call : Value → List Value → WatchM Value) (name : String)
    {env : Env} (he : env.WithBuiltins) :
    WatchM.Shows (Value.EachFn SeesBuiltins) (Value.EachFn SeesBuiltins) (lookupVar h name env)
      ((Interpretation.watching h call).lookupVar name env) := by
  unfold lookupVar Interpretation.lookupVar
  cases hname : Env.lookup? env name with
  | some v => exact .pure (Env.Each.lookup? he.2 name v hname)
  | none =>
    have hother := isName_of_lookup?_eq_none he.1 hname
    refine (WatchM.Shows.definition? hother).bind fun o ho => ?_
    cases o with
    | some v => exact .pure (ho v rfl)
    | none =>
      dsimp only
      rw [show (Interpretation.watching h call).host = pure h from rfl, WatchM.pure_bind]
      cases h.tools.has name with
      | true => exact .pure (.tool name)
      | false => exact .cut hother

/-- Evaluation is watched safely, if calls are. -/
theorem watching_simulation {h : Host} (hh : h.Each (Value.EachFn SeesBuiltins))
    {call : Value → List Value → EvalM Value} {call' : Value → List Value → WatchM Value}
    (hc : ∀ f args, f.EachFn SeesBuiltins → (∀ v ∈ args, v.EachFn SeesBuiltins) →
      WatchM.Shows (Value.EachFn SeesBuiltins) (Value.EachFn SeesBuiltins) (call f args)
        (call' f args)) :
    EnvSimulation (Value.EachFn SeesBuiltins) Env.WithBuiltins (fun _ _ => True) h h call
      (.watching h call') (fun _ => WatchM.Shows (Value.EachFn SeesBuiltins))
      (fun _ => WatchM.Shows (Value.EachFn SeesBuiltins) (Value.EachFn SeesBuiltins)) where
  part _ _ := trivial
  bound hv he := ⟨he.1.trans (List.suffix_cons _ _), Env.Each.bind he.2 _ hv⟩
  fn _ _ he := .closure he.1 he.2
  entered hf := ⟨hf.of_closure, trivial, fun _ _ => trivial⟩
  tools _ := rfl
  context name := ⟨entryNamed_stable (Value.Stable.entries hh.context) name, rfl⟩
  memory name := ⟨entryNamed_stable (Value.Stable.entries hh.memory) name, rfl⟩
  pure := .pure
  bind := .bind
  host hx := by
    rw [show (Interpretation.watching h call').host = pure h from rfl, WatchM.pure_bind]
    exact hx
  fail _ hplain := .cut (.of_plain hplain)
  failed hv := .cut hv
  ret hv := .cut hv
  freshStamp := .freshStamp
  lookupVar name _ he := lookupVar_shows h call' name he
  define _ hv := .define _ hv
  askTool _ ha := .askTool hh _ ha
  call hf ha := hc _ _ hf ha
  loop hb hr := .turns hb hr _
  rowLoop hb hr := .turns (fun _ he => hb _ he.rowOf) hr _
  recur _ _ hvs := .cut hvs
  last hx := hx
  before := .bind
  inside hx := hx

/-- Calls are watched safely. By induction on the calls that may be nested in them. -/
theorem watchAt_shows {h : Host} (hh : h.Each (Value.EachFn SeesBuiltins)) (n : Nat) :
    ∀ f args, f.EachFn SeesBuiltins → (∀ v ∈ args, v.EachFn SeesBuiltins) →
      WatchM.Shows (Value.EachFn SeesBuiltins) (Value.EachFn SeesBuiltins) (callAt h n f args)
        (watchAt h n f args) := by
  induction n with
  | zero => exact fun _ _ _ _ => .cut trivial
  | succ n ih => exact fun _ _ hf ha => (watching_simulation hh ih).dispatch_sim hf ha

/-- A program that starts with functions that see the builtin functions is watched safely. -/
theorem watch_safe {h : Host} (hh : h.EachFn SeesBuiltins) (program : Expr) {s : RunState}
    (hs : s.EachFn SeesBuiltins) :
    (watch h program s).Safe (Value.EachFn SeesBuiltins) (Value.EachFn SeesBuiltins)
      (eval h (callTop h) program .initial s) :=
  (watching_simulation hh.each (watchAt_shows hh.each h.limits.recursion)).eval_sim program none .initial
    trivial ⟨List.suffix_refl _, Env.eachFn_initial⟩ s (RunState.eachFn_iff.1 hs)

/-! ## Runs one after the other -/

/-- Every function in a value stands in a known value: what holds of all functions in these holds of all
functions in it. -/
def Value.MadeFrom (known : List Value) (v : Value) : Prop :=
  ∀ Q, (∀ w ∈ known, w.EachFn Q) → v.EachFn Q

/-- A host that passes on no other functions than known ones. Tools may also pass on those that they got
during the run. -/
structure Host.UsesOnly (known : List Value) (h : Host) : Prop where
  /-- The context. -/
  context : (Value.map h.context).MadeFrom known
  /-- The memory. -/
  memory : (Value.map h.memory).MadeFrom known
  /-- The answers of tools. -/
  tools {calls : List ToolCall} {name : String} {args : Entries} {v : Value} :
    h.tools.answer calls name args = .ok v →
      v.MadeFrom (.map args :: calls.map (fun c => .map c.args) ++ known)

/-- A property of the known functions holds of all that the host passes on. -/
theorem Host.UsesOnly.eachFn {Q : List Pattern → Expr → Env → Prop} {known : List Value} {h : Host}
    (hh : h.UsesOnly known) (hk : ∀ w ∈ known, w.EachFn Q) : h.EachFn Q where
  context := Value.eachFn_map.1 (hh.context Q hk)
  memory := Value.eachFn_map.1 (hh.memory Q hk)
  tools hc ha hv := by
    refine hh.tools hv Q fun w hw => ?_
    simp only [List.cons_append, List.mem_cons, List.mem_append, List.mem_map] at hw
    obtain rfl | ⟨c, hmem, rfl⟩ | hw := hw
    · exact Value.eachFn_map.2 ha
    · exact Value.eachFn_map.2 (hc c hmem)
    · exact hk w hw

/-- The values that are defined or were passed to tools. -/
def RunState.values (s : RunState) : List Value :=
  s.definitions.map (·.2) ++ s.calls.map fun c => .map c.args

/-- The values that a run comes to. -/
def outcomeValues : Except RunError RunOutput → List Value
  | .ok out => [out.update.result, .map out.update.delta, .map out.update.memory]
  | .error (.eval (.failed v)) => [v]
  | .error _ => []

/-- The values that the host gets from a run. -/
def leftBy (r : Except RunError RunOutput × RunState) : List Value :=
  outcomeValues r.1 ++ r.2.values

/-- The values that a host can know after runs that it started with no other functions than those that it
got from earlier ones. -/
inductive Knows : List Value → Prop
  /-- No run has been started. -/
  | nothing : Knows []
  /-- One more run. -/
  | run {known : List Value} {h : Host} {definitions : Definitions} (source : String) (stamp : Nat) :
    Knows known → h.UsesOnly known → (∀ d ∈ definitions, d.2.MadeFrom known) →
      Knows (leftBy (run h source (.start definitions stamp)) ++ known)

theorem RunState.EachFn.values {Q : List Pattern → Expr → Env → Prop} {s : RunState}
    (hs : s.EachFn Q) : ∀ v ∈ s.values, v.EachFn Q := by
  intro v hv
  rcases List.mem_append.1 hv with hv | hv
  · obtain ⟨d, hd, rfl⟩ := List.mem_map.1 hv
    exact hs.1 d hd
  · obtain ⟨c, hc, rfl⟩ := List.mem_map.1 hv
    exact Value.eachFn_map.2 (hs.2 c hc)

/-- The outcome of a program whose evaluation ends without harm. -/
theorem Evaluation.ofResult_harmless {r : Except Signal Value} (hr : Watched.Ends V V r) :
    match Evaluation.ofResult r with
    | .ok e => V e.value
    | .error e => (Signal.error e).Harmless V := by
  match r with
  | .ok v => exact hr
  | .error (.ret v) => exact hr
  | .error (.error e) => exact hr
  | .error (.recur vs) => trivial

/-- Compiling does not evaluate. -/
theorem compile_ne_eval (source : String) (e : EvalError) : compile source ≠ .error (.eval e) := by
  unfold compile
  split
  · exact fun h => by cases h
  · split <;> exact fun h => by cases h

section

variable {h : Host} (hh : h.EachFn SeesBuiltins) (source : String) {s : RunState}
  (hs : s.EachFn SeesBuiltins)
include hh hs

theorem evaluate_harmless (program : Expr) :
    (evaluate h program .initial s).2.EachFn SeesBuiltins ∧
      match (evaluate h program .initial s).1 with
      | .ok e => e.value.EachFn SeesBuiltins
      | .error e => (Signal.error e).Harmless (Value.EachFn SeesBuiltins) := by
  have hsafe := watch_safe hh program hs
  unfold evaluate
  rw [← hsafe.same]
  exact ⟨RunState.eachFn_iff.2 hsafe.state, Evaluation.ofResult_harmless hsafe.ends⟩

theorem watchRun_safe :
    (watchRun h source s).1 = run h source s ∧
      ∀ name ∈ (watchRun h source s).2, Builtin.isName name = false := by
  unfold watchRun run
  cases compile source with
  | error e => exact ⟨rfl, fun _ hn => absurd hn (Set.notMem_empty _)⟩
  | ok program =>
    have hsafe := watch_safe hh program hs
    refine ⟨?_, hsafe.asked⟩
    dsimp only [evaluate]
    rw [← hsafe.same]
    dsimp only
    cases Evaluation.ofResult (watch h program s).outcome <;> rfl

/-- A run ends without harm: what it leaves sees the builtin functions, and none of them is unbound. -/
theorem run_harmless :
    (∀ v ∈ leftBy (run h source s), v.EachFn SeesBuiltins) ∧
      ∀ name, (run h source s).1 = .error (.eval (.unbound name)) → Builtin.isName name = false := by
  unfold run
  cases hp : compile source with
  | error e =>
    -- compiling fails with no error of evaluation
    have hread : ∀ e', e ≠ .eval e' := fun e' he => compile_ne_eval source e' (he ▸ hp)
    refine ⟨List.forall_mem_append.2 ⟨fun v hv => ?_, hs.values⟩, fun name hname => ?_⟩
    · cases e with
      | eval e => exact absurd rfl (hread e)
      | _ => cases hv
    · cases hname
      exact absurd rfl (hread _)
  | ok program =>
    have hend := evaluate_harmless hh hs program
    dsimp only
    generalize evaluate h program .initial s = r at hend
    rcases r with ⟨e | e, s'⟩
    · refine ⟨List.forall_mem_append.2 ⟨fun v hv => ?_, hend.1.values⟩, fun name hname => ?_⟩
      · cases e with
        | failed w =>
          rw [List.mem_singleton.1 hv]
          exact hend.2
        | _ => cases hv
      · cases hname
        exact hend.2
    · refine ⟨List.forall_mem_append.2 ⟨fun v hv => ?_, hend.1.values⟩, fun name hname => by cases hname⟩
      simp only [outcomeValues, List.mem_cons, List.not_mem_nil, or_false] at hv
      obtain rfl | rfl | rfl := hv
      · exact MemoryUpdate.result_stable hend.2 h.memory
      · exact MemoryUpdate.delta_stable hend.2 h.memory
      · exact MemoryUpdate.memory_stable hend.2 (Value.eachFn_map.2 hh.memory)

end

/-- The functions that a host can know see the builtin functions. By induction on the runs. -/
theorem Knows.eachFn {known : List Value} (hk : Knows known) :
    ∀ v ∈ known, v.EachFn SeesBuiltins := by
  induction hk with
  | nothing => exact fun _ h => by cases h
  | run source stamp _ hh hd ih =>
    refine List.forall_mem_append.2 ⟨?_, ih⟩
    exact (run_harmless (hh.eachFn ih) source (.start fun d hmem => hd d hmem _ ih)).1

/-- A definition or a tool never takes the place of a builtin function. Let a host start a run with no other
functions than those that it got from earlier runs, and with any definitions and tools.

* Watching the run changes neither its outcome nor the state that it leaves.
* Looking up a variable gives the binding of its name if there is one. If there is none, it is recorded that
  the definition of the name was asked for, whether the lookup gives a definition or a tool or fails.
* No name of a builtin function is recorded, so every lookup of such a name finds a binding, and the run does
  not fail because the name is unbound. -/
theorem builtin_names_are_bound {known : List Value} (hk : Knows known) {h : Host}
    (hh : h.UsesOnly known) {definitions : Definitions} (hd : ∀ d ∈ definitions, d.2.MadeFrom known)
    (stamp : Nat) (source : String) :
    (watchRun h source (.start definitions stamp)).1 = run h source (.start definitions stamp) ∧
    (∀ call name env s, (Interpretation.watching h call).lookupVar name env s =
      match Env.lookup? env name with
      | some v => ⟨.ok v, s, ∅⟩
      | none => ⟨(lookupVar h name env s).1, s, {name}⟩) ∧
    ∀ name, Builtin.isName name = true →
      name ∉ (watchRun h source (.start definitions stamp)).2 ∧
      (run h source (.start definitions stamp)).1 ≠ .error (.eval (.unbound name)) := by
  have hhost := hh.eachFn hk.eachFn
  have hstart : (RunState.start definitions stamp).EachFn SeesBuiltins :=
    .start fun d hmem => hd d hmem _ hk.eachFn
  have hwatched := watchRun_safe hhost source hstart
  refine ⟨hwatched.1, watching_lookupVar h, fun name hn => ⟨fun hasked => ?_, fun hunbound => ?_⟩⟩
  · rw [hwatched.2 name hasked] at hn
    cases hn
  · rw [(run_harmless hhost source hstart).2 name hunbound] at hn
    cases hn

/-- A run leaves a function that counts. In the next run there are a definition and a tool with the name of
the builtin function that it calls. -/
theorem builtin_names_are_bound_with_tool :
    ∃ (known : List Value) (h : Host) (definitions : Definitions),
      Knows known ∧ h.UsesOnly known ∧ (∀ d ∈ definitions, d.2.MadeFrom known) ∧
      h.tools.has "count" = true ∧ NameMap.contains definitions "count" = true ∧
      NameMap.contains definitions "f" = true ∧ Builtin.isName "count" = true ∧
      (run h "(f [1 2])" (.start definitions 1)).1.toOption.map (·.update.result.render) = some "2" ∧
      "count" ∉ (watchRun h "(f [1 2])" (.start definitions 1)).2 ∧
      (run h "(f [1 2])" (.start definitions 1)).1 ≠ .error (.eval (.unbound "count")) := by
  let h : Host := { Host.bare with tools := ⟨fun _ => true, fun _ _ args => .ok (.map args)⟩ }
  let left := run h "(def f (fn [xs] (count xs)))" .fresh
  let known := leftBy left ++ []
  let definitions := NameMap.insert "count" (.number (.int 7)) left.2.definitions
  have hh (known : List Value) : h.UsesOnly known := by
    refine ⟨fun _ _ => Value.eachFn_map.2 .nil, fun _ _ => Value.eachFn_map.2 .nil, fun hv _ hk => ?_⟩
    cases hv
    exact hk _ List.mem_cons_self
  have hk : Knows known := .run _ 0 .nothing (hh []) fun _ hmem => by cases hmem
  have hd : ∀ d ∈ definitions, d.2.MadeFrom known := by
    refine NameMap.each_insert (fun _ _ => .number _) fun d hmem Q hQ => hQ d.2 ?_
    have hvalue : d.2 ∈ left.2.values := List.mem_append_left _ (List.mem_map.2 ⟨d, hmem, rfl⟩)
    exact List.mem_append_left _ (List.mem_append_right _ hvalue)
  have hcount : Builtin.isName "count" = true := by decide +kernel
  refine ⟨known, h, definitions, hk, hh known, hd, rfl, by decide +kernel, by decide +kernel, hcount,
    by decide +kernel, ?_⟩
  exact (builtin_names_are_bound hk (hh known) hd 1 "(f [1 2])").2.2 "count" hcount

end ToolLisp
