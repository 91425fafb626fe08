import ToolLisp.Proofs.ScopedSimulation

/-!
# Simulations between interpretations

A simulation relates evaluation and another interpretation that see the same bindings and give the same
values. It is a simulation that follows names for which only the same values are alike
(`EnvSimulation.toScoped`), so the inductions on expressions and on the calls of builtin functions are those
of `ScopedSimulation`.

All values have a stable property `V`, and an expression is of a kind `G` that depends on its place: a
`recur` is evaluated only where its place is known. Where something remains to be done after a computation,
it is related by `R`, together with what holds of its result; a computation whose value is that of the place
`a` is related by `T a`. `EnvSimulation` also has a property `N` of the bindings, and leaves it open what the
value of a variable is. In `Simulation` the bindings have the property of what is bound, and the value of a
variable is what is bound or defined.
-/

namespace ToolLisp

open EvalM Expr

variable {V : Value → Prop}

/-! ## Operations -/

/-- What has to be shown of a relation between the evaluation of a host, with the calls `call`, and an
interpretation for the host `h'`: the operations of a run keep it, and it is kept by sequencing and by loops.
The bindings have the property `N`. -/
structure OperationsRelated (V : Value → Prop) (N : Env → Prop) (G : Place → Expr → Prop) (h h' : Host)
    (call : Value → List Value → EvalM Value) {M : Type → Type} [Monad M] (I : Interpretation M)
    (R : (α : Type) → (α → Prop) → EvalM α → M α → Prop)
    (T : Place → EvalM Value → M Value → Prop) : Prop where
  /-- Doing nothing. -/
  pure {α : Type} {P : α → Prop} {a : α} : P a → R α P (pure a) (pure a)
  /-- One computation after the other. -/
  bind {α β : Type} {P : α → Prop} {P' : β → Prop} {x : EvalM α} {y : M α} {f : α → EvalM β}
    {g : α → M β} : R α P x y → (∀ a, P a → R β P' (f a) (g a)) → R β P' (x >>= f) (y >>= g)
  /-- Reading what stays the same. -/
  host {α : Type} {P : α → Prop} {x : EvalM α} {g : Host → M α} :
    R α P x (g h') → R α P x (I.host >>= g)
  /-- Ending the program. -/
  ret {α : Type} {P : α → Prop} {v : Value} :
    V v → R α P (cut (.ret v)) (I.lift (cut (.ret v)))
  /-- Making a stamp. -/
  freshStamp : R Nat (fun _ => True) freshStamp (I.lift freshStamp)
  /-- Making a definition, which is never that of a builtin function. -/
  define {name : String} {v : Value} : Builtin.isName name = false → V v →
    R Unit (fun _ => True) (define name v) (I.lift (define name v))
  /-- Calling a tool that exists. -/
  askTool {name : String} {args : Entries} : h.tools.has name = true → V (.map args) →
    R Value V (askTool h.tools name args) (I.lift (askTool h'.tools name args))
  /-- Calling a value. -/
  call {f : Value} {args : List Value} : V f → (∀ v ∈ args, V v) →
    R Value V (call f args) (I.call f args)
  /-- Entering a loop or function that takes `n` values. -/
  loop {n : Nat} {body : Env → EvalM Value} {body' : Env → M Value}
    {rebind : List Value → EvalM Env} {rebind' : List Value → M Env} :
    (∀ env, N env → T (some n) (body env) (body' env)) →
    (∀ vs, (∀ v ∈ vs, V v) → R Env N (rebind vs) (rebind' vs)) →
    ∀ env, N env → R Value V
      (iterate h.limits.loop body rebind h.limits.loop env) (I.loop body' rebind' env)
  /-- Entering it again. -/
  recur {a : Place} {args : List Expr} {vs : List Value} : G a (.recur args) →
    vs.length = args.length → (∀ v ∈ vs, V v) → T a (cut (.recur vs)) (I.recur vs)
  /-- A computation that gives the value of its place. -/
  last {a : Place} {x : EvalM Value} {y : M Value} : R Value V x y → T a x y
  /-- A computation before the one that gives the value of its place. -/
  before {α : Type} {P : α → Prop} {a : Place} {x : EvalM α} {y : M α} {f : α → EvalM Value}
    {g : α → M Value} : R α P x y → (∀ v, P v → T a (f v) (g v)) → T a (x >>= f) (y >>= g)
  /-- A computation after which something remains to be done. -/
  inside {x : EvalM Value} {y : M Value} : T none x y → R Value V x y

/-! ## The same bindings on both sides -/

/-- The bindings of a predicate on a row that has a property. -/
def BindsRow (V : Value → Prop) (env : Env) : Prop :=
  ∃ row, V row ∧ env = rowEnv row

/-- The row itself has the property. -/
theorem BindsRow.rowOf {env : Env} (he : BindsRow V env) : V (rowOf env) := by
  obtain ⟨row, hrow, rfl⟩ := he
  rwa [rowOf_rowEnv]

theorem rowsAlike_keep {env env' : Env} :
    RowsAlike Env.keep V env env' ↔ env = env' ∧ BindsRow V env := by
  constructor
  · rintro ⟨row, row', hrow, rfl, rfl⟩
    obtain ⟨rfl, hv⟩ := Value.alike_keep.1 hrow
    exact ⟨rfl, row, hv, rfl⟩
  · rintro ⟨rfl, row, hrow, rfl⟩
    exact ⟨row, row, .self hrow, rfl, rfl⟩

theorem rowsAlike_self : (fun env => RowsAlike Env.keep V env env) = BindsRow V :=
  funext fun env => propext (by simp [rowsAlike_keep])

/-- What has to be shown of a relation between the evaluation of a host, with the calls `call`, and an
interpretation for the host `h'` that gives the same values in the same bindings. -/
structure EnvSimulation (V : Value → Prop) (N : Env → Prop) (G : Place → Expr → Prop) (h h' : Host)
    (call : Value → List Value → EvalM Value) {M : Type → Type} [Monad M] (I : Interpretation M)
    (R : (α : Type) → (α → Prop) → EvalM α → M α → Prop)
    (T : Place → EvalM Value → M Value → Prop) : Prop
    extends OperationsRelated V N G h h' call I R T where
  /-- The parts of an expression of the kind. -/
  part {a b : Place} {e e' : Expr} : G a e → (b, e') ∈ e.parts a → G b e'
  /-- Binding a name. -/
  bound {name : String} {env : Env} {v : Value} : V v → N env → N (Env.bind env name v)
  /-- The functions that are made. -/
  fn {a : Place} {params : List Pattern} {body : Expr} {env : Env} (stamp : Nat) :
    G a (.fn params body) → N env → V (.closure stamp params body env)
  /-- The functions that may be called. -/
  entered {stamp : Nat} {params : List Pattern} {body : Expr} {env : Env} :
    V (.closure stamp params body env) →
      N env ∧ G (some params.length) body ∧ ∀ d ∈ Pattern.defaultsOfAll params, G none d
  /-- The tools that there are. -/
  tools (name : String) : h'.tools.has name = h.tools.has name
  /-- The entries of the context. -/
  context (name : String) : V (entryNamed h.context name) ∧
    entryNamed h'.context name = entryNamed h.context name
  /-- The entries of the memory. -/
  memory (name : String) : V (entryNamed h.memory name) ∧
    entryNamed h'.memory name = entryNamed h.memory name
  /-- Stopping with an error that the program does not raise itself. -/
  fail {α : Type} {P : α → Prop} {e : EvalError} :
    e ≠ .type .strayRecur → e.plain = true → R α P (fail e) (I.lift (fail e))
  /-- Stopping with the error that the program raises. -/
  failed {α : Type} {P : α → Prop} {v : Value} :
    V v → R α P (EvalM.fail (.failed v)) (I.lift (EvalM.fail (.failed v)))
  /-- The value of a variable. -/
  lookupVar (name : String) {env : Env} :
    N env → R Value V (lookupVar h name env) (I.lookupVar name env)
  /-- Entering a predicate on rows, which binds its row and nothing else. -/
  rowLoop {body : Value → EvalM Value} {body' : Value → M Value} :
    (∀ row, V row → T (some 1) (body row) (body' row)) →
    (∀ vs, (∀ v ∈ vs, V v) → R Env (BindsRow V) (enterRow vs) (I.enterRow vs)) →
    ∀ env, BindsRow V env → R Value V
      (iterate h.limits.loop (fun env => body (rowOf env)) enterRow h.limits.loop env)
      (I.loop (fun env => body' (rowOf env)) I.enterRow env)

namespace EnvSimulation

variable {N : Env → Prop}

/-- A value that is alike to itself has the property, and nothing else is said about it. -/
theorem alike_self : (fun v => Value.Alike Env.keep V v v) = V :=
  funext fun v => propext (by simp)

/-- The bindings on both sides are the same and have the property, whichever names are asked for. -/
def SameBindings (N : Env → Prop) (_ : List String) (env env' : Env) : Prop :=
  env = env' ∧ N env

theorem sameBindings_self (names : List String) : (fun env => SameBindings N names env env) = N :=
  funext fun env => propext (by simp [SameBindings])

section

variable [Value.Stable V] {G : Place → Expr → Prop} {h h' : Host}
  {call : Value → List Value → EvalM Value}
  {M : Type → Type} [Monad M] {I : Interpretation M}
  {R : (α : Type) → (α → Prop) → EvalM α → M α → Prop} {T : Place → EvalM Value → M Value → Prop}
  (S : EnvSimulation V N G h h' call I R T)
include S

omit [Value.Stable V] in
theorem toScoped : ScopedSimulation Env.keep V G (SameBindings N) h h' call I
    (fun α P => R α fun a => P a a) T where
  -- what is alike here is the same value on both sides
  part := S.part
  subset _ he := he
  bound hvw he := by
    obtain ⟨rfl, hv⟩ := Value.alike_keep.1 hvw
    obtain ⟨rfl, he⟩ := he
    exact ⟨rfl, S.bound hv he⟩
  fn stamp hg he := by
    obtain ⟨rfl, he⟩ := he
    exact .self (S.fn stamp hg he)
  entered hf := by
    obtain ⟨henv, hv⟩ := Value.alike_keep.1 hf
    cases henv
    have hin := S.entered hv
    exact ⟨⟨rfl, hin.1⟩, hin.2⟩
  tools := S.tools
  context name := by
    rw [(S.context name).2]
    exact .self (S.context name).1
  memory name := by
    rw [(S.memory name).2]
    exact .self (S.memory name).1
  value hvw := by
    obtain ⟨rfl, hv⟩ := Value.alike_keep.1 hvw
    exact S.pure (.self hv)
  values hn hvs := by
    obtain ⟨rfl, -⟩ := Value.allAlike_keep.1 hvs
    exact S.pure ⟨hn, hvs⟩
  entries hes := by
    obtain ⟨rfl, -⟩ := Entries.alike_keep.1 hes
    exact S.pure hes
  bindings he := by
    obtain ⟨rfl, he⟩ := he
    exact S.pure ⟨rfl, he⟩
  test b := S.pure rfl
  bind hx hf := S.bind hx fun a ha => hf a a ha
  host hx := S.host hx
  fail he hne hplain := by
    rw [EvalError.rebind_keep, EvalError.rebind_keep] at he
    exact he ▸ S.fail hne hplain
  failed hvw := by
    obtain ⟨rfl, hv⟩ := Value.alike_keep.1 hvw
    exact S.failed hv
  ret hvw := by
    obtain ⟨rfl, hv⟩ := Value.alike_keep.1 hvw
    exact S.ret hv
  freshStamp := by simpa using S.freshStamp
  lookupVar he := by
    obtain ⟨rfl, he⟩ := he
    rw [alike_self]
    exact S.lookupVar _ he
  define hn hvw := by
    obtain ⟨rfl, hv⟩ := Value.alike_keep.1 hvw
    simpa using S.define hn hv
  askTool hn hm := by
    obtain ⟨hm, hv⟩ := Value.alike_keep.1 hm
    cases hm
    rw [alike_self]
    exact S.askTool hn hv
  call hf ha := by
    obtain ⟨rfl, hv⟩ := Value.alike_keep.1 hf
    obtain ⟨rfl, hvs⟩ := Value.allAlike_keep.1 ha
    rw [alike_self]
    exact S.call hv hvs
  loop hb hr env env' he := by
    obtain ⟨rfl, he⟩ := he
    rw [alike_self]
    refine S.loop (fun env he => hb env env ⟨rfl, he⟩) (fun vs hvs => ?_) env he
    have hr := hr vs vs (Value.allAlike_keep.2 ⟨rfl, hvs⟩)
    rwa [sameBindings_self] at hr
  row hrow := by
    obtain ⟨rfl, -⟩ := Value.alike_keep.1 hrow
    exact S.pure ⟨_, _, hrow, rfl, rfl⟩
  rowLoop hb hr env env' he := by
    obtain ⟨rfl, hbinds⟩ := rowsAlike_keep.1 he
    rw [alike_self]
    refine S.rowLoop (fun row hrow => hb row row (.self hrow)) (fun vs hvs => ?_) env hbinds
    have hr := hr vs vs (Value.allAlike_keep.2 ⟨rfl, hvs⟩)
    rwa [rowsAlike_self] at hr
  recur hg hl hvs := by
    obtain ⟨rfl, hv⟩ := Value.allAlike_keep.1 hvs
    exact S.recur hg hl hv
  last hx := by
    rw [alike_self] at hx
    exact S.last hx
  before hx hf := S.before hx fun v hv => hf v v hv
  inside hx := by
    rw [alike_self]
    exact S.inside hx

/-- Evaluating an expression of the kind. -/
theorem eval_sim (e : Expr) (a : Place) (env : Env) (hg : G a e) (he : N env) :
    T a (eval h call e env) (I.eval e env) :=
  S.toScoped.eval_sim e a env env hg ⟨rfl, he⟩

/-- Binding a pattern. -/
theorem bindPattern_sim (p : Pattern) (v : Value) (env : Env) (hg : ∀ d ∈ p.defaults, G none d)
    (hv : V v) (he : N env) :
    R Env N (bindPattern h call p v env) (I.bindPattern p v env) := by
  have hsim := S.toScoped.bindPattern_sim p [] v v env env hg (.self hv) ⟨rfl, he⟩
  rwa [sameBindings_self] at hsim

/-- Calling a value, when the calls that this makes are related. -/
theorem dispatch_sim {f : Value} {args : List Value} (hf : V f) (ha : ∀ v ∈ args, V v) :
    R Value V (dispatch h call f args) (I.dispatch f args) := by
  have hsim := S.toScoped.dispatch_sim (.self hf) (Value.allAlike_keep.2 ⟨rfl, ha⟩)
  rwa [alike_self] at hsim

end

end EnvSimulation

/-! ## Kinds of expressions -/

/-- What the induction needs of a kind of expressions in places, and of the functions that may be
called. -/
structure Kind (V : Value → Prop) (G : Place → Expr → Prop) : Prop where
  /-- The parts of an expression of the kind. -/
  part {a b : Place} {e e' : Expr} : G a e → (b, e') ∈ e.parts a → G b e'
  /-- The functions that are made. -/
  fn {a : Place} {params : List Pattern} {body : Expr} {env : Env} (stamp : Nat) :
    G a (.fn params body) → Env.Each V env → V (.closure stamp params body env)
  /-- The bindings of a function that may be called. -/
  captured {stamp : Nat} {params : List Pattern} {body : Expr} {env : Env} :
    V (.closure stamp params body env) → Env.Each V env
  /-- The expressions of a function that may be called. -/
  enter {stamp : Nat} {params : List Pattern} {body : Expr} {env : Env} :
    V (.closure stamp params body env) →
      G (some params.length) body ∧ ∀ d ∈ Pattern.defaultsOfAll params, G none d

namespace Kind

variable {G : Place → Expr → Prop}

/-- All expressions, in all places. -/
theorem all : Kind (fun _ => True) fun _ _ => True where
  part _ _ := trivial
  fn _ _ _ := trivial
  captured _ _ _ := trivial
  enter _ := ⟨trivial, fun _ _ => trivial⟩

end Kind

/-! ## Simulations -/

/-- What has to be shown of a relation between the evaluation of a host, with the calls `call`, and an
interpretation that may have other limits `l`. -/
structure Simulation (V : Value → Prop) (G : Place → Expr → Prop) (h : Host) (l : Limits)
    (call : Value → List Value → EvalM Value) {M : Type → Type} [Monad M] (I : Interpretation M)
    (R : (α : Type) → (α → Prop) → EvalM α → M α → Prop)
    (T : Place → EvalM Value → M Value → Prop) : Prop
    extends Kind V G, OperationsRelated V (Env.Each V) G h { h with limits := l } call I R T where
  /-- The entries of the context. -/
  context (name : String) : V (entryNamed h.context name)
  /-- The entries of the memory. -/
  memory (name : String) : V (entryNamed h.memory name)
  /-- Stopping with an error. -/
  fail {α : Type} {P : α → Prop} {e : EvalError} :
    e ≠ .type .strayRecur → R α P (fail e) (I.lift (fail e))
  /-- Reading a definition. -/
  definition? (name : String) :
    R (Option Value) (fun o => ∀ v ∈ o, V v) (definition? name) (I.lift (definition? name))

namespace Simulation

section

variable [Value.Stable V] {G : Place → Expr → Prop} {h : Host} {l : Limits}
  {call : Value → List Value → EvalM Value}
  {M : Type → Type} [Monad M] {I : Interpretation M}
  {R : (α : Type) → (α → Prop) → EvalM α → M α → Prop} {T : Place → EvalM Value → M Value → Prop}
  (S : Simulation V G h l call I R T)
include S

theorem lookupVar_sim (name : String) {env : Env} (he : Env.Each V env) :
    R Value V (lookupVar h name env) (I.lookupVar name env) := by
  unfold lookupVar Interpretation.lookupVar
  cases hl : Env.lookup? env name with
  | some v => exact S.pure (he.lookup? name v hl)
  | none =>
    refine S.bind (S.definition? name) fun o ho => ?_
    cases o with
    | some v => exact S.pure (ho v rfl)
    | none =>
      exact S.host (ScopedSimulation.ite (fun _ => S.pure (Value.Stable.tool name)) fun _ =>
        S.fail fun h => by cases h)

omit [Value.Stable V] in
/-- Binding the row of a predicate to the only argument. -/
theorem enterRow_sim {args : List Value} (ha : ∀ v ∈ args, V v) :
    R Env (Env.Each V) (enterRow args) (I.enterRow args) := by
  rcases args with _ | ⟨row, _ | ⟨arg, rest⟩⟩
  · exact S.fail fun h => by cases h
  · exact S.pure (Env.Each.bind (fun _ h => by cases h) _ (ha row (List.mem_singleton.2 rfl)))
  · exact S.fail fun h => by cases h

theorem toEnv : EnvSimulation V (Env.Each V) G h { h with limits := l } call I R T where
  toOperationsRelated := S.toOperationsRelated
  part := S.part
  bound hv he := he.bind _ hv
  fn := S.fn
  entered hf := ⟨S.captured hf, S.enter hf⟩
  tools _ := rfl
  context name := ⟨S.context name, rfl⟩
  memory name := ⟨S.memory name, rfl⟩
  fail hne _ := S.fail hne
  failed _ := S.fail fun h => by cases h
  lookupVar name _ he := S.lookupVar_sim name he
  rowLoop hb _ env he := by
    obtain ⟨row, hrow, rfl⟩ := he
    refine S.loop (fun env he => hb _ (Value.Stable.getD (he.lookup? _) Value.Stable.nil))
      (fun vs hvs => S.enterRow_sim hvs) _ (Env.Each.bind (fun _ h => by cases h) _ hrow)

/-- Evaluating an expression of the kind. -/
theorem eval_sim (e : Expr) (a : Place) (env : Env) (hg : G a e) (he : Env.Each V env) :
    T a (eval h call e env) (I.eval e env) :=
  S.toEnv.eval_sim e a env hg he

/-- Binding a pattern. -/
theorem bindPattern_sim (p : Pattern) (v : Value) (env : Env) (hg : ∀ d ∈ p.defaults, G none d)
    (hv : V v) (he : Env.Each V env) :
    R Env (Env.Each V) (bindPattern h call p v env) (I.bindPattern p v env) :=
  S.toEnv.bindPattern_sim p v env hg hv he

/-- Calling a value, when the calls that this makes are related. -/
theorem dispatch_sim {f : Value} {args : List Value} (hf : V f) (ha : ∀ v ∈ args, V v) :
    R Value V (dispatch h call f args) (I.dispatch f args) :=
  S.toEnv.dispatch_sim hf ha

end

end Simulation

end ToolLisp
