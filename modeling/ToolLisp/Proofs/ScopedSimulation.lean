import ToolLisp.Proofs.BuiltinFunctions
import ToolLisp.Proofs.Evaluation
import ToolLisp.Proofs.Interpretation
import ToolLisp.Proofs.Places
import ToolLisp.Proofs.Scope

/-!
# Simulations that follow names

Evaluation is built from a few operations on the state of a run, put together by sequencing and by
loops. A relation between evaluation and another interpretation that these building blocks keep is
therefore kept by the evaluation of every expression, provided that the calls are related.
`ScopedSimulation` lists what has to be shown, and `ScopedSimulation.eval_sim` and
`ScopedSimulation.dispatch_sim` are the inductions on expressions and on the calls of builtin functions,
made once for all such relations.

The two sides may see different bindings. These are related by `E names`, where `names` are the names that
are still asked for: the free names of an expression when it is evaluated, and the names that a pattern
does not bind before it is bound. Values are alike on both sides, that is, they are the same up to the
bindings of functions, and they have a stable property `V`. An expression is of a kind `G` that depends on
its place: a `recur` is evaluated only where its place is known. Where something remains to be done after a
computation, it is related by `R`, together with what holds of its results; a computation whose value is
that of the place `a` is related by `T a`.
-/

namespace ToolLisp

open EvalM Expr Value

variable {σ : List Pattern → Expr → Env → Env} {V : Value → Prop}

/-! ## Entries -/

theorem entryNamed_stable [Stable V] {m : Entries} (hm : Entries.Each V m) (name : String) :
    V (entryNamed m name) :=
  Stable.getD (hm.find? _) Stable.nil

theorem keywordEntry_stable [Stable V] {name : String} {v default : Value} (hv : V v)
    (hd : V default) : V (keywordEntry name v default) := by
  unfold keywordEntry
  split
  · exact Stable.getD (Entries.Each.find? (Stable.entries hv) _) hd
  · exact hd

theorem keywordEntry_alike [Stable V] {name : String} {v w d d' : Value} (h : Alike σ V v w)
    (hd : Alike σ V d d') : Alike σ V (keywordEntry name v d) (keywordEntry name w d') := by
  refine ⟨?_, keywordEntry_stable h.2.1 hd.2.1, keywordEntry_stable h.2.2 hd.2.2⟩
  rw [← keywordEntry_rebind, h.1, hd.1, keywordEntry_rebind]

/-! ## Rows -/

/-- The bindings of predicates on two rows that are alike. -/
def RowsAlike (σ : List Pattern → Expr → Env → Env) (V : Value → Prop) (env env' : Env) : Prop :=
  ∃ row row', Alike σ V row row' ∧ env = rowEnv row ∧ env' = rowEnv row'

/-- The rows themselves are alike. -/
theorem RowsAlike.rowOf {σ : List Pattern → Expr → Env → Env} {V : Value → Prop} {env env' : Env}
    (he : RowsAlike σ V env env') : Alike σ V (rowOf env) (rowOf env') := by
  obtain ⟨row, row', hrow, rfl, rfl⟩ := he
  rwa [rowOf_rowEnv, rowOf_rowEnv]

/-! ## Simulations -/

/-- What has to be shown of a relation between the evaluation of a host, with the calls `call`, and an
interpretation for the host `h'`. -/
structure ScopedSimulation (σ : List Pattern → Expr → Env → Env) (V : Value → Prop)
    (G : Place → Expr → Prop) (E : List String → Env → Env → Prop) (h h' : Host)
    (call : Value → List Value → EvalM Value) {M : Type → Type} [Monad M] (I : Interpretation M)
    (R : (α : Type) → (α → α → Prop) → EvalM α → M α → Prop)
    (T : Place → EvalM Value → M Value → Prop) : Prop where
  /-- The parts of an expression of the kind. -/
  part {a b : Place} {e e' : Expr} : G a e → (b, e') ∈ e.parts a → G b e'
  /-- Bindings that are asked for fewer names. -/
  subset {names names' : List String} {env env' : Env} :
    names ⊆ names' → E names' env env' → E names env env'
  /-- A name that is bound need not have been bound before. -/
  bound {names : List String} {name : String} {env env' : Env} {v w : Value} :
    Alike σ V v w → E (names.filter (· != name)) env env' →
      E names (Env.bind env name v) (Env.bind env' name w)
  /-- The functions that are made. -/
  fn {a : Place} {params : List Pattern} {body : Expr} {env env' : Env} (stamp : Nat) :
    G a (.fn params body) → E (Expr.fn params body).free env env' →
      Alike σ V (.closure stamp params body env) (.closure stamp params body env')
  /-- The functions that may be called. -/
  entered {stamp : Nat} {params : List Pattern} {body : Expr} {env env' : Env} :
    Alike σ V (.closure stamp params body env) (.closure stamp params body env') →
      E (Expr.fn params body).free env env' ∧ G (some params.length) body ∧
        ∀ d ∈ Pattern.defaultsOfAll params, G none d
  /-- The tools that there are. -/
  tools (name : String) : h'.tools.has name = h.tools.has name
  /-- The entries of the context. -/
  context (name : String) : Alike σ V (entryNamed h.context name) (entryNamed h'.context name)
  /-- The entries of the memory. -/
  memory (name : String) : Alike σ V (entryNamed h.memory name) (entryNamed h'.memory name)
  /-- Giving a value. -/
  value {v w : Value} : Alike σ V v w → R Value (Alike σ V) (pure v) (pure w)
  /-- Giving several values. -/
  values {n : Nat} {vs ws : List Value} : vs.length = n → AllAlike σ V vs ws →
    R (List Value) (fun vs ws => vs.length = n ∧ AllAlike σ V vs ws) (pure vs) (pure ws)
  /-- Giving entries. -/
  entries {es es' : List (Value × Value)} :
    Entries.Alike σ V es es' → R (List (Value × Value)) (Entries.Alike σ V) (pure es) (pure es')
  /-- Giving bindings. -/
  bindings {names : List String} {env env' : Env} :
    E names env env' → R Env (E names) (pure env) (pure env')
  /-- Giving the outcome of a test. -/
  test (b : Bool) : R Bool Eq (pure b) (pure b)
  /-- One computation after the other. -/
  bind {α β : Type} {P : α → α → Prop} {P' : β → β → Prop} {x : EvalM α} {y : M α}
    {f : α → EvalM β} {g : α → M β} : R α P x y → (∀ a b, P a b → R β P' (f a) (g b)) →
      R β P' (x >>= f) (y >>= g)
  /-- Reading what stays the same. -/
  host {α : Type} {P : α → α → Prop} {x : EvalM α} {g : Host → M α} :
    R α P x (g h') → R α P x (I.host >>= g)
  /-- Stopping with an error that the program does not raise itself. That of a variable without a value
  counts to the variable. -/
  fail {α : Type} {P : α → α → Prop} {e e' : EvalError} : e.rebind σ = e'.rebind σ →
    e ≠ .type .strayRecur → e.plain = true → R α P (fail e) (I.lift (fail e'))
  /-- Stopping with the error that the program raises. -/
  failed {α : Type} {P : α → α → Prop} {v w : Value} :
    Alike σ V v w → R α P (EvalM.fail (.failed v)) (I.lift (EvalM.fail (.failed w)))
  /-- Ending the program. -/
  ret {α : Type} {P : α → α → Prop} {v w : Value} :
    Alike σ V v w → R α P (cut (.ret v)) (I.lift (cut (.ret w)))
  /-- Making a stamp. -/
  freshStamp : R Nat Eq freshStamp (I.lift freshStamp)
  /-- The value of a variable. -/
  lookupVar {name : String} {env env' : Env} : E [name] env env' →
    R Value (Alike σ V) (lookupVar h name env) (I.lookupVar name env')
  /-- Making a definition, which is never that of a builtin function. -/
  define {name : String} {v w : Value} : Builtin.isName name = false → Alike σ V v w →
    R Unit Eq (define name v) (I.lift (define name w))
  /-- Calling a tool that exists. -/
  askTool {name : String} {args args' : Entries} : h.tools.has name = true →
    Alike σ V (.map args) (.map args') →
      R Value (Alike σ V) (askTool h.tools name args) (I.lift (askTool h'.tools name args'))
  /-- Calling a value. -/
  call {f g : Value} {args args' : List Value} : Alike σ V f g → AllAlike σ V args args' →
    R Value (Alike σ V) (call f args) (I.call g args')
  /-- Entering a loop or function that takes `n` values. If it is entered again with another number of
  values, nothing is known about the names that it binds. -/
  loop {n : Nat} {names : List String} {body : Env → EvalM Value} {body' : Env → M Value}
    {rebind : List Value → EvalM Env} {rebind' : List Value → M Env} :
    (∀ env env', E names env env' → T (some n) (body env) (body' env')) →
    (∀ vs ws, AllAlike σ V vs ws →
      R Env (E (if vs.length = n then names else [])) (rebind vs) (rebind' ws)) →
    ∀ env env', E names env env' → R Value (Alike σ V)
      (iterate h.limits.loop body rebind h.limits.loop env) (I.loop body' rebind' env')
  /-- Binding the row of a predicate. -/
  row {row row' : Value} : Alike σ V row row' →
    R Env (RowsAlike σ V) (pure (rowEnv row)) (pure (rowEnv row'))
  /-- Entering a predicate, which binds its row and nothing else. -/
  rowLoop {body : Value → EvalM Value} {body' : Value → M Value} :
    (∀ row row', Alike σ V row row' → T (some 1) (body row) (body' row')) →
    (∀ vs ws, AllAlike σ V vs ws → R Env (RowsAlike σ V) (enterRow vs) (I.enterRow ws)) →
    ∀ env env', RowsAlike σ V env env' → R Value (Alike σ V)
      (iterate h.limits.loop (fun env => body (rowOf env)) enterRow h.limits.loop env)
      (I.loop (fun env => body' (rowOf env)) I.enterRow env')
  /-- Entering a loop or function again. -/
  recur {a : Place} {args : List Expr} {vs ws : List Value} : G a (.recur args) →
    vs.length = args.length → AllAlike σ V vs ws → T a (cut (.recur vs)) (I.recur ws)
  /-- A computation that gives the value of its place. -/
  last {a : Place} {x : EvalM Value} {y : M Value} : R Value (Alike σ V) x y → T a x y
  /-- A computation before the one that gives the value of its place. -/
  before {α : Type} {P : α → α → Prop} {a : Place} {x : EvalM α} {y : M α} {f : α → EvalM Value}
    {g : α → M Value} : R α P x y → (∀ v w, P v w → T a (f v) (g w)) → T a (x >>= f) (y >>= g)
  /-- A computation after which something remains to be done. -/
  inside {x : EvalM Value} {y : M Value} : T none x y → R Value (Alike σ V) x y

namespace ScopedSimulation

/-- Two branches are chosen alike. -/
theorem ite {X Y : Type} {r : X → Y → Prop} {p : Prop} [Decidable p] {x y : X} {x' y' : Y}
    (hx : p → r x x') (hy : ¬ p → r y y') : r (if p then x else y) (if p then x' else y') := by
  by_cases hp : p
  · rw [if_pos hp, if_pos hp]
    exact hx hp
  · rw [if_neg hp, if_neg hp]
    exact hy hp

/-- A branch on a test of values that are alike. -/
theorem branch {X Y : Type} {r : X → Y → Prop} {v w : Value} {x y : X} {x' y' : Y}
    (hvw : Alike σ V v w) (hx : r x x') (hy : r y y') :
    r (if v.truthy then x else y) (if w.truthy then x' else y') := by
  rw [hvw.truthy]
  exact ite (fun _ => hx) fun _ => hy

section

variable {G : Place → Expr → Prop} {E : List String → Env → Env → Prop} {h h' : Host}
  {call : Value → List Value → EvalM Value}
  {M : Type → Type} [Monad M] {I : Interpretation M}
  {R : (α : Type) → (α → α → Prop) → EvalM α → M α → Prop} {T : Place → EvalM Value → M Value → Prop}
  (S : ScopedSimulation σ V G E h h' call I R T)
include S

/-! ## Kinds and bindings -/

theorem inner {a : Place} {e : Expr} {es : List Expr} (he : G a e)
    (hp : e.parts a = Expr.inner es) : ∀ e' ∈ es, G none e' := by
  intro e' h
  refine S.part he ?_
  rw [hp]
  exact List.mem_map.2 ⟨e', h, rfl⟩

/-- A body with the expressions in the bindings before it. -/
theorem around {a b : Place} {e body : Expr} {es : List Expr} (he : G a e)
    (hp : e.parts a = (b, body) :: Expr.inner es) : G b body ∧ ∀ e' ∈ es, G none e' := by
  refine ⟨S.part he (hp ▸ List.mem_cons_self), fun e' h => S.part he ?_⟩
  rw [hp]
  exact List.mem_cons_of_mem _ (List.mem_map.2 ⟨e', h, rfl⟩)

theorem left {names names' : List String} {env env' : Env} (he : E (names ++ names') env env') :
    E names env env' :=
  S.subset (List.subset_append_left _ _) he

theorem right {names names' : List String} {env env' : Env} (he : E (names ++ names') env env') :
    E names' env env' :=
  S.subset (List.subset_append_right _ _) he

/-! ## Tools and keywords -/

theorem callTool_sim [Stable V] (name : String) {args args' : List Value} (ha : AllAlike σ V args args') :
    R Value (Alike σ V) (callTool h name args) (I.callTool name args') := by
  unfold callTool Interpretation.callTool
  refine S.host ?_
  rw [S.tools]
  refine ite (fun hn => ?_) fun _ => S.fail rfl (fun h => by cases h) rfl
  obtain ⟨rfl, rfl⟩ | ⟨v, rest, w, rest', rfl, rfl, hvw, hrest⟩ := ha.cases
  · exact S.fail rfl (fun h => by cases h) rfl
  · obtain ⟨rfl, rfl⟩ | ⟨v', rest, w', rest', rfl, rfl, -, -⟩ := hrest.cases
    · cases hvw.matching with
      | map => exact S.askTool hn hvw
      | _ => exact S.fail rfl (fun h => by cases h) rfl
    · cases hvw.matching <;> exact S.fail rfl (fun h => by cases h) rfl

theorem callKeyword_sim [Stable V] (name : String) {args args' : List Value} (ha : AllAlike σ V args args') :
    R Value (Alike σ V) (callKeyword name args) (I.callKeyword name args') := by
  obtain ⟨rfl, rfl⟩ | ⟨v, rest, w, rest', rfl, rfl, hvw, hrest⟩ := ha.cases
  · exact S.fail rfl (fun h => by cases h) rfl
  · obtain ⟨rfl, rfl⟩ | ⟨d, rest, d', rest', rfl, rfl, hd, hrest⟩ := hrest.cases
    · exact S.value (keywordEntry_alike hvw .nil)
    · obtain ⟨rfl, rfl⟩ | ⟨u, rest, u', rest', rfl, rfl, -, -⟩ := hrest.cases
      · exact S.value (keywordEntry_alike hvw hd)
      · refine S.fail ?_ (fun h => by cases h) rfl
        exact congrArg (fun n => EvalError.rebind σ (.keywordCall name n)) ha.length

/-! ## Expressions and patterns -/

mutual

/-- Evaluating an expression of the kind in bindings that are related on its free names. Each case gives
the parts their places as `Expr.parts` does. -/
theorem eval_sim [Stable V] : ∀ (e : Expr) (a : Place) (env env' : Env), G a e → E e.free env env' →
    T a (eval h call e env) (I.eval e env')
  | .literal l, a, env, env', hg, he => by
    simp only [eval, Interpretation.eval]
    exact S.last (S.value (.self (Stable.literal l)))
  | .vector items, a, env, env', hg, he => by
    simp only [eval, Interpretation.eval]
    exact S.before (evalAll_sim items env env' (S.inner hg rfl) he) fun vs ws hvs =>
      S.last (S.value (.vector hvs.2))
  | .map entries, a, env, env', hg, he => by
    simp only [eval, Interpretation.eval]
    exact S.before (evalEntries_sim entries env env' (S.inner hg rfl) he) fun es es' hes =>
      S.last (S.value hes.ofList)
  | .var name, a, env, env', hg, he => by
    simp only [eval, Interpretation.eval]
    exact S.last (S.lookupVar he)
  | .context name, a, env, env', hg, he => by
    simp only [eval, Interpretation.eval]
    exact S.last (S.host (S.value (S.context name)))
  | .memory name, a, env, env', hg, he => by
    simp only [eval, Interpretation.eval]
    exact S.last (S.host (S.value (S.memory name)))
  | .bind bs body, a, env, env', hg, he => by
    simp only [eval, Interpretation.eval]
    have ⟨hbody, hbs⟩ := S.around hg rfl
    exact S.before (bindAll_sim bs body.free env env' hbs he) fun inner inner' hi =>
      eval_sim body a inner inner' hbody hi
  | .choose test yes no, a, env, env', hg, he => by
    simp only [eval, Interpretation.eval]
    have htest : G none test := S.part hg (by simp [Expr.parts])
    have hyes : G a yes := S.part hg (by simp [Expr.parts])
    have hno : G a no := S.part hg (by simp [Expr.parts])
    have hbranches := S.right he
    exact S.before (S.inside (eval_sim test none env env' htest (S.left he))) fun v w hvw =>
      branch hvw (eval_sim yes a env env' hyes (S.left hbranches))
        (eval_sim no a env env' hno (S.right hbranches))
  | .and items, a, env, env', hg, he => by
    simp only [eval, Interpretation.eval]
    exact evalAnd_sim items a env env' (fun _ hp => S.part hg hp) he
  | .or items, a, env, env', hg, he => by
    simp only [eval, Interpretation.eval]
    exact evalOr_sim items a env env' (fun _ hp => S.part hg hp) he
  | .sequence items, a, env, env', hg, he => by
    simp only [eval, Interpretation.eval]
    exact evalSequence_sim items a env env' (fun _ hp => S.part hg hp) he
  | .fn params body, a, env, env', hg, he => by
    simp only [eval, Interpretation.eval]
    refine S.before S.freshStamp fun n n' hn => ?_
    subst hn
    exact S.last (S.value (S.fn n hg he))
  | .call callee args, a, env, env', hg, he => by
    simp only [eval, Interpretation.eval]
    have ⟨hcallee, hargs⟩ := List.forall_mem_cons.1 (S.inner hg rfl)
    exact S.before (S.inside (eval_sim callee none env env' hcallee (S.left he))) fun f g hfg =>
      S.before (evalAll_sim args env env' hargs (S.right he)) fun vs ws hvs =>
        S.last (S.call hfg hvs.2)
  | .rowTest path op none, a, env, env', hg, he => by
    simp only [eval, Interpretation.eval]
    refine S.before S.freshStamp fun n n' hn => ?_
    subst hn
    exact S.last (S.value (Alike.nil.rowTest n path op))
  | .rowTest path op (some operand), a, env, env', hg, he => by
    simp only [eval, Interpretation.eval]
    have hoperand := S.inner hg rfl operand (by simp)
    refine S.before (S.inside (eval_sim operand none env env' hoperand he)) fun v w hvw =>
      S.before S.freshStamp fun n n' hn => ?_
    subst hn
    exact S.last (S.value (hvw.rowTest n path op))
  | .combine c tests, a, env, env', hg, he => by
    simp only [eval, Interpretation.eval]
    refine S.before (evalTests_sim tests env env' (S.inner hg rfl) he) fun fs gs hfs =>
      S.before S.freshStamp fun n n' hn => ?_
    subst hn
    exact S.last (S.value (.combined hfs.2 n c))
  | .toolCall name args, a, env, env', hg, he => by
    simp only [eval, Interpretation.eval]
    have hargs := S.inner hg rfl args List.mem_cons_self
    exact S.before (S.inside (eval_sim args none env env' hargs he)) fun v w hvw =>
      S.last (S.callTool_sim name (.cons hvw .nil))
  | .ret value, a, env, env', hg, he => by
    simp only [eval, Interpretation.eval]
    have hvalue := S.inner hg rfl value List.mem_cons_self
    exact S.before (S.inside (eval_sim value none env env' hvalue he)) fun v w hvw =>
      S.last (S.ret hvw)
  | .fail value, a, env, env', hg, he => by
    simp only [eval, Interpretation.eval]
    have hvalue := S.inner hg rfl value List.mem_cons_self
    exact S.before (S.inside (eval_sim value none env env' hvalue he)) fun v w hvw =>
      S.last (S.failed hvw)
  | .loop bs body, a, env, env', hg, he => by
    simp only [eval, Interpretation.eval]
    have ⟨hbody, hbs⟩ := S.around hg rfl
    refine S.before (bindAll_sim bs body.free env env' hbs he) fun inner inner' hi => S.last ?_
    exact S.loop (fun turn turn' ht => eval_sim body (some bs.length) turn turn' hbody ht)
      (fun vs ws hvs => rebindAll_sim bs body.free vs ws env env' hbs hvs he) inner inner' hi
  | .recur args, a, env, env', hg, he => by
    simp only [eval, Interpretation.eval]
    exact S.before (evalAll_sim args env env' (S.inner hg rfl) he) fun vs ws hvs =>
      S.recur hg hvs.1 hvs.2
  | .define name value, a, env, env', hg, he => by
    simp only [eval, Interpretation.eval]
    have hvalue := S.inner hg rfl value List.mem_cons_self
    refine ite (fun _ => S.last (S.fail rfl (fun h => by cases h) rfl)) fun hn => ?_
    have hn : Builtin.isName name = false := by simpa using hn
    exact S.before (S.inside (eval_sim value none env env' hvalue he)) fun v w hvw =>
      S.before (S.define hn hvw) fun _ _ _ => S.last (S.value hvw)

/-- As many values as expressions. -/
theorem evalAll_sim [Stable V] : ∀ (es : List Expr) (env env' : Env), (∀ e ∈ es, G none e) →
    E (freeOfAll es) env env' →
      R (List Value) (fun vs ws => vs.length = es.length ∧ AllAlike σ V vs ws)
        (evalAll h call es env) (I.evalAll es env')
  | [], env, env', hg, he => by
    simp only [evalAll, Interpretation.evalAll]
    exact S.values rfl .nil
  | e :: rest, env, env', hg, he => by
    simp only [evalAll, Interpretation.evalAll]
    have ⟨hge, hgrest⟩ := List.forall_mem_cons.1 hg
    refine S.bind (S.inside (eval_sim e none env env' hge (S.left he))) fun v w hvw =>
      S.bind (evalAll_sim rest env env' hgrest (S.right he)) fun vs ws hvs => S.values ?_ ?_
    · rw [List.length_cons, List.length_cons, hvs.1]
    · exact .cons hvw hvs.2

theorem evalEntries_sim [Stable V] : ∀ (es : List (Expr × Expr)) (env env' : Env),
    (∀ e ∈ es.flatMap fun e => [e.1, e.2], G none e) → E (freeOfEntries es) env env' →
      R (List (Value × Value)) (Entries.Alike σ V) (evalEntries h call es env) (I.evalEntries es env')
  | [], env, env', hg, he => by
    simp only [evalEntries, Interpretation.evalEntries]
    exact S.entries .nil
  | (k, v) :: rest, env, env', hg, he => by
    simp only [evalEntries, Interpretation.evalEntries]
    simp only [List.flatMap_cons, List.cons_append, List.nil_append, List.forall_mem_cons] at hg
    have hvalue := S.right he
    exact S.bind (S.inside (eval_sim k none env env' hg.1 (S.left he))) fun _ _ hk =>
      S.bind (S.inside (eval_sim v none env env' hg.2.1 (S.left hvalue))) fun _ _ hv =>
        S.bind (evalEntries_sim rest env env' hg.2.2 (S.right hvalue)) fun _ _ hes =>
          S.entries (.cons hk hv hes)

theorem evalAnd_sim [Stable V] : ∀ (es : List Expr) (a : Place) (env env' : Env),
    (∀ p ∈ toLast a es, G p.1 p.2) → E (freeOfAll es) env env' →
      T a (evalAnd h call es env) (I.evalAnd es env')
  | [], a, env, env', hg, he => by
    simp only [evalAnd, Interpretation.evalAnd]
    exact S.last (S.value (.bool true))
  | [e], a, env, env', hg, he => by
    simp only [evalAnd, Interpretation.evalAnd]
    exact eval_sim e a env env' (hg _ List.mem_cons_self) (S.left he)
  | e :: f :: rest, a, env, env', hg, he => by
    simp only [evalAnd, Interpretation.evalAnd]
    have ⟨hge, hgrest⟩ := List.forall_mem_cons.1 hg
    exact S.before (S.inside (eval_sim e none env env' hge (S.left he))) fun v w hvw =>
      branch hvw (evalAnd_sim (f :: rest) a env env' hgrest (S.right he)) (S.last (S.value hvw))

theorem evalOr_sim [Stable V] : ∀ (es : List Expr) (a : Place) (env env' : Env),
    (∀ p ∈ toLast a es, G p.1 p.2) → E (freeOfAll es) env env' →
      T a (evalOr h call es env) (I.evalOr es env')
  | [], a, env, env', hg, he => by
    simp only [evalOr, Interpretation.evalOr]
    exact S.last (S.value .nil)
  | [e], a, env, env', hg, he => by
    simp only [evalOr, Interpretation.evalOr]
    exact eval_sim e a env env' (hg _ List.mem_cons_self) (S.left he)
  | e :: f :: rest, a, env, env', hg, he => by
    simp only [evalOr, Interpretation.evalOr]
    have ⟨hge, hgrest⟩ := List.forall_mem_cons.1 hg
    exact S.before (S.inside (eval_sim e none env env' hge (S.left he))) fun v w hvw =>
      branch hvw (S.last (S.value hvw)) (evalOr_sim (f :: rest) a env env' hgrest (S.right he))

theorem evalSequence_sim [Stable V] : ∀ (es : List Expr) (a : Place) (env env' : Env),
    (∀ p ∈ toLast a es, G p.1 p.2) → E (freeOfAll es) env env' →
      T a (evalSequence h call es env) (I.evalSequence es env')
  | [], a, env, env', hg, he => by
    simp only [evalSequence, Interpretation.evalSequence]
    exact S.last (S.value .nil)
  | [e], a, env, env', hg, he => by
    simp only [evalSequence, Interpretation.evalSequence]
    exact eval_sim e a env env' (hg _ List.mem_cons_self) (S.left he)
  | e :: f :: rest, a, env, env', hg, he => by
    simp only [evalSequence, Interpretation.evalSequence]
    have ⟨hge, hgrest⟩ := List.forall_mem_cons.1 hg
    exact S.before (S.inside (eval_sim e none env env' hge (S.left he))) fun _ _ _ =>
      evalSequence_sim (f :: rest) a env env' hgrest (S.right he)

theorem evalTests_sim [Stable V] : ∀ (es : List Expr) (env env' : Env), (∀ e ∈ es, G none e) →
    E (freeOfAll es) env env' →
      R (List Value) (fun fs gs => fs.length = es.length ∧ AllAlike σ V fs gs)
        (evalTests h call es env) (I.evalTests es env')
  | [], env, env', hg, he => by
    simp only [evalTests, Interpretation.evalTests]
    exact S.values rfl .nil
  | e :: rest, env, env', hg, he => by
    simp only [evalTests, Interpretation.evalTests]
    have ⟨hge, hgrest⟩ := List.forall_mem_cons.1 hg
    refine S.bind (S.inside (eval_sim e none env env' hge (S.left he))) fun f g hfg => ?_
    rw [hfg.callable]
    refine ite (fun _ => ?_) fun _ => S.fail ?_ (fun h => by cases h) rfl
    · refine S.bind (evalTests_sim rest env env' hgrest (S.right he)) fun fs gs hfs => S.values ?_ ?_
      · rw [List.length_cons, List.length_cons, hfs.1]
      · exact .cons hfg hfs.2
    · exact congrArg (fun v => EvalError.type (.predicate v)) hfg.1

theorem bindAll_sim [Stable V] : ∀ (bs : List (Pattern × Expr)) (names : List String) (env env' : Env),
    (∀ e ∈ ofBindings bs, G none e) → E (beforeBindings bs names) env env' →
      R Env (E names) (bindAll h call bs env) (I.bindAll bs env')
  | [], names, env, env', hg, he => by
    simp only [bindAll, Interpretation.bindAll]
    exact S.bindings he
  | (p, e) :: rest, names, env, env', hg, he => by
    simp only [bindAll, Interpretation.bindAll]
    simp only [ofBindings, List.flatMap_cons, List.cons_append, List.forall_mem_cons,
      List.forall_mem_append] at hg
    exact S.bind (S.inside (eval_sim e none env env' hg.1 (S.left he))) fun v w hvw =>
      S.bind (bindPattern_sim p _ v w env env' hg.2.1 hvw (S.right he)) fun inner inner' hi =>
        bindAll_sim rest names inner inner' hg.2.2 hi

/-- All names are bound if there are as many values as patterns. -/
theorem rebindAll_sim [Stable V] : ∀ (bs : List (Pattern × Expr)) (names : List String) (vs ws : List Value)
    (env env' : Env), (∀ e ∈ ofBindings bs, G none e) → AllAlike σ V vs ws →
      E (beforeBindings bs names) env env' →
        R Env (E (if vs.length = bs.length then names else []))
          (rebindAll h call bs vs env) (I.rebindAll bs ws env')
  | [], names, vs, ws, env, env', hg, hvs, he => by
    simp only [rebindAll, Interpretation.rebindAll]
    refine S.bindings (S.subset ?_ he)
    split
    · exact fun _ h => h
    · exact List.nil_subset _
  | (p, e) :: rest, names, vs, ws, env, env', hg, hvs, he => by
    simp only [ofBindings, List.flatMap_cons, List.cons_append, List.forall_mem_cons,
      List.forall_mem_append] at hg
    obtain ⟨rfl, rfl⟩ | ⟨v, vs, w, ws, rfl, rfl, hvw, hvs⟩ := hvs.cases
    -- too few values: nothing is claimed of the names
    · simp only [rebindAll, Interpretation.rebindAll]
      refine S.bindings (S.subset (List.nil_subset _) he)
    · simp only [rebindAll, Interpretation.rebindAll, List.length_cons, Nat.add_right_cancel_iff]
      exact S.bind (bindPattern_sim p _ v w env env' hg.2.1 hvw (S.right he)) fun inner inner' hi =>
        rebindAll_sim rest names vs ws inner inner' hg.2.2 hvs hi

/-- Binding a pattern gives bindings that are related on `names` if they were related on the names that are
needed before the pattern. -/
theorem bindPattern_sim [Stable V] : ∀ (p : Pattern) (names : List String) (v w : Value) (env env' : Env),
    (∀ d ∈ p.defaults, G none d) → Alike σ V v w → E (p.before names) env env' →
      R Env (E names) (bindPattern h call p v env) (I.bindPattern p w env')
  | .name name, names, v, w, env, env', hg, hvw, he => by
    simp only [bindPattern, Interpretation.bindPattern]
    exact S.bindings (S.bound hvw he)
  | .ignore, names, v, w, env, env', hg, hvw, he => by
    simp only [bindPattern, Interpretation.bindPattern]
    exact S.bindings he
  | .whole name p, names, v, w, env, env', hg, hvw, he => by
    simp only [bindPattern, Interpretation.bindPattern]
    simp only [Pattern.defaults] at hg
    exact S.bind (bindPattern_sim p _ v w env env' hg hvw he) fun inner inner' hi =>
      S.bindings (S.bound hvw hi)
  | .map fields, names, v, w, env, env', hg, hvw, he => by
    simp only [Pattern.defaults] at hg
    cases hvw.matching with
    | map hm =>
      simp only [bindPattern, Interpretation.bindPattern]
      exact bindParts_sim fields names _ _ env env' hg hm he
    | _ =>
      simp only [bindPattern, Interpretation.bindPattern]
      exact S.fail (congrArg (EvalError.destructure "map") hvw.1) (fun h => by cases h) rfl
  | .seq items none, names, v, w, env, env', hg, hvw, he => by
    simp only [Pattern.defaults] at hg
    cases hvw.matching with
    | vector hvs =>
      simp only [bindPattern, Interpretation.bindPattern]
      exact bindItems_sim items names _ _ env env' hg hvs he
    | _ =>
      simp only [bindPattern, Interpretation.bindPattern]
      exact S.fail (congrArg (EvalError.destructure "list") hvw.1) (fun h => by cases h) rfl
  | .seq items (some rest), names, v, w, env, env', hg, hvw, he => by
    simp only [Pattern.defaults, List.forall_mem_append] at hg
    cases hvw.matching with
    | vector hvs =>
      simp only [bindPattern, Interpretation.bindPattern]
      exact S.bind (bindItems_sim items _ _ _ env env' hg.1 hvs he) fun inner inner' hi =>
        bindPattern_sim rest names _ _ inner inner' hg.2 (hvs.drop items.length).rest hi
    | _ =>
      simp only [bindPattern, Interpretation.bindPattern]
      exact S.fail (congrArg (EvalError.destructure "list") hvw.1) (fun h => by cases h) rfl

theorem bindParts_sim [Stable V] : ∀ (parts : List (Pattern × Literal × Option Expr)) (names : List String)
    (m m' : Entries) (env env' : Env), (∀ d ∈ Pattern.defaultsOfParts parts, G none d) →
      Entries.Alike σ V m m' → E (Pattern.beforeParts parts names) env env' →
        R Env (E names) (bindParts h call parts m env) (I.bindParts parts m' env')
  | [], names, m, m', env, env', hg, hm, he => by
    simp only [bindParts, Interpretation.bindParts]
    exact S.bindings he
  | (p, key, none) :: rest, names, m, m', env, env', hg, hm, he => by
    simp only [bindParts, Interpretation.bindParts]
    simp only [Pattern.defaultsOfParts, List.forall_mem_append] at hg
    exact S.bind (bindPattern_sim p _ _ _ env env' hg.1 (hm.getD_find? key) he) fun inner inner' hi =>
      bindParts_sim rest names m m' inner inner' hg.2 hm hi
  | (p, key, some default) :: rest, names, m, m', env, env', hg, hm, he => by
    simp only [bindParts, Interpretation.bindParts]
    simp only [Pattern.defaultsOfParts, List.forall_mem_append, List.forall_mem_cons] at hg
    have hrest (v w : Value) (hvw : Alike σ V v w) :=
      S.bind (bindPattern_sim p _ v w env env' hg.2.1 hvw (S.right he)) fun inner inner' hi =>
        bindParts_sim rest names m m' inner inner' hg.2.2 hm hi
    have hfind := hm.find? (.self (Stable.literal key))
    generalize Entries.find? m key.value = o, Entries.find? m' key.value = o' at hfind ⊢
    cases hfind with
    | none => exact S.bind (S.inside (eval_sim default none env env' hg.1 (S.left he))) hrest
    | some hvw => exact S.bind (S.value hvw) hrest

theorem bindItems_sim [Stable V] : ∀ (items : List Pattern) (names : List String) (vs ws : List Value)
    (env env' : Env), (∀ d ∈ Pattern.defaultsOfAll items, G none d) → AllAlike σ V vs ws →
      E (Pattern.beforeAll items names) env env' →
        R Env (E names) (bindItems h call items vs env) (I.bindItems items ws env')
  | [], names, vs, ws, env, env', hg, hvs, he => by
    simp only [bindItems, Interpretation.bindItems]
    exact S.bindings he
  | p :: rest, names, vs, ws, env, env', hg, hvs, he => by
    simp only [bindItems, Interpretation.bindItems]
    simp only [Pattern.defaultsOfAll, List.forall_mem_append] at hg
    exact S.bind (bindPattern_sim p _ _ _ env env' hg.1 hvs.headD he) fun inner inner' hi =>
      bindItems_sim rest names vs.tail ws.tail inner inner' hg.2 hvs.tail hi

end

/-! ## Calls -/

/-- Binding parameters to as many values as there are parameters. With another number of values there are no
bindings, so nothing is asked of them. -/
theorem enter_sim [Stable V] {params : List Pattern} {names names' : List String} {env env' : Env}
    {args args' : List Value} (hg : ∀ d ∈ Pattern.defaultsOfAll params, G none d)
    (he : E (Pattern.beforeAll params names) env env') (ha : AllAlike σ V args args')
    (hn : args.length = params.length → names' = names) :
    R Env (E names') (enter h call params env args) (I.enter params env' args') := by
  unfold enter Interpretation.enter
  rw [← ha.length]
  refine ite (fun hl => ?_) fun _ => S.fail rfl (fun h => by cases h) rfl
  rw [hn hl]
  exact S.bindItems_sim params names args args' env env' hg ha he

theorem callClosure_sim [Stable V] {stamp : Nat} {params : List Pattern} {body : Expr} {env env' : Env}
    {args args' : List Value}
    (hf : Alike σ V (.closure stamp params body env) (.closure stamp params body env'))
    (ha : AllAlike σ V args args') :
    R Value (Alike σ V) (callClosure h call params (eval h call body) env args)
      (I.callClosure params body env' args') := by
  have ⟨he, hbody, hparams⟩ := S.entered hf
  unfold callClosure Interpretation.callClosure
  refine S.bind (S.enter_sim hparams he ha fun _ => rfl) fun inner inner' hi => ?_
  exact S.loop (fun turn turn' ht => S.eval_sim body (some params.length) turn turn' hbody ht)
    (fun vs ws hvs => S.enter_sim hparams he hvs fun hl => if_pos hl) inner inner' hi

theorem allHold_sim [Stable V] {row row' : Value} (hr : Alike σ V row row') {tests tests' : List Value}
    (ht : AllAlike σ V tests tests') :
    R Bool Eq (allHold call row tests) (I.allHold row' tests') := by
  induction tests generalizing tests' with
  | nil =>
    obtain rfl := List.length_eq_zero_iff.1 ht.length.symm
    exact S.test true
  | cons f rest ih =>
    cases tests' with
    | nil => cases ht.length
    | cons g rest' =>
      have ⟨hfg, hrest⟩ := AllAlike.cons_iff.1 ht
      exact S.bind (S.call hfg (.cons hr .nil)) fun v w hvw => branch hvw (ih hrest) (S.test false)

theorem anyHolds_sim [Stable V] {row row' : Value} (hr : Alike σ V row row') {tests tests' : List Value}
    (ht : AllAlike σ V tests tests') :
    R Bool Eq (anyHolds call row tests) (I.anyHolds row' tests') := by
  induction tests generalizing tests' with
  | nil =>
    obtain rfl := List.length_eq_zero_iff.1 ht.length.symm
    exact S.test false
  | cons f rest ih =>
    cases tests' with
    | nil => cases ht.length
    | cons g rest' =>
      have ⟨hfg, hrest⟩ := AllAlike.cons_iff.1 ht
      exact S.bind (S.call hfg (.cons hr .nil)) fun v w hvw => branch hvw (S.test true) (ih hrest)

/-- What a comparison says of a row. -/
theorem evalRow_test_sim [Stable V] (path : List Literal) (op : RowOp) {operand operand' row row' : Value}
    (ho : operand.rebind σ = operand'.rebind σ) (hr : Alike σ V row row') :
    R Value (Alike σ V) (evalRow call (.test path op operand) row)
      (I.evalRow (.test path op operand') row') := by
  simp only [evalRow, Interpretation.evalRow]
  rw [← @holds_getIn?_rebind σ, hr.1, ho, holds_getIn?_rebind]
  exact S.value (.bool _)

/-- What a combination says of a row. -/
theorem evalRow_combined_sim [Stable V] (c : Combinator) {tests tests' : List Value} {row row' : Value}
    (ht : AllAlike σ V tests tests') (hr : Alike σ V row row') :
    R Value (Alike σ V) (evalRow call (.combined c tests) row) (I.evalRow (.combined c tests') row') := by
  cases c with
  | allOf => exact S.bind (S.allHold_sim hr ht) fun b _ hb => hb ▸ S.value (.bool b)
  | anyOf => exact S.bind (S.anyHolds_sim hr ht) fun b _ hb => hb ▸ S.value (.bool b)
  | noneOf => exact S.bind (S.anyHolds_sim hr ht) fun b _ hb => hb ▸ S.value (.bool (!b))

/-- Binding the row of a predicate to the only argument. With another number of arguments there is an error,
in which only this number shows. -/
theorem enterRow_sim {args args' : List Value} (ha : AllAlike σ V args args') :
    R Env (RowsAlike σ V) (enterRow args) (I.enterRow args') := by
  obtain ⟨rfl, rfl⟩ | ⟨row, rest, row', rest', rfl, rfl, hrow, hrest⟩ := ha.cases
  · exact S.fail rfl (fun h => by cases h) rfl
  · obtain ⟨rfl, rfl⟩ | ⟨_, _, _, _, rfl, rfl, -, -⟩ := hrest.cases
    · exact S.row hrow
    · refine S.fail ?_ (fun h => by cases h) rfl
      exact congrArg (fun n => EvalError.rebind σ (.arity 1 n)) ha.length

/-- Calling predicates on rows that say alike of rows that are alike. -/
theorem callRow_sim [Stable V] {body body' : RowBody} {args args' : List Value} (ha : AllAlike σ V args args')
    (hbody : ∀ row row', Alike σ V row row' →
      R Value (Alike σ V) (evalRow call body row) (I.evalRow body' row')) :
    R Value (Alike σ V) (callRow h call body args) (I.callRow body' args') := by
  rw [callRow_eq]
  unfold Interpretation.callRow
  refine S.bind (S.enterRow_sim ha) ?_
  exact S.rowLoop (fun row row' hrow => S.last (hbody row row' hrow)) fun _ _ hvs => S.enterRow_sim hvs

/-- Performing two actions that are alike. -/
theorem perform_sim {x y : Action Value} (hxy : x.Alike σ V y) :
    R Value (Alike σ V) (x.run call) (I.perform y) := by
  induction hxy with
  | done hv => exact S.value hv
  | fail he => exact S.fail he.same he.noRecur he.plain
  | call hf ha _ ih =>
    rw [Action.run_call]
    exact S.bind (S.call hf (AllAlike.iff_forall₂.2 ha)) ih

/-- Calling values that are alike, when the calls that this makes are related. -/
theorem dispatch_sim [Stable V] {f g : Value} {args args' : List Value} (hf : Alike σ V f g)
    (ha : AllAlike σ V args args') :
    R Value (Alike σ V) (dispatch h call f args) (I.dispatch g args') := by
  cases hf.matching with
  | keyword name => exact S.callKeyword_sim name ha
  | closure => exact S.callClosure_sim hf ha
  | rowTest hoperand => exact S.callRow_sim ha fun _ _ hrow => S.evalRow_test_sim _ _ hoperand hrow
  | combined htests => exact S.callRow_sim ha fun _ _ hrow => S.evalRow_combined_sim _ htests hrow
  | builtin f => exact S.perform_sim (f.act_alike ha)
  | tool name => exact S.callTool_sim name ha
  | _ =>
    simp only [dispatch, Interpretation.dispatch]
    exact S.fail (congrArg EvalError.notCallable hf.1) (fun h => by cases h) rfl

end

end ScopedSimulation

end ToolLisp
