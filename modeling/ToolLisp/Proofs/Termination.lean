import ToolLisp.Proofs.Evaluation
import ToolLisp.Proofs.Fuel

/-!
# Every evaluation ends

For every expression there is an amount of fuel below which its evaluation runs out of fuel and from
which on it has one outcome, that of `eval`. So evaluation on fuel always ends, and more fuel changes
nothing.

`Settles` says this of a family of computations on fuel and is kept by sequencing. The induction is
threefold: on the calls that may still be nested, inside it on the expression, and inside that on the
turns that a loop has left. Every call goes through `callFuel`, which compares the depth with its limit,
so the outer induction covers closures that apply themselves and the calls that builtin functions make.
-/

namespace ToolLisp

open FuelM EvalM

namespace FuelM

variable {α β : Type}

/-- From each state there is an amount of fuel below which `g` has none and from which on it does what
`x` does. -/
def Settles (g : Nat → FuelM α) (x : EvalM α) : Prop :=
  ∀ s, ∃ k, ∀ fuel, g fuel s = if fuel < k then none else some (x s)

theorem Settles.lift (x : EvalM α) : Settles (fun _ => FuelM.lift x) x :=
  fun _ => ⟨0, fun _ => rfl⟩

theorem Settles.pure (a : α) : Settles (fun _ => Pure.pure a) (Pure.pure a) :=
  .lift _

/-- A step that takes one unit of fuel and then does what `g'` does. -/
theorem Settles.step {g g' : Nat → FuelM α} {x : EvalM α} (hx : Settles g' x) (h0 : g 0 = out)
    (hs : ∀ fuel, g (fuel + 1) = g' fuel) : Settles g x := by
  intro s
  obtain ⟨k, hk⟩ := hx s
  refine ⟨k + 1, fun fuel => ?_⟩
  cases fuel with
  | zero => rw [h0, if_pos (Nat.succ_pos k), out]
  | succ fuel =>
    rw [hs, hk]
    simp only [Nat.add_lt_add_iff_right]

/-- Two computations in sequence need as much fuel as the one that needs more. -/
theorem ite_lt_max (m n fuel : Nat) (r : Option α) :
    (if fuel < max m n then none else r) =
      if fuel < m then none else if fuel < n then none else r := by
  by_cases hm : fuel < m
  · rw [if_pos hm, if_pos (by omega)]
  · rw [if_neg hm]
    by_cases hn : fuel < n
    · rw [if_pos hn, if_pos (by omega)]
    · rw [if_neg hn, if_neg (by omega)]

/-- The fuel of both parts adds up, at most. -/
theorem Settles.bind {g : Nat → FuelM α} {k : Nat → α → FuelM β} {x : EvalM α} {f : α → EvalM β}
    (hg : Settles g x) (hk : ∀ a, Settles (fun fuel => k fuel a) (f a)) :
    Settles (fun fuel => g fuel >>= k fuel) (x >>= f) := by
  intro s
  obtain ⟨m, hm⟩ := hg s
  have hb (fuel : Nat) : (g fuel >>= k fuel) s = andThen (g fuel) (k fuel) s := rfl
  simp only [hb, andThen, hm, bind_apply]
  rcases x s with ⟨e | a, s'⟩
  · refine ⟨m, fun fuel => ?_⟩
    by_cases hlt : fuel < m
    · rw [if_pos hlt, if_pos hlt]
    · rw [if_neg hlt, if_neg hlt]
  · obtain ⟨n, hn⟩ := hk a s'
    refine ⟨max m n, fun fuel => ?_⟩
    rw [ite_lt_max]
    by_cases hlt : fuel < m
    · rw [if_pos hlt, if_pos hlt]
    · rw [if_neg hlt, if_neg hlt]
      exact hn fuel

/-- Another turn needs more fuel, but still some fixed amount. -/
theorem Settles.orAgain {g : Nat → FuelM Value} {again : Nat → List Value → FuelM Value}
    {x : EvalM Value} {y : List Value → EvalM Value} (hg : Settles g x)
    (hy : ∀ vs, Settles (fun fuel => again fuel vs) (y vs)) :
    Settles (fun fuel => (g fuel).orAgain (again fuel)) (x.orAgain y) := by
  intro s
  obtain ⟨m, hm⟩ := hg s
  simp only [FuelM.orAgain, EvalM.orAgain, hm]
  by_cases hx : ∃ vs s', x s = (.error (.recur vs), s')
  · obtain ⟨vs, s', hx⟩ := hx
    obtain ⟨n, hn⟩ := hy vs s'
    -- fuel that is enough for this turn and for what follows is enough for both
    refine ⟨max m n, fun fuel => ?_⟩
    simp only [hx]
    rw [ite_lt_max]
    by_cases hlt : fuel < m
    · rw [if_pos hlt, if_pos hlt]
    · rw [if_neg hlt, if_neg hlt]
      exact hn fuel
  · refine ⟨m, fun fuel => ?_⟩
    rcases hr : x s with ⟨e | v, s'⟩
    · cases e with
      | recur vs => exact absurd ⟨vs, s', hr⟩ hx
      | error e => by_cases hlt : fuel < m <;> simp only [hlt, if_true, if_false]
      | ret v => by_cases hlt : fuel < m <;> simp only [hlt, if_true, if_false]
    · by_cases hlt : fuel < m <;> simp only [hlt, if_true, if_false]

theorem Settles.ite {p : Prop} [Decidable p] {g g' : Nat → FuelM α} {x x' : EvalM α}
    (hx : p → Settles g x) (hx' : ¬ p → Settles g' x') :
    Settles (fun fuel => if p then g fuel else g' fuel) (if p then x else x') := by
  by_cases hp : p
  · simp only [if_pos hp]
    exact hx hp
  · simp only [if_neg hp]
    exact hx' hp

end FuelM

/-! ## Expressions and patterns -/

section

variable {h : Host} {depth : Nat} {call : Value → List Value → EvalM Value}

/-- The turns of a loop, of which `turns` have been made. By induction on those that are left. -/
theorem loopFuel_settles {bs : List (Pattern × Expr)} {body : Expr} {outer : Env}
    (hb : ∀ env, Settles (fun fuel => evalFuel h fuel depth body env) (eval h call body env))
    (hr : ∀ vs, Settles (fun fuel => rebindAllFuel h fuel depth bs vs outer)
      (rebindAll h call bs vs outer)) :
    ∀ (n turns : Nat), turns + n = h.limits.loop → ∀ env,
      Settles (fun fuel => loopFuel h fuel depth bs body outer turns env)
        (iterate h.limits.loop (eval h call body) (fun vs => rebindAll h call bs vs outer) n env) := by
  intro n
  induction n with
  | zero =>
    intro turns ht env
    rw [iterate_zero]
    refine ((hb env).orAgain fun vs => .lift _).step rfl fun fuel => ?_
    simp only [loopFuel, if_pos (show h.limits.loop < turns + 1 by omega)]
  | succ n ih =>
    intro turns ht env
    rw [iterate_succ]
    refine ((hb env).orAgain fun vs => (hr vs).bind (ih (turns + 1) (by omega))).step rfl
      fun fuel => ?_
    simp only [loopFuel, if_neg (show ¬ h.limits.loop < turns + 1 by omega)]

/-- The calls at a depth settle. -/
def CallsSettle (h : Host) (call : Value → List Value → EvalM Value) (depth : Nat) : Prop :=
  ∀ f args, Settles (fun fuel => callFuel h fuel depth f args) (call f args)

mutual

/-- Evaluating an expression settles if the calls that it makes do. -/
theorem eval_settles (hc : CallsSettle h call depth) :
    ∀ (e : Expr) (env : Env),
      Settles (fun fuel => evalFuel h fuel depth e env) (eval h call e env)
  | .literal _, _ => by simp only [eval]; exact (Settles.pure _).step rfl fun _ => rfl
  | .vector items, env => by
    simp only [eval]
    exact ((evalAll_settles hc items env).bind fun _ => .pure _).step rfl fun _ => rfl
  | .map entries, env => by
    simp only [eval]
    exact ((evalEntries_settles hc entries env).bind fun _ => .pure _).step rfl fun _ => rfl
  | .var _, _ => by simp only [eval]; exact (Settles.lift _).step rfl fun _ => rfl
  | .context _, _ => by simp only [eval]; exact (Settles.pure _).step rfl fun _ => rfl
  | .memory _, _ => by simp only [eval]; exact (Settles.pure _).step rfl fun _ => rfl
  | .bind bs body, env => by
    simp only [eval]
    exact ((bindAll_settles hc bs env).bind fun inner => eval_settles hc body inner).step rfl
      fun _ => rfl
  | .choose test yes no, env => by
    simp only [eval]
    exact ((eval_settles hc test env).bind fun _ =>
      .ite (fun _ => eval_settles hc yes env) fun _ => eval_settles hc no env).step rfl fun _ => rfl
  | .and items, env => by
    simp only [eval]
    exact (evalAnd_settles hc items env).step rfl fun _ => rfl
  | .or items, env => by
    simp only [eval]
    exact (evalOr_settles hc items env).step rfl fun _ => rfl
  | .sequence items, env => by
    simp only [eval]
    exact (evalSequence_settles hc items env).step rfl fun _ => rfl
  | .fn _ _, _ => by
    simp only [eval]
    exact ((Settles.lift _).bind fun _ => .pure _).step rfl fun _ => rfl
  -- the one case that needs the assumption on calls
  | .call callee args, env => by
    simp only [eval]
    exact ((eval_settles hc callee env).bind fun f =>
      (evalAll_settles hc args env).bind fun vs => hc f vs).step rfl fun _ => rfl
  | .rowTest _ _ none, _ => by
    simp only [eval]
    exact ((Settles.lift _).bind fun _ => .pure _).step rfl fun _ => rfl
  | .rowTest _ _ (some operand), env => by
    simp only [eval]
    exact ((eval_settles hc operand env).bind fun _ =>
      (Settles.lift _).bind fun _ => .pure _).step rfl fun _ => rfl
  | .combine _ tests, env => by
    simp only [eval]
    exact ((evalTests_settles hc tests env).bind fun _ =>
      (Settles.lift _).bind fun _ => .pure _).step rfl fun _ => rfl
  | .toolCall _ args, env => by
    simp only [eval]
    exact ((eval_settles hc args env).bind fun _ => .lift _).step rfl fun _ => rfl
  | .ret value, env => by
    simp only [eval]
    exact ((eval_settles hc value env).bind fun _ => .lift _).step rfl fun _ => rfl
  | .fail value, env => by
    simp only [eval]
    exact ((eval_settles hc value env).bind fun _ => .lift _).step rfl fun _ => rfl
  | .loop bs body, env => by
    simp only [eval]
    exact ((bindAll_settles hc bs env).bind fun inner =>
      loopFuel_settles (fun turn => eval_settles hc body turn)
        (fun vs => rebindAll_settles hc bs vs env) _ 0 (by omega) inner).step rfl fun _ => rfl
  | .recur args, env => by
    simp only [eval]
    exact ((evalAll_settles hc args env).bind fun _ => .lift _).step rfl fun _ => rfl
  | .define name value, env => by
    simp only [eval]
    exact (Settles.ite (fun _ => .lift _) fun _ => (eval_settles hc value env).bind fun _ =>
      (Settles.lift _).bind fun _ => .pure _).step rfl fun _ => rfl

/-- By induction on the expressions. -/
theorem evalAll_settles (hc : CallsSettle h call depth) :
    ∀ (es : List Expr) (env : Env),
      Settles (fun fuel => evalAllFuel h fuel depth es env) (evalAll h call es env)
  | [], _ => by simp only [evalAll]; exact (Settles.pure _).step rfl fun _ => rfl
  | e :: rest, env => by
    simp only [evalAll]
    exact ((eval_settles hc e env).bind fun _ =>
      (evalAll_settles hc rest env).bind fun _ => .pure _).step rfl fun _ => rfl

theorem evalEntries_settles (hc : CallsSettle h call depth) :
    ∀ (es : List (Expr × Expr)) (env : Env),
      Settles (fun fuel => evalEntriesFuel h fuel depth es env) (evalEntries h call es env)
  | [], _ => by simp only [evalEntries]; exact (Settles.pure _).step rfl fun _ => rfl
  | (k, v) :: rest, env => by
    simp only [evalEntries]
    exact ((eval_settles hc k env).bind fun _ => (eval_settles hc v env).bind fun _ =>
      (evalEntries_settles hc rest env).bind fun _ => .pure _).step rfl fun _ => rfl

theorem evalAnd_settles (hc : CallsSettle h call depth) :
    ∀ (es : List Expr) (env : Env),
      Settles (fun fuel => evalAndFuel h fuel depth es env) (evalAnd h call es env)
  | [], _ => by simp only [evalAnd]; exact (Settles.pure _).step rfl fun _ => rfl
  | [e], env => by simp only [evalAnd]; exact (eval_settles hc e env).step rfl fun _ => rfl
  | e :: f :: rest, env => by
    simp only [evalAnd]
    exact ((eval_settles hc e env).bind fun _ =>
      .ite (fun _ => evalAnd_settles hc (f :: rest) env) fun _ => .pure _).step rfl fun _ => rfl

theorem evalOr_settles (hc : CallsSettle h call depth) :
    ∀ (es : List Expr) (env : Env),
      Settles (fun fuel => evalOrFuel h fuel depth es env) (evalOr h call es env)
  | [], _ => by simp only [evalOr]; exact (Settles.pure _).step rfl fun _ => rfl
  | [e], env => by simp only [evalOr]; exact (eval_settles hc e env).step rfl fun _ => rfl
  | e :: f :: rest, env => by
    simp only [evalOr]
    exact ((eval_settles hc e env).bind fun _ =>
      .ite (fun _ => .pure _) fun _ => evalOr_settles hc (f :: rest) env).step rfl fun _ => rfl

theorem evalSequence_settles (hc : CallsSettle h call depth) :
    ∀ (es : List Expr) (env : Env),
      Settles (fun fuel => evalSequenceFuel h fuel depth es env) (evalSequence h call es env)
  | [], _ => by simp only [evalSequence]; exact (Settles.pure _).step rfl fun _ => rfl
  | [e], env => by simp only [evalSequence]; exact (eval_settles hc e env).step rfl fun _ => rfl
  | e :: f :: rest, env => by
    simp only [evalSequence]
    exact ((eval_settles hc e env).bind fun _ =>
      evalSequence_settles hc (f :: rest) env).step rfl fun _ => rfl

theorem evalTests_settles (hc : CallsSettle h call depth) :
    ∀ (es : List Expr) (env : Env),
      Settles (fun fuel => evalTestsFuel h fuel depth es env) (evalTests h call es env)
  | [], _ => by simp only [evalTests]; exact (Settles.pure _).step rfl fun _ => rfl
  | e :: rest, env => by
    simp only [evalTests]
    exact ((eval_settles hc e env).bind fun _ =>
      .ite (fun _ => (evalTests_settles hc rest env).bind fun _ => .pure _) fun _ => .lift _).step rfl
        fun _ => rfl

/-- Each binding is made where the ones before it are seen. -/
theorem bindAll_settles (hc : CallsSettle h call depth) :
    ∀ (bs : List (Pattern × Expr)) (env : Env),
      Settles (fun fuel => bindAllFuel h fuel depth bs env) (bindAll h call bs env)
  | [], _ => by simp only [bindAll]; exact (Settles.pure _).step rfl fun _ => rfl
  | (p, e) :: rest, env => by
    simp only [bindAll]
    exact ((eval_settles hc e env).bind fun v => (bindPattern_settles hc p v env).bind fun env' =>
      bindAll_settles hc rest env').step rfl fun _ => rfl

theorem rebindAll_settles (hc : CallsSettle h call depth) :
    ∀ (bs : List (Pattern × Expr)) (vs : List Value) (env : Env),
      Settles (fun fuel => rebindAllFuel h fuel depth bs vs env) (rebindAll h call bs vs env)
  | [], _, _ => by simp only [rebindAll]; exact (Settles.pure _).step rfl fun _ => rfl
  | _ :: _, [], _ => by simp only [rebindAll]; exact (Settles.pure _).step rfl fun _ => rfl
  | (p, _) :: rest, v :: vs, env => by
    simp only [rebindAll]
    exact ((bindPattern_settles hc p v env).bind fun env' =>
      rebindAll_settles hc rest vs env').step rfl fun _ => rfl

/-- By induction on the pattern, with the defaults that it holds. -/
theorem bindPattern_settles (hc : CallsSettle h call depth) :
    ∀ (p : Pattern) (v : Value) (env : Env),
      Settles (fun fuel => bindPatternFuel h fuel depth p v env) (bindPattern h call p v env)
  | .name _, _, _ => by simp only [bindPattern]; exact (Settles.pure _).step rfl fun _ => rfl
  | .ignore, _, _ => by simp only [bindPattern]; exact (Settles.pure _).step rfl fun _ => rfl
  | .whole _ p, v, env => by
    simp only [bindPattern]
    exact ((bindPattern_settles hc p v env).bind fun _ => .pure _).step rfl fun _ => rfl
  | .map parts, v, env => by
    cases v with
    | map m =>
      simp only [bindPattern]
      exact (bindParts_settles hc parts m env).step rfl fun _ => rfl
    | _ => simp only [bindPattern]; exact (Settles.lift _).step rfl fun _ => rfl
  | .seq items none, v, env => by
    cases v with
    | vector vs =>
      simp only [bindPattern]
      exact (bindItems_settles hc items vs env).step rfl fun _ => rfl
    | _ => simp only [bindPattern]; exact (Settles.lift _).step rfl fun _ => rfl
  | .seq items (some rest), v, env => by
    cases v with
    | vector vs =>
      simp only [bindPattern]
      exact ((bindItems_settles hc items vs env).bind fun env' =>
        bindPattern_settles hc rest _ env').step rfl fun _ => rfl
    | _ => simp only [bindPattern]; exact (Settles.lift _).step rfl fun _ => rfl

theorem bindParts_settles (hc : CallsSettle h call depth) :
    ∀ (parts : List (Pattern × Literal × Option Expr)) (m : Entries) (env : Env),
      Settles (fun fuel => bindPartsFuel h fuel depth parts m env) (bindParts h call parts m env)
  | [], _, _ => by simp only [bindParts]; exact (Settles.pure _).step rfl fun _ => rfl
  | (p, key, default) :: rest, m, env => by
    have hrest (v : Value) := (bindPattern_settles hc p v env).bind fun env' =>
      bindParts_settles hc rest m env'
    cases default with
    | none =>
      simp only [bindParts]
      cases hf : Entries.find? m key.value with
      | some v => exact ((Settles.pure v).bind hrest).step rfl fun _ => by simp only [bindPartsFuel, hf]
      | none =>
        exact ((Settles.pure Value.nil).bind hrest).step rfl fun _ => by simp only [bindPartsFuel, hf]
    | some default =>
      simp only [bindParts]
      cases hf : Entries.find? m key.value with
      | some v => exact ((Settles.pure v).bind hrest).step rfl fun _ => by simp only [bindPartsFuel, hf]
      | none =>
        exact ((eval_settles hc default env).bind hrest).step rfl fun _ => by
          simp only [bindPartsFuel, hf]

theorem bindItems_settles (hc : CallsSettle h call depth) :
    ∀ (items : List Pattern) (vs : List Value) (env : Env),
      Settles (fun fuel => bindItemsFuel h fuel depth items vs env) (bindItems h call items vs env)
  | [], _, _ => by simp only [bindItems]; exact (Settles.pure _).step rfl fun _ => rfl
  | p :: rest, vs, env => by
    simp only [bindItems]
    exact ((bindPattern_settles hc p _ env).bind fun env' =>
      bindItems_settles hc rest vs.tail env').step rfl fun _ => rfl

end

/-! ## Calls -/

/-- The turns of what takes arguments, of which `turns` have been made, if it can be entered whenever its turns
from then on settle. By induction on the turns that are left. -/
theorem turns_settle {limit : Nat} {g : Nat → Nat → List Value → FuelM Value} {turn : Nat → Env → FuelM Value}
    {body : Env → EvalM Value} {rebind : List Value → EvalM Env}
    (henter : ∀ (turns : Nat) (x : Env → EvalM Value),
      (∀ inner, Settles (fun fuel => (turn fuel inner).orAgain fun vs =>
        if limit < turns + 1 then lift (EvalM.fail (.loopLimit limit)) else g fuel (turns + 1) vs) (x inner)) →
      ∀ args, Settles (fun fuel => g fuel turns args) (rebind args >>= x))
    (hturn : ∀ inner, Settles (fun fuel => turn fuel inner) (body inner)) :
    ∀ (n turns : Nat), turns + n = limit → ∀ args,
      Settles (fun fuel => g fuel turns args) (rebind args >>= iterate limit body rebind n) := by
  intro n
  induction n with
  | zero =>
    intro turns ht args
    refine henter turns _ (fun inner => ?_) args
    rw [iterate_zero]
    refine (hturn inner).orAgain fun vs => ?_
    simp only [if_pos (show limit < turns + 1 by omega)]
    exact .lift _
  | succ n ih =>
    intro turns ht args
    refine henter turns _ (fun inner => ?_) args
    rw [iterate_succ]
    refine (hturn inner).orAgain fun vs => ?_
    simp only [if_neg (show ¬ limit < turns + 1 by omega)]
    exact ih (turns + 1) (by omega) vs

variable (hc : CallsSettle h call depth)
include hc

/-- Entering a function, when its turns from then on settle. -/
theorem closureFuel_enter {params : List Pattern} {body : Expr} {outer : Env} (turns : Nat)
    (x : Env → EvalM Value)
    (hx : ∀ inner, Settles (fun fuel => (evalFuel h fuel depth body inner).orAgain fun vs =>
      if h.limits.loop < turns + 1 then lift (EvalM.fail (.loopLimit h.limits.loop))
      else closureFuel h fuel depth params body outer (turns + 1) vs) (x inner))
    (args : List Value) :
    Settles (fun fuel => closureFuel h fuel depth params body outer turns args)
      (enter h call params outer args >>= x) := by
  by_cases hl : args.length = params.length
  · rw [enter, if_pos hl]
    refine ((bindItems_settles hc params args outer).bind hx).step rfl fun fuel => ?_
    simp only [closureFuel, if_pos hl]
  · rw [enter, if_neg hl]
    refine (Settles.lift (EvalM.fail _)).step rfl fun fuel => ?_
    simp only [closureFuel, if_neg hl]

theorem allHoldFuel_settles (row : Value) (tests : List Value) :
    Settles (fun fuel => allHoldFuel h fuel depth row tests) (allHold call row tests) := by
  induction tests with
  | nil => exact (Settles.pure true).step rfl fun _ => rfl
  | cons f rest ih =>
    exact ((hc f [row]).bind fun _ => .ite (fun _ => ih) fun _ => .pure _).step rfl fun _ => rfl

theorem anyHoldsFuel_settles (row : Value) (tests : List Value) :
    Settles (fun fuel => anyHoldsFuel h fuel depth row tests) (anyHolds call row tests) := by
  induction tests with
  | nil => exact (Settles.pure false).step rfl fun _ => rfl
  | cons f rest ih =>
    exact ((hc f [row]).bind fun _ => .ite (fun _ => .pure _) fun _ => ih).step rfl fun _ => rfl

/-- A comparison needs no calls, and a combination calls its parts. -/
theorem evalRowFuel_settles (body : RowBody) (row : Value) :
    Settles (fun fuel => evalRowFuel h fuel depth body row) (evalRow call body row) := by
  cases body with
  | test path op operand => exact (Settles.pure _).step rfl fun _ => rfl
  | combined c tests =>
    cases c with
    | allOf => exact ((allHoldFuel_settles hc row tests).bind fun _ => .pure _).step rfl fun _ => rfl
    | anyOf => exact ((anyHoldsFuel_settles hc row tests).bind fun _ => .pure _).step rfl fun _ => rfl
    | noneOf => exact ((anyHoldsFuel_settles hc row tests).bind fun _ => .pure _).step rfl fun _ => rfl

/-- A predicate on rows. Binding its row needs no fuel. -/
theorem rowFuel_settles (body : RowBody) (args : List Value) :
    Settles (fun fuel => rowFuel h fuel depth body 0 args) (callRow h call body args) := by
  rw [callRow_eq]
  refine turns_settle (g := fun fuel => rowFuel h fuel depth body) (fun turns x hx args => ?_)
    (fun inner => evalRowFuel_settles hc body (rowOf inner)) _ 0 (by omega) args
  exact ((Settles.lift (enterRow args)).bind hx).step rfl fun _ => rfl

/-- The calls of a builtin function. By induction on the tree of its calls. -/
theorem actionFuel_settles (a : Action Value) :
    Settles (fun fuel => actionFuel h fuel depth a) (a.run call) := by
  induction a with
  | done v => exact (Settles.pure v).step rfl fun _ => rfl
  | fail e => exact (Settles.lift (EvalM.fail e)).step rfl fun _ => rfl
  | call f args next ih =>
    rw [Action.run_call]
    exact ((hc f args).bind ih).step rfl fun _ => rfl

/-- One case per kind of value that can be called. -/
theorem dispatchFuel_settles (f : Value) (args : List Value) :
    Settles (fun fuel => dispatchFuel h fuel depth f args) (dispatch h call f args) := by
  cases f with
  | keyword name => exact (Settles.lift _).step rfl fun _ => rfl
  | closure stamp params body env =>
    refine (turns_settle (g := fun fuel => closureFuel h fuel depth params body env) ?_ (eval_settles hc body) _ 0
      (by omega) args).step rfl fun _ => rfl
    exact closureFuel_enter hc
  | rowTest stamp path op operand => exact (rowFuel_settles hc _ args).step rfl fun _ => rfl
  | combined stamp c tests => exact (rowFuel_settles hc _ args).step rfl fun _ => rfl
  | builtin f => exact (actionFuel_settles hc (f.act args)).step rfl fun _ => rfl
  | tool name => exact (Settles.lift _).step rfl fun _ => rfl
  | _ => exact (Settles.lift (EvalM.fail _)).step rfl fun _ => rfl

end

/-- A call at a depth. By induction on the calls that may still be nested; the depth grows by one with
each of them. -/
theorem callFuel_settles (h : Host) :
    ∀ (n depth : Nat), h.limits.recursion - depth = n → ∀ f args,
      Settles (fun fuel => callFuel h fuel depth f args) (callAt h n f args) := by
  intro n
  induction n with
  | zero =>
    intro depth hd f args
    refine (Settles.lift (EvalM.fail _)).step rfl fun fuel => ?_
    simp only [callFuel, if_pos (show h.limits.recursion ≤ depth by omega)]
  | succ n ih =>
    intro depth hd f args
    refine (dispatchFuel_settles (ih (depth + 1) (by omega)) f args).step rfl fun fuel => ?_
    simp only [callFuel, if_neg (show ¬ h.limits.recursion ≤ depth by omega)]

/-- Every evaluation ends. For every host with its limits, every depth of calls, every expression, all
bindings and every state there is an amount of fuel below which evaluation runs out of it and from which
on evaluation has one outcome: that of `eval` when as many calls may still be nested as the limit leaves
at this depth. -/
theorem evaluation_ends (h : Host) (depth : Nat) (e : Expr) (env : Env) (s : RunState) :
    ∃ k, ∀ fuel, evalFuel h fuel depth e env s =
      if fuel < k then none
      else some (eval h (callAt h (h.limits.recursion - depth)) e env s) :=
  eval_settles (callFuel_settles h _ depth rfl) e env s

end ToolLisp
