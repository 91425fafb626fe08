import ToolLisp.Proofs.PatternInstructions

/-!
# Destructuring

Binding a pattern performs its instructions (`bindPattern_eq_ok_iff`). A pattern without defaults has no effects,
and it fails only if a part does not have the shape that the pattern demands (`bindPattern_settles_of_defaults`).
Both are shown by induction on the pattern. So what binding a pattern comes to can be read off its instructions
(`destructuring_follows_pattern`).
-/

namespace ToolLisp

open EvalM
open Pattern (Path PathStep Supply)

/-! ## Computations and shapes -/

/-- A computation in sequence gives a result if both parts do. -/
theorem EvalM.bind_eq_ok_iff {α β : Type} {x : EvalM α} {f : α → EvalM β} {s s' : RunState} {b : β} :
    (x >>= f) s = (.ok b, s') ↔ ∃ a s₁, x s = (.ok a, s₁) ∧ f a s₁ = (.ok b, s') := by
  rw [bind_apply]
  constructor
  · intro hrun
    rcases hx : x s with ⟨e | a, s₁⟩
    · rw [hx] at hrun
      cases hrun
    · rw [hx] at hrun
      exact ⟨a, s₁, rfl, hrun⟩
  · rintro ⟨a, s₁, hx, hrun⟩
    rw [hx]
    exact hrun

theorem EvalM.pure_eq_ok_iff {α : Type} {a b : α} {s s' : RunState} :
    (pure a : EvalM α) s = (.ok b, s') ↔ b = a ∧ s' = s := by
  refine ⟨fun hpure => ?_, fun hpure => by rw [hpure.1, hpure.2]; rfl⟩
  obtain ⟨hb, hs⟩ := Prod.mk.inj hpure
  exact ⟨(Except.ok.inj hb).symm, hs.symm⟩

theorem headD_drop (vs : List Value) (i : Nat) : (vs.drop i).headD .nil = vs[i]?.getD .nil := by
  rw [List.headD_eq_head?_getD, List.head?_drop]

theorem Value.hasShape_map_iff {v : Value} : v.hasShape .map = true ↔ ∃ m, v = .map m := by
  cases v <;> simp [hasShape]

theorem Value.hasShape_list_iff {v : Value} : v.hasShape .list = true ↔ ∃ items, v = .vector items := by
  cases v <;> simp [hasShape]

section

open Pattern

variable (h : Host) (call : Value → List Value → EvalM Value)

/-- What is not a map has no entries to bind. -/
theorem bindPattern_map_of_hasShape {parts : List (Pattern × Literal × Option Expr)} {v : Value}
    (hshape : v.hasShape .map = false) (env : Env) :
    bindPattern h call (.map parts) v env = fail (.destructure "map" v) := by
  cases v with
  | map m => cases hshape
  | _ => simp only [bindPattern]

/-- What is not a vector has no items to bind. -/
theorem bindPattern_seq_of_hasShape {items : List Pattern} {rest : Option Pattern} {v : Value}
    (hshape : v.hasShape .list = false) (env : Env) :
    bindPattern h call (.seq items rest) v env = fail (.destructure "list" v) := by
  cases v with
  | vector vs => cases hshape
  | _ => cases rest <;> simp only [bindPattern]

variable {h call}

/-- A demand that is met does nothing. -/
theorem Pattern.exists_performs_demand {v : Value} {shape : Shape} {L : List Instruction} {env inner : Env}
    {s s' : RunState} (hshape : v.hasShape shape = true) :
    (∃ supply, Performs h call supply v (.demand shape [] :: L) env s inner s') ↔
      ∃ supply, Performs h call supply v L env s inner s' :=
  exists_congr fun _ => and_iff_right hshape

/-- With a demand that is not met nothing is performed, and a computation that fails agrees. -/
theorem Pattern.fail_eq_ok_iff {v : Value} {shape : Shape} {L : List Instruction} {env inner : Env}
    {s s' : RunState} {error : EvalError} (hshape : v.hasShape shape = false) :
    (fail error : EvalM Env) s = (.ok inner, s') ↔
      ∃ supply, Performs h call supply v (.demand shape [] :: L) env s inner s' := by
  refine iff_of_false (fun hfail => by cases hfail) ?_
  rintro ⟨supply, hmet, -⟩
  exact Bool.false_ne_true (hshape.symm.trans hmet)

/-- A part that is not supplied from outside. -/
theorem Pattern.exists_performs_under_iff {v w : Value} {step : PathStep} {L : List Instruction}
    {env inner : Env} {s s' : RunState} (hstep : ∀ supplied, v.partAfter supplied step = w) :
    (∃ supply, Performs h call supply v (L.map (.under step)) env s inner s') ↔
      ∃ supply, Performs h call supply w L env s inner s' := by
  constructor
  · rintro ⟨supply, hperforms⟩
    rw [← hstep (supply [step])]
    exact ⟨_, performs_under.1 hperforms⟩
  · intro hperforms
    rw [← hstep none] at hperforms
    obtain ⟨supply, -, hperforms⟩ := (exists_performs_under none).2 hperforms
    exact ⟨supply, hperforms⟩

section

variable {m : Entries} {key : Literal} {e : Expr} {i : Nat} {L : List Instruction} {env inner : Env}
  {s s' : RunState}

/-- A default is not evaluated if its key is there, whatever the value at the key is. -/
theorem Pattern.exists_performs_default_of_some {w : Value} (hfind : Entries.find? m key.value = some w) :
    (∃ supply, Performs h call supply (.map m) (.default [] i key e :: L.map (.under (.entryOr i key))) env s
        inner s') ↔
      ∃ supply, Performs h call supply w L env s inner s' := by
  have hpart (supplied : Option Value) : (Value.map m).partAfter supplied (.entryOr i key) = w := by
    rw [Value.partAfter, hfind]
    rfl
  have hlacks : (Value.map m).lacks key = false := by rw [Value.lacks, hfind]; rfl
  simp only [Performs, Value.component, hlacks, Bool.false_eq_true, if_false, exists_performs_under_iff hpart]

/-- A default is evaluated if its key is missing, and its value is the part. -/
theorem Pattern.exists_performs_default_of_none (hfind : Entries.find? m key.value = none) :
    (∃ supply, Performs h call supply (.map m) (.default [] i key e :: L.map (.under (.entryOr i key))) env s
        inner s') ↔
      ∃ w s₁, eval h call e env s = (.ok w, s₁) ∧ ∃ supply, Performs h call supply w L env s₁ inner s' := by
  have hpart (w : Value) : (Value.map m).partAfter (some w) (.entryOr i key) = w := by
    rw [Value.partAfter, hfind]
    rfl
  have hlacks : (Value.map m).lacks key = true := by rw [Value.lacks, hfind]; rfl
  simp only [Performs, Value.component, hlacks, if_true, List.nil_append]
  constructor
  · rintro ⟨supply, w, s₁, heval, hw, hperforms⟩
    have hpart := hpart w
    have hperforms := performs_under.1 hperforms
    rw [hw, hpart] at hperforms
    exact ⟨w, s₁, heval, _, hperforms⟩
  · rintro ⟨w, s₁, heval, hperforms⟩
    rw [← hpart w, ← exists_performs_under] at hperforms
    obtain ⟨supply, hw, hperforms⟩ := hperforms
    exact ⟨supply, w, s₁, heval, hw, hperforms⟩

end

variable (h call)

/-! ## Patterns with defaults -/

mutual

/-- Binding a pattern performs its instructions. -/
theorem bindPattern_eq_ok_iff : ∀ (p : Pattern) (v : Value) (env : Env) (s : RunState) (inner : Env)
    (s' : RunState), bindPattern h call p v env s = (.ok inner, s') ↔
      ∃ supply, Performs h call supply v p.instructions env s inner s'
  | .name x, v, env, s, inner, s' => by
    rw [bindPattern, instructions, pure_eq_ok_iff]
    exact (exists_const Supply).symm
  | .ignore, v, env, s, inner, s' => by
    rw [bindPattern, instructions, pure_eq_ok_iff]
    exact (exists_const Supply).symm
  | .whole x p, v, env, s, inner, s' => by
    rw [bindPattern, instructions, bind_eq_ok_iff]
    simp only [performs_append, pure_eq_ok_iff, bindPattern_eq_ok_iff p]
    constructor
    · rintro ⟨mid, s₁, ⟨supply, hperforms⟩, hbind⟩
      exact ⟨supply, mid, s₁, hperforms, hbind⟩
    · rintro ⟨supply, mid, s₁, hperforms, hbind⟩
      exact ⟨mid, s₁, ⟨supply, hperforms⟩, hbind⟩
  | .map parts, v, env, s, inner, s' => by
    rw [instructions]
    cases hshape : v.hasShape .map with
    | false =>
      rw [bindPattern_map_of_hasShape h call hshape]
      exact fail_eq_ok_iff hshape
    | true =>
      rw [exists_performs_demand hshape]
      obtain ⟨m, rfl⟩ := Value.hasShape_map_iff.1 hshape
      rw [bindPattern]
      exact bindParts_eq_ok_iff parts 0 m env s inner s'
  | .seq items none, v, env, s, inner, s' => by
    rw [instructions]
    cases hshape : v.hasShape .list with
    | false =>
      rw [bindPattern_seq_of_hasShape h call hshape]
      exact fail_eq_ok_iff hshape
    | true =>
      rw [exists_performs_demand hshape]
      obtain ⟨vs, rfl⟩ := Value.hasShape_list_iff.1 hshape
      rw [bindPattern]
      exact bindItems_eq_ok_iff items 0 vs env s inner s'
  | .seq items (some rest), v, env, s, inner, s' => by
    rw [instructions]
    cases hshape : v.hasShape .list with
    | false =>
      rw [bindPattern_seq_of_hasShape h call hshape]
      exact fail_eq_ok_iff hshape
    | true =>
      rw [exists_performs_demand hshape]
      obtain ⟨vs, rfl⟩ := Value.hasShape_list_iff.1 hshape
      have hbefore : ∀ x ∈ instructionsOfItems 0 items, x.Begins (· < items.length) :=
        fun x hx => (begins_items items 0 x hx).imp fun j hj => by omega
      have hafter : ∀ x ∈ rest.instructions.map (Instruction.under (.rest items.length)),
          x.Begins fun j => ¬ j < items.length := begins_under (Nat.lt_irrefl _)
      have hitems := bindItems_eq_ok_iff items 0 vs env s
      rw [List.drop_zero] at hitems
      rw [bindPattern, bind_eq_ok_iff, exists_performs_append hbefore hafter]
      have hrest (supplied : Option Value) : (Value.vector vs).partAfter supplied (.rest items.length) =
          if (vs.drop items.length).isEmpty then .nil else .vector (vs.drop items.length) := rfl
      simp only [hitems, bindPattern_eq_ok_iff rest, exists_performs_under_iff hrest]

theorem bindParts_eq_ok_iff : ∀ (parts : List (Pattern × Literal × Option Expr)) (i : Nat) (m : Entries)
    (env : Env) (s : RunState) (inner : Env) (s' : RunState),
      bindParts h call parts m env s = (.ok inner, s') ↔
        ∃ supply, Performs h call supply (.map m) (instructionsOfParts i parts) env s inner s'
  | [], i, m, env, s, inner, s' => by
    rw [bindParts, instructionsOfParts, pure_eq_ok_iff]
    exact (exists_const Supply).symm
  | (p, key, none) :: rest, i, m, env, s, inner, s' => by
    -- the instructions of this entry begin at `i` and those of the rest further on, so the supplies of both make
    -- one supply
    have hbefore : ∀ x ∈ p.instructions.map (Instruction.under (.entry i key)), x.Begins (· = i) :=
      begins_under (P := (· = i)) rfl
    have hentry (supplied : Option Value) : (Value.map m).partAfter supplied (.entry i key) =
        (Entries.find? m key.value).getD .nil := rfl
    rw [bindParts, bind_eq_ok_iff, instructionsOfParts, exists_performs_append hbefore (begins_later rest i)]
    simp only [bindPattern_eq_ok_iff p, bindParts_eq_ok_iff rest (i + 1), exists_performs_under_iff hentry]
  | (p, key, some e) :: rest, i, m, env, s, inner, s' => by
    have hbefore : ∀ x ∈ Instruction.default [] i key e ::
        p.instructions.map (Instruction.under (.entryOr i key)), x.Begins (· = i) :=
      List.forall_mem_cons.2 ⟨⟨_, [], rfl, rfl⟩, begins_under (P := (· = i)) rfl⟩
    rw [bindParts, instructionsOfParts, exists_performs_append hbefore (begins_later rest i)]
    cases hfind : Entries.find? m key.value with
    | some w =>
      simp only [bind_eq_ok_iff, pure_eq_ok_iff, bindPattern_eq_ok_iff p, bindParts_eq_ok_iff rest (i + 1),
        exists_performs_default_of_some hfind]
      constructor
      · rintro ⟨_, _, ⟨rfl, rfl⟩, hparts⟩
        exact hparts
      · intro hparts
        exact ⟨w, s, ⟨rfl, rfl⟩, hparts⟩
    | none =>
      simp only [bind_eq_ok_iff, bindPattern_eq_ok_iff p, bindParts_eq_ok_iff rest (i + 1),
        exists_performs_default_of_none hfind]
      constructor
      · rintro ⟨w, s₂, heval, mid, s₁, hpart, hrest⟩
        exact ⟨mid, s₁, ⟨w, s₂, heval, hpart⟩, hrest⟩
      · rintro ⟨mid, s₁, ⟨w, s₂, heval, hpart⟩, hrest⟩
        exact ⟨w, s₂, heval, mid, s₁, hpart, hrest⟩

theorem bindItems_eq_ok_iff : ∀ (items : List Pattern) (i : Nat) (vs : List Value) (env : Env) (s : RunState)
    (inner : Env) (s' : RunState), bindItems h call items (vs.drop i) env s = (.ok inner, s') ↔
      ∃ supply, Performs h call supply (.vector vs) (instructionsOfItems i items) env s inner s'
  | [], i, vs, env, s, inner, s' => by
    rw [bindItems, instructionsOfItems, pure_eq_ok_iff]
    exact (exists_const Supply).symm
  | p :: rest, i, vs, env, s, inner, s' => by
    have hbefore : ∀ x ∈ p.instructions.map (Instruction.under (.item i)), x.Begins (· = i) :=
      begins_under (P := (· = i)) rfl
    have hafter : ∀ x ∈ instructionsOfItems (i + 1) rest, x.Begins fun j => ¬ j = i :=
      fun x hx => (begins_items rest (i + 1) x hx).imp fun j hj => by omega
    have hitem (supplied : Option Value) :
        (Value.vector vs).partAfter supplied (.item i) = vs[i]?.getD .nil := rfl
    rw [bindItems, bind_eq_ok_iff, instructionsOfItems, exists_performs_append hbefore hafter, List.tail_drop,
      headD_drop]
    simp only [bindPattern_eq_ok_iff p, bindItems_eq_ok_iff rest (i + 1), exists_performs_under_iff hitem]

end

/-! ## Patterns without defaults -/

/-- A computation performs instructions without effects, or it fails because a demand is not met. -/
def Pattern.Settles (supply : Supply) (v : Value) (L : List Instruction) (env : Env) (x : EvalM Env) : Prop :=
  ∀ s, (∃ inner, x s = (.ok inner, s) ∧ Performs h call supply v L env s inner s) ∨
    ∃ shape path, .demand shape path ∈ L ∧ (v.component supply path).hasShape shape = false ∧
      x s = (.error (.error (.destructure shape.text (v.component supply path))), s)

namespace Pattern.Settles

variable {h call} {supply : Supply} {v : Value} {env : Env}

/-- Instructions are performed one after the other. -/
theorem append {first second : List Instruction} {x : EvalM Env} {f : Env → EvalM Env}
    (hx : Settles h call supply v first env x) (hf : ∀ mid, Settles h call supply v second mid (f mid)) :
    Settles h call supply v (first ++ second) env (x >>= f) := by
  intro s
  rw [bind_apply]
  rcases hx s with ⟨mid, hok, hfirst⟩ | ⟨shape, path, hmem, hshape, herror⟩
  · rw [hok]
    rcases hf mid s with ⟨inner, hok', hsecond⟩ | ⟨shape, path, hmem, hshape, herror⟩
    · exact .inl ⟨inner, hok', performs_append.2 ⟨mid, s, hfirst, hsecond⟩⟩
    · exact .inr ⟨shape, path, List.mem_append_right _ hmem, hshape, herror⟩
  · rw [herror]
    exact .inr ⟨shape, path, List.mem_append_left _ hmem, hshape, rfl⟩

/-- Instructions for a part of a value are performed on the part. -/
theorem under {step : PathStep} {L : List Instruction} {x : EvalM Env}
    (hx : Settles h call (supply.below step) (v.partAfter (supply [step]) step) L env x) :
    Settles h call supply v (L.map (.under step)) env x := by
  intro s
  rcases hx s with ⟨inner, hok, hperforms⟩ | ⟨shape, path, hmem, hshape, herror⟩
  · exact .inl ⟨inner, hok, performs_under.2 hperforms⟩
  · exact .inr ⟨shape, step :: path, List.mem_map_of_mem hmem, hshape, herror⟩

theorem met {shape : Shape} {L : List Instruction} {x : EvalM Env} (hshape : v.hasShape shape = true)
    (hx : Settles h call supply v L env x) : Settles h call supply v (.demand shape [] :: L) env x := by
  intro s
  rcases hx s with ⟨inner, hok, hperforms⟩ | ⟨shape', path, hmem, hunmet, herror⟩
  · exact .inl ⟨inner, hok, hshape, hperforms⟩
  · exact .inr ⟨shape', path, List.mem_cons_of_mem _ hmem, hunmet, herror⟩

/-- A value of another shape is refused, and nothing is bound. -/
theorem unmet {shape : Shape} {L : List Instruction} (hshape : v.hasShape shape = false) :
    Settles h call supply v (.demand shape [] :: L) env (fail (.destructure shape.text v)) :=
  fun _ => .inr ⟨shape, [], List.mem_cons_self, hshape, rfl⟩

theorem nil : Settles h call supply v [] env (pure env) :=
  fun _ => .inl ⟨env, rfl, rfl, rfl⟩

theorem bind {x : String} : Settles h call supply v [.bind x []] env (pure (Env.bind env x v)) :=
  fun _ => .inl ⟨_, rfl, rfl, rfl⟩

end Pattern.Settles

mutual

/-- Binding a pattern without defaults has no effects and fails only if a demand is not met. -/
theorem bindPattern_settles_of_defaults : ∀ (p : Pattern), p.defaults = [] → ∀ (supply : Supply) (v : Value)
    (env : Env), Settles h call supply v p.instructions env (bindPattern h call p v env)
  | .name x, _, supply, v, env => by
    rw [bindPattern, instructions]
    exact .bind
  | .ignore, _, supply, v, env => by
    rw [bindPattern, instructions]
    exact .nil
  | .whole x p, hp, supply, v, env => by
    rw [defaults] at hp
    rw [bindPattern, instructions]
    exact (bindPattern_settles_of_defaults p hp supply v env).append fun _ => .bind
  | .map parts, hp, supply, v, env => by
    rw [defaults] at hp
    rw [instructions]
    cases hshape : v.hasShape .map with
    | false =>
      rw [bindPattern_map_of_hasShape h call hshape]
      exact .unmet hshape
    | true =>
      obtain ⟨m, rfl⟩ := Value.hasShape_map_iff.1 hshape
      rw [bindPattern]
      exact (bindParts_settles_of_defaults parts hp 0 supply m env).met rfl
  | .seq items none, hp, supply, v, env => by
    rw [defaults] at hp
    rw [instructions]
    cases hshape : v.hasShape .list with
    | false =>
      rw [bindPattern_seq_of_hasShape h call hshape]
      exact .unmet hshape
    | true =>
      obtain ⟨vs, rfl⟩ := Value.hasShape_list_iff.1 hshape
      rw [bindPattern]
      exact (bindItems_settles_of_defaults items hp 0 supply vs env).met rfl
  | .seq items (some rest), hp, supply, v, env => by
    rw [defaults, List.append_eq_nil_iff] at hp
    rw [instructions]
    cases hshape : v.hasShape .list with
    | false =>
      rw [bindPattern_seq_of_hasShape h call hshape]
      exact .unmet hshape
    | true =>
      obtain ⟨vs, rfl⟩ := Value.hasShape_list_iff.1 hshape
      rw [bindPattern]
      have hitems := bindItems_settles_of_defaults items hp.1 0 supply vs env
      exact .met rfl (hitems.append fun mid => .under (bindPattern_settles_of_defaults rest hp.2 _ _ mid))

theorem bindParts_settles_of_defaults : ∀ (parts : List (Pattern × Literal × Option Expr)),
    defaultsOfParts parts = [] → ∀ (i : Nat) (supply : Supply) (m : Entries) (env : Env),
      Settles h call supply (.map m) (instructionsOfParts i parts) env (bindParts h call parts m env)
  | [], _, i, supply, m, env => by
    rw [bindParts, instructionsOfParts]
    exact .nil
  | (p, key, none) :: rest, hp, i, supply, m, env => by
    rw [defaultsOfParts, List.append_eq_nil_iff] at hp
    rw [bindParts, instructionsOfParts]
    have hpart : Settles h call supply (.map m) (p.instructions.map (.under (.entry i key))) env _ :=
      .under (bindPattern_settles_of_defaults p hp.1 _ _ env)
    exact hpart.append fun mid => bindParts_settles_of_defaults rest hp.2 (i + 1) supply m mid
  | (p, key, some e) :: rest, hp, i, supply, m, env => by
    rw [defaultsOfParts] at hp
    cases hp

theorem bindItems_settles_of_defaults : ∀ (items : List Pattern), defaultsOfAll items = [] → ∀ (i : Nat)
    (supply : Supply) (vs : List Value) (env : Env),
      Settles h call supply (.vector vs) (instructionsOfItems i items) env (bindItems h call items (vs.drop i) env)
  | [], _, i, supply, vs, env => by
    rw [bindItems, instructionsOfItems]
    exact .nil
  | p :: rest, hp, i, supply, vs, env => by
    rw [defaultsOfAll, List.append_eq_nil_iff] at hp
    rw [bindItems, instructionsOfItems, List.tail_drop, headD_drop]
    have hpart : Settles h call supply (.vector vs) (p.instructions.map (.under (.item i))) env _ :=
      .under (bindPattern_settles_of_defaults p hp.1 _ _ env)
    exact hpart.append fun mid => bindItems_settles_of_defaults rest hp.2 (i + 1) supply vs mid

end

end

/-- Destructuring follows the pattern.

Without defaults, it succeeds if the value has the shape of the pattern, and otherwise it fails with a part that
does not have the shape which is demanded of it; it has no effects. If it succeeds, each name of the pattern is
bound to the part at the last place where it stands, and all other names are as before.

With defaults, the same is true of names and parts, where the value of a default is the part that it stands for.
Destructuring succeeds with the effects of evaluating, in turn, the defaults whose keys are missing, and no others;
each of them sees the bindings that were made before it. -/
theorem destructuring_follows_pattern (h : Host) (call : Value → List Value → EvalM Value) (p : Pattern)
    (v : Value) (env : Env) (s : RunState) :
    (p.defaults = [] →
      (p.Fits .empty v → ∃ inner, bindPattern h call p v env s = (.ok inner, s) ∧
        p.BoundIn .empty v env inner) ∧
      (¬ p.Fits .empty v → ∃ shape path, .demand shape path ∈ p.instructions ∧
        (v.component .empty path).hasShape shape = false ∧
        bindPattern h call p v env s =
          (.error (.error (.destructure shape.text (v.component .empty path))), s))) ∧
    (∀ inner s', bindPattern h call p v env s = (.ok inner, s') →
      ∃ supply, p.Fits supply v ∧ p.BoundIn supply v env inner ∧
        Pattern.EvaluatedInTurn h call supply (Pattern.missing supply v p.instructions env) s s') ∧
    ∀ supply s', p.Fits supply v →
      Pattern.EvaluatedInTurn h call supply (Pattern.missing supply v p.instructions env) s s' →
        ∃ inner, bindPattern h call p v env s = (.ok inner, s') ∧ p.BoundIn supply v env inner := by
  refine ⟨fun hdefaults => ?_, fun inner s' hrun => ?_, fun supply s' hfits hturn => ?_⟩
  · rcases bindPattern_settles_of_defaults h call p hdefaults .empty v env s with
      ⟨inner, hrun, hperforms⟩ | ⟨shape, path, hmem, hshape, herror⟩
    · obtain ⟨hfits, rfl, -⟩ := Pattern.performs_iff.1 hperforms
      exact ⟨fun _ => ⟨_, hrun, Pattern.boundIn_bindEach ..⟩, fun hnot => absurd hfits hnot⟩
    · refine ⟨fun hfits => ?_, fun _ => ⟨shape, path, hmem, hshape, herror⟩⟩
      rw [hfits shape path hmem] at hshape
      cases hshape
  · obtain ⟨supply, hperforms⟩ := (bindPattern_eq_ok_iff h call p v env s inner s').1 hrun
    obtain ⟨hfits, rfl, hturn⟩ := Pattern.performs_iff.1 hperforms
    exact ⟨supply, hfits, Pattern.boundIn_bindEach .., hturn⟩
  · have hperforms := Pattern.performs_iff.2 ⟨hfits, rfl, hturn⟩
    exact ⟨_, (bindPattern_eq_ok_iff h call p v env s _ s').2 ⟨supply, hperforms⟩, Pattern.boundIn_bindEach ..⟩

/-- The pattern `[a & b :as a]` on a vector; the pattern `[{b :k}]` on an empty vector, where `nil` has to be a map;
and a map pattern with two defaults, of which the first is not used, because its key is there with the value
`nil`. -/
theorem destructuring_follows_pattern_of_rows :
    ∃ (h : Host) (call : Value → List Value → EvalM Value) (s : RunState) (p q r : Pattern) (v : Value),
      p = .whole "a" (.seq [.name "a"] (some (.name "b"))) ∧
      q = .seq [.map [(.name "b", .keyword "k", none)]] none ∧
      r = .map [(.name "a", .keyword "a", some (.literal (.bool true))),
        (.name "b", .keyword "b", some (.var "a"))] ∧
      v = .vector [.bool true, .bool false] ∧
      (p.defaults = [] ∧ p.Fits .empty v ∧ ∃ inner, bindPattern h call p v [] s = (.ok inner, s) ∧
        inner = [("a", v), ("b", .vector [.bool false]), ("a", .bool true)] ∧ p.BoundIn .empty v [] inner) ∧
      (¬ q.Fits .empty (.vector []) ∧ ∃ shape path, .demand shape path ∈ q.instructions ∧
        bindPattern h call q (.vector []) [] s =
          (.error (.error (.destructure shape.text ((Value.vector []).component .empty path))), s)) ∧
      ∃ supply, r.Fits supply (.map [(.keyword "a", .nil)]) ∧
        Pattern.EvaluatedInTurn h call supply [([.entryOr 1 (.keyword "b")], .var "a", [("a", .nil)])] s s ∧
        ∃ inner, bindPattern h call r (.map [(.keyword "a", .nil)]) [] s = (.ok inner, s) ∧
          inner = [("b", .nil), ("a", .nil)] ∧ r.BoundIn supply (.map [(.keyword "a", .nil)]) [] inner := by
  let h : Host := .bare
  let s : RunState := .fresh
  let call : Value → List Value → EvalM Value := callAt h 0
  let p : Pattern := .whole "a" (.seq [.name "a"] (some (.name "b")))
  let q : Pattern := .seq [.map [(.name "b", .keyword "k", none)]] none
  let r : Pattern := .map [(.name "a", .keyword "a", some (.literal (.bool true))),
    (.name "b", .keyword "b", some (.var "a"))]
  let v : Value := .vector [.bool true, .bool false]
  have hp : p.Fits .empty v := by
    intro shape path hmem
    have hmem : Pattern.Instruction.demand shape path ∈ [Pattern.Instruction.demand .list [],
        .bind "a" [.item 0], .bind "b" [.rest 1], .bind "a" []] := hmem
    simp only [List.mem_cons, Pattern.Instruction.demand.injEq, reduceCtorEq, List.not_mem_nil, or_false] at hmem
    obtain ⟨rfl, rfl⟩ := hmem
    rfl
  have hq : ¬ q.Fits .empty (.vector []) := by
    intro hfits
    have hnil := hfits .map [.item 0] (List.mem_cons_of_mem _ List.mem_cons_self)
    cases hnil
  obtain ⟨inner, hrun, hbound⟩ := ((destructuring_follows_pattern h call p v [] s).1 rfl).1 hp
  obtain ⟨shape, path, hmem, -, herror⟩ := ((destructuring_follows_pattern h call q (.vector []) [] s).1 rfl).2 hq
  have hrows : bindPattern h call r (.map [(.keyword "a", .nil)]) [] s = (.ok [("b", .nil), ("a", .nil)], s) := rfl
  obtain ⟨supply, hfits, -, hturn⟩ := (destructuring_follows_pattern h call r _ [] s).2.1 _ _ hrows
  obtain ⟨inner', hrun', hbound'⟩ := (destructuring_follows_pattern h call r _ [] s).2.2 supply s hfits hturn
  refine ⟨h, call, s, p, q, r, v, rfl, rfl, rfl, rfl, ⟨rfl, hp, inner, hrun, ?_, hbound⟩,
    ⟨hq, shape, path, hmem, herror⟩, supply, hfits, hturn, inner', hrun', ?_, hbound'⟩
  · exact Except.ok.inj (Prod.mk.inj hrun).1.symm
  · exact Except.ok.inj (Prod.mk.inj (hrun'.symm.trans hrows)).1

end ToolLisp
