import ToolLisp.Proofs.SortedCollections

/-!
# The natural order

The natural order compares vectors item by item, stops at the first difference, and refuses values that it
does not know how to order. Where it is defined, it is the order of values, in which a map keeps its keys, and
it is defined for two values either way round or not at all (`naturalCompare_swap`).

So a sort in the natural order does the same as a sort in the order of values until it is refused
(`SortsNaturally.mergeSort_agrees`), and `min-by` and `max-by` compare keys in that order while they go through
the items (`LooksFor.extremeFrom_of_run`). The order of values is a total one only without NaN that has the sign
bit set; then the sort is the stable one, and the item that is kept is the first one with an extreme key
(`FirstInOrder.step`). The main statement is `natural_order_is_order_of_values`.
-/

namespace ToolLisp

open Sorting (IsStableSort PreorderOn)

/-! ## The natural order either way round -/

namespace Value

variable {name : String}

theorem naturalCompare_nil (a : Value) : a.naturalCompare name .nil = .ok (a.compare .nil) := by
  cases a <;> rfl

theorem naturalCompareAll_swap {as : List Value}
    (has : ∀ a ∈ as, ∀ b o, a.naturalCompare name b = .ok o → b.naturalCompare name a = .ok o.swap) :
    ∀ {bs : List Value} {o : Ordering},
      naturalCompareAll name as bs = .ok o → naturalCompareAll name bs as = .ok o.swap := by
  -- at the end of either list the lengths decide
  have hlengths (as bs : List Value) {o : Ordering} (h : Ord.compare as.length bs.length = o) :
      Ord.compare bs.length as.length = o.swap := by
    rw [← h]
    exact Std.OrientedCmp.eq_swap
  induction as with
  | nil =>
    intro bs o h
    have ho := hlengths [] bs (Except.ok.inj h)
    cases bs with
    | nil => exact congrArg Except.ok ho
    | cons b bs => exact congrArg Except.ok ho
  | cons a as ih =>
    obtain ⟨ha, has⟩ := List.forall_mem_cons.1 has
    intro bs o h
    cases bs with
    | nil => exact congrArg Except.ok (hlengths (a :: as) [] (Except.ok.inj h))
    | cons b bs =>
      rw [naturalCompareAll] at h ⊢
      cases hab : naturalCompare name a b with
      | error e =>
        rw [hab] at h
        cases h
      | ok o' =>
        rw [hab] at h
        rw [ha b o' hab]
        cases o' with
        | lt =>
          obtain rfl := Except.ok.inj h
          rfl
        | eq => exact ih has h
        | gt =>
          obtain rfl := Except.ok.inj h
          rfl

/-- The natural order of two values is defined either way round, and then the one is the opposite of the
other. -/
theorem naturalCompare_swap (a b : Value) (o : Ordering) (h : a.naturalCompare name b = .ok o) :
    b.naturalCompare name a = .ok o.swap := by
  have hparts : ∀ p ∈ a.parts, ∀ b o, p.naturalCompare name b = .ok o →
      b.naturalCompare name p = .ok o.swap :=
    fun p hp b o h => naturalCompare_swap p b o h
  -- what it is then, follows from the order of values
  suffices hdefined : ∃ o', b.naturalCompare name a = .ok o' by
    obtain ⟨o', h'⟩ := hdefined
    have ho := compare_of_naturalCompare a b o h
    have ho' := compare_of_naturalCompare b a o' h'
    rw [h', ← ho, ← ho']
    exact congrArg Except.ok Std.OrientedCmp.eq_swap
  cases a with
  | nil => exact ⟨_, naturalCompare_nil b⟩
  | vector as =>
    cases b with
    | nil => exact ⟨_, rfl⟩
    | vector bs => exact ⟨_, naturalCompareAll_swap hparts h⟩
    | _ => cases h
  | _ =>
    cases b with
    | nil => exact ⟨_, rfl⟩
    | _ => first | exact ⟨_, rfl⟩ | cases h
termination_by sizeOf a
decreasing_by exact sizeOf_lt_of_mem_parts hp

/-- Two values that cannot be ordered cannot be ordered the other way round. -/
theorem naturalCompare_error_swap {a b : Value} {e : EvalError} (h : a.naturalCompare name b = .error e) :
    ∃ e', b.naturalCompare name a = .error e' := by
  cases hba : b.naturalCompare name a with
  | error e' => exact ⟨e', rfl⟩
  | ok o =>
    rw [naturalCompare_swap b a o hba] at h
    cases h

end Value

/-! ## Sorting in the natural order -/

/-- The comparators that sort in the natural order or in its opposite, with the orders of values that these
are. -/
inductive SortsNaturally : Option Value → (Value → Value → Ordering) → Prop
  | natural : SortsNaturally none Value.compare
  | ascending : SortsNaturally (some (.keyword "asc")) Value.compare
  | descending : SortsNaturally (some (.keyword "desc")) fun a b => b.compare a

/-- An action makes no calls and comes to a result, of which `P` holds, unless it is refused. -/
def Action.Agrees {α : Type} (P : α → Prop) (x : Id α) (y : Action α) : Prop :=
  P x.run ∧ (y = .done x.run ∨ ∃ e, y = .fail e)

theorem agrees_relation : Sorting.Relation (m := Id) (n := Action) Action.Agrees where
  pure hb := ⟨hb, .inl rfl⟩
  bind hx hf := by
    obtain ⟨hb, hx⟩ := hx
    obtain ⟨hc, hf⟩ := hf _ hb
    refine ⟨hc, ?_⟩
    rcases hx with rfl | ⟨e, rfl⟩
    · exact hf
    · exact .inr ⟨e, rfl⟩
  mono hx hPQ := ⟨hPQ _ hx.1, hx.2⟩

namespace SortsNaturally

variable {comparator : Option Value} {o : Value → Value → Ordering} (h : SortsNaturally comparator o)
include h

theorem preorderOn : PreorderOn o Value.Regular := by
  cases h with
  | natural => exact Value.regular_preorderOn
  | ascending => exact Value.regular_preorderOn
  | descending => exact Value.regular_preorderOn.flip

/-- Sorting by keys without signed NaN gives the stable sort. -/
theorem inOrder_isStableSort {α : Type} (key : α → Value) {items : List α}
    (hregular : ∀ a ∈ items, (key a).Regular) :
    IsStableSort (fun a b => o (key a) (key b)) items
      (Sorting.inOrder (fun a b => o (key a) (key b)) items) :=
  Sorting.inOrder_isStableSort (h.preorderOn.comap key hregular)

/-- Comparing two values gives their order, unless it is refused. -/
theorem compareBy_agrees (name : String) (a b : Value) :
    Action.Agrees (fun _ => True) (pure (o a b)) (Sequence.compareBy name comparator a b) := by
  have hchecked (a b : Value) :
      Action.Agrees (fun _ => True) (pure (a.compare b)) (Action.ofChecked (a.naturalCompare name b)) := by
    refine ⟨trivial, ?_⟩
    cases hab : a.naturalCompare name b with
    | error e => exact .inr ⟨e, rfl⟩
    | ok o' =>
      rw [Value.compare_of_naturalCompare a b o' hab]
      exact .inl rfl
  cases h with
  | natural => exact hchecked a b
  | ascending => exact hchecked a b
  | descending => exact hchecked b a

/-- A sort does the same as in the order of values, unless a comparison is refused. -/
theorem mergeSort_agrees {α : Type} (name : String) (key : α → Value) (items : List α) :
    Sorting.mergeSort (fun a b => Sequence.compareBy name comparator (key a) (key b)) items =
        .done (Sorting.inOrder (fun a b => o (key a) (key b)) items) ∨
      ∃ e, Sorting.mergeSort (fun a b => Sequence.compareBy name comparator (key a) (key b)) items =
        .fail e := by
  have hsort : Action.Agrees (fun out => out.Perm items)
      (Sorting.mergeSort (fun a b => pure (o (key a) (key b))) items)
      (Sorting.mergeSort (fun a b => Sequence.compareBy name comparator (key a) (key b)) items) :=
    Sorting.mergeSort_related agrees_relation <|
      List.pairwise_of_forall fun l r => h.compareBy_agrees name (key r) (key l)
  exact hsort.2

end SortsNaturally

/-! ## What the functions on collections come to -/

theorem Value.eq_of_asCallable {name : String} {f f' : Value} (h : f.asCallable name = .ok f') : f = f' := by
  unfold Value.asCallable at h
  split at h
  · exact Except.ok.inj h
  · cases h

namespace Action

variable {α β : Type} {call : Value → List Value → EvalM Value} {s s' : RunState}

/-- The first of two actions in sequence succeeds, if both together do. -/
theorem exists_of_run_bind {x : Action α} {f : α → Action β} {b : β}
    (h : (x >>= f).run call s = (.ok b, s')) :
    ∃ a s₁, x.run call s = (.ok a, s₁) ∧ (f a).run call s₁ = (.ok b, s') := by
  rw [run_bind, EvalM.bind_apply] at h
  rcases hx : x.run call s with ⟨e | a, s₁⟩
  · rw [hx] at h
    cases h
  · rw [hx] at h
    exact ⟨a, s₁, rfl, h⟩

theorem exists_of_run_checked_bind {x : Checked α} {f : α → Action β} {b : β}
    (h : (ofChecked x >>= f).run call s = (.ok b, s')) :
    ∃ a, x = .ok a ∧ (f a).run call s = (.ok b, s') := by
  cases x with
  | error e => cases h
  | ok a => exact ⟨a, rfl, h⟩

/-- The results of a function on several items come from calls in turn. -/
theorem callsInTurn_of_results {f : Value} {items keys : List Value}
    (h : (results f items).run call s = (.ok keys, s')) : CallsInTurn call f s items keys s' := by
  -- the keys are collected in reverse
  have hcollect : ∀ (done : List Value) (s : RunState),
      (collect f done (items.map ([·]))).run call s = (.ok keys, s') →
        ∃ new, keys = done.reverse ++ new ∧ CallsInTurn call f s items new s' := by
    clear h
    induction items with
    | nil =>
      intro done s h
      obtain ⟨hkeys, rfl⟩ := Prod.mk.inj h
      refine ⟨[], ?_, .nil⟩
      rw [List.append_nil]
      exact (Except.ok.inj hkeys).symm
    | cons x items ih =>
      intro done s h
      rw [List.map_cons, collect, run_call, EvalM.bind_apply] at h
      rcases hx : call f [x] s with ⟨e | key, s₁⟩
      · rw [hx] at h
        cases h
      · rw [hx] at h
        obtain ⟨new, hkeys, hturn⟩ := ih (key :: done) s₁ h
        refine ⟨key :: new, ?_, .cons hx hturn⟩
        rw [hkeys, List.reverse_cons, List.append_assoc]
        rfl
  obtain ⟨new, hkeys, hturn⟩ := hcollect [] s h
  rw [List.reverse_nil, List.nil_append] at hkeys
  rwa [hkeys]

end Action

namespace SortsNaturally

variable {comparator : Option Value} {o : Value → Value → Ordering} (h : SortsNaturally comparator o)
include h

/-- What a sort comes to that is not refused. -/
theorem eq_inOrder_of_run {α : Type} (key : α → Value) {name : String} {items out : List α}
    {call : Value → List Value → EvalM Value} {s s' : RunState}
    (hrun : (Sorting.mergeSort (fun a b => Sequence.compareBy name comparator (key a) (key b)) items).run
      call s = (.ok out, s')) :
    out = Sorting.inOrder (fun a b => o (key a) (key b)) items ∧ s' = s := by
  rcases h.mergeSort_agrees name key items with hdone | ⟨e, hfail⟩
  · rw [hdone] at hrun
    obtain ⟨hout, rfl⟩ := Prod.mk.inj hrun
    exact ⟨(Except.ok.inj hout).symm, rfl⟩
  · rw [hfail] at hrun
    cases hrun

theorem sort_of_run {coll v : Value} {call : Value → List Value → EvalM Value} {s s' : RunState}
    (hrun : ((Builtin.sequence .sort).act (comparator.toList ++ [coll])).run call s = (.ok v, s')) :
    ∃ items, coll.items "sort" = .ok items ∧ v = .vector (Sorting.inOrder o items) ∧ s' = s := by
  have hact : (Builtin.sequence .sort).act (comparator.toList ++ [coll]) =
      Sequence.sorted comparator coll := by
    cases comparator <;> rfl
  rw [hact] at hrun
  obtain ⟨items, hitems, hsorted⟩ := Action.exists_of_run_checked_bind hrun
  obtain ⟨out, s₁, hsort, hreturn⟩ := Action.exists_of_run_bind hsorted
  obtain ⟨rfl, rfl⟩ := h.eq_inOrder_of_run id hsort
  obtain ⟨hv, rfl⟩ := Prod.mk.inj hreturn
  exact ⟨items, hitems, (Except.ok.inj hv).symm, rfl⟩

theorem sortBy_of_run {f coll v : Value} {call : Value → List Value → EvalM Value} {s s' : RunState}
    (hrun : ((Builtin.sequence .sortBy).act (f :: comparator.toList ++ [coll])).run call s = (.ok v, s')) :
    ∃ items keys, coll.items "sort-by" = .ok items ∧ CallsInTurn call f s items keys s' ∧
      v = .vector ((Sorting.inOrder (fun p q => o p.1 q.1) (keys.zip items)).map (·.2)) := by
  have hact : (Builtin.sequence .sortBy).act (f :: comparator.toList ++ [coll]) =
      Sequence.sortedBy comparator f coll := by
    cases comparator <;> rfl
  rw [hact] at hrun
  obtain ⟨f', hf, hcallable⟩ := Action.exists_of_run_checked_bind hrun
  obtain rfl := Value.eq_of_asCallable hf
  obtain ⟨items, hitems, hkeyed⟩ := Action.exists_of_run_checked_bind hcallable
  obtain ⟨keys, s₁, hkeys, hsorted⟩ := Action.exists_of_run_bind hkeyed
  obtain ⟨pairs, s₂, hsort, hreturn⟩ := Action.exists_of_run_bind hsorted
  obtain ⟨rfl, rfl⟩ := h.eq_inOrder_of_run Prod.fst hsort
  obtain ⟨hv, rfl⟩ := Prod.mk.inj hreturn
  exact ⟨items, keys, hitems, Action.callsInTurn_of_results hkeys, (Except.ok.inj hv).symm⟩

end SortsNaturally

/-! ## Extreme keys -/

/-- The items with a key, each with its key. -/
def keyed (pairs : List (Value × Value)) : List (Value × Value) :=
  pairs.filter fun p => !p.1.isNil

/-- The better one of an item and the best one so far, each with its key. Only a key that comes before the
other one is better. -/
def better (o : Value → Value → Ordering) (best : Option (Value × Value)) (p : Value × Value) :
    Option (Value × Value) :=
  match best with
  | none => some p
  | some q => if o p.1 q.1 = .lt then some p else some q

/-- The best one of several items with a key, each with its key. -/
def best (o : Value → Value → Ordering) (pairs : List (Value × Value)) : Option (Value × Value) :=
  (keyed pairs).foldl (better o) none

/-- The first of several items with a key that no other key comes before, if there are any. -/
def FirstInOrder (o : Value → Value → Ordering) (pairs : List (Value × Value)) :
    Option (Value × Value) → Prop
  | none => keyed pairs = []
  | some p => ∃ before after, keyed pairs = before ++ p :: after ∧ (∀ q ∈ before, o p.1 q.1 = .lt) ∧
    ∀ q ∈ after, o p.1 q.1 ≠ .gt

namespace FirstInOrder

variable {o : Value → Value → Ordering}

/-- An item without a key changes nothing. -/
theorem skip {pairs : List (Value × Value)} {first : Option (Value × Value)} {p : Value × Value}
    (hfirst : FirstInOrder o pairs first) (hkey : p.1.isNil = true) : FirstInOrder o (pairs ++ [p]) first := by
  have hkeyed : keyed (pairs ++ [p]) = keyed pairs := by
    simp [keyed, hkey]
  cases first with
  | none => exact hkeyed.trans hfirst
  | some q =>
    obtain ⟨before, after, hsplit, hq⟩ := hfirst
    exact ⟨before, after, hkeyed.trans hsplit, hq⟩

variable {S : Value → Prop} (hpre : PreorderOn o S)
include hpre

/-- One more item with a key: it is the best one from now on, or the best one stays. -/
theorem step {pairs : List (Value × Value)} {first : Option (Value × Value)} {p : Value × Value}
    (hfirst : FirstInOrder o pairs first) (hpairs : ∀ q ∈ keyed pairs, S q.1) (hp : S p.1)
    (hkey : p.1.isNil = false) : FirstInOrder o (pairs ++ [p]) (better o first p) := by
  have hkeyed : keyed (pairs ++ [p]) = keyed pairs ++ [p] := by
    simp [keyed, hkey]
  cases first with
  | none =>
    have hnone : keyed pairs = [] := hfirst
    refine ⟨[], [], ?_, List.forall_mem_nil _, List.forall_mem_nil _⟩
    rw [hkeyed, hnone]
  | some q =>
    obtain ⟨before, after, hsplit, hbefore, hafter⟩ := hfirst
    rw [hsplit] at hpairs
    obtain ⟨hSbefore, hSrest⟩ := List.forall_mem_append.1 hpairs
    obtain ⟨hq, hSafter⟩ := List.forall_mem_cons.1 hSrest
    rw [better]
    by_cases hlt : o p.1 q.1 = .lt
    · rw [if_pos hlt]
      refine ⟨before ++ q :: after, [], ?_, ?_, List.forall_mem_nil _⟩
      · rw [hkeyed, hsplit]
      -- what is below the best key is below all that the best key is not above
      · refine List.forall_mem_append.2 ⟨fun r hr => ?_, List.forall_mem_cons.2 ⟨hlt, fun r hr => ?_⟩⟩
        · refine hpre.lt_of_lt_of_ne_gt hp hq (hSbefore r hr) hlt ?_
          rw [hbefore r hr]
          decide
        · exact hpre.lt_of_lt_of_ne_gt hp hq (hSafter r hr) hlt (hafter r hr)
    · rw [if_neg hlt]
      refine ⟨before, after ++ [p], ?_, hbefore, ?_⟩
      · rw [hkeyed, hsplit, List.append_assoc, List.cons_append]
      · refine List.forall_mem_append.2 ⟨hafter, List.forall_mem_singleton.2 ?_⟩
        exact hpre.ne_gt_of_ne_lt hq hp hlt

/-- The best item in a total preorder is the first one that no other comes before. -/
theorem of_best {pairs : List (Value × Value)} (hpairs : ∀ q ∈ pairs, S q.1) :
    FirstInOrder o pairs (best o pairs) := by
  induction pairs using List.reverseRecOn with
  | nil => rfl
  | append_singleton pairs p ih =>
    obtain ⟨hpairs, hp⟩ := List.forall_mem_append.1 hpairs
    have hfirst := ih hpairs
    cases hkey : p.1.isNil with
    | true =>
      have hbest : best o (pairs ++ [p]) = best o pairs := by
        simp [best, keyed, hkey]
      rw [hbest]
      exact hfirst.skip hkey
    | false =>
      have hbest : best o (pairs ++ [p]) = better o (best o pairs) p := by
        simp [best, keyed, hkey]
      rw [hbest]
      exact hfirst.step hpre (fun q hq => hpairs q (List.mem_of_mem_filter hq)) (hp p List.mem_cons_self) hkey

end FirstInOrder

/-- The functions that look for an extreme key, with their names, the order that a better key has to the best
one so far, and the order of values in which the best key is the first one. -/
inductive LooksFor : SequenceFn → String → Ordering → (Value → Value → Ordering) → Prop
  | least : LooksFor .minBy "min-by" .lt Value.compare
  | greatest : LooksFor .maxBy "max-by" .gt fun a b => b.compare a

namespace LooksFor

variable {fn : SequenceFn} {name : String} {wanted : Ordering} {o : Value → Value → Ordering}
  (h : LooksFor fn name wanted o)
include h

theorem preorderOn : PreorderOn o Value.Regular := by
  cases h with
  | least => exact Value.regular_preorderOn
  | greatest => exact Value.regular_preorderOn.flip

/-- A key is better than the best one so far if it comes before it. -/
theorem lt_iff (a b : Value) : o a b = .lt ↔ a.compare b = wanted := by
  cases h with
  | least => exact Iff.rfl
  | greatest => exact Std.OrientedCmp.gt_iff_lt.symm

/-- Whether a key replaces the best one so far is decided by the order of values. -/
theorem better_of_improves {key x : Value} {first : Option (Value × Value)} {improved : Bool}
    (hb : Sequence.improves name wanted key first = .ok improved) :
    better o first (key, x) = if improved then some (key, x) else first := by
  cases first with
  | none =>
    obtain rfl : true = improved := Except.ok.inj hb
    rfl
  | some q =>
    rw [Sequence.improves] at hb
    cases hkey : key.naturalCompare name q.1 with
    | error e =>
      rw [hkey] at hb
      cases hb
    | ok o' =>
      rw [hkey] at hb
      have himproved : (o' == wanted) = improved := Except.ok.inj hb
      have hiff : o key q.1 = .lt ↔ improved = true := by
        rw [h.lt_iff, Value.compare_of_naturalCompare key q.1 o' hkey, ← himproved, beq_iff_eq]
      simp only [better, hiff]

/-- Going through the items keeps the best one so far at hand. -/
theorem extremeFrom_of_run {f v : Value} {call : Value → List Value → EvalM Value} {s' : RunState}
    {items : List Value} : ∀ {first : Option (Value × Value)} {s : RunState},
      (Sequence.extremeFrom name wanted f first items).run call s = (.ok v, s') →
      ∃ keys, CallsInTurn call f s items keys s' ∧
        v = (((keyed (keys.zip items)).foldl (better o) first).map (·.2)).getD .nil := by
  induction items with
  | nil =>
    intro first s hrun
    obtain ⟨hv, rfl⟩ := Prod.mk.inj hrun
    exact ⟨[], .nil, (Except.ok.inj hv).symm⟩
  | cons x items ih =>
    intro first s hrun
    rw [Sequence.extremeFrom, Action.run_call, EvalM.bind_apply] at hrun
    rcases hx : call f [x] s with ⟨e | key, s₁⟩
    · rw [hx] at hrun
      cases hrun
    · rw [hx] at hrun
      by_cases hnil : key.isNil = true
      · simp only [hnil, if_true] at hrun
        obtain ⟨keys, hturn, hv⟩ := ih hrun
        have hskip : keyed ((key, x) :: keys.zip items) = keyed (keys.zip items) := by
          simp [keyed, hnil]
        refine ⟨key :: keys, .cons hx hturn, ?_⟩
        rw [List.zip_cons_cons, hskip]
        exact hv
      · simp only [hnil, Bool.false_eq_true, if_false] at hrun
        cases hb : Sequence.improves name wanted key first with
        | error e =>
          rw [hb] at hrun
          cases hrun
        | ok improved =>
          rw [hb] at hrun
          have hbetter := h.better_of_improves (x := x) hb
          have hrest : (Sequence.extremeFrom name wanted f (better o first (key, x)) items).run call s₁ =
              (.ok v, s') := by
            rw [hbetter]
            cases improved <;> exact hrun
          obtain ⟨keys, hturn, hv⟩ := ih hrest
          have htake : keyed ((key, x) :: keys.zip items) = (key, x) :: keyed (keys.zip items) := by
            simp [keyed, hnil]
          refine ⟨key :: keys, .cons hx hturn, ?_⟩
          rw [List.zip_cons_cons, htake]
          exact hv

/-- The function goes through the items of its collection, with no best one at first. -/
theorem act_eq (f coll : Value) : (Builtin.sequence fn).act [f, coll] =
    Sequence.through name (Sequence.extremeFrom name wanted · none) f coll := by
  cases h <;> rfl

theorem of_run {f coll v : Value} {call : Value → List Value → EvalM Value} {s s' : RunState}
    (hrun : ((Builtin.sequence fn).act [f, coll]).run call s = (.ok v, s')) :
    ∃ items keys, coll.items name = .ok items ∧ CallsInTurn call f s items keys s' ∧
      v = ((best o (keys.zip items)).map (·.2)).getD .nil := by
  rw [h.act_eq] at hrun
  obtain ⟨f', hf, hcallable⟩ := Action.exists_of_run_checked_bind hrun
  obtain rfl := Value.eq_of_asCallable hf
  obtain ⟨items, hitems, hextreme⟩ := Action.exists_of_run_checked_bind hcallable
  obtain ⟨keys, hturn, hv⟩ := h.extremeFrom_of_run hextreme
  exact ⟨items, keys, hitems, hturn, hv⟩

end LooksFor

/-- The natural order is a part of the order of values, in which maps keep their keys: where it is defined, it
is that order, and it is refused for two values either way round or not at all.

So `sort`, `sort-by`, `min-by` and `max-by` order values as maps order their keys, whenever they return. A sort
gives what it gives if it compares in the order of values or in its opposite, and the others give the best item
in that order, or `nil` if no item has a key. That order is a total one of values without NaN that has the sign
bit set. If the keys are such values, a sort is the stable sort, and the best item is the first one whose key is
the least or the greatest. -/
theorem natural_order_is_order_of_values :
    (∀ (name : String) (a b : Value) (o : Ordering), a.naturalCompare name b = .ok o → o = a.compare b) ∧
    (∀ (name : String) (a b : Value),
      (∃ e, a.naturalCompare name b = .error e) ↔ ∃ e, b.naturalCompare name a = .error e) ∧
    ∀ (h : Host) (n : Nat) (coll v : Value) (s s' : RunState),
      (∀ comparator o, SortsNaturally comparator o →
        callAt h (n + 1) (.builtin (.sequence .sort)) (comparator.toList ++ [coll]) s = (.ok v, s') →
          ∃ items out, coll.items "sort" = .ok items ∧ v = .vector out ∧ out = Sorting.inOrder o items ∧
            s' = s ∧ ((∀ x ∈ items, x.Regular) → IsStableSort o items out)) ∧
      (∀ comparator o f, SortsNaturally comparator o →
        callAt h (n + 1) (.builtin (.sequence .sortBy)) (f :: comparator.toList ++ [coll]) s = (.ok v, s') →
          ∃ items keys pairs, coll.items "sort-by" = .ok items ∧ CallsInTurn (callAt h n) f s items keys s' ∧
            v = .vector (pairs.map (·.2)) ∧
            pairs = Sorting.inOrder (fun p q => o p.1 q.1) (keys.zip items) ∧
            ((∀ k ∈ keys, k.Regular) → IsStableSort (fun p q => o p.1 q.1) (keys.zip items) pairs)) ∧
      ∀ fn name wanted o f, LooksFor fn name wanted o →
        callAt h (n + 1) (.builtin (.sequence fn)) [f, coll] s = (.ok v, s') →
          ∃ items keys first, coll.items name = .ok items ∧ CallsInTurn (callAt h n) f s items keys s' ∧
            v = (first.map (·.2)).getD .nil ∧ first = best o (keys.zip items) ∧
            ((∀ k ∈ keys, k.Regular) → FirstInOrder o (keys.zip items) first) := by
  refine ⟨fun name a b o h => (Value.compare_of_naturalCompare a b o h).symm, fun name a b => ?_,
    fun h n coll v s s' => ⟨?_, ?_, ?_⟩⟩
  · constructor
    · exact fun ⟨e, he⟩ => Value.naturalCompare_error_swap he
    · exact fun ⟨e, he⟩ => Value.naturalCompare_error_swap he
  · intro comparator o horder hrun
    obtain ⟨items, hitems, hv, hs⟩ := horder.sort_of_run hrun
    exact ⟨items, _, hitems, hv, rfl, hs, horder.inOrder_isStableSort id⟩
  · intro comparator o f horder hrun
    obtain ⟨items, keys, hitems, hturn, hv⟩ := horder.sortBy_of_run hrun
    exact ⟨items, keys, _, hitems, hturn, hv, rfl, fun hregular =>
      horder.inOrder_isStableSort Prod.fst fun p hp => hregular p.1 (List.of_mem_zip hp).1⟩
  · intro fn name wanted o f hlooks hrun
    obtain ⟨items, keys, hitems, hturn, hv⟩ := hlooks.of_run hrun
    exact ⟨items, keys, _, hitems, hturn, hv, rfl, fun hregular =>
      .of_best hlooks.preorderOn fun p hp => hregular p.1 (List.of_mem_zip hp).1⟩

/-- Vectors that differ in an item are ordered although the items behind it cannot be, and `nil` comes first at
every level. Of several rows with the greatest key, `max-by` returns the first one. A NaN that has the sign bit
set comes before one half and after one, and a sort leaves it where the comparisons put it. -/
theorem natural_order_is_order_of_values_of_nested_vectors :
    ∃ (h : Host) (s : RunState) (out : List Value),
      Ordering.lt = (Value.vector [.ofNat 1, .keyword "a"]).compare (.vector [.ofNat 2, .string "a"]) ∧
      (∃ e, (Value.vector [.ofNat 1, .keyword "a"]).naturalCompare "sort" (.vector [.ofNat 1, .string "a"]) =
        .error e) ∧
      callAt h 1 (.builtin (.sequence .sort))
          [.vector [.vector [.ofNat 2, .string "a"], .vector [.ofNat 1, .keyword "a"], .vector [.nil],
            .nil]] s =
        (.ok (.vector out), s) ∧
      IsStableSort Value.compare
        [.vector [.ofNat 2, .string "a"], .vector [.ofNat 1, .keyword "a"], .vector [.nil], .nil] out ∧
      ∃ keys first, CallsInTurn (callAt h 1) (.keyword "k") s [.rowAt 1 0, .rowAt 2 1, .rowAt 2 2] keys s ∧
        FirstInOrder (fun a b => b.compare a) (keys.zip [.rowAt 1 0, .rowAt 2 1, .rowAt 2 2]) first ∧
        Value.rowAt 2 1 = (first.map (·.2)).getD .nil ∧
      ∃ half, half = Value.number (.float (.ofMagnitude false 0x3fe0000000000000)) ∧
        callAt h 1 (.builtin (.sequence .sort))
            [.vector [half, .number (.float (.nan true)), .ofNat 1]] s =
          (.ok (.vector [half, .ofNat 1, .number (.float (.nan true))]), s) ∧
        [half, .ofNat 1, .number (.float (.nan true))] =
          Sorting.inOrder Value.compare [half, .number (.float (.nan true)), .ofNat 1] := by
  let h : Host := .bare
  let s : RunState := .fresh
  obtain ⟨hvalue, herror, hcalls⟩ := natural_order_is_order_of_values
  have hlt : (Value.vector [.ofNat 1, .keyword "a"]).naturalCompare "sort" (.vector [.ofNat 2, .string "a"]) =
      .ok .lt := by rfl
  have hrefused : ∃ e, (Value.vector [.ofNat 1, .string "a"]).naturalCompare "sort"
      (.vector [.ofNat 1, .keyword "a"]) = .error e := ⟨_, by rfl⟩
  have hsort : callAt h 1 (.builtin (.sequence .sort)) [.vector [.vector [.ofNat 2, .string "a"],
      .vector [.ofNat 1, .keyword "a"], .vector [.nil], .nil]] s = (.ok (.vector [.nil, .vector [.nil],
        .vector [.ofNat 1, .keyword "a"], .vector [.ofNat 2, .string "a"]]), s) := by rfl
  obtain ⟨items, out, hitems, hout, -, -, hstable⟩ := (hcalls h 0 _ _ s s).1 _ _ .natural hsort
  obtain rfl := Except.ok.inj hitems
  obtain rfl := Value.vector.inj hout
  have hmax : callAt h 2 (.builtin (.sequence .maxBy)) [.keyword "k", .vector [.rowAt 1 0, .rowAt 2 1,
      .rowAt 2 2]] s = (.ok (.rowAt 2 1), s) := by rfl
  obtain ⟨items, keys, first, hitems, hturn, hv, -, hfirst⟩ := (hcalls h 1 _ _ s s).2.2 _ _ _ _ _ .greatest hmax
  obtain rfl := Except.ok.inj hitems
  obtain ⟨half, hhalf⟩ : ∃ half : Value, half = .number (.float (.ofMagnitude false 0x3fe0000000000000)) :=
    ⟨_, rfl⟩
  have hkeys : CallsInTurn (callAt h 1) (.keyword "k") s [.rowAt 1 0, .rowAt 2 1, .rowAt 2 2]
      [.ofNat 1, .ofNat 2, .ofNat 2] s := .cons rfl (.cons rfl (.cons rfl .nil))
  obtain ⟨rfl, -⟩ := hkeys.unique hturn
  have hsigned : callAt h 1 (.builtin (.sequence .sort)) [.vector [half, .number (.float (.nan true)),
      .ofNat 1]] s = (.ok (.vector [half, .ofNat 1, .number (.float (.nan true))]), s) := by
    rw [hhalf]
    rfl
  obtain ⟨items, out, hitems, hout, hcompared, -⟩ := (hcalls h 0 _ _ s s).1 _ _ .natural hsigned
  obtain rfl := Except.ok.inj hitems
  obtain rfl := Value.vector.inj hout
  exact ⟨h, s, _, hvalue _ _ _ _ hlt, (herror _ _ _).1 hrefused, hsort, hstable (by simp), _, first, hturn,
    hfirst (by simp), hv, half, hhalf, hsigned, hcompared⟩

end ToolLisp
