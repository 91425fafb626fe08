import ToolLisp.Proofs.NaturalOrder

/-!
# Extreme keys

`min-by` and `max-by` go through the items once and keep the best one so far, which only a better one replaces.
`sort-by` sorts all of them. The two agree item for item: the first item of a stable sort is the first one that
no other comes before (`FirstInOrder.head?_eq`). Items without a key are passed over by the one and have to be
taken out before the other.

Both return if any two keys can be ordered. Whether they can does not depend on the function that asks
(`Value.naturalCompare_of_ok`).
-/

namespace ToolLisp

open Sorting (IsStableSort PreorderOn equalTo mem_equalTo)

/-! ## Whoever asks for the natural order -/

namespace Value

theorem naturalCompareAll_of_ok {name name' : String} {as : List Value}
    (has : ∀ a ∈ as, ∀ b o, a.naturalCompare name b = .ok o → a.naturalCompare name' b = .ok o) :
    ∀ {bs : List Value} {o : Ordering},
      naturalCompareAll name as bs = .ok o → naturalCompareAll name' as bs = .ok o := by
  induction as with
  | nil =>
    intro bs o h
    cases bs <;> exact h
  | cons a as ih =>
    obtain ⟨ha, has⟩ := List.forall_mem_cons.1 has
    intro bs o h
    cases bs with
    | nil => exact h
    | cons b bs =>
      rw [naturalCompareAll] at h ⊢
      cases hab : naturalCompare name a b with
      | error e =>
        rw [hab] at h
        cases h
      | ok o' =>
        rw [hab] at h
        rw [ha b o' hab]
        cases o' with
        | eq => exact ih has h
        | lt => exact h
        | gt => exact h

/-- The natural order of two values is the same for every function that asks for it. -/
theorem naturalCompare_of_ok {name name' : String} (a b : Value) (o : Ordering)
    (h : a.naturalCompare name b = .ok o) : a.naturalCompare name' b = .ok o := by
  have hparts : ∀ p ∈ a.parts, ∀ b o, p.naturalCompare name b = .ok o → p.naturalCompare name' b = .ok o :=
    fun p hp b o h => naturalCompare_of_ok p b o h
  cases a with
  | nil => exact h
  | vector as =>
    cases b with
    | nil => exact h
    | vector bs => exact naturalCompareAll_of_ok hparts h
    | _ => cases h
  | _ =>
    cases b with
    | nil => exact h
    | _ => first | exact h | cases h
termination_by sizeOf a
decreasing_by exact sizeOf_lt_of_mem_parts hp

theorem Comparable.of_name {name : String} {a b : Value} (h : Comparable name a b) (name' : String) :
    Comparable name' a b := by
  have hdefined {a b : Value} (hab : (a.naturalCompare name b).isOk = true) :
      (a.naturalCompare name' b).isOk = true := by
    cases ho : a.naturalCompare name b with
    | error e =>
      rw [ho] at hab
      cases hab
    | ok o =>
      rw [naturalCompare_of_ok a b o ho]
      rfl
  exact ⟨hdefined h.1, hdefined h.2⟩

end Value

/-! ## The first item of a sort -/

/-- A stable sort begins with the first item that no other one comes before. -/
theorem Sorting.IsStableSort.head?_eq {α : Type} {f : α → α → Ordering} {items out before after : List α}
    {p : α} (hpre : PreorderOn f (· ∈ items)) (hsort : IsStableSort f items out)
    (hitems : items = before ++ p :: after) (hbefore : ∀ q ∈ before, f p q = .lt)
    (hafter : ∀ q ∈ after, f p q ≠ .gt) : out.head? = some p := by
  have hp : p ∈ items := by simp [hitems]
  have hself : f p p = .eq := hpre.refl hp
  have hleast : ∀ q ∈ items, f p q ≠ .gt := by
    intro q hq
    rw [hitems, List.mem_append, List.mem_cons] at hq
    rcases hq with hq | rfl | hq
    · rw [hbefore q hq]
      decide
    · rw [hself]
      decide
    · exact hafter q hq
  cases out with
  | nil => cases hsort.perm.mem_iff.2 hp
  | cons q out =>
    have hq : q ∈ items := hsort.perm.mem_iff.1 List.mem_cons_self
    have hqp : f q p ≠ .gt := hpre.ne_gt_of_mem hq hsort.sorted (hsort.perm.mem_iff.2 hp)
    have heq : f p q = .eq := hpre.eq_of_ne_gt hp hq (hleast q hq) hqp
    -- among the items equal to `p`, the sort has `q` first, and the items have `p` first
    have hstable := hsort.stable p hp
    have hout : equalTo f p (q :: out) = q :: equalTo f p out := by simp [equalTo, heq]
    have hnone : equalTo f p before = [] := by
      refine List.eq_nil_iff_forall_not_mem.2 fun r hr => ?_
      obtain ⟨hr, heq⟩ := mem_equalTo.1 hr
      rw [hbefore r hr] at heq
      cases heq
    have hin : equalTo f p items = p :: equalTo f p after := by
      rw [hitems, Sorting.equalTo_append, hnone]
      simp [equalTo, hself]
    rw [hout, hin] at hstable
    rw [List.head?_cons, (List.cons.inj hstable).1]

theorem FirstInOrder.head?_eq {o : Value → Value → Ordering} {pairs out : List (Value × Value)}
    {first : Option (Value × Value)} {S : Value → Prop} (hpre : PreorderOn o S)
    (hpairs : ∀ p ∈ keyed pairs, S p.1) (h : FirstInOrder o pairs first)
    (hsort : IsStableSort (fun p q => o p.1 q.1) (keyed pairs) out) : out.head? = first := by
  cases first with
  | none =>
    have hnone : keyed pairs = [] := h
    have hperm := hsort.perm
    rw [hnone] at hperm
    rw [List.perm_nil.1 hperm]
    rfl
  | some p =>
    obtain ⟨before, after, hsplit, hbefore, hafter⟩ := h
    exact hsort.head?_eq (hpre.comap Prod.fst hpairs) hsplit hbefore hafter

/-! ## Keys that can be ordered -/

/-- A computation without comparisons that are refused, and its result. -/
theorem done_relation :
    Sorting.Relation (m := Id) (n := Action) fun P x y => P x.run ∧ y = .done x.run where
  pure hb := ⟨hb, rfl⟩
  bind hx hf := by
    obtain ⟨hb, rfl⟩ := hx
    obtain ⟨hc, hg⟩ := hf _ hb
    exact ⟨hc, hg⟩
  mono hx hPQ := ⟨hPQ _ hx.1, hx.2⟩

namespace SortsNaturally

variable {comparator : Option Value} {o : Value → Value → Ordering} (h : SortsNaturally comparator o)
include h

theorem compareBy_of_comparable {name : String} {a b : Value} (hab : Value.Comparable name a b) :
    Sequence.compareBy name comparator a b = .done (o a b) := by
  have hchecked {a b : Value} (hab : Value.Comparable name a b) :
      Action.ofChecked (a.naturalCompare name b) = .done (a.compare b) := by
    have hdefined := Value.naturalOrder_of_comparable hab
    rw [hdefined, Value.compare_of_naturalCompare a b _ hdefined]
    rfl
  cases h with
  | natural => exact hchecked hab
  | ascending => exact hchecked hab
  | descending => exact hchecked hab.symm

/-- `sort-by` returns if any two keys can be ordered. -/
theorem sortBy_of_comparable {f coll : Value} {items keys : List Value}
    {call : Value → List Value → EvalM Value} {s s' : RunState} (hf : f.callable = true)
    (hitems : coll.items "sort-by" = .ok items) (hturn : CallsInTurn call f s items keys s')
    (hkeys : keys.Pairwise (Value.Comparable "sort-by")) :
    ((Builtin.sequence .sortBy).act (f :: comparator.toList ++ [coll])).run call s =
      (.ok (.vector ((Sorting.inOrder (fun p q => o p.1 q.1) (keys.zip items)).map (·.2))), s') := by
  have hfst : (keys.zip items).map Prod.fst = keys := List.map_fst_zip (Nat.le_of_eq hturn.length_eq)
  rw [← hfst, List.pairwise_map] at hkeys
  have hsort := Sorting.mergeSort_related done_relation <| hkeys.imp fun hab =>
    And.intro trivial (h.compareBy_of_comparable hab.symm)
  rw [sortedBy_eq hf hitems, Action.run_bind_ok _ (Action.results_of_callsInTurn hturn).1, hsort.2]
  rfl

end SortsNaturally

/-- Looking for an extreme key comes to an end if any two keys can be ordered, the best one so far among
them. -/
theorem extremeFrom_of_comparable {name : String} {wanted : Ordering} {f : Value} {items keys : List Value}
    {call : Value → List Value → EvalM Value} {s s' : RunState} (hturn : CallsInTurn call f s items keys s') :
    ∀ {best : Option (Value × Value)},
      ((best.map (·.1)).toList ++ keys.filter fun k => !k.isNil).Pairwise (Value.Comparable name) →
        ∃ v, (Sequence.extremeFrom name wanted f best items).run call s = (.ok v, s') := by
  induction hturn with
  | nil => exact fun _ => ⟨_, rfl⟩
  | @cons s s' s'' x key items keys hx hturn ih =>
    intro best hkeys
    rw [Sequence.extremeFrom, Action.run_call, EvalM.bind_apply, hx]
    dsimp only
    by_cases hnil : key.isNil = true
    · rw [if_pos hnil]
      refine ih ?_
      rwa [List.filter_cons_of_neg (by simp [hnil])] at hkeys
    · rw [if_neg hnil]
      rw [List.filter_cons_of_pos (by simp [hnil])] at hkeys
      -- the key takes the place of the best one, or it is passed over
      have htaken : ∃ v, (Sequence.extremeFrom name wanted f (some (key, x)) items).run call s' =
          (.ok v, s'') := by
        refine ih (hkeys.sublist ?_)
        exact List.sublist_append_right _ _
      have hpassed : ∃ v, (Sequence.extremeFrom name wanted f best items).run call s' = (.ok v, s'') := by
        refine ih (hkeys.sublist ?_)
        exact List.Sublist.append_left (List.sublist_cons_self _ _) _
      have hdecided : ∃ better, Sequence.improves name wanted key best = .ok better := by
        cases best with
        | none => exact ⟨true, rfl⟩
        | some p =>
          have hcomparable : Value.Comparable name p.1 key := by
            refine (List.pairwise_append.1 hkeys).2.2 _ ?_ _ List.mem_cons_self
            exact List.mem_singleton_self _
          refine ⟨Value.naturalOrder name key p.1 == wanted, ?_⟩
          rw [Sequence.improves, Value.naturalOrder_of_comparable hcomparable.symm]
          rfl
      obtain ⟨better, hbetter⟩ := hdecided
      rw [hbetter]
      cases better with
      | true => exact htaken
      | false => exact hpassed

/-- `min-by` and `max-by` return if any two keys can be ordered. -/
theorem LooksFor.of_comparable {fn : SequenceFn} {name : String} {wanted : Ordering}
    {o : Value → Value → Ordering} (h : LooksFor fn name wanted o) {f coll : Value} {items keys : List Value}
    {call : Value → List Value → EvalM Value} {s s' : RunState} (hf : f.callable = true)
    (hitems : coll.items name = .ok items) (hturn : CallsInTurn call f s items keys s')
    (hkeys : (keys.filter fun k => !k.isNil).Pairwise (Value.Comparable name)) :
    ∃ v, ((Builtin.sequence fn).act [f, coll]).run call s = (.ok v, s') := by
  have hcallable : f.asCallable name = .ok f := if_pos hf
  have hact : (Builtin.sequence fn).act [f, coll] = Sequence.extremeFrom name wanted f none items := by
    rw [h.act_eq, Sequence.through, hcallable, hitems]
    rfl
  rw [hact]
  exact extremeFrom_of_comparable hturn hkeys

/-! ## Extreme keys and sorting -/

/-- The items with a key, each with its key, are those that are left when the others have been taken out. -/
theorem keyed_zip (key : Value → Value) (items : List Value) :
    keyed ((items.map key).zip items) =
      ((items.filter fun x => !(key x).isNil).map key).zip (items.filter fun x => !(key x).isNil) := by
  have hzip (xs : List Value) : (xs.map key).zip xs = xs.map fun x => (key x, x) := by
    have hboth : (xs.map key).zip (xs.map id) = xs.map fun x => (key x, id x) := List.zip_map'
    rwa [List.map_id] at hboth
  rw [hzip, hzip, keyed, List.filter_map]
  rfl

/-- A function that looks for an extreme key, with the comparator of `sort-by` that puts the items in the same
order. -/
inductive Extreme : SequenceFn → Option Value → (Value → Value → Ordering) → Prop
  | least : Extreme .minBy none Value.compare
  | greatest : Extreme .maxBy (some (.keyword "desc")) fun a b => b.compare a

theorem Extreme.sortsNaturally {fn : SequenceFn} {comparator : Option Value} {o : Value → Value → Ordering}
    (h : Extreme fn comparator o) : SortsNaturally comparator o := by
  cases h with
  | least => exact .natural
  | greatest => exact .descending

theorem Extreme.exists_looksFor {fn : SequenceFn} {comparator : Option Value} {o : Value → Value → Ordering}
    (h : Extreme fn comparator o) : ∃ name wanted, LooksFor fn name wanted o := by
  cases h with
  | least => exact ⟨_, _, .least⟩
  | greatest => exact ⟨_, _, .greatest⟩

/-- If a function without effects gives the items of a collection keys, none of which holds a NaN with the sign
bit set, and any two of the keys that are not `nil` can be ordered, then `min-by` returns the first item of what
`sort-by` makes of the items with such a key, and `max-by` the first item of what it makes of them with `:desc`.
That is the first item whose key is the least or the greatest one, so of several with that key it is the
earliest. Without any such item it is `nil`. -/
theorem extremes_are_first_when_sorted (h : Host) (n : Nat) (s : RunState) (f coll sortable : Value)
    (items : List Value) (key : Value → Value) (name : String) (hf : f.callable = true)
    (hitems : coll.items name = .ok items)
    (hkey : ∀ x ∈ items, (callAt h n f [x]).PureFrom s (· = key x))
    (hcomparable : ((items.map key).filter fun k => !k.isNil).Pairwise (Value.Comparable name))
    (hregular : ∀ x ∈ items, (key x).Regular)
    (hsortable : sortable.items name = .ok (items.filter fun x => !(key x).isNil)) :
    ∀ fn comparator o, Extreme fn comparator o → ∃ v out s₁ s₂,
      callAt h (n + 1) (.builtin (.sequence fn)) [f, coll] s = (.ok v, s₁) ∧
      callAt h (n + 1) (.builtin (.sequence .sortBy)) (f :: comparator.toList ++ [sortable]) s =
        (.ok (.vector out), s₂) ∧
      callAt h (n + 1) (.builtin (.sequence .first)) [.vector out] s₂ = (.ok v, s₂) ∧
      (∃ first, FirstInOrder o ((items.map key).zip items) first ∧ v = (first.map (·.2)).getD .nil) ∧
      ((items.filter fun x => !(key x).isNil) = [] → v = .nil) ∧
      s.SameEffects s₁ ∧ s.SameEffects s₂ := by
  intro fn comparator o hextreme
  obtain ⟨extremeName, wanted, hlooks⟩ := hextreme.exists_looksFor
  -- the function looks at the keys of all items
  obtain ⟨s₁, hturn, hs₁⟩ := CallsInTurn.of_pureFrom hkey
  obtain ⟨v, hv⟩ := hlooks.of_comparable hf (Value.items_of_items hitems extremeName) hturn
    (hcomparable.imp fun hab => hab.of_name extremeName)
  obtain ⟨items', keys, hitems', hturn', hvalue⟩ := hlooks.of_run hv
  obtain rfl : items = items' := Except.ok.inj ((Value.items_of_items hitems extremeName).symm.trans hitems')
  obtain ⟨rfl, -⟩ := hturn.unique hturn'
  -- the sort looks at those that are not `nil`
  have hkey' : ∀ x ∈ items.filter fun x => !(key x).isNil, (callAt h n f [x]).PureFrom s (· = key x) :=
    fun x hx => hkey x (List.mem_of_mem_filter hx)
  obtain ⟨s₂, hturnSort, hs₂⟩ := CallsInTurn.of_pureFrom hkey'
  have hkeys : ((items.filter fun x => !(key x).isNil).map key).Pairwise (Value.Comparable "sort-by") := by
    rw [List.filter_map] at hcomparable
    exact hcomparable.imp fun hab => hab.of_name "sort-by"
  have hsort := hextreme.sortsNaturally.sortBy_of_comparable hf
    (Value.items_of_items hsortable "sort-by") hturnSort hkeys
  rw [← keyed_zip] at hsort
  -- both are looked at in the same order of the same pairs
  have hpairs : ∀ p ∈ (items.map key).zip items, p.1.Regular := by
    intro p hp
    obtain ⟨x, hx, hxp⟩ := List.mem_map.1 (List.of_mem_zip hp).1
    exact hxp ▸ hregular x hx
  have hkeyed : ∀ p ∈ keyed ((items.map key).zip items), p.1.Regular :=
    fun p hp => hpairs p (List.mem_of_mem_filter hp)
  have hfirst := FirstInOrder.of_best hlooks.preorderOn hpairs
  have hstable := hextreme.sortsNaturally.inOrder_isStableSort Prod.fst hkeyed
  have hhead := hfirst.head?_eq hlooks.preorderOn hkeyed hstable
  refine ⟨v, _, s₁, s₂, hv, hsort, ?_, ⟨_, hfirst, hvalue⟩, ?_, hs₁, hs₂⟩
  · rw [hvalue, ← hhead]
    cases Sorting.inOrder (fun p q => o p.1 q.1) (keyed ((items.map key).zip items)) <;> rfl
  · intro hnone
    have hempty : keyed ((items.map key).zip items) = [] := by
      rw [keyed_zip, hnone]
      rfl
    rw [hvalue, best, hempty]
    rfl

/-- Of five rows, one has no key, and two have the greatest one. -/
theorem extremes_are_first_when_sorted_of_ties :
    ∃ (h : Host) (s s₁ s₂ s₃ s₄ : RunState) (up down : List Value),
      callAt h 2 (.builtin (.sequence .minBy)) [.keyword "k", .vector [.rowAt 2 0, .map [], .rowAt 1 1,
        .rowAt 2 2, .rowAt 1 3]] s = (.ok (.rowAt 1 1), s₁) ∧
      callAt h 2 (.builtin (.sequence .sortBy)) [.keyword "k", .vector [.rowAt 2 0, .rowAt 1 1, .rowAt 2 2,
        .rowAt 1 3]] s = (.ok (.vector up), s₂) ∧
      callAt h 2 (.builtin (.sequence .first)) [.vector up] s₂ = (.ok (.rowAt 1 1), s₂) ∧
      callAt h 2 (.builtin (.sequence .maxBy)) [.keyword "k", .vector [.rowAt 2 0, .map [], .rowAt 1 1,
        .rowAt 2 2, .rowAt 1 3]] s = (.ok (.rowAt 2 0), s₃) ∧
      callAt h 2 (.builtin (.sequence .sortBy)) [.keyword "k", .keyword "desc", .vector [.rowAt 2 0, .rowAt 1 1,
        .rowAt 2 2, .rowAt 1 3]] s = (.ok (.vector down), s₄) ∧
      callAt h 2 (.builtin (.sequence .first)) [.vector down] s₄ = (.ok (.rowAt 2 0), s₄) := by
  let h : Host := .bare
  let s : RunState := .fresh
  let items : List Value := [.rowAt 2 0, .map [], .rowAt 1 1, .rowAt 2 2, .rowAt 1 3]
  let key : Value → Value := fun row => (row.get? (.keyword "k")).getD .nil
  have hkey : ∀ x ∈ items, (callAt h 1 (.keyword "k") [x]).PureFrom s (· = key x) := by
    intro x hx
    simp only [items, List.mem_cons, List.not_mem_nil, or_false] at hx
    rcases hx with rfl | rfl | rfl | rfl | rfl <;> exact fun s' hs => ⟨_, s', rfl, rfl, hs⟩
  have hregular : ∀ x ∈ items, (key x).Regular := by
    intro x hx
    simp only [items, List.mem_cons, List.not_mem_nil, or_false] at hx
    rcases hx with rfl | rfl | rfl | rfl | rfl <;>
      exact Value.regular_of_parts_eq_nil (Number.regular_int _) rfl
  have hextremes := extremes_are_first_when_sorted h 1 s (.keyword "k") (.vector items)
    (.vector [.rowAt 2 0, .rowAt 1 1, .rowAt 2 2, .rowAt 1 3]) items key "min-by" rfl rfl hkey
    (by decide +kernel) hregular rfl
  obtain ⟨least, up, s₁, s₂, hmin, hup, hfirst, -⟩ := hextremes _ _ _ .least
  obtain ⟨greatest, down, s₃, s₄, hmax, hdown, hlast, -⟩ := hextremes _ _ _ .greatest
  have hleast : callAt h 2 (.builtin (.sequence .minBy)) [.keyword "k", .vector items] s =
      (.ok (.rowAt 1 1), s) := by rfl
  have hgreatest : callAt h 2 (.builtin (.sequence .maxBy)) [.keyword "k", .vector items] s =
      (.ok (.rowAt 2 0), s) := by rfl
  obtain rfl := Except.ok.inj (Prod.mk.inj (hleast.symm.trans hmin)).1
  obtain rfl := Except.ok.inj (Prod.mk.inj (hgreatest.symm.trans hmax)).1
  exact ⟨h, s, s₁, s₂, s₃, s₄, up, down, hmin, hup, hfirst, hmax, hdown, hlast⟩

end ToolLisp
