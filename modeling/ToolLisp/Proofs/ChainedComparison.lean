import ToolLisp.Proofs.NaturalOrder
import ToolLisp.Proofs.ValueEquality

/-!
# Chained comparisons

The functions `<`, `>`, `<=` and `>=` compare neighbours, numbers by what they are worth and strings by their
characters. A sort goes by the order of values, which tells more numbers apart: an integer comes before a
double that it is equal to, and `-0.0` before `0.0`. It never turns two numbers around
(`Number.numCompare?_ne_gt`), so what has been sorted passes the comparison `<=`
(`sorted_passes_chained_comparison`).
-/

namespace ToolLisp

open Sorting (IsStableSort)

/-! ## Two orders of numbers -/

namespace Number

variable {m n : Number}

theorem place?_of_not_nan (h : n.isNaN = false) : n.toFloat.place? = some n.place := by
  rw [isNaN_eq_isNone] at h
  rw [place, Binary64.place]
  cases hp : n.toFloat.place? with
  | none =>
    rw [hp] at h
    cases h
  | some p => rfl

theorem regular_of_not_nan (h : n.isNaN = false) : n.Regular := by
  rintro rfl
  cases h

/-- Two integers are compared exactly, and other numbers by the nearest doubles. -/
theorem numCompare?_cases (hm : m.isNaN = false) (hn : n.isNaN = false) :
    (∃ i j, m = .int i ∧ n = .int j ∧ m.numCompare? n = some (m.totalCompare n)) ∨
      m.numCompare? n = some (compare m.place n.place) := by
  have hdoubles : m.toFloat.compare? n.toFloat = some (compare m.place n.place) := by
    rw [Binary64.compare?, place?_of_not_nan hm, place?_of_not_nan hn]
  cases m with
  | int i =>
    cases n with
    | int j => exact .inl ⟨i, j, rfl, rfl, rfl⟩
    | float y => exact .inr hdoubles
  | float x => exact .inr (by cases n <;> exact hdoubles)

/-- Numbers have an order by what they are worth, and it is not the opposite of their order as values. -/
theorem numCompare?_ne_gt (hm : m.isNaN = false) (hn : n.isNaN = false) :
    ∃ o, m.numCompare? n = some o ∧ (m.totalCompare n ≠ .gt → o ≠ .gt) := by
  rcases numCompare?_cases hm hn with ⟨i, j, -, -, hcompare⟩ | hcompare
  · exact ⟨_, hcompare, id⟩
  · refine ⟨_, hcompare, fun hle hgt => hle ?_⟩
    -- the order of values begins with the order of places
    have htotal : m.totalCompare n = (compare m.place n.place).then
        (compareLex (compareOn isFloat) (compareOn rank) m n) := by
      rw [totalCompare_eq (regular_of_not_nan hm) (regular_of_not_nan hn)]
      rfl
    rw [htotal, hgt]
    rfl

end Number

/-! ## Collections of one kind -/

namespace Value

/-- All values are numbers other than NaN, or all are strings. -/
def OfOneKind (items : List Value) : Prop :=
  (∀ v ∈ items, ∃ n : Number, v = .number n ∧ n.isNaN = false) ∨ ∀ v ∈ items, ∃ s, v = .string s

/-- A value is less than another of the same kind: a number is worth less, or a string comes first. -/
inductive Below : Value → Value → Prop
  | number {m n : Number} : m.numCompare? n = some .lt → Below (.number m) (.number n)
  | string {s t : String} : s < t → Below (.string s) (.string t)

variable {items : List Value}

theorem OfOneKind.of_subset {items' : List Value} (h : OfOneKind items) (hsub : ∀ v ∈ items', v ∈ items) :
    OfOneKind items' :=
  h.imp (fun h v hv => h v (hsub v hv)) fun h v hv => h v (hsub v hv)

theorem OfOneKind.comparable (h : OfOneKind items) (name : String) :
    items.Pairwise (Comparable name) := by
  refine List.pairwise_of_forall_mem_list fun v hv w hw => ?_
  rcases h with h | h
  · obtain ⟨m, rfl, -⟩ := h v hv
    obtain ⟨n, rfl, -⟩ := h w hw
    exact ⟨rfl, rfl⟩
  · obtain ⟨s, rfl⟩ := h v hv
    obtain ⟨t, rfl⟩ := h w hw
    exact ⟨rfl, rfl⟩

theorem OfOneKind.regular (h : OfOneKind items) : ∀ v ∈ items, v.Regular := by
  intro v hv
  rcases h with h | h
  · obtain ⟨n, rfl, hn⟩ := h v hv
    exact regular_number.2 (Number.regular_of_not_nan hn)
  · obtain ⟨s, rfl⟩ := h v hv
    exact regular_string s

/-- Values of one kind have an order for comparisons. It agrees with their order as values. -/
theorem OfOneKind.exists_order (h : OfOneKind items) (name : String) {v w : Value} (hv : v ∈ items)
    (hw : w ∈ items) : ∃ o, NumberFn.order name v w = .ok (some o) ∧ (v.compare w ≠ .gt → o ≠ .gt) ∧
      (o = .lt ↔ v.Below w) := by
  rcases h with h | h
  · obtain ⟨m, rfl, hm⟩ := h v hv
    obtain ⟨n, rfl, hn⟩ := h w hw
    obtain ⟨o, ho, hle⟩ := Number.numCompare?_ne_gt hm hn
    refine ⟨o, congrArg Except.ok ho, hle, ?_⟩
    constructor
    · rintro rfl
      exact .number ho
    · rintro ⟨hlt⟩
      exact Option.some.inj (ho.symm.trans hlt)
  · obtain ⟨s, rfl⟩ := h v hv
    obtain ⟨t, rfl⟩ := h w hw
    -- for strings it is the order of `compare`
    refine ⟨_, rfl, id, ?_⟩
    have hcompare : Ord.compare s t = .lt ↔ s < t := compareOfLessAndEq_eq_lt
    rw [hcompare]
    constructor
    · exact .string
    · intro hbelow
      cases hbelow with
      | string hlt => exact hlt

end Value

/-! ## Neighbours -/

namespace NumberFn

variable {name : String} {test : Ordering → Bool} {R : Value → Value → Prop} {items : List Value}

/-- The first of two values is less than the second one or equal to it. -/
def NotAbove (a b : Value) : Prop :=
  ∃ o, order "<=" a b = .ok (some o) ∧ o ≠ .gt

/-- A comparison goes through all neighbours, if they have an order. By induction on the values: the first two
decide, or the comparison goes on from the second one. -/
theorem ascends_iff_isChain {rest : List Value} : ∀ {v : Value},
    (∀ a ∈ v :: rest, ∀ b ∈ v :: rest, ∃ o, order name a b = .ok (some o) ∧ (test o = true ↔ R a b)) →
      ∃ b, ascends name test v rest = .ok b ∧ (b = true ↔ (v :: rest).IsChain R) := by
  induction rest with
  | nil => exact fun _ => ⟨true, rfl, iff_of_true rfl (.singleton _)⟩
  | cons w rest ih =>
    intro v horder
    obtain ⟨o, ho, htest⟩ := horder v List.mem_cons_self w (List.mem_cons_of_mem _ List.mem_cons_self)
    obtain ⟨b, hb, hchain⟩ := ih fun a ha b hb =>
      horder a (List.mem_cons_of_mem _ ha) b (List.mem_cons_of_mem _ hb)
    have hstep : ascends name test v (w :: rest) = if test o then ascends name test w rest else .ok false := by
      rw [ascends, ho]
      rfl
    rw [hstep, List.isChain_cons_cons, ← htest]
    cases test o with
    | true => exact ⟨b, hb, by rw [hchain]; simp⟩
    | false => exact ⟨false, rfl, by simp⟩

theorem compared_iff_isChain {v : Value} {rest : List Value}
    (horder : ∀ a ∈ v :: rest, ∀ b ∈ v :: rest,
      ∃ o, order name a b = .ok (some o) ∧ (test o = true ↔ R a b)) :
    ∃ b, compared name test v rest = .ok (.bool b) ∧ (b = true ↔ (v :: rest).IsChain R) := by
  cases rest with
  | nil =>
    obtain ⟨o, ho, -⟩ := horder v List.mem_cons_self v List.mem_cons_self
    refine ⟨true, ?_, iff_of_true rfl (.singleton v)⟩
    rw [compared, ho]
    rfl
  | cons w rest =>
    obtain ⟨b, hb, hchain⟩ := ascends_iff_isChain horder
    refine ⟨b, ?_, hchain⟩
    rw [compared, hb]
    · rfl
    · simp

section

variable {v : Value} {rest : List Value}

/-- Values of one kind that stand in their order as values pass the comparison `<=`. -/
theorem compared_le_of_sorted (hkind : Value.OfOneKind (v :: rest))
    (hsorted : (v :: rest).Pairwise fun a b => a.compare b ≠ .gt) :
    compared "<=" (·.isLE) v rest = .ok (.bool true) := by
  have horder : ∀ a ∈ v :: rest, ∀ b ∈ v :: rest, ∃ o, order "<=" a b = .ok (some o) ∧
      (o.isLE = true ↔ NotAbove a b) := by
    intro a ha b hb
    obtain ⟨o, ho, -, -⟩ := hkind.exists_order "<=" ha hb
    refine ⟨o, ho, fun hle => ⟨o, ho, Ordering.isLE_iff_ne_gt.1 hle⟩, ?_⟩
    rintro ⟨o', ho', hle⟩
    obtain rfl : o = o' := Option.some.inj (Except.ok.inj (ho.symm.trans ho'))
    exact Ordering.isLE_iff_ne_gt.2 hle
  have hchain : (v :: rest).IsChain NotAbove := by
    refine (hsorted.imp_of_mem fun ha hb hle => ?_).isChain
    obtain ⟨o, ho, hagrees, -⟩ := hkind.exists_order "<=" ha hb
    exact ⟨o, ho, hagrees hle⟩
  obtain ⟨b, hb, hiff⟩ := compared_iff_isChain horder
  rw [hb, hiff.2 hchain]

/-- Values of one kind can be compared by `<`, which holds if each is less than the next. -/
theorem compared_lt_iff_isChain (hkind : Value.OfOneKind (v :: rest)) :
    ∃ b, compared "<" (·.isLT) v rest = .ok (.bool b) ∧ (b = true ↔ (v :: rest).IsChain Value.Below) := by
  refine compared_iff_isChain fun a ha b hb => ?_
  obtain ⟨o, ho, -, hlt⟩ := hkind.exists_order "<" ha hb
  exact ⟨o, ho, Ordering.isLT_iff_eq_lt.trans hlt⟩

end

end NumberFn

/-! ## Sorted collections -/

/-- A collection of one kind is sorted in the order of values. -/
theorem sort_of_oneKind (h : Host) (n : Nat) (s : RunState) {coll : Value} {items : List Value}
    (hitems : coll.items "sort" = .ok items) (hkind : Value.OfOneKind items) :
    ∃ out, callAt h (n + 1) (.builtin (.sequence .sort)) [coll] s = (.ok (.vector out), s) ∧
      IsStableSort Value.compare items out := by
  have horders : Orders (callAt h n) s "sort" (items.map id) none _ :=
    .natural (by rw [List.map_id]; exact hkind.comparable "sort") (by rw [List.map_id]; exact hkind.regular)
  obtain ⟨_, -, hpure⟩ := horders.mergeSort_yields id
  obtain ⟨out, s', hrun, -, -⟩ := hpure s (.refl s)
  obtain ⟨rfl, rfl⟩ := SortsNaturally.natural.eq_inOrder_of_run id hrun
  refine ⟨_, ?_, SortsNaturally.natural.inOrder_isStableSort id hkind.regular⟩
  have hact : (Builtin.sequence .sort).act [coll] =
      Sorting.mergeSort (Sequence.compareBy "sort" none) items >>= fun out => .done (.vector out) :=
    @sorted_eq none _ _ hitems
  rw [callAt_builtin]
  exact (congrArg (fun x => Action.run (callAt h n) x s') hact).trans (Action.run_bind_ok _ hrun)

/-- A collection that is not empty and holds only numbers other than NaN, or only strings, can be sorted, and
then it passes the comparison `<=`. Before it is sorted, it passes the comparison `<` if every item is less
than the next one. Integers and doubles of any size may be mixed. -/
theorem sorted_passes_chained_comparison (h : Host) (n : Nat) (s : RunState) (coll : Value)
    (items : List Value) (hitems : coll.items "sort" = .ok items) (hne : items ≠ [])
    (hkind : Value.OfOneKind items) :
    (∃ out, callAt h (n + 1) (.builtin (.sequence .sort)) [coll] s = (.ok (.vector out), s) ∧
      IsStableSort Value.compare items out ∧
      callAt h (n + 1) (.builtin (.number .le)) out s = (.ok (.bool true), s)) ∧
    ∃ b, callAt h (n + 1) (.builtin (.number .lt)) items s = (.ok (.bool b), s) ∧
      (b = true ↔ items.IsChain Value.Below) := by
  constructor
  · obtain ⟨out, hcall, hsort⟩ := sort_of_oneKind h n s hitems hkind
    refine ⟨out, hcall, hsort, ?_⟩
    have hkind' : Value.OfOneKind out := hkind.of_subset fun v hv => hsort.perm.mem_iff.1 hv
    cases out with
    | nil => exact absurd hsort.perm.nil_eq.symm hne
    | cons v rest =>
      change (Action.ofChecked (NumberFn.compared "<=" (·.isLE) v rest)).run (callAt h n) s = _
      rw [NumberFn.compared_le_of_sorted hkind' hsort.sorted]
      rfl
  · obtain ⟨v, rest, rfl⟩ := List.exists_cons_of_ne_nil hne
    obtain ⟨b, hb, hchain⟩ := NumberFn.compared_lt_iff_isChain hkind
    refine ⟨b, ?_, hchain⟩
    change (Action.ofChecked (NumberFn.compared "<" (·.isLT) v rest)).run (callAt h n) s = _
    rw [hb]
    rfl

/-- Integers and doubles that are worth the same, or almost the same, and two strings. -/
theorem sorted_passes_chained_comparison_of_mixed_numbers :
    ∃ (h : Host) (s : RunState) (numbers texts : List Value),
      numbers = [.number (.float (.ofInt 9007199254740992)), .number (.int 9007199254740993),
        .number (.float .zero), .number (.int 9007199254740992), .number (.float (.ofMagnitude true 0))] ∧
      texts = [.string "a", .string "b"] ∧
      (∃ out, callAt h 1 (.builtin (.sequence .sort)) [.vector numbers] s = (.ok (.vector out), s) ∧
        IsStableSort Value.compare numbers out ∧
        callAt h 1 (.builtin (.number .le)) out s = (.ok (.bool true), s)) ∧
      texts.IsChain Value.Below ∧ callAt h 1 (.builtin (.number .lt)) texts s = (.ok (.bool true), s) := by
  let h : Host := .bare
  let s : RunState := .fresh
  have hless : [Value.string "a", .string "b"].IsChain Value.Below :=
    .cons_cons (.string (by decide)) (.singleton _)
  refine ⟨h, s, _, _, rfl, rfl, ?_, hless, ?_⟩
  · refine (sorted_passes_chained_comparison h 0 s (.vector _) _ rfl (by simp) (.inl fun v hv => ?_)).1
    simp only [List.mem_cons, List.not_mem_nil, or_false] at hv
    rcases hv with rfl | rfl | rfl | rfl | rfl <;> exact ⟨_, rfl, by decide +kernel⟩
  · have htexts : Value.OfOneKind [.string "a", .string "b"] := .inr (by simp)
    obtain ⟨b, hcall, hb⟩ := (sorted_passes_chained_comparison h 0 s (.vector [.string "a", .string "b"]) _ rfl
      (by simp) htexts).2
    rw [hcall, hb.2 hless]

end ToolLisp
