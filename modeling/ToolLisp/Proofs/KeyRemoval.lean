import ToolLisp.Proofs.KeyedAccess

/-!
# Removing keys

`dissoc` removes its keys one after the other, each in the spelling that the map uses by then. The entry with
a given key itself is always removed, and removed entries do not come back. A map that has a key in both
spellings loses only one of them to one removal, and the other one is then found instead; a second removal in
either spelling takes it, too (`dissoc_removes_keys`).
-/

namespace ToolLisp

namespace Entries

/-! ## Removing one key -/

/-- A map without a key, in the spelling that the map uses. -/
def without (m : Entries) (k : Value) : Entries :=
  erase (resolve m k) m

theorem get?_without (m : Entries) (k l : Value) :
    get? (without m k) l = if l.same (resolve m k) then none else get? m l :=
  get?_erase (resolve m k) m l

/-- What is not there does not come back. -/
theorem get?_without_eq_none {m : Entries} {l : Value} (h : get? m l = none) (k : Value) :
    get? (without m k) l = none := by
  rw [get?_without, h, ite_self]

/-- The entry with the key itself is removed. -/
theorem get?_without_self (m : Entries) (k : Value) : get? (without m k) k = none := by
  rw [get?_without]
  have h := resolved m k
  generalize resolve m k = r, find? m k = o at h ⊢
  cases h with
  | given => exact if_pos (Value.same_self k)
  | respelled hk _ _ => rw [hk, ite_self]
  | missing hk _ => rw [hk, ite_self]

/-- A key that the map does not have in both spellings is not found any more. -/
theorem find?_without_self {m : Entries} {k : Value}
    (h : ∀ l, otherSpelling? k = some l → get? m k = none ∨ get? m l = none) :
    find? (without m k) k = none := by
  refine find?_eq_none_iff.2 ⟨get?_without_self m k, fun l hl => ?_⟩
  have hone := h l hl
  rw [get?_without]
  have hr := resolved m k
  generalize resolve m k = r, find? m k = o at hr ⊢
  cases hr with
  | given hk => rw [hone.resolve_left (by simp [hk]), ite_self]
  | respelled _ ho _ =>
    rw [hl] at ho
    cases ho
    exact if_pos (Value.same_self l)
  | missing _ hnone => rw [hnone l hl, ite_self]

/-! ## Removing several keys -/

theorem get?_foldl_without_eq_none {m : Entries} {l : Value} (h : get? m l = none) (ks : List Value) :
    get? (ks.foldl without m) l = none :=
  List.foldlRecOn ks without (motive := fun m => get? m l = none) h
    fun _ h k _ => get?_without_eq_none h k

theorem get?_foldl_without_self {ks : List Value} {k : Value} (hk : k ∈ ks) (m : Entries) :
    get? (ks.foldl without m) k = none := by
  obtain ⟨before, after, rfl⟩ := List.append_of_mem hk
  rw [List.foldl_append, List.foldl_cons]
  exact get?_foldl_without_eq_none (get?_without_self _ k) after

/-- A key that the map has in one spelling at most is not found after its removal. -/
theorem find?_foldl_without_of_one {m : Entries} {ks : List Value} {k : Value} (hk : k ∈ ks)
    (h : ∀ l, otherSpelling? k = some l → get? m k = none ∨ get? m l = none) :
    find? (ks.foldl without m) k = none := by
  obtain ⟨before, after, rfl⟩ := List.append_of_mem hk
  rw [List.foldl_append, List.foldl_cons]
  have hself : find? (without (before.foldl without m) k) k = none := by
    refine find?_without_self fun l hl => ?_
    exact (h l hl).imp (get?_foldl_without_eq_none · before) (get?_foldl_without_eq_none · before)
  obtain ⟨hkey, hother⟩ := find?_eq_none_iff.1 hself
  exact find?_eq_none_iff.2
    ⟨get?_foldl_without_eq_none hkey after, fun l hl => get?_foldl_without_eq_none (hother l hl) after⟩

/-- A key that is removed once more, in either spelling, is not found after that. -/
theorem find?_foldl_without_of_two {before after : List Value} {k l j : Value}
    (hl : otherSpelling? k = some l) (hj : j ∈ before ++ after) (hjk : j = k ∨ j = l) (m : Entries) :
    find? ((before ++ k :: after).foldl without m) k = none := by
  have hmem : k ∈ before ++ k :: after := by simp
  rcases hjk with rfl | rfl
  · -- after the first of the two removals the map has the key in one spelling at most
    rcases List.mem_append.1 hj with hj | hj
    · rw [List.foldl_append]
      exact find?_foldl_without_of_one List.mem_cons_self
        fun _ _ => .inl (get?_foldl_without_self hj m)
    · rw [List.foldl_append, List.foldl_cons]
      exact find?_foldl_without_of_one hj fun _ _ => .inl (get?_without_self _ j)
  · have hmem' : j ∈ before ++ k :: after := by
      rcases List.mem_append.1 hj with hj | hj <;> simp [hj]
    rw [find?_of_otherSpelling (get?_foldl_without_self hmem m) hl]
    exact get?_foldl_without_self hmem' m

/-! ## What is left -/

/-- Removing `k`, in whichever spelling, does not remove `l`. -/
def Spares (k l : Value) : Prop :=
  ¬ l.same k = true ∧ ∀ j, otherSpelling? k = some j → ¬ l.same j = true

/-- Removing any other key spares both spellings of a name. -/
theorem spares_of_ne {j k l : Value} (hl : otherSpelling? k = some l) (hk : j ≠ k) (hj : j ≠ l) :
    Spares j k ∧ Spares j l := by
  have hkey (j : Value) : k.same j = true ↔ j = k := by
    obtain ⟨name, ⟨rfl, -⟩ | ⟨rfl, -⟩⟩ := otherSpelling?_eq_some hl
    · exact Value.keyword_same_iff
    · exact Value.string_same_iff
  refine ⟨⟨fun hs => hk ((hkey j).1 hs), fun j' hj' hs => ?_⟩,
    ⟨fun hs => hj ((same_otherSpelling hl j).1 hs), fun j' hj' hs => ?_⟩⟩
  · rw [(hkey j').1 hs] at hj'
    exact hj (otherSpelling?_trans hj' hl)
  · rw [(same_otherSpelling hl j').1 hs] at hj'
    exact hk (otherSpelling?_inj hj' hl)

theorem get?_foldl_without_of_spares {ks : List Value} {l : Value} (m : Entries)
    (h : ∀ k ∈ ks, Spares k l) : get? (ks.foldl without m) l = get? m l := by
  refine List.foldlRecOn ks without (motive := fun m' => get? m' l = get? m l) rfl fun m' ih k hk => ?_
  have hne : ¬ l.same (resolve m' k) = true := by
    rcases resolve_eq_or m' k with hr | hr
    · rw [hr]
      exact (h k hk).1
    · exact (h k hk).2 _ hr
  rw [get?_without, if_neg hne, ih]

theorem mem_foldl_without {ks : List Value} {e : Value × Value} {m : Entries} (he : e ∈ m)
    (hkey : e.1.ClosureFree) (hks : ∀ k ∈ ks, k.ClosureFree)
    (h : ∀ k ∈ ks, e.1 ≠ k ∧ otherSpelling? k ≠ some e.1) : e ∈ ks.foldl without m := by
  refine List.foldlRecOn ks without (motive := fun m => e ∈ m) he fun m' ih k hk => ?_
  refine List.mem_filter.2 ⟨ih, ?_⟩
  rw [Bool.not_eq_true', ← Bool.not_eq_true]
  intro hsame
  rcases resolve_eq_or m' k with hr | hr
  · rw [hr] at hsame
    exact (h k hk).1 (Value.eq_of_compare (hks k hk) hkey (Value.same_iff.1 hsame)).symm
  · rw [(same_otherSpelling hr e.1).1 hsame] at h
    exact (h k hk).2 hr

/-- A key that the map has in both spellings, and that is removed once, is found in its other spelling. -/
theorem find?_foldl_without_once {m : Entries} {before after : List Value} {k l w : Value}
    (hl : otherSpelling? k = some l) (hk : get? m k ≠ none) (hw : get? m l = some w)
    (h : ∀ j ∈ before ++ after, j ≠ k ∧ j ≠ l) :
    find? ((before ++ k :: after).foldl without m) k = some w := by
  obtain ⟨hbefore, hafter⟩ := List.forall_mem_append.1 fun j hj => spares_of_ne hl (h j hj).1 (h j hj).2
  have hgone := get?_foldl_without_self (show k ∈ before ++ k :: after by simp) m
  rw [find?_of_otherSpelling hgone hl, List.foldl_append, List.foldl_cons,
    get?_foldl_without_of_spares _ fun j hj => (hafter j hj).2]
  -- the removal of the key itself leaves its other spelling
  have hresolve : resolve (before.foldl without m) k = k := by
    unfold resolve
    rw [contains_eq, get?_foldl_without_of_spares m fun j hj => (hbefore j hj).1,
      if_pos (Option.isSome_iff_ne_none.2 hk)]
  have hne : ¬ l.same k = true := by
    rw [Value.same_comm]
    exact not_same_otherSpelling hl
  rw [get?_without, hresolve, if_neg hne, get?_foldl_without_of_spares m fun j hj => (hbefore j hj).2, hw]

theorem foldl_without_sublist (m : Entries) (ks : List Value) : (ks.foldl without m).Sublist m :=
  List.foldlRecOn ks without (motive := fun m' => m'.Sublist m) (List.Sublist.refl m)
    fun _ h _ _ => List.filter_sublist.trans h

end Entries

/-! ## The function -/

open Entries in
/-- `dissoc` only removes entries, and it keeps every entry whose key is neither a given key nor the other
spelling of one. A given key is not found afterwards, and it is not contained, unless the map had it in both
spellings and no other given key is this key or its other spelling. In that case the key itself is removed,
and what is found at it is what the map had at its other spelling. -/
theorem dissoc_removes_keys (m : Entries) (ks : List Value) (hm : ∀ e ∈ m, e.1.ClosureFree)
    (hks : ∀ k ∈ ks, k.ClosureFree) :
    ∃ m', (Builtin.map .dissoc).act (.map m :: ks) = .done (.map m') ∧ m'.Sublist m ∧
      (∀ e ∈ m, (∀ k ∈ ks, e.1 ≠ k ∧ otherSpelling? k ≠ some e.1) → e ∈ m') ∧
      ∀ before k after, ks = before ++ k :: after →
        ((∀ l, otherSpelling? k = some l → get? m k ≠ none → get? m l ≠ none →
            ∃ j ∈ before ++ after, j = k ∨ j = l) →
          (Value.map m').hasKey k = false ∧ (Value.map m').get? k = none) ∧
        ∀ l w, otherSpelling? k = some l → get? m k ≠ none → get? m l = some w →
          (∀ j ∈ before ++ after, j ≠ k ∧ j ≠ l) →
            get? m' k = none ∧ (Value.map m').hasKey k = true ∧ (Value.map m').get? k = some w := by
  refine ⟨ks.foldl without m, rfl, foldl_without_sublist m ks,
    fun e he h => mem_foldl_without he (hm e he) hks h, ?_⟩
  rintro before k after rfl
  have hmem : k ∈ before ++ k :: after := by simp
  refine ⟨fun h => ?_, fun l w hl hk hw h => ?_⟩
  · have hnone : find? ((before ++ k :: after).foldl without m) k = none := by
      -- where both spellings are there, each of the two keys removes one of them
      by_cases hboth : ∃ l, otherSpelling? k = some l ∧ get? m k ≠ none ∧ get? m l ≠ none
      · obtain ⟨l, hl, hk, hother⟩ := hboth
        obtain ⟨j, hj, hjk⟩ := h l hl hk hother
        exact find?_foldl_without_of_two hl hj hjk m
      · refine find?_foldl_without_of_one hmem fun l hl => ?_
        by_contra hnot
        rw [not_or] at hnot
        exact hboth ⟨l, hl, hnot⟩
    refine ⟨?_, hnone⟩
    rw [← Bool.not_eq_true, Value.hasKey_iff]
    rintro ⟨v, hv⟩
    rw [show (Value.map _).get? k = none from hnone] at hv
    cases hv
  · have hfound := find?_foldl_without_once hl hk hw h
    exact ⟨get?_foldl_without_self hmem m, (Value.hasKey_iff _ _).2 ⟨w, hfound⟩, hfound⟩

/-- One of the two spellings of a name is removed twice, another one once, and a third one is not there. -/
theorem dissoc_removes_keys_of_both_spellings :
    ∃ m', (Builtin.map .dissoc).act
        [.map [(.keyword "a", .ofNat 1), (.keyword "b", .ofNat 2), (.string "a", .ofNat 3),
          (.string "b", .ofNat 4), (.string "c", .ofNat 5)],
          .keyword "a", .string "b", .keyword "a", .keyword "d"] = .done (.map m') ∧
      (.string "c", .ofNat 5) ∈ m' ∧
      (Value.map m').hasKey (.keyword "a") = false ∧ (Value.map m').get? (.keyword "a") = none ∧
      (Value.map m').hasKey (.keyword "d") = false ∧
      (Value.map m').get? (.string "b") = some (.ofNat 2) := by
  obtain ⟨m', hact, -, hkept, hremoved⟩ := dissoc_removes_keys
    [(.keyword "a", .ofNat 1), (.keyword "b", .ofNat 2), (.string "a", .ofNat 3), (.string "b", .ofNat 4),
      (.string "c", .ofNat 5)] [.keyword "a", .string "b", .keyword "a", .keyword "d"] (by simp) (by simp)
  have ha := (hremoved [] (.keyword "a") [.string "b", .keyword "a", .keyword "d"] rfl).1 (by simp)
  have hb := (hremoved [.keyword "a"] (.string "b") [.keyword "a", .keyword "d"] rfl).2 (.keyword "b")
    (.ofNat 2) rfl (by decide) rfl (by simp)
  have hd := (hremoved [.keyword "a", .string "b", .keyword "a"] (.keyword "d") [] rfl).1
    fun l _ hd _ => absurd rfl hd
  exact ⟨m', hact, hkept _ (by simp) (by simp [Entries.otherSpelling?]), ha.1, ha.2, hd.1, hb.2.2⟩

/-- A map that has a name in both spellings still has the keyword after the keyword has been removed. -/
theorem dissoc_leaves_other_spelling :
    ∃ m', (Builtin.map .dissoc).act
        [.map [(.keyword "a", .ofNat 1), (.string "a", .ofNat 2)], .keyword "a"] = .done (.map m') ∧
      (Value.map m').hasKey (.keyword "a") = true ∧
      (Value.map m').get? (.keyword "a") = some (.ofNat 2) :=
  ⟨_, rfl, rfl, rfl⟩

end ToolLisp
