import ToolLisp.Proofs.IntegerArithmetic
import ToolLisp.Proofs.MapBuilding
import ToolLisp.Proofs.SortedCollections

/-!
# Groups

`group-by` and `frequencies` go through the items of a collection once. With each item they change what the map
has at the key of that item, and nothing else. So what a map has at a key in the end depends on the items with
that key only (`Entries.get?_accumulate`), and if it is a summary of the items so far after each of them, it is
the summary of all of them (`Entries.accumulate_eq`). The two functions differ in what they sum up: `group-by`
keeps the items themselves, `frequencies` their number.

`distinct` keeps no map. It lists the items in the order of their first places (`distinctFrom_lists`).
-/

namespace ToolLisp

open Std (OrientedCmp)

namespace Entries

/-! ## Accumulating items at their keys -/

variable {add : Option Value → Value → Value} {summary : List Value → Value} {key : Value → Value}
  {items : List Value}

/-- Adds each item to what its key has so far. -/
def accumulate (add : Option Value → Value → Value) (key : Value → Value) (m : Entries) (items : List Value) :
    Entries :=
  items.foldl (fun m x => insert (key x) (add (get? m (key x)) x) m) m

/-- The items with a key, in their order. -/
def members (key : Value → Value) (items : List Value) (k : Value) : List Value :=
  items.filter fun x => k.same (key x)

/-- What is found at a key is what its own items have been added up to. -/
theorem get?_accumulate (add : Option Value → Value → Value) (key : Value → Value) (items : List Value)
    (k : Value) : ∀ m : Entries, get? (accumulate add key m items) k =
      (members key items k).foldl (fun found x => some (add found x)) (get? m k) := by
  induction items with
  | nil => exact fun m => rfl
  | cons x items ih =>
    intro m
    have hrest : get? (accumulate add key m (x :: items)) k = _ :=
      ih (insert (key x) (add (get? m (key x)) x) m)
    rw [hrest, get?_insert, members, members, List.filter_cons]
    by_cases hk : k.same (key x) = true
    · rw [if_pos hk, if_pos hk, List.foldl_cons, get?_congr hk]
    · rw [if_neg hk, if_neg hk]

/-- Accumulating keeps the keys distinct. -/
theorem Distinct.accumulate (add : Option Value → Value → Value) (key : Value → Value) (items : List Value) :
    ∀ {m : Entries}, m.Distinct → (accumulate add key m items).Distinct := by
  induction items with
  | nil => exact fun hm => hm
  | cons x items ih => exact fun hm => ih hm.insert

/-- An entry was there before, or its key is that of an item. -/
theorem mem_accumulate {e : Value × Value} : ∀ {m : Entries}, e ∈ accumulate add key m items →
    e ∈ m ∨ ∃ x ∈ items, e.1 = key x := by
  induction items with
  | nil => exact fun he => .inl he
  | cons x items ih =>
    intro m he
    rcases ih he with he | ⟨y, hy, hkey⟩
    · rcases mem_insert he with rfl | he
      · exact .inr ⟨x, List.mem_cons_self, rfl⟩
      · exact .inl he
    · exact .inr ⟨y, List.mem_cons_of_mem _ hy, hkey⟩

/-- The last item is added to what the others have accumulated. -/
theorem accumulate_append_singleton (add : Option Value → Value → Value) (key : Value → Value) (m : Entries)
    (items : List Value) (x : Value) : accumulate add key m (items ++ [x]) =
      insert (key x) (add (get? (accumulate add key m items) (key x)) x) (accumulate add key m items) := by
  rw [accumulate, List.foldl_append]
  rfl

theorem accumulate_ordered (hregular : ∀ x ∈ items, (key x).Regular) :
    (accumulate add key [] items).Ordered := by
  induction items using List.reverseRecOn with
  | nil => exact .nil
  | append_singleton items x ih =>
    obtain ⟨hitems, hx⟩ := List.forall_mem_append.1 hregular
    rw [accumulate_append_singleton]
    refine (ih hitems).insert (hx x List.mem_cons_self) fun e he => ?_
    rcases mem_accumulate he with he | ⟨y, hy, hkey⟩
    · cases he
    · exact hkey ▸ hitems y hy

/-- After each item, what has been added up so far is the summary of the items. -/
structure Summarizes (add : Option Value → Value → Value) (summary : List Value → Value) : Prop where
  first : ∀ x, add none x = summary [x]
  more : ∀ xs x, add (some (summary xs)) x = summary (xs ++ [x])

/-- Adding items one by one gives their summary. -/
theorem Summarizes.foldl_eq (h : Summarizes add summary) {xs : List Value} (hxs : xs ≠ []) :
    xs.foldl (fun found x => some (add found x)) none = some (summary xs) := by
  have hfrom (rest : List Value) : ∀ done : List Value,
      rest.foldl (fun found x => some (add found x)) (some (summary done)) =
        some (summary (done ++ rest)) := by
    induction rest with
    | nil => exact fun done => by rw [List.append_nil]; rfl
    | cons x rest ih =>
      intro done
      rw [List.foldl_cons, h.more, ih, List.append_assoc, List.singleton_append]
  obtain ⟨x, rest, rfl⟩ := List.exists_cons_of_ne_nil hxs
  rw [List.foldl_cons, h.first, hfrom]
  rfl

/-- A key has members if it is the key of some item. -/
theorem members_ne_nil_iff {k : Value} : members key items k ≠ [] ↔ ∃ x ∈ items, k.same (key x) = true := by
  simp [members]

/-- Keys without functions that a program made are the same only if they are equal. -/
theorem same_key_iff (hkeys : ∀ x ∈ items, (key x).ClosureFree) {k x : Value} (hk : ∃ y ∈ items, key y = k)
    (hx : x ∈ items) : k.same (key x) = true ↔ key x = k := by
  obtain ⟨y, hy, rfl⟩ := hk
  constructor
  · intro hsame
    exact (Value.eq_of_compare (hkeys y hy) (hkeys x hx) (Value.same_iff.1 hsame)).symm
  · intro heq
    rw [heq]
    exact Value.same_self _

/-- The entries are the keys of the items, each with the summary of the items that have it. -/
theorem mem_accumulate_iff (hs : Summarizes add summary) (hkeys : ∀ x ∈ items, (key x).ClosureFree)
    {k v : Value} : (k, v) ∈ accumulate add key [] items ↔
      (∃ x ∈ items, key x = k) ∧ v = summary (members key items k) := by
  have hfree : ∀ e ∈ accumulate add key [] items, e.1.ClosureFree := by
    intro e he
    rcases mem_accumulate he with he | ⟨x, hx, hkey⟩
    · cases he
    · rw [hkey]
      exact hkeys x hx
  have hdistinct : (accumulate add key [] items).Distinct := .accumulate add key items .nil
  have hfound (hk : ∃ x ∈ items, key x = k) :
      get? (accumulate add key [] items) k = some (summary (members key items k)) := by
    rw [get?_accumulate]
    refine hs.foldl_eq (members_ne_nil_iff.2 ?_)
    obtain ⟨x, hx, rfl⟩ := hk
    exact ⟨x, hx, Value.same_self _⟩
  constructor
  · intro he
    have hk : ∃ x ∈ items, key x = k := by
      rcases mem_accumulate he with he | ⟨x, hx, hkey⟩
      · cases he
      · exact ⟨x, hx, hkey.symm⟩
    have hget := hdistinct.get?_of_mem he
    rw [hfound hk] at hget
    exact ⟨hk, (Option.some.inj hget).symm⟩
  · rintro ⟨hk, rfl⟩
    obtain ⟨x, hx, hkey⟩ := hk
    exact mem_of_get?_of_closureFree hfree (hkey ▸ hkeys x hx) (hfound ⟨x, hx, hkey⟩)

/-! ## Groups of items -/

/-- The keys of the items in their order, each with the items that have it. -/
def groups (key : Value → Value) (items : List Value) : List (Value × List Value) :=
  (accumulate (fun _ x => x) key [] items).map fun e => (e.1, members key items e.1)

/-- The last item is a summary of the items. -/
theorem summarizes_last : Summarizes (fun _ x => x) fun xs => xs.getLastD .nil where
  first _ := rfl
  more _ _ := by simp

/-- The groups are those of the keys that occur, each with all of its members. -/
theorem mem_groups_iff (hkeys : ∀ x ∈ items, (key x).ClosureFree) {g : Value × List Value} :
    g ∈ groups key items ↔ (∃ x ∈ items, key x = g.1) ∧ g.2 = members key items g.1 := by
  rw [groups, List.mem_map]
  constructor
  · rintro ⟨⟨k, v⟩, he, rfl⟩
    exact ⟨((mem_accumulate_iff summarizes_last hkeys).1 he).1, rfl⟩
  · rintro ⟨hk, hg⟩
    exact ⟨(g.1, _), (mem_accumulate_iff summarizes_last hkeys).2 ⟨hk, rfl⟩, Prod.ext rfl hg.symm⟩

/-- Groups are listed in the order of their keys. -/
theorem groups_ordered (hregular : ∀ x ∈ items, (key x).Regular) :
    (groups key items).Pairwise fun g g' => g.1.compare g'.1 = .lt :=
  List.pairwise_map.2 (accumulate_ordered hregular)

/-- Whatever is summed up, the map has the summaries of the groups. -/
theorem accumulate_eq (hs : Summarizes add summary) (hkeys : ∀ x ∈ items, (key x).ClosureFree)
    (hregular : ∀ x ∈ items, (key x).Regular) :
    accumulate add key [] items = (groups key items).map fun g => (g.1, summary g.2) := by
  have hordered : Ordered ((groups key items).map fun g => (g.1, summary g.2)) :=
    List.pairwise_map.2 (groups_ordered hregular)
  refine (accumulate_ordered hregular).ext hordered fun e => ?_
  rcases e with ⟨k, v⟩
  rw [mem_accumulate_iff hs hkeys, List.mem_map]
  constructor
  · rintro ⟨hk, rfl⟩
    exact ⟨(k, members key items k), (mem_groups_iff hkeys).2 ⟨hk, rfl⟩, rfl⟩
  · rintro ⟨g, hg, he⟩
    obtain ⟨hk, hmembers⟩ := (mem_groups_iff hkeys).1 hg
    obtain ⟨rfl, rfl⟩ := Prod.mk.inj he
    exact ⟨hk, by rw [hmembers]⟩

end Entries

/-! ## What groups are -/

/-- What is selected are the items with a property, in their order. -/
def Selects (P : Value → Prop) (items selected : List Value) : Prop :=
  ∃ p : Value → Bool, (∀ x ∈ items, p x = true ↔ P x) ∧ selected = items.filter p

/-- Items are divided into groups by their keys. -/
structure IsGrouping (key : Value → Value) (items : List Value) (groups : List (Value × List Value)) :
    Prop where
  keys : ∀ k, k ∈ groups.map (·.1) ↔ ∃ x ∈ items, key x = k
  ordered : (groups.map (·.1)).Pairwise fun k l => k.compare l = .lt
  nonempty : ∀ g ∈ groups, g.2 ≠ []
  members : ∀ g ∈ groups, Selects (fun x => key x = g.1) items g.2
  perm : (groups.flatMap (·.2)).Perm items

/-- Items that each pass exactly one of several tests are divided by them. By induction on the tests: the first
one takes its items out, and the others divide what is left. -/
theorem flatMap_filter_perm {α β : Type} {p : β → α → Bool} {ks : List β} : ∀ {items : List α},
    (ks.Pairwise fun k l => ∀ x ∈ items, p k x = true → p l x = false) →
      (∀ x ∈ items, ∃ k ∈ ks, p k x = true) → (ks.flatMap fun k => items.filter (p k)).Perm items := by
  induction ks with
  | nil =>
    intro items _ hcover
    have hnil : items = [] := by
      refine List.eq_nil_iff_forall_not_mem.2 fun x hx => ?_
      obtain ⟨k, hk, -⟩ := hcover x hx
      cases hk
    rw [hnil]
    exact .refl _
  | cons k ks ih =>
    intro items hapart hcover
    obtain ⟨hfirst, hrest⟩ := List.pairwise_cons.1 hapart
    -- what passes the first test passes no other one
    have hleft : (ks.flatMap fun l => items.filter (p l)) =
        ks.flatMap fun l => (items.filter fun x => !p k x).filter (p l) := by
      refine List.flatMap_congr fun l hl => ?_
      rw [List.filter_filter]
      refine List.filter_congr fun x hx => ?_
      cases hk : p k x with
      | true => rw [hfirst l hl x hx hk]; rfl
      | false => simp
    have hperm : (ks.flatMap fun l => (items.filter fun x => !p k x).filter (p l)).Perm
        (items.filter fun x => !p k x) := by
      refine ih (hrest.imp fun hkl x hx => hkl x (List.mem_of_mem_filter hx)) fun x hx => ?_
      obtain ⟨hx, hnot⟩ := List.mem_filter.1 hx
      obtain ⟨l, hl, hpl⟩ := hcover x hx
      rcases List.mem_cons.1 hl with rfl | hl
      · rw [hpl] at hnot
        cases hnot
      · exact ⟨l, hl, hpl⟩
    rw [List.flatMap_cons, hleft]
    exact (hperm.append_left _).trans (List.filter_append_perm (p k) items)

/-- The groups that are made are the grouping of the items. -/
theorem groups_isGrouping {key : Value → Value} {items : List Value}
    (hkeys : ∀ x ∈ items, (key x).ClosureFree) (hregular : ∀ x ∈ items, (key x).Regular) :
    IsGrouping key items (Entries.groups key items) where
  keys k := by
    rw [List.mem_map]
    constructor
    · rintro ⟨g, hg, rfl⟩
      exact ((Entries.mem_groups_iff hkeys).1 hg).1
    · intro hk
      exact ⟨(k, Entries.members key items k), (Entries.mem_groups_iff hkeys).2 ⟨hk, rfl⟩, rfl⟩
  ordered := List.pairwise_map.2 (Entries.groups_ordered hregular)
  nonempty g hg := by
    obtain ⟨⟨x, hx, hkey⟩, hmembers⟩ := (Entries.mem_groups_iff hkeys).1 hg
    rw [hmembers, Entries.members_ne_nil_iff]
    exact ⟨x, hx, hkey ▸ Value.same_self _⟩
  members g hg := by
    obtain ⟨hk, hmembers⟩ := (Entries.mem_groups_iff hkeys).1 hg
    exact ⟨_, fun x hx => Entries.same_key_iff hkeys hk hx, hmembers⟩
  perm := by
    have hmembers : ((Entries.groups key items).flatMap (·.2)) =
        (Entries.groups key items).flatMap fun g => items.filter fun x => g.1.same (key x) :=
      List.flatMap_congr fun g hg => ((Entries.mem_groups_iff hkeys).1 hg).2
    rw [hmembers]
    refine flatMap_filter_perm ((Entries.groups_ordered hregular).imp ?_) fun x hx => ?_
    · -- a key that two groups have would make their keys the same
      intro g g' hlt x _ hsame
      rw [Bool.eq_false_iff]
      intro hsame'
      have heq : g.1.compare g'.1 = .eq :=
        Value.compare_eq_trans (Value.same_iff.1 hsame) (OrientedCmp.eq_symm (Value.same_iff.1 hsame'))
      rw [hlt] at heq
      cases heq
    · refine ⟨(key x, Entries.members key items (key x)), ?_, Value.same_self _⟩
      exact (Entries.mem_groups_iff hkeys).2 ⟨⟨x, hx, rfl⟩, rfl⟩

/-! ## The functions that group and count -/

namespace Sequence

/-- A group with one item more. -/
def grown : Option Value → Value → Value
  | some (.vector members), x => .vector (members ++ [x])
  | _, x => .vector [x]

/-- A count with one item more. -/
def counted : Option Value → Value → Value
  | some (.number (.int n)), _ => .number (.int (n + 1))
  | _, _ => .number (.int 1)

/-- An item joins the group at its key. -/
theorem addToGroup_eq (m : Entries) (k x : Value) :
    addToGroup m k x = Entries.insert k (grown (Entries.get? m k) x) m := by
  unfold addToGroup
  rcases Entries.get? m k with _ | v
  · rfl
  · cases v <;> rfl

theorem addToCount_eq (m : Entries) (x : Value) :
    addToCount m x = Entries.insert x (counted (Entries.get? m x) x) m := by
  unfold addToCount
  rcases Entries.get? m x with _ | v
  · rfl
  · cases v with
    | number n => cases n <;> rfl
    | _ => rfl

/-- A group is the vector of its members. -/
theorem summarizes_grown : Entries.Summarizes grown .vector where
  first _ := rfl
  more _ _ := rfl

/-- The number of items as a 64-bit integer. -/
def countOf (xs : List Value) : Int64 :=
  Int64.ofNat xs.length

/-- A count is the number of items that were counted. -/
theorem summarizes_counted : Entries.Summarizes counted fun xs => .number (.int (countOf xs)) where
  first _ := rfl
  more xs x := by
    have hsucc : countOf xs + 1 = countOf (xs ++ [x]) := by
      rw [countOf, countOf, List.length_append, Int64.ofNat_add]
      rfl
    exact congrArg (fun n => Value.number (.int n)) hsucc

/-- The calls that compute the keys are made in turn, and the items are accumulated at the keys. By induction
on the items. -/
theorem groupFrom_run {call : Value → List Value → EvalM Value} {f : Value} {key : Value → Value}
    {items : List Value} {s' : RunState} : ∀ {s : RunState} (m : Entries),
      CallsInTurn call f s items (items.map key) s' →
        (groupFrom f m items).run call s = (.ok (.map (Entries.accumulate grown key m items)), s') := by
  induction items with
  | nil =>
    intro s m hturn
    cases hturn
    rfl
  | cons x items ih =>
    intro s m hturn
    cases hturn with
    | cons hx hrest =>
      have hgroups := ih (addToGroup m (key x) x) hrest
      rw [groupFrom, Action.run_call, EvalM.bind_apply, hx]
      dsimp only
      rw [hgroups, addToGroup_eq]
      rfl

end Sequence

/-- A map with a group of items at each key. -/
def Value.ofGroups (groups : List (Value × List Value)) : Value :=
  .map (groups.map fun g => (g.1, .vector g.2))

/-- The map of groups that a call returns. -/
theorem callAt_groupBy {h : Host} {n : Nat} {s s' : RunState} {f coll : Value} {items : List Value}
    {key : Value → Value} (hf : f.callable = true) (hitems : coll.items "group-by" = .ok items)
    (hturn : CallsInTurn (callAt h n) f s items (items.map key) s')
    (hkeys : ∀ x ∈ items, (key x).ClosureFree) (hregular : ∀ x ∈ items, (key x).Regular) :
    callAt h (n + 1) (.builtin (.sequence .groupBy)) [f, coll] s =
      (.ok (.ofGroups (Entries.groups key items)), s') := by
  have hcallable : f.asCallable "group-by" = .ok f := if_pos hf
  have hact : (Builtin.sequence .groupBy).act [f, coll] = Sequence.groupFrom f [] items := by
    change Sequence.through "group-by" (Sequence.groupFrom · []) f coll = _
    rw [Sequence.through, hcallable, hitems]
    rfl
  rw [callAt_builtin, hact, Sequence.groupFrom_run [] hturn,
    Entries.accumulate_eq Sequence.summarizes_grown hkeys hregular]
  rfl

/-- A map with the number of items in each group. -/
def Value.ofCounts (groups : List (Value × List Value)) : Value :=
  .map (groups.map fun g => (g.1, .number (.int (Sequence.countOf g.2))))

/-- The map of counts that a call returns. -/
theorem callAt_frequencies {coll : Value} {items : List Value} (hitems : coll.items "frequencies" = .ok items)
    (hfree : ∀ x ∈ items, x.ClosureFree) (hregular : ∀ x ∈ items, x.Regular) (h : Host) (n : Nat)
    (s : RunState) :
    callAt h (n + 1) (.builtin (.sequence .frequencies)) [coll] s =
      (.ok (.ofCounts (Entries.groups id items)), s) := by
  have hcounts : items.foldl Sequence.addToCount [] = Entries.accumulate Sequence.counted id [] items :=
    List.foldl_ext _ _ _ fun m x _ => Sequence.addToCount_eq m x
  have hfrequencies : Sequence.frequencies coll = .ok (.ofCounts (Entries.groups id items)) := by
    rw [Sequence.frequencies, hitems]
    change Except.ok (Value.map (items.foldl Sequence.addToCount [])) = _
    have hkeys : ∀ x ∈ items, (id x).ClosureFree := hfree
    have hregular' : ∀ x ∈ items, (id x).Regular := hregular
    rw [hcounts, Entries.accumulate_eq Sequence.summarizes_counted hkeys hregular']
    rfl
  exact callAt_of_act_ok rfl hfrequencies h n s

/-! ## The sum of the counts -/

theorem toInt_countOf {xs : List Value} (h : FitsInt64 xs.length) : (Sequence.countOf xs).toInt = xs.length := by
  rw [Sequence.countOf, ← Int64.ofInt_eq_ofNat, toInt_ofInt_of_fits h]

theorem clampInt64_of_fits {n : ℤ} (h : FitsInt64 n) : clampInt64 n = Int64.ofInt n := by
  rw [clampInt64, min_eq_right h.2, max_eq_right h.1]

namespace IsGrouping

variable {key : Value → Value} {items : List Value} {groups : List (Value × List Value)}
  (h : IsGrouping key items groups)
include h

/-- Every item is in exactly one group. -/
theorem sum_length : (groups.map fun g => g.2.length).sum = items.length := by
  rw [← h.perm.length_eq, List.length_flatMap]

/-- No group has more items than there are, so its count is exact. -/
theorem toInt_countOf (hfits : FitsInt64 items.length) {g : Value × List Value} (hg : g ∈ groups) :
    (Sequence.countOf g.2).toInt = g.2.length := by
  obtain ⟨p, -, hselected⟩ := h.members g hg
  have hle : g.2.length ≤ items.length := by
    rw [hselected]
    exact List.length_filter_le p items
  refine ToolLisp.toInt_countOf ?_
  rw [fitsInt64_iff] at hfits ⊢
  omega

/-- The counts add up to the number of items. All sums on the way are sums of fewer groups. -/
theorem runningSum_counts (hfits : FitsInt64 items.length) :
    runningSum 0 (groups.map fun g => Sequence.countOf g.2) = some (clampInt64 items.length) := by
  have hpart : ∀ part, part <+: groups → ((part.map fun g => Sequence.countOf g.2).map Int64.toInt).sum =
      (part.map fun g => g.2.length).sum := by
    intro part hpart
    have hexact : ∀ g ∈ part, (Sequence.countOf g.2).toInt = g.2.length :=
      fun g hg => h.toInt_countOf hfits (hpart.subset hg)
    clear hpart
    induction part with
    | nil => rfl
    | cons g part ih =>
      obtain ⟨hg, hrest⟩ := List.forall_mem_cons.1 hexact
      simp only [List.map_cons, List.sum_cons, hg, ih hrest, Nat.cast_add]
  have hprefix : ∀ p, p <+: (groups.map fun g => Sequence.countOf g.2) →
      FitsInt64 ((0 : Int64).toInt + (p.map Int64.toInt).sum) := by
    intro p hp
    obtain ⟨part, ⟨rest, hrest⟩, rfl⟩ := List.prefix_map_iff.1 hp
    have hall := h.sum_length
    rw [← hrest, List.map_append, List.sum_append] at hall
    rw [hpart part ⟨rest, hrest⟩, Int64.toInt_zero, zero_add]
    rw [fitsInt64_iff] at hfits ⊢
    omega
  obtain ⟨t, ht, hrun⟩ := runningSum_of_fits hprefix
  have htotal : t.toInt = items.length := by
    rw [ht, hpart groups List.prefix_rfl, h.sum_length, Int64.toInt_zero, zero_add]
  rw [hrun, clampInt64_of_fits hfits, ← htotal, Int64.ofInt_toInt]

end IsGrouping

theorem Value.size_of_items {name : String} {v : Value} {items : List Value} (h : v.items name = .ok items)
    (name' : String) : v.size name' = .ok items.length := by
  cases v with
  | nil | vector _ =>
    obtain rfl := Except.ok.inj h
    rfl
  | map _ | string _ =>
    obtain rfl := Except.ok.inj h
    rw [List.length_map]
    rfl
  | _ => cases h

/-! ## Distinct items -/

/-- The place of the first item that is the same as `x`. -/
def firstPlace (items : List Value) (x : Value) : Nat :=
  items.findIdx x.same

theorem firstPlace_lt_length {items : List Value} {x : Value} (hx : x ∈ items) :
    firstPlace items x < items.length :=
  List.findIdx_lt_length_of_exists ⟨x, hx, Value.same_self x⟩

/-- The first place of an item does not depend on what comes after it. -/
theorem firstPlace_append {items : List Value} {x : Value} (hx : x ∈ items) (rest : List Value) :
    firstPlace (items ++ rest) x = firstPlace items x := by
  have hlt := firstPlace_lt_length hx
  rw [firstPlace] at hlt
  rw [firstPlace, List.findIdx_append, if_pos hlt]
  rfl

/-- An item that is new stands behind all others. -/
theorem firstPlace_append_self {items : List Value} {x : Value} (hx : ∀ y ∈ items, x.same y = false) :
    firstPlace (items ++ [x]) x = items.length := by
  have hlength : items.findIdx x.same = items.length := List.findIdx_eq_length.2 hx
  rw [firstPlace, List.findIdx_append, if_neg (by omega)]
  simp [Value.same_self]

/-- Each of the items is listed once, in the order of their first places. -/
structure ListsOnce (items out : List Value) : Prop where
  mem : ∀ x, x ∈ out ↔ x ∈ items
  ordered : out.Pairwise fun a b => firstPlace items a < firstPlace items b

namespace ListsOnce

variable {items out : List Value} {x : Value} (h : ListsOnce items out)
include h

theorem nodup : out.Nodup := by
  refine h.ordered.imp ?_
  rintro a b hlt rfl
  exact Nat.lt_irrefl _ hlt

theorem ordered_append (rest : List Value) :
    out.Pairwise fun a b => firstPlace (items ++ rest) a < firstPlace (items ++ rest) b := by
  refine h.ordered.imp_of_mem fun ha hb hlt => ?_
  rwa [firstPlace_append ((h.mem _).1 ha), firstPlace_append ((h.mem _).1 hb)]

/-- An item that is known already is not listed again. -/
theorem known (hx : x ∈ items) : ListsOnce (items ++ [x]) out where
  mem y := by
    rw [h.mem, List.mem_append, List.mem_singleton]
    constructor
    · exact .inl
    · rintro (hy | rfl)
      · exact hy
      · exact hx
  ordered := h.ordered_append [x]

/-- A new item is listed at the end. -/
theorem new (hx : ∀ y ∈ items, x.same y = false) : ListsOnce (items ++ [x]) (out ++ [x]) where
  mem y := by rw [List.mem_append, List.mem_append, h.mem]
  ordered := by
    refine List.pairwise_append.2 ⟨h.ordered_append [x], List.pairwise_singleton .., fun a ha b hb => ?_⟩
    have hmem := (h.mem a).1 ha
    rw [List.mem_singleton.1 hb, firstPlace_append_self hx, firstPlace_append hmem]
    exact firstPlace_lt_length hmem

end ListsOnce

/-- Going through the items keeps a list of those that have been seen. -/
theorem distinctFrom_lists {rest : List Value} : ∀ {items done : List Value},
    (∀ x ∈ items ++ rest, x.ClosureFree) → ListsOnce items done.reverse →
      ListsOnce (items ++ rest) (Sequence.distinctFrom done rest) := by
  induction rest with
  | nil =>
    intro items done _ h
    rwa [List.append_nil]
  | cons x rest ih =>
    intro items done hfree h
    -- `x` joins the items that have been gone through
    have hsplit : items ++ x :: rest = (items ++ [x]) ++ rest := by simp
    rw [hsplit] at hfree ⊢
    rw [Sequence.distinctFrom]
    refine ih hfree ?_
    have hxfree : x.ClosureFree := hfree x (by simp)
    have hseen (y : Value) : y ∈ done ↔ y ∈ items := by rw [← h.mem, List.mem_reverse]
    by_cases hany : done.any x.same = true
    · rw [if_pos hany]
      obtain ⟨y, hy, hsame⟩ := List.any_eq_true.1 hany
      have hmem : y ∈ items := (hseen y).1 hy
      have hyfree : y.ClosureFree := hfree y (by simp [hmem])
      rw [← Value.eq_of_compare hxfree hyfree (Value.same_iff.1 hsame)] at hmem
      exact h.known hmem
    · rw [if_neg hany, List.reverse_cons]
      refine h.new fun y hy => ?_
      rw [Bool.eq_false_iff]
      intro hsame
      exact hany (List.any_eq_true.2 ⟨y, (hseen y).2 hy, hsame⟩)

/-- Items no two of which are the same are kept. -/
theorem distinctFrom_eq_self {items : List Value} : ∀ {done : List Value},
    ((done.reverse ++ items).Pairwise fun a b => b.same a = false) →
      Sequence.distinctFrom done items = done.reverse ++ items := by
  induction items with
  | nil =>
    intro done _
    rw [List.append_nil]
    rfl
  | cons x items ih =>
    intro done hnew
    have hany : ¬ done.any x.same = true := by
      intro hany
      obtain ⟨y, hy, hsame⟩ := List.any_eq_true.1 hany
      have hfalse := (List.pairwise_append.1 hnew).2.2 y (List.mem_reverse.2 hy) x List.mem_cons_self
      rw [hsame] at hfalse
      cases hfalse
    have hrest := @ih (x :: done) (by simpa using hnew)
    rw [Sequence.distinctFrom, if_neg hany, hrest]
    simp

/-- Items that are listed once are all kept. -/
theorem ListsOnce.distinctFrom_eq {items out : List Value} (h : ListsOnce items out)
    (hfree : ∀ x ∈ items, x.ClosureFree) : Sequence.distinctFrom [] out = out := by
  refine distinctFrom_eq_self (h.nodup.imp_of_mem fun {a b} ha hb hne => ?_)
  rw [Bool.eq_false_iff]
  intro hsame
  have hafree := hfree a ((h.mem a).1 ha)
  have hbfree := hfree b ((h.mem b).1 hb)
  exact hne (Value.eq_of_compare hbfree hafree (Value.same_iff.1 hsame)).symm

theorem callAt_distinct {coll : Value} {items : List Value} (hitems : coll.items "distinct" = .ok items)
    (h : Host) (n : Nat) (s : RunState) :
    callAt h (n + 1) (.builtin (.sequence .distinct)) [coll] s =
      (.ok (.vector (Sequence.distinctFrom [] items)), s) := by
  have hdistinct : Sequence.onItems "distinct" (Sequence.distinctFrom []) coll =
      .ok (.vector (Sequence.distinctFrom [] items)) := by
    rw [Sequence.onItems, hitems]
    rfl
  exact callAt_of_act_ok rfl hdistinct h n s

/-! ## Groups, counts and distinct items together -/

theorem callsInTurn_identity (h : Host) (n : Nat) (s : RunState) (items : List Value) :
    CallsInTurn (callAt h (n + 1)) (.builtin (.sequence .identity)) s items (items.map id) s := by
  induction items with
  | nil => exact .nil
  | cons x items ih => exact .cons rfl ih

theorem callAt_count {name : String} {coll : Value} {items : List Value} (hitems : coll.items name = .ok items)
    (h : Host) (n : Nat) (s : RunState) :
    callAt h (n + 1) (.builtin (.sequence .count)) [coll] s = (.ok (.ofNat items.length), s) := by
  have hcount : Sequence.itemCount coll = .ok (.ofNat items.length) := by
    rw [Sequence.itemCount, Value.size_of_items hitems]
    rfl
  exact callAt_of_act_ok rfl hcount h n s

theorem callAt_vals_ofCounts (groups : List (Value × List Value)) (h : Host) (n : Nat) (s : RunState) :
    callAt h (n + 1) (.builtin (.map .vals)) [.ofCounts groups] s =
      (.ok (.vector (Value.ofInts (groups.map fun g => Sequence.countOf g.2))), s) := by
  have hvals : MapFn.ofEntries "vals" (·.2) (.ofCounts groups) =
      .ok (.vector (Value.ofInts (groups.map fun g => Sequence.countOf g.2))) := by
    change Except.ok (Value.vector ((groups.map fun g => _).map _)) = _
    rw [Value.ofInts, List.map_map, List.map_map]
    rfl
  exact callAt_of_act_ok rfl hvals h n s

/-- The counts add up to the number of items. -/
theorem IsGrouping.callAt_sum {key : Value → Value} {items : List Value} {groups : List (Value × List Value)}
    (hgroups : IsGrouping key items groups) (hfits : FitsInt64 items.length) (h : Host) (n : Nat)
    (s : RunState) :
    callAt h (n + 2) (.builtin (.sequence .sum))
      [.vector (Value.ofInts (groups.map fun g => Sequence.countOf g.2))] s = (.ok (.ofNat items.length), s) := by
  rw [AddsUp.sum.callAt_eq, hgroups.runningSum_counts hfits]
  rfl

/-- The distinct items are the keys of the groups of equal items. -/
theorem ListsOnce.perm_keys {items out : List Value} {groups : List (Value × List Value)}
    (hout : ListsOnce items out) (hgroups : IsGrouping id items groups) : out.Perm (groups.map (·.1)) := by
  have hnodup : (groups.map (·.1)).Nodup := by
    refine hgroups.ordered.imp ?_
    rintro k l hlt rfl
    rw [Value.same_iff.1 (Value.same_self k)] at hlt
    cases hlt
  refine (List.perm_ext_iff_of_nodup hout.nodup hnodup).2 fun x => ?_
  rw [hout.mem, hgroups.keys]
  simp

/-- A function without effects gives the items of a collection keys, and there are no functions that a program
made and no NaN with the sign bit set in items or keys. Then `group-by` divides the items into groups: its keys
are those that items have, and with each key stand the items that have it, in their order. For the groups of
equal items, `frequencies` gives the length of each group, and these lengths add up to the number of items, which
is a 64-bit integer for any collection in memory. `distinct` lists the keys of these groups in the order of their
first places among the items, and a second time it changes nothing. -/
theorem groups_counts_and_distinct_agree (h : Host) (n : Nat) (s : RunState) (f coll : Value)
    (items : List Value) (key : Value → Value) (hf : f.callable = true)
    (hitems : coll.items "group-by" = .ok items)
    (hkey : ∀ x ∈ items, (callAt h n f [x]).PureFrom s (· = key x))
    (hkeys : ∀ x ∈ items, (key x).ClosureFree ∧ (key x).Regular)
    (hfree : ∀ x ∈ items, x.ClosureFree ∧ x.Regular) :
    (∃ groups s', callAt h (n + 1) (.builtin (.sequence .groupBy)) [f, coll] s = (.ok (.ofGroups groups), s') ∧
      s.SameEffects s' ∧ IsGrouping key items groups) ∧
    ∀ m, ∃ groups out,
      callAt h (m + 2) (.builtin (.sequence .groupBy)) [.builtin (.sequence .identity), coll] s =
        (.ok (.ofGroups groups), s) ∧
      IsGrouping id items groups ∧
      callAt h (m + 2) (.builtin (.sequence .frequencies)) [coll] s = (.ok (.ofCounts groups), s) ∧
      (FitsInt64 items.length → (∀ g ∈ groups, (Sequence.countOf g.2).toInt = g.2.length) ∧
        ∃ counts total, callAt h (m + 2) (.builtin (.map .vals)) [.ofCounts groups] s = (.ok counts, s) ∧
          callAt h (m + 2) (.builtin (.sequence .sum)) [counts] s = (.ok total, s) ∧
          callAt h (m + 2) (.builtin (.sequence .count)) [coll] s = (.ok total, s)) ∧
      callAt h (m + 2) (.builtin (.sequence .distinct)) [coll] s = (.ok (.vector out), s) ∧
      out.Perm (groups.map (·.1)) ∧
      (out.Pairwise fun a b => firstPlace items a < firstPlace items b) ∧
      callAt h (m + 2) (.builtin (.sequence .distinct)) [.vector out] s = (.ok (.vector out), s) := by
  obtain ⟨hkeys, hregularKeys⟩ := forall₂_and.1 hkeys
  obtain ⟨hfree, hregular⟩ := forall₂_and.1 hfree
  refine ⟨?_, fun m => ?_⟩
  · obtain ⟨s', hturn, hs'⟩ := CallsInTurn.of_pureFrom hkey
    exact ⟨_, s', callAt_groupBy hf hitems hturn hkeys hregularKeys, hs', groups_isGrouping hkeys hregularKeys⟩
  · have hids : ∀ x ∈ items, (id x).ClosureFree := hfree
    have hgroups : IsGrouping id items (Entries.groups id items) := groups_isGrouping hids hregular
    have hout : ListsOnce items (Sequence.distinctFrom [] items) :=
      @distinctFrom_lists items [] [] hfree ⟨fun _ => Iff.rfl, .nil⟩
    refine ⟨_, _, callAt_groupBy rfl hitems (callsInTurn_identity h m s items) hids hregular, hgroups,
      callAt_frequencies (Value.items_of_items hitems _) hfree hregular h _ s, fun hfits => ?_,
      callAt_distinct (Value.items_of_items hitems _) h _ s, hout.perm_keys hgroups, hout.ordered, ?_⟩
    · exact ⟨fun g hg => hgroups.toInt_countOf hfits hg, _, _, callAt_vals_ofCounts _ h _ s,
        hgroups.callAt_sum hfits h m s, callAt_count hitems h _ s⟩
    · rw [callAt_distinct rfl, hout.distinctFrom_eq hfree]

/-- Four pairs with the keys `1` and `1.0`, two of which are equal. -/
theorem groups_counts_and_distinct_agree_of_pairs :
    ∃ (h : Host) (s : RunState) (one float : Value) (a b c : Value) (groups groups' : List (Value × List Value)),
      one = .ofNat 1 ∧ float = .number (.float (.ofInt 1)) ∧ a = .vector [one, .keyword "a"] ∧
      b = .vector [float, .keyword "b"] ∧ c = .vector [one, .keyword "c"] ∧
      callAt h 2 (.builtin (.sequence .groupBy)) [.builtin (.sequence .first), .vector [c, b, a, b]] s =
        (.ok (.ofGroups groups), s) ∧
      Value.ofGroups groups = .map [(one, .vector [c, a]), (float, .vector [b, b])] ∧
      (groups.flatMap (·.2)).Perm [c, b, a, b] ∧
      callAt h 2 (.builtin (.sequence .frequencies)) [.vector [c, b, a, b]] s = (.ok (.ofCounts groups'), s) ∧
      Value.ofCounts groups' = .map [(a, .ofNat 1), (c, .ofNat 1), (b, .ofNat 2)] ∧
      callAt h 2 (.builtin (.sequence .distinct)) [.vector [c, b, a, b]] s = (.ok (.vector [c, b, a]), s) ∧
      [c, b, a].Perm (groups'.map (·.1)) := by
  let h : Host := .bare
  let s : RunState := .fresh
  let one : Value := .ofNat 1
  let float : Value := .number (.float (.ofInt 1))
  let a : Value := .vector [one, .keyword "a"]
  let b : Value := .vector [float, .keyword "b"]
  let c : Value := .vector [one, .keyword "c"]
  let key : Value → Value := fun v => if v.same b = true then float else one
  have hone : one.ClosureFree ∧ one.Regular :=
    ⟨Value.closureFree_of_parts_eq_nil rfl rfl, Value.regular_ofNat 1⟩
  have hfloat : float.ClosureFree ∧ float.Regular :=
    ⟨Value.closureFree_of_parts_eq_nil rfl rfl, Value.regular_number.2 (by decide +kernel)⟩
  have hkeys (v : Value) : (key v).ClosureFree ∧ (key v).Regular := by
    by_cases hv : v.same b = true
    · have hkey : key v = float := if_pos hv
      rwa [hkey]
    · have hkey : key v = one := if_neg hv
      rwa [hkey]
  have hpair (k : Value) (name : String) (hk : k.ClosureFree ∧ k.Regular) :
      (Value.vector [k, .keyword name]).ClosureFree ∧ (Value.vector [k, .keyword name]).Regular :=
    ⟨.intro rfl (by simp [Value.parts, hk.1]), by simp [hk.2]⟩
  have hkey : ∀ x ∈ [c, b, a, b], (callAt h 1 (.builtin (.sequence .first)) [x]).PureFrom s (· = key x) := by
    intro x hx
    simp only [List.mem_cons, List.not_mem_nil, or_false] at hx
    rcases hx with rfl | rfl | rfl | rfl <;> exact fun s' hs => ⟨_, s', rfl, rfl, hs⟩
  obtain ⟨⟨groups, s', hgroups, -, hdivides⟩, hequal⟩ :=
    groups_counts_and_distinct_agree h 1 s (.builtin (.sequence .first)) (.vector [c, b, a, b]) [c, b, a, b] key
      rfl rfl hkey (fun x _ => hkeys x) (by simp [a, b, c, hpair, hone, hfloat])
  obtain ⟨groups', out, -, -, hcounts, -, hout, hperm, -⟩ := hequal 0
  have hgroupBy : callAt h 2 (.builtin (.sequence .groupBy)) [.builtin (.sequence .first), .vector [c, b, a, b]] s =
      (.ok (.map [(one, .vector [c, a]), (float, .vector [b, b])]), s) := by rfl
  have hfrequencies : callAt h 2 (.builtin (.sequence .frequencies)) [.vector [c, b, a, b]] s =
      (.ok (.map [(a, .ofNat 1), (c, .ofNat 1), (b, .ofNat 2)]), s) := by rfl
  have hdistinct : callAt h 2 (.builtin (.sequence .distinct)) [.vector [c, b, a, b]] s =
      (.ok (.vector [c, b, a]), s) := by rfl
  obtain ⟨hgroupsEq, rfl⟩ := Prod.mk.inj (hgroupBy.symm.trans hgroups)
  obtain rfl := Value.vector.inj (Except.ok.inj (Prod.mk.inj (hdistinct.symm.trans hout)).1)
  refine ⟨h, s, one, float, a, b, c, groups, groups', rfl, rfl, rfl, rfl, rfl, hgroups,
    (Except.ok.inj hgroupsEq).symm, hdivides.perm, hcounts, ?_, hout, hperm⟩
  exact (Except.ok.inj (Prod.mk.inj (hfrequencies.symm.trans hcounts)).1).symm

end ToolLisp
