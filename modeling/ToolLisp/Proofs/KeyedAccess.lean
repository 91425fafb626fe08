import ToolLisp.Proofs.Evaluation
import ToolLisp.Proofs.OrderedMaps

/-!
# Keyed access

A map has a key as it is given, or only in its other spelling, or not at all. `Entries.Resolved` says which,
and with it under which spelling a value is found and under which one it is written. A part of a collection
is set in one of three ways, or it is refused (`MapFn.setPart_cases`). From these two case distinctions it
follows that all functions on keys agree on what a key denotes (`keyed_access_agrees`).

A vector is read at whole doubles and written at integers. Both are the same for indices below `2 ^ 53`,
because such an integer is a double (`Binary64.ofInt_isExact`).
-/

namespace ToolLisp

/-! ## Indices -/

namespace Binary64

/-- The magnitude of an integer, once its digits have been moved to the left until there are 53 of them. -/
theorem nearestMagnitude_natCast {n p : ℕ} (hge : 2 ^ 52 ≤ n * 2 ^ p) (hlt : n * 2 ^ p < 2 ^ 53)
    (hp : p ≤ 52) : nearestMagnitude n = (1074 - p) * 2 ^ 52 + n * 2 ^ p := by
  have hvalue : (n : ℚ) = ((n * 2 ^ p : ℕ) : ℚ) * 2 ^ (-p : ℤ) := by
    rw [Nat.cast_mul, Nat.cast_pow, Nat.cast_two, zpow_neg, zpow_natCast]
    field_simp
  have hexponent : ((-p : ℤ) + 1074).toNat = 1074 - p := by omega
  rw [hvalue, nearestMagnitude_mul (by omega) (by omega) hlt (.inl hge), hexponent]
  refine Nat.min_eq_right ?_
  unfold infinityMagnitude
  omega

theorem significand_of_digits {d p : ℕ} (hge : 2 ^ 52 ≤ d) (hlt : d < 2 ^ 53) (hp : p ≤ 52) :
    significand ((1074 - p) * 2 ^ 52 + d) = d ∧ exponent ((1074 - p) * 2 ^ 52 + d) = -p := by
  unfold significand exponent
  rw [Nat.pow_eq]
  constructor <;> split <;> omega

/-- A double whose digits behind the point are all zero is whole. -/
theorem whole_of_significand {m n p : ℕ} (hm : m < infinityMagnitude) (hs : significand m = n * 2 ^ p)
    (he : exponent m = -p) (h : m ≤ infinityMagnitude) :
    (signed false m h).truncate? = some (n : ℤ) ∧ (signed false m h).isWhole = true := by
  have hpart : integerPart .truncate false m = n := by
    unfold integerPart
    rw [hs, he]
    dsimp only
    split
    · obtain rfl : p = 0 := by omega
      simp
    · rw [neg_neg, Int.toNat_natCast, Nat.pow_eq]
      exact Nat.mul_div_cancel n (by positivity)
  refine ⟨?_, ?_⟩
  · rw [truncate?, if_neg hm.ne, hpart]
    rfl
  · have hrest : n * 2 ^ p % Nat.pow 2 (- -(p : ℤ)).toNat = 0 := by
      rw [neg_neg, Int.toNat_natCast, Nat.pow_eq]
      exact Nat.mul_mod_left n (2 ^ p)
    rw [isWhole, hs, he, hrest, decide_eq_true hm, beq_self_eq_true, Bool.or_true]
    rfl

/-- An integer with at most 53 digits is a double. -/
theorem ofInt_isExact {n : ℕ} (h : n < 2 ^ 53) :
    (ofInt n).truncate? = some (n : ℤ) ∧ (ofInt n).isWhole = true := by
  rcases Nat.eq_zero_or_pos n with rfl | hpos
  · decide +kernel
  have hlog : n.log2 < 53 := (Nat.log2_lt hpos.ne').2 h
  -- so many places the digits are moved to the left
  obtain ⟨p, hp⟩ : ∃ p, n.log2 + p = 52 := ⟨52 - n.log2, by omega⟩
  have hge : 2 ^ 52 ≤ n * 2 ^ p := by
    rw [← hp, pow_add]
    exact Nat.mul_le_mul_right _ (Nat.log2_self_le hpos.ne')
  have hlt : n * 2 ^ p < 2 ^ 53 := by
    rw [show 53 = n.log2 + 1 + p by omega, pow_add _ (n.log2 + 1)]
    exact Nat.mul_lt_mul_of_pos_right Nat.lt_log2_self (by positivity)
  have hp : p ≤ 52 := by omega
  have hfinite : (1074 - p) * 2 ^ 52 + n * 2 ^ p < infinityMagnitude := by
    unfold infinityMagnitude
    omega
  have hsign : decide ((n : ℤ) < 0) = false := by simp
  obtain ⟨hsignificand, hexponent⟩ := significand_of_digits hge hlt hp
  rw [ofInt_eq, Int.natAbs_natCast, nearestMagnitude_natCast hge hlt hp, hsign, ofMagnitude]
  simp only [Nat.min_eq_left hfinite.le]
  exact whole_of_significand hfinite hsignificand hexponent hfinite.le

end Binary64

/-- An integer that is not too large denotes itself as an index. -/
theorem Number.index?_int {i : Int64} (h₀ : 0 ≤ i.toInt) (h : i.toInt < 2 ^ 53) :
    (Number.int i).index? = some i.toInt.toNat := by
  obtain ⟨n, hn⟩ := Int.eq_ofNat_of_zero_le h₀
  rw [hn] at h
  have hexact := Binary64.ofInt_isExact (show n < 2 ^ 53 by omega)
  unfold index? toFloat
  simp only [hn, hexact.1, hexact.2]
  simp

/-! ## Spellings of keys -/

@[simp] theorem Value.closureFree_keyword (name : String) : (Value.keyword name).ClosureFree :=
  closureFree_of_parts_eq_nil rfl rfl

@[simp] theorem Value.closureFree_string (s : String) : (Value.string s).ClosureFree :=
  closureFree_of_parts_eq_nil rfl rfl

/-- A keyword and the string of its name, in either order. The empty string has no other spelling, but the
keyword of the empty name has it as its own. -/
def Value.Counterparts (k l : Value) : Prop :=
  ∃ name, k = .keyword name ∧ l = .string name ∨ k = .string name ∧ l = .keyword name

namespace Entries

theorem otherSpelling?_eq_some {k l : Value} (h : otherSpelling? k = some l) : k.Counterparts l := by
  unfold otherSpelling? at h
  split at h
  · next name => exact ⟨name, .inl ⟨rfl, (Option.some.inj h).symm⟩⟩
  · next s =>
    split at h
    · cases h
    · exact ⟨s, .inr ⟨rfl, (Option.some.inj h).symm⟩⟩
  · cases h

theorem same_otherSpelling {k l : Value} (h : otherSpelling? k = some l) (j : Value) :
    l.same j = true ↔ j = l := by
  obtain ⟨name, ⟨-, rfl⟩ | ⟨-, rfl⟩⟩ := otherSpelling?_eq_some h
  · exact Value.string_same_iff
  · exact Value.keyword_same_iff

theorem not_same_otherSpelling {k l : Value} (h : otherSpelling? k = some l) : ¬ k.same l = true := by
  obtain ⟨name, ⟨rfl, rfl⟩ | ⟨rfl, rfl⟩⟩ := otherSpelling?_eq_some h
  · exact mt Value.keyword_same_iff.1 (by simp)
  · exact mt Value.string_same_iff.1 (by simp)

theorem otherSpelling?_inj {j k l : Value} (hj : otherSpelling? j = some l)
    (hk : otherSpelling? k = some l) : j = k := by
  obtain ⟨a, ⟨rfl, rfl⟩ | ⟨rfl, rfl⟩⟩ := otherSpelling?_eq_some hj
  · obtain ⟨b, ⟨rfl, hl⟩ | ⟨rfl, hl⟩⟩ := otherSpelling?_eq_some hk
    · cases hl; rfl
    · cases hl
  · obtain ⟨b, ⟨rfl, hl⟩ | ⟨rfl, hl⟩⟩ := otherSpelling?_eq_some hk
    · cases hl
    · cases hl; rfl

/-- The other spelling of the other spelling is the key itself. -/
theorem otherSpelling?_trans {j k l : Value} (hj : otherSpelling? j = some k)
    (hk : otherSpelling? k = some l) : j = l := by
  obtain ⟨a, ⟨rfl, ha⟩ | ⟨rfl, ha⟩⟩ := otherSpelling?_eq_some hj
  · obtain ⟨b, ⟨hb, rfl⟩ | ⟨hb, rfl⟩⟩ := otherSpelling?_eq_some hk
    · cases ha.symm.trans hb
    · cases ha.symm.trans hb; rfl
  · obtain ⟨b, ⟨hb, rfl⟩ | ⟨hb, rfl⟩⟩ := otherSpelling?_eq_some hk
    · cases ha.symm.trans hb; rfl
    · cases ha.symm.trans hb

theorem contains_eq (m : Entries) (k : Value) : contains m k = (get? m k).isSome := by
  unfold contains get?
  rw [Option.isSome_map, List.isSome_find?]

theorem get?_congr {k l : Value} (h : k.same l = true) (m : Entries) : get? m k = get? m l := by
  have hsame (e : Value × Value) : k.same e.1 = l.same e.1 :=
    congrArg (· == .eq) (Value.compare_congr_left (Value.same_iff.1 h) e.1)
  unfold get?
  simp only [hsame]

/-- How a map has a key: the spelling under which the key is written, and the value that is found. -/
inductive Resolved (m : Entries) (k : Value) : Value → Option Value → Prop
  /-- The map has the key as it is given. -/
  | given {v : Value} : get? m k = some v → Resolved m k k (some v)
  /-- The map has the key in its other spelling only. -/
  | respelled {l v : Value} : get? m k = none → otherSpelling? k = some l → get? m l = some v →
    Resolved m k l (some v)
  /-- The map does not have the key. -/
  | missing : get? m k = none → (∀ l, otherSpelling? k = some l → get? m l = none) → Resolved m k k none

theorem resolved (m : Entries) (k : Value) : Resolved m k (resolve m k) (find? m k) := by
  unfold resolve find?
  rw [contains_eq]
  cases hk : get? m k with
  | some v => exact .given hk
  | none =>
    cases ho : otherSpelling? k with
    | none => exact .missing hk fun l hl => by rw [ho] at hl; cases hl
    | some l =>
      simp only [Option.isSome_none, Bool.false_eq_true, if_false, contains_eq, Option.bind_some]
      cases hl : get? m l with
      | some v => exact .respelled hk ho hl
      | none => exact .missing hk fun l' hl' => by rw [ho] at hl'; cases hl'; exact hl

/-- What is found at a key is what the map has at the spelling that it uses. -/
theorem find?_eq_get?_resolve (m : Entries) (k : Value) : find? m k = get? m (resolve m k) := by
  have h := resolved m k
  generalize resolve m k = r, find? m k = o at h ⊢
  cases h with
  | given hk => exact hk.symm
  | respelled _ _ hl => exact hl.symm
  | missing hk _ => exact hk.symm

theorem resolve_eq_or (m : Entries) (k : Value) :
    resolve m k = k ∨ otherSpelling? k = some (resolve m k) := by
  have h := resolved m k
  generalize resolve m k = r, find? m k = o at h ⊢
  cases h with
  | given => exact .inl rfl
  | respelled _ ho _ => exact .inr ho
  | missing => exact .inl rfl

theorem resolve_closureFree (m : Entries) {k : Value} (hk : k.ClosureFree) :
    (resolve m k).ClosureFree := by
  rcases resolve_eq_or m k with h | h
  · rwa [h]
  · obtain ⟨name, ⟨-, hl⟩ | ⟨-, hl⟩⟩ := otherSpelling?_eq_some h
    · rw [hl]
      exact Value.closureFree_string name
    · rw [hl]
      exact Value.closureFree_keyword name

/-- Keys that hold no function that a program made are found under themselves only. -/
theorem mem_of_get?_of_closureFree {m : Entries} {k v : Value} (hm : ∀ e ∈ m, e.1.ClosureFree)
    (hk : k.ClosureFree) (h : get? m k = some v) : (k, v) ∈ m := by
  obtain ⟨l, hl, hmem⟩ := mem_of_get? h
  rwa [Value.eq_of_compare hk (hm _ hmem) (Value.same_iff.1 hl)]

/-- A key is looked for as it is given, and then in its other spelling. -/
theorem find?_of_get? {m : Entries} {k v : Value} (h : get? m k = some v) : find? m k = some v := by
  unfold find?
  rw [h]

theorem find?_of_otherSpelling {m : Entries} {k l : Value} (hk : get? m k = none)
    (ho : otherSpelling? k = some l) : find? m k = get? m l := by
  unfold find?
  rw [hk, ho]
  rfl

theorem find?_eq_none_iff {m : Entries} {k : Value} :
    find? m k = none ↔ get? m k = none ∧ ∀ l, otherSpelling? k = some l → get? m l = none := by
  have h := resolved m k
  generalize resolve m k = r, find? m k = o at h ⊢
  cases h with
  | given hk => simp [hk]
  | respelled _ ho hl =>
    refine iff_of_false (by simp) fun hnone => ?_
    rw [hnone.2 _ ho] at hl
    cases hl
  | missing hk hl => exact iff_of_true rfl ⟨hk, hl⟩

theorem get?_insert_self (k v : Value) (m : Entries) : get? (insert k v m) k = some v := by
  rw [get?_insert, if_pos (Value.same_self k)]

/-- What is written at a key as it is given is found at that key. -/
theorem find?_insert_self (k v : Value) (m : Entries) : find? (insert k v m) k = some v :=
  find?_of_get? (get?_insert_self k v m)

/-- What is written at the spelling that a map uses is found at the key. -/
theorem find?_insert_resolve (k v : Value) (m : Entries) :
    find? (insert (resolve m k) v m) k = some v := by
  have h := resolved m k
  generalize resolve m k = r, find? m k = o at h ⊢
  cases h with
  | given => exact find?_insert_self k v m
  | respelled hk ho _ =>
    have hnone : get? (insert r v m) k = none := by
      rw [get?_insert, if_neg (not_same_otherSpelling ho), hk]
    rw [find?_of_otherSpelling hnone ho, get?_insert_self]
  | missing => exact find?_insert_self k v m

end Entries

/-! ## Computations without effects -/

/-- The computation that only has a result, or fails. -/
def EvalM.ofChecked {α : Type} (x : Checked α) : EvalM α :=
  fun s => (x.mapError .error, s)

theorem Action.run_ofChecked {α : Type} (call : Value → List Value → EvalM Value) (x : Checked α) :
    (Action.ofChecked x).run call = .ofChecked x := by
  cases x <;> rfl

/-- A builtin function that calls nothing has its result, or it fails. -/
theorem callAt_of_act {f : Builtin} {args : List Value} {x : Checked Value}
    (hact : f.act args = .ofChecked x) (h : Host) (n : Nat) :
    callAt h (n + 1) (.builtin f) args = .ofChecked x := by
  change (f.act args).run (callAt h n) = _
  rw [hact, Action.run_ofChecked]

theorem callAt_of_act_ok {f : Builtin} {args : List Value} {x : Checked Value} {v : Value}
    (hact : f.act args = .ofChecked x) (hx : x = .ok v) (h : Host) (n : Nat) (s : RunState) :
    callAt h (n + 1) (.builtin f) args s = (.ok v, s) := by
  rw [callAt_of_act hact, hx]
  rfl

/-- A builtin function that only calls another one. -/
theorem callAt_of_act_invoke {f : Builtin} {args args' : List Value} {g : Value}
    (hact : f.act args = .invoke g args') (h : Host) (n : Nat) :
    callAt h (n + 1) (.builtin f) args = callAt h n g args' := by
  change (f.act args).run (callAt h n) = _
  rw [hact, Action.run_invoke]

/-- A computation that succeeds with what is made from its result without effects. -/
theorem EvalM.bind_ofChecked_eq_ok {α β : Type} {x : EvalM α} {g : α → Checked β} {s s' : RunState}
    {b : β} (h : (x >>= fun a => EvalM.ofChecked (g a)) s = (.ok b, s')) :
    ∃ a, x s = (.ok a, s') ∧ g a = .ok b := by
  rw [EvalM.bind_apply] at h
  rcases hx : x s with ⟨e | a, s₁⟩
  · rw [hx] at h
    cases h
  · rw [hx] at h
    change ((g a).mapError Signal.error, s₁) = _ at h
    obtain ⟨hg, rfl⟩ := Prod.mk.inj h
    refine ⟨a, rfl, ?_⟩
    cases hga : g a with
    | error e => rw [hga] at hg; cases hg
    | ok b' => rw [hga] at hg; cases hg; rfl

/-! ## Setting a part -/

namespace MapFn

open Entries

/-- `c'` is the collection `c` with the part at `k` set to `v`. -/
inductive PartSet (k v : Value) : Value → Value → Prop
  /-- An entry of a map. -/
  | entry (m : Entries) : PartSet k v (.map m) (.map (Entries.insert k v m))
  /-- The first entry of the map that `nil` becomes. -/
  | first : PartSet k v .nil (.map (Entries.insert k v []))
  /-- An item of a vector, or one more item. -/
  | item {i : Int64} {items items' : List Value} : k = .number (.int i) → 0 ≤ i.toInt →
    i.toInt ≤ items.length → items'[i.toInt.toNat]? = some v →
    (∀ j, j ≠ i.toInt.toNat → items'[j]? = items[j]?) → PartSet k v (.vector items) (.vector items')

/-- Why a part is not set. -/
inductive Refusal where
  /-- What has no parts. -/
  | noCollection (coll : Value)
  /-- A key that is no index of a vector of that length. -/
  | noIndex (k : Value) (length : Nat)

/-- The error of a function of that name. -/
def Refusal.error (name : String) : Refusal → EvalError
  | .noCollection coll => .type (.expected name "a map or vector" coll)
  | .noIndex k length => .type (.index name k length)

/-- A part is set, or it is refused, whatever the function is called that does it. -/
theorem setPart_cases (coll k v : Value) :
    (∃ c', PartSet k v coll c' ∧ ∀ name, setPart name coll k v = .ok c') ∨
      ∃ r : Refusal, ∀ name, setPart name coll k v = .error (r.error name) := by
  cases coll with
  | map m => exact .inl ⟨_, .entry m, fun _ => rfl⟩
  | nil => exact .inl ⟨_, .first, fun _ => rfl⟩
  | vector items =>
    have hrefused (h : ∀ name, setPart name (.vector items) k v = badIndex name k items) :
        ∃ r : Refusal, ∀ name, setPart name (.vector items) k v = .error (r.error name) :=
      ⟨.noIndex k items.length, h⟩
    cases k with
    | number n =>
      cases n with
      | int i =>
        by_cases hinside : 0 ≤ i.toInt ∧ i.toInt.toNat < items.length
        · refine .inl ⟨_, .item rfl hinside.1 (by omega) ?_ ?_, fun name => if_pos hinside⟩
          · rw [List.getElem?_set_self hinside.2]
          · exact fun j hj => List.getElem?_set_ne (Ne.symm hj)
        · by_cases hend : i.toInt = items.length
          · refine .inl ⟨_, .item rfl (by omega) hend.le ?_ ?_,
              fun name => (if_neg hinside).trans (if_pos hend)⟩
            · rw [hend, Int.toNat_natCast, List.getElem?_append_right le_rfl, Nat.sub_self]
              rfl
            · intro j hj
              rw [hend, Int.toNat_natCast] at hj
              rw [List.getElem?_append]
              split
              · rfl
              · rw [List.getElem?_eq_none (by simp; omega), List.getElem?_eq_none (by omega)]
          · exact .inr (hrefused fun name => (if_neg hinside).trans (if_neg hend))
      | float x => exact .inr (hrefused fun _ => rfl)
    | _ => exact .inr (hrefused fun _ => rfl)
  | _ => exact .inr ⟨.noCollection _, fun _ => rfl⟩

theorem setPart_eq_ok {name : String} {coll k v c' : Value} (h : setPart name coll k v = .ok c') :
    PartSet k v coll c' := by
  rcases setPart_cases coll k v with ⟨c, hset, hok⟩ | ⟨r, hr⟩
  · rw [hok name] at h
    cases h
    exact hset
  · rw [hr name] at h
    cases h

/-- A part that is set at a key as it is given is found at that key. -/
theorem PartSet.get?_given {coll k v c' : Value} (h : PartSet k v coll c')
    (hshort : ∀ items, coll = .vector items → items.length < 2 ^ 53) : c'.get? k = some v := by
  cases h with
  | entry m => exact find?_insert_self k v m
  | first => exact find?_insert_self k v []
  | @item i items items' hk h₀ hle hi _ =>
    have hlength := hshort items rfl
    have hindex := Number.index?_int h₀ (show i.toInt < 2 ^ 53 by omega)
    rw [hk]
    change (Number.int i).index?.bind (fun i => items'[i]?) = _
    rw [hindex]
    exact hi

/-- So is a part that is set at the key under which the collection is written. -/
theorem PartSet.get?_written {coll k v c' : Value} (h : PartSet (writtenKey coll k) v coll c')
    (hshort : ∀ items, coll = .vector items → items.length < 2 ^ 53) : c'.get? k = some v := by
  cases coll with
  | map m =>
    cases h with
    | entry => exact find?_insert_resolve k v m
  | _ => exact h.get?_given hshort

/-! ## Selecting entries -/

theorem get?_copyEntry (m picked : Entries) (k l : Value) :
    get? (copyEntry m picked k) l =
      if l.same (resolve m k) = true ∧ (find? m k).isSome = true then get? m l else get? picked l := by
  unfold copyEntry
  dsimp only
  rw [← find?_eq_get?_resolve]
  cases hv : find? m k with
  | none => simp
  | some v =>
    dsimp only
    rw [get?_insert]
    by_cases hl : l.same (resolve m k) = true
    · have hget : get? m l = some v := by
        rw [get?_congr hl, ← find?_eq_get?_resolve, hv]
      rw [if_pos hl, if_pos ⟨hl, rfl⟩, hget]
    · rw [if_neg hl, if_neg fun h => hl h.1]

/-- What is picked is what the map has there. -/
theorem get?_selected_eq_some (m : Entries) (ks : List Value) (l v : Value)
    (h : get? (ks.foldl (copyEntry m) []) l = some v) : get? m l = some v := by
  revert h
  refine List.foldlRecOn ks (copyEntry m)
    (motive := fun picked => get? picked l = some v → get? m l = some v) (fun h => by cases h)
    fun picked ih k _ h => ?_
  rw [get?_copyEntry] at h
  split at h
  · exact h
  · exact ih h

theorem get?_selected_eq_none {m : Entries} (ks : List Value) {l : Value} (h : get? m l = none) :
    get? (ks.foldl (copyEntry m) []) l = none := by
  refine Option.eq_none_iff_forall_ne_some.2 fun v hpicked => ?_
  rw [get?_selected_eq_some m ks l v hpicked] at h
  cases h

/-- What has been picked stays so. -/
theorem get?_selected_of_eq {m picked : Entries} {l : Value} (ks : List Value)
    (h : get? picked l = get? m l) : get? (ks.foldl (copyEntry m) picked) l = get? m l := by
  refine List.foldlRecOn ks (copyEntry m) (motive := fun picked => get? picked l = get? m l) h
    fun picked ih k _ => ?_
  rw [get?_copyEntry]
  split
  · rfl
  · exact ih

/-- At each given key the map and what is picked from it have the same, in the spelling of the map. -/
theorem get?_selected_resolve {m : Entries} {ks : List Value} {k : Value} (hk : k ∈ ks) :
    get? (ks.foldl (copyEntry m) []) (resolve m k) = get? m (resolve m k) := by
  cases hv : get? m (resolve m k) with
  | none => exact get?_selected_eq_none ks hv
  | some v =>
    obtain ⟨before, after, rfl⟩ := List.append_of_mem hk
    have hfound : (find? m k).isSome = true := by rw [find?_eq_get?_resolve, hv]; rfl
    rw [← hv, List.foldl_append, List.foldl_cons]
    refine get?_selected_of_eq after ?_
    rw [get?_copyEntry, if_pos ⟨Value.same_self _, hfound⟩]

/-- At each given key the same is found in the map and in what is picked from it. -/
theorem find?_selected {m : Entries} {ks : List Value} {k : Value} (hk : k ∈ ks) :
    find? (ks.foldl (copyEntry m) []) k = find? m k := by
  have hresolve := get?_selected_resolve (m := m) hk
  have h := resolved m k
  generalize resolve m k = r, find? m k = o at h hresolve ⊢
  cases h with
  | given hget => exact find?_of_get? (hresolve.trans hget)
  | respelled hget ho hl =>
    exact (find?_of_otherSpelling (get?_selected_eq_none ks hget) ho).trans (hresolve.trans hl)
  | missing hget hl =>
    exact find?_eq_none_iff.2
      ⟨get?_selected_eq_none ks hget, fun l ho => get?_selected_eq_none ks (hl l ho)⟩

/-- What is picked are entries of the map, under their own keys. -/
theorem mem_of_mem_selected {m : Entries} {ks : List Value} (hm : ∀ e ∈ m, e.1.ClosureFree)
    (hks : ∀ k ∈ ks, k.ClosureFree) : ∀ e ∈ ks.foldl (copyEntry m) [], e ∈ m := by
  refine List.foldlRecOn ks (copyEntry m) (motive := fun picked => ∀ e ∈ picked, e ∈ m)
    (fun e he => by cases he) fun picked ih k hk e he => ?_
  unfold copyEntry at he
  dsimp only at he
  split at he
  · next v hv =>
    rcases mem_insert he with rfl | he
    · exact mem_of_get?_of_closureFree hm (resolve_closureFree m (hks k hk)) hv
    · exact ih e he
  · exact ih e he

/-! ## Calls of `update` -/

/-- `update` calls a function with the old value and sets the part to what the function returns. -/
theorem callAt_update (h : Host) (n : Nat) {f : Value} (hf : f.callable = true) (coll k : Value)
    (extra : List Value) :
    callAt h (n + 1) (.builtin (.map .update)) (coll :: k :: f :: extra) =
      callAt h n f ((coll.get? k).getD .nil :: extra) >>= fun x =>
        .ofChecked (setPart "update" coll (writtenKey coll k) x) := by
  have hcallable : f.asCallable "update" = .ok f := if_pos hf
  have hact : changePart coll k f extra = .call f ((coll.get? k).getD .nil :: extra) fun x =>
      .ofChecked (setPart "update" coll (writtenKey coll k) x) := by
    unfold changePart
    rw [hcallable]
    rfl
  change (changePart coll k f extra).run (callAt h n) = _
  rw [hact, Action.run_call]
  simp only [Action.run_ofChecked]

/-- A call of `update` that succeeds has called its function and set the part to what that returned. -/
theorem callAt_update_eq_ok {h : Host} {n : Nat} {s s' : RunState} {coll k f c' : Value}
    {extra : List Value}
    (hrun : callAt h (n + 1) (.builtin (.map .update)) (coll :: k :: f :: extra) s = (.ok c', s')) :
    ∃ x, callAt h n f ((coll.get? k).getD .nil :: extra) s = (.ok x, s') ∧
      setPart "update" coll (writtenKey coll k) x = .ok c' := by
  by_cases hf : f.callable = true
  · rw [callAt_update h n hf] at hrun
    exact EvalM.bind_ofChecked_eq_ok hrun
  · have hcallable : f.asCallable "update" = f.unexpected "update" "a function" := if_neg hf
    have hact : changePart coll k f extra = .fail (.type (.expected "update" "a function" f)) := by
      unfold changePart
      rw [hcallable]
      rfl
    change (changePart coll k f extra).run (callAt h n) s = _ at hrun
    rw [hact] at hrun
    cases hrun

/-! ## Agreement -/

theorem assoc_act (coll k x : Value) :
    (Builtin.map .assoc).act [coll, k, x] = .ofChecked (setPart "assoc" coll k x) := by
  have hparts : setParts coll k x [] = setPart "assoc" coll k x := by
    change (setPart "assoc" coll k x >>= fun c => pure c) = _
    exact bind_pure _
  exact congrArg Action.ofChecked hparts

theorem assocIn_act (coll k x : Value) :
    (Builtin.map .assocIn).act [coll, .vector [k], x] =
      .ofChecked (setPart "assoc-in" coll (writtenKey coll k) x) :=
  rfl

end MapFn

theorem Action.eq_ok_of_ofChecked {α : Type} {x : Checked α} {a : α} (h : Action.ofChecked x = .done a) :
    x = .ok a := by
  cases x with
  | error e => cases h
  | ok b => cases h; rfl

/-- A value has a part at a key if and only if one is found there. -/
theorem Value.hasKey_iff (c k : Value) : c.hasKey k = true ↔ ∃ v, c.get? k = some v := by
  rw [← Option.isSome_iff_exists]
  cases c with
  | map m => exact Iff.rfl
  | vector items =>
    cases k with
    | number n =>
      simp only [hasKey, get?]
      cases n.index? with
      | none => exact Iff.rfl
      | some i => simp
    | _ => exact iff_of_false (by simp [hasKey]) (by simp [get?])
  | _ => exact iff_of_false (by simp [hasKey]) (by simp [get?])

open MapFn in
/-- All functions on keys agree on what a key denotes. What is found in a map is what the map has at the
spelling that it uses. A value has a key if and only if something is found there. `select-keys` picks entries
of its map, and at the given keys the same is found in both. What `assoc`, `assoc-in` and `update` write at a
key is found there, in maps and in vectors that are shorter than `2 ^ 53`, and a map never refuses it. -/
theorem keyed_access_agrees :
    (∀ (m : Entries) (k : Value), Entries.find? m k = Entries.get? m (Entries.resolve m k)) ∧
    (∀ c k : Value, c.hasKey k = true ↔ ∃ v, c.get? k = some v) ∧
    (∀ (m : Entries) (ks : List Value), (∀ e ∈ m, e.1.ClosureFree) → (∀ k ∈ ks, k.ClosureFree) →
      ∃ picked, (Builtin.map .selectKeys).act [.map m, .vector ks] = .done (.map picked) ∧
        (∀ e ∈ picked, e ∈ m) ∧ ∀ k ∈ ks, Entries.find? picked k = Entries.find? m k) ∧
    (∀ c k x : Value, (∀ items, c = .vector items → items.length < 2 ^ 53) →
      (∀ c', (Builtin.map .assoc).act [c, k, x] = .done c' → c'.get? k = some x) ∧
      (∀ c', (Builtin.map .assocIn).act [c, .vector [k], x] = .done c' → c'.get? k = some x) ∧
      ∀ h n s s' f extra c',
        callAt h (n + 1) (.builtin (.map .update)) (c :: k :: f :: extra) s = (.ok c', s') →
          ∃ y, callAt h n f ((c.get? k).getD .nil :: extra) s = (.ok y, s') ∧ c'.get? k = some y) ∧
    ∀ (m : Entries) (k x : Value),
      (∃ m', (Builtin.map .assoc).act [.map m, k, x] = .done (.map m')) ∧
      (∃ m', (Builtin.map .assocIn).act [.map m, .vector [k], x] = .done (.map m')) ∧
      ∀ h n s s' f extra y, f.callable = true →
        callAt h n f ((Entries.find? m k).getD .nil :: extra) s = (.ok y, s') →
          ∃ m', callAt h (n + 1) (.builtin (.map .update)) (.map m :: k :: f :: extra) s =
            (.ok (.map m'), s') := by
  refine ⟨Entries.find?_eq_get?_resolve, Value.hasKey_iff, fun m ks hm hks => ?_, fun c k x hshort => ?_,
    fun m k x => ?_⟩
  · exact ⟨_, rfl, mem_of_mem_selected hm hks, fun k hk => find?_selected hk⟩
  · refine ⟨fun c' h => ?_, fun c' h => ?_, fun h n s s' f extra c' hrun => ?_⟩
    · rw [assoc_act] at h
      exact (setPart_eq_ok (Action.eq_ok_of_ofChecked h)).get?_given hshort
    · rw [assocIn_act] at h
      exact (setPart_eq_ok (Action.eq_ok_of_ofChecked h)).get?_written hshort
    · obtain ⟨y, hcall, hset⟩ := callAt_update_eq_ok hrun
      exact ⟨y, hcall, (setPart_eq_ok hset).get?_written hshort⟩
  · refine ⟨⟨_, rfl⟩, ⟨_, rfl⟩, fun h n s s' f extra y hf hcall => ?_⟩
    have hold : (Value.map m).get? k = Entries.find? m k := rfl
    rw [callAt_update h n hf, EvalM.bind_apply, hold, hcall]
    exact ⟨_, rfl⟩

/-- A map has one name as a keyword, one as a string, and one in both spellings. A vector grows at its end. -/
theorem keyed_access_agrees_across_spellings :
    (∃ picked, (Builtin.map .selectKeys).act
        [.map [(.keyword "a", .ofNat 1), (.keyword "c", .ofNat 2), (.string "b", .ofNat 3),
          (.string "c", .ofNat 4)], .vector [.string "a", .keyword "b", .string "c", .keyword "d"]] =
        .done (.map picked) ∧
      Entries.find? picked (.string "a") = some (.ofNat 1) ∧
      Entries.find? picked (.keyword "b") = some (.ofNat 3) ∧
      Entries.find? picked (.string "c") = some (.ofNat 4)) ∧
    (∃ c', (Builtin.map .assoc).act [.vector [.nil], .ofNat 1, .bool true] = .done c' ∧
      c'.get? (.ofNat 1) = some (.bool true)) ∧
    ∃ (h : Host) (s : RunState) (c' : Value),
      callAt h 2 (.builtin (.map .update))
        [.map [(.string "n", .ofNat 1)], .keyword "n", .builtin (.number .inc)] s = (.ok c', s) ∧
      c'.get? (.keyword "n") = some (.ofNat 2) := by
  obtain ⟨-, -, hselect, hwrite, -⟩ := keyed_access_agrees
  refine ⟨?_, ?_, ?_⟩
  · obtain ⟨picked, hact, -, hfind⟩ := hselect
      [(.keyword "a", .ofNat 1), (.keyword "c", .ofNat 2), (.string "b", .ofNat 3),
        (.string "c", .ofNat 4)] [.string "a", .keyword "b", .string "c", .keyword "d"]
      (by simp) (by simp)
    refine ⟨picked, hact, ?_, ?_, ?_⟩
    · exact (hfind _ (by simp)).trans rfl
    · exact (hfind _ (by simp)).trans rfl
    · exact (hfind _ (by simp)).trans rfl
  · refine ⟨_, rfl, (hwrite (.vector [.nil]) (.ofNat 1) (.bool true) ?_).1 _ rfl⟩
    intro items hitems
    cases hitems
    decide
  · let h : Host := .bare
    obtain ⟨y, hcall, hget⟩ := (hwrite (.map [(.string "n", .ofNat 1)]) (.keyword "n") .nil
      (fun _ hm => by cases hm)).2.2 h 1 .fresh _ (.builtin (.number .inc)) [] _ rfl
    refine ⟨h, .fresh, _, rfl, hget.trans ?_⟩
    exact congrArg some (Except.ok.inj (Prod.mk.inj hcall).1).symm

end ToolLisp
