import ToolLisp.Proofs.KeyedAccess
import ToolLisp.Value.Equality

/-!
# Equality of values

Programs compare numbers by what they are worth and collections by what they hold. Of two maps of the same
size, the entries of the first are looked up in the second. If both are in order, then their entries stand
side by side with the same keys (`Entries.forall₂_of_found`), so equality comes to a relation of numbers at
the same places (`Value.equal_iff_matched`). Its laws are those of the relation of numbers, lifted once for
all relations (`Matched.symm`, `Matched.trans`).

So equality is symmetric, and reflexive on values without NaN (`equal_is_symmetric_and_reflexive`). It is not
transitive, because two integers can have the same nearest double. Nothing else is in the way: of two values
that are equal to a third, the one is equal to the other unless they differ in such integers
(`equal_is_transitive_up_to_rounding`).
-/

namespace ToolLisp

open Std (LawfulEqCmp OrientedCmp ReflCmp TransCmp)

/-! ## Numbers -/

namespace Binary64

theorem isNaN_eq_isNone (x : Binary64) : x.isNaN = x.place?.isNone := by
  cases x with
  | nan => rfl
  | signed negative m h => cases negative <;> rfl

/-- Doubles are equal if they stand at the same place. -/
theorem numEq_iff {x y : Binary64} : x.numEq y = true ↔ ∃ q, x.place? = some q ∧ y.place? = some q := by
  rw [numEq, compare?]
  cases x.place? with
  | none => simp
  | some p =>
    cases y.place? with
    | none => simp
    | some q =>
      rw [beq_iff_eq, Option.some.injEq, Std.compare_eq_iff_eq]
      refine ⟨fun h => ⟨q, h ▸ rfl, rfl⟩, ?_⟩
      rintro ⟨r, ⟨rfl⟩, ⟨rfl⟩⟩
      rfl

/-- Below `2 ^ 53` the next integer is another double. -/
theorem nearestMagnitude_lt_succ {n : ℕ} (h : n < 2 ^ 53) :
    nearestMagnitude n < nearestMagnitude (n + 1 : ℕ) := by
  refine lt_of_le_of_ne (nearestMagnitude_mono (Nat.cast_nonneg n) (Nat.cast_le.2 n.le_succ)) fun heq => ?_
  have hsame : ofInt n = ofInt (n + 1 : ℕ) := by
    have hn : ¬ ((n : ℕ) : ℤ) < 0 := by omega
    have hn' : ¬ ((n + 1 : ℕ) : ℤ) < 0 := by omega
    rw [ofInt_eq, ofInt_eq, Int.natAbs_natCast, Int.natAbs_natCast, heq, decide_eq_false hn,
      decide_eq_false hn']
  rcases Nat.lt_or_ge (n + 1) (2 ^ 53) with hlt | hge
  · have htruncated := (ofInt_isExact h).1
    rw [hsame, (ofInt_isExact hlt).1] at htruncated
    have := Option.some.inj htruncated
    omega
  · obtain rfl : n = 2 ^ 53 - 1 := by omega
    have hne : ofInt (2 ^ 53 - 1 : ℕ) ≠ ofInt (2 ^ 53 - 1 + 1 : ℕ) := by decide +kernel
    exact hne hsame

/-- Whole numbers up to this size stand at different places. -/
theorem place_ofInt_lt_succ {n : ℤ} (h : -2 ^ 53 ≤ n) (h' : n < 2 ^ 53) :
    (ofInt n).place < (ofInt (n + 1)).place := by
  simp only [place, place?_ofInt, Option.getD_some]
  rcases lt_or_ge n 0 with hn | hn
  · have hlt := nearestMagnitude_lt_succ (show (n + 1).natAbs < 2 ^ 53 by omega)
    rw [show (n + 1).natAbs + 1 = n.natAbs by omega] at hlt
    rw [if_pos hn]
    split <;> omega
  · have hlt := nearestMagnitude_lt_succ (show n.natAbs < 2 ^ 53 by omega)
    rw [show n.natAbs + 1 = (n + 1).natAbs by omega] at hlt
    rw [if_neg (by omega), if_neg (by omega)]
    omega

/-- An integer below `2 ^ 53` has a nearest double of its own. -/
theorem eq_of_place_ofInt_eq {m n : ℤ} (h : -2 ^ 53 < m) (h' : m < 2 ^ 53)
    (heq : (ofInt m).place = (ofInt n).place) : m = n := by
  rcases lt_trichotomy m n with hlt | rfl | hlt
  · have hnext := place_ofInt_lt_succ h.le h'
    have hmono := place_ofInt_mono (show m + 1 ≤ n by omega)
    omega
  · rfl
  · have hnext := place_ofInt_lt_succ (show -2 ^ 53 ≤ m - 1 by omega) (by omega)
    have hmono := place_ofInt_mono (show n ≤ m - 1 by omega)
    rw [sub_add_cancel] at hnext
    omega

end Binary64

namespace Number

/-- Two numbers have the same nearest double. -/
def Near (m n : Number) : Prop :=
  m.toFloat.numEq n.toFloat = true

theorem Near.symm {m n : Number} (h : m.Near n) : n.Near m := by
  obtain ⟨q, hm, hn⟩ := Binary64.numEq_iff.1 h
  exact Binary64.numEq_iff.2 ⟨q, hn, hm⟩

/-- Being near is transitive for numbers: all stand at the same place. -/
theorem Near.trans {m n k : Number} (h : m.Near n) (h' : n.Near k) : m.Near k := by
  obtain ⟨q, hm, hn⟩ := Binary64.numEq_iff.1 h
  obtain ⟨q', hn', hk⟩ := Binary64.numEq_iff.1 h'
  rw [hn] at hn'
  exact Binary64.numEq_iff.2 ⟨q, hm, Option.some.inj hn' ▸ hk⟩

theorem isNaN_eq_isNone (n : Number) : n.isNaN = n.toFloat.place?.isNone := by
  cases n with
  | int i =>
    rw [toFloat, Binary64.place?_ofInt]
    rfl
  | float x => exact x.isNaN_eq_isNone

/-- A number is near itself unless it is NaN, and NaN is near no number. -/
theorem near_self_iff {n : Number} : n.Near n ↔ n.isNaN = false := by
  rw [isNaN_eq_isNone, Near, Binary64.numEq_iff]
  cases n.toFloat.place? <;> simp

theorem Near.not_nan {m n : Number} (h : m.Near n) : m.isNaN = false :=
  near_self_iff.1 (h.trans h.symm)

/-- Two numbers are equal if they are near each other and, in case both are integers, the same. -/
theorem numEq_iff {m n : Number} :
    m.numEq n = true ↔ m.Near n ∧ ∀ i j, m = .int i → n = .int j → i = j := by
  cases m with
  | int i =>
    cases n with
    | int j =>
      have hequal : (Number.int i).numEq (.int j) = (i == j) := rfl
      rw [hequal, beq_iff_eq]
      refine ⟨?_, fun h => h.2 i j rfl rfl⟩
      rintro rfl
      refine ⟨near_self_iff.2 rfl, ?_⟩
      rintro _ _ ⟨rfl⟩ ⟨rfl⟩
      rfl
    | float y => exact ⟨fun h => ⟨h, fun _ _ _ hy => by cases hy⟩, fun h => h.1⟩
  | float x =>
    have hequal : (Number.float x).numEq n = x.numEq n.toFloat := by cases n <;> rfl
    rw [hequal]
    exact ⟨fun h => ⟨h, fun _ _ hx => by cases hx⟩, fun h => h.1⟩

theorem numEq_symm {m n : Number} (h : m.numEq n = true) : n.numEq m = true := by
  obtain ⟨hnear, hint⟩ := numEq_iff.1 h
  exact numEq_iff.2 ⟨hnear.symm, fun i j hi hj => (hint j i hj hi).symm⟩

/-- A number equals itself unless it is `NaN`. -/
theorem numEq_self {n : Number} (h : n.isNaN = false) : n.numEq n = true := by
  refine numEq_iff.2 ⟨near_self_iff.2 h, ?_⟩
  rintro i j rfl ⟨rfl⟩
  rfl

end Number

/-! ## Entries side by side -/

/-- Lists that are related item by item have the same length and related items at each place. -/
theorem forall₂_iff_getElem? {α β : Type} {R : α → β → Prop} {as : List α} {bs : List β} :
    List.Forall₂ R as bs ↔
      as.length = bs.length ∧ ∀ (i : ℕ) a b, as[i]? = some a → bs[i]? = some b → R a b := by
  rw [List.forall₂_iff_get]
  refine and_congr_right fun _ => ⟨fun h i a b ha hb => ?_, fun h i hi hi' => ?_⟩
  · obtain ⟨hi, rfl⟩ := List.getElem?_eq_some_iff.1 ha
    obtain ⟨hi', rfl⟩ := List.getElem?_eq_some_iff.1 hb
    exact h i hi hi'
  · exact h i _ _ (List.getElem?_eq_getElem hi) (List.getElem?_eq_getElem hi')

theorem forall₂_congr_of_mem {α β : Type} {R S : α → β → Prop} {as : List α} {bs : List β}
    (h : ∀ a ∈ as, ∀ b ∈ bs, (R a b ↔ S a b)) : List.Forall₂ R as bs ↔ List.Forall₂ S as bs := by
  rw [forall₂_iff_getElem?, forall₂_iff_getElem?]
  refine and_congr_right fun _ => forall_congr' fun i => forall_congr' fun a => forall_congr' fun b => ?_
  exact imp_congr_right fun ha => imp_congr_right fun hb =>
    h a (List.mem_of_getElem? ha) b (List.mem_of_getElem? hb)

/-- A test of two lists that goes through both of them item by item. -/
theorem forall₂_iff_of_rules {α β : Type} {f : List α → List β → Prop} {R : α → β → Prop} (hnil : f [] [])
    (hcons : ∀ a as b bs, f (a :: as) (b :: bs) ↔ R a b ∧ f as bs) (hleft : ∀ a as, ¬ f (a :: as) [])
    (hright : ∀ b bs, ¬ f [] (b :: bs)) {as : List α} {bs : List β} : f as bs ↔ List.Forall₂ R as bs := by
  induction as generalizing bs with
  | nil =>
    cases bs with
    | nil => exact iff_of_true hnil .nil
    | cons b bs => exact iff_of_false (hright b bs) (by simp)
  | cons a as ih =>
    cases bs with
    | nil => exact iff_of_false (hleft a as) (by simp)
    | cons b bs => rw [hcons, List.forall₂_cons, ih]

/-- A list of the same length has an item at the same place. -/
theorem exists_getElem? {α β : Type} {as : List α} {bs : List β} (h : as.length = bs.length) {i : ℕ} {a : α}
    (ha : as[i]? = some a) : ∃ b, bs[i]? = some b := by
  obtain ⟨hi, -⟩ := List.getElem?_eq_some_iff.1 ha
  exact ⟨_, List.getElem?_eq_getElem (h ▸ hi)⟩

namespace Entries

/-- The value that is found for an entry is not at a key that comes before it. -/
theorem compare_ne_lt_of_found {e : Value × Value} {m : Entries} (h : Ordered (e :: m)) {k v : Value}
    (hk : get? (e :: m) k = some v) : k.compare e.1 ≠ .lt := by
  obtain ⟨l, hl, hmem⟩ := mem_of_get? hk
  rw [Value.compare_congr_left (Value.same_iff.1 hl)]
  rcases List.mem_cons.1 hmem with rfl | hmem
  · have hself : l.compare l = .eq := ReflCmp.compare_self
    rw [hself]
    decide
  · rw [OrientedCmp.gt_of_lt ((List.pairwise_cons.1 h).1 (l, v) hmem)]
    decide

/-- If all entries of one map are found in another, the keys after the first one are found in the rest of it. -/
theorem found_rest {e e' : Value × Value} {m m' : Entries} (h : Ordered (e :: m)) (h' : Ordered (e' :: m'))
    (hfound : ∀ d ∈ e :: m, (get? (e' :: m') d.1).isSome) : ∀ d ∈ m, get? (e' :: m') d.1 = get? m' d.1 := by
  intro d hd
  obtain ⟨v, hv⟩ := Option.isSome_iff_exists.1 (hfound e List.mem_cons_self)
  have hne : e.1.compare e'.1 ≠ .lt := compare_ne_lt_of_found h' hv
  rw [get?_cons, if_neg]
  -- a key that is the same as `e'.1` would come after `e.1`
  intro hsame
  rw [← Value.compare_congr_right (Value.same_iff.1 hsame)] at hne
  exact hne ((List.pairwise_cons.1 h).1 d hd)

/-- A map in which all keys of another one are found has no fewer entries. -/
theorem length_le_of_found {m' : Entries} : ∀ {m : Entries}, m.Ordered → m'.Ordered →
    (∀ d ∈ m, (get? m' d.1).isSome) → m.length ≤ m'.length := by
  induction m' with
  | nil =>
    intro m _ _ hfound
    cases m with
    | nil => exact Nat.le_refl _
    | cons e m => cases hfound e List.mem_cons_self
  | cons e' m' ih =>
    intro m h h' hfound
    cases m with
    | nil => exact Nat.zero_le _
    | cons e m =>
      refine Nat.succ_le_succ (ih (List.pairwise_cons.1 h).2 (List.pairwise_cons.1 h').2 fun d hd => ?_)
      rw [← found_rest h h' hfound d hd]
      exact hfound d (List.mem_cons_of_mem _ hd)

/-- If all entries of one map are found in another of the same size, then the entries of both stand side by
side with the same keys. -/
theorem forall₂_of_found {R : Value → Value → Prop} {m : Entries} : ∀ {m' : Entries}, m.Ordered → m'.Ordered →
    m.length = m'.length → (∀ d ∈ m, ∃ w, get? m' d.1 = some w ∧ R d.2 w) →
      List.Forall₂ (fun e e' => e.1.compare e'.1 = .eq ∧ R e.2 e'.2) m m' := by
  induction m with
  | nil =>
    intro m' _ _ hlen _
    cases m' with
    | nil => exact .nil
    | cons e' m' => cases hlen
  | cons e m ih =>
    intro m' h h' hlen hfound
    cases m' with
    | nil => cases hlen
    | cons e' m' =>
      have hsome : ∀ d ∈ e :: m, (get? (e' :: m') d.1).isSome := by
        intro d hd
        obtain ⟨w, hw, -⟩ := hfound d hd
        rw [hw]
        rfl
      have hrest := found_rest h h' hsome
      -- were the first key not the same, all keys would be found in a map that is too small
      have hsame : e.1.same e'.1 = true := by
        by_contra hne
        have hall : ∀ d ∈ e :: m, (get? m' d.1).isSome := by
          intro d hd
          have hd' := hsome d hd
          rcases List.mem_cons.1 hd with rfl | hm
          · rwa [get?_cons, if_neg hne] at hd'
          · rwa [hrest d hm] at hd'
        have := length_le_of_found h (List.pairwise_cons.1 h').2 hall
        rw [hlen, List.length_cons] at this
        omega
      obtain ⟨w, hw, hR⟩ := hfound e List.mem_cons_self
      rw [get?_cons, if_pos hsame] at hw
      refine .cons ⟨Value.same_iff.1 hsame, Option.some.inj hw ▸ hR⟩ ?_
      refine ih (List.pairwise_cons.1 h).2 (List.pairwise_cons.1 h').2 (Nat.succ.inj hlen) fun d hd => ?_
      rw [← hrest d hd]
      exact hfound d (List.mem_cons_of_mem _ hd)

/-- Entries that stand side by side with the same keys are found. -/
theorem found_of_forall₂ {R : Value → Value → Prop} {m m' : Entries} (h' : m'.Ordered)
    (h : List.Forall₂ (fun e e' => e.1.compare e'.1 = .eq ∧ R e.2 e'.2) m m') :
    ∀ d ∈ m, ∃ w, get? m' d.1 = some w ∧ R d.2 w := by
  intro d hd
  obtain ⟨i, hi⟩ := List.mem_iff_getElem?.1 hd
  obtain ⟨hlen, h⟩ := forall₂_iff_getElem?.1 h
  obtain ⟨e', hi'⟩ := exists_getElem? hlen hi
  obtain ⟨hkey, hR⟩ := h i d e' hi hi'
  refine ⟨e'.2, ?_, hR⟩
  rw [get?_congr (Value.same_iff.2 hkey)]
  exact h'.distinct.get?_of_mem (List.mem_of_getElem? hi')

end Entries

/-! ## Values side by side -/

namespace Value

/-- Whether a value is neither a number nor a collection. -/
def isSimple : Value → Bool
  | .number _ => false
  | .vector _ => false
  | .map _ => false
  | _ => true

/-- Two values are the same but for the numbers in them, and `R` holds of the numbers at the same places.
The keys of maps are the same, numbers included. -/
inductive Matched (R : Number → Number → Prop) : Value → Value → Prop
  | number {m n : Number} : R m n → Matched R (.number m) (.number n)
  | vector {as bs : List Value} : as.length = bs.length →
      (∀ (i : ℕ) v w, as[i]? = some v → bs[i]? = some w → Matched R v w) → Matched R (.vector as) (.vector bs)
  | map {as bs : Entries} : as.length = bs.length →
      (∀ (i : ℕ) e e', as[i]? = some e → bs[i]? = some e' → e.1.compare e'.1 = .eq) →
      (∀ (i : ℕ) e e', as[i]? = some e → bs[i]? = some e' → Matched R e.2 e'.2) → Matched R (.map as) (.map bs)
  | simple {a b : Value} : a.isSimple = true → a.compare b = .eq → Matched R a b

/-- The values that equality looks at in a value: the items of a vector and the values of a map, but not its
keys, which are looked up in the order of values. -/
def compared : Value → List Value
  | .vector items => items
  | .map m => m.map (·.2)
  | _ => []

/-- `P` holds of every number that equality looks at. -/
inductive EachNumber (P : Number → Prop) : Value → Prop
  | intro {v : Value} : (∀ n, v = .number n → P n) → (∀ w ∈ v.compared, EachNumber P w) → EachNumber P v

theorem EachNumber.imp {P Q : Number → Prop} (hPQ : ∀ n, P n → Q n) {v : Value} (h : EachNumber P v) :
    EachNumber Q v := by
  induction h with
  | intro hnumber _ ih => exact .intro (fun n hn => hPQ n (hnumber n hn)) ih

theorem eachNumber_number {P : Number → Prop} {n : Number} : EachNumber P (.number n) ↔ P n := by
  constructor
  · rintro ⟨h, -⟩
    exact h n rfl
  · intro h
    refine .intro ?_ (by simp [compared])
    rintro _ ⟨rfl⟩
    exact h

theorem eachNumber_vector {P : Number → Prop} {items : List Value} :
    EachNumber P (.vector items) ↔ ∀ v ∈ items, EachNumber P v := by
  constructor
  · rintro ⟨-, h⟩
    exact h
  · intro h
    exact .intro (by simp) h

theorem rank_eq_of_compare {a b : Value} (h : a.compare b = .eq) : a.rank = b.rank := by
  by_contra hne
  rw [compare_of_rank_ne hne] at h
  exact hne (LawfulEqCmp.eq_of_compare h)

theorem isSimple_of_compare {a b : Value} (ha : a.isSimple = true) (h : a.compare b = .eq) :
    b.isSimple = true := by
  have hrank := rank_eq_of_compare h
  cases a with
  | number _ => cases ha
  | vector _ => cases ha
  | map _ => cases ha
  | _ => cases b <;> first | rfl | cases hrank

namespace Matched

variable {R S T : Number → Number → Prop} {a b c : Value}

theorem number_iff {m : Number} : Matched R (.number m) b ↔ ∃ n, b = .number n ∧ R m n := by
  constructor
  · intro h
    cases h with
    | number h => exact ⟨_, rfl, h⟩
    | simple ha _ => cases ha
  · rintro ⟨n, rfl, h⟩
    exact .number h

theorem vector_iff {as : List Value} :
    Matched R (.vector as) b ↔ ∃ bs, b = .vector bs ∧ List.Forall₂ (Matched R) as bs := by
  constructor
  · intro h
    cases h with
    | vector hlen h => exact ⟨_, rfl, forall₂_iff_getElem?.2 ⟨hlen, h⟩⟩
    | simple ha _ => cases ha
  · rintro ⟨bs, rfl, h⟩
    obtain ⟨hlen, h⟩ := forall₂_iff_getElem?.1 h
    exact .vector hlen h

theorem map_iff {as : Entries} : Matched R (.map as) b ↔
    ∃ bs, b = .map bs ∧ List.Forall₂ (fun e e' => e.1.compare e'.1 = .eq ∧ Matched R e.2 e'.2) as bs := by
  constructor
  · intro h
    cases h with
    | map hlen hkeys h =>
      refine ⟨_, rfl, forall₂_iff_getElem?.2 ⟨hlen, fun i e e' he he' => ?_⟩⟩
      exact ⟨hkeys i e e' he he', h i e e' he he'⟩
    | simple ha _ => cases ha
  · rintro ⟨bs, rfl, h⟩
    obtain ⟨hlen, h⟩ := forall₂_iff_getElem?.1 h
    exact .map hlen (fun i e e' he he' => (h i e e' he he').1) fun i e e' he he' => (h i e e' he he').2

/-- The relation may be turned around at every place. -/
theorem symm (hRS : ∀ m n, R m n → S n m) (h : Matched R a b) : Matched S b a := by
  induction h with
  | number h => exact .number (hRS _ _ h)
  | vector hlen _ ih => exact .vector hlen.symm fun i v w hv hw => ih i w v hw hv
  | map hlen hkeys _ ih =>
    exact .map hlen.symm (fun i e e' he he' => OrientedCmp.eq_symm (hkeys i e' e he' he))
      fun i e e' he he' => ih i e' e he' he
  | simple ha h => exact .simple (isSimple_of_compare ha h) (OrientedCmp.eq_symm h)

/-- Relations are composed place by place. -/
theorem trans (hRST : ∀ m n k, R m n → S n k → T m k) (hab : Matched R a b) (hbc : Matched S b c) :
    Matched T a c := by
  induction hab generalizing c with
  | number h =>
    cases hbc with
    | number h' => exact .number (hRST _ _ _ h h')
    | simple hb _ => cases hb
  | vector hlen _ ih =>
    cases hbc with
    | vector hlen' h' =>
      refine .vector (hlen.trans hlen') fun i v w hv hw => ?_
      -- the lists have one length, so there is an item of `b` between the two
      obtain ⟨u, hu⟩ := exists_getElem? hlen hv
      exact ih i v u hv hu (h' i u w hu hw)
    | simple hb _ => cases hb
  | map hlen hkeys _ ih =>
    cases hbc with
    | map hlen' hkeys' h' =>
      refine .map (hlen.trans hlen') (fun i e e' he he' => ?_) fun i e e' he he' => ?_
      · obtain ⟨d, hd⟩ := exists_getElem? hlen he
        exact compare_eq_trans (hkeys i e d he hd) (hkeys' i d e' hd he')
      · obtain ⟨d, hd⟩ := exists_getElem? hlen he
        exact ih i e d he hd (h' i d e' hd he')
    | simple hb _ => cases hb
  | simple ha h =>
    have hb := isSimple_of_compare ha h
    cases hbc with
    | number _ => cases hb
    | vector _ _ => cases hb
    | map _ _ _ => cases hb
    | simple _ h' => exact .simple ha (compare_eq_trans h h')

/-- Every number in the first value is related to one in the second. -/
theorem eachNumber (h : Matched R a b) : EachNumber (fun m => ∃ n, R m n) a := by
  induction h with
  | @number m n h =>
    refine .intro ?_ fun _ hv => by cases hv
    rintro _ ⟨rfl⟩
    exact ⟨n, h⟩
  | @vector as bs hlen _ ih =>
    refine .intro (by simp) fun v hv => ?_
    obtain ⟨i, hi⟩ := List.mem_iff_getElem?.1 hv
    obtain ⟨w, hw⟩ := exists_getElem? hlen hi
    exact ih i v w hi hw
  | @map as bs hlen _ _ ih =>
    refine .intro (by simp) fun v hv => ?_
    obtain ⟨e, he, rfl⟩ := List.mem_map.1 hv
    obtain ⟨i, hi⟩ := List.mem_iff_getElem?.1 he
    obtain ⟨e', he'⟩ := exists_getElem? hlen hi
    exact ih i e e' hi he'
  | @simple a b ha _ =>
    refine .intro ?_ fun v hv => ?_
    · rintro n rfl
      cases ha
    · cases a with
      | vector _ => cases ha
      | map _ => cases ha
      | _ => cases hv

/-- A relation of numbers may be changed if something is known of the numbers in the first value. -/
theorem imp {P : Number → Prop} (hRS : ∀ m n, P m → R m n → S m n) (h : Matched R a b)
    (ha : EachNumber P a) : Matched S a b := by
  induction h with
  | number h =>
    obtain ⟨hP, -⟩ := ha
    exact .number (hRS _ _ (hP _ rfl) h)
  | vector hlen _ ih =>
    obtain ⟨-, ha⟩ := ha
    exact .vector hlen fun i v w hv hw => ih i v w hv hw (ha v (List.mem_of_getElem? hv))
  | map hlen hkeys _ ih =>
    obtain ⟨-, ha⟩ := ha
    refine .map hlen hkeys fun i e e' he he' => ih i e e' he he' (ha e.2 ?_)
    exact List.mem_map_of_mem (List.mem_of_getElem? he)
  | simple hs h => exact .simple hs h

end Matched

/-! ## What equality compares -/

/-- Vectors are compared item by item. -/
theorem equalAll_iff {as bs : List Value} :
    equalAll as bs = true ↔ List.Forall₂ (fun a b => a.equal b = true) as bs := by
  refine forall₂_iff_of_rules (f := fun as bs => equalAll as bs = true) rfl (fun a as b bs => ?_)
    (fun _ _ => Bool.false_ne_true) (fun _ _ => Bool.false_ne_true)
  rw [equalAll, Bool.and_eq_true]

theorem compareAll_eq_iff {as bs : List Value} :
    compareAll as bs = .eq ↔ List.Forall₂ (fun a b => a.compare b = .eq) as bs := by
  refine forall₂_iff_of_rules (f := fun as bs => compareAll as bs = .eq) rfl (fun a as b bs => ?_)
    (fun _ _ h => by cases h) (fun _ _ h => by cases h)
  rw [compareAll, Ordering.then_eq_eq]

theorem compareEntries_eq_iff {as bs : Entries} : compareEntries as bs = .eq ↔
    List.Forall₂ (fun e e' => e.1.compare e'.1 = .eq ∧ e.2.compare e'.2 = .eq) as bs := by
  refine forall₂_iff_of_rules (f := fun as bs => compareEntries as bs = .eq) rfl (fun e as e' bs => ?_)
    (fun _ _ h => by cases h) (fun _ _ h => by cases h)
  rw [compareEntries, Ordering.then_eq_eq, Ordering.then_eq_eq, and_assoc]

/-- Each value is compared with that at the same key of the other map. -/
theorem equalEntries_iff {as m : Entries} : equalEntries as m = true ↔
    ∀ e ∈ as, ∃ w, Entries.get? m e.1 = some w ∧ e.2.equal w = true := by
  induction as with
  | nil => exact iff_of_true rfl fun _ h => by cases h
  | cons e as ih =>
    rw [equalEntries, Bool.and_eq_true, ih, List.forall_mem_cons]
    refine and_congr_left fun _ => ?_
    cases Entries.get? m e.1 with
    | none => simp
    | some w => simp

/-- Values without parts are equal if they are the same. -/
theorem equal_of_isSimple {a : Value} (ha : a.isSimple = true) (b : Value) : a.equal b = a.same b := by
  cases a with
  | number _ => cases ha
  | vector _ => cases ha
  | map _ => cases ha
  | _ => cases b <;> rfl

/-- Values of two types are not equal. -/
theorem rank_eq_of_equal {a b : Value} (h : a.equal b = true) : a.rank = b.rank := by
  by_contra hne
  have hsame : a.equal b = a.same b := by
    cases a with
    | number _ => cases b <;> first | rfl | exact absurd rfl hne
    | vector _ => cases b <;> first | rfl | exact absurd rfl hne
    | map _ => cases b <;> first | rfl | exact absurd rfl hne
    | _ => exact equal_of_isSimple rfl b
  rw [hsame, same_iff] at h
  exact hne (rank_eq_of_compare h)

theorem equal_vector_iff {as : List Value} {b : Value} : (Value.vector as).equal b = true ↔
    ∃ bs, b = .vector bs ∧ List.Forall₂ (fun v w => v.equal w = true) as bs := by
  constructor
  · intro h
    have hrank := rank_eq_of_equal h
    cases b <;> cases hrank
    exact ⟨_, rfl, equalAll_iff.1 h⟩
  · rintro ⟨bs, rfl, h⟩
    exact equalAll_iff.2 h

/-- Equal maps in order have equal entries side by side. -/
theorem equal_map_iff {as : Entries} {b : Value} (ha : as.Ordered) (hb : b.InOrder) :
    (Value.map as).equal b = true ↔
      ∃ bs, b = .map bs ∧ List.Forall₂ (fun e e' => e.1.compare e'.1 = .eq ∧ e.2.equal e'.2 = true) as bs := by
  constructor
  · intro h
    have hrank := rank_eq_of_equal h
    cases b <;> cases hrank
    rw [equal, Bool.and_eq_true, beq_iff_eq, equalEntries_iff] at h
    obtain ⟨hlen, hfound⟩ := h
    exact ⟨_, rfl, Entries.forall₂_of_found (R := fun v w => v.equal w = true) ha hb.entries hlen hfound⟩
  · rintro ⟨bs, rfl, h⟩
    rw [equal, Bool.and_eq_true, beq_iff_eq, equalEntries_iff]
    exact ⟨h.length_eq, Entries.found_of_forall₂ (R := fun v w => v.equal w = true) hb.entries h⟩

theorem mem_inside_map {m : Entries} {e : Value × Value} (he : e ∈ m) : e.2 ∈ (Value.map m).inside :=
  List.mem_flatMap.2 ⟨e, he, List.mem_cons_of_mem _ List.mem_cons_self⟩

theorem InOrder.item {items : List Value} (h : (Value.vector items).InOrder) {i : ℕ} {v : Value}
    (hv : items[i]? = some v) : v.InOrder :=
  h.held v (List.mem_of_getElem? hv)

theorem InOrder.entry {m : Entries} (h : (Value.map m).InOrder) {i : ℕ} {e : Value × Value}
    (he : m[i]? = some e) : e.2.InOrder :=
  h.held e.2 (mem_inside_map (List.mem_of_getElem? he))

/-- Two values are equal if they are the same but for numbers, and the numbers at the same places are equal. -/
theorem equal_iff_matched {a b : Value} (ha : a.InOrder) (hb : b.InOrder) :
    a.equal b = true ↔ Matched (fun m n => m.numEq n = true) a b := by
  induction ha generalizing b with
  | @intro a hmap hheld ih =>
    cases a with
    | number m =>
      rw [Matched.number_iff]
      constructor
      · intro h
        have hrank := rank_eq_of_equal h
        cases b <;> cases hrank
        exact ⟨_, rfl, h⟩
      · rintro ⟨n, rfl, h⟩
        exact h
    | vector as =>
      rw [equal_vector_iff, Matched.vector_iff]
      refine exists_congr fun bs => and_congr_right ?_
      rintro rfl
      exact forall₂_congr_of_mem fun v hv w hw => ih v hv (hb.held w hw)
    | map as =>
      rw [equal_map_iff (hmap as rfl) hb, Matched.map_iff]
      refine exists_congr fun bs => and_congr_right ?_
      rintro rfl
      refine forall₂_congr_of_mem fun e he e' he' => and_congr_right fun _ => ?_
      exact ih e.2 (mem_inside_map he) (hb.held e'.2 (mem_inside_map he'))
    | _ =>
      rw [equal_of_isSimple rfl, same_iff]
      refine ⟨fun h => .simple rfl h, fun h => ?_⟩
      cases h with
      | simple _ h => exact h

/-- Values that the order does not tell apart have the same numbers. -/
theorem matched_of_compare {P : Number → Prop} {a b : Value} (ha : EachNumber P a) (h : a.compare b = .eq) :
    Matched (fun m n => P m ∧ m = n) a b := by
  have hrank := rank_eq_of_compare h
  induction ha generalizing b with
  | @intro a hnumber hcompared ih =>
    cases a with
    | number m =>
      cases b with
      | number n =>
        have hmn : m.totalCompare n = .eq := h
        exact .number ⟨hnumber m rfl, LawfulEqCmp.eq_of_compare hmn⟩
      | _ => cases hrank
    | vector as =>
      cases b <;> cases hrank
      obtain ⟨hlen, h⟩ := forall₂_iff_getElem?.1 (compareAll_eq_iff.1 h)
      refine .vector hlen fun i v w hv hw => ?_
      exact ih v (List.mem_of_getElem? hv) (h i v w hv hw) (rank_eq_of_compare (h i v w hv hw))
    | map as =>
      cases b <;> cases hrank
      obtain ⟨hlen, h⟩ := forall₂_iff_getElem?.1 (compareEntries_eq_iff.1 h)
      refine .map hlen (fun i e e' he he' => (h i e e' he he').1) fun i e e' he he' => ?_
      obtain ⟨-, hvalue⟩ := h i e e' he he'
      exact ih e.2 (List.mem_map_of_mem (List.mem_of_getElem? he)) hvalue (rank_eq_of_compare hvalue)
    | _ => exact .simple rfl h

/-! ## Values that differ in numbers only -/

/-- At some place two values have different integers with the same nearest double. -/
inductive DifferByRounding : Value → Value → Prop
  | number {i j : Int64} : i ≠ j → (Number.int i).Near (.int j) →
      DifferByRounding (.number (.int i)) (.number (.int j))
  | item {as bs : List Value} {i : ℕ} {v w : Value} : as[i]? = some v → bs[i]? = some w →
      DifferByRounding v w → DifferByRounding (.vector as) (.vector bs)
  | entry {as bs : Entries} {k v w : Value} : as.get? k = some v → bs.get? k = some w →
      DifferByRounding v w → DifferByRounding (.map as) (.map bs)

/-- Equal values do not differ by rounding. -/
theorem DifferByRounding.not_matched {a b : Value} (h : a.DifferByRounding b) (hb : b.InOrder) :
    ¬ Matched (fun m n => m.numEq n = true) a b := by
  induction h with
  | @number i j hne _ =>
    intro h
    obtain ⟨_, ⟨rfl⟩, h⟩ := Matched.number_iff.1 h
    exact hne ((Number.numEq_iff.1 h).2 i j rfl rfl)
  | @item as bs i v w hv hw _ ih =>
    intro h
    obtain ⟨_, ⟨rfl⟩, h⟩ := Matched.vector_iff.1 h
    obtain ⟨-, h⟩ := forall₂_iff_getElem?.1 h
    exact ih (hb.item hw) (h i v w hv hw)
  | @entry as bs k v w hv hw _ ih =>
    intro h
    obtain ⟨_, ⟨rfl⟩, h⟩ := Matched.map_iff.1 h
    -- the entries at the key stand side by side
    obtain ⟨l, hl, hmem⟩ := Entries.mem_of_get? hv
    obtain ⟨w', hw', hmatched⟩ := Entries.found_of_forall₂ hb.entries h (l, v) hmem
    rw [← Entries.get?_congr hl, hw] at hw'
    obtain rfl := Option.some.inj hw'
    obtain ⟨l', -, hmem'⟩ := Entries.mem_of_get? hw
    exact ih (hb.held w (mem_inside_map hmem')) hmatched

/-- Values that are equal up to rounding are equal, unless they differ by it. -/
theorem matched_of_near {a b : Value} (ha : a.InOrder) (hb : b.InOrder) (h : Matched Number.Near a b)
    (hdiffer : ¬ a.DifferByRounding b) : Matched (fun m n => m.numEq n = true) a b := by
  induction h with
  | @number m n h =>
    refine .number (Number.numEq_iff.2 ⟨h, ?_⟩)
    rintro i j rfl rfl
    by_contra hne
    exact hdiffer (.number hne h)
  | vector hlen _ ih =>
    refine .vector hlen fun i v w hv hw => ih i v w hv hw (ha.item hv) (hb.item hw) fun hvw => ?_
    exact hdiffer (.item hv hw hvw)
  | map hlen hkeys _ ih =>
    refine .map hlen hkeys fun i e e' he he' => ih i e e' he he' (ha.entry he) (hb.entry he') fun hee' => ?_
    refine hdiffer (.entry (k := e.1) (ha.entries.distinct.get?_of_mem (List.mem_of_getElem? he)) ?_ hee')
    rw [Entries.get?_congr (same_iff.2 (hkeys i e e' he he'))]
    exact hb.entries.distinct.get?_of_mem (List.mem_of_getElem? he')
  | simple hs h => exact .simple hs h

theorem equal_iff_of_near {a b : Value} (ha : a.InOrder) (hb : b.InOrder) (h : Matched Number.Near a b) :
    a.equal b = true ↔ ¬ a.DifferByRounding b := by
  rw [equal_iff_matched ha hb]
  exact ⟨fun hab hdiffer => hdiffer.not_matched hb hab, matched_of_near ha hb h⟩

/-- Values that are equal have numbers that are near at the same places. -/
theorem near_of_equal {a b : Value} (ha : a.InOrder) (hb : b.InOrder) (h : a.equal b = true) :
    Matched Number.Near a b := by
  have hmatched := (equal_iff_matched ha hb).1 h
  exact hmatched.imp (fun m n _ hmn => (Number.numEq_iff.1 hmn).1) hmatched.eachNumber

/-! ## Laws of equality -/

/-- Equality looks at no NaN in a value. A key may be NaN, which the order of values knows. -/
def NaNFree (v : Value) : Prop :=
  EachNumber (fun n => n.isNaN = false) v

/-- All integers that equality looks at are below `2 ^ 53`, up to their signs. -/
def SmallIntegers (v : Value) : Prop :=
  EachNumber (fun n => ∀ i, n = .int i → -2 ^ 53 < i.toInt ∧ i.toInt < 2 ^ 53) v

/-- Equality is symmetric. -/
theorem equal_symm {a b : Value} (ha : a.InOrder) (hb : b.InOrder) (h : a.equal b = true) :
    b.equal a = true :=
  (equal_iff_matched hb ha).2 (((equal_iff_matched ha hb).1 h).symm fun _ _ => Number.numEq_symm)

/-- Values at the same place in the order are equal, if there is no `NaN` in them. -/
theorem equal_of_compare {a b : Value} (ha : a.InOrder) (hb : b.InOrder) (hnan : a.NaNFree)
    (h : a.compare b = .eq) : a.equal b = true := by
  refine (equal_iff_matched ha hb).2 ((matched_of_compare hnan h).imp ?_ hnan)
  rintro m _ - ⟨hm, rfl⟩
  exact Number.numEq_self hm

theorem nanFree_of_equal {a b : Value} (ha : a.InOrder) (hb : b.InOrder) (h : a.equal b = true) :
    a.NaNFree := by
  refine (near_of_equal ha hb h).eachNumber.imp ?_
  rintro _ ⟨_, hnear⟩
  exact hnear.not_nan

theorem inOrder_singleton (n : Number) : (Value.vector [.number n]).InOrder :=
  eachMap_vector.2 fun _ hv => List.mem_singleton.1 hv ▸ eachMap_number n

/-- Equality is symmetric. It is reflexive on the values without NaN, and on no others. Values without NaN
that the order does not tell apart are equal. -/
theorem equal_is_symmetric_and_reflexive :
    (∀ a b : Value, a.InOrder → b.InOrder → a.equal b = b.equal a) ∧
    (∀ a : Value, a.InOrder → (a.equal a = true ↔ a.NaNFree)) ∧
    ∀ a b : Value, a.InOrder → b.InOrder → a.NaNFree → a.compare b = .eq → a.equal b = true := by
  refine ⟨fun a b ha hb => ?_, fun a ha => ?_, fun a b ha hb => equal_of_compare ha hb⟩
  · exact Bool.eq_iff_iff.2 ⟨equal_symm ha hb, equal_symm hb ha⟩
  · exact ⟨nanFree_of_equal ha ha, fun hnan => equal_of_compare ha ha hnan ReflCmp.compare_self⟩

/-- A map with NaN as a key, and an integer or a double as the value there. -/
theorem equal_is_symmetric_and_reflexive_of_maps :
    ∃ a b : Value,
      a = .map [(.number (.float (.nan false)), .vector [.number (.int 1)])] ∧
      b = .map [(.number (.float (.nan false)), .vector [.number (.float (.ofInt 1))])] ∧
      (a.InOrder ∧ b.InOrder ∧ a.equal b = b.equal a) ∧ (a.NaNFree ∧ a.equal a = true) ∧
      a.compare a = .eq := by
  obtain ⟨hsymm, hrefl, hsame⟩ := equal_is_symmetric_and_reflexive
  have hin (n : Number) : (Value.map [(.number (.float (.nan false)), .vector [.number n])]).InOrder :=
    eachMap_map.2 ⟨List.pairwise_singleton .., fun _ he =>
      List.mem_singleton.1 he ▸ ⟨eachMap_number _, inOrder_singleton n⟩⟩
  have hnan := (hrefl _ (hin (.int 1))).1 (by decide +kernel)
  exact ⟨_, _, rfl, rfl, ⟨hin _, hin _, hsymm _ _ (hin _) (hin _)⟩,
    ⟨hnan, hsame _ _ (hin _) (hin _) hnan (by decide +kernel)⟩, by decide +kernel⟩

theorem Matched.near_trans {a b c : Value} (hab : Matched Number.Near a b) (hbc : Matched Number.Near b c) :
    Matched Number.Near a c :=
  hab.trans (fun _ _ _ hmn hnk => hmn.trans hnk) hbc

/-- An integer below `2 ^ 53` is equal to every number near it. -/
theorem equal_of_smallIntegers {a b : Value} (ha : a.InOrder) (hb : b.InOrder) (hsmall : a.SmallIntegers)
    (h : Matched Number.Near a b) : a.equal b = true := by
  refine (equal_iff_matched ha hb).2 (h.imp (fun m n hm hmn => Number.numEq_iff.2 ⟨hmn, ?_⟩) hsmall)
  rintro i j rfl rfl
  obtain ⟨q, hi, hj⟩ := Binary64.numEq_iff.1 hmn
  have hplace : (Binary64.ofInt i.toInt).place = (Binary64.ofInt j.toInt).place := by
    rw [Binary64.place, Binary64.place]
    exact congrArg (Option.getD · _) (hi.trans hj.symm)
  exact Int64.toInt_inj.1 (Binary64.eq_of_place_ofInt_eq (hm i rfl).1 (hm i rfl).2 hplace)

/-- If neighbours are equal, all values in a list are near each other. By induction on the list: the first
value is near the second one, which is near all that follow. -/
theorem pairwise_near_of_allEqual {v : Value} {rest : List Value} (hin : ∀ w ∈ v :: rest, w.InOrder)
    (h : NumberFn.allEqual v rest = true) : (v :: rest).Pairwise (Matched Number.Near) := by
  induction rest generalizing v with
  | nil => exact List.pairwise_singleton ..
  | cons w rest ih =>
    obtain ⟨hv, hrest⟩ := List.forall_mem_cons.1 hin
    obtain ⟨hvw, h⟩ := Bool.and_eq_true_iff.1 h
    have hnear := near_of_equal hv (hrest w List.mem_cons_self) hvw
    have hpairs := ih hrest h
    refine List.pairwise_cons.2 ⟨List.forall_mem_cons.2 ⟨hnear, fun u hu => ?_⟩, hpairs⟩
    exact hnear.near_trans ((List.pairwise_cons.1 hpairs).1 u hu)

/-- Comparing all neighbours is what makes a chain. -/
theorem allEqual_iff_isChain {v : Value} {rest : List Value} :
    NumberFn.allEqual v rest = true ↔ (v :: rest).IsChain fun a b => a.equal b = true := by
  induction rest generalizing v with
  | nil => exact iff_of_true rfl (.singleton v)
  | cons w rest ih => rw [NumberFn.allEqual, Bool.and_eq_true, List.isChain_cons_cons, ih]

/-- Of two values that are equal to a third one, the one is equal to the other, unless somewhere they have
different integers with the same nearest double. This cannot be if the integers in the first one are below
`2 ^ 53`. The function `=` compares neighbours; if it holds, then the same is true of every two of its
arguments. -/
theorem equal_is_transitive_up_to_rounding :
    (∀ a b c : Value, a.InOrder → b.InOrder → c.InOrder → a.equal b = true → b.equal c = true →
      (a.equal c = true ↔ ¬ a.DifferByRounding c) ∧ (a.SmallIntegers → a.equal c = true)) ∧
    ∀ (h : Host) (n : Nat) (v : Value) (rest : List Value) (s : RunState), (∀ w ∈ v :: rest, w.InOrder) →
      ∃ b, callAt h (n + 1) (.builtin (.number .eq)) (v :: rest) s = (.ok (.bool b), s) ∧
        (b = true ↔ (v :: rest).IsChain fun a c => a.equal c = true) ∧
        (b = true → (v :: rest).Pairwise fun a c => a.equal c = true ↔ ¬ a.DifferByRounding c) := by
  constructor
  · intro a b c ha hb hc hab hbc
    have hnear := (near_of_equal ha hb hab).near_trans (near_of_equal hb hc hbc)
    exact ⟨equal_iff_of_near ha hc hnear, fun hsmall => equal_of_smallIntegers ha hc hsmall hnear⟩
  · intro h n v rest s hin
    refine ⟨NumberFn.allEqual v rest, rfl, allEqual_iff_isChain, fun hall => ?_⟩
    refine (pairwise_near_of_allEqual hin hall).imp_of_mem fun ha hc hnear => ?_
    exact equal_iff_of_near (hin _ ha) (hin _ hc) hnear

/-- In vectors: two integers with the same nearest double and this double, and then small numbers. -/
theorem equal_is_transitive_up_to_rounding_of_vectors :
    ∃ a b c d e : Value,
      a = .vector [.number (.int 9007199254740993)] ∧ b = .vector [.number (.float (.ofInt 9007199254740992))] ∧
      c = .vector [.number (.int 9007199254740992)] ∧ d = .vector [.number (.int 7)] ∧
      e = .vector [.number (.float (.ofInt 7))] ∧
      (a.equal b = true ∧ b.equal c = true ∧ (a.equal c = true ↔ ¬ a.DifferByRounding c)) ∧
      (d.SmallIntegers ∧ d.equal e = true ∧ e.equal d = true ∧ d.equal d = true) ∧
      ∀ h s, callAt h 1 (.builtin (.number .eq)) [d, e, d] s = (.ok (.bool true), s) := by
  obtain ⟨htrans, hchain⟩ := equal_is_transitive_up_to_rounding
  have hsmall : (Value.vector [.number (.int 7)]).SmallIntegers := by
    refine eachNumber_vector.2 fun v hv => List.mem_singleton.1 hv ▸ eachNumber_number.2 ?_
    rintro _ ⟨rfl⟩
    decide
  refine ⟨_, _, _, _, _, rfl, rfl, rfl, rfl, rfl, ⟨by decide +kernel, by decide +kernel, ?_⟩,
    ⟨hsmall, by decide +kernel, by decide +kernel, ?_⟩, fun h s => ?_⟩
  · exact (htrans _ (.vector [.number (.float (.ofInt 9007199254740992))]) _ (inOrder_singleton _)
      (inOrder_singleton _) (inOrder_singleton _) (by decide +kernel) (by decide +kernel)).1
  · exact (htrans _ (.vector [.number (.float (.ofInt 7))]) _ (inOrder_singleton _) (inOrder_singleton _)
      (inOrder_singleton _) (by decide +kernel) (by decide +kernel)).2 hsmall
  · obtain ⟨r, hcall, hr, -⟩ := hchain h 0 (.vector [.number (.int 7)])
      [.vector [.number (.float (.ofInt 7))], .vector [.number (.int 7)]] s (by simp [inOrder_singleton])
    rw [hcall, hr.2 (by decide +kernel)]

/-- Equality is not transitive: the double between two integers is equal to both. So the function `=` holds of
the three, although the first is not equal to the last. -/
theorem equal_is_not_transitive :
    ∃ a b c : Value,
      a = .number (.int 9007199254740993) ∧ b = .number (.float (.ofInt 9007199254740992)) ∧
      c = .number (.int 9007199254740992) ∧
      (a.InOrder ∧ b.InOrder ∧ c.InOrder) ∧ (a.NaNFree ∧ b.NaNFree ∧ c.NaNFree) ∧
      a.equal b = true ∧ b.equal c = true ∧ a.equal c = false ∧
      ∀ h n s, callAt h (n + 1) (.builtin (.number .eq)) [a, b, c] s = (.ok (.bool true), s) := by
  refine ⟨_, _, _, rfl, rfl, rfl, ⟨eachMap_number _, eachMap_number _, eachMap_number _⟩, ?_, by decide +kernel,
    by decide +kernel, by decide +kernel, fun h n s => ?_⟩
  · exact ⟨eachNumber_number.2 rfl, eachNumber_number.2 (by decide +kernel), eachNumber_number.2 rfl⟩
  · have hall : NumberFn.allEqual (.number (.int 9007199254740993))
        [.number (.float (.ofInt 9007199254740992)), .number (.int 9007199254740992)] = true := by
      decide +kernel
    change (Except.ok (Value.bool (NumberFn.allEqual _ _)), s) = _
    rw [hall]

end Value

end ToolLisp
