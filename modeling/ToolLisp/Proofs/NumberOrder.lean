import ToolLisp.Number.Basic
import ToolLisp.Proofs.Rounding

/-!
# The order of numbers

Two integers are compared exactly, two doubles by their places among the doubles, and an integer with a
double by the double nearest to the integer, the integer going first if that is the same. Numbers that are
not told apart are the same number, and two numbers compared the other way round are in the opposite order.

NaN with the sign bit set comes before all other doubles and after all integers, so with it the order goes
in circles (`not_transitive_of_negative_nan`). For all other numbers the three rules are one: they are
ordered by the nearest double, then integers before doubles, and then exactly (`totalCompare_eq`). This
rests on rounding, which never turns two integers around. So the order of these numbers is transitive.
-/

namespace ToolLisp

open Std (LawfulEqCmp OrientedCmp ReflCmp TransCmp)

/-! ## Lawful comparisons -/

/-- The comparisons of `a` with `b`, of `b` with `a`, of `b` with `c`, and of `a` with `c` fit together: what
is not told apart is compared alike, and under the condition `p` the comparison is transitive. -/
structure Lawful (p : Prop) (ab ba bc ac : Ordering) : Prop where
  swap : ba = ab.swap
  eq_left : ab = .eq → ac = bc
  eq_right : bc = .eq → ac = ab
  trans : p → ab = bc → ac = ab

namespace Lawful

variable {p q : Prop} {ab ba bc ac ab' ba' bc' ac' : Ordering}

/-- A stronger condition is sufficient too. -/
theorem mono (h : Lawful p ab ba bc ac) (hpq : q → p) : Lawful q ab ba bc ac :=
  ⟨h.swap, h.eq_left, h.eq_right, fun hq => h.trans (hpq hq)⟩

theorem of_transCmp {α : Type} (cmp : α → α → Ordering) [TransCmp cmp] (a b c : α) :
    Lawful p (cmp a b) (cmp b a) (cmp b c) (cmp a c) where
  swap := OrientedCmp.eq_swap
  eq_left := TransCmp.congr_left
  eq_right h := (TransCmp.congr_right h).symm
  trans _ h := by
    cases hab : cmp a b with
    | lt => exact TransCmp.lt_trans hab (h ▸ hab)
    | eq => exact TransCmp.eq_trans hab (h ▸ hab)
    | gt => exact TransCmp.gt_trans hab (h ▸ hab)

/-- A comparison that goes on where another one leaves off. -/
theorem andThen (h : Lawful p ab ba bc ac) (h' : Lawful p ab' ba' bc' ac') :
    Lawful p (ab.then ab') (ba.then ba') (bc.then bc') (ac.then ac') := by
  obtain ⟨rfl, heq_left, heq_right, htrans⟩ := h
  obtain ⟨rfl, heq_left', heq_right', htrans'⟩ := h'
  refine ⟨(Ordering.swap_then ab ab').symm, ?_, ?_, ?_⟩
  all_goals
    cases ab <;> cases bc <;> grind [Ordering.then]

/-- Of three values in order the first does not come after the last. -/
theorem isLE (h : Lawful p ab ba bc ac) (hp : p) (hab : ab.isLE = true) (hbc : bc.isLE = true) :
    ac.isLE = true := by
  cases ab with
  | lt =>
    cases bc with
    | lt => rw [h.trans hp rfl]; rfl
    | eq => rw [h.eq_right rfl]; rfl
    | gt => cases hbc
  | eq => rw [h.eq_left rfl]; exact hbc
  | gt => cases hab

end Lawful

namespace Binary64

/-! ## Places of doubles -/

/-- The place of a double among the numbers, with NaN after all. -/
def place (x : Binary64) : ℤ :=
  x.place?.getD (infinityMagnitude + 1)

/-- The place that has a given rank: the ranks below zero make room for the second zero. -/
def placeOfRank (r : ℤ) : ℤ :=
  if r < 0 then r + 1 else r

theorem placeOfRank_mono {r r' : ℤ} (h : r ≤ r') : placeOfRank r ≤ placeOfRank r' := by
  unfold placeOfRank
  split <;> split <;> omega

/-- The rank of a double says its place, but that of NaN with the sign bit set does not. -/
theorem placeOfRank_rank {x : Binary64} (hx : x ≠ .nan true) : placeOfRank x.rank = x.place := by
  cases x with
  | nan negative =>
    cases negative with
    | true => exact absurd rfl hx
    | false => decide
  | signed negative m h =>
    cases negative with
    | true =>
      have hrank : (signed true m h).rank = -(m : ℤ) - 1 := rfl
      rw [placeOfRank, hrank, if_pos (by omega), sub_add_cancel]
      rfl
    | false =>
      have hrank : (signed false m h).rank = (m : ℤ) := rfl
      rw [placeOfRank, hrank, if_neg (by omega)]
      rfl

/-- No two doubles have the same rank. -/
theorem rank_injective {x y : Binary64} (h : x.rank = y.rank) : x = y := by
  cases x with
  | nan s =>
    cases y with
    | nan t => cases s <;> cases t <;> simp only [rank] at h <;> first | rfl | omega
    | signed t b hb => cases s <;> cases t <;> simp only [rank] at h <;> omega
  | signed s a ha =>
    cases y with
    | nan t => cases s <;> cases t <;> simp only [rank] at h <;> omega
    | signed t b hb =>
      cases s <;> cases t <;> simp only [rank] at h
      · obtain rfl : a = b := by omega
        rfl
      · omega
      · omega
      · obtain rfl : a = b := by omega
        rfl

theorem ofInt_eq (n : ℤ) : ofInt n = ofMagnitude (n < 0) (nearestMagnitude n.natAbs) := by
  unfold ofInt ofRatio
  rw [magnitudeOfRatio_eq _ one_pos, Nat.cast_one, div_one]

theorem place?_ofInt (n : ℤ) :
    (ofInt n).place? =
      some (if n < 0 then -(nearestMagnitude n.natAbs : ℤ) else nearestMagnitude n.natAbs) := by
  have hmin := Nat.min_eq_left (nearestMagnitude_le (n.natAbs : ℚ))
  rw [ofInt_eq]
  by_cases hn : n < 0
  · simp only [ofMagnitude, hn, decide_true, place?, hmin, if_true]
  · simp only [ofMagnitude, hn, decide_false, place?, hmin, if_false]

/-- Rounding never turns two integers around. -/
theorem place_ofInt_mono {m n : ℤ} (h : m ≤ n) : (ofInt m).place ≤ (ofInt n).place := by
  have hmono {a b : ℕ} (h : a ≤ b) : nearestMagnitude a ≤ nearestMagnitude b :=
    nearestMagnitude_mono (Nat.cast_nonneg a) (Nat.cast_le.2 h)
  simp only [place, place?_ofInt, Option.getD_some]
  split
  · split
    · have := hmono (show n.natAbs ≤ m.natAbs by omega)
      omega
    · omega
  · have := hmono (show m.natAbs ≤ n.natAbs by omega)
    split <;> omega

end Binary64

namespace Number

open Binary64

/-! ## Numbers that are compared the other way round -/

/-- An integer is never the same as a double. -/
theorem compareIntFloat_ne_eq (n : Int64) (x : Binary64) : compareIntFloat n x ≠ .eq := by
  unfold compareIntFloat
  split <;> decide

instance : OrientedCmp totalCompare where
  eq_swap {a b} := by
    cases a with
    | int m =>
      cases b with
      | int n =>
        show compare m.toInt n.toInt = (compare n.toInt m.toInt).swap
        exact OrientedCmp.eq_swap
      | float y => exact (Ordering.swap_swap).symm
    | float x =>
      cases b with
      | int n => rfl
      | float y =>
        show compare x.rank y.rank = (compare y.rank x.rank).swap
        exact OrientedCmp.eq_swap

instance : LawfulEqCmp totalCompare where
  compare_self := ReflCmp.compare_self
  eq_of_compare {a b} h := by
    cases a with
    | int m =>
      cases b with
      | int n =>
        have hmn : m.toInt = n.toInt := compare_eq_iff_eq.1 h
        rw [Int64.toInt_inj.1 hmn]
      | float y => exact absurd h (compareIntFloat_ne_eq m y)
    | float x =>
      cases b with
      | int n => exact absurd (Ordering.swap_eq_eq.1 h) (compareIntFloat_ne_eq n x)
      | float y =>
        have hxy : x.rank = y.rank := compare_eq_iff_eq.1 h
        rw [rank_injective hxy]

/-! ## One order -/

/-- The number is not NaN with the sign bit set. -/
def Regular (n : Number) : Prop :=
  n ≠ .float (.nan true)

instance (n : Number) : Decidable n.Regular :=
  inferInstanceAs (Decidable (n ≠ _))

theorem regular_int (n : Int64) : (Number.int n).Regular :=
  nofun

theorem Regular.of_float {x : Binary64} (h : (Number.float x).Regular) : x ≠ .nan true :=
  fun hx => h (congrArg Number.float hx)

/-- The place of the double nearest to a number. -/
def place (n : Number) : ℤ :=
  n.toFloat.place

/-- Whether a number is a double. -/
def isFloat : Number → Bool
  | .int _ => false
  | .float _ => true

/-- The place of a number among those of its kind. -/
def rank : Number → ℤ
  | .int n => n.toInt
  | .float x => x.rank

/-- The order by a coarser place first is the same order. -/
theorem compare_eq_then {f : ℤ → ℤ} (hf : ∀ {a b : ℤ}, a ≤ b → f a ≤ f b) (a b : ℤ) :
    compare a b = (compare (f a) (f b)).then (compare a b) := by
  rcases lt_trichotomy a b with h | rfl | h
  · rw [compare_lt_iff_lt.2 h]
    rcases lt_or_eq_of_le (hf h.le) with hlt | heq
    · rw [compare_lt_iff_lt.2 hlt]
      rfl
    · rw [compare_eq_iff_eq.2 heq]
      rfl
  · rw [compare_eq_iff_eq.2 rfl, compare_eq_iff_eq.2 rfl]
    rfl
  · rw [compare_gt_iff_gt.2 h]
    rcases lt_or_eq_of_le (hf h.le) with hlt | heq
    · rw [compare_gt_iff_gt.2 hlt]
      rfl
    · rw [compare_eq_iff_eq.2 heq.symm]
      rfl

/-- An integer and a double are ordered by their places, the integer first if these agree. -/
theorem compareIntFloat_eq (n : Int64) (x : Binary64) :
    compareIntFloat n x = (compare (ofInt n.toInt).place x.place).then .lt := by
  cases hx : x.place? with
  | none =>
    have hlt : (ofInt n.toInt).place < x.place := by
      have := nearestMagnitude_le (n.toInt.natAbs : ℚ)
      simp only [Binary64.place, hx, place?_ofInt, Option.getD_some, Option.getD_none]
      split <;> omega
    rw [compare_lt_iff_lt.2 hlt]
    simp only [compareIntFloat, Binary64.compare?, hx, place?_ofInt]
    rfl
  | some q =>
    simp only [compareIntFloat, Binary64.compare?, Binary64.place, hx, place?_ofInt, Option.getD_some]
    cases compare _ q <;> rfl

/-- By the place, then integers before doubles, and then among those of a kind. -/
def placeCompare : Number → Number → Ordering :=
  compareLex (compareOn place) (compareLex (compareOn isFloat) (compareOn rank))

instance : TransCmp placeCompare :=
  inferInstanceAs (TransCmp (compareLex _ _))

/-- The three rules of comparison are one, except for NaN with the sign bit set. -/
theorem totalCompare_eq {a b : Number} (ha : a.Regular) (hb : b.Regular) :
    totalCompare a b = placeCompare a b := by
  cases a with
  | int m =>
    cases b with
    | int n => exact compare_eq_then place_ofInt_mono m.toInt n.toInt
    | float y => exact compareIntFloat_eq m y
  | float x =>
    cases b with
    | int n =>
      have hswap : (compare (ofInt n.toInt).place x.place).swap =
          compare x.place (ofInt n.toInt).place := OrientedCmp.eq_swap.symm
      simp only [totalCompare, compareIntFloat_eq, Ordering.swap_then, hswap]
      rfl
    | float y =>
      have h := compare_eq_then placeOfRank_mono x.rank y.rank
      rw [placeOfRank_rank ha.of_float, placeOfRank_rank hb.of_float] at h
      exact h

/-- The laws of the order of numbers. -/
theorem totalCompare_lawful (a b c : Number) :
    Lawful (a.Regular ∧ b.Regular ∧ c.Regular) (a.totalCompare b) (b.totalCompare a)
      (b.totalCompare c) (a.totalCompare c) where
  swap := OrientedCmp.eq_swap
  eq_left h := by rw [LawfulEqCmp.eq_of_compare h]
  eq_right h := by rw [LawfulEqCmp.eq_of_compare h]
  trans := by
    rintro ⟨ha, hb, hc⟩ h
    rw [totalCompare_eq ha hb, totalCompare_eq hb hc] at h
    rw [totalCompare_eq ha hb, totalCompare_eq ha hc]
    exact (Lawful.of_transCmp (p := True) placeCompare a b c).trans trivial h

/-- A double, an integer above it, and NaN with the sign bit set, each of which comes before the next. -/
theorem not_transitive_of_negative_nan :
    ∃ a b c : Number, a = .float .zero ∧ b = .int 1 ∧ c = .float (.nan true) ∧
      a.totalCompare b = .lt ∧ b.totalCompare c = .lt ∧ c.totalCompare a = .lt :=
  ⟨_, _, _, rfl, rfl, rfl, by decide +kernel, by decide +kernel, by decide +kernel⟩

end Number

end ToolLisp
