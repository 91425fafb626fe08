import Mathlib.Data.Set.Card
import ToolLisp.Proofs.IntegerArithmetic

/-!
# Ranges of integers

The elements of `(range first last step)` are the integers `first + i * step` that lie before `last` in the
direction of `step` (`terms`). The range is measured by a division that rounds up, and its elements are made
one after the other by checked additions. The number of steps before the bound is what is measured
(`before_iff_lt_length`), and every element lies between the two bounds, so each addition has a result. The
range stops at its last element, and no sum behind it is ever asked for. So a range of integers is exact, or
it is too long (`range_of_integers_is_exact`).
-/

namespace ToolLisp

namespace Sequence

/-! ## The elements -/

/-- The integer `x` lies strictly before `last` in the direction of `step`. -/
def Before (step last x : ℤ) : Prop :=
  if 0 < step then x < last else last < x

/-- The integers of a progression that lie before its bound. -/
def terms (first last step : ℤ) : Set ℤ :=
  {x | ∃ i : ℕ, x = first + i * step ∧ Before step last x}

/-- The length of a progression of integers. -/
def intLength (first last step : ℤ) : ℕ :=
  ((if 0 < step then last - first else first - last).toNat + step.natAbs - 1) / step.natAbs

theorem rangeLength_int (first last step : Int64) :
    rangeLength (.int first) (.int last) (.int step) =
      some (intLength first.toInt last.toInt step.toInt) :=
  rfl

/-- The length is the number of steps that lead to integers before the bound. -/
theorem before_iff_lt_length {first last step : ℤ} (h : step ≠ 0) (i : ℕ) :
    Before step last (first + i * step) ↔ i < intLength first last step := by
  have hpos : 0 < step.natAbs := Int.natAbs_pos.2 h
  have hsteps : ((i * step.natAbs : ℕ) : ℤ) = if 0 < step then i * step else -(i * step) := by
    rw [Nat.cast_mul]
    split
    · next hstep => rw [Int.natAbs_of_nonneg hstep.le]
    · next hstep => rw [Int.ofNat_natAbs_of_nonpos (not_lt.1 hstep), mul_neg]
  have hlength : i < intLength first last step ↔
      i * step.natAbs < (if 0 < step then last - first else first - last).toNat := by
    unfold intLength
    rw [← Nat.succ_le_iff, Nat.le_div_iff_mul_le hpos, Nat.succ_mul]
    omega
  rw [hlength]
  unfold Before
  split at hsteps <;> simp only [*, if_true, if_false] <;> omega

theorem terms_eq_image {first last step : ℤ} (h : step ≠ 0) :
    terms first last step =
      (fun i : ℕ => first + i * step) '' (Finset.range (intLength first last step) : Set ℕ) := by
  ext x
  constructor
  · rintro ⟨i, rfl, hi⟩
    exact ⟨i, Finset.mem_coe.2 (Finset.mem_range.2 ((before_iff_lt_length h i).1 hi)), rfl⟩
  · rintro ⟨i, hi, rfl⟩
    exact ⟨i, rfl, (before_iff_lt_length h i).2 (Finset.mem_range.1 (Finset.mem_coe.1 hi))⟩

theorem terms_finite {first last step : ℤ} (h : step ≠ 0) : (terms first last step).Finite := by
  rw [terms_eq_image h]
  exact (Finset.finite_toSet _).image _

/-- The length is the number of integers before the bound. -/
theorem ncard_terms {first last step : ℤ} (h : step ≠ 0) :
    (terms first last step).ncard = intLength first last step := by
  have hinjective : Function.Injective fun i : ℕ => first + i * step := fun i j hij => by
    simpa [h] using hij
  rw [terms_eq_image h, Set.ncard_image_of_injective _ hinjective, Set.ncard_coe_finset,
    Finset.card_range]

/-- The elements of a progression lie between its bounds. -/
theorem fitsInt64_of_before {first last step : Int64} {i : ℕ}
    (h : Before step.toInt last.toInt (first.toInt + i * step.toInt)) :
    FitsInt64 (first.toInt + i * step.toInt) := by
  have hfirst := fitsInt64_toInt first
  have hlast := fitsInt64_toInt last
  unfold Before at h
  rw [fitsInt64_iff] at hfirst hlast ⊢
  split at h
  · next hstep =>
    have hsteps : 0 ≤ i * step.toInt := mul_nonneg (Int.natCast_nonneg i) hstep.le
    omega
  · next hstep =>
    have hsteps : i * step.toInt ≤ 0 :=
      mul_nonpos_of_nonneg_of_nonpos (Int.natCast_nonneg i) (not_lt.1 hstep)
    omega

/-! ## The additions -/

/-- The integers of a progression, which are right as long as they fit. -/
def elements (first step : ℤ) (n : ℕ) : List Int64 :=
  (List.range n).map fun i : ℕ => Int64.ofInt (first + i * step)

theorem map_toInt_elements {first step : ℤ} {n : ℕ} (h : ∀ i < n, FitsInt64 (first + i * step)) :
    (elements first step n).map Int64.toInt = (List.range n).map fun i : ℕ => first + i * step := by
  rw [elements, List.map_map]
  refine List.map_congr_left fun i hi => ?_
  exact toInt_ofInt_of_fits (h i (List.mem_range.1 hi))

/-- Each integer is the sum of the one before it and the step. -/
theorem elements_isChain {first : ℤ} {step : Int64} {n : ℕ}
    (h : ∀ i < n, FitsInt64 (first + i * step.toInt)) :
    (elements first step.toInt n).IsChain fun x y => (Number.int x).add (.int step) = .ok (.int y) := by
  rw [elements, List.isChain_map, List.isChain_range]
  intro i hi
  refine Number.add_int_eq_ok ?_
  rw [toInt_ofInt_of_fits (h i (by omega)), toInt_ofInt_of_fits (h (i + 1) (by omega)), Nat.cast_succ]
  ring

/-- As long as the sums exist, a progression is made of them. The induction is on the integers behind the
current one. -/
theorem rangeFrom_of_isChain {step x : Int64} {xs : List Int64} (done : List Value)
    (h : (x :: xs).IsChain fun x y => (Number.int x).add (.int step) = .ok (.int y)) :
    rangeFrom (.int step) (.int x) done (xs.length + 1) = .ok (done.reverse ++ Value.ofInts (x :: xs)) := by
  induction xs generalizing x done with
  | nil => simp [rangeFrom, Value.ofInts]
  | cons y xs ih =>
    obtain ⟨hadd, hrest⟩ := List.isChain_cons_cons.1 h
    rw [List.length_cons, rangeFrom, hadd]
    exact (ih _ hrest).trans (by simp [Value.ofInts])

theorem rangeFrom_elements {first step : Int64} {n : ℕ}
    (h : ∀ i < n, FitsInt64 (first.toInt + i * step.toInt)) :
    rangeFrom (.int step) (.int first) [] n = .ok (Value.ofInts (elements first.toInt step.toInt n)) := by
  have hchain := elements_isChain h
  have hlength : (elements first.toInt step.toInt n).length = n := by simp [elements]
  have hhead : ∀ x ∈ (elements first.toInt step.toInt n).head?, x = first := by
    cases n <;> simp [elements, List.range_succ_eq_map, Int64.ofInt_toInt]
  cases hxs : elements first.toInt step.toInt n with
  | nil =>
    rw [hxs] at hlength
    rw [← hlength]
    rfl
  | cons x xs =>
    rw [hxs] at hchain hlength hhead
    obtain rfl : x = first := hhead x rfl
    rw [← hlength]
    exact rangeFrom_of_isChain [] hchain

/-- A progression of integers has all its elements, or it is too long. -/
theorem progression_ints {first last step : Int64} (h : step ≠ 0) {n : ℕ}
    (hn : intLength first.toInt last.toInt step.toInt = n) :
    progression (.int first) (.int last) (.int step) =
      if rangeLimit < n then .error (.tooLong "range" rangeLimit)
      else .ok (Value.ofInts (elements first.toInt step.toInt n)) := by
  have hstep := toInt_ne_zero h
  have hzero : ((Number.int step).isZero || (Number.int step).isNaN) = false := by
    simp [Number.isZero, Number.isNaN, h]
  have hfits : ∀ i < n, FitsInt64 (first.toInt + i * step.toInt) := by
    intro i hi
    rw [← hn] at hi
    exact fitsInt64_of_before ((before_iff_lt_length hstep i).2 hi)
  unfold progression
  rw [hzero, rangeLength_int, hn]
  simp only [Bool.false_eq_true, if_false, rangeFrom_elements hfits]

theorem range_numbers (first last step : Number) :
    range (.number first) (some (.number last)) (some (.number step)) =
      ((progression first last step).map Value.vector).mapError .arithmetic := by
  simp only [range, Value.asNumber, Option.mapM_some, Except.map_ok, bind, Except.bind, Option.getD_some]
  cases progression first last step <;> rfl

end Sequence

/-! ## Calls of `range` -/

/-- The call of `range` with integers. -/
def callRange (h : Host) (d : Nat) (args : List Int64) : EvalM Value :=
  callAt h (d + 1) (.builtin (.sequence .range)) (Value.ofInts args)

theorem callRange_eq (h : Host) (d : Nat) (first last step : Int64) :
    callRange h d [first, last, step] =
      .ofChecked (((Sequence.progression (.int first) (.int last) (.int step)).map Value.vector).mapError
        .arithmetic) := by
  rw [← Sequence.range_numbers]
  exact callAt_of_act rfl h d

open Sequence in
/-- For all integers `first` and `last` and every `step` other than zero, `range` gives the integers of the
progression before `last`, in their order, if there are no more than a million. Each is the sum of the one before
it and the step, and this sum never fails. If there are more, the range is too long, and there is no other
error. A missing step is one, and a missing first integer is zero. -/
theorem range_of_integers_is_exact (h : Host) (d : Nat) (s : RunState) (first last step : Int64)
    (hstep : step ≠ 0) :
    (terms first.toInt last.toInt step.toInt).Finite ∧
    (∃ n, n = (terms first.toInt last.toInt step.toInt).ncard ∧
      (n ≤ 1000000 → ∃ xs : List Int64,
        callRange h d [first, last, step] s = (.ok (.vector (Value.ofInts xs)), s) ∧
        xs.map Int64.toInt = (List.range n).map (fun i : ℕ => first.toInt + i * step.toInt) ∧
        xs.IsChain fun x y => (Number.int x).add (.int step) = .ok (.int y)) ∧
      (1000000 < n → ∃ e : ArithmeticError,
        callRange h d [first, last, step] s = (.error (.error (.arithmetic e)), s) ∧
        e = .tooLong "range" 1000000 ∧ e.message = "range: more than 1000000 elements")) ∧
    (∀ op s', callRange h d [first, last, step] s ≠ (.error (.error (.arithmetic (.overflow op))), s')) ∧
    callRange h d [first, last] = callRange h d [first, last, 1] ∧
    callRange h d [last] = callRange h d [0, last, 1] := by
  have hstep' := toInt_ne_zero hstep
  have hfits : ∀ i < intLength first.toInt last.toInt step.toInt,
      FitsInt64 (first.toInt + i * step.toInt) := fun i hi =>
    fitsInt64_of_before ((before_iff_lt_length hstep' i).2 hi)
  have hlimit : rangeLimit = 1000000 := rfl
  have hcall := callRange_eq h d first last step
  rw [progression_ints hstep rfl, hlimit] at hcall
  refine ⟨terms_finite hstep', ⟨_, (ncard_terms hstep').symm, fun hn => ?_, fun hn => ?_⟩, ?_, rfl, rfl⟩
  · rw [if_neg (not_lt.2 hn)] at hcall
    exact ⟨_, congrFun hcall s, map_toInt_elements hfits, elements_isChain hfits⟩
  · rw [if_pos hn] at hcall
    exact ⟨_, congrFun hcall s, rfl, rfl⟩
  · intro op s' hoverflow
    rw [hcall] at hoverflow
    split at hoverflow <;> cases hoverflow

/-- The step is the least integer. Behind the last element there would be a sum that does not fit. A range over
all integers is too long. -/
theorem range_of_integers_is_exact_at_extremes :
    ∃ (h : Host) (s : RunState),
      callRange h 0 [Int64.maxValue, Int64.minValue, Int64.minValue] s =
        (.ok (.vector (Value.ofInts [Int64.maxValue, -1])), s) ∧
      callRange h 0 [Int64.minValue, Int64.maxValue] s =
        (.error (.error (.arithmetic (.tooLong "range" 1000000))), s) := by
  let h : Host := .bare
  let s : RunState := .fresh
  refine ⟨h, s, ?_, ?_⟩
  · obtain ⟨-, ⟨n, hn, hshort, -⟩, -⟩ :=
      range_of_integers_is_exact h 0 s Int64.maxValue Int64.minValue Int64.minValue (by decide)
    obtain rfl : n = 2 := by
      rw [hn, Sequence.ncard_terms (by decide)]
      decide
    obtain ⟨xs, hcall, hxs, -⟩ := hshort (by decide)
    have hinjective : Function.Injective (List.map Int64.toInt) :=
      List.map_injective_iff.2 fun _ _ => Int64.toInt_inj.1
    obtain rfl : xs = [Int64.maxValue, -1] := hinjective (hxs.trans (by decide))
    exact hcall
  · obtain ⟨-, ⟨n, hn, -, hlong⟩, -, htwo, -⟩ :=
      range_of_integers_is_exact h 0 s Int64.minValue Int64.maxValue 1 (by decide)
    obtain ⟨e, hcall, rfl, -⟩ := hlong (by
      rw [hn, Sequence.ncard_terms (by decide)]
      decide)
    rw [htwo]
    exact hcall

end ToolLisp
