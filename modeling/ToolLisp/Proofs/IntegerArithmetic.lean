import Mathlib.Data.Int.ModEq
import ToolLisp.Proofs.KeyedAccess
import ToolLisp.Proofs.NumberText

/-!
# Arithmetic of integers

An integer result is exact, or there is none. `FitsInt64` says of an integer of any size that it is a 64-bit
one. A sum is the exact one if that fits, and an error otherwise (`Number.add_int`).

`quot`, `rem` and `mod` obey the laws of division (`integer_division_laws`). A remainder that lies on the
other side of zero than the divisor is moved by the divisor. The two have different signs, so this cannot
overflow.

A list of integers is added up from left to right, in whatever way it is written (`integer_sums_agree`). So
the sum exists if all sums of first elements fit, and these are what the four ways have in common.
-/

namespace ToolLisp

/-! ## 64-bit integers -/

/-- The integer is a 64-bit one. -/
def FitsInt64 (n : ℤ) : Prop :=
  Int64.minValue.toInt ≤ n ∧ n ≤ Int64.maxValue.toInt

instance (n : ℤ) : Decidable (FitsInt64 n) :=
  inferInstanceAs (Decidable (_ ∧ _))

theorem fitsInt64_iff {n : ℤ} : FitsInt64 n ↔ -2 ^ 63 ≤ n ∧ n < 2 ^ 63 := by
  unfold FitsInt64
  rw [Int64.toInt_minValue, Int64.toInt_maxValue]
  omega

theorem fitsInt64_toInt (x : Int64) : FitsInt64 x.toInt :=
  ⟨Int64.minValue_le_toInt x, Int64.toInt_le x⟩

theorem toInt_ne_zero {x : Int64} (h : x ≠ 0) : x.toInt ≠ 0 :=
  fun h₀ => h (Int64.toInt_inj.1 h₀)

theorem toInt_ofInt_of_fits {n : ℤ} (h : FitsInt64 n) : (Int64.ofInt n).toInt = n :=
  Int64.toInt_ofInt_of_le (fitsInt64_iff.1 h).1 (fitsInt64_iff.1 h).2

/-- A sum that fits is not wrapped around. -/
theorem toInt_add_of_fits {a b : Int64} (h : FitsInt64 (a.toInt + b.toInt)) :
    (a + b).toInt = a.toInt + b.toInt := by
  have hsum : a + b = Int64.ofInt (a.toInt + b.toInt) := by
    rw [Int64.ofInt_add, Int64.ofInt_toInt, Int64.ofInt_toInt]
  rw [hsum, toInt_ofInt_of_fits h]

theorem int64?_of_fits {n : ℤ} (h : FitsInt64 n) : int64? n = some (Int64.ofInt n) :=
  if_pos h

theorem int64?_of_not_fits {n : ℤ} (h : ¬ FitsInt64 n) : int64? n = none :=
  if_neg h

theorem int64?_eq_some_iff {n : ℤ} {x : Int64} : int64? n = some x ↔ x.toInt = n := by
  refine ⟨fun h => ?_, fun h => h ▸ Number.int64?_toInt x⟩
  by_cases hn : FitsInt64 n
  · rw [int64?_of_fits hn] at h
    rw [← Option.some.inj h, toInt_ofInt_of_fits hn]
  · rw [int64?_of_not_fits hn] at h
    cases h

/-- A sum of integers as a number, or its overflow. -/
def Number.ofSum : Option Int64 → Except ArithmeticError Number
  | some t => .ok (.int t)
  | none => .error (.overflow "+")

/-- The sum of two integers is the exact one if that fits. -/
theorem Number.add_int (a b : Int64) : (Number.int a).add (.int b) = ofSum (int64? (a.toInt + b.toInt)) := by
  change Number.checked "+" (a.toInt + b.toInt) = _
  unfold Number.checked
  cases int64? (a.toInt + b.toInt) <;> rfl

theorem Number.add_int_eq_ok {a b c : Int64} (h : c.toInt = a.toInt + b.toInt) :
    (Number.int a).add (.int b) = .ok (.int c) := by
  rw [Number.add_int, int64?_eq_some_iff.2 h]
  rfl

/-! ## Division -/

/-- The laws of the quotient `q` of `a` and `b` and of the remainder `r`, which are those of a division towards
zero, and of the modulus `m`. -/
structure DivisionLaws (a b q r m : ℤ) : Prop where
  quotient : a = q * b + r
  remainder_lt : r.natAbs < b.natAbs
  remainder_sign : r = 0 ∨ r.sign = a.sign
  congruent : m ≡ a [ZMOD b]
  modulus_lt : m.natAbs < b.natAbs
  modulus_sign : m = 0 ∨ m.sign = b.sign

/-- To have the sign of the divisor is to lie on its side of zero. -/
theorem eq_zero_or_sign_eq_iff {b m : ℤ} (hb : b ≠ 0) :
    m = 0 ∨ m.sign = b.sign ↔ (b < 0 → m ≤ 0) ∧ (0 < b → 0 ≤ m) := by
  rcases lt_or_gt_of_ne hb with hb | hb
  · rw [Int.sign_eq_neg_one_of_neg hb, Int.sign_eq_neg_one_iff_neg]
    omega
  · rw [Int.sign_eq_one_of_pos hb, Int.sign_eq_one_iff_pos]
    omega

/-- The modulus is the floored one, because its laws leave no other. -/
theorem DivisionLaws.eq_fmod {a b q r m : ℤ} (h : DivisionLaws a b q r m) : m = a.fmod b := by
  have hlt := h.modulus_lt
  have hb : b ≠ 0 := by omega
  have hside := (eq_zero_or_sign_eq_iff hb).1 h.modulus_sign
  have hdvd : b ∣ a.fmod b - m := by
    have ha : a.fmod b ≡ a [ZMOD b] := by
      rw [Int.fmod_def]
      exact Int.modEq_iff_dvd.2 ⟨a.fdiv b, by ring⟩
    exact (h.congruent.trans ha.symm).dvd
  refine (Int.sub_eq_zero.1 (Int.eq_zero_of_dvd_of_natAbs_lt_natAbs hdvd ?_)).symm
  -- both lie between zero and the divisor
  rcases lt_or_gt_of_ne hb with hb | hb
  · have hge := Int.fmod_nonneg_of_pos (-a) (Int.neg_pos_of_neg hb)
    have hlt' := Int.fmod_lt_of_pos (-a) (Int.neg_pos_of_neg hb)
    rw [Int.neg_fmod_neg] at hge hlt'
    omega
  · have hge := Int.fmod_nonneg_of_pos a hb
    have hlt' := Int.fmod_lt_of_pos a hb
    omega

/-- A remainder and a divisor with different signs. -/
def OppositeSigns (r b : ℤ) : Prop :=
  r ≠ 0 ∧ ¬(r < 0 ↔ b < 0)

/-- `m` is the remainder `r`, moved by the divisor `b` if the two have different signs. -/
def Moved (r b m : ℤ) : Prop :=
  OppositeSigns r b ∧ m = r + b ∨ ¬ OppositeSigns r b ∧ m = r

theorem Moved.modEq {r b m : ℤ} (h : Moved r b m) : m ≡ r [ZMOD b] := by
  rcases h with ⟨-, rfl⟩ | ⟨-, rfl⟩
  · exact Int.add_modEq_right
  · rfl

/-- A remainder that is moved is still less than the divisor, and lies on its side of zero. -/
theorem Moved.side {r b m : ℤ} (h : Moved r b m) (hlt : r.natAbs < b.natAbs) :
    m.natAbs < b.natAbs ∧ (b < 0 → m ≤ 0) ∧ (0 < b → 0 ≤ m) := by
  unfold Moved OppositeSigns at h
  omega

theorem Moved.divisionLaws {a b m : ℤ} (h : Moved (a.tmod b) b m) (hb : b ≠ 0) :
    DivisionLaws a b (a.tdiv b) (a.tmod b) m := by
  have hlt : (a.tmod b).natAbs < b.natAbs := by
    rw [Int.natAbs_tmod]
    exact Nat.mod_lt _ (Int.natAbs_pos.2 hb)
  have hmod : a.tmod b ≡ a [ZMOD b] := by
    rw [Int.tmod_def]
    exact Int.modEq_iff_dvd.2 ⟨a.tdiv b, by ring⟩
  have hsign : a.tmod b = 0 ∨ (a.tmod b).sign = a.sign := by
    rw [Int.sign_tmod]
    split
    · next hdvd => exact .inl (Int.tmod_eq_zero_of_dvd hdvd)
    · exact .inr rfl
  obtain ⟨hmlt, hside⟩ := h.side hlt
  exact ⟨(Int.tdiv_mul_add_tmod a b).symm, hlt, hsign, h.modEq.trans hmod, hmlt,
    (eq_zero_or_sign_eq_iff hb).2 hside⟩

/-- Adding the divisor to a remainder of the opposite sign does not overflow. -/
theorem fitsInt64_add_of_oppositeSigns {r b : Int64} (h : OppositeSigns r.toInt b.toInt) :
    FitsInt64 (r.toInt + b.toInt) := by
  have hr := fitsInt64_toInt r
  have hb := fitsInt64_toInt b
  unfold OppositeSigns at h
  rw [fitsInt64_iff] at hr hb ⊢
  omega

theorem oppositeSigns_iff {r b : Int64} : OppositeSigns r.toInt b.toInt ↔ r ≠ 0 ∧ ¬(r < 0 ↔ b < 0) := by
  simp [OppositeSigns, Int64.lt_iff_toInt_lt, ← Int64.toInt_inj]

namespace Number

theorem intMod_of_oppositeSigns {a b : Int64} (h : OppositeSigns (a % b).toInt b.toInt) :
    intMod a b = a % b + b :=
  if_pos (oppositeSigns_iff.1 h)

/-- The modulus is the remainder, moved to the side of the divisor, and this does not overflow. -/
theorem intMod_moved (a b : Int64) : Moved (a % b).toInt b.toInt (intMod a b).toInt := by
  by_cases h : OppositeSigns (a % b).toInt b.toInt
  · refine .inl ⟨h, ?_⟩
    rw [intMod_of_oppositeSigns h, toInt_add_of_fits (fitsInt64_add_of_oppositeSigns h)]
  · exact .inr ⟨h, congrArg Int64.toInt (if_neg (mt oppositeSigns_iff.2 h))⟩

theorem toInt_div_of_fits {a b : Int64} (h : ¬(a = Int64.minValue ∧ b = -1)) :
    (a / b).toInt = a.toInt.tdiv b.toInt := by
  by_cases ha : a = Int64.minValue
  · exact Int64.toInt_div_of_ne_right a b fun hb => h ⟨ha, hb⟩
  · exact Int64.toInt_div_of_ne_left a b ha

/-- The operations on 64-bit integers obey the laws of division. -/
theorem int64_divisionLaws {a b : Int64} (hb : b ≠ 0) (h : ¬(a = Int64.minValue ∧ b = -1)) :
    DivisionLaws a.toInt b.toInt (a / b).toInt (a % b).toInt (intMod a b).toInt := by
  have hmoved := intMod_moved a b
  rw [Int64.toInt_mod] at hmoved ⊢
  rw [toInt_div_of_fits h]
  exact hmoved.divisionLaws (toInt_ne_zero hb)

end Number

/-! ### Calls -/

/-- The call of a function with two integers. -/
def callInts (h : Host) (n : Nat) (f : NumberFn) (a b : Int64) : EvalM Value :=
  callAt h (n + 1) (.builtin (.number f)) [.number (.int a), .number (.int b)]

/-- The functions that divide integers, with their names and with what they compute if they can. -/
inductive Divides : NumberFn → String → (Int64 → Int64 → Int64) → Prop
  | quot : Divides .quot "quot" (· / ·)
  | rem : Divides .rem "rem" (· % ·)
  | mod : Divides .mod "mod" Number.intMod

theorem Divides.callInts_eq {f : NumberFn} {name : String} {g : Int64 → Int64 → Int64}
    (hf : Divides f name g) (h : Host) (n : Nat) (a b : Int64) :
    callInts h n f a b = .ofChecked (NumberFn.checked (Number.divideInts name g a b)) := by
  cases hf <;> exact callAt_of_act rfl h n

theorem Divides.callInts_eq_ok {f : NumberFn} {name : String} {g : Int64 → Int64 → Int64}
    (hf : Divides f name g) (h : Host) (n : Nat) (s : RunState) {a b : Int64} (hb : b ≠ 0)
    (hfits : ¬(a = Int64.minValue ∧ b = -1)) :
    callInts h n f a b s = (.ok (.number (.int (g a b))), s) := by
  rw [hf.callInts_eq, Number.divideInts, if_neg hb, if_neg hfits]
  rfl

/-- For all integers `a` and `b`, but for a zero divisor and the one quotient that does not fit, `quot`, `rem`
and `mod` give integers that obey the laws of division, and `mod` gives the floored modulus. If the remainder
and the divisor have different signs, the modulus is their sum, and that sum fits. A zero divisor and a
quotient that does not fit are errors. -/
theorem integer_division_laws (h : Host) (n : Nat) (s : RunState) (a b : Int64) :
    (b ≠ 0 → ¬(a = Int64.minValue ∧ b = -1) → ∃ q r m : Int64,
      callInts h n .quot a b s = (.ok (.number (.int q)), s) ∧
      callInts h n .rem a b s = (.ok (.number (.int r)), s) ∧
      callInts h n .mod a b s = (.ok (.number (.int m)), s) ∧
      DivisionLaws a.toInt b.toInt q.toInt r.toInt m.toInt ∧ m.toInt = a.toInt.fmod b.toInt ∧
      (r ≠ 0 → ¬(r < 0 ↔ b < 0) → m = r + b ∧ FitsInt64 (r.toInt + b.toInt))) ∧
    ∀ f name g, Divides f name g →
      (b = 0 → callInts h n f a b s = (.error (.error (.arithmetic (.divisionByZero name))), s)) ∧
      (a = Int64.minValue → b = -1 →
        callInts h n f a b s = (.error (.error (.arithmetic (.overflow name))), s)) := by
  refine ⟨fun hb hfits => ?_, fun f name g hf => ⟨fun hb => ?_, fun ha hb => ?_⟩⟩
  · have hlaws := Number.int64_divisionLaws hb hfits
    refine ⟨_, _, _, Divides.quot.callInts_eq_ok h n s hb hfits, Divides.rem.callInts_eq_ok h n s hb hfits,
      Divides.mod.callInts_eq_ok h n s hb hfits, hlaws, hlaws.eq_fmod, fun hr hsign => ?_⟩
    have ho := oppositeSigns_iff.2 ⟨hr, hsign⟩
    exact ⟨Number.intMod_of_oppositeSigns ho, fitsInt64_add_of_oppositeSigns ho⟩
  · rw [hf.callInts_eq, Number.divideInts, if_pos hb]
    rfl
  · rw [hf.callInts_eq, Number.divideInts, if_neg (by rw [hb]; decide), if_pos ⟨ha, hb⟩]
    rfl

/-- The least and the greatest integer. The remainder is negative and the divisor is not. -/
theorem integer_division_laws_of_extremes :
    ∃ (h : Host) (s : RunState),
      (∃ q r m : Int64,
        callInts h 0 .quot Int64.minValue Int64.maxValue s = (.ok (.number (.int q)), s) ∧
        callInts h 0 .rem Int64.minValue Int64.maxValue s = (.ok (.number (.int r)), s) ∧
        callInts h 0 .mod Int64.minValue Int64.maxValue s = (.ok (.number (.int m)), s) ∧
        r = -1 ∧ m = r + Int64.maxValue ∧ m.toInt = 9223372036854775806) ∧
      callInts h 0 .rem Int64.minValue 0 s = (.error (.error (.arithmetic (.divisionByZero "rem"))), s) ∧
      callInts h 0 .mod Int64.minValue (-1) s = (.error (.error (.arithmetic (.overflow "mod"))), s) := by
  let h : Host := .bare
  let s : RunState := .fresh
  refine ⟨h, s, ?_, ?_, ?_⟩
  · obtain ⟨q, r, m, hq, hr, hm, -, hfmod, hsum⟩ :=
      (integer_division_laws h 0 s Int64.minValue Int64.maxValue).1 (by decide) (by decide)
    have hr' : r = -1 := by
      have hrem : callInts h 0 .rem Int64.minValue Int64.maxValue s = (.ok (.number (.int (-1))), s) := rfl
      rw [hr] at hrem
      cases hrem
      rfl
    refine ⟨q, r, m, hq, hr, hm, hr', (hsum (by rw [hr']; decide) (by rw [hr']; decide)).1, ?_⟩
    rw [hfmod]
    decide
  · exact ((integer_division_laws h 0 s Int64.minValue 0).2 _ _ _ .rem).1 rfl
  · exact ((integer_division_laws h 0 s Int64.minValue (-1)).2 _ _ _ .mod).2 rfl rfl

/-! ## Sums -/

/-- The sum of `a` and further integers, from left to right, if all sums on the way fit. -/
def runningSum (a : Int64) (xs : List Int64) : Option Int64 :=
  xs.foldlM (fun a x => int64? (a.toInt + x.toInt)) a

theorem runningSum_cons (a x : Int64) (xs : List Int64) :
    runningSum a (x :: xs) = (int64? (a.toInt + x.toInt)).bind fun a => runningSum a xs :=
  List.foldlM_cons

/-- It does not matter whether a sum begins with zero or with the first integer. -/
theorem runningSum_zero_cons (x : Int64) (xs : List Int64) : runningSum 0 (x :: xs) = runningSum x xs := by
  rw [runningSum_cons, Int64.toInt_zero, zero_add, Number.int64?_toInt]
  rfl

/-- If all sums of first integers fit, the sum is the exact one. -/
theorem runningSum_of_fits {a : Int64} {xs : List Int64}
    (h : ∀ p, p <+: xs → FitsInt64 (a.toInt + (p.map Int64.toInt).sum)) :
    ∃ t, t.toInt = a.toInt + (xs.map Int64.toInt).sum ∧ runningSum a xs = some t := by
  induction xs generalizing a with
  | nil => exact ⟨a, by simp, rfl⟩
  | cons x xs ih =>
    have hx : FitsInt64 (a.toInt + x.toInt) := by simpa using h [x] (by simp)
    have hsum := toInt_ofInt_of_fits hx
    obtain ⟨t, ht, hrun⟩ := @ih (Int64.ofInt (a.toInt + x.toInt)) fun p hp => by
      rw [hsum, add_assoc]
      simpa using h (x :: p) (List.cons_prefix_cons.2 ⟨rfl, hp⟩)
    refine ⟨t, ?_, ?_⟩
    · rw [ht, hsum, List.map_cons, List.sum_cons, add_assoc]
    · rw [runningSum_cons, int64?_of_fits hx]
      exact hrun

/-- If some sum of first integers does not fit, there is no sum. -/
theorem runningSum_of_not_fits {a : Int64} {xs p : List Int64} (hp : p <+: xs)
    (h : ¬ FitsInt64 (a.toInt + (p.map Int64.toInt).sum)) : runningSum a xs = none := by
  induction xs generalizing a p with
  | nil =>
    rw [List.prefix_nil.1 hp] at h
    exact absurd (by simpa using fitsInt64_toInt a) h
  | cons x xs ih =>
    rw [runningSum_cons]
    by_cases hx : FitsInt64 (a.toInt + x.toInt)
    · rw [int64?_of_fits hx]
      rcases List.prefix_cons_iff.1 hp with rfl | ⟨q, rfl, hq⟩
      · exact absurd (by simpa using fitsInt64_toInt a) h
      · refine ih hq ?_
        rwa [toInt_ofInt_of_fits hx, add_assoc, ← List.sum_cons, ← List.map_cons]
    · rw [int64?_of_not_fits hx]
      rfl

/-- Every fold whose step adds integers computes the running sum. What becomes of the sum is `out`, and if there
is none, nothing follows. -/
theorem foldlM_eq_runningSum {m : Type → Type} [Monad m] {α β : Type} {step : α → β → m α} {left : Int64 → α}
    {right : Int64 → β} {out : Option Int64 → m α}
    (hstep : ∀ a x, step (left a) (right x) = out (int64? (a.toInt + x.toInt)))
    (hpure : ∀ t, out (some t) = pure (left t)) (hsome : ∀ t (k : α → m α), out (some t) >>= k = k (left t))
    (hnone : ∀ k : α → m α, out none >>= k = out none) (a : Int64) (xs : List Int64) :
    (xs.map right).foldlM step (left a) = out (runningSum a xs) := by
  induction xs generalizing a with
  | nil => exact (hpure a).symm
  | cons x xs ih =>
    rw [List.map_cons, List.foldlM_cons, hstep, runningSum_cons]
    cases int64? (a.toInt + x.toInt) with
    | none => exact hnone _
    | some t => rw [hsome, ih]; rfl

/-- Integers as values. -/
def Value.ofInts (xs : List Int64) : List Value :=
  xs.map fun x => .number (.int x)

/-- What a sum of integers comes to. -/
def sumOutcome (sum : Option Int64) : Checked Value :=
  NumberFn.checked (Number.ofSum sum)

theorem NumberFn.binary_add_ints (a x : Int64) :
    binary "+" Number.add (.number (.int a)) (.number (.int x)) =
      sumOutcome (int64? (a.toInt + x.toInt)) :=
  congrArg checked (Number.add_int a x)

/-- The function `+` computes the running sum, whether it gets no argument, one or more. -/
theorem NumberFn.sum_ints (xs : List Int64) : sum (Value.ofInts xs) = sumOutcome (runningSum 0 xs) := by
  have hfold (x : Int64) (xs : List Int64) :
      (Value.ofInts xs).foldlM (binary "+" Number.add) (.number (.int x)) =
        sumOutcome (runningSum 0 (x :: xs)) := by
    rw [runningSum_zero_cons]
    exact foldlM_eq_runningSum binary_add_ints (fun _ => rfl) (fun _ _ => rfl) (fun _ => rfl) x xs
  cases xs with
  | nil => rfl
  | cons x xs =>
    cases xs with
    | nil => exact hfold x []
    | cons y xs => exact hfold x (y :: xs)

theorem Value.mapM_asNumber_ints (name : String) (xs : List Int64) :
    (ofInts xs).mapM (·.asNumber name) = .ok (xs.map Number.int) := by
  induction xs with
  | nil => rfl
  | cons x xs ih =>
    change (Value.number (.int x) :: ofInts xs).mapM _ = _
    rw [List.mapM_cons, ih]
    rfl

theorem Sequence.numbers_ints (name : String) (xs : List Int64) :
    numbers name (Value.ofInts xs) = .ok (xs.map Number.int) := by
  have hfilter : (Value.ofInts xs).filter (fun v => !v.isNil) = Value.ofInts xs := by
    simp [Value.ofInts, Value.isNil, List.filter_eq_self]
  rw [numbers, hfilter, Value.mapM_asNumber_ints]

theorem Sequence.total_ints (xs : List Int64) :
    total (xs.map Number.int) = (Number.ofSum (runningSum 0 xs)).mapError .arithmetic := by
  have hfold : (xs.map Number.int).foldlM Number.add (.int 0) = Number.ofSum (runningSum 0 xs) :=
    foldlM_eq_runningSum Number.add_int (fun _ => rfl) (fun _ _ => rfl) (fun _ => rfl) 0 xs
  unfold total
  rw [hfold]
  cases runningSum 0 xs <;> rfl

theorem Sequence.sumOf_ints (name : String) (xs : List Int64) :
    sumOf name (Value.ofInts xs) = sumOutcome (runningSum 0 xs) := by
  unfold sumOf
  rw [numbers_ints]
  change total (xs.map Number.int) >>= _ = _
  rw [total_ints]
  cases runningSum 0 xs <;> rfl

/-- Combining items one after the other is a fold of calls. -/
theorem Sequence.reduceFrom_run (call : Value → List Value → EvalM Value) (f acc : Value)
    (items : List Value) :
    (reduceFrom f acc items).run call = items.foldlM (fun acc x => call f [acc, x]) acc := by
  induction items generalizing acc with
  | nil => rfl
  | cons x items ih =>
    rw [reduceFrom, Action.run_call, List.foldlM_cons]
    exact bind_congr fun v => ih v

/-- The function `+`. -/
def Value.plus : Value :=
  .builtin (.number .add)

/-- The ways to add up integers: with `sum`, by a call of `+` with all of them, and by combining them with `+`,
from the first or from zero on. -/
inductive AddsUp (xs : List Int64) : SequenceFn → List Value → Prop
  | sum : AddsUp xs .sum [.vector (Value.ofInts xs)]
  | apply : AddsUp xs .apply [.plus, .vector (Value.ofInts xs)]
  | reduce : AddsUp xs .reduce [.plus, .vector (Value.ofInts xs)]
  | reduceFromZero : AddsUp xs .reduce [.plus, .number (.int 0), .vector (Value.ofInts xs)]

theorem callAt_plus_ints (h : Host) (n : Nat) (xs : List Int64) :
    callAt h (n + 1) .plus (Value.ofInts xs) = .ofChecked (sumOutcome (runningSum 0 xs)) := by
  rw [← NumberFn.sum_ints]
  exact callAt_of_act rfl h n

theorem reduceFrom_plus_ints (h : Host) (n : Nat) (a : Int64) (xs : List Int64) :
    (Sequence.reduceFrom .plus (.number (.int a)) (Value.ofInts xs)).run (callAt h (n + 1)) =
      .ofChecked (sumOutcome (runningSum a xs)) := by
  rw [Sequence.reduceFrom_run]
  have hstep (a x : Int64) : callAt h (n + 1) .plus [.number (.int a), .number (.int x)] =
      .ofChecked (sumOutcome (int64? (a.toInt + x.toInt))) := by
    have hsum := callAt_plus_ints h n [a, x]
    rw [runningSum_zero_cons, runningSum_cons] at hsum
    refine hsum.trans ?_
    cases int64? (a.toInt + x.toInt) <;> rfl
  exact @foldlM_eq_runningSum EvalM _ _ _ _ _ _ (fun o => .ofChecked (sumOutcome o)) hstep (fun _ => rfl)
    (fun _ _ => rfl) (fun _ => rfl) a xs

/-- Each way computes the running sum. -/
theorem AddsUp.callAt_eq {xs : List Int64} {f : SequenceFn} {args : List Value} (hf : AddsUp xs f args)
    (h : Host) (n : Nat) :
    callAt h (n + 2) (.builtin (.sequence f)) args = .ofChecked (sumOutcome (runningSum 0 xs)) := by
  cases hf with
  | sum =>
    rw [← Sequence.sumOf_ints "sum"]
    exact callAt_of_act rfl h (n + 1)
  | apply =>
    rw [← callAt_plus_ints h n]
    exact callAt_of_act_invoke rfl h (n + 1)
  | reduce =>
    cases xs with
    | nil =>
      rw [← callAt_plus_ints h n]
      exact callAt_of_act_invoke rfl h (n + 1)
    | cons x xs =>
      rw [runningSum_zero_cons]
      exact reduceFrom_plus_ints h n x xs
  | reduceFromZero => exact reduceFrom_plus_ints h n 0 xs

/-- The four ways to add up integers come to the same, for every list of integers, when two more calls may be
nested. If all sums of first integers fit, it is the exact sum. If one of them does not, it is the error of an
overflow. -/
theorem integer_sums_agree (h : Host) (n : Nat) (s : RunState) (xs : List Int64) :
    ∃ outcome,
      (∀ f args, AddsUp xs f args → callAt h (n + 2) (.builtin (.sequence f)) args s = (outcome, s)) ∧
      ((∀ p, p <+: xs → FitsInt64 (p.map Int64.toInt).sum) →
        ∃ t : Int64, t.toInt = (xs.map Int64.toInt).sum ∧ outcome = .ok (.number (.int t))) ∧
      ((∃ p, p <+: xs ∧ ¬ FitsInt64 (p.map Int64.toInt).sum) →
        ∃ e : ArithmeticError, outcome = .error (.error (.arithmetic e)) ∧ e = .overflow "+" ∧
          e.message = "integer overflow in +") := by
  refine ⟨(sumOutcome (runningSum 0 xs)).mapError .error, fun f args hf => ?_, fun hfits => ?_, ?_⟩
  · rw [hf.callAt_eq]
    rfl
  · obtain ⟨t, ht, hrun⟩ := @runningSum_of_fits 0 xs (by simpa using hfits)
    refine ⟨t, by simpa using ht, ?_⟩
    rw [hrun]
    rfl
  · rintro ⟨p, hp, hfits⟩
    rw [@runningSum_of_not_fits 0 xs p hp (by simpa using hfits)]
    exact ⟨_, rfl, rfl, rfl⟩

/-- Two lists with the same integers. All sums of first integers fit in one order, and in the other order the
first sum does not. -/
theorem integer_sums_agree_in_both_orders :
    ∃ (h : Host) (s : RunState),
      (∀ f args, AddsUp [Int64.maxValue, -1, 1] f args →
        callAt h 2 (.builtin (.sequence f)) args s = (.ok (.number (.int Int64.maxValue)), s)) ∧
      ∀ f args, AddsUp [Int64.maxValue, 1, -1] f args →
        callAt h 2 (.builtin (.sequence f)) args s = (.error (.error (.arithmetic (.overflow "+"))), s) := by
  let h : Host := .bare
  let s : RunState := .fresh
  refine ⟨h, s, ?_, ?_⟩
  · obtain ⟨outcome, hcalls, hexact, -⟩ := integer_sums_agree h 0 s [Int64.maxValue, -1, 1]
    obtain ⟨t, ht, rfl⟩ := hexact fun p hp => by
      rw [← List.mem_inits] at hp
      revert p
      decide
    have hmax : t = Int64.maxValue := Int64.toInt_inj.1 (ht.trans (by decide))
    rw [hmax] at hcalls
    exact hcalls
  · obtain ⟨outcome, hcalls, -, hoverflow⟩ := integer_sums_agree h 0 s [Int64.maxValue, 1, -1]
    obtain ⟨e, rfl, rfl, -⟩ := hoverflow ⟨[Int64.maxValue, 1], by simp, by decide⟩
    exact hcalls

end ToolLisp
