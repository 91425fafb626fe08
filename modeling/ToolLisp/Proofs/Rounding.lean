import Mathlib.Algebra.Order.Field.Power
import Mathlib.Algebra.Order.Floor.Semifield
import Mathlib.Data.Int.Log
import Mathlib.Data.Rat.Floor
import Mathlib.Tactic.FieldSimp
import Mathlib.Tactic.Linarith
import Mathlib.Tactic.NormNum
import Mathlib.Tactic.Positivity
import ToolLisp.Number.Decimal

/-!
# Rounding to doubles

Rounding works on fractions of natural numbers. `nearestMagnitude` is the same function on rational
numbers, so rounding depends only on the value of a fraction and not on how it is written
(`magnitudeOfRatio_eq`). It takes the value of every finite double to that double
(`nearestMagnitude_value`), everything from `2 ^ 1024` on to the infinities, and everything below
`2 ^ (-1075)` to zero. It never turns two numbers around (`nearestMagnitude_mono`).
-/

namespace ToolLisp

namespace Binary64

/-! ## Fractions as rational numbers -/

/-- The natural number nearest to a number that is not negative, a half going to the even one. -/
def nearestEven (q : ℚ) : ℕ :=
  if 1 / 2 < q - ⌊q⌋₊ ∨ q - ⌊q⌋₊ = 1 / 2 ∧ ⌊q⌋₊ % 2 = 1 then ⌊q⌋₊ + 1 else ⌊q⌋₊

theorem nearestEven_natCast (n : ℕ) : nearestEven n = n := by
  unfold nearestEven
  rw [Nat.floor_natCast, sub_self, if_neg]
  norm_num

theorem nearestEven_of_lt_half {q : ℚ} (hq : q < 1 / 2) : nearestEven q = 0 := by
  have hfloor : ⌊q⌋₊ = 0 := Nat.floor_eq_zero.2 (by linarith)
  unfold nearestEven
  rw [hfloor, if_neg]
  rintro (h | ⟨h, _⟩) <;> · rw [Nat.cast_zero] at h; linarith

theorem floor_le_nearestEven (q : ℚ) : ⌊q⌋₊ ≤ nearestEven q := by
  unfold nearestEven
  split
  · exact Nat.le_succ _
  · exact le_refl _

/-- The remainder of a division is what the quotient lacks. -/
theorem ratio_sub_floor {d : ℕ} (n : ℕ) (hd : 0 < d) :
    (n : ℚ) / d - ⌊(n : ℚ) / d⌋₊ = ((n % d : ℕ) : ℚ) / d := by
  have hd' : (d : ℚ) ≠ 0 := by positivity
  have hn : (n : ℚ) = d * ((n / d : ℕ) : ℚ) + ((n % d : ℕ) : ℚ) := by
    exact_mod_cast (Nat.div_add_mod n d).symm
  rw [Nat.floor_div_eq_div]
  field_simp
  linarith

theorem roundQuotient_eq {d : ℕ} (n : ℕ) (hd : 0 < d) :
    roundQuotient n d = nearestEven ((n : ℚ) / d) := by
  have hd' : (0 : ℚ) < d := by positivity
  have hfloor : ⌊(n : ℚ) / d⌋₊ = n / d := Nat.floor_div_eq_div n d
  have habove : (1 / 2 < ((n % d : ℕ) : ℚ) / d) ↔ d < 2 * (n % d) := by
    rw [div_lt_div_iff₀ two_pos hd', one_mul, mul_comm]
    exact_mod_cast Iff.rfl
  have hhalf : (((n % d : ℕ) : ℚ) / d = 1 / 2) ↔ 2 * (n % d) = d := by
    rw [div_eq_div_iff hd'.ne' two_ne_zero, one_mul, mul_comm]
    exact_mod_cast Iff.rfl
  unfold roundQuotient nearestEven
  rw [ratio_sub_floor n hd, hfloor]
  simp only [habove, hhalf, Bool.or_eq_true, Bool.and_eq_true, decide_eq_true_eq, beq_iff_eq]

/-- Scaling a fraction by a power, which goes to the numerator or to the denominator. -/
theorem scaled_ratio {b n d : ℕ} {e : ℤ} {p : ℕ × ℕ}
    (hp : p = if 0 ≤ e then (n, d * b ^ e.toNat) else (n * b ^ (-e).toNat, d)) :
    (p.1 : ℚ) / p.2 = n / d / (b : ℚ) ^ e := by
  subst hp
  split
  · next he =>
    obtain ⟨k, rfl⟩ := Int.eq_ofNat_of_zero_le he
    simp only [Int.toNat_natCast, zpow_natCast]
    push_cast
    rw [div_div]
  · next he =>
    obtain ⟨k, hk⟩ := Int.eq_ofNat_of_zero_le (show 0 ≤ -e by omega)
    obtain rfl : e = -k := by omega
    simp only [neg_neg, Int.toNat_natCast, zpow_neg, zpow_natCast]
    push_cast
    rw [div_inv_eq_mul, div_mul_eq_mul_div]

theorem divTwoPow_eq (n d : ℕ) (e : ℤ) :
    ((divTwoPow n d e).1 : ℚ) / (divTwoPow n d e).2 = n / d / 2 ^ e :=
  scaled_ratio rfl

theorem divTwoPow_pos {d : ℕ} (n : ℕ) (hd : 0 < d) (e : ℤ) : 0 < (divTwoPow n d e).2 := by
  unfold divTwoPow
  split
  · rw [Nat.pow_eq]
    positivity
  · exact hd

/-- Whether a fraction reaches a power of two. -/
theorem divTwoPow_le_iff {d : ℕ} (n : ℕ) (hd : 0 < d) (e : ℤ) :
    (divTwoPow n d e).2 ≤ (divTwoPow n d e).1 ↔ (2 : ℚ) ^ e ≤ n / d := by
  have hpos : (0 : ℚ) < (divTwoPow n d e).2 := by exact_mod_cast divTwoPow_pos n hd e
  have hcast : (divTwoPow n d e).2 ≤ (divTwoPow n d e).1 ↔
      ((divTwoPow n d e).2 : ℚ) ≤ (divTwoPow n d e).1 := Nat.cast_le.symm
  rw [hcast, ← one_le_div hpos, divTwoPow_eq, one_le_div (zpow_pos two_pos e)]

/-- The numbers of binary digits of numerator and denominator tell the size of a fraction up to a factor
of two. -/
theorem ratio_bounds {n d : ℕ} (hn : 0 < n) (hd : 0 < d) :
    (2 : ℚ) ^ ((n.log2 : ℤ) - d.log2 - 1) < n / d ∧ (n : ℚ) / d < 2 ^ ((n.log2 : ℤ) - d.log2 + 1) := by
  have hd' : (0 : ℚ) < d := by positivity
  have hn₁ : (2 : ℚ) ^ n.log2 ≤ n := by exact_mod_cast Nat.log2_self_le hn.ne'
  have hn₂ : (n : ℚ) < 2 ^ (n.log2 + 1) := by exact_mod_cast Nat.lt_log2_self
  have hd₁ : (2 : ℚ) ^ d.log2 ≤ d := by exact_mod_cast Nat.log2_self_le hd.ne'
  have hd₂ : (d : ℚ) < 2 ^ (d.log2 + 1) := by exact_mod_cast Nat.lt_log2_self
  constructor
  · have he : (2 : ℚ) ^ ((n.log2 : ℤ) - d.log2 - 1) = 2 ^ n.log2 / 2 ^ (d.log2 + 1) := by
      rw [← zpow_natCast, ← zpow_natCast, ← zpow_sub₀ two_ne_zero]
      push_cast
      ring_nf
    rw [he, div_lt_div_iff₀ (by positivity) hd']
    exact mul_lt_mul' hn₁ hd₂ hd'.le (by positivity)
  · have he : (2 : ℚ) ^ ((n.log2 : ℤ) - d.log2 + 1) = 2 ^ (n.log2 + 1) / 2 ^ d.log2 := by
      rw [← zpow_natCast, ← zpow_natCast, ← zpow_sub₀ two_ne_zero]
      push_cast
      ring_nf
    rw [he, div_lt_div_iff₀ hd' (by positivity)]
    exact mul_lt_mul hn₂ hd₁ (by positivity) (by positivity)

theorem two_zpow_le_iff {q : ℚ} (hq : 0 < q) (e : ℤ) : (2 : ℚ) ^ e ≤ q ↔ e ≤ Int.log 2 q :=
  Int.zpow_le_iff_le_log one_lt_two hq

theorem lt_two_zpow_iff {q : ℚ} (hq : 0 < q) (e : ℤ) : q < (2 : ℚ) ^ e ↔ Int.log 2 q < e :=
  Int.lt_zpow_iff_log_lt one_lt_two hq

/-- The exponent of the leading binary digit of a fraction. -/
theorem floorLog2_eq {n d : ℕ} (hn : 0 < n) (hd : 0 < d) :
    floorLog2 n d = Int.log 2 ((n : ℚ) / d) := by
  have hq : (0 : ℚ) < n / d := by positivity
  obtain ⟨hlow, hhigh⟩ := ratio_bounds hn hd
  have hlow := (two_zpow_le_iff hq _).1 hlow.le
  have hhigh := (lt_two_zpow_iff hq _).1 hhigh
  have htest := (divTwoPow_le_iff n hd ((n.log2 : ℤ) - d.log2)).trans (two_zpow_le_iff hq _)
  unfold floorLog2
  dsimp only
  split
  · next h =>
    have := htest.1 h
    omega
  · next h =>
    have := mt htest.2 h
    omega

/-! ## Rounding a rational number -/

/-- The magnitude of the double nearest to a rational number that is not negative. -/
def nearestMagnitude (q : ℚ) : ℕ :=
  if q = 0 then 0
  else
    let e := max (-1074) (Int.log 2 q - 52)
    min infinityMagnitude ((e + 1074).toNat * 2 ^ 52 + nearestEven (q / 2 ^ e))

/-- Rounding a fraction depends only on its value. -/
theorem magnitudeOfRatio_eq {d : ℕ} (n : ℕ) (hd : 0 < d) :
    magnitudeOfRatio n d = nearestMagnitude ((n : ℚ) / d) := by
  unfold magnitudeOfRatio nearestMagnitude
  rcases Nat.eq_zero_or_pos n with rfl | hn
  · simp
  · have hq : (n : ℚ) / d ≠ 0 := by positivity
    rw [if_neg hn.ne', if_neg hq, floorLog2_eq hn hd]
    dsimp only
    rw [roundQuotient_eq _ (divTwoPow_pos n hd _), divTwoPow_eq, Nat.pow_eq]

/-! ## The values of doubles -/

/-- The absolute value of a finite double. -/
def value (m : ℕ) : ℚ :=
  significand m * 2 ^ exponent m

theorem value_zero : value 0 = 0 := by
  simp [value, significand]

/-- The significand and the exponent of a rounded value, once its leading digit is known. -/
theorem nearestMagnitude_mul {n : ℕ} {e : ℤ} (hn : 0 < n) (he : -1074 ≤ e) (hlt : n < 2 ^ 53)
    (hge : 2 ^ 52 ≤ n ∨ e = -1074) :
    nearestMagnitude (n * 2 ^ e) = min infinityMagnitude ((e + 1074).toNat * 2 ^ 52 + n) := by
  have hq : (0 : ℚ) < n * 2 ^ e := by positivity
  have hlog : Int.log 2 ((n : ℚ) * 2 ^ e) < e + 53 := by
    rw [← lt_two_zpow_iff hq, zpow_add₀ two_ne_zero, mul_comm]
    refine mul_lt_mul_of_pos_left ?_ (zpow_pos two_pos e)
    exact_mod_cast hlt
  have hmax : max (-1074) (Int.log 2 ((n : ℚ) * 2 ^ e) - 52) = e := by
    rcases hge with hge | rfl
    · have hlog' : e + 52 ≤ Int.log 2 ((n : ℚ) * 2 ^ e) := by
        rw [← two_zpow_le_iff hq, zpow_add₀ two_ne_zero, mul_comm]
        refine mul_le_mul_of_nonneg_right ?_ (zpow_pos two_pos e).le
        exact_mod_cast hge
      omega
    · omega
  unfold nearestMagnitude
  rw [if_neg hq.ne', hmax]
  dsimp only
  rw [mul_div_cancel_right₀ _ (zpow_pos two_pos e).ne', nearestEven_natCast]

/-- The value of a finite double rounds to that double. -/
theorem nearestMagnitude_value {m : ℕ} (hm : m < infinityMagnitude) :
    nearestMagnitude (value m) = m := by
  rcases Nat.eq_zero_or_pos m with rfl | hpos
  · rw [value_zero, nearestMagnitude, if_pos rfl]
  · unfold value significand exponent
    rw [Nat.pow_eq]
    unfold infinityMagnitude at hm
    split
    · next hlt =>
      rw [nearestMagnitude_mul hpos (le_refl _) (by omega) (Or.inr rfl), infinityMagnitude]
      omega
    · next hge =>
      have hmod := Nat.mod_lt m (show 0 < 2 ^ 52 by norm_num)
      have hdiv := Nat.div_add_mod m (2 ^ 52)
      rw [nearestMagnitude_mul (by omega) (by omega) (by omega) (Or.inl (by omega)),
        infinityMagnitude]
      omega

/-- What is too large becomes an infinity. -/
theorem nearestMagnitude_of_large {q : ℚ} (hq : 2 ^ 1024 ≤ q) :
    nearestMagnitude q = infinityMagnitude := by
  have hpos : 0 < q := lt_of_lt_of_le (by positivity) hq
  have hlog : 1024 ≤ Int.log 2 q := (two_zpow_le_iff hpos 1024).1 (by exact_mod_cast hq)
  have hmax : max (-1074) (Int.log 2 q - 52) = Int.log 2 q - 52 := by omega
  have hround : 2 ^ 52 ≤ nearestEven (q / 2 ^ (Int.log 2 q - 52)) := by
    refine le_trans (Nat.le_floor ?_) (floor_le_nearestEven _)
    have hcast : ((2 ^ 52 : ℕ) : ℚ) = 2 ^ (52 : ℤ) := by norm_num
    rw [le_div_iff₀ (zpow_pos two_pos _), hcast, ← zpow_add₀ two_ne_zero, two_zpow_le_iff hpos]
    omega
  unfold nearestMagnitude
  rw [if_neg hpos.ne', hmax]
  dsimp only
  unfold infinityMagnitude
  omega

theorem two_zpow_pred {d e : ℤ} (h : d + 1 = e) : (2 : ℚ) ^ d = 1 / 2 * 2 ^ e := by
  rw [← h, zpow_add_one₀ two_ne_zero]
  ring

/-- What is too small becomes zero. -/
theorem nearestMagnitude_of_small {q : ℚ} (h₀ : 0 ≤ q) (hq : q < 2 ^ (-1075 : ℤ)) :
    nearestMagnitude q = 0 := by
  unfold nearestMagnitude
  split
  · rfl
  · next hne =>
    have hpos : 0 < q := lt_of_le_of_ne h₀ (Ne.symm hne)
    have hlog := (lt_two_zpow_iff hpos _).1 hq
    have hmax : max (-1074) (Int.log 2 q - 52) = -1074 := by omega
    have hhalf : q / 2 ^ (-1074 : ℤ) < 1 / 2 := by
      rw [div_lt_iff₀ (zpow_pos two_pos _)]
      exact lt_of_lt_of_eq hq (two_zpow_pred (by norm_num))
    dsimp only
    rw [hmax, nearestEven_of_lt_half hhalf]
    omega

/-! ## Order -/

theorem nearestEven_mono {p q : ℚ} (h : p ≤ q) : nearestEven p ≤ nearestEven q := by
  have hfloor : ⌊p⌋₊ ≤ ⌊q⌋₊ := Nat.floor_mono h
  rcases Nat.lt_or_eq_of_le hfloor with hlt | heq
  · have hp : nearestEven p ≤ ⌊p⌋₊ + 1 := by
      unfold nearestEven
      split <;> omega
    have hq := floor_le_nearestEven q
    omega
  · -- both lie above the same integer, so what takes `p` up takes `q` up
    unfold nearestEven
    rw [heq]
    split
    · next hp =>
      rw [if_pos]
      rcases hp with hp | ⟨hp, hodd⟩
      · exact Or.inl (by linarith)
      · rcases lt_or_eq_of_le h with h | rfl
        · exact Or.inl (by linarith)
        · exact Or.inr ⟨hp, hodd⟩
    · split <;> omega

theorem nearestEven_le {q : ℚ} {n : ℕ} (h : q ≤ n) : nearestEven q ≤ n :=
  (nearestEven_mono h).trans (nearestEven_natCast n).le

theorem le_nearestEven {q : ℚ} {n : ℕ} (h : (n : ℚ) ≤ q) : n ≤ nearestEven q :=
  (nearestEven_natCast n).ge.trans (nearestEven_mono h)

/-- The power of two that the significand of a rounded number is scaled by. -/
def scale (q : ℚ) : ℤ :=
  max (-1074) (Int.log 2 q - 52)

theorem nearestMagnitude_of_pos {q : ℚ} (hq : 0 < q) :
    nearestMagnitude q =
      min infinityMagnitude ((scale q + 1074).toNat * 2 ^ 52 + nearestEven (q / 2 ^ scale q)) := by
  unfold nearestMagnitude
  rw [if_neg hq.ne']
  rfl

theorem nearestMagnitude_le (q : ℚ) : nearestMagnitude q ≤ infinityMagnitude := by
  unfold nearestMagnitude
  split
  · exact Nat.zero_le _
  · exact min_le_left _ _

/-- A significand has at most 53 binary digits, up to rounding. -/
theorem nearestEven_scaled_le {q : ℚ} (hq : 0 < q) : nearestEven (q / 2 ^ scale q) ≤ 2 ^ 53 := by
  have hcast : ((2 ^ 53 : ℕ) : ℚ) = 2 ^ (53 : ℤ) := by norm_num
  refine nearestEven_le ?_
  rw [div_le_iff₀ (zpow_pos two_pos _), hcast, ← zpow_add₀ two_ne_zero]
  refine ((lt_two_zpow_iff hq _).2 ?_).le
  unfold scale
  omega

/-- Above the smallest exponent a significand has all its digits. -/
theorem le_nearestEven_scaled {q : ℚ} (hq : 0 < q) (h : -1074 < scale q) :
    2 ^ 52 ≤ nearestEven (q / 2 ^ scale q) := by
  have hcast : ((2 ^ 52 : ℕ) : ℚ) = 2 ^ (52 : ℤ) := by norm_num
  refine le_nearestEven ?_
  rw [le_div_iff₀ (zpow_pos two_pos _), hcast, ← zpow_add₀ two_ne_zero]
  refine (two_zpow_le_iff hq _).2 ?_
  unfold scale at h ⊢
  omega

/-- A larger number never rounds to a smaller magnitude. If the exponents differ, the significand of the
smaller number is at most that of the next exponent, which is where the larger one begins. -/
theorem nearestMagnitude_mono {p q : ℚ} (h₀ : 0 ≤ p) (h : p ≤ q) :
    nearestMagnitude p ≤ nearestMagnitude q := by
  rcases lt_or_eq_of_le h₀ with hp | rfl
  · have hq : 0 < q := lt_of_lt_of_le hp h
    have hlog : Int.log 2 p ≤ Int.log 2 q := Int.log_mono_right hp h
    have hbase : -1074 ≤ scale p := le_max_left _ _
    have hscale : scale p ≤ scale q := max_le_max_left _ (Int.sub_le_sub_right hlog 52)
    rw [nearestMagnitude_of_pos hp, nearestMagnitude_of_pos hq]
    refine min_le_min_left _ ?_
    rcases lt_or_eq_of_le hscale with hlt | heq
    · have hsmall := nearestEven_scaled_le hp
      have hlarge := le_nearestEven_scaled hq (by omega)
      have hstep : (scale p + 1074).toNat + 1 ≤ (scale q + 1074).toNat := by omega
      have := Nat.mul_le_mul_right (2 ^ 52) hstep
      omega
    · rw [heq]
      refine Nat.add_le_add_left (nearestEven_mono ?_) _
      exact div_le_div_of_nonneg_right h (zpow_pos two_pos _).le
  · unfold nearestMagnitude
    rw [if_pos rfl]
    exact Nat.zero_le _

end Binary64

namespace Decimal

open Binary64

/-! ## Rounding decimals -/

/-- The rational number that a decimal is. -/
def value (d : Decimal) : ℚ :=
  d.significand * 10 ^ d.exponent

theorem divTenPow_eq (n d : ℕ) (e : ℤ) :
    ((divTenPow n d e).1 : ℚ) / (divTenPow n d e).2 = n / d / 10 ^ e :=
  scaled_ratio rfl

theorem divTenPow_pos {d : ℕ} (n : ℕ) (hd : 0 < d) (e : ℤ) : 0 < (divTenPow n d e).2 := by
  unfold divTenPow
  split
  · rw [Nat.pow_eq]
    positivity
  · exact hd

/-- Powers of ten grow faster than powers of eight. -/
theorem two_zpow_le_ten_zpow (n : ℕ) : (2 : ℚ) ^ (3 * n : ℤ) ≤ 10 ^ (n : ℤ) := by
  rw [zpow_mul, zpow_natCast, zpow_natCast]
  exact pow_le_pow_left₀ (by norm_num) (by norm_num) n

/-- A decimal whose exponent is far below zero is closer to zero than to any other double. -/
theorem value_lt_of_small {d : Decimal} (h : d.exponent + d.significand.log2 < -400) :
    d.value < 2 ^ (-1075 : ℤ) := by
  have hs : (d.significand : ℚ) < 2 * 10 ^ (d.significand.log2 : ℤ) := by
    have hlt : (d.significand : ℚ) < 2 ^ (d.significand.log2 + 1) := by
      exact_mod_cast Nat.lt_log2_self
    refine lt_of_lt_of_le hlt ?_
    rw [pow_succ', zpow_natCast]
    gcongr
    norm_num
  calc d.value ≤ d.significand * 10 ^ (-401 - (d.significand.log2 : ℤ)) := by
        unfold value
        gcongr
        · norm_num
        · omega
    _ < 2 * 10 ^ (d.significand.log2 : ℤ) * 10 ^ (-401 - (d.significand.log2 : ℤ)) := by
        gcongr
    _ = 2 * 10 ^ (-401 : ℤ) := by
        rw [mul_assoc, ← zpow_add₀ (by norm_num)]
        ring_nf
    _ ≤ 2 * 2 ^ (-(3 * (401 : ℕ)) : ℤ) := by
        rw [show (-401 : ℤ) = -((401 : ℕ) : ℤ) by norm_num, zpow_neg, zpow_neg]
        gcongr 2 * ?_
        exact inv_anti₀ (zpow_pos two_pos _) (two_zpow_le_ten_zpow 401)
    _ ≤ 2 ^ (-1075 : ℤ) := by
        rw [← zpow_one_add₀ two_ne_zero]
        exact zpow_le_zpow_right₀ one_le_two (by norm_num)

/-- Rounding a decimal depends only on its value. The two shortcuts for large and small exponents agree
with rounding the value. -/
theorem magnitude_eq (d : Decimal) : d.magnitude = nearestMagnitude d.value := by
  unfold magnitude
  split
  · next h =>
    unfold value
    rw [h, Nat.cast_zero, zero_mul, nearestMagnitude, if_pos rfl]
  · next h =>
    have hs : (1 : ℚ) ≤ d.significand := by exact_mod_cast Nat.one_le_iff_ne_zero.2 h
    split
    -- with an exponent so large every number but zero is infinite
    · next he =>
      refine (nearestMagnitude_of_large ?_).symm
      calc (2 : ℚ) ^ 1024 ≤ 2 ^ (3 * (401 : ℕ) : ℤ) := by
            rw [← zpow_natCast]
            exact zpow_le_zpow_right₀ one_le_two (by norm_num)
        _ ≤ 10 ^ ((401 : ℕ) : ℤ) := two_zpow_le_ten_zpow 401
        _ ≤ 10 ^ d.exponent := zpow_le_zpow_right₀ (by norm_num) (by omega)
        _ ≤ d.value := le_mul_of_one_le_left (by positivity) hs
    · split
      -- a number so small is zero
      · next he =>
        exact (nearestMagnitude_of_small (by unfold value; positivity) (value_lt_of_small he)).symm
      · dsimp only
        rw [magnitudeOfRatio_eq _ (divTenPow_pos _ one_pos _), divTenPow_eq]
        congr 1
        unfold value
        rw [zpow_neg, div_inv_eq_mul, Nat.cast_one, div_one]

end Decimal

end ToolLisp
