import ToolLisp.Proofs.NumberOrder
import ToolLisp.Source.Token

/-!
# Numbers read back

The text of a number is read as that number again (`Number.read?_text`). For integers this is a fact
about digits. The text of a double is that of a decimal which rounds to it: the decimal that is chosen
does, because only such decimals are tried, and the exact one at the end does too. Writing a decimal
drops and adds zeros, so what is read is another decimal of the same value, and by `magnitude_eq` it
rounds to the same double.
-/

namespace ToolLisp

/-- A text of characters of one kind ends before a character of another kind. -/
theorem Text.takeWhile_append {p : Char → Bool} {w tail : List Char} (hw : ∀ c ∈ w, p c = true)
    (ht : ∀ c ∈ tail.head?, p c = false) :
    (w ++ tail).takeWhile p = w ∧ (w ++ tail).dropWhile p = tail := by
  rw [List.takeWhile_append_of_pos hw, List.dropWhile_append_of_pos hw]
  cases tail with
  | nil => simp
  | cons c tail =>
    have hc : ¬ p c = true := by simp [ht c rfl]
    rw [List.takeWhile_cons_of_neg hc, List.dropWhile_cons_of_neg hc, List.append_nil]
    exact ⟨rfl, rfl⟩

namespace Decimal

open Binary64

/-! ## Digits -/

theorem ofDigits_eq (digits : List Char) : ofDigits digits = Nat.ofDigitChars 10 digits 0 := rfl

theorem ofDigits_append (a b : List Char) :
    ofDigits (a ++ b) = ofDigits a * 10 ^ b.length + ofDigits b := by
  rw [ofDigits_eq, Nat.ofDigitChars_append, Nat.ofDigitChars_eq_ofDigitChars_zero, mul_comm]
  rfl

theorem ofDigits_zeros (n : ℕ) : ofDigits (zeros n) = 0 := by
  rw [ofDigits_eq, zeros, Nat.ofDigitChars_replicate_zero, mul_zero]

theorem ofDigits_toDigits (n : ℕ) : ofDigits (Nat.toDigits 10 n) = n :=
  Nat.ofDigitChars_ten_toDigits

theorem isDigit_toDigits (n : ℕ) : ∀ c ∈ Nat.toDigits 10 n, c.isDigit = true :=
  fun _ hc => Nat.isDigit_of_mem_toDigits (by norm_num) (le_refl _) hc

theorem isDigit_zeros (n : ℕ) : ∀ c ∈ zeros n, c.isDigit = true := by
  intro c hc
  rw [List.eq_of_mem_replicate hc]
  rfl

/-- A text that begins with a digit has no sign. -/
theorem splitSign_of_digits {w : List Char} (tail : List Char) (hne : w ≠ [])
    (hw : ∀ c ∈ w, c.isDigit = true) : splitSign (w ++ tail) = (false, w ++ tail) := by
  cases w with
  | nil => exact absurd rfl hne
  | cons c w =>
    have hc := hw c List.mem_cons_self
    rw [List.cons_append]
    unfold splitSign
    split
    · next h => cases h; cases hc
    · next h => cases h; cases hc
    · rfl

theorem readNat?_toDigits (n : ℕ) : readNat? (Nat.toDigits 10 n) = some n := by
  unfold readNat?
  rw [if_pos ⟨Nat.toDigits_ne_nil, List.all_eq_true.2 (isDigit_toDigits n)⟩, ofDigits_toDigits]

theorem readInt?_intText (n : ℤ) : readInt? (intText n) = some n := by
  unfold readInt?
  by_cases hn : n < 0
  · rw [intText, if_pos hn]
    simp only [splitSign, readNat?_toDigits, Option.map_some, withSign, if_true]
    rw [Int.ofNat_natAbs_of_nonpos hn.le, neg_neg]
  · have hsign := splitSign_of_digits [] Nat.toDigits_ne_nil (isDigit_toDigits n.natAbs)
    rw [List.append_nil] at hsign
    rw [intText, if_neg hn, hsign]
    simp only [readNat?_toDigits, Option.map_some, withSign, Bool.false_eq_true, if_false]
    rw [Int.natAbs_of_nonneg (by omega)]

/-! ## Spellings of decimals -/

/-- The texts of decimals: digits, and then a point with digits, an exponent, or both. -/
inductive Spells : List Char → Decimal → Prop
  /-- Digits around a point. -/
  | point {w f : List Char} : w ≠ [] → (∀ c ∈ w, c.isDigit = true) → (∀ c ∈ f, c.isDigit = true) →
    Spells (w ++ '.' :: f) ⟨ofDigits (w ++ f), -(f.length : ℤ)⟩
  /-- Digits and an exponent. -/
  | exponent {w : List Char} (e : ℤ) : w ≠ [] → (∀ c ∈ w, c.isDigit = true) →
    Spells (w ++ 'e' :: intText e) ⟨ofDigits w, e⟩
  /-- Digits around a point and an exponent. -/
  | both {w f : List Char} (e : ℤ) : w ≠ [] → (∀ c ∈ w, c.isDigit = true) →
    (∀ c ∈ f, c.isDigit = true) →
    Spells (w ++ '.' :: (f ++ 'e' :: intText e)) ⟨ofDigits (w ++ f), e - f.length⟩

section

variable {text w f tail : List Char} {negative : Bool} (hne : w ≠ [])
  (hw : ∀ c ∈ w, c.isDigit = true)
include hne hw

/-- Digits around a point are read up to what is no digit; that has to be an exponent. -/
theorem read?_point (hs : splitSign text = (negative, w ++ '.' :: (f ++ tail)))
    (hf : ∀ c ∈ f, c.isDigit = true) (ht : ∀ c ∈ tail.head?, c.isDigit = false) :
    read? text =
      (readExponent? tail).map fun e => (negative, ⟨ofDigits (w ++ f), e - f.length⟩) := by
  have hpoint : ∀ c ∈ ('.' :: (f ++ tail)).head?, c.isDigit = false := by
    rintro _ ⟨⟩
    rfl
  unfold read?
  rw [hs]
  simp only [Text.takeWhile_append hw hpoint, Text.takeWhile_append hf ht]
  rw [if_neg (by simp [hne])]

/-- Digits without a point. -/
theorem read?_exponent (hs : splitSign text = (negative, w ++ 'e' :: tail)) :
    read? text = (readExponent? ('e' :: tail)).map fun e => (negative, ⟨ofDigits w, e⟩) := by
  have he : ∀ c ∈ ('e' :: tail).head?, c.isDigit = false := by
    rintro _ ⟨⟩
    rfl
  unfold read?
  rw [hs]
  simp only [Text.takeWhile_append hw he]
  rw [if_neg (by simp [hne])]
  simp

end

theorem readExponent?_intText (e : ℤ) : readExponent? ('e' :: intText e) = some e := by
  rw [readExponent?, if_pos (Or.inl rfl), readInt?_intText]

/-- A spelling, perhaps after a sign, is read as the decimal that it spells. -/
theorem Spells.read? {text text' : List Char} {negative : Bool} {d : Decimal}
    (h : Spells text' d) (hs : splitSign text = (negative, text')) :
    Decimal.read? text = some (negative, d) := by
  cases h with
  | @point w f hne hw hf =>
    rw [← List.append_nil f] at hs
    rw [read?_point hne hw hs hf (by simp), readExponent?, Option.map_some, zero_sub]
  | exponent e hne hw =>
    rw [read?_exponent hne hw hs, readExponent?_intText]
    rfl
  | both e hne hw hf =>
    rw [read?_point hne hw hs hf (by rintro _ ⟨⟩; rfl), readExponent?_intText]
    rfl

/-! ## Writing decimals -/

/-- Digits around a point denote the number of the digits, scaled by where the point stands. -/
theorem positional_spells {digits : List Char} (point : ℤ) (hne : digits ≠ [])
    (hd : ∀ c ∈ digits, c.isDigit = true) :
    ∃ d, Spells (positional digits point) d ∧
      d.value = ofDigits digits * 10 ^ (point - digits.length) := by
  unfold positional
  split
  · next hp =>
    -- the point stands before all digits
    have hzero : ∀ c ∈ ['0'], c.isDigit = true := by simp
    have hf : ∀ c ∈ zeros (-point).toNat ++ digits, c.isDigit = true :=
      List.forall_mem_append.2 ⟨isDigit_zeros _, hd⟩
    refine ⟨_, Spells.point (by simp) hzero hf, ?_⟩
    have hdigits : ofDigits (['0'] ++ (zeros (-point).toNat ++ digits)) = ofDigits digits := by
      rw [ofDigits_append, ofDigits_append, ofDigits_zeros]
      simp [ofDigits]
    have hlength : (zeros (-point).toNat ++ digits).length = -point + digits.length := by
      rw [List.length_append, zeros, List.length_replicate]
      omega
    rw [value, hdigits, hlength]
    ring_nf
  · next hp =>
    obtain ⟨n, rfl⟩ := Int.eq_ofNat_of_zero_le (show 0 ≤ point by omega)
    simp only [Int.toNat_natCast]
    split
    · next hl =>
      -- the point stands after all digits
      have hw : ∀ c ∈ digits ++ zeros (n - digits.length), c.isDigit = true :=
        List.forall_mem_append.2 ⟨hd, isDigit_zeros _⟩
      refine ⟨_, Spells.point (by simp [hne]) hw (by simp), ?_⟩
      rw [value, ofDigits_append, ofDigits_append, ofDigits_zeros]
      have hzeros : (zeros (n - digits.length)).length = n - digits.length := by
        rw [zeros, List.length_replicate]
      have hcast : ((n : ℤ) - digits.length) = ((n - digits.length : ℕ) : ℤ) := by omega
      rw [hzeros, hcast, zpow_natCast]
      simp [ofDigits]
    · next hl =>
      -- the point stands among the digits
      have hw : ∀ c ∈ digits.take n, c.isDigit = true := fun c hc => hd c (List.mem_of_mem_take hc)
      have hf : ∀ c ∈ digits.drop n, c.isDigit = true := fun c hc => hd c (List.mem_of_mem_drop hc)
      refine ⟨_, Spells.point ?_ hw hf, ?_⟩
      · rw [Ne, List.take_eq_nil_iff]
        simp only [hne, or_false]
        omega
      · rw [value, List.take_append_drop, List.length_drop]
        congr 2
        dsimp only
        omega

/-- One digit before the point, and an exponent. -/
theorem scientific_spells {digits : List Char} (e : ℤ) (hne : digits ≠ [])
    (hd : ∀ c ∈ digits, c.isDigit = true) :
    ∃ d, Spells (scientific digits e) d ∧
      d.value = ofDigits digits * 10 ^ (e + 1 - digits.length) := by
  unfold scientific
  split
  · exact absurd rfl hne
  · next c =>
    refine ⟨_, Spells.exponent e (List.cons_ne_nil c []) hd, ?_⟩
    rw [value]
    congr 2
    simp
  · next c rest _ =>
    have hc : ∀ x ∈ [c], x.isDigit = true := fun x hx => hd x (by simp at hx; simp [hx])
    have hrest : ∀ x ∈ rest, x.isDigit = true := fun x hx => hd x (List.mem_cons_of_mem _ hx)
    refine ⟨_, Spells.both e (List.cons_ne_nil c []) hc hrest, ?_⟩
    rw [value]
    congr 2
    simp only [List.length_cons]
    push_cast
    ring

/-- The zeros at the end of the digits of a number divide it. -/
theorem ten_pow_trailingZeros_dvd (s : ℕ) :
    10 ^ ((Nat.toDigits 10 s).reverse.takeWhile (· == '0')).length ∣ s := by
  obtain ⟨n, hn⟩ : ∃ n, n = ((Nat.toDigits 10 s).reverse.takeWhile (· == '0')).length := ⟨_, rfl⟩
  have hzeros : (Nat.toDigits 10 s).reverse.takeWhile (· == '0') = zeros n := by
    rw [hn]
    refine List.eq_replicate_of_mem fun c hc => ?_
    exact beq_iff_eq.1 (List.all_eq_true.1 List.all_takeWhile c hc)
  have hdigits : Nat.toDigits 10 s =
      ((Nat.toDigits 10 s).reverse.dropWhile (· == '0')).reverse ++ zeros n := by
    rw [← List.reverse_inj, List.reverse_append, List.reverse_reverse, zeros, List.reverse_replicate]
    rw [← zeros, ← hzeros, List.takeWhile_append_dropWhile]
  have hs : s = ofDigits ((Nat.toDigits 10 s).reverse.dropWhile (· == '0')).reverse * 10 ^ n := by
    conv_lhs => rw [← ofDigits_toDigits s, hdigits, ofDigits_append, ofDigits_zeros]
    rw [zeros, List.length_replicate, add_zero]
  rw [← hn]
  exact Dvd.intro_left _ hs.symm

/-- Zeros that are dropped from the digits are made up for by the exponent. -/
theorem stripZeros_value (d : Decimal) : d.stripZeros.value = d.value := by
  obtain ⟨k, hk⟩ := ten_pow_trailingZeros_dvd d.significand
  unfold stripZeros value
  dsimp only
  generalize ((Nat.toDigits 10 d.significand).reverse.takeWhile (· == '0')).length = n at hk ⊢
  have hpow : 0 < 10 ^ n := by positivity
  rw [hk, Nat.pow_eq, Nat.mul_div_cancel_left k hpow, zpow_add₀ (by norm_num), zpow_natCast]
  push_cast
  ring

/-- The text of a decimal spells a decimal of the same value. -/
theorem text_spells (d : Decimal) : ∃ d', Spells d.text d' ∧ d'.value = d.value := by
  have hdigits := isDigit_toDigits d.stripZeros.significand
  have hvalue : (ofDigits (Nat.toDigits 10 d.stripZeros.significand) : ℚ) *
      10 ^ d.stripZeros.exponent = d.value := by
    rw [ofDigits_toDigits, ← stripZeros_value d, value]
  unfold text
  dsimp only
  split
  · obtain ⟨d', hs, hv⟩ := positional_spells _ Nat.toDigits_ne_nil hdigits
    refine ⟨d', hs, ?_⟩
    rw [hv, ← hvalue]
    congr 2
    omega
  · obtain ⟨d', hs, hv⟩ := scientific_spells _ Nat.toDigits_ne_nil hdigits
    refine ⟨d', hs, ?_⟩
    rw [hv, ← hvalue]
    congr 2
    omega

/-! ## The decimal of a double -/

theorem neighbour?_magnitude {m n d : ℕ} {e : ℤ} {x : Decimal} (h : neighbour? m n d e = some x) :
    x.magnitude = m := by
  unfold neighbour? at h
  dsimp only at h
  split at h
  · next hb ha =>
    cases h
    split
    · exact beq_iff_eq.1 hb
    · exact beq_iff_eq.1 ha
  · next hb _ =>
    cases h
    exact beq_iff_eq.1 hb
  · next _ ha =>
    cases h
    exact beq_iff_eq.1 ha
  · cases h

theorem exact_value (m : ℕ) : (exact m).value = Binary64.value m := by
  unfold exact Binary64.value value
  dsimp only
  generalize Binary64.exponent m = e
  split
  · next he =>
    obtain ⟨k, rfl⟩ := Int.eq_ofNat_of_zero_le he
    simp
  · next he =>
    obtain ⟨k, hk⟩ := Int.eq_ofNat_of_zero_le (show 0 ≤ -e by omega)
    obtain rfl : e = -k := by omega
    have hten : (10 : ℚ) ^ k = 2 ^ k * 5 ^ k := by rw [← mul_pow]; norm_num
    simp only [neg_neg, Int.toNat_natCast, zpow_neg, zpow_natCast, hten, Nat.pow_eq]
    push_cast
    field_simp

/-- The decimal that a double is written as rounds to that double. -/
theorem shortest_magnitude {m : ℕ} (hm : m < infinityMagnitude) : (shortest m).magnitude = m := by
  unfold shortest
  dsimp only
  cases h : (List.range 17).findSome? fun (n : ℕ) => neighbour? m (fraction m).1 (fraction m).2
      (leadingExponent (fraction m).1 (fraction m).2 - (n : ℤ)) with
  | some d =>
    obtain ⟨n, _, hn⟩ := List.exists_of_findSome?_eq_some h
    exact neighbour?_magnitude hn
  | none =>
    rw [Option.getD_none, magnitude_eq, exact_value]
    exact nearestMagnitude_value hm

/-! ## The characters of a spelling -/

/-- Whether a character can stand in the text of a number that is no special one. -/
def isNumeral (c : Char) : Bool :=
  c.isDigit || c == '-' || c == '.' || c == 'e'

theorem isNumeral_of_isDigit {c : Char} (h : c.isDigit = true) : isNumeral c = true := by
  simp [isNumeral, h]

theorem isNumeral_intText (n : ℤ) : ∀ c ∈ intText n, isNumeral c = true := by
  have hdigits : ∀ c ∈ Nat.toDigits 10 n.natAbs, isNumeral c = true := fun c hc =>
    isNumeral_of_isDigit (isDigit_toDigits _ c hc)
  unfold intText
  split
  · exact List.forall_mem_cons.2 ⟨rfl, hdigits⟩
  · exact hdigits

section

variable {text : List Char} {d : Decimal} (h : Spells text d)
include h

theorem Spells.isNumeral : ∀ c ∈ text, Decimal.isNumeral c = true := by
  cases h with
  | point _ hw hf =>
    simp only [List.forall_mem_append, List.forall_mem_cons]
    exact ⟨fun c hc => isNumeral_of_isDigit (hw c hc), rfl,
      fun c hc => isNumeral_of_isDigit (hf c hc)⟩
  | exponent e _ hw =>
    simp only [List.forall_mem_append, List.forall_mem_cons]
    exact ⟨fun c hc => isNumeral_of_isDigit (hw c hc), rfl, isNumeral_intText e⟩
  | both e _ hw hf =>
    simp only [List.forall_mem_append, List.forall_mem_cons]
    exact ⟨fun c hc => isNumeral_of_isDigit (hw c hc), rfl,
      fun c hc => isNumeral_of_isDigit (hf c hc), rfl, isNumeral_intText e⟩

theorem Spells.head : ∃ c rest, text = c :: rest ∧ c.isDigit = true := by
  have hcons {w tail : List Char} (hne : w ≠ []) (hw : ∀ c ∈ w, c.isDigit = true) :
      ∃ c rest, w ++ tail = c :: rest ∧ c.isDigit = true := by
    cases w with
    | nil => exact absurd rfl hne
    | cons c w => exact ⟨c, w ++ tail, rfl, hw c List.mem_cons_self⟩
  cases h with
  | point hne hw _ => exact hcons hne hw
  | exponent _ hne hw => exact hcons hne hw
  | both _ hne hw _ => exact hcons hne hw

/-- A spelling has a point or an exponent, so it is not taken for an integer. -/
theorem Spells.marked : (text.any fun c => c == '.' || c == 'e' || c == 'E') = true := by
  cases h with
  | point _ _ _ => simp
  | exponent _ _ _ => simp
  | both _ _ _ _ => simp

end

end Decimal

/-! ## Numbers -/

namespace Number

open Decimal

theorem text_int (n : Int64) : (Number.int n).text = intText n.toInt := rfl

theorem text_float (x : Binary64) : (Number.float x).text = x.text := rfl

/-- A text that differs from the special ones in some property is none of them. -/
theorem special?_eq_none {p : List Char → Bool} {text : List Char} (h : p text = true)
    (hp : (["Infinity", "##Inf", "-Infinity", "##-Inf", "NaN", "##NaN"].all
      fun special => !p special.toList) = true) : special? text = none := by
  simp only [List.all_cons, List.all_nil, Bool.and_true, Bool.and_eq_true, Bool.not_eq_true'] at hp
  obtain ⟨h₁, h₂, h₃, h₄, h₅, h₆⟩ := hp
  have hne {special : List Char} (hs : p special = false) : text ≠ special := by
    rintro rfl
    rw [hs] at h
    cases h
  unfold special?
  rw [if_neg (not_or.2 ⟨hne h₁, hne h₂⟩), if_neg (not_or.2 ⟨hne h₃, hne h₄⟩),
    if_neg (not_or.2 ⟨hne h₅, hne h₆⟩)]

theorem special?_of_startsNumber {text : List Char} (h : Token.startsNumber text = true) :
    special? text = none :=
  special?_eq_none h (by decide)

theorem startsNumber_of_isDigit {c : Char} (rest : List Char) (hc : c.isDigit = true) :
    Token.startsNumber (c :: rest) = true := by
  cases rest with
  | nil => exact hc
  | cons d rest => simp [Token.startsNumber, hc]

theorem startsNumber_neg {c : Char} (rest : List Char) (hc : c.isDigit = true) :
    Token.startsNumber ('-' :: c :: rest) = true := by
  simp [Token.startsNumber, hc]

/-- An integer is written with digits only, after a minus if it is negative. -/
theorem intText_head (n : ℤ) :
    ∃ c rest, c.isDigit = true ∧ (intText n = c :: rest ∨ intText n = '-' :: c :: rest) := by
  cases hd : Nat.toDigits 10 n.natAbs with
  | nil => exact absurd hd Nat.toDigits_ne_nil
  | cons c rest =>
    have hc := isDigit_toDigits n.natAbs c (by rw [hd]; exact List.mem_cons_self)
    refine ⟨c, rest, hc, ?_⟩
    unfold intText
    rw [hd]
    split
    · exact Or.inr rfl
    · exact Or.inl rfl

theorem startsNumber_intText (n : ℤ) (rest : List Char) :
    Token.startsNumber (intText n ++ rest) = true := by
  obtain ⟨c, tail, hc, h | h⟩ := intText_head n
  · rw [h, List.cons_append]
    exact startsNumber_of_isDigit _ hc
  · rw [h, List.cons_append, List.cons_append]
    exact startsNumber_neg _ hc

theorem intText_unmarked (n : ℤ) :
    ((intText n).any fun c => c == '.' || c == 'e' || c == 'E') = false := by
  have hdigit {c : Char} (hc : c.isDigit = true) : (c == '.' || c == 'e' || c == 'E') = false := by
    by_contra h
    simp only [Bool.not_eq_false, Bool.or_eq_true, beq_iff_eq] at h
    rcases h with (rfl | rfl) | rfl <;> cases hc
  rw [List.any_eq_false]
  unfold intText
  split
  · intro c hc
    rcases List.mem_cons.1 hc with rfl | hc
    · decide
    · simpa using hdigit (isDigit_toDigits _ c hc)
  · intro c hc
    simpa using hdigit (isDigit_toDigits _ c hc)

theorem int64?_toInt (n : Int64) : int64? n.toInt = some n := by
  unfold int64?
  rw [if_pos ⟨Int64.minValue_le_toInt n, Int64.toInt_le n⟩, Int64.ofInt_toInt]

/-- A finite double other than zero is spelled like a decimal that rounds to it. -/
theorem text_signed {negative : Bool} {m : ℕ} {h : m ≤ Binary64.infinityMagnitude} (h₀ : m ≠ 0)
    (hm : m ≠ Binary64.infinityMagnitude) :
    ∃ text d, (Binary64.signed negative m h).text = (if negative then '-' :: text else text) ∧
      Spells text d ∧ d.magnitude = m := by
  obtain ⟨d, hs, hv⟩ := text_spells (shortest m)
  refine ⟨_, d, ?_, hs, ?_⟩
  · simp only [Binary64.text, if_neg hm, if_neg h₀]
  · rw [magnitude_eq, hv, ← magnitude_eq]
    exact shortest_magnitude (lt_of_le_of_ne h hm)

/-- A decimal that rounds to a finite double is read as that double. -/
theorem read?_of_spells {text text' : List Char} {negative : Bool} {d : Decimal}
    (hd : Spells text' d) (hs : splitSign text = (negative, text'))
    (ht : Token.startsNumber text = true) (hfinite : d.magnitude < Binary64.infinityMagnitude)
    (hsub : text' ⊆ text) :
    read? text = some (.float (.signed negative d.magnitude hfinite.le)) := by
  have hmarked : (text.any fun c => c == '.' || c == 'e' || c == 'E') = true := by
    obtain ⟨c, hc, hm⟩ := List.any_eq_true.1 hd.marked
    exact List.any_eq_true.2 ⟨c, hsub hc, hm⟩
  have hdouble : d.toBinary64 negative = .signed negative d.magnitude hfinite.le := by
    simp only [toBinary64, Binary64.ofMagnitude, Nat.min_eq_left hfinite.le]
  unfold read?
  rw [special?_of_startsNumber ht]
  simp only [hmarked, if_true, hd.read? hs, hdouble, Binary64.isFinite, hfinite, decide_true]

/-- The doubles by the way they are written: three kinds have texts of their own. -/
theorem float_cases (x : Binary64) :
    (∃ negative, x = .nan negative) ∨ (∃ negative, x = .infinity negative) ∨
      (∃ negative, x = .ofMagnitude negative 0) ∨
      ∃ negative m h, x = .signed negative m h ∧ m ≠ 0 ∧ m ≠ Binary64.infinityMagnitude := by
  cases x with
  | nan negative => exact Or.inl ⟨negative, rfl⟩
  | signed negative m h =>
    right
    by_cases hm : m = Binary64.infinityMagnitude
    · subst hm
      exact Or.inl ⟨negative, rfl⟩
    · right
      by_cases h₀ : m = 0
      · subst h₀
        exact Or.inl ⟨negative, rfl⟩
      · exact Or.inr ⟨negative, m, h, rfl, h₀, hm⟩

/-- Every number is read back from its text, but the sign of NaN is not written. -/
theorem read?_text {n : Number} (hn : n.Regular) : read? n.text = some n := by
  cases n with
  | int n =>
    have ht := startsNumber_intText n.toInt []
    rw [List.append_nil] at ht
    unfold read?
    rw [text_int, special?_of_startsNumber ht]
    simp only [intText_unmarked, readInt?_intText]
    simp [int64?_toInt]
  | float x =>
    -- NaN, the infinities and the zeros are single values
    obtain ⟨negative, rfl⟩ | ⟨negative, rfl⟩ | ⟨negative, rfl⟩ | ⟨negative, m, h, rfl, h₀, hm⟩ :=
      float_cases x
    · cases negative with
      | true => exact absurd rfl hn
      | false => decide
    · cases negative <;> decide
    · cases negative <;> decide
    · obtain ⟨text, d, htext, hd, rfl⟩ := @text_signed negative m h h₀ hm
      obtain ⟨c, rest, rfl, hc⟩ := hd.head
      have hfinite := lt_of_le_of_ne h hm
      rw [text_float, htext]
      cases negative with
      | true => exact read?_of_spells hd rfl (startsNumber_neg rest hc) hfinite (by simp)
      | false =>
        refine read?_of_spells hd ?_ (startsNumber_of_isDigit rest hc) hfinite (by simp)
        exact splitSign_of_digits rest (List.cons_ne_nil c []) (by simpa using hc)

/-! ## Numbers that are written -/

/-- The number without the sign of NaN. -/
def unsigned : Number → Number
  | .float (.nan _) => .float (.nan false)
  | n => n

theorem unsigned_of_regular {n : Number} (h : n.Regular) : n.unsigned = n := by
  rcases n with n | ⟨_ | _⟩ | _
  · rfl
  · rfl
  · exact absurd rfl h
  · rfl

theorem text_unsigned (n : Number) : n.unsigned.text = n.text := by
  rcases n with n | _ | _ <;> rfl

/-- A number differs from what is read back from its text by nothing that a comparison of its kind sees. -/
theorem unsigned_sameKindEq (n : Number) : n.unsigned.sameKindEq n = true := by
  rcases n with n | _ | ⟨_ | _, m, h⟩
  · exact beq_self_eq_true n
  · rfl
  · simp [unsigned, sameKindEq, Binary64.numEq, Binary64.compare?, Binary64.place?]
  · simp [unsigned, sameKindEq, Binary64.numEq, Binary64.compare?, Binary64.place?]

/-- No special spelling has a sign of NaN. -/
theorem special?_regular {text : List Char} {x : Binary64} (h : special? text = some x) :
    (Number.float x).Regular := by
  simp only [special?] at h
  split_ifs at h <;> cases h <;> decide

/-- What is read as a number is not NaN with the sign bit set. -/
theorem read?_regular {text : List Char} {n : Number} (h : read? text = some n) : n.Regular := by
  unfold read? at h
  split at h
  · next x hx =>
    cases h
    exact special?_regular hx
  · split at h
    · split at h
      · next negative d _ =>
        dsimp only at h
        split_ifs at h
        cases h
        exact nofun
      · cases h
    · obtain ⟨i, -, rfl⟩ := Option.map_eq_some_iff.1 h
      exact regular_int i

end Number

end ToolLisp
