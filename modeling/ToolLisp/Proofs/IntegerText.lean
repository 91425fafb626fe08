import ToolLisp.Proofs.IntegerArithmetic

/-!
# Texts of integers

An integer is spelled by one or more decimal digits, with or without a sign in front of them
(`Decimal.SpellsInt`). Two functions read such texts: the reader of literals, and `parse-long`, which also
accepts white space around the text. The first one looks for the signs of a double before anything else, but a
text that spells an integer has none of them. The second one looks for digits of any script before it reads those
of ASCII, but a text that spells an integer has the look of one (`TextFn.looksLikeInteger_of_readInt?`). So both
read the same integers (`integers_are_read_exactly`). In the same way `parse-double` reads all decimals
(`TextFn.doubleOf_string`).
-/

namespace ToolLisp

/-! ## Spellings -/

namespace Decimal

/-- The digits of a natural number: at least one, and nothing else. -/
def IsDigits (w : List Char) : Prop :=
  w ≠ [] ∧ ∀ c ∈ w, c.isDigit = true

/-- A text that spells an integer: digits, with a sign in front of them or without. -/
inductive SpellsInt : List Char → ℤ → Prop
  | unsigned {w : List Char} : IsDigits w → SpellsInt w (Nat.ofDigitChars 10 w 0)
  | plus {w : List Char} : IsDigits w → SpellsInt ('+' :: w) (Nat.ofDigitChars 10 w 0)
  | minus {w : List Char} : IsDigits w → SpellsInt ('-' :: w) (-(Nat.ofDigitChars 10 w 0 : ℤ))

theorem readNat?_eq_some {w : List Char} {n : ℕ} :
    readNat? w = some n ↔ IsDigits w ∧ Nat.ofDigitChars 10 w 0 = n := by
  rw [readNat?, Option.ite_none_right_eq_some, List.all_eq_true, Option.some.injEq]
  rfl

theorem splitSign_cases (w : List Char) :
    (∃ rest, w = '-' :: rest ∧ splitSign w = (true, rest)) ∨
    (∃ rest, w = '+' :: rest ∧ splitSign w = (false, rest)) ∨ splitSign w = (false, w) := by
  unfold splitSign
  split
  · next rest => exact .inl ⟨rest, rfl, rfl⟩
  · next rest => exact .inr (.inl ⟨rest, rfl, rfl⟩)
  · exact .inr (.inr rfl)

theorem readInt?_of_splitSign {w rest : List Char} {negative : Bool} {n : ℤ}
    (h : splitSign w = (negative, rest)) :
    readInt? w = some n ↔ IsDigits rest ∧ Binary64.withSign negative (Nat.ofDigitChars 10 rest 0) = n := by
  rw [readInt?, h, Option.map_eq_some_iff]
  constructor
  · rintro ⟨m, hm, hn⟩
    obtain ⟨hdigits, rfl⟩ := readNat?_eq_some.1 hm
    exact ⟨hdigits, hn⟩
  · rintro ⟨hdigits, hn⟩
    exact ⟨_, readNat?_eq_some.2 ⟨hdigits, rfl⟩, hn⟩

theorem readInt?_eq_some_iff {w : List Char} {n : ℤ} : readInt? w = some n ↔ SpellsInt w n := by
  constructor
  · intro h
    rcases splitSign_cases w with ⟨rest, rfl, hsign⟩ | ⟨rest, rfl, hsign⟩ | hsign
    · obtain ⟨hdigits, rfl⟩ := (readInt?_of_splitSign hsign).1 h
      exact .minus hdigits
    · obtain ⟨hdigits, rfl⟩ := (readInt?_of_splitSign hsign).1 h
      exact .plus hdigits
    · obtain ⟨hdigits, rfl⟩ := (readInt?_of_splitSign hsign).1 h
      exact .unsigned hdigits
  · intro h
    cases h with
    | @unsigned w hw =>
      have hsign := splitSign_of_digits [] hw.1 hw.2
      rw [List.append_nil] at hsign
      exact (readInt?_of_splitSign hsign).2 ⟨hw, rfl⟩
    | @plus w hw =>
      have hsign : splitSign ('+' :: w) = (false, w) := rfl
      exact (readInt?_of_splitSign hsign).2 ⟨hw, rfl⟩
    | @minus w hw =>
      have hsign : splitSign ('-' :: w) = (true, w) := rfl
      exact (readInt?_of_splitSign hsign).2 ⟨hw, rfl⟩

/-- The characters of a spelling are digits, and perhaps a sign. -/
theorem SpellsInt.forall_mem {w : List Char} {n : ℤ} (h : SpellsInt w n) :
    w ≠ [] ∧ ∀ c ∈ w, c.isDigit = true ∨ c = '+' ∨ c = '-' := by
  cases h with
  | unsigned hw => exact ⟨hw.1, fun c hc => .inl (hw.2 c hc)⟩
  | plus hw =>
    refine ⟨List.cons_ne_nil _ _, List.forall_mem_cons.2 ⟨by simp, fun c hc => .inl (hw.2 c hc)⟩⟩
  | minus hw =>
    refine ⟨List.cons_ne_nil _ _, List.forall_mem_cons.2 ⟨by simp, fun c hc => .inl (hw.2 c hc)⟩⟩

theorem SpellsInt.startsNumber {w : List Char} {n : ℤ} (h : SpellsInt w n) : Token.startsNumber w = true := by
  have hhead : ∀ {w : List Char}, IsDigits w → ∃ c rest, w = c :: rest ∧ c.isDigit = true := by
    intro w hw
    obtain ⟨c, rest, rfl⟩ := List.exists_cons_of_ne_nil hw.1
    exact ⟨c, rest, rfl, hw.2 c List.mem_cons_self⟩
  cases h with
  | unsigned hw =>
    obtain ⟨c, rest, rfl, hc⟩ := hhead hw
    exact Number.startsNumber_of_isDigit rest hc
  | plus hw =>
    obtain ⟨c, rest, rfl, hc⟩ := hhead hw
    simp [Token.startsNumber, hc]
  | minus hw =>
    obtain ⟨c, rest, rfl, hc⟩ := hhead hw
    exact Number.startsNumber_neg rest hc

/-- A spelling of an integer has nothing that makes it a double. -/
theorem SpellsInt.unmarked {w : List Char} {n : ℤ} (h : SpellsInt w n) :
    (w.any fun c => c == '.' || c == 'e' || c == 'E') = false := by
  rw [List.any_eq_false]
  intro c hc hmark
  simp only [Bool.or_eq_true, beq_iff_eq] at hmark
  rcases h.forall_mem.2 c hc with hdigit | rfl | rfl
  · rcases hmark with (rfl | rfl) | rfl <;> cases hdigit
  · rcases hmark with (hmark | hmark) | hmark <;> cases hmark
  · rcases hmark with (hmark | hmark) | hmark <;> cases hmark

end Decimal

/-! ## White space around a text -/

namespace Text

/-- A text that neither begins nor ends with white space. -/
def IsTrimmed (w : List Char) : Prop :=
  (∀ c, w.head? = some c → isBlank c = false) ∧ ∀ c, w.getLast? = some c → isBlank c = false

theorem dropWhile_blank_append {b w : List Char} (hb : ∀ c ∈ b, isBlank c = true)
    (hw : ∀ c, w.head? = some c → isBlank c = false) : (b ++ w).dropWhile isBlank = w := by
  induction b with
  | nil =>
    cases w with
    | nil => rfl
    | cons c w => rw [List.nil_append, List.dropWhile_cons_of_neg (by simp [hw c rfl])]
  | cons c b ih =>
    obtain ⟨hc, hb⟩ := List.forall_mem_cons.1 hb
    rw [List.cons_append, List.dropWhile_cons_of_pos hc, ih hb]

theorem trim_eq {b w a : List Char} (hne : w ≠ []) (hw : IsTrimmed w) (hb : ∀ c ∈ b, isBlank c = true)
    (ha : ∀ c ∈ a, isBlank c = true) : trim (b ++ w ++ a) = w := by
  have hfront : ∀ c, (w ++ a).head? = some c → isBlank c = false := by
    intro c hc
    rw [List.head?_append_of_ne_nil _ hne] at hc
    exact hw.1 c hc
  have hback : ∀ c, w.reverse.head? = some c → isBlank c = false := by
    intro c hc
    rw [List.head?_reverse] at hc
    exact hw.2 c hc
  have hreverse : ∀ c ∈ a.reverse, isBlank c = true := fun c hc => ha c (List.mem_reverse.1 hc)
  rw [trim, List.append_assoc, dropWhile_blank_append hb hfront, List.reverse_append,
    dropWhile_blank_append hreverse hback, List.reverse_reverse]

theorem trim_of_isTrimmed {w : List Char} (hw : IsTrimmed w) : trim w = w := by
  by_cases hne : w = []
  · rw [hne]
    rfl
  · have h := @trim_eq [] w [] hne hw (by simp) (by simp)
    rwa [List.nil_append, List.append_nil] at h

/-- What trimming takes away is white space. -/
theorem exists_trim (w : List Char) :
    ∃ b a, w = b ++ trim w ++ a ∧ (∀ c ∈ b, isBlank c = true) ∧ ∀ c ∈ a, isBlank c = true := by
  have hback := (w.dropWhile isBlank).reverse.takeWhile_append_dropWhile (p := isBlank)
  refine ⟨w.takeWhile isBlank, ((w.dropWhile isBlank).reverse.takeWhile isBlank).reverse, ?_,
    List.all_eq_true.1 List.all_takeWhile,
    fun c hc => List.all_eq_true.1 List.all_takeWhile c (List.mem_reverse.1 hc)⟩
  rw [List.append_assoc, trim, ← List.reverse_append, hback, List.reverse_reverse,
    List.takeWhile_append_dropWhile]

theorem isBlank_eq_false_of_isDigit {c : Char} (hc : c.isDigit = true) : isBlank c = false := by
  obtain ⟨hlow, hhigh⟩ := Char.isDigit_iff_toNat.1 hc
  have hzero : '0'.toNat = 48 := rfl
  have hnine : '9'.toNat = 57 := rfl
  simp only [isBlank, CharSet.contains, CharSet.containsCode, blanks, List.any_eq_false]
  simp
  omega

end Text

open Decimal
open Text (isBlank IsTrimmed trim_eq exists_trim)

theorem Decimal.SpellsInt.isTrimmed {w : List Char} {n : ℤ} (h : SpellsInt w n) : IsTrimmed w := by
  have hnot : ∀ c ∈ w, isBlank c = false := by
    intro c hc
    rcases h.forall_mem.2 c hc with hdigit | rfl | rfl
    · exact Text.isBlank_eq_false_of_isDigit hdigit
    · rfl
    · rfl
  exact ⟨fun c hc => hnot c (List.mem_of_head? hc), fun c hc => hnot c (List.mem_of_getLast? hc)⟩

/-- A text holds an integer if it spells one, apart from white space around the spelling. -/
def HoldsInt (text : String) (n : ℤ) : Prop :=
  ∃ b w a, text.toList = b ++ w ++ a ∧ (∀ c ∈ b, isBlank c = true) ∧ (∀ c ∈ a, isBlank c = true) ∧ SpellsInt w n

theorem holdsInt_iff {text : String} {n : ℤ} : HoldsInt text n ↔ readInt? (Text.trim text.toList) = some n := by
  rw [readInt?_eq_some_iff]
  constructor
  · rintro ⟨b, w, a, htext, hb, ha, hw⟩
    rw [htext, trim_eq hw.forall_mem.1 hw.isTrimmed hb ha]
    exact hw
  · intro h
    obtain ⟨b, a, htext, hb, ha⟩ := exists_trim text.toList
    exact ⟨b, _, a, htext, hb, ha, h⟩

/-! ## The look of a number -/

namespace TextFn

theorem isDigit_of_ascii {c : Char} (hc : c.isDigit = true) : isDigit c = true := by
  obtain ⟨hlow, hhigh⟩ := Char.isDigit_iff_toNat.1 hc
  refine List.any_eq_true.2 ⟨(0x30, 0x39), List.mem_cons_self, ?_⟩
  rw [Bool.and_eq_true, decide_eq_true_eq, decide_eq_true_eq]
  exact ⟨hlow, hhigh⟩

/-- Every text that is read as an integer looks like one. -/
theorem looksLikeInteger_of_readInt? {text : List Char} {n : ℤ} (h : readInt? text = some n) :
    looksLikeInteger text = true := by
  rcases hsign : splitSign text with ⟨negative, rest⟩
  obtain ⟨⟨hne, hdigits⟩, -⟩ := (readInt?_of_splitSign hsign).1 h
  rw [looksLikeInteger, hsign, Bool.and_eq_true, List.all_eq_true, Bool.not_eq_true', List.isEmpty_eq_false_iff]
  exact ⟨hne, fun c hc => isDigit_of_ascii (hdigits c hc)⟩

theorem looksLikeExponent_of_readExponent? {text : List Char} {n : ℤ} (h : readExponent? text = some n) :
    looksLikeExponent text = true := by
  cases text with
  | nil => rfl
  | cons c rest =>
    rw [readExponent?, Option.ite_none_right_eq_some] at h
    rw [looksLikeExponent, looksLikeInteger_of_readInt? h.2, Bool.and_true, Bool.or_eq_true, beq_iff_eq, beq_iff_eq]
    exact h.1

/-- Digits of any script end where those of ASCII end, if no digit of another script follows. -/
theorem span_isDigit {text : List Char}
    (h : ∀ c, (text.dropWhile Char.isDigit).head? = some c → isDigit c = false) :
    text.takeWhile isDigit = text.takeWhile Char.isDigit ∧
      text.dropWhile isDigit = text.dropWhile Char.isDigit := by
  induction text with
  | nil => exact ⟨rfl, rfl⟩
  | cons c text ih =>
    by_cases hc : c.isDigit = true
    · rw [List.dropWhile_cons_of_pos hc] at h
      obtain ⟨htake, hdrop⟩ := ih h
      have hc' := isDigit_of_ascii hc
      rw [List.takeWhile_cons_of_pos hc, List.takeWhile_cons_of_pos hc', List.dropWhile_cons_of_pos hc,
        List.dropWhile_cons_of_pos hc', htake, hdrop]
      exact ⟨rfl, rfl⟩
    · rw [List.dropWhile_cons_of_neg hc] at h
      have hc' : ¬ isDigit c = true := by
        rw [h c rfl]
        exact Bool.false_ne_true
      rw [List.takeWhile_cons_of_neg hc, List.takeWhile_cons_of_neg hc', List.dropWhile_cons_of_neg hc,
        List.dropWhile_cons_of_neg hc']
      exact ⟨rfl, rfl⟩

/-- An exponent does not begin with a digit. -/
theorem isDigit_head?_of_readExponent? {text : List Char} {n : ℤ} (h : readExponent? text = some n) :
    ∀ c, text.head? = some c → isDigit c = false := by
  cases text with
  | nil => exact nofun
  | cons c rest =>
    rintro _ ⟨rfl⟩
    rw [readExponent?, Option.ite_none_right_eq_some] at h
    rcases h.1 with rfl | rfl
    · decide +kernel
    · decide +kernel

/-- Every text that is read as a decimal looks like one. -/
theorem looksLikeDecimal_of_read? {text : List Char} {d : Bool × Decimal} (h : Decimal.read? text = some d) :
    looksLikeDecimal text = true := by
  rcases hsign : splitSign text with ⟨negative, rest⟩
  rw [Decimal.read?, hsign] at h
  rw [looksLikeDecimal, hsign]
  dsimp only at h ⊢
  -- the digits before the point, or all digits if there is none
  have hwhole (hend : ∀ c, (rest.dropWhile Char.isDigit).head? = some c → isDigit c = false) :=
    span_isDigit hend
  generalize hrest : rest.dropWhile Char.isDigit = tail at h hwhole
  split at h
  · next fraction =>
    obtain ⟨htake, hdrop⟩ := hwhole (by rintro _ ⟨rfl⟩; decide +kernel)
    rw [Option.ite_none_left_eq_some, Option.map_eq_some_iff] at h
    obtain ⟨hne, e, hexponent, -⟩ := h
    obtain ⟨htake', hdrop'⟩ := span_isDigit (isDigit_head?_of_readExponent? hexponent)
    simp only [htake, hdrop]
    rw [htake', hdrop', looksLikeExponent_of_readExponent? hexponent, Bool.and_true, Bool.not_eq_true',
      List.isEmpty_eq_false_iff]
    exact hne
  · next tail hpoint =>
    rw [Option.ite_none_left_eq_some, Option.map_eq_some_iff] at h
    obtain ⟨hne, e, hexponent, -⟩ := h
    obtain ⟨htake, hdrop⟩ := hwhole (isDigit_head?_of_readExponent? hexponent)
    rw [htake, hdrop]
    split
    · next fraction => exact absurd rfl (hpoint fraction)
    · rw [looksLikeExponent_of_readExponent? hexponent, Bool.and_true, Bool.not_eq_true',
        List.isEmpty_eq_false_iff]
      exact hne

/-- The filter of `parse-long` changes nothing: what does not look like an integer is not read as one. -/
theorem integerOf_string (text : String) : integerOf (.string text) =
    match (readInt? (Text.trim text.toList)).bind int64? with
    | some n => .number (.int n)
    | none => .nil := by
  rw [integerOf]
  split
  · rfl
  · next hlooks =>
    have hnone : readInt? (Text.trim text.toList) = none :=
      Option.eq_none_iff_forall_ne_some.2 fun n hn => hlooks (looksLikeInteger_of_readInt? hn)
    rw [hnone]
    rfl

/-- The filter of `parse-double` changes nothing either. -/
theorem doubleOf_string (text : String) : doubleOf (.string text) =
    match Number.special? (Text.trim text.toList) with
    | some x => .number (.float x)
    | none =>
      match Decimal.read? (Text.trim text.toList) with
      | some (negative, d) => .number (.float (d.toBinary64 negative))
      | none => .nil := by
  rw [doubleOf]
  cases Number.special? (Text.trim text.toList) with
  | some x => rfl
  | none =>
    dsimp only
    split
    · rfl
    · next hlooks =>
      have hnone : Decimal.read? (Text.trim text.toList) = none :=
        Option.eq_none_iff_forall_ne_some.2 fun d hd => hlooks (looksLikeDecimal_of_read? hd)
      rw [hnone]

end TextFn

/-! ## The two readers -/

theorem TextFn.integerOf_eq_int_iff {text : String} {n : Int64} :
    TextFn.integerOf (.string text) = .number (.int n) ↔ HoldsInt text n.toInt := by
  have hvalue : ((readInt? (Text.trim text.toList)).bind int64? = some n) ↔ HoldsInt text n.toInt := by
    rw [holdsInt_iff, Option.bind_eq_some_iff]
    constructor
    · rintro ⟨m, hm, hn⟩
      rw [int64?_eq_some_iff.1 hn]
      exact hm
    · intro h
      exact ⟨_, h, int64?_eq_some_iff.2 rfl⟩
  rw [← hvalue, TextFn.integerOf_string]
  cases (readInt? (Text.trim text.toList)).bind int64? <;> simp

theorem TextFn.integerOf_eq_nil {text : String} (h : ∀ n : Int64, ¬ HoldsInt text n.toInt) :
    TextFn.integerOf (.string text) = .nil := by
  cases hread : (readInt? (Text.trim text.toList)).bind int64? with
  | none => rw [TextFn.integerOf_string, hread]
  | some n =>
    have hint : TextFn.integerOf (.string text) = .number (.int n) := by rw [TextFn.integerOf_string, hread]
    exact absurd (TextFn.integerOf_eq_int_iff.1 hint) (h n)

/-- A literal is an integer exactly if it spells one. -/
theorem Number.read?_eq_int_iff {w : List Char} {n : Int64} :
    Number.read? w = some (.int n) ↔ SpellsInt w n.toInt := by
  constructor
  · intro h
    unfold Number.read? at h
    split at h
    · cases h
    · split at h
      -- a text with a point or an exponent is read as a float
      · split at h
        · dsimp only at h
          split at h <;> cases h
        · cases h
      · rw [Option.map_eq_some_iff] at h
        obtain ⟨m, hm, hn⟩ := h
        obtain ⟨k, hk, hkm⟩ := Option.bind_eq_some_iff.1 hm
        rw [← readInt?_eq_some_iff, hk, ← int64?_eq_some_iff.1 hkm, Number.int.inj hn]
  · intro h
    unfold Number.read?
    rw [special?_of_startsNumber h.startsNumber]
    simp only [h.unmarked, readInt?_eq_some_iff.2 h]
    simp [int64?_toInt]

/-- For every text, `parse-long` gives the integer that the text holds, if it is a 64-bit one, and otherwise `nil`;
it never fails. If there is no white space around the text, it gives an integer exactly if the text is a literal
of this integer. The text that `str` makes of an integer gives the integer back. -/
theorem integers_are_read_exactly (h : Host) (k : Nat) (s : RunState) :
    (∀ (text : String) (n : Int64),
      callAt h (k + 1) (.builtin (.text .parseLong)) [.string text] s = (.ok (.number (.int n)), s) ↔
        HoldsInt text n.toInt) ∧
    (∀ text : String, (∀ n : Int64, ¬ HoldsInt text n.toInt) →
      callAt h (k + 1) (.builtin (.text .parseLong)) [.string text] s = (.ok .nil, s)) ∧
    (∀ text : String, IsTrimmed text.toList → ∀ n : Int64,
      callAt h (k + 1) (.builtin (.text .parseLong)) [.string text] s = (.ok (.number (.int n)), s) ↔
        Number.read? text.toList = some (.int n)) ∧
    ∀ n : Int64, ∃ text : String,
      callAt h (k + 1) (.builtin (.text .str)) [.number (.int n)] s = (.ok (.string text), s) ∧
      callAt h (k + 1) (.builtin (.text .parseLong)) [.string text] s = (.ok (.number (.int n)), s) := by
  have hcall : ∀ text : String, callAt h (k + 1) (.builtin (.text .parseLong)) [.string text] s =
      (.ok (TextFn.integerOf (.string text)), s) := fun text => callAt_of_act_ok rfl rfl h k s
  have hread : ∀ (text : String) (n : Int64),
      callAt h (k + 1) (.builtin (.text .parseLong)) [.string text] s = (.ok (.number (.int n)), s) ↔
        HoldsInt text n.toInt := by
    intro text n
    rw [hcall, ← TextFn.integerOf_eq_int_iff]
    simp
  refine ⟨hread, fun text hnone => ?_, fun text htext n => ?_, fun n => ?_⟩
  · rw [hcall, TextFn.integerOf_eq_nil hnone]
  · rw [hread, holdsInt_iff, Text.trim_of_isTrimmed htext, readInt?_eq_some_iff, Number.read?_eq_int_iff]
  · have hspells : SpellsInt (intText n.toInt) n.toInt := readInt?_eq_some_iff.1 (readInt?_intText n.toInt)
    refine ⟨String.ofList (intText n.toInt), ?_, (hread _ n).2 ?_⟩
    · have hstr : TextFn.concatenated [.number (.int n)] = .string (String.ofList (intText n.toInt)) := by
        change Value.string (String.ofList (intText n.toInt ++ [])) = _
        rw [List.append_nil]
      exact callAt_of_act_ok rfl (congrArg Except.ok hstr) h k s
    · exact ⟨[], intText n.toInt, [], by simp, by simp, by simp, hspells⟩

/-- A text with a sign, zeros and white space, the least integer, and the first natural number that is too large. -/
theorem integers_are_read_exactly_at_bounds :
    ∃ (h : Host) (s : RunState),
      HoldsInt " +007\n" 7 ∧
      callAt h 1 (.builtin (.text .parseLong)) [.string " +007\n"] s = (.ok (.number (.int 7)), s) ∧
      callAt h 1 (.builtin (.text .parseLong)) [.string "9223372036854775808"] s = (.ok .nil, s) ∧
      Number.read? "-9223372036854775808".toList = some (.int Int64.minValue) ∧
      callAt h 1 (.builtin (.text .parseLong)) [.string "-9223372036854775808"] s =
        (.ok (.number (.int Int64.minValue)), s) := by
  let h : Host := .bare
  let s : RunState := .fresh
  obtain ⟨hread, hnil, hliteral, -⟩ := integers_are_read_exactly h 0 s
  have hseven : HoldsInt " +007\n" 7 := holdsInt_iff.2 (by decide +kernel)
  have hlarge : ∀ n : Int64, ¬ HoldsInt "9223372036854775808" n.toInt := by
    intro n hn
    have hvalue : readInt? (Text.trim "9223372036854775808".toList) = some 9223372036854775808 := by
      decide +kernel
    have heq := Option.some.inj (hvalue.symm.trans (holdsInt_iff.1 hn))
    have hfits := fitsInt64_iff.1 (fitsInt64_toInt n)
    omega
  have htrimmed : IsTrimmed "-9223372036854775808".toList := by
    constructor <;> rintro c ⟨⟩ <;> rfl
  have hleast : Number.read? "-9223372036854775808".toList = some (.int Int64.minValue) := by decide +kernel
  exact ⟨h, s, hseven, (hread " +007\n" 7).2 hseven, hnil _ hlarge, hleast, (hliteral _ htrimmed _).2 hleast⟩

end ToolLisp
