import ToolLisp.Proofs.NumberText
import ToolLisp.Text.Quoted

/-!
# Texts of tokens

`Token.text` writes a token, and `Token.WellSpelled` says which tokens can be written. The text of such a
token is read as that token again, whatever follows it, provided that a word is followed by a delimiter
or by nothing (`nextToken_text`).

The characters of names and numbers are no delimiters. For letters and numerals this is a fact about two
tables of ranges, which have no code point in common.
-/

namespace ToolLisp

namespace Text

/-- Whether two sets of characters have nothing in common. -/
def CharSet.disjoint (s t : CharSet) : Bool :=
  s.all fun r => t.all fun q => r.2 < q.1 || q.2 < r.1

/-- A character of one set is not in another that has none in common with it. -/
theorem CharSet.not_contains_of_disjoint {s t : CharSet} (h : s.disjoint t = true) {c : Char}
    (hc : s.contains c = true) : t.contains c = false := by
  obtain ⟨r, hr, hrc⟩ := List.any_eq_true.1 hc
  refine List.any_eq_false.2 fun q hq => ?_
  have hdisjoint := List.all_eq_true.1 (List.all_eq_true.1 h r hr) q hq
  simp only [Bool.or_eq_true, Bool.and_eq_true, decide_eq_true_eq] at hrc hdisjoint ⊢
  omega

theorem not_isAlphanumeric_of_isBlank {c : Char} (h : isBlank c = true) :
    isAlphanumeric c = false :=
  CharSet.not_contains_of_disjoint (s := blanks) (by decide +kernel) h

theorem isAlphanumeric_of_isDigit {c : Char} (h : c.isDigit = true) : isAlphanumeric c = true := by
  have hdigits : (0x30, 0x39) ∈ alphanumeric := by decide
  refine List.any_eq_true.2 ⟨_, hdigits, ?_⟩
  rw [Char.isDigit_iff_toNat] at h
  simpa using h

end Text

namespace Token

/-! ## Characters -/

/-- No name holds a sign that delimits words, nor one that begins a keyword or a special value. -/
theorem not_isSymbolChar_of_mem_signs {c : Char} (h : c ∈ ':' :: '#' :: delimiterSigns) :
    isSymbolChar c = false := by
  have hsigns : ((':' :: '#' :: delimiterSigns).all fun c => !isSymbolChar c) = true := by
    decide +kernel
  simpa using List.all_eq_true.1 hsigns c h

/-- No delimiter is part of a symbol. -/
theorem not_isSymbolChar_of_isDelimiter {c : Char} (h : isDelimiter c = true) :
    isSymbolChar c = false := by
  have hsymbols : (symbolSigns.all fun c => !Text.isBlank c) = true := by decide
  rcases Bool.or_eq_true_iff.1 h with h | h
  · exact not_isSymbolChar_of_mem_signs (by simp [List.contains_iff_mem.1 h])
  · unfold isSymbolChar
    rw [Text.not_isAlphanumeric_of_isBlank h, Bool.or_false, Bool.eq_false_iff]
    intro hc
    have := List.all_eq_true.1 hsymbols c (List.contains_iff_mem.1 hc)
    rw [h] at this
    cases this

/-- No character of a name ends a word. -/
theorem not_isDelimiter_of_isSymbolChar {c : Char} (h : isSymbolChar c = true) :
    isDelimiter c = false := by
  rw [Bool.eq_false_iff]
  intro hc
  rw [not_isSymbolChar_of_isDelimiter hc] at h
  cases h

theorem isDelimiter_of_isLayout {c : Char} (h : isLayout c = true) : isDelimiter c = true := by
  rcases Bool.or_eq_true_iff.1 h with h | h
  · rw [beq_iff_eq.1 h]
    decide
  · exact Bool.or_eq_true_iff.2 (Or.inr h)

theorem isSymbolChar_of_isDigit {c : Char} (h : c.isDigit = true) : isSymbolChar c = true :=
  Bool.or_eq_true_iff.2 (Or.inr (Text.isAlphanumeric_of_isDigit h))

/-- A numeral consists of characters of symbols, so it is read as one word. -/
theorem isSymbolChar_of_isNumeral {c : Char} (h : Decimal.isNumeral c = true) :
    isSymbolChar c = true := by
  simp only [Decimal.isNumeral, Bool.or_eq_true, beq_iff_eq] at h
  rcases h with ((h | rfl) | rfl) | rfl
  · exact isSymbolChar_of_isDigit h
  all_goals decide

/-- The signs that begin other tokens are not part of a symbol. -/
theorem ne_of_isSymbolChar {c d : Char} (hc : isSymbolChar c = true)
    (hd : d ∈ ':' :: '#' :: delimiterSigns) : c ≠ d := by
  rintro rfl
  rw [not_isSymbolChar_of_mem_signs hd] at hc
  cases hc

theorem not_isLayout_of_isSymbolChar {c : Char} (h : isSymbolChar c = true) :
    isLayout c = false := by
  rw [Bool.eq_false_iff]
  intro hc
  rw [not_isSymbolChar_of_isDelimiter (isDelimiter_of_isLayout hc)] at h
  cases h

theorem ofBracket?_of_isSymbolChar {c : Char} (h : isSymbolChar c = true) :
    ofBracket? c = none := by
  unfold ofBracket?
  split
  case h_7 => rfl
  all_goals exact absurd rfl (ne_of_isSymbolChar h (by decide))

/-! ## Layout -/

/-- Layout before a token is skipped. -/
theorem skipLayout_of_isLayout {c : Char} (h : isLayout c = true) (rest : List Char) (p : Position) :
    skipLayout ⟨c :: rest, p⟩ = skipLayout ⟨rest, p.after c⟩ := by
  simp only [skipLayout, skipLayoutFrom, h, if_true, Bool.false_eq_true, if_false]

/-- What is neither layout nor a comment is not skipped. -/
theorem skipLayout_eq_self {c : Char} (h : isLayout c = false) (hc : c ≠ ';') (rest : List Char)
    (p : Position) : skipLayout ⟨c :: rest, p⟩ = ⟨c :: rest, p⟩ := by
  simp only [skipLayout, skipLayoutFrom, h, hc, Bool.false_eq_true, if_false]

end Token

open Token in
/-- A token that begins at the cursor is the next one. -/
theorem nextToken_of_readToken {c : Char} {rest : List Char} {p : Position} {t : Token}
    {after : Cursor} (h : isLayout c = false) (hc : c ≠ ';')
    (ht : readToken c ⟨c :: rest, p⟩ = .ok (t, after)) :
    nextToken ⟨c :: rest, p⟩ = .ok (.token t p after) := by
  unfold nextToken
  simp only [skipLayout_eq_self h hc, ht]

namespace Token

/-! ## Words -/

/-- A word can end before `rest`. -/
def Ends (rest : List Char) : Prop :=
  ∀ c ∈ rest.head?, isDelimiter c = true

theorem Ends.nil : Ends [] := by
  intro c hc
  cases hc

/-- A word ends before a delimiter. -/
theorem Ends.cons {c : Char} (h : isDelimiter c = true) (rest : List Char) : Ends (c :: rest) := by
  intro d hd
  cases hd
  exact h

/-- One or more characters of names: a name, or two names around a slash. -/
def IsName (word : List Char) : Prop :=
  word ≠ [] ∧ ∀ c ∈ word, isSymbolChar c = true

/-- The test of the reader says whether a word is a name. -/
theorem isName_iff {word : List Char} :
    (!word.isEmpty && word.all isSymbolChar) = true ↔ IsName word := by
  simp [IsName]

instance (word : List Char) : Decidable (IsName word) :=
  decidable_of_iff _ isName_iff

theorem IsName.not_isDelimiter {word : List Char} (h : IsName word) :
    ∀ c ∈ word, isDelimiter c = false :=
  fun c hc => not_isDelimiter_of_isSymbolChar (h.2 c hc)

/-- A word is read up to the delimiter behind it. -/
theorem readWord_eq {word rest : List Char} (hw : ∀ c ∈ word, isDelimiter c = false)
    (hr : Ends rest) {start p : Position} {judge : List Char → Except ReadFault Token} {t : Token}
    (ht : judge word = .ok t) :
    readWord start judge ⟨word ++ rest, p⟩ = .ok (t, ⟨rest, p.afterAll word⟩) := by
  have hword : ∀ c ∈ word, (!isDelimiter c) = true := by
    intro c hc
    rw [hw c hc]
    rfl
  have hrest : ∀ c ∈ rest.head?, (!isDelimiter c) = false := by
    intro c hc
    rw [hr c hc]
    rfl
  unfold readWord Cursor.span
  simp only [Text.takeWhile_append hword hrest, ht]

/-- Whether a word starts a number is seen in the word itself. -/
theorem startsNumber_append {word rest : List Char} (hne : word ≠ [])
    (hr : ∀ c ∈ rest.head?, c.isDigit = false) :
    startsNumber (word ++ rest) = startsNumber word := by
  match word, rest with
  | [], _ => exact absurd rfl hne
  | [c], [] => rfl
  | [c], d :: rest => simp [startsNumber, hr d rfl]
  | _ :: _ :: _, _ => rfl

/-- The token of a word that begins with a character of a name. -/
def ofWord (word : List Char) : Except ReadFault Token :=
  if startsNumber word then ofNumberWord word else ofSymbolWord word

/-- A word that begins with a character of a name is read as the token that it spells. -/
theorem nextToken_word {first : Char} {word rest : List Char} (hfirst : isSymbolChar first = true)
    (hw : ∀ c ∈ first :: word, isDelimiter c = false) (hr : Ends rest) (p : Position) {t : Token}
    (ht : ofWord (first :: word) = .ok t) :
    nextToken ⟨first :: word ++ rest, p⟩ =
      .ok (.token t p ⟨rest, p.afterAll (first :: word)⟩) := by
  -- what follows the word cannot turn a sign at its end into the beginning of a number
  have hstart : startsNumber (first :: word ++ rest) = startsNumber (first :: word) := by
    refine startsNumber_append (by simp) fun c hc => ?_
    rw [Bool.eq_false_iff]
    intro hd
    have := not_isDelimiter_of_isSymbolChar (isSymbolChar_of_isDigit hd)
    rw [hr c hc] at this
    cases this
  refine nextToken_of_readToken (not_isLayout_of_isSymbolChar hfirst)
    (ne_of_isSymbolChar hfirst (by decide)) ?_
  have hquote := ne_of_isSymbolChar hfirst (d := '"') (by decide)
  have hcolon := ne_of_isSymbolChar hfirst (d := ':') (by decide)
  have hhash := ne_of_isSymbolChar hfirst (d := '#') (by decide)
  rw [List.cons_append] at hstart
  unfold readToken
  rw [ofBracket?_of_isSymbolChar hfirst]
  simp only [hquote, hcolon, hhash, if_false, hfirst, if_true, List.append_eq, hstart]
  unfold ofWord at ht
  split at ht
  case isTrue h => rw [if_pos h]; exact readWord_eq hw hr ht
  case isFalse h => rw [if_neg h]; exact readWord_eq hw hr ht

/-- A name that ends before a delimiter is read as one token. -/
theorem nextToken_name {word rest : List Char} (hw : IsName word) (hr : Ends rest) (p : Position)
    {t : Token} (ht : ofWord word = .ok t) :
    nextToken ⟨word ++ rest, p⟩ = .ok (.token t p ⟨rest, p.afterAll word⟩) := by
  obtain ⟨first, word, rfl⟩ := List.exists_cons_of_ne_nil hw.1
  exact nextToken_word (hw.2 first List.mem_cons_self) hw.not_isDelimiter hr p ht

/-! ## Names -/

theorem find?_not_isSymbolChar {word : List Char} (hw : ∀ c ∈ word, isSymbolChar c = true) :
    word.find? (!isSymbolChar ·) = none := by
  rw [List.find?_eq_none]
  intro c hc
  simp [hw c hc]

theorem ofKeywordName_eq {name : List Char} (hn : IsName name) (hslash : '/' ∉ name) :
    ofKeywordName name = .ok (.keyword (String.ofList name)) := by
  unfold ofKeywordName
  rw [if_neg hn.1, if_neg (by simpa using hslash), find?_not_isSymbolChar hn.2]

/-- A name is read as a symbol if it is neither a number nor qualified. -/
theorem ofWord_symbol {name : List Char} (hn : IsName name) (hstart : startsNumber name = false)
    (hspecial : Number.special? name = none) (hslash : name = ['/'] ∨ '/' ∉ name) :
    ofWord name = .ok (.symbol (String.ofList name)) := by
  unfold ofWord ofSymbolWord
  rw [hstart, if_neg Bool.false_ne_true, find?_not_isSymbolChar hn.2]
  simp only [hspecial, if_pos hslash]

theorem special?_of_slash {word : List Char} (h : '/' ∈ word) : Number.special? word = none :=
  Number.special?_eq_none (p := (·.contains '/')) (List.contains_iff_mem.2 h) (by decide)

theorem IsName.qualified {ns name : List Char} (hns : IsName ns) (hn : IsName name) :
    IsName (ns ++ '/' :: name) := by
  refine ⟨by simp, ?_⟩
  simp only [List.forall_mem_append, List.forall_mem_cons]
  exact ⟨hns.2, by decide, hn.2⟩

/-- A slash between two names makes a qualified one. -/
theorem ofWord_qualified {ns name : List Char} (hns : IsName ns) (hn : IsName name)
    (hstart : startsNumber ns = false) (hns' : '/' ∉ ns) (hn' : '/' ∉ name) :
    ofWord (ns ++ '/' :: name) = .ok (.qualified (String.ofList ns) (String.ofList name)) := by
  have hstart' : startsNumber (ns ++ '/' :: name) = false := by
    rw [startsNumber_append hns.1 (by simp), hstart]
  have hsplit : (ns ++ '/' :: name).takeWhile (· != '/') = ns ∧
      (ns ++ '/' :: name).dropWhile (· != '/') = '/' :: name := by
    refine Text.takeWhile_append (fun c hc => ?_) (by simp)
    rw [bne_iff_ne]
    rintro rfl
    exact hns' hc
  have hslash : ¬ (ns ++ '/' :: name = ['/'] ∨ '/' ∉ ns ++ '/' :: name) := by
    rintro (h | h)
    · have hlength := congrArg List.length h
      have hpos := List.length_pos_of_ne_nil hns.1
      simp only [List.length_append, List.length_cons, List.length_nil] at hlength
      omega
    · exact h (by simp)
  have hparts : ¬ (ns = [] ∨ name = [] ∨ '/' ∈ name) := by
    rintro (h | h | h)
    · exact hns.1 h
    · exact hn.1 h
    · exact hn' h
  unfold ofWord ofSymbolWord
  rw [hstart', if_neg Bool.false_ne_true, find?_not_isSymbolChar (hns.qualified hn).2,
    special?_of_slash (by simp)]
  simp only [hsplit, if_neg hslash, List.drop_one, List.tail_cons, if_neg hparts]

/-- A number is spelled with numerals from its beginning on, or it is a special one. -/
theorem text_number (n : Number) :
    (startsNumber n.text = true ∧ ∀ c ∈ n.text, Decimal.isNumeral c = true) ∨
      (startsNumber n.text = false ∧ (∀ c ∈ n.text, isSymbolChar c = true) ∧
        ∃ x, n.unsigned = .float x ∧ Number.special? n.text = some x) := by
  cases n with
  | int n =>
    have hstart := Number.startsNumber_intText n.toInt []
    rw [List.append_nil] at hstart
    exact Or.inl ⟨hstart, Decimal.isNumeral_intText n.toInt⟩
  | float x =>
    obtain ⟨negative, rfl⟩ | ⟨negative, rfl⟩ | ⟨negative, rfl⟩ | ⟨negative, m, h, rfl, h₀, hm⟩ :=
      Number.float_cases x
    -- the special numbers look like symbols, and a zero does not
    · exact Or.inr ⟨rfl, List.all_eq_true.1 (show "NaN".toList.all isSymbolChar = true by decide), _, rfl, rfl⟩
    · right
      cases negative <;>
        exact ⟨by decide, List.all_eq_true.1 (by decide), _, rfl, by decide⟩
    · left
      cases negative <;> exact ⟨by decide, List.all_eq_true.1 (by decide)⟩
    · left
      obtain ⟨text, d, htext, hd, -⟩ := @Number.text_signed negative m h h₀ hm
      obtain ⟨c, rest, rfl, hc⟩ := hd.head
      rw [Number.text_float, htext]
      cases negative with
      | false => exact ⟨Number.startsNumber_of_isDigit rest hc, hd.isNumeral⟩
      | true =>
        exact ⟨Number.startsNumber_neg rest hc, List.forall_mem_cons.2 ⟨rfl, hd.isNumeral⟩⟩

theorem isName_text_number (n : Number) : IsName n.text := by
  rcases text_number n with ⟨hstart, hn⟩ | ⟨-, hn, x, -, hspecial⟩
  · refine ⟨?_, fun c hc => isSymbolChar_of_isNumeral (hn c hc)⟩
    intro h
    rw [h] at hstart
    cases hstart
  · refine ⟨?_, hn⟩
    intro h
    rw [h] at hspecial
    cases hspecial

/-- The names of infinite numbers and of `NaN` are read as numbers. -/
theorem ofWord_special {word : List Char} (hw : ∀ c ∈ word, isSymbolChar c = true)
    (hstart : startsNumber word = false) {x : Binary64} (hx : Number.special? word = some x) :
    ofWord word = .ok (.number (.float x)) := by
  rw [ofWord, hstart, if_neg Bool.false_ne_true, ofSymbolWord, find?_not_isSymbolChar hw]
  simp only [hx]

/-- A number is read back from its text, if it has one of its own. -/
theorem ofWord_number {n : Number} (h : n.Regular) : ofWord n.text = .ok (.number n) := by
  rcases text_number n with ⟨hstart, -⟩ | ⟨hstart, hn, x, hx, hspecial⟩
  · rw [ofWord, if_pos hstart, ofNumberWord, Number.read?_text h]
  · rw [Number.unsigned_of_regular h] at hx
    rw [hx] at hn hstart hspecial ⊢
    exact ofWord_special hn hstart hspecial

/-! ## Strings -/

theorem afterAll_append (p : Position) (a b : List Char) :
    p.afterAll (a ++ b) = (p.afterAll a).afterAll b :=
  List.foldl_append

/-- `Quotes text s` says that `text` between quotes stands for `s`. A backslash and one character stand for
a character, and so do a backslash, the letter `u` and four hexadecimal digits. Every other character but
the quote stands for itself. -/
inductive Quotes : List Char → List Char → Prop
  | nil : Quotes [] []
  | plain {c : Char} {text s : List Char} :
    c ≠ '"' → c ≠ '\\' → Quotes text s → Quotes (c :: text) (c :: s)
  | short {e c : Char} {text s : List Char} :
    shortEscape? e = some c → Quotes text s → Quotes ('\\' :: e :: text) (c :: s)
  | numeric {a b c d x : Char} {text s : List Char} :
    numericEscape a b c d = .ok x → Quotes text s →
      Quotes ('\\' :: 'u' :: a :: b :: c :: d :: text) (x :: s)

/-- What stands between quotes is read up to the closing quote. -/
theorem Quotes.readString_eq {text s : List Char} (h : Quotes text s) (start : Position)
    (rest : List Char) :
    ∀ (done : List Char) (p : Position),
      readString start done p (text ++ '"' :: rest) =
        .ok (String.ofList (done.reverse ++ s), ⟨rest, p.afterAll (text ++ ['"'])⟩) := by
  induction h with
  | nil =>
    intro done p
    rw [List.append_nil]
    rfl
  | plain hquote hslash _ ih =>
    intro done p
    rw [List.cons_append, readString, ih, List.reverse_cons, List.append_assoc]
    · rfl
    all_goals
      intros
      simp_all
  | @short e c text s he _ ih =>
    intro done p
    -- `\u` begins a numeric escape
    have hu : e ≠ 'u' := by
      rintro rfl
      simp [shortEscape?] at he
    rw [List.cons_append, List.cons_append, readString, he]
    · simp only [ih, List.reverse_cons, List.append_assoc]
      rfl
    · exact fun _ _ _ _ _ hu' _ => hu hu'
    · exact hu
  | numeric hx _ ih =>
    intro done p
    simp only [List.cons_append, readString, hx, ih, List.reverse_cons, List.append_assoc]
    rfl

/-- A string is read up to its closing quote. -/
theorem Quotes.nextToken_eq {text s : List Char} (h : Quotes text s) (rest : List Char)
    (p : Position) :
    nextToken ⟨'"' :: (text ++ ['"']) ++ rest, p⟩ =
      .ok (.token (.string (String.ofList s)) p ⟨rest, p.afterAll ('"' :: (text ++ ['"']))⟩) := by
  have hread := h.readString_eq p rest [] (p.after '"')
  rw [List.reverse_nil, List.nil_append] at hread
  refine nextToken_of_readToken (by decide) (by decide) ?_
  simp only [readToken, ofBracket?, if_true, List.drop_one, List.tail_cons, List.append_assoc,
    List.append_eq, List.singleton_append, hread]
  rfl

/-- The escape of a character stands for that character. -/
theorem quotes_escapeChar (c : Char) {text s : List Char} (h : Quotes text s) :
    Quotes (Text.escapeChar c ++ text) (c :: s) := by
  unfold Text.escapeChar
  split
  case h_7 => exact .plain (by assumption) (by assumption) h
  all_goals exact .short rfl h

/-- Escaping a string and reading it back gives the string. -/
theorem quotes_escaped (s : List Char) : Quotes (s.flatMap Text.escapeChar) s := by
  induction s with
  | nil => exact .nil
  | cons c s ih => exact quotes_escapeChar c ih

/-! ## Tokens -/

/-- The opening bracket of a kind. -/
def openingChar : Bracket → Char
  | .round => '('
  | .square => '['
  | .curly => '\x7b'

/-- The closing bracket of a kind. -/
def closingChar : Bracket → Char
  | .round => ')'
  | .square => ']'
  | .curly => '\x7d'

/-- The characters of a token. -/
def text : Token → List Char
  | .opening b => [openingChar b]
  | .closing b => [closingChar b]
  | .openFunction => ['#', '(']
  | .symbol name => name.toList
  | .qualified ns name => ns.toList ++ '/' :: name.toList
  | .keyword name => ':' :: name.toList
  | .number n => n.text
  | .string s => Text.quoted s.toList

/-- Whether a token is a word, which ends only at a delimiter. -/
def isWord : Token → Bool
  | .opening _ | .closing _ | .openFunction | .string _ => false
  | .symbol _ | .qualified _ _ | .keyword _ | .number _ => true

/-- The tokens whose text is read as nothing else. Names are made of the characters of names. A slash
divides a qualified symbol, and stands in no other name but its own. A symbol does not look like a
number. The sign of NaN has no spelling. -/
def WellSpelled : Token → Prop
  | .symbol name =>
    IsName name.toList ∧ (name = "/" ∨ '/' ∉ name.toList) ∧ startsNumber name.toList = false ∧
      Number.special? name.toList = none
  | .qualified ns name =>
    (IsName ns.toList ∧ '/' ∉ ns.toList ∧ startsNumber ns.toList = false) ∧
      IsName name.toList ∧ '/' ∉ name.toList
  | .keyword name => IsName name.toList ∧ '/' ∉ name.toList
  | .number n => n.Regular
  | _ => True

instance : (t : Token) → Decidable t.WellSpelled
  | .symbol _ => inferInstanceAs (Decidable (_ ∧ _ ∧ _ ∧ _))
  | .qualified _ _ => inferInstanceAs (Decidable ((_ ∧ _ ∧ _) ∧ _ ∧ _))
  | .keyword _ => inferInstanceAs (Decidable (_ ∧ _))
  | .number n => inferInstanceAs (Decidable n.Regular)
  | .opening _ | .closing _ | .openFunction | .string _ => .isTrue trivial

/-- The text of a token is read as that token, before anything that does not go on with a word. -/
theorem nextToken_text {t : Token} (ht : t.WellSpelled) {rest : List Char}
    (hr : t.isWord = true → Ends rest) (p : Position) :
    nextToken ⟨t.text ++ rest, p⟩ = .ok (.token t p ⟨rest, p.afterAll t.text⟩) := by
  cases t with
  | opening b => cases b <;> exact nextToken_of_readToken (by decide) (by decide) rfl
  | closing b => cases b <;> exact nextToken_of_readToken (by decide) (by decide) rfl
  | openFunction => exact nextToken_of_readToken (by decide) (by decide) rfl
  | string s =>
    have hread := (quotes_escaped s.toList).nextToken_eq rest p
    rw [String.ofList_toList] at hread
    exact hread
  | keyword name =>
    obtain ⟨hn, hslash⟩ := ht
    refine nextToken_of_readToken (by decide) (by decide) ?_
    have hname := ofKeywordName_eq hn hslash
    rw [String.ofList_toList] at hname
    exact readWord_eq hn.not_isDelimiter (hr rfl) hname
  | symbol name =>
    obtain ⟨hn, hslash, hstart, hspecial⟩ := ht
    have hslash' : name.toList = ['/'] ∨ '/' ∉ name.toList := by
      refine hslash.imp_left ?_
      rintro rfl
      decide
    have hword := ofWord_symbol hn hstart hspecial hslash'
    rw [String.ofList_toList] at hword
    exact nextToken_name hn (hr rfl) p hword
  | qualified ns name =>
    obtain ⟨⟨hns, hns', hstart⟩, hn, hn'⟩ := ht
    have hword := ofWord_qualified hns hn hstart hns' hn'
    rw [String.ofList_toList, String.ofList_toList] at hword
    exact nextToken_name (hns.qualified hn) (hr rfl) p hword
  | number n => exact nextToken_name (isName_text_number n) (hr rfl) p (ofWord_number ht)

end Token

end ToolLisp
