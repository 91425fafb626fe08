import ToolLisp.Proofs.TokenText

/-!
# Spellings of tokens

Every token has a text of its own. Numbers and strings have other spellings besides: a plus sign or zeros in
front of the digits, escapes by number, line feeds between quotes. `Token.Spells text t` says that `text` is a
spelling of `t`, and `Token.IsSeparator text` that `text` is made of white space, commas and comments.

Spellings and separators are exactly what the reader of tokens takes. A separator is skipped
(`IsSeparator.skipLayout_eq`), and a spelling is read as its token if a word is followed by a delimiter or by
nothing (`Spells.nextToken_eq`). The other way round, what is skipped before a token is a separator
(`skipLayout_skips`), and what is read as a token is a spelling of it (`readToken_spells`). So a token has at
least one character, and the cursor moves over the text and over nothing else.
-/

namespace ToolLisp

/-! ## Moves of a cursor -/

/-- The cursor `c'` stands behind the characters `text` from `c` on. -/
structure Cursor.Moves (c : Cursor) (text : List Char) (c' : Cursor) : Prop where
  rest : c.rest = text ++ c'.rest
  position : c'.position = c.position.afterAll text

namespace Cursor

theorem Moves.refl (c : Cursor) : c.Moves [] c :=
  ⟨rfl, rfl⟩

theorem Moves.trans {c c' c'' : Cursor} {a b : List Char} (h : c.Moves a c') (h' : c'.Moves b c'') :
    c.Moves (a ++ b) c'' where
  rest := by rw [h.rest, h'.rest, List.append_assoc]
  position := by rw [h'.position, h.position, Token.afterAll_append]

theorem Moves.length {c c' : Cursor} {text : List Char} (h : c.Moves text c') :
    c.rest.length = text.length + c'.rest.length := by
  rw [h.rest, List.length_append]

/-- The cursor moves over characters that stand before it. -/
theorem moves_append (text rest : List Char) (p : Position) :
    Moves ⟨text ++ rest, p⟩ text ⟨rest, p.afterAll text⟩ :=
  ⟨rfl, rfl⟩

theorem Moves.append (text : List Char) {rest text' : List Char} {p : Position} {c : Cursor}
    (h : Moves ⟨rest, p.afterAll text⟩ text' c) : Moves ⟨text ++ rest, p⟩ (text ++ text') c :=
  (moves_append text rest p).trans h

theorem span_moves (p : Char → Bool) (c : Cursor) : c.Moves (c.span p).1 (c.span p).2 :=
  ⟨List.takeWhile_append_dropWhile.symm, rfl⟩

theorem skip_moves (c : Cursor) (n : Nat) : c.Moves (c.rest.take n) (c.skip n) :=
  ⟨(List.take_append_drop n c.rest).symm, rfl⟩

end Cursor

open Cursor

namespace Token

/-! ## Separators -/

/-- White space, commas, and comments from a semicolon to a line feed, one after the other. -/
inductive IsSeparator : List Char → Prop
  | nil : IsSeparator []
  | layout {c : Char} {rest : List Char} :
    isLayout c = true → IsSeparator rest → IsSeparator (c :: rest)
  | comment {text rest : List Char} :
    '\n' ∉ text → IsSeparator rest → IsSeparator (';' :: (text ++ '\n' :: rest))

theorem isLayout_newline : isLayout '\n' = true := by decide

/-- A comment is skipped up to its line feed. -/
theorem skipLayoutFrom_comment {text : List Char} (h : '\n' ∉ text) (rest : List Char) :
    ∀ p : Position, skipLayoutFrom true p (text ++ '\n' :: rest) =
      skipLayoutFrom false (p.afterAll (text ++ ['\n'])) rest := by
  induction text with
  | nil => exact fun p => rfl
  | cons c text ih =>
    intro p
    obtain ⟨hc, htext⟩ := List.ne_and_not_mem_of_not_mem_cons h
    have hgoes : (c != '\n') = true := bne_iff_ne.2 (Ne.symm hc)
    rw [List.cons_append, skipLayoutFrom, if_pos rfl, hgoes, ih htext]
    rfl

/-- A separator is skipped. -/
theorem IsSeparator.skipLayout_eq {sep : List Char} (h : IsSeparator sep) (rest : List Char) :
    ∀ p : Position, skipLayout ⟨sep ++ rest, p⟩ = skipLayout ⟨rest, p.afterAll sep⟩ := by
  induction h with
  | nil => exact fun p => rfl
  | layout hc _ ih =>
    intro p
    rw [List.cons_append, skipLayout_of_isLayout hc, ih]
    rfl
  | @comment text rest' htext _ ih =>
    intro p
    have hopen (tail : List Char) :
        skipLayout ⟨';' :: tail, p⟩ = skipLayoutFrom true (p.after ';') tail := rfl
    have hall : p.afterAll (';' :: (text ++ '\n' :: rest')) =
        ((p.after ';').afterAll (text ++ ['\n'])).afterAll rest' := by
      rw [← afterAll_append, List.append_assoc]
      rfl
    rw [List.cons_append, List.append_assoc, List.cons_append, hopen, skipLayoutFrom_comment htext, hall]
    exact ih _

/-- A separator that is not empty ends a word. -/
theorem IsSeparator.ends {sep : List Char} (h : IsSeparator sep) (hne : sep ≠ []) (rest : List Char) :
    Ends (sep ++ rest) := by
  cases h with
  | nil => exact absurd rfl hne
  | layout hc _ => exact .cons (isDelimiter_of_isLayout hc) _
  | comment => exact .cons (by decide) _

/-- A comment may have one character more. -/
theorem IsSeparator.comment_cons {sep : List Char} (h : IsSeparator (';' :: sep)) {c : Char}
    (hc : c ≠ '\n') : IsSeparator (';' :: c :: sep) := by
  cases h with
  | layout hlayout _ => exact absurd hlayout (by decide)
  | @comment text rest htext hrest =>
    have htext' : '\n' ∉ c :: text := List.not_mem_cons_of_ne_of_not_mem (Ne.symm hc) htext
    exact .comment htext' hrest

/-- A text with the semicolon in front of it, if it begins inside a comment. -/
def withOpening (inComment : Bool) (text : List Char) : List Char :=
  if inComment then ';' :: text else text

/-- From `c` on, the text `sep` is skipped, and `c'` stands behind it: before a character that begins a token,
or at the end of the text, where a comment need not have its line feed. -/
structure Skips (inComment : Bool) (c : Cursor) (sep : List Char) (c' : Cursor) : Prop where
  moves : c.Moves sep c'
  finish : c'.rest = [] → IsSeparator (withOpening inComment (sep ++ ['\n']))
  token : ∀ first tail, c'.rest = first :: tail →
    IsSeparator (withOpening inComment sep) ∧ isLayout first = false ∧ first ≠ ';'

theorem skipLayoutFrom_skips (inComment : Bool) (p : Position) (rest : List Char) :
    ∃ sep, Skips inComment ⟨rest, p⟩ sep (skipLayoutFrom inComment p rest) := by
  fun_induction skipLayoutFrom inComment p rest
  case case1 inComment p =>
    refine ⟨[], .refl _, fun _ => ?_, by simp⟩
    cases inComment with
    | false => exact .layout isLayout_newline .nil
    | true => exact @IsSeparator.comment [] [] List.not_mem_nil .nil
  case case2 p c rest ih =>
    obtain ⟨sep, hmoves, hfinish, htoken⟩ := ih
    -- the comment goes on behind every character but the line feed
    have hcons {sep : List Char} (h : IsSeparator (withOpening (c != '\n') sep)) :
        IsSeparator (';' :: c :: sep) := by
      by_cases hc : c = '\n'
      · subst hc
        exact @IsSeparator.comment [] _ List.not_mem_nil h
      · rw [bne_iff_ne.2 hc] at h
        exact h.comment_cons hc
    exact ⟨c :: sep, .append [c] hmoves, fun h => hcons (hfinish h),
      fun first tail h => (htoken first tail h).imp_left hcons⟩
  case case3 inComment p c rest hopen hc ih =>
    obtain rfl : inComment = false := by simpa using hopen
    obtain ⟨sep, hmoves, hfinish, htoken⟩ := ih
    exact ⟨c :: sep, .append [c] hmoves, fun h => .layout hc (hfinish h),
      fun first tail h => (htoken first tail h).imp_left (.layout hc)⟩
  case case4 inComment p rest hopen _ ih =>
    obtain rfl : inComment = false := by simpa using hopen
    obtain ⟨sep, hmoves, hfinish, htoken⟩ := ih
    exact ⟨';' :: sep, .append [';'] hmoves, hfinish, htoken⟩
  case case5 inComment p c rest hopen hlayout hcomment =>
    obtain rfl : inComment = false := by simpa using hopen
    refine ⟨[], .refl _, by simp, fun first tail h => ?_⟩
    obtain ⟨rfl, rfl⟩ := List.cons.inj h
    exact ⟨.nil, by simpa using hlayout, hcomment⟩

theorem skipLayout_skips (c : Cursor) : ∃ sep, Skips false c sep (skipLayout c) :=
  skipLayoutFrom_skips false c.position c.rest

theorem skipLayout_moves (c : Cursor) : ∃ text, c.Moves text (skipLayout c) := by
  obtain ⟨sep, hskips⟩ := skipLayout_skips c
  exact ⟨sep, hskips.moves⟩

/-! ## Spellings are read -/

/-- The text spells the token. A token is spelled by its own text. A number is also spelled by every word that
begins like a number and can be read as it, and by the words for infinities and NaN; a string by everything
between quotes that stands for it. -/
inductive Spells : List Char → Token → Prop
  | text {t : Token} : t.WellSpelled → Spells t.text t
  | number {word : List Char} {n : Number} :
    (∀ c ∈ word, isDelimiter c = false) → startsNumber word = true → Number.read? word = some n →
      Spells word (.number n)
  | special {word : List Char} {x : Binary64} :
    Number.special? word = some x → Spells word (.number (.float x))
  | string {text s : List Char} :
    Quotes text s → Spells ('"' :: (text ++ ['"'])) (.string (String.ofList s))

theorem Spells.wellSpelled {text : List Char} {t : Token} (h : Spells text t) : t.WellSpelled := by
  cases h with
  | text ht => exact ht
  | number _ _ hn => exact Number.read?_regular hn
  | special hx => exact Number.special?_regular hx
  | string => trivial

theorem text_ne_nil {t : Token} (ht : t.WellSpelled) : t.text ≠ [] := by
  cases t with
  | symbol name => exact ht.1.1
  | number n => exact (isName_text_number n).1
  | qualified ns name => exact (ht.1.1.qualified ht.2.1).1
  | opening | closing | openFunction | keyword | string => exact List.cons_ne_nil _ _

theorem Spells.ne_nil {text : List Char} {t : Token} (h : Spells text t) : text ≠ [] := by
  cases h with
  | text ht => exact text_ne_nil ht
  | number _ hstart _ =>
    rintro rfl
    cases hstart
  | special hx =>
    rintro rfl
    cases hx
  | string => exact List.cons_ne_nil _ _

theorem isSymbolChar_of_startsNumber {c : Char} {rest : List Char}
    (h : startsNumber (c :: rest) = true) : isSymbolChar c = true := by
  by_cases hc : c.isDigit = true
  · exact isSymbolChar_of_isDigit hc
  · cases rest with
    | nil => exact absurd h hc
    | cons d rest =>
      simp only [startsNumber, hc, Bool.false_or, Bool.and_eq_true, Bool.or_eq_true, beq_iff_eq] at h
      rcases h.1 with rfl | rfl <;> decide

/-- The words for special numbers are names, or they begin with two hash signs. -/
theorem special?_cases {word : List Char} {x : Binary64} (h : Number.special? word = some x) :
    (IsName word ∧ startsNumber word = false) ∨
      (∃ tail, word = '#' :: '#' :: tail) ∧ ∀ c ∈ word, isDelimiter c = false := by
  have hname {w : List Char} (hw : (decide (IsName w) && !startsNumber w) = true) :
      IsName w ∧ startsNumber w = false := by simpa using hw
  have hhash {w : List Char} (hw : (w.all (!isDelimiter ·)) = true) : ∀ c ∈ w, isDelimiter c = false := by
    simpa using hw
  simp only [Number.special?] at h
  split_ifs at h with hinf hneg hnan
  · rcases hinf with rfl | rfl
    · exact .inl (hname (by decide))
    · exact .inr ⟨⟨_, rfl⟩, hhash (by decide)⟩
  · rcases hneg with rfl | rfl
    · exact .inl (hname (by decide))
    · exact .inr ⟨⟨_, rfl⟩, hhash (by decide)⟩
  · rcases hnan with rfl | rfl
    · exact .inl (hname (by decide))
    · exact .inr ⟨⟨_, rfl⟩, hhash (by decide)⟩

/-- A spelling is read as its token, before anything that does not go on with a word. -/
theorem Spells.nextToken_eq {text : List Char} {t : Token} (h : Spells text t) {rest : List Char}
    (hr : t.isWord = true → Ends rest) (p : Position) :
    nextToken ⟨text ++ rest, p⟩ = .ok (.token t p ⟨rest, p.afterAll text⟩) := by
  cases h with
  | text ht => exact nextToken_text ht hr p
  | string hs => exact hs.nextToken_eq rest p
  | @number _ n hw hstart hn =>
    cases text with
    | nil => cases hstart
    | cons first word =>
      have hword : ofWord (first :: word) = .ok (.number n) := by
        rw [ofWord, if_pos hstart, ofNumberWord, hn]
      exact nextToken_word (isSymbolChar_of_startsNumber hstart) hw (hr rfl) p hword
  | @special _ x hx =>
    rcases special?_cases hx with ⟨hname, hstart⟩ | ⟨⟨tail, rfl⟩, hdelimiter⟩
    · exact nextToken_name hname (hr rfl) p (ofWord_special hname.2 hstart hx)
    · have hjudge : ofHashWord ('#' :: '#' :: tail) = .ok (.number (.float x)) := by
        rw [ofHashWord, hx]
      exact nextToken_of_readToken (by decide) (by decide) (readWord_eq hdelimiter (hr rfl) hjudge)

/-! ## What is read is a spelling -/

/-- A word is read up to a delimiter or the end of the text. -/
theorem readWord_eq_ok {start : Position} {judge : List Char → Except ReadFault Token} {c : Cursor}
    {t : Token} {after : Cursor} (h : readWord start judge c = .ok (t, after)) :
    ∃ word, judge word = .ok t ∧ (∀ x ∈ word, isDelimiter x = false) ∧ c.Moves word after ∧
      Ends after.rest := by
  simp only [readWord] at h
  split at h
  · next hjudge =>
    cases h
    refine ⟨_, hjudge, fun x hx => ?_, span_moves _ c, fun x hx => ?_⟩
    · simpa using List.all_eq_true.1 List.all_takeWhile x hx
    · have hhead := List.head?_dropWhile_not (!isDelimiter ·) c.rest
      have hx' : (c.rest.dropWhile (!isDelimiter ·)).head? = some x := hx
      rw [hx'] at hhead
      simpa using hhead
  · cases h

/-- A word that begins with no delimiter has a character, and begins like a number if the text does. -/
theorem word_of_moves {first : Char} {rest word : List Char} {p : Position} {after : Cursor}
    (hfirst : isDelimiter first = false) (h : Moves ⟨first :: rest, p⟩ word after)
    (hends : Ends after.rest) :
    word ≠ [] ∧ startsNumber word = startsNumber (first :: rest) := by
  have hrest : first :: rest = word ++ after.rest := h.rest
  have hne : word ≠ [] := by
    rintro rfl
    rw [List.nil_append] at hrest
    rw [hends first (by rw [← hrest]; rfl)] at hfirst
    cases hfirst
  refine ⟨hne, ?_⟩
  rw [hrest]
  refine (startsNumber_append hne fun c hc => ?_).symm
  -- the word ends at a delimiter, which is no digit
  rw [Bool.eq_false_iff]
  intro hdigit
  have hdelimiter := not_isDelimiter_of_isSymbolChar (isSymbolChar_of_isDigit hdigit)
  rw [hends c hc] at hdelimiter
  cases hdelimiter

theorem ofBracket?_text {c : Char} {t : Token} (h : ofBracket? c = some t) :
    t.WellSpelled ∧ t.text = [c] ∧ t.isWord = false := by
  unfold ofBracket? at h
  split at h
  case h_7 => cases h
  all_goals
    cases h
    exact ⟨trivial, rfl, rfl⟩

theorem ofKeywordName_text {name : List Char} {t : Token} (h : ofKeywordName name = .ok t) :
    t.WellSpelled ∧ t.text = ':' :: name := by
  unfold ofKeywordName at h
  split_ifs at h with hne hslash
  split at h
  · cases h
  · next hfind =>
    cases h
    simp only [WellSpelled, text, String.toList_ofList, IsName]
    refine ⟨⟨⟨hne, fun c hc => ?_⟩, by simpa using hslash⟩, trivial⟩
    simpa using List.find?_eq_none.1 hfind c hc

/-- A word that does not begin like a number and is read as a symbol spells that symbol. -/
theorem ofSymbolWord_spells {word : List Char} {t : Token} (hne : word ≠ [])
    (hstart : startsNumber word = false) (h : ofSymbolWord word = .ok t) : Spells word t := by
  unfold ofSymbolWord at h
  split at h
  · cases h
  · next hfind =>
    have hw : ∀ c ∈ word, isSymbolChar c = true := by
      intro c hc
      simpa using List.find?_eq_none.1 hfind c hc
    split at h
    · next hspecial =>
      cases h
      exact .special hspecial
    · next hspecial =>
      split_ifs at h with hslash
      · cases h
        have ht : (Token.symbol (String.ofList word)).WellSpelled := by
          simp only [WellSpelled, String.toList_ofList]
          exact ⟨⟨hne, hw⟩, hslash.imp_left (congrArg String.ofList), hstart, hspecial⟩
        have hspells := Spells.text ht
        rwa [text, String.toList_ofList] at hspells
      · dsimp only at h
        split_ifs at h with hparts
        cases h
        obtain ⟨hns, hname, hname'⟩ : _ ∧ _ ∧ _ := by simpa only [not_or] using hparts
        have hsplit := List.takeWhile_append_dropWhile (p := (· != '/')) (l := word)
        -- the first character behind the namespace is the slash
        have hrest : ∃ name, word.dropWhile (· != '/') = '/' :: name := by
          cases hdrop : word.dropWhile (· != '/') with
          | nil => simp [hdrop] at hname
          | cons c name =>
            have hc := List.head_dropWhile_not (· != '/') (l := word) (by simp [hdrop])
            simp only [hdrop, List.head_cons, bne_eq_false_iff_eq] at hc
            exact ⟨name, by rw [hc]⟩
        obtain ⟨name, hrest⟩ := hrest
        rw [hrest] at hsplit hname hname'
        rw [hrest]
        simp only [List.drop_one, List.tail_cons] at hname hname' ⊢
        have hnsSlash : '/' ∉ word.takeWhile (· != '/') := by
          intro hmem
          simpa using List.all_eq_true.1 List.all_takeWhile _ hmem
        generalize word.takeWhile (· != '/') = ns at hsplit hns hnsSlash ⊢
        subst hsplit
        rw [List.forall_mem_append, List.forall_mem_cons] at hw
        rw [startsNumber_append hns (by simp)] at hstart
        have ht : (Token.qualified (String.ofList ns) (String.ofList name)).WellSpelled := by
          simp only [WellSpelled, String.toList_ofList]
          exact ⟨⟨⟨hns, hw.1⟩, hnsSlash, hstart⟩, ⟨hname, hw.2.2⟩, hname'⟩
        have hspells := Spells.text ht
        rwa [text, String.toList_ofList, String.toList_ofList] at hspells

theorem ofNumberWord_spells {word : List Char} {t : Token} (hw : ∀ c ∈ word, isDelimiter c = false)
    (hstart : startsNumber word = true) (h : ofNumberWord word = .ok t) : Spells word t := by
  unfold ofNumberWord at h
  split at h
  · next hn =>
    cases h
    exact .number hw hstart hn
  · cases h

theorem ofHashWord_spells {word : List Char} {t : Token} (h : ofHashWord word = .ok t) :
    Spells word t := by
  unfold ofHashWord at h
  split at h
  · next hx =>
    cases h
    exact .special hx
  · cases h

/-- What is read as a string stands for that string, and is followed by a quote. -/
theorem quotes_of_readString {start : Position} {done : List Char} {p : Position} {rest : List Char}
    {s : String} {after : Cursor} (h : readString start done p rest = .ok (s, after)) :
    ∃ text cs, Quotes text cs ∧ s = String.ofList (done.reverse ++ cs) ∧
      Moves ⟨rest, p⟩ (text ++ ['"']) after := by
  have hcons {done cs : List Char} (x : Char) :
      String.ofList ((x :: done).reverse ++ cs) = String.ofList (done.reverse ++ x :: cs) := by
    rw [List.reverse_cons, List.append_assoc, List.singleton_append]
  fun_induction readString start done p rest
  -- reading fails in these cases
  case case1 | case3 | case5 | case6 | case8 => cases h
  case case2 done p rest =>
    cases h
    exact ⟨[], [], .nil, by rw [List.append_nil], moves_append ['"'] rest p⟩
  case case4 a b c d _ x hx ih =>
    obtain ⟨text, cs, hquotes, rfl, hmoves⟩ := ih h
    exact ⟨_, x :: cs, .numeric hx hquotes, hcons x, .append ['\\', 'u', a, b, c, d] hmoves⟩
  case case7 e _ _ _ x hx ih =>
    obtain ⟨text, cs, hquotes, rfl, hmoves⟩ := ih h
    exact ⟨_, x :: cs, .short hx hquotes, hcons x, .append ['\\', e] hmoves⟩
  case case9 c rest hquote h₁ _ _ h₂ ih =>
    have hc : c ≠ '\\' := by
      rintro rfl
      cases rest with
      | nil => exact h₁ rfl rfl
      | cons e rest => exact h₂ e rest rfl rfl
    obtain ⟨text, cs, hquotes, rfl, hmoves⟩ := ih h
    exact ⟨_, c :: cs, .plain hquote hc hquotes, hcons c, .append [c] hmoves⟩

theorem readHash_spells {rest : List Char} {p : Position} {t : Token} {after : Cursor}
    (h : readHash ⟨'#' :: rest, p⟩ = .ok (t, after)) :
    ∃ text, Spells text t ∧ Moves ⟨'#' :: rest, p⟩ text after ∧ (t.isWord = true → Ends after.rest) := by
  unfold readHash at h
  split at h
  · next hrest =>
    cases h
    obtain rfl : rest = '(' :: _ := hrest
    exact ⟨['#', '('], Spells.text (t := .openFunction) trivial, skip_moves _ 2, by simp [isWord]⟩
  · obtain ⟨word, hjudge, -, hmoves, hends⟩ := readWord_eq_ok h
    exact ⟨word, ofHashWord_spells hjudge, hmoves, fun _ => hends⟩
  all_goals cases h

/-- What is read as a token is a spelling of it, and a word is read up to a delimiter. -/
theorem readToken_spells {first : Char} {rest : List Char} {p : Position} {t : Token} {after : Cursor}
    (h : readToken first ⟨first :: rest, p⟩ = .ok (t, after)) :
    ∃ text, Spells text t ∧ Moves ⟨first :: rest, p⟩ text after ∧
      (t.isWord = true → Ends after.rest) := by
  unfold readToken at h
  split at h
  case h_1 hbracket =>
    cases h
    obtain ⟨ht, htext, hword⟩ := ofBracket?_text hbracket
    have hspells := Spells.text ht
    rw [htext] at hspells
    exact ⟨[first], hspells, moves_append [first] rest p, by simp [hword]⟩
  case h_2 =>
    split_ifs at h with hquote hcolon hhash hnumber hsymbol
    · subst hquote
      split at h
      · next hread =>
        cases h
        obtain ⟨text, cs, hquotes, rfl, hmoves⟩ := quotes_of_readString hread
        exact ⟨_, .string hquotes, .append ['"'] hmoves, by simp [isWord]⟩
      · cases h
    · subst hcolon
      obtain ⟨name, hjudge, -, hmoves, hends⟩ := readWord_eq_ok h
      obtain ⟨ht, htext⟩ := ofKeywordName_text hjudge
      have hspells := Spells.text ht
      rw [htext] at hspells
      exact ⟨':' :: name, hspells, .append [':'] hmoves, fun _ => hends⟩
    · subst hhash
      exact readHash_spells h
    · obtain ⟨word, hjudge, hw, hmoves, hends⟩ := readWord_eq_ok h
      have hfirst := not_isDelimiter_of_isSymbolChar (isSymbolChar_of_startsNumber hnumber)
      have hstart := (word_of_moves hfirst hmoves hends).2.trans hnumber
      exact ⟨word, ofNumberWord_spells hw hstart hjudge, hmoves, fun _ => hends⟩
    · obtain ⟨word, hjudge, -, hmoves, hends⟩ := readWord_eq_ok h
      obtain ⟨hne, hstart⟩ := word_of_moves (not_isDelimiter_of_isSymbolChar hsymbol) hmoves hends
      rw [Bool.not_eq_true] at hnumber
      exact ⟨word, ofSymbolWord_spells hne (hstart.trans hnumber) hjudge, hmoves, fun _ => hends⟩

end Token

end ToolLisp
