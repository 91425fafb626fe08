import ToolLisp.Proofs.Grammar

/-!
# Texts read one after the other

If a text can be read, reading it and another text on the lines below gives the forms of both, or the error
of the second at a place that is so many lines further down (`readForms_append_newline`).

The reader looks at places only to report them, so moving a text down moves the places of its tokens and
errors and changes nothing else. This holds of each function of the reader, from `skipLayoutFrom` to `step`.
And a line feed ends every token and every comment, so what follows it does not change the tokens before it
(`nextToken_append`); after the last of them no bracket is open.
-/

namespace ToolLisp

/-! ## Places further down -/

/-- The place so many lines further down. -/
def Position.lower (n : Nat) (p : Position) : Position :=
  ⟨p.line + n, p.column⟩

/-- The same text so many lines further down. -/
def Cursor.lower (n : Nat) (c : Cursor) : Cursor :=
  ⟨c.rest, c.position.lower n⟩

/-- The same error so many lines further down. -/
def ReadError.lower (n : Nat) (e : ReadError) : ReadError :=
  ⟨e.fault, e.position.lower n⟩

/-- What reading gives so many lines further down, if `f` is what becomes of its result there. -/
def lowered {α β : Type} (n : Nat) (f : α → β) : Except ReadError α → Except ReadError β
  | .ok a => .ok (f a)
  | .error e => .error (e.lower n)

namespace Position

theorem after_lower (n : Nat) (p : Position) (c : Char) :
    (p.lower n).after c = (p.after c).lower n := by
  unfold after lower
  split
  · exact congrArg (Position.mk · 1) (Nat.add_right_comm _ _ _)
  · rfl

/-- Reading a text moves places down alike, wherever it starts. By induction on the text. -/
theorem afterAll_lower (n : Nat) (text : List Char) :
    ∀ p : Position, (p.lower n).afterAll text = (p.afterAll text).lower n := by
  induction text with
  | nil => exact fun p => rfl
  | cons c text ih =>
    intro p
    have h := ih (p.after c)
    rw [← after_lower] at h
    exact h

/-- A text takes a line for each line feed in it. -/
theorem line_afterAll (text : List Char) :
    ∀ p : Position, (p.afterAll text).line = p.line + text.count '\n' := by
  induction text with
  | nil => exact fun p => rfl
  | cons c text ih =>
    intro p
    have h := ih (p.after c)
    rw [List.count_cons]
    by_cases hc : c = '\n'
    · subst hc
      have hline : (p.after '\n').line = p.line + 1 := rfl
      rw [hline] at h
      exact h.trans (by rw [beq_self_eq_true, if_pos rfl]; omega)
    · have hline : (p.after c).line = p.line := by rw [after, if_neg hc]
      rw [hline] at h
      exact h.trans (by rw [beq_false_of_ne hc, if_neg Bool.false_ne_true]; omega)

/-- Behind a text and a line feed, a text begins on a line of its own. -/
theorem afterAll_newline (text : List Char) :
    (start.afterAll text).after '\n' = start.lower (1 + text.count '\n') := by
  have hline := line_afterAll text .start
  have h : (start.afterAll text).after '\n' = ⟨(start.afterAll text).line + 1, 1⟩ := rfl
  rw [h, hline]
  exact congrArg (Position.mk · 1) (by simp only [start]; omega)

end Position

/-! ## Tokens further down -/

namespace Token

theorem skipLayoutFrom_lower (n : Nat) (rest : List Char) :
    ∀ (inComment : Bool) (p : Position),
      skipLayoutFrom inComment (p.lower n) rest = (skipLayoutFrom inComment p rest).lower n := by
  induction rest with
  | nil => exact fun _ _ => rfl
  | cons c rest ih =>
    intro inComment p
    simp only [skipLayoutFrom, Position.after_lower, ih]
    split_ifs <;> rfl

theorem skipLayout_lower (n : Nat) (c : Cursor) : skipLayout (c.lower n) = (skipLayout c).lower n :=
  skipLayoutFrom_lower n c.rest false c.position

/-- The error of a string that does not end names the place where it starts. -/
theorem readString_lower (n : Nat) (start : Position) (done : List Char) (p : Position)
    (rest : List Char) :
    readString (start.lower n) done (p.lower n) rest =
      lowered n (fun r => (r.1, r.2.lower n)) (readString start done p rest) := by
  fun_induction readString start done p rest
  case case1 | case2 | case3 | case6 =>
    simp only [readString, lowered, ReadError.lower, Cursor.lower, Position.after_lower]
  case case4 h ih => simp only [readString, h, Position.afterAll_lower, ih]
  case case5 h => simp only [readString, h, lowered, ReadError.lower]
  case case7 h₁ h₂ h ih =>
    rw [readString, h]
    · simp only [Position.afterAll_lower, ih]
    all_goals assumption
  case case8 h₁ h₂ h =>
    rw [readString, h]
    · rfl
    all_goals assumption
  case case9 ih =>
    rw [readString, Position.after_lower, ih]
    all_goals assumption

theorem readWord_lower (n : Nat) (start : Position) (judge : List Char → Except ReadFault Token)
    (c : Cursor) :
    readWord (start.lower n) judge (c.lower n) =
      lowered n (fun r => (r.1, r.2.lower n)) (readWord start judge c) := by
  simp only [readWord, Cursor.span, Cursor.lower, Position.afterAll_lower]
  cases judge (c.rest.takeWhile (!isDelimiter ·)) <;> rfl

theorem skip_lower (n k : Nat) (c : Cursor) : (c.lower n).skip k = (c.skip k).lower n := by
  simp only [Cursor.skip, Cursor.lower, Position.afterAll_lower]

theorem readHash_lower (n : Nat) (c : Cursor) :
    readHash (c.lower n) = lowered n (fun r => (r.1, r.2.lower n)) (readHash c) := by
  have hrest : (c.lower n).rest = c.rest := rfl
  unfold readHash
  rw [hrest]
  split
  · rw [skip_lower]
    rfl
  · exact readWord_lower n _ _ c
  all_goals rfl

/-- One case per kind of token. -/
theorem readToken_lower (n : Nat) (first : Char) (c : Cursor) :
    readToken first (c.lower n) = lowered n (fun r => (r.1, r.2.lower n)) (readToken first c) := by
  have hrest : (c.lower n).rest = c.rest := rfl
  have hposition : (c.lower n).position = c.position.lower n := rfl
  unfold readToken
  cases ofBracket? first with
  | some t => exact congrArg (fun d => Except.ok (t, d)) (skip_lower n 1 c)
  | none =>
    simp only [hrest, hposition, Position.after_lower, readString_lower, skip_lower, readWord_lower,
      readHash_lower]
    split_ifs
    · cases readString c.position [] (c.position.after '"') (c.rest.drop 1) <;> rfl
    all_goals rfl

end Token

/-- The same tokens so many lines further down. -/
def NextToken.lower (n : Nat) : NextToken → NextToken
  | .finish p => .finish (p.lower n)
  | .token t p rest => .token t (p.lower n) (rest.lower n)

/-- The same tokens and the same end so many lines further down. -/
def Scan.lower (n : Nat) (s : Scan) : Scan :=
  ⟨s.tokens.map fun t => (t.1, t.2.lower n), lowered n (Position.lower n) s.finish⟩

theorem nextToken_lower (n : Nat) (c : Cursor) :
    nextToken (c.lower n) = lowered n (NextToken.lower n) (nextToken c) := by
  unfold nextToken
  rw [Token.skipLayout_lower]
  have hrest : ((Token.skipLayout c).lower n).rest = (Token.skipLayout c).rest := rfl
  simp only [hrest, Token.readToken_lower]
  cases (Token.skipLayout c).rest with
  | nil => rfl
  | cons first rest =>
    dsimp only
    cases Token.readToken first (Token.skipLayout c) <;> rfl

/-- By induction on the fuel. -/
theorem scanFrom_lower (n : Nat) (fuel : Nat) :
    ∀ (done : List (Token × Position)) (c : Cursor),
      scanFrom (done.map fun t => (t.1, t.2.lower n)) (c.lower n) fuel =
        (scanFrom done c fuel).lower n := by
  induction fuel with
  | zero =>
    intro done c
    simp only [scanFrom, Scan.lower, List.map_reverse, lowered]
    rfl
  | succ fuel ih =>
    intro done c
    simp only [scanFrom, nextToken_lower]
    rcases nextToken c with e | p | ⟨t, p, rest⟩
    · simp only [lowered, Scan.lower, List.map_reverse]
    · simp only [lowered, NextToken.lower, Scan.lower, List.map_reverse]
    · exact ih ((t, p) :: done) rest

/-! ## A text before a line feed -/

namespace Token

theorem isDelimiter_newline : isDelimiter '\n' = true := by decide

/-- A line feed ends a word. -/
theorem takeWhile_append_newline (word tail : List Char) :
    (word ++ '\n' :: tail).takeWhile (!isDelimiter ·) = word.takeWhile (!isDelimiter ·) ∧
      (word ++ '\n' :: tail).dropWhile (!isDelimiter ·) =
        word.dropWhile (!isDelimiter ·) ++ '\n' :: tail := by
  induction word with
  | nil => simp [isDelimiter_newline]
  | cons c word ih =>
    simp only [List.cons_append, List.takeWhile_cons, List.dropWhile_cons]
    split
    · exact ⟨congrArg (c :: ·) ih.1, ih.2⟩
    · exact ⟨rfl, rfl⟩

/-- Layout that ends before a token ends there whatever follows. -/
theorem skipLayoutFrom_append (tail : List Char) (rest : List Char) :
    ∀ (inComment : Bool) (p : Position), (skipLayoutFrom inComment p rest).rest ≠ [] →
      skipLayoutFrom inComment p (rest ++ tail) =
        ⟨(skipLayoutFrom inComment p rest).rest ++ tail, (skipLayoutFrom inComment p rest).position⟩ := by
  induction rest with
  | nil => exact fun _ _ h => absurd rfl h
  | cons c rest ih =>
    intro inComment p h
    simp only [List.cons_append, skipLayoutFrom] at h ⊢
    split_ifs at h ⊢
    · exact ih _ _ h
    · exact ih _ _ h
    · exact ih _ _ h
    · rfl

/-- Layout up to the end of a text goes on behind the line feed that follows, also if it is a comment. -/
theorem skipLayoutFrom_newline (tail : List Char) (rest : List Char) :
    ∀ (inComment : Bool) (p : Position), (skipLayoutFrom inComment p rest).rest = [] →
      skipLayoutFrom inComment p (rest ++ '\n' :: tail) =
        skipLayoutFrom false ((p.afterAll rest).after '\n') tail := by
  induction rest with
  | nil =>
    intro inComment p _
    have hlayout : isLayout '\n' = true := by decide
    cases inComment <;> simp [skipLayoutFrom, hlayout, Position.afterAll]
  | cons c rest ih =>
    intro inComment p h
    simp only [List.cons_append, skipLayoutFrom] at h ⊢
    split_ifs at h ⊢
    · exact ih _ _ h
    · exact ih _ _ h
    · exact ih _ _ h

/-- A string that ends before a text ends in the same way if the text goes on. -/
theorem readString_append {start : Position} {done : List Char} {p : Position} {rest : List Char}
    {s : String} {after : Cursor} (tail : List Char)
    (h : readString start done p rest = .ok (s, after)) :
    readString start done p (rest ++ tail) = .ok (s, ⟨after.rest ++ tail, after.position⟩) := by
  fun_induction readString start done p rest
  case case1 | case3 | case5 | case6 | case8 => cases h
  case case2 =>
    cases h
    rfl
  case case4 hx ih => simp only [List.cons_append, readString, hx, ih h]
  case case7 e rest h₁ h₂ x hx ih =>
    have hu : e ≠ 'u' := by
      rintro rfl
      simp [shortEscape?] at hx
    simp only [List.cons_append]
    rw [readString, hx]
    · exact ih h
    · exact fun _ _ _ _ _ he _ => hu he
    · exact hu
  case case9 c rest h₁ h₂ h₃ h₄ h₅ ih =>
    have hc : c ≠ '\\' := by
      rintro rfl
      cases rest with
      | nil => exact h₂ rfl rfl
      | cons e rest => exact h₅ e rest rfl rfl
    simp only [List.cons_append]
    rw [readString]
    · exact ih h
    all_goals intros; simp_all

theorem readWord_append {start : Position} {judge : List Char → Except ReadFault Token} {c : Cursor}
    {t : Token} {after : Cursor} (tail : List Char) (h : readWord start judge c = .ok (t, after)) :
    readWord start judge ⟨c.rest ++ '\n' :: tail, c.position⟩ =
      .ok (t, ⟨after.rest ++ '\n' :: tail, after.position⟩) := by
  obtain ⟨hword, hrest⟩ := takeWhile_append_newline c.rest tail
  simp only [readWord, Cursor.span, hword, hrest] at h ⊢
  split at h
  · cases h
    rfl
  · cases h

theorem readHash_append {c : Cursor} {t : Token} {after : Cursor} (tail : List Char)
    (h : readHash c = .ok (t, after)) :
    readHash ⟨c.rest ++ '\n' :: tail, c.position⟩ =
      .ok (t, ⟨after.rest ++ '\n' :: tail, after.position⟩) := by
  rcases c with ⟨_ | ⟨first, _ | ⟨second, rest⟩⟩, p⟩
  · cases h
  · cases h
  · unfold readHash at h ⊢
    simp only [List.cons_append, List.drop_one, List.tail_cons] at h ⊢
    split at h
    · next heq =>
      obtain ⟨rfl, rfl⟩ := List.cons.inj heq
      cases h
      rfl
    · next heq =>
      obtain ⟨rfl, rfl⟩ := List.cons.inj heq
      exact readWord_append tail h
    all_goals cases h

/-- What follows a line feed does not change the token before it. -/
theorem readToken_append {first : Char} {rest : List Char} {p : Position} {t : Token}
    {after : Cursor} (tail : List Char) (h : readToken first ⟨first :: rest, p⟩ = .ok (t, after)) :
    readToken first ⟨first :: rest ++ '\n' :: tail, p⟩ =
      .ok (t, ⟨after.rest ++ '\n' :: tail, after.position⟩) := by
  have hnumber : startsNumber (first :: rest ++ '\n' :: tail) = startsNumber (first :: rest) :=
    startsNumber_append (by simp) (by simp)
  have hdrop : (first :: rest ++ '\n' :: tail).drop 1 = rest ++ '\n' :: tail := rfl
  unfold readToken at h ⊢
  split at h
  case h_1 hb =>
    cases h
    rfl
  case h_2 =>
    simp only [hnumber, hdrop, List.drop_one, List.tail_cons] at h ⊢
    split_ifs at h ⊢ with hquote hcolon hhash hstart hsymbol
    · split at h
      · next hs =>
        cases h
        simp only [readString_append _ hs]
      · cases h
    · exact readWord_append tail h
    · exact readHash_append tail h
    · exact readWord_append tail h
    · exact readWord_append tail h

end Token

open Token

/-- The next token begins where the layout ends. -/
theorem nextToken_eq_token_iff {c c' : Cursor} {t : Token} {p : Position} :
    nextToken c = .ok (.token t p c') ↔
      ∃ first rest, skipLayout c = ⟨first :: rest, p⟩ ∧
        readToken first ⟨first :: rest, p⟩ = .ok (t, c') := by
  simp only [nextToken]
  rcases skipLayout c with ⟨_ | ⟨first, rest⟩, q⟩
  · exact iff_of_false (by simp) (by simp)
  · dsimp only
    constructor
    · intro h
      split at h
      · next hread =>
        cases h
        exact ⟨first, rest, rfl, hread⟩
      · cases h
    · rintro ⟨_, _, hc, hread⟩
      cases hc
      rw [hread]

/-- A token before a line feed is read as such, whatever follows the line feed. -/
theorem nextToken_append {c c' : Cursor} {t : Token} {p : Position} (tail : List Char)
    (h : nextToken c = .ok (.token t p c')) :
    nextToken ⟨c.rest ++ '\n' :: tail, c.position⟩ =
      .ok (.token t p ⟨c'.rest ++ '\n' :: tail, c'.position⟩) := by
  obtain ⟨first, rest, hc, hread⟩ := nextToken_eq_token_iff.1 h
  have hskip : skipLayout ⟨c.rest ++ '\n' :: tail, c.position⟩ =
      ⟨(skipLayout c).rest ++ '\n' :: tail, (skipLayout c).position⟩ :=
    skipLayoutFrom_append _ c.rest false c.position (by
      intro hnil
      have hrest := congrArg Cursor.rest hc
      rw [skipLayout, hnil] at hrest
      cases hrest)
  rw [hc] at hskip
  exact nextToken_eq_token_iff.2 ⟨first, _, hskip, readToken_append tail hread⟩

/-- Tokens up to the end of a text are read as such before a line feed, and then the cursor may stand
behind the line feed. -/
theorem Tokenizes.reads_newline {c : Cursor} {ts : List Token} (h : Tokenizes c ts)
    (tail : List Char) :
    ∃ ps c' p, (Reads c ps c' ∧ nextToken c' = .ok (.finish p)) ∧
      Reads ⟨c.rest ++ '\n' :: tail, c.position⟩ ps
        ⟨tail, (c.position.afterAll c.rest).after '\n'⟩ := by
  induction h with
  | @finish c p hc =>
    refine ⟨[], c, p, ⟨.refl c, hc⟩, .layout ?_ (.refl _)⟩
    refine skipLayoutFrom_newline tail c.rest false c.position ?_
    simp only [nextToken] at hc
    split at hc
    · next hrest => exact hrest
    · split at hc <;> cases hc
  | @token c c' t p ts ht _ ih =>
    obtain ⟨ps, c'', q, ⟨hreads, hfinish⟩, hnewline⟩ := ih
    obtain ⟨-, text, -, hmoves⟩ := nextToken_moves ht
    obtain ⟨layout, hlayout⟩ := skipLayout_moves c
    have hmoves := hlayout.trans hmoves
    refine ⟨(t, p) :: ps, c'', q, ⟨.token ht hreads, hfinish⟩, .token (nextToken_append tail ht) ?_⟩
    rw [hmoves.rest, afterAll_append, ← hmoves.position]
    exact hnewline

/-! ## Scans -/

/-- What was read before is only put in front. -/
theorem scanFrom_done (fuel : Nat) :
    ∀ (done : List (Token × Position)) (c : Cursor),
      scanFrom done c fuel =
        ⟨done.reverse ++ (scanFrom [] c fuel).tokens, (scanFrom [] c fuel).finish⟩ := by
  induction fuel with
  | zero =>
    intro done c
    simp only [scanFrom, List.reverse_nil, List.append_nil]
  | succ fuel ih =>
    intro done c
    simp only [scanFrom]
    rcases nextToken c with e | p | ⟨t, p, rest⟩
    · simp
    · simp
    · simp only
      rw [ih ((t, p) :: done), ih [(t, p)]]
      simp

/-- A scan that may take more turns than there are characters takes no more if it may. -/
theorem scanFrom_fuel :
    ∀ {fuel fuel' : Nat} {c : Cursor} (done : List (Token × Position)), c.rest.length < fuel →
      c.rest.length < fuel' → scanFrom done c fuel = scanFrom done c fuel'
  | fuel + 1, fuel' + 1, c, done, h, h' => by
    simp only [scanFrom]
    rcases hnext : nextToken c with e | p | ⟨t, p, rest⟩
    · rfl
    · rfl
    · obtain ⟨-, text, hne, hmoves⟩ := nextToken_moves hnext
      obtain ⟨layout, hlayout⟩ := skipLayout_moves c
      have hpos := List.length_pos_of_ne_nil hne
      have h₁ := hmoves.length
      have h₂ := hlayout.length
      exact scanFrom_fuel _ (by omega) (by omega)

/-- A text has no more tokens than characters. -/
theorem Reads.length_le_length {text : List Char} {c : Cursor} {ts : List (Token × Position)}
    (h : Reads (.ofText text) ts c) : ts.length ≤ text.length := by
  obtain ⟨layout, hlayout⟩ := skipLayout_moves (.ofText text)
  have h₁ := h.length_le
  have h₂ : text.length = _ := hlayout.length
  omega

/-- A scan passes what has been read and goes on. -/
theorem Reads.scanFrom_append {c c' : Cursor} {ts : List (Token × Position)} (h : Reads c ts c') :
    ∀ (done : List (Token × Position)) (fuel : Nat),
      scanFrom done c (ts.length + (fuel + 1)) = scanFrom (ts.reverse ++ done) c' (fuel + 1) := by
  induction h with
  | refl c =>
    intro done fuel
    rw [List.length_nil, Nat.zero_add]
    rfl
  | @layout c c' c'' ts hskip _ ih =>
    intro done fuel
    rw [← ih done fuel, ← Nat.add_assoc]
    simp only [scanFrom, nextToken_of_skipLayout hskip]
  | @token c c' c'' t p ts ht _ ih =>
    intro done fuel
    have hlength : ((t, p) :: ts).length + (fuel + 1) = ts.length + (fuel + 1) + 1 := by
      rw [List.length_cons]
      omega
    rw [hlength, scanFrom]
    simp only [ht]
    rw [ih, List.reverse_cons, List.append_assoc]
    rfl

/-- The tokens of a text that can be scanned, and those of another text on the lines below. -/
theorem scan_append_newline {text : List Char} {ts : List (Token × Position)} {p : Position}
    (h : scan text = ⟨ts, .ok p⟩) (tail : List Char) :
    scan (text ++ '\n' :: tail) =
      ⟨ts ++ ((scan tail).lower (1 + text.count '\n')).tokens,
        ((scan tail).lower (1 + text.count '\n')).finish⟩ := by
  have htokens : Tokenizes (.ofText text) (ts.map Prod.fst) := tokenizes_iff.2 ⟨ts, p, h, rfl⟩
  obtain ⟨ps, c, q, ⟨hreads, hfinish⟩, hnewline⟩ := htokens.reads_newline tail
  obtain rfl : ts = ps := congrArg Scan.tokens (h.symm.trans (hreads.scan_eq hfinish))
  have hlength := hreads.length_le_length
  -- the first text has no more tokens than characters, so there is fuel left for the second one
  obtain ⟨fuel, hfuel⟩ : ∃ fuel, (text ++ '\n' :: tail).length + 1 = ts.length + (fuel + 1) := by
    refine ⟨text.length + 1 + tail.length - ts.length, ?_⟩
    rw [List.length_append, List.length_cons]
    omega
  have hstart : Cursor.mk tail ((Position.start.afterAll text).after '\n') =
      (Cursor.ofText tail).lower (1 + text.count '\n') :=
    congrArg (Cursor.mk tail) (Position.afterAll_newline text)
  have hscan : scan (text ++ '\n' :: tail) =
      scanFrom ts.reverse ((Cursor.ofText tail).lower (1 + text.count '\n')) (fuel + 1) := by
    have hpass := hnewline.scanFrom_append [] fuel
    rw [← hfuel, List.append_nil] at hpass
    rw [← hstart]
    exact hpass
  have hrest : scanFrom [] ((Cursor.ofText tail).lower (1 + text.count '\n')) (fuel + 1) =
      (scan tail).lower (1 + text.count '\n') := by
    rw [scan, ← scanFrom_lower]
    refine scanFrom_fuel [] ?_ (Nat.lt_succ_self _)
    rw [List.length_append, List.length_cons] at hfuel
    have : ((Cursor.ofText tail).lower (1 + text.count '\n')).rest.length = tail.length := rfl
    omega
  rw [hscan, scanFrom_done, hrest, List.reverse_reverse]

/-! ## The reader further down -/

namespace Reader

/-- The reader so many lines further down, behind forms that have been read before, the last one first. -/
def moved (n : Nat) (before : List Form) (r : Reader) : Reader :=
  ⟨r.frames.map fun f => { f with position := f.position.lower n }, r.forms ++ before⟩

variable (n : Nat) (before : List Form)

theorem push_moved (r : Reader) (f : Form) :
    (r.moved n before).push f = (r.push f).moved n before := by
  rcases r with ⟨_ | ⟨frame, outer⟩, forms⟩ <;> rfl

theorem openWith_moved (r : Reader) (o : Opener) (p : Position) :
    (r.moved n before).openWith o (p.lower n) = lowered n (moved n before) (r.openWith o p) := by
  have hany : (r.moved n before).frames.any (·.opener == .function) =
      r.frames.any (·.opener == .function) := by
    simp only [moved, List.any_map]
    rfl
  have hlength : (r.moved n before).frames.length = r.frames.length := List.length_map ..
  unfold openWith
  rw [hany, hlength]
  split_ifs <;> rfl

theorem closeFrame_lower (frame : Frame) :
    closeFrame { frame with position := frame.position.lower n } =
      lowered n id (closeFrame frame) := by
  rcases frame with ⟨(_ | _ | _) | _, p, items⟩
  case bracket.curly =>
    simp only [closeFrame]
    split_ifs <;> rfl
  all_goals rfl

theorem closeWith_moved (r : Reader) (b : Bracket) (p : Position) :
    (r.moved n before).closeWith b (p.lower n) = lowered n (moved n before) (r.closeWith b p) := by
  rcases r with ⟨_ | ⟨frame, outer⟩, forms⟩
  · rfl
  · simp only [closeWith, moved, List.map_cons, closeFrame_lower]
    split_ifs
    · cases closeFrame frame with
      | ok f => exact congrArg Except.ok (push_moved n before ⟨outer, forms⟩ f)
      | error e => rfl
    · rfl

/-- One case per kind of token; the places in errors are lower. -/
theorem step_moved (r : Reader) (t : Token × Position) :
    (r.moved n before).step (t.1, t.2.lower n) = lowered n (moved n before) (r.step t) := by
  rcases t with ⟨t, p⟩
  cases t with
  | opening b => exact openWith_moved n before r _ p
  | openFunction => exact openWith_moved n before r _ p
  | closing b => exact closeWith_moved n before r b p
  | symbol | qualified | keyword | number | string =>
    exact congrArg Except.ok (push_moved n before r _)

/-- By induction on the tokens. -/
theorem run_moved (ts : List (Token × Position)) :
    ∀ r : Reader, (ts.map fun t => (t.1, t.2.lower n)).foldlM step (r.moved n before) =
      lowered n (moved n before) (ts.foldlM step r) := by
  induction ts with
  | nil => exact fun r => rfl
  | cons t ts ih =>
    intro r
    rw [List.map_cons, List.foldlM_cons, List.foldlM_cons, step_moved]
    cases r.step t with
    | ok next => exact ih next
    | error e => rfl

theorem finish_moved (r : Reader) :
    (r.moved n before).finish = lowered n (before.reverse ++ ·) r.finish := by
  rcases r with ⟨_ | ⟨frame, outer⟩, forms⟩
  · exact congrArg Except.ok List.reverse_append
  · rfl

end Reader

/-- Reading tokens further down, where forms have been read before. -/
theorem readScan_moved (n : Nat) (forms : List Form) (ts : List (Token × Position)) (s : Scan)
    (h : ts.foldlM Reader.step .empty = .ok ⟨[], forms.reverse⟩) :
    readScan ⟨ts ++ (s.lower n).tokens, (s.lower n).finish⟩ =
      lowered n (forms ++ ·) (readScan s) := by
  have hrun : (ts ++ (s.lower n).tokens).foldlM Reader.step .empty =
      lowered n (Reader.moved n forms.reverse) (s.tokens.foldlM Reader.step .empty) := by
    rw [List.foldlM_append, h]
    exact Reader.run_moved n forms.reverse s.tokens .empty
  unfold readScan
  simp only [hrun]
  cases s.tokens.foldlM Reader.step .empty with
  | error e => rfl
  | ok r =>
    simp only [lowered, Scan.lower]
    cases s.finish with
    | error e => rfl
    | ok p =>
      simp only [lowered, Reader.finish_moved, List.reverse_reverse]

theorem readForms_newline {s₁ : String} {forms : List Form} (h : readForms s₁ = .ok forms)
    (s₂ : String) :
    readForms (s₁ ++ "\n" ++ s₂) =
      lowered (1 + s₁.toList.count '\n') (forms ++ ·) (readForms s₂) := by
  obtain ⟨ts, p, hscan, hrun⟩ := readForms_eq_ok.1 h
  have htext : (s₁ ++ "\n" ++ s₂).toList = s₁.toList ++ '\n' :: s₂.toList := by simp
  rw [readForms, htext, scan_append_newline hscan, readScan_moved _ _ _ _ hrun]
  rfl

/-- Reading is compositional. If a text can be read, then reading it, a line feed and another text gives
the forms of the first text and then those of the second. If the second text has an error, this is the
error of both, in the same column and as many lines further down as the first text and the line feed
take. -/
theorem readForms_append_newline (s₁ s₂ : String) (forms : List Form)
    (h : readForms s₁ = .ok forms) :
    (∀ forms', readForms s₂ = .ok forms' → readForms (s₁ ++ "\n" ++ s₂) = .ok (forms ++ forms')) ∧
    ∀ e : ReadError, readForms s₂ = .error e →
      readForms (s₁ ++ "\n" ++ s₂) =
        .error ⟨e.fault, ⟨e.position.line + 1 + s₁.toList.count '\n', e.position.column⟩⟩ := by
  refine ⟨fun forms' h' => ?_, fun e h' => ?_⟩
  · rw [readForms_newline h, h']
    rfl
  · rw [readForms_newline h, h', Nat.add_assoc]
    rfl

/-- The first text ends in a comment, and the second has a bracket that is not closed. -/
theorem readForms_append_newline_unclosed :
    readForms "(f -\n1) ; ]" = .ok [.list [.symbol "f", .symbol "-", .number (.int 1)]] ∧
      readForms "x\n #(y" = .error ⟨.missingClose .round, ⟨2, 2⟩⟩ ∧
      readForms ("(f -\n1) ; ]" ++ "\n" ++ "x\n #(y") = .error ⟨.missingClose .round, ⟨4, 2⟩⟩ := by
  have h₁ : readForms "(f -\n1) ; ]" = .ok [.list [.symbol "f", .symbol "-", .number (.int 1)]] := rfl
  have h₂ : readForms "x\n #(y" = .error ⟨.missingClose .round, ⟨2, 2⟩⟩ := rfl
  exact ⟨h₁, h₂, (readForms_append_newline _ _ _ h₁).2 _ h₂⟩

end ToolLisp
