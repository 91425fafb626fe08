import ToolLisp.Proofs.SuccessiveTexts

/-!
# Where tokens and errors stand

The characters of a text are counted by their offsets. A `PlacedToken` stands between two offsets of a text: the
characters between them spell it, and it is not a word that goes on. Wherever the reader of tokens stands, it comes to
a token behind a separator, to the end of the text behind a separator, or to an error in the text behind a separator
from which no token begins (`nextToken_atOffset`). In each case the place that it reports is that of an offset, by one
rule for all (`Position.atOffset`), although it counts lines and columns as it goes.

A token takes at least one character. So a run of calls meets tokens one behind the other, and after at most as many
of them as the text has characters it comes to the end or to an error (`tokens_and_errors_stand_in_order`).
-/

namespace ToolLisp

open Cursor Token

/-! ## Offsets -/

namespace Position

/-- The place of an offset of a text: the line is one more than the line feeds before it, and the column is one more
than the characters since the last of them. -/
def atOffset (text : List Char) (k : ℕ) : Position :=
  ⟨1 + (text.take k).count '\n', 1 + ((text.take k).reverse.takeWhile (· != '\n')).length⟩

theorem column_afterAll (text : List Char) :
    (start.afterAll text).column = 1 + (text.reverse.takeWhile (· != '\n')).length := by
  induction text using List.reverseRecOn with
  | nil => rfl
  | append_singleton text c ih =>
    rw [afterAll_append, List.reverse_append]
    by_cases hc : c = '\n'
    · subst hc
      rfl
    · have hcolumn : ((start.afterAll text).afterAll [c]).column = (start.afterAll text).column + 1 := by
        change ((start.afterAll text).after c).column = _
        rw [after, if_neg hc]
      have hgoes : (c != '\n') = true := bne_iff_ne.2 hc
      rw [hcolumn, ih, List.reverse_singleton, List.singleton_append,
        List.takeWhile_cons_of_pos (p := (· != '\n')) hgoes, List.length_cons, Nat.add_assoc]

/-- Counting lines and columns character by character gives the place of an offset. -/
theorem afterAll_take (text : List Char) (k : ℕ) : start.afterAll (text.take k) = atOffset text k := by
  have hline := line_afterAll (text.take k) start
  have hcolumn := column_afterAll (text.take k)
  rw [atOffset, ← hcolumn]
  exact congrArg (Position.mk · _) hline

end Position

namespace Cursor

/-- The cursor at an offset of a text. -/
def atOffset (text : List Char) (k : ℕ) : Cursor :=
  ⟨text.drop k, .atOffset text k⟩

@[simp] theorem atOffset_rest (text : List Char) (k : ℕ) : (atOffset text k).rest = text.drop k := rfl

@[simp] theorem atOffset_position (text : List Char) (k : ℕ) :
    (atOffset text k).position = .atOffset text k := rfl

theorem atOffset_zero (text : List Char) : atOffset text 0 = ofText text := rfl

/-- Moving over characters adds their number to the offset. -/
theorem Moves.eq_atOffset {text w : List Char} {k : ℕ} {c : Cursor} (h : (atOffset text k).Moves w c)
    (hk : k ≤ text.length) :
    c = atOffset text (k + w.length) ∧ k + w.length ≤ text.length ∧ text.extract k (k + w.length) = w := by
  have hrest : text.drop k = w ++ c.rest := h.rest
  have htake : text.take (k + w.length) = text.take k ++ w := by
    rw [List.take_add, hrest, List.take_left]
  have hdrop : text.drop (k + w.length) = c.rest := by
    rw [← List.drop_drop, hrest, List.drop_left]
  have hposition : c.position = .atOffset text (k + w.length) := by
    rw [← Position.afterAll_take, htake, afterAll_append, Position.afterAll_take]
    exact h.position
  have hlength : text.length - k = w.length + c.rest.length := by
    rw [← List.length_drop, hrest, List.length_append]
  refine ⟨?_, by omega, ?_⟩
  · rw [atOffset, hdrop, ← hposition]
  · rw [List.extract_eq_take_drop, hrest, Nat.add_sub_cancel_left, List.take_left]

end Cursor

/-! ## Tokens in a text -/

/-- A token where it stands in a text. -/
structure PlacedToken (text : List Char) where
  /-- The token. -/
  token : Token
  /-- The offset of its first character. -/
  start : ℕ
  /-- The offset behind its last character. -/
  stop : ℕ
  /-- It has at least one character. -/
  start_lt_stop : start < stop
  /-- It stands in the text. -/
  stop_le : stop ≤ text.length
  /-- Its characters spell it. -/
  spells : Spells (text.extract start stop) token
  /-- It does not go on, if it is a word. -/
  ends : token.isWord = true → Ends (text.drop stop)

/-- From the offset `k` to the offset `j` there is nothing but white space, commas and comments. -/
structure Gap (text : List Char) (k j : ℕ) : Prop where
  le : k ≤ j
  isSeparator : IsSeparator (text.extract k j)

/-- What reading the next token from the offset `k` on can come to. At the end of the text, a comment need not have
its line feed. An error stands at a character, which is not before the one where a token should begin. -/
inductive CallResult (text : List Char) (k : ℕ) : Except ReadError NextToken → Prop
  | token (t : PlacedToken text) : Gap text k t.start →
    CallResult text k (.ok (.token t.token (.atOffset text t.start) (.atOffset text t.stop)))
  | finish : IsSeparator (text.drop k ++ ['\n']) →
    CallResult text k (.ok (.finish (.atOffset text text.length)))
  | error (fault : ReadFault) {start i : ℕ} {first : Char} {tail : List Char} : Gap text k start →
    text.drop start = first :: tail → isLayout first = false → first ≠ ';' →
    (∀ t : PlacedToken text, t.start ≠ start) → start ≤ i → i < text.length →
    CallResult text k (.error ⟨fault, .atOffset text i⟩)

theorem PlacedToken.exists_nextToken_eq {text : List Char} (t : PlacedToken text) :
    ∃ c, nextToken (.atOffset text t.start) = .ok (.token t.token (.atOffset text t.start) c) := by
  have hdrop : text.drop t.start = text.extract t.start t.stop ++ text.drop t.stop := by
    have hsplit := (List.take_append_drop (t.stop - t.start) (text.drop t.start)).symm
    rwa [List.drop_drop, Nat.add_sub_cancel' t.start_lt_stop.le, ← List.extract_eq_take_drop] at hsplit
  rw [Cursor.atOffset, hdrop]
  exact ⟨_, t.spells.nextToken_eq t.ends _⟩

/-! ## Errors -/

/-- The error is reported at a character from `c` on. -/
def ReadError.StandsFrom (e : ReadError) (c : Cursor) : Prop :=
  ∃ w c', c.Moves w c' ∧ c'.rest ≠ [] ∧ e.position = c'.position

theorem ReadError.StandsFrom.here {e : ReadError} {first : Char} {rest : List Char} {p : Position}
    (h : e.position = p) : e.StandsFrom ⟨first :: rest, p⟩ :=
  ⟨[], _, .refl _, List.cons_ne_nil _ _, h⟩

theorem ReadError.StandsFrom.append {e : ReadError} (text : List Char) {rest : List Char} {p : Position}
    (h : e.StandsFrom ⟨rest, p.afterAll text⟩) : e.StandsFrom ⟨text ++ rest, p⟩ := by
  obtain ⟨w, c, hmoves, hc⟩ := h
  exact ⟨text ++ w, c, .append text hmoves, hc⟩

namespace Token

/-- An error in a string is reported where the string begins, or at a character behind its opening quote. -/
theorem readString_error {start : Position} {done : List Char} {p : Position} {rest : List Char}
    {e : ReadError} (h : readString start done p rest = .error e) :
    e.position = start ∨ e.StandsFrom ⟨rest, p⟩ := by
  fun_induction readString start done p rest
  case case1 =>
    cases h
    exact .inl rfl
  case case2 => cases h
  case case3 | case5 | case6 | case8 =>
    cases h
    exact .inr (.here rfl)
  case case4 a b c d _ _ _ ih => exact (ih h).imp_right (.append ['\\', 'u', a, b, c, d])
  case case7 e' _ _ _ _ _ ih => exact (ih h).imp_right (.append ['\\', e'])
  case case9 c _ _ _ _ _ _ ih => exact (ih h).imp_right (.append [c])

theorem readWord_error {start : Position} {judge : List Char → Except ReadFault Token} {c : Cursor}
    {e : ReadError} (h : readWord start judge c = .error e) : e.position = start := by
  simp only [readWord] at h
  split at h
  · cases h
  · cases h
    rfl

theorem readHash_error {c : Cursor} {e : ReadError} (h : readHash c = .error e) :
    e.position = c.position := by
  unfold readHash at h
  split at h
  · cases h
  · exact readWord_error h
  all_goals
    cases h
    rfl

/-- An error is reported at a character from the beginning of the token on. -/
theorem readToken_error {first : Char} {rest : List Char} {p : Position} {e : ReadError}
    (h : readToken first ⟨first :: rest, p⟩ = .error e) : e.StandsFrom ⟨first :: rest, p⟩ := by
  unfold readToken at h
  split at h
  · cases h
  · split_ifs at h with hquote hcolon hhash hnumber hsymbol
    · subst hquote
      split at h
      · cases h
      · next hread =>
        cases h
        -- only a string can fail behind its first character
        rcases readString_error hread with hstart | hinside
        · exact .here hstart
        · exact .append ['"'] hinside
    · exact .here (readWord_error h)
    · exact .here (readHash_error h)
    · exact .here (readWord_error h)
    · exact .here (readWord_error h)
    · cases h
      exact .here rfl

end Token

/-! ## One call -/

theorem nextToken_eq_error {c : Cursor} {first : Char} {rest : List Char} {p : Position} {e : ReadError}
    (hc : skipLayout c = ⟨first :: rest, p⟩) (h : readToken first ⟨first :: rest, p⟩ = .error e) :
    nextToken c = .error e := by
  simp only [nextToken, hc, h]

/-- What is behind the layout begins a token or is an error. -/
theorem callResult_of_drop {text : List Char} {k start : ℕ} {first : Char} {tail : List Char}
    (hgap : Gap text k start) (hstart : start ≤ text.length) (hdrop : text.drop start = first :: tail)
    (hlayout : isLayout first = false) (hcomment : first ≠ ';')
    (hskip : skipLayout (.atOffset text k) = .atOffset text start) :
    CallResult text k (nextToken (.atOffset text k)) := by
  have hcursor : Cursor.atOffset text start = ⟨first :: tail, .atOffset text start⟩ := by
    rw [Cursor.atOffset, hdrop]
  cases hread : readToken first ⟨first :: tail, .atOffset text start⟩ with
  | ok r =>
    obtain ⟨t, after⟩ := r
    rw [nextToken_eq_token_iff.2 ⟨first, tail, hskip.trans hcursor, hread⟩]
    obtain ⟨w, hspells, hmoves, hends⟩ := readToken_spells hread
    rw [← hcursor] at hmoves
    obtain ⟨rfl, hstop, hw⟩ := hmoves.eq_atOffset hstart
    have hpos := List.length_pos_of_ne_nil hspells.ne_nil
    rw [← hw] at hspells
    exact .token ⟨t, start, start + w.length, by omega, hstop, hspells, hends⟩ hgap
  | error e =>
    have herror := nextToken_eq_error (hskip.trans hcursor) hread
    -- a token that begins here would be the result of this call
    have hnone : ∀ t : PlacedToken text, t.start ≠ start := by
      rintro t rfl
      obtain ⟨c, hnext⟩ := t.exists_nextToken_eq
      have hself : skipLayout (.atOffset text t.start) = .atOffset text t.start := by
        rw [hcursor, skipLayout_eq_self hlayout hcomment]
      rw [← nextToken_of_skipLayout (hskip.trans hself.symm), herror] at hnext
      cases hnext
    obtain ⟨w, c, hmoves, hne, hposition⟩ := readToken_error hread
    rw [← hcursor] at hmoves
    obtain ⟨rfl, -, -⟩ := hmoves.eq_atOffset hstart
    have hlt : start + w.length < text.length := by
      by_contra hge
      exact hne (List.drop_eq_nil_of_le (Nat.le_of_not_lt hge))
    have he : e = ⟨e.fault, .atOffset text (start + w.length)⟩ := congrArg (ReadError.mk e.fault) hposition
    rw [herror, he]
    exact .error e.fault hgap hdrop hlayout hcomment hnone (Nat.le_add_right _ _) hlt

/-- Wherever the cursor stands, the next call comes to a token, to the end or to an error behind a separator. -/
theorem nextToken_atOffset (text : List Char) {k : ℕ} (hk : k ≤ text.length) :
    CallResult text k (nextToken (.atOffset text k)) := by
  obtain ⟨sep, hskips⟩ := skipLayout_skips (.atOffset text k)
  obtain ⟨hskip, hle, hsep⟩ := hskips.moves.eq_atOffset hk
  cases hdrop : text.drop (k + sep.length) with
  | nil =>
    have hend : k + sep.length = text.length := le_antisymm hle (List.drop_eq_nil_iff.1 hdrop)
    have hrest : text.drop k = sep := by
      have hrest := hskips.moves.rest
      rwa [hskip, atOffset_rest, atOffset_rest, hdrop, List.append_nil] at hrest
    have hfinish := hskips.finish (by rw [hskip, atOffset_rest, hdrop])
    have hnext : nextToken (.atOffset text k) = .ok (.finish (.atOffset text (k + sep.length))) := by
      simp only [nextToken, hskip, atOffset_rest, hdrop, atOffset_position]
    rw [hnext, hend]
    rw [← hrest] at hfinish
    exact .finish hfinish
  | cons first tail =>
    obtain ⟨hseparator, hlayout, hcomment⟩ :=
      hskips.token first tail (by rw [hskip, atOffset_rest, hdrop])
    have hgap : Gap text k (k + sep.length) := ⟨Nat.le_add_right _ _, by rw [hsep]; exact hseparator⟩
    exact callResult_of_drop hgap hle hdrop hlayout hcomment hskip

/-! ## Runs of calls -/

/-- Calls from `c` on, each where the last one stopped, give the tokens `ps` with their places and end at `c'`. -/
inductive Calls : Cursor → List (Token × Position) → Cursor → Prop
  | nil (c : Cursor) : Calls c [] c
  | cons {c c' c'' : Cursor} {t : Token} {p : Position} {ps : List (Token × Position)} :
    nextToken c = .ok (.token t p c') → Calls c' ps c'' → Calls c ((t, p) :: ps) c''

theorem Calls.reads {c c' : Cursor} {ps : List (Token × Position)} (h : Calls c ps c') : Reads c ps c' := by
  induction h with
  | nil c => exact .refl c
  | cons hnext _ ih => exact .token hnext ih

/-- From the offset `k` to the offset `k'` stand these tokens, each behind a separator. -/
inductive InTurn (text : List Char) : ℕ → List (PlacedToken text) → ℕ → Prop
  | nil (k : ℕ) : InTurn text k [] k
  | cons {k k' : ℕ} {t : PlacedToken text} {ts : List (PlacedToken text)} :
    Gap text k t.start → InTurn text t.stop ts k' → InTurn text k (t :: ts) k'

namespace InTurn

variable {text : List Char} {k k' : ℕ} {ts : List (PlacedToken text)}

/-- The offset grows by at least one with each token. -/
theorem add_length_le (h : InTurn text k ts k') : k + ts.length ≤ k' := by
  induction h with
  | nil k => exact Nat.le_refl k
  | @cons k k' t ts hgap _ ih =>
    have hle := hgap.le
    have hlt := t.start_lt_stop
    rw [List.length_cons]
    omega

theorem le_start (h : InTurn text k ts k') : ∀ t ∈ ts, k ≤ t.start := by
  induction h with
  | nil => exact fun t ht => absurd ht List.not_mem_nil
  | @cons k k' t ts hgap _ ih =>
    have hle := hgap.le
    have hlt := t.start_lt_stop
    refine List.forall_mem_cons.2 ⟨hle, fun u hu => ?_⟩
    have := ih u hu
    omega

/-- Each token begins behind the one before it. -/
theorem pairwise_start (h : InTurn text k ts k') : (ts.map (·.start)).Pairwise (· < ·) := by
  induction h with
  | nil => exact .nil
  | @cons k k' t ts _ hts ih =>
    refine List.pairwise_cons.2 ⟨List.forall_mem_map.2 fun u hu => ?_, ih⟩
    exact t.start_lt_stop.trans_le (hts.le_start u hu)

end InTurn

/-- A run of calls gives the tokens that stand in turn from its beginning on, with the places of their offsets. -/
theorem Calls.inTurn {text : List Char} {c c' : Cursor} {ps : List (Token × Position)} (h : Calls c ps c') :
    ∀ {k : ℕ}, k ≤ text.length → c = .atOffset text k →
      ∃ (ts : List (PlacedToken text)) (k' : ℕ), k' ≤ text.length ∧ c' = .atOffset text k' ∧
        InTurn text k ts k' ∧ ps = ts.map fun t => (t.token, .atOffset text t.start) := by
  induction h with
  | nil c =>
    intro k hk hc
    exact ⟨[], k, hk, hc, .nil k, rfl⟩
  | @cons c c' c'' t p ps hnext _ ih =>
    intro k hk hc
    subst hc
    have hresult := nextToken_atOffset text hk
    rw [hnext] at hresult
    cases hresult with
    | token t hgap =>
      obtain ⟨ts, k', hk', hc', hts, rfl⟩ := ih t.stop_le rfl
      exact ⟨t :: ts, k', hk', hc', .cons hgap hts, rfl⟩

/-- Calls go on until one comes to the end of the text or to an error. -/
theorem exists_calls (text : List Char) :
    ∀ {n k : ℕ}, k ≤ text.length → text.length - k = n → ∃ ps c, Calls (.atOffset text k) ps c ∧
      ((∃ p, nextToken c = .ok (.finish p)) ∨ ∃ e, nextToken c = .error e) := by
  intro n
  induction n using Nat.strong_induction_on with
  | _ n ih =>
    intro k hk hn
    have hresult := nextToken_atOffset text hk
    generalize hnext : nextToken (.atOffset text k) = r at hresult
    cases hresult with
    | finish => exact ⟨[], _, .nil _, .inl ⟨_, hnext⟩⟩
    | error fault => exact ⟨[], _, .nil _, .inr ⟨_, hnext⟩⟩
    | token t hgap =>
      have hle := hgap.le
      have hlt := t.start_lt_stop
      have hstop := t.stop_le
      obtain ⟨ps, c, hcalls, hlast⟩ := ih _ (by omega) hstop rfl
      exact ⟨_, c, .cons hnext hcalls, hlast⟩

theorem Calls.scan_eq {text : List Char} {c : Cursor} {ps : List (Token × Position)}
    (h : Calls (.ofText text) ps c) :
    ∃ fuel, scan text = ⟨ps ++ (scanFrom [] c (fuel + 1)).tokens, (scanFrom [] c (fuel + 1)).finish⟩ := by
  have hlength := h.reads.length_le_length
  obtain ⟨fuel, hfuel⟩ : ∃ fuel, text.length + 1 = ps.length + (fuel + 1) :=
    ⟨text.length - ps.length, by omega⟩
  refine ⟨fuel, ?_⟩
  rw [scan, hfuel, h.reads.scanFrom_append, List.append_nil, scanFrom_done, List.reverse_reverse]

/-- The reader of tokens goes forward and knows where it is. From every offset of a text, a call comes to a token
behind a separator, to the end of the text or to an error, and reports the place of an offset; a token begins at its
place, and an error stands at a character that is not before the beginning of the token. A run of calls gives at most
as many tokens as there are characters. They stand one behind the other with nothing but separators before each of
them, and their offsets increase. There is a run after which the next call comes to the end or to an error, and the
scan of the text is this run. -/
theorem tokens_and_errors_stand_in_order (text : List Char) :
    (∀ k ≤ text.length, CallResult text k (nextToken (.atOffset text k))) ∧
    (∀ (ps : List (Token × Position)) (c : Cursor), Calls (.ofText text) ps c →
      ps.length ≤ text.length ∧
      ∃ (ts : List (PlacedToken text)) (k : ℕ), k ≤ text.length ∧ c = .atOffset text k ∧ InTurn text 0 ts k ∧
        (ts.map (·.start)).Pairwise (· < ·) ∧ ps = ts.map fun t => (t.token, .atOffset text t.start)) ∧
    ∃ (ps : List (Token × Position)) (c : Cursor), Calls (.ofText text) ps c ∧
      ((∃ p, nextToken c = .ok (.finish p) ∧ scan text = ⟨ps, .ok p⟩) ∨
        ∃ e, nextToken c = .error e ∧ scan text = ⟨ps, .error e⟩) := by
  refine ⟨fun k hk => nextToken_atOffset text hk, fun ps c h => ?_, ?_⟩
  · obtain ⟨ts, k, hk, hc, hts, rfl⟩ := h.inTurn (Nat.zero_le _) (Cursor.atOffset_zero text).symm
    have hlength := hts.add_length_le
    refine ⟨?_, ts, k, hk, hc, hts, hts.pairwise_start, rfl⟩
    rw [List.length_map]
    omega
  · obtain ⟨ps, c, hcalls, hlast⟩ := exists_calls text (Nat.zero_le _) rfl
    rw [Cursor.atOffset_zero] at hcalls
    obtain ⟨fuel, hscan⟩ := hcalls.scan_eq
    refine ⟨ps, c, hcalls, hlast.imp (fun h => ?_) fun h => ?_⟩
    · obtain ⟨p, hnext⟩ := h
      refine ⟨p, hnext, ?_⟩
      simpa only [scanFrom, hnext, List.reverse_nil, List.append_nil] using hscan
    · obtain ⟨e, hnext⟩ := h
      refine ⟨e, hnext, ?_⟩
      simpa only [scanFrom, hnext, List.reverse_nil, List.append_nil] using hscan

/-- A bracket, a symbol, and behind a comment with a bracket in it a string that is not closed. -/
theorem tokens_and_errors_stand_in_order_open_string :
    ∃ (text : List Char) (ps : List (Token × Position)) (c : Cursor),
      text = "(a ;)\n  \"b".toList ∧ ps = [(.opening .round, ⟨1, 1⟩), (.symbol "a", ⟨1, 2⟩)] ∧
      Calls (.ofText text) ps c ∧
      (2 ≤ text.length ∧ nextToken (.atOffset text 2) = .error ⟨.openString, ⟨2, 3⟩⟩ ∧
        CallResult text 2 (nextToken (.atOffset text 2))) ∧
      ∃ (ts : List (PlacedToken text)) (k : ℕ), k ≤ text.length ∧ c = .atOffset text k ∧ InTurn text 0 ts k ∧
        (ts.map (·.start)).Pairwise (· < ·) ∧ ps = ts.map fun t => (t.token, .atOffset text t.start) := by
  have hcalls : Calls (.ofText "(a ;)\n  \"b".toList) [(.opening .round, ⟨1, 1⟩), (.symbol "a", ⟨1, 2⟩)]
      ⟨" ;)\n  \"b".toList, ⟨1, 3⟩⟩ := .cons rfl (.cons rfl (.nil _))
  obtain ⟨hcall, hrun, -⟩ := tokens_and_errors_stand_in_order "(a ;)\n  \"b".toList
  exact ⟨_, _, _, rfl, rfl, hcalls, ⟨by decide, rfl, hcall 2 (by decide)⟩, (hrun _ _ hcalls).2⟩

end ToolLisp
