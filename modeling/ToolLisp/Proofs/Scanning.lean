import ToolLisp.Proofs.Spelling

/-!
# Scanning

Reading a token moves the cursor over a part of the text and over nothing else: the layout before the
token, and a spelling of the token, which has at least one character (`nextToken_moves`). So the tokens
of a text are no more than its characters, and `scan` never runs out of turns.

`Reads c ts c'` says that the tokens from `c` to `c'` are `ts`. A scan is such a reading up to the end of
the text (`Reads.scan_eq`).
-/

namespace ToolLisp

open Cursor Token

/-! ## Progress -/

/-- A token begins behind the layout, and has at least one character. -/
theorem nextToken_moves {c : Cursor} {t : Token} {p : Position} {c' : Cursor}
    (h : nextToken c = .ok (.token t p c')) :
    p = (skipLayout c).position ∧ ∃ text, text ≠ [] ∧ (skipLayout c).Moves text c' := by
  simp only [nextToken] at h
  split at h
  · cases h
  · next first rest hrest =>
    have hc : skipLayout c = ⟨first :: rest, (skipLayout c).position⟩ := by rw [← hrest]
    split at h
    · next hread =>
      cases h
      rw [hc] at hread ⊢
      obtain ⟨text, hspells, hmoves, -⟩ := readToken_spells hread
      exact ⟨rfl, text, hspells.ne_nil, hmoves⟩
    · cases h

/-! ## Readings -/

/-- The next token is the next token behind the layout. -/
theorem nextToken_of_skipLayout {c c' : Cursor} (h : skipLayout c = skipLayout c') :
    nextToken c = nextToken c' := by
  unfold nextToken
  rw [h]

/-- From `c` to `c'` the tokens are `ts`, with their places. Layout may be left or passed at both
ends. -/
inductive Reads : Cursor → List (Token × Position) → Cursor → Prop
  | refl (c : Cursor) : Reads c [] c
  | layout {c c' c'' : Cursor} {ts : List (Token × Position)} :
    skipLayout c = skipLayout c' → Reads c' ts c'' → Reads c ts c''
  | token {c c' c'' : Cursor} {t : Token} {p : Position} {ts : List (Token × Position)} :
    nextToken c = .ok (.token t p c') → Reads c' ts c'' → Reads c ((t, p) :: ts) c''

namespace Reads

theorem trans {c c' c'' : Cursor} {ts ts' : List (Token × Position)} (h : Reads c ts c')
    (h' : Reads c' ts' c'') : Reads c (ts ++ ts') c'' := by
  induction h with
  | refl c => exact h'
  | layout hskip _ ih => exact .layout hskip (ih h')
  | token ht _ ih => exact .token ht (ih h')

/-- The text of a token is read as that token. -/
theorem text {t : Token} (ht : t.WellSpelled) {rest : List Char} (hr : t.isWord = true → Ends rest)
    (p : Position) : Reads ⟨t.text ++ rest, p⟩ [(t, p)] ⟨rest, p.afterAll t.text⟩ :=
  .token (nextToken_text ht hr p) (.refl _)

/-- A character of layout is read as nothing. -/
theorem layoutChar {c : Char} (h : isLayout c = true) (rest : List Char) (p : Position) :
    Reads ⟨c :: rest, p⟩ [] ⟨rest, p.after c⟩ :=
  .layout (skipLayout_of_isLayout h rest p) (.refl _)

/-- There are no more tokens than characters behind the layout. -/
theorem length_le {c c' : Cursor} {ts : List (Token × Position)} (h : Reads c ts c') :
    ts.length ≤ (skipLayout c).rest.length := by
  induction h with
  | refl c => exact Nat.zero_le _
  | layout hskip _ ih => rwa [hskip]
  | @token c c' _ _ _ ts ht _ ih =>
    -- the token takes a character, and skipping the layout behind it takes no character back
    obtain ⟨-, text, hne, hmoves⟩ := nextToken_moves ht
    obtain ⟨layout, hlayout⟩ := skipLayout_moves c'
    have hpos := List.length_pos_of_ne_nil hne
    have h₁ := hmoves.length
    have h₂ := hlayout.length
    rw [List.length_cons]
    omega

theorem scanFrom_eq {c c' : Cursor} {ts : List (Token × Position)} {p : Position}
    (h : Reads c ts c') (hfinish : nextToken c' = .ok (.finish p)) :
    ∀ (done : List (Token × Position)) {fuel : Nat}, ts.length < fuel →
      scanFrom done c fuel = ⟨done.reverse ++ ts, .ok p⟩ := by
  induction h with
  | refl c =>
    intro done fuel hfuel
    obtain ⟨fuel, rfl⟩ : ∃ k, fuel = k + 1 := ⟨fuel - 1, by omega⟩
    simp only [scanFrom, hfinish, List.append_nil]
  | layout hskip _ ih =>
    intro done fuel hfuel
    rw [← ih hfinish done hfuel]
    obtain ⟨fuel, rfl⟩ : ∃ k, fuel = k + 1 := ⟨fuel - 1, by omega⟩
    simp only [scanFrom, nextToken_of_skipLayout hskip]
  | token ht _ ih =>
    intro done fuel hfuel
    obtain ⟨fuel, rfl⟩ : ∃ k, fuel = k + 1 := ⟨fuel - 1, by omega⟩
    rw [List.length_cons] at hfuel
    simp only [scanFrom, ht]
    rw [ih hfinish _ (by omega), List.reverse_cons, List.append_assoc, List.singleton_append]

/-- A reading up to the end of a text gives all tokens of the text. -/
theorem scan_eq {text : List Char} {c : Cursor} {ts : List (Token × Position)} {p : Position}
    (h : Reads (.ofText text) ts c) (hfinish : nextToken c = .ok (.finish p)) :
    scan text = ⟨ts, .ok p⟩ := by
  refine h.scanFrom_eq hfinish [] ?_
  obtain ⟨layout, hlayout⟩ := skipLayout_moves (.ofText text)
  have h₁ := h.length_le
  have h₂ : text.length = _ := hlayout.length
  omega

end Reads

end ToolLisp
