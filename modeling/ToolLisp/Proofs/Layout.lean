import ToolLisp.Proofs.Grammar

/-!
# Tokens in any layout

A `Lexeme` is a token with a text that spells it. Lexemes one after the other, with separators around them that are
not empty between two lexemes, are read as their tokens (`tokenizes_laidOut`). This is an induction on the lexemes:
the separator before the first one is skipped, and the one behind it ends it if it is a word, because white space,
commas and semicolons are delimiters.

The reader of forms looks at the places of tokens only to report them. So texts with the same tokens are read as the
same forms, or refused for the same reason (`readForms_of_tokenizes`), and what stands between the tokens has no
meaning (`tokens_do_not_depend_on_layout`).
-/

namespace ToolLisp

open Token

/-! ## Lexemes and separators -/

/-- A token with a text that spells it. -/
structure Lexeme where
  /-- The token. -/
  token : Token
  /-- One of its spellings. -/
  text : List Char
  /-- The text spells the token. -/
  spells : Spells text token

/-- What can stand between tokens. -/
structure Separator where
  /-- White space, commas and comments. -/
  text : List Char
  /-- There is nothing else in the text. -/
  isSeparator : IsSeparator text

/-- Lexemes with separators around them. The separator `gap i` stands behind the first `i` lexemes. -/
def laidOut (gap : ℕ → Separator) : List Lexeme → List Char
  | [] => (gap 0).text
  | l :: ls => (gap 0).text ++ (l.text ++ laidOut (fun i => gap (i + 1)) ls)

/-- A word can end before a separator and what follows it, unless the separator is empty and lexemes follow. -/
theorem ends_laidOut {gap : ℕ → Separator} {ls : List Lexeme} (h : ls ≠ [] → (gap 0).text ≠ []) :
    Ends (laidOut gap ls) := by
  have hends (rest : List Char) (hne : (gap 0).text ≠ []) : Ends ((gap 0).text ++ rest) :=
    (gap 0).isSeparator.ends hne rest
  cases ls with
  | nil =>
    rw [laidOut]
    by_cases hne : (gap 0).text = []
    · rw [hne]
      exact .nil
    · have hends' := hends [] hne
      rwa [List.append_nil] at hends'
  | cons l ls => exact hends _ (h (List.cons_ne_nil l ls))

theorem nextToken_separator (s : Separator) (rest : List Char) (p : Position) :
    nextToken ⟨s.text ++ rest, p⟩ = nextToken ⟨rest, p.afterAll s.text⟩ :=
  nextToken_of_skipLayout (s.isSeparator.skipLayout_eq rest p)

/-- Lexemes that are kept apart are read as their tokens. -/
theorem tokenizes_laidOut (ls : List Lexeme) :
    ∀ (gap : ℕ → Separator) (p : Position), (∀ i, 0 < i → i < ls.length → (gap i).text ≠ []) →
      Tokenizes ⟨laidOut gap ls, p⟩ (ls.map (·.token)) := by
  induction ls with
  | nil =>
    intro gap p _
    have hnext := nextToken_separator (gap 0) [] p
    rw [List.append_nil] at hnext
    exact .finish hnext
  | cons l ls ih =>
    intro gap p hgap
    -- the gap behind the first lexeme ends it, unless it is the last one
    have hends : Ends (laidOut (fun i => gap (i + 1)) ls) := by
      refine ends_laidOut fun hls => hgap 1 Nat.zero_lt_one ?_
      have hpos := List.length_pos_of_ne_nil hls
      rw [List.length_cons]
      omega
    have hnext := l.spells.nextToken_eq (fun _ => hends) (p.afterAll (gap 0).text)
    rw [← nextToken_separator] at hnext
    refine .token hnext (ih _ _ fun i hi hlt => hgap (i + 1) (Nat.succ_pos i) ?_)
    rw [List.length_cons]
    omega

/-! ## Forms do not depend on places -/

/-- Two results of reading agree: both give something, and `R` relates what they give, or both are errors with the
same fault. -/
inductive Parallel {α : Type} (R : α → α → Prop) : Except ReadError α → Except ReadError α → Prop
  | ok {a b : α} : R a b → Parallel R (.ok a) (.ok b)
  | error {e e' : ReadError} : e.fault = e'.fault → Parallel R (.error e) (.error e')

theorem Parallel.mapError_eq {α : Type} {x y : Except ReadError α} (h : Parallel Eq x y) :
    x.mapError ReadError.fault = y.mapError ReadError.fault := by
  cases h with
  | ok h => rw [h]
  | error h => exact congrArg Except.error h

namespace Reader

/-- The same brackets are open and the same forms have been read, perhaps at other places. -/
structure SameContent (r r' : Reader) : Prop where
  frames : r.frames.map (fun f => (f.opener, f.items)) = r'.frames.map (fun f => (f.opener, f.items))
  forms : r.forms = r'.forms

namespace SameContent

variable {r r' : Reader}

theorem push (h : SameContent r r') (f : Form) : SameContent (r.push f) (r'.push f) := by
  rcases r with ⟨_ | ⟨frame, outer⟩, forms⟩ <;> rcases r' with ⟨_ | ⟨frame', outer'⟩, forms'⟩
  · exact ⟨rfl, congrArg (f :: ·) h.forms⟩
  · cases h.frames
  · cases h.frames
  · obtain ⟨hframe, houter⟩ := List.cons.inj h.frames
    obtain ⟨hopener, hitems⟩ := Prod.mk.inj hframe
    refine ⟨List.cons_eq_cons.2 ⟨?_, houter⟩, h.forms⟩
    exact Prod.ext hopener (congrArg (f :: ·) hitems)

theorem openWith (h : SameContent r r') (o : Opener) (p p' : Position) :
    Parallel SameContent (r.openWith o p) (r'.openWith o p') := by
  have hany (r : Reader) : r.frames.any (·.opener == .function) =
      (r.frames.map fun f => (f.opener, f.items)).any (·.1 == .function) := by
    rw [List.any_map]
    rfl
  have hlength : r.frames.length = r'.frames.length := by
    rw [← List.length_map fun f : Frame => (f.opener, f.items), h.frames, List.length_map]
  unfold Reader.openWith
  rw [hany r, hany r', h.frames, hlength]
  split_ifs
  · exact .error rfl
  · exact .error rfl
  · exact .ok ⟨congrArg ((o, []) :: ·) h.frames, h.forms⟩

theorem closeFrame {f f' : Frame} (hopener : f.opener = f'.opener) (hitems : f.items = f'.items) :
    Parallel Eq (closeFrame f) (closeFrame f') := by
  unfold Reader.closeFrame
  rw [hopener, hitems]
  rcases f'.opener with (_ | _ | _) | _
  case bracket.curly =>
    dsimp only
    split_ifs
    · exact .ok rfl
    · exact .error rfl
  all_goals exact .ok rfl

theorem closeWith (h : SameContent r r') (b : Bracket) (p p' : Position) :
    Parallel SameContent (r.closeWith b p) (r'.closeWith b p') := by
  rcases r with ⟨_ | ⟨frame, outer⟩, forms⟩ <;> rcases r' with ⟨_ | ⟨frame', outer'⟩, forms'⟩
  · exact .error rfl
  · cases h.frames
  · cases h.frames
  · obtain ⟨hframe, houter⟩ := List.cons.inj h.frames
    obtain ⟨hopener, hitems⟩ := Prod.mk.inj hframe
    have hrest : SameContent ⟨outer, forms⟩ ⟨outer', forms'⟩ := ⟨houter, h.forms⟩
    have hclose := closeFrame hopener hitems
    simp only [Reader.closeWith, hopener]
    split_ifs
    · generalize Reader.closeFrame frame = x at hclose ⊢
      generalize Reader.closeFrame frame' = y at hclose ⊢
      cases hclose with
      | @ok a _ heq =>
        subst heq
        exact .ok (hrest.push a)
      | error hfault => exact .error hfault
    · exact .error rfl

theorem step (h : SameContent r r') (t : Token) (p p' : Position) :
    Parallel SameContent (r.step (t, p)) (r'.step (t, p')) := by
  cases t with
  | opening b => exact h.openWith _ p p'
  | openFunction => exact h.openWith _ p p'
  | closing b => exact h.closeWith b p p'
  | symbol | qualified | keyword | number | string => exact .ok (h.push _)

/-- The same tokens at other places keep the contents of two readers the same. -/
theorem run {ps : List (Token × Position)} :
    ∀ {ps' : List (Token × Position)} {r r' : Reader}, ps.map Prod.fst = ps'.map Prod.fst →
      SameContent r r' → Parallel SameContent (ps.foldlM Reader.step r) (ps'.foldlM Reader.step r') := by
  induction ps with
  | nil =>
    intro ps' r r' hps h
    obtain rfl := List.map_eq_nil_iff.1 hps.symm
    exact .ok h
  | cons e ps ih =>
    intro ps' r r' hps h
    obtain ⟨⟨t, p'⟩, ps', rfl, ht, hrest⟩ := List.map_eq_cons_iff.1 hps.symm
    obtain ⟨_, p⟩ := e
    obtain rfl : t = _ := ht
    rw [List.foldlM_cons, List.foldlM_cons]
    have hstep := h.step t p p'
    generalize r.step (t, p) = x at hstep ⊢
    generalize r'.step (t, p') = y at hstep ⊢
    cases hstep with
    | ok hnext => exact ih hrest.symm hnext
    | error hfault => exact .error hfault

theorem finish (h : SameContent r r') : Parallel Eq r.finish r'.finish := by
  rcases r with ⟨_ | ⟨frame, outer⟩, forms⟩ <;> rcases r' with ⟨_ | ⟨frame', outer'⟩, forms'⟩
  · exact .ok (congrArg List.reverse h.forms)
  · cases h.frames
  · cases h.frames
  · obtain ⟨hframe, -⟩ := List.cons.inj h.frames
    have hopener : frame.opener = frame'.opener := (Prod.mk.inj hframe).1
    exact .error (congrArg (fun o : Opener => ReadFault.missingClose o.closer) hopener)

end SameContent

end Reader

/-- Texts with the same tokens are read as the same forms, or refused for the same reason. -/
theorem readForms_of_tokenizes {s s' : String} {ts : List Token} (h : Tokenizes (.ofText s.toList) ts)
    (h' : Tokenizes (.ofText s'.toList) ts) :
    (readForms s).mapError ReadError.fault = (readForms s').mapError ReadError.fault := by
  obtain ⟨ps, p, hscan, hps⟩ := tokenizes_iff.1 h
  obtain ⟨ps', p', hscan', hps'⟩ := tokenizes_iff.1 h'
  have hrun := @Reader.SameContent.run ps ps' .empty .empty (hps.trans hps'.symm) ⟨rfl, rfl⟩
  refine Parallel.mapError_eq ?_
  rw [readForms, readForms, hscan, hscan', readScan, readScan]
  dsimp only
  generalize ps.foldlM Reader.step .empty = x at hrun ⊢
  generalize ps'.foldlM Reader.step .empty = y at hrun ⊢
  cases hrun with
  | ok hcontent => exact hcontent.finish
  | error hfault => exact .error hfault

/-! ## Layout -/

/-- Tokenization does not depend on layout. Spelled tokens with separators around them, which are not empty between
two tokens, are read as these tokens up to the end of the text. With other separators, the text is read as the same
forms, or refused for the same reason. -/
theorem tokens_do_not_depend_on_layout (ls : List Lexeme) (gap : ℕ → Separator)
    (hgap : ∀ i, 0 < i → i < ls.length → (gap i).text ≠ []) :
    Tokenizes (.ofText (laidOut gap ls)) (ls.map (·.token)) ∧
      ∀ gap' : ℕ → Separator, (∀ i, 0 < i → i < ls.length → (gap' i).text ≠ []) →
        (readForms (String.ofList (laidOut gap ls))).mapError ReadError.fault =
          (readForms (String.ofList (laidOut gap' ls))).mapError ReadError.fault := by
  refine ⟨tokenizes_laidOut ls gap .start hgap, fun gap' hgap' => ?_⟩
  refine @readForms_of_tokenizes _ _ (ls.map (·.token)) ?_ ?_
  · rw [String.toList_ofList]
    exact tokenizes_laidOut ls gap .start hgap
  · rw [String.toList_ofList]
    exact tokenizes_laidOut ls gap' .start hgap'

/-- A sign before a comment with a quote and a bracket in it, a number with a sign and zeros, and a string with a
separator and an escape. -/
theorem tokens_do_not_depend_on_layout_comment :
    Tokenizes (.ofText " ( -;)\"\n+01 \";,\\u00e9\" ) ".toList)
        [.opening .round, .symbol "-", .number (.int 1), .string ";,é", .closing .round] ∧
      (readForms " ( -;)\"\n+01 \";,\\u00e9\" ) ").mapError ReadError.fault =
        (readForms ",(,-,+01,\";,\\u00e9\",),").mapError ReadError.fault := by
  let blank : Separator := ⟨[' '], .layout (by decide) .nil⟩
  let comma : Separator := ⟨[','], .layout (by decide) .nil⟩
  let comment : Separator := ⟨";)\"\n".toList, @IsSeparator.comment [')', '"'] [] (by decide) .nil⟩
  have hword : (("+01".toList.all (!isDelimiter ·)) = true) := by decide
  let ls : List Lexeme := [
    ⟨.opening .round, ['('], .text (t := .opening .round) trivial⟩,
    ⟨.symbol "-", ['-'], .text (t := .symbol "-") (by decide)⟩,
    ⟨.number (.int 1), "+01".toList, .number (by simpa using hword) rfl (by decide)⟩,
    ⟨.string ";,é", "\";,\\u00e9\"".toList,
      @Spells.string ";,\\u00e9".toList ";,é".toList
        (.plain (by decide) (by decide) (.plain (by decide) (by decide) (.numeric rfl .nil)))⟩,
    ⟨.closing .round, [')'], .text (t := .closing .round) trivial⟩]
  have hgap : ∀ i, 0 < i → i < ls.length → (if i = 2 then comment else blank).text ≠ [] := by
    intro i _ _
    split <;> exact List.cons_ne_nil _ _
  obtain ⟨htokens, hforms⟩ := tokens_do_not_depend_on_layout ls (fun i => if i = 2 then comment else blank) hgap
  exact ⟨htokens, hforms (fun _ => comma) fun _ _ _ => List.cons_ne_nil _ _⟩

end ToolLisp
