import ToolLisp.Proofs.SuccessiveTexts

/-!
# Printing what has been read

The forms that the reader gives have names that are spelled as names, so their texts are texts of tokens
again, and the reader takes a text back exactly if its brackets are not nested too deeply
(`readForm_render_of_mem_readForms`). A form that has been read is nested at most one level more deeply
than the limit: a short function literal opens one bracket, and the `fn` form that it means has two, one
inside the other.

That a text is refused is an induction on forms, as that it is read is: the first form that has no room
where it stands is found, and inside it the first bracket that has none (`Form.text_refuses`).
-/

namespace ToolLisp

/-! ## Tokens that have been read -/

/-- Every token that is read is well spelled. -/
theorem nextToken_wellSpelled {c c' : Cursor} {t : Token} {p : Position}
    (h : nextToken c = .ok (.token t p c')) : t.WellSpelled := by
  obtain ⟨_, _, -, hread⟩ := nextToken_eq_token_iff.1 h
  obtain ⟨_, hspells, -⟩ := Token.readToken_spells hread
  exact hspells.wellSpelled

/-- The tokens of a text are spelled as tokens are. -/
theorem Tokenizes.wellSpelled {c : Cursor} {ts : List Token} (h : Tokenizes c ts) :
    ∀ t ∈ ts, t.WellSpelled := by
  induction h with
  | finish => exact nofun
  | token ht _ ih => exact List.forall_mem_cons.2 ⟨nextToken_wellSpelled ht, ih⟩

namespace Form

/-! ## Forms that have been read -/

theorem wellSpelledAll_iff {items : List Form} :
    WellSpelledAll items ↔ ∀ f ∈ items, f.WellSpelled := by
  induction items with
  | nil => simp [WellSpelledAll]
  | cons f rest ih => rw [WellSpelledAll, ih, List.forall_mem_cons]

theorem wellSpelledPairs_iff {entries : List (Form × Form)} :
    WellSpelledPairs entries ↔ ∀ f ∈ flatten entries, f.WellSpelled := by
  induction entries with
  | nil => simp [WellSpelledPairs, flatten]
  | cons e rest ih =>
    have hflatten : flatten (e :: rest) = e.1 :: e.2 :: flatten rest := rfl
    rw [WellSpelledPairs, ih, hflatten, List.forall_mem_cons, List.forall_mem_cons, and_assoc]

theorem depthAll_le_iff {items : List Form} {n : Nat} :
    depthAll items ≤ n ↔ ∀ f ∈ items, f.depth ≤ n := by
  induction items with
  | nil => simp [depthAll]
  | cons f rest ih => rw [depthAll, Nat.max_le, ih, List.forall_mem_cons]

theorem depthPairs_le_iff {entries : List (Form × Form)} {n : Nat} :
    depthPairs entries ≤ n ↔ ∀ f ∈ flatten entries, f.depth ≤ n := by
  induction entries with
  | nil => simp [depthPairs, flatten]
  | cons e rest ih =>
    have hflatten : flatten (e :: rest) = e.1 :: e.2 :: flatten rest := rfl
    rw [depthPairs, Nat.max_le, Nat.max_le, ih, hflatten, List.forall_mem_cons, List.forall_mem_cons,
      and_assoc]

/-- A symbol stands for itself, unless it is the name of a literal. -/
theorem ofSymbol_wellSpelled {name : String} (h : (Token.symbol name).WellSpelled) :
    (Reader.ofSymbol name).WellSpelled := by
  unfold Reader.ofSymbol
  split_ifs with hnil htrue hfalse
  · trivial
  · trivial
  · trivial
  · exact ⟨h, by simp [hnil, htrue, hfalse]⟩

/-- A placeholder with its number is a name. -/
theorem parameter_wellSpelled (n : Nat) : (parameter n).WellSpelled := by
  have hdigit := Decimal.isDigit_toDigits n
  have hne : Nat.toDigits 10 n ≠ [] := Nat.toDigits_ne_nil
  have hslash : '/' ∉ '%' :: Nat.toDigits 10 n := by
    rintro (_ | ⟨_, hmem⟩)
    exact absurd (hdigit '/' hmem) (by decide)
  have hspecial : Number.special? ('%' :: Nat.toDigits 10 n) = none :=
    Number.special?_eq_none (p := fun word => word.head? == some '%') rfl (by decide)
  have hliteral {literal : String} (h : literal.toList.head? ≠ some '%') :
      String.ofList ('%' :: Nat.toDigits 10 n) ≠ literal := by
    rintro rfl
    rw [String.toList_ofList] at h
    exact h rfl
  simp only [parameter, WellSpelled, Token.WellSpelled, String.toList_ofList]
  refine ⟨⟨⟨by simp, ?_⟩, .inr hslash, ?_, hspecial⟩, ?_⟩
  · exact List.forall_mem_cons.2
      ⟨by decide, fun c hc => Token.isSymbolChar_of_isDigit (hdigit c hc)⟩
  · cases Nat.toDigits 10 n <;> rfl
  · simp only [List.mem_cons, List.not_mem_nil, or_false, not_or]
    exact ⟨hliteral (by decide), hliteral (by decide), hliteral (by decide)⟩

mutual

/-- Renaming a placeholder gives a symbol that can be spelled. By induction on the form. -/
theorem numberPlaceholders_wellSpelled :
    ∀ f : Form, f.WellSpelled → f.numberPlaceholders.WellSpelled
  | .symbol name, h => by
    by_cases hname : name = "%"
    · rw [numberPlaceholders, if_pos hname]
      exact parameter_wellSpelled 1
    · rw [numberPlaceholders, if_neg hname]
      exact h
  | .list items, h => numberPlaceholdersAll_wellSpelled items h
  | .vector items, h => numberPlaceholdersAll_wellSpelled items h
  | .map entries, h => numberPlaceholdersPairs_wellSpelled entries h
  | .nil, h | .bool _, h | .number _, h | .string _, h | .keyword _, h | .qualified _ _, h => h

theorem numberPlaceholdersAll_wellSpelled :
    ∀ items : List Form, WellSpelledAll items → WellSpelledAll (numberPlaceholdersAll items)
  | [], h => h
  | f :: rest, h =>
    ⟨numberPlaceholders_wellSpelled f h.1, numberPlaceholdersAll_wellSpelled rest h.2⟩

theorem numberPlaceholdersPairs_wellSpelled :
    ∀ entries : List (Form × Form),
      WellSpelledPairs entries → WellSpelledPairs (numberPlaceholdersPairs entries)
  | [], h => h
  | (k, v) :: rest, h =>
    ⟨⟨numberPlaceholders_wellSpelled k h.1.1, numberPlaceholders_wellSpelled v h.1.2⟩,
      numberPlaceholdersPairs_wellSpelled rest h.2⟩

end

mutual

/-- Renaming does not nest forms more deeply. -/
theorem depth_numberPlaceholders : ∀ f : Form, f.numberPlaceholders.depth = f.depth
  | .list items => congrArg (· + 1) (depth_numberPlaceholdersAll items)
  | .vector items => congrArg (· + 1) (depth_numberPlaceholdersAll items)
  | .map entries => congrArg (· + 1) (depth_numberPlaceholdersPairs entries)
  | .symbol _ | .nil | .bool _ | .number _ | .string _ | .keyword _ | .qualified _ _ => rfl

theorem depth_numberPlaceholdersAll :
    ∀ items : List Form, depthAll (numberPlaceholdersAll items) = depthAll items
  | [] => rfl
  | f :: rest => by
    rw [numberPlaceholdersAll, depthAll, depthAll, depth_numberPlaceholders f,
      depth_numberPlaceholdersAll rest]

theorem depth_numberPlaceholdersPairs :
    ∀ entries : List (Form × Form), depthPairs (numberPlaceholdersPairs entries) = depthPairs entries
  | [] => rfl
  | (k, v) :: rest => by
    rw [numberPlaceholdersPairs, depthPairs, depthPairs, depth_numberPlaceholders k,
      depth_numberPlaceholders v, depth_numberPlaceholdersPairs rest]

end

/-- A short function is a form that can be spelled if its body is. -/
theorem ofShortFunction_wellSpelled {body : List Form} (h : WellSpelledAll body) :
    (ofShortFunction body).WellSpelled := by
  refine ⟨by decide, wellSpelledAll_iff.2 ?_, numberPlaceholdersAll_wellSpelled body h, trivial⟩
  simp only [List.forall_mem_map]
  exact fun i _ => parameter_wellSpelled (i + 1)

/-- A short function literal means a form with one bracket more around its body. -/
theorem depth_ofShortFunction (body : List Form) :
    (ofShortFunction body).depth = depthAll body + 2 := by
  have hparameters : ∀ n, depthAll ((List.range n).map fun i => parameter (i + 1)) = 0 := by
    intro n
    refine Nat.le_zero.1 (depthAll_le_iff.2 ?_)
    simp only [List.forall_mem_map]
    exact fun i _ => Nat.le_refl 0
  simp only [ofShortFunction, depth, depthAll, hparameters, depth_numberPlaceholdersAll]
  omega

end Form

namespace Derivation

theorem nestingAll_le_iff {counts : Opener → Bool} {ds : List Derivation} {n : Nat} :
    nestingAll counts ds ≤ n ↔ ∀ d ∈ ds, d.nesting counts ≤ n := by
  induction ds with
  | nil => simp [nestingAll]
  | cons d rest ih => rw [nestingAll, Nat.max_le, ih, List.forall_mem_cons]

/-- The form of well-spelled tokens is well spelled. -/
theorem form_wellSpelled (d : Derivation) :
    (∀ t ∈ d.tokens, t.WellSpelled) → d.form.WellSpelled := by
  induction d using nodeInduction with
  | atom t f ht =>
    intro h
    replace h := h t List.mem_cons_self
    cases t with
    | opening | closing | openFunction => cases ht
    | symbol name =>
      cases ht
      exact Form.ofSymbol_wellSpelled h
    | qualified | keyword | number | string =>
      cases ht
      exact h
  | @node o items d hd ih =>
    intro h
    have hitems : ∀ f ∈ items.map form, f.WellSpelled := by
      simp only [List.forall_mem_map]
      intro e he
      refine ih e he fun t ht => h t ?_
      rw [hd.tokens_eq]
      simp only [List.mem_cons, List.mem_append, List.mem_flatMap]
      exact .inr (.inl ⟨e, he, ht⟩)
    cases hd with
    | list | vector =>
      rw [← formAll_eq] at hitems
      exact Form.wellSpelledAll_iff.2 hitems
    | map entries =>
      rw [← flatten_formPairs] at hitems
      exact Form.wellSpelledPairs_iff.2 hitems
    | function body =>
      rw [← formAll_eq] at hitems
      exact Form.ofShortFunction_wellSpelled (Form.wellSpelledAll_iff.2 hitems)

/-- A form has as many brackets inside one another as its derivation, and one more for each short function
literal. -/
theorem depth_form_le (d : Derivation) :
    d.form.depth ≤ d.nesting (fun _ => true) + d.nesting (· == .function) := by
  induction d using nodeInduction with
  | atom t f ht =>
    have hdepth : f.depth = 0 := by
      cases t with
      | opening | closing | openFunction => cases ht
      | symbol name =>
        cases ht
        unfold Reader.ofSymbol
        split_ifs <;> rfl
      | qualified | keyword | number | string =>
        cases ht
        rfl
    exact Nat.le_of_eq hdepth
  | @node o items d hd ih =>
    have hitems : ∀ f ∈ items.map form,
        f.depth ≤ nestingAll (fun _ => true) items + nestingAll (· == .function) items := by
      simp only [List.forall_mem_map]
      intro e he
      have hb := nestingAll_le_iff.1 (Nat.le_refl (nestingAll (fun _ => true) items)) e he
      have hf := nestingAll_le_iff.1 (Nat.le_refl (nestingAll (· == .function) items)) e he
      have := ih e he
      omega
    rw [hd.nesting_eq, hd.nesting_eq]
    cases hd with
    | list | vector =>
      rw [← formAll_eq, ← Form.depthAll_le_iff] at hitems
      simp only [form, Form.depth, Bool.toNat_true]
      omega
    | map entries =>
      rw [← flatten_formPairs, ← Form.depthPairs_le_iff] at hitems
      simp only [form, Form.depth, Bool.toNat_true]
      omega
    -- the expansion puts the body into a list of its own, one level below the function
    | function body =>
      rw [← formAll_eq, ← Form.depthAll_le_iff] at hitems
      simp only [form, Form.depth_ofShortFunction, Bool.toNat_true, BEq.rfl]
      omega

/-- Without the token that opens one there is no short function literal. -/
theorem nesting_function_eq_zero (d : Derivation) :
    .openFunction ∉ d.tokens → d.nesting (· == .function) = 0 := by
  induction d using nodeInduction with
  | atom => exact fun _ => rfl
  | @node o items d hd ih =>
    intro h
    rw [hd.tokens_eq] at h
    simp only [List.mem_cons, List.mem_append, List.mem_flatMap, not_or, not_exists, not_and] at h
    obtain ⟨ho, hitems, -⟩ := h
    have hzero : nestingAll (· == .function) items = 0 :=
      Nat.le_zero.1 (nestingAll_le_iff.2 fun e he => Nat.le_of_eq (ih e he (hitems e he)))
    have hfunction : (o == .function) = false := by
      rw [beq_eq_false_iff_ne]
      rintro rfl
      exact ho rfl
    rw [hd.nesting_eq, hzero, hfunction]
    rfl

end Derivation

/-! ## Texts that are refused -/

/-- In the text, which stands at `p` before `rest`, there is a bracket that is nested too deeply for the
reader in the state `r`. -/
def Refuses (text rest : List Char) (p : Position) (r : Reader) : Prop :=
  ∃ ts c q, Reads ⟨text ++ rest, p⟩ ts c ∧
    ts.foldlM Reader.step r = .error ⟨.tooDeep nestingLimit, q⟩

namespace Refuses

theorem append {a b rest : List Char} {p : Position} {r : Reader} (h : Refuses a (b ++ rest) p r) :
    Refuses (a ++ b) rest p r := by
  rw [Refuses, List.append_assoc]
  exact h

/-- What is refused after a part that is taken. -/
theorem after {a b rest : List Char} {p : Position} {r r' : Reader} (ha : Takes a (b ++ rest) p r r')
    (hb : Refuses b rest (p.afterAll a) r') : Refuses (a ++ b) rest p r := by
  obtain ⟨ts, hts, hr⟩ := ha
  obtain ⟨ts', c, q, hts', hr'⟩ := hb
  refine ⟨ts ++ ts', c, q, ?_, ?_⟩
  · rw [List.append_assoc]
    exact hts.trans hts'
  · rw [List.foldlM_append, hr]
    exact hr'

theorem blank {a b rest : List Char} {p : Position} {r r' : Reader}
    (ha : Takes a (' ' :: (b ++ rest)) p r r') (hb : ∀ p, Refuses b rest p r') :
    Refuses (a ++ ' ' :: b) rest p r :=
  after ha (after (a := [' ']) (.layout (by decide) _ _ _) (hb _))

theorem comma {a b rest : List Char} {p : Position} {r r' : Reader}
    (ha : Takes a (',' :: ' ' :: (b ++ rest)) p r r') (hb : ∀ p, Refuses b rest p r') :
    Refuses (a ++ ',' :: ' ' :: b) rest p r :=
  after ha (blank (a := [',']) (.layout (by decide) _ _ _) hb)

/-- A bracket is refused, or what stands inside it. -/
theorem bracket {b : Bracket} {inner rest : List Char} {p : Position} {r : Reader}
    (hinner : r.frames.length < nestingLimit → ∀ r' : Reader,
      r'.frames.length = r.frames.length + 1 →
        Refuses inner (Token.closingChar b :: rest) (p.after (Token.openingChar b)) r') :
    Refuses (Token.openingChar b :: (inner ++ [Token.closingChar b])) rest p r := by
  by_cases hdepth : r.frames.length < nestingLimit
  · have hopen : r.step (.opening b, p) = .ok (r.opened (.bracket b) p) := by
      refine Reader.openWith_eq_ok.2 ⟨by simp, ?_, rfl⟩
      rwa [Reader.openers, List.length_map]
    refine after (a := [Token.openingChar b])
      (.token (t := .opening b) trivial (by simp [Token.isWord]) hopen) ?_
    exact append (hinner hdepth (r.opened (.bracket b) p) rfl)
  · refine ⟨[(.opening b, p)], _, p, .text (t := .opening b) trivial (by simp [Token.isWord]) p, ?_⟩
    have hdeep : nestingLimit ≤ r.frames.length := Nat.le_of_not_lt hdepth
    rw [List.foldlM_cons]
    simp only [Reader.step, Reader.openWith]
    rw [if_neg (by simp), if_pos hdeep]
    rfl

end Refuses

namespace Form

mutual

/-- The text of a form that is nested too deeply for where the reader stands is refused. -/
theorem text_refuses : ∀ (f : Form), f.WellSpelled → ∀ (rest : List Char) (p : Position) (r : Reader),
    r.frames.length ≤ nestingLimit → nestingLimit < r.frames.length + f.depth →
      Refuses f.text rest p r
  | .list items, hf, rest, p, r, hr, hd => by
    rw [depth] at hd
    refine .bracket (b := .round) fun hroom r' hr' => ?_
    exact textAll_refuses items hf _ _ r' (by omega) (by omega)
  | .vector items, hf, rest, p, r, hr, hd => by
    rw [depth] at hd
    refine .bracket (b := .square) fun hroom r' hr' => ?_
    exact textAll_refuses items hf _ _ r' (by omega) (by omega)
  | .map entries, hf, rest, p, r, hr, hd => by
    rw [depth] at hd
    refine .bracket (b := .curly) fun hroom r' hr' => ?_
    exact textPairs_refuses entries hf _ _ r' (by omega) (by omega)
  | .nil, _, _, _, _, hr, hd | .bool _, _, _, _, _, hr, hd | .number _, _, _, _, _, hr, hd
  | .string _, _, _, _, _, hr, hd | .keyword _, _, _, _, _, hr, hd
  | .symbol _, _, _, _, _, hr, hd | .qualified _ _, _, _, _, _, hr, hd =>
    absurd hd (Nat.not_lt.2 hr)

theorem textAll_refuses : ∀ (items : List Form), WellSpelledAll items →
    ∀ (rest : List Char) (p : Position) (r : Reader),
      r.frames.length ≤ nestingLimit → nestingLimit < r.frames.length + depthAll items →
        Refuses (textAll items) rest p r
  | [], _, _, _, _, hr, hd => absurd hd (Nat.not_lt.2 hr)
  | [f], hf, rest, p, r, hr, hd => by
    rw [depthAll, depthAll, Nat.max_zero] at hd
    exact text_refuses f hf.1 rest p r hr hd
  | f :: g :: items, hf, rest, p, r, hr, hd => by
    rw [depthAll] at hd
    by_cases hroom : r.frames.length + f.depth ≤ nestingLimit
    · refine .blank (text_takes f hf.1 _ p r hroom (ends_blank _)) fun p => ?_
      refine textAll_refuses (g :: items) hf.2 rest p (r.push f) ?_ ?_
      · rw [Reader.push_frames_length]
        exact hr
      · rw [Reader.push_frames_length]
        omega
    · exact .append (text_refuses f hf.1 _ p r hr (by omega))

theorem textPairs_refuses : ∀ (entries : List (Form × Form)), WellSpelledPairs entries →
    ∀ (rest : List Char) (p : Position) (r : Reader),
      r.frames.length ≤ nestingLimit → nestingLimit < r.frames.length + depthPairs entries →
        Refuses (textPairs entries) rest p r
  | [], _, _, _, _, hr, hd => absurd hd (Nat.not_lt.2 hr)
  | [(k, v)], hf, rest, p, r, hr, hd => by
    rw [depthPairs, depthPairs, Nat.max_zero] at hd
    by_cases hroom : r.frames.length + k.depth ≤ nestingLimit
    · refine .blank (text_takes k hf.1.1 _ p r hroom (ends_blank _)) fun p => ?_
      refine text_refuses v hf.1.2 rest p (r.push k) ?_ ?_
      · rw [Reader.push_frames_length]
        exact hr
      · rw [Reader.push_frames_length]
        omega
    · exact .append (text_refuses k hf.1.1 _ p r hr (by omega))
  -- the first form without room is refused, after all before it have been taken
  | (k, v) :: e :: entries, hf, rest, p, r, hr, hd => by
    rw [depthPairs] at hd
    by_cases hk : r.frames.length + k.depth ≤ nestingLimit
    · refine .blank (text_takes k hf.1.1 _ p r hk (ends_blank _)) fun p => ?_
      by_cases hv : r.frames.length + v.depth ≤ nestingLimit
      · refine .comma (text_takes v hf.1.2 _ p (r.push k) ?_ (ends_comma _)) fun p => ?_
        · rw [Reader.push_frames_length]
          exact hv
        · refine textPairs_refuses (e :: entries) hf.2 rest p ((r.push k).push v) ?_ ?_
          · rw [Reader.push_frames_length, Reader.push_frames_length]
            exact hr
          · rw [Reader.push_frames_length, Reader.push_frames_length]
            omega
      · refine .append (text_refuses v hf.1.2 _ p (r.push k) ?_ ?_)
        · rw [Reader.push_frames_length]
          exact hr
        · rw [Reader.push_frames_length]
          omega
    · exact .append (text_refuses k hf.1.1 _ p r hr (by omega))

end

end Form

/-! ## Reading what has been printed -/

/-- A scan begins with the tokens that can be read. -/
theorem Reads.scan_tokens {text : List Char} {c : Cursor} {ts : List (Token × Position)}
    (h : Reads (.ofText text) ts c) : ∃ rest, (scan text).tokens = ts ++ rest := by
  obtain ⟨fuel, hfuel⟩ : ∃ fuel, text.length + 1 = ts.length + (fuel + 1) := by
    have := h.length_le_length
    exact ⟨text.length - ts.length, by omega⟩
  rw [scan, hfuel, h.scanFrom_append, scanFrom_done, List.append_nil, List.reverse_reverse]
  exact ⟨_, rfl⟩

theorem Refuses.readForm_eq {text : List Char} (h : Refuses text [] .start .empty) :
    ∃ p, readForm (String.ofList text) = .error ⟨.tooDeep nestingLimit, p⟩ := by
  obtain ⟨ts, c, p, hts, hr⟩ := h
  rw [List.append_nil] at hts
  obtain ⟨rest, htokens⟩ := Reads.scan_tokens hts
  refine ⟨p, ?_⟩
  rw [readForm, readForms, readScan, String.toList_ofList, htokens, List.foldlM_append, hr]
  rfl

/-- The forms that have been read come from derivations with well-spelled tokens. -/
theorem exists_derivation_of_mem {source : String} {forms : List Form} {f : Form}
    (h : readForms source = .ok forms) (hf : f ∈ forms) :
    ∃ d : Derivation, d.form = f ∧ (∀ t ∈ d.tokens, t.WellSpelled) ∧
      (∀ t ∈ d.tokens, t ∈ (scan source.toList).tokens.map Prod.fst) ∧
      d.nesting (fun _ => true) ≤ nestingLimit ∧ d.nesting (· == .function) ≤ 1 := by
  obtain ⟨ps, p, hscan, hrun⟩ := readForms_eq_ok.1 h
  obtain ⟨ds, hroom, htokens, rfl⟩ := (Reader.HasRead.empty.run hrun).exists_derivations
  obtain ⟨d, hd, rfl⟩ := List.mem_map.1 hf
  rw [List.nil_append] at htokens
  have hmem : ∀ t ∈ d.tokens, t ∈ ps.map Prod.fst := by
    intro t ht
    rw [← htokens]
    exact List.mem_flatMap.2 ⟨d, hd, ht⟩
  have hspelled := (tokenizes_iff.2 ⟨ps, p, hscan, rfl⟩).wellSpelled
  refine ⟨d, rfl, fun t ht => hspelled t (hmem t ht), ?_, Derivation.Room.nil_iff.1 hroom d hd⟩
  rw [hscan]
  exact hmem

/-- A form that has been read is nested at most one level more deeply than the limit, and no more deeply
than the limit unless the source has a short function literal. Within the limit its text is read back to
the same form. Beyond the limit its text is refused, with the error for nesting. -/
theorem readForm_render_of_mem_readForms (source : String) (forms : List Form) (f : Form)
    (h : readForms source = .ok forms) (hf : f ∈ forms) :
    f.depth ≤ nestingLimit + 1 ∧
      (.openFunction ∉ (scan source.toList).tokens.map Prod.fst → f.depth ≤ nestingLimit) ∧
      (f.depth ≤ nestingLimit → readForm f.render = .ok f) ∧
      (nestingLimit < f.depth → ∃ p, readForm f.render = .error ⟨.tooDeep nestingLimit, p⟩) := by
  obtain ⟨d, rfl, hspelled, htokens, hb, hfunction⟩ := exists_derivation_of_mem h hf
  have hform := d.form_wellSpelled hspelled
  have hdepth := d.depth_form_le
  refine ⟨by omega, fun hnone => ?_, fun hle => ?_, fun hlt => ?_⟩
  · have := d.nesting_function_eq_zero fun hmem => hnone (htokens _ hmem)
    omega
  · refine (d.form.text_takes hform [] .start .empty ?_ .nil).readForm_eq
    exact (Nat.zero_add _).trans_le hle
  · refine (d.form.text_refuses hform [] .start .empty (Nat.zero_le _) ?_).readForm_eq
    exact hlt.trans_eq (Nat.zero_add _).symm

/-- A short function literal, whose placeholder is given a number. -/
theorem readForm_render_of_mem_readForms_short_function :
    ∃ f : Form, f = .list [.symbol "fn", .vector [.symbol "%1"], .list [.symbol "+", .symbol "%1"]] ∧
      readForms "#(+ %)" = .ok [f] ∧ f.depth ≤ nestingLimit ∧ readForm f.render = .ok f := by
  have hread : readForms "#(+ %)" = .ok [.list [.symbol "fn", .vector [.symbol "%1"],
    .list [.symbol "+", .symbol "%1"]]] := rfl
  have hf := readForm_render_of_mem_readForms _ _ _ hread List.mem_cons_self
  exact ⟨_, rfl, hread, by decide, hf.2.2.1 (by decide)⟩

/-! ## A form at the limit -/

namespace Derivation

/-- A short function literal with no body, in `n` square brackets. -/
def functionInVectors : Nat → Derivation
  | 0 => .function []
  | n + 1 => .vector [functionInVectors n]

/-- The text of the literal in brackets. -/
theorem text_functionInVectors (n : Nat) :
    (functionInVectors n).tokens.flatMap Token.text =
      List.replicate n '[' ++ "#()".toList ++ List.replicate n ']' := by
  induction n with
  | zero => rfl
  | succ n ih =>
    simp only [functionInVectors, tokens, tokensAll, List.append_nil, List.flatMap_cons,
      List.flatMap_append, ih, List.flatMap_nil]
    rw [List.replicate_succ, List.replicate_succ']
    simp [Token.text, Token.openingChar, Token.closingChar]

theorem isWord_functionInVectors (n : Nat) :
    ∀ t ∈ (functionInVectors n).tokens, t.WellSpelled ∧ t.isWord = false := by
  induction n with
  | zero =>
    intro t ht
    simp only [functionInVectors, tokens, tokensAll, List.nil_append, List.mem_cons, List.not_mem_nil,
      or_false] at ht
    rcases ht with rfl | rfl <;> exact ⟨trivial, rfl⟩
  | succ n ih =>
    intro t ht
    simp only [functionInVectors, tokens, tokensAll, List.append_nil, List.mem_cons, List.mem_append,
      List.not_mem_nil, or_false] at ht
    rcases ht with rfl | ht | rfl
    · exact ⟨trivial, rfl⟩
    · exact ih t ht
    · exact ⟨trivial, rfl⟩

/-- Every bracket counts, and one of them opens a short function. -/
theorem nesting_functionInVectors (n : Nat) :
    (functionInVectors n).nesting (fun _ => true) = n + 1 ∧
      (functionInVectors n).nesting (· == .function) = 1 := by
  induction n with
  | zero => decide
  | succ n ih => simp [functionInVectors, nesting, nestingAll, ih]

/-- The function that is read has one level more than its literal, which is that of its parameters. -/
theorem depth_functionInVectors (n : Nat) : (functionInVectors n).form.depth = n + 2 := by
  induction n with
  | zero => rfl
  | succ n ih => simp [functionInVectors, form, formAll, Form.depth, Form.depthAll, ih]

end Derivation

/-- The texts of tokens that end by themselves, one after the other, are read as these tokens. -/
theorem tokenizes_flatMap_text {ts : List Token} (h : ∀ t ∈ ts, t.WellSpelled ∧ t.isWord = false) :
    ∀ p : Position, Tokenizes ⟨ts.flatMap Token.text, p⟩ ts := by
  induction ts with
  | nil => exact fun p => .finish rfl
  | cons t ts ih =>
    intro p
    obtain ⟨⟨ht, hword⟩, hts⟩ := List.forall_mem_cons.1 h
    have hends : t.isWord = true → Token.Ends (ts.flatMap Token.text) := by simp [hword]
    exact .token (Token.nextToken_text ht hends p) (ih hts _)

/-- The tokens of a derivation that has room give its form. -/
theorem Derivation.Room.readForms_eq {source : String} {d : Derivation} (hroom : Room [] [d])
    (h : Tokenizes (.ofText source.toList) d.tokens) : readForms source = .ok [d.form] := by
  obtain ⟨ps, p, hscan, hps⟩ := tokenizes_iff.1 h
  exact readForms_eq_ok.2 ⟨ps, p, hscan, d.leads .empty hroom ps hps⟩

/-- In 511 square brackets a short function literal can be read, and the text of what has been read
cannot. -/
theorem readForm_render_of_short_function_at_limit :
    ∃ f : Form,
      readForms (String.ofList (List.replicate 511 '[' ++ "#()".toList ++ List.replicate 511 ']')) =
        .ok [f] ∧ ∃ p, readForm f.render = .error ⟨.tooDeep nestingLimit, p⟩ := by
  have hspelled := Derivation.isWord_functionInVectors 511
  obtain ⟨hbrackets, hfunctions⟩ := Derivation.nesting_functionInVectors 511
  refine ⟨(Derivation.functionInVectors 511).form, Derivation.Room.readForms_eq ?_ ?_, ?_⟩
  · refine Derivation.Room.nil_iff.2 (List.forall_mem_singleton.2 ?_)
    rw [hbrackets, hfunctions]
    decide
  · rw [String.toList_ofList, ← Derivation.text_functionInVectors]
    exact tokenizes_flatMap_text hspelled .start
  · have hform := Derivation.form_wellSpelled _ fun t ht => (hspelled t ht).1
    refine (Form.text_refuses _ hform [] .start .empty (Nat.zero_le _) ?_).readForm_eq
    rw [Derivation.depth_functionInVectors]
    decide

end ToolLisp
