import ToolLisp.Form.Read
import ToolLisp.Proofs.Scanning

/-!
# Printed forms read back

A form whose names are spelled as names and whose brackets are not nested too deeply is read back from
its printed text (`readForm_render`). Only the sign of NaN is not printed.

The text of a form is a text of tokens with blanks and commas between some of them. Wherever the reader
stands and whatever follows, such a text adds the form to what has been read (`Form.text_takes`). This is
an induction on forms; the bracket around a form opens a frame, and the forms inside are added there.
-/

namespace ToolLisp

namespace Form

/-! ## Depth and spelling -/

mutual

/-- How deeply the brackets of a form are nested. -/
def depth : Form → Nat
  | .list items => depthAll items + 1
  | .vector items => depthAll items + 1
  | .map entries => depthPairs entries + 1
  | _ => 0

/-- How deeply the brackets of some forms are nested. -/
def depthAll : List Form → Nat
  | [] => 0
  | f :: rest => max (depth f) (depthAll rest)

/-- How deeply the brackets of some pairs of forms are nested. -/
def depthPairs : List (Form × Form) → Nat
  | [] => 0
  | (k, v) :: rest => max (max (depth k) (depth v)) (depthPairs rest)

end

mutual

/-- The names in a form are spelled as names, no symbol is spelled like a literal, and no number is NaN with
the sign bit set, which has no spelling. -/
def WellSpelled : Form → Prop
  | .number n => (Token.number n).WellSpelled
  | .keyword name => (Token.keyword name).WellSpelled
  | .symbol name => (Token.symbol name).WellSpelled ∧ name ∉ ["nil", "true", "false"]
  | .qualified ns name => (Token.qualified ns name).WellSpelled
  | .list items => WellSpelledAll items
  | .vector items => WellSpelledAll items
  | .map entries => WellSpelledPairs entries
  | _ => True

/-- The names in some forms are spelled as names. -/
def WellSpelledAll : List Form → Prop
  | [] => True
  | f :: rest => WellSpelled f ∧ WellSpelledAll rest

/-- The names in some pairs of forms are spelled as names. -/
def WellSpelledPairs : List (Form × Form) → Prop
  | [] => True
  | (k, v) :: rest => (WellSpelled k ∧ WellSpelled v) ∧ WellSpelledPairs rest

end

mutual

/-- The spelling of the names in a form can be checked. -/
def decideWellSpelled : (f : Form) → Decidable f.WellSpelled
  | .number n => inferInstanceAs (Decidable (Token.number n).WellSpelled)
  | .keyword name => inferInstanceAs (Decidable (Token.keyword name).WellSpelled)
  | .symbol name =>
    inferInstanceAs (Decidable ((Token.symbol name).WellSpelled ∧ name ∉ ["nil", "true", "false"]))
  | .qualified ns name => inferInstanceAs (Decidable (Token.qualified ns name).WellSpelled)
  | .list items => decideWellSpelledAll items
  | .vector items => decideWellSpelledAll items
  | .map entries => decideWellSpelledPairs entries
  | .nil | .bool _ | .string _ => .isTrue trivial

/-- The spelling of the names in some forms can be checked. -/
def decideWellSpelledAll : (items : List Form) → Decidable (WellSpelledAll items)
  | [] => .isTrue trivial
  | f :: rest => @instDecidableAnd _ _ (decideWellSpelled f) (decideWellSpelledAll rest)

/-- The spelling of the names in some pairs of forms can be checked. -/
def decideWellSpelledPairs : (entries : List (Form × Form)) → Decidable (WellSpelledPairs entries)
  | [] => .isTrue trivial
  | (k, v) :: rest =>
    @instDecidableAnd _ _ (@instDecidableAnd _ _ (decideWellSpelled k) (decideWellSpelled v))
      (decideWellSpelledPairs rest)

end

instance (f : Form) : Decidable f.WellSpelled := decideWellSpelled f

/-- The elements of pairs, one after the other. -/
def flatten {α : Type} (entries : List (α × α)) : List α :=
  entries.flatMap fun e => [e.1, e.2]

/-- Pairs that are flattened and taken apart again. -/
theorem pairs_flatten {α : Type} (entries : List (α × α)) : pairs (flatten entries) = entries := by
  induction entries with
  | nil => rfl
  | cons e rest ih => exact congrArg (e :: ·) ih

/-- Elements of which there is an even number are those of their pairs. -/
theorem flatten_pairs {α : Type} : ∀ {xs : List α}, xs.length % 2 = 0 → flatten (pairs xs) = xs
  | [], _ => rfl
  | a :: b :: rest, h => by
    rw [List.length_cons, List.length_cons] at h
    exact congrArg (a :: b :: ·) (flatten_pairs (by omega))

theorem length_flatten {α : Type} (entries : List (α × α)) :
    (flatten entries).length = 2 * entries.length := by
  induction entries with
  | nil => rfl
  | cons e rest ih =>
    have : (flatten (e :: rest)).length = (flatten rest).length + 2 := rfl
    rw [this, ih, List.length_cons]
    omega

end Form

/-! ## The reader on texts -/

namespace Reader

/-- Adds forms where the reader stands, one after the other. -/
def pushAll (r : Reader) (forms : List Form) : Reader :=
  forms.foldl push r

theorem push_frames_length (r : Reader) (f : Form) : (r.push f).frames.length = r.frames.length := by
  rcases r with ⟨_ | ⟨frame, outer⟩, forms⟩
  · rfl
  · rfl

/-- Inside a bracket, forms are added to its frame. -/
theorem pushAll_frame (forms : List Form) :
    ∀ (o : Opener) (p : Position) (items : List Form) (outer : List Frame) (read : List Form),
      pushAll ⟨⟨o, p, items⟩ :: outer, read⟩ forms =
        ⟨⟨o, p, forms.reverse ++ items⟩ :: outer, read⟩ := by
  induction forms with
  | nil =>
    intro o p items outer read
    rfl
  | cons f forms ih =>
    intro o p items outer read
    rw [List.reverse_cons, List.append_assoc]
    exact ih o p (f :: items) outer read

end Reader

/-- The text, which stands at `p` before `rest`, takes the reader from the state `r` to the state `r'`. -/
def Takes (text rest : List Char) (p : Position) (r r' : Reader) : Prop :=
  ∃ ts, Reads ⟨text ++ rest, p⟩ ts ⟨rest, p.afterAll text⟩ ∧ ts.foldlM Reader.step r = .ok r'

namespace Takes

/-- A text is taken part by part. -/
theorem append {a b rest : List Char} {p : Position} {r r' r'' : Reader}
    (ha : Takes a (b ++ rest) p r r') (hb : Takes b rest (p.afterAll a) r' r'') :
    Takes (a ++ b) rest p r r'' := by
  obtain ⟨ts, hts, hr⟩ := ha
  obtain ⟨ts', hts', hr'⟩ := hb
  refine ⟨ts ++ ts', ?_, ?_⟩
  · rw [List.append_assoc, Token.afterAll_append]
    exact hts.trans hts'
  · rw [List.foldlM_append, hr]
    exact hr'

/-- A token that can be spelled is taken if nothing after it belongs to it. -/
theorem token {t : Token} (ht : t.WellSpelled) {rest : List Char}
    (hr : t.isWord = true → Token.Ends rest) {p : Position} {r r' : Reader}
    (hstep : r.step (t, p) = .ok r') : Takes t.text rest p r r' := by
  refine ⟨[(t, p)], .text ht hr p, ?_⟩
  rw [List.foldlM_cons, hstep]
  rfl

theorem layout {c : Char} (h : Token.isLayout c = true) (rest : List Char) (p : Position)
    (r : Reader) : Takes [c] rest p r r :=
  ⟨[], .layoutChar h rest p, rfl⟩

/-- A blank separates two texts. -/
theorem blank {a b rest : List Char} {p : Position} {r r' r'' : Reader}
    (ha : Takes a (' ' :: (b ++ rest)) p r r') (hb : ∀ p, Takes b rest p r' r'') :
    Takes (a ++ ' ' :: b) rest p r r'' :=
  ha.append ((layout (by decide) _ _ _).append (hb _))

theorem comma {a b rest : List Char} {p : Position} {r r' r'' : Reader}
    (ha : Takes a (',' :: ' ' :: (b ++ rest)) p r r') (hb : ∀ p, Takes b rest p r' r'') :
    Takes (a ++ ',' :: ' ' :: b) rest p r r'' :=
  ha.append (blank (layout (by decide) _ _ _) hb)

/-- Brackets around a text that gives the forms `items` give one form. -/
theorem bracket (items : List Form) {b : Bracket} {inner rest : List Char} {p : Position} {f : Form}
    {r : Reader} (hdepth : r.frames.length < nestingLimit)
    (hinner : ∀ r' : Reader, r'.frames.length = r.frames.length + 1 →
      Takes inner (Token.closingChar b :: rest) (p.after (Token.openingChar b)) r' (r'.pushAll items))
    (hclose : Reader.closeFrame ⟨.bracket b, p, items.reverse⟩ = .ok f) :
    Takes (Token.openingChar b :: (inner ++ [Token.closingChar b])) rest p r (r.push f) := by
  have hopen : r.step (.opening b, p) = .ok ⟨⟨.bracket b, p, []⟩ :: r.frames, r.forms⟩ := by
    simp only [Reader.step, Reader.openWith]
    rw [if_neg (by simp), if_neg (by omega)]
  have hitems := hinner ⟨⟨.bracket b, p, []⟩ :: r.frames, r.forms⟩ rfl
  rw [Reader.pushAll_frame, List.append_nil] at hitems
  -- the closing bracket finds the frame that the opening one made, with all items in it
  refine (token (t := .opening b) trivial (by simp [Token.isWord]) hopen).append
    (hitems.append (token (t := .closing b) trivial (by simp [Token.isWord]) ?_))
  simp only [Reader.step, Reader.closeWith, Opener.closer, if_true, hclose]

end Takes

/-! ## Texts of forms -/

namespace Form

theorem ofSymbol_eq {name : String} (h : name ∉ ["nil", "true", "false"]) :
    Reader.ofSymbol name = .symbol name := by
  simp only [List.mem_cons, List.not_mem_nil, or_false, not_or] at h
  simp only [Reader.ofSymbol, h, if_false]

theorem ends_blank (rest : List Char) : Token.Ends (' ' :: rest) :=
  .cons (by decide) rest

theorem ends_comma (rest : List Char) : Token.Ends (',' :: rest) :=
  .cons (by decide) rest

theorem ends_closing (b : Bracket) (rest : List Char) : Token.Ends (Token.closingChar b :: rest) :=
  .cons (by cases b <;> decide) rest

mutual

/-- Wherever the reader stands, the text of a form adds the form. -/
theorem text_takes : ∀ (f : Form), f.WellSpelled → ∀ (rest : List Char) (p : Position) (r : Reader),
    r.frames.length + f.depth ≤ nestingLimit → Token.Ends rest → Takes f.text rest p r (r.push f)
  | .nil, _, rest, p, r, _, hr =>
    .token (t := .symbol "nil") (by decide) (fun _ => hr) rfl
  | .bool true, _, rest, p, r, _, hr =>
    .token (t := .symbol "true") (by decide) (fun _ => hr) rfl
  | .bool false, _, rest, p, r, _, hr =>
    .token (t := .symbol "false") (by decide) (fun _ => hr) rfl
  | .number n, hf, rest, p, r, _, hr => .token (t := .number n) hf (fun _ => hr) rfl
  | .string s, _, rest, p, r, _, hr => .token (t := .string s) trivial (fun _ => hr) rfl
  | .keyword name, hf, rest, p, r, _, hr => .token (t := .keyword name) hf (fun _ => hr) rfl
  | .symbol name, hf, rest, p, r, _, hr => by
    refine .token (t := .symbol name) hf.1 (fun _ => hr) ?_
    simp only [Reader.step, ofSymbol_eq hf.2]
  | .qualified ns name, hf, rest, p, r, _, hr =>
    .token (t := .qualified ns name) hf (fun _ => hr) rfl
  | .list items, hf, rest, p, r, hd, hr => by
    rw [depth] at hd
    refine .bracket items (b := .round) (by omega) (fun r' hr' => ?_) ?_
    · exact textAll_takes items hf _ _ r' (by omega) (ends_closing .round rest)
    · simp only [Reader.closeFrame, List.reverse_reverse]
  | .vector items, hf, rest, p, r, hd, hr => by
    rw [depth] at hd
    refine .bracket items (b := .square) (by omega) (fun r' hr' => ?_) ?_
    · exact textAll_takes items hf _ _ r' (by omega) (ends_closing .square rest)
    · simp only [Reader.closeFrame, List.reverse_reverse]
  | .map entries, hf, rest, p, r, hd, hr => by
    rw [depth] at hd
    refine .bracket (flatten entries) (b := .curly) (by omega) (fun r' hr' => ?_) ?_
    · exact textPairs_takes entries hf _ _ r' (by omega) (ends_closing .curly rest)
    · simp only [Reader.closeFrame, List.reverse_reverse, length_flatten, pairs_flatten,
        Nat.mul_mod_right, if_true]

/-- Forms with blanks between them are added one after the other. -/
theorem textAll_takes : ∀ (items : List Form), WellSpelledAll items →
    ∀ (rest : List Char) (p : Position) (r : Reader),
      r.frames.length + depthAll items ≤ nestingLimit → Token.Ends rest →
        Takes (textAll items) rest p r (r.pushAll items)
  | [], _, rest, p, r, _, _ => ⟨[], .refl _, rfl⟩
  | [f], hf, rest, p, r, hd, hr => by
    rw [depthAll] at hd
    exact text_takes f hf.1 rest p r (by omega) hr
  | f :: g :: items, hf, rest, p, r, hd, hr => by
    rw [depthAll] at hd
    refine .blank (text_takes f hf.1 _ p r (by omega) (ends_blank _)) fun p => ?_
    refine textAll_takes (g :: items) hf.2 rest p (r.push f) ?_ hr
    rw [Reader.push_frames_length]
    omega

/-- Pairs of forms with commas between them are added one after the other. -/
theorem textPairs_takes : ∀ (entries : List (Form × Form)), WellSpelledPairs entries →
    ∀ (rest : List Char) (p : Position) (r : Reader),
      r.frames.length + depthPairs entries ≤ nestingLimit → Token.Ends rest →
        Takes (textPairs entries) rest p r (r.pushAll (flatten entries))
  | [], _, rest, p, r, _, _ => ⟨[], .refl _, rfl⟩
  | [(k, v)], hf, rest, p, r, hd, hr => by
    rw [depthPairs] at hd
    refine .blank (text_takes k hf.1.1 _ p r (by omega) (ends_blank _)) fun p => ?_
    refine text_takes v hf.1.2 rest p (r.push k) ?_ hr
    rw [Reader.push_frames_length]
    omega
  | (k, v) :: e :: entries, hf, rest, p, r, hd, hr => by
    rw [depthPairs] at hd
    refine .blank (text_takes k hf.1.1 _ p r (by omega) (ends_blank _)) fun p => ?_
    refine .comma (text_takes v hf.1.2 _ p (r.push k) ?_ (ends_comma _)) fun p => ?_
    · rw [Reader.push_frames_length]
      omega
    · refine textPairs_takes (e :: entries) hf.2 rest p ((r.push k).push v) ?_ hr
      rw [Reader.push_frames_length, Reader.push_frames_length]
      omega

end

end Form

/-! ## Reading back -/

/-- A text that adds one form to an empty reader is read as that form. -/
theorem Takes.readForms_eq {text : List Char} {f : Form}
    (h : Takes text [] .start .empty (Reader.empty.push f)) :
    readForms (String.ofList text) = .ok [f] := by
  obtain ⟨ts, hts, hr⟩ := h
  rw [List.append_nil] at hts
  have hscan : scan text = ⟨ts, .ok (Position.start.afterAll text)⟩ := hts.scan_eq rfl
  unfold readForms readScan
  rw [String.toList_ofList, hscan]
  simp only [hr]
  rfl

/-- A text that is taken as one form is read as this form. -/
theorem Takes.readForm_eq {text : List Char} {f : Form}
    (h : Takes text [] .start .empty (Reader.empty.push f)) :
    readForm (String.ofList text) = .ok f := by
  rw [readForm, h.readForms_eq]

namespace Form

/-! ## The sign of NaN -/

mutual

/-- The form without the signs of NaNs. -/
def unsigned : Form → Form
  | .number n => .number n.unsigned
  | .list items => .list (unsignedAll items)
  | .vector items => .vector (unsignedAll items)
  | .map entries => .map (unsignedPairs entries)
  | f => f

/-- Forms without the signs of NaNs. -/
def unsignedAll : List Form → List Form
  | [] => []
  | f :: rest => unsigned f :: unsignedAll rest

/-- Pairs of forms without the signs of NaNs. -/
def unsignedPairs : List (Form × Form) → List (Form × Form)
  | [] => []
  | (k, v) :: rest => (unsigned k, unsigned v) :: unsignedPairs rest

end

mutual

/-- The sign of NaN is not printed. -/
theorem text_unsigned : ∀ f : Form, f.unsigned.text = f.text
  | .number n => n.text_unsigned
  | .list items => by rw [unsigned, text, text, textAll_unsigned items]
  | .vector items => by rw [unsigned, text, text, textAll_unsigned items]
  | .map entries => by rw [unsigned, text, text, textPairs_unsigned entries]
  | .nil | .bool _ | .string _ | .keyword _ | .symbol _ | .qualified _ _ => rfl

theorem textAll_unsigned : ∀ items : List Form, textAll (unsignedAll items) = textAll items
  | [] => rfl
  | [f] => by
    rw [unsignedAll, unsignedAll, textAll, textAll]
    exact text_unsigned f
  | f :: g :: rest => by
    have hrest := textAll_unsigned (g :: rest)
    change text (unsigned f) ++ ' ' :: textAll (unsignedAll (g :: rest)) = text f ++ ' ' :: textAll (g :: rest)
    rw [text_unsigned f, hrest]

theorem textPairs_unsigned : ∀ entries : List (Form × Form),
    textPairs (unsignedPairs entries) = textPairs entries
  | [] => rfl
  | [(k, v)] => by
    rw [unsignedPairs, unsignedPairs, textPairs, textPairs, text_unsigned k, text_unsigned v]
  | (k, v) :: (l, w) :: rest => by
    have hrest := textPairs_unsigned ((l, w) :: rest)
    change text (unsigned k) ++ ' ' :: (text (unsigned v) ++ ',' :: ' ' ::
        textPairs (unsignedPairs ((l, w) :: rest))) =
      text k ++ ' ' :: (text v ++ ',' :: ' ' :: textPairs ((l, w) :: rest))
    rw [text_unsigned k, text_unsigned v, hrest]

end

mutual

/-- The sign of a number does not nest forms. -/
theorem depth_unsigned : ∀ f : Form, f.unsigned.depth = f.depth
  | .list items => by rw [unsigned, depth, depth, depthAll_unsigned items]
  | .vector items => by rw [unsigned, depth, depth, depthAll_unsigned items]
  | .map entries => by rw [unsigned, depth, depth, depthPairs_unsigned entries]
  | .nil | .bool _ | .number _ | .string _ | .keyword _ | .symbol _ | .qualified _ _ => rfl

theorem depthAll_unsigned : ∀ items : List Form, depthAll (unsignedAll items) = depthAll items
  | [] => rfl
  | f :: rest => by rw [unsignedAll, depthAll, depthAll, depth_unsigned f, depthAll_unsigned rest]

theorem depthPairs_unsigned : ∀ entries : List (Form × Form),
    depthPairs (unsignedPairs entries) = depthPairs entries
  | [] => rfl
  | (k, v) :: rest => by
    rw [unsignedPairs, depthPairs, depthPairs, depth_unsigned k, depth_unsigned v, depthPairs_unsigned rest]

end

mutual

/-- Equality of forms does not see the sign of NaN. -/
theorem equal_unsigned : ∀ f : Form, f.unsigned.equal f = true
  | .number n => n.unsigned_sameKindEq
  | .list items => equalAll_unsigned items
  | .vector items => equalAll_unsigned items
  | .map entries => equalPairs_unsigned entries
  | .nil => rfl
  | .bool b => beq_self_eq_true b
  | .string s => beq_self_eq_true s
  | .keyword name => beq_self_eq_true name
  | .symbol name => beq_self_eq_true name
  | .qualified ns name => by
    rw [unsigned, equal, beq_self_eq_true, beq_self_eq_true]
    · rfl
    all_goals exact nofun

theorem equalAll_unsigned : ∀ items : List Form, equalAll (unsignedAll items) items = true
  | [] => rfl
  | f :: rest => by
    rw [unsignedAll, equalAll, equal_unsigned f, equalAll_unsigned rest]
    rfl

theorem equalPairs_unsigned : ∀ entries : List (Form × Form),
    equalPairs (unsignedPairs entries) entries = true
  | [] => rfl
  | (k, v) :: rest => by
    rw [unsignedPairs, equalPairs, equal_unsigned k, equal_unsigned v, equalPairs_unsigned rest]
    rfl

end

mutual

/-- A form in which all numbers have a spelling has no sign of NaN. -/
theorem unsigned_of_wellSpelled : ∀ {f : Form}, f.WellSpelled → f.unsigned = f
  | .number _, h => congrArg Form.number (Number.unsigned_of_regular h)
  | .list _, h => congrArg Form.list (unsignedAll_of_wellSpelled h)
  | .vector _, h => congrArg Form.vector (unsignedAll_of_wellSpelled h)
  | .map _, h => congrArg Form.map (unsignedPairs_of_wellSpelled h)
  | .nil, _ | .bool _, _ | .string _, _ | .keyword _, _ | .symbol _, _ | .qualified _ _, _ => rfl

theorem unsignedAll_of_wellSpelled : ∀ {items : List Form}, WellSpelledAll items → unsignedAll items = items
  | [], _ => rfl
  | f :: rest, h => by rw [unsignedAll, unsigned_of_wellSpelled h.1, unsignedAll_of_wellSpelled h.2]

theorem unsignedPairs_of_wellSpelled : ∀ {entries : List (Form × Form)}, WellSpelledPairs entries →
    unsignedPairs entries = entries
  | [], _ => rfl
  | (k, v) :: rest, h => by
    rw [unsignedPairs, unsigned_of_wellSpelled h.1.1, unsigned_of_wellSpelled h.1.2,
      unsignedPairs_of_wellSpelled h.2]

end

end Form

/-- A form is read back from its printed text, if its brackets are nested no more deeply than the reader
allows and its names are spelled as names. Strings and numbers may be any; only the sign of NaN is lost, which
equality of forms does not see. So what is read is equal to the form, and it is the form itself if no NaN in it
has a sign. -/
theorem readForm_render (f : Form) (hdepth : f.depth ≤ nestingLimit) (hf : f.unsigned.WellSpelled) :
    readForm f.render = .ok f.unsigned ∧ f.unsigned.equal f = true ∧ (f.WellSpelled → f.unsigned = f) := by
  have hrender : f.render = f.unsigned.render := congrArg String.ofList f.text_unsigned.symm
  refine ⟨?_, f.equal_unsigned, Form.unsigned_of_wellSpelled⟩
  rw [hrender]
  refine (f.unsigned.text_takes hf [] .start .empty ?_ .nil).readForm_eq
  simpa [Reader.empty, f.depth_unsigned] using hdepth

/-- A list of names, numbers and strings that are hard to tell apart or to write, and a map with brackets
in its keys. -/
theorem readForm_render_of_hard_atoms :
    ∃ f : Form, f = .list [.symbol "/", .symbol "-", .symbol "+.5", .symbol "é?", .qualified "-" "1",
        .keyword "1", .number (.int Int64.minValue), .number (.float (.nan true)),
        .number (.float (.infinity true)), .number (.float (.ofMagnitude true 0)), .string "\"\\\n\t;",
        .map [(.vector [.nil, .list []], .bool true), (.string "", .map [])]] ∧
      f.depth ≤ nestingLimit ∧ f.unsigned.WellSpelled ∧
      readForm f.render = .ok f.unsigned ∧ f.unsigned.equal f = true := by
  let f : Form := .list [.symbol "/", .symbol "-", .symbol "+.5", .symbol "é?", .qualified "-" "1",
    .keyword "1", .number (.int Int64.minValue), .number (.float (.nan true)),
    .number (.float (.infinity true)), .number (.float (.ofMagnitude true 0)), .string "\"\\\n\t;",
    .map [(.vector [.nil, .list []], .bool true), (.string "", .map [])]]
  have hdepth : f.depth ≤ nestingLimit := by decide
  have hspelled : f.unsigned.WellSpelled := by decide +kernel
  obtain ⟨hread, hequal, -⟩ := readForm_render f hdepth hspelled
  exact ⟨f, rfl, hdepth, hspelled, hread, hequal⟩

end ToolLisp
