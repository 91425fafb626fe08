import ToolLisp.Proofs.PrintedForms

/-!
# The grammar of forms

A `Derivation` says how a form is made up of tokens: it is a single token, or brackets around
derivations. The reader accepts exactly the texts whose tokens have derivations that are not nested too
deeply, and gives their forms (`readForms_eq_ok_iff`).

That it accepts them is an induction on derivations: wherever the reader stands, the tokens of a
derivation add its form (`Derivation.leads`). That it accepts nothing else is an invariant of the reader:
what it has read are whole derivations, outside all brackets and inside each open one
(`Reader.HasRead.step`).
-/

namespace ToolLisp

/-! ## Tokens of a text -/

/-- Reading one token after the other from `c` up to the end of the text gives the tokens `ts`. -/
inductive Tokenizes : Cursor → List Token → Prop
  | finish {c : Cursor} {p : Position} : nextToken c = .ok (.finish p) → Tokenizes c []
  | token {c c' : Cursor} {t : Token} {p : Position} {ts : List Token} :
    nextToken c = .ok (.token t p c') → Tokenizes c' ts → Tokenizes c (t :: ts)

theorem Tokenizes.reads {c : Cursor} {ts : List Token} (h : Tokenizes c ts) :
    ∃ ps c' p, Reads c ps c' ∧ nextToken c' = .ok (.finish p) ∧ ps.map Prod.fst = ts := by
  induction h with
  | @finish c p hc => exact ⟨[], c, p, .refl c, hc, rfl⟩
  | @token c c' t p ts ht _ ih =>
    obtain ⟨ps, c'', q, hreads, hfinish, rfl⟩ := ih
    exact ⟨(t, p) :: ps, c'', q, .token ht hreads, hfinish, rfl⟩

/-- A scan that may take more turns than there are characters gives all tokens, if there is no error. -/
theorem tokenizes_of_scanFrom {p : Position} :
    ∀ {fuel : Nat} {c : Cursor} {done ps : List (Token × Position)}, c.rest.length < fuel →
      scanFrom done c fuel = ⟨ps, .ok p⟩ →
      ∃ rest, ps = done.reverse ++ rest ∧ Tokenizes c (rest.map Prod.fst)
  | fuel + 1, c, done, ps, hfuel, h => by
    rw [scanFrom] at h
    split at h
    case h_1 => simp at h
    case h_2 hnext =>
      simp only [Scan.mk.injEq] at h
      exact ⟨[], by rw [← h.1, List.append_nil], .finish hnext⟩
    case h_3 t q c' hnext =>
      -- the token takes a character, so one turn less is enough for what follows it
      obtain ⟨-, text, hne, hmoves⟩ := nextToken_moves hnext
      obtain ⟨layout, hlayout⟩ := Token.skipLayout_moves c
      have hpos := List.length_pos_of_ne_nil hne
      have h₁ := hmoves.length
      have h₂ := hlayout.length
      obtain ⟨rest, rfl, hrest⟩ := tokenizes_of_scanFrom (by omega) h
      exact ⟨(t, q) :: rest, by rw [List.reverse_cons, List.append_assoc]; rfl, .token hnext hrest⟩

/-- The tokens of a text are what the scanner reads to its end. -/
theorem tokenizes_iff {text : List Char} {ts : List Token} :
    Tokenizes (.ofText text) ts ↔ ∃ ps p, scan text = ⟨ps, .ok p⟩ ∧ ps.map Prod.fst = ts := by
  constructor
  · intro h
    obtain ⟨ps, c, p, hreads, hfinish, hps⟩ := h.reads
    exact ⟨ps, p, hreads.scan_eq hfinish, hps⟩
  · rintro ⟨ps, p, hscan, rfl⟩
    obtain ⟨rest, rfl, hrest⟩ := tokenizes_of_scanFrom (Nat.lt_succ_self _) hscan
    exact hrest

/-! ## Derivations -/

/-- The form of a token that is a form by itself. -/
def Token.form? : Token → Option Form
  | .symbol name => some (Reader.ofSymbol name)
  | .qualified ns name => some (.qualified ns name)
  | .keyword name => some (.keyword name)
  | .number n => some (.number n)
  | .string s => some (.string s)
  | .opening _ | .closing _ | .openFunction => none

/-- The token that opens a bracket. -/
def Opener.token : Opener → Token
  | .bracket b => .opening b
  | .function => .openFunction

/-- How a form is made up of tokens. -/
inductive Derivation where
  /-- A token that is a form by itself. -/
  | atom (t : Token) (f : Form) (h : t.form? = some f)
  /-- Forms in round brackets. -/
  | list (items : List Derivation)
  /-- Forms in square brackets. -/
  | vector (items : List Derivation)
  /-- Pairs of forms in curly brackets. -/
  | map (entries : List (Derivation × Derivation))
  /-- Forms in the brackets of a short function literal. -/
  | function (body : List Derivation)

namespace Derivation

mutual

/-- The tokens of a derivation. -/
def tokens : Derivation → List Token
  | .atom t _ _ => [t]
  | .list items => .opening .round :: (tokensAll items ++ [.closing .round])
  | .vector items => .opening .square :: (tokensAll items ++ [.closing .square])
  | .map entries => .opening .curly :: (tokensPairs entries ++ [.closing .curly])
  | .function body => .openFunction :: (tokensAll body ++ [.closing .round])

/-- The tokens of derivations, one after the other. -/
def tokensAll : List Derivation → List Token
  | [] => []
  | d :: rest => tokens d ++ tokensAll rest

/-- The tokens of pairs of derivations, one after the other. -/
def tokensPairs : List (Derivation × Derivation) → List Token
  | [] => []
  | (k, v) :: rest => tokens k ++ (tokens v ++ tokensPairs rest)

end

mutual

/-- The form that is derived. -/
def form : Derivation → Form
  | .atom _ f _ => f
  | .list items => .list (formAll items)
  | .vector items => .vector (formAll items)
  | .map entries => .map (formPairs entries)
  | .function body => .ofShortFunction (formAll body)

/-- The forms that are derived. -/
def formAll : List Derivation → List Form
  | [] => []
  | d :: rest => form d :: formAll rest

/-- The pairs of forms that are derived. -/
def formPairs : List (Derivation × Derivation) → List (Form × Form)
  | [] => []
  | (k, v) :: rest => (form k, form v) :: formPairs rest

end

section

variable (counts : Opener → Bool)

mutual

/-- How deeply brackets of the kinds that count are nested in a derivation. -/
def nesting : Derivation → Nat
  | .atom .. => 0
  | .list items => nestingAll items + (counts (.bracket .round)).toNat
  | .vector items => nestingAll items + (counts (.bracket .square)).toNat
  | .map entries => nestingPairs entries + (counts (.bracket .curly)).toNat
  | .function body => nestingAll body + (counts .function).toNat

/-- How deeply they are nested in some derivations. -/
def nestingAll : List Derivation → Nat
  | [] => 0
  | d :: rest => max (nesting d) (nestingAll rest)

/-- How deeply they are nested in some pairs of derivations. -/
def nestingPairs : List (Derivation × Derivation) → Nat
  | [] => 0
  | (k, v) :: rest => max (nesting k) (max (nesting v) (nestingPairs rest))

end

end

/-! ## Brackets around derivations -/

/-- The derivation `d` is a bracket around the derivations `items`. -/
inductive Node : Opener → List Derivation → Derivation → Prop
  | list (items : List Derivation) : Node (.bracket .round) items (.list items)
  | vector (items : List Derivation) : Node (.bracket .square) items (.vector items)
  | map (entries : List (Derivation × Derivation)) :
    Node (.bracket .curly) (Form.flatten entries) (.map entries)
  | function (body : List Derivation) : Node .function body (.function body)

/-- Induction on derivations, in which all brackets are one case. -/
@[elab_as_elim]
theorem nodeInduction {P : Derivation → Prop} (atom : ∀ t f h, P (.atom t f h))
    (node : ∀ {o items d}, Node o items d → (∀ e ∈ items, P e) → P d) (d : Derivation) : P d := by
  refine @Derivation.rec P (fun items => ∀ e ∈ items, P e)
    (fun entries => ∀ e ∈ Form.flatten entries, P e) (fun e => P e.1 ∧ P e.2) atom
    (fun items => node (.list items)) (fun items => node (.vector items))
    (fun entries => node (.map entries)) (fun body => node (.function body)) nofun ?_ nofun ?_ ?_ d
  · exact fun d rest hd hrest => List.forall_mem_cons.2 ⟨hd, hrest⟩
  · exact fun e rest he hrest =>
      List.forall_mem_cons.2 ⟨he.1, List.forall_mem_cons.2 ⟨he.2, hrest⟩⟩
  · exact fun k v hk hv => ⟨hk, hv⟩

/-- The tokens of several derivations come one after the other. -/
theorem tokensAll_eq (ds : List Derivation) : tokensAll ds = ds.flatMap tokens := by
  induction ds with
  | nil => rfl
  | cons d rest ih => rw [tokensAll, ih, List.flatMap_cons]

theorem tokensPairs_eq (entries : List (Derivation × Derivation)) :
    tokensPairs entries = (Form.flatten entries).flatMap tokens := by
  induction entries with
  | nil => rfl
  | cons e rest ih =>
    rw [tokensPairs, ih]
    rfl

theorem formAll_eq (ds : List Derivation) : formAll ds = ds.map form := by
  induction ds with
  | nil => rfl
  | cons d rest ih => rw [formAll, ih, List.map_cons]

theorem flatten_formPairs (entries : List (Derivation × Derivation)) :
    Form.flatten (formPairs entries) = (Form.flatten entries).map form := by
  induction entries with
  | nil => rfl
  | cons e rest ih => exact congrArg (fun fs => e.1.form :: e.2.form :: fs) ih

theorem nestingPairs_eq (counts : Opener → Bool) (entries : List (Derivation × Derivation)) :
    nestingPairs counts entries = nestingAll counts (Form.flatten entries) := by
  induction entries with
  | nil => rfl
  | cons e rest ih =>
    rw [nestingPairs, ih]
    rfl

namespace Node

variable {o : Opener} {items : List Derivation} {d : Derivation}

/-- The tokens of a bracketed derivation are those of its items between the brackets. -/
theorem tokens_eq (h : Node o items d) :
    d.tokens = o.token :: (items.flatMap tokens ++ [.closing o.closer]) := by
  cases h <;> simp only [tokens, tokensAll_eq, tokensPairs_eq, Opener.token, Opener.closer]

/-- A bracket that counts adds one level. -/
theorem nesting_eq (counts : Opener → Bool) (h : Node o items d) :
    d.nesting counts = nestingAll counts items + (counts o).toNat := by
  cases h <;> simp only [nesting, nestingPairs_eq]

/-- Closing a bracket around the forms of derivations gives the form of the bracket. -/
theorem closeFrame_eq (h : Node o items d) (p : Position) :
    Reader.closeFrame ⟨o, p, (items.map form).reverse⟩ = .ok d.form := by
  cases h with
  | list | vector | function =>
    simp only [Reader.closeFrame, List.reverse_reverse, form, formAll_eq]
  | map entries =>
    have heven : (Form.flatten (formPairs entries)).length % 2 = 0 := by
      rw [Form.length_flatten]
      omega
    simp only [Reader.closeFrame, List.reverse_reverse, ← flatten_formPairs, if_pos heven,
      Form.pairs_flatten, form]

end Node

/-- A bracket around the forms of derivations that can be closed is a derivation. -/
theorem exists_node {o : Opener} {p : Position} {items : List Derivation} {f : Form}
    (h : Reader.closeFrame ⟨o, p, (items.map form).reverse⟩ = .ok f) :
    ∃ d, Node o items d ∧ d.form = f := by
  have hnode : ∃ d, Node o items d := by
    match o with
    | .bracket .round => exact ⟨_, .list items⟩
    | .bracket .square => exact ⟨_, .vector items⟩
    | .bracket .curly =>
      simp only [Reader.closeFrame, List.reverse_reverse, List.length_map] at h
      split at h
      · next heven =>
        have hmap := Node.map (Form.pairs items)
        rw [Form.flatten_pairs heven] at hmap
        exact ⟨_, hmap⟩
      · cases h
    | .function => exact ⟨_, .function items⟩
  obtain ⟨d, hd⟩ := hnode
  exact ⟨d, hd, Except.ok.inj ((hd.closeFrame_eq p).symm.trans h)⟩

/-! ## Derivations are unique -/

/-- The items and the bracket determine a derivation. -/
theorem Node.unique {o : Opener} {items : List Derivation} {d d' : Derivation} (h : Node o items d)
    (h' : Node o items d') : d = d' := by
  cases h with
  | list | vector | function =>
    cases h'
    rfl
  | map entries =>
    generalize hitems : Form.flatten entries = items at h'
    cases h' with
    | map entries' => rw [← Form.pairs_flatten entries, hitems, Form.pairs_flatten]

theorem form?_token (o : Opener) : o.token.form? = none := by
  cases o <;> rfl

/-- No two openers are spelled by the same token. -/
theorem token_injective : Function.Injective Opener.token := by
  intro o o' h
  cases o <;> cases o' <;> simp_all [Opener.token]

/-- The tokens of `d` are those of no other derivation, whatever follows them. -/
def Determined (d : Derivation) : Prop :=
  ∀ (d' : Derivation) (a a' : List Token), d.tokens ++ a = d'.tokens ++ a' → d = d' ∧ a = a'

/-- No derivation begins with these tokens. -/
def Stops (a : List Token) : Prop :=
  ∀ (d : Derivation) (rest : List Token), a ≠ d.tokens ++ rest

theorem stops_nil : Stops [] := by
  intro d rest h
  cases d using nodeInduction with
  | atom t f ht => simp [tokens] at h
  | node hd _ => simp [hd.tokens_eq] at h

theorem stops_closing (b : Bracket) (a : List Token) : Stops (.closing b :: a) := by
  intro d rest h
  cases d using nodeInduction with
  | atom t f ht =>
    obtain rfl : .closing b = t := (List.cons.inj h).1
    simp [Token.form?] at ht
  | @node o items d hd _ =>
    rw [hd.tokens_eq] at h
    have ho : .closing b = o.token := (List.cons.inj h).1
    cases o <;> simp [Opener.token] at ho

/-- Both sequences end where no derivation begins, so neither can be longer than the other. -/
theorem Determined.all {items : List Derivation} (hitems : ∀ d ∈ items, d.Determined) :
    ∀ (items' : List Derivation) {a a' : List Token}, Stops a → Stops a' →
      items.flatMap tokens ++ a = items'.flatMap tokens ++ a' → items = items' ∧ a = a' := by
  induction items with
  | nil =>
    intro items' a a' ha _ h
    cases items' with
    | nil => exact ⟨rfl, h⟩
    | cons d' rest' =>
      rw [List.flatMap_cons, List.append_assoc] at h
      exact absurd h (ha d' _)
  | cons d rest ih =>
    intro items' a a' ha ha' h
    obtain ⟨hd, hrest⟩ := List.forall_mem_cons.1 hitems
    cases items' with
    | nil =>
      rw [List.flatMap_cons, List.append_assoc] at h
      exact absurd h.symm (ha' d _)
    | cons d' rest' =>
      rw [List.flatMap_cons, List.flatMap_cons, List.append_assoc, List.append_assoc] at h
      obtain ⟨rfl, hrest'⟩ := hd d' _ _ h
      obtain ⟨rfl, rfl⟩ := ih hrest rest' ha ha' hrest'
      exact ⟨rfl, rfl⟩

/-- The first token tells a single token from a bracket and one kind of bracket from another, and what
stands inside a bracket is determined by induction. -/
theorem determined (d : Derivation) : d.Determined := by
  induction d using nodeInduction with
  | atom t f ht =>
    intro d' a a' h
    cases d' using nodeInduction with
    | atom t' f' ht' =>
      obtain ⟨rfl, rfl⟩ := List.cons.inj h
      obtain rfl : f = f' := Option.some.inj (ht.symm.trans ht')
      exact ⟨rfl, rfl⟩
    | @node o' items' d' hd' _ =>
      rw [hd'.tokens_eq] at h
      obtain rfl : t = o'.token := (List.cons.inj h).1
      rw [form?_token] at ht
      cases ht
  | @node o items d hd ih =>
    intro d' a a' h
    rw [hd.tokens_eq] at h
    cases d' using nodeInduction with
    | atom t' f' ht' =>
      obtain rfl : o.token = t' := (List.cons.inj h).1
      rw [form?_token] at ht'
      cases ht'
    | @node o' items' d' hd' _ =>
      rw [hd'.tokens_eq, List.cons_append, List.cons_append, List.append_assoc, List.append_assoc] at h
      obtain ⟨ho, hitems⟩ := List.cons.inj h
      obtain rfl := token_injective ho
      obtain ⟨rfl, ha⟩ := Determined.all ih items' (stops_closing _ _) (stops_closing _ _) hitems
      exact ⟨hd.unique hd', (List.cons.inj ha).2⟩

/-- The tokens of derivations are those of no others. -/
theorem flatMap_tokens_injective : Function.Injective (List.flatMap tokens) := by
  intro items items' h
  refine (Determined.all (fun d _ => d.determined) items' stops_nil stops_nil ?_).1
  rw [h]

/-! ## Room inside brackets -/

/-- Derivations side by side are nested as deeply as the deepest of them. -/
theorem nestingAll_append (counts : Opener → Bool) (ds ds' : List Derivation) :
    nestingAll counts (ds ++ ds') = max (nestingAll counts ds) (nestingAll counts ds') := by
  induction ds with
  | nil => simp [nestingAll]
  | cons d rest ih => rw [List.cons_append, nestingAll, nestingAll, ih, Nat.max_assoc]

/-- Inside the brackets `os`, the derivations `ds` nest brackets no more deeply than the reader allows,
and short function literals not at all. -/
structure Room (os : List Opener) (ds : List Derivation) : Prop where
  brackets : os.length + nestingAll (fun _ => true) ds ≤ nestingLimit
  functions : os.count .function + nestingAll (· == .function) ds ≤ 1

namespace Room

variable {os : List Opener} {d : Derivation} {ds ds' : List Derivation}

/-- There is room for two lists if there is room for each. -/
theorem append_iff : Room os (ds ++ ds') ↔ Room os ds ∧ Room os ds' := by
  constructor
  · rintro ⟨hb, hf⟩
    rw [nestingAll_append] at hb hf
    exact ⟨⟨by omega, by omega⟩, ⟨by omega, by omega⟩⟩
  · rintro ⟨⟨hb, hf⟩, ⟨hb', hf'⟩⟩
    exact ⟨by rw [nestingAll_append]; omega, by rw [nestingAll_append]; omega⟩

/-- A bracket has room where it stands exactly if what stands inside it has room there. -/
theorem node_iff {o : Opener} {items : List Derivation} (hd : Node o items d) :
    Room os [d] ↔ Room (o :: os) items := by
  have hb := hd.nesting_eq fun _ => true
  have hf := hd.nesting_eq (· == .function)
  have hcount : (o :: os).count .function = os.count .function + (o == .function).toNat := by
    rw [List.count_cons]
    cases o == .function <;> rfl
  constructor
  · rintro ⟨hb', hf'⟩
    simp only [nestingAll, Bool.toNat_true] at hb hb' hf'
    exact ⟨by rw [List.length_cons]; omega, by rw [hcount]; omega⟩
  · rintro ⟨hb', hf'⟩
    rw [hcount] at hf'
    simp only [List.length_cons, Bool.toNat_true] at hb hb'
    exact ⟨by simp only [nestingAll]; omega, by simp only [nestingAll]; omega⟩

theorem weaken (h : Room os ds) : Room os [] := by
  rw [← List.nil_append ds, append_iff] at h
  exact h.1

theorem atom {t : Token} {f : Form} {ht : t.form? = some f} (h : Room os []) :
    Room os [.atom t f ht] := by
  obtain ⟨hb, hf⟩ := h
  exact ⟨by simpa [nestingAll, nesting] using hb, by simpa [nestingAll, nesting] using hf⟩

/-- There is room inside one more bracket, up to the limit. -/
theorem opened {o : Opener} (h : Room os []) (hfunction : o = .function → os.count .function = 0)
    (hdepth : os.length < nestingLimit) : Room (o :: os) [] where
  brackets := hdepth
  functions := by
    by_cases ho : o = .function
    · subst ho
      rw [List.count_cons_self, hfunction rfl]
      exact Nat.le_refl 1
    · rw [List.count_cons_of_ne ho]
      exact h.functions

/-- Outside all brackets, each derivation has room by itself. -/
theorem nil_iff : Room [] ds ↔
    ∀ d ∈ ds, d.nesting (fun _ => true) ≤ nestingLimit ∧ d.nesting (· == .function) ≤ 1 := by
  induction ds with
  | nil => exact ⟨fun _ => nofun, fun _ => ⟨Nat.zero_le _, Nat.zero_le _⟩⟩
  | cons d rest ih =>
    have hone : Room [] [d] ↔
        d.nesting (fun _ => true) ≤ nestingLimit ∧ d.nesting (· == .function) ≤ 1 := by
      constructor
      · rintro ⟨hb, hf⟩
        simpa [nestingAll] using And.intro hb hf
      · rintro ⟨hb, hf⟩
        exact ⟨by simpa [nestingAll] using hb, by simpa [nestingAll] using hf⟩
    rw [← List.singleton_append, append_iff, hone, ih, List.singleton_append, List.forall_mem_cons]

end Room

end Derivation

open Derivation

namespace Reader

/-! ## Steps of the reader -/

/-- What the open brackets are the beginnings of, the innermost first. -/
def openers (r : Reader) : List Opener :=
  r.frames.map (·.opener)

/-- The reader after a bracket has been opened. -/
def opened (r : Reader) (o : Opener) (p : Position) : Reader :=
  ⟨⟨o, p, []⟩ :: r.frames, r.forms⟩

@[simp] theorem openers_push (r : Reader) (f : Form) : (r.push f).openers = r.openers := by
  rcases r with ⟨_ | ⟨frame, outer⟩, forms⟩ <;> rfl

/-- A bracket is refused inside a short function, if it begins another one, and at the limit of nesting. -/
theorem openWith_eq_ok {r r' : Reader} {o : Opener} {p : Position} :
    r.openWith o p = .ok r' ↔
      (o = .function → r.openers.count .function = 0) ∧ r.openers.length < nestingLimit ∧
        r' = r.opened o p := by
  have hany : r.frames.any (·.opener == .function) = true ↔ ¬ r.openers.count .function = 0 := by
    simp [openers, List.count_eq_zero]
  have hlength : r.openers.length = r.frames.length := List.length_map ..
  rw [openWith, hlength]
  split_ifs with hnested hdeep
  · exact iff_of_false (by simp) fun h => hany.1 hnested.2 (h.1 hnested.1)
  · exact iff_of_false (by simp) fun h => Nat.not_lt.2 hdeep h.2.1
  · refine ⟨fun h => ⟨fun ho => ?_, Nat.lt_of_not_le hdeep, (Except.ok.inj h).symm⟩, fun h => ?_⟩
    · by_contra hcount
      exact hnested ⟨ho, hany.2 hcount⟩
    · exact congrArg Except.ok h.2.2.symm

/-- A token is a form by itself, opens a bracket or closes one. -/
theorem step_cases {r r' : Reader} {t : Token} {p : Position} (h : r.step (t, p) = .ok r') :
    (∃ f, t.form? = some f ∧ r' = r.push f) ∨
      (∃ o : Opener, t = o.token ∧ r.openWith o p = .ok r') ∨
      ∃ b, t = .closing b ∧ r.closeWith b p = .ok r' := by
  cases t with
  | opening b => exact .inr (.inl ⟨.bracket b, rfl, h⟩)
  | openFunction => exact .inr (.inl ⟨.function, rfl, h⟩)
  | closing b => exact .inr (.inr ⟨b, rfl, h⟩)
  | symbol | qualified | keyword | number | string => exact .inl ⟨_, rfl, (Except.ok.inj h).symm⟩

/-- A token that is a form by itself is put behind those that were read. -/
theorem step_form {t : Token} {f : Form} (h : t.form? = some f) (r : Reader) (p : Position) :
    r.step (t, p) = .ok (r.push f) := by
  cases t with
  | opening | openFunction | closing => cases h
  | symbol | qualified | keyword | number | string =>
    cases h
    rfl

theorem step_token (r : Reader) (o : Opener) (p : Position) :
    r.step (o.token, p) = r.openWith o p := by
  cases o <;> rfl

/-- Outside all brackets, forms are added to those that have been read. -/
theorem pushAll_outside (forms : List Form) :
    ∀ read : List Form, pushAll ⟨[], read⟩ forms = ⟨[], forms.reverse ++ read⟩ := by
  induction forms with
  | nil => exact fun read => rfl
  | cons f forms ih =>
    intro read
    rw [List.reverse_cons, List.append_assoc]
    exact ih (f :: read)

/-! ## The reader accepts derivations -/

/-- The tokens `ts`, wherever they stand in the text, take the reader from the state `r` to `r'`. -/
def Leads (r : Reader) (ts : List Token) (r' : Reader) : Prop :=
  ∀ ps : List (Token × Position), ps.map Prod.fst = ts → ps.foldlM step r = .ok r'

namespace Leads

variable {r r' r'' : Reader} {ts ts' : List Token}

theorem append (h : r.Leads ts r') (h' : r'.Leads ts' r'') : r.Leads (ts ++ ts') r'' := by
  intro ps hps
  obtain ⟨qs, qs', rfl, hqs, hqs'⟩ := List.map_eq_append_iff.1 hps
  rw [List.foldlM_append, h qs hqs]
  exact h' qs' hqs'

/-- The first token may lead to a state that depends on its place. -/
theorem cons {t : Token} {next : Position → Reader} (h : ∀ p, r.step (t, p) = .ok (next p))
    (h' : ∀ p, (next p).Leads ts r') : r.Leads (t :: ts) r' := by
  intro ps hps
  obtain ⟨⟨t', p⟩, qs, rfl, rfl, hqs⟩ := List.map_eq_cons_iff.1 hps
  rw [List.foldlM_cons, h p]
  exact h' p qs hqs

theorem nil (r : Reader) : r.Leads [] r := by
  intro ps hps
  obtain rfl := List.map_eq_nil_iff.1 hps
  rfl

end Leads

end Reader

namespace Derivation

/-- If each derivation adds its form, the derivations one after the other add their forms. -/
theorem leads_all {ds : List Derivation}
    (h : ∀ d ∈ ds, ∀ r : Reader, Room r.openers [d] → r.Leads d.tokens (r.push d.form)) :
    ∀ r : Reader, Room r.openers ds → r.Leads (ds.flatMap tokens) (r.pushAll (ds.map form)) := by
  induction ds with
  | nil => exact fun r _ => .nil r
  | cons d rest ih =>
    intro r hroom
    obtain ⟨hd, hrest⟩ := List.forall_mem_cons.1 h
    rw [← List.singleton_append, Room.append_iff] at hroom
    refine (hd r hroom.1).append (ih hrest (r.push d.form) ?_)
    rw [Reader.openers_push]
    exact hroom.2

/-- Wherever the reader stands, the tokens of a derivation that has room there add its form. -/
theorem leads (d : Derivation) :
    ∀ r : Reader, Room r.openers [d] → r.Leads d.tokens (r.push d.form) := by
  induction d using nodeInduction with
  | atom t f ht => exact fun r _ => .cons (r.step_form ht) fun _ => .nil _
  | @node o items d hd ih =>
    intro r hroom
    rw [Room.node_iff hd] at hroom
    have hopen (p : Position) : r.step (o.token, p) = .ok (r.opened o p) := by
      rw [Reader.step_token, Reader.openWith_eq_ok]
      obtain ⟨hb, hf⟩ := hroom
      rw [List.length_cons] at hb
      refine ⟨?_, by omega, rfl⟩
      rintro rfl
      rw [List.count_cons_self] at hf
      omega
    have hclose (p q : Position) :
        Reader.step ⟨⟨o, p, (items.map form).reverse⟩ :: r.frames, r.forms⟩ (.closing o.closer, q) =
          .ok (r.push d.form) := by
      simp only [Reader.step, Reader.closeWith, if_true, hd.closeFrame_eq]
    rw [hd.tokens_eq]
    refine .cons hopen fun p => ?_
    have hitems := leads_all ih (r.opened o p) hroom
    rw [Reader.opened, Reader.pushAll_frame, List.append_nil] at hitems
    exact hitems.append (.cons (hclose p) fun _ => .nil _)

end Derivation

namespace Reader

/-! ## The reader accepts nothing else -/

/-- The reader has read the tokens `ts`: outside all brackets and inside each open one stand derivations
that have room there. -/
inductive HasRead : Reader → List Token → Prop
  | outside {ds : List Derivation} :
    Room [] ds → HasRead ⟨[], (ds.map form).reverse⟩ (ds.flatMap tokens)
  | inside {r : Reader} {ts : List Token} {o : Opener} {p : Position} {ds : List Derivation} :
    HasRead r ts → Room (o :: r.openers) ds →
    HasRead ⟨⟨o, p, (ds.map form).reverse⟩ :: r.frames, r.forms⟩ (ts ++ o.token :: ds.flatMap tokens)

namespace HasRead

variable {r r' : Reader} {ts : List Token}

theorem empty : HasRead .empty [] :=
  @outside [] ⟨Nat.zero_le _, Nat.zero_le _⟩

theorem room (h : HasRead r ts) : Room r.openers [] := by
  cases h with
  | outside hroom => exact hroom.weaken
  | inside _ hroom => exact hroom.weaken

/-- A derivation has been read when its form has been put behind the others. -/
theorem push {d : Derivation} (h : HasRead r ts) (hd : Room r.openers [d]) :
    HasRead (r.push d.form) (ts ++ d.tokens) := by
  cases h with
  | @outside ds hroom =>
    have h := HasRead.outside (Room.append_iff.2 ⟨hroom, hd⟩)
    simpa [Reader.push] using h
  | @inside r ts o p ds hr hroom =>
    have h := HasRead.inside (p := p) hr (Room.append_iff.2 ⟨hroom, hd⟩)
    simpa [Reader.push] using h

/-- A token keeps what has been read made of whole derivations. -/
theorem step {t : Token} {p : Position} (h : HasRead r ts) (hstep : r.step (t, p) = .ok r') :
    HasRead r' (ts ++ [t]) := by
  rcases step_cases hstep with ⟨f, hf, rfl⟩ | ⟨o, rfl, hopen⟩ | ⟨b, rfl, hclose⟩
  · exact h.push (d := .atom t f hf) h.room.atom
  · obtain ⟨hfunction, hdepth, rfl⟩ := openWith_eq_ok.1 hopen
    exact h.inside (h.room.opened hfunction hdepth)
  · cases h with
    | outside => cases hclose
    | @inside r ts o q ds hr hroom =>
      simp only [closeWith] at hclose
      split_ifs at hclose with hb
      split at hclose
      · next f hf =>
        -- the bracket is a derivation now, and stands where the bracket was opened
        obtain ⟨d, hd, rfl⟩ := exists_node hf
        obtain rfl := Except.ok.inj hclose
        have hpush := hr.push ((Room.node_iff hd).2 hroom)
        rw [hd.tokens_eq, hb] at hpush
        simpa using hpush
      · cases hclose

/-- What the reader has read after any number of tokens is made of whole derivations. -/
theorem run {ps : List (Token × Position)} :
    ∀ {r : Reader} {ts : List Token}, HasRead r ts → ps.foldlM Reader.step r = .ok r' →
      HasRead r' (ts ++ ps.map Prod.fst) := by
  induction ps with
  | nil =>
    intro r ts h hrun
    obtain rfl := Except.ok.inj hrun
    simpa using h
  | cons t ps ih =>
    intro r ts h hrun
    rw [List.foldlM_cons] at hrun
    cases hstep : r.step t with
    | error e =>
      rw [hstep] at hrun
      cases hrun
    | ok next =>
      rw [hstep] at hrun
      have hrest := ih (h.step hstep) hrun
      rwa [List.append_assoc, List.singleton_append] at hrest

/-- If no bracket is open, all that has been read are whole derivations. -/
theorem exists_derivations {forms : List Form} (h : HasRead ⟨[], forms.reverse⟩ ts) :
    ∃ ds : List Derivation, Room [] ds ∧ ds.flatMap tokens = ts ∧ ds.map form = forms := by
  generalize hr : Reader.mk [] forms.reverse = r at h
  cases h with
  | @outside ds hroom =>
    obtain ⟨-, hforms⟩ := Reader.mk.inj hr
    exact ⟨ds, hroom, rfl, (List.reverse_inj.1 hforms).symm⟩
  | inside => cases hr

end HasRead

end Reader

/-! ## The reader and the grammar -/

theorem Reader.finish_eq_ok {r : Reader} {forms : List Form} :
    r.finish = .ok forms ↔ r = ⟨[], forms.reverse⟩ := by
  rcases r with ⟨_ | ⟨frame, outer⟩, read⟩
  · simp [finish, List.reverse_eq_iff]
  · simp [finish]

/-- A text is read if it can be scanned and all brackets are closed. -/
theorem readForms_eq_ok {source : String} {forms : List Form} :
    readForms source = .ok forms ↔ ∃ ps p, scan source.toList = ⟨ps, .ok p⟩ ∧
      ps.foldlM Reader.step .empty = .ok ⟨[], forms.reverse⟩ := by
  rw [readForms, readScan]
  rcases scan source.toList with ⟨ps, finish⟩
  cases hrun : ps.foldlM Reader.step .empty with
  | error e =>
    refine ⟨nofun, ?_⟩
    rintro ⟨_, _, hscan, hrun'⟩
    cases hscan
    rw [hrun] at hrun'
    cases hrun'
  | ok r =>
    cases finish with
    | error e => simp
    | ok p => simp [Reader.finish_eq_ok, hrun]

/-- The reader accepts a text exactly if the text has tokens up to its end and these are the tokens of
derivations in which brackets, those of short function literals among them, are nested no more deeply than
the limit allows and no short function literal stands inside another one. It gives the forms that are
derived. No two sequences of derivations have the same tokens, so the tokens determine the forms. -/
theorem readForms_eq_ok_iff (source : String) (forms : List Form) :
    (readForms source = .ok forms ↔
      ∃ derivations : List Derivation,
        Tokenizes (.ofText source.toList) (derivations.flatMap tokens) ∧
        (∀ d ∈ derivations,
          d.nesting (fun _ => true) ≤ nestingLimit ∧ d.nesting (· == .function) ≤ 1) ∧
        derivations.map form = forms) ∧
      Function.Injective (List.flatMap tokens) := by
  refine ⟨?_, flatMap_tokens_injective⟩
  simp only [← Room.nil_iff]
  constructor
  · intro h
    obtain ⟨ps, p, hscan, hrun⟩ := readForms_eq_ok.1 h
    obtain ⟨ds, hroom, htokens, hforms⟩ := (Reader.HasRead.empty.run hrun).exists_derivations
    exact ⟨ds, tokenizes_iff.2 ⟨ps, p, hscan, htokens.symm⟩, hroom, hforms⟩
  · rintro ⟨ds, htokens, hroom, rfl⟩
    obtain ⟨ps, p, hscan, hps⟩ := tokenizes_iff.1 htokens
    refine readForms_eq_ok.2 ⟨ps, p, hscan, ?_⟩
    rw [leads_all (fun d _ => d.leads) .empty hroom ps hps, Reader.empty, Reader.pushAll_outside,
      List.append_nil]

/-- A text with all kinds of brackets, a comma and a comment. -/
theorem readForms_eq_ok_iff_of_all_brackets :
    ∃ derivations : List Derivation,
      Tokenizes (.ofText "[true, \x7b:k ()\x7d] #(f % [nil]) ; c".toList) (derivations.flatMap tokens) ∧
      (∀ d ∈ derivations,
        d.nesting (fun _ => true) ≤ nestingLimit ∧ d.nesting (· == .function) ≤ 1) ∧
      derivations.map form = [.vector [.bool true, .map [(.keyword "k", .list [])]],
        .list [.symbol "fn", .vector [.symbol "%1"],
          .list [.symbol "f", .symbol "%1", .vector [.nil]]]] :=
  (readForms_eq_ok_iff "[true, \x7b:k ()\x7d] #(f % [nil]) ; c" _).1.1 rfl

end ToolLisp
