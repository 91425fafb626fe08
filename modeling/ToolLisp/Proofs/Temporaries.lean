import ToolLisp.Proofs.Analysis
import ToolLisp.Proofs.GeneratedNames
import ToolLisp.Proofs.Rereading

/-!
# Making temporaries

Analysis numbers the temporaries that it makes, and the names in a source text are spelled without the sign
that starts the name of a temporary. `Makes` says of an analysis that the names in its result are not generated,
that the expressions in it are hygienic, and that their temporaries are different from all that were made
before. What is carried from one part of an analysis to the next is the list of the temporaries made so far.

This module has the rules for `Makes` and what follows from them for patterns, whose defaults are expressions.
-/

namespace ToolLisp

open Expr

/-! ## Names that are spelled -/

/-- No name in a source text is generated. -/
theorem isGenerated_of_isName {name : String} (h : Token.IsName name.toList) : isGenerated name = false := by
  have hsign : Token.isSymbolChar '$' = false := by decide +kernel
  refine Bool.eq_false_iff.2 fun hgen => ?_
  have hmem : '$' ∈ name.toList := List.contains_iff_mem.1 hgen
  rw [h.2 '$' hmem] at hsign
  cases hsign

/-- A symbol that can be spelled has no character of generated names. -/
theorem Form.isGenerated_symbol {name : String} (h : (Form.symbol name).WellSpelled) :
    isGenerated name = false :=
  isGenerated_of_isName h.1.1

theorem Form.isGenerated_keyword {name : String} (h : (Form.keyword name).WellSpelled) :
    isGenerated name = false :=
  isGenerated_of_isName h.1

/-- Threading keeps forms well spelled. -/
theorem Form.threadStep_wellSpelled (place : ThreadPlace) {acc step : Form} (ha : acc.WellSpelled)
    (hs : step.WellSpelled) : (threadStep place acc step).WellSpelled := by
  have hpair : (Form.list [step, acc]).WellSpelled := ⟨hs, ha, trivial⟩
  cases step with
  | list items =>
    cases items with
    | nil => exact hpair
    | cons f args =>
      have ⟨hf, hargs⟩ := hs
      cases place with
      | first => exact ⟨hf, ha, hargs⟩
      | last =>
        refine ⟨hf, wellSpelledAll_iff.2 (List.forall_mem_append.2 ⟨wellSpelledAll_iff.1 hargs, ?_⟩)⟩
        exact List.forall_mem_singleton.2 ha
  | _ => exact hpair

/-- Threading spells no new names. By induction on the steps. -/
theorem Form.thread_wellSpelled (place : ThreadPlace) {steps : List Form} :
    ∀ {start : Form}, start.WellSpelled → (∀ f ∈ steps, f.WellSpelled) →
      (thread place start steps).WellSpelled := by
  induction steps with
  | nil => exact fun hs _ => hs
  | cons step rest ih =>
    intro start hs hsteps
    have ⟨hstep, hrest⟩ := List.forall_mem_cons.1 hsteps
    exact ih (threadStep_wellSpelled place hs hstep) hrest

/-- Forms in pairs are well spelled if all forms are. -/
theorem Form.wellSpelled_pairs : ∀ {forms : List Form}, (∀ f ∈ forms, f.WellSpelled) →
    ∀ p ∈ pairs forms, p.1.WellSpelled ∧ p.2.WellSpelled
  | [], _, _, h => by cases h
  | [_], _, _, h => by cases h
  | a :: b :: rest, hf, p, h => by
    have ⟨ha, hb, hrest⟩ : a.WellSpelled ∧ b.WellSpelled ∧ ∀ f ∈ rest, f.WellSpelled := by
      simpa only [List.forall_mem_cons] using hf
    rcases List.mem_cons.1 h with rfl | h
    · exact ⟨ha, hb⟩
    · exact wellSpelled_pairs hrest p h

/-! ## Numbered names -/

/-- The name of a temporary. -/
def temporaryName (form : String) (n : Nat) : String :=
  "$" ++ form ++ toString n

/-- The name of a temporary begins with the character of generated names. -/
theorem isGenerated_temporaryName (form : String) (n : Nat) : isGenerated (temporaryName form n) = true := by
  simp [isGenerated, temporaryName]

/-- Different numbers make different names. -/
theorem temporaryName_inj {form form' : String} {n n' : Nat} (hf : form ∈ ["if-let", "when-let"])
    (hf' : form' ∈ ["if-let", "when-let"]) (h : temporaryName form n = temporaryName form' n') :
    form = form' ∧ n = n' := by
  have hlist : (form.toList ++ (toString n).toList) = form'.toList ++ (toString n').toList := by
    simpa [temporaryName] using congrArg String.toList h
  have hform : form = form' := by
    simp only [List.mem_cons, List.not_mem_nil, or_false] at hf hf'
    rcases hf with rfl | rfl <;> rcases hf' with rfl | rfl
    · rfl
    · simp at hlist
    · simp at hlist
    · rfl
  subst hform
  have hdigits := congrArg (Nat.ofDigitChars 10 · 0) (List.append_cancel_left hlist)
  exact ⟨rfl, by simpa [Nat.toString_eq_ofList_toDigits] using hdigits⟩

/-- Different names of temporaries, none with a number over `k`. -/
structure Numbered (k : Nat) (ts : List String) : Prop where
  distinct : ts.Nodup
  made : ∀ t ∈ ts, ∃ form n, form ∈ ["if-let", "when-let"] ∧ n ≤ k ∧ t = temporaryName form n

namespace Numbered

theorem nil (k : Nat) : Numbered k [] :=
  ⟨List.nodup_nil, fun _ h => by cases h⟩

/-- What holds of names holds of those among them that stand in another list no more often. -/
theorem of_count {k : Nat} {ts us : List String} (h : Numbered k ts)
    (hle : ∀ x, us.count x ≤ ts.count x) : Numbered k us := by
  refine ⟨List.nodup_iff_count_le_one.2 fun x => ?_, fun t ht => h.made t ?_⟩
  · exact (hle x).trans (List.nodup_iff_count_le_one.1 h.distinct x)
  · exact List.count_pos_iff.1 ((List.count_pos_iff.2 ht).trans_le (hle t))

/-- The next number makes a new name. -/
theorem next {k : Nat} {ts : List String} (h : Numbered k ts) {form : String}
    (hf : form ∈ ["if-let", "when-let"]) : Numbered (k + 1) (temporaryName form (k + 1) :: ts) := by
  have hnew : temporaryName form (k + 1) ∉ ts := by
    intro hmem
    obtain ⟨form', n, hf', hn, heq⟩ := h.made _ hmem
    have := (temporaryName_inj hf hf' heq).2
    omega
  refine ⟨List.nodup_cons.2 ⟨hnew, h.distinct⟩, List.forall_mem_cons.2 ⟨?_, fun t ht => ?_⟩⟩
  · exact ⟨form, k + 1, hf, Nat.le_refl _, rfl⟩
  · obtain ⟨form', n, hf', hn, heq⟩ := h.made t ht
    exact ⟨form', n, hf', by omega, heq⟩

end Numbered

namespace Analyze

variable {α β : Type}

/-! ## What analysis makes -/

/-- The temporaries in several expressions. -/
def made (es : List Expr) : List String :=
  es.flatMap temporaries

@[simp] theorem made_nil : made [] = [] := rfl

@[simp] theorem made_cons (e : Expr) (es : List Expr) : made (e :: es) = e.temporaries ++ made es :=
  List.flatMap_cons

@[simp] theorem made_append (es es' : List Expr) : made (es ++ es') = made es ++ made es' :=
  List.flatMap_append

/-- If the analysis succeeds after the temporaries `ts` were made, then no name in its result is generated, the
expressions in it are hygienic, and their temporaries are different from each other and from all that were made
before `ts`. The names and expressions in a result are given by the two functions. -/
def Makes (ts : List String) (names : α → List String) (exprs : α → List Expr) (x : Analyze α) : Prop :=
  ∀ us k a k', Numbered k (ts ++ us) → x.run k = .ok (a, k') →
    (∀ n ∈ names a, isGenerated n = false) ∧ (∀ e ∈ exprs a, e.Hygienic) ∧ Numbered k' (made (exprs a) ++ us)

/-- Both parts of an analysis in sequence succeed. -/
theorem exists_of_run_bind {x : Analyze α} {f : α → Analyze β} {k k' : Nat} {b : β}
    (h : (x >>= f).run k = .ok (b, k')) : ∃ a l, x.run k = .ok (a, l) ∧ (f a).run l = .ok (b, k') := by
  rw [StateT.run_bind] at h
  cases hr : x.run k with
  | error e =>
    rw [hr] at h
    cases h
  | ok r =>
    rw [hr] at h
    exact ⟨r.1, r.2, rfl, h⟩

theorem exists_of_run' {x : Analyze α} {k : Nat} {a : α} (h : StateT.run' x k = .ok a) :
    ∃ k', x.run k = .ok (a, k') := by
  unfold StateT.run' at h
  cases hr : x k with
  | error e =>
    rw [hr] at h
    cases h
  | ok r =>
    rw [hr] at h
    cases h
    exact ⟨r.2, hr⟩

namespace Makes

variable {ts : List String} {names : α → List String} {exprs : α → List Expr} {names' : β → List String}
  {exprs' : β → List Expr}

/-- Nothing is counted, and what is made is made of the given expressions. -/
theorem pure {a : α} (hn : ∀ n ∈ names a, isGenerated n = false) (he : ∀ e ∈ exprs a, e.Hygienic)
    (hts : ∀ x, (made (exprs a)).count x ≤ ts.count x) : Makes ts names exprs (pure a) := by
  intro us k b k' hk hb
  cases hb
  refine ⟨hn, he, hk.of_count fun x => ?_⟩
  rw [List.count_append, List.count_append]
  exact Nat.add_le_add_right (hts x) _

/-- A result without names and expressions. -/
theorem nothing (a : α) : Makes [] (fun _ => []) (fun _ => []) (Pure.pure a) :=
  .pure (fun _ h => by cases h) (fun _ h => by cases h) fun _ => Nat.le_refl _

/-- A name that is spelled. -/
theorem name {n : String} (h : isGenerated n = false) :
    Makes [] (fun n => [n]) (fun _ => []) (Pure.pure n) :=
  .pure (List.forall_mem_singleton.2 h) (fun _ h => by cases h) fun _ => Nat.le_refl _

theorem throw (e : AnalysisError) : Makes ts names exprs (throw e) := by
  intro us k b k' hk hb
  cases hb

/-- What the first part makes is carried to the second. -/
theorem bind {x : Analyze α} {f : α → Analyze β} (hx : Makes [] names exprs x)
    (hf : ∀ a, (∀ n ∈ names a, isGenerated n = false) → (∀ e ∈ exprs a, e.Hygienic) →
      Makes (made (exprs a) ++ ts) names' exprs' (f a)) : Makes ts names' exprs' (x >>= f) := by
  intro us k b k' hk hb
  obtain ⟨a, l, ha, hb⟩ := exists_of_run_bind hb
  obtain ⟨hn, he, hmade⟩ := hx (ts ++ us) k a l hk ha
  rw [← List.append_assoc] at hmade
  exact hf a hn he us l b k' hmade hb

/-- The second part goes on with all that the first part leaves. -/
theorem andThen {x : Analyze α} {f : α → Analyze β} (hx : Makes ts names exprs x)
    (hf : ∀ a, (∀ n ∈ names a, isGenerated n = false) → (∀ e ∈ exprs a, e.Hygienic) →
      Makes (made (exprs a)) names' exprs' (f a)) : Makes ts names' exprs' (x >>= f) := by
  intro us k b k' hk hb
  obtain ⟨a, l, ha, hb⟩ := exists_of_run_bind hb
  obtain ⟨hn, he, hmade⟩ := hx us k a l hk ha
  exact hf a hn he us l b k' hmade hb

/-- More temporaries may be allowed than are made. -/
theorem weaken {x : Analyze α} {ts' : List String} (hx : Makes ts names exprs x)
    (hts : ∀ x, ts.count x ≤ ts'.count x) : Makes ts' names exprs x := by
  intro us k a k' hk ha
  refine hx us k a k' (hk.of_count fun x => ?_) ha
  rw [List.count_append, List.count_append]
  exact Nat.add_le_add_right (hts x) _

/-- What is said of a result holds of fewer names and the same expressions. -/
theorem imp {x : Analyze α} {names₀ : α → List String} {exprs₀ : α → List Expr} (hx : Makes ts names₀ exprs₀ x)
    (hn : ∀ a, ∀ n ∈ names a, n ∈ names₀ a) (he : ∀ a, exprs₀ a = exprs a) : Makes ts names exprs x := by
  intro us k a k' hk ha
  have ⟨hnames, hexprs⟩ := hx us k a k' hk ha
  rw [he a] at hexprs
  exact ⟨fun n h => hnames n (hn a n h), hexprs⟩

/-- What several analyses make, one after the other. By induction on the list. -/
theorem mapM {f : α → Analyze β} {xs : List α} (hf : ∀ x ∈ xs, Makes [] names' exprs' (f x)) :
    Makes [] (fun ys => ys.flatMap names') (fun ys => ys.flatMap exprs') (xs.mapM f) := by
  induction xs with
  | nil => exact .pure (by simp) (by simp) (by simp)
  | cons x xs ih =>
    rw [List.mapM_cons]
    have ⟨hx, hxs⟩ := List.forall_mem_cons.1 hf
    refine .bind hx fun y hn he => .bind (ih hxs) fun ys hns hes => .pure ?_ ?_ fun z => ?_
    · rw [List.flatMap_cons]
      exact List.forall_mem_append.2 ⟨hn, hns⟩
    · rw [List.flatMap_cons]
      exact List.forall_mem_append.2 ⟨he, hes⟩
    · simp only [List.flatMap_cons, made_append, List.append_nil, List.count_append]
      omega

end Makes

/-- The analysis of an expression, after the temporaries `ts` were made. -/
abbrev MakesExpr (ts : List String) (x : Analyze Expr) : Prop :=
  Makes ts (fun _ => []) (fun e => [e]) x

namespace Makes

variable {ts : List String}

/-- The second analysis may use the expression that the first one makes. -/
theorem bindExpr {x : Analyze Expr} {f : Expr → Analyze β} {names : β → List String} {exprs : β → List Expr}
    (hx : MakesExpr [] x) (hf : ∀ e, e.Hygienic → Makes (e.temporaries ++ ts) names exprs (f e)) :
    Makes ts names exprs (x >>= f) := by
  refine .bind hx fun e _ he => ?_
  rw [made_cons, made_nil, List.append_nil]
  exact hf e (List.forall_mem_singleton.1 he)

/-- The result is an expression whose parts have been made. -/
theorem node {e : Expr} {parts : List Expr} (hd : e.direct = parts)
    (hn : ∀ x ∈ e.namesHere, isGenerated x = false) (he : ∀ p ∈ parts, p.Hygienic)
    (hts : ∀ x, (made parts).count x ≤ ts.count x) : MakesExpr ts (Pure.pure e) := by
  subst hd
  refine .pure (fun _ h => by cases h) (List.forall_mem_singleton.2 (.node hn he)) fun x => ?_
  rw [made_cons, made_nil, List.append_nil, temporaries_of_plain hn]
  exact hts x

/-- The result is an expression that uses no name itself. -/
theorem plain {e : Expr} {parts : List Expr} (hd : e.direct = parts) (hn : e.namesHere = [])
    (he : ∀ p ∈ parts, p.Hygienic) (hts : ∀ x, (made parts).count x ≤ ts.count x) :
    MakesExpr ts (Pure.pure e) :=
  node hd (fun x hx => by rw [hn] at hx; cases hx) he hts

/-- The result is an expression without parts. -/
theorem leaf {e : Expr} (hd : e.direct = []) (hn : ∀ x ∈ e.namesHere, isGenerated x = false) :
    MakesExpr [] (Pure.pure e) :=
  node hd hn (fun _ h => by cases h) fun _ => Nat.le_refl _

/-- A name is made up that is different from all before. -/
theorem fresh {form : String} (hform : form ∈ ["if-let", "when-let"]) {f : String → Analyze β}
    {names : β → List String} {exprs : β → List Expr}
    (hf : ∀ t, isGenerated t = true → Makes (t :: ts) names exprs (f t)) :
    Makes ts names exprs (freshName form >>= f) := by
  intro us k b k' hk hb
  exact hf (temporaryName form (k + 1)) (isGenerated_temporaryName _ _) us (k + 1) b k' (hk.next hform) hb

/-- The result makes a temporary of a name that was made up. -/
theorem temporary {t : String} {p : Pattern} {value yes no : Expr} (ht : isGenerated t = true)
    (hp : ∀ x ∈ p.names, isGenerated x = false) (he : ∀ e ∈ value :: no :: yes :: p.defaults, e.Hygienic)
    (hts : ∀ x, (t :: made (value :: no :: yes :: p.defaults)).count x ≤ ts.count x) :
    MakesExpr ts (Pure.pure (bindTruthy t p value yes no)) := by
  refine .pure (fun _ h => by cases h) (List.forall_mem_singleton.2 (.bindTruthy ht hp he)) fun x => ?_
  rw [made_cons, made_nil, List.append_nil, count_temporaries_bindTruthy ht hp, ← List.count_append]
  exact hts x

theorem mapMExpr {f : α → Analyze Expr} {xs : List α} (hf : ∀ x ∈ xs, MakesExpr [] (f x)) :
    Makes [] (fun _ => []) (fun es => es) (xs.mapM f) :=
  (Makes.mapM hf).imp (fun _ _ h => by cases h) List.flatMap_singleton'

end Makes

/-! ## Patterns -/

section

open Pattern (defaults defaultsOfAll defaultsOfParts namesOfAll namesOfParts)

/-- The names of several patterns are those of each of them. -/
theorem namesOfAll_eq (ps : List Pattern) : namesOfAll ps = ps.flatMap Pattern.names := by
  induction ps with
  | nil => rfl
  | cons p rest ih => rw [namesOfAll, List.flatMap_cons, ih]

theorem defaultsOfAll_eq (ps : List Pattern) : defaultsOfAll ps = ps.flatMap defaults := by
  induction ps with
  | nil => rfl
  | cons p rest ih => rw [defaultsOfAll, List.flatMap_cons, ih]

/-- The names that an entry of a map pattern binds. -/
def MapPart.names (part : MapPart) : List String :=
  part.1.names

/-- The default of an entry of a map pattern, and those in its pattern. -/
def MapPart.exprs (part : MapPart) : List Expr :=
  part.2.2.toList ++ part.1.defaults

theorem namesOfParts_eq (parts : List MapPart) : namesOfParts parts = parts.flatMap MapPart.names := by
  induction parts with
  | nil => rfl
  | cons part rest ih => rw [namesOfParts, List.flatMap_cons, ih, MapPart.names]

theorem defaultsOfParts_eq (parts : List MapPart) : defaultsOfParts parts = parts.flatMap MapPart.exprs := by
  induction parts with
  | nil => rfl
  | cons part rest ih =>
    obtain ⟨p, key, default⟩ := part
    cases default with
    | none => rw [defaultsOfParts, List.flatMap_cons, ih, MapPart.exprs, Option.toList_none, List.nil_append]
    | some e => rw [defaultsOfParts, List.flatMap_cons, ih]; rfl

/-- A name for the whole value comes first. -/
theorem names_withWhole (name : Option String) (p : Pattern) :
    (withWhole name p).names = name.toList ++ p.names := by
  cases name <;> rfl

theorem defaults_withWhole (name : Option String) (p : Pattern) : (withWhole name p).defaults = p.defaults := by
  cases name <;> rfl

/-- The rest of a vector is bound like an item. -/
theorem names_seq (items : List Pattern) (rest : Option Pattern) :
    (Pattern.seq items rest).names = (items ++ rest.toList).flatMap Pattern.names := by
  cases rest with
  | none => rw [Pattern.names, namesOfAll_eq, Option.toList_none, List.append_nil]
  | some rest =>
    rw [Pattern.names, namesOfAll_eq, Option.toList_some, List.flatMap_append, List.flatMap_singleton]

theorem defaults_seq (items : List Pattern) (rest : Option Pattern) :
    (Pattern.seq items rest).defaults = (items ++ rest.toList).flatMap defaults := by
  cases rest with
  | none => rw [defaults, defaultsOfAll_eq, Option.toList_none, List.append_nil]
  | some rest =>
    rw [defaults, defaultsOfAll_eq, Option.toList_some, List.flatMap_append, List.flatMap_singleton]

/-- The patterns of a vector pattern that are read so far. -/
def SeqParts.patterns (parts : SeqParts) : List Pattern :=
  parts.items.reverse ++ parts.rest.toList

/-- The names that are read so far in a vector pattern. -/
def SeqParts.names (parts : SeqParts) : List String :=
  parts.whole.toList ++ parts.patterns.flatMap Pattern.names

/-- The defaults that are read so far in a vector pattern. -/
def SeqParts.exprs (parts : SeqParts) : List Expr :=
  parts.patterns.flatMap defaults

/-! Both places where an element of a vector pattern is read add its pattern to those before. -/

/-- One more pattern for an item. -/
theorem SeqParts.names_item {parts : SeqParts} {p : Pattern}
    (h : ∀ n ∈ parts.names, isGenerated n = false) (hp : ∀ n ∈ p.names, isGenerated n = false) :
    ∀ n ∈ SeqParts.names { parts with items := p :: parts.items }, isGenerated n = false := by
  simp only [SeqParts.names, SeqParts.patterns, List.reverse_cons, List.flatMap_append, List.flatMap_singleton,
    List.forall_mem_append] at h ⊢
  exact ⟨h.1, ⟨h.2.1, hp⟩, h.2.2⟩

theorem SeqParts.exprs_item {parts : SeqParts} {p : Pattern} (h : ∀ e ∈ parts.exprs, e.Hygienic)
    (hp : ∀ e ∈ p.defaults, e.Hygienic) :
    ∀ e ∈ SeqParts.exprs { parts with items := p :: parts.items }, e.Hygienic := by
  simp only [SeqParts.exprs, SeqParts.patterns, List.reverse_cons, List.flatMap_append, List.flatMap_singleton,
    List.forall_mem_append] at h ⊢
  exact ⟨⟨h.1, hp⟩, h.2⟩

theorem SeqParts.count_item (parts : SeqParts) (p : Pattern) (x : String) :
    (made (SeqParts.exprs { parts with items := p :: parts.items })).count x ≤
      (made p.defaults ++ made parts.exprs).count x := by
  simp only [SeqParts.exprs, SeqParts.patterns, List.reverse_cons, List.flatMap_append, List.flatMap_singleton,
    made_append, List.count_append]
  omega

/-- The names that are read so far in a map pattern. -/
def MapParts.names (parts : MapParts) : List String :=
  parts.whole.toList ++ parts.entries.flatMap MapPart.names

/-- The defaults that are read so far in a map pattern. -/
def MapParts.exprs (parts : MapParts) : List Expr :=
  parts.entries.flatMap MapPart.exprs ++ parts.defaults.map (·.2)

/-- The name of the whole value is spelled by the source text. -/
theorem wholeName_makes {f : Form} (hf : f.WellSpelled) :
    Makes [] (fun name => [name]) (fun _ => []) (wholeName f) := by
  cases f with
  | symbol name => exact .name (Form.isGenerated_symbol hf)
  | _ => exact .throw _

theorem literalKey_makes (f : Form) : Makes [] (fun _ => []) (fun _ => []) (literalKey f) := by
  unfold literalKey
  split
  iterate 5 exact .nothing _
  exact .throw _

/-- The names that are listed are spelled by the source text, and have no defaults yet. -/
theorem namedParts_makes (directive : String) (key : String → Literal) {forms : List Form}
    (hf : ∀ f ∈ forms, f.WellSpelled) :
    Makes [] (fun parts => parts.flatMap MapPart.names) (fun parts => parts.flatMap MapPart.exprs)
      (namedParts directive key forms) := by
  induction forms with
  | nil => exact .pure (by simp) (by simp) (by simp)
  | cons f rest ih =>
    have ⟨hf, hrest⟩ := List.forall_mem_cons.1 hf
    cases f with
    | symbol name =>
      refine .bind (ih hrest) fun parts hn he => .pure ?_ he (by simp [MapPart.exprs, defaults])
      exact List.forall_mem_cons.2 ⟨Form.isGenerated_symbol hf, hn⟩
    | keyword name =>
      refine .bind (ih hrest) fun parts hn he => .pure ?_ he (by simp [MapPart.exprs, defaults])
      exact List.forall_mem_cons.2 ⟨Form.isGenerated_keyword hf, hn⟩
    | _ => exact .throw _

/-- A default that is set was given, and those that were there stay or are given up. -/
theorem setDefault_exprs {name : String} {value : Expr} :
    ∀ {parts parts' : List MapPart}, setDefault name value parts = some parts' →
      parts'.flatMap MapPart.names = parts.flatMap MapPart.names ∧
      (∀ e ∈ parts'.flatMap MapPart.exprs, e ∈ value :: parts.flatMap MapPart.exprs) ∧
      ∀ x, (made (parts'.flatMap MapPart.exprs)).count x ≤
        (made (value :: parts.flatMap MapPart.exprs)).count x := by
  intro parts
  induction parts with
  | nil => exact fun h => by cases h
  | cons part rest ih =>
    intro parts' h
    unfold setDefault at h
    split at h
    -- the part gives up the default that it had
    · cases h
      refine ⟨rfl, fun e he => ?_, fun x => ?_⟩
      · simp only [List.flatMap_cons, MapPart.exprs, Option.toList_some, List.mem_append,
          List.mem_cons] at he ⊢
        tauto
      · simp only [List.flatMap_cons, MapPart.exprs, Option.toList_some, made_append, made_cons, made_nil,
          List.count_append, List.count_nil]
        omega
    · obtain ⟨rest', h', rfl⟩ := Option.map_eq_some_iff.1 h
      obtain ⟨hnames, hmem, hcount⟩ := ih h'
      refine ⟨congrArg (part.names ++ ·) hnames, fun e he => ?_, fun x => ?_⟩
      · rw [List.flatMap_cons, List.mem_append] at he
        rw [List.flatMap_cons, List.mem_cons, List.mem_append]
        rcases he with he | he
        · exact .inr (.inl he)
        · exact (List.mem_cons.1 (hmem e he)).imp_right .inr
      · have := hcount x
        simp only [List.flatMap_cons, made_append, made_cons, List.count_append] at this ⊢
        omega

/-- Defaults move to the parts that they belong to. By induction on the defaults. -/
theorem setDefaults_makes {defaults : List (String × Expr)} :
    ∀ {parts : List MapPart}, (∀ n ∈ parts.flatMap MapPart.names, isGenerated n = false) →
      (∀ e ∈ parts.flatMap MapPart.exprs ++ defaults.map (·.2), e.Hygienic) →
      Makes (made (parts.flatMap MapPart.exprs ++ defaults.map (·.2)))
        (fun parts => parts.flatMap MapPart.names) (fun parts => parts.flatMap MapPart.exprs)
        (setDefaults parts defaults) := by
  induction defaults with
  | nil =>
    intro parts hn he
    rw [List.map_nil, List.append_nil] at he ⊢
    exact .pure hn he fun x => Nat.le_refl _
  | cons d rest ih =>
    intro parts hn he
    unfold setDefaults
    split
    · next parts' h =>
      obtain ⟨hnames, hmem, hcount⟩ := setDefault_exprs h
      have ⟨hparts, hvalue, hrest⟩ :
          (∀ e ∈ parts.flatMap MapPart.exprs, e.Hygienic) ∧ d.2.Hygienic ∧
            ∀ e ∈ rest.map (·.2), e.Hygienic := by
        simpa only [List.forall_mem_append, List.map_cons, List.forall_mem_cons] using he
      refine (ih (hnames ▸ hn) (List.forall_mem_append.2 ⟨fun e he => ?_, hrest⟩)).weaken fun x => ?_
      · rcases List.mem_cons.1 (hmem e he) with rfl | he
        · exact hvalue
        · exact hparts e he
      · have := hcount x
        simp only [made_append, made_cons, List.map_cons, List.count_append] at this ⊢
        omega
    · exact .throw _

variable {sub : Form → Analyze Expr}
  (hsub : ∀ f, f.WellSpelled → MakesExpr [] (sub f))

include hsub in
theorem defaultParts_makes {forms : List (Form × Form)}
    (hf : ∀ p ∈ forms, p.1.WellSpelled ∧ p.2.WellSpelled) :
    Makes [] (fun _ => []) (fun ds => ds.map (·.2)) (defaultParts sub forms) := by
  induction forms with
  | nil => exact .pure (by simp) (by simp) (by simp)
  | cons p rest ih =>
    obtain ⟨f, value⟩ := p
    have ⟨hp, hrest⟩ := List.forall_mem_cons.1 hf
    cases f with
    | symbol name =>
      refine (hsub value hp.2).bindExpr fun e he => .bind (ih hrest) fun ds _ hds => ?_
      refine .pure (by simp) ?_ fun x => ?_
      · exact List.forall_mem_cons.2 ⟨he, hds⟩
      · simp only [List.map_cons, made_cons, List.append_nil, List.count_append]
        omega
    | _ => exact .throw _

mutual

/-- Analysing a pattern. -/
theorem pattern_makes (hsub : ∀ f, f.WellSpelled → MakesExpr [] (sub f)) :
    ∀ f : Form, f.WellSpelled → Makes [] Pattern.names defaults (pattern sub f)
  | .symbol name, hf => by
    simp only [pattern]
    split
    · exact .pure (by simp [Pattern.names]) (by simp [defaults]) (by simp [defaults])
    · split
      · exact .throw _
      · exact .pure (List.forall_mem_singleton.2 (Form.isGenerated_symbol hf)) (by simp [defaults])
          (by simp [defaults])
  | .vector items, hf => by
    simp only [pattern]
    have hitems := Form.wellSpelledAll_iff.1 hf
    have hparts := seqParts_makes hsub items hitems ⟨[], none, none⟩
      (by simp [SeqParts.names, SeqParts.patterns]) (by simp [SeqParts.exprs, SeqParts.patterns])
    refine hparts.andThen fun parts hn he => .pure ?_ ?_ fun x => ?_
    · rw [names_withWhole, names_seq]
      exact hn
    · rw [defaults_withWhole, defaults_seq]
      exact he
    · rw [defaults_withWhole, defaults_seq]
      exact Nat.le_refl _
  | .map entries, hf => by
    simp only [pattern]
    have hentries := Form.wellSpelledPairs_iff.1 hf
    have hparts := mapParts_makes hsub entries hentries ⟨[], [], none⟩ (by simp [MapParts.names])
      (by simp [MapParts.exprs])
    refine hparts.andThen fun parts hn he => ?_
    have ⟨hwhole, hnames⟩ := List.forall_mem_append.1 hn
    refine (setDefaults_makes hnames he).andThen fun entries hn he => .pure ?_ ?_ fun x => ?_
    · rw [names_withWhole, Pattern.names, namesOfParts_eq]
      exact List.forall_mem_append.2 ⟨hwhole, hn⟩
    · rw [defaults_withWhole, defaults, defaultsOfParts_eq]
      exact he
    · rw [defaults_withWhole, defaults, defaultsOfParts_eq]
  | .nil, _ | .bool _, _ | .number _, _ | .string _, _ | .keyword _, _ | .qualified _ _, _ | .list _, _ => by
    simp only [pattern]
    exact .throw _

/-- By induction on the forms of the pattern, with what has been made so far. -/
theorem seqParts_makes (hsub : ∀ f, f.WellSpelled → MakesExpr [] (sub f)) :
    ∀ (items : List Form), (∀ f ∈ items, f.WellSpelled) → ∀ (parts : SeqParts),
      (∀ n ∈ parts.names, isGenerated n = false) → (∀ e ∈ parts.exprs, e.Hygienic) →
      Makes (made parts.exprs) SeqParts.names SeqParts.exprs (seqParts sub parts items)
  | [], _, parts, hn, he => by
    simp only [seqParts]
    exact .pure hn he fun x => Nat.le_refl _
  | [f], hf, parts, hn, he => by
    simp only [seqParts]
    split
    · exact .throw _
    · split
      · exact .throw _
      · split
        · exact .throw _
        · refine .bind (pattern_makes hsub f (List.forall_mem_singleton.1 hf)) fun p hnp hep => ?_
          exact .pure (SeqParts.names_item hn hnp) (SeqParts.exprs_item he hep) (SeqParts.count_item parts p)
  | f :: g :: rest, hf, parts, hn, he => by
    simp only [seqParts]
    have ⟨hf, hg, hrest⟩ : f.WellSpelled ∧ g.WellSpelled ∧ ∀ f ∈ rest, f.WellSpelled := by
      simpa only [List.forall_mem_cons] using hf
    split
    · split
      · exact .throw _
      · refine .bind (pattern_makes hsub g hg) fun p hnp hep => ?_
        refine (seqParts_makes hsub rest hrest { parts with rest := some p } ?_ ?_).weaken fun x => ?_
        · simp only [SeqParts.names, SeqParts.patterns, Option.toList_some, List.flatMap_append,
            List.flatMap_singleton, List.forall_mem_append] at hn ⊢
          exact ⟨hn.1, hn.2.1, hnp⟩
        · simp only [SeqParts.exprs, SeqParts.patterns, Option.toList_some, List.flatMap_append,
            List.flatMap_singleton, List.forall_mem_append] at he ⊢
          exact ⟨he.1, hep⟩
        · simp only [SeqParts.exprs, SeqParts.patterns, Option.toList_some, List.flatMap_append,
            List.flatMap_singleton, made_append, List.count_append]
          omega
    · split
      · refine .bind (wholeName_makes hg) fun name hname _ => ?_
        refine seqParts_makes hsub rest hrest { parts with whole := some name } ?_ he
        exact List.forall_mem_append.2 ⟨hname, (List.forall_mem_append.1 hn).2⟩
      · split
        · exact .throw _
        · refine .bind (pattern_makes hsub f hf) fun p hnp hep => ?_
          have hgrest := List.forall_mem_cons.2 ⟨hg, hrest⟩
          exact (seqParts_makes hsub (g :: rest) hgrest { parts with items := p :: parts.items }
            (SeqParts.names_item hn hnp) (SeqParts.exprs_item he hep)).weaken (SeqParts.count_item parts p)

/-- By induction on the entries of the pattern, with what has been made so far. -/
theorem mapParts_makes (hsub : ∀ f, f.WellSpelled → MakesExpr [] (sub f)) :
    ∀ (entries : List (Form × Form)), (∀ f ∈ Form.flatten entries, f.WellSpelled) → ∀ (parts : MapParts),
      (∀ n ∈ parts.names, isGenerated n = false) → (∀ e ∈ parts.exprs, e.Hygienic) →
      Makes (made parts.exprs) MapParts.names MapParts.exprs (mapParts sub parts entries)
  | [], _, parts, hn, he => by
    simp only [mapParts]
    exact .pure hn he fun x => Nat.le_refl _
  | (k, v) :: rest, hf, parts, hn, he => by
    have ⟨hk, hv, hrest⟩ : k.WellSpelled ∧ v.WellSpelled ∧ ∀ f ∈ Form.flatten rest, f.WellSpelled := by
      simpa only [Form.flatten, List.flatMap_cons, List.cons_append, List.nil_append, List.forall_mem_cons]
        using hf
    have ⟨hwhole, hnames⟩ := List.forall_mem_append.1 hn
    have ⟨hentries, hdefaults⟩ := List.forall_mem_append.1 he
    -- what remains after some entries have been added
    have hadd (new : List MapPart) (hnn : ∀ n ∈ new.flatMap MapPart.names, isGenerated n = false)
        (hne : ∀ e ∈ new.flatMap MapPart.exprs, e.Hygienic) :
        Makes (made (new.flatMap MapPart.exprs) ++ made parts.exprs) MapParts.names MapParts.exprs
          (mapParts sub { parts with entries := parts.entries ++ new } rest) := by
      refine (mapParts_makes hsub rest hrest { parts with entries := parts.entries ++ new } ?_ ?_).weaken
        fun x => ?_
      · simp only [MapParts.names, List.flatMap_append, List.forall_mem_append]
        exact ⟨hwhole, hnames, hnn⟩
      · simp only [MapParts.exprs, List.flatMap_append, List.forall_mem_append]
        exact ⟨⟨hentries, hne⟩, hdefaults⟩
      · simp only [MapParts.exprs, List.flatMap_append, made_append, List.count_append]
        omega
    simp only [mapParts]
    split
    · exact .bind (namedParts_makes _ _ (Form.wellSpelledAll_iff.1 hv)) fun new hnn hne => hadd new hnn hne
    · exact .throw _
    · exact .bind (namedParts_makes _ _ (Form.wellSpelledAll_iff.1 hv)) fun new hnn hne => hadd new hnn hne
    · exact .throw _
    · next defaults _ =>
      refine .bind (defaultParts_makes hsub fun p hp => ?_) fun new _ hne => ?_
      · have hpairs := Form.wellSpelledPairs_iff.1 hv
        exact ⟨hpairs _ (List.mem_flatMap.2 ⟨p, hp, by simp⟩), hpairs _ (List.mem_flatMap.2 ⟨p, hp, by simp⟩)⟩
      · refine (mapParts_makes hsub rest hrest { parts with defaults := parts.defaults ++ new } hn ?_).weaken
          fun x => ?_
        · simp only [MapParts.exprs, List.map_append, List.forall_mem_append]
          exact ⟨hentries, hdefaults, hne⟩
        · simp only [MapParts.exprs, List.map_append, made_append, List.count_append]
          omega
    · exact .throw _
    · refine .bind (wholeName_makes hv) fun name hname _ => ?_
      exact mapParts_makes hsub rest hrest { parts with whole := some name }
        (List.forall_mem_append.2 ⟨hname, hnames⟩) he
    · refine .bind (literalKey_makes _) fun key _ _ => .bind (pattern_makes hsub k hk) fun p hnp hep => ?_
      have hnew : [(p, key, (none : Option Expr))].flatMap MapPart.exprs = p.defaults :=
        List.flatMap_singleton _ _
      rw [← hnew] at hep ⊢
      exact hadd [(p, key, none)] (by simpa [MapPart.names] using hnp) hep

end

end

end Analyze

end ToolLisp
