import ToolLisp.Expr.OfForm
import ToolLisp.Proofs.Places
import ToolLisp.Run.Program

/-!
# What analysis accepts

Analysis is told where a form stands, and refuses a `recur` that does not fit there. So the expression of
every form fits the place in which the form was analysed (`analyzeAt_gives`), and a program fits the place
where there is no loop or function around it (`compile_fits`).

Each special form is covered by a lemma of its own, which assumes of the function that analyses the parts
what is to be shown of the whole. Patterns are analysed with the same function, so the expressions of
defaults fit too.
-/

namespace ToolLisp

/-- The place of a form that is analysed in a scope. -/
def Scope.place (s : Scope) : Place :=
  if s.tail then s.arity else none

namespace Analyze

open Expr

variable {α β : Type}

/-- If an analysis succeeds, its result satisfies `P`. -/
def Gives (P : α → Prop) (x : Analyze α) : Prop :=
  ∀ k a k', x.run k = .ok (a, k') → P a

section

variable {P : α → Prop} {R : β → Prop}

theorem Gives.pure {a : α} (h : P a) : Gives P (pure a) := by
  intro k b k' hb
  cases hb
  exact h

/-- An analysis that fails has no result. -/
theorem Gives.throw (e : AnalysisError) : Gives P (throw e) := by
  intro k b k' hb
  cases hb

/-- The second analysis may use what the first one gives. -/
theorem Gives.bind {x : Analyze α} {f : α → Analyze β} (hx : Gives P x)
    (hf : ∀ a, P a → Gives R (f a)) : Gives R (x >>= f) := by
  intro k b k' hb
  rw [StateT.run_bind] at hb
  cases hr : x.run k with
  | error e =>
    rw [hr] at hb
    cases hb
  | ok r =>
    rw [hr] at hb
    exact hf r.1 (hx k r.1 r.2 hr) r.2 b k' hb

theorem Gives.mono {P' : α → Prop} {x : Analyze α} (hx : Gives P x) (h : ∀ a, P a → P' a) :
    Gives P' x :=
  fun k a k' ha => h a (hx k a k' ha)

/-- The counter with which an analysis starts does not matter. -/
theorem Gives.run' {x : Analyze α} (hx : Gives P x) {k : Nat} {a : α}
    (h : StateT.run' x k = .ok a) : P a := by
  unfold StateT.run' at h
  cases hr : x k with
  | error e =>
    rw [hr] at h
    cases h
  | ok r =>
    rw [hr] at h
    cases h
    exact hx k r.1 r.2 hr

/-- An analysis of which nothing is asked. -/
theorem gives_true (x : Analyze α) : Gives (fun _ => True) x :=
  fun _ _ _ _ => trivial

/-- Analysing each of several forms. -/
theorem Gives.mapM {f : α → Analyze β} {xs : List α} (hf : ∀ x, Gives R (f x)) :
    Gives (fun ys => ys.length = xs.length ∧ ∀ y ∈ ys, R y) (xs.mapM f) := by
  induction xs with
  | nil => exact .pure ⟨rfl, fun _ h => by cases h⟩
  | cons x xs ih =>
    rw [List.mapM_cons]
    refine (hf x).bind fun y hy => ih.bind fun ys hys => .pure ⟨?_, ?_⟩
    · rw [List.length_cons, List.length_cons, hys.1]
    · exact List.forall_mem_cons.2 ⟨hy, hys.2⟩

end

/-! ## Patterns -/

section

variable {P : Expr → Prop} {sub : Form → Analyze Expr} (hsub : ∀ f, Gives P (sub f))

/-- `P` holds of every default of a pattern. -/
def EachDefault (P : Expr → Prop) (p : Pattern) : Prop :=
  ∀ d ∈ p.defaults, P d

/-- `P` holds of every default of an entry of a map pattern. -/
def MapPart.EachDefault (P : Expr → Prop) (part : MapPart) : Prop :=
  Analyze.EachDefault P part.1 ∧ ∀ d ∈ part.2.2, P d

/-- The defaults of several patterns are those of each of them. -/
theorem forall_mem_defaultsOfAll {ps : List Pattern} :
    (∀ d ∈ Pattern.defaultsOfAll ps, P d) ↔ ∀ p ∈ ps, EachDefault P p := by
  induction ps with
  | nil => simp [Pattern.defaultsOfAll]
  | cons p rest ih =>
    simp only [Pattern.defaultsOfAll, List.forall_mem_append, List.forall_mem_cons, ih]
    rfl

theorem forall_mem_defaultsOfParts {parts : List MapPart} :
    (∀ d ∈ Pattern.defaultsOfParts parts, P d) ↔ ∀ part ∈ parts, part.EachDefault P := by
  induction parts with
  | nil => simp [Pattern.defaultsOfParts]
  | cons part rest ih =>
    obtain ⟨p, key, default⟩ := part
    cases default with
    | none =>
      simp only [Pattern.defaultsOfParts, List.forall_mem_append, List.forall_mem_cons, ih,
        MapPart.EachDefault, EachDefault]
      simp
    | some e =>
      simp only [Pattern.defaultsOfParts, List.forall_mem_append, List.forall_mem_cons, ih,
        MapPart.EachDefault, EachDefault]
      simp [and_assoc, and_left_comm]

/-- A name for the whole value adds no defaults. -/
theorem eachDefault_withWhole {name : Option String} {p : Pattern} (h : EachDefault P p) :
    EachDefault P (withWhole name p) := by
  cases name with
  | none => exact h
  | some name =>
    unfold EachDefault withWhole
    simp only [Pattern.defaults]
    exact h

/-- The defaults of a pattern for vectors are those of its items and of the rest. -/
theorem eachDefault_seq {items : List Pattern} {rest : Option Pattern}
    (hi : ∀ p ∈ items, EachDefault P p) (hr : ∀ p ∈ rest, EachDefault P p) :
    EachDefault P (.seq items rest) := by
  unfold EachDefault
  cases rest with
  | none =>
    simp only [Pattern.defaults]
    exact forall_mem_defaultsOfAll.2 hi
  | some rest =>
    simp only [Pattern.defaults]
    exact List.forall_mem_append.2 ⟨forall_mem_defaultsOfAll.2 hi, hr rest rfl⟩

/-- Names that are listed have no defaults of their own; they get them afterwards. -/
theorem namedParts_gives (directive : String) (key : String → Literal) (forms : List Form) :
    Gives (fun parts => ∀ part ∈ parts, part.EachDefault P) (namedParts directive key forms) := by
  have hname (name : String) : MapPart.EachDefault P (.name name, key name, none) := by
    simp [MapPart.EachDefault, EachDefault, Pattern.defaults]
  induction forms with
  | nil => exact .pure fun _ h => by cases h
  | cons f rest ih =>
    cases f with
    | symbol name =>
      exact ih.bind fun parts hp => .pure (List.forall_mem_cons.2 ⟨hname name, hp⟩)
    | keyword name =>
      exact ih.bind fun parts hp => .pure (List.forall_mem_cons.2 ⟨hname name, hp⟩)
    | _ => exact .throw _

include hsub in
theorem defaultParts_gives (forms : List (Form × Form)) :
    Gives (fun ds => ∀ d ∈ ds, P d.2) (defaultParts sub forms) := by
  induction forms with
  | nil => exact .pure fun _ h => by cases h
  | cons f rest ih =>
    obtain ⟨f, value⟩ := f
    cases f with
    | symbol name =>
      exact (hsub value).bind fun e he => ih.bind fun ds hds =>
        .pure (List.forall_mem_cons.2 ⟨he, hds⟩)
    | _ => exact .throw _

/-- A default replaces that of one part, and the other parts keep theirs. By induction on the parts. -/
theorem setDefault_eachDefault {name : String} {value : Expr} (hv : P value) :
    ∀ {parts parts' : List MapPart}, (∀ part ∈ parts, part.EachDefault P) →
      setDefault name value parts = some parts' → ∀ part ∈ parts', part.EachDefault P := by
  intro parts
  induction parts with
  | nil => exact fun _ h => by cases h
  | cons part rest ih =>
    intro parts' hp h
    have ⟨hpart, hrest⟩ := List.forall_mem_cons.1 hp
    unfold setDefault at h
    split at h
    · cases h
      refine List.forall_mem_cons.2 ⟨⟨hpart.1, fun d hd => ?_⟩, hrest⟩
      cases hd
      exact hv
    · obtain ⟨rest', h', rfl⟩ := Option.map_eq_some_iff.1 h
      exact List.forall_mem_cons.2 ⟨hpart, ih hrest h'⟩

/-- Several defaults are set one after the other. By induction on them. -/
theorem setDefaults_gives {defaults : List (String × Expr)} (hd : ∀ d ∈ defaults, P d.2) :
    ∀ {parts : List MapPart}, (∀ part ∈ parts, part.EachDefault P) →
      Gives (fun parts => ∀ part ∈ parts, part.EachDefault P) (setDefaults parts defaults) := by
  induction defaults with
  | nil => exact fun hp => .pure hp
  | cons d rest ih =>
    intro parts hp
    have ⟨hv, hrest⟩ := List.forall_mem_cons.1 hd
    unfold setDefaults
    split
    · next parts' h => exact ih hrest (setDefault_eachDefault hv hp h)
    · exact .throw _

/-- What holds of the parts of a vector pattern that are read so far. -/
def SeqParts.EachDefault (P : Expr → Prop) (parts : SeqParts) : Prop :=
  (∀ p ∈ parts.items, Analyze.EachDefault P p) ∧ ∀ p ∈ parts.rest, Analyze.EachDefault P p

/-- What holds of the parts of a map pattern that are read so far. -/
def MapParts.EachDefault (P : Expr → Prop) (parts : MapParts) : Prop :=
  (∀ part ∈ parts.entries, part.EachDefault P) ∧ ∀ d ∈ parts.defaults, P d.2

mutual

/-- Analysing a pattern, when the expressions of defaults satisfy `P`. -/
theorem pattern_gives (hsub : ∀ f, Gives P (sub f)) :
    ∀ f : Form, Gives (EachDefault P) (pattern sub f)
  | .symbol name => by
    simp only [pattern]
    split
    · exact .pure (by simp [EachDefault, Pattern.defaults])
    · split
      · exact .throw _
      · exact .pure (by simp [EachDefault, Pattern.defaults])
  | .vector items => by
    simp only [pattern]
    refine (seqParts_gives hsub items ⟨[], none, none⟩ ⟨by simp, by simp⟩).bind fun parts hp => ?_
    refine .pure (eachDefault_withWhole (eachDefault_seq (fun p hmem => ?_) hp.2))
    exact hp.1 p (List.mem_reverse.1 hmem)
  | .map entries => by
    simp only [pattern]
    refine (mapParts_gives hsub entries ⟨[], [], none⟩ ⟨by simp, by simp⟩).bind fun parts hp => ?_
    refine (setDefaults_gives hp.2 hp.1).bind fun entries he => ?_
    refine .pure (eachDefault_withWhole ?_)
    unfold EachDefault
    simp only [Pattern.defaults]
    exact forall_mem_defaultsOfParts.2 he
  | .nil | .bool _ | .number _ | .string _ | .keyword _ | .qualified _ _ | .list _ => by
    simp only [pattern]
    exact .throw _

/-- By induction on the forms of the pattern, of which a directive takes two. -/
theorem seqParts_gives (hsub : ∀ f, Gives P (sub f)) :
    ∀ (items : List Form) (parts : SeqParts), parts.EachDefault P →
      Gives (SeqParts.EachDefault P) (seqParts sub parts items)
  | [], parts, hp => by simp only [seqParts]; exact .pure hp
  | [f], parts, hp => by
    simp only [seqParts]
    split
    · exact .throw _
    · split
      · exact .throw _
      · split
        · exact .throw _
        · exact (pattern_gives hsub f).bind fun p hq =>
            .pure ⟨List.forall_mem_cons.2 ⟨hq, hp.1⟩, hp.2⟩
  -- a rest and a name for the whole take two forms at once
  | f :: g :: rest, parts, hp => by
    simp only [seqParts]
    split
    · split
      · exact .throw _
      · refine (pattern_gives hsub g).bind fun p hq => seqParts_gives hsub rest _ ⟨hp.1, ?_⟩
        intro p' hp'
        cases hp'
        exact hq
    · split
      · exact (gives_true _).bind fun name _ => seqParts_gives hsub rest _ ⟨hp.1, hp.2⟩
      · split
        · exact .throw _
        · exact (pattern_gives hsub f).bind fun p hq =>
            seqParts_gives hsub (g :: rest) _ ⟨List.forall_mem_cons.2 ⟨hq, hp.1⟩, hp.2⟩

/-- By induction on the entries of the pattern. -/
theorem mapParts_gives (hsub : ∀ f, Gives P (sub f)) :
    ∀ (entries : List (Form × Form)) (parts : MapParts), parts.EachDefault P →
      Gives (MapParts.EachDefault P) (mapParts sub parts entries)
  | [], parts, hp => by simp only [mapParts]; exact .pure hp
  | (k, v) :: rest, parts, hp => by
    -- entries that the names of a vector stand for
    have hnames (directive : String) (key : String → Literal) (names : List Form) :
        Gives (MapParts.EachDefault P) (do
          let new ← namedParts directive key names
          mapParts sub { parts with entries := parts.entries ++ new } rest) :=
      (namedParts_gives directive key names).bind fun new hn =>
        mapParts_gives hsub rest _ ⟨List.forall_mem_append.2 ⟨hp.1, hn⟩, hp.2⟩
    simp only [mapParts]
    split
    · exact hnames _ _ _
    · exact .throw _
    · exact hnames _ _ _
    · exact .throw _
    · exact (defaultParts_gives hsub _).bind fun new hn =>
        mapParts_gives hsub rest _ ⟨hp.1, List.forall_mem_append.2 ⟨hp.2, hn⟩⟩
    · exact .throw _
    · exact (gives_true _).bind fun name _ => mapParts_gives hsub rest _ ⟨hp.1, hp.2⟩
    · refine (gives_true _).bind fun key _ => (pattern_gives hsub k).bind fun p hq => ?_
      refine mapParts_gives hsub rest _ ⟨List.forall_mem_append.2 ⟨hp.1, ?_⟩, hp.2⟩
      intro part hpart
      rw [List.mem_singleton.1 hpart]
      exact ⟨hq, by simp⟩

end

end

/-! ## Several parts -/

variable {sub : Scope → Form → Analyze Expr}

/-- The analysis of the parts of a form gives expressions that fit. -/
def Fitting (sub : Scope → Form → Analyze Expr) : Prop :=
  ∀ s f, Gives (Fits s.place) (sub s f)

theorem fits_nil (a : Place) : Fits a .nil :=
  fits_of_parts (fun _ h => by cases h) fun _ h => by cases h

theorem fits_var (a : Place) (name : String) : Fits a (.var name) :=
  fits_of_parts (fun _ h => by cases h) fun _ h => by cases h

/-- What is bound is used before the body is entered, so only the body stands where the whole stands. -/
theorem fits_bind {a : Place} {bs : List (Pattern × Expr)} {e : Expr}
    (hb : ∀ e ∈ ofBindings bs, Fits none e) (he : Fits a e) : Fits a (.bind bs e) :=
  fits_of_parts (fun _ h => by cases h) (List.forall_mem_cons.2 ⟨he, forall_mem_inner.2 hb⟩)

/-- Both branches stand where the whole stands, and the test does not. -/
theorem fits_choose {a : Place} {test yes no : Expr} (ht : Fits none test) (hy : Fits a yes)
    (hn : Fits a no) : Fits a (.choose test yes no) := by
  refine fits_of_parts (fun _ h => by cases h) ?_
  simp only [Expr.parts, List.forall_mem_cons]
  exact ⟨ht, hy, hn, fun _ h => by cases h⟩

/-- The branch with the bindings and the other one stand where the whole stands. -/
theorem fits_bindTruthy {a : Place} {temporary : String} {p : Pattern} {value yes no : Expr}
    (hv : ∀ e ∈ value :: p.defaults, Fits none e) (hy : Fits a yes) (hn : Fits a no) :
    Fits a (bindTruthy temporary p value yes no) := by
  have ⟨hv, hp⟩ := List.forall_mem_cons.1 hv
  refine fits_bind (by simpa [ofBindings, Pattern.defaults] using hv) ?_
  refine fits_choose (fits_var _ _) (fits_bind ?_ hy) hn
  simpa [ofBindings, fits_var] using hp

/-- An expression all of whose parts are used, and that is no `recur`. -/
theorem fits_of_inner {a : Place} {e : Expr} {es : List Expr} (he : e.parts a = Expr.inner es)
    (hr : ∀ args, e ≠ .recur args) (hes : ∀ e ∈ es, Fits none e) : Fits a e :=
  fits_of_parts (fun args h => absurd h (hr args)) (he ▸ forall_mem_inner.2 hes)

/-- An expression with one part, which does not stand where the whole stands. -/
theorem fits_of_one {a : Place} {e e' : Expr} (he : e.parts a = Expr.inner [e'])
    (hr : ∀ args, e ≠ .recur args) (h : Fits none e') : Fits a e :=
  fits_of_inner he hr fun d hd => by
    rw [List.mem_singleton.1 hd]
    exact h

section

variable (hsub : Fitting sub) (s : Scope)
include hsub

theorem Fitting.inner (f : Form) : Gives (Fits none) (sub s.inner f) :=
  hsub s.inner f

/-- Several forms, none of which stands where the whole stands. -/
theorem parts_gives (forms : List Form) :
    Gives (fun es => es.length = forms.length ∧ ∀ e ∈ es, Fits none e) (parts sub s forms) :=
  .mapM (hsub.inner s)

/-- The length matters: only the last of the expressions stands where the whole stands. -/
theorem partsToLast_gives (forms : List Form) :
    Gives (fun es => es.length = forms.length ∧ ∀ p ∈ toLast s.place es, Fits p.1 p.2)
      (partsToLast sub s forms) := by
  induction forms with
  | nil => exact .pure ⟨rfl, fun _ h => by cases h⟩
  | cons f rest ih =>
    cases rest with
    | nil =>
      refine (hsub s f).bind fun e he => .pure ⟨rfl, fun p hp => ?_⟩
      rw [toLast, List.mem_singleton] at hp
      rw [hp]
      exact he
    | cons g rest =>
      refine (hsub.inner s f).bind fun e he => ih.bind fun es hes => ?_
      refine .pure ⟨by rw [List.length_cons, hes.1]; rfl, ?_⟩
      cases es with
      | nil => cases hes.1
      | cons e' es => exact List.forall_mem_cons.2 ⟨he, hes.2⟩

/-- Of several forms only the last one stands where the whole stands. -/
theorem body_gives (forms : List Form) : Gives (Fits s.place) (body sub s forms) := by
  unfold body
  split
  · exact .pure (fits_nil _)
  · exact hsub s _
  · exact (partsToLast_gives hsub s _).bind fun es hes =>
      .pure (fits_of_parts (fun _ h => by cases h) hes.2)

/-- Keys and values of a map are used in it, so they do not stand where it stands. -/
theorem entries_gives (pairs : List (Form × Form)) :
    Gives (fun es => ∀ e ∈ es, Fits none e.1 ∧ Fits none e.2) (entries sub s pairs) := by
  refine Gives.mono (Gives.mapM fun kv => ?_) fun _ h => h.2
  exact (hsub.inner s kv.1).bind fun k hk => (hsub.inner s kv.2).bind fun v hv => .pure ⟨hk, hv⟩

/-! ## Bindings -/

/-- The expressions in bindings are used before the bindings are made. -/
theorem bindings_gives (name : String) (f : Form) :
    Gives (fun bs => ∀ e ∈ ofBindings bs, Fits none e) (bindings sub s name f) := by
  unfold bindings
  split
  · split
    · refine Gives.mono (Gives.mapM (R := fun b => ∀ e ∈ b.2 :: b.1.defaults, Fits none e)
        fun pe => ?_) fun bs h e he => ?_
      · exact (pattern_gives (hsub.inner s) pe.1).bind fun p hp =>
          (hsub.inner s pe.2).bind fun e he => .pure (List.forall_mem_cons.2 ⟨he, hp⟩)
      · obtain ⟨b, hb, he⟩ := List.mem_flatMap.1 he
        exact h.2 b hb e he
    · exact .throw _
  · exact .throw _

theorem letForm_gives (args : List Form) : Gives (Fits s.place) (letForm sub s args) := by
  cases args with
  | nil => exact .throw _
  | cons b rest =>
    exact (bindings_gives hsub s "let" b).bind fun bs hb =>
      (body_gives hsub s rest).bind fun e he => .pure (fits_bind hb he)

/-- The body of a loop stands in a place of its own, which takes as many values as the loop has bindings. -/
theorem loopForm_gives (args : List Form) : Gives (Fits s.place) (loopForm sub s args) := by
  cases args with
  | nil => exact .throw _
  | cons b rest =>
    refine (bindings_gives hsub s "loop" b).bind fun bs hb =>
      (body_gives hsub (.entered bs.length) rest).bind fun e he => .pure ?_
    exact fits_of_parts (fun _ h => by cases h)
      (List.forall_mem_cons.2 ⟨he, forall_mem_inner.2 hb⟩)

/-- The one check that the whole analysis is about. -/
theorem recurForm_gives (args : List Form) : Gives (Fits s.place) (recurForm sub s args) := by
  unfold recurForm
  split
  · exact .throw _
  · next n hn =>
    split
    · next ht =>
      split
      · next hl =>
        refine (parts_gives hsub s args).bind fun es hes => .pure (fits_of_parts ?_ ?_)
        · intro _ h
          cases h
          rw [Scope.place, if_pos ht, hn, hes.1, hl]
        · exact forall_mem_inner.2 hes.2
      · exact .throw _
    · exact .throw _

theorem oneBinding_gives (name : String) (f : Form) :
    Gives (fun b => ∀ e ∈ b.2 :: b.1.defaults, Fits none e) (oneBinding sub s name f) := by
  refine (bindings_gives hsub s name f).bind fun bs hb => ?_
  split
  · exact .pure fun e he => hb e (by simpa [ofBindings] using he)
  · exact .throw _

/-- The number of the temporary is counted up in between, which does not matter here. -/
theorem ifLetBranches_gives (b yes : Form) (no : Option Form) :
    Gives (Fits s.place) (ifLetBranches sub s b yes no) := by
  refine (oneBinding_gives hsub s _ b).bind fun pv hv => (gives_true _).bind fun temporary _ => ?_
  have hrest (no : Expr) (hn : Fits s.place no) : Gives (Fits s.place) (do
      let yes ← sub s yes
      pure (bindTruthy temporary pv.1 pv.2 yes no)) :=
    (hsub s yes).bind fun yes hy => .pure (fits_bindTruthy hv hy hn)
  cases no with
  | none => exact (Gives.pure (fits_nil _)).bind hrest
  | some f => exact (hsub s f).bind hrest

theorem ifLetForm_gives (args : List Form) : Gives (Fits s.place) (ifLetForm sub s args) := by
  unfold ifLetForm
  split
  · exact ifLetBranches_gives hsub s _ _ _
  · exact ifLetBranches_gives hsub s _ _ _
  · exact .throw _

theorem whenLetForm_gives (args : List Form) : Gives (Fits s.place) (whenLetForm sub s args) := by
  cases args with
  | nil => exact .throw _
  | cons b rest =>
    exact (oneBinding_gives hsub s _ b).bind fun pv hv => (gives_true _).bind fun temporary _ =>
      (body_gives hsub s rest).bind fun e he => .pure (fits_bindTruthy hv he (fits_nil _))

/-! ## Choices -/

/-- Without a second branch it is `nil`. -/
theorem ifForm_gives (args : List Form) : Gives (Fits s.place) (ifForm sub s args) := by
  unfold ifForm
  split
  · exact (hsub.inner s _).bind fun test ht => (hsub s _).bind fun yes hy =>
      .pure (fits_choose ht hy (fits_nil _))
  · exact (hsub s _).bind fun no hn => (hsub.inner s _).bind fun test ht =>
      (hsub s _).bind fun yes hy => .pure (fits_choose ht hy hn)
  · exact .throw _

theorem whenForm_gives (args : List Form) : Gives (Fits s.place) (whenForm sub s args) := by
  cases args with
  | nil => exact .throw _
  | cons test rest =>
    exact (hsub.inner s test).bind fun test ht => (body_gives hsub s rest).bind fun e he =>
      .pure (fits_choose ht he (fits_nil _))

theorem whenNotForm_gives (args : List Form) : Gives (Fits s.place) (whenNotForm sub s args) := by
  cases args with
  | nil => exact .throw _
  | cons test rest =>
    exact (hsub.inner s test).bind fun test ht => (body_gives hsub s rest).bind fun e he =>
      .pure (fits_choose ht (fits_nil _) he)

/-- Each test guards the clauses after it. By induction on the clauses. -/
theorem clauses_gives (pairs : List (Form × Form)) :
    Gives (Fits s.place) (clauses sub s pairs) := by
  induction pairs with
  | nil => exact .pure (fits_nil _)
  | cons clause rest ih =>
    exact (hsub.inner s clause.1).bind fun test ht => (hsub s clause.2).bind fun yes hy =>
      ih.bind fun no hn => .pure (fits_choose ht hy hn)

theorem condForm_gives (args : List Form) : Gives (Fits s.place) (condForm sub s args) := by
  unfold condForm
  split
  · exact clauses_gives hsub s _
  · exact .throw _

/-! ## Functions and definitions -/

/-- The body of a function stands in a place of its own, so it does not matter where the function stands. -/
theorem fnForm_gives (args : List Form) (a : Place) : Gives (Fits a) (fnForm sub s args) := by
  unfold fnForm
  split
  · split
    · exact .throw _
    · refine (Gives.mapM (pattern_gives (hsub.inner s))).bind fun ps hps => ?_
      refine (body_gives hsub (.entered ps.length) _).bind fun e he => .pure ?_
      refine fits_of_parts (fun _ h => by cases h) (List.forall_mem_cons.2 ⟨he, ?_⟩)
      exact forall_mem_inner.2 (forall_mem_defaultsOfAll.2 hps.2)
  · exact .throw _

/-- A definition holds a function. -/
theorem defnForm_gives (args : List Form) : Gives (Fits s.place) (defnForm sub s args) := by
  cases args with
  | nil => exact .throw _
  | cons name rest =>
    refine (gives_true _).bind fun name _ => ?_
    split
    · exact .throw _
    · exact (fnForm_gives hsub s _ none).bind fun e he => .pure (fits_of_one rfl (by simp) he)

theorem defForm_gives (args : List Form) : Gives (Fits s.place) (defForm sub s args) := by
  unfold defForm
  split
  · exact (gives_true _).bind fun name _ => (hsub.inner s _).bind fun e he =>
      .pure (fits_of_one rfl (by simp) he)
  · exact .throw _

/-! ## Row predicates, tools and ends -/

/-- The operand of a test is used in it, and the path consists of literals. -/
theorem whereForm_gives (args : List Form) : Gives (Fits s.place) (whereForm sub s args) := by
  unfold whereForm
  split
  · exact (gives_true _).bind fun path _ => .pure (fits_of_inner rfl (by simp) (by simp))
  · exact (gives_true _).bind fun path _ => (gives_true _).bind fun op _ =>
      (hsub.inner s _).bind fun e he => .pure (fits_of_one rfl (by simp) he)
  · exact .throw _

/-- A tool gets a map of arguments, which may be left out. -/
theorem callForm_gives (args : List Form) : Gives (Fits s.place) (callForm sub s args) := by
  unfold callForm
  split
  · exact .pure (fits_of_one rfl (by simp) (fits_of_inner rfl (by simp) (by simp)))
  · exact (hsub.inner s _).bind fun e he => .pure (fits_of_one rfl (by simp) he)
  iterate 3 exact .throw _

theorem lastValue_gives (name : String) (args : List Form) :
    Gives (Fits none) (lastValue sub s name args) := by
  unfold lastValue
  split
  · exact hsub.inner s _
  · exact .throw _

/-- What is threaded through forms becomes an argument of each of them, and all are analysed as usual. -/
theorem threadForm_gives (place : ThreadPlace) (args : List Form) :
    Gives (Fits s.place) (threadForm sub s place args) := by
  unfold threadForm
  split
  · exact .throw _
  · exact hsub s _

/-! ## All forms -/

/-- One case per special form. -/
theorem special_gives (args : List Form) (f : Special) :
    Gives (Fits s.place) (special sub s args f) := by
  cases f with
  | letIn => exact letForm_gives hsub s args
  | ifElse => exact ifForm_gives hsub s args
  | when => exact whenForm_gives hsub s args
  | whenNot => exact whenNotForm_gives hsub s args
  | cond => exact condForm_gives hsub s args
  | and =>
    exact (partsToLast_gives hsub s args).bind fun es hes =>
      .pure (fits_of_parts (fun _ h => by cases h) hes.2)
  | or =>
    exact (partsToLast_gives hsub s args).bind fun es hes =>
      .pure (fits_of_parts (fun _ h => by cases h) hes.2)
  | sequence => exact body_gives hsub s args
  | fn => exact fnForm_gives hsub s args s.place
  | defineFn => exact defnForm_gives hsub s args
  | define => exact defForm_gives hsub s args
  | loop => exact loopForm_gives hsub s args
  | recur => exact recurForm_gives hsub s args
  | rowTest => exact whereForm_gives hsub s args
  | ret | fail =>
    exact (lastValue_gives hsub s _ args).bind fun e he => .pure (fits_of_one rfl (by simp) he)
  | call => exact callForm_gives hsub s args
  | thread place => exact threadForm_gives hsub s place args
  | ifLet => exact ifLetForm_gives hsub s args
  | whenLet => exact whenLetForm_gives hsub s args
  | combine c =>
    exact (parts_gives hsub s args).bind fun es hes =>
      .pure (fits_of_inner rfl (by simp) hes.2)

/-- A form is a literal, a variable, a collection, a special form or a call. -/
theorem form_gives (f : Form) : Gives (Fits s.place) (form sub s f) := by
  have hatom {e : Expr} (he : e.parts s.place = []) (hr : ∀ args, e ≠ .recur args) :
      Gives (Fits s.place) (pure e) :=
    .pure (@fits_of_inner _ _ [] he hr (by simp))
  unfold form
  split
  -- the atoms have no parts
  iterate 6 exact hatom rfl (by simp)
  · unfold qualified
    split
    · exact hatom rfl (by simp)
    · exact hatom rfl (by simp)
    · exact .throw _
  · exact (parts_gives hsub s _).bind fun es hes => .pure (fits_of_inner rfl (by simp) hes.2)
  · refine (entries_gives hsub s _).bind fun es hes => .pure (fits_of_inner rfl (by simp) ?_)
    intro e he
    obtain ⟨kv, hkv, he⟩ := List.mem_flatMap.1 he
    simp only [List.mem_cons, List.not_mem_nil, or_false] at he
    rcases he with rfl | rfl
    · exact (hes kv hkv).1
    · exact (hes kv hkv).2
  · exact hatom rfl (by simp)
  · split
    · exact special_gives hsub s _ _
    · exact (hsub.inner s _).bind fun callee hc => (parts_gives hsub s _).bind fun es hes =>
        .pure (fits_of_inner rfl (by simp) (List.forall_mem_cons.2 ⟨hc, hes.2⟩))

end

end Analyze

open Analyze

/-- The expression of a form fits the place in which the form was analysed. By induction on the nesting
that is allowed, which closes the recursion through the parts. -/
theorem Form.analyzeAt_gives (n : Nat) : Fitting (analyzeAt n) := by
  induction n with
  | zero => exact fun _ _ => .throw _
  | succ n ih => exact fun s f => form_gives ih s f

/-- A program has no `recur` outside of loops and functions, and each has the arguments that its loop or
function takes. -/
theorem compile_fits {source : String} {program : Expr} (h : compile source = .ok program) :
    program.Fits none := by
  unfold compile at h
  split at h
  · cases h
  · next forms _ =>
    split at h
    · cases h
    · next e he =>
      cases h
      unfold Expr.ofForms at he
      split at he
      · cases he
      · have hsub : Fitting fun s f => f.analyzeIn s := fun s f =>
          Form.analyzeAt_gives (2 * f.size) s f
        exact (body_gives hsub .top forms).run' he

end ToolLisp
