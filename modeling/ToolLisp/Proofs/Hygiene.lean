import ToolLisp.Proofs.Temporaries

/-!
# Hygiene of analysis

The expression of every form is hygienic, and its temporaries are different from all that were made before
(`analyzeAt_makes`). So a program is hygienic, and its temporaries have different names (`compile_hygienic`).

The lemmas follow the analysis as those about places do: each special form has one, which assumes of the
function that analyses the parts what is to be shown of the whole.
-/

namespace ToolLisp

open Expr

namespace Analyze

/-! ## Several parts -/

variable {sub : Scope → Form → Analyze Expr}

/-- The analysis of the parts of a form makes hygienic expressions. -/
def MakesParts (sub : Scope → Form → Analyze Expr) : Prop :=
  ∀ s f, f.WellSpelled → MakesExpr [] (sub s f)

theorem nil_hygienic : Expr.nil.Hygienic :=
  .node (fun _ h => by cases h) fun _ h => by cases h

theorem temporaries_nil : Expr.nil.temporaries = [] := rfl

section

variable (hsub : MakesParts sub) (s : Scope)
include hsub

/-- Several forms are analysed one after the other, and none of them binds a name here. -/
theorem parts_makes {forms : List Form} (hf : ∀ f ∈ forms, f.WellSpelled) :
    Makes [] (fun _ => []) (fun es => es) (parts sub s forms) :=
  Makes.mapMExpr fun f h => hsub s.inner f (hf f h)

/-- By induction on the forms. Which of them is the last one makes no difference to names. -/
theorem partsToLast_makes : ∀ {forms : List Form}, (∀ f ∈ forms, f.WellSpelled) →
    Makes [] (fun _ => []) (fun es => es) (partsToLast sub s forms)
  | [], _ => .pure (by simp) (by simp) (by simp)
  | [f], hf =>
    (hsub s f (List.forall_mem_singleton.1 hf)).bindExpr fun e he =>
      .pure (by simp) (List.forall_mem_singleton.2 he) fun _ => Nat.le_refl _
  | f :: g :: rest, hf => by
    have ⟨hf, hrest⟩ := List.forall_mem_cons.1 hf
    refine (hsub s.inner f hf).bindExpr fun e he => .bind (partsToLast_makes hrest) fun es _ hes => ?_
    refine .pure (by simp) (List.forall_mem_cons.2 ⟨he, hes⟩) fun x => ?_
    simp only [made_cons, List.append_nil, List.count_append]
    omega

/-- Without any form it is `nil`, which makes nothing. -/
theorem body_makes {forms : List Form} (hf : ∀ f ∈ forms, f.WellSpelled) :
    MakesExpr [] (body sub s forms) := by
  unfold body
  split
  · exact .leaf rfl fun _ h => by cases h
  · exact hsub s _ (List.forall_mem_singleton.1 hf)
  · exact .bind (partsToLast_makes hsub s hf) fun es _ hes =>
      .plain (toLast_snd none es) rfl hes (by simp)

/-- Keys and values are analysed in the order in which they stand. -/
theorem entries_makes {pairs : List (Form × Form)} (hf : ∀ p ∈ pairs, p.1.WellSpelled ∧ p.2.WellSpelled) :
    Makes [] (fun _ => []) (fun es => es.flatMap fun e => [e.1, e.2]) (entries sub s pairs) := by
  have hpair : ∀ p ∈ pairs, Makes [] (fun _ => []) (fun e => [e.1, e.2]) (do
      let key ← sub s.inner p.1
      let value ← sub s.inner p.2
      return (key, value)) := by
    intro p hp
    refine (hsub s.inner _ (hf p hp).1).bindExpr fun k hk =>
      (hsub s.inner _ (hf p hp).2).bindExpr fun v hv => ?_
    refine .pure (by simp) (by simp [hk, hv]) fun x => ?_
    simp only [made_cons, made_nil, List.append_nil, List.count_append]
    omega
  exact (Makes.mapM hpair).imp (fun _ _ h => by cases h) fun _ => rfl

/-! ## Bindings -/

/-- The names are those of the patterns, and the expressions those of the bindings with the defaults. -/
theorem bindings_makes (name : String) {f : Form} (hf : f.WellSpelled) :
    Makes [] (fun bs => bs.flatMap fun b => b.1.names) ofBindings (bindings sub s name f) := by
  unfold bindings
  split
  · split
    · refine Makes.mapM fun pe hpe => ?_
      have ⟨hp, he⟩ := Form.wellSpelled_pairs (Form.wellSpelledAll_iff.1 hf) pe hpe
      refine .bind (pattern_makes (hsub s.inner) pe.1 hp) fun p hn hd =>
        (hsub s.inner pe.2 he).bindExpr fun e he => ?_
      refine .pure hn (List.forall_mem_cons.2 ⟨he, hd⟩) fun x => ?_
      simp only [made_cons, List.append_nil, List.count_append]
      omega
    · exact .throw _
  · exact .throw _

/-- What is bound is spelled by the source text. -/
theorem letForm_makes {args : List Form} (hf : ∀ f ∈ args, f.WellSpelled) :
    MakesExpr [] (letForm sub s args) := by
  cases args with
  | nil => exact .throw _
  | cons b rest =>
    have ⟨hb, hrest⟩ := List.forall_mem_cons.1 hf
    refine .bind (bindings_makes hsub s "let" hb) fun bs hn hbs =>
      (body_makes hsub s hrest).bindExpr fun e he => ?_
    refine .node (direct_bind bs e) ?_ (List.forall_mem_cons.2 ⟨he, hbs⟩) fun x => ?_
    · simpa [namesHere, boundHere, readHere, definedHere] using hn
    · simp

/-- The bindings of a loop are those of a `let`. -/
theorem loopForm_makes {args : List Form} (hf : ∀ f ∈ args, f.WellSpelled) :
    MakesExpr [] (loopForm sub s args) := by
  cases args with
  | nil => exact .throw _
  | cons b rest =>
    have ⟨hb, hrest⟩ := List.forall_mem_cons.1 hf
    refine .bind (bindings_makes hsub s "loop" hb) fun bs hn hbs =>
      (body_makes hsub _ hrest).bindExpr fun e he => ?_
    refine .node (congrArg (e :: ·) (map_inner _)) ?_ (List.forall_mem_cons.2 ⟨he, hbs⟩) fun x => ?_
    · simpa [namesHere, boundHere, readHere, definedHere] using hn
    · simp

theorem recurForm_makes {args : List Form} (hf : ∀ f ∈ args, f.WellSpelled) :
    MakesExpr [] (recurForm sub s args) := by
  unfold recurForm
  split
  · exact .throw _
  · split
    · split
      · exact .bind (parts_makes hsub s hf) fun es _ hes => .plain (map_inner es) rfl hes (by simp)
      · exact .throw _
    · exact .throw _

theorem oneBinding_makes (name : String) {f : Form} (hf : f.WellSpelled) :
    Makes [] (fun b => b.1.names) (fun b => b.2 :: b.1.defaults) (oneBinding sub s name f) := by
  refine .bind (bindings_makes hsub s name hf) fun bs hn he => ?_
  split
  · refine .pure (by simpa using hn) (fun e h => he e (by simpa [ofBindings] using h)) fun x => ?_
    simp [ofBindings]
  · exact .throw _

/-- The one place where a temporary is made: the counter is used after the binding has been analysed and
before the branches are. -/
theorem ifLetBranches_makes {b yes : Form} {no : Option Form} (hb : b.WellSpelled) (hy : yes.WellSpelled)
    (hn : ∀ f ∈ no, f.WellSpelled) : MakesExpr [] (ifLetBranches sub s b yes no) := by
  refine .bind (oneBinding_makes hsub s _ hb) fun pv hp hv => .fresh (by simp) fun t ht => ?_
  have ⟨hvalue, hdefaults⟩ := List.forall_mem_cons.1 hv
  have hrest (no : Expr) (hn : no.Hygienic) :
      MakesExpr (no.temporaries ++ (t :: (made (pv.2 :: pv.1.defaults) ++ []))) (do
        let yes ← sub s yes
        pure (bindTruthy t pv.1 pv.2 yes no)) := by
    refine (hsub s yes hy).bindExpr fun yes hy => .temporary ht hp ?_ fun x => ?_
    · simp only [List.forall_mem_cons]
      exact ⟨hvalue, hn, hy, hdefaults⟩
    · simp only [made_cons, List.append_nil, List.count_cons, List.count_append]
      omega
  cases no with
  | none => exact hrest .nil nil_hygienic
  | some f => exact (hsub s f (hn f rfl)).bindExpr hrest

/-- Three forms at most, of which the last one may be missing. -/
theorem ifLetForm_makes {args : List Form} (hf : ∀ f ∈ args, f.WellSpelled) :
    MakesExpr [] (ifLetForm sub s args) := by
  unfold ifLetForm
  split
  · simp only [List.forall_mem_cons] at hf
    exact ifLetBranches_makes hsub s hf.1 hf.2.1 (by simp)
  · simp only [List.forall_mem_cons] at hf
    exact ifLetBranches_makes hsub s hf.1 hf.2.1 (by simpa using hf.2.2.1)
  · exact .throw _

theorem whenLetForm_makes {args : List Form} (hf : ∀ f ∈ args, f.WellSpelled) :
    MakesExpr [] (whenLetForm sub s args) := by
  cases args with
  | nil => exact .throw _
  | cons b rest =>
    have ⟨hb, hrest⟩ := List.forall_mem_cons.1 hf
    refine .bind (oneBinding_makes hsub s _ hb) fun pv hp hv => .fresh (by simp) fun t ht => ?_
    have ⟨hvalue, hdefaults⟩ := List.forall_mem_cons.1 hv
    refine (body_makes hsub s hrest).bindExpr fun yes hy => .temporary ht hp ?_ fun x => ?_
    · simp only [List.forall_mem_cons]
      exact ⟨hvalue, nil_hygienic, hy, hdefaults⟩
    · simp only [made_cons, temporaries_nil, List.append_nil, List.nil_append, List.count_cons,
        List.count_append]
      omega

/-! ## Choices -/

omit hsub in
/-- The temporaries of a choice are those of its parts. -/
theorem choose_makes {ts : List String} {test yes no : Expr} (ht : test.Hygienic) (hy : yes.Hygienic)
    (hn : no.Hygienic)
    (hts : ∀ x, test.temporaries.count x + yes.temporaries.count x + no.temporaries.count x ≤ ts.count x) :
    MakesExpr ts (pure (.choose test yes no)) := by
  have hdirect : (Expr.choose test yes no).direct = [test, yes, no] := rfl
  refine .plain hdirect rfl (by simp [ht, hy, hn]) fun x => ?_
  simp only [made_cons, made_nil, List.append_nil, List.count_append, ← Nat.add_assoc]
  exact hts x

/-- A branch that is missing makes nothing. -/
theorem ifForm_makes {args : List Form} (hf : ∀ f ∈ args, f.WellSpelled) :
    MakesExpr [] (ifForm sub s args) := by
  unfold ifForm
  split
  · simp only [List.forall_mem_cons] at hf
    refine (hsub _ _ hf.1).bindExpr fun test ht => (hsub _ _ hf.2.1).bindExpr fun yes hy => ?_
    refine choose_makes ht hy nil_hygienic fun x => ?_
    simp only [temporaries_nil, List.count_append, List.count_nil]
    omega
  · simp only [List.forall_mem_cons] at hf
    refine (hsub _ _ hf.2.2.1).bindExpr fun no hn => (hsub _ _ hf.1).bindExpr fun test ht =>
      (hsub _ _ hf.2.1).bindExpr fun yes hy => choose_makes ht hy hn fun x => ?_
    simp only [List.count_append]
    omega
  · exact .throw _

theorem whenForm_makes {args : List Form} (hf : ∀ f ∈ args, f.WellSpelled) :
    MakesExpr [] (whenForm sub s args) := by
  cases args with
  | nil => exact .throw _
  | cons test rest =>
    have ⟨ht, hrest⟩ := List.forall_mem_cons.1 hf
    refine (hsub _ _ ht).bindExpr fun test ht => (body_makes hsub s hrest).bindExpr fun e he => ?_
    refine choose_makes ht he nil_hygienic fun x => ?_
    simp only [temporaries_nil, List.count_append, List.count_nil]
    omega

theorem whenNotForm_makes {args : List Form} (hf : ∀ f ∈ args, f.WellSpelled) :
    MakesExpr [] (whenNotForm sub s args) := by
  cases args with
  | nil => exact .throw _
  | cons test rest =>
    have ⟨ht, hrest⟩ := List.forall_mem_cons.1 hf
    refine (hsub _ _ ht).bindExpr fun test ht => (body_makes hsub s hrest).bindExpr fun e he => ?_
    refine choose_makes ht nil_hygienic he fun x => ?_
    simp only [temporaries_nil, List.count_append, List.count_nil]
    omega

/-- By induction on the clauses; each is a choice whose second branch is the rest of them. -/
theorem clauses_makes {pairs : List (Form × Form)} (hf : ∀ p ∈ pairs, p.1.WellSpelled ∧ p.2.WellSpelled) :
    MakesExpr [] (clauses sub s pairs) := by
  induction pairs with
  | nil => exact .leaf rfl fun _ h => by cases h
  | cons clause rest ih =>
    have ⟨hc, hrest⟩ := List.forall_mem_cons.1 hf
    refine (hsub _ _ hc.1).bindExpr fun test ht => (hsub _ _ hc.2).bindExpr fun yes hy =>
      (ih hrest).bindExpr fun no hn => choose_makes ht hy hn fun x => ?_
    simp only [List.count_append]
    omega

theorem condForm_makes {args : List Form} (hf : ∀ f ∈ args, f.WellSpelled) :
    MakesExpr [] (condForm sub s args) := by
  unfold condForm
  split
  · exact clauses_makes hsub s (Form.wellSpelled_pairs hf)
  · exact .throw _

/-! ## Functions and definitions -/

/-- The names of a function are those of its parameters. -/
theorem fnForm_makes {args : List Form} (hf : ∀ f ∈ args, f.WellSpelled) :
    MakesExpr [] (fnForm sub s args) := by
  unfold fnForm
  split
  · have ⟨hparams, hrest⟩ := List.forall_mem_cons.1 hf
    have hparams := Form.wellSpelledAll_iff.1 hparams
    split
    · exact .throw _
    · refine .bind (Makes.mapM fun f h => pattern_makes (hsub s.inner) f (hparams f h))
        fun ps hn hd => (body_makes hsub _ hrest).bindExpr fun e he => ?_
      rw [← defaultsOfAll_eq] at hd ⊢
      refine .node (congrArg (e :: ·) (map_inner _)) ?_ (List.forall_mem_cons.2 ⟨he, hd⟩) fun x => ?_
      · simpa [namesHere, boundHere, readHere, definedHere, namesOfAll_eq] using hn
      · simp
  · exact .throw _

omit hsub in
/-- The name of a definition is spelled by the source text. -/
theorem definedName_makes (form : String) {f : Form} (hf : f.WellSpelled) :
    Makes [] (fun name => [name]) (fun _ => []) (definedName form f) := by
  cases f with
  | symbol name => exact .name (Form.isGenerated_symbol hf)
  | _ => exact .throw _

omit hsub in
/-- A definition makes what its value makes. -/
theorem define_makes {name : String} {value : Expr} (hn : ∀ n ∈ [name], isGenerated n = false)
    (hv : value.Hygienic) : MakesExpr (value.temporaries ++ (made [] ++ [])) (pure (.define name value)) :=
  .node (show (Expr.define name value).direct = [value] from rfl) hn (List.forall_mem_singleton.2 hv) fun _ =>
    Nat.le_refl _

/-- A definition of a function, which makes what the function makes. -/
theorem defnForm_makes {args : List Form} (hf : ∀ f ∈ args, f.WellSpelled) :
    MakesExpr [] (defnForm sub s args) := by
  cases args with
  | nil => exact .throw _
  | cons name rest =>
    have ⟨hname, hrest⟩ := List.forall_mem_cons.1 hf
    refine .bind (definedName_makes _ hname) fun name hn _ => ?_
    have hwithout : ∀ f ∈ withoutDescription rest, f.WellSpelled := by
      intro f h
      refine hrest f ?_
      unfold withoutDescription at h
      split at h
      · exact List.mem_cons_of_mem _ h
      · exact h
    split
    · exact .throw _
    · exact (fnForm_makes hsub s hwithout).bindExpr fun e he => define_makes hn he

theorem defForm_makes {args : List Form} (hf : ∀ f ∈ args, f.WellSpelled) :
    MakesExpr [] (defForm sub s args) := by
  unfold defForm
  split
  · simp only [List.forall_mem_cons] at hf
    exact .bind (definedName_makes _ hf.1) fun name hn _ => (hsub _ _ hf.2.1).bindExpr fun e he =>
      define_makes hn he
  · exact .throw _

/-! ## Row predicates, tools and ends -/

omit hsub in
/-- The result has one part, which has been made. -/
theorem wrap_makes {e e' : Expr} {ts : List String} (hd : e.direct = [e']) (hn : e.namesHere = [])
    (he : e'.Hygienic) : MakesExpr (e'.temporaries ++ ts) (pure e) := by
  refine .plain hd hn (List.forall_mem_singleton.2 he) fun x => ?_
  rw [made_cons, made_nil, List.append_nil, List.count_append]
  exact Nat.le_add_right _ _

omit hsub in
/-- A path consists of literals, in which there are no names. -/
theorem fieldPath_makes (f : Form) : Makes [] (fun _ => []) (fun _ => []) (fieldPath f) := by
  have hstep (f : Form) : Makes [] (fun _ => []) (fun _ => []) (fieldStep f) := by
    unfold fieldStep
    split
    · exact .nothing _
    · exact .nothing _
    · exact .throw _
  unfold fieldPath
  split
  · exact (Makes.mapM fun f _ => hstep f).imp (fun _ _ h => by cases h) fun _ => by simp
  · exact .bind (hstep _) fun _ _ _ => .nothing _

omit hsub in
theorem rowOp_makes (f : Form) : Makes [] (fun _ => []) (fun _ => []) (rowOp f) := by
  unfold rowOp
  split
  · exact .nothing _
  · exact .throw _

/-- The operand is the only expression of a test. -/
theorem whereForm_makes {args : List Form} (hf : ∀ f ∈ args, f.WellSpelled) :
    MakesExpr [] (whereForm sub s args) := by
  unfold whereForm
  split
  · exact .bind (fieldPath_makes _) fun _ _ _ => .leaf rfl fun _ h => by cases h
  · simp only [List.forall_mem_cons] at hf
    exact .bind (fieldPath_makes _) fun _ _ _ => .bind (rowOp_makes _) fun _ _ _ =>
      (hsub _ _ hf.2.2.1).bindExpr fun e he => wrap_makes rfl rfl he
  · exact .throw _

/-- The arguments of a tool are one expression. -/
theorem callForm_makes {args : List Form} (hf : ∀ f ∈ args, f.WellSpelled) :
    MakesExpr [] (callForm sub s args) := by
  unfold callForm
  split
  · next name =>
    have hmap : (Expr.map []).Hygienic := .node (fun _ h => by cases h) fun _ h => by cases h
    exact .plain (show (Expr.toolCall name (.map [])).direct = [.map []] from rfl) rfl
      (List.forall_mem_singleton.2 hmap) fun _ => Nat.le_refl _
  · simp only [List.forall_mem_cons] at hf
    exact (hsub _ _ hf.2.1).bindExpr fun e he => wrap_makes rfl rfl he
  iterate 3 exact .throw _

theorem lastValue_makes (name : String) {args : List Form} (hf : ∀ f ∈ args, f.WellSpelled) :
    MakesExpr [] (lastValue sub s name args) := by
  unfold lastValue
  split
  · exact hsub _ _ (List.forall_mem_singleton.1 hf)
  · exact .throw _

/-- Threading puts forms into other forms before they are analysed, and changes no spelling. -/
theorem threadForm_makes (place : ThreadPlace) {args : List Form} (hf : ∀ f ∈ args, f.WellSpelled) :
    MakesExpr [] (threadForm sub s place args) := by
  unfold threadForm
  split
  · exact .throw _
  · obtain ⟨hstart, hsteps⟩ := List.forall_mem_cons.1 hf
    exact hsub s _ (Form.thread_wellSpelled place hstart hsteps)

/-! ## All forms -/

/-- One case per special form. -/
theorem special_makes {args : List Form} (hf : ∀ f ∈ args, f.WellSpelled) (f : Special) :
    MakesExpr [] (special sub s args f) := by
  cases f with
  | letIn => exact letForm_makes hsub s hf
  | ifElse => exact ifForm_makes hsub s hf
  | when => exact whenForm_makes hsub s hf
  | whenNot => exact whenNotForm_makes hsub s hf
  | cond => exact condForm_makes hsub s hf
  | and | or =>
    exact .bind (partsToLast_makes hsub s hf) fun es _ hes => .plain (toLast_snd none es) rfl hes (by simp)
  | sequence => exact body_makes hsub s hf
  | fn => exact fnForm_makes hsub s hf
  | defineFn => exact defnForm_makes hsub s hf
  | define => exact defForm_makes hsub s hf
  | loop => exact loopForm_makes hsub s hf
  | recur => exact recurForm_makes hsub s hf
  | rowTest => exact whereForm_makes hsub s hf
  | ret | fail => exact (lastValue_makes hsub s _ hf).bindExpr fun e he => wrap_makes rfl rfl he
  | call => exact callForm_makes hsub s hf
  | thread place => exact threadForm_makes hsub s place hf
  | ifLet => exact ifLetForm_makes hsub s hf
  | whenLet => exact whenLetForm_makes hsub s hf
  | combine c =>
    exact .bind (parts_makes hsub s hf) fun es _ hes => .plain (map_inner es) rfl hes (by simp)

/-- A form is a literal, a variable, a collection, a special form or a call. -/
theorem form_makes {f : Form} (hf : f.WellSpelled) : MakesExpr [] (form sub s f) := by
  unfold form
  split
  iterate 5 exact .leaf rfl fun _ h => by cases h
  · exact .leaf rfl (List.forall_mem_singleton.2 (Form.isGenerated_symbol hf))
  · unfold qualified
    split
    · exact .leaf rfl fun _ h => by cases h
    · exact .leaf rfl fun _ h => by cases h
    · exact .throw _
  · exact .bind (parts_makes hsub s (Form.wellSpelledAll_iff.1 hf)) fun es _ hes =>
      .plain (map_inner es) rfl hes (by simp)
  · next pairs =>
    have hpairs := Form.wellSpelledPairs_iff.1 hf
    refine .bind (entries_makes hsub s fun p hp => ?_) fun es _ hes => .plain (map_inner _) rfl hes (by simp)
    exact ⟨hpairs _ (List.mem_flatMap.2 ⟨p, hp, by simp⟩), hpairs _ (List.mem_flatMap.2 ⟨p, hp, by simp⟩)⟩
  · exact .leaf rfl fun _ h => by cases h
  · have ⟨hhead, hargs⟩ := List.forall_mem_cons.1 (Form.wellSpelledAll_iff.1 hf)
    split
    · exact special_makes hsub s hargs _
    · refine (hsub _ _ hhead).bindExpr fun callee hc => .bind (parts_makes hsub s hargs) fun es _ hes => ?_
      refine .plain (map_inner _) rfl (List.forall_mem_cons.2 ⟨hc, hes⟩) fun x => ?_
      simp only [made_cons, List.append_nil, List.count_append]
      omega

end

end Analyze

open Analyze

/-- The expression of a form is hygienic. By induction on the nesting that is allowed, which closes the
recursion through the parts. -/
theorem Form.analyzeAt_makes (n : Nat) : MakesParts (analyzeAt n) := by
  induction n with
  | zero => exact fun _ _ _ => .throw _
  | succ n ih => exact fun s f hf => form_makes ih s hf

/-- A program is hygienic, and its temporaries have different names. -/
theorem compile_hygienic {source : String} {program : Expr} (h : compile source = .ok program) :
    program.Hygienic ∧ ∃ k, Numbered k program.temporaries := by
  unfold compile at h
  split at h
  · cases h
  · next forms hforms =>
    -- names that have been read are well spelled, and generated ones are not
    have hspelled : ∀ f ∈ forms, f.WellSpelled := by
      intro f hf
      obtain ⟨d, rfl, htokens, _⟩ := exists_derivation_of_mem hforms hf
      exact d.form_wellSpelled htokens
    split at h
    · cases h
    · next e he =>
      cases h
      unfold Expr.ofForms at he
      split at he
      · cases he
      · have hsub : MakesParts fun s f => f.analyzeIn s := fun s f hf =>
          Form.analyzeAt_makes (2 * f.size) s f hf
        obtain ⟨k, hrun⟩ := exists_of_run' he
        obtain ⟨_, hhygienic, hnumbered⟩ := body_makes hsub .top hspelled [] 0 _ k (.nil 0) hrun
        refine ⟨List.forall_mem_singleton.1 hhygienic, k, ?_⟩
        rw [made_cons, made_nil, List.append_nil, List.append_nil] at hnumbered
        exact hnumbered

end ToolLisp
