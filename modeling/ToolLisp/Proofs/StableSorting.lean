import Mathlib.Data.List.Pairwise
import Mathlib.Data.List.Perm.Basic
import ToolLisp.Builtin.Ordering

/-!
# Stable sorting

`Sorting.mergeSort` sorts with comparisons that may have effects, fail, or contradict each other. What it
does with any comparator follows from one induction on the sort (`mergeSort_related`): the sort keeps every
relation between computations that sequencing keeps, it returns the items in some order, and it compares
only a later item with an earlier one. The relation can be chosen to say that comparisons are written down
and the first one that fails is the last one, or that a comparator without effects leaves the sort without
effects.

A sort without effects is looked at in the identity monad, where merging is taking from the right list what
comes before the next item of the left one. If the comparator is a total preorder, the result is in order,
items that compare as equal stand as they stood before, and no other list is such a result.
-/

namespace ToolLisp.Sorting

open Std (OrientedCmp)
open scoped List

variable {α : Type}

/-! ## Any comparator -/

section

variable {m n : Type → Type} [Monad m] [Monad n]

/-- What has to be shown of a relation between computations in two monads that give the same result, of
which `P` holds. -/
structure Relation (rel : {β : Type} → (β → Prop) → m β → n β → Prop) : Prop where
  /-- Doing nothing. -/
  pure {β : Type} {P : β → Prop} {b : β} : P b → rel P (pure b) (pure b)
  /-- One computation after the other. -/
  bind {β γ : Type} {P : β → Prop} {Q : γ → Prop} {x : m β} {y : n β} {f : β → m γ} {g : β → n γ} :
    rel P x y → (∀ b, P b → rel Q (f b) (g b)) → rel Q (x >>= f) (y >>= g)
  /-- Saying less about the result. -/
  mono {β : Type} {P Q : β → Prop} {x : m β} {y : n β} : rel P x y → (∀ b, P b → Q b) → rel Q x y

variable {rel : {β : Type} → (β → Prop) → m β → n β → Prop} (R : Relation rel)
  {cmp : α → α → m Ordering} {cmp' : α → α → n Ordering}
include R

/-- Items that are passed go to those that are done, and all others stay. -/
theorem passSmaller_related {l : α} {right : List α}
    (hc : ∀ r ∈ right, rel (fun _ => True) (cmp r l) (cmp' r l)) :
    ∀ done : List α, rel (fun p => (p.1 ++ p.2).Perm (done ++ right) ∧ p.2 ⊆ right)
      (passSmaller cmp l done right) (passSmaller cmp' l done right) := by
  induction right with
  | nil => exact fun done => R.pure ⟨.refl _, List.Subset.refl _⟩
  | cons r right ih =>
    intro done
    have ⟨hr, hright⟩ := List.forall_mem_cons.1 hc
    refine R.bind hr fun o _ => ?_
    have hstop : rel (fun p => (p.1 ++ p.2).Perm (done ++ r :: right) ∧ p.2 ⊆ r :: right)
        (pure (done, r :: right)) (pure (done, r :: right)) :=
      R.pure ⟨.refl _, List.Subset.refl _⟩
    cases o with
    | lt =>
      refine R.mono (ih hright (r :: done)) fun p hp => ⟨?_, ?_⟩
      · exact hp.1.trans List.perm_middle.symm
      · exact List.Subset.trans hp.2 (List.subset_cons_self r right)
    | eq => exact hstop
    | gt => exact hstop

/-- Merging compares items of the right list with items of the left one. -/
theorem mergeInto_related {left : List α} : ∀ {right : List α},
    (∀ l ∈ left, ∀ r ∈ right, rel (fun _ => True) (cmp r l) (cmp' r l)) → ∀ done : List α,
      rel (fun out => out.Perm (done ++ (left ++ right))) (mergeInto cmp done left right)
        (mergeInto cmp' done left right) := by
  induction left with
  | nil => exact fun _ done => R.pure ((List.reverse_perm done).append_right _)
  | cons l left ih =>
    intro right hc done
    have ⟨hl, hleft⟩ := List.forall_mem_cons.1 hc
    refine R.bind (passSmaller_related R hl done) fun p hp => ?_
    obtain ⟨hperm, hsub⟩ := hp
    refine R.mono (ih (fun a ha r hr => hleft a ha r (hsub hr)) (l :: p.1)) fun out hout => ?_
    calc out
      _ ~ l :: (p.1 ++ (left ++ p.2)) := hout
      _ ~ l :: (left ++ (p.1 ++ p.2)) := (List.perm_append_comm_assoc ..).cons l
      _ ~ l :: left ++ (done ++ right) := hperm.append_left (l :: left)
      _ ~ done ++ (l :: left ++ right) := List.perm_append_comm_assoc ..

theorem sortAt_related (k : Nat) : ∀ {items : List α},
    (items.Pairwise fun l r => rel (fun _ => True) (cmp r l) (cmp' r l)) →
      rel (fun out => out.Perm items) (sortAt cmp k items) (sortAt cmp' k items) := by
  induction k with
  | zero => exact fun _ => R.pure (.refl _)
  | succ k ih =>
    intro items hc
    have hsplit := List.take_append_drop (items.length / 2) items
    have hhalves := hc
    rw [← hsplit, List.pairwise_append] at hhalves
    obtain ⟨hleft, hright, hcross⟩ := hhalves
    simp only [sortAt]
    by_cases hshort : items.length ≤ 1
    · rw [if_pos hshort, if_pos hshort]
      exact R.pure (.refl _)
    · rw [if_neg hshort, if_neg hshort]
      refine R.bind (ih hleft) fun left hl => R.bind (ih hright) fun right hr => ?_
      refine R.mono (mergeInto_related R (fun a ha b hb => ?_) []) fun out hout => ?_
      -- items of the left half are compared with items of the right half only
      · exact hcross a (hl.mem_iff.1 ha) b (hr.mem_iff.1 hb)
      · have hboth := hout.trans (hl.append hr)
        rwa [hsplit] at hboth

/-- Sorting returns the items in some order, and keeps every relation between computations that sequencing
keeps and that holds of the comparisons of a later item with an earlier one. -/
theorem mergeSort_related {items : List α}
    (hc : items.Pairwise fun l r => rel (fun _ => True) (cmp r l) (cmp' r l)) :
    rel (fun out => out.Perm items) (mergeSort cmp items) (mergeSort cmp' items) :=
  sortAt_related R items.length hc

end

/-! ## Comparisons that are written down -/

section

variable {σ ε β γ : Type}

/-- A comparator that may change a state and fail with an error. -/
abbrev Comparator (σ ε α : Type) := α → α → ExceptT ε (StateM σ) Ordering

/-- One comparison and what it came to. -/
structure Comparison (ε α : Type) where
  /-- The first item. -/
  first : α
  /-- The second item. -/
  second : α
  /-- What the comparator returned. -/
  outcome : Except ε Ordering

/-- Whether a comparison did not fail. -/
def Comparison.succeeded (c : Comparison ε α) : Bool :=
  c.outcome.isOk

/-- The comparator that also writes its comparisons down. -/
def Comparator.logged (cmp : Comparator σ ε α) : Comparator (σ × List (Comparison ε α)) ε α :=
  fun a b => ExceptT.mk fun t =>
    let r := (cmp a b).run.run t.1
    (r.1, r.2, t.2 ++ [⟨a, b, r.1⟩])

/-- How a computation ends that wrote down these comparisons: with a result, if they all succeeded, and
with the error of the last one otherwise. -/
def EndsWith (P : β → Prop) (log : List (Comparison ε α)) : Except ε β → Prop
  | .ok b => P b ∧ ∀ c ∈ log, c.succeeded = true
  | .error e => ∃ before a b, log = before ++ [⟨a, b, .error e⟩] ∧ ∀ c ∈ before, c.succeeded = true

/-- The first comparison that fails is the last one. -/
theorem EndsWith.of_failed {P : β → Prop} {r : Except ε β} {before after : List (Comparison ε α)}
    {c : Comparison ε α} {e : ε} (h : EndsWith P (before ++ c :: after) r) (hc : c.outcome = .error e) :
    r = .error e ∧ after = [] ∧ ∀ c ∈ before, c.succeeded = true := by
  have hfails : c.succeeded ≠ true := by
    rw [Comparison.succeeded, hc]
    exact Bool.false_ne_true
  cases r with
  | ok b => exact absurd (h.2 c (by simp)) hfails
  | error e' =>
    obtain ⟨before', a, b, hlog, hbefore'⟩ := h
    rcases List.eq_nil_or_concat after with rfl | ⟨middle, last, rfl⟩
    · obtain ⟨rfl, hlast⟩ := List.append_inj' hlog rfl
      obtain rfl := (List.cons.inj hlast).1
      obtain rfl := Except.error.inj hc
      exact ⟨rfl, rfl, hbefore'⟩
    · have hlog : (before ++ c :: middle) ++ [last] = before' ++ [⟨a, b, .error e'⟩] := by
        simpa using hlog
      have hinit : before ++ c :: middle = before' := List.append_inj_left' hlog rfl
      exact absurd (hbefore' c (by simp [← hinit])) hfails

/-- Two computations come to the same, and the second one writes down comparisons. -/
def Logs (P : β → Prop) (x : ExceptT ε (StateM σ) β)
    (y : ExceptT ε (StateM (σ × List (Comparison ε α))) β) : Prop :=
  ∀ s log, ∃ r s' new, x.run.run s = (r, s') ∧ y.run.run (s, log) = (r, s', log ++ new) ∧ EndsWith P new r

theorem logs_relation : Relation (@Logs α σ ε) where
  pure hb s log := ⟨_, s, [], rfl, by rw [List.append_nil]; rfl, hb, fun _ h => by cases h⟩
  bind hx hf s log := by
    obtain ⟨r, s', new, hxs, hys, hend⟩ := hx s log
    rw [ExceptT.run_bind, StateT.run_bind, ExceptT.run_bind, StateT.run_bind, hxs, hys]
    cases r with
    | error e => exact ⟨.error e, s', new, rfl, rfl, hend⟩
    | ok b =>
      obtain ⟨r, s'', new', hfs, hgs, hend'⟩ := hf b hend.1 s' (log ++ new)
      refine ⟨r, s'', new ++ new', hfs, by rw [← List.append_assoc]; exact hgs, ?_⟩
      cases r with
      | error e =>
        obtain ⟨before, a, b, rfl, hbefore⟩ := hend'
        exact ⟨new ++ before, a, b, by rw [List.append_assoc], List.forall_mem_append.2 ⟨hend.2, hbefore⟩⟩
      | ok c => exact ⟨hend'.1, List.forall_mem_append.2 ⟨hend.2, hend'.2⟩⟩
  mono hx hPQ s log := by
    obtain ⟨r, s', new, hxs, hys, hend⟩ := hx s log
    refine ⟨r, s', new, hxs, hys, ?_⟩
    cases r with
    | error e => exact hend
    | ok b => exact ⟨hPQ b hend.1, hend.2⟩

/-- The comparisons of a sort, with what it comes to. -/
theorem mergeSort_logs (cmp : Comparator σ ε α) (items : List α) :
    Logs (fun out => out ~ items) (mergeSort cmp items) (mergeSort cmp.logged items) := by
  refine mergeSort_related logs_relation (List.pairwise_of_forall fun l r s log => ?_)
  refine ⟨((cmp r l).run.run s).1, ((cmp r l).run.run s).2, _, rfl, rfl, ?_⟩
  cases ho : ((cmp r l).run.run s).1 with
  | error e => exact ⟨[], r, l, rfl, fun _ h => by cases h⟩
  | ok o => exact ⟨trivial, fun c hc => by rw [List.mem_singleton.1 hc]; rfl⟩

end

/-! ## Comparators without effects -/

/-- The order in which a comparator without effects puts items. -/
def inOrder (f : α → α → Ordering) (items : List α) : List α :=
  Id.run (mergeSort (fun a b => pure (f a b)) items)

/-- A computation without effects, and its result. -/
theorem pure_relation (n : Type → Type) [Monad n] [LawfulMonad n] :
    Relation (m := Id) (n := n) fun P x y => P x.run ∧ y = pure x.run where
  pure hb := ⟨hb, rfl⟩
  bind hx hf := by
    obtain ⟨hb, rfl⟩ := hx
    obtain ⟨hc, hg⟩ := hf _ hb
    refine ⟨hc, ?_⟩
    rw [pure_bind, hg]
    rfl
  mono hx hPQ := ⟨hPQ _ hx.1, hx.2⟩

/-- Sorting has no effects if the comparator has none. -/
theorem mergeSort_pure {n : Type → Type} [Monad n] [LawfulMonad n] {cmp : α → α → n Ordering}
    {f : α → α → Ordering} {items : List α} (hc : items.Pairwise fun l r => cmp r l = pure (f r l)) :
    mergeSort cmp items = pure (inOrder f items) :=
  (mergeSort_related (pure_relation n) (hc.imp fun h => ⟨trivial, h⟩)).2

theorem sortAt_perm (f : α → α → Ordering) (k : Nat) (items : List α) :
    Id.run (sortAt (fun a b => pure (f a b)) k items) ~ items := by
  have hc : items.Pairwise fun l r => True ∧ (pure (f r l) : Id Ordering) = pure (f r l) :=
    List.pairwise_of_forall fun _ _ => ⟨trivial, rfl⟩
  exact (sortAt_related (pure_relation Id) k hc).1

theorem inOrder_perm (f : α → α → Ordering) (items : List α) : inOrder f items ~ items :=
  sortAt_perm f items.length items

/-! ## Total preorders -/

/-- Items that satisfy `S` are compared as in a total preorder: the other way round the order is the
opposite one, and an item that does not come after another does not come after what that one does not come
after. -/
structure PreorderOn (f : α → α → Ordering) (S : α → Prop) : Prop where
  swap {a b : α} : S a → S b → f b a = (f a b).swap
  trans {a b c : α} : S a → S b → S c → f a b ≠ .gt → f b c ≠ .gt → f a c ≠ .gt

namespace PreorderOn

variable {f : α → α → Ordering} {S : α → Prop}

/-- Items are compared by their keys. -/
theorem comap {β : Type} {T : β → Prop} (h : PreorderOn f S) (key : β → α) (hkey : ∀ b, T b → S (key b)) :
    PreorderOn (fun a b => f (key a) (key b)) T where
  swap ha hb := h.swap (hkey _ ha) (hkey _ hb)
  trans ha hb hc := h.trans (hkey _ ha) (hkey _ hb) (hkey _ hc)

variable (h : PreorderOn f S) {a b c : α}
include h

/-- The opposite order. -/
theorem flip : PreorderOn (fun a b => f b a) S where
  swap ha hb := h.swap hb ha
  trans ha hb hc hab hbc := h.trans hc hb ha hbc hab

theorem refl (ha : S a) : f a a = .eq := by
  have hswap := h.swap ha ha
  cases ho : f a a with
  | eq => rfl
  | lt => rw [ho] at hswap; cases hswap
  | gt => rw [ho] at hswap; cases hswap

theorem eq_of_ne_gt (ha : S a) (hb : S b) (hab : f a b ≠ .gt) (hba : f b a ≠ .gt) : f a b = .eq := by
  rw [h.swap ha hb] at hba
  cases ho : f a b with
  | lt => rw [ho] at hba; exact absurd rfl hba
  | eq => rfl
  | gt => exact absurd ho hab

/-- The first item of a list in order does not come after any item of the list. -/
theorem ne_gt_of_mem {items : List α} (ha : S a) (hsorted : (a :: items).Pairwise fun a b => f a b ≠ .gt)
    (hb : b ∈ a :: items) : f a b ≠ .gt := by
  rcases List.mem_cons.1 hb with rfl | hb
  · rw [h.refl ha]
    decide
  · exact List.rel_of_pairwise_cons hsorted hb

/-- If `b` does not come before `a`, then `a` does not come after `b`. -/
theorem ne_gt_of_ne_lt (ha : S a) (hb : S b) (hba : f b a ≠ .lt) : f a b ≠ .gt := by
  intro hab
  rw [h.swap ha hb, hab] at hba
  exact hba rfl

theorem lt_of_lt_of_ne_gt (ha : S a) (hb : S b) (hc : S c) (hab : f a b = .lt) (hbc : f b c ≠ .gt) :
    f a c = .lt := by
  have hba : f b a = .gt := by rw [h.swap ha hb, hab]; rfl
  cases hac : f a c with
  | lt => rfl
  | eq =>
    have hca : f c a ≠ .gt := by rw [h.swap ha hc, hac]; decide
    exact absurd hba (h.trans hb hc ha hbc hca)
  | gt => exact absurd hac (h.trans ha hb hc (by rw [hab]; decide) hbc)

theorem lt_of_eq_of_lt (ha : S a) (hb : S b) (hc : S c) (hab : f a b = .eq) (hbc : f b c = .lt) :
    f a c = .lt := by
  have hcb : f c b = .gt := by rw [h.swap hb hc, hbc]; rfl
  have hba : f b a ≠ .gt := by rw [h.swap ha hb, hab]; decide
  by_contra hac
  have hca : f c a ≠ .gt := h.ne_gt_of_ne_lt hc ha hac
  exact h.trans hc ha hb hca (by rw [hab]; decide) hcb

end PreorderOn

/-! ## Merging -/

/-- The items that compare as equal to an item, in the order in which they stand. -/
def equalTo (f : α → α → Ordering) (x : α) (items : List α) : List α :=
  items.filter fun b => f x b == .eq

theorem mem_equalTo {f : α → α → Ordering} {x b : α} {items : List α} :
    b ∈ equalTo f x items ↔ b ∈ items ∧ f x b = .eq := by
  simp [equalTo]

theorem equalTo_append (f : α → α → Ordering) (x : α) (items items' : List α) :
    equalTo f x (items ++ items') = equalTo f x items ++ equalTo f x items' :=
  List.filter_append ..

theorem equalTo_cons (f : α → α → Ordering) (x b : α) (items : List α) :
    equalTo f x (b :: items) = equalTo f x [b] ++ equalTo f x items :=
  equalTo_append f x [b] items

/-- Whether an item comes before the item `l`. -/
def goesBefore (f : α → α → Ordering) (l r : α) : Bool :=
  f r l == .lt

/-- Merges two lists. Of the right one, what comes before an item of the left one goes first. -/
def merged (f : α → α → Ordering) : List α → List α → List α
  | [], right => right
  | l :: left, right =>
    right.takeWhile (goesBefore f l) ++ l :: merged f left (right.dropWhile (goesBefore f l))

section

variable (f : α → α → Ordering)

theorem passSmaller_id (l : α) (right : List α) : ∀ done : List α,
    Id.run (passSmaller (fun a b => pure (f a b)) l done right) =
      ((right.takeWhile (goesBefore f l)).reverse ++ done, right.dropWhile (goesBefore f l)) := by
  induction right with
  | nil => exact fun done => rfl
  | cons r right ih =>
    intro done
    have ho : f r l = .lt ∨ f r l = .eq ∨ f r l = .gt := by cases f r l <;> simp
    rcases ho with ho | ho | ho
    · simp [passSmaller, goesBefore, ho, ih]
    · simp [passSmaller, goesBefore, ho]
    · simp [passSmaller, goesBefore, ho]

theorem mergeInto_id (left : List α) : ∀ done right : List α,
    Id.run (mergeInto (fun a b => pure (f a b)) done left right) =
      done.reverse ++ merged f left right := by
  induction left with
  | nil => exact fun done right => rfl
  | cons l left ih =>
    intro done right
    simp only [mergeInto, Id.run_bind, passSmaller_id, ih, merged]
    simp

theorem sortAt_id (k : Nat) (items : List α) :
    Id.run (sortAt (fun a b => pure (f a b)) (k + 1) items) =
      if items.length ≤ 1 then items
      else merged f (Id.run (sortAt (fun a b => pure (f a b)) k (items.take (items.length / 2))))
        (Id.run (sortAt (fun a b => pure (f a b)) k (items.drop (items.length / 2)))) := by
  simp only [sortAt]
  split
  · rfl
  · simp only [Id.run_bind, mergeInto_id, List.reverse_nil, List.nil_append]

theorem merged_perm (left : List α) : ∀ right : List α, merged f left right ~ left ++ right := by
  induction left with
  | nil => exact fun right => .refl _
  | cons l left ih =>
    intro right
    have hsplit := List.takeWhile_append_dropWhile (p := goesBefore f l) (l := right)
    calc right.takeWhile _ ++ l :: merged f left (right.dropWhile _)
      _ ~ l :: (right.takeWhile _ ++ merged f left (right.dropWhile _)) := List.perm_middle
      _ ~ l :: (right.takeWhile _ ++ (left ++ right.dropWhile _)) := ((ih _).append_left _).cons l
      _ ~ l :: (left ++ (right.takeWhile _ ++ right.dropWhile _)) :=
        (List.perm_append_comm_assoc ..).cons l
      _ = l :: left ++ right := by rw [hsplit]; rfl

end

section

variable {f : α → α → Ordering} {S : α → Prop} (h : PreorderOn f S)
include h

omit h in
theorem lt_of_mem_takeWhile {l t : α} {right : List α} (ht : t ∈ right.takeWhile (goesBefore f l)) :
    f t l = .lt := by
  simpa [goesBefore] using List.all_eq_true.1 (List.all_takeWhile (p := goesBefore f l)) t ht

/-- What is left of the right list does not come before the item that stopped it. -/
theorem ne_gt_of_mem_dropWhile {l : α} (hl : S l) {right : List α} (hr : ∀ r ∈ right, S r)
    (hsorted : right.Pairwise fun a b => f a b ≠ .gt) :
    ∀ r ∈ right.dropWhile (goesBefore f l), f l r ≠ .gt := by
  induction right with
  | nil => exact fun _ h => by cases h
  | cons r right ih =>
    obtain ⟨hfirst, hrest⟩ := List.pairwise_cons.1 hsorted
    obtain ⟨hsr, hsright⟩ := List.forall_mem_cons.1 hr
    rw [List.dropWhile_cons]
    split
    · exact ih hsright hrest
    · next hstop =>
      have hlr : f l r ≠ .gt := h.ne_gt_of_ne_lt hl hsr (by simpa [goesBefore] using hstop)
      refine List.forall_mem_cons.2 ⟨hlr, fun r' hr' => ?_⟩
      exact h.trans hl hsr (hsright r' hr') hlr (hfirst r' hr')

/-- Merging lists that are in order gives a list that is in order. -/
theorem merged_sorted {left : List α} : ∀ {right : List α}, (∀ l ∈ left, S l) → (∀ r ∈ right, S r) →
    (left.Pairwise fun a b => f a b ≠ .gt) → (right.Pairwise fun a b => f a b ≠ .gt) →
      (merged f left right).Pairwise fun a b => f a b ≠ .gt := by
  induction left with
  | nil => exact fun _ _ _ hsorted => hsorted
  | cons l left ih =>
    intro right hl hr hleft hright
    obtain ⟨hsl, hsleft⟩ := List.forall_mem_cons.1 hl
    obtain ⟨hfirst, hleft⟩ := List.pairwise_cons.1 hleft
    have hsplit := List.takeWhile_append_dropWhile (p := goesBefore f l) (l := right)
    have hsdrop : ∀ r ∈ right.dropWhile (goesBefore f l), S r := fun r hmem =>
      hr r ((List.dropWhile_sublist _).subset hmem)
    have hafter := ne_gt_of_mem_dropWhile h hsl hr hright
    have hparts := hright
    rw [← hsplit, List.pairwise_append] at hparts
    obtain ⟨htake, hdrop, hcross⟩ := hparts
    -- everything that follows `l` is left over from one of the lists
    have hmem : ∀ b ∈ merged f left (right.dropWhile (goesBefore f l)),
        b ∈ left ∨ b ∈ right.dropWhile (goesBefore f l) := fun b hb =>
      List.mem_append.1 ((merged_perm f left _).mem_iff.1 hb)
    refine List.pairwise_append.2 ⟨htake, List.pairwise_cons.2 ⟨fun b hb => ?_, ?_⟩, fun a ha => ?_⟩
    · exact (hmem b hb).elim (hfirst b) (hafter b)
    · exact ih hsleft hsdrop hleft hdrop
    · have hsa : S a := hr a ((List.takeWhile_sublist _).subset ha)
      have hne : f a l ≠ .gt := by
        rw [lt_of_mem_takeWhile ha]
        decide
      refine List.forall_mem_cons.2 ⟨hne, fun b hb => ?_⟩
      rcases hmem b hb with hb | hb
      · exact h.trans hsa hsl (hsleft b hb) hne (hfirst b hb)
      · exact hcross a ha b hb

/-- Merging lists that are in order keeps items that compare as equal in their places, those of the left
list first. -/
theorem equalTo_merged {left : List α} {x : α} (hx : S x) : ∀ {right : List α}, (∀ l ∈ left, S l) →
    (∀ r ∈ right, S r) → (left.Pairwise fun a b => f a b ≠ .gt) →
      equalTo f x (merged f left right) = equalTo f x left ++ equalTo f x right := by
  induction left with
  | nil => exact fun _ _ _ => rfl
  | cons l left ih =>
    intro right hl hr hleft
    obtain ⟨hsl, hsleft⟩ := List.forall_mem_cons.1 hl
    have hsplit := List.takeWhile_append_dropWhile (p := goesBefore f l) (l := right)
    have hsdrop : ∀ r ∈ right.dropWhile (goesBefore f l), S r := fun r hmem =>
      hr r ((List.dropWhile_sublist _).subset hmem)
    -- an item that goes first and equals `x` leaves no item of the left list that does
    have hcross : equalTo f x (right.takeWhile (goesBefore f l)) = [] ∨
        equalTo f x (l :: left) = [] := by
      by_contra hboth
      obtain ⟨htake, hcons⟩ := not_or.1 hboth
      obtain ⟨t, ht⟩ := List.exists_mem_of_ne_nil _ htake
      obtain ⟨b, hb⟩ := List.exists_mem_of_ne_nil _ hcons
      obtain ⟨ht, hxt⟩ := mem_equalTo.1 ht
      obtain ⟨hb, hxb⟩ := mem_equalTo.1 hb
      have hst : S t := hr t ((List.takeWhile_sublist _).subset ht)
      have htl : f t l = .lt := lt_of_mem_takeWhile ht
      have hlb : f l b ≠ .gt := h.ne_gt_of_mem hsl hleft hb
      have htb : f t b = .lt := h.lt_of_lt_of_ne_gt hst hsl (hl b hb) htl hlb
      have hlt : f x b = .lt := h.lt_of_eq_of_lt hx hst (hl b hb) hxt htb
      rw [hlt] at hxb
      cases hxb
    calc equalTo f x (merged f (l :: left) right)
      _ = equalTo f x (right.takeWhile (goesBefore f l)) ++ (equalTo f x (l :: left) ++
            equalTo f x (right.dropWhile (goesBefore f l))) := by
        rw [merged, equalTo_append, equalTo_cons, ih hsleft hsdrop hleft.of_cons, equalTo_cons f x l left,
          List.append_assoc]
      _ = equalTo f x (l :: left) ++ (equalTo f x (right.takeWhile (goesBefore f l)) ++
            equalTo f x (right.dropWhile (goesBefore f l))) := by
        rcases hcross with hnone | hnone
        · rw [hnone, List.nil_append, List.nil_append]
        · rw [hnone, List.nil_append, List.nil_append]
      _ = equalTo f x (l :: left) ++ equalTo f x right := by rw [← equalTo_append, hsplit]

/-- A sort is in order and keeps items that compare as equal in their places, if it may halve the list often
enough. -/
theorem sortAt_stable (k : Nat) : ∀ {items : List α}, items.length ≤ k → (∀ x ∈ items, S x) →
    ((Id.run (sortAt (fun a b => pure (f a b)) k items)).Pairwise fun a b => f a b ≠ .gt) ∧
      ∀ x, S x → equalTo f x (Id.run (sortAt (fun a b => pure (f a b)) k items)) = equalTo f x items := by
  induction k with
  | zero =>
    intro items hlength _
    rw [List.length_eq_zero_iff.1 (Nat.le_zero.1 hlength)]
    exact ⟨.nil, fun _ _ => rfl⟩
  | succ k ih =>
    intro items hlength hs
    rw [sortAt_id]
    by_cases hshort : items.length ≤ 1
    · rw [if_pos hshort]
      refine ⟨?_, fun _ _ => rfl⟩
      rcases items with _ | ⟨x, _ | ⟨y, rest⟩⟩
      · exact .nil
      · exact List.pairwise_singleton ..
      · simp at hshort
    · rw [if_neg hshort]
      have hsl : ∀ x ∈ items.take (items.length / 2), S x := fun x hx => hs x (List.mem_of_mem_take hx)
      have hsr : ∀ x ∈ items.drop (items.length / 2), S x := fun x hx => hs x (List.mem_of_mem_drop hx)
      have hll : (items.take (items.length / 2)).length ≤ k := by rw [List.length_take]; omega
      have hlr : (items.drop (items.length / 2)).length ≤ k := by rw [List.length_drop]; omega
      obtain ⟨hleft, heqleft⟩ := ih hll hsl
      obtain ⟨hright, heqright⟩ := ih hlr hsr
      have hsl' : ∀ x ∈ Id.run (sortAt (fun a b => pure (f a b)) k (items.take (items.length / 2))), S x :=
        fun x hx => hsl x ((sortAt_perm f k _).mem_iff.1 hx)
      have hsr' : ∀ x ∈ Id.run (sortAt (fun a b => pure (f a b)) k (items.drop (items.length / 2))), S x :=
        fun x hx => hsr x ((sortAt_perm f k _).mem_iff.1 hx)
      refine ⟨merged_sorted h hsl' hsr' hleft hright, fun x hx => ?_⟩
      rw [equalTo_merged h hx hsl' hsr' hleft, heqleft x hx, heqright x hx, ← equalTo_append,
        List.take_append_drop]

end

/-! ## Stable sorts -/

/-- The same items in order, in which items that compare as equal stand as they stood before. -/
structure IsStableSort (f : α → α → Ordering) (items out : List α) : Prop where
  perm : out ~ items
  sorted : out.Pairwise fun a b => f a b ≠ .gt
  stable : ∀ x ∈ items, equalTo f x out = equalTo f x items

/-- Lists that are in order are the same if they have the same items, and those that compare as equal stand
in the same order. By induction: the first item of each list comes before or with that of the other, so both
are the first of the items that compare as equal to them. -/
theorem eq_of_equalTo_eq {f : α → α → Ordering} {S : α → Prop} (h : PreorderOn f S) {xs : List α} :
    ∀ {ys : List α}, (∀ x ∈ xs, S x) → xs ~ ys → (xs.Pairwise fun a b => f a b ≠ .gt) →
      (ys.Pairwise fun a b => f a b ≠ .gt) → (∀ x ∈ xs, equalTo f x xs = equalTo f x ys) → xs = ys := by
  induction xs with
  | nil => exact fun _ hperm _ _ _ => (List.nil_perm.1 hperm).symm
  | cons x xs ih =>
    intro ys hs hperm hxs hys heq
    cases ys with
    | nil => exact absurd hperm.length_eq (by simp)
    | cons y ys =>
      obtain ⟨hsx, hsxs⟩ := List.forall_mem_cons.1 hs
      have hsy : S y := hs y (hperm.mem_iff.2 List.mem_cons_self)
      have hxy : f x y ≠ .gt := h.ne_gt_of_mem hsx hxs (hperm.mem_iff.2 List.mem_cons_self)
      have hyx : f y x ≠ .gt := h.ne_gt_of_mem hsy hys (hperm.mem_iff.1 List.mem_cons_self)
      have hsame : f x y = .eq := h.eq_of_ne_gt hsx hsy hxy hyx
      have hheads := heq x List.mem_cons_self
      rw [equalTo_cons, equalTo_cons f x y] at hheads
      simp only [equalTo, List.filter_singleton, h.refl hsx, hsame] at hheads
      obtain rfl : x = y := (List.cons.inj hheads).1
      rw [ih hsxs hperm.cons_inv hxs.of_cons hys.of_cons fun z hz => ?_]
      have htails := heq z (List.mem_cons_of_mem _ hz)
      rw [equalTo_cons, equalTo_cons f z x ys] at htails
      exact List.append_cancel_left htails

section

variable {f : α → α → Ordering} {items : List α} (h : PreorderOn f (· ∈ items))
include h

theorem inOrder_isStableSort : IsStableSort f items (inOrder f items) := by
  obtain ⟨hsorted, hstable⟩ := sortAt_stable h items.length (Nat.le_refl _) fun _ hx => hx
  exact ⟨inOrder_perm f items, hsorted, hstable⟩

/-- There is only one stable sort of a list. -/
theorem IsStableSort.unique {out out' : List α} (ho : IsStableSort f items out)
    (ho' : IsStableSort f items out') : out = out' := by
  have hmem : ∀ x ∈ out, x ∈ items := fun _ hx => ho.perm.mem_iff.1 hx
  refine eq_of_equalTo_eq h hmem (ho.perm.trans ho'.perm.symm) ho.sorted ho'.sorted fun x hx => ?_
  rw [ho.stable x (hmem x hx), ho'.stable x (hmem x hx)]

end

/-- Sorting with any comparator, which may change a state, fail, and contradict itself. The comparisons are
written down without changing the outcome or the state.

* If the sort succeeds, it returns the items in some order, and no comparison failed.
* If it fails, a comparison failed with that error; and if a comparison fails, the sort fails with its error
  and makes no comparison after it.
* If the comparator has no effects and compares as a total preorder does, the sort has no effects and returns
  the items in order, with items that compare as equal in the order in which they stood. There is only one
  such list. -/
theorem mergeSort_of_any_comparator {σ ε : Type} (cmp : Comparator σ ε α) (items : List α) (s : σ) :
    ∃ r s' log,
      (mergeSort cmp items).run.run s = (r, s') ∧
      (mergeSort cmp.logged items).run.run (s, []) = (r, s', log) ∧
      (∀ out, r = .ok out → out ~ items ∧ ∀ c ∈ log, c.succeeded = true) ∧
      (∀ e, r = .error e → ∃ c ∈ log, c.outcome = .error e) ∧
      (∀ before c after e, log = before ++ c :: after → c.outcome = .error e →
        r = .error e ∧ after = [] ∧ ∀ c ∈ before, c.succeeded = true) ∧
      ∀ f : α → α → Ordering, PreorderOn f (· ∈ items) →
        (∀ a ∈ items, ∀ b ∈ items, cmp a b = pure (f a b)) →
          ∃ out, r = .ok out ∧ s' = s ∧ IsStableSort f items out ∧
            ∀ out', IsStableSort f items out' → out' = out := by
  obtain ⟨r, s', log, hplain, hlogged, hend⟩ := mergeSort_logs cmp items s []
  refine ⟨r, s', log, hplain, hlogged, ?_, ?_, ?_, ?_⟩
  · rintro out rfl
    exact hend
  · rintro e rfl
    obtain ⟨before, a, b, rfl, -⟩ := hend
    exact ⟨_, List.mem_append_right _ (List.mem_singleton_self _), rfl⟩
  · rintro before c after e rfl hc
    exact hend.of_failed hc
  · intro f hf hcmp
    have hpure : mergeSort cmp items = pure (inOrder f items) :=
      mergeSort_pure (List.pairwise_of_forall_mem_list fun l hl r hr => hcmp r hr l hl)
    rw [hpure] at hplain
    obtain ⟨rfl, rfl⟩ := Prod.mk.inj hplain
    have hsort := inOrder_isStableSort hf
    exact ⟨inOrder f items, rfl, rfl, hsort, fun out' hout' => hout'.unique hf hsort⟩

/-- Pairs sorted by their first components, and numbers sorted with a comparator that fails at its third
comparison. -/
theorem mergeSort_of_two_comparators :
    (mergeSort (fun a b => pure (compare a.1 b.1) : Comparator Nat String (Nat × Nat))
      [(2, 0), (1, 1), (2, 2), (1, 3)]).run.run 5 = (.ok [(1, 1), (1, 3), (2, 0), (2, 2)], 5) ∧
    (mergeSort (fun a b => ExceptT.mk fun k =>
        if k = 2 then (.error "tired", k) else (.ok (compare a b), k + 1) : Comparator Nat String Nat)
      [4, 3, 2, 1]).run.run 0 = (.error "tired", 2) := by
  constructor
  · obtain ⟨r, s', log, hrun, -, -, -, -, hsorts⟩ := mergeSort_of_any_comparator
      (fun a b => pure (compare a.1 b.1) : Comparator Nat String (Nat × Nat))
      [(2, 0), (1, 1), (2, 2), (1, 3)] 5
    obtain ⟨out, rfl, rfl, -, hunique⟩ := hsorts (fun a b => compare a.1 b.1)
      ⟨fun _ _ => OrientedCmp.eq_swap, fun _ _ _ => by simp only [Nat.compare_ne_gt]; omega⟩
      fun _ _ _ _ => rfl
    rw [hrun, hunique [(1, 1), (1, 3), (2, 0), (2, 2)] ⟨by decide, by decide, by decide⟩]
  · obtain ⟨r, s', log, hrun, hlogged, -, -, hfails, -⟩ := mergeSort_of_any_comparator
      (fun a b => ExceptT.mk fun k =>
        if k = 2 then (.error "tired", k) else (.ok (compare a b), k + 1) : Comparator Nat String Nat)
      [4, 3, 2, 1] 0
    have hlog : log = [⟨3, 4, .ok .lt⟩, ⟨1, 2, .ok .lt⟩] ++ [⟨1, 3, .error "tired"⟩] :=
      (congrArg (fun p => p.2.2) hlogged).symm
    have hstate : s' = 2 := (congrArg (fun p => p.2.1) hlogged).symm
    rw [hrun, (hfails _ _ _ "tired" hlog rfl).1, hstate]

end ToolLisp.Sorting
