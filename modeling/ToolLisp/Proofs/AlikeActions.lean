import ToolLisp.Builtin.Argument
import ToolLisp.Builtin.Ordering
import ToolLisp.Builtin.Signature
import ToolLisp.Proofs.Alike

/-!
# Actions that are alike

Two actions are alike if they call values that are alike with arguments that are alike, go on in the same way
whenever the calls return values that are alike, and end with results that are alike. `Action.Rel` says this
for any relation of the results, and `Checked.Rel` says the same of results that may be errors. An error is the
same on both sides up to bindings. It is never that of a variable without a value, that of a stray `recur`, or
one that the program raises itself; these are left to the evaluator.

The rules here follow the ways in which builtin functions are put together: sequencing, folds over lists,
taking arguments for what they are, and sorting.
-/

namespace ToolLisp

open Value
open List (Forall₂)

section

variable (σ : List Pattern → Expr → Env → Env) (V : Value → Prop) {α : Type}

/-- Two errors of builtin functions that are the same up to bindings. -/
structure EvalError.Alike (e e' : EvalError) : Prop where
  /-- They become the same. -/
  same : e.rebind σ = e'.rebind σ
  /-- They are not about a loop that is entered again where there is none. -/
  noRecur : e ≠ .type .strayRecur
  /-- They are neither about a variable nor raised by the program itself. -/
  plain : e.plain = true

/-- Two results that are related by `R`, or two errors that are alike. -/
inductive Checked.Rel (R : α → α → Prop) : Checked α → Checked α → Prop
  | ok {a b : α} : R a b → Rel R (.ok a) (.ok b)
  | error {e e' : EvalError} : e.Alike σ e' → Rel R (.error e) (.error e')

/-- Two values that are alike, or two errors that are alike. -/
abbrev Checked.Alike : Checked Value → Checked Value → Prop :=
  Checked.Rel σ (Value.Alike σ V)

/-- Two actions with calls that are alike, whose results are related by `R`. -/
inductive Action.Rel (R : α → α → Prop) : Action α → Action α → Prop
  | done {a b : α} : R a b → Rel R (.done a) (.done b)
  | fail {e e' : EvalError} : e.Alike σ e' → Rel R (.fail e) (.fail e')
  | call {f g : Value} {args args' : List Value} {next next' : Value → Action α} :
    Value.Alike σ V f g → Forall₂ (Value.Alike σ V) args args' →
      (∀ v w, Value.Alike σ V v w → Rel R (next v) (next' w)) →
      Rel R (.call f args next) (.call g args' next')

/-- Two actions with calls and results that are alike. -/
abbrev Action.Alike : Action Value → Action Value → Prop :=
  Action.Rel σ V (Value.Alike σ V)

end

variable {σ : List Pattern → Expr → Env → Env} {V : Value → Prop} {α β : Type}

/-! ## Lists -/

section

variable {R : α → α → Prop} {xs ys : List α}

/-- An index is in both lists or in neither. -/
theorem rel_getElem? (h : Forall₂ R xs ys) (i : Nat) : Option.Rel R xs[i]? ys[i]? := by
  induction h generalizing i with
  | nil => exact .none
  | cons hx _ ih =>
    cases i with
    | zero => exact .some hx
    | succ i => exact ih i

theorem rel_getLast? (h : Forall₂ R xs ys) : Option.Rel R xs.getLast? ys.getLast? := by
  rw [List.getLast?_eq_getElem?, List.getLast?_eq_getElem?, h.length_eq]
  exact rel_getElem? h _

theorem rel_dropLast (h : Forall₂ R xs ys) : Forall₂ R xs.dropLast ys.dropLast := by
  rw [List.dropLast_eq_take, List.dropLast_eq_take, h.length_eq]
  exact List.forall₂_take _ h

/-- An item is replaced in both lists. -/
theorem rel_set (h : Forall₂ R xs ys) (i : Nat) {x y : α} (hxy : R x y) :
    Forall₂ R (xs.set i x) (ys.set i y) := by
  induction h generalizing i with
  | nil => exact .nil
  | cons hx hrest ih =>
    cases i with
    | zero => exact .cons hxy hrest
    | succ i => exact .cons hx (ih i)

/-- Two lists are combined up to the end of the shorter one, which is at the same place on both sides. -/
theorem rel_zipWith {γ : Type} {S : β → β → Prop} {T : γ → γ → Prop} {f g : α → β → γ}
    (hf : ∀ a b c d, R a b → S c d → T (f a c) (g b d)) (h : Forall₂ R xs ys) {us vs : List β}
    (h' : Forall₂ S us vs) : Forall₂ T (List.zipWith f xs us) (List.zipWith g ys vs) := by
  induction h generalizing us vs with
  | nil => exact .nil
  | cons hx _ ih =>
    cases h' with
    | nil => exact .nil
    | cons hu hus => exact .cons (hf _ _ _ _ hx hu) (ih hus)

end

/-! ## Results that may be errors -/

namespace Checked.Rel

variable {R R' : α → α → Prop} {S : β → β → Prop}

/-- An error ends both sides. -/
theorem bind {x y : Checked α} {f g : α → Checked β} (h : Rel σ R x y)
    (hf : ∀ a b, R a b → Rel σ S (f a) (g b)) : Rel σ S (x >>= f) (y >>= g) := by
  cases h with
  | ok h => exact hf _ _ h
  | error h => exact .error h

/-- Going on with the same result on both sides. -/
theorem bindSame {x y : Checked α} {f g : α → Checked β} (h : Rel σ Eq x y)
    (hf : ∀ a, Rel σ S (f a) (g a)) : Rel σ S (x >>= f) (y >>= g) :=
  h.bind fun a _ hab => hab ▸ hf a

theorem map {x y : Checked α} {f g : α → β} (h : Rel σ R x y) (hf : ∀ a b, R a b → S (f a) (g b)) :
    Rel σ S (x.map f) (y.map g) := by
  cases h with
  | ok h => exact .ok (hf _ _ h)
  | error h => exact .error h

/-- By induction on the lists; the first error ends both sides. -/
theorem mapM {f g : α → Checked β} (hf : ∀ a b, R a b → Rel σ S (f a) (g b)) {xs ys : List α}
    (h : Forall₂ R xs ys) : Rel σ (Forall₂ S) (xs.mapM f) (ys.mapM g) := by
  induction h with
  | nil => exact .ok .nil
  | cons hx _ ih =>
    rw [List.mapM_cons, List.mapM_cons]
    exact (hf _ _ hx).bind fun a b hab => ih.bind fun as bs habs => .ok (.cons hab habs)

/-- Taking each item for something that is the same on both sides. -/
theorem mapMSame {f g : α → Checked β} (hf : ∀ a b, R a b → Rel σ Eq (f a) (g b)) {xs ys : List α}
    (h : Forall₂ R xs ys) : Rel σ Eq (xs.mapM f) (ys.mapM g) := by
  have hall := mapM hf h
  rwa [List.forall₂_eq_eq_eq] at hall

/-- What is carried along is related after each step. By induction on the lists. -/
theorem foldlM {f g : β → α → Checked β} (hf : ∀ b b' a a', S b b' → R a a' → Rel σ S (f b a) (g b' a'))
    {xs ys : List α} (h : Forall₂ R xs ys) :
    ∀ {b b' : β}, S b b' → Rel σ S (xs.foldlM f b) (ys.foldlM g b') := by
  induction h with
  | nil => exact fun hb => .ok hb
  | cons hx _ ih =>
    intro b b' hb
    rw [List.foldlM_cons, List.foldlM_cons]
    exact (hf _ _ _ _ hb hx).bind fun _ _ hb => ih hb

/-- An optional argument that is taken for something that is the same on both sides. -/
theorem optionMapM {f g : α → Checked β} (hf : ∀ a b, R a b → Rel σ Eq (f a) (g b)) {o o' : Option α}
    (h : Option.Rel R o o') : Rel σ Eq (o.mapM f) (o'.mapM g) := by
  cases h with
  | none => exact .ok rfl
  | some h => exact (hf _ _ h).map fun _ _ hab => congrArg some hab

end Checked.Rel

/-! ## Arguments -/

namespace Value

section

variable [Stable V] {v w : Value} (name : String) (h : Alike σ V v w)
include h

omit [Stable V] in
/-- The error names the type of the value, which is the same on both sides. -/
theorem unexpected_alike {R : α → α → Prop} (what : String) :
    Checked.Rel σ R (v.unexpected name what) (w.unexpected name what) :=
  .error ⟨congrArg (fun u => EvalError.type (.expected name what u)) h.1, (fun h => by cases h), rfl⟩

/-- A number is the same on both sides. -/
theorem asNumber_alike : Checked.Rel σ Eq (v.asNumber name) (w.asNumber name) := by
  cases h.matching with
  | number n => exact .ok rfl
  | _ => exact unexpected_alike name h _

/-- A whole number, also one that is given as a double, is the same on both sides. -/
theorem asInt_alike : Checked.Rel σ Eq (v.asInt name) (w.asInt name) := by
  cases h.matching with
  | number n =>
    cases n with
    | int n => exact .ok rfl
    | float x =>
      simp only [asInt]
      split
      · exact .ok rfl
      · exact unexpected_alike name h _
  | _ => exact unexpected_alike name h _

theorem asIndex_alike : Checked.Rel σ Eq (v.asIndex name) (w.asIndex name) :=
  (asInt_alike name h).map fun _ _ hn => congrArg (fun n : Int64 => n.toInt.toNat) hn

theorem asString_alike : Checked.Rel σ Eq (v.asString name) (w.asString name) := by
  cases h.matching with
  | string s => exact .ok rfl
  | _ => exact unexpected_alike name h _

theorem asMap_alike : Checked.Rel σ (Entries.MapAlike σ V) (v.asMap name) (w.asMap name) := by
  cases h.matching with
  | map _ => exact .ok h
  | nil => exact .ok (.self Stable.empty)
  | _ => exact unexpected_alike name h _

/-- Vectors have items that are alike. -/
theorem asVector_alike : Checked.Rel σ (Forall₂ (Alike σ V)) (v.asVector name) (w.asVector name) := by
  cases h.matching with
  | vector hi => exact .ok (AllAlike.iff_forall₂.1 hi)
  | nil => exact .ok .nil
  | _ => exact unexpected_alike name h _

omit [Stable V] in
/-- A function is callable on both sides. -/
theorem asCallable_alike : Checked.Alike σ V (v.asCallable name) (w.asCallable name) := by
  unfold asCallable
  rw [h.callable]
  split
  · exact .ok h
  · exact unexpected_alike name h _

/-- The items of a collection: those of a vector, the entries of a map, the characters of a string. -/
theorem items_alike : Checked.Rel σ (Forall₂ (Alike σ V)) (v.items name) (w.items name) := by
  cases h.matching with
  | vector hi => exact .ok (AllAlike.iff_forall₂.1 hi)
  | nil => exact .ok .nil
  | map hm =>
    refine .ok (List.rel_map (fun e e' he => ?_) (Entries.Alike.iff_forall₂.1 hm))
    exact .vector (.cons he.1 (.cons he.2 .nil))
  | string s =>
    refine .ok (List.forall₂_same.2 fun x hx => ?_)
    obtain ⟨c, -, rfl⟩ := List.mem_map.1 hx
    exact .string c
  | _ => exact unexpected_alike name h _

theorem size_alike : Checked.Rel σ Eq (v.size name) (w.size name) := by
  cases h.matching with
  | vector hi => exact .ok hi.length
  | map hm => exact .ok (Entries.Alike.iff_forall₂.1 hm).length_eq
  | string | nil => exact .ok rfl
  | _ => exact unexpected_alike name h _

omit [Stable V] in
/-- Values that cannot be compared are refused on both sides. -/
theorem incomparable_alike {R : α → α → Prop} {v' w' : Value} (h' : Alike σ V v' w') :
    Checked.Rel σ R (incomparable name v v') (incomparable name w w') :=
  .error ⟨congrArg₂ (fun a b => EvalError.type (.incomparable name a b)) h.1 h'.1, (fun h => by cases h), rfl⟩

end

mutual

/-- Only vectors are compared by comparing further values. -/
theorem naturalCompare_alike [Stable V] (name : String) {a a' b b' : Value} (ha : Alike σ V a a')
    (hb : Alike σ V b b') :
    Checked.Rel σ Eq (a.naturalCompare name b) (a'.naturalCompare name b') := by
  cases ha.matching with
  | nil => simpa only [naturalCompare] using .ok (ha.compare hb)
  | vector has =>
    cases hb.matching with
    | nil => simpa only [naturalCompare] using .ok (ha.compare hb)
    | vector hbs =>
      simp only [naturalCompare]
      exact naturalCompareAll_alike name (AllAlike.iff_forall₂.1 has) (AllAlike.iff_forall₂.1 hbs)
    | _ => simpa only [naturalCompare] using incomparable_alike name ha hb
  | bool | number | string | keyword =>
    cases hb.matching with
    | nil => simpa only [naturalCompare] using .ok (ha.compare hb)
    | bool | number | string | keyword =>
      simp only [naturalCompare]
      first | exact .ok rfl | exact incomparable_alike name ha hb
    | _ => simpa only [naturalCompare] using incomparable_alike name ha hb
  | _ =>
    cases hb.matching with
    | nil => simpa only [naturalCompare] using .ok (ha.compare hb)
    | _ => simpa only [naturalCompare] using incomparable_alike name ha hb
termination_by sizeOf a

/-- Item by item, up to the first difference. -/
theorem naturalCompareAll_alike [Stable V] (name : String) {as as' bs bs' : List Value}
    (ha : Forall₂ (Alike σ V) as as') (hb : Forall₂ (Alike σ V) bs bs') :
    Checked.Rel σ Eq (naturalCompareAll name as bs) (naturalCompareAll name as' bs') := by
  cases ha with
  | nil => simpa only [naturalCompareAll] using .ok (by rw [hb.length_eq])
  | @cons a a' as as' ha has =>
    cases hb with
    | nil => simpa only [naturalCompareAll] using .ok (by simp [has.length_eq])
    | @cons b b' bs bs' hb hbs =>
      have hfirst := naturalCompare_alike name ha hb
      simp only [naturalCompareAll]
      generalize a.naturalCompare name b = r, a'.naturalCompare name b' = r' at hfirst ⊢
      cases hfirst with
      | error h => exact .error h
      | ok h =>
        subst h
        split
        · exact naturalCompareAll_alike name has hbs
        · exact .ok rfl
termination_by sizeOf as

end

end Value

/-! ## Actions -/

namespace Action

variable {R : α → α → Prop} {S : β → β → Prop}

/-- The calls of the first action are made before those of the second. -/
theorem Rel.bind {x y : Action α} {f g : α → Action β} (h : Rel σ V R x y)
    (hf : ∀ a b, R a b → Rel σ V S (f a) (g b)) : Rel σ V S (x >>= f) (y >>= g) := by
  induction h with
  | done h => exact hf _ _ h
  | fail h => exact .fail h
  | call hg ha _ ih => exact .call hg ha ih

/-- A check makes no calls. -/
theorem Rel.liftM {x y : Checked α} (h : Checked.Rel σ R x y) :
    Rel σ V R (liftM x : Action α) (liftM y : Action α) := by
  cases h with
  | ok h => exact .done h
  | error h => exact .fail h

theorem Rel.mapM {f g : α → Action β} (hf : ∀ a b, R a b → Rel σ V S (f a) (g b)) {xs ys : List α}
    (h : Forall₂ R xs ys) : Rel σ V (Forall₂ S) (xs.mapM f) (ys.mapM g) := by
  suffices hloop : ∀ {done done' : List β}, Forall₂ S done done' →
      Rel σ V (Forall₂ S) (List.mapM.loop f xs done) (List.mapM.loop g ys done') from hloop .nil
  induction h with
  | nil => exact fun hd => .done (List.rel_reverse hd)
  | cons hx _ ih => exact fun hd => (hf _ _ hx).bind fun _ _ hab => ih (.cons hab hd)

/-- A function is called on one list of arguments after the other. By induction on the lists. -/
theorem collect_alike {f g : Value} (hf : Value.Alike σ V f g) {lists lists' : List (List Value)}
    (h : Forall₂ (Forall₂ (Value.Alike σ V)) lists lists') :
    ∀ {results results' : List Value}, Forall₂ (Value.Alike σ V) results results' →
      Rel σ V (Forall₂ (Value.Alike σ V)) (collect f results lists) (collect g results' lists') := by
  induction h with
  | nil => exact fun hr => .done (List.rel_reverse hr)
  | cons ha _ ih => exact fun hr => .call hf ha fun _ _ hv => ih (.cons hv hr)

theorem results_alike {f g : Value} (hf : Value.Alike σ V f g) {xs ys : List Value}
    (h : Forall₂ (Value.Alike σ V) xs ys) :
    Rel σ V (Forall₂ (Value.Alike σ V)) (results f xs) (results g ys) :=
  collect_alike hf (List.rel_map (fun _ _ hx => .cons hx .nil) h) .nil

end Action

/-! ## Sorting -/

namespace Sorting

open Action

variable {R : α → α → Prop} {cmp cmp' : α → α → Action Ordering}
  (hc : ∀ a a' b b', R a a' → R b b' → Rel σ V Eq (cmp a b) (cmp' a' b'))
include hc

/-- Items that go first are passed over, with one comparison each. -/
theorem passSmaller_alike {l l' : α} (hl : R l l') {right right' : List α} (hr : Forall₂ R right right') :
    ∀ {done done' : List α}, Forall₂ R done done' → Rel σ V (fun p p' => Forall₂ R p.1 p'.1 ∧ Forall₂ R p.2 p'.2)
      (passSmaller cmp l done right) (passSmaller cmp' l' done' right') := by
  induction hr with
  | nil => exact fun hd => .done ⟨hd, .nil⟩
  | cons hx hr ih =>
    intro done done' hd
    refine (hc _ _ _ _ hx hl).bind fun o o' ho => ?_
    subst ho
    cases o with
    | lt => exact ih (.cons hx hd)
    | eq | gt => exact .done ⟨hd, .cons hx hr⟩

/-- Both lists are taken apart at the same places, because the comparisons come out alike. -/
theorem mergeInto_alike {left left' : List α} (hl : Forall₂ R left left') :
    ∀ {done done' right right' : List α}, Forall₂ R done done' → Forall₂ R right right' →
      Rel σ V (Forall₂ R) (mergeInto cmp done left right) (mergeInto cmp' done' left' right') := by
  induction hl with
  | nil => exact fun hd hr => .done (List.rel_append (List.rel_reverse hd) hr)
  | cons hx _ ih =>
    exact fun hd hr => (passSmaller_alike hc hx hr hd).bind fun p p' hp => ih (.cons hx hp.1) hp.2

/-- By induction on how often the list may be halved. -/
theorem sortAt_alike (n : Nat) : ∀ {xs ys : List α}, Forall₂ R xs ys →
    Rel σ V (Forall₂ R) (sortAt cmp n xs) (sortAt cmp' n ys) := by
  induction n with
  | zero => exact fun h => .done h
  | succ n ih =>
    intro xs ys h
    simp only [sortAt, h.length_eq]
    split
    · exact .done h
    · refine (ih (List.forall₂_take _ h)).bind fun left left' hl => ?_
      refine (ih (List.forall₂_drop _ h)).bind fun right right' hr => ?_
      exact mergeInto_alike hc hl .nil hr

/-- Sorting lists that are related with comparisons that are alike. -/
theorem mergeSort_alike {xs ys : List α} (h : Forall₂ R xs ys) :
    Rel σ V (Forall₂ R) (mergeSort cmp xs) (mergeSort cmp' ys) := by
  rw [mergeSort, mergeSort, h.length_eq]
  exact sortAt_alike hc ys.length h

end Sorting

/-! ## Signatures -/

namespace Signature

variable (σ V) in
/-- The functions of a signature do the same on arguments that are alike. -/
def Respects : Signature → Prop
  | .one f => ∀ a a', Alike σ V a a' → (f a).Alike σ V (f a')
  | .two f => ∀ a a' b b', Alike σ V a a' → Alike σ V b b' → (f a b).Alike σ V (f a' b')
  | .three f => ∀ a a' b b' c c', Alike σ V a a' → Alike σ V b b' → Alike σ V c c' →
    (f a b c).Alike σ V (f a' b' c')
  | .oneOrTwo f g => (∀ a a', Alike σ V a a' → (f a).Alike σ V (f a')) ∧
    ∀ a a' b b', Alike σ V a a' → Alike σ V b b' → (g a b).Alike σ V (g a' b')
  | .twoOrThree f => ∀ a a' b b' c c', Alike σ V a a' → Alike σ V b b' → Option.Rel (Alike σ V) c c' →
    (f a b c).Alike σ V (f a' b' c')
  | .oneToThree f => ∀ a a' b b' c c', Alike σ V a a' → Option.Rel (Alike σ V) b b' →
    Option.Rel (Alike σ V) c c' → (f a b c).Alike σ V (f a' b' c')
  | .any f => ∀ args args', Forall₂ (Alike σ V) args args' → (f args).Alike σ V (f args')
  | .oneOrMore f => ∀ a a' rest rest', Alike σ V a a' → Forall₂ (Alike σ V) rest rest' →
    (f a rest).Alike σ V (f a' rest')
  | .twoOrMore f => ∀ a a' b b' rest rest', Alike σ V a a' → Alike σ V b b' →
    Forall₂ (Alike σ V) rest rest' → (f a b rest).Alike σ V (f a' b' rest')
  | .threeOrMore f => ∀ a a' b b' c c' rest rest', Alike σ V a a' → Alike σ V b b' → Alike σ V c c' →
    Forall₂ (Alike σ V) rest rest' → (f a b c rest).Alike σ V (f a' b' c' rest')

/-- What a signature does with arguments that are alike, if it takes so many of them. -/
theorem Respects.actOn? {sig : Signature} (h : sig.Respects σ V) {args args' : List Value}
    (ha : Forall₂ (Alike σ V) args args') :
    Option.Rel (Action.Alike σ V) (sig.actOn? args) (sig.actOn? args') := by
  -- a number of arguments that the signature does not take gives nothing on either side
  cases sig with
  | one f =>
    rcases ha with _ | ⟨h₁, _ | _⟩
    exacts [.none, .some (h _ _ h₁), .none]
  | two f =>
    rcases ha with _ | ⟨h₁, _ | ⟨h₂, _ | _⟩⟩
    exacts [.none, .none, .some (h _ _ _ _ h₁ h₂), .none]
  | three f =>
    rcases ha with _ | ⟨h₁, _ | ⟨h₂, _ | ⟨h₃, _ | _⟩⟩⟩
    exacts [.none, .none, .none, .some (h _ _ _ _ _ _ h₁ h₂ h₃), .none]
  | oneOrTwo f g =>
    rcases ha with _ | ⟨h₁, _ | ⟨h₂, _ | _⟩⟩
    exacts [.none, .some (h.1 _ _ h₁), .some (h.2 _ _ _ _ h₁ h₂), .none]
  | twoOrThree f =>
    rcases ha with _ | ⟨h₁, _ | ⟨h₂, _ | ⟨h₃, _ | _⟩⟩⟩
    exacts [.none, .none, .some (h _ _ _ _ _ _ h₁ h₂ .none), .some (h _ _ _ _ _ _ h₁ h₂ (.some h₃)), .none]
  | oneToThree f =>
    rcases ha with _ | ⟨h₁, _ | ⟨h₂, _ | ⟨h₃, _ | _⟩⟩⟩
    exacts [.none, .some (h _ _ _ _ _ _ h₁ .none .none), .some (h _ _ _ _ _ _ h₁ (.some h₂) .none),
      .some (h _ _ _ _ _ _ h₁ (.some h₂) (.some h₃)), .none]
  | any f => exact .some (h _ _ ha)
  | oneOrMore f =>
    rcases ha with _ | ⟨h₁, hr⟩
    exacts [.none, .some (h _ _ _ _ h₁ hr)]
  | twoOrMore f =>
    rcases ha with _ | ⟨h₁, _ | ⟨h₂, hr⟩⟩
    exacts [.none, .none, .some (h _ _ _ _ _ _ h₁ h₂ hr)]
  | threeOrMore f =>
    rcases ha with _ | ⟨h₁, _ | ⟨h₂, _ | ⟨h₃, hr⟩⟩⟩
    exacts [.none, .none, .none, .some (h _ _ _ _ _ _ _ _ h₁ h₂ h₃ hr)]

end Signature

end ToolLisp
