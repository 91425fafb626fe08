import ToolLisp.Proofs.Evaluation
import ToolLisp.Proofs.StableSorting
import ToolLisp.Proofs.ValueOrder

/-!
# Sorted collections

`sort` and `sort-by` sort with the natural order, the opposite order, or the order that a function gives. If
the comparator puts the keys in an order (`Orders`), the result is the stable sort in that order
(`sort_and_sortBy_are_stable`). What a comparator comes to is computed without effects on definitions and
tools, so the sort does the same as one whose comparator has no effects at all (`Yields`).
-/

namespace ToolLisp

open Sorting (IsStableSort PreorderOn)

/-! ## The natural order -/

namespace Value

/-- The natural order of two values is defined. -/
def Comparable (name : String) (a b : Value) : Prop :=
  (a.naturalCompare name b).isOk = true ∧ (b.naturalCompare name a).isOk = true

instance (name : String) (a b : Value) : Decidable (Comparable name a b) :=
  inferInstanceAs (Decidable (_ ∧ _))

/-- The natural order of two values. A value is equal to itself, even if it cannot be ordered. -/
def naturalOrder (name : String) (a b : Value) : Ordering :=
  (a.naturalCompare name b).toOption.getD .eq

theorem compareAll_of_naturalCompareAll {name : String} {as : List Value}
    (has : ∀ a ∈ as, ∀ b o, a.naturalCompare name b = .ok o → a.compare b = o) :
    ∀ {bs : List Value} {o : Ordering}, naturalCompareAll name as bs = .ok o → compareAll as bs = o := by
  induction as with
  | nil =>
    intro bs o h
    cases bs with
    | nil => exact Except.ok.inj h
    | cons b bs => exact Except.ok.inj h
  | cons a as ih =>
    obtain ⟨ha, has⟩ := List.forall_mem_cons.1 has
    intro bs o h
    cases bs with
    | nil => exact Except.ok.inj h
    | cons b bs =>
      rw [naturalCompareAll] at h
      cases hab : naturalCompare name a b with
      | error e =>
        rw [hab] at h
        cases h
      | ok o' =>
        rw [hab] at h
        rw [compareAll, ha b o' hab]
        cases o' with
        | lt => exact Except.ok.inj h
        | eq => exact ih has h
        | gt => exact Except.ok.inj h

/-- Where the natural order is defined, it is the order of values. -/
theorem compare_of_naturalCompare {name : String} (a b : Value) (o : Ordering)
    (h : a.naturalCompare name b = .ok o) : a.compare b = o := by
  have hparts : ∀ p ∈ a.parts, ∀ b o, p.naturalCompare name b = .ok o → p.compare b = o :=
    fun p hp b o h => compare_of_naturalCompare p b o h
  cases a with
  | nil => exact Except.ok.inj h
  | vector as =>
    cases b with
    | nil => exact Except.ok.inj h
    | vector bs => exact compareAll_of_naturalCompareAll hparts h
    | _ => cases h
  | _ =>
    cases b with
    | nil => exact Except.ok.inj h
    | _ => first | exact Except.ok.inj h | cases h
termination_by sizeOf a
decreasing_by exact sizeOf_lt_of_mem_parts hp

theorem naturalOrder_of_comparable {name : String} {a b : Value} (h : Comparable name a b) :
    a.naturalCompare name b = .ok (naturalOrder name a b) := by
  cases hab : a.naturalCompare name b with
  | error e =>
    rw [Comparable, hab] at h
    exact absurd h.1 Bool.false_ne_true
  | ok o => rw [naturalOrder, hab]; rfl

instance (name : String) : Std.Symm (Comparable name) := ⟨fun _ _ => And.symm⟩

/-- The natural order of values any two of which can be ordered is the order of values. -/
theorem naturalOrder_eq_compare {name : String} {keys : List Value} (h : keys.Pairwise (Comparable name))
    {a b : Value} (ha : a ∈ keys) (hb : b ∈ keys) : naturalOrder name a b = a.compare b := by
  by_cases hab : Comparable name a b
  · exact (compare_of_naturalCompare a b _ (naturalOrder_of_comparable hab)).symm
  · -- two values that cannot be ordered are one item of the list
    have hsame : a = b := by
      by_contra hne
      exact hab (h.forall ha hb hne)
    subst hsame
    have hself : a.compare a = .eq := Std.ReflCmp.compare_self
    cases ho : a.naturalCompare name a with
    | error e =>
      rw [naturalOrder, ho, hself]
      rfl
    | ok o =>
      rw [naturalOrder, ho, compare_of_naturalCompare a a o ho]
      rfl

/-- The order of values is a total preorder of those without NaN that has the sign bit set. -/
theorem regular_preorderOn : PreorderOn compare Regular where
  swap _ _ := Std.OrientedCmp.eq_swap
  trans {a b c} ha hb hc hab hbc := Ordering.isLE_iff_ne_gt.1 <|
    (compare_lawful a b c).isLE ⟨ha, hb, hc⟩ (Ordering.isLE_iff_ne_gt.2 hab) (Ordering.isLE_iff_ne_gt.2 hbc)

/-- So is the natural order of such values, if any two of them can be ordered. -/
theorem naturalOrder_preorderOn {name : String} {keys : List Value}
    (h : keys.Pairwise (Comparable name)) (hregular : ∀ k ∈ keys, k.Regular) :
    PreorderOn (naturalOrder name) (· ∈ keys) where
  swap ha hb := by
    rw [naturalOrder_eq_compare h ha hb, naturalOrder_eq_compare h hb ha]
    exact Std.OrientedCmp.eq_swap
  trans ha hb hc := by
    rw [naturalOrder_eq_compare h ha hb, naturalOrder_eq_compare h hb hc, naturalOrder_eq_compare h ha hc]
    exact regular_preorderOn.trans (hregular _ ha) (hregular _ hb) (hregular _ hc)

end Value

/-! ## Strict weak orders -/

/-- Being before is a strict weak order of the values that satisfy `S`: nothing is before itself, what is
before something is before all that comes after it, and values neither of which is before the other are
equivalent. -/
structure StrictWeakOrderOn (before : Value → Value → Bool) (S : Value → Prop) : Prop where
  irrefl {a : Value} : S a → before a a = false
  trans {a b c : Value} : S a → S b → S c → before a b = true → before b c = true → before a c = true
  incomparable {a b c : Value} : S a → S b → S c → before a b = false → before b a = false →
    before b c = false → before c b = false → before a c = false ∧ before c a = false

/-- The order in which a value is less than those that it is before. -/
def orderBefore (before : Value → Value → Bool) (a b : Value) : Ordering :=
  if before a b then .lt else if before b a then .gt else .eq

namespace StrictWeakOrderOn

variable {before : Value → Value → Bool} {S : Value → Prop} (h : StrictWeakOrderOn before S) {a b c : Value}
include h

theorem asymm (ha : S a) (hb : S b) (hab : before a b = true) : before b a = false := by
  by_contra hba
  have haa := h.trans ha hb ha hab (Bool.not_eq_false _ ▸ hba)
  rw [h.irrefl ha] at haa
  cases haa

theorem orderBefore_ne_gt (ha : S a) (hb : S b) : orderBefore before a b ≠ .gt ↔ before b a = false := by
  rw [orderBefore]
  cases hab : before a b with
  | true => simp [h.asymm ha hb hab]
  | false => cases hba : before b a <;> simp

/-- What is not before something is not before anything that is not before it either. -/
theorem not_before_trans (ha : S a) (hb : S b) (hc : S c) (hba : before b a = false)
    (hcb : before c b = false) : before c a = false := by
  by_contra hca
  have hca : before c a = true := Bool.not_eq_false _ ▸ hca
  have hab : before a b = false := by
    by_contra hab
    rw [h.trans hc ha hb hca (Bool.not_eq_false _ ▸ hab)] at hcb
    cases hcb
  have hbc : before b c = false := by
    by_contra hbc
    rw [h.trans hb hc ha (Bool.not_eq_false _ ▸ hbc) hca] at hba
    cases hba
  rw [(h.incomparable ha hb hc hab hba hbc hcb).2] at hca
  cases hca

theorem preorderOn : PreorderOn (orderBefore before) S where
  swap {a b} ha hb := by
    rw [orderBefore, orderBefore]
    cases hab : before a b with
    | true => simp [h.asymm ha hb hab]
    | false => cases hba : before b a <;> simp
  trans ha hb hc hab hbc := by
    rw [h.orderBefore_ne_gt ha hb] at hab
    rw [h.orderBefore_ne_gt hb hc] at hbc
    exact (h.orderBefore_ne_gt ha hc).2 (h.not_before_trans ha hb hc hab hbc)

end StrictWeakOrderOn

/-! ## Calls without effects, and calls in turn -/

/-- Two states differ at most in the stamp of the next function. -/
def RunState.SameEffects (s s' : RunState) : Prop :=
  s'.definitions = s.definitions ∧ s'.calls = s.calls

theorem RunState.SameEffects.refl (s : RunState) : s.SameEffects s :=
  ⟨rfl, rfl⟩

/-- A computation succeeds with a result that satisfies `P`, and neither defines a name nor calls a tool. It
does so however many functions have been made before. -/
def EvalM.PureFrom {α : Type} (s : RunState) (x : EvalM α) (P : α → Prop) : Prop :=
  ∀ s', s.SameEffects s' → ∃ a s'', x s' = (.ok a, s'') ∧ P a ∧ s.SameEffects s''

/-- A function is called with each of several items in turn and returns these keys. -/
inductive CallsInTurn (call : Value → List Value → EvalM Value) (f : Value) :
    RunState → List Value → List Value → RunState → Prop
  | nil {s : RunState} : CallsInTurn call f s [] [] s
  | cons {s s' s'' : RunState} {x key : Value} {items keys : List Value} :
    call f [x] s = (.ok key, s') → CallsInTurn call f s' items keys s'' →
      CallsInTurn call f s (x :: items) (key :: keys) s''

namespace Action

variable {α β : Type} (call : Value → List Value → EvalM Value)

/-- The calls that an action makes, in order. It makes none after one that fails. -/
def calls : Action α → RunState → List (Value × List Value)
  | .done _, _ => []
  | .fail _, _ => []
  | .call f args next, s =>
    (f, args) ::
      match call f args s with
      | (.ok v, s) => (next v).calls s
      | (.error _, _) => []

theorem run_bind (x : Action α) (f : α → Action β) :
    (x >>= f).run call = x.run call >>= fun a => (f a).run call := by
  funext s
  induction x generalizing s with
  | done a => rfl
  | fail e => rfl
  | call g args next ih =>
    have hbind : Action.call g args next >>= f = .call g args fun v => next v >>= f := rfl
    rw [hbind, run_call, run_call, EvalM.bind_apply, EvalM.bind_apply, EvalM.bind_apply]
    rcases call g args s with ⟨e | v, s'⟩
    · rfl
    · exact ih v s'

theorem run_bind_ok {x : Action α} {f : α → Action β} {s s' : RunState} {a : α}
    (h : x.run call s = (.ok a, s')) : (x >>= f).run call s = (f a).run call s' := by
  rw [run_bind, EvalM.bind_apply, h]

/-- The calls of two actions in sequence, if the first one succeeds. -/
theorem calls_bind_ok {x : Action α} {f : α → Action β} {s s' : RunState} {a : α}
    (h : x.run call s = (.ok a, s')) :
    (x >>= f).calls call s = x.calls call s ++ (f a).calls call s' := by
  induction x generalizing s with
  | done b =>
    obtain ⟨hb, rfl⟩ := Prod.mk.inj h
    obtain rfl := Except.ok.inj hb
    rfl
  | fail e => cases (Prod.mk.inj h).1
  | call g args next ih =>
    have hbind : Action.call g args next >>= f = .call g args fun v => next v >>= f := rfl
    rw [run_call, EvalM.bind_apply] at h
    rw [hbind, calls, calls]
    cases hg : call g args s with
    | mk r t =>
      rw [hg] at h
      cases r with
      | error e => cases (Prod.mk.inj h).1
      | ok v => exact congrArg _ (ih v h)

/-- The calls of two actions in sequence, if the first one fails. -/
theorem calls_bind_error {x : Action α} {f : α → Action β} {s s' : RunState} {e : Signal}
    (h : x.run call s = (.error e, s')) : (x >>= f).calls call s = x.calls call s := by
  induction x generalizing s with
  | done b => cases (Prod.mk.inj h).1
  | fail e => rfl
  | call g args next ih =>
    have hbind : Action.call g args next >>= f = .call g args fun v => next v >>= f := rfl
    rw [run_call, EvalM.bind_apply] at h
    rw [hbind, calls, calls]
    cases hg : call g args s with
    | mk r t =>
      rw [hg] at h
      cases r with
      | error e => rfl
      | ok v => exact congrArg _ (ih v h)

theorem calls_bind_done (x : Action α) (f : α → β) (s : RunState) :
    (x >>= fun a => .done (f a)).calls call s = x.calls call s := by
  rcases hrun : x.run call s with ⟨e | a, s'⟩
  · exact calls_bind_error call hrun
  · exact (calls_bind_ok call hrun).trans (List.append_nil _)

/-- The results of a function on several items are its keys, and it is called once for each item. -/
theorem results_of_callsInTurn {call : Value → List Value → EvalM Value} {f : Value} {s s' : RunState}
    {items keys : List Value} (h : CallsInTurn call f s items keys s') :
    (results f items).run call s = (.ok keys, s') ∧
      (results f items).calls call s = items.map fun x => (f, [x]) := by
  -- the keys are collected in reverse
  have hcollect : ∀ done : List Value,
      (collect f done (items.map ([·]))).run call s = (.ok (done.reverse ++ keys), s') ∧
        (collect f done (items.map ([·]))).calls call s = items.map fun x => (f, [x]) := by
    induction h with
    | nil => exact fun done => ⟨by rw [List.append_nil]; rfl, rfl⟩
    | cons hx _ ih =>
      intro done
      obtain ⟨hrun, hcalls⟩ := ih (_ :: done)
      rw [List.map_cons, collect, run_call, EvalM.bind_apply, calls, hx]
      refine ⟨?_, congrArg _ hcalls⟩
      rw [List.reverse_cons, List.append_assoc] at hrun
      exact hrun
  exact hcollect []

end Action

/-! ## Comparators -/

/-- The order that the sign of a number stands for. -/
def Number.sign (n : Number) : Ordering :=
  (n.numCompare? (.int 0)).getD .eq

/-- What it takes for a comparator to put keys in the order `o`. The natural order is one of keys without NaN
that has the sign bit set. A comparator that is called has no effects and always returns a number, or never. -/
inductive Orders (call : Value → List Value → EvalM Value) (s : RunState) (name : String)
    (keys : List Value) : Option Value → (Value → Value → Ordering) → Prop
  | natural : keys.Pairwise (Value.Comparable name) → (∀ k ∈ keys, k.Regular) →
    Orders call s name keys none (Value.naturalOrder name)
  | ascending : keys.Pairwise (Value.Comparable name) → (∀ k ∈ keys, k.Regular) →
    Orders call s name keys (some (.keyword "asc")) (Value.naturalOrder name)
  | descending : keys.Pairwise (Value.Comparable name) → (∀ k ∈ keys, k.Regular) →
    Orders call s name keys (some (.keyword "desc")) fun a b => Value.naturalOrder name b a
  | numbers {g : Value} {o : Value → Value → Ordering} : (∀ k, g ≠ .keyword k) →
    (∀ a ∈ keys, ∀ b ∈ keys, (call g [a, b]).PureFrom s fun r => ∃ n, r = .number n ∧ n.sign = o a b) →
      PreorderOn o (· ∈ keys) → Orders call s name keys (some g) o
  | truth {g : Value} {before : Value → Value → Bool} : (∀ k, g ≠ .keyword k) →
    (∀ a ∈ keys, ∀ b ∈ keys, (call g [a, b]).PureFrom s fun r =>
      (∀ n, r ≠ .number n) ∧ r.truthy = before a b) →
      StrictWeakOrderOn before (· ∈ keys) → Orders call s name keys (some g) (orderBefore before)

/-- An action comes to a result without effects on definitions and tools. -/
def Action.Yields {α : Type} (call : Value → List Value → EvalM Value) (s : RunState) (P : α → Prop)
    (x : Id α) (y : Action α) : Prop :=
  P x.run ∧ (y.run call).PureFrom s (· = x.run)

theorem yields_relation (call : Value → List Value → EvalM Value) (s : RunState) :
    Sorting.Relation (m := Id) (n := Action) (Action.Yields call s) where
  pure hb := ⟨hb, fun s' hs => ⟨_, s', rfl, rfl, hs⟩⟩
  bind hx hf := by
    obtain ⟨hb, hx⟩ := hx
    obtain ⟨hc, hf⟩ := hf _ hb
    refine ⟨hc, fun s' hs => ?_⟩
    obtain ⟨_, s₁, hrun, rfl, hs₁⟩ := hx s' hs
    obtain ⟨c, s₂, hrun', hc', hs₂⟩ := hf s₁ hs₁
    refine ⟨c, s₂, ?_, hc', hs₂⟩
    exact (Action.run_bind_ok call hrun).trans hrun'
  mono hx hPQ := ⟨hPQ _ hx.1, hx.2⟩

namespace Orders

variable {call : Value → List Value → EvalM Value} {s : RunState} {name : String} {keys : List Value}
  {comparator : Option Value} {o : Value → Value → Ordering}

/-- The order of keys is a total preorder. -/
theorem preorderOn (h : Orders call s name keys comparator o) : PreorderOn o (· ∈ keys) := by
  cases h with
  | natural hkeys hregular => exact Value.naturalOrder_preorderOn hkeys hregular
  | ascending hkeys hregular => exact Value.naturalOrder_preorderOn hkeys hregular
  | descending hkeys hregular => exact (Value.naturalOrder_preorderOn hkeys hregular).flip
  | numbers _ _ ho => exact ho
  | truth _ _ hbefore => exact hbefore.preorderOn

theorem compareBy_of_not_keyword {g : Value} (hg : ∀ k, g ≠ .keyword k) (a b : Value) :
    Sequence.compareBy name (some g) a b = Sequence.compareByCall g a b := by
  cases g with
  | keyword k => exact absurd rfl (hg k)
  | _ => rfl

/-- A comparator that returns numbers gives the order of their signs. -/
theorem compareByCall_of_numbers {g a b : Value}
    (hab : (call g [a, b]).PureFrom s fun r => ∃ n, r = .number n ∧ n.sign = o a b) :
    ((Sequence.compareByCall g a b).run call).PureFrom s (· = o a b) := by
  intro s' hs
  obtain ⟨_, s₁, hcall, ⟨n, rfl, hsign⟩, hs₁⟩ := hab s' hs
  refine ⟨n.sign, s₁, ?_, hsign, hs₁⟩
  rw [Sequence.compareByCall, Action.run_call, EvalM.bind_apply, hcall]
  rfl

/-- A comparator that returns truth values is asked about the keys the other way round if it does not put
the first key first. -/
theorem compareByCall_of_truth {g a b : Value} {before : Value → Value → Bool}
    (hab : (call g [a, b]).PureFrom s fun r => (∀ n, r ≠ .number n) ∧ r.truthy = before a b)
    (hba : (call g [b, a]).PureFrom s fun r => (∀ n, r ≠ .number n) ∧ r.truthy = before b a) :
    ((Sequence.compareByCall g a b).run call).PureFrom s (· = orderBefore before a b) := by
  intro s' hs
  obtain ⟨r, s₁, hcall, ⟨hr, hbefore⟩, hs₁⟩ := hab s' hs
  have hrun : (Sequence.compareByCall g a b).run call s' =
      ((if r.truthy then .done .lt
        else .call g [b, a] fun r => .done (if r.truthy then .gt else .eq) : Action Ordering).run call) s₁ := by
    rw [Sequence.compareByCall, Action.run_call, EvalM.bind_apply, hcall]
    cases r with
    | number n => exact absurd rfl (hr n)
    | _ => rfl
  rw [hrun, hbefore]
  by_cases hfirst : before a b = true
  · rw [if_pos hfirst]
    refine ⟨.lt, s₁, rfl, ?_, hs₁⟩
    rw [orderBefore, if_pos hfirst]
  · rw [if_neg hfirst]
    obtain ⟨r', s₂, hcall', ⟨-, hbefore'⟩, hs₂⟩ := hba s₁ hs₁
    refine ⟨if before b a then .gt else .eq, s₂, ?_, ?_, hs₂⟩
    · rw [← hbefore', Action.run_call, EvalM.bind_apply, hcall']
      rfl
    · rw [orderBefore, if_neg hfirst]

/-- Comparing two keys comes to their order, without effects. -/
theorem compareBy_yields (h : Orders call s name keys comparator o) :
    keys.Pairwise fun l r =>
      Action.Yields call s (fun _ => True) (pure (o r l)) (Sequence.compareBy name comparator r l) := by
  -- an order that is defined for two keys needs no call
  have hnatural {a b : Value} (hab : Value.Comparable name a b) :
      Action.Yields call s (fun _ => True) (pure (Value.naturalOrder name a b))
        (Action.ofChecked (a.naturalCompare name b)) := by
    rw [Value.naturalOrder_of_comparable hab]
    exact ⟨trivial, fun s' hs => ⟨_, s', rfl, rfl, hs⟩⟩
  cases h with
  | natural hkeys _ => exact hkeys.imp fun hlr => hnatural hlr.symm
  | ascending hkeys _ => exact hkeys.imp fun hlr => hnatural hlr.symm
  | descending hkeys _ => exact hkeys.imp fun hlr => hnatural hlr
  | numbers hg hcalls _ =>
    refine List.pairwise_of_forall_mem_list fun l hl r hr => ⟨trivial, ?_⟩
    rw [compareBy_of_not_keyword hg]
    exact compareByCall_of_numbers (hcalls r hr l hl)
  | truth hg hcalls _ =>
    refine List.pairwise_of_forall_mem_list fun l hl r hr => ⟨trivial, ?_⟩
    rw [compareBy_of_not_keyword hg]
    exact compareByCall_of_truth (hcalls r hr l hl) (hcalls l hl r hr)

/-- Sorting with a comparator gives the stable sort in its order, without effects. -/
theorem mergeSort_yields {α : Type} (key : α → Value) {items : List α}
    (h : Orders call s name (items.map key) comparator o) :
    ∃ out, IsStableSort (fun a b => o (key a) (key b)) items out ∧
      ((Sorting.mergeSort (fun a b => Sequence.compareBy name comparator (key a) (key b)) items).run
        call).PureFrom s (· = out) := by
  have hpre : PreorderOn (fun a b => o (key a) (key b)) (· ∈ items) :=
    h.preorderOn.comap key fun _ hx => List.mem_map_of_mem hx
  have hsort : Action.Yields call s (fun out => out.Perm items)
      (Sorting.mergeSort (fun a b => pure (o (key a) (key b))) items)
      (Sorting.mergeSort (fun a b => Sequence.compareBy name comparator (key a) (key b)) items) :=
    Sorting.mergeSort_related (yields_relation call s) (List.pairwise_map.1 h.compareBy_yields)
  exact ⟨_, Sorting.inOrder_isStableSort hpre, hsort.2⟩

end Orders

/-! ## The calls of a sort -/

/-- A call of the comparator with two keys. -/
def IsComparison (comparator : Option Value) (keys : List Value) (c : Value × List Value) : Prop :=
  ∃ g a b, comparator = some g ∧ a ∈ keys ∧ b ∈ keys ∧ c = (g, [a, b])

/-- An action makes no other calls than comparisons, and returns what satisfies `P`. -/
def Action.OnlyCompares {α : Type} (call : Value → List Value → EvalM Value) (comparator : Option Value)
    (keys : List Value) (P : α → Prop) (_ : Id α) (y : Action α) : Prop :=
  ∀ s, (∀ c ∈ y.calls call s, IsComparison comparator keys c) ∧ ∀ a s', y.run call s = (.ok a, s') → P a

theorem onlyCompares_relation (call : Value → List Value → EvalM Value) (comparator : Option Value)
    (keys : List Value) :
    Sorting.Relation (m := Id) (n := Action) (Action.OnlyCompares call comparator keys) where
  pure hb s := by
    refine ⟨List.forall_mem_nil _, fun a s' hrun => ?_⟩
    obtain rfl := Except.ok.inj (Prod.mk.inj hrun).1
    exact hb
  bind {_ _ _ _ x y f g} hx hf s := by
    obtain ⟨hcalls, hresult⟩ := hx s
    rcases hrun : y.run call s with ⟨e | b, s₁⟩
    · rw [Action.calls_bind_error call hrun, Action.run_bind, EvalM.bind_apply, hrun]
      exact ⟨hcalls, fun _ _ h => by cases (Prod.mk.inj h).1⟩
    · obtain ⟨hcalls', hresult'⟩ := hf b (hresult b s₁ hrun) s₁
      rw [Action.calls_bind_ok call hrun, Action.run_bind_ok call hrun]
      exact ⟨List.forall_mem_append.2 ⟨hcalls, hcalls'⟩, hresult'⟩
  mono hx hPQ s := ⟨(hx s).1, fun a s' hrun => hPQ a ((hx s).2 a s' hrun)⟩

/-- Comparing two keys makes no other calls than comparisons of these keys. -/
theorem compareBy_onlyCompares (call : Value → List Value → EvalM Value) (name : String)
    {comparator : Option Value} {keys : List Value} {a b : Value} (ha : a ∈ keys) (hb : b ∈ keys)
    (x : Id Ordering) :
    Action.OnlyCompares call comparator keys (fun _ => True) x (Sequence.compareBy name comparator a b) := by
  intro s
  refine ⟨?_, fun _ _ _ => trivial⟩
  have hchecked (r : Checked Ordering) : (Action.ofChecked r).calls call s = [] := by cases r <;> rfl
  have hcalled (g : Value) :
      ∀ c ∈ (Sequence.compareByCall g a b).calls call s, IsComparison (some g) keys c := by
    rw [Sequence.compareByCall, Action.calls]
    refine List.forall_mem_cons.2 ⟨⟨g, a, b, rfl, ha, hb, rfl⟩, ?_⟩
    rcases call g [a, b] s with ⟨e | r, s₁⟩
    · exact List.forall_mem_nil _
    · have hnone (o : Ordering) : ∀ c ∈ (Action.done o).calls call s₁, IsComparison (some g) keys c :=
        List.forall_mem_nil _
      -- a comparator that returns no number is asked again, the other way round
      have hasked : ∀ c ∈ (if r.truthy then .done .lt
          else .call g [b, a] fun r => .done (if r.truthy then .gt else .eq) : Action Ordering).calls call s₁,
          IsComparison (some g) keys c := by
        split
        · exact hnone .lt
        · rw [Action.calls]
          refine List.forall_mem_cons.2 ⟨⟨g, b, a, rfl, hb, ha, rfl⟩, ?_⟩
          rcases call g [b, a] s₁ with ⟨e | r', s₂⟩
          · exact List.forall_mem_nil _
          · exact List.forall_mem_nil _
      cases r with
      | number n => exact hnone _
      | _ => exact hasked
  unfold Sequence.compareBy
  split
  · rw [hchecked]
    exact List.forall_mem_nil _
  · rw [hchecked]
    exact List.forall_mem_nil _
  · rw [hchecked]
    exact List.forall_mem_nil _
  · exact List.forall_mem_nil _
  · exact hcalled _

/-- A sort makes no other calls than comparisons of its keys. -/
theorem mergeSort_onlyCompares {α : Type} (call : Value → List Value → EvalM Value) (name : String)
    (comparator : Option Value) (key : α → Value) (items : List α) (s : RunState) :
    ∀ c ∈ (Sorting.mergeSort (fun a b => Sequence.compareBy name comparator (key a) (key b)) items).calls
      call s, IsComparison comparator (items.map key) c := by
  have hsort : Action.OnlyCompares call comparator (items.map key) (fun out => out.Perm items)
      (Sorting.mergeSort (fun _ _ => pure .eq) items)
      (Sorting.mergeSort (fun a b => Sequence.compareBy name comparator (key a) (key b)) items) :=
    Sorting.mergeSort_related (onlyCompares_relation call comparator _) <|
      List.pairwise_of_forall_mem_list fun _ hl _ hr =>
        compareBy_onlyCompares call name (List.mem_map_of_mem hr) (List.mem_map_of_mem hl) _
  exact (hsort s).1

/-! ## Sorting collections -/

theorem sorted_eq {comparator : Option Value} {coll : Value} {items : List Value}
    (h : coll.items "sort" = .ok items) :
    (Builtin.sequence .sort).act (comparator.toList ++ [coll]) =
      Sorting.mergeSort (Sequence.compareBy "sort" comparator) items >>= fun out => .done (.vector out) := by
  have hact : (Builtin.sequence .sort).act (comparator.toList ++ [coll]) =
      Sequence.sorted comparator coll := by
    cases comparator <;> rfl
  rw [hact, Sequence.sorted, h]
  rfl

theorem sortedBy_eq {comparator : Option Value} {f coll : Value} {items : List Value}
    (hf : f.callable = true) (h : coll.items "sort-by" = .ok items) :
    (Builtin.sequence .sortBy).act (f :: comparator.toList ++ [coll]) =
      Action.results f items >>= fun keys =>
        Sorting.mergeSort (fun a b => Sequence.compareBy "sort-by" comparator a.1 b.1) (keys.zip items) >>=
          fun pairs => .done (.vector (pairs.map (·.2))) := by
  have hact : (Builtin.sequence .sortBy).act (f :: comparator.toList ++ [coll]) =
      Sequence.sortedBy comparator f coll := by
    cases comparator <;> rfl
  have hcallable : f.asCallable "sort-by" = .ok f := if_pos hf
  rw [hact, Sequence.sortedBy, hcallable, h]
  rfl

theorem callAt_builtin (h : Host) (n : Nat) (f : Builtin) (args : List Value) :
    callAt h (n + 1) (.builtin f) args = (f.act args).run (callAt h n) :=
  rfl

theorem CallsInTurn.length_eq {call : Value → List Value → EvalM Value} {f : Value} {s s' : RunState}
    {items keys : List Value} (h : CallsInTurn call f s items keys s') : keys.length = items.length := by
  induction h with
  | nil => rfl
  | cons _ _ ih => rw [List.length_cons, List.length_cons, ih]

/-- A function without effects is called with each of several items in turn. -/
theorem CallsInTurn.of_pureFrom {call : Value → List Value → EvalM Value} {f : Value} {s : RunState}
    {key : Value → Value} {items : List Value} (h : ∀ x ∈ items, (call f [x]).PureFrom s (· = key x)) :
    ∃ s', CallsInTurn call f s items (items.map key) s' ∧ s.SameEffects s' := by
  -- the state between two calls differs from the first one, but not in effects
  suffices hfrom : ∀ s₀, s.SameEffects s₀ →
      ∃ s', CallsInTurn call f s₀ items (items.map key) s' ∧ s.SameEffects s' from hfrom s (.refl s)
  induction items with
  | nil => exact fun s₀ hs₀ => ⟨s₀, .nil, hs₀⟩
  | cons x items ih =>
    intro s₀ hs₀
    obtain ⟨hx, hitems⟩ := List.forall_mem_cons.1 h
    obtain ⟨_, s₁, hcall, rfl, hs₁⟩ := hx s₀ hs₀
    obtain ⟨s', hturn, hs'⟩ := ih hitems s₁ hs₁
    exact ⟨s', .cons hcall hturn, hs'⟩

theorem CallsInTurn.unique {call : Value → List Value → EvalM Value} {f : Value} {s s' s'' : RunState}
    {items keys keys' : List Value} (h : CallsInTurn call f s items keys s')
    (h' : CallsInTurn call f s items keys' s'') : keys = keys' ∧ s' = s'' := by
  induction h generalizing keys' with
  | nil =>
    cases h'
    exact ⟨rfl, rfl⟩
  | cons hx _ ih =>
    cases h' with
    | cons hx' hrest =>
      obtain ⟨hkey, rfl⟩ := Prod.mk.inj (hx.symm.trans hx')
      obtain ⟨rfl, rfl⟩ := ih hrest
      exact ⟨by rw [Except.ok.inj hkey], rfl⟩

/-- The items of a collection do not depend on the function that asks for them. -/
theorem Value.items_of_items {name : String} {v : Value} {items : List Value} (h : v.items name = .ok items)
    (name' : String) : v.items name' = .ok items := by
  cases v with
  | nil | vector _ | map _ | string _ => exact h
  | _ => cases h

/-- `sort` and `sort-by` sort with every comparator that puts the keys in an order, when so many calls may
still be nested that the key function and the comparator return. The result is the vector of the items in
that order, with items of equal keys as they stood before, and the comparator leaves no effects behind.

`sort-by` calls the key function once with each item, in the order of the items, and then only compares
keys. -/
theorem sort_and_sortBy_are_stable (h : Host) (n : Nat) (s : RunState) (coll : Value) (items : List Value)
    (comparator : Option Value) (o : Value → Value → Ordering) :
    (coll.items "sort" = .ok items → Orders (callAt h n) s "sort" items comparator o →
      ∃ out s', callAt h (n + 1) (.builtin (.sequence .sort)) (comparator.toList ++ [coll]) s =
          (.ok (.vector out), s') ∧
        IsStableSort o items out ∧ s.SameEffects s') ∧
    ∀ f keys s₁, f.callable = true → coll.items "sort-by" = .ok items →
      CallsInTurn (callAt h n) f s items keys s₁ →
        (∃ comparisons, ((Builtin.sequence .sortBy).act (f :: comparator.toList ++ [coll])).calls
              (callAt h n) s = items.map (fun x => (f, [x])) ++ comparisons ∧
            ∀ c ∈ comparisons, IsComparison comparator keys c) ∧
        (Orders (callAt h n) s₁ "sort-by" keys comparator o →
          ∃ pairs s', callAt h (n + 1) (.builtin (.sequence .sortBy)) (f :: comparator.toList ++ [coll]) s =
              (.ok (.vector (pairs.map (·.2))), s') ∧
            IsStableSort (fun p q => o p.1 q.1) (keys.zip items) pairs ∧ s₁.SameEffects s') := by
  constructor
  · intro hitems horders
    rw [← List.map_id items] at horders
    obtain ⟨out, hsort, hpure⟩ := horders.mergeSort_yields id
    obtain ⟨_, s', hrun, rfl, hs'⟩ := hpure s (.refl s)
    refine ⟨_, s', ?_, hsort, hs'⟩
    rw [callAt_builtin, sorted_eq hitems]
    exact Action.run_bind_ok _ hrun
  · intro f keys s₁ hf hitems hkeys
    -- all keys are there before the first comparison, so the sort starts from `s₁`
    obtain ⟨hresults, hcalls⟩ := Action.results_of_callsInTurn hkeys
    have hfst : (keys.zip items).map Prod.fst = keys := List.map_fst_zip (Nat.le_of_eq hkeys.length_eq)
    rw [callAt_builtin, sortedBy_eq hf hitems]
    constructor
    · have hcompares := mergeSort_onlyCompares (callAt h n) "sort-by" comparator Prod.fst (keys.zip items) s₁
      rw [hfst] at hcompares
      rw [Action.calls_bind_ok _ hresults, hcalls, Action.calls_bind_done]
      exact ⟨_, rfl, hcompares⟩
    · intro horders
      rw [← hfst] at horders
      obtain ⟨pairs, hsort, hpure⟩ := horders.mergeSort_yields Prod.fst
      obtain ⟨_, s', hrun, rfl, hs'⟩ := hpure s₁ (.refl s₁)
      refine ⟨_, s', ?_, hsort, hs'⟩
      rw [Action.run_bind_ok _ hresults]
      exact Action.run_bind_ok _ hrun

/-- A row with a key `k`, and its place. -/
def Value.rowAt (k i : Nat) : Value :=
  .map [(.keyword "i", .ofNat i), (.keyword "k", .ofNat k)]

/-- Numbers are sorted by their differences, and rows by their keys, from the greatest to the least. Rows with
the same key stay in their order. -/
theorem sort_by_difference_and_by_key :
    ∃ (h : Host) (s s₁ s₂ : RunState),
      callAt h 2 (.builtin (.sequence .sort))
          [.builtin (.number .sub), .vector [.ofNat 3, .ofNat 1, .ofNat 2]] s =
        (.ok (.vector [.ofNat 1, .ofNat 2, .ofNat 3]), s₁) ∧
      callAt h 2 (.builtin (.sequence .sortBy))
          [.keyword "k", .keyword "desc", .vector [.rowAt 1 0, .rowAt 2 1, .rowAt 1 2, .rowAt 2 3]] s =
        (.ok (.vector [.rowAt 2 1, .rowAt 2 3, .rowAt 1 0, .rowAt 1 2]), s₂) := by
  let h : Host := .bare
  let s : RunState := .fresh
  have hnumbers : Orders (callAt h 1) s "sort" [.ofNat 3, .ofNat 1, .ofNat 2]
      (some (.builtin (.number .sub))) Value.compare := by
    refine .numbers (fun _ => by simp) (fun a ha b hb => ?_)
      (Value.regular_preorderOn.comap id (by simp))
    simp only [List.mem_cons, List.not_mem_nil, or_false] at ha hb
    rcases ha with rfl | rfl | rfl <;> rcases hb with rfl | rfl | rfl <;>
      exact fun s' hs => ⟨_, s', rfl, ⟨_, rfl, by decide +kernel⟩, hs⟩
  have hdescending : Orders (callAt h 1) s "sort-by" [.ofNat 1, .ofNat 2, .ofNat 1, .ofNat 2]
      (some (.keyword "desc")) _ := .descending (by decide +kernel) (by simp)
  have hkeys : CallsInTurn (callAt h 1) (.keyword "k") s
      [.rowAt 1 0, .rowAt 2 1, .rowAt 1 2, .rowAt 2 3] [.ofNat 1, .ofNat 2, .ofNat 1, .ofNat 2] s :=
    .cons rfl (.cons rfl (.cons rfl (.cons rfl .nil)))
  obtain ⟨out, s₁, hrun, hsort, -⟩ := (sort_and_sortBy_are_stable h 1 s
    (.vector [.ofNat 3, .ofNat 1, .ofNat 2]) _ _ _).1 rfl hnumbers
  obtain ⟨pairs, s₂, hrunBy, hsortBy, -⟩ := ((sort_and_sortBy_are_stable h 1 s
    (.vector [.rowAt 1 0, .rowAt 2 1, .rowAt 1 2, .rowAt 2 3]) _ _ _).2 _ _ _ rfl rfl hkeys).2 hdescending
  -- there is only one stable sort, and it can be computed
  have hout := hsort.unique hnumbers.preorderOn (Sorting.inOrder_isStableSort hnumbers.preorderOn)
  have hpre : PreorderOn (fun p q : Value × Value => Value.naturalOrder "sort-by" q.1 p.1)
      (· ∈ [Value.ofNat 1, .ofNat 2, .ofNat 1, .ofNat 2].zip
        [.rowAt 1 0, .rowAt 2 1, .rowAt 1 2, .rowAt 2 3]) :=
    hdescending.preorderOn.comap Prod.fst fun _ hp => (List.of_mem_zip hp).1
  have hpairs := hsortBy.unique hpre (Sorting.inOrder_isStableSort hpre)
  have hrows : (Sorting.inOrder (fun p q : Value × Value => Value.naturalOrder "sort-by" q.1 p.1)
      ([.ofNat 1, .ofNat 2, .ofNat 1, .ofNat 2].zip
        [.rowAt 1 0, .rowAt 2 1, .rowAt 1 2, .rowAt 2 3])).map (·.2) =
          [.rowAt 2 1, .rowAt 2 3, .rowAt 1 0, .rowAt 1 2] := by rfl
  rw [hpairs, hrows] at hrunBy
  exact ⟨h, s, s₁, s₂, hrun.trans (by rw [hout]; rfl), hrunBy⟩

end ToolLisp
