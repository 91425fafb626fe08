import ToolLisp.Builtin.Table
import ToolLisp.Proofs.AlikeActions

/-!
# Builtin functions on values that are alike

Builtin functions make no functions, and they do not look at the bindings that functions carry. So on arguments
that are alike they do the same: what they call, what they pass to calls and what they return is alike. This is
proved for each family of builtin functions, and then for all of them.

Arguments that are alike have a stable property, so this says in particular that a builtin function passes on only
values with the property, if it is given such values.
-/

namespace ToolLisp

variable {σ : List Pattern → Expr → Env → Env} {V : Value → Prop} [Value.Stable V]

open Value
open List (Forall₂)
open Action (Rel)

/-! ## Numbers -/

namespace NumberFn

/-- A number or an arithmetic error carries no bindings. -/
theorem checked_alike (result : Except ArithmeticError Number) :
    Checked.Alike σ V (checked result) (checked result) := by
  cases result with
  | ok n => exact .ok (.number n)
  | error e => exact .error ⟨rfl, (fun h => by cases h), rfl⟩

section

variable {v v' w w' : Value} (hv : Alike σ V v v') (hw : Alike σ V w w')
include hv

/-- Both sides compute with the same number, or both refuse what is not a number. -/
theorem unary_alike (name : String) (f : Number → Except ArithmeticError Number) :
    Checked.Alike σ V (unary name f v) (unary name f v') :=
  (asNumber_alike name hv).bindSame fun n => checked_alike (f n)

include hw

theorem binary_alike (name : String) (f : Number → Number → Except ArithmeticError Number) :
    Checked.Alike σ V (binary name f v w) (binary name f v' w') :=
  (asNumber_alike name hv).bindSame fun a => (asNumber_alike name hw).bindSame fun b => checked_alike (f a b)

/-- The smaller or greater of two numbers is one of the arguments, so it is alike on both sides. -/
theorem pick_alike (name : String) (wanted : Ordering) :
    Checked.Alike σ V (pick name wanted v w) (pick name wanted v' w') := by
  refine (asNumber_alike name hv).bindSame fun a => (asNumber_alike name hw).bindSame fun b => ?_
  split
  · exact .ok (.number _)
  · cases a.numCompare? b with
    | none => exact .ok hw
    | some o =>
      refine .ok ?_
      split
      · exact hv
      · exact hw

theorem order_alike (name : String) : Checked.Rel σ Eq (order name v w) (order name v' w') := by
  cases hv.matching with
  | nil => exact .ok rfl
  | number a =>
    cases hw.matching with
    | nil | number => exact .ok rfl
    | string => exact incomparable_alike name hv hw
    | _ => exact unexpected_alike name hw _
  | string s =>
    cases hw.matching with
    | nil | string => exact .ok rfl
    | number => exact incomparable_alike name hv hw
    | _ => exact unexpected_alike name hw _
  | _ =>
    cases hw.matching with
    | nil => exact .ok rfl
    | _ => exact unexpected_alike name hv _

end

variable {rest rest' : List Value} (hr : Forall₂ (Alike σ V) rest rest')
include hr

/-- What has been added up so far is a number, and numbers are the same on both sides. -/
theorem fold_alike (identity : Int64) {lone : Value → Checked Value} {f : Value → Value → Checked Value}
    (hl : ∀ v v', Alike σ V v v' → Checked.Alike σ V (lone v) (lone v'))
    (hf : ∀ v v' w w', Alike σ V v v' → Alike σ V w w' → Checked.Alike σ V (f v w) (f v' w')) :
    Checked.Alike σ V (fold identity lone f rest) (fold identity lone f rest') := by
  cases hr with
  | nil => exact .ok (.number _)
  | cons hv hr =>
    cases hr with
    | nil => exact hl _ _ hv
    | cons hw hr => exact .foldlM hf (.cons hw hr) hv

theorem quotient_alike {v v' : Value} (hv : Alike σ V v v') :
    Checked.Alike σ V (quotient v rest) (quotient v' rest') := by
  refine (asNumber_alike "/" hv).bindSame fun a => ?_
  refine (Checked.Rel.mapMSame (fun _ _ h => asNumber_alike "/" h) hr).bindSame fun ns => ?_
  cases ns <;> exact .ok (.number _)

theorem extreme_alike (name : String) (wanted : Ordering) {v v' : Value} (hv : Alike σ V v v') :
    Checked.Alike σ V (extreme name wanted v rest) (extreme name wanted v' rest') := by
  have hpick (b b' w w' : Value) (hb : Alike σ V b b') (hw : Alike σ V w w') :=
    pick_alike hb hw name wanted
  exact .foldlM hpick (.cons hv hr) hv

/-- Each comparison is of an argument with the next one. By induction on the arguments that are left. -/
theorem ascends_alike (name : String) (test : Ordering → Bool) : ∀ {v v' : Value}, Alike σ V v v' →
    Checked.Rel σ Eq (ascends name test v rest) (ascends name test v' rest') := by
  induction hr with
  | nil => exact fun _ => .ok rfl
  | cons hw _ ih =>
    refine fun hv => (order_alike hv hw name).bindSame fun o => ?_
    cases o with
    | none => exact .ok rfl
    | some o =>
      dsimp only
      split
      · exact ih hw
      · exact .ok rfl

theorem compared_alike (name : String) (test : Ordering → Bool) {v v' : Value} (hv : Alike σ V v v') :
    Checked.Alike σ V (compared name test v rest) (compared name test v' rest') := by
  cases hr with
  | nil => exact (order_alike hv hv name).bindSame fun _ => .ok (.bool true)
  | cons hw hr => exact (ascends_alike (.cons hw hr) name test hv).bindSame fun b => .ok (.bool b)

omit [Stable V] in
/-- Equality does not look at the bindings of functions. -/
theorem allEqual_alike : ∀ {v v' : Value}, Alike σ V v v' → allEqual v rest = allEqual v' rest' := by
  induction hr with
  | nil => exact fun _ => rfl
  | cons hw _ ih => exact fun hv => by rw [allEqual, hv.equal hw, ih hw, allEqual]

omit hr

/-- All arithmetic, one case per function. -/
theorem signature_respects (f : NumberFn) : f.signature.Respects σ V := by
  cases f with
  | add | sub | mul =>
    exact fun _ _ ha => .liftM (fold_alike ha _ (fun _ _ hv => unary_alike hv _ _)
      fun _ _ _ _ hv hw => binary_alike hv hw _ _)
  | div => exact fun _ _ _ _ hv hr => .liftM (quotient_alike hr hv)
  | max | min => exact fun _ _ _ _ hv hr => .liftM (extreme_alike hr _ _ hv)
  | mod | rem | quot | pow => exact fun _ _ _ _ hv hw => .liftM (binary_alike hv hw _ _)
  | inc | dec | abs | sqrt | round | floor | ceil | double | int =>
    exact fun _ _ hv => .liftM (unary_alike hv _ _)
  | eq | ne => exact fun _ _ _ _ hv hr => .done (allEqual_alike hr hv ▸ .bool _)
  | lt | gt | le | ge => exact fun _ _ _ _ hv hr => .liftM (compared_alike hr _ _ hv)

end NumberFn

/-! ## Tests -/

namespace TestFn

/-- Whether a number is even does not depend on anything but the number. -/
theorem parity_alike (name : String) (even : Bool) {v w : Value} (h : Alike σ V v w) :
    Checked.Alike σ V (parity name even v) (parity name even w) := by
  cases h.matching with
  | number n =>
    cases n with
    | int n => exact .ok (.bool _)
    | float x => exact unexpected_alike name h _
  | _ => exact unexpected_alike name h _

theorem ofNumber_respects (name : String) (test : Number → Bool) : (ofNumber name test).Respects σ V :=
  fun _ _ h => (Rel.liftM (asNumber_alike name h)).bind fun n _ hn => hn ▸ .done (.bool (test n))

theorem ofValue_respects {test : Value → Bool} (ht : ∀ v w, Alike σ V v w → test v = test w) :
    (ofValue test).Respects σ V :=
  fun v w h => .done (ht v w h ▸ .bool (test v))

/-- All tests, one case per function. -/
theorem signature_respects (f : TestFn) : f.signature.Respects σ V := by
  cases f with
  | isEven | isOdd => exact fun _ _ h => .liftM (parity_alike _ _ h)
  | isZero | isPositive | isNegative | isNaN | isInfinite | isFinite => exact ofNumber_respects _ _
  | _ => exact ofValue_respects fun v w h => by cases h.matching <;> rfl

end TestFn

/-! ## Sequences -/

namespace Sequence

/-! ### Size and access -/

section

variable {v w : Value} (h : Alike σ V v w)
include h

/-- A collection is empty on both sides or on neither. -/
theorem nonEmpty_alike : Checked.Alike σ V (nonEmpty v) (nonEmpty w) := by
  refine (size_alike _ h).bindSame fun n => .ok ?_
  split
  · exact .nil
  · exact h

/-- The item at a place, if the place is found alike in items that are alike. -/
theorem itemAt_alike (name : String) {place : List Value → Option Value}
    (hp : ∀ xs ys, Forall₂ (Alike σ V) xs ys → Option.Rel (Alike σ V) (place xs) (place ys)) :
    Checked.Alike σ V (itemAt name place v) (itemAt name place w) :=
  (items_alike name h).bind fun xs ys hi => .ok (.getD (hp xs ys hi) .nil)

/-- A vector that is made from the items of a collection. -/
theorem onItems_alike (name : String) {f : List Value → List Value}
    (hf : ∀ xs ys, Forall₂ (Alike σ V) xs ys → Forall₂ (Alike σ V) (f xs) (f ys)) :
    Checked.Alike σ V (onItems name f v) (onItems name f w) :=
  (items_alike name h).bind fun xs ys hi => .ok (.ofItems (hf xs ys hi))

/-- Items after the first one, or `nil` if there are none. -/
theorem nextItems_alike : Checked.Alike σ V (nextItems v) (nextItems w) := by
  refine (items_alike _ h).bind fun xs ys hi => .ok ?_
  rw [hi.length_eq]
  split
  · exact .nil
  · exact .ofItems (List.forall₂_drop 1 hi)

/-- The place is a number and the same on both sides; past the end the defaults are alike. -/
theorem nthItem_alike {i i' : Value} (hi : Alike σ V i i') {d d' : Option Value}
    (hd : Option.Rel (Alike σ V) d d') : Checked.Alike σ V (nthItem v i d) (nthItem w i' d') := by
  refine (items_alike _ h).bind fun xs ys hx => (asInt_alike _ hi).bindSame fun i => ?_
  refine .ok (.getD ?_ (.getD hd .nil))
  split
  · exact rel_getElem? hx _
  · exact .none

/-- A part of the items, of a length that is the same number on both sides. -/
theorem cut_alike (name : String) {f : Nat → List Value → List Value} {n n' : Value} (hn : Alike σ V n n')
    (hf : ∀ n xs ys, Forall₂ (Alike σ V) xs ys → Forall₂ (Alike σ V) (f n xs) (f n ys)) :
    Checked.Alike σ V (cut name f n v) (cut name f n' w) :=
  (asIndex_alike name hn).bindSame fun n => (items_alike name h).bind fun xs ys hi =>
    .ok (.ofItems (hf n xs ys hi))

/-- Fields are looked up by keys that are alike, so in the same entry. -/
theorem fieldOfEach_alike {k k' : Value} (hk : Alike σ V k k') :
    Checked.Alike σ V (fieldOfEach k v) (fieldOfEach k' w) :=
  (items_alike _ h).bind fun _ _ hi =>
    .ok (.ofItems (List.rel_map (fun _ _ hx => .getD (hx.get? hk) .nil) hi))

end

omit [Stable V] in
/-- The number of items that are dropped is the same, because the items are as many on both sides. -/
theorem lastItems_alike (n : Nat) (xs ys : List Value) (h : Forall₂ (Alike σ V) xs ys) :
    Forall₂ (Alike σ V) (lastItems n xs) (lastItems n ys) := by
  rw [lastItems, h.length_eq]
  exact List.forall₂_drop _ h

omit [Stable V] in
theorem butLastItems_alike (n : Nat) (xs ys : List Value) (h : Forall₂ (Alike σ V) xs ys) :
    Forall₂ (Alike σ V) (butLastItems n xs) (butLastItems n ys) := by
  rw [butLastItems, h.length_eq]
  exact List.forall₂_take _ h

/-! ### Tests of items -/

/-- A function that is called on items: the items are found alike, and what remains is the loop over them. -/
theorem through_alike (name : String) {go : Value → List Value → Action Value}
    (hgo : ∀ f g xs ys, Alike σ V f g → Forall₂ (Alike σ V) xs ys → (go f xs).Alike σ V (go g ys)) :
    (Signature.two (through name go)).Respects σ V :=
  fun _ _ _ _ hf hv => (Rel.liftM (asCallable_alike name hf)).bind fun f g hf =>
    (Rel.liftM (items_alike name hv)).bind fun xs ys hi => hgo f g xs ys hf hi

section

variable {f g : Value} (hf : Alike σ V f g) {xs ys : List Value} (hi : Forall₂ (Alike σ V) xs ys)
include hf hi

/-- The loop goes on alike because the answers of the test are truthy on both sides or on neither. -/
theorem takeWhileFrom_alike : ∀ {done done' : List Value}, Forall₂ (Alike σ V) done done' →
    (takeWhileFrom f done xs).Alike σ V (takeWhileFrom g done' ys) := by
  induction hi with
  | nil => exact fun hd => .done (.ofItems (List.rel_reverse hd))
  | cons hx _ ih =>
    refine fun hd => .call hf (.cons hx .nil) fun r r' hr => ?_
    rw [hr.truthy]
    split
    · exact ih (.cons hx hd)
    · exact .done (.ofItems (List.rel_reverse hd))

theorem dropWhileFrom_alike : (dropWhileFrom f xs).Alike σ V (dropWhileFrom g ys) := by
  induction hi with
  | nil => exact .done (.ofItems .nil)
  | cons hx hrest ih =>
    refine .call hf (.cons hx .nil) fun r r' hr => ?_
    rw [hr.truthy]
    split
    · exact ih
    · exact .done (.ofItems (.cons hx hrest))

/-- What is selected so far is alike. By induction on the items that are left. -/
theorem selectFrom_alike (wanted : Bool) : ∀ {done done' : List Value}, Forall₂ (Alike σ V) done done' →
    (selectFrom wanted f done xs).Alike σ V (selectFrom wanted g done' ys) := by
  induction hi with
  | nil => exact fun hd => .done (.ofItems (List.rel_reverse hd))
  | cons hx _ ih =>
    refine fun hd => .call hf (.cons hx .nil) fun r r' hr => ih ?_
    rw [hr.truthy]
    split
    · exact .cons hx hd
    · exact hd

theorem findFrom_alike : (findFrom f xs).Alike σ V (findFrom g ys) := by
  induction hi with
  | nil => exact .done .nil
  | cons hx _ ih =>
    refine .call hf (.cons hx .nil) fun r r' hr => ?_
    rw [hr.truthy]
    split
    · exact .done hx
    · exact ih

/-- The first truthy answer is given as it is. -/
theorem someFrom_alike : (someFrom f xs).Alike σ V (someFrom g ys) := by
  induction hi with
  | nil => exact .done .nil
  | cons hx _ ih =>
    refine .call hf (.cons hx .nil) fun r r' hr => ?_
    rw [hr.truthy]
    split
    · exact .done hr
    · exact ih

/-- The loop stops at the first answer that decides, and it is the same on both sides. -/
theorem allFrom_alike (wanted : Bool) : (allFrom wanted f xs).Alike σ V (allFrom wanted g ys) := by
  induction hi with
  | nil => exact .done (.bool true)
  | cons hx _ ih =>
    refine .call hf (.cons hx .nil) fun r r' hr => ?_
    rw [hr.truthy]
    split
    · exact ih
    · exact .done (.bool false)

end

/-! ### Transformation of items -/

omit [Stable V] in
/-- The columns of rows that are alike: as many on both sides, because the shortest row decides. -/
theorem columns_alike {lists lists' : List (List Value)}
    (h : Forall₂ (Forall₂ (Alike σ V)) lists lists') :
    Forall₂ (Forall₂ (Alike σ V)) (columns lists) (columns lists') := by
  induction h with
  | nil => exact .nil
  | cons hi hrest ih =>
    cases hrest with
    | nil => exact List.rel_map (fun _ _ hx => .cons hx .nil) hi
    | cons => exact rel_zipWith (fun _ _ _ _ hx hxs => .cons hx hxs) hi ih

/-- A function is called on the items of several collections at once. -/
theorem mapItems_alike {f g v w : Value} {rest rest' : List Value} (hf : Alike σ V f g)
    (hv : Alike σ V v w) (hr : Forall₂ (Alike σ V) rest rest') :
    (mapItems f v rest).Alike σ V (mapItems g w rest') := by
  refine (Rel.liftM (asCallable_alike _ hf)).bind fun f g hf => ?_
  have hargs : Forall₂ (Alike σ V) (v :: rest) (w :: rest') := .cons hv hr
  refine (Rel.mapM (R := Alike σ V) (fun _ _ hv => .liftM (items_alike "map" hv)) hargs).bind fun _ _ hl => ?_
  exact (Action.collect_alike hf (columns_alike hl) .nil).bind fun _ _ hvs => .done (.ofItems hvs)

/-- The second argument of a call is a number, and the same on both sides. -/
theorem mapWithIndex_alike {f g : Value} {xs ys : List Value} (hf : Alike σ V f g)
    (hi : Forall₂ (Alike σ V) xs ys) : (mapWithIndex f xs).Alike σ V (mapWithIndex g ys) := by
  have hargs (n : Nat) : Forall₂ (Forall₂ (Alike σ V)) ((xs.zipIdx n).map fun e => [.ofNat e.2, e.1])
      ((ys.zipIdx n).map fun e => [.ofNat e.2, e.1]) := by
    induction hi generalizing n with
    | nil => exact .nil
    | cons hx _ ih => exact .cons (.cons (.number _) (.cons hx .nil)) (ih (n + 1))
  exact (Action.collect_alike hf (hargs 0) .nil).bind fun _ _ hvs => .done (.ofItems hvs)

theorem keepResults_alike {f g : Value} {xs ys : List Value} (hf : Alike σ V f g)
    (hi : Forall₂ (Alike σ V) xs ys) : (keepResults f xs).Alike σ V (keepResults g ys) := by
  refine (Action.results_alike hf hi).bind fun _ _ hvs => .done (.ofItems (List.rel_filter ?_ hvs))
  exact fun r r' hr => by simp only [hr.isNil]

omit [Stable V] in
/-- Whether an item is among those before it is decided by equality, which does not look at bindings. -/
theorem distinctFrom_alike {xs ys : List Value} (hi : Forall₂ (Alike σ V) xs ys) :
    ∀ {done done' : List Value}, Forall₂ (Alike σ V) done done' →
      Forall₂ (Alike σ V) (distinctFrom done xs) (distinctFrom done' ys) := by
  induction hi with
  | nil => exact fun hd => List.rel_reverse hd
  | @cons x y _ _ hx _ ih =>
    intro done done' hd
    have hany : done.any x.same = done'.any y.same := by
      clear ih
      induction hd with
      | nil => rfl
      | cons hz _ ih => rw [List.any_cons, hx.same hz, ih, List.any_cons]
    rw [distinctFrom, hany]
    refine ih ?_
    split
    · exact hd
    · exact .cons hx hd

/-- Vectors are opened at the same places. By induction on the loop itself, since opening a vector puts more
items in front of those that are left. -/
theorem flattenFrom_alike {done : List Value} {pending : List (List Value)} :
    ∀ {done' : List Value} {pending' : List (List Value)}, Forall₂ (Alike σ V) done done' →
      Forall₂ (Forall₂ (Alike σ V)) pending pending' →
      Forall₂ (Alike σ V) (flattenFrom done pending) (flattenFrom done' pending') := by
  fun_induction flattenFrom done pending with
  | case1 done =>
    rintro done' - hd ⟨⟩
    simpa only [flattenFrom] using List.rel_reverse hd
  | case2 done pending ih =>
    rintro done' - hd (_ | ⟨⟨⟩, hp⟩)
    simpa only [flattenFrom] using ih hd hp
  | case3 done inner items pending ih =>
    rintro done' - hd (_ | ⟨_ | ⟨hv, hi⟩, hp⟩)
    cases hv.matching with
    | vector hinner =>
      simpa only [flattenFrom] using ih hd (.cons (AllAlike.iff_forall₂.1 hinner) (.cons hi hp))
  | case4 done v items pending hv ih =>
    rintro done' - hd (_ | ⟨_ | ⟨hw, hi⟩, hp⟩)
    cases hw.matching with
    | vector => exact absurd rfl (hv _)
    | _ => simpa only [flattenFrom] using ih (.cons hw hd) (.cons hi hp)

theorem flattened_alike {v w : Value} (h : Alike σ V v w) : Alike σ V (flattened v) (flattened w) := by
  cases h.matching with
  | vector hi => exact .ofItems (flattenFrom_alike .nil (.cons (AllAlike.iff_forall₂.1 hi) .nil))
  | _ => exact .ofItems .nil

/-- Items of several collections, one after the other. -/
theorem concatenated_alike {args args' : List Value} (ha : Forall₂ (Alike σ V) args args') :
    Checked.Alike σ V (concatenated args) (concatenated args') :=
  (Checked.Rel.mapM (fun _ _ hv => items_alike "concat" hv) ha).bind fun _ _ hl =>
    .ok (.ofItems (List.rel_flatten hl))

theorem zipped_alike {v v' w w' : Value} (hv : Alike σ V v v') (hw : Alike σ V w w') :
    Checked.Alike σ V (zipped v w) (zipped v' w') := by
  refine (items_alike _ hv).bind fun _ _ has => (items_alike _ hw).bind fun _ _ hbs => .ok (.ofItems ?_)
  exact rel_zipWith (fun _ _ _ _ ha hb => .ofItems (.cons ha (.cons hb .nil))) has hbs

/-! ### Building -/

/-- An entry is a vector of two values, or a map with further entries. -/
theorem addEntry_alike (name : String) {m m' : Entries} {v w : Value} (hm : Entries.MapAlike σ V m m')
    (h : Alike σ V v w) : Checked.Rel σ (Entries.MapAlike σ V) (addEntry name m v) (addEntry name m' w) := by
  cases h.matching with
  | map hnew => exact .ok (.insertAll hnew hm)
  | vector hi =>
    rcases AllAlike.iff_forall₂.1 hi with _ | ⟨hk, _ | ⟨hv, _ | _⟩⟩
    · exact unexpected_alike name h _
    · exact unexpected_alike name h _
    · exact .ok (.insert hk hv hm)
    · exact unexpected_alike name h _
  | _ => exact unexpected_alike name h _

/-- A map with more entries. -/
theorem addEntries_alike (name : String) {m m' : Entries} {xs ys : List Value}
    (hm : Entries.MapAlike σ V m m') (hi : Forall₂ (Alike σ V) xs ys) : Checked.Alike σ V
      (xs.foldlM (addEntry name) m >>= fun m => pure (.map m))
      (ys.foldlM (addEntry name) m' >>= fun m => pure (.map m)) := by
  have hadd (n n' : Entries) (v w : Value) (hn : Entries.MapAlike σ V n n') (h : Alike σ V v w) :=
    addEntry_alike name hn h
  exact (Checked.Rel.foldlM hadd hi hm).bind fun _ _ hm => .ok hm

/-- What is added depends on the kind of the collection, which is the same on both sides. -/
theorem conjoin_alike {v w : Value} {rest rest' : List Value} (h : Alike σ V v w)
    (hr : Forall₂ (Alike σ V) rest rest') : Checked.Alike σ V (conjoin v rest) (conjoin w rest') := by
  cases h.matching with
  | map => exact addEntries_alike "conj" h hr
  | vector hi => exact .ok (.ofItems (List.rel_append (AllAlike.iff_forall₂.1 hi) hr))
  | nil => exact .ok (.ofItems hr)
  | _ => exact unexpected_alike _ h _

/-- All items of a collection are added to another one. -/
theorem pour_alike {v v' w w' : Value} (hv : Alike σ V v v') (hw : Alike σ V w w') :
    Checked.Alike σ V (pour v w) (pour v' w') := by
  refine (items_alike _ hw).bind fun xs ys hi => ?_
  cases hv.matching with
  | map => exact addEntries_alike "into" hv hi
  | vector hold => exact .ok (.ofItems (List.rel_append (AllAlike.iff_forall₂.1 hold) hi))
  | nil => exact .ok (.ofItems hi)
  | _ => exact unexpected_alike _ hv _

/-! ### Progressions -/

/-- A range consists of numbers. By induction on the steps that are left. -/
theorem rangeFrom_stable {step : Number} {n : Nat} :
    ∀ {current : Number} {done items : List Value}, (∀ x ∈ done, V x) →
      rangeFrom step current done n = .ok items → ∀ x ∈ items, V x := by
  intro current done
  fun_induction rangeFrom step current done n with
  | case1 =>
    intro items hd h x hx
    cases h
    exact hd x (List.mem_reverse.1 hx)
  | case2 =>
    intro items hd h x hx
    cases h
    exact List.forall_mem_cons.2 ⟨Stable.number _, hd⟩ x (List.mem_reverse.1 hx)
  | case3 current done n next _ ih =>
    intro items hd h
    exact ih (List.forall_mem_cons.2 ⟨Stable.number _, hd⟩) h
  | case4 => exact fun _ h => by cases h

/-- However many items a range has, all of them are numbers. -/
theorem progression_stable {first last step : Number} {items : List Value}
    (h : progression first last step = .ok items) : ∀ x ∈ items, V x := by
  unfold progression at h
  split at h
  · cases h
  · split at h
    · cases h
    · split at h
      · cases h
      · exact rangeFrom_stable (fun _ hx => by cases hx) h

/-- The bounds and the step are numbers, so both sides give the same items or the same error. -/
theorem range_alike {v v' : Value} {w w' x x' : Option Value} (hv : Alike σ V v v')
    (hw : Option.Rel (Alike σ V) w w') (hx : Option.Rel (Alike σ V) x x') :
    Checked.Alike σ V (range v w x) (range v' w' x') := by
  refine (asNumber_alike _ hv).bindSame fun a => ?_
  refine (Checked.Rel.optionMapM (fun _ _ h => asNumber_alike _ h) hw).bindSame fun b => ?_
  refine (Checked.Rel.optionMapM (fun _ _ h => asNumber_alike _ h) hx).bindSame fun c => ?_
  rcases b with _ | b
  all_goals
    dsimp only
    split
    · next items h => exact .ok (.self (Stable.vector (progression_stable h)))
    · exact .error ⟨rfl, (fun h => by cases h), rfl⟩

/-! ### Combining items -/

/-- The last argument is a collection, and its items are passed one by one. -/
theorem spread_alike {f g v w : Value} {rest rest' : List Value} (hf : Alike σ V f g)
    (hv : Alike σ V v w) (hr : Forall₂ (Alike σ V) rest rest') :
    (spread f v rest).Alike σ V (spread g w rest') := by
  have hargs : Forall₂ (Alike σ V) (v :: rest) (w :: rest') := .cons hv hr
  have hlast : Alike σ V ((v :: rest).getLastD .nil) ((w :: rest').getLastD .nil) := by
    rw [List.getLastD_eq_getLast?, List.getLastD_eq_getLast?]
    exact .getD (rel_getLast? hargs) .nil
  refine (Rel.liftM (asCallable_alike _ hf)).bind fun f g hf => ?_
  refine (Rel.liftM (items_alike _ hlast)).bind fun xs ys hi => ?_
  exact .call hf (List.rel_append (rel_dropLast hargs) hi) fun _ _ hv => .done hv

omit [Stable V] in
/-- Each call gets what the call before it returned. By induction on the items that are left. -/
theorem reduceFrom_alike {f g : Value} (hf : Alike σ V f g) {xs ys : List Value}
    (hi : Forall₂ (Alike σ V) xs ys) : ∀ {acc acc' : Value}, Alike σ V acc acc' →
      (reduceFrom f acc xs).Alike σ V (reduceFrom g acc' ys) := by
  induction hi with
  | nil => exact fun ha => .done ha
  | cons hx _ ih => exact fun ha => .call hf (.cons ha (.cons hx .nil)) fun _ _ hv => ih hv

/-- Without a first value the first item is the one to start with; an empty collection makes one call without
arguments. -/
theorem reduced_alike {f g v v' : Value} {w w' : Option Value} (hf : Alike σ V f g) (hv : Alike σ V v v')
    (hw : Option.Rel (Alike σ V) w w') : (reduced f v w).Alike σ V (reduced g v' w') := by
  refine (Rel.liftM (asCallable_alike _ hf)).bind fun f g hf => ?_
  cases hw with
  | some hw => exact (Rel.liftM (items_alike _ hw)).bind fun xs ys hi => reduceFrom_alike hf hi hv
  | none =>
    refine (Rel.liftM (items_alike _ hv)).bind fun xs ys hi => ?_
    cases hi with
    | nil => exact .call hf .nil fun _ _ hv => .done hv
    | cons hx hr => exact reduceFrom_alike hf hr hx

/-- A key is found among the groups by the order of values, so it is found in both maps or in neither. -/
theorem addToGroup_alike {groups groups' : Entries} {k k' x x' : Value}
    (hg : Entries.MapAlike σ V groups groups') (hk : Alike σ V k k') (hx : Alike σ V x x') :
    Entries.MapAlike σ V (addToGroup groups k x) (addToGroup groups' k' x') := by
  have hget := hg.entries.get? hk
  unfold addToGroup
  generalize Entries.get? groups k = o, Entries.get? groups' k' = o' at hget ⊢
  have hnew := Alike.insert hk (.ofItems (.cons hx .nil)) hg
  cases hget with
  | none => exact hnew
  | some hv =>
    cases hv.matching with
    | vector hm =>
      exact .insert hk (.ofItems (List.rel_append (AllAlike.iff_forall₂.1 hm) (.cons hx .nil))) hg
    | _ => exact hnew

/-- The keys of the groups are what the calls return. By induction on the items that are left. -/
theorem groupFrom_alike {f g : Value} (hf : Alike σ V f g) {xs ys : List Value}
    (hi : Forall₂ (Alike σ V) xs ys) :
    ∀ {groups groups' : Entries}, Entries.MapAlike σ V groups groups' →
      (groupFrom f groups xs).Alike σ V (groupFrom g groups' ys) := by
  induction hi with
  | nil => exact fun hg => .done hg
  | cons hx _ ih =>
    exact fun hg => .call hf (.cons hx .nil) fun _ _ hk => ih (addToGroup_alike hg hk hx)

/-- Counts are numbers, so they are the same on both sides. -/
theorem addToCount_alike {counts counts' : Entries} {x x' : Value}
    (hc : Entries.MapAlike σ V counts counts') (hx : Alike σ V x x') :
    Entries.MapAlike σ V (addToCount counts x) (addToCount counts' x') := by
  have hget := hc.entries.get? hx
  unfold addToCount
  generalize Entries.get? counts x = o, Entries.get? counts' x' = o' at hget ⊢
  cases hget with
  | none => exact .insert hx (.number _) hc
  | some hv =>
    cases hv.matching with
    | number n => cases n <;> exact .insert hx (.number _) hc
    | _ => exact .insert hx (.number _) hc

theorem frequencies_alike {v w : Value} (h : Alike σ V v w) :
    Checked.Alike σ V (frequencies v) (frequencies w) := by
  refine (items_alike _ h).bind fun xs ys hi => .ok ?_
  have hadd (m m' : Entries) (hm : Entries.MapAlike σ V m m') (x y : Value) (hx : Alike σ V x y) :=
    addToCount_alike hm hx
  exact List.rel_foldl hadd (.self Stable.empty) hi

/-- Both sides have the same numbers, or refuse the same item. -/
theorem numbers_alike (name : String) {xs ys : List Value} (hi : Forall₂ (Alike σ V) xs ys) :
    Checked.Rel σ Eq (numbers name xs) (numbers name ys) := by
  refine Checked.Rel.mapMSame (fun _ _ h => asNumber_alike name h) (List.rel_filter ?_ hi)
  exact fun v w h => by simp only [h.isNil]

theorem total_alike (ns : List Number) : Checked.Rel σ Eq (total ns) (total ns) := by
  unfold total
  split
  · exact .ok rfl
  · exact .error ⟨rfl, (fun h => by cases h), rfl⟩

theorem sumOf_alike (name : String) (xs ys : List Value) (hi : Forall₂ (Alike σ V) xs ys) :
    Checked.Alike σ V (sumOf name xs) (sumOf name ys) :=
  (numbers_alike name hi).bindSame fun ns => (total_alike ns).bindSame fun n => .ok (.number n)

/-- The number of items is the same on both sides, and so is their sum. -/
theorem meanOf_alike (name : String) (xs ys : List Value) (hi : Forall₂ (Alike σ V) xs ys) :
    Checked.Alike σ V (meanOf name xs) (meanOf name ys) := by
  refine (numbers_alike name hi).bindSame fun ns => ?_
  cases ns with
  | nil => exact .ok .nil
  | cons n ns => exact (total_alike _).bindSame fun n => .ok (.number _)

section

variable (name : String) {g : String → List Value → Checked Value}
  (hg : ∀ xs ys, Forall₂ (Alike σ V) xs ys → Checked.Alike σ V (g name xs) (g name ys))
include hg

theorem summary_alike {v w : Value} (h : Alike σ V v w) :
    Checked.Alike σ V (summary name g v) (summary name g w) :=
  (items_alike name h).bind hg

/-- What is summed up is what the calls return, and it has to be a number on both sides. -/
theorem summaryBy_respects : (Signature.two (summaryBy name g)).Respects σ V := by
  intro f f' v v' hf hv
  refine (Rel.liftM (asCallable_alike name hf)).bind fun f f' hf => ?_
  refine (Rel.liftM (items_alike name hv)).bind fun xs ys hi => ?_
  exact (Action.results_alike hf hi).bind fun vs ws hvs => .liftM (hg vs ws hvs)

end

/-! ### Sorting -/

omit [Stable V] in
/-- A comparator that answers truthy or not: a second call decides whether the items are equal. -/
theorem truthyOrder_alike {f g a a' b b' r r' : Value} (hf : Alike σ V f g) (ha : Alike σ V a a')
    (hb : Alike σ V b b') (hr : Alike σ V r r') : Rel σ V Eq
      (if r.truthy then .done Ordering.lt else .call f [b, a] fun r => .done (if r.truthy then .gt else .eq))
      (if r'.truthy then .done Ordering.lt else .call g [b', a'] fun r => .done (if r.truthy then .gt else .eq)) := by
  rw [hr.truthy]
  split
  · exact .done rfl
  · exact .call hf (.cons hb (.cons ha .nil)) fun r r' hr => .done (by rw [hr.truthy])

/-- A comparator answers with a number, which is the same on both sides, or its answer is truthy or not. -/
theorem compareByCall_alike {f g a a' b b' : Value} (hf : Alike σ V f g) (ha : Alike σ V a a')
    (hb : Alike σ V b b') : Rel σ V Eq (compareByCall f a b) (compareByCall g a' b') := by
  refine .call hf (.cons ha (.cons hb .nil)) fun r r' hr => ?_
  have hother := truthyOrder_alike hf ha hb hr
  cases hr.matching with
  | number n => exact .done rfl
  | _ => exact hother

/-- Items are compared in their natural order, or by a comparator that is alike. -/
theorem compareBy_alike (name : String) {c c' : Option Value} (hc : Option.Rel (Alike σ V) c c')
    {a a' b b' : Value} (ha : Alike σ V a a') (hb : Alike σ V b b') :
    Rel σ V Eq (compareBy name c a b) (compareBy name c' a' b') := by
  cases hc with
  | none => exact .liftM (naturalCompare_alike name ha hb)
  | some hf =>
    cases hf.matching with
    | keyword order =>
      by_cases hasc : order = "asc"
      · subst hasc
        exact .liftM (naturalCompare_alike name ha hb)
      · by_cases hdesc : order = "desc"
        · subst hdesc
          exact .liftM (naturalCompare_alike name hb ha)
        · rw [compareBy, compareBy]
          · exact .fail ⟨rfl, (fun h => by cases h), rfl⟩
          all_goals simpa
    | _ => exact compareByCall_alike hf ha hb

/-- Sorting makes the same comparisons on both sides, and moves the items alike. -/
theorem sorted_alike {c c' : Option Value} (hc : Option.Rel (Alike σ V) c c') {v w : Value}
    (h : Alike σ V v w) : (sorted c v).Alike σ V (sorted c' w) := by
  refine (Rel.liftM (items_alike _ h)).bind fun xs ys hi => ?_
  refine (Sorting.mergeSort_alike (fun a a' b b' ha hb => ?_) hi).bind fun _ _ hi => .done (.ofItems hi)
  exact compareBy_alike _ hc ha hb

/-- The keys are computed by calls before the sorting, one per item. -/
theorem sortedBy_alike {c c' : Option Value} (hc : Option.Rel (Alike σ V) c c') {f g v w : Value}
    (hf : Alike σ V f g) (h : Alike σ V v w) : (sortedBy c f v).Alike σ V (sortedBy c' g w) := by
  refine (Rel.liftM (asCallable_alike _ hf)).bind fun f g hf => ?_
  refine (Rel.liftM (items_alike _ h)).bind fun xs ys hi => ?_
  refine (Action.results_alike hf hi).bind fun ks ks' hk => ?_
  have hpairs : Forall₂ (PairAlike σ V) (ks.zip xs) (ks'.zip ys) :=
    rel_zipWith (fun _ _ _ _ hk hx => ⟨hk, hx⟩) hk hi
  refine (Sorting.mergeSort_alike (fun a a' b b' ha hb => ?_) hpairs).bind fun _ _ hp => ?_
  · exact compareBy_alike _ hc ha.1 hb.1
  · exact .done (.ofItems (List.rel_map (fun _ _ he => he.2) hp))

/-- Whether a key improves on the best one so far is decided by the order of values. -/
theorem improves_alike (name : String) (wanted : Ordering) {k k' : Value} (hk : Alike σ V k k')
    {best best' : Option (Value × Value)} (hb : Option.Rel (PairAlike σ V) best best') :
    Checked.Rel σ Eq (improves name wanted k best) (improves name wanted k' best') := by
  cases hb with
  | none => exact .ok rfl
  | some hb => exact (naturalCompare_alike name hk hb.1).bindSame fun _ => .ok rfl

/-- The best key so far goes with the item that has it. By induction on the items that are left. -/
theorem extremeFrom_alike (name : String) (wanted : Ordering) {f g : Value} (hf : Alike σ V f g)
    {xs ys : List Value} (hi : Forall₂ (Alike σ V) xs ys) :
    ∀ {best best' : Option (Value × Value)}, Option.Rel (PairAlike σ V) best best' →
      (extremeFrom name wanted f best xs).Alike σ V (extremeFrom name wanted g best' ys) := by
  induction hi with
  | nil =>
    intro best best' hb
    cases hb with
    | none => exact .done .nil
    | some hb => exact .done hb.2
  | cons hx _ ih =>
    refine fun {best best'} hb => .call hf (.cons hx .nil) fun k k' hk => ?_
    have himp := improves_alike name wanted hk hb
    rw [hk.isNil]
    split
    · exact ih hb
    · generalize improves name wanted k best = r, improves name wanted k' best' = r' at himp ⊢
      cases himp with
      | error h => exact .fail h
      | @ok b _ h =>
        subst h
        cases b with
        | true => exact ih (.some ⟨hk, hx⟩)
        | false => exact ih hb

/-! ### The table -/

/-- All functions on sequences, one case per function. -/
theorem signature_respects (f : SequenceFn) : (signature f).Respects σ V := by
  cases f with
  | count => exact fun _ _ h => .liftM ((size_alike _ h).bindSame fun _ => .ok (.number _))
  | isEmpty => exact fun _ _ h => .liftM ((size_alike _ h).bindSame fun _ => .ok (.bool _))
  | notEmpty => exact fun _ _ h => .liftM (nonEmpty_alike h)
  | first | second => exact fun _ _ h => .liftM (itemAt_alike h _ fun _ _ hi => rel_getElem? hi _)
  | last => exact fun _ _ h => .liftM (itemAt_alike h _ fun _ _ hi => rel_getLast? hi)
  | rest => exact fun _ _ h => .liftM (onItems_alike h _ fun _ _ hi => List.forall₂_drop _ hi)
  | next => exact fun _ _ h => .liftM (nextItems_alike h)
  | nth => exact fun _ _ _ _ _ _ h hi hd => .liftM (nthItem_alike h hi hd)
  | take => exact fun _ _ _ _ hn h => .liftM (cut_alike h _ hn fun _ _ _ => List.forall₂_take _)
  | drop => exact fun _ _ _ _ hn h => .liftM (cut_alike h _ hn fun _ _ _ => List.forall₂_drop _)
  | takeLast => exact fun _ _ _ _ hn h => .liftM (cut_alike h _ hn lastItems_alike)
  | dropLast =>
    exact ⟨fun _ _ h => .liftM (onItems_alike h _ (butLastItems_alike 1)),
      fun _ _ _ _ hn h => .liftM (cut_alike h _ hn butLastItems_alike)⟩
  | takeWhile => exact through_alike _ fun _ _ _ _ hf hi => takeWhileFrom_alike hf hi .nil
  | dropWhile => exact through_alike _ fun _ _ _ _ hf hi => dropWhileFrom_alike hf hi
  | filter | remove => exact through_alike _ fun _ _ _ _ hf hi => selectFrom_alike hf hi _ .nil
  | find => exact through_alike _ fun _ _ _ _ hf hi => findFrom_alike hf hi
  | some => exact through_alike _ fun _ _ _ _ hf hi => someFrom_alike hf hi
  | every | notAny => exact through_alike _ fun _ _ _ _ hf hi => allFrom_alike hf hi _
  | map | mapv => exact fun _ _ _ _ _ _ hf hv hr => mapItems_alike hf hv hr
  | mapIndexed => exact through_alike _ fun _ _ _ _ hf hi => mapWithIndex_alike hf hi
  | keep => exact through_alike _ fun _ _ _ _ hf hi => keepResults_alike hf hi
  | reverse => exact fun _ _ h => .liftM (onItems_alike h _ fun _ _ hi => List.rel_reverse hi)
  | distinct => exact fun _ _ h => .liftM (onItems_alike h _ fun _ _ hi => distinctFrom_alike hi .nil)
  | concat => exact fun _ _ ha => .liftM (concatenated_alike ha)
  | flatten => exact fun _ _ h => .done (flattened_alike h)
  | zip => exact fun _ _ _ _ hv hw => .liftM (zipped_alike hv hw)
  | conj => exact fun _ _ _ _ h hr => .liftM (conjoin_alike h hr)
  | into => exact fun _ _ _ _ hv hw => .liftM (pour_alike hv hw)
  | range => exact fun _ _ _ _ _ _ hv hw hx => .liftM (range_alike hv hw hx)
  | vector | list => exact fun _ _ ha => .done (.ofItems ha)
  | identity => exact fun _ _ h => .done h
  | apply => exact fun _ _ _ _ _ _ hf hv hr => spread_alike hf hv hr
  | sort => exact ⟨fun _ _ h => sorted_alike .none h, fun _ _ _ _ hc h => sorted_alike (.some hc) h⟩
  | sortBy =>
    intro f g v v' w w' hf hv hw
    cases hw with
    | none => exact sortedBy_alike .none hf hv
    | some hw => exact sortedBy_alike (.some hv) hf hw
  | minBy | maxBy => exact through_alike _ fun _ _ _ _ hf hi => extremeFrom_alike _ _ hf hi .none
  | reduce => exact fun _ _ _ _ _ _ hf hv hw => reduced_alike hf hv hw
  | groupBy => exact through_alike _ fun _ _ _ _ hf hi => groupFrom_alike hf hi (.self Stable.empty)
  | frequencies => exact fun _ _ h => .liftM (frequencies_alike h)
  | sum => exact fun _ _ h => .liftM (summary_alike _ (sumOf_alike _) h)
  | sumBy => exact summaryBy_respects _ (sumOf_alike _)
  | avg => exact fun _ _ h => .liftM (summary_alike _ (meanOf_alike _) h)
  | avgBy => exact summaryBy_respects _ (meanOf_alike _)
  | pluck => exact fun _ _ _ _ hk h => .liftM (fieldOfEach_alike h hk)

end Sequence

/-! ## Maps -/

namespace MapFn

/-- The value at the end of a path that is looked up alike. -/
theorem valueIn_alike {v w path path' : Value} {d d' : Option Value} (h : Alike σ V v w)
    (hp : Alike σ V path path') (hd : Option.Rel (Alike σ V) d d') :
    Checked.Alike σ V (valueIn v path d) (valueIn w path' d') :=
  (items_alike _ hp).bind fun _ _ hp => .ok (.getD (h.getIn? (AllAlike.iff_forall₂.2 hp)) (.getD hd .nil))

theorem ofEntries_alike (name : String) {f : Value × Value → Value} {v w : Value}
    (hf : ∀ e e', PairAlike σ V e e' → Alike σ V (f e) (f e')) (h : Alike σ V v w) :
    Checked.Alike σ V (ofEntries name f v) (ofEntries name f w) :=
  (asMap_alike name h).bind fun _ _ hm =>
    .ok (.ofItems (List.rel_map hf (Entries.Alike.iff_forall₂.1 hm.entries)))

/-- A key is copied in the spelling that the map uses, and only if the map has it. -/
theorem copyEntry_alike {m m' picked picked' : Entries} {k k' : Value} (hm : Entries.MapAlike σ V m m')
    (hp : Entries.MapAlike σ V picked picked') (hk : Alike σ V k k') :
    Entries.MapAlike σ V (copyEntry m picked k) (copyEntry m' picked' k') := by
  have hk := hm.resolve hk
  have hget := hm.entries.get? hk
  unfold copyEntry
  dsimp only
  generalize Entries.get? m _ = o, Entries.get? m' _ = o' at hget ⊢
  cases hget with
  | none => exact hp
  | some hv => exact .insert hk hv hp

theorem selected_alike {v w ks ks' : Value} (h : Alike σ V v w) (hk : Alike σ V ks ks') :
    Checked.Alike σ V (selected v ks) (selected w ks') := by
  refine (asMap_alike _ h).bind fun m m' hm => (items_alike _ hk).bind fun ks ks' hk => .ok ?_
  have hcopy (p p' : Entries) (hp : Entries.MapAlike σ V p p') (k k' : Value) (hk : Alike σ V k k') :=
    copyEntry_alike hm hp hk
  exact List.rel_foldl hcopy (.self Stable.empty) hk

/-- A map gets an entry, and a vector gets an item at an index or at its end. -/
theorem setPart_alike (name : String) {coll coll' k k' v v' : Value} (hc : Alike σ V coll coll')
    (hk : Alike σ V k k') (hv : Alike σ V v v') :
    Checked.Alike σ V (setPart name coll k v) (setPart name coll' k' v') := by
  cases hc.matching with
  | map => exact .ok (.insert hk hv hc)
  | nil => exact .ok (.insert hk hv (.self Stable.empty))
  | vector hi =>
    have hbad : Checked.Alike σ V (badIndex name k _) (badIndex name k' _) :=
      .error ⟨congrArg₂ (fun k n => EvalError.type (.index name k n)) hk.1 hi.length,
        (fun h => by cases h), rfl⟩
    have hi' := AllAlike.iff_forall₂.1 hi
    cases hk.matching with
    | number n =>
      cases n with
      | int i =>
        simp only [setPart, hi.length]
        split
        · exact .ok (.ofItems (rel_set hi' _ hv))
        · split
          · exact .ok (.ofItems (List.rel_append hi' (.cons hv .nil)))
          · exact hbad
      | float x => exact hbad
    | _ => exact hbad
  | _ => exact unexpected_alike name hc _

/-- The spelling in which a key is written is that which the map has already. -/
theorem writtenKey_alike {coll coll' k k' : Value} (hc : Alike σ V coll coll') (hk : Alike σ V k k') :
    Alike σ V (writtenKey coll k) (writtenKey coll' k') := by
  cases hc.matching with
  | map => exact hc.resolve hk
  | _ => exact hk

omit [Stable V] in
/-- Arguments that alternate are split into pairs alike. -/
theorem pairs_alike {args args' : List Value} (ha : Forall₂ (Alike σ V) args args') :
    Forall₂ (PairAlike σ V) (Form.pairs args) (Form.pairs args') := by
  fun_induction Form.pairs args generalizing args' with
  | case1 k v rest ih =>
    obtain _ | ⟨hk, _ | ⟨hv, hr⟩⟩ := ha
    exact .cons ⟨hk, hv⟩ (ih hr)
  | case2 args h =>
    rcases ha with _ | ⟨hk, _ | ⟨hv, hr⟩⟩
    · exact .nil
    · exact .nil
    · exact absurd rfl (h _ _ _)

theorem setParts_alike {coll coll' k k' v v' : Value} {rest rest' : List Value} (hc : Alike σ V coll coll')
    (hk : Alike σ V k k') (hv : Alike σ V v v') (hr : Forall₂ (Alike σ V) rest rest') :
    Checked.Alike σ V (setParts coll k v rest) (setParts coll' k' v' rest') := by
  have hset (c c' : Value) (e e' : Value × Value) (hc : Alike σ V c c') (he : PairAlike σ V e e') :=
    setPart_alike "assoc" hc he.1 he.2
  unfold setParts
  rw [hr.length_eq]
  split
  · exact .foldlM hset (pairs_alike (.cons hk (.cons hv hr))) hc
  · exact .error ⟨rfl, (fun h => by cases h), rfl⟩

/-- Maps that are missing on the path are made. By induction on the path. -/
theorem setIn_alike (name : String) {path path' : List Value} (hp : Forall₂ (Alike σ V) path path')
    {v v' : Value} (hv : Alike σ V v v') : ∀ {coll coll' : Value}, Alike σ V coll coll' →
      Checked.Alike σ V (setIn name coll path v) (setIn name coll' path' v') := by
  induction hp with
  | nil => exact fun _ => .ok hv
  | cons hk _ ih =>
    exact fun hc => (ih (.getD (hc.get? hk) .nil)).bind fun _ _ hpart =>
      setPart_alike name hc (writtenKey_alike hc hk) hpart

/-- The value at a key is passed to a function, and what it returns is written there. -/
theorem changePart_alike {coll coll' k k' f g : Value} {extra extra' : List Value}
    (hc : Alike σ V coll coll') (hk : Alike σ V k k') (hf : Alike σ V f g)
    (he : Forall₂ (Alike σ V) extra extra') :
    (changePart coll k f extra).Alike σ V (changePart coll' k' g extra') := by
  refine (Rel.liftM (asCallable_alike _ hf)).bind fun f g hf => ?_
  refine Rel.bind (.call hf (.cons (.getD (hc.get? hk) .nil) he) fun _ _ hv => .done hv) fun _ _ hv => ?_
  exact .liftM (setPart_alike _ hc (writtenKey_alike hc hk) hv)

/-- Only the value at the end of the path is passed to the function. By induction on the path. -/
theorem changeIn_alike {f g : Value} {extra extra' : List Value} (hf : Alike σ V f g)
    (he : Forall₂ (Alike σ V) extra extra') {path path' : List Value}
    (hp : Forall₂ (Alike σ V) path path') : ∀ {coll coll' : Value}, Alike σ V coll coll' →
      (changeIn f extra coll path).Alike σ V (changeIn g extra' coll' path') := by
  induction hp with
  | nil => exact fun hc => .call hf (.cons hc he) fun _ _ hv => .done hv
  | cons hk _ ih =>
    exact fun hc => (ih (.getD (hc.get? hk) .nil)).bind fun _ _ hpart =>
      .liftM (setPart_alike _ hc (writtenKey_alike hc hk) hpart)

/-- Each removal is of the spelling that the map uses at that moment. -/
theorem removeKeys_alike {v w : Value} {ks ks' : List Value} (h : Alike σ V v w)
    (hk : Forall₂ (Alike σ V) ks ks') : Checked.Alike σ V (removeKeys v ks) (removeKeys w ks') := by
  cases h.matching with
  | nil => exact .ok .nil
  | map =>
    have herase (m m' : Entries) (hm : Entries.MapAlike σ V m m') (k k' : Value) (hk : Alike σ V k k') :=
      Alike.erase (hm.resolve hk) hm
    exact .ok (List.rel_foldl herase h hk)
  | _ => exact unexpected_alike _ h _

/-- What is not a map is refused, and `nil` is passed over. -/
theorem mergeInto_alike {merged merged' : Option Entries} {v w : Value}
    (hm : Option.Rel (Entries.MapAlike σ V) merged merged') (h : Alike σ V v w) :
    Checked.Rel σ (Option.Rel (Entries.MapAlike σ V)) (mergeInto merged v) (mergeInto merged' w) := by
  cases h.matching with
  | nil => exact .ok hm
  | map hnew =>
    refine .ok (.some (.insertAll hnew ?_))
    cases hm with
    | none => exact .self Stable.empty
    | some hm => exact hm
  | _ => exact unexpected_alike _ h _

theorem merged_alike {args args' : List Value} (ha : Forall₂ (Alike σ V) args args') :
    Checked.Alike σ V (merged args) (merged args') := by
  have hmerge (m m' : Option Entries) (v w : Value) (hm : Option.Rel (Entries.MapAlike σ V) m m')
      (h : Alike σ V v w) := mergeInto_alike hm h
  refine (Checked.Rel.foldlM hmerge ha .none).bind fun o o' ho => ?_
  cases ho with
  | none => exact .ok .nil
  | some hm => exact .ok hm

theorem zipped_alike {ks ks' vs vs' : Value} (hk : Alike σ V ks ks') (hv : Alike σ V vs vs') :
    Checked.Alike σ V (zipped ks vs) (zipped ks' vs') := by
  refine (items_alike _ hk).bind fun ks ks' hk => (items_alike _ hv).bind fun vs vs' hv => .ok ?_
  exact Entries.Alike.ofList (Entries.Alike.iff_forall₂.2 (rel_zipWith (fun _ _ _ _ hk hv => ⟨hk, hv⟩) hk hv))

theorem ofAlternating_alike {args args' : List Value} (ha : Forall₂ (Alike σ V) args args') :
    Checked.Alike σ V (ofAlternating args) (ofAlternating args') := by
  unfold ofAlternating
  rw [ha.length_eq]
  split
  · exact .ok (Entries.Alike.ofList (Entries.Alike.iff_forall₂.2 (pairs_alike ha)))
  · exact .error ⟨rfl, (fun h => by cases h), rfl⟩

/-- All functions on maps, one case per function. -/
theorem signature_respects (f : MapFn) : f.signature.Respects σ V := by
  cases f with
  | get => exact fun _ _ _ _ _ _ h hk hd => .done (.getD (h.get? hk) (.getD hd .nil))
  | getIn => exact fun _ _ _ _ _ _ h hp hd => .liftM (valueIn_alike h hp hd)
  | contains => exact fun _ _ _ _ h hk => .done (h.hasKey hk ▸ .bool _)
  | keys => exact fun _ _ h => .liftM (ofEntries_alike _ (fun _ _ he => he.1) h)
  | vals => exact fun _ _ h => .liftM (ofEntries_alike _ (fun _ _ he => he.2) h)
  | selectKeys => exact fun _ _ _ _ h hk => .liftM (selected_alike h hk)
  | assoc => exact fun _ _ _ _ _ _ _ _ hc hk hv hr => .liftM (setParts_alike hc hk hv hr)
  | assocIn =>
    exact fun _ _ _ _ _ _ hc hp hv =>
      .liftM ((asVector_alike _ hp).bind fun _ _ hp => setIn_alike _ hp hv hc)
  | update => exact fun _ _ _ _ _ _ _ _ hc hk hf he => changePart_alike hc hk hf he
  | updateIn =>
    exact fun _ _ _ _ _ _ _ _ hc hp hf he => (Rel.liftM (asVector_alike _ hp)).bind fun _ _ hp =>
      (Rel.liftM (asCallable_alike _ hf)).bind fun _ _ hf => changeIn_alike hf he hp hc
  | dissoc => exact fun _ _ _ _ h hk => .liftM (removeKeys_alike h hk)
  | merge => exact fun _ _ ha => .liftM (merged_alike ha)
  | zipmap => exact fun _ _ _ _ hk hv => .liftM (zipped_alike hk hv)
  | hashMap => exact fun _ _ ha => .liftM (ofAlternating_alike ha)

end MapFn

/-! ## Texts -/

namespace TextFn

/-- The text of a value does not show the bindings of functions. -/
theorem concatenated_alike {args args' : List Value} (ha : Forall₂ (Alike σ V) args args') :
    Alike σ V (concatenated args) (concatenated args') := by
  have htext : args.flatMap plainText = args'.flatMap plainText := by
    induction ha with
    | nil => rfl
    | cons h _ ih => rw [List.flatMap_cons, h.congr plainText_rebind, ih, List.flatMap_cons]
  rw [concatenated, htext]
  exact .string _

theorem joined_alike (sep : String) {v w : Value} (h : Alike σ V v w) :
    Checked.Alike σ V (joined sep v) (joined sep w) := by
  refine (items_alike _ h).bind fun xs ys hi => .ok ?_
  have htexts : xs.map renderPlain = ys.map renderPlain := by
    induction hi with
    | nil => rfl
    | cons h _ ih => rw [List.map_cons, h.congr renderPlain_rebind, ih, List.map_cons]
  rw [htexts]
  exact .string _

theorem part_alike {v w i i' : Value} {j j' : Option Value} (h : Alike σ V v w) (hi : Alike σ V i i')
    (hj : Option.Rel (Alike σ V) j j') : Checked.Alike σ V (part v i j) (part w i' j') := by
  refine (asString_alike _ h).bindSame fun s => (asIndex_alike _ hi).bindSame fun i => ?_
  refine (Checked.Rel.optionMapM (fun _ _ h => asIndex_alike _ h) hj).bindSame fun j => ?_
  dsimp only
  split
  · exact .ok (.string _)
  · exact .error ⟨rfl, (fun h => by cases h), rfl⟩

/-- Cutting a text gives strings, and the text is the same on both sides. -/
theorem parts_alike {v w sep sep' : Value} (h : Alike σ V v w) (hs : Alike σ V sep sep') :
    Checked.Alike σ V (parts v sep) (parts w sep') := by
  refine (asString_alike _ h).bindSame fun s => (asString_alike _ hs).bindSame fun sep => ?_
  have hstrings {α : Type} (f : α → String) (xs : List α) : V (.vector (xs.map fun x => .string (f x))) :=
    Stable.vector fun v hv => by obtain ⟨x, -, rfl⟩ := List.mem_map.1 hv; exact Stable.string _
  split
  · exact .ok (.self (hstrings id _))
  · exact .ok (.self (hstrings String.ofList _))

/-- What a search finds is made of strings and `nil`. -/
theorem matchValue_stable (groups : List (Option String)) : V (matchValue groups) := by
  unfold matchValue
  split
  · exact Stable.string _
  · refine Stable.vector fun x hx => ?_
    obtain ⟨g, _, rfl⟩ := List.mem_map.1 hx
    cases g with
    | none => exact Stable.nil
    | some s => exact Stable.string s

/-- The pattern and the text are strings, so both sides make the same search. -/
theorem firstMatch_alike (engine : Regex.Engine) (name : String) (pattern : String → String)
    {p p' v w : Value} (hp : Alike σ V p p') (h : Alike σ V v w) :
    Checked.Alike σ V (firstMatch engine name pattern p v) (firstMatch engine name pattern p' w) := by
  refine (asString_alike _ hp).bindSame fun p => ?_
  cases engine.ofText? (pattern p) with
  | none => exact .error ⟨rfl, (fun h => by cases h), rfl⟩
  | some regex =>
    refine (asString_alike _ h).bindSame fun s => ?_
    cases engine.captures? regex s with
    | none => exact .ok .nil
    | some groups => exact .ok (.self (matchValue_stable groups))

/-- A string is read alike on both sides, and a number is kept. -/
theorem integerOf_alike {v w : Value} (h : Alike σ V v w) : Alike σ V (integerOf v) (integerOf w) := by
  cases h.matching with
  | string s =>
    simp only [integerOf]
    split
    · split
      · exact .number _
      · exact .nil
    · exact .nil
  | _ => exact .nil

theorem doubleOf_alike {v w : Value} (h : Alike σ V v w) : Alike σ V (doubleOf v) (doubleOf w) := by
  cases h.matching with
  | string s =>
    simp only [doubleOf]
    split
    · exact .number _
    · split
      · split
        · exact .number _
        · exact .nil
      · exact .nil
  | _ => exact .nil

theorem spelledName_alike {v w : Value} (h : Alike σ V v w) :
    Checked.Alike σ V (spelledName v) (spelledName w) := by
  cases h.matching with
  | keyword | string => exact .ok (.string _)
  | _ => exact unexpected_alike _ h _

theorem keywordNamed_alike {v w : Value} (h : Alike σ V v w) :
    Checked.Alike σ V (keywordNamed v) (keywordNamed w) := by
  cases h.matching with
  | string s =>
    simp only [keywordNamed]
    split
    · exact unexpected_alike _ h _
    · exact .ok (.keyword _)
  | keyword => exact .ok (.keyword _)
  | nil => exact .ok .nil
  | _ => exact unexpected_alike _ h _

/-- All functions on texts, one case per function. -/
theorem signature_respects (f : TextFn) : f.signature.Respects σ V := by
  cases f with
  | str => exact fun _ _ ha => .done (concatenated_alike ha)
  | join =>
    exact ⟨fun _ _ h => .liftM (joined_alike _ h), fun _ _ _ _ hs h =>
      .liftM ((asString_alike _ hs).bindSame fun sep => joined_alike sep h)⟩
  | subs => exact fun _ _ _ _ _ _ h hi hj => .liftM (part_alike h hi hj)
  | split => exact fun _ _ _ _ h hs => .liftM (parts_alike h hs)
  | upperCase | lowerCase | trim =>
    exact fun _ _ h => .liftM ((asString_alike _ h).bindSame fun _ => .ok (.string _))
  | replace =>
    exact fun _ _ _ _ _ _ h hold hnew => .liftM ((asString_alike _ h).bindSame fun _ =>
      (asString_alike _ hold).bindSame fun _ => (asString_alike _ hnew).bindSame fun _ => .ok (.string _))
  | includes | startsWith | endsWith =>
    exact fun _ _ _ _ h hpart => .liftM ((asString_alike _ h).bindSame fun _ =>
      (asString_alike _ hpart).bindSame fun _ => .ok (.bool _))
  | reFind | reMatches => exact fun _ _ _ _ hp h => .liftM (firstMatch_alike _ _ _ hp h)
  | parseLong => exact fun _ _ h => .done (integerOf_alike h)
  | parseDouble => exact fun _ _ h => .done (doubleOf_alike h)
  | nameOf => exact fun _ _ h => .liftM (spelledName_alike h)
  | keywordOf => exact fun _ _ h => .liftM (keywordNamed_alike h)

end TextFn

/-! ## All builtin functions -/

namespace Builtin

/-- Every builtin function is of one of the five families. -/
theorem signature_respects (f : Builtin) : f.signature.Respects σ V := by
  cases f with
  | number f => exact NumberFn.signature_respects f
  | test f => exact TestFn.signature_respects f
  | sequence f => exact Sequence.signature_respects f
  | map f => exact MapFn.signature_respects f
  | text f => exact TextFn.signature_respects f

/-- A builtin function does the same on arguments that are alike. -/
theorem act_alike (f : Builtin) {args args' : List Value} (ha : AllAlike σ V args args') :
    (f.act args).Alike σ V (f.act args') := by
  have hact := f.signature_respects.actOn? (AllAlike.iff_forall₂.1 ha)
  unfold act
  rw [ha.length]
  generalize f.signature.actOn? args = o, f.signature.actOn? args' = o' at hact ⊢
  cases hact with
  | some h => exact h
  | none => exact .fail ⟨rfl, (fun h => by cases h), rfl⟩

end Builtin

end ToolLisp
