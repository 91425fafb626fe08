import Mathlib.Data.List.Forall2
import ToolLisp.Proofs.Rebinding
import ToolLisp.Proofs.Stability

/-!
# Values that are alike

Two values are alike if they differ at most in the bindings that functions carry, and these become the same
when they are changed by `σ`. Both values have a property `V`. Operations on values commute with `σ`, so
they take values that are alike to values that are alike, and a test has the same outcome on both.
-/

namespace ToolLisp

variable (σ : List Pattern → Expr → Env → Env) (V : Value → Prop)

/-- Two values with the property `V` that become the same under `σ`. -/
def Value.Alike (v w : Value) : Prop :=
  v.rebind σ = w.rebind σ ∧ V v ∧ V w

/-- Two lists of values that are alike. -/
def Value.AllAlike (vs ws : List Value) : Prop :=
  vs.map (Value.rebind σ) = ws.map (Value.rebind σ) ∧ (∀ v ∈ vs, V v) ∧ ∀ w ∈ ws, V w

/-- Two pairs of values that are alike. -/
def Value.PairAlike (e e' : Value × Value) : Prop :=
  Value.Alike σ V e.1 e'.1 ∧ Value.Alike σ V e.2 e'.2

/-- Two lists of entries whose keys and values are alike. -/
def Entries.Alike (m m' : List (Value × Value)) : Prop :=
  Entries.rebind σ m = Entries.rebind σ m' ∧ Entries.Each V m ∧ Entries.Each V m'

/-- Two maps that are alike. -/
abbrev Entries.MapAlike (m m' : Entries) : Prop :=
  Value.Alike σ V (.map m) (.map m')

/-- The constructors of two values that are alike. -/
inductive Value.Matching : Value → Value → Prop
  | nil : Matching .nil .nil
  | bool (b : Bool) : Matching (.bool b) (.bool b)
  | number (n : Number) : Matching (.number n) (.number n)
  | string (s : String) : Matching (.string s) (.string s)
  | keyword (name : String) : Matching (.keyword name) (.keyword name)
  | vector {vs ws : List Value} : AllAlike σ V vs ws → Matching (.vector vs) (.vector ws)
  | map {m m' : Entries} : Entries.Alike σ V m m' → Matching (.map m) (.map m')
  | closure (stamp : Nat) (params : List Pattern) (body : Expr) (env env' : Env) :
    Matching (.closure stamp params body env) (.closure stamp params body env')
  | rowTest {stamp : Nat} {path : List Literal} {op : RowOp} {v w : Value} :
    v.rebind σ = w.rebind σ → Matching (.rowTest stamp path op v) (.rowTest stamp path op w)
  | combined {stamp : Nat} {c : Combinator} {vs ws : List Value} :
    AllAlike σ V vs ws → Matching (.combined stamp c vs) (.combined stamp c ws)
  | builtin (f : Builtin) : Matching (.builtin f) (.builtin f)
  | tool (name : String) : Matching (.tool name) (.tool name)

variable {σ V}

namespace Value

/-! ## Rules -/

namespace Alike

/-- What does not look at bindings is the same for values that are alike. -/
theorem congr {α : Type} {f : Value → α} (hf : ∀ v : Value, f (v.rebind σ) = f v) {v w : Value}
    (h : Alike σ V v w) : f v = f w := by
  rw [← hf v, h.1, hf w]

theorem truthy {v w : Value} (h : Alike σ V v w) : v.truthy = w.truthy :=
  h.congr truthy_rebind

theorem isNil {v w : Value} (h : Alike σ V v w) : v.isNil = w.isNil :=
  h.congr isNil_rebind

/-- Equality does not look at bindings. -/
theorem equal {v w v' w' : Value} (h : Alike σ V v w) (h' : Alike σ V v' w') :
    v.equal v' = w.equal w' := by
  rw [← @equal_rebind σ v, h.1, h'.1, equal_rebind]

/-- The order of values does not look at bindings. -/
theorem compare {v w v' w' : Value} (h : Alike σ V v w) (h' : Alike σ V v' w') :
    v.compare v' = w.compare w' := by
  rw [← @compare_rebind σ v, h.1, h'.1, compare_rebind]

theorem same {v w v' w' : Value} (h : Alike σ V v w) (h' : Alike σ V v' w') :
    v.same v' = w.same w' := by
  rw [Value.same, h.compare h', Value.same]

/-- A key is in a collection or in one that is alike. -/
theorem hasKey {v w k k' : Value} (h : Alike σ V v w) (hk : Alike σ V k k') :
    v.hasKey k = w.hasKey k' := by
  rw [← @hasKey_rebind σ v, h.1, hk.1, hasKey_rebind]

theorem callable {v w : Value} (h : Alike σ V v w) : v.callable = w.callable :=
  h.congr callable_rebind

/-- A value with the property is alike to itself. -/
theorem self {v : Value} (hv : V v) : Alike σ V v v :=
  ⟨rfl, hv, hv⟩

/-- Two optional values with the same changed form. -/
theorem option {o o' : Option Value} (h : o.map (rebind σ) = o'.map (rebind σ)) (ho : ∀ v ∈ o, V v)
    (ho' : ∀ w ∈ o', V w) : Option.Rel (Alike σ V) o o' := by
  cases o with
  | none =>
    rw [Option.map_eq_none_iff.1 h.symm]
    exact .none
  | some v =>
    obtain ⟨w, rfl, hw⟩ := Option.map_eq_some_iff.1 h.symm
    exact .some ⟨hw.symm, ho v rfl, ho' w rfl⟩

/-- What is found, or what stands in for it. -/
theorem getD {o o' : Option Value} {d d' : Value} (h : Option.Rel (Alike σ V) o o')
    (hd : Alike σ V d d') : Alike σ V (o.getD d) (o'.getD d') := by
  cases h with
  | none => exact hd
  | some h => exact h

end Alike

namespace AllAlike

theorem nil : AllAlike σ V [] [] :=
  ⟨rfl, (fun _ h => by cases h), fun _ h => by cases h⟩

/-- The first values are alike, and the others are. -/
theorem cons_iff {v w : Value} {vs ws : List Value} :
    AllAlike σ V (v :: vs) (w :: ws) ↔ Alike σ V v w ∧ AllAlike σ V vs ws := by
  simp only [AllAlike, Alike, List.map_cons, List.cons.injEq, List.forall_mem_cons]
  tauto

theorem cons {v w : Value} {vs ws : List Value} (h : Alike σ V v w) (hs : AllAlike σ V vs ws) :
    AllAlike σ V (v :: vs) (w :: ws) :=
  cons_iff.2 ⟨h, hs⟩

/-- There are as many values on both sides. -/
theorem length {vs ws : List Value} (h : AllAlike σ V vs ws) : vs.length = ws.length := by
  have hl := congrArg List.length h.1
  rwa [List.length_map, List.length_map] at hl

/-- Lists that are alike are both empty, or both begin with values that are alike. -/
theorem cases {vs ws : List Value} (h : AllAlike σ V vs ws) :
    (vs = [] ∧ ws = []) ∨ ∃ v vs' w ws', vs = v :: vs' ∧ ws = w :: ws' ∧ Alike σ V v w ∧
      AllAlike σ V vs' ws' := by
  cases vs with
  | nil => exact Or.inl ⟨rfl, List.length_eq_zero_iff.1 h.length.symm⟩
  | cons v vs =>
    cases ws with
    | nil => cases h.length
    | cons w ws => exact Or.inr ⟨v, vs, w, ws, rfl, rfl, cons_iff.1 h⟩

/-- Being alike item by item. -/
theorem iff_forall₂ {vs ws : List Value} : AllAlike σ V vs ws ↔ List.Forall₂ (Alike σ V) vs ws := by
  induction vs generalizing ws with
  | nil =>
    rw [List.forall₂_nil_left_iff]
    exact ⟨fun h => List.length_eq_zero_iff.1 h.length.symm, fun h => by subst h; exact nil⟩
  | cons v vs ih =>
    cases ws with
    | nil => exact ⟨fun h => (by cases h.length), fun h => by cases h⟩
    | cons w ws => rw [cons_iff, List.forall₂_cons, ih]

theorem tail {vs ws : List Value} (h : AllAlike σ V vs ws) : AllAlike σ V vs.tail ws.tail := by
  obtain ⟨rfl, rfl⟩ | ⟨v, vs, w, ws, rfl, rfl, -, hs⟩ := h.cases
  · exact nil
  · exact hs

theorem drop {vs ws : List Value} (h : AllAlike σ V vs ws) (n : Nat) :
    AllAlike σ V (vs.drop n) (ws.drop n) := by
  refine ⟨?_, fun v hv => h.2.1 v (List.mem_of_mem_drop hv), fun w hw =>
    h.2.2 w (List.mem_of_mem_drop hw)⟩
  rw [List.map_drop, h.1, List.map_drop]

end AllAlike

section

variable [Stable V]

theorem Alike.nil : Alike σ V .nil .nil :=
  .self Stable.nil

theorem Alike.bool (b : Bool) : Alike σ V (.bool b) (.bool b) :=
  .self (Stable.bool b)

theorem Alike.number (n : Number) : Alike σ V (.number n) (.number n) :=
  .self (Stable.number n)

theorem Alike.string (s : String) : Alike σ V (.string s) (.string s) :=
  .self (Stable.string s)

theorem Alike.keyword (name : String) : Alike σ V (.keyword name) (.keyword name) :=
  .self (Stable.keyword name)

/-- Vectors are alike if their items are. -/
theorem Alike.vector {vs ws : List Value} (h : AllAlike σ V vs ws) :
    Alike σ V (.vector vs) (.vector ws) :=
  ⟨by rw [rebind_vector, h.1, rebind_vector], Stable.vector h.2.1, Stable.vector h.2.2⟩

theorem Alike.ofItems {vs ws : List Value} (h : List.Forall₂ (Alike σ V) vs ws) :
    Alike σ V (.vector vs) (.vector ws) :=
  .vector (AllAlike.iff_forall₂.2 h)

/-- Values that are alike are of the same kind, and what they hold is alike. Only the bindings of functions
may differ, so there is no other case. -/
theorem Alike.matching {v w : Value} (h : Alike σ V v w) : Matching σ V v w := by
  obtain ⟨h, hv, hw⟩ := h
  cases v <;> cases w <;> simp at h
  · exact .nil
  · exact h ▸ .bool _
  · exact h ▸ .number _
  · exact h ▸ .string _
  · exact h ▸ .keyword _
  · exact .vector ⟨h, Stable.items hv, Stable.items hw⟩
  · exact .map ⟨h, Stable.entries hv, Stable.entries hw⟩
  · obtain ⟨rfl, rfl, rfl, -⟩ := h
    exact .closure ..
  · obtain ⟨rfl, rfl, rfl, h⟩ := h
    exact .rowTest h
  · obtain ⟨rfl, rfl, h⟩ := h
    exact .combined ⟨h, Stable.combined_iff.1 hv, Stable.combined_iff.1 hw⟩
  · exact h ▸ .builtin _
  · exact h ▸ .tool _

/-- The entries of maps that are alike. -/
theorem Alike.entries {m m' : Entries} (h : Alike σ V (.map m) (.map m')) : Entries.Alike σ V m m' := by
  cases h.matching with
  | map h => exact h

theorem Alike.rowTest {v w : Value} (h : Alike σ V v w) (stamp : Nat) (path : List Literal)
    (op : RowOp) : Alike σ V (.rowTest stamp path op v) (.rowTest stamp path op w) :=
  ⟨by rw [rebind_rowTest, h.1, rebind_rowTest], Stable.rowTest h.2.1, Stable.rowTest h.2.2⟩

/-- Combinations of predicates that are alike. -/
theorem Alike.combined {vs ws : List Value} (h : AllAlike σ V vs ws) (stamp : Nat) (c : Combinator) :
    Alike σ V (.combined stamp c vs) (.combined stamp c ws) :=
  ⟨by rw [rebind_combined, h.1, rebind_combined], Stable.combined_iff.2 h.2.1,
    Stable.combined_iff.2 h.2.2⟩

/-- What is found at keys that are alike. -/
theorem Alike.get? {v w k k' : Value} (h : Alike σ V v w) (hk : Alike σ V k k') :
    Option.Rel (Alike σ V) (v.get? k) (w.get? k') :=
  Alike.option (by rw [← get?_rebind, h.1, hk.1, get?_rebind]) (Stable.get? h.2.1 k) (Stable.get? h.2.2 k')

/-- What is found at the end of paths that are alike. -/
theorem Alike.getIn? {v w : Value} (h : Alike σ V v w) {path path' : List Value}
    (hp : AllAlike σ V path path') : Option.Rel (Alike σ V) (v.getIn? path) (w.getIn? path') :=
  Alike.option (by rw [← getIn?_rebind, h.1, hp.1, getIn?_rebind]) (Stable.getIn? h.2.1) (Stable.getIn? h.2.2)

/-- The first of several values, or `nil`. -/
theorem AllAlike.headD {vs ws : List Value} (h : AllAlike σ V vs ws) :
    Alike σ V (vs.headD .nil) (ws.headD .nil) := by
  obtain ⟨rfl, rfl⟩ | ⟨v, vs, w, ws, rfl, rfl, hv, -⟩ := h.cases
  · exact .nil
  · exact hv

/-- What is left of several values, or `nil`. -/
theorem AllAlike.rest {vs ws : List Value} (h : AllAlike σ V vs ws) :
    Alike σ V (if vs.isEmpty then .nil else .vector vs) (if ws.isEmpty then .nil else .vector ws) := by
  obtain ⟨rfl, rfl⟩ | ⟨v, vs, w, ws, rfl, rfl, -, -⟩ := h.cases
  · exact .nil
  · exact .vector h

end

end Value

namespace Entries.Alike

open Value

theorem nil : Entries.Alike σ V [] [] :=
  ⟨rfl, .nil, .nil⟩

/-- One more entry on each side. -/
theorem cons {k k' v v' : Value} {m m' : List (Value × Value)} (hk : Value.Alike σ V k k')
    (hv : Value.Alike σ V v v') (hm : Entries.Alike σ V m m') :
    Entries.Alike σ V ((k, v) :: m) ((k', v') :: m') := by
  refine ⟨?_, List.forall_mem_cons.2 ⟨⟨hk.2.1, hv.2.1⟩, hm.2.1⟩,
    List.forall_mem_cons.2 ⟨⟨hk.2.2, hv.2.2⟩, hm.2.2⟩⟩
  exact congrArg₂ List.cons (congrArg₂ Prod.mk hk.1 hv.1) hm.1

/-- A map of entries that are alike. Entries with the same key are the same ones on both sides. -/
theorem ofList [Stable V] {es es' : List (Value × Value)} (h : Entries.Alike σ V es es') :
    MapAlike σ V (Entries.ofList es) (Entries.ofList es') := by
  refine ⟨?_, Stable.ofList h.2.1, Stable.ofList h.2.2⟩
  rw [rebind_map, rebind_map, ← Entries.ofList_rebind, h.1, Entries.ofList_rebind]

/-- Being alike entry by entry. -/
theorem iff_forall₂ {m m' : List (Value × Value)} :
    Entries.Alike σ V m m' ↔ List.Forall₂ (PairAlike σ V) m m' := by
  induction m generalizing m' with
  | nil =>
    rw [List.forall₂_nil_left_iff]
    exact ⟨fun h => List.map_eq_nil_iff.1 h.1.symm, fun h => by subst h; exact nil⟩
  | cons e m ih =>
    cases m' with
    | nil => exact ⟨fun h => (by cases h.1), fun h => by cases h⟩
    | cons e' m' =>
      rw [List.forall₂_cons, ← ih]
      constructor
      · rintro ⟨h, hm, hm'⟩
        obtain ⟨he, h⟩ := List.cons.inj h
        obtain ⟨hk, hv⟩ := Prod.mk.inj he
        obtain ⟨⟨hek, hev⟩, hm⟩ := List.forall_mem_cons.1 hm
        obtain ⟨⟨hek', hev'⟩, hm'⟩ := List.forall_mem_cons.1 hm'
        exact ⟨⟨⟨hk, hek, hek'⟩, ⟨hv, hev, hev'⟩⟩, h, hm, hm'⟩
      · rintro ⟨⟨hk, hv⟩, hm⟩
        exact cons hk hv hm

/-- The values at keys that are alike. -/
theorem get? {m m' : Entries} (h : Entries.Alike σ V m m') {k k' : Value} (hk : Value.Alike σ V k k') :
    Option.Rel (Value.Alike σ V) (Entries.get? m k) (Entries.get? m' k') :=
  Alike.option (by rw [← Entries.get?_rebind, h.1, hk.1, Entries.get?_rebind]) (h.2.1.get? k) (h.2.2.get? k')

theorem find? {m m' : Entries} (h : Entries.Alike σ V m m') {k k' : Value} (hk : Value.Alike σ V k k') :
    Option.Rel (Value.Alike σ V) (Entries.find? m k) (Entries.find? m' k') :=
  Alike.option (by rw [← Entries.find?_rebind, h.1, hk.1, Entries.find?_rebind]) (h.2.1.find? k) (h.2.2.find? k')

/-- The value at a literal key, or `nil`. -/
theorem getD_find? [Stable V] {m m' : Entries} (h : Entries.Alike σ V m m') (l : Literal) :
    Value.Alike σ V ((Entries.find? m l.value).getD .nil) ((Entries.find? m' l.value).getD .nil) :=
  .getD (h.find? (.self (Stable.literal l))) .nil

end Entries.Alike

namespace Value.Alike

open Entries

variable [Stable V] {k k' v v' : Value} {m m' : Entries}

/-- One more entry in maps that are alike, in the same place. -/
theorem insert (hk : Alike σ V k k') (hv : Alike σ V v v') (hm : MapAlike σ V m m') :
    MapAlike σ V (Entries.insert k v m) (Entries.insert k' v' m') := by
  refine ⟨?_, Stable.insert hk.2.1 hv.2.1 hm.2.1, Stable.insert hk.2.2 hv.2.2 hm.2.2⟩
  rw [rebind_map, rebind_map, ← insert_rebind, hk.1, hv.1, hm.entries.1, insert_rebind]

/-- Several entries, one after the other. -/
theorem insertAll {new new' : List (Value × Value)} (hn : Entries.Alike σ V new new')
    (hm : MapAlike σ V m m') : MapAlike σ V (Entries.insertAll m new) (Entries.insertAll m' new') := by
  refine ⟨?_, Stable.insertAll hn.2.1 hm.2.1, Stable.insertAll hn.2.2 hm.2.2⟩
  rw [rebind_map, rebind_map, ← insertAll_rebind, hn.1, hm.entries.1, insertAll_rebind]

/-- Without the entry at a key. -/
theorem erase (hk : Alike σ V k k') (hm : MapAlike σ V m m') :
    MapAlike σ V (Entries.erase k m) (Entries.erase k' m') := by
  refine ⟨?_, Stable.erase k hm.2.1, Stable.erase k' hm.2.2⟩
  rw [rebind_map, rebind_map, ← erase_rebind, hk.1, hm.entries.1, erase_rebind]

/-- The spelling of a key that is used by maps that are alike. -/
theorem resolve (hm : MapAlike σ V m m') (hk : Alike σ V k k') :
    Alike σ V (Entries.resolve m k) (Entries.resolve m' k') := by
  refine ⟨?_, Stable.resolve m hk.2.1, Stable.resolve m' hk.2.2⟩
  rw [← resolve_rebind, hk.1, hm.entries.1, resolve_rebind]

end Value.Alike

/-! ## Values that are the same -/

/-- If no bindings are changed, only the same values are alike. -/
@[simp] theorem Value.alike_keep {v w : Value} : Value.Alike Env.keep V v w ↔ v = w ∧ V v := by
  simp only [Value.Alike, Value.rebind_keep]
  constructor
  · rintro ⟨rfl, hv, -⟩
    exact ⟨rfl, hv⟩
  · rintro ⟨rfl, hv⟩
    exact ⟨rfl, hv, hv⟩

/-- If no bindings are changed, values that are alike are the same. -/
@[simp] theorem Value.allAlike_keep {vs ws : List Value} :
    Value.AllAlike Env.keep V vs ws ↔ vs = ws ∧ ∀ v ∈ vs, V v := by
  simp only [Value.AllAlike, funext Value.rebind_keep, List.map_id']
  constructor
  · rintro ⟨rfl, hv, -⟩
    exact ⟨rfl, hv⟩
  · rintro ⟨rfl, hv⟩
    exact ⟨rfl, hv, hv⟩

@[simp] theorem Entries.alike_keep {m m' : List (Value × Value)} :
    Entries.Alike Env.keep V m m' ↔ m = m' ∧ Entries.Each V m := by
  simp only [Entries.Alike, Entries.rebind, ← Value.rebindPairs_eq_map, Value.rebindPairs_keep]
  constructor
  · rintro ⟨rfl, hm, -⟩
    exact ⟨rfl, hm⟩
  · rintro ⟨rfl, hm⟩
    exact ⟨rfl, hm, hm⟩

end ToolLisp
