import ToolLisp.Value.Env
import ToolLisp.Value.Entries

/-!
# Stable properties of values

A property of values is stable if it holds of all values without parts, passes from a value to its parts
and back, and is kept by the operations on maps. The operations on entries, bindings and parts of values
only move values around, so what they return has a stable property if what they are given has it.

Nothing is asked of the functions that a program makes. Which of them have the property is left to the
property.
-/

namespace ToolLisp

/-- A property of values that operations on values keep. -/
class Value.Stable (V : Value → Prop) : Prop where
  /-- The value `nil`. -/
  nil : V .nil
  /-- A truth value. -/
  bool (b : Bool) : V (.bool b)
  /-- A number. -/
  number (n : Number) : V (.number n)
  /-- A string. -/
  string (s : String) : V (.string s)
  /-- A keyword. -/
  keyword (name : String) : V (.keyword name)
  /-- A builtin function. -/
  builtin (f : Builtin) : V (.builtin f)
  /-- A tool. -/
  tool (name : String) : V (.tool name)
  /-- A vector has the property of its items. -/
  vector_iff {items : List Value} : V (.vector items) ↔ ∀ v ∈ items, V v
  /-- A row predicate has the property of its operand. -/
  rowTest {stamp : Nat} {path : List Literal} {op : RowOp} {operand : Value} :
    V operand → V (.rowTest stamp path op operand)
  /-- A combination of row predicates has the property of these. -/
  combined_iff {stamp : Nat} {c : Combinator} {tests : List Value} :
    V (.combined stamp c tests) ↔ ∀ f ∈ tests, V f
  /-- The map without entries. -/
  empty : V (.map [])
  /-- The entries of a map. -/
  entries {m : Entries} : V (.map m) → ∀ e ∈ m, V e.1 ∧ V e.2
  /-- A map in which a value is set. -/
  insert {k v : Value} {m : Entries} : V k → V v → V (.map m) → V (.map (Entries.insert k v m))
  /-- A map from which a key is removed. -/
  erase {m : Entries} (k : Value) : V (.map m) → V (.map (Entries.erase k m))

instance : Value.Stable fun _ => True where
  nil := trivial
  bool _ := trivial
  number _ := trivial
  string _ := trivial
  keyword _ := trivial
  builtin _ := trivial
  tool _ := trivial
  vector_iff := ⟨fun _ _ _ => trivial, fun _ => trivial⟩
  rowTest _ := trivial
  combined_iff := ⟨fun _ _ _ => trivial, fun _ => trivial⟩
  empty := trivial
  entries _ _ _ := ⟨trivial, trivial⟩
  insert _ _ _ := trivial
  erase _ _ := trivial

/-- `V` holds of the keys and values in a list. -/
def Entries.Each (V : Value → Prop) (m : List (Value × Value)) : Prop :=
  ∀ e ∈ m, V e.1 ∧ V e.2

/-- `V` holds of everything that is bound. -/
def Env.Each (V : Value → Prop) (env : Env) : Prop :=
  ∀ b ∈ env, V b.2

variable {V : Value → Prop}

/-! ## Entries -/

namespace Entries

theorem Each.nil : Each V [] :=
  fun _ h => by cases h

/-- What is found in a map is one of its values. -/
theorem Each.get? {m : Entries} (hm : Each V m) (k : Value) : ∀ v ∈ Entries.get? m k, V v := by
  intro v hv
  simp only [Entries.get?, Option.mem_def, Option.map_eq_some_iff] at hv
  obtain ⟨e, he, rfl⟩ := hv
  exact (hm e (List.mem_of_find?_eq_some he)).2

/-- What is found in either spelling is one of the values. -/
theorem Each.find? {m : Entries} (hm : Each V m) (k : Value) : ∀ v ∈ Entries.find? m k, V v := by
  intro v hv
  unfold Entries.find? at hv
  split at hv
  · next w hw => exact hm.get? k v (by rw [hw]; exact hv)
  · simp only [Option.mem_def, Option.bind_eq_some_iff] at hv
    obtain ⟨l, _, hl⟩ := hv
    exact hm.get? l v hl

/-- One more entry, whose key and value have the property. -/
theorem Each.insert {k v : Value} (hk : V k) (hv : V v) {m : Entries} (hm : Each V m) :
    Each V (Entries.insert k v m) := by
  induction m with
  | nil =>
    intro e he
    rw [Entries.insert, List.mem_singleton] at he
    rw [he]
    exact ⟨hk, hv⟩
  | cons e rest ih =>
    have hrest : Each V rest := fun e he => hm e (List.mem_cons_of_mem _ he)
    unfold Entries.insert
    split
    · refine List.forall_mem_cons.2 ⟨⟨hk, hv⟩, List.forall_mem_cons.2 ⟨hm e List.mem_cons_self, ?_⟩⟩
      exact fun e' he' => hrest e' (List.mem_filter.1 he').1
    · exact List.forall_mem_cons.2 ⟨⟨hk, hv⟩, hrest⟩
    · exact List.forall_mem_cons.2 ⟨hm e List.mem_cons_self, ih hrest⟩

/-- What is left of a map was there before. -/
theorem Each.erase {m : Entries} (hm : Each V m) (k : Value) : Each V (Entries.erase k m) :=
  fun e he => hm e (List.mem_filter.1 he).1

end Entries

/-! ## Values -/

namespace Value.Stable

/-- What is found, or what stands in for it, has the property. -/
theorem getD {o : Option Value} {d : Value} (ho : ∀ v ∈ o, V v) (hd : V d) : V (o.getD d) := by
  cases o with
  | none => exact hd
  | some v => exact ho v rfl

variable [Stable V]

theorem vector {items : List Value} (h : ∀ v ∈ items, V v) : V (.vector items) :=
  vector_iff.2 h

theorem items {items : List Value} (h : V (.vector items)) : ∀ v ∈ items, V v :=
  vector_iff.1 h

/-- A literal holds no other values. -/
theorem literal (l : Literal) : V l.value := by
  cases l with
  | nil => exact nil
  | bool b => exact bool b
  | number n => exact number n
  | string s => exact string s
  | keyword name => exact keyword name
  | emptyVector => exact vector fun _ h => by cases h

/-- Several entries are put in one after the other. -/
theorem insertAll {new : List (Value × Value)} (hn : Entries.Each V new) :
    ∀ {m : Entries}, V (.map m) → V (.map (Entries.insertAll m new)) := by
  unfold Entries.insertAll
  induction new with
  | nil => exact fun hm => hm
  | cons e rest ih =>
    intro m hm
    have he := hn e List.mem_cons_self
    exact ih (fun e he => hn e (List.mem_cons_of_mem _ he)) (insert he.1 he.2 hm)

theorem ofList {entries : List (Value × Value)} (h : Entries.Each V entries) :
    V (.map (Entries.ofList entries)) :=
  insertAll h empty

/-- A key in the spelling that a map uses is a name if it is not the given one. -/
theorem resolve (m : Entries) {k : Value} (hk : V k) : V (Entries.resolve m k) := by
  have hother : ∀ l ∈ Entries.otherSpelling? k, V l := by
    intro l hl
    cases k with
    | keyword name => cases hl; exact string name
    | string s =>
      simp only [Entries.otherSpelling?, Option.mem_def] at hl
      split at hl
      · cases hl
      · cases hl; exact keyword s
    | _ => cases hl
  unfold Entries.resolve
  split
  · exact hk
  · split
    · next l hl =>
      split
      · exact hother l hl
      · exact hk
    · exact hk

/-- The part of a value at a key. -/
theorem get? {v : Value} (hv : V v) (k : Value) : ∀ w ∈ v.get? k, V w := by
  intro w hw
  unfold Value.get? at hw
  split at hw
  · exact Entries.Each.find? (entries hv) k w hw
  · simp only [Option.mem_def, Option.bind_eq_some_iff] at hw
    obtain ⟨i, _, hi⟩ := hw
    exact items hv w (List.mem_of_getElem? hi)
  · cases hw

/-- The part at the end of a path. By induction on the path. -/
theorem getIn? {path : List Value} : ∀ {v : Value}, V v → ∀ w ∈ v.getIn? path, V w := by
  induction path with
  | nil =>
    intro v hv w hw
    cases hw
    exact hv
  | cons k path ih =>
    intro v hv w hw
    unfold Value.getIn? at hw
    split at hw
    · next u hu => exact ih (get? hv k u hu) w hw
    · cases hw

end Value.Stable

/-! ## Bindings -/

/-- A name is bound to a value with the property. -/
theorem Env.Each.lookup? {env : Env} (h : Env.Each V env) (name : String) :
    ∀ v ∈ Env.lookup? env name, V v := by
  intro v hv
  simp only [Env.lookup?, Option.mem_def, Option.map_eq_some_iff] at hv
  obtain ⟨b, hb, rfl⟩ := hv
  exact h b (List.mem_of_find?_eq_some hb)

theorem Env.Each.bind {env : Env} (h : Env.Each V env) (name : String) {v : Value} (hv : V v) :
    Env.Each V (Env.bind env name v) :=
  List.forall_mem_cons.2 ⟨hv, h⟩

/-- The bindings at the start are those of builtin functions. -/
theorem Env.each_initial [Value.Stable V] : Env.Each V Env.initial := by
  intro b hb
  obtain ⟨f, _, rfl⟩ := List.mem_map.1 hb
  exact Value.Stable.builtin f

/-- One more definition. -/
theorem NameMap.each_insert {name : String} {v : Value} (hv : V v) {m : NameMap Value}
    (hm : Env.Each V m) : Env.Each V (NameMap.insert name v m) := by
  induction m with
  | nil =>
    intro e he
    rw [NameMap.insert, List.mem_singleton] at he
    rw [he]
    exact hv
  | cons e rest ih =>
    have hrest : Env.Each V rest := fun e he => hm e (List.mem_cons_of_mem _ he)
    unfold NameMap.insert
    split
    · exact List.forall_mem_cons.2 ⟨hv, hm⟩
    · exact List.forall_mem_cons.2 ⟨hv, hrest⟩
    · exact List.forall_mem_cons.2 ⟨hm e List.mem_cons_self, ih hrest⟩

end ToolLisp
