import ToolLisp.Proofs.Soundness
import ToolLisp.Proofs.ValueOrder

/-!
# The keys of maps

No key occurs twice among the entries of a map (`Entries.Distinct`). `Value.KeysDistinct` says this of all
maps that a value holds, at any depth. It is a stable property, so programs keep it: if the host passes such
maps to a program, then the program gives such maps back. `Value.InOrder` says that the keys are also in order.
Programs keep that only as long as no key holds a NaN with the sign bit set.

Of entries with distinct keys it does not matter in which way they are written to a map. What is found at a
key afterwards is what they have there, or else what the map had (`Entries.get?_insertAll`).
-/

namespace ToolLisp

open Std (OrientedCmp ReflCmp)

/-! ## Keys that are the same -/

namespace Value

theorem same_iff {a b : Value} : a.same b = true ↔ a.compare b = .eq :=
  beq_iff_eq

theorem same_self (a : Value) : a.same a = true :=
  same_iff.2 ReflCmp.compare_self

/-- Keys that are the same are not told apart by a third one. -/
theorem same_congr {a b : Value} (h : a.compare b = .eq) (k : Value) : k.same a = k.same b :=
  congrArg (· == .eq) (compare_congr_right h k)

theorem same_comm (a b : Value) : a.same b = b.same a := by
  rw [Bool.eq_iff_iff, same_iff, same_iff]
  exact OrientedCmp.eq_comm

/-- A value without parts is the same as itself only, if it is no function that a program made. -/
theorem same_iff_eq {a : Value} (ha : a.isClosure = false) (hp : a.parts = []) {b : Value} :
    a.same b = true ↔ a = b := by
  refine ⟨fun h => ?_, fun h => h ▸ same_self a⟩
  rw [same_iff, compare_eq_parts, Ordering.then_eq_eq, hp] at h
  refine eq_of_head_of_parts ha (Head.eq_of_compare h.1) ?_
  cases hb : b.parts with
  | nil => exact hp
  | cons p ps =>
    rw [hb] at h
    cases h.2

theorem keyword_same_iff {name : String} {k : Value} :
    (keyword name).same k = true ↔ k = .keyword name :=
  (same_iff_eq rfl rfl).trans eq_comm

theorem string_same_iff {s : String} {k : Value} : (string s).same k = true ↔ k = .string s :=
  (same_iff_eq rfl rfl).trans eq_comm

end Value

/-! ## Entries with distinct keys -/

namespace Entries

/-- No key stands among the entries of a map twice. -/
def Distinct (m : Entries) : Prop :=
  m.Pairwise fun e e' => e.1.same e'.1 = false

instance (m : Entries) : Decidable m.Distinct :=
  inferInstanceAs (Decidable (m.Pairwise _))

theorem Ordered.distinct {m : Entries} (h : m.Ordered) : m.Distinct := by
  refine List.Pairwise.imp (fun {e e'} hlt => ?_) h
  rw [Value.same, hlt]
  rfl

theorem get?_cons (e : Value × Value) (m : Entries) (k : Value) :
    get? (e :: m) k = if k.same e.1 then some e.2 else get? m k := by
  unfold get?
  rw [List.find?_cons]
  cases k.same e.1 <;> rfl

/-- What is found at a key is the value of an entry at that key. -/
theorem mem_of_get? {m : Entries} {k v : Value} (h : get? m k = some v) :
    ∃ l, k.same l = true ∧ (l, v) ∈ m := by
  obtain ⟨e, he, rfl⟩ := Option.map_eq_some_iff.1 h
  have hk := List.find?_some he
  exact ⟨e.1, hk, List.mem_of_find?_eq_some he⟩

/-- What is found at a key without parts is the value of an entry with that very key, if the key is no
function that a program made. -/
theorem mem_of_get?_of_parts {m : Entries} {k v : Value} (hk : k.isClosure = false) (hp : k.parts = [])
    (h : get? m k = some v) : (k, v) ∈ m := by
  obtain ⟨l, hl, hmem⟩ := mem_of_get? h
  rwa [(Value.same_iff_eq hk hp).1 hl]

theorem get?_eq_none {m : Entries} {k : Value} (h : ∀ e ∈ m, k.same e.1 = false) :
    get? m k = none := by
  refine Option.map_eq_none_iff.2 (List.find?_eq_none.2 fun e he => ?_)
  rw [h e he]
  exact Bool.false_ne_true

/-- Removing a key changes what is found at that key, and nothing else. -/
theorem get?_erase (k : Value) (m : Entries) (l : Value) :
    get? (erase k m) l = if l.same k then none else get? m l := by
  induction m with
  | nil => exact (ite_self none).symm
  | cons e rest ih =>
    have hcons : erase k (e :: rest) = if k.same e.1 then erase k rest else e :: erase k rest := by
      unfold erase
      rw [List.filter_cons]
      cases k.same e.1 <;> rfl
    rw [hcons, get?_cons]
    by_cases hk : k.same e.1 = true
    · -- `l` is the same as the first key if it is the same as `k`
      have hl : l.same k = l.same e.1 := Value.same_congr (Value.same_iff.1 hk) l
      rw [if_pos hk, ih, ← hl]
      split <;> rfl
    · rw [if_neg hk, get?_cons, ih]
      by_cases hl : l.same k = true
      · have hle : l.same e.1 = k.same e.1 :=
          congrArg (· == .eq) (Value.compare_congr_left (Value.same_iff.1 hl) e.1)
        rw [hle, if_neg hk, if_pos hl, if_pos hl]
      · rw [if_neg hl, if_neg hl]

/-- Setting the value at a key changes what is found at that key, and nothing else. -/
theorem get?_insert (k v : Value) (m : Entries) (l : Value) :
    get? (insert k v m) l = if l.same k then some v else get? m l := by
  induction m with
  | nil => exact get?_cons (k, v) [] l
  | cons e rest ih =>
    rw [insert]
    cases hc : k.compare e.1 with
    | lt =>
      simp only [get?_cons, get?_erase]
      split <;> rfl
    | eq =>
      have hsame : l.same e.1 = l.same k := (Value.same_congr hc l).symm
      simp only [get?_cons, hsame]
      split <;> rfl
    | gt =>
      simp only [get?_cons, ih]
      split
      · next hl =>
        -- `l` is the same as the first key, which `k` is not
        have hk : ¬ l.same k = true := by
          intro hk
          have : k.compare e.1 = .eq := by
            rw [← Value.compare_congr_left (Value.same_iff.1 hk)]
            exact Value.same_iff.1 hl
          rw [hc] at this
          cases this
        rw [if_neg hk]
      · rfl

/-- The first one of distinct keys is not found behind it. -/
theorem Distinct.get?_tail {e : Value × Value} {m : Entries} (h : Distinct (e :: m)) {k : Value}
    (hk : k.same e.1 = true) : get? m k = none := by
  refine get?_eq_none fun e' he' => ?_
  rw [Value.same_comm, Value.same_congr (Value.same_iff.1 hk), Value.same_comm]
  exact (List.pairwise_cons.1 h).1 e' he'

/-- An entry is found at its key. -/
theorem Distinct.get?_of_mem {m : Entries} (h : m.Distinct) {k v : Value} (he : (k, v) ∈ m) :
    get? m k = some v := by
  induction m with
  | nil => cases he
  | cons e rest ih =>
    obtain ⟨hfirst, hrest⟩ := List.pairwise_cons.1 h
    rw [get?_cons]
    rcases List.mem_cons.1 he with rfl | he
    · exact if_pos (Value.same_self k)
    · have hk : ¬ k.same e.1 = true := by
        intro hk
        have hnone := h.get?_tail hk
        rw [ih hrest he] at hnone
        cases hnone
      rw [if_neg hk]
      exact ih hrest he

/-- Entries with distinct keys that are written to a map take the place of what it has at their keys. By
induction on the entries, of which the first is written first. -/
theorem get?_insertAll {new : Entries} (h : new.Distinct) (k : Value) :
    ∀ m, get? (insertAll m new) k = (get? new k).or (get? m k) := by
  induction new with
  | nil => exact fun _ => rfl
  | cons e rest ih =>
    intro m
    have hrest : get? (insertAll m (e :: rest)) k = _ :=
      ih (List.pairwise_cons.1 h).2 (insert e.1 e.2 m)
    rw [hrest, get?_insert, get?_cons]
    split
    · next hk => rw [h.get?_tail hk]; rfl
    · rfl

theorem Distinct.erase {m : Entries} (h : m.Distinct) (k : Value) : (erase k m).Distinct :=
  h.filter _

/-- Setting a value keeps the keys distinct, in whatever order they stand. -/
theorem Distinct.insert {k v : Value} {m : Entries} (h : m.Distinct) : (insert k v m).Distinct := by
  induction m with
  | nil => exact List.pairwise_singleton ..
  | cons e rest ih =>
    obtain ⟨hfirst, hrest⟩ := List.pairwise_cons.1 h
    rw [Entries.insert]
    split
    case h_1 hlt =>
      refine List.pairwise_cons.2 ⟨?_, h.sublist (List.filter_sublist.cons_cons e)⟩
      refine List.forall_mem_cons.2 ⟨?_, fun e' he' => ?_⟩
      · rw [Value.same, hlt]
        rfl
      · exact Bool.not_eq_true' _ ▸ (List.mem_filter.1 he').2
    case h_2 heq =>
      refine List.pairwise_cons.2 ⟨fun e' he' => ?_, hrest⟩
      rw [Value.same, Value.compare_congr_left heq]
      exact hfirst e' he'
    case h_3 hgt =>
      refine List.pairwise_cons.2 ⟨fun e' he' => ?_, ih hrest⟩
      rcases mem_insert he' with rfl | he'
      · rw [Value.same_comm, Value.same, hgt]
        rfl
      · exact hfirst e' he'

theorem Distinct.insertAll {entries : List (Value × Value)} :
    ∀ {m : Entries}, m.Distinct → (insertAll m entries).Distinct := by
  induction entries with
  | nil => exact fun hm => hm
  | cons e entries ih => exact fun hm => ih hm.insert

theorem ofList_distinct (entries : List (Value × Value)) : (ofList entries).Distinct :=
  Distinct.insertAll List.Pairwise.nil

end Entries

/-! ## Values in which all maps have distinct keys -/

namespace Value

/-- The values that a value holds. -/
def inside : Value → List Value
  | .closure _ _ _ env => env.map (·.2)
  | .rowTest _ _ _ operand => [operand]
  | .combined _ _ tests => tests
  | v => v.parts

/-- `P` holds of all maps in a value. -/
inductive EachMap (P : Entries → Prop) : Value → Prop
  | intro {v : Value} : (∀ m : Entries, v = .map m → P m) → (∀ w ∈ v.inside, EachMap P w) → EachMap P v

namespace EachMap

variable {P : Entries → Prop}

theorem held {v : Value} (h : v.EachMap P) : ∀ w ∈ v.inside, w.EachMap P := by
  cases h with
  | intro _ h => exact h

theorem entries {m : Entries} (h : (Value.map m).EachMap P) : P m := by
  cases h with
  | intro h _ => exact h m rfl

/-- A value that is no map. -/
theorem of_inside {v : Value} (hv : ∀ m, v ≠ .map m) (h : ∀ w ∈ v.inside, w.EachMap P) : v.EachMap P :=
  .intro (fun m hm => absurd hm (hv m)) h

/-- A value that holds no other values. -/
theorem of_inside_eq_nil {v : Value} (hv : ∀ m, v ≠ .map m) (h : v.inside = []) : v.EachMap P := by
  refine .of_inside hv fun w hw => ?_
  rw [h] at hw
  cases hw

end EachMap

/-- All maps in a value are in order. -/
abbrev InOrder : Value → Prop :=
  EachMap Entries.Ordered

/-- No map in a value has a key twice. -/
abbrev KeysDistinct : Value → Prop :=
  EachMap Entries.Distinct

theorem eachMap_map {P : Entries → Prop} {m : Entries} :
    (Value.map m).EachMap P ↔ P m ∧ Entries.Each (EachMap P) m := by
  have hinside {w : Value} : w ∈ (Value.map m).inside ↔ ∃ e ∈ m, w = e.1 ∨ w = e.2 := by
    simp [inside, parts, Entries.flatten]
  refine ⟨fun h => ⟨h.entries, fun e he => ⟨?_, ?_⟩⟩, fun h => .intro ?_ ?_⟩
  · exact h.held _ (hinside.2 ⟨e, he, .inl rfl⟩)
  · exact h.held _ (hinside.2 ⟨e, he, .inr rfl⟩)
  · intro m' hm'
    cases hm'
    exact h.1
  · intro w hw
    obtain ⟨e, he, rfl | rfl⟩ := hinside.1 hw
    · exact (h.2 e he).1
    · exact (h.2 e he).2

theorem eachMap_number {P : Entries → Prop} (n : Number) : (Value.number n).EachMap P :=
  .of_inside_eq_nil (by simp) rfl

theorem eachMap_vector {P : Entries → Prop} {items : List Value} :
    (Value.vector items).EachMap P ↔ ∀ v ∈ items, v.EachMap P :=
  ⟨EachMap.held, fun h => .of_inside (by simp) h⟩

instance : Stable KeysDistinct where
  nil := .of_inside_eq_nil (by simp) rfl
  bool _ := .of_inside_eq_nil (by simp) rfl
  number := eachMap_number
  string _ := .of_inside_eq_nil (by simp) rfl
  keyword _ := .of_inside_eq_nil (by simp) rfl
  builtin _ := .of_inside_eq_nil (by simp) rfl
  tool _ := .of_inside_eq_nil (by simp) rfl
  vector_iff := eachMap_vector
  rowTest h := .of_inside (by simp) fun w hw => List.mem_singleton.1 hw ▸ h
  combined_iff := ⟨EachMap.held, fun h => .of_inside (by simp) h⟩
  empty := eachMap_map.2 ⟨.nil, .nil⟩
  entries h := (eachMap_map.1 h).2
  insert hk hv h :=
    have ⟨hd, he⟩ := eachMap_map.1 h
    eachMap_map.2 ⟨hd.insert, he.insert hk hv⟩
  erase k h :=
    have ⟨hd, he⟩ := eachMap_map.1 h
    eachMap_map.2 ⟨hd.erase k, he.erase k⟩

theorem keysDistinct_closure {stamp : Nat} {params : List Pattern} {body : Expr} {env : Env} :
    (Value.closure stamp params body env).KeysDistinct ↔ Env.Each KeysDistinct env := by
  refine ⟨fun h b hb => h.held _ (List.mem_map.2 ⟨b, hb, rfl⟩), fun h => .of_inside ?_ fun w hw => ?_⟩
  · simp
  · obtain ⟨b, hb, rfl⟩ := List.mem_map.1 hw
    exact h b hb

/-- Of the expressions nothing has to be known. -/
theorem keysDistinct_kind : Kind KeysDistinct fun _ _ => True where
  part _ _ := trivial
  fn _ _ he := keysDistinct_closure.2 he
  captured := keysDistinct_closure.1
  enter _ := ⟨trivial, fun _ _ => trivial⟩

end Value

/-- Programs keep the keys of maps distinct. -/
theorem evaluate_keysDistinct {h : Host} (hh : h.Each Value.KeysDistinct) (program : Expr) {s : RunState}
    (hs : s.Each Value.KeysDistinct) :
    (evaluate h program .initial s).2.Each Value.KeysDistinct ∧
      ∀ e, (evaluate h program .initial s).1 = .ok e → e.value.KeysDistinct := by
  have hcall := EvalM.Sound.callAt (fun _ _ => True) Value.keysDistinct_kind (fun _ => trivial) (fun h => h)
    hh h.limits.recursion
  have hsim := EvalM.Sound.simulation (fun _ _ => True) Value.keysDistinct_kind (fun _ => trivial)
    (fun h => h) hh hcall
  exact (hsim.eval_sim program none .initial trivial Env.each_initial).evaluated hs

end ToolLisp
