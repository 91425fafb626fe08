import ToolLisp.Proofs.NumberOrder
import ToolLisp.Value.Entries

/-!
# The order of values

The order of values is a total order of those that hold no NaN with the sign bit set, and values without
functions that a program made are the same if it does not tell them apart (`compare_is_total_order`).
Functions that a program made are told apart by their stamps only.

A value is compared by its head, which is its type and what it holds besides other values, and then by
its parts (`compare_eq_parts`). The laws of the order are shown for three values at a time, because the
laws of a comparison in two steps follow from those of the steps (`Lawful.andThen`). The induction is on
the first of the three values, whose parts are smaller.
-/

namespace ToolLisp

open Std (LawfulEqCmp OrientedCmp ReflCmp TransCmp)

/-- What has been decided stays so. -/
theorem then_of_ne {o : Ordering} (h : o ≠ .eq) (o' : Ordering) : o.then o' = o := by
  cases o with
  | eq => exact absurd rfl h
  | lt => rfl
  | gt => rfl

namespace Builtin

/-! ## Names of builtin functions -/

theorem mem_all (f : Builtin) : f ∈ all := by
  unfold all
  simp only [List.mem_append, List.mem_map]
  cases f with
  | number f =>
    have hf : f ∈ NumberFn.all := by cases f <;> decide +kernel
    exact Or.inl (Or.inl (Or.inl (Or.inl ⟨f, hf, rfl⟩)))
  | test f =>
    have hf : f ∈ TestFn.all := by cases f <;> decide +kernel
    exact Or.inl (Or.inl (Or.inl (Or.inr ⟨f, hf, rfl⟩)))
  | sequence f =>
    have hf : f ∈ SequenceFn.all := by cases f <;> decide +kernel
    exact Or.inl (Or.inl (Or.inr ⟨f, hf, rfl⟩))
  | map f =>
    have hf : f ∈ MapFn.all := by cases f <;> decide +kernel
    exact Or.inl (Or.inr ⟨f, hf, rfl⟩)
  | text f =>
    have hf : f ∈ TextFn.all := by cases f <;> decide +kernel
    exact Or.inr ⟨f, hf, rfl⟩

/-- A builtin function is found by its name. -/
theorem named?_name (f : Builtin) : named? f.name = some f := by
  have h : (all.all fun f => named? f.name == some f) = true := by decide +kernel
  exact beq_iff_eq.1 (List.all_eq_true.1 h f (mem_all f))

theorem name_injective {f g : Builtin} (h : f.name = g.name) : f = g := by
  have hf := named?_name f
  rw [h, named?_name g] at hf
  exact (Option.some.inj hf).symm

end Builtin

/-- The keys and the values of a map, one after the other. -/
def Entries.flatten (m : Entries) : List Value :=
  m.flatMap fun e => [e.1, e.2]

namespace Value

/-! ## Heads and parts -/

/-- What a value holds besides other values. Where a value holds nothing of a kind, there stands the same
for all such values. -/
@[ext] structure Head where
  /-- The place of the value's type among the types. -/
  rank : Nat
  /-- The truth value. -/
  truth : Bool
  /-- The number. -/
  number : Number
  /-- The name or the string. -/
  name : String
  /-- The stamp of a function. -/
  stamp : Nat

/-- The order of heads. -/
def Head.compare : Head → Head → Ordering :=
  compareLex (compareOn rank) <| compareLex (compareOn truth) <|
    compareLex (fun a b => a.number.totalCompare b.number) <|
      compareLex (compareOn name) (compareOn stamp)

/-- The laws of the order of heads, which are those of the order of numbers. -/
theorem Head.compare_lawful (a b c : Head) :
    Lawful (a.number.Regular ∧ b.number.Regular ∧ c.number.Regular) (a.compare b) (b.compare a)
      (b.compare c) (a.compare c) :=
  (Lawful.of_transCmp (compareOn rank) a b c).andThen <|
    (Lawful.of_transCmp (compareOn truth) a b c).andThen <|
      (Number.totalCompare_lawful a.number b.number c.number).andThen <|
        (Lawful.of_transCmp (compareOn name) a b c).andThen <|
          Lawful.of_transCmp (compareOn stamp) a b c

/-- The head of a value. -/
def head : Value → Head
  | .bool b => ⟨1, b, .int 0, "", 0⟩
  | .number n => ⟨2, false, n, "", 0⟩
  | .keyword name => ⟨3, false, .int 0, name, 0⟩
  | .string s => ⟨4, false, .int 0, s, 0⟩
  | .builtin f => ⟨8, false, .int 0, f.name, 0⟩
  | .tool name => ⟨9, false, .int 0, name, 0⟩
  | v => ⟨v.rank, false, .int 0, "", v.stamp⟩

/-- The parts of a value: the items of a vector, or the keys and values of a map. -/
def parts : Value → List Value
  | .vector items => items
  | .map entries => Entries.flatten entries
  | _ => []

theorem head_rank (v : Value) : v.head.rank = v.rank := by
  cases v <;> rfl

theorem sizeOf_lt_of_mem_parts {p v : Value} (h : p ∈ v.parts) : sizeOf p < sizeOf v := by
  cases v with
  | vector items =>
    have : sizeOf p < sizeOf items := List.sizeOf_lt_of_mem h
    simp only [vector.sizeOf_spec]
    omega
  | map entries =>
    obtain ⟨⟨k, w⟩, he, hp⟩ := List.mem_flatMap.1 h
    have := List.sizeOf_lt_of_mem he
    simp only [List.mem_cons, List.not_mem_nil, or_false] at hp
    simp only [map.sizeOf_spec, Prod.mk.sizeOf_spec] at this ⊢
    rcases hp with rfl | rfl <;> omega
  | _ => cases h

theorem compareEntries_eq (m m' : Entries) :
    compareEntries m m' = compareAll m.flatten m'.flatten := by
  induction m generalizing m' with
  | nil => cases m' <;> rfl
  | cons e rest ih =>
    cases m' with
    | nil => rfl
    | cons e' rest' =>
      simp only [compareEntries, ih]
      rfl

/-- Values of two types are ordered by their types. -/
theorem compare_of_rank_ne {a b : Value} (h : a.rank ≠ b.rank) :
    a.compare b = Ord.compare a.rank b.rank := by
  have hne : Ord.compare a.rank b.rank ≠ .eq := fun heq => h (LawfulEqCmp.eq_of_compare heq)
  unfold compare
  split
  case h_9 => exact then_of_ne hne _
  all_goals exact absurd rfl h

theorem Head.compare_of_rank_ne {a b : Head} (h : a.rank ≠ b.rank) :
    a.compare b = Ord.compare a.rank b.rank :=
  then_of_ne (fun heq => h (LawfulEqCmp.eq_of_compare heq)) _

/-- A value is compared by its head and then by its parts. -/
theorem compare_eq_parts (a b : Value) :
    a.compare b = (a.head.compare b.head).then (compareAll a.parts b.parts) := by
  by_cases h : a.rank = b.rank
  · have hzero : (Number.int 0).totalCompare (.int 0) = .eq := by decide
    cases a <;> cases b <;> cases h <;>
      simp [compare, head, parts, compareAll, compareEntries_eq, rank, stamp, Head.compare,
        compareLex, compareOn, hzero]
  · have hne : Ord.compare a.rank b.rank ≠ .eq := fun heq => h (LawfulEqCmp.eq_of_compare heq)
    rw [compare_of_rank_ne h, Head.compare_of_rank_ne (by rwa [head_rank, head_rank]), head_rank,
      head_rank, then_of_ne hne]

/-! ## The order -/

/-- The value holds no NaN with the sign bit set, at any depth. -/
inductive Regular : Value → Prop
  | intro {v : Value} : v.head.number.Regular → (∀ p ∈ v.parts, Regular p) → Regular v

theorem Regular.number {v : Value} (h : v.Regular) : v.head.number.Regular := by
  cases h with
  | intro h _ => exact h

theorem Regular.part {v p : Value} (h : v.Regular) (hp : p ∈ v.parts) : p.Regular := by
  cases h with
  | intro _ h => exact h p hp

theorem regular_of_parts_eq_nil {v : Value} (h : v.head.number.Regular) (hv : v.parts = []) : v.Regular := by
  refine .intro h fun p hp => ?_
  rw [hv] at hp
  cases hp

@[simp] theorem regular_number {n : Number} : (number n).Regular ↔ n.Regular :=
  ⟨fun h => h.number, fun h => regular_of_parts_eq_nil h rfl⟩

@[simp] theorem regular_ofNat (n : Nat) : (ofNat n).Regular :=
  regular_number.2 (Number.regular_int _)

@[simp] theorem regular_nil : nil.Regular :=
  regular_of_parts_eq_nil (Number.regular_int 0) rfl

@[simp] theorem regular_keyword (name : String) : (keyword name).Regular :=
  regular_of_parts_eq_nil (Number.regular_int 0) rfl

@[simp] theorem regular_string (s : String) : (string s).Regular :=
  regular_of_parts_eq_nil (Number.regular_int 0) rfl

@[simp] theorem regular_vector {items : List Value} : (vector items).Regular ↔ ∀ v ∈ items, v.Regular :=
  ⟨fun h _ hv => h.part hv, fun h => .intro (Number.regular_int 0) h⟩

/-- The laws of the order of lists, if they hold of the items of the first list. -/
theorem compareAll_lawful {as : List Value} (h : ∀ a ∈ as, ∀ b c : Value,
    Lawful (a.Regular ∧ b.Regular ∧ c.Regular) (a.compare b) (b.compare a) (b.compare c) (a.compare c))
    (bs cs : List Value) :
    Lawful ((∀ a ∈ as, a.Regular) ∧ (∀ b ∈ bs, b.Regular) ∧ ∀ c ∈ cs, c.Regular)
      (compareAll as bs) (compareAll bs as) (compareAll bs cs) (compareAll as cs) := by
  induction as generalizing bs cs with
  | nil =>
    cases bs with
    | nil => exact ⟨rfl, fun _ => rfl, fun h => h, fun _ h => h.symm⟩
    | cons b bs =>
      cases cs with
      | nil => exact ⟨rfl, nofun, nofun, nofun⟩
      | cons c cs => exact ⟨rfl, nofun, fun _ => rfl, fun _ _ => rfl⟩
  | cons a as ih =>
    have ih := ih fun a ha => h a (List.mem_cons_of_mem _ ha)
    have ha := h a List.mem_cons_self
    cases bs with
    | nil =>
      cases cs with
      | nil => exact ⟨rfl, nofun, fun _ => rfl, nofun⟩
      | cons c cs => exact ⟨rfl, nofun, nofun, nofun⟩
    | cons b bs =>
      cases cs with
      | nil =>
        have hswap := (((ha b b).mono (q := False) nofun).andThen ((ih bs bs).mono nofun)).swap
        exact ⟨hswap, fun _ => rfl, nofun, fun _ h => h.symm⟩
      | cons c cs =>
        refine ((ha b c).mono ?_).andThen ((ih bs cs).mono ?_)
        · rintro ⟨has, hbs, hcs⟩
          exact ⟨has a List.mem_cons_self, hbs b List.mem_cons_self, hcs c List.mem_cons_self⟩
        · rintro ⟨has, hbs, hcs⟩
          exact ⟨fun a ha => has a (List.mem_cons_of_mem _ ha), fun b hb => hbs b (List.mem_cons_of_mem _ hb),
            fun c hc => hcs c (List.mem_cons_of_mem _ hc)⟩

/-- The laws of the order of values, by induction on the first of them. -/
theorem compare_lawful (a b c : Value) :
    Lawful (a.Regular ∧ b.Regular ∧ c.Regular) (a.compare b) (b.compare a) (b.compare c) (a.compare c) := by
  rw [compare_eq_parts a b, compare_eq_parts b a, compare_eq_parts b c, compare_eq_parts a c]
  have hparts := @compareAll_lawful a.parts (fun p hp b c => compare_lawful p b c) b.parts c.parts
  refine ((Head.compare_lawful _ _ _).mono ?_).andThen (hparts.mono ?_)
  · rintro ⟨ha, hb, hc⟩
    exact ⟨ha.number, hb.number, hc.number⟩
  · rintro ⟨ha, hb, hc⟩
    exact ⟨fun _ => ha.part, fun _ => hb.part, fun _ => hc.part⟩
termination_by sizeOf a
decreasing_by exact sizeOf_lt_of_mem_parts hp

instance : OrientedCmp Value.compare where
  eq_swap {a b} := (compare_lawful b a a).swap

/-- Values that are not told apart compare alike with a third one. -/
theorem compare_congr_left {a b : Value} (h : a.compare b = .eq) (c : Value) :
    a.compare c = b.compare c :=
  (compare_lawful a b c).eq_left h

theorem compare_congr_right {a b : Value} (h : a.compare b = .eq) (c : Value) :
    c.compare a = c.compare b :=
  ((compare_lawful c a b).eq_right h).symm

/-- Not to be told apart is transitive, whatever the values hold. -/
theorem compare_eq_trans {a b c : Value} (hab : a.compare b = .eq) (hbc : b.compare c = .eq) :
    a.compare c = .eq := by
  rw [compare_congr_left hab]
  exact hbc

/-- The order is transitive on the values without NaN that has the sign bit set. -/
theorem Regular.lt_trans {a b c : Value} (ha : a.Regular) (hb : b.Regular) (hc : c.Regular)
    (hab : a.compare b = .lt) (hbc : b.compare c = .lt) : a.compare c = .lt := by
  rw [(compare_lawful a b c).trans ⟨ha, hb, hc⟩ (hab.trans hbc.symm)]
  exact hab

end Value

namespace Entries

/-! ## Entries in order -/

/-- The entries of a map stand in the order of their keys, and no key stands there twice. -/
def Ordered (m : Entries) : Prop :=
  m.Pairwise fun e e' => e.1.compare e'.1 = .lt

instance (m : Entries) : Decidable m.Ordered :=
  inferInstanceAs (Decidable (m.Pairwise _))

/-- A key that comes after all others goes to the end. -/
theorem insert_eq_append {k v : Value} {m : Entries} (h : ∀ e ∈ m, e.1.compare k = .lt) :
    insert k v m = m ++ [(k, v)] := by
  induction m with
  | nil => rfl
  | cons e rest ih =>
    have hgt : k.compare e.1 = .gt := OrientedCmp.gt_of_lt (h e List.mem_cons_self)
    simp only [insert, hgt, ih fun e he => h e (List.mem_cons_of_mem _ he), List.cons_append]

theorem insertAll_eq_append {new : List (Value × Value)} :
    ∀ {m : Entries}, Ordered (m ++ new) → insertAll m new = m ++ new := by
  induction new with
  | nil =>
    intro m _
    rw [List.append_nil]
    rfl
  | cons e new ih =>
    intro m h
    have hlast : insert e.1 e.2 m = m ++ [e] :=
      insert_eq_append fun e' he' => (List.pairwise_append.1 h).2.2 e' he' e List.mem_cons_self
    have hnew : m ++ e :: new = (m ++ [e]) ++ new := by rw [List.append_assoc, List.singleton_append]
    rw [hnew] at h ⊢
    rw [← ih h, ← hlast]
    rfl

/-- Entries that are in order already make up their map. -/
theorem Ordered.ofList_eq {m : Entries} (h : m.Ordered) : ofList m = m :=
  insertAll_eq_append h

theorem mem_insert {k v : Value} {m : Entries} {e : Value × Value} (h : e ∈ insert k v m) :
    e = (k, v) ∨ e ∈ m := by
  induction m with
  | nil => exact Or.inl (List.mem_singleton.1 h)
  | cons e' rest ih =>
    rw [insert] at h
    split at h
    case h_1 =>
      rcases List.mem_cons.1 h with h | h
      · exact Or.inl h
      · exact Or.inr (List.cons_subset_cons _ List.filter_sublist.subset h)
    case h_2 =>
      rcases List.mem_cons.1 h with h | h
      · exact Or.inl h
      · exact Or.inr (List.mem_cons_of_mem _ h)
    case h_3 =>
      rcases List.mem_cons.1 h with rfl | h
      · exact Or.inr List.mem_cons_self
      · exact (ih h).imp_right (List.mem_cons_of_mem _)

/-- Setting a value keeps the entries in order, if no key holds NaN with the sign bit set. -/
theorem Ordered.insert {k v : Value} {m : Entries} (h : m.Ordered) (hk : k.Regular)
    (hm : ∀ e ∈ m, e.1.Regular) : (insert k v m).Ordered := by
  induction m with
  | nil => exact List.pairwise_singleton ..
  | cons e rest ih =>
    obtain ⟨hfirst, hrest⟩ := List.pairwise_cons.1 h
    obtain ⟨he, hm⟩ := List.forall_mem_cons.1 hm
    rw [Entries.insert]
    split
    case h_1 hlt =>
      have hsub : (e :: erase k rest).Sublist (e :: rest) := List.filter_sublist.cons_cons e
      refine List.pairwise_cons.2 ⟨?_, h.sublist hsub⟩
      intro e' he'
      rcases List.mem_cons.1 (hsub.subset he') with rfl | he'
      · exact hlt
      · exact hk.lt_trans he (hm e' he') hlt (hfirst e' he')
    case h_2 heq =>
      refine List.pairwise_cons.2 ⟨?_, hrest⟩
      intro e' he'
      rw [Value.compare_congr_left heq]
      exact hfirst e' he'
    case h_3 hgt =>
      refine List.pairwise_cons.2 ⟨?_, ih hrest hm⟩
      intro e' he'
      rcases mem_insert he' with rfl | he'
      · exact OrientedCmp.lt_of_gt hgt
      · exact hfirst e' he'

theorem mem_insertAll {entries : List (Value × Value)} :
    ∀ {m : Entries} {e : Value × Value}, e ∈ insertAll m entries → e ∈ m ∨ e ∈ entries := by
  induction entries with
  | nil => exact fun he => Or.inl he
  | cons new rest ih =>
    intro m e he
    rcases ih he with he | he
    · rcases mem_insert he with rfl | he
      · exact Or.inr List.mem_cons_self
      · exact Or.inl he
    · exact Or.inr (List.mem_cons_of_mem _ he)

/-- The entries of a map are among those that it is built of. -/
theorem mem_of_mem_ofList {entries : List (Value × Value)} {e : Value × Value} (h : e ∈ ofList entries) :
    e ∈ entries := by
  rcases mem_insertAll h with h | h
  · cases h
  · exact h

theorem Ordered.insertAll {entries : List (Value × Value)} (h : ∀ e ∈ entries, e.1.Regular) :
    ∀ {m : Entries}, m.Ordered → (∀ e ∈ m, e.1.Regular) → (insertAll m entries).Ordered := by
  induction entries with
  | nil => exact fun hm _ => hm
  | cons new rest ih =>
    intro m hm hkeys
    obtain ⟨hnew, hrest⟩ := List.forall_mem_cons.1 h
    refine ih hrest (hm.insert hnew hkeys) fun e he => ?_
    rcases mem_insert he with rfl | he
    · exact hnew
    · exact hkeys e he

/-- The entries of every map that is built are in order, if no key holds NaN with the sign bit set. -/
theorem ofList_ordered {entries : List (Value × Value)} (h : ∀ e ∈ entries, e.1.Regular) :
    (ofList entries).Ordered :=
  Ordered.insertAll h List.Pairwise.nil nofun

end Entries

namespace Value

/-! ## Values that are the same -/

/-- Whether a value is a function that a program made. -/
def isClosure (v : Value) : Bool :=
  v.rank == 7

/-- Neither the value nor any part of it is a function that a program made. -/
inductive ClosureFree : Value → Prop
  | intro {v : Value} : v.isClosure = false → (∀ p ∈ v.parts, ClosureFree p) → ClosureFree v

theorem compareAll_eq {as bs : List Value} (h : ∀ a ∈ as, ∀ b ∈ bs, a.compare b = .eq → a = b)
    (heq : compareAll as bs = .eq) : as = bs := by
  induction as generalizing bs with
  | nil =>
    cases bs with
    | nil => rfl
    | cons b bs => cases heq
  | cons a as ih =>
    cases bs with
    | nil => cases heq
    | cons b bs =>
      obtain ⟨ha, has⟩ := Ordering.then_eq_eq.1 heq
      rw [h a List.mem_cons_self b List.mem_cons_self ha, ih ?_ has]
      intro a ha b hb
      exact h a (List.mem_cons_of_mem _ ha) b (List.mem_cons_of_mem _ hb)

theorem flatten_injective {m m' : Entries} (h : m.flatten = m'.flatten) : m = m' := by
  induction m generalizing m' with
  | nil =>
    cases m' with
    | nil => rfl
    | cons e' rest' => cases h
  | cons e rest ih =>
    cases m' with
    | nil => cases h
    | cons e' rest' =>
      obtain ⟨hk, h⟩ := List.cons.inj h
      obtain ⟨hv, h⟩ := List.cons.inj h
      rw [Prod.ext hk hv, ih h]

theorem Head.eq_of_compare {a b : Head} (h : a.compare b = .eq) : a = b := by
  simp only [Head.compare, compareLex_eq_eq] at h
  obtain ⟨hrank, htruth, hnumber, hname, hstamp⟩ := h
  have hrank : a.rank = b.rank := Std.compare_eq_iff_eq.1 hrank
  have htruth : a.truth = b.truth := Std.compare_eq_iff_eq.1 htruth
  have hnumber : a.number = b.number := LawfulEqCmp.eq_of_compare hnumber
  have hname : a.name = b.name := Std.compare_eq_iff_eq.1 hname
  have hstamp : a.stamp = b.stamp := Std.compare_eq_iff_eq.1 hstamp
  exact Head.ext hrank htruth hnumber hname hstamp

/-- What is no function that a program made is given by its head and its parts. -/
theorem eq_of_head_of_parts {a b : Value} (ha : a.isClosure = false) (hhead : a.head = b.head)
    (hparts : a.parts = b.parts) : a = b := by
  have hrank : a.rank = b.rank := by rw [← head_rank, ← head_rank, hhead]
  cases a <;> cases b <;> cases hrank
  case nil.nil => rfl
  case vector.vector => exact congrArg vector hparts
  case map.map => rw [flatten_injective hparts]
  case builtin.builtin => rw [Builtin.name_injective (congrArg Head.name hhead)]
  case bool.bool | number.number | string.string | keyword.keyword | tool.tool =>
    cases hhead
    rfl
  -- what is left are functions
  all_goals cases ha

/-- Values that the order does not tell apart are the same, if no part of them is a function that a
program made. -/
theorem eq_of_compare {a b : Value} (ha : a.ClosureFree) (hb : b.ClosureFree)
    (h : a.compare b = .eq) : a = b := by
  induction ha generalizing b with
  | @intro a hclosure _ ih =>
    obtain ⟨-, hparts⟩ := hb
    rw [compare_eq_parts, Ordering.then_eq_eq] at h
    refine eq_of_head_of_parts hclosure (Head.eq_of_compare h.1) (compareAll_eq ?_ h.2)
    intro p hp q hq hpq
    exact ih p hp (hparts q hq) hpq

theorem closureFree_vector {items : List Value} :
    (vector items).ClosureFree ↔ ∀ v ∈ items, v.ClosureFree :=
  ⟨fun | .intro _ h => h, fun h => .intro rfl h⟩

theorem closureFree_of_parts_eq_nil {v : Value} (h : v.isClosure = false) (hv : v.parts = []) :
    v.ClosureFree := by
  refine .intro h fun p hp => ?_
  rw [hv] at hp
  cases hp

/-- The order of values is a total order. No value comes before itself, and two values compared the other
way round are in the opposite order. Two values that the order does not tell apart are the same, if they
hold no function that a program made. Of three values in order the first does not come after the last, if
they hold no NaN with the sign bit set. Integers and doubles of any size may be mixed, at any depth. -/
theorem compare_is_total_order :
    (∀ a : Value, a.compare a = .eq) ∧
    (∀ a b : Value, b.compare a = (a.compare b).swap) ∧
    (∀ a b : Value, a.ClosureFree → b.ClosureFree → a.compare b = .eq → a = b) ∧
    (∀ a b c : Value, a.Regular → b.Regular → c.Regular →
      a.compare b ≠ .gt → b.compare c ≠ .gt → a.compare c ≠ .gt) := by
  refine ⟨fun a => ReflCmp.compare_self, fun a b => OrientedCmp.eq_swap, fun a b => eq_of_compare, ?_⟩
  intro a b c ha hb hc hab hbc
  exact Ordering.isLE_iff_ne_gt.1 <|
    (compare_lawful a b c).isLE ⟨ha, hb, hc⟩ (Ordering.isLE_iff_ne_gt.2 hab) (Ordering.isLE_iff_ne_gt.2 hbc)

/-- An integer that no double is equal to, the double that it is rounded to, and NaN, in vectors; and two
integers that are rounded to the same double. -/
theorem compare_is_total_order_of_rounded_integers :
    ∃ a b c d : Value,
      a = .vector [.number (.int 9007199254740993)] ∧
      b = .vector [.number (.float (.ofInt 9007199254740993))] ∧
      c = .vector [.number (.float (.nan false))] ∧
      d = .vector [.number (.float (.ofInt 9007199254740992))] ∧
      ((a.Regular ∧ b.Regular ∧ c.Regular) ∧
        a.compare b ≠ .gt ∧ b.compare c ≠ .gt ∧ a.compare c ≠ .gt) ∧
      (b.ClosureFree ∧ d.ClosureFree ∧ b.compare d = .eq ∧ b = d) := by
  obtain ⟨-, -, hsame, htrans⟩ := compare_is_total_order
  have hfree (n : Number) : (Value.vector [.number n]).ClosureFree := by
    refine closureFree_vector.2 fun v hv => ?_
    rw [List.mem_singleton.1 hv]
    exact closureFree_of_parts_eq_nil rfl rfl
  have hregular {n : Number} (hn : n.Regular) : (Value.vector [.number n]).Regular := by
    simpa using hn
  have ha : (Value.vector [.number (.int 9007199254740993)]).Regular := hregular (by decide)
  have hb : (Value.vector [.number (.float (.ofInt 9007199254740993))]).Regular := hregular (by decide +kernel)
  have hc : (Value.vector [.number (.float (.nan false))]).Regular := hregular (by decide)
  refine ⟨_, _, _, _, rfl, rfl, rfl, rfl, ⟨⟨ha, hb, hc⟩, ?_⟩, ?_⟩
  · refine ⟨by decide +kernel, by decide +kernel, ?_⟩
    exact htrans _ _ _ ha hb hc (by decide +kernel) (by decide +kernel)
  · exact ⟨hfree _, hfree _, by decide +kernel, hsame _ _ (hfree _) (hfree _) (by decide +kernel)⟩

end Value

end ToolLisp
