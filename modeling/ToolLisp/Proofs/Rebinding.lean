import ToolLisp.Proofs.ValueOrder
import ToolLisp.Run.Eval

/-!
# Changing the bindings of functions

`Value.rebind σ` changes nothing in a value but the bindings that functions carry, which it changes by
`σ`. No operation on values looks at these bindings, so every operation commutes with it. This is said
as an equation for each of them: of the order and the equality of values, of their texts, and of the
operations on maps and parts of values.
-/

namespace ToolLisp

section

variable (σ : List Pattern → Expr → Env → Env)

mutual

/-- The value with the bindings of every function changed, the inner functions first. -/
def Value.rebind : Value → Value
  | .nil => .nil
  | .bool b => .bool b
  | .number n => .number n
  | .string s => .string s
  | .keyword name => .keyword name
  | .vector items => .vector (Value.rebindItems items)
  | .map entries => .map (Value.rebindPairs entries)
  | .closure stamp params body env => .closure stamp params body (σ params body (Value.rebindNamed env))
  | .rowTest stamp path op operand => .rowTest stamp path op (Value.rebind operand)
  | .combined stamp c tests => .combined stamp c (Value.rebindItems tests)
  | .builtin f => .builtin f
  | .tool name => .tool name

/-- The values with the bindings of every function changed. -/
def Value.rebindItems : List Value → List Value
  | [] => []
  | v :: rest => Value.rebind v :: Value.rebindItems rest

/-- The entries with the bindings of every function changed. -/
def Value.rebindPairs : List (Value × Value) → List (Value × Value)
  | [] => []
  | (k, v) :: rest => (Value.rebind k, Value.rebind v) :: Value.rebindPairs rest

/-- The bindings with the bindings of every function changed. -/
def Value.rebindNamed : List (String × Value) → List (String × Value)
  | [] => []
  | (name, v) :: rest => (name, Value.rebind v) :: Value.rebindNamed rest

end

/-- The entries of a map with the bindings of every function changed. -/
abbrev Entries.rebind (m : Entries) : Entries :=
  m.map (Prod.map (Value.rebind σ) (Value.rebind σ))

/-- Bindings with those of every function changed. -/
abbrev Env.rebind (env : Env) : Env :=
  env.map (Prod.map id (Value.rebind σ))

end

/-- The change of bindings that changes nothing. -/
def Env.keep (_ : List Pattern) (_ : Expr) (env : Env) : Env :=
  env

variable {σ : List Pattern → Expr → Env → Env}

namespace Value

/-- Inside the recursion lists of values are spelled out; from outside it is a `map`. -/
theorem rebindItems_eq_map (items : List Value) : rebindItems σ items = items.map (rebind σ) := by
  induction items with
  | nil => rfl
  | cons v rest ih => rw [rebindItems, ih, List.map_cons]

theorem rebindPairs_eq_map (m : Entries) : rebindPairs σ m = Entries.rebind σ m := by
  induction m with
  | nil => rfl
  | cons e rest ih => exact congrArg (List.cons _) ih

theorem rebindNamed_eq_map (env : Env) : rebindNamed σ env = Env.rebind σ env := by
  induction env with
  | nil => rfl
  | cons b rest ih => exact congrArg (List.cons _) ih

@[simp] theorem rebind_nil : rebind σ .nil = .nil := rfl

@[simp] theorem rebind_bool (b : Bool) : rebind σ (.bool b) = .bool b := rfl

@[simp] theorem rebind_number (n : Number) : rebind σ (.number n) = .number n := rfl

@[simp] theorem rebind_string (s : String) : rebind σ (.string s) = .string s := rfl

@[simp] theorem rebind_keyword (name : String) : rebind σ (.keyword name) = .keyword name := rfl

/-- Items are changed one by one. -/
@[simp] theorem rebind_vector (items : List Value) :
    rebind σ (.vector items) = .vector (items.map (rebind σ)) := by
  rw [rebind, rebindItems_eq_map]

@[simp] theorem rebind_map (m : Entries) : rebind σ (.map m) = .map (Entries.rebind σ m) := by
  rw [rebind, rebindPairs_eq_map]

/-- The bindings are changed inside first, and then as a whole. -/
@[simp] theorem rebind_closure (stamp : Nat) (params : List Pattern) (body : Expr) (env : Env) :
    rebind σ (.closure stamp params body env) =
      .closure stamp params body (σ params body (Env.rebind σ env)) := by
  rw [rebind, rebindNamed_eq_map]

@[simp] theorem rebind_rowTest (stamp : Nat) (path : List Literal) (op : RowOp) (operand : Value) :
    rebind σ (.rowTest stamp path op operand) = .rowTest stamp path op (operand.rebind σ) := rfl

/-- The parts of a combination are functions too. -/
@[simp] theorem rebind_combined (stamp : Nat) (c : Combinator) (tests : List Value) :
    rebind σ (.combined stamp c tests) = .combined stamp c (tests.map (rebind σ)) := by
  rw [rebind, rebindItems_eq_map]

@[simp] theorem rebind_builtin (f : Builtin) : rebind σ (.builtin f) = .builtin f := rfl

@[simp] theorem rebind_tool (name : String) : rebind σ (.tool name) = .tool name := rfl

mutual

/-- Changing no bindings changes nothing. By induction on the value, with its items, entries and bindings. -/
theorem rebind_keep : ∀ v : Value, v.rebind Env.keep = v
  | .nil => rfl
  | .bool _ => rfl
  | .number _ => rfl
  | .string _ => rfl
  | .keyword _ => rfl
  | .vector items => congrArg Value.vector (rebindItems_keep items)
  | .map entries => congrArg Value.map (rebindPairs_keep entries)
  | .closure stamp params body env => congrArg (Value.closure stamp params body) (rebindNamed_keep env)
  | .rowTest stamp path op operand => congrArg (Value.rowTest stamp path op) (rebind_keep operand)
  | .combined stamp c tests => congrArg (Value.combined stamp c) (rebindItems_keep tests)
  | .builtin _ => rfl
  | .tool _ => rfl

theorem rebindItems_keep : ∀ vs : List Value, rebindItems Env.keep vs = vs
  | [] => rfl
  | v :: rest => congrArg₂ List.cons (rebind_keep v) (rebindItems_keep rest)

theorem rebindPairs_keep : ∀ m : List (Value × Value), rebindPairs Env.keep m = m
  | [] => rfl
  | (k, v) :: rest =>
    congrArg₂ List.cons (congrArg₂ Prod.mk (rebind_keep k) (rebind_keep v)) (rebindPairs_keep rest)

theorem rebindNamed_keep : ∀ env : List (String × Value), rebindNamed Env.keep env = env
  | [] => rfl
  | (name, v) :: rest =>
    congrArg₂ List.cons (congrArg (Prod.mk name) (rebind_keep v)) (rebindNamed_keep rest)

end

/-! ## Types and truth -/

/-- There are no functions in literals. -/
@[simp] theorem rebind_literal (l : Literal) : rebind σ l.value = l.value := by
  cases l <;> simp [Literal.value]

/-- A function is truthy, whatever its bindings are. -/
@[simp] theorem truthy_rebind (v : Value) : (rebind σ v).truthy = v.truthy := by
  cases v <;> rfl

@[simp] theorem isNil_rebind (v : Value) : (rebind σ v).isNil = v.isNil := by
  cases v <;> rfl

@[simp] theorem callable_rebind (v : Value) : (rebind σ v).callable = v.callable := by
  cases v <;> rfl

@[simp] theorem typeName_rebind (v : Value) : (rebind σ v).typeName = v.typeName := by
  cases v <;> rfl

@[simp] theorem rank_rebind (v : Value) : (rebind σ v).rank = v.rank := by
  cases v <;> rfl

/-! ## Order -/

/-- What decides first in the order is the kind of a value, its number or its stamp. -/
@[simp] theorem head_rebind (v : Value) : (rebind σ v).head = v.head := by
  cases v <;> rfl

/-- Keys and values of a map are compared in turn. -/
theorem flatten_rebind (m : Entries) :
    Entries.flatten (Entries.rebind σ m) = (Entries.flatten m).map (rebind σ) := by
  induction m with
  | nil => rfl
  | cons e rest ih =>
    exact congrArg (fun vs => rebind σ e.1 :: rebind σ e.2 :: vs) ih

/-- Parts are compared only if the heads are the same, so they are those of the changed value. -/
theorem parts_rebind (v : Value) : (rebind σ v).parts = v.parts.map (rebind σ) := by
  cases v with
  | map m => rw [rebind_map]; exact flatten_rebind m
  | _ => simp [parts]

/-- Comparing item by item, if comparing the items does not look at bindings. -/
theorem compareAll_rebind {as : List Value}
    (h : ∀ a ∈ as, ∀ b : Value, (rebind σ a).compare (rebind σ b) = a.compare b) (bs : List Value) :
    compareAll (as.map (rebind σ)) (bs.map (rebind σ)) = compareAll as bs := by
  induction as generalizing bs with
  | nil => cases bs <;> rfl
  | cons a as ih =>
    cases bs with
    | nil => rfl
    | cons b bs =>
      obtain ⟨ha, has⟩ := List.forall_mem_cons.1 h
      simp only [List.map_cons, compareAll, ha, ih has]

/-- The order looks at stamps, and not at bindings. -/
@[simp] theorem compare_rebind (a b : Value) : (rebind σ a).compare (rebind σ b) = a.compare b := by
  rw [compare_eq_parts, compare_eq_parts a b, head_rebind, head_rebind, parts_rebind, parts_rebind,
    compareAll_rebind fun p hp q => compare_rebind p q]
termination_by sizeOf a
decreasing_by exact sizeOf_lt_of_mem_parts hp

/-- Being the same in the order of values. -/
@[simp] theorem same_rebind (a b : Value) : (rebind σ a).same (rebind σ b) = a.same b := by
  rw [same, compare_rebind, same]

end Value

open Value

/-! ## Entries and bindings -/

theorem Env.lookup?_rebind (env : Env) (name : String) :
    Env.lookup? (Env.rebind σ env) name = (Env.lookup? env name).map (Value.rebind σ) := by
  rw [Env.lookup?, List.find?_map, Env.lookup?, Option.map_map, Option.map_map]
  rfl

namespace Entries

/-- A key is found by the order of values, which does not look at bindings. -/
@[simp] theorem get?_rebind (m : Entries) (k : Value) :
    get? (Entries.rebind σ m) (k.rebind σ) = (get? m k).map (Value.rebind σ) := by
  have hkey : (fun e : Value × Value => (k.rebind σ).same e.1) ∘
      Prod.map (Value.rebind σ) (Value.rebind σ) = fun e => k.same e.1 :=
    funext fun e => same_rebind k e.1
  rw [get?, List.find?_map, hkey, get?, Option.map_map, Option.map_map]
  rfl

@[simp] theorem contains_rebind (m : Entries) (k : Value) :
    contains (Entries.rebind σ m) (k.rebind σ) = contains m k := by
  rw [contains, List.any_map, contains]
  exact congrArg (List.any m) (funext fun e => same_rebind k e.1)

@[simp] theorem erase_rebind (k : Value) (m : Entries) :
    erase (k.rebind σ) (Entries.rebind σ m) = Entries.rebind σ (erase k m) := by
  rw [erase, List.filter_map, erase]
  congr 2
  funext e
  exact congrArg not (same_rebind k e.1)

/-- An entry is put in the same place, and a later one with the same key goes away. -/
@[simp] theorem insert_rebind (k v : Value) (m : Entries) :
    insert (k.rebind σ) (v.rebind σ) (Entries.rebind σ m) = Entries.rebind σ (insert k v m) := by
  induction m with
  | nil => rfl
  | cons e rest ih =>
    simp only [insert, List.map_cons, Prod.map_fst, Prod.map_snd, compare_rebind]
    cases k.compare e.1 with
    | lt => exact congrArg (fun rest => _ :: _ :: rest) (erase_rebind k rest)
    | eq => rfl
    | gt => exact congrArg (List.cons _) ih

@[simp] theorem insertAll_rebind (new : List (Value × Value)) :
    ∀ m : Entries, insertAll (Entries.rebind σ m) (Entries.rebind σ new) =
      Entries.rebind σ (insertAll m new) := by
  induction new with
  | nil => exact fun _ => rfl
  | cons e rest ih =>
    intro m
    calc insertAll (Entries.rebind σ m) (Entries.rebind σ (e :: rest))
      _ = insertAll (insert (e.1.rebind σ) (e.2.rebind σ) (Entries.rebind σ m))
            (Entries.rebind σ rest) := rfl
      _ = Entries.rebind σ (insertAll (insert e.1 e.2 m) rest) := by rw [insert_rebind, ih]

@[simp] theorem ofList_rebind (entries : List (Value × Value)) :
    ofList (Entries.rebind σ entries) = Entries.rebind σ (ofList entries) :=
  insertAll_rebind entries []

/-- The other spelling of a key is a string or a keyword. -/
@[simp] theorem otherSpelling?_rebind (k : Value) :
    otherSpelling? (k.rebind σ) = (otherSpelling? k).map (Value.rebind σ) := by
  cases k with
  | string s =>
    simp only [rebind_string, otherSpelling?]
    split_ifs <;> rfl
  | _ => rfl

/-- A key is found in either spelling. -/
@[simp] theorem find?_rebind (m : Entries) (k : Value) :
    find? (Entries.rebind σ m) (k.rebind σ) = (find? m k).map (Value.rebind σ) := by
  rw [find?, find?, get?_rebind, otherSpelling?_rebind]
  cases get? m k with
  | some v => rfl
  | none =>
    cases otherSpelling? k with
    | none => rfl
    | some l => exact get?_rebind m l

/-- The spelling that a map uses is found in the map, so it is that of the changed map. -/
@[simp] theorem resolve_rebind (m : Entries) (k : Value) :
    resolve (Entries.rebind σ m) (k.rebind σ) = (resolve m k).rebind σ := by
  rw [resolve, resolve, contains_rebind, otherSpelling?_rebind]
  cases contains m k with
  | true => rfl
  | false =>
    cases otherSpelling? k with
    | none => rfl
    | some l =>
      simp only [Option.map_some, contains_rebind, Bool.false_eq_true, if_false]
      cases contains m l <;> rfl

end Entries

namespace Value

/-! ## Equality -/

/-- Only numbers, vectors and maps are equal without being the same. -/
theorem equal_eq_same {a b : Value} (h : a.rank ≠ b.rank ∨ a.rank ∉ [2, 5, 6]) :
    a.equal b = a.same b := by
  unfold equal
  split
  case h_4 => rfl
  all_goals simp [rank] at h

/-- Equality item by item, if equality of the items does not look at bindings. -/
theorem equalAll_rebind {as : List Value}
    (h : ∀ a ∈ as, ∀ b : Value, (rebind σ a).equal (rebind σ b) = a.equal b) (bs : List Value) :
    equalAll (as.map (rebind σ)) (bs.map (rebind σ)) = equalAll as bs := by
  induction as generalizing bs with
  | nil => cases bs <;> rfl
  | cons a as ih =>
    cases bs with
    | nil => rfl
    | cons b bs =>
      obtain ⟨ha, has⟩ := List.forall_mem_cons.1 h
      simp only [List.map_cons, equalAll, ha, ih has]

/-- Equality entry by entry: each value is compared with that at the same key of the other map. -/
theorem equalEntries_rebind {as : List (Value × Value)}
    (h : ∀ e ∈ as, ∀ b : Value, (rebind σ e.2).equal (rebind σ b) = e.2.equal b) (m : Entries) :
    equalEntries (Entries.rebind σ as) (Entries.rebind σ m) = equalEntries as m := by
  induction as with
  | nil => rfl
  | cons e rest ih =>
    obtain ⟨he, hrest⟩ := List.forall_mem_cons.1 h
    simp only [List.map_cons, Prod.map, equalEntries, Entries.get?_rebind, ih hrest]
    cases Entries.get? m e.1 with
    | none => rfl
    | some w => simp only [Option.map_some, he]

/-- Equality does not look at bindings: functions are compared by their stamps. By induction on the first
value. -/
@[simp] theorem equal_rebind (a b : Value) : (rebind σ a).equal (rebind σ b) = a.equal b := by
  -- values of different kinds are equal when they are the same
  by_cases hrank : a.rank = b.rank
  · cases a with
    | number n =>
      cases b with
      | number k => rfl
      | _ => cases hrank
    | vector as =>
      cases b with
      | vector bs =>
        simp only [rebind_vector, equal]
        exact equalAll_rebind (fun a ha b => equal_rebind a b) bs
      | _ => cases hrank
    | map as =>
      cases b with
      | map bs =>
        simp only [rebind_map, equal, List.length_map]
        rw [equalEntries_rebind fun e he b => equal_rebind e.2 b]
      | _ => cases hrank
    | _ =>
      rw [equal_eq_same (.inr (by simp [rank])), equal_eq_same (.inr (by simp [rank])), same_rebind]
  · rw [equal_eq_same (.inl (by simpa using hrank)), equal_eq_same (.inl hrank), same_rebind]
termination_by sizeOf a
decreasing_by
  · have := List.sizeOf_lt_of_mem ha
    simp only [vector.sizeOf_spec]
    omega
  · have := List.sizeOf_lt_of_mem he
    obtain ⟨k, v⟩ := e
    simp only [map.sizeOf_spec, Prod.mk.sizeOf_spec] at this ⊢
    omega

/-! ## Texts -/

mutual

/-- The text of a function shows only how many parameters it has. By induction on the value. -/
theorem text_rebind : ∀ v : Value, (rebind σ v).text = v.text
  | .nil => rfl
  | .bool _ => rfl
  | .number _ => rfl
  | .string _ => rfl
  | .keyword _ => rfl
  | .vector items => congrArg (fun t => '[' :: (t ++ [']'])) (textAll_rebind items)
  | .map m => congrArg (fun t => '\x7b' :: (t ++ ['\x7d'])) (textEntries_rebind m)
  | .closure _ _ _ _ => rfl
  | .rowTest _ _ _ _ => rfl
  | .combined _ _ _ => rfl
  | .builtin _ => rfl
  | .tool _ => rfl

theorem textAll_rebind : ∀ items : List Value, textAll (rebindItems σ items) = textAll items
  | [] => rfl
  | [v] => text_rebind v
  | v :: w :: rest =>
    congrArg₂ (fun t t' => t ++ ' ' :: t') (text_rebind v) (textAll_rebind (w :: rest))

theorem textEntries_rebind :
    ∀ m : List (Value × Value), textEntries (rebindPairs σ m) = textEntries m
  | [] => rfl
  | [(k, v)] => congrArg₂ (fun t t' => t ++ ' ' :: t') (text_rebind k) (text_rebind v)
  | (k, v) :: e :: rest =>
    congrArg₂ (fun t t' => t ++ ' ' :: t') (text_rebind k)
      (congrArg₂ (fun t t' => t ++ ',' :: ' ' :: t') (text_rebind v) (textEntries_rebind (e :: rest)))

end

@[simp] theorem render_rebind (v : Value) : (rebind σ v).render = v.render :=
  congrArg String.ofList (text_rebind v)

/-- A string is shown without quotes when it stands alone. -/
@[simp] theorem plainText_rebind (v : Value) : (rebind σ v).plainText = v.plainText := by
  cases v with
  | nil => rfl
  | string s => rfl
  | _ => exact text_rebind _

@[simp] theorem renderPlain_rebind (v : Value) : (rebind σ v).renderPlain = v.renderPlain :=
  congrArg String.ofList (plainText_rebind v)

@[simp] theorem described_rebind (v : Value) : (rebind σ v).described = v.described := by
  rw [described, typeName_rebind, render_rebind, described]

/-! ## Parts -/

/-- The value at a key of a map or at an index of a vector. -/
@[simp] theorem get?_rebind (v k : Value) : (rebind σ v).get? (rebind σ k) = (v.get? k).map (rebind σ) := by
  cases v with
  | map m => rw [rebind_map]; exact Entries.find?_rebind m k
  | vector items =>
    rw [rebind_vector]
    cases k with
    | number n =>
      rw [rebind_number, get?, get?]
      cases n.index? with
      | none => rfl
      | some i => exact List.getElem?_map
    | _ => rfl
  | _ => rfl

@[simp] theorem hasKey_rebind (v k : Value) : (rebind σ v).hasKey (rebind σ k) = v.hasKey k := by
  cases v with
  | map m => simp only [rebind_map, hasKey, Entries.find?_rebind, Option.isSome_map]
  | vector items =>
    cases k with
    | number n => simp only [rebind_vector, rebind_number, hasKey, List.length_map]
    | _ => rfl
  | _ => rfl

/-- Each step of a path looks up a key. By induction on the path. -/
@[simp] theorem getIn?_rebind (path : List Value) :
    ∀ v : Value, (rebind σ v).getIn? (path.map (rebind σ)) = (v.getIn? path).map (rebind σ) := by
  induction path with
  | nil => exact fun _ => rfl
  | cons k path ih =>
    intro v
    rw [List.map_cons, getIn?, getIn?, get?_rebind]
    cases v.get? k with
    | none => rfl
    | some w => exact ih w

end Value

/-! ## Named entries -/

/-- What is found instead of a missing value is changed too. -/
@[simp] theorem getD_rebind (o : Option Value) (d : Value) :
    (o.map (rebind σ)).getD (d.rebind σ) = (o.getD d).rebind σ := by
  cases o <;> rfl

theorem getD_nil_rebind (o : Option Value) :
    (o.map (rebind σ)).getD .nil = (o.getD .nil).rebind σ :=
  getD_rebind o .nil

/-- A name is looked up as a keyword first and then as a string. -/
theorem entryNamed_rebind (m : Entries) (name : String) :
    entryNamed (Entries.rebind σ m) name = (entryNamed m name).rebind σ :=
  (congrArg (Option.getD · Value.nil) (Entries.find?_rebind m (.keyword name))).trans
    (getD_nil_rebind _)

/-- A keyword that is called as a function looks itself up. -/
theorem keywordEntry_rebind (name : String) (v default : Value) :
    keywordEntry name (v.rebind σ) (default.rebind σ) = (keywordEntry name v default).rebind σ := by
  cases v with
  | map m =>
    rw [rebind_map]
    exact (congrArg (Option.getD · (default.rebind σ))
      (Entries.find?_rebind m (.keyword name))).trans (getD_rebind _ default)
  | _ => rfl

/-! ## Row predicates -/

/-- Only numbers and strings have an order in the test of a field. -/
theorem fieldOrder?_rebind (a b : Value) :
    fieldOrder? (a.rebind σ) (b.rebind σ) = fieldOrder? a b := by
  cases a with
  | number n => cases b <;> rfl
  | string s => cases b <;> rfl
  | _ => rfl

/-- A missing field equals nothing but `nil`. -/
theorem fieldEquals_eq (a b : Value) :
    fieldEquals a b = if a.isNil || b.isNil then a.isNil && b.isNil else a.equal b := by
  cases a with
  | nil => cases b <;> rfl
  | _ => cases b <;> rfl

theorem fieldEquals_rebind (a b : Value) :
    fieldEquals (a.rebind σ) (b.rebind σ) = fieldEquals a b := by
  rw [fieldEquals_eq, isNil_rebind, isNil_rebind, equal_rebind, fieldEquals_eq]

/-- Whether an item equals a value does not depend on bindings. -/
theorem any_equal_rebind (items : List Value) (v : Value) :
    (items.map (rebind σ)).any (·.equal (v.rebind σ)) = items.any (·.equal v) := by
  rw [List.any_map]
  exact congrArg (List.any items) (funext fun w => equal_rebind w v)

theorem holds_within_vector (field : Value) (items : List Value) :
    RowOp.within.holds field (.vector items) = (!field.isNil && items.any (·.equal field)) := by
  cases field <;> rfl

/-- No comparison of a field looks at bindings. One case per operator. -/
theorem holds_rebind (op : RowOp) (field operand : Value) :
    op.holds (field.rebind σ) (operand.rebind σ) = op.holds field operand := by
  cases op with
  | truthy => exact truthy_rebind field
  | eq => exact fieldEquals_rebind field operand
  | ne => exact congrArg not (fieldEquals_rebind field operand)
  | gt | lt | ge | le => exact congrArg (Option.any _) (fieldOrder?_rebind field operand)
  | includes =>
    cases field with
    | vector items => rw [rebind_vector]; exact any_equal_rebind items operand
    | string s => cases operand <;> rfl
    | _ => rfl
  | within =>
    cases operand with
    | vector items =>
      rw [rebind_vector, holds_within_vector, isNil_rebind, any_equal_rebind, holds_within_vector]
    | _ => cases field <;> rfl

/-- A row predicate has the same outcome on rows that differ in bindings. -/
theorem holds_getIn?_rebind (path : List Literal) (op : RowOp) (row operand : Value) :
    op.holds (((row.rebind σ).getIn? (path.map Literal.value)).getD .nil) (operand.rebind σ) =
      op.holds ((row.getIn? (path.map Literal.value)).getD .nil) operand := by
  have hpath : (path.map Literal.value).map (rebind σ) = path.map Literal.value := by
    rw [List.map_map]
    exact List.map_congr_left fun l _ => rebind_literal l
  have hfield := @getIn?_rebind σ (path.map Literal.value) row
  rw [hpath] at hfield
  rw [hfield, getD_nil_rebind, holds_rebind]

/-! ## Errors -/

/-- The fault with the bindings of every function in it changed. -/
def TypeFault.rebind (σ : List Pattern → Expr → Env → Env) : TypeFault → TypeFault
  | .expected name what got => .expected name what (got.rebind σ)
  | .incomparable name a b => .incomparable name (a.rebind σ) (b.rebind σ)
  | .index name key length => .index name (key.rebind σ) length
  | .predicate got => .predicate (got.rebind σ)
  | fault => fault

/-- The messages name types, counts and texts of values, and none of these shows bindings. -/
theorem TypeFault.message_rebind (fault : TypeFault) : (fault.rebind σ).message = fault.message := by
  cases fault with
  | expected name what got =>
    exact congrArg (name ++ ": expected " ++ what ++ ", got " ++ ·) (described_rebind got)
  | incomparable name a b =>
    exact congrArg₂ (fun s t => name ++ ": cannot compare " ++ s ++ " with " ++ t)
      (typeName_rebind a) (typeName_rebind b)
  | index name key length =>
    exact congrArg (fun t => name ++ ": index " ++ t ++ " out of bounds for vector of length " ++
      toString length) (render_rebind key)
  | predicate got =>
    exact congrArg ("predicate combinator expects functions, got " ++ ·) (described_rebind got)
  | _ => rfl

namespace EvalError

/-- The error with the bindings of every function in it changed. -/
def rebind (σ : List Pattern → Expr → Env → Env) : EvalError → EvalError
  | .notCallable v => .notCallable (v.rebind σ)
  | .type fault => .type (fault.rebind σ)
  | .destructure shape got => .destructure shape (got.rebind σ)
  | .failed v => .failed (v.rebind σ)
  | e => e

/-- An error holds values in its details only. -/
theorem rebind_keep (e : EvalError) : e.rebind Env.keep = e := by
  cases e with
  | type fault => cases fault <;> simp [rebind, TypeFault.rebind, Value.rebind_keep]
  | _ => simp [rebind, Value.rebind_keep]

/-- Whether an error is neither about a variable without a value nor raised by the program itself. -/
def plain : EvalError → Bool
  | .unbound _ => false
  | .failed _ => false
  | _ => true

/-- The message of an error does not show bindings. One case per error. -/
@[simp] theorem message_rebind (e : EvalError) : (e.rebind σ).message = e.message := by
  cases e with
  | notCallable v => exact congrArg ("not callable: " ++ ·) (described_rebind v)
  | type fault => exact congrArg ("type error: " ++ ·) fault.message_rebind
  | destructure shape got =>
    exact congrArg ("destructure error: expected " ++ shape ++ ", got " ++ ·) (typeName_rebind got)
  | failed v => exact congrArg ("program failed: " ++ ·) (render_rebind v)
  | _ => rfl

@[simp] theorem kind_rebind (e : EvalError) : (e.rebind σ).kind = e.kind := by
  cases e <;> rfl

end EvalError

end ToolLisp
