import ToolLisp.Proofs.RowPredicates

/-!
# Tests of fields

A test of `where` compares the field of a row with an operand, and never fails. The functions `=`, `not=`, `<`,
`>`, `<=` and `>=` compare two values, and the last four of them fail on values that have no order. Both agree
wherever the functions return, and a test does not hold where they fail (`field_tests_agree_with_comparisons`).

A field or an operand that is `nil` passes none of the tests but those for equality, with one exception: a
vector includes `nil` if it is one of its items (`nil_passes_no_test_but_equality`).
-/

namespace ToolLisp

/-! ## Comparisons -/

/-- The functions that compare two values by their order, with the tests of fields that do. -/
inductive ComparesAs : RowOp → NumberFn → Prop
  | lt : ComparesAs .lt .lt
  | gt : ComparesAs .gt .gt
  | le : ComparesAs .le .le
  | ge : ComparesAs .ge .ge

/-- Setting `nil` apart makes no difference to equality. -/
theorem fieldEquals_eq_equal (a b : Value) : fieldEquals a b = a.equal b := by
  cases a with
  | nil => cases b <;> rfl
  | _ => cases b <;> rfl

namespace Value

/-- Whether two values can be compared by their order: two numbers, two strings, or `nil` with anything. -/
def comparesWith : Value → Value → Bool
  | .nil, _ => true
  | _, .nil => true
  | .number _, .number _ => true
  | .string _, .string _ => true
  | _, _ => false

/-- A function asks two values for the order that they have as a field and an operand. It refuses those that
cannot be compared, which have none. -/
theorem order_cases (name : String) (a b : Value) :
    (a.comparesWith b = true ∧ NumberFn.order name a b = .ok (fieldOrder? a b)) ∨
      (a.comparesWith b = false ∧ (∃ fault, NumberFn.order name a b = .error (.type fault)) ∧
        fieldOrder? a b = none) := by
  cases a with
  | nil => exact .inl ⟨rfl, rfl⟩
  | number x =>
    cases b with
    | nil => exact .inl ⟨rfl, rfl⟩
    | number y => exact .inl ⟨rfl, rfl⟩
    | _ => exact .inr ⟨rfl, ⟨_, rfl⟩, rfl⟩
  | string x =>
    cases b with
    | nil => exact .inl ⟨rfl, rfl⟩
    | string y => exact .inl ⟨rfl, rfl⟩
    | _ => exact .inr ⟨rfl, ⟨_, rfl⟩, rfl⟩
  | _ =>
    cases b with
    | nil => exact .inl ⟨rfl, rfl⟩
    | _ => exact .inr ⟨rfl, ⟨_, rfl⟩, rfl⟩

end Value

namespace NumberFn

variable {name : String} {test : Ordering → Bool} {a b : Value}

theorem compared_pair (name : String) (test : Ordering → Bool) (a b : Value) :
    compared name test a [b] = ascends name test a [b] >>= fun holds => .ok (.bool holds) :=
  rfl

/-- A comparison of two values asks for their order once. Values without order fail every test. -/
theorem compared_of_order_ok {o : Option Ordering} (h : order name a b = .ok o) :
    compared name test a [b] = .ok (.bool (o.any test)) := by
  have hascends : ascends name test a [b] = .ok (o.any test) := by
    rw [ascends, h]
    cases o with
    | none => rfl
    | some o =>
      change (if test o then (.ok true : Checked Bool) else .ok false) = .ok (test o)
      cases test o <;> rfl
  rw [compared_pair, hascends]
  rfl

theorem compared_of_order_error {e : EvalError} (h : order name a b = .error e) :
    compared name test a [b] = .error e := by
  rw [compared_pair, ascends, h]
  rfl

end NumberFn

namespace ComparesAs

variable {op : RowOp} {f : NumberFn} (h : ComparesAs op f)
include h

/-- What a function and a test have in common: both put one question to the order of two values. -/
theorem exists_test : ∃ name test, (∀ a b, op.holds a b = fieldOrdered test a b) ∧
    ∀ host n a b, callAt host (n + 1) (.builtin (.number f)) [a, b] =
      (Action.ofChecked (NumberFn.compared name test a [b])).run (callAt host n) := by
  cases h with
  | lt => exact ⟨"<", (·.isLT), fun _ _ => rfl, fun _ _ _ _ => rfl⟩
  | gt => exact ⟨">", (·.isGT), fun _ _ => rfl, fun _ _ _ _ => rfl⟩
  | le => exact ⟨"<=", (·.isLE), fun _ _ => rfl, fun _ _ _ _ => rfl⟩
  | ge => exact ⟨">=", (·.isGE), fun _ _ => rfl, fun _ _ _ _ => rfl⟩

end ComparesAs

/-- A test of a field agrees with the function of the same name. For all values, `=` and `not=` return what the
test comes to. If two values can be compared by their order, `<`, `>`, `<=` and `>=` return what the test comes
to; otherwise they fail with a fault of type, and the test does not hold. -/
theorem field_tests_agree_with_comparisons (h : Host) (n : Nat) (a b : Value) (s : RunState) :
    callAt h (n + 1) (.builtin (.number .eq)) [a, b] s = (.ok (.bool (RowOp.eq.holds a b)), s) ∧
    callAt h (n + 1) (.builtin (.number .ne)) [a, b] s = (.ok (.bool (RowOp.ne.holds a b)), s) ∧
    ∀ op f, ComparesAs op f →
      (a.comparesWith b = true →
        callAt h (n + 1) (.builtin (.number f)) [a, b] s = (.ok (.bool (op.holds a b)), s)) ∧
      (a.comparesWith b = false →
        (∃ fault, callAt h (n + 1) (.builtin (.number f)) [a, b] s = (.error (.error (.type fault)), s)) ∧
          op.holds a b = false) := by
  have hequal : NumberFn.allEqual a [b] = fieldEquals a b := by
    rw [fieldEquals_eq_equal, NumberFn.allEqual, NumberFn.allEqual, Bool.and_true]
  refine ⟨?_, ?_, fun op f hop => ?_⟩
  · change (Except.ok (Value.bool (NumberFn.allEqual a [b])), s) = _
    rw [hequal]
    rfl
  · change (Except.ok (Value.bool !NumberFn.allEqual a [b]), s) = _
    rw [hequal]
    rfl
  · obtain ⟨name, test, hholds, hcall⟩ := hop.exists_test
    rw [hcall h n a b, hholds a b, fieldOrdered]
    rcases Value.order_cases name a b with ⟨hcompares, hok⟩ | ⟨hcompares, ⟨fault, herror⟩, hnone⟩
    · rw [NumberFn.compared_of_order_ok hok]
      exact ⟨fun _ => rfl, fun hnot => absurd (hnot.symm.trans hcompares) Bool.false_ne_true⟩
    · rw [NumberFn.compared_of_order_error herror, hnone]
      exact ⟨fun hyes => absurd (hcompares.symm.trans hyes) Bool.false_ne_true, fun _ => ⟨⟨fault, rfl⟩, rfl⟩⟩

/-- A number is compared with a double, and with a keyword. -/
theorem field_tests_agree_with_comparisons_of_mixed_values :
    ∃ (h : Host) (s : RunState),
      callAt h 1 (.builtin (.number .ge)) [.ofNat 2, .number (.float (.nan false))] s = (.ok (.bool false), s) ∧
      RowOp.ge.holds (.ofNat 2) (.number (.float (.nan false))) = false ∧
      (∃ fault, callAt h 1 (.builtin (.number .lt)) [.ofNat 2, .keyword "a"] s =
        (.error (.error (.type fault)), s)) ∧
      RowOp.lt.holds (.ofNat 2) (.keyword "a") = false := by
  let h : Host := .bare
  let s : RunState := .fresh
  have hnan :=
    ((field_tests_agree_with_comparisons h 0 (.ofNat 2) (.number (.float (.nan false))) s).2.2 _ _ .ge).1 rfl
  have hkeyword := ((field_tests_agree_with_comparisons h 0 (.ofNat 2) (.keyword "a") s).2.2 _ _ .lt).2 rfl
  have hfalse : RowOp.ge.holds (.ofNat 2) (.number (.float (.nan false))) = false := by decide +kernel
  exact ⟨h, s, hfalse ▸ hnan, hfalse, hkeyword.1, hkeyword.2⟩

/-! ## Comparisons with `nil` -/

namespace RowOp

/-- Whether a test relates a field to an operand by their order, or by one being in the other. -/
def isRelational : RowOp → Bool
  | .truthy => false
  | .eq => false
  | .ne => false
  | _ => true

variable {op : RowOp}

theorem holds_nil_field (h : op.isRelational = true) (operand : Value) : op.holds .nil operand = false := by
  cases op with
  | truthy => cases h
  | eq => cases h
  | ne => cases h
  | within => rfl
  | _ => cases operand <;> rfl

/-- An operand that is `nil` has no order and contains nothing. -/
theorem holds_nil_operand (h : op.isRelational = true) (hop : op ≠ .includes) (field : Value) :
    op.holds field .nil = false := by
  cases op with
  | truthy => cases h
  | eq => cases h
  | ne => cases h
  | includes => exact absurd rfl hop
  | _ => cases field <;> rfl

theorem equal_nil_iff (v : Value) : v.equal .nil = true ↔ v = .nil := by
  cases v with
  | nil => exact iff_of_true rfl rfl
  | _ => exact iff_of_false Bool.false_ne_true (by simp)

/-- Only a vector includes `nil`, if it is one of its items. -/
theorem includes_nil_iff (field : Value) :
    RowOp.includes.holds field .nil = true ↔ ∃ items, field = .vector items ∧ .nil ∈ items := by
  cases field with
  | vector items =>
    have hany : RowOp.includes.holds (.vector items) .nil = items.any (·.equal .nil) := rfl
    rw [hany, List.any_eq_true]
    constructor
    · rintro ⟨v, hv, hnil⟩
      obtain rfl := (equal_nil_iff v).1 hnil
      exact ⟨items, rfl, hv⟩
    · rintro ⟨_, ⟨rfl⟩, hnil⟩
      exact ⟨.nil, hnil, rfl⟩
  | _ => exact iff_of_false Bool.false_ne_true (by simp)

end RowOp

/-- A test for an order, or for one value in the other, on a field that is missing or `nil`, or with an operand
that is `nil`, does not fail. It does not hold either, unless it asks whether a vector includes `nil` and it
does. -/
theorem nil_passes_no_test_but_equality (h : Host) (n stamp : Nat) (path : List Literal) (op : RowOp)
    (operand row : Value) (s : RunState) (hop : op.isRelational = true)
    (hnil : row.getIn? (path.map Literal.value) = none ∨ row.getIn? (path.map Literal.value) = some .nil ∨
      operand = .nil) :
    ∃ b, callAt h (n + 1) (.rowTest stamp path op operand) [row] s = (.ok (.bool b), s) ∧
      (b = true ↔ op = .includes ∧ operand = .nil ∧
        ∃ items, row.getIn? (path.map Literal.value) = some (.vector items) ∧ .nil ∈ items) := by
  have hcall := RowPredicate.callAt_eq h row (t := .test path op operand) (n := n + 1)
    (f := .rowTest stamp path op operand) rfl (Nat.le_add_left 1 n) s
  refine ⟨_, hcall, ?_⟩
  have hholds : (RowPredicate.test path op operand).holds row = op.holds (row.field path) operand := rfl
  rw [hholds]
  -- a field that is missing or `nil` is `nil` for the test, and no vector
  have hmissing (hfield : row.field path = .nil)
      (hvector : ∀ items, row.getIn? (path.map Literal.value) ≠ some (.vector items)) :
      op.holds (row.field path) operand = true ↔ op = .includes ∧ operand = .nil ∧
        ∃ items, row.getIn? (path.map Literal.value) = some (.vector items) ∧ .nil ∈ items := by
    rw [hfield, RowOp.holds_nil_field hop]
    refine iff_of_false Bool.false_ne_true ?_
    rintro ⟨-, -, items, hitems, -⟩
    exact hvector items hitems
  rcases hnil with hnone | hsome | rfl
  · refine hmissing ?_ fun items => ?_
    · rw [Value.field, hnone]
      rfl
    · rw [hnone]
      simp
  · refine hmissing ?_ fun items => ?_
    · rw [Value.field, hsome]
      rfl
    · rw [hsome]
      simp
  · by_cases hincludes : op = .includes
    · subst hincludes
      rw [RowOp.includes_nil_iff]
      have hfield (items : List Value) : row.field path = .vector items ↔
          row.getIn? (path.map Literal.value) = some (.vector items) := by
        rw [Value.field]
        cases row.getIn? (path.map Literal.value) with
        | none => simp
        | some v => simp
      simp [hfield]
    · rw [RowOp.holds_nil_operand hop hincludes]
      exact iff_of_false Bool.false_ne_true fun hall => hincludes hall.1

/-- `nil` is in no vector, not even in one that holds it, although such a vector includes it. -/
theorem nil_passes_no_test_but_equality_in_vector :
    ∃ (h : Host) (s : RunState) (b c : Bool),
      callAt h 1 (.rowTest 0 [.keyword "tag"] .within (.vector [.nil])) [.map []] s = (.ok (.bool b), s) ∧
      b = false ∧
      callAt h 1 (.rowTest 0 [.keyword "tags"] .includes .nil)
        [.map [(.keyword "tags", .vector [.nil])]] s = (.ok (.bool c), s) ∧ c = true := by
  let h : Host := .bare
  let s : RunState := .fresh
  obtain ⟨b, hb, hfalse⟩ := nil_passes_no_test_but_equality h 0 0 [.keyword "tag"] .within (.vector [.nil])
    (.map []) s rfl (.inl rfl)
  obtain ⟨c, hc, htrue⟩ := nil_passes_no_test_but_equality h 0 0 [.keyword "tags"] .includes .nil
    (.map [(.keyword "tags", .vector [.nil])]) s rfl (.inr (.inr rfl))
  refine ⟨h, s, b, c, hb, ?_, hc, htrue.2 ⟨rfl, rfl, _, rfl, List.mem_singleton_self _⟩⟩
  exact Bool.eq_false_iff.2 fun hb => by cases (hfalse.1 hb).1

/-- Not every such test with an operand that is `nil` is false: a vector that holds `nil` includes it. -/
theorem vector_includes_nil :
    ¬ ∀ (h : Host) (n stamp : Nat) (path : List Literal) (op : RowOp) (operand row : Value) (s : RunState),
      op.isRelational = true →
      (row.getIn? (path.map Literal.value) = none ∨ row.getIn? (path.map Literal.value) = some .nil ∨
        operand = .nil) →
      callAt h (n + 1) (.rowTest stamp path op operand) [row] s = (.ok (.bool false), s) := by
  intro hclaim
  have hfalse := hclaim .bare 0 0 [.keyword "tags"] .includes .nil
    (.map [(.keyword "tags", .vector [.nil])]) .fresh rfl (.inr (.inr rfl))
  cases hfalse

end ToolLisp
