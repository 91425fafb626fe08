import ToolLisp.Proofs.SortedCollections

/-!
# Predicates on rows

`where` and the combinators `all-of`, `any-of` and `none-of` make predicates on rows. Such a predicate is a tree
(`RowPredicate`), and what it says of a row is a truth value that needs no evaluation (`RowPredicate.holds`).
Calling it gives this truth value for every row, without effects, if as many calls may still be nested as the
tree is high (`RowPredicate.callAt_eq`); a combinator that stops early leaves out only parts that do not matter.

So `filter` with such a predicate keeps exactly the rows of which it holds (`row_predicates_have_meaning`).
-/

namespace ToolLisp

/-- A predicate on rows. -/
inductive RowPredicate where
  /-- The field at the end of a path compares with an operand. -/
  | test (path : List Literal) (op : RowOp) (operand : Value)
  /-- Several predicates are combined. -/
  | combine (c : Combinator) (parts : List RowPredicate)

/-- What a combination says if its parts say this. -/
def Combinator.joins : Combinator → List Bool → Bool
  | .allOf, outcomes => outcomes.all id
  | .anyOf, outcomes => outcomes.any id
  | .noneOf, outcomes => !outcomes.any id

/-- The field of a row at the end of a path, or `nil` if there is none. -/
def Value.field (row : Value) (path : List Literal) : Value :=
  (row.getIn? (path.map Literal.value)).getD .nil

namespace RowPredicate

/-! ## Trees and their meaning -/

mutual

/-- How deeply a predicate is nested. A test alone has the height one. -/
def height : RowPredicate → Nat
  | .test .. => 1
  | .combine _ parts => heightAll parts + 1

/-- The height of the highest predicate of several. -/
def heightAll : List RowPredicate → Nat
  | [] => 0
  | t :: rest => max t.height (heightAll rest)

end

mutual

/-- Whether a predicate holds of a row. -/
def holds : RowPredicate → Value → Bool
  | .test path op operand, row => op.holds (row.field path) operand
  | .combine c parts, row => c.joins (holdsAll parts row)

/-- Whether each of several predicates holds of a row. -/
def holdsAll : List RowPredicate → Value → List Bool
  | [], _ => []
  | t :: rest, row => t.holds row :: holdsAll rest row

end

mutual

/-- The predicate that a value is. -/
def ofValue? : Value → Option RowPredicate
  | .rowTest _ path op operand => some (.test path op operand)
  | .combined _ c tests => (ofValues? tests).map (.combine c)
  | _ => none

/-- The predicates that several values are. -/
def ofValues? : List Value → Option (List RowPredicate)
  | [] => some []
  | f :: rest =>
    match ofValue? f, ofValues? rest with
    | some t, some ts => some (t :: ts)
    | _, _ => none

end

/-- A combination says of a row what it makes of what its parts say. -/
theorem holds_combine (c : Combinator) (parts : List RowPredicate) (row : Value) :
    (combine c parts).holds row = c.joins (parts.map fun t => t.holds row) := by
  have hparts : holdsAll parts row = parts.map fun t => t.holds row := by
    induction parts with
    | nil => rfl
    | cons t parts ih => rw [holdsAll, List.map_cons, ih]
  rw [holds, hparts]

theorem height_pos (t : RowPredicate) : 0 < t.height := by
  cases t with
  | test path op operand => exact Nat.one_pos
  | combine c parts => exact Nat.succ_pos _

theorem ofValues?_cons_eq_some {f : Value} {fs : List Value} {ts : List RowPredicate}
    (h : ofValues? (f :: fs) = some ts) :
    ∃ t rest, ts = t :: rest ∧ ofValue? f = some t ∧ ofValues? fs = some rest := by
  rw [ofValues?] at h
  cases hf : ofValue? f with
  | none =>
    rw [hf] at h
    cases h
  | some t =>
    cases hfs : ofValues? fs with
    | none =>
      rw [hf, hfs] at h
      cases h
    | some rest =>
      rw [hf, hfs] at h
      exact ⟨t, rest, (Option.some.inj h).symm, rfl, rfl⟩

/-- A value that is a predicate is a test or a combination. -/
theorem ofValue?_cases {f : Value} {t : RowPredicate} (h : ofValue? f = some t) :
    (∃ stamp path op operand, f = .rowTest stamp path op operand ∧ t = .test path op operand) ∨
      ∃ stamp c tests parts, f = .combined stamp c tests ∧ t = .combine c parts ∧
        ofValues? tests = some parts := by
  cases f with
  | rowTest stamp path op operand => exact .inl ⟨stamp, path, op, operand, rfl, (Option.some.inj h).symm⟩
  | combined stamp c tests =>
    obtain ⟨parts, hparts, rfl⟩ := Option.map_eq_some_iff.1 h
    exact .inr ⟨stamp, c, tests, parts, rfl, rfl, hparts⟩
  | _ => cases h

theorem callable_of_ofValue? {f : Value} {t : RowPredicate} (h : ofValue? f = some t) : f.callable = true := by
  obtain ⟨stamp, path, op, operand, rfl, -⟩ | ⟨stamp, c, tests, parts, rfl, -⟩ := ofValue?_cases h
  · rfl
  · rfl

mutual

/-- Every predicate is a value. -/
theorem exists_ofValue? : ∀ t : RowPredicate, ∃ f, ofValue? f = some t
  | .test path op operand => ⟨.rowTest 0 path op operand, rfl⟩
  | .combine c parts => by
    obtain ⟨tests, htests⟩ := exists_ofValues? parts
    exact ⟨.combined 0 c tests, by rw [ofValue?, htests]; rfl⟩

theorem exists_ofValues? : ∀ ts : List RowPredicate, ∃ fs, ofValues? fs = some ts
  | [] => ⟨[], rfl⟩
  | t :: ts => by
    obtain ⟨f, hf⟩ := exists_ofValue? t
    obtain ⟨fs, hfs⟩ := exists_ofValues? ts
    exact ⟨f :: fs, by rw [ofValues?, hf, hfs]⟩

end

/-! ## Calling a predicate -/

/-- Each call of a predicate on a row gives what the predicate says of the row, and has no effects. -/
def Answers (call : Value → List Value → EvalM Value) (row : Value) (fs : List Value)
    (outcomes : List Bool) : Prop :=
  List.Forall₂ (fun f b => ∀ s, call f [row] s = (.ok (.bool b), s)) fs outcomes

section

variable {call : Value → List Value → EvalM Value} {row : Value} {fs : List Value} {outcomes : List Bool}

/-- Stopping at the first predicate that does not hold makes no difference. -/
theorem Answers.allHold_eq (h : Answers call row fs outcomes) (s : RunState) :
    allHold call row fs s = (.ok (outcomes.all id), s) := by
  induction h with
  | nil => rfl
  | @cons f b fs outcomes hf _ ih =>
    rw [allHold, EvalM.bind_apply, hf s]
    cases b with
    | true => exact ih
    | false => rfl

/-- Stopping at the first predicate that holds makes no difference. -/
theorem Answers.anyHolds_eq (h : Answers call row fs outcomes) (s : RunState) :
    anyHolds call row fs s = (.ok (outcomes.any id), s) := by
  induction h with
  | nil => rfl
  | @cons f b fs outcomes hf _ ih =>
    rw [anyHolds, EvalM.bind_apply, hf s]
    cases b with
    | true => rfl
    | false => exact ih

/-- What a combination says of a row is what joins the truth values of its parts. -/
theorem Answers.evalRow_eq (h : Answers call row fs outcomes) (c : Combinator) (s : RunState) :
    evalRow call (.combined c fs) row s = (.ok (.bool (c.joins outcomes)), s) := by
  cases c with
  | allOf =>
    rw [evalRow, EvalM.bind_apply, h.allHold_eq s]
    rfl
  | anyOf =>
    rw [evalRow, EvalM.bind_apply, h.anyHolds_eq s]
    rfl
  | noneOf =>
    rw [evalRow, EvalM.bind_apply, h.anyHolds_eq s]
    rfl

end

section

variable (h : Host) (row : Value)

/-- Several predicates answer if every predicate that is not higher than they are does. -/
theorem answers_of_height_le {n : Nat} (hcall : ∀ {f : Value} {t : RowPredicate}, ofValue? f = some t →
    t.height ≤ n → ∀ s, callAt h n f [row] s = (.ok (.bool (t.holds row)), s)) {fs : List Value} :
    ∀ {ts : List RowPredicate}, ofValues? fs = some ts → heightAll ts ≤ n →
      Answers (callAt h n) row fs (holdsAll ts row) := by
  induction fs with
  | nil =>
    intro ts hts _
    obtain rfl := Option.some.inj hts
    exact .nil
  | cons f fs ih =>
    intro ts hts hheight
    obtain ⟨t, rest, rfl, hf, hrest⟩ := ofValues?_cons_eq_some hts
    have hmax : max t.height (heightAll rest) ≤ n := hheight
    exact .cons (hcall hf (by omega)) (ih hrest (by omega))

/-- Calling a predicate gives its truth value, if as many calls may still be nested as it is high. Each level
of the tree takes one of them. -/
theorem callAt_eq : ∀ {n : Nat} {f : Value} {t : RowPredicate}, ofValue? f = some t → t.height ≤ n →
    ∀ s, callAt h n f [row] s = (.ok (.bool (t.holds row)), s) := by
  intro n
  induction n with
  | zero =>
    intro f t _ hheight
    have hpos := t.height_pos
    omega
  | succ n ih =>
    intro f t hf hheight s
    obtain ⟨stamp, path, op, operand, rfl, rfl⟩ | ⟨stamp, c, tests, parts, rfl, rfl, hparts⟩ :=
      ofValue?_cases hf
    · exact callRow_of_ok rfl h
    · have hheight : heightAll parts + 1 ≤ n + 1 := hheight
      have hanswers := answers_of_height_le h row ih hparts (by omega)
      exact callRow_of_ok (hanswers.evalRow_eq c s) h

end

end RowPredicate

/-! ## Filtering -/

/-- Selecting items with a test that gives a truth value for each of them, and has no effects. -/
theorem Sequence.selectFrom_run {call : Value → List Value → EvalM Value} {f : Value} {s : RunState}
    {test : Value → Bool} (wanted : Bool) {items : List Value}
    (hcall : ∀ x ∈ items, call f [x] s = (.ok (.bool (test x)), s)) : ∀ done : List Value,
      (selectFrom wanted f done items).run call s =
        (.ok (.vector (done.reverse ++ items.filter fun x => test x == wanted)), s) := by
  induction items with
  | nil =>
    intro done
    rw [List.filter_nil, List.append_nil]
    rfl
  | cons x items ih =>
    intro done
    obtain ⟨hx, hitems⟩ := List.forall_mem_cons.1 hcall
    have hstep : (selectFrom wanted f done (x :: items)).run call s =
        (selectFrom wanted f (if test x == wanted then x :: done else done) items).run call s := by
      rw [selectFrom, Action.run_call, EvalM.bind_apply, hx]
      rfl
    have hkept : (if test x == wanted then x :: done else done).reverse ++
          (items.filter fun x => test x == wanted) =
        done.reverse ++ (x :: items).filter fun x => test x == wanted := by
      rw [List.filter_cons]
      split
      · rw [List.reverse_cons, List.append_assoc, List.singleton_append]
      · rfl
    rw [hstep, ih hitems, hkept]

namespace RowPredicate

/-- `filter` keeps the rows of which a predicate holds. It takes one more level of calls. -/
theorem callAt_filter (h : Host) {n : Nat} {f : Value} {t : RowPredicate} (hf : ofValue? f = some t)
    (hheight : t.height ≤ n) (rows : List Value) (s : RunState) :
    callAt h (n + 1) (.builtin (.sequence .filter)) [f, .vector rows] s =
      (.ok (.vector (rows.filter t.holds)), s) := by
  have hact : (Builtin.sequence .filter).act [f, .vector rows] = Sequence.selectFrom true f [] rows := by
    have hcallable : f.asCallable "filter" = .ok f := if_pos (callable_of_ofValue? hf)
    change (f.asCallable "filter" : Action Value) >>= _ = _
    rw [hcallable]
    rfl
  have htest : (fun row => t.holds row == true) = t.holds := funext fun row => beq_true _
  rw [callAt_builtin, hact, Sequence.selectFrom_run true fun row _ => callAt_eq h row hf hheight s, htest]
  rfl

/-! ## Expressions for predicates -/

section

variable (h : Host) (call : Value → List Value → EvalM Value) (env : Env)

/-- Evaluating expressions one after the other makes predicates. The operands of `where` are evaluated when a
predicate is made, and every predicate takes a stamp. -/
inductive Makes : RunState → List Expr → List RowPredicate → RunState → Prop
  /-- There is nothing left to make. -/
  | nil {s : RunState} : Makes s [] [] s
  /-- A test without operand. -/
  | plain {s s' : RunState} {path : List Literal} {op : RowOp} {es : List Expr} {ts : List RowPredicate} :
    Makes { s with stamp := s.stamp + 1 } es ts s' →
      Makes s (.rowTest path op none :: es) (.test path op .nil :: ts) s'
  /-- A test with an operand. -/
  | test {s s₁ s' : RunState} {path : List Literal} {op : RowOp} {e : Expr} {v : Value} {es : List Expr}
    {ts : List RowPredicate} : eval h call e env s = (.ok v, s₁) →
    Makes { s₁ with stamp := s₁.stamp + 1 } es ts s' →
      Makes s (.rowTest path op (some e) :: es) (.test path op v :: ts) s'
  /-- A combination. -/
  | combine {s s₁ s' : RunState} {c : Combinator} {tests es : List Expr} {parts ts : List RowPredicate} :
    Makes s tests parts s₁ → Makes { s₁ with stamp := s₁.stamp + 1 } es ts s' →
      Makes s (.combine c tests :: es) (.combine c parts :: ts) s'

variable {h call env}

/-- One more expression whose value is a predicate. -/
theorem evalTests_cons {e : Expr} {es : List Expr} {f : Value} {t : RowPredicate} {ts : List RowPredicate}
    {s s₁ s' : RunState} (he : eval h call e env s = (.ok f, s₁)) (hf : ofValue? f = some t)
    (hes : ∃ fs, evalTests h call es env s₁ = (.ok fs, s') ∧ ofValues? fs = some ts) :
    ∃ fs, evalTests h call (e :: es) env s = (.ok fs, s') ∧ ofValues? fs = some (t :: ts) := by
  obtain ⟨fs, hfs, hts⟩ := hes
  refine ⟨f :: fs, ?_, ?_⟩
  · rw [evalTests, EvalM.bind_apply, he]
    dsimp only
    rw [if_pos (callable_of_ofValue? hf), EvalM.bind_apply, hfs]
    rfl
  · rw [ofValues?, hf, hts]

theorem evalTests_singleton {e : Expr} {fs : List Value} {s s' : RunState}
    (hes : evalTests h call [e] env s = (.ok fs, s')) :
    ∃ f, fs = [f] ∧ eval h call e env s = (.ok f, s') := by
  rw [evalTests, EvalM.bind_apply] at hes
  rcases he : eval h call e env s with ⟨e | f, s₁⟩
  · rw [he] at hes
    cases hes
  · rw [he] at hes
    dsimp only at hes
    split at hes
    · cases hes
      exact ⟨f, rfl, rfl⟩
    · cases hes

/-- Evaluating expressions that make predicates gives values that are these predicates. -/
theorem Makes.evalTests_eq {es : List Expr} {ts : List RowPredicate} {s s' : RunState}
    (hmakes : Makes h call env s es ts s') :
    ∃ fs, evalTests h call es env s = (.ok fs, s') ∧ ofValues? fs = some ts := by
  induction hmakes with
  | nil => exact ⟨[], rfl, rfl⟩
  | @plain s s' path op es ts _ ih =>
    have he : eval h call (.rowTest path op none) env s =
        (.ok (.rowTest s.stamp path op .nil), { s with stamp := s.stamp + 1 }) := by
      rw [eval]
      rfl
    exact evalTests_cons he rfl ih
  | @test s s₁ s' path op e v es ts hv _ ih =>
    have he : eval h call (.rowTest path op (some e)) env s =
        (.ok (.rowTest s₁.stamp path op v), { s₁ with stamp := s₁.stamp + 1 }) := by
      rw [eval, EvalM.bind_apply, hv]
      rfl
    exact evalTests_cons he rfl ih
  | @combine s s₁ s' c tests es parts ts _ _ ihparts ih =>
    obtain ⟨gs, hgs, hparts⟩ := ihparts
    have he : eval h call (.combine c tests) env s =
        (.ok (.combined s₁.stamp c gs), { s₁ with stamp := s₁.stamp + 1 }) := by
      rw [eval, EvalM.bind_apply, hgs]
      rfl
    have hf : ofValue? (.combined s₁.stamp c gs) = some (.combine c parts) := by
      rw [ofValue?, hparts]
      rfl
    exact evalTests_cons he hf ih

/-- A call of `filter` by its name calls it with the predicate and the rows. -/
theorem eval_filter {e rowsExpr : Expr} {t : RowPredicate} {rows : List Value} {s s₁ s₂ : RunState}
    (hname : Env.lookup? env "filter" = some (.builtin (.sequence .filter)))
    (hmakes : Makes h call env s [e] [t] s₁)
    (hrows : eval h call rowsExpr env s₁ = (.ok (.vector rows), s₂)) :
    ∃ f, ofValue? f = some t ∧
      eval h call (.call (.var "filter") [e, rowsExpr]) env s =
        call (.builtin (.sequence .filter)) [f, .vector rows] s₂ := by
  obtain ⟨fs, hfs, hts⟩ := hmakes.evalTests_eq
  obtain ⟨f, rfl, hf⟩ := evalTests_singleton hfs
  obtain ⟨t', rest, htrest, hft, -⟩ := ofValues?_cons_eq_some hts
  obtain rfl := (List.cons.inj htrest).1
  refine ⟨f, hft, ?_⟩
  have hcallee : eval h call (.var "filter") env s = (.ok (.builtin (.sequence .filter)), s) := by
    rw [eval, lookupVar, hname]
    rfl
  have hargs : evalAll h call [e, rowsExpr] env s = (.ok [f, .vector rows], s₂) := by
    rw [evalAll, EvalM.bind_apply, hf]
    dsimp only
    rw [evalAll, EvalM.bind_apply, EvalM.bind_apply, hrows]
    rfl
  rw [eval, EvalM.bind_apply, hcallee]
  dsimp only
  rw [EvalM.bind_apply, hargs]

end

end RowPredicate

/-- Predicates that `where` and the combinators make have a meaning: a combination says of a row what it makes
of what its parts say, and every such predicate is a value. Calling it on a row, while `d` calls are nested,
gives what it says of the row, without an error and without effects, if the limit of nested calls leaves room
for its height.

So the expression `(filter tree rows)` gives the rows of which the predicate holds, in their order, if there is
room for one more call. -/
theorem row_predicates_have_meaning (h : Host) (t : RowPredicate) :
    (∀ c parts row, (RowPredicate.combine c parts).holds row = c.joins (parts.map fun p => p.holds row)) ∧
    (∃ f, RowPredicate.ofValue? f = some t) ∧
    (∀ f d row s, RowPredicate.ofValue? f = some t → d + t.height ≤ h.limits.recursion →
      callAt h (h.limits.recursion - d) f [row] s = (.ok (.bool (t.holds row)), s)) ∧
    ∀ d env e rowsExpr rows s s₁ s₂, d + t.height + 1 ≤ h.limits.recursion →
      Env.lookup? env "filter" = some (.builtin (.sequence .filter)) →
      RowPredicate.Makes h (callAt h (h.limits.recursion - d)) env s [e] [t] s₁ →
      eval h (callAt h (h.limits.recursion - d)) rowsExpr env s₁ = (.ok (.vector rows), s₂) →
      eval h (callAt h (h.limits.recursion - d)) (.call (.var "filter") [e, rowsExpr]) env s =
        (.ok (.vector (rows.filter t.holds)), s₂) := by
  refine ⟨RowPredicate.holds_combine, t.exists_ofValue?, ?_, ?_⟩
  · intro f d row s hf hroom
    exact RowPredicate.callAt_eq h row hf (by omega) s
  · intro d env e rowsExpr rows s s₁ s₂ hroom hname hmakes hrows
    obtain ⟨f, hf, heval⟩ := RowPredicate.eval_filter hname hmakes hrows
    obtain ⟨n, hn⟩ : ∃ n, h.limits.recursion - d = n + 1 := ⟨h.limits.recursion - d - 1, by omega⟩
    rw [heval, hn]
    exact RowPredicate.callAt_filter h hf (by omega) rows s₂

/-- A predicate of three levels filters rows of any shape if no more than four calls may be nested. The operand
is the value of a variable. -/
theorem row_predicates_have_meaning_at_limit :
    ∃ (h : Host) (s s' : RunState),
      h.limits.recursion = 4 ∧
      eval h (callAt h 4) (.call (.var "filter")
          [.combine .allOf [.combine .noneOf [.rowTest [.keyword "age"] .gt (some (.var "limit")),
            .combine .anyOf []], .combine .allOf []], .var "rows"])
          [("filter", .builtin (.sequence .filter)), ("limit", .ofNat 30),
            ("rows", .vector [.map [(.keyword "age", .ofNat 40)], .nil, .map [(.keyword "age", .ofNat 20)],
              .ofNat 5])] s =
        (.ok (.vector [.nil, .map [(.keyword "age", .ofNat 20)], .ofNat 5]), s') := by
  let h : Host := { Host.bare with limits := ⟨0, 4⟩ }
  let s : RunState := .fresh
  let env : Env := [("filter", .builtin (.sequence .filter)), ("limit", .ofNat 30),
    ("rows", .vector [.map [(.keyword "age", .ofNat 40)], .nil, .map [(.keyword "age", .ofNat 20)], .ofNat 5])]
  let tree : RowPredicate := .combine .allOf
    [.combine .noneOf [.test [.keyword "age"] .gt (.ofNat 30), .combine .anyOf []], .combine .allOf []]
  -- making the predicate takes five stamps
  have hmakes : RowPredicate.Makes h (callAt h 4) env s
      [.combine .allOf [.combine .noneOf [.rowTest [.keyword "age"] .gt (some (.var "limit")),
        .combine .anyOf []], .combine .allOf []]] [tree] { s with stamp := 5 } :=
    .combine (.combine (.test rfl (.combine .nil .nil)) (.combine .nil .nil)) .nil
  have hfilter := (row_predicates_have_meaning h tree).2.2.2 0 env _ (.var "rows") _ s _ _ (by decide) rfl
    hmakes rfl
  exact ⟨h, s, _, rfl, hfilter⟩

end ToolLisp
