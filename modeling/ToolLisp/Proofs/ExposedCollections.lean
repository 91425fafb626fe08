import ToolLisp.Proofs.ExposedFunctions
import ToolLisp.Proofs.Grouping

/-!
# Sequence functions with ranges

The functions on sequences with their arguments read by place and with operations that fault outside of their
range. They skip and take items, count the items that pass a test, measure a progression with 128 bits, halve a
list that is sorted, and count items with 64 bits. None of this leaves its range (`Exposed.sequence_safe`). Counts
are the one place where that depends on the sizes of the arguments: a count is at most the number of items so far
(`CountsUpTo`), and a collection has less than `2 ^ 63` of them.
-/

namespace ToolLisp

open FaultM

namespace Exposed

/-! ## Cutting -/

/-- All items but the first. -/
def dropFront (items : List Value) (n : Nat) : FaultM Value := do
  let out ← skipFirst items (Nat.min n items.length)
  pure (.vector out)

/-- The first items. -/
def keepFront (items : List Value) (n : Nat) : FaultM Value := do
  let out ← takeFirst items (Nat.min n items.length)
  pure (.vector out)

/-- A part of a collection that is cut at a count. -/
def cut (name : String) (f : List Value → Nat → FaultM Value) (n v : Value) : FaultM Value := do
  let n ← n.asIndex name
  let items ← v.items name
  f items n

/-- What is dropped is bounded by the length, so the cut is in range. -/
theorem dropFront_eq (items : List Value) (n : Nat) : dropFront items n = pure (.vector (items.drop n)) := by
  rw [dropFront, skipFirst_eq (Nat.min_le_right n items.length)]
  by_cases hn : n ≤ items.length
  · rw [Nat.min_eq_left hn]
    rfl
  · rw [Nat.min_eq_right (by omega), List.drop_length, List.drop_eq_nil_of_le (by omega)]
    rfl

theorem keepFront_eq (items : List Value) (n : Nat) : keepFront items n = pure (.vector (items.take n)) := by
  rw [keepFront, takeFirst_eq (Nat.min_le_right n items.length)]
  by_cases hn : n ≤ items.length
  · rw [Nat.min_eq_left hn]
    rfl
  · rw [Nat.min_eq_right (by omega), List.take_length, List.take_of_length_le (by omega)]
    rfl

/-- A part of the items, if the cut is in range for all counts and items. -/
theorem cut_safe (name : String) {f : List Value → Nat → FaultM Value} {g : Nat → List Value → List Value}
    (hf : ∀ items n, f items n = pure (.vector (g n items))) (n v : Value) :
    Safe (cut name f n v) (.ofChecked (Sequence.cut name g n v)) := by
  refine Safe.ofChecked_bind fun n _ => Safe.ofChecked_bind fun items _ => ?_
  rw [hf]
  rfl

/-- How many of the first items pass a test, after some that do. -/
def passing (f : Value) (n : Nat) : List Value → Action Nat
  | [] => .done n
  | x :: rest => .call f [x] fun r => if r.truthy then passing f (n + 1) rest else .done n

/-- All items but the first that pass a test. -/
def dropPassing (f : Value) (items : List Value) : FaultM Value := do
  let n ← passing f 0 items
  dropFront items n

/-- Dropping the items that pass, after some that do, is dropping what is counted. -/
theorem passing_drop (f : Value) (front items : List Value) :
    Safe (liftM (passing f front.length items) >>= dropFront (front ++ items))
      (Sequence.dropWhileFrom f items) := by
  induction items generalizing front with
  | nil =>
    change dropFront (front ++ []) front.length = _
    rw [dropFront_eq, List.drop_left]
    rfl
  | cons x rest ih =>
    refine Safe.call_bind fun r => ?_
    by_cases hr : r.truthy = true
    · have hstep := ih (front ++ [x])
      rw [List.append_assoc, List.length_append] at hstep
      rw [if_pos hr, if_pos hr]
      exact hstep
    · rw [if_neg hr, if_neg hr]
      change dropFront (front ++ x :: rest) front.length = _
      rw [dropFront_eq, List.drop_left]
      rfl

/-- The items that pass are counted first, and there are not more of them than items. -/
theorem dropPassing_safe (f : Value) (items : List Value) :
    Safe (dropPassing f items) (Sequence.dropWhileFrom f items) :=
  passing_drop f [] items

/-- The results of a function on the items of any number of collections. -/
def mapLists (f : Value) (colls : List Value) : Action Value := do
  let f ← f.asCallable "map"
  let lists ← colls.mapM (·.items "map")
  let results ← Action.collect f [] (Sequence.columns lists)
  return .vector results

/-- Calls a function with the arguments between the first and the last one, and the items of the last one. -/
def spread (args : List Value) : FaultM Value := do
  let f ← item args 0
  let f ← f.asCallable "apply"
  let items ← (args.getLast?.getD .nil).items "apply"
  let front ← sliceFrom args.dropLast 1
  Action.invoke f (front ++ items)

/-- The last argument is read apart from the others, and there is one. -/
theorem spread_safe (f v : Value) (rest : List Value) :
    Safe (spread (f :: v :: rest)) (Sequence.spread f v rest) := by
  refine Safe.checked_bind fun f _ => ?_
  refine Safe.checked_bind fun items _ => ?_
  have hlength : 1 ≤ (f :: (v :: rest).dropLast).length := Nat.le_add_left 1 _
  exact congrArg (· >>= fun front => liftM (Action.invoke f (front ++ items))) (sliceFrom_eq hlength)

/-! ## Progressions -/

/-- The bounds and the step of a progression. -/
def bounds : List Number → FaultM (Number × Number × Number)
  | [a, b, c] => pure (a, b, c)
  | [a, b] => pure (a, b, .int 1)
  | nums => do
    let a ← item nums 0
    pure (.int 0, a, .int 1)

/-- How often a stride fits into a distance, rounded up. This is computed with 128 bits. -/
def steps (distance stride : ℤ) : FaultM Nat := do
  let distance ← int128 distance
  let stride ← int128 stride
  if distance ≤ 0 then pure 0
  else do
    let sum ← int128 (distance + stride)
    let sum ← int128 (sum - 1)
    let n ← divInt128 sum stride
    pure n.toNat

/-- The number of elements of a progression. -/
def rangeLength : Number → Number → Number → FaultM (Option Nat)
  | .int first, .int last, .int step => do
    let n ← if 0 < step.toInt then steps (last.toInt - first.toInt) step.toInt
      else steps (first.toInt - last.toInt) (-step.toInt)
    pure (some n)
  | first, last, step => pure (Sequence.rangeLength first last step)

/-- An arithmetic progression. -/
def progression (first last step : Number) : FaultM (Except ArithmeticError (List Value)) :=
  if step.isZero || step.isNaN then pure (.error (.zeroStep "range"))
  else do
    match ← rangeLength first last step with
    | none => pure (.error (.tooLong "range" Sequence.rangeLimit))
    | some n =>
      if Sequence.rangeLimit < n then pure (.error (.tooLong "range" Sequence.rangeLimit))
      else pure (Sequence.rangeFrom step first [] n)

/-- A progression as a value. -/
def asVector : Except ArithmeticError (List Value) → Checked Value
  | .ok items => .ok (.vector items)
  | .error e => .error (.arithmetic e)

/-- A progression, or the error. -/
def range (args : List Value) : FaultM Value := do
  let nums ← args.mapM (·.asNumber "range")
  let b ← bounds nums
  let items ← progression b.1 b.2.1 b.2.2
  asVector items

/-- With 128 bits the sum of a distance and a stride is in range. -/
theorem steps_eq {d k : ℤ} (hd : d ≤ 2 ^ 64) (hd' : -2 ^ 64 ≤ d) (hk : 0 < k) (hk' : k ≤ 2 ^ 63) :
    steps d k = pure ((d.toNat + k.natAbs - 1) / k.natAbs) := by
  rw [steps, int128_eq (by omega) (by omega), pure_then, int128_eq (by omega) (by omega), pure_then]
  -- the sum is below `2 ^ 65` and no quotient is greater
  by_cases hzero : d ≤ 0
  · have hnone : (d.toNat + k.natAbs - 1) / k.natAbs = 0 := Nat.div_eq_of_lt (by omega)
    rw [if_pos hzero, hnone]
  · have hsum : d + k - 1 = ((d.toNat + k.natAbs - 1 : ℕ) : ℤ) := by omega
    have hstride : k = (k.natAbs : ℤ) := by omega
    have hquotient : (d + k - 1).tdiv k = ((d.toNat + k.natAbs - 1) / k.natAbs : ℕ) := by
      rw [hsum]
      nth_rewrite 2 [hstride]
      exact (Int.ofNat_tdiv _ _).symm
    have hle : (d.toNat + k.natAbs - 1) / k.natAbs ≤ d.toNat + k.natAbs - 1 := Nat.div_le_self _ _
    have hnonneg : 0 ≤ (d + k - 1).tdiv k := hquotient ▸ Int.natCast_nonneg _
    have hlarge : (d + k - 1).tdiv k < 2 ^ 127 := by
      rw [hquotient]
      generalize (d.toNat + k.natAbs - 1) / k.natAbs = q at hle
      omega
    rw [if_neg hzero, int128_eq (by omega) (by omega), pure_then, int128_eq (by omega) (by omega), pure_then,
      divInt128_eq hk.ne' (by omega) hlarge, pure_then, hquotient, Int.toNat_natCast]

/-- A step that is not zero gives a number of steps. -/
theorem rangeLength_eq (first last : Number) {step : Number} (hstep : step.isZero = false) :
    rangeLength first last step = pure (Sequence.rangeLength first last step) := by
  rcases first with first | x
  · rcases last with last | y
    · rcases step with step | z
      · have hfirst := fitsInt64_iff.1 (fitsInt64_toInt first)
        have hlast := fitsInt64_iff.1 (fitsInt64_toInt last)
        have hbound := fitsInt64_iff.1 (fitsInt64_toInt step)
        have hzero : step.toInt ≠ 0 := by
          intro h
          have : step = 0 := Int64.toInt_inj.1 h
          subst this
          cases hstep
        rw [rangeLength, Sequence.rangeLength]
        by_cases hpos : 0 < step.toInt
        · rw [if_pos hpos, if_pos hpos, steps_eq (by omega) (by omega) hpos (by omega)]
          rfl
        · rw [if_neg hpos, if_neg hpos, steps_eq (by omega) (by omega) (by omega) (by omega), Int.natAbs_neg]
          rfl
      · rfl
    · rfl
  · rfl

/-- A step of zero is refused before anything is divided by it. -/
theorem progression_eq (first last step : Number) :
    progression first last step = pure (Sequence.progression first last step) := by
  rw [progression, Sequence.progression]
  cases hzero : step.isZero with
  | true => rfl
  | false =>
    cases hnan : step.isNaN with
    | true => rfl
    | false =>
      simp only [Bool.or_self, Bool.false_eq_true, if_false]
      rw [rangeLength_eq first last hzero, pure_then]
      cases Sequence.rangeLength first last step with
      | none => rfl
      | some n =>
        dsimp only
        by_cases hn : Sequence.rangeLimit < n
        · rw [if_pos hn, if_pos hn]
        · rw [if_neg hn, if_neg hn]

/-- With one argument a range starts at zero and goes up by one. -/
theorem range_one (a : Number) :
    Sequence.range (.number a) none none = asVector (Sequence.progression (.int 0) a (.int 1)) := by
  simp only [Sequence.range, Value.asNumber, Option.mapM_none, bind, Except.bind, pure, Except.pure]
  cases Sequence.progression (.int 0) a (.int 1) <;> rfl

/-- With two arguments a range goes up by one. -/
theorem range_between (a b : Number) (c : Option Number) :
    Sequence.range (.number a) (some (.number b)) (c.map .number) =
      asVector (Sequence.progression a b (c.getD (.int 1))) := by
  cases c with
  | none =>
    simp only [Sequence.range, Value.asNumber, Option.map_none, Option.mapM_none, Option.mapM_some, Except.map_ok,
      bind, Except.bind, pure, Except.pure, Option.getD_none]
    cases Sequence.progression a b (.int 1) <;> rfl
  | some c =>
    simp only [Sequence.range, Value.asNumber, Option.map_some, Option.mapM_some, Except.map_ok, bind, Except.bind,
      pure, Except.pure, Option.getD_some]
    cases Sequence.progression a b c <;> rfl

/-- What is not a number is refused before it is computed with. -/
theorem range_safe_one (v : Value) : Safe (range [v]) (.ofChecked (Sequence.range v none none)) := by
  cases v with
  | number a =>
    rw [range_one]
    change (progression (.int 0) a (.int 1) >>= fun items => liftM (asVector items)) = _
    rw [progression_eq]
    rfl
  | _ => rfl

theorem range_safe_numbers (a b : Number) (c : Option Number) :
    Safe (range (.number a :: .number b :: (c.map Value.number).toList))
      (.ofChecked (Sequence.range (.number a) (some (.number b)) (c.map .number))) := by
  have hrange : range (.number a :: .number b :: (c.map Value.number).toList) =
      progression a b (c.getD (.int 1)) >>= fun items => liftM (asVector items) := by
    cases c <;> rfl
  rw [range_between, hrange, progression_eq]
  rfl

theorem range_safe_two (v w : Value) : Safe (range [v, w]) (.ofChecked (Sequence.range v (some w) none)) := by
  cases v with
  | number a =>
    cases w with
    | number b => exact range_safe_numbers a b none
    | _ => rfl
  | _ => rfl

theorem range_safe_three (v w x : Value) :
    Safe (range [v, w, x]) (.ofChecked (Sequence.range v (some w) (some x))) := by
  cases v with
  | number a =>
    cases w with
    | number b =>
      cases x with
      | number c => exact range_safe_numbers a b (some c)
      | _ => rfl
    | _ => rfl
  | _ => rfl

/-! ## Sorting -/

/-- Sorts a list whose halves can be taken so often. -/
def sortAt {α : Type} (cmp : α → α → Action Ordering) : Nat → List α → FaultM (List α)
  | 0, items => pure items
  | n + 1, items =>
    if items.length ≤ 1 then pure items
    else do
      let first ← takeFirst items (items.length / 2)
      let second ← sliceFrom items (items.length / 2)
      let left ← sortAt cmp n first
      let right ← sortAt cmp n second
      ofAction (Sorting.mergeInto cmp [] left right)

/-- The items of a collection in order. -/
def sorted (comparator : Option Value) (v : Value) : FaultM Value := do
  let items ← v.items "sort"
  let items ← sortAt (Sequence.compareBy "sort" comparator) items.length items
  pure (.vector items)

/-- The items of a collection in the order of their keys. -/
def sortedBy (comparator : Option Value) (f v : Value) : FaultM Value := do
  let f ← f.asCallable "sort-by"
  let items ← v.items "sort-by"
  let keys ← Action.results f items
  let pairs ← sortAt (fun a b => Sequence.compareBy "sort-by" comparator a.1 b.1) (keys.zip items).length
    (keys.zip items)
  pure (.vector (pairs.map (·.2)))

/-- By induction on how often the list may be halved; the middle of a list is within it. -/
theorem sortAt_safe {α : Type} (cmp : α → α → Action Ordering) (n : Nat) (items : List α) :
    Safe (sortAt cmp n items) (Sorting.sortAt cmp n items) := by
  induction n generalizing items with
  | zero => rfl
  | succ n ih =>
    rw [sortAt, Sorting.sortAt]
    by_cases hshort : items.length ≤ 1
    · rw [if_pos hshort, if_pos hshort]
      rfl
    · have hhalf : items.length / 2 ≤ items.length := Nat.div_le_self _ _
      rw [if_neg hshort, if_neg hshort, takeFirst_eq hhalf, pure_then, sliceFrom_eq hhalf, pure_then]
      exact Safe.bind (ih _) fun left => Safe.bind (ih _) fun right => rfl

/-- The length of the list bounds how often it is halved. -/
theorem sorted_safe (comparator : Option Value) (v : Value) :
    Safe (sorted comparator v) (Sequence.sorted comparator v) := by
  refine Safe.checked_bind fun items _ => ?_
  exact Safe.bind (sortAt_safe _ _ _) fun _ => rfl

theorem sortedBy_safe (comparator : Option Value) (f v : Value) :
    Safe (sortedBy comparator f v) (Sequence.sortedBy comparator f v) := by
  refine Safe.checked_bind fun f _ => Safe.checked_bind fun items _ => ?_
  refine Safe.bind (Safe.lift _) fun keys => ?_
  exact Safe.bind (sortAt_safe _ _ _) fun _ => rfl

/-! ## Counts -/

/-- Counts an item. -/
def addToCount (counts : Entries) (x : Value) : FaultM Entries :=
  match Entries.get? counts x with
  | some (.number (.int n)) => do
    let n ← addInt64 n 1
    pure (Entries.insert x (.number (.int n)) counts)
  | _ => pure (Entries.insert x (.number (.int 1)) counts)

/-- Counts all items. -/
def countFrom (counts : Entries) : List Value → FaultM Entries
  | [] => pure counts
  | x :: rest => do
    let counts ← addToCount counts x
    countFrom counts rest

/-- No count is greater than a bound. -/
def CountsUpTo (bound : Nat) (counts : Entries) : Prop :=
  ∀ x n, Entries.get? counts x = some (.number (.int n)) → n.toInt ≤ bound


/-- A count that is within its bound can grow by one. -/
theorem CountsUpTo.fits_succ {bound : Nat} {counts : Entries} (h : CountsUpTo bound counts)
    (hbound : bound + 1 < 2 ^ 63) {x : Value} {n : Int64}
    (hx : Entries.get? counts x = some (.number (.int n))) : FitsInt64 (n.toInt + (1 : Int64).toInt) := by
  have hn := h x n hx
  have hlow := (fitsInt64_iff.1 (fitsInt64_toInt n)).1
  rw [fitsInt64_iff, Int64.toInt_one]
  omega

/-- One more occurrence of a value. -/
theorem addToCount_eq {bound : Nat} {counts : Entries} (h : CountsUpTo bound counts) (hbound : bound + 1 < 2 ^ 63)
    (x : Value) : addToCount counts x = pure (Sequence.addToCount counts x) := by
  rw [addToCount, Sequence.addToCount]
  cases hx : Entries.get? counts x with
  | none => rfl
  | some v =>
    cases v with
    | number n =>
      cases n with
      | int n =>
        dsimp only
        rw [addInt64_eq (h.fits_succ hbound hx), pure_then]
      | float y => rfl
    | _ => rfl

/-- A new count is one, or one more than the old one. -/
theorem counted_cases {old : Option Value} {x : Value} {n : Int64}
    (h : Sequence.counted old x = .number (.int n)) :
    n = 1 ∨ ∃ m, old = some (.number (.int m)) ∧ n = m + 1 := by
  rcases old with _ | v
  · cases h
    exact .inl rfl
  · cases v with
    | number m =>
      cases m with
      | int m =>
        cases h
        exact .inr ⟨m, rfl, rfl⟩
      | float y =>
        cases h
        exact .inl rfl
    | _ =>
      cases h
      exact .inl rfl

/-- After one more occurrence the counts are within a bound that is greater by one. -/
theorem CountsUpTo.addToCount {bound : Nat} {counts : Entries} (h : CountsUpTo bound counts)
    (hbound : bound + 1 < 2 ^ 63) (x : Value) : CountsUpTo (bound + 1) (Sequence.addToCount counts x) := by
  intro y n hy
  rw [Sequence.addToCount_eq, Entries.get?_insert] at hy
  by_cases hsame : y.same x = true
  · rw [if_pos hsame, Option.some.injEq] at hy
    rcases counted_cases hy with rfl | ⟨m, hm, rfl⟩
    · rw [Int64.toInt_one]
      omega
    · have hle := h x m hm
      rw [toInt_add_of_fits (h.fits_succ hbound hm), Int64.toInt_one]
      omega
  · rw [if_neg hsame] at hy
    have hn := h y n hy
    omega

/-- The items bound the counts. By induction on the items. -/
theorem countFrom_eq {bound : Nat} {counts : Entries} {items : List Value} (h : CountsUpTo bound counts)
    (hbound : bound + items.length < 2 ^ 63) :
    countFrom counts items = pure (items.foldl Sequence.addToCount counts) := by
  induction items generalizing bound counts with
  | nil => rfl
  | cons x rest ih =>
    rw [List.length_cons] at hbound
    rw [countFrom, addToCount_eq h (by omega), pure_then, ih (h.addToCount (by omega) x) (by omega),
      List.foldl_cons]

/-- How often each item of a collection occurs. -/
def frequencies (v : Value) : FaultM Value := do
  let items ← v.items "frequencies"
  let counts ← countFrom [] items
  pure (.map counts)

/-- Fewer items than the greatest number are counted in range. -/
theorem frequencies_safe {v : Value}
    (hsize : ∀ items, v.items "frequencies" = .ok items → items.length < 2 ^ 63) :
    Safe (frequencies v) (.ofChecked (Sequence.frequencies v)) := by
  refine Safe.ofChecked_bind fun items hitems => ?_
  have hnone : CountsUpTo 0 [] := by
    intro x n hx
    cases hx
  have hbound : 0 + items.length < 2 ^ 63 := by
    rw [Nat.zero_add]
    exact hsize items hitems
  rw [countFrom_eq hnone hbound]
  rfl

/-! ## The functions on sequences -/

/-- The functions on sequences. -/
def sequence (f : SequenceFn) (args : List Value) : FaultM Value :=
  match f with
  | .rest => do
    let v ← item args 0
    let items ← v.items "rest"
    dropFront items 1
  | .next => do
    let v ← item args 0
    let items ← v.items "next"
    if items.length ≤ 1 then pure .nil else dropFront items 1
  | .nth => withOptional (.sequence .nth) [0, 1] 2 args
  | .take => do
    let n ← item args 0
    let v ← item args 1
    cut "take" keepFront n v
  | .drop => do
    let n ← item args 0
    let v ← item args 1
    cut "drop" dropFront n v
  | .takeLast => do
    let n ← item args 0
    let v ← item args 1
    cut "take-last" (fun items n => dropFront items (items.length - n)) n v
  | .dropLast =>
    match args with
    | [n, v] => cut "drop-last" (fun items n => keepFront items (items.length - n)) n v
    | args => do
      let v ← item args 0
      let items ← v.items "drop-last"
      keepFront items (items.length - 1)
  | .dropWhile => do
    let f ← item args 0
    let v ← item args 1
    let f ← f.asCallable "drop-while"
    let items ← v.items "drop-while"
    dropPassing f items
  | .map | .mapv => do
    let f ← item args 0
    let colls ← sliceFrom args 1
    mapLists f colls
  | .concat | .conj | .vector | .list => (Builtin.sequence f).act args
  | .range => range args
  | .apply => spread args
  | .sort =>
    match args with
    | [f, v] => sorted (some f) v
    | args => do
      let v ← item args 0
      sorted none v
  | .sortBy =>
    match args with
    | [f, c, v] => sortedBy (some c) f v
    | args => do
      let f ← item args 0
      let v ← item args 1
      sortedBy none f v
  | .reduce => do
    let f ← item args 0
    let v ← item args 1
    if args.length = 3 then do
      let w ← item args 2
      Sequence.reduced f v (some w)
    else Sequence.reduced f v none
  | .frequencies => do
    let v ← item args 0
    frequencies v
  | .count | .isEmpty | .notEmpty | .first | .second | .last | .reverse | .distinct | .flatten | .identity
  | .sum | .avg => atPlaces (.sequence f) [0] args
  | .takeWhile | .filter | .remove | .find | .some | .every | .notAny | .mapIndexed | .keep | .zip | .into
  | .minBy | .maxBy | .groupBy | .sumBy | .avgBy | .pluck => atPlaces (.sequence f) [0, 1] args

/-- No function on sequences reads a missing argument, cuts out of range or counts out of range. One case per
function. -/
theorem sequence_safe (f : SequenceFn) {args : List Value}
    (h : (Builtin.sequence f).signature.arity.accepts args.length = true)
    (hsize : ∀ v ∈ args, ∀ items, v.items "frequencies" = .ok items → items.length < 2 ^ 63) :
    Safe (sequence f args) ((Builtin.sequence f).act args) := by
  cases f with
  | count | isEmpty | notEmpty | first | second | last | reverse | distinct | flatten | identity | sum | avg =>
    exact atPlaces_one rfl h
  | takeWhile | filter | remove | find | some | every | notAny | mapIndexed | keep | zip | into | minBy | maxBy
  | groupBy | sumBy | avgBy | pluck => exact atPlaces_two rfl h
  | concat | conj | vector | list => exact Safe.lift _
  | nth => exact withOptional_third rfl h
  | rest =>
    obtain ⟨v, rfl⟩ := exists_of_accepts_one h
    refine Safe.ofChecked_bind fun items _ => ?_
    rw [dropFront_eq]
    rfl
  | next =>
    obtain ⟨v, rfl⟩ := exists_of_accepts_one h
    refine Safe.ofChecked_bind fun items _ => ?_
    by_cases hshort : items.length ≤ 1
    · rw [if_pos hshort, if_pos hshort]
      rfl
    · rw [if_neg hshort, if_neg hshort, dropFront_eq]
      rfl
  | take =>
    obtain ⟨n, v, rfl⟩ := exists_of_accepts_two h
    exact cut_safe "take" keepFront_eq n v
  | drop =>
    obtain ⟨n, v, rfl⟩ := exists_of_accepts_two h
    exact cut_safe "drop" dropFront_eq n v
  | takeLast =>
    obtain ⟨n, v, rfl⟩ := exists_of_accepts_two h
    exact cut_safe "take-last" (fun items n => dropFront_eq items (items.length - n)) n v
  | dropLast =>
    rcases exists_of_accepts_oneOrTwo h with ⟨v, rfl⟩ | ⟨n, v, rfl⟩
    · refine Safe.ofChecked_bind fun items _ => ?_
      rw [keepFront_eq]
      rfl
    · exact cut_safe "drop-last" (fun items n => keepFront_eq items (items.length - n)) n v
  | dropWhile =>
    obtain ⟨f, v, rfl⟩ := exists_of_accepts_two h
    exact Safe.checked_bind fun f _ => Safe.checked_bind fun items _ => dropPassing_safe f items
  | map | mapv =>
    obtain ⟨f, v, rest, rfl⟩ := exists_of_accepts_atLeast_two h
    have hlength : 1 ≤ (f :: v :: rest).length := Nat.le_add_left 1 _
    change (sliceFrom (f :: v :: rest) 1 >>= fun colls => liftM (mapLists f colls)) = _
    rw [sliceFrom_eq hlength]
    rfl
  | range =>
    rcases exists_of_accepts_oneToThree h with ⟨v, rfl⟩ | ⟨v, w, rfl⟩ | ⟨v, w, x, rfl⟩
    · exact range_safe_one v
    · exact range_safe_two v w
    · exact range_safe_three v w x
  | apply =>
    obtain ⟨f, v, rest, rfl⟩ := exists_of_accepts_atLeast_two h
    exact spread_safe f v rest
  | sort =>
    rcases exists_of_accepts_oneOrTwo h with ⟨v, rfl⟩ | ⟨f, v, rfl⟩
    · exact sorted_safe none v
    · exact sorted_safe (some f) v
  | sortBy =>
    rcases exists_of_accepts_twoOrThree h with ⟨f, v, rfl⟩ | ⟨f, c, v, rfl⟩
    · exact sortedBy_safe none f v
    · exact sortedBy_safe (some c) f v
  | reduce =>
    rcases exists_of_accepts_twoOrThree h with ⟨f, v, rfl⟩ | ⟨f, v, w, rfl⟩
    · exact Safe.lift (Sequence.reduced f v none)
    · exact Safe.lift (Sequence.reduced f v (some w))
  | frequencies =>
    obtain ⟨v, rfl⟩ := exists_of_accepts_one h
    exact frequencies_safe (hsize v List.mem_cons_self)

end Exposed

end ToolLisp
