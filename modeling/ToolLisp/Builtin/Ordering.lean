import ToolLisp.Builtin.Argument
import ToolLisp.Value.Order

/-!
# Sorting collections

The natural order is the one in which collections are sorted. It agrees with the order of map keys, but it
refuses to order values of different types, apart from `nil`, which comes first. Items are sorted in their
natural order, in the order of their keys, or in the order that a comparator gives. A comparator is `:asc`,
`:desc`, or something to call: it returns a number whose sign is the order, or a truth value that says
whether its first argument comes first.

All of this is done by one stable merge sort, whose comparisons may have effects, fail, or contradict each
other. The effects happen in the order of the comparisons, and a failing comparison is the last one.
-/

namespace ToolLisp

/-! ## Merge sort -/

namespace Sorting

variable {m : Type → Type} [Monad m] {α : Type}

/-- Moves the items that come before `l` behind those that are done, which stand in reverse. -/
def passSmaller (cmp : α → α → m Ordering) (l : α) (done : List α) :
    List α → m (List α × List α)
  | [] => pure (done, [])
  | r :: right => do
    match ← cmp r l with
    | .lt => passSmaller cmp l (r :: done) right
    | _ => pure (done, r :: right)

/-- Merges two sorted lists behind the items that are done. Of equal items, those on the left come
first. -/
def mergeInto (cmp : α → α → m Ordering) (done : List α) : List α → List α → m (List α)
  | [], right => pure (done.reverse ++ right)
  | l :: left, right => do
    let (done, right) ← passSmaller cmp l done right
    mergeInto cmp (l :: done) left right

/-- Sorts a list whose halves can be taken so often. -/
def sortAt (cmp : α → α → m Ordering) : Nat → List α → m (List α)
  | 0, items => pure items
  | n + 1, items =>
    if items.length ≤ 1 then pure items
    else do
      let left ← sortAt cmp n (items.take (items.length / 2))
      let right ← sortAt cmp n (items.drop (items.length / 2))
      mergeInto cmp [] left right

/-- Sorts a list. Both halves of a list of two or more items are shorter than the list, so its length
bounds the number of halvings. -/
def mergeSort (cmp : α → α → m Ordering) (items : List α) : m (List α) :=
  sortAt cmp items.length items

end Sorting

/-! ## The natural order -/

namespace Value

/-- The error of a builtin function that cannot order two values. -/
def incomparable {α : Type} (name : String) (a b : Value) : Checked α :=
  .error (.type (.incomparable name a b))

mutual

/-- The natural order of two values. -/
def naturalCompare (name : String) : Value → Value → Checked Ordering
  | .nil, b => .ok (Value.nil.compare b)
  | .number a, .number b => .ok (a.totalCompare b)
  | .string a, .string b => .ok (Ord.compare a b)
  | .keyword a, .keyword b => .ok (Ord.compare a b)
  | .bool a, .bool b => .ok (Ord.compare a b)
  | .vector as, .vector bs => naturalCompareAll name as bs
  | a, .nil => .ok (a.compare .nil)
  | a, b => incomparable name a b

/-- The natural order of two lists: the first difference decides, then the length. -/
def naturalCompareAll (name : String) : List Value → List Value → Checked Ordering
  | a :: as, b :: bs =>
    match naturalCompare name a b with
    | .ok .eq => naturalCompareAll name as bs
    | other => other
  | as, bs => .ok (Ord.compare as.length bs.length)

end

end Value

/-! ## Sorted collections -/

namespace Sequence

/-- The order of two values by calling a comparator. If it does not put the first value first, it is
asked about the second one too. -/
def compareByCall (f a b : Value) : Action Ordering :=
  .call f [a, b] fun
    | .number n => .done ((n.numCompare? (.int 0)).getD .eq)
    | r =>
      if r.truthy then .done .lt
      else .call f [b, a] fun r => .done (if r.truthy then .gt else .eq)

/-- The order of two values by a comparator. -/
def compareBy (name : String) : Option Value → Value → Value → Action Ordering
  | none, a, b => .ofChecked (a.naturalCompare name b)
  | some (.keyword "asc"), a, b => .ofChecked (a.naturalCompare name b)
  | some (.keyword "desc"), a, b => .ofChecked (b.naturalCompare name a)
  | some (.keyword order), _, _ => .fail (.type (.sortOrder name order))
  | some f, a, b => compareByCall f a b

/-- The items of a collection in order. -/
def sorted (comparator : Option Value) (v : Value) : Action Value := do
  let items ← v.items "sort"
  let items ← Sorting.mergeSort (compareBy "sort" comparator) items
  return .vector items

/-- The items of a collection in the order of their keys. -/
def sortedBy (comparator : Option Value) (f v : Value) : Action Value := do
  let f ← f.asCallable "sort-by"
  let items ← v.items "sort-by"
  let keys ← Action.results f items
  let pairs ← Sorting.mergeSort (fun a b => compareBy "sort-by" comparator a.1 b.1) (keys.zip items)
  return .vector (pairs.map (·.2))

/-- Whether a key replaces the best one so far. -/
def improves (name : String) (wanted : Ordering) (key : Value) :
    Option (Value × Value) → Checked Bool
  | none => .ok true
  | some (best, _) => do
    let o ← key.naturalCompare name best
    return o == wanted

/-- The item whose key compares as wanted with all others; of several, the first. Items whose key is
`nil` are left out. -/
def extremeFrom (name : String) (wanted : Ordering) (f : Value) (best : Option (Value × Value)) :
    List Value → Action Value
  | [] => .done ((best.map (·.2)).getD .nil)
  | x :: rest => .call f [x] fun key =>
    if key.isNil then extremeFrom name wanted f best rest
    else
      match improves name wanted key best with
      | .ok true => extremeFrom name wanted f (some (key, x)) rest
      | .ok false => extremeFrom name wanted f best rest
      | .error e => .fail e

end Sequence

end ToolLisp
