import ToolLisp.Text.Basic
import ToolLisp.Value.Entries

/-!
# Equality and comparison of values

Programs see an equality that is wider than being the same: numbers are compared by what they are
worth, across integers and doubles, and collections item by item. NaN equals nothing.

A row predicate compares a field of a row with an operand. Values that cannot be compared make the
comparison false, so that a filter skips rows that lack a field.
-/

namespace ToolLisp

/-! ## Equality -/

namespace Value

mutual

/-- Whether two values are equal for a program. -/
def equal : Value → Value → Bool
  | .number a, .number b => a.numEq b
  | .vector as, .vector bs => equalAll as bs
  | .map as, .map bs => as.length == bs.length && equalEntries as bs
  | a, b => a.same b

/-- Whether two lists have the same length and equal items. -/
def equalAll : List Value → List Value → Bool
  | [], [] => true
  | a :: as, b :: bs => equal a b && equalAll as bs
  | _, _ => false

/-- Whether every entry of the first list has an equal value in the second. -/
def equalEntries : List (Value × Value) → Entries → Bool
  | [], _ => true
  | (k, v) :: rest, m =>
    (match Entries.get? m k with
    | some w => equal v w
    | none => false) && equalEntries rest m

end

end Value

/-! ## Fields of rows -/

/-- The order of a field and an operand, if they have one. -/
def fieldOrder? : Value → Value → Option Ordering
  | .number a, .number b => a.numCompare? b
  | .string a, .string b => some (compare a b)
  | _, _ => none

/-- Whether a field and an operand are equal; `nil` equals itself only. -/
def fieldEquals : Value → Value → Bool
  | .nil, .nil => true
  | .nil, _ => false
  | _, .nil => false
  | a, b => a.equal b

/-- Whether the order of a field and an operand passes a test. -/
def fieldOrdered (test : Ordering → Bool) (field operand : Value) : Bool :=
  (fieldOrder? field operand).any test

/-- Whether a comparison of a field with an operand holds. -/
def RowOp.holds : RowOp → Value → Value → Bool
  | .truthy, field, _ => field.truthy
  | .eq, field, operand => fieldEquals field operand
  | .ne, field, operand => !fieldEquals field operand
  | .gt, field, operand => fieldOrdered (·.isGT) field operand
  | .lt, field, operand => fieldOrdered (·.isLT) field operand
  | .ge, field, operand => fieldOrdered (·.isGE) field operand
  | .le, field, operand => fieldOrdered (·.isLE) field operand
  | .includes, .string s, .string part => Text.containsPart part.toList s.toList
  | .includes, .vector items, operand => items.any (·.equal operand)
  | .includes, _, _ => false
  -- `nil` is in no list, whatever its items are
  | .within, .nil, _ => false
  | .within, field, .vector items => items.any (·.equal field)
  | .within, .string part, .string s => Text.containsPart part.toList s.toList
  | .within, _, _ => false

end ToolLisp
