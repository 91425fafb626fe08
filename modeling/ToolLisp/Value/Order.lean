import ToolLisp.Value.Basic

/-!
# The order of values

Values are ordered by type and then by content. This is the order of map keys, and two values are the
same if neither comes before the other. An integer and a double are never the same here.
-/

namespace ToolLisp

namespace Value

/-- The place of a value's type among the types. -/
def rank : Value → Nat
  | .nil => 0
  | .bool _ => 1
  | .number _ => 2
  | .keyword _ => 3
  | .string _ => 4
  | .vector _ => 5
  | .map _ => 6
  | .closure .. => 7
  | .rowTest .. => 7
  | .combined .. => 7
  | .builtin _ => 8
  | .tool _ => 9

/-- The stamp of a function. -/
def stamp : Value → Nat
  | .closure n _ _ _ => n
  | .rowTest n _ _ _ => n
  | .combined n _ _ => n
  | _ => 0

mutual

/-- The order of two values. -/
def compare : Value → Value → Ordering
  | .bool a, .bool b => Ord.compare a b
  | .number a, .number b => a.totalCompare b
  | .keyword a, .keyword b => Ord.compare a b
  | .string a, .string b => Ord.compare a b
  | .vector as, .vector bs => compareAll as bs
  | .map as, .map bs => compareEntries as bs
  | .builtin f, .builtin g => Ord.compare f.name g.name
  | .tool a, .tool b => Ord.compare a b
  -- ranks tell kinds apart, and stamps tell functions apart
  | a, b => (Ord.compare a.rank b.rank).then (Ord.compare a.stamp b.stamp)

/-- The order of two lists of values: the first difference decides, and a list comes after its own
beginning. -/
def compareAll : List Value → List Value → Ordering
  | [], [] => .eq
  | [], _ :: _ => .lt
  | _ :: _, [] => .gt
  | a :: as, b :: bs => (compare a b).then (compareAll as bs)

/-- The order of two lists of entries. -/
def compareEntries : List (Value × Value) → List (Value × Value) → Ordering
  | [], [] => .eq
  | [], _ :: _ => .lt
  | _ :: _, [] => .gt
  | (k, v) :: as, (l, w) :: bs => (compare k l).then ((compare v w).then (compareEntries as bs))

end

/-- Whether two values are the same. -/
def same (a b : Value) : Bool :=
  a.compare b == .eq

end Value

end ToolLisp
