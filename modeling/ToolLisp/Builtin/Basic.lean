/-!
# Names of builtin functions

The functions that every program can call without defining them. What they do is said elsewhere; a
value only needs to know which of them it is.
-/

namespace ToolLisp

/-- Functions on numbers, and comparisons. -/
inductive NumberFn where
  /-- The sum. -/
  | add
  /-- The difference. -/
  | sub
  /-- The product. -/
  | mul
  /-- The quotient. -/
  | div
  /-- The greatest number. -/
  | max
  /-- The least number. -/
  | min
  /-- One more. -/
  | inc
  /-- One less. -/
  | dec
  /-- The absolute value. -/
  | abs
  /-- The modulus, with the sign of the divisor. -/
  | mod
  /-- The remainder, with the sign of the dividend. -/
  | rem
  /-- The quotient without its fraction. -/
  | quot
  /-- A power. -/
  | pow
  /-- The square root. -/
  | sqrt
  /-- The nearest integer. -/
  | round
  /-- The integer below. -/
  | floor
  /-- The integer above. -/
  | ceil
  /-- The number as a double. -/
  | double
  /-- The number as an integer. -/
  | int
  /-- Equality. -/
  | eq
  /-- Inequality. -/
  | ne
  /-- Strictly increasing. -/
  | lt
  /-- Strictly decreasing. -/
  | gt
  /-- Increasing. -/
  | le
  /-- Decreasing. -/
  | ge
deriving DecidableEq

namespace NumberFn

/-- All of them. -/
def all : List NumberFn :=
  [.add, .sub, .mul, .div, .max, .min, .inc, .dec, .abs, .mod, .rem, .quot, .pow, .sqrt, .round,
   .floor, .ceil, .double, .int, .eq, .ne, .lt, .gt, .le, .ge]

/-- The name by which programs know it. -/
def name : NumberFn → String
  | .add => "+"
  | .sub => "-"
  | .mul => "*"
  | .div => "/"
  | .max => "max"
  | .min => "min"
  | .inc => "inc"
  | .dec => "dec"
  | .abs => "abs"
  | .mod => "mod"
  | .rem => "rem"
  | .quot => "quot"
  | .pow => "pow"
  | .sqrt => "sqrt"
  | .round => "round"
  | .floor => "floor"
  | .ceil => "ceil"
  | .double => "double"
  | .int => "int"
  | .eq => "="
  | .ne => "not="
  | .lt => "<"
  | .gt => ">"
  | .le => "<="
  | .ge => ">="

end NumberFn

/-- Tests of one value. -/
inductive TestFn where
  /-- Whether the value is falsy. -/
  | not
  /-- Whether it is `nil`. -/
  | isNil
  /-- Whether it is not `nil`. -/
  | isSome
  /-- Whether it is a truth value. -/
  | isBoolean
  /-- Whether it is a number. -/
  | isNumber
  /-- Whether it is an integer. -/
  | isInteger
  /-- Whether it is an integer. -/
  | isInt
  /-- Whether it is a double. -/
  | isFloat
  /-- Whether it is a string. -/
  | isString
  /-- Whether it is a keyword. -/
  | isKeyword
  /-- Whether it is a vector. -/
  | isVector
  /-- Whether it is a map. -/
  | isMap
  /-- Whether it is a vector or a map. -/
  | isCollection
  /-- Whether it is a function or tool. -/
  | isFunction
  /-- Whether a number is zero. -/
  | isZero
  /-- Whether a number is positive. -/
  | isPositive
  /-- Whether a number is negative. -/
  | isNegative
  /-- Whether an integer is even. -/
  | isEven
  /-- Whether an integer is odd. -/
  | isOdd
  /-- Whether a number is NaN. -/
  | isNaN
  /-- Whether a number is infinite. -/
  | isInfinite
  /-- Whether a number is finite. -/
  | isFinite
deriving DecidableEq

namespace TestFn

/-- All of them. -/
def all : List TestFn :=
  [.not, .isNil, .isSome, .isBoolean, .isNumber, .isInteger, .isInt, .isFloat, .isString,
   .isKeyword, .isVector, .isMap, .isCollection, .isFunction, .isZero, .isPositive, .isNegative,
   .isEven, .isOdd, .isNaN, .isInfinite, .isFinite]

/-- The name by which programs know it. -/
def name : TestFn → String
  | .not => "not"
  | .isNil => "nil?"
  | .isSome => "some?"
  | .isBoolean => "boolean?"
  | .isNumber => "number?"
  | .isInteger => "integer?"
  | .isInt => "int?"
  | .isFloat => "float?"
  | .isString => "string?"
  | .isKeyword => "keyword?"
  | .isVector => "vector?"
  | .isMap => "map?"
  | .isCollection => "coll?"
  | .isFunction => "fn?"
  | .isZero => "zero?"
  | .isPositive => "pos?"
  | .isNegative => "neg?"
  | .isEven => "even?"
  | .isOdd => "odd?"
  | .isNaN => "nan?"
  | .isInfinite => "infinite?"
  | .isFinite => "finite?"

end TestFn

/-- Functions on sequences. -/
inductive SequenceFn where
  /-- The number of items. -/
  | count
  /-- Whether there are no items. -/
  | isEmpty
  /-- The collection, or `nil` if it is empty. -/
  | notEmpty
  /-- The first item. -/
  | first
  /-- The second item. -/
  | second
  /-- The last item. -/
  | last
  /-- All items but the first. -/
  | rest
  /-- All items but the first, or `nil`. -/
  | next
  /-- The item at an index. -/
  | nth
  /-- The first items. -/
  | take
  /-- All but the first items. -/
  | drop
  /-- The last items. -/
  | takeLast
  /-- All but the last items. -/
  | dropLast
  /-- The first items that pass a test. -/
  | takeWhile
  /-- The items from the first that fails a test. -/
  | dropWhile
  /-- The items that pass a test. -/
  | filter
  /-- The items that fail a test. -/
  | remove
  /-- The first item that passes a test. -/
  | find
  /-- The first truthy result. -/
  | some
  /-- Whether all items pass a test. -/
  | every
  /-- Whether no item passes a test. -/
  | notAny
  /-- The results of a function. -/
  | map
  /-- The results of a function. -/
  | mapv
  /-- The results of a function of index and item. -/
  | mapIndexed
  /-- The results that are not `nil`. -/
  | keep
  /-- The items in reverse. -/
  | reverse
  /-- The items without repetitions. -/
  | distinct
  /-- The items of several collections. -/
  | concat
  /-- The items of nested vectors. -/
  | flatten
  /-- Pairs of items. -/
  | zip
  /-- A collection with more items. -/
  | conj
  /-- A collection with the items of another. -/
  | into
  /-- An arithmetic progression. -/
  | range
  /-- The vector of the arguments. -/
  | vector
  /-- The vector of the arguments. -/
  | list
  /-- The argument itself. -/
  | identity
  /-- Calls a function with the items of a collection. -/
  | apply
  /-- The items in order. -/
  | sort
  /-- The items in the order of their keys. -/
  | sortBy
  /-- The item with the least key. -/
  | minBy
  /-- The item with the greatest key. -/
  | maxBy
  /-- Combines the items one after the other. -/
  | reduce
  /-- The items by their keys. -/
  | groupBy
  /-- How often each item occurs. -/
  | frequencies
  /-- The sum of the items. -/
  | sum
  /-- The sum of the keys. -/
  | sumBy
  /-- The mean of the items. -/
  | avg
  /-- The mean of the keys. -/
  | avgBy
  /-- One field of each item. -/
  | pluck
deriving DecidableEq

namespace SequenceFn

/-- All of them. -/
def all : List SequenceFn :=
  [.count, .isEmpty, .notEmpty, .first, .second, .last, .rest, .next, .nth, .take, .drop,
   .takeLast, .dropLast, .takeWhile, .dropWhile, .filter, .remove, .find, .some, .every, .notAny,
   .map, .mapv, .mapIndexed, .keep, .reverse, .distinct, .concat, .flatten, .zip, .conj, .into,
   .range, .vector, .list, .identity, .apply, .sort, .sortBy, .minBy, .maxBy, .reduce, .groupBy,
   .frequencies, .sum, .sumBy, .avg, .avgBy, .pluck]

/-- The name by which programs know it. -/
def name : SequenceFn → String
  | .count => "count"
  | .isEmpty => "empty?"
  | .notEmpty => "not-empty"
  | .first => "first"
  | .second => "second"
  | .last => "last"
  | .rest => "rest"
  | .next => "next"
  | .nth => "nth"
  | .take => "take"
  | .drop => "drop"
  | .takeLast => "take-last"
  | .dropLast => "drop-last"
  | .takeWhile => "take-while"
  | .dropWhile => "drop-while"
  | .filter => "filter"
  | .remove => "remove"
  | .find => "find"
  | .some => "some"
  | .every => "every?"
  | .notAny => "not-any?"
  | .map => "map"
  | .mapv => "mapv"
  | .mapIndexed => "map-indexed"
  | .keep => "keep"
  | .reverse => "reverse"
  | .distinct => "distinct"
  | .concat => "concat"
  | .flatten => "flatten"
  | .zip => "zip"
  | .conj => "conj"
  | .into => "into"
  | .range => "range"
  | .vector => "vector"
  | .list => "list"
  | .identity => "identity"
  | .apply => "apply"
  | .sort => "sort"
  | .sortBy => "sort-by"
  | .minBy => "min-by"
  | .maxBy => "max-by"
  | .reduce => "reduce"
  | .groupBy => "group-by"
  | .frequencies => "frequencies"
  | .sum => "sum"
  | .sumBy => "sum-by"
  | .avg => "avg"
  | .avgBy => "avg-by"
  | .pluck => "pluck"

end SequenceFn

/-- Functions on maps. -/
inductive MapFn where
  /-- The value at a key. -/
  | get
  /-- The value at a path of keys. -/
  | getIn
  /-- Whether there is a value at a key. -/
  | contains
  /-- The keys. -/
  | keys
  /-- The values. -/
  | vals
  /-- The entries with given keys. -/
  | selectKeys
  /-- Sets values at keys. -/
  | assoc
  /-- Sets the value at a path. -/
  | assocIn
  /-- Applies a function to the value at a key. -/
  | update
  /-- Applies a function to the value at a path. -/
  | updateIn
  /-- Removes keys. -/
  | dissoc
  /-- The entries of several maps. -/
  | merge
  /-- The map of keys and values in the same order. -/
  | zipmap
  /-- The map of alternating keys and values. -/
  | hashMap
deriving DecidableEq

namespace MapFn

/-- All of them. -/
def all : List MapFn :=
  [.get, .getIn, .contains, .keys, .vals, .selectKeys, .assoc, .assocIn, .update, .updateIn,
   .dissoc, .merge, .zipmap, .hashMap]

/-- The name by which programs know it. -/
def name : MapFn → String
  | .get => "get"
  | .getIn => "get-in"
  | .contains => "contains?"
  | .keys => "keys"
  | .vals => "vals"
  | .selectKeys => "select-keys"
  | .assoc => "assoc"
  | .assocIn => "assoc-in"
  | .update => "update"
  | .updateIn => "update-in"
  | .dissoc => "dissoc"
  | .merge => "merge"
  | .zipmap => "zipmap"
  | .hashMap => "hash-map"

end MapFn

/-- Functions on texts. -/
inductive TextFn where
  /-- The texts of the arguments. -/
  | str
  /-- The texts of the items. -/
  | join
  /-- A part of a string. -/
  | subs
  /-- The parts between separators. -/
  | split
  /-- The string in upper case. -/
  | upperCase
  /-- The string in lower case. -/
  | lowerCase
  /-- The string without white space around it. -/
  | trim
  /-- Replaces a part wherever it occurs. -/
  | replace
  /-- Whether a string contains another. -/
  | includes
  /-- Whether a string begins with another. -/
  | startsWith
  /-- Whether a string ends with another. -/
  | endsWith
  /-- The first match of a pattern. -/
  | reFind
  /-- The match of a pattern with a whole string. -/
  | reMatches
  /-- The integer that a string spells. -/
  | parseLong
  /-- The double that a string spells. -/
  | parseDouble
  /-- The name of a keyword. -/
  | nameOf
  /-- The keyword of a name. -/
  | keywordOf
deriving DecidableEq

namespace TextFn

/-- All of them. -/
def all : List TextFn :=
  [.str, .join, .subs, .split, .upperCase, .lowerCase, .trim, .replace, .includes, .startsWith,
   .endsWith, .reFind, .reMatches, .parseLong, .parseDouble, .nameOf, .keywordOf]

/-- The name by which programs know it. -/
def name : TextFn → String
  | .str => "str"
  | .join => "join"
  | .subs => "subs"
  | .split => "split"
  | .upperCase => "upper-case"
  | .lowerCase => "lower-case"
  | .trim => "trim"
  | .replace => "replace"
  | .includes => "includes?"
  | .startsWith => "starts-with?"
  | .endsWith => "ends-with?"
  | .reFind => "re-find"
  | .reMatches => "re-matches"
  | .parseLong => "parse-long"
  | .parseDouble => "parse-double"
  | .nameOf => "name"
  | .keywordOf => "keyword"

end TextFn

/-- A builtin function. -/
inductive Builtin where
  /-- A function on numbers, or a comparison. -/
  | number (f : NumberFn)
  /-- A test of one value. -/
  | test (f : TestFn)
  /-- A function on sequences. -/
  | sequence (f : SequenceFn)
  /-- A function on maps. -/
  | map (f : MapFn)
  /-- A function on texts. -/
  | text (f : TextFn)
deriving DecidableEq

namespace Builtin

/-- All builtin functions. -/
def all : List Builtin :=
  NumberFn.all.map .number ++ TestFn.all.map .test ++ SequenceFn.all.map .sequence ++
    MapFn.all.map .map ++ TextFn.all.map .text

/-- The name by which programs know a builtin function. -/
def name : Builtin → String
  | .number f => f.name
  | .test f => f.name
  | .sequence f => f.name
  | .map f => f.name
  | .text f => f.name

/-- The builtin function of a name. -/
def named? (name : String) : Option Builtin :=
  all.find? (·.name == name)

/-- The names of all builtin functions in order. -/
def names : List String :=
  (all.map name).mergeSort fun a b => (compare a b).isLE

/-- Whether a name belongs to a builtin function. -/
def isName (name : String) : Bool :=
  all.any (·.name == name)

end Builtin

end ToolLisp
