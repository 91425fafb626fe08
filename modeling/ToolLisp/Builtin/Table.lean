import ToolLisp.Builtin.Access
import ToolLisp.Builtin.Fold
import ToolLisp.Builtin.Map
import ToolLisp.Builtin.Number
import ToolLisp.Builtin.Ordering
import ToolLisp.Builtin.Range
import ToolLisp.Builtin.Transform
import ToolLisp.Builtin.Signature
import ToolLisp.Builtin.Test
import ToolLisp.Builtin.Text

/-!
# The table of builtin functions

What each builtin function does with its arguments.
-/

namespace ToolLisp

namespace Sequence

/-- The arguments and the effect of each function on sequences. -/
def signature : SequenceFn → Signature
  | .count => .one fun v => itemCount v
  | .isEmpty => .one fun v => isEmpty v
  | .notEmpty => .one fun v => nonEmpty v
  | .first => .one fun v => itemAt "first" (·[0]?) v
  | .second => .one fun v => itemAt "second" (·[1]?) v
  | .last => .one fun v => itemAt "last" (·.getLast?) v
  | .rest => .one fun v => tail v
  | .next => .one fun v => nextItems v
  | .nth => .twoOrThree fun v i default => nthItem v i default
  | .take => .two fun n v => cut "take" List.take n v
  | .drop => .two fun n v => cut "drop" List.drop n v
  | .takeLast => .two fun n v => cut "take-last" lastItems n v
  | .dropLast => .oneOrTwo (fun v => butLast v) fun n v => cut "drop-last" butLastItems n v
  | .takeWhile => .two (through "take-while" (takeWhileFrom · []))
  | .dropWhile => .two (through "drop-while" dropWhileFrom)
  | .filter => .two (through "filter" (selectFrom true · []))
  | .remove => .two (through "remove" (selectFrom false · []))
  | .find => .two (through "find" findFrom)
  | .some => .two (through "some" someFrom)
  | .every => .two (through "every?" (allFrom true))
  | .notAny => .two (through "not-any?" (allFrom false))
  | .map => .twoOrMore mapItems
  | .mapv => .twoOrMore mapItems
  | .mapIndexed => .two (through "map-indexed" mapWithIndex)
  | .keep => .two (through "keep" keepResults)
  | .reverse => .one fun v => onItems "reverse" List.reverse v
  | .distinct => .one fun v => onItems "distinct" (distinctFrom []) v
  | .concat => .any fun args => concatenated args
  | .flatten => .one fun v => return flattened v
  | .zip => .two fun v w => zipped v w
  | .conj => .oneOrMore fun v rest => conjoin v rest
  | .into => .two fun v w => pour v w
  | .range => .oneToThree fun v w x => range v w x
  | .vector => .any fun args => return .vector args
  | .list => .any fun args => return .vector args
  | .identity => .one fun v => return v
  | .apply => .twoOrMore spread
  | .sort => .oneOrTwo (sorted none) fun f v => sorted (some f) v
  | .sortBy => .twoOrThree fun
    | f, v, none => sortedBy none f v
    | f, c, some v => sortedBy (some c) f v
  | .minBy => .two (through "min-by" (extremeFrom "min-by" .lt · none))
  | .maxBy => .two (through "max-by" (extremeFrom "max-by" .gt · none))
  | .reduce => .twoOrThree reduced
  | .groupBy => .two (through "group-by" (groupFrom · []))
  | .frequencies => .one fun v => frequencies v
  | .sum => .one fun v => summary "sum" sumOf v
  | .sumBy => .two (summaryBy "sum-by" sumOf)
  | .avg => .one fun v => summary "avg" meanOf v
  | .avgBy => .two (summaryBy "avg-by" meanOf)
  | .pluck => .two fun key v => fieldOfEach key v

end Sequence

namespace Builtin

/-- The arguments and the effect of a builtin function. -/
def signature : Builtin → Signature
  | .number f => f.signature
  | .test f => f.signature
  | .sequence f => Sequence.signature f
  | .map f => f.signature
  | .text f => f.signature

/-- What a builtin function does with arguments. A number of arguments that it does not take is an
error. -/
def act (f : Builtin) (args : List Value) : Action Value :=
  match f.signature.actOn? args with
  | some a => a
  | none => .fail (.wrongCount f.name f.signature.arity args.length)

end Builtin

end ToolLisp
