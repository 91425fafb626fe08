import ToolLisp.Builtin.Action

/-!
# Signatures

A signature is a function of a fixed number of arguments, or of any number from some number on. It
says both how many arguments are accepted and what is done with them.
-/

namespace ToolLisp

/-- A function on lists of values that accepts only lists of certain lengths. -/
inductive Signature where
  /-- One argument. -/
  | one (f : Value → Action Value)
  /-- Two arguments. -/
  | two (f : Value → Value → Action Value)
  /-- Three arguments. -/
  | three (f : Value → Value → Value → Action Value)
  /-- One or two arguments. -/
  | oneOrTwo (f : Value → Action Value) (g : Value → Value → Action Value)
  /-- Two or three arguments. -/
  | twoOrThree (f : Value → Value → Option Value → Action Value)
  /-- One, two or three arguments. -/
  | oneToThree (f : Value → Option Value → Option Value → Action Value)
  /-- Any number of arguments. -/
  | any (f : List Value → Action Value)
  /-- One argument or more. -/
  | oneOrMore (f : Value → List Value → Action Value)
  /-- Two arguments or more. -/
  | twoOrMore (f : Value → Value → List Value → Action Value)
  /-- Three arguments or more. -/
  | threeOrMore (f : Value → Value → Value → List Value → Action Value)

namespace Signature

/-- The numbers of arguments that are accepted. -/
def arity : Signature → Arity
  | .one _ => .oneOf [] 1
  | .two _ => .oneOf [] 2
  | .three _ => .oneOf [] 3
  | .oneOrTwo _ _ => .oneOf [1] 2
  | .twoOrThree _ => .oneOf [2] 3
  | .oneToThree _ => .oneOf [1, 2] 3
  | .any _ => .atLeast 0
  | .oneOrMore _ => .atLeast 1
  | .twoOrMore _ => .atLeast 2
  | .threeOrMore _ => .atLeast 3

/-- What is done with the arguments, if their number is accepted. -/
def actOn? : Signature → List Value → Option (Action Value)
  | .one f, [a] => some (f a)
  | .two f, [a, b] => some (f a b)
  | .three f, [a, b, c] => some (f a b c)
  | .oneOrTwo f _, [a] => some (f a)
  | .oneOrTwo _ g, [a, b] => some (g a b)
  | .twoOrThree f, [a, b] => some (f a b none)
  | .twoOrThree f, [a, b, c] => some (f a b (some c))
  | .oneToThree f, [a] => some (f a none none)
  | .oneToThree f, [a, b] => some (f a (some b) none)
  | .oneToThree f, [a, b, c] => some (f a (some b) (some c))
  | .any f, args => some (f args)
  | .oneOrMore f, a :: rest => some (f a rest)
  | .twoOrMore f, a :: b :: rest => some (f a b rest)
  | .threeOrMore f, a :: b :: c :: rest => some (f a b c rest)
  | _, _ => none

end Signature

end ToolLisp
