import ToolLisp.Text.Quoted
import ToolLisp.Value.Basic

/-!
# Errors of a running program

Everything that can stop a program that has been read and analysed. An error is a cause; its message
and its tag are computed from the cause.
-/

namespace ToolLisp

/-- How many arguments a builtin function takes. -/
inductive Arity where
  /-- One of the given numbers, the last of which is separate. -/
  | oneOf (counts : List Nat) (last : Nat)
  /-- The given number or more. -/
  | atLeast (n : Nat)
deriving DecidableEq

namespace Arity

/-- Whether a number of arguments is accepted. -/
def accepts : Arity → Nat → Bool
  | .oneOf counts last, n => counts.contains n || n == last
  | .atLeast m, n => m ≤ n

/-- The accepted numbers in words. -/
def text : Arity → String
  | .oneOf [] last => toString last
  | .oneOf counts last => ", ".intercalate (counts.map toString) ++ " or " ++ toString last
  | .atLeast n => "at least " ++ toString n

end Arity

/-- Why a value is of no use where it stands. -/
inductive TypeFault where
  /-- A function got something else than it takes. -/
  | expected (name what : String) (got : Value)
  /-- A function cannot order two values. -/
  | incomparable (name : String) (a b : Value)
  /-- A keyword names no sorting order. -/
  | sortOrder (name order : String)
  /-- A part of a string lies outside of it. -/
  | substring (first last length : Nat)
  /-- A text is no pattern. -/
  | pattern (name : String) (text : String)
  /-- A key has no value after it. -/
  | keyWithoutValue
  /-- The last key of a map has no value. -/
  | oddArguments
  /-- An index lies outside of a vector. -/
  | index (name : String) (key : Value) (length : Nat)
  /-- What is to be combined is no predicate. -/
  | predicate (got : Value)
  /-- A loop is to be entered again where there is none. -/
  | strayRecur

/-- A value with its type. -/
def Value.described (v : Value) : String :=
  v.typeName ++ " " ++ v.render

/-- The message of a fault of type. -/
def TypeFault.message : TypeFault → String
  | .expected name what got => name ++ ": expected " ++ what ++ ", got " ++ got.described
  | .incomparable name a b => name ++ ": cannot compare " ++ a.typeName ++ " with " ++ b.typeName
  | .sortOrder name order =>
    name ++ ": unknown sort order :" ++ order ++ ", expected :asc or :desc"
  | .substring first last length =>
    "subs: range " ++ toString first ++ ".." ++ toString last ++
      " out of bounds for string of length " ++ toString length
  | .pattern name text => name ++ ": invalid regex " ++ Text.escaped text
  | .keyWithoutValue => "assoc: expected a collection followed by key/value pairs"
  | .oddArguments => "hash-map: expected an even number of arguments"
  | .index name key length =>
    name ++ ": index " ++ key.render ++ " out of bounds for vector of length " ++ toString length
  | .predicate got => "predicate combinator expects functions, got " ++ got.described
  | .strayRecur => "recur used outside of loop or fn"

/-- Why a program stops. -/
inductive EvalError where
  /-- A variable has no value. -/
  | unbound (name : String)
  /-- What is called cannot be called. -/
  | notCallable (v : Value)
  /-- A function gets the wrong number of arguments. -/
  | arity (expected got : Nat)
  /-- A builtin function gets the wrong number of arguments. -/
  | wrongCount (name : String) (expected : Arity) (got : Nat)
  /-- A value is of no use where it stands. -/
  | type (fault : TypeFault)
  /-- A keyword gets the wrong number of arguments. -/
  | keywordCall (name : String) (got : Nat)
  /-- A value does not have the shape of a pattern. -/
  | destructure (shape : String) (got : Value)
  /-- A tool is called with something else than one map. -/
  | toolArgs (tool : String)
  /-- There is no tool of that name. -/
  | unknownTool (tool : String)
  /-- A tool fails. -/
  | toolFailed (tool reason : String)
  /-- Arithmetic has no result. -/
  | arithmetic (e : ArithmeticError)
  /-- A loop or function is entered again too often. -/
  | loopLimit (limit : Nat)
  /-- Calls are nested too deeply. -/
  | recursionLimit (limit : Nat)
  /-- A builtin function is to be defined. -/
  | redefinition (name : String)
  /-- The program says that it failed. -/
  | failed (v : Value)

namespace EvalError

/-- The message of an error. -/
def message : EvalError → String
  | .unbound name => "unbound variable: " ++ name
  | .notCallable v => "not callable: " ++ v.described
  | .arity expected got =>
    "arity mismatch: expected " ++ toString expected ++ " argument(s), got " ++ toString got
  | .wrongCount name expected got =>
    name ++ ": wrong number of arguments, expected " ++ expected.text ++ ", got " ++ toString got
  | .type fault => "type error: " ++ fault.message
  | .keywordCall name got =>
    "keyword :" ++ name ++ " takes a map and an optional default, got " ++ toString got ++
      " argument(s)"
  | .destructure shape got =>
    "destructure error: expected " ++ shape ++ ", got " ++ got.typeName
  | .toolArgs tool =>
    "invalid arguments to tool " ++ tool ++ ": tools take a single map of named arguments, e.g. (" ++
      tool ++ " \x7b:key value\x7d)"
  | .unknownTool tool => "unknown tool: " ++ tool
  | .toolFailed tool reason => "tool " ++ tool ++ " failed: " ++ reason
  | .arithmetic e => "arithmetic error: " ++ e.message
  | .loopLimit limit => "loop exceeded " ++ toString limit ++ " iterations"
  | .recursionLimit limit => "call depth exceeded " ++ toString limit
  | .redefinition name => "cannot redefine builtin " ++ name
  | .failed v => "program failed: " ++ v.render

/-- The tag of an error. -/
def kind : EvalError → String
  | .unbound _ => "unbound_variable"
  | .notCallable _ => "not_callable"
  | .arity .. => "arity_mismatch"
  | .wrongCount .. => "arity_mismatch"
  | .type _ => "type_error"
  | .keywordCall .. => "invalid_keyword_call"
  | .destructure .. => "destructure_error"
  | .toolArgs _ => "invalid_tool_args"
  | .unknownTool _ => "unknown_tool"
  | .toolFailed .. => "tool_error"
  | .arithmetic _ => "arithmetic_error"
  | .loopLimit _ => "loop_limit_exceeded"
  | .recursionLimit _ => "recursion_limit_exceeded"
  | .redefinition _ => "redefinition"
  | .failed _ => "failed"

end EvalError

end ToolLisp
