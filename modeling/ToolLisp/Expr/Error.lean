import ToolLisp.Form.Basic

/-!
# Errors in the shape of a program

What can be wrong with forms that can be read.
-/

namespace ToolLisp

/-- What is wrong with a special form. -/
inductive FormFault where
  /-- There is no vector of bindings. -/
  | noBindings
  /-- The last pattern has no value. -/
  | oddBindings
  /-- There are no bindings, or several, where there should be one. -/
  | notOneBinding
  /-- The last test has no expression. -/
  | oddClauses
  /-- There is no vector of parameters. -/
  | noParameters
  /-- A function would take any number of arguments. -/
  | variadic
  /-- A definition has no name. -/
  | notName (f : Form)
  /-- The operator of a row predicate is unknown. -/
  | unknownOperator (f : Form)
  /-- The field of a row predicate is none. -/
  | badField (f : Form)
  /-- The name of a tool is not spelled out. -/
  | notToolName
  /-- The form is nested more deeply than it is followed. -/
  | tooDeep

/-- The message of a fault in a special form. -/
def FormFault.message : FormFault → String
  | .noBindings => "expected a binding vector"
  | .oddBindings => "binding vector needs an even number of forms"
  | .notOneBinding => "expected exactly one binding"
  | .oddClauses => "expected an even number of test/expression forms"
  | .noParameters => "expected a parameter vector"
  | .variadic => "variadic parameters are not supported"
  | .notName f => "expected a symbol name, got " ++ f.render
  | .unknownOperator f =>
    "unknown operator " ++ f.render ++ "; expected one of = not= > < >= <= includes in"
  | .badField f => "field must be a keyword, string or vector of them, got " ++ f.render
  | .notToolName => "tool name must be a string literal"
  | .tooDeep => "nested too deeply"

/-- What is wrong with a pattern. -/
inductive PatternFault where
  /-- The sign for the rest stands alone. -/
  | strayRest
  /-- Nothing can be bound to this form. -/
  | cannotBind (f : Form)
  /-- Nothing follows the sign for the rest. -/
  | noRest
  /-- The rest is bound twice. -/
  | secondRest
  /-- A part follows the rest. -/
  | afterRest
  /-- The names of keys are not in a vector. -/
  | namesNotVector (directive : String)
  /-- The name of a key is none. -/
  | badName (directive : String) (f : Form)
  /-- The defaults are not in a map. -/
  | defaultsNotMap
  /-- A default has no name. -/
  | badDefault (f : Form)
  /-- A key is not a literal. -/
  | badKey (f : Form)
  /-- The whole value gets no name. -/
  | badWhole
  /-- A default is given for a name that is not bound. -/
  | unboundDefault (name : String)

/-- The message of a fault in a pattern. -/
def PatternFault.message : PatternFault → String
  | .strayRest => "& must be followed by a rest binding inside a vector pattern"
  | .cannotBind f => "cannot bind to " ++ f.render
  | .noRest => "& must be followed by a binding"
  | .secondRest => "only one & rest binding is allowed"
  | .afterRest => "positional bindings cannot follow the & rest binding"
  | .namesNotVector directive => ":" ++ directive ++ " expects a vector of names"
  | .badName directive f => ":" ++ directive ++ " entries must be symbols, got " ++ f.render
  | .defaultsNotMap => ":or expects a map of defaults"
  | .badDefault f => ":or keys must be symbols, got " ++ f.render
  | .badKey f => "map pattern keys must be literals, got " ++ f.render
  | .badWhole => ":as must be followed by a symbol"
  | .unboundDefault name => ":or default for unbound name " ++ name

/-- What is wrong with entering a loop again. -/
inductive RecurFault where
  /-- There is no loop or function around it. -/
  | outside
  /-- Something remains to be done after it. -/
  | notTail
  /-- The number of values is wrong. -/
  | count (expected got : Nat)

/-- The message of a fault in entering a loop again. -/
def RecurFault.message : RecurFault → String
  | .outside => "recur used outside of loop or fn"
  | .notTail => "recur must be in tail position"
  | .count expected got =>
    "expected " ++ toString expected ++ " argument(s), got " ++ toString got

/-- What is wrong with the shape of a program. -/
inductive AnalysisError where
  /-- A special form has the wrong number of parts. -/
  | arity (name expected : String) (got : Nat)
  /-- A special form is malformed. -/
  | form (name : String) (fault : FormFault)
  /-- A pattern is malformed. -/
  | pattern (fault : PatternFault)
  /-- A loop is entered again where it cannot be. -/
  | recur (fault : RecurFault)
  /-- A symbol is qualified by an unknown namespace. -/
  | unknownNamespace (ns : String)
  /-- There is no form at all. -/
  | emptyProgram

namespace AnalysisError

/-- The message of an error in the shape of a program. -/
def message : AnalysisError → String
  | .arity name expected got =>
    name ++ ": expected " ++ expected ++ " argument(s), got " ++ toString got
  | .form name fault => "invalid " ++ name ++ ": " ++ fault.message
  | .pattern fault => "invalid binding pattern: " ++ fault.message
  | .recur fault => "invalid recur: " ++ fault.message
  | .unknownNamespace ns =>
    "unknown namespace '" ++ ns ++ "' (only ctx/ and memory/ are available)"
  | .emptyProgram => "empty program"

/-- The tag of an error in the shape of a program. -/
def kind : AnalysisError → String
  | .arity .. => "invalid_arity"
  | .form .. => "invalid_form"
  | .pattern _ => "invalid_pattern"
  | .recur _ => "invalid_recur"
  | .unknownNamespace _ => "unknown_namespace"
  | .emptyProgram => "empty_program"

end AnalysisError

end ToolLisp
