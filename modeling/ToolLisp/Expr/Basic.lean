import ToolLisp.Number.Basic

/-!
# Programs

A program is an expression. Expressions are what is left of forms once their shape has been checked
and the convenient forms have been reduced to a few basic ones. Patterns take values apart; they
contain expressions, because a part that is missing can have a default.
-/

namespace ToolLisp

/-- Values that a program can spell out. -/
inductive Literal where
  /-- The value `nil`. -/
  | nil
  /-- A truth value. -/
  | bool (b : Bool)
  /-- A number. -/
  | number (n : Number)
  /-- A string. -/
  | string (s : String)
  /-- A keyword. -/
  | keyword (name : String)
  /-- The empty vector, which is what empty round brackets stand for. -/
  | emptyVector
deriving DecidableEq

/-- How a row predicate compares a field with an operand. -/
inductive RowOp where
  /-- The field is neither `nil` nor `false`; there is no operand. -/
  | truthy
  /-- The field equals the operand. -/
  | eq
  /-- The field differs from the operand. -/
  | ne
  /-- The field is greater. -/
  | gt
  /-- The field is less. -/
  | lt
  /-- The field is greater or equal. -/
  | ge
  /-- The field is less or equal. -/
  | le
  /-- The field contains the operand. -/
  | includes
  /-- The operand contains the field. -/
  | within
deriving DecidableEq

/-- How predicates are combined into one. -/
inductive Combinator where
  /-- All of them hold. -/
  | allOf
  /-- One of them holds. -/
  | anyOf
  /-- None of them holds. -/
  | noneOf
deriving DecidableEq

mutual

/-- An expression. -/
inductive Expr where
  /-- A literal. -/
  | literal (l : Literal)
  /-- A vector of the values of expressions. -/
  | vector (items : List Expr)
  /-- A map of the values of expressions. -/
  | map (entries : List (Expr × Expr))
  /-- A variable. -/
  | var (name : String)
  /-- An entry of the context. -/
  | context (name : String)
  /-- An entry of the memory. -/
  | memory (name : String)
  /-- Bindings, made one after the other, and a body that sees them. -/
  | bind (bindings : List (Pattern × Expr)) (body : Expr)
  /-- A choice. -/
  | choose (test yes no : Expr)
  /-- The first falsy value, or the last value. -/
  | and (items : List Expr)
  /-- The first truthy value, or the last value. -/
  | or (items : List Expr)
  /-- The last of several values. -/
  | sequence (items : List Expr)
  /-- A function. -/
  | fn (params : List Pattern) (body : Expr)
  /-- A call. -/
  | call (callee : Expr) (args : List Expr)
  /-- A predicate on rows that tests one field. -/
  | rowTest (path : List Literal) (op : RowOp) (operand : Option Expr)
  /-- A predicate on rows that combines others. -/
  | combine (c : Combinator) (tests : List Expr)
  /-- A call of a tool by its name. -/
  | toolCall (name : String) (args : Expr)
  /-- Ends the program with a value. -/
  | ret (value : Expr)
  /-- Ends the program with a failure. -/
  | fail (value : Expr)
  /-- Bindings and a body that can be entered again with new values for them. -/
  | loop (bindings : List (Pattern × Expr)) (body : Expr)
  /-- Enters the innermost loop or function again. -/
  | recur (args : List Expr)
  /-- A definition for the rest of the run. -/
  | define (name : String) (value : Expr)

/-- A pattern, which binds names to parts of a value. -/
inductive Pattern where
  /-- Binds the whole value. -/
  | name (name : String)
  /-- Binds nothing. -/
  | ignore
  /-- Takes a map apart. Each entry gives a pattern, the key of the part and perhaps a default. -/
  | map (entries : List (Pattern × Literal × Option Expr))
  /-- Takes a vector apart, and perhaps binds what is left of it. -/
  | seq (items : List Pattern) (rest : Option Pattern)
  /-- Takes a value apart and binds the whole of it too. -/
  | whole (name : String) (inner : Pattern)

end

namespace Expr

instance : Inhabited Expr := ⟨.literal .nil⟩

/-- The expression `nil`. -/
def nil : Expr := .literal .nil

end Expr

end ToolLisp
