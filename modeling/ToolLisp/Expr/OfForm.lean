import ToolLisp.Expr.Pattern
import ToolLisp.Form.Basic

/-!
# Expressions from forms

A list of forms is a call, unless its head names a special form. Each special form checks the number
and shape of its parts and says what the parts become. The parts are analysed by a function that is
passed in; `Form.analyzeAt` closes this recursion.

A `recur` must be the last thing that a loop or a function does. So the analysis of a form is told
whether anything remains to be done after it, and how many values the loop or function around it
takes.

Threading writes nested calls as a list of steps: each step is a call that lacks one argument, and gets
the steps before it in that place.
-/

namespace ToolLisp

/-! ## Threading -/

/-- The place where a step lacks its argument. -/
inductive ThreadPlace where
  /-- Right after the function. -/
  | first
  /-- After all other arguments. -/
  | last
deriving DecidableEq

namespace Form

/-- A step with its missing argument. What is no call is called with that argument alone. -/
def threadStep (place : ThreadPlace) (acc : Form) : Form → Form
  | .list (f :: args) =>
    match place with
    | .first => .list (f :: acc :: args)
    | .last => .list (f :: (args ++ [acc]))
  | f => .list [f, acc]

/-- The nested calls that a list of steps stands for. -/
def thread (place : ThreadPlace) (start : Form) (steps : List Form) : Form :=
  steps.foldl (threadStep place) start

end Form

/-! ## Scopes -/

/-- Where a form stands. -/
structure Scope where
  /-- Whether nothing remains to be done after it in the loop or function around it. -/
  tail : Bool
  /-- How many values the loop or function around it takes, if there is one. -/
  arity : Option Nat

namespace Scope

/-- The place of a whole program. -/
def top : Scope := ⟨true, none⟩

/-- The place of a part whose value is still to be used. -/
def inner (s : Scope) : Scope := { s with tail := false }

/-- The place of the body of a loop or function that takes so many values. -/
def entered (n : Nat) : Scope := ⟨true, some n⟩

end Scope

/-- The special forms. -/
inductive Special where
  /-- Bindings around a body. -/
  | letIn
  /-- A choice between two expressions. -/
  | ifElse
  /-- A body under a condition. -/
  | when
  /-- A body under the opposite of a condition. -/
  | whenNot
  /-- A choice between several expressions. -/
  | cond
  /-- Conjunction. -/
  | and
  /-- Disjunction. -/
  | or
  /-- Several expressions. -/
  | sequence
  /-- A function. -/
  | fn
  /-- A definition of a function. -/
  | defineFn
  /-- A definition. -/
  | define
  /-- A loop. -/
  | loop
  /-- Entering a loop or function again. -/
  | recur
  /-- A row predicate. -/
  | rowTest
  /-- The end of the program. -/
  | ret
  /-- The failure of the program. -/
  | fail
  /-- A call of a tool. -/
  | call
  /-- Threaded steps. -/
  | thread (place : ThreadPlace)
  /-- A choice on a value that is bound. -/
  | ifLet
  /-- A body on a value that is bound. -/
  | whenLet
  /-- A combination of predicates. -/
  | combine (c : Combinator)
deriving DecidableEq

namespace Special

/-- The special form of a name. -/
def named? : String → Option Special
  | "let" => some .letIn
  | "if" => some .ifElse
  | "when" => some .when
  | "when-not" => some .whenNot
  | "cond" => some .cond
  | "and" => some .and
  | "or" => some .or
  | "do" => some .sequence
  | "fn" => some .fn
  | "defn" => some .defineFn
  | "def" => some .define
  | "loop" => some .loop
  | "recur" => some .recur
  | "where" => some .rowTest
  | "return" => some .ret
  | "fail" => some .fail
  | "call" => some .call
  | "->" => some (.thread .first)
  | "->>" => some (.thread .last)
  | "if-let" => some .ifLet
  | "when-let" => some .whenLet
  | "all-of" => some (.combine .allOf)
  | "any-of" => some (.combine .anyOf)
  | "none-of" => some (.combine .noneOf)
  | _ => none

end Special

/-- The operator of a row predicate. -/
def RowOp.named? : String → Option RowOp
  | "=" => some .eq
  | "not=" => some .ne
  | ">" => some .gt
  | "<" => some .lt
  | ">=" => some .ge
  | "<=" => some .le
  | "includes" => some .includes
  | "in" => some .within
  | _ => none

namespace Analyze

variable (sub : Scope → Form → Analyze Expr) (s : Scope)

/-! ## Several parts -/

/-- Parts whose values are all used. -/
def parts (forms : List Form) : Analyze (List Expr) :=
  forms.mapM (sub s.inner)

/-- Parts of which the last stands where the whole stands. -/
def partsToLast : List Form → Analyze (List Expr)
  | [] => pure []
  | [f] => return [← sub s f]
  | f :: rest => do
    let e ← sub s.inner f
    return e :: (← partsToLast rest)

/-- The forms of a body, whose last value is the value of the body. -/
def body : List Form → Analyze Expr
  | [] => pure .nil
  | [f] => sub s f
  | forms => return .sequence (← partsToLast sub s forms)

/-- The entries of a map. -/
def entries (pairs : List (Form × Form)) : Analyze (List (Expr × Expr)) :=
  pairs.mapM fun (k, v) => do
    let key ← sub s.inner k
    let value ← sub s.inner v
    return (key, value)

/-! ## Bindings -/

/-- The bindings of a form. -/
def bindings (name : String) : Form → Analyze (List (Pattern × Expr))
  | .vector items =>
    if items.length % 2 = 0 then
      (Form.pairs items).mapM fun (p, e) => do
        let p ← pattern (sub s.inner) p
        let e ← sub s.inner e
        return (p, e)
    else throw (.form name .oddBindings)
  | _ => throw (.form name .noBindings)

/-- Bindings around a body. -/
def letForm : List Form → Analyze Expr
  | [] => throw (.arity "let" "at least 1" 0)
  | b :: rest => do
    let bs ← bindings sub s "let" b
    return .bind bs (← body sub s rest)

/-- A loop. -/
def loopForm : List Form → Analyze Expr
  | [] => throw (.arity "loop" "at least 1" 0)
  | b :: rest => do
    let bs ← bindings sub s "loop" b
    return .loop bs (← body sub (.entered bs.length) rest)

/-- Entering a loop or function again. -/
def recurForm (args : List Form) : Analyze Expr :=
  match s.arity with
  | none => throw (.recur .outside)
  | some n =>
    if s.tail then
      if args.length = n then return .recur (← parts sub s args)
      else throw (.recur (.count n args.length))
    else throw (.recur .notTail)

/-- The one binding of a form that binds a value only if it is truthy. -/
def oneBinding (name : String) (b : Form) : Analyze (Pattern × Expr) := do
  match ← bindings sub s name b with
  | [b] => pure b
  | _ => throw (.form name .notOneBinding)

/-- A name that no source text can spell, made from the name of a form. -/
def freshName (name : String) : Analyze String := do
  let n := (← get) + 1
  set n
  return "$" ++ name ++ toString n

/-- Binds a value if it is truthy. The value is kept under a name of its own, so that it is computed
once. -/
def bindTruthy (temporary : String) (p : Pattern) (value yes no : Expr) : Expr :=
  .bind [(.name temporary, value)]
    (.choose (.var temporary) (.bind [(p, .var temporary)] yes) no)

/-- A choice on a value that is bound. -/
def ifLetBranches (b yes : Form) (no : Option Form) : Analyze Expr := do
  let (p, value) ← oneBinding sub s "if-let" b
  let temporary ← freshName "if-let"
  let no ← match no with
    | some f => sub s f
    | none => pure .nil
  return bindTruthy temporary p value (← sub s yes) no

/-- A choice on a value that is bound. -/
def ifLetForm : List Form → Analyze Expr
  | [b, yes] => ifLetBranches sub s b yes none
  | [b, yes, no] => ifLetBranches sub s b yes (some no)
  | args => throw (.arity "if-let" "2 or 3" args.length)

/-- A body on a value that is bound. -/
def whenLetForm : List Form → Analyze Expr
  | [] => throw (.arity "when-let" "at least 1" 0)
  | b :: rest => do
    let (p, value) ← oneBinding sub s "when-let" b
    let temporary ← freshName "when-let"
    return bindTruthy temporary p value (← body sub s rest) .nil

/-! ## Choices -/

/-- A choice. The alternative is looked at first. -/
def ifForm : List Form → Analyze Expr
  | [test, yes] => do
    let test ← sub s.inner test
    return .choose test (← sub s yes) .nil
  | [test, yes, no] => do
    -- the alternative is analysed first, so its errors come first
    let no ← sub s no
    let test ← sub s.inner test
    return .choose test (← sub s yes) no
  | args => throw (.arity "if" "2 or 3" args.length)

/-- A body under a condition. -/
def whenForm : List Form → Analyze Expr
  | [] => throw (.arity "when" "at least 1" 0)
  | test :: rest => do
    let test ← sub s.inner test
    return .choose test (← body sub s rest) .nil

/-- A body under the opposite of a condition. -/
def whenNotForm : List Form → Analyze Expr
  | [] => throw (.arity "when-not" "at least 1" 0)
  | test :: rest => do
    let test ← sub s.inner test
    return .choose test .nil (← body sub s rest)

/-- Several choices, of which the first whose test holds is taken. -/
def clauses : List (Form × Form) → Analyze Expr
  | [] => pure .nil
  | (test, yes) :: rest => do
    let test ← sub s.inner test
    let yes ← sub s yes
    return .choose test yes (← clauses rest)

/-- Several choices. -/
def condForm (args : List Form) : Analyze Expr :=
  if args.length % 2 = 0 then clauses sub s (Form.pairs args)
  else throw (.form "cond" .oddClauses)

/-! ## Functions and definitions -/

/-- A function. -/
def fnForm : List Form → Analyze Expr
  | .vector params :: rest =>
    if params.any isRestSign then throw (.form "fn" .variadic)
    else do
      let ps ← params.mapM (pattern (sub s.inner))
      return .fn ps (← body sub (.entered ps.length) rest)
  | _ => throw (.form "fn" .noParameters)

/-- The name that is defined. -/
def definedName (form : String) : Form → Analyze String
  | .symbol name => pure name
  | f => throw (.form form (.notName f))

/-- What follows the name of a defined function and the description that may stand there. -/
def withoutDescription : List Form → List Form
  | .string _ :: f :: rest => f :: rest
  | args => args

/-- A definition of a function. -/
def defnForm : List Form → Analyze Expr
  | [] => throw (.arity "defn" "at least 2" 0)
  | name :: rest => do
    let name ← definedName "defn" name
    match withoutDescription rest with
    | [] => throw (.arity "defn" "at least 2" (rest.length + 1))
    | rest => return .define name (← fnForm sub s rest)

/-- A definition. -/
def defForm : List Form → Analyze Expr
  | [name, value] => do
    let name ← definedName "def" name
    return .define name (← sub s.inner value)
  | args => throw (.arity "def" "2" args.length)

/-! ## Row predicates, tools and ends -/

/-- One step into a row. -/
def fieldStep : Form → Analyze Literal
  | .keyword name => pure (.keyword name)
  | .string text => pure (.string text)
  | f => throw (.form "where" (.badField f))

/-- The steps to a field of a row. -/
def fieldPath : Form → Analyze (List Literal)
  | .vector (f :: rest) => (f :: rest).mapM fieldStep
  | f => return [← fieldStep f]

/-- The operator of a row predicate. -/
def rowOp (f : Form) : Analyze RowOp :=
  match f.symbol?.bind RowOp.named? with
  | some op => pure op
  | none => throw (.form "where" (.unknownOperator f))

/-- A row predicate. -/
def whereForm : List Form → Analyze Expr
  | [field] => return .rowTest (← fieldPath field) .truthy none
  | [field, op, operand] => do
    let path ← fieldPath field
    let op ← rowOp op
    return .rowTest path op (some (← sub s.inner operand))
  | args => throw (.arity "where" "1 or 3" args.length)

/-- A call of a tool. -/
def callForm : List Form → Analyze Expr
  | [.string name] => pure (.toolCall name (.map []))
  | [.string name, args] => return .toolCall name (← sub s.inner args)
  | [_] => throw (.form "call" .notToolName)
  | [_, _] => throw (.form "call" .notToolName)
  | args => throw (.arity "call" "1 or 2" args.length)

/-- The value that ends a program. -/
def lastValue (name : String) : List Form → Analyze Expr
  | [f] => sub s.inner f
  | args => throw (.arity name "1" args.length)

/-- Threaded steps. -/
def threadForm (place : ThreadPlace) : List Form → Analyze Expr
  | [] =>
    throw (.arity (match place with | .first => "->" | .last => "->>") "at least 1" 0)
  | start :: steps => sub s (Form.thread place start steps)

/-! ## All forms -/

/-- The expression of a special form with its parts. -/
def special (args : List Form) : Special → Analyze Expr
  | .letIn => letForm sub s args
  | .ifElse => ifForm sub s args
  | .when => whenForm sub s args
  | .whenNot => whenNotForm sub s args
  | .cond => condForm sub s args
  | .and => return .and (← partsToLast sub s args)
  | .or => return .or (← partsToLast sub s args)
  | .sequence => body sub s args
  | .fn => fnForm sub s args
  | .defineFn => defnForm sub s args
  | .define => defForm sub s args
  | .loop => loopForm sub s args
  | .recur => recurForm sub s args
  | .rowTest => whereForm sub s args
  | .ret => return .ret (← lastValue sub s "return" args)
  | .fail => return .fail (← lastValue sub s "fail" args)
  | .call => callForm sub s args
  | .thread place => threadForm sub s place args
  | .ifLet => ifLetForm sub s args
  | .whenLet => whenLetForm sub s args
  | .combine c => return .combine c (← parts sub s args)

/-- The expression of a qualified symbol. -/
def qualified (ns name : String) : Analyze Expr :=
  match ns with
  | "ctx" => pure (.context name)
  | "memory" => pure (.memory name)
  | _ => throw (.unknownNamespace ns)

/-- A call. -/
def plainCall (head : Form) (args : List Form) : Analyze Expr := do
  let callee ← sub s.inner head
  return .call callee (← parts sub s args)

/-- The expression of a form, whose parts are analysed by the given function. -/
def form : Form → Analyze Expr
  | .nil => pure (.literal .nil)
  | .bool b => pure (.literal (.bool b))
  | .number n => pure (.literal (.number n))
  | .string text => pure (.literal (.string text))
  | .keyword name => pure (.literal (.keyword name))
  | .symbol name => pure (.var name)
  | .qualified ns name => qualified ns name
  | .vector items => return .vector (← parts sub s items)
  | .map pairs => return .map (← entries sub s pairs)
  | .list [] => pure (.literal .emptyVector)
  | .list (head :: args) =>
    match head.symbol?.bind Special.named? with
    | some f => special sub s args f
    | none => plainCall sub s head args

end Analyze

namespace Form

/-- The expression of a form whose nesting, with that of threaded steps, is at most the given
number. -/
def analyzeAt : Nat → Scope → Form → Analyze Expr
  | 0, _, _ => throw (.form "form" .tooDeep)
  | n + 1, s, f => Analyze.form (analyzeAt n) s f

/-- The expression of a form. Threading adds at most one form to each step, so twice the size of a
form bounds the nesting. -/
def analyzeIn (s : Scope) (f : Form) : Analyze Expr :=
  f.analyzeAt (2 * f.size) s

/-- The expression of a form that stands alone. -/
def analyze (f : Form) : Except AnalysisError Expr :=
  (f.analyzeIn .top).run' 0

end Form

/-- The program of several forms, which are run one after the other. -/
def Expr.ofForms : List Form → Except AnalysisError Expr
  | [] => throw .emptyProgram
  | forms => (Analyze.body (fun s f => f.analyzeIn s) .top forms).run' 0

end ToolLisp
