import ToolLisp.Builtin.Table
import ToolLisp.Run.Monad
import ToolLisp.Value.Equality
import ToolLisp.Value.Env

/-!
# Evaluation

`eval` evaluates an expression by recursion on it. Calls are made by a function that is passed in, so
the recursion ends; `callAt` makes calls by recursion on the number of calls that may still be nested.
A loop is entered again by recursion on the number of times that this is still allowed.
-/

namespace ToolLisp

open EvalM

/-! ## Names, tools and keywords -/

/-- The value of a variable: its binding, else its definition, else the tool of that name. -/
def lookupVar (h : Host) (name : String) (env : Env) : EvalM Value :=
  match Env.lookup? env name with
  | some v => pure v
  | none => do
    match ← definition? name with
    | some v => pure v
    | none => if h.tools.has name then pure (.tool name) else fail (.unbound name)

/-- The entry of the context or the memory with a name. -/
def entryNamed (m : Entries) (name : String) : Value :=
  (Entries.find? m (.keyword name)).getD .nil

/-- Calls a tool with arguments, which have to be one map. -/
def callTool (h : Host) (name : String) (args : List Value) : EvalM Value :=
  if h.tools.has name then
    match args with
    | [.map m] => askTool h.tools name m
    | _ => fail (.toolArgs name)
  else fail (.unknownTool name)

/-- The entry of a map at a keyword, or a default. -/
def keywordEntry (name : String) (v default : Value) : Value :=
  match v with
  | .map m => (Entries.find? m (.keyword name)).getD default
  | _ => default

/-- Calls a keyword, which looks itself up in a map. -/
def callKeyword (name : String) : List Value → EvalM Value
  | [v] => pure (keywordEntry name v .nil)
  | [v, default] => pure (keywordEntry name v default)
  | args => fail (.keywordCall name args.length)

/-! ## Loops -/

/-- Evaluates a body, and again with new bindings each time that it asks for it, at most `n` more
times. -/
def iterate (limit : Nat) (body : Env → EvalM Value) (rebind : List Value → EvalM Env) :
    Nat → Env → EvalM Value
  | 0, env => fun s =>
    match body env s with
    | (.error (.recur _), s) => (.error (.error (.loopLimit limit)), s)
    | result => result
  | n + 1, env => fun s =>
    match body env s with
    | (.error (.recur vs), s) =>
      match rebind vs s with
      | (.ok env, s) => iterate limit body rebind n env s
      | (.error e, s) => (.error e, s)
    | result => result

/-! ## Predicates on rows -/

/-- The body of a predicate on rows. -/
inductive RowBody where
  /-- The field at the end of a path is compared with an operand. -/
  | test (path : List Literal) (op : RowOp) (operand : Value)
  /-- Other predicates are combined. -/
  | combined (c : Combinator) (tests : List Value)

/-- The parameter of a predicate on rows. -/
def rowName : String := "$row"

/-- The row that is bound, or `nil`. -/
def rowOf (env : Env) : Value :=
  (Env.lookup? env rowName).getD .nil

/-! ## Expressions and patterns -/

section

variable (h : Host) (call : Value → List Value → EvalM Value)

mutual

/-- The value of an expression. -/
def eval : Expr → Env → EvalM Value
  | .literal l, _ => pure l.value
  | .vector items, env => do
    let vs ← evalAll items env
    return .vector vs
  | .map entries, env => do
    let es ← evalEntries entries env
    return .map (Entries.ofList es)
  | .var name, env => lookupVar h name env
  | .context name, _ => pure (entryNamed h.context name)
  | .memory name, _ => pure (entryNamed h.memory name)
  | .bind bs body, env => do
    let env ← bindAll bs env
    eval body env
  | .choose test yes no, env => do
    let v ← eval test env
    if v.truthy then eval yes env else eval no env
  | .and items, env => evalAnd items env
  | .or items, env => evalOr items env
  | .sequence items, env => evalSequence items env
  | .fn params body, env => do
    let n ← freshStamp
    return .closure n params body env
  | .call callee args, env => do
    let f ← eval callee env
    let vs ← evalAll args env
    call f vs
  | .rowTest path op none, _ => do
    let n ← freshStamp
    return .rowTest n path op .nil
  | .rowTest path op (some operand), env => do
    let v ← eval operand env
    let n ← freshStamp
    return .rowTest n path op v
  | .combine c tests, env => do
    let fs ← evalTests tests env
    let n ← freshStamp
    return .combined n c fs
  | .toolCall name args, env => do
    let v ← eval args env
    callTool h name [v]
  | .ret value, env => do
    let v ← eval value env
    cut (.ret v)
  | .fail value, env => do
    let v ← eval value env
    fail (.failed v)
  | .loop bs body, env => do
    let inner ← bindAll bs env
    -- every turn binds the patterns in `env`, so it does not see the bindings of the turn before
    iterate h.limits.loop (eval body) (fun vs => rebindAll bs vs env) h.limits.loop inner
  | .recur args, env => do
    let vs ← evalAll args env
    cut (.recur vs)
  | .define name value, env =>
    -- the name is refused before the value is evaluated
    if Builtin.isName name then fail (.redefinition name)
    else do
      let v ← eval value env
      define name v
      return v

/-- The values of several expressions. -/
def evalAll : List Expr → Env → EvalM (List Value)
  | [], _ => pure []
  | e :: rest, env => do
    let v ← eval e env
    let vs ← evalAll rest env
    return v :: vs

/-- The values of pairs of expressions. -/
def evalEntries : List (Expr × Expr) → Env → EvalM (List (Value × Value))
  | [], _ => pure []
  | (k, v) :: rest, env => do
    let k ← eval k env
    let v ← eval v env
    let es ← evalEntries rest env
    return (k, v) :: es

/-- The first falsy value, or the last value. -/
def evalAnd : List Expr → Env → EvalM Value
  | [], _ => pure (.bool true)
  | [e], env => eval e env
  | e :: rest, env => do
    let v ← eval e env
    if v.truthy then evalAnd rest env else return v

/-- The first truthy value, or the last value. -/
def evalOr : List Expr → Env → EvalM Value
  | [], _ => pure .nil
  | [e], env => eval e env
  | e :: rest, env => do
    let v ← eval e env
    if v.truthy then return v else evalOr rest env

/-- The last value. -/
def evalSequence : List Expr → Env → EvalM Value
  | [], _ => pure .nil
  | [e], env => eval e env
  | e :: rest, env => do
    let _ ← eval e env
    evalSequence rest env

/-- The values of expressions that have to be callable. -/
def evalTests : List Expr → Env → EvalM (List Value)
  | [], _ => pure []
  | e :: rest, env => do
    let f ← eval e env
    if f.callable then
      let fs ← evalTests rest env
      return f :: fs
    else fail (.type (.predicate f))

/-- Binds patterns to the values of expressions, each of which sees the bindings before it. -/
def bindAll : List (Pattern × Expr) → Env → EvalM Env
  | [], env => pure env
  | (p, e) :: rest, env => do
    let v ← eval e env
    let env ← bindPattern p v env
    bindAll rest env

/-- Binds the same patterns to new values. -/
def rebindAll : List (Pattern × Expr) → List Value → Env → EvalM Env
  | (p, _) :: rest, v :: vs, env => do
    let env ← bindPattern p v env
    rebindAll rest vs env
  -- where the numbers differ, what is left over is not bound
  | _, _, env => pure env

/-- Binds the names of a pattern to the parts of a value. -/
def bindPattern : Pattern → Value → Env → EvalM Env
  | .name name, v, env => pure (Env.bind env name v)
  | .ignore, _, env => pure env
  | .whole name p, v, env => do
    let env ← bindPattern p v env
    -- bound last, so it hides the same name in `p`
    return Env.bind env name v
  | .map parts, .map m, env => bindParts parts m env
  | .map _, v, _ => fail (.destructure "map" v)
  | .seq items none, .vector vs, env => bindItems items vs env
  | .seq items (some rest), .vector vs, env => do
    let env ← bindItems items vs env
    let left := vs.drop items.length
    -- an empty rest is `nil`
    bindPattern rest (if left.isEmpty then .nil else .vector left) env
  | .seq _ _, v, _ => fail (.destructure "list" v)

/-- Binds patterns to the values at keys of a map. A default is used if there is none. -/
def bindParts : List (Pattern × Literal × Option Expr) → Entries → Env → EvalM Env
  | [], _, env => pure env
  | (p, key, none) :: rest, m, env => do
    let env ← bindPattern p ((Entries.find? m key.value).getD .nil) env
    bindParts rest m env
  | (p, key, some default) :: rest, m, env => do
    let v ← match Entries.find? m key.value with
      | some v => pure v
      | none => eval default env
    let env ← bindPattern p v env
    bindParts rest m env

/-- Binds patterns to items; what is missing is `nil`. -/
def bindItems : List Pattern → List Value → Env → EvalM Env
  | [], _, env => pure env
  | p :: rest, vs, env => do
    let env ← bindPattern p (vs.headD .nil) env
    bindItems rest vs.tail env

end

/-! ## Calls -/

/-- The bindings of a function's parameters. -/
def enter (params : List Pattern) (env : Env) (args : List Value) : EvalM Env :=
  if args.length = params.length then bindItems h call params args env
  else fail (.arity params.length args.length)

/-- Calls a function. -/
def callClosure (params : List Pattern) (body : Env → EvalM Value) (env : Env) (args : List Value) :
    EvalM Value := do
  let inner ← enter h call params env args
  iterate h.limits.loop body (enter h call params env) h.limits.loop inner

/-- Whether all predicates hold of a row. The first that does not decides. -/
def allHold (row : Value) : List Value → EvalM Bool
  | [] => pure true
  | f :: rest => do
    let v ← call f [row]
    if v.truthy then allHold row rest else return false

/-- Whether a predicate holds of a row. The first that does decides. -/
def anyHolds (row : Value) : List Value → EvalM Bool
  | [] => pure false
  | f :: rest => do
    let v ← call f [row]
    if v.truthy then return true else anyHolds row rest

/-- What a predicate says of a row. -/
def evalRow : RowBody → Value → EvalM Value
  | .test path op operand, row =>
    pure (.bool (op.holds ((row.getIn? (path.map Literal.value)).getD .nil) operand))
  | .combined .allOf tests, row => do
    return .bool (← allHold call row tests)
  | .combined .anyOf tests, row => do
    return .bool (← anyHolds call row tests)
  | .combined .noneOf tests, row => do
    return .bool (!(← anyHolds call row tests))

/-- Calls a predicate on rows. It is a function whose only parameter is the row, and it captures nothing. -/
def callRow (body : RowBody) (args : List Value) : EvalM Value :=
  callClosure h call [.name rowName] (fun env => evalRow call body (rowOf env)) [] args

/-- Performs the calls of an action. -/
def Action.run {α : Type} : Action α → EvalM α
  | .done a => pure a
  | .fail e => EvalM.fail e
  | .call f args next => fun s =>
    match call f args s with
    | (.ok v, s) => (next v).run s
    | (.error e, s) => (.error e, s)

/-- Calls a value. The calls that this makes are made by the function that is passed in. -/
def dispatch : Value → List Value → EvalM Value
  | .keyword name, args => callKeyword name args
  | .closure _ params body env, args => callClosure h call params (eval h call body) env args
  | .rowTest _ path op operand, args => callRow h call (.test path op operand) args
  | .combined _ c tests, args => callRow h call (.combined c tests) args
  | .builtin f, args => (f.act args).run call
  | .tool name, args => callTool h name args
  | v, _ => fail (.notCallable v)

end

/-- Calls a value when so many calls may still be nested. -/
def callAt (h : Host) : Nat → Value → List Value → EvalM Value
  | 0, _, _ => fail (.recursionLimit h.limits.recursion)
  | n + 1, f, args => dispatch h (callAt h n) f args

/-- Calls a value when no call is being made. -/
def callTop (h : Host) : Value → List Value → EvalM Value :=
  callAt h h.limits.recursion

end ToolLisp
