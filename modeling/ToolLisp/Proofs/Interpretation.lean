import ToolLisp.Proofs.Evaluation

/-!
# Interpretations of programs

The rules of evaluation, apart from what a call, a `recur` and a loop come to. These are passed in,
together with a monad in which the evaluation takes place and the operations on the state of a run in this
monad. The rules are the same for all interpretations; two of them differ only in what they pass in.

`Interpretation.running` passes in what evaluation does, so it gives `eval` back. The rules are those of
`eval`, in the same order.
-/

namespace ToolLisp

open EvalM

/-- What the rules of evaluation leave open. -/
structure Interpretation (M : Type → Type) where
  /-- What stays the same during a run. -/
  host : M Host
  /-- Performs a computation of a run. -/
  lift {α : Type} : EvalM α → M α
  /-- Calls a value. -/
  call : Value → List Value → M Value
  /-- Enters the loop or function around again with new values. -/
  recur : List Value → M Value
  /-- Evaluates a body, and again with new bindings each time that it asks for it. -/
  loop : (Env → M Value) → (List Value → M Env) → Env → M Value

namespace Interpretation

variable {M : Type → Type} [Monad M] (I : Interpretation M)

/-! ## Names, tools and keywords -/

/-- The value of a variable: its binding, else its definition, else the tool of that name. -/
def lookupVar (name : String) (env : Env) : M Value :=
  match Env.lookup? env name with
  | some v => pure v
  | none => do
    match ← I.lift (definition? name) with
    | some v => pure v
    | none => do
      let h ← I.host
      if h.tools.has name then pure (.tool name) else I.lift (fail (.unbound name))

/-- Calls a tool with arguments, which have to be one map. -/
def callTool (name : String) (args : List Value) : M Value := do
  let h ← I.host
  if h.tools.has name then
    match args with
    | [.map m] => I.lift (askTool h.tools name m)
    | _ => I.lift (fail (.toolArgs name))
  else I.lift (fail (.unknownTool name))

/-- Calls a keyword, which looks itself up in a map. -/
def callKeyword (name : String) : List Value → M Value
  | [v] => pure (keywordEntry name v .nil)
  | [v, default] => pure (keywordEntry name v default)
  | args => I.lift (fail (.keywordCall name args.length))

/-! ## Expressions and patterns -/

mutual

/-- The value of an expression. -/
def eval : Expr → Env → M Value
  | .literal l, _ => pure l.value
  | .vector items, env => do
    let vs ← evalAll items env
    return .vector vs
  | .map entries, env => do
    let es ← evalEntries entries env
    return .map (Entries.ofList es)
  | .var name, env => I.lookupVar name env
  | .context name, _ => do
    let h ← I.host
    return entryNamed h.context name
  | .memory name, _ => do
    let h ← I.host
    return entryNamed h.memory name
  | .bind bs body, env => do
    let env ← bindAll bs env
    eval body env
  | .choose test yes no, env => do
    let v ← eval test env
    if v.truthy then eval yes env else eval no env
  | .and items, env => evalAnd items env
  | .or items, env => evalOr items env
  | .sequence items, env => evalSequence items env
  | .fn params body, env => do
    let n ← I.lift freshStamp
    return .closure n params body env
  | .call callee args, env => do
    let f ← eval callee env
    let vs ← evalAll args env
    I.call f vs
  | .rowTest path op none, _ => do
    let n ← I.lift freshStamp
    return .rowTest n path op .nil
  | .rowTest path op (some operand), env => do
    let v ← eval operand env
    let n ← I.lift freshStamp
    return .rowTest n path op v
  | .combine c tests, env => do
    let fs ← evalTests tests env
    let n ← I.lift freshStamp
    return .combined n c fs
  | .toolCall name args, env => do
    let v ← eval args env
    I.callTool name [v]
  | .ret value, env => do
    let v ← eval value env
    I.lift (cut (.ret v))
  | .fail value, env => do
    let v ← eval value env
    I.lift (fail (.failed v))
  | .loop bs body, env => do
    let inner ← bindAll bs env
    I.loop (eval body) (fun vs => rebindAll bs vs env) inner
  | .recur args, env => do
    let vs ← evalAll args env
    I.recur vs
  | .define name value, env =>
    if Builtin.isName name then I.lift (fail (.redefinition name))
    else do
      let v ← eval value env
      I.lift (define name v)
      return v

/-- The values of several expressions. -/
def evalAll : List Expr → Env → M (List Value)
  | [], _ => pure []
  | e :: rest, env => do
    let v ← eval e env
    let vs ← evalAll rest env
    return v :: vs

/-- The values of pairs of expressions. -/
def evalEntries : List (Expr × Expr) → Env → M (List (Value × Value))
  | [], _ => pure []
  | (k, v) :: rest, env => do
    let k ← eval k env
    let v ← eval v env
    let es ← evalEntries rest env
    return (k, v) :: es

/-- The first falsy value, or the last value. -/
def evalAnd : List Expr → Env → M Value
  | [], _ => pure (.bool true)
  | [e], env => eval e env
  | e :: rest, env => do
    let v ← eval e env
    if v.truthy then evalAnd rest env else return v

/-- The first truthy value, or the last value. -/
def evalOr : List Expr → Env → M Value
  | [], _ => pure .nil
  | [e], env => eval e env
  | e :: rest, env => do
    let v ← eval e env
    if v.truthy then return v else evalOr rest env

/-- The last value. -/
def evalSequence : List Expr → Env → M Value
  | [], _ => pure .nil
  | [e], env => eval e env
  | e :: rest, env => do
    let _ ← eval e env
    evalSequence rest env

/-- The values of expressions that have to be callable. -/
def evalTests : List Expr → Env → M (List Value)
  | [], _ => pure []
  | e :: rest, env => do
    let f ← eval e env
    if f.callable then
      let fs ← evalTests rest env
      return f :: fs
    else I.lift (fail (.type (.predicate f)))

/-- Binds patterns to the values of expressions, each of which sees the bindings before it. -/
def bindAll : List (Pattern × Expr) → Env → M Env
  | [], env => pure env
  | (p, e) :: rest, env => do
    let v ← eval e env
    let env ← bindPattern p v env
    bindAll rest env

/-- Binds the same patterns to new values. -/
def rebindAll : List (Pattern × Expr) → List Value → Env → M Env
  | (p, _) :: rest, v :: vs, env => do
    let env ← bindPattern p v env
    rebindAll rest vs env
  | _, _, env => pure env

/-- Binds the names of a pattern to the parts of a value. -/
def bindPattern : Pattern → Value → Env → M Env
  | .name name, v, env => pure (Env.bind env name v)
  | .ignore, _, env => pure env
  | .whole name p, v, env => do
    let env ← bindPattern p v env
    return Env.bind env name v
  | .map parts, .map m, env => bindParts parts m env
  | .map _, v, _ => I.lift (fail (.destructure "map" v))
  | .seq items none, .vector vs, env => bindItems items vs env
  | .seq items (some rest), .vector vs, env => do
    let env ← bindItems items vs env
    let left := vs.drop items.length
    bindPattern rest (if left.isEmpty then .nil else .vector left) env
  | .seq _ _, v, _ => I.lift (fail (.destructure "list" v))

/-- Binds patterns to the values at keys of a map. A default is used if there is none. -/
def bindParts : List (Pattern × Literal × Option Expr) → Entries → Env → M Env
  | [], _, env => pure env
  | (p, key, none) :: rest, m, env => do
    let env ← bindPattern p ((Entries.find? m key.value).getD .nil) env
    bindParts rest m env
  | (p, key, some default) :: rest, m, env => do
    let v ← match Entries.find? m key.value with
      | some v => pure v
      | none => eval default env
    let env ← bindPattern p v env
    bindParts rest m env

/-- Binds patterns to items; what is missing is `nil`. -/
def bindItems : List Pattern → List Value → Env → M Env
  | [], _, env => pure env
  | p :: rest, vs, env => do
    let env ← bindPattern p (vs.headD .nil) env
    bindItems rest vs.tail env

end

/-! ## Calls -/

/-- The bindings of a function's parameters. -/
def enter (params : List Pattern) (env : Env) (args : List Value) : M Env :=
  if args.length = params.length then I.bindItems params args env
  else I.lift (fail (.arity params.length args.length))

/-- Calls a function. -/
def callClosure (params : List Pattern) (body : Expr) (env : Env) (args : List Value) :
    M Value := do
  let inner ← I.enter params env args
  I.loop (I.eval body) (I.enter params env) inner

/-- The bindings of a predicate on rows. -/
def enterRow : List Value → M Env
  | [row] => pure (rowEnv row)
  | args => I.lift (fail (.arity 1 args.length))

/-- Whether all predicates hold of a row. The first that does not decides. -/
def allHold (row : Value) : List Value → M Bool
  | [] => pure true
  | f :: rest => do
    let v ← I.call f [row]
    if v.truthy then allHold row rest else return false

/-- Whether a predicate holds of a row. The first that does decides. -/
def anyHolds (row : Value) : List Value → M Bool
  | [] => pure false
  | f :: rest => do
    let v ← I.call f [row]
    if v.truthy then return true else anyHolds row rest

/-- What a predicate says of a row. -/
def evalRow : RowBody → Value → M Value
  | .test path op operand, row =>
    pure (.bool (op.holds ((row.getIn? (path.map Literal.value)).getD .nil) operand))
  | .combined .allOf tests, row => do
    return .bool (← I.allHold row tests)
  | .combined .anyOf tests, row => do
    return .bool (← I.anyHolds row tests)
  | .combined .noneOf tests, row => do
    return .bool (!(← I.anyHolds row tests))

/-- Calls a predicate on rows. -/
def callRow (body : RowBody) (args : List Value) : M Value := do
  let inner ← I.enterRow args
  I.loop (fun env => I.evalRow body (rowOf env)) I.enterRow inner

/-- Performs the calls of an action. -/
def perform {α : Type} : Action α → M α
  | .done a => pure a
  | .fail e => I.lift (fail e)
  | .call f args next => do
    let v ← I.call f args
    perform (next v)

/-- Calls a value. The calls that this makes are made by the function that is passed in. -/
def dispatch : Value → List Value → M Value
  | .keyword name, args => I.callKeyword name args
  | .closure _ params body env, args => I.callClosure params body env args
  | .rowTest _ path op operand, args => I.callRow (.test path op operand) args
  | .combined _ c tests, args => I.callRow (.combined c tests) args
  | .builtin f, args => I.perform (f.act args)
  | .tool name, args => I.callTool name args
  | v, _ => I.lift (fail (.notCallable v))

end Interpretation

/-! ## Evaluation -/

/-- Evaluation as an interpretation: a `recur` cuts it short until the loop or function around is entered
again. -/
def Interpretation.running (h : Host) (call : Value → List Value → EvalM Value) :
    Interpretation EvalM where
  host := pure h
  lift x := x
  call := call
  recur vs := cut (.recur vs)
  loop body rebind env := iterate h.limits.loop body rebind h.limits.loop env

end ToolLisp
