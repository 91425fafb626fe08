import ToolLisp.Proofs.Evaluation

/-!
# Evaluation on fuel

A second evaluator, in which nothing bounds the recursion but a supply of fuel: every step of it, into a
part of an expression, into the body of a function, into another turn of a loop or into a call that a
builtin function makes, is allowed as long as there is fuel. The depth of calls is counted up from zero
and compared with its limit before a call is made, and so are the turns of a loop before each of them.

`none` is the answer of an evaluation whose fuel did not last.
-/

namespace ToolLisp

/-- A computation that may run out of fuel. -/
def FuelM (α : Type) : Type :=
  RunState → Option (Except Signal α × RunState)

namespace FuelM

variable {α β : Type}

/-- No fuel is left. -/
def out : FuelM α :=
  fun _ => none

/-- A computation that takes no fuel. -/
def lift (x : EvalM α) : FuelM α :=
  fun s => some (x s)

/-- One computation after the other. -/
def andThen (x : FuelM α) (f : α → FuelM β) : FuelM β :=
  fun s =>
    match x s with
    | some (.ok a, s) => f a s
    | some (.error e, s) => some (.error e, s)
    | none => none

instance : Monad FuelM where
  pure a := lift (pure a)
  bind := andThen

/-- Goes on with the new values if a turn of a loop asks for another one. -/
def orAgain (x : FuelM Value) (again : List Value → FuelM Value) : FuelM Value :=
  fun s =>
    match x s with
    | some (.error (.recur vs), s) => again vs s
    | result => result

end FuelM

open FuelM

section

variable (h : Host)

mutual

/-- The value of an expression, at a depth of calls. -/
def evalFuel (fuel depth : Nat) (e : Expr) (env : Env) : FuelM Value :=
  match fuel with
  | 0 => out
  | fuel + 1 =>
    match e with
    | .literal l => pure l.value
    | .vector items => do
      let vs ← evalAllFuel fuel depth items env
      return .vector vs
    | .map entries => do
      let es ← evalEntriesFuel fuel depth entries env
      return .map (Entries.ofList es)
    | .var name => lift (lookupVar h name env)
    | .context name => pure (entryNamed h.context name)
    | .memory name => pure (entryNamed h.memory name)
    | .bind bs body => do
      let inner ← bindAllFuel fuel depth bs env
      evalFuel fuel depth body inner
    | .choose test yes no => do
      let v ← evalFuel fuel depth test env
      if v.truthy then evalFuel fuel depth yes env else evalFuel fuel depth no env
    | .and items => evalAndFuel fuel depth items env
    | .or items => evalOrFuel fuel depth items env
    | .sequence items => evalSequenceFuel fuel depth items env
    | .fn params body => do
      let n ← lift EvalM.freshStamp
      return .closure n params body env
    | .call callee args => do
      let f ← evalFuel fuel depth callee env
      let vs ← evalAllFuel fuel depth args env
      callFuel fuel depth f vs
    | .rowTest path op none => do
      let n ← lift EvalM.freshStamp
      return .rowTest n path op .nil
    | .rowTest path op (some operand) => do
      let v ← evalFuel fuel depth operand env
      let n ← lift EvalM.freshStamp
      return .rowTest n path op v
    | .combine c tests => do
      let fs ← evalTestsFuel fuel depth tests env
      let n ← lift EvalM.freshStamp
      return .combined n c fs
    | .toolCall name args => do
      let v ← evalFuel fuel depth args env
      lift (callTool h name [v])
    | .ret value => do
      let v ← evalFuel fuel depth value env
      lift (EvalM.cut (.ret v))
    | .fail value => do
      let v ← evalFuel fuel depth value env
      lift (EvalM.fail (.failed v))
    | .loop bs body => do
      let inner ← bindAllFuel fuel depth bs env
      loopFuel fuel depth bs body env 0 inner
    | .recur args => do
      let vs ← evalAllFuel fuel depth args env
      lift (EvalM.cut (.recur vs))
    | .define name value =>
      if Builtin.isName name then lift (EvalM.fail (.redefinition name))
      else do
        let v ← evalFuel fuel depth value env
        lift (EvalM.define name v)
        return v
termination_by structural fuel

/-- The values of several expressions. -/
def evalAllFuel (fuel depth : Nat) (es : List Expr) (env : Env) : FuelM (List Value) :=
  match fuel, es with
  | 0, _ => out
  | _ + 1, [] => pure []
  | fuel + 1, e :: rest => do
    let v ← evalFuel fuel depth e env
    let vs ← evalAllFuel fuel depth rest env
    return v :: vs
termination_by structural fuel

/-- The values of pairs of expressions. -/
def evalEntriesFuel (fuel depth : Nat) (es : List (Expr × Expr)) (env : Env) :
    FuelM (List (Value × Value)) :=
  match fuel, es with
  | 0, _ => out
  | _ + 1, [] => pure []
  | fuel + 1, (k, v) :: rest => do
    let k ← evalFuel fuel depth k env
    let v ← evalFuel fuel depth v env
    let es ← evalEntriesFuel fuel depth rest env
    return (k, v) :: es
termination_by structural fuel

/-- The first falsy value, or the last value. -/
def evalAndFuel (fuel depth : Nat) (es : List Expr) (env : Env) : FuelM Value :=
  match fuel, es with
  | 0, _ => out
  | _ + 1, [] => pure (.bool true)
  | fuel + 1, [e] => evalFuel fuel depth e env
  | fuel + 1, e :: rest => do
    let v ← evalFuel fuel depth e env
    if v.truthy then evalAndFuel fuel depth rest env else return v
termination_by structural fuel

/-- The first truthy value, or the last value. -/
def evalOrFuel (fuel depth : Nat) (es : List Expr) (env : Env) : FuelM Value :=
  match fuel, es with
  | 0, _ => out
  | _ + 1, [] => pure .nil
  | fuel + 1, [e] => evalFuel fuel depth e env
  | fuel + 1, e :: rest => do
    let v ← evalFuel fuel depth e env
    if v.truthy then return v else evalOrFuel fuel depth rest env
termination_by structural fuel

/-- The last value. -/
def evalSequenceFuel (fuel depth : Nat) (es : List Expr) (env : Env) : FuelM Value :=
  match fuel, es with
  | 0, _ => out
  | _ + 1, [] => pure .nil
  | fuel + 1, [e] => evalFuel fuel depth e env
  | fuel + 1, e :: rest => do
    let _ ← evalFuel fuel depth e env
    evalSequenceFuel fuel depth rest env
termination_by structural fuel

/-- The values of expressions that have to be callable. -/
def evalTestsFuel (fuel depth : Nat) (es : List Expr) (env : Env) : FuelM (List Value) :=
  match fuel, es with
  | 0, _ => out
  | _ + 1, [] => pure []
  | fuel + 1, e :: rest => do
    let f ← evalFuel fuel depth e env
    if f.callable then
      let fs ← evalTestsFuel fuel depth rest env
      return f :: fs
    else lift (EvalM.fail (.type (.predicate f)))
termination_by structural fuel

/-- Binds patterns to the values of expressions, each of which sees the bindings before it. -/
def bindAllFuel (fuel depth : Nat) (bs : List (Pattern × Expr)) (env : Env) : FuelM Env :=
  match fuel, bs with
  | 0, _ => out
  | _ + 1, [] => pure env
  | fuel + 1, (p, e) :: rest => do
    let v ← evalFuel fuel depth e env
    let env ← bindPatternFuel fuel depth p v env
    bindAllFuel fuel depth rest env
termination_by structural fuel

/-- Binds the same patterns to new values. -/
def rebindAllFuel (fuel depth : Nat) (bs : List (Pattern × Expr)) (vs : List Value) (env : Env) :
    FuelM Env :=
  match fuel, bs, vs with
  | 0, _, _ => out
  | fuel + 1, (p, _) :: rest, v :: vs => do
    let env ← bindPatternFuel fuel depth p v env
    rebindAllFuel fuel depth rest vs env
  | _ + 1, _, _ => pure env
termination_by structural fuel

/-- Binds the names of a pattern to the parts of a value. -/
def bindPatternFuel (fuel depth : Nat) (p : Pattern) (v : Value) (env : Env) : FuelM Env :=
  match fuel, p, v with
  | 0, _, _ => out
  | _ + 1, .name name, v => pure (Env.bind env name v)
  | _ + 1, .ignore, _ => pure env
  | fuel + 1, .whole name p, v => do
    let env ← bindPatternFuel fuel depth p v env
    return Env.bind env name v
  | fuel + 1, .map parts, .map m => bindPartsFuel fuel depth parts m env
  | _ + 1, .map _, v => lift (EvalM.fail (.destructure "map" v))
  | fuel + 1, .seq items none, .vector vs => bindItemsFuel fuel depth items vs env
  | fuel + 1, .seq items (some rest), .vector vs => do
    let env ← bindItemsFuel fuel depth items vs env
    let left := vs.drop items.length
    bindPatternFuel fuel depth rest (if left.isEmpty then .nil else .vector left) env
  | _ + 1, .seq _ _, v => lift (EvalM.fail (.destructure "list" v))
termination_by structural fuel

/-- Binds patterns to the values at keys of a map. A default is used if there is none. -/
def bindPartsFuel (fuel depth : Nat) (parts : List (Pattern × Literal × Option Expr)) (m : Entries)
    (env : Env) : FuelM Env :=
  match fuel, parts with
  | 0, _ => out
  | _ + 1, [] => pure env
  | fuel + 1, (p, key, default) :: rest => do
    let v ← match Entries.find? m key.value, default with
      | some v, _ => pure v
      | none, some default => evalFuel fuel depth default env
      | none, none => pure .nil
    let env ← bindPatternFuel fuel depth p v env
    bindPartsFuel fuel depth rest m env
termination_by structural fuel

/-- Binds patterns to items; what is missing is `nil`. -/
def bindItemsFuel (fuel depth : Nat) (items : List Pattern) (vs : List Value) (env : Env) :
    FuelM Env :=
  match fuel, items with
  | 0, _ => out
  | _ + 1, [] => pure env
  | fuel + 1, p :: rest => do
    let env ← bindPatternFuel fuel depth p (vs.headD .nil) env
    bindItemsFuel fuel depth rest vs.tail env
termination_by structural fuel

/-- A turn of a loop, after so many turns before it. -/
def loopFuel (fuel depth : Nat) (bs : List (Pattern × Expr)) (body : Expr) (outer : Env)
    (turns : Nat) (env : Env) : FuelM Value :=
  match fuel with
  | 0 => out
  | fuel + 1 =>
    (evalFuel fuel depth body env).orAgain fun vs =>
      if h.limits.loop < turns + 1 then lift (EvalM.fail (.loopLimit h.limits.loop))
      else do
        let inner ← rebindAllFuel fuel depth bs vs outer
        loopFuel fuel depth bs body outer (turns + 1) inner
termination_by structural fuel

/-- A turn of a function, after so many turns before it. -/
def closureFuel (fuel depth : Nat) (params : List Pattern) (body : Expr) (outer : Env)
    (turns : Nat) (args : List Value) : FuelM Value :=
  match fuel with
  | 0 => out
  | fuel + 1 =>
    if args.length = params.length then do
      let inner ← bindItemsFuel fuel depth params args outer
      (evalFuel fuel depth body inner).orAgain fun vs =>
        if h.limits.loop < turns + 1 then lift (EvalM.fail (.loopLimit h.limits.loop))
        else closureFuel fuel depth params body outer (turns + 1) vs
    else lift (EvalM.fail (.arity params.length args.length))
termination_by structural fuel

/-- Whether all predicates hold of a row. -/
def allHoldFuel (fuel depth : Nat) (row : Value) (tests : List Value) : FuelM Bool :=
  match fuel, tests with
  | 0, _ => out
  | _ + 1, [] => pure true
  | fuel + 1, f :: rest => do
    let v ← callFuel fuel depth f [row]
    if v.truthy then allHoldFuel fuel depth row rest else return false
termination_by structural fuel

/-- Whether a predicate holds of a row. -/
def anyHoldsFuel (fuel depth : Nat) (row : Value) (tests : List Value) : FuelM Bool :=
  match fuel, tests with
  | 0, _ => out
  | _ + 1, [] => pure false
  | fuel + 1, f :: rest => do
    let v ← callFuel fuel depth f [row]
    if v.truthy then return true else anyHoldsFuel fuel depth row rest
termination_by structural fuel

/-- What a predicate says of a row. -/
def evalRowFuel (fuel depth : Nat) (body : RowBody) (row : Value) : FuelM Value :=
  match fuel, body with
  | 0, _ => out
  | _ + 1, .test path op operand =>
    pure (.bool (op.holds ((row.getIn? (path.map Literal.value)).getD .nil) operand))
  | fuel + 1, .combined .allOf tests => do
    return .bool (← allHoldFuel fuel depth row tests)
  | fuel + 1, .combined .anyOf tests => do
    return .bool (← anyHoldsFuel fuel depth row tests)
  | fuel + 1, .combined .noneOf tests => do
    return .bool (!(← anyHoldsFuel fuel depth row tests))
termination_by structural fuel

/-- A turn of a predicate on rows, after so many turns before it. -/
def rowFuel (fuel depth : Nat) (body : RowBody) (turns : Nat) (args : List Value) : FuelM Value :=
  match fuel with
  | 0 => out
  | fuel + 1 => do
    let inner ← lift (enterRow args)
    (evalRowFuel fuel depth body (rowOf inner)).orAgain fun vs =>
      if h.limits.loop < turns + 1 then lift (EvalM.fail (.loopLimit h.limits.loop))
      else rowFuel fuel depth body (turns + 1) vs
termination_by structural fuel

/-- Performs the calls of a builtin function. -/
def actionFuel (fuel depth : Nat) (a : Action Value) : FuelM Value :=
  match fuel, a with
  | 0, _ => out
  | _ + 1, .done v => pure v
  | _ + 1, .fail e => lift (EvalM.fail e)
  | fuel + 1, .call f args next => do
    let v ← callFuel fuel depth f args
    actionFuel fuel depth (next v)
termination_by structural fuel

/-- Calls a value. This is one of the calls that the depth counts. -/
def dispatchFuel (fuel depth : Nat) (f : Value) (args : List Value) : FuelM Value :=
  match fuel, f, args with
  | 0, _, _ => out
  | _ + 1, .keyword name, args => lift (callKeyword name args)
  | fuel + 1, .closure _ params body env, args => closureFuel fuel depth params body env 0 args
  | fuel + 1, .rowTest _ path op operand, args => rowFuel fuel depth (.test path op operand) 0 args
  | fuel + 1, .combined _ c tests, args => rowFuel fuel depth (.combined c tests) 0 args
  | fuel + 1, .builtin f, args => actionFuel fuel depth (f.act args)
  | _ + 1, .tool name, args => lift (callTool h name args)
  | _ + 1, v, _ => lift (EvalM.fail (.notCallable v))
termination_by structural fuel

/-- Calls a value when so many calls are being made. -/
def callFuel (fuel depth : Nat) (f : Value) (args : List Value) : FuelM Value :=
  match fuel with
  | 0 => out
  | fuel + 1 =>
    if h.limits.recursion ≤ depth then lift (EvalM.fail (.recursionLimit h.limits.recursion))
    else dispatchFuel fuel (depth + 1) f args
termination_by structural fuel

end

end

end ToolLisp
