import ToolLisp.Expr.OfForm
import ToolLisp.Form.Read
import ToolLisp.Run.Eval
import ToolLisp.Value.Entries

/-!
# Running programs

A run reads a source text, analyses it, evaluates it and updates the memory with its value. A session
is a sequence of runs, each of which starts with the memory and the definitions that the last
successful one left.

How the value of a program changes the memory: a value that is no map leaves it alone. The entries of a
map are written to the memory; if the map has a result, the result is not written, and takes the place of
the map as the result of the run.
-/

namespace ToolLisp

/-! ## Memory -/

/-- What the value of a program comes to. -/
structure MemoryUpdate where
  /-- The result of the run. -/
  result : Value
  /-- The entries that are written to the memory. -/
  delta : Entries
  /-- The memory after that. -/
  memory : Entries

namespace MemoryUpdate

/-- The name of the entry that holds the result. -/
def resultName : String := "result"

/-- The entries of a map without its result. -/
def withoutResult (m : Entries) : Entries :=
  Entries.erase (.string resultName) (Entries.erase (.keyword resultName) m)

/-- The result of a value and the entries that it writes. -/
def split : Value → Value × Entries
  | .map m =>
    match Entries.find? m (.keyword resultName) with
    | some v => (v, withoutResult m)
    | none => (.map m, m)
  | v => (v, [])

/-- The update of a memory by the value of a program. -/
def ofValue (v : Value) (memory : Entries) : MemoryUpdate :=
  let (result, delta) := split v
  ⟨result, delta, Entries.insertAll memory delta⟩

end MemoryUpdate

/-! ## Runs -/

/-- Why a run fails. -/
inductive RunError where
  /-- The source text cannot be read. -/
  | read (e : ReadError)
  /-- The program has the wrong shape. -/
  | analysis (e : AnalysisError)
  /-- The program stops with an error. -/
  | eval (e : EvalError)

namespace RunError

/-- The message of an error. -/
def message : RunError → String
  | .read e => e.message
  | .analysis e => e.message
  | .eval e => e.message

/-- The tag of an error. -/
def kind : RunError → String
  | .read _ => "parse_error"
  | .analysis e => e.kind
  | .eval e => e.kind

end RunError

/-- The program of a source text. -/
def compile (source : String) : Except RunError Expr :=
  match readForms source with
  | .error e => .error (.read e)
  | .ok forms =>
    match Expr.ofForms forms with
    | .error e => .error (.analysis e)
    | .ok e => .ok e

/-- What a program evaluates to. -/
structure Evaluation where
  /-- The value. -/
  value : Value
  /-- Whether the program ended itself with that value. -/
  returned : Bool

/-- The outcome of evaluating a program. -/
def Evaluation.ofResult : Except Signal Value → Except EvalError Evaluation
  | .ok v => .ok ⟨v, false⟩
  | .error (.ret v) => .ok ⟨v, true⟩
  | .error (.error e) => .error e
  | .error (.recur _) => .error (.type .strayRecur)

/-- Evaluates a program, and gives its outcome and the state that it leaves. -/
def evaluate (h : Host) (program : Expr) (env : Env) (s : RunState) :
    Except EvalError Evaluation × RunState :=
  let (result, s) := eval h (callTop h) program env s
  (Evaluation.ofResult result, s)

/-- What a successful run leaves. -/
structure RunOutput where
  /-- What became of the value of the program. -/
  update : MemoryUpdate
  /-- All definitions, those from before among them. -/
  definitions : Definitions
  /-- Whether the program ended itself. -/
  returned : Bool

/-- Runs a source text. The state that is left holds the calls of tools, also if the run fails. -/
def run (h : Host) (source : String) (s : RunState) : Except RunError RunOutput × RunState :=
  match compile source with
  | .error e => (.error e, s)
  | .ok program =>
    match evaluate h program .initial s with
    | (.error e, s) => (.error (.eval e), s)
    | (.ok e, s) => (.ok ⟨.ofValue e.value h.memory, s.definitions, e.returned⟩, s)

/-! ## Sessions -/

/-- One run of a session. -/
structure Step where
  /-- The source text. -/
  source : String
  /-- The context. -/
  context : Entries
  /-- The limits. -/
  limits : Limits
  /-- The tools. -/
  tools : Tools

/-- What a session keeps from run to run. -/
structure Session where
  /-- The memory. -/
  memory : Entries
  /-- The definitions. -/
  definitions : Definitions
  /-- The stamp of the next function that is made. -/
  stamp : Nat

namespace Session

/-- The session that begins with a memory. -/
def start (memory : Entries) : Session :=
  ⟨memory, [], 0⟩

/-- What a run of a session comes to: its outcome, and the calls of tools in order. -/
structure Answer where
  /-- The outcome. -/
  outcome : Except RunError RunOutput
  /-- The calls of tools. -/
  calls : List ToolCall

/-- One run of a session. A run that fails leaves memory and definitions as they were. -/
def step (s : Session) (t : Step) : Answer × Session :=
  let h : Host := ⟨t.context, s.memory, t.limits, t.tools⟩
  let (outcome, after) := run h t.source (.start s.definitions s.stamp)
  let next : Session :=
    match outcome with
    | .ok out => ⟨out.update.memory, out.definitions, after.stamp⟩
    -- a failed step changes neither memory nor definitions, but no stamp is given twice
    | .error _ => { s with stamp := after.stamp }
  (⟨outcome, after.calls.reverse⟩, next)

/-- All runs of a session. -/
def steps (s : Session) : List Step → List Answer × Session
  | [] => ([], s)
  | t :: rest =>
    let (answer, s) := s.step t
    let (answers, s) := s.steps rest
    (answer :: answers, s)

end Session

end ToolLisp
