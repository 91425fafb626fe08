import ToolLisp.Form.Placeholder
import ToolLisp.Source.Token

/-!
# Reading forms

Forms are read by a machine that takes one token at a time. It keeps a stack of the brackets that are
open, each with the forms read inside it so far; a closing bracket turns the innermost of them into a
form. So reading a text is folding one function over its tokens, and reading two texts one after the
other is folding twice.
-/

namespace ToolLisp

/-- Brackets may be nested this deeply. -/
def nestingLimit : Nat := 512

/-- What an open bracket is the beginning of. -/
inductive Opener where
  /-- A list, a vector or a map. -/
  | bracket (b : Bracket)
  /-- A short function literal. -/
  | function
deriving DecidableEq

/-- The bracket that closes what is open. -/
def Opener.closer : Opener → Bracket
  | .bracket b => b
  | .function => .round

/-- A bracket that is open. -/
structure Frame where
  /-- What the bracket began. -/
  opener : Opener
  /-- Where it stands. -/
  position : Position
  /-- The forms read inside it, the last one first. -/
  items : List Form

/-- The state of the reader. -/
structure Reader where
  /-- The open brackets, the innermost first. -/
  frames : List Frame
  /-- The forms read outside all brackets, the last one first. -/
  forms : List Form

namespace Reader

/-- Nothing has been read. -/
def empty : Reader := ⟨[], []⟩

/-- Adds a form where the reader stands. -/
def push (r : Reader) (f : Form) : Reader :=
  match r.frames with
  | [] => ⟨[], f :: r.forms⟩
  | frame :: outer => ⟨{ frame with items := f :: frame.items } :: outer, r.forms⟩

/-- Opens a bracket. -/
def openWith (r : Reader) (o : Opener) (p : Position) : Except ReadError Reader :=
  if o = .function ∧ r.frames.any (·.opener == .function) then .error ⟨.nestedFunction, p⟩
  else if nestingLimit ≤ r.frames.length then .error ⟨.tooDeep nestingLimit, p⟩
  else .ok ⟨⟨o, p, []⟩ :: r.frames, r.forms⟩

/-- The form of a bracket that has been closed. -/
def closeFrame (frame : Frame) : Except ReadError Form :=
  let items := frame.items.reverse
  match frame.opener with
  | .bracket .round => .ok (.list items)
  | .bracket .square => .ok (.vector items)
  | .bracket .curly =>
    if items.length % 2 = 0 then .ok (.map (Form.pairs items))
    -- reported where the map opens
    else .error ⟨.oddMap, frame.position⟩
  | .function => .ok (.ofShortFunction items)

/-- Closes a bracket. -/
def closeWith (r : Reader) (b : Bracket) (p : Position) : Except ReadError Reader :=
  match r.frames with
  | [] => .error ⟨.unexpectedClose b, p⟩
  | frame :: outer =>
    if frame.opener.closer = b then
      match closeFrame frame with
      | .ok f => .ok (push ⟨outer, r.forms⟩ f)
      | .error e => .error e
    else .error ⟨.unexpectedClose b, p⟩

/-- The form of a symbol; three names are literals. -/
def ofSymbol (name : String) : Form :=
  if name = "nil" then .nil
  else if name = "true" then .bool true
  else if name = "false" then .bool false
  else .symbol name

/-- Takes one token. -/
def step (r : Reader) (t : Token × Position) : Except ReadError Reader :=
  match t.1 with
  | .opening b => r.openWith (.bracket b) t.2
  | .openFunction => r.openWith .function t.2
  | .closing b => r.closeWith b t.2
  | .symbol name => .ok (r.push (ofSymbol name))
  | .qualified ns name => .ok (r.push (.qualified ns name))
  | .keyword name => .ok (r.push (.keyword name))
  | .number n => .ok (r.push (.number n))
  | .string s => .ok (r.push (.string s))

/-- The forms read, provided that no bracket is open. -/
def finish (r : Reader) : Except ReadError (List Form) :=
  match r.frames with
  | [] => .ok r.forms.reverse
  | frame :: _ => .error ⟨.missingClose frame.opener.closer, frame.position⟩

end Reader

/-- The forms of scanned tokens. An error among the tokens counts only when the tokens before it can be
read. -/
def readScan (s : Scan) : Except ReadError (List Form) :=
  match s.tokens.foldlM Reader.step .empty with
  | .error e => .error e
  | .ok r =>
    match s.finish with
    | .error e => .error e
    | .ok _ => r.finish

/-- Reads all forms of a text. -/
def readForms (text : String) : Except ReadError (List Form) :=
  readScan (scan text.toList)

/-- Reads the only form of a text. -/
def readForm (text : String) : Except ReadError Form :=
  match readForms text with
  | .error e => .error e
  | .ok [f] => .ok f
  | .ok [] => .error ⟨.noForm, .start⟩
  | .ok forms => .error ⟨.manyForms forms.length, .start⟩

/-- Whether a form is read back from its printed text. -/
def Form.rereads (f : Form) : Bool :=
  match readForm f.render with
  | .ok g => f.equal g
  | .error _ => false

end ToolLisp
