import ToolLisp.Expr.Basic
import ToolLisp.Expr.Error

/-!
# Patterns from forms

A symbol binds a value, a vector takes a vector apart, a map takes a map apart. The expressions of
defaults are analysed by a function that is passed in.
-/

namespace ToolLisp

/-- Analysis counts the names that it makes up, and can fail. -/
abbrev Analyze := StateT Nat (Except AnalysisError)

namespace Analyze

/-- Rejects a pattern. -/
def badPattern {α : Type} (fault : PatternFault) : Analyze α :=
  throw (.pattern fault)

/-- The literal that a form spells as the key of a part. -/
def literalKey : Form → Analyze Literal
  | .keyword name => pure (.keyword name)
  | .string s => pure (.string s)
  | .number n => pure (.number n)
  | .bool b => pure (.bool b)
  | .nil => pure .nil
  | f => badPattern (.badKey f)

/-- The name that the whole value gets. -/
def wholeName : Form → Analyze String
  | .symbol name => pure name
  | _ => badPattern .badWhole

/-- The pattern with a name for the whole value, if there is one. -/
def withWhole (name : Option String) (p : Pattern) : Pattern :=
  match name with
  | some name => .whole name p
  | none => p

/-- The parts of a vector pattern read so far, the last one first. -/
structure SeqParts where
  /-- The patterns of the elements. -/
  items : List Pattern
  /-- The pattern of the rest. -/
  rest : Option Pattern
  /-- The name of the whole. -/
  whole : Option String

/-- An entry of a map pattern: the pattern of a part, its key and its default. -/
abbrev MapPart := Pattern × Literal × Option Expr

/-- The parts of a map pattern read so far. -/
structure MapParts where
  /-- The entries. -/
  entries : List MapPart
  /-- The defaults with the names they are for. -/
  defaults : List (String × Expr)
  /-- The name of the whole. -/
  whole : Option String

/-- The entries for a list of names, whose keys are spelled like the names. -/
def namedParts (directive : String) (key : String → Literal) : List Form → Analyze (List MapPart)
  | [] => pure []
  | .symbol name :: rest => return (.name name, key name, none) :: (← namedParts directive key rest)
  | .keyword name :: rest => return (.name name, key name, none) :: (← namedParts directive key rest)
  | f :: _ => badPattern (.badName directive f)

/-- The defaults of a map pattern. -/
def defaultParts (sub : Form → Analyze Expr) :
    List (Form × Form) → Analyze (List (String × Expr))
  | [] => pure []
  | (.symbol name, value) :: rest => do
    let e ← sub value
    return (name, e) :: (← defaultParts sub rest)
  | (f, _) :: _ => badPattern (.badDefault f)

/-- Whether an entry binds the name itself. -/
def MapPart.binds (part : MapPart) (name : String) : Bool :=
  match part.1 with
  | .name n => n == name
  | _ => false

/-- Gives the first entry that binds a name a default. -/
def setDefault (name : String) (value : Expr) : List MapPart → Option (List MapPart)
  | [] => none
  | part :: rest =>
    if part.binds name then some ((part.1, part.2.1, some value) :: rest)
    else (setDefault name value rest).map (part :: ·)

/-- Gives the entries their defaults. -/
def setDefaults (entries : List MapPart) : List (String × Expr) → Analyze (List MapPart)
  | [] => pure entries
  | (name, value) :: rest =>
    match setDefault name value entries with
    | some entries => setDefaults entries rest
    | none => badPattern (.unboundDefault name)

/-- Whether a form is the sign for the rest of a vector. -/
def isRestSign : Form → Bool
  | .symbol name => name == "&"
  | _ => false

/-- Whether a form is the directive that names the whole value. -/
def isWholeSign : Form → Bool
  | .keyword name => name == "as"
  | _ => false

mutual

/-- The pattern of a form. -/
def pattern (sub : Form → Analyze Expr) : Form → Analyze Pattern
  | .symbol name =>
    if name = "_" then pure .ignore
    else if name = "&" then badPattern .strayRest
    else pure (.name name)
  | .vector items => do
    let parts ← seqParts sub ⟨[], none, none⟩ items
    return withWhole parts.whole (.seq parts.items.reverse parts.rest)
  | .map entries => do
    let parts ← mapParts sub ⟨[], [], none⟩ entries
    let entries ← setDefaults parts.entries parts.defaults
    return withWhole parts.whole (.map entries)
  | f => badPattern (.cannotBind f)

/-- The parts of a vector pattern, added to those read so far. -/
def seqParts (sub : Form → Analyze Expr) (parts : SeqParts) : List Form → Analyze SeqParts
  | [] => pure parts
  -- the last form: a sign here has nothing behind it
  | [f] =>
    if isRestSign f then badPattern .noRest
    else if isWholeSign f then badPattern .badWhole
    else if parts.rest.isSome then badPattern .afterRest
    else do
      let p ← pattern sub f
      return { parts with items := p :: parts.items }
  | f :: g :: rest =>
    if isRestSign f then
      if parts.rest.isSome then badPattern .secondRest
      else do
        let p ← pattern sub g
        seqParts sub { parts with rest := some p } rest
    else if isWholeSign f then do
      let name ← wholeName g
      seqParts sub { parts with whole := some name } rest
    else if parts.rest.isSome then badPattern .afterRest
    else do
      let p ← pattern sub f
      seqParts sub { parts with items := p :: parts.items } (g :: rest)

/-- The parts of a map pattern, added to those read so far. -/
def mapParts (sub : Form → Analyze Expr) (parts : MapParts) :
    List (Form × Form) → Analyze MapParts
  | [] => pure parts
  | (k, v) :: rest => do
    match k.keyword?, v with
    | some "keys", .vector names =>
      let new ← namedParts "keys" .keyword names
      mapParts sub { parts with entries := parts.entries ++ new } rest
    | some "keys", _ => badPattern (.namesNotVector "keys")
    | some "strs", .vector names =>
      let new ← namedParts "strs" .string names
      mapParts sub { parts with entries := parts.entries ++ new } rest
    | some "strs", _ => badPattern (.namesNotVector "strs")
    | some "or", .map defaults =>
      let new ← defaultParts sub defaults
      mapParts sub { parts with defaults := parts.defaults ++ new } rest
    | some "or", _ => badPattern .defaultsNotMap
    | some "as", f =>
      let name ← wholeName f
      mapParts sub { parts with whole := some name } rest
    -- in other entries the pattern comes before its key
    | _, f =>
      let key ← literalKey f
      let p ← pattern sub k
      mapParts sub { parts with entries := parts.entries ++ [(p, key, none)] } rest

end

end Analyze

end ToolLisp
