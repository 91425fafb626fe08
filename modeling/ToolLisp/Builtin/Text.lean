import ToolLisp.Builtin.Argument
import ToolLisp.Builtin.Signature
import ToolLisp.Regex.Machine
import ToolLisp.Text.Case
import ToolLisp.Text.Basic

/-!
# Functions on texts

Building, cutting and testing strings, matching patterns, and reading numbers. Indices count the
characters that a reader sees.
-/

namespace ToolLisp

namespace TextFn

/-! ## Building and cutting -/

/-- The plain texts of values, one after the other. -/
def concatenated (args : List Value) : Value :=
  .string (String.ofList (args.flatMap Value.plainText))

/-- The plain texts of the items of a collection with a separator between them. -/
def joined (sep : String) (v : Value) : Checked Value := do
  let items ← v.items "join"
  return .string (sep.intercalate (items.map Value.renderPlain))

/-- The plain texts of the items of a collection with a given separator between them. -/
def joinedWith (sep v : Value) : Checked Value := do
  let sep ← sep.asString "join"
  joined sep v

/-- The part of a string between two indices, or from an index on. -/
def part (v first : Value) (last : Option Value) : Checked Value := do
  let s ← v.asString "subs"
  let chars := Text.clusters s
  let i ← first.asIndex "subs"
  let j ← last.mapM (·.asIndex "subs")
  let j := j.getD chars.length
  if i ≤ j ∧ j ≤ chars.length then
    return .string (String.join ((chars.take j).drop i))
  else throw (.type (.substring i j chars.length))

/-- The parts of a string between separators. The empty separator stands between all characters. -/
def parts (v sep : Value) : Checked Value := do
  let s ← v.asString "split"
  let sep ← sep.asString "split"
  if sep = "" then return .vector ((Text.clusters s).map .string)
  else return .vector ((Text.splitAt sep.toList s.toList).map fun p => .string (String.ofList p))

/-- A function of one string. -/
def onString (name : String) (f : String → String) (v : Value) : Checked Value := do
  let s ← v.asString name
  return .string (f s)

/-- Replaces a part of a string wherever it occurs. -/
def replaced (v old new : Value) : Checked Value := do
  let s ← v.asString "replace"
  let old ← old.asString "replace"
  let new ← new.asString "replace"
  return .string (String.ofList (Text.replaceAll old.toList new.toList s.toList))

/-- A test of a string and a part. -/
def tested (name : String) (test : List Char → List Char → Bool) (v part : Value) :
    Checked Value := do
  let s ← v.asString name
  let part ← part.asString name
  return .bool (test part.toList s.toList)

/-! ## Patterns -/

/-- A match: the matched string, or a vector of it and its groups if the pattern has groups. -/
def matchValue : List (Option String) → Value
  | [some s] => .string s
  | groups => .vector (groups.map fun
    | some s => .string s
    | none => .nil)

/-- The first match of a pattern, which is made from a given text. -/
def firstMatch (engine : Regex.Engine) (name : String) (pattern : String → String) (p v : Value) :
    Checked Value := do
  let p ← p.asString name
  match engine.ofText? (pattern p) with
  | none => throw (.type (.pattern name (pattern p)))
  | some regex =>
    let s ← v.asString name
    match engine.captures? regex s with
    | some groups => return matchValue groups
    | none => return .nil

/-- The text of a group that is not recorded. -/
def grouped (pattern : String) : String :=
  "(?:" ++ pattern ++ ")"

/-- The pattern that matches what the given one matches, but only as a whole string. -/
def anchored (pattern : String) : String :=
  "^" ++ grouped pattern ++ "$"

/-- The first match of a pattern in a string. -/
def found (engine : Regex.Engine) : Value → Value → Checked Value :=
  firstMatch engine "re-find" id

/-- The match of a pattern with a whole string. -/
def matched (engine : Regex.Engine) : Value → Value → Checked Value :=
  firstMatch engine "re-matches" anchored

/-! ## Numbers and names -/

/-- Whether a character is a decimal digit, of whatever script. -/
def isDigit (c : Char) : Bool :=
  Text.Category.decimalNumber.contains c

/-- Whether a text looks like an integer: an optional sign, and one or more digits. -/
def looksLikeInteger (text : List Char) : Bool :=
  let digits := (Decimal.splitSign text).2
  !digits.isEmpty && digits.all isDigit

/-- Whether a text looks like an exponent, or is empty. -/
def looksLikeExponent : List Char → Bool
  | [] => true
  | c :: rest => (c == 'e' || c == 'E') && looksLikeInteger rest

/-- Whether a text looks like a decimal: an optional sign, digits with at most one point among, before or
after them, and an optional exponent. -/
def looksLikeDecimal (text : List Char) : Bool :=
  let rest := (Decimal.splitSign text).2
  let whole := rest.takeWhile isDigit
  let rest := rest.dropWhile isDigit
  let (fraction, rest) :=
    match rest with
    | '.' :: rest => (rest.takeWhile isDigit, rest.dropWhile isDigit)
    | rest => ([], rest)
  !(whole ++ fraction).isEmpty && looksLikeExponent rest

/-- The integer that a string spells; `nil` if there is none. The digits of an integer are those of ASCII,
although the text is first looked at for digits of any script. -/
def integerOf : Value → Value
  | .string s =>
    let text := Text.trim s.toList
    if looksLikeInteger text then
      match (Decimal.readInt? text).bind int64? with
      | some n => .number (.int n)
      | none => .nil
    else .nil
  | _ => .nil

/-- The double that a string spells; `nil` if there is none. -/
def doubleOf : Value → Value
  | .string s =>
    let text := Text.trim s.toList
    match Number.special? text with
    | some x => .number (.float x)
    | none =>
      if looksLikeDecimal text then
        match Decimal.read? text with
        | some (negative, d) => .number (.float (d.toBinary64 negative))
        | none => .nil
      else .nil
  | _ => .nil

/-- The name of a keyword. A string is its own name. -/
def spelledName : Value → Checked Value
  | .keyword name => .ok (.string name)
  | .string s => .ok (.string s)
  | v => v.unexpected "name" "a keyword or string"

/-- The keyword of a name. A keyword is itself, and `nil` stays `nil`. -/
def keywordNamed : Value → Checked Value
  | .keyword name => .ok (.keyword name)
  | .string s =>
    if s = "" then (Value.string s).unexpected "keyword" "a non-empty string"
    else .ok (.keyword s)
  | .nil => .ok .nil
  | v => v.unexpected "keyword" "a non-empty string"

/-! ## Signatures -/

/-- The arguments and the effect of each function. -/
def signature : TextFn → Signature
  | .str => .any fun args => return concatenated args
  | .join => .oneOrTwo (fun v => joined "" v) fun sep v => joinedWith sep v
  | .subs => .twoOrThree fun v i j => part v i j
  | .split => .two fun v sep => parts v sep
  | .upperCase => .one fun v => onString "upper-case" Text.upper v
  | .lowerCase => .one fun v => onString "lower-case" Text.lower v
  | .trim => .one fun v => onString "trim" (fun s => String.ofList (Text.trim s.toList)) v
  | .replace => .three fun v old new => replaced v old new
  | .includes => .two fun v part => tested "includes?" Text.containsPart v part
  | .startsWith => .two fun v part => tested "starts-with?" List.isPrefixOf v part
  | .endsWith => .two fun v part => tested "ends-with?" List.isSuffixOf v part
  | .reFind => .two fun p v => found Regex.engine p v
  | .reMatches => .two fun p v => matched Regex.engine p v
  | .parseLong => .one fun v => return integerOf v
  | .parseDouble => .one fun v => return doubleOf v
  | .nameOf => .one fun v => spelledName v
  | .keywordOf => .one fun v => keywordNamed v

end TextFn

end ToolLisp
