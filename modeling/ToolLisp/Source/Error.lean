/-!
# Places and errors in a source text

Lines and columns count from one. A line feed begins a new line; every other character takes one column.
An error has a cause and a place; the causes are everything that can be wrong with a text before its
meaning is looked at.
-/

namespace ToolLisp

/-! ## Places -/

/-- A place in a source text. -/
structure Position where
  /-- The number of the line. -/
  line : Nat
  /-- The number of the character in its line. -/
  column : Nat
deriving DecidableEq

namespace Position

/-- The place of the first character. -/
def start : Position := ⟨1, 1⟩

/-- The place after a character that stands here. -/
def after (p : Position) (c : Char) : Position :=
  if c = '\n' then ⟨p.line + 1, 1⟩ else ⟨p.line, p.column + 1⟩

/-- The place after a text that begins here. -/
def afterAll (p : Position) (text : List Char) : Position :=
  text.foldl after p

end Position

/-- What is left of a source text, and where it begins. -/
structure Cursor where
  /-- The characters that are left. -/
  rest : List Char
  /-- The place of the first of them. -/
  position : Position

namespace Cursor

/-- The beginning of a text. -/
def ofText (text : List Char) : Cursor := ⟨text, .start⟩

/-- Takes the characters off that satisfy `p`, up to the first that does not. -/
def span (p : Char → Bool) (c : Cursor) : List Char × Cursor :=
  let word := c.rest.takeWhile p
  (word, ⟨c.rest.dropWhile p, c.position.afterAll word⟩)

/-- The cursor behind the next `n` characters. -/
def skip (c : Cursor) (n : Nat) : Cursor :=
  ⟨c.rest.drop n, c.position.afterAll (c.rest.take n)⟩

end Cursor

/-! ## Errors -/

/-- The three kinds of brackets. -/
inductive Bracket where
  /-- Round brackets. -/
  | round
  /-- Square brackets. -/
  | square
  /-- Curly brackets. -/
  | curly
deriving DecidableEq

/-- The closing bracket of a kind. -/
def Bracket.closing : Bracket → String
  | .round => ")"
  | .square => "]"
  | .curly => "\x7d"

/-- What is wrong with a source text. -/
inductive ReadFault where
  /-- A string has no closing quote. -/
  | openString
  /-- The text ends behind a backslash. -/
  | openEscape
  /-- A character that cannot stand behind a backslash. -/
  | unknownEscape (c : Char)
  /-- A numeric escape has fewer than four hexadecimal digits. -/
  | badHexDigit
  /-- A numeric escape is the number of no character. -/
  | badCodePoint (n : Nat)
  /-- A word that begins like a number is none. -/
  | badNumber (text : String)
  /-- A colon with no name. -/
  | emptyKeyword
  /-- A keyword with a slash in its name. -/
  | slashInKeyword (name : String)
  /-- A keyword with a character that no name has. -/
  | badKeywordChar (c : Char) (name : String)
  /-- A symbol with a character that no name has. -/
  | badSymbolChar (c : Char) (text : String)
  /-- A symbol with a slash but without two names around it. -/
  | badQualifiedSymbol (text : String)
  /-- Two hash signs and no special number. -/
  | badSpecialNumber (text : String)
  /-- A set literal. -/
  | setLiteral
  /-- A hash sign before some other character. -/
  | badDispatch (c : Char)
  /-- A character that begins nothing. -/
  | unexpectedChar (c : Char)
  /-- Brackets nested too deeply. -/
  | tooDeep (limit : Nat)
  /-- A closing bracket that closes nothing. -/
  | unexpectedClose (b : Bracket)
  /-- An opening bracket that is never closed. -/
  | missingClose (b : Bracket)
  /-- A map literal whose last key has no value. -/
  | oddMap
  /-- A short function literal inside another. -/
  | nestedFunction
  /-- There is no form where one is expected. -/
  | noForm
  /-- There are several forms where one is expected. -/
  | manyForms (n : Nat)
deriving DecidableEq

/-- The message of a fault. -/
def ReadFault.message : ReadFault → String
  | .openString => "unterminated string"
  | .openEscape => "unterminated escape sequence"
  | .unknownEscape c => "unknown escape sequence: \\" ++ c.toString
  | .badHexDigit => "invalid hex digit in \\u escape"
  | .badCodePoint n => "invalid unicode code point: " ++ toString n
  | .badNumber text => "invalid number literal: " ++ text
  | .emptyKeyword => "empty keyword"
  | .slashInKeyword name => "namespaced keywords are not supported: :" ++ name
  | .badKeywordChar c name => "invalid character '" ++ c.toString ++ "' in keyword :" ++ name
  | .badSymbolChar c text => "unexpected character '" ++ c.toString ++ "' in " ++ text
  | .badQualifiedSymbol text => "malformed namespaced symbol: " ++ text
  | .badSpecialNumber text => "unsupported literal: " ++ text
  | .setLiteral => "set literals are not supported"
  | .badDispatch c => "unsupported dispatch syntax: #" ++ c.toString
  | .unexpectedChar c => "unexpected character '" ++ c.toString ++ "'"
  | .tooDeep limit => "nesting deeper than " ++ toString limit ++ " levels"
  | .unexpectedClose b => "unexpected closing delimiter " ++ b.closing
  | .missingClose b => "unbalanced delimiter: missing " ++ b.closing
  | .oddMap => "map literal must contain an even number of forms"
  | .nestedFunction => "nested #() function literals are not allowed"
  | .noForm => "expected a form, found end of input"
  | .manyForms n => "expected a single form, found " ++ toString n

/-- A fault and the place where it was found. -/
structure ReadError where
  /-- What is wrong. -/
  fault : ReadFault
  /-- Where it is wrong. -/
  position : Position
deriving DecidableEq

/-- The message of an error in a source text. -/
def ReadError.message (e : ReadError) : String :=
  "parse error at line " ++ toString e.position.line ++ ", column " ++
    toString e.position.column ++ ": " ++ e.fault.message

end ToolLisp
