import ToolLisp.Number.Basic
import ToolLisp.Source.Error
import ToolLisp.Text.Property

/-!
# Tokens

A source text is a sequence of tokens with layout between them: white space, commas, and comments from
a semicolon to the end of the line. Brackets and strings end by themselves. Every other token is a
word, which ends only at a delimiter, so the text of a word is read first and judged afterwards.

`nextToken` reads one token. `scan` reads them all, up to the end of the text or the first error.
-/

namespace ToolLisp

/-- A token of a source text. -/
inductive Token where
  /-- An opening bracket. -/
  | opening (b : Bracket)
  /-- A closing bracket. -/
  | closing (b : Bracket)
  /-- The opening of a short function literal. -/
  | openFunction
  /-- A symbol. -/
  | symbol (name : String)
  /-- A symbol that is qualified by a namespace. -/
  | qualified (ns name : String)
  /-- A keyword. -/
  | keyword (name : String)
  /-- A number. -/
  | number (n : Number)
  /-- A string. -/
  | string (s : String)
deriving DecidableEq

namespace Token

/-! ## Characters -/

/-- The characters of names besides letters and numerals. -/
def symbolSigns : List Char :=
  ['-', '_', '+', '*', '!', '?', '<', '>', '=', '%', '/', '&', '.']

/-- Whether a character can stand in a name. -/
def isSymbolChar (c : Char) : Bool :=
  symbolSigns.contains c || Text.isAlphanumeric c

/-- Whether a character separates tokens. -/
def isLayout (c : Char) : Bool :=
  c == ',' || Text.isBlank c

/-- The characters besides white space that end a word. -/
def delimiterSigns : List Char :=
  ['(', ')', '[', ']', '\x7b', '\x7d', '"', ';', ',', '\x00']

/-- Whether a character ends a word. -/
def isDelimiter (c : Char) : Bool :=
  delimiterSigns.contains c || Text.isBlank c

/-- Whether a character is a hexadecimal digit. -/
def isHexDigit (c : Char) : Bool :=
  c.isDigit || ('a' ≤ c && c ≤ 'f') || ('A' ≤ c && c ≤ 'F')

/-- The value of a hexadecimal digit. -/
def hexValue (c : Char) : Nat :=
  if c.isDigit then c.toNat - '0'.toNat
  else if 'a' ≤ c then c.toNat - 'a'.toNat + 10
  else c.toNat - 'A'.toNat + 10

/-! ## Layout -/

/-- Skips layout from a place, which may lie in a comment. -/
def skipLayoutFrom (inComment : Bool) (p : Position) : List Char → Cursor
  | [] => ⟨[], p⟩
  | c :: rest =>
    if inComment then skipLayoutFrom (c != '\n') (p.after c) rest
    else if isLayout c then skipLayoutFrom false (p.after c) rest
    else if c = ';' then skipLayoutFrom true (p.after c) rest
    else ⟨c :: rest, p⟩

/-- Skips the layout before the next token. -/
def skipLayout (c : Cursor) : Cursor :=
  skipLayoutFrom false c.position c.rest

/-! ## Strings -/

/-- The character of a short escape. -/
def shortEscape? : Char → Option Char
  | 'n' => some '\n'
  | 't' => some '\t'
  | 'r' => some '\r'
  | '\\' => some '\\'
  | '"' => some '"'
  | '0' => some '\x00'
  | _ => none

/-- The character of a numeric escape. -/
def numericEscape (a b c d : Char) : Except ReadFault Char :=
  if [a, b, c, d].all isHexDigit then
    let n := [a, b, c, d].foldl (fun n c => 16 * n + hexValue c) 0
    if n.isValidChar then .ok (Char.ofNat n) else .error (.badCodePoint n)
  else .error .badHexDigit

/-- Reads a string behind its opening quote. `start` is the place of that quote, and `done` holds the
characters read so far, the last one first. -/
def readString (start : Position) (done : List Char) (p : Position) :
    List Char → Except ReadError (String × Cursor)
  -- an open string is reported at its first quote, a bad escape at its backslash
  | [] => .error ⟨.openString, start⟩
  | '"' :: rest => .ok (String.ofList done.reverse, ⟨rest, p.after '"'⟩)
  | '\\' :: [] => .error ⟨.openEscape, p⟩
  | '\\' :: 'u' :: a :: b :: c :: d :: rest =>
    match numericEscape a b c d with
    | .ok x => readString start (x :: done) (p.afterAll ['\\', 'u', a, b, c, d]) rest
    | .error fault => .error ⟨fault, p⟩
  | '\\' :: 'u' :: _ => .error ⟨.badHexDigit, p⟩
  | '\\' :: e :: rest =>
    match shortEscape? e with
    | some x => readString start (x :: done) (p.afterAll ['\\', e]) rest
    | none => .error ⟨.unknownEscape e, p⟩
  | c :: rest => readString start (c :: done) (p.after c) rest

/-! ## Words -/

/-- The number that a word spells. -/
def ofNumberWord (word : List Char) : Except ReadFault Token :=
  match Number.read? word with
  | some n => .ok (.number n)
  | none => .error (.badNumber (String.ofList word))

/-- The keyword of a name. -/
def ofKeywordName (name : List Char) : Except ReadFault Token :=
  if name = [] then .error .emptyKeyword
  else if name.contains '/' then .error (.slashInKeyword (String.ofList name))
  else
    match name.find? (!isSymbolChar ·) with
    | some c => .error (.badKeywordChar c (String.ofList name))
    | none => .ok (.keyword (String.ofList name))

/-- The symbol of a word: one name, or two names around a slash. The slash alone is a name. Words that
spell special numbers are numbers. -/
def ofSymbolWord (word : List Char) : Except ReadFault Token :=
  match word.find? (!isSymbolChar ·) with
  | some c => .error (.badSymbolChar c (String.ofList word))
  | none =>
    match Number.special? word with
    | some x => .ok (.number (.float x))
    | none =>
      if word = ['/'] ∨ '/' ∉ word then .ok (.symbol (String.ofList word))
      else
        let ns := word.takeWhile (· != '/')
        let name := (word.dropWhile (· != '/')).drop 1
        if ns = [] ∨ name = [] ∨ '/' ∈ name then
          .error (.badQualifiedSymbol (String.ofList word))
        else .ok (.qualified (String.ofList ns) (String.ofList name))

/-- The special number of a word that begins with two hash signs. -/
def ofHashWord (word : List Char) : Except ReadFault Token :=
  match Number.special? word with
  | some x => .ok (.number (.float x))
  | none => .error (.badSpecialNumber (String.ofList word))

/-- Reads a word from the cursor on and judges it; a fault is reported at the start of the token. -/
def readWord (start : Position) (judge : List Char → Except ReadFault Token) (c : Cursor) :
    Except ReadError (Token × Cursor) :=
  let (word, rest) := c.span (!isDelimiter ·)
  match judge word with
  | .ok t => .ok (t, rest)
  | .error fault => .error ⟨fault, start⟩

/-! ## Tokens -/

/-- The token that is one bracket. -/
def ofBracket? : Char → Option Token
  | '(' => some (.opening .round)
  | ')' => some (.closing .round)
  | '[' => some (.opening .square)
  | ']' => some (.closing .square)
  | '\x7b' => some (.opening .curly)
  | '\x7d' => some (.closing .curly)
  | _ => none

/-- Whether a text begins like a number: with a digit, or with a sign and a digit. -/
def startsNumber : List Char → Bool
  | c :: d :: _ => c.isDigit || ((c == '-' || c == '+') && d.isDigit)
  | [c] => c.isDigit
  | [] => false

/-- Reads what follows a hash sign. -/
def readHash (c : Cursor) : Except ReadError (Token × Cursor) :=
  match c.rest.drop 1 with
  | '(' :: _ => .ok (.openFunction, c.skip 2)
  | '#' :: _ => readWord c.position ofHashWord c
  | '\x7b' :: _ => .error ⟨.setLiteral, c.position⟩
  | d :: _ => .error ⟨.badDispatch d, c.position⟩
  | [] => .error ⟨.badDispatch '\x00', c.position⟩

/-- Reads the token that begins at the cursor, with the character `first`. -/
def readToken (first : Char) (c : Cursor) : Except ReadError (Token × Cursor) :=
  match ofBracket? first with
  | some t => .ok (t, c.skip 1)
  | none =>
    if first = '"' then
      match readString c.position [] (c.position.after '"') (c.rest.drop 1) with
      | .ok (s, rest) => .ok (.string s, rest)
      | .error e => .error e
    else if first = ':' then readWord c.position ofKeywordName (c.skip 1)
    else if first = '#' then readHash c
    -- a sign begins a number if a digit follows, and a symbol otherwise
    else if startsNumber c.rest then readWord c.position ofNumberWord c
    else if isSymbolChar first then readWord c.position ofSymbolWord c
    else .error ⟨.unexpectedChar first, c.position⟩

end Token

/-- What a reader of tokens comes to next. -/
inductive NextToken where
  /-- The end of the text. -/
  | finish (p : Position)
  /-- A token, the place of its first character and what is left behind it. -/
  | token (t : Token) (p : Position) (rest : Cursor)

/-- Reads the next token. -/
def nextToken (c : Cursor) : Except ReadError NextToken :=
  let c := Token.skipLayout c
  match c.rest with
  | [] => .ok (.finish c.position)
  | first :: _ =>
    match Token.readToken first c with
    | .ok (t, rest) => .ok (.token t c.position rest)
    | .error e => .error e

/-- The tokens of a text with their places, and how the text ends: well, at a place, or with an
error. -/
structure Scan where
  /-- The tokens before the end or the error. -/
  tokens : List (Token × Position)
  /-- The place of the end of the text, or the error. -/
  finish : Except ReadError Position

/-- Reads at most `fuel` tokens. -/
def scanFrom (done : List (Token × Position)) (c : Cursor) : Nat → Scan
  | 0 => ⟨done.reverse, .ok c.position⟩
  | fuel + 1 =>
    match nextToken c with
    | .error e => ⟨done.reverse, .error e⟩
    | .ok (.finish p) => ⟨done.reverse, .ok p⟩
    | .ok (.token t p rest) => scanFrom ((t, p) :: done) rest fuel

/-- Reads all tokens of a text. Each token takes at least one character, so there are no more tokens
than characters. -/
def scan (text : List Char) : Scan :=
  scanFrom [] (.ofText text) (text.length + 1)

end ToolLisp
