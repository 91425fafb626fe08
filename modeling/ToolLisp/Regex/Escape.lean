import ToolLisp.Regex.Flags
import ToolLisp.Regex.Node
import ToolLisp.Regex.Property
import ToolLisp.Source.Token

/-!
# Escapes

What a backslash and the characters after it stand for: a character, a class of characters or a
condition on a place. Every function here starts after what it is named for has been recognized, and
gives what is left of the pattern together with its result; it gives nothing if there is no such
escape.
-/

namespace ToolLisp.Regex

/-- What an escape stands for. -/
inductive Escape where
  /-- A character. -/
  | char (c : Char)
  /-- A class of characters. -/
  | chars (c : CharClass)
  /-- A condition on a place. -/
  | look (l : Look)

namespace Escape

/-! ## Characters by number -/

/-- The character with a code point. -/
def scalar? (n : Nat) : Option Char :=
  if n.isValidChar then some (Char.ofNat n) else none

/-- The number that hexadecimal digits stand for. -/
def hexNumber (digits : List Char) : Nat :=
  digits.foldl (fun n c => 16 * n + Token.hexValue c) 0

/-- A number of hexadecimal digits. -/
def fixedDigits? (f : Flags) : Nat → List Char → Option (List Char × List Char)
  | 0, cs => some ([], cs)
  | _ + 1, [] => none
  | n + 1, c :: rest =>
    if Token.isHexDigit c then
      (fixedDigits? f n (f.skip rest)).map fun (digits, rest) => (c :: digits, rest)
    else none

/-- The characters before a closing brace, without space that does not count. -/
def braced? (f : Flags) (inComment : Bool) : List Char → Option (List Char × List Char)
  | [] => none
  | c :: rest =>
    if inComment then braced? f (c != '\n') rest
    else if f.spaced && Text.isBlank c then braced? f false rest
    else if f.spaced && c == '#' then braced? f true rest
    else if c = '\x7d' then some ([], rest)
    else (braced? f false rest).map fun (name, rest) => (c :: name, rest)

/-- The character whose number has any count of digits. -/
def bracedChar? (digits : List Char) : Option Char :=
  if digits.isEmpty || !digits.all Token.isHexDigit then none else scalar? (hexNumber digits)

/-- The character whose number has a fixed count of digits. Outside of Unicode two digits stand for a
byte, which has to be a character. -/
def fixedChar? (f : Flags) (count : Nat) (digits : List Char) : Option Char :=
  (scalar? (hexNumber digits)).filter fun c => f.unicode || count != 2 || c.toNat ≤ 0x7f

/-- A character by its number, with a fixed count of digits or with any count in braces, where no
space is left. -/
def hexFrom? (f : Flags) (count : Nat) : List Char → Option (Escape × List Char)
  | [] => none
  | '\x7b' :: rest => do
    let (digits, rest) ← braced? f false rest
    let c ← bracedChar? digits
    some (.char c, f.skip rest)
  | cs => do
    let (digits, rest) ← fixedDigits? f count cs
    let c ← fixedChar? f count digits
    some (.char c, rest)

/-- A character by its number. -/
def hex? (f : Flags) (count : Nat) (cs : List Char) : Option (Escape × List Char) :=
  hexFrom? f count (f.skip cs)

/-! ## Classes -/

/-- The class that one letter stands for. -/
def letterClass? (c : Char) : Option CharClass :=
  if c = '\\' then none else Property.named? [c]

/-- A class of characters by property, which is one letter or stands in braces, where no space is
left. -/
def propertyFrom? (f : Flags) (negated : Bool) : List Char → Option (Escape × List Char)
  | [] => none
  | '\x7b' :: rest => do
    let (name, rest) ← braced? f false rest
    let c ← (Property.ofText? name).bind (f.complete? negated)
    some (.chars c, rest)
  | c :: rest => do
    let c ← (letterClass? c).bind (f.complete? negated)
    some (.chars c, f.skip rest)

/-- A class of characters by property. It does not exist outside of Unicode. -/
def property? (f : Flags) (negated : Bool) (cs : List Char) : Option (Escape × List Char) :=
  if f.unicode then propertyFrom? f negated (f.skip cs) else none

/-- A common class, in Unicode and in ASCII. Outside of Unicode it has no complement. -/
def common? (f : Flags) (negated : Bool) (wide ascii : Text.CharSet) : Option Escape :=
  if f.unicode then
    some (.chars (if negated then .complement (.ranges wide) else .ranges wide))
  else if negated then none
  else some (.chars (.ranges ascii))

/-- The digits of ASCII. -/
def asciiDigits : Text.CharSet := [(0x30, 0x39)]

/-- The white space of ASCII. -/
def asciiSpace : Text.CharSet := [(0x09, 0x0d), (0x20, 0x20)]

/-! ## Places -/

/-- The relations to words that have a name. -/
def edgeNamed? (name : List Char) : Option WordEdge :=
  match String.ofList name with
  | "start" => some .first
  | "end" => some .last
  | "start-half" => some .freeBefore
  | "end-half" => some .freeAfter
  | _ => none

/-- Whether a character can begin the name of a relation to words. -/
def isEdgeChar (c : Char) : Bool := c.isAlpha || c == '-'

/-- A relation to words by its name, after the opening brace. -/
def namedEdge? (f : Flags) (cs : List Char) : Option (Escape × List Char) := do
  let (name, rest) ← braced? f false cs
  let edge ← edgeNamed? name
  some (.look (.word edge f.unicode), rest)

/-- The boundary of a word, which can be named more exactly in braces. Other braces are a
repetition. -/
def edge? (f : Flags) (cs : List Char) : Option (Escape × List Char) :=
  match cs with
  | '\x7b' :: rest =>
    match f.skip rest with
    | [] => none
    | c :: _ =>
      if isEdgeChar c then namedEdge? f rest else some (.look (.word .boundary f.unicode), cs)
  | _ => some (.look (.word .boundary f.unicode), cs)

/-! ## Escapes -/

/-- Whether a character stands for itself after a backslash. -/
def isPlain (c : Char) : Bool :=
  c.toNat < 128 && !c.isAlphanum && c != '<' && c != '>'

/-- An escape that ends here. -/
def here (e : Option Escape) (rest : List Char) : Option (Escape × List Char) :=
  e.map (·, rest)

/-- Reads an escape after the backslash and its letter. -/
def after? (f : Flags) (c : Char) : List Char → Option (Escape × List Char) :=
  match c with
  | 'x' => hex? f 2
  | 'u' => hex? f 4
  | 'U' => hex? f 8
  | 'p' => property? f false
  | 'P' => property? f true
  | 'd' => here (common? f false Text.Category.decimalNumber asciiDigits)
  | 'D' => here (common? f true Text.Category.decimalNumber asciiDigits)
  | 's' => here (common? f false Text.blanks asciiSpace)
  | 'S' => here (common? f true Text.blanks asciiSpace)
  | 'w' => here (common? f false Text.wordSet asciiWord)
  | 'W' => here (common? f true Text.wordSet asciiWord)
  | 'a' => here (some (.char '\x07'))
  | 'f' => here (some (.char '\x0c'))
  | 't' => here (some (.char '\t'))
  | 'n' => here (some (.char '\n'))
  | 'r' => here (some (.char '\r'))
  | 'v' => here (some (.char '\x0b'))
  | 'A' => here (some (.look .textStart))
  | 'z' => here (some (.look .textEnd))
  | 'b' => edge? f
  | 'B' => here (some (.look (.word .inside f.unicode)))
  | '<' => here (some (.look (.word .first f.unicode)))
  | '>' => here (some (.look (.word .last f.unicode)))
  | c => here (if isPlain c then some (.char c) else none)

/-- Reads an escape after the backslash. -/
def read? (f : Flags) : List Char → Option (Escape × List Char)
  | [] => none
  | c :: rest => after? f c rest

end Escape

end ToolLisp.Regex
