import ToolLisp.Text.Category
import ToolLisp.Text.ClusterBreak

/-!
# Texts between double quotes

There are two ways to write a text between quotes. In one, line ends, tabs, NUL, backslashes and double
quotes are written as a backslash and one character, and every other character stands for itself. This
is how values and forms are printed. In the other, everything is visible: characters that have no picture
of their own, and marks that would join the character before them, are written as their numbers.
-/

namespace ToolLisp.Text

/-! ## Quoted texts -/

/-- The characters that stand for one character between quotes. -/
def escapeChar : Char → List Char
  | '\n' => ['\\', 'n']
  | '\t' => ['\\', 't']
  | '\r' => ['\\', 'r']
  | '\x00' => ['\\', '0']
  | '\\' => ['\\', '\\']
  | '"' => ['\\', '"']
  | c => [c]

/-- The text between double quotes. -/
def quoted (text : List Char) : List Char :=
  '"' :: (text.flatMap escapeChar ++ ['"'])

/-! ## Escaped texts -/

/-- Whether a character is a mark that joins the character before it. -/
def joinsBefore (c : Char) : Bool :=
  extendBreak.contains c && !(0x1F3FB ≤ c.toNat && c.toNat ≤ 0x1F3FF)

/-- Whether a character has a picture of its own; the blank counts. -/
def isVisible (c : Char) : Bool :=
  c == ' ' || (Category.assigned.contains c && !Category.separator.contains c &&
    !Category.control.contains c && !Category.format.contains c && !Category.privateUse.contains c)

/-- A character as its number in base sixteen. -/
def numbered (c : Char) : List Char :=
  ['\\', 'u', '\x7b'] ++ Nat.toDigits 16 c.toNat ++ ['\x7d']

/-- The characters that stand for one character of an escaped text. -/
def escapeVisibly : Char → List Char
  | '\x00' => ['\\', '0']
  | '\t' => ['\\', 't']
  | '\r' => ['\\', 'r']
  | '\n' => ['\\', 'n']
  | '\\' => ['\\', '\\']
  | '"' => ['\\', '"']
  | c =>
    if ' ' ≤ c && c ≤ '~' then [c]
    else if joinsBefore c || !isVisible c then numbered c
    else [c]

/-- The text between double quotes with everything visible. -/
def escaped (s : String) : String :=
  String.ofList ('"' :: (s.toList.flatMap escapeVisibly ++ ['"']))

end ToolLisp.Text
