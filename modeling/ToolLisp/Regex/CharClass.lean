import ToolLisp.Text.Case
import ToolLisp.Text.Basic

/-!
# Classes of characters

A class is an expression over sets of characters. Membership is decided when it is asked for, so no
set is ever computed.
-/

namespace ToolLisp.Regex

open Text (CharSet)

/-- An expression for a set of code points. -/
inductive CharClass where
  /-- The code points of a set. -/
  | ranges (s : CharSet)
  /-- The code points outside of a class. -/
  | complement (c : CharClass)
  /-- The code points of one class or the other. -/
  | union (a b : CharClass)
  /-- The code points of both classes. -/
  | inter (a b : CharClass)
  /-- The code points of one class without those of the other. -/
  | diff (a b : CharClass)
  /-- The code points of exactly one of two classes. -/
  | symmDiff (a b : CharClass)
  /-- The code points of a class and all that differ from them only in case. -/
  | folded (c : CharClass)
  /-- The code points of a class and all that differ from them only in the case of ASCII letters. -/
  | foldedAscii (c : CharClass)

namespace CharClass

/-- The other case of an ASCII letter. -/
def otherAsciiCase (n : Nat) : Nat :=
  if 0x41 ≤ n ∧ n ≤ 0x5a then n + 0x20
  else if 0x61 ≤ n ∧ n ≤ 0x7a then n - 0x20
  else n

/-- Whether a class has a code point. -/
def contains : CharClass → Nat → Bool
  | .ranges s, n => s.containsCode n
  | .complement c, n => !c.contains n
  | .union a b, n => a.contains n || b.contains n
  | .inter a b, n => a.contains n && b.contains n
  | .diff a b, n => a.contains n && !b.contains n
  | .symmDiff a b, n => a.contains n != b.contains n
  | .folded c, n => c.contains n || (Text.caseVariants n).any c.contains
  | .foldedAscii c, n => c.contains n || c.contains (otherAsciiCase n)

/-- The class of no code point. -/
def empty : CharClass := .ranges []

/-- The class of one character. -/
def single (c : Char) : CharClass := .ranges [(c.toNat, c.toNat)]

/-- The class of the code points of ASCII. -/
def ascii : CharClass := .ranges [(0, 0x7f)]

/-- The class of all code points. -/
def all : CharClass := .ranges [(0, 0x10ffff)]

/-- Whether a class has only code points of ASCII among those of one byte. -/
def isAscii (c : CharClass) : Bool :=
  (List.range 128).all fun n => !c.contains (n + 128)

end CharClass

end ToolLisp.Regex
