import ToolLisp.Regex.CharClass
import ToolLisp.Text.Property

/-!
# Flags

A pattern can set flags for the rest of the group that they stand in. They decide what the following
characters of the pattern mean.
-/

namespace ToolLisp.Regex

/-- The flags that a pattern can set. -/
structure Flags where
  /-- Case does not matter. -/
  caseless : Bool := false
  /-- The anchors hold at every line. -/
  multiLine : Bool := false
  /-- The dot matches line ends. -/
  dotAll : Bool := false
  /-- Repetitions are lazy unless they are marked. -/
  lazily : Bool := false
  /-- Classes are those of Unicode. -/
  unicode : Bool := true
  /-- A carriage return can end a line. -/
  crlf : Bool := false
  /-- White space and comments in the pattern do not count. -/
  spaced : Bool := false

namespace Flags

/-- A class in the mode of the flags about case. -/
def fold (f : Flags) (c : CharClass) : CharClass :=
  if f.caseless then if f.unicode then .folded c else .foldedAscii c else c

/-- A complete class, or its complement. Outside of Unicode a class may have characters of ASCII
only. -/
def complete? (f : Flags) (negated : Bool) (c : CharClass) : Option CharClass :=
  let c := if negated then .complement (f.fold c) else f.fold c
  if f.unicode then some c
  else if c.isAscii then some (.inter c .ascii) else none

/-- The class of the dot. It does not exist outside of Unicode. -/
def dot? (f : Flags) : Option CharClass :=
  if !f.unicode then none
  else if f.dotAll then some .all
  else if f.crlf then some (.complement (.ranges [(0x0a, 0x0a), (0x0d, 0x0d)]))
  else some (.complement (.ranges [(0x0a, 0x0a)]))

/-- The flags after one of them, by its letter, has been switched on or off. -/
def set? (f : Flags) (letter : Char) (on : Bool) : Option Flags :=
  match letter with
  | 'i' => some { f with caseless := on }
  | 'm' => some { f with multiLine := on }
  | 's' => some { f with dotAll := on }
  | 'U' => some { f with lazily := on }
  | 'u' => some { f with unicode := on }
  | 'R' => some { f with crlf := on }
  | 'x' => some { f with spaced := on }
  | _ => none

/-- Skips white space and comments from a place, which may lie in a comment. -/
def skipFrom (inComment : Bool) : List Char → List Char
  | [] => []
  | c :: rest =>
    if inComment then skipFrom (c != '\n') rest
    else if Text.isBlank c then skipFrom false rest
    else if c = '#' then skipFrom true rest
    else c :: rest

/-- Skips white space and comments, if they do not count. -/
def skip (f : Flags) (cs : List Char) : List Char :=
  if f.spaced then skipFrom false cs else cs

end Flags

end ToolLisp.Regex
