import ToolLisp.Regex.CharClass
import ToolLisp.Text.Property

/-!
# Patterns

What a regular expression matches, as a tree. Flags have no place in the tree: they are resolved while
it is read, so a tree means the same wherever it stands.
-/

namespace ToolLisp.Regex

/-- Which words begin or end at a place. -/
inductive WordEdge where
  /-- A word begins or ends. -/
  | boundary
  /-- No word begins or ends. -/
  | inside
  /-- A word begins. -/
  | first
  /-- A word ends. -/
  | last
  /-- No word stands before. -/
  | freeBefore
  /-- No word stands after. -/
  | freeAfter
deriving DecidableEq

/-- A condition on a place between characters. -/
inductive Look where
  /-- The place is the beginning of the text. -/
  | textStart
  /-- The place is the end of the text. -/
  | textEnd
  /-- The place is the beginning of a line. -/
  | lineStart (crlf : Bool)
  /-- The place is the end of a line. -/
  | lineEnd (crlf : Bool)
  /-- The place stands in a relation to words. -/
  | word (edge : WordEdge) (unicode : Bool)
deriving DecidableEq

/-- A place in a text, by the characters around it. -/
structure Place where
  /-- The number of characters before it. -/
  index : Nat
  /-- The character before it. -/
  before : Option Char
  /-- The character after it. -/
  after : Option Char

/-- The characters of words in ASCII. -/
def asciiWord : Text.CharSet :=
  [(0x30, 0x39), (0x41, 0x5a), (0x5f, 0x5f), (0x61, 0x7a)]

/-- Whether a character belongs to a word. -/
def isWordChar (unicode : Bool) (c : Option Char) : Bool :=
  c.any (if unicode then Text.wordSet else asciiWord).contains

/-- Whether a relation to words holds, given whether there is a word before and after. -/
def WordEdge.holds (edge : WordEdge) (before after : Bool) : Bool :=
  match edge with
  | .boundary => before != after
  | .inside => before == after
  | .first => !before && after
  | .last => before && !after
  | .freeBefore => !before
  | .freeAfter => !after

/-- Whether a condition holds at a place. -/
def Look.holds : Look → Place → Bool
  | .textStart, p => p.before.isNone
  | .textEnd, p => p.after.isNone
  | .lineStart false, p => p.before.isNone || p.before == some '\n'
  | .lineEnd false, p => p.after.isNone || p.after == some '\n'
  | .lineStart true, p =>
    p.before.isNone || p.before == some '\n' ||
      (p.before == some '\r' && p.after != some '\n')
  | .lineEnd true, p =>
    p.after.isNone || p.after == some '\r' ||
      (p.after == some '\n' && p.before != some '\r')
  | .word edge unicode, p =>
    edge.holds (isWordChar unicode p.before) (isWordChar unicode p.after)

/-- A pattern. -/
inductive Node where
  /-- Matches the empty text. -/
  | empty
  /-- Matches one character of a class. -/
  | chars (c : CharClass)
  /-- Matches the empty text where a condition holds. -/
  | look (l : Look)
  /-- One pattern after the other. -/
  | cat (a b : Node)
  /-- One pattern or the other; the first is preferred. -/
  | alt (a b : Node)
  /-- A pattern several times, at least `min` and at most `max`; if it is greedy, more is better. -/
  | loop (n : Node) (min : Nat) (max : Option Nat) (greedy : Bool)
  /-- A pattern whose match is recorded. -/
  | group (index : Nat) (n : Node)

namespace Node

/-- Whether a pattern can match nothing but the empty text. -/
def onlyEmpty : Node → Bool
  | .empty => true
  | .chars _ => false
  | .look _ => true
  | .cat a b => a.onlyEmpty && b.onlyEmpty
  | .alt a b => a.onlyEmpty && b.onlyEmpty
  | .loop n _ max _ => n.onlyEmpty || max == some 0
  | .group _ n => n.onlyEmpty

/-- A pattern several times. What matches only the empty text need not be tried twice, and what is to
match zero times is left out with its groups. -/
def repeated (n : Node) (min : Nat) (max : Option Nat) (greedy : Bool) : Node :=
  let (min, max) :=
    if n.onlyEmpty then (Nat.min min 1, some (Nat.min (max.getD 1) 1)) else (min, max)
  if max = some 0 then .empty
  else if min = 1 ∧ max = some 1 then n
  else .loop n min max greedy

/-- Several patterns, one after the other. -/
def catAll : List Node → Node
  | [] => .empty
  | [n] => n
  | n :: rest => .cat n (catAll rest)

/-- One of several patterns. -/
def altAll : List Node → Node
  | [] => .empty
  | [n] => n
  | n :: rest => .alt n (altAll rest)

/-- The number of the last group, if there is one. -/
def lastGroup : Node → Nat
  | .cat a b => Nat.max a.lastGroup b.lastGroup
  | .alt a b => Nat.max a.lastGroup b.lastGroup
  | .loop n _ _ _ => n.lastGroup
  | .group i n => Nat.max i n.lastGroup
  | _ => 0

end Node

end ToolLisp.Regex
