import ToolLisp.Regex.Node

/-!
# The weight of patterns

A short pattern can stand for a very large machine, because repetitions multiply. The weight of a
pattern estimates, in bytes, the memory of a machine that reads the text byte by byte. Patterns beyond
a limit are refused before a machine is built.
-/

namespace ToolLisp.Regex

/-- The bytes that the limit allows. -/
def weightLimit : Nat := 10 * Nat.pow 2 20

/-- The memory of one state of a machine. -/
def stateWeight : Nat := 32

/-- The memory of a state that goes on at either of two places: the state and two references. -/
def splitWeight : Nat := stateWeight + 8

/-- The number of ranges of a sorted list that do not continue the range before, which ends before
`next`. -/
def separateFrom (next : Nat) : Text.CharSet → Nat
  | [] => 0
  | (a, b) :: rest =>
    separateFrom (Nat.max next (b + 1)) rest + if next < a || next == 0 then 1 else 0

/-- The number of separate ranges of a set. -/
def separate (s : Text.CharSet) : Nat :=
  separateFrom 0 (s.mergeSort fun r t => r.1 ≤ t.1)

namespace CharClass

/-- Whether a class is built from characters of ASCII only. -/
def onlyAscii : CharClass → Bool
  | .ranges s => s.all fun r => r.2 < 0x80
  | .complement _ => false
  | .union a b => a.onlyAscii && b.onlyAscii
  | .inter a b => a.onlyAscii || b.onlyAscii
  | .diff a _ => a.onlyAscii
  | .symmDiff a b => a.onlyAscii && b.onlyAscii
  | .folded c => c.onlyAscii
  | .foldedAscii c => c.onlyAscii

/-- About how many ranges a class has. A complement divides the long ranges of characters that are
written with the same number of bytes. -/
def width : CharClass → Nat
  | .ranges s => separate s
  | .complement c => c.width + 13
  | .union a b => a.width + b.width
  | .inter a b => a.width + b.width
  | .diff a b => a.width + b.width
  | .symmDiff a b => a.width + b.width
  | .folded c => 2 * c.width
  | .foldedAscii c => 2 * c.width

/-- The number of bytes of a character. -/
def byteCount (code : Nat) : Nat :=
  if code < 0x80 then 1 else if code < 0x800 then 2 else if code < 0x10000 then 3 else 4

/-- The weight of a class. -/
def weight : CharClass → Nat
  | .ranges [(a, b)] =>
    if a = b then stateWeight * byteCount a else stateWeight * (byteCount b + 2)
  | c => 2 * stateWeight + (if c.onlyAscii then 8 else 2 * stateWeight) * c.width

end CharClass

namespace Node

/-- The weight of a pattern. -/
def weight : Node → Nat
  | .empty => stateWeight
  | .chars c => c.weight
  | .look _ => stateWeight
  | .cat a b => a.weight + b.weight
  | .alt a b => a.weight + b.weight + splitWeight
  | .loop n min none _ => Nat.max min 1 * n.weight + splitWeight
  -- each copy that can be left out has a state before it, and all of them go on at one state
  | .loop n min (some max) _ => max * n.weight + (max - min) * splitWeight + stateWeight
  | .group _ n => n.weight + 2 * stateWeight

end Node

end ToolLisp.Regex
