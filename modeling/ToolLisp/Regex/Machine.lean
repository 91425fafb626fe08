import ToolLisp.Regex.Read

/-!
# Machines and engines

A pattern is matched by a machine that tries all its possibilities at once. The machine is a list of
instructions that refer to each other by distance, so that the code of a pattern can stand anywhere
and any number of times. A thread is a place in the code together with what has been recorded; the
threads of a machine are ordered by preference, and of two that come to the same place at the same
time only the preferred one goes on.

`Machine.search` finds the leftmost match, and among the matches that begin there the preferred one.

The functions on texts need little of regular expressions: a pattern is read from a text, unless the text
has a fault, and other texts are searched for it. A `Regex.Engine` is anything that does this.
`Regex.engine` is the one that runs. It reads a pattern into a tree and searches with a machine. The limits
on the depth and the weight of a pattern, and the properties of characters that it knows by name, are its
own.
-/

namespace ToolLisp.Regex

/-! ## Code -/

/-- An instruction of a machine. -/
inductive Instruction where
  /-- Reads a character of a class. -/
  | read (c : CharClass)
  /-- Goes on where a condition holds. -/
  | check (l : Look)
  /-- Goes on at either of two distances; the first is preferred. -/
  | split (first second : Int)
  /-- Goes on at a distance. -/
  | jump (distance : Int)
  /-- Records the place in a slot. -/
  | record (slot : Nat)
  /-- Ends a match. -/
  | accept

namespace Instruction

/-- Goes on with the next instruction or at a distance. -/
def enterOrSkip (greedy : Bool) (distance : Int) : Instruction :=
  if greedy then .split 1 distance else .split distance 1

/-- Goes back to the beginning of code that stands before, or on. -/
def againOrOn (greedy : Bool) (size : Nat) : Instruction :=
  if greedy then .split (-size) 1 else .split 1 (-size)

end Instruction

namespace Code

open Instruction

/-- Code any number of times, at least once. -/
def oneOrMore (greedy : Bool) (code : List Instruction) : List Instruction :=
  code ++ [againOrOn greedy code.length]

/-- Code any number of times. -/
def zeroOrMore (greedy : Bool) (code : List Instruction) : List Instruction :=
  enterOrSkip greedy (code.length + 2) :: oneOrMore greedy code

/-- Code a fixed number of times. -/
def exactly (n : Nat) (code : List Instruction) : List Instruction :=
  (List.replicate n code).flatten

/-- Code up to a number of times. From each time the rest can be left out. -/
def upTo (greedy : Bool) (n : Nat) (code : List Instruction) : List Instruction :=
  (List.range n).reverse.flatMap fun i =>
    enterOrSkip greedy ((i + 1) * (code.length + 1) : Nat) :: code

/-- Code several times. -/
def loop (min : Nat) (max : Option Nat) (greedy : Bool) (code : List Instruction) :
    List Instruction :=
  match max, min with
  | some max, min => exactly min code ++ upTo greedy (max - min) code
  | none, 0 => zeroOrMore greedy code
  | none, min + 1 => exactly min code ++ oneOrMore greedy code

/-- The slot for the beginning of a group. -/
def beginSlot (index : Nat) : Nat := 2 * index

/-- The slot for the end of a group. -/
def endSlot (index : Nat) : Nat := 2 * index + 1

/-- The code of a pattern. -/
def ofNode : Node → List Instruction
  | .empty => []
  | .chars c => [.read c]
  | .look l => [.check l]
  | .cat a b => ofNode a ++ ofNode b
  | .alt a b =>
    let first := ofNode a
    let second := ofNode b
    .split 1 (first.length + 2) :: first ++ .jump (second.length + 1) :: second
  | .loop n min max greedy => loop min max greedy (ofNode n)
  | .group i n => .record (beginSlot i) :: ofNode n ++ [.record (endSlot i)]

end Code

/-! ## Threads -/

/-- What has been recorded, by slot. -/
abbrev Slots := List (Option Nat)

/-- A place in the code together with what has been recorded. -/
structure Thread where
  /-- The place in the code. -/
  line : Nat
  /-- What has been recorded. -/
  slots : Slots

namespace Thread

/-- The thread at a distance. -/
def move (t : Thread) (distance : Int) : Thread :=
  { t with line := (t.line + distance).toNat }

/-- The thread at the next instruction. -/
def next (t : Thread) : Thread :=
  { t with line := t.line + 1 }

end Thread

/-- A machine. -/
structure Machine where
  /-- The code. -/
  code : Array Instruction
  /-- The number of groups, the whole match included. -/
  groups : Nat

namespace Machine

/-- The machine of a pattern. The whole match is recorded as a group. -/
def ofNode (n : Node) : Machine where
  code := (Code.ofNode (.group 0 n) ++ [Instruction.accept]).toArray
  groups := n.lastGroup + 1

/-- The thread that begins a match. -/
def start (m : Machine) : Thread :=
  ⟨0, List.replicate (2 * m.groups) none⟩

/-- Follows threads, in their order, up to the instructions that read a character or end a match.
The places in the code that have been reached are marked in `reached`; what is ready is collected in
`ready`, last first. Every step takes a thread away, and a step that adds threads marks a new place,
of which there are no more than instructions. -/
def follow (m : Machine) (p : Place) :
    Nat → List Thread → Array Bool → List Thread → List Thread
  | 0, _, _, ready => ready.reverse
  | _ + 1, [], _, ready => ready.reverse
  | n + 1, t :: threads, reached, ready =>
    -- threads come in the order of preference, so a later one at the same place adds nothing
    if reached.getD t.line true then m.follow p n threads reached ready
    else
      let reached := reached.setIfInBounds t.line true
      match m.code[t.line]? with
      | none => m.follow p n threads reached ready
      | some (.read _) | some .accept => m.follow p n threads reached (t :: ready)
      | some (.check l) =>
        m.follow p n (if l.holds p then t.next :: threads else threads) reached ready
      | some (.split a b) => m.follow p n (t.move a :: t.move b :: threads) reached ready
      | some (.jump d) => m.follow p n (t.move d :: threads) reached ready
      | some (.record s) =>
        m.follow p n ({ t.next with slots := t.slots.set s p.index } :: threads) reached ready

/-- The threads that are ready at a place. -/
def ready (m : Machine) (p : Place) (threads : List Thread) : List Thread :=
  m.follow p (threads.length + 2 * m.code.size + 1) threads
    (Array.replicate m.code.size false) []

/-- Whether a thread ends a match. -/
def accepts (m : Machine) (t : Thread) : Bool :=
  match m.code[t.line]? with
  | some .accept => true
  | _ => false

/-- The thread after a character, if it reads the character. -/
def read? (m : Machine) (c : Char) (t : Thread) : Option Thread :=
  match m.code[t.line]? with
  | some (.read s) => if s.contains c.toNat then some t.next else none
  | _ => none

/-- Searches on from a place, with the threads that came there and the best match so far. Once there
is a match, none begins further on, and only the threads before the one that found it go on. -/
def searchFrom (m : Machine) (index : Nat) (before : Option Char) (threads : List Thread)
    (found : Option Slots) (text : List Char) : Option Slots :=
  let begun := if found.isNone then threads ++ [m.start] else threads
  let ready := m.ready ⟨index, before, text.head?⟩ begun
  let found := ((ready.find? m.accepts).map (·.slots)).or found
  match text with
  | [] => found
  | c :: rest =>
    let threads := (ready.takeWhile (!m.accepts ·)).filterMap (m.read? c)
    if threads.isEmpty && found.isSome then found
    else m.searchFrom (index + 1) (some c) threads found rest

/-- What the preferred one of the leftmost matches records. -/
def search (m : Machine) (text : List Char) : Option Slots :=
  m.searchFrom 0 none [] none text

end Machine

/-! ## Engines -/

/-- An engine for regular expressions. -/
structure Engine where
  /-- The patterns that have been read. -/
  Pattern : Type
  /-- The pattern of a text, unless the text has a fault. -/
  ofText? : String → Option Pattern
  /-- The first match of a pattern in a text: the whole of it, and then what its groups match, as far as
  they take part in it. -/
  captures? : Pattern → String → Option (List (Option String))

/-- The part of a text that a group has recorded. -/
def groupText (text : List Char) (slots : Slots) (index : Nat) : Option String :=
  match slots[Code.beginSlot index]?, slots[Code.endSlot index]? with
  | some (some a), some (some b) => some (String.ofList ((text.drop a).take (b - a)))
  | _, _ => none

/-- What the groups of a machine have recorded in the first match of a text. -/
def Machine.captures? (m : Machine) (text : String) : Option (List (Option String)) :=
  (m.search text.toList).map fun slots => (List.range m.groups).map (groupText text.toList slots)

/-- The engine that runs. -/
def engine : Engine where
  Pattern := Machine
  ofText? text := (Node.ofText? text).map .ofNode
  captures? := Machine.captures?

end ToolLisp.Regex
