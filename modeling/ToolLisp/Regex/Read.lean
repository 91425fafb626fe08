import ToolLisp.Regex.Bracket
import ToolLisp.Regex.Weight

/-!
# Reading patterns

A pattern is read from left to right, one construct at a time. What a construct is depends on the flags
only (`Construct.read?`). `Progress` is what has been read up to a place: the items of the alternative
that the place is in, the alternatives before it, and the same for every group that is still open.
`Progress.step?` adds one construct to it. A pattern that has a fault gives nothing.

Patterns that nest too deeply, or whose program would be too large, are refused.
-/

namespace ToolLisp.Regex

/-- A part of a pattern. -/
structure Item where
  /-- What it matches. -/
  node : Node
  /-- How deeply it is nested. -/
  depth : Nat := 0
  /-- Whether it can be repeated. A change of flags cannot. -/
  repeatable : Bool := true

namespace Item

/-- The depth of what holds some items. -/
def depthAround (items : List Item) : Nat :=
  items.foldl (fun d i => Nat.max d i.depth) 0 + 1

/-- Items one after the other, given last first. -/
def sequence : List Item → Item
  | [] => { node := .empty }
  | [i] => i
  | items => { node := .catAll (items.reverse.map (·.node)), depth := depthAround items }

/-- Items of which one is to match, given last first. -/
def choice : List Item → Item
  | [] => { node := .empty }
  | [i] => i
  | items => { node := .altAll (items.reverse.map (·.node)), depth := depthAround items }

end Item

/-- A construct of a pattern, which is what is read at once. -/
inductive Construct where
  /-- Something that matches by itself. -/
  | item (i : Item)
  /-- The end of an alternative. -/
  | alternative
  /-- A change of flags. -/
  | flags (f : Flags)
  /-- The opening of a group with its flags. -/
  | group (f : Flags)
  /-- The opening of a group whose match is recorded. -/
  | numbered
  /-- The opening of a group whose match is recorded under a name. -/
  | named (name : List Char)
  /-- The end of a group. -/
  | close
  /-- The last item several times. Fewer times are better if it is marked, or more if the flags say
  so. -/
  | repetition (min : Nat) (max : Option Nat) (marked : Bool)

namespace Construct

/-! ## Groups -/

/-- Whether a character can stand in the name of a group. -/
def isNameChar (first : Bool) (c : Char) : Bool :=
  c == '_' || if first then Text.alphabetic.contains c
    else c == '.' || c == '[' || c == ']' || Text.isAlphanumeric c

/-- Whether a text can be the name of a group. -/
def isGroupName : List Char → Bool
  | [] => false
  | c :: rest => isNameChar true c && rest.all (isNameChar false)

/-- Reads the name of a group after the angle bracket. -/
def named? (cs : List Char) : Option (Construct × List Char) :=
  let name := cs.takeWhile (· != '>')
  match cs.dropWhile (· != '>') with
  | [] => none
  | _ :: rest => if isGroupName name then some (.named name, rest) else none

/-- The letters of flags and what ends them, and whether this is the closing bracket; each letter can
occur only once, and after a minus sign, of which there is at most one, there is another. -/
def flags? (f : Flags) (seen : List Char) : List Char → Option ((Flags × Bool) × List Char)
  | [] => none
  | c :: rest =>
    if c = ':' ∨ c = ')' then if seen.head? = some '-' then none else some ((f, c == ')'), rest)
    else if seen.contains c then none
    else if c = '-' then flags? f (c :: seen) rest
    else (f.set? c (!seen.contains '-')).bind fun f => flags? f (c :: seen) rest

/-- A change of flags if the bracket is closed, or a group that has them. -/
def withFlags (f : Flags) (closed : Bool) : Construct :=
  if closed then .flags f else .group f

/-- Reads the letters of flags and what ends them. -/
def flagged? (f : Flags) (cs : List Char) : Option (Construct × List Char) :=
  (flags? f [] cs).map fun ((f, closed), rest) => (withFlags f closed, rest)

/-- Reads what follows a question mark at the beginning of a group. What would look ahead is refused,
and what would look behind is no name. -/
def special? (f : Flags) : List Char → Option (Construct × List Char)
  | '=' :: _ | '!' :: _ | ')' :: _ => none
  | '<' :: rest => named? rest
  | 'P' :: '<' :: rest => named? rest
  | cs => flagged? f cs

/-- Reads the opening of a group, or a change of flags, after the opening bracket, where no space is
left. -/
def groupFrom? (f : Flags) : List Char → Option (Construct × List Char)
  | '?' :: rest => special? f rest
  | rest => some (.numbered, rest)

/-- Reads the opening of a group, or a change of flags, after the opening bracket. -/
def group? (f : Flags) (cs : List Char) : Option (Construct × List Char) :=
  groupFrom? f (f.skip cs)

/-! ## Repetitions -/

/-- Reads the mark of a repetition, which is optional. -/
def repeated (min : Nat) (max : Option Nat) : List Char → Construct × List Char
  | '?' :: rest => (.repetition min max true, rest)
  | rest => (.repetition min max false, rest)

/-- Digits, between which there may be space that does not count. -/
def digits (f : Flags) (inComment : Bool) : List Char → List Char × List Char
  | [] => ([], [])
  | c :: rest =>
    if inComment then digits f (c != '\n') rest
    else if f.spaced && Text.isBlank c then digits f false rest
    else if f.spaced && c == '#' then digits f true rest
    else if c.isDigit then
      let (ds, rest) := digits f false rest
      (c :: ds, rest)
    else ([], c :: rest)

/-- The number that digits stand for, if there are any and it has no more than 32 bits. -/
def numeral? (ds : List Char) : Option Nat :=
  let n := ds.foldl (fun n c => 10 * n + (c.toNat - '0'.toNat)) 0
  if ds.isEmpty || n ≥ Nat.pow 2 32 then none else some n

/-- A count with space around it. -/
def count (f : Flags) (cs : List Char) : Option Nat × List Char :=
  let (ds, rest) := digits f false (cs.dropWhile Text.isBlank)
  (numeral? ds, rest.dropWhile Text.isBlank)

/-- The closing brace after the greatest count of a repetition. -/
def closing? (min : Nat) (max : Option Nat) : List Char → Option ((Nat × Option Nat) × List Char)
  | '\x7d' :: rest => (max.filter (min ≤ ·)).map fun max => ((min, some max), rest)
  | _ => none

/-- The greatest count of a repetition, which may be missing, and the closing brace. -/
def upper? (f : Flags) (min : Nat) : List Char → Option ((Nat × Option Nat) × List Char)
  | '\x7d' :: rest => some ((min, none), rest)
  | cs => closing? min (count f cs).1 (count f cs).2

/-- What follows the least count of a repetition. Without another count it is also the greatest. -/
def countsFrom? (f : Flags) (min : Option Nat) : List Char → Option ((Nat × Option Nat) × List Char)
  | '\x7d' :: rest => min.map fun min => ((min, some min), rest)
  | ',' :: rest => min.bind fun min => upper? f min (f.skip rest)
  | _ => none

/-- The counts of a repetition, after the opening brace. -/
def counts? (f : Flags) (cs : List Char) : Option ((Nat × Option Nat) × List Char) :=
  countsFrom? f (count f (f.skip cs)).1 (count f (f.skip cs)).2

/-- Reads a repetition with counts, after the opening brace. -/
def counted? (f : Flags) (cs : List Char) : Option (Construct × List Char) :=
  (counts? f cs).map fun ((min, max), rest) => repeated min max (f.skip rest)

/-! ## Constructs -/

/-- A place where a line, or the text, begins. -/
def lineStart (f : Flags) : Look :=
  if f.multiLine then .lineStart f.crlf else .textStart

/-- A place where a line, or the text, ends. -/
def lineEnd (f : Flags) : Look :=
  if f.multiLine then .lineEnd f.crlf else .textEnd

/-- What an escape matches. -/
def escapeNode (f : Flags) : Escape → Node
  | .char c => .chars (f.fold (.single c))
  | .chars c => .chars c
  | .look l => .look l

/-- Reads an escape after the backslash. -/
def escaped? (f : Flags) (cs : List Char) : Option (Construct × List Char) :=
  (Escape.read? f cs).map fun (e, rest) => (.item { node := escapeNode f e }, rest)

/-- Reads a class in brackets after the opening bracket. -/
def bracket? (f : Flags) (cs : List Char) : Option (Construct × List Char) :=
  (Bracket.read? f cs).map fun (part, rest) =>
    (.item { node := .chars part.chars, depth := part.depth }, rest)

/-- A construct that ends here. -/
def here (k : Construct) (rest : List Char) : Option (Construct × List Char) :=
  some (k, rest)

/-- Reads a construct after its first character. -/
def after? (f : Flags) (c : Char) : List Char → Option (Construct × List Char) :=
  match c with
  | '(' => group? f
  | ')' => here .close
  | '|' => here .alternative
  | '[' => bracket? f
  | '?' => fun cs => some (repeated 0 (some 1) cs)
  | '*' => fun cs => some (repeated 0 none cs)
  | '+' => fun cs => some (repeated 1 none cs)
  | '\x7b' => counted? f
  | '\\' => escaped? f
  | '.' => fun cs => f.dot?.map fun c => (.item { node := .chars c }, cs)
  | '^' => here (.item { node := .look (lineStart f) })
  | '$' => here (.item { node := .look (lineEnd f) })
  | c => here (.item { node := escapeNode f (.char c) })

/-- Reads a construct. -/
def read? (f : Flags) : List Char → Option (Construct × List Char)
  | [] => none
  | c :: rest => after? f c rest

end Construct

/-- A group that is still open, and what stands before it in the group around it. -/
structure OpenGroup where
  /-- The flags outside of the group. -/
  flags : Flags
  /-- The number of the group, if its match is recorded. -/
  index : Option Nat
  /-- The alternatives before the one that the group stands in, last first. -/
  alternatives : List Item
  /-- The items before the group, last first. -/
  items : List Item

/-- What has been read of a pattern. -/
structure Progress where
  /-- The flags that hold here. -/
  flags : Flags := {}
  /-- How many groups have been numbered. -/
  groups : Nat := 0
  /-- The names of groups. -/
  names : List (List Char) := []
  /-- The complete alternatives of the innermost group, last first. -/
  alternatives : List Item := []
  /-- The items of the current alternative, last first. -/
  items : List Item := []
  /-- The groups that are still open, innermost first. -/
  outer : List OpenGroup := []

namespace Progress

/-- With one more item. -/
def add (p : Progress) (i : Item) : Progress :=
  { p with items := i :: p.items }

/-- At the beginning of the next alternative. -/
def nextAlternative (p : Progress) : Progress :=
  { p with alternatives := Item.sequence p.items :: p.alternatives, items := [] }

/-- All that the innermost group holds. -/
def body (p : Progress) : Item :=
  Item.choice p.nextAlternative.alternatives

/-! ## Groups -/

/-- At the beginning of a group. -/
def enter (p : Progress) (flags : Flags) (index : Option Nat) : Progress :=
  { p with
    flags
    alternatives := []
    items := []
    outer := ⟨p.flags, index, p.alternatives, p.items⟩ :: p.outer }

/-- At the beginning of a group whose match is recorded. -/
def enterNumbered (p : Progress) : Progress :=
  { p.enter p.flags (some (p.groups + 1)) with groups := p.groups + 1 }

/-- At the end of the innermost group. -/
def leave? (p : Progress) : Option Progress :=
  match p.outer with
  | [] => none
  | g :: outer =>
    let body := p.body
    let node := match g.index with
      | some i => .group i body.node
      | none => body.node
    some { p with
      -- flags that are set inside a group end with it
      flags := g.flags
      alternatives := g.alternatives
      items := { node, depth := body.depth + 1 } :: g.items
      outer }

/-! ## Constructs -/

/-- With the last item several times. -/
def repeatLast? (p : Progress) (min : Nat) (max : Option Nat) (marked : Bool) : Option Progress :=
  match p.items with
  | [] => none
  | i :: items =>
    if i.repeatable then
      let node := i.node.repeated min max (marked == p.flags.lazily)
      some { p with items := { node, depth := i.depth + 1 } :: items }
    else none

/-- After one more construct. No two groups have the same name. -/
def extend? (p : Progress) : Construct → Option Progress
  | .item i => some (p.add i)
  | .alternative => some p.nextAlternative
  | .flags f => some { p.add { node := .empty, repeatable := false } with flags := f }
  | .group f => some (p.enter f none)
  | .numbered => some p.enterNumbered
  | .named name =>
    if p.names.contains name then none
    else some { p.enterNumbered with names := name :: p.names }
  | .close => p.leave?
  | .repetition min max marked => p.repeatLast? min max marked

/-- Reads one construct. -/
def step? (p : Progress) (cs : List Char) : Option (Progress × List Char) := do
  let (k, rest) ← Construct.read? p.flags cs
  let p ← p.extend? k
  some (p, rest)

/-- Reads up to the end of a pattern. Every step reads a character, so the length of the pattern bounds
their number. -/
def run? : Nat → Progress → List Char → Option Progress
  | 0, _, _ => none
  | n + 1, p, cs =>
    match p.flags.skip cs with
    | [] => some p
    | cs => (p.step? cs).bind fun (p, rest) => run? n p rest

end Progress

/-- The depth up to which patterns can be nested. -/
def nestLimit : Nat := 250

/-- Reads a pattern. -/
def Node.ofText? (pattern : String) : Option Node := do
  let cs := pattern.toList
  let p ← Progress.run? (cs.length + 1) {} cs
  let whole := p.body
  if p.outer.isEmpty && whole.depth ≤ nestLimit && whole.node.weight ≤ weightLimit then
    some whole.node
  else none

end ToolLisp.Regex
