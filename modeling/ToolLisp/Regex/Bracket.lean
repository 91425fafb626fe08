import ToolLisp.Regex.Escape

/-!
# Classes in brackets

A class in brackets is a union of characters, ranges and other classes, or several of them combined by
operators on sets, which group to the left. Classes nest; the classes that are still open are kept in
a list, the innermost first.
-/

namespace ToolLisp.Regex

/-- A class that has been read, and how deeply it is nested. -/
structure ClassPart where
  /-- The class. -/
  chars : CharClass
  /-- How deeply it is nested. -/
  depth : Nat

/-- An operator on classes. -/
inductive ClassOp where
  /-- What is in both. -/
  | inter
  /-- What is in the first only. -/
  | diff
  /-- What is in exactly one. -/
  | symmDiff

/-- The class that an operator makes. -/
def ClassOp.combine (op : ClassOp) (a b : CharClass) : CharClass :=
  match op with
  | .inter => .inter a b
  | .diff => .diff a b
  | .symmDiff => .symmDiff a b

/-- The union of parts, of which the last comes first. -/
def ClassPart.union : List ClassPart → ClassPart
  | [] => ⟨.empty, 0⟩
  | [p] => p
  | ps =>
    ⟨ps.foldl (fun c p => .union p.chars c) .empty, ps.foldl (fun d p => Nat.max d p.depth) 0 + 1⟩

/-- A class in brackets that is not complete. -/
structure OpenClass where
  /-- Whether the complement is meant. -/
  negated : Bool
  /-- The last operator and what stands before it. -/
  left : Option (ClassOp × ClassPart) := none
  /-- The parts since then, the last first. -/
  parts : List ClassPart := []

namespace OpenClass

/-- The class with one more part. -/
def add (o : OpenClass) (p : ClassPart) : OpenClass :=
  { o with parts := p :: o.parts }

/-- All that has been read, as one class. -/
def whole (f : Flags) (o : OpenClass) : ClassPart :=
  let right := ClassPart.union o.parts
  match o.left with
  | none => right
  | some (op, left) =>
    ⟨op.combine (f.fold left.chars) (f.fold right.chars), Nat.max left.depth right.depth + 1⟩

/-- The class after an operator. -/
def operate (f : Flags) (o : OpenClass) (op : ClassOp) : OpenClass :=
  { o with left := some (op, o.whole f), parts := [] }

/-- The class after its closing bracket. -/
def close? (f : Flags) (o : OpenClass) : Option ClassPart :=
  (f.complete? o.negated (o.whole f).chars).map fun c => ⟨c, (o.whole f).depth + 1⟩

end OpenClass

namespace Bracket

/-! ## Classes with a name -/

/-- The classes of ASCII with their names. -/
def asciiClasses : List (String × Text.CharSet) :=
  [("alnum", [(0x30, 0x39), (0x41, 0x5a), (0x61, 0x7a)]),
   ("alpha", [(0x41, 0x5a), (0x61, 0x7a)]),
   ("ascii", [(0x00, 0x7f)]),
   ("blank", [(0x09, 0x09), (0x20, 0x20)]),
   ("cntrl", [(0x00, 0x1f), (0x7f, 0x7f)]),
   ("digit", Escape.asciiDigits),
   ("graph", [(0x21, 0x7e)]),
   ("lower", [(0x61, 0x7a)]),
   ("print", [(0x20, 0x7e)]),
   ("punct", [(0x21, 0x2f), (0x3a, 0x40), (0x5b, 0x60), (0x7b, 0x7e)]),
   ("space", Escape.asciiSpace),
   ("upper", [(0x41, 0x5a)]),
   ("word", asciiWord),
   ("xdigit", [(0x30, 0x39), (0x41, 0x46), (0x61, 0x66)])]

/-- The class that is named between colons, and what follows its closing bracket. -/
def asciiNamed? (cs : List Char) : Option (Text.CharSet × List Char) :=
  match cs.dropWhile (· != ':') with
  | ':' :: ']' :: rest =>
    (asciiClasses.lookup (String.ofList (cs.takeWhile (· != ':')))).map (·, rest)
  | _ => none

/-- A class of ASCII after its opening bracket: whether its complement is meant, the class and what
follows. -/
def asciiClass? : List Char → Option (Bool × Text.CharSet × List Char)
  | ':' :: '^' :: rest => (asciiNamed? rest).map (true, ·)
  | ':' :: rest => (asciiNamed? rest).map (false, ·)
  | _ => none

/-! ## Items -/

/-- A character or an escape. -/
def single? (f : Flags) : List Char → Option (Escape × List Char)
  | [] => none
  | '\\' :: rest => Escape.read? f rest
  | c :: rest => some (.char c, rest)

/-- A character of a class. Outside of Unicode it has to be a character of ASCII. -/
def character? (f : Flags) : Escape → Option Char
  | .char c => if f.unicode || c.toNat < 128 then some c else none
  | _ => none

/-- The class of an item that is not a range. -/
def itemClass? (f : Flags) : Escape → Option CharClass
  | .chars c => some c
  | .look _ => none
  | .char c => (character? f (.char c)).map .single

/-- The character that comes next. Where space does not count, the mark of a comment is skipped like
space. -/
def peek (f : Flags) (cs : List Char) : Option Char :=
  if f.spaced then
    match cs.dropWhile Text.isBlank with
    | '#' :: rest => (rest.dropWhile Text.isBlank).head?
    | cs => cs.head?
  else cs.head?

/-- A range of characters. -/
def range? (f : Flags) (first last : Escape) : Option CharClass := do
  let low ← character? f first
  let high ← character? f last
  if low ≤ high then some (.ranges [(low.toNat, high.toNat)]) else none

/-- What an item is whose beginning has been read. A hyphen makes it a range, unless the class ends
behind it or another hyphen follows. -/
def itemFrom? (f : Flags) (first : Escape) : List Char → Option (CharClass × List Char)
  | '-' :: after =>
    if peek f after = some ']' ∨ peek f after = some '-' then
      (itemClass? f first).map (·, '-' :: after)
    else do
      let (last, rest) ← single? f (f.skip after)
      let c ← range? f first last
      some (c, rest)
  | rest => (itemClass? f first).map (·, rest)

/-- An item of a class: a range, a character or a class with a name. -/
def item? (f : Flags) (cs : List Char) : Option (CharClass × List Char) := do
  let (first, rest) ← single? f cs
  itemFrom? f first (f.skip rest)

/-! ## Brackets -/

/-- The hyphens at the beginning of a class, which stand for themselves. -/
def hyphens (f : Flags) : Nat → OpenClass → List Char → OpenClass × List Char
  | n + 1, o, '-' :: rest => hyphens f n (o.add ⟨.single '-', 0⟩) (f.skip rest)
  | _, o, cs => (o, cs)

/-- Whether a class is a complement, which a caret says. -/
def negation (f : Flags) : List Char → Bool × List Char
  | '^' :: rest => (true, f.skip rest)
  | cs => (false, cs)

/-- A closing bracket that comes first stands for itself. -/
def firstClosing (f : Flags) (o : OpenClass) : List Char → OpenClass × List Char
  | ']' :: rest =>
    if o.parts.isEmpty then (o.add ⟨.single ']', 0⟩, f.skip rest) else (o, ']' :: rest)
  | cs => (o, cs)

/-- A class after its opening bracket. -/
def start (f : Flags) (cs : List Char) : OpenClass × List Char :=
  let (negated, cs) := negation f (f.skip cs)
  let (o, cs) := hyphens f cs.length { negated } cs
  firstClosing f o cs

/-- Where the reading of a class has come to. -/
inductive Stage where
  /-- The whole class has been read. -/
  | done (part : ClassPart)
  /-- A class is open, and others around it. -/
  | within (o : OpenClass) (outer : List OpenClass)

/-- Reads a class in a class, which can be one with a name, after its opening bracket. -/
def inner? (f : Flags) (o : OpenClass) (outer : List OpenClass) (cs : List Char) :
    Option (Stage × List Char) :=
  match asciiClass? cs with
  | some (negated, s, rest) =>
    (f.complete? negated (.ranges s)).map fun c => (.within (o.add ⟨c, 0⟩) outer, rest)
  | none =>
    let (inner, rest) := start f cs
    some (.within inner (o :: outer), rest)

/-- The innermost class is complete. -/
def close? (f : Flags) (o : OpenClass) (outer : List OpenClass) : Option Stage :=
  (o.close? f).map fun part =>
    match outer with
    | [] => .done part
    | next :: outer => .within (next.add part) outer

/-- Reads an operator that is a character twice, or an item that begins with this character. -/
def operator? (f : Flags) (o : OpenClass) (outer : List OpenClass) (op : ClassOp) (c : Char)
    (cs : List Char) : Option (Stage × List Char) :=
  if cs.head? = some c then some (.within (o.operate f op) outer, cs.drop 1)
  else (item? f (c :: cs)).map fun (c, rest) => (.within (o.add ⟨c, 0⟩) outer, rest)

/-- Reads one construct of a class after its first character. -/
def construct? (f : Flags) (o : OpenClass) (outer : List OpenClass) (c : Char) (cs : List Char) :
    Option (Stage × List Char) :=
  match c with
  | '[' => inner? f o outer cs
  | ']' => (close? f o outer).map (·, cs)
  | '&' => operator? f o outer .inter '&' cs
  | '-' => operator? f o outer .diff '-' cs
  | '~' => operator? f o outer .symmDiff '~' cs
  | c => (item? f (c :: cs)).map fun (c, rest) => (.within (o.add ⟨c, 0⟩) outer, rest)

/-- Reads one construct of a class. -/
def step? (f : Flags) (o : OpenClass) (outer : List OpenClass) :
    List Char → Option (Stage × List Char)
  | [] => none
  | c :: rest => construct? f o outer c rest

/-- Reads the rest of a class and of the classes around it. Every step reads a character, so the
length of the pattern bounds their number. -/
def readFrom? (f : Flags) :
    Nat → OpenClass → List OpenClass → List Char → Option (ClassPart × List Char)
  | 0, _, _, _ => none
  | n + 1, o, outer, cs =>
    match step? f o outer (f.skip cs) with
    | none => none
    | some (.done part, rest) => some (part, rest)
    | some (.within o outer, rest) => readFrom? f n o outer rest

/-- Reads a class after its opening bracket. -/
def read? (f : Flags) (cs : List Char) : Option (ClassPart × List Char) :=
  let (o, rest) := start f cs
  readFrom? f (cs.length + 1) o [] rest

end Bracket

end ToolLisp.Regex
