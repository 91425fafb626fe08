/-!
# Characters and texts

A set of characters is a list of inclusive ranges of code points. The tables of the Unicode properties
are of this form, and so are the classes of regular expressions.

A part of a text can be found, split at and replaced. Occurrences are found from left to right and do not
overlap.
-/

namespace ToolLisp.Text

/-! ## Sets of characters -/

/-- Inclusive ranges of code points. -/
abbrev CharSet := List (Nat × Nat)

/-- Whether one of the ranges has the code point. -/
def CharSet.containsCode (s : CharSet) (n : Nat) : Bool :=
  s.any fun r => r.1 ≤ n && n ≤ r.2

/-- Whether one of the ranges has the character. -/
def CharSet.contains (s : CharSet) (c : Char) : Bool :=
  s.containsCode c.toNat

/-- The ranges between those of a sorted list, from a code point on. -/
def CharSet.gapsFrom (next : Nat) : CharSet → CharSet
  | [] => if next ≤ 0x10ffff then [(next, 0x10ffff)] else []
  | (a, b) :: rest =>
    let gaps := gapsFrom (Nat.max next (b + 1)) rest
    if next < a then (next, a - 1) :: gaps else gaps

/-- The code points that are in none of the ranges. -/
def CharSet.complement (s : CharSet) : CharSet :=
  gapsFrom 0 (s.mergeSort fun r t => r.1 ≤ t.1)

/-- Every second code point from the first to the last of each run, as a range of its own. Capital and
small letters take turns in such runs, and so do opening and closing brackets. -/
def CharSet.everySecond (runs : List (Nat × Nat)) : CharSet :=
  runs.flatMap fun r => (List.range ((r.2 - r.1) / 2 + 1)).map fun i => (r.1 + 2 * i, r.1 + 2 * i)

/-- The characters of white space: the blanks, the line ends and the separators. -/
def blanks : CharSet :=
  [(0x9, 0xd), (0x20, 0x20), (0x85, 0x85), (0xa0, 0xa0), (0x1680, 0x1680), (0x2000, 0x200a),
   (0x2028, 0x2029), (0x202f, 0x202f), (0x205f, 0x205f), (0x3000, 0x3000)]

/-- Whether the character is white space. -/
def isBlank (c : Char) : Bool :=
  blanks.contains c

/-! ## Parts of texts -/

/-- Whether a text contains another. -/
def containsPart (part : List Char) : List Char → Bool
  | [] => part.isEmpty
  | c :: rest => part.isPrefixOf (c :: rest) || containsPart part rest

/-- Splits a text at a separator that is not empty. `skip` characters belong to a separator that has
been found, `current` holds the characters since the last separator, the last one first, and `done`
the parts before it, the last one first. -/
def splitFrom (sep : List Char) (skip : Nat) (current : List Char) (done : List (List Char)) :
    List Char → List (List Char)
  | [] => (current.reverse :: done).reverse
  | c :: rest =>
    match skip with
    | n + 1 => splitFrom sep n current done rest
    | 0 =>
      if sep.isPrefixOf (c :: rest) then
        splitFrom sep (sep.length - 1) [] (current.reverse :: done) rest
      else splitFrom sep 0 (c :: current) done rest

/-- The parts of a text between the occurrences of a separator that is not empty. -/
def splitAt (sep text : List Char) : List (List Char) :=
  splitFrom sep 0 [] [] text

/-- Replaces a part that is not empty wherever it occurs. `skip` characters belong to an occurrence
that has been replaced, and `done` holds the characters of the result, the last one first. -/
def replaceFrom (part new : List Char) (skip : Nat) (done : List Char) : List Char → List Char
  | [] => done.reverse
  | c :: rest =>
    match skip with
    | n + 1 => replaceFrom part new n done rest
    | 0 =>
      if part.isPrefixOf (c :: rest) then
        replaceFrom part new (part.length - 1) (new.reverseAux done) rest
      else replaceFrom part new 0 (c :: done) rest

/-- Replaces a part wherever it occurs; the empty part occurs nowhere. -/
def replaceAll (part new text : List Char) : List Char :=
  if part.isEmpty then text else replaceFrom part new 0 [] text

/-- The text without white space around it. -/
def trim (text : List Char) : List Char :=
  ((text.dropWhile isBlank).reverse.dropWhile isBlank).reverse

end ToolLisp.Text
