import ToolLisp.Text.CaseMap
import ToolLisp.Text.Property

/-!
# Letter case of texts

Uppercase and lowercase of whole texts. A character may become several, and the Greek capital sigma
becomes the final form of the small one at the end of a word.
-/

namespace ToolLisp.Text

/-- The characters that a pair of tables takes a character to; a character in neither table stays. -/
def mapCase (expansions : List (Nat × List Nat)) (runs : List CaseRun) (c : Char) : List Char :=
  match expansions.find? (·.1 == c.toNat) with
  | some (_, codes) => codes.map Char.ofNat
  | none =>
    match mapRuns? runs c.toNat with
    | some n => [Char.ofNat n]
    | none => [c]

/-- The uppercase of a character. -/
def upperChar (c : Char) : List Char :=
  mapCase upperExpansions upperRuns c

/-- The lowercase of a character that stands alone. -/
def lowerChar (c : Char) : List Char :=
  mapCase lowerExpansions lowerRuns c

/-- Whether the first character that counts has case. -/
def meetsCased (text : List Char) : Bool :=
  match text.dropWhile caseIgnorable.contains with
  | [] => false
  | c :: _ => cased.contains c

/-- The lowercase of a character between a text before it, given backwards, and one after it. -/
def lowerBetween (before : List Char) (c : Char) (after : List Char) : List Char :=
  if c.toNat = 0x3a3 then
    if meetsCased before && !meetsCased after then [Char.ofNat 0x3c2] else [Char.ofNat 0x3c3]
  else lowerChar c

/-- The lowercase of a text that stands after `before`, put behind `done`; both are given backwards. -/
def lowerAfter (before done : List Char) : List Char → List Char
  | [] => done.reverse
  | c :: rest => lowerAfter (c :: before) ((lowerBetween before c rest).reverse ++ done) rest

/-- The text in uppercase. -/
def upper (s : String) : String :=
  String.ofList (s.toList.flatMap upperChar)

/-- The text in lowercase. -/
def lower (s : String) : String :=
  String.ofList (lowerAfter [] [] s.toList)

/-! ## Disregarding case -/

/-- The character that stands for all those which differ from `n` only in case. -/
def foldCode (n : Nat) : Nat :=
  (mapRuns? foldRuns n).getD n

/-- The code points that differ from `n` only in case, `n` among them. -/
def caseVariants (n : Nat) : List Nat :=
  let target := foldCode n
  target :: foldRuns.filterMap fun r =>
    let source := ((target : Int) - r.offset).toNat
    if r.contains source && ((source : Int) + r.offset).toNat == target then some source else none

end ToolLisp.Text
