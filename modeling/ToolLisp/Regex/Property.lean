import ToolLisp.Regex.CharClass
import ToolLisp.Text.BinaryProperty
import ToolLisp.Text.ClusterBreak
import ToolLisp.Text.Property
import ToolLisp.Text.Script

/-!
# Classes by property

The classes that are named by a property of Unicode: a general category, a script, or a property that
a character has or has not. Names are compared without case and separators.
-/

namespace ToolLisp.Regex

open Text (CharSet)

namespace Property

/-- A name in small letters, without separators and without what is not ASCII. -/
def squeeze (name : List Char) : List Char :=
  (name.filter fun c => c != ' ' && c != '_' && c != '-' && c.toNat < 128).map Char.toLower

/-- A name in the form in which names are compared: a leading `is` is left out, unless only a `c`
would be left. -/
def normalize (name : List Char) : String :=
  match name with
  | a :: b :: rest =>
    if a.toLower == 'i' && b.toLower == 's' then
      if squeeze rest = ['c'] then "isc" else String.ofList (squeeze rest)
    else String.ofList (squeeze name)
  | _ => String.ofList (squeeze name)

/-- The general categories with their names. -/
def categories : List (List String × CharSet) :=
  [(["lu", "uppercaseletter"], Text.Category.uppercaseLetter),
   (["ll", "lowercaseletter"], Text.Category.lowercaseLetter),
   (["lt", "titlecaseletter"], Text.Category.titlecaseLetter),
   (["lc", "casedletter"], Text.Category.casedLetter),
   (["lm", "modifierletter"], Text.Category.modifierLetter),
   (["lo", "otherletter"], Text.Category.otherLetter),
   (["l", "letter"], Text.Category.letter),
   (["mn", "nonspacingmark"], Text.Category.nonspacingMark),
   (["mc", "spacingmark"], Text.Category.spacingMark),
   (["me", "enclosingmark"], Text.Category.enclosingMark),
   (["m", "mark", "combiningmark"], Text.Category.mark),
   (["nd", "decimalnumber", "digit"], Text.Category.decimalNumber),
   (["nl", "letternumber"], Text.Category.letterNumber),
   (["no", "othernumber"], Text.Category.otherNumber),
   (["n", "number"], Text.Category.number),
   (["pc", "connectorpunctuation"], Text.Category.connectorPunctuation),
   (["pd", "dashpunctuation"], Text.Category.dashPunctuation),
   (["ps", "openpunctuation"], Text.Category.openPunctuation),
   (["pe", "closepunctuation"], Text.Category.closePunctuation),
   (["pi", "initialpunctuation"], Text.Category.initialPunctuation),
   (["pf", "finalpunctuation"], Text.Category.finalPunctuation),
   (["po", "otherpunctuation"], Text.Category.otherPunctuation),
   (["p", "punctuation", "punct"], Text.Category.punctuation),
   (["sm", "mathsymbol"], Text.Category.mathSymbol),
   (["sc", "currencysymbol"], Text.Category.currencySymbol),
   (["sk", "modifiersymbol"], Text.Category.modifierSymbol),
   (["so", "othersymbol"], Text.Category.otherSymbol),
   (["s", "symbol"], Text.Category.symbol),
   (["zs", "spaceseparator"], Text.Category.spaceSeparator),
   (["zl", "lineseparator"], Text.Category.lineSeparator),
   (["zp", "paragraphseparator"], Text.Category.paragraphSeparator),
   (["z", "separator"], Text.Category.separator),
   (["cc", "control", "cntrl"], Text.Category.control),
   (["cf", "format"], Text.Category.format),
   (["co", "privateuse"], Text.Category.privateUse),
   (["any"], [(0, 0x10ffff)]),
   (["ascii"], [(0, 0x7f)]),
   (["assigned"], Text.Category.assigned)]

/-- The code points that are not assigned. -/
def unassigned : CharClass :=
  .complement (.ranges (Text.Category.assigned ++ [(0xd800, 0xdfff)]))

/-- The control characters, and all else that is no visible character. -/
def other : CharClass :=
  .union unassigned
    (.ranges (Text.Category.control ++ Text.Category.format ++ Text.Category.privateUse))

/-- The class of a general category. -/
def category? (name : String) : Option CharClass :=
  match name with
  | "cn" | "unassigned" => some unassigned
  | "c" | "other" => some other
  | _ => ((categories.find? (·.1.contains name)).map (·.2)).map .ranges

/-- The characters that can begin a name. -/
def idStart : CharClass :=
  .diff (.ranges (Text.Category.letter ++ Text.Category.letterNumber ++
    [(0x1885, 0x1886), (0x2118, 0x2118), (0x212e, 0x212e), (0x309b, 0x309c)]))
    (.ranges [(0x2e2f, 0x2e2f)])

/-- The characters that can stand in a name. -/
def idContinue : CharClass :=
  .union idStart (.ranges (Text.Category.nonspacingMark ++ Text.Category.spacingMark ++
    Text.Category.decimalNumber ++ Text.Category.connectorPunctuation ++
    [(0xb7, 0xb7), (0x387, 0x387), (0x1369, 0x1371), (0x19da, 0x19da), (0x200c, 0x200d),
     (0x30fb, 0x30fb), (0xff65, 0xff65)]))

/-- The characters of names that fall out of names by normalization. -/
def unstable : CharSet :=
  [(0x37a, 0x37a), (0x309b, 0x309c), (0xfc5e, 0xfc63), (0xfdfa, 0xfdfb), (0xfe70, 0xfe70),
   (0xfe72, 0xfe72), (0xfe74, 0xfe74), (0xfe76, 0xfe76), (0xfe78, 0xfe78), (0xfe7a, 0xfe7a),
   (0xfe7c, 0xfe7c), (0xfe7e, 0xfe7e)]

/-- The characters that can stand in a name, but not begin it, after normalization. -/
def unstableStart : CharSet :=
  [(0xe33, 0xe33), (0xeb3, 0xeb3), (0xff9e, 0xff9f)]

/-- The characters that extend the one before. -/
def graphemeExtend : CharClass :=
  .diff (.ranges Text.extendBreak) (.ranges [(0x1f3fb, 0x1f3ff)])

/-- The characters that can be extended. -/
def graphemeBase : CharClass :=
  .diff (.ranges (Text.Category.letter ++ Text.Category.mark ++ Text.Category.number ++
    Text.Category.punctuation ++ Text.Category.symbol ++ Text.Category.spaceSeparator))
    graphemeExtend

/-- The class of a property that a character has or has not. -/
def binary? (name : String) : Option CharClass :=
  match name with
  | "alphabetic" | "alpha" => some (.ranges Text.alphabetic)
  | "lowercase" | "lower" => some (.ranges Text.lowercase)
  | "uppercase" | "upper" => some (.ranges Text.uppercase)
  | "cased" => some (.ranges Text.cased)
  | "caseignorable" | "ci" => some (.ranges Text.caseIgnorable)
  | "whitespace" | "wspace" | "space" => some (.ranges Text.blanks)
  | "extendedpictographic" | "extpict" => some (.ranges Text.pictographs)
  | "graphemeextend" | "grext" => some graphemeExtend
  | "graphemebase" | "grbase" => some graphemeBase
  | "idstart" | "ids" => some idStart
  | "idcontinue" | "idc" => some idContinue
  | "xidstart" | "xids" => some (.diff idStart (.ranges (unstable ++ unstableStart)))
  | "xidcontinue" | "xidc" => some (.diff idContinue (.ranges unstable))
  | _ => (Text.BinaryProperty.named? name).map .ranges

/-- The class of a name that stands alone. Some names are both a category and a property. -/
def named? (name : List Char) : Option CharClass :=
  let name := normalize name
  match if name = "cf" ∨ name = "sc" ∨ name = "lc" then none else binary? name with
  | some c => some c
  | none =>
    match category? name with
    | some c => some c
    | none => (Text.Script.named? name).map .ranges

/-- The class of the value of a property. -/
def valued? (name value : List Char) : Option CharClass :=
  match normalize name with
  | "gc" | "generalcategory" => category? (normalize value)
  | "sc" | "script" => (Text.Script.named? (normalize value)).map .ranges
  | _ => none

/-- The text before and after the first place where a mark stands. -/
def splitOnce? (mark : List Char) : List Char → Option (List Char × List Char)
  | [] => none
  | c :: rest =>
    if mark.isPrefixOf (c :: rest) then some ([], (c :: rest).drop mark.length)
    else (splitOnce? mark rest).map fun (before, after) => (c :: before, after)

/-- The class that stands between the brackets of a property: a name, or a name and a value. -/
def ofText? (text : List Char) : Option CharClass :=
  match [['!', '='], [':'], ['=']].findSome? (splitOnce? · text) with
  | some (name, value) => valued? name value
  | none => named? text

end Property

end ToolLisp.Regex
