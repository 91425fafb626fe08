import ToolLisp.Text.ClusterBreak

/-!
# User-perceived characters

A text is cut into extended grapheme clusters, the units that a reader takes for one character. The
rules look at the class of the next character and at a short summary of the cluster read so far:
its last class, whether it ends in a pictograph with extensions, whether it ends in a consonant with
a linker, and whether it ends in an odd number of regional indicators.
-/

namespace ToolLisp.Text

/-- How far the end of a cluster has come towards joining two consonants. -/
inductive Conjunct where
  /-- No consonant to be joined. -/
  | none
  /-- A consonant, perhaps with extensions. -/
  | consonant
  /-- A consonant and a linker after it. -/
  | linked
deriving DecidableEq

/-- How far the end of a cluster has come towards joining two pictographs. -/
inductive Picture where
  /-- No pictograph to be joined. -/
  | none
  /-- A pictograph, perhaps with extensions. -/
  | pictograph
  /-- A pictograph, its extensions and a joiner. -/
  | joined
deriving DecidableEq

/-- What the boundary rules need to know of the cluster read so far. -/
structure ClusterState where
  /-- The class of the last character. -/
  last : ClusterBreak
  /-- The state of a conjunct at the end. -/
  conjunct : Conjunct
  /-- The state of a pictograph sequence at the end. -/
  picture : Picture
  /-- Whether an odd number of regional indicators stands at the end. -/
  oddRegional : Bool

/-- Whether the character is one that a conjunct passes over: an extension that is neither a linker nor
the zero width non-joiner. -/
def passesConjunct (c : Char) (k : ClusterBreak) : Bool :=
  (k == .extend || k == .joiner) && c.toNat != 0x200c

/-- The state of a conjunct after one more character. -/
def Conjunct.step (s : Conjunct) (c : Char) (k : ClusterBreak) : Conjunct :=
  if k = .consonant then .consonant
  else
    match s with
    | .none => .none
    | s => if linkers.contains c then .linked else if passesConjunct c k then s else .none

/-- The state of a pictograph sequence after one more character. -/
def Picture.step (s : Picture) (k : ClusterBreak) : Picture :=
  if k = .pictograph then .pictograph
  else
    match s, k with
    | .pictograph, .extend => .pictograph
    | .pictograph, .joiner => .joined
    | _, _ => .none

/-- The summary after one more character of the same cluster. -/
def ClusterState.step (s : ClusterState) (c : Char) (k : ClusterBreak) : ClusterState where
  last := k
  conjunct := s.conjunct.step c k
  picture := s.picture.step k
  oddRegional := k == .regional && !s.oddRegional

/-- The summary of a cluster of one character. -/
def ClusterState.start (c : Char) (k : ClusterBreak) : ClusterState where
  last := k
  conjunct := Conjunct.none.step c k
  picture := Picture.none.step k
  oddRegional := k == .regional

/-- Whether a class always stands apart from its neighbours. -/
def ClusterBreak.isolates : ClusterBreak → Bool
  | .control | .carriageReturn | .lineFeed => true
  | _ => false

/-- Whether the next character belongs to the cluster read so far. -/
def ClusterState.joins (s : ClusterState) (k : ClusterBreak) : Bool :=
  if s.last = .carriageReturn ∧ k = .lineFeed then true
  else if s.last.isolates || k.isolates then false
  else
    match s.last, k with
    -- the parts of one Hangul syllable
    | .leading, .leading | .leading, .vowel | .leading, .openSyllable
    | .leading, .closedSyllable => true
    | .openSyllable, .vowel | .openSyllable, .trailing | .vowel, .vowel | .vowel, .trailing => true
    | .closedSyllable, .trailing | .trailing, .trailing => true
    -- marks belong to what they stand behind
    | _, .extend | _, .joiner | _, .spacing => true
    | .prepend, _ => true
    | _, .consonant => s.conjunct == .linked
    | .joiner, .pictograph => s.picture == .joined
    -- regional indicators come in pairs
    | .regional, .regional => s.oddRegional
    | _, _ => false

/-- The clusters of a text that continues a cluster. The clusters before it are in `done`, the last one
first, and `current` holds the characters of the continued one backwards. -/
def clustersFrom (done : List (List Char)) (current : List Char) (s : ClusterState) :
    List Char → List (List Char)
  | [] => (current.reverse :: done).reverse
  | c :: rest =>
    let k := ClusterBreak.of c
    if s.joins k then clustersFrom done (c :: current) (s.step c k) rest
    else clustersFrom (current.reverse :: done) [c] (.start c k) rest

/-- The clusters of a text. -/
def clusterLists : List Char → List (List Char)
  | [] => []
  | c :: rest => clustersFrom [] [c] (.start c (ClusterBreak.of c)) rest

/-- The clusters of a text, as texts. -/
def clusters (s : String) : List String :=
  (clusterLists s.toList).map String.ofList

end ToolLisp.Text
