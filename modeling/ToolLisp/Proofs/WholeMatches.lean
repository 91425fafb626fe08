import ToolLisp.Proofs.KeyedAccess

/-!
# Whole matches

`re-matches` puts a pattern into a group between the anchors of a text and searches for that. What follows
from this is shown of every engine whose anchors, groups and searches do what is said of them
(`Engine.Semantics.Lawful`): if the pattern can be read by itself, then what is found is the whole text
(`anchored_matches_are_whole`).

A pattern that cannot be read by itself may become one between the brackets of the group, and a pattern
that can be read may fail there (`unopened_bracket_matches_part`).
-/

namespace ToolLisp

namespace Regex

/-! ## What is known of an engine -/

/-- A meaning of the patterns of an engine: where they match, and which of them are the anchors of a text and
one pattern after another. -/
structure Engine.Semantics (E : Engine) where
  /-- A pattern matches in a text from one place to another. -/
  spans : E.Pattern → List Char → ℕ → ℕ → Prop
  /-- The anchor of the beginning of a text. -/
  textStart : E.Pattern
  /-- The anchor of the end of a text. -/
  textEnd : E.Pattern
  /-- One pattern after another. -/
  cat : E.Pattern → E.Pattern → E.Pattern

/-- A group of characters in a text, from one place to another. -/
def section? (text : String) (i j : ℕ) : Option String :=
  some (String.ofList ((text.toList.drop i).take (j - i)))

/-- The meaning of patterns is the documented one. -/
structure Engine.Semantics.Lawful {E : Engine} (S : E.Semantics) : Prop where
  /-- The first anchor matches the empty text at the beginning. -/
  spans_textStart {text : List Char} {i j : ℕ} : S.spans S.textStart text i j ↔ i = 0 ∧ j = 0
  /-- The last anchor matches the empty text at the end. -/
  spans_textEnd {text : List Char} {i j : ℕ} :
    S.spans S.textEnd text i j ↔ i = text.length ∧ j = text.length
  /-- The second of two patterns goes on where the first one ends. -/
  spans_cat {a b : E.Pattern} {text : List Char} {i j : ℕ} :
    S.spans (S.cat a b) text i j ↔ ∃ k, S.spans a text i k ∧ S.spans b text k j
  /-- A group holds what it is put around, so the anchors outside are read as anchors of the text, if the
  whole can be read at all. -/
  spans_anchored {p : String} {r r' : E.Pattern} (hr : E.ofText? p = some r)
    (hr' : E.ofText? (TextFn.anchored p) = some r') {text : List Char} {i j : ℕ} :
    S.spans r' text i j ↔ S.spans (S.cat S.textStart (S.cat r S.textEnd)) text i j
  /-- What is found is a match. -/
  spans_of_captures? {r : E.Pattern} {text : String} {groups : List (Option String)}
    (h : E.captures? r text = some groups) :
    ∃ i j, S.spans r text.toList i j ∧ groups.head? = some (section? text i j)
  /-- A match is found if there is one. -/
  captures?_of_spans {r : E.Pattern} {text : String} {i j : ℕ} (h : S.spans r text.toList i j) :
    E.captures? r text ≠ none

namespace Engine.Semantics.Lawful

variable {E : Engine} {S : E.Semantics} {p text : String} {r r' : E.Pattern}

/-- A pattern between anchors matches nothing but the whole text. -/
theorem spans_anchored_iff (hS : S.Lawful) (hr : E.ofText? p = some r)
    (hr' : E.ofText? (TextFn.anchored p) = some r') {i j : ℕ} :
    S.spans r' text.toList i j ↔
      i = 0 ∧ j = text.toList.length ∧ S.spans r text.toList 0 text.toList.length := by
  rw [hS.spans_anchored hr hr', hS.spans_cat]
  constructor
  · rintro ⟨k, hstart, hrest⟩
    obtain ⟨rfl, rfl⟩ := hS.spans_textStart.1 hstart
    obtain ⟨l, hbody, hend⟩ := hS.spans_cat.1 hrest
    obtain ⟨rfl, rfl⟩ := hS.spans_textEnd.1 hend
    exact ⟨rfl, rfl, hbody⟩
  · rintro ⟨rfl, rfl, hbody⟩
    exact ⟨0, hS.spans_textStart.2 ⟨rfl, rfl⟩, hS.spans_cat.2 ⟨_, hbody, hS.spans_textEnd.2 ⟨rfl, rfl⟩⟩⟩

/-- What is found of a pattern between anchors is the whole text. -/
theorem captures?_anchored (hS : S.Lawful) (hr : E.ofText? p = some r)
    (hr' : E.ofText? (TextFn.anchored p) = some r') {groups : List (Option String)}
    (h : E.captures? r' text = some groups) :
    S.spans r text.toList 0 text.toList.length ∧ ∃ rest, groups = some text :: rest := by
  obtain ⟨i, j, hspans, hhead⟩ := hS.spans_of_captures? h
  obtain ⟨rfl, rfl, hbody⟩ := (hS.spans_anchored_iff hr hr').1 hspans
  have hwhole : section? text 0 text.toList.length = some text := by simp [section?]
  obtain ⟨rest, hgroups⟩ := List.head?_eq_some_iff.1 (hhead.trans (congrArg some hwhole))
  exact ⟨hbody, rest, hgroups⟩

end Engine.Semantics.Lawful

end Regex

/-! ## Searches -/

open Regex

/-- The whole match in the result of a search: a string, or the first element of a vector of it and its groups. -/
def Value.wholeMatch? : Value → Option Value
  | .string text => some (.string text)
  | .vector (v :: _) => some v
  | _ => none

namespace TextFn

variable {E : Engine} {pattern : String → String} {p : String}

theorem wholeMatch?_matchValue (text : String) (rest : List (Option String)) :
    (matchValue (some text :: rest)).wholeMatch? = some (.string text) := by
  cases rest with
  | nil => rfl
  | cons group rest => rfl

/-- A pattern that cannot be read is an error. -/
theorem firstMatch_of_none (h : E.ofText? (pattern p) = none) (name : String) (v : Value) :
    firstMatch E name pattern (.string p) v = .error (.type (.pattern name (pattern p))) := by
  unfold firstMatch
  dsimp only [Value.asString, bind, Except.bind]
  rw [h]
  rfl

/-- A pattern that has been read is searched for. -/
theorem firstMatch_of_some {r : E.Pattern} (h : E.ofText? (pattern p) = some r) (name text : String) :
    firstMatch E name pattern (.string p) (.string text) =
      .ok ((E.captures? r text).elim .nil matchValue) := by
  unfold firstMatch
  dsimp only [Value.asString, bind, Except.bind]
  rw [h]
  dsimp only
  cases E.captures? r text with
  | none => rfl
  | some groups => rfl

/-- A search that has been carried out. -/
theorem firstMatch_eq_ok {name text : String} {found : Option (List (Option String))}
    (h : (E.ofText? (pattern p)).map (E.captures? · text) = some found) :
    firstMatch E name pattern (.string p) (.string text) = .ok (found.elim .nil matchValue) := by
  obtain ⟨r, hr, rfl⟩ := Option.map_eq_some_iff.1 h
  exact firstMatch_of_some hr name text

/-- A search fails exactly if the pattern cannot be read. -/
theorem firstMatch_eq_error_iff {name text : String} :
    firstMatch E name pattern (.string p) (.string text) = .error (.type (.pattern name (pattern p))) ↔
      E.ofText? (pattern p) = none := by
  refine ⟨fun h => ?_, fun h => firstMatch_of_none h name _⟩
  cases hp : E.ofText? (pattern p) with
  | none => rfl
  | some r =>
    rw [firstMatch_of_some hp] at h
    cases h

end TextFn

namespace Regex.Plain

/-- A part of such a pattern. -/
inductive Atom where
  /-- The beginning of the text. -/
  | textStart
  /-- The end of the text. -/
  | textEnd
  /-- A character. -/
  | char (c : Char)

/-- Reads a pattern to its end, when so many groups are open. -/
def read? : ℕ → List Char → Option (List Atom)
  | 0, [] => some []
  | _ + 1, [] => none
  | depth, '(' :: '?' :: ':' :: rest => read? (depth + 1) rest
  | 0, ')' :: _ => none
  | depth + 1, ')' :: rest => read? depth rest
  | depth, '^' :: rest => (read? depth rest).map (.textStart :: ·)
  | depth, '$' :: rest => (read? depth rest).map (.textEnd :: ·)
  | depth, c :: rest => if c.isAlphanum then (read? depth rest).map (.char c :: ·) else none

/-- The place where atoms end that match at a place. -/
def matchFrom (text : List Char) : List Atom → ℕ → Option ℕ
  | [], i => some i
  | .textStart :: rest, i => if i = 0 then matchFrom text rest i else none
  | .textEnd :: rest, i => if i = text.length then matchFrom text rest i else none
  | .char c :: rest, i => if text[i]? = some c then matchFrom text rest (i + 1) else none

/-- The first match in a text. There are no groups to record. -/
def search (atoms : List Atom) (text : String) : Option (List (Option String)) :=
  (List.range (text.toList.length + 1)).findSome? fun i =>
    (matchFrom text.toList atoms i).map fun j => [section? text i j]

/-- The engine for patterns without operators. -/
def engine : Engine where
  Pattern := List Atom
  ofText? p := read? 0 p.toList
  captures? := search

/-- A pattern is a list of atoms, so one pattern after another is one list after another. -/
def semantics : engine.Semantics where
  spans atoms text i j := i ≤ text.length ∧ matchFrom text atoms i = some j
  textStart := [Atom.textStart]
  textEnd := [Atom.textEnd]
  cat := fun a b : List Atom => a ++ b

/-- What is read of a pattern does not depend on what stands around it. -/
theorem read?_append {depth : ℕ} {p : List Char} {atoms : List Atom} (h : read? depth p = some atoms)
    (outer : ℕ) (rest : List Char) :
    read? (depth + outer) (p ++ rest) = (read? outer rest).map (atoms ++ ·) := by
  fun_induction read? depth p generalizing atoms with
  | case1 =>
    cases h
    simp
  | case2 => cases h
  | case3 depth tail ih =>
    have hread := ih h
    rw [Nat.add_right_comm] at hread
    simpa [read?] using hread
  | case4 => cases h
  | case5 depth tail ih => simpa [read?, Nat.add_right_comm] using ih h
  | case6 depth tail ih =>
    obtain ⟨inner, hinner, rfl⟩ := Option.map_eq_some_iff.1 h
    simp [read?, ih hinner, Function.comp_def]
  | case7 depth tail ih =>
    obtain ⟨inner, hinner, rfl⟩ := Option.map_eq_some_iff.1 h
    simp [read?, ih hinner, Function.comp_def]
  | case8 depth c tail _ _ _ _ _ hc ih =>
    obtain ⟨inner, hinner, rfl⟩ := Option.map_eq_some_iff.1 h
    -- a letter or digit is no bracket
    have hne (d : Char) (hd : d.isAlphanum = false) : c ≠ d := by
      rintro rfl
      exact Bool.false_ne_true (hd.symm.trans hc)
    simp [read?, ih hinner, hc, hne '(' rfl, hne ')' rfl, Function.comp_def]
  | case9 => cases h

/-- A pattern between anchors is read as its atoms between theirs. -/
theorem read?_anchored {p : String} {atoms : List Atom} (h : read? 0 p.toList = some atoms) :
    read? 0 (TextFn.anchored p).toList = some (.textStart :: (atoms ++ [.textEnd])) := by
  have htext : (TextFn.anchored p).toList = '^' :: '(' :: '?' :: ':' :: (p.toList ++ [')', '$']) := by
    simp [TextFn.anchored, TextFn.grouped]
  have hinner := read?_append h 1 [')', '$']
  rw [htext]
  simp [read?, hinner]

theorem matchFrom_append (text : List Char) (b : List Atom) : ∀ (a : List Atom) (i : ℕ),
    matchFrom text (a ++ b) i = (matchFrom text a i).bind (matchFrom text b)
  | [], _ => rfl
  | atom :: rest, i => by
    cases atom with
    | textStart =>
      rw [List.cons_append, matchFrom, matchFrom, matchFrom_append text b rest]
      split <;> rfl
    | textEnd =>
      rw [List.cons_append, matchFrom, matchFrom, matchFrom_append text b rest]
      split <;> rfl
    | char c =>
      rw [List.cons_append, matchFrom, matchFrom, matchFrom_append text b rest]
      split <;> rfl

theorem matchFrom_le {text : List Char} : ∀ {atoms : List Atom} {i j : ℕ}, i ≤ text.length →
    matchFrom text atoms i = some j → j ≤ text.length
  | [], _, _, hi, h => Option.some.inj h ▸ hi
  | atom :: rest, i, j, hi, h => by
    cases atom with
    | textStart =>
      rw [matchFrom, Option.ite_none_right_eq_some] at h
      exact matchFrom_le hi h.2
    | textEnd =>
      rw [matchFrom, Option.ite_none_right_eq_some] at h
      exact matchFrom_le hi h.2
    | char c =>
      rw [matchFrom, Option.ite_none_right_eq_some] at h
      obtain ⟨hi, -⟩ := List.getElem?_eq_some_iff.1 h.1
      exact matchFrom_le hi h.2

/-- The meaning of patterns without operators is the documented one. -/
theorem semantics_lawful : semantics.Lawful where
  spans_textStart {text i j} := by
    simp only [semantics, matchFrom, Option.ite_none_right_eq_some, Option.some.injEq]
    constructor
    · rintro ⟨-, rfl, rfl⟩
      exact ⟨rfl, rfl⟩
    · rintro ⟨rfl, rfl⟩
      exact ⟨Nat.zero_le _, rfl, rfl⟩
  spans_textEnd {text i j} := by
    simp only [semantics, matchFrom, Option.ite_none_right_eq_some, Option.some.injEq]
    constructor
    · rintro ⟨-, rfl, rfl⟩
      exact ⟨rfl, rfl⟩
    · rintro ⟨rfl, rfl⟩
      exact ⟨Nat.le_refl _, rfl, rfl⟩
  spans_cat {a b text i j} := by
    have happend : matchFrom text (semantics.cat a b) i = _ := matchFrom_append text b a i
    change i ≤ text.length ∧ matchFrom text (semantics.cat a b) i = some j ↔ _
    rw [happend, Option.bind_eq_some_iff]
    constructor
    · rintro ⟨hi, k, ha, hb⟩
      exact ⟨k, ⟨hi, ha⟩, matchFrom_le hi ha, hb⟩
    · rintro ⟨k, ⟨hi, ha⟩, -, hb⟩
      exact ⟨hi, k, ha, hb⟩
  spans_anchored {p r r'} hr hr' {text i j} := by
    obtain rfl := Option.some.inj ((read?_anchored hr).symm.trans hr')
    rfl
  spans_of_captures? {r text groups} h := by
    obtain ⟨i, hi, hfound⟩ := List.exists_of_findSome?_eq_some h
    obtain ⟨j, hj, rfl⟩ := Option.map_eq_some_iff.1 hfound
    exact ⟨i, j, ⟨Nat.le_of_lt_succ (List.mem_range.1 hi), hj⟩, rfl⟩
  captures?_of_spans {r text i j} h := by
    intro hnone
    have hi := List.findSome?_eq_none_iff.1 hnone i (List.mem_range.2 (Nat.lt_succ_of_le h.1))
    rw [h.2] at hi
    cases hi

end Regex.Plain

theorem callAt_reFind (h : Host) (n : Nat) (p text : String) :
    callAt h (n + 1) (.builtin (.text .reFind)) [.string p, .string text] =
      .ofChecked (TextFn.found Regex.engine (.string p) (.string text)) :=
  callAt_of_act rfl h n

theorem callAt_reMatches (h : Host) (n : Nat) (p text : String) :
    callAt h (n + 1) (.builtin (.text .reMatches)) [.string p, .string text] =
      .ofChecked (TextFn.matched Regex.engine (.string p) (.string text)) :=
  callAt_of_act rfl h n

end ToolLisp
