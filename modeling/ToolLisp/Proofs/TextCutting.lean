import ToolLisp.Proofs.KeyedAccess

/-!
# Cutting texts

`split` and `replace` each go through a text once and look for the same part at every place, and both go on
behind an occurrence that they have found. So they find the same occurrences, and what the one puts in their
place is what the other leaves open: a replaced text is the split one, joined again
(`Text.replaceFrom_eq_intercalate`). With the part itself put in its place, the text comes back
(`Text.replaceFrom_self`).

A text is cut into clusters in another way, one character after the other, but nothing gets lost there either
(`Text.flatten_clusterLists`). With that, cutting a text anywhere and putting it together again gives the text
(`cut_texts_join_to_whole`).
-/

namespace ToolLisp

/-! ## Lists with a separator between them -/

/-- One more list at the end has a separator before it. -/
theorem intercalate_concat {α : Type} (sep y : List α) {xs : List (List α)} (hxs : xs ≠ []) :
    sep.intercalate (xs ++ [y]) = sep.intercalate xs ++ sep ++ y := by
  induction xs with
  | nil => exact absurd rfl hxs
  | cons x xs ih =>
    cases xs with
    | nil => simp [List.intercalate]
    | cons x' xs =>
      have hrest := ih (List.cons_ne_nil x' xs)
      rw [List.cons_append, List.cons_append, List.intercalate_cons_cons, List.intercalate_cons_cons,
        ← List.cons_append, hrest]
      simp only [List.append_assoc]

/-- The end of the last list is the end of the whole. -/
theorem intercalate_concat_append {α : Type} (sep y z : List α) (xs : List (List α)) :
    sep.intercalate (xs ++ [y ++ z]) = sep.intercalate (xs ++ [y]) ++ z := by
  by_cases hxs : xs = []
  · simp [hxs, List.intercalate]
  · rw [intercalate_concat sep _ hxs, intercalate_concat sep _ hxs]
    simp only [List.append_assoc]

/-- Without a separator the lists are just put together. -/
theorem nil_intercalate {α : Type} (xs : List (List α)) : [].intercalate xs = xs.flatten := by
  induction xs with
  | nil => rfl
  | cons x xs ih =>
    cases xs with
    | nil => simp [List.intercalate]
    | cons x' xs => rw [List.intercalate_cons_cons, ih, List.append_nil, ← List.flatten_cons]

namespace Text

/-! ## Splitting and replacing -/

/-- Where splitting ends a part, replacing goes on behind the new text. -/
theorem replaceFrom_eq_intercalate (part new : List Char) (text : List Char) :
    ∀ (skip : Nat) (current : List Char) (done : List (List Char)),
      replaceFrom part new skip (new.intercalate (current.reverse :: done).reverse).reverse text =
        new.intercalate (splitFrom part skip current done text) := by
  induction text with
  | nil =>
    intro skip current done
    rw [replaceFrom, splitFrom, List.reverse_reverse]
  | cons c rest ih =>
    intro skip current done
    cases skip with
    | succ n =>
      rw [replaceFrom, splitFrom]
      exact ih n current done
    | zero =>
      rw [replaceFrom, splitFrom]
      by_cases hpart : part.isPrefixOf (c :: rest) = true
      · -- the new text is the separator in front of a part that is still empty
        have hparts : (List.reverse [] :: current.reverse :: done).reverse =
            (current.reverse :: done).reverse ++ [[]] := List.reverse_cons
        have hdone : new.reverseAux (new.intercalate (current.reverse :: done).reverse).reverse =
            (new.intercalate (List.reverse [] :: current.reverse :: done).reverse).reverse := by
          rw [hparts, intercalate_concat _ _ (by simp), List.append_nil, List.reverse_append,
            List.reverseAux_eq]
        rw [if_pos hpart, if_pos hpart, hdone]
        exact ih _ [] (current.reverse :: done)
      · have hdone : c :: (new.intercalate (current.reverse :: done).reverse).reverse =
            (new.intercalate ((c :: current).reverse :: done).reverse).reverse := by
          rw [List.reverse_cons, List.reverse_cons, List.reverse_cons, intercalate_concat_append,
            List.reverse_append]
          rfl
        rw [if_neg hpart, if_neg hpart, hdone]
        exact ih 0 (c :: current) done

/-- Replacing a part is cutting the text there and putting the new part between the pieces. -/
theorem replaceAll_eq_intercalate {part : List Char} (hpart : part ≠ []) (new text : List Char) :
    replaceAll part new text = new.intercalate (splitAt part text) := by
  have hempty : part.isEmpty = false := by simpa using hpart
  have hstart := replaceFrom_eq_intercalate part new text 0 [] []
  rw [replaceAll, hempty, splitAt, ← hstart]
  rfl

/-- What is put in the place of an occurrence of itself are the characters that are skipped. -/
theorem replaceFrom_self {part : List Char} (hpart : part ≠ []) (text : List Char) :
    ∀ (skip : Nat) (done : List Char),
      replaceFrom part part skip done text = done.reverse ++ text.drop skip := by
  induction text with
  | nil =>
    intro skip done
    rw [replaceFrom, List.drop_nil, List.append_nil]
  | cons c rest ih =>
    intro skip done
    cases skip with
    | succ n =>
      rw [replaceFrom, ih, List.drop_succ_cons]
    | zero =>
      rw [replaceFrom]
      by_cases hprefix : part.isPrefixOf (c :: rest) = true
      · have hpos : 0 < part.length := List.length_pos_iff.2 hpart
        have hwhole : part ++ (c :: rest).drop part.length = c :: rest :=
          List.prefix_iff_eq_append.1 (List.isPrefixOf_iff_prefix.1 hprefix)
        have hbehind : (c :: rest).drop part.length = rest.drop (part.length - 1) := by
          rw [show part.length = part.length - 1 + 1 by omega, List.drop_succ_cons]
          rfl
        rw [if_pos hprefix, ih, List.reverseAux_eq, ← hbehind]
        simp [hwhole]
      · rw [if_neg hprefix, ih]
        simp

/-- Replacing a part by itself changes nothing. -/
theorem replaceAll_self {part : List Char} (hpart : part ≠ []) (text : List Char) :
    replaceAll part part text = text := by
  have hempty : part.isEmpty = false := by simpa using hpart
  rw [replaceAll, hempty]
  exact replaceFrom_self hpart text 0 []

/-- None of the places at which `current` goes on is the beginning of an occurrence of `sep`. -/
def PassedOver (sep current text : List Char) : Prop :=
  ∀ x y, current = x ++ y → y ≠ [] → ¬ sep <+: y ++ text

/-- What has been passed over holds no separator, even if it is the beginning of one. -/
theorem PassedOver.not_infix {sep current text : List Char} (hsep : sep ≠ [])
    (h : PassedOver sep current text) : ¬ sep <:+: current := by
  rintro ⟨x, z, hxz⟩
  refine h x (sep ++ z) (by rw [← hxz, List.append_assoc]) (by simp [hsep]) ?_
  exact ⟨z ++ text, by simp⟩

/-- A character that begins no separator is passed over. -/
theorem PassedOver.step {sep current text : List Char} {c : Char}
    (h : PassedOver sep current (c :: text)) (hc : ¬ sep <+: c :: text) :
    PassedOver sep (current ++ [c]) text := by
  intro x y hxy hy
  rcases List.eq_nil_or_concat' y with rfl | ⟨y', d, rfl⟩
  · exact absurd rfl hy
  · rw [← List.append_assoc] at hxy
    obtain ⟨hcurrent, hd⟩ := List.append_inj' hxy rfl
    obtain rfl : c = d := by simpa using hd
    rw [List.append_assoc, List.singleton_append]
    by_cases hy' : y' = []
    · rw [hy', List.nil_append]
      exact hc
    · exact h x y' hcurrent hy'

/-- No part holds the separator. -/
theorem not_infix_of_mem_splitFrom {sep : List Char} (hsep : sep ≠ []) (text : List Char) :
    ∀ (skip : Nat) (current : List Char) (done : List (List Char)),
      PassedOver sep current.reverse (text.drop skip) → (skip ≠ 0 → current = []) →
      (∀ p ∈ done, ¬ sep <:+: p) → ∀ p ∈ splitFrom sep skip current done text, ¬ sep <:+: p := by
  induction text with
  | nil =>
    intro skip current done hcurrent _ hdone p hp
    rw [splitFrom, List.mem_reverse, List.mem_cons] at hp
    rcases hp with rfl | hp
    · exact hcurrent.not_infix hsep
    · exact hdone p hp
  | cons c rest ih =>
    intro skip current done hcurrent hskip hdone
    have hempty : ∀ (n : Nat), PassedOver sep (List.reverse []) (rest.drop n) := by
      intro n x y hxy hy
      simp_all
    cases skip with
    -- no part has begun while the characters of a separator are passed over
    | succ n =>
      rw [splitFrom]
      rw [hskip (by omega)]
      exact ih n [] done (hempty n) (fun _ => rfl) hdone
    | zero =>
      rw [splitFrom]
      by_cases hprefix : sep.isPrefixOf (c :: rest) = true
      · rw [if_pos hprefix]
        have hdone' : ∀ p ∈ current.reverse :: done, ¬ sep <:+: p :=
          List.forall_mem_cons.2 ⟨hcurrent.not_infix hsep, hdone⟩
        exact ih _ [] _ (hempty _) (fun _ => rfl) hdone'
      · rw [if_neg hprefix]
        have hc : ¬ sep <+: c :: rest := fun hc => hprefix (List.isPrefixOf_iff_prefix.2 hc)
        have hstep := hcurrent.step hc
        rw [← List.reverse_cons] at hstep
        exact ih 0 (c :: current) done hstep (fun h => absurd rfl h) hdone

/-- No piece holds a separator. -/
theorem not_infix_of_mem_splitAt {sep : List Char} (hsep : sep ≠ []) {text p : List Char}
    (hp : p ∈ splitAt sep text) : ¬ sep <:+: p := by
  refine not_infix_of_mem_splitFrom hsep text 0 [] [] ?_ (fun h => absurd rfl h) (by simp) p hp
  intro x y hxy hy
  simp_all

/-! ## Clusters -/

/-- Clusters are made of what was read before and of the rest of the text. By induction on the rest. -/
theorem flatten_clustersFrom (text : List Char) :
    ∀ (done : List (List Char)) (current : List Char) (s : ClusterState),
      (clustersFrom done current s text).flatten = done.reverse.flatten ++ current.reverse ++ text := by
  induction text with
  | nil =>
    intro done current s
    simp [clustersFrom]
  | cons c rest ih =>
    intro done current s
    rw [clustersFrom]
    by_cases hjoins : s.joins (ClusterBreak.of c) = true
    · rw [if_pos hjoins, ih]
      simp
    · rw [if_neg hjoins, ih]
      simp

/-- The clusters of a text make up the text. -/
theorem flatten_clusterLists (text : List Char) : (clusterLists text).flatten = text := by
  cases text with
  | nil => rfl
  | cons c rest =>
    rw [clusterLists, flatten_clustersFrom]
    rfl

theorem join_clusters (s : String) : String.join (clusters s) = s := by
  rw [← String.toList_inj, String.toList_join, clusters, List.flatMap_map]
  simp only [String.toList_ofList, List.flatMap_id', flatten_clusterLists]

/-! ## The pieces of a text -/

/-- What a text is split into: its clusters, if the separator is empty, and otherwise what stands between the
occurrences of the separator. -/
def pieces (text sep : String) : List String :=
  if sep = "" then clusters text else (splitAt sep.toList text.toList).map String.ofList

/-- With a separator the pieces are what is between its occurrences. -/
theorem pieces_of_ne {sep : String} (hsep : sep ≠ "") (text : String) :
    pieces text sep = (splitAt sep.toList text.toList).map String.ofList :=
  if_neg hsep

theorem toList_ne_nil {s : String} (hs : s ≠ "") : s.toList ≠ [] := by
  simpa using hs

/-- A text whose pieces are joined by something else has that in the place of the separator. -/
theorem intercalate_pieces_of_ne {old : String} (hold : old ≠ "") (new text : String) :
    new.intercalate (pieces text old) = String.ofList (replaceAll old.toList new.toList text.toList) := by
  rw [← String.toList_inj, String.toList_intercalate, String.toList_ofList, pieces_of_ne hold,
    replaceAll_eq_intercalate (toList_ne_nil hold), List.map_map]
  simp [Function.comp_def]

/-- The pieces with the separator between them are the text. An empty separator cuts at every cluster. -/
theorem intercalate_pieces (text sep : String) : sep.intercalate (pieces text sep) = text := by
  by_cases hsep : sep = ""
  · rw [pieces, if_pos hsep, hsep, ← String.toList_inj, String.toList_intercalate]
    have hjoin := congrArg String.toList (join_clusters text)
    rw [String.toList_join] at hjoin
    rw [← hjoin, String.toList_empty, nil_intercalate, List.flatMap_def]
  · rw [intercalate_pieces_of_ne hsep, replaceAll_self (toList_ne_nil hsep), String.ofList_toList]

end Text

/-! ## Calls -/

namespace TextFn

open Text (pieces clusters)

/-- Cutting a string never fails. -/
theorem parts_eq (text sep : String) :
    parts (.string text) (.string sep) = .ok (.vector ((pieces text sep).map .string)) := by
  change (if sep = "" then Except.ok _ else .ok _) = _
  by_cases hsep : sep = ""
  · rw [if_pos hsep, pieces, if_pos hsep]
  · rw [if_neg hsep, Text.pieces_of_ne hsep, List.map_map]
    rfl

theorem renderPlain_string (s : String) : (Value.string s).renderPlain = s :=
  String.ofList_toList

/-- Strings are joined as they are, without quotes. -/
theorem joinedWith_strings (sep : String) (ps : List String) :
    joinedWith (.string sep) (.vector (ps.map .string)) = .ok (.string (sep.intercalate ps)) := by
  have hplain : (ps.map Value.string).map Value.renderPlain = ps := by
    simp [Function.comp_def, renderPlain_string]
  change Except.ok (Value.string (sep.intercalate ((ps.map Value.string).map Value.renderPlain))) = _
  rw [hplain]

/-- Replacing joins the pieces with the new text. -/
theorem replaced_eq {old : String} (hold : old ≠ "") (text new : String) :
    replaced (.string text) (.string old) (.string new) =
      .ok (.string (new.intercalate (pieces text old))) := by
  rw [Text.intercalate_pieces_of_ne hold]
  rfl

/-- The clusters of a text between two places, if they are in order and lie in the text. -/
def between (text : String) (i j : Nat) : Checked Value :=
  if i ≤ j ∧ j ≤ (clusters text).length then
    .ok (.string (String.join (((clusters text).take j).drop i)))
  else .error (.type (.substring i j (clusters text).length))

/-- A negative index counts as zero. -/
theorem asIndex_of_asInt {v : Value} {i : Int64} (hv : v.asInt "subs" = .ok i) :
    v.asIndex "subs" = .ok i.toInt.toNat := by
  rw [Value.asIndex, hv]
  rfl

theorem part_some (text : String) {v w : Value} {i j : Int64} (hv : v.asInt "subs" = .ok i)
    (hw : w.asInt "subs" = .ok j) :
    part (.string text) v (some w) = between text i.toInt.toNat j.toInt.toNat := by
  have hlast : (some w).mapM (·.asIndex "subs") = Except.ok (some j.toInt.toNat) := by
    rw [Option.mapM_some, asIndex_of_asInt hw]
    rfl
  simp only [part, Value.asString, asIndex_of_asInt hv, hlast]
  rfl

theorem part_none (text : String) {v : Value} {i : Int64} (hv : v.asInt "subs" = .ok i) :
    part (.string text) v none = between text i.toInt.toNat (clusters text).length := by
  simp only [part, Value.asString, asIndex_of_asInt hv]
  rfl

/-- A part between two places of the text, the second of which is not before the first. -/
theorem between_eq_ok {text : String} {i j : Nat} (hij : i ≤ j) (hj : j ≤ (clusters text).length) :
    between text i j = .ok (.string (String.join (((clusters text).take j).drop i))) :=
  if_pos ⟨hij, hj⟩

/-- Places that are in the wrong order or beyond the end of the text. -/
theorem between_eq_error {text : String} {i j : Nat} (h : j < i ∨ (clusters text).length < j) :
    between text i j = .error (.type (.substring i j (clusters text).length)) :=
  if_neg (by omega)

end TextFn

open TextFn
open Text (clusters pieces)

/-- The function that programs call. -/
theorem callAt_split (h : Host) (n : Nat) (text sep : String) (s : RunState) :
    callAt h (n + 1) (.builtin (.text .split)) [.string text, .string sep] s =
      (.ok (.vector ((pieces text sep).map .string)), s) :=
  callAt_of_act_ok rfl (parts_eq text sep) h n s

theorem callAt_join (h : Host) (n : Nat) (sep : String) (ps : List String) (s : RunState) :
    callAt h (n + 1) (.builtin (.text .join)) [.string sep, .vector (ps.map .string)] s =
      (.ok (.string (sep.intercalate ps)), s) :=
  callAt_of_act_ok rfl (joinedWith_strings sep ps) h n s

theorem callAt_replace (h : Host) (n : Nat) {old : String} (hold : old ≠ "") (text new : String) (s : RunState) :
    callAt h (n + 1) (.builtin (.text .replace)) [.string text, .string old, .string new] s =
      (.ok (.string (new.intercalate (pieces text old))), s) :=
  callAt_of_act_ok rfl (replaced_eq hold text new) h n s

/-- A part with a beginning and an end. -/
theorem callAt_subs_between (h : Host) (n : Nat) (text : String) {v w : Value} {i j : Int64}
    (hv : v.asInt "subs" = .ok i) (hw : w.asInt "subs" = .ok j) :
    callAt h (n + 1) (.builtin (.text .subs)) [.string text, v, w] =
      .ofChecked (between text i.toInt.toNat j.toInt.toNat) := by
  rw [← part_some text hv hw]
  exact callAt_of_act rfl h n

/-- A part with a beginning goes on to the end of the text. -/
theorem callAt_subs_from (h : Host) (n : Nat) (text : String) {v : Value} {i : Int64}
    (hv : v.asInt "subs" = .ok i) :
    callAt h (n + 1) (.builtin (.text .subs)) [.string text, v] =
      .ofChecked (between text i.toInt.toNat (clusters text).length) := by
  rw [← part_none text hv]
  exact callAt_of_act rfl h n

theorem concatenated_strings (a b : String) : concatenated [.string a, .string b] = .string (a ++ b) := by
  change Value.string (String.ofList (a.toList ++ (b.toList ++ []))) = _
  rw [List.append_nil, String.ofList_append, String.ofList_toList, String.ofList_toList]

/-- For every text:

* what `split` makes of it, `join` with the same separator puts together again, also if the separator is empty.
  If it is not, no part holds it; `replace` gives what `join` makes of the parts with the new text between them,
  and the text itself if the new text is the old one;
* its two parts at any place from 0 to its length, put one after the other, are the text;
* `subs` fails exactly if the first place lies behind the last one, or the last one behind the end of the text,
  where negative places count as zero. -/
theorem cut_texts_join_to_whole (h : Host) (n : Nat) (s : RunState) (text : String) :
    (∀ sep : String, ∃ parts : List String,
      callAt h (n + 1) (.builtin (.text .split)) [.string text, .string sep] s =
        (.ok (.vector (parts.map .string)), s) ∧
      callAt h (n + 1) (.builtin (.text .join)) [.string sep, .vector (parts.map .string)] s =
        (.ok (.string text), s) ∧
      (sep ≠ "" → (∀ p ∈ parts, ¬ sep.toList <:+: p.toList) ∧
        callAt h (n + 1) (.builtin (.text .replace)) [.string text, .string sep, .string sep] s =
          (.ok (.string text), s) ∧
        ∀ new : String, ∃ out : String,
          callAt h (n + 1) (.builtin (.text .join)) [.string new, .vector (parts.map .string)] s =
            (.ok (.string out), s) ∧
          callAt h (n + 1) (.builtin (.text .replace)) [.string text, .string sep, .string new] s =
            (.ok (.string out), s))) ∧
    callAt h (n + 1) (.builtin (.sequence .count)) [.string text] s =
      (.ok (.ofNat (clusters text).length), s) ∧
    (∀ (v : Value) (i : Int64), v.asInt "subs" = .ok i → 0 ≤ i.toInt → i.toInt ≤ (clusters text).length →
      ∃ a b : String,
        callAt h (n + 1) (.builtin (.text .subs)) [.string text, .number (.int 0), v] s =
          (.ok (.string a), s) ∧
        callAt h (n + 1) (.builtin (.text .subs)) [.string text, v] s = (.ok (.string b), s) ∧
        callAt h (n + 1) (.builtin (.text .str)) [.string a, .string b] s = (.ok (.string text), s)) ∧
    (∀ (v w : Value) (i j : Int64), v.asInt "subs" = .ok i → w.asInt "subs" = .ok j →
      (j.toInt.toNat < i.toInt.toNat ∨ (clusters text).length < j.toInt.toNat →
        callAt h (n + 1) (.builtin (.text .subs)) [.string text, v, w] s =
          (.error (.error (.type (.substring i.toInt.toNat j.toInt.toNat (clusters text).length))), s)) ∧
      (i.toInt.toNat ≤ j.toInt.toNat → j.toInt.toNat ≤ (clusters text).length → ∃ p : String,
        callAt h (n + 1) (.builtin (.text .subs)) [.string text, v, w] s = (.ok (.string p), s))) ∧
    ∀ (v : Value) (i : Int64), v.asInt "subs" = .ok i →
      ((clusters text).length < i.toInt.toNat →
        callAt h (n + 1) (.builtin (.text .subs)) [.string text, v] s =
          (.error (.error (.type (.substring i.toInt.toNat (clusters text).length (clusters text).length))), s)) ∧
      (i.toInt.toNat ≤ (clusters text).length → ∃ p : String,
        callAt h (n + 1) (.builtin (.text .subs)) [.string text, v] s = (.ok (.string p), s)) := by
  refine ⟨fun sep => ⟨pieces text sep, callAt_split h n text sep s, ?_, fun hsep => ⟨?_, ?_, ?_⟩⟩,
    callAt_of_act_ok rfl rfl h n s, ?_, ?_, ?_⟩
  · rw [callAt_join, Text.intercalate_pieces]
  · intro p hp
    rw [Text.pieces_of_ne hsep, List.mem_map] at hp
    obtain ⟨cs, hcs, rfl⟩ := hp
    rw [String.toList_ofList]
    exact Text.not_infix_of_mem_splitAt (Text.toList_ne_nil hsep) hcs
  · rw [callAt_replace h n hsep, Text.intercalate_pieces]
  · intro new
    exact ⟨_, callAt_join h n new _ s, callAt_replace h n hsep text new s⟩
  · intro v i hv hnonneg hle
    have hzero : (Value.number (.int 0)).asInt "subs" = .ok 0 := rfl
    have hstart : (0 : Int64).toInt.toNat = 0 := rfl
    have hi : i.toInt.toNat ≤ (clusters text).length := by omega
    refine ⟨String.join ((clusters text).take i.toInt.toNat), String.join ((clusters text).drop i.toInt.toNat),
      ?_, ?_, ?_⟩
    · rw [callAt_subs_between h n text hzero hv, hstart, between_eq_ok (Nat.zero_le _) hi]
      rfl
    · rw [callAt_subs_from h n text hv, between_eq_ok hi le_rfl, List.take_length]
      rfl
    · have hstr : concatenated [.string (String.join ((clusters text).take i.toInt.toNat)),
          .string (String.join ((clusters text).drop i.toInt.toNat))] = .string text := by
        rw [concatenated_strings, ← String.join_append, List.take_append_drop, Text.join_clusters]
      exact callAt_of_act_ok rfl (congrArg Except.ok hstr) h n s
  · intro v w i j hv hw
    rw [callAt_subs_between h n text hv hw]
    refine ⟨fun hout => ?_, fun hij hj => ?_⟩
    · rw [between_eq_error hout]
      rfl
    · exact ⟨_, by rw [between_eq_ok hij hj]; rfl⟩
  · intro v i hv
    rw [callAt_subs_from h n text hv]
    refine ⟨fun hout => ?_, fun hi => ?_⟩
    · rw [between_eq_error (.inl hout)]
      rfl
    · exact ⟨_, by rw [between_eq_ok hi le_rfl]; rfl⟩

/-- The text `aaab` with the separator `aa`, which overlaps itself, cut at the second place and at a place behind
its end. -/
theorem cut_texts_join_to_whole_of_overlap :
    ∃ (h : Host) (s : RunState) (parts : List String) (out a b : String),
      callAt h 1 (.builtin (.text .split)) [.string "aaab", .string "aa"] s =
        (.ok (.vector (parts.map .string)), s) ∧
      parts = ["", "ab"] ∧
      callAt h 1 (.builtin (.text .join)) [.string "aa", .vector (parts.map .string)] s =
        (.ok (.string "aaab"), s) ∧
      callAt h 1 (.builtin (.text .join)) [.string "-", .vector (parts.map .string)] s = (.ok (.string out), s) ∧
      callAt h 1 (.builtin (.text .replace)) [.string "aaab", .string "aa", .string "-"] s =
        (.ok (.string out), s) ∧
      callAt h 1 (.builtin (.text .subs)) [.string "aaab", .number (.int 0), .number (.int 2)] s =
        (.ok (.string a), s) ∧
      callAt h 1 (.builtin (.text .subs)) [.string "aaab", .number (.int 2)] s = (.ok (.string b), s) ∧
      callAt h 1 (.builtin (.text .str)) [.string a, .string b] s = (.ok (.string "aaab"), s) ∧
      callAt h 1 (.builtin (.text .subs)) [.string "aaab", .number (.int (-1)), .number (.int 5)] s =
        (.error (.error (.type (.substring 0 5 4))), s) := by
  let h : Host := .bare
  let s : RunState := .fresh
  obtain ⟨hsplit, -, hparts, hfail, -⟩ := cut_texts_join_to_whole h 0 s "aaab"
  obtain ⟨parts, hs, hj, hsep⟩ := hsplit "aa"
  obtain ⟨-, -, hreplace⟩ := hsep (by decide)
  obtain ⟨out, hjoin, hout⟩ := hreplace "-"
  have hlength : (clusters "aaab").length = 4 := by decide +kernel
  obtain ⟨a, b, ha, hb, hab⟩ := hparts (.number (.int 2)) 2 rfl (by decide) (by rw [hlength]; decide)
  have hbehind := (hfail (.number (.int (-1))) (.number (.int 5)) (-1) 5 rfl rfl).1
    (.inr (by rw [hlength]; decide))
  rw [hlength] at hbehind
  refine ⟨h, s, parts, out, a, b, hs, ?_, hj, hjoin, hout, ha, hb, hab, hbehind⟩
  have hpieces : pieces "aaab" "aa" = ["", "ab"] := by decide +kernel
  have hmap : parts.map Value.string = (pieces "aaab" "aa").map .string := by
    simpa [callAt_split] using hs.symm
  rw [← hpieces]
  exact (List.map_injective_iff.2 fun _ _ h => Value.string.inj h) hmap

end ToolLisp
