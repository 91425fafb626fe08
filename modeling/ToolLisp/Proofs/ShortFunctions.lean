import ToolLisp.Proofs.Grammar

/-!
# Short function literals

A short function literal means a `fn` form with the parameters `%1` to `%n`, where `n` is the highest number
that a symbol of its body counts as. Which symbols count is a matter of reading a number behind the `%`, and the
same number has many spellings: `%3`, `%03` and `%+3` all count as the third argument (`Form.Counts`). The
parameter has only one of them, `%3`.

So a literal means what its notation says exactly if each symbol that counts has the spelling of a parameter, or
is `%` by itself. With any other spelling, the `fn` form has parameters that nobody asked for, and the symbol is
none of them (`short_functions_expand`).
-/

namespace ToolLisp

/-! ## Spellings of small numbers -/

namespace Decimal

theorem singleton_eq_toDigits {c : Char} (hc : c.isDigit = true) : [c] = Nat.toDigits 10 (ofDigits [c]) := by
  obtain ⟨hlow, hhigh⟩ := Char.isDigit_iff_toNat.1 hc
  have hvalue : ofDigits [c] = c.toNat - '0'.toNat := by simp [ofDigits]
  have hten : ∀ d < 10, [Char.ofNat ('0'.toNat + d)] = Nat.toDigits 10 d := by decide
  have hzero : '0'.toNat = 48 := rfl
  have hnine : '9'.toNat = 57 := rfl
  rw [hvalue, ← hten _ (by omega), Nat.add_sub_of_le hlow, Char.ofNat_toNat]

/-- Only zeros spell zero. -/
theorem eq_zeros_of_ofDigits {w : List Char} (hw : ∀ c ∈ w, c.isDigit = true) (hzero : ofDigits w = 0) :
    w = zeros w.length := by
  induction w using List.reverseRecOn with
  | nil => rfl
  | append_singleton w c ih =>
    rw [ofDigits_append] at hzero
    have hfront : ofDigits w = 0 := by
      simp only [List.length_singleton, pow_one] at hzero
      omega
    have hlast : ofDigits [c] = 0 := by omega
    have hc : [c] = ['0'] := by
      rw [singleton_eq_toDigits (hw c (by simp)), hlast]
      rfl
    have hinit := ih (fun d hd => hw d (by simp [hd])) hfront
    rw [List.length_append, List.length_singleton, zeros, List.replicate_succ', ← zeros, ← hinit, hc]

/-- A number with one digit is spelled by its digit with any number of zeros in front. -/
theorem readNat?_eq_some_iff {w : List Char} {k : ℕ} (hk : k ≤ 9) :
    readNat? w = some k ↔ ∃ z, w = zeros z ++ Nat.toDigits 10 k := by
  constructor
  · intro h
    rw [readNat?, Option.ite_none_right_eq_some] at h
    obtain ⟨⟨hne, hdigits⟩, hvalue⟩ := h
    have hdigits := List.all_eq_true.1 hdigits
    obtain ⟨w, c, rfl⟩ := (List.eq_nil_or_concat' w).resolve_left hne
    have hvalue : ofDigits (w ++ [c]) = k := Option.some.inj hvalue
    rw [ofDigits_append, List.length_singleton, pow_one] at hvalue
    -- the number is below ten, so what stands before its last digit is worth nothing
    have hfront : ofDigits w = 0 := by omega
    have hlast : ofDigits [c] = k := by omega
    have hzeros := eq_zeros_of_ofDigits (fun d hd => hdigits d (by simp [hd])) hfront
    refine ⟨w.length, ?_⟩
    rw [← hzeros, ← hlast, ← singleton_eq_toDigits (hdigits c (by simp))]
  · rintro ⟨z, rfl⟩
    have hdigits : ∀ c ∈ zeros z ++ Nat.toDigits 10 k, c.isDigit = true := by
      intro c hc
      rcases List.mem_append.1 hc with hc | hc
      · exact isDigit_zeros z c hc
      · exact isDigit_toDigits k c hc
    rw [readNat?, if_pos ⟨by simp, List.all_eq_true.2 hdigits⟩, ofDigits_append, ofDigits_zeros,
      ofDigits_toDigits, zero_mul, zero_add]

end Decimal

namespace Form

open Decimal (zeros)

/-! ## Symbols that count as placeholders -/

/-- The symbol counts as the placeholder of an argument. The `%` by itself counts as that of the first one.
Otherwise its number stands behind the `%`, with a plus sign and any number of zeros allowed between. -/
inductive Counts : String → ℕ → Prop
  | bare : Counts "%" 1
  | numbered {k : ℕ} (sign : String) (z : ℕ) : sign = "" ∨ sign = "+" → 1 ≤ k → k ≤ 9 →
    Counts ("%" ++ sign ++ String.ofList (List.replicate z '0') ++ toString k) k

/-- The symbol is a placeholder as the notation has it. -/
inductive IsPlaceholder : String → ℕ → Prop
  | bare : IsPlaceholder "%" 1
  | numbered {k : ℕ} : 1 ≤ k → k ≤ 9 → IsPlaceholder ("%" ++ toString k) k

/-- A placeholder counts as its number. -/
theorem IsPlaceholder.counts {name : String} {k : ℕ} (h : IsPlaceholder name k) : Counts name k := by
  cases h with
  | bare => exact .bare
  | numbered hpos hle => exact .numbered "" 0 (.inl rfl) hpos hle

/-- A sign and zeros may stand before the digit. -/
theorem placeholderIndex?_eq_some_iff {w : List Char} {k : ℕ} (hk : k ≤ 9) :
    placeholderIndex? w = some k ↔
      ∃ sign z, (sign = [] ∨ sign = ['+']) ∧ w = sign ++ (zeros z ++ Nat.toDigits 10 k) := by
  have hdigit : ∀ z, ∀ c ∈ zeros z ++ Nat.toDigits 10 k, c ≠ '+' := by
    rintro z c hc rfl
    rcases List.mem_append.1 hc with hc | hc
    · cases Decimal.isDigit_zeros z _ hc
    · cases Decimal.isDigit_toDigits k _ hc
  unfold placeholderIndex?
  split
  · next w =>
    rw [Decimal.readNat?_eq_some_iff hk]
    constructor
    · rintro ⟨z, rfl⟩
      exact ⟨['+'], z, .inr rfl, rfl⟩
    · rintro ⟨sign, z, rfl | rfl, hw⟩
      · exact absurd rfl (hdigit z '+' (by rw [← List.nil_append (zeros z ++ _), ← hw]; simp))
      · exact ⟨z, (List.cons.inj hw).2⟩
  · next hplus =>
    rw [Decimal.readNat?_eq_some_iff hk]
    constructor
    · rintro ⟨z, rfl⟩
      exact ⟨[], z, .inl rfl, rfl⟩
    · rintro ⟨sign, z, rfl | rfl, hw⟩
      · exact ⟨z, hw⟩
      · exact absurd hw (hplus _)

theorem toList_numbered (sign : String) (z k : ℕ) :
    ("%" ++ sign ++ String.ofList (List.replicate z '0') ++ toString k).toList =
      '%' :: (sign.toList ++ (zeros z ++ Nat.toDigits 10 k)) := by
  simp [String.toList_append, zeros]

/-- What is behind the sign of a placeholder is read as a number from one to nine. -/
theorem placeholder_of_toList {name : String} {w : List Char} {k : ℕ} (hname : name.toList = '%' :: w)
    (hw : placeholderIndex? w = some k) (hpos : 1 ≤ k) (hle : k ≤ 9) : placeholder name = k := by
  cases w with
  | nil => cases hw
  | cons c w =>
    rw [placeholder, hname]
    simp only [hw]
    exact if_pos ⟨hpos, hle⟩

/-- The number of a symbol is what it counts as. -/
theorem counts_iff {name : String} {k : ℕ} : Counts name k ↔ placeholder name = k ∧ k ≠ 0 := by
  constructor
  · intro h
    cases h with
    | bare => exact ⟨rfl, one_ne_zero⟩
    | numbered sign z hsign hpos hle =>
      have hindex : placeholderIndex? (sign.toList ++ (zeros z ++ Nat.toDigits 10 k)) = some k := by
        refine (placeholderIndex?_eq_some_iff hle).2 ⟨sign.toList, z, ?_, rfl⟩
        rcases hsign with rfl | rfl
        · exact .inl rfl
        · exact .inr rfl
      exact ⟨placeholder_of_toList (toList_numbered sign z k) hindex hpos hle, by omega⟩
  · rintro ⟨h, hne⟩
    unfold placeholder at h
    split at h
    · next hname =>
      obtain rfl : name = "%" := String.toList_inj.1 hname
      subst h
      exact .bare
    · next w hbare hname =>
      split at h
      · next n hn =>
        split at h
        · next hbounds =>
          subst h
          obtain ⟨sign, z, hsign, rfl⟩ := (placeholderIndex?_eq_some_iff hbounds.2).1 hn
          have heq : name = "%" ++ String.ofList sign ++ String.ofList (List.replicate z '0') ++ toString n := by
            rw [← String.toList_inj, toList_numbered, String.toList_ofList, hname]
          rw [heq]
          refine .numbered _ z ?_ hbounds.1 hbounds.2
          rcases hsign with rfl | rfl
          · exact .inl rfl
          · exact .inr rfl
        · exact absurd h.symm hne
      · exact absurd h.symm hne
    · exact absurd h.symm hne

/-! ## Parts of forms -/

/-- The forms in the brackets of a form. -/
def parts : Form → List Form
  | .list items | .vector items => items
  | .map entries => flatten entries
  | _ => []

/-- Induction on forms, in which all brackets are one case. -/
@[elab_as_elim]
theorem partsInduction {P : Form → Prop} (step : ∀ f : Form, (∀ g ∈ f.parts, P g) → P f) (f : Form) : P f := by
  refine @Form.rec P (fun items => ∀ g ∈ items, P g) (fun entries => ∀ g ∈ flatten entries, P g)
    (fun e => P e.1 ∧ P e.2) (step _ nofun) (fun _ => step _ nofun) (fun _ => step _ nofun)
    (fun _ => step _ nofun) (fun _ => step _ nofun) (fun _ => step _ nofun) (fun _ _ => step _ nofun)
    (fun items => step (.list items)) (fun items => step (.vector items)) (fun entries => step (.map entries))
    nofun ?_ nofun ?_ ?_ f
  · exact fun g rest hg hrest => List.forall_mem_cons.2 ⟨hg, hrest⟩
  · exact fun e rest he hrest => List.forall_mem_cons.2 ⟨he.1, List.forall_mem_cons.2 ⟨he.2, hrest⟩⟩
  · exact fun k v hk hv => ⟨hk, hv⟩

/-- A form stands in another one, at any depth. -/
inductive PartOf (f : Form) : Form → Prop
  | refl : PartOf f f
  | inside {g h : Form} : g ∈ h.parts → PartOf f g → PartOf f h

/-- A symbol stands in one of several forms, at any depth. -/
def OccursIn (name : String) (fs : List Form) : Prop :=
  ∃ f ∈ fs, PartOf (.symbol name) f

theorem eq_symbol {name : String} {f : Form} (hf : f.symbol? = some name) : f = .symbol name := by
  cases f <;> cases hf
  rfl

theorem partOf_symbol {name name' : String} : PartOf (.symbol name) (.symbol name') ↔ name = name' := by
  constructor
  · intro h
    cases h with
    | refl => rfl
    | inside hg _ => cases hg
  · rintro rfl
    exact .refl

/-- A symbol in a form that is not itself a symbol stands in the brackets of the form. -/
theorem partOf_of_not_symbol {name : String} {f : Form} (hf : f.symbol? = none) :
    PartOf (.symbol name) f ↔ OccursIn name f.parts := by
  constructor
  · intro h
    cases h with
    | refl => cases hf
    | inside hg h => exact ⟨_, hg, h⟩
  · rintro ⟨g, hg, h⟩
    exact .inside hg h

/-! ## The highest placeholder -/

/-- The greatest number with a property, or zero if no number has it. -/
structure Highest (P : ℕ → Prop) (n : ℕ) : Prop where
  le : ∀ k, P k → k ≤ n
  reached : n ≠ 0 → P n

namespace Highest

variable {P Q : ℕ → Prop} {m n : ℕ}

/-- The highest of two ranges is the greater one. -/
theorem or (hm : Highest P m) (hn : Highest Q n) : Highest (fun k => P k ∨ Q k) (max m n) where
  le k := by
    rintro (hk | hk)
    · exact (hm.le k hk).trans (Nat.le_max_left m n)
    · exact (hn.le k hk).trans (Nat.le_max_right m n)
  reached hne := by
    rcases Nat.le_total m n with hle | hle
    · rw [Nat.max_eq_right hle] at hne ⊢
      exact .inr (hn.reached hne)
    · rw [Nat.max_eq_left hle] at hne ⊢
      exact .inl (hm.reached hne)

theorem congr (hn : Highest P n) (h : ∀ k, P k ↔ Q k) : Highest Q n where
  le k hk := hn.le k ((h k).2 hk)
  reached hne := (h n).1 (hn.reached hne)

end Highest

/-- The highest placeholder of several forms, if that of each of them is known. -/
theorem maxPlaceholders_highest {fs : List Form}
    (h : ∀ f ∈ fs, Highest (fun k => ∃ name, PartOf (.symbol name) f ∧ Counts name k) f.maxPlaceholder) :
    Highest (fun k => ∃ name, OccursIn name fs ∧ Counts name k) (maxPlaceholders fs) := by
  induction fs with
  | nil =>
    refine ⟨?_, fun hne => absurd rfl hne⟩
    rintro k ⟨name, ⟨f, hf, -⟩, -⟩
    cases hf
  | cons f rest ih =>
    obtain ⟨hf, hrest⟩ := List.forall_mem_cons.1 h
    refine (hf.or (ih hrest)).congr fun k => ?_
    simp only [OccursIn, List.exists_mem_cons_iff]
    constructor
    · rintro (⟨name, hname, hk⟩ | ⟨name, hname, hk⟩)
      · exact ⟨name, .inl hname, hk⟩
      · exact ⟨name, .inr hname, hk⟩
    · rintro ⟨name, hname | hname, hk⟩
      · exact .inl ⟨name, hname, hk⟩
      · exact .inr ⟨name, hname, hk⟩

theorem maxPlaceholderPairs_eq (entries : List (Form × Form)) :
    maxPlaceholderPairs entries = maxPlaceholders (flatten entries) := by
  induction entries with
  | nil => rfl
  | cons e rest ih =>
    rw [maxPlaceholderPairs, ih, Nat.max_assoc]
    rfl

/-- A collection has the placeholders of its parts. -/
theorem maxPlaceholder_of_not_symbol {f : Form} (hf : f.symbol? = none) :
    f.maxPlaceholder = maxPlaceholders f.parts := by
  cases f with
  | symbol name => cases hf
  | map entries => exact maxPlaceholderPairs_eq entries
  | _ => rfl

/-- By induction on the form: a symbol counts by itself, and a collection by its parts. -/
theorem maxPlaceholder_highest (f : Form) :
    Highest (fun k => ∃ name, PartOf (.symbol name) f ∧ Counts name k) f.maxPlaceholder := by
  induction f using partsInduction with
  | step f ih =>
    cases hf : f.symbol? with
    | none =>
      rw [maxPlaceholder_of_not_symbol hf]
      exact (maxPlaceholders_highest ih).congr fun k => by simp only [partOf_of_not_symbol hf]
    | some name =>
      obtain rfl : f = .symbol name := eq_symbol hf
      simp only [partOf_symbol, exists_eq_left, counts_iff]
      refine ⟨?_, fun hne => ⟨rfl, hne⟩⟩
      rintro k ⟨rfl, -⟩
      exact le_refl _

/-! ## Renamed placeholders -/

/-- The form is no bracket. -/
def IsAtom : Form → Prop
  | .list _ | .vector _ | .map _ => False
  | _ => True

/-- The second form has `%1` where the first one has the symbol `%`, and is the same otherwise. -/
inductive Renamed : Form → Form → Prop
  | bare : Renamed (.symbol "%") (.symbol "%1")
  | atom {f : Form} : f.IsAtom → f ≠ .symbol "%" → Renamed f f
  | list {items items' : List Form} : List.Forall₂ Renamed items items' → Renamed (.list items) (.list items')
  | vector {items items' : List Form} :
    List.Forall₂ Renamed items items' → Renamed (.vector items) (.vector items')
  | map {entries entries' : List (Form × Form)} :
    List.Forall₂ Renamed (flatten entries) (flatten entries') → Renamed (.map entries) (.map entries')

theorem numberPlaceholdersAll_eq (fs : List Form) : numberPlaceholdersAll fs = fs.map numberPlaceholders := by
  induction fs with
  | nil => rfl
  | cons f rest ih => rw [numberPlaceholdersAll, ih, List.map_cons]

theorem flatten_numberPlaceholdersPairs (entries : List (Form × Form)) :
    flatten (numberPlaceholdersPairs entries) = (flatten entries).map numberPlaceholders := by
  induction entries with
  | nil => rfl
  | cons e rest ih => exact congrArg (fun fs => e.1.numberPlaceholders :: e.2.numberPlaceholders :: fs) ih

/-- Renaming goes through the parts of a form. -/
theorem parts_numberPlaceholders (f : Form) : f.numberPlaceholders.parts = f.parts.map numberPlaceholders := by
  cases f with
  | list items | vector items => exact numberPlaceholdersAll_eq items
  | map entries => exact flatten_numberPlaceholdersPairs entries
  | _ => rfl

theorem forall₂_numberPlaceholders {fs : List Form} (h : ∀ f ∈ fs, Renamed f f.numberPlaceholders) :
    List.Forall₂ Renamed fs (fs.map numberPlaceholders) := by
  rw [List.forall₂_map_right_iff, List.forall₂_same]
  exact h

/-- Renaming changes nothing but one spelling. By induction on the form. -/
theorem renamed_numberPlaceholders (f : Form) : Renamed f f.numberPlaceholders := by
  induction f using partsInduction with
  | step f ih =>
    have hparts := forall₂_numberPlaceholders ih
    rw [← parts_numberPlaceholders] at hparts
    cases f with
    | symbol name =>
      by_cases hname : name = "%"
      · rw [numberPlaceholders, if_pos hname, hname]
        exact .bare
      · rw [numberPlaceholders, if_neg hname]
        exact .atom trivial (by simpa using hname)
    | list items => exact .list hparts
    | vector items => exact .vector hparts
    | map entries => exact .map hparts
    | _ => exact .atom trivial nofun

/-- What becomes of a symbol. -/
def renamed (name : String) : String :=
  if name = "%" then "%1" else name

/-- The symbols after renaming are the renamed ones, if this is so for each form. -/
theorem occursIn_map_numberPlaceholders {name : String} {fs : List Form}
    (h : ∀ f ∈ fs, PartOf (.symbol name) f.numberPlaceholders ↔
      ∃ name', PartOf (.symbol name') f ∧ name = renamed name') :
    OccursIn name (fs.map numberPlaceholders) ↔ ∃ name', OccursIn name' fs ∧ name = renamed name' := by
  constructor
  · rintro ⟨g, hg, hname⟩
    obtain ⟨f, hf, rfl⟩ := List.mem_map.1 hg
    obtain ⟨name', hname', heq⟩ := (h f hf).1 hname
    exact ⟨name', ⟨f, hf, hname'⟩, heq⟩
  · rintro ⟨name', ⟨f, hf, hname'⟩, heq⟩
    exact ⟨f.numberPlaceholders, List.mem_map_of_mem hf, (h f hf).2 ⟨name', hname', heq⟩⟩

/-- The symbols of a form with its placeholders renamed are those of the form, renamed. -/
theorem partOf_numberPlaceholders {name : String} (f : Form) :
    PartOf (.symbol name) f.numberPlaceholders ↔ ∃ name', PartOf (.symbol name') f ∧ name = renamed name' := by
  induction f using partsInduction with
  | step f ih =>
    cases hf : f.symbol? with
    | none =>
      have hf' : f.numberPlaceholders.symbol? = none := by
        cases f with
        | symbol name => cases hf
        | _ => rfl
      simp only [partOf_of_not_symbol hf, partOf_of_not_symbol hf', parts_numberPlaceholders]
      exact occursIn_map_numberPlaceholders ih
    | some name' =>
      obtain rfl : f = .symbol name' := eq_symbol hf
      rw [numberPlaceholders, partOf_symbol]
      simp only [partOf_symbol, exists_eq_left]
      rfl

theorem occursIn_numberPlaceholders {name : String} {fs : List Form} :
    OccursIn name (fs.map numberPlaceholders) ↔ ∃ name', OccursIn name' fs ∧ name = renamed name' :=
  occursIn_map_numberPlaceholders fun f _ => partOf_numberPlaceholders f

/-! ## What a literal means -/

/-- The parameters `%1` to `%n`. -/
def parameters (n : ℕ) : List Form :=
  (List.range n).map fun i => .symbol ("%" ++ toString (i + 1))

/-- A `fn` form with the parameters `%1` to `%n`. -/
def numbered (n : ℕ) (body : List Form) : Form :=
  .list [.symbol "fn", .vector (parameters n), .list body]

/-- A literal is a function of as many parameters as its highest placeholder. -/
theorem ofShortFunction_eq (body : List Form) :
    ofShortFunction body = numbered (maxPlaceholders body) (body.map numberPlaceholders) := by
  have hparameter (i : ℕ) : parameter i = .symbol ("%" ++ toString i) := by
    have hname : String.ofList ('%' :: Nat.toDigits 10 i) = "%" ++ toString i := by
      rw [← String.toList_inj]
      simp [String.toList_append]
    rw [parameter, hname]
  rw [ofShortFunction, numbered, parameters, numberPlaceholdersAll_eq]
  simp only [hparameter]

/-- The parameters are numbered from one on. -/
theorem symbol_mem_parameters {name : String} {n : ℕ} :
    .symbol name ∈ parameters n ↔ ∃ k, 1 ≤ k ∧ k ≤ n ∧ name = "%" ++ toString k := by
  simp only [parameters, List.mem_map, List.mem_range, symbol.injEq]
  constructor
  · rintro ⟨i, hi, rfl⟩
    exact ⟨i + 1, by omega, hi, rfl⟩
  · rintro ⟨k, hpos, hle, rfl⟩
    exact ⟨k - 1, by omega, by rw [Nat.sub_add_cancel hpos]⟩

/-- The parameters and the body can be read off a function. -/
theorem numbered_inj {m n : ℕ} {body body' : List Form} (h : numbered m body = numbered n body') :
    m = n ∧ body = body' := by
  simp only [numbered, list.injEq, List.cons.injEq, vector.injEq, and_true, true_and] at h
  refine ⟨?_, h.2⟩
  have hlength := congrArg List.length h.1
  simpa [parameters] using hlength

theorem Counts.unique {name : String} {k l : ℕ} (hk : Counts name k) (hl : Counts name l) : k = l :=
  (counts_iff.1 hk).1.symm.trans (counts_iff.1 hl).1

theorem Counts.bounds {name : String} {k : ℕ} (h : Counts name k) : 1 ≤ k ∧ k ≤ 9 := by
  cases h with
  | bare => decide
  | numbered _ _ _ hpos hle => exact ⟨hpos, hle⟩

/-- Renaming changes no number of a placeholder. -/
theorem counts_renamed {name : String} {k : ℕ} : Counts (renamed name) k ↔ Counts name k := by
  rw [counts_iff, counts_iff, renamed]
  by_cases hname : name = "%"
  · rw [if_pos hname, hname]
    rfl
  · rw [if_neg hname]

/-- What a literal with this body means, as a `fn` form with `n` parameters and another body. -/
structure Expands (body : List Form) (n : ℕ) (body' : List Form) : Prop where
  renamed : List.Forall₂ Renamed body body'
  highest : Highest (fun k => ∃ name, OccursIn name body ∧ Counts name k) n
  /-- Of the symbols that count as the same argument, the parameter is the one with the plain number. -/
  bound : ∀ name k, OccursIn name body' → Counts name k →
    (.symbol name ∈ parameters n ↔ name = "%" ++ toString k)

/-- The expansion of a literal, with all that is said of it. -/
theorem expands (body : List Form) :
    Expands body (maxPlaceholders body) (body.map numberPlaceholders) := by
  have hhighest := maxPlaceholders_highest fun f (_ : f ∈ body) => maxPlaceholder_highest f
  refine ⟨forall₂_numberPlaceholders fun f _ => renamed_numberPlaceholders f, hhighest, ?_⟩
  intro name k hname hcounts
  have hnine : maxPlaceholders body ≤ 9 := by
    by_cases hzero : maxPlaceholders body = 0
    · omega
    · obtain ⟨_, -, hreached⟩ := hhighest.reached hzero
      exact hreached.bounds.2
  rw [symbol_mem_parameters]
  constructor
  · rintro ⟨l, hpos, hle, rfl⟩
    have hl : Counts ("%" ++ toString l) l := (IsPlaceholder.numbered hpos (hle.trans hnine)).counts
    rw [hcounts.unique hl]
  · intro heq
    obtain ⟨name', hname', rfl⟩ := occursIn_numberPlaceholders.1 hname
    have hle : k ≤ maxPlaceholders body := hhighest.le k ⟨name', hname', counts_renamed.1 hcounts⟩
    exact ⟨k, hcounts.bounds.1, hle, heq⟩

/-- The form is what the notation of a literal with this body says: a `fn` form with as many parameters as the
highest placeholder, in whose body each `%` is `%1`. Each symbol that counts as a placeholder is a parameter. -/
def MeansAsWritten (body : List Form) (f : Form) : Prop :=
  ∃ n body', f = numbered n body' ∧ List.Forall₂ Renamed body body' ∧
    Highest (fun k => ∃ name, OccursIn name body ∧ IsPlaceholder name k) n ∧
    ∀ name k, OccursIn name body' → Counts name k → .symbol name ∈ parameters n

/-- A literal means what its notation says exactly if no symbol in it counts as a placeholder but is none. -/
theorem meansAsWritten_iff (body : List Form) :
    MeansAsWritten body (ofShortFunction body) ↔
      ∀ name k, OccursIn name body → Counts name k → IsPlaceholder name k := by
  have hexpands := expands body
  rw [ofShortFunction_eq]
  constructor
  · rintro ⟨n, body', heq, -, -, hbound⟩ name k hname hcounts
    obtain ⟨rfl, rfl⟩ := numbered_inj heq
    by_cases hbare : name = "%"
    · subst hbare
      rw [hcounts.unique .bare]
      exact .bare
    · -- any other symbol stands in the new body as well, where it is a parameter
      have hkept : renamed name = name := if_neg hbare
      have hname' := occursIn_numberPlaceholders.2 ⟨name, hname, hkept.symm⟩
      rw [(hexpands.bound name k hname' hcounts).1 (hbound name k hname' hcounts)]
      exact .numbered hcounts.bounds.1 hcounts.bounds.2
  · intro hplain
    refine ⟨_, _, rfl, hexpands.renamed, hexpands.highest.congr fun k => ?_, fun name k hname hcounts => ?_⟩
    · constructor
      · rintro ⟨name, hname, hcounts⟩
        exact ⟨name, hname, hplain name k hname hcounts⟩
      · rintro ⟨name, hname, hplaceholder⟩
        exact ⟨name, hname, hplaceholder.counts⟩
    · rw [hexpands.bound name k hname hcounts]
      obtain ⟨name', hname', rfl⟩ := occursIn_numberPlaceholders.1 hname
      cases hplain name' k hname' (counts_renamed.1 hcounts) with
      | bare => rfl
      | numbered hpos hle =>
        have hne : "%" ++ toString k ≠ "%" := by
          intro heq
          have hlist := congrArg String.toList heq
          simp [String.toList_append] at hlist
        exact if_neg hne

end Form

/-! ## Literals in a text -/

namespace Derivation

/-- A derivation stands in another one, at any depth. -/
inductive Within (d : Derivation) : Derivation → Prop
  | refl : Within d d
  | inside {o : Opener} {items : List Derivation} {e e' : Derivation} :
    Node o items e' → e ∈ items → Within d e → Within d e'

theorem nesting_le_nestingAll (counts : Opener → Bool) {d : Derivation} {ds : List Derivation} (hd : d ∈ ds) :
    d.nesting counts ≤ nestingAll counts ds := by
  obtain ⟨before, after, rfl⟩ := List.append_of_mem hd
  rw [nestingAll_append, nestingAll]
  omega

/-- What is within a derivation is not nested more deeply than it. -/
theorem Within.nesting_le (counts : Opener → Bool) {d e : Derivation} (h : Within d e) :
    d.nesting counts ≤ e.nesting counts := by
  induction h with
  | refl => exact le_refl _
  | inside hnode he _ ih =>
    have hitems := nesting_le_nestingAll counts he
    have hnesting := hnode.nesting_eq counts
    omega

/-- What a literal means stands in what is read. That is so because it does not stand in another literal, whose
placeholders would be renamed in it. -/
theorem Within.partOf {body : List Derivation} {d : Derivation} (h : Within (.function body) d)
    (hd : d.nesting (· == .function) ≤ 1) : (function body).form.PartOf d.form := by
  induction h with
  | refl => exact .refl
  | @inside o items e e' hnode he hwithin ih =>
    have hnesting := hnode.nesting_eq (· == .function)
    have hitems := nesting_le_nestingAll (· == .function) he
    have hliteral := hwithin.nesting_le (· == .function)
    rw [nesting] at hliteral
    change _ + 1 ≤ _ at hliteral
    have hparts : e.form ∈ e'.form.parts := by
      have hmem := List.mem_map_of_mem (f := form) he
      cases hnode with
      | list items | vector items =>
        rw [← formAll_eq] at hmem
        exact hmem
      | map entries =>
        rw [← flatten_formPairs] at hmem
        exact hmem
      -- there would be a literal inside a literal
      | function items =>
        change _ = _ + 1 at hnesting
        omega
    exact .inside hparts (ih (by omega))

end Derivation

open Derivation Form

/-- For every text that the reader accepts and every short function literal in it, the forms that are read have
a `fn` form for the literal, with the parameters `%1` to `%n`. The number `n` is the highest one that a symbol of
the body counts as, at any depth, or zero if none does. In the new body each `%` is `%1`, and nothing else has
changed. A symbol in it that counts as a placeholder is a parameter exactly if it is a `%` with the plain number
behind it. So the literal means what its notation says exactly if each symbol of its body that counts as a
placeholder is `%` or has such a number. -/
theorem short_functions_expand (source : String) (forms : List Form) (hread : readForms source = .ok forms) :
    ∃ derivations : List Derivation,
      Tokenizes (.ofText source.toList) (derivations.flatMap tokens) ∧ derivations.map form = forms ∧
      ∀ d ∈ derivations, ∀ body, Within (.function body) d →
        ∃ n body', (function body).form = numbered n body' ∧
          (∃ f ∈ forms, (numbered n body').PartOf f) ∧
          Expands (body.map form) n body' ∧
          (MeansAsWritten (body.map form) (numbered n body') ↔
            ∀ name k, OccursIn name (body.map form) → Counts name k → IsPlaceholder name k) := by
  obtain ⟨ps, p, hscan, hrun⟩ := readForms_eq_ok.1 hread
  obtain ⟨ds, hroom, htokens, rfl⟩ := (Reader.HasRead.empty.run hrun).exists_derivations
  refine ⟨ds, tokenizes_iff.2 ⟨ps, p, hscan, htokens.symm⟩, rfl, fun d hd body hbody => ?_⟩
  have hform : (function body).form = numbered (maxPlaceholders (body.map form))
      ((body.map form).map numberPlaceholders) := by
    rw [form, formAll_eq, ofShortFunction_eq]
  have hpart : (function body).form.PartOf d.form := hbody.partOf (Room.nil_iff.1 hroom d hd).2
  refine ⟨_, _, hform, ⟨d.form, List.mem_map_of_mem hd, hform ▸ hpart⟩, expands _, ?_⟩
  rw [← ofShortFunction_eq]
  exact meansAsWritten_iff _

/-- A literal in a vector, with a placeholder in a vector of its own. -/
theorem short_functions_expand_in_vector :
    ∃ (forms : List Form) (body : List Derivation) (n : ℕ) (body' : List Form),
      readForms "[#(f %2 [%])]" = .ok forms ∧
      body.map form = [.symbol "f", .symbol "%2", .vector [.symbol "%"]] ∧
      (function body).form = numbered n body' ∧
      numbered n body' = numbered 2 [.symbol "f", .symbol "%2", .vector [.symbol "%1"]] ∧
      (∃ f ∈ forms, (numbered n body').PartOf f) ∧ Expands (body.map form) n body' := by
  let body : List Derivation := [.atom (.symbol "f") (.symbol "f") rfl, .atom (.symbol "%2") (.symbol "%2") rfl,
    .vector [.atom (.symbol "%") (.symbol "%") rfl]]
  let forms : List Form := [.vector [numbered 2 [.symbol "f", .symbol "%2", .vector [.symbol "%1"]]]]
  have hread : readForms "[#(f %2 [%])]" = .ok forms := by rfl
  obtain ⟨ds, htokens, -, hliterals⟩ := short_functions_expand "[#(f %2 [%])]" forms hread
  have hds : ds = [.vector [.function body]] := by
    obtain ⟨ps, p, hscan, hps⟩ := tokenizes_iff.1 htokens
    obtain rfl : (scan "[#(f %2 [%])]".toList).tokens = ps := congrArg Scan.tokens hscan
    exact flatMap_tokens_injective (hps.symm.trans rfl)
  obtain ⟨n, body', hform, hpart, hexpands, -⟩ := hliterals (.vector [.function body]) (by simp [hds]) body
    (.inside (.vector _) (by simp) .refl)
  exact ⟨forms, body, n, body', hread, rfl, hform, hform.symm.trans rfl, hpart, hexpands⟩

/-- The text `#(f %03)` is read as a function with three parameters, although it has no placeholder. The symbol
counts as the third one, but it is not a parameter. -/
theorem short_function_leaves_symbol_unbound :
    ∃ (body : List Form) (f : Form), body = [.symbol "f", .symbol "%03"] ∧ f = ofShortFunction body ∧
      readForms "#(f %03)" = .ok [f] ∧ f = numbered 3 body ∧ ¬ MeansAsWritten body f ∧
      (∀ name k, OccursIn name body → ¬ IsPlaceholder name k) ∧ Counts "%03" 3 ∧
      .symbol "%03" ∉ parameters 3 := by
  have hcounts : Counts "%03" 3 := counts_iff.2 ⟨rfl, by decide⟩
  have hunnumbered : ∀ k ≤ 9, "f" ≠ "%" ++ toString k ∧ "%03" ≠ "%" ++ toString k := by decide
  have hnone : ∀ name k, OccursIn name [.symbol "f", .symbol "%03"] → ¬ IsPlaceholder name k := by
    rintro name k ⟨f, hf, hname⟩ hk
    have hsymbol : name = "f" ∨ name = "%03" := by
      rcases List.mem_pair.1 hf with rfl | rfl
      · exact .inl (partOf_symbol.1 hname)
      · exact .inr (partOf_symbol.1 hname)
    cases hk with
    | bare => revert hsymbol; decide
    | numbered _ hle =>
      rcases hsymbol with hsymbol | hsymbol
      · exact (hunnumbered k hle).1 hsymbol.symm
      · exact (hunnumbered k hle).2 hsymbol.symm
  refine ⟨_, _, rfl, rfl, rfl, rfl, ?_, hnone, hcounts, ?_⟩
  · rw [meansAsWritten_iff]
    intro h
    have hin : OccursIn "%03" [.symbol "f", .symbol "%03"] := ⟨.symbol "%03", by simp, .refl⟩
    exact hnone _ _ hin (h _ _ hin hcounts)
  · rw [symbol_mem_parameters]
    rintro ⟨k, -, hle, heq⟩
    exact (hunnumbered k (by omega)).2 heq

end ToolLisp
