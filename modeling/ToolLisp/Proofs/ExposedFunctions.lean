import ToolLisp.Proofs.RangedOperations
import ToolLisp.Proofs.TextCutting

/-!
# Arguments at their places

A signature says how many arguments a builtin function takes, and hands them over one by one. Here the functions
on numbers and texts and the tests are written once more without that help. They read their arguments by place,
from a list of any length, and use operations that fault outside of their range. Most only read some places. The
others compare neighbours, add or divide integers, or slice a text, and guard that by tests of their own.

With a number of arguments that its signature accepts, each of them does what the builtin function does, call for
call, and so it does not fault: the places that are read and the numbers of arguments fit together.
-/

namespace ToolLisp

open FaultM

namespace Exposed

/-! ## Numbers of arguments -/

/-- A function of one argument is called with one argument. -/
theorem exists_of_accepts_one {args : List Value} (h : (Arity.oneOf [] 1).accepts args.length = true) :
    ∃ a, args = [a] :=
  List.length_eq_one_iff.1 (by simpa [Arity.accepts] using h)

theorem exists_of_accepts_two {args : List Value} (h : (Arity.oneOf [] 2).accepts args.length = true) :
    ∃ a b, args = [a, b] :=
  List.length_eq_two.1 (by simpa [Arity.accepts] using h)

theorem exists_of_accepts_three {args : List Value} (h : (Arity.oneOf [] 3).accepts args.length = true) :
    ∃ a b c, args = [a, b, c] :=
  List.length_eq_three.1 (by simpa [Arity.accepts] using h)

/-- The second argument may be left out. -/
theorem exists_of_accepts_oneOrTwo {args : List Value} (h : (Arity.oneOf [1] 2).accepts args.length = true) :
    (∃ a, args = [a]) ∨ ∃ a b, args = [a, b] := by
  have hlength : args.length = 1 ∨ args.length = 2 := by simpa [Arity.accepts] using h
  exact hlength.imp List.length_eq_one_iff.1 List.length_eq_two.1

theorem exists_of_accepts_twoOrThree {args : List Value} (h : (Arity.oneOf [2] 3).accepts args.length = true) :
    (∃ a b, args = [a, b]) ∨ ∃ a b c, args = [a, b, c] := by
  have hlength : args.length = 2 ∨ args.length = 3 := by simpa [Arity.accepts] using h
  exact hlength.imp List.length_eq_two.1 List.length_eq_three.1

/-- Two of three arguments may be left out. -/
theorem exists_of_accepts_oneToThree {args : List Value} (h : (Arity.oneOf [1, 2] 3).accepts args.length = true) :
    (∃ a, args = [a]) ∨ (∃ a b, args = [a, b]) ∨ ∃ a b c, args = [a, b, c] := by
  have hlength : args.length = 1 ∨ args.length = 2 ∨ args.length = 3 := by
    simpa [Arity.accepts, or_assoc] using h
  exact hlength.imp List.length_eq_one_iff.1 (Or.imp List.length_eq_two.1 List.length_eq_three.1)

/-- There is a first argument. -/
theorem exists_of_accepts_atLeast_one {args : List Value} (h : (Arity.atLeast 1).accepts args.length = true) :
    ∃ a rest, args = a :: rest := by
  cases args with
  | nil => cases h
  | cons a rest => exact ⟨a, rest, rfl⟩

theorem exists_of_accepts_atLeast_two {args : List Value} (h : (Arity.atLeast 2).accepts args.length = true) :
    ∃ a b rest, args = a :: b :: rest := by
  rcases args with _ | ⟨a, _ | ⟨b, rest⟩⟩
  · cases h
  · cases h
  · exact ⟨a, b, rest, rfl⟩

theorem exists_of_accepts_atLeast_three {args : List Value} (h : (Arity.atLeast 3).accepts args.length = true) :
    ∃ a b c rest, args = a :: b :: c :: rest := by
  rcases args with _ | ⟨a, _ | ⟨b, _ | ⟨c, rest⟩⟩⟩
  · cases h
  · cases h
  · cases h
  · exact ⟨a, b, c, rest, rfl⟩

/-! ## Reading arguments -/

/-- What a function does with the arguments at given places. -/
def atPlaces (f : Builtin) (places : List Nat) (args : List Value) : FaultM Value := do
  let vs ← places.mapM (item args)
  f.act vs

/-- What a function does with the arguments at given places, and with an optional one. -/
def withOptional (f : Builtin) (places : List Nat) (last : Nat) (args : List Value) : FaultM Value := do
  let vs ← places.mapM (item args)
  f.act (vs ++ args[last]?.toList)

section

variable {f : Builtin} {args : List Value}

/-- Reading the first argument is safe, since there is one. -/
theorem atPlaces_one (hf : f.signature.arity = .oneOf [] 1)
    (h : f.signature.arity.accepts args.length = true) : Safe (atPlaces f [0] args) (f.act args) := by
  rw [hf] at h
  obtain ⟨a, rfl⟩ := exists_of_accepts_one h
  rfl

/-- Reading the first two arguments is safe. -/
theorem atPlaces_two (hf : f.signature.arity = .oneOf [] 2)
    (h : f.signature.arity.accepts args.length = true) : Safe (atPlaces f [0, 1] args) (f.act args) := by
  rw [hf] at h
  obtain ⟨a, b, rfl⟩ := exists_of_accepts_two h
  rfl

theorem atPlaces_three (hf : f.signature.arity = .oneOf [] 3)
    (h : f.signature.arity.accepts args.length = true) : Safe (atPlaces f [0, 1, 2] args) (f.act args) := by
  rw [hf] at h
  obtain ⟨a, b, c, rfl⟩ := exists_of_accepts_three h
  rfl

/-- The third argument is read only if there is one. -/
theorem withOptional_third (hf : f.signature.arity = .oneOf [2] 3)
    (h : f.signature.arity.accepts args.length = true) : Safe (withOptional f [0, 1] 2 args) (f.act args) := by
  rw [hf] at h
  rcases exists_of_accepts_twoOrThree h with ⟨a, b, rfl⟩ | ⟨a, b, c, rfl⟩
  · rfl
  · rfl

end

/-! ## Numbers -/

/-- The pairs of neighbours in a list. -/
def windows (xs : List Value) : List (List Value) :=
  List.zipWith (fun x y => [x, y]) xs xs.tail

/-- Whether the two items of each pair are equal. -/
def allEqual : List (List Value) → FaultM Bool
  | [] => pure true
  | p :: ps => do
    let a ← item p 0
    let b ← item p 1
    if a.equal b then allEqual ps else pure false

/-- Whether a test holds of the order of each pair. -/
def ascends (name : String) (test : Ordering → Bool) : List (List Value) → FaultM Bool
  | [] => pure true
  | p :: ps => do
    let a ← item p 0
    let b ← item p 1
    match ← NumberFn.order name a b with
    | some o => if test o then ascends name test ps else pure false
    | none => pure false

/-- A comparison of all neighbours. One value alone is compared with itself. -/
def compared (name : String) (test : Ordering → Bool) (args : List Value) : FaultM Value := do
  let b ← ascends name test (windows args)
  if b then
    match args with
    | [v] => do
      let _ ← NumberFn.order name v v
      pure (.bool true)
    | _ => pure (.bool true)
  else pure (.bool false)

/-- The modulus. A remainder on the wrong side of zero is moved by a sum that is not checked. -/
def modulus : Number → Number → FaultM (Except ArithmeticError Number)
  | .int a, .int b =>
    if b = 0 then pure (.error (.divisionByZero "mod"))
    else if a = Int64.minValue ∧ b = -1 then pure (.error (.overflow "mod"))
    else if a % b ≠ 0 ∧ ¬(a % b < 0 ↔ b < 0) then do
      let m ← addInt64 (a % b) b
      pure (.ok (.int m))
    else pure (.ok (.int (a % b)))
  | a, b => pure (Number.mod a b)

/-- The functions on numbers. -/
def number (f : NumberFn) (args : List Value) : FaultM Value :=
  match f with
  | .add | .sub | .mul | .div | .max | .min => (Builtin.number f).act args
  | .inc | .dec | .abs | .sqrt | .round | .floor | .ceil | .double | .int => atPlaces (.number f) [0] args
  | .rem | .quot | .pow => atPlaces (.number f) [0, 1] args
  | .mod => do
    let v ← item args 0
    let w ← item args 1
    let a ← v.asNumber "mod"
    let b ← w.asNumber "mod"
    let m ← modulus a b
    NumberFn.checked m
  | .eq => do
    let b ← allEqual (windows args)
    pure (.bool b)
  | .ne => do
    let b ← allEqual (windows args)
    pure (.bool !b)
  | .lt => compared "<" (·.isLT) args
  | .gt => compared ">" (·.isGT) args
  | .le => compared "<=" (·.isLE) args
  | .ge => compared ">=" (·.isGE) args

/-- Neighbours are compared in pairs, and each pair has two items. -/
theorem allEqual_eq (v : Value) (rest : List Value) :
    allEqual (windows (v :: rest)) = pure (NumberFn.allEqual v rest) := by
  induction rest generalizing v with
  | nil => rfl
  | cons w rest ih =>
    have hstep : allEqual (windows (v :: w :: rest)) =
        if v.equal w then allEqual (windows (w :: rest)) else pure false := rfl
    rw [hstep, NumberFn.allEqual, ih]
    cases v.equal w <;> rfl

/-- Each pair of neighbours has two items. By induction on the arguments. -/
theorem ascends_safe (name : String) (test : Ordering → Bool) (v : Value) (rest : List Value) :
    Safe (ascends name test (windows (v :: rest))) (.ofChecked (NumberFn.ascends name test v rest)) := by
  induction rest generalizing v with
  | nil => rfl
  | cons w rest ih =>
    refine Safe.ofChecked_bind fun o _ => ?_
    cases o with
    | none => rfl
    | some o =>
      dsimp only
      by_cases ho : test o = true
      · rw [if_pos ho, if_pos ho]
        exact ih w
      · rw [if_neg ho, if_neg ho]
        rfl

/-- One value alone is compared with itself. -/
theorem compared_safe (name : String) (test : Ordering → Bool) (v : Value) (rest : List Value) :
    Safe (compared name test (v :: rest)) (.ofChecked (NumberFn.compared name test v rest)) := by
  cases rest with
  | nil => exact Safe.ofChecked_bind fun o _ => rfl
  | cons w rest =>
    refine Safe.bind_ofChecked (ascends_safe name test v (w :: rest)) fun b => ?_
    cases b <;> rfl

/-- The remainder is corrected by the divisor only if their signs differ, so no sum leaves the range. -/
theorem modulus_eq (a b : Number) : modulus a b = pure (Number.mod a b) := by
  cases a with
  | float x => rfl
  | int a =>
    cases b with
    | float y => rfl
    | int b =>
      rw [modulus, Number.mod, Number.divideInts]
      by_cases hzero : b = 0
      · rw [if_pos hzero, if_pos hzero]
      · rw [if_neg hzero, if_neg hzero]
        by_cases hlow : a = Int64.minValue ∧ b = -1
        · rw [if_pos hlow, if_pos hlow]
        · rw [if_neg hlow, if_neg hlow]
          by_cases hmove : a % b ≠ 0 ∧ ¬(a % b < 0 ↔ b < 0)
          · -- the remainder and the divisor have opposite signs, so their sum lies between them
            have hsigns := oppositeSigns_iff.2 hmove
            rw [if_pos hmove, addInt64_eq (fitsInt64_add_of_oppositeSigns hsigns),
              Number.intMod_of_oppositeSigns hsigns]
            rfl
          · rw [if_neg hmove, Number.intMod, if_neg hmove]

/-- No function on numbers reads a missing argument or computes out of range. One case per function. -/
theorem number_safe (f : NumberFn) {args : List Value}
    (h : (Builtin.number f).signature.arity.accepts args.length = true) :
    Safe (number f args) ((Builtin.number f).act args) := by
  cases f with
  | add | sub | mul | div | max | min => exact Safe.lift _
  | inc | dec | abs | sqrt | round | floor | ceil | double | int => exact atPlaces_one rfl h
  | rem | quot | pow => exact atPlaces_two rfl h
  -- only `mod` adds without a check
  | mod =>
    obtain ⟨v, w, rfl⟩ := exists_of_accepts_two h
    refine Safe.ofChecked_bind fun a _ => Safe.ofChecked_bind fun b _ => ?_
    rw [modulus_eq]
    rfl
  | eq =>
    obtain ⟨v, rest, rfl⟩ := exists_of_accepts_atLeast_one h
    rw [number, allEqual_eq]
    rfl
  | ne =>
    obtain ⟨v, rest, rfl⟩ := exists_of_accepts_atLeast_one h
    rw [number, allEqual_eq]
    rfl
  | lt | gt | le | ge =>
    obtain ⟨v, rest, rfl⟩ := exists_of_accepts_atLeast_one h
    exact compared_safe _ _ v rest

/-! ## Tests -/

/-- A test of the parity of an integer. -/
def parity (name : String) (even : Bool) : Value → FaultM Value
  | .number (.int n) => do
    let r ← remInt64 n 2
    pure (.bool ((r == 0) == even))
  | v => TestFn.parity name even v

/-- The tests of one value. -/
def test (f : TestFn) (args : List Value) : FaultM Value :=
  match f with
  | .isEven => do
    let v ← item args 0
    parity "even?" true v
  | .isOdd => do
    let v ← item args 0
    parity "odd?" false v
  | f => atPlaces (.test f) [0] args

/-- The remainder by two is computed of a whole number. -/
theorem parity_safe (name : String) (even : Bool) (v : Value) :
    Safe (parity name even v) (.ofChecked (TestFn.parity name even v)) := by
  cases v with
  | number n =>
    cases n with
    | int n =>
      rw [parity, remInt64_eq (by decide) (by decide)]
      rfl
    | float x => rfl
  | _ => rfl

/-- No test reads a missing argument. One case per function. -/
theorem test_safe (f : TestFn) {args : List Value}
    (h : (Builtin.test f).signature.arity.accepts args.length = true) :
    Safe (test f args) ((Builtin.test f).act args) := by
  cases f with
  | isEven | isOdd =>
    obtain ⟨v, rfl⟩ := exists_of_accepts_one h
    exact parity_safe _ _ v
  | _ => exact atPlaces_one rfl h

/-! ## Texts -/

/-- The clusters of a text between two places. -/
def between (text : String) (i j : Nat) : FaultM Value :=
  if j < i ∨ (Text.clusters text).length < j then
    fail (.type (.substring i j (Text.clusters text).length))
  else do
    let part ← slice (Text.clusters text) i j
    pure (.string (String.join part))

/-- The part of a string between two indices, or from an index on. -/
def part (v first : Value) (last : Option Value) : FaultM Value := do
  let s ← v.asString "subs"
  let i ← first.asIndex "subs"
  let j ← last.mapM (·.asIndex "subs")
  between s i (j.getD (Text.clusters s).length)

/-- The functions on texts. -/
def text (f : TextFn) (args : List Value) : FaultM Value :=
  match f with
  | .str => (Builtin.text f).act args
  | .join =>
    match args with
    | [sep, v] => TextFn.joinedWith sep v
    | args => do
      let v ← item args 0
      TextFn.joined "" v
  | .subs => do
    let v ← item args 0
    let first ← item args 1
    part v first args[2]?
  | .replace => atPlaces (.text f) [0, 1, 2] args
  | .split | .includes | .startsWith | .endsWith | .reFind | .reMatches => atPlaces (.text f) [0, 1] args
  | .upperCase | .lowerCase | .trim | .parseLong | .parseDouble | .nameOf | .keywordOf =>
    atPlaces (.text f) [0] args

/-- The text is cut only after the places have been compared with its length. -/
theorem between_safe (text : String) (i j : Nat) :
    Safe (between text i j) (.ofChecked (TextFn.between text i j)) := by
  rw [between]
  by_cases houtside : j < i ∨ (Text.clusters text).length < j
  · rw [if_pos houtside, TextFn.between_eq_error houtside]
    rfl
  · have hij : i ≤ j := by omega
    have hj : j ≤ (Text.clusters text).length := by omega
    rw [if_neg houtside, slice_eq hij hj, TextFn.between_eq_ok hij hj]
    rfl

theorem part_safe (v first : Value) (last : Option Value) :
    Safe (part v first last) (.ofChecked (TextFn.part v first last)) := by
  refine Safe.ofChecked_bind fun s _ => Safe.ofChecked_bind fun i _ => ?_
  cases last with
  | none => exact between_safe s i _
  | some w =>
    rw [Option.mapM_some, Option.mapM_some]
    cases w.asIndex "subs" with
    | ok j => exact between_safe s i j
    | error e => rfl

/-- No function on texts reads a missing argument or cuts out of range. One case per function. -/
theorem text_safe (f : TextFn) {args : List Value}
    (h : (Builtin.text f).signature.arity.accepts args.length = true) :
    Safe (text f args) ((Builtin.text f).act args) := by
  cases f with
  | str => exact Safe.lift _
  | join =>
    rcases exists_of_accepts_oneOrTwo h with ⟨v, rfl⟩ | ⟨sep, v, rfl⟩
    · rfl
    · rfl
  | subs =>
    rcases exists_of_accepts_twoOrThree h with ⟨v, first, rfl⟩ | ⟨v, first, last, rfl⟩
    · exact part_safe v first none
    · exact part_safe v first (some last)
  | replace => exact atPlaces_three rfl h
  | split | includes | startsWith | endsWith | reFind | reMatches => exact atPlaces_two rfl h
  | upperCase | lowerCase | trim | parseLong | parseDouble | nameOf | keywordOf => exact atPlaces_one rfl h

end Exposed

end ToolLisp
