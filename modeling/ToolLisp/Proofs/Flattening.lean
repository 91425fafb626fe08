import ToolLisp.Proofs.KeyedAccess

/-!
# Flattening

`flatten` does not recurse. It keeps the vectors that it has opened on a stack, the innermost first, each
without the items that it has passed. A turn of its loop closes the innermost vector, opens an item of it, or
takes an item over (`Flattening.turn`).

The leaves of what is pending, behind those that have been found, are the same before and after a turn
(`Flattening.turn_outcome`), although a turn may make the stack grow. What gets smaller with each turn is the
number of brackets and leaves that are left, by exactly one (`Flattening.turn_steps`). So the loop ends, and
what it gives is the recursive flattening (`flatten_gives_leaves`).
-/

namespace ToolLisp

namespace Value

/-! ## Leaves -/

mutual

/-- The leaves of a value from left to right: those of its items, if it is a vector, and otherwise itself. -/
def leaves : Value → List Value
  | .vector items => leavesOfAll items
  | v => [v]

/-- The leaves of several values, one after the other. -/
def leavesOfAll : List Value → List Value
  | [] => []
  | v :: rest => leaves v ++ leavesOfAll rest

end

theorem leavesOfAll_eq (items : List Value) : leavesOfAll items = items.flatMap leaves := by
  induction items with
  | nil => rfl
  | cons v rest ih => rw [leavesOfAll, ih, List.flatMap_cons]

theorem leaves_vector (items : List Value) : (vector items).leaves = items.flatMap leaves := by
  rw [leaves, leavesOfAll_eq]

theorem leaves_of_not_vector {v : Value} (hv : ∀ items, v ≠ .vector items) : v.leaves = [v] := by
  cases v with
  | vector items => exact absurd rfl (hv items)
  | _ => rfl

mutual

/-- No leaf is a vector. -/
theorem not_vector_of_mem_leaves : ∀ (v : Value), ∀ w ∈ v.leaves, ∀ items, w ≠ .vector items
  | .vector items => not_vector_of_mem_leavesOfAll items
  | .nil | .bool _ | .number _ | .string _ | .keyword _ | .map _ | .closure .. | .rowTest .. | .combined ..
  | .builtin _ | .tool _ => by simp [leaves]

theorem not_vector_of_mem_leavesOfAll :
    ∀ (vs : List Value), ∀ w ∈ leavesOfAll vs, ∀ items, w ≠ .vector items
  | [] => by simp [leavesOfAll]
  | v :: rest => by
    intro w hw
    rcases List.mem_append.1 hw with hw | hw
    · exact not_vector_of_mem_leaves v w hw
    · exact not_vector_of_mem_leavesOfAll rest w hw

end

/-- Values none of which is a vector are their own leaves. -/
theorem flatMap_leaves_of_not_vector {vs : List Value} (hvs : ∀ v ∈ vs, ∀ items, v ≠ .vector items) :
    vs.flatMap leaves = vs := by
  induction vs with
  | nil => rfl
  | cons v rest ih =>
    obtain ⟨hv, hrest⟩ := List.forall_mem_cons.1 hvs
    rw [List.flatMap_cons, leaves_of_not_vector hv, ih hrest, List.singleton_append]

end Value

open Value (leaves leaves_vector leaves_of_not_vector)
open Sequence (flattenFrom pendingSteps flattenSteps flattenStepsAll)

/-- The loop between two turns. -/
structure Flattening where
  /-- The leaves that have been found, the last one first. -/
  done : List Value
  /-- What is left of the vectors that have been opened, the innermost first. -/
  pending : List (List Value)

namespace Flattening

/-! ## Turns of the loop -/

/-- One turn of the loop. There is none if no vector is pending. -/
def turn : Flattening → Option Flattening
  | ⟨_, []⟩ => none
  | ⟨done, [] :: pending⟩ => some ⟨done, pending⟩
  | ⟨done, (.vector inner :: items) :: pending⟩ => some ⟨done, inner :: items :: pending⟩
  | ⟨done, (v :: items) :: pending⟩ => some ⟨v :: done, items :: pending⟩

/-- So many turns lead from one state of the loop to another. -/
inductive Turns : Nat → Flattening → Flattening → Prop
  | none (l : Flattening) : Turns 0 l l
  | more {n : Nat} {l l' l'' : Flattening} : l.turn = some l' → Turns n l' l'' → Turns (n + 1) l l''

/-- What a turn can do. -/
theorem turn_cases {l l' : Flattening} (h : l.turn = some l') :
    (∃ pending, l = ⟨l'.done, [] :: pending⟩ ∧ l'.pending = pending) ∨
    (∃ inner items pending, l = ⟨l'.done, (.vector inner :: items) :: pending⟩ ∧
      l'.pending = inner :: items :: pending) ∨
    ∃ v items pending, (∀ inner, v ≠ .vector inner) ∧ l = ⟨l.done, (v :: items) :: pending⟩ ∧
      l' = ⟨v :: l.done, items :: pending⟩ := by
  rcases l with ⟨done, _ | ⟨_ | ⟨v, items⟩, pending⟩⟩
  · cases h
  · obtain rfl := Option.some.inj h
    exact .inl ⟨pending, rfl, rfl⟩
  · cases v with
    | vector inner =>
      obtain rfl := Option.some.inj h
      exact .inr (.inl ⟨inner, items, pending, rfl, rfl⟩)
    | _ =>
      obtain rfl := Option.some.inj h
      exact .inr (.inr ⟨_, items, pending, by simp, rfl, rfl⟩)

/-- The loop goes on while a vector is pending. -/
theorem exists_turn {l : Flattening} (h : l.pending ≠ []) : ∃ l', l.turn = some l' := by
  rcases l with ⟨done, _ | ⟨_ | ⟨v, items⟩, pending⟩⟩
  · exact absurd rfl h
  · exact ⟨_, rfl⟩
  · cases v <;> exact ⟨_, rfl⟩

/-! ## What a turn keeps, and what it uses up -/

/-- The leaves that the loop has found or will find. -/
def outcome (l : Flattening) : List Value :=
  l.done.reverse ++ l.pending.flatten.flatMap leaves

theorem turn_outcome {l l' : Flattening} (h : l.turn = some l') : l'.outcome = l.outcome := by
  rcases turn_cases h with ⟨pending, hl, hl'⟩ | ⟨inner, items, pending, hl, hl'⟩ |
    ⟨v, items, pending, hv, hl, hl'⟩
  · rw [hl, outcome, outcome, hl', List.flatten_cons, List.nil_append]
  · rw [hl, outcome, outcome, hl']
    simp [leaves_vector]
  · rw [hl, hl', outcome, outcome]
    simp [leaves_of_not_vector hv]

theorem flattenSteps_of_not_vector {v : Value} (hv : ∀ items, v ≠ .vector items) : flattenSteps v = 1 := by
  cases v with
  | vector items => exact absurd rfl (hv items)
  | _ => rfl

theorem turn_steps {l l' : Flattening} (h : l.turn = some l') :
    pendingSteps l.pending = pendingSteps l'.pending + 1 := by
  rcases turn_cases h with ⟨pending, hl, hl'⟩ | ⟨inner, items, pending, hl, hl'⟩ |
    ⟨v, items, pending, hv, hl, hl'⟩
  · rw [hl, hl']
    simp only [pendingSteps, flattenStepsAll]
    omega
  · -- the vector goes from the stack with its two brackets, and is put there again with one
    rw [hl, hl']
    simp only [pendingSteps, flattenStepsAll, flattenSteps]
    omega
  · have hone := flattenSteps_of_not_vector hv
    rw [hl, hl']
    simp only [pendingSteps, flattenStepsAll]
    omega

/-- The loop ends after as many turns as there are steps pending, with all leaves found. -/
theorem turns_to_end (l : Flattening) : Turns (pendingSteps l.pending) l ⟨l.outcome.reverse, []⟩ := by
  -- by induction on the number of steps, of which each turn takes one
  generalize hn : pendingSteps l.pending = n
  induction n generalizing l with
  | zero =>
    have hpending : l.pending = [] := by
      by_contra hne
      obtain ⟨l', hl'⟩ := exists_turn hne
      have := turn_steps hl'
      omega
    rcases l with ⟨done, pending⟩
    obtain rfl : pending = [] := hpending
    have hend : (outcome ⟨done, []⟩).reverse = done := by simp [outcome]
    rw [hend]
    exact .none _
  | succ n ih =>
    have hne : l.pending ≠ [] := by
      intro hnil
      rw [hnil] at hn
      cases hn
    obtain ⟨l', hl'⟩ := exists_turn hne
    have hsteps := turn_steps hl'
    have hrest := ih l' (by omega)
    rw [turn_outcome hl'] at hrest
    exact .more hl' hrest

/-! ## The loop as it runs -/

/-- What comes of the loop is the same before and after a turn. -/
theorem flattenFrom_of_turn {l l' : Flattening} (h : l.turn = some l') :
    flattenFrom l.done l.pending = flattenFrom l'.done l'.pending := by
  rcases turn_cases h with ⟨pending, hl, hl'⟩ | ⟨inner, items, pending, hl, hl'⟩ |
    ⟨v, items, pending, hv, hl, hl'⟩
  · rw [hl, hl', flattenFrom]
  · rw [hl, hl', flattenFrom]
  · rw [hl, hl']
    cases v with
    | vector inner => exact absurd rfl (hv inner)
    | _ => rw [flattenFrom]; simp

theorem Turns.flattenFrom_eq {n : Nat} {l l' : Flattening} (h : Turns n l l') :
    flattenFrom l.done l.pending = flattenFrom l'.done l'.pending := by
  induction h with
  | none l => rfl
  | more hturn _ ih => rw [flattenFrom_of_turn hturn, ih]

theorem flattenFrom_eq (done : List Value) (pending : List (List Value)) :
    flattenFrom done pending = outcome ⟨done, pending⟩ := by
  have hend := (turns_to_end ⟨done, pending⟩).flattenFrom_eq
  rw [hend, flattenFrom, List.reverse_reverse]

end Flattening

theorem callAt_flatten (h : Host) (n : Nat) (items : List Value) (s : RunState) :
    callAt h (n + 1) (.builtin (.sequence .flatten)) [.vector items] s =
      (.ok (.vector (items.flatMap leaves)), s) := by
  have hloop : flattenFrom [] [items] = items.flatMap leaves := by
    simp [Flattening.flattenFrom_eq, Flattening.outcome]
  have hact : (Builtin.sequence .flatten).act [.vector items] =
      .ofChecked (.ok (.vector (flattenFrom [] [items]))) := rfl
  rw [callAt_of_act_ok hact rfl, hloop]

/-- The loop that flattens a vector ends, and `flatten` gives what it has found: the leaves of the vector from
left to right, as the recursive definition has them. None of them is a vector, and flattening them again
changes nothing. -/
theorem flatten_gives_leaves (h : Host) (n : Nat) (items : List Value) (s : RunState) :
    ∃ (out : List Value) (turns : Nat),
      out = (Value.vector items).leaves ∧
      Flattening.Turns turns ⟨[], [items]⟩ ⟨out.reverse, []⟩ ∧
      callAt h (n + 1) (.builtin (.sequence .flatten)) [.vector items] s = (.ok (.vector out), s) ∧
      (∀ v ∈ out, ∀ inner, v ≠ .vector inner) ∧
      callAt h (n + 1) (.builtin (.sequence .flatten)) [.vector out] s = (.ok (.vector out), s) := by
  have hleaves := leaves_vector items
  have hnone := Value.not_vector_of_mem_leaves (.vector items)
  refine ⟨_, pendingSteps [items], rfl, ?_, ?_, hnone, ?_⟩
  · have hturns := Flattening.turns_to_end ⟨[], [items]⟩
    have hout : Flattening.outcome ⟨[], [items]⟩ = (Value.vector items).leaves := by
      simp [Flattening.outcome, hleaves]
    rwa [hout] at hturns
  · rw [callAt_flatten, hleaves]
  · rw [callAt_flatten, Value.flatMap_leaves_of_not_vector hnone]

end ToolLisp
