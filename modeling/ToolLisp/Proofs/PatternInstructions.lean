import ToolLisp.Proofs.Evaluation
import ToolLisp.Proofs.GeneratedNames

/-!
# Instructions of patterns

A pattern takes a value apart in a fixed order, whatever the value is. What it does can be written down as a
list of instructions (`Pattern.instructions`): it demands the shape of a part, uses a default, or binds a name.
A part is given by the path that leads to it. If a key is missing, the part is the value of the default, or
`nil` if there is none; an item that is missing is `nil` too.

The values of the defaults are a function of the paths (`Supply`). Those of different parts of a pattern are put
together into one, because their paths begin with different steps (`exists_performs_append`). What a list of
instructions comes to can be said of each kind of instruction separately (`performs_iff`).
-/

namespace ToolLisp

open EvalM

/-! ## Paths -/

/-- What a pattern demands of a value. -/
inductive Shape where
  /-- The value is a map. -/
  | map
  /-- The value is a vector. -/
  | list

/-- The shape in an error. -/
def Shape.text : Shape → String
  | .map => "map"
  | .list => "list"

namespace Pattern

/-- How a pattern gets from a value to a part of it. The entries of a map pattern are counted. -/
inductive PathStep where
  /-- To the value at the key of an entry that has no default. -/
  | entry (i : Nat) (key : Literal)
  /-- To the value at the key of an entry that has a default. -/
  | entryOr (i : Nat) (key : Literal)
  /-- To an item of a vector. -/
  | item (i : Nat)
  /-- To what is left of a vector after so many items. -/
  | rest (count : Nat)

/-- The number of a step among those from the same value. -/
def PathStep.index : PathStep → Nat
  | .entry i _ => i
  | .entryOr i _ => i
  | .item i => i
  | .rest count => count

/-- The steps to a part, from the outside to the inside. -/
abbrev Path := List PathStep

/-- The values of defaults, by the paths to the parts that they stand for. -/
abbrev Supply := Path → Option Value

/-- The supply without any values. -/
def Supply.empty : Supply :=
  fun _ => none

/-- What is supplied below a step. -/
def Supply.below (supply : Supply) (step : PathStep) : Supply :=
  fun path => supply (step :: path)

end Pattern

open Pattern (Path PathStep Supply)

namespace Value

/-- Whether a value has a shape. -/
def hasShape : Value → Shape → Bool
  | .map _, .map => true
  | .vector _, .list => true
  | _, _ => false

/-- Whether a value is a map without a key. -/
def lacks : Value → Literal → Bool
  | .map m, key => (Entries.find? m key.value).isNone
  | _, _ => false

/-- The part of a value after a step. -/
def partAfter (supplied : Option Value) : Value → PathStep → Value
  | .map m, .entry _ key => (Entries.find? m key.value).getD .nil
  | .map m, .entryOr _ key => ((Entries.find? m key.value).or supplied).getD .nil
  | .vector items, .item i => items[i]?.getD .nil
  | .vector items, .rest count => if (items.drop count).isEmpty then .nil else .vector (items.drop count)
  | _, _ => .nil

/-- The part of a value at the end of a path. -/
def component (supply : Supply) (v : Value) : Path → Value
  | [] => v
  | step :: path => component (supply.below step) (v.partAfter (supply [step]) step) path

end Value

/-! ## Instructions -/

namespace Pattern

/-- What a pattern does with a value. -/
inductive Instruction where
  /-- It demands that a part has a shape. -/
  | demand (shape : Shape) (path : Path)
  /-- It evaluates a default if a part lacks the key of an entry. -/
  | default (path : Path) (i : Nat) (key : Literal) (e : Expr)
  /-- It binds a name to a part. -/
  | bind (x : String) (path : Path)

namespace Instruction

/-- The instruction on a part that is done to it as a part of another value. -/
def under (step : PathStep) : Instruction → Instruction
  | .demand shape path => .demand shape (step :: path)
  | .default path i key e => .default (step :: path) i key e
  | .bind x path => .bind x (step :: path)

/-- The path to the part that an instruction is about. -/
def target : Instruction → Path
  | .demand _ path => path
  | .default path i key _ => path ++ [.entryOr i key]
  | .bind _ path => path

/-- The name that an instruction binds, and the path to what it is bound to. -/
def binding? : Instruction → Option (String × Path)
  | .bind x path => some (x, path)
  | _ => none

end Instruction

mutual

/-- The instructions of a pattern. -/
def instructions : Pattern → List Instruction
  | .name x => [.bind x []]
  | .ignore => []
  | .whole x p => p.instructions ++ [.bind x []]
  | .map parts => .demand .map [] :: instructionsOfParts 0 parts
  | .seq items none => .demand .list [] :: instructionsOfItems 0 items
  | .seq items (some rest) => .demand .list [] ::
      (instructionsOfItems 0 items ++ rest.instructions.map (.under (.rest items.length)))

/-- The instructions of the entries of a map pattern, of which the first has a number. -/
def instructionsOfParts (i : Nat) : List (Pattern × Literal × Option Expr) → List Instruction
  | [] => []
  | (p, key, none) :: rest => p.instructions.map (.under (.entry i key)) ++ instructionsOfParts (i + 1) rest
  | (p, key, some e) :: rest => (.default [] i key e :: p.instructions.map (.under (.entryOr i key))) ++
      instructionsOfParts (i + 1) rest

/-- The instructions of the items of a vector pattern, of which the first has a number. -/
def instructionsOfItems (i : Nat) : List Pattern → List Instruction
  | [] => []
  | p :: rest => p.instructions.map (.under (.item i)) ++ instructionsOfItems (i + 1) rest

end

/-! ## What instructions come to -/

section

variable (h : Host) (call : Value → List Value → EvalM Value) (supply : Supply) (v : Value)

/-- Performing instructions on a value leads from bindings and a state to others. A default is evaluated if its
key is missing, and then its value is what is supplied. -/
def Performs : List Instruction → Env → RunState → Env → RunState → Prop
  | [], env, s, inner, s' => inner = env ∧ s' = s
  | .demand shape path :: rest, env, s, inner, s' =>
    (v.component supply path).hasShape shape = true ∧ Performs rest env s inner s'
  | .default path i key e :: rest, env, s, inner, s' =>
    if (v.component supply path).lacks key then
      ∃ w s₁, eval h call e env s = (.ok w, s₁) ∧ supply (path ++ [.entryOr i key]) = some w ∧
        Performs rest env s₁ inner s'
    else Performs rest env s inner s'
  | .bind x path :: rest, env, s, inner, s' =>
    Performs rest (Env.bind env x (v.component supply path)) s inner s'

end

section

variable {h : Host} {call : Value → List Value → EvalM Value} {supply supply' : Supply} {v : Value}
  {env inner : Env} {s s' : RunState} {step : PathStep}

theorem performs_append {first second : List Instruction} :
    Performs h call supply v (first ++ second) env s inner s' ↔
      ∃ mid s₁, Performs h call supply v first env s mid s₁ ∧ Performs h call supply v second mid s₁ inner s' := by
  induction first generalizing env s with
  | nil =>
    refine ⟨fun hrest => ⟨env, s, ⟨rfl, rfl⟩, hrest⟩, ?_⟩
    rintro ⟨_, _, ⟨rfl, rfl⟩, hrest⟩
    exact hrest
  | cons instruction first ih =>
    cases instruction with
    | demand shape path =>
      simp only [List.cons_append, Performs, ih]
      constructor
      · rintro ⟨hshape, mid, s₁, hfirst, hsecond⟩
        exact ⟨mid, s₁, ⟨hshape, hfirst⟩, hsecond⟩
      · rintro ⟨mid, s₁, ⟨hshape, hfirst⟩, hsecond⟩
        exact ⟨hshape, mid, s₁, hfirst, hsecond⟩
    | default path i key e =>
      simp only [List.cons_append, Performs, ih]
      split
      · constructor
        · rintro ⟨w, s₂, heval, hw, mid, s₁, hfirst, hsecond⟩
          exact ⟨mid, s₁, ⟨w, s₂, heval, hw, hfirst⟩, hsecond⟩
        · rintro ⟨mid, s₁, ⟨w, s₂, heval, hw, hfirst⟩, hsecond⟩
          exact ⟨w, s₂, heval, hw, mid, s₁, hfirst, hsecond⟩
      · exact Iff.rfl
    | bind x path => simp only [List.cons_append, Performs, ih]

/-- Instructions on a part are performed on the part with what is supplied there. -/
theorem performs_under {instructions : List Instruction} :
    Performs h call supply v (instructions.map (.under step)) env s inner s' ↔
      Performs h call (supply.below step) (v.partAfter (supply [step]) step) instructions env s inner s' := by
  induction instructions generalizing env s with
  | nil => exact Iff.rfl
  | cons instruction rest ih =>
    cases instruction with
    | demand shape path => exact and_congr_right fun _ => ih
    | default path i key e =>
      simp only [List.map_cons, Instruction.under, Performs, ih]
      rfl
    | bind x path => exact ih

theorem component_congr {path : Path} : ∀ {supply supply' : Supply} {v : Value},
    (∀ q r, path = q ++ r → q ≠ [] → supply q = supply' q) →
      v.component supply path = v.component supply' path := by
  induction path with
  | nil => exact fun _ => rfl
  | cons step path ih =>
    intro supply supply' v hagree
    rw [Value.component, Value.component, hagree [step] path rfl (List.cons_ne_nil _ _)]
    exact ih fun q r hpath _ => hagree (step :: q) r (congrArg (step :: ·) hpath) (List.cons_ne_nil _ _)

/-- Only what is supplied on the way to the targets of instructions matters. -/
theorem performs_congr {instructions : List Instruction}
    (hagree : ∀ x ∈ instructions, ∀ q r, x.target = q ++ r → q ≠ [] → supply q = supply' q) :
    Performs h call supply v instructions env s inner s' ↔
      Performs h call supply' v instructions env s inner s' := by
  induction instructions generalizing env s with
  | nil => exact Iff.rfl
  | cons instruction rest ih =>
    obtain ⟨hfirst, hrest⟩ := List.forall_mem_cons.1 hagree
    cases instruction with
    | demand shape path =>
      have hcomponent : v.component supply path = v.component supply' path := component_congr hfirst
      rw [Performs, Performs, hcomponent, ih hrest]
    | default path i key e =>
      have hcomponent : v.component supply path = v.component supply' path := by
        refine component_congr fun q r hpath hq => hfirst q (r ++ [.entryOr i key]) ?_ hq
        rw [Instruction.target, hpath, List.append_assoc]
      have hvalue : supply (path ++ [.entryOr i key]) = supply' (path ++ [.entryOr i key]) :=
        hfirst _ [] (List.append_nil _).symm (by simp)
      simp only [Performs, hcomponent, hvalue, ih hrest]
    | bind x path =>
      have hcomponent : v.component supply path = v.component supply' path := component_congr hfirst
      rw [Performs, Performs, hcomponent, ih hrest]

/-! ## Supplies of parts -/

/-- The supply with a value for a part, and below it those of another supply. -/
def Supply.graft (supplied : Option Value) (supply : Supply) : Supply
  | [] => none
  | [_] => supplied
  | _ :: path => supply path

/-- A part can be supplied by itself. -/
theorem exists_performs_under {instructions : List Instruction} (supplied : Option Value) :
    (∃ supply, supply [step] = supplied ∧
        Performs h call supply v (instructions.map (.under step)) env s inner s') ↔
      ∃ supply, Performs h call supply (v.partAfter supplied step) instructions env s inner s' := by
  constructor
  · rintro ⟨supply, rfl, hperforms⟩
    exact ⟨_, performs_under.1 hperforms⟩
  · rintro ⟨supply, hperforms⟩
    refine ⟨Supply.graft supplied supply, rfl, performs_under.2 ((performs_congr ?_).1 hperforms)⟩
    intro x _ q r _ hq
    cases q with
    | nil => exact absurd rfl hq
    | cons first q => rfl

/-- An instruction is about a part that a step with an index satisfying `P` leads to. -/
def Instruction.Begins (P : Nat → Prop) (x : Instruction) : Prop :=
  ∃ step path, x.target = step :: path ∧ P step.index

theorem Instruction.Begins.imp {P Q : Nat → Prop} (hPQ : ∀ j, P j → Q j) {x : Instruction} (hx : x.Begins P) :
    x.Begins Q := by
  obtain ⟨step, path, htarget, hindex⟩ := hx
  exact ⟨step, path, htarget, hPQ _ hindex⟩

/-- A path on the way to the target begins with the same step. -/
theorem Instruction.Begins.exists_cons {P : Nat → Prop} {x : Instruction} (hx : x.Begins P) {q r : Path}
    (htarget : x.target = q ++ r) (hq : q ≠ []) : ∃ step path, q = step :: path ∧ P step.index := by
  obtain ⟨step, path, hstep, hindex⟩ := hx
  cases q with
  | nil => exact absurd rfl hq
  | cons first q =>
    obtain ⟨rfl, -⟩ := List.cons.inj (hstep.symm.trans htarget)
    exact ⟨step, q, rfl, hindex⟩

theorem begins_under {P : Nat → Prop} (hstep : P step.index) {instructions : List Instruction} :
    ∀ x ∈ instructions.map (Instruction.under step), x.Begins P := by
  intro x hx
  obtain ⟨y, -, rfl⟩ := List.mem_map.1 hx
  cases y <;> exact ⟨step, _, rfl, hstep⟩

theorem begins_parts (parts : List (Pattern × Literal × Option Expr)) : ∀ i : Nat,
    ∀ x ∈ instructionsOfParts i parts, x.Begins (i ≤ ·) := by
  induction parts with
  | nil => exact fun i => List.forall_mem_nil _
  | cons part rest ih =>
    intro i
    have hrest : ∀ x ∈ instructionsOfParts (i + 1) rest, x.Begins (i ≤ ·) :=
      fun x hx => (ih (i + 1) x hx).imp fun _ => Nat.le_of_succ_le
    obtain ⟨p, key, default⟩ := part
    cases default with
    | none =>
      rw [instructionsOfParts, List.forall_mem_append]
      exact ⟨begins_under (Nat.le_refl i), hrest⟩
    | some e =>
      rw [instructionsOfParts, List.forall_mem_append, List.forall_mem_cons]
      exact ⟨⟨⟨_, [], rfl, Nat.le_refl i⟩, begins_under (Nat.le_refl i)⟩, hrest⟩

/-- The entries after the first lead to other parts. -/
theorem begins_later (rest : List (Pattern × Literal × Option Expr)) (i : Nat) :
    ∀ x ∈ instructionsOfParts (i + 1) rest, x.Begins fun j => ¬ j = i :=
  fun x hx => (begins_parts rest (i + 1) x hx).imp fun j hj => by omega

theorem begins_items (items : List Pattern) : ∀ i : Nat,
    ∀ x ∈ instructionsOfItems i items, x.Begins fun j => i ≤ j ∧ j < i + items.length := by
  induction items with
  | nil => exact fun i => List.forall_mem_nil _
  | cons p rest ih =>
    intro i
    rw [instructionsOfItems, List.forall_mem_append]
    have hfirst : i ≤ (PathStep.item i).index ∧ (PathStep.item i).index < i + (p :: rest).length := by
      simp [PathStep.index]
    refine ⟨begins_under hfirst, fun x hx => (ih (i + 1) x hx).imp fun j hj => ?_⟩
    rw [List.length_cons]
    omega

/-- Instructions on different parts can be supplied separately, and one supply does for both. -/
theorem exists_performs_append {first second : List Instruction} {P : Nat → Prop} [DecidablePred P]
    (hfirst : ∀ x ∈ first, x.Begins P) (hsecond : ∀ x ∈ second, x.Begins fun j => ¬ P j) :
    (∃ supply, Performs h call supply v (first ++ second) env s inner s') ↔
      ∃ mid s₁, (∃ supply, Performs h call supply v first env s mid s₁) ∧
        ∃ supply, Performs h call supply v second mid s₁ inner s' := by
  constructor
  · rintro ⟨supply, hperforms⟩
    obtain ⟨mid, s₁, h₁, h₂⟩ := performs_append.1 hperforms
    exact ⟨mid, s₁, ⟨supply, h₁⟩, ⟨supply, h₂⟩⟩
  · rintro ⟨mid, s₁, ⟨t₁, h₁⟩, ⟨t₂, h₂⟩⟩
    -- the first step of a path tells to which part it belongs
    let both : Supply := fun path => if path.head?.any (P ·.index) then t₁ path else t₂ path
    refine ⟨both, performs_append.2 ⟨mid, s₁, (performs_congr ?_).1 h₁, (performs_congr ?_).1 h₂⟩⟩
    · intro x hx q r htarget hq
      obtain ⟨step, path, rfl, hP⟩ := (hfirst x hx).exists_cons htarget hq
      simp [both, hP]
    · intro x hx q r htarget hq
      obtain ⟨step, path, rfl, hP⟩ := (hsecond x hx).exists_cons htarget hq
      simp [both, hP]

end

/-! ## Names and defaults -/

/-- The names that a pattern binds, in the order of binding, with the paths to what they are bound to. -/
def binds (p : Pattern) : List (String × Path) :=
  p.instructions.filterMap Instruction.binding?

/-- All parts have the shapes that a pattern demands. -/
def Fits (supply : Supply) (v : Value) (p : Pattern) : Prop :=
  ∀ shape path, .demand shape path ∈ p.instructions → (v.component supply path).hasShape shape = true

/-- The defaults whose keys are missing, with the paths to the parts that they stand for and the bindings that
they see. -/
def missing (supply : Supply) (v : Value) : List Instruction → Env → List (Path × Expr × Env)
  | [], _ => []
  | .demand _ _ :: rest, env => missing supply v rest env
  | .default path i key e :: rest, env =>
    if (v.component supply path).lacks key then
      (path ++ [.entryOr i key], e, env) :: missing supply v rest env
    else missing supply v rest env
  | .bind x path :: rest, env => missing supply v rest (Env.bind env x (v.component supply path))

/-- Defaults are evaluated one after the other, and their values are what is supplied. -/
inductive EvaluatedInTurn (h : Host) (call : Value → List Value → EvalM Value) (supply : Supply) :
    List (Path × Expr × Env) → RunState → RunState → Prop
  | nil {s : RunState} : EvaluatedInTurn h call supply [] s s
  | cons {path : Path} {e : Expr} {env : Env} {rest : List (Path × Expr × Env)} {w : Value}
      {s s₁ s' : RunState} : eval h call e env s = (.ok w, s₁) → supply path = some w →
      EvaluatedInTurn h call supply rest s₁ s' → EvaluatedInTurn h call supply ((path, e, env) :: rest) s s'

/-- Bindings after a pattern: a name that it binds has the part at the last place where the pattern binds it, and
all other names are as before. -/
structure BoundIn (supply : Supply) (v : Value) (p : Pattern) (env inner : Env) : Prop where
  others : ∀ x, x ∉ p.names → Env.lookup? inner x = Env.lookup? env x
  bound : ∀ x ∈ p.names, ∃ before path after, p.binds = before ++ (x, path) :: after ∧
    (∀ b ∈ after, b.1 ≠ x) ∧ Env.lookup? inner x = some (v.component supply path)

/-- Makes bindings one after the other. -/
def bindEach (supply : Supply) (v : Value) (bs : List (String × Path)) (env : Env) : Env :=
  bs.foldl (fun env b => Env.bind env b.1 (v.component supply b.2)) env

section

variable {h : Host} {call : Value → List Value → EvalM Value} {supply : Supply} {v : Value} {env inner : Env}
  {s s' : RunState}

/-- Performing instructions is meeting their demands, binding their names and evaluating the defaults whose keys
are missing. -/
theorem performs_iff {L : List Instruction} :
    Performs h call supply v L env s inner s' ↔
      (∀ shape path, .demand shape path ∈ L → (v.component supply path).hasShape shape = true) ∧
      inner = bindEach supply v (L.filterMap Instruction.binding?) env ∧
      EvaluatedInTurn h call supply (missing supply v L env) s s' := by
  induction L generalizing env s with
  | nil =>
    constructor
    · rintro ⟨rfl, rfl⟩
      exact ⟨fun _ _ hmem => (by cases hmem), rfl, .nil⟩
    · rintro ⟨-, hinner, hturn⟩
      cases hturn
      exact ⟨hinner, rfl⟩
  | cons instruction rest ih =>
    cases instruction with
    | demand shape path =>
      rw [Performs, ih, ← and_assoc]
      refine and_congr_left fun _ => ?_
      simp only [List.mem_cons, Instruction.demand.injEq]
      constructor
      · rintro ⟨hfirst, hrest⟩ _ _ (⟨rfl, rfl⟩ | hmem)
        · exact hfirst
        · exact hrest _ _ hmem
      · intro hall
        exact ⟨hall _ _ (.inl ⟨rfl, rfl⟩), fun _ _ hmem => hall _ _ (.inr hmem)⟩
    | default path i key e =>
      simp only [Performs, missing, List.mem_cons, reduceCtorEq, false_or, ih]
      split
      · constructor
        · rintro ⟨w, s₁, heval, hw, hfits, hinner, hturn⟩
          exact ⟨hfits, hinner, .cons heval hw hturn⟩
        · rintro ⟨hfits, hinner, hturn⟩
          cases hturn with
          | cons heval hw hturn => exact ⟨_, _, heval, hw, hfits, hinner, hturn⟩
      · exact Iff.rfl
    | bind x path =>
      simp only [Performs, missing, List.mem_cons, reduceCtorEq, false_or, ih]
      exact Iff.rfl

theorem lookup?_bind (env : Env) (x y : String) (w : Value) :
    Env.lookup? (Env.bind env x w) y = if x = y then some w else Env.lookup? env y := by
  unfold Env.lookup? Env.bind
  rw [List.find?_cons]
  by_cases hxy : x = y
  · rw [if_pos hxy, beq_iff_eq.2 hxy]
    rfl
  · rw [if_neg hxy, beq_eq_false_iff_ne.2 hxy]

/-- Of several bindings of a name the last one counts. By induction on the bindings: either the name is bound
again after the first one, or the first one stays. -/
theorem lookup?_bindEach (x : String) (bs : List (String × Path)) : ∀ env : Env,
    (x ∉ bs.map (·.1) → Env.lookup? (bindEach supply v bs env) x = Env.lookup? env x) ∧
    (x ∈ bs.map (·.1) → ∃ before path after, bs = before ++ (x, path) :: after ∧ (∀ b ∈ after, b.1 ≠ x) ∧
      Env.lookup? (bindEach supply v bs env) x = some (v.component supply path)) := by
  induction bs with
  | nil => exact fun _ => ⟨fun _ => rfl, fun hmem => by cases hmem⟩
  | cons b bs ih =>
    intro env
    obtain ⟨hothers, hbound⟩ := ih (Env.bind env b.1 (v.component supply b.2))
    rw [lookup?_bind] at hothers
    constructor
    · intro hnot
      obtain ⟨hb, hbs⟩ := not_or.1 fun hmem => hnot (List.mem_cons.2 hmem)
      rw [if_neg (Ne.symm hb)] at hothers
      exact hothers hbs
    · intro hmem
      by_cases hbs : x ∈ bs.map (·.1)
      · obtain ⟨before, path, after, rfl, hafter, hlookup⟩ := hbound hbs
        exact ⟨b :: before, path, after, rfl, hafter, hlookup⟩
      · obtain rfl := (List.mem_cons.1 hmem).resolve_right hbs
        rw [if_pos rfl] at hothers
        refine ⟨[], b.2, bs, rfl, fun c hc hcb => hbs ?_, hothers hbs⟩
        exact hcb ▸ List.mem_map_of_mem hc

end

/-- Which names are bound does not depend on where the parts are. -/
theorem names_under (step : PathStep) (L : List Instruction) :
    ((L.map (.under step)).filterMap Instruction.binding?).map (·.1) =
      (L.filterMap Instruction.binding?).map (·.1) := by
  induction L with
  | nil => rfl
  | cons instruction rest ih =>
    cases instruction with
    | demand shape path => exact ih
    | default path i key e => exact ih
    | bind x path => exact congrArg (x :: ·) ih

mutual

/-- The names that the instructions of a pattern bind are the names of the pattern. -/
theorem mem_binds_iff (x : String) : ∀ p : Pattern, x ∈ p.binds.map (·.1) ↔ x ∈ p.names
  | .name y => by
    rw [binds, instructions, names]
    exact Iff.rfl
  | .ignore => by
    rw [binds, instructions, names]
    exact Iff.rfl
  | .whole y p => by
    have ih := mem_binds_iff x p
    rw [binds] at ih
    rw [binds, instructions, names, List.filterMap_append, List.map_append, List.mem_append, ih, List.mem_cons,
      or_comm]
    exact or_congr_left List.mem_singleton
  | .map parts => by
    rw [binds, instructions, names]
    exact mem_binds_parts_iff x parts 0
  | .seq items none => by
    rw [binds, instructions, names]
    exact mem_binds_items_iff x items 0
  | .seq items (some rest) => by
    have hrest := mem_binds_iff x rest
    rw [binds, ← names_under (.rest items.length)] at hrest
    rw [binds, instructions, names, List.mem_append, ← hrest, ← mem_binds_items_iff x items 0, ← List.mem_append,
      ← List.map_append, ← List.filterMap_append]
    exact Iff.rfl

theorem mem_binds_parts_iff (x : String) : ∀ (parts : List (Pattern × Literal × Option Expr)) (i : Nat),
    x ∈ ((instructionsOfParts i parts).filterMap Instruction.binding?).map (·.1) ↔ x ∈ namesOfParts parts
  | [], i => by
    rw [instructionsOfParts, namesOfParts]
    exact Iff.rfl
  | (p, key, none) :: rest, i => by
    have hp := mem_binds_iff x p
    rw [binds, ← names_under (.entry i key)] at hp
    rw [instructionsOfParts, namesOfParts, List.filterMap_append, List.map_append, List.mem_append, hp,
      mem_binds_parts_iff x rest (i + 1), List.mem_append]
  | (p, key, some e) :: rest, i => by
    have hp := mem_binds_iff x p
    rw [binds, ← names_under (.entryOr i key)] at hp
    rw [instructionsOfParts, namesOfParts, List.filterMap_append, List.map_append, List.mem_append,
      mem_binds_parts_iff x rest (i + 1), List.mem_append, ← hp]
    exact Iff.rfl

theorem mem_binds_items_iff (x : String) : ∀ (items : List Pattern) (i : Nat),
    x ∈ ((instructionsOfItems i items).filterMap Instruction.binding?).map (·.1) ↔ x ∈ namesOfAll items
  | [], i => by
    rw [instructionsOfItems, namesOfAll]
    exact Iff.rfl
  | p :: rest, i => by
    have hp := mem_binds_iff x p
    rw [binds, ← names_under (.item i)] at hp
    rw [instructionsOfItems, namesOfAll, List.filterMap_append, List.map_append, List.mem_append, hp,
      mem_binds_items_iff x rest (i + 1), List.mem_append]

end

theorem boundIn_bindEach (supply : Supply) (v : Value) (p : Pattern) (env : Env) :
    p.BoundIn supply v env (bindEach supply v p.binds env) where
  others x hx := (lookup?_bindEach x p.binds env).1 fun hmem => hx ((mem_binds_iff x p).1 hmem)
  bound x hx := (lookup?_bindEach x p.binds env).2 ((mem_binds_iff x p).2 hx)

end Pattern

end ToolLisp
