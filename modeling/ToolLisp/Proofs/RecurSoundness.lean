import ToolLisp.Proofs.Analysis
import ToolLisp.Proofs.Functions
import ToolLisp.Proofs.Soundness

/-!
# Entering loops and functions again

A `recur` cuts evaluation short until the loop or function around it is entered again. `EvalM.Sound` says
of a computation that it asks for this only where the place allows it, with as many values as the place
takes, and that it keeps a property of all functions in the run. It is shown of every expression by the
induction of `Simulation`, of loops by induction on the turns that are left, and of calls by induction on
the depth.

Of an expression this needs only what `Discipline` says: its parts are of the same kind, a `recur` has the
right place, and the functions that it makes are of the kind that may be called. What occurs in a program
is of such a kind. The main result is about these expressions, so it holds of whole sessions, in which
functions outlive the program that made them.
-/

namespace ToolLisp

open EvalM Expr

variable {Q : List Pattern → Expr → Env → Prop} {α β : Type}

/-! ## Functions in states and hosts -/

/-- `Q` holds of every function that is defined or was passed to a tool. -/
def RunState.EachFn (Q : List Pattern → Expr → Env → Prop) (s : RunState) : Prop :=
  Env.EachFn Q s.definitions ∧ ∀ c ∈ s.calls, Entries.EachFn Q c.args

/-- `Q` holds of every function that the host passes to a program, provided that it holds of the functions
that programs pass to the host. -/
structure Host.EachFn (Q : List Pattern → Expr → Env → Prop) (h : Host) : Prop where
  /-- The context. -/
  context : Entries.EachFn Q h.context
  /-- The memory. -/
  memory : Entries.EachFn Q h.memory
  /-- The answers of tools. -/
  tools {calls : List ToolCall} {name : String} {args : Entries} {v : Value} :
    (∀ c ∈ calls, Entries.EachFn Q c.args) → Entries.EachFn Q args →
      h.tools.answer calls name args = .ok v → v.EachFn Q

theorem RunState.eachFn_iff {s : RunState} : s.EachFn Q ↔ s.Each (Value.EachFn Q) := by
  simp only [RunState.EachFn, RunState.Each, Value.eachFn_map]
  rfl

theorem Host.EachFn.each {h : Host} (hh : h.EachFn Q) : h.Each (Value.EachFn Q) where
  context := Value.eachFn_map.2 hh.context
  memory := Value.eachFn_map.2 hh.memory
  tools hc ha := hh.tools (fun c hmem => Value.eachFn_map.1 (hc c hmem)) (Value.eachFn_map.1 ha)

/-- The functions at the beginning of a run are those in the definitions. -/
theorem RunState.EachFn.start {definitions : Definitions} (hd : ∀ d ∈ definitions, d.2.EachFn Q)
    {stamp : Nat} : (RunState.start definitions stamp).EachFn Q :=
  ⟨hd, fun _ h => by cases h⟩

theorem RunState.EachFn.fresh : RunState.fresh.EachFn Q :=
  .start fun _ h => by cases h

/-- No functions are passed to a program. -/
theorem Host.EachFn.bare : Host.bare.EachFn Q :=
  ⟨.nil, .nil, fun _ _ hv => by cases hv⟩

theorem entryNamed_eachFn {m : Entries} (hm : Entries.EachFn Q m) (name : String) :
    (entryNamed m name).EachFn Q :=
  entryNamed_stable hm name

/-- A tool that gives back the function which is passed to it. -/
def Tools.handBack : Tools :=
  ⟨(· == "id"), fun _ _ args => .ok (entryNamed args "f")⟩

theorem Host.EachFn.handBack : Host.EachFn Q { Host.bare with tools := .handBack } := by
  refine ⟨.nil, .nil, fun _ ha hv => ?_⟩
  cases hv
  exact entryNamed_eachFn ha "f"

/-! ## Expressions and calls -/

/-- The loop or function that a `recur` in a place would enter again takes so many values. -/
def Place.Takes (a : Place) (n : Nat) : Prop :=
  a = some n

theorem Place.Takes.of_none {a : Place} {n : Nat} (h : Place.Takes none n) : a.Takes n := by
  cases h

/-- What the induction needs of a kind of expressions in places, and of the functions that may be
called. -/
structure Discipline (Q : List Pattern → Expr → Env → Prop) (G : Place → Expr → Prop) : Prop where
  /-- The parts of an expression of the kind. -/
  part {a b : Place} {e e' : Expr} : G a e → (b, e') ∈ e.parts a → G b e'
  /-- The place of a `recur`. -/
  recur {a : Place} {args : List Expr} : G a (.recur args) → a = some args.length
  /-- The functions that are made. -/
  fn {a : Place} {params : List Pattern} {body : Expr} (env : Env) :
    G a (.fn params body) → Q params body env
  /-- The functions that may be called. -/
  enter {params : List Pattern} {body : Expr} {env : Env} :
    Q params body env → G (some params.length) body ∧ ∀ d ∈ Pattern.defaultsOfAll params, G none d

section

variable {G : Place → Expr → Prop} (D : Discipline Q G) {h : Host} (hh : h.EachFn Q)
include D

theorem Discipline.kind : Kind (Value.EachFn Q) G where
  part := D.part
  fn _ hg he := .closure (D.fn _ hg) he
  captured hf := hf.of_closure.2
  enter hf := D.enter hf.of_closure.1

include hh

theorem eval_sound (n : Nat) {a : Place} {e : Expr} (hg : G a e) {env : Env}
    (henv : Env.EachFn Q env) :
    Sound (Value.EachFn Q) a.Takes (Value.EachFn Q) (eval h (callAt h n) e env) :=
  (Sound.simulation Place.Takes D.kind D.recur .of_none hh.each
    (Sound.callAt Place.Takes D.kind D.recur .of_none hh.each n)).eval_sim e a env hg henv

/-- No call asks for another turn of a loop around it. -/
theorem callAt_sound (n : Nat) (f : Value) (args : List Value) (hf : f.EachFn Q)
    (ha : ∀ v ∈ args, v.EachFn Q) :
    Sound (Value.EachFn Q) (Place.Takes none) (Value.EachFn Q) (callAt h n f args) :=
  Sound.callAt Place.Takes D.kind D.recur .of_none hh.each n f args hf ha

end

/-! ## Programs -/

/-- A function that some program spells out. -/
def FromProgram (params : List Pattern) (body : Expr) (_ : Env) : Prop :=
  ∃ source program a, compile source = .ok program ∧ Occurs none program a (.fn params body)

/-- An expression that fits its place and spells out only functions of programs. -/
def Proper (a : Place) (e : Expr) : Prop :=
  e.Fits a ∧ ∀ b params body env, Occurs a e b (.fn params body) → FromProgram params body env

/-- What occurs in a program is proper. -/
theorem Proper.of_occurs {source : String} {program : Expr} (h : compile source = .ok program)
    {a : Place} {e : Expr} (ho : Occurs none program a e) : Proper a e := by
  refine ⟨(compile_fits h).occurs ho, fun b params body _ hb => ?_⟩
  exact ⟨source, program, b, h, ho.trans hb⟩

theorem proper_discipline : Discipline FromProgram Proper where
  part he hp := ⟨he.1.part hp, fun b params body env hb => he.2 b params body env (hb.head hp)⟩
  recur he := he.1.of_recur
  fn env he := he.2 _ _ _ env .here
  enter := by
    rintro params body env ⟨source, program, a, h, ho⟩
    refine ⟨.of_occurs h (ho.part List.mem_cons_self), fun d hd => .of_occurs h (ho.part ?_)⟩
    exact List.mem_cons_of_mem _ (List.mem_map.2 ⟨d, hd, rfl⟩)

/-- Evaluation asks for another turn with the values `vs`. -/
def EvalM.AsksAgain (x : EvalM Value) (s : RunState) (vs : List Value) : Prop :=
  (x s).1 = .error (.recur vs)

/-- A sound computation asks for another turn only with as many values as its place takes. -/
theorem EvalM.Sound.length_of_asksAgain {a : Place} {P : Value → Prop} {x : EvalM Value}
    (hx : Sound (Value.EachFn Q) a.Takes P x) {s : RunState} (hs : s.EachFn Q) {vs : List Value}
    (h : x.AsksAgain s vs) : a = some vs.length := by
  have hfits := (hx s (RunState.eachFn_iff.1 hs)).2
  rw [show (x s).1 = _ from h] at hfits
  exact hfits.1

section

variable {h : Host} (hh : h.EachFn FromProgram)
include hh

theorem eval_proper (n : Nat) {a : Place} {e : Expr} (he : Proper a e) {env : Env}
    (henv : Env.EachFn FromProgram env) :
    Sound (Value.EachFn FromProgram) a.Takes (Value.EachFn FromProgram)
      (eval h (callAt h n) e env) :=
  eval_sound proper_discipline hh n he henv

/-- Evaluating a program is sound, so what it leaves can be passed to the next program. -/
theorem evaluate_proper {program : Expr} (he : Proper none program) {s : RunState}
    (hs : s.EachFn FromProgram) :
    (evaluate h program .initial s).1 ≠ .error (.type .strayRecur) ∧
      (evaluate h program .initial s).2.EachFn FromProgram ∧
      ∀ e, (evaluate h program .initial s).1 = .ok e → e.value.EachFn FromProgram := by
  have hs := RunState.eachFn_iff.1 hs
  have hx := eval_proper hh h.limits.recursion he Env.eachFn_initial
  have hkept := hx.evaluated hs
  refine ⟨fun hstray => ?_, RunState.eachFn_iff.2 hkept.1, hkept.2⟩
  have hfits := (hx s hs).2
  unfold evaluate callTop at hstray
  rcases hr : eval h (callAt h h.limits.recursion) program .initial s with ⟨e | v, s'⟩
  · rw [hr] at hfits hstray
    cases e with
    | error e =>
      cases hstray
      exact hfits rfl
    | ret v => cases hstray
    | recur vs => cases hfits.1
  · rw [hr] at hstray
    cases hstray

end

/-- As many values as bindings are all bound. -/
theorem rebindAll_eq_bindItems (h : Host) (call : Value → List Value → EvalM Value) :
    ∀ {bs : List (Pattern × Expr)} {vs : List Value}, vs.length = bs.length → ∀ env,
      rebindAll h call bs vs env = bindItems h call (bs.map (·.1)) vs env
  | [], vs, _, env => by simp only [rebindAll, List.map_nil, bindItems]
  | _ :: _, [], hl, _ => by cases hl
  | (p, e) :: bs, v :: vs, hl, env => by
    have ih := rebindAll_eq_bindItems h call (Nat.succ.inj hl)
    simp only [rebindAll, List.map_cons, bindItems, List.headD_cons, List.tail_cons, ih]

theorem exists_program_of_isOk {source : String} (h : (compile source).isOk = true) :
    ∃ program, compile source = .ok program := by
  cases hp : compile source with
  | error e =>
    rw [hp] at h
    cases h
  | ok program => exact ⟨program, rfl⟩

/-- A `recur` is caught by the loop or function around it, with the values that this takes. Let every
function that the host passes to a program come from a program, and let the program be compiled. In all
bindings and states whose functions come from programs, and at every depth of calls:

* no expression of the program in a place after which something remains to be done asks for another
  turn, nor does one that the analysis takes for such an expression;
* the body of a loop of the program asks for another turn only with as many values as there are bindings,
  and these are all bound;
* the body of a function asks for another turn only with as many values as there are parameters, and
  these are all bound without an error about their number;
* no call asks for another turn;
* evaluating the program does not fail with the error of a stray `recur`, and the functions that it leaves
  come from programs again. -/
theorem recur_is_caught {h : Host} (hh : h.EachFn FromProgram) {source : String} {program : Expr}
    (hp : compile source = .ok program) :
    (∀ e, Occurs none program none e → ∀ n env s vs, Env.EachFn FromProgram env →
      s.EachFn FromProgram → ¬ (eval h (callAt h n) e env).AsksAgain s vs) ∧
    (∀ a e, Occurs none program a e → ∀ m scope f k k', scope.tail = false →
      (Form.analyzeAt m scope f).run k = .ok (e, k') → ∀ n env s vs,
      Env.EachFn FromProgram env → s.EachFn FromProgram →
      ¬ (eval h (callAt h n) e env).AsksAgain s vs) ∧
    (∀ a bs body, Occurs none program a (.loop bs body) → ∀ n env outer s vs,
      Env.EachFn FromProgram env → s.EachFn FromProgram →
      (eval h (callAt h n) body env).AsksAgain s vs → vs.length = bs.length ∧
      rebindAll h (callAt h n) bs vs outer = bindItems h (callAt h n) (bs.map (·.1)) vs outer) ∧
    (∀ stamp params body outer, (Value.closure stamp params body outer).EachFn FromProgram →
      ∀ n env s vs, Env.EachFn FromProgram env → s.EachFn FromProgram →
      (eval h (callAt h n) body env).AsksAgain s vs → vs.length = params.length ∧
      enter h (callAt h n) params outer vs = bindItems h (callAt h n) params vs outer) ∧
    (∀ n f args s vs, f.EachFn FromProgram → (∀ v ∈ args, v.EachFn FromProgram) →
      s.EachFn FromProgram → ¬ (callAt h n f args).AsksAgain s vs) ∧
    (∀ s, s.EachFn FromProgram →
      (evaluate h program .initial s).1 ≠ .error (.type .strayRecur) ∧
      (evaluate h program .initial s).2.EachFn FromProgram ∧
      ∀ e, (evaluate h program .initial s).1 = .ok e → e.value.EachFn FromProgram) := by
  refine ⟨?_, ?_, ?_, ?_, ?_, fun s hs => evaluate_proper hh (.of_occurs hp .here) hs⟩
  · intro e ho n env s vs henv hs hr
    cases (eval_proper hh n (.of_occurs hp ho) henv).length_of_asksAgain hs hr
  · intro a e ho m scope f k k' ht hf n env s vs henv hs hr
    -- the analysis has left `e` no place for `recur`, whatever stands around it
    have hfits := Form.analyzeAt_gives m scope f k e k' hf
    rw [Scope.place, ht] at hfits
    have hproper : Proper none e := by
      refine ⟨hfits, fun b params body env hb => ?_⟩
      obtain ⟨c, hc⟩ := hb.move a
      exact (Proper.of_occurs hp ho).2 c params body env hc
    cases (eval_proper hh n hproper henv).length_of_asksAgain hs hr
  · intro a bs body ho n env outer s vs henv hs hr
    -- the body stands where `recur` takes one value for each binding
    have hbody := Proper.of_occurs hp (ho.part List.mem_cons_self)
    have hl := (eval_proper hh n hbody henv).length_of_asksAgain hs hr
    have hl := (Option.some.inj hl).symm
    exact ⟨hl, rebindAll_eq_bindItems h _ hl outer⟩
  · intro stamp params body outer hf n env s vs henv hs hr
    have hbody := (proper_discipline.enter hf.of_closure.1).1
    have hl := (eval_proper hh n hbody henv).length_of_asksAgain hs hr
    have hl := (Option.some.inj hl).symm
    exact ⟨hl, if_pos hl⟩
  · intro n f args s vs hf ha hs hr
    cases (callAt_sound proper_discipline hh n f args hf ha).length_of_asksAgain hs hr

/-- A loop that counts down and then passes a function to a tool, which gives it back. -/
theorem recur_is_caught_countdown :
    ∃ (h : Host) (source : String) (program : Expr),
      source = "(loop [n 2] (if (pos? n) (recur (dec n)) (call \"id\" \x7b:f (fn [x] x)\x7d)))" ∧
      h.tools.answer [] "id" [(.keyword "f", .bool true)] = .ok (.bool true) ∧
      h.EachFn FromProgram ∧ compile source = .ok program ∧
      (∀ n vs, ¬ (eval h (callAt h n) program .initial).AsksAgain .fresh vs) ∧
      (evaluate h program .initial .fresh).1 ≠ .error (.type .strayRecur) := by
  let h : Host := { Host.bare with tools := .handBack }
  have hh : h.EachFn FromProgram := .handBack
  obtain ⟨program, hp⟩ := @exists_program_of_isOk
    "(loop [n 2] (if (pos? n) (recur (dec n)) (call \"id\" \x7b:f (fn [x] x)\x7d)))"
    (by decide +kernel)
  have hcaught := recur_is_caught hh hp
  refine ⟨h, _, program, rfl, rfl, hh, hp, fun n vs => ?_, (hcaught.2.2.2.2.2 _ .fresh).1⟩
  exact hcaught.1 program .here n .initial _ vs Env.eachFn_initial .fresh

end ToolLisp
