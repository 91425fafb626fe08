import ToolLisp.Proofs.Simulation

/-!
# The state of the interpreter

An interpretation that threads everything through one state: what the host passes in, what changes during
a run, and a counter of the calls that are being made. The counter is compared with its limit before each
call, counted up when the call begins and counted down when it ends, whichever way it ends. The state also
records all values that the counter takes.

The main statement is that this interpretation gives what evaluation gives, and leaves the state as it
found it: the counter is back at its value and has not exceeded the limit, what the host passes in is the
same, no definition is lost, and none is added under the name of a builtin function. The state is kept by
each operation of a run, so it is kept by every loop, by induction on its turns, by every expression, by the
induction of `Simulation`, and by every call, by induction on the calls that may still be nested.
-/

namespace ToolLisp

open EvalM

/-! ## Machines -/

/-- The state of an interpreter. -/
structure Machine where
  /-- The context, the memory, the limits and the tools. -/
  host : Host
  /-- What changes during a run. -/
  state : RunState
  /-- How many calls are being made. -/
  depth : Nat
  /-- The values that `depth` has been set to, the last one first. -/
  depths : List Nat

/-- Sets the counter of calls. -/
def Machine.count (m : Machine) (depth : Nat) : Machine :=
  { m with depth := depth, depths := depth :: m.depths }

/-- A computation of an interpreter. -/
def MachineM (α : Type) : Type :=
  Machine → Except Signal α × Machine

namespace MachineM

variable {α β : Type}

/-- One computation after the other. -/
def andThen (x : MachineM α) (f : α → MachineM β) : MachineM β :=
  fun m =>
    match x m with
    | (.ok a, m) => f a m
    | (.error e, m) => (.error e, m)

instance : Monad MachineM where
  pure a := fun m => (.ok a, m)
  bind := andThen

theorem bind_apply (x : MachineM α) (f : α → MachineM β) (m : Machine) :
    (x >>= f) m =
      match x m with
      | (.ok a, m) => f a m
      | (.error e, m) => (.error e, m) := rfl

/-- What the host passes in. -/
def host : MachineM Host :=
  fun m => (.ok m.host, m)

/-- A computation that sees only what changes during a run. -/
def lift (x : EvalM α) : MachineM α :=
  fun m => ((x m.state).1, { m with state := (x m.state).2 })

/-- Goes on with the new values if a turn of a loop asks for another one. -/
def orAgain (x : MachineM Value) (again : List Value → MachineM Value) : MachineM Value :=
  fun m =>
    match x m with
    | (.error (.recur vs), m) => again vs m
    | result => result

/-- The turns of a loop, at most `n` more of them. -/
def turns (limit : Nat) (body : Env → MachineM Value) (rebind : List Value → MachineM Env) :
    Nat → Env → MachineM Value
  | 0, env => (body env).orAgain fun _ => lift (fail (.loopLimit limit))
  | n + 1, env => (body env).orAgain fun vs => do
    let inner ← rebind vs
    turns limit body rebind n inner

/-- A loop. -/
def loop (body : Env → MachineM Value) (rebind : List Value → MachineM Env) (env : Env) :
    MachineM Value := do
  let h ← host
  turns h.limits.loop body rebind h.limits.loop env

/-- Stops because too many calls are being made. -/
def tooDeep : MachineM α := do
  let h ← host
  lift (fail (.recursionLimit h.limits.recursion))

/-- Counts a call while it is being made, unless too many are. -/
def counted (x : MachineM α) : MachineM α := fun m =>
  if m.host.limits.recursion ≤ m.depth then tooDeep m
  else
    let (result, after) := x (m.count (m.depth + 1))
    (result, after.count (after.depth - 1))

end MachineM

/-- The interpretation by machines. -/
def Interpretation.counting (call : Value → List Value → MachineM Value) :
    Interpretation MachineM where
  host := MachineM.host
  lift := MachineM.lift
  call := call
  recur vs := MachineM.lift (cut (.recur vs))
  loop := MachineM.loop

/-- Calls a value. The calls that this makes are nested at most `n` deep, but the counter alone decides
whether there are too many if `n` is large enough. -/
def Machine.applyAt : Nat → Value → List Value → MachineM Value
  | 0, _, _ => MachineM.tooDeep
  | n + 1, f, args => MachineM.counted ((Interpretation.counting (applyAt n)).dispatch f args)

/-! ## What a computation leaves as it was -/

theorem NameMap.contains_insert {α : Type} (name other : String) (a : α) (m : NameMap α) :
    contains (insert name a m) other = (name == other || contains m other) := by
  induction m with
  | nil => simp [insert, contains]
  | cons e rest ih =>
    unfold insert
    split
    · simp [contains]
    · next h =>
      rw [Std.LawfulEqCmp.eq_of_compare h]
      simp [contains]
    · simp only [contains, List.any_cons] at ih ⊢
      rw [ih, Bool.or_left_comm]

/-- No definition is lost, and none is added under the name of a builtin function. -/
structure RunState.Extends (s s' : RunState) : Prop where
  /-- The names that were defined. -/
  kept (name : String) :
    NameMap.contains s.definitions name → NameMap.contains s'.definitions name
  /-- The names that are new. -/
  added (name : String) : NameMap.contains s'.definitions name →
    NameMap.contains s.definitions name ∨ Builtin.isName name = false

theorem RunState.Extends.of_eq {s s' : RunState} (h : s'.definitions = s.definitions) :
    s.Extends s' := by
  refine ⟨fun name hn => ?_, fun name hn => .inl ?_⟩
  · rwa [h]
  · rwa [← h]

/-- What a computation leaves as it was in the state of the interpreter. -/
structure Machine.Kept (m m' : Machine) : Prop where
  /-- The context, the memory, the limits and the tools. -/
  host : m'.host = m.host
  /-- The counter is where it was. -/
  depth : m'.depth = m.depth
  /-- The counter has not exceeded its limit. -/
  depths : ∃ passed, m'.depths = passed ++ m.depths ∧ ∀ d ∈ passed, d ≤ m.host.limits.recursion
  /-- The definitions. -/
  state : m.state.Extends m'.state

namespace Machine.Kept

theorem of_state (m : Machine) {s : RunState} (hs : m.state.Extends s) :
    m.Kept { m with state := s } :=
  ⟨rfl, rfl, ⟨[], rfl, fun _ h => by cases h⟩, hs⟩

theorem refl (m : Machine) : m.Kept m :=
  of_state m (.of_eq rfl)

theorem trans {m m' m'' : Machine} (h : m.Kept m') (h' : m'.Kept m'') : m.Kept m'' where
  host := h'.host.trans h.host
  depth := h'.depth.trans h.depth
  depths := by
    obtain ⟨passed, hp, hle⟩ := h.depths
    obtain ⟨passed', hp', hle'⟩ := h'.depths
    refine ⟨passed' ++ passed, ?_, fun d hd => ?_⟩
    · rw [hp', hp, List.append_assoc]
    · rcases List.mem_append.1 hd with hd | hd
      · exact h.host ▸ hle' d hd
      · exact hle d hd
  state := by
    refine ⟨fun name hn => h'.state.kept name (h.state.kept name hn), fun name hn => ?_⟩
    rcases h'.state.added name hn with hn | hn
    · exact h.state.added name hn
    · exact .inr hn

/-- A call that is counted within the limit. -/
theorem counted {m m' : Machine} (hd : m.depth < m.host.limits.recursion)
    (h : (m.count (m.depth + 1)).Kept m') : m.Kept (m'.count (m'.depth - 1)) where
  host := h.host
  depth := by
    rw [Machine.count, h.depth]
    rfl
  depths := by
    obtain ⟨passed, hp, hle⟩ := h.depths
    refine ⟨(m'.depth - 1) :: passed ++ [m.depth + 1], ?_, fun d hmem => ?_⟩
    · simp [Machine.count, hp]
    · simp only [List.cons_append, List.mem_cons, List.mem_append, List.not_mem_nil, or_false] at hmem
      have hdepth : m'.depth = m.depth + 1 := h.depth
      rcases hmem with rfl | hmem | rfl
      · omega
      · exact hle d hmem
      · omega
  state := h.state

end Machine.Kept

/-! ## Computations that keep the state -/

/-- A computation of the interpreter gives what a computation of a run gives, and keeps the state of the
interpreter. -/
def Machine.Follows {α : Type} (m : Machine) (x : EvalM α) (y : MachineM α) : Prop :=
  ((y m).1, (y m).2.state) = x m.state ∧ m.Kept (y m).2

/-- A computation of the interpreter follows one of a run, in all states of the host `h` in which `d` calls
are being made, and its result satisfies `P`. -/
def MachineM.Performs {α : Type} (h : Host) (d : Nat) (P : α → Prop) (x : EvalM α)
    (y : MachineM α) : Prop :=
  ∀ m : Machine, m.host = h → m.depth = d → m.Follows x y ∧ ∀ a, (y m).1 = .ok a → P a

namespace MachineM.Performs

variable {h : Host} {d : Nat} {α β : Type} {P : α → Prop} {P' : β → Prop}

theorem pure {a : α} (ha : P a) : Performs h d P (pure a) (pure a) := by
  intro m _ _
  refine ⟨⟨rfl, .refl m⟩, fun b hb => ?_⟩
  cases hb
  exact ha

theorem bind {x : EvalM α} {y : MachineM α} {f : α → EvalM β} {g : α → MachineM β}
    (hx : Performs h d P x y) (hf : ∀ a, P a → Performs h d P' (f a) (g a)) :
    Performs h d P' (x >>= f) (y >>= g) := by
  intro m hm hd
  obtain ⟨⟨hxy, hk⟩, hp⟩ := hx m hm hd
  unfold Machine.Follows
  rw [EvalM.bind_apply, MachineM.bind_apply, ← hxy]
  rcases hy : y m with ⟨e | a, m'⟩
  · rw [hy] at hk
    exact ⟨⟨rfl, hk⟩, fun _ h => by cases h⟩
  · rw [hy] at hk hp
    obtain ⟨⟨hfg, hk'⟩, hp'⟩ := hf a (hp a rfl) m' (hk.host.trans hm) (hk.depth.trans hd)
    exact ⟨⟨hfg, hk.trans hk'⟩, hp'⟩

theorem host {x : EvalM α} {g : Host → MachineM α} (hx : Performs h d P x (g h)) :
    Performs h d P x (MachineM.host >>= g) := by
  intro m hm hd
  have hread : (MachineM.host >>= g) m = g h m := by
    rw [← hm]
    rfl
  unfold Machine.Follows
  rw [hread]
  exact hx m hm hd

/-- An operation on the state of a run that makes no forbidden definition. -/
theorem lift {x : EvalM α} (hx : ∀ s : RunState, s.Extends (x s).2) (hp : ∀ s a, (x s).1 = .ok a → P a) :
    Performs h d P x (lift x) :=
  fun m _ _ => ⟨⟨rfl, .of_state m (hx m.state)⟩, hp m.state⟩

theorem cut (e : Signal) : Performs h d P (cut e) (MachineM.lift (EvalM.cut e)) :=
  .lift (fun _ => .of_eq rfl) fun _ _ h => by cases h

theorem define {name : String} (hn : Builtin.isName name = false) (v : Value) :
    Performs h d (fun _ => True) (define name v) (MachineM.lift (EvalM.define name v)) := by
  refine .lift (fun s => ⟨fun other ho => ?_, fun other ho => ?_⟩) fun _ _ _ => trivial
  · simp only [EvalM.define, NameMap.contains_insert, ho, Bool.or_true]
  · simp only [EvalM.define, NameMap.contains_insert, Bool.or_eq_true, beq_iff_eq] at ho
    rcases ho with rfl | ho
    · exact .inr hn
    · exact .inl ho

theorem orAgain {x : EvalM Value} {y : MachineM Value} {f : List Value → EvalM Value}
    {g : List Value → MachineM Value} {P : Value → Prop} (hx : Performs h d P x y)
    (hf : ∀ vs, Performs h d P (f vs) (g vs)) :
    Performs h d P (x.orAgain f) (y.orAgain g) := by
  intro m hm hd
  obtain ⟨⟨hxy, hk⟩, hp⟩ := hx m hm hd
  unfold Machine.Follows EvalM.orAgain MachineM.orAgain
  rw [← hxy]
  rcases hy : y m with ⟨e | a, m'⟩
  · rw [hy] at hk
    cases e with
    | recur vs =>
      obtain ⟨⟨hfg, hk'⟩, hp'⟩ := hf vs m' (hk.host.trans hm) (hk.depth.trans hd)
      exact ⟨⟨hfg, hk.trans hk'⟩, hp'⟩
    | error e => exact ⟨⟨rfl, hk⟩, fun _ h => by cases h⟩
    | ret v => exact ⟨⟨rfl, hk⟩, fun _ h => by cases h⟩
  · rw [hy] at hk hp
    exact ⟨⟨rfl, hk⟩, hp⟩

/-- The turns of a loop, by induction on how many are left. -/
theorem turns {limit : Nat} {body : Env → EvalM Value} {body' : Env → MachineM Value}
    {rebind : List Value → EvalM Env} {rebind' : List Value → MachineM Env} {P : Value → Prop}
    {P' : Env → Prop} (hb : ∀ env, Performs h d P (body env) (body' env))
    (hr : ∀ vs, Performs h d P' (rebind vs) (rebind' vs)) (n : Nat) :
    ∀ env, Performs h d P (iterate limit body rebind n env) (turns limit body' rebind' n env) := by
  induction n with
  | zero =>
    intro env
    rw [iterate_zero]
    exact (hb env).orAgain fun _ => .cut _
  | succ n ih =>
    intro env
    rw [iterate_succ]
    exact (hb env).orAgain fun vs => (hr vs).bind fun inner _ => ih inner

theorem tooDeep : Performs h d P (fail (.recursionLimit h.limits.recursion)) tooDeep :=
  .host (.cut _)

/-- A call within the limit is performed one deeper. -/
theorem counted {x : EvalM α} {y : MachineM α} (hd : d < h.limits.recursion)
    (hx : Performs h (d + 1) P x y) : Performs h d P x (counted y) := by
  intro m hm hmd
  have hlt : m.depth < m.host.limits.recursion := by rw [hm, hmd]; exact hd
  obtain ⟨⟨hxy, hk⟩, hp⟩ := hx (m.count (m.depth + 1)) hm (congrArg (· + 1) hmd)
  unfold Machine.Follows MachineM.counted
  rw [if_neg (Nat.not_le.2 hlt)]
  exact ⟨⟨hxy, .counted hlt hk⟩, hp⟩

end MachineM.Performs

open MachineM (Performs)

/-! ## Expressions and calls -/

/-- Evaluation is simulated by machines at every depth, if calls are. -/
theorem counting_simulation {h : Host} {d : Nat} {call : Value → List Value → EvalM Value}
    {apply : Value → List Value → MachineM Value}
    (hc : ∀ f args, Performs h d (fun _ => True) (call f args) (apply f args)) :
    Simulation (fun _ => True) (fun _ _ => True) h h.limits call (.counting apply)
      (fun _ P => Performs h d P) (fun _ => Performs h d fun _ => True) where
  toKind := .all
  context _ := trivial
  memory _ := trivial
  pure := .pure
  bind := .bind
  host hx := .host hx
  fail _ := .cut _
  ret _ := .cut _
  freshStamp := .lift (fun _ => .of_eq rfl) fun _ _ _ => trivial
  definition? name := .lift (fun _ => .of_eq rfl) fun _ _ _ _ _ => trivial
  define hn _ := .define hn _
  askTool _ _ := by
    refine .lift (fun s => .of_eq ?_) fun _ _ _ => trivial
    unfold askTool
    dsimp only
    split <;> rfl
  call _ _ := hc _ _
  loop hb hr env _ :=
    .host (.turns (fun env => hb env fun _ _ => trivial) (fun vs => hr vs fun _ _ => trivial) _ env)
  recur _ _ _ := .cut _
  last hx := hx
  before := .bind
  inside hx := hx

/-- Calls are performed at every depth up to the limit. By induction on the calls that may be nested in
them. -/
theorem applyAt_performs (h : Host) (n : Nat) :
    ∀ d, d ≤ h.limits.recursion → h.limits.recursion ≤ d + n → ∀ f args,
      Performs h d (fun _ => True) (callAt h (h.limits.recursion - d) f args)
        (Machine.applyAt n f args) := by
  induction n with
  | zero =>
    intro d hd hn f args
    have hlimit : h.limits.recursion - d = 0 := by omega
    rw [hlimit]
    exact .tooDeep
  | succ n ih =>
    intro d hd hn f args
    rcases Nat.lt_or_ge d h.limits.recursion with hlt | hge
    · have hlimit : h.limits.recursion - d = h.limits.recursion - (d + 1) + 1 := by omega
      rw [hlimit, callAt, Machine.applyAt]
      have S := counting_simulation (ih (d + 1) hlt (by omega))
      exact .counted hlt (S.dispatch_sim trivial fun _ _ => trivial)
    -- at the limit both sides refuse the call
    · have hlimit : h.limits.recursion - d = 0 := by omega
      rw [hlimit, callAt, Machine.applyAt]
      intro m hm hmd
      have hge : m.host.limits.recursion ≤ m.depth := by rw [hm, hmd]; exact hge
      unfold Machine.Follows MachineM.counted
      rw [if_pos hge]
      exact Performs.tooDeep m hm hmd

/-- The interpreter keeps its state, whichever way it ends. In a state in which no more calls are being
made than the limit allows, evaluating an expression, calling a value and binding a pattern

* give the value, error, end of the program or `recur` that evaluation gives, and the same definitions and
  calls of tools, when as many calls may still be nested as the limit leaves;
* leave the counter of calls where it was, and never set it to more than the limit;
* leave context, memory, limits and tools as they were;
* lose no definition, and add none under the name of a builtin function.

It does not matter how many calls `Machine.applyAt` allows, if these are at least as many as the limit
leaves. -/
theorem interpreter_keeps_state (m : Machine) (hd : m.depth ≤ m.host.limits.recursion) (n : Nat)
    (hn : m.host.limits.recursion ≤ m.depth + n) :
    (∀ e env, m.Follows (eval m.host (callAt m.host (m.host.limits.recursion - m.depth)) e env)
      ((Interpretation.counting (Machine.applyAt n)).eval e env)) ∧
    (∀ f args, m.Follows (callAt m.host (m.host.limits.recursion - m.depth) f args)
      (Machine.applyAt n f args)) ∧
    (∀ p v env,
      m.Follows (bindPattern m.host (callAt m.host (m.host.limits.recursion - m.depth)) p v env)
        ((Interpretation.counting (Machine.applyAt n)).bindPattern p v env)) := by
  have hc := applyAt_performs m.host n m.depth hd hn
  have S := counting_simulation hc
  refine ⟨fun e env => ?_, fun f args => (hc f args m rfl rfl).1, fun p v env => ?_⟩
  · exact (S.eval_sim e none env trivial (fun _ _ => trivial) m rfl rfl).1
  · have hbind := S.bindPattern_sim p v env (fun _ _ => trivial) trivial fun _ _ => trivial
    exact (hbind m rfl rfl).1

/-- Two calls are allowed and one is being made. Mapping a function makes the second and fails at the
third, after a definition has been made. -/
theorem interpreter_keeps_state_too_deep :
    ∃ (m : Machine) (e : Expr), m.depth = 1 ∧ m.host.limits.recursion = 2 ∧
      m.Kept ((Interpretation.counting (Machine.applyAt 1)).eval e .initial m).2 ∧
      ((Interpretation.counting (Machine.applyAt 1)).eval e .initial m).2.depths = [1, 2] ∧
      ((Interpretation.counting (Machine.applyAt 1)).eval e .initial m).2.state.definitions.length = 1 ∧
      ((Interpretation.counting (Machine.applyAt 1)).eval e .initial m).1.isOk = false := by
  refine ⟨⟨{ Host.bare with limits := ⟨10, 2⟩ }, .fresh, 1, []⟩, .sequence [.define "y" (.literal .nil),
    .call (.var "map") [.fn [.name "x"] (.var "x"), .vector [.var "y"]]], rfl, rfl, ?_⟩
  refine ⟨((interpreter_keeps_state _ (by decide) 1 (by decide)).1 _ _).2, ?_⟩
  decide +kernel

end ToolLisp
