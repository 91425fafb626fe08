import ToolLisp.Proofs.ExposedCollections

/-!
# Builtin functions never fault

The functions on maps are the last that are written with their arguments read by place and with operations that
fault outside of their range. All builtin functions together are `Builtin.exposed`, which does not look at the
number of its arguments and faults for many of them. For every number that the signature accepts it does what the
builtin function does (`Builtin.exposed_safe`). So no call of a builtin function ends in a fault
(`builtin_calls_never_fault`).
-/

namespace ToolLisp

open FaultM

namespace Exposed

/-! ## Maps -/

/-- Sets one part of a map or vector. -/
def setPart (name : String) (coll k v : Value) : FaultM Value :=
  match coll, k with
  | .vector items, .number (.int i) =>
    if 0 ≤ i.toInt ∧ i.toInt.toNat < items.length then do
      let items ← setItem items i.toInt.toNat v
      pure (.vector items)
    else MapFn.setPart name coll k v
  | coll, k => MapFn.setPart name coll k v

/-- Sets parts of a collection, one after the other. -/
def setParts (coll : Value) : List (Value × Value) → FaultM Value
  | [] => pure coll
  | e :: rest => do
    let coll ← setPart "assoc" coll e.1 e.2
    setParts coll rest

/-- Sets the part at the end of a path. -/
def setIn (coll : Value) : List Value → Value → FaultM Value
  | [], v => pure v
  | k :: path, v => do
    let part ← setIn ((coll.get? k).getD .nil) path v
    setPart "assoc-in" coll (MapFn.writtenKey coll k) part

/-- Applies a function to the part at the end of a path. -/
def changeIn (f : Value) (extra : List Value) (coll : Value) : List Value → FaultM Value
  | [] => Action.invoke f (coll :: extra)
  | k :: path => do
    let part ← changeIn f extra ((coll.get? k).getD .nil) path
    setPart "update-in" coll (MapFn.writtenKey coll k) part

/-- The functions on maps. -/
def map (f : MapFn) (args : List Value) : FaultM Value :=
  match f with
  | .get | .getIn => withOptional (.map f) [0, 1] 2 args
  | .keys | .vals => atPlaces (.map f) [0] args
  | .contains | .selectKeys | .zipmap => atPlaces (.map f) [0, 1] args
  | .merge | .hashMap => (Builtin.map f).act args
  | .assoc =>
    if args.length % 2 = 0 then fail (.type .keyWithoutValue)
    else setParts (args.head?.getD .nil) (Form.pairs args.tail)
  | .assocIn => do
    let path ← item args.dropLast 1
    let path ← path.asVector "assoc-in"
    let coll ← item args.dropLast 0
    setIn coll path (args.getLast?.getD .nil)
  | .update => do
    let f ← item args 2
    let f ← f.asCallable "update"
    let coll ← item args 0
    let k ← item args 1
    let extra ← sliceFrom args 3
    let v ← Action.invoke f ((coll.get? k).getD .nil :: extra)
    setPart "update" coll (MapFn.writtenKey coll k) v
  | .updateIn => do
    let path ← item args 1
    let path ← path.asVector "update-in"
    let f ← item args 2
    let f ← f.asCallable "update-in"
    let coll ← item args 0
    let extra ← sliceFrom args 3
    changeIn f extra coll path
  | .dissoc => do
    let v ← item args 0
    let ks ← sliceFrom args 1
    MapFn.removeKeys v ks

theorem setPart_safe (name : String) (coll k v : Value) :
    Safe (setPart name coll k v) (.ofChecked (MapFn.setPart name coll k v)) := by
  cases coll with
  | vector items =>
    cases k with
    | number k =>
      cases k with
      | int i =>
        rw [setPart]
        by_cases hi : 0 ≤ i.toInt ∧ i.toInt.toNat < items.length
        · rw [if_pos hi, setItem_eq hi.2, MapFn.setPart, if_pos hi]
          rfl
        · rw [if_neg hi]
          rfl
      | float x => rfl
    | _ => rfl
  | _ => rfl

theorem setParts_safe (coll : Value) (parts : List (Value × Value)) :
    Safe (setParts coll parts)
      (.ofChecked (parts.foldlM (fun coll e => MapFn.setPart "assoc" coll e.1 e.2) coll)) := by
  induction parts generalizing coll with
  | nil => rfl
  | cons e rest ih =>
    rw [List.foldlM_cons]
    exact Safe.bind_ofChecked (setPart_safe "assoc" coll e.1 e.2) ih

theorem setIn_safe (coll : Value) (path : List Value) (v : Value) :
    Safe (setIn coll path v) (.ofChecked (MapFn.setIn "assoc-in" coll path v)) := by
  induction path generalizing coll with
  | nil => rfl
  | cons k path ih => exact Safe.bind_ofChecked (ih _) fun part => setPart_safe _ _ _ _

theorem changeIn_safe (f : Value) (extra : List Value) (coll : Value) (path : List Value) :
    Safe (changeIn f extra coll path) (MapFn.changeIn f extra coll path) := by
  induction path generalizing coll with
  | nil => rfl
  | cons k path ih => exact Safe.bind (ih _) fun part => setPart_safe _ _ _ _

theorem map_safe (f : MapFn) {args : List Value}
    (h : (Builtin.map f).signature.arity.accepts args.length = true) :
    Safe (map f args) ((Builtin.map f).act args) := by
  cases f with
  | get | getIn => exact withOptional_third rfl h
  | keys | vals => exact atPlaces_one rfl h
  | contains | selectKeys | zipmap => exact atPlaces_two rfl h
  | merge | hashMap => exact Safe.lift _
  | assoc =>
    obtain ⟨coll, k, v, rest, rfl⟩ := exists_of_accepts_atLeast_three h
    have hact : (Builtin.map .assoc).act (coll :: k :: v :: rest) = .ofChecked (MapFn.setParts coll k v rest) := rfl
    have hlength : (coll :: k :: v :: rest).length = rest.length + 3 := rfl
    rw [map, hact, MapFn.setParts, hlength]
    -- three arguments are named, so all of them are even in number when the others are odd
    by_cases heven : rest.length % 2 = 0
    · have hodd : ¬(rest.length + 3) % 2 = 0 := by omega
      rw [if_neg hodd, if_pos heven]
      exact setParts_safe coll _
    · have hodd : (rest.length + 3) % 2 = 0 := by omega
      rw [if_pos hodd, if_neg heven]
      rfl
  | assocIn =>
    obtain ⟨coll, path, v, rfl⟩ := exists_of_accepts_three h
    exact Safe.ofChecked_bind fun path _ => setIn_safe coll path v
  | update =>
    obtain ⟨coll, k, f, rest, rfl⟩ := exists_of_accepts_atLeast_three h
    refine Safe.checked_bind fun f' _ => ?_
    have hlength : 3 ≤ (coll :: k :: f :: rest).length := Nat.le_add_left 3 _
    change Safe (sliceFrom (coll :: k :: f :: rest) 3 >>= _) _
    rw [sliceFrom_eq hlength, pure_then]
    exact Safe.bind (Safe.lift _) fun v => setPart_safe _ _ _ _
  | updateIn =>
    obtain ⟨coll, path, f, rest, rfl⟩ := exists_of_accepts_atLeast_three h
    refine Safe.checked_bind fun path' _ => Safe.checked_bind fun f' _ => ?_
    have hlength : 3 ≤ (coll :: path :: f :: rest).length := Nat.le_add_left 3 _
    change Safe (sliceFrom (coll :: path :: f :: rest) 3 >>= _) _
    rw [sliceFrom_eq hlength, pure_then]
    exact changeIn_safe _ _ _ _
  | dissoc =>
    obtain ⟨v, rest, rfl⟩ := exists_of_accepts_atLeast_one h
    have hlength : 1 ≤ (v :: rest).length := Nat.le_add_left 1 _
    change Safe (sliceFrom (v :: rest) 1 >>= _) _
    rw [sliceFrom_eq hlength, pure_then]
    rfl

end Exposed

theorem Signature.actOn?_eq_none {sig : Signature} {args : List Value}
    (h : sig.arity.accepts args.length = false) : sig.actOn? args = none := by
  unfold Signature.actOn?
  split <;> simp_all [Signature.arity, Arity.accepts]

/-- Performs the calls of an action that can fault. -/
def FaultM.run {α : Type} (call : Value → List Value → EvalM Value) (x : FaultM α) : EvalM (Except Fault α) :=
  Action.run call x

namespace Builtin

/-- What a builtin function does with arguments if their number is not looked at. -/
def exposed (f : Builtin) (args : List Value) : FaultM Value :=
  match f with
  | .number f => Exposed.number f args
  | .test f => Exposed.test f args
  | .sequence f => Exposed.sequence f args
  | .map f => Exposed.map f args
  | .text f => Exposed.text f args

-- without a look at the number of arguments there are faults
example : exposed (.sequence .rest) [] = fault (.place 0 0) := rfl

/-- With a number of arguments that it accepts, a builtin function has no faults. -/
theorem exposed_safe (f : Builtin) {args : List Value} (h : f.signature.arity.accepts args.length = true)
    (hsize : ∀ v ∈ args, ∀ items, v.items "frequencies" = .ok items → items.length < 2 ^ 63) :
    Safe (f.exposed args) (f.act args) := by
  cases f with
  | number f => exact Exposed.number_safe f h
  | test f => exact Exposed.test_safe f h
  | sequence f => exact Exposed.sequence_safe f h hsize
  | map f => exact Exposed.map_safe f h
  | text f => exact Exposed.text_safe f h

theorem act_of_not_accepts (f : Builtin) {args : List Value}
    (h : f.signature.arity.accepts args.length = false) :
    f.act args = .fail (.wrongCount f.name f.signature.arity args.length) := by
  rw [act, Signature.actOn?_eq_none h]

end Builtin

/-- The calls of a safe action. -/
theorem FaultM.Safe.run {α : Type} {x : FaultM α} {y : Action α} (h : Safe x y)
    (call : Value → List Value → EvalM Value) :
    FaultM.run call x = y.run call >>= fun a => (Pure.pure (.ok a) : EvalM (Except Fault α)) := by
  rw [Safe] at h
  subst h
  exact Action.run_bind call y _

/-- No builtin function can fault. For every builtin function and all arguments, of which collections have less
than `2 ^ 63` items: if the number of arguments is not accepted, the call fails for that reason and nothing else
is done. If it is accepted, then what the function does is free of faults, at whichever place it reads its
arguments and with whatever it cuts, changes, adds and divides, and a call ends with a value, or with an error or
another signal, and never with a fault. -/
theorem builtin_calls_never_fault (f : Builtin) (args : List Value)
    (hsize : ∀ v ∈ args, ∀ items, v.items "frequencies" = .ok items → items.length < 2 ^ 63) :
    (f.signature.arity.accepts args.length = false ∧
      ∀ (h : Host) (n : Nat) (s : RunState), callAt h (n + 1) (.builtin f) args s =
        (.error (.error (.wrongCount f.name f.signature.arity args.length)), s)) ∨
    (f.signature.arity.accepts args.length = true ∧ Safe (f.exposed args) (f.act args) ∧
      ∀ (h : Host) (n : Nat) (s : RunState),
        (∃ v s', callAt h (n + 1) (.builtin f) args s = (.ok v, s') ∧
          FaultM.run (callAt h n) (f.exposed args) s = (.ok (.ok v), s')) ∨
        ∃ e s', callAt h (n + 1) (.builtin f) args s = (.error e, s') ∧
          FaultM.run (callAt h n) (f.exposed args) s = (.error e, s')) := by
  have hcall : ∀ (h : Host) (n : Nat), callAt h (n + 1) (.builtin f) args = (f.act args).run (callAt h n) :=
    fun _ _ => rfl
  cases haccepts : f.signature.arity.accepts args.length with
  | false =>
    refine .inl ⟨rfl, fun h n s => ?_⟩
    rw [hcall, f.act_of_not_accepts haccepts]
    rfl
  | true =>
    have hsafe := f.exposed_safe haccepts hsize
    refine .inr ⟨rfl, hsafe, fun h n s => ?_⟩
    rw [hcall, hsafe.run, EvalM.bind_apply]
    rcases hrun : (f.act args).run (callAt h n) s with ⟨_ | _, s'⟩
    · exact .inr ⟨_, s', rfl, rfl⟩
    · exact .inl ⟨_, s', rfl, rfl⟩

/-- The least integer has a negative remainder, to which the divisor is added without a check. -/
theorem builtin_calls_never_fault_at_least_integer :
    ∃ args : List Value, args = [.number (.int Int64.minValue), .number (.int 3)] ∧
      (Builtin.number .mod).exposed args = pure (.number (.int 1)) ∧
      ∀ (h : Host) (n : Nat) (s : RunState),
        FaultM.run (callAt h n) ((Builtin.number .mod).exposed args) s = (.ok (.ok (.number (.int 1))), s) := by
  let args : List Value := [.number (.int Int64.minValue), .number (.int 3)]
  have hsize : ∀ v ∈ args, ∀ items, v.items "frequencies" = .ok items → items.length < 2 ^ 63 := by
    intro v hv items hitems
    rcases List.mem_pair.1 hv with rfl | rfl
    · cases hitems
    · cases hitems
  have hact : (Builtin.number .mod).act args = .done (.number (.int 1)) := by rfl
  rcases builtin_calls_never_fault (.number .mod) args hsize with ⟨hcount, _⟩ | ⟨_, hsafe, _⟩
  · cases hcount
  · refine ⟨args, rfl, hsafe.trans (congrArg ofAction hact), fun h n s => ?_⟩
    rw [hsafe.run, hact]
    rfl

end ToolLisp
