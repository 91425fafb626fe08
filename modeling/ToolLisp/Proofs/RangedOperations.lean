import ToolLisp.Proofs.IntegerArithmetic

/-!
# Operations with a range

The functions of this library are total. `List.take` takes the items that there are, and a sum of 64-bit
integers wraps around. The operations here have a range instead, and outside of it they fault: an item at a
place, a slice, the first items or all but them, a changed item, a sum that is not checked, a remainder.

A fault is no error of the program. In `FaultM` it ends an action wherever it happens, also behind a call, and
nothing catches it. An action `x` of this kind is as safe as a plain one `y` if it is `y`, call for call, and
then no fault can happen in it, whatever the calls return (`FaultM.Safe`).
-/

namespace ToolLisp

/-- An operation outside of its range. -/
inductive Fault where
  /-- A list of that length has no item at the place. -/
  | place (i length : Nat)
  /-- A list of that length has no slice between the places. -/
  | slice (i j length : Nat)
  /-- An integer result does not fit. -/
  | overflow (n : Int)
  /-- A division by zero. -/
  | zeroDivisor
deriving DecidableEq

/-- An action that can end in a fault. -/
def FaultM (α : Type) : Type :=
  Action (Except Fault α)

namespace FaultM

variable {α β : Type}

/-- The action ends with a fault. -/
def fault (e : Fault) : FaultM α :=
  Action.done (.error e)

/-- The action fails with an error of the program. -/
def fail (e : EvalError) : FaultM α :=
  Action.fail e

/-- One action after the other. A fault is not caught. -/
def andThen (x : FaultM α) (f : α → FaultM β) : FaultM β :=
  Action.bind x fun
    | .ok a => f a
    | .error e => fault e

instance : Monad FaultM where
  pure a := Action.done (.ok a)
  bind := andThen

/-- An action without faults. -/
def ofAction (x : Action α) : FaultM α :=
  x.bind fun a => .done (.ok a)

instance : MonadLift Action FaultM := ⟨ofAction⟩

theorem pure_then (a : α) (f : α → FaultM β) : (pure a : FaultM α) >>= f = f a := rfl

/-! ## Safe actions -/

/-- The action is a given one, in which there are no faults. -/
def Safe (x : FaultM α) (y : Action α) : Prop :=
  x = ofAction y

theorem Safe.lift (y : Action α) : Safe (liftM y) y := rfl

/-- One action after the other is safe if both are. -/
theorem Safe.bind {x : FaultM α} {y : Action α} {f : α → FaultM β} {g : α → Action β} (hx : Safe x y)
    (hf : ∀ a, Safe (f a) (g a)) : Safe (x >>= f) (y >>= g) := by
  rw [Safe] at hx
  subst hx
  induction y with
  | done a => exact hf a
  | fail e => rfl
  | call h args next ih => exact congrArg (Action.call h args) (funext ih)

/-- It is enough to look at what follows a call. -/
theorem Safe.call_bind {h : Value} {args : List Value} {next : Value → Action α} {f : α → FaultM β}
    {g : Value → Action β} (hf : ∀ v, Safe (liftM (next v) >>= f) (g v)) :
    Safe (liftM (Action.call h args next) >>= f) (.call h args g) :=
  congrArg (Action.call h args) (funext hf)

/-- A step without calls may be followed by what its result makes safe. -/
theorem Safe.checked_bind {x : Checked α} {f : α → FaultM β} {g : α → Action β}
    (hf : ∀ a, x = .ok a → Safe (f a) (g a)) :
    Safe ((liftM x : FaultM α) >>= f) ((liftM x : Action α) >>= g) := by
  cases x with
  | ok a => exact hf a rfl
  | error e => rfl

/-- The same if nothing is called at all. -/
theorem Safe.ofChecked_bind {x : Checked α} {f : α → FaultM β} {g : α → Checked β}
    (hf : ∀ a, x = .ok a → Safe (f a) (.ofChecked (g a))) :
    Safe ((liftM x : FaultM α) >>= f) (.ofChecked (x >>= g)) := by
  cases x with
  | ok a => exact hf a rfl
  | error e => rfl

/-- The same for actions that make no calls. -/
theorem Safe.bind_ofChecked {x : FaultM α} {y : Checked α} {f : α → FaultM β} {g : α → Checked β}
    (hx : Safe x (.ofChecked y)) (hf : ∀ a, Safe (f a) (.ofChecked (g a))) :
    Safe (x >>= f) (.ofChecked (y >>= g)) := by
  rw [Safe] at hx
  subst hx
  exact Safe.ofChecked_bind fun a _ => hf a

/-! ## Lists -/

/-- The item at a place. -/
def item (xs : List α) (i : Nat) : FaultM α :=
  match xs[i]? with
  | some x => Pure.pure x
  | none => fault (.place i xs.length)

/-- The items from one place up to another. -/
def slice (xs : List α) (i j : Nat) : FaultM (List α) :=
  if i ≤ j ∧ j ≤ xs.length then Pure.pure ((xs.take j).drop i) else fault (.slice i j xs.length)

/-- The items from a place on. -/
def sliceFrom (xs : List α) (i : Nat) : FaultM (List α) :=
  slice xs i xs.length

/-- The first items, of which there have to be so many. -/
def takeFirst (xs : List α) (n : Nat) : FaultM (List α) :=
  slice xs 0 n

/-- All but the first items, of which there have to be so many. -/
def skipFirst (xs : List α) (n : Nat) : FaultM (List α) :=
  sliceFrom xs n

/-- Changes the item at a place. -/
def setItem (xs : List α) (i : Nat) (x : α) : FaultM (List α) :=
  if i < xs.length then Pure.pure (xs.set i x) else fault (.place i xs.length)

/-- A part of a list, with its ends in order and within the list. -/
theorem slice_eq {xs : List α} {i j : Nat} (hij : i ≤ j) (hj : j ≤ xs.length) :
    slice xs i j = Pure.pure ((xs.take j).drop i) :=
  if_pos ⟨hij, hj⟩

theorem sliceFrom_eq {xs : List α} {i : Nat} (hi : i ≤ xs.length) :
    sliceFrom xs i = Pure.pure (xs.drop i) := by
  rw [sliceFrom, slice_eq hi le_rfl, List.take_length]

theorem takeFirst_eq {xs : List α} {n : Nat} (hn : n ≤ xs.length) :
    takeFirst xs n = Pure.pure (xs.take n) := by
  rw [takeFirst, slice_eq (Nat.zero_le n) hn, List.drop_zero]

theorem skipFirst_eq {xs : List α} {n : Nat} (hn : n ≤ xs.length) :
    skipFirst xs n = Pure.pure (xs.drop n) :=
  sliceFrom_eq hn

/-- An item is replaced at a place within the list. -/
theorem setItem_eq {xs : List α} {i : Nat} (hi : i < xs.length) (x : α) :
    setItem xs i x = Pure.pure (xs.set i x) :=
  if_pos hi

/-! ## Integers -/

/-- A sum of 64-bit integers that is not checked. -/
def addInt64 (a b : Int64) : FaultM Int64 :=
  if FitsInt64 (a.toInt + b.toInt) then Pure.pure (a + b) else fault (.overflow (a.toInt + b.toInt))

/-- A remainder of 64-bit integers that is not checked. -/
def remInt64 (a b : Int64) : FaultM Int64 :=
  if b = 0 then fault .zeroDivisor
  else if a = Int64.minValue ∧ b = -1 then fault (.overflow (a.toInt / b.toInt))
  else Pure.pure (a % b)

/-- A result in 128-bit integers. -/
def int128 (n : Int) : FaultM Int :=
  if -2 ^ 127 ≤ n ∧ n < 2 ^ 127 then Pure.pure n else fault (.overflow n)

/-- A quotient in 128-bit integers. -/
def divInt128 (a b : Int) : FaultM Int :=
  if b = 0 then fault .zeroDivisor else int128 (a.tdiv b)

/-- A sum that is in range. -/
theorem addInt64_eq {a b : Int64} (h : FitsInt64 (a.toInt + b.toInt)) : addInt64 a b = Pure.pure (a + b) :=
  if_pos h

/-- A remainder is in range unless the divisor is zero or minus one. -/
theorem remInt64_eq {a b : Int64} (hzero : b ≠ 0) (hone : b ≠ -1) : remInt64 a b = Pure.pure (a % b) := by
  rw [remInt64, if_neg hzero, if_neg fun h => hone h.2]

theorem int128_eq {n : Int} (hlow : -2 ^ 127 ≤ n) (hhigh : n < 2 ^ 127) : int128 n = Pure.pure n :=
  if_pos ⟨hlow, hhigh⟩

/-- A quotient of 128 bits that is in range. -/
theorem divInt128_eq {a b : Int} (hb : b ≠ 0) (hlow : -2 ^ 127 ≤ a.tdiv b) (hhigh : a.tdiv b < 2 ^ 127) :
    divInt128 a b = Pure.pure (a.tdiv b) := by
  rw [divInt128, if_neg hb, int128_eq hlow hhigh]

end FaultM

end ToolLisp
