import ToolLisp.Proofs.KeyedAccess

/-!
# Parts at the end of a path

`assoc-in` writes the part at the end of a path, and `get-in` reads it. What is written is read again, and a
path that leaves the written one at some key reads what it read before (`assoc_in_and_get_in_are_lawful`).
Both go down the path by the same steps, so the laws follow from those of a single key by induction on the
path: a part that is set is found (`PartSet.get?_written`), and parts apart from it stay as they are
(`PartSet.get?_of_apart`).

`update-in` goes down the path only once and applies its function at the end. It is nevertheless the same as
`get-in`, a call and `assoc-in` in a row, and on a path of one key it is the same as `update`
(`update_in_is_get_in_then_assoc_in`).
-/

namespace ToolLisp

namespace Value

/-! ## Reading along a path -/

theorem getIn?_cons (v k : Value) (path : List Value) :
    v.getIn? (k :: path) = (v.get? k).bind fun w => w.getIn? path := by
  rw [getIn?]
  cases v.get? k <;> rfl

theorem getIn?_nil_cons (k : Value) (path : List Value) : nil.getIn? (k :: path) = none :=
  rfl

theorem getD_getIn?_nil (path : List Value) : (nil.getIn? path).getD .nil = .nil := by
  cases path <;> rfl

/-- What is missing on the way counts as `nil`. -/
theorem getD_getIn?_cons (v k : Value) (path : List Value) :
    (v.getIn? (k :: path)).getD .nil = (((v.get? k).getD .nil).getIn? path).getD .nil := by
  rw [getIn?_cons]
  cases v.get? k with
  | none => exact (getD_getIn?_nil path).symm
  | some w => rfl

/-- This makes no difference if the path goes on, because `nil` has no parts. -/
theorem getIn?_cons_of_cons (v k l : Value) (path : List Value) :
    v.getIn? (k :: l :: path) = ((v.get? k).getD .nil).getIn? (l :: path) := by
  rw [getIn?_cons]
  cases v.get? k with
  | none => exact (getIn?_nil_cons l path).symm
  | some w => rfl

/-- The vectors that are read on the way along a path are so short that all their indices are doubles. -/
def ShortAlong : Value → List Value → Prop
  | _, [] => True
  | v, k :: path =>
    (∀ items, v = .vector items → items.length < 2 ^ 53) ∧ ShortAlong ((v.get? k).getD .nil) path

/-- The key `l` denotes another part of `v` than `k` does: it is not the same key, nor is one of the two a
keyword and the other one the string of its name, and in a vector they are not the same index. -/
structure Apart (v k l : Value) : Prop where
  /-- The keys are not the same. -/
  key : l.same k = false
  /-- They are not the two spellings of one name. -/
  spelling : ¬ k.Counterparts l
  /-- They are not numbers that denote the same index. -/
  index : ∀ items a b i, v = .vector items → k = .number a → l = .number b → a.index? = some i →
    b.index? ≠ some i

theorem Counterparts.symm {k l : Value} (h : k.Counterparts l) : l.Counterparts k := by
  obtain ⟨name, ⟨hk, hl⟩ | ⟨hk, hl⟩⟩ := h
  · exact ⟨name, .inr ⟨hl, hk⟩⟩
  · exact ⟨name, .inl ⟨hl, hk⟩⟩

end Value

/-! ## Parts that stay as they are -/

/-- Setting the value at a key, in either spelling, does not change what is found at other keys. -/
theorem Entries.find?_insert_of_ne {m : Entries} {k r l : Value} (hr : r = k ∨ otherSpelling? k = some r)
    (hkey : l.same k = false) (hspelling : ¬ k.Counterparts l) (v : Value) :
    find? (insert r v m) l = find? m l := by
  -- neither spelling of `l` is the key that is set
  have hgiven : ¬ l.same r = true := by
    intro h
    rcases hr with rfl | hr
    · rw [hkey] at h
      cases h
    · rw [Value.same_comm, same_otherSpelling hr] at h
      exact hspelling (h ▸ otherSpelling?_eq_some hr)
  have hother : ∀ l', otherSpelling? l = some l' → ¬ l'.same r = true := by
    intro l' hl' h
    rw [same_otherSpelling hl'] at h
    rcases hr with rfl | hr
    · exact hspelling (Value.Counterparts.symm (h ▸ otherSpelling?_eq_some hl'))
    · rw [otherSpelling?_inj hl' (h ▸ hr), Value.same_self] at hkey
      cases hkey
  unfold find?
  rw [get?_insert, if_neg hgiven]
  cases get? m l with
  | some w => rfl
  | none =>
    cases ho : otherSpelling? l with
    | none => rfl
    | some l' =>
      simp only [Option.bind_some]
      rw [get?_insert, if_neg (hother l' ho)]

namespace MapFn

open Value

/-- Parts apart from the one that is set stay as they are. -/
theorem PartSet.get?_of_apart {coll k v c' l : Value} (h : PartSet (writtenKey coll k) v coll c')
    (hshort : ∀ items, coll = .vector items → items.length < 2 ^ 53) (hl : Apart coll k l) :
    c'.get? l = coll.get? l := by
  cases h with
  | entry m => exact Entries.find?_insert_of_ne (Entries.resolve_eq_or m k) hl.key hl.spelling v
  | first =>
    have hnone : Entries.find? [] l = none := Entries.find?_eq_none_iff.2 ⟨rfl, fun _ _ => rfl⟩
    exact (Entries.find?_insert_of_ne (.inl rfl) hl.key hl.spelling v).trans hnone
  | @item i items items' hk h₀ hle _ hother =>
    have hlength := hshort items rfl
    have hindex := Number.index?_int h₀ (show i.toInt < 2 ^ 53 by omega)
    cases l with
    | number b =>
      have hne := hl.index items (.int i) b i.toInt.toNat rfl hk rfl hindex
      change b.index?.bind (fun j => items'[j]?) = b.index?.bind (fun j => items[j]?)
      cases hj : b.index? with
      | none => rfl
      | some j => exact hother j fun h => hne (h ▸ hj)
    | _ => rfl

/-! ## Writing along a path -/

theorem setIn_cons_eq_ok {name : String} {coll k v c' : Value} {path : List Value}
    (h : setIn name coll (k :: path) v = .ok c') :
    ∃ part, setIn name ((coll.get? k).getD .nil) path v = .ok part ∧
      PartSet (writtenKey coll k) part coll c' := by
  rw [setIn] at h
  cases hpart : setIn name ((coll.get? k).getD .nil) path v with
  | error e =>
    rw [hpart] at h
    cases h
  | ok part =>
    rw [hpart] at h
    exact ⟨part, rfl, setPart_eq_ok h⟩

/-- What is written at the end of a path is read there. -/
theorem getIn?_setIn {name : String} {v : Value} {path : List Value} :
    ∀ {coll c' : Value}, coll.ShortAlong path → setIn name coll path v = .ok c' →
      c'.getIn? path = some v := by
  induction path with
  | nil =>
    intro coll c' _ h
    cases h
    rfl
  | cons k path ih =>
    intro coll c' hshort h
    obtain ⟨part, hpart, hset⟩ := setIn_cons_eq_ok h
    rw [getIn?_cons, hset.get?_written hshort.1]
    exact ih hshort.2 hpart

/-- What is read at another path stays as it is. The induction is on the keys that both paths share. -/
theorem getIn?_setIn_of_apart {name : String} {v k l : Value} {pre rest q : List Value} :
    ∀ {coll c' : Value}, coll.ShortAlong (pre ++ k :: rest) →
      setIn name coll (pre ++ k :: rest) v = .ok c' → Apart ((coll.getIn? pre).getD .nil) k l →
        c'.getIn? (pre ++ l :: q) = coll.getIn? (pre ++ l :: q) := by
  induction pre with
  | nil =>
    intro coll c' hshort h hl
    obtain ⟨part, -, hset⟩ := setIn_cons_eq_ok h
    rw [List.nil_append, getIn?_cons, getIn?_cons, hset.get?_of_apart hshort.1 hl]
  | cons j pre ih =>
    intro coll c' hshort h hl
    obtain ⟨part, hpart, hset⟩ := setIn_cons_eq_ok h
    rw [getD_getIn?_cons] at hl
    have hrest := ih hshort.2 hpart hl
    have hshared : coll.getIn? (j :: (pre ++ l :: q)) =
        ((coll.get? j).getD .nil).getIn? (pre ++ l :: q) := by
      cases pre with
      | nil => exact getIn?_cons_of_cons coll j l q
      | cons j' pre => exact getIn?_cons_of_cons coll j j' (pre ++ l :: q)
    rw [List.cons_append, getIn?_cons, hset.get?_written hshort.1, hshared, ← hrest]
    rfl

end MapFn

open MapFn in
/-- `get-in` reads what `assoc-in` wrote at the same path. At a path that shares its first keys with the
written one, and then goes on with a key that denotes another part there, it reads what it read before. -/
theorem assoc_in_and_get_in_are_lawful {coll x c' : Value} {path : List Value}
    (hshort : coll.ShortAlong path) (h : setIn "assoc-in" coll path x = .ok c') :
    c'.getIn? path = some x ∧
      ∀ pre k rest l q, path = pre ++ k :: rest → Value.Apart ((coll.getIn? pre).getD .nil) k l →
        c'.getIn? (pre ++ l :: q) = coll.getIn? (pre ++ l :: q) := by
  refine ⟨getIn?_setIn hshort h, ?_⟩
  rintro pre k rest l q rfl hl
  exact getIn?_setIn_of_apart hshort h hl

/-- A map has a name as a string, and the path names it by a keyword. The vector there grows by the map that
is missing on the way. Its last item stays, and so it is read at a double. -/
theorem assoc_in_and_get_in_are_lawful_in_growing_vector :
    ∃ c', MapFn.setIn "assoc-in" (.map [(.string "a", .vector [.nil, .bool true])])
        [.keyword "a", .ofNat 2, .string "b"] .nil = .ok c' ∧
      c'.getIn? [.keyword "a", .ofNat 2, .string "b"] = some .nil ∧
      c'.getIn? [.keyword "a", .number (.float (.ofInt 1))] = some (.bool true) ∧
      c'.getIn? [.keyword "a", .ofNat 2, .keyword "c"] = none := by
  have hshort : (Value.map [(.string "a", .vector [.nil, .bool true])]).ShortAlong
      [.keyword "a", .ofNat 2, .string "b"] := by
    refine ⟨?_, ?_, ?_, trivial⟩
    · exact fun items hv => by cases hv
    · intro items hv
      cases hv
      decide
    · exact fun items hv => by cases hv
  obtain ⟨hwritten, hrest⟩ := assoc_in_and_get_in_are_lawful hshort rfl
  refine ⟨_, rfl, hwritten, ?_, ?_⟩
  · refine (hrest [.keyword "a"] (.ofNat 2) [.string "b"] (.number (.float (.ofInt 1))) [] rfl ?_).trans rfl
    refine ⟨by decide +kernel, ?_, ?_⟩
    · rintro ⟨name, ⟨hk, -⟩ | ⟨hk, -⟩⟩ <;> cases hk
    · rintro items a b i - hk hl ha hb
      cases hk
      cases hl
      have hne : (Number.int (clampInt64 (2 : ℕ))).index? ≠ (Number.float (.ofInt 1)).index? := by
        decide +kernel
      exact hne (ha.trans hb.symm)
  · refine (hrest [.keyword "a", .ofNat 2] (.string "b") [] (.keyword "c") [] rfl ?_).trans rfl
    refine ⟨by decide +kernel, ?_, ?_⟩
    · rintro ⟨name, ⟨hk, -⟩ | ⟨hk, hl⟩⟩
      · cases hk
      · exact absurd ((Value.string.inj hk).trans (Value.keyword.inj hl).symm) (by decide)
    · rintro items a b i hv
      cases hv

/-! ## Applying a function at the end of a path -/

namespace MapFn

theorem ofChecked_bind {α β : Type} (x : Checked α) (g : α → Checked β) :
    (Action.ofChecked x >>= fun a => Action.ofChecked (g a)) = .ofChecked (x >>= g) := by
  cases x <;> rfl

/-- Going down a path once and applying a function at its end is reading the part there, applying the
function, and writing the result. -/
theorem changeIn_eq (f : Value) (extra path : List Value) : ∀ coll : Value,
    changeIn f extra coll path = .call f ((coll.getIn? path).getD .nil :: extra) fun x =>
      .ofChecked (setIn "update-in" coll path x) := by
  induction path with
  | nil => exact fun _ => rfl
  | cons k path ih =>
    intro coll
    have hstep : changeIn f extra coll (k :: path) =
        changeIn f extra ((coll.get? k).getD .nil) path >>= fun part =>
          .ofChecked (setPart "update-in" coll (writtenKey coll k) part) := rfl
    rw [hstep, ih, Value.getD_getIn?_cons]
    refine congrArg (Action.call f _) (funext fun x => ?_)
    exact ofChecked_bind _ _

/-- The text of a refusal behind the name of the function. -/
def Refusal.reason : Refusal → String
  | .noCollection coll => "expected a map or vector, got " ++ coll.described
  | .noIndex k length =>
    "index " ++ k.render ++ " out of bounds for vector of length " ++ toString length

theorem Refusal.message_error (name : String) (r : Refusal) :
    (r.error name).message = "type error: " ++ name ++ ": " ++ r.reason := by
  cases r with
  | noCollection coll =>
    have hcut : ": expected " ++ "a map or vector" ++ ", got " =
        ": " ++ "expected a map or vector, got " := by decide
    change "type error: " ++ (name ++ ": expected " ++ "a map or vector" ++ ", got " ++ coll.described) =
      "type error: " ++ name ++ ": " ++ ("expected a map or vector, got " ++ coll.described)
    generalize coll.described = d
    calc _ = "type error: " ++ name ++ (": expected " ++ "a map or vector" ++ ", got ") ++ d := by
            simp only [String.append_assoc]
      _ = _ := by rw [hcut]; simp only [String.append_assoc]
  | noIndex k length =>
    have hcut : ": index " = ": " ++ "index " := by decide
    change "type error: " ++ (name ++ ": index " ++ k.render ++ " out of bounds for vector of length " ++
      toString length) = "type error: " ++ name ++ ": " ++
        ("index " ++ k.render ++ " out of bounds for vector of length " ++ toString length)
    rw [hcut]
    simp only [String.append_assoc]

/-- Two results are the same, or they are errors of the same kind whose messages differ in the name of a
function only. -/
inductive SameButName (name name' : String) : Checked Value → Checked Value → Prop
  /-- Both are the same collection. -/
  | done (v : Value) : SameButName name name' (.ok v) (.ok v)
  /-- Both are refused for the same reason. -/
  | refused {e e' : EvalError} (reason : String) : e.kind = e'.kind →
    e.message = "type error: " ++ name ++ ": " ++ reason →
    e'.message = "type error: " ++ name' ++ ": " ++ reason →
    SameButName name name' (.error e) (.error e')

/-- The part at the end of a path is set, or it is refused, whatever the function is called that does it. -/
theorem setIn_cases (path : List Value) (v : Value) : ∀ coll : Value,
    (∃ c', ∀ name, setIn name coll path v = .ok c') ∨
      ∃ r : Refusal, ∀ name, setIn name coll path v = .error (r.error name) := by
  induction path with
  | nil => exact fun _ => .inl ⟨v, fun _ => rfl⟩
  | cons k path ih =>
    intro coll
    have hstep (name : String) : setIn name coll (k :: path) v =
        setIn name ((coll.get? k).getD .nil) path v >>= setPart name coll (writtenKey coll k) := rfl
    rcases ih ((coll.get? k).getD .nil) with ⟨part, hpart⟩ | ⟨r, hr⟩
    · rcases setPart_cases coll (writtenKey coll k) part with ⟨c', -, hok⟩ | ⟨r, hr⟩
      · exact .inl ⟨c', fun name => by rw [hstep, hpart, ← hok name]; rfl⟩
      · exact .inr ⟨r, fun name => by rw [hstep, hpart, ← hr name]; rfl⟩
    · exact .inr ⟨r, fun name => by rw [hstep, hr]; rfl⟩

theorem setIn_sameButName (name name' : String) (coll : Value) (path : List Value) (v : Value) :
    SameButName name name' (setIn name coll path v) (setIn name' coll path v) := by
  rcases setIn_cases path v coll with ⟨c', hok⟩ | ⟨r, hr⟩
  · rw [hok, hok]
    exact .done c'
  · rw [hr, hr]
    refine .refused r.reason ?_ (r.message_error name) (r.message_error name')
    cases r <;> rfl

/-- Reads the part at the end of a path, applies a function to it, and writes what the function returns, in
the name of a function. -/
def getThenSet (call : Value → List Value → EvalM Value) (name : String) (coll : Value)
    (path : List Value) (f : Value) (extra : List Value) : EvalM Value := do
  let x ← call f ((coll.getIn? path).getD .nil :: extra)
  .ofChecked (setIn name coll path x)

end MapFn

open MapFn in
/-- `update-in` does what `get-in`, a call of its function and `assoc-in` do in a row, in every state and with
the same effects, and on a path of one key `update` does so, too. The name of the function shows only in the
message of an error that comes from writing. -/
theorem update_in_is_get_in_then_assoc_in (h : Host) (n : Nat) (coll f : Value) (path extra : List Value)
    (hf : f.callable = true) :
    callAt h (n + 1) (.builtin (.map .updateIn)) (coll :: .vector path :: f :: extra) =
        getThenSet (callAt h n) "update-in" coll path f extra ∧
      (∀ k, path = [k] →
        callAt h (n + 1) (.builtin (.map .update)) (coll :: k :: f :: extra) =
          getThenSet (callAt h n) "update" coll path f extra) ∧
      ∀ name name' x, SameButName name name' (setIn name coll path x) (setIn name' coll path x) := by
  refine ⟨?_, ?_, fun name name' x => setIn_sameButName name name' coll path x⟩
  · have hcallable : f.asCallable "update-in" = .ok f := if_pos hf
    have hact : changeAtPath coll (.vector path) f extra = changeIn f extra coll path := by
      change (f.asCallable "update-in" : Action Value) >>= _ = _
      rw [hcallable]
      rfl
    change (changeAtPath coll (.vector path) f extra).run (callAt h n) = _
    rw [hact, changeIn_eq, Action.run_call]
    simp only [Action.run_ofChecked]
    rfl
  · rintro k rfl
    have hold : (coll.getIn? [k]).getD .nil = (coll.get? k).getD .nil := by
      rw [Value.getD_getIn?_cons]
      rfl
    rw [callAt_update h n hf, getThenSet, hold]
    rfl

/-- A function that calls a tool is applied although the index that it is applied for is refused afterwards.
The refusals of `update-in`, `update` and `assoc-in` differ in the name only. -/
theorem update_in_is_get_in_then_assoc_in_of_refused_index :
    ∃ (h : Host) (f : Value) (s s' : RunState),
      f = .closure 0 [.ignore] (.toolCall "probe" (.map [])) [] ∧ f.callable = true ∧
      s.calls = [] ∧ s'.calls.map ToolCall.name = ["probe"] ∧
      callAt h 2 (.builtin (.map .updateIn)) [.vector [], .vector [.ofNat 5], f] s =
        (.error (.error (.type (.index "update-in" (.ofNat 5) 0))), s') ∧
      callAt h 2 (.builtin (.map .update)) [.vector [], .ofNat 5, f] s =
        (.error (.error (.type (.index "update" (.ofNat 5) 0))), s') ∧
      MapFn.SameButName "update-in" "assoc-in" (.error (.type (.index "update-in" (.ofNat 5) 0)))
        (MapFn.setIn "assoc-in" (.vector []) [.ofNat 5] .nil) := by
  let h : Host := { Host.bare with tools := ⟨fun _ => true, fun _ _ _ => .ok .nil⟩ }
  let f : Value := .closure 0 [.ignore] (.toolCall "probe" (.map [])) []
  obtain ⟨hupdateIn, hupdate, hsame⟩ :=
    update_in_is_get_in_then_assoc_in h 1 (.vector []) f [.ofNat 5] [] rfl
  refine ⟨h, f, .start [] 1, ⟨[], [⟨"probe", []⟩], 1⟩, rfl, rfl, rfl, rfl, ?_, ?_, ?_⟩
  · rw [hupdateIn]
    rfl
  · rw [hupdate (.ofNat 5) rfl]
    rfl
  · exact hsame "update-in" "assoc-in" .nil

end ToolLisp
