import ToolLisp.Proofs.OrderedMaps

/-!
# Memory over sessions

Each run of a session starts with the memory that the last successful run left. `MemoryUpdate.Contract`
says what the value of a program writes and what the result of the run is. What the memory holds at a key
in the end was written there by the last successful run that wrote to the key at all
(`memory_is_last_written`).

Programs read the memory by names, and a name has two spellings as a key. A value at a keyword is read by
the runs that follow. A value at a string is kept, but it is read only if the memory has no value at the
keyword (`memory_read_after_write`).
-/

namespace ToolLisp

variable {V : Value → Prop}

/-! ## Names as keys -/

namespace Entries

theorem not_mem_of_get?_eq_none {m : Entries} {k : Value} (h : get? m k = none) (v : Value) :
    (k, v) ∉ m := by
  intro hmem
  have hk := List.find?_eq_none.1 (Option.map_eq_none_iff.1 h) (k, v) hmem
  exact hk (Value.same_self k)

/-- A name is looked for as a keyword and then as a string. -/
theorem find?_keyword (m : Entries) (name : String) :
    find? m (.keyword name) = (get? m (.keyword name)).or (get? m (.string name)) := by
  unfold find?
  cases get? m (.keyword name) <;> rfl

end Entries

/-! ## What a value writes -/

namespace MemoryUpdate

/-- What a run comes to whose program has the given value: the result, and the entries that are written to
the memory. -/
inductive Contract : Value → Value → Entries → Prop
  /-- A value that is no map is the result, and nothing is written. -/
  | plain {v : Value} : (∀ m, v ≠ .map m) → Contract v v []
  /-- A map without a result is itself the result, and all of it is written. -/
  | whole {m : Entries} : (∀ w, (.keyword "result", w) ∉ m) → (∀ w, (.string "result", w) ∉ m) →
    Contract (.map m) (.map m) m
  /-- The result of a map is its value at the keyword, or else at the string. All entries but those two
  are written. -/
  | result {m delta : Entries} {r : Value} :
    (.keyword "result", r) ∈ m ∨ (∀ w, (.keyword "result", w) ∉ m) ∧ (.string "result", r) ∈ m →
    delta.Sublist m →
    (∀ e, e ∈ delta ↔ e ∈ m ∧ e.1 ≠ .keyword "result" ∧ e.1 ≠ .string "result") →
    Contract (.map m) r delta

theorem mem_withoutResult {m : Entries} {e : Value × Value} :
    e ∈ withoutResult m ↔ e ∈ m ∧ e.1 ≠ .keyword "result" ∧ e.1 ≠ .string "result" := by
  simp only [withoutResult, Entries.erase, List.mem_filter, Bool.not_eq_true', ← Bool.not_eq_true,
    Value.keyword_same_iff, Value.string_same_iff, resultName, and_assoc, ne_eq]

theorem withoutResult_sublist (m : Entries) : (withoutResult m).Sublist m :=
  List.filter_sublist.trans List.filter_sublist

theorem split_contract (v : Value) : Contract v (split v).1 (split v).2 := by
  cases v with
  | map m =>
    simp only [split, Entries.find?_keyword]
    cases hk : Entries.get? m (.keyword resultName) with
    | some r =>
      exact .result (.inl (Entries.mem_of_get?_of_parts rfl rfl hk)) (withoutResult_sublist m)
        fun _ => mem_withoutResult
    | none =>
      have hkeyword := Entries.not_mem_of_get?_eq_none hk
      cases hs : Entries.get? m (.string resultName) with
      | some r =>
        exact .result (.inr ⟨hkeyword, Entries.mem_of_get?_of_parts rfl rfl hs⟩) (withoutResult_sublist m)
          fun _ => mem_withoutResult
      | none => exact .whole hkeyword (Entries.not_mem_of_get?_eq_none hs)
  | _ => exact .plain fun _ h => by cases h

/-- A map without a result is written as it is. -/
theorem memory_of_no_result {m : Entries}
    (h : ∀ w, (.keyword "result", w) ∉ m ∧ (.string "result", w) ∉ m) (memory : Entries) :
    (ofValue (.map m) memory).memory = Entries.insertAll memory m := by
  have hc := split_contract (.map m)
  change Entries.insertAll memory (split (.map m)).2 = _
  generalize (split (.map m)).1 = r, (split (.map m)).2 = delta at hc ⊢
  cases hc with
  | plain hp => exact absurd rfl (hp m)
  | whole => rfl
  | result hr =>
    rcases hr with hr | ⟨_, hr⟩
    · exact absurd hr (h _).1
    · exact absurd hr (h _).2

/-- What is written has the properties of the value. -/
theorem delta_stable [Value.Stable V] {v : Value} (hv : V v) (memory : Entries) :
    V (.map (ofValue v memory).delta) := by
  cases v with
  | map m =>
    simp only [ofValue, split]
    split
    · exact Value.Stable.erase _ (Value.Stable.erase _ hv)
    · exact hv
  | _ => exact Value.Stable.empty

/-- So has the result of the run. -/
theorem result_stable [Value.Stable V] {v : Value} (hv : V v) (memory : Entries) :
    V (ofValue v memory).result := by
  cases v with
  | map m =>
    simp only [ofValue, split]
    split
    · next w hw => exact Entries.Each.find? (Value.Stable.entries hv) _ w hw
    · exact hv
  | _ => exact hv

theorem memory_stable [Value.Stable V] {v : Value} (hv : V v) {memory : Entries}
    (hm : V (.map memory)) : V (.map (ofValue v memory).memory) :=
  Value.Stable.insertAll (Value.Stable.entries (delta_stable hv memory)) hm

/-- The value at a key after an update is the one that is written there, or else the one from before. -/
theorem get?_memory {v : Value} (hv : v.KeysDistinct) (memory : Entries) (k : Value) :
    Entries.get? (ofValue v memory).memory k =
      (Entries.get? (ofValue v memory).delta k).or (Entries.get? memory k) :=
  Entries.get?_insertAll (delta_stable hv memory).entries k memory

end MemoryUpdate

/-! ## Sequences of runs -/

/-- A run that may start with any memory. -/
structure Request extends Step where
  /-- The definitions that it starts with. -/
  definitions : Definitions
  /-- The stamp of the first function that it makes. -/
  stamp : Nat

namespace Request

/-- The host of a run that starts with a memory. -/
def host (r : Request) (memory : Entries) : Host :=
  ⟨r.context, memory, r.limits, r.tools⟩

/-- The state that a run starts in. -/
def state (r : Request) : RunState :=
  .start r.definitions r.stamp

/-- What a run comes to that starts with a memory. -/
def outcome (r : Request) (memory : Entries) : Except RunError RunOutput :=
  (run (r.host memory) r.source r.state).1

end Request

/-- The memory after runs. A run that fails leaves it as it was. -/
def memoryAfter (memory : Entries) : List Request → Entries
  | [] => memory
  | r :: rs =>
    match r.outcome memory with
    | .ok out => memoryAfter out.update.memory rs
    | .error _ => memoryAfter memory rs

/-- What the successful ones of some runs write, in order. -/
def deltas (memory : Entries) : List Request → List Entries
  | [] => []
  | r :: rs =>
    match r.outcome memory with
    | .ok out => out.update.delta :: deltas out.update.memory rs
    | .error _ => deltas memory rs

/-- No key stands twice in the maps that a host passes to a program, apart from the memory. -/
def Step.KeysDistinct (t : Step) : Prop :=
  Host.Each Value.KeysDistinct ⟨t.context, [], t.limits, t.tools⟩

namespace Request

/-- No key stands twice in the maps that a run starts with, apart from the memory. -/
def KeysDistinct (r : Request) : Prop :=
  r.toStep.KeysDistinct ∧ Env.Each Value.KeysDistinct r.definitions

variable {r : Request} {memory : Entries} {out : RunOutput}

theorem outcome_eq_ok (h : r.outcome memory = .ok out) :
    ∃ program e, compile r.source = .ok program ∧
      (evaluate (r.host memory) program .initial r.state).1 = .ok e ∧
      out = ⟨.ofValue e.value memory, (evaluate (r.host memory) program .initial r.state).2.definitions,
        e.returned⟩ := by
  obtain ⟨program, e, hp, he, hout⟩ := run_eq_ok (Prod.ext h rfl)
  exact ⟨program, e, hp, congrArg Prod.fst he, by rw [he]; exact hout⟩

/-- The maps in the value of a program have distinct keys, and so have those in the definitions that it
leaves. -/
theorem KeysDistinct.outcome (hr : r.KeysDistinct) (hm : (Value.map memory).KeysDistinct)
    (h : r.outcome memory = .ok out) :
    ∃ v : Value, v.KeysDistinct ∧ out.update = .ofValue v memory ∧
      Env.Each Value.KeysDistinct out.definitions := by
  obtain ⟨program, e, -, he, rfl⟩ := outcome_eq_ok h
  have hhost : (r.host memory).Each Value.KeysDistinct := ⟨hr.1.context, hm, hr.1.tools⟩
  have hstate : r.state.Each Value.KeysDistinct := ⟨hr.2, fun _ hc => by cases hc⟩
  have hkept := evaluate_keysDistinct hhost program hstate
  exact ⟨e.value, hkept.2 e he, rfl, hkept.1.1⟩

end Request

/-- By induction on the runs. The keys stay distinct, so what each run writes takes the place of what was
there before. -/
theorem get?_memoryAfter {rs : List Request} (hrs : ∀ r ∈ rs, r.KeysDistinct) (k : Value) :
    ∀ {memory : Entries}, (Value.map memory).KeysDistinct →
      Entries.get? (memoryAfter memory rs) k =
        ((deltas memory rs).reverse.findSome? (Entries.get? · k)).or (Entries.get? memory k) := by
  induction rs with
  | nil => exact fun _ => rfl
  | cons r rs ih =>
    intro memory hm
    obtain ⟨hr, hrs⟩ := List.forall_mem_cons.1 hrs
    unfold memoryAfter deltas
    cases ho : r.outcome memory with
    | error e => exact ih hrs hm
    | ok out =>
      obtain ⟨v, hv, hupdate, -⟩ := hr.outcome hm ho
      simp only [hupdate]
      rw [ih hrs (MemoryUpdate.memory_stable hv hm), MemoryUpdate.get?_memory hv, List.reverse_cons,
        List.findSome?_append, List.findSome?_singleton, Option.or_assoc]

/-! ## Sessions -/

namespace Session

/-- The next run of a session, with the definitions that it starts with. -/
def request (s : Session) (t : Step) : Request :=
  ⟨t, s.definitions, s.stamp⟩

/-- All runs of a session. -/
def requests (s : Session) : List Step → List Request
  | [] => []
  | t :: ts => s.request t :: (s.step t).2.requests ts

/-- No key stands twice in the maps that a session keeps. -/
def KeysDistinct (s : Session) : Prop :=
  (Value.map s.memory).KeysDistinct ∧ Env.Each Value.KeysDistinct s.definitions

/-- What a session keeps after a run. -/
theorem step_session (s : Session) (t : Step) :
    (s.step t).2 =
      match (s.request t).outcome s.memory with
      | .ok out => ⟨out.update.memory, out.definitions,
          (run ((s.request t).host s.memory) t.source (s.request t).state).2.stamp⟩
      | .error _ => { s with
          stamp := (run ((s.request t).host s.memory) t.source (s.request t).state).2.stamp } := rfl

theorem KeysDistinct.step {s : Session} (hs : s.KeysDistinct) {t : Step} (ht : t.KeysDistinct) :
    (s.step t).2.KeysDistinct := by
  rw [step_session]
  cases ho : (s.request t).outcome s.memory with
  | error e => exact hs
  | ok out =>
    have hr : (s.request t).KeysDistinct := ⟨ht, hs.2⟩
    obtain ⟨v, hv, hupdate, hdefinitions⟩ := hr.outcome hs.1 ho
    have hmemory : (Value.map out.update.memory).KeysDistinct := by
      rw [hupdate]
      exact MemoryUpdate.memory_stable hv hs.1
    exact ⟨hmemory, hdefinitions⟩

/-- A session is a sequence of runs. -/
theorem steps_memory (ts : List Step) :
    ∀ s : Session, (s.steps ts).2.memory = memoryAfter s.memory (s.requests ts) := by
  induction ts with
  | nil => exact fun _ => rfl
  | cons t ts ih =>
    intro s
    have hsteps : (s.steps (t :: ts)).2.memory = ((s.step t).2.steps ts).2.memory := rfl
    have hstep := congrArg Session.memory (s.step_session t)
    rw [hsteps, ih, requests, memoryAfter, hstep]
    cases (s.request t).outcome s.memory <;> rfl

theorem requests_keysDistinct {ts : List Step} (hts : ∀ t ∈ ts, t.KeysDistinct) :
    ∀ {s : Session}, s.KeysDistinct → ∀ r ∈ s.requests ts, r.KeysDistinct := by
  induction ts with
  | nil => exact fun _ _ hr => by cases hr
  | cons t ts ih =>
    intro s hs
    obtain ⟨ht, hts⟩ := List.forall_mem_cons.1 hts
    exact List.forall_mem_cons.2 ⟨⟨ht, hs.2⟩, ih hts (hs.step ht)⟩

end Session

/-- Memory over runs, each of which starts with the memory that the last successful one left. Sources,
contexts, definitions, limits and tools may be different from run to run; maps in them have distinct keys.

* If a run succeeds, then its program has a value, and what the run writes and its result follow from that
  value by the contract.
* The value at a key in the end is the one that the last successful run wrote that wrote to the key, or the
  one at the start if there is none.
* A session is a sequence of such runs. -/
theorem memory_is_last_written :
    (∀ (r : Request) (memory : Entries) (out : RunOutput), r.outcome memory = .ok out →
      ∃ program e, compile r.source = .ok program ∧
        (evaluate (r.host memory) program .initial r.state).1 = .ok e ∧
        MemoryUpdate.Contract e.value out.update.result out.update.delta) ∧
    (∀ (memory : Entries) (rs : List Request), (Value.map memory).KeysDistinct →
      (∀ r ∈ rs, r.KeysDistinct) → ∀ k, Entries.get? (memoryAfter memory rs) k =
        ((deltas memory rs).reverse.findSome? (Entries.get? · k)).or (Entries.get? memory k)) ∧
    (∀ (s : Session) (ts : List Step), s.KeysDistinct → (∀ t ∈ ts, t.KeysDistinct) →
      (∀ r ∈ s.requests ts, r.KeysDistinct) ∧
        (s.steps ts).2.memory = memoryAfter s.memory (s.requests ts)) := by
  refine ⟨fun r memory out h => ?_, fun memory rs hm hrs k => get?_memoryAfter hrs k hm,
    fun s ts hs hts => ⟨Session.requests_keysDistinct hts hs, Session.steps_memory ts s⟩⟩
  obtain ⟨program, e, hp, he, rfl⟩ := Request.outcome_eq_ok h
  exact ⟨program, e, hp, he, MemoryUpdate.split_contract e.value⟩

/-- A run that counts up, one that cannot be read, and one with a result in both spellings. -/
theorem memory_is_last_written_counter :
    ∃ (s : Session) (ts : List Step),
      s.memory = [(.keyword "n", .number (.int 1))] ∧
      ts.map (·.source) = ["\x7b:n (inc memory/n) :m 5\x7d", "\x7b:n 7",
        "\x7b:result memory/n \"result\" 8 :m 6\x7d"] ∧
      s.KeysDistinct ∧ (∀ t ∈ ts, t.KeysDistinct) ∧ (deltas s.memory (s.requests ts)).length = 2 ∧
      (∀ k, Entries.get? (s.steps ts).2.memory k =
        ((deltas s.memory (s.requests ts)).reverse.findSome? (Entries.get? · k)).or
          (Entries.get? s.memory k)) ∧
      (entryNamed (s.steps ts).2.memory "n").same (.number (.int 2)) = true ∧
      (entryNamed (s.steps ts).2.memory "m").same (.number (.int 6)) = true := by
  let s := Session.start [(.keyword "n", .number (.int 1))]
  let ts : List Step := ["\x7b:n (inc memory/n) :m 5\x7d", "\x7b:n 7",
    "\x7b:result memory/n \"result\" 8 :m 6\x7d"].map fun source => ⟨source, [], ⟨100, 10⟩, .none⟩
  have hs : s.KeysDistinct := by
    refine ⟨?_, fun _ h => by cases h⟩
    exact Value.Stable.insert (Value.Stable.keyword _) (Value.Stable.number _) Value.Stable.empty
  have hts : ∀ t ∈ ts, t.KeysDistinct := by
    intro t ht
    obtain ⟨source, _, rfl⟩ := List.mem_map.1 ht
    refine ⟨Value.Stable.empty, Value.Stable.empty, fun _ _ h => ?_⟩
    cases h
  have hrun : (deltas s.memory (s.requests ts)).length = 2 ∧
      (entryNamed (s.steps ts).2.memory "n").same (.number (.int 2)) = true ∧
      (entryNamed (s.steps ts).2.memory "m").same (.number (.int 6)) = true := by decide +kernel
  obtain ⟨hrequests, hmemory⟩ := memory_is_last_written.2.2 s ts hs hts
  refine ⟨s, ts, rfl, rfl, hs, hts, hrun.1, fun k => ?_, hrun.2⟩
  rw [hmemory]
  exact memory_is_last_written.2.1 s.memory _ hs.1 hrequests k

/-! ## Reading what was written -/

/-- A map without a result, in which no name has both spellings, is written to the memory, and programs
read from the memory that is left. All entries of the map are kept. The value at a keyword is what a
program reads by that name. The value at a string is what a program reads by that name if the memory had
no value at the keyword before; else the program reads the value from before. -/
theorem memory_read_after_write {written : Entries} (hdistinct : written.Distinct)
    (hresult : ∀ x, (.keyword "result", x) ∉ written ∧ (.string "result", x) ∉ written)
    (hspelling : ∀ n x y, (.keyword n, x) ∈ written → (.string n, y) ∉ written)
    {h : Host} {memory : Entries}
    (hh : h.memory = (MemoryUpdate.ofValue (.map written) memory).memory)
    (call : Value → List Value → EvalM Value) (env : Env) (s : RunState) :
    (∀ k x, (k, x) ∈ written → Entries.get? h.memory k = some x) ∧
    (∀ n x, (.keyword n, x) ∈ written → eval h call (.memory n) env s = (.ok x, s)) ∧
    (∀ n x, (.string n, x) ∈ written →
      eval h call (.memory n) env s = (.ok ((Entries.get? memory (.keyword n)).getD x), s)) := by
  have hget (k : Value) :
      Entries.get? h.memory k = (Entries.get? written k).or (Entries.get? memory k) := by
    rw [hh, MemoryUpdate.memory_of_no_result hresult, Entries.get?_insertAll hdistinct]
  have hread (n : String) : eval h call (.memory n) env s =
      (.ok ((Entries.get? h.memory (.keyword n)).or (Entries.get? h.memory (.string n)) |>.getD .nil),
        s) := by
    rw [← Entries.find?_keyword, eval]
    rfl
  refine ⟨fun k x hx => ?_, fun n x hx => ?_, fun n x hx => ?_⟩
  · rw [hget, hdistinct.get?_of_mem hx]
    rfl
  · rw [hread, hget, hdistinct.get?_of_mem hx]
    rfl
  -- the keyword was not written, so it is read as it was before, if it was there
  · have hnone : Entries.get? written (.keyword n) = none := by
      refine Option.eq_none_iff_forall_not_mem.2 fun y hy => ?_
      exact hspelling n y x (Entries.mem_of_get?_of_parts rfl rfl hy) hx
    rw [hread, hget, hget, hnone, hdistinct.get?_of_mem hx]
    cases Entries.get? memory (.keyword n) <;> rfl

/-- A value at a string that is read, one at a string that the memory has a keyword for, and one at a
keyword. -/
theorem memory_read_after_write_spellings :
    ∃ (memory written : Entries) (h : Host),
      memory = [(.keyword "k", .nil)] ∧
      written = [(.keyword "a", .bool true), (.string "k", .bool false), (.string "l", .bool true)] ∧
      written.Distinct ∧
      (∀ x, (.keyword "result", x) ∉ written ∧ (.string "result", x) ∉ written) ∧
      (∀ n x y, (.keyword n, x) ∈ written → (.string n, y) ∉ written) ∧
      h.memory = (MemoryUpdate.ofValue (.map written) memory).memory ∧
      ∀ call env s, eval h call (.memory "a") env s = (.ok (.bool true), s) ∧
        eval h call (.memory "k") env s = (.ok .nil, s) ∧
        eval h call (.memory "l") env s = (.ok (.bool true), s) := by
  let memory : Entries := [(.keyword "k", .nil)]
  let written : Entries :=
    [(.keyword "a", .bool true), (.string "k", .bool false), (.string "l", .bool true)]
  let h : Host := ⟨[], (MemoryUpdate.ofValue (.map written) memory).memory, ⟨100, 10⟩, .none⟩
  have hdistinct : written.Distinct := by decide +kernel
  have hresult : ∀ x, (.keyword "result", x) ∉ written ∧ (.string "result", x) ∉ written := by
    intro x
    simp [written]
  have hspelling : ∀ n x y, (.keyword n, x) ∈ written → (.string n, y) ∉ written := by
    intro n x y hx
    simp_all [written]
  refine ⟨memory, written, h, rfl, rfl, hdistinct, hresult, hspelling, rfl, fun call env s => ?_⟩
  have hread := memory_read_after_write hdistinct hresult hspelling (h := h) rfl call env s
  refine ⟨hread.2.1 "a" _ ?_, hread.2.2 "k" (.bool false) ?_, hread.2.2 "l" (.bool true) ?_⟩ <;>
    simp [written]

/-- A value that is written is not always what is read by its name: the name may be a string in what is
written and a keyword in the memory. -/
theorem string_key_hidden_by_keyword :
    ¬ ∀ (memory written : Entries), memory.Ordered → written.Ordered →
      (∀ x, (.keyword "result", x) ∉ written ∧ (.string "result", x) ∉ written) →
      (∀ n x y, (.keyword n, x) ∈ written → (.string n, y) ∉ written) →
      ∀ n x, (.keyword n, x) ∈ written ∨ (.string n, x) ∈ written →
        entryNamed (MemoryUpdate.ofValue (.map written) memory).memory n = x := by
  intro hclaim
  have hk := hclaim [(.keyword "k", .number (.int 2))] [(.string "k", .number (.int 3))]
    (by decide +kernel) (by decide +kernel) (fun x => by simp) (fun n x y hx => by simp at hx) "k"
    (.number (.int 3)) (.inr List.mem_cons_self)
  have hread : entryNamed (MemoryUpdate.ofValue (.map [(.string "k", .number (.int 3))])
      [(.keyword "k", .number (.int 2))]).memory "k" = .number (.int 2) := rfl
  rw [hread] at hk
  cases hk

end ToolLisp
