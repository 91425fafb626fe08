import ToolLisp.Proofs.KeyedAccess
import ToolLisp.Proofs.PrintedForms

/-!
# Building maps

A map can be written as a literal, and six functions make one from pairs of keys and values. All of them set
the values of the pairs one after the other (`foldlM_eq_insertAll`), so they give the same map, in which each
key has the value of its last pair (`Entries.mem_ofList_iff`). Entries in order are given by what is among them
(`Entries.Ordered.ext`), so the order of the pairs does not matter if their keys differ. All of this is in
`maps_are_built_alike`.
-/

namespace ToolLisp

open Std (ReflCmp OrientedCmp)

namespace Entries

/-! ## The last pair of a key -/

/-- The last of the pairs with the key `k` has the value `v`. -/
def LastPair (pairs : List (Value × Value)) (k v : Value) : Prop :=
  ∃ before after, pairs = before ++ (k, v) :: after ∧ ∀ e ∈ after, e.1 ≠ k

theorem lastPair_append_singleton {pairs : List (Value × Value)} {e : Value × Value} {k v : Value} :
    LastPair (pairs ++ [e]) k v ↔ e = (k, v) ∨ e.1 ≠ k ∧ LastPair pairs k v := by
  constructor
  · rintro ⟨before, after, hpairs, hafter⟩
    rcases List.eq_nil_or_concat after with rfl | ⟨after, e', rfl⟩
    · exact .inl (List.head_eq_of_cons_eq (List.append_inj' hpairs rfl).2)
    · rw [List.concat_eq_append] at hpairs hafter
      rw [← List.cons_append, ← List.append_assoc] at hpairs
      obtain ⟨rfl, he⟩ := List.append_inj' hpairs rfl
      obtain rfl : e = e' := List.head_eq_of_cons_eq he
      refine .inr ⟨hafter e (by simp), before, after, rfl, ?_⟩
      exact fun e he => hafter e (List.mem_append_left _ he)
  · rintro (rfl | ⟨he, before, after, rfl, hafter⟩)
    · exact ⟨pairs, [], rfl, by simp⟩
    · refine ⟨before, after ++ [e], by simp, ?_⟩
      intro e' he'
      rcases List.mem_append.1 he' with he' | he'
      · exact hafter e' he'
      · rwa [List.mem_singleton.1 he']

/-- Among entries with distinct keys that hold no function that a program made, an entry is what is found at its
key. -/
theorem Distinct.mem_iff_get? {m : Entries} (h : m.Distinct) (hm : ∀ e ∈ m, e.1.ClosureFree) {k v : Value}
    (hk : k.ClosureFree) : (k, v) ∈ m ↔ get? m k = some v :=
  ⟨h.get?_of_mem, mem_of_get?_of_closureFree hm hk⟩

theorem Distinct.mem_insert_iff {m : Entries} (h : m.Distinct) (hm : ∀ e ∈ m, e.1.ClosureFree)
    {k v l w : Value} (hl : l.ClosureFree) :
    (k, v) ∈ Entries.insert l w m ↔ (l, w) = (k, v) ∨ l ≠ k ∧ (k, v) ∈ m := by
  have hfree : ∀ e ∈ Entries.insert l w m, e.1.ClosureFree := by
    intro e he
    rcases mem_insert he with rfl | he
    · exact hl
    · exact hm e he
  by_cases hk : k.ClosureFree
  · rw [h.insert.mem_iff_get? hfree hk, h.mem_iff_get? hm hk, get?_insert]
    by_cases hkl : k = l
    · subst hkl
      simp [Value.same_self]
    · have hsame : ¬ k.same l = true := fun hs => hkl (Value.eq_of_compare hk hl (Value.same_iff.1 hs))
      simp [hsame, Ne.symm hkl]
  · -- a key that holds a function is neither in the map nor the one that is set
    refine iff_of_false (fun he => hk (hfree _ he)) ?_
    rintro (he | ⟨-, he⟩)
    · exact hk ((Prod.mk.inj he).1 ▸ hl)
    · exact hk (hm _ he)

theorem ofList_append_singleton (pairs : List (Value × Value)) (e : Value × Value) :
    ofList (pairs ++ [e]) = insert e.1 e.2 (ofList pairs) := by
  simp [ofList, insertAll, List.foldl_append]

/-- In a map of pairs each key has the value of its last pair. The induction is on the pairs, of which the last is
set last. -/
theorem mem_ofList_iff {pairs : List (Value × Value)} (hfree : ∀ e ∈ pairs, e.1.ClosureFree) {k v : Value} :
    (k, v) ∈ ofList pairs ↔ LastPair pairs k v := by
  induction pairs using List.reverseRecOn with
  | nil =>
    refine iff_of_false List.not_mem_nil ?_
    rintro ⟨before, after, hpairs, -⟩
    simp at hpairs
  | append_singleton pairs e ih =>
    have hpairs : ∀ e ∈ pairs, e.1.ClosureFree := fun e he => hfree e (List.mem_append_left _ he)
    have hkeys : ∀ e ∈ ofList pairs, e.1.ClosureFree := fun e he => hpairs e (mem_of_mem_ofList he)
    rw [ofList_append_singleton, (ofList_distinct pairs).mem_insert_iff hkeys (hfree e (by simp)), ih hpairs,
      lastPair_append_singleton]

/-! ## The order of the pairs -/

/-- Entries in order are given by what is among them. -/
theorem Ordered.ext {m m' : Entries} (h : m.Ordered) (h' : m'.Ordered) (hmem : ∀ e, e ∈ m ↔ e ∈ m') :
    m = m' := by
  have hne {m : Entries} (h : m.Ordered) : m.Nodup := by
    refine List.Pairwise.imp ?_ h
    rintro a b hab rfl
    have hself : a.1.compare a.1 = .eq := ReflCmp.compare_self
    rw [hself] at hab
    cases hab
  refine List.Perm.eq_of_pairwise ?_ h h' ((List.perm_ext_iff_of_nodup (hne h) (hne h')).2 hmem)
  exact fun a b _ _ hab hba => absurd hba (OrientedCmp.not_lt_of_lt hab)

/-- If no two pairs have the same key, all pairs are entries of their map. -/
theorem mem_ofList_of_nodup {pairs : List (Value × Value)} (hfree : ∀ e ∈ pairs, e.1.ClosureFree)
    (hkeys : (pairs.map (·.1)).Nodup) {e : Value × Value} : e ∈ ofList pairs ↔ e ∈ pairs := by
  refine ⟨mem_of_mem_ofList, fun he => ?_⟩
  obtain ⟨before, after, rfl⟩ := List.append_of_mem he
  refine (mem_ofList_iff hfree).2 ⟨before, after, rfl, fun e' he' hk => ?_⟩
  rw [List.map_append, List.map_cons] at hkeys
  have hnot : e.1 ∉ after.map (·.1) := (List.nodup_cons.1 (List.nodup_append.1 hkeys).2.1).1
  exact hnot (List.mem_map.2 ⟨e', he', hk⟩)

theorem ofList_eq_of_perm {pairs pairs' : List (Value × Value)} (hfree : ∀ e ∈ pairs, e.1.ClosureFree)
    (hregular : ∀ e ∈ pairs, e.1.Regular) (hkeys : (pairs.map (·.1)).Nodup) (hperm : pairs.Perm pairs') :
    ofList pairs' = ofList pairs := by
  have hfree' : ∀ e ∈ pairs', e.1.ClosureFree := fun e he => hfree e (hperm.mem_iff.2 he)
  have hregular' : ∀ e ∈ pairs', e.1.Regular := fun e he => hregular e (hperm.mem_iff.2 he)
  have hkeys' : (pairs'.map (·.1)).Nodup := (hperm.map _).nodup_iff.1 hkeys
  refine (ofList_ordered hregular').ext (ofList_ordered hregular) fun e => ?_
  rw [mem_ofList_of_nodup hfree' hkeys', mem_ofList_of_nodup hfree hkeys, hperm.mem_iff]

end Entries

/-! ## Ways to build a map -/

/-- A pair as a vector. -/
def Value.pair (e : Value × Value) : Value :=
  .vector [e.1, e.2]

/-- The calls that build a map from pairs. Two of them need a pair. -/
inductive Builds (pairs : List (Value × Value)) : Builtin → List Value → Prop
  | hashMap : Builds pairs (.map .hashMap) (Form.flatten pairs)
  | zipmap : Builds pairs (.map .zipmap) [.vector (pairs.map (·.1)), .vector (pairs.map (·.2))]
  | into : Builds pairs (.sequence .into) [.map [], .vector (pairs.map Value.pair)]
  | conj : Builds pairs (.sequence .conj) (.map [] :: pairs.map Value.pair)
  | assoc : pairs ≠ [] → Builds pairs (.map .assoc) (.map [] :: Form.flatten pairs)
  | merge : pairs ≠ [] → Builds pairs (.map .merge) (pairs.map fun e => .map [e])

/-- Expressions for keys and values are evaluated one after the other, and the pairs are their values. -/
inductive PairsInTurn (h : Host) (call : Value → List Value → EvalM Value) (env : Env) :
    List (Expr × Expr) → List (Value × Value) → RunState → RunState → Prop
  | nil {s : RunState} : PairsInTurn h call env [] [] s s
  | cons {ke ve : Expr} {k v : Value} {rest : List (Expr × Expr)} {pairs : List (Value × Value)}
      {s s₁ s₂ s' : RunState} : eval h call ke env s = (.ok k, s₁) → eval h call ve env s₁ = (.ok v, s₂) →
      PairsInTurn h call env rest pairs s₂ s' → PairsInTurn h call env ((ke, ve) :: rest) ((k, v) :: pairs) s s'

theorem PairsInTurn.evalEntries_eq {h : Host} {call : Value → List Value → EvalM Value} {env : Env}
    {es : List (Expr × Expr)} {pairs : List (Value × Value)} {s s' : RunState}
    (hes : PairsInTurn h call env es pairs s s') : evalEntries h call es env s = (.ok pairs, s') := by
  induction hes with
  | nil => rfl
  | cons hk hv _ ih =>
    rw [evalEntries, EvalM.bind_apply, hk]
    dsimp only
    rw [EvalM.bind_apply, hv]
    dsimp only
    rw [EvalM.bind_apply, ih]
    rfl

theorem PairsInTurn.eval_map {h : Host} {call : Value → List Value → EvalM Value} {env : Env}
    {es : List (Expr × Expr)} {pairs : List (Value × Value)} {s s' : RunState}
    (hes : PairsInTurn h call env es pairs s s') :
    eval h call (.map es) env s = (.ok (.map (Entries.ofList pairs)), s') := by
  rw [eval, EvalM.bind_apply, hes.evalEntries_eq]
  rfl

/-- Every fold whose step sets the value of a pair sets the values of all pairs. -/
theorem foldlM_eq_insertAll {α β : Type} {step : α → β → Checked α} {whole : Entries → α}
    {item : Value × Value → β} (hstep : ∀ m e, step (whole m) (item e) = .ok (whole (Entries.insert e.1 e.2 m)))
    (m : Entries) (pairs : List (Value × Value)) :
    (pairs.map item).foldlM step (whole m) = .ok (whole (Entries.insertAll m pairs)) := by
  induction pairs generalizing m with
  | nil => rfl
  | cons e pairs ih =>
    rw [List.map_cons, List.foldlM_cons, hstep]
    exact ih (Entries.insert e.1 e.2 m)

theorem Sequence.addEntries_eq (name : String) (pairs : List (Value × Value)) :
    ((pairs.map Value.pair).foldlM (addEntry name) [] >>= fun m => pure (.map m)) =
      (.ok (.map (Entries.ofList pairs)) : Checked Value) := by
  have hfold : (pairs.map Value.pair).foldlM (addEntry name) [] = .ok (Entries.ofList pairs) :=
    @foldlM_eq_insertAll Entries Value (addEntry name) id Value.pair (fun _ _ => rfl) [] pairs
  rw [hfold]
  rfl

theorem Form.even_length_flatten (pairs : List (Value × Value)) : (flatten pairs).length % 2 = 0 := by
  rw [length_flatten]
  omega

theorem MapFn.setParts_flatten (e : Value × Value) (pairs : List (Value × Value)) :
    setParts (.map []) e.1 e.2 (Form.flatten pairs) = .ok (.map (Entries.ofList (e :: pairs))) := by
  have hpairs : Form.pairs (e.1 :: e.2 :: Form.flatten pairs) = e :: pairs :=
    Form.pairs_flatten (e :: pairs)
  have hfold := @foldlM_eq_insertAll Value (Value × Value) (fun coll e => setPart "assoc" coll e.1 e.2) .map id
    (fun _ _ => rfl) [] (e :: pairs)
  rw [List.map_id] at hfold
  rw [setParts, if_pos (Form.even_length_flatten pairs), hpairs]
  exact hfold

theorem MapFn.foldlM_mergeInto (e : Value × Value) (pairs : List (Value × Value)) :
    ((e :: pairs).map fun e => Value.map [e]).foldlM mergeInto none =
      .ok (some (Entries.ofList (e :: pairs))) := by
  rw [List.map_cons, List.foldlM_cons]
  exact foldlM_eq_insertAll (fun _ _ => rfl) (Entries.insert e.1 e.2 []) pairs

/-- Each call gives the map of the pairs. -/
theorem Builds.act_eq {pairs : List (Value × Value)} {f : Builtin} {args : List Value}
    (hf : Builds pairs f args) : f.act args = .ofChecked (.ok (.map (Entries.ofList pairs))) := by
  cases hf with
  | hashMap =>
    have hargs : MapFn.ofAlternating (Form.flatten pairs) = .ok (.map (Entries.ofList pairs)) := by
      rw [MapFn.ofAlternating, if_pos (Form.even_length_flatten pairs), Form.pairs_flatten]
    exact congrArg Action.ofChecked hargs
  | zipmap =>
    have hzip : (pairs.map (·.1)).zip (pairs.map (·.2)) = pairs := by
      rw [List.zip_map', List.map_id']
    exact congrArg (fun es => Action.ofChecked (.ok (Value.map (Entries.ofList es)))) hzip
  | into => exact congrArg Action.ofChecked (Sequence.addEntries_eq "into" pairs)
  | conj => exact congrArg Action.ofChecked (Sequence.addEntries_eq "conj" pairs)
  | assoc hne =>
    obtain ⟨e, pairs, rfl⟩ := List.exists_cons_of_ne_nil hne
    exact congrArg Action.ofChecked (MapFn.setParts_flatten e pairs)
  | merge hne =>
    obtain ⟨e, pairs, rfl⟩ := List.exists_cons_of_ne_nil hne
    have hmerged : MapFn.merged ((e :: pairs).map fun e => .map [e]) =
        .ok (.map (Entries.ofList (e :: pairs))) := by
      rw [MapFn.merged, MapFn.foldlM_mergeInto]
      rfl
    exact congrArg Action.ofChecked hmerged

/-- All ways to build a map from pairs lead to the map `m`: the calls, and every literal whose keys and values are
the pairs. -/
structure BuildsTo (h : Host) (n : Nat) (pairs : List (Value × Value)) (m : Entries) : Prop where
  calls : ∀ f args s, Builds pairs f args → callAt h (n + 1) (.builtin f) args s = (.ok (.map m), s)
  literal : ∀ call env es s s', PairsInTurn h call env es pairs s s' →
    eval h call (.map es) env s = (.ok (.map m), s')

theorem buildsTo_ofList (h : Host) (n : Nat) (pairs : List (Value × Value)) :
    BuildsTo h n pairs (Entries.ofList pairs) where
  calls _ _ s hf := congrFun (callAt_of_act hf.act_eq h n) s
  literal _ _ _ _ _ hes := hes.eval_map

theorem BuildsTo.eq_ofList {h : Host} {n : Nat} {pairs : List (Value × Value)} {m : Entries}
    (hm : BuildsTo h n pairs m) : m = Entries.ofList pairs := by
  let s : RunState := .fresh
  have hcalls := (hm.calls _ _ s .hashMap).symm.trans ((buildsTo_ofList h n pairs).calls _ _ s .hashMap)
  exact Value.map.inj (Except.ok.inj (Prod.mk.inj hcalls).1)

/-! ## Maps as they are listed -/

theorem Value.textEntries_eq (m : Entries) :
    textEntries m = [',', ' '].intercalate (m.map fun e => e.1.text ++ ' ' :: e.2.text) := by
  induction m with
  | nil => rfl
  | cons e rest ih =>
    cases rest with
    | nil => exact (List.append_nil _).symm
    | cons e' rest =>
      calc textEntries (e :: e' :: rest)
          = e.1.text ++ ' ' :: (e.2.text ++ ',' :: ' ' :: textEntries (e' :: rest)) := rfl
        _ = _ := by rw [ih]; simp [List.intercalate_cons_cons]

/-- The keys of a map stand in strictly increasing order, and `keys`, `vals`, the items of the map and its text go
through its entries in that order. -/
structure ListedInOrder (h : Host) (n : Nat) (m : Entries) : Prop where
  ordered : (m.map (·.1)).Pairwise fun k l => k.compare l = .lt
  keys : ∀ s, callAt h (n + 1) (.builtin (.map .keys)) [.map m] s = (.ok (.vector (m.map (·.1))), s)
  vals : ∀ s, callAt h (n + 1) (.builtin (.map .vals)) [.map m] s = (.ok (.vector (m.map (·.2))), s)
  items : ∀ name, (Value.map m).items name = .ok (m.map Value.pair)
  text : (Value.map m).text =
    '\x7b' :: ([',', ' '].intercalate (m.map fun e => e.1.text ++ ' ' :: e.2.text) ++ ['\x7d'])

theorem Entries.Ordered.listedInOrder {m : Entries} (hm : m.Ordered) (h : Host) (n : Nat) :
    ListedInOrder h n m where
  ordered := List.pairwise_map.2 hm
  keys _ := rfl
  vals _ := rfl
  items _ := rfl
  text := congrArg (fun t => '\x7b' :: (t ++ ['\x7d'])) (Value.textEntries_eq m)

/-! ## Maps built again -/

theorem MapFn.copyEntry_of_mem {m : Entries} (hm : m.Distinct) {e : Value × Value} (he : e ∈ m)
    (picked : Entries) : copyEntry m picked e.1 = Entries.insert e.1 e.2 picked := by
  have hget : Entries.get? m e.1 = some e.2 := hm.get?_of_mem he
  have hresolve : Entries.resolve m e.1 = e.1 := by
    unfold Entries.resolve
    rw [Entries.contains_eq, hget]
    rfl
  unfold copyEntry
  dsimp only
  rw [hresolve, hget]

/-- All keys of a map select the map. -/
theorem MapFn.selected_keys {m : Entries} (hm : m.Ordered) :
    selected (.map m) (.vector (m.map (·.1))) = .ok (.map m) := by
  have hfold : (m.map (·.1)).foldl (copyEntry m) [] = m := by
    rw [List.foldl_map]
    calc m.foldl (fun picked e => copyEntry m picked e.1) []
        = Entries.ofList m := List.foldl_ext _ _ _ fun picked e he => copyEntry_of_mem hm.distinct he picked
      _ = m := hm.ofList_eq
  exact congrArg (fun es => Except.ok (Value.map es)) hfold

/-- All ways to build a map from pairs whose keys hold no function that a program made give the same map, but for
`merge` without any map, which is `nil`. Each key has the value of its last pair. If no key holds a NaN with the
sign bit set, the map is listed in the order of its keys, and if the keys differ, the order of the pairs does not
matter. A map is built again from its keys and values, from its entries, and by selecting all its keys. -/
theorem maps_are_built_alike (h : Host) (n : Nat) :
    (∀ pairs : List (Value × Value), (∀ e ∈ pairs, e.1.ClosureFree) → ∃ m : Entries,
      BuildsTo h n pairs m ∧ (∀ k v, (k, v) ∈ m ↔ Entries.LastPair pairs k v) ∧
      ((∀ e ∈ pairs, e.1.Regular) → ListedInOrder h n m ∧
        ((pairs.map (·.1)).Nodup → ∀ pairs', pairs.Perm pairs' → BuildsTo h n pairs' m))) ∧
    (∀ s, callAt h (n + 1) (.builtin (.map .merge)) [] s = (.ok .nil, s)) ∧
    ∀ (m : Entries) (s : RunState), m.Ordered → ∃ ks vs,
      callAt h (n + 1) (.builtin (.map .keys)) [.map m] s = (.ok ks, s) ∧
      callAt h (n + 1) (.builtin (.map .vals)) [.map m] s = (.ok vs, s) ∧
      callAt h (n + 1) (.builtin (.map .zipmap)) [ks, vs] s = (.ok (.map m), s) ∧
      callAt h (n + 1) (.builtin (.sequence .into)) [.map [], .map m] s = (.ok (.map m), s) ∧
      callAt h (n + 1) (.builtin (.map .selectKeys)) [.map m, ks] s = (.ok (.map m), s) := by
  refine ⟨fun pairs hfree => ?_, fun _ => rfl, fun m s hm => ?_⟩
  · refine ⟨_, buildsTo_ofList h n pairs, fun k v => Entries.mem_ofList_iff hfree, fun hregular =>
      ⟨(Entries.ofList_ordered hregular).listedInOrder h n, fun hkeys pairs' hperm => ?_⟩⟩
    rw [← Entries.ofList_eq_of_perm hfree hregular hkeys hperm]
    exact buildsTo_ofList h n pairs'
  · have hbuilt : BuildsTo h n m m := by
      have hofList := buildsTo_ofList h n m
      rwa [hm.ofList_eq] at hofList
    have hlisted := hm.listedInOrder h n
    refine ⟨_, _, hlisted.keys s, hlisted.vals s, hbuilt.calls _ _ s .zipmap, ?_, ?_⟩
    · -- the items of the map are its entries as vectors
      have hinto := hbuilt.calls _ _ s Builds.into
      exact hinto
    · have hact : (Builtin.map .selectKeys).act [.map m, .vector (m.map (·.1))] = .ofChecked (.ok (.map m)) :=
        congrArg Action.ofChecked (MapFn.selected_keys hm)
      exact congrFun (callAt_of_act hact h n) s

/-- A vector with a double as a key, and a keyword that is written twice. The pairs that are left can be given in
the other order. The map that is built from an empty map and the entries of the first is the same. -/
theorem maps_are_built_alike_with_repeated_key :
    ∃ (h : Host) (s : RunState) (key : Value) (m : Entries),
      key = .vector [.number (.float (.ofInt 1))] ∧ m = [(.keyword "b", .ofNat 3), (key, .ofNat 2)] ∧
      eval h (callAt h 1) (.map [(.literal (.keyword "b"), .literal (.number (.int 1))),
        (.vector [.literal (.number (.float (.ofInt 1)))], .literal (.number (.int 2))),
        (.literal (.keyword "b"), .literal (.number (.int 3)))]) [] s = (.ok (.map m), s) ∧
      callAt h 1 (.builtin (.map .merge))
        [.map [(.keyword "b", .ofNat 1)], .map [(key, .ofNat 2)], .map [(.keyword "b", .ofNat 3)]] s =
          (.ok (.map m), s) ∧
      callAt h 1 (.builtin (.sequence .conj))
        [.map [], .vector [key, .ofNat 2], .vector [.keyword "b", .ofNat 3]] s = (.ok (.map m), s) ∧
      callAt h 1 (.builtin (.sequence .into)) [.map [], .map m] s = (.ok (.map m), s) := by
  let h : Host := .bare
  let s : RunState := .fresh
  let key : Value := .vector [.number (.float (.ofInt 1))]
  have hkey : key.ClosureFree := by
    refine Value.closureFree_vector.2 fun v hv => ?_
    rw [List.mem_singleton.1 hv]
    exact Value.closureFree_of_parts_eq_nil rfl rfl
  obtain ⟨hpairs, -, hagain⟩ := maps_are_built_alike h 0
  obtain ⟨m, hbuilds, -⟩ := hpairs [(.keyword "b", .ofNat 1), (key, .ofNat 2), (.keyword "b", .ofNat 3)]
    (by simp [hkey])
  have hm : m = [(.keyword "b", .ofNat 3), (key, .ofNat 2)] := hbuilds.eq_ofList.trans rfl
  obtain ⟨m', -, -, hlisted⟩ := hpairs [(.keyword "b", .ofNat 3), (key, .ofNat 2)] (by simp [hkey])
  have hregular : key.Regular := by
    rw [Value.regular_vector, List.forall_mem_singleton, Value.regular_number]
    decide +kernel
  have hswapped : BuildsTo h 0 [(key, .ofNat 2), (.keyword "b", .ofNat 3)] m' :=
    (hlisted (by simp [hregular])).2 (by simp [key]) _ (List.Perm.swap ..)
  have hm' : m' = m := (hswapped.eq_ofList.trans rfl).trans hm.symm
  rw [hm'] at hswapped
  refine ⟨h, s, key, m, rfl, hm, ?_, hbuilds.calls _ _ s (.merge (by simp)), hswapped.calls _ _ s .conj, ?_⟩
  · exact hbuilds.literal _ _ _ _ _ (.cons rfl rfl (.cons rfl rfl (.cons rfl rfl .nil)))
  · obtain ⟨-, -, -, -, -, hinto, -⟩ := hagain m s (by rw [hm]; decide +kernel)
    exact hinto

/-- Without any pair there is no map that `merge` could give. -/
theorem merge_of_no_maps_is_nil :
    ¬ ∀ (h : Host) (n : Nat) (s : RunState) (pairs : List (Value × Value)),
      (∀ e ∈ pairs, e.1.ClosureFree) →
        callAt h (n + 1) (.builtin (.map .merge)) (pairs.map fun e => .map [e]) s =
          callAt h (n + 1) (.builtin (.map .hashMap)) (Form.flatten pairs) s := by
  intro hclaim
  have hempty := hclaim .bare 0 .fresh [] (by simp)
  have hmerge (h : Host) (s : RunState) :
      callAt h 1 (.builtin (.map .merge)) [] s = (.ok .nil, s) := rfl
  have hhashMap (h : Host) (s : RunState) :
      callAt h 1 (.builtin (.map .hashMap)) [] s = (.ok (.map []), s) := rfl
  rw [List.map_nil, hmerge] at hempty
  cases hempty.trans (hhashMap _ _)

end ToolLisp
