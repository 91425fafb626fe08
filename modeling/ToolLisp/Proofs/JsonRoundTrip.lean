import ToolLisp.Proofs.BuiltinNames
import ToolLisp.Proofs.InterpreterState
import ToolLisp.Run.Registry

/-!
# JSON data that goes to values and back

The members of an object become the entries of a map under keywords, which are ordered as their names are.
So what a list of members or entries makes up is the same on both sides (`NameMap.toEntries_ofList`), and
finite data comes back as it was, with the members of its objects in order (`json_round_trip`).
-/

namespace ToolLisp

open Std (LawfulEqCmp)

/-! ## Maps from names in order -/

namespace NameMap

variable {α β : Type}

/-- The entries stand in the order of their names, and no name stands there twice. -/
def Ordered (m : NameMap α) : Prop :=
  m.Pairwise fun e e' => compare e.1 e'.1 = .lt

instance (m : NameMap α) : Decidable m.Ordered :=
  inferInstanceAs (Decidable (m.Pairwise _))

/-- The entries under the keywords of their names. -/
def toEntries (value : α → Value) (m : NameMap α) : Entries :=
  m.map fun e => (.keyword e.1, value e.2)

/-- The same names with other entries. -/
def mapEntries (f : α → β) (m : NameMap α) : NameMap β :=
  m.map fun e => (e.1, f e.2)

theorem ordered_iff_toEntries (value : α → Value) {m : NameMap α} :
    m.Ordered ↔ (toEntries value m).Ordered := by
  rw [Entries.Ordered, toEntries, List.pairwise_map]
  rfl

theorem toEntries_insert (value : α → Value) (name : String) (a : α) {m : NameMap α} (h : m.Ordered) :
    toEntries value (insert name a m) = Entries.insert (.keyword name) (value a) (toEntries value m) := by
  induction m with
  | nil => rfl
  | cons e rest ih =>
    obtain ⟨hfirst, hrest⟩ := List.pairwise_cons.1 h
    have hcompare : (Value.keyword name).compare (.keyword e.1) = compare name e.1 := rfl
    have hinsert := ih hrest
    simp only [toEntries, List.map_cons, insert, Entries.insert, hcompare] at hinsert ⊢
    cases hname : compare name e.1 with
    | lt =>
      -- the names behind `e` come after it, so `name` is not among them
      have hrest : Entries.erase (.keyword name) (toEntries value rest) = toEntries value rest := by
        refine List.filter_eq_self.2 fun e' he' => ?_
        obtain ⟨d, hd, rfl⟩ := List.mem_map.1 he'
        have hlt : compare name d.1 = .lt := Std.TransCmp.lt_trans hname (hfirst d hd)
        have hkeyword : (Value.keyword name).compare (.keyword d.1) = .lt := hlt
        rw [Value.same, hkeyword]
        rfl
      exact congrArg (fun rest => _ :: _ :: rest) hrest.symm
    | eq => rfl
    | gt => rw [List.map_cons, hinsert]

/-- Setting an entry keeps the names in order. -/
theorem insert_ordered {name : String} {a : α} {m : NameMap α} (h : m.Ordered) : (insert name a m).Ordered := by
  have hentries := (ordered_iff_toEntries fun _ => .nil).1 h
  rw [ordered_iff_toEntries fun _ => .nil, toEntries_insert _ name a h]
  refine hentries.insert (Value.regular_keyword name) fun e he => ?_
  obtain ⟨d, -, rfl⟩ := List.mem_map.1 he
  exact Value.regular_keyword d.1

theorem mapEntries_congr {f g : α → β} {m : NameMap α} (h : ∀ a ∈ m.map (·.2), f a = g a) :
    mapEntries f m = mapEntries g m :=
  List.map_congr_left fun e he => congrArg _ (h e.2 (List.mem_map_of_mem he))

theorem mapEntries_insert (f : α → β) (name : String) (a : α) (m : NameMap α) :
    mapEntries f (insert name a m) = insert name (f a) (mapEntries f m) := by
  induction m with
  | nil => rfl
  | cons e rest ih =>
    simp only [mapEntries, List.map_cons, insert] at ih ⊢
    cases compare name e.1 with
    | lt => rfl
    | eq => rfl
    | gt => rw [List.map_cons, ih]

/-- What members make up is the same under names and under keywords. -/
theorem toEntries_ofList (value : α → Value) (es : List (String × α)) :
    toEntries value (ofList es) = Entries.ofList (toEntries value es) := by
  have hall : ∀ (es : List (String × α)) (m : NameMap α), m.Ordered →
      toEntries value (es.foldl (fun m e => insert e.1 e.2 m) m) =
        Entries.insertAll (toEntries value m) (toEntries value es) := by
    intro es
    induction es with
    | nil => exact fun m _ => rfl
    | cons e es ih =>
      intro m hm
      rw [List.foldl_cons, ih _ (insert_ordered hm), toEntries_insert value e.1 e.2 hm]
      rfl
  exact hall es [] .nil

theorem mapEntries_ofList (f : α → β) (es : List (String × α)) :
    mapEntries f (ofList es) = ofList (mapEntries f es) := by
  have hall : ∀ (es : List (String × α)) (m : NameMap α),
      mapEntries f (es.foldl (fun m e => insert e.1 e.2 m) m) =
        (mapEntries f es).foldl (fun m e => insert e.1 e.2 m) (mapEntries f m) := by
    intro es
    induction es with
    | nil => exact fun m => rfl
    | cons e es ih =>
      intro m
      rw [List.foldl_cons, ih, mapEntries_insert]
      rfl
  exact hall es []

theorem ofList_ordered (es : List (String × α)) : (ofList es).Ordered := by
  have hall : ∀ (es : List (String × α)) (m : NameMap α), m.Ordered →
      (es.foldl (fun m e => insert e.1 e.2 m) m).Ordered := by
    intro es
    induction es with
    | nil => exact fun m hm => hm
    | cons e es ih => exact fun m hm => ih _ (insert_ordered hm)
  exact hall es [] .nil

/-- A name that comes after all others goes to the end. -/
theorem insert_eq_append {name : String} {a : α} {m : NameMap α} (h : ∀ e ∈ m, compare e.1 name = .lt) :
    insert name a m = m ++ [(name, a)] := by
  induction m with
  | nil => rfl
  | cons e rest ih =>
    obtain ⟨he, hrest⟩ := List.forall_mem_cons.1 h
    have hgt : compare name e.1 = .gt := Std.OrientedCmp.gt_of_lt he
    simp only [insert, hgt, ih hrest, List.cons_append]

/-- Entries that are in order already make up their map. -/
theorem Ordered.ofList_eq {m : NameMap α} (h : m.Ordered) : ofList m = m := by
  have hall : ∀ (new m : NameMap α), Ordered (m ++ new) →
      new.foldl (fun m e => insert e.1 e.2 m) m = m ++ new := by
    intro new
    induction new with
    | nil => exact fun m _ => (List.append_nil m).symm
    | cons e new ih =>
      intro m h
      have hlast : insert e.1 e.2 m = m ++ [e] :=
        insert_eq_append fun e' he' => (List.pairwise_append.1 h).2.2 e' he' e List.mem_cons_self
      rw [List.foldl_cons, hlast, ih _ (by rwa [List.append_assoc]), List.append_assoc]
      rfl
  exact hall m [] h

end NameMap

/-! ## JSON data -/

namespace Json

/-- The data in an array or an object. -/
def inside : Json → List Json
  | .array items => items
  | .object members => members.map (·.2)
  | _ => []

theorem sizeOf_lt_of_mem_inside {p j : Json} (h : p ∈ j.inside) : sizeOf p < sizeOf j := by
  cases j with
  | array items =>
    have hitem : sizeOf p < sizeOf items := List.sizeOf_lt_of_mem h
    simp only [array.sizeOf_spec]
    omega
  | object members =>
    obtain ⟨m, hm, rfl⟩ := List.mem_map.1 h
    have hmember := List.sizeOf_lt_of_mem hm
    have hsize : sizeOf m = 1 + sizeOf m.1 + sizeOf m.2 := rfl
    simp only [object.sizeOf_spec]
    omega
  | _ => cases h

/-- What holds of data if it holds of what is in it, holds of all data. -/
theorem inside_induction {P : Json → Prop} (h : ∀ j, (∀ p ∈ j.inside, P p) → P j) (j : Json) : P j :=
  h j fun p _hp => inside_induction h p
termination_by sizeOf j
decreasing_by exact sizeOf_lt_of_mem_inside _hp

mutual

/-- Whether a test holds of data and of everything in it. -/
def everywhere (test : Json → Bool) : Json → Bool
  | .array items => test (.array items) && everywhereAll test items
  | .object members => test (.object members) && everywhereMembers test members
  | j => test j

/-- Whether a test holds everywhere in several data. -/
def everywhereAll (test : Json → Bool) : List Json → Bool
  | [] => true
  | j :: rest => everywhere test j && everywhereAll test rest

/-- Whether a test holds everywhere in the members of an object. -/
def everywhereMembers (test : Json → Bool) : List (String × Json) → Bool
  | [] => true
  | (_, j) :: rest => everywhere test j && everywhereMembers test rest

end

/-- Whether all numbers are integers or finite doubles. -/
def isFinite : Json → Bool :=
  everywhere fun
    | .number (.float x) => x.isFinite
    | _ => true

/-- Whether the members of all objects are in the order of their names, and no name stands there twice. -/
def inOrder : Json → Bool :=
  everywhere fun
    | .object members => decide (NameMap.Ordered members)
    | _ => true

theorem everywhereAll_iff {test : Json → Bool} {items : List Json} :
    everywhereAll test items = true ↔ ∀ j ∈ items, everywhere test j = true := by
  induction items with
  | nil => simp [everywhereAll]
  | cons j rest ih => simp [everywhereAll, ih]

theorem everywhereMembers_iff {test : Json → Bool} {members : List (String × Json)} :
    everywhereMembers test members = true ↔ ∀ m ∈ members, everywhere test m.2 = true := by
  induction members with
  | nil => simp [everywhereMembers]
  | cons m rest ih => simp [everywhereMembers, ih]

theorem everywhere_iff {test : Json → Bool} {j : Json} :
    everywhere test j = true ↔ test j = true ∧ ∀ p ∈ j.inside, everywhere test p = true := by
  cases j with
  | array items => simp [everywhere, inside, everywhereAll_iff]
  | object members =>
    rw [everywhere, inside, Bool.and_eq_true, everywhereMembers_iff, List.forall_mem_map]
  | _ => simp [everywhere, inside]

mutual

/-- The same data with the members of objects in the order of their names. Of members with the same name, the
last one stays. -/
def ordered : Json → Json
  | .array items => .array (orderedAll items)
  | .object members => .object (NameMap.ofList (orderedMembers members))
  | j => j

/-- Several data in order. -/
def orderedAll : List Json → List Json
  | [] => []
  | j :: rest => ordered j :: orderedAll rest

/-- Members with their data in order. -/
def orderedMembers : List (String × Json) → List (String × Json)
  | [] => []
  | (name, j) :: rest => (name, ordered j) :: orderedMembers rest

end

theorem orderedAll_eq (items : List Json) : orderedAll items = items.map ordered := by
  induction items with
  | nil => rfl
  | cons j rest ih => rw [orderedAll, ih, List.map_cons]

theorem orderedMembers_eq (members : List (String × Json)) :
    orderedMembers members = NameMap.mapEntries ordered members := by
  induction members with
  | nil => rfl
  | cons m rest ih =>
    rw [orderedMembers, ih]
    rfl

end Json

namespace Value

theorem ofJsonAll_eq (items : List Json) : ofJsonAll items = items.map ofJson := by
  induction items with
  | nil => rfl
  | cons j rest ih => rw [ofJsonAll, ih, List.map_cons]

theorem ofJsonMembers_eq (members : List (String × Json)) :
    ofJsonMembers members = NameMap.toEntries ofJson members := by
  induction members with
  | nil => rfl
  | cons m rest ih =>
    rw [ofJsonMembers, ih]
    rfl

theorem toJsonAll_eq (items : List Value) : toJsonAll items = items.map toJson := by
  induction items with
  | nil => rfl
  | cons v rest ih => rw [toJsonAll, ih, List.map_cons]

theorem toJsonMembers_toEntries {α : Type} (value : α → Value) (m : NameMap α) :
    toJsonMembers (NameMap.toEntries value m) = NameMap.mapEntries (fun a => (value a).toJson) m := by
  induction m with
  | nil => rfl
  | cons e rest ih =>
    have hcons : NameMap.toEntries value (e :: rest) = (.keyword e.1, value e.2) :: NameMap.toEntries value rest :=
      rfl
    rw [hcons, toJsonMembers, ih]
    rfl

/-- Finite data comes back from its value with the members of its objects in order. -/
theorem toJson_ofJson {j : Json} (hj : j.isFinite = true) : (ofJson j).toJson = j.ordered := by
  induction j using Json.inside_induction with
  | h j ih =>
    obtain ⟨hnumber, hinside⟩ := Json.everywhere_iff.1 hj
    have hback : ∀ p ∈ j.inside, (ofJson p).toJson = p.ordered := fun p hp => ih p hp (hinside p hp)
    cases j with
    | number n =>
      cases n with
      | int n => rfl
      | float x =>
        rw [ofJson, toJson, numberToJson, if_pos hnumber]
        rfl
    | array items =>
      rw [ofJson, toJson, ofJsonAll_eq, toJsonAll_eq, List.map_map, Json.ordered, Json.orderedAll_eq]
      exact congrArg _ (List.map_congr_left hback)
    -- both ways put the members in the order of their names
    | object members =>
      rw [ofJson, toJson, ofJsonMembers_eq, ← NameMap.toEntries_ofList, toJsonMembers_toEntries,
        NameMap.mapEntries_ofList, (NameMap.ofList_ordered _).ofList_eq, Json.ordered, Json.orderedMembers_eq,
        NameMap.mapEntries_congr hback]
    | _ => rfl

/-- The order of members makes no difference to the value of data. -/
theorem ofJson_ordered (j : Json) : ofJson j.ordered = ofJson j := by
  induction j using Json.inside_induction with
  | h j ih =>
    cases j with
    | array items =>
      rw [Json.ordered, ofJson, ofJson, Json.orderedAll_eq, ofJsonAll_eq, ofJsonAll_eq, List.map_map]
      exact congrArg _ (List.map_congr_left ih)
    | object members =>
      have hmembers : NameMap.toEntries ofJson (NameMap.mapEntries Json.ordered members) =
          NameMap.toEntries ofJson members := by
        rw [NameMap.toEntries, NameMap.mapEntries, List.map_map]
        exact List.map_congr_left fun m hm => congrArg _ (ih m.2 (List.mem_map_of_mem hm))
      rw [Json.ordered, ofJson, ofJson, Json.orderedMembers_eq, ofJsonMembers_eq, ofJsonMembers_eq,
        ← NameMap.toEntries_ofList, (NameMap.ofList_ordered _).ofList_eq, NameMap.toEntries_ofList, hmembers]
    | _ => rfl

end Value

theorem Json.ordered_of_inOrder {j : Json} (hj : j.inOrder = true) : j.ordered = j := by
  induction j using Json.inside_induction with
  | h j ih =>
    obtain ⟨hmembers, hinside⟩ := Json.everywhere_iff.1 hj
    have hsame : ∀ p ∈ j.inside, p.ordered = id p := fun p hp => ih p hp (hinside p hp)
    cases j with
    | array items =>
      rw [ordered, orderedAll_eq]
      exact congrArg _ ((List.map_congr_left hsame).trans (List.map_id items))
    | object members =>
      have hid : NameMap.mapEntries id members = members := List.map_id members
      rw [ordered, orderedMembers_eq, NameMap.mapEntries_congr hsame, hid,
        NameMap.Ordered.ofList_eq (of_decide_eq_true hmembers)]
    | _ => rfl

/-! ## Tools that work on JSON data -/

/-- A tool that has just been registered answers calls of its name. -/
theorem Registry.callTool_insert {r : Registry} {name : String} {tool : Tool} {h : Host}
    (hh : h.tools = (r.insert name tool).toTools) {s : RunState} {args : Entries} {v : Value}
    (hv : tool s.calls args = .ok v) :
    callTool h name [.map args] s = (.ok v, { s with calls := ⟨name, args⟩ :: s.calls }) := by
  have hhas : h.tools.has name = true := by
    rw [hh]
    exact (NameMap.contains_insert ..).trans (by rw [beq_self_eq_true, Bool.true_or])
  have hanswer : h.tools.answer s.calls name args = .ok v := by
    rw [hh, toTools, insert]
    simp only [NameMap.get?_insert_self, hv]
  rw [callTool, if_pos hhas]
  simp only [EvalM.askTool, hanswer]

/-- Finite JSON data comes back from its value: with the members of its objects in order, so unchanged if they
are in order already. Its value comes back from the data that it becomes, and a tool that returns the JSON
data that it gets returns a map that came from such data. -/
theorem json_round_trip (j : Json) (hj : j.isFinite = true) :
    (Value.ofJson j).toJson = j.ordered ∧
    (j.inOrder = true → (Value.ofJson j).toJson = j) ∧
    Value.ofJson (Value.ofJson j).toJson = Value.ofJson j ∧
    ∀ (r : Registry) (name : String) (h : Host) (s : RunState) (m : Entries),
      h.tools = (r.insertJson name fun _ args => .ok args).toTools → Value.ofJson j = .map m →
        callTool h name [.map m] s = (.ok (.map m), { s with calls := ⟨name, m⟩ :: s.calls }) := by
  have hback := Value.toJson_ofJson hj
  have hagain : Value.ofJson (Value.ofJson j).toJson = Value.ofJson j := by rw [hback, Value.ofJson_ordered]
  refine ⟨hback, fun ho => ?_, hagain, ?_⟩
  · rw [hback, Json.ordered_of_inOrder ho]
  · intro r name h s m htools hm
    rw [hm] at hagain
    exact Registry.callTool_insert htools (congrArg Except.ok hagain)

/-- An object with an empty name and a name of two words, the least integer and a negative zero, and objects in
arrays; and an object whose members are out of order and share a name. -/
theorem json_round_trip_of_odd_names :
    ∃ (j : Json) (h : Host) (s : RunState) (m : Entries),
      j = .object [("", .number (.int (-9223372036854775808))),
        ("two words", .array [.null, .object [("a", .number (.float (.signed true 0 (by decide))))]]),
        ("x", .string ":x")] ∧
      (Value.ofJson j).toJson = j ∧ Value.ofJson j = .map m ∧
      callTool h "echo" [.map m] s = (.ok (.map m), { s with calls := ⟨"echo", m⟩ :: s.calls }) ∧
      (Value.ofJson (.object [("b", .null), ("a", .bool true), ("b", .bool false)])).toJson =
        .object [("a", .bool true), ("b", .bool false)] := by
  let h : Host := { Host.bare with tools := (Registry.empty.insertJson "echo" fun _ args => .ok args).toTools }
  obtain ⟨-, hsame, -, hecho⟩ := json_round_trip (.object [("", .number (.int (-9223372036854775808))),
    ("two words", .array [.null, .object [("a", .number (.float (.signed true 0 (by decide))))]]),
    ("x", .string ":x")]) (by decide +kernel)
  exact ⟨_, h, .fresh, _, rfl, hsame (by decide +kernel), rfl, hecho _ _ h _ _ rfl rfl,
    (json_round_trip (.object [("b", .null), ("a", .bool true), ("b", .bool false)]) (by decide +kernel)).1⟩

end ToolLisp
