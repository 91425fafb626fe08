import ToolLisp.Proofs.PrintedForms
import ToolLisp.Proofs.ValueOrder
import ToolLisp.Run.Program

/-!
# Printed data evaluate to themselves

The text of data is a program whose value is the data again (`evaluate_render`). Data are values without
functions: `nil`, truth values, numbers, strings, keywords, and vectors and maps of data.

The text of data is that of a form (`text_form`), so the reader gives that form back. The analysis of the
form gives an expression without variables and calls (`analyzeAt_form`), and evaluating it builds the data
from the inside out (`eval_quoted`). The entries of a map are written in the order of their keys, so
setting one after the other makes up the same map.
-/

namespace ToolLisp

namespace Value

/-- The values that programs can spell out. Numbers are spelled without a sign of NaN, keywords are spelled as
names, and the entries of maps are in order. -/
inductive IsData : Value → Prop
  /-- The value `nil`. -/
  | nil : IsData .nil
  /-- A truth value. -/
  | bool (b : Bool) : IsData (.bool b)
  /-- A number. -/
  | number {n : Number} : n.Regular → IsData (.number n)
  /-- A string. -/
  | string (s : String) : IsData (.string s)
  /-- A keyword. -/
  | keyword {name : String} : (Token.keyword name).WellSpelled → IsData (.keyword name)
  /-- A vector. -/
  | vector {items : List Value} : (∀ v ∈ items, IsData v) → IsData (.vector items)
  /-- A map, with any data as keys. -/
  | map {entries : List (Value × Value)} : (∀ e ∈ entries, IsData e.1) → (∀ e ∈ entries, IsData e.2) →
    Entries.Ordered entries → IsData (.map entries)

/-- Data hold no NaN with the sign bit set. -/
theorem IsData.regular {v : Value} (h : v.IsData) : v.Regular := by
  induction h with
  | number hn => exact regular_number.2 hn
  | vector _ ih => exact regular_vector.2 ih
  | @map entries _ _ _ ihk ihv =>
    refine .intro (Number.regular_int 0) fun p hp => ?_
    obtain ⟨e, he, hp⟩ := List.mem_flatMap.1 hp
    rcases List.mem_pair.1 hp with rfl | rfl
    · exact ihk e he
    · exact ihv e he
  | _ => exact regular_of_parts_eq_nil (Number.regular_int 0) rfl

/-- Maps that are built of data are data. -/
theorem IsData.map_ofList {entries : List (Value × Value)} (hk : ∀ e ∈ entries, IsData e.1)
    (hv : ∀ e ∈ entries, IsData e.2) : IsData (.map (Entries.ofList entries)) :=
  .map (fun e he => hk e (Entries.mem_of_mem_ofList he)) (fun e he => hv e (Entries.mem_of_mem_ofList he))
    (Entries.ofList_ordered fun e he => (hk e he).regular)

mutual

/-- How deeply vectors and maps are nested in a value. -/
def depth : Value → Nat
  | .vector items => depthAll items + 1
  | .map entries => depthEntries entries + 1
  | _ => 0

/-- How deeply vectors and maps are nested in some values. -/
def depthAll : List Value → Nat
  | [] => 0
  | v :: rest => max (depth v) (depthAll rest)

/-- How deeply vectors and maps are nested in some entries. -/
def depthEntries : List (Value × Value) → Nat
  | [] => 0
  | (k, v) :: rest => max (max (depth k) (depth v)) (depthEntries rest)

end

/-! ## Forms and expressions of data -/

mutual

/-- The form that data are written as. -/
def form : Value → Form
  | .bool b => .bool b
  | .number n => .number n
  | .string s => .string s
  | .keyword name => .keyword name
  | .vector items => .vector (formAll items)
  | .map entries => .map (formEntries entries)
  | _ => .nil

/-- The forms of some values. -/
def formAll : List Value → List Form
  | [] => []
  | v :: rest => form v :: formAll rest

/-- The forms of some entries. -/
def formEntries : List (Value × Value) → List (Form × Form)
  | [] => []
  | (k, v) :: rest => (form k, form v) :: formEntries rest

end

mutual

/-- The expression that data are the value of. -/
def quoted : Value → Expr
  | .bool b => .literal (.bool b)
  | .number n => .literal (.number n)
  | .string s => .literal (.string s)
  | .keyword name => .literal (.keyword name)
  | .vector items => .vector (quotedAll items)
  | .map entries => .map (quotedEntries entries)
  | _ => .literal .nil

/-- The expressions of some values. -/
def quotedAll : List Value → List Expr
  | [] => []
  | v :: rest => quoted v :: quotedAll rest

/-- The expressions of some entries. -/
def quotedEntries : List (Value × Value) → List (Expr × Expr)
  | [] => []
  | (k, v) :: rest => (quoted k, quoted v) :: quotedEntries rest

end

/-! ## Reading -/

section

variable {items : List Value} {entries : List (Value × Value)}

/-- The text of a vector of data, if its items are shown alike. -/
theorem text_formAll (h : ∀ v ∈ items, v.form.text = v.text) :
    Form.textAll (formAll items) = textAll items := by
  induction items with
  | nil => rfl
  | cons v rest ih =>
    obtain ⟨hv, hrest⟩ := List.forall_mem_cons.1 h
    cases rest with
    | nil => exact hv
    | cons w rest =>
      calc Form.textAll (formAll (v :: w :: rest))
          = v.form.text ++ ' ' :: Form.textAll (formAll (w :: rest)) := rfl
        _ = v.text ++ ' ' :: textAll (w :: rest) := by rw [hv, ih hrest]

/-- The text of a map of data, if its keys and values are shown alike. -/
theorem text_formEntries (hk : ∀ e ∈ entries, e.1.form.text = e.1.text)
    (hv : ∀ e ∈ entries, e.2.form.text = e.2.text) :
    Form.textPairs (formEntries entries) = textEntries entries := by
  induction entries with
  | nil => rfl
  | cons e rest ih =>
    obtain ⟨k, v⟩ := e
    simp only [List.forall_mem_cons] at hk hv
    cases rest with
    | nil =>
      calc Form.textPairs (formEntries [(k, v)])
          = k.form.text ++ ' ' :: v.form.text := rfl
        _ = k.text ++ ' ' :: v.text := by rw [hk.1, hv.1]
    | cons e rest =>
      calc Form.textPairs (formEntries ((k, v) :: e :: rest))
          = k.form.text ++ ' ' :: (v.form.text ++
              ',' :: ' ' :: Form.textPairs (formEntries (e :: rest))) := rfl
        _ = k.text ++ ' ' :: (v.text ++ ',' :: ' ' :: textEntries (e :: rest)) := by
          rw [hk.1, hv.1, ih hk.2 hv.2]

theorem wellSpelled_formAll (h : ∀ v ∈ items, v.form.WellSpelled) :
    Form.WellSpelledAll (formAll items) := by
  induction items with
  | nil => trivial
  | cons v rest ih =>
    obtain ⟨hv, hrest⟩ := List.forall_mem_cons.1 h
    exact ⟨hv, ih hrest⟩

theorem wellSpelled_formEntries (hk : ∀ e ∈ entries, e.1.form.WellSpelled)
    (hv : ∀ e ∈ entries, e.2.form.WellSpelled) : Form.WellSpelledPairs (formEntries entries) := by
  induction entries with
  | nil => trivial
  | cons e rest ih =>
    obtain ⟨hk, hkrest⟩ := List.forall_mem_cons.1 hk
    obtain ⟨hv, hvrest⟩ := List.forall_mem_cons.1 hv
    exact ⟨⟨hk, hv⟩, ih hkrest hvrest⟩

end

/-- Data are written as their form is. -/
theorem text_form {v : Value} (hv : v.IsData) : v.form.text = v.text := by
  induction hv with
  | nil | number | string | keyword => rfl
  | bool b => cases b <;> rfl
  | vector _ ih => exact congrArg (fun inner => '[' :: (inner ++ [']'])) (text_formAll ih)
  | map _ _ _ ihk ihv =>
    exact congrArg (fun inner => '\x7b' :: (inner ++ ['\x7d'])) (text_formEntries ihk ihv)

/-- The form of data is one that can be spelled. -/
theorem wellSpelled_form {v : Value} (hv : v.IsData) : v.form.WellSpelled := by
  induction hv with
  | nil | bool | string => trivial
  | number hn => exact hn
  | keyword hname => exact hname
  | vector _ ih => exact wellSpelled_formAll ih
  | map _ _ _ ihk ihv => exact wellSpelled_formEntries ihk ihv

mutual

/-- A form is nested as deeply as the data that it shows. -/
theorem depth_form : ∀ v : Value, v.form.depth = v.depth
  | .vector items => by rw [form, Form.depth, depth, depth_formAll items]
  | .map entries => by rw [form, Form.depth, depth, depth_formEntries entries]
  | .nil | .bool _ | .number _ | .string _ | .keyword _ | .closure .. | .rowTest .. | .combined .. |
    .builtin _ | .tool _ => rfl

theorem depth_formAll : ∀ items : List Value, Form.depthAll (formAll items) = depthAll items
  | [] => rfl
  | v :: rest => by rw [formAll, Form.depthAll, depthAll, depth_form v, depth_formAll rest]

theorem depth_formEntries :
    ∀ entries : List (Value × Value), Form.depthPairs (formEntries entries) = depthEntries entries
  | [] => rfl
  | (k, v) :: rest => by
    rw [formEntries, Form.depthPairs, depthEntries, depth_form k, depth_form v, depth_formEntries rest]

end

/-- The text of data that are not nested too deeply is read as their form. -/
theorem readForms_render {v : Value} (hv : v.IsData) (hdepth : v.depth ≤ nestingLimit) :
    readForms v.render = .ok [v.form] := by
  rw [render, ← text_form hv]
  refine (v.form.text_takes (wellSpelled_form hv) [] .start .empty ?_ .nil).readForms_eq
  rw [depth_form]
  simpa [Reader.empty] using hdepth

end Value

/-! ## Analysis -/

namespace Form

theorem size_pos (f : Form) : 0 < f.size := by
  cases f <;> simp only [size] <;> omega

mutual

/-- A form is not nested more deeply than its size. -/
theorem depth_le_size : ∀ f : Form, f.depth ≤ f.size
  | .list items | .vector items => Nat.succ_le_succ (depthAll_le_sizeAll items)
  | .map entries => Nat.succ_le_succ (depthPairs_le_sizePairs entries)
  | .nil | .bool _ | .number _ | .string _ | .keyword _ | .symbol _ | .qualified .. => Nat.zero_le _

theorem depthAll_le_sizeAll : ∀ items : List Form, depthAll items ≤ sizeAll items
  | [] => Nat.le_refl 0
  | f :: rest => by
    have := depth_le_size f
    have := depthAll_le_sizeAll rest
    simp only [depthAll, sizeAll]
    omega

theorem depthPairs_le_sizePairs : ∀ entries : List (Form × Form), depthPairs entries ≤ sizePairs entries
  | [] => Nat.le_refl 0
  | (k, v) :: rest => by
    have := depth_le_size k
    have := depth_le_size v
    have := depthPairs_le_sizePairs rest
    simp only [depthPairs, sizePairs]
    omega

end

end Form

section

variable {sub : Scope → Form → Analyze Expr} {s : Scope}

/-- Analysing the forms of several data gives the expressions that quote them. -/
theorem Analyze.parts_form {items : List Value}
    (h : ∀ v ∈ items, sub s.inner v.form = pure v.quoted) :
    parts sub s (Value.formAll items) = pure (Value.quotedAll items) := by
  unfold parts
  induction items with
  | nil => rfl
  | cons v rest ih =>
    obtain ⟨hv, hrest⟩ := List.forall_mem_cons.1 h
    simp only [Value.formAll, Value.quotedAll, List.mapM_cons, hv, ih hrest, pure_bind]

theorem Analyze.entries_form {entries : List (Value × Value)}
    (hk : ∀ e ∈ entries, sub s.inner e.1.form = pure e.1.quoted)
    (hv : ∀ e ∈ entries, sub s.inner e.2.form = pure e.2.quoted) :
    Analyze.entries sub s (Value.formEntries entries) = pure (Value.quotedEntries entries) := by
  unfold Analyze.entries at *
  induction entries with
  | nil => rfl
  | cons e rest ih =>
    obtain ⟨k, v⟩ := e
    simp only [List.forall_mem_cons] at hk hv
    simp only [Value.formEntries, Value.quotedEntries, List.mapM_cons, hk.1, hv.1, ih hk.2 hv.2,
      pure_bind]

end

namespace Value

theorem depth_le_depthAll {v : Value} : ∀ {items : List Value}, v ∈ items → v.depth ≤ depthAll items
  | _ :: _, .head _ => Nat.le_max_left ..
  | _ :: _, .tail _ h => Nat.le_trans (depth_le_depthAll h) (Nat.le_max_right ..)

theorem depth_le_depthEntries {e : Value × Value} :
    ∀ {entries : List (Value × Value)}, e ∈ entries →
      e.1.depth ≤ depthEntries entries ∧ e.2.depth ≤ depthEntries entries
  | (_, _) :: _, .head _ => by simp only [depthEntries]; omega
  | (_, _) :: _, .tail _ h => by
    have := depth_le_depthEntries h
    simp only [depthEntries]
    omega

/-- The analysis of the form of data gives their expression, wherever the form stands. -/
theorem analyzeAt_form {v : Value} (hv : v.IsData) (s : Scope) :
    ∀ n, v.depth < n → v.form.analyzeAt n s = pure v.quoted := by
  induction hv generalizing s with
  | nil | bool | number | string | keyword =>
    intro n hn
    obtain ⟨n, rfl⟩ := Nat.exists_eq_succ_of_ne_zero (Nat.ne_zero_of_lt hn)
    rfl
  | vector _ ih =>
    intro n hn
    obtain ⟨n, rfl⟩ := Nat.exists_eq_succ_of_ne_zero (Nat.ne_zero_of_lt hn)
    rw [depth] at hn
    have hparts := Analyze.parts_form (s := s) fun v hv =>
      ih v hv s.inner n (by have := depth_le_depthAll hv; omega)
    simp only [form, Form.analyzeAt, Analyze.form, hparts, quoted, pure_bind]
  | map _ _ _ ihk ihv =>
    intro n hn
    obtain ⟨n, rfl⟩ := Nat.exists_eq_succ_of_ne_zero (Nat.ne_zero_of_lt hn)
    rw [depth] at hn
    have hentries := Analyze.entries_form (s := s)
      (fun e he => ihk e he s.inner n (by have := depth_le_depthEntries he; omega))
      (fun e he => ihv e he s.inner n (by have := depth_le_depthEntries he; omega))
    simp only [form, Form.analyzeAt, Analyze.form, hentries, quoted, pure_bind]

/-! ## Evaluation -/

section

variable {h : Host} {call : Value → List Value → EvalM Value} {env : Env}

/-- Evaluating quoted data gives the data. -/
theorem evalAll_quotedAll {items : List Value} (hitems : ∀ v ∈ items, eval h call v.quoted env = pure v) :
    evalAll h call (quotedAll items) env = pure items := by
  induction items with
  | nil => rfl
  | cons v rest ih =>
    obtain ⟨hv, hrest⟩ := List.forall_mem_cons.1 hitems
    simp only [quotedAll, evalAll, hv, ih hrest]
    rfl

theorem evalEntries_quotedEntries {entries : List (Value × Value)}
    (hk : ∀ e ∈ entries, eval h call e.1.quoted env = pure e.1)
    (hv : ∀ e ∈ entries, eval h call e.2.quoted env = pure e.2) :
    evalEntries h call (quotedEntries entries) env = pure entries := by
  induction entries with
  | nil => rfl
  | cons e rest ih =>
    obtain ⟨k, v⟩ := e
    simp only [List.forall_mem_cons] at hk hv
    simp only [quotedEntries, evalEntries, hk.1, hv.1, ih hk.2 hv.2]
    rfl

end

/-- Evaluating the expression of data gives the data and does nothing else. -/
theorem eval_quoted {v : Value} (hv : v.IsData) (h : Host) (call : Value → List Value → EvalM Value)
    (env : Env) : eval h call v.quoted env = pure v := by
  induction hv with
  | nil | bool | number | string | keyword => rfl
  | vector _ ih =>
    simp only [quoted, eval, evalAll_quotedAll ih]
    rfl
  | map _ _ hordered ihk ihv =>
    simp only [quoted, eval, evalEntries_quotedEntries ihk ihv]
    -- the entries come one after the other in the order of their keys, so each is set at the end
    exact congrArg (fun m => (pure (.map m) : EvalM Value)) hordered.ofList_eq

end Value

/-! ## Programs -/

/-- A program that consists of data is the expression that quotes it. -/
theorem Expr.ofForms_form {v : Value} (hv : v.IsData) : Expr.ofForms [v.form] = .ok v.quoted := by
  have hdepth : v.depth < 2 * v.form.size := by
    have hle := v.form.depth_le_size
    have hpos := v.form.size_pos
    rw [Value.depth_form] at hle
    omega
  simp only [Expr.ofForms, Analyze.body, Form.analyzeIn, Value.analyzeAt_form hv .top _ hdepth]
  rfl

/-- The text of data, if they are nested no more deeply than the reader allows, is a program. Whatever the
host, the environment and the state are, it evaluates to the data and leaves the state as it is, so no tool
is called. -/
theorem evaluate_render (v : Value) (hv : v.IsData) (hdepth : v.depth ≤ nestingLimit) :
    ∃ program, compile v.render = .ok program ∧
      (∀ (h : Host) (env : Env) (s : RunState), evaluate h program env s = (.ok ⟨v, false⟩, s)) ∧
      v.compare v = .eq := by
  refine ⟨v.quoted, ?_, fun h env s => ?_, Std.ReflCmp.compare_self⟩
  · simp only [compile, Value.readForms_render hv hdepth, Expr.ofForms_form hv]
  · rw [evaluate, Value.eval_quoted hv]
    rfl

/-- A map with a zero that has a sign, a vector and a map among its keys, which are not written in the
order in which they are set. -/
theorem evaluate_render_of_hard_keys :
    ∃ v : Value, v = .map (Entries.ofList [
        (.map [(.keyword "a", .bool true)], .string "\"\\\n;"),
        (.vector [.number (.float (.nan false)), .nil], .keyword "é?"),
        (.number (.float (.ofMagnitude true 0)), .number (.int Int64.minValue))]) ∧
      v.render = "\x7b-0.0 -9223372036854775808, [NaN nil] :é?, \x7b:a true\x7d \"\\\"\\\\\\n;\"\x7d" ∧
      v.IsData ∧ v.depth ≤ nestingLimit ∧
      ∃ program, compile v.render = .ok program ∧
        (∀ (h : Host) (env : Env) (s : RunState), evaluate h program env s = (.ok ⟨v, false⟩, s)) ∧
        v.compare v = .eq := by
  refine ⟨_, rfl, by decide +kernel, ?hdata, by decide +kernel,
    evaluate_render _ ?hdata (by decide +kernel)⟩
  have hinner : Value.IsData (.map [(.keyword "a", .bool true)]) :=
    .map (by simpa using .keyword (by decide +kernel)) (by simpa using .bool true)
      (List.pairwise_singleton ..)
  have hvector : Value.IsData (.vector [.number (.float (.nan false)), .nil]) :=
    .vector (by simpa using ⟨.number (by decide), .nil⟩)
  refine .map_ofList ?_ ?_ <;> simp only [List.forall_mem_cons]
  · exact ⟨hinner, hvector, .number (by decide), nofun⟩
  · exact ⟨.string _, .keyword (by decide +kernel), .number (by decide), nofun⟩

end ToolLisp
