import ToolLisp.Proofs.Stability

/-!
# Functions in values

`Value.EachFn Q v` says that `Q` holds of every function that stands anywhere in `v`: as an item of a
vector, a key or a value of a map, an operand of a row predicate, or in the bindings that another
function carries. This is a stable property.
-/

namespace ToolLisp

/-- `Q` holds of the parameters, the body and the bindings of every function in a value. -/
inductive Value.EachFn (Q : List Pattern → Expr → Env → Prop) : Value → Prop
  /-- The value `nil`. -/
  | nil : EachFn Q .nil
  /-- A truth value. -/
  | bool (b : Bool) : EachFn Q (.bool b)
  /-- A number. -/
  | number (n : Number) : EachFn Q (.number n)
  /-- A string. -/
  | string (s : String) : EachFn Q (.string s)
  /-- A keyword. -/
  | keyword (name : String) : EachFn Q (.keyword name)
  /-- A vector. -/
  | vector {items : List Value} : (∀ v ∈ items, EachFn Q v) → EachFn Q (.vector items)
  /-- A map. -/
  | map {entries : List (Value × Value)} :
    (∀ e ∈ entries, EachFn Q e.1) → (∀ e ∈ entries, EachFn Q e.2) → EachFn Q (.map entries)
  /-- A function, whose bindings hold further functions. -/
  | closure {stamp : Nat} {params : List Pattern} {body : Expr} {env : List (String × Value)} :
    Q params body env → (∀ b ∈ env, EachFn Q b.2) → EachFn Q (.closure stamp params body env)
  /-- A row predicate. -/
  | rowTest {stamp : Nat} {path : List Literal} {op : RowOp} {operand : Value} :
    EachFn Q operand → EachFn Q (.rowTest stamp path op operand)
  /-- A combination of row predicates. -/
  | combined {stamp : Nat} {c : Combinator} {tests : List Value} :
    (∀ f ∈ tests, EachFn Q f) → EachFn Q (.combined stamp c tests)
  /-- A builtin function. -/
  | builtin (f : Builtin) : EachFn Q (.builtin f)
  /-- A tool. -/
  | tool (name : String) : EachFn Q (.tool name)

/-- `Q` holds of every function in the keys and values of a map. -/
def Entries.EachFn (Q : List Pattern → Expr → Env → Prop) (m : Entries) : Prop :=
  ∀ e ∈ m, e.1.EachFn Q ∧ e.2.EachFn Q

/-- `Q` holds of every function that is bound. -/
def Env.EachFn (Q : List Pattern → Expr → Env → Prop) (env : Env) : Prop :=
  ∀ b ∈ env, b.2.EachFn Q

variable {Q : List Pattern → Expr → Env → Prop}

namespace Value

@[simp] theorem eachFn_vector {items : List Value} :
    (Value.vector items).EachFn Q ↔ ∀ v ∈ items, v.EachFn Q :=
  ⟨fun | .vector h => h, .vector⟩

/-- The functions in a map are those in its keys and in its values. -/
@[simp] theorem eachFn_map {m : Entries} : (Value.map m).EachFn Q ↔ Entries.EachFn Q m :=
  ⟨fun | .map hk hv => fun e he => ⟨hk e he, hv e he⟩,
    fun h => .map (fun e he => (h e he).1) fun e he => (h e he).2⟩

/-- A function is one itself, and there may be others in its bindings. -/
theorem EachFn.of_closure {stamp : Nat} {params : List Pattern} {body : Expr} {env : Env}
    (h : (Value.closure stamp params body env).EachFn Q) : Q params body env ∧ Env.EachFn Q env := by
  cases h with
  | closure hq he => exact ⟨hq, he⟩

/-- The parts of a combination may be functions. -/
theorem EachFn.of_combined {stamp : Nat} {c : Combinator} {tests : List Value}
    (h : (Value.combined stamp c tests).EachFn Q) : ∀ f ∈ tests, f.EachFn Q := by
  cases h with
  | combined h => exact h

instance : Stable (EachFn Q) where
  nil := .nil
  bool := .bool
  number := .number
  string := .string
  keyword := .keyword
  builtin := .builtin
  tool := .tool
  vector_iff := eachFn_vector
  rowTest := .rowTest
  combined_iff := ⟨EachFn.of_combined, .combined⟩
  empty := eachFn_map.2 Entries.Each.nil
  entries := eachFn_map.1
  insert hk hv hm := eachFn_map.2 (Entries.Each.insert hk hv (eachFn_map.1 hm))
  erase k hm := eachFn_map.2 (Entries.Each.erase (eachFn_map.1 hm) k)

end Value

theorem Entries.EachFn.nil : Entries.EachFn Q [] :=
  Entries.Each.nil

/-- Every program starts with builtin functions only. -/
theorem Env.eachFn_initial : Env.EachFn Q Env.initial :=
  Env.each_initial

end ToolLisp
