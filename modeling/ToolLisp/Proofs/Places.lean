import ToolLisp.Expr.Basic

/-!
# Places

An expression in a program stands in a place: either its value is what a loop or function around it
evaluates to, or something remains to be done after it. In a place of the first kind a `recur` enters
that loop or function again. A place is given by the number of values that this loop or function takes,
and it is `none` where there is no such loop or function.

`Occurs a e b e'` says that `e'` stands in the place `b` somewhere in `e`, when `e` stands in the place
`a`. An expression fits its place if every `recur` in it has as many arguments as its place takes values.
-/

namespace ToolLisp

/-- How many values the loop or function takes that a `recur` would enter again; `none` where a `recur`
would enter nothing. -/
abbrev Place := Option Nat

namespace Pattern

mutual

/-- The defaults in a pattern. -/
def defaults : Pattern → List Expr
  | .name _ => []
  | .ignore => []
  | .map parts => defaultsOfParts parts
  | .seq items none => defaultsOfAll items
  | .seq items (some rest) => defaultsOfAll items ++ defaults rest
  | .whole _ inner => defaults inner

/-- The defaults in several patterns. -/
def defaultsOfAll : List Pattern → List Expr
  | [] => []
  | p :: rest => defaults p ++ defaultsOfAll rest

/-- The defaults in the entries of a map pattern. -/
def defaultsOfParts : List (Pattern × Literal × Option Expr) → List Expr
  | [] => []
  | (p, _, none) :: rest => defaults p ++ defaultsOfParts rest
  | (p, _, some e) :: rest => e :: (defaults p ++ defaultsOfParts rest)

end

end Pattern

namespace Expr

/-- Expressions after each of which something remains to be done. -/
def inner (es : List Expr) : List (Place × Expr) :=
  es.map fun e => (none, e)

/-- Expressions of which the last stands where the whole stands. -/
def toLast (a : Place) : List Expr → List (Place × Expr)
  | [] => []
  | [e] => [(a, e)]
  | e :: rest => (none, e) :: toLast a rest

/-- The expressions in bindings. -/
def ofBindings (bs : List (Pattern × Expr)) : List Expr :=
  bs.flatMap fun b => b.2 :: b.1.defaults

/-- The expressions that an expression is made of, each with its place. -/
def parts (a : Place) : Expr → List (Place × Expr)
  | .literal _ => []
  | .vector items => inner items
  | .map entries => inner (entries.flatMap fun e => [e.1, e.2])
  | .var _ => []
  | .context _ => []
  | .memory _ => []
  | .bind bs body => (a, body) :: inner (ofBindings bs)
  | .choose test yes no => [(none, test), (a, yes), (a, no)]
  | .and items => toLast a items
  | .or items => toLast a items
  | .sequence items => toLast a items
  | .fn params body => (some params.length, body) :: inner (Pattern.defaultsOfAll params)
  | .call callee args => inner (callee :: args)
  | .rowTest _ _ operand => inner operand.toList
  | .combine _ tests => inner tests
  | .toolCall _ args => inner [args]
  | .ret value => inner [value]
  | .fail value => inner [value]
  | .loop bs body => (some bs.length, body) :: inner (ofBindings bs)
  | .recur args => inner args
  | .define _ value => inner [value]

/-- `e'` stands in the place `b` somewhere in `e`, when `e` stands in the place `a`. -/
inductive Occurs (a : Place) (e : Expr) : Place → Expr → Prop
  /-- The expression itself. -/
  | here : Occurs a e a e
  /-- A part of an expression that occurs. -/
  | part {b c : Place} {e₁ e₂ : Expr} : Occurs a e b e₁ → (c, e₂) ∈ e₁.parts b → Occurs a e c e₂

/-- What occurs in an expression is the expression or occurs in a part of it. -/
theorem Occurs.cases_head {a b : Place} {e e' : Expr} (h : Occurs a e b e') :
    (b = a ∧ e' = e) ∨ ∃ p ∈ e.parts a, Occurs p.1 p.2 b e' := by
  induction h with
  | here => exact Or.inl ⟨rfl, rfl⟩
  | part _ hp ih =>
    rcases ih with ⟨rfl, rfl⟩ | ⟨p, hmem, ho⟩
    · exact Or.inr ⟨_, hp, .here⟩
    · exact Or.inr ⟨p, hmem, ho.part hp⟩

theorem Occurs.trans {a b c : Place} {e e₁ e₂ : Expr} (h : Occurs a e b e₁)
    (h' : Occurs b e₁ c e₂) : Occurs a e c e₂ := by
  induction h' with
  | here => exact h
  | part _ hp ih => exact ih.part hp

/-- What occurs in a part of an expression occurs in the expression. -/
theorem Occurs.head {a b c : Place} {e e₁ e₂ : Expr} (hp : (b, e₁) ∈ e.parts a)
    (h : Occurs b e₁ c e₂) : Occurs a e c e₂ :=
  (Occurs.here.part hp).trans h

theorem toLast_snd (a : Place) : ∀ es : List Expr, (toLast a es).map (·.2) = es
  | [] => rfl
  | [_] => rfl
  | e :: f :: rest => congrArg (e :: ·) (toLast_snd a (f :: rest))

/-- The parts of an expression are the same in every place. -/
theorem parts_snd (a b : Place) (e : Expr) : (e.parts a).map (·.2) = (e.parts b).map (·.2) := by
  cases e <;> simp only [parts, List.map_cons, List.map_nil, toLast_snd]

/-- What occurs in an expression occurs in it wherever it stands, perhaps in another place. -/
theorem Occurs.move {a b : Place} {e e' : Expr} (h : Occurs a e b e') (c : Place) :
    ∃ d, Occurs c e d e' := by
  induction h with
  | here => exact ⟨c, .here⟩
  | @part b₁ b₂ e₁ e₂ _ hp ih =>
    obtain ⟨d, hd⟩ := ih
    have hmem : e₂ ∈ (e₁.parts d).map (·.2) := parts_snd b₁ d e₁ ▸ List.mem_map_of_mem hp
    obtain ⟨⟨d', _⟩, hp', rfl⟩ := List.mem_map.1 hmem
    exact ⟨d', hd.part hp'⟩

/-- Every `recur` in an expression has as many arguments as its place takes values. -/
def Fits (a : Place) (e : Expr) : Prop :=
  ∀ b args, Occurs a e b (.recur args) → b = some args.length

theorem Fits.of_recur {a : Place} {args : List Expr} (h : Fits a (.recur args)) :
    a = some args.length :=
  h a args .here

theorem Fits.part {a b : Place} {e e' : Expr} (h : Fits a e) (hp : (b, e') ∈ e.parts a) :
    Fits b e' :=
  fun c args ho => h c args (ho.head hp)

theorem Fits.occurs {a b : Place} {e e' : Expr} (h : Fits a e) (ho : Occurs a e b e') :
    Fits b e' := by
  induction ho with
  | here => exact h
  | part _ hp ih => exact ih.part hp

/-- An expression fits if its parts do, unless it is itself a `recur` in a wrong place. -/
theorem fits_of_parts {a : Place} {e : Expr} (hr : ∀ args, e = .recur args → a = some args.length)
    (hp : ∀ p ∈ e.parts a, Fits p.1 p.2) : Fits a e := by
  intro b args ho
  rcases ho.cases_head with ⟨rfl, he⟩ | ⟨p, hmem, ho⟩
  · exact hr args he.symm
  · exact hp p hmem b args ho

/-- What has to be shown of expressions after which something remains to be done. -/
theorem forall_mem_inner {es : List Expr} {P : Place × Expr → Prop} :
    (∀ p ∈ inner es, P p) ↔ ∀ e ∈ es, P (none, e) := by
  simp [inner]

end Expr

end ToolLisp
