import Mathlib.Data.List.Flatten
import ToolLisp.Expr.OfForm
import ToolLisp.Proofs.Places
import ToolLisp.Proofs.Scope

/-!
# Generated names

A form that binds a value only if it is truthy keeps the value under a generated name. This module says which
names a program binds, reads and defines, and what the generated ones among them are. An expression is
hygienic if each generated name in it is a temporary: it is bound where the temporary is made, read in the two
places where it is used, and not free.

All expressions in an expression are listed once (`Expr.within`), and what is said of its names is gathered
from this list. So hygiene is shown of an expression from its parts (`Hygienic.node`), and of the one place
where temporaries are made (`Hygienic.bindTruthy`).
-/

namespace ToolLisp

/-- Whether a name is generated. Such a name has a sign in it that no source text can put into a name. -/
def isGenerated (name : String) : Bool :=
  name.toList.contains '$'

/-! ## The expressions in an expression -/

mutual

/-- All expressions in an expression, the expression itself first. -/
def Expr.within : Expr → List Expr
  | .literal l => [.literal l]
  | .vector items => .vector items :: Expr.withinAll items
  | .map entries => .map entries :: Expr.withinEntries entries
  | .var name => [.var name]
  | .context name => [.context name]
  | .memory name => [.memory name]
  | .bind bs body => .bind bs body :: (body.within ++ Expr.withinBindings bs)
  | .choose test yes no => .choose test yes no :: (test.within ++ (yes.within ++ no.within))
  | .and items => .and items :: Expr.withinAll items
  | .or items => .or items :: Expr.withinAll items
  | .sequence items => .sequence items :: Expr.withinAll items
  | .fn params body => .fn params body :: (body.within ++ Pattern.withinAll params)
  | .call callee args => .call callee args :: (callee.within ++ Expr.withinAll args)
  | .rowTest path op none => [.rowTest path op none]
  | .rowTest path op (some operand) => .rowTest path op (some operand) :: operand.within
  | .combine c tests => .combine c tests :: Expr.withinAll tests
  | .toolCall name args => .toolCall name args :: args.within
  | .ret value => .ret value :: value.within
  | .fail value => .fail value :: value.within
  | .loop bs body => .loop bs body :: (body.within ++ Expr.withinBindings bs)
  | .recur args => .recur args :: Expr.withinAll args
  | .define name value => .define name value :: value.within

/-- All expressions in several expressions. -/
def Expr.withinAll : List Expr → List Expr
  | [] => []
  | e :: rest => e.within ++ Expr.withinAll rest

/-- All expressions in pairs of expressions. -/
def Expr.withinEntries : List (Expr × Expr) → List Expr
  | [] => []
  | (k, v) :: rest => k.within ++ (v.within ++ Expr.withinEntries rest)

/-- All expressions in bindings. -/
def Expr.withinBindings : List (Pattern × Expr) → List Expr
  | [] => []
  | (p, e) :: rest => e.within ++ (p.within ++ Expr.withinBindings rest)

/-- All expressions in the defaults of a pattern. -/
def Pattern.within : Pattern → List Expr
  | .name _ => []
  | .ignore => []
  | .map parts => Pattern.withinParts parts
  | .seq items none => Pattern.withinAll items
  | .seq items (some rest) => Pattern.withinAll items ++ rest.within
  | .whole _ inner => inner.within

/-- All expressions in the defaults of several patterns. -/
def Pattern.withinAll : List Pattern → List Expr
  | [] => []
  | p :: rest => p.within ++ Pattern.withinAll rest

/-- All expressions in the defaults of the entries of a map pattern. -/
def Pattern.withinParts : List (Pattern × Literal × Option Expr) → List Expr
  | [] => []
  | (p, _, none) :: rest => p.within ++ Pattern.withinParts rest
  | (p, _, some e) :: rest => e.within ++ (p.within ++ Pattern.withinParts rest)

end

mutual

/-- The names that a pattern binds. -/
def Pattern.names : Pattern → List String
  | .name n => [n]
  | .ignore => []
  | .map parts => Pattern.namesOfParts parts
  | .seq items none => Pattern.namesOfAll items
  | .seq items (some rest) => Pattern.namesOfAll items ++ rest.names
  | .whole n inner => n :: inner.names

/-- The names that several patterns bind. -/
def Pattern.namesOfAll : List Pattern → List String
  | [] => []
  | p :: rest => p.names ++ Pattern.namesOfAll rest

/-- The names that the entries of a map pattern bind. -/
def Pattern.namesOfParts : List (Pattern × Literal × Option Expr) → List String
  | [] => []
  | (p, _, _) :: rest => p.names ++ Pattern.namesOfParts rest

end

namespace Pattern

mutual

/-- The expressions in a pattern are those in its defaults. -/
theorem within_eq : ∀ p : Pattern, p.within = p.defaults.flatMap Expr.within
  | .name _ => rfl
  | .ignore => rfl
  | .map parts => by
    rw [within, defaults]
    exact withinParts_eq parts
  | .seq items none => by
    rw [within, defaults]
    exact withinAll_eq items
  | .seq items (some rest) => by
    rw [within, defaults, List.flatMap_append, within_eq rest]
    exact congrArg (· ++ _) (withinAll_eq items)
  | .whole _ inner => by
    rw [within, defaults]
    exact within_eq inner

theorem withinAll_eq : ∀ ps : List Pattern, withinAll ps = (defaultsOfAll ps).flatMap Expr.within
  | [] => rfl
  | p :: rest => by
    rw [withinAll, defaultsOfAll, List.flatMap_append, within_eq p, withinAll_eq rest]

theorem withinParts_eq : ∀ parts : List (Pattern × Literal × Option Expr),
    withinParts parts = (defaultsOfParts parts).flatMap Expr.within
  | [] => rfl
  | (p, _, none) :: rest => by
    rw [withinParts, defaultsOfParts, List.flatMap_append, within_eq p, withinParts_eq rest]
  | (p, _, some e) :: rest => by
    rw [withinParts, defaultsOfParts, List.flatMap_cons, List.flatMap_append, within_eq p,
      withinParts_eq rest]

end

end Pattern

namespace Expr

theorem withinAll_eq (es : List Expr) : withinAll es = es.flatMap within := by
  induction es with
  | nil => rfl
  | cons e rest ih => rw [withinAll, List.flatMap_cons, ih]

theorem withinEntries_eq (entries : List (Expr × Expr)) :
    withinEntries entries = (entries.flatMap fun e => [e.1, e.2]).flatMap within := by
  induction entries with
  | nil => rfl
  | cons e rest ih =>
    rw [withinEntries, ih, List.flatMap_cons, List.flatMap_append]
    simp

theorem withinBindings_eq (bs : List (Pattern × Expr)) :
    withinBindings bs = (ofBindings bs).flatMap within := by
  induction bs with
  | nil => rfl
  | cons b rest ih =>
    rw [withinBindings, ih, b.1.within_eq, ofBindings, ofBindings, List.flatMap_cons, List.flatMap_append,
      List.flatMap_cons, List.append_assoc]

/-- The expressions that an expression is made of. -/
def direct (e : Expr) : List Expr :=
  (e.parts none).map (·.2)

theorem map_inner (es : List Expr) : (inner es).map (·.2) = es := by
  rw [inner, List.map_map]
  exact List.map_id es

/-- The expressions in an expression are itself and those in its parts. -/
theorem within_eq (e : Expr) : e.within = e :: e.direct.flatMap within := by
  cases e with
  | rowTest path op operand => cases operand <;> simp [within, direct, parts, map_inner]
  | _ =>
    simp [within, direct, parts, toLast_snd, withinAll_eq, withinEntries_eq, withinBindings_eq,
      Pattern.withinAll_eq, map_inner]

theorem within_sublist_of_mem_direct {p e : Expr} (h : p ∈ e.direct) :
    p.within.Sublist (e.direct.flatMap within) :=
  List.sublist_flatten_of_mem (List.mem_map_of_mem h)

/-- What holds of an expression if it holds of its parts, holds of all expressions. -/
theorem direct_induction {P : Expr → Prop} (h : ∀ e, (∀ p ∈ e.direct, P p) → P e) (e : Expr) : P e :=
  h e fun p _hp => direct_induction h p
termination_by e.within.length
decreasing_by
  rw [within_eq e, List.length_cons]
  exact Nat.lt_succ_of_le (within_sublist_of_mem_direct _hp).length_le

/-- What is in an expression in another is in the other, and stands there no less often. -/
theorem within_sublist {e e' : Expr} (h : e' ∈ e.within) : e'.within.Sublist e.within := by
  induction e using direct_induction with
  | h e ih =>
    rw [within_eq e] at h
    rcases List.mem_cons.1 h with rfl | h
    · exact .refl _
    · rw [within_eq e]
      obtain ⟨p, hp, h⟩ := List.mem_flatMap.1 h
      exact ((ih p hp h).trans (within_sublist_of_mem_direct hp)).cons e

theorem mem_within_self (e : Expr) : e ∈ e.within := by
  rw [within_eq]
  exact List.mem_cons_self

/-- What occurs in an expression is in it. -/
theorem Occurs.mem_within {a b : Place} {e e' : Expr} (h : Occurs a e b e') : e' ∈ e.within := by
  induction h with
  | here => exact mem_within_self e
  | @part b c e₁ e₂ _ hp ih =>
    have hdirect : e₂ ∈ e₁.direct := by
      rw [direct, parts_snd none b]
      exact List.mem_map_of_mem hp
    refine (within_sublist ih).subset ?_
    rw [within_eq]
    exact List.mem_cons_of_mem _ (List.mem_flatMap.2 ⟨e₂, hdirect, mem_within_self e₂⟩)

/-! ## The names in an expression -/

/-- The names that an expression binds itself. -/
def boundHere : Expr → List String
  | .bind bs _ => bs.flatMap fun b => b.1.names
  | .loop bs _ => bs.flatMap fun b => b.1.names
  | .fn params _ => Pattern.namesOfAll params
  | _ => []

/-- The name of an expression that is a variable. -/
def readHere : Expr → List String
  | .var name => [name]
  | _ => []

/-- The name that an expression defines itself. -/
def definedHere : Expr → List String
  | .define name _ => [name]
  | _ => []

/-- The temporary of an expression that keeps a value under a generated name, tests it, and takes it apart if
it is truthy. -/
def temporaryHere : Expr → List String
  | .bind [(.name t, _)] (.choose (.var test) (.bind [(_, .var value)] _) _) =>
    if isGenerated t ∧ test = t ∧ value = t then [t] else []
  | _ => []

/-- What all expressions in an expression give. -/
def gather (here : Expr → List String) (e : Expr) : List String :=
  e.within.flatMap here

/-- The names that are bound in an expression. -/
def boundNames : Expr → List String := gather boundHere

/-- The names of the variables in an expression, each as often as it stands there. -/
def readNames : Expr → List String := gather readHere

/-- The names that are defined in an expression. -/
def definedNames : Expr → List String := gather definedHere

/-- The temporaries in an expression, one for each expression that makes one. -/
def temporaries : Expr → List String := gather temporaryHere

theorem gather_eq (here : Expr → List String) (e : Expr) :
    e.gather here = here e ++ e.direct.flatMap (gather here) := by
  rw [gather, within_eq, List.flatMap_cons, List.flatMap_assoc]
  rfl

theorem count_gather (here : Expr → List String) (e : Expr) (x : String) :
    (e.gather here).count x = (here e).count x + (e.direct.flatMap (gather here)).count x := by
  rw [gather_eq, List.count_append]

/-- What is gathered in a part is gathered in the whole. -/
theorem count_gather_le {e e' : Expr} (h : e' ∈ e.within) (here : Expr → List String) (x : String) :
    (e'.gather here).count x ≤ (e.gather here).count x :=
  ((within_sublist h).flatMap here).count_le x

theorem direct_bind (bs : List (Pattern × Expr)) (body : Expr) :
    (Expr.bind bs body).direct = body :: ofBindings bs := by
  rw [direct, parts, List.map_cons, map_inner]

end Expr

/-! ## Free names

A property of names holds of the free names of an expression if it holds of the free names of its parts. -/

variable {P : String → Prop}

mutual

/-- What is needed before a pattern is needed after it or free in a default. -/
theorem Pattern.forall_mem_before : ∀ (p : Pattern) {after : List String},
    (∀ d ∈ p.defaults, ∀ x ∈ d.free, P x) → (∀ x ∈ after, P x) → ∀ x ∈ p.before after, P x
  | .name n, after, _, ha => fun x hx => ha x (List.mem_filter.1 hx).1
  | .ignore, after, _, ha => ha
  | .whole n inner, after, hd, ha => by
    rw [defaults] at hd
    rw [before]
    exact forall_mem_before inner hd fun x hx => ha x (List.mem_filter.1 hx).1
  | .map parts, after, hd, ha => by
    rw [defaults] at hd
    rw [before]
    exact forall_mem_beforeParts parts hd ha
  | .seq items none, after, hd, ha => by
    rw [defaults] at hd
    rw [before]
    exact forall_mem_beforeAll items hd ha
  | .seq items (some rest), after, hd, ha => by
    rw [defaults] at hd
    rw [before]
    have ⟨hitems, hrest⟩ := List.forall_mem_append.1 hd
    exact forall_mem_beforeAll items hitems (forall_mem_before rest hrest ha)

theorem Pattern.forall_mem_beforeAll : ∀ (ps : List Pattern) {after : List String},
    (∀ d ∈ Pattern.defaultsOfAll ps, ∀ x ∈ d.free, P x) → (∀ x ∈ after, P x) →
      ∀ x ∈ Pattern.beforeAll ps after, P x
  | [], after, _, ha => ha
  | p :: rest, after, hd, ha => by
    rw [defaultsOfAll] at hd
    rw [beforeAll]
    have ⟨hp, hrest⟩ := List.forall_mem_append.1 hd
    exact forall_mem_before p hp (forall_mem_beforeAll rest hrest ha)

theorem Pattern.forall_mem_beforeParts :
    ∀ (parts : List (Pattern × Literal × Option Expr)) {after : List String},
      (∀ d ∈ Pattern.defaultsOfParts parts, ∀ x ∈ d.free, P x) → (∀ x ∈ after, P x) →
        ∀ x ∈ Pattern.beforeParts parts after, P x
  | [], after, _, ha => ha
  | (p, _, none) :: rest, after, hd, ha => by
    rw [defaultsOfParts] at hd
    rw [beforeParts]
    have ⟨hp, hrest⟩ := List.forall_mem_append.1 hd
    exact forall_mem_before p hp (forall_mem_beforeParts rest hrest ha)
  | (p, _, some e) :: rest, after, hd, ha => by
    rw [defaultsOfParts] at hd
    rw [beforeParts]
    have ⟨he, hd⟩ := List.forall_mem_cons.1 hd
    have ⟨hp, hrest⟩ := List.forall_mem_append.1 hd
    exact List.forall_mem_append.2 ⟨he, forall_mem_before p hp (forall_mem_beforeParts rest hrest ha)⟩

end

namespace Expr

theorem freeOfAll_eq (es : List Expr) : freeOfAll es = es.flatMap free := by
  induction es with
  | nil => rfl
  | cons e rest ih => rw [freeOfAll, List.flatMap_cons, ih]

theorem freeOfEntries_eq (entries : List (Expr × Expr)) :
    freeOfEntries entries = (entries.flatMap fun e => [e.1, e.2]).flatMap free := by
  induction entries with
  | nil => rfl
  | cons e rest ih =>
    rw [freeOfEntries, ih, List.flatMap_cons, List.flatMap_append]
    simp

/-- What is needed before bindings is needed after them or free in one of their expressions. -/
theorem forall_mem_beforeBindings {bs : List (Pattern × Expr)} {after : List String}
    (hbs : ∀ e ∈ ofBindings bs, ∀ x ∈ e.free, P x) (ha : ∀ x ∈ after, P x) :
    ∀ x ∈ beforeBindings bs after, P x := by
  induction bs with
  | nil => exact ha
  | cons b rest ih =>
    rw [ofBindings, List.flatMap_cons, List.cons_append] at hbs
    have ⟨he, hbs⟩ := List.forall_mem_cons.1 hbs
    have ⟨hp, hrest⟩ := List.forall_mem_append.1 hbs
    exact List.forall_mem_append.2 ⟨he, b.1.forall_mem_before hp (ih hrest)⟩

/-- A free name is the name of the variable that an expression is, or free in a part of it. -/
theorem forall_mem_free {e : Expr} (hread : ∀ x ∈ e.readHere, P x)
    (hparts : ∀ p ∈ e.direct, ∀ x ∈ p.free, P x) : ∀ x ∈ e.free, P x := by
  -- where nothing is bound, the free names are those of the parts
  have hunbound (h : e.free = e.direct.flatMap free) : ∀ x ∈ e.free, P x := by
    intro x hx
    rw [h] at hx
    obtain ⟨p, hp, hx⟩ := List.mem_flatMap.1 hx
    exact hparts p hp x hx
  cases e with
  | var name => exact hread
  | bind bs body =>
    rw [direct_bind] at hparts
    obtain ⟨hbody, hbs⟩ := List.forall_mem_cons.1 hparts
    exact forall_mem_beforeBindings hbs hbody
  | loop bs body =>
    rw [direct, parts, List.map_cons, map_inner] at hparts
    obtain ⟨hbody, hbs⟩ := List.forall_mem_cons.1 hparts
    exact forall_mem_beforeBindings hbs hbody
  | fn params body =>
    rw [direct, parts, List.map_cons, map_inner] at hparts
    obtain ⟨hbody, hdefaults⟩ := List.forall_mem_cons.1 hparts
    exact Pattern.forall_mem_beforeAll params hdefaults hbody
  | rowTest path op operand => exact hunbound (by cases operand <;> simp [free, direct, parts, map_inner])
  | _ => exact hunbound (by simp [free, freeOfAll_eq, freeOfEntries_eq, direct, parts, map_inner, toLast_snd])

/-! ## Hygiene -/

/-- The names that an expression binds, reads or defines itself. -/
def namesHere (e : Expr) : List String :=
  e.boundHere ++ e.readHere ++ e.definedHere

/-- Each generated name in an expression is a temporary: it is bound only where the temporary is made, read
only where the temporary is tested and taken apart, and neither defined nor free. A function takes no temporary
along either. -/
structure Hygienic (e : Expr) : Prop where
  bound : ∀ x, isGenerated x = true → e.boundNames.count x = e.temporaries.count x
  read : ∀ x, isGenerated x = true → e.readNames.count x = 2 * e.temporaries.count x
  defined : ∀ x ∈ e.definedNames, isGenerated x = false
  free : ∀ x ∈ e.free, isGenerated x = false
  function : ∀ params body, Expr.fn params body ∈ e.within →
    ∀ x ∈ (Expr.fn params body).free, isGenerated x = false

/-- An expression that makes a temporary binds its name. -/
theorem temporaryHere_subset (e : Expr) :
    ∀ x ∈ e.temporaryHere, x ∈ e.boundHere ∧ isGenerated x = true := by
  intro x hx
  rw [temporaryHere.eq_def] at hx
  split at hx
  · split at hx
    next h =>
      rw [List.mem_singleton.1 hx]
      exact ⟨List.mem_singleton.2 rfl, h.1⟩
    · cases hx
  · cases hx

theorem count_flatMap_congr {es : List Expr} {f g : Expr → List String} {x : String} (k : Nat)
    (h : ∀ e ∈ es, (f e).count x = k * (g e).count x) :
    (es.flatMap f).count x = k * (es.flatMap g).count x := by
  induction es with
  | nil => simp
  | cons e rest ih =>
    rw [List.flatMap_cons, List.flatMap_cons, List.count_append, List.count_append,
      h e List.mem_cons_self, ih fun e he => h e (List.mem_cons_of_mem _ he), Nat.mul_add]

/-- An expression that uses no generated name itself makes no temporary. -/
theorem temporaryHere_of_plain {e : Expr} (h : ∀ x ∈ e.namesHere, isGenerated x = false) :
    e.temporaryHere = [] := by
  refine List.eq_nil_iff_forall_not_mem.2 fun x hx => ?_
  obtain ⟨hmem, hgen⟩ := e.temporaryHere_subset x hx
  rw [h x (List.mem_append_left _ (List.mem_append_left _ hmem))] at hgen
  cases hgen

theorem temporaries_of_plain {e : Expr} (h : ∀ x ∈ e.namesHere, isGenerated x = false) :
    e.temporaries = e.direct.flatMap temporaries := by
  rw [temporaries, gather_eq, temporaryHere_of_plain h, List.nil_append]

namespace Hygienic

/-- An expression is hygienic if its parts are and it uses no generated name itself. -/
theorem node {e : Expr} (hnames : ∀ x ∈ e.namesHere, isGenerated x = false)
    (hparts : ∀ p ∈ e.direct, p.Hygienic) : e.Hygienic := by
  have hbound : ∀ x, isGenerated x = true → x ∉ e.boundHere := by
    intro x hx hmem
    rw [hnames x (List.mem_append_left _ (List.mem_append_left _ hmem))] at hx
    cases hx
  have hread : ∀ x, isGenerated x = true → x ∉ e.readHere := by
    intro x hx hmem
    rw [hnames x (List.mem_append_left _ (List.mem_append_right _ hmem))] at hx
    cases hx
  have hmade := temporaryHere_of_plain hnames
  have hfree : ∀ x ∈ e.free, isGenerated x = false :=
    forall_mem_free (fun x hx => hnames x (List.mem_append_left _ (List.mem_append_right _ hx)))
      fun p hp => (hparts p hp).free
  -- no generated name is bound, read or made here, so every count is the sum over the parts
  constructor
  · intro x hx
    rw [boundNames, temporaries, count_gather, count_gather, hmade, List.count_eq_zero_of_not_mem (hbound x hx)]
    have := count_flatMap_congr 1 fun p hp => ((hparts p hp).bound x hx).trans (Nat.one_mul _).symm
    rw [Nat.one_mul] at this
    exact congrArg (0 + ·) this
  · intro x hx
    rw [readNames, temporaries, count_gather, count_gather, hmade, List.count_eq_zero_of_not_mem (hread x hx),
      Nat.mul_add]
    exact congrArg (0 + ·) (count_flatMap_congr 2 fun p hp => (hparts p hp).read x hx)
  · intro x hx
    rw [definedNames, gather_eq] at hx
    rcases List.mem_append.1 hx with hx | hx
    · exact hnames x (List.mem_append_right _ hx)
    · obtain ⟨p, hp, hx⟩ := List.mem_flatMap.1 hx
      exact (hparts p hp).defined x hx
  · exact hfree
  · intro params body hfn
    rw [within_eq] at hfn
    rcases List.mem_cons.1 hfn with heq | hfn
    · rw [heq]
      exact hfree
    · obtain ⟨p, hp, hfn⟩ := List.mem_flatMap.1 hfn
      exact (hparts p hp).function params body hfn

end Hygienic

section BindTruthy

variable {t : String} {p : Pattern} {value yes no : Expr}

/-- What is gathered from an expression that makes a temporary: what the expressions give that it adds, and what
is gathered from those that it was given. -/
theorem count_gather_bindTruthy (here : Expr → List String) (x : String) :
    ((Analyze.bindTruthy t p value yes no).gather here).count x =
      (here (Analyze.bindTruthy t p value yes no)).count x +
      (here (.choose (.var t) (.bind [(p, .var t)] yes) no)).count x +
      (here (.bind [(p, .var t)] yes)).count x + 2 * (here (.var t)).count x +
      ((value :: no :: yes :: p.defaults).flatMap (gather here)).count x := by
  have hgather : gather here = fun e => e.within.flatMap here := rfl
  simp only [hgather, Analyze.bindTruthy, within, withinBindings, Pattern.within, Pattern.within_eq,
    List.flatMap_cons, List.flatMap_append, List.flatMap_nil, List.flatMap_assoc, List.count_append,
    List.count_nil, List.nil_append]
  omega

/-- A function in an expression that makes a temporary stands in one of those that it was given. -/
theorem fn_mem_within_bindTruthy {params : List Pattern} {body : Expr}
    (h : Expr.fn params body ∈ (Analyze.bindTruthy t p value yes no).within) :
    ∃ e ∈ value :: no :: yes :: p.defaults, Expr.fn params body ∈ e.within := by
  simp only [Analyze.bindTruthy, within, withinBindings, Pattern.within, Pattern.within_eq, List.mem_cons,
    List.mem_append, List.mem_flatMap, reduceCtorEq, List.not_mem_nil, false_or, or_false] at h
  simp only [List.mem_cons, or_and_right, exists_or, exists_eq_left]
  rcases h with ((h | h) | h) | h
  · exact .inr (.inr (.inl h))
  · exact .inr (.inr (.inr h))
  · exact .inr (.inl h)
  · exact .inl h

/-- The temporary is not free where it is made, so what is free there is free in what the place was given. -/
theorem forall_mem_free_bindTruthy (h : ∀ e ∈ value :: no :: yes :: p.defaults, ∀ x ∈ e.free, P x) :
    ∀ x ∈ (Analyze.bindTruthy t p value yes no).free, P x := by
  simp only [List.forall_mem_cons] at h
  obtain ⟨hvalue, hno, hyes, hdefaults⟩ := h
  intro x hx
  simp only [Analyze.bindTruthy, free, beforeBindings, Pattern.before, List.mem_append, List.mem_filter,
    List.mem_singleton, bne_iff_ne] at hx
  rcases hx with hx | ⟨rfl | (rfl | hx) | hx, hne⟩
  · exact hvalue x hx
  · exact absurd rfl hne
  · exact absurd rfl hne
  · exact p.forall_mem_before hdefaults hyes x hx
  · exact hno x hx

theorem count_temporaries_bindTruthy (ht : isGenerated t = true) (hp : ∀ x ∈ p.names, isGenerated x = false)
    (x : String) : (Analyze.bindTruthy t p value yes no).temporaries.count x =
      [t].count x + ((value :: no :: yes :: p.defaults).flatMap temporaries).count x := by
  have hhere : (Analyze.bindTruthy t p value yes no).temporaryHere = [t] := by
    simp [Analyze.bindTruthy, temporaryHere, ht]
  have hinner : (Expr.bind [(p, .var t)] yes).temporaryHere = [] := by
    refine temporaryHere_of_plain ?_
    simpa [namesHere, boundHere, readHere, definedHere] using hp
  rw [temporaries, count_gather_bindTruthy, hhere, hinner]
  simp only [temporaryHere, List.count_nil]
  omega

/-- The one place where temporaries are made is hygienic if what it is given is, and its pattern binds no
generated name. -/
theorem Hygienic.bindTruthy (ht : isGenerated t = true) (hp : ∀ x ∈ p.names, isGenerated x = false)
    (hparts : ∀ e ∈ value :: no :: yes :: p.defaults, e.Hygienic) :
    (Analyze.bindTruthy t p value yes no).Hygienic := by
  -- the temporary is bound once and read twice here, and all else is counted in the parts
  constructor
  · intro x hx
    have hnames : p.names.count x = 0 := by
      refine List.count_eq_zero_of_not_mem fun hmem => ?_
      rw [hp x hmem] at hx
      cases hx
    have hrest := count_flatMap_congr 1 fun e he => ((hparts e he).bound x hx).trans (Nat.one_mul _).symm
    rw [boundNames] at hrest
    rw [count_temporaries_bindTruthy ht hp, boundNames, count_gather_bindTruthy]
    simp only [Analyze.bindTruthy, boundHere, List.flatMap_singleton, Pattern.names, hnames, List.count_nil]
    omega
  · intro x hx
    have hrest := count_flatMap_congr 2 fun e he => (hparts e he).read x hx
    rw [readNames] at hrest
    rw [count_temporaries_bindTruthy ht hp, readNames, count_gather_bindTruthy]
    simp only [Analyze.bindTruthy, readHere, List.count_nil]
    omega
  · intro x hx
    rw [← List.count_pos_iff, definedNames, count_gather_bindTruthy] at hx
    simp only [Analyze.bindTruthy, definedHere, List.count_nil, Nat.zero_add, Nat.mul_zero,
      List.count_pos_iff, List.mem_flatMap] at hx
    obtain ⟨e, he, hx⟩ := hx
    exact (hparts e he).defined x hx
  · exact forall_mem_free_bindTruthy fun e he => (hparts e he).free
  · intro params body hfn
    obtain ⟨e, he, hfn⟩ := fn_mem_within_bindTruthy hfn
    exact (hparts e he).function params body hfn

end BindTruthy

end Expr

end ToolLisp
