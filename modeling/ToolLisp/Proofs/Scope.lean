import ToolLisp.Expr.Basic

/-!
# Free names

The names that an expression asks its bindings for. Patterns bind names, and a default in a pattern sees
the names that the pattern has bound before it. So the names that a pattern needs are found backwards:
`Pattern.before p after` are those that have to be bound before `p`, so that those in `after` are bound
after it.
-/

namespace ToolLisp

mutual

/-- The free names of an expression. -/
def Expr.free : Expr → List String
  | .literal _ => []
  | .vector items => Expr.freeOfAll items
  | .map entries => Expr.freeOfEntries entries
  | .var name => [name]
  | .context _ => []
  | .memory _ => []
  | .bind bs body => Expr.beforeBindings bs body.free
  | .choose test yes no => test.free ++ (yes.free ++ no.free)
  | .and items => Expr.freeOfAll items
  | .or items => Expr.freeOfAll items
  | .sequence items => Expr.freeOfAll items
  | .fn params body => Pattern.beforeAll params body.free
  | .call callee args => callee.free ++ Expr.freeOfAll args
  | .rowTest _ _ none => []
  | .rowTest _ _ (some operand) => operand.free
  | .combine _ tests => Expr.freeOfAll tests
  | .toolCall _ args => args.free
  | .ret value => value.free
  | .fail value => value.free
  | .loop bs body => Expr.beforeBindings bs body.free
  | .recur args => Expr.freeOfAll args
  | .define _ value => value.free

/-- The free names of several expressions. -/
def Expr.freeOfAll : List Expr → List String
  | [] => []
  | e :: rest => e.free ++ Expr.freeOfAll rest

/-- The free names of pairs of expressions. -/
def Expr.freeOfEntries : List (Expr × Expr) → List String
  | [] => []
  | (k, v) :: rest => k.free ++ (v.free ++ Expr.freeOfEntries rest)

/-- The names that are needed before bindings which are made one after the other. -/
def Expr.beforeBindings : List (Pattern × Expr) → List String → List String
  | [], after => after
  | (p, e) :: rest, after => e.free ++ p.before (Expr.beforeBindings rest after)

/-- The names that are needed before a pattern. -/
def Pattern.before : Pattern → List String → List String
  | .name name, after => after.filter (· != name)
  | .ignore, after => after
  | .whole name inner, after => inner.before (after.filter (· != name))
  | .map parts, after => Pattern.beforeParts parts after
  | .seq items none, after => Pattern.beforeAll items after
  | .seq items (some rest), after => Pattern.beforeAll items (rest.before after)

/-- The names that are needed before several patterns. -/
def Pattern.beforeAll : List Pattern → List String → List String
  | [], after => after
  | p :: rest, after => p.before (Pattern.beforeAll rest after)

/-- The names that are needed before the entries of a map pattern. -/
def Pattern.beforeParts : List (Pattern × Literal × Option Expr) → List String → List String
  | [], after => after
  | (p, _, none) :: rest, after => p.before (Pattern.beforeParts rest after)
  | (p, _, some default) :: rest, after => default.free ++ p.before (Pattern.beforeParts rest after)

end

end ToolLisp
