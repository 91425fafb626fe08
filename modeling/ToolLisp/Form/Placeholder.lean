import ToolLisp.Form.Basic

/-!
# Short function literals

A short function literal is a body in which `%1` to `%9` stand for the arguments, and `%` for the
first. It means a `fn` form with as many parameters as the highest placeholder in the body.
-/

namespace ToolLisp.Form

/-- The number that digits spell, a plus sign before them being allowed. -/
def placeholderIndex? : List Char → Option Nat
  | '+' :: digits => Decimal.readNat? digits
  | digits => Decimal.readNat? digits

/-- The number of the argument that a symbol stands for in a short function literal, or zero. -/
def placeholder (name : String) : Nat :=
  match name.toList with
  | ['%'] => 1
  | '%' :: digits =>
    match placeholderIndex? digits with
    | some n => if 1 ≤ n ∧ n ≤ 9 then n else 0
    | none => 0
  | _ => 0

mutual

/-- The highest placeholder in a form, or zero. -/
def maxPlaceholder : Form → Nat
  | .symbol name => placeholder name
  | .list items => maxPlaceholders items
  | .vector items => maxPlaceholders items
  | .map entries => maxPlaceholderPairs entries
  | _ => 0

/-- The highest placeholder in a list of forms. -/
def maxPlaceholders : List Form → Nat
  | [] => 0
  | f :: rest => max (maxPlaceholder f) (maxPlaceholders rest)

/-- The highest placeholder in a list of pairs of forms. -/
def maxPlaceholderPairs : List (Form × Form) → Nat
  | [] => 0
  | (k, v) :: rest => max (max (maxPlaceholder k) (maxPlaceholder v)) (maxPlaceholderPairs rest)

end

mutual

/-- The form with `%1` for each symbol `%`. -/
def numberPlaceholders : Form → Form
  | .symbol name => .symbol (if name = "%" then "%1" else name)
  | .list items => .list (numberPlaceholdersAll items)
  | .vector items => .vector (numberPlaceholdersAll items)
  | .map entries => .map (numberPlaceholdersPairs entries)
  | f => f

/-- The same for each of a list of forms. -/
def numberPlaceholdersAll : List Form → List Form
  | [] => []
  | f :: rest => numberPlaceholders f :: numberPlaceholdersAll rest

/-- The same for each of a list of pairs of forms. -/
def numberPlaceholdersPairs : List (Form × Form) → List (Form × Form)
  | [] => []
  | (k, v) :: rest =>
    (numberPlaceholders k, numberPlaceholders v) :: numberPlaceholdersPairs rest

end

/-- The parameter of a number. -/
def parameter (n : Nat) : Form :=
  .symbol (String.ofList ('%' :: Nat.toDigits 10 n))

/-- The `fn` form that a short function literal with this body means. -/
def ofShortFunction (body : List Form) : Form :=
  .list [.symbol "fn",
    .vector ((List.range (maxPlaceholders body)).map fun i => parameter (i + 1)),
    .list (numberPlaceholdersAll body)]

end ToolLisp.Form
