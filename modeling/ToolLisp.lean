import ToolLisp.Builtin.Access
import ToolLisp.Builtin.Action
import ToolLisp.Builtin.Argument
import ToolLisp.Builtin.Basic
import ToolLisp.Builtin.Fold
import ToolLisp.Builtin.Map
import ToolLisp.Builtin.Number
import ToolLisp.Builtin.Ordering
import ToolLisp.Builtin.Range
import ToolLisp.Builtin.Signature
import ToolLisp.Builtin.Table
import ToolLisp.Builtin.Test
import ToolLisp.Builtin.Text
import ToolLisp.Builtin.Transform
import ToolLisp.Expr.Basic
import ToolLisp.Expr.Error
import ToolLisp.Expr.OfForm
import ToolLisp.Expr.Pattern
import ToolLisp.Form.Basic
import ToolLisp.Form.Placeholder
import ToolLisp.Form.Read
import ToolLisp.Number.Basic
import ToolLisp.Number.Binary64
import ToolLisp.Number.Decimal
import ToolLisp.Proofs.Alike
import ToolLisp.Proofs.AlikeActions
import ToolLisp.Proofs.Analysis
import ToolLisp.Proofs.BuiltinFunctions
import ToolLisp.Proofs.BuiltinNames
import ToolLisp.Proofs.ChainedComparison
import ToolLisp.Proofs.Congruence
import ToolLisp.Proofs.Destructuring
import ToolLisp.Proofs.DirectRecursion
import ToolLisp.Proofs.Evaluation
import ToolLisp.Proofs.ExposedBuiltins
import ToolLisp.Proofs.ExposedCollections
import ToolLisp.Proofs.ExposedFunctions
import ToolLisp.Proofs.ExtremeKeys
import ToolLisp.Proofs.FieldTests
import ToolLisp.Proofs.Flattening
import ToolLisp.Proofs.Fuel
import ToolLisp.Proofs.Functions
import ToolLisp.Proofs.GeneratedNames
import ToolLisp.Proofs.Grammar
import ToolLisp.Proofs.Grouping
import ToolLisp.Proofs.HigherLimits
import ToolLisp.Proofs.Hygiene
import ToolLisp.Proofs.HygienicRuns
import ToolLisp.Proofs.IntegerArithmetic
import ToolLisp.Proofs.IntegerRange
import ToolLisp.Proofs.IntegerText
import ToolLisp.Proofs.Interpretation
import ToolLisp.Proofs.InterpreterState
import ToolLisp.Proofs.JsonRoundTrip
import ToolLisp.Proofs.KeyRemoval
import ToolLisp.Proofs.KeyedAccess
import ToolLisp.Proofs.Layout
import ToolLisp.Proofs.LexicalScope
import ToolLisp.Proofs.MapBuilding
import ToolLisp.Proofs.NaturalOrder
import ToolLisp.Proofs.NestedAccess
import ToolLisp.Proofs.NumberOrder
import ToolLisp.Proofs.NumberText
import ToolLisp.Proofs.OrderedMaps
import ToolLisp.Proofs.PatternInstructions
import ToolLisp.Proofs.Places
import ToolLisp.Proofs.PrintedData
import ToolLisp.Proofs.PrintedForms
import ToolLisp.Proofs.RangedOperations
import ToolLisp.Proofs.Rebinding
import ToolLisp.Proofs.RecurSoundness
import ToolLisp.Proofs.Rereading
import ToolLisp.Proofs.Rounding
import ToolLisp.Proofs.RowPredicates
import ToolLisp.Proofs.Scanning
import ToolLisp.Proofs.Scope
import ToolLisp.Proofs.ScopedSimulation
import ToolLisp.Proofs.SessionMemory
import ToolLisp.Proofs.ShortFunctions
import ToolLisp.Proofs.Simulation
import ToolLisp.Proofs.SortedCollections
import ToolLisp.Proofs.Soundness
import ToolLisp.Proofs.SourcePositions
import ToolLisp.Proofs.Spelling
import ToolLisp.Proofs.Stability
import ToolLisp.Proofs.StableSorting
import ToolLisp.Proofs.SuccessiveTexts
import ToolLisp.Proofs.Temporaries
import ToolLisp.Proofs.Termination
import ToolLisp.Proofs.TextCutting
import ToolLisp.Proofs.TokenText
import ToolLisp.Proofs.ToolAnswers
import ToolLisp.Proofs.ToolFailure
import ToolLisp.Proofs.ValueEquality
import ToolLisp.Proofs.ValueOrder
import ToolLisp.Proofs.WholeMatches
import ToolLisp.Regex.Bracket
import ToolLisp.Regex.CharClass
import ToolLisp.Regex.Escape
import ToolLisp.Regex.Flags
import ToolLisp.Regex.Machine
import ToolLisp.Regex.Node
import ToolLisp.Regex.Property
import ToolLisp.Regex.Read
import ToolLisp.Regex.Weight
import ToolLisp.Run.Error
import ToolLisp.Run.Eval
import ToolLisp.Run.Host
import ToolLisp.Run.Monad
import ToolLisp.Run.Program
import ToolLisp.Run.Registry
import ToolLisp.Source.Error
import ToolLisp.Source.Token
import ToolLisp.Text.Basic
import ToolLisp.Text.BinaryProperty
import ToolLisp.Text.Case
import ToolLisp.Text.CaseMap
import ToolLisp.Text.Category
import ToolLisp.Text.Cluster
import ToolLisp.Text.ClusterBreak
import ToolLisp.Text.Property
import ToolLisp.Text.Quoted
import ToolLisp.Text.Script
import ToolLisp.Value.Basic
import ToolLisp.Value.Entries
import ToolLisp.Value.Env
import ToolLisp.Value.Equality
import ToolLisp.Value.Json
import ToolLisp.Value.Order
