import ExprLang.Text.Bytes
import ExprLang.Text.Search
import ExprLang.Value.Coercion
import ExprLang.Value.Equality
import ExprLang.Context
import ExprLang.Error
import ExprLang.Json
import ExprLang.Range
import ExprLang.Token.Basic
import ExprLang.Token.Lexer
import ExprLang.Token.Scanner
import ExprLang.Value.Order
import ExprLang.Node.Basic
import ExprLang.Node.Outline
import ExprLang.Node.Parser
import ExprLang.Node.Machine
import ExprLang.Eval.Basic
import ExprLang.Eval.Node
import ExprLang.Expression
import ExprLang.Host.Stock
import ExprLang.Proofs.ContextReads
import ExprLang.Proofs.DepthLimit
import ExprLang.Proofs.Slices
import ExprLang.Proofs.Liveness
import ExprLang.Proofs.ConfinedValues
import ExprLang.Proofs.Constants
import ExprLang.Proofs.Sandbox
import ExprLang.Proofs.ScanPlaces
import ExprLang.Proofs.TokenSlices
import ExprLang.Proofs.LexicalFaults
import ExprLang.Proofs.OperandEnds
import ExprLang.Proofs.RegexGate
import ExprLang.Proofs.Spacing
import ExprLang.Proofs.MaximalMunch
import ExprLang.Proofs.Faults
import ExprLang.Proofs.ErrorPlaces
import ExprLang.Proofs.LevelOperators
import ExprLang.Proofs.NestedRanges
import ExprLang.Proofs.FreeNames
import ExprLang.Proofs.JsonRoundTrip
import ExprLang.Proofs.OutlineReading
import ExprLang.Proofs.ContextHistory
import ExprLang.Proofs.Numerals
import ExprLang.Proofs.DecimalSpellings
import ExprLang.Proofs.PropertyKeys
import ExprLang.Proofs.LooseEquality
import ExprLang.Proofs.StringLiterals
import ExprLang.Proofs.RegexLiterals
import ExprLang.Proofs.RelativeIndices
import ExprLang.Proofs.MethodCalls
import ExprLang.Proofs.SequenceSlices
import ExprLang.Proofs.Occurrences
import ExprLang.Proofs.SplitAndJoin
import ExprLang.Proofs.StringSearch
import ExprLang.Proofs.CoercionPaths
import ExprLang.Proofs.Receivers
import ExprLang.Proofs.ElementKeys
import ExprLang.Proofs.TextOrder
import ExprLang.Proofs.RelationalOperators
import ExprLang.Proofs.DecimalTexts
import ExprLang.Proofs.NumberRoundTrip
import ExprLang.Proofs.MachineSteps
import ExprLang.Proofs.MachineRuns
import ExprLang.Proofs.RegexEngine
import ExprLang.Proofs.CursorScan
