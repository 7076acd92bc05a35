import Verdict.Engine.Session
import Verdict.Expression.Build
import Verdict.Main
import Verdict.Proofs.Resolution
import Verdict.Proofs.Denotation
import Verdict.Proofs.ShortCircuit
import Verdict.Proofs.DigitLimit
import Verdict.Proofs.Agreement
import Verdict.Proofs.Silence
import Verdict.Proofs.Blame
import Verdict.Proofs.Text.Trim
import Verdict.Proofs.Text.Marker
import Verdict.Proofs.TokenText
import Verdict.Proofs.Rendering
import Verdict.Proofs.TokenRendering
import Verdict.Proofs.Footprint
import Verdict.Proofs.Comparison
import Verdict.Proofs.Session
import Verdict.Proofs.Number.Reading
import Verdict.Proofs.Transitivity
import Verdict.Proofs.NamePath
import Verdict.Proofs.Text.CharTable
import Verdict.Proofs.Text.Folding
import Verdict.Proofs.Verdicts
import Verdict.Proofs.CaseOption
import Verdict.Proofs.Number.Numeral
import Verdict.Proofs.Interchange
import Verdict.Proofs.Number.Rounding
import Verdict.Proofs.Text.Unit
import Verdict.Proofs.Number.Written
import Verdict.Proofs.Number.Integer
import Verdict.Proofs.TextCoercion
import Verdict.Proofs.Dialogue
import Verdict.Proofs.Turns
import Verdict.Proofs.GroupLaws
import Verdict.Proofs.PolicyExtension
import Verdict.Proofs.Rerendering
import Verdict.Proofs.FailureTypes
import Verdict.Proofs.Builtins
import Verdict.Proofs.NaN
import Verdict.Proofs.Presence
import Verdict.Proofs.Warnings
import Verdict.Proofs.TextConversion
import Verdict.Proofs.Json.Spelling
import Verdict.Proofs.Json.Number
import Verdict.Proofs.Json.Grammar
import Verdict.Proofs.Json.Nesting
import Verdict.Proofs.Json.Writing
import Verdict.Proofs.OperandText
import Verdict.Proofs.PrintedValue
import Verdict.Proofs.LogLevels
import Verdict.Proofs.StringLaws
import Verdict.Proofs.ContextFile
import Verdict.Proofs.SpanScan
