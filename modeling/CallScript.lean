import CallScript.Main
import CallScript.Proofs.Grammar
import CallScript.Proofs.Lexemes
import CallScript.Proofs.TokenSequence
import CallScript.Proofs.Acceptance
import CallScript.Proofs.ParserRun
import CallScript.Proofs.ErrorReport
import CallScript.Proofs.Spelling
import CallScript.Proofs.Layout
import CallScript.Proofs.RoundTrip
import CallScript.Proofs.Reconstruction
import CallScript.Proofs.Tiling
import CallScript.Proofs.JsonBraces
import CallScript.Proofs.JsonLiterals
import CallScript.Proofs.EvaluationErrors
import CallScript.Proofs.CallOrder
import CallScript.Proofs.CallTrace
import CallScript.Proofs.StoredVariables
import CallScript.Proofs.ReadBack
import CallScript.Proofs.AllOrNothing
import CallScript.Proofs.LineJoining
import CallScript.Proofs.JoinedPrograms
import CallScript.Proofs.TokenValues
import CallScript.Proofs.TreeShape
import CallScript.Proofs.GroundValues
import CallScript.Proofs.JsonRoundTrip
import CallScript.Proofs.ReusedParser
import CallScript.Proofs.StringLiterals
import CallScript.Proofs.BraceSlices
import CallScript.Proofs.NumberLiterals
import CallScript.Proofs.LineComposition
import CallScript.Proofs.Doubles
import CallScript.Proofs.DoubleRange
import CallScript.Proofs.RenderedFloats
import CallScript.Proofs.JsonNormalForm
import CallScript.Proofs.DocumentLookup
import CallScript.Proofs.IntegerSums
import CallScript.Proofs.FormatStrings
import CallScript.Proofs.FieldKeys
import CallScript.Proofs.LookAhead
import CallScript.Proofs.Progress
