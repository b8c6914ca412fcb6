import Descent.Error
import Descent.Grammar.Basic
import Descent.Grammar.Effects
import Descent.Grammar.Expr
import Descent.Grammar.Program
import Descent.Grammar.Session
import Descent.Grammar.Value
import Descent.Host
import Descent.Host.Logged
import Descent.Host.Resumption
import Descent.Input
import Descent.Parser.Access
import Descent.Parser.Basic
import Descent.Parser.Choice
import Descent.Parser.Failure
import Descent.Parser.Lookahead
import Descent.Parser.Recursion
import Descent.Parser.Repetition
import Descent.Parser.Report
import Descent.Parser.Selection
import Descent.Parser.Token
import Descent.Position
import Descent.State
import Descent.Text.Extending
import Descent.Text.Quoted
import Descent.Text.Unprintable
import Descent.Proofs.Host.Outcome
import Descent.Proofs.Parser.Delivery
import Descent.Proofs.Parser.Rounds
import Descent.Proofs.Parser.Composition
import Descent.Proofs.Input.Reading
import Descent.Proofs.Parser.EndRelation
import Descent.Proofs.Engine.Invariant
import Descent.Proofs.Engine.EntryFlag
import Descent.Proofs.Engine.Commitment
import Descent.Proofs.Engine.Progress
import Descent.Proofs.Host.Iteration
import Descent.Proofs.Host.Stepping
import Descent.Proofs.Host.Translation
import Descent.Proofs.Parser.Likeness
import Descent.Proofs.Engine.HostIndependence
import Descent.Proofs.Engine.Unrolling
import Descent.Proofs.Engine.Termination
import Descent.Proofs.Laws.Sequence
import Descent.Proofs.Laws.Choice
import Descent.Proofs.Parser.Logging
import Descent.Proofs.Phrase.Basic
import Descent.Proofs.Phrase.Execution
import Descent.Proofs.Engine.HostEffects
import Descent.Proofs.Phrase.Recognition
import Descent.Proofs.Phrase.Trail
import Descent.Proofs.Phrase.UniqueTrail
import Descent.Proofs.Engine.Rewording
import Descent.Proofs.Input.SameItems
import Descent.Proofs.Engine.Transcription
import Descent.Proofs.Engine.PlacesAhead
import Descent.Proofs.Engine.ErrorPlaces
import Descent.Proofs.Engine.Fixpoint
import Descent.Proofs.Engine.ExactFlag
import Descent.Proofs.Engine.FailedRepetition
import Descent.Proofs.Engine.Backtracking
import Descent.Proofs.Engine.LongestRun
import Descent.Proofs.Input.LineColumns
import Descent.Proofs.Engine.Spans
import Descent.Proofs.Laws.Division
import Descent.Proofs.Laws.Literal
import Descent.Proofs.Laws.EmptyChoice
import Descent.Proofs.Laws.Wrapping
import Descent.Proofs.Laws.Selection
import Descent.Proofs.Laws.Absorption
