import Culprit.Api.Answer
import Culprit.Cli.Run
import Culprit.Host.Api
import Culprit.Launch
import Culprit.Main
import Culprit.Proofs.Cli.Endings
import Culprit.Proofs.Completion.Content
import Culprit.Proofs.Oracle.CommandMessages
import Culprit.Proofs.Region.FunctionExtent
import Culprit.Proofs.Region.Legible
import Culprit.Proofs.Rules.Acceptance
import Culprit.Proofs.Rules.CodeColumns
import Culprit.Proofs.Rules.Concatenation
import Culprit.Proofs.Rules.Delimiters
import Culprit.Proofs.Rules.DiagnosticPlaces
import Culprit.Proofs.Rules.FunctionBodies
import Culprit.Proofs.Rules.Reduced
import Culprit.Proofs.Rules.SameCode
import Culprit.Proofs.Rules.StatementGrammar
import Culprit.Proofs.Rules.TrailingBlanks
import Culprit.Proofs.Search.BlankLines
import Culprit.Proofs.Search.Crashes
import Culprit.Proofs.Search.LineWise
import Culprit.Proofs.Search.Localization
import Culprit.Proofs.Search.Messages
import Culprit.Proofs.Search.Padding
import Culprit.Proofs.Search.Questions
import Culprit.Proofs.Service.Agreement
import Culprit.Proofs.Service.CommandFailures
import Culprit.Proofs.Service.FrontEnds
import Culprit.Proofs.Service.Replies
import Culprit.Proofs.Text.Padding
import Culprit.Proofs.Text.Utf8
