import Stockroom.Api.Router
import Stockroom.Main
import Stockroom.Photo.Upload
import Stockroom.Record.Wire
import Stockroom.Store.Call
import Stockroom.Proofs.Store.Markings
import Stockroom.Proofs.Import.Tally
import Stockroom.Proofs.Import.Discipline
import Stockroom.Proofs.Api.Confidentiality
import Stockroom.Proofs.Api.Act
import Stockroom.Proofs.Api.Run
import Stockroom.Proofs.Api.Authority
import Stockroom.Proofs.Api.Integrity
import Stockroom.Proofs.Api.Administrators
import Stockroom.Proofs.Api.Revocation
import Stockroom.Proofs.Api.Standing
import Stockroom.Proofs.Client.Import
import Stockroom.Proofs.Api.Export
import Stockroom.Proofs.Api.Atomicity
import Stockroom.Proofs.Api.ServerErrors
import Stockroom.Proofs.Api.Validity
import Stockroom.Proofs.Intake.Acceptance
import Stockroom.Proofs.Intake.Columns
import Stockroom.Proofs.Api.Interleaving
import Stockroom.Proofs.Client.RoundTrip
import Stockroom.Proofs.Store.Replacement
import Stockroom.Proofs.Intake.Counts
import Stockroom.Proofs.Intake.Inference
import Stockroom.Proofs.Text.Order
import Stockroom.Proofs.Api.Renaming
import Stockroom.Proofs.Json.Texts
import Stockroom.Proofs.Store.Dashboard
import Stockroom.Proofs.Api.Dashboard
import Stockroom.Proofs.Store.Search
import Stockroom.Proofs.Import.Lines
import Stockroom.Proofs.Sheet.EmptyLines
import Stockroom.Proofs.Sheet.Mark
import Stockroom.Proofs.Sheet.Quoting
import Stockroom.Proofs.Sheet.Synonyms
import Stockroom.Proofs.Intake.Notations
import Stockroom.Proofs.Import.Publication
import Stockroom.Proofs.Import.Verdicts
import Stockroom.Proofs.Api.SignIn
import Stockroom.Proofs.Json.Truncation
import Stockroom.Proofs.Client.Failure
import Stockroom.Proofs.Sheet.Headers
import Stockroom.Proofs.Import.Attempts
import Stockroom.Proofs.Store.Settings
import Stockroom.Proofs.Record.Quantity
