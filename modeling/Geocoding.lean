import Geocoding.Address.Assembly
import Geocoding.Main
import Geocoding.Session
import Geocoding.Proofs.Batch.Projection
import Geocoding.Proofs.Batch.Scripted
import Geocoding.Proofs.Batch.Verdict
import Geocoding.Proofs.Batch.Binding
import Geocoding.Proofs.Batch.Trace
import Geocoding.Proofs.Batch.Cancellation
import Geocoding.Proofs.Batch.Composition
import Geocoding.Proofs.Batch.Watch
import Geocoding.Proofs.Session.Binding
import Geocoding.Proofs.Envelope.Fidelity
import Geocoding.Proofs.Envelope.Readable
import Geocoding.Proofs.Http.Posting
import Geocoding.Proofs.Interpretation.Independence
import Geocoding.Proofs.Address.Acceptance
import Geocoding.Proofs.Normalization.Separation
import Geocoding.Proofs.Envelope.RoundTrip
import Geocoding.Proofs.Json.Recognition
import Geocoding.Proofs.Envelope.Records
import Geocoding.Proofs.Program.Outcome
import Geocoding.Proofs.Normalization.Questions
import Geocoding.Proofs.Address.Refusal
import Geocoding.Proofs.Normalization.Emptiness
import Geocoding.Proofs.Text.Blank
import Geocoding.Proofs.Settings.Layering
import Geocoding.Proofs.Json.Wholeness
import Geocoding.Proofs.Http.Outcome
import Geocoding.Proofs.Interpretation.Traces
import Geocoding.Proofs.Decimal.Exact
import Geocoding.Proofs.Json.Replacement
import Geocoding.Proofs.Json.Coordinate
import Geocoding.Proofs.Normalization.Coordinates
import Geocoding.Proofs.Assembly.Answer
import Geocoding.Proofs.Assembly.Query
