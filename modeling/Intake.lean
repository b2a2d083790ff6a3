import Intake.Log.Pipeline
import Intake.Request.Answer
import Intake.Schema.Blueprint
import Intake.Proofs.Admission.Payloads
import Intake.Proofs.Admission.Ranges
import Intake.Proofs.Admission.Sources
import Intake.Proofs.Coercion.Soundness
import Intake.Proofs.Coercion.Layouts
import Intake.Proofs.Coercion.Standard
import Intake.Proofs.Coercion.Listings
import Intake.Proofs.Coercion.Names
import Intake.Proofs.Coercion.Registry
import Intake.Proofs.Coercion.Repeated
import Intake.Proofs.Coercion.Spellings
import Intake.Proofs.Form.Kept
import Intake.Proofs.Form.Repeated
import Intake.Proofs.Form.Spelled
import Intake.Proofs.Log.Redaction
import Intake.Proofs.Outcome.Chains
import Intake.Proofs.Reading.Decimals
import Intake.Proofs.Reading.Registry
import Intake.Proofs.Reading.RoundTrip
import Intake.Proofs.Reading.Sniffing
import Intake.Proofs.Report.Groups
import Intake.Proofs.Report.Markup
import Intake.Proofs.Run.Formats
import Intake.Proofs.Run.Lines
import Intake.Proofs.Run.Uploads
import Intake.Proofs.Sanitizer.Unmarked
import Intake.Proofs.Schema.Activation
import Intake.Proofs.Schema.Apart
import Intake.Proofs.Schema.Attempts
import Intake.Proofs.Schema.Causes
import Intake.Proofs.Schema.Coherence
import Intake.Proofs.Schema.Encoded
import Intake.Proofs.Schema.Nesting
import Intake.Proofs.Schema.Precedence
import Intake.Proofs.Schema.Received
import Intake.Proofs.Schema.Scoping
import Intake.Proofs.Schema.Warnings
import Intake.Proofs.Xml.Attributes
