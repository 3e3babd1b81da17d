import LayoutRecovery.CommandLine.Workspace
import LayoutRecovery.Main
import LayoutRecovery.Proofs.Reconciliation.Distance
import LayoutRecovery.Proofs.Reconciliation.Gap
import LayoutRecovery.Proofs.Addend.Printed
import LayoutRecovery.Proofs.Addend.Shape
import LayoutRecovery.Proofs.Placement.Frame
import LayoutRecovery.Proofs.Placement.Tiling
import LayoutRecovery.Proofs.Scalar.Decoding
import LayoutRecovery.Proofs.Placement.Agreement
import LayoutRecovery.Proofs.Placement.Halves
import LayoutRecovery.Proofs.Addend.Remainder
import LayoutRecovery.Proofs.Scalar.ZeroWrite
import LayoutRecovery.Proofs.Transcript.Suppression
import LayoutRecovery.Proofs.Naming.Label
import LayoutRecovery.Proofs.Naming.Distinct
import LayoutRecovery.Proofs.Presentation.Slack
import LayoutRecovery.Proofs.Batch.Memory
import LayoutRecovery.Proofs.Batch.Workspace
import LayoutRecovery.Proofs.CommandLine.Generate
import LayoutRecovery.Proofs.Transcript.PassedOver
import LayoutRecovery.Proofs.Transcript.Locality
import LayoutRecovery.Proofs.Transcript.Outcome
import LayoutRecovery.Proofs.Transcript.Trail
import LayoutRecovery.Proofs.Transcript.Insertion
import LayoutRecovery.Proofs.Transcript.Measured
import LayoutRecovery.Proofs.Addend.Argument
import LayoutRecovery.Proofs.Scalar.Variable
import LayoutRecovery.Proofs.Scalar.Extent
import LayoutRecovery.Proofs.Transcript.Ahead
import LayoutRecovery.Proofs.Copy.Printed
import LayoutRecovery.Proofs.Placement.Expansion
import LayoutRecovery.Proofs.Transcript.Hint
import LayoutRecovery.Proofs.Literal.Grammar
import LayoutRecovery.Proofs.Directive.Grammar
import LayoutRecovery.Proofs.Batch.Ending
import LayoutRecovery.Proofs.Naming.Fingerprint
import LayoutRecovery.Proofs.Naming.Stem
import LayoutRecovery.Proofs.Naming.Identifier
