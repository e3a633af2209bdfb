import CommandLine.Emission.Eval
import CommandLine.Environment
import CommandLine.Expansion
import CommandLine.Proofs.ClosedForm
import CommandLine.Proofs.Emission.Refinement
import CommandLine.Proofs.Metadata.Rendering
import CommandLine.Proofs.Provenance
import CommandLine.Proofs.Metadata.Concatenation
import CommandLine.Proofs.Number.Integer
import CommandLine.Proofs.RoundTrip
import CommandLine.Proofs.ItemOrder
import CommandLine.Proofs.Default
import CommandLine.Proofs.Metadata.Canonical
import CommandLine.Proofs.Refusal
import CommandLine.Proofs.Reachability
import CommandLine.Proofs.Classification
import CommandLine.Proofs.Comparison
import CommandLine.Proofs.Extension
import CommandLine.Proofs.FieldOrder
import CommandLine.Proofs.Emission.Imports
import CommandLine.Proofs.Matching
import CommandLine.Proofs.Metadata.Quotes
import CommandLine.Proofs.Number.Numeral
import CommandLine.Proofs.PropertyOrder
import CommandLine.Proofs.Emission.Chain
import CommandLine.Proofs.Number.Nearest
import CommandLine.Proofs.Number.Float
import CommandLine.Proofs.Constant
import CommandLine.Proofs.Synonym
import CommandLine.Proofs.NamingStyle
import CommandLine.Proofs.Naming
import CommandLine.Proofs.Attribution
import CommandLine.Proofs.Generation
import CommandLine.Proofs.Emission.Countdown
