import Lamplight.Cli.Session
import Lamplight.Condition.Printer
import Lamplight.Engine.Display
import Lamplight.Main
import Lamplight.Proofs.Condition.Grammar
import Lamplight.Proofs.Condition.Parsing
import Lamplight.Proofs.Scanning
import Lamplight.Proofs.Condition.Flattening
import Lamplight.Proofs.Condition.Spelling
import Lamplight.Proofs.Decimal.Bits
import Lamplight.Proofs.Decimal.Nearest
import Lamplight.Proofs.Decimal.Order
import Lamplight.Proofs.Decimal.Distance
import Lamplight.Proofs.Decimal.ReadBack
import Lamplight.Proofs.Decimal.Undefined
import Lamplight.Proofs.Decimal.Unsigned
import Lamplight.Proofs.Engine.Decision
import Lamplight.Proofs.Condition.Lexicon
import Lamplight.Proofs.Condition.Lexing
import Lamplight.Proofs.Condition.RoundTrip
import Lamplight.Proofs.Catalog
import Lamplight.Proofs.Membership.Maps
import Lamplight.Proofs.Membership.Bounds
import Lamplight.Proofs.Membership.Dominance
import Lamplight.Proofs.Membership.Shape
import Lamplight.Proofs.Condition.Rereading
import Lamplight.Proofs.Simulation.Environment
import Lamplight.Proofs.Simulation.Run
import Lamplight.Proofs.Cli.Checking
import Lamplight.Proofs.Cli.Numbering
import Lamplight.Proofs.Cli.Precedence
import Lamplight.Proofs.Decimal.Arithmetic
import Lamplight.Proofs.Decimal.Rounding
import Lamplight.Proofs.Files.Tree
import Lamplight.Proofs.Settings.Layering
import Lamplight.Proofs.Settings.Loading
import Lamplight.Proofs.Settings.RoundTrip
import Lamplight.Proofs.Settings.Validation
import Lamplight.Proofs.Simulation.Ambient
import Lamplight.Proofs.Simulation.Daylight
import Lamplight.Proofs.Simulation.Invariant
import Lamplight.Proofs.Toml.Document
import Lamplight.Proofs.Toml.Draft
import Lamplight.Proofs.Toml.Number
import Lamplight.Proofs.Toml.Text
import Lamplight.Proofs.Toml.Value
import Lamplight.Proofs.Condition.Covering
import Lamplight.Proofs.Condition.Faults
import Lamplight.Proofs.Condition.Positions
import Lamplight.Proofs.Condition.Composing
import Lamplight.Proofs.Condition.Shape
import Lamplight.Proofs.Condition.Monotonicity
import Lamplight.Proofs.Condition.Dependence
import Lamplight.Proofs.Rule.Documents
import Lamplight.Proofs.Rule.FileSource
import Lamplight.Proofs.Rule.Tables
