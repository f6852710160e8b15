import PredicateWire.Base64
import PredicateWire.Catalog.Basic
import PredicateWire.Catalog.Library
import PredicateWire.Catalog.RecordSpec
import PredicateWire.Decimal.Remainder
import PredicateWire.Decimal.Shortest
import PredicateWire.Entries
import PredicateWire.Error
import PredicateWire.Evaluation.Basic
import PredicateWire.Evaluation.Natives
import PredicateWire.Evaluation.Operators
import PredicateWire.Evaluation.Outcome
import PredicateWire.Evaluation.Predicate
import PredicateWire.Evaluation.Stack
import PredicateWire.Expr.Basic
import PredicateWire.Expr.Construction
import PredicateWire.Expr.Text
import PredicateWire.Json.Basic
import PredicateWire.Json.Bytes
import PredicateWire.Json.Outline
import PredicateWire.Json.Printer
import PredicateWire.Json.Reader
import PredicateWire.Json.Record
import PredicateWire.Operator
import PredicateWire.Proofs.Base64
import PredicateWire.Proofs.Catalog.Canonical
import PredicateWire.Proofs.Catalog.Captured
import PredicateWire.Proofs.Catalog.Denoted
import PredicateWire.Proofs.Catalog.Handles
import PredicateWire.Proofs.Catalog.Members
import PredicateWire.Proofs.Contracts
import PredicateWire.Proofs.Decimal.Finite
import PredicateWire.Proofs.Decimal.Order
import PredicateWire.Proofs.Entries
import PredicateWire.Proofs.Evaluation.Alike
import PredicateWire.Proofs.Evaluation.Binary
import PredicateWire.Proofs.Evaluation.Bodies
import PredicateWire.Proofs.Evaluation.Computing
import PredicateWire.Proofs.Evaluation.Conversions
import PredicateWire.Proofs.Evaluation.Depth
import PredicateWire.Proofs.Evaluation.Disjunction
import PredicateWire.Proofs.Evaluation.Faults
import PredicateWire.Proofs.Evaluation.Inhabitants
import PredicateWire.Proofs.Evaluation.Invocation
import PredicateWire.Proofs.Evaluation.Operands
import PredicateWire.Proofs.Evaluation.OperatorRules
import PredicateWire.Proofs.Evaluation.Settling
import PredicateWire.Proofs.Evaluation.Simulation
import PredicateWire.Proofs.Evaluation.Soundness
import PredicateWire.Proofs.Evaluation.Stack
import PredicateWire.Proofs.Evaluation.Views
import PredicateWire.Proofs.Evaluation.WholeNumbers
import PredicateWire.Proofs.Expr.Built
import PredicateWire.Proofs.Expr.Parts
import PredicateWire.Proofs.Expr.Scoping
import PredicateWire.Proofs.Json.Levels
import PredicateWire.Proofs.Json.Normal
import PredicateWire.Proofs.Json.Outlined
import PredicateWire.Proofs.Json.Shallow
import PredicateWire.Proofs.Json.Text
import PredicateWire.Proofs.Mirroring
import PredicateWire.Proofs.Running
import PredicateWire.Proofs.Table.Asked
import PredicateWire.Proofs.Table.Capture
import PredicateWire.Proofs.Table.Certain
import PredicateWire.Proofs.Table.Ending
import PredicateWire.Proofs.Table.Exhaustion
import PredicateWire.Proofs.Table.Growth
import PredicateWire.Proofs.Table.History
import PredicateWire.Proofs.Table.Indexed
import PredicateWire.Proofs.Table.Labels
import PredicateWire.Proofs.Table.Loading
import PredicateWire.Proofs.Table.Names
import PredicateWire.Proofs.Table.Naming
import PredicateWire.Proofs.Table.Reached
import PredicateWire.Proofs.Table.Renaming
import PredicateWire.Proofs.Table.Requests
import PredicateWire.Proofs.Table.Resolvable
import PredicateWire.Proofs.Table.Search
import PredicateWire.Proofs.Table.Steps
import PredicateWire.Proofs.Table.Supply
import PredicateWire.Proofs.Table.Synthesis
import PredicateWire.Proofs.Table.Twins
import PredicateWire.Proofs.Types.NameGrammar
import PredicateWire.Proofs.Types.NameParts
import PredicateWire.Proofs.Types.NameText
import PredicateWire.Proofs.Types.Ordinary
import PredicateWire.Proofs.Types.Parts
import PredicateWire.Proofs.Types.Recasting
import PredicateWire.Proofs.Types.Substitution
import PredicateWire.Proofs.Value.Acceptance
import PredicateWire.Proofs.Value.Belonging
import PredicateWire.Proofs.Value.Coherence
import PredicateWire.Proofs.Value.Decoded
import PredicateWire.Proofs.Value.Equality
import PredicateWire.Proofs.Value.Inhabiting
import PredicateWire.Proofs.Value.Literal
import PredicateWire.Proofs.Value.Order
import PredicateWire.Proofs.Value.Plain
import PredicateWire.Proofs.Value.Typed
import PredicateWire.Proofs.Value.Widths
import PredicateWire.Proofs.Value.Written
import PredicateWire.Proofs.Wire.Calls
import PredicateWire.Proofs.Wire.Captured
import PredicateWire.Proofs.Wire.Constants
import PredicateWire.Proofs.Wire.Delivery
import PredicateWire.Proofs.Wire.Depth
import PredicateWire.Proofs.Wire.Format
import PredicateWire.Proofs.Wire.Implementing
import PredicateWire.Proofs.Wire.Keeping
import PredicateWire.Proofs.Wire.Keyless
import PredicateWire.Proofs.Wire.Levels
import PredicateWire.Proofs.Wire.NodeText
import PredicateWire.Proofs.Wire.Packing
import PredicateWire.Proofs.Wire.Privacy
import PredicateWire.Proofs.Wire.Rebinding
import PredicateWire.Proofs.Wire.Rebuilding
import PredicateWire.Proofs.Wire.References
import PredicateWire.Proofs.Wire.Refusal
import PredicateWire.Proofs.Wire.RenamedText
import PredicateWire.Proofs.Wire.Renaming
import PredicateWire.Proofs.Wire.Resolving
import PredicateWire.Proofs.Wire.RoundTrip
import PredicateWire.Proofs.Wire.Scoping
import PredicateWire.Proofs.Wire.SelfContained
import PredicateWire.Proofs.Wire.Shallow
import PredicateWire.Proofs.Wire.Sources
import PredicateWire.Proofs.Wire.Twins
import PredicateWire.Proofs.Wire.Uncaptured
import PredicateWire.Proofs.Wire.Variables
import PredicateWire.Settings
import PredicateWire.Symbols.Basic
import PredicateWire.Symbols.Native
import PredicateWire.Table.Basic
import PredicateWire.Table.Entry
import PredicateWire.Table.Indexed
import PredicateWire.Table.Reference
import PredicateWire.Table.Resolve
import PredicateWire.Text.CaseTable
import PredicateWire.Text.LetterCase
import PredicateWire.Text.Printable
import PredicateWire.Text.Quoted
import PredicateWire.Text.Ranges
import PredicateWire.Types.Assignability
import PredicateWire.Types.Basic
import PredicateWire.Types.Name
import PredicateWire.Types.Text
import PredicateWire.Value.Basic
import PredicateWire.Value.Literal
import PredicateWire.Value.Text
import PredicateWire.Wire.Node
import PredicateWire.Wire.Pack
import PredicateWire.Wire.Packet
import PredicateWire.Wire.Rebuild
import PredicateWire.Wire.Serializer
import PredicateWire.Yaml.Character
import PredicateWire.Yaml.Cursor
import PredicateWire.Yaml.Node
import PredicateWire.Yaml.Scalar
import PredicateWire.Yaml.Settings
import PredicateWire.Yaml.Tag
import PredicateWire.Yaml.Token
