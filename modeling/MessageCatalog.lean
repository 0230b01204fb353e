import MessageCatalog.Inspect
import MessageCatalog.Main
import MessageCatalog.Proofs.Context
import MessageCatalog.Proofs.Resolve.Correspondence
import MessageCatalog.Proofs.Resolve.Trace
import MessageCatalog.Proofs.Resolve.Pieces
import MessageCatalog.Proofs.Number
import MessageCatalog.Proofs.Value
import MessageCatalog.Proofs.Resolve.Cycle
import MessageCatalog.Proofs.Catalog
import MessageCatalog.Proofs.Resolve.Unguarded
import MessageCatalog.Proofs.Resolve.Stack
import MessageCatalog.Proofs.Resolve.Limit
import MessageCatalog.Proofs.Resolve.Siblings
import MessageCatalog.Proofs.Resolve.Reference
import MessageCatalog.Proofs.Resolve.Runaway
import MessageCatalog.Proofs.Lint.References
import MessageCatalog.Proofs.Resolve.Equivalent
import MessageCatalog.Proofs.Json.Documents
import MessageCatalog.Proofs.Wire.RoundTrip
import MessageCatalog.Proofs.Lint.Cases
import MessageCatalog.Proofs.Resolve.Observation
import MessageCatalog.Proofs.Resolve.Explicit
import MessageCatalog.Proofs.Resolve.Unnamed
import MessageCatalog.Proofs.Resolve.Lookups
import MessageCatalog.Proofs.Session
import MessageCatalog.Proofs.Resolve.Selection
import MessageCatalog.Proofs.Coverage
import MessageCatalog.Proofs.Lint.Fallback
import MessageCatalog.Proofs.Resolve.Plural
import MessageCatalog.Proofs.Lint.Unresolved
import MessageCatalog.Proofs.Addressing
import MessageCatalog.Proofs.Decimal.Written
import MessageCatalog.Proofs.Wire.Part
import MessageCatalog.Proofs.Function.Number
import MessageCatalog.Proofs.Decimal.Binary
import MessageCatalog.Proofs.Decimal.Shortest
import MessageCatalog.Proofs.Scope
import MessageCatalog.Proofs.Indexing
import MessageCatalog.Proofs.Command.Source
import MessageCatalog.Proofs.Plural.Operands
