import GraphMapper.Main
import GraphMapper.Script.Run
import GraphMapper.Proofs.Builder.Outline
import GraphMapper.Proofs.Placeholder.Spelling
import GraphMapper.Proofs.Placeholder.Binding
import GraphMapper.Proofs.Builder.Family
import GraphMapper.Proofs.Builder.Journal
import GraphMapper.Proofs.Builder.Placeholders
import GraphMapper.Proofs.Transaction.Bracket
import GraphMapper.Proofs.Reading.NodeCommand
import GraphMapper.Proofs.Graph.Store
import GraphMapper.Proofs.Graph.NodeStatements
import GraphMapper.Proofs.Node.Construct
import GraphMapper.Proofs.Graph.Persistence
import GraphMapper.Proofs.Graph.Scene
import GraphMapper.Proofs.Graph.Saving
import GraphMapper.Proofs.Builder.Refusal
import GraphMapper.Proofs.Store.Conversation
import GraphMapper.Proofs.Node.Identity
import GraphMapper.Proofs.Transaction.Entities
import GraphMapper.Proofs.Reading.Selection
import GraphMapper.Proofs.Builder.Finding
import GraphMapper.Proofs.Reading.Clauses
import GraphMapper.Proofs.Builder.Wording
import GraphMapper.Proofs.Builder.PathWording
import GraphMapper.Proofs.Store.RowStore
import GraphMapper.Proofs.Builder.Rows
import GraphMapper.Proofs.Redaction.Values
import GraphMapper.Proofs.Redaction.Family
import GraphMapper.Proofs.Redaction.Node
import GraphMapper.Proofs.Redaction.Bench
import GraphMapper.Proofs.Transaction.Failures
import GraphMapper.Proofs.Node.Life
import GraphMapper.Proofs.Node.Insertion
import GraphMapper.Proofs.Reading.Assignments
import GraphMapper.Proofs.Node.Reserved
import GraphMapper.Proofs.Connection.Encounters
import GraphMapper.Proofs.Connection.Lifecycle
import GraphMapper.Proofs.Connection.Custody
import GraphMapper.Proofs.Store.Terminals
import GraphMapper.Proofs.Reading.Chains
import GraphMapper.Proofs.Node.RoundTrip
import GraphMapper.Proofs.Node.SaveRefusal
import GraphMapper.Proofs.Node.Refresh
import GraphMapper.Proofs.Placeholder.Renaming
import GraphMapper.Proofs.Builder.Inspection
import GraphMapper.Proofs.Placeholder.Properties
import GraphMapper.Proofs.Node.Agreement
import GraphMapper.Proofs.Maintenance.Reporting
import GraphMapper.Proofs.Reading.AllowList
import GraphMapper.Proofs.Node.Mapping
import GraphMapper.Proofs.Maintenance.Counting
import GraphMapper.Proofs.Store.Columns
import GraphMapper.Proofs.Script.Keeping
import GraphMapper.Proofs.Store.Hydration
import GraphMapper.Proofs.Placeholder.Progress
import GraphMapper.Proofs.Builder.Respelling
