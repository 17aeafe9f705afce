import MessageDump.Main
import MessageDump.Proofs.Fault.Listing
import MessageDump.Proofs.Schema.Linking
import MessageDump.Proofs.Fault.Sequence
import MessageDump.Proofs.Routine.Blocks
import MessageDump.Proofs.Routine.Statements
import MessageDump.Proofs.Routine.Coverage
import MessageDump.Proofs.Routine.Rejection
import MessageDump.Proofs.Routine.Keys
import MessageDump.Proofs.Generation.DryRun
import MessageDump.Proofs.Text.Split
import MessageDump.Proofs.Name.Identifier
import MessageDump.Proofs.Name.Casing
import MessageDump.Proofs.Routine.Places
import MessageDump.Proofs.Routine.Patterns
import MessageDump.Proofs.Storage.Tree
import MessageDump.Proofs.Command.Delivery
import MessageDump.Proofs.Name.Legality
import MessageDump.Proofs.Routine.Legality
import MessageDump.Proofs.Document.Tree
import MessageDump.Proofs.Generation.Acceptance
import MessageDump.Proofs.Schema.Formats
import MessageDump.Proofs.Source.Nesting
import MessageDump.Proofs.Text.Lines
import MessageDump.Proofs.Source.Indentation
import MessageDump.Proofs.Text.Quoted
import MessageDump.Proofs.Generation.Layout
import MessageDump.Proofs.Text.Literal
import MessageDump.Proofs.Source.Draft
import MessageDump.Proofs.Routine.Wording
import MessageDump.Proofs.Generation.Wording
import MessageDump.Proofs.Text.Template
import MessageDump.Proofs.Routine.Templates
import MessageDump.Proofs.Generation.Order
import MessageDump.Proofs.Generation.Definitions
import MessageDump.Proofs.Generation.Calls
import MessageDump.Proofs.Source.InPlace
import MessageDump.Proofs.Text.Sections
import MessageDump.Proofs.Generation.Concatenation
import MessageDump.Proofs.Schema.Spelling
import MessageDump.Proofs.Command.Agreement
import MessageDump.Proofs.Schema.Precedence
import MessageDump.Proofs.Routine.Influence
import MessageDump.Proofs.Source.Margin
import MessageDump.Proofs.Routine.Dispatch
import MessageDump.Proofs.Routine.Guards
import MessageDump.Proofs.Name.Segments
import MessageDump.Proofs.Name.Canonical
import MessageDump.Proofs.Generation.Stems
