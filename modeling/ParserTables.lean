import ParserTables.Automaton.Basic
import ParserTables.Automaton.Compile
import ParserTables.Build
import ParserTables.CommandLine
import ParserTables.Emit.Cpp
import ParserTables.Emit.Identifier
import ParserTables.Emit.Plan
import ParserTables.Emit.Rust
import ParserTables.Emit.StringLiteral
import ParserTables.Emit.Target
import ParserTables.Emit.Wrapped
import ParserTables.Files.Access
import ParserTables.Files.Path
import ParserTables.Files.Tree
import ParserTables.Id
import ParserTables.Main
import ParserTables.Proofs.Build
import ParserTables.Proofs.CommandLine
import ParserTables.Proofs.Driver
import ParserTables.Proofs.Emit.Assigned
import ParserTables.Proofs.Emit.Declared
import ParserTables.Proofs.Emit.Emitted
import ParserTables.Proofs.Emit.Enclosed
import ParserTables.Proofs.Emit.Failure
import ParserTables.Proofs.Emit.Lines
import ParserTables.Proofs.Emit.ReadBack
import ParserTables.Proofs.Emit.Records
import ParserTables.Proofs.Emit.Scan
import ParserTables.Proofs.Emit.Wrapped
import ParserTables.Proofs.Files.Disk
import ParserTables.Proofs.Files.Path
import ParserTables.Proofs.Report.Blocks
import ParserTables.Proofs.Report.Calls
import ParserTables.Proofs.Report.Checked
import ParserTables.Proofs.Report.Described
import ParserTables.Proofs.Report.Feed
import ParserTables.Proofs.Report.Lines
import ParserTables.Proofs.Report.Listed
import ParserTables.Proofs.Report.Noise
import ParserTables.Proofs.Report.Noted
import ParserTables.Proofs.Report.Numbered
import ParserTables.Proofs.Report.Ordered
import ParserTables.Proofs.Report.Outline
import ParserTables.Proofs.Report.Phrase
import ParserTables.Proofs.Report.Place
import ParserTables.Proofs.Report.Rejected
import ParserTables.Proofs.Report.Reordered
import ParserTables.Proofs.Report.Resumed
import ParserTables.Proofs.Report.RoundTrip
import ParserTables.Proofs.Report.Scanners
import ParserTables.Proofs.Report.Sections
import ParserTables.Proofs.Report.Shape
import ParserTables.Proofs.Report.Strictness
import ParserTables.Proofs.Report.Unbroken
import ParserTables.Proofs.Report.Unplaced
import ParserTables.Proofs.Report.Written
import ParserTables.Proofs.Rule.Nested
import ParserTables.Proofs.Rule.Reread
import ParserTables.Proofs.Symbol.FirstSeen
import ParserTables.Proofs.Symbol.Quoted
import ParserTables.Proofs.Symbol.Spaced
import ParserTables.Proofs.Symbol.Spelling
import ParserTables.Proofs.Symbol.Whole
import ParserTables.Proofs.Table.Accepted
import ParserTables.Proofs.Table.Cells
import ParserTables.Proofs.Table.Consistency
import ParserTables.Proofs.Table.Kept
import ParserTables.Proofs.Table.Moves
import ParserTables.Proofs.Table.Order
import ParserTables.Proofs.Table.Overflows
import ParserTables.Proofs.Table.Recorded
import ParserTables.Proofs.Table.Violations
import ParserTables.Proofs.Table.Width
import ParserTables.Proofs.Text.Ends
import ParserTables.Report.Error
import ParserTables.Report.Line
import ParserTables.Report.Reader
import ParserTables.Rule.Basic
import ParserTables.Rule.Collection
import ParserTables.Rule.Descriptor
import ParserTables.Symbol.Basic
import ParserTables.Symbol.Listing
import ParserTables.Symbol.Token
import ParserTables.Table.Action
import ParserTables.Table.Basic
import ParserTables.Table.Builder
import ParserTables.Table.Packed
import ParserTables.Table.Row
import ParserTables.Text.Basic
import ParserTables.Text.CharRange
import ParserTables.Text.Decimal
import ParserTables.Text.Glyph
import ParserTables.Text.IdentifierPart
import ParserTables.Text.UpperCase
import ParserTables.Text.XidContinue
