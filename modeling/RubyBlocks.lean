import RubyBlocks.Text.Ranges
import RubyBlocks.Text.Basic
import RubyBlocks.Text.Alphabetic
import RubyBlocks.Text.Mark
import RubyBlocks.Text.Numeric
import RubyBlocks.Text.Extending
import RubyBlocks.Text.Unseen
import RubyBlocks.Text.Recent
import RubyBlocks.Text.Classes
import RubyBlocks.Text.Quoted
import RubyBlocks.Text.Utf8
import RubyBlocks.Text.Terminal
import RubyBlocks.Block.Style
import RubyBlocks.Block.Error
import RubyBlocks.Block.Marker
import RubyBlocks.Block.Basic
import RubyBlocks.Block.Conversion
import RubyBlocks.Block.Toggle
import RubyBlocks.Document.LineEnding
import RubyBlocks.Document.Basic
import RubyBlocks.Journal
import RubyBlocks.Glob
import RubyBlocks.Files.Path
import RubyBlocks.Files.Host
import RubyBlocks.Files.Tree
import RubyBlocks.Settings.Basic
import RubyBlocks.Settings.Expansion
import RubyBlocks.Settings.Writer
import RubyBlocks.Settings.Reader
import RubyBlocks.Settings.Storage
import RubyBlocks.Command.Arguments
import RubyBlocks.Command.Run
import RubyBlocks.Command.Session
import RubyBlocks.Main
import RubyBlocks.Proofs.Markers
import RubyBlocks.Proofs.Spacing
import RubyBlocks.Proofs.Search
import RubyBlocks.Proofs.Lines
import RubyBlocks.Proofs.Splice
import RubyBlocks.Proofs.Conversion
import RubyBlocks.Proofs.Layout
import RubyBlocks.Proofs.RoundTrip
import RubyBlocks.Proofs.WordBoundary
import RubyBlocks.Proofs.Delimiters
import RubyBlocks.Proofs.Failure
import RubyBlocks.Proofs.Visible
import RubyBlocks.Proofs.Written
import RubyBlocks.Proofs.Edit
import RubyBlocks.Proofs.Locality
import RubyBlocks.Proofs.Commute
import RubyBlocks.Proofs.Runs
import RubyBlocks.Proofs.Selection
import RubyBlocks.Proofs.Files
import RubyBlocks.Proofs.Effects
import RubyBlocks.Proofs.Difference
import RubyBlocks.Proofs.Encoding
import RubyBlocks.Proofs.Quotation
import RubyBlocks.Proofs.Storage
import RubyBlocks.Proofs.Tokens
import RubyBlocks.Proofs.Unfolding
import RubyBlocks.Proofs.Nearest
import RubyBlocks.Proofs.Cursor
import RubyBlocks.Proofs.Cuts
import RubyBlocks.Proofs.Expressions
import RubyBlocks.Proofs.Arguments
import RubyBlocks.Proofs.Patterns
import RubyBlocks.Proofs.Acceptance
