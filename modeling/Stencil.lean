import Stencil.Compiled
import Stencil.Dictionary
import Stencil.Failure
import Stencil.Log
import Stencil.Options.Basic
import Stencil.Options.Config
import Stencil.Options.Read
import Stencil.Proofs.Compiled
import Stencil.Proofs.Options.Reading
import Stencil.Proofs.Regex.Bare
import Stencil.Proofs.Regex.ClassSteps
import Stencil.Proofs.Regex.Closing
import Stencil.Proofs.Regex.Cuts.Brackets
import Stencil.Proofs.Regex.Cuts.Count
import Stencil.Proofs.Regex.Cuts.Escape
import Stencil.Proofs.Regex.Cuts.Stream
import Stencil.Proofs.Regex.Decided
import Stencil.Proofs.Regex.Depth
import Stencil.Proofs.Regex.Groups
import Stencil.Proofs.Regex.Limits
import Stencil.Proofs.Regex.Matching
import Stencil.Proofs.Regex.Parts
import Stencil.Proofs.Regex.Pieces
import Stencil.Proofs.Regex.Seams.Brackets
import Stencil.Proofs.Regex.Seams.Count
import Stencil.Proofs.Regex.Seams.Escape
import Stencil.Proofs.Regex.Seams.Stream
import Stencil.Proofs.Regex.Search
import Stencil.Proofs.Regex.Sequences
import Stencil.Proofs.Template.Anchors
import Stencil.Proofs.Template.Assembly
import Stencil.Proofs.Template.Canonical
import Stencil.Proofs.Template.Cursor.Basic
import Stencil.Proofs.Template.Cursor.Reading
import Stencil.Proofs.Template.Cursor.Safety
import Stencil.Proofs.Template.Cursor.Windows
import Stencil.Proofs.Template.Dealing
import Stencil.Proofs.Template.Faults
import Stencil.Proofs.Template.Fragments
import Stencil.Proofs.Template.Fusing
import Stencil.Proofs.Template.Gating
import Stencil.Proofs.Template.GroupTotals
import Stencil.Proofs.Template.Joining
import Stencil.Proofs.Template.Leftmost
import Stencil.Proofs.Template.Naming
import Stencil.Proofs.Template.Nodes
import Stencil.Proofs.Template.Numbering
import Stencil.Proofs.Template.Rendering
import Stencil.Proofs.Template.RoundTrip
import Stencil.Proofs.Template.ScanLog
import Stencil.Proofs.Template.Sharing
import Stencil.Proofs.Template.Shortage
import Stencil.Proofs.Template.Skipping
import Stencil.Proofs.Template.SlotGroups
import Stencil.Proofs.Template.Views
import Stencil.Proofs.Template.Wrapping
import Stencil.Proofs.Template.Writing
import Stencil.Proofs.Text.Standing
import Stencil.Regex.Alphabet
import Stencil.Regex.AsciiClass
import Stencil.Regex.Attempt
import Stencil.Regex.Automaton.Basic
import Stencil.Regex.Automaton.Search
import Stencil.Regex.CaseFold
import Stencil.Regex.CharClass
import Stencil.Regex.CharSet
import Stencil.Regex.Lexeme.Basic
import Stencil.Regex.Lexeme.Brackets
import Stencil.Regex.Lexeme.Count
import Stencil.Regex.Lexeme.Escape
import Stencil.Regex.Lexeme.GroupHead
import Stencil.Regex.Lexeme.Read
import Stencil.Regex.Lexeme.Stream
import Stencil.Regex.Node.Basic
import Stencil.Regex.Node.Weight
import Stencil.Regex.Pattern.Basic
import Stencil.Regex.Pattern.Build
import Stencil.Regex.Program
import Stencil.Regex.Property.Age
import Stencil.Regex.Property.Basic
import Stencil.Regex.Property.Binary
import Stencil.Regex.Property.Break
import Stencil.Regex.Property.CaseMapping
import Stencil.Regex.Property.Category
import Stencil.Regex.Property.Listed
import Stencil.Regex.Property.Lookup
import Stencil.Regex.Property.Script
import Stencil.Regex.Property.Table
import Stencil.Regex.SyntaxFault
import Stencil.Template.Basic
import Stencil.Template.Expression
import Stencil.Template.Fault
import Stencil.Template.Fields
import Stencil.Template.Read
import Stencil.Template.Slots
import Stencil.Text.ByteRanges
import Stencil.Text.Floating
import Stencil.Text.Hexadecimal
import Stencil.Text.Length
import Stencil.Text.Quoted
import Stencil.Text.Ranges
import Stencil.Text.Unprintable
