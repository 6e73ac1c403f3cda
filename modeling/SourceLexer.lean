import SourceLexer.Main
import SourceLexer.Session.Command
import SourceLexer.Proofs.Lexeme.Comment
import SourceLexer.Proofs.Lexeme.Numeral
import SourceLexer.Proofs.Lexeme.Quotation
import SourceLexer.Proofs.Lexeme.Reading
import SourceLexer.Proofs.Position
import SourceLexer.Proofs.Gap
import SourceLexer.Proofs.Outline
import SourceLexer.Proofs.Run
import SourceLexer.Proofs.Tiling
import SourceLexer.Proofs.Transparency
import SourceLexer.Proofs.Layout
import SourceLexer.Proofs.Lines
import SourceLexer.Proofs.Lexeme.Fault
import SourceLexer.Proofs.Reach
import SourceLexer.Proofs.Calls
import SourceLexer.Proofs.Restart
import SourceLexer.Proofs.Progress
import SourceLexer.Proofs.Diagnosis
import SourceLexer.Proofs.Policy
import SourceLexer.Proofs.Session.Seats
import SourceLexer.Proofs.Standing
import SourceLexer.Proofs.EndMark
import SourceLexer.Proofs.Lexeme.Ahead
import SourceLexer.Proofs.Lookahead
import SourceLexer.Proofs.CommandLine.Program
import SourceLexer.Proofs.Alphabet
import SourceLexer.Proofs.Session.Turns
import SourceLexer.Proofs.Session.Closing
import SourceLexer.Proofs.Session.Separation
import SourceLexer.Proofs.Session.Sharing
import SourceLexer.Proofs.Lexeme.Symbol
import SourceLexer.Proofs.Skipping
import SourceLexer.Proofs.Extent
import SourceLexer.Proofs.CommentEnd
import SourceLexer.Proofs.Text.Plain
import SourceLexer.Proofs.Text.ControlSequence
import SourceLexer.Proofs.Token.Dump
import SourceLexer.Proofs.Token.Columns
import SourceLexer.Proofs.Caret
import SourceLexer.Proofs.Stretch
