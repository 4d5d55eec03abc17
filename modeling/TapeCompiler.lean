import TapeCompiler.Arguments.Flag
import TapeCompiler.Arguments.Reader
import TapeCompiler.Arguments.Word
import TapeCompiler.Code.C
import TapeCompiler.Code.Emission
import TapeCompiler.Code.Generation
import TapeCompiler.Code.Indentation
import TapeCompiler.Code.Tape
import TapeCompiler.Code.Target
import TapeCompiler.Code.Template
import TapeCompiler.CommandLine.Compiler
import TapeCompiler.CommandLine.Note
import TapeCompiler.CommandLine.Report
import TapeCompiler.CommandLine.Server
import TapeCompiler.Compile
import TapeCompiler.Files.Path
import TapeCompiler.Files.Tree
import TapeCompiler.Json.Basic
import TapeCompiler.Json.Printer
import TapeCompiler.Json.Reader
import TapeCompiler.Main
import TapeCompiler.Options
import TapeCompiler.Program.Assembly
import TapeCompiler.Program.Basic
import TapeCompiler.Program.Checked
import TapeCompiler.Program.Depth
import TapeCompiler.Program.Description
import TapeCompiler.Program.Printer
import TapeCompiler.Program.Traversal
import TapeCompiler.Service.Address
import TapeCompiler.Service.Body
import TapeCompiler.Service.Delivery
import TapeCompiler.Service.Endpoint
import TapeCompiler.Service.Finding
import TapeCompiler.Service.HostName
import TapeCompiler.Service.HostName.Alphabet
import TapeCompiler.Service.HostName.Composition
import TapeCompiler.Service.HostName.Direction
import TapeCompiler.Service.HostName.Joining
import TapeCompiler.Service.HostName.LowerCase
import TapeCompiler.Service.HostName.Mark
import TapeCompiler.Service.HostName.Punycode
import TapeCompiler.Service.Request
import TapeCompiler.Session
import TapeCompiler.Source.Lexeme
import TapeCompiler.Source.Parser
import TapeCompiler.Source.Reader
import TapeCompiler.Source.SyntaxError
import TapeCompiler.Text.Basic
import TapeCompiler.Text.BinaryFraction
import TapeCompiler.Text.CodeRange
import TapeCompiler.Text.Cursor
import TapeCompiler.Text.Decimal
import TapeCompiler.Text.DecimalDigit
import TapeCompiler.Text.Encoding
import TapeCompiler.Text.Halves
import TapeCompiler.Text.IntegerLiteral
import TapeCompiler.Text.LineBreak
import TapeCompiler.Text.Numeral
import TapeCompiler.Text.Position
import TapeCompiler.Text.Printable
import TapeCompiler.Text.Quoted
import TapeCompiler.Text.Utf8
import TapeCompiler.Text.WhiteSpace
import TapeCompiler.Proofs.Program.Assembly
import TapeCompiler.Proofs.Source.Gap
import TapeCompiler.Proofs.Source.Word
import TapeCompiler.Proofs.Source.Row
import TapeCompiler.Proofs.Source.Grammar
import TapeCompiler.Proofs.Code.Emission
import TapeCompiler.Proofs.Source.RoundTrip
import TapeCompiler.Proofs.Text.Lines
import TapeCompiler.Proofs.Code.OnePass
import TapeCompiler.Proofs.Machine.Brackets
import TapeCompiler.Proofs.Machine.Jump
import TapeCompiler.Proofs.Machine.Listing
import TapeCompiler.Proofs.Machine.CodeListing
import TapeCompiler.Proofs.Machine.Simulation
import TapeCompiler.Proofs.Source.Beginning
import TapeCompiler.Proofs.Source.Continuation
import TapeCompiler.Proofs.Session
import TapeCompiler.Proofs.Code.Legible
import TapeCompiler.Proofs.Machine.Spacing
import TapeCompiler.Proofs.Machine.Footing
import TapeCompiler.Proofs.Code.Outcome
import TapeCompiler.Proofs.Text.Halves
import TapeCompiler.Proofs.Service.Answer
import TapeCompiler.Proofs.Service.Sending
import TapeCompiler.Proofs.Files.Tree
import TapeCompiler.Proofs.Json.Shown
import TapeCompiler.Proofs.CommandLine.Outcome
import TapeCompiler.Proofs.Source.Relocation
import TapeCompiler.Proofs.Source.Composition
import TapeCompiler.Proofs.Program.Picture
import TapeCompiler.Proofs.Source.Rereading
import TapeCompiler.Proofs.Code.Recursion
import TapeCompiler.Proofs.Program.Preorder
import TapeCompiler.Proofs.Source.Order
import TapeCompiler.Proofs.Text.Reading
import TapeCompiler.Proofs.Arguments.Line
import TapeCompiler.Proofs.CommandLine.Flags
import TapeCompiler.Proofs.CommandLine.SourceFile
import TapeCompiler.Proofs.CommandLine.Replacement
import TapeCompiler.Proofs.Source.Position
import TapeCompiler.Proofs.Program.Printing
import TapeCompiler.Proofs.Source.Progress
import TapeCompiler.Proofs.Source.Moves
import TapeCompiler.Proofs.Machine.Arithmetic
import TapeCompiler.Proofs.Machine.Execution
