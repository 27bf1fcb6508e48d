import Midrange.Main
import Midrange.Proofs.Assembler.Course
import Midrange.Proofs.Assembler.Formats
import Midrange.Proofs.Assembler.Report
import Midrange.Proofs.Assembler.Settings
import Midrange.Proofs.Basic
import Midrange.Proofs.Disk.Writing
import Midrange.Proofs.Encoding.Exact
import Midrange.Proofs.Encoding.Fields
import Midrange.Proofs.Encoding.Rejection
import Midrange.Proofs.Encoding.Spelling
import Midrange.Proofs.Instruction.Decode
import Midrange.Proofs.Json.Decode
import Midrange.Proofs.Json.Grammar
import Midrange.Proofs.Json.Layout
import Midrange.Proofs.Json.Skip
import Midrange.Proofs.Line.Commas
import Midrange.Proofs.Line.Head
import Midrange.Proofs.Line.Quotation
import Midrange.Proofs.Line.Tokens
import Midrange.Proofs.Line.Warning
import Midrange.Proofs.Listing.Lines
import Midrange.Proofs.Literal.Grammar
import Midrange.Proofs.Literal.Notation
import Midrange.Proofs.Literal.Numeral
import Midrange.Proofs.Literal.Parts
import Midrange.Proofs.Literal.Scan
import Midrange.Proofs.Pass.ClosedForm
import Midrange.Proofs.Pass.Log
import Midrange.Proofs.Pass.Trace
import Midrange.Proofs.Reference.Agreement
import Midrange.Proofs.Reference.Search
import Midrange.Proofs.Source.Concatenation
import Midrange.Proofs.Source.Editing
import Midrange.Proofs.Source.Layout
import Midrange.Proofs.Source.LetterCase
import Midrange.Proofs.Source.Printing
import Midrange.Proofs.Strictness.Refusal
import Midrange.Proofs.Strictness.Settings
import Midrange.Proofs.Text.Fields
import Midrange.Proofs.Text.LetterCase
import Midrange.Proofs.Text.Lines
import Midrange.Proofs.Text.Occurs
import Midrange.Proofs.Text.Word
