import TwoPass.Text.Range
import TwoPass.Text.Blank
import TwoPass.Text.Line
import TwoPass.Text.Upper
import TwoPass.Text.Digit
import TwoPass.Text.Numeral
import TwoPass.Text.Hex
import TwoPass.Text.Plain
import TwoPass.Text.Printable
import TwoPass.Text.Quoted
import TwoPass.OrderedMap
import TwoPass.Location
import TwoPass.Operand.Operator
import TwoPass.Operand.Form
import TwoPass.Operand.Expression
import TwoPass.Operand.Class
import TwoPass.Instruction.Directive
import TwoPass.Instruction.Basic
import TwoPass.Instruction.Directory
import TwoPass.Instruction.Table
import TwoPass.Instruction.Register
import TwoPass.Diagnostic
import TwoPass.Failure
import TwoPass.Position
import TwoPass.Remark
import TwoPass.Outcome
import TwoPass.Flags
import TwoPass.Statement
import TwoPass.Item
import TwoPass.SymbolTable
import TwoPass.LiteralTable
import TwoPass.Externals
import TwoPass.Modification
import TwoPass.Section
import TwoPass.Layout
import TwoPass.Encoding
import TwoPass.Record.Text
import TwoPass.Record.Object
import TwoPass.Assembly
import TwoPass.Report
import TwoPass.Path
import TwoPass.Files
import TwoPass.Settings
import TwoPass.Session
import TwoPass.Command.Arguments
import TwoPass.Command.Run
import TwoPass.Main
import TwoPass.Proofs.Sweep
import TwoPass.Proofs.Hex
import TwoPass.Proofs.Form
import TwoPass.Proofs.LayoutStep
import TwoPass.Proofs.SourceFailure
import TwoPass.Proofs.FirstMention
import TwoPass.Proofs.Pooling
import TwoPass.Proofs.LiteralPools
import TwoPass.Proofs.Counter
import TwoPass.Proofs.Code
import TwoPass.Proofs.Packing
import TwoPass.Proofs.Passes
import TwoPass.Proofs.Encoded
import TwoPass.Proofs.Cover
import TwoPass.Proofs.Failures
import TwoPass.Proofs.ObjectFile
import TwoPass.Proofs.Rendering
import TwoPass.Proofs.Reading
import TwoPass.Proofs.Declarations
import TwoPass.Proofs.Relocation
import TwoPass.Proofs.ReadBack
import TwoPass.Proofs.Restating
import TwoPass.Proofs.Splitting
import TwoPass.Proofs.Joining
import TwoPass.Proofs.Wording
import TwoPass.Proofs.Decoding
import TwoPass.Proofs.ProgramCounter
import TwoPass.Proofs.Linkage
import TwoPass.Proofs.LinkedValue
import TwoPass.Proofs.MissingCode
import TwoPass.Proofs.Locations
import TwoPass.Proofs.Symbols
import TwoPass.Proofs.Strictness
import TwoPass.Proofs.Fields
import TwoPass.Proofs.Truncation
import TwoPass.Proofs.Extended
import TwoPass.Proofs.ByteCount
import TwoPass.Proofs.Interruption
import TwoPass.Proofs.Translation
import TwoPass.Proofs.PackerRuns
import TwoPass.Proofs.Repetition
import TwoPass.Proofs.RecordColumns
import TwoPass.Proofs.RecordBreaks
import TwoPass.Proofs.SharedNames
import TwoPass.Proofs.Grammar
import TwoPass.Proofs.Evaluation
import TwoPass.Proofs.LoadedDirectory
import TwoPass.Proofs.LoadedWidth
import TwoPass.Proofs.UpperCase
import TwoPass.Proofs.LineFields
import TwoPass.Proofs.CanonicalLine
import TwoPass.Proofs.Caret
import TwoPass.Proofs.OffendingLine
import TwoPass.Proofs.FormBytes
import TwoPass.Proofs.OperandList
import TwoPass.Proofs.Readings
