import CodeGraph.Bytes
import CodeGraph.Codec.CallGraph
import CodeGraph.Codec.Error
import CodeGraph.Codec.FlowGraph
import CodeGraph.Codec.Metadata
import CodeGraph.Codec.Value
import CodeGraph.CommandLine.Arguments
import CodeGraph.CommandLine.Request
import CodeGraph.CommandLine.Run
import CodeGraph.Comment
import CodeGraph.Configuration.Coercion
import CodeGraph.Configuration.Environment
import CodeGraph.Configuration.Load
import CodeGraph.Configuration.Settings
import CodeGraph.Console.Constant
import CodeGraph.Console.Glyph
import CodeGraph.Console.Lines
import CodeGraph.Console.Picture
import CodeGraph.Console.Style
import CodeGraph.Console.Table
import CodeGraph.Console.Tags
import CodeGraph.Console.Width
import CodeGraph.Container.File
import CodeGraph.Container.Index
import CodeGraph.Container.Layout
import CodeGraph.Container.Reader
import CodeGraph.Container.Search
import CodeGraph.Container.Store
import CodeGraph.Container.Stream
import CodeGraph.Container.Validation
import CodeGraph.Container.Writer
import CodeGraph.Deflate.Code
import CodeGraph.Deflate.Stream
import CodeGraph.Digest.Sha256
import CodeGraph.Disassembly.Blocks
import CodeGraph.Disassembly.Machine
import CodeGraph.Disassembly.OperandText
import CodeGraph.Disassembly.Program
import CodeGraph.Disassembly.Provider
import CodeGraph.Disassembly.Records
import CodeGraph.Elf.Image
import CodeGraph.Elf.Program
import CodeGraph.Elf.Section
import CodeGraph.Elf.Symbol
import CodeGraph.Files.Path
import CodeGraph.Files.Tree
import CodeGraph.JsonValue
import CodeGraph.Logging.Event
import CodeGraph.Logging.Report
import CodeGraph.Logging.Threshold
import CodeGraph.Logging.Warning
import CodeGraph.Main
import CodeGraph.Markup
import CodeGraph.Record
import CodeGraph.Signature
import CodeGraph.Signature.Primes
import CodeGraph.Text.Blank
import CodeGraph.Text.Codes
import CodeGraph.Text.Hex
import CodeGraph.Text.Hidden
import CodeGraph.Text.LineBreak
import CodeGraph.Text.Lowercase
import CodeGraph.Text.Numeral
import CodeGraph.Text.Quoted
import CodeGraph.Text.Utf8
import CodeGraph.Text.Word
import CodeGraph.Wire.Field
import CodeGraph.Wire.Message
import CodeGraph.Wire.Varint
import CodeGraph.Yaml.Atom
import CodeGraph.Yaml.Binary
import CodeGraph.Yaml.Error
import CodeGraph.Yaml.Layout
import CodeGraph.Yaml.Line
import CodeGraph.Yaml.Merge
import CodeGraph.Yaml.Moment
import CodeGraph.Yaml.Node
import CodeGraph.Yaml.Scalar
import CodeGraph.Yaml.Tag
import CodeGraph.Yaml.Token
import CodeGraph.Yaml.Value
import CodeGraph.Proofs.MarkupRoundTrip
import CodeGraph.Proofs.MarkedText
import CodeGraph.Proofs.Utf8RoundTrip
import CodeGraph.Proofs.WireReading
import CodeGraph.Proofs.WireRoundTrip
import CodeGraph.Proofs.CommentFlags
import CodeGraph.Proofs.FieldValues
import CodeGraph.Proofs.CutMessages
import CodeGraph.Proofs.FlowGraphLayout
import CodeGraph.Proofs.FlowGraphRoundTrip
import CodeGraph.Proofs.DecodedFlowGraph
import CodeGraph.Proofs.MarkupModes
import CodeGraph.Proofs.CutRecords
import CodeGraph.Proofs.MetadataRoundTrip
import CodeGraph.Proofs.CallGraphRoundTrip
import CodeGraph.Proofs.IndexRoundTrip
import CodeGraph.Proofs.StoreOverwrite
import CodeGraph.Proofs.WriterSteps
import CodeGraph.Proofs.WriterRefinement
import CodeGraph.Proofs.WriterFailure
import CodeGraph.Proofs.AddressSearch
import CodeGraph.Proofs.AddressLookup
import CodeGraph.Proofs.ReaderOpening
import CodeGraph.Proofs.RecordLayout
import CodeGraph.Proofs.ContainerLayout
import CodeGraph.Proofs.HeaderBytes
import CodeGraph.Proofs.ReaderSafety
import CodeGraph.Proofs.RecordExtents
import CodeGraph.Proofs.ContainerRoundTrip
import CodeGraph.Proofs.ContainerTruncation
import CodeGraph.Proofs.ProgramOrder
import CodeGraph.Proofs.ProgramRecords
import CodeGraph.Proofs.BlockPartition
import CodeGraph.Proofs.InstructionStream
import CodeGraph.Proofs.BasicBlocks
import CodeGraph.Proofs.BlockBranches
import CodeGraph.Proofs.ImageCalls
import CodeGraph.Proofs.WriterErrors
import CodeGraph.Proofs.RecordAcceptance
import CodeGraph.Proofs.DecodedRecords
import CodeGraph.Proofs.ValidationReport
import CodeGraph.Proofs.FlowGraphCounts
import CodeGraph.Proofs.SignatureAgreement
import CodeGraph.Proofs.OperandRuns
import CodeGraph.Proofs.PrimeTable
import CodeGraph.Proofs.TrialDivision
import CodeGraph.Proofs.SequenceSignature
import CodeGraph.Proofs.FlagWords
import CodeGraph.Proofs.SignatureProducts
import CodeGraph.Proofs.StringHash
import CodeGraph.Proofs.TreeChanges
import CodeGraph.Proofs.FileSystems
import CodeGraph.Proofs.FileWriting
import CodeGraph.Proofs.FileFailures
