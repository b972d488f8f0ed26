import ServiceScaffold.Cli.Arguments
import ServiceScaffold.Cli.Run
import ServiceScaffold.Compilation
import ServiceScaffold.Descriptor.Compiled
import ServiceScaffold.Descriptor.Conversion
import ServiceScaffold.Descriptor.Decoding
import ServiceScaffold.Descriptor.Wire
import ServiceScaffold.Extraction
import ServiceScaffold.Failure
import ServiceScaffold.Files.Disk
import ServiceScaffold.Files.Path
import ServiceScaffold.Generation
import ServiceScaffold.Main
import ServiceScaffold.Model.Distinct
import ServiceScaffold.Model.Draft
import ServiceScaffold.Model.Service
import ServiceScaffold.Naming
import ServiceScaffold.Proofs.Descriptor.Encoding
import ServiceScaffold.Proofs.Model.Declared
import ServiceScaffold.Proofs.Schema.Placement
import ServiceScaffold.Schema.Declaration
import ServiceScaffold.Schema.Event
import ServiceScaffold.Schema.Fault
import ServiceScaffold.Schema.FieldNumber
import ServiceScaffold.Schema.Grammar
import ServiceScaffold.Schema.Lexeme
import ServiceScaffold.Schema.Lexer
import ServiceScaffold.Schema.Parser
import ServiceScaffold.Schema.Position
import ServiceScaffold.Shell.Run
import ServiceScaffold.Shell.Script
import ServiceScaffold.Skeleton.Domain
import ServiceScaffold.Skeleton.Persistence
import ServiceScaffold.Skeleton.Source
import ServiceScaffold.Skeleton.Types
import ServiceScaffold.Text.Blank
import ServiceScaffold.Text.Case
import ServiceScaffold.Text.CaseTable
import ServiceScaffold.Text.Digit
import ServiceScaffold.Text.Identifier
import ServiceScaffold.Text.Json
import ServiceScaffold.Text.Letter
import ServiceScaffold.Text.Printable
import ServiceScaffold.Text.Quoted
import ServiceScaffold.Text.Ranges
import ServiceScaffold.Text.Segment
import ServiceScaffold.Text.Utf8
import ServiceScaffold.Proofs.Descriptor.Conversion
import ServiceScaffold.Proofs.Descriptor.Agreement
import ServiceScaffold.Proofs.Lexical.Characters
import ServiceScaffold.Proofs.Lexical.Grammar
import ServiceScaffold.Proofs.Lexical.Runs
import ServiceScaffold.Proofs.Lexical.Tokens
import ServiceScaffold.Proofs.Printing.Layout
import ServiceScaffold.Proofs.Printing.Printer
import ServiceScaffold.Proofs.Printing.Atoms
import ServiceScaffold.Proofs.Printing.Reading
import ServiceScaffold.Proofs.Printing.Messages
import ServiceScaffold.Proofs.Printing.Declarations
import ServiceScaffold.Proofs.Printing.RoundTrip
import ServiceScaffold.Proofs.Files.Paths
import ServiceScaffold.Proofs.Files.Growth
import ServiceScaffold.Proofs.Generation.Accounting
import ServiceScaffold.Proofs.Skeleton.Reading
import ServiceScaffold.Proofs.Skeleton.Signatures
import ServiceScaffold.Proofs.Generation.TypeNames
import ServiceScaffold.Proofs.Descriptor.Completeness
import ServiceScaffold.Proofs.Lexical.Below
import ServiceScaffold.Proofs.Schema.Lookahead
import ServiceScaffold.Proofs.Schema.Concatenation
import ServiceScaffold.Proofs.Schema.Spacing
import ServiceScaffold.Proofs.Schema.Nesting
import ServiceScaffold.Proofs.Files.NewDirectory
import ServiceScaffold.Proofs.Generation.NothingLost
import ServiceScaffold.Proofs.Naming.Separators
import ServiceScaffold.Proofs.Schema.Words
import ServiceScaffold.Proofs.Model.WellFormed
import ServiceScaffold.Proofs.Cli.FailedExtraction
import ServiceScaffold.Proofs.Generation.Confinement
import ServiceScaffold.Proofs.Model.Interleaving
import ServiceScaffold.Proofs.Schema.Walk
import ServiceScaffold.Proofs.Descriptor.Contributions
import ServiceScaffold.Proofs.Schema.Turns
import ServiceScaffold.Proofs.Lexical.OpenLiteral
import ServiceScaffold.Proofs.Schema.Blame
import ServiceScaffold.Proofs.Schema.Progress
import ServiceScaffold.Proofs.Model.SuffixWarnings
import ServiceScaffold.Proofs.Model.FirstDeclarations
import ServiceScaffold.Proofs.Skeleton.Structs
import ServiceScaffold.Proofs.Generation.Requests
import ServiceScaffold.Proofs.Generation.ModelText
import ServiceScaffold.Proofs.Naming.CamelCase
import ServiceScaffold.Proofs.Generation.Stamps
import ServiceScaffold.Proofs.Descriptor.Selection
import ServiceScaffold.Proofs.Naming.NormalForm
import ServiceScaffold.Proofs.Naming.SnakeCase
import ServiceScaffold.Proofs.Schema.IntegerLiterals
import ServiceScaffold.Proofs.Generation.UseCaseText
