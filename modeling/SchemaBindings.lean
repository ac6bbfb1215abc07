import SchemaBindings.Text.Alphanumeric
import SchemaBindings.Text.Printable
import SchemaBindings.Text.GraphemeExtend
import SchemaBindings.Text.LetterCase
import SchemaBindings.Text.Words
import SchemaBindings.Text.Line
import SchemaBindings.Text.Quoted
import SchemaBindings.Text.Utf8
import SchemaBindings.Number.Shortest
import SchemaBindings.Json.Value
import SchemaBindings.Declaration
import SchemaBindings.Constant
import SchemaBindings.Config
import SchemaBindings.Document.OfValue
import SchemaBindings.Document.OfBytes
import SchemaBindings.Resolution.Resolved
import SchemaBindings.Naming.Table
import SchemaBindings.Target.Go
import SchemaBindings.Target.Rust
import SchemaBindings.Generation.Run
import SchemaBindings.Command.FileTree
import SchemaBindings.Command.Glob
import SchemaBindings.Command.Arguments
import SchemaBindings.Command.Trace
import SchemaBindings.Command.Run
import SchemaBindings.Main
import SchemaBindings.Proofs.ImportReachability
import SchemaBindings.Proofs.FailurePropagation
import SchemaBindings.Proofs.DeclarationTree
import SchemaBindings.Proofs.DeclaredTypes
import SchemaBindings.Proofs.Outcomes
import SchemaBindings.Proofs.TypeResolution
import SchemaBindings.Proofs.WellFormed
import SchemaBindings.Proofs.Acceptance
import SchemaBindings.Proofs.ResolutionFailures
import SchemaBindings.Proofs.AtomicClaims
import SchemaBindings.Proofs.ClaimedNames
import SchemaBindings.Proofs.NameTable
import SchemaBindings.Proofs.Plan
import SchemaBindings.Proofs.ImportCycles
import SchemaBindings.Proofs.RunOutputs
import SchemaBindings.Proofs.ReferenceClosure
import SchemaBindings.Proofs.DeclaredNames
import SchemaBindings.Proofs.FieldNames
import SchemaBindings.Proofs.VariantNames
import SchemaBindings.Proofs.UnionEntries
import SchemaBindings.Proofs.CamelCase
import SchemaBindings.Proofs.Escalation
import SchemaBindings.Proofs.QualifiedNames
import SchemaBindings.Proofs.DeclarationOrder
import SchemaBindings.Proofs.Sites
import SchemaBindings.Proofs.LateFaults
import SchemaBindings.Proofs.LenientRuns
import SchemaBindings.Proofs.Accounting
import SchemaBindings.Proofs.ModulePlaces
import SchemaBindings.Proofs.ReferredNames
import SchemaBindings.Proofs.Spellings
import SchemaBindings.Proofs.RelativePaths
import SchemaBindings.Proofs.ParameterCapture
import SchemaBindings.Proofs.RustTypes
import SchemaBindings.Proofs.GoImports
import SchemaBindings.Proofs.GoDeclarations
import SchemaBindings.Proofs.GoOutputs
import SchemaBindings.Proofs.GoTexts
import SchemaBindings.Proofs.GoFiles
import SchemaBindings.Proofs.StrictRuns
import SchemaBindings.Proofs.SourceReaders
import SchemaBindings.Proofs.TypeUses
import SchemaBindings.Proofs.EmittedNames
import SchemaBindings.Proofs.Constructors
import SchemaBindings.Proofs.GoRecords
import SchemaBindings.Proofs.RustRecords
import SchemaBindings.Proofs.EmittedRecords
import SchemaBindings.Proofs.UnionTexts
import SchemaBindings.Proofs.GoMatches
import SchemaBindings.Proofs.RustEnums
import SchemaBindings.Proofs.Exhaustiveness
import SchemaBindings.Proofs.SealedUnions
import SchemaBindings.Proofs.TupleTexts
import SchemaBindings.Proofs.LeftOutModules
import SchemaBindings.Proofs.TupleRecords
import SchemaBindings.Proofs.EnteredModules
import SchemaBindings.Proofs.OrderedKeys
import SchemaBindings.Proofs.FailureOrder
import SchemaBindings.Proofs.CommentEdits
import SchemaBindings.Proofs.EditedPlans
import SchemaBindings.Proofs.Remarks
import SchemaBindings.Proofs.CommentedOutputs
import SchemaBindings.Proofs.PlacedComments
import SchemaBindings.Proofs.FailedComments
import SchemaBindings.Proofs.Indentation
import SchemaBindings.Proofs.ModuleTrees
import SchemaBindings.Proofs.Assembly
import SchemaBindings.Proofs.FilePaths
import SchemaBindings.Proofs.OutputPaths
import SchemaBindings.Proofs.IntroducedNames
import SchemaBindings.Proofs.ReservedNames
import SchemaBindings.Proofs.FileTrees
import SchemaBindings.Proofs.DeskWrites
import SchemaBindings.Proofs.SeveralInputs
import SchemaBindings.Proofs.FailureChains
import SchemaBindings.Proofs.ReportedPaths
import SchemaBindings.Proofs.RootCauses
import SchemaBindings.Proofs.ReplacedDeclarations
import SchemaBindings.Proofs.EmittedTypes
import SchemaBindings.Proofs.Numerals
import SchemaBindings.Proofs.IntegerFolding
import SchemaBindings.Proofs.WordFolding
import SchemaBindings.Proofs.QuotedTexts
import SchemaBindings.Proofs.ConstantTexts
import SchemaBindings.Proofs.AutomaticNames
import SchemaBindings.Proofs.ModuleNamespaces
import SchemaBindings.Proofs.FailedAncestors
import SchemaBindings.Proofs.ResultParameters
import SchemaBindings.Proofs.Buffers
import SchemaBindings.Proofs.GoExpressions
import SchemaBindings.Proofs.GoQualifiers
import SchemaBindings.Proofs.QualifiedExpressions
import SchemaBindings.Proofs.GoMentions
import SchemaBindings.Proofs.ExactImports
import SchemaBindings.Proofs.Readers
import SchemaBindings.Proofs.SpelledTexts
import SchemaBindings.Proofs.CompactValues
import SchemaBindings.Proofs.TypeForms
