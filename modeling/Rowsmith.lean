import Rowsmith.Catalog.Assembly
import Rowsmith.Catalog.Loading
import Rowsmith.Command
import Rowsmith.Decimal
import Rowsmith.Derive.Expansion
import Rowsmith.Derive.Grammar
import Rowsmith.Derive.Grammar.Attribute
import Rowsmith.Derive.Grammar.Expression
import Rowsmith.Derive.Grammar.Operation
import Rowsmith.Derive.Grammar.Parameter
import Rowsmith.Derive.Grammar.Path
import Rowsmith.Derive.Grammar.Pattern
import Rowsmith.Derive.Grammar.Phrase
import Rowsmith.Derive.Grammar.Statement
import Rowsmith.Derive.Grammar.Type
import Rowsmith.Derive.Item
import Rowsmith.Derive.Lexer
import Rowsmith.Derive.Reader
import Rowsmith.Failure
import Rowsmith.Files.FileSystem
import Rowsmith.Files.Path
import Rowsmith.Files.Writer
import Rowsmith.Main
import Rowsmith.Model.FieldType
import Rowsmith.Model.Identifier
import Rowsmith.Model.Render
import Rowsmith.NameMap
import Rowsmith.Record.Scan
import Rowsmith.Session.Basic
import Rowsmith.Session.Database
import Rowsmith.Session.Pool
import Rowsmith.Settings.Arguments
import Rowsmith.Settings.Config
import Rowsmith.Settings.Project
import Rowsmith.Statement.Builder
import Rowsmith.Statement.Fragment
import Rowsmith.Statement.Summary
import Rowsmith.Text.Alphanumeric
import Rowsmith.Text.Basic
import Rowsmith.Text.CaseMapping
import Rowsmith.Text.IdentifierChars
import Rowsmith.Text.LetterCase
import Rowsmith.Text.Quoted
import Rowsmith.Text.Unprintable
import Rowsmith.Toml.Document
import Rowsmith.Toml.Moment
import Rowsmith.Toml.Table
import Rowsmith.Toml.Text
import Rowsmith.Value.Basic
import Rowsmith.Value.Scan
import Rowsmith.Proofs.Basic
import Rowsmith.Proofs.Catalog.Entries
import Rowsmith.Proofs.Catalog.NormalName
import Rowsmith.Proofs.Catalog.Queries
import Rowsmith.Proofs.Catalog.RowOrder
import Rowsmith.Proofs.Catalog.StableName
import Rowsmith.Proofs.Command.Idle
import Rowsmith.Proofs.Derive.Bindings
import Rowsmith.Proofs.Derive.Declaration
import Rowsmith.Proofs.Derive.DerivedRecord
import Rowsmith.Proofs.Derive.Implementation
import Rowsmith.Proofs.Derive.Lexeme
import Rowsmith.Proofs.Derive.Listing
import Rowsmith.Proofs.Derive.PathType
import Rowsmith.Proofs.Derive.Reading
import Rowsmith.Proofs.Derive.Registrations
import Rowsmith.Proofs.Derive.Settings
import Rowsmith.Proofs.Derive.Spelling
import Rowsmith.Proofs.Derive.TextLiteral
import Rowsmith.Proofs.Derive.TypeText
import Rowsmith.Proofs.Files.Change
import Rowsmith.Proofs.Files.Draft
import Rowsmith.Proofs.Files.GeneratedPath
import Rowsmith.Proofs.Files.Location
import Rowsmith.Proofs.Files.Modes
import Rowsmith.Proofs.Files.PathOrder
import Rowsmith.Proofs.Files.Replacement
import Rowsmith.Proofs.Files.Settling
import Rowsmith.Proofs.Files.Stopping
import Rowsmith.Proofs.Model.Agreement
import Rowsmith.Proofs.Model.ArrayType
import Rowsmith.Proofs.Model.BareText
import Rowsmith.Proofs.Model.Capture
import Rowsmith.Proofs.Model.Declaration
import Rowsmith.Proofs.Model.Descriptor
import Rowsmith.Proofs.Model.ElementType
import Rowsmith.Proofs.Model.FieldType
import Rowsmith.Proofs.Model.FileList
import Rowsmith.Proofs.Model.Identifier
import Rowsmith.Proofs.Model.Index
import Rowsmith.Proofs.Model.Keyword
import Rowsmith.Proofs.Model.Naming
import Rowsmith.Proofs.Model.Outline
import Rowsmith.Proofs.Model.Overrides
import Rowsmith.Proofs.Model.Rendered
import Rowsmith.Proofs.Model.SingleTable
import Rowsmith.Proofs.Model.StructName
import Rowsmith.Proofs.Model.TypeSpelling
import Rowsmith.Proofs.NameMap
import Rowsmith.Proofs.Record.Binding
import Rowsmith.Proofs.Record.ByName
import Rowsmith.Proofs.Record.Collecting
import Rowsmith.Proofs.Record.Failing
import Rowsmith.Proofs.Record.Request
import Rowsmith.Proofs.Record.RoundTrip
import Rowsmith.Proofs.Record.Slots
import Rowsmith.Proofs.Session.Execution
import Rowsmith.Proofs.Session.FailureClass
import Rowsmith.Proofs.Session.Law
import Rowsmith.Proofs.Settings.Forms
import Rowsmith.Proofs.Settings.LoaderQueries
import Rowsmith.Proofs.Settings.OptionGroups
import Rowsmith.Proofs.Settings.Override
import Rowsmith.Proofs.Settings.Reading
import Rowsmith.Proofs.Settings.References
import Rowsmith.Proofs.Settings.Template
import Rowsmith.Proofs.Statement.Construction
import Rowsmith.Proofs.Statement.Embedding
import Rowsmith.Proofs.Statement.FirstFault
import Rowsmith.Proofs.Statement.FragmentLaw
import Rowsmith.Proofs.Statement.Numbering
import Rowsmith.Proofs.Statement.Placeholder
import Rowsmith.Proofs.Statement.Predicate
import Rowsmith.Proofs.Statement.ReadBack
import Rowsmith.Proofs.Statement.RowValues
import Rowsmith.Proofs.Statement.Template
import Rowsmith.Proofs.Text.Basic
import Rowsmith.Proofs.Text.Cut
import Rowsmith.Proofs.Text.Lowering
import Rowsmith.Proofs.Text.Spacing
