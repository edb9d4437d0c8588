import ViewModifiers.Catalog.Basic
import ViewModifiers.Catalog.Candidates
import ViewModifiers.Catalog.Enumeration
import ViewModifiers.Catalog.Mapping
import ViewModifiers.Catalog.Parseable
import ViewModifiers.Catalog.Signature
import ViewModifiers.Catalog.Validity
import ViewModifiers.CommandLine
import ViewModifiers.Config.Configuration
import ViewModifiers.Config.Datum
import ViewModifiers.Config.Defaults
import ViewModifiers.Config.Document
import ViewModifiers.Config.Load
import ViewModifiers.Config.Scalar
import ViewModifiers.Dispatch.Arguments
import ViewModifiers.Dispatch.Dispatcher
import ViewModifiers.Dispatch.EnumReader
import ViewModifiers.Dispatch.Module
import ViewModifiers.Dispatch.ModuleFault
import ViewModifiers.Dispatch.ParsedModifier
import ViewModifiers.Dispatch.Target
import ViewModifiers.Emit.Chunk
import ViewModifiers.Emit.DispatcherCode
import ViewModifiers.Emit.EnumCode
import ViewModifiers.Emit.JsonValue
import ViewModifiers.Emit.ModuleCode
import ViewModifiers.Emit.Name
import ViewModifiers.Emit.Schema
import ViewModifiers.Emit.UnionCase
import ViewModifiers.Interface.AttributeReader
import ViewModifiers.Interface.Availability
import ViewModifiers.Interface.Declaration
import ViewModifiers.Interface.DeclarationReader
import ViewModifiers.Interface.Report
import ViewModifiers.Interface.Scanner
import ViewModifiers.Interface.SyntaxError
import ViewModifiers.Interface.Token
import ViewModifiers.Interface.TokenReader
import ViewModifiers.Interface.TypeExpr
import ViewModifiers.Interface.TypeReader
import ViewModifiers.Main
import ViewModifiers.Numeral.Binary64
import ViewModifiers.Numeral.Decimal
import ViewModifiers.Numeral.Exact
import ViewModifiers.Numeral.Integer
import ViewModifiers.Numeral.Shortest
import ViewModifiers.Proofs.Catalog.Candidates
import ViewModifiers.Proofs.Catalog.Closures
import ViewModifiers.Proofs.Catalog.Duplicates
import ViewModifiers.Proofs.Catalog.Enumeration
import ViewModifiers.Proofs.Catalog.Mapping
import ViewModifiers.Proofs.Catalog.Merging
import ViewModifiers.Proofs.Catalog.Partition
import ViewModifiers.Proofs.Catalog.Qualification
import ViewModifiers.Proofs.Catalog.Rearrangement
import ViewModifiers.Proofs.Catalog.Unplaced
import ViewModifiers.Proofs.Dispatch.Agreement
import ViewModifiers.Proofs.Dispatch.Alternatives
import ViewModifiers.Proofs.Dispatch.Application
import ViewModifiers.Proofs.Dispatch.Arguments
import ViewModifiers.Proofs.Dispatch.Blame
import ViewModifiers.Proofs.Dispatch.CallTokens
import ViewModifiers.Proofs.Dispatch.Chunking
import ViewModifiers.Proofs.Dispatch.Covering
import ViewModifiers.Proofs.Dispatch.DefaultHost
import ViewModifiers.Proofs.Dispatch.EnumReading
import ViewModifiers.Proofs.Dispatch.Following
import ViewModifiers.Proofs.Dispatch.GuardedCase
import ViewModifiers.Proofs.Dispatch.Isolation
import ViewModifiers.Proofs.Dispatch.ListOfCalls
import ViewModifiers.Proofs.Dispatch.Precedence
import ViewModifiers.Proofs.Dispatch.Resolved
import ViewModifiers.Proofs.Dispatch.Unavailable
import ViewModifiers.Proofs.Dispatch.VersionOrder
import ViewModifiers.Proofs.Emit.Groups
import ViewModifiers.Proofs.Interface.AttributesInStep
import ViewModifiers.Proofs.Interface.Availability
import ViewModifiers.Proofs.Interface.Blame
import ViewModifiers.Proofs.Interface.Bodies
import ViewModifiers.Proofs.Interface.Brackets
import ViewModifiers.Proofs.Interface.Conditional
import ViewModifiers.Proofs.Interface.DeclarationProgress
import ViewModifiers.Proofs.Interface.DeclarationsInStep
import ViewModifiers.Proofs.Interface.Dropped
import ViewModifiers.Proofs.Interface.Forms
import ViewModifiers.Proofs.Interface.FunctionReading
import ViewModifiers.Proofs.Interface.HeadingReading
import ViewModifiers.Proofs.Interface.InStep
import ViewModifiers.Proofs.Interface.Insertion
import ViewModifiers.Proofs.Interface.InterfaceReading
import ViewModifiers.Proofs.Interface.Locations
import ViewModifiers.Proofs.Interface.MemberReading
import ViewModifiers.Proofs.Interface.Piece
import ViewModifiers.Proofs.Interface.Progress
import ViewModifiers.Proofs.Interface.Qualification
import ViewModifiers.Proofs.Interface.ReaderBlame
import ViewModifiers.Proofs.Interface.Reading
import ViewModifiers.Proofs.Interface.Runs
import ViewModifiers.Proofs.Interface.Shape
import ViewModifiers.Proofs.Interface.Skipping
import ViewModifiers.Proofs.Interface.Spelling
import ViewModifiers.Proofs.Interface.Tiling
import ViewModifiers.Proofs.Interface.TypeParts
import ViewModifiers.Proofs.Interface.TypePieces
import ViewModifiers.Proofs.Interface.TypeProgress
import ViewModifiers.Proofs.Interface.TypeReading
import ViewModifiers.Proofs.Interface.TypesInStep
import ViewModifiers.Proofs.Interface.Written
import ViewModifiers.Proofs.Numeral.Digits
import ViewModifiers.Proofs.Stylesheet.Acceptance
import ViewModifiers.Proofs.Stylesheet.Alongside
import ViewModifiers.Proofs.Stylesheet.Blame
import ViewModifiers.Proofs.Stylesheet.Changeable
import ViewModifiers.Proofs.Stylesheet.Consumption
import ViewModifiers.Proofs.Stylesheet.Depth
import ViewModifiers.Proofs.Stylesheet.EnumValues
import ViewModifiers.Proofs.Stylesheet.Following
import ViewModifiers.Proofs.Stylesheet.Grammar
import ViewModifiers.Proofs.Stylesheet.History
import ViewModifiers.Proofs.Stylesheet.Locality
import ViewModifiers.Proofs.Stylesheet.Lookup
import ViewModifiers.Proofs.Stylesheet.Meaning
import ViewModifiers.Proofs.Stylesheet.Member
import ViewModifiers.Proofs.Stylesheet.Memory
import ViewModifiers.Proofs.Stylesheet.Piece
import ViewModifiers.Proofs.Stylesheet.Places
import ViewModifiers.Proofs.Stylesheet.ReferenceTypes
import ViewModifiers.Proofs.Stylesheet.References
import ViewModifiers.Proofs.Stylesheet.Registry
import ViewModifiers.Proofs.Stylesheet.Resolution
import ViewModifiers.Proofs.Stylesheet.Results
import ViewModifiers.Proofs.Stylesheet.Runs
import ViewModifiers.Proofs.Stylesheet.ScannedNumbers
import ViewModifiers.Proofs.Stylesheet.Shown
import ViewModifiers.Proofs.Stylesheet.Spelling
import ViewModifiers.Proofs.Stylesheet.StandardTypes
import ViewModifiers.Proofs.Stylesheet.Tiling
import ViewModifiers.Proofs.Stylesheet.TypeSpelling
import ViewModifiers.Proofs.Stylesheet.Typed
import ViewModifiers.Proofs.Stylesheet.Untyped
import ViewModifiers.Proofs.Text.Blank
import ViewModifiers.Proofs.Text.Digit
import ViewModifiers.Proofs.Text.NameTable
import ViewModifiers.Source.Excerpt
import ViewModifiers.Source.FileTree
import ViewModifiers.Source.Path
import ViewModifiers.Source.Position
import ViewModifiers.Stylesheet.Failure
import ViewModifiers.Stylesheet.Fault
import ViewModifiers.Stylesheet.Host
import ViewModifiers.Stylesheet.Reader
import ViewModifiers.Stylesheet.Registry
import ViewModifiers.Stylesheet.Scanner
import ViewModifiers.Stylesheet.Token
import ViewModifiers.Stylesheet.TypeSpelling
import ViewModifiers.Stylesheet.Typed
import ViewModifiers.Stylesheet.Untyped
import ViewModifiers.Stylesheet.Value
import ViewModifiers.Stylesheet.ValueSet
import ViewModifiers.Text.Blank
import ViewModifiers.Text.Decomposition
import ViewModifiers.Text.Digit
import ViewModifiers.Text.Identifier
import ViewModifiers.Text.Letter
import ViewModifiers.Text.NameSet
import ViewModifiers.Text.NameTable
import ViewModifiers.Text.NormalForm
import ViewModifiers.Text.Quoted
import ViewModifiers.Text.Ranges
import ViewModifiers.Text.Split
import ViewModifiers.Proofs.Catalog.Inheritance
import ViewModifiers.Proofs.Catalog.CaseLists
import ViewModifiers.Proofs.Catalog.Shadowing
import ViewModifiers.Proofs.Interface.OperatorScanning
import ViewModifiers.Proofs.Interface.OperatorReading
import ViewModifiers.Proofs.Source.Caret
import ViewModifiers.Proofs.Emit.MemberNames
import ViewModifiers.Proofs.Dispatch.EnumMembers
import ViewModifiers.Proofs.Config.Reporting
import ViewModifiers.Proofs.Interface.Simulation
import ViewModifiers.Proofs.Interface.Expressions
import ViewModifiers.Proofs.Interface.TypesAlike
import ViewModifiers.Proofs.Interface.Defaults
import ViewModifiers.Proofs.Interface.BracketGroups
import ViewModifiers.Proofs.Emit.FieldNames
import ViewModifiers.Proofs.Emit.StringTables
import ViewModifiers.Proofs.Interface.AvailabilityText
