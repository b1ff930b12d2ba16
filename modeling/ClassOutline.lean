import ClassOutline.Catalog.Basic
import ClassOutline.Catalog.Pool
import ClassOutline.Catalog.Reading
import ClassOutline.Catalog.Site
import ClassOutline.Concrete.Fault
import ClassOutline.Concrete.Lowering
import ClassOutline.Concrete.Members
import ClassOutline.Concrete.Tree
import ClassOutline.Config.Environment
import ClassOutline.Config.Integer
import ClassOutline.Config.Loading
import ClassOutline.Config.Settings
import ClassOutline.Config.VariableFile
import ClassOutline.Decimal.Binary64
import ClassOutline.Decimal.Layout
import ClassOutline.Decimal.Shortest
import ClassOutline.Files.Listing
import ClassOutline.Files.Path
import ClassOutline.Files.Tree
import ClassOutline.Json.Print
import ClassOutline.Log.Record
import ClassOutline.Log.Setup
import ClassOutline.Main
import ClassOutline.Outline.Filter
import ClassOutline.Outline.Reduce
import ClassOutline.Outline.Summary
import ClassOutline.Php.Brackets
import ClassOutline.Php.Grammar
import ClassOutline.Php.Grammar.Basic
import ClassOutline.Php.Grammar.Declarations
import ClassOutline.Php.Grammar.Expressions
import ClassOutline.Php.Grammar.Statements
import ClassOutline.Php.Lexer
import ClassOutline.Php.Numeral
import ClassOutline.Php.Peg
import ClassOutline.Php.Source
import ClassOutline.Php.Token
import ClassOutline.Proofs.DeferredLowering
import ClassOutline.Proofs.Preorder
import ClassOutline.Report.Metric
import ClassOutline.Service.Action
import ClassOutline.Service.CommandLine
import ClassOutline.Service.Http
import ClassOutline.Service.Program
import ClassOutline.Service.Workspace
import ClassOutline.Syntax.Kind
import ClassOutline.Syntax.Modifiers
import ClassOutline.Syntax.Tree
import ClassOutline.Syntax.TypeGraph
import ClassOutline.Syntax.TypeName
import ClassOutline.Syntax.TypeText
import ClassOutline.Syntax.Walk
import ClassOutline.Text.Basic
import ClassOutline.Text.Case
import ClassOutline.Text.CaseTable
import ClassOutline.Text.Printable
import ClassOutline.Text.Quoted
import ClassOutline.Text.Utf8
import ClassOutline.Proofs.LoweredGrammar
import ClassOutline.Proofs.SearchedRegion
import ClassOutline.Proofs.FileTree
import ClassOutline.Proofs.DirectoryCatalog
import ClassOutline.Proofs.ConcurrentCatalog
import ClassOutline.Proofs.LayoutIndependence
import ClassOutline.Proofs.SettingsMemo
import ClassOutline.Proofs.TransportAgreement
import ClassOutline.Proofs.FaultSearch
import ClassOutline.Proofs.LogRouting
import ClassOutline.Proofs.FlatTypes
import ClassOutline.Proofs.RequestLog
import ClassOutline.Proofs.RelatedLists
import ClassOutline.Proofs.MemberOrder
import ClassOutline.Proofs.PublicMembers
import ClassOutline.Proofs.CommentedTypes
import ClassOutline.Proofs.GraphUnfolding
import ClassOutline.Proofs.InterfaceClauses
import ClassOutline.Proofs.MemberModifiers
import ClassOutline.Proofs.FileListing
import ClassOutline.Proofs.PathDispatch
import ClassOutline.Proofs.PathSpelling
import ClassOutline.Proofs.VariableLoading
import ClassOutline.Proofs.TextLaws
import ClassOutline.Proofs.IntegerLiterals
import ClassOutline.Proofs.ExtensionLists
import ClassOutline.Proofs.FaultTokens
import ClassOutline.Proofs.ArgumentLists
import ClassOutline.Proofs.FailedSetup
import ClassOutline.Proofs.RefusedMethods
import ClassOutline.Proofs.RoundedMeasures
import ClassOutline.Text.Raw
import ClassOutline.Service.Exchange
import ClassOutline.Proofs.RawTexts
import ClassOutline.Proofs.VariableBindings
import ClassOutline.Proofs.ProgramRuns
import ClassOutline.Proofs.JsonReading
import ClassOutline.Proofs.JsonRoundTrip
import ClassOutline.Proofs.WorkerPool
import ClassOutline.Proofs.UntouchedFiles
import ClassOutline.Proofs.NearestNumbers
import ClassOutline.Proofs.ShortestDecimals
import ClassOutline.Proofs.PositionalText
