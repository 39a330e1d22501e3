import GoAtlas.Architecture
import GoAtlas.CallGraph.Build
import GoAtlas.CallGraph.Events
import GoAtlas.CallGraph.Graph
import GoAtlas.CallGraph.Kinds
import GoAtlas.CallGraph.Walk
import GoAtlas.CallGraph.Written
import GoAtlas.CommandLine.Arguments
import GoAtlas.CommandLine.Run
import GoAtlas.Config
import GoAtlas.Contexts
import GoAtlas.Contexts.Reader
import GoAtlas.Document
import GoAtlas.FileTree
import GoAtlas.Glob
import GoAtlas.Go.Calls
import GoAtlas.Go.Grammar.Expressions
import GoAtlas.Go.Grammar.Files
import GoAtlas.Go.Grammar.Parser
import GoAtlas.Go.Grammar.Statements
import GoAtlas.Go.Grammar.Types
import GoAtlas.Go.Lexer
import GoAtlas.Go.Names
import GoAtlas.Go.SourceUnit
import GoAtlas.Go.Token
import GoAtlas.Go.Tree
import GoAtlas.Go.TypeReference
import GoAtlas.Index
import GoAtlas.Indexing
import GoAtlas.Json.Printer
import GoAtlas.Json.Token
import GoAtlas.Json.Value
import GoAtlas.Main
import GoAtlas.PackageId
import GoAtlas.Proofs.Architecture.Calls
import GoAtlas.Proofs.Architecture.Containment
import GoAtlas.Proofs.Architecture.Identifiers
import GoAtlas.Proofs.Architecture.Integrity
import GoAtlas.Proofs.Architecture.SelfLinks
import GoAtlas.Proofs.CallGraph.Agreement
import GoAtlas.Proofs.CallGraph.BareNames
import GoAtlas.Proofs.CallGraph.Batches
import GoAtlas.Proofs.CallGraph.Classification
import GoAtlas.Proofs.CallGraph.Completeness
import GoAtlas.Proofs.CallGraph.Cycles
import GoAtlas.Proofs.CallGraph.Discovery
import GoAtlas.Proofs.CallGraph.Edges
import GoAtlas.Proofs.CallGraph.Evaluation
import GoAtlas.Proofs.CallGraph.Events
import GoAtlas.Proofs.CallGraph.Nesting
import GoAtlas.Proofs.CallGraph.Order
import GoAtlas.Proofs.CallGraph.Origins
import GoAtlas.Proofs.CallGraph.Reachability
import GoAtlas.Proofs.CallGraph.ReceiverNames
import GoAtlas.Proofs.CallGraph.Reordering
import GoAtlas.Proofs.CallGraph.Statistics
import GoAtlas.Proofs.CallGraph.Steps
import GoAtlas.Proofs.CallGraph.Targets
import GoAtlas.Proofs.CallGraph.WellFormed
import GoAtlas.Proofs.Calls.Alike
import GoAtlas.Proofs.Calls.Capture
import GoAtlas.Proofs.Calls.Outline
import GoAtlas.Proofs.Calls.Paths
import GoAtlas.Proofs.Calls.Records
import GoAtlas.Proofs.Calls.Sites
import GoAtlas.Proofs.CommandLine.Configuration
import GoAtlas.Proofs.CommandLine.Presentation
import GoAtlas.Proofs.Comments.Calls
import GoAtlas.Proofs.Comments.Insertion
import GoAtlas.Proofs.Comments.Sources
import GoAtlas.Proofs.Comments.Units
import GoAtlas.Proofs.Contexts.Validation
import GoAtlas.Proofs.Index.Callables
import GoAtlas.Proofs.Index.Consistency
import GoAtlas.Proofs.Index.Declarations
import GoAtlas.Proofs.Index.Directories
import GoAtlas.Proofs.Index.History
import GoAtlas.Proofs.Index.PackageIds
import GoAtlas.Proofs.Index.References
import GoAtlas.Proofs.Index.Registration
import GoAtlas.Proofs.Index.Reordering
import GoAtlas.Proofs.Index.Tables
import GoAtlas.Proofs.Index.TrailingSegments
import GoAtlas.Proofs.Json.Lexemes
import GoAtlas.Proofs.Json.Printing
import GoAtlas.Proofs.Json.Values
import GoAtlas.Proofs.Names.Calls
import GoAtlas.Proofs.Names.Grammar.Expressions
import GoAtlas.Proofs.Names.Grammar.Files
import GoAtlas.Proofs.Names.Grammar.Statements
import GoAtlas.Proofs.Names.Grammar.Types
import GoAtlas.Proofs.Names.Imports
import GoAtlas.Proofs.Names.Index
import GoAtlas.Proofs.Names.Lexemes
import GoAtlas.Proofs.Names.Members
import GoAtlas.Proofs.Names.Parsers
import GoAtlas.Proofs.Names.Units
import GoAtlas.Proofs.Resolver.Accuracy
import GoAtlas.Proofs.Resolver.BareNames
import GoAtlas.Proofs.Resolver.Classification
import GoAtlas.Proofs.Resolver.Implementations
import GoAtlas.Proofs.Resolver.Imports
import GoAtlas.Proofs.Resolver.Kinds
import GoAtlas.Proofs.Resolver.MethodSets
import GoAtlas.Proofs.Resolver.NestedSearches
import GoAtlas.Proofs.Resolver.Promotion
import GoAtlas.Proofs.Resolver.ReceiverNames
import GoAtlas.Proofs.Resolver.Targets
import GoAtlas.Proofs.Text.ByteOrder
import GoAtlas.Proofs.Text.Numerals
import GoAtlas.Proofs.Text.PathParts
import GoAtlas.Proofs.Text.Paths
import GoAtlas.Proofs.Text.Separators
import GoAtlas.Proofs.Text.Utf8
import GoAtlas.Resolver.Calls
import GoAtlas.Resolver.Implementations
import GoAtlas.Resolver.TypeNames
import GoAtlas.Symbol
import GoAtlas.Table
import GoAtlas.Text.CharSet
import GoAtlas.Text.Identifier
import GoAtlas.Text.Numeral
import GoAtlas.Text.Pieces
import GoAtlas.Text.Quoted
import GoAtlas.Text.Utf8
import GoAtlas.Unseen
import GoAtlas.Yaml.Characters
import GoAtlas.Yaml.Cursor
import GoAtlas.Yaml.Node
import GoAtlas.Yaml.Node.Reader
import GoAtlas.Yaml.Plain
import GoAtlas.Yaml.Printer
import GoAtlas.Yaml.Token
import GoAtlas.Yaml.Token.Properties
import GoAtlas.Yaml.Token.Scalars
import GoAtlas.Yaml.Token.Scanner
