import CodeRetrieval.Chunk.Basic
import CodeRetrieval.Chunk.Chunker
import CodeRetrieval.Chunk.DocComment
import CodeRetrieval.Chunk.Extraction
import CodeRetrieval.Chunk.Kind
import CodeRetrieval.Chunk.Stats
import CodeRetrieval.Chunk.Words
import CodeRetrieval.Data.Basic
import CodeRetrieval.Data.Json
import CodeRetrieval.Data.JsonText
import CodeRetrieval.Data.Moment
import CodeRetrieval.Data.Notation
import CodeRetrieval.Data.Number
import CodeRetrieval.Data.Table
import CodeRetrieval.Data.Toml
import CodeRetrieval.Decimal.Binary
import CodeRetrieval.Decimal.Fixed
import CodeRetrieval.Decimal.Reading
import CodeRetrieval.Decimal.Rounding
import CodeRetrieval.Decimal.Shortest
import CodeRetrieval.Document.Manifest
import CodeRetrieval.Document.Markdown
import CodeRetrieval.Document.Routing
import CodeRetrieval.Embedding.Batches
import CodeRetrieval.Embedding.Text
import CodeRetrieval.Engine.Basic
import CodeRetrieval.Engine.Compression
import CodeRetrieval.Engine.Index
import CodeRetrieval.Engine.Proxied
import CodeRetrieval.Engine.Selection
import CodeRetrieval.Grammar.Crate.Expressions
import CodeRetrieval.Grammar.Crate.Items
import CodeRetrieval.Grammar.Crate.Lexis
import CodeRetrieval.Grammar.Crate.Types
import CodeRetrieval.Grammar.Cursor
import CodeRetrieval.Grammar.Indented.Expressions
import CodeRetrieval.Grammar.Indented.Lexis
import CodeRetrieval.Grammar.Indented.Statements
import CodeRetrieval.Grammar.Lexicon
import CodeRetrieval.Grammar.Package.Declarations
import CodeRetrieval.Grammar.Package.Expressions
import CodeRetrieval.Grammar.Package.Lexis
import CodeRetrieval.Grammar.Package.Types
import CodeRetrieval.Grammar.Parse
import CodeRetrieval.Grammar.Script.Expressions
import CodeRetrieval.Grammar.Script.Lexis
import CodeRetrieval.Grammar.Script.Markup
import CodeRetrieval.Grammar.Script.Statements
import CodeRetrieval.Grammar.Script.Types
import CodeRetrieval.Graph.CallGraph
import CodeRetrieval.Graph.EntryPoint
import CodeRetrieval.Lexical.Index
import CodeRetrieval.Lexical.Tokens
import CodeRetrieval.Log.Level
import CodeRetrieval.Log.Notice
import CodeRetrieval.Log.Setup
import CodeRetrieval.Proofs.Chunk.CaseBoundary
import CodeRetrieval.Proofs.Chunk.Chunker
import CodeRetrieval.Proofs.Chunk.Classification
import CodeRetrieval.Proofs.Chunk.DocComment
import CodeRetrieval.Proofs.Chunk.Extraction
import CodeRetrieval.Proofs.Chunk.Identifier
import CodeRetrieval.Proofs.Chunk.Nesting
import CodeRetrieval.Proofs.Chunk.Order
import CodeRetrieval.Proofs.Chunk.Origin
import CodeRetrieval.Proofs.Chunk.Spacing
import CodeRetrieval.Proofs.Chunk.Version
import CodeRetrieval.Proofs.Data.Distinct
import CodeRetrieval.Proofs.Data.Json
import CodeRetrieval.Proofs.Data.JsonAtom
import CodeRetrieval.Proofs.Data.JsonBlanks
import CodeRetrieval.Proofs.Data.JsonQuoted
import CodeRetrieval.Proofs.Data.Results
import CodeRetrieval.Proofs.Data.Sorting
import CodeRetrieval.Proofs.Data.Table
import CodeRetrieval.Proofs.Data.Toml
import CodeRetrieval.Proofs.Data.Writing
import CodeRetrieval.Proofs.Document.Dependencies
import CodeRetrieval.Proofs.Document.HeadingWords
import CodeRetrieval.Proofs.Document.Headings
import CodeRetrieval.Proofs.Document.Manifest
import CodeRetrieval.Proofs.Document.Partition
import CodeRetrieval.Proofs.Document.Recut
import CodeRetrieval.Proofs.Document.Sections
import CodeRetrieval.Proofs.Embedding.Batches
import CodeRetrieval.Proofs.Embedding.Places
import CodeRetrieval.Proofs.Engine.Budget
import CodeRetrieval.Proofs.Engine.Build
import CodeRetrieval.Proofs.Engine.Compression
import CodeRetrieval.Proofs.Engine.Errors
import CodeRetrieval.Proofs.Engine.Figures
import CodeRetrieval.Proofs.Engine.History
import CodeRetrieval.Proofs.Engine.Manifests
import CodeRetrieval.Proofs.Engine.Narrowing
import CodeRetrieval.Proofs.Engine.Origin
import CodeRetrieval.Proofs.Engine.Search
import CodeRetrieval.Proofs.Engine.Units
import CodeRetrieval.Proofs.Graph.EntryPoint
import CodeRetrieval.Proofs.Graph.Layers
import CodeRetrieval.Proofs.Graph.Names
import CodeRetrieval.Proofs.Graph.Queue
import CodeRetrieval.Proofs.Graph.Reachability
import CodeRetrieval.Proofs.Graph.Tables
import CodeRetrieval.Proofs.Lexical.Index
import CodeRetrieval.Proofs.Lexical.Names
import CodeRetrieval.Proofs.Lexical.Retokenizing
import CodeRetrieval.Proofs.Lexical.Scores
import CodeRetrieval.Proofs.Lexical.Search
import CodeRetrieval.Proofs.Lexical.Tables
import CodeRetrieval.Proofs.Lexical.Tokens
import CodeRetrieval.Proofs.Proxy.Embeddings
import CodeRetrieval.Proofs.Ranking.Exact
import CodeRetrieval.Proofs.Ranking.Funnel
import CodeRetrieval.Proofs.Ranking.Fusion
import CodeRetrieval.Proofs.Ranking.Hybrid
import CodeRetrieval.Proofs.Ranking.Judging
import CodeRetrieval.Proofs.Ranking.Machine
import CodeRetrieval.Proofs.Ranking.Order
import CodeRetrieval.Proofs.Ranking.Reciprocal
import CodeRetrieval.Proofs.Ranking.Unanimity
import CodeRetrieval.Proofs.Ranking.Unusable
import CodeRetrieval.Proofs.Scoring.Answer
import CodeRetrieval.Proofs.Settings
import CodeRetrieval.Proofs.Syntax.Addresses
import CodeRetrieval.Proofs.Syntax.Ancestors
import CodeRetrieval.Proofs.Syntax.Callee
import CodeRetrieval.Proofs.Syntax.Descent
import CodeRetrieval.Proofs.Syntax.Nesting
import CodeRetrieval.Proofs.Syntax.Order
import CodeRetrieval.Proofs.Syntax.Walk
import CodeRetrieval.Proofs.Text.Blank
import CodeRetrieval.Proofs.Text.Case
import CodeRetrieval.Proofs.Text.Contains
import CodeRetrieval.Proofs.Text.Digit
import CodeRetrieval.Proofs.Text.Lines
import CodeRetrieval.Proofs.Text.Lowered
import CodeRetrieval.Proofs.Text.Runs
import CodeRetrieval.Proofs.Vector.Cosine
import CodeRetrieval.Proofs.Vector.Search
import CodeRetrieval.Proofs.Vector.Similarity
import CodeRetrieval.Proofs.Workspace.Loading
import CodeRetrieval.Proofs.Workspace.Tree
import CodeRetrieval.Proofs.Workspace.Walk
import CodeRetrieval.Proxy.Completion
import CodeRetrieval.Proxy.Embeddings
import CodeRetrieval.Proxy.Exchange
import CodeRetrieval.Ranking.Basic
import CodeRetrieval.Ranking.Funnel
import CodeRetrieval.Ranking.Fusion
import CodeRetrieval.Ranking.Hybrid
import CodeRetrieval.Ranking.Scalar
import CodeRetrieval.Scoring.Answer
import CodeRetrieval.Scoring.Model
import CodeRetrieval.Scoring.Prompt
import CodeRetrieval.Scoring.Relevance
import CodeRetrieval.Settings
import CodeRetrieval.Syntax.Callee
import CodeRetrieval.Syntax.Definition
import CodeRetrieval.Syntax.Language
import CodeRetrieval.Syntax.Roles
import CodeRetrieval.Syntax.Source
import CodeRetrieval.Syntax.Tree
import CodeRetrieval.Text.Alphanumeric
import CodeRetrieval.Text.Blank
import CodeRetrieval.Text.Case
import CodeRetrieval.Text.Digit
import CodeRetrieval.Text.Lines
import CodeRetrieval.Text.Printable
import CodeRetrieval.Text.Quoted
import CodeRetrieval.Text.Utf8
import CodeRetrieval.Vector.Cosine
import CodeRetrieval.Vector.Index
import CodeRetrieval.Workspace
import CodeRetrieval.Workspace.Listing
