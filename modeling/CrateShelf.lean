import CrateShelf.Browse
import CrateShelf.Bytes
import CrateShelf.CommandLine.Arguments
import CrateShelf.CommandLine.Run
import CrateShelf.CommandLine.ShellWords
import CrateShelf.CrateId
import CrateShelf.Depths
import CrateShelf.Digest
import CrateShelf.Disk.Change
import CrateShelf.Disk.FileTree
import CrateShelf.Disk.Path
import CrateShelf.Docs.Literal
import CrateShelf.Docs.Note
import CrateShelf.Double
import CrateShelf.Fault
import CrateShelf.FileName
import CrateShelf.Finder.Catalog
import CrateShelf.Finder.EditDistance
import CrateShelf.Finder.Ranking
import CrateShelf.Finder.Screen
import CrateShelf.Finder.Search
import CrateShelf.Finder.Window
import CrateShelf.Highlight.Rust
import CrateShelf.Highlight.Shade
import CrateShelf.Indexing
import CrateShelf.ItemPath
import CrateShelf.Kind
import CrateShelf.Label
import CrateShelf.Location
import CrateShelf.Log
import CrateShelf.Main
import CrateShelf.Manifest
import CrateShelf.Markdown.Block
import CrateShelf.Markdown.Code
import CrateShelf.Markdown.Inline
import CrateShelf.Markdown.Render
import CrateShelf.Pack.Format
import CrateShelf.Pack.Instant
import CrateShelf.Pack.Value
import CrateShelf.Page
import CrateShelf.Proofs.Disk.FileTree
import CrateShelf.Proofs.Disk.Growth
import CrateShelf.Proofs.Disk.Reach
import CrateShelf.Proofs.Disk.Settled
import CrateShelf.Proofs.Disk.Site
import CrateShelf.Proofs.Disk.Sparing
import CrateShelf.Proofs.Docs.Literal
import CrateShelf.Proofs.Docs.Spelling
import CrateShelf.Proofs.FileName
import CrateShelf.Proofs.Finder.Catalog
import CrateShelf.Proofs.Finder.EditDistance
import CrateShelf.Proofs.Finder.Heap
import CrateShelf.Proofs.Finder.Matching
import CrateShelf.Proofs.Finder.Ranking
import CrateShelf.Proofs.Finder.Screen
import CrateShelf.Proofs.Finder.Session
import CrateShelf.Proofs.Finder.Window
import CrateShelf.Proofs.Highlight.Shade
import CrateShelf.Proofs.Indexing.Crate
import CrateShelf.Proofs.Indexing.Registry
import CrateShelf.Proofs.ItemPath
import CrateShelf.Proofs.Job
import CrateShelf.Proofs.Location.Naming
import CrateShelf.Proofs.Location.Order
import CrateShelf.Proofs.Markdown.Block
import CrateShelf.Proofs.Markdown.Code
import CrateShelf.Proofs.Markdown.Layout
import CrateShelf.Proofs.Markdown.Render
import CrateShelf.Proofs.Outcome
import CrateShelf.Proofs.Pack.Number
import CrateShelf.Proofs.Pack.RoundTrip
import CrateShelf.Proofs.Record.Form
import CrateShelf.Proofs.Record.Index
import CrateShelf.Proofs.Record.Misfit
import CrateShelf.Proofs.Record.Payload
import CrateShelf.Proofs.Record.RoundTrip
import CrateShelf.Proofs.Settings.Keyed
import CrateShelf.Proofs.Settings.Merge
import CrateShelf.Proofs.StableSort
import CrateShelf.Proofs.Store.Apart
import CrateShelf.Proofs.Store.Forms
import CrateShelf.Proofs.Store.History
import CrateShelf.Proofs.Store.Keywords
import CrateShelf.Proofs.Store.Lookup
import CrateShelf.Proofs.Store.Newest
import CrateShelf.Proofs.Store.Place
import CrateShelf.Proofs.Store.Precedence
import CrateShelf.Proofs.Store.Recovery
import CrateShelf.Proofs.Store.Sharing
import CrateShelf.Proofs.Store.Shelf
import CrateShelf.Proofs.Store.Survey
import CrateShelf.Proofs.Store.Writing
import CrateShelf.Proofs.Terminal.Carry
import CrateShelf.Proofs.Terminal.Cut
import CrateShelf.Proofs.Terminal.Styled
import CrateShelf.Proofs.Terminal.Wrap
import CrateShelf.Proofs.Tree.Agreeing
import CrateShelf.Proofs.Tree.Attaching
import CrateShelf.Proofs.Tree.Bare
import CrateShelf.Proofs.Tree.Declared
import CrateShelf.Proofs.Tree.Dropping
import CrateShelf.Proofs.Tree.Files
import CrateShelf.Proofs.Tree.Hiding
import CrateShelf.Proofs.Tree.Index
import CrateShelf.Proofs.Tree.Inside
import CrateShelf.Proofs.Tree.Keys
import CrateShelf.Proofs.Tree.Leaves
import CrateShelf.Proofs.Tree.Linking
import CrateShelf.Proofs.Tree.Locating
import CrateShelf.Proofs.Tree.Moved
import CrateShelf.Proofs.Tree.Naming
import CrateShelf.Proofs.Tree.Nesting
import CrateShelf.Proofs.Tree.Parts
import CrateShelf.Proofs.Tree.Reading
import CrateShelf.Proofs.Tree.Refusal
import CrateShelf.Proofs.Tree.Removal
import CrateShelf.Proofs.Tree.Root
import CrateShelf.Proofs.Tree.Scope
import CrateShelf.Proofs.Tree.Storage
import CrateShelf.Proofs.Tree.Thinning
import CrateShelf.Proofs.Tree.TypeName
import CrateShelf.Proofs.Tree.Visiting
import CrateShelf.Proofs.Version.Precedence
import CrateShelf.Proofs.Version.Semantic
import CrateShelf.Record.Attribute
import CrateShelf.Record.Basic
import CrateShelf.Record.Codec
import CrateShelf.Record.Payload
import CrateShelf.Record.Schema
import CrateShelf.Settings.Config
import CrateShelf.Settings.Value
import CrateShelf.Settings.Yaml
import CrateShelf.Source.Automaton.Core
import CrateShelf.Source.Automaton.Item
import CrateShelf.Source.Automaton.Merge
import CrateShelf.Source.Automaton.State
import CrateShelf.Source.Automaton.Table
import CrateShelf.Source.Automaton.TokenSet
import CrateShelf.Source.Branch
import CrateShelf.Source.Charset
import CrateShelf.Source.Declaration
import CrateShelf.Source.Declare
import CrateShelf.Source.Extent
import CrateShelf.Source.File
import CrateShelf.Source.Grammar.Basic
import CrateShelf.Source.Grammar.Expression
import CrateShelf.Source.Grammar.File
import CrateShelf.Source.Grammar.Item
import CrateShelf.Source.Grammar.Literal
import CrateShelf.Source.Grammar.Type
import CrateShelf.Source.Lexeme
import CrateShelf.Source.Lexing.Clash
import CrateShelf.Source.Lexing.Glance
import CrateShelf.Source.Lexing.Machine
import CrateShelf.Source.Lexing.Scan
import CrateShelf.Source.ParseTree
import CrateShelf.Source.Parsing.Rank
import CrateShelf.Source.Parsing.Recover
import CrateShelf.Source.Parsing.Reduce
import CrateShelf.Source.Parsing.Run
import CrateShelf.Source.Parsing.Stack
import CrateShelf.Source.Parsing.Token
import CrateShelf.Source.Rule
import CrateShelf.Source.Vocabulary
import CrateShelf.Store.Basic
import CrateShelf.Store.Lookup
import CrateShelf.Store.Place
import CrateShelf.Terminal.Styled
import CrateShelf.Terminal.Wrap
import CrateShelf.Text.Blank
import CrateShelf.Text.Casing
import CrateShelf.Text.CharClass
import CrateShelf.Text.Identifier
import CrateShelf.Text.Lines
import CrateShelf.Text.Number
import CrateShelf.Text.Quoted
import CrateShelf.Text.Split
import CrateShelf.Text.Wide
import CrateShelf.Toml.Document
import CrateShelf.Toml.Scalar
import CrateShelf.Toml.Value
import CrateShelf.Tree.Flatten
import CrateShelf.Tree.Item
import CrateShelf.Tree.Resolve
import CrateShelf.Tree.TypeName
import CrateShelf.Tree.UseTable
import CrateShelf.Tree.Visit
import CrateShelf.Version
import CrateShelf.World
import CrateShelf.Yaml.Cursor
import CrateShelf.Yaml.Fault
import CrateShelf.Yaml.Node
import CrateShelf.Yaml.Plain
import CrateShelf.Yaml.Scalar
import CrateShelf.Yaml.Token
