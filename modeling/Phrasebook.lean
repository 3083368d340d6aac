import Phrasebook.Command.Arguments
import Phrasebook.Command.Extract
import Phrasebook.Command.Shared
import Phrasebook.Command.Wrap
import Phrasebook.Decimal.Double
import Phrasebook.Decimal.Number
import Phrasebook.Diff.Matching
import Phrasebook.Diff.Unified
import Phrasebook.Fault
import Phrasebook.Files.Braces
import Phrasebook.Files.Digest
import Phrasebook.Files.Discover
import Phrasebook.Files.FilePath
import Phrasebook.Files.Lookup
import Phrasebook.Files.Store
import Phrasebook.Files.Wildcard
import Phrasebook.Files.Write
import Phrasebook.Json.Access
import Phrasebook.Json.Basic
import Phrasebook.Json.Reader
import Phrasebook.Json.Writer
import Phrasebook.Keys.Extract
import Phrasebook.Keys.Locale
import Phrasebook.Literal.CharRef
import Phrasebook.Literal.CharRefNames
import Phrasebook.Literal.Escape
import Phrasebook.Literal.Exclusion
import Phrasebook.Literal.Value
import Phrasebook.Log
import Phrasebook.Main
import Phrasebook.Parse.Answer
import Phrasebook.Parse.Record
import Phrasebook.Proofs.Diff.Blocks
import Phrasebook.Proofs.Diff.Faithful
import Phrasebook.Proofs.Diff.Hunks
import Phrasebook.Proofs.Diff.Patch
import Phrasebook.Proofs.Files.Discover
import Phrasebook.Proofs.Files.Expansion
import Phrasebook.Proofs.Files.Faults
import Phrasebook.Proofs.Files.Ignored
import Phrasebook.Proofs.Files.Lookup
import Phrasebook.Proofs.Files.Write
import Phrasebook.Proofs.Json.Characters
import Phrasebook.Proofs.Keys.Emitted
import Phrasebook.Proofs.Keys.Extraction
import Phrasebook.Proofs.Keys.Index
import Phrasebook.Proofs.Keys.Merging
import Phrasebook.Proofs.Keys.Table
import Phrasebook.Proofs.Lists
import Phrasebook.Proofs.Literal.Escapes
import Phrasebook.Proofs.Literal.Unreadable
import Phrasebook.Proofs.Literal.Verbatim
import Phrasebook.Proofs.Log
import Phrasebook.Proofs.Parse.Refusal
import Phrasebook.Proofs.Run.Backup
import Phrasebook.Proofs.Run.Batch
import Phrasebook.Proofs.Run.Containment
import Phrasebook.Proofs.Run.Course
import Phrasebook.Proofs.Run.Effect
import Phrasebook.Proofs.Run.Harvest
import Phrasebook.Proofs.Run.Locales
import Phrasebook.Proofs.Run.Session
import Phrasebook.Proofs.Scope.Names
import Phrasebook.Proofs.Scope.Patterns
import Phrasebook.Proofs.Scope.Routes
import Phrasebook.Proofs.Text.Cuts
import Phrasebook.Proofs.Text.Lines
import Phrasebook.Proofs.Text.Scalar
import Phrasebook.Proofs.Text.Utf8
import Phrasebook.Proofs.Tree.Cells
import Phrasebook.Proofs.Tree.Context
import Phrasebook.Proofs.Tree.Edits
import Phrasebook.Proofs.Tree.Frames
import Phrasebook.Proofs.Tree.Holding
import Phrasebook.Proofs.Tree.Landing
import Phrasebook.Proofs.Tree.Leading
import Phrasebook.Proofs.Tree.Operations
import Phrasebook.Proofs.Tree.Order
import Phrasebook.Proofs.Tree.Outline
import Phrasebook.Proofs.Tree.Parsed
import Phrasebook.Proofs.Tree.Paths
import Phrasebook.Proofs.Tree.Pieces
import Phrasebook.Proofs.Tree.Preorder
import Phrasebook.Proofs.Tree.Printing
import Phrasebook.Proofs.Tree.Prints
import Phrasebook.Proofs.Tree.Regions
import Phrasebook.Proofs.Tree.Simulation
import Phrasebook.Proofs.Tree.Splicing
import Phrasebook.Proofs.Tree.Sturdy
import Phrasebook.Proofs.Tree.Tidy
import Phrasebook.Proofs.Tree.Tiling
import Phrasebook.Proofs.Wrap.Around
import Phrasebook.Proofs.Wrap.Binding
import Phrasebook.Proofs.Wrap.Bodies
import Phrasebook.Proofs.Wrap.Clauses
import Phrasebook.Proofs.Wrap.Completeness
import Phrasebook.Proofs.Wrap.Echo
import Phrasebook.Proofs.Wrap.Exclusion
import Phrasebook.Proofs.Wrap.Finishing
import Phrasebook.Proofs.Wrap.Fixpoint
import Phrasebook.Proofs.Wrap.Fusing
import Phrasebook.Proofs.Wrap.Ignoring
import Phrasebook.Proofs.Wrap.Importable
import Phrasebook.Proofs.Wrap.Imports
import Phrasebook.Proofs.Wrap.Injection
import Phrasebook.Proofs.Wrap.Interpolation
import Phrasebook.Proofs.Wrap.Locality
import Phrasebook.Proofs.Wrap.Module
import Phrasebook.Proofs.Wrap.Naming
import Phrasebook.Proofs.Wrap.NewText
import Phrasebook.Proofs.Wrap.Ordering
import Phrasebook.Proofs.Wrap.Orderly
import Phrasebook.Proofs.Wrap.Places
import Phrasebook.Proofs.Wrap.Reached
import Phrasebook.Proofs.Wrap.Receiving
import Phrasebook.Proofs.Wrap.Repetition
import Phrasebook.Proofs.Wrap.Rereading
import Phrasebook.Proofs.Wrap.Rewalk
import Phrasebook.Proofs.Wrap.Rewriting
import Phrasebook.Proofs.Wrap.Scoping
import Phrasebook.Proofs.Wrap.Sharing
import Phrasebook.Proofs.Wrap.Shown
import Phrasebook.Proofs.Wrap.Situation
import Phrasebook.Proofs.Wrap.Splice
import Phrasebook.Proofs.Wrap.Stack
import Phrasebook.Proofs.Wrap.Stages
import Phrasebook.Proofs.Wrap.Surroundings
import Phrasebook.Proofs.Wrap.Template
import Phrasebook.Proofs.Wrap.Tidiness
import Phrasebook.Proofs.Wrap.Totality
import Phrasebook.Proofs.Wrap.Twice
import Phrasebook.Proofs.Wrap.Unwinding
import Phrasebook.Proofs.Wrap.Visit
import Phrasebook.Proofs.Wrap.Walked
import Phrasebook.Query.Literals
import Phrasebook.Query.Output
import Phrasebook.Run.Batch
import Phrasebook.Run.Harvest
import Phrasebook.Run.Session
import Phrasebook.Scope.Bindings
import Phrasebook.Scope.Functions
import Phrasebook.Script.CharSet
import Phrasebook.Script.Escape
import Phrasebook.Script.Pattern
import Phrasebook.Script.Reader
import Phrasebook.Script.Resolve
import Phrasebook.Script.Search
import Phrasebook.Script.Source
import Phrasebook.Script.Syntax
import Phrasebook.Settings.Basic
import Phrasebook.Settings.File
import Phrasebook.Settings.Resolve
import Phrasebook.Text.Basic
import Phrasebook.Text.Casing
import Phrasebook.Text.CharName
import Phrasebook.Text.CharName.AToB
import Phrasebook.Text.CharName.C
import Phrasebook.Text.CharName.DToG
import Phrasebook.Text.CharName.Group
import Phrasebook.Text.CharName.HToL
import Phrasebook.Text.CharName.MToO
import Phrasebook.Text.CharName.PToS
import Phrasebook.Text.CharName.Singular
import Phrasebook.Text.CharName.TToZ
import Phrasebook.Text.Identifier
import Phrasebook.Text.Letter
import Phrasebook.Text.Lines
import Phrasebook.Text.Quoted
import Phrasebook.Text.Utf8
import Phrasebook.Timing.Monitor
import Phrasebook.Timing.Watch
import Phrasebook.Tree.Arena
import Phrasebook.Tree.Edit
import Phrasebook.Tree.Editing
import Phrasebook.Tree.Focus
import Phrasebook.Tree.Node
import Phrasebook.Tree.Render
import Phrasebook.Tree.Weight
import Phrasebook.Wrap.Binding
import Phrasebook.Wrap.Call
import Phrasebook.Wrap.Header
import Phrasebook.Wrap.Module
import Phrasebook.Wrap.Pass
import Phrasebook.Wrap.Placeholder
