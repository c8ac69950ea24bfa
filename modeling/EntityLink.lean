import EntityLink.Accessor
import EntityLink.Analysis
import EntityLink.Analysis.Json
import EntityLink.Augmentation
import EntityLink.Augmentation.Json
import EntityLink.BuildError
import EntityLink.Catalog
import EntityLink.Class.Decl
import EntityLink.Class.Entity
import EntityLink.Class.Field
import EntityLink.Class.Index
import EntityLink.Class.Json
import EntityLink.Class.Method
import EntityLink.Code.Grammar.Attribute
import EntityLink.Code.Grammar.Basic
import EntityLink.Code.Grammar.Bound
import EntityLink.Code.Grammar.Declaration
import EntityLink.Code.Grammar.Expression
import EntityLink.Code.Grammar.Item
import EntityLink.Code.Grammar.Path
import EntityLink.Code.Grammar.Pattern
import EntityLink.Code.Grammar.Statement
import EntityLink.Code.Grammar.Type
import EntityLink.Code.Identifier
import EntityLink.Code.Lexer
import EntityLink.Code.Literal
import EntityLink.Code.Path
import EntityLink.Code.Reader
import EntityLink.Code.Token
import EntityLink.Config
import EntityLink.Config.Json
import EntityLink.Emission
import EntityLink.ErrorTree
import EntityLink.Generation
import EntityLink.IndexCreation
import EntityLink.IndexCreation.Json
import EntityLink.Json
import EntityLink.Json.Magnitude
import EntityLink.Json.Printer
import EntityLink.Json.Reader
import EntityLink.Keyed
import EntityLink.Model
import EntityLink.ModelSet
import EntityLink.ObjectId
import EntityLink.ObjectId.Json
import EntityLink.Proofs.Accessor.GetterNames
import EntityLink.Proofs.Analysis.EntitySet
import EntityLink.Proofs.Analysis.IndexKeys
import EntityLink.Proofs.Analysis.Locality
import EntityLink.Proofs.Analysis.Overrides
import EntityLink.Proofs.Analysis.Replacements
import EntityLink.Proofs.Class.Acyclic
import EntityLink.Proofs.Class.Chain
import EntityLink.Proofs.Class.Extension
import EntityLink.Proofs.Class.RoundTrip
import EntityLink.Proofs.Class.Subclasses
import EntityLink.Proofs.Class.Superclasses
import EntityLink.Proofs.ErrorTree.Gathering
import EntityLink.Proofs.ErrorTree.Messages
import EntityLink.Proofs.ErrorTree.Size
import EntityLink.Proofs.Failures
import EntityLink.Proofs.Generation.AddedMembers
import EntityLink.Proofs.Generation.BreakOff
import EntityLink.Proofs.Generation.Checks
import EntityLink.Proofs.Generation.Consistency
import EntityLink.Proofs.Generation.EmittedItems
import EntityLink.Proofs.Generation.HolderContainer
import EntityLink.Proofs.Generation.ItemNames
import EntityLink.Proofs.Generation.Stages
import EntityLink.Proofs.IndexCreation.Calls
import EntityLink.Proofs.Model.Assembly
import EntityLink.Proofs.Model.Building
import EntityLink.Proofs.Model.Declaration
import EntityLink.Proofs.Model.FieldOrder
import EntityLink.Proofs.Model.HolderDeclaration
import EntityLink.Proofs.Model.Pairing
import EntityLink.Proofs.ObjectId.Hexadecimal
import EntityLink.Proofs.ObjectId.Order
import EntityLink.Proofs.Registry.Runs
import EntityLink.Proofs.Resolution.Binding
import EntityLink.Proofs.Resolution.ClassFields
import EntityLink.Proofs.Resolution.Extension
import EntityLink.Proofs.Resolution.FieldOutcome
import EntityLink.Proofs.Resolution.Layout
import EntityLink.Proofs.Resolution.Wrapping
import EntityLink.Proofs.Store.Check
import EntityLink.Proofs.Store.Disagreement
import EntityLink.Proofs.Store.Runs
import EntityLink.Proofs.Sync.Agreement
import EntityLink.Proofs.Sync.Matching
import EntityLink.Proofs.Sync.Outcome
import EntityLink.Proofs.Sync.Reconciliation
import EntityLink.Proofs.Sync.RoundTrip
import EntityLink.Proofs.Text.PlainNames
import EntityLink.Proofs.Traversal
import EntityLink.Proofs.Validation.Report
import EntityLink.Proofs.Validation.Violations
import EntityLink.Registry
import EntityLink.Replacement
import EntityLink.Resolution.Classification
import EntityLink.Resolution.ModelField
import EntityLink.Resolution.Resolver
import EntityLink.Resolution.Unwrapped
import EntityLink.Store.Order
import EntityLink.Store.Order.Json
import EntityLink.Store.Scan
import EntityLink.Sync
import EntityLink.Text.Blank
import EntityLink.Text.Case
import EntityLink.Text.CaseTable
import EntityLink.Text.CodeSet
import EntityLink.Text.Grapheme
import EntityLink.Text.GraphemeClass
import EntityLink.Text.IdentifierChar
import EntityLink.Text.Letter
import EntityLink.Text.Printable
import EntityLink.Text.Quoted
import EntityLink.Text.Words
import EntityLink.Toml.Document
import EntityLink.Toml.Lexical
import EntityLink.Toml.Scalar
import EntityLink.Toml.Table
import EntityLink.TypeRef
import EntityLink.TypeRef.Json
import EntityLink.Validation
