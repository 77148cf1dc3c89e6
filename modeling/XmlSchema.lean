import XmlSchema.CommandLine
import XmlSchema.CommandLine.Reader
import XmlSchema.Component.Basic
import XmlSchema.Component.Particle
import XmlSchema.Component.Reader
import XmlSchema.Component.Types
import XmlSchema.Content.Automaton
import XmlSchema.Content.Model
import XmlSchema.Datatype.Basic
import XmlSchema.Datatype.Binary64
import XmlSchema.Datatype.Builtin
import XmlSchema.Datatype.Lexical
import XmlSchema.Datatype.Value
import XmlSchema.Diagnostic
import XmlSchema.Discovery
import XmlSchema.Discovery.Glob
import XmlSchema.Discovery.Ignore
import XmlSchema.Files.Basic
import XmlSchema.Files.Tree
import XmlSchema.Json.Basic
import XmlSchema.Json.Printer
import XmlSchema.Json.Reader
import XmlSchema.Json.Record
import XmlSchema.LanguageServer
import XmlSchema.LanguageServer.Message
import XmlSchema.LanguageServer.Session
import XmlSchema.LanguageServer.Transport
import XmlSchema.Location
import XmlSchema.Main
import XmlSchema.Name
import XmlSchema.Output
import XmlSchema.Path
import XmlSchema.Pattern.Basic
import XmlSchema.Pattern.Expr
import XmlSchema.Pattern.Property
import XmlSchema.Pattern.Reader
import XmlSchema.Pattern.Size
import XmlSchema.Program
import XmlSchema.Proofs.Component.Consistency
import XmlSchema.Proofs.Component.Identity
import XmlSchema.Proofs.Component.Naming
import XmlSchema.Proofs.Component.Parts
import XmlSchema.Proofs.Content.AllGroups
import XmlSchema.Proofs.Content.Closure
import XmlSchema.Proofs.Content.Exactness
import XmlSchema.Proofs.Content.Expectation
import XmlSchema.Proofs.Content.Exposure
import XmlSchema.Proofs.Content.Folding
import XmlSchema.Proofs.Content.Fragments
import XmlSchema.Proofs.Content.Indices
import XmlSchema.Proofs.Content.Language
import XmlSchema.Proofs.Content.Liveness
import XmlSchema.Proofs.Content.Matching
import XmlSchema.Proofs.Content.Permutations
import XmlSchema.Proofs.Content.Prohibition
import XmlSchema.Proofs.Content.Walks
import XmlSchema.Proofs.Datatype.Binary
import XmlSchema.Proofs.Datatype.Bounds
import XmlSchema.Proofs.Datatype.DateOrder
import XmlSchema.Proofs.Datatype.DateTimes
import XmlSchema.Proofs.Datatype.Decimals
import XmlSchema.Proofs.Datatype.Enumerations
import XmlSchema.Proofs.Datatype.Integers
import XmlSchema.Proofs.Datatype.Rounding
import XmlSchema.Proofs.Datatype.WhiteSpace
import XmlSchema.Proofs.Diagnostic
import XmlSchema.Proofs.Json.Reading
import XmlSchema.Proofs.LanguageServer
import XmlSchema.Proofs.Output
import XmlSchema.Proofs.Path
import XmlSchema.Proofs.Pattern
import XmlSchema.Proofs.SchemaSet.AttributeUses
import XmlSchema.Proofs.SchemaSet.Closure
import XmlSchema.Proofs.SchemaSet.Extension
import XmlSchema.Proofs.SchemaSet.Histories
import XmlSchema.Proofs.SchemaSet.Holding
import XmlSchema.Proofs.SchemaSet.Index
import XmlSchema.Proofs.SchemaSet.Loading
import XmlSchema.Proofs.SchemaSet.Lookups
import XmlSchema.Proofs.SchemaSet.Remembering
import XmlSchema.Proofs.SchemaSet.Sources
import XmlSchema.Proofs.SchemaSet.Spelling
import XmlSchema.Proofs.Settings
import XmlSchema.Proofs.Text.LineIndex
import XmlSchema.Proofs.Text.Position
import XmlSchema.Proofs.Validation.Acceptance
import XmlSchema.Proofs.Validation.Conformity
import XmlSchema.Proofs.Validation.Effects
import XmlSchema.Proofs.Validation.Faults
import XmlSchema.Proofs.Validation.Hints
import XmlSchema.Proofs.Validation.Issues
import XmlSchema.Proofs.Validation.Judgement
import XmlSchema.Proofs.Validation.Nesting
import XmlSchema.Proofs.Validation.Rejection
import XmlSchema.Proofs.Validation.Schemaless
import XmlSchema.Proofs.Validation.Scopes
import XmlSchema.Proofs.Validation.Streaming
import XmlSchema.Proofs.Validation.Warnings
import XmlSchema.Proofs.Validation.Wording
import XmlSchema.Proofs.Xml.Attributes
import XmlSchema.Proofs.Xml.Events
import XmlSchema.Report
import XmlSchema.Report.Json
import XmlSchema.SchemaError
import XmlSchema.SchemaSet.Basic
import XmlSchema.SchemaSet.Effective
import XmlSchema.SchemaSet.Loading
import XmlSchema.Settings
import XmlSchema.Settings.Format
import XmlSchema.Text.Blank
import XmlSchema.Text.Number
import XmlSchema.Text.Offset
import XmlSchema.Text.Position
import XmlSchema.Text.Utf8
import XmlSchema.Toml.Basic
import XmlSchema.Toml.Reader
import XmlSchema.Toml.Scalar
import XmlSchema.Unicode.CaseFolding
import XmlSchema.Unicode.Category
import XmlSchema.Unicode.Composition
import XmlSchema.Unicode.Direction
import XmlSchema.Unicode.DomainMapping
import XmlSchema.Unicode.Lowercase
import XmlSchema.Unicode.Property
import XmlSchema.Unicode.RangeTable
import XmlSchema.Unicode.Script
import XmlSchema.Unicode.ScriptExtension
import XmlSchema.Uri
import XmlSchema.Uri.Domain
import XmlSchema.Uri.Host
import XmlSchema.Uri.Punycode
import XmlSchema.Validation.Element
import XmlSchema.Validation.Files
import XmlSchema.Validation.Finding
import XmlSchema.Validation.Run
import XmlSchema.Validation.Scope
import XmlSchema.Xml.Attributes
import XmlSchema.Xml.Event
import XmlSchema.Xml.Reader
import XmlSchema.Xml.Reference
import XmlSchema.Xml.Tree
import XmlSchema.Xml.TreeReader
