import ModelSchema.Annotation
import ModelSchema.AnnotationText
import ModelSchema.Class.Declare
import ModelSchema.Class.Enumeration
import ModelSchema.Class.Instance
import ModelSchema.Class.Linearisation
import ModelSchema.Class.Marker
import ModelSchema.Class.Parametrised
import ModelSchema.Class.Table
import ModelSchema.ClassRef
import ModelSchema.CommandLine.Log
import ModelSchema.CommandLine.Program
import ModelSchema.CommandLine.Reader
import ModelSchema.CommandLine.Usage
import ModelSchema.Description.Annotation
import ModelSchema.Description.Class
import ModelSchema.Description.Literal
import ModelSchema.Example.Figures
import ModelSchema.Example.Shapes
import ModelSchema.Failure
import ModelSchema.Generation.Options
import ModelSchema.Generation.Run
import ModelSchema.Json.Parser
import ModelSchema.Json.Printer
import ModelSchema.Json.Token
import ModelSchema.Layering.Check
import ModelSchema.Layering.Import
import ModelSchema.Layering.Source
import ModelSchema.Layout
import ModelSchema.Leaf
import ModelSchema.Limit
import ModelSchema.Main
import ModelSchema.Modules.Search
import ModelSchema.Modules.Space
import ModelSchema.Naming
import ModelSchema.Note
import ModelSchema.NoteText
import ModelSchema.Notice
import ModelSchema.Number.Binary64
import ModelSchema.Number.Decimal
import ModelSchema.Number.Digits
import ModelSchema.Number.Numeral
import ModelSchema.Number.Shortest
import ModelSchema.Output.Writer
import ModelSchema.Pattern.Basic
import ModelSchema.Pattern.Escape
import ModelSchema.Pattern.Matching
import ModelSchema.Pattern.Parser
import ModelSchema.Pattern.Source
import ModelSchema.Payload.Basic
import ModelSchema.Payload.Plain
import ModelSchema.Polymorphism.Locator
import ModelSchema.Polymorphism.Registry
import ModelSchema.Polymorphism.Walk
import ModelSchema.Proofs.Agreement.Exclusion
import ModelSchema.Proofs.Agreement.Listed
import ModelSchema.Proofs.Agreement.Optional
import ModelSchema.Proofs.Agreement.Rejection
import ModelSchema.Proofs.Agreement.Serialization
import ModelSchema.Proofs.Agreement.Tuples
import ModelSchema.Proofs.Calls
import ModelSchema.Proofs.Class.Creation
import ModelSchema.Proofs.Class.Declarations
import ModelSchema.Proofs.Class.Hierarchy
import ModelSchema.Proofs.Class.Members
import ModelSchema.Proofs.Class.Parametrised
import ModelSchema.Proofs.CommandLine.Endings
import ModelSchema.Proofs.DottedName
import ModelSchema.Proofs.Generation.Prefix
import ModelSchema.Proofs.Layering.Guard
import ModelSchema.Proofs.Naming
import ModelSchema.Proofs.Output.Location
import ModelSchema.Proofs.Payload.Data
import ModelSchema.Proofs.Payload.Discriminator
import ModelSchema.Proofs.Payload.Keys
import ModelSchema.Proofs.Payload.ListedNames
import ModelSchema.Proofs.Payload.MemberKeys
import ModelSchema.Proofs.Payload.Required
import ModelSchema.Proofs.Polymorphism.Blame
import ModelSchema.Proofs.Polymorphism.Descendants
import ModelSchema.Proofs.Polymorphism.Reach
import ModelSchema.Proofs.Polymorphism.Searches
import ModelSchema.Proofs.Polymorphism.Termination
import ModelSchema.Proofs.Polymorphism.Visits
import ModelSchema.Proofs.Property
import ModelSchema.Proofs.PropertyOrder
import ModelSchema.Proofs.Schema.Alone
import ModelSchema.Proofs.Schema.Branches
import ModelSchema.Proofs.Schema.Buildable
import ModelSchema.Proofs.Schema.Closed
import ModelSchema.Proofs.Schema.Definitions
import ModelSchema.Proofs.Schema.Dependence
import ModelSchema.Proofs.Schema.Independence
import ModelSchema.Proofs.Schema.Injection
import ModelSchema.Proofs.Schema.Mirroring
import ModelSchema.Proofs.Schema.Names
import ModelSchema.Proofs.Schema.Node
import ModelSchema.Proofs.Schema.Records
import ModelSchema.Proofs.Schema.Refers
import ModelSchema.Proofs.Schema.RequiredNames
import ModelSchema.Proofs.Schema.Termination
import ModelSchema.Proofs.Scope
import ModelSchema.Proofs.Shape
import ModelSchema.Proofs.Storage.FileSystem
import ModelSchema.Proofs.Storage.Path
import ModelSchema.Proofs.Time.Calendar
import ModelSchema.Proofs.Time.Instant
import ModelSchema.Proofs.Validation.Acceptance
import ModelSchema.Proofs.Validation.Depth
import ModelSchema.Proofs.Validation.Judgement
import ModelSchema.Proofs.Validation.Keywords
import ModelSchema.Proofs.Validation.Nodes
import ModelSchema.Proofs.Validation.Parts
import ModelSchema.Proofs.Validation.Pointer
import ModelSchema.Proofs.Validation.Remarks
import ModelSchema.Proofs.Validation.Settled
import ModelSchema.Proofs.Yaml.RoundTrip
import ModelSchema.Property
import ModelSchema.Saturation
import ModelSchema.Schema.Document
import ModelSchema.Schema.Node
import ModelSchema.Schema.Outline
import ModelSchema.Schema.Tree
import ModelSchema.Scope.Filter
import ModelSchema.Shape
import ModelSchema.Shown
import ModelSchema.Storage.FileSystem
import ModelSchema.Storage.Path
import ModelSchema.Text.AliasStyle
import ModelSchema.Text.Base64
import ModelSchema.Text.Case
import ModelSchema.Text.CaseTables
import ModelSchema.Text.CharClass
import ModelSchema.Text.CharName
import ModelSchema.Text.Dedent
import ModelSchema.Text.DomainName
import ModelSchema.Text.Identifier
import ModelSchema.Text.IpAddress
import ModelSchema.Text.Printable
import ModelSchema.Text.Quoted
import ModelSchema.Text.UriReference
import ModelSchema.Text.Url
import ModelSchema.Text.Utf8
import ModelSchema.Time.Calendar
import ModelSchema.Time.Duration
import ModelSchema.Time.Iso
import ModelSchema.Unfolding
import ModelSchema.Validation.Applicator
import ModelSchema.Validation.Assertion
import ModelSchema.Validation.Basic
import ModelSchema.Validation.Dialect
import ModelSchema.Validation.Equality
import ModelSchema.Validation.Keyword
import ModelSchema.Validation.Metaschema
import ModelSchema.Validation.Part
import ModelSchema.Validation.Reference
import ModelSchema.Validation.Resource
import ModelSchema.Validation.Violation
import ModelSchema.Value
import ModelSchema.Yaml.Cursor
import ModelSchema.Yaml.Document
import ModelSchema.Yaml.Error
import ModelSchema.Yaml.Node
import ModelSchema.Yaml.Printer
import ModelSchema.Yaml.Resolution
import ModelSchema.Yaml.Scalar
import ModelSchema.Yaml.Style
import ModelSchema.Yaml.Token.Block
import ModelSchema.Yaml.Token.Mark
import ModelSchema.Yaml.Token.Scalar
import ModelSchema.Yaml.Token.Scan
import ModelSchema.Yaml.Value
