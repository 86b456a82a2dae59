import InfraTemplate.Assembly
import InfraTemplate.Binary64
import InfraTemplate.Binary64.Decimal
import InfraTemplate.Binary64.Shortest
import InfraTemplate.Bookkeeping
import InfraTemplate.Command
import InfraTemplate.Command.Arguments
import InfraTemplate.Command.Run
import InfraTemplate.Entries
import InfraTemplate.Env
import InfraTemplate.Error
import InfraTemplate.Evaluation
import InfraTemplate.Evaluation.Basic
import InfraTemplate.Evaluation.Collection
import InfraTemplate.Evaluation.Name
import InfraTemplate.Evaluation.Reference
import InfraTemplate.Evaluation.Resource
import InfraTemplate.Evaluation.Template
import InfraTemplate.FileTree
import InfraTemplate.Import
import InfraTemplate.Import.Listing
import InfraTemplate.Importing
import InfraTemplate.Interpolation
import InfraTemplate.Json
import InfraTemplate.Json.Parser
import InfraTemplate.Json.Printer
import InfraTemplate.Loading
import InfraTemplate.LocalPath
import InfraTemplate.Location
import InfraTemplate.LookupPath
import InfraTemplate.Main
import InfraTemplate.Node
import InfraTemplate.Node.Equality
import InfraTemplate.Node.Json
import InfraTemplate.Node.Merge
import InfraTemplate.Node.Reading
import InfraTemplate.Node.Rendering
import InfraTemplate.Number
import InfraTemplate.Param.Declaration
import InfraTemplate.Param.Validation
import InfraTemplate.Pattern
import InfraTemplate.Pattern.CharSet
import InfraTemplate.Pattern.Parser
import InfraTemplate.RandomName
import InfraTemplate.Schema
import InfraTemplate.Schema.Draft
import InfraTemplate.Schema.Format
import InfraTemplate.Schema.Number
import InfraTemplate.Schema.WellFormed
import InfraTemplate.Sections
import InfraTemplate.Sha256
import InfraTemplate.SubText
import InfraTemplate.Tag
import InfraTemplate.Text.Base64
import InfraTemplate.Text.Blank
import InfraTemplate.Text.Case
import InfraTemplate.Text.CaseTable
import InfraTemplate.Text.Category
import InfraTemplate.Text.CategoryTable
import InfraTemplate.Text.Hex
import InfraTemplate.Text.Piece
import InfraTemplate.Text.Utf8
import InfraTemplate.Transform
import InfraTemplate.Url
import InfraTemplate.Url.Host
import InfraTemplate.Url.Percent
import InfraTemplate.Url.Punycode
import InfraTemplate.World
import InfraTemplate.Yaml.Document
import InfraTemplate.Yaml.Event
import InfraTemplate.Yaml.Glyph
import InfraTemplate.Yaml.Printer
import InfraTemplate.Yaml.Scalar.Block
import InfraTemplate.Yaml.Scalar.Plain
import InfraTemplate.Yaml.Scalar.Quoted
import InfraTemplate.Yaml.Scalar.Resolution
import InfraTemplate.Yaml.Scalar.Style
import InfraTemplate.Yaml.Token
import InfraTemplate.Yaml.Value
import InfraTemplate.Proofs.Outcome
import InfraTemplate.Proofs.Instance
import InfraTemplate.Proofs.SubstitutionText
import InfraTemplate.Proofs.References
import InfraTemplate.Proofs.Contributions
import InfraTemplate.Proofs.InstanceNames
import InfraTemplate.Proofs.Emission
import InfraTemplate.Proofs.Disjointness
import InfraTemplate.Proofs.LoadRun
import InfraTemplate.Proofs.RemoteImport
import InfraTemplate.Proofs.Judgement
import InfraTemplate.Proofs.Parts
import InfraTemplate.Proofs.Discipline.Basic
import InfraTemplate.Proofs.Discipline.Collection
import InfraTemplate.Proofs.Discipline.Name
import InfraTemplate.Proofs.Discipline.Reference
import InfraTemplate.Proofs.Discipline.Resource
import InfraTemplate.Proofs.Discipline.Template
import InfraTemplate.Proofs.Discipline
import InfraTemplate.Proofs.Watch
import InfraTemplate.Proofs.Likeness
import InfraTemplate.Proofs.ScopeMonotonicity
import InfraTemplate.Proofs.Halting
import InfraTemplate.Proofs.Plainness
import InfraTemplate.Proofs.Written
import InfraTemplate.Proofs.PlainLoading
import InfraTemplate.Proofs.PlainOutput
import InfraTemplate.Proofs.KeyLeakage
import InfraTemplate.Proofs.Accumulation
import InfraTemplate.Proofs.HoistedSections
import InfraTemplate.Proofs.SectionNames
import InfraTemplate.Proofs.VerbatimText
import InfraTemplate.Proofs.StaticDocument
import InfraTemplate.Proofs.ImportGraph
import InfraTemplate.Proofs.LoadedDocument
import InfraTemplate.Proofs.Provenance
import InfraTemplate.Proofs.Parameters
import InfraTemplate.Proofs.Isolation
import InfraTemplate.Proofs.RaisedLimit
import InfraTemplate.Proofs.OwnNames
import InfraTemplate.Proofs.ResourceTypes
import InfraTemplate.Proofs.LazyLookup
import InfraTemplate.Proofs.Rereading
import InfraTemplate.Proofs.AssembledDocument
import InfraTemplate.Proofs.EndlessImports
import InfraTemplate.Proofs.Overriding
import InfraTemplate.Proofs.ImportPlaceholders
import InfraTemplate.Proofs.AskedNames
import InfraTemplate.Proofs.PlaceholderText
import InfraTemplate.Proofs.SchemeSelection
import InfraTemplate.Proofs.UrlText
import InfraTemplate.Proofs.ShownLocation
import InfraTemplate.Proofs.Merging
import InfraTemplate.Proofs.LoopFusion
import InfraTemplate.Proofs.Grouping
import InfraTemplate.Proofs.CallStack
import InfraTemplate.Proofs.SplitText
import InfraTemplate.Proofs.MappedValues
import InfraTemplate.Proofs.NodeEquality
import InfraTemplate.Proofs.AccumulatedSections
import InfraTemplate.Proofs.JsonRoundTrip
import InfraTemplate.Proofs.YamlShape
import InfraTemplate.Proofs.PayloadShape
import InfraTemplate.Proofs.DenotedTypes
import InfraTemplate.Proofs.ObjectAddress
import InfraTemplate.Proofs.DirectoryHash
import InfraTemplate.Proofs.ParameterListing
import InfraTemplate.Proofs.WrittenPath
import InfraTemplate.Proofs.FreeReferences
