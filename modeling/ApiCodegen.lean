import ApiCodegen.Description.Config
import ApiCodegen.Description.Document
import ApiCodegen.Description.Location
import ApiCodegen.Description.Model
import ApiCodegen.Description.Operation
import ApiCodegen.Description.Primitive
import ApiCodegen.Description.Spec
import ApiCodegen.Description.Status
import ApiCodegen.Description.TypeExpr
import ApiCodegen.Description.Usage
import ApiCodegen.Description.Walk
import ApiCodegen.Json.Basic
import ApiCodegen.Json.Failure
import ApiCodegen.Json.Printer
import ApiCodegen.Json.Record
import ApiCodegen.Json.Scanner
import ApiCodegen.Json.Schema
import ApiCodegen.Json.Skip
import ApiCodegen.Naming.Policy
import ApiCodegen.Naming.Words
import ApiCodegen.Number.Binary
import ApiCodegen.Number.Read
import ApiCodegen.Number.Shortest
import ApiCodegen.Proofs.Reachability
import ApiCodegen.Proofs.Resolution
import ApiCodegen.Proofs.Rules
import ApiCodegen.Proofs.Sequencing
import ApiCodegen.Signature.Dispatch
import ApiCodegen.Signature.Operation
import ApiCodegen.Signature.ParamCodec
import ApiCodegen.Signature.Validation
import ApiCodegen.Sink.Artifact
import ApiCodegen.Sink.Directory
import ApiCodegen.Sink.FileTree
import ApiCodegen.Sink.Memory
import ApiCodegen.Source.Code
import ApiCodegen.Source.Imports
import ApiCodegen.Source.Line
import ApiCodegen.Source.Writer
import ApiCodegen.Support.Client
import ApiCodegen.Support.Service
import ApiCodegen.Support.Shared
import ApiCodegen.Template.Basic
import ApiCodegen.Template.BuiltIn
import ApiCodegen.Text.Chars
import ApiCodegen.Text.Charset
import ApiCodegen.Text.Literal
import ApiCodegen.Text.Property
import ApiCodegen.Text.Utf8
import ApiCodegen.Tree.Client
import ApiCodegen.Tree.Emission
import ApiCodegen.Tree.Errors
import ApiCodegen.Tree.Generator
import ApiCodegen.Tree.Handler
import ApiCodegen.Tree.Models
import ApiCodegen.Tree.Operations
import ApiCodegen.Tree.Service
import ApiCodegen.Tree.Skeletons
import ApiCodegen.Tree.Support
import ApiCodegen.Types.ModelGraph
import ApiCodegen.Types.Resolved
import ApiCodegen.Types.Resolver
import ApiCodegen.Wire.ErrorBody
import ApiCodegen.Wire.MediaType
import ApiCodegen.Wire.Multipart
import ApiCodegen.Wire.Params
import ApiCodegen.Wire.Request
import ApiCodegen.Wire.Response
import ApiCodegen.Proofs.Validation
import ApiCodegen.Proofs.Emission
import ApiCodegen.Proofs.Signatures
import ApiCodegen.Proofs.Dispatch
import ApiCodegen.Proofs.ParamReading
import ApiCodegen.Proofs.ParamRoundTrip
import ApiCodegen.Proofs.ParamCoding
import ApiCodegen.Proofs.Containment
import ApiCodegen.Proofs.Identifiers
import ApiCodegen.Proofs.Scoping
import ApiCodegen.Proofs.Hygiene
import ApiCodegen.Proofs.HandlerHygiene
import ApiCodegen.Proofs.MethodHygiene
import ApiCodegen.Proofs.Needs
import ApiCodegen.Proofs.SignatureTypes
import ApiCodegen.Proofs.Taxonomy
import ApiCodegen.Proofs.ClientImports
import ApiCodegen.Proofs.FileImports
import ApiCodegen.Proofs.FileTexts
import ApiCodegen.Proofs.ModuleTree
import ApiCodegen.Proofs.FileSources
import ApiCodegen.Proofs.RequestUrl
import ApiCodegen.Proofs.Locality
import ApiCodegen.Proofs.InternalImports
import ApiCodegen.Proofs.Comments
import ApiCodegen.Proofs.Descriptions
import ApiCodegen.Proofs.BareSignatures
import ApiCodegen.Proofs.DescriptionIndependence
import ApiCodegen.Proofs.TypeNotation
import ApiCodegen.Proofs.DocumentRoundTrip
import ApiCodegen.Proofs.CasedNames
import ApiCodegen.Proofs.DistinctPlaces
import ApiCodegen.Proofs.Declarations
import ApiCodegen.Proofs.DeclaredNames
import ApiCodegen.Proofs.Entries
import ApiCodegen.Proofs.Overwriting
import ApiCodegen.Proofs.Splitting
import ApiCodegen.Proofs.BelowRoot
import ApiCodegen.Proofs.HeaderNames
import ApiCodegen.Proofs.RouteTable
import ApiCodegen.Proofs.StoredTexts
import ApiCodegen.Proofs.OutputPaths
import ApiCodegen.Proofs.FunctionNames
import ApiCodegen.Proofs.CycleCuts
import ApiCodegen.Proofs.RouterParameters
import ApiCodegen.Proofs.ModuleLookup
import ApiCodegen.Proofs.Remarks
import ApiCodegen.Proofs.CopiedText
import ApiCodegen.Proofs.WalkOrder
import ApiCodegen.Proofs.UsedTypes
import ApiCodegen.Proofs.RouteSegments
import ApiCodegen.Proofs.UrlArguments
import ApiCodegen.Proofs.RouteGroups
import ApiCodegen.Proofs.LegalNames
import ApiCodegen.Proofs.ParameterLists
import ApiCodegen.Proofs.HandlerNeeds
import ApiCodegen.Proofs.HandlerImports
import ApiCodegen.Proofs.StableNames
import ApiCodegen.Proofs.RepeatedValues
import ApiCodegen.Proofs.SearchLoop
import ApiCodegen.Proofs.NumberTexts
import ApiCodegen.Proofs.Defaults
import ApiCodegen.Proofs.LiteralTexts
import ApiCodegen.Proofs.Indentation
