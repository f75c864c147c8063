import SwaggerSdk.Config
import SwaggerSdk.Document.Location
import SwaggerSdk.Naming.Candidate
import SwaggerSdk.Naming.Claims
import SwaggerSdk.Sdk.PackageName
import SwaggerSdk.Number.Binary64
import SwaggerSdk.Number.Shortest
import SwaggerSdk.Json.Reading
import SwaggerSdk.Json.Error
import SwaggerSdk.Document.Basic
import SwaggerSdk.Document.Shape
import SwaggerSdk.Datum
import SwaggerSdk.Document.Datum
import SwaggerSdk.Json.Document
import SwaggerSdk.Json.Writer
import SwaggerSdk.Document.Load
import SwaggerSdk.Document.Pointer
import SwaggerSdk.Model.Basic
import SwaggerSdk.Model.Build
import SwaggerSdk.Sdk.Piece
import SwaggerSdk.Sdk.Functions
import SwaggerSdk.Sdk.Index
import SwaggerSdk.Sdk.Manifest
import SwaggerSdk.Generate
import SwaggerSdk.Files.Access
import SwaggerSdk.Yaml.Cursor
import SwaggerSdk.Yaml.Flow
import SwaggerSdk.Yaml.Block
import SwaggerSdk.Yaml.Property
import SwaggerSdk.Yaml.Lexer
import SwaggerSdk.CommandLine.Arguments
import SwaggerSdk.CommandLine.Run
import SwaggerSdk.CommandLine.Texts
import SwaggerSdk.Main
import SwaggerSdk.Proofs.Ascending
import SwaggerSdk.Proofs.Naming.CandidateShape
import SwaggerSdk.Proofs.Naming.ClaimTable
import SwaggerSdk.Proofs.Naming.Resolution
import SwaggerSdk.Proofs.Naming.ClaimHistory
import SwaggerSdk.Proofs.Naming.ClosedForm
import SwaggerSdk.Proofs.Naming.CamelScan
import SwaggerSdk.Proofs.Naming.KeptIds
import SwaggerSdk.Proofs.Naming.RouteNames
import SwaggerSdk.Proofs.Model.Slots
import SwaggerSdk.Proofs.Model.Names
import SwaggerSdk.Proofs.Model.SourceOrder
import SwaggerSdk.Proofs.Model.Stability
import SwaggerSdk.Proofs.Model.KeyDigests
import SwaggerSdk.Proofs.Model.EntryLists
import SwaggerSdk.Proofs.Model.ParameterOrder
import SwaggerSdk.Proofs.Model.ParameterSources
import SwaggerSdk.Proofs.Model.References
import SwaggerSdk.Proofs.Files.Address
import SwaggerSdk.Proofs.Files.Footprint
import SwaggerSdk.Proofs.Generation
import SwaggerSdk.Proofs.Tables
import SwaggerSdk.Proofs.Peels
import SwaggerSdk.Proofs.Json.Strings
import SwaggerSdk.Proofs.Json.Writing
import SwaggerSdk.Proofs.Json.Places
import SwaggerSdk.Proofs.Document.Loading
import SwaggerSdk.Proofs.Document.Filling
import SwaggerSdk.Proofs.Json.WrittenPlaces
import SwaggerSdk.Proofs.Document.RoundTrip
import SwaggerSdk.Proofs.Document.Members
import SwaggerSdk.Proofs.Document.Fields
import SwaggerSdk.Proofs.Document.Steady
import SwaggerSdk.Proofs.Json.Reordering
import SwaggerSdk.Proofs.Json.ReorderedValues
import SwaggerSdk.Proofs.Json.ReorderedPlaces
import SwaggerSdk.Proofs.Document.Reordering
import SwaggerSdk.Proofs.Json.Padding
import SwaggerSdk.Proofs.Document.Padding
import SwaggerSdk.Proofs.Document.RepeatedNames
import SwaggerSdk.Proofs.Sdk.Exports
import SwaggerSdk.Proofs.Sdk.RequestScopes
import SwaggerSdk.Proofs.Sdk.FunctionScopes
import SwaggerSdk.Proofs.Files.Repetition
import SwaggerSdk.Proofs.Regeneration
import SwaggerSdk.Proofs.Sdk.Comments
import SwaggerSdk.Proofs.Sdk.RouteTable
import SwaggerSdk.Proofs.Sdk.Manifest
import SwaggerSdk.Proofs.Sdk.PackageName
import SwaggerSdk.Proofs.Sdk.FunctionList
import SwaggerSdk.Proofs.Sdk.ArgumentTypes
import SwaggerSdk.Proofs.Config.Settings
import SwaggerSdk.Proofs.Config.Layers
import SwaggerSdk.Proofs.CommandLine.Prediction
import SwaggerSdk.Proofs.CommandLine.Session
