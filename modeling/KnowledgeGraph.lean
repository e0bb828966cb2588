import KnowledgeGraph.Api.Answering
import KnowledgeGraph.Api.Endpoint
import KnowledgeGraph.Api.Reading
import KnowledgeGraph.Api.Service
import KnowledgeGraph.Api.Serving
import KnowledgeGraph.Api.Sharing
import KnowledgeGraph.Asset.ContentType
import KnowledgeGraph.Asset.Keeping
import KnowledgeGraph.Asset.Request
import KnowledgeGraph.Asset.Store
import KnowledgeGraph.Bolt.Dialogue
import KnowledgeGraph.Bolt.Packing
import KnowledgeGraph.Bolt.Store
import KnowledgeGraph.Bolt.Value
import KnowledgeGraph.Calendar
import KnowledgeGraph.Cli.Invocation
import KnowledgeGraph.Cli.Running
import KnowledgeGraph.Config.File
import KnowledgeGraph.Config.Loading
import KnowledgeGraph.Config.Settings
import KnowledgeGraph.Config.Variables
import KnowledgeGraph.Digest.Base64
import KnowledgeGraph.Digest.Blake2b
import KnowledgeGraph.Digest.Sha256
import KnowledgeGraph.Domain.Reading
import KnowledgeGraph.Domain.Request
import KnowledgeGraph.Domain.Requirement
import KnowledgeGraph.Domain.Statement
import KnowledgeGraph.Domain.Writing
import KnowledgeGraph.Embedding.Client
import KnowledgeGraph.Error
import KnowledgeGraph.Exchange.Message
import KnowledgeGraph.Exchange.Transfer
import KnowledgeGraph.Exchange.Url
import KnowledgeGraph.Files.Tree
import KnowledgeGraph.Graph.Identifier
import KnowledgeGraph.Graph.Record
import KnowledgeGraph.Graph.Redaction
import KnowledgeGraph.Graph.Settings
import KnowledgeGraph.Graph.Statement
import KnowledgeGraph.Host.Backends
import KnowledgeGraph.Host.Database
import KnowledgeGraph.Host.Disk
import KnowledgeGraph.Host.Server
import KnowledgeGraph.Host.Socket
import KnowledgeGraph.Http.Client
import KnowledgeGraph.Http.HeaderBlock
import KnowledgeGraph.Http.Headers
import KnowledgeGraph.Http.MediaType
import KnowledgeGraph.Http.Message
import KnowledgeGraph.Http.Multipart
import KnowledgeGraph.Http.Status
import KnowledgeGraph.Imaging.Client
import KnowledgeGraph.Json.Basic
import KnowledgeGraph.Json.Writer
import KnowledgeGraph.Main
import KnowledgeGraph.Network.Address
import KnowledgeGraph.Network.Place
import KnowledgeGraph.Node.Properties
import KnowledgeGraph.Node.Reading
import KnowledgeGraph.Node.Request
import KnowledgeGraph.Node.Statement
import KnowledgeGraph.Node.Writing
import KnowledgeGraph.Number.Binary64
import KnowledgeGraph.Number.Limits
import KnowledgeGraph.Number.Shortest
import KnowledgeGraph.Number.Text
import KnowledgeGraph.Password.Argon2
import KnowledgeGraph.Password.Encoded
import KnowledgeGraph.Password.Scheme
import KnowledgeGraph.Person.Account
import KnowledgeGraph.Person.Profile
import KnowledgeGraph.Person.Request
import KnowledgeGraph.Person.Statement
import KnowledgeGraph.Proofs.Domain.Faults
import KnowledgeGraph.Proofs.Domain.UniqueNames
import KnowledgeGraph.Proofs.Graph.Binding
import KnowledgeGraph.Proofs.Graph.Placeholders
import KnowledgeGraph.Relationship.Request
import KnowledgeGraph.Relationship.Statement
import KnowledgeGraph.Relationship.Writing
import KnowledgeGraph.Schema.Loading
import KnowledgeGraph.Schema.Script
import KnowledgeGraph.Telemetry.Counters
import KnowledgeGraph.Telemetry.Event
import KnowledgeGraph.Telemetry.Log
import KnowledgeGraph.Telemetry.Settings
import KnowledgeGraph.Text.Blank
import KnowledgeGraph.Text.Quoted
import KnowledgeGraph.Text.Split
import KnowledgeGraph.Text.Utf8
import KnowledgeGraph.Token.Authority
import KnowledgeGraph.Token.Claims
import KnowledgeGraph.Token.Key
import KnowledgeGraph.Token.Secret
import KnowledgeGraph.Toml.Reader
import KnowledgeGraph.Toml.Scalar
import KnowledgeGraph.Toml.Table
import KnowledgeGraph.Traffic.Limiter
import KnowledgeGraph.Wire.Form
import KnowledgeGraph.Wire.Numeral
import KnowledgeGraph.Wire.Reader
import KnowledgeGraph.Wire.Shape
import KnowledgeGraph.Wire.Source
import KnowledgeGraph.Workflow.Basic
import KnowledgeGraph.Workflow.Checks
import KnowledgeGraph.Proofs.Traffic.FixedWindow
import KnowledgeGraph.Proofs.Traffic.Capacity
import KnowledgeGraph.Proofs.Api.Admission
import KnowledgeGraph.Proofs.Digest.Base64
import KnowledgeGraph.Proofs.Wire.Numeral
import KnowledgeGraph.Proofs.Wire.Text
import KnowledgeGraph.Proofs.Token.Validity
import KnowledgeGraph.Proofs.Wire.Shape
import KnowledgeGraph.Proofs.Token.Acceptance
import KnowledgeGraph.Proofs.Api.Authorization
import KnowledgeGraph.Proofs.Api.Discretion
import KnowledgeGraph.Proofs.Api.Protection
import KnowledgeGraph.Proofs.Person.Concurrency
import KnowledgeGraph.Proofs.Api.Envelope
import KnowledgeGraph.Proofs.Api.Refusals
import KnowledgeGraph.Proofs.Node.Matching
import KnowledgeGraph.Proofs.Graph.Redaction
import KnowledgeGraph.Proofs.Node.Pictures
import KnowledgeGraph.Proofs.Wire.Records
import KnowledgeGraph.Proofs.Config.Layers
import KnowledgeGraph.Proofs.Node.Rejections
import KnowledgeGraph.Proofs.Api.Properties
import KnowledgeGraph.Proofs.Bolt.Parameters
import KnowledgeGraph.Proofs.Api.Waiting
import KnowledgeGraph.Proofs.Schema.Script
import KnowledgeGraph.Proofs.Schema.Remains
import KnowledgeGraph.Proofs.Schema.Loading
import KnowledgeGraph.Proofs.Files.Tree
import KnowledgeGraph.Proofs.Schema.Collection
import KnowledgeGraph.Proofs.Graph.Clauses
import KnowledgeGraph.Proofs.Graph.Deeds
import KnowledgeGraph.Proofs.Domain.Deeds
import KnowledgeGraph.Proofs.Domain.Demands
import KnowledgeGraph.Proofs.Node.Ranking
import KnowledgeGraph.Proofs.Node.Similarity
import KnowledgeGraph.Proofs.Node.Duplicates
import KnowledgeGraph.Proofs.Node.SearchedIndex
import KnowledgeGraph.Proofs.Api.Sharing
import KnowledgeGraph.Proofs.Text.Case
import KnowledgeGraph.Proofs.Token.Strength
import KnowledgeGraph.Proofs.Asset.Keeping
import KnowledgeGraph.Proofs.Http.MediaType
import KnowledgeGraph.Proofs.Api.Objects
import KnowledgeGraph.Proofs.Wire.Nesting
import KnowledgeGraph.Proofs.Embedding.Answers
