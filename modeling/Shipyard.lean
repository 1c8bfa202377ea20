import Shipyard.Decimal.Shortest
import Shipyard.Decimal.Text
import Shipyard.Json.Basic
import Shipyard.Json.Text
import Shipyard.Text.Escape
import Shipyard.Schema.Basic
import Shipyard.Json.Reader
import Shipyard.Json.Decode
import Shipyard.Space.Basic
import Shipyard.Text.Path
import Shipyard.Space.Validate
import Shipyard.Deployment.Status
import Shipyard.Time.Instant
import Shipyard.Time.DateTime
import Shipyard.Deployment.Basic
import Shipyard.Workload.Stats
import Shipyard.Progress.Message
import Shipyard.Progress.Bus
import Shipyard.Cluster.Name
import Shipyard.Error
import Shipyard.Time.Moment
import Shipyard.Rpc.Error
import Shipyard.Space.Manifest
import Shipyard.Yaml.Token
import Shipyard.Yaml.Scanner
import Shipyard.Yaml.Event
import Shipyard.Yaml.Resolve
import Shipyard.Yaml.Document
import Shipyard.Yaml.Decode
import Shipyard.Text.White
import Shipyard.Cluster.Object
import Shipyard.Yaml.Writer
import Shipyard.Cluster.Manifest
import Shipyard.Crypto.Sha2
import Shipyard.Text.Hex
import Shipyard.Text.Base64
import Shipyard.Crypto.Der
import Shipyard.Crypto.Rsa
import Shipyard.Token.Basic
import Shipyard.Token.Claims
import Shipyard.Token.Verify
import Shipyard.Auth.Issuer
import Shipyard.Webhook.Signature
import Shipyard.Console.Redact
import Shipyard.Console.Answer
import Shipyard.Console.Model
import Shipyard.Console.Session
import Shipyard.Vcs.Repository
import Shipyard.Webhook.Plan
import Shipyard.Text.Percent
import Shipyard.Text.Utf8
import Shipyard.Text.Split
import Shipyard.Config.Value
import Shipyard.Registry.Basic
import Shipyard.Session.Cookie
import Shipyard.Session.Providers
import Shipyard.Session.Oauth
import Shipyard.Secret.Key
import Shipyard.Config.Basic
import Shipyard.Config.CommandLine
import Shipyard.Config.Check
import Shipyard.Sql.Token
import Shipyard.Sql.RealDigits
import Shipyard.Sql.SqlText
import Shipyard.Sql.Value
import Shipyard.Sql.Syntax
import Shipyard.Sql.Schema
import Shipyard.Sql.Error
import Shipyard.Sql.Function
import Shipyard.Sql.Printf
import Shipyard.Sql.MathFunc
import Shipyard.Sql.Calendar
import Shipyard.Sql.JsonTree
import Shipyard.Sql.Jsonb
import Shipyard.Sql.JsonPath
import Shipyard.Sql.JsonFunc
import Shipyard.Sql.JsonEach
import Shipyard.Sql.TableFunction
import Shipyard.Sql.Func
import Shipyard.Sql.Aggregate
import Shipyard.Sql.Window
import Shipyard.Sql.FullText
import Shipyard.Sql.Resolve
import Shipyard.Sql.Shape
import Shipyard.Sql.Command
import Shipyard.Sql.Parse.Basic
import Shipyard.Sql.Parse.Query
import Shipyard.Sql.Parse.Table
import Shipyard.Sql.Parse.Command
import Shipyard.Sql.Eval
import Shipyard.Sql.Plan
import Shipyard.Sql.Write
import Shipyard.Sql.Rename
import Shipyard.Sql.Define
import Shipyard.Sql.Session
import Shipyard.Store.Rows
import Shipyard.Store.Basic
import Shipyard.Store.Accounts
import Shipyard.Store.Repos
import Shipyard.Store.Deployments
import Shipyard.Store.Sessions
import Shipyard.Store.Migration
import Shipyard.Http.Message
import Shipyard.Http.Cors
import Shipyard.Http.Query
import Shipyard.Services.Host
import Shipyard.Services.Registry
import Shipyard.Services.Cluster
import Shipyard.Platform.App
import Shipyard.Platform.Pipeline
import Shipyard.Platform.Retry
import Shipyard.Platform.Dispatch
import Shipyard.Platform.Operations
import Shipyard.Platform.SignIn
import Shipyard.Platform.Router
import Shipyard.Console.Settings
import Shipyard.Console.Progress
import Shipyard.Console.Store
import Shipyard.Console.App
import Shipyard.Api.Catalog
import Shipyard.Console.Run
import Shipyard.Proofs.Store.Operation
import Shipyard.Proofs.Store.Effect
import Shipyard.Proofs.Store.Step
import Shipyard.Proofs.Store.DeploymentRows
import Shipyard.Proofs.Progress.Entry
import Shipyard.Proofs.Progress.Subscriptions
import Shipyard.Proofs.Pipeline.Triple
import Shipyard.Proofs.Pipeline.FinalMessage
import Shipyard.Proofs.Platform.Scope
import Shipyard.Proofs.Platform.View
import Shipyard.Proofs.Platform.Tenancy
import Shipyard.Proofs.Pipeline.SpaceKey
import Shipyard.Proofs.Concurrent.Interleaving
import Shipyard.Proofs.Concurrent.Supersede
import Shipyard.Proofs.Concurrent.Secrets
import Shipyard.Proofs.Concurrent.Replay
import Shipyard.Proofs.Store.References
import Shipyard.Proofs.Store.Linking
import Shipyard.Proofs.Platform.InstallationRemoval
import Shipyard.Proofs.Cluster.ManifestSplit
import Shipyard.Proofs.Yaml.WrittenLines
import Shipyard.Proofs.Cluster.ManifestObjects
import Shipyard.Proofs.Cluster.NamespaceLabel
import Shipyard.Proofs.Cluster.ManifestFigures
import Shipyard.Proofs.Time.Calendar
import Shipyard.Proofs.Text.Digits
import Shipyard.Proofs.Time.Timestamp
import Shipyard.Proofs.Workload.Counts
import Shipyard.Proofs.Config.Duration
import Shipyard.Proofs.Webhook.Signature
import Shipyard.Proofs.Platform.SignInStates
import Shipyard.Proofs.Session.AuthorizeUrl
import Shipyard.Proofs.Pipeline.BuildPaths
import Shipyard.Proofs.Time.Moments
import Shipyard.Proofs.Store.Migrations
import Shipyard.Proofs.Pipeline.Retry
