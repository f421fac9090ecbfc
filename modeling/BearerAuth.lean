import BearerAuth.Application
import BearerAuth.Bytes.Base64
import BearerAuth.Bytes.Words
import BearerAuth.CommandLine.Arguments
import BearerAuth.CommandLine.Help
import BearerAuth.CommandLine.Run
import BearerAuth.CommandLine.Verb
import BearerAuth.Decimal.Double
import BearerAuth.Decimal.Shortest
import BearerAuth.Digest.Argon2
import BearerAuth.Digest.Argon2.Block
import BearerAuth.Digest.Blake2b
import BearerAuth.Digest.Hmac
import BearerAuth.Digest.Sha256
import BearerAuth.Digest.Sha512
import BearerAuth.EnvFile
import BearerAuth.Environment
import BearerAuth.Http.Header
import BearerAuth.Http.Message
import BearerAuth.Http.Router
import BearerAuth.Json.Basic
import BearerAuth.Json.Number
import BearerAuth.Json.Reader
import BearerAuth.Json.Writer
import BearerAuth.Main
import BearerAuth.NameMap
import BearerAuth.Password.Hash
import BearerAuth.Password.Phc
import BearerAuth.Report
import BearerAuth.Schema.Basic
import BearerAuth.Schema.ColumnType
import BearerAuth.Schema.Description
import BearerAuth.Schema.Error
import BearerAuth.Schema.Sql
import BearerAuth.Service
import BearerAuth.Store.Error
import BearerAuth.Store.Record
import BearerAuth.Store.Relational
import BearerAuth.Store.Users
import BearerAuth.Text.Blank
import BearerAuth.Text.Integer
import BearerAuth.Text.Split
import BearerAuth.Text.Utf8
import BearerAuth.Text.Uuid
import BearerAuth.Time.Calendar
import BearerAuth.Time.Instant
import BearerAuth.Time.Rfc3339
import BearerAuth.Token.Claims
import BearerAuth.Token.Engine
import BearerAuth.Token.Error
import BearerAuth.Token.Header
import BearerAuth.Token.Jwk
import BearerAuth.Token.Signed
import BearerAuth.Yaml.Cursor
import BearerAuth.Yaml.Node
import BearerAuth.Yaml.Scalar
import BearerAuth.Yaml.Stream
import BearerAuth.Yaml.Token
import BearerAuth.Yaml.Value
import BearerAuth.Proofs.Bytes.Base64
import BearerAuth.Proofs.Json.Numbers
import BearerAuth.Proofs.Json.Strings
import BearerAuth.Proofs.Json.RoundTrip
import BearerAuth.Proofs.NameMap
import BearerAuth.Proofs.Token.Claims
import BearerAuth.Proofs.Token.Signed
import BearerAuth.Proofs.Time.Instant
import BearerAuth.Proofs.Token.Engine
import BearerAuth.Proofs.Token.Renewal
import BearerAuth.Proofs.Schema.Valid
import BearerAuth.Proofs.Schema.Claims
import BearerAuth.Proofs.Store.Record
import BearerAuth.Proofs.Password.Phc
import BearerAuth.Proofs.Password.Hash
import BearerAuth.Proofs.Service.Run
import BearerAuth.Proofs.Token.Issuance
import BearerAuth.Proofs.Service.Login
import BearerAuth.Proofs.Service.Provenance
import BearerAuth.Proofs.Token.Deadline
import BearerAuth.Proofs.Token.Authenticity
import BearerAuth.Proofs.Token.Kinds
import BearerAuth.Proofs.Service.Session
import BearerAuth.Proofs.Time.Calendar
import BearerAuth.Proofs.Time.Rfc3339
import BearerAuth.Proofs.Schema.ColumnType
import BearerAuth.Proofs.Store.Users
import BearerAuth.Proofs.Store.Kept
import BearerAuth.Proofs.Store.History
import BearerAuth.Proofs.Store.Relational
import BearerAuth.Proofs.Store.Selections
import BearerAuth.Proofs.Store.Samples
import BearerAuth.Proofs.Store.Unique
import BearerAuth.Proofs.Sql.Tokens
import BearerAuth.Proofs.Sql.TableDefinition
import BearerAuth.Proofs.Store.Repeats
import BearerAuth.Proofs.Schema.Public
import BearerAuth.Proofs.Store.Spelling
import BearerAuth.Proofs.Service.Secrecy
import BearerAuth.Proofs.Store.Statements
import BearerAuth.Proofs.Store.Refusals
import BearerAuth.Proofs.Token.Refusals
import BearerAuth.Proofs.Http.Visits
import BearerAuth.Proofs.Schema.Check
import BearerAuth.Proofs.Token.Chain
import BearerAuth.Proofs.Token.Mapping
import BearerAuth.Proofs.Token.RoundTrip
import BearerAuth.Proofs.Schema.TimeStamp
import BearerAuth.Proofs.Store.Preparation
import BearerAuth.Proofs.Store.Totality
import BearerAuth.Proofs.Store.Defaults
import BearerAuth.Proofs.Token.Lifetimes
import BearerAuth.Proofs.Sql.Lists
import BearerAuth.Proofs.Store.Insertions
import BearerAuth.Proofs.Store.Fitting
import BearerAuth.Proofs.Text.Blank
import BearerAuth.Proofs.Http.Columns
import BearerAuth.Proofs.Http.Presentation
import BearerAuth.Proofs.Text.Integer
import BearerAuth.Proofs.Environment
