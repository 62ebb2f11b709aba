import SessionGate.Base64
import SessionGate.Binary64
import SessionGate.Binary64.Decimal
import SessionGate.Binary64.Fixed
import SessionGate.Checked
import SessionGate.Checked.Scalar
import SessionGate.Crypto.Der
import SessionGate.Crypto.KeyBlock
import SessionGate.Crypto.KeyPair
import SessionGate.Crypto.Primes
import SessionGate.Crypto.PrivateKeyFile
import SessionGate.Crypto.Rsa
import SessionGate.Crypto.Sha2
import SessionGate.Failure
import SessionGate.Files
import SessionGate.Fixture
import SessionGate.Form
import SessionGate.GroupPolicy
import SessionGate.Http
import SessionGate.Http.Content
import SessionGate.Http.Cors
import SessionGate.Json
import SessionGate.Json.Document
import SessionGate.Json.Printer
import SessionGate.Json.Reader
import SessionGate.Log
import SessionGate.Log.Submitted
import SessionGate.Metrics
import SessionGate.Metrics.Calls
import SessionGate.Metrics.Collectors
import SessionGate.Metrics.Registration
import SessionGate.Moment
import SessionGate.Moment.Iso
import SessionGate.Moment.Lax
import SessionGate.Proofs.Acceptance
import SessionGate.Proofs.AcceptedTimes
import SessionGate.Proofs.Accounting
import SessionGate.Proofs.Admission
import SessionGate.Proofs.AllowedGroups
import SessionGate.Proofs.Ascii
import SessionGate.Proofs.Base64Letters
import SessionGate.Proofs.Breakdown
import SessionGate.Proofs.Bundles
import SessionGate.Proofs.Calendar
import SessionGate.Proofs.CheckedFields
import SessionGate.Proofs.ClaimChecks
import SessionGate.Proofs.CodePoints
import SessionGate.Proofs.Digits
import SessionGate.Proofs.ErrorAnswers
import SessionGate.Proofs.Exchanges
import SessionGate.Proofs.Exposition
import SessionGate.Proofs.Flight
import SessionGate.Proofs.FormBodies
import SessionGate.Proofs.FreshSessions
import SessionGate.Proofs.GroupNames
import SessionGate.Proofs.GroupRuns
import SessionGate.Proofs.Interleaving
import SessionGate.Proofs.IsoTexts
import SessionGate.Proofs.Isolation
import SessionGate.Proofs.IssuedClaims
import SessionGate.Proofs.IssuedSessions
import SessionGate.Proofs.IssuedTokens
import SessionGate.Proofs.JsonEquality
import SessionGate.Proofs.JsonStrings
import SessionGate.Proofs.JsonTexts
import SessionGate.Proofs.KeyBinding
import SessionGate.Proofs.KeySelection
import SessionGate.Proofs.Lookups
import SessionGate.Proofs.Members
import SessionGate.Proofs.MetricRuns
import SessionGate.Proofs.MomentTexts
import SessionGate.Proofs.NumberOrder
import SessionGate.Proofs.NumberTexts
import SessionGate.Proofs.Perform
import SessionGate.Proofs.Projections
import SessionGate.Proofs.Provenance
import SessionGate.Proofs.ReadValues
import SessionGate.Proofs.Recording
import SessionGate.Proofs.Refresh
import SessionGate.Proofs.Renewals
import SessionGate.Proofs.RequestAccounts
import SessionGate.Proofs.RolePaths
import SessionGate.Proofs.Rounding
import SessionGate.Proofs.Rsassa
import SessionGate.Proofs.Secrets
import SessionGate.Proofs.SessionRecords
import SessionGate.Proofs.SessionReturns
import SessionGate.Proofs.SettingSources
import SessionGate.Proofs.SharedSecrets
import SessionGate.Proofs.SharedSession
import SessionGate.Proofs.ShortestDigits
import SessionGate.Proofs.SignedClaims
import SessionGate.Proofs.Steps
import SessionGate.Proofs.StoredSessions
import SessionGate.Proofs.Tallies
import SessionGate.Proofs.TextParts
import SessionGate.Proofs.TokenTexts
import SessionGate.Proofs.TokenWorlds
import SessionGate.Proofs.Traces
import SessionGate.Proofs.Trade
import SessionGate.Proofs.TwoRuns
import SessionGate.Proofs.Utf8Texts
import SessionGate.Provider
import SessionGate.ProviderData
import SessionGate.Roles
import SessionGate.Service
import SessionGate.Service.Endpoint
import SessionGate.Service.Payload
import SessionGate.Service.Serving
import SessionGate.Session
import SessionGate.Settings
import SessionGate.Settings.Dotenv
import SessionGate.Template
import SessionGate.Text
import SessionGate.Text.Blank
import SessionGate.Text.Case
import SessionGate.Text.CodeUnit
import SessionGate.Text.Digits
import SessionGate.Text.Encoding
import SessionGate.Text.Integer
import SessionGate.Text.Literal
import SessionGate.Text.Parts
import SessionGate.Text.Percent
import SessionGate.Text.Printable
import SessionGate.Text.Utf8
import SessionGate.TokenBundle
import SessionGate.TokenEndpoint
import SessionGate.Url
import SessionGate.Url.Address
import SessionGate.Url.Label
import SessionGate.Url.LabelLetters
import SessionGate.Url.Punycode
import SessionGate.Userinfo
import SessionGate.Verifier
import SessionGate.Verifier.Claims
import SessionGate.Verifier.Key
import SessionGate.Verifier.KeyText
import SessionGate.Verifier.Signing
import SessionGate.Verifier.Token
import SessionGate.World
