import Listmaster.Address
import Listmaster.Address.Json
import Listmaster.Category
import Listmaster.Category.Json
import Listmaster.Classifier
import Listmaster.Classifier.Json
import Listmaster.Command
import Listmaster.CommandLine
import Listmaster.Config
import Listmaster.Config.Document
import Listmaster.Config.Json
import Listmaster.Directory
import Listmaster.Directory.Static
import Listmaster.Domain
import Listmaster.Duration
import Listmaster.Environment
import Listmaster.Expansion
import Listmaster.Files
import Listmaster.Group
import Listmaster.Group.Json
import Listmaster.Host.Ip
import Listmaster.Host.Label
import Listmaster.Json.Basic
import Listmaster.Json.Number
import Listmaster.Json.Printer
import Listmaster.Json.Reader
import Listmaster.Json.Record
import Listmaster.Json.Trial
import Listmaster.Ldap.Client
import Listmaster.Ldap.Endpoint
import Listmaster.Ldap.Filter
import Listmaster.Ldap.Parameters
import Listmaster.Ldap.Parameters.Json
import Listmaster.Ldap.Script
import Listmaster.Ldap.Search
import Listmaster.Log.Directive
import Listmaster.Log.FieldValue
import Listmaster.Log.Level
import Listmaster.Log.Pattern
import Listmaster.LoopGuard
import Listmaster.Mail
import Listmaster.Mail.Json
import Listmaster.Main
import Listmaster.Notice
import Listmaster.Number.Binary64
import Listmaster.Path
import Listmaster.Pem
import Listmaster.Posting
import Listmaster.Program
import Listmaster.Redistribution
import Listmaster.Refusal
import Listmaster.Sandbox
import Listmaster.Service
import Listmaster.Service.Json
import Listmaster.Session
import Listmaster.Sorted.Map
import Listmaster.Sorted.Set
import Listmaster.Text.Alphanumeric
import Listmaster.Text.Blank
import Listmaster.Text.Case
import Listmaster.Text.Digits
import Listmaster.Text.Pieces
import Listmaster.Text.Printable
import Listmaster.Text.Quoted
import Listmaster.Text.Ranges
import Listmaster.Text.Utf8
import Listmaster.Toml.Document
import Listmaster.Toml.Number
import Listmaster.Toml.Quoted
import Listmaster.Toml.Table
import Listmaster.Url
import Listmaster.Version
import Listmaster.Proofs.Text.Case
import Listmaster.Proofs.Text.Pieces
import Listmaster.Proofs.Sorted
import Listmaster.Proofs.Address.Host
import Listmaster.Proofs.Address.Canonical
import Listmaster.Proofs.LoopGuard
import Listmaster.Proofs.Session
import Listmaster.Proofs.Survey.Basic
import Listmaster.Proofs.Survey.Walk
import Listmaster.Proofs.Verdict.Basic
import Listmaster.Proofs.Verdict.Deciding
import Listmaster.Proofs.Redistribution
import Listmaster.Proofs.Process
import Listmaster.Proofs.Idempotence
import Listmaster.Proofs.Independence
import Listmaster.Proofs.Unasked
import Listmaster.Proofs.LoopPrevention
import Listmaster.Proofs.Survey.Reach
import Listmaster.Proofs.Survey.Chain
import Listmaster.Proofs.Survey.Whole
import Listmaster.Proofs.Survey.Warnings
import Listmaster.Proofs.Delivery
import Listmaster.Proofs.Parts
import Listmaster.Proofs.Exactness
import Listmaster.Proofs.Depth
import Listmaster.Proofs.Truncation
import Listmaster.Proofs.Conservation
import Listmaster.Proofs.Failure
import Listmaster.Proofs.Description
import Listmaster.Proofs.Reordering
import Listmaster.Proofs.Rejection
import Listmaster.Proofs.Discipline
import Listmaster.Proofs.Json.Fits
import Listmaster.Proofs.Json.Tokens
import Listmaster.Proofs.Json.Text
import Listmaster.Proofs.Json.Meaning
import Listmaster.Proofs.Json.Records
import Listmaster.Proofs.RoundTrip
import Listmaster.Proofs.Ldap.Cap
import Listmaster.Proofs.Ldap.Nesting
import Listmaster.Proofs.Survey.Entering
import Listmaster.Proofs.Recording
import Listmaster.Proofs.Placement
import Listmaster.Proofs.Noninterference
import Listmaster.Proofs.Rights
import Listmaster.Proofs.Locality
import Listmaster.Proofs.Ldap.Grammar
import Listmaster.Proofs.Ldap.GroupFilter
import Listmaster.Proofs.Headers
import Listmaster.Proofs.Naming
import Listmaster.Proofs.Ldap.Search
import Listmaster.Proofs.Ldap.Answers
import Listmaster.Proofs.Ldap.Conversation
import Listmaster.Proofs.Persistence
import Listmaster.Proofs.Address.Spelling
import Listmaster.Proofs.Consultation
import Listmaster.Proofs.Subtree
import Listmaster.Proofs.Recognition
import Listmaster.Proofs.Normalization
import Listmaster.Proofs.Marker
import Listmaster.Proofs.Traversal
import Listmaster.Proofs.Ldap.Frugality
