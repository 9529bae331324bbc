import BuildHook.Build.Error
import BuildHook.Build.Request
import BuildHook.Build.Run
import BuildHook.Build.Settings
import BuildHook.Config.Basic
import BuildHook.Config.Load
import BuildHook.Config.Toml
import BuildHook.Decimal.Nearest
import BuildHook.Decimal.Shortest
import BuildHook.Digest.Hmac
import BuildHook.Digest.Sha256
import BuildHook.Dispatch.Course
import BuildHook.Dispatch.Locks
import BuildHook.Dispatch.Pool
import BuildHook.Environment.Basic
import BuildHook.Environment.File
import BuildHook.Event
import BuildHook.FileTree
import BuildHook.FileTree.Creation
import BuildHook.Git.Call
import BuildHook.Git.Error
import BuildHook.Http.Form
import BuildHook.Http.Message
import BuildHook.Io.Error
import BuildHook.Json.Cursor
import BuildHook.Json.NumberReader
import BuildHook.Json.Parser
import BuildHook.Json.Printer
import BuildHook.Json.Sequence
import BuildHook.Json.Skip
import BuildHook.Json.StringReader
import BuildHook.Json.Value
import BuildHook.Location
import BuildHook.Main
import BuildHook.Path
import BuildHook.Procedure
import BuildHook.Procedure.History
import BuildHook.Process.Failure
import BuildHook.Process.Outcome
import BuildHook.Project.Key
import BuildHook.Project.Record
import BuildHook.Project.Resolver
import BuildHook.Proofs.Build.Collaborators
import BuildHook.Proofs.Build.Dependence
import BuildHook.Proofs.Build.Keys
import BuildHook.Proofs.Build.Message
import BuildHook.Proofs.Build.Outcome
import BuildHook.Proofs.Build.Reports
import BuildHook.Proofs.Build.Requests
import BuildHook.Proofs.Build.Sample
import BuildHook.Proofs.Build.Span
import BuildHook.Proofs.Build.Veil
import BuildHook.Proofs.Build.Word
import BuildHook.Proofs.Config.Loading
import BuildHook.Proofs.Dispatch.Accounting
import BuildHook.Proofs.Dispatch.Exclusion
import BuildHook.Proofs.Dispatch.Gates
import BuildHook.Proofs.Dispatch.Independence
import BuildHook.Proofs.Dispatch.KeyFiles
import BuildHook.Proofs.Dispatch.Ledger
import BuildHook.Proofs.Dispatch.Order
import BuildHook.Proofs.Dispatch.Readiness
import BuildHook.Proofs.Dispatch.Serial
import BuildHook.Proofs.Dispatch.Settling
import BuildHook.Proofs.Dispatch.Step
import BuildHook.Proofs.Dispatch.Together
import BuildHook.Proofs.Dispatch.Traces
import BuildHook.Proofs.Dispatch.Veiled
import BuildHook.Proofs.FileTree.Making
import BuildHook.Proofs.FileTree.Sight
import BuildHook.Proofs.FileTree.View
import BuildHook.Proofs.FileTree.Walk
import BuildHook.Proofs.Git.Options
import BuildHook.Proofs.Git.SshCommand
import BuildHook.Proofs.Json.Canonical
import BuildHook.Proofs.Json.Grammar
import BuildHook.Proofs.Json.Literal
import BuildHook.Proofs.Json.Number
import BuildHook.Proofs.Json.Passing
import BuildHook.Proofs.Json.Printing
import BuildHook.Proofs.Json.Reading
import BuildHook.Proofs.Json.Values
import BuildHook.Proofs.List.Entries
import BuildHook.Proofs.List.Last
import BuildHook.Proofs.Path.Apart
import BuildHook.Proofs.Path.Containment
import BuildHook.Proofs.Path.Join
import BuildHook.Proofs.Path.Steps
import BuildHook.Proofs.Path.Straight
import BuildHook.Proofs.Procedure.Indifference
import BuildHook.Proofs.Procedure.Interference
import BuildHook.Proofs.Process.Summary
import BuildHook.Proofs.Project.Lookup
import BuildHook.Proofs.Project.Secrets
import BuildHook.Proofs.Push.Acceptance
import BuildHook.Proofs.Push.RoundTrip
import BuildHook.Proofs.Script.Bindings
import BuildHook.Proofs.Script.Execution
import BuildHook.Proofs.Script.KeyLines
import BuildHook.Proofs.Script.Log
import BuildHook.Proofs.Service.Chronicle
import BuildHook.Proofs.Service.Responses
import BuildHook.Proofs.Service.Secrecy
import BuildHook.Proofs.Service.Unsigned
import BuildHook.Proofs.Shape.Canonical
import BuildHook.Proofs.Shape.Fields
import BuildHook.Proofs.Shape.Readers
import BuildHook.Proofs.Shape.Trees
import BuildHook.Proofs.Shell.Line
import BuildHook.Proofs.Signature.Verification
import BuildHook.Proofs.Text.Encoding
import BuildHook.Proofs.Text.Hex
import BuildHook.Proofs.Text.Lines
import BuildHook.Proofs.Text.Utf8
import BuildHook.Proofs.Webhook.Gate
import BuildHook.Push.Basic
import BuildHook.Rehearsal.Cast
import BuildHook.Rehearsal.Company
import BuildHook.Rehearsal.Opening
import BuildHook.Rehearsal.Session
import BuildHook.Rehearsal.Stage
import BuildHook.Script.Context
import BuildHook.Script.Error
import BuildHook.Script.Sandbox
import BuildHook.Service.Life
import BuildHook.Service.Router
import BuildHook.Service.Running
import BuildHook.Shape.Basic
import BuildHook.Shape.FromJsonText
import BuildHook.Shape.FromTree
import BuildHook.Shape.Mismatch
import BuildHook.Shape.View
import BuildHook.Signature
import BuildHook.Start.Address
import BuildHook.Start.Sequence
import BuildHook.Status.Error
import BuildHook.Status.Report
import BuildHook.Status.State
import BuildHook.Status.Update
import BuildHook.Text.Alphanumeric
import BuildHook.Text.CodeTable
import BuildHook.Text.Composed
import BuildHook.Text.Decomposition
import BuildHook.Text.Hex
import BuildHook.Text.Lines
import BuildHook.Text.Mark
import BuildHook.Text.Printable
import BuildHook.Text.Quoted
import BuildHook.Text.Split
import BuildHook.Text.Utf8
import BuildHook.Toml.Document
import BuildHook.Toml.Number
import BuildHook.Toml.Parser
import BuildHook.Toml.Scan
import BuildHook.Toml.Text
import BuildHook.Url.Domain.Basic
import BuildHook.Url.Domain.Direction
import BuildHook.Url.Domain.Joining
import BuildHook.Url.Domain.Mapping
import BuildHook.Url.Escape
import BuildHook.Url.Host
import BuildHook.Url.Parser
import BuildHook.Url.Path
import BuildHook.Url.Punycode
import BuildHook.Webhook.Error
import BuildHook.Webhook.Verdict
import BuildHook.Workspace
