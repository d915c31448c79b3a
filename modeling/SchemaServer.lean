import SchemaServer.Analyzer
import SchemaServer.Analyzer.Scripted
import SchemaServer.Bundled
import SchemaServer.Client
import SchemaServer.CommandLine.Parameter
import SchemaServer.CommandLine.Parse
import SchemaServer.CommandLine.Similar
import SchemaServer.Contract
import SchemaServer.Document
import SchemaServer.Double
import SchemaServer.FileTree
import SchemaServer.FileTree.Walk
import SchemaServer.Gateway
import SchemaServer.Install
import SchemaServer.Json.Basic
import SchemaServer.Json.Fault
import SchemaServer.Json.Number
import SchemaServer.Json.Parse
import SchemaServer.Json.Print
import SchemaServer.Json.Scan
import SchemaServer.Json.Shape
import SchemaServer.Json.Tree
import SchemaServer.Json.Words
import SchemaServer.Launch
import SchemaServer.Path
import SchemaServer.Pipe
import SchemaServer.Position
import SchemaServer.Program
import SchemaServer.Proofs.Answers
import SchemaServer.Proofs.Breakage
import SchemaServer.Proofs.Bytes
import SchemaServer.Proofs.Callers
import SchemaServer.Proofs.Chapters
import SchemaServer.Proofs.Coherence
import SchemaServer.Proofs.Coordinates
import SchemaServer.Proofs.Decoders
import SchemaServer.Proofs.Diagnoses
import SchemaServer.Proofs.Evictions
import SchemaServer.Proofs.FileTrees
import SchemaServer.Proofs.Forms
import SchemaServer.Proofs.History
import SchemaServer.Proofs.Hosts
import SchemaServer.Proofs.InForce
import SchemaServer.Proofs.Independence
import SchemaServer.Proofs.Installs
import SchemaServer.Proofs.Logs
import SchemaServer.Proofs.Operations
import SchemaServer.Proofs.Ordered
import SchemaServer.Proofs.Outcomes
import SchemaServer.Proofs.Overtaking
import SchemaServer.Proofs.Passages
import SchemaServer.Proofs.Paths
import SchemaServer.Proofs.PercentCodes
import SchemaServer.Proofs.Printing
import SchemaServer.Proofs.Readers
import SchemaServer.Proofs.Replies
import SchemaServer.Proofs.Requests
import SchemaServer.Proofs.Resync
import SchemaServer.Proofs.Revalidation
import SchemaServer.Proofs.RootedUrls
import SchemaServer.Proofs.RoundTrips
import SchemaServer.Proofs.Runs
import SchemaServer.Proofs.Skips
import SchemaServer.Proofs.Snapshots
import SchemaServer.Proofs.StandardLibrary
import SchemaServer.Proofs.Stores
import SchemaServer.Proofs.Stripping
import SchemaServer.Proofs.Targets
import SchemaServer.Proofs.TextEnds
import SchemaServer.Proofs.Verdicts
import SchemaServer.Proofs.Views
import SchemaServer.Proofs.WholeEdits
import SchemaServer.Proofs.WrittenUrls
import SchemaServer.Protocol.Capability
import SchemaServer.Protocol.Completion
import SchemaServer.Protocol.Edit
import SchemaServer.Protocol.Forms
import SchemaServer.Protocol.Leaf
import SchemaServer.Protocol.Negotiation
import SchemaServer.Protocol.Params
import SchemaServer.Protocol.Record
import SchemaServer.Protocol.Unanswered
import SchemaServer.Report
import SchemaServer.Rpc
import SchemaServer.Server.Basic
import SchemaServer.Server.Routes
import SchemaServer.Server.Worker
import SchemaServer.Session
import SchemaServer.Settings
import SchemaServer.Snapshot
import SchemaServer.SortedMap
import SchemaServer.Store
import SchemaServer.Text.CodeTable
import SchemaServer.Text.Compose
import SchemaServer.Text.Plain
import SchemaServer.Text.Printable
import SchemaServer.Text.Quoted
import SchemaServer.Text.Split
import SchemaServer.Text.Utf16
import SchemaServer.Text.Utf8
import SchemaServer.Url.Domain.Direction
import SchemaServer.Url.Domain.Joiners
import SchemaServer.Url.Domain.Name
import SchemaServer.Url.Domain.Spelling
import SchemaServer.Url.Host
import SchemaServer.Url.Parse
import SchemaServer.Url.Percent
import SchemaServer.Url.Punycode
import SchemaServer.Url.Segments
