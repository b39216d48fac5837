import CredentialReach.Analysis.Aggregate
import CredentialReach.Analysis.Fault
import CredentialReach.Analysis.Result
import CredentialReach.Collection.Basic
import CredentialReach.Collection.Listing
import CredentialReach.Collection.Template
import CredentialReach.CommandLine.Basic
import CredentialReach.CommandLine.Help
import CredentialReach.CommandLine.Reader
import CredentialReach.Decimal.Binary
import CredentialReach.Decimal.Literal
import CredentialReach.Decimal.Shortest
import CredentialReach.Http.Exchange
import CredentialReach.Http.Header
import CredentialReach.Http.Session
import CredentialReach.Json.Basic
import CredentialReach.Json.Fault
import CredentialReach.Json.Literal
import CredentialReach.Json.Pointer
import CredentialReach.Json.Printer
import CredentialReach.Json.Reader
import CredentialReach.Json.Record
import CredentialReach.Main
import CredentialReach.Mysql.ConnectionString
import CredentialReach.Mysql.Grants
import CredentialReach.Mysql.Privilege
import CredentialReach.Mysql.Report
import CredentialReach.Mysql.Snapshot
import CredentialReach.Mysql.Statement
import CredentialReach.Mysql.Tree
import CredentialReach.Names.Map
import CredentialReach.Names.Set
import CredentialReach.Permission.Basic
import CredentialReach.Probe.Basic
import CredentialReach.Probe.Scopes
import CredentialReach.Proofs.AddressHosts
import CredentialReach.Proofs.AddressPaths
import CredentialReach.Proofs.AggregatePlacement
import CredentialReach.Proofs.AnalysisTime
import CredentialReach.Proofs.AncestorFields
import CredentialReach.Proofs.ByteOrder
import CredentialReach.Proofs.CollectionTrails
import CredentialReach.Proofs.ColumnLists
import CredentialReach.Proofs.CourseHistory
import CredentialReach.Proofs.CourseOrders
import CredentialReach.Proofs.CourseRecords
import CredentialReach.Proofs.CourseSteps
import CredentialReach.Proofs.DiscoveryOrder
import CredentialReach.Proofs.Expansion
import CredentialReach.Proofs.FailedBranches
import CredentialReach.Proofs.FigmaScopes
import CredentialReach.Proofs.FullNames
import CredentialReach.Proofs.GraphGrowth
import CredentialReach.Proofs.GraphHistory
import CredentialReach.Proofs.GraphStore
import CredentialReach.Proofs.GuardedWalks
import CredentialReach.Proofs.HeldPermissions
import CredentialReach.Proofs.HiddenPasswords
import CredentialReach.Proofs.Implications
import CredentialReach.Proofs.InventoryRecords
import CredentialReach.Proofs.KeptItems
import CredentialReach.Proofs.LaunchDarklyHoldings
import CredentialReach.Proofs.ListedItems
import CredentialReach.Proofs.OutsideCuts
import CredentialReach.Proofs.OwnerFields
import CredentialReach.Proofs.Placeholders
import CredentialReach.Proofs.PrintedReports
import CredentialReach.Proofs.PrivilegeLevels
import CredentialReach.Proofs.PrivilegeLists
import CredentialReach.Proofs.PrivilegeNames
import CredentialReach.Proofs.ProbeRuns
import CredentialReach.Proofs.PrunedTrees
import CredentialReach.Proofs.QuotedText
import CredentialReach.Proofs.RedactedConnections
import CredentialReach.Proofs.ReportedAccess
import CredentialReach.Proofs.ReportedHoldings
import CredentialReach.Proofs.ResolvedPermissions
import CredentialReach.Proofs.ResourceForest
import CredentialReach.Proofs.RevealedScopes
import CredentialReach.Proofs.SchemaNodes
import CredentialReach.Proofs.SeededTrees
import CredentialReach.Proofs.SharedNames
import CredentialReach.Proofs.SharedSubtrees
import CredentialReach.Proofs.StatementEffect
import CredentialReach.Proofs.StatementFaults
import CredentialReach.Proofs.StatementOrder
import CredentialReach.Proofs.StatementReach
import CredentialReach.Proofs.StatementReading
import CredentialReach.Proofs.StatementRendering
import CredentialReach.Proofs.StatementRuns
import CredentialReach.Proofs.StatementSteps
import CredentialReach.Proofs.StatementText
import CredentialReach.Proofs.TargetText
import CredentialReach.Proofs.TemplateCuts
import CredentialReach.Proofs.TextMarks
import CredentialReach.Proofs.TextPieces
import CredentialReach.Proofs.Traversals
import CredentialReach.Proofs.TreeNodes
import CredentialReach.Proofs.TreeObjects
import CredentialReach.Proofs.TreeReport
import CredentialReach.Proofs.VisitAnswers
import CredentialReach.Proofs.WalkDeadline
import CredentialReach.Proofs.WalkEnd
import CredentialReach.Proofs.WalkEvents
import CredentialReach.Proofs.WalkOrder
import CredentialReach.Proofs.WalkPermissions
import CredentialReach.Proofs.WrittenAddresses
import CredentialReach.Proofs.WrittenDocuments
import CredentialReach.Report.Basic
import CredentialReach.Report.Paint
import CredentialReach.Report.Text
import CredentialReach.Resource.Basic
import CredentialReach.Resource.Document
import CredentialReach.Resource.Graph
import CredentialReach.Resource.History
import CredentialReach.Resource.Store
import CredentialReach.Settings.Basic
import CredentialReach.Settings.Document
import CredentialReach.Text.Blank
import CredentialReach.Text.File
import CredentialReach.Text.Instant
import CredentialReach.Text.Percent
import CredentialReach.Text.Printable
import CredentialReach.Text.Quoted
import CredentialReach.Text.Search
import CredentialReach.Toml.Basic
import CredentialReach.Toml.Reader
import CredentialReach.Toml.Scalar
import CredentialReach.Unicode.Category
import CredentialReach.Unicode.Composition
import CredentialReach.Unicode.Direction
import CredentialReach.Unicode.Joining
import CredentialReach.Unicode.Table
import CredentialReach.Url.Domain
import CredentialReach.Url.DomainMap
import CredentialReach.Url.Host
import CredentialReach.Url.Label
import CredentialReach.Url.Path
import CredentialReach.Url.Punycode
import CredentialReach.Url.Reader
import CredentialReach.Vendor.Analyzer
import CredentialReach.Vendor.Connection
import CredentialReach.Vendor.Credential
import CredentialReach.Vendor.Figma
import CredentialReach.Vendor.LaunchDarkly
import CredentialReach.Vendor.Mysql
import CredentialReach.Walk.Branch
import CredentialReach.Walk.Clock
import CredentialReach.Walk.Course
import CredentialReach.Walk.Fault
import CredentialReach.Walk.Interleaving
import CredentialReach.Walk.Schedule
import CredentialReach.Yaml.Printer
import CredentialReach.Yaml.Scalar
