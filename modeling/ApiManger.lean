import ApiManger.Interleaving.Program
import ApiManger.Interleaving.RelyGuarantee
import ApiManger.Interleaving.Call
import ApiManger.Transition.System
import ApiManger.Imperative.Routine
import ApiManger.Collection.Keyed
import ApiManger.Collection.FirstMatch
import ApiManger.Collection.Greatest
import ApiManger.Collection.UpdateOne
import ApiManger.Python.Value
import ApiManger.Python.Canonical
import ApiManger.Python.JsonText
import ApiManger.Experiments.Compose
import ApiManger.Experiments.RequestUrl
import ApiManger.Experiments.MergedQuery
import ApiManger.Experiments.Placeholders
import ApiManger.Experiments.Plan
import ApiManger.Experiments.Enqueue
import ApiManger.Experiments.Labels
import ApiManger.Experiments.Established
import ApiManger.Experiments.Pinned
import ApiManger.Evidence.Sanitize
import ApiManger.Evidence.Rows
import ApiManger.Locators.Locator
import ApiManger.Locators.Paths
import ApiManger.Locators.Laws
import ApiManger.Evidence.View
import ApiManger.Evidence.Shielded
import ApiManger.Evidence.Preview
import ApiManger.Python.Text
import ApiManger.Python.Mapping
import ApiManger.Python.Url
import ApiManger.Python.Utf8
import ApiManger.Python.Replace
import ApiManger.Store.Documents
import ApiManger.Execution.Contract
import ApiManger.Execution.Evidence
import ApiManger.Scheduler.Writes
import ApiManger.Scheduler.HostPolicy
import ApiManger.Scheduler.System
import ApiManger.Scheduler.Requests
import ApiManger.Scheduler.Worker
import ApiManger.Scheduler.Machine
import ApiManger.Scheduler.Footprint
import ApiManger.Scheduler.Steps
import ApiManger.Scheduler.Consistency
import ApiManger.Scheduler.Terminal
import ApiManger.Scheduler.Cancels
import ApiManger.Scheduler.LiveLease
import ApiManger.Scheduler.Results
import ApiManger.Scheduler.CrashReplay
import ApiManger.Scheduler.Rely
import ApiManger.Scheduler.Enqueue
import ApiManger.Scheduler.HostOutcomes
import ApiManger.Scheduler.HostStops
import ApiManger.Scheduler.HostThreads
import ApiManger.Authorization.Policy
import ApiManger.Authorization.Selectors
import ApiManger.Authorization.PublicAttributes
import ApiManger.Authorization.Clone
import ApiManger.Authorization.Expansion
import ApiManger.Authorization.CompleteMatrix
import ApiManger.Authorization.Activation
import ApiManger.Authorization.OneActive
import ApiManger.Authorization.Matrix
import ApiManger.Authorization.Schedule
import ApiManger.Authorization.Reruns
import ApiManger.Findings.Lifecycle
import ApiManger.Findings.Desk
import ApiManger.Findings.EventLog
import ApiManger.Findings.Retest
import ApiManger.Findings.VerifiedFix
import ApiManger.Review.Queue
import ApiManger.Review.MatrixQueue
import ApiManger.Lifecycle.Restore
import ApiManger.Lifecycle.Update
import ApiManger.Lifecycle.Residue
import ApiManger.Repair.Records
import ApiManger.Repair.Rebind
import ApiManger.Repair.Rollback
import ApiManger.Repair.AllOrNothing
import ApiManger.Repair.Verification
import ApiManger.Repair.OnePerBase
import ApiManger.Account.Context
import ApiManger.Account.JsonFile
import ApiManger.Account.RequestKwargs
import ApiManger.Account.AuthDetermined
import ApiManger.Account.Resolver
import ApiManger.Account.StaleAnswers
import ApiManger.Mfa.Codes
import ApiManger.Mfa.PushBroker
import ApiManger.Mfa.PushOnce
import ApiManger.Mfa.RedisBroker
import ApiManger.Mfa.RedisOnce
import ApiManger.Mfa.Discoverable
import ApiManger.Parameters.Environment
import ApiManger.Parameters.Replay
import ApiManger.Parameters.WorstCase
import ApiManger.Parameters.Rows
import ApiManger.Parameters.ReplayLaws
import ApiManger.Parameters.Deletion
import ApiManger.Parameters.Schedule
import ApiManger.Parameters.RequestLimit
import ApiManger.Routing.Decisions
import ApiManger.Routing.Effects
import ApiManger.Routing.Agreement
import ApiManger.Routing.Import
import ApiManger.Samples.Store
import ApiManger.Samples.Accounts
import ApiManger.Screening.Sqli
import ApiManger.Screening.Coverage
import ApiManger.Recipe.Language
import ApiManger.Recipe.Executor
import ApiManger.Recipe.Execute
import ApiManger.Recipe.Accounting
import ApiManger.Recipe.Totality
import ApiManger.Recipe.Attempt
import ApiManger.Collection.Cursor
import ApiManger.Collection.OrderedPairs
import ApiManger.Collection.SortedSet
import ApiManger.AiCli.Policy
import ApiManger.AiCli.Access
import ApiManger.AiCli.Redaction
import ApiManger.AiCli.Gate
import ApiManger.AiCli.Approvals
import ApiManger.Ai.Schema
import ApiManger.Plans.TestPlans
import ApiManger.Plans.Protocol
import ApiManger.Projects.Sources
import ApiManger.Projects.OneProject
import ApiManger.Parameters.Identity
import ApiManger.Parameters.Archive
import ApiManger.Parameters.ArchiveLookup
import ApiManger.Parameters.LastResort
import ApiManger.Parameters.ArchiveApplied
import ApiManger.Relations.Documents
import ApiManger.Relations.RuleOutputs
import ApiManger.Relations.Resumed
import ApiManger.Chain.Template
import ApiManger.Chain.Rendering
import ApiManger.Chain.Names
import ApiManger.Chain.Spelling
import ApiManger.Chain.Definition
import ApiManger.Chain.Raw
import ApiManger.Chain.Canonical
import ApiManger.Chain.RoundTrip
import ApiManger.Chain.WellFormed
import ApiManger.Chain.Propagation
import ApiManger.Chain.Resolve
import ApiManger.Chain.Replay
import ApiManger.Chain.Repeat
import ApiManger.Chain.Declared
import ApiManger.Chain.Carried
import ApiManger.Python.Product
import ApiManger.Rules.Spec
import ApiManger.Python.CompactText
import ApiManger.Rules.Mapping
import ApiManger.Rules.Printed
import ApiManger.Rules.RoundTrip
import ApiManger.Rules.Engine
import ApiManger.Rules.Evaluation
import ApiManger.Python.Substitute
import ApiManger.Signatures.Path
import ApiManger.Signatures.Agreement
import ApiManger.Signatures.Template
import ApiManger.Unlock.Steps
import ApiManger.Unlock.Evaluation
import ApiManger.Fixtures.Store
import ApiManger.Fixtures.History
import ApiManger.ObjectIds.Swap
import ApiManger.ObjectIds.Positions
import ApiManger.ObjectIds.Exact
import ApiManger.Locators.Orders
import ApiManger.Locators.Captured
import ApiManger.Python.Pattern
import ApiManger.Whitehat.Screen
import ApiManger.Whitehat.Verify
import ApiManger.Parameters.NameLaws
import ApiManger.Parameters.Occurrences
import ApiManger.Parameters.ArchiveConverges
import ApiManger.Screening.Snapshots
import ApiManger.Apifox.Correspondence
import ApiManger.Scheduler.HostTraffic
import ApiManger.OpenApi.Extraction
