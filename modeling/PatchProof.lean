import PatchProof.Storage.DeliveryOrder
import PatchProof.Storage.Lifecycle
import PatchProof.Storage.SharedClock
import PatchProof.Cloud.Task
import PatchProof.Cloud.Analyze
import PatchProof.Execution.Challenge
import PatchProof.Publication.AtMostOne
import PatchProof.Worker.FailClosed
import PatchProof.Worker.Session
import PatchProof.Publication.Obligation
import PatchProof.Publication.Recordable
import PatchProof.Evidence.Document
import PatchProof.Investigation.ClaimInvestigator
import PatchProof.Execution.Remote
import PatchProof.Investigation.Discipline
import PatchProof.Investigation.Promotion
import PatchProof.Investigation.Recording
import PatchProof.Evidence.Selection
import PatchProof.Context.Excluded
import PatchProof.Context.ChangedSymbols
import PatchProof.Context.Totality
import PatchProof.Worker.Answers
import PatchProof.Protocol.Semantic
import PatchProof.Protocol.CrossTable
import PatchProof.Protocol.EvidenceGate
import PatchProof.Protocol.ModelCalls
import PatchProof.Protocol.FirestoreService
import PatchProof.Evidence.SharedInterface
import PatchProof.Execution.TestPaths
import PatchProof.Execution.ContractResolution
import PatchProof.Execution.PytestRunner
import PatchProof.Evidence.HeadOnly
import PatchProof.Evidence.Invariance
import PatchProof.Publication.Fences
import PatchProof.Publication.Presented
import PatchProof.Storage.RecentRuns
import PatchProof.Cloud.Dashboard
import PatchProof.Execution.BoundedOutput
import PatchProof.Execution.RevisionIdentity
import PatchProof.Publication.EvidenceAnchor
import PatchProof.Execution.ProductContext
import PatchProof.Execution.Redaction
import PatchProof.Investigation.Budgets
import PatchProof.Investigation.Relevance
import PatchProof.Investigation.Observables
import PatchProof.Investigation.Ending
import PatchProof.Investigation.ImportResolution
import PatchProof.Investigation.Conservation
import PatchProof.Investigation.BuildFailures
import PatchProof.Investigation.Scoping
import PatchProof.Investigation.HonestResults
import PatchProof.Investigation.IdentityText
import PatchProof.Context.DiffBudget
import PatchProof.Context.JsonBudget
import PatchProof.Context.NameStatus
import PatchProof.HardMode.CallBudget
import PatchProof.HardMode.OneStart
import PatchProof.Context.SignatureReading
import PatchProof.HardMode.SameLoop
import PatchProof.Cloud.Webhook
import PatchProof.Cloud.Intake
import PatchProof.Library.Chains
import PatchProof.Provider.Invocation
import PatchProof.Publication.InstallationToken
import PatchProof.Context.Document
import PatchProof.HardMode.LeakAudit
import PatchProof.HardMode.OracleGate
import PatchProof.Execution.Worktrees
