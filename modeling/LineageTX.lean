import LineageTX.Outcome
import LineageTX.Refresh
import LineageTX.Server
import LineageTX.Discovery
import LineageTX.StableCatalogue
import LineageTX.Policy
import LineageTX.StageWriteback
import LineageTX.DbtSql
import LineageTX.SemanticApproval
import LineageTX.AirflowMapping
import LineageTX.NonInterference
import LineageTX.Library.Pool
import LineageTX.GithubApproval
import LineageTX.Proposals
import LineageTX.CommitSound
import LineageTX.DistinctAssets
import LineageTX.CatalogueWrites
import LineageTX.Publication
import LineageTX.PublicationRuns
import LineageTX.PublisherCalls
import LineageTX.PublishOnce
import LineageTX.GateCredit
import LineageTX.Worktrees
import LineageTX.Coordinator
import LineageTX.Transaction
import LineageTX.CoordinatorRuns
import LineageTX.ApprovalHarm
import LineageTX.CandidateCleanup
import LineageTX.AbortStore
import LineageTX.AbortAttempt
import LineageTX.Porcelain
import LineageTX.DeterministicModel
import LineageTX.ProposerBinding
import LineageTX.Rejected
import LineageTX.DbtRename
import LineageTX.Library.JsonRoundTrip
import LineageTX.JsonLoads
import LineageTX.SemanticRename
import LineageTX.ApprovalApplies
import LineageTX.AirflowRewrite
import LineageTX.ReceiptRoundTrip
import LineageTX.DecidedEvents
import LineageTX.GateDiscipline
import LineageTX.ReceiptRecovery
import LineageTX.DisciplinedCalls
import LineageTX.GateExclusion
import LineageTX.AbortConverges
import LineageTX.EmbeddedAborts
import LineageTX.Isolation
import LineageTX.Files
import LineageTX.Evidence
import LineageTX.EvidenceSeal
import LineageTX.IncompleteWrites
import LineageTX.PauseSnapshot
import LineageTX.PauseBinding
import LineageTX.ResumeRun
import LineageTX.ResumeReset
import LineageTX.ResumeCrash
import LineageTX.ApprovalVerdict
import LineageTX.RecordText
import LineageTX.StoreColumns
import LineageTX.RowRecords
import LineageTX.RecordsKept
import LineageTX.CommitJustified
import LineageTX.ApprovedRelease
import LineageTX.FixAgentRuns
import LineageTX.Unstranded
import LineageTX.CommitConverges
