import OhMyClass.Gateway.Jobs.Attempts
import OhMyClass.Gateway.Jobs.Fencing
import OhMyClass.Gateway.Jobs.Leases
import OhMyClass.Gateway.Retention.Cleanup
import OhMyClass.Gateway.Snapshots.Isolation
import OhMyClass.Gateway.Snapshots.Sanitized
import OhMyClass.Gateway.Worker.Retries
import OhMyClass.Gateway.Gates.Answers
import OhMyClass.Gateway.Teaching.HotState
import OhMyClass.Gateway.Teaching.Relay
import OhMyClass.Gateway.Teaching.Submissions
import OhMyClass.Gateway.Teaching.RoomCodes
import OhMyClass.Gateway.Teaching.Recaps
import OhMyClass.Gateway.Units.Completion
import OhMyClass.Gateway.Documents.Lineage
import OhMyClass.TeachingPack.HealedState
import OhMyClass.TeachingPack.ComplianceChecks
import OhMyClass.Healing.BreakerStores
import OhMyClass.TeachingPack.NewestStatus
import OhMyClass.TeachingPack.StaleScope
import OhMyClass.Quality.RealMajority
import OhMyClass.Exporters.GiftExport
import OhMyClass.DeckEditor.Saves
import OhMyClass.Gateway.Admission.Limits
import OhMyClass.Gateway.Documents.ApprovedVersions
import OhMyClass.Gateway.Documents.DerivedIds
import OhMyClass.Gateway.Media.Families
import OhMyClass.Gateway.Notifications.Once
import OhMyClass.Gateway.Exports.CurrentExports
import OhMyClass.Gateway.Outcomes.Consents
import OhMyClass.Gateway.Runs.StreamWakeups
import OhMyClass.Gateway.Renderer.Answers
import OhMyClass.LlmClient.Protection
import OhMyClass.PedagogicalCompiler.Decomposition
import OhMyClass.PedagogicalCompiler.Frontier
import OhMyClass.PedagogicalCompiler.Repairs
import OhMyClass.Tenancy.Isolation
import OhMyClass.Middleware.SequenceConsistency
import OhMyClass.Gateway.Admission.RateLimiting
import OhMyClass.Gateway.Teaching.JoinLimits
import OhMyClass.Gateway.Runs.ContractLog
import OhMyClass.Gateway.Runs.OutboxDelivery
import OhMyClass.TeachingPack.Reducers
import OhMyClass.TeachingPack.GateTrust
import OhMyClass.TeachingPack.ScopedReplan
import OhMyClass.Projection.TeacherParts
import OhMyClass.Generation.BranchStatus
import OhMyClass.TeachingPack.SectionEdits
import OhMyClass.SlideDeck.ScopedFeedback
import OhMyClass.TeachingPack.ScopedRepair
import OhMyClass.TeachingPack.VocabularyBatch
import OhMyClass.TeachingPack.VocabularyInput
import OhMyClass.Healing.BreakerReplies
import OhMyClass.UnitPlanner.SequenceCritic
import OhMyClass.Outcomes.KnowledgeTracing
import OhMyClass.LlmClient.TokenBudget
import OhMyClass.Scoring.Strategies
import OhMyClass.Exporters.VocabularyPackage
