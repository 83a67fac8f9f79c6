import ArtifactPipeline.Main
import ArtifactPipeline.Metrics.Tenant
import ArtifactPipeline.Model.Deadline
import ArtifactPipeline.Session.Operation
import ArtifactPipeline.Proofs.Cache
import ArtifactPipeline.Proofs.Journal
import ArtifactPipeline.Proofs.WorldMoves
import ArtifactPipeline.Proofs.FlightMoves
import ArtifactPipeline.Proofs.WorkEnds
import ArtifactPipeline.Proofs.Within
import ArtifactPipeline.Proofs.Phases
import ArtifactPipeline.Proofs.Rounds
import ArtifactPipeline.Proofs.Course
import ArtifactPipeline.Proofs.Runs
import ArtifactPipeline.Proofs.Endings
import ArtifactPipeline.Proofs.Accounting
import ArtifactPipeline.Proofs.Entries
import ArtifactPipeline.Proofs.Steps
import ArtifactPipeline.Proofs.PhaseSteps
import ArtifactPipeline.Proofs.StoredReport
import ArtifactPipeline.Proofs.ModelCalls
import ArtifactPipeline.Proofs.Leeway
import ArtifactPipeline.Proofs.Relational
import ArtifactPipeline.Proofs.Tandem
import ArtifactPipeline.Proofs.Abreast
import ArtifactPipeline.Proofs.TandemRuns
import ArtifactPipeline.Proofs.Relay
import ArtifactPipeline.Proofs.Chunks
import ArtifactPipeline.Proofs.Streams
import ArtifactPipeline.Proofs.Updates
import ArtifactPipeline.Proofs.Lockstep
import ArtifactPipeline.Proofs.Escalation
import ArtifactPipeline.Proofs.Counterparts
import ArtifactPipeline.Proofs.Agreement
import ArtifactPipeline.Proofs.Losses
import ArtifactPipeline.Proofs.Completion
import ArtifactPipeline.Proofs.Ledger
import ArtifactPipeline.Proofs.Charges
import ArtifactPipeline.Proofs.Footprint
import ArtifactPipeline.Proofs.CharSets
import ArtifactPipeline.Proofs.Matches
import ArtifactPipeline.Proofs.ProgramRuns
import ArtifactPipeline.Proofs.Threads
import ArtifactPipeline.Proofs.Searching
import ArtifactPipeline.Proofs.Locations
import ArtifactPipeline.Proofs.Preference
import ArtifactPipeline.Proofs.Choices
import ArtifactPipeline.Proofs.Words
import ArtifactPipeline.Proofs.ImportShapes
import ArtifactPipeline.Proofs.ImportLeads
import ArtifactPipeline.Proofs.ImportSpacing
import ArtifactPipeline.Proofs.StringConstants
import ArtifactPipeline.Proofs.Alternatives
import ArtifactPipeline.Proofs.FencedBlock
import ArtifactPipeline.Proofs.Findings
import ArtifactPipeline.Proofs.Composition
import ArtifactPipeline.Proofs.StandardPolicy
import ArtifactPipeline.Proofs.ForbiddenConstructs
import ArtifactPipeline.Proofs.HtmlAssignments
import ArtifactPipeline.Proofs.FinalNewline
import ArtifactPipeline.Proofs.History
import ArtifactPipeline.Proofs.Refinement
import ArtifactPipeline.Proofs.Keyed
import ArtifactPipeline.Proofs.ImportStatements
import ArtifactPipeline.Proofs.Representation
import ArtifactPipeline.Proofs.Allowing
import ArtifactPipeline.Proofs.Confinement
import ArtifactPipeline.Proofs.TenantIsolation
import ArtifactPipeline.Proofs.Revalidation
import ArtifactPipeline.Proofs.PrintedComponent
import ArtifactPipeline.Proofs.StateMachine
import ArtifactPipeline.Proofs.SessionCalls
import ArtifactPipeline.Proofs.SessionHistories
import ArtifactPipeline.Proofs.Interleaving
import ArtifactPipeline.Proofs.Trail
import ArtifactPipeline.Proofs.Rendering
import ArtifactPipeline.Proofs.RepairPrompt
import ArtifactPipeline.Proofs.RepairRounds
import ArtifactPipeline.Proofs.RepairChain
import ArtifactPipeline.Proofs.JsonGrammar
import ArtifactPipeline.Proofs.JsonWriting
import ArtifactPipeline.Proofs.ClassificationReply
import ArtifactPipeline.Proofs.Ranking
import ArtifactPipeline.Proofs.TotalOrder
import ArtifactPipeline.Proofs.TierChoice
import ArtifactPipeline.Proofs.SimilarPatterns
import ArtifactPipeline.Proofs.TenantFigures
import ArtifactPipeline.Proofs.ScriptedReplies
import ArtifactPipeline.Proofs.PromptDocuments
import ArtifactPipeline.Proofs.PackageNames
import ArtifactPipeline.Proofs.RuleText
import ArtifactPipeline.Proofs.HostedCalls
import ArtifactPipeline.Proofs.Abandonment
import ArtifactPipeline.Proofs.TomlTexts
import ArtifactPipeline.Proofs.FiniteFloats
import ArtifactPipeline.Proofs.ShortestDecimals
import ArtifactPipeline.Proofs.TomlNumbers
import ArtifactPipeline.Proofs.TomlDocuments
import ArtifactPipeline.Proofs.SavedConfig
