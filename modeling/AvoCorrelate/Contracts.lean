/-!
# Contracts

The immutable records the services exchange, with the fields that the modelled
services read or store. Identifiers and digests are strings, as in the source;
a timestamp is its instant. `schema_version` fields are literals and left out.
-/
namespace AvoCorrelate

/-- A point in time, as the instant it denotes. -/
abbrev Instant := Int

/-- The Unicode `White_Space` characters, which stripping removes. -/
def isWhiteSpace (c : Char) : Bool :=
  (9 ≤ c.toNat && c.toNat ≤ 13) || c.toNat = 0x20 || c.toNat = 0x85 || c.toNat = 0xA0 || c.toNat = 0x1680 ||
    (0x2000 ≤ c.toNat && c.toNat ≤ 0x200A) || c.toNat = 0x2028 || c.toNat = 0x2029 || c.toNat = 0x202F ||
    c.toNat = 0x205F || c.toNat = 0x3000

/-- A `NonEmptyString` field accepts a string with something besides
whitespace in it. -/
def nonEmpty (s : String) : Bool := s.toList.any (fun c => !isWhiteSpace c)

/-! ## Lifecycle states -/

inductive RunState
  | created | validating | ready | running | pausing | paused | cancelling
  | blockedReview | blockedReconciliation | completed | cancelled | failed
  deriving DecidableEq

def RunState.value : RunState → String
  | .created => "created"
  | .validating => "validating"
  | .ready => "ready"
  | .running => "running"
  | .pausing => "pausing"
  | .paused => "paused"
  | .cancelling => "cancelling"
  | .blockedReview => "blocked_review"
  | .blockedReconciliation => "blocked_reconciliation"
  | .completed => "completed"
  | .cancelled => "cancelled"
  | .failed => "failed"

inductive VariationSessionState
  | queued | running | proposalReady | exhausted | policyBlocked
  | reconciliationRequired | cancelled | failed
  deriving DecidableEq

def VariationSessionState.value : VariationSessionState → String
  | .queued => "queued"
  | .running => "running"
  | .proposalReady => "proposal_ready"
  | .exhausted => "exhausted"
  | .policyBlocked => "policy_blocked"
  | .reconciliationRequired => "reconciliation_required"
  | .cancelled => "cancelled"
  | .failed => "failed"

inductive CandidateState
  | staged | evaluating | reviewRequired | admitted | rejected | quarantined
  | policyBlocked | cancelled
  deriving DecidableEq

def CandidateState.value : CandidateState → String
  | .staged => "staged"
  | .evaluating => "evaluating"
  | .reviewRequired => "review_required"
  | .admitted => "admitted"
  | .rejected => "rejected"
  | .quarantined => "quarantined"
  | .policyBlocked => "policy_blocked"
  | .cancelled => "cancelled"

inductive ReservationState
  | reserved | held | completed | released | exceeded
  deriving DecidableEq

def ReservationState.value : ReservationState → String
  | .reserved => "reserved"
  | .held => "held"
  | .completed => "completed"
  | .released => "released"
  | .exceeded => "exceeded"

inductive ActivityState
  | queued | running | completed | reconciliationRequired | cancelled | failed
  deriving DecidableEq

def ActivityState.value : ActivityState → String
  | .queued => "queued"
  | .running => "running"
  | .completed => "completed"
  | .reconciliationRequired => "reconciliation_required"
  | .cancelled => "cancelled"
  | .failed => "failed"

inductive InvocationState
  | started | running | completed | failed | reconciliationRequired
  deriving DecidableEq

def InvocationState.value : InvocationState → String
  | .started => "started"
  | .running => "running"
  | .completed => "completed"
  | .failed => "failed"
  | .reconciliationRequired => "reconciliation_required"

/-- The values `open` and `resolved`. -/
inductive CaseState
  | opened | resolved
  deriving DecidableEq

inductive Resolution
  | retry | acceptResult | cancel | fail
  deriving DecidableEq

def Resolution.value : Resolution → String
  | .retry => "retry"
  | .acceptResult => "accept_result"
  | .cancel => "cancel"
  | .fail => "fail"

inductive ReviewState
  | pending | approved | rejected | expired | withdrawn
  deriving DecidableEq

def ReviewState.value : ReviewState → String
  | .pending => "pending"
  | .approved => "approved"
  | .rejected => "rejected"
  | .expired => "expired"
  | .withdrawn => "withdrawn"

/-! ## Budgets -/

/-- The budget dimensions: `BudgetSpec.model_fields` without `schema_version`. -/
inductive Dimension
  | wallClockSeconds | modelInputTokens | modelOutputTokens | modelCostMicrousd | toolCalls
  | sandboxCpuSeconds | sandboxGpuSeconds | authoritativeEvaluations | variationSessions | artifactBytes
  deriving DecidableEq

namespace Dimension

def all : List Dimension :=
  [wallClockSeconds, modelInputTokens, modelOutputTokens, modelCostMicrousd, toolCalls,
    sandboxCpuSeconds, sandboxGpuSeconds, authoritativeEvaluations, variationSessions, artifactBytes]

def name : Dimension → String
  | wallClockSeconds => "wall_clock_seconds"
  | modelInputTokens => "model_input_tokens"
  | modelOutputTokens => "model_output_tokens"
  | modelCostMicrousd => "model_cost_microusd"
  | toolCalls => "tool_calls"
  | sandboxCpuSeconds => "sandbox_cpu_seconds"
  | sandboxGpuSeconds => "sandbox_gpu_seconds"
  | authoritativeEvaluations => "authoritative_evaluations"
  | variationSessions => "variation_sessions"
  | artifactBytes => "artifact_bytes"

theorem mem_all (d : Dimension) : d ∈ all := by cases d <;> decide

instance (p : Dimension → Prop) [DecidablePred p] : Decidable (∀ d, p d) :=
  decidable_of_iff (∀ d ∈ all, p d) ⟨fun h d => h d (mem_all d), fun h d _ => h d⟩

end Dimension

/-- `UsageRecord`; a `BudgetSpec` has the same fields. -/
structure UsageRecord where
  wallClockSeconds : Nat
  modelInputTokens : Nat
  modelOutputTokens : Nat
  modelCostMicrousd : Nat
  toolCalls : Nat
  sandboxCpuSeconds : Nat
  sandboxGpuSeconds : Nat
  authoritativeEvaluations : Nat
  variationSessions : Nat
  artifactBytes : Nat
  deriving DecidableEq

abbrev BudgetSpec := UsageRecord

namespace UsageRecord

/-- `getattr(self, name)`. -/
def get (u : UsageRecord) : Dimension → Nat
  | .wallClockSeconds => u.wallClockSeconds
  | .modelInputTokens => u.modelInputTokens
  | .modelOutputTokens => u.modelOutputTokens
  | .modelCostMicrousd => u.modelCostMicrousd
  | .toolCalls => u.toolCalls
  | .sandboxCpuSeconds => u.sandboxCpuSeconds
  | .sandboxGpuSeconds => u.sandboxGpuSeconds
  | .authoritativeEvaluations => u.authoritativeEvaluations
  | .variationSessions => u.variationSessions
  | .artifactBytes => u.artifactBytes

/-- `UsageRecord(**values)`. -/
def ofValues (v : Dimension → Nat) : UsageRecord :=
  ⟨v .wallClockSeconds, v .modelInputTokens, v .modelOutputTokens, v .modelCostMicrousd, v .toolCalls,
    v .sandboxCpuSeconds, v .sandboxGpuSeconds, v .authoritativeEvaluations, v .variationSessions,
    v .artifactBytes⟩

def zero : UsageRecord := ofValues fun _ => 0

def plus (u v : UsageRecord) : UsageRecord := ofValues fun d => u.get d + v.get d

def fitsWithin (u : UsageRecord) (limit : BudgetSpec) : Bool := Dimension.all.all fun d => u.get d ≤ limit.get d

@[simp] theorem get_ofValues (v : Dimension → Nat) (d : Dimension) : (ofValues v).get d = v d := by cases d <;> rfl

@[simp] theorem get_zero (d : Dimension) : zero.get d = 0 := by simp [zero]

@[simp] theorem get_plus (u v : UsageRecord) (d : Dimension) : (u.plus v).get d = u.get d + v.get d := by
  simp [plus]

theorem fitsWithin_iff {u : UsageRecord} {limit : BudgetSpec} :
    u.fitsWithin limit = true ↔ ∀ d, u.get d ≤ limit.get d := by
  simp [fitsWithin, Dimension.mem_all]

end UsageRecord

/-! ## Experiments and candidates -/

/-- The fields of `ExperimentSpec` a run is created from. -/
structure ExperimentSpec where
  experimentId : String
  sourceTreeDigest : String
  sourceRevision : String
  budget : BudgetSpec
  createdBy : String
  deriving DecidableEq

structure CandidateManifest where
  candidateId : String
  runId : String
  sessionId : String
  parentCandidateIds : List String
  baseWorkspaceDigest : String
  sourceTreeDigest : String
  createdAt : Instant
  deriving DecidableEq

/-- The manifest `create_run` writes for the seed candidate. -/
structure SeedManifest where
  candidateId : String
  runId : String
  sourceTreeDigest : String
  sourceRevision : String
  deriving DecidableEq

structure VariationSessionRequest where
  sessionId : String
  runId : String
  championId : String
  budgetReservationId : String
  randomSeed : Int
  deriving DecidableEq

inductive SessionOutcome
  | proposalReady | exhausted | policyBlocked | cancelled | failed
  deriving DecidableEq

/-- `VariationSessionState(result.outcome)`. -/
def SessionOutcome.state : SessionOutcome → VariationSessionState
  | .proposalReady => .proposalReady
  | .exhausted => .exhausted
  | .policyBlocked => .policyBlocked
  | .cancelled => .cancelled
  | .failed => .failed

structure VariationSessionResult where
  sessionId : String
  outcome : SessionOutcome
  proposedWorkspaceDigest : Option String
  usage : UsageRecord
  /-- A proposal names its workspace. -/
  proposal : outcome = .proposalReady → proposedWorkspaceDigest ≠ none
  deriving DecidableEq

/-! ## Evaluation, policy and admission -/

inductive EvaluatorTier
  | development | admission | audit
  deriving DecidableEq

inductive EvaluationOutcome
  | passed | failed | errored | timedOut | policyBlocked | invalidReport
  deriving DecidableEq

inductive Severity
  | hard | soft
  deriving DecidableEq

structure ConstraintResult where
  name : String
  passed : Bool
  severity : Severity
  deriving DecidableEq

structure TrialRecord where
  trialIndex : Nat
  seed : Int
  deriving DecidableEq

structure EvaluationRecord where
  evaluationId : String
  candidateId : String
  evaluatorTier : EvaluatorTier
  trialRecords : List TrialRecord
  constraints : List ConstraintResult
  outcome : EvaluationOutcome
  deriving DecidableEq

inductive PolicyOutcome
  | allow | deny | review
  deriving DecidableEq

structure PolicyDecision where
  decisionId : String
  policyEngineId : String
  policyBundleDigest : String
  action : String
  resource : String
  inputDigest : String
  outcome : PolicyOutcome
  reasonCodes : List String
  decidedAt : Instant
  deriving DecidableEq

inductive Conclusion
  | improved | notImproved | withinNoise
  deriving DecidableEq

/-- The values `admit`, `reject`, `quarantine` and `review_required`. -/
inductive AdmissionOutcome
  | admits | rejects | quarantines | reviewRequired
  deriving DecidableEq

structure AdmissionDecision where
  admissionId : String
  candidateId : String
  expectedChampionId : String
  evaluationIds : List String
  policyDecisionIds : List String
  outcome : AdmissionOutcome
  conclusion : Conclusion
  decidedBy : String
  /-- `evaluation_ids` has at least one entry. -/
  evaluated : evaluationIds ≠ []
  /-- `policy_decision_ids` has at least one entry. -/
  decided : policyDecisionIds ≠ []
  deriving DecidableEq

/-! ## Reviews -/

structure ReviewRequest where
  reviewId : String
  runId : String
  candidateId : String
  action : String
  proposerId : String
  eligibleRoles : List String
  approvalsRequired : Nat
  proposerMayReview : Bool
  requiredEvidenceDigests : List String
  expiresAt : Instant
  createdAt : Instant
  deriving DecidableEq

inductive ReviewOutcome
  | approve | reject
  deriving DecidableEq

structure ReviewDecision where
  decisionId : String
  reviewId : String
  reviewerId : String
  reviewerRole : String
  outcome : ReviewOutcome
  evidenceDigests : List String
  decidedAt : Instant
  deriving DecidableEq

/-! ## Runtime -/

structure HarnessInvocationRecord where
  invocationId : String
  activityId : String
  runId : String
  sessionId : Option String
  state : InvocationState
  completedAt : Option Instant
  deriving DecidableEq

structure ReconciliationCaseRecord where
  reconciliationId : String
  runId : String
  activityId : String
  sessionId : Option String
  reason : String
  budgetReservationId : Option String
  state : CaseState
  resolution : Option Resolution
  resolutionNote : Option String
  openedAt : Instant
  resolvedAt : Option Instant
  deriving DecidableEq

end AvoCorrelate
