import AvoCorrelate.Effects.Run
import AvoCorrelate.Effects.Budget
import AvoCorrelate.Effects.Terminal
import AvoCorrelate.Effects.Activity
import AvoCorrelate.Effects.Evidence
/-!
# The control plane as one transition system

`Op` is a call of one of the services with its arguments (drawn identifiers and
clock readings included), `exec` runs it as one transaction. Every theorem about
the control plane is about the databases that `exec` can reach from a freshly
initialized one, in any order of calls.
-/
open AvoLib

namespace AvoCorrelate

inductive Op
  -- RunService
  | createExperiment (spec : ExperimentSpec) (actorId idempotencyKey : Option String) (recordId : String)
  | createRun (experimentId actorId : String) (runId : Option String) (prepare : Bool) (idempotencyKey : Option String)
    (ids : RunService.CreateRunIds)
  | transition (runId : String) (target : RunState) (actorId : String) (expectedRevision : Option Nat)
    (reason idempotencyKey endpointScope : Option String) (ids : Db.EventIds) (recordId : String)
  -- BudgetService
  | reserve (runId activityKey : String) (estimated : UsageRecord) (actorId reservationId : String) (ids : Db.EventIds)
  | completeReservation (reservationId : String) (actual : UsageRecord) (actorId : String) (ids : Db.EventIds)
  | observe (reservationId : String) (cumulativeActual : UsageRecord) (actorId : String) (ids : Db.EventIds)
  | holdForReconciliation (reservationId actorId : String) (ids : Db.EventIds)
  | release (reservationId actorId : String) (ids : Db.EventIds)
  -- ActivityService
  | enqueueActivity (runId activityKey inputDigest actorId : String) (sessionId budgetReservationId : Option String)
    (activityId : String) (now : Instant) (ids : Db.EventIds)
  | claimNext (workerId : String) (leaseSeconds : Int) (claimedAt : Instant) (ids : Db.EventIds)
  | completeActivity (activityId workerId : String) (leaseEpoch : Nat) (resultDigest : String) (ids : Db.EventIds)
  | heartbeat (activityId workerId : String) (leaseEpoch : Nat) (leaseSeconds : Int)
    (heartbeatAt : ActivityService.ClockValue)
  | markReconciliationRequired (activityId actorId reason : String) (leaseEpoch : Option Nat)
    (reconciliationId : String) (now : Instant) (ids : Db.EventIds)
  -- RuntimeService
  | recordInvocation (record : HarnessInvocationRecord)
  | replaceInvocation (record : HarnessInvocationRecord)
  | openReconciliation (runId activityId reason actorId : String) (sessionId budgetReservationId : Option String)
    (reconciliationId : String) (now : Instant) (ids : Db.EventIds)
  | resolveReconciliation (reconciliationId : String) (resolution : Resolution) (note actorId : String)
    (resultDigest : Option String) (now : Instant) (ids : Db.EventIds)
  -- TerminalBudgetService
  | settleExhaustedVariation (runId activityId reservationId resultDigest : String)
    (actual requiredEvaluation : UsageRecord) (policyBundleDigest actorId : String) (leaseEpoch : Option Nat)
    (now : Instant) (ids : Db.EventIds)
  -- SessionService
  | enqueueSession (request : VariationSessionRequest)
  | startSession (sessionId : String)
  | finishSession (result : VariationSessionResult)
  -- EvidenceService
  | stageCandidate (manifest : CandidateManifest)
  | recordEvaluation (record : EvaluationRecord) (evaluatorKey : String)
  | recordPolicyDecision (runId : String) (decision : PolicyDecision) (candidateId : Option String)
  | commitAdmission (runId : String) (decision : AdmissionDecision) (lineageId : String) (ids : Db.EventIds)
  -- ReviewService
  | createReview (request : ReviewRequest)
  | submitReview (decision : ReviewDecision) (actorId idempotencyKey : Option String) (now : Instant)
    (recordId : String)
  -- ArtifactService
  | putBytes (reference : ArtifactService.StoredBytes) (runId ownerType ownerId retentionClass actorId : String)
    (referenceId : String) (ids : Db.EventIds)

/-- Run one service call; only the database is kept of what it returns. -/
def exec (E : Env) (db : Db) : Op → Except Err Db
  | .createExperiment spec actorId key recordId => Prod.fst <$> RunService.createExperiment E db spec actorId key recordId
  | .createRun experimentId actorId runId prepare key ids =>
    Prod.fst <$> RunService.createRun E db experimentId actorId runId prepare key ids
  | .transition runId target actorId expected reason key scope ids recordId =>
    Prod.fst <$> RunService.transition E db runId target actorId expected reason key scope ids recordId
  | .reserve runId key estimated actorId id ids => Prod.fst <$> BudgetService.reserve db runId key estimated actorId id ids
  | .completeReservation id actual actorId ids => BudgetService.complete db id actual actorId ids
  | .observe id cumulative actorId ids => BudgetService.observe db id cumulative actorId ids
  | .holdForReconciliation id actorId ids => BudgetService.holdForReconciliation db id actorId ids
  | .release id actorId ids => BudgetService.release db id actorId ids
  | .enqueueActivity runId key digest actorId sessionId reservationId id now ids =>
    Prod.fst <$> ActivityService.enqueue db runId key digest actorId sessionId reservationId id now ids
  | .claimNext workerId leaseSeconds claimedAt ids =>
    Prod.fst <$> ActivityService.claimNext db workerId leaseSeconds claimedAt ids
  | .completeActivity id workerId epoch digest ids => ActivityService.complete db id workerId epoch digest ids
  | .heartbeat id workerId epoch leaseSeconds at' =>
    Prod.fst <$> ActivityService.heartbeat db id workerId epoch leaseSeconds at'
  | .markReconciliationRequired id actorId reason epoch caseId now ids =>
    ActivityService.markReconciliationRequired db id actorId reason epoch caseId now ids
  | .recordInvocation record => RuntimeService.recordInvocation E db record
  | .replaceInvocation record => RuntimeService.replaceInvocation E db record
  | .openReconciliation runId activityId reason actorId sessionId reservationId id now ids =>
    Prod.fst <$> RuntimeService.openReconciliation db runId activityId reason actorId sessionId reservationId id now ids
  | .resolveReconciliation id resolution note actorId digest now ids =>
    Prod.fst <$> RuntimeService.resolveReconciliation db id resolution note actorId digest now ids
  | .settleExhaustedVariation runId activityId reservationId digest actual required bundle actorId epoch now ids =>
    TerminalBudgetService.settleExhaustedVariation E db runId activityId reservationId digest actual required bundle
      actorId epoch now ids
  | .enqueueSession request => SessionService.enqueue E db request
  | .startSession id => SessionService.start db id
  | .finishSession result => SessionService.finish E db result
  | .stageCandidate manifest => Prod.fst <$> EvidenceService.stageCandidate E db manifest
  | .recordEvaluation record key => Prod.fst <$> EvidenceService.recordEvaluation E db record key
  | .recordPolicyDecision runId decision candidateId =>
    Prod.fst <$> EvidenceService.recordPolicyDecision E db runId decision candidateId
  | .commitAdmission runId decision lineageId ids =>
    Prod.fst <$> EvidenceService.commitAdmission E db runId decision lineageId ids
  | .createReview request => ReviewService.create db request
  | .submitReview decision actorId key now recordId => ReviewService.submit E db decision actorId key now recordId
  | .putBytes reference runId ownerType ownerId retention actorId id ids =>
    ArtifactService.putBytes db reference runId ownerType ownerId retention actorId id ids

/-- Databases that some run of calls reaches. -/
def Reachable (E : Env) (db : Db) : Prop := Reaches (exec E) (fun _ _ => True) Db.initial db

/-- Databases that some run of calls reaches, each call satisfying `P` in the
database it ran in. -/
def ReachableWhen (E : Env) (P : Db → Op → Prop) (db : Db) : Prop := Reaches (exec E) P Db.initial db

theorem ReachableWhen.reachable {E : Env} {P : Db → Op → Prop} {db : Db} (h : ReachableWhen E P db) : Reachable E db :=
  h.mono fun _ _ _ => trivial

/-- Databases that further calls reach from `db`. -/
def Later (E : Env) (db db' : Db) : Prop := Reaches (exec E) (fun _ _ => True) db db'

/-- The database a list of calls leaves behind. -/
def after (E : Env) (os : List Op) : Db := result (exec E) Db.initial os

theorem reachable_after {E : Env} {os : List Op} (h : allowed (exec E) (fun _ _ => true) Db.initial os = true) :
    Reachable E (after E os) :=
  (reaches_result h).mono fun _ _ _ => trivial

theorem reachableWhen_after {E : Env} {p : Db → Op → Bool} {os : List Op} (h : allowed (exec E) p Db.initial os = true) :
    ReachableWhen E (fun db op => p db op = true) (after E os) :=
  reaches_result h

/-! ## A sample run

Concrete values for the examples that accompany the theorems. -/

namespace Sample

/-- Digests that tell the sample records apart. -/
def digest : Canonical → String
  | .experimentSpec s => "experiment:" ++ s.experimentId
  | .createRunRequest e _ r => "create:" ++ e ++ ":" ++ r
  | .transitionRequest r t _ => "transition:" ++ r ++ ":" ++ t.value
  | .seedManifest m => "seed:" ++ m.candidateId
  | .candidateManifest m => "candidate:" ++ m.candidateId
  | .evaluationRecord r => "evaluation:" ++ r.evaluationId
  | .policyDecision d => "policy:" ++ d.decisionId
  | .admissionDecision d => "admission:" ++ d.admissionId
  | .reviewDecision d => "review:" ++ d.decisionId
  | .sessionRequest r => "request:" ++ r.sessionId
  | .sessionResult r => "result:" ++ r.sessionId
  | .harnessInvocation r => "invocation:" ++ r.invocationId ++ ":" ++ r.state.value
  | .budgetDenial _ m _ => "denial:" ++ m
  | .provenance m => "provenance:" ++ m.run.runId

def env : Env := ⟨digest, fun name => "uuid5:" ++ name⟩

def ids (tag : String) : Db.EventIds := ⟨"event-" ++ tag, "outbox-" ++ tag⟩

/-- The same amount in every dimension. -/
def usage (n : Nat) : UsageRecord := .ofValues fun _ => n

def created (runId tree : String) : List Op :=
  [.createExperiment ⟨"exp-" ++ runId, tree, "rev", usage 10, "operator"⟩ none none "",
    .createRun ("exp-" ++ runId) "operator" (some runId) true none
      ⟨"", "lineage-" ++ runId, ids ("created-" ++ runId), ids ("validating-" ++ runId), ids ("ready-" ++ runId), ""⟩]

def moved (runId : String) (target : RunState) (tag : String) : Op :=
  .transition runId target "operator" none none none none (ids tag) ""

/-- A run that is `running`. -/
def started (runId tree : String) : List Op := created runId tree ++ [moved runId .running ("started-" ++ runId)]

def claimed (runId activityId : String) (reservationId : Option String) : List Op :=
  [.enqueueActivity runId activityId "input" "operator" none reservationId activityId 0 (ids ("queued-" ++ activityId)),
    .claimNext "worker" 60 1 (ids ("claimed-" ++ activityId))]

def reserved (runId reservationId : String) (n : Nat) : Op :=
  .reserve runId reservationId (usage n) "operator" reservationId (ids ("reserved-" ++ reservationId))

/-- Send an activity to reconciliation. -/
def disputed (activityId caseId : String) : Op :=
  .markReconciliationRequired activityId "operator" "lost worker" none caseId 2 (ids ("opened-" ++ caseId))

def resolved (caseId : String) (resolution : Resolution) : Op :=
  .resolveReconciliation caseId resolution "checked" "operator" none 3 (ids ("resolved-" ++ caseId))

/-- A variation session of the run's seed. -/
def session (runId sessionId : String) : Op := .enqueueSession ⟨sessionId, runId, "seed-" ++ runId, "", 0⟩

def claimedFor (runId sessionId activityId reservationId : String) : List Op :=
  [.enqueueActivity runId activityId "input" "operator" (some sessionId) (some reservationId) activityId 0
      (ids ("queued-" ++ activityId)),
    .claimNext "worker" 60 1 (ids ("claimed-" ++ activityId))]

/-- Settle an activity whose result used `n` in every dimension. -/
def settled (runId activityId reservationId : String) (n : Nat) : Op :=
  .settleExhaustedVariation runId activityId reservationId "result" (usage n) .zero "bundle" "worker" none 4
    (ids ("settled-" ++ activityId))

def staged (runId candidateId : String) (parents : List String) : Op :=
  .stageCandidate ⟨candidateId, runId, "session", parents, "base", "tree-" ++ candidateId, 0⟩

/-- A passing admission-tier evaluation of the candidate. -/
def evaluated (candidateId evaluationId : String) : Op :=
  .recordEvaluation ⟨evaluationId, candidateId, .admission, [⟨0, 1⟩], [⟨"correct", true, .hard⟩], .passed⟩ evaluationId

def allowed (runId decisionId : String) : Op :=
  .recordPolicyDecision runId ⟨decisionId, "engine", "bundle", "candidate.admit", runId, "input", .allow, [], 0⟩ none

/-- Decide about an evaluated candidate while `champion` leads the run. -/
def decided (runId candidateId champion evaluationId admissionId : String) (outcome : AdmissionOutcome) : Op :=
  .commitAdmission runId
    ⟨admissionId, candidateId, champion, [evaluationId], ["policy"], outcome, .improved, "operator", by simp, by simp⟩
    ("lineage-" ++ admissionId) (ids ("decided-" ++ admissionId))

/-- A running run with a session and a policy decision. -/
def prepared : List Op := started "run" "tree" ++ [session "run" "session", allowed "run" "policy"]

end Sample

end AvoCorrelate
