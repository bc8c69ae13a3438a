import AvoCorrelate.System
/-!
# The tables a call writes

Each call of a service writes a fixed set of tables and leaves the rest of the database as
it was.
-/
open AvoLib

namespace AvoCorrelate

inductive TableName
  | experiments | runs | events | outbox | ledgers | reservations | activities | sessions | candidates | evaluations
  | policyDecisions | admissions | lineage | artifacts | artifactReferences | invocations | cases | reviews
  | reviewDecisions | idempotency
  deriving DecidableEq

/-- The tables that a call may write. -/
def Op.written : Op → List TableName
  | .createExperiment .. => [.experiments, .idempotency]
  | .createRun .. => [.runs, .events, .outbox, .candidates, .lineage, .ledgers, .idempotency]
  | .transition .. => [.runs, .events, .outbox, .idempotency]
  | .reserve .. | .completeReservation .. | .release .. => [.runs, .events, .outbox, .ledgers, .reservations]
  | .observe .. | .holdForReconciliation .. => [.runs, .events, .outbox, .reservations]
  | .enqueueActivity .. | .claimNext .. | .completeActivity .. => [.runs, .events, .outbox, .activities]
  | .heartbeat .. => [.activities]
  | .markReconciliationRequired .. | .openReconciliation .. =>
    [.runs, .events, .outbox, .activities, .sessions, .reservations, .cases]
  | .recordInvocation .. | .replaceInvocation .. => [.invocations]
  | .resolveReconciliation .. => [.runs, .events, .outbox, .activities, .sessions, .reservations, .ledgers, .cases]
  | .settleExhaustedVariation .. =>
    [.runs, .events, .outbox, .activities, .reservations, .ledgers, .cases, .candidates, .policyDecisions]
  | .enqueueSession .. | .startSession .. | .finishSession .. => [.sessions]
  | .stageCandidate .. => [.candidates]
  | .recordEvaluation .. => [.evaluations, .candidates]
  | .recordPolicyDecision .. => [.policyDecisions]
  | .commitAdmission .. => [.runs, .events, .outbox, .admissions, .candidates, .lineage]
  | .createReview .. => [.reviews]
  | .submitReview .. => [.reviews, .reviewDecisions, .idempotency]
  | .putBytes .. => [.runs, .events, .outbox, .artifacts, .artifactReferences]

/-- The table stands in `db'` as it does in `db`. -/
def TableName.Same (db db' : Db) : TableName → Prop
  | .experiments => db'.experiments = db.experiments
  | .runs => db'.runs = db.runs
  | .events => db'.events = db.events
  | .outbox => db'.outbox = db.outbox
  | .ledgers => db'.ledgers = db.ledgers
  | .reservations => db'.reservations = db.reservations
  | .activities => db'.activities = db.activities
  | .sessions => db'.sessions = db.sessions
  | .candidates => db'.candidates = db.candidates
  | .evaluations => db'.evaluations = db.evaluations
  | .policyDecisions => db'.policyDecisions = db.policyDecisions
  | .admissions => db'.admissions = db.admissions
  | .lineage => db'.lineage = db.lineage
  | .artifacts => db'.artifacts = db.artifacts
  | .artifactReferences => db'.artifactReferences = db.artifactReferences
  | .invocations => db'.invocations = db.invocations
  | .cases => db'.cases = db.cases
  | .reviews => db'.reviews = db.reviews
  | .reviewDecisions => db'.reviewDecisions = db.reviewDecisions
  | .idempotency => db'.idempotency = db.idempotency

theorem exec_frame {E : Env} {db db' : Db} {op : Op} (h : exec E db op = .ok db') (t : TableName)
    (ht : op.written.contains t = false) : t.Same db db' := by
  cases op <;> simp only [exec, map_ok, Prod.exists, exists_and_right, exists_eq_right] at h
  case createExperiment =>
    obtain ⟨_, h⟩ := h
    obtain ⟨_, _, rfl⟩ := RunService.createExperiment_ok h
    cases t <;> first | rfl | exact Bool.noConfusion (show true = false from ht)
  case createRun =>
    obtain ⟨_, h⟩ := h
    obtain rfl | ⟨_, _, _, _, _, _, _, _, _, rfl, -⟩ := RunService.createRun_ok h <;>
      cases t <;> first | rfl | exact Bool.noConfusion (show true = false from ht)
  case transition =>
    obtain ⟨_, h⟩ := h
    obtain rfl | ⟨_, _, _, _, _, rfl, -⟩ := RunService.transition_ok h <;>
      cases t <;> first | rfl | exact Bool.noConfusion (show true = false from ht)
  case reserve =>
    obtain ⟨_, h⟩ := h
    obtain rfl | ⟨_, _, _, _, _, _, _, _, rfl, -⟩ := BudgetService.reserve_ok h <;>
      cases t <;> first | rfl | exact Bool.noConfusion (show true = false from ht)
  case completeReservation =>
    obtain rfl | ⟨_, _, _, _, _, _, _, _, _, _, rfl, -⟩ := BudgetService.complete_ok h <;>
      cases t <;> first | rfl | exact Bool.noConfusion (show true = false from ht)
  case observe =>
    obtain ⟨_, _, _, _, _, _, rfl, -⟩ := BudgetService.observe_ok h
    cases t <;> first | rfl | exact Bool.noConfusion (show true = false from ht)
  case holdForReconciliation =>
    obtain rfl | ⟨_, _, _, _, _, _, rfl, -⟩ := BudgetService.holdForReconciliation_ok h <;>
      cases t <;> first | rfl | exact Bool.noConfusion (show true = false from ht)
  case release =>
    obtain rfl | ⟨_, _, _, _, _, _, _, _, _, _, rfl, -⟩ := BudgetService.release_ok h <;>
      cases t <;> first | rfl | exact Bool.noConfusion (show true = false from ht)
  case enqueueActivity =>
    obtain ⟨_, h⟩ := h
    obtain rfl | ⟨_, _, _, _, _, rfl, -⟩ := ActivityService.enqueue_ok h <;>
      cases t <;> first | rfl | exact Bool.noConfusion (show true = false from ht)
  case claimNext =>
    obtain ⟨_, h⟩ := h
    obtain rfl | ⟨_, _, _, _, _, rfl, -⟩ := ActivityService.claimNext_ok h <;>
      cases t <;> first | rfl | exact Bool.noConfusion (show true = false from ht)
  case completeActivity =>
    obtain rfl | ⟨_, _, _, _, _, rfl, -⟩ := ActivityService.complete_ok h <;>
      cases t <;> first | rfl | exact Bool.noConfusion (show true = false from ht)
  case heartbeat =>
    obtain ⟨_, h⟩ := h
    obtain ⟨_, rfl⟩ := ActivityService.heartbeat_ok h
    cases t <;> first | rfl | exact Bool.noConfusion (show true = false from ht)
  case markReconciliationRequired =>
    obtain ⟨_, _, _, _, _, _, _, _, _, rfl, -⟩ := ActivityService.markReconciliationRequired_ok h
    cases t <;> first | rfl | exact Bool.noConfusion (show true = false from ht)
  case recordInvocation =>
    obtain ⟨_, rfl⟩ := RuntimeService.recordInvocation_ok h
    cases t <;> first | rfl | exact Bool.noConfusion (show true = false from ht)
  case replaceInvocation =>
    obtain ⟨_, rfl⟩ := RuntimeService.replaceInvocation_ok h
    cases t <;> first | rfl | exact Bool.noConfusion (show true = false from ht)
  case openReconciliation =>
    obtain ⟨_, h⟩ := h
    obtain rfl | ⟨_, _, _, _, _, _, _, _, _, rfl, -⟩ := RuntimeService.openReconciliation_ok h <;>
      cases t <;> first | rfl | exact Bool.noConfusion (show true = false from ht)
  case resolveReconciliation =>
    obtain ⟨_, h⟩ := h
    obtain rfl | ⟨_, _, _, _, _, _, _, _, _, _, rfl, -⟩ := RuntimeService.resolveReconciliation_ok h <;>
      cases t <;> first | rfl | exact Bool.noConfusion (show true = false from ht)
  case settleExhaustedVariation =>
    obtain ⟨_, _, _, _, -, hcase⟩ := TerminalBudgetService.settleExhaustedVariation_ok h
    obtain rfl | ⟨-, -, _, _, _, rfl, -⟩ | ⟨-, _, _, _, _, _, _, _, _, _, _, _, _, rfl, -⟩ := hcase <;>
      cases t <;> first | rfl | exact Bool.noConfusion (show true = false from ht)
  case enqueueSession =>
    obtain ⟨_, rfl⟩ := SessionService.enqueue_ok h
    cases t <;> first | rfl | exact Bool.noConfusion (show true = false from ht)
  case startSession =>
    obtain ⟨_, rfl⟩ := SessionService.start_ok h
    cases t <;> first | rfl | exact Bool.noConfusion (show true = false from ht)
  case finishSession =>
    obtain ⟨_, rfl⟩ := SessionService.finish_ok h
    cases t <;> first | rfl | exact Bool.noConfusion (show true = false from ht)
  case stageCandidate =>
    obtain ⟨_, h⟩ := h
    obtain rfl | ⟨_, _, rfl, -⟩ := EvidenceService.stageCandidate_ok h <;>
      cases t <;> first | rfl | exact Bool.noConfusion (show true = false from ht)
  case recordEvaluation =>
    obtain ⟨_, h⟩ := h
    obtain ⟨rfl, -⟩ | ⟨_, _, _, rfl, -⟩ := EvidenceService.recordEvaluation_ok h <;>
      cases t <;> first | rfl | exact Bool.noConfusion (show true = false from ht)
  case recordPolicyDecision =>
    obtain ⟨_, h⟩ := h
    obtain ⟨_, rfl⟩ := EvidenceService.recordPolicyDecision_ok h
    cases t <;> first | rfl | exact Bool.noConfusion (show true = false from ht)
  case commitAdmission =>
    obtain ⟨_, h⟩ := h
    obtain ⟨rfl, -⟩ | ⟨_, _, _, _, _, -, -, -, -, -, -, -, -, ⟨-, rfl⟩ | ⟨-, -, _, _, _, _, _, rfl, -⟩⟩ :=
      EvidenceService.commitAdmission_ok h <;>
      cases t <;> first | rfl | exact Bool.noConfusion (show true = false from ht)
  case createReview =>
    obtain rfl | ⟨_, rfl, -⟩ := ReviewService.create_ok h <;>
      cases t <;> first | rfl | exact Bool.noConfusion (show true = false from ht)
  case submitReview =>
    obtain ⟨_, _, _, rfl, -⟩ := ReviewService.submit_ok h
    cases t <;> first | rfl | exact Bool.noConfusion (show true = false from ht)
  case putBytes =>
    obtain ⟨_, rfl⟩ | ⟨_, _, _, _, _, _, rfl, -⟩ := ArtifactService.putBytes_ok h <;>
      cases t <;> first | rfl | exact Bool.noConfusion (show true = false from ht)

end AvoCorrelate
