import AvoCorrelate.Worker.Scheduler
/-!
# Evaluation and admission

`CandidateEvaluationActivityHandler` and `CandidateAdmissionActivityHandler`: the
first records what the evaluators return and enqueues the admission of the
candidate, the second records what the decider returns and completes the run on
its first admission.
-/
open AvoLib

namespace AvoCorrelate.Worker

/-- The hash functions, and the sizes of a record's evidence artifacts, which the
model of the record leaves out. -/
structure CampaignEnv extends Env where
  digests : List String → String
  evidenceBytes : EvaluationRecord → Nat

/-- `_activity_subject`: what the key names after its kind. -/
def activitySubject (activity : ActivityRow) (expectedKind : String) : Task String :=
  match partition activity.activityKey with
  | (kind, some subject) =>
    if kind = expectedKind ∧ subject ≠ "" then .done subject
    else .raise (.campaign ("invalid " ++ expectedKind ++ " activity key"))
  | (_, none) => .raise (.campaign ("invalid " ++ expectedKind ++ " activity key"))

def evaluationUsage (E : CampaignEnv) (records : List EvaluationRecord) : UsageRecord :=
  { UsageRecord.zero with
    authoritativeEvaluations := records.length
    artifactBytes := (records.map E.evidenceBytes).sum }

structure CandidateEvaluationActivityHandler where
  evaluatorKeys : List String
  nonEmpty : evaluatorKeys ≠ []
  unique : evaluatorKeys.Nodup
  actorId : String

namespace CandidateEvaluationActivityHandler
variable (E : CampaignEnv) (h : CandidateEvaluationActivityHandler)

/-- The recorded evaluations in the order of the keys, if all of them are there. -/
def recorded (existing : List (String × EvaluationRecord)) : Option (List EvaluationRecord) :=
  h.evaluatorKeys.mapM fun key => existing.lookup key

/-- `canonical_digest` of the digests of the records. -/
def outcomeDigest (records : List EvaluationRecord) : String :=
  E.digests (records.map fun r => E.canonicalDigest (.evaluationRecord r))

def budgetReservation (activity : ActivityRow) : Task String :=
  .ofOption activity.budgetReservationId (.campaign "evaluation activity lacks a budget reservation")

def completeBudget (reservationId : String) (records : List EvaluationRecord) : Task Unit :=
  commit fun d => .completeReservation reservationId (evaluationUsage E records) h.actorId d.ids

def recover (activity : ActivityRow) : Task ActivityRecovery := do
  let candidateId ← activitySubject activity "evaluate"
  let existing ← Prog.port (.recoverEvaluations candidateId) .done
  match h.recorded existing with
  | some records =>
    let reservationId ← budgetReservation activity
    h.completeBudget E reservationId records
    return .durableResult (outcomeDigest E records)
  | none => return .resumable

def recordAll (candidateId : String) : List (String × EvaluationRecord) → Task Unit
  | [] => .done ()
  | (key, record) :: rest => do
    Prog.require (record.candidateId = candidateId) (.campaign "evaluator returned another candidate")
    commit fun _ => .recordEvaluation record key
    recordAll candidateId rest

def enqueueAdmission (manifest : CandidateManifest) (candidateId : String) (records : List EvaluationRecord) : Task Unit :=
  commit fun d => .enqueueActivity manifest.runId ("admit:" ++ candidateId) (outcomeDigest E records) h.actorId
    (some manifest.sessionId) none d.id d.now d.ids

def execute (activity : ActivityRow) (_leaseEpoch : Nat) : Task String := do
  let candidateId ← activitySubject activity "evaluate"
  let reservationId ← budgetReservation activity
  let manifest ← Prog.port (.getCandidate candidateId) orRaised
  let records ← Prog.port (.evaluate manifest) orFail
  Prog.require (records.map (·.1) = h.evaluatorKeys) (.campaign "evaluator keys differ from the frozen profile")
  recordAll candidateId records
  h.enqueueAdmission E manifest candidateId (records.map (·.2))
  h.completeBudget E reservationId (records.map (·.2))
  return outcomeDigest E (records.map (·.2))

def handler : ActivityHandler where
  recover := h.recover E
  execute := h.execute E
  classifyFailure _ _ := .done .retry

end CandidateEvaluationActivityHandler

structure CandidateAdmissionActivityHandler where
  completeOnAdmission : Bool
  actorId : String

namespace CandidateAdmissionActivityHandler
variable (E : CampaignEnv) (h : CandidateAdmissionActivityHandler)

def recover (activity : ActivityRow) : Task ActivityRecovery := do
  let candidateId ← activitySubject activity "admit"
  match ← Prog.port (.getAdmission candidateId) .done with
  | none => return .resumable
  | some decision => return .durableResult (E.canonicalDigest (.admissionDecision decision))

def recordPolicies (manifest : CandidateManifest) (candidateId : String) : List PolicyDecision → Task Unit
  | [] => .done ()
  | policy :: rest => do
    commit fun _ => .recordPolicyDecision manifest.runId policy (some candidateId)
    recordPolicies manifest candidateId rest

def transition (runId : String) (run : RunRow) (decision : AdmissionDecision) : Task Unit :=
  commit fun d => .transition runId .completed h.actorId (some run.revision) (some "first_admission")
    (some ("complete:" ++ decision.admissionId)) none d.ids d.id

def completeRun (runId : String) (decision : AdmissionDecision) : Task Unit :=
  if decision.outcome = .admits ∧ h.completeOnAdmission = true then do
    let run ← Prog.port (.getRun runId) orRaised
    if run.state = .running then h.transition runId run decision
    else return ()
  else .done ()

def execute (activity : ActivityRow) (_leaseEpoch : Nat) : Task String := do
  let candidateId ← activitySubject activity "admit"
  let manifest ← Prog.port (.getCandidate candidateId) orRaised
  let evaluations ← Prog.port (.listEvaluations candidateId) .done
  Prog.require (evaluations ≠ []) (.campaign "admission requires authoritative evaluations")
  let package ← Prog.port (.decide manifest (evaluations.map (·.2))) orFail
  Prog.require (package.decision.candidateId = candidateId) (.campaign "admission decision names another candidate")
  recordPolicies manifest candidateId package.policyDecisions
  commit fun d => .commitAdmission manifest.runId package.decision d.id d.ids
  h.completeRun manifest.runId package.decision
  return E.canonicalDigest (.admissionDecision package.decision)

def handler : ActivityHandler where
  recover := CandidateAdmissionActivityHandler.recover E
  execute := h.execute E
  classifyFailure _ _ := .done .retry

end CandidateAdmissionActivityHandler

/-- The handlers of workers that evaluate and admit candidates. What a worker does
with other activities is among the calls of others. -/
structure CampaignHandlers where
  evaluation : CandidateEvaluationActivityHandler
  admission : CandidateAdmissionActivityHandler

def CampaignHandlers.lookup (E : CampaignEnv) (c : CampaignHandlers) (kind : String) : Option ActivityHandler :=
  if kind = "evaluate" then some (c.evaluation.handler E)
  else if kind = "admit" then some (c.admission.handler E)
  else none

/-- One `run_once` of a worker, or one call of somebody else. -/
inductive Job
  | work (workerId : String) (leaseSeconds : Int) (positive : 0 < leaseSeconds)
  | other (call : Op)

def program (E : CampaignEnv) (c : CampaignHandlers) : Job → Task Bool
  | .work workerId leaseSeconds positive => Scheduler.runOnce ⟨workerId, leaseSeconds, positive, c.lookup E⟩
  | .other call => .port (.other call) fun r => (fun _ => true) <$> orRaised r

end AvoCorrelate.Worker
