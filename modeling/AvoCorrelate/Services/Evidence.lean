import AvoCorrelate.Persistence
/-!
# Sessions, evidence and reviews

`SessionService`, `EvidenceService` and `ReviewService`: how a variation session
yields a candidate, how evaluations and decisions about it are recorded, and how
humans review it.
-/
open AvoLib

namespace AvoCorrelate

namespace SessionService

/-- `coalesce(max(session_number), 0) + 1` over the run's sessions. -/
def nextNumber (db : Db) (runId : String) : Nat :=
  ((db.sessions.rows.filter fun s => s.runId = runId).map (·.sessionNumber)).foldl max 0 + 1

def enqueue (E : Env) (db : Db) (request : VariationSessionRequest) : Except Err Db := do
  let digest := E.canonicalDigest (.sessionRequest request)
  match db.sessions.get? request.sessionId with
  | some existing => do
    require (E.canonicalDigest (.sessionRequest existing.request) = digest)
      ⟨.sessionConflict, "session_id already has a different request"⟩
    return db
  | none => do
    let run ← orRaise (db.runs.get? request.runId)
      ⟨.sessionConflict, "session champion is stale or run is missing"⟩
    require (run.championId = some request.championId)
      ⟨.sessionConflict, "session champion is stale or run is missing"⟩
    db.insertSession ⟨request.sessionId, request.runId, nextNumber db request.runId, .queued, request, none⟩

def start (db : Db) (sessionId : String) : Except Err Db := do
  let row ← orRaise (db.sessions.get? sessionId) ⟨.sessionConflict, "session does not exist"⟩
  if row.state = .running then return db
  else do
    let run ← orRaise (db.runs.get? row.runId) ⟨.sessionConflict, "run is not schedulable"⟩
    require (run.state = .running) ⟨.sessionConflict, "run is not schedulable"⟩
    require (∀ s ∈ db.sessions.rows, ¬ (s.runId = row.runId ∧ s.state = .running ∧ s.sessionId ≠ sessionId))
      ⟨.sessionConflict, "another variation session is running"⟩
    requireSessionTransition row.state .running
    return db.setSessionState sessionId .running

def finish (E : Env) (db : Db) (result : VariationSessionResult) : Except Err Db := do
  let row ← orRaise (db.sessions.get? result.sessionId) ⟨.sessionConflict, "session does not exist"⟩
  match row.result with
  | some prior => do
    require (E.canonicalDigest (.sessionResult prior) = E.canonicalDigest (.sessionResult result))
      ⟨.sessionConflict, "session already has a different result"⟩
    return db
  | none => do
    requireSessionTransition row.state result.outcome.state
    return db.updateSession result.sessionId
      (fun r => { r with state := result.outcome.state, result := some result }) (fun _ => rfl)

end SessionService

namespace EvidenceService

def stageCandidate (E : Env) (db : Db) (manifest : CandidateManifest) : Except Err (Db × String) := do
  let digest := E.canonicalDigest (.candidateManifest manifest)
  match db.candidates.get? manifest.candidateId with
  | some existing => do
    require (existing.manifestDigest = digest) ⟨.evidenceConflict, "candidate_id already has different evidence"⟩
    return (db, digest)
  | none => do
    let run ← orRaise (db.runs.get? manifest.runId) ⟨.invalidAdmission, "candidate run does not exist"⟩
    require (∃ c ∈ manifest.parentCandidateIds, run.championId = some c)
      ⟨.invalidAdmission, "candidate does not descend from current champion"⟩
    let db ← db.insertCandidate ⟨manifest.candidateId, manifest.runId, some manifest.sessionId, .lifecycle .staged,
      manifest.sourceTreeDigest, digest, .candidate manifest⟩
    return (db, digest)

def recordEvaluation (E : Env) (db : Db) (record : EvaluationRecord) (evaluatorKey : String) :
    Except Err (Db × String) := do
  let digest := E.canonicalDigest (.evaluationRecord record)
  let candidate ← orRaise (db.candidates.get? record.candidateId)
    ⟨.invalidAdmission, "evaluation candidate does not exist"⟩
  match db.evaluations.find? (fun e => e.candidateId = record.candidateId ∧ e.evaluatorKey = evaluatorKey) with
  | some existing => do
    require (existing.recordDigest = digest) ⟨.evidenceConflict, "evaluation activity returned different evidence"⟩
    return (db, digest)
  | none => do
    let db ← db.insertEvaluation ⟨record.evaluationId, record.candidateId, evaluatorKey, digest, record⟩
    return (db.setCandidateState candidate.candidateId .evaluating, digest)

def recordPolicyDecision (E : Env) (db : Db) (runId : String) (decision : PolicyDecision)
    (candidateId : Option String) : Except Err (Db × String) := do
  let digest := E.canonicalDigest (.policyDecision decision)
  match db.policyDecisions.get? decision.decisionId with
  | some existing => do
    require (existing.decisionDigest = digest) ⟨.evidenceConflict, "policy decision ID has different evidence"⟩
    return (db, digest)
  | none => do
    let db ← db.insertPolicyDecision ⟨decision.decisionId, runId, candidateId, digest, decision⟩
    return (db, digest)

def citedEvaluations (db : Db) (decision : AdmissionDecision) : List EvaluationRow :=
  db.evaluations.rows.filter fun e => e.evaluationId ∈ decision.evaluationIds

def validateDecisionEvidence (db : Db) (decision : AdmissionDecision) : Except Err Unit := do
  require (∀ i ∈ decision.policyDecisionIds, (db.policyDecisions.get? i).isSome = true)
    ⟨.invalidAdmission, "admission references missing policy decisions"⟩
  require (∀ i ∈ decision.evaluationIds, (db.evaluations.get? i).isSome = true)
    ⟨.invalidAdmission, "admission references missing evaluations"⟩
  require (∀ e ∈ citedEvaluations db decision, e.candidateId = decision.candidateId)
    ⟨.invalidAdmission, "evaluation belongs to another candidate"⟩
  require (decision.outcome = .admits → ∃ e ∈ citedEvaluations db decision, evaluationIsAdmissible e.record = true)
    ⟨.invalidAdmission, "admission lacks a passing authoritative evaluation"⟩

def terminalState : AdmissionOutcome → CandidateState
  | .admits => .admitted
  | .rejects => .rejected
  | .quarantines => .quarantined
  | .reviewRequired => .reviewRequired

/-- `coalesce(max(sequence), -1) + 1` over the run's lineage. -/
def nextLineage (db : Db) (runId : String) : Nat :=
  (db.lineage.rows.filter fun l => l.runId = runId).foldl (fun n l => max n (l.sequence + 1)) 0

/-- An approved review request with action `candidate.admit` for the candidate. -/
def approvedReview (db : Db) (candidateId : String) : Option ReviewRequestRow :=
  db.reviews.find? fun r => r.request.candidateId = candidateId ∧ r.request.action = "candidate.admit" ∧
    r.state = .approved

/-- The part of `commit_admission` that appends an admitted candidate to the
lineage and moves the champion. The conditional `UPDATE` finds its row: revision,
champion and state were just read in the same transaction. -/
def appendLineage (db : Db) (run : RunRow) (candidate : CandidateRow) (priorState : StoredCandidateState)
    (decision : AdmissionDecision) (lineageId : String) (ids : Db.EventIds) : Except Err (Db × Nat) := do
  require (decision.conclusion = .improved) ⟨.invalidAdmission, "admission requires a proven improvement"⟩
  require (priorState = .lifecycle .reviewRequired → (approvedReview db decision.candidateId).isSome = true)
    ⟨.invalidAdmission, "required human review is not approved"⟩
  require (run.state = .running) ⟨.invalidAdmission, "only a running run may admit a candidate"⟩
  let next := nextLineage db run.runId
  let db := db.updateRun run.runId (fun r => { Db.bump run r with championId := some decision.candidateId })
    (fun _ => rfl)
  let db ← db.insertLineage ⟨lineageId, run.runId, next, decision.candidateId, candidate.sourceTreeDigest,
    some decision.admissionId⟩
  let db ← db.appendEvent run.runId (run.eventSequence + 1) "candidate.admitted" decision.decidedBy
    [("candidate_id", .str decision.candidateId), ("admission_id", .str decision.admissionId),
      ("lineage_sequence", .int next)] ids
  return (db, next)

def commitAdmission (E : Env) (db : Db) (runId : String) (decision : AdmissionDecision) (lineageId : String)
    (ids : Db.EventIds) : Except Err (Db × Option Nat) := do
  let digest := E.canonicalDigest (.admissionDecision decision)
  match db.admissions.get? decision.admissionId with
  | some existing => do
    require (existing.decisionDigest = digest) ⟨.evidenceConflict, "admission ID has different evidence"⟩
    return (db, (db.lineage.find? fun l => l.admissionId = some decision.admissionId).map (·.sequence))
  | none => do
    let run ← orRaise (db.runs.get? runId) ⟨.invalidAdmission, "run or candidate does not exist"⟩
    let candidate ← orRaise (db.candidates.get? decision.candidateId)
      ⟨.invalidAdmission, "run or candidate does not exist"⟩
    require (candidate.runId = runId) ⟨.invalidAdmission, "run or candidate does not exist"⟩
    validateDecisionEvidence db decision
    require (run.state ≠ .cancelling ∧ run.state ≠ .cancelled)
      ⟨.invalidAdmission, "cancellation fence prevents admission"⟩
    require (run.championId = some decision.expectedChampionId)
      ⟨.evidenceConflict, "champion changed before admission"⟩
    let db ← db.insertAdmission ⟨decision.admissionId, runId, decision.candidateId, decision.outcome, digest, decision⟩
    let db := db.setCandidateState decision.candidateId (terminalState decision.outcome)
    if decision.outcome = .admits then do
      let (db, next) ← appendLineage db run candidate candidate.state decision lineageId ids
      return (db, some next)
    else return (db, none)

end EvidenceService

namespace ReviewService

def create (db : Db) (request : ReviewRequest) : Except Err Db :=
  match db.reviews.get? request.reviewId with
  | some prior => do
    require (prior.request = request) ⟨.reviewConflict, "review_id has another request"⟩
    return db
  | none => do
    let candidate ← orRaise (db.candidates.get? request.candidateId)
      ⟨.reviewAuthorization, "review candidate does not exist"⟩
    require (candidate.runId = request.runId) ⟨.reviewAuthorization, "review candidate does not exist"⟩
    require (candidate.state = .lifecycle .reviewRequired)
      ⟨.reviewAuthorization, "candidate is not awaiting review"⟩
    db.insertReview ⟨request.reviewId, request, .pending⟩

def approvals (db : Db) (reviewId : String) : Nat :=
  (db.reviewDecisions.rows.filter fun d => d.reviewId = reviewId ∧ d.outcome = .approve).length

/-- `_record_idempotency`, made only when the caller named an actor and a key. -/
def recordIdempotency (db : Db) (actorId idempotencyKey : Option String) (scope digest decisionId recordId : String) :
    Except Err Db :=
  match actorId, idempotencyKey with
  | some actor, some key => db.insertIdempotency ⟨recordId, actor, scope, key, digest, decisionId⟩
  | _, _ => .ok db

def replayed (db : Db) (actorId idempotencyKey : Option String) (scope : String) : Option IdempotencyRow :=
  match actorId, idempotencyKey with
  | some actor, some key =>
    db.idempotency.find? fun r => r.actorId = actor ∧ r.endpointScope = scope ∧ r.idempotencyKey = key
  | _, _ => none

/-- What a decision makes of the request: a rejection settles it, and so does
the approval that reaches the required number. -/
def settle (db : Db) (request : ReviewRequestRow) (outcome : ReviewOutcome) : Db :=
  match outcome with
  | .reject => db.setReviewState request.reviewId .rejected
  | .approve =>
    if request.request.approvalsRequired ≤ approvals db request.reviewId
    then db.setReviewState request.reviewId .approved else db

/-- An expired request raises, so the assignment of `expired` is rolled back
with the rest of the transaction. -/
def submit (E : Env) (db : Db) (decision : ReviewDecision) (actorId idempotencyKey : Option String) (now : Instant)
    (recordId : String) : Except Err Db := do
  let request ← orRaise (db.reviews.get? decision.reviewId)
    ⟨.reviewAuthorization, "review request does not exist"⟩
  let digest := E.canonicalDigest (.reviewDecision decision)
  let scope := "reviews." ++ decision.reviewId ++ ".decisions"
  match replayed db actorId idempotencyKey scope with
  | some record => do
    require (record.requestDigest = digest)
      ⟨.reviewConflict, "idempotency key was already used for a different review decision"⟩
    return db
  | none =>
    match db.reviewDecisions.get? decision.decisionId with
    | some prior => do
      require (prior.decisionDigest = digest) ⟨.reviewConflict, "review decision ID has other evidence"⟩
      recordIdempotency db actorId idempotencyKey scope digest decision.decisionId recordId
    | none => do
      require (request.state = .pending) ⟨.reviewAuthorization, "review is already " ++ request.state.value⟩
      require (now < request.request.expiresAt) ⟨.reviewAuthorization, "review request expired"⟩
      require (decision.reviewerRole ∈ request.request.eligibleRoles)
        ⟨.reviewAuthorization, "reviewer role is not eligible"⟩
      require (decision.reviewerId = request.request.proposerId → request.request.proposerMayReview = true)
        ⟨.reviewAuthorization, "proposer cannot review this action"⟩
      require (∀ e ∈ request.request.requiredEvidenceDigests, e ∈ decision.evidenceDigests)
        ⟨.reviewAuthorization, "required review evidence is missing"⟩
      let db ← db.insertReviewDecision ⟨decision.decisionId, decision.reviewId, decision.reviewerId, decision.outcome,
        digest, decision⟩
      let db := settle db request decision.outcome
      recordIdempotency db actorId idempotencyKey scope digest decision.decisionId recordId

end ReviewService

end AvoCorrelate
