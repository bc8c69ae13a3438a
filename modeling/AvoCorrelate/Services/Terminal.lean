import AvoCorrelate.Services.Activity
import AvoCorrelate.Services.Evidence
/-!
# Terminal budget settlement and provenance

`TerminalBudgetService` commits every consequence of a durable result that
exhausts the run's budget in one transaction. `ProvenanceService` exports a run
and checks the export.
-/
open AvoLib

namespace AvoCorrelate

namespace TerminalBudgetService

def appendEvent := Db.appendNextEvent

/-- `_resolve_reconciliation`. -/
def resolvedCase (now : Instant) (row : ReconciliationCaseRow) : ReconciliationCaseRow :=
  { row with
    state := .resolved
    record := { row.record with
      state := .resolved
      resolution := some .fail
      resolutionNote := some "durable result exhausted the immutable run budget"
      resolvedAt := some now } }

def isOpenCase (runId activityId : String) (c : ReconciliationCaseRow) : Bool :=
  c.runId = runId ∧ c.activityId = activityId ∧ c.state = .opened

def resolveReconciliations (db : Db) (runId activityId : String) (now : Instant) : Db :=
  { db with cases := db.cases.modifyAll (isOpenCase runId activityId) (resolvedCase now) (fun _ => rfl) }

def reasonCode : Dimension → String
  | .modelInputTokens => "model_input_token_budget_exceeded"
  | .modelOutputTokens => "model_output_token_budget_exceeded"
  | d => d.name ++ "_budget_exceeded"

def evaluationKey (candidateId : String) : String := "evaluate:" ++ candidateId

def recordPolicyDenial (E : Env) (db : Db) (runId : String) (candidate : CandidateRow) (actual : UsageRecord)
    (limit : BudgetSpec) (exceeded : List Dimension) (policyBundleDigest : String) (now : Instant) :
    Except Err Db := do
  let decisionId := E.uuid5 ("avo:policy:budget-exhausted:" ++ candidate.candidateId)
  let decision : PolicyDecision := ⟨decisionId, "avo-terminal-budget-v1", policyBundleDigest, "candidate.evaluate",
    "run/" ++ runId ++ "/candidate/" ++ candidate.candidateId,
    E.canonicalDigest (.budgetDenial actual candidate.manifestDigest limit), .deny, exceeded.map reasonCode, now⟩
  let digest := E.canonicalDigest (.policyDecision decision)
  match db.policyDecisions.get? decisionId with
  | some existing => do
    require (existing.decisionDigest = digest) ⟨.terminalBudgetConflict, "budget policy decision conflicts"⟩
    return db
  | none => db.insertPolicyDecision ⟨decisionId, runId, some candidate.candidateId, digest, decision⟩

theorem cancelled_activityId (a : ActivityRow) : ({ a with state := .cancelled } : ActivityRow).activityId = a.activityId := rfl

/-- The evaluation activity must not have started, and must hold the evaluation
reservation if there is one. -/
def cancelActivity (db : Db) (activity : Option ActivityRow) (evaluationReservation : Option BudgetReservationRow) :
    Except Err Db :=
  match activity with
  | none => .ok db
  | some activity => do
    require (activity.state = .queued ∨ activity.state = .cancelled)
      ⟨.terminalBudgetConflict, "cannot cancel evaluation activity in state " ++ activity.state.value⟩
    require (∀ r ∈ evaluationReservation, activity.budgetReservationId = some r.reservationId)
      ⟨.terminalBudgetConflict, "evaluation activity has a different budget reservation"⟩
    require (evaluationReservation = none → activity.budgetReservationId = none)
      ⟨.terminalBudgetConflict, "evaluation budget reservation is missing"⟩
    return db.updateActivity activity.activityId (fun a => { a with state := .cancelled }) cancelled_activityId

/-- Give back the estimate of an evaluation that will not run. -/
def releaseEvaluation (db : Db) (evaluationReservation : Option BudgetReservationRow) (reserved : UsageRecord) :
    Except Err (Db × UsageRecord) :=
  match evaluationReservation with
  | none => .ok (db, reserved)
  | some evaluation =>
    if evaluation.state = .released then .ok (db, reserved)
    else do
      require (evaluation.state.active = true)
        ⟨.terminalBudgetConflict, "evaluation budget reservation is not releasable"⟩
      let (_, remaining) ← reconcileUsage .zero reserved evaluation.estimated .zero
      let db := db.updateReservation evaluation.reservationId
        (fun r => { r with state := .released, actual := some .zero }) (fun _ => rfl)
      return (db, remaining)

def cancelEvaluation (db : Db) (candidate : CandidateRow) (evaluationReservation : Option BudgetReservationRow)
    (reserved : UsageRecord) : Except Err (Db × UsageRecord) := do
  let activity := db.activities.find? fun a =>
    a.runId = candidate.runId ∧ a.activityKey = evaluationKey candidate.candidateId
  let db ← cancelActivity db activity evaluationReservation
  releaseEvaluation db evaluationReservation reserved

/-- A staged candidate is blocked; one that is blocked already stays so. -/
def blockCandidate (db : Db) (candidate : CandidateRow) : Except Err Db :=
  if candidate.state = .lifecycle .staged then do
    requireCandidateTransition .staged .policyBlocked
    return db.setCandidateState candidate.candidateId .policyBlocked
  else do
    require (candidate.state = .lifecycle .policyBlocked)
      ⟨.terminalBudgetConflict, "cannot budget-block candidate in state " ++
        match candidate.state with
        | .seed => "seed"
        | .lifecycle s => s.value⟩
    return db

/-- The consequences for the candidate the variation session staged, if any. -/
def settleCandidate (E : Env) (db : Db) (runId : String) (candidate : Option CandidateRow)
    (evaluationReservation : Option BudgetReservationRow) (actual remaining : UsageRecord) (limit : BudgetSpec)
    (exceeded : List Dimension) (policyBundleDigest : String) (now : Instant) : Except Err (Db × UsageRecord) :=
  match candidate with
  | none => .ok (db, remaining)
  | some candidate => do
    let db ← blockCandidate db candidate
    let (db, remaining) ← cancelEvaluation db candidate evaluationReservation remaining
    let db ← recordPolicyDenial E db runId candidate actual limit exceeded policyBundleDigest now
    return (db, remaining)

def evaluationReservation (db : Db) (runId : String) (candidate : Option CandidateRow) :
    Option BudgetReservationRow :=
  candidate.bind fun c =>
    db.reservations.find? fun r => r.runId = runId ∧ r.activityKey = evaluationKey c.candidateId

/-- The evaluation a candidate still needs, unless its estimate is set aside. -/
def unreservedEvaluation (candidate : Option CandidateRow) (evaluationReservation : Option BudgetReservationRow)
    (requiredEvaluation : UsageRecord) : UsageRecord :=
  if candidate.isSome ∧ ∀ r ∈ evaluationReservation, r.state.active = false then requiredEvaluation else .zero

def sessionCandidates (db : Db) (runId : String) (sessionId : Option String) : List CandidateRow :=
  db.candidates.rows.filter fun c => c.runId = runId ∧ c.sessionId = sessionId

/-- The run ends in `failed`, unless it is there already. -/
def failRun (db : Db) (run : RunRow) : Except Err Db :=
  if run.state = .failed then .ok db
  else do
    requireRunTransition run.state .failed
    return db.setRunState run.runId .failed

def settledActivity (resultDigest : String) (a : ActivityRow) : ActivityRow :=
  { a with state := .completed, resultDigest := some resultDigest, leaseOwner := none, leaseExpiresAt := none }

/-- A repeated settlement only resolves cases opened since. -/
def replay (db : Db) (run : RunRow) (activity : ActivityRow) (reservation : BudgetReservationRow)
    (actual : UsageRecord) (actorId : String) (now : Instant) (ids : Db.EventIds) : Except Err Db := do
  let prior ← orRaise reservation.actual ⟨.validation, "UsageRecord"⟩
  require (prior = actual) ⟨.terminalBudgetConflict, "exceeded reservation has different actual usage"⟩
  require (run.state = .failed ∧ activity.state = .completed)
    ⟨.terminalBudgetConflict, "terminal budget settlement is incomplete"⟩
  if db.cases.rows.any (isOpenCase run.runId activity.activityId) then
    appendEvent (resolveReconciliations db run.runId activity.activityId now) run "reconciliation.resolved" actorId
      [("activity_id", .str activity.activityId), ("resolution", .str "fail")] ids
  else return db

theorem settled_runId (used reserved : UsageRecord) (l : BudgetLedgerRow) :
    ({ l with used := used, reserved := reserved, revision := l.revision + 1 } : BudgetLedgerRow).runId = l.runId := rfl

def settle (E : Env) (db : Db) (run : RunRow) (activity : ActivityRow) (reservation : BudgetReservationRow)
    (ledger : BudgetLedgerRow) (resultDigest : String) (actual requiredEvaluation : UsageRecord)
    (policyBundleDigest actorId : String) (now : Instant) (ids : Db.EventIds) : Except Err Db := do
  require (reservation.state.active = true)
    ⟨.terminalBudgetConflict, "cannot terminally settle reservation in state " ++ reservation.state.value⟩
  let (settledUsed, remaining) ← reconcileUsage ledger.used ledger.reserved reservation.estimated actual
  let candidates := sessionCandidates db run.runId activity.sessionId
  require (candidates.length ≤ 1) ⟨.terminalBudgetConflict, "variation session produced multiple candidates"⟩
  let candidate := candidates.head?
  let evaluation := evaluationReservation db run.runId candidate
  let projected := (settledUsed.plus remaining).plus (unreservedEvaluation candidate evaluation requiredEvaluation)
  require (projected.fitsWithin ledger.limit = false)
    ⟨.terminalBudgetConflict, "usage does not exhaust the run budget"⟩
  let exceeded := exceededDimensions projected ledger.limit
  let (db, remaining) ← settleCandidate E db run.runId candidate evaluation actual remaining ledger.limit exceeded
    policyBundleDigest now
  let db := db.updateLedger run.runId
    (fun l => { l with used := settledUsed, reserved := remaining, revision := l.revision + 1 })
    (settled_runId settledUsed remaining)
  let db := db.updateReservation reservation.reservationId
    (fun r => { r with state := .exceeded, actual := some actual }) (fun _ => rfl)
  let db := db.updateActivity activity.activityId (settledActivity resultDigest) (fun _ => rfl)
  let db ← failRun db run
  let db := resolveReconciliations db run.runId activity.activityId now
  appendEvent db run "campaign.budget_exhausted" actorId
    [("activity_id", .str activity.activityId), ("candidate_id", candidate.elim .null fun c => .str c.candidateId),
      ("exceeded_dimensions", .strs (exceeded.map Dimension.name)),
      ("reservation_id", .str reservation.reservationId), ("result_digest", .str resultDigest)] ids

def settleExhaustedVariation (E : Env) (db : Db) (runId activityId reservationId resultDigest : String)
    (actual requiredEvaluation : UsageRecord) (policyBundleDigest actorId : String) (leaseEpoch : Option Nat)
    (now : Instant) (ids : Db.EventIds) : Except Err Db := do
  let incomplete : Err := ⟨.lookup, "terminal budget settlement context is incomplete"⟩
  let run ← orRaise (db.runs.get? runId) incomplete
  let activity ← orRaise (db.activities.get? activityId) incomplete
  let reservation ← orRaise (db.reservations.get? reservationId) incomplete
  let ledger ← orRaise (db.ledgers.get? runId) incomplete
  require (activity.runId = runId ∧ reservation.runId = runId)
    ⟨.terminalBudgetConflict, "terminal budget context crosses run boundaries"⟩
  require (activity.budgetReservationId = some reservationId)
    ⟨.terminalBudgetConflict, "activity has a different budget reservation"⟩
  require (activity.state = .running → ∀ e ∈ leaseEpoch, activity.leaseEpoch = e)
    ⟨.terminalBudgetConflict, "stale activity lease epoch"⟩
  require (activity.state = .running ∨ activity.state = .reconciliationRequired ∨ activity.state = .completed)
    ⟨.terminalBudgetConflict, "cannot terminally settle activity in state " ++ activity.state.value⟩
  require (activity.state = .completed → activity.resultDigest = some resultDigest)
    ⟨.terminalBudgetConflict, "activity completed with another result"⟩
  if reservation.state = .exceeded then
    replay db run activity reservation actual actorId now ids
  else
    settle E db run activity reservation ledger resultDigest actual requiredEvaluation policyBundleDigest actorId now
      ids

end TerminalBudgetService

namespace ProvenanceService

structure ProvenanceExport where
  runId : String
  manifest : ProvenanceManifest
  manifestDigest : String
  deriving DecidableEq

structure VerificationReport where
  verified : Bool
  checks : List String
  errors : List String
  deriving DecidableEq

/-- The export keeps, of a run's manifest, what `verify` reads. -/
def exportRun (E : Env) (db : Db) (runId : String) : Except Err ProvenanceExport := do
  let run ← orRaise (db.runs.get? runId) ⟨.lookup, "run not found: " ++ runId⟩
  let _ ← orRaise (db.experiments.get? run.experimentId) ⟨.lookup, "run envelope is incomplete"⟩
  let _ ← orRaise (db.ledgers.get? runId) ⟨.lookup, "run envelope is incomplete"⟩
  let manifest : ProvenanceManifest :=
    ⟨run, (db.events.rows.filter fun e => e.runId = runId).mergeSort (fun a b => a.sequence ≤ b.sequence),
      (db.lineage.rows.filter fun l => l.runId = runId).mergeSort (fun a b => a.sequence ≤ b.sequence),
      (db.cases.rows.filter fun c => c.runId = runId).map (·.record)⟩
  return ⟨runId, manifest, E.canonicalDigest (.provenance manifest)⟩

def manifestDigestError (E : Env) (exported : ProvenanceExport) : List String :=
  if E.canonicalDigest (.provenance exported.manifest) = exported.manifestDigest then [] else ["manifest_digest_mismatch"]

def eventSequenceError (m : ProvenanceManifest) : List String :=
  if m.events.map (·.sequence) = List.range' 1 m.events.length then [] else ["event_sequence_gap"]

def lineageSequenceError (m : ProvenanceManifest) : List String :=
  if m.lineage.map (·.sequence) = List.range m.lineage.length then [] else ["lineage_sequence_gap"]

def championError (m : ProvenanceManifest) : List String :=
  match m.lineage.getLast? with
  | none => ["champion_lineage_mismatch"]
  | some l => if m.run.championId = some l.candidateId then [] else ["champion_lineage_mismatch"]

def terminalReconciliationError (m : ProvenanceManifest) : List String :=
  if (m.run.state = .completed ∨ m.run.state = .cancelled ∨ m.run.state = .failed) ∧
      m.reconciliations.any (·.state = .opened) = true
  then ["terminal_run_has_open_reconciliation"] else []

def verify (E : Env) (exported : ProvenanceExport) : VerificationReport :=
  let errors := manifestDigestError E exported ++ eventSequenceError exported.manifest ++
    lineageSequenceError exported.manifest ++ championError exported.manifest ++
    terminalReconciliationError exported.manifest
  ⟨errors.isEmpty,
    ["manifest_digest", "event_sequence", "lineage_sequence", "champion", "terminal_reconciliation"], errors⟩

end ProvenanceService

end AvoCorrelate
