import AvoCorrelate.Domain
import AvoCorrelate.Lib.Tables
/-!
# Persistence

The relational tables the services share, one row type per table, and the
inserts with the constraints SQLite enforces on them (primary keys, unique
constraints, foreign keys). JSON columns hold the record they encode. Columns
that no modelled service reads (`created_at` of most tables, `updated_at`,
`error_json`, `reconciled_at`) are left out.

A constraint of an added row is checked when the unit of work is flushed, which
always happens inside the same transaction, so here it is checked where the row
is added.
-/
open AvoLib

namespace AvoCorrelate

/-! ## Rows -/

structure ExperimentRow where
  experimentId : String
  specDigest : String
  spec : ExperimentSpec
  deriving DecidableEq

structure RunRow where
  runId : String
  experimentId : String
  state : RunState
  revision : Nat
  eventSequence : Nat
  championId : Option String
  deriving DecidableEq

inductive PayloadValue
  | str (s : String) | int (n : Nat) | strs (l : List String) | null
  deriving DecidableEq

abbrev Payload := List (String × PayloadValue)

structure EventRow where
  eventId : String
  runId : String
  sequence : Nat
  eventType : String
  actorId : String
  payload : Payload
  deriving DecidableEq

structure OutboxRow where
  outboxId : String
  eventId : String
  topic : String
  payload : Payload
  deriving DecidableEq

structure BudgetLedgerRow where
  runId : String
  limit : BudgetSpec
  used : UsageRecord
  reserved : UsageRecord
  revision : Nat
  deriving DecidableEq

structure BudgetReservationRow where
  reservationId : String
  runId : String
  activityKey : String
  state : ReservationState
  estimated : UsageRecord
  actual : Option UsageRecord
  deriving DecidableEq

structure ActivityRow where
  activityId : String
  runId : String
  sessionId : Option String
  budgetReservationId : Option String
  activityKey : String
  state : ActivityState
  attemptCount : Nat
  leaseEpoch : Nat
  leaseOwner : Option String
  leaseExpiresAt : Option Instant
  inputDigest : String
  resultDigest : Option String
  createdAt : Instant
  deriving DecidableEq

structure VariationSessionRow where
  sessionId : String
  runId : String
  sessionNumber : Nat
  state : VariationSessionState
  request : VariationSessionRequest
  result : Option VariationSessionResult
  deriving DecidableEq

/-- The `state` column of a candidate: `seed`, or a lifecycle state. -/
inductive StoredCandidateState
  | seed | lifecycle (s : CandidateState)
  deriving DecidableEq

inductive Manifest
  | seed (m : SeedManifest) | candidate (m : CandidateManifest)
  deriving DecidableEq

structure CandidateRow where
  candidateId : String
  runId : String
  sessionId : Option String
  state : StoredCandidateState
  sourceTreeDigest : String
  manifestDigest : String
  manifest : Manifest
  deriving DecidableEq

structure EvaluationRow where
  evaluationId : String
  candidateId : String
  evaluatorKey : String
  recordDigest : String
  record : EvaluationRecord
  deriving DecidableEq

structure PolicyDecisionRow where
  decisionId : String
  runId : String
  candidateId : Option String
  decisionDigest : String
  decision : PolicyDecision
  deriving DecidableEq

structure AdmissionRow where
  admissionId : String
  runId : String
  candidateId : String
  outcome : AdmissionOutcome
  decisionDigest : String
  decision : AdmissionDecision
  deriving DecidableEq

structure LineageRow where
  lineageId : String
  runId : String
  sequence : Nat
  candidateId : String
  sourceTreeDigest : String
  admissionId : Option String
  deriving DecidableEq

structure ArtifactMetadataRow where
  digest : String
  sizeBytes : Nat
  mediaType : String
  role : String
  deriving DecidableEq

structure ArtifactReferenceRow where
  referenceId : String
  digest : String
  runId : String
  ownerType : String
  ownerId : String
  role : String
  retentionClass : String
  deriving DecidableEq

structure HarnessInvocationRow where
  invocationId : String
  runId : String
  activityId : String
  sessionId : Option String
  state : InvocationState
  recordDigest : String
  record : HarnessInvocationRecord
  deriving DecidableEq

structure ReconciliationCaseRow where
  reconciliationId : String
  runId : String
  activityId : String
  sessionId : Option String
  state : CaseState
  record : ReconciliationCaseRecord
  deriving DecidableEq

structure ReviewRequestRow where
  reviewId : String
  request : ReviewRequest
  state : ReviewState
  deriving DecidableEq

structure ReviewDecisionRow where
  decisionId : String
  reviewId : String
  reviewerId : String
  outcome : ReviewOutcome
  decisionDigest : String
  decision : ReviewDecision
  deriving DecidableEq

structure IdempotencyRow where
  recordId : String
  actorId : String
  endpointScope : String
  idempotencyKey : String
  requestDigest : String
  resourceId : String
  deriving DecidableEq

/-! ## Canonical digests

`canonical_digest` is SHA-256 over the RFC 8785 bytes of a record. Every
theorem holds for any function in its place, so none rests on it being free of
collisions. -/

/-- What `export_run` writes that `verify` reads. -/
structure ProvenanceManifest where
  run : RunRow
  events : List EventRow
  lineage : List LineageRow
  reconciliations : List ReconciliationCaseRecord
  deriving DecidableEq

/-- The values the services hash. -/
inductive Canonical
  | experimentSpec (spec : ExperimentSpec)
  | createRunRequest (experimentId : String) (prepare : Bool) (runId : String)
  | transitionRequest (runId : String) (target : RunState) (reason : Option String)
  | seedManifest (m : SeedManifest)
  | candidateManifest (m : CandidateManifest)
  | evaluationRecord (r : EvaluationRecord)
  | policyDecision (d : PolicyDecision)
  | admissionDecision (d : AdmissionDecision)
  | reviewDecision (d : ReviewDecision)
  | sessionRequest (r : VariationSessionRequest)
  | sessionResult (r : VariationSessionResult)
  | harnessInvocation (r : HarnessInvocationRecord)
  | budgetDenial (actual : UsageRecord) (manifestDigest : String) (limit : BudgetSpec)
  | provenance (m : ProvenanceManifest)

/-- The hash functions the services call: `canonical_digest`, and `uuid5` in
the URL namespace. -/
structure Env where
  canonicalDigest : Canonical → String
  uuid5 : String → String

/-! ## The database -/

structure Db where
  experiments : Table ExperimentRow.experimentId
  runs : Table RunRow.runId
  events : Table EventRow.eventId
  outbox : Table OutboxRow.outboxId
  ledgers : Table BudgetLedgerRow.runId
  reservations : Table BudgetReservationRow.reservationId
  activities : Table ActivityRow.activityId
  sessions : Table VariationSessionRow.sessionId
  candidates : Table CandidateRow.candidateId
  evaluations : Table EvaluationRow.evaluationId
  policyDecisions : Table PolicyDecisionRow.decisionId
  admissions : Table AdmissionRow.admissionId
  lineage : Table LineageRow.lineageId
  artifacts : Table ArtifactMetadataRow.digest
  artifactReferences : Table ArtifactReferenceRow.referenceId
  invocations : Table HarnessInvocationRow.invocationId
  cases : Table ReconciliationCaseRow.reconciliationId
  reviews : Table ReviewRequestRow.reviewId
  reviewDecisions : Table ReviewDecisionRow.decisionId
  idempotency : Table IdempotencyRow.recordId

/-- A freshly initialized database. -/
def Db.initial : Db :=
  ⟨.empty, .empty, .empty, .empty, .empty, .empty, .empty, .empty, .empty, .empty, .empty, .empty, .empty,
    .empty, .empty, .empty, .empty, .empty, .empty, .empty⟩

/-! ## Inserts -/

/-- `INSERT` of a row whose unique and foreign-key constraints are `constraint`. -/
def insertRow {α κ : Type} [DecidableEq κ] {key : α → κ} (t : Table key) (row : α) (constraint : Prop)
    [Decidable constraint] : Except Err (Table key) := do
  require constraint ⟨.integrity, "constraint failed"⟩
  orRaise (t.insert? row) ⟨.integrity, "UNIQUE constraint failed"⟩

@[simp] theorem insertRow_ok {α κ : Type} [DecidableEq κ] {key : α → κ} {t t' : Table key} {row : α}
    {constraint : Prop} [Decidable constraint] :
    insertRow t row constraint = .ok t' ↔ constraint ∧ t.insert? row = some t' := by
  simp [insertRow]

namespace Db

/-- A foreign key that may be null. -/
def references {α κ : Type} [DecidableEq κ] {key : α → κ} (t : Table key) (k : Option κ) : Prop :=
  ∀ x ∈ k, (t.get? x).isSome = true

instance {α κ : Type} [DecidableEq κ] {key : α → κ} (t : Table key) (k : Option κ) : Decidable (references t k) :=
  decidable_of_iff (k.all (fun x => (t.get? x).isSome) = true) (by cases k <;> simp [references])

def insertExperiment (db : Db) (row : ExperimentRow) : Except Err Db := do
  let t ← insertRow db.experiments row (∀ x ∈ db.experiments.rows, x.specDigest ≠ row.specDigest)
  return { db with experiments := t }

def insertRun (db : Db) (row : RunRow) : Except Err Db := do
  let t ← insertRow db.runs row ((db.experiments.get? row.experimentId).isSome = true)
  return { db with runs := t }

def insertEvent (db : Db) (row : EventRow) : Except Err Db := do
  let t ← insertRow db.events row ((db.runs.get? row.runId).isSome = true ∧
    ∀ x ∈ db.events.rows, ¬ (x.runId = row.runId ∧ x.sequence = row.sequence))
  return { db with events := t }

def insertOutbox (db : Db) (row : OutboxRow) : Except Err Db := do
  let t ← insertRow db.outbox row ((db.events.get? row.eventId).isSome = true ∧
    ∀ x ∈ db.outbox.rows, x.eventId ≠ row.eventId)
  return { db with outbox := t }

def insertLedger (db : Db) (row : BudgetLedgerRow) : Except Err Db := do
  let t ← insertRow db.ledgers row ((db.runs.get? row.runId).isSome = true)
  return { db with ledgers := t }

def insertReservation (db : Db) (row : BudgetReservationRow) : Except Err Db := do
  let t ← insertRow db.reservations row ((db.runs.get? row.runId).isSome = true ∧
    ∀ x ∈ db.reservations.rows, ¬ (x.runId = row.runId ∧ x.activityKey = row.activityKey))
  return { db with reservations := t }

def insertActivity (db : Db) (row : ActivityRow) : Except Err Db := do
  let t ← insertRow db.activities row ((db.runs.get? row.runId).isSome = true ∧
    references db.sessions row.sessionId ∧ references db.reservations row.budgetReservationId ∧
    ∀ x ∈ db.activities.rows, ¬ (x.runId = row.runId ∧ x.activityKey = row.activityKey))
  return { db with activities := t }

def insertSession (db : Db) (row : VariationSessionRow) : Except Err Db := do
  let t ← insertRow db.sessions row ((db.runs.get? row.runId).isSome = true ∧
    ∀ x ∈ db.sessions.rows, ¬ (x.runId = row.runId ∧ x.sessionNumber = row.sessionNumber))
  return { db with sessions := t }

def insertCandidate (db : Db) (row : CandidateRow) : Except Err Db := do
  let t ← insertRow db.candidates row ((db.runs.get? row.runId).isSome = true ∧
    references db.sessions row.sessionId ∧
    ∀ x ∈ db.candidates.rows, ¬ (x.runId = row.runId ∧ x.sourceTreeDigest = row.sourceTreeDigest))
  return { db with candidates := t }

def insertEvaluation (db : Db) (row : EvaluationRow) : Except Err Db := do
  let t ← insertRow db.evaluations row ((db.candidates.get? row.candidateId).isSome = true ∧
    ∀ x ∈ db.evaluations.rows, ¬ (x.candidateId = row.candidateId ∧ x.evaluatorKey = row.evaluatorKey))
  return { db with evaluations := t }

def insertPolicyDecision (db : Db) (row : PolicyDecisionRow) : Except Err Db := do
  let t ← insertRow db.policyDecisions row ((db.runs.get? row.runId).isSome = true ∧
    references db.candidates row.candidateId)
  return { db with policyDecisions := t }

/-- `uq_admission_success_candidate` covers the rows with outcome `admit`. -/
def insertAdmission (db : Db) (row : AdmissionRow) : Except Err Db := do
  let t ← insertRow db.admissions row ((db.runs.get? row.runId).isSome = true ∧
    (db.candidates.get? row.candidateId).isSome = true ∧
    (row.outcome = .admits → ∀ x ∈ db.admissions.rows, ¬ (x.outcome = .admits ∧ x.candidateId = row.candidateId)))
  return { db with admissions := t }

def insertLineage (db : Db) (row : LineageRow) : Except Err Db := do
  let t ← insertRow db.lineage row ((db.runs.get? row.runId).isSome = true ∧
    (db.candidates.get? row.candidateId).isSome = true ∧ references db.admissions row.admissionId ∧
    ∀ x ∈ db.lineage.rows, ¬ (x.runId = row.runId ∧ (x.sequence = row.sequence ∨
      x.candidateId = row.candidateId ∨ x.sourceTreeDigest = row.sourceTreeDigest)))
  return { db with lineage := t }

def insertArtifact (db : Db) (row : ArtifactMetadataRow) : Except Err Db := do
  let t ← insertRow db.artifacts row True
  return { db with artifacts := t }

def insertArtifactReference (db : Db) (row : ArtifactReferenceRow) : Except Err Db := do
  let t ← insertRow db.artifactReferences row ((db.runs.get? row.runId).isSome = true ∧
    (db.artifacts.get? row.digest).isSome = true ∧
    ∀ x ∈ db.artifactReferences.rows, ¬ (x.digest = row.digest ∧ x.ownerType = row.ownerType ∧
      x.ownerId = row.ownerId ∧ x.role = row.role))
  return { db with artifactReferences := t }

def insertInvocation (db : Db) (row : HarnessInvocationRow) : Except Err Db := do
  let t ← insertRow db.invocations row ((db.runs.get? row.runId).isSome = true ∧
    (db.activities.get? row.activityId).isSome = true ∧ references db.sessions row.sessionId)
  return { db with invocations := t }

def insertCase (db : Db) (row : ReconciliationCaseRow) : Except Err Db := do
  let t ← insertRow db.cases row ((db.runs.get? row.runId).isSome = true ∧
    (db.activities.get? row.activityId).isSome = true ∧ references db.sessions row.sessionId)
  return { db with cases := t }

def insertReview (db : Db) (row : ReviewRequestRow) : Except Err Db := do
  let t ← insertRow db.reviews row ((db.runs.get? row.request.runId).isSome = true ∧
    (db.candidates.get? row.request.candidateId).isSome = true)
  return { db with reviews := t }

def insertReviewDecision (db : Db) (row : ReviewDecisionRow) : Except Err Db := do
  let t ← insertRow db.reviewDecisions row ((db.reviews.get? row.reviewId).isSome = true ∧
    ∀ x ∈ db.reviewDecisions.rows, ¬ (x.reviewId = row.reviewId ∧ x.reviewerId = row.reviewerId))
  return { db with reviewDecisions := t }

def insertIdempotency (db : Db) (row : IdempotencyRow) : Except Err Db := do
  let t ← insertRow db.idempotency row (∀ x ∈ db.idempotency.rows, ¬ (x.actorId = row.actorId ∧
    x.endpointScope = row.endpointScope ∧ x.idempotencyKey = row.idempotencyKey))
  return { db with idempotency := t }

/-! ## Updates

Each assigns columns of the row with one key; the key itself never changes. -/

def updateRun (db : Db) (k : String) (f : RunRow → RunRow) (hf : ∀ r, (f r).runId = r.runId) : Db :=
  { db with runs := db.runs.modify k f hf }

def setRunState (db : Db) (runId : String) (s : RunState) : Db :=
  db.updateRun runId (fun r => { r with state := s }) (fun _ => rfl)

def updateLedger (db : Db) (k : String) (f : BudgetLedgerRow → BudgetLedgerRow)
    (hf : ∀ r, (f r).runId = r.runId) : Db :=
  { db with ledgers := db.ledgers.modify k f hf }

def updateReservation (db : Db) (k : String) (f : BudgetReservationRow → BudgetReservationRow)
    (hf : ∀ r, (f r).reservationId = r.reservationId) : Db :=
  { db with reservations := db.reservations.modify k f hf }

def setReservationState (db : Db) (reservationId : String) (s : ReservationState) : Db :=
  db.updateReservation reservationId (fun r => { r with state := s }) (fun _ => rfl)

def updateActivity (db : Db) (k : String) (f : ActivityRow → ActivityRow)
    (hf : ∀ r, (f r).activityId = r.activityId) : Db :=
  { db with activities := db.activities.modify k f hf }

def updateSession (db : Db) (k : String) (f : VariationSessionRow → VariationSessionRow)
    (hf : ∀ r, (f r).sessionId = r.sessionId) : Db :=
  { db with sessions := db.sessions.modify k f hf }

def setSessionState (db : Db) (sessionId : String) (s : VariationSessionState) : Db :=
  db.updateSession sessionId (fun r => { r with state := s }) (fun _ => rfl)

def setCandidateState (db : Db) (candidateId : String) (s : CandidateState) : Db :=
  { db with candidates := db.candidates.modify candidateId (fun r => { r with state := .lifecycle s }) (fun _ => rfl) }

def setReviewState (db : Db) (reviewId : String) (s : ReviewState) : Db :=
  { db with reviews := db.reviews.modify reviewId (fun r => { r with state := s }) (fun _ => rfl) }

variable {db db' : Db} {k eventType actorId : String} {r : RunRow} {payload : Payload} {ids : EventIds}

theorem sets_updateRun {f : RunRow → RunRow} (hf : ∀ r, (f r).runId = r.runId) (h : db.runs.get? k = some r) :
    db.runs.Sets (f r) (db.updateRun k f hf).runs :=
  Table.sets_modify f hf h

theorem sets_updateLedger {l : BudgetLedgerRow} {f : BudgetLedgerRow → BudgetLedgerRow}
    (hf : ∀ r, (f r).runId = r.runId) (h : db.ledgers.get? k = some l) :
    db.ledgers.Sets (f l) (db.updateLedger k f hf).ledgers :=
  Table.sets_modify f hf h

theorem sets_updateReservation {r : BudgetReservationRow} {f : BudgetReservationRow → BudgetReservationRow}
    (hf : ∀ r, (f r).reservationId = r.reservationId) (h : db.reservations.get? k = some r) :
    db.reservations.Sets (f r) (db.updateReservation k f hf).reservations :=
  Table.sets_modify f hf h

theorem sets_setReservationState {r : BudgetReservationRow} {s : ReservationState} (h : db.reservations.get? k = some r) :
    db.reservations.Sets { r with state := s } (db.setReservationState k s).reservations :=
  Table.sets_modify (fun r : BudgetReservationRow => { r with state := s }) (fun _ => rfl) h

theorem sets_setRunState {s : RunState} (h : db.runs.get? k = some r) :
    db.runs.Sets { r with state := s } (db.setRunState k s).runs :=
  Table.sets_modify (fun r : RunRow => { r with state := s }) (fun _ => rfl) h

theorem sets_setCandidateState {c : CandidateRow} {s : CandidateState} (h : db.candidates.get? k = some c) :
    db.candidates.Sets { c with state := .lifecycle s } (db.setCandidateState k s).candidates :=
  Table.sets_modify (fun r : CandidateRow => { r with state := .lifecycle s }) (fun _ => rfl) h

/-! ## The event journal -/

/-- The two identifiers `uuid4` draws for an event and its outbox row. -/
structure EventIds where
  eventId : String
  outboxId : String

/-- Add an event with a given sequence number, and its outbox row. -/
def appendEvent (db : Db) (runId : String) (sequence : Nat) (eventType actorId : String) (payload : Payload)
    (ids : EventIds) : Except Err Db := do
  let db ← db.insertEvent ⟨ids.eventId, runId, sequence, eventType, actorId, payload⟩
  db.insertOutbox ⟨ids.outboxId, ids.eventId, "run.events", payload⟩

/-- `run.revision += 1` and `run.event_sequence += 1`. -/
def bump (run : RunRow) (r : RunRow) : RunRow :=
  { r with revision := run.revision + 1, eventSequence := run.eventSequence + 1 }

/-- Advance the run's counters by one and add an event under the new sequence
number. `run` is the row as read in this transaction. -/
def appendNextEvent (db : Db) (run : RunRow) (eventType actorId : String) (payload : Payload) (ids : EventIds) :
    Except Err Db :=
  (db.updateRun run.runId (bump run) (fun _ => rfl)).appendEvent run.runId (run.eventSequence + 1) eventType actorId
    payload ids

/-- The journal grew by the event of `runId` with number `sequence`, and the
outbox by the row that publishes it. -/
def Journals (db : Db) (runId : String) (sequence : Nat) (db' : Db) : Prop :=
  ∃ e o, e.runId = runId ∧ e.sequence = sequence ∧ o.eventId = e.eventId ∧
    db.events.insert? e = some db'.events ∧ db.outbox.insert? o = some db'.outbox ∧
    ∀ x ∈ db.outbox, x.eventId ≠ e.eventId

/-- The run's row became `run'`, and the journal grew by the event that carries
its new sequence number. -/
def Logs (db : Db) (run' : RunRow) (db' : Db) : Prop :=
  db.runs.Sets run' db'.runs ∧ db.Journals run'.runId run'.eventSequence db'

theorem appendEvent_ok {runId : String} {sequence : Nat}
    (h : db.appendEvent runId sequence eventType actorId payload ids = .ok db') :
    ∃ es os, db' = { db with events := es, outbox := os } ∧ db.Journals runId sequence db' := by
  simp only [appendEvent, insertEvent, insertOutbox, bind_ok, insertRow_ok, pure_ok] at h
  obtain ⟨_, ⟨es, ⟨-, hes⟩, rfl⟩, os, ⟨⟨-, hfresh⟩, hos⟩, rfl⟩ := h
  exact ⟨es, os, rfl, _, _, rfl, rfl, rfl, hes, hos, hfresh⟩

theorem appendNextEvent_ok {run : RunRow} (h : db.appendNextEvent run eventType actorId payload ids = .ok db')
    (hr : db.runs.get? run.runId = some r) :
    ∃ ns es os, db' = { db with runs := ns, events := es, outbox := os } ∧ db.Logs (bump run r) db' := by
  obtain ⟨es, os, hdb, hj⟩ := appendEvent_ok h
  have hk : r.runId = run.runId := Table.get?_key hr
  refine ⟨_, es, os, hdb, ?_, ?_⟩
  · subst hdb
    exact Table.sets_modify (bump run) (fun _ => rfl) hr
  · change db.Journals r.runId (run.eventSequence + 1) db'
    rw [hk]
    exact hj

end Db

end AvoCorrelate
