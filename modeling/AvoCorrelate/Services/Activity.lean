import AvoCorrelate.Services.Budget
/-!
# Activities, invocations and reconciliation

`ActivityService` and `RuntimeService`: the lease-based journal of external
work, the coding-agent invocations, and the reconciliation cases that block a
run while the outcome of external work is unknown.
-/
open AvoLib

namespace AvoCorrelate

/-- `first or second` on optional strings: the empty string is false. -/
def orElse (first second : Option String) : Option String :=
  match first with
  | some s => if s = "" then second else some s
  | none => second

namespace ActivityService

def appendEvent := Db.appendNextEvent

def enqueue (db : Db) (runId activityKey inputDigest actorId : String) (sessionId budgetReservationId : Option String)
    (activityId : String) (now : Instant) (ids : Db.EventIds) : Except Err (Db × String) :=
  match db.activities.find? (fun a => a.runId = runId ∧ a.activityKey = activityKey) with
  | some existing => do
    require (existing.inputDigest = inputDigest) ⟨.activityConflict, "activity_key has a different input digest"⟩
    require (existing.sessionId = sessionId ∧ existing.budgetReservationId = budgetReservationId)
      ⟨.activityConflict, "activity_key has different lifecycle context"⟩
    return (db, existing.activityId)
  | none => do
    let run ← orRaise (db.runs.get? runId) ⟨.lookup, "run not found: " ++ runId⟩
    let db ← db.insertActivity ⟨activityId, runId, sessionId, budgetReservationId, activityKey, .queued, 0, 0, none,
      none, inputDigest, none, now⟩
    let db ← appendEvent db run "activity.queued" actorId
      [("activity_id", .str activityId), ("activity_key", .str activityKey)] ids
    return (db, activityId)

/-- A queued activity, or a running one whose lease ran out without a result. -/
def eligible (claimedAt : Instant) (a : ActivityRow) : Bool :=
  a.state = .queued ||
    (a.state = .running && a.leaseExpiresAt.any (· < claimedAt) && a.resultDigest.isNone)

/-- `ORDER BY created_at, activity_id LIMIT 1`. -/
def earliest : List ActivityRow → Option ActivityRow
  | [] => none
  | a :: l =>
    match earliest l with
    | none => some a
    | some b =>
      if b.createdAt < a.createdAt ∨ (b.createdAt = a.createdAt ∧ b.activityId < a.activityId) then some b else some a

/-- The columns `claim_next` sets. -/
def claimed (workerId : String) (expiresAt : Instant) (a : ActivityRow) : ActivityRow :=
  { a with state := .running, attemptCount := a.attemptCount + 1, leaseEpoch := a.leaseEpoch + 1,
           leaseOwner := some workerId, leaseExpiresAt := some expiresAt }

def claimNext (db : Db) (workerId : String) (leaseSeconds : Int) (claimedAt : Instant) (ids : Db.EventIds) :
    Except Err (Db × Option ActivityRow) :=
  match earliest (db.activities.rows.filter fun a => eligible claimedAt a &&
    (db.runs.get? a.runId).any (·.state = .running)) with
  | none => .ok (db, none)
  | some found => do
    let db := db.updateActivity found.activityId (claimed workerId (claimedAt + leaseSeconds)) (fun _ => rfl)
    let run ← orRaise (db.runs.get? found.runId) ⟨.lookup, "run not found: " ++ found.runId⟩
    let activity := claimed workerId (claimedAt + leaseSeconds) found
    let db ← appendEvent db run "activity.claimed" workerId
      [("activity_id", .str activity.activityId), ("attempt_count", .int activity.attemptCount),
        ("lease_epoch", .int activity.leaseEpoch)] ids
    return (db, some activity)

/-- The columns `complete` sets. -/
def finished (resultDigest : String) (a : ActivityRow) : ActivityRow :=
  { a with state := .completed, resultDigest := some resultDigest, leaseOwner := none, leaseExpiresAt := none }

def complete (db : Db) (activityId workerId : String) (leaseEpoch : Nat) (resultDigest : String) (ids : Db.EventIds) :
    Except Err Db := do
  let activity ← orRaise (db.activities.get? activityId) ⟨.lookup, "activity not found: " ++ activityId⟩
  if activity.state = .completed then do
    require (activity.resultDigest = some resultDigest)
      ⟨.activityConflict, "activity completed with another result"⟩
    return db
  else do
    require (activity.state = .running ∧ activity.leaseOwner = some workerId ∧ activity.leaseEpoch = leaseEpoch)
      ⟨.activityConflict, "worker does not hold the activity lease"⟩
    let run ← orRaise (db.runs.get? activity.runId) ⟨.lookup, "run not found: " ++ activity.runId⟩
    let db := db.updateActivity activityId (finished resultDigest) (fun _ => rfl)
    appendEvent db run "activity.completed" workerId
      [("activity_id", .str activityId), ("result_digest", .str resultDigest), ("lease_epoch", .int leaseEpoch)] ids

/-- A caller's clock reading: its instant, and whether it has a timezone. -/
structure ClockValue where
  instant : Instant
  aware : Bool

/-- `stored < value` for a column, which SQLite returns without a timezone;
comparing it with an aware value raises. -/
def storedBefore (stored : Instant) (value : ClockValue) : Except Err Bool := do
  require (value.aware = false) ⟨.type, "can't compare offset-naive and offset-aware datetimes"⟩
  return stored < value.instant

/-- The lease expiry check of `heartbeat`. -/
def leaseExpired (leaseExpiresAt : Option Instant) (heartbeatAt : ClockValue) : Except Err Bool :=
  match leaseExpiresAt with
  | none => .ok false
  | some e => storedBefore e heartbeatAt

def heartbeat (db : Db) (activityId workerId : String) (leaseEpoch : Nat) (leaseSeconds : Int)
    (heartbeatAt : ClockValue) : Except Err (Db × Instant) := do
  require (0 < leaseSeconds) ⟨.value, "lease_seconds must be positive"⟩
  let expiresAt := heartbeatAt.instant + leaseSeconds
  let activity ← orRaise (db.activities.get? activityId) ⟨.lookup, "activity not found: " ++ activityId⟩
  require (activity.state = .running ∧ activity.leaseOwner = some workerId ∧ activity.leaseEpoch = leaseEpoch)
    ⟨.activityConflict, "worker does not hold a live activity lease"⟩
  let expired ← leaseExpired activity.leaseExpiresAt heartbeatAt
  require (expired = false) ⟨.activityConflict, "worker does not hold a live activity lease"⟩
  return (db.updateActivity activityId (fun a => { a with leaseExpiresAt := some expiresAt }) (fun _ => rfl), expiresAt)

/-- An activity whose external outcome is unknown; nobody holds its lease. -/
def parked (a : ActivityRow) : ActivityRow :=
  { a with state := .reconciliationRequired, leaseOwner := none, leaseExpiresAt := none }

/-- Move the run to `blocked_reconciliation`, unless it is there already. -/
def blockRun (db : Db) (run : RunRow) : Except Err Db :=
  if run.state = .blockedReconciliation then .ok db
  else do
    requireRunTransition run.state .blockedReconciliation
    return db.setRunState run.runId .blockedReconciliation

/-- A running variation session waits for the reconciliation. -/
def suspendSession (db : Db) (sessionId : Option String) : Db :=
  match sessionId with
  | none => db
  | some id =>
    match db.sessions.get? id with
    | some variation => if variation.state = .running then db.setSessionState id .reconciliationRequired else db
    | none => db

/-- A reserved estimate is held until the reconciliation is resolved. -/
def holdReservation (db : Db) (reservationId : Option String) : Db :=
  match reservationId with
  | none => db
  | some id =>
    match db.reservations.get? id with
    | some reservation => if reservation.state = .reserved then db.setReservationState id .held else db
    | none => db

def markReconciliationRequired (db : Db) (activityId actorId reason : String) (leaseEpoch : Option Nat)
    (reconciliationId : String) (now : Instant) (ids : Db.EventIds) : Except Err Db := do
  let activity ← orRaise (db.activities.get? activityId) ⟨.lookup, "activity not found: " ++ activityId⟩
  require (activity.state = .running ∨ activity.state = .queued)
    ⟨.activityConflict, "cannot reconcile activity in " ++ activity.state.value⟩
  require (∀ e ∈ leaseEpoch, activity.leaseEpoch = e) ⟨.activityConflict, "stale activity lease epoch"⟩
  let run ← orRaise (db.runs.get? activity.runId) ⟨.lookup, "run not found: " ++ activity.runId⟩
  let db := db.updateActivity activityId parked (fun _ => rfl)
  let db ← blockRun db run
  require (nonEmpty reason) ⟨.validation, "reason"⟩
  let record : ReconciliationCaseRecord := ⟨reconciliationId, run.runId, activityId, activity.sessionId, reason,
    activity.budgetReservationId, .opened, none, none, now, none⟩
  let db ← db.insertCase ⟨reconciliationId, run.runId, activityId, activity.sessionId, .opened, record⟩
  let db := suspendSession db activity.sessionId
  let db := holdReservation db activity.budgetReservationId
  appendEvent db run "activity.reconciliation_required" actorId [("activity_id", .str activityId)] ids

end ActivityService

namespace RuntimeService

def appendEvent := Db.appendNextEvent

def recordInvocation (E : Env) (db : Db) (record : HarnessInvocationRecord) : Except Err Db := do
  let digest := E.canonicalDigest (.harnessInvocation record)
  let activity ← orRaise (db.activities.get? record.activityId)
    ⟨.runtimeConflict, "invocation activity is missing or belongs to another run"⟩
  require (activity.runId = record.runId)
    ⟨.runtimeConflict, "invocation activity is missing or belongs to another run"⟩
  match db.invocations.get? record.invocationId with
  | some existing => do
    require (existing.recordDigest = digest) ⟨.runtimeConflict, "invocation_id has conflicting evidence"⟩
    return db
  | none => db.insertInvocation ⟨record.invocationId, record.runId, record.activityId, record.sessionId, record.state,
      digest, record⟩

def invocationTransitions : InvocationState → List InvocationState
  | .started => [.running, .completed, .failed, .reconciliationRequired]
  | .running => [.completed, .failed, .reconciliationRequired]
  | .completed => []
  | .failed => []
  | .reconciliationRequired => []

/-- The columns `replace_invocation` sets. -/
def replaced (record : HarnessInvocationRecord) (digest : String) (r : HarnessInvocationRow) : HarnessInvocationRow :=
  { r with state := record.state, record := record, recordDigest := digest }

def replaceInvocation (E : Env) (db : Db) (record : HarnessInvocationRecord) : Except Err Db := do
  let row ← orRaise (db.invocations.get? record.invocationId)
    ⟨.lookup, "invocation not found: " ++ record.invocationId⟩
  require (row.runId = record.runId ∧ row.activityId = record.activityId)
    ⟨.runtimeConflict, "invocation identity fields cannot change"⟩
  require (record.state = row.record.state ∨ record.state ∈ invocationTransitions row.record.state)
    ⟨.runtimeConflict, "invalid invocation transition " ++ row.record.state.value ++ "->" ++ record.state.value⟩
  let digest := E.canonicalDigest (.harnessInvocation record)
  return { db with invocations := db.invocations.modify record.invocationId (replaced record digest) (fun _ => rfl) }

/-- An activity that may still run is parked for reconciliation. -/
def parkActivity (db : Db) (activity : ActivityRow) : Db :=
  if activity.state = .queued ∨ activity.state = .running then
    db.updateActivity activity.activityId ActivityService.parked (fun _ => rfl)
  else db

/-- The session of a case must exist, belong to the run and be able to wait. -/
def suspendSession (db : Db) (runId : String) (sessionId : Option String) : Except Err Db :=
  match sessionId with
  | none => .ok db
  | some id => do
    let variation ← orRaise (db.sessions.get? id) ⟨.runtimeConflict, "reconciliation session is missing"⟩
    require (variation.runId = runId) ⟨.runtimeConflict, "reconciliation session is missing"⟩
    if variation.state = .reconciliationRequired then return db
    else do
      requireSessionTransition variation.state .reconciliationRequired
      return db.setSessionState id .reconciliationRequired

/-- The reservation of a case must exist, belong to the run and be active. -/
def holdReservation (db : Db) (runId : String) (reservationId : Option String) : Except Err Db :=
  match reservationId with
  | none => .ok db
  | some id => do
    let reservation ← orRaise (db.reservations.get? id)
      ⟨.runtimeConflict, "reconciliation budget reservation is missing"⟩
    require (reservation.runId = runId) ⟨.runtimeConflict, "reconciliation budget reservation is missing"⟩
    if reservation.state = .reserved then return db.setReservationState id .held
    else do
      require (reservation.state = .held) ⟨.runtimeConflict, "budget reservation is not active"⟩
      return db

def openReconciliation (db : Db) (runId activityId reason actorId : String)
    (sessionId budgetReservationId : Option String) (reconciliationId : String) (now : Instant) (ids : Db.EventIds) :
    Except Err (Db × ReconciliationCaseRecord) :=
  match db.cases.find? (fun c => c.activityId = activityId ∧ c.state = .opened) with
  | some existing => .ok (db, existing.record)
  | none => do
    let activity ← orRaise (db.activities.get? activityId) ⟨.runtimeConflict, "reconciliation target is missing"⟩
    let run ← orRaise (db.runs.get? runId) ⟨.runtimeConflict, "reconciliation target is missing"⟩
    require (activity.runId = runId) ⟨.runtimeConflict, "reconciliation target is missing"⟩
    require (activity.sessionId = none ∨ activity.sessionId = sessionId)
      ⟨.runtimeConflict, "activity belongs to another session"⟩
    let effectiveSessionId := orElse sessionId activity.sessionId
    let effectiveReservationId := orElse budgetReservationId activity.budgetReservationId
    let db := parkActivity db activity
    let db ← ActivityService.blockRun db run
    let db ← suspendSession db runId effectiveSessionId
    let db ← holdReservation db runId effectiveReservationId
    require (nonEmpty reason) ⟨.validation, "reason"⟩
    let record : ReconciliationCaseRecord := ⟨reconciliationId, runId, activityId, effectiveSessionId, reason,
      effectiveReservationId, .opened, none, none, now, none⟩
    let db ← db.insertCase ⟨reconciliationId, runId, activityId, effectiveSessionId, .opened, record⟩
    let db ← appendEvent db run "reconciliation.opened" actorId
      [("reconciliation_id", .str reconciliationId), ("activity_id", .str activityId)] ids
    return (db, record)

def runTarget : Resolution → RunState
  | .retry => .running
  | .acceptResult => .running
  | .cancel => .cancelled
  | .fail => .failed

def sessionTarget : Resolution → VariationSessionState
  | .retry => .running
  | .acceptResult => .running
  | .cancel => .cancelled
  | .fail => .failed

/-- What a resolution makes of the activity; `accept_result` needs a result. -/
def settleActivity (db : Db) (activityId : String) (resolution : Resolution) (resultDigest : Option String) :
    Except Err Db :=
  match resolution with
  | .retry => .ok (db.updateActivity activityId (fun a => { a with state := .queued }) (fun _ => rfl))
  | .acceptResult => do
    let digest ← orRaise resultDigest ⟨.value, "accept_result requires result_digest"⟩
    return db.updateActivity activityId (fun a => { a with state := .completed, resultDigest := some digest })
      (fun _ => rfl)
  | .cancel => .ok (db.updateActivity activityId (fun a => { a with state := .cancelled }) (fun _ => rfl))
  | .fail => .ok (db.updateActivity activityId (fun a => { a with state := .failed }) (fun _ => rfl))

/-- What a resolution makes of the variation session of the case. -/
def settleSession (db : Db) (sessionId : Option String) (resolution : Resolution) : Except Err Db :=
  match sessionId with
  | none => .ok db
  | some id => do
    let variation ← orRaise (db.sessions.get? id) ⟨.runtimeConflict, "reconciliation session disappeared"⟩
    requireSessionTransition variation.state (sessionTarget resolution)
    return db.setSessionState id (sessionTarget resolution)

theorem reserving_runId (reserved : UsageRecord) (l : BudgetLedgerRow) :
    ({ l with reserved := reserved, revision := l.revision + 1 } : BudgetLedgerRow).runId = l.runId := rfl

/-- What a resolution makes of the reservation of the case. The reservation's
current state is not looked at, and the ledger is the one of the case's run. -/
def settleReservation (db : Db) (runId : String) (reservationId : Option String) (resolution : Resolution) :
    Except Err Db :=
  match reservationId with
  | none => .ok db
  | some id => do
    let reservation ← orRaise (db.reservations.get? id) ⟨.runtimeConflict, "reconciliation budget disappeared"⟩
    match resolution with
    | .retry => return db.setReservationState id .reserved
    | .acceptResult => return db
    | .cancel | .fail => do
      let ledger ← orRaise (db.ledgers.get? runId)
        ⟨.runtimeConflict, "reconciliation budget ledger disappeared"⟩
      let (_, remaining) ← reconcileUsage ledger.used ledger.reserved reservation.estimated .zero
      let db := db.updateLedger runId (fun l => { l with reserved := remaining, revision := l.revision + 1 })
        (reserving_runId remaining)
      return db.setReservationState id .released

def resolvedRow (record : ReconciliationCaseRecord) (row : ReconciliationCaseRow) : ReconciliationCaseRow :=
  { row with state := .resolved, record := record }

def resolveReconciliation (db : Db) (reconciliationId : String) (resolution : Resolution) (note actorId : String)
    (resultDigest : Option String) (now : Instant) (ids : Db.EventIds) :
    Except Err (Db × ReconciliationCaseRecord) := do
  let row ← orRaise (db.cases.get? reconciliationId) ⟨.lookup, "reconciliation not found: " ++ reconciliationId⟩
  let prior := row.record
  if prior.state = .resolved then do
    require (prior.resolution = some resolution) ⟨.runtimeConflict, "reconciliation already resolved differently"⟩
    return (db, prior)
  else do
    let activity ← orRaise (db.activities.get? prior.activityId)
      ⟨.runtimeConflict, "reconciliation target disappeared"⟩
    let run ← orRaise (db.runs.get? prior.runId) ⟨.runtimeConflict, "reconciliation target disappeared"⟩
    let db ← settleActivity db activity.activityId resolution resultDigest
    requireRunTransition run.state (runTarget resolution)
    let db := db.setRunState run.runId (runTarget resolution)
    let db ← settleSession db prior.sessionId resolution
    let db ← settleReservation db prior.runId prior.budgetReservationId resolution
    let record := { prior with state := .resolved, resolution := some resolution, resolutionNote := some note,
                               resolvedAt := some now }
    let db := { db with cases := db.cases.modify reconciliationId (resolvedRow record) (fun _ => rfl) }
    let db ← appendEvent db run "reconciliation.resolved" actorId
      [("reconciliation_id", .str reconciliationId), ("resolution", .str resolution.value)] ids
    return (db, record)

end RuntimeService

end AvoCorrelate
