import AvoCorrelate.Persistence
/-!
# Budget reservations

`BudgetService`. A reservation is estimated usage set aside on the run's
ledger; completing it charges the actual usage instead, releasing it gives the
estimate back, and holding it keeps it for an operator. None of the calls looks
at the state of the run.
-/
open AvoLib

namespace AvoCorrelate

/-- The reservation still holds its estimate on the ledger. -/
def ReservationState.active (s : ReservationState) : Bool := s = .reserved || s = .held

/-- The reservation has charged its actual usage to the ledger. -/
def ReservationState.settled (s : ReservationState) : Bool := s = .completed || s = .exceeded

namespace BudgetService

def appendRunEvent := Db.appendNextEvent

def reserve (db : Db) (runId activityKey : String) (estimated : UsageRecord) (actorId : String)
    (reservationId : String) (ids : Db.EventIds) : Except Err (Db × String) :=
  match db.reservations.find? (fun r => r.runId = runId ∧ r.activityKey = activityKey) with
  | some existing => do
    require (existing.estimated = estimated) ⟨.reservationConflict, "activity_key already has a different estimate"⟩
    return (db, existing.reservationId)
  | none => do
    let ledger ← orRaise (db.ledgers.get? runId) ⟨.lookup, "run not found: " ++ runId⟩
    let run ← orRaise (db.runs.get? runId) ⟨.lookup, "run not found: " ++ runId⟩
    let newReserved ← reserveUsage ledger.limit ledger.used ledger.reserved estimated
    let db ← db.insertReservation ⟨reservationId, runId, activityKey, .reserved, estimated, none⟩
    let db := db.updateLedger runId (fun l => { l with reserved := newReserved, revision := l.revision + 1 })
      (fun _ => rfl)
    let db ← appendRunEvent db run "budget.reserved" actorId
      [("reservation_id", .str reservationId), ("activity_key", .str activityKey)] ids
    return (db, reservationId)

def complete (db : Db) (reservationId : String) (actual : UsageRecord) (actorId : String) (ids : Db.EventIds) :
    Except Err Db := do
  let reservation ← orRaise (db.reservations.get? reservationId)
    ⟨.lookup, "reservation not found: " ++ reservationId⟩
  if reservation.state = .completed then do
    let prior ← orRaise reservation.actual ⟨.validation, "UsageRecord"⟩
    require (prior = actual) ⟨.reservationConflict, "completed reservation has different actual usage"⟩
    return db
  else do
    require (reservation.state.active = true)
      ⟨.reservationConflict, "cannot complete reservation in state " ++ reservation.state.value⟩
    let ledger ← orRaise (db.ledgers.get? reservation.runId) ⟨.lookup, "run not found: " ++ reservation.runId⟩
    let run ← orRaise (db.runs.get? reservation.runId) ⟨.lookup, "run not found: " ++ reservation.runId⟩
    let (used, reserved) ← reconcileUsage ledger.used ledger.reserved reservation.estimated actual
    require ((used.plus reserved).fitsWithin ledger.limit)
      ⟨.budgetExceeded, "actual usage exceeds the run budget"⟩
    let db := db.updateLedger reservation.runId
      (fun l => { l with used := used, reserved := reserved, revision := l.revision + 1 }) (fun _ => rfl)
    let db := db.updateReservation reservationId (fun r => { r with state := .completed, actual := some actual })
      (fun _ => rfl)
    appendRunEvent db run "budget.completed" actorId [("reservation_id", .str reservationId)] ids

def observe (db : Db) (reservationId : String) (cumulativeActual : UsageRecord) (actorId : String)
    (ids : Db.EventIds) : Except Err Db := do
  let reservation ← orRaise (db.reservations.get? reservationId)
    ⟨.lookup, "reservation not found: " ++ reservationId⟩
  require (reservation.state.active = true)
    ⟨.reservationConflict, "usage can only be observed on an active reservation"⟩
  let prior := reservation.actual.getD .zero
  require ((cumulativeActual.plus .zero).fitsWithin reservation.estimated)
    ⟨.budgetExceeded, "observed usage exceeds the reserved estimate"⟩
  require (Dimension.all.all fun d => prior.get d ≤ cumulativeActual.get d)
    ⟨.reservationConflict, "observed usage must be monotonic"⟩
  let db := db.updateReservation reservationId (fun r => { r with actual := some cumulativeActual }) (fun _ => rfl)
  let run ← orRaise (db.runs.get? reservation.runId) ⟨.lookup, "run not found: " ++ reservation.runId⟩
  appendRunEvent db run "budget.observed" actorId [("reservation_id", .str reservationId)] ids

def holdForReconciliation (db : Db) (reservationId actorId : String) (ids : Db.EventIds) : Except Err Db := do
  let reservation ← orRaise (db.reservations.get? reservationId)
    ⟨.lookup, "reservation not found: " ++ reservationId⟩
  if reservation.state = .held then return db
  else do
    require (reservation.state = .reserved) ⟨.reservationConflict, "only reserved usage can be held"⟩
    let db := db.setReservationState reservationId .held
    let run ← orRaise (db.runs.get? reservation.runId) ⟨.lookup, "run not found: " ++ reservation.runId⟩
    appendRunEvent db run "budget.held" actorId [("reservation_id", .str reservationId)] ids

def release (db : Db) (reservationId actorId : String) (ids : Db.EventIds) : Except Err Db := do
  let reservation ← orRaise (db.reservations.get? reservationId)
    ⟨.lookup, "reservation not found: " ++ reservationId⟩
  if reservation.state = .released then return db
  else do
    require (reservation.state.active = true) ⟨.reservationConflict, "only active usage can be released"⟩
    let ledger ← orRaise (db.ledgers.get? reservation.runId) ⟨.lookup, "run not found: " ++ reservation.runId⟩
    let run ← orRaise (db.runs.get? reservation.runId) ⟨.lookup, "run not found: " ++ reservation.runId⟩
    let (_, remaining) ← reconcileUsage ledger.used ledger.reserved reservation.estimated .zero
    let db := db.updateLedger reservation.runId
      (fun l => { l with reserved := remaining, revision := l.revision + 1 }) (fun _ => rfl)
    let db := db.setReservationState reservationId .released
    appendRunEvent db run "budget.released" actorId [("reservation_id", .str reservationId)] ids

end BudgetService

end AvoCorrelate
