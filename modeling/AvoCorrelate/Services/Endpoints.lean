import AvoCorrelate.Services.Control
/-!
# The run endpoints

The mutations of a run over HTTP: create, start, pause, resume and cancel. Each sends the
key of the request to the service under a scope of its own, so that a repeated request is
answered from the record of the first; `pause` and `cancel` then settle what they asked
for, and every one answers with the run as it now is.
-/
open AvoLib

namespace AvoCorrelate
namespace Api

inductive Endpoint
  | createRun (experimentId : String)
  | start (runId : String)
  | pause (runId : String)
  | resume (runId : String)
  | cancel (runId : String)

/-- A request that was authenticated. `ifMatch` is what `_parse_if_match` makes of the
header; a header that it refuses is refused when the revision is needed. -/
structure Request where
  endpoint : Endpoint
  actorId : String
  idempotencyKey : String
  ifMatch : Except Err Nat

/-- The identifiers a request draws with `uuid4`. -/
structure Draws where
  create : RunService.CreateRunIds
  event : Db.EventIds
  recordId : String
  settle : Db.EventIds

/-! ## The response -/

def nextActions : RunState → List String
  | .created => ["start", "cancel"]
  | .validating => ["cancel"]
  | .ready => ["start", "cancel"]
  | .running => ["pause", "cancel"]
  | .pausing => ["cancel"]
  | .paused => ["resume", "cancel"]
  | .cancelling => []
  | .blockedReview => ["submit_review", "cancel"]
  | .blockedReconciliation => ["inspect_reconciliation", "cancel"]
  | .completed => ["inspect_provenance"]
  | .cancelled => ["inspect_events"]
  | .failed => ["inspect_events", "create_revised_experiment"]

def blockers : RunState → List String
  | .blockedReview => ["human_review_required"]
  | .blockedReconciliation => ["external_state_reconciliation_required"]
  | .pausing | .cancelling => ["safe_boundary_pending"]
  | _ => []

structure RunResponse where
  run : RunRow
  budgetLimit : BudgetSpec
  budgetUsed : UsageRecord
  budgetReserved : UsageRecord
  blockers : List String
  nextActions : List String

/-- `_run_response`: the run and, from `get_budget`, its ledger. -/
def runResponse (db : Db) (runId : String) : Except Err RunResponse := do
  let run ← RunService.getRun db runId
  let ledger ← orRaise (db.ledgers.get? runId) ⟨.notFound, "run not found: " ++ runId⟩
  return ⟨run, ledger.limit, ledger.used, ledger.reserved, blockers run.state, nextActions run.state⟩

/-! ## The endpoints -/

def createRunId (E : Env) (actorId experimentId idempotencyKey : String) : String :=
  E.uuid5 ("avo:" ++ actorId ++ ":" ++ experimentId ++ ":create-run:" ++ idempotencyKey)

def scopeOf (runId action : String) : String := "runs." ++ runId ++ "." ++ action

/-- The transition an endpoint asks for, under the key and the scope of the request. -/
def moveRun (E : Env) (db : Db) (runId : String) (target : RunState) (action : String) (request : Request) (draws : Draws) :
    Except Err Db := do
  let revision ← request.ifMatch
  let (db, _) ← RunService.transition E db runId target request.actorId (some revision) none (some request.idempotencyKey)
    (some (scopeOf runId action)) draws.event draws.recordId
  return db

/-- A pause or a cancel is asked for, and settled if the run is at a safe boundary. -/
def moveAndSettle (E : Env) (db : Db) (runId : String) (target : RunState) (action : String) (request : Request)
    (draws : Draws) : Except Err Db := do
  let db ← moveRun E db runId target action request draws
  RunService.settleControlRequest E db runId "control-plane" draws.settle

/-- Where `_cancel_run` moves a run that is neither cancelled nor cancelling. -/
def cancelTarget (state : RunState) : RunState :=
  if state = .created ∨ state = .ready ∨ state = .paused ∨ state = .blockedReconciliation then .cancelled else .cancelling

/-- What the endpoint does before it answers. -/
def perform (E : Env) (db : Db) (request : Request) (draws : Draws) : Except Err Db :=
  match request.endpoint with
  | .createRun experimentId => do
    let runId := createRunId E request.actorId experimentId request.idempotencyKey
    let (db, _) ← RunService.createRun E db experimentId request.actorId (some runId) true (some request.idempotencyKey)
      draws.create
    return db
  | .start runId => moveRun E db runId .running "start" request draws
  | .pause runId => moveAndSettle E db runId .pausing "pause" request draws
  | .resume runId => moveRun E db runId .ready "resume" request draws
  | .cancel runId => do
    let run ← RunService.getRun db runId
    if run.state = .cancelled ∨ run.state = .cancelling then return db
    else moveAndSettle E db runId (cancelTarget run.state) "cancel" request draws

def Request.runId (E : Env) (request : Request) : String :=
  match request.endpoint with
  | .createRun experimentId => createRunId E request.actorId experimentId request.idempotencyKey
  | .start runId | .pause runId | .resume runId | .cancel runId => runId

def respond (E : Env) (db : Db) (request : Request) (draws : Draws) : Except Err (Db × RunResponse) := do
  let db ← perform E db request draws
  let response ← runResponse db (request.runId E)
  return (db, response)

end Api
end AvoCorrelate
