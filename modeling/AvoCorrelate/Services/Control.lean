import AvoCorrelate.System
/-!
# Pausing and cancelling

`settle_control_request` commits a requested pause or cancel once the run has
reached a safe boundary. It reads the run, looks for active work and commits in
separate transactions, so its statements are steps of their own here (`Settle`),
between which any service call can run; `settleControlRequest` is the call
without such an interruption.
-/
open AvoLib

namespace AvoCorrelate
namespace RunService

def getRun (db : Db) (runId : String) : Except Err RunRow :=
  orRaise (db.runs.get? runId) ⟨.notFound, "run not found: " ++ runId⟩

/-- An activity of the run is `running`. -/
def hasActiveActivity (db : Db) (runId : String) : Bool :=
  db.activities.rows.any fun a => a.runId = runId ∧ a.state = .running

/-- A variation session of the run is `running`. -/
def hasActiveSession (db : Db) (runId : String) : Bool :=
  db.sessions.rows.any fun s => s.runId = runId ∧ s.state = .running

def settledState (state : RunState) : RunState := if state = .pausing then .paused else .cancelled

/-- The transition that `settle_control_request` commits, for the row it read. -/
def settleTransition (E : Env) (db : Db) (runId : String) (state : RunState) (revision : Nat) (actorId : String)
    (ids : Db.EventIds) : Except Err Db :=
  Prod.fst <$> transition E db runId (settledState state) actorId (some revision) (some "safe_boundary_reached") none none
    ids ""

def settleControlRequest (E : Env) (db : Db) (runId actorId : String) (ids : Db.EventIds) : Except Err Db := do
  let run ← getRun db runId
  if run.state = .pausing ∨ run.state = .cancelling then
    if hasActiveActivity db runId ∨ hasActiveSession db runId then return db
    else settleTransition E db runId run.state run.revision actorId ids
  else return db

/-- How far an interrupted `settle_control_request` is. -/
inductive SettlePhase
  | runRead | activitiesRead | sessionsRead
  deriving DecidableEq

/-- A `settle_control_request` under way: the run as it was read. -/
structure Settle where
  runId : String
  state : RunState
  revision : Nat
  phase : SettlePhase
  deriving DecidableEq

end RunService

open RunService

/-- The database, and the calls of `settle_control_request` under way. -/
structure Control where
  db : Db
  settles : List Settle

/-- A service call, or one statement of a `settle_control_request`. -/
inductive Move
  | call (op : Op)
  | readRun (runId : String)
  | readActivities (i : Nat)
  | readSessions (i : Nat)
  | commit (i : Nat) (actorId : String) (ids : Db.EventIds)

def noSuchCall : Err := ⟨.lookup, "no such call"⟩

/-- A look for active work ends the call if it finds some. -/
def looked (c : Control) (i : Nat) (p : Settle) (found : Bool) (phase : SettlePhase) : Control :=
  { c with settles := if found then c.settles.eraseIdx i else c.settles.set i { p with phase := phase } }

def move (E : Env) (c : Control) : Move → Except Err Control
  | .call op => do
    let db ← exec E c.db op
    return { c with db := db }
  | .readRun runId => do
    let run ← getRun c.db runId
    if run.state = .pausing ∨ run.state = .cancelling then
      return { c with settles := c.settles ++ [⟨runId, run.state, run.revision, .runRead⟩] }
    else return c
  | .readActivities i => do
    let p ← orRaise c.settles[i]? noSuchCall
    require (p.phase = .runRead) noSuchCall
    return looked c i p (hasActiveActivity c.db p.runId) .activitiesRead
  | .readSessions i => do
    let p ← orRaise c.settles[i]? noSuchCall
    require (p.phase = .activitiesRead) noSuchCall
    return looked c i p (hasActiveSession c.db p.runId) .sessionsRead
  | .commit i actorId ids => do
    let p ← orRaise c.settles[i]? noSuchCall
    require (p.phase = .sessionsRead) noSuchCall
    let db ← settleTransition E c.db p.runId p.state p.revision actorId ids
    return ⟨db, c.settles.eraseIdx i⟩

end AvoCorrelate
