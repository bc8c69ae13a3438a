import Mathlib.Data.List.Sort
import AvoCorrelate.Lib.Told
import AvoCorrelate.System
/-!
# Workers

`Scheduler.run_once_async`: a worker claims an activity, lets the handler of its
kind recover what an earlier attempt left, lets it execute what is still to do,
and completes the activity. Every service call is one transaction. Any number of
workers and other callers take turns on one database, and a worker can crash
between any two of its calls.
-/
open AvoLib

namespace AvoCorrelate.Worker

/-- What a service call draws for itself: the time, and fresh identifiers. -/
structure Draw where
  now : Instant
  id : String
  ids : Db.EventIds

/-- What an admission decider hands over. -/
structure AdmissionPackage where
  policyDecisions : List PolicyDecision
  decision : AdmissionDecision

/-- What a worker asks for: service calls, evaluators and deciders. -/
inductive Port
  | claimNext (workerId : String) (leaseSeconds : Int)
  | commit (call : Draw → Op)
  -- the listing of a recovery, and that of an execution
  | recoverEvaluations (candidateId : String)
  | listEvaluations (candidateId : String)
  | getCandidate (candidateId : String)
  | getAdmission (candidateId : String)
  | getRun (runId : String)
  | evaluate (manifest : CandidateManifest)
  | decide (manifest : CandidateManifest) (evaluations : List EvaluationRecord)
  -- a call of somebody else
  | other (call : Op)

/-- What a handler raises: an exception of a service, or one of its own. -/
inductive Failure
  | raised (e : Err)
  | campaign (message : String)

abbrev Port.Answer : Port → Type
  | .claimNext _ _ => Draw × Except Err (Option ActivityRow)
  | .commit _ => Draw × Except Err Unit
  | .recoverEvaluations _ => List (String × EvaluationRecord)
  | .listEvaluations _ => List (String × EvaluationRecord)
  | .getCandidate _ => Except Err CandidateManifest
  | .getAdmission _ => Option AdmissionDecision
  | .getRun _ => Except Err RunRow
  | .evaluate _ => Except Failure (List (String × EvaluationRecord))
  | .decide _ _ => Except Failure AdmissionPackage
  | .other _ => Except Err Unit

/-- Workers share the database and no files. -/
abbrev NoFile (k : Empty) : Type := nomatch k

abbrev Task (α : Type) := Prog NoFile Port.Answer Failure α

/-! ## Reads -/

/-- `ORDER BY evaluator_key`. -/
def listEvaluations (db : Db) (candidateId : String) : List (String × EvaluationRecord) :=
  ((db.evaluations.rows.filter fun e => e.candidateId = candidateId).insertionSort
    fun a b => a.evaluatorKey ≤ b.evaluatorKey).map fun e => (e.evaluatorKey, e.record)

/-- The manifest of a seed does not parse as a `CandidateManifest`. -/
def getCandidate (db : Db) (candidateId : String) : Except Err CandidateManifest :=
  match db.candidates.get? candidateId with
  | none => .error ⟨.lookup, "candidate not found: " ++ candidateId⟩
  | some row =>
    match row.manifest with
    | .candidate manifest => .ok manifest
    | .seed _ => .error ⟨.validation, "CandidateManifest"⟩

/-- `session.scalar` without an order: any decision about the candidate. -/
def getAdmission (db : Db) (candidateId : String) : Option AdmissionDecision → Bool
  | some decision => db.admissions.rows.any fun r => r.candidateId = candidateId ∧ r.decision = decision
  | none => db.admissions.rows.all fun r => r.candidateId ≠ candidateId

def getRun (db : Db) (runId : String) : Except Err RunRow :=
  orRaise (db.runs.get? runId) ⟨.notFound, "run not found: " ++ runId⟩

/-! ## The database behind the ports -/

/-- The database after a call that returned this; a call that raises leaves it as it
was. -/
def returned {α : Type} [DecidableEq α] (db : Db) (outcome : Except Err (Db × α)) (answer : Except Err α) : Option Db :=
  match outcome with
  | .ok (db', x) => if answer = .ok x then some db' else none
  | .error e => if answer = .error e then some db else none

def plane (E : Env) : Service Port.Answer Db
  | .claimNext workerId leaseSeconds, (draw, answer), db =>
    returned db (ActivityService.claimNext db workerId leaseSeconds draw.now draw.ids) answer
  | .commit call, (draw, answer), db => returned db ((·, ()) <$> exec E db (call draw)) answer
  | .recoverEvaluations candidateId, answer, db => if answer = listEvaluations db candidateId then some db else none
  | .listEvaluations candidateId, answer, db => if answer = listEvaluations db candidateId then some db else none
  | .getCandidate candidateId, answer, db => if answer = getCandidate db candidateId then some db else none
  | .getAdmission candidateId, answer, db => if getAdmission db candidateId answer then some db else none
  | .getRun runId, answer, db => if answer = getRun db runId then some db else none
  | .evaluate _, _, db => some db
  | .decide _ _, _, db => some db
  | .other call, answer, db => returned db ((·, ()) <$> exec E db call) answer

/-! ## Calls of a worker -/

/-- Hand over a value, or raise. -/
def orFail {α : Type} : Except Failure α → Task α
  | .ok x => .done x
  | .error e => .raise e

/-- The same with an exception of a service. -/
def orRaised {α : Type} : Except Err α → Task α
  | .ok x => .done x
  | .error e => .raise (.raised e)

def claimNext (workerId : String) (leaseSeconds : Int) : Task (Option ActivityRow) :=
  .port (.claimNext workerId leaseSeconds) fun r => orRaised r.2

def commit (call : Draw → Op) : Task Unit := .port (.commit call) fun r => orRaised r.2

/-! ## The scheduler -/

/-- What an earlier attempt left; a durable result comes with its digest. -/
inductive ActivityRecovery
  | durableResult (resultDigest : String)
  | notStarted | resumable | ambiguous

inductive FailureDisposition
  | retry | reconcile

structure ActivityHandler where
  recover : ActivityRow → Task ActivityRecovery
  execute : ActivityRow → Nat → Task String
  classifyFailure : ActivityRow → Failure → Task FailureDisposition

/-- `str.partition(":")`: what is before the first colon, and what is after it. -/
def partition (key : String) : String × Option String :=
  (String.ofList (key.toList.takeWhile (· ≠ ':')),
    match key.toList.dropWhile (· ≠ ':') with
    | [] => none
    | _ :: rest => some (String.ofList rest))

structure Scheduler where
  workerId : String
  leaseSeconds : Int
  positive : 0 < leaseSeconds
  handlers : String → Option ActivityHandler

namespace Scheduler
variable (s : Scheduler)

def complete (activity : ActivityRow) (resultDigest : String) : Task Unit :=
  commit fun d => .completeActivity activity.activityId s.workerId activity.leaseEpoch resultDigest d.ids

def markReconciliationRequired (activity : ActivityRow) (reason : String) : Task Unit :=
  commit fun d =>
    .markReconciliationRequired activity.activityId s.workerId reason (some activity.leaseEpoch) d.id d.now d.ids

/-- An execution that raised is classified, and its exception raised again. -/
def fail (handler : ActivityHandler) (activity : ActivityRow) (e : Failure) : Task Bool := do
  match ← handler.classifyFailure activity e with
  | .reconcile => s.markReconciliationRequired activity "uncertain_external_failure"
  | .retry => pure ()
  .raise e

/-- Recover a claimed activity or execute it, and complete it. -/
def work (handler : ActivityHandler) (activity : ActivityRow) : Task Bool := do
  match ← handler.recover activity with
  | .ambiguous =>
    s.markReconciliationRequired activity "ambiguous_external_state"
    return true
  | .durableResult resultDigest =>
    s.complete activity resultDigest
    return true
  | .notStarted | .resumable =>
    match ← (handler.execute activity activity.leaseEpoch).attempt with
    | .error e => s.fail handler activity e
    | .ok resultDigest =>
      s.complete activity resultDigest
      return true

/-- `run_once_async`. The heartbeats that go on meanwhile are calls like those of
anybody else. -/
def runOnce : Task Bool := do
  match ← claimNext s.workerId s.leaseSeconds with
  | none => return false
  | some activity =>
    match s.handlers (partition activity.activityKey).1 with
    | none =>
      s.markReconciliationRequired activity "handler_not_registered"
      return true
    | some handler => s.work handler activity

end Scheduler

end AvoCorrelate.Worker
