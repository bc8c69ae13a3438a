import AvoCorrelate.Lib.Crashes
import AvoCorrelate.Worker.Scheduler
/-!
# Coding-agent variations

`CodingVariationActivityHandler`: let a coding agent work in a workspace, and hand the
frozen proposal on to evaluation. The turn of the agent belongs to an invocation; what
follows it is a row of separately committed steps. The handler is a computation on the
world it works in, one step for every service call, so that a crash can cut it anywhere.
-/
open AvoLib

namespace AvoCorrelate.Variation
open Worker (Draw Failure ActivityRecovery FailureDisposition)

/-! ## The coding agent -/

structure RuntimeSessionRef where
  adapterId : String
  nativeSessionId : String
  nativeOperationId : Option String
  invocationId : Option String
  deriving DecidableEq

structure RuntimeEvent where
  sequence : Nat
  payloadDigest : String
  usageDelta : List (String × Nat)
  deriving DecidableEq

inductive CompletionOutcome
  | proposal | stop
  deriving DecidableEq

structure AgentCompletion where
  outcome : CompletionOutcome
  rationale : String
  claimedTests : List String
  deriving DecidableEq

inductive InspectionState
  | notStarted | running | completed | interrupted | missing | unknown
  deriving DecidableEq

def InspectionState.value : InspectionState → String
  | .notStarted => "not_started"
  | .running => "running"
  | .completed => "completed"
  | .interrupted => "interrupted"
  | .missing => "missing"
  | .unknown => "unknown"

/-- Only a completed inspection carries a completion. -/
structure RuntimeInspection where
  state : InspectionState
  session : RuntimeSessionRef
  completion : Option AgentCompletion
  valid : completion ≠ none → state = .completed

structure CampaignWorkspace where
  baseline : String
  candidate : String
  gitMetadata : String
  deriving DecidableEq

/-- What the provider answers the n-th time the worker asks for anything. The events
of a turn come one by one, and their stream can break off. -/
structure Runtime where
  preflight : Nat → Bool
  prepare : Nat → VariationSessionRequest → CampaignWorkspace → String → Except Failure RuntimeSessionRef
  inspect : Nat → RuntimeSessionRef → CampaignWorkspace → Except Failure RuntimeInspection
  startTurn : Nat → VariationSessionRequest → RuntimeSessionRef → Except Failure RuntimeSessionRef
  events : Nat → RuntimeSessionRef → List RuntimeEvent × Option Failure
  wait : Nat → RuntimeSessionRef → Except Failure AgentCompletion

/-! ## Records -/

/-- What an invocation record says besides what the journal of activities reads of it. -/
structure Envelope where
  runtimeSession : Option RuntimeSessionRef
  workspaceBeforeDigest : String
  workspaceAfterDigest : Option String
  eventStreamArtifactDigest : Option String
  completion : Option AgentCompletion
  usage : List (String × Nat)
  errorClass : Option String
  startedAt : Instant

structure Invocation where
  record : HarnessInvocationRecord
  envelope : Envelope

inductive AttemptOutcome
  | improved | noImprovement | invalid | errored | abandoned | policyBlocked
  deriving DecidableEq

structure VariationAttemptRecord where
  attemptId : String
  sessionId : String
  parentWorkspaceDigest : String
  resultWorkspaceDigest : Option String
  patchDigest : Option String
  developmentEvaluationIds : List String
  toolTraceDigest : String
  outcome : AttemptOutcome
  startedAt : Instant
  completedAt : Instant
  deriving DecidableEq

structure AttemptRow where
  attemptId : String
  sessionId : String
  attemptNumber : Nat
  recordDigest : String
  record : VariationAttemptRecord
  deriving DecidableEq

inductive RiskClass
  | low | ordinary | constitutional | production
  deriving DecidableEq

def RiskClass.value : RiskClass → String
  | .low => "low"
  | .ordinary => "ordinary"
  | .constitutional => "constitutional"
  | .production => "production"

/-- The bytes that become artifacts. -/
inductive Content
  | stream (events : List RuntimeEvent)
  | patch (workspace : CampaignWorkspace)
  | rationale (completion : AgentCompletion)

/-! ## The world of a worker -/

/-- The database, the tables and columns that only this handler uses, the event spools
by invocation, and how often something was asked of the clock, of `uuid4` or of the
provider. -/
structure World where
  db : Db
  attempts : Table AttemptRow.attemptId
  envelopes : String → Option Envelope
  spools : String → Option (List RuntimeEvent)
  ticks : Nat

/-- Hash functions, the clock, `uuid4`, the provider, and the workspaces with what is
computed from them. `championTree` is the tree the request's champion names. -/
structure CodingEnv extends Env where
  attemptDigest : VariationAttemptRecord → String
  attemptIndexDigest : AgentCompletion → String → String → String
  sha256 : Content → String
  size : Content → Nat
  clock : Nat → Instant
  uuid4 : Db → String × Db.EventIds
  runtime : Runtime
  resolve : VariationSessionRequest → Except Failure CampaignWorkspace
  validate : CampaignWorkspace → Except Failure Unit
  sourceTreeDigest : String → String
  championTree : VariationSessionRequest → String
  createPatch : CampaignWorkspace → Except Failure Unit
  changedPaths : CampaignWorkspace → Except Failure (List String)
  deriveRisk : List String → Option RiskClass

structure Handler where
  evaluationEstimate : UsageRecord
  policyBundleDigest : String
  actorId : String

abbrev Task (α : Type) := Steps World Failure α

variable (C : CodingEnv) (h : Handler)

def draw (w : World) : Draw := ⟨C.clock w.ticks, (C.uuid4 w.db).1, (C.uuid4 w.db).2⟩

/-! ## Steps -/

def raised {α : Type} : Except Err α → Except Failure α := Except.mapError .raised

def service {α : Type} (call : Draw → Db → Except Err (Db × α)) : Task α :=
  .transact fun w => do
    let (db, x) ← raised (call (draw C w) w.db)
    return ({ w with db := db, ticks := w.ticks + 1 }, x)

/-- A service call of which only the database is kept. -/
def commit (call : Draw → Op) : Task Unit := service C fun d db => (·, ()) <$> exec C.toEnv db (call d)

/-- Ask the clock or the provider. -/
def ask {α : Type} (answer : Nat → Except Failure α) : Task α :=
  .transact fun w => (({ w with ticks := w.ticks + 1 }, ·)) <$> answer w.ticks

def now : Task Instant := ask fun n => .ok (C.clock n)

def campaign (message : String) : Failure := .campaign message

/-- The option's value, or `CampaignRuntimeError`. -/
def orCampaign {α : Type} (o : Option α) (message : String) : Task α := .orRaise (AvoLib.orRaise o (campaign message))

/-! ### `SessionService` and `EvidenceService` -/

def findSession (w : World) (sessionId : String) : Except Failure VariationSessionRow :=
  raised (AvoLib.orRaise (w.db.sessions.get? sessionId) ⟨.sessionConflict, "session does not exist"⟩)

def getRequest (sessionId : String) : Task VariationSessionRequest :=
  .look fun w => (·.request) <$> findSession w sessionId

def getState (sessionId : String) : Task VariationSessionState := .look fun w => (·.state) <$> findSession w sessionId

def getResult (sessionId : String) : Task (Option VariationSessionResult) :=
  .look fun w => (·.result) <$> findSession w sessionId

/-- `coalesce(max(attempt_number), 0) + 1` over the session's attempts. -/
def nextAttempt (w : World) (sessionId : String) : Nat :=
  ((w.attempts.rows.filter fun a => a.sessionId = sessionId).map (·.attemptNumber)).foldl max 0 + 1

/-- `record_attempt` of a session that is not running raises, also when the attempt is
on record. -/
def recordedAttempt (w : World) (record : VariationAttemptRecord) : Except Err (World × Nat) := do
  let digest := C.attemptDigest record
  let row ← AvoLib.orRaise (w.db.sessions.get? record.sessionId) ⟨.sessionConflict, "attempt session is not running"⟩
  AvoLib.require (row.state = .running) ⟨.sessionConflict, "attempt session is not running"⟩
  match w.attempts.get? record.attemptId with
  | some existing => do
    AvoLib.require (existing.recordDigest = digest) ⟨.sessionConflict, "attempt_id has conflicting evidence"⟩
    return (w, existing.attemptNumber)
  | none => do
    let number := nextAttempt w record.sessionId
    let t ← insertRow w.attempts ⟨record.attemptId, record.sessionId, number, digest, record⟩
      ((w.db.sessions.get? record.sessionId).isSome = true ∧
        ∀ x ∈ w.attempts.rows, ¬ (x.sessionId = record.sessionId ∧ x.attemptNumber = number))
    return ({ w with attempts := t }, number)

def recordAttempt (record : VariationAttemptRecord) : Task Nat := .transact fun w => raised (recordedAttempt C w record)

/-- The candidate rows of a session; a seed belongs to none. -/
def candidatesOf (db : Db) (sessionId : String) : List CandidateRow :=
  db.candidates.rows.filter fun c => c.sessionId = some sessionId

def sessionCandidate (db : Db) (sessionId : String) : Except Err (Option CandidateManifest) :=
  match candidatesOf db sessionId with
  | [] => .ok none
  | [row] =>
    match row.manifest with
    | .candidate manifest => .ok (some manifest)
    | .seed _ => .error ⟨.validation, "CandidateManifest"⟩
  | _ => .error ⟨.evidenceConflict, "variation session has multiple candidates"⟩

def getSessionCandidate (sessionId : String) : Task (Option CandidateManifest) :=
  .look fun w => raised (sessionCandidate w.db sessionId)

/-! ### `RuntimeService` -/

/-- `session.scalar`: an invocation of the activity. -/
def findActivityInvocation (activityId : String) : Task (Option Invocation) :=
  .look fun w => .ok do
    let row ← w.db.invocations.find? fun r => r.activityId = activityId
    let envelope ← w.envelopes row.invocationId
    return ⟨row.record, envelope⟩

/-- A row and its envelope are columns of one record. -/
def put (w : World) (invocation : Invocation) (db : Db) : World :=
  { w with
    db := db
    envelopes := Function.update w.envelopes invocation.record.invocationId (some invocation.envelope)
    ticks := w.ticks + 1 }

def recordInvocation (invocation : Invocation) : Task Unit :=
  .transact fun w => do
    let db ← raised (RuntimeService.recordInvocation C.toEnv w.db invocation.record)
    return (put w invocation db, ())

def replaceInvocation (invocation : Invocation) : Task Unit :=
  .transact fun w => do
    let db ← raised (RuntimeService.replaceInvocation C.toEnv w.db invocation.record)
    return (put w invocation db, ())

/-! ### `ArtifactService` -/

structure Artifact where
  ownerType : String
  ownerId : String
  mediaType : String
  role : String
  retentionClass : String
  maxBytes : Nat

def stored (content : Content) (a : Artifact) : ArtifactService.StoredBytes :=
  ⟨C.sha256 content, C.size content, a.mediaType, a.role⟩

/-- The digest of the stored bytes. -/
def putBytes (content : Content) (runId : String) (a : Artifact) : Task String := do
  Steps.require (C.size content ≤ a.maxBytes) (.raised ⟨.value, "artifact exceeds " ++ toString a.maxBytes ++ " bytes"⟩)
  commit C fun d => .putBytes (stored C content a) runId a.ownerType a.ownerId a.retentionClass h.actorId d.id d.ids
  return C.sha256 content

/-! ## Usage -/

/-- `observed[key] = max(observed.get(key, 0), value)`. -/
def observe : List (String × Nat) → String → Nat → List (String × Nat)
  | [], key, value => [(key, value)]
  | (k, v) :: rest, key, value => if k = key then (k, max v value) :: rest else (k, v) :: observe rest key value

def runtimeUsage (events : List RuntimeEvent) : List (String × Nat) :=
  (events.flatMap (·.usageDelta)).foldl (fun observed (key, value) => observe observed key value) []

/-- `key == suffix or key.endswith("." + suffix)`. -/
def named (suffix key : String) : Bool := key = suffix || ("." ++ suffix).toList.isSuffixOf key.toList

def maximum (observed : List (String × Nat)) (suffixes : List String) : Nat :=
  ((observed.filter fun (key, _) => suffixes.any fun s => named s key).map (·.2)).foldl max 0

def usageFromEvents (events : List RuntimeEvent) : UsageRecord :=
  { UsageRecord.zero with
    modelInputTokens := maximum (runtimeUsage events) ["input_tokens", "prompt_tokens"]
    modelOutputTokens := maximum (runtimeUsage events) ["output_tokens", "completion_tokens"]
    variationSessions := 1 }

/-! ## The handler -/

def invocationId (activity : ActivityRow) : String := "harness:" ++ activity.activityId

def streamLimit : Nat := 16 * 1024 * 1024

def streamArtifact (invocationId : String) : Artifact :=
  ⟨"invocation", invocationId, "application/x-ndjson", "runtime-event-stream", "campaign-evidence", streamLimit⟩

def partialStreamArtifact (invocationId : String) : Artifact :=
  ⟨"invocation", invocationId, "application/x-ndjson", "runtime-event-stream-partial", "reconciliation-evidence", streamLimit⟩

def patchArtifact (candidateId : String) : Artifact :=
  ⟨"candidate", candidateId, "text/x-diff", "candidate-patch", "candidate-evidence", streamLimit⟩

def rationaleArtifact (candidateId : String) : Artifact :=
  ⟨"candidate", candidateId, "application/json", "agent-rationale", "candidate-evidence", 1024 * 1024⟩

def exhausted : Failure → Bool
  | .raised e => e.kind = .budgetExceeded
  | .campaign _ => false

def completeBudget (reservationId : String) (actual : UsageRecord) : Task Unit :=
  commit C fun d => .completeReservation reservationId actual h.actorId d.ids

def settleExhausted (runId : String) (activity : ActivityRow) (leaseEpoch : Nat) (reservationId resultDigest : String)
    (actual : UsageRecord) : Task Unit :=
  commit C fun d => .settleExhaustedVariation runId activity.activityId reservationId resultDigest actual
    h.evaluationEstimate h.policyBundleDigest h.actorId (some leaseEpoch) d.now d.ids

/-- Charge the usage, and settle an exhausted budget. -/
def chargeBudget (runId : String) (activity : ActivityRow) (leaseEpoch : Nat) (reservationId resultDigest : String)
    (actual : UsageRecord) : Task Unit := do
  match ← (completeBudget C h reservationId actual).attempt with
  | .ok () => return ()
  | .error e =>
    if exhausted e then settleExhausted C h runId activity leaseEpoch reservationId resultDigest actual
    else .raise e

def outcomeDigest (sessionId : String) (result : VariationSessionResult) : Task (Option String) :=
  match result.outcome with
  | .proposalReady => do
    let candidate ← getSessionCandidate sessionId
    return candidate.map fun c => C.canonicalDigest (.candidateManifest c)
  | _ => return some (C.canonicalDigest (.sessionResult result))

/-- An invocation that completed is settled from what is durable. -/
def recoverCompleted (activity : ActivityRow) : Task ActivityRecovery := do
  match activity.sessionId, activity.budgetReservationId with
  | some sessionId, some reservationId =>
    match ← getResult sessionId with
    | none => return .ambiguous
    | some result =>
      match ← outcomeDigest C sessionId result with
      | none => return .ambiguous
      | some resultDigest =>
        chargeBudget C h activity.runId activity activity.leaseEpoch reservationId resultDigest result.usage
        return .durableResult resultDigest
  | _, _ => return .ambiguous

/-- An invocation whose turn may still go on: ask the provider. -/
def recoverTurn (activity : ActivityRow) (invocation : Invocation) : Task ActivityRecovery := do
  match invocation.envelope.runtimeSession, activity.sessionId with
  | some session, some sessionId =>
    let request ← getRequest sessionId
    let workspace ← Steps.orRaise (C.resolve request)
    let inspection ← ask fun n => C.runtime.inspect n session workspace
    if inspection.state = .notStarted ∨ inspection.state = .completed then return .resumable
    else return .ambiguous
  | _, _ => return .resumable

def recover (activity : ActivityRow) : Task ActivityRecovery := do
  match ← findActivityInvocation activity.activityId with
  | none => return .notStarted
  | some invocation =>
    match invocation.record.state with
    | .completed => recoverCompleted C h activity
    | .failed => return .durableResult (C.canonicalDigest (.harnessInvocation invocation.record))
    | .reconciliationRequired => return .ambiguous
    | .started | .running => recoverTurn C activity invocation

/-! ### The turn of the agent -/

/-- What is known when the turn is over. -/
structure Turn where
  invocation : Invocation
  session : RuntimeSessionRef
  completion : AgentCompletion
  events : List RuntimeEvent

def openInvocation (activity : ActivityRow) (request : VariationSessionRequest) (before : String) : Task Invocation := do
  match ← findActivityInvocation activity.activityId with
  | some invocation => return invocation
  | none =>
    let startedAt ← now C
    let invocation : Invocation :=
      ⟨⟨invocationId activity, activity.activityId, request.runId, some request.sessionId, .started, none⟩,
        ⟨none, before, none, none, none, [], none, startedAt⟩⟩
    recordInvocation C invocation
    return invocation

/-- The invocation with its provider session, prepared when there is none. -/
def openSession (activity : ActivityRow) (request : VariationSessionRequest) (workspace : CampaignWorkspace)
    (invocation : Invocation) : Task (Invocation × RuntimeSessionRef) := do
  match invocation.envelope.runtimeSession with
  | some session => return (invocation, session)
  | none =>
    let compatible ← ask fun n => .ok (C.runtime.preflight n)
    Steps.require (compatible = true) (campaign "coding-agent runtime failed preflight")
    let session ← ask fun n => C.runtime.prepare n request workspace (invocationId activity)
    let invocation := { invocation with envelope.runtimeSession := some session }
    replaceInvocation C invocation
    return (invocation, session)

def startTurn (request : VariationSessionRequest) (workspace : CampaignWorkspace) (invocation : Invocation)
    (session : RuntimeSessionRef) : Task (Invocation × RuntimeSessionRef × RuntimeInspection) := do
  let inspection ← ask fun n => C.runtime.inspect n session workspace
  match session.nativeOperationId with
  | some _ => return (invocation, session, inspection)
  | none =>
    match inspection.state with
    | .notStarted =>
      let session ← ask fun n => C.runtime.startTurn n request session
      let invocation : Invocation :=
        ⟨{ invocation.record with state := .running }, { invocation.envelope with runtimeSession := some session }⟩
      replaceInvocation C invocation
      return (invocation, session, inspection)
    | .completed => return (invocation, inspection.session, inspection)
    | state =>
      .raise (campaign ("prepared Codex thread is " ++ state.value ++ "; reconciliation required"))

def appendSpool (invocationId : String) : List RuntimeEvent → Task Unit
  | [] => .done ()
  | event :: rest => do
    .transact fun w =>
      match w.spools invocationId with
      | none => .ok ({ w with spools := Function.update w.spools invocationId (some [event]) }, ())
      | some events => do
        AvoLib.require (C.size (.stream (events ++ [event])) ≤ streamLimit) (campaign "runtime event spool exceeds 16 MiB")
        return ({ w with spools := Function.update w.spools invocationId (some (events ++ [event])) }, ())
    appendSpool invocationId rest

/-- The completion of the turn, and its events as far as they are read here. -/
def completeTurn (activity : ActivityRow) (session : RuntimeSessionRef) (inspection : RuntimeInspection) :
    Task (AgentCompletion × List RuntimeEvent) := do
  if inspection.state = .completed then
    let completion ← orCampaign inspection.completion "completed runtime inspection lacks completion"
    return (completion, [])
  else
    let (events, broken) ← ask fun n => .ok (C.runtime.events n session)
    appendSpool C (invocationId activity) events
    match broken with
    | some e => .raise e
    | none =>
      let completion ← ask fun n => C.runtime.wait n session
      return (completion, events)

def runTurn (activity : ActivityRow) (request : VariationSessionRequest) (workspace : CampaignWorkspace)
    (before : String) : Task Turn := do
  let invocation ← openInvocation C activity request before
  let (invocation, session) ← openSession C activity request workspace invocation
  let (invocation, session, inspection) ← startTurn C request workspace invocation session
  let (completion, events) ← completeTurn C activity session inspection
  return ⟨invocation, session, completion, events⟩

/-! ### After the turn -/

def attemptId (activity : ActivityRow) : String := C.uuid5 ("avo:attempt:" ++ activity.activityId)

def candidateId (activity : ActivityRow) (after : String) : String :=
  C.uuid5 ("avo:candidate:" ++ activity.activityId ++ ":" ++ after)

def evaluationKey (candidateId : String) : String := "evaluate:" ++ candidateId

/-- The agent stopped without a proposal. -/
def abandon (request : VariationSessionRequest) (activity : ActivityRow) (usage : UsageRecord)
    (eventStreamDigest before : String) (completedAt : Instant) : Task String := do
  let _ ← recordAttempt C ⟨attemptId C activity, request.sessionId, before, none, none, [], eventStreamDigest, .abandoned,
    completedAt, completedAt⟩
  let result : VariationSessionResult := ⟨request.sessionId, .exhausted, none, usage, by simp⟩
  commit C fun _ => .finishSession result
  return C.canonicalDigest (.sessionResult result)

/-- A candidate must not touch the paths that authority rests on. -/
def allowedPaths (workspace : CampaignWorkspace) : Except Failure Unit := do
  let paths ← C.changedPaths workspace
  let risk ← AvoLib.orRaise (C.deriveRisk paths) (campaign "candidate changed paths failed canonical validation")
  AvoLib.require (risk ≠ .constitutional ∧ risk ≠ .production)
    (campaign ("candidate changes trusted authority paths; completion rejected before candidate staging (risk=" ++
      risk.value ++ ")"))

def manifest (request : VariationSessionRequest) (activity : ActivityRow) (before after : String)
    (completedAt : Instant) : CandidateManifest :=
  ⟨candidateId C activity after, request.runId, request.sessionId, [request.championId], before, after, completedAt⟩

def reserve (runId activityKey : String) (estimated : UsageRecord) : Task String :=
  service C fun d db => BudgetService.reserve db runId activityKey estimated h.actorId d.id d.ids

/-- Stage the proposal, and enqueue its evaluation. -/
def propose (request : VariationSessionRequest) (activity : ActivityRow) (workspace : CampaignWorkspace)
    (completion : AgentCompletion) (usage : UsageRecord) (eventStreamDigest before after : String)
    (completedAt : Instant) : Task String := do
  Steps.require (before ≠ after) (campaign "Codex proposed a candidate without workspace changes")
  Steps.orRaise (C.createPatch workspace)
  Steps.orRaise (allowedPaths C workspace)
  let candidate := candidateId C activity after
  let patchDigest ← putBytes C h (.patch workspace) request.runId (patchArtifact candidate)
  let _ ← putBytes C h (.rationale completion) request.runId (rationaleArtifact candidate)
  let _ ← recordAttempt C ⟨attemptId C activity, request.sessionId, before, some after, some patchDigest, [],
    eventStreamDigest, .improved, completedAt, completedAt⟩
  commit C fun _ => .finishSession ⟨request.sessionId, .proposalReady, some after, usage, by simp⟩
  let staged := manifest C request activity before after completedAt
  commit C fun _ => .stageCandidate staged
  let reservationId ← reserve C h request.runId (evaluationKey candidate) h.evaluationEstimate
  commit C fun d => .enqueueActivity request.runId (evaluationKey candidate) (C.canonicalDigest (.candidateManifest staged))
    h.actorId (some request.sessionId) (some reservationId) d.id d.now d.ids
  return C.canonicalDigest (.candidateManifest staged)

def finalizeCompletion (request : VariationSessionRequest) (activity : ActivityRow) (workspace : CampaignWorkspace)
    (completion : AgentCompletion) (usage : UsageRecord) (eventStreamDigest before after : String) : Task String := do
  let completedAt ← now C
  match completion.outcome with
  | .stop => abandon C request activity usage eventStreamDigest before completedAt
  | .proposal => propose C h request activity workspace completion usage eventStreamDigest before after completedAt

def unlinkSpool (invocationId : String) : Task Unit :=
  .transact fun w => .ok ({ w with spools := Function.update w.spools invocationId none }, ())

/-- The evaluation of the candidate cannot be paid: what is durable ends the run. -/
def settleUnreserved (request : VariationSessionRequest) (activity : ActivityRow) (leaseEpoch : Nat)
    (reservationId : String) (completed : Invocation) (e : Failure) : Task String := do
  let result ← getResult request.sessionId
  let frozen ← getSessionCandidate request.sessionId
  match result, frozen with
  | some result, some frozen =>
    let digest := C.canonicalDigest (.candidateManifest frozen)
    replaceInvocation C completed
    settleExhausted C h request.runId activity leaseEpoch reservationId digest result.usage
    unlinkSpool (invocationId activity)
    return digest
  | _, _ => .raise e

/-- The record of the invocation when all is done. -/
def completedInvocation (turn : Turn) (streamDigest after : String) (completedAt : Instant) : Invocation :=
  ⟨{ turn.invocation.record with state := .completed, completedAt := some completedAt },
    { turn.invocation.envelope with
      runtimeSession := some turn.session
      workspaceAfterDigest := some after
      eventStreamArtifactDigest := some streamDigest
      completion := some turn.completion
      usage := runtimeUsage turn.events }⟩

/-- What follows the turn. -/
def conclude (request : VariationSessionRequest) (activity : ActivityRow) (leaseEpoch : Nat) (reservationId : String)
    (workspace : CampaignWorkspace) (before : String) (turn : Turn) : Task String := do
  let usage := usageFromEvents turn.events
  let spool ← Steps.look fun w => .ok (w.spools (invocationId activity))
  let streamDigest ← putBytes C h (.stream (spool.getD turn.events)) request.runId (streamArtifact (invocationId activity))
  let after := C.sourceTreeDigest workspace.candidate
  let completedAt ← now C
  let completed := completedInvocation turn streamDigest after completedAt
  match ← (finalizeCompletion C h request activity workspace turn.completion usage streamDigest before after).attempt with
  | .error e =>
    if exhausted e then settleUnreserved C h request activity leaseEpoch reservationId completed e
    else .raise e
  | .ok digest =>
    replaceInvocation C completed
    chargeBudget C h request.runId activity leaseEpoch reservationId digest usage
    unlinkSpool (invocationId activity)
    return digest

def execute (activity : ActivityRow) (leaseEpoch : Nat) : Task String := do
  match activity.sessionId, activity.budgetReservationId with
  | some sessionId, some reservationId =>
    let request ← getRequest sessionId
    let workspace ← Steps.orRaise (C.resolve request)
    Steps.orRaise (C.validate workspace)
    let before := C.sourceTreeDigest workspace.baseline
    Steps.require (before = C.championTree request) (campaign "materialized champion digest does not match the request")
    let state ← getState request.sessionId
    if state = .queued then commit C fun _ => .startSession request.sessionId
    let turn ← runTurn C activity request workspace before
    conclude C h request activity leaseEpoch reservationId workspace before turn
  | _, _ => .raise (campaign "variation activity lacks session or budget context")

/-! ### A failed execution -/

/-- Keep the spool, and mark the invocation. -/
def park (invocation : Invocation) : Task Unit := do
  let spool ← Steps.look fun w => .ok (w.spools invocation.record.invocationId)
  let digest ← match spool with
    | none => pure invocation.envelope.eventStreamArtifactDigest
    | some events => do
      let digest ← putBytes C h (.stream events) invocation.record.runId (partialStreamArtifact invocation.record.invocationId)
      pure (some digest)
  replaceInvocation C ⟨{ invocation.record with state := .reconciliationRequired },
    { invocation.envelope with eventStreamArtifactDigest := digest, errorClass := some "ambiguous_runtime_failure" }⟩

/-- A failure after the provider was asked for a session is ambiguous; what goes wrong
while that is noted is ignored. -/
def classifyFailure (activity : ActivityRow) : Task FailureDisposition := do
  match ← findActivityInvocation activity.activityId with
  | none => return .retry
  | some invocation =>
    match invocation.envelope.runtimeSession with
    | none => return .retry
    | some _ =>
      let _ ← ((park C h invocation).attempt : Task (Except Failure Unit))
      return .reconcile

/-! ## The scheduler with a claimed activity -/

def complete (workerId : String) (activity : ActivityRow) (resultDigest : String) : Task Unit :=
  commit C fun d => .completeActivity activity.activityId workerId activity.leaseEpoch resultDigest d.ids

def markReconciliationRequired (workerId : String) (activity : ActivityRow) (reason : String) : Task Unit :=
  commit C fun d =>
    .markReconciliationRequired activity.activityId workerId reason (some activity.leaseEpoch) d.id d.now d.ids

/-- An execution that raised is classified, and its exception raised again. -/
def fail (workerId : String) (activity : ActivityRow) (e : Failure) : Task Bool := do
  match ← classifyFailure C h activity with
  | .reconcile => markReconciliationRequired C workerId activity "uncertain_external_failure"
  | .retry => pure ()
  .raise e

/-- `run_once_async` after the claim: recover the activity or execute it, and complete
it. -/
def work (workerId : String) (activity : ActivityRow) : Task Bool := do
  match ← recover C h activity with
  | .ambiguous =>
    markReconciliationRequired C workerId activity "ambiguous_external_state"
    return true
  | .durableResult resultDigest =>
    complete C workerId activity resultDigest
    return true
  | .notStarted | .resumable =>
    match ← (execute C h activity activity.leaseEpoch).attempt with
    | .error e => fail C h workerId activity e
    | .ok resultDigest =>
      complete C workerId activity resultDigest
      return true

end AvoCorrelate.Variation
