import AvoCorrelate.Graduation.Executor
/-!
# One stage of the preparation coordinator

`MainGraduationPreparationCoordinator._run_stage` runs one of the first four stages, or
goes on with a run that was interrupted: it finds an earlier intent of the operation
and the stage, and builds a new one from the time otherwise.
-/
open AvoLib

namespace AvoCorrelate.Graduation

variable {D : Type} [DecidableEq D]

/-- The intent with these fields, when its validator accepts them. -/
def Intent.build (b : IntentBody D) : Option (Intent D) := if h : b.Valid then some ⟨b, h⟩ else none

inductive EffectiveOutcome
  | receipt (outcome : MutationOutcome)
  | notApplied
  deriving DecidableEq

def Executor.EffectiveResult.effectiveOutcome (r : Executor.EffectiveResult D) : EffectiveOutcome :=
  match r.resolution with
  | none => .receipt r.receipt.outcome
  | some q =>
    match q.outcome with
    | .observedApplied => .receipt .applied
    | .observedAlreadyApplied => .receipt .alreadyApplied
    | .notApplied => .notApplied

/-- `effective_outcome in {"applied", "already_applied"}`. -/
def EffectiveOutcome.success : EffectiveOutcome → Bool
  | .receipt outcome => outcome.success
  | .notApplied => false

/-- `effective_outcome in {"ambiguous", "reconciliation_required"}`. -/
def EffectiveOutcome.unsettled : EffectiveOutcome → Bool
  | .receipt outcome => !outcome.terminal
  | .notApplied => false

/-- What `_run_stage` is called with: the plan's configuration, preparation and lease,
the request with its external key, the predecessor, and the stage. -/
structure StageRun (D : Type) where
  controllerConfigDigest : D
  prep : Preparation D
  leaseEpochDigest : D
  request : StageRequest D
  externalKey : ExternalKey D
  queueGenerationDigest : Option D
  parent : Option (Intent D × Executor.EffectiveResult D)
  stage : Stage

namespace Coordinator

variable (C : Canon D)

def externalIdentity (run : StageRun D) : ExternalIdentity D :=
  ⟨run.request.toMainBound, run.request.operationId, run.request.stage, run.externalKey, run.queueGenerationDigest⟩

/-- `parent_receipt` and `parent_resolution_digest` of `_intent_values`. -/
def parentProof : Option (Intent D × Executor.EffectiveResult D) → Option (ReceiptBody D) × Option D
  | none => (none, none)
  | some (_, execution) =>
    match execution.resolution.filter (fun q => q.outcome.observed) with
    | some q => (none, some (q.digest C))
    | none => (some execution.receipt.toReceiptBody, none)

def intentValues (run : StageRun D) (recordedAt : Instant) : IntentBody D :=
  { run.request.toMainBound with
    operationId := run.request.operationId
    stage := run.stage
    parentIntentDigest := run.parent.map fun p => p.1.digest C
    leaseIdentity := run.prep.leaseIdentity
    leaseDigest := run.prep.leaseDigest
    leaseEpochDigest := run.leaseEpochDigest
    policyEpochDigest := run.prep.policyEpoch
    controllerConfigDigest := run.controllerConfigDigest
    preparationAuthorizationDigest := run.prep.authorizationDigest
    releaseAuthorizationDigest := none
    releaseClaimDigest := none
    externalIdentity := externalIdentity run
    parentStage := run.parent.map fun p => p.1.stage
    parentReceipt := (parentProof C run.parent).1
    parentResolutionDigest := (parentProof C run.parent).2
    requestDigest := run.request.requestDigest
    recordedAt := recordedAt }

/-- `_digest_intent` of `_intent_values`, with the checks on the way. -/
def buildIntent (run : StageRun D) (recordedAt : Instant) : Code D (Intent D) := do
  Prog.require (∀ p ∈ run.parent, p.2.effectiveOutcome.success = true)
    (.other "parent mutation requires authoritative recovery")
  Prog.require (run.request.externalIdentity = (externalIdentity run).digest C)
    (.other "external identity digest mismatch")
  Prog.ofOption (Intent.build (intentValues C run recordedAt)) (.other "invalid mutation intent")

/-- `read_mutation_intent_by_operation_stage`. -/
def readIntentByOperationStage (operationId : D) (stage : Stage) : Code D (Option (Intent D)) :=
  .read (.operationStage operationId stage) fun
    | .missing => .done none
    | .malformed => .raise (.journal "operation-stage mutation intent is malformed")
    | .found i => do
      Prog.require (i.operationId = operationId ∧ i.stage = stage)
        (.conflict "operation-stage mutation intent identity differs")
      Journal.assertStageIdentity i
      return some i

def executeEffective (E : Executor D) (i : Intent D) (request : StageRequest D) : Code D (Executor.EffectiveResult D) := do
  let r ← Executor.execute C E i request
  Executor.effectiveResult C E (.record i) (some r)

def recoverEffective (E : Executor D) (i : Intent D) (observation : ObservationRequest D) (request : StageRequest D) :
    Code D (Executor.EffectiveResult D) := do
  let r ← Executor.recover C E (.record i) observation request
  Executor.effectiveResult C E (.record i) (some r)

def recordingTime (prior : Option (Intent D)) : Code D Instant :=
  match prior with
  | none => now
  | some p => .done p.recordedAt

variable (observationRequest : Intent D → StageRequest D → Code D (ObservationRequest D))

/-- `recover_effective` with the `_observation_request` of the intent. -/
def recoverStage (E : Executor D) (i : Intent D) (request : StageRequest D) : Code D (Executor.EffectiveResult D) := do
  let observation ← observationRequest i request
  recoverEffective C E i observation request

def resumeStage (E : Executor D) (i : Intent D) (request : StageRequest D) : Code D (Executor.EffectiveResult D) := do
  let receipt ← Journal.readReceiptForIntent C E.policyEpoch (i.digest C)
  let owner ← Journal.readDispatchOwner C E.policyEpoch (i.digest C)
  match receipt with
  | none => if owner.isNone then executeEffective C E i request else recoverStage C observationRequest E i request
  | some r =>
    if r.outcome.terminal then Executor.effectiveResult C E (.record i) (some r)
    else recoverStage C observationRequest E i request

def stageOf (E : Executor D) (i : Intent D) (request : StageRequest D) : Code D (Executor.EffectiveResult D) := do
  let durable ← (Journal.readers C E.policyEpoch).intent (i.digest C)
  match durable with
  | none => executeEffective C E i request
  | some _ => resumeStage C observationRequest E i request

def finishStage (E : Executor D) (i : Intent D) (request : StageRequest D) : Code D (Intent D × Executor.EffectiveResult D) := do
  let effective ← stageOf C observationRequest E i request
  if effective.effectiveOutcome.unsettled then
    let effective ← recoverStage C observationRequest E i request
    return (i, effective)
  else return (i, effective)

def runStage (E : Executor D) (run : StageRun D) : Code D (Intent D × Executor.EffectiveResult D) := do
  let prior ← readIntentByOperationStage run.request.operationId run.stage
  let recordedAt ← recordingTime prior
  let i ← buildIntent C run recordedAt
  Prog.require (∀ p ∈ prior, i = p) (.other "durable mutation intent differs from current request")
  finishStage C observationRequest E i run.request

end Coordinator

end AvoCorrelate.Graduation
