import AvoCorrelate.MainRollback.Records
/-!
# The rollback coordinator, up to the admission

`MainRollbackCoordinator.execute` for a prepared authority: evidence about queue and
protection, candidate, pull request, admission check, and the record of the admission
with the journal's checks on it. What comes after that record is a parameter.
-/
open AvoLib

namespace AvoCorrelate.MainRollback

open ExactCas (GitObject)
open Graduation (MainBound Stage Intent LeaseRecord StageRequest ObservationRequest QueueConfiguration Protection PullRequest
  Check CheckState Admission Issuer Executor Answer)

variable {D Pkg : Type}

/-! ## Files and ports -/

/-- The journal's indexes, by operation; the runs of admission checks are one-use. -/
inductive Key (D : Type)
  | preparation (operationId : D)
  | authorization (operationId : D)
  | queueConfiguration (operationId : D)
  | protection (operationId : D)
  | admission (operationId : D)
  | runNonce (runId nonce : String)
  | completion (operationId : D)
  deriving DecidableEq

abbrev Rec (Pkg : Type) : Key D → Type
  | .preparation _ => Preparation D
  | .authorization _ => Authorization D
  | .queueConfiguration _ => QueueConfiguration D
  | .protection _ => Protection D
  | .admission _ => Admission D
  | .runNonce _ _ => Admission D
  | .completion _ => Pkg

inductive Port (D Pkg : Type)
  -- TrustedClock.now, and datetime.now of the attester
  | clock
  | wallClock
  -- the artifact store
  | install
  -- _require_rollback_preparation_chain, _require_rollback_intent, _verify_rollback_children
  | requirePreparationChain (preparation : Preparation D)
  | requireRollbackIntent (authorization : Authorization D)
  | verifyRollbackChildren (package : Pkg)
  -- the operation has an index of a graduation
  | graduates (operationId : D)
  -- read_completion of the source
  | source (operationId : D)
  -- the provider's observations, and the controller's verifier of them
  | observeQueueConfiguration (operationId : D)
  | observeProtection
  | verifyQueueConfiguration (config : QueueConfiguration D)
  | verifyProtection (protection : Protection D)
  -- the number in the result of the stage, or from lookup_pull_request
  | pullRequestNumber (request : StageRequest D)
  | observePullRequest (number : Nat)
  | observeAdmissionCheck (headCommit : GitObject) (freshnessCutoff : Instant)
  -- _observation_request
  | observationRequest (request : StageRequest D)

abbrev Port.Answer : Port D Pkg → Type
  | .clock => Graduation.Answer Instant
  | .wallClock => Instant
  | .install => Graduation.Answer Unit
  | .requirePreparationChain _ => Graduation.Answer Unit
  | .requireRollbackIntent _ => Graduation.Answer Unit
  | .verifyRollbackChildren _ => Graduation.Answer Unit
  | .graduates _ => Bool
  | .source _ => Graduation.Answer (Option (Source D))
  | .observeQueueConfiguration _ => Graduation.Answer (QueueConfiguration D)
  | .observeProtection => Graduation.Answer (Protection D)
  | .verifyQueueConfiguration _ => Graduation.Answer Unit
  | .verifyProtection _ => Graduation.Answer Unit
  | .pullRequestNumber _ => Graduation.Answer (Option Nat)
  | .observePullRequest _ => Graduation.Answer (PullRequest D)
  | .observeAdmissionCheck _ _ => Graduation.Answer Check
  | .observationRequest _ => Graduation.Answer (ObservationRequest D)

/-- What is raised: by the stages, `MainRollbackCoordinatorError`, `ValueError` or
`TypeError`, or anything else. -/
inductive Exc
  | stage (e : Graduation.Exc)
  | coordinator (message : String)
  | value (message : String)
  | other (message : String)
  deriving DecidableEq

/-- The text of an exception that `execute` catches. -/
def Exc.caught : Exc → Option String
  | .stage (.journal m) => some m
  | .stage (.conflict m) => some m
  | .stage (.execution m) => some m
  | .stage (.other _) => none
  | .coordinator m => some m
  | .value m => some m
  | .other _ => none

abbrev Code (D Pkg : Type) (α : Type) :=
  Prog (Both (Graduation.Rec (D := D)) (Rec (D := D) Pkg)) (Both (Graduation.Port.Answer (D := D)) (Port.Answer : Port D Pkg → Type))
    Exc α

def ofStage {α : Type} (p : Graduation.Code D α) : Code D Pkg α := p.within Exc.stage

def ask {α : Type} (p : Port D Pkg) (next : p.Answer → Code D Pkg α) : Code D Pkg α := .port (.inr p) next

def orRaise {α : Type} : Answer α → Code D Pkg α
  | .raised message => .raise (.other message)
  | .returned v => .done v

variable [DecidableEq D]

def readFile (k : Key D) : Code D Pkg (Found (Rec Pkg k)) := .read (.inr k) .done

def publishFile (k : Key D) (v : Rec Pkg k) : Code D Pkg Published := .publish (.inr k) v .done

/-! ## The journal -/

namespace Journal

/-- `_read` of a record: what is indexed, with the checks of its kind. -/
def read (kind : String) (k : Key D) (check : Rec Pkg k → Code D Pkg Unit) : Code D Pkg (Option (Rec Pkg k)) := do
  let found ← readFile k
  match found with
  | .missing => return none
  | .malformed => .raise (.stage (.journal ("malformed or unverifiable main graduation " ++ kind)))
  | .found v => do
    check v
    return some v

def readPreparation (operationId : D) : Code D Pkg (Option (Preparation D)) :=
  read "rollback-preparation-authorization" (.preparation operationId) fun p => ask (.requirePreparationChain p) orRaise

def readAuthorization (operationId : D) : Code D Pkg (Option (Authorization D)) :=
  read "rollback-authorization" (.authorization operationId) fun a => ask (.requireRollbackIntent a) orRaise

def readQueueConfiguration (operationId : D) : Code D Pkg (Option (QueueConfiguration D)) :=
  read "queue-configuration" (.queueConfiguration operationId) fun _ => .done ()

def readProtection (operationId : D) : Code D Pkg (Option (Protection D)) :=
  read "protection" (.protection operationId) fun _ => .done ()

/-- `read_rollback_completion`. -/
def readCompletion (operationId : D) : Code D Pkg (Option Pkg) :=
  read "rollback-completion" (.completion operationId) fun p => ask (.verifyRollbackChildren p) orRaise

/-- `_operation_authority_branch`, when it is a rollback's: a graduation's is raised here. -/
def requireRollbackBranch (operationId : D) : Code D Pkg Unit := do
  let rollback ← readAuthorization operationId
  match rollback with
  | none => .raise (.stage (.journal "admission requires durable queue authority"))
  | some _ => ask (.graduates operationId) fun present =>
    Prog.require (present = false) (.stage (.journal "operation has mixed graduation and rollback authority"))

variable (C : Canon D)

def SameAdmission (admission : Admission D) (preparation : Preparation D) (queue : QueueConfiguration D) (protection : Protection D) :
    Prop :=
  admission.preparationAuthorizationDigest = preparation.digest C ∧
  (admission.packageDigest = preparation.packageDigest ∧ admission.compositionDigest = preparation.compositionDigest) ∧
  (admission.toMainBound = preparation.toMainBound ∧ queue.toMainBound = preparation.toMainBound) ∧
  (admission.baseCommit = preparation.baseCommit ∧ admission.baseTree = preparation.baseTree) ∧
  (admission.headCommit = preparation.candidateCommit ∧ admission.headTree = preparation.candidateTree) ∧
  (queue.expectedBaseCommit = preparation.baseCommit ∧ queue.expectedBaseTree = preparation.baseTree) ∧
  admission.queueConfigurationDigest = queue.queueConfigurationDigest ∧
  (admission.protectionManifestDigest = protection.manifestDigest ∧
    queue.protectionManifestDigest = protection.manifestDigest ∧ queue.protectionEpoch = protection.protectionEpoch) ∧
  queue.providerIdentity = protection.providerIdentity ∧ queue.providerApiVersion = protection.providerApiVersion

instance (admission : Admission D) (preparation : Preparation D) (queue : QueueConfiguration D) (protection : Protection D) :
    Decidable (SameAdmission C admission preparation queue protection) := inferInstanceAs (Decidable (_ ∧ _))

def requireRollbackQueueAdmission (admission : Admission D) : Code D Pkg Unit := do
  let queue ← readQueueConfiguration admission.operationId
  let protection ← readProtection admission.operationId
  let preparation ← readPreparation admission.operationId
  let auth ← readAuthorization admission.operationId
  match queue, protection, preparation, auth with
  | some queue, some protection, some preparation, some auth => do
    ask (.requirePreparationChain preparation) orRaise
    Prog.require (SameAdmission C admission preparation queue protection)
      (.stage (.journal "rollback admission package/queue binding differs"))
    Prog.require (auth.releaseIssuer = protection.issuer ∧ queue.issuer = auth.releaseIssuer ∧ admission.issuer = auth.releaseIssuer)
      (.stage (.journal "rollback admission issuer binding differs"))
    Prog.require (preparation.authorizedAt ≤ admission.observedAt)
      (.stage (.journal "rollback admission predates preparation authorization"))
  | _, _, _, _ =>
    .raise (.stage (.journal "rollback admission requires durable queue, protection, and preparation authority"))

/-- `_require_queue_admission` of a rollback. -/
def requireQueueAdmission (admission : Admission D) : Code D Pkg Unit := do
  requireRollbackBranch admission.operationId
  requireRollbackQueueAdmission C admission

def readAdmission (operationId : D) : Code D Pkg (Option (Admission D)) :=
  read "queue-admission" (.admission operationId) (requireQueueAdmission C)

/-- The create-once index of `_record`. -/
def index (kind : String) (operationId : D) (k : Key D) [DecidableEq (Rec Pkg k)] (v : Rec Pkg k) : Code D Pkg Unit := do
  let published ← publishFile k v
  match published with
  | .created => return ()
  | .failed => .raise (.stage (.journal "main graduation record was not indexed"))
  | .lost => .raise (.stage (.journal "main graduation record was not indexed"))
  | .taken => do
    let found ← (readFile k : Code D Pkg (Found (Rec Pkg k)))
    match found with
    | .missing => .raise (.stage (.journal "main graduation index is malformed"))
    | .malformed => .raise (.stage (.journal "main graduation index is malformed"))
    | .found old =>
      Prog.require (old = v) (.stage (.conflict ("conflicting main graduation " ++ kind ++ " for " ++ C.text operationId)))

def recordQueueConfiguration (config : QueueConfiguration D) : Code D Pkg Unit := do
  ask .install orRaise
  index C "queue-configuration" config.operationId (.queueConfiguration config.operationId) config

def recordProtectionManifest (protection : Protection D) : Code D Pkg Unit := do
  ask .install orRaise
  index C "protection" protection.operationId (.protection protection.operationId) protection

/-- `_index_run_nonce` of an admission. -/
def indexRunNonce (admission : Admission D) : Code D Pkg Unit := do
  let published ← publishFile (.runNonce admission.admissionRunId admission.admissionNonce) admission
  match published with
  | .created => return ()
  | .failed => .raise (.stage (.journal "run/nonce was not durably indexed"))
  | .lost => .raise (.stage (.journal "run/nonce was not durably indexed"))
  | .taken => do
    let found ← (readFile (.runNonce admission.admissionRunId admission.admissionNonce) : Code D Pkg (Found (Admission D)))
    match found with
    | .missing => .raise (.stage (.journal "run/nonce index is malformed"))
    | .malformed => .raise (.stage (.journal "run/nonce index is malformed"))
    | .found current => do
      let here ← readAdmission C admission.operationId
      match here with
      | none => Prog.require (current = admission) (.stage (.conflict "admission run/nonce is already bound"))
      | some here =>
        Prog.require (here = admission ∧ current = here) (.stage (.conflict "admission run/nonce is already bound"))

def recordQueueAdmission (admission : Admission D) : Code D Pkg Unit := do
  Prog.require admission.Valid (.stage (.journal "invalid main graduation queue-admission"))
  requireQueueAdmission C admission
  ask .install orRaise
  indexRunNonce C admission
  index C "queue-admission" admission.operationId (.admission admission.operationId) admission

end Journal

/-! ## The coordinator -/

/-- `RollbackResult`. -/
inductive Result (Pkg : Type)
  | completed (package : Pkg)
  | reconciliationRequired (stage : String) (reason : String)
  | quarantined (reason : String)

/-- What `MainGraduationAttester` and `_CaptureCapability` are configured with. -/
structure Config (D : Type) where
  executor : Executor D
  repositoryDigest : D
  releaseIssuer : Issuer D

def now : Code D Pkg Instant := ask .clock orRaise

namespace Coordinator

variable (C : Canon D)

/-- `_observe_evidence` of the queue configuration. -/
def observeQueueConfiguration (operationId : D) : Code D Pkg (QueueConfiguration D) := do
  let value ← ask (.observeQueueConfiguration operationId) orRaise
  Prog.require (value.operationId = operationId)
    (.coordinator "provider observe_queue_configuration operation identity differs")
  ask (.verifyQueueConfiguration value) orRaise
  Journal.recordQueueConfiguration C value
  return value

/-- `_observe_evidence` of the protection. -/
def observeProtection : Code D Pkg (Protection D) := do
  let value ← ask .observeProtection orRaise
  ask (.verifyProtection value) orRaise
  Journal.recordProtectionManifest C value
  return value

/-- `_source`. -/
def sourceOf (a : Authority D) : Code D Pkg (Source D) := do
  let loaded ← ask (.source a.intent.sourceOperationId) orRaise
  let source ← Prog.ofOption loaded (.coordinator "durable source completion is missing")
  Prog.require (source.operationId = a.intent.sourceOperationId) (.coordinator "durable source completion is missing")
  return source

def evidence (a : Authority D) (source : Source D) : Code D Pkg (QueueConfiguration D × Protection D) := do
  let config ← observeQueueConfiguration C a.operationId
  let protection ← observeProtection C
  Prog.require (source.attestationPackageDigest = source.packageDigest)
    (.coordinator "source attestation package binding differs")
  return (config, protection)

/-- The last stage that was run: its intent and how it ended. -/
abbrev Parent (D : Type) := Option (Intent D × Executor.EffectiveResult D)

/-- The stage, in the terms of the preparation coordinator. -/
def stageRun (a : Authority D) (built : Built D) (parent : Parent D) : Graduation.StageRun D where
  controllerConfigDigest := a.authorization.controllerConfigDigest
  prep := ⟨a.intent.toMainBound, a.preparation.authorizationDigest C, a.lease.owner, a.lease.leaseDigest, a.authorization.policyEpoch⟩
  leaseEpochDigest := a.lease.leaseEpochDigest
  request := built.request
  externalKey := built.externalKey
  queueGenerationDigest := none
  parent := parent
  stage := built.request.stage

/-- `recover_effective` with the `_observation_request` of the stage. -/
def recoverStage (E : Executor D) (i : Intent D) (request : StageRequest D) : Code D Pkg (Executor.EffectiveResult D) := do
  let observation ← ask (.observationRequest request) orRaise
  ofStage (Graduation.Coordinator.recoverEffective C.toCanon E i observation request)

/-- The executor's part of `_stage`. -/
def runStage (E : Executor D) (i : Intent D) (request : StageRequest D) : Code D Pkg (Executor.EffectiveResult D) := do
  let owner ← ofStage (Graduation.Journal.readDispatchOwner C.toCanon E.policyEpoch (i.digest C.toCanon))
  let receipt ← ofStage (Graduation.Journal.readReceiptForIntent C.toCanon E.policyEpoch (i.digest C.toCanon))
  let effective ← (if owner.isSome ∧ receipt.isNone then recoverStage C E i request
    else ofStage (Graduation.Coordinator.executeEffective C.toCanon E i request))
  if effective.effectiveOutcome.unsettled then recoverStage C E i request else return effective

/-- `_stage`, before the release. -/
def stage (E : Executor D) (a : Authority D) (built : Built D) (parent : Parent D) :
    Code D Pkg (Intent D × Executor.EffectiveResult D) := do
  let prior ← ofStage (Graduation.Coordinator.readIntentByOperationStage built.request.operationId built.request.stage)
  let recordedAt ← (match prior with
    | none => now
    | some p => .done p.recordedAt : Code D Pkg Instant)
  Prog.require (∀ p ∈ parent, p.2.effectiveOutcome.success = true) (.coordinator "parent stage is not terminally applied")
  let i ← ofStage (Graduation.Coordinator.buildIntent C.toCanon (stageRun C a built parent) recordedAt)
  Prog.require (∀ p ∈ prior, p = i) (.coordinator "durable stage intent differs")
  let effective ← runStage C E i built.request
  return (i, effective)

/-- The fields of the pull request that `_pull_request` compares. -/
def SamePullRequest (a : Authority D) (number : Nat) (pr : PullRequest D) : Prop :=
  pr.repositoryDigest = a.intent.repositoryDigest ∧ pr.number = number ∧ pr.baseCommit = a.composition.currentMainCommit ∧
    pr.baseTree = a.composition.currentMainTree ∧ pr.headCommit = a.composition.candidateCommit ∧
    pr.headTree = a.composition.candidateTree ∧ pr.baseRef = a.intent.targetRef.val ∧ pr.state = "open" ∧ pr.draft = false

instance (a : Authority D) (number : Nat) (pr : PullRequest D) : Decidable (SamePullRequest a number pr) :=
  inferInstanceAs (Decidable (_ ∧ _))

def pullRequest (a : Authority D) (request : StageRequest D) : Code D Pkg (PullRequest D) := do
  let found ← ask (.pullRequestNumber request) orRaise
  let number ← Prog.ofOption found (.coordinator "authenticated pull request identity is missing")
  let pr ← ask (.observePullRequest number) orRaise
  Prog.require (SamePullRequest a number pr) (.coordinator "pull-request observation differs from rollback intent")
  return pr

/-- `attest_admission` of `MainGraduationAttester`: the observation comes back as it is, or it raises. -/
def attestAdmission (config : Config D) (observation : Admission D) (pr : PullRequest D) (queue : QueueConfiguration D)
    (preparationAuthorizationDigest : D) (check : Check) (freshnessCutoff : Instant) : Code D Pkg (Admission D) :=
  ask .wallClock fun wallClock => do
    Prog.require (observation.repositoryDigest = config.repositoryDigest) (.other "admission repository or target drift")
    Prog.require (observation.pullRequestNumber = pr.number ∧ observation.baseCommit = pr.baseCommit ∧
      observation.headCommit = pr.headCommit) (.other "admission PR/base/head mismatch")
    Prog.require (observation.admissionSha = pr.headCommit ∧ observation.headTree = pr.headTree)
      (.other "admission success is not exact PR-head evidence")
    Prog.require (observation.queueConfigurationDigest = queue.queueConfigurationDigest ∧
      observation.protectionManifestDigest = queue.protectionManifestDigest) (.other "admission queue/protection evidence drift")
    Prog.require (observation.operationId = queue.operationId) (.other "admission operation differs from queue observation")
    Prog.require (observation.issuer = config.releaseIssuer) (.other "admission issuer is not isolated controller issuer")
    Prog.require (freshnessCutoff ≤ check.observedAt ∧ check.observedAt ≤ wallClock)
      (.other "admission check is stale or in the future")
    Prog.require (check.sha = pr.headCommit ∧ check.context = "avo-main-release" ∧ check.appId = config.releaseIssuer.appId ∧
      check.appId ≠ Graduation.validationAppId ∧ check.state = .success ∧ check.runId = observation.admissionRunId ∧
      check.nonce = observation.admissionNonce) (.other "admission check is not exact isolated PR-head success")
    Prog.require (observation.preparationAuthorizationDigest = preparationAuthorizationDigest)
      (.other "admission preparation authorization mismatch")
    return observation

def admission (config : Config D) (a : Authority D) (queue : QueueConfiguration D) (protection : Protection D) (pr : PullRequest D) :
    Code D Pkg (Admission D) := do
  let cutoff ← now
  let check ← ask (.observeAdmissionCheck pr.headCommit cutoff) orRaise
  Prog.require (check.sha = pr.headCommit ∧ check.runId = admissionRunId C a pr ∧ check.nonce = admissionNonce C a pr ∧
    check.state = .success ∧ check.appId ≠ Graduation.validationAppId) (.coordinator "admission check is not exact provider proof")
  let value := admissionOf C a queue protection pr check
  Prog.require value.Valid (.value "invalid queue admission")
  let cutoff ← now
  attestAdmission config value pr queue (a.preparation.authorizationDigest C) check cutoff

/-- What a stage that is not terminal is reported with. -/
def reconcile (stage : String) (effective : Executor.EffectiveResult D) : Result Pkg :=
  .reconciliationRequired stage (match effective.receipt.outcome with
    | .applied => "applied"
    | .alreadyApplied => "already_applied"
    | .rejected => "rejected"
    | .ambiguous => "ambiguous"
    | .reconciliationRequired => "reconciliation_required")

/-- What follows the record of the admission. -/
abbrev Rest (D Pkg : Type) :=
  QueueConfiguration D → Protection D → PullRequest D → Admission D → Parent D → Code D Pkg (Result Pkg)

def checkAdmission (config : Config D) (a : Authority D) (queue : QueueConfiguration D) (protection : Protection D) (pr : PullRequest D)
    (parent : Parent D) (rest : Rest D Pkg) : Code D Pkg (Result Pkg) := do
  Prog.require (protection.issuer.appId ≠ Graduation.validationAppId)
    (.value "validation App 15368 cannot issue C4 authority")
  let (i, effective) ← stage C config.executor a (admissionRequest C a queue protection pr) parent
  if effective.effectiveOutcome.success then
    let value ← admission C config a queue protection pr
    Journal.recordQueueAdmission C value
    rest queue protection pr value (some (i, effective))
  else return reconcile "admission_check" effective

/-- The candidate is published and its pull request opened. -/
def prepareCandidate (config : Config D) (a : Authority D) (queue : QueueConfiguration D) (protection : Protection D)
    (rest : Rest D Pkg) : Code D Pkg (Result Pkg) := do
  Prog.require (a.intent.candidateRef = rollbackCandidateRef C a.operationId) (.value "candidate ref is not operation-derived")
  let (i, effective) ← stage C config.executor a (candidateRequest C a) none
  if effective.effectiveOutcome.success then
    Prog.require (a.composition.candidateCommit ≠ a.composition.currentMainCommit ∧
      a.composition.candidateTree ≠ a.composition.currentMainTree) (.value "pull request head must differ from base")
    let (i', effective') ← stage C config.executor a (pullRequestRequest C a) (some (i, effective))
    if effective'.effectiveOutcome.success then
      let pr ← pullRequest a (pullRequestRequest C a).request
      checkAdmission C config a queue protection pr (some (i', effective')) rest
    else return reconcile "pull_request_open" effective'
  else return reconcile "candidate_publication" effective

def executeAuthority (config : Config D) (a : Authority D) (rest : Rest D Pkg) : Code D Pkg (Result Pkg) := do
  let source ← sourceOf a
  let (queue, protection) ← evidence C a source
  prepareCandidate C config a queue protection rest

/-- `_execute_scoped`, for the authority that was prepared. -/
def executeScoped (config : Config D) (a : Authority D) (rest : Rest D Pkg) : Code D Pkg (Result Pkg) := do
  let existing ← Journal.readCompletion a.operationId
  match existing with
  | some package => return .completed package
  | none => executeAuthority C config a rest

/-- `execute`: what is raised on the way becomes a quarantine. -/
def execute (config : Config D) (a : Authority D) (rest : Rest D Pkg) : Code D Pkg (Result Pkg) := do
  let outcome ← (executeScoped C config a rest).attempt
  match outcome with
  | .ok result => return result
  | .error e =>
    match e.caught with
    | some reason => return .quarantined reason
    | none => .raise e

end Coordinator

end AvoCorrelate.MainRollback
