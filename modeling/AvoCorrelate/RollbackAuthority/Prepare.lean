import AvoCorrelate.RollbackAuthority.Journal
/-!
# Preparing a rollback authority

`MainRollbackAuthority.prepare` derives the identity of the operation, wants a lease
that is current while no intent is durable, and makes the four records durable one
after the other. A record that is there already is adopted if it is the one that would
be written; the times of the records are those of the first of them.
-/
open AvoLib

namespace AvoCorrelate.RollbackAuthority

open Graduation (MainBound)
open MainRollback (Preparation)

variable {D : Type} [DecidableEq D]

/-- What a `MainRollbackAuthority` is made with. -/
structure Controller (D : Type) where
  journal : Journal.Config D
  policyEpoch : Option D
  controllerConfigDigest : Option D
  releaseIssuerBinding : Option (IssuerBinding D)
  -- whether it has a current_authority_reader, and a lease_acquirer
  reads : Bool
  acquires : Bool

/-- The arguments of `prepare`. -/
structure Arguments (D : Type) where
  sourceOperationId : D
  attemptNonce : String
  composition : CompositionResult D
  lease : Option (Lease D)
  policyEpoch : Option D
  controllerConfigDigest : Option D
  releaseIssuerBinding : Option (IssuerBinding D)

/-- What the identity of the operation is derived from. -/
structure Derived (D : Type) where
  source : Source D
  composition : Composition D
  policyEpoch : D
  controllerConfigDigest : D
  binding : IssuerBinding D

/-- `MainRollbackAuthorityResult`. -/
structure Result (D : Type) where
  operationId : D
  lease : Lease D
  composition : Composition D
  authorization : Authorization D
  intent : Intent D
  attempt : Attempt D
  preparation : Preparation D

variable (C : Canon D) (A : Controller D) (x : Arguments D)

/-! ## The identity of the operation -/

/-- `_source`. -/
def readSource (operationId : D) : Code D (Source D) := do
  let loaded ← Journal.completion operationId
  let (source, digest) ← Prog.ofOption loaded (.authority "source completion is not durably recorded")
  Prog.require (source.operationId = operationId ∧ source.digest = digest)
    (.authority "source completion canonical identity differs")
  Prog.require (source.state = .completed) (.authority "source completion is not an applied no-deploy result")
  return source

/-- `_durable_composition`, with the checks of `_composition`. -/
def durableComposition (composition : CompositionResult D) (sourceOperationId : D) : Code D (Composition D) := do
  let artifact := composition.composition
  Prog.require (artifact.sourceOperationId = sourceOperationId) (.authority "composition source operation differs")
  Prog.require (composition.sourceOperationId = sourceOperationId) (.authority "composition source operation differs")
  Prog.require (composition.artifact.digest = artifact.digest C) (.authority "composition artifact reference digest differs")
  Prog.require (artifact.compositionId = composition.compositionId) (.authority "composition identity differs")
  let loaded ← Journal.readComposition artifact.compositionId
  let (durable, ref) ← Prog.ofOption loaded (.authority "rollback composition is not durably recorded")
  Prog.require (durable = artifact ∧ ref = composition.artifact)
    (.authority "durable rollback composition differs from verified composition")
  return durable

def validateCurrentAuthority (source : Source D) (policyEpoch config : D) (binding : IssuerBinding D) : Code D Unit := do
  Prog.require (policyEpoch = source.policyEpoch) (.authority "current rollback policy epoch differs from source")
  Prog.require (config = source.binding.controllerConfigDigest ∧ binding = source.binding)
    (.authority "current rollback controller authority differs from source")
  Prog.require (binding.issuer.appId ≠ validationApp) (.authority "validation App 15368 cannot issue rollback")

/-- The beginning of `prepare`, which `preview` has too. -/
def derive : Code D (Derived D) := do
  let source ← readSource x.sourceOperationId
  let composition ← durableComposition C x.composition x.sourceOperationId
  let d : Derived D :=
    { source, composition
      policyEpoch := (x.policyEpoch <|> A.policyEpoch).getD source.policyEpoch
      controllerConfigDigest := (x.controllerConfigDigest <|> A.controllerConfigDigest).getD source.binding.controllerConfigDigest
      binding := (x.releaseIssuerBinding <|> A.releaseIssuerBinding).getD source.binding }
  validateCurrentAuthority source d.policyEpoch d.controllerConfigDigest d.binding
  return d

variable (d : Derived D)

/-- What `_derive_operation_id` hashes. -/
def Derived.identity (nonce : String) : AttemptIdentity D where
  toMainBound := d.source.toMainBound
  attemptNonce := nonce
  sourceOperationId := d.source.operationId
  compositionId := d.composition.compositionId
  compositionArtifactDigest := d.composition.digest C
  completionPackageDigest := d.source.digest
  currentMainCommit := d.composition.currentMainCommit
  currentMainTree := d.composition.currentMainTree
  currentMainParentCommit := d.composition.currentMainParentCommit
  originalDeltaDigest := d.composition.originalDeltaDigest
  inverseDeltaDigest := d.composition.inverseDeltaDigest
  inverseDeltaArtifactDigest := d.composition.digest C
  inverseTree := d.composition.inverseTree
  candidateCommit := d.composition.candidateCommit
  candidateTree := d.composition.candidateTree
  candidateParentCommit := d.composition.candidateParentCommit
  policyEpoch := d.policyEpoch
  controllerConfigDigest := d.controllerConfigDigest
  releaseIssuer := d.binding.issuer

/-- `_derive_operation_id`. -/
def Derived.operationId (nonce : String) : D := (d.identity C nonce).operationId C

/-! ## The records -/

section Building
variable (operationId : D) (lease : Lease D) (authorityAt : Instant)

/-- The values of `_build_authorization`. -/
def Derived.authorization : Authorization D where
  toMainBound := d.source.toMainBound
  operationId := operationId
  sourceOperationId := d.source.operationId
  compositionId := d.composition.compositionId
  compositionArtifactDigest := d.composition.digest C
  completionPackageDigest := d.source.digest
  originalDeltaDigest := d.composition.originalDeltaDigest
  currentMainCommit := d.composition.currentMainCommit
  currentMainTree := d.composition.currentMainTree
  currentMainParentCommit := d.composition.currentMainParentCommit
  inverseDeltaDigest := d.composition.inverseDeltaDigest
  inverseDeltaArtifactDigest := d.composition.digest C
  inverseTree := d.composition.inverseTree
  leaseIdentity := lease.owner
  leaseDigest := lease.leaseDigest
  leaseEpochDigest := lease.leaseEpochDigest
  policyEpoch := d.policyEpoch
  controllerConfigDigest := d.controllerConfigDigest
  releaseIssuer := d.binding.issuer
  expiresAt := lease.expiresAt
  authorizedAt := authorityAt

/-- The values of `_build_intent`. -/
def Derived.intent (authorization : Authorization D) : Intent D where
  toMainBound := d.source.toMainBound
  operationId := operationId
  sourceOperationId := d.source.operationId
  compositionId := d.composition.compositionId
  compositionArtifactDigest := d.composition.digest C
  completionPackageDigest := d.source.digest
  originalDeltaDigest := d.composition.originalDeltaDigest
  inverseDeltaDigest := d.composition.inverseDeltaDigest
  inverseDeltaArtifactDigest := d.composition.digest C
  baseCommit := d.composition.currentMainCommit
  baseTree := d.composition.currentMainTree
  currentMainCommit := d.composition.currentMainCommit
  currentMainTree := d.composition.currentMainTree
  currentMainParentCommit := d.composition.currentMainParentCommit
  candidateCommit := d.composition.candidateCommit
  candidateTree := d.composition.candidateTree
  candidateParentCommit := d.composition.candidateParentCommit
  candidateRef := rollbackCandidateRef C operationId
  inverseTree := d.composition.inverseTree
  leaseIdentity := lease.owner
  leaseDigest := lease.leaseDigest
  leaseEpochDigest := lease.leaseEpochDigest
  policyEpoch := d.policyEpoch
  authorizationDigest := authorization.authorizationDigest C
  recordedAt := authorityAt

/-- The values of `_build_attempt`. -/
def Derived.attempt (nonce : String) : Attempt D where
  toAttemptIdentity := d.identity C nonce
  operationId := operationId
  candidateRef := rollbackCandidateRef C operationId

/-- The values of `_build_preparation`. -/
def Derived.preparation (authorization : Authorization D) (intent : Intent D) : Preparation D where
  toMainBound := d.source.toMainBound
  operationId := operationId
  compositionId := d.composition.compositionId
  compositionArtifactDigest := d.composition.digest C
  rollbackAuthorizationDigest := authorization.authorizationDigest C
  rollbackIntentDigest := intent.intentDigest C
  packageDigest := d.source.digest
  compositionDigest := d.composition.digest C
  baseCommit := d.composition.currentMainCommit
  baseTree := d.composition.currentMainTree
  candidateCommit := d.composition.candidateCommit
  candidateTree := d.composition.candidateTree
  candidateRef := rollbackCandidateRef C operationId
  leaseIdentity := lease.owner
  leaseDigest := lease.leaseDigest
  leaseEpochDigest := lease.leaseEpochDigest
  policyEpoch := d.policyEpoch
  authorizedAt := authorityAt

end Building

/-- `_digest_record`: the record, if it passes its validator. -/
def digestRecord {α : Type} (v : α) (valid : Prop) [Decidable valid] : Code D α := do
  Prog.require valid (.value "record does not pass its validator")
  return v

/-! ## Adopting -/

/-- Hand over a conflict of the journal as an exception of the authority. -/
def reconflict (message : String) (p : Code D Unit) : Code D Unit := do
  let result ← p.attempt
  match result with
  | .ok () => return ()
  | .error (.conflict _) => .raise (.authority message)
  | .error e => .raise e

def recordOrAdopt (kind : String) (k : Key D) (v : Rec k) (read : Code D (Option (Rec k))) (check : Rec k → Code D Unit) :
    Code D Unit := do
  Prog.require (Rec.operationId k v = k.operationId) (.authority (kind ++ " operation identity differs"))
  let existing ← read
  match existing with
  | some old => Prog.require (old = v) (.authority ("conflicting durable " ++ kind))
  | none => reconflict ("conflicting durable " ++ kind) (Journal.record k v kind check)

/-! ## The lease -/

def trustedNow : Code D Instant := .port .clock (raising .other)

/-- `assert_lease_evidence` with a request for this lease. -/
def assertLeaseEvidence (request : Lease D) (requestedAt : Instant) : Code D (Lease D) := do
  let result ← Journal.lease request.operationId
  let record ← Prog.ofOption result (.journal "main lease evidence is missing")
  Prog.require (record.leaseDigest = request.leaseDigest ∧ record.toMainBound = request.toMainBound)
    (.conflict "main lease evidence binding differs")
  .port (.assertTargetLease record) orRaise
  Prog.require (record.acquiredAt ≤ requestedAt ∧ requestedAt < record.expiresAt) (.journal "main lease evidence has expired")
  .port (.verifyLease record) orRaise
  return record

/-- Hand over what the journal raises as an exception of the authority. -/
def asAuthority {α : Type} (message : String) (p : Code D α) : Code D α := do
  let result ← p.attempt
  match result with
  | .ok v => return v
  | .error (.journal _) => .raise (.authority message)
  | .error (.conflict _) => .raise (.authority message)
  | .error (.value _) => .raise (.authority message)
  | .error e => .raise e

def durableLease (operationId : D) (supplied : Option (Lease D)) (requireActive : Bool) : Code D (Lease D) := do
  let loaded ← Journal.lease operationId
  let durable ← Prog.ofOption loaded (.authority "fresh rollback lease is not durably recorded")
  Prog.require (durable.operationId = operationId) (.authority "rollback lease target binding differs")
  Prog.require (∀ l ∈ supplied, l = durable) (.authority "caller lease differs from durable rollback lease")
  let requestedAt ← trustedNow
  if requireActive then do
    let checked ← asAuthority "rollback lease is not current target-scoped authority" (assertLeaseEvidence durable requestedAt)
    Prog.require (checked = durable) (.authority "lease verifier returned a different durable record")
    return durable
  else return durable

/-- The lease that the acquirer hands over, or the caller's. -/
def acquireLease (operationId : D) : Code D (Option (Lease D)) :=
  if x.lease = none ∧ A.acquires = true then
    .port (.acquire operationId d.source.toMainBound) fun
      | .returned l => .done (some l)
      | .raised _ => .raise (.authority "rollback lease acquisition was not durably confirmed")
  else .done x.lease

def revalidateAfterLease : Code D Unit := do
  Prog.require (A.reads = true) (.authority "current rollback authority reader is required before first intent")
  let answer ← .port .currentAuthority .done
  match answer with
  | .raised _ => .raise (.authority "current rollback authority could not be revalidated")
  | .returned current => do
    Prog.require (current.currentMainCommit = d.composition.currentMainCommit ∧
        current.currentMainTree = d.composition.currentMainTree ∧
        current.currentMainParentCommit = d.composition.currentMainParentCommit ∧ current.policyEpoch = d.policyEpoch ∧
        current.controllerConfigDigest = d.controllerConfigDigest ∧ current.releaseIssuerBinding = d.binding)
      (.authority "current rollback protected-main authority drifted after lease")
    validateCurrentAuthority d.source current.policyEpoch current.controllerConfigDigest current.releaseIssuerBinding

/-- A first run: the lease must be current, and the controller must still see what the
composition was made for. -/
def firstLease (operationId : D) : Code D (Lease D × Instant) := do
  let supplied ← acquireLease A x d operationId
  let lease ← durableLease operationId supplied true
  let now ← trustedNow
  Prog.require (lease.acquiredAt ≤ now ∧ now < lease.expiresAt) (.authority "rollback lease is expired or not yet active")
  revalidateAfterLease A d
  return (lease, now)

/-- A run that finds an intent: the lease only has to be the durable one. -/
def adoptedLease (operationId : D) : Code D (Lease D × Instant) := do
  let lease ← durableLease operationId x.lease false
  let now ← trustedNow
  return (lease, now)

def takeLease (priorIntent : Option (Intent D)) (operationId : D) : Code D (Lease D × Instant) :=
  if priorIntent = none then firstLease A x d operationId else adoptedLease x operationId

/-! ## The call -/

def recordAll (operationId : D) (lease : Lease D) (authorityAt : Instant) : Code D (Result D) := do
  let authorization ← digestRecord (d.authorization C operationId lease authorityAt)
    (d.authorization C operationId lease authorityAt).Valid
  let intent ← digestRecord (d.intent C operationId lease authorityAt authorization)
    ((d.intent C operationId lease authorityAt authorization).Valid C)
  recordOrAdopt "rollback-intent" (.intent operationId) intent (Journal.readIntent C operationId)
    (Journal.requireCompositionIntent C)
  recordOrAdopt "rollback-authorization" (.authorization operationId) authorization
    (Journal.readAuthorization C A.journal operationId) (Journal.requireIntent C A.journal)
  Prog.require ((d.identity C x.attemptNonce).operationId C = operationId)
    (.authority "rollback attempt identity derivation drift")
  let attempt ← digestRecord (d.attempt C operationId x.attemptNonce) ((d.attempt C operationId x.attemptNonce).Valid C)
  recordOrAdopt "rollback-attempt-authority" (.attempt operationId) attempt
    (Journal.readAttempt C A.journal operationId) (Journal.requireAttempt C A.journal)
  let preparation ← digestRecord (d.preparation C operationId lease authorityAt authorization intent)
    (PreparationValid C (d.preparation C operationId lease authorityAt authorization intent))
  recordOrAdopt "rollback-preparation-authorization" (.preparation operationId) preparation
    (Journal.readPreparation C A.journal operationId) (Journal.requirePreparation C A.journal)
  let loaded ← Journal.lease operationId
  let durable ← Prog.ofOption loaded (.authority "rollback lease disappeared during preparation")
  return ⟨operationId, durable, d.composition, authorization, intent, attempt, preparation⟩

/-- The time of the records: that of the durable authorization, or of the durable
intent, or this one. -/
def authorityTime (priorIntent : Option (Intent D)) (priorAuth : Option (Authorization D)) (now : Instant) : Instant :=
  match priorAuth, priorIntent with
  | some a, _ => a.authorizedAt
  | none, some i => i.recordedAt
  | none, none => now

def prepareOpen : Code D (Result D) := do
  let d ← derive C A x
  let operationId := d.operationId C x.attemptNonce
  let priorIntent ← Journal.readIntent C operationId
  let priorAuth ← Journal.readAuthorization C A.journal operationId
  let (lease, now) ← takeLease A x d priorIntent operationId
  recordAll C A x d operationId lease (authorityTime priorIntent priorAuth now)

/-- `prepare`: what the journal and the validators raise is handed over as one exception. -/
def prepare : Code D (Result D) := asAuthority "rollback authority preparation failed closed" (prepareOpen C A x)

end AvoCorrelate.RollbackAuthority
