import AvoCorrelate.MainRollback.Records
/-!
# Records of a rollback authority

Before a rollback may dispatch anything, its authority is made durable: an intent, an
authorization, the manifest of the attempt and a preparation authorization. Each record
is named by the digest of its other fields, which the validator computes again.
-/
namespace AvoCorrelate.RollbackAuthority

open ExactCas (GitObject)
open Graduation (MainBound Issuer)
open MainRollback (Preparation)

variable {D : Type}

/-- `MainReleaseIssuerBinding`, less the digest of these fields. -/
structure IssuerBinding (D : Type) extends MainBound D where
  operationId : D
  controllerConfigDigest : D
  issuer : Issuer D
  trustedSourceIssuer : String
  deriving DecidableEq

/-- `state` of a reconciliation. -/
inductive ReconciliationState
  | pending
  | completed
  | failed
  | reconciliationRequired
  deriving DecidableEq

/-- What is read of the source's `MainCompletionPackage`; `digest` is that of the whole package. -/
structure Source (D : Type) extends MainBound D where
  operationId : D
  digest : D
  state : ReconciliationState
  mainCommit : GitObject
  mainTree : GitObject
  mainParents : List GitObject
  baseCommit : GitObject
  baseTree : GitObject
  deltaDigest : D
  changedPaths : List String
  policyEpoch : D
  binding : IssuerBinding D
  -- of its release authorization
  releaseIssuer : Issuer D

/-- `MainRollbackCompositionArtifact`. -/
structure Composition (D : Type) extends MainBound D where
  compositionId : D
  sourceOperationId : D
  completionPackageDigest : D
  originalDeltaDigest : D
  currentMainCommit : GitObject
  currentMainTree : GitObject
  currentMainParentCommit : GitObject
  inverseChangedPaths : List String
  inverseTree : GitObject
  inverseDeltaDigest : D
  policyEpoch : D
  candidateCommit : GitObject
  candidateTree : GitObject
  candidateParentCommit : GitObject
  retentionRef : String
  deriving DecidableEq

/-- An artifact reference: what it names, and when it was made. -/
structure Ref (D : Type) where
  digest : D
  createdAt : Instant
  deriving DecidableEq

/-- `MainRollbackCompositionResult`: a verified composition, as the caller holds it. -/
structure CompositionResult (D : Type) where
  compositionId : D
  sourceOperationId : D
  composition : Composition D
  artifact : Ref D

/-- `MainLeaseEvidenceRecord`, less the digest of these fields. -/
structure Lease (D : Type) extends MainBound D where
  operationId : D
  owner : String
  policyEpoch : D
  leaseEpochDigest : D
  acquiredAt : Instant
  expiresAt : Instant
  leaseDigest : D
  deriving DecidableEq

/-- `MainRollbackAuthorization`, less `authorization_digest`. -/
structure Authorization (D : Type) extends MainBound D where
  operationId : D
  sourceOperationId : D
  compositionId : D
  compositionArtifactDigest : D
  completionPackageDigest : D
  originalDeltaDigest : D
  currentMainCommit : GitObject
  currentMainTree : GitObject
  currentMainParentCommit : GitObject
  inverseDeltaDigest : D
  inverseDeltaArtifactDigest : D
  inverseTree : GitObject
  leaseIdentity : String
  leaseDigest : D
  leaseEpochDigest : D
  policyEpoch : D
  controllerConfigDigest : D
  releaseIssuer : Issuer D
  expiresAt : Instant
  authorizedAt : Instant
  deriving DecidableEq

/-- `MainRollbackIntent`, less `intent_digest`. -/
structure Intent (D : Type) extends MainBound D where
  operationId : D
  sourceOperationId : D
  compositionId : D
  compositionArtifactDigest : D
  completionPackageDigest : D
  originalDeltaDigest : D
  inverseDeltaDigest : D
  inverseDeltaArtifactDigest : D
  baseCommit : GitObject
  baseTree : GitObject
  currentMainCommit : GitObject
  currentMainTree : GitObject
  currentMainParentCommit : GitObject
  candidateCommit : GitObject
  candidateTree : GitObject
  candidateParentCommit : GitObject
  candidateRef : String
  inverseTree : GitObject
  leaseIdentity : String
  leaseDigest : D
  leaseEpochDigest : D
  policyEpoch : D
  authorizationDigest : D
  recordedAt : Instant
  deriving DecidableEq

structure AttemptIdentity (D : Type) extends MainBound D where
  attemptNonce : String
  sourceOperationId : D
  compositionId : D
  compositionArtifactDigest : D
  completionPackageDigest : D
  currentMainCommit : GitObject
  currentMainTree : GitObject
  currentMainParentCommit : GitObject
  originalDeltaDigest : D
  inverseDeltaDigest : D
  inverseDeltaArtifactDigest : D
  inverseTree : GitObject
  candidateCommit : GitObject
  candidateTree : GitObject
  candidateParentCommit : GitObject
  policyEpoch : D
  controllerConfigDigest : D
  releaseIssuer : Issuer D
  deriving DecidableEq

/-- `MainRollbackAttemptAuthority`, less `manifest_digest`. -/
structure Attempt (D : Type) extends AttemptIdentity D where
  operationId : D
  candidateRef : String
  deriving DecidableEq

/-- `MainRollbackCurrentAuthority`. -/
structure CurrentAuthority (D : Type) where
  currentMainCommit : GitObject
  currentMainTree : GitObject
  currentMainParentCommit : GitObject
  policyEpoch : D
  controllerConfigDigest : D
  releaseIssuerBinding : IssuerBinding D

/-- Documents that are hashed. -/
inductive Doc (D : Type)
  | composition (c : Composition D)
  | authorization (a : Authorization D)
  | intent (i : Intent D)
  | attempt (identity : AttemptIdentity D)

/-- `canonical_digest`, and the text of a digest after its prefix. -/
structure Canon (D : Type) where
  hash : Doc D → D
  hex : D → String

variable [DecidableEq D] (C : Canon D)

def Composition.digest (c : Composition D) : D := C.hash (.composition c)

def Authorization.authorizationDigest (a : Authorization D) : D := C.hash (.authorization a)

def Intent.intentDigest (i : Intent D) : D := C.hash (.intent i)

/-- `main_rollback_operation_id`. -/
def AttemptIdentity.operationId (a : AttemptIdentity D) : D := C.hash (.attempt a)

/-- `_main_rollback_candidate_ref`. -/
def rollbackCandidateRef (operationId : D) : String := "refs/heads/avo/main-rollback/" ++ C.hex operationId

def validationApp : Nat := 15368

/-- `validate_rollback_authorization`. -/
def Authorization.Valid (a : Authorization D) : Prop :=
  a.sourceOperationId ≠ a.operationId ∧ a.authorizedAt < a.expiresAt ∧ a.releaseIssuer.appId ≠ validationApp

instance (a : Authorization D) : Decidable a.Valid := by unfold Authorization.Valid; infer_instance

/-- `validate_rollback_intent`. -/
def Intent.Valid (i : Intent D) : Prop :=
  i.sourceOperationId ≠ i.operationId ∧ i.baseCommit = i.currentMainCommit ∧ i.baseTree = i.currentMainTree ∧
    i.candidateParentCommit = i.baseCommit ∧ i.candidateCommit ≠ i.candidateParentCommit ∧ i.candidateTree = i.inverseTree ∧
    i.candidateRef = rollbackCandidateRef C i.operationId

instance (i : Intent D) : Decidable (i.Valid C) := by unfold Intent.Valid; infer_instance

/-- `validate_attempt_authority`. -/
def Attempt.Valid (a : Attempt D) : Prop :=
  a.sourceOperationId ≠ a.operationId ∧ a.candidateParentCommit = a.currentMainCommit ∧
    a.candidateCommit ≠ a.currentMainCommit ∧ a.candidateTree = a.inverseTree ∧ a.candidateRef = rollbackCandidateRef C a.operationId ∧
    a.releaseIssuer.appId ≠ validationApp ∧ a.operationId = a.toAttemptIdentity.operationId C

instance (a : Attempt D) : Decidable (a.Valid C) := by unfold Attempt.Valid; infer_instance

/-- `validate_authorization` of a rollback preparation. -/
def PreparationValid (p : Preparation D) : Prop :=
  p.candidateRef = rollbackCandidateRef C p.operationId ∧ p.candidateCommit ≠ p.baseCommit ∧ p.candidateTree ≠ p.baseTree

instance (p : Preparation D) : Decidable (PreparationValid C p) := by unfold PreparationValid; infer_instance

end AvoCorrelate.RollbackAuthority
