import AvoCorrelate.Promotion.Records
/-!
# Records of the rollback drill

Case 7 of the integration drill: a failed soak, the authorization to roll back,
the rollback intent and receipt, and the case result that closes it. An artifact
reference is the digest of the record it points to.
-/
namespace AvoCorrelate.Promotion

open ExactCas (Sha256Digest GitObject)

variable (C : Canon)

/-- `validate_binding`. -/
def DrillBinding.Valid (b : DrillBinding) : Prop :=
  (∀ x ∈ [b.mainBeforeCommit, b.mainAfterCommit, b.targetHeadCommit, b.targetHeadTree] ++ b.targetParents,
    C.gitObject x = true) ∧
    b.targetParents.length ≤ 2 ∧ b.targetRef = "refs/heads/integration" ∧ b.mainBeforeCommit = b.mainAfterCommit

instance (b : DrillBinding) : Decidable (b.Valid C) := inferInstanceAs (Decidable (_ ∧ _))

def RollbackTopology.objects (t : RollbackTopology) : List GitObject :=
  [t.failedIntegrationHeadCommit, t.failedIntegrationHeadTree, t.restoreToCommit, t.restoreToTree,
    t.rollbackCandidateCommit, t.rollbackCandidateParentCommit]

/-! ## The soak -/

def SoakBody.Valid (b : SoakBody) : Prop :=
  b.toDrillBinding.Valid C ∧ (∀ e ∈ b.error, nonEmpty e = true) ∧ (b.outcome ≠ .passed → b.error.isSome = true) ∧
    (b.outcome ≠ .passed → b.targetParents = [])

instance (b : SoakBody) : Decidable (b.Valid C) := inferInstanceAs (Decidable (_ ∧ _))

structure Soak extends SoakBody where
  valid : toSoakBody.Valid C
  deriving DecidableEq

variable {C} in
def Soak.observationId (s : Soak C) : Sha256Digest := C.digest (.soak s.toSoakBody)

/-! ## The authorization -/

def RollbackAuthorizationBody.Valid (b : RollbackAuthorizationBody) : Prop :=
  b.toDrillBinding.Valid C ∧ (∀ x ∈ b.toRollbackTopology.objects, C.gitObject x = true) ∧ b.authorized = true ∧
    (b.targetHeadCommit = b.failedIntegrationHeadCommit ∧ b.targetHeadTree = b.failedIntegrationHeadTree) ∧
    b.rollbackCandidateParentCommit = b.failedIntegrationHeadCommit ∧
    (b.rollbackCandidateCommit ≠ b.failedIntegrationHeadCommit ∧ b.rollbackCandidateCommit ≠ b.restoreToCommit) ∧
    nonEmpty b.issuer = true ∧ nonEmpty b.reason = true

instance (b : RollbackAuthorizationBody) : Decidable (b.Valid C) := inferInstanceAs (Decidable (_ ∧ _))

/-- The contract does not tie `authorization_id` to the other fields. -/
structure RollbackAuthorization extends RollbackAuthorizationBody where
  authorizationId : Sha256Digest
  valid : toRollbackAuthorizationBody.Valid C
  deriving DecidableEq

def rollbackAuthorizationDigest (b : RollbackAuthorizationBody) : Sha256Digest := C.digest (.rollbackAuthorization b)

/-! ## The intent and the receipt -/

def RollbackIntentBody.Valid (b : RollbackIntentBody) : Prop :=
  b.toDrillBinding.Valid C ∧ (∀ x ∈ b.toRollbackTopology.objects, C.gitObject x = true) ∧ b.authorized = true ∧
    (b.targetHeadCommit = b.failedIntegrationHeadCommit ∧ b.targetHeadTree = b.failedIntegrationHeadTree) ∧
    b.rollbackCandidateParentCommit = b.failedIntegrationHeadCommit ∧
    nonEmpty b.attesterIdentity = true ∧ nonEmpty b.reason = true

instance (b : RollbackIntentBody) : Decidable (b.Valid C) := inferInstanceAs (Decidable (_ ∧ _))

structure RollbackIntent extends RollbackIntentBody where
  valid : toRollbackIntentBody.Valid C
  deriving DecidableEq

variable {C} in
def RollbackIntent.intentDigest (i : RollbackIntent C) : Sha256Digest := C.digest (.rollbackIntent i.toRollbackIntentBody)

variable {C} in
def RollbackIntent.build (b : RollbackIntentBody) : Option (RollbackIntent C) :=
  if h : b.Valid C then some ⟨b, h⟩ else none

/-- `outcome in {"applied", "already_applied"}`. -/
def RollbackOutcome.success : RollbackOutcome → Bool
  | .applied | .alreadyApplied => true
  | _ => false

/-- `validate_receipt`. -/
def RollbackReceiptBody.Valid (b : RollbackReceiptBody) : Prop :=
  b.toDrillBinding.Valid C ∧ (∀ x ∈ b.toRollbackTopology.objects, C.gitObject x = true) ∧
    (b.targetHeadCommit ≠ b.failedIntegrationHeadCommit → b.outcome.success = true) ∧
    (b.outcome.success = true → (∀ x ∈ b.resultCommit.toList ++ b.resultTree.toList, C.gitObject x = true) ∧
      b.resultCommit.isSome = true ∧ b.resultTree = some b.restoreToTree ∧ b.targetHeadTree = b.restoreToTree ∧
      b.targetParents = [b.failedIntegrationHeadCommit] ∧
      b.rollbackCandidateParentCommit = b.failedIntegrationHeadCommit) ∧
    (b.outcome.success = false → b.error.isSome = true) ∧ (∀ e ∈ b.error, nonEmpty e = true) ∧
    nonEmpty b.attesterIdentity = true

instance (b : RollbackReceiptBody) : Decidable (b.Valid C) := inferInstanceAs (Decidable (_ ∧ _))

structure RollbackReceipt extends RollbackReceiptBody where
  valid : toRollbackReceiptBody.Valid C
  deriving DecidableEq

variable {C} in
def RollbackReceipt.receiptDigest (r : RollbackReceipt C) : Sha256Digest :=
  C.digest (.rollbackReceipt r.toRollbackReceiptBody)

variable {C} in
def RollbackReceipt.build (b : RollbackReceiptBody) : Option (RollbackReceipt C) :=
  if h : b.Valid C then some ⟨b, h⟩ else none

/-! ## The case -/

inductive CaseOutcome
  | passed | failed | rejected | applied | alreadyApplied | reconciliationRequired
  deriving DecidableEq

def CaseOutcome.success : CaseOutcome → Bool
  | .applied | .alreadyApplied => true
  | _ => false

structure CaseBody extends DrillBinding where
  caseId : Nat
  operationId : Sha256Digest
  outcome : CaseOutcome
  attesterIdentity : String
  evidenceArtifacts : List Sha256Digest
  soakObservation : Option Sha256Digest
  rollbackIntent : Option Sha256Digest
  rollbackReceipt : Option Sha256Digest
  error : Option String
  deriving DecidableEq

/-- `validate_case`. -/
def CaseBody.Valid (b : CaseBody) : Prop :=
  b.toDrillBinding.Valid C ∧ (1 ≤ b.caseId ∧ b.caseId ≤ 8) ∧
    (b.outcome = .passed ∨ b.outcome.success = true → b.evidenceArtifacts ≠ []) ∧
    (b.outcome = .failed ∨ b.outcome = .rejected ∨ b.outcome = .reconciliationRequired → b.error.isSome = true) ∧
    b.evidenceArtifacts.Nodup ∧ (∀ e ∈ b.error, nonEmpty e = true) ∧ nonEmpty b.attesterIdentity = true

instance (b : CaseBody) : Decidable (b.Valid C) := inferInstanceAs (Decidable (_ ∧ _))

/-- `IntegrationDrillCaseResult`. -/
structure CaseResult extends CaseBody where
  valid : toCaseBody.Valid C
  deriving DecidableEq

variable {C} in
def CaseResult.build (b : CaseBody) : Option (CaseResult C) := if h : b.Valid C then some ⟨b, h⟩ else none

/-- `IntegrationRollbackRequest`. -/
structure RollbackRequest extends RollbackTopology where
  operationId : Sha256Digest
  promotionOperationId : Sha256Digest
  repositoryDigest : Sha256Digest
  targetRef : String
  mainBeforeCommit : GitObject
  deriving DecidableEq

end AvoCorrelate.Promotion
