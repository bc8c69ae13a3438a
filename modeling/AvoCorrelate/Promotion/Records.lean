import AvoCorrelate.Promotion.Documents
import Mathlib.Tactic.MkIffOfInductiveProp
/-!
# Promotion records

A record is its fields with what its validator checked; where the validator makes
a digest field the digest of the other fields, the digest is a function of them.
The provider's reports are records as well: the adapter validates them before it
hands them over.
-/
namespace AvoCorrelate.Promotion

open ExactCas (Sha256Digest GitObject)

variable (C : Canon)

/-! ## The lease -/

def leaseKey (repositoryDigest : Sha256Digest) (targetRef : String) : Sha256Digest :=
  C.digest (.leaseKey repositoryDigest targetRef)

def Lease.digest (l : Lease) : Sha256Digest := C.digest (.lease l)

def Lease.key (l : Lease) : Sha256Digest := leaseKey C l.repositoryDigest l.targetRef

/-- `validate_evidence`. -/
def Lease.Evident (l : Lease) : Prop :=
  nonEmpty l.identity = true ∧ C.ref l.targetRef = true ∧ l.acquiredAt < l.expiresAt

instance (l : Lease) : Decidable (l.Evident C) := inferInstanceAs (Decidable (_ ∧ _))

/-- `PromotionLeaseEvidence`: the payload of a lease, on record for good. -/
structure LeaseEvidence extends Lease where
  valid : toLease.Evident C
  deriving DecidableEq

/-! ## The intent -/

/-- `validate_bindings`. -/
structure IntentBody.Valid (b : IntentBody) : Prop where
  objects : ∀ x ∈ [b.baseCommit, b.baseTree, b.candidateCommit, b.candidateTree, b.candidateHeadCommit,
    b.candidateHeadTree, b.targetBaseCommit, b.targetBaseTree, b.syntheticMergeCommit, b.syntheticMergeTree] ++
    b.expectedMainCommit.toList, C.gitObject x = true
  refs : ∀ x ∈ [b.candidateRef, b.targetRef, b.candidateHeadRef, b.targetBaseRef], C.ref x = true
  distinct : b.candidateRef ≠ b.targetRef ∧ C.casefold b.candidateRef ≠ C.casefold b.targetRef
  base : b.baseCommit = b.targetBaseCommit ∧ b.baseTree = b.targetBaseTree
  candidate : b.candidateCommit = b.candidateHeadCommit ∧ b.candidateTree = b.candidateHeadTree
  synthetic : b.syntheticMergeTree = b.candidateTree
  repositories : b.candidateRepositoryDigest = b.repositoryDigest ∧ b.targetRepositoryDigest = b.repositoryDigest
  heads : b.candidateHeadRef = b.candidateRef ∧ b.targetBaseRef = b.targetRef
  pullRequest : 0 < b.pullRequestNumber ∧ b.pullRequestUrl.startsWith "https://" = true
  identity : b.operationId = C.digest (.promotionIdentity b.toPromotionIdentity)

structure Intent extends IntentBody where
  valid : toIntentBody.Valid C

instance : DecidableEq (Intent C) := fun i j =>
  decidable_of_iff (i.toIntentBody = j.toIntentBody) ⟨fun h => by cases i; cases j; cases h; rfl, fun h => h ▸ rfl⟩

variable {C}

/-- `canonical_digest(intent)`. -/
def Intent.digest (i : Intent C) : Sha256Digest := C.digest (.intent i.toIntentBody)

/-! ## The receipt -/

variable (C)

/-- `validate_observation`. -/
@[mk_iff]
structure ReceiptBody.Valid (b : ReceiptBody) : Prop where
  -- no receipt has the outcome `ready`
  known : b.outcome ≠ .ready
  refs : C.ref b.observedTargetRef = true ∧ C.ref b.expectedTargetRef = true
  objects : ∀ x ∈ [b.observedBaseCommit, b.expectedCandidateCommit, b.expectedCandidateTree, b.expectedBaseCommit] ++
    b.expectedMainCommit.toList ++ b.observedHeadCommit.toList ++ b.observedHeadTree.toList ++
    b.appliedResultCommit.toList ++ b.appliedResultTree.toList ++ b.appliedResultParentCommit.toList,
    C.gitObject x = true
  head : b.outcome.success = (b.observedHeadCommit.isSome && b.observedHeadTree.isSome)
  bound : b.outcome.success = true → b.observedTargetRef = b.expectedTargetRef ∧
    b.observedHeadTree = some b.expectedCandidateTree ∧
    b.observedProtectionEvidenceDigest = b.expectedProtectionEvidenceDigest ∧
    b.observedProviderIdentity = b.expectedProviderIdentity ∧
    b.observedProviderApiVersion = b.expectedProviderApiVersion
  result : b.outcome.success =
    (b.appliedResultCommit.isSome && b.appliedResultTree.isSome && b.appliedResultParentCommit.isSome)
  merged : b.outcome.success = true → b.appliedResultCommit ≠ some b.expectedCandidateCommit ∧
    b.appliedResultTree = some b.expectedCandidateTree ∧ b.appliedResultParentCommit = some b.expectedBaseCommit ∧
    b.appliedResultCommit = b.observedHeadCommit ∧ b.appliedResultTree = b.observedHeadTree
  texts : ∀ e ∈ b.error, nonEmpty e = true
  explained : b.outcome = .reconciliationRequired ∨ b.outcome = .invalid → b.error.isSome = true

instance (b : ReceiptBody) : Decidable (b.Valid C) := decidable_of_iff _ (ReceiptBody.valid_iff C b).symm

structure Receipt extends ReceiptBody where
  valid : toReceiptBody.Valid C

instance : DecidableEq (Receipt C) := fun r s =>
  decidable_of_iff (r.toReceiptBody = s.toReceiptBody) ⟨fun h => by cases r; cases s; cases h; rfl, fun h => h ▸ rfl⟩

variable {C}

def Receipt.digest (r : Receipt C) : Sha256Digest := C.digest (.receipt r.toReceiptBody)

/-- The receipt with these fields, when its validator accepts them. -/
def Receipt.build (b : ReceiptBody) : Option (Receipt C) := if h : b.Valid C then some ⟨b, h⟩ else none

theorem Receipt.build_eq {b : ReceiptBody} {r : Receipt C} (h : Receipt.build b = some r) : r.toReceiptBody = b := by
  unfold Receipt.build at h
  split at h
  · cases h; rfl
  · cases h

/-! ## The provider's reports -/

variable (C)

/-- `validate_reconciliation`. -/
structure ReconciliationBody.Valid (b : ReconciliationBody) : Prop where
  objects : ∀ x ∈ [b.targetHeadCommit, b.targetHeadTree, b.targetFirstParent] ++ b.mergeCommit.toList ++ b.targetParents,
    C.gitObject x = true
  ref : C.ref b.targetRef = true
  firstParent : ∀ p ∈ b.targetParents.head?, p = b.targetFirstParent
  soleParent : b.merged = true → b.targetParents = [b.targetFirstParent]
  url : b.pullRequestUrl.startsWith "https://" = true
  mergeCommit : b.merged = b.mergeCommit.isSome
  state : b.isOpen = !b.merged

structure Reconciliation extends ReconciliationBody where
  valid : toReconciliationBody.Valid C

variable {C}

/-- `canonical_digest(reconciliation)`. -/
def Reconciliation.digest (r : Reconciliation C) : Sha256Digest := C.digest (.reconciliation r.toReconciliationBody)

/-- A pull request as the provider shows it before the merge; an observation is
of an open pull request that is no draft. -/
structure Observation where
  repositoryDigest : Sha256Digest
  pullRequestNumber : Nat
  pullRequestUrl : String
  candidateRepositoryDigest : Sha256Digest
  targetRepositoryDigest : Sha256Digest
  baseRef : String
  baseCommit : GitObject
  baseTree : GitObject
  headRef : String
  headCommit : GitObject
  candidateTree : GitObject
  syntheticMergeCommit : GitObject
  syntheticMergeTree : GitObject
  protectionEvidenceDigest : Sha256Digest
  checkEvidenceManifestDigest : Sha256Digest
  providerIdentity : String
  providerApiVersion : String
  deriving DecidableEq

/-- The head of the integration ref (`IntegrationTargetObservation`). -/
structure TargetObservation where
  commit : GitObject
  tree : GitObject
  firstParentCommit : GitObject
  protectionEvidenceDigest : Sha256Digest
  deriving DecidableEq

inductive MergeOutcome
  | applied | rejected | ambiguous
  deriving DecidableEq

structure MergeResult where
  outcome : MergeOutcome
  resultCommit : Option GitObject
  resultTree : Option GitObject
  firstParentCommit : Option GitObject
  mainProtectionEvidenceDigest : Option Sha256Digest
  error : Option String
  deriving DecidableEq

/-- `validate_result`. -/
def MergeResult.Valid (C : Canon) (m : MergeResult) : Prop :=
  (∀ x ∈ m.resultCommit.toList ++ m.resultTree.toList ++ m.firstParentCommit.toList, C.gitObject x = true) ∧
    (m.outcome = .applied → m.resultCommit.isSome = true ∧ m.resultTree.isSome = true ∧ m.firstParentCommit.isSome = true) ∧
    (m.outcome ≠ .applied → m.resultCommit = none ∧ m.resultTree = none ∧ m.firstParentCommit = none) ∧
    (∀ e ∈ m.error, nonEmpty e = true) ∧ (m.outcome ≠ .applied → m.error.isSome = true)

instance (m : MergeResult) : Decidable (m.Valid C) := inferInstanceAs (Decidable (_ ∧ _))

/-! ## The inputs of a promotion -/

/-- `CandidatePublicationBinding`; its validator takes only verified ones. -/
structure Publication where
  repositoryDigest : Sha256Digest
  baseCommit : GitObject
  baseTree : GitObject
  candidateDigest : Sha256Digest
  candidateRef : String
  candidateCommit : GitObject
  candidateTree : GitObject
  controllerPublisherIdentity : String
  publicationEvidenceDigest : Sha256Digest
  deriving DecidableEq

/-- The fields of a promotion bundle that a promotion reads. -/
structure Bundle where
  repositoryDigest : Sha256Digest
  targetRef : String
  commit : GitObject
  tree : GitObject
  protectionEvidenceDigest : Sha256Digest
  candidateDigest : Sha256Digest
  controllerConfigDigest : Sha256Digest
  evidenceManifestDigest : Sha256Digest
  sourceProvenanceDigest : Sha256Digest
  hasRollbackAuthorization : Bool
  controllerIdentity : String
  evidenceDigests : List Sha256Digest
  deriving DecidableEq

inductive ReplayOutcome
  | wouldApply | notApplicable | staleBase | invalidBundle
  deriving DecidableEq

/-- `PromotionReplayReport`. -/
structure ReplayReport where
  outcome : ReplayOutcome
  checks : List String
  errors : List String
  deriving DecidableEq

structure Report where
  operationId : Sha256Digest
  outcome : Outcome
  intentDigest : Option Sha256Digest
  receiptDigest : Option Sha256Digest
  checks : List String
  errors : List String
  deriving DecidableEq

end AvoCorrelate.Promotion
