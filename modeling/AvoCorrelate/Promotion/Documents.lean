import AvoCorrelate.ExactCas.Records
/-!
# Documents of integration promotion

The fields of the records around one squash merge into the protected integration
ref: lease, intent, mutation authorization and receipt, what the provider
reports, and the drill records of a rollback that goes through the same merge.

`Canon` is what the contracts rest on: `canonical_digest` as a function of the
document it hashes, and the text rules of `_git_object`, `_ref` and `casefold`.
Nothing is assumed of them. Literal fields are left out.
-/
namespace AvoCorrelate.Promotion

open ExactCas (Sha256Digest GitObject)

/-! ## Promotion -/

/-- The payload of a lease; its digest is the digest of the payload. -/
structure Lease where
  operationId : Sha256Digest
  repositoryDigest : Sha256Digest
  targetRef : String
  identity : String
  acquiredAt : Instant
  expiresAt : Instant
  deriving DecidableEq

/-- The fields of the intent that its operation id is the digest of. -/
structure PromotionIdentity where
  repositoryDigest : Sha256Digest
  pullRequestNumber : Nat
  candidateRef : String
  targetRef : String
  baseCommit : GitObject
  candidateCommit : GitObject
  candidateHeadCommit : GitObject
  targetBaseCommit : GitObject
  syntheticMergeCommit : GitObject
  bundleDigest : Sha256Digest
  candidateDigest : Sha256Digest
  publicationEvidenceDigest : Sha256Digest
  providerIdentity : String
  providerApiVersion : String
  expectedMainCommit : Option GitObject
  deriving DecidableEq

structure IntentBody extends PromotionIdentity where
  operationId : Sha256Digest
  controllerLeaseDigest : Sha256Digest
  controllerLeaseIdentity : String
  baseTree : GitObject
  candidateTree : GitObject
  candidateRepositoryDigest : Sha256Digest
  candidateHeadRef : String
  candidateHeadTree : GitObject
  targetRepositoryDigest : Sha256Digest
  targetBaseRef : String
  targetBaseTree : GitObject
  syntheticMergeTree : GitObject
  controllerConfigDigest : Sha256Digest
  protectionEvidenceDigest : Sha256Digest
  evidenceManifestDigest : Sha256Digest
  checkEvidenceManifestDigest : Sha256Digest
  pullRequestUrl : String
  deriving DecidableEq

structure MutationAuthorization where
  operationId : Sha256Digest
  intentDigest : Sha256Digest
  leaseIdentity : String
  leaseDigest : Sha256Digest
  authorizedAt : Instant
  deriving DecidableEq

/-- The outcomes of receipts and reports. -/
inductive Outcome
  | ready | intentRecorded | applied | alreadyApplied | staleBase | notApplicable | invalid | reconciliationRequired
  deriving DecidableEq

def Outcome.value : Outcome → String
  | .ready => "ready"
  | .intentRecorded => "intent_recorded"
  | .applied => "applied"
  | .alreadyApplied => "already_applied"
  | .staleBase => "stale_base"
  | .notApplicable => "not_applicable"
  | .invalid => "invalid"
  | .reconciliationRequired => "reconciliation_required"

/-- `outcome in {"applied", "already_applied"}`. -/
def Outcome.success : Outcome → Bool
  | .applied | .alreadyApplied => true
  | _ => false

structure ReceiptBody where
  operationId : Sha256Digest
  intentDigest : Sha256Digest
  bundleDigest : Sha256Digest
  expectedTargetRef : String
  expectedCandidateCommit : GitObject
  expectedCandidateTree : GitObject
  expectedBaseCommit : GitObject
  expectedProtectionEvidenceDigest : Sha256Digest
  mainProtectionEvidenceDigest : Option Sha256Digest
  expectedProviderIdentity : String
  expectedProviderApiVersion : String
  expectedMainCommit : Option GitObject
  appliedResultCommit : Option GitObject
  appliedResultTree : Option GitObject
  appliedResultParentCommit : Option GitObject
  outcome : Outcome
  observedTargetRef : String
  observedBaseCommit : GitObject
  observedHeadCommit : Option GitObject
  observedHeadTree : Option GitObject
  observedProtectionEvidenceDigest : Sha256Digest
  observedProviderIdentity : String
  observedProviderApiVersion : String
  observationDigest : Sha256Digest
  error : Option String
  deriving DecidableEq

/-- What the provider reports of a pull request and of its target afterwards. -/
structure ReconciliationBody where
  repositoryDigest : Sha256Digest
  pullRequestNumber : Nat
  pullRequestUrl : String
  providerIdentity : String
  providerApiVersion : String
  isOpen : Bool
  merged : Bool
  mergeCommit : Option GitObject
  targetRef : String
  targetHeadCommit : GitObject
  targetHeadTree : GitObject
  targetFirstParent : GitObject
  targetParents : List GitObject
  protectionEvidenceDigest : Sha256Digest
  deriving DecidableEq

/-! ## The rollback drill -/

/-- `DrillEvidenceBinding`. -/
structure DrillBinding where
  repositoryDigest : Sha256Digest
  targetRef : String
  mainBeforeCommit : GitObject
  mainAfterCommit : GitObject
  targetHeadCommit : GitObject
  targetHeadTree : GitObject
  targetParents : List GitObject
  deriving DecidableEq

/-- What is to be restored, and by which candidate. -/
structure RollbackTopology where
  failedIntegrationHeadCommit : GitObject
  failedIntegrationHeadTree : GitObject
  restoreToCommit : GitObject
  restoreToTree : GitObject
  rollbackCandidateCommit : GitObject
  rollbackCandidateParentCommit : GitObject
  deriving DecidableEq

inductive SoakOutcome
  | passed | failed | timeout | partialSuccess
  deriving DecidableEq

structure SoakBody extends DrillBinding where
  operationId : Sha256Digest
  outcome : SoakOutcome
  error : Option String
  deriving DecidableEq

structure RollbackAuthorizationBody extends DrillBinding, RollbackTopology where
  operationId : Sha256Digest
  prepublicationAuthorizationId : Option Sha256Digest
  failedSoakAttestationId : Option Sha256Digest
  issuer : String
  reason : String
  authorized : Bool
  deriving DecidableEq

structure RollbackIntentBody extends DrillBinding, RollbackTopology where
  operationId : Sha256Digest
  promotionOperationId : Sha256Digest
  authorizationId : Sha256Digest
  attesterIdentity : String
  authorized : Bool
  reason : String
  deriving DecidableEq

inductive RollbackOutcome
  | applied | alreadyApplied | rejected | ambiguous | staleTarget | reconciliationRequired
  deriving DecidableEq

structure RollbackReceiptBody extends DrillBinding, RollbackTopology where
  operationId : Sha256Digest
  promotionOperationId : Sha256Digest
  intentDigest : Sha256Digest
  outcome : RollbackOutcome
  attesterIdentity : String
  resultCommit : Option GitObject
  resultTree : Option GitObject
  error : Option String
  deriving DecidableEq

/-! ## Digests -/

/-- The documents that are hashed: records, and the dictionaries the code builds. -/
inductive Doc
  | leaseKey (repositoryDigest : Sha256Digest) (targetRef : String)
  | lease (payload : Lease)
  | promotionIdentity (identity : PromotionIdentity)
  | intent (body : IntentBody)
  | receipt (body : ReceiptBody)
  | reconciliation (body : ReconciliationBody)
  | preconditionFailure (operationId : Sha256Digest) (error : String)
  | soak (body : SoakBody)
  | rollbackAuthorization (body : RollbackAuthorizationBody)
  | rollbackIntent (body : RollbackIntentBody)
  | rollbackReceipt (body : RollbackReceiptBody)

structure Canon where
  digest : Doc → Sha256Digest
  gitObject : String → Bool
  ref : String → Bool
  casefold : String → String

end AvoCorrelate.Promotion
