import AvoCorrelate.Graduation.Documents
/-!
# Records of a rollback's cleanup

When main is back, the candidate ref of the rollback is deleted. Intent, receipt,
observation and terminal evidence name the ref, its pull request, and the principals
that delete and observe. `cleanup_authority_digest` is a function of the target, and
`dispatch_started` of the outcome; they and the literal fields are left out.
-/
namespace AvoCorrelate.MainRollback.Cleanup

open ExactCas (GitObject)
open Graduation (MainBound)

structure Principal (D : Type) where
  identity : String
  appId : Nat
  isolationDigest : D
  deriving DecidableEq

/-- The fields of `_CLEANUP_BINDING_FIELDS`. The principals differ. -/
structure Binding (D : Type) where
  providerIdentity : String
  providerApiVersion : String
  cleanupPrincipal : Principal D
  observer : Principal D
  observerProviderIdentity : String
  observerProviderApiVersion : String
  separate : cleanupPrincipal ≠ observer
  deriving DecidableEq

/-- The candidate ref and its pull request. -/
structure Candidate where
  candidateRef : String
  candidateCommit : GitObject
  pullRequestNumber : Nat
  pullRequestUrl : String
  deriving DecidableEq

/-- What is compared of a `MainRollbackIntent`. -/
structure RollbackIntent (D : Type) extends MainBound D where
  operationId : D
  sourceOperationId : D
  completionPackageDigest : D
  candidateRef : String
  candidateCommit : GitObject
  intentDigest : D
  deriving DecidableEq

inductive ResultOutcome
  | applied | alreadyApplied | invalid
  deriving DecidableEq

/-- `outcome in {"applied", "already_applied"}`. -/
def ResultOutcome.success : ResultOutcome → Bool
  | .applied | .alreadyApplied => true
  | .invalid => false

/-- What the cleanup reads of a `MainRollbackResultReceipt`, with the digest of the whole. -/
structure ResultReceipt (D : Type) where
  operationId : D
  completionPackageDigest : D
  providerIdentity : String
  providerApiVersion : String
  outcome : ResultOutcome
  observedAt : Instant
  receiptDigest : D
  deriving DecidableEq

/-- `MainRollbackCleanupIntent`, less the digest of these fields. -/
structure CleanupIntent (D : Type) extends MainBound D, Binding D, Candidate where
  operationId : D
  sourceOperationId : D
  completionPackageDigest : D
  resultReceiptDigest : D
  authorizationDigest : D
  recordedAt : Instant
  deriving DecidableEq

inductive ReceiptOutcome
  | applied | alreadyAbsent | ambiguous | reconciliationRequired | invalid
  deriving DecidableEq

/-- `outcome in {"ambiguous", "reconciliation_required"}`. -/
def ReceiptOutcome.unsettled : ReceiptOutcome → Bool
  | .ambiguous | .reconciliationRequired => true
  | _ => false

/-- `outcome in {"applied", "already_absent"}`. -/
def ReceiptOutcome.direct : ReceiptOutcome → Bool
  | .applied | .alreadyAbsent => true
  | _ => false

theorem ReceiptOutcome.settled_of_direct {o : ReceiptOutcome} (h : o.direct = true) : o.unsettled = false := by
  cases o with
  | applied | alreadyAbsent => rfl
  | ambiguous | reconciliationRequired | invalid => cases h

/-- `MainRollbackCleanupReceipt`, less the digest of these fields. -/
structure CleanupReceipt (D : Type) extends MainBound D, Binding D, Candidate where
  operationId : D
  intentDigest : D
  authorizationDigest : D
  outcome : ReceiptOutcome
  responseDigest : D
  observedAt : Instant
  deriving DecidableEq

inductive ObservationOutcome
  | absent | alreadyAbsent | present
  deriving DecidableEq

/-- `outcome in {"absent", "already_absent"}`. -/
def ObservationOutcome.gone : ObservationOutcome → Bool
  | .absent | .alreadyAbsent => true
  | .present => false

/-- The state of a pull request that is still authenticated. -/
inductive PullRequestState
  | opened | closed
  deriving DecidableEq

/-- `MainRollbackCleanupObservation`, less the digest of these fields. -/
structure CleanupObservation (D : Type) extends MainBound D, Binding D, Candidate where
  operationId : D
  intentDigest : D
  receiptDigest : D
  outcome : ObservationOutcome
  candidateRefAbsent : Bool
  pullRequestState : PullRequestState
  pullRequestMerged : Option Bool
  observedAt : Instant
  exact : outcome.gone = true → candidateRefAbsent = true ∧ pullRequestState = .closed ∧ pullRequestMerged = some true
  deriving DecidableEq

inductive TerminalOutcome
  | absent | alreadyAbsent
  deriving DecidableEq

/-- `MainRollbackCleanupTerminalEvidence`, less the digest of these fields. -/
structure TerminalEvidence (D : Type) extends MainBound D, Binding D, Candidate where
  operationId : D
  cleanupIntentDigest : D
  cleanupReceiptDigest : D
  outcome : TerminalOutcome
  cleanupObservationDigest : Option D
  observedAt : Instant
  deriving DecidableEq

/-- `_RollbackCleanupDispatchOwner`. -/
structure DispatchOwner (D : Type) where
  operationId : D
  intentDigest : D
  candidateRef : String
  recordedAt : Instant
  deriving DecidableEq

/-- `canonical_digest` of the records and of the note that a receipt was not found, and
the text of a digest after its algorithm's name. -/
structure Canon (D : Type) where
  intent : CleanupIntent D → D
  receipt : CleanupReceipt D → D
  observation : CleanupObservation D → D
  ownerWithoutReceipt : D
  hex : D → String

variable {D : Type} (C : Canon D)

/-- `intent_digest`. -/
def CleanupIntent.digest (i : CleanupIntent D) : D := C.intent i

/-- `receipt_digest`. -/
def CleanupReceipt.digest (r : CleanupReceipt D) : D := C.receipt r

/-- `observation_digest`. -/
def CleanupObservation.digest (o : CleanupObservation D) : D := C.observation o

def mainRollbackCandidateRef (operationId : D) : String := "refs/heads/avo/main-rollback/" ++ C.hex operationId

/-- `url.startswith("https://")`. -/
def Https (url : String) : Prop := "https://".toList.isPrefixOf url.toList = true

instance (url : String) : Decidable (Https url) := inferInstanceAs (Decidable (_ = _))

/-- `validate_cleanup_intent`. -/
def CleanupIntent.Valid (i : CleanupIntent D) : Prop :=
  i.sourceOperationId ≠ i.operationId ∧ i.candidateRef = mainRollbackCandidateRef C i.operationId ∧ Https i.pullRequestUrl

instance [DecidableEq D] (i : CleanupIntent D) : Decidable (i.Valid C) := inferInstanceAs (Decidable (_ ∧ _))

/-! ## What the coordinator builds -/

/-- The receipt of a dispatch whose own receipt is missing. -/
def CleanupIntent.reconciliationReceipt (i : CleanupIntent D) (observedAt : Instant) : CleanupReceipt D :=
  { i.toMainBound, i.toBinding, i.toCandidate with
    operationId := i.operationId
    intentDigest := i.digest C
    authorizationDigest := i.authorizationDigest
    outcome := .reconciliationRequired
    responseDigest := C.ownerWithoutReceipt
    observedAt }

def CleanupIntent.terminalEvidence (i : CleanupIntent D) (operationId : D) (r : CleanupReceipt D)
    (o : Option (CleanupObservation D)) (observedAt : Instant) : TerminalEvidence D :=
  { i.toMainBound, i.toBinding, i.toCandidate with
    operationId
    cleanupIntentDigest := i.digest C
    cleanupReceiptDigest := r.digest C
    outcome := if o.isSome then .absent else .alreadyAbsent
    cleanupObservationDigest := o.map (·.digest C)
    observedAt }

end AvoCorrelate.MainRollback.Cleanup
