import AvoCorrelate.ExactCas.Records
import Mathlib.Tactic.MkIffOfInductiveProp
/-!
# Contracts of the main-graduation ledger

The records of one campaign of twelve successes: the activation, and for every
scheduler sequence its submission, classification, outcome and accumulator
transition; evidence of a violated boundary with the reset it causes; and the package
that closes the ledger.

A `...Body` is the fields of a record, and `...Body.Valid` what the validators of the
record and of the records in it check. The digest field of a record is the digest of its
other fields, so it is a function here. A document that has no canonical form has no
digest and is no record; there is none here. Nothing is assumed of `Canon`.
-/
namespace AvoCorrelate.MainLedger

open ExactCas (Sha256Digest MainRef ArtifactRef)

inductive LedgerOutcome
  | success | failure | quarantine | reconciliation | reset
  deriving DecidableEq

inductive Eligibility
  | eligible | excluded
  deriving DecidableEq

inductive RiskClass
  | ordinary | nonordinary
  deriving DecidableEq

inductive ExclusionReason
  | empty | nonordinary
  deriving DecidableEq

inductive ViolationKind
  | starvation | withholding | silentExclusion | schedulerGap | operatorIntervention
  deriving DecidableEq

inductive PackageStatus
  | thresholdComplete | boundaryReset
  deriving DecidableEq

/-! ## Fields -/

/-- `MainLedgerControllerAuthority`. -/
structure ControllerAuthority where
  repositoryDigest : Sha256Digest
  targetRef : MainRef
  protocolDigest : Sha256Digest
  controllerConfigDigest : Sha256Digest
  policyDigest : Sha256Digest
  policyEpoch : Sha256Digest
  issuerIdentity : String
  issuerAuthorityDigest : Sha256Digest
  authorizedAt : Instant
  expiresAt : Instant
  deriving DecidableEq

structure HostedRollbackProof where
  operationId : Sha256Digest
  repositoryDigest : Sha256Digest
  targetRef : MainRef
  proofArtifactDigest : Sha256Digest
  controllerAuthorityDigest : Sha256Digest
  rollbackAuthorityIdentity : String
  rollbackAuthorityDigest : Sha256Digest
  resultEvidenceDigest : Sha256Digest
  completedAt : Instant
  deriving DecidableEq

/-- `MainLedgerC8CapabilityEvidence`, but for its literals. -/
structure CapabilityEvidence where
  repositoryDigest : Sha256Digest
  targetRef : MainRef
  controllerAuthorityDigest : Sha256Digest
  hostingAuthorityIdentity : String
  queueConfigurationDigest : Sha256Digest
  queueGenerationDigest : Sha256Digest
  releaseIssuerIdentity : String
  releaseIssuerAppId : Nat
  releaseIssuerAuthorityDigest : Sha256Digest
  observedAt : Instant
  deriving DecidableEq

structure ActivationBody where
  repositoryDigest : Sha256Digest
  targetRef : MainRef
  protocolDigest : Sha256Digest
  controllerConfigDigest : Sha256Digest
  policyDigest : Sha256Digest
  policyEpoch : Sha256Digest
  controllerIssuerIdentity : String
  controllerIssuerAuthorityDigest : Sha256Digest
  schedulerSequenceWatermark : Nat
  freshnessCutoff : Instant
  controllerAuthority : ControllerAuthority
  hostedRollbackProof : HostedRollbackProof
  capabilityEvidence : CapabilityEvidence
  hostedRollbackProofDigest : Sha256Digest
  hostedRollbackArtifactDigest : Sha256Digest
  rollbackAuthorityIdentity : String
  rollbackAuthorityDigest : Sha256Digest
  capabilityEvidenceDigest : Sha256Digest
  activatedAt : Instant
  hostedRollbackRawArtifactDigest : Option Sha256Digest
  deriving DecidableEq

/-- `MainLedgerSubmissionEnvelope`. -/
structure SubmissionBody where
  activationDigest : Sha256Digest
  repositoryDigest : Sha256Digest
  targetRef : MainRef
  schedulerSequence : Nat
  sourceIdentity : String
  submissionIdentity : String
  submissionDigest : Sha256Digest
  contentArtifact : ArtifactRef
  operationId : Sha256Digest
  recordedAt : Instant
  deriving DecidableEq

structure ClassificationBody where
  activationDigest : Sha256Digest
  submissionDigest : Sha256Digest
  operationId : Sha256Digest
  schedulerSequence : Nat
  classification : Eligibility
  empty : Bool
  ordinary : Bool
  riskClass : RiskClass
  paths : List String
  pathManifestDigest : Sha256Digest
  policyDigest : Sha256Digest
  policyEpoch : Sha256Digest
  controllerAuthority : ControllerAuthority
  issuerIdentity : String
  issuerAuthorityDigest : Sha256Digest
  exclusionReason : Option ExclusionReason
  independentExclusionEvidenceDigest : Option Sha256Digest
  independentExclusionEvidence : Option ArtifactRef
  deriving DecidableEq

structure OutcomeBody where
  activationDigest : Sha256Digest
  submissionDigest : Sha256Digest
  classificationDigest : Sha256Digest
  classification : ClassificationBody
  operationId : Sha256Digest
  attemptId : Sha256Digest
  schedulerSequence : Nat
  outcome : LedgerOutcome
  evidenceKind : LedgerOutcome
  terminalEvidenceDigest : Sha256Digest
  terminalEvidence : ArtifactRef
  packageDigest : Option Sha256Digest
  packageArtifact : Option ArtifactRef
  packageBindingDigest : Option Sha256Digest
  reason : Option String
  terminalAt : Instant
  deriving DecidableEq

/-- `MainLedgerAccumulatorState`. -/
structure StateBody where
  activationDigest : Sha256Digest
  lastSchedulerSequence : Nat
  streak : Nat
  successes : Nat
  failures : Nat
  boundaryViolations : Nat
  thresholdComplete : Bool
  deriving DecidableEq

structure TailEntryBody where
  schedulerSequence : Nat
  envelope : Option SubmissionBody
  submissionDigest : Option Sha256Digest
  operationId : Option Sha256Digest
  envelopeDigest : Option Sha256Digest
  contentArtifact : Option ArtifactRef
  deriving DecidableEq

/-- `MainLedgerBoundaryViolationEvidence`. -/
structure ViolationBody where
  activationDigest : Sha256Digest
  controllerAuthority : ControllerAuthority
  expectedSchedulerSequence : Nat
  currentStateDigest : Sha256Digest
  violationKind : ViolationKind
  submissionDigest : Option Sha256Digest
  operationId : Option Sha256Digest
  envelopeDigest : Option Sha256Digest
  contentArtifact : Option ArtifactRef
  evidenceArtifact : ArtifactRef
  detectedAt : Instant
  deriving DecidableEq

/-- `MainLedgerBoundaryResetTransition`. -/
structure ResetBody where
  activationDigest : Sha256Digest
  priorState : StateBody
  priorStateDigest : Sha256Digest
  violation : ViolationBody
  resultingState : StateBody
  resultingStateDigest : Sha256Digest
  deriving DecidableEq

/-- `MainLedgerAccumulatorTransition`. -/
structure TransitionBody where
  activationDigest : Sha256Digest
  classification : ClassificationBody
  priorState : StateBody
  priorStateDigest : Sha256Digest
  outcome : Option OutcomeBody
  outcomeDigest : Option Sha256Digest
  resetApplied : Bool
  resultingState : StateBody
  resultingStateDigest : Sha256Digest
  deriving DecidableEq

/-- `MainLedgerEvidencePackage`. -/
structure PackageBody where
  status : PackageStatus
  activation : ActivationBody
  submissions : List SubmissionBody
  classifications : List ClassificationBody
  outcomes : List OutcomeBody
  transitions : List TransitionBody
  unresolvedTail : List TailEntryBody
  finalState : StateBody
  boundaryEvidence : Option ViolationBody
  terminalBoundaryReset : Option ResetBody
  deriving DecidableEq

/-- What is hashed: the records without their digests, and what identifies an operation,
an attempt and a package binding. -/
inductive Document
  | authority (a : ControllerAuthority)
  | hostedRollbackProof (p : HostedRollbackProof)
  | capabilityEvidence (e : CapabilityEvidence)
  | activation (a : ActivationBody)
  | operation (activation : Sha256Digest) (sequence : Nat) (source identity : String) (submission : Sha256Digest)
  | submission (s : SubmissionBody)
  | classification (c : ClassificationBody)
  | attempt (activation : Sha256Digest) (sequence : Nat) (submission : Sha256Digest)
  | packageBinding (activation classification operation package submission : Sha256Digest)
  | outcome (o : OutcomeBody)
  | state (s : StateBody)
  | tailEntry (e : TailEntryBody)
  | violation (e : ViolationBody)
  | reset (r : ResetBody)
  | transition (t : TransitionBody)
  | package (p : PackageBody)

/-- `canonical_digest`, the digest that `path_manifest_digest` takes of the sorted paths,
and the text rules of `unicodedata` and `casefold`. -/
structure Canon where
  digest : Document → Sha256Digest
  manifest : List String → Sha256Digest
  nfc : String → Bool
  casefold : String → String

-- over the digest that is there; the instance for every digest would try them all
instance (priority := 2000) {p : Sha256Digest → Prop} [DecidablePred p] (o : Option Sha256Digest) :
    Decidable (∀ x ∈ o, p x) :=
  o.decidableForallMem

/-- The last item with this key, as in a dictionary that is filled from the list. -/
def lookup {α : Type} (key : α → Nat) (xs : List α) (n : Nat) : Option α := xs.reverse.find? fun x => key x = n

/-- The same items, in any order and number. -/
def sameSet (xs ys : List Nat) : Prop := (∀ x ∈ xs, x ∈ ys) ∧ ∀ y ∈ ys, y ∈ xs

instance (xs ys : List Nat) : Decidable (sameSet xs ys) := inferInstanceAs (Decidable (_ ∧ _))

/-- Each number is the next after the one before it. -/
def Consecutive : Nat → List Nat → Prop
  | _, [] => True
  | n, x :: xs => x = n ∧ Consecutive (n + 1) xs

instance decidableConsecutive : (n : Nat) → (xs : List Nat) → Decidable (Consecutive n xs)
  | _, [] => isTrue trivial
  | n, x :: xs => have := decidableConsecutive (n + 1) xs; inferInstanceAs (Decidable (x = n ∧ Consecutive (n + 1) xs))

theorem consecutive_iff {n : Nat} {xs : List Nat} : Consecutive n xs ↔ xs = List.range' n xs.length := by
  induction xs generalizing n with
  | nil => exact ⟨fun _ => rfl, fun _ => trivial⟩
  | cons x xs ih =>
    rw [List.length_cons, List.range'_succ, List.cons.injEq]
    exact and_congr_right fun _ => ih

section Contracts
variable (C : Canon)

def ControllerAuthority.authorityDigest (a : ControllerAuthority) : Sha256Digest := C.digest (.authority a)
def HostedRollbackProof.proofDigest (p : HostedRollbackProof) : Sha256Digest := C.digest (.hostedRollbackProof p)
def CapabilityEvidence.evidenceDigest (e : CapabilityEvidence) : Sha256Digest := C.digest (.capabilityEvidence e)
def ActivationBody.activationDigest (a : ActivationBody) : Sha256Digest := C.digest (.activation a)
def SubmissionBody.envelopeDigest (s : SubmissionBody) : Sha256Digest := C.digest (.submission s)
def ClassificationBody.classificationDigest (c : ClassificationBody) : Sha256Digest := C.digest (.classification c)
def OutcomeBody.outcomeDigest (o : OutcomeBody) : Sha256Digest := C.digest (.outcome o)
def StateBody.stateDigest (s : StateBody) : Sha256Digest := C.digest (.state s)
def ViolationBody.violationDigest (e : ViolationBody) : Sha256Digest := C.digest (.violation e)

/-! ## Activation -/

/-- `validate_authority`. -/
def ControllerAuthority.Valid (a : ControllerAuthority) : Prop := a.authorizedAt < a.expiresAt

instance (a : ControllerAuthority) : Decidable a.Valid := inferInstanceAs (Decidable (_ < _))

/-- `validate_capability`. -/
def CapabilityEvidence.Valid (e : CapabilityEvidence) : Prop := 0 < e.releaseIssuerAppId ∧ e.releaseIssuerAppId ≠ 15368

instance (e : CapabilityEvidence) : Decidable e.Valid := inferInstanceAs (Decidable (_ ∧ _))

/-- `validate_activation`. -/
@[mk_iff]
structure ActivationBody.Valid (a : ActivationBody) : Prop where
  authority : a.controllerAuthority.Valid
  capability : a.capabilityEvidence.Valid
  target : a.repositoryDigest = a.controllerAuthority.repositoryDigest ∧ a.targetRef = a.controllerAuthority.targetRef
  configuration : a.protocolDigest = a.controllerAuthority.protocolDigest ∧
    a.controllerConfigDigest = a.controllerAuthority.controllerConfigDigest ∧
    a.policyDigest = a.controllerAuthority.policyDigest ∧ a.policyEpoch = a.controllerAuthority.policyEpoch ∧
    a.controllerIssuerIdentity = a.controllerAuthority.issuerIdentity ∧
    a.controllerIssuerAuthorityDigest = a.controllerAuthority.issuerAuthorityDigest
  window : a.controllerAuthority.authorizedAt ≤ a.activatedAt ∧ a.activatedAt ≤ a.controllerAuthority.expiresAt
  freshness : a.controllerAuthority.authorizedAt ≤ a.freshnessCutoff ∧ a.freshnessCutoff ≤ a.activatedAt
  proof : a.hostedRollbackProof.proofDigest C = a.hostedRollbackProofDigest ∧
    a.hostedRollbackProof.proofArtifactDigest = a.hostedRollbackArtifactDigest ∧
    a.hostedRollbackProof.rollbackAuthorityIdentity = a.rollbackAuthorityIdentity ∧
    a.hostedRollbackProof.rollbackAuthorityDigest = a.rollbackAuthorityDigest ∧
    a.hostedRollbackProof.repositoryDigest = a.repositoryDigest ∧ a.hostedRollbackProof.targetRef = a.targetRef ∧
    a.hostedRollbackProof.controllerAuthorityDigest = a.controllerAuthority.authorityDigest C ∧
    a.freshnessCutoff ≤ a.hostedRollbackProof.completedAt ∧ a.hostedRollbackProof.completedAt ≤ a.activatedAt
  raw : a.hostedRollbackRawArtifactDigest ≠ some a.hostedRollbackArtifactDigest
  evidence : a.capabilityEvidence.evidenceDigest C = a.capabilityEvidenceDigest ∧
    a.capabilityEvidence.repositoryDigest = a.repositoryDigest ∧ a.capabilityEvidence.targetRef = a.targetRef ∧
    a.capabilityEvidence.controllerAuthorityDigest = a.controllerAuthority.authorityDigest C ∧
    a.freshnessCutoff ≤ a.capabilityEvidence.observedAt ∧ a.capabilityEvidence.observedAt ≤ a.activatedAt

instance (a : ActivationBody) : Decidable (a.Valid C) := decidable_of_iff _ (ActivationBody.valid_iff C a).symm

/-! ## Submission -/

/-- `validate_envelope`. -/
@[mk_iff]
structure SubmissionBody.Valid (s : SubmissionBody) : Prop where
  sequence : 0 < s.schedulerSequence
  digest : s.submissionDigest = s.contentArtifact.digest
  role : s.contentArtifact.role = "scheduler-submission-content"
  mediaType : s.contentArtifact.mediaType = "application/vnd.avo.scheduler-submission+json"
  size : 0 < s.contentArtifact.sizeBytes
  content : s.contentArtifact.createdAt ≤ s.recordedAt
  operation : s.operationId =
    C.digest (.operation s.activationDigest s.schedulerSequence s.sourceIdentity s.submissionIdentity s.submissionDigest)

instance (s : SubmissionBody) : Decidable (s.Valid C) := decidable_of_iff _ (SubmissionBody.valid_iff C s).symm

/-! ## Classification -/

def windowsReservedNames : List (List Char) :=
  ["con", "prn", "aux", "nul"].map String.toList ++ (["com", "lpt"].flatMap fun name =>
    ['1', '2', '3', '4', '5', '6', '7', '8', '9'].map fun digit => name.toList ++ [digit])

def isValidPromotionPath (path : String) : Bool :=
  let parts := path.toList.splitOn '/'
  C.nfc path && !(path.toList.any fun c => c.toNat < 32) && !path.toList.contains '\\' && !path.toList.contains ':' &&
    !(path.toList.any fun c => ['<', '>', '"', '|', '?', '*'].contains c) &&
    !(path.toList.head? = some '/' || path.toList.head? = some '~') &&
    !(parts.any fun part => part = [] || part = ['.'] || part = ['.', '.'] || part.getLast? = some ' ' ||
      part.getLast? = some '.') &&
    !(parts.any fun part =>
      windowsReservedNames.contains (C.casefold (String.ofList (part.takeWhile (· ≠ '.')))).toList)

def pathManifestDigest (paths : List String) : Sha256Digest :=
  C.manifest ((paths.map C.casefold).mergeSort fun a b => a ≤ b)

/-- `_paths`. -/
@[mk_iff]
structure ValidPaths (paths : List String) : Prop where
  sorted : (paths.map fun p => (C.casefold p, p)).Pairwise fun a b => a.1 < b.1 ∨ (a.1 = b.1 ∧ a.2 ≤ b.2)
  unique : (paths.map C.casefold).Nodup
  normal : ∀ p ∈ paths, isValidPromotionPath C p = true

instance (paths : List String) : Decidable (ValidPaths C paths) := decidable_of_iff _ (validPaths_iff C paths).symm

/-- An exclusion comes with its reason and evidence, an eligible classification without. -/
def ClassificationBody.Evidenced (c : ClassificationBody) : Prop :=
  match c.classification with
  | .excluded =>
    (c.empty = true ∨ c.ordinary = false) ∧
    c.exclusionReason = some (if c.empty then .empty else .nonordinary) ∧
    ∃ e ∈ c.independentExclusionEvidence, c.independentExclusionEvidenceDigest = some e.digest ∧
      e.role = "ledger-classification-exclusion-evidence" ∧
      e.mediaType = "application/vnd.avo.ledger-exclusion-evidence+json" ∧ 0 < e.sizeBytes
  | .eligible =>
    c.empty = false ∧ c.ordinary = true ∧ c.exclusionReason = none ∧ c.independentExclusionEvidenceDigest = none ∧
    c.independentExclusionEvidence = none

instance (c : ClassificationBody) : Decidable c.Evidenced := by
  unfold ClassificationBody.Evidenced
  cases c.classification <;> infer_instance

/-- `validate_classification`. -/
@[mk_iff]
structure ClassificationBody.Valid (c : ClassificationBody) : Prop where
  sequence : 0 < c.schedulerSequence
  authority : c.controllerAuthority.Valid
  paths : ValidPaths C c.paths
  issuer : c.issuerIdentity = c.controllerAuthority.issuerIdentity ∧
    c.issuerAuthorityDigest = c.controllerAuthority.issuerAuthorityDigest ∧
    c.policyDigest = c.controllerAuthority.policyDigest ∧ c.policyEpoch = c.controllerAuthority.policyEpoch
  manifest : c.pathManifestDigest = MainLedger.pathManifestDigest C c.paths
  empty : c.empty = c.paths.isEmpty
  risk : c.ordinary = decide (c.riskClass = .ordinary)
  evidence : c.Evidenced

instance (c : ClassificationBody) : Decidable (c.Valid C) := decidable_of_iff _ (ClassificationBody.valid_iff C c).symm

/-! ## Outcome -/

/-- `validate_outcome`. -/
@[mk_iff]
structure OutcomeBody.Valid (o : OutcomeBody) : Prop where
  sequence : 0 < o.schedulerSequence
  classified : o.classification.Valid C
  kind : o.outcome = o.evidenceKind
  eligible : o.classification.classification = .eligible
  activation : o.activationDigest = o.classification.activationDigest
  evidence : o.terminalEvidence.digest = o.terminalEvidenceDigest
  artifact : o.terminalEvidence.role = "ledger-terminal-evidence" ∧
    o.terminalEvidence.mediaType = "application/vnd.avo.ledger-terminal-evidence+json" ∧ 0 < o.terminalEvidence.sizeBytes
  classification : o.classificationDigest = o.classification.classificationDigest C
  submission : o.classification.operationId = o.operationId ∧ o.classification.submissionDigest = o.submissionDigest ∧
    o.classification.schedulerSequence = o.schedulerSequence
  attempt : o.attemptId = C.digest (.attempt o.activationDigest o.schedulerSequence o.submissionDigest)
  success : o.outcome = .success → o.packageDigest.isSome
  together : o.packageDigest.isSome = o.packageBindingDigest.isSome ∧ o.packageDigest.isSome = o.packageArtifact.isSome
  package : ∀ d ∈ o.packageDigest, (∀ a ∈ o.packageArtifact, a.digest = d ∧ a.role = "integration-campaign-package" ∧
      a.mediaType = "application/vnd.avo.integration-campaign+json" ∧ 0 < a.sizeBytes) ∧
    o.packageBindingDigest =
      some (C.digest (.packageBinding o.activationDigest o.classificationDigest o.operationId d o.submissionDigest))

instance (o : OutcomeBody) : Decidable (o.Valid C) := decidable_of_iff _ (OutcomeBody.valid_iff C o).symm

/-! ## Accumulator state and transition -/

/-- `validate_state`. -/
def StateBody.Valid (s : StateBody) : Prop := s.streak ≤ 12 ∧ s.thresholdComplete = decide (s.streak = 12)

instance (s : StateBody) : Decidable s.Valid := inferInstanceAs (Decidable (_ ∧ _))

def mainLedgerGenesisState (activationDigest : Sha256Digest) (schedulerSequenceWatermark : Nat) : StateBody where
  activationDigest
  lastSchedulerSequence := schedulerSequenceWatermark
  streak := 0
  successes := 0
  failures := 0
  boundaryViolations := 0
  thresholdComplete := false

def requireExclusionCounterClosure (before after : StateBody) : Prop :=
  after.streak = before.streak ∧ after.successes = before.successes ∧ after.failures = before.failures ∧
    after.boundaryViolations = before.boundaryViolations ∧ after.thresholdComplete = before.thresholdComplete

def validateEligibleDelta (before after : StateBody) (outcome : LedgerOutcome) (resetApplied : Bool) : Prop :=
  if outcome = .success then
    resetApplied = false ∧ before.streak < 12 ∧ after.streak = before.streak + 1 ∧
      after.successes = before.successes + 1 ∧ after.failures = before.failures ∧
      after.boundaryViolations = before.boundaryViolations
  else
    resetApplied = true ∧ after.streak = 0 ∧ after.failures = before.failures + 1 ∧
      after.successes = before.successes ∧ after.boundaryViolations = before.boundaryViolations

instance (before after : StateBody) : Decidable (requireExclusionCounterClosure before after) :=
  inferInstanceAs (Decidable (_ ∧ _))

instance (before after : StateBody) (outcome : LedgerOutcome) (resetApplied : Bool) :
    Decidable (validateEligibleDelta before after outcome resetApplied) := by
  unfold validateEligibleDelta
  infer_instance

/-- What a transition asks of its outcome, and of the counters with it. -/
def TransitionBody.Accounted (t : TransitionBody) : Prop :=
  match t.classification.classification with
  | .excluded =>
    t.outcome = none ∧ t.outcomeDigest = none ∧ t.resetApplied = false ∧
      requireExclusionCounterClosure t.priorState t.resultingState
  | .eligible => ∃ o ∈ t.outcome,
    t.outcomeDigest = some (o.outcomeDigest C) ∧ o.activationDigest = t.activationDigest ∧
      o.classificationDigest = t.classification.classificationDigest C ∧
      o.schedulerSequence = t.classification.schedulerSequence ∧
      validateEligibleDelta t.priorState t.resultingState o.outcome t.resetApplied

instance (t : TransitionBody) : Decidable (t.Accounted C) := by
  unfold TransitionBody.Accounted
  cases t.classification.classification <;> infer_instance

/-- `validate_transition`. -/
@[mk_iff]
structure TransitionBody.Valid (t : TransitionBody) : Prop where
  classified : t.classification.Valid C
  outcomes : ∀ o ∈ t.outcome, o.Valid C
  states : t.priorState.Valid ∧ t.resultingState.Valid
  prior : t.priorStateDigest = t.priorState.stateDigest C
  incomplete : t.priorState.thresholdComplete = false
  activation : t.activationDigest = t.priorState.activationDigest
  classification : t.classification.activationDigest = t.activationDigest
  sequence : t.classification.schedulerSequence = t.priorState.lastSchedulerSequence + 1
  resulting : t.resultingStateDigest = t.resultingState.stateDigest C
  resultingActivation : t.resultingState.activationDigest = t.activationDigest
  accounted : t.Accounted C
  resultingSequence : t.resultingState.lastSchedulerSequence = t.classification.schedulerSequence

instance (t : TransitionBody) : Decidable (t.Valid C) := decidable_of_iff _ (TransitionBody.valid_iff C t).symm

/-! ## A violated boundary -/

structure EnvelopeIdentity where
  submissionDigest : Option Sha256Digest
  operationId : Option Sha256Digest
  envelopeDigest : Option Sha256Digest
  contentArtifact : Option ArtifactRef
  deriving DecidableEq

def EnvelopeIdentity.absent : EnvelopeIdentity := ⟨none, none, none, none⟩

/-- All of it is there. -/
def EnvelopeIdentity.Complete (i : EnvelopeIdentity) : Prop :=
  i.submissionDigest.isSome ∧ i.operationId.isSome ∧ i.envelopeDigest.isSome ∧ i.contentArtifact.isSome

instance (i : EnvelopeIdentity) : Decidable i.Complete := inferInstanceAs (Decidable (_ ∧ _))

def SubmissionBody.identity (s : SubmissionBody) : EnvelopeIdentity :=
  ⟨some s.submissionDigest, some s.operationId, some (s.envelopeDigest C), some s.contentArtifact⟩

def TailEntryBody.identity (e : TailEntryBody) : EnvelopeIdentity :=
  ⟨e.submissionDigest, e.operationId, e.envelopeDigest, e.contentArtifact⟩

def ViolationBody.identity (e : ViolationBody) : EnvelopeIdentity :=
  ⟨e.submissionDigest, e.operationId, e.envelopeDigest, e.contentArtifact⟩

def TailEntryBody.hasEnvelopeIdentity (e : TailEntryBody) : Bool := e.envelope.isSome || e.submissionDigest.isSome

/-- `validate_tail_entry`. -/
def TailEntryBody.Valid (e : TailEntryBody) : Prop :=
  0 < e.schedulerSequence ∧
  match e.envelope with
  | none => e.identity = .absent ∨
      (e.identity.Complete ∧ e.contentArtifact.map (·.digest) = e.submissionDigest)
  | some s => s.Valid C ∧ (e.identity = .absent ∨ e.identity = s.identity C)

instance (e : TailEntryBody) : Decidable (e.Valid C) := by
  unfold TailEntryBody.Valid
  cases e.envelope <;> infer_instance

/-- `validate_violation`. -/
@[mk_iff]
structure ViolationBody.Valid (e : ViolationBody) : Prop where
  authority : e.controllerAuthority.Valid
  window : e.controllerAuthority.authorizedAt ≤ e.detectedAt ∧ e.detectedAt ≤ e.controllerAuthority.expiresAt
  sequence : 0 < e.expectedSchedulerSequence
  identity : e.identity = .absent ∨ e.identity.Complete
  content : ∀ a ∈ e.contentArtifact, e.submissionDigest = some a.digest
  artifact : e.evidenceArtifact.role = "ledger-boundary-violation-evidence" ∧
    e.evidenceArtifact.mediaType = "application/vnd.avo.ledger-boundary-violation+json" ∧
    0 < e.evidenceArtifact.sizeBytes ∧ e.evidenceArtifact.createdAt ≤ e.detectedAt

instance (e : ViolationBody) : Decidable e.Valid := decidable_of_iff _ (ViolationBody.valid_iff e).symm

/-- `validate_reset`. -/
@[mk_iff]
structure ResetBody.Valid (r : ResetBody) : Prop where
  states : r.priorState.Valid ∧ r.resultingState.Valid
  evidence : r.violation.Valid
  prior : r.priorStateDigest = r.priorState.stateDigest C
  activation : r.activationDigest = r.priorState.activationDigest
  violationActivation : r.violation.activationDigest = r.activationDigest
  current : r.violation.currentStateDigest = r.priorState.stateDigest C
  expected : r.priorState.lastSchedulerSequence < r.violation.expectedSchedulerSequence
  resulting : r.resultingStateDigest = r.resultingState.stateDigest C
  delta : r.resultingState.activationDigest = r.activationDigest ∧
    r.resultingState.lastSchedulerSequence = r.priorState.lastSchedulerSequence ∧ r.resultingState.streak = 0 ∧
    r.resultingState.successes = r.priorState.successes ∧ r.resultingState.failures = r.priorState.failures ∧
    r.resultingState.boundaryViolations = r.priorState.boundaryViolations + 1 ∧
    r.resultingState.thresholdComplete = false

instance (r : ResetBody) : Decidable (r.Valid C) := decidable_of_iff _ (ResetBody.valid_iff C r).symm

/-! ## Package -/

namespace PackageBody
variable (p : PackageBody)

/-- The sequence at which the processed prefix of a boundary package ends. -/
def firstUnresolved : Option Nat :=
  match p.status with
  | .thresholdComplete => none
  | .boundaryReset => p.boundaryEvidence.map (·.expectedSchedulerSequence)

def watermark : Nat := p.activation.schedulerSequenceWatermark

def prefixSubmissions : List SubmissionBody :=
  match p.firstUnresolved with
  | none => p.submissions
  | some n => p.submissions.filter fun s => s.schedulerSequence < n

def expectedClassifiedCount : Nat :=
  match p.firstUnresolved with
  | none => p.submissions.length
  | some n => n - (p.watermark + 1)

def genesis : StateBody := mainLedgerGenesisState (p.activation.activationDigest C) p.watermark

def normalFinalState : StateBody := ((p.transitions.map (·.resultingState)).getLast?).getD (p.genesis C)

def Binds (s : SubmissionBody) (c : ClassificationBody) : Prop :=
  c.activationDigest = p.activation.activationDigest C ∧ c.schedulerSequence = s.schedulerSequence ∧
    c.submissionDigest = s.submissionDigest ∧ c.operationId = s.operationId ∧
    c.policyEpoch = p.activation.policyEpoch ∧ c.policyDigest = p.activation.policyDigest ∧
    c.controllerAuthority = p.activation.controllerAuthority

instance (s : SubmissionBody) (c : ClassificationBody) : Decidable (p.Binds C s c) := inferInstanceAs (Decidable (_ ∧ _))

/-- What the package asks of a transition after this state. -/
def Follows (before : StateBody) (t : TransitionBody) : Prop :=
  t.priorState = before ∧
    lookup ClassificationBody.schedulerSequence p.classifications t.classification.schedulerSequence =
      some t.classification ∧
    ∀ o ∈ t.outcome, o.schedulerSequence ∈ p.outcomes.map (·.schedulerSequence) ∧
      lookup OutcomeBody.schedulerSequence p.outcomes t.classification.schedulerSequence = some o

instance (before : StateBody) (t : TransitionBody) : Decidable (p.Follows before t) := inferInstanceAs (Decidable (_ ∧ _))

/-- The loop over the transitions. -/
def Chained : Nat → StateBody → List TransitionBody → Prop
  | _, _, [] => True
  | n, before, t :: ts => t.priorState.lastSchedulerSequence = n ∧ p.Follows before t ∧
    Chained t.resultingState.lastSchedulerSequence t.resultingState ts

instance decidableChained : (n : Nat) → (before : StateBody) → (ts : List TransitionBody) → Decidable (p.Chained n before ts)
  | _, _, [] => isTrue trivial
  | _, _, t :: ts =>
    have := decidableChained t.resultingState.lastSchedulerSequence t.resultingState ts
    inferInstanceAs (Decidable (_ ∧ _ ∧ _))

/-- The loop over the unresolved tail, with the digests of the envelopes and of the
contents in it so far. -/
def TailBound (expected : Nat) : List Sha256Digest → List Sha256Digest → List TailEntryBody → Prop
  | _, _, [] => True
  | digests, contents, e :: es =>
    match e.envelope with
    | some s =>
      (s.schedulerSequence = e.schedulerSequence ∧
        e.schedulerSequence ∉ p.submissions.map (·.schedulerSequence) ∧
        (s.activationDigest = p.activation.activationDigest C ∧ s.repositoryDigest = p.activation.repositoryDigest ∧
          s.targetRef = p.activation.targetRef) ∧
        s.submissionDigest ∉ p.submissions.map (·.submissionDigest) ∧ s.submissionDigest ∉ digests ∧
        s.contentArtifact.digest ∉ contents ∧
        s.contentArtifact.digest ∉ p.submissions.map (·.contentArtifact.digest)) ∧
      TailBound expected (s.submissionDigest :: digests) (s.contentArtifact.digest :: contents) es
    | none =>
      (if e.hasEnvelopeIdentity then
        ∃ s ∈ lookup SubmissionBody.schedulerSequence p.submissions e.schedulerSequence, e.identity = s.identity C
      else e.schedulerSequence ≤ expected) ∧
      TailBound expected digests contents es

instance decidableTailBound : (n : Nat) → (digests contents : List Sha256Digest) → (es : List TailEntryBody) →
    Decidable (p.TailBound C n digests contents es)
  | _, _, _, [] => isTrue trivial
  | n, digests, contents, e :: es => by
    unfold TailBound
    cases e.envelope with
    | none =>
      have := decidableTailBound n digests contents es
      dsimp only
      infer_instance
    | some s =>
      have := decidableTailBound n (s.submissionDigest :: digests) (s.contentArtifact.digest :: contents) es
      dsimp only
      infer_instance

def firstIdentity : EnvelopeIdentity :=
  match p.unresolvedTail with
  | [] => .absent
  | e :: _ =>
    match e.envelope with
    | some s => s.identity C
    | none => if e.hasEnvelopeIdentity then e.identity else .absent

/-- What a boundary package asks of its tail, its evidence and its reset. -/
@[mk_iff]
structure ClosesBoundary (e : ViolationBody) (r : ResetBody) : Prop where
  -- without a tail, the sequence after the watermark is the one expected
  contiguous : p.unresolvedTail.map (·.schedulerSequence) =
      List.range' e.expectedSchedulerSequence p.unresolvedTail.length ∨
    (p.unresolvedTail = [] ∧ e.expectedSchedulerSequence = p.watermark + 1)
  bound : p.TailBound C e.expectedSchedulerSequence [] [] p.unresolvedTail
  missing : ∀ first ∈ p.unresolvedTail.head?, first.hasEnvelopeIdentity = false → p.unresolvedTail.length ≤ 1
  inventory : ∀ s ∈ p.submissions, e.expectedSchedulerSequence ≤ s.schedulerSequence →
    s.schedulerSequence ∈ p.unresolvedTail.map (·.schedulerSequence)
  identity : p.firstIdentity C = e.identity
  root : e.activationDigest = p.activation.activationDigest C ∧
    e.controllerAuthority = p.activation.controllerAuthority ∧ p.activation.freshnessCutoff ≤ e.detectedAt ∧
    p.activation.activatedAt ≤ e.detectedAt ∧ e.detectedAt ≤ p.activation.controllerAuthority.expiresAt
  violation : e = r.violation
  before : r.priorState = p.normalFinalState C
  final : p.finalState = r.resultingState
  incomplete : p.finalState.thresholdComplete = false

instance (e : ViolationBody) (r : ResetBody) : Decidable (p.ClosesBoundary C e r) :=
  decidable_of_iff _ (closesBoundary_iff C p e r).symm

/-- What the package asks of its end. -/
def Closes : Prop :=
  match p.status with
  | .thresholdComplete => p.finalState = p.normalFinalState C ∧ p.finalState.thresholdComplete = true
  | .boundaryReset => ∃ e ∈ p.boundaryEvidence, ∃ r ∈ p.terminalBoundaryReset, p.ClosesBoundary C e r

instance : Decidable (p.Closes C) := by
  unfold Closes
  cases p.status <;> infer_instance

@[mk_iff]
structure RecordsValid : Prop where
  activation : p.activation.Valid C
  submissions : ∀ s ∈ p.submissions, s.Valid C
  classifications : ∀ c ∈ p.classifications, c.Valid C
  outcomes : ∀ o ∈ p.outcomes, o.Valid C
  transitions : ∀ t ∈ p.transitions, t.Valid C
  tail : ∀ e ∈ p.unresolvedTail, e.Valid C
  final : p.finalState.Valid
  evidence : ∀ e ∈ p.boundaryEvidence, e.Valid
  reset : ∀ r ∈ p.terminalBoundaryReset, r.Valid C

instance : Decidable (p.RecordsValid C) := decidable_of_iff _ (recordsValid_iff C p).symm

/-- `validate_package`. -/
@[mk_iff]
structure Valid : Prop where
  records : p.RecordsValid C
  threshold : p.status = .thresholdComplete →
    p.boundaryEvidence = none ∧ p.terminalBoundaryReset = none ∧ p.unresolvedTail = []
  boundary : p.status = .boundaryReset → p.boundaryEvidence.isSome ∧ p.terminalBoundaryReset.isSome
  activation : p.activation.activationDigest C = p.finalState.activationDigest
  ordered : (p.submissions.map (·.schedulerSequence)).Pairwise (· ≤ ·)
  identities : (p.submissions.map fun s => (s.activationDigest, s.sourceIdentity, s.submissionIdentity)).Nodup
  digests : (p.submissions.map (·.submissionDigest)).Nodup
  contents : (p.submissions.map (·.contentArtifact.digest)).Nodup
  sequences : (p.submissions.map (·.schedulerSequence)).Nodup
  targets : ∀ s ∈ p.submissions, s.activationDigest = p.activation.activationDigest C ∧
    s.repositoryDigest = p.activation.repositoryDigest ∧ s.targetRef = p.activation.targetRef
  gapless : Consecutive (p.watermark + 1) (p.submissions.map (·.schedulerSequence))
  precedes : ∀ n ∈ p.firstUnresolved, p.watermark < n
  processed : p.prefixSubmissions.map (·.schedulerSequence) = List.range' (p.watermark + 1) p.expectedClassifiedCount
  classified : p.classifications.length = p.expectedClassifiedCount
  binds : ∀ sc ∈ p.prefixSubmissions.zip p.classifications, p.Binds C sc.1 sc.2
  outcomesUnique : (p.outcomes.map (·.schedulerSequence)).Nodup
  transitionsUnique : (p.transitions.map (·.classification.schedulerSequence)).Nodup
  eligible : sameSet (p.outcomes.map (·.schedulerSequence))
    ((p.classifications.filter fun c => c.classification = .eligible).map (·.schedulerSequence))
  known : ∀ o ∈ p.outcomes, o.submissionDigest ∈ p.submissions.map (·.submissionDigest)
  accounted : p.transitions.length = p.expectedClassifiedCount
  chained : p.Chained p.watermark (p.genesis C) p.transitions
  covered : sameSet (p.transitions.map (·.classification.schedulerSequence))
    (p.prefixSubmissions.map (·.schedulerSequence))
  outcomesCovered : sameSet
    ((p.transitions.filter fun t => t.outcome.isSome).map (·.classification.schedulerSequence))
    (p.outcomes.map (·.schedulerSequence))
  outcomesEqual : ∀ t ∈ p.transitions, ∀ o ∈ t.outcome,
    lookup OutcomeBody.schedulerSequence p.outcomes t.classification.schedulerSequence = some o
  closes : p.Closes C
  final : p.finalState.lastSchedulerSequence = (p.normalFinalState C).lastSchedulerSequence

instance : Decidable (p.Valid C) := decidable_of_iff _ (valid_iff C p).symm

end PackageBody

/-! ## Records -/

structure Activation extends ActivationBody where
  valid : toActivationBody.Valid C

structure Submission extends SubmissionBody where
  valid : toSubmissionBody.Valid C

structure Classification extends ClassificationBody where
  valid : toClassificationBody.Valid C

structure Outcome extends OutcomeBody where
  valid : toOutcomeBody.Valid C

structure Transition extends TransitionBody where
  valid : toTransitionBody.Valid C

structure Violation extends ViolationBody where
  valid : toViolationBody.Valid

structure Reset extends ResetBody where
  valid : toResetBody.Valid C

structure EvidencePackage extends PackageBody where
  valid : toPackageBody.Valid C

instance : DecidableEq (Activation C) := fun a b =>
  decidable_of_iff (a.toActivationBody = b.toActivationBody) ⟨fun h => by cases a; cases b; cases h; rfl, fun h => h ▸ rfl⟩

instance : DecidableEq (Submission C) := fun a b =>
  decidable_of_iff (a.toSubmissionBody = b.toSubmissionBody) ⟨fun h => by cases a; cases b; cases h; rfl, fun h => h ▸ rfl⟩

instance : DecidableEq (Classification C) := fun a b =>
  decidable_of_iff (a.toClassificationBody = b.toClassificationBody) ⟨fun h => by cases a; cases b; cases h; rfl, fun h => h ▸ rfl⟩

instance : DecidableEq (Outcome C) := fun a b =>
  decidable_of_iff (a.toOutcomeBody = b.toOutcomeBody) ⟨fun h => by cases a; cases b; cases h; rfl, fun h => h ▸ rfl⟩

instance : DecidableEq (Transition C) := fun a b =>
  decidable_of_iff (a.toTransitionBody = b.toTransitionBody) ⟨fun h => by cases a; cases b; cases h; rfl, fun h => h ▸ rfl⟩

instance : DecidableEq Violation := fun a b =>
  decidable_of_iff (a.toViolationBody = b.toViolationBody) ⟨fun h => by cases a; cases b; cases h; rfl, fun h => h ▸ rfl⟩

instance : DecidableEq (Reset C) := fun a b =>
  decidable_of_iff (a.toResetBody = b.toResetBody) ⟨fun h => by cases a; cases b; cases h; rfl, fun h => h ▸ rfl⟩

instance : DecidableEq (EvidencePackage C) := fun a b =>
  decidable_of_iff (a.toPackageBody = b.toPackageBody) ⟨fun h => by cases a; cases b; cases h; rfl, fun h => h ▸ rfl⟩

end Contracts

end AvoCorrelate.MainLedger
