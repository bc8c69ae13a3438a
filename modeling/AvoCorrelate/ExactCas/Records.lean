import AvoCorrelate.Contracts
/-!
# Exact-CAS records

The authority chain around one compare-and-swap of `refs/heads/main` from the
base commit to the candidate: activation, authorization, intent, dispatch
marker, receipt, post-state observation, reconciliation and completion.

`H` is `canonical_digest`, as a function of the document it hashes; nothing is
assumed of it. A validator makes the digest field of a record the digest of its
other fields, so it is a function of them here and not a field. A record is its
fields (`...Body`) with what its validator checked.
-/
namespace AvoCorrelate.ExactCas

/-- A `sha256:` digest, as its 256 bits. -/
abbrev Sha256Digest := BitVec 256

/-- The one ref that the operation may move. -/
abbrev MainRef := { ref : String // ref = "refs/heads/main" }

abbrev GitObject := String

inductive PersonalCasOutcome
  | applied | rejected | ambiguous
  deriving DecidableEq

inductive PersonalCasErrorCode
  | casConflict | authFailed | protectionFailed | configurationFailed | leaseExpired | malformedResponse
  | staleResponse | serverAmbiguous | transportAmbiguous | reconciliationUnverified
  deriving DecidableEq

structure ArtifactRef where
  digest : Sha256Digest
  sizeBytes : Nat
  mediaType : String
  role : String
  createdAt : Instant
  deriving DecidableEq

/-! ## Fields -/

/-- What an activation and the records under it agree on. -/
structure SourceScope where
  repositoryDigest : Sha256Digest
  targetRef : MainRef
  sourceOperationId : Sha256Digest
  sourcePlanDigest : Sha256Digest
  sourcePackageDigest : Sha256Digest
  sourceCompositionDigest : Sha256Digest
  baseCommit : GitObject
  baseTree : GitObject
  candidateCommit : GitObject
  candidateTree : GitObject
  candidateRef : String
  candidateParents : List GitObject
  protectionRulesetDigest : Sha256Digest
  writerAppId : Int
  writerInstallationId : Int
  writerIdentity : String
  deriving DecidableEq

/-- The fields that `_assert_scope` compares. -/
structure Scope where
  activationDigest : Sha256Digest
  source : SourceScope
  leaseIdentity : String
  leaseDigest : Sha256Digest
  leaseExpiresAt : Instant
  claimNonce : String
  claimDigest : Sha256Digest
  deriving DecidableEq

/-- The operation with its scope: the fields of `_PersonalExactCasOperationBinding`. -/
structure Binding where
  operationId : Sha256Digest
  scope : Scope
  deriving DecidableEq

structure ActivationBody where
  source : SourceScope
  sourcePlanArtifact : ArtifactRef
  candidateRefImmutable : Bool
  candidateReachable : Bool
  activatedAt : Instant
  deriving DecidableEq

structure AuthorizationBody extends Binding where
  authorizedAt : Instant
  deriving DecidableEq

structure IntentBody extends Binding where
  authorizationDigest : Sha256Digest
  recordedAt : Instant
  deriving DecidableEq

structure DispatchStartedBody extends Binding where
  intentDigest : Sha256Digest
  startedAt : Instant
  deriving DecidableEq

structure ReceiptBody extends Binding where
  authorizationDigest : Sha256Digest
  intentDigest : Sha256Digest
  dispatchMarkerDigest : Sha256Digest
  responseDigest : Sha256Digest
  outcome : PersonalCasOutcome
  dispatchStarted : Bool
  errorCode : Option PersonalCasErrorCode
  httpStatus : Option Nat
  requestId : Option String
  observedAt : Instant
  deriving DecidableEq

structure PostStateBody extends Binding where
  authorizationDigest : Sha256Digest
  intentDigest : Sha256Digest
  receiptDigest : Sha256Digest
  receiptOutcome : PersonalCasOutcome
  observedRef : MainRef
  observedCommit : GitObject
  observedTree : GitObject
  observedParents : List GitObject
  observedAt : Instant
  deriving DecidableEq

inductive ReconciliationOutcome
  | applied | ambiguous
  deriving DecidableEq

structure ReconciliationBody where
  activationDigest : Sha256Digest
  operationId : Sha256Digest
  ambiguousReceipt : ReceiptBody
  observation : PostStateBody
  outcome : ReconciliationOutcome
  reconciledAt : Instant
  deriving DecidableEq

/-! ## Digests -/

/-- The documents that are hashed. `claim` and `operation` are dictionaries the
code builds; the others are records. -/
inductive Doc
  | claim (operationId : Sha256Digest) (leaseIdentity : String) (leaseDigest : Sha256Digest) (leaseExpiresAt : Instant)
    (claimNonce : String)
  | operation (activationDigest repositoryDigest : Sha256Digest) (targetRef : MainRef)
    (sourceOperationId sourcePlanDigest sourceCompositionDigest : Sha256Digest)
    (baseCommit baseTree candidateCommit candidateTree : GitObject) (candidateRef : String)
    (candidateParents : List GitObject) (protectionRulesetDigest : Sha256Digest)
    (writerAppId writerInstallationId : Int) (writerIdentity leaseIdentity : String) (leaseDigest : Sha256Digest)
    (leaseExpiresAt : Instant) (claimNonce : String)
  | activation (body : ActivationBody)
  | authorization (body : AuthorizationBody)
  | intent (body : IntentBody)
  | dispatchStarted (body : DispatchStartedBody)
  | receipt (body : ReceiptBody)
  | postState (body : PostStateBody)
  | reconciliation (body : ReconciliationBody)

variable (H : Doc → Sha256Digest)

def personalCasClaimDigest (operationId : Sha256Digest) (s : Scope) : Sha256Digest :=
  H (.claim operationId s.leaseIdentity s.leaseDigest s.leaseExpiresAt s.claimNonce)

/-- The package digest of the source is not part of the identity. -/
def personalCasOperationId (s : Scope) : Sha256Digest :=
  H (.operation s.activationDigest s.source.repositoryDigest s.source.targetRef s.source.sourceOperationId
    s.source.sourcePlanDigest s.source.sourceCompositionDigest s.source.baseCommit s.source.baseTree
    s.source.candidateCommit s.source.candidateTree s.source.candidateRef s.source.candidateParents
    s.source.protectionRulesetDigest s.source.writerAppId s.source.writerInstallationId s.source.writerIdentity
    s.leaseIdentity s.leaseDigest s.leaseExpiresAt s.claimNonce)

/-! ## Validators -/

def SourceScope.soleParent (s : SourceScope) : Prop := s.candidateParents = [s.baseCommit]

instance (s : SourceScope) : Decidable s.soleParent := inferInstanceAs (Decidable (_ = _))

def ActivationBody.Valid (b : ActivationBody) : Prop :=
  b.source.soleParent ∧ b.candidateRefImmutable = true ∧ b.candidateReachable = true ∧
    b.sourcePlanArtifact.digest = b.source.sourcePlanDigest ∧ b.sourcePlanArtifact.role = "main-graduation-plan" ∧
    b.sourcePlanArtifact.mediaType = "application/vnd.avo.main-graduation-plan+json"

instance (b : ActivationBody) : Decidable b.Valid := inferInstanceAs (Decidable (_ ∧ _))

/-- `validate_scope`. -/
def Binding.Valid (b : Binding) : Prop :=
  b.scope.source.soleParent ∧ b.scope.claimDigest = personalCasClaimDigest H b.operationId b.scope ∧
    b.operationId = personalCasOperationId H b.scope

instance (b : Binding) : Decidable (b.Valid H) := inferInstanceAs (Decidable (_ ∧ _))

def AuthorizationBody.Valid (b : AuthorizationBody) : Prop :=
  b.toBinding.Valid H ∧ b.authorizedAt < b.scope.leaseExpiresAt

instance (b : AuthorizationBody) : Decidable (b.Valid H) := inferInstanceAs (Decidable (_ ∧ _))

def IntentBody.Valid (b : IntentBody) : Prop := b.toBinding.Valid H ∧ b.recordedAt < b.scope.leaseExpiresAt

instance (b : IntentBody) : Decidable (b.Valid H) := inferInstanceAs (Decidable (_ ∧ _))

def DispatchStartedBody.Valid (b : DispatchStartedBody) : Prop :=
  b.toBinding.Valid H ∧ b.startedAt < b.scope.leaseExpiresAt

instance (b : DispatchStartedBody) : Decidable (b.Valid H) := inferInstanceAs (Decidable (_ ∧ _))

/-- A pre-dispatch rejection is valid; an applied or ambiguous outcome needs a
started dispatch. -/
def ReceiptBody.Valid (b : ReceiptBody) : Prop :=
  b.toBinding.Valid H ∧ (b.outcome = .ambiguous → b.dispatchStarted = true) ∧
    (b.outcome = .applied → b.dispatchStarted = true)

instance (b : ReceiptBody) : Decidable (b.Valid H) := inferInstanceAs (Decidable (_ ∧ _))

/-- Main is at the candidate commit and tree, over the base commit alone. -/
def PostStateBody.Exact (b : PostStateBody) : Prop :=
  b.observedCommit = b.scope.source.candidateCommit ∧ b.observedTree = b.scope.source.candidateTree ∧
    b.observedParents = [b.scope.source.baseCommit]

instance (b : PostStateBody) : Decidable b.Exact := inferInstanceAs (Decidable (_ ∧ _))

def PostStateBody.Valid (b : PostStateBody) : Prop := b.toBinding.Valid H ∧ (b.receiptOutcome = .applied → b.Exact)

instance (b : PostStateBody) : Decidable (b.Valid H) := inferInstanceAs (Decidable (_ ∧ _))

def ReconciliationBody.Valid (b : ReconciliationBody) : Prop :=
  b.ambiguousReceipt.Valid H ∧ b.observation.Valid H ∧
    (b.ambiguousReceipt.outcome = .ambiguous ∧ b.operationId = b.ambiguousReceipt.operationId ∧
      b.activationDigest = b.ambiguousReceipt.scope.activationDigest ∧ b.observation.operationId = b.operationId ∧
      b.observation.receiptDigest = H (.receipt b.ambiguousReceipt)) ∧
    (b.outcome = .applied → b.observation.Exact)

instance (b : ReconciliationBody) : Decidable (b.Valid H) := inferInstanceAs (Decidable (_ ∧ _))

/-! ## Records -/

structure Activation extends ActivationBody where
  valid : toActivationBody.Valid
  deriving DecidableEq

structure Authorization extends AuthorizationBody where
  valid : toAuthorizationBody.Valid H
  deriving DecidableEq

structure Intent extends IntentBody where
  valid : toIntentBody.Valid H
  deriving DecidableEq

structure DispatchStarted extends DispatchStartedBody where
  valid : toDispatchStartedBody.Valid H
  deriving DecidableEq

structure Receipt extends ReceiptBody where
  valid : toReceiptBody.Valid H
  deriving DecidableEq

structure PostState extends PostStateBody where
  valid : toPostStateBody.Valid H
  deriving DecidableEq

structure Reconciliation extends ReconciliationBody where
  valid : toReconciliationBody.Valid H
  deriving DecidableEq

variable {H} in
theorem Receipt.eq_of_body {r r' : Receipt H} (h : r.toReceiptBody = r'.toReceiptBody) : r = r' := by
  cases r
  cases r'
  cases h
  rfl

variable {H} in
theorem PostState.eq_of_body {o o' : PostState H} (h : o.toPostStateBody = o'.toPostStateBody) : o = o' := by
  cases o
  cases o'
  cases h
  rfl

/-- Terminal evidence; its `outcome` is the literal `applied`. -/
structure Completion where
  activationDigest : Sha256Digest
  operationId : Sha256Digest
  receiptDigest : Sha256Digest
  postStateObservationDigest : Sha256Digest
  reconciliationDigest : Option Sha256Digest
  completedAt : Instant
  deriving DecidableEq

variable {H}

def Activation.activationDigest (H : Doc → Sha256Digest) (a : Activation) : Sha256Digest := H (.activation a.toActivationBody)

def Authorization.authorizationDigest (a : Authorization H) : Sha256Digest := H (.authorization a.toAuthorizationBody)

def Intent.intentDigest (i : Intent H) : Sha256Digest := H (.intent i.toIntentBody)

def DispatchStarted.dispatchMarkerDigest (m : DispatchStarted H) : Sha256Digest :=
  H (.dispatchStarted m.toDispatchStartedBody)

def Receipt.receiptDigest (r : Receipt H) : Sha256Digest := H (.receipt r.toReceiptBody)

def PostState.canonicalDigest (o : PostState H) : Sha256Digest := H (.postState o.toPostStateBody)

def Reconciliation.canonicalDigest (r : Reconciliation H) : Sha256Digest := H (.reconciliation r.toReconciliationBody)

/-! ## Building -/

/-- `build`: the record with these fields, when its validator accepts them. -/
def Intent.build (b : IntentBody) : Option (Intent H) := if h : b.Valid H then some ⟨b, h⟩ else none

def DispatchStarted.build (b : DispatchStartedBody) : Option (DispatchStarted H) :=
  if h : b.Valid H then some ⟨b, h⟩ else none

def Reconciliation.build (b : ReconciliationBody) : Option (Reconciliation H) :=
  if h : b.Valid H then some ⟨b, h⟩ else none

theorem Intent.build_eq {b : IntentBody} {i : Intent H} (h : Intent.build b = some i) : i.toIntentBody = b := by
  unfold Intent.build at h
  split at h
  · cases h; rfl
  · cases h

theorem DispatchStarted.build_eq {b : DispatchStartedBody} {m : DispatchStarted H}
    (h : DispatchStarted.build b = some m) : m.toDispatchStartedBody = b := by
  unfold DispatchStarted.build at h
  split at h
  · cases h; rfl
  · cases h

theorem Reconciliation.build_eq {b : ReconciliationBody} {r : Reconciliation H} (h : Reconciliation.build b = some r) :
    r.toReconciliationBody = b := by
  unfold Reconciliation.build at h
  split at h
  · cases h; rfl
  · cases h

end AvoCorrelate.ExactCas
