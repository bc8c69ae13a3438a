import AvoCorrelate.ExactCas.Records
import Mathlib.Tactic.MkIffOfInductiveProp
/-!
# Documents of main graduation

The append-only records around the six external mutations that bring a candidate
to the protected main ref, or take it back: intent, receipt, fence, resolution and
dispatch owner. Slots and identity files are kept under digests, so here, unlike in
`ExactCas` and `Promotion`, a digest tells its document: `Canon` is `canonical_digest`
without collisions, into a type `D` of digests. A digest field that the validator
makes the digest of the other fields is a function of them. Literal fields, and the
scope digests that repeat the target, are left out.
-/
namespace AvoCorrelate.Graduation

open ExactCas (MainRef GitObject)

/-- `MainMutationStage`. -/
inductive Stage
  | candidatePublication | pullRequestOpen | admissionCheck | queueEnqueue | mergeGroupHold | releaseTransition
  deriving DecidableEq

/-- `_PARENT_STAGE`. -/
def Stage.parent : Stage → Option Stage
  | .candidatePublication => none
  | .pullRequestOpen => some .candidatePublication
  | .admissionCheck => some .pullRequestOpen
  | .queueEnqueue => some .admissionCheck
  | .mergeGroupHold => some .queueEnqueue
  | .releaseTransition => some .mergeGroupHold

/-- `MainMutationOutcome`. -/
inductive MutationOutcome
  | applied | alreadyApplied | rejected | ambiguous | reconciliationRequired
  deriving DecidableEq

/-- `outcome in {"applied", "already_applied", "rejected"}`. -/
def MutationOutcome.terminal : MutationOutcome → Bool
  | .applied | .alreadyApplied | .rejected => true
  | .ambiguous | .reconciliationRequired => false

/-- `outcome in {"applied", "already_applied"}`. -/
def MutationOutcome.success : MutationOutcome → Bool
  | .applied | .alreadyApplied => true
  | _ => false

/-- The outcome of a resolution; an observed one says how the mutation was applied. -/
inductive ResolutionOutcome
  | observedApplied | observedAlreadyApplied | notApplied
  deriving DecidableEq

def ResolutionOutcome.observed : ResolutionOutcome → Bool
  | .notApplied => false
  | _ => true

variable {D : Type}

/-- `MainBound`: the target. -/
structure MainBound (D : Type) where
  repositoryDigest : D
  targetRef : MainRef
  deriving DecidableEq

/-- The key of an external object: any text, or a digest as text. -/
inductive ExternalKey (D : Type)
  | text (s : String)
  | digest (d : D)
  deriving DecidableEq

/-- `MainExternalIdentity`. -/
structure ExternalIdentity (D : Type) extends MainBound D where
  operationId : D
  stage : Stage
  externalKey : ExternalKey D
  queueGenerationDigest : Option D
  deriving DecidableEq

/-- What intents and receipts have in common. -/
structure MutationBinding (D : Type) extends MainBound D where
  operationId : D
  stage : Stage
  parentIntentDigest : Option D
  leaseIdentity : String
  leaseDigest : D
  leaseEpochDigest : D
  policyEpochDigest : D
  controllerConfigDigest : D
  preparationAuthorizationDigest : D
  releaseAuthorizationDigest : Option D
  releaseClaimDigest : Option D
  externalIdentity : ExternalIdentity D
  deriving DecidableEq

/-- `MainMutationReceipt`. -/
structure ReceiptBody (D : Type) extends MutationBinding D where
  intentDigest : D
  outcome : MutationOutcome
  dispatchStarted : Bool
  responseDigest : D
  observedAt : Instant
  deriving DecidableEq

/-- `MainMutationIntent`. -/
structure IntentBody (D : Type) extends MutationBinding D where
  parentStage : Option Stage
  parentReceipt : Option (ReceiptBody D)
  parentResolutionDigest : Option D
  requestDigest : D
  recordedAt : Instant
  deriving DecidableEq

/-- `MainUnresolvedMutationFence`. -/
structure Fence (D : Type) extends MainBound D where
  operationId : D
  stage : Stage
  intentDigest : D
  sourceReceiptDigest : D
  externalIdentityDigest : D
  leaseIdentity : String
  leaseDigest : D
  openedAt : Instant
  deriving DecidableEq

/-- `MainMutationFenceResolution`. -/
structure Resolution (D : Type) extends MainBound D where
  fenceDigest : D
  operationId : D
  intentDigest : D
  externalIdentityDigest : D
  leaseIdentity : String
  leaseDigest : D
  resolvedReceiptDigest : D
  authoritativeObservationDigest : D
  providerIdentity : String
  providerApiVersion : String
  outcome : ResolutionOutcome
  resolvedAt : Instant
  deriving DecidableEq

/-- `_MutationDispatchOwner`. -/
structure DispatchOwner (D : Type) extends MainBound D where
  operationId : D
  intentDigest : D
  requestDigest : D
  stage : Stage
  externalIdentityDigest : D
  leaseIdentity : String
  leaseDigest : D
  leaseEpochDigest : D
  recordedAt : Instant
  deriving DecidableEq

/-- What `main_release_external_key` hashes. -/
structure ReleaseKey (D : Type) extends MainBound D where
  operationId : D
  authorizationDigest : D
  holdObservationDigest : D
  groupSha : GitObject
  holdRunId : String
  holdNonce : String
  queueGenerationDigest : D
  releaseIssuerAppId : Nat
  deriving DecidableEq

/-- The documents that are hashed: records, and the dictionaries the code builds. -/
inductive Doc (D : Type)
  | externalIdentity (identity : ExternalIdentity D)
  | releaseKey (key : ReleaseKey D)
  | intent (body : IntentBody D)
  | receipt (body : ReceiptBody D)
  | fence (fence : Fence D)
  | resolution (resolution : Resolution D)
  -- the exception's type and message
  | failure (error : String)
  -- {"recovery": "receipt-missing-after-reservation"}
  | missingDispatch

structure Canon (D : Type) where
  digest : Doc D → D
  injective : Function.Injective digest

variable (C : Canon D)

def ExternalIdentity.digest (e : ExternalIdentity D) : D := C.digest (.externalIdentity e)

def IntentBody.digest (b : IntentBody D) : D := C.digest (.intent b)

def ReceiptBody.digest (b : ReceiptBody D) : D := C.digest (.receipt b)

def Fence.digest (f : Fence D) : D := C.digest (.fence f)

def Resolution.digest (q : Resolution D) : D := C.digest (.resolution q)

theorem IntentBody.digest_inj {b b' : IntentBody D} (h : b.digest C = b'.digest C) : b = b' := by
  cases C.injective h
  rfl

theorem ReceiptBody.digest_inj {b b' : ReceiptBody D} (h : b.digest C = b'.digest C) : b = b' := by
  cases C.injective h
  rfl

theorem Resolution.digest_inj {q q' : Resolution D} (h : q.digest C = q'.digest C) : q = q' := by
  cases C.injective h
  rfl

/-! ## Validators -/

/-- `validate_identity`, less the digest. -/
def ExternalIdentity.Valid (e : ExternalIdentity D) : Prop :=
  (e.stage = .mergeGroupHold ∨ e.stage = .releaseTransition → e.queueGenerationDigest.isSome = true) ∧
    (e.stage = .admissionCheck ∨ e.stage = .queueEnqueue → e.queueGenerationDigest = none)

/-- What the validators of intent and receipt both check. -/
@[mk_iff]
structure MutationBinding.Valid (b : MutationBinding D) : Prop where
  external : b.externalIdentity.toMainBound = b.toMainBound ∧ b.externalIdentity.operationId = b.operationId ∧
    b.externalIdentity.stage = b.stage
  identity : b.externalIdentity.Valid
  release : (b.stage = .releaseTransition → b.releaseAuthorizationDigest.isSome = true ∧ b.releaseClaimDigest.isSome = true) ∧
    (b.stage ≠ .releaseTransition → b.releaseAuthorizationDigest = none ∧ b.releaseClaimDigest = none)

/-- `validate_receipt`. -/
@[mk_iff]
structure ReceiptBody.Valid (b : ReceiptBody D) : Prop where
  binding : b.toMutationBinding.Valid
  dispatch : b.dispatchStarted = (b.outcome != .rejected)

/-- `validate_intent`. -/
@[mk_iff]
structure IntentBody.Valid (b : IntentBody D) : Prop where
  binding : b.toMutationBinding.Valid
  parent : b.parentStage = b.stage.parent
  named : b.parentStage.isSome = b.parentIntentDigest.isSome
  root : b.parentStage = none → b.parentReceipt = none ∧ b.parentResolutionDigest = none
  proof : b.parentStage.isSome = true → b.parentReceipt.isSome = !b.parentResolutionDigest.isSome
  receipt : ∀ p ∈ b.parentReceipt, p.Valid ∧ b.parentStage = some p.stage ∧ b.parentIntentDigest = some p.intentDigest ∧
    p.operationId = b.operationId ∧ p.toMainBound = b.toMainBound ∧ p.outcome.success = true

variable [DecidableEq D]

instance (e : ExternalIdentity D) : Decidable e.Valid := inferInstanceAs (Decidable (_ ∧ _))

instance (b : MutationBinding D) : Decidable b.Valid := decidable_of_iff _ (MutationBinding.valid_iff b).symm

instance (b : ReceiptBody D) : Decidable b.Valid := decidable_of_iff _ (ReceiptBody.valid_iff b).symm

instance (b : IntentBody D) : Decidable b.Valid := decidable_of_iff _ (IntentBody.valid_iff b).symm

/-- A receipt that its validator accepted. -/
structure Receipt (D : Type) extends ReceiptBody D where
  valid : toReceiptBody.Valid

/-- An intent that its validator accepted. -/
structure Intent (D : Type) extends IntentBody D where
  valid : toIntentBody.Valid

omit [DecidableEq D] in
theorem Receipt.ext_body {r r' : Receipt D} (h : r.toReceiptBody = r'.toReceiptBody) : r = r' := by
  cases r; cases r'; cases h; rfl

omit [DecidableEq D] in
theorem Intent.ext_body {i i' : Intent D} (h : i.toIntentBody = i'.toIntentBody) : i = i' := by
  cases i; cases i'; cases h; rfl

instance : DecidableEq (Receipt D) := fun r r' =>
  decidable_of_iff (r.toReceiptBody = r'.toReceiptBody) ⟨Receipt.ext_body, fun h => h ▸ rfl⟩

instance : DecidableEq (Intent D) := fun i i' =>
  decidable_of_iff (i.toIntentBody = i'.toIntentBody) ⟨Intent.ext_body, fun h => h ▸ rfl⟩

/-- The receipt with these fields, when its validator accepts them. -/
def Receipt.build (b : ReceiptBody D) : Option (Receipt D) := if h : b.Valid then some ⟨b, h⟩ else none

theorem Receipt.build_eq {b : ReceiptBody D} {r : Receipt D} (h : Receipt.build b = some r) : r.toReceiptBody = b := by
  unfold Receipt.build at h
  split at h
  · cases h; rfl
  · cases h

end AvoCorrelate.Graduation
