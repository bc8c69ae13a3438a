import AvoCorrelate.Graduation.Disk
/-!
# The phase-A part of the main graduation journal

Reading a record repeats the checks of its chain: a resolution reads its fence and
receipt, a fence its receipt, a receipt its intent, an intent the receipt and the
intent of its predecessor. Every predecessor has an earlier stage, so the recursion
is over at most six stages; a record whose chain is longer is refused. The cache of
one traversal, which skips checks that were made a moment before, is left out.
-/
open AvoLib

namespace AvoCorrelate.Graduation

variable {D : Type} [DecidableEq D]

/-- What is raised: `MainGraduationJournalError`, its subclass for conflicts,
`C4StageExecutionError`, or anything else. -/
inductive Exc
  | journal (message : String)
  | conflict (message : String)
  | execution (message : String)
  | other (message : String)
  deriving DecidableEq

abbrev Code (D : Type) (α : Type) := Prog (Rec (D := D)) (Port.Answer (D := D)) Exc α

def Answer.orRaise {α : Type} : Answer α → Code D α
  | .raised message => .raise (.other message)
  | .returned v => .done v

def now : Code D Instant := .port .clock Answer.orRaise

namespace Journal

variable (C : Canon D)

/-! ## Identities -/

def matchIdentity (missing otherOperation differs : String) (i : Intent D) : Found (Intent D) → Code D Unit
  | .missing => .raise (.journal missing)
  | .malformed => .raise (.journal "mutation-intent index is malformed")
  | .found current => do
    Prog.require (current.operationId = i.operationId) (.conflict otherOperation)
    Prog.require (current = i) (.conflict differs)

def assertStageIdentity (i : Intent D) : Code D Unit := do
  .read (.stageIdentity i.externalIdentity) (matchIdentity "mutation stage identity is not indexed"
    "mutation stage operation identity differs" "mutation stage identity differs" i)
  .read (.operationStage i.operationId i.stage) (matchIdentity "operation stage identity is not indexed"
    "operation stage identity operation identity differs" "operation stage identity differs" i)
  .read i.externalObject (matchIdentity "external object identity is not indexed"
    "external object identity operation identity differs" "external object identity differs" i)

/-- `_assert_phase_identity` of a receipt. -/
def assertReceiptIdentity (r : Receipt D) : Code D Unit :=
  .read (.receiptIdentity r.intentDigest) fun
    | .missing => .raise (.journal "mutation-receipt identity is not indexed")
    | .malformed => .raise (.journal "mutation-receipt index is malformed")
    | .found current => do
      Prog.require (current.operationId = r.operationId) (.conflict "mutation-receipt operation identity differs")
      Prog.require (current = r) (.conflict "mutation-receipt identity differs")

/-- `_read_fence_resolution_by_fence`. -/
def readFenceResolution (fenceDigest : D) : Code D (Option (Resolution D)) :=
  .port (.readResolution fenceDigest) fun
    | .missing => .done none
    | .malformed => .raise (.journal "mutation-fence-resolution index is malformed")
    | .found q => do
      Prog.require (q.fenceDigest = fenceDigest) (.conflict "mutation fence resolution index differs")
      return some q

/-- `_assert_phase_identity` of a resolution. -/
def assertResolutionIdentity (q : Resolution D) : Code D Unit :=
  .port (.readResolution q.fenceDigest) fun
    | .missing => .raise (.journal "mutation-fence-resolution identity is not indexed")
    | .malformed => .raise (.journal "mutation-fence-resolution index is malformed")
    | .found current => do
      Prog.require (current.operationId = q.operationId) (.conflict "mutation-fence-resolution operation identity differs")
      Prog.require (current = q) (.conflict "mutation-fence-resolution identity differs")

/-! ## Verifiers -/

def verifyMutationReceipt (r : Receipt D) (i : Intent D) : Code D Unit :=
  .port (.verifyReceipt r i) fun
    | .returned _ => .done ()
    | .raised _ => .raise (.journal "mutation receipt authority verification failed")

def verifyFenceAuthority (q : Resolution D) (r : Receipt D) : Code D Unit := .port (.verifyResolution q r) Answer.orRaise

/-! ## Slots -/

/-- What is in the slot of a target; one that cannot be read raises. -/
def look (target : MainBound D) : Code D (Option (Dir D)) :=
  .port (.look target) fun r => Prog.ofOption r (.journal "target mutation slot is unreadable")

def lookClosed (fenceDigest : D) : Code D (Option (Dir D)) :=
  .port (.lookClosed fenceDigest) fun r => Prog.ofOption r (.journal "closed target mutation fence is unreadable")

/-- `_read_target_fence_envelope` of a directory. -/
def fenceIn (dir : Option (Dir D)) : Code D (Fence D) :=
  Prog.ofOption (dir.bind Dir.record) (.journal "target mutation fence index is malformed")

/-- `_read_target_reservation` of a directory. -/
def reservationIn (dir : Option (Dir D)) : Code D (Intent D) :=
  Prog.ofOption (dir.bind Dir.reservation) (.journal "target mutation reservation is malformed")

def hasRecord (dir : Option (Dir D)) : Bool := (dir.bind Dir.record).isSome

def hasReservation (dir : Option (Dir D)) : Bool := (dir.bind Dir.reservation).isSome

def assertTargetFence (f : Fence D) : Code D Unit := do
  let slot ← look f.toMainBound
  if slot.isSome then
    let slot ← look f.toMainBound
    if hasRecord slot then
      let current ← look f.toMainBound >>= fenceIn
      Prog.require (current.digest C = f.digest C) (.conflict "target mutation fence digest differs")
    else
      let slot ← look f.toMainBound
      Prog.require (hasReservation slot = true) (.journal "target mutation slot is malformed")
  else
    let closed ← lookClosed (f.digest C)
    Prog.require (hasRecord closed = true) (.journal "target mutation fence is not globally indexed")
    let current ← lookClosed (f.digest C) >>= fenceIn
    Prog.require (current.digest C = f.digest C) (.conflict "target mutation fence digest differs")

/-! ## Chains -/

/-- The readers that the checks of one record use. -/
structure Readers (D : Type) where
  intent : D → Code D (Option (Intent D))
  receipt : D → Code D (Option (Receipt D))
  fence : D → Code D (Option (Fence D))
  resolution : D → Code D (Option (Resolution D))

def sourceIntent (readIntent : D → Code D (Option (Intent D))) (r : Receipt D) : Code D (Intent D) := do
  let prior ← readIntent r.intentDigest
  let i ← Prog.ofOption prior (.journal "mutation receipt intent is missing")
  Prog.require (i.digest C = r.intentDigest) (.conflict "mutation receipt intent differs")
  return i

/-- The fields of intent and receipt that the chain check compares. -/
def SameMutation (i r : MutationBinding D) : Prop :=
  i.stage = r.stage ∧ i.externalIdentity = r.externalIdentity ∧ i.parentIntentDigest = r.parentIntentDigest ∧
    i.leaseIdentity = r.leaseIdentity ∧ i.leaseDigest = r.leaseDigest ∧ i.leaseEpochDigest = r.leaseEpochDigest ∧
    i.policyEpochDigest = r.policyEpochDigest ∧ i.controllerConfigDigest = r.controllerConfigDigest ∧
    i.preparationAuthorizationDigest = r.preparationAuthorizationDigest ∧
    i.releaseAuthorizationDigest = r.releaseAuthorizationDigest ∧ i.releaseClaimDigest = r.releaseClaimDigest

instance (i r : MutationBinding D) : Decidable (SameMutation i r) := inferInstanceAs (Decidable (_ ∧ _))

/-- `_validate_phase_chain` of a receipt. -/
def validateReceipt (readIntent : D → Code D (Option (Intent D))) (r : Receipt D) : Code D Unit := do
  let prior ← readIntent r.intentDigest
  let i ← Prog.ofOption prior (.journal "mutation receipt intent is not durable")
  Prog.require (i.operationId = r.operationId) (.journal "mutation receipt intent is not durable")
  assertStageIdentity i
  Prog.require (SameMutation i.toMutationBinding r.toMutationBinding) (.journal "mutation receipt intent binding differs")

/-- `_read` of a receipt. -/
def readReceiptWith (readIntent : D → Code D (Option (Intent D))) (receiptDigest : D) : Code D (Option (Receipt D)) :=
  .read (.receipt receiptDigest) fun
    | .missing => .done none
    | .malformed => .raise (.journal "mutation-receipt index is malformed")
    | .found r => do
      Prog.require (r.digest C = receiptDigest) (.conflict "phase-A key differs from record")
      validateReceipt readIntent r
      assertReceiptIdentity r
      let i ← sourceIntent C readIntent r
      verifyMutationReceipt r i
      return some r

/-- `_read_receipt_for_intent`. -/
def readReceiptForIntentWith (readIntent : D → Code D (Option (Intent D))) (intentDigest : D) :
    Code D (Option (Receipt D)) :=
  .read (.receiptIdentity intentDigest) fun
    | .missing => .done none
    | .malformed => .raise (.journal "mutation-receipt index is malformed")
    | .found r => do
      Prog.require (r.intentDigest = intentDigest) (.conflict "mutation receipt identity differs")
      let i ← sourceIntent C readIntent r
      verifyMutationReceipt r i
      return some r

/-- The fields of receipt and fence that the chain check compares. -/
def SameFenced (r : Receipt D) (f : Fence D) : Prop :=
  r.intentDigest = f.intentDigest ∧ r.operationId = f.operationId ∧ r.toMainBound = f.toMainBound ∧
    r.externalIdentity.digest C = f.externalIdentityDigest ∧ r.leaseIdentity = f.leaseIdentity ∧
    r.leaseDigest = f.leaseDigest

instance (r : Receipt D) (f : Fence D) : Decidable (SameFenced C r f) := inferInstanceAs (Decidable (_ ∧ _))

/-- `_validate_phase_chain` of a fence. -/
def validateFence (readReceipt : D → Code D (Option (Receipt D))) (f : Fence D) : Code D Unit := do
  let prior ← readReceipt f.sourceReceiptDigest
  let r ← Prog.ofOption prior (.journal "mutation fence requires durable receipt")
  Prog.require (r.outcome.terminal = false ∧ r.dispatchStarted = true)
    (.journal "mutation fence requires an ambiguous receipt")
  Prog.require (SameFenced C r f) (.journal "mutation fence external identity differs")

/-- `_read` of a fence. -/
def readFenceWith (readReceipt : D → Code D (Option (Receipt D))) (fenceDigest : D) : Code D (Option (Fence D)) :=
  .read (.fence fenceDigest) fun
    | .missing => .done none
    | .malformed => .raise (.journal "unresolved-mutation-fence index is malformed")
    | .found f => do
      Prog.require (f.digest C = fenceDigest) (.conflict "phase-A key differs from record")
      validateFence C readReceipt f
      assertTargetFence C f
      return some f

/-- The fields of resolution and fence that the chain check compares. -/
def SameResolved (q : Resolution D) (f : Fence D) : Prop :=
  q.operationId = f.operationId ∧ q.intentDigest = f.intentDigest ∧ q.toMainBound = f.toMainBound ∧
    q.externalIdentityDigest = f.externalIdentityDigest ∧ q.leaseIdentity = f.leaseIdentity ∧ q.leaseDigest = f.leaseDigest

instance (q : Resolution D) (f : Fence D) : Decidable (SameResolved q f) := inferInstanceAs (Decidable (_ ∧ _))

/-- The fields of resolution and receipt that the chain check compares. -/
def SameSource (q : Resolution D) (f : Fence D) (r : Receipt D) : Prop :=
  r.intentDigest = q.intentDigest ∧ r.outcome.terminal = false ∧ r.toMainBound = q.toMainBound ∧ r.stage = f.stage ∧
    r.externalIdentity.digest C = q.externalIdentityDigest ∧ r.leaseIdentity = q.leaseIdentity ∧
    r.leaseDigest = q.leaseDigest ∧ r.observedAt ≤ q.resolvedAt

instance (q : Resolution D) (f : Fence D) (r : Receipt D) : Decidable (SameSource C q f r) :=
  inferInstanceAs (Decidable (_ ∧ _))

/-- `_validate_phase_chain` of a resolution. -/
def validateResolution (readFence : D → Code D (Option (Fence D))) (readReceipt : D → Code D (Option (Receipt D)))
    (q : Resolution D) : Code D Unit := do
  let fencePrior ← readFence q.fenceDigest
  let f ← Prog.ofOption fencePrior (.journal "mutation resolution requires durable fence")
  Prog.require (SameResolved q f) (.journal "mutation resolution binding differs")
  let receiptPrior ← readReceipt q.resolvedReceiptDigest
  let r ← Prog.ofOption receiptPrior (.journal "mutation resolution receipt is missing")
  Prog.require (SameSource C q f r) (.journal "mutation resolution receipt is not ambiguous")

def sourceReceipt (readReceipt : D → Code D (Option (Receipt D))) (q : Resolution D) : Code D (Receipt D) := do
  let prior ← readReceipt q.resolvedReceiptDigest
  Prog.ofOption prior (.journal "mutation resolution receipt is missing")

/-- `_read` of a resolution. -/
def readResolutionWith (readFence : D → Code D (Option (Fence D))) (readReceipt : D → Code D (Option (Receipt D)))
    (resolutionDigest : D) : Code D (Option (Resolution D)) :=
  .read (.resolution resolutionDigest) fun
    | .missing => .done none
    | .malformed => .raise (.journal "mutation-fence-resolution index is malformed")
    | .found q => do
      Prog.require (q.digest C = resolutionDigest) (.conflict "phase-A key differs from record")
      validateResolution C readFence readReceipt q
      assertResolutionIdentity q
      let r ← sourceReceipt readReceipt q
      verifyFenceAuthority q r
      return some q

def Readers.over (readIntent : D → Code D (Option (Intent D))) : Readers D :=
  let readReceipt := readReceiptWith C readIntent
  let readFence := readFenceWith C readReceipt
  ⟨readIntent, readReceipt, readFence, readResolutionWith C readFence readReceipt⟩

/-- No predecessor can be read. -/
def Readers.exhausted : Readers D :=
  ⟨fun _ => .raise (.journal "malformed or unverifiable main graduation mutation-intent"),
    fun _ => .raise (.journal "malformed or unverifiable main graduation mutation-receipt"),
    fun _ => .raise (.journal "malformed or unverifiable main graduation unresolved-mutation-fence"),
    fun _ => .raise (.journal "malformed or unverifiable main graduation mutation-fence-resolution")⟩

/-! ## The chain of an intent -/

/-- The predecessor's receipt that the intent carries. -/
def parentReceipt (i : Intent D) : Option (Receipt D) :=
  match h : i.parentReceipt with
  | some p => some ⟨p, (i.valid.receipt p h).1⟩
  | none => none

omit [DecidableEq D] in
theorem parentReceipt_none {i : Intent D} (h : parentReceipt i = none) : i.parentReceipt = none := by
  unfold parentReceipt at h
  split at h
  · cases h
  · next hb => exact hb

omit [DecidableEq D] in
theorem parentReceipt_some {i : Intent D} {p : Receipt D} (h : parentReceipt i = some p) : i.parentReceipt = some p.toReceiptBody := by
  unfold parentReceipt at h
  split at h
  · next b hb => cases h; exact hb
  · cases h

/-- The predecessor's receipt and intent are durable. -/
def requireParentReceipt (R : Readers D) (i : Intent D) (p : Receipt D) : Code D Unit := do
  let prior ← R.receipt (p.digest C)
  Prog.require (prior = some p) (.journal "mutation intent parent receipt is not durable")
  let parentPrior ← (match i.parentIntentDigest with
    | some d => R.intent d
    | none => .raise (.other "journal key must be a SHA-256 digest"))
  let parent ← Prog.ofOption parentPrior (.journal "mutation intent parent intent is not durable")
  verifyMutationReceipt p parent

/-- `_verify_phase_parent_resolution`. -/
def verifyParentResolution (R : Readers D) (i : Intent D) (resolutionDigest : D) : Code D Unit := do
  let resolved ← R.resolution resolutionDigest
  let q ← Prog.ofOption resolved (.journal "mutation intent resolution predecessor is missing")
  Prog.require (q.operationId = i.operationId ∧ q.outcome.observed = true)
    (.journal "mutation intent resolution predecessor differs")
  let fencePrior ← R.fence q.fenceDigest
  let f ← Prog.ofOption fencePrior (.journal "mutation resolution fence is missing")
  Prog.require (some f.intentDigest = i.parentIntentDigest ∧ some f.stage = i.parentStage)
    (.journal "mutation resolution does not close exact predecessor")
  let receiptPrior ← R.receipt q.resolvedReceiptDigest
  Prog.require (receiptPrior.any (fun r => !r.outcome.terminal) = true)
    (.journal "mutation resolution receipt is not ambiguous")

def SamePreparation (i : Intent D) (prep : Preparation D) (lease : LeaseRecord D) (config : D) : Prop :=
  (i.preparationAuthorizationDigest = prep.authorizationDigest ∧ i.toMainBound = prep.toMainBound ∧
    i.leaseIdentity = prep.leaseIdentity ∧ i.leaseDigest = prep.leaseDigest ∧ i.policyEpochDigest = prep.policyEpoch) ∧
  i.controllerConfigDigest = config ∧
  (lease.owner = i.leaseIdentity ∧ lease.leaseDigest = i.leaseDigest ∧ lease.policyEpoch = i.policyEpochDigest ∧
    lease.leaseEpochDigest = i.leaseEpochDigest ∧ lease.toMainBound = i.toMainBound ∧ i.recordedAt < lease.expiresAt)

instance (i : Intent D) (prep : Preparation D) (lease : LeaseRecord D) (config : D) :
    Decidable (SamePreparation i prep lease config) := inferInstanceAs (Decidable (_ ∧ _))

def SameRelease (i : Intent D) (auth : ReleaseAuthorization D) (claim : ReleaseClaim D) : Prop :=
  (i.releaseAuthorizationDigest = some auth.authorizationDigest ∧ auth.operationId = i.operationId ∧
    auth.toMainBound = i.toMainBound ∧ auth.expiresAt = claim.authorizationExpiresAt) ∧
  (auth.authorizedAt ≤ i.recordedAt ∧ claim.claimedAt ≤ i.recordedAt ∧ i.recordedAt < auth.expiresAt ∧
    i.recordedAt < claim.authorizationExpiresAt) ∧
  claim.operationId = i.operationId ∧ claim.toMainBound = i.toMainBound

instance (i : Intent D) (auth : ReleaseAuthorization D) (claim : ReleaseClaim D) : Decidable (SameRelease i auth claim) :=
  inferInstanceAs (Decidable (_ ∧ _))

def releaseKey (i : Intent D) (auth : ReleaseAuthorization D) (claim : ReleaseClaim D) : ReleaseKey D :=
  ⟨i.toMainBound, i.operationId, auth.authorizationDigest, claim.holdObservationDigest, claim.groupSha, claim.holdRunId,
    claim.holdNonce, claim.queueGenerationDigest, claim.releaseIssuerAppId⟩

def releaseIdentity (i : Intent D) (auth : ReleaseAuthorization D) (claim : ReleaseClaim D) : ExternalIdentity D :=
  ⟨i.toMainBound, i.operationId, .releaseTransition, .digest (C.digest (.releaseKey (releaseKey i auth claim))),
    some claim.queueGenerationDigest⟩

/-- The checks of a graduation's release intent. -/
def requireRelease (i : Intent D) : Code D Unit := do
  let authPrior ← (.port (.releaseAuthorization i.operationId) Answer.orRaise : Code D (Option (ReleaseAuthorization D)))
  let claimPrior ← (.port (.releaseClaim i.releaseClaimDigest) Answer.orRaise : Code D (Option (ReleaseClaim D)))
  let auth ← Prog.ofOption authPrior (.journal "release intent requires durable authorization and claim")
  let claim ← Prog.ofOption claimPrior (.journal "release intent requires durable authorization and claim")
  Prog.require (SameRelease i auth claim) (.journal "release intent authority binding differs")
  Prog.require (i.releaseClaimDigest = some claim.claimDigest) (.journal "release intent claim differs")
  Prog.require (i.externalIdentity = releaseIdentity C i auth claim)
    (.journal "release intent external identity binding differs")

def SameRollback (i : Intent D) (prep : RollbackPreparation D) (auth : RollbackAuthorization D)
    (rollback : RollbackIntent D) (lease : LeaseRecord D) : Prop :=
  (i.preparationAuthorizationDigest = prep.authorizationDigest ∧ i.toMainBound = prep.toMainBound ∧
    i.leaseIdentity = lease.owner ∧ i.leaseDigest = lease.leaseDigest ∧ i.leaseEpochDigest = lease.leaseEpochDigest ∧
    i.policyEpochDigest = auth.policyEpoch ∧ i.controllerConfigDigest = auth.controllerConfigDigest) ∧
  (lease.operationId = i.operationId ∧ lease.policyEpoch = auth.policyEpoch) ∧
  (rollback.intentDigest = prep.rollbackIntentDigest ∧ auth.authorizationDigest = prep.rollbackAuthorizationDigest ∧
    rollback.authorizationDigest = auth.authorizationDigest ∧ prep.toMainBound = rollback.toMainBound ∧
    prep.candidateRef = rollback.candidateRef ∧ prep.candidateCommit = rollback.candidateCommit ∧
    prep.candidateTree = rollback.candidateTree) ∧
  (prep.leaseIdentity = lease.owner ∧ prep.leaseDigest = lease.leaseDigest ∧
    prep.leaseEpochDigest = lease.leaseEpochDigest ∧ prep.policyEpoch = auth.policyEpoch) ∧
  rollback.recordedAt ≤ i.recordedAt ∧ i.recordedAt < auth.expiresAt ∧ i.recordedAt < lease.expiresAt

instance (i : Intent D) (prep : RollbackPreparation D) (auth : RollbackAuthorization D) (rollback : RollbackIntent D)
    (lease : LeaseRecord D) : Decidable (SameRollback i prep auth rollback lease) := inferInstanceAs (Decidable (_ ∧ _))

/-- The release of a rollback is bound to its authorization and claim. -/
def SameRollbackRelease (i : Intent D) (prep : RollbackPreparation D) (lease : LeaseRecord D)
    (release : ReleaseAuthorization D) (claim : ReleaseClaim D) : Prop :=
  i.releaseAuthorizationDigest = some release.authorizationDigest ∧
    release.preparationAuthorizationDigest = prep.authorizationDigest ∧ release.packageDigest = prep.packageDigest ∧
    release.compositionDigest = prep.compositionDigest ∧ release.leaseDigest = lease.leaseDigest ∧
    release.leaseIdentity = lease.owner ∧ claim.authorizationDigest = release.authorizationDigest ∧
    claim.leaseDigest = lease.leaseDigest ∧ claim.leaseEpochDigest = lease.leaseEpochDigest

instance (i : Intent D) (prep : RollbackPreparation D) (lease : LeaseRecord D) (release : ReleaseAuthorization D)
    (claim : ReleaseClaim D) : Decidable (SameRollbackRelease i prep lease release claim) :=
  inferInstanceAs (Decidable (_ ∧ _))

/-- `_validate_rollback_mutation_intent`. -/
def validateRollbackIntent (policyEpoch : Option D) (i : Intent D) (prep : RollbackPreparation D)
    (lease : LeaseRecord D) : Code D Unit := do
  let authPrior ← (.port (.rollbackAuthorization i.operationId) Answer.orRaise : Code D (Option (RollbackAuthorization D)))
  let rollbackPrior ← (.port (.rollbackIntent i.operationId) Answer.orRaise : Code D (Option (RollbackIntent D)))
  let auth ← Prog.ofOption authPrior (.journal "rollback mutation intent requires durable rollback authority")
  let rollback ← Prog.ofOption rollbackPrior (.journal "rollback mutation intent requires durable rollback authority")
  Prog.require (∀ epoch ∈ policyEpoch, auth.policyEpoch = epoch) (.journal "rollback mutation policy epoch is stale")
  Prog.require (SameRollback i prep auth rollback lease) (.journal "rollback mutation preparation binding differs")
  if i.stage = .releaseTransition then
    let releasePrior ← (.port (.releaseAuthorization i.operationId) Answer.orRaise :
      Code D (Option (ReleaseAuthorization D)))
    let claimPrior ← (.port (.releaseClaim i.releaseClaimDigest) Answer.orRaise : Code D (Option (ReleaseClaim D)))
    let release ← Prog.ofOption releasePrior
      (.journal "rollback release intent requires final release authorization and claim")
    let claim ← Prog.ofOption claimPrior
      (.journal "rollback release intent requires final release authorization and claim")
    Prog.require (SameRollbackRelease i prep lease release claim)
      (.journal "rollback release intent authority binding differs")
  else return ()

def requireLease (operationId : D) : Code D (LeaseRecord D) := do
  let prior ← (.port (.lease operationId) Answer.orRaise : Code D (Option (LeaseRecord D)))
  Prog.ofOption prior (.journal "mutation intent requires durable lease evidence")

/-- What the intent carries of its predecessor is durable. -/
def requireParent (R : Readers D) (i : Intent D) : Code D Unit := do
  (match parentReceipt i with
    | some p => requireParentReceipt C R i p
    | none => .done () : Code D Unit)
  match i.parentResolutionDigest with
  | some q => verifyParentResolution R i q
  | none => .done ()

def validateGraduationIntent (R : Readers D) (i : Intent D) (prep : Preparation D) : Code D Unit := do
  let lease ← requireLease i.operationId
  let config ← (.port (.controllerConfig i.operationId) Answer.orRaise : Code D D)
  Prog.require (SamePreparation i prep lease config) (.journal "mutation intent preparation binding differs")
  requireParent C R i
  if i.stage = .releaseTransition then requireRelease C i else return ()

/-- `_validate_phase_chain` of an intent. -/
def validateIntent (policyEpoch : Option D) (R : Readers D) (i : Intent D) : Code D Unit := do
  let prep ← (.port (.preparation i.operationId) Answer.orRaise : Code D (Option (Preparation D)))
  let rollbackPrep ← (.port (.rollbackPreparation i.operationId) Answer.orRaise : Code D (Option (RollbackPreparation D)))
  let rollbackAuth ← (.port (.rollbackAuthorization i.operationId) Answer.orRaise :
    Code D (Option (RollbackAuthorization D)))
  if rollbackPrep.isSome || rollbackAuth.isSome then
    match prep, rollbackPrep, rollbackAuth with
    | none, some rollbackPrep, some _ => do
      let lease ← requireLease i.operationId
      -- a rollback's intent is checked for nothing about its predecessor
      validateRollbackIntent policyEpoch i rollbackPrep lease
    | _, _, _ => .raise (.journal "rollback mutation intent has an ambiguous preparation branch")
  else
    let prep ← Prog.ofOption prep (.journal "mutation intent requires preparation authorization")
    validateGraduationIntent C R i prep

/-- `_read` of an intent. -/
def readIntentWith (policyEpoch : Option D) (R : Readers D) (intentDigest : D) : Code D (Option (Intent D)) :=
  .read (.intent intentDigest) fun
    | .missing => .done none
    | .malformed => .raise (.journal "mutation-intent index is malformed")
    | .found i => do
      Prog.require (i.digest C = intentDigest) (.conflict "phase-A key differs from record")
      validateIntent C policyEpoch R i
      assertStageIdentity i
      return some i

/-- `_read` of an intent with at most `n` predecessors. -/
def readIntentN (policyEpoch : Option D) : Nat → D → Code D (Option (Intent D))
  | 0 => readIntentWith C policyEpoch Readers.exhausted
  | n + 1 => readIntentWith C policyEpoch (Readers.over C (readIntentN policyEpoch n))

/-- The readers of the journal: there are six stages. -/
def readers (policyEpoch : Option D) : Readers D := Readers.over C (readIntentN C policyEpoch 6)

def readReceiptForIntent (policyEpoch : Option D) (intentDigest : D) : Code D (Option (Receipt D)) :=
  readReceiptForIntentWith C (readers C policyEpoch).intent intentDigest

/-- The fields of marker and intent that are compared. -/
def OwnerOf (m : DispatchOwner D) (i : Intent D) : Prop :=
  m.operationId = i.operationId ∧ m.requestDigest = i.requestDigest ∧ m.stage = i.stage ∧ m.toMainBound = i.toMainBound ∧
    m.externalIdentityDigest = i.externalIdentity.digest C ∧ m.leaseIdentity = i.leaseIdentity ∧
    m.leaseDigest = i.leaseDigest ∧ m.leaseEpochDigest = i.leaseEpochDigest

instance (m : DispatchOwner D) (i : Intent D) : Decidable (OwnerOf C m i) := inferInstanceAs (Decidable (_ ∧ _))

/-- `read_mutation_dispatch_owner`. -/
def readDispatchOwner (policyEpoch : Option D) (intentDigest : D) : Code D (Option (DispatchOwner D)) :=
  .read (.dispatchOwner intentDigest) fun
    | .missing => .done none
    | .malformed => .raise (.journal "mutation-dispatch-owner index is malformed")
    | .found m => do
      let prior ← (readers C policyEpoch).intent intentDigest
      let i ← Prog.ofOption prior (.journal "dispatch owner intent is missing")
      Prog.require (OwnerOf C m i) (.conflict "mutation dispatch owner binding differs")
      return some m

/-- `read_mutation_fence_resolution_by_fence`. -/
def readResolutionByFence (policyEpoch : Option D) (fenceDigest : D) : Code D (Option (Resolution D)) := do
  let prior ← readFenceResolution fenceDigest
  match prior with
  | none => return none
  | some q => do
    let fencePrior ← (readers C policyEpoch).fence fenceDigest
    let f ← Prog.ofOption fencePrior (.journal "mutation fence resolution fence is missing")
    Prog.require (SameResolved q f) (.conflict "mutation fence resolution binding differs")
    let r ← sourceReceipt (readers C policyEpoch).receipt q
    verifyFenceAuthority q r
    return some q

/-- The loop of `read_mutation_fence_resolution_by_intent`. -/
def findResolution (policyEpoch : Option D) (intentDigest : D) :
    Option (Resolution D) → List D → Code D (Option (Resolution D))
  | matched, [] => .done matched
  | matched, fenceDigest :: rest => do
    let candidate ← readResolutionByFence C policyEpoch fenceDigest
    match candidate with
    | none => findResolution policyEpoch intentDigest matched rest
    | some q =>
      if q.intentDigest = intentDigest then
        if (matched.all fun q' => q'.digest C = q.digest C) then findResolution policyEpoch intentDigest (some q) rest
        else .raise (.conflict "multiple mutation fence resolutions exist for intent")
      else findResolution policyEpoch intentDigest matched rest

/-- `read_mutation_fence_resolution_by_intent`. -/
def readResolutionByIntent (policyEpoch : Option D) (intentDigest : D) : Code D (Option (Resolution D)) :=
  .port .listResolutions fun names => do
    let names ← Prog.ofOption names (.journal "mutation fence resolution identity index is unverifiable")
    findResolution C policyEpoch intentDigest none names

end Journal

end AvoCorrelate.Graduation
