import AvoCorrelate.Graduation.Coordinator
import AvoCorrelate.Graduation.Evidence
import AvoCorrelate.Lib.Parts
/-!
# The transition of a rollback's release

After the release stage `_transition_records` records a transition and, when the stage
has a terminal result, a claimed transition. The journal holds the claimed one against
the receipt and the resolution of the stage.
-/
open AvoLib

namespace AvoCorrelate.MainRollback.Transition

open ExactCas (GitObject)
open Graduation (MainBound Issuer Receipt Intent Executor Answer)

variable {D : Type}

/-! ## Records -/

/-- What is read of a `MainReleaseHoldObservation`; its validator refuses the App that validates. -/
structure Hold (D : Type) where
  groupSha : GitObject
  holdRunId : String
  holdNonce : String
  issuer : Issuer D
  isolated : issuer.appId ≠ 15368

/-- What is compared of a `MainReleaseAuthorization`. -/
structure Authorization (D : Type) extends MainBound D where
  operationId : D
  authorizationDigest : D
  groupSha : GitObject
  holdRunId : String
  holdNonce : String
  issuer : Issuer D
  authorizedAt : Instant
  expiresAt : Instant

/-- What is compared of a `MainReleaseClaim`. -/
structure Claim (D : Type) extends MainBound D where
  operationId : D
  claimDigest : D
  groupSha : GitObject
  holdRunId : String
  holdNonce : String
  issuer : Issuer D

inductive Outcome
  | transitioned
  | alreadyTransitioned
  | reconciliationRequired
  deriving DecidableEq

/-- `MainReleaseTransitionReceipt`. -/
structure Record (D : Type) extends MainBound D where
  operationId : D
  releaseAuthorizationDigest : D
  groupSha : GitObject
  holdRunId : String
  holdNonce : String
  issuer : Issuer D
  outcome : Outcome
  responseDigest : D
  observedAt : Instant
  deriving DecidableEq

/-- `MainClaimedReleaseTransitionReceipt`, less its digest. -/
structure Claimed (D : Type) extends Record D where
  claimDigest : D
  mutationReceiptDigest : D
  mutationResolutionDigest : Option D
  deriving DecidableEq

/-- `validate_transition`, of both. -/
def Record.Valid (t : Record D) : Prop := t.issuer.appId ≠ 15368

instance (t : Record D) : Decidable t.Valid := inferInstanceAs (Decidable (_ ≠ _))

structure Canon (D : Type) extends Graduation.Canon D where
  claimedDigest : Claimed D → D

/-! ## Files and ports -/

/-- The journal's indexes of transitions: by operation, by claim, by digest. -/
inductive Key (D : Type)
  | transition (operationId : D)
  | claimedIdentity (claimDigest : D)
  | claimed (receiptDigest : D)
  deriving DecidableEq

abbrev Rec : Key D → Type
  | .transition _ => Record D
  | .claimedIdentity _ => Claimed D
  | .claimed _ => Claimed D

inductive Port (D : Type)
  -- the artifact store
  | install
  -- _read of the release authorization and of the release claim
  | releaseAuthorization (operationId : D)
  | releaseClaim (claimDigest : D)
  -- _operation_authority_branch and, for a rollback, _require_rollback_release_authorization
  | requireBranch (authorization : Authorization D)

abbrev Port.Answer : Port D → Type
  | .install => Graduation.Answer Unit
  | .releaseAuthorization _ => Graduation.Answer (Option (Authorization D))
  | .releaseClaim _ => Graduation.Answer (Option (Claim D))
  | .requireBranch _ => Graduation.Answer Unit

abbrev Code (D : Type) (α : Type) :=
  Prog (Both (Graduation.Rec (D := D)) (Rec (D := D))) (Both (Graduation.Port.Answer (D := D)) (Port.Answer (D := D))) Graduation.Exc α

abbrev Disc (D : Type) := Files (Both (Graduation.Rec (D := D)) (Rec (D := D)))

/-- A part that reads or writes records of the stages. -/
def ofStage {α : Type} (p : Graduation.Code D α) : Code D α := p.within id

def readFile (k : Key D) : Code D (Found (Rec k)) := .read (.inr k) .done

def publishFile (k : Key D) (v : Rec k) : Code D Published := .publish (.inr k) v .done

def orRaise {α : Type} : Answer α → Code D α
  | .raised message => .raise (.other message)
  | .returned v => .done v

def install : Code D Unit := .port (.inr .install) orRaise

def readAuthorization (operationId : D) : Code D (Option (Authorization D)) := .port (.inr (.releaseAuthorization operationId)) orRaise

def readClaim (claimDigest : D) : Code D (Option (Claim D)) := .port (.inr (.releaseClaim claimDigest)) orRaise

/-! ## The journal -/

variable [DecidableEq D]

instance (k : Key D) : DecidableEq (Rec k) :=
  match k with
  | .transition _ => inferInstanceAs (DecidableEq (Record D))
  | .claimedIdentity _ => inferInstanceAs (DecidableEq (Claimed D))
  | .claimed _ => inferInstanceAs (DecidableEq (Claimed D))

namespace Journal

/-- The record that is there must be this one. -/
def requireSame (malformed conflicting : String) {k : Key D} (v : Rec k) : Found (Rec k) → Code D Unit
  | .missing => .raise (.journal malformed)
  | .malformed => .raise (.journal malformed)
  | .found old => Prog.require (old = v) (.conflict conflicting)

/-- A create-once file: the record is durable afterwards, this one or an equal one. -/
def create (unindexed malformed conflicting : String) (k : Key D) (v : Rec k) : Code D Unit := do
  let published ← publishFile k v
  match published with
  | .created => return ()
  | .failed => .raise (.journal unindexed)
  | .lost => .raise (.journal unindexed)
  | .taken => readFile k >>= requireSame malformed conflicting v

/-- The fields of transition and authorization that are compared. -/
def Authorizes (auth : Authorization D) (t : Record D) : Prop :=
  t.operationId = auth.operationId ∧ t.toMainBound = auth.toMainBound ∧ t.groupSha = auth.groupSha ∧
    t.holdRunId = auth.holdRunId ∧ t.holdNonce = auth.holdNonce ∧ t.issuer = auth.issuer

instance (auth : Authorization D) (t : Record D) : Decidable (Authorizes auth t) := inferInstanceAs (Decidable (_ ∧ _))

def requireReleaseAuthorization (t : Record D) : Code D Unit := do
  let prior ← readAuthorization t.operationId
  let auth ← Prog.ofOption prior (.journal "transition requires durable release authorization")
  .port (.inr (.requireBranch auth)) orRaise
  Prog.require (t.releaseAuthorizationDigest = auth.authorizationDigest) (.journal "transition authorization digest differs")
  Prog.require (auth.authorizedAt ≤ t.observedAt ∧ t.observedAt ≤ auth.expiresAt)
    (.journal "transition is outside authorization validity window")
  Prog.require (Authorizes auth t) (.journal "transition receipt does not bind authorization")

def recordReleaseTransition (t : Record D) : Code D Unit := do
  Prog.require t.Valid (.journal "invalid main graduation release-transition")
  requireReleaseAuthorization t
  install
  create "main graduation record was not indexed" "main graduation index is malformed"
    "conflicting main graduation release-transition" (.transition t.operationId) t

/-- The fields of claimed transition, claim, authorization and receipt that are compared. -/
def Binds (c : Claimed D) (claim : Claim D) (auth : Authorization D) (mutation : Receipt D) : Prop :=
  (claim.operationId = c.operationId ∧ claim.toMainBound = c.toMainBound ∧ auth.operationId = c.operationId ∧
    auth.toMainBound = c.toMainBound) ∧
  (c.releaseAuthorizationDigest = auth.authorizationDigest ∧ c.claimDigest = claim.claimDigest ∧ c.groupSha = claim.groupSha ∧
    c.holdRunId = claim.holdRunId ∧ c.holdNonce = claim.holdNonce ∧ c.issuer.identity = claim.issuer.identity ∧
    c.issuer.appId = claim.issuer.appId ∧ claim.issuer.appId = auth.issuer.appId ∧
    c.issuer.isolationDigest = claim.issuer.isolationDigest) ∧
  mutation.operationId = c.operationId ∧ mutation.toMainBound = c.toMainBound ∧ mutation.stage = .releaseTransition ∧
    mutation.releaseAuthorizationDigest = some c.releaseAuthorizationDigest ∧ mutation.releaseClaimDigest = some c.claimDigest

instance (c : Claimed D) (claim : Claim D) (auth : Authorization D) (mutation : Receipt D) :
    Decidable (Binds c claim auth mutation) := inferInstanceAs (Decidable (_ ∧ _))

variable (C : Canon D)

def Closes (q : Graduation.Resolution D) (mutation : Receipt D) : Prop :=
  q.resolvedReceiptDigest = mutation.digest C.toCanon ∧ q.operationId = mutation.operationId ∧
    q.toMainBound = mutation.toMainBound ∧ q.intentDigest = mutation.intentDigest ∧
    q.externalIdentityDigest = mutation.externalIdentity.digest C.toCanon ∧ q.leaseIdentity = mutation.leaseIdentity ∧
    q.leaseDigest = mutation.leaseDigest ∧ mutation.observedAt ≤ q.resolvedAt

instance (q : Graduation.Resolution D) (mutation : Receipt D) : Decidable (Closes C q mutation) := inferInstanceAs (Decidable (_ ∧ _))

def resolvedOutcome (q : Graduation.Resolution D) : Outcome :=
  match q.outcome with
  | .observedApplied => .transitioned
  | .observedAlreadyApplied => .alreadyTransitioned
  | .notApplied => .reconciliationRequired

/-- What the chain check wants of the claimed transition of a receipt that is terminal. -/
def MatchesReceipt (c : Claimed D) (mutation : Receipt D) : Prop :=
  c.mutationResolutionDigest = none ∧
    c.outcome = (if mutation.outcome = .applied then .transitioned else .alreadyTransitioned) ∧
    c.responseDigest = mutation.responseDigest ∧ c.observedAt = mutation.observedAt

instance (c : Claimed D) (mutation : Receipt D) : Decidable (MatchesReceipt c mutation) := inferInstanceAs (Decidable (_ ∧ _))

/-- What the chain check wants of the claimed transition of a receipt that was resolved. -/
def MatchesResolution (c : Claimed D) (q : Graduation.Resolution D) : Prop :=
  c.outcome = resolvedOutcome q ∧ c.responseDigest = q.authoritativeObservationDigest ∧ c.observedAt = q.resolvedAt

instance (c : Claimed D) (q : Graduation.Resolution D) : Decidable (MatchesResolution c q) := inferInstanceAs (Decidable (_ ∧ _))

variable (policyEpoch : Option D)

/-- The claimed transition is held against the receipt, or against its resolution. -/
def requireMutation (c : Claimed D) (mutation : Receipt D) : Code D Unit :=
  if mutation.outcome.success = true then
    Prog.require (MatchesReceipt c mutation) (.journal "claimed transition does not match direct mutation receipt")
  else if mutation.outcome.terminal = false then do
    let digest ← Prog.ofOption c.mutationResolutionDigest (.journal "ambiguous mutation requires a durable fence resolution")
    let prior ← ofStage ((Graduation.Journal.readers C.toCanon policyEpoch).resolution digest)
    let q ← Prog.ofOption prior (.journal "claimed transition fence resolution is missing")
    Prog.require (q.digest C.toCanon = digest ∧ Closes C q mutation)
      (.journal "claimed transition fence resolution binding differs")
    Prog.require (MatchesResolution c q) (.journal "claimed transition does not match fence resolution")
  else .raise (.journal "claimed transition requires a dispatched mutation receipt")

/-- `_validate_phase_chain` of a claimed transition. -/
def validateClaimed (c : Claimed D) : Code D Unit := do
  let claimPrior ← readClaim c.claimDigest
  let authPrior ← readAuthorization c.operationId
  let claim ← Prog.ofOption claimPrior (.journal "claimed transition requires durable claim and authorization")
  let auth ← Prog.ofOption authPrior (.journal "claimed transition requires durable claim and authorization")
  let mutationPrior ← ofStage ((Graduation.Journal.readers C.toCanon policyEpoch).receipt c.mutationReceiptDigest)
  let mutation ← Prog.ofOption mutationPrior (.journal "claimed transition binding differs")
  Prog.require (Binds c claim auth mutation) (.journal "claimed transition binding differs")
  requireMutation C policyEpoch c mutation

def recordClaimedReleaseTransition (c : Claimed D) : Code D Unit := do
  Prog.require c.Valid (.journal "invalid main graduation claimed-release-transition")
  validateClaimed C policyEpoch c
  install
  create "claimed-release-transition identity was not durably indexed" "claimed-release-transition identity index is malformed"
    "conflicting claimed-release-transition identity" (.claimedIdentity c.claimDigest) c
  create "claimed-release-transition was not durably indexed" "claimed-release-transition index is malformed"
    "conflicting claimed-release-transition" (.claimed (C.claimedDigest c)) c

end Journal

/-! ## The coordinator -/

/-- What `_transition_records` is called with, besides the result of the stage: of the
authority the operation and its target, the hold, the release authorization, and the claim. -/
structure Arguments (D : Type) extends MainBound D where
  operationId : D
  hold : Hold D
  auth : Authorization D
  claim : Claim D

/-- `mutation.outcome in {"applied", "already_applied"}` or an observed resolution. -/
def terminal (effective : Executor.EffectiveResult D) : Bool :=
  effective.receipt.outcome.success || effective.resolution.any fun q => q.outcome.observed

/-- `outcome`. -/
def outcomeOf (effective : Executor.EffectiveResult D) : Outcome :=
  if effective.receipt.outcome = .applied ∨ (effective.resolution.any fun q => q.outcome = .observedApplied) = true then .transitioned
  else if terminal effective then .alreadyTransitioned
  else .reconciliationRequired

namespace Arguments

variable (x : Arguments D) (effective : Executor.EffectiveResult D)

/-- The transition of `_transition_records`. -/
def transition : Record D where
  toMainBound := x.toMainBound
  operationId := x.operationId
  releaseAuthorizationDigest := x.auth.authorizationDigest
  groupSha := x.hold.groupSha
  holdRunId := x.hold.holdRunId
  holdNonce := x.hold.holdNonce
  issuer := x.hold.issuer
  outcome := outcomeOf effective
  responseDigest := effective.receipt.responseDigest
  observedAt := effective.receipt.observedAt

/-- The claimed transition of `_transition_records`. -/
def claimed (C : Canon D) : Claimed D where
  toRecord := x.transition effective
  claimDigest := x.claim.claimDigest
  mutationReceiptDigest := effective.receipt.digest C.toCanon
  mutationResolutionDigest := effective.resolution.map fun q => q.digest C.toCanon

end Arguments

variable (C : Canon D) (policyEpoch : Option D)

def transitionRecords (x : Arguments D) (effective : Executor.EffectiveResult D) : Code D (Record D × Option (Claimed D)) := do
  Prog.require (x.transition effective).Valid (.other "validation App 15368 cannot transition release hold")
  Journal.recordReleaseTransition (x.transition effective)
  if terminal effective = true then do
    Prog.require (x.claimed effective C).Valid (.other "validation App 15368 cannot transition release hold")
    Journal.recordClaimedReleaseTransition C policyEpoch (x.claimed effective C)
    return (x.transition effective, some (x.claimed effective C))
  else return (x.transition effective, none)

end AvoCorrelate.MainRollback.Transition
