import AvoCorrelate.Graduation.Documents
import AvoCorrelate.Lib.Served
/-!
# The disk of the main graduation journal

Index and identity files are created once and stay. What else is on the disk stands
behind ports: the slot directory of each target, which holds a reservation, a fence
or both and is emptied, moved into the closed history and made again; the closed
history; and the identities of the resolutions, which are listed as well as read.
The provider stands there too: which mutations took effect. The other ports (clock,
lease, verifiers, artifact store, and the journal's records of other kinds with
their own checks) give any answer.
-/
open AvoLib

namespace AvoCorrelate.Graduation

open ExactCas (GitObject)

variable {D : Type}

/-! ## Files -/

/-- An index file. The last identities are kept under the digest of what they name. -/
inductive Key (D : Type)
  | intent (intentDigest : D)
  | stageIdentity (identity : ExternalIdentity D)
  | operationStage (operationId : D) (stage : Stage)
  | externalObject (target : MainBound D) (stage : Stage) (externalKey : ExternalKey D) (queueGenerationDigest : Option D)
  | receiptIdentity (intentDigest : D)
  | receipt (receiptDigest : D)
  | fence (fenceDigest : D)
  | resolution (resolutionDigest : D)
  | dispatchOwner (intentDigest : D)
  deriving DecidableEq

abbrev Rec : Key D → Type
  | .intent _ => Intent D
  | .stageIdentity _ => Intent D
  | .operationStage _ _ => Intent D
  | .externalObject _ _ _ _ => Intent D
  | .receiptIdentity _ => Receipt D
  | .receipt _ => Receipt D
  | .fence _ => Fence D
  | .resolution _ => Resolution D
  | .dispatchOwner _ => DispatchOwner D

instance Rec.decEq [DecidableEq D] : (k : Key D) → DecidableEq (Rec k)
  | .intent _ => inferInstanceAs (DecidableEq (Intent D))
  | .stageIdentity _ => inferInstanceAs (DecidableEq (Intent D))
  | .operationStage _ _ => inferInstanceAs (DecidableEq (Intent D))
  | .externalObject _ _ _ _ => inferInstanceAs (DecidableEq (Intent D))
  | .receiptIdentity _ => inferInstanceAs (DecidableEq (Receipt D))
  | .receipt _ => inferInstanceAs (DecidableEq (Receipt D))
  | .fence _ => inferInstanceAs (DecidableEq (Fence D))
  | .resolution _ => inferInstanceAs (DecidableEq (Resolution D))
  | .dispatchOwner _ => inferInstanceAs (DecidableEq (DispatchOwner D))

def Intent.externalObject (i : Intent D) : Key D :=
  .externalObject i.toMainBound i.stage i.externalIdentity.externalKey i.externalIdentity.queueGenerationDigest

/-! ## Records of other kinds -/

/-- What is compared of a `MainPreparationAuthorization`. -/
structure Preparation (D : Type) extends MainBound D where
  authorizationDigest : D
  leaseIdentity : String
  leaseDigest : D
  policyEpoch : D

/-- What is compared of a `MainLeaseEvidenceRecord`. -/
structure LeaseRecord (D : Type) extends MainBound D where
  operationId : D
  owner : String
  leaseDigest : D
  leaseEpochDigest : D
  policyEpoch : D
  expiresAt : Instant

/-- What is compared of a `MainRollbackPreparationAuthorization`. -/
structure RollbackPreparation (D : Type) extends MainBound D where
  authorizationDigest : D
  rollbackIntentDigest : D
  rollbackAuthorizationDigest : D
  packageDigest : D
  compositionDigest : D
  candidateRef : String
  candidateCommit : GitObject
  candidateTree : GitObject
  leaseIdentity : String
  leaseDigest : D
  leaseEpochDigest : D
  policyEpoch : D

/-- What is compared of a `MainRollbackAuthorization`. -/
structure RollbackAuthorization (D : Type) where
  authorizationDigest : D
  policyEpoch : D
  controllerConfigDigest : D
  expiresAt : Instant

/-- What is compared of a `MainRollbackIntent`. -/
structure RollbackIntent (D : Type) extends MainBound D where
  intentDigest : D
  authorizationDigest : D
  candidateRef : String
  candidateCommit : GitObject
  candidateTree : GitObject
  recordedAt : Instant

/-- What is compared of a `MainReleaseAuthorization`. -/
structure ReleaseAuthorization (D : Type) extends MainBound D where
  operationId : D
  authorizationDigest : D
  preparationAuthorizationDigest : D
  packageDigest : D
  compositionDigest : D
  leaseIdentity : String
  leaseDigest : D
  authorizedAt : Instant
  expiresAt : Instant

/-- What is compared of a `MainReleaseClaim`. -/
structure ReleaseClaim (D : Type) extends MainBound D where
  operationId : D
  claimDigest : D
  authorizationDigest : D
  holdObservationDigest : D
  groupSha : GitObject
  holdRunId : String
  holdNonce : String
  queueGenerationDigest : D
  leaseDigest : D
  leaseEpochDigest : D
  releaseIssuerAppId : Nat
  authorizationExpiresAt : Instant
  claimedAt : Instant

/-! ## Requests and results -/

/-- `StageRequest`: `fields` are the fields of its stage, as in its JSON form. -/
structure StageRequest (D : Type) extends MainBound D where
  operationId : D
  stage : Stage
  leaseEpochDigest : D
  requestDigest : D
  externalIdentity : D
  authorizationExpiresAt : Option Instant
  fields : List (String × String)
  deriving DecidableEq

/-- `StageObservationRequest`. -/
structure ObservationRequest (D : Type) extends MainBound D where
  operationId : D
  stage : Stage
  leaseEpochDigest : D
  requestDigest : D
  externalIdentity : D
  objectId : String
  fields : List (String × String)
  deriving DecidableEq

/-- `StageMutationResult`. -/
structure MutationResult (D : Type) where
  stage : Stage
  requestDigest : D
  externalIdentity : D
  outcome : MutationOutcome
  dispatchStarted : Bool
  responseDigest : D
  observedAt : Instant

inductive ObservationOutcome
  | observed | notFound | ambiguous | invalid
  deriving DecidableEq

/-- `StageObservationResult`. -/
structure ObservationResult (D : Type) where
  stage : Stage
  requestDigest : D
  externalIdentity : D
  outcome : ObservationOutcome
  evidenceDigest : D

/-! ## Ports -/

/-- What a port returned, or the text of what it raised. -/
inductive Answer (α : Type)
  | raised (message : String)
  | returned (v : α)

/-- The files of a slot directory. -/
structure Dir (D : Type) where
  reservation : Option (Intent D)
  record : Option (Fence D)
  deriving DecidableEq

def Dir.empty : Dir D := ⟨none, none⟩

inductive Port (D : Type)
  -- TrustedClock.now and StageLeaseFence.assert_current
  | clock
  | leaseCurrent (operationId leaseEpochDigest : D)
  -- FilesystemArtifactStore.put_bytes and the directory sync
  | install
  -- _read of the journal's other records, _controller_config_digest
  | preparation (operationId : D)
  | rollbackPreparation (operationId : D)
  | rollbackAuthorization (operationId : D)
  | rollbackIntent (operationId : D)
  | lease (operationId : D)
  | controllerConfig (operationId : D)
  | releaseAuthorization (operationId : D)
  | releaseClaim (claimDigest : Option D)
  -- MainPhaseAAuthorityVerifier and StageAuthorityVerifier
  | verifyReceipt (receipt : Receipt D) (intent : Intent D)
  | verifyResolution (resolution : Resolution D) (receipt : Receipt D)
  | verifyResult (result : MutationResult D) (request : StageRequest D) (intent : Intent D)
  | verifyObservation (result : ObservationResult D) (request : ObservationRequest D) (intent : Intent D)
  -- the slot of a target: what is in it, mkdir, rmdir, os.replace of a prepared directory, the exclusive
  -- links of record.json and reservation.json, unlink of reservation.json, os.replace into the history
  | look (target : MainBound D)
  | makeSlot (target : MainBound D)
  | removeSlot (target : MainBound D)
  | installReservation (target : MainBound D) (intent : Intent D)
  | linkRecord (target : MainBound D) (fence : Fence D)
  | linkReservation (target : MainBound D) (intent : Intent D)
  | unlinkReservation (target : MainBound D)
  | closeSlot (target : MainBound D) (fenceDigest : D)
  -- the closed history: one directory, all of them
  | lookClosed (fenceDigest : D)
  | listClosed
  -- the identities of resolutions: one, their names, the exclusive link
  | readResolution (fenceDigest : D)
  | listResolutions
  | publishResolution (resolution : Resolution D)
  -- the provider, for an intent: a mutation call begins, and returns; an observation
  | dispatch (intentDigest : D) (request : StageRequest D)
  | dispatched (intentDigest : D) (request : StageRequest D)
  | observe (intentDigest : D) (request : ObservationRequest D)

/-- `mkdir`. -/
inductive Making
  | made | exists | failed

/-- `rmdir` or `unlink`. -/
inductive Removing
  | removed | refused

/-- `os.replace`, and the directory sync after it. -/
inductive Moving
  | moved | unsynced | missing | refused

/-- What the provider did with a call: with its effect on the repository so far. -/
structure Effect (α : Type) where
  effect : Bool
  answer : α

abbrev Port.Answer : Port D → Type
  | .clock => Graduation.Answer Instant
  | .leaseCurrent _ _ => Graduation.Answer Unit
  | .install => Graduation.Answer Unit
  | .preparation _ => Graduation.Answer (Option (Preparation D))
  | .rollbackPreparation _ => Graduation.Answer (Option (RollbackPreparation D))
  | .rollbackAuthorization _ => Graduation.Answer (Option (RollbackAuthorization D))
  | .rollbackIntent _ => Graduation.Answer (Option (RollbackIntent D))
  | .lease _ => Graduation.Answer (Option (LeaseRecord D))
  | .controllerConfig _ => Graduation.Answer D
  | .releaseAuthorization _ => Graduation.Answer (Option (ReleaseAuthorization D))
  | .releaseClaim _ => Graduation.Answer (Option (ReleaseClaim D))
  | .verifyReceipt _ _ => Graduation.Answer Unit
  | .verifyResolution _ _ => Graduation.Answer Unit
  | .verifyResult _ _ _ => Graduation.Answer Unit
  | .verifyObservation _ _ _ => Graduation.Answer Unit
  -- `none` when it cannot be read
  | .look _ => Option (Option (Dir D))
  | .makeSlot _ => Making
  | .removeSlot _ => Removing
  | .installReservation _ _ => Moving
  | .linkRecord _ _ => Published
  | .linkReservation _ _ => Published
  | .unlinkReservation _ => Removing
  | .closeSlot _ _ => Moving
  | .lookClosed _ => Option (Option (Dir D))
  | .listClosed => Option (List (D × Dir D))
  | .readResolution _ => Found (Resolution D)
  | .listResolutions => Option (List D)
  | .publishResolution _ => Published
  | .dispatch _ _ => Effect Unit
  | .dispatched _ _ => Effect (Graduation.Answer (MutationResult D))
  | .observe _ _ => Effect (Graduation.Answer (ObservationResult D))

/-! ## Behind the ports -/

structure Disk (D : Type) where
  slots : MainBound D → Option (Dir D)
  -- target-unresolved-fence-closed and mutation-fence-resolution-identity, by fence
  closed : List (D × Dir D)
  resolutions : List (D × Resolution D)
  -- the intents whose mutation took effect
  effects : List D

variable [DecidableEq D]

def Disk.empty : Disk D := ⟨fun _ => none, [], [], []⟩

def Disk.setSlot (s : Disk D) (target : MainBound D) (dir : Option (Dir D)) : Disk D :=
  { s with slots := Function.update s.slots target dir }

def Disk.takeEffect (s : Disk D) (effect : Bool) (intentDigest : D) : Disk D :=
  if effect then { s with effects := intentDigest :: s.effects } else s

def Disk.closedDir (s : Disk D) (fenceDigest : D) : Option (Dir D) := s.closed.lookup fenceDigest

def Disk.resolution (s : Disk D) (fenceDigest : D) : Option (Resolution D) := s.resolutions.lookup fenceDigest

/-- There is a directory with nothing in it. -/
def Dir.vacant : Option (Dir D) → Bool
  | some ⟨none, none⟩ => true
  | _ => false

/-- Renames and links are atomic. A directory is renamed onto nothing or onto an
empty directory, removed only when empty, and a file is linked only where no file of
that name is and the directory is there. The provider answers that it did not find
a mutation only when it had not taken effect. -/
def disk : Service (Port.Answer (D := D)) (Disk D)
  | .look target, r, s =>
    match r with
    | none => some s
    | some dir => if dir = s.slots target then some s else none
  | .makeSlot target, r, s =>
    match r with
    | .made => if (s.slots target).isNone then some (s.setSlot target (some .empty)) else none
    | .exists => if (s.slots target).isSome then some s else none
    | .failed => some s
  | .removeSlot target, r, s =>
    match r with
    | .removed => if Dir.vacant (s.slots target) then some (s.setSlot target none) else none
    | .refused => some s
  | .installReservation target intent, r, s =>
    match r with
    | .moved | .unsynced =>
      if (s.slots target).isNone ∨ Dir.vacant (s.slots target) = true then some (s.setSlot target (some ⟨some intent, none⟩))
      else none
    | .missing | .refused => some s
  | .linkRecord target fence, r, s =>
    match r, s.slots target with
    | .created, some ⟨reservation, none⟩ => some (s.setSlot target (some ⟨reservation, some fence⟩))
    | .lost, some ⟨reservation, none⟩ => some (s.setSlot target (some ⟨reservation, some fence⟩))
    | .taken, some ⟨_, some _⟩ => some s
    | .failed, _ => some s
    | _, _ => none
  | .linkReservation target intent, r, s =>
    match r, s.slots target with
    | .created, some ⟨none, record⟩ => some (s.setSlot target (some ⟨some intent, record⟩))
    | .lost, some ⟨none, record⟩ => some (s.setSlot target (some ⟨some intent, record⟩))
    | .taken, some ⟨some _, _⟩ => some s
    | .failed, _ => some s
    | _, _ => none
  | .unlinkReservation target, r, s =>
    match r, s.slots target with
    | .removed, some ⟨some _, record⟩ => some (s.setSlot target (some ⟨none, record⟩))
    | .removed, _ => none
    | .refused, _ => some s
  | .closeSlot target fenceDigest, r, s =>
    match r, s.slots target with
    | .moved, some dir | .unsynced, some dir =>
      if s.closedDir fenceDigest = none then some { s.setSlot target none with closed := (fenceDigest, dir) :: s.closed }
      else none
    | .missing, none => some s
    | .refused, _ => some s
    | _, _ => none
  | .lookClosed fenceDigest, r, s =>
    match r with
    | none => some s
    | some dir => if dir = s.closedDir fenceDigest then some s else none
  | .listClosed, r, s =>
    match r with
    | none => some s
    | some l => if l = s.closed then some s else none
  | .readResolution fenceDigest, r, s =>
    match r with
    | .malformed => some s
    | .missing => if s.resolution fenceDigest = none then some s else none
    | .found q => if s.resolution fenceDigest = some q then some s else none
  | .listResolutions, r, s =>
    match r with
    | none => some s
    | some l => if l = s.resolutions.map Prod.fst then some s else none
  | .publishResolution q, r, s =>
    match r with
    | .created | .lost =>
      if s.resolution q.fenceDigest = none then some { s with resolutions := (q.fenceDigest, q) :: s.resolutions } else none
    | .taken => if s.resolution q.fenceDigest = none then none else some s
    | .failed => some s
  | .dispatch d _, r, s => some (s.takeEffect r.effect d)
  | .dispatched d _, r, s => some (s.takeEffect r.effect d)
  | .observe d _, r, s =>
    let s' := s.takeEffect r.effect d
    match r.answer with
    | .returned o => if o.outcome = .notFound ∧ d ∈ s'.effects then none else some s'
    | .raised _ => some s'
  | _, _, s => some s

end AvoCorrelate.Graduation
