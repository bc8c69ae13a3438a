import AvoCorrelate.Graduation.Disk
import AvoCorrelate.Graduation.Forms
/-!
# A disk without faults

What the disk answers when nothing fails on it. What stands behind the other ports
is given. `Sample` is an operation to compute with: its documents, and surroundings
that have no objection to them.
-/
open AvoLib

namespace AvoCorrelate.Graduation

variable {D : Type} [DecidableEq D]

def faultless (others : (p : Port D) → p.Answer) (s : Disk D) : (p : Port D) → p.Answer
  | .look target => some (s.slots target)
  | .makeSlot target => if (s.slots target).isNone then .made else .exists
  | .removeSlot target => if Dir.vacant (s.slots target) then .removed else .refused
  | .installReservation target _ =>
    if (s.slots target).isNone ∨ Dir.vacant (s.slots target) = true then .moved else .refused
  | .linkRecord target _ =>
    match s.slots target with
    | some ⟨_, none⟩ => .created
    | some ⟨_, some _⟩ => .taken
    | none => .failed
  | .linkReservation target _ =>
    match s.slots target with
    | some ⟨none, _⟩ => .created
    | some ⟨some _, _⟩ => .taken
    | none => .failed
  | .unlinkReservation target =>
    match s.slots target with
    | some ⟨some _, _⟩ => .removed
    | _ => .refused
  | .closeSlot target fenceDigest =>
    match s.slots target with
    | some _ => if s.closedDir fenceDigest = none then .moved else .refused
    | none => .missing
  | .lookClosed fenceDigest => some (s.closedDir fenceDigest)
  | .listClosed => some s.closed
  | .readResolution fenceDigest =>
    match s.resolution fenceDigest with
    | none => .missing
    | some q => .found q
  | .listResolutions => some (s.resolutions.map Prod.fst)
  | .publishResolution q => if s.resolution q.fenceDigest = none then .created else .taken
  | .observe d request =>
    if (disk (.observe d request) (others (.observe d request)) s).isSome then others (.observe d request)
    -- an answer that would not be true is not given
    else ⟨false, .raised "observation failed"⟩
  | p => others p

theorem faultless_served (others : (p : Port D) → p.Answer) (s : Disk D) (p : Port D) :
    (disk p (faultless others s p) s).isSome = true := by
  cases p with
  | look target => simp [faultless, disk]
  | makeSlot target =>
    cases h : s.slots target <;> simp [faultless, disk, h]
  | removeSlot target =>
    cases h : Dir.vacant (s.slots target) <;> simp [faultless, disk, h]
  | installReservation target i =>
    simp only [faultless]
    split
    · next h => simpa [disk] using h
    · rfl
  | linkRecord target f =>
    simp only [faultless]
    split <;> next h => simp [disk, h]
  | linkReservation target i =>
    simp only [faultless]
    split <;> next h => simp [disk, h]
  | unlinkReservation target =>
    simp only [faultless]
    split
    · next h => simp [disk, h]
    · simp only [disk, Option.isSome_some]
  | closeSlot target d =>
    simp only [faultless]
    split
    · next h =>
      split
      · next hc => simp [disk, h, hc]
      · simp [disk]
    · next h => simp [disk, h]
  | lookClosed d => simp [faultless, disk]
  | listClosed => simp [faultless, disk]
  | readResolution d =>
    cases h : s.resolution d <;> simp [faultless, disk, h]
  | listResolutions => simp [faultless, disk]
  | publishResolution q =>
    cases h : s.resolution q.fenceDigest <;> simp [faultless, disk, h]
  | observe d request =>
    simp only [faultless]
    split
    · next h => exact h
    · rfl
  | _ => rfl

def steady (others : (p : Port D) → p.Answer) : Oracle (disk (D := D)) where
  answer := faultless others
  next s p := (disk p (faultless others s p) s).getD s
  serves s p := by
    obtain ⟨s', hs'⟩ := Option.isSome_iff_exists.mp (faultless_served others s p)
    rw [hs']
    rfl

/-! ## An operation -/

namespace Sample

def target : MainBound Form := ⟨.number 0, ⟨"refs/heads/main", rfl⟩⟩

def operation : Form := .number 1

def identity (stage : Stage) : ExternalIdentity Form := ⟨target, operation, stage, .text "", none⟩

def binding (stage : Stage) (parent : Option Form) : MutationBinding Form :=
  ⟨target, operation, stage, parent, "", .number 2, .number 3, .number 4, .number 5, .number 6, none, none, identity stage⟩

theorem binding_valid : (binding .candidatePublication none).Valid := by decide

/-- The intent of the first stage, recorded at this time. -/
def intent (recordedAt : Instant) : Intent Form where
  toMutationBinding := binding .candidatePublication none
  parentStage := none
  parentReceipt := none
  parentResolutionDigest := none
  requestDigest := .number 7
  recordedAt := recordedAt
  valid :=
    { binding := binding_valid
      parent := rfl
      named := rfl
      root := fun _ => ⟨rfl, rfl⟩
      proof := fun h => by cases h
      receipt := fun _ h => by cases h }

def preparation : Preparation Form := ⟨target, .number 6, "", .number 2, .number 4⟩

def lease : LeaseRecord Form := ⟨target, operation, "", .number 2, .number 3, .number 4, 100⟩

def rollbackPreparation : RollbackPreparation Form :=
  ⟨target, .number 6, .number 8, .number 9, .number 10, .number 11, "", "", "", "", .number 2, .number 3, .number 4⟩

def rollbackAuthorization : RollbackAuthorization Form := ⟨.number 9, .number 4, .number 5, 100⟩

def rollbackIntent : RollbackIntent Form := ⟨target, .number 8, .number 9, "", "", "", 0⟩

/-- The operation is a graduation, or a rollback; the clock stands still. -/
def others (rollback : Bool) (clock : Instant) : (p : Port Form) → p.Answer
  | .clock => .returned clock
  | .leaseCurrent _ _ => .returned ()
  | .install => .returned ()
  | .preparation _ => .returned (if rollback then none else some preparation)
  | .rollbackPreparation _ => .returned (if rollback then some rollbackPreparation else none)
  | .rollbackAuthorization _ => .returned (if rollback then some rollbackAuthorization else none)
  | .rollbackIntent _ => .returned (if rollback then some rollbackIntent else none)
  | .lease _ => .returned (some lease)
  | .controllerConfig _ => .returned (.number 5)
  | .releaseAuthorization _ => .returned none
  | .releaseClaim _ => .returned none
  | .verifyReceipt _ _ => .returned ()
  | .verifyResolution _ _ => .returned ()
  | .verifyResult _ _ _ => .returned ()
  | .verifyObservation _ _ _ => .returned ()
  | .dispatch _ _ => ⟨true, ()⟩
  | .dispatched _ request =>
    ⟨false, .returned ⟨request.stage, request.requestDigest, request.externalIdentity, .applied, true, .number 12, clock⟩⟩
  | .observe _ request => ⟨false, .returned ⟨request.stage, request.requestDigest, request.externalIdentity, .observed, .number 13⟩⟩
  -- the disk's own ports
  | .look _ => none
  | .makeSlot _ => .failed
  | .removeSlot _ => .refused
  | .installReservation _ _ => .refused
  | .linkRecord _ _ => .failed
  | .linkReservation _ _ => .failed
  | .unlinkReservation _ => .refused
  | .closeSlot _ _ => .refused
  | .lookClosed _ => none
  | .listClosed => none
  | .readResolution _ => .malformed
  | .listResolutions => none
  | .publishResolution _ => .failed

end Sample

end AvoCorrelate.Graduation
