import AvoCorrelate.MainLedger.Index
import AvoCorrelate.MainLedger.Invariant
/-!
# Interrupted calls

`_create_once` opens the index and writes its payload into it. A crash can leave any
beginning of the payload behind: the index is then there, but nothing reads it. What is
left by a crash before the index is opened, or after its last byte, is what the disk was
before the call or what it is after it.
-/
namespace AvoCorrelate.MainLedger

open AvoLib
open ExactCas (Sha256Digest ArtifactRef)

variable {C : Canon}

/-! ## Indexes that are created in place -/

/-- The calls that create their index in place: all but that of a submission. -/
inductive InPlace (C : Canon)
  | activation (a : Activation C)
  | classification (c : Classification C)
  | outcome (o : Outcome C)
  | transition (t : Transition C)
  | boundaryEvidence (e : Violation)
  | boundaryReset (r : Reset C)
  | package (p : EvidencePackage C)

namespace InPlace

abbrev Record : InPlace C → Type
  | .activation _ => Activation C
  | .classification _ => Classification C
  | .outcome _ => Outcome C
  | .transition _ => Transition C
  | .boundaryEvidence _ => Violation
  | .boundaryReset _ => Reset C
  | .package _ => EvidencePackage C

instance (w : InPlace C) : Recorded C w.Record :=
  match w with
  | .activation _ => inferInstanceAs (Recorded C (Activation C))
  | .classification _ => inferInstanceAs (Recorded C (Classification C))
  | .outcome _ => inferInstanceAs (Recorded C (Outcome C))
  | .transition _ => inferInstanceAs (Recorded C (Transition C))
  | .boundaryEvidence _ => inferInstanceAs (Recorded C Violation)
  | .boundaryReset _ => inferInstanceAs (Recorded C (Reset C))
  | .package _ => inferInstanceAs (Recorded C (EvidencePackage C))

instance (w : InPlace C) : DecidableEq w.Record :=
  match w with
  | .activation _ => inferInstanceAs (DecidableEq (Activation C))
  | .classification _ => inferInstanceAs (DecidableEq (Classification C))
  | .outcome _ => inferInstanceAs (DecidableEq (Outcome C))
  | .transition _ => inferInstanceAs (DecidableEq (Transition C))
  | .boundaryEvidence _ => inferInstanceAs (DecidableEq Violation)
  | .boundaryReset _ => inferInstanceAs (DecidableEq (Reset C))
  | .package _ => inferInstanceAs (DecidableEq (EvidencePackage C))

def record : (w : InPlace C) → w.Record
  | .activation a => a
  | .classification c => c
  | .outcome o => o
  | .transition t => t
  | .boundaryEvidence e => e
  | .boundaryReset r => r
  | .package p => p

def slot : (w : InPlace C) → Slot C w.Record
  | .activation _ => Slot.activation
  | .classification c => Slot.classification c.activationDigest c.schedulerSequence
  | .outcome o => Slot.outcome o.activationDigest o.schedulerSequence
  | .transition t => Slot.transition t.activationDigest t.classification.schedulerSequence
  | .boundaryEvidence e => Slot.boundary e.activationDigest
  | .boundaryReset r => Slot.boundaryReset r.activationDigest
  | .package p => Slot.package (p.activation.activationDigest C)

/-- The checks before the index is created. -/
def admitted (L : Limits C) : (w : InPlace C) → Disk C → LedgerCheck C (Option w.Record)
  | .activation a => fun _ => admitActivation L a
  | .classification c => admitClassification L c
  | .outcome o => admitOutcome L o
  | .transition t => admitTransition L t
  | .boundaryEvidence e => admitBoundaryEvidence L e
  | .boundaryReset r => admitBoundaryReset L r
  | .package p => admitPackage L p

variable (L : Limits C)

def run (w : InPlace C) : Ledger C w.Record := recordOnce L w.slot w.record (w.admitted L)

end InPlace

/-! ## Reads -/

inductive Read
  | activation
  | submission (operationId : Sha256Digest)
  | submissionBySequence (n : Nat)
  | submissions
  | classification (identity : Identity)
  | outcome (identity : Identity)
  | transition (identity : Identity)
  | sequences
  | boundaryEvidence (digest : Sha256Digest)
  | boundaryReset (digest : Sha256Digest)
  | package (digest : Sha256Digest)

abbrev Read.Answer (C : Canon) : Read → Type
  | .activation => Option (Activation C)
  | .submission _ => Option (Submission C)
  | .submissionBySequence _ => Option (Submission C)
  | .submissions => List (Submission C)
  | .classification _ => Option (Classification C)
  | .outcome _ => Option (Outcome C)
  | .transition _ => Option (Transition C)
  | .sequences => List Nat
  | .boundaryEvidence _ => Option Violation
  | .boundaryReset _ => Option (Reset C)
  | .package _ => Option (EvidencePackage C)

def Read.run (L : Limits C) (d : Disk C) : (q : Read) → LedgerCheck C (q.Answer C)
  | .activation => readActivation L d
  | .submission operationId => readSubmission L d operationId
  | .submissionBySequence n => readSubmissionBySequence L d n
  | .submissions => listSubmissions L d
  | .classification identity => readClassification L d identity
  | .outcome identity => readOutcome L d identity
  | .transition identity => readTransition L d identity
  | .sequences => listSequences L d
  | .boundaryEvidence digest => readBoundaryEvidence L d digest
  | .boundaryReset digest => readBoundaryReset L d digest
  | .package digest => readPackage L d digest

/-! ## A record that is there -/

section Replay
variable {L : Limits C} {d : Disk C}

theorem admitActivation_returns {r : Activation C} {y : Option (Activation C)} :
    (admitActivation L r).Returns y ↔ L.record (.activation r.toActivationBody) ≤ L.max ∧ none = y := by
  simp only [admitActivation, Check.returns_bind, verify_returns, put_returns, Check.returns_pure, exists_const, true_and]
  rfl

theorem admitClassification_replay {r : Classification C} (h : (admitClassification L r d).Returns none) :
    (admitClassification L r ((Slot.classification r.activationDigest r.schedulerSequence).set (.bound r) d)).Returns (some r) := by
  obtain ⟨a, e, hpassed, hread, hbound, -⟩ := admitClassification_returns.mp h
  refine admitClassification_returns.mpr ⟨a, e, ?_, hread, hbound, ?_, rfl⟩
  · exact hpassed.setStages (f := fun s => { s with classification := .bound r })
  · exact congrArg Stages.classification (setStages_same (f := fun s => { s with classification := .bound r }))

theorem admitOutcome_replay {r : Outcome C} (h : (admitOutcome L r d).Returns none) :
    (admitOutcome L r ((Slot.outcome r.activationDigest r.schedulerSequence).set (.bound r) d)).Returns (some r) := by
  obtain ⟨a, e, c, hpassed, hread, hc, hbound, -⟩ := admitOutcome_returns.mp h
  refine admitOutcome_returns.mpr ⟨a, e, c, ?_, hread, ?_, hbound, ?_, rfl⟩
  · exact hpassed.setStages (f := fun s => { s with outcome := .bound r })
  · exact (requireClassification_setStages (f := fun s => { s with outcome := .bound r }) fun _ => rfl).mpr hc
  · exact congrArg Stages.outcome (setStages_same (f := fun s => { s with outcome := .bound r }))

theorem admitTransition_replay {r : Transition C} (h : (admitTransition L r d).Returns none) :
    (admitTransition L r ((Slot.transition r.activationDigest r.classification.schedulerSequence).set (.bound r) d)).Returns
      (some r) := by
  obtain ⟨a, e, c, o, hpassed, hread, ⟨hc, ho, hbound, hexcluded, hprior⟩, -⟩ := admitTransition_returns.mp h
  refine admitTransition_returns.mpr ⟨a, e, c, o, ?_, hread, ⟨?_, ?_, hbound, hexcluded, ?_⟩, ?_, rfl⟩
  · exact hpassed.setStages (f := fun s => { s with transition := .bound r })
  · exact (requireClassification_setStages (f := fun s => { s with transition := .bound r }) fun _ => rfl).mpr hc
  · exact (outcomeFor_setStages (f := fun s => { s with transition := .bound r }) fun _ => rfl).mpr ho
  · exact priorState_setStages (f := fun s => { s with transition := .bound r }) (fun _ => rfl) (fun _ => rfl) hprior
  · exact congrArg Stages.transition (setStages_same (f := fun s => { s with transition := .bound r }))

theorem admitBoundaryEvidence_replay {r : Violation} (h : (admitBoundaryEvidence L r d).Returns none) :
    (admitBoundaryEvidence L r ((Slot.boundary r.activationDigest).set (.bound r) d)).Returns (some r) := by
  obtain ⟨a, ha, hread, hauthority, -⟩ := admitBoundaryEvidence_returns.mp h
  refine admitBoundaryEvidence_returns.mpr ⟨a, ha, hread, hauthority, ?_, rfl⟩
  simp [Slot.boundary]

theorem admitBoundaryReset_replay {r : Reset C} (h : (admitBoundaryReset L r d).Returns none) :
    (admitBoundaryReset L r ((Slot.boundaryReset r.activationDigest).set (.bound r) d)).Returns (some r) := by
  obtain ⟨a, e, ha, hread, hpassed, -⟩ := admitBoundaryReset_returns.mp h
  refine admitBoundaryReset_returns.mpr ⟨a, e, ha, hread, hpassed.setReset, ?_, rfl⟩
  simp [Slot.boundaryReset]

theorem admitPackage_replay {r : EvidencePackage C} (h : (admitPackage L r d).Returns none) :
    (admitPackage L r ((Slot.package (r.activation.activationDigest C)).set (.bound r) d)).Returns (some r) := by
  obtain ⟨a, ha, hread, hclosure, -⟩ := admitPackage_returns.mp h
  refine admitPackage_returns.mpr ⟨a, ha, hread, ?_, ?_, rfl⟩
  · rw [verifyPackageClosure_setPackage]
    exact hclosure
  · simp [Slot.package, Disk.package]

end Replay

/-! ## Crashes -/

/-- Where a call is interrupted: before its index is opened, or when so many bytes of the
reference, made at this time, have been written into it. -/
inductive CrashPoint
  | before
  | written (t : Instant) (bytes : Nat)

variable (S : Stamps) (L : Limits C)

section Record
variable {R : Type} [Recorded C R]

def roles : List (String × String) :=
  [("activation", "main-ledger-activation"), ("submission", "main-ledger-submission"),
    ("classification", "main-ledger-classification"), ("outcome", "main-ledger-outcome"),
    ("transition", "main-ledger-transition"), ("package", "main-ledger-evidence-package"),
    ("boundary", "main-ledger-boundary-evidence"), ("boundary-reset", "main-ledger-boundary-reset")]

/-- What `_put` returns. -/
def reference (r : R) (t : Instant) : ArtifactRef where
  digest := C.digest (Recorded.document C r)
  sizeBytes := L.record (Recorded.document C r)
  mediaType := "application/vnd.avo.main-ledger." ++ Recorded.kind C R ++ "+json"
  role := (roles.lookup (Recorded.kind C R)).getD ""
  createdAt := t

def payload (r : R) (t : Instant) : List Char := indexText S (reference L r t)

variable (C) in
/-- An index with this content, where `r` is in the store under its digest. -/
def indexFile (r : R) (data : List Char) : File R :=
  match readIndex S data with
  | some ref => if ref.digest = C.digest (Recorded.document C r) then .bound r else .torn
  | none => .torn

end Record

namespace InPlace
variable {S L} (w : InPlace C) (d d' : Disk C)

variable (S L) in
def interrupted : CrashPoint → Disk C
  | .before => d
  | .written t bytes => w.slot.set (indexFile C S w.record ((payload S L w.record t).take bytes)) d

variable (L) in
/-- The call comes to the point. It opens the index when its checks have passed and the
index is not there. -/
def Gets : CrashPoint → Prop
  | .before => True
  | .written _ _ => (w.admitted L d).Returns none ∧ w.slot.file d = .absent

variable (S L) in
/-- The index was not opened, or it has all its bytes. -/
def Whole : CrashPoint → Prop
  | .before => True
  | .written t bytes => (payload S L w.record t).length ≤ bytes

variable (L) in
/-- What the crash left of a call from `d` to `d'`: every read ignores the record or returns
it whole, and the call yields the record when it is made again. -/
structure Survives (left : Disk C) : Prop where
  reads : ∀ q : Read, q.run L left = q.run L d ∨ q.run L left = q.run L d'
  again : (w.run L).answered (fun _ => true) left = (.ok w.record, d')

/-! ## The index as it is read -/

section Record
variable {R : Type} [Recorded C R] {r : R} {t : Instant}

theorem indexFile_take {bytes : Nat} (h : bytes < (payload S L r t).length) :
    indexFile C S r ((payload S L r t).take bytes) = .torn := by
  rw [indexFile, payload, readIndex_take h]

end Record

variable {w : InPlace C} {d d' : Disk C} {t : Instant}

theorem indexFile_whole {bytes : Nat} (h : (payload S L w.record t).length ≤ bytes) :
    indexFile C S w.record ((payload S L w.record t).take bytes) = .bound w.record := by
  have hmedia : (reference L w.record t).mediaType ≠ "" := by cases w <;> simp [reference]
  have hrole : (reference L w.record t).role ≠ "" := by cases w <;> exact of_decide_eq_true rfl
  rw [List.take_of_length_le h, indexFile, payload, readIndex_text hmedia hrole]
  exact if_pos rfl

/-! ## The call again -/

theorem slot_set {f : File w.Record} : w.slot.file (w.slot.set f d) = f := by
  cases w with
  | activation a => rfl
  | classification c =>
    have hset : (Slot.setStages c.activationDigest c.schedulerSequence (fun s => { s with classification := f }) d).stages
        c.activationDigest c.schedulerSequence = _ := setStages_same
    exact congrArg Stages.classification hset
  | outcome o =>
    have hset : (Slot.setStages o.activationDigest o.schedulerSequence (fun s => { s with outcome := f }) d).stages
        o.activationDigest o.schedulerSequence = _ := setStages_same
    exact congrArg Stages.outcome hset
  | transition t =>
    have hset : (Slot.setStages t.activationDigest t.classification.schedulerSequence (fun s => { s with transition := f }) d).stages
        t.activationDigest t.classification.schedulerSequence = _ := setStages_same
    exact congrArg Stages.transition hset
  | boundaryEvidence e => simp [slot, Slot.boundary]
  | boundaryReset r => simp [slot, Slot.boundaryReset]
  | package p => simp [slot, Slot.package, Disk.package]

theorem admitted_some {old : w.Record} (h : (w.admitted L d).Returns (some old)) : w.slot.file d = .bound old := by
  cases w with
  | activation a =>
    cases (admitActivation_returns.mp h).2
  | classification c =>
    obtain ⟨a, e, -, -, -, hfile, hold⟩ := admitClassification_returns.mp h
    rw [hold]
    exact hfile
  | outcome o =>
    obtain ⟨a, e, c, -, -, -, -, hfile, hold⟩ := admitOutcome_returns.mp h
    rw [hold]
    exact hfile
  | transition t =>
    obtain ⟨a, e, c, o, -, -, -, hfile, hold⟩ := admitTransition_returns.mp h
    rw [hold]
    exact hfile
  | boundaryEvidence e =>
    obtain ⟨a, -, -, -, hfile, hold⟩ := admitBoundaryEvidence_returns.mp h
    rw [hold]
    exact hfile
  | boundaryReset r =>
    obtain ⟨a, e, -, -, -, hfile, hold⟩ := admitBoundaryReset_returns.mp h
    rw [hold]
    exact hfile
  | package p =>
    obtain ⟨a, -, -, -, hfile, hold⟩ := admitPackage_returns.mp h
    rw [hold]
    exact hfile

theorem run_torn {V : Question C → Bool} {x : w.Record} {d₁ : Disk C} :
    (w.run L).answered V (w.slot.set .torn d) ≠ (.ok x, d₁) := by
  intro h
  have hrun : (w.run L).Runs (w.slot.set .torn d) (.ok x) d₁ := by
    have := Procedure.runs_answered (p := w.run L) (s := w.slot.set .torn d) V
    rwa [h] at this
  rcases Procedure.runs_bind.mp hrun with ⟨_, -, heq⟩ | ⟨old, d₂, hold, hrun⟩
  · cases heq
  obtain ⟨hends, rfl⟩ := Procedure.runs_check.mp hold
  cases old with
  | some old =>
    have hfile := admitted_some (Check.ends_ok.mp hends)
    rw [slot_set] at hfile
    cases hfile
  | none =>
    rcases Procedure.runs_bind.mp hrun with ⟨_, -, heq⟩ | ⟨old, d₃, hold, -⟩
    · cases heq
    have hexisting := Check.ends_ok.mp (Procedure.runs_check.mp hold).1
    rw [existing, slot_set] at hexisting
    cases old with
    | none => cases ifFile_returns_none.mp hexisting
    | some old =>
      obtain ⟨r, hr, -⟩ := Check.returns_bind.mp (ifFile_returns_some.mp hexisting).2
      cases readReference_returns.mp hr

theorem admitted_replay (h : (w.admitted L d).Returns none) :
    (w.admitted L (w.slot.set (.bound w.record) d)).Returns (some w.record) ∨
      ((w.admitted L (w.slot.set (.bound w.record) d)).Returns none ∧
        L.record (Recorded.document C w.record) ≤ L.max) := by
  cases w with
  | activation a =>
    exact .inr ⟨h, (admitActivation_returns.mp h).1⟩
  | classification c => exact .inl (admitClassification_replay h)
  | outcome o => exact .inl (admitOutcome_replay h)
  | transition t => exact .inl (admitTransition_replay h)
  | boundaryEvidence e => exact .inl (admitBoundaryEvidence_replay h)
  | boundaryReset r => exact .inl (admitBoundaryReset_replay h)
  | package p => exact .inl (admitPackage_replay h)

theorem run_fresh (h : (w.admitted L d).Returns none) (hfile : w.slot.file d = .absent) :
    (w.run L).answered (fun _ => true) d = (.ok w.record, w.slot.set (.bound w.record) d) := by
  have hadmitted : (Procedure.check (w.admitted L)).answered (fun _ => true) d = (.ok none, d) := by
    rw [Procedure.answered_check, h.answered fun _ => rfl]
  have hexisting : (Procedure.check (existing L w.slot w.record)).answered (fun _ => true) d = (.ok none, d) := by
    have hnone : (existing L w.slot w.record d).Returns none := ifFile_returns_none.mpr hfile
    rw [Procedure.answered_check, hnone.answered fun _ => rfl]
  unfold run recordOnce
  rw [Procedure.answered_bind_ok hadmitted]
  unfold createOnce
  rw [Procedure.answered_bind_ok hexisting, Procedure.answered_bind_ok Procedure.answered_write]
  rfl

theorem run_replay (h : (w.admitted L d).Returns none) :
    (w.run L).answered (fun _ => true) (w.slot.set (.bound w.record) d) = (.ok w.record, w.slot.set (.bound w.record) d) := by
  unfold run recordOnce
  rcases admitted_replay h with hsome | ⟨hnone, hsize⟩
  · have hadmitted : (Procedure.check (w.admitted L)).answered (fun _ => true) (w.slot.set (.bound w.record) d) =
        (.ok (some w.record), w.slot.set (.bound w.record) d) := by
      rw [Procedure.answered_check, hsome.answered fun _ => rfl]
    rw [Procedure.answered_bind_ok hadmitted]
    rfl
  · have hadmitted : (Procedure.check (w.admitted L)).answered (fun _ => true) (w.slot.set (.bound w.record) d) =
        (.ok none, w.slot.set (.bound w.record) d) := by
      rw [Procedure.answered_check, hnone.answered fun _ => rfl]
    have hexisting : (existing L w.slot w.record (w.slot.set (.bound w.record) d)).Returns (some w.record) := by
      rw [existing, slot_set, ifFile_returns_some]
      refine ⟨nofun, ?_⟩
      simp only [Check.returns_bind, readReference_returns, readRaw_returns, Check.returns_require, Check.returns_pure, exists_const]
      exact ⟨w.record, rfl, hsize, rfl, rfl⟩
    rw [Procedure.answered_bind_ok hadmitted]
    unfold createOnce
    rw [Procedure.answered_bind_ok (by rw [Procedure.answered_check, hexisting.answered fun _ => rfl])]
    rfl

theorem interrupted_torn {bytes : Nat} (h : bytes < (payload S L w.record t).length) :
    w.interrupted S L d (.written t bytes) = w.slot.set .torn d := by
  rw [interrupted, indexFile_take h]

theorem interrupted_whole {bytes : Nat} (h : (payload S L w.record t).length ≤ bytes) :
    w.interrupted S L d (.written t bytes) = w.slot.set (.bound w.record) d := by
  rw [interrupted, indexFile_whole h]

/-- A call survives a crash iff its index was not opened or is whole. -/
theorem survives_iff_whole {p : CrashPoint} (hrun : (w.run L).answered (fun _ => true) d = (.ok w.record, d'))
    (hp : w.Gets L d p) : w.Survives L d d' (w.interrupted S L d p) ↔ w.Whole S L p := by
  cases p with
  | before => exact ⟨fun _ => trivial, fun _ => ⟨fun _ => .inl rfl, hrun⟩⟩
  | written t bytes =>
    obtain ⟨hnone, hfile⟩ := hp
    rw [run_fresh hnone hfile, Prod.mk.injEq] at hrun
    obtain ⟨-, rfl⟩ := hrun
    constructor
    · intro hsurvives
      by_contra hshort
      have hagain := hsurvives.again
      rw [interrupted_torn (Nat.lt_of_not_le hshort)] at hagain
      exact run_torn hagain
    · intro hwhole
      rw [interrupted_whole hwhole]
      exact ⟨fun _ => .inr rfl, run_replay hnone⟩

end InPlace

namespace Sample

/-- A sign and digits. -/
def stamps : Stamps where
  text
    | .ofNat n => '+' :: Nat.toDigits 10 n
    | .negSucc n => '-' :: Nat.toDigits 10 n
  parse
    | '+' :: cs => some (.ofNat (Nat.ofDigitChars 10 cs 0))
    | '-' :: cs => some (.negSucc (Nat.ofDigitChars 10 cs 0))
    | _ => none
  parse_text t := by
    cases t with
    | ofNat n => simp only [Nat.ofDigitChars_ten_toDigits]
    | negSucc n => simp only [Nat.ofDigitChars_ten_toDigits]

theorem activation_valid : (activation 7).Valid canon := by decide

def firstActivation : InPlace canon := .activation ⟨activation 7, activation_valid⟩

end Sample

theorem survives_iff_whole_activation :
    (Sample.firstActivation.Survives Sample.limits (Disk.blank _)
        (Sample.firstActivation.slot.set (.bound Sample.firstActivation.record) (Disk.blank _))
        (Sample.firstActivation.interrupted Sample.stamps Sample.limits (Disk.blank _) (.written 5 1000)) ↔
      Sample.firstActivation.Whole Sample.stamps Sample.limits (.written 5 1000)) :=
  have hnone := admitActivation_returns.mpr ⟨by decide, rfl⟩
  InPlace.survives_iff_whole (InPlace.run_fresh hnone rfl) ⟨hnone, rfl⟩

/-- An empty index is left behind, and the activation can never be recorded. -/
theorem activation_index_torn :
    (Sample.firstActivation.run Sample.limits).answered (fun _ => true) (Disk.blank _) =
        (.ok Sample.firstActivation.record, Sample.firstActivation.slot.set (.bound Sample.firstActivation.record) (Disk.blank _)) ∧
      Sample.firstActivation.Gets Sample.limits (Disk.blank _) (.written 5 0) ∧
      ¬ Sample.firstActivation.Survives Sample.limits (Disk.blank _)
        (Sample.firstActivation.slot.set (.bound Sample.firstActivation.record) (Disk.blank _))
        (Sample.firstActivation.interrupted Sample.stamps Sample.limits (Disk.blank _) (.written 5 0)) := by
  have hnone : (Sample.firstActivation.admitted Sample.limits (Disk.blank _)).Returns none :=
    admitActivation_returns.mpr ⟨by decide, rfl⟩
  refine ⟨InPlace.run_fresh hnone rfl, ⟨hnone, rfl⟩, fun hsurvives => ?_⟩
  have hagain := hsurvives.again
  rw [InPlace.interrupted_torn (Nat.succ_pos _)] at hagain
  exact InPlace.run_torn hagain

end AvoCorrelate.MainLedger
