import AvoCorrelate.MainLedger.Recording
import Mathlib.Data.List.Forall2
/-!
# What the journal reads

A read returns the record of the file it looks at, if the record can be read and is bound
to what it depends on.
-/
namespace AvoCorrelate.MainLedger

open AvoLib
open ExactCas (Sha256Digest)

variable {C : Canon} (L : Limits C)

/-! ## Records -/

/-- The metadata of an artifact outside the ledger. -/
def External.Fits (x : External) : Prop :=
  x.artifact.role = x.role ∧ x.artifact.mediaType = x.mediaType ∧ 0 < x.artifact.sizeBytes ∧ x.artifact.sizeBytes ≤ L.max

/-- A record that is small enough, with the artifacts it names. -/
structure Readable {R : Type} [Recorded C R] (r : R) : Prop where
  fits : L.record (Recorded.document C r) ≤ L.max
  artifacts : ∀ x ∈ Recorded.artifacts C r, External.Fits L x

variable {L}

variable {u : Unit} {α β : Type} {f : File α} {p : LedgerCheck C β} {n : Nat}

@[simp] theorem readExternal_returns {x : External} : (readExternal L x : LedgerCheck C Unit).Returns u ↔ x.Fits L := by
  simp [readExternal, External.Fits]

@[simp] theorem verify_returns {kind : String} {q : Question C} : (verify kind q).Returns u := by
  simp [verify]

section Record
variable {R : Type} [Recorded C R] {r r' : R} {f : File R}

@[simp] theorem validateRecordArtifacts_returns {u : Unit} :
    (validateRecordArtifacts L r).Returns u ↔ ∀ x ∈ Recorded.artifacts C r, x.Fits L := by
  simp only [validateRecordArtifacts, Check.returns_bind, Check.returns_each, Check.returns_pure, and_true]
  induction Recorded.artifacts C r with
  | nil => simp
  | cons x xs ih =>
    constructor
    · rintro ⟨_, _ | ⟨hx, hxs⟩⟩
      exact List.forall_mem_cons.mpr ⟨readExternal_returns.mp hx, ih.mp ⟨_, hxs⟩⟩
    · intro h
      obtain ⟨hx, hxs⟩ := List.forall_mem_cons.mp h
      obtain ⟨us, hus⟩ := ih.mpr hxs
      exact ⟨() :: us, .cons (readExternal_returns.mpr hx) hus⟩

@[simp] theorem put_returns {u : Unit} : (put L r).Returns u ↔ L.record (Recorded.document C r) ≤ L.max := by
  simp [put]

@[simp] theorem readReference_returns : (readReference C f).Returns r ↔ f = .bound r := by
  cases f <;> simp [readReference]

@[simp] theorem readRaw_returns {u : Unit} : (readRaw L r).Returns u ↔ L.record (Recorded.document C r) ≤ L.max := by
  simp [readRaw]

@[simp] theorem readRecord_returns : (readRecord L r).Returns r' ↔ r' = r ∧ Readable L r := by
  simp only [readRecord, Check.returns_bind, readRaw_returns, Check.returns_wrap, validateRecordArtifacts_returns,
    Check.returns_pure, exists_const]
  constructor
  · rintro ⟨hsize, hart, rfl⟩; exact ⟨rfl, hsize, hart⟩
  · rintro ⟨rfl, hsize, hart⟩; exact ⟨hsize, hart, rfl⟩

@[simp] theorem readStage_returns : (readStage L f).Returns r ↔ f = .bound r ∧ Readable L r := by
  simp only [readStage, Check.returns_bind, Check.returns_require, isFile_eq_true, readReference_returns,
    readRecord_returns, exists_const]
  constructor
  · rintro ⟨-, _, rfl, rfl, h⟩; exact ⟨rfl, h⟩
  · rintro ⟨rfl, h⟩; exact ⟨(by intro h; cases h), r, rfl, rfl, h⟩

end Record

theorem ifFile_returns {o : Option β} :
    (ifFile f p).Returns o ↔ (f = .absent ∧ o = none) ∨ (f ≠ .absent ∧ ∃ x, p.Returns x ∧ o = some x) := by
  cases f <;> simp [ifFile, isFile, eq_comm]

@[simp] theorem ifFile_returns_some {x : β} : (ifFile f p).Returns (some x) ↔ f ≠ .absent ∧ p.Returns x := by
  simp [ifFile_returns]

@[simp] theorem ifFile_returns_none : (ifFile f p).Returns none ↔ f = .absent := by
  simp [ifFile_returns]

/-! ## Activation -/

variable {d : Disk C} {a : Activation C} {digest : Sha256Digest}

@[simp] theorem readActivation_returns {o : Option (Activation C)} :
    (readActivation L d).Returns o ↔
      (d.activation = .absent ∧ o = none) ∨ ∃ a, o = some a ∧ d.activation = .bound a ∧ Readable L a := by
  simp only [readActivation, ifFile_returns, Check.returns_bind, readReference_returns, readRecord_returns,
    verify_returns, Check.returns_pure, exists_const, true_and]
  refine or_congr_right ⟨?_, ?_⟩
  · rintro ⟨-, a, ⟨a', hfile, a'', ⟨rfl, hread⟩, rfl⟩, rfl⟩
    exact ⟨a'', rfl, hfile, hread⟩
  · rintro ⟨a, rfl, hfile, hread⟩
    exact ⟨(by rw [hfile]; intro h; cases h), a, ⟨a, hfile, a, ⟨rfl, hread⟩, rfl⟩, rfl⟩

@[simp] theorem requireActivation_returns :
    (requireActivation L d digest).Returns a ↔
      d.activation = .bound a ∧ Readable L a ∧ a.activationDigest C = digest := by
  simp only [requireActivation, Check.returns_bind, readActivation_returns, Check.returns_orRaise, Check.returns_require,
    Check.returns_pure, exists_const]
  constructor
  · rintro ⟨_, ⟨-, rfl⟩ | ⟨a', rfl, hfile, hread⟩, a'', ho, hdigest, rfl⟩
    · cases ho
    · cases ho; exact ⟨hfile, hread, hdigest⟩
  · rintro ⟨hfile, hread, hdigest⟩
    exact ⟨some a, .inr ⟨a, rfl, hfile, hread⟩, a, rfl, hdigest, rfl⟩

/-! ## Entries -/

/-- What `_read_entry_submission` asks of an entry. -/
structure EntryBound (a : Activation C) (e : Entry C) : Prop where
  activation : e.submission.activationDigest = a.activationDigest C
  target : e.submission.repositoryDigest = a.repositoryDigest ∧ e.submission.targetRef = a.targetRef
  watermark : a.schedulerSequenceWatermark < e.submission.schedulerSequence
  fields : newEntry e.submission = e

@[simp] theorem readEntrySubmission_returns {e : Entry C} {s : Submission C} :
    (readEntrySubmission L e a).Returns s ↔ s = e.submission ∧ Readable L s ∧ EntryBound a e := by
  simp only [readEntrySubmission, Check.returns_bind, readRecord_returns, verify_returns, Check.returns_require,
    Check.returns_pure, exists_const, true_and]
  obtain ⟨eact, eseq, eop, esrc, eid, esub⟩ := e
  constructor
  · rintro ⟨_, ⟨rfl, hread⟩, ⟨hact, hrepo, href, hwater, h1, h2, h3, h4, h5⟩, rfl⟩
    exact ⟨rfl, hread, hact, ⟨hrepo, href⟩, hwater, by simp only [newEntry, h1, h2, h3, h4, h5]⟩
  · rintro ⟨rfl, hread, ⟨hact, ⟨hrepo, href⟩, hwater, hfields⟩⟩
    obtain ⟨h1, h2, h3, h4, h5, -⟩ := Entry.mk.inj hfields
    exact ⟨_, ⟨rfl, hread⟩, ⟨hact, hrepo, href, hwater, h1, h2, h3, h4, h5⟩, rfl⟩

theorem EntryBound.sequence {e : Entry C} (h : EntryBound a e) : e.schedulerSequence = e.submission.schedulerSequence := by
  rw [← h.fields]; rfl

@[simp] theorem readSequenceFile_returns {e e' : Entry C} : (readSequenceFile L digest n e).Returns e' ↔
      e' = e ∧ L.entry e ≤ maxIndexBytes ∧ e.activationDigest = digest ∧ e.schedulerSequence = n := by
  simp only [readSequenceFile, Check.returns_bind, Check.returns_require, Check.returns_pure, exists_const]
  exact ⟨by rintro ⟨h, he⟩; exact ⟨he.symm, h⟩, by rintro ⟨he, h⟩; exact ⟨h, he.symm⟩⟩

theorem sequenceEntry_returns {o : Option (Entry C)} : (sequenceEntry L d digest n).Returns o ↔
      o = (d.sequences digest).lookup n ∧
        ∀ e ∈ o, L.entry e ≤ maxIndexBytes ∧ e.activationDigest = digest ∧ e.schedulerSequence = n := by
  unfold sequenceEntry
  cases (d.sequences digest).lookup n with
  | none =>
    constructor
    · rintro rfl; exact ⟨rfl, nofun⟩
    · rintro ⟨rfl, -⟩; rfl
  | some e =>
    simp only [Check.returns_bind, readSequenceFile_returns, Check.returns_pure]
    constructor
    · rintro ⟨_, ⟨rfl, h⟩, rfl⟩
      exact ⟨rfl, fun e he => by cases he; exact h⟩
    · rintro ⟨rfl, h⟩
      exact ⟨e, ⟨rfl, h e rfl⟩, rfl⟩

@[simp] theorem requireEntry_returns {e : Entry C} :
    (requireEntry L d digest n).Returns e ↔ (d.sequences digest).lookup n = some e ∧
      L.entry e ≤ maxIndexBytes ∧ e.activationDigest = digest ∧ e.schedulerSequence = n := by
  simp only [requireEntry, Check.returns_bind, sequenceEntry_returns, Check.returns_orRaise]
  constructor
  · rintro ⟨_, ⟨hlookup, h⟩, rfl⟩
    exact ⟨hlookup.symm, h e rfl⟩
  · rintro ⟨hlookup, h⟩
    exact ⟨some e, ⟨hlookup.symm, fun e' he => by cases he; exact h⟩, rfl⟩

/-! ## Stages -/

/-- `_require_exact_classification_binding`. -/
structure ClassificationBound (a : Activation C) (s : Submission C) (c : Classification C) : Prop where
  activation : c.activationDigest = a.activationDigest C
  submission : c.submissionDigest = s.submissionDigest ∧ c.operationId = s.operationId
  sequence : c.schedulerSequence = s.schedulerSequence
  policy : c.policyDigest = a.policyDigest ∧ c.policyEpoch = a.policyEpoch
  authority : c.controllerAuthority = a.controllerAuthority

/-- `_require_exact_outcome_binding`. -/
structure OutcomeBound (a : Activation C) (s : Submission C) (c : Classification C) (o : Outcome C) : Prop where
  activation : o.activationDigest = a.activationDigest C
  submission : o.submissionDigest = s.submissionDigest ∧ o.operationId = s.operationId
  sequence : o.schedulerSequence = s.schedulerSequence
  classification : o.classificationDigest = c.classificationDigest C ∧ o.classification = c.toClassificationBody
  eligible : c.classification = .eligible

/-- `_require_exact_transition_binding`. -/
structure TransitionBound (a : Activation C) (c : Classification C) (o : Option (Outcome C)) (t : Transition C) : Prop where
  activation : t.activationDigest = a.activationDigest C
  classification : t.classification = c.toClassificationBody
  outcome : t.outcome = o.map (·.toOutcomeBody)

variable {s : Submission C} {c : Classification C} {o : Outcome C} {t : Transition C} {e : Entry C}

@[simp] theorem requireExactClassificationBinding_returns :
    (requireExactClassificationBinding c a s).Returns u ↔ ClassificationBound a s c := by
  simp only [requireExactClassificationBinding, Check.returns_require]
  constructor
  · rintro ⟨h1, h2, h3, h4, h5, h6, h7⟩; exact ⟨h1, ⟨h2, h3⟩, h4, ⟨h5, h6⟩, h7⟩
  · rintro ⟨h1, ⟨h2, h3⟩, h4, ⟨h5, h6⟩, h7⟩; exact ⟨h1, h2, h3, h4, h5, h6, h7⟩

@[simp] theorem requireExactOutcomeBinding_returns : (requireExactOutcomeBinding o a s c).Returns u ↔ OutcomeBound a s c o := by
  simp only [requireExactOutcomeBinding, Check.returns_require]
  constructor
  · rintro ⟨h1, h2, h3, h4, h5, h6, h7⟩; exact ⟨h1, ⟨h2, h4⟩, h3, ⟨h5, h6⟩, h7⟩
  · rintro ⟨h1, ⟨h2, h4⟩, h3, ⟨h5, h6⟩, h7⟩; exact ⟨h1, h2, h3, h4, h5, h6, h7⟩

@[simp] theorem requireExactTransitionBinding_returns {o : Option (Outcome C)} :
    (requireExactTransitionBinding t a c o).Returns u ↔ TransitionBound a c o t := by
  simp only [requireExactTransitionBinding, Check.returns_require]
  constructor
  · rintro ⟨h1, h2, h3⟩; exact ⟨h1, h2, h3⟩
  · rintro ⟨h1, h2, h3⟩; exact ⟨h1, h2, h3⟩

@[simp] theorem readEntryClassification_returns : (readEntryClassification L d e a s).Returns c ↔
    (d.stages (a.activationDigest C) e.schedulerSequence).classification = .bound c ∧ Readable L c ∧
      ClassificationBound a s c := by
  simp only [readEntryClassification, Check.returns_bind, readStage_returns, requireExactClassificationBinding_returns,
    verify_returns, Check.returns_pure, exists_const, true_and]
  constructor
  · rintro ⟨_, ⟨hfile, hread⟩, hbound, rfl⟩; exact ⟨hfile, hread, hbound⟩
  · rintro ⟨hfile, hread, hbound⟩; exact ⟨c, ⟨hfile, hread⟩, hbound, rfl⟩

@[simp] theorem readEntryOutcome_returns : (readEntryOutcome L d e a s c).Returns o ↔
    (d.stages (a.activationDigest C) e.schedulerSequence).outcome = .bound o ∧ Readable L o ∧ OutcomeBound a s c o := by
  simp only [readEntryOutcome, Check.returns_bind, readStage_returns, requireExactOutcomeBinding_returns,
    verify_returns, Check.returns_pure, exists_const, true_and]
  constructor
  · rintro ⟨_, ⟨hfile, hread⟩, hbound, rfl⟩; exact ⟨hfile, hread, hbound⟩
  · rintro ⟨hfile, hread, hbound⟩; exact ⟨o, ⟨hfile, hread⟩, hbound, rfl⟩

@[simp] theorem readEntryTransition_returns {o : Option (Outcome C)} : (readEntryTransition L d e a c o).Returns t ↔
    (d.stages (a.activationDigest C) e.schedulerSequence).transition = .bound t ∧ Readable L t ∧
      TransitionBound a c o t := by
  simp only [readEntryTransition, Check.returns_bind, readStage_returns, requireExactTransitionBinding_returns,
    verify_returns, Check.returns_pure, exists_const, true_and]
  constructor
  · rintro ⟨_, ⟨hfile, hread⟩, hbound, rfl⟩; exact ⟨hfile, hread, hbound⟩
  · rintro ⟨hfile, hread, hbound⟩; exact ⟨t, ⟨hfile, hread⟩, hbound, rfl⟩

@[simp] theorem requireClassification_returns : (requireClassification L d e a s).Returns c ↔
    (d.stages (a.activationDigest C) s.schedulerSequence).classification ≠ .absent ∧
      (readEntryClassification L d e a s).Returns c := by
  simp only [requireClassification, Check.returns_bind, Check.returns_require, isFile_eq_true, exists_const]

@[simp] theorem requireOutcome_returns : (requireOutcome L d e a s c).Returns o ↔
    (d.stages (a.activationDigest C) s.schedulerSequence).outcome ≠ .absent ∧
      (readEntryOutcome L d e a s c).Returns o := by
  simp only [requireOutcome, Check.returns_bind, Check.returns_require, isFile_eq_true, exists_const]

theorem outcomeFor_returns {o : Option (Outcome C)} : (outcomeFor L d e a s c).Returns o ↔
    if c.classification = .eligible then ∃ o', o = some o' ∧ (requireOutcome L d e a s c).Returns o' else o = none := by
  unfold outcomeFor
  split
  · simp only [Check.returns_bind, Check.returns_pure]
    exact ⟨by rintro ⟨o', h, ho⟩; exact ⟨o', ho.symm, h⟩, by rintro ⟨o', ho, h⟩; exact ⟨o', h, ho.symm⟩⟩
  · exact eq_comm

/-! ## The boundary -/

/-- `read_boundary_evidence`. -/
structure EvidenceBound (a : Activation C) (e : Violation) : Prop where
  activation : e.activationDigest = a.activationDigest C
  authority : e.controllerAuthority = a.controllerAuthority

@[simp] theorem readBoundaryEvidence_returns {o : Option Violation} : (readBoundaryEvidence L d digest).Returns o ↔
    ∃ a, (d.activation = .bound a ∧ Readable L a ∧ a.activationDigest C = digest) ∧
      ((d.boundary digest = .absent ∧ o = none) ∨
        ∃ e, o = some e ∧ d.boundary digest = .bound e ∧ Readable (C := C) L e ∧ EvidenceBound a e) := by
  simp only [readBoundaryEvidence, Check.returns_bind, requireActivation_returns, ifFile_returns, readReference_returns,
    readRecord_returns, Check.returns_require, verify_returns, Check.returns_pure, exists_const, true_and]
  refine exists_congr fun a => and_congr_right fun _ => or_congr_right ⟨?_, ?_⟩
  · rintro ⟨-, e, ⟨_, hfile, _, ⟨rfl, hread⟩, ⟨hact, hauth⟩, rfl⟩, rfl⟩
    exact ⟨_, rfl, hfile, hread, hact, hauth⟩
  · rintro ⟨e, rfl, hfile, hread, hact, hauth⟩
    exact ⟨(by rw [hfile]; intro h; cases h), e, ⟨e, hfile, e, ⟨rfl, hread⟩, ⟨hact, hauth⟩, rfl⟩, rfl⟩

theorem requireBoundaryEvidence_returns {v : Violation} : (requireBoundaryEvidence L d a digest).Returns v ↔
    (∃ a', (d.activation = .bound a' ∧ Readable L a' ∧ a'.activationDigest C = a.activationDigest C) ∧
      d.boundary (a.activationDigest C) = .bound v ∧ Readable (C := C) L v ∧ EvidenceBound a' v) ∧
    v.violationDigest C = digest := by
  simp only [requireBoundaryEvidence, Check.returns_bind, readBoundaryEvidence_returns, Check.returns_orRaise,
    Check.returns_require, Check.returns_pure, exists_const]
  constructor
  · rintro ⟨_, ⟨a', ha, ⟨-, rfl⟩ | ⟨v', rfl, hfile⟩⟩, _, ho, hdigest, rfl⟩
    · cases ho
    · cases ho
      exact ⟨⟨a', ha, hfile⟩, hdigest⟩
  · rintro ⟨⟨a', ha, hfile⟩, hdigest⟩
    exact ⟨some v, ⟨a', ha, .inr ⟨v, rfl, hfile⟩⟩, v, rfl, hdigest, rfl⟩

end AvoCorrelate.MainLedger
