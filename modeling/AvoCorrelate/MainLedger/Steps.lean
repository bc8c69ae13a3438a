import AvoCorrelate.MainLedger.Chain
/-!
# What a call does

A call leaves the disk as it is, or it creates one file, and then the checks of the call
have passed: `Call.Creates` says what they found.
-/
namespace AvoCorrelate.MainLedger

open AvoLib
open ExactCas (Sha256Digest)

variable {C : Canon} {L : Limits C} {d d' : Disk C} {a : Activation C}

/-! ## Fences -/

/-- What `_require_fresh_mutation_allowed` finds. -/
structure Fresh (L : Limits C) (d : Disk C) (a : Activation C) : Prop where
  incomplete : ∃ s, (currentAccumulatorState L d a).Returns s ∧ s.thresholdComplete = false
  package : d.package (a.activationDigest C) = .absent
  boundary : d.boundary (a.activationDigest C) = .absent
  reset : d.boundaryReset (a.activationDigest C) = .absent

@[simp] theorem requireFreshMutationAllowed_returns {kind : String} {u : Unit} :
    (requireFreshMutationAllowed L d a kind).Returns u ↔ Fresh L d a := by
  simp only [requireFreshMutationAllowed, Check.returns_bind, Check.returns_require, isFile_eq_false, exists_const]
  constructor
  · rintro ⟨s, hs, hincomplete, hpackage, hboundary, hreset⟩; exact ⟨⟨s, hs, hincomplete⟩, hpackage, hboundary, hreset⟩
  · rintro ⟨⟨s, hs, hincomplete⟩, hpackage, hboundary, hreset⟩; exact ⟨s, hs, hincomplete, hpackage, hboundary, hreset⟩

/-! ## Creating a file -/

section Create
variable {R : Type} [Recorded C R] [DecidableEq R] {slot : Slot C R} {r x : R} {y : Except LedgerError R}
  {admitted : Disk C → LedgerCheck C (Option R)}

theorem runs_createOnce (h : (createOnce L slot r).Runs d y d') :
    d' = d ∨ (slot.file d = .absent ∧ d' = slot.set (.bound r) d) := by
  rcases Procedure.runs_bind.mp h with ⟨_, h, -⟩ | ⟨old, d₁, hold, h⟩
  · exact .inl (Procedure.runs_check.mp h).2
  · obtain ⟨hold, rfl⟩ := Procedure.runs_check.mp hold
    cases old with
    | some old => exact .inl (Procedure.runs_pure.mp h).2
    | none =>
      refine .inr ⟨ifFile_returns_none.mp (Check.ends_ok.mp hold), ?_⟩
      rcases Procedure.runs_bind.mp h with ⟨_, h, -⟩ | ⟨_, d₂, h, hlast⟩
      · cases (Procedure.runs_write.mp h).1
      · rw [(Procedure.runs_pure.mp hlast).2, (Procedure.runs_write.mp h).2]

theorem runs_recordOnce (h : (recordOnce L slot r admitted).Runs d y d') :
    d' = d ∨ ((admitted d).Returns none ∧ slot.file d = .absent ∧ d' = slot.set (.bound r) d) := by
  rcases Procedure.runs_bind.mp h with ⟨_, h, -⟩ | ⟨old, d₁, hold, h⟩
  · exact .inl (Procedure.runs_check.mp h).2
  · obtain ⟨hold, rfl⟩ := Procedure.runs_check.mp hold
    cases old with
    | some old => exact .inl (Procedure.runs_pure.mp h).2
    | none =>
      rcases runs_createOnce h with rfl | ⟨hfile, rfl⟩
      · exact .inl rfl
      · exact .inr ⟨Check.ends_ok.mp hold, hfile, rfl⟩

end Create

def Disk.commit (d : Disk C) (digest : Sha256Digest) (n : Nat) (e : Entry C) : Disk C :=
  { d with sequences := Function.update d.sequences digest (d.sequences digest ++ [(n, e)]) }

theorem runs_recordSubmission {r : Submission C} {y : Except LedgerError (Submission C)}
    (h : (recordSubmission L r).Runs d y d') :
    d' = d ∨ ((admitSubmission L r d).Returns none ∧ (d.sequences r.activationDigest).lookup r.schedulerSequence = none ∧
      d' = d.commit r.activationDigest r.schedulerSequence (newEntry r)) := by
  rcases Procedure.runs_bind.mp h with ⟨_, h, -⟩ | ⟨old, d₁, hold, h⟩
  · exact .inl (Procedure.runs_check.mp h).2
  obtain ⟨hold, rfl⟩ := Procedure.runs_check.mp hold
  cases old with
  | some old => exact .inl (Procedure.runs_pure.mp h).2
  | none =>
    have hcommit : ∀ {z : Except LedgerError Unit} {d₂ : Disk C},
        (commitEntry L r.activationDigest r.schedulerSequence (newEntry r)).Runs d₁ z d₂ →
        d₂ = d₁ ∨ ((d₁.sequences r.activationDigest).lookup r.schedulerSequence = none ∧
          d₂ = d₁.commit r.activationDigest r.schedulerSequence (newEntry r)) := by
      intro z d₂ h
      rcases Procedure.runs_bind.mp h with ⟨_, h, -⟩ | ⟨old, d₃, hold, h⟩
      · exact .inl (Procedure.runs_check.mp h).2
      obtain ⟨hold, rfl⟩ := Procedure.runs_check.mp hold
      cases old with
      | some old => exact .inl (Procedure.runs_pure.mp h).2
      | none =>
        refine .inr ⟨?_, (Procedure.runs_write.mp h).2⟩
        obtain ⟨present, hpresent, hnone⟩ := Check.returns_bind.mp (Check.ends_ok.mp hold)
        cases present with
        | none => exact (sequenceEntry_returns.mp hpresent).1.symm
        | some e =>
          obtain ⟨_, -, hnone⟩ := Check.returns_bind.mp hnone
          cases hnone
    rcases Procedure.runs_bind.mp h with ⟨_, h, -⟩ | ⟨_, d₂, h, hlast⟩
    · rcases hcommit h with rfl | ⟨hnone, rfl⟩
      · exact .inl rfl
      · exact .inr ⟨Check.ends_ok.mp hold, hnone, rfl⟩
    · obtain ⟨-, rfl⟩ := Procedure.runs_check.mp hlast
      rcases hcommit h with rfl | ⟨hnone, rfl⟩
      · exact .inl rfl
      · exact .inr ⟨Check.ends_ok.mp hold, hnone, rfl⟩

/-! ## What a write changes -/

section Write
variable {digest digest' : Sha256Digest} {n m : Nat} {f : Stages C → Stages C} {e : Entry C}

@[simp] theorem setStages_same : (Slot.setStages digest n f d).stages digest n = f (d.stages digest n) := by
  unfold Slot.setStages
  simp

theorem setStages_other (h : m ≠ n) : (Slot.setStages digest n f d).stages digest m = d.stages digest m := by
  unfold Slot.setStages
  simp [h]

theorem setStages_aside (h : digest' ≠ digest) : (Slot.setStages digest n f d).stages digest' = d.stages digest' := by
  unfold Slot.setStages
  simp [h]

@[simp] theorem commit_same : (d.commit digest n e).sequences digest = d.sequences digest ++ [(n, e)] := by
  unfold Disk.commit
  simp

theorem commit_aside (h : digest' ≠ digest) : (d.commit digest n e).sequences digest' = d.sequences digest' := by
  unfold Disk.commit
  simp [h]

end Write

/-! ## What a call creates -/

/-- What a call has found when it creates its file, and the disk with it. -/
inductive Call.Creates (L : Limits C) (d : Disk C) : Call C → Disk C → Prop
  | activation {a : Activation C} (hput : L.record (.activation a.toActivationBody) ≤ L.max) (habsent : d.activation = .absent) :
    Creates L d (.activation a) { d with activation := .bound a }
  | submission {r : Submission C} (hnew : (admitSubmission L r d).Returns none)
      (habsent : (d.sequences r.activationDigest).lookup r.schedulerSequence = none) :
    Creates L d (.submission r) (d.commit r.activationDigest r.schedulerSequence (newEntry r))
  | classification {r : Classification C} (hnew : (admitClassification L r d).Returns none)
      (habsent : (d.stages r.activationDigest r.schedulerSequence).classification = .absent) :
    Creates L d (.classification r) ((Slot.classification r.activationDigest r.schedulerSequence).set (.bound r) d)
  | outcome {r : Outcome C} (hnew : (admitOutcome L r d).Returns none)
      (habsent : (d.stages r.activationDigest r.schedulerSequence).outcome = .absent) :
    Creates L d (.outcome r) ((Slot.outcome r.activationDigest r.schedulerSequence).set (.bound r) d)
  | transition {r : Transition C} (hnew : (admitTransition L r d).Returns none)
      (habsent : (d.stages r.activationDigest r.classification.schedulerSequence).transition = .absent) :
    Creates L d (.transition r)
      ((Slot.transition r.activationDigest r.classification.schedulerSequence).set (.bound r) d)
  | boundaryEvidence {r : Violation} (hnew : (admitBoundaryEvidence L r d).Returns none)
      (habsent : d.boundary r.activationDigest = .absent) :
    Creates L d (.boundaryEvidence r) ((Slot.boundary r.activationDigest).set (.bound r) d)
  | boundaryReset {r : Reset C} (hnew : (admitBoundaryReset L r d).Returns none)
      (habsent : d.boundaryReset r.activationDigest = .absent) :
    Creates L d (.boundaryReset r) ((Slot.boundaryReset r.activationDigest).set (.bound r) d)
  | package {r : EvidencePackage C} (hnew : (admitPackage L r d).Returns none)
      (habsent : d.package (r.activation.activationDigest C) = .absent) :
    Creates L d (.package r) ((Slot.package (r.activation.activationDigest C)).set (.bound r) d)

theorem runs_attempted {α : Type} {p : Ledger C α} {y : Except LedgerError Unit}
    (h : (do let _ ← p.attempt : Ledger C Unit).Runs d y d') : ∃ z, p.Runs d z d' := by
  rcases Procedure.runs_bind.mp h with ⟨_, h, -⟩ | ⟨_, d₁, h, hlast⟩
  · obtain ⟨_, heq, -⟩ := Procedure.runs_attempt.mp h
    cases heq
  · obtain ⟨z, -, hz⟩ := Procedure.runs_attempt.mp h
    obtain ⟨-, rfl⟩ := Procedure.runs_pure.mp hlast
    exact ⟨z, hz⟩

theorem Call.run_cases {call : Call C} {y : Except LedgerError Unit} (h : (call.run L).Runs d y d') :
    d' = d ∨ call.Creates L d d' := by
  cases call with
  | activation a =>
    obtain ⟨_, h⟩ := runs_attempted h
    refine (runs_recordOnce h).imp_right ?_
    rintro ⟨hnew, habsent, rfl⟩
    obtain ⟨_, -, hnew⟩ := Check.returns_bind.mp hnew
    obtain ⟨_, hput, -⟩ := Check.returns_bind.mp hnew
    exact .activation (put_returns.mp hput) habsent
  | submission r =>
    obtain ⟨_, h⟩ := runs_attempted h
    refine (runs_recordSubmission h).imp_right ?_
    rintro ⟨hnew, habsent, rfl⟩
    exact .submission hnew habsent
  | classification r =>
    obtain ⟨_, h⟩ := runs_attempted h
    refine (runs_recordOnce h).imp_right ?_
    rintro ⟨hnew, habsent, rfl⟩
    exact .classification hnew habsent
  | outcome r =>
    obtain ⟨_, h⟩ := runs_attempted h
    refine (runs_recordOnce h).imp_right ?_
    rintro ⟨hnew, habsent, rfl⟩
    exact .outcome hnew habsent
  | transition r =>
    obtain ⟨_, h⟩ := runs_attempted h
    refine (runs_recordOnce h).imp_right ?_
    rintro ⟨hnew, habsent, rfl⟩
    exact .transition hnew habsent
  | boundaryEvidence r =>
    obtain ⟨_, h⟩ := runs_attempted h
    refine (runs_recordOnce h).imp_right ?_
    rintro ⟨hnew, habsent, rfl⟩
    exact .boundaryEvidence hnew habsent
  | boundaryReset r =>
    obtain ⟨_, h⟩ := runs_attempted h
    refine (runs_recordOnce h).imp_right ?_
    rintro ⟨hnew, habsent, rfl⟩
    exact .boundaryReset hnew habsent
  | package r =>
    obtain ⟨_, h⟩ := runs_attempted h
    refine (runs_recordOnce h).imp_right ?_
    rintro ⟨hnew, habsent, rfl⟩
    exact .package hnew habsent

/-! ## What the checks found -/

/-- What `record_submission` has found of a new submission. -/
structure NewSubmission (L : Limits C) (d : Disk C) (a : Activation C) (r : Submission C) : Prop where
  activation : d.activation = .bound a ∧ Readable L a ∧ a.activationDigest C = r.activationDigest
  readable : Readable L r
  target : r.repositoryDigest = a.repositoryDigest ∧ r.targetRef = a.targetRef
  watermark : a.schedulerSequenceWatermark < r.schedulerSequence
  fresh : Fresh L d a
  next : ∃ s, (currentAccumulatorState L d a).Returns s ∧ r.schedulerSequence = s.lastSchedulerSequence + 1
  new : ∃ es, (entriesFor L d a).Returns es ∧ ∀ e ∈ es,
    ¬ (e.submission.sourceIdentity = r.sourceIdentity ∧ e.submission.submissionIdentity = r.submissionIdentity) ∧
      e.submission.submissionDigest ≠ r.submissionDigest

theorem admitSubmission_none {r : Submission C} (h : (admitSubmission L r d).Returns none) :
    ∃ a, NewSubmission L d a r := by
  obtain ⟨a, ha, h⟩ := Check.returns_bind.mp h
  obtain ⟨_, hart, h⟩ := Check.returns_bind.mp h
  obtain ⟨_, -, h⟩ := Check.returns_bind.mp h
  obtain ⟨_, htarget, h⟩ := Check.returns_bind.mp h
  obtain ⟨_, hwater, h⟩ := Check.returns_bind.mp h
  obtain ⟨present, -, h⟩ := Check.returns_bind.mp h
  cases present with
  | some e =>
    obtain ⟨_, -, h⟩ := Check.returns_bind.mp h
    obtain ⟨_, -, h⟩ := Check.returns_bind.mp h
    cases h
  | none =>
    obtain ⟨_, -, h⟩ := Check.returns_bind.mp h
    obtain ⟨_, hfresh, h⟩ := Check.returns_bind.mp h
    obtain ⟨s, hs, h⟩ := Check.returns_bind.mp h
    obtain ⟨_, hnext, h⟩ := Check.returns_bind.mp h
    obtain ⟨_, hput, h⟩ := Check.returns_bind.mp h
    obtain ⟨es, hes, h⟩ := Check.returns_bind.mp h
    obtain ⟨us, hus, -⟩ := Check.returns_bind.mp h
    refine ⟨a, requireActivation_returns.mp ha, ⟨put_returns.mp hput, validateRecordArtifacts_returns.mp hart⟩,
      Check.returns_require.mp htarget, Check.returns_require.mp hwater, requireFreshMutationAllowed_returns.mp hfresh,
      ⟨s, hs, Check.returns_require.mp hnext⟩, es, hes, ?_⟩
    intro e he
    obtain ⟨i, hi, rfl⟩ := List.mem_iff_getElem.mp he
    have hus := Check.returns_each.mp hus
    have hnew := hus.get hi (hus.length_eq ▸ hi)
    simp only [List.get_eq_getElem, requireNewSubmission, Check.returns_bind, readEntrySubmission_returns,
      Check.returns_require, exists_const] at hnew
    obtain ⟨_, ⟨rfl, -⟩, hidentity, hcontent⟩ := hnew
    exact ⟨hidentity, hcontent⟩

/-- What a call that records a stage of a sequence finds first. -/
structure StagePassed (L : Limits C) (d : Disk C) (a : Activation C) (digest : Sha256Digest) (n : Nat) (e : Entry C) : Prop where
  activation : (requireActivation L d digest).Returns a
  entries : ∃ es, (entriesFor L d a).Returns es
  entry : (requireEntry L d digest n).Returns e
  submission : (readEntrySubmission L e a).Returns e.submission

/-- How the checks of a call end: its record is there, or it may be created. -/
def Admits {R : Type} (f : File R) (r : R) (new : Prop) : Option R → Prop
  | some old => f = .bound r ∧ old = r
  | none => f = .absent ∧ new

theorem stored_or_put_returns {R : Type} [Recorded C R] [DecidableEq R] {f : File R} {r : R} {read : LedgerCheck C R}
    {P : R → Prop} {y : Option R} {e₁ e₂ : LedgerError} {kind : String} (hP : P r)
    (hread : ∀ old, read.Returns old ↔ f = .bound old ∧ Readable L old ∧ P old)
    (hart : ∀ x ∈ Recorded.artifacts C r, External.Fits L x) :
    Check.Returns (if isFile f then do
        let old ← read
        .require (old = r) e₁
        pure (some old)
      else do
        .require (isFile (d.boundary (a.activationDigest C)) = false) e₂
        requireFreshMutationAllowed L d a kind
        put L r
        pure none) y ↔ Readable L r ∧ Admits f r (Fresh L d a) y := by
  simp only [Check.returns_ite, Check.returns_bind, Check.returns_require, put_returns, requireFreshMutationAllowed_returns,
    Check.returns_pure, exists_const, hread]
  split
  · next hfile =>
    constructor
    · rintro ⟨old, ⟨hold, hr, -⟩, rfl, rfl⟩; exact ⟨hr, hold, rfl⟩
    · rintro ⟨hr, h⟩
      cases y with
      | some old => obtain ⟨hold, rfl⟩ := h; exact ⟨old, ⟨hold, hr, hP⟩, rfl, rfl⟩
      | none => exact absurd h.1 (isFile_eq_true.mp hfile)
  · next habsent =>
    rw [isFile_eq_true, not_not] at habsent
    constructor
    · rintro ⟨-, hfresh, hput, rfl⟩; exact ⟨⟨hput, hart⟩, habsent, hfresh⟩
    · rintro ⟨hr, h⟩
      cases y with
      | some old => rw [habsent] at h; cases h.1
      | none => exact ⟨isFile_eq_false.mpr h.2.boundary, h.2, hr.fits, rfl⟩

theorem admitClassification_returns {r : Classification C} {y : Option (Classification C)} :
    (admitClassification L r d).Returns y ↔ ∃ a e, StagePassed L d a r.activationDigest r.schedulerSequence e ∧
      Readable L r ∧ ClassificationBound a e.submission r ∧
      Admits (d.stages r.activationDigest r.schedulerSequence).classification r (Fresh L d a) y := by
  simp only [admitClassification, Check.returns_bind, validateRecordArtifacts_returns, verify_returns,
    requireExactClassificationBinding_returns, exists_const, true_and]
  constructor
  · rintro ⟨a, ha, hart, es, hes, e, he, s, hs, hbound, h⟩
    obtain rfl := (readEntrySubmission_returns.mp hs).1
    obtain ⟨-, -, hdigest⟩ := requireActivation_returns.mp ha
    obtain ⟨-, -, -, hseq⟩ := requireEntry_returns.mp he
    rw [stored_or_put_returns hbound (fun _ => hseq ▸ readEntryClassification_returns) hart, hdigest] at h
    exact ⟨a, e, ⟨ha, ⟨es, hes⟩, he, hs⟩, h.1, hbound, h.2⟩
  · rintro ⟨a, e, ⟨ha, ⟨es, hes⟩, he, hs⟩, hread, hbound, h⟩
    obtain ⟨-, -, hdigest⟩ := requireActivation_returns.mp ha
    obtain ⟨-, -, -, hseq⟩ := requireEntry_returns.mp he
    refine ⟨a, ha, hread.artifacts, es, hes, e, he, _, hs, hbound, ?_⟩
    rw [stored_or_put_returns hbound (fun _ => hseq ▸ readEntryClassification_returns) hread.artifacts, hdigest]
    exact ⟨hread, h⟩

theorem admitOutcome_returns {r : Outcome C} {y : Option (Outcome C)} :
    (admitOutcome L r d).Returns y ↔ ∃ a e c, StagePassed L d a r.activationDigest r.schedulerSequence e ∧
      Readable L r ∧ (requireClassification L d e a e.submission).Returns c ∧ OutcomeBound a e.submission c r ∧
      Admits (d.stages r.activationDigest r.schedulerSequence).outcome r (Fresh L d a) y := by
  simp only [admitOutcome, Check.returns_bind, validateRecordArtifacts_returns, verify_returns,
    requireExactOutcomeBinding_returns, exists_const, true_and]
  constructor
  · rintro ⟨a, ha, hart, es, hes, e, he, s, hs, c, hc, hbound, h⟩
    obtain rfl := (readEntrySubmission_returns.mp hs).1
    obtain ⟨-, -, hdigest⟩ := requireActivation_returns.mp ha
    obtain ⟨-, -, -, hseq⟩ := requireEntry_returns.mp he
    rw [stored_or_put_returns hbound (fun _ => hseq ▸ readEntryOutcome_returns) hart, hdigest] at h
    exact ⟨a, e, c, ⟨ha, ⟨es, hes⟩, he, hs⟩, h.1, hc, hbound, h.2⟩
  · rintro ⟨a, e, c, ⟨ha, ⟨es, hes⟩, he, hs⟩, hread, hc, hbound, h⟩
    obtain ⟨-, -, hdigest⟩ := requireActivation_returns.mp ha
    obtain ⟨-, -, -, hseq⟩ := requireEntry_returns.mp he
    refine ⟨a, ha, hread.artifacts, es, hes, e, he, _, hs, c, hc, hbound, ?_⟩
    rw [stored_or_put_returns hbound (fun _ => hseq ▸ readEntryOutcome_returns) hread.artifacts, hdigest]
    exact ⟨hread, h⟩

/-- What `record_transition` finds of the sequence. -/
structure TransitionPassed (L : Limits C) (d : Disk C) (a : Activation C) (e : Entry C) (c : Classification C)
    (o : Option (Outcome C)) (r : Transition C) : Prop where
  classification : (requireClassification L d e a e.submission).Returns c
  outcome : (outcomeFor L d e a e.submission c).Returns o
  bound : TransitionBound a c o r
  excluded : c.classification = .excluded → r.outcome = none
  prior : (priorState L d a r.classification.schedulerSequence).Returns r.priorState

theorem admitTransition_returns {r : Transition C} {y : Option (Transition C)} :
    (admitTransition L r d).Returns y ↔ ∃ a e c o, StagePassed L d a r.activationDigest r.classification.schedulerSequence e ∧
      Readable L r ∧ TransitionPassed L d a e c o r ∧
      Admits (d.stages r.activationDigest r.classification.schedulerSequence).transition r (Fresh L d a) y := by
  simp only [admitTransition, Check.returns_bind, verify_returns, requireExactTransitionBinding_returns,
    Check.returns_require, exists_const, true_and]
  constructor
  · rintro ⟨a, ha, es, hes, e, he, s, hs, c, hc, -, o, ho, hexcluded, hbound, _, hprior, rfl, h⟩
    obtain rfl := (readEntrySubmission_returns.mp hs).1
    obtain ⟨-, -, hdigest⟩ := requireActivation_returns.mp ha
    obtain ⟨-, -, -, hseq⟩ := requireEntry_returns.mp he
    rw [stored_or_put_returns hbound (fun _ => hseq ▸ readEntryTransition_returns) (List.forall_mem_nil _), hdigest] at h
    exact ⟨a, e, c, o, ⟨ha, ⟨es, hes⟩, he, hs⟩, h.1, ⟨hc, ho, hbound, hexcluded, hprior⟩, h.2⟩
  · rintro ⟨a, e, c, o, ⟨ha, ⟨es, hes⟩, he, hs⟩, hread, ⟨hc, ho, hbound, hexcluded, hprior⟩, h⟩
    obtain ⟨-, -, hdigest⟩ := requireActivation_returns.mp ha
    obtain ⟨-, -, -, hseq⟩ := requireEntry_returns.mp he
    refine ⟨a, ha, es, hes, e, he, _, hs, c, hc, hbound.classification, o, ho, hexcluded, hbound, _, hprior, rfl, ?_⟩
    rw [stored_or_put_returns hbound (fun _ => hseq ▸ readEntryTransition_returns) (List.forall_mem_nil _), hdigest]
    exact ⟨hread, h⟩

theorem admitBoundaryEvidence_returns {r : Violation} {y : Option Violation} :
    (admitBoundaryEvidence L r d).Returns y ↔ ∃ a, (requireActivation L d r.activationDigest).Returns a ∧
      Readable (C := C) L r ∧ r.controllerAuthority = a.controllerAuthority ∧
      Admits (d.boundary r.activationDigest) r
        (Fresh L d a ∧ (validateBoundaryObservation L d a r.toViolationBody).Returns ()) y := by
  simp only [admitBoundaryEvidence, Check.returns_bind, validateRecordArtifacts_returns, verify_returns, readReference_returns,
    readRaw_returns, readRecord_returns, Check.returns_ite, Check.returns_require, put_returns,
    requireFreshMutationAllowed_returns, Check.returns_pure, exists_const, true_and]
  refine exists_congr fun a => and_congr_right fun ha => ?_
  obtain ⟨-, -, hdigest⟩ := requireActivation_returns.mp ha
  rw [hdigest]
  constructor
  · rintro ⟨hart, hauthority, h⟩
    split at h
    · obtain ⟨old, hfile, hsize, rfl, _, ⟨rfl, hread⟩, rfl⟩ := h
      exact ⟨hread, hauthority, hfile, rfl⟩
    · next habsent =>
      obtain ⟨hfresh, _, hobserved, hput, rfl⟩ := h
      rw [isFile_eq_true, not_not] at habsent
      exact ⟨⟨hput, hart⟩, hauthority, habsent, hfresh, hobserved⟩
  · rintro ⟨hread, hauthority, h⟩
    refine ⟨hread.artifacts, hauthority, ?_⟩
    cases y with
    | some old =>
      obtain ⟨hfile, rfl⟩ := h
      rw [if_pos (isFile_eq_true.mpr (by rw [hfile]; intro h'; cases h'))]
      exact ⟨old, hfile, hread.fits, rfl, old, ⟨rfl, hread⟩, rfl⟩
    | none =>
      obtain ⟨hfile, hfresh, hobserved⟩ := h
      rw [if_neg (fun h => isFile_eq_true.mp h hfile)]
      exact ⟨hfresh, (), hobserved, hread.fits, rfl⟩

/-- What `record_boundary_reset` finds of the boundary. -/
structure ResetPassed (L : Limits C) (d : Disk C) (a : Activation C) (e : Violation) (r : Reset C) : Prop where
  evidence : (requireBoundaryEvidence L d a (r.violation.violationDigest C)).Returns e
  violation : r.violation = e.toViolationBody
  observed : (validateBoundaryObservation L d a e.toViolationBody).Returns ()
  prior : (requirePriorStateForBoundary L d a r.priorState e.toViolationBody).Returns ()

theorem admitBoundaryReset_returns {r : Reset C} {y : Option (Reset C)} :
    (admitBoundaryReset L r d).Returns y ↔ ∃ a e, (requireActivation L d r.activationDigest).Returns a ∧ Readable L r ∧
      ResetPassed L d a e r ∧ Admits (d.boundaryReset r.activationDigest) r True y := by
  simp only [admitBoundaryReset, Check.returns_bind, validateRecordArtifacts_returns, verify_returns, readReference_returns,
    readRaw_returns, Check.returns_ite, Check.returns_require, put_returns, Check.returns_pure, exists_const, true_and]
  constructor
  · rintro ⟨a, ha, hart, e, he, hviolation, _, hobserved, _, hprior, h⟩
    refine ⟨a, e, ha, ?_⟩
    rw [(requireActivation_returns.mp ha).2.2] at h
    split at h
    · obtain ⟨old, hfile, hsize, rfl, rfl⟩ := h
      exact ⟨⟨hsize, hart⟩, ⟨he, hviolation, hobserved, hprior⟩, hfile, rfl⟩
    · next habsent =>
      obtain ⟨hput, rfl⟩ := h
      rw [isFile_eq_true, not_not] at habsent
      exact ⟨⟨hput, hart⟩, ⟨he, hviolation, hobserved, hprior⟩, habsent, trivial⟩
  · rintro ⟨a, e, ha, hread, ⟨he, hviolation, hobserved, hprior⟩, h⟩
    refine ⟨a, ha, hread.artifacts, e, he, hviolation, (), hobserved, (), hprior, ?_⟩
    rw [(requireActivation_returns.mp ha).2.2]
    cases y with
    | some old =>
      obtain ⟨hfile, rfl⟩ := h
      rw [if_pos (isFile_eq_true.mpr (by rw [hfile]; intro h'; cases h'))]
      exact ⟨old, hfile, hread.fits, rfl, rfl⟩
    | none =>
      obtain ⟨hfile, -⟩ := h
      rw [if_neg (fun h => isFile_eq_true.mp h hfile)]
      exact ⟨hread.fits, rfl⟩

theorem admitPackage_returns {r : EvidencePackage C} {y : Option (EvidencePackage C)} :
    (admitPackage L r d).Returns y ↔ ∃ a, (requireActivation L d (r.activation.activationDigest C)).Returns a ∧
      Readable L r ∧ (verifyPackageClosure L d r a).Returns () ∧
      Admits (d.package (r.activation.activationDigest C)) r ((requirePackageWriteAllowed L d a).Returns ()) y := by
  simp only [admitPackage, Check.returns_bind, verify_returns, readReference_returns, readRaw_returns, readRecord_returns,
    Check.returns_ite, Check.returns_require, put_returns, Check.returns_pure, exists_const, true_and]
  refine exists_congr fun a => and_congr_right fun ha => ?_
  rw [(requireActivation_returns.mp ha).2.2]
  constructor
  · intro h
    split at h
    · obtain ⟨old, hfile, hsize, rfl, _, ⟨rfl, hread⟩, _, hclosure, rfl⟩ := h
      exact ⟨hread, hclosure, hfile, rfl⟩
    · next habsent =>
      obtain ⟨_, hallowed, _, hclosure, hput, rfl⟩ := h
      rw [isFile_eq_true, not_not] at habsent
      exact ⟨⟨hput, List.forall_mem_nil _⟩, hclosure, habsent, hallowed⟩
  · rintro ⟨hread, hclosure, h⟩
    cases y with
    | some old =>
      obtain ⟨hfile, rfl⟩ := h
      rw [if_pos (isFile_eq_true.mpr (by rw [hfile]; intro h'; cases h'))]
      exact ⟨old, hfile, hread.fits, rfl, old, ⟨rfl, hread⟩, (), hclosure, rfl⟩
    | none =>
      obtain ⟨hfile, hallowed⟩ := h
      rw [if_neg (fun h => isFile_eq_true.mp h hfile)]
      exact ⟨(), hallowed, (), hclosure, hread.fits, rfl⟩

/-! ## What the checks do not look at -/

section Stage
variable {digest digest' : Sha256Digest} {n m : Nat} {f : Stages C → Stages C} {e : Entry C} {s : Submission C} {c : Classification C}

theorem setStages_keeps {α : Type} {g : Stages C → α} (hg : ∀ s, g (f s) = g s) :
    g ((Slot.setStages digest n f d).stages digest' m) = g (d.stages digest' m) := by
  by_cases hdigest : digest' = digest
  · subst hdigest
    by_cases hn : m = n
    · subst hn
      rw [setStages_same, hg]
    · rw [setStages_other hn]
  · rw [setStages_aside hdigest]

theorem StagePassed.setStages (h : StagePassed L d a digest' m e) : StagePassed L (Slot.setStages digest n f d) a digest' m e :=
  ⟨h.activation, h.entries, h.entry, h.submission⟩

theorem requireClassification_setStages (hc : ∀ s, (f s).classification = s.classification) :
    (requireClassification L (Slot.setStages digest n f d) e a s).Returns c ↔ (requireClassification L d e a s).Returns c := by
  simp only [requireClassification_returns, readEntryClassification_returns, setStages_keeps hc]

theorem outcomeFor_setStages {o : Option (Outcome C)} (ho : ∀ s, (f s).outcome = s.outcome) :
    (outcomeFor L (Slot.setStages digest n f d) e a s c).Returns o ↔ (outcomeFor L d e a s c).Returns o := by
  simp only [outcomeFor_returns, requireOutcome_returns, readEntryOutcome_returns, setStages_keeps ho]

theorem priorState_setStages {x : StateBody} (hc : ∀ s, (f s).classification = s.classification) (ho : ∀ s, (f s).outcome = s.outcome)
    (h : (priorState L d a n).Returns x) : (priorState L (Slot.setStages digest n f d) a n).Returns x := by
  unfold priorState at h ⊢
  split at h
  · next hfirst => rw [if_pos hfirst]; exact h
  · next hfirst =>
    rw [if_neg hfirst]
    obtain ⟨e, he, h⟩ := Check.returns_bind.mp h
    obtain ⟨s, hs, h⟩ := Check.returns_bind.mp h
    obtain ⟨rfl, -, hbound⟩ := readEntrySubmission_returns.mp hs
    obtain ⟨c, hclass, h⟩ := Check.returns_bind.mp h
    obtain ⟨o, hout, h⟩ := Check.returns_bind.mp h
    obtain ⟨t, ht, h⟩ := Check.returns_bind.mp h
    obtain ⟨hfile, hread⟩ := readEntryTransition_returns.mp ht
    obtain ⟨-, -, -, hseq⟩ := requireEntry_returns.mp he
    refine Check.returns_bind.mpr ⟨e, he, Check.returns_bind.mpr ⟨_, hs, Check.returns_bind.mpr ⟨c,
      (requireClassification_setStages hc).mpr hclass, Check.returns_bind.mpr ⟨o, (outcomeFor_setStages ho).mpr hout,
      Check.returns_bind.mpr ⟨t, readEntryTransition_returns.mpr ⟨?_, hread⟩, h⟩⟩⟩⟩⟩
    have hne : e.schedulerSequence ≠ n := by
      have hpos : a.schedulerSequenceWatermark < e.schedulerSequence := hbound.sequence ▸ hbound.watermark
      omega
    by_cases hdigest : a.activationDigest C = digest
    · subst hdigest
      rw [setStages_other hne]
      exact hfile
    · rw [setStages_aside hdigest]
      exact hfile

end Stage

theorem readPrefix_congr {before : StateBody} {es : List (Entry C)} (hstages : d'.stages = d.stages) :
    readPrefix L d' a before es = readPrefix L d a before es := by
  induction es generalizing before with
  | nil => rfl
  | cons e es ih =>
    simp only [readPrefix, requireClassification, readEntryClassification, outcomeFor, requireOutcome, readEntryOutcome,
      readEntryTransition, hstages, ih]

theorem validateBoundaryObservation_congr {e : ViolationBody} (hsequences : d'.sequences = d.sequences)
    (hstages : d'.stages = d.stages) : validateBoundaryObservation L d' a e = validateBoundaryObservation L d a e := by
  simp only [validateBoundaryObservation, entriesFor, allEntries, hsequences, hstages, readPrefix_congr hstages]

theorem ResetPassed.setReset {e : Violation} {r : Reset C} {digest : Sha256Digest} {f : File (Reset C)}
    (h : ResetPassed L d a e r) : ResetPassed L ((Slot.boundaryReset digest).set f d) a e r where
  evidence := h.evidence
  violation := h.violation
  observed := by
    have hcongr : validateBoundaryObservation L ((Slot.boundaryReset digest).set f d) a e.toViolationBody =
        validateBoundaryObservation L d a e.toViolationBody := validateBoundaryObservation_congr rfl rfl
    rw [hcongr]
    exact h.observed
  prior := h.prior

theorem verifyPackageClosure_setPackage {p : EvidencePackage C} {digest : Sha256Digest} {f : File (EvidencePackage C)} :
    verifyPackageClosure L ((Slot.package digest).set f d) p a = verifyPackageClosure L d p a := by
  have hcongr : ∀ a e, validateBoundaryObservation L ((Slot.package digest).set f d) a e =
      validateBoundaryObservation L d a e := fun _ _ => validateBoundaryObservation_congr rfl rfl
  unfold verifyPackageClosure closesBoundary readBoundaryReset
  simp only [hcongr]
  rfl

/-! ## What a new record was admitted on -/

/-- What a call finds before it records a stage of a sequence. -/
structure NewStage (L : Limits C) (d : Disk C) (a : Activation C) (digest : Sha256Digest) (n : Nat) (e : Entry C) : Prop where
  activation : d.activation = .bound a ∧ Readable L a ∧ a.activationDigest C = digest
  entries : ∃ es, (entriesFor L d a).Returns es
  entry : (d.sequences digest).lookup n = some e ∧ e.schedulerSequence = n
  size : L.entry e ≤ maxIndexBytes
  fresh : Fresh L d a

theorem StagePassed.new {digest : Sha256Digest} {n : Nat} {e : Entry C} (h : StagePassed L d a digest n e) (hfresh : Fresh L d a) :
    NewStage L d a digest n e where
  activation := requireActivation_returns.mp h.activation
  entries := h.entries
  entry := by
    obtain ⟨hlookup, -, -, hseq⟩ := requireEntry_returns.mp h.entry
    exact ⟨hlookup, hseq⟩
  size := (requireEntry_returns.mp h.entry).2.1
  fresh := hfresh

theorem admitClassification_none {r : Classification C} (h : (admitClassification L r d).Returns none) :
    ∃ a e, NewStage L d a r.activationDigest r.schedulerSequence e ∧ Readable L r ∧ ClassificationBound a e.submission r := by
  obtain ⟨a, e, hpassed, hread, hbound, -, hfresh⟩ := admitClassification_returns.mp h
  exact ⟨a, e, hpassed.new hfresh, hread, hbound⟩

theorem admitOutcome_none {r : Outcome C} (h : (admitOutcome L r d).Returns none) :
    ∃ a e c, NewStage L d a r.activationDigest r.schedulerSequence e ∧ Readable L r ∧
      (readEntryClassification L d e a e.submission).Returns c ∧ OutcomeBound a e.submission c r := by
  obtain ⟨a, e, c, hpassed, hread, hc, hbound, -, hfresh⟩ := admitOutcome_returns.mp h
  exact ⟨a, e, c, hpassed.new hfresh, hread, (requireClassification_returns.mp hc).2, hbound⟩

theorem admitTransition_none {r : Transition C} (h : (admitTransition L r d).Returns none) :
    ∃ a e c o, NewStage L d a r.activationDigest r.classification.schedulerSequence e ∧ Readable L r ∧
      (readEntryClassification L d e a e.submission).Returns c ∧ (outcomeFor L d e a e.submission c).Returns o ∧
      TransitionBound a c o r ∧ (priorState L d a r.classification.schedulerSequence).Returns r.priorState := by
  obtain ⟨a, e, c, o, hpassed, hread, ht, -, hfresh⟩ := admitTransition_returns.mp h
  exact ⟨a, e, c, o, hpassed.new hfresh, hread, (requireClassification_returns.mp ht.classification).2, ht.outcome,
    ht.bound, ht.prior⟩

theorem admitBoundaryEvidence_none {r : Violation} (h : (admitBoundaryEvidence L r d).Returns none) :
    ∃ a, (d.activation = .bound a ∧ Readable L a ∧ a.activationDigest C = r.activationDigest) ∧
      Readable (C := C) L r ∧ r.controllerAuthority = a.controllerAuthority ∧ Fresh L d a ∧
      (validateBoundaryObservation L d a r.toViolationBody).Returns () := by
  obtain ⟨a, ha, hread, hauthority, -, hfresh, hobserved⟩ := admitBoundaryEvidence_returns.mp h
  exact ⟨a, requireActivation_returns.mp ha, hread, hauthority, hfresh, hobserved⟩

theorem admitBoundaryReset_none {r : Reset C} (h : (admitBoundaryReset L r d).Returns none) :
    ∃ a e, (d.activation = .bound a ∧ Readable L a ∧ a.activationDigest C = r.activationDigest) ∧ Readable L r ∧
      (requireBoundaryEvidence L d a (r.violation.violationDigest C)).Returns e ∧ r.violation = e.toViolationBody ∧
      (validateBoundaryObservation L d a e.toViolationBody).Returns () ∧
      (requirePriorStateForBoundary L d a r.priorState e.toViolationBody).Returns () := by
  obtain ⟨a, e, ha, hread, hpassed, -⟩ := admitBoundaryReset_returns.mp h
  exact ⟨a, e, requireActivation_returns.mp ha, hread, hpassed.evidence, hpassed.violation, hpassed.observed, hpassed.prior⟩

end AvoCorrelate.MainLedger
