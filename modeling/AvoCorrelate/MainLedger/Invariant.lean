import AvoCorrelate.MainLedger.Steps
import AvoCorrelate.MainLedger.Threshold
import Mathlib.Logic.Relation
/-!
# Every disk the journal leaves

Whatever calls are made, with whatever records and whatever the verifier says, the disk
has the shape of `Chain`: each call that creates a file keeps it. The crash between two
calls changes nothing, so a run is a sequence of calls.
-/
namespace AvoCorrelate.MainLedger

open AvoLib
open ExactCas (Sha256Digest)

variable {C : Canon} {L : Limits C} {d d' : Disk C} {a : Activation C} {done : List (Processed C)} {pending : Option (Entry C)}

/-! ## The invariant -/

/-- Nothing is recorded under this digest. -/
structure Silent (d : Disk C) (digest : Sha256Digest) : Prop where
  sequences : d.sequences digest = []
  stages : ∀ n, d.stages digest n = .none
  boundary : d.boundary digest = .absent
  boundaryReset : d.boundaryReset digest = .absent
  package : d.package digest = .absent

structure Inv (d : Disk C) : Prop where
  whole : d.activation ≠ .torn
  silent : ∀ digest, (∀ a, d.activation = .bound a → a.activationDigest C ≠ digest) → Silent d digest
  chain : ∀ a, d.activation = .bound a → ∃ done pending, Chain d a done pending
  reset : ∀ digest, d.boundaryReset digest ≠ .absent → d.boundary digest ≠ .absent

theorem Inv.blank : Inv (Disk.blank C) where
  whole := nofun
  silent _ _ := ⟨rfl, fun _ => rfl, rfl, rfl, rfl⟩
  chain _ h := by cases h
  reset _ h := absurd rfl h

/-! ## The chain goes on -/

theorem Chain.empty (h : Silent d (a.activationDigest C)) : Chain d a [] none where
  files := h.sequences
  contiguous := rfl
  own := List.forall_mem_nil _
  identities := .nil
  contents := .nil
  processed := List.forall_mem_nil _
  opened _ he := by cases he
  untouched n _ := h.stages n
  linked := trivial
  fenced hb := absurd h.boundary hb

theorem Chain.frame (h : Chain d a done pending)
    (hsequences : d'.sequences (a.activationDigest C) = d.sequences (a.activationDigest C))
    (hstages : d'.stages (a.activationDigest C) = d.stages (a.activationDigest C))
    (hboundary : d'.boundary (a.activationDigest C) ≠ .absent → (stateAfter a done).thresholdComplete = false) :
    Chain d' a done pending where
  files := hsequences.trans h.files
  contiguous := h.contiguous
  own := h.own
  identities := h.identities
  contents := h.contents
  processed := by rw [hstages]; exact h.processed
  opened := by rw [hstages]; exact h.opened
  untouched := by rw [hstages]; exact h.untouched
  linked := h.linked
  fenced := hboundary

variable {e : Entry C} {p : Processed C} {n : Nat} {f : Stages C → Stages C} {digest : Sha256Digest} {call : Call C}
  {done' : List (Processed C)} {pending' : Option (Entry C)} {s : Stages C}

theorem entriesOf_some : entriesOf done (some e) = entriesOf done none ++ [e] := by
  simp [entriesOf]

theorem entriesOf_close : entriesOf (done ++ [p]) none = entriesOf done (some p.entry) := by
  simp [entriesOf]

theorem Chain.processed_ne (h : Chain d a done (some e)) (hp : p ∈ done) :
    p.entry.schedulerSequence ≠ e.schedulerSequence := by
  have hnodup := h.sequences_nodup
  rw [entriesOf_some, List.map_append, List.nodup_append] at hnodup
  exact hnodup.2.2 _ (List.mem_map_of_mem (mem_entriesOf.mpr (.inl ⟨p, hp, rfl⟩))) _ (by simp)

theorem outside_ne (hn : n ∉ (entriesOf done (some e)).map (·.schedulerSequence)) : n ≠ e.schedulerSequence := by
  rintro rfl
  exact hn (List.mem_map_of_mem (mem_entriesOf.mpr (.inr rfl)))

theorem Chain.submit (h : Chain d a done none) (hown : newEntry e.submission = e)
    (hseq : e.schedulerSequence = a.schedulerSequenceWatermark + 1 + done.length)
    (hnew : ∀ e' ∈ entriesOf done none, ¬ (e'.submission.sourceIdentity = e.submission.sourceIdentity ∧
      e'.submission.submissionIdentity = e.submission.submissionIdentity) ∧
      e'.submission.submissionDigest ≠ e.submission.submissionDigest) :
    Chain (d.commit (a.activationDigest C) e.schedulerSequence e) a done (some e) where
  files := by
    rw [commit_same, h.files, entriesOf_some, List.map_append]
    rfl
  contiguous := by
    rw [entriesOf_some, List.map_append, h.contiguous, List.length_append, List.length_singleton, List.range'_concat, List.map_singleton,
      hseq, show (entriesOf done none : List (Entry C)).length = done.length by simp [entriesOf], Nat.one_mul]
  own := by
    rw [entriesOf_some]
    exact List.forall_mem_append.mpr ⟨h.own, by simpa using hown⟩
  identities := by
    rw [entriesOf_some, List.map_append, List.nodup_append]
    refine ⟨h.identities, List.nodup_singleton _, ?_⟩
    intro x hx y hy heq
    obtain ⟨e', he', rfl⟩ := List.mem_map.mp hx
    obtain rfl := List.mem_singleton.mp hy
    exact (hnew e' he').1 (Prod.mk.inj heq)
  contents := by
    rw [entriesOf_some, List.map_append, List.nodup_append]
    refine ⟨h.contents, List.nodup_singleton _, ?_⟩
    intro x hx y hy heq
    obtain ⟨e', he', rfl⟩ := List.mem_map.mp hx
    obtain rfl := List.mem_singleton.mp hy
    exact (hnew e' he').2 heq
  processed := h.processed
  opened e' he' := by
    cases he'
    have hout : e.schedulerSequence ∉ (entriesOf done none).map (·.schedulerSequence) := by
      rw [h.contiguous, hseq, List.mem_range'_1]
      simp [entriesOf]
    rw [show (d.commit (a.activationDigest C) e.schedulerSequence e).stages = d.stages from rfl, h.untouched _ hout]
    exact .submitted
  untouched n hn := by
    refine h.untouched n fun hm => hn ?_
    rw [entriesOf_some, List.map_append]
    exact List.mem_append_left _ hm
  linked := h.linked
  fenced := h.fenced

theorem Chain.stage (h : Chain d a done (some e))
    (hopen : (f (d.stages (a.activationDigest C) e.schedulerSequence)).Open) :
    Chain (Slot.setStages (a.activationDigest C) e.schedulerSequence f d) a done (some e) where
  files := h.files
  contiguous := h.contiguous
  own := h.own
  identities := h.identities
  contents := h.contents
  processed p hp := by
    rw [setStages_other (h.processed_ne hp)]
    exact h.processed p hp
  opened e' he' := by
    cases he'
    rw [setStages_same]
    exact hopen
  untouched n hn := by
    rw [setStages_other (outside_ne hn)]
    exact h.untouched n hn
  linked := h.linked
  fenced := h.fenced

theorem Chain.close (h : Chain d a done (some p.entry))
    (hstages : f (d.stages (a.activationDigest C) p.entry.schedulerSequence) = p.stages)
    (hprior : p.transition.priorState = stateAfter a done)
    (ho : p.outcome.isSome ↔ p.classification.classification = .eligible)
    (ht : TransitionBound a p.classification p.outcome p.transition)
    (hboundary : d.boundary (a.activationDigest C) = .absent) :
    Chain (Slot.setStages (a.activationDigest C) p.entry.schedulerSequence f d) a (done ++ [p]) none where
  files := by
    rw [entriesOf_close]
    exact h.files
  contiguous := by
    rw [entriesOf_close]
    exact h.contiguous
  own := by
    rw [entriesOf_close]
    exact h.own
  identities := by
    rw [entriesOf_close]
    exact h.identities
  contents := by
    rw [entriesOf_close]
    exact h.contents
  processed q hq := by
    rcases List.mem_append.mp hq with hq | hq
    · rw [setStages_other (h.processed_ne hq)]
      exact h.processed q hq
    · obtain rfl := List.mem_singleton.mp hq
      rw [setStages_same]
      exact hstages
  opened _ he := by cases he
  untouched n hn := by
    rw [entriesOf_close] at hn
    rw [setStages_other (outside_ne hn)]
    exact h.untouched n hn
  linked := h.linked.append hprior ho ht
  fenced hb := absurd hboundary hb

/-! ## Other digests -/

section Aside
variable {digest digest' : Sha256Digest} {n : Nat}

theorem Silent.setStages {f : Stages C → Stages C} (h : Silent d digest') (hne : digest' ≠ digest) :
    Silent (Slot.setStages digest n f d) digest' where
  sequences := h.sequences
  stages := by rw [setStages_aside hne]; exact h.stages
  boundary := h.boundary
  boundaryReset := h.boundaryReset
  package := h.package

theorem Silent.commit {e : Entry C} (h : Silent d digest') (hne : digest' ≠ digest) : Silent (d.commit digest n e) digest' where
  sequences := by rw [commit_aside hne]; exact h.sequences
  stages := h.stages
  boundary := h.boundary
  boundaryReset := h.boundaryReset
  package := h.package

theorem package_aside {f : File (EvidencePackage C)} (h : digest' ≠ digest) :
    ((Slot.package digest).set f d).package digest' = d.package digest' := by
  have hfilter : ∀ fs : List (Sha256Digest × File (EvidencePackage C)),
      (fs.filter fun g => g.1 ≠ digest).lookup digest' = fs.lookup digest' := by
    intro fs
    induction fs with
    | nil => rfl
    | cons g fs ih =>
      by_cases hg : g.1 = digest
      · rw [List.filter_cons_of_neg (by simpa using hg), ih, List.lookup_cons, beq_false_of_ne (hg ▸ h)]
      · rw [List.filter_cons_of_pos (by simpa using hg), List.lookup_cons, List.lookup_cons, ih]
  unfold Disk.package Slot.package
  rw [List.lookup_cons, beq_false_of_ne h, hfilter]

end Aside

/-! ## Every call keeps it -/

theorem Chain.entry_cases (h : Chain d a done pending)
    (hlookup : (d.sequences (a.activationDigest C)).lookup n = some e) : e.schedulerSequence = n ∧
      ((∃ p ∈ done, p.entry = e ∧ d.stages (a.activationDigest C) n = p.stages) ∨
        (pending = some e ∧ (d.stages (a.activationDigest C) n).Open)) := by
  rw [h.files] at hlookup
  obtain ⟨hmem, rfl⟩ := lookup_files hlookup
  refine ⟨rfl, (mem_entriesOf.mp hmem).imp ?_ ?_⟩
  · rintro ⟨p, hp, rfl⟩
    exact ⟨p, hp, rfl, h.processed p hp⟩
  · intro he
    exact ⟨he, h.opened e he⟩

theorem outcomeFor_file {s : Submission C} {c : Classification C} {o : Option (Outcome C)}
    (h : (outcomeFor L d e a s c).Returns o) : (o.isSome ↔ c.classification = .eligible) ∧
      ∀ o' ∈ o, (d.stages (a.activationDigest C) e.schedulerSequence).outcome = .bound o' := by
  rw [outcomeFor_returns] at h
  split at h
  · next heligible =>
    obtain ⟨o', rfl, h⟩ := h
    obtain ⟨hfile, -⟩ := readEntryOutcome_returns.mp (requireOutcome_returns.mp h).2
    exact ⟨by simp [heligible], fun _ ho => by cases ho; exact hfile⟩
  · next hexcluded =>
    subst h
    exact ⟨by simp [hexcluded], fun _ ho => by cases ho⟩

/-- What a call does to the chain of an activation. -/
inductive Grows (L : Limits C) (d : Disk C) (a : Activation C) (done : List (Processed C)) :
    Option (Entry C) → Disk C → List (Processed C) → Option (Entry C) → Prop
  | submitted {r : Submission C} (hnew : NewSubmission L d a r)
      (hnext : r.schedulerSequence = a.schedulerSequenceWatermark + 1 + done.length) :
    Grows L d a done none (d.commit (a.activationDigest C) r.schedulerSequence (newEntry r)) done (some (newEntry r))
  | classified {e : Entry C} {c : Classification C} (hnew : NewStage L d a (a.activationDigest C) e.schedulerSequence e)
      (hread : Readable L c) (hbound : ClassificationBound a e.submission c)
      (hfiles : d.stages (a.activationDigest C) e.schedulerSequence = .none) :
    Grows L d a done (some e) ((Slot.classification (a.activationDigest C) e.schedulerSequence).set (.bound c) d) done (some e)
  | resolved {e : Entry C} {c : Classification C} {o : Outcome C}
      (hnew : NewStage L d a (a.activationDigest C) e.schedulerSequence e) (hread : Readable L o)
      (hbound : OutcomeBound a e.submission c o)
      (hfiles : d.stages (a.activationDigest C) e.schedulerSequence = ⟨.bound c, .absent, .absent⟩) :
    Grows L d a done (some e) ((Slot.outcome (a.activationDigest C) e.schedulerSequence).set (.bound o) d) done (some e)
  | through {p : Processed C} (hnew : NewStage L d a (a.activationDigest C) p.entry.schedulerSequence p.entry)
      (hread : Readable L p.transition) (hprior : p.transition.priorState = stateAfter a done)
      (ho : p.outcome.isSome ↔ p.classification.classification = .eligible)
      (hbound : TransitionBound a p.classification p.outcome p.transition)
      (hfiles : d.stages (a.activationDigest C) p.entry.schedulerSequence = { p.stages with transition := .absent }) :
    Grows L d a done (some p.entry) ((Slot.transition (a.activationDigest C) p.entry.schedulerSequence).set (.bound p.transition) d)
      (done ++ [p]) none
  | fenced {v : Violation} (pending : Option (Entry C)) (hread : Readable (C := C) L v) (hbound : EvidenceBound a v)
      (hfresh : Fresh L d a) (hobserved : (validateBoundaryObservation L d a v.toViolationBody).Returns ()) :
    Grows L d a done pending ((Slot.boundary (a.activationDigest C)).set (.bound v) d) done pending
  | reset {v : Violation} {r : Reset C} (pending : Option (Entry C)) (hread : Readable L r) (hpassed : ResetPassed L d a v r)
      (habsent : d.boundaryReset (a.activationDigest C) = .absent) :
    Grows L d a done pending ((Slot.boundaryReset (a.activationDigest C)).set (.bound r) d) done pending
  | packaged {p : EvidencePackage C} (pending : Option (Entry C)) (hread : Readable L p)
      (hclosure : (verifyPackageClosure L d p a).Returns ()) (hallowed : (requirePackageWriteAllowed L d a).Returns ())
      (hdigest : p.activation.activationDigest C = a.activationDigest C) :
    Grows L d a done pending ((Slot.package (a.activationDigest C)).set (.bound p) d) done pending

theorem NewStage.cases (h : NewStage L d a digest n e) (hd : Chain d a done pending) :
    digest = a.activationDigest C ∧ n = e.schedulerSequence ∧
      ((∃ p ∈ done, d.stages (a.activationDigest C) e.schedulerSequence = p.stages) ∨
        (pending = some e ∧ (d.stages (a.activationDigest C) e.schedulerSequence).Open)) := by
  obtain ⟨-, -, rfl⟩ := h.activation
  obtain ⟨hlookup, rfl⟩ := h.entry
  refine ⟨rfl, rfl, (hd.entry_cases hlookup).2.imp_left ?_⟩
  rintro ⟨p, hp, -, hstages⟩
  exact ⟨p, hp, hstages⟩

theorem Chain.grows (h : Chain d a done pending) (ha : d.activation = .bound a) (hc : call.Creates L d d') :
    ∃ done' pending', Grows L d a done pending d' done' pending' := by
  have hsame : ∀ {a' : Activation C}, d.activation = .bound a' → a' = a := fun h' => File.bound.inj (h'.symm.trans ha)
  cases hc with
  | activation _ habsent =>
    rw [ha] at habsent
    cases habsent
  | @submission r hadmit habsent =>
    obtain ⟨a', hnew⟩ := admitSubmission_none hadmit
    obtain rfl := hsame hnew.activation.1
    rw [← hnew.activation.2.2] at habsent ⊢
    obtain ⟨s, hs, hnext⟩ := hnew.next
    obtain rfl := h.currentAccumulatorState_returns hs
    rw [stateAfter_sequence h.linked, Nat.add_right_comm] at hnext
    cases pending with
    | some e =>
      -- the open entry has this sequence
      have hlast := h.lookup (mem_entriesOf.mpr (.inr rfl))
      rw [h.pending_sequence, ← hnext, habsent] at hlast
      cases hlast
    | none => exact ⟨_, _, .submitted hnew hnext⟩
  | @classification r hadmit habsent =>
    obtain ⟨a', e, hnew, hread, hbound⟩ := admitClassification_none hadmit
    obtain rfl := hsame hnew.activation.1
    obtain ⟨hdigest, hseq, hcases⟩ := hnew.cases h
    rw [hdigest, hseq] at habsent hnew ⊢
    rcases hcases with ⟨p, -, hstages⟩ | ⟨rfl, hopen⟩
    · rw [hstages] at habsent
      cases habsent
    · refine ⟨_, _, .classified hnew hread hbound ?_⟩
      generalize d.stages (a'.activationDigest C) e.schedulerSequence = stages at hopen habsent ⊢
      cases hopen with
      | submitted => rfl
      | classified c => cases habsent
      | resolved c o _ => cases habsent
  | @outcome r hadmit habsent =>
    obtain ⟨a', e, c, hnew, hread, hc, hbound⟩ := admitOutcome_none hadmit
    obtain rfl := hsame hnew.activation.1
    obtain ⟨hfile, -⟩ := readEntryClassification_returns.mp hc
    obtain ⟨hdigest, hseq, hcases⟩ := hnew.cases h
    rw [hdigest, hseq] at habsent hnew ⊢
    rcases hcases with ⟨p, hp, hstages⟩ | ⟨rfl, hopen⟩
    · -- an eligible sequence that is through has its outcome
      rw [hstages] at habsent hfile
      cases hfile
      have hsome := (h.linked.mem hp).1.mpr hbound.eligible
      rw [Processed.stages_outcome_absent habsent] at hsome
      cases hsome
    · refine ⟨_, _, .resolved hnew hread hbound ?_⟩
      generalize d.stages (a'.activationDigest C) e.schedulerSequence = stages at hopen habsent hfile ⊢
      cases hopen with
      | submitted => cases hfile
      | classified c' =>
        cases hfile
        rfl
      | resolved c' o _ => cases habsent
  | @transition r hadmit habsent =>
    obtain ⟨a', e, c, o, hnew, hread, hc, ho, hbound, hprior⟩ := admitTransition_none hadmit
    obtain rfl := hsame hnew.activation.1
    obtain ⟨hfile, -⟩ := readEntryClassification_returns.mp hc
    obtain ⟨hdigest, hseq, hcases⟩ := hnew.cases h
    rw [hdigest, hseq] at habsent hnew ⊢
    rw [hseq] at hprior
    rcases hcases with ⟨p, hp, hstages⟩ | ⟨rfl, hopen⟩
    · rw [hstages] at habsent
      cases habsent
    · obtain ⟨hsome, houtcome⟩ := outcomeFor_file ho
      rw [h.pending_sequence] at hprior
      refine ⟨_, _, .through (p := ⟨e, c, o, r⟩) hnew hread (h.priorState_returns hprior) hsome hbound ?_⟩
      simp only [Processed.stages]
      generalize d.stages (a'.activationDigest C) e.schedulerSequence = stages at hopen hfile houtcome ⊢
      cases hopen with
      | submitted => cases hfile
      | classified c' =>
        cases hfile
        cases o with
        | none => rfl
        | some o' => cases houtcome o' rfl
      | resolved c' o' heligible =>
        cases hfile
        cases o with
        | none => cases hsome.mpr heligible
        | some o'' =>
          cases houtcome o'' rfl
          rfl
  | @boundaryEvidence r hadmit habsent =>
    obtain ⟨a', ⟨ha', -, hdigest⟩, hread, hauthority, hfresh, hobserved⟩ := admitBoundaryEvidence_none hadmit
    obtain rfl := hsame ha'
    rw [← hdigest]
    exact ⟨_, _, .fenced _ hread ⟨hdigest.symm, hauthority⟩ hfresh hobserved⟩
  | @boundaryReset r hadmit habsent =>
    obtain ⟨a', v, ha', hread, hpassed, habsent, -⟩ := admitBoundaryReset_returns.mp hadmit
    obtain ⟨ha', -, hdigest⟩ := requireActivation_returns.mp ha'
    obtain rfl := hsame ha'
    rw [← hdigest] at habsent ⊢
    exact ⟨_, _, .reset _ hread hpassed habsent⟩
  | @package r hadmit habsent =>
    obtain ⟨a', ha', hread, hclosure, -, hallowed⟩ := admitPackage_returns.mp hadmit
    obtain ⟨ha', -, hdigest⟩ := requireActivation_returns.mp ha'
    obtain rfl := hsame ha'
    rw [← hdigest]
    exact ⟨_, _, .packaged _ hread hclosure hallowed hdigest.symm⟩

theorem Grows.chain (hg : Grows L d a done pending d' done' pending') (h : Chain d a done pending) :
    Chain d' a done' pending' := by
  cases hg with
  | @submitted r hnew hnext =>
    obtain ⟨es, hes, hnotin⟩ := hnew.new
    obtain ⟨rfl, -⟩ := h.entriesFor_returns hes
    exact h.submit (e := newEntry r) rfl hnext hnotin
  | @classified e c hnew hread hbound hfiles =>
    refine h.stage (f := fun s => { s with classification := .bound c }) ?_
    rw [hfiles]
    exact .classified c
  | @resolved e c o hnew hread hbound hfiles =>
    refine h.stage (f := fun s => { s with outcome := .bound o }) ?_
    rw [hfiles]
    exact .resolved c o hbound.eligible
  | @through p hnew hread hprior ho hbound hfiles =>
    refine h.close (f := fun s => { s with transition := .bound p.transition }) ?_ hprior ho hbound hnew.fresh.boundary
    rw [hfiles]
    rfl
  | fenced _ _ _ hfresh _ =>
    obtain ⟨s, hs, hincomplete⟩ := hfresh.incomplete
    obtain rfl := h.currentAccumulatorState_returns hs
    exact h.frame rfl rfl fun _ => hincomplete
  | reset => exact h.frame rfl rfl h.fenced
  | packaged => exact h.frame rfl rfl h.fenced

theorem Grows.activation (hg : Grows L d a done pending d' done' pending') : d'.activation = d.activation := by
  cases hg <;> rfl

theorem Grows.silent (hg : Grows L d a done pending d' done' pending') (hne : digest ≠ a.activationDigest C)
    (hs : Silent d digest) : Silent d' digest := by
  cases hg with
  | submitted => exact hs.commit hne
  | @classified e c => exact hs.setStages (f := fun s => { s with classification := .bound c }) hne
  | @resolved e c o => exact hs.setStages (f := fun s => { s with outcome := .bound o }) hne
  | @through p => exact hs.setStages (f := fun s => { s with transition := .bound p.transition }) hne
  | fenced => exact ⟨hs.sequences, hs.stages, (Function.update_of_ne hne _ _).trans hs.boundary, hs.boundaryReset, hs.package⟩
  | reset => exact ⟨hs.sequences, hs.stages, hs.boundary, (Function.update_of_ne hne _ _).trans hs.boundaryReset, hs.package⟩
  | packaged => exact ⟨hs.sequences, hs.stages, hs.boundary, hs.boundaryReset, (package_aside hne).trans hs.package⟩

theorem Grows.fence (hg : Grows L d a done pending d' done' pending')
    (h : d.boundaryReset (a.activationDigest C) ≠ .absent → d.boundary (a.activationDigest C) ≠ .absent) :
    d'.boundaryReset (a.activationDigest C) ≠ .absent → d'.boundary (a.activationDigest C) ≠ .absent := by
  cases hg with
  | submitted => exact h
  | classified => exact h
  | resolved => exact h
  | through => exact h
  | fenced =>
    intro _
    simp [Slot.boundary]
  | reset _ _ hpassed =>
    intro _
    obtain ⟨⟨-, -, hboundary, -⟩, -⟩ := requireBoundaryEvidence_returns.mp hpassed.evidence
    exact fun habsent => nomatch hboundary.symm.trans habsent
  | packaged => exact h

theorem Inv.activate (h : Inv d) (habsent : d.activation = .absent) : Inv { d with activation := .bound a } := by
  have hsilent : ∀ digest, Silent d digest := fun digest => h.silent digest fun a' ha' => by
    rw [habsent] at ha'
    cases ha'
  refine ⟨nofun, fun digest _ => ?_, fun a' ha' => ?_, h.reset⟩
  · obtain ⟨hsequences, hstages, hboundary, hreset, hpackage⟩ := hsilent digest
    exact ⟨hsequences, hstages, hboundary, hreset, hpackage⟩
  · cases ha'
    obtain ⟨hsequences, hstages, hboundary, hreset, hpackage⟩ := hsilent (a.activationDigest C)
    exact ⟨[], none, Chain.empty ⟨hsequences, hstages, hboundary, hreset, hpackage⟩⟩

theorem Call.Creates.activated (hc : call.Creates L d d') :
    (d.activation = .absent ∧ ∃ a, call = .activation a ∧ d' = { d with activation := .bound a } ∧ Readable L a) ∨
      ∃ a, d.activation = .bound a ∧ Readable L a := by
  cases hc with
  | @activation a hput habsent => exact .inl ⟨habsent, a, rfl, rfl, hput, List.forall_mem_nil _⟩
  | submission hadmit _ =>
    obtain ⟨a, hnew⟩ := admitSubmission_none hadmit
    exact .inr ⟨a, hnew.activation.1, hnew.activation.2.1⟩
  | classification hadmit _ =>
    obtain ⟨a, e, hnew, -⟩ := admitClassification_none hadmit
    exact .inr ⟨a, hnew.activation.1, hnew.activation.2.1⟩
  | outcome hadmit _ =>
    obtain ⟨a, e, c, hnew, -⟩ := admitOutcome_none hadmit
    exact .inr ⟨a, hnew.activation.1, hnew.activation.2.1⟩
  | transition hadmit _ =>
    obtain ⟨a, e, c, o, hnew, -⟩ := admitTransition_none hadmit
    exact .inr ⟨a, hnew.activation.1, hnew.activation.2.1⟩
  | boundaryEvidence hadmit _ =>
    obtain ⟨a, ⟨ha, hread, -⟩, -⟩ := admitBoundaryEvidence_none hadmit
    exact .inr ⟨a, ha, hread⟩
  | boundaryReset hadmit _ =>
    obtain ⟨a, e, ⟨ha, hread, -⟩, -⟩ := admitBoundaryReset_none hadmit
    exact .inr ⟨a, ha, hread⟩
  | package hadmit _ =>
    obtain ⟨a, ha, -⟩ := admitPackage_returns.mp hadmit
    obtain ⟨ha, hread, -⟩ := requireActivation_returns.mp ha
    exact .inr ⟨a, ha, hread⟩

theorem Inv.creates (h : Inv d) (hc : call.Creates L d d') : Inv d' := by
  rcases hc.activated with ⟨habsent, a, -, rfl, -⟩ | ⟨a, ha, -⟩
  · exact h.activate habsent
  obtain ⟨done, pending, hd⟩ := h.chain a ha
  obtain ⟨done', pending', hg⟩ := hd.grows ha hc
  have hact := hg.activation
  refine ⟨hact ▸ h.whole, fun digest hdigest => ?_, fun a' ha' => ?_, fun digest hdigest => ?_⟩
  · rw [hact] at hdigest
    exact hg.silent (hdigest a ha).symm (h.silent digest hdigest)
  · rw [hact, ha] at ha'
    cases ha'
    exact ⟨done', pending', hg.chain hd⟩
  · by_cases hne : digest = a.activationDigest C
    · subst hne
      exact hg.fence (h.reset _) hdigest
    · have hs := h.silent digest fun a' ha' heq => by
        rw [ha] at ha'
        cases ha'
        exact hne heq.symm
      exact absurd (hg.silent hne hs).boundaryReset hdigest

/-! ## Runs -/

/-- A call runs, whatever it is, whatever it asks and whatever it returns. -/
def CallStep (L : Limits C) (d d' : Disk C) : Prop := ∃ (call : Call C) (y : Except LedgerError Unit), (call.run L).Runs d y d'

theorem Inv.run (h : Relation.ReflTransGen (CallStep L) (Disk.blank C) d) : Inv d := by
  induction h with
  | refl => exact Inv.blank
  | tail _ hstep ih =>
    obtain ⟨call, y, hrun⟩ := hstep
    rcases Call.run_cases hrun with rfl | hcreates
    · exact ih
    · exact ih.creates hcreates

/-! ## What is on the disk -/

/-- How a sequence ended, once it has a transition. -/
def Stages.ending : Stages C → Option Ending
  | ⟨.bound c, .bound o, .bound _⟩ => some (c.classification, some o.outcome)
  | ⟨.bound c, _, .bound _⟩ => some (c.classification, .none)
  | _ => .none

/-- How the sequences ended, as far as they did. -/
def Disk.history (d : Disk C) (digest : Sha256Digest) : List Ending :=
  (d.sequences digest).filterMap fun f => (d.stages digest f.1).ending

/-- The files of a sequence appear in their order: classification, outcome if it is
eligible, transition. -/
structure Stages.Ordered (s : Stages C) : Prop where
  whole : s.classification ≠ .torn ∧ s.outcome ≠ .torn ∧ s.transition ≠ .torn
  outcome : s.outcome ≠ .absent → ∃ c, s.classification = .bound c ∧ c.classification = .eligible
  transition : s.transition ≠ .absent → ∃ c, s.classification = .bound c ∧ (s.outcome ≠ .absent ↔ c.classification = .eligible)

structure LedgerChain (L : Limits C) (d : Disk C) (a : Activation C) : Prop where
  contiguous : (d.sequences (a.activationDigest C)).map (·.1) =
    List.range' (a.schedulerSequenceWatermark + 1) (d.sequences (a.activationDigest C)).length
  entries : ∀ f ∈ d.sequences (a.activationDigest C), f.2.submission.schedulerSequence = f.1 ∧ newEntry f.2.submission = f.2
  identities : ((d.sequences (a.activationDigest C)).map fun f =>
    (f.2.submission.sourceIdentity, f.2.submission.submissionIdentity)).Nodup
  contents : ((d.sequences (a.activationDigest C)).map (·.2.submission.submissionDigest)).Nodup
  committed : ∀ n, (d.stages (a.activationDigest C) n).classification ≠ .absent →
    n ∈ (d.sequences (a.activationDigest C)).map (·.1)
  ordered : ∀ n, (d.stages (a.activationDigest C) n).Ordered
  through : ∀ i, i + 1 < (d.sequences (a.activationDigest C)).length →
    (d.stages (a.activationDigest C) (a.schedulerSequenceWatermark + 1 + i)).transition ≠ .absent
  transitions : ∀ i t, (d.stages (a.activationDigest C) (a.schedulerSequenceWatermark + 1 + i)).transition = .bound t →
    t.priorState = ((d.history (a.activationDigest C)).take i).foldl account a.genesis ∧
    t.resultingState = ((d.history (a.activationDigest C)).take (i + 1)).foldl account a.genesis
  accumulator : ∀ s, (currentAccumulatorState L d a).Returns s →
    s = (d.history (a.activationDigest C)).foldl account a.genesis
  exclusive : ((d.history (a.activationDigest C)).foldl account a.genesis).thresholdComplete = true →
    d.boundary (a.activationDigest C) = .absent ∧ d.boundaryReset (a.activationDigest C) = .absent

/-- Threshold completion, boundary evidence or the package is on the disk. -/
def Disk.Terminal (d : Disk C) (a : Activation C) : Prop :=
  ((d.history (a.activationDigest C)).foldl account a.genesis).thresholdComplete = true ∨
    d.boundary (a.activationDigest C) ≠ .absent ∨ d.package (a.activationDigest C) ≠ .absent

/-! ## The chain as the disk has it -/

theorem Processed.stages_ending : p.stages.ending = some p.ending := by
  obtain ⟨e, c, o, t⟩ := p
  cases o with
  | none => rfl
  | some o => rfl

theorem Stages.Open.transition (h : s.Open) : s.transition = .absent := by cases h <;> rfl

theorem Stages.Open.ending (h : s.Open) : s.ending = Option.none := by cases h <;> rfl

theorem Stages.Open.ordered (h : s.Open) : s.Ordered where
  whole := by cases h <;> exact ⟨nofun, nofun, nofun⟩
  outcome ho := by
    cases h with
    | submitted => exact absurd rfl ho
    | classified c => exact absurd rfl ho
    | resolved c o heligible => exact ⟨c, rfl, heligible⟩
  transition ht := absurd h.transition ht

theorem Processed.ordered (h : p.outcome.isSome ↔ p.classification.classification = .eligible) : p.stages.Ordered := by
  obtain ⟨e, c, o, t⟩ := p
  cases o with
  | none => exact ⟨⟨nofun, nofun, nofun⟩, fun ho => absurd rfl ho, fun _ => ⟨c, rfl, fun ho => absurd rfl ho, fun he => nomatch h.mpr he⟩⟩
  | some o => exact ⟨⟨nofun, nofun, nofun⟩, fun _ => ⟨c, rfl, h.mp rfl⟩, fun _ => ⟨c, rfl, fun _ => h.mp rfl, fun _ => nofun⟩⟩

theorem Chain.history (h : Chain d a done pending) : d.history (a.activationDigest C) = done.map (·.ending) := by
  have hdone : ∀ ps : List (Processed C), (∀ p ∈ ps, p ∈ done) →
      ps.filterMap (fun p => (d.stages (a.activationDigest C) p.entry.schedulerSequence).ending) = ps.map (·.ending) := by
    intro ps hps
    induction ps with
    | nil => rfl
    | cons p ps ih =>
      obtain ⟨hp, hps⟩ := List.forall_mem_cons.mp hps
      rw [List.filterMap_cons, h.processed p hp, Processed.stages_ending, ih hps]
      rfl
  rw [Disk.history, h.files, entriesOf, List.filterMap_map, List.filterMap_append, List.filterMap_map]
  refine Eq.trans (congrArg₂ _ (hdone done fun _ hp => hp) ?_) (List.append_nil _)
  cases pending with
  | none => rfl
  | some e =>
    refine List.filterMap_eq_nil_iff.mpr fun e' he' => ?_
    obtain rfl := List.mem_singleton.mp he'
    exact (h.opened _ rfl).ending

theorem Chain.stages_cases (h : Chain d a done pending) (n : Nat) : d.stages (a.activationDigest C) n = .none ∨
    n ∈ (entriesOf done pending).map (·.schedulerSequence) ∧
    ((d.stages (a.activationDigest C) n).Open ∨ ∃ p ∈ done, p.entry.schedulerSequence = n ∧ d.stages (a.activationDigest C) n = p.stages) := by
  by_cases hn : n ∈ (entriesOf done pending).map (·.schedulerSequence)
  · refine .inr ⟨hn, ?_⟩
    obtain ⟨e, he, rfl⟩ := List.mem_map.mp hn
    rcases mem_entriesOf.mp he with ⟨p, hp, rfl⟩ | rfl
    · exact .inr ⟨p, hp, rfl, h.processed p hp⟩
    · exact .inl (h.opened e rfl)
  · exact .inl (h.untouched n hn)

theorem Chain.transition {i : Nat} {t : Transition C} (h : Chain d a done pending)
    (ht : (d.stages (a.activationDigest C) (a.schedulerSequenceWatermark + 1 + i)).transition = .bound t) :
    ∃ earlier p later, done = earlier ++ p :: later ∧ earlier.length = i ∧ p.transition = t := by
  rcases h.stages_cases (a.schedulerSequenceWatermark + 1 + i) with hnone | ⟨-, hopen | ⟨p, hp, hseq, hstages⟩⟩
  · rw [hnone] at ht
    cases ht
  · rw [hopen.transition] at ht
    cases ht
  · rw [hstages] at ht
    cases ht
    obtain ⟨earlier, later, rfl⟩ := List.append_of_mem hp
    refine ⟨earlier, p, later, rfl, ?_, rfl⟩
    have hat : ((earlier ++ p :: later).map (·.entry.schedulerSequence))[earlier.length]? = some p.entry.schedulerSequence := by
      simp
    rw [h.processed_sequences, List.getElem?_range' (by simp), hseq] at hat
    have := Option.some.inj hat
    omega

theorem Chain.ledgerChain (h : Chain d a done pending)
    (hreset : d.boundaryReset (a.activationDigest C) ≠ .absent → d.boundary (a.activationDigest C) ≠ .absent) :
    LedgerChain L d a where
  contiguous := by
    rw [h.files, List.map_map, List.length_map]
    exact h.contiguous
  entries f hf := by
    rw [h.files] at hf
    obtain ⟨e, he, rfl⟩ := List.mem_map.mp hf
    have hown := h.own e he
    exact ⟨congrArg Entry.schedulerSequence hown, hown⟩
  identities := by
    rw [h.files, List.map_map]
    exact h.identities
  contents := by
    rw [h.files, List.map_map]
    exact h.contents
  committed n hn := by
    rw [h.files, List.map_map]
    rcases h.stages_cases n with hnone | ⟨hmem, -⟩
    · rw [hnone] at hn
      exact absurd rfl hn
    · exact hmem
  ordered n := by
    rcases h.stages_cases n with hnone | ⟨-, hopen | ⟨p, hp, -, hstages⟩⟩
    · rw [hnone]
      exact Stages.Open.submitted.ordered
    · exact hopen.ordered
    · rw [hstages]
      exact Processed.ordered (h.linked.mem hp).1
  through i hi := by
    have hlen : i < done.length := by
      rw [h.files, List.length_map, entriesOf, List.length_append, List.length_map] at hi
      have : pending.toList.length ≤ 1 := by cases pending <;> simp
      omega
    have hseq : done[i].entry.schedulerSequence = a.schedulerSequenceWatermark + 1 + i := by
      have hat := congrArg (·[i]?) h.processed_sequences
      simpa [List.getElem?_eq_getElem hlen, List.getElem?_range' hlen] using hat
    rw [← hseq, h.processed _ (List.getElem_mem hlen)]
    intro hx; cases hx
  transitions i t ht := by
    obtain ⟨earlier, p, later, rfl, rfl, rfl⟩ := h.transition ht
    obtain ⟨hprior, -, hbound⟩ := h.linked.at
    rw [h.history, List.map_append, List.map_cons, List.take_left' (List.length_map _)]
    refine ⟨hprior, ?_⟩
    rw [hbound.resulting, hprior, List.take_append, List.take_of_length_le (by simp), List.length_map, Nat.add_sub_cancel_left,
      List.take_succ_cons, List.take_zero, List.foldl_append]
    rfl
  accumulator s hs := by
    rw [h.history]
    exact h.currentAccumulatorState_returns hs
  exclusive hcomplete := by
    rw [h.history] at hcomplete
    have hboundary : d.boundary (a.activationDigest C) = .absent := by
      by_contra hfenced
      have hincomplete := h.fenced hfenced
      rw [stateAfter, hcomplete] at hincomplete
      cases hincomplete
    refine ⟨hboundary, ?_⟩
    by_contra hfenced
    exact hreset hfenced hboundary

/-! ## No call goes on after the end -/

theorem Chain.not_terminal (h : Chain d a done pending) (hfresh : Fresh L d a) : ¬ d.Terminal a := by
  obtain ⟨s, hs, hincomplete⟩ := hfresh.incomplete
  obtain rfl := h.currentAccumulatorState_returns hs
  rintro (hcomplete | hboundary | hpackage)
  · rw [h.history] at hcomplete
    rw [stateAfter, hcomplete] at hincomplete
    cases hincomplete
  · exact hboundary hfresh.boundary
  · exact hpackage hfresh.package

theorem Inv.closed (h : Inv d) (hc : call.Creates L d d') (ha : d.activation = .bound a) (hend : d.Terminal a) :
    d'.sequences = d.sequences ∧ d'.stages = d.stages := by
  obtain ⟨done, pending, hd⟩ := h.chain a ha
  have hstage : ∀ {a' : Activation C} {digest : Sha256Digest} {n : Nat} {e : Entry C}, ¬ NewStage L d a' digest n e := by
    intro a' digest n e hnew
    obtain rfl : a' = a := File.bound.inj (hnew.activation.1.symm.trans ha)
    exact hd.not_terminal hnew.fresh hend
  cases hc with
  | activation _ _ => exact ⟨rfl, rfl⟩
  | submission hadmit _ =>
    obtain ⟨a', hnew⟩ := admitSubmission_none hadmit
    obtain rfl : a' = a := File.bound.inj (hnew.activation.1.symm.trans ha)
    exact absurd hend (hd.not_terminal hnew.fresh)
  | classification hadmit _ =>
    obtain ⟨a', e, hnew, -⟩ := admitClassification_none hadmit
    exact absurd hnew hstage
  | outcome hadmit _ =>
    obtain ⟨a', e, c, hnew, -⟩ := admitOutcome_none hadmit
    exact absurd hnew hstage
  | transition hadmit _ =>
    obtain ⟨a', e, c, o, hnew, -⟩ := admitTransition_none hadmit
    exact absurd hnew hstage
  | boundaryEvidence _ _ => exact ⟨rfl, rfl⟩
  | boundaryReset _ _ => exact ⟨rfl, rfl⟩
  | package _ _ => exact ⟨rfl, rfl⟩

/-- What holds of a disk that calls have left. -/
structure JournalSafe (L : Limits C) (d : Disk C) : Prop where
  activation : d.activation ≠ .torn
  aside : ∀ digest, (∀ a, d.activation = .bound a → a.activationDigest C ≠ digest) → Silent d digest
  chain : ∀ a, d.activation = .bound a → LedgerChain L d a
  closed : ∀ a, d.activation = .bound a → d.Terminal a → ∀ (call : Call C) (y : Except LedgerError Unit) (d' : Disk C),
    (call.run L).Runs d y d' → d'.sequences = d.sequences ∧ d'.stages = d.stages

/-- Every disk that calls leave is safe. -/
theorem journal_safe (h : Relation.ReflTransGen (CallStep L) (Disk.blank C) d) : JournalSafe L d where
  activation := (Inv.run h).whole
  aside := (Inv.run h).silent
  chain a ha := by
    obtain ⟨done, pending, hd⟩ := (Inv.run h).chain a ha
    exact hd.ledgerChain ((Inv.run h).reset _)
  closed a ha hend call y d' hrun := by
    rcases Call.run_cases hrun with rfl | hcreates
    · exact ⟨rfl, rfl⟩
    · exact (Inv.run h).closed hcreates ha hend

def play (L : Limits C) (V : Question C → Bool) : List (Call C) → Disk C → Disk C
  | [], d => d
  | call :: calls, d => play L V calls ((call.run L).answered V d).2

theorem reaches_play {V : Question C → Bool} {calls : List (Call C)} :
    Relation.ReflTransGen (CallStep L) d (play L V calls d) := by
  induction calls generalizing d with
  | nil => exact .refl
  | cons call calls ih => exact Relation.ReflTransGen.head ⟨call, _, Procedure.runs_answered V⟩ ih

namespace Sample

def limits : Limits canon := ⟨fun _ => 1, fun _ => 1, 10⟩

/-- One submission goes through. -/
def calls : List (Call canon) :=
  let a : Activation canon := ⟨activation 7, by decide⟩
  let s : Submission canon := ⟨submission a.toActivationBody 8, by decide⟩
  let c : Classification canon := ⟨classification s.toSubmissionBody, by decide⟩
  let o : Outcome canon := ⟨outcome c.toClassificationBody, by decide⟩
  let t : Transition canon := ⟨transition a.genesis c.toClassificationBody, by decide⟩
  [.activation a, .submission s, .classification c, .outcome o, .transition t]

end Sample

theorem journal_safe_one : JournalSafe Sample.limits (play Sample.limits (fun _ => true) Sample.calls (Disk.blank _)) :=
  journal_safe reaches_play

example : (play Sample.limits (fun _ => true) Sample.calls (Disk.blank _)).history
    ((Sample.activation 7).activationDigest Sample.canon) = [(.eligible, some .success)] := by decide +kernel

end AvoCorrelate.MainLedger
