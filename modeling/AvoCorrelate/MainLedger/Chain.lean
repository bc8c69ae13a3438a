import AvoCorrelate.MainLedger.Accounting
import AvoCorrelate.MainLedger.Reading
import Mathlib.Data.List.Sort
/-!
# The chain on the disk

`Chain` is the shape of the disk under an activation: the entries are the processed
sequences, each with its classification, its outcome and its transition, and at most one
that is still open. Here is what the reads of the journal return on such a disk.
-/
namespace AvoCorrelate.MainLedger

open AvoLib
open ExactCas (Sha256Digest)

variable {C : Canon} {L : Limits C}

/-! ## The shape -/

/-- What is recorded of a sequence that is through. -/
structure Processed (C : Canon) where
  entry : Entry C
  classification : Classification C
  outcome : Option (Outcome C)
  transition : Transition C

def Stages.none : Stages C := ⟨.absent, .absent, .absent⟩

def Processed.stages (p : Processed C) : Stages C :=
  ⟨.bound p.classification, match p.outcome with | .none => .absent | .some o => .bound o, .bound p.transition⟩

def Processed.ending (p : Processed C) : Ending := (p.classification.classification, p.outcome.map (·.outcome))

/-- The files of a sequence without a transition. -/
inductive Stages.Open : Stages C → Prop
  | submitted : Stages.Open .none
  | classified (c : Classification C) : Stages.Open ⟨.bound c, .absent, .absent⟩
  | resolved (c : Classification C) (o : Outcome C) (h : c.classification = .eligible) :
    Stages.Open ⟨.bound c, .bound o, .absent⟩

/-- The transitions go on from each other. -/
def Linked (a : Activation C) : StateBody → List (Processed C) → Prop
  | _, [] => True
  | before, p :: ps => p.transition.priorState = before ∧ (p.outcome.isSome ↔ p.classification.classification = .eligible) ∧
    TransitionBound a p.classification p.outcome p.transition ∧ Linked a p.transition.resultingState ps

/-- The accumulator when these are through. -/
def stateAfter (a : Activation C) (ps : List (Processed C)) : StateBody := (ps.map (·.ending)).foldl account a.genesis

def entriesOf (done : List (Processed C)) (pending : Option (Entry C)) : List (Entry C) :=
  done.map (·.entry) ++ pending.toList

structure Chain (d : Disk C) (a : Activation C) (done : List (Processed C)) (pending : Option (Entry C)) : Prop where
  files : d.sequences (a.activationDigest C) = (entriesOf done pending).map fun e => (e.schedulerSequence, e)
  contiguous : (entriesOf done pending).map (·.schedulerSequence) =
    List.range' (a.schedulerSequenceWatermark + 1) (entriesOf done pending).length
  own : ∀ e ∈ entriesOf done pending, newEntry e.submission = e
  identities : ((entriesOf done pending).map fun e => (e.submission.sourceIdentity, e.submission.submissionIdentity)).Nodup
  contents : ((entriesOf done pending).map (·.submission.submissionDigest)).Nodup
  processed : ∀ p ∈ done, d.stages (a.activationDigest C) p.entry.schedulerSequence = p.stages
  opened : ∀ e ∈ pending, (d.stages (a.activationDigest C) e.schedulerSequence).Open
  untouched : ∀ n, n ∉ (entriesOf done pending).map (·.schedulerSequence) → d.stages (a.activationDigest C) n = .none
  linked : Linked a a.genesis done
  fenced : d.boundary (a.activationDigest C) ≠ .absent → (stateAfter a done).thresholdComplete = false

/-! ## Linked transitions -/

variable {a : Activation C} {done : List (Processed C)} {pending : Option (Entry C)} {d : Disk C}

theorem TransitionBound.ending {p : Processed C} (h : TransitionBound a p.classification p.outcome p.transition) :
    p.transition.ending = p.ending := by
  unfold TransitionBody.ending Processed.ending
  rw [h.classification, h.outcome, Option.map_map]
  rfl

theorem TransitionBound.resulting {p : Processed C} (h : TransitionBound a p.classification p.outcome p.transition) :
    p.transition.resultingState = account p.transition.priorState p.ending := by
  rw [← h.ending]
  exact p.transition.valid.account

variable {before s : StateBody} {es : List (Entry C)} {n : Nat}

theorem Linked.append {p : Processed C} (h : Linked a before done)
    (hprior : p.transition.priorState = (done.map (·.ending)).foldl account before)
    (ho : p.outcome.isSome ↔ p.classification.classification = .eligible)
    (ht : TransitionBound a p.classification p.outcome p.transition) : Linked a before (done ++ [p]) := by
  induction done generalizing before with
  | nil => exact ⟨hprior, ho, ht, trivial⟩
  | cons q done ih =>
    obtain ⟨hq, hqo, hqt, hrest⟩ := h
    refine ⟨hq, hqo, hqt, ih hrest ?_⟩
    rw [hqt.resulting, hq]
    exact hprior

theorem Linked.at {p : Processed C} {later : List (Processed C)} (h : Linked a before (done ++ p :: later)) :
    p.transition.priorState = (done.map (·.ending)).foldl account before ∧
      (p.outcome.isSome ↔ p.classification.classification = .eligible) ∧
      TransitionBound a p.classification p.outcome p.transition := by
  induction done generalizing before with
  | nil => exact ⟨h.1, h.2.1, h.2.2.1⟩
  | cons q done ih =>
    obtain ⟨hq, hqo, hqt, hrest⟩ := h
    obtain ⟨hprior, hp⟩ := ih hrest
    refine ⟨?_, hp⟩
    rw [hprior, hqt.resulting, hq]
    rfl

theorem Linked.mem {p : Processed C} (h : Linked a before done) (hp : p ∈ done) :
    (p.outcome.isSome ↔ p.classification.classification = .eligible) ∧
      TransitionBound a p.classification p.outcome p.transition := by
  obtain ⟨earlier, later, rfl⟩ := List.append_of_mem hp
  exact h.at.2

theorem Linked.last {p : Processed C} (h : Linked a before (done ++ [p])) :
    ((done ++ [p]).map (·.ending)).foldl account before = p.transition.resultingState := by
  obtain ⟨hprior, -, ht⟩ := h.at
  rw [List.map_append, List.foldl_append, ← hprior, ht.resulting]
  rfl

/-! ## Lookups -/

theorem lookup_files {e : Entry C} (h : (es.map fun e => (e.schedulerSequence, e)).lookup n = some e) :
    e ∈ es ∧ e.schedulerSequence = n := by
  induction es with
  | nil => cases h
  | cons e' es ih =>
    rw [List.map_cons, List.lookup_cons] at h
    split at h
    · next heq =>
      cases h
      exact ⟨List.mem_cons_self, (eq_of_beq heq).symm⟩
    · obtain ⟨hm, hn⟩ := ih h
      exact ⟨List.mem_cons_of_mem _ hm, hn⟩

theorem lookup_files_none (h : (es.map fun e => (e.schedulerSequence, e)).lookup n = none) :
    n ∉ es.map (·.schedulerSequence) := by
  intro hm
  induction es with
  | nil => cases hm
  | cons e' es ih =>
    rw [List.map_cons, List.lookup_cons] at h
    split at h
    · cases h
    · next hne =>
      rcases List.mem_cons.mp hm with rfl | hm
      · simp at hne
      · exact ih h hm

theorem Chain.sequences_nodup (h : Chain d a done pending) : ((entriesOf done pending).map (·.schedulerSequence)).Nodup := by
  rw [h.contiguous]
  exact List.nodup_range'

theorem Chain.lookup (h : Chain d a done pending) {e : Entry C} (he : e ∈ entriesOf done pending) :
    (d.sequences (a.activationDigest C)).lookup e.schedulerSequence = some e := by
  rw [h.files]
  cases hl : ((entriesOf done pending).map fun e => (e.schedulerSequence, e)).lookup e.schedulerSequence with
  | none => exact absurd (List.mem_map_of_mem he) (lookup_files_none hl)
  | some e' =>
    obtain ⟨hm, hkey⟩ := lookup_files hl
    rw [List.inj_on_of_nodup_map h.sequences_nodup hm he hkey]

theorem mem_entriesOf {e : Entry C} : e ∈ entriesOf done pending ↔ (∃ p ∈ done, p.entry = e) ∨ pending = some e := by
  simp only [entriesOf, List.mem_append, List.mem_map, Option.mem_toList]

theorem Chain.pending_sequence {e : Entry C} (h : Chain d a done (some e)) :
    e.schedulerSequence = a.schedulerSequenceWatermark + 1 + done.length := by
  have hc := h.contiguous
  simp only [entriesOf, Option.toList_some, List.map_append, List.map_cons, List.map_nil, List.length_append,
    List.length_map, List.length_singleton, List.range'_concat] at hc
  obtain ⟨-, hlast⟩ := List.append_inj' hc rfl
  rw [(List.cons.inj hlast).1, Nat.one_mul]

theorem Chain.processed_sequences (h : Chain d a done pending) :
    done.map (·.entry.schedulerSequence) = List.range' (a.schedulerSequenceWatermark + 1) done.length := by
  have hc := h.contiguous
  rw [entriesOf, List.map_append, List.map_map, List.length_append, List.length_map, ← List.range'_append_1] at hc
  exact (List.append_inj hc (by simp)).1

/-! ## What the reads return -/

theorem Chain.allEntries_returns (h : Chain d a done pending) (hes : (allEntries L d (a.activationDigest C)).Returns es) :
    es = entriesOf done pending ∧ ∀ e ∈ entriesOf done pending,
      L.entry e ≤ maxIndexBytes ∧ e.activationDigest = a.activationDigest C := by
  have hsorted : ((d.sequences (a.activationDigest C)).mergeSort fun f g => f.1 ≤ g.1) = d.sequences (a.activationDigest C) := by
    refine List.mergeSort_of_pairwise ?_
    have hasc : ((entriesOf done pending).map (·.schedulerSequence)).Pairwise (· ≤ ·) := by
      rw [h.contiguous]
      exact List.pairwise_le_range'
    rw [h.files, List.pairwise_map]
    exact (List.pairwise_map.mp hasc).imp fun hle => decide_eq_true hle
  simp only [allEntries, Check.returns_bind, Check.returns_each, hsorted, Check.returns_require, Check.returns_pure,
    exists_const] at hes
  obtain ⟨ys, hys, -, rfl⟩ := hes
  rw [h.files] at hys
  generalize entriesOf done pending = es at hys ⊢
  clear h hsorted
  induction es generalizing ys with
  | nil => cases hys; exact ⟨rfl, List.forall_mem_nil _⟩
  | cons e es ih =>
    obtain _ | ⟨hy, hys⟩ := hys
    obtain ⟨rfl, hsize, hact, -⟩ := readSequenceFile_returns.mp hy
    obtain ⟨rfl, hall⟩ := ih _ hys
    exact ⟨rfl, List.forall_mem_cons.mpr ⟨⟨hsize, hact⟩, hall⟩⟩

theorem checkContents_returns {seen : List (Sha256Digest × Nat)} {u : Unit} (h : (checkContents L a seen es).Returns u) :
    ∀ e ∈ es, Readable L e.submission ∧ EntryBound a e := by
  induction es generalizing seen with
  | nil => nofun
  | cons e es ih =>
    simp only [checkContents, Check.returns_bind, readEntrySubmission_returns, Check.returns_require, exists_const] at h
    obtain ⟨_, ⟨rfl, hread, hbound⟩, -, hrest⟩ := h
    exact List.forall_mem_cons.mpr ⟨⟨hread, hbound⟩, ih hrest⟩

theorem Chain.entriesFor_returns (h : Chain d a done pending) (hes : (entriesFor L d a).Returns es) :
    es = entriesOf done pending ∧ ∀ e ∈ entriesOf done pending,
      L.entry e ≤ maxIndexBytes ∧ Readable L e.submission ∧ EntryBound a e := by
  simp only [entriesFor, Check.returns_bind, Check.returns_pure] at hes
  obtain ⟨es', hall, _, hcheck, rfl⟩ := hes
  obtain ⟨rfl, hsizes⟩ := h.allEntries_returns hall
  have hread := checkContents_returns hcheck
  exact ⟨rfl, fun e he => ⟨(hsizes e he).1, hread e he⟩⟩

theorem Processed.stages_outcome_absent {p : Processed C} (h : p.stages.outcome = .absent) : p.outcome = none := by
  unfold Processed.stages at h
  cases hp : p.outcome with
  | none => rfl
  | some o' => rw [hp] at h; cases h

variable {e : Entry C} {p : Processed C}

theorem readProcessed_some {t : Transition C} (h : (readProcessed L d a e).Returns (some t)) :
    (d.stages (a.activationDigest C) e.schedulerSequence).transition = .bound t := by
  simp only [readProcessed, Check.returns_bind] at h
  obtain ⟨_, -, s, -, h⟩ := h
  rw [Check.returns_ite] at h
  split at h
  · obtain ⟨c, -, h⟩ := Check.returns_bind.mp h
    rw [Check.returns_ite] at h
    split at h
    · cases h
    · obtain ⟨o, -, h⟩ := Check.returns_bind.mp h
      exact (readEntryTransition_returns.mp (ifFile_returns_some.mp h).2).1
  · cases h

theorem readProcessed_none (h : (readProcessed L d a e).Returns none)
    (hp : d.stages (a.activationDigest C) e.schedulerSequence = p.stages)
    (ho : p.outcome.isSome ↔ p.classification.classification = .eligible) : False := by
  simp only [readProcessed, Check.returns_bind] at h
  obtain ⟨_, -, s, -, h⟩ := h
  rw [Check.returns_ite, hp] at h
  split at h
  · obtain ⟨c, hc, h⟩ := Check.returns_bind.mp h
    rw [Check.returns_ite] at h
    split at h
    · next hopen =>
      rw [isFile_eq_false] at hopen
      have hnone := Processed.stages_outcome_absent hopen.2
      obtain ⟨hfile, -⟩ := readEntryClassification_returns.mp hc
      rw [hp] at hfile
      cases hfile
      rw [hnone] at ho
      exact Bool.false_ne_true (ho.mpr hopen.1)
    · obtain ⟨o, -, h⟩ := Check.returns_bind.mp h
      cases ifFile_returns_none.mp h
  · next habsent => exact habsent rfl

theorem accumulate_returns
    (hprocessed : ∀ p ∈ done, d.stages (a.activationDigest C) p.entry.schedulerSequence = p.stages)
    (hopened : ∀ e ∈ pending, (d.stages (a.activationDigest C) e.schedulerSequence).Open)
    (hlinked : Linked a before done) (h : (accumulate L d a before (entriesOf done pending)).Returns s) :
    s = (done.map (·.ending)).foldl account before := by
  induction done generalizing before with
  | nil =>
    cases pending with
    | none => exact h.symm
    | some e =>
      obtain ⟨processed, hread, h⟩ := Check.returns_bind.mp h
      cases processed with
      | none => exact h.symm
      | some t =>
        have hopen := hopened e rfl
        have hfile := readProcessed_some hread
        generalize d.stages (a.activationDigest C) e.schedulerSequence = st at hopen hfile
        cases hopen <;> cases hfile
  | cons p done ih =>
    obtain ⟨hprior, ho, ht, hrest⟩ := hlinked
    have hstages := hprocessed p (by simp)
    obtain ⟨processed, hread, h⟩ := Check.returns_bind.mp h
    cases processed with
    | none => exact (readProcessed_none hread hstages ho).elim
    | some t =>
      have hfile := readProcessed_some hread
      rw [hstages] at hfile
      cases hfile
      obtain ⟨_, -, h⟩ := Check.returns_bind.mp h
      rw [ih (fun q hq => hprocessed q (by simp [hq])) hrest h, ht.resulting, hprior]
      rfl

theorem Chain.currentAccumulatorState_returns (h : Chain d a done pending)
    (hs : (currentAccumulatorState L d a).Returns s) : s = stateAfter a done := by
  obtain ⟨es, hes, hacc⟩ := Check.returns_bind.mp hs
  obtain ⟨rfl, -⟩ := h.entriesFor_returns hes
  exact accumulate_returns h.processed h.opened h.linked hacc

theorem stateAfter_sequence (h : Linked a a.genesis done) :
    (stateAfter a done).lastSchedulerSequence = a.schedulerSequenceWatermark + done.length := by
  have hres : Resolved (done.map (·.ending)) := by
    intro e he hel
    obtain ⟨p, hp, rfl⟩ := List.mem_map.mp he
    have hsome := (h.mem hp).1.mpr hel
    simp only [Processed.ending, Option.isSome_map]
    exact hsome
  have hstart : a.genesis.streak = 0 ∧ a.genesis.successes = 0 ∧ a.genesis.failures = 0 := ⟨rfl, rfl, rfl⟩
  have hcounts := counts_foldl hstart hres
  rw [stateAfter, hcounts.sequence, List.length_map]
  rfl

theorem Chain.priorState_returns (h : Chain d a done pending)
    (hs : (priorState L d a (a.schedulerSequenceWatermark + 1 + done.length)).Returns s) : s = stateAfter a done := by
  unfold priorState at hs
  rcases List.eq_nil_or_concat done with rfl | ⟨earlier, p, rfl⟩
  · simp only [List.length_nil, Nat.add_zero, if_true] at hs
    exact hs.symm
  · rw [List.concat_eq_append] at h hs ⊢
    rw [if_neg (by simp), Check.returns_bind] at hs
    obtain ⟨e, he, hs⟩ := hs
    obtain ⟨s', hs', hs⟩ := Check.returns_bind.mp hs
    obtain ⟨c, hc, hs⟩ := Check.returns_bind.mp hs
    obtain ⟨o, ho, hs⟩ := Check.returns_bind.mp hs
    obtain ⟨t, ht, rfl⟩ := Check.returns_bind.mp hs
    have hseq : p.entry.schedulerSequence = a.schedulerSequenceWatermark + 1 + earlier.length := by
      have hall := h.processed_sequences
      rw [List.map_append, List.length_append, List.length_singleton, List.range'_concat] at hall
      obtain ⟨-, hlast⟩ := List.append_inj' hall rfl
      exact (List.cons.inj hlast).1.trans (by rw [Nat.one_mul])
    have hentry : e = p.entry := by
      obtain ⟨hlookup, -⟩ := requireEntry_returns.mp he
      rw [show a.schedulerSequenceWatermark + 1 + (earlier ++ [p]).length - 1 = p.entry.schedulerSequence by
        rw [hseq, List.length_append, List.length_singleton]; omega] at hlookup
      rw [h.lookup (mem_entriesOf.mpr (.inl ⟨p, by simp, rfl⟩))] at hlookup
      exact (Option.some.inj hlookup).symm
    subst hentry
    obtain ⟨hfile, -⟩ := readEntryTransition_returns.mp ht
    rw [h.processed p (by simp)] at hfile
    cases hfile
    exact h.linked.last.symm

end AvoCorrelate.MainLedger
