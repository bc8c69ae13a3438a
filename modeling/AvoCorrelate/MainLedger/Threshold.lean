import AvoCorrelate.MainLedger.Accounting
import Mathlib.Data.List.Forall2
/-!
# A complete package

What the checks of a package say together. Its transitions are, one by one, the
transitions of its classifications with their outcomes, so its history can be read off
the classifications and the outcomes alone; the final state is the fold of that history.
-/
namespace AvoCorrelate.MainLedger

open AvoLib

/-! ## Lists by key -/

section Lookup
variable {α β : Type} {key : α → Nat} {xs ys : List α}

theorem lookup_some {n : Nat} {x : α} (h : lookup key xs n = some x) : x ∈ xs ∧ key x = n :=
  ⟨List.mem_reverse.mp (List.mem_of_find?_eq_some h), by simpa using List.find?_some h⟩

theorem eq_of_key (hn : (xs.map key).Nodup) {x y : α} (hx : x ∈ xs) (hy : y ∈ xs) (h : key x = key y) : x = y :=
  List.inj_on_of_nodup_map hn hx hy h

theorem lookup_of_mem (hn : (xs.map key).Nodup) {x : α} (hx : x ∈ xs) : lookup key xs (key x) = some x := by
  cases h : lookup key xs (key x) with
  | none =>
    have := List.find?_eq_none.mp h x (List.mem_reverse.mpr hx)
    simp at this
  | some y =>
    obtain ⟨hy, hkey⟩ := lookup_some h
    rw [eq_of_key hn hy hx hkey]

theorem lookup_isSome {n : Nat} : (lookup key xs n).isSome ↔ n ∈ xs.map key := by
  simp [lookup]

theorem eq_of_keys (hk : xs.map key = ys.map key) (hn : (ys.map key).Nodup) (hm : ∀ x ∈ xs, x ∈ ys) : xs = ys := by
  induction xs generalizing ys with
  | nil => exact (List.map_eq_nil_iff.mp hk.symm).symm
  | cons x xs ih =>
    cases ys with
    | nil => cases hk
    | cons y ys =>
      have hx : x = y := eq_of_key hn (hm x (by simp)) (by simp) (List.cons.inj hk).1
      subst hx
      obtain ⟨hnot, hn⟩ := List.nodup_cons.mp hn
      have htail := (List.cons.inj hk).2
      rw [ih htail hn fun z hz => ?_]
      rcases List.mem_cons.mp (hm z (List.mem_cons_of_mem _ hz)) with rfl | h
      · exact absurd (htail ▸ List.mem_map_of_mem hz) hnot
      · exact h

end Lookup

namespace PackageBody
variable {C : Canon} {p : PackageBody}

/-- How the submissions ended, in their order. -/
def history (p : PackageBody) : List Ending :=
  p.classifications.map fun c =>
    (c.classification, (lookup OutcomeBody.schedulerSequence p.outcomes c.schedulerSequence).map (·.outcome))

/-! ## The chain -/

variable {n : Nat} {before : StateBody} {ts : List TransitionBody} {t : TransitionBody}

theorem Chained.prior {ys : List TransitionBody} (h : p.Chained n before (ts ++ t :: ys)) (hv : ∀ t' ∈ ts, t'.Valid C) :
    t.priorState = (ts.map (·.ending)).foldl account before := by
  induction ts generalizing n before with
  | nil => exact h.2.1.1
  | cons u ts ih =>
    obtain ⟨-, hfollows, hrest⟩ := h
    rw [ih hrest fun t' ht' => hv t' (List.mem_cons_of_mem _ ht'), (hv u (by simp)).account, hfollows.1]
    rfl

theorem Chained.last (h : p.Chained n before ts) (hv : ∀ t ∈ ts, t.Valid C) :
    ((ts.map (·.resultingState)).getLast?).getD before = (ts.map (·.ending)).foldl account before := by
  rcases List.eq_nil_or_concat ts with rfl | ⟨ts, t, rfl⟩
  · rfl
  · rw [List.concat_eq_append] at *
    have hprior := h.prior fun t' ht' => hv t' (List.mem_append_left _ ht')
    rw [List.map_append, List.map_append, List.foldl_append, ← hprior]
    simpa using (hv t (by simp)).account

theorem Chained.sequences (h : p.Chained n before ts) (hv : ∀ t ∈ ts, t.Valid C) :
    Consecutive (n + 1) (ts.map (·.classification.schedulerSequence)) := by
  induction ts generalizing n before with
  | nil => trivial
  | cons t ts ih =>
    obtain ⟨hn, -, hrest⟩ := h
    have ht := hv t (by simp)
    have hseq : t.classification.schedulerSequence = n + 1 := by rw [ht.sequence, hn]
    refine ⟨hseq, ?_⟩
    rw [ht.resultingSequence, hseq] at hrest
    exact ih hrest fun t' ht' => hv t' (List.mem_cons_of_mem _ ht')

theorem Chained.follows (h : p.Chained n before ts) (ht : t ∈ ts) : ∃ before', p.Follows before' t := by
  induction ts generalizing n before with
  | nil => cases ht
  | cons u ts ih =>
    rcases List.mem_cons.mp ht with rfl | ht
    · exact ⟨before, h.2.1⟩
    · exact ih h.2.2 ht

/-! ## Valid packages -/

theorem Valid.bound (h : p.Valid C) : List.Forall₂ (p.Binds C) p.prefixSubmissions p.classifications := by
  refine List.forall₂_iff_zip.mpr ⟨?_, fun {s c} hm => h.binds (s, c) hm⟩
  have hlen := congrArg List.length h.processed
  rw [List.length_map, List.length_range'] at hlen
  rw [hlen, h.classified]

theorem sequences_of_bound {ss : List SubmissionBody} {cs : List ClassificationBody} (h : List.Forall₂ (p.Binds C) ss cs) :
    cs.map (·.schedulerSequence) = ss.map (·.schedulerSequence) := by
  induction h with
  | nil => rfl
  | cons hsc _ ih => rw [List.map_cons, List.map_cons, ih, hsc.2.1]

theorem Valid.classifications_sequences (h : p.Valid C) :
    p.classifications.map (·.schedulerSequence) = List.range' (p.watermark + 1) p.expectedClassifiedCount := by
  rw [← h.processed]
  exact sequences_of_bound h.bound

theorem Valid.classifications_nodup (h : p.Valid C) : (p.classifications.map (·.schedulerSequence)).Nodup := by
  rw [h.classifications_sequences]
  exact List.nodup_range'

theorem Valid.transitions_sequences (h : p.Valid C) :
    p.transitions.map (·.classification.schedulerSequence) =
      List.range' (p.watermark + 1) p.expectedClassifiedCount := by
  have hseq := consecutive_iff.mp (h.chained.sequences h.records.transitions)
  rwa [List.length_map, h.accounted] at hseq

theorem Valid.transition_classification (h : p.Valid C) (ht : t ∈ p.transitions) :
    t.classification ∈ p.classifications := by
  obtain ⟨_, -, hlookup, -⟩ := h.chained.follows ht
  exact (lookup_some hlookup).1

theorem Valid.transitions_classifications (h : p.Valid C) :
    p.transitions.map (·.classification) = p.classifications := by
  have hsequences : (p.transitions.map (·.classification)).map ClassificationBody.schedulerSequence =
      p.classifications.map ClassificationBody.schedulerSequence := by
    rw [List.map_map, h.classifications_sequences]
    exact h.transitions_sequences
  refine eq_of_keys hsequences h.classifications_nodup fun c hc => ?_
  obtain ⟨t, ht, rfl⟩ := List.mem_map.mp hc
  exact h.transition_classification ht

theorem Valid.outcome_iff (h : p.Valid C) {c : ClassificationBody} (hc : c ∈ p.classifications) :
    c.schedulerSequence ∈ p.outcomes.map (·.schedulerSequence) ↔ c.classification = .eligible := by
  constructor
  · intro hm
    obtain ⟨c', hc', hkey⟩ := List.mem_map.mp (h.eligible.1 _ hm)
    rw [List.mem_filter] at hc'
    rw [← eq_of_key h.classifications_nodup hc'.1 hc hkey]
    exact of_decide_eq_true hc'.2
  · intro he
    exact h.eligible.2 _ (List.mem_map_of_mem (List.mem_filter.mpr ⟨hc, decide_eq_true he⟩))

theorem Valid.transition_outcome (h : p.Valid C) (ht : t ∈ p.transitions) :
    t.outcome = lookup OutcomeBody.schedulerSequence p.outcomes t.classification.schedulerSequence := by
  cases ho : t.outcome with
  | some o => exact (h.outcomesEqual t ht o ho).symm
  | none =>
    have hnot : t.classification.classification ≠ .eligible := by
      intro he
      have hsome := (h.records.transitions t ht).resolved he
      simp [TransitionBody.ending, ho] at hsome
    cases hl : lookup OutcomeBody.schedulerSequence p.outcomes t.classification.schedulerSequence with
    | none => rfl
    | some o =>
      have hm := lookup_isSome.mp (Option.isSome_of_eq_some hl)
      exact absurd ((h.outcome_iff (h.transition_classification ht)).mp hm) hnot

theorem Valid.history_eq (h : p.Valid C) : p.transitions.map (·.ending) = p.history := by
  unfold history
  rw [← h.transitions_classifications, List.map_map]
  refine List.map_congr_left fun t ht => ?_
  simp only [TransitionBody.ending, Function.comp_apply, h.transition_outcome ht]

theorem Valid.resolved (h : p.Valid C) : Resolved p.history := by
  rw [← h.history_eq]
  intro e he
  obtain ⟨t, ht, rfl⟩ := List.mem_map.mp he
  exact (h.records.transitions t ht).resolved

theorem Valid.normalFinalState_eq (h : p.Valid C) : p.normalFinalState C = p.history.foldl account (p.genesis C) := by
  rw [← h.history_eq]
  exact h.chained.last h.records.transitions

theorem Valid.outcomes_perm (h : p.Valid C) : (p.transitions.filterMap (·.outcome)).Perm p.outcomes := by
  have hsequence : ∀ t ∈ p.transitions, ∀ o, t.outcome = some o →
      o.schedulerSequence = t.classification.schedulerSequence := by
    intro t ht o ho
    rw [h.transition_outcome ht] at ho
    exact (lookup_some ho).2
  refine (List.perm_ext_iff_of_nodup ?_ (List.Nodup.of_map _ h.outcomesUnique)).mpr fun o => ?_
  · refine List.pairwise_filterMap.mpr ((List.pairwise_map.mp h.transitionsUnique).imp_of_mem ?_)
    rintro t t' ht ht' hne o ho o' ho' rfl
    exact hne ((hsequence t ht o ho).symm.trans (hsequence t' ht' o ho'))
  · rw [List.mem_filterMap]
    constructor
    · rintro ⟨t, ht, ho⟩
      rw [h.transition_outcome ht] at ho
      exact (lookup_some ho).1
    · intro ho
      obtain ⟨t, ht, hkey⟩ := List.mem_map.mp (h.outcomesCovered.2 _ (List.mem_map_of_mem ho))
      have ht := (List.mem_filter.mp ht).1
      refine ⟨t, ht, ?_⟩
      rw [h.transition_outcome ht, hkey, lookup_of_mem h.outcomesUnique ho]

theorem Valid.eligibleOutcomes_perm (h : p.Valid C) :
    (eligibleOutcomes p.history).Perm (p.outcomes.map (·.outcome)) := by
  refine List.Perm.trans (List.Perm.of_eq ?_) (h.outcomes_perm.map _)
  rw [← h.history_eq, eligibleOutcomes, List.filterMap_map, List.map_filterMap]
  refine List.filterMap_congr fun t ht => ?_
  simp only [Function.comp_apply, TransitionBody.ending]
  split
  · rfl
  · next hnot =>
    rw [h.transition_outcome ht]
    cases hl : lookup OutcomeBody.schedulerSequence p.outcomes t.classification.schedulerSequence with
    | none => rfl
    | some o =>
      have hm := lookup_isSome.mp (Option.isSome_of_eq_some hl)
      exact absurd ((h.outcome_iff (h.transition_classification ht)).mp hm) hnot

theorem Valid.counts (h : p.Valid C) : Counts (p.genesis C) p.history (p.normalFinalState C) := by
  rw [h.normalFinalState_eq]
  exact counts_foldl ⟨rfl, rfl, rfl⟩ h.resolved

theorem Valid.streak_take (h : p.Valid C) (hn : n < p.history.length) :
    AvoLib.streak (· = LedgerOutcome.success) (eligibleOutcomes (p.history.take n)) < 12 := by
  have hlen : n < p.transitions.length := by rwa [← h.history_eq, List.length_map] at hn
  have hsplit : p.transitions = p.transitions.take n ++ p.transitions[n] :: p.transitions.drop (n + 1) := by
    rw [← List.drop_eq_getElem_cons hlen, List.take_append_drop]
  have hchain := h.chained
  rw [hsplit] at hchain
  have hprior := hchain.prior fun t ht => h.records.transitions t (List.mem_of_mem_take ht)
  rw [List.map_take, h.history_eq] at hprior
  have ht := h.records.transitions _ (List.getElem_mem hlen)
  have hcounts : Counts (p.genesis C) (p.history.take n) (p.transitions[n]).priorState := by
    rw [hprior]
    exact counts_foldl ⟨rfl, rfl, rfl⟩ fun e he => h.resolved e (List.mem_of_mem_take he)
  rw [← hcounts.streak]
  obtain ⟨hle, hcomplete⟩ := ht.states.1
  rw [ht.incomplete] at hcomplete
  have hne : (p.transitions[n]).priorState.streak ≠ 12 := of_decide_eq_false hcomplete.symm
  omega

end PackageBody

/-! ## Twelve in a row -/

/-- What a complete package proves. -/
structure TwelveInARow (C : Canon) (p : PackageBody) : Prop where
  sequences : p.submissions.map (·.schedulerSequence) = List.range' (p.watermark + 1) p.submissions.length
  contents : (p.submissions.map (·.contentArtifact.digest)).Nodup
  classified : List.Forall₂ (p.Binds C) p.submissions p.classifications
  resolved : ∀ c ∈ p.classifications,
    (p.outcomes.map (·.schedulerSequence)).count c.schedulerSequence = if c.classification = .eligible then 1 else 0
  nothingElse : ∀ o ∈ p.outcomes, ∃ c ∈ p.classifications,
    c.schedulerSequence = o.schedulerSequence ∧ c.classification = .eligible
  folded : p.finalState = p.history.foldl account (p.genesis C)
  successes : p.finalState.successes = p.outcomes.countP (·.outcome = .success)
  failures : p.finalState.failures = p.outcomes.countP (·.outcome ≠ .success)
  boundary : p.finalState.boundaryViolations = 0
  lastTwelve : ∃ earlier, eligibleOutcomes p.history = earlier ++ List.replicate 12 .success
  firstTime : ∀ n < p.history.length, ¬ List.replicate 12 .success <:+: eligibleOutcomes (p.history.take n)

theorem twelve_in_a_row {C : Canon} (p : EvidencePackage C) (hstatus : p.status = .thresholdComplete) :
    TwelveInARow C p.toPackageBody := by
  have h := p.valid
  have hprefix : p.prefixSubmissions = p.submissions := by
    simp [PackageBody.prefixSubmissions, PackageBody.firstUnresolved, hstatus]
  have hcount : p.expectedClassifiedCount = p.submissions.length := by
    simp [PackageBody.expectedClassifiedCount, PackageBody.firstUnresolved, hstatus]
  have hcloses := h.closes
  simp only [PackageBody.Closes, hstatus] at hcloses
  obtain ⟨hfinal, hcomplete⟩ := hcloses
  have hcounts := h.counts
  rw [← hfinal] at hcounts
  have hperm := h.eligibleOutcomes_perm
  constructor
  · rw [← hcount, ← h.processed, hprefix]
  · exact h.contents
  · rw [← hprefix]
    exact h.bound
  · intro c hc
    rw [List.Nodup.count h.outcomesUnique]
    simp only [h.outcome_iff hc]
  · intro o ho
    obtain ⟨c, hc, hkey⟩ := List.mem_map.mp (h.eligible.1 _ (List.mem_map_of_mem ho))
    rw [List.mem_filter] at hc
    exact ⟨c, hc.1, hkey, of_decide_eq_true hc.2⟩
  · rw [hfinal, h.normalFinalState_eq]
  · rw [hcounts.successes, hperm.countP_eq, List.countP_map]
    rfl
  · rw [hcounts.failures, hperm.countP_eq, List.countP_map]
    rfl
  · exact hcounts.boundary
  · have hstreak : 12 ≤ AvoLib.streak (· = LedgerOutcome.success) (eligibleOutcomes p.history) := by
      have hdone := h.records.final.2
      rw [hcomplete] at hdone
      rw [← hcounts.streak]
      exact Nat.le_of_eq (of_decide_eq_true hdone.symm).symm
    obtain ⟨last, ⟨earlier, hlast⟩, hlen, hall⟩ := le_streak_iff.mp hstreak
    rw [List.eq_replicate_iff.mpr ⟨hlen, hall⟩] at hlast
    exact ⟨earlier, hlast.symm⟩
  · intro n hn hinfix
    obtain ⟨zs, hprefix, hzs⟩ := exists_hits_iff.mp
      ⟨_, hinfix, List.length_replicate, fun y hy => List.eq_of_mem_replicate hy⟩
    obtain ⟨m, hm, rfl⟩ := prefix_filterMap hprefix
    rw [List.take_take] at hzs
    exact absurd hzs (Nat.not_le_of_lt (h.streak_take (Nat.lt_of_le_of_lt (Nat.min_le_right _ _) hn)))

/-! ## Twelve successes at once -/

namespace Sample

/-- Tells the documents of the samples apart. -/
def canon : Canon where
  digest d := BitVec.ofNat 256 <|
    match d with
    | .authority _ => 1
    | .hostedRollbackProof _ => 2
    | .capabilityEvidence _ => 3
    | .activation a => 4 + a.schedulerSequenceWatermark
    | .operation _ n _ _ _ => 1000 + n
    | .submission s => 2000 + s.schedulerSequence
    | .classification c => 3000 + c.schedulerSequence
    | .attempt _ n _ => 4000 + n
    | .packageBinding _ _ _ d _ => 5000 + d.toNat
    | .outcome o => 6000 + o.schedulerSequence
    | .state s => 100000 + 1000 * s.lastSchedulerSequence + 10 * s.streak + s.boundaryViolations
    | .tailEntry e => 7000 + e.schedulerSequence
    | .violation e => 8000 + e.expectedSchedulerSequence
    | .reset r => 9000 + r.violation.expectedSchedulerSequence
    | .transition t => 10000 + t.classification.schedulerSequence
    | .package _ => 5
  manifest _ := 6
  nfc _ := true
  casefold p := p

def authority : ControllerAuthority := ⟨11, ⟨_, rfl⟩, 12, 13, 14, 15, "controller", 16, 0, 1000⟩

def activation (watermark : Nat) : ActivationBody where
  repositoryDigest := 11
  targetRef := ⟨_, rfl⟩
  protocolDigest := 12
  controllerConfigDigest := 13
  policyDigest := 14
  policyEpoch := 15
  controllerIssuerIdentity := "controller"
  controllerIssuerAuthorityDigest := 16
  schedulerSequenceWatermark := watermark
  freshnessCutoff := 1
  controllerAuthority := authority
  hostedRollbackProof := ⟨20, 11, ⟨_, rfl⟩, 21, 1, "rollback", 22, 23, 2⟩
  capabilityEvidence := ⟨11, ⟨_, rfl⟩, 1, "hosting", 30, 31, "release", 2, 32, 2⟩
  hostedRollbackProofDigest := 2
  hostedRollbackArtifactDigest := 21
  rollbackAuthorityIdentity := "rollback"
  rollbackAuthorityDigest := 22
  capabilityEvidenceDigest := 3
  activatedAt := 3
  hostedRollbackRawArtifactDigest := none

def submission (a : ActivationBody) (n : Nat) : SubmissionBody where
  activationDigest := a.activationDigest canon
  repositoryDigest := 11
  targetRef := ⟨_, rfl⟩
  schedulerSequence := n
  sourceIdentity := "source"
  submissionIdentity := String.ofList (List.replicate n 'i')
  submissionDigest := BitVec.ofNat 256 (500 + n)
  contentArtifact := ⟨BitVec.ofNat 256 (500 + n), 1, "application/vnd.avo.scheduler-submission+json",
    "scheduler-submission-content", 3⟩
  operationId := BitVec.ofNat 256 (1000 + n)
  recordedAt := 4

def classification (s : SubmissionBody) : ClassificationBody where
  activationDigest := s.activationDigest
  submissionDigest := s.submissionDigest
  operationId := s.operationId
  schedulerSequence := s.schedulerSequence
  classification := .eligible
  empty := false
  ordinary := true
  riskClass := .ordinary
  paths := ["a"]
  pathManifestDigest := 6
  policyDigest := 14
  policyEpoch := 15
  controllerAuthority := authority
  issuerIdentity := "controller"
  issuerAuthorityDigest := 16
  exclusionReason := none
  independentExclusionEvidenceDigest := none
  independentExclusionEvidence := none

def outcome (c : ClassificationBody) : OutcomeBody where
  activationDigest := c.activationDigest
  submissionDigest := c.submissionDigest
  classificationDigest := c.classificationDigest canon
  classification := c
  operationId := c.operationId
  attemptId := canon.digest (.attempt c.activationDigest c.schedulerSequence c.submissionDigest)
  schedulerSequence := c.schedulerSequence
  outcome := .success
  evidenceKind := .success
  terminalEvidenceDigest := 40
  terminalEvidence := ⟨40, 1, "application/vnd.avo.ledger-terminal-evidence+json", "ledger-terminal-evidence", 5⟩
  packageDigest := some 41
  packageArtifact := some ⟨41, 1, "application/vnd.avo.integration-campaign+json", "integration-campaign-package", 5⟩
  packageBindingDigest := some (canon.digest
    (.packageBinding c.activationDigest (c.classificationDigest canon) c.operationId 41 c.submissionDigest))
  reason := none
  terminalAt := 6

def transition (before : StateBody) (c : ClassificationBody) : TransitionBody where
  activationDigest := c.activationDigest
  classification := c
  priorState := before
  priorStateDigest := before.stateDigest canon
  outcome := some (outcome c)
  outcomeDigest := some ((outcome c).outcomeDigest canon)
  resetApplied := false
  resultingState := account before (.eligible, some .success)
  resultingStateDigest := (account before (.eligible, some .success)).stateDigest canon

def transitions : StateBody → List ClassificationBody → List TransitionBody
  | _, [] => []
  | before, c :: cs => transition before c :: transitions (transition before c).resultingState cs

def package : PackageBody :=
  let a := activation 7
  let submissions := (List.range' 8 12).map (submission a)
  let classifications := submissions.map classification
  let transitions := transitions (mainLedgerGenesisState (a.activationDigest canon) 7) classifications
  { status := .thresholdComplete
    activation := a
    submissions
    classifications
    outcomes := classifications.map outcome
    transitions
    unresolvedTail := []
    finalState := (transitions.getLast?.map (·.resultingState)).getD (mainLedgerGenesisState 0 0)
    boundaryEvidence := none
    terminalBoundaryReset := none }

end Sample

theorem twelve_in_a_row_straight : TwelveInARow Sample.canon Sample.package :=
  twelve_in_a_row ⟨Sample.package, by decide +kernel⟩ rfl

end AvoCorrelate.MainLedger
