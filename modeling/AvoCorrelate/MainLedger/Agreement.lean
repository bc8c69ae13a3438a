import AvoCorrelate.MainLedger.Service
import AvoCorrelate.MainLedger.Threshold
/-!
# The rule and the contracts

The update of the counters is written twice: `nextState` and `boundaryState` compute it,
and the contracts of the two transitions check it. Before the threshold they agree: a
transition is valid iff it ends in the state that is computed. After it `boundaryState`
raises, and the contract of the reset does not look.
-/
namespace AvoCorrelate.MainLedger

open AvoLib

section Contracts
variable (C : Canon)

structure Classification.IsNext (before : StateBody) (c : Classification C) : Prop where
  activation : c.activationDigest = before.activationDigest
  sequence : c.schedulerSequence = before.lastSchedulerSequence + 1

/-- The outcome of this classification; there is none when it excludes. -/
def Classification.Matches (c : Classification C) : Option (Outcome C) → Prop
  | none => c.classification = .excluded
  | some o => c.classification = .eligible ∧ o.activationDigest = c.activationDigest ∧
      o.classificationDigest = c.classificationDigest C ∧ o.schedulerSequence = c.schedulerSequence

structure Violation.IsAbout (before : StateBody) (e : Violation) : Prop where
  activation : e.activationDigest = before.activationDigest
  state : e.currentStateDigest = before.stateDigest C
  sequence : before.lastSchedulerSequence < e.expectedSchedulerSequence

/-- The digests in it are those of the records in it. -/
structure TransitionBody.Bound (t : TransitionBody) : Prop where
  activation : t.activationDigest = t.priorState.activationDigest
  prior : t.priorStateDigest = t.priorState.stateDigest C
  outcome : t.outcomeDigest = t.outcome.map (·.outcomeDigest C)
  resulting : t.resultingStateDigest = t.resultingState.stateDigest C

structure ResetBody.Bound (r : ResetBody) : Prop where
  activation : r.activationDigest = r.priorState.activationDigest
  prior : r.priorStateDigest = r.priorState.stateDigest C
  resulting : r.resultingStateDigest = r.resultingState.stateDigest C

/-- The contract of the transition accepts what `nextState` computes, and nothing else. -/
def TransitionAgrees (before : StateBody) : Prop :=
  ∀ (c : Classification C) (o : Option (Outcome C)), c.IsNext C before → c.Matches C o →
    ∀ t : TransitionBody, t.priorState = before → t.classification = c.toClassificationBody →
      t.outcome = o.map (·.toOutcomeBody) →
      (t.Valid C ↔ t.Bound C ∧ (nextState before c.classification o).Returns t.resultingState ∧
        t.resetApplied = o.any fun o => o.outcome ≠ .success)

/-- The contract of the reset accepts what `boundaryState` computes, and nothing else. -/
def ResetAgrees (before : StateBody) : Prop :=
  ∀ e : Violation, e.IsAbout C before → ∀ r : ResetBody, r.priorState = before → r.violation = e.toViolationBody →
    (r.Valid C ↔ r.Bound C ∧ (boundaryState (C := C) before).Returns r.resultingState)

/-- The rule and the contracts agree about what may follow this state. -/
structure Coincides (before : StateBody) : Prop where
  transition : before.thresholdComplete = false → TransitionAgrees C before
  reset : before.thresholdComplete = false → ResetAgrees C before
  final : before.thresholdComplete = true → ∀ r : ResetBody, r.priorState = before → ¬ r.Valid C

end Contracts

section Agreement
variable {C : Canon} {before : StateBody}

@[simp] theorem returns_validated {α : Type} {c : Prop} [Decidable c] {f : c → α} {x : α} :
    (validated (C := C) c f).Returns x ↔ ∃ h : c, f h = x := by
  unfold validated
  split
  · next h => simp [h]
  · next h => simp [h]

/-! ## What is computed -/

theorem StateBody.Valid.streak_lt (h : before.Valid) (hopen : before.thresholdComplete = false) : before.streak < 12 := by
  have hne : before.streak ≠ 12 := by simpa [hopen] using h.2.symm
  exact lt_of_le_of_ne h.1 hne

variable {e : Ending} {after : StateBody} {t : TransitionBody}

theorem account_sequence : (account before e).lastSchedulerSequence = before.lastSchedulerSequence + 1 := by
  obtain ⟨_ | _, outcome⟩ := e
  · by_cases ho : outcome = some .success
    · rw [account, if_pos ho]
    · rw [account, if_neg ho]
  · rfl

theorem account_activation : (account before e).activationDigest = before.activationDigest := by
  obtain ⟨_ | _, outcome⟩ := e
  · by_cases ho : outcome = some .success
    · rw [account, if_pos ho]
    · rw [account, if_neg ho]
  · rfl

theorem account_valid (h : before.Valid) (hopen : before.thresholdComplete = false) : (account before e).Valid := by
  have hlt := h.streak_lt hopen
  obtain ⟨eligibility, outcome⟩ := e
  cases eligibility with
  | excluded => exact h
  | eligible =>
    by_cases ho : outcome = some .success
    · simp only [account, if_pos ho]
      exact ⟨hlt, rfl⟩
    · simp only [account, if_neg ho]
      exact ⟨Nat.zero_le _, rfl⟩

theorem nextState_returns {c : Classification C} {o : Option (Outcome C)} (h : before.Valid)
    (hopen : before.thresholdComplete = false) (hc : c.Matches C o) :
    (nextState before c.classification o).Returns after ↔
      account before (c.classification, o.map (·.outcome)) = after := by
  have hvalid := account_valid (e := (c.classification, o.map (·.outcome))) h hopen
  cases o with
  | none =>
    have hexcluded : c.classification = .excluded := hc
    rw [hexcluded] at hvalid ⊢
    simp only [nextState, Check.returns_bind, Check.returns_pure, returns_validated]
    constructor
    · rintro ⟨_, rfl, _, rfl⟩; rfl
    · rintro rfl; exact ⟨_, rfl, hvalid, rfl⟩
  | some o =>
    have heligible : c.classification = .eligible := hc.1
    rw [heligible] at hvalid ⊢
    simp only [nextState, Check.returns_bind, Check.returns_orRaise, Check.returns_pure, returns_validated,
      Option.some.injEq, exists_eq_left', decide_eq_true_eq]
    have hsame : { before with
        lastSchedulerSequence := before.lastSchedulerSequence + 1
        streak := if o.outcome = .success then before.streak + 1 else 0
        successes := if o.outcome = .success then before.successes + 1 else before.successes
        failures := if o.outcome = .success then before.failures else before.failures + 1
        thresholdComplete := decide (o.outcome = .success) && decide (before.streak + 1 = 12) } =
        account before (.eligible, some o.outcome) := by
      by_cases ho : o.outcome = .success
      · simp [account, ho]
      · simp [account, ho]
    rw [hsame]
    exact ⟨fun ⟨_, heq⟩ => heq, fun heq => ⟨hvalid, heq⟩⟩

/-- The state that a boundary reset leads to. -/
def StateBody.cleared (s : StateBody) : StateBody :=
  { s with streak := 0, boundaryViolations := s.boundaryViolations + 1, thresholdComplete := false }

theorem boundaryState_returns :
    (boundaryState (C := C) before).Returns after ↔ before.thresholdComplete = false ∧ before.cleared = after := by
  simp only [boundaryState, Check.returns_bind, Check.returns_require, returns_validated, exists_const]
  exact and_congr_right fun _ => ⟨by rintro ⟨_, h⟩; exact h, fun h => ⟨⟨Nat.zero_le _, rfl⟩, h⟩⟩

/-! ## The transition -/

theorem TransitionBody.Valid.bound (h : t.Valid C) : t.Bound C := by
  refine ⟨h.activation, h.prior, ?_, h.resulting⟩
  have hacc := h.accounted
  unfold TransitionBody.Accounted at hacc
  split at hacc
  · obtain ⟨hnone, hdigest, -⟩ := hacc
    rw [hnone, hdigest]
    rfl
  · obtain ⟨o, ho, hdigest, -⟩ := hacc
    rw [Option.mem_def.mp ho, hdigest]
    rfl

theorem TransitionBody.Valid.resetApplied (h : t.Valid C) :
    t.resetApplied = t.outcome.any fun o => o.outcome ≠ .success := by
  have hacc := h.accounted
  unfold TransitionBody.Accounted at hacc
  split at hacc
  · rw [hacc.1, hacc.2.2.1]
    rfl
  · obtain ⟨o, ho, -, -, -, -, hdelta⟩ := hacc
    rw [Option.mem_def.mp ho]
    unfold validateEligibleDelta at hdelta
    split at hdelta
    · next hsuccess => simp [hdelta.1, hsuccess]
    · next hfailure => simp [hdelta.1, hfailure]

theorem validateEligibleDelta_account {o : LedgerOutcome} (hlt : before.streak < 12) :
    validateEligibleDelta before (account before (.eligible, some o)) o (o ≠ .success) := by
  unfold validateEligibleDelta
  split
  · next hsuccess => simp [account, hsuccess, hlt]
  · next hfailure => simp [account, hfailure]

theorem transitionAgrees (h : before.Valid) (hopen : before.thresholdComplete = false) : TransitionAgrees C before := by
  intro c o hnext hmatch t hbefore hclass houtcome
  rw [nextState_returns h hopen hmatch]
  constructor
  · intro hv
    refine ⟨hv.bound, ?_, ?_⟩
    · rw [hv.account, hbefore, TransitionBody.ending, hclass, houtcome, Option.map_map]
      rfl
    · rw [hv.resetApplied, houtcome, Option.any_map]
  · rintro ⟨hbound, hafter, hreset⟩
    constructor
    · rw [hclass]; exact c.valid
    · intro o' ho'
      rw [houtcome] at ho'
      obtain ⟨o, rfl, rfl⟩ := Option.map_eq_some_iff.mp ho'
      exact o.valid
    · rw [hbefore, ← hafter]; exact ⟨h, account_valid h hopen⟩
    · exact hbound.prior
    · rw [hbefore]; exact hopen
    · exact hbound.activation
    · rw [hclass, hbound.activation, hbefore]; exact hnext.activation
    · rw [hclass, hbefore]; exact hnext.sequence
    · exact hbound.resulting
    · rw [← hafter, account_activation, hbound.activation, hbefore]
    · unfold TransitionBody.Accounted
      have hdigest := hbound.outcome
      rw [houtcome] at hdigest
      cases o with
      | none =>
        have hexcluded : c.classification = .excluded := hmatch
        rw [hclass, hexcluded]
        rw [hexcluded] at hafter
        refine ⟨houtcome, hdigest, hreset, ?_⟩
        rw [← hafter, hbefore]
        exact ⟨rfl, rfl, rfl, rfl, rfl⟩
      | some o =>
        obtain ⟨heligible, hactivation, hclassification, hsequence⟩ := hmatch
        rw [hclass, heligible]
        rw [heligible] at hafter
        refine ⟨o.toOutcomeBody, houtcome, hdigest, ?_, hclassification, hsequence, ?_⟩
        · rw [hactivation, hbound.activation, hbefore]; exact hnext.activation
        · rw [hreset, ← hafter, hbefore]
          exact validateEligibleDelta_account (h.streak_lt hopen)
    · rw [← hafter, account_sequence, hclass]; exact hnext.sequence.symm

/-! ## The reset -/

theorem resetBody_valid_iff {e : Violation} {r : ResetBody} (h : before.Valid) (he : e.IsAbout C before)
    (hbefore : r.priorState = before) (hviolation : r.violation = e.toViolationBody) :
    r.Valid C ↔ r.Bound C ∧ before.cleared = r.resultingState := by
  subst hbefore
  constructor
  · intro hv
    obtain ⟨hact, hseq, hstreak, hsuccesses, hfailures, hboundary, hcomplete⟩ := hv.delta
    refine ⟨⟨hv.activation, hv.prior, hv.resulting⟩, ?_⟩
    rw [hv.activation] at hact
    revert hact hseq hstreak hsuccesses hfailures hboundary hcomplete
    cases r.resultingState
    rintro rfl rfl rfl rfl rfl rfl rfl
    rfl
  · rintro ⟨hbound, hafter⟩
    constructor
    · rw [← hafter]; exact ⟨h, Nat.zero_le _, rfl⟩
    · rw [hviolation]; exact e.valid
    · exact hbound.prior
    · exact hbound.activation
    · rw [hviolation, hbound.activation]; exact he.activation
    · rw [hviolation]; exact he.state
    · rw [hviolation]; exact he.sequence
    · exact hbound.resulting
    · rw [← hafter, hbound.activation]; exact ⟨rfl, rfl, rfl, rfl, rfl, rfl, rfl⟩

theorem resetAgrees (h : before.Valid) (hopen : before.thresholdComplete = false) : ResetAgrees C before := by
  intro e he r hbefore hviolation
  rw [resetBody_valid_iff h he hbefore hviolation, boundaryState_returns]
  simp [hopen]

/-- Evidence about a state. -/
def starvation (C : Canon) (s : StateBody) : ViolationBody where
  activationDigest := s.activationDigest
  controllerAuthority := Sample.authority
  expectedSchedulerSequence := s.lastSchedulerSequence + 1
  currentStateDigest := s.stateDigest C
  violationKind := .starvation
  submissionDigest := none
  operationId := none
  envelopeDigest := none
  contentArtifact := none
  evidenceArtifact := ⟨50, 1, "application/vnd.avo.ledger-boundary-violation+json", "ledger-boundary-violation-evidence", 1⟩
  detectedAt := 1

theorem starvation_valid (C : Canon) (s : StateBody) : (starvation C s).Valid where
  authority := show Sample.authority.Valid by decide
  window := show (0 : Instant) ≤ 1 ∧ (1 : Instant) ≤ 1000 by decide
  sequence := Nat.succ_pos _
  identity := .inl rfl
  content := nofun
  artifact := ⟨rfl, rfl, Nat.one_pos, Int.le_refl _⟩

def starved (C : Canon) (s : StateBody) : ResetBody where
  activationDigest := s.activationDigest
  priorState := s
  priorStateDigest := s.stateDigest C
  violation := starvation C s
  resultingState := s.cleared
  resultingStateDigest := s.cleared.stateDigest C

theorem starved_valid (h : before.Valid) : (starved C before).Valid C :=
  (resetBody_valid_iff (e := ⟨starvation C before, starvation_valid C before⟩) h
    ⟨rfl, rfl, Nat.lt_succ_self _⟩ rfl rfl).mpr ⟨⟨rfl, rfl, rfl⟩, rfl⟩

/-! ## Before and after the threshold -/

/-- The rule and the contracts agree up to the threshold, and not after it. -/
theorem coincides_iff (h : before.Valid) : Coincides C before ↔ before.thresholdComplete = false := by
  constructor
  · intro hco
    by_contra hcomplete
    exact hco.final ((Bool.not_eq_false _).mp hcomplete) (starved C before) rfl (starved_valid h)
  · intro hopen
    refine ⟨fun _ => transitionAgrees h hopen, fun _ => resetAgrees h hopen, fun hcomplete => ?_⟩
    rw [hopen] at hcomplete
    cases hcomplete

end Agreement

theorem coincides_genesis : Coincides Sample.canon (mainLedgerGenesisState 4 7) :=
  (coincides_iff ⟨by decide, by decide⟩).mpr rfl

/-- Twelve successes in a row can be reset. -/
theorem complete_not_coincides : ¬ Coincides Sample.canon
    { mainLedgerGenesisState 4 7 with
      lastSchedulerSequence := 19, streak := 12, successes := 12, thresholdComplete := true } := by
  intro h
  exact h.final rfl (starved Sample.canon _) rfl (starved_valid ⟨by decide, by decide⟩)

end AvoCorrelate.MainLedger
