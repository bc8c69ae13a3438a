import AvoCorrelate.Lib.Streaks
import AvoCorrelate.MainLedger.Contracts
import Mathlib.Data.List.Perm.Basic
import Mathlib.Data.List.Nodup
/-!
# Accounting

The counters of the ledger are a fold: `account` says what one classified submission
does to them. Every valid transition makes this one step, so a package whose
transitions are chained ends in the fold of its history, and one that is complete has
twelve successes in a row at its end, for the first time.
-/
namespace AvoCorrelate.MainLedger

open AvoLib

/-! ## The rule -/

/-- How a submission ended: excluded, or with the outcome it has. -/
abbrev Ending := Eligibility × Option LedgerOutcome

/-- What the ending of the next submission does to the accumulator. -/
def account (s : StateBody) : Ending → StateBody
  | (.excluded, _) => { s with lastSchedulerSequence := s.lastSchedulerSequence + 1 }
  | (.eligible, o) =>
    if o = some .success then
      { s with
        lastSchedulerSequence := s.lastSchedulerSequence + 1
        streak := s.streak + 1
        successes := s.successes + 1
        thresholdComplete := decide (s.streak + 1 = 12) }
    else
      { s with
        lastSchedulerSequence := s.lastSchedulerSequence + 1
        streak := 0
        failures := s.failures + 1
        thresholdComplete := false }

def eligibleOutcomes (history : List Ending) : List LedgerOutcome :=
  history.filterMap fun e => if e.1 = .eligible then e.2 else none

/-- Every eligible submission has an outcome. -/
def Resolved (history : List Ending) : Prop := ∀ e ∈ history, e.1 = .eligible → e.2.isSome

structure Counts (start : StateBody) (history : List Ending) (s : StateBody) : Prop where
  activation : s.activationDigest = start.activationDigest
  sequence : s.lastSchedulerSequence = start.lastSchedulerSequence + history.length
  streak : s.streak = AvoLib.streak (· = LedgerOutcome.success) (eligibleOutcomes history)
  successes : s.successes = (eligibleOutcomes history).countP (· = .success)
  failures : s.failures = (eligibleOutcomes history).countP (· ≠ .success)
  boundary : s.boundaryViolations = start.boundaryViolations

theorem Counts.account {start s : StateBody} {history : List Ending} {e : Ending} (h : Counts start history s)
    (he : e.1 = .eligible → e.2.isSome) : Counts start (history ++ [e]) (MainLedger.account s e) := by
  obtain ⟨eligibility, outcome⟩ := e
  cases eligibility with
  | excluded =>
    have hsame : eligibleOutcomes (history ++ [(.excluded, outcome)]) = eligibleOutcomes history := by
      simp [eligibleOutcomes]
    constructor
    · exact h.activation
    · simp only [MainLedger.account, h.sequence, List.length_append, List.length_singleton]
      omega
    · rw [hsame]; exact h.streak
    · rw [hsame]; exact h.successes
    · rw [hsame]; exact h.failures
    · exact h.boundary
  | eligible =>
    obtain ⟨o, rfl⟩ := Option.isSome_iff_exists.mp (he rfl)
    have hmore : eligibleOutcomes (history ++ [(.eligible, some o)]) = eligibleOutcomes history ++ [o] := by
      simp [eligibleOutcomes]
    by_cases ho : o = .success
    · subst ho
      constructor
      · exact h.activation
      · simp only [MainLedger.account, if_true, h.sequence, List.length_append, List.length_singleton]
        omega
      · rw [hmore, streak_concat]; simp [MainLedger.account, h.streak]
      · rw [hmore]; simp [MainLedger.account, h.successes]
      · rw [hmore]; simp [MainLedger.account, h.failures]
      · exact h.boundary
    · have hne : some o ≠ some LedgerOutcome.success := fun heq => ho (Option.some.inj heq)
      simp only [MainLedger.account, if_neg hne]
      constructor
      · exact h.activation
      · simp only [h.sequence, List.length_append, List.length_singleton]
        omega
      · rw [hmore, streak_concat, if_neg ho]
      · rw [hmore]; simp [h.successes, ho]
      · rw [hmore]; simp [h.failures, ho]
      · exact h.boundary

theorem counts_foldl {start : StateBody} {history : List Ending} (hstart : start.streak = 0 ∧ start.successes = 0 ∧ start.failures = 0)
    (h : Resolved history) : Counts start history (history.foldl account start) := by
  induction history using List.reverseRecOn with
  | nil => exact ⟨rfl, rfl, hstart.1, hstart.2.1, hstart.2.2, rfl⟩
  | append_singleton history e ih =>
    rw [List.foldl_append]
    exact (ih fun e' he' => h e' (List.mem_append_left _ he')).account (h e (by simp))

/-! ## Transitions -/

def TransitionBody.ending (t : TransitionBody) : Ending := (t.classification.classification, t.outcome.map (·.outcome))

section Package
variable {C : Canon}

theorem TransitionBody.Valid.account {t : TransitionBody} (h : t.Valid C) :
    t.resultingState = MainLedger.account t.priorState t.ending := by
  have hseq : t.resultingState.lastSchedulerSequence = t.priorState.lastSchedulerSequence + 1 :=
    h.resultingSequence.trans h.sequence
  have hact : t.resultingState.activationDigest = t.priorState.activationDigest :=
    h.resultingActivation.trans h.activation
  have hcomplete := h.states.2.2
  have hacc := h.accounted
  unfold TransitionBody.Accounted at hacc
  unfold TransitionBody.ending
  cases hc : t.classification.classification with
  | excluded =>
    rw [hc] at hacc
    obtain ⟨-, -, -, hstreak, hsucc, hfail, hbound, hthr⟩ := hacc
    revert hseq hact hstreak hsucc hfail hbound hthr
    cases t.resultingState
    simp only [MainLedger.account]
    rintro rfl rfl rfl rfl rfl rfl rfl
    rfl
  | eligible =>
    rw [hc] at hacc
    obtain ⟨o, ho, -, -, -, -, hdelta⟩ := hacc
    rw [Option.mem_def.mp ho]
    unfold validateEligibleDelta at hdelta
    split at hdelta
    · next hsuccess =>
      obtain ⟨-, -, hstreak, hsucc, hfail, hbound⟩ := hdelta
      rw [hstreak] at hcomplete
      revert hseq hact hstreak hsucc hfail hbound hcomplete
      cases t.resultingState
      simp only [MainLedger.account, Option.map_some, hsuccess, if_true]
      rintro rfl rfl rfl rfl rfl rfl rfl
      rfl
    · next hsuccess =>
      obtain ⟨-, hstreak, hfail, hsucc, hbound⟩ := hdelta
      rw [hstreak] at hcomplete
      have hne : some o.outcome ≠ some LedgerOutcome.success := fun heq => hsuccess (Option.some.inj heq)
      revert hseq hact hstreak hsucc hfail hbound hcomplete
      cases t.resultingState
      simp only [MainLedger.account, Option.map_some, if_neg hne]
      rintro rfl rfl rfl rfl rfl rfl rfl
      rfl

theorem TransitionBody.Valid.resolved {t : TransitionBody} (h : t.Valid C) (he : t.ending.1 = .eligible) :
    t.ending.2.isSome := by
  have hacc := h.accounted
  unfold TransitionBody.Accounted at hacc
  rw [show t.classification.classification = .eligible from he] at hacc
  obtain ⟨o, ho, -⟩ := hacc
  simp [TransitionBody.ending, Option.mem_def.mp ho]

end Package

end AvoCorrelate.MainLedger
