import AvoCorrelate.Contracts
import AvoCorrelate.Lib.Transactions
/-!
# Domain rules

The closed transition tables, the pure budget arithmetic and the admissibility
rule. Each fallible function has one lemma saying when it succeeds and with
what; the services cite those.
-/
open AvoLib

namespace AvoCorrelate

/-! ## Exceptions -/

/-- The exception classes the services raise. -/
inductive ErrKind
  | lookup | notFound | value | type | validation | integrity | invalidTransition
  | revisionConflict | duplicateExperiment | reservationConflict | budgetExceeded
  | activityConflict | runtimeConflict | terminalBudgetConflict | sessionConflict
  | evidenceConflict | invalidAdmission | reviewAuthorization | reviewConflict
  | artifactMetadataConflict
  deriving DecidableEq

structure Err where
  kind : ErrKind
  message : String
  deriving DecidableEq

/-! ## Transition tables -/

def runTransitions : RunState → List RunState
  | .created => [.validating, .cancelled]
  | .validating => [.ready, .failed, .cancelled]
  | .ready => [.running, .cancelled]
  | .running => [.pausing, .cancelling, .blockedReview, .blockedReconciliation, .completed, .failed]
  | .pausing => [.paused, .cancelling, .blockedReconciliation, .failed]
  | .paused => [.ready, .cancelled]
  | .cancelling => [.cancelled, .blockedReconciliation, .failed]
  | .blockedReview => [.running, .cancelling, .failed]
  | .blockedReconciliation => [.ready, .running, .paused, .cancelled, .failed]
  | .completed => []
  | .cancelled => []
  | .failed => []

def sessionTransitions : VariationSessionState → List VariationSessionState
  | .queued => [.running, .cancelled]
  | .running => [.proposalReady, .exhausted, .policyBlocked, .reconciliationRequired, .cancelled, .failed]
  | .proposalReady => []
  | .exhausted => []
  | .policyBlocked => []
  | .reconciliationRequired => [.running, .cancelled, .failed]
  | .cancelled => []
  | .failed => []

def candidateTransitions : CandidateState → List CandidateState
  | .staged => [.evaluating, .policyBlocked, .cancelled]
  | .evaluating => [.rejected, .quarantined, .reviewRequired, .admitted]
  | .reviewRequired => [.admitted, .rejected, .cancelled]
  | .admitted => []
  | .rejected => []
  | .quarantined => []
  | .policyBlocked => []
  | .cancelled => []

/-- `require_transition` on one of the closed tables. -/
def requireTransition {σ : Type} [DecidableEq σ] (table : σ → List σ) (name : String) (value : σ → String)
    (current target : σ) : Except Err Unit :=
  require (target ∈ table current)
    ⟨.invalidTransition, "transition " ++ name ++ ":" ++ value current ++ "->" ++ value target ++ " is not allowed"⟩

def requireRunTransition : RunState → RunState → Except Err Unit :=
  requireTransition runTransitions "RunState" RunState.value

def requireSessionTransition : VariationSessionState → VariationSessionState → Except Err Unit :=
  requireTransition sessionTransitions "VariationSessionState" VariationSessionState.value

def requireCandidateTransition : CandidateState → CandidateState → Except Err Unit :=
  requireTransition candidateTransitions "CandidateState" CandidateState.value

@[simp] theorem requireRunTransition_ok {c t : RunState} {u : Unit} :
    requireRunTransition c t = .ok u ↔ t ∈ runTransitions c := require_ok

@[simp] theorem requireSessionTransition_ok {c t : VariationSessionState} {u : Unit} :
    requireSessionTransition c t = .ok u ↔ t ∈ sessionTransitions c := require_ok

@[simp] theorem requireCandidateTransition_ok {c t : CandidateState} {u : Unit} :
    requireCandidateTransition c t = .ok u ↔ t ∈ candidateTransitions c := require_ok

theorem failed_final {t : RunState} : t ∉ runTransitions .failed := by simp [runTransitions]

/-! ## Budget arithmetic -/

def exceededDimensions (projected : UsageRecord) (limit : BudgetSpec) : List Dimension :=
  Dimension.all.filter fun d => projected.get d > limit.get d

def reserveUsage (limit : BudgetSpec) (used alreadyReserved requested : UsageRecord) : Except Err UsageRecord := do
  let projected := (used.plus alreadyReserved).plus requested
  require (projected.fitsWithin limit)
    ⟨.budgetExceeded, "budget exceeded: " ++
      String.intercalate ", " ((exceededDimensions projected limit).map Dimension.name)⟩
  return alreadyReserved.plus requested

/-- The differences are taken on integers and a negative one raises, so past
the check they are the natural-number differences. -/
def reconcileUsage (used alreadyReserved estimated actual : UsageRecord) : Except Err (UsageRecord × UsageRecord) := do
  let values : Dimension → Int := fun d => (alreadyReserved.get d : Int) - estimated.get d
  require (Dimension.all.all fun d => 0 ≤ values d) ⟨.value, "reservation underflow"⟩
  return (used.plus actual, UsageRecord.ofValues fun d => (values d).toNat)

theorem reserveUsage_ok {limit : BudgetSpec} {used reserved requested r : UsageRecord}
    (h : reserveUsage limit used reserved requested = .ok r) :
    r = reserved.plus requested ∧ ∀ d, used.get d + r.get d ≤ limit.get d := by
  simp only [reserveUsage, bind_ok, require_ok, pure_ok, exists_const, UsageRecord.fitsWithin_iff] at h
  obtain ⟨hfit, rfl⟩ := h
  refine ⟨rfl, fun d => ?_⟩
  have := hfit d
  simp only [UsageRecord.get_plus] at this ⊢
  omega

theorem reconcileUsage_ok {used reserved estimated actual used' reserved' : UsageRecord}
    (h : reconcileUsage used reserved estimated actual = .ok (used', reserved')) :
    used' = used.plus actual ∧ ∀ d, reserved'.get d + estimated.get d = reserved.get d := by
  simp only [reconcileUsage, bind_ok, require_ok, pure_ok, exists_const, Prod.mk.injEq] at h
  obtain ⟨hpos, rfl, rfl⟩ := h
  refine ⟨rfl, fun d => ?_⟩
  have := List.all_eq_true.1 hpos d (Dimension.mem_all d)
  simp only [decide_eq_true_eq] at this
  simp only [UsageRecord.get_ofValues]
  omega

/-! ## Admission -/

def evaluationIsAdmissible (record : EvaluationRecord) : Bool :=
  let hardConstraints := record.constraints.filter fun item => item.severity = .hard
  record.evaluatorTier = .admission && record.outcome = .passed && !record.trialRecords.isEmpty &&
    !hardConstraints.isEmpty && hardConstraints.all (·.passed)

end AvoCorrelate
