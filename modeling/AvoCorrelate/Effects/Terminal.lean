import AvoCorrelate.Services.Terminal
/-!
# What a committed terminal settlement leaves behind
-/
open AvoLib

namespace AvoCorrelate

namespace TerminalBudgetService
open Db

def BlocksCandidate (t : Table CandidateRow.candidateId) (c : CandidateRow) (t' : Table CandidateRow.candidateId) : Prop :=
  (c.state = .lifecycle .staged ∧ t.Sets { c with state := .lifecycle .policyBlocked } t') ∨
    (c.state = .lifecycle .policyBlocked ∧ t' = t)

/-- What cancelling an evaluation does to its reservation, and to what stays reserved. -/
inductive ReleasesEvaluation (t : Table BudgetReservationRow.reservationId) (reserved : UsageRecord) :
    Option BudgetReservationRow → Table BudgetReservationRow.reservationId → UsageRecord → Prop
  | missing : ReleasesEvaluation t reserved none t reserved
  | before {e : BudgetReservationRow} (h : e.state = .released) : ReleasesEvaluation t reserved (some e) t reserved
  | now {e : BudgetReservationRow} {t' : Table BudgetReservationRow.reservationId} {used remaining : UsageRecord}
    (hact : e.state.active = true) (hrec : reconcileUsage .zero reserved e.estimated .zero = .ok (used, remaining))
    (hset : t.Sets { e with state := .released, actual := some .zero } t') :
    ReleasesEvaluation t reserved (some e) t' remaining

/-- What the settlement does to the candidate of the session, if there is one. -/
inductive SettlesCandidate (db : Db) (evaluation : Option BudgetReservationRow) (reserved : UsageRecord) :
    Option CandidateRow → Table CandidateRow.candidateId → Table BudgetReservationRow.reservationId → UsageRecord → Prop
  | absent : SettlesCandidate db evaluation reserved none db.candidates db.reservations reserved
  | blocked {c : CandidateRow} {cs : Table CandidateRow.candidateId} {rs : Table BudgetReservationRow.reservationId}
    {remaining : UsageRecord} (hc : BlocksCandidate db.candidates c cs)
    (hr : ReleasesEvaluation db.reservations reserved evaluation rs remaining) :
    SettlesCandidate db evaluation reserved (some c) cs rs remaining

variable {E : Env} {db db' : Db} {runId bundle digest actorId : String} {c : CandidateRow}
  {actual reserved remaining requiredEvaluation : UsageRecord} {limit : BudgetSpec} {exceeded : List Dimension}
  {now : Instant} {evaluation : Option BudgetReservationRow} {candidate : Option CandidateRow} {run : RunRow}
  {r : BudgetReservationRow} {ids : EventIds}

theorem recordPolicyDenial_ok (h : recordPolicyDenial E db runId c actual limit exceeded bundle now = .ok db') :
    ∃ ps, db' = { db with policyDecisions := ps } := by
  simp only [recordPolicyDenial] at h
  split at h
  · simp only [bind_ok, require_ok, exists_const, pure_ok] at h
    exact ⟨db.policyDecisions, h.2.symm⟩
  · simp only [insertPolicyDecision, bind_ok, insertRow_ok, pure_ok] at h
    obtain ⟨ps, -, rfl⟩ := h
    exact ⟨ps, rfl⟩

theorem blockCandidate_ok (h : blockCandidate db c = .ok db') (hc : db.candidates.get? c.candidateId = some c) :
    ∃ cs, db' = { db with candidates := cs } ∧ BlocksCandidate db.candidates c cs := by
  unfold blockCandidate at h
  split at h
  · next hs =>
    simp only [bind_ok, requireCandidateTransition_ok, exists_const, pure_ok] at h
    obtain ⟨-, rfl⟩ := h
    exact ⟨_, rfl, .inl ⟨hs, sets_setCandidateState hc⟩⟩
  · simp only [bind_ok, require_ok, exists_const, pure_ok] at h
    obtain ⟨hs, rfl⟩ := h
    exact ⟨_, rfl, .inr ⟨hs, rfl⟩⟩

theorem cancelEvaluation_ok (h : cancelEvaluation db c evaluation reserved = .ok (db', remaining))
    (he : ∀ e ∈ evaluation, db.reservations.get? e.reservationId = some e) :
    ∃ acts rs, db' = { db with activities := acts, reservations := rs } ∧
      ReleasesEvaluation db.reservations reserved evaluation rs remaining := by
  simp only [cancelEvaluation, bind_ok] at h
  obtain ⟨db₁, hcancel, hrelease⟩ := h
  obtain ⟨acts, rfl⟩ : ∃ acts, db₁ = { db with activities := acts } := by
    unfold cancelActivity at hcancel
    split at hcancel
    · cases hcancel; exact ⟨db.activities, rfl⟩
    · simp only [bind_ok, require_ok, exists_const, pure_ok] at hcancel
      obtain ⟨-, -, -, rfl⟩ := hcancel
      exact ⟨_, rfl⟩
  unfold releaseEvaluation at hrelease
  split at hrelease
  · cases hrelease; exact ⟨acts, db.reservations, rfl, .missing⟩
  · next e =>
    split at hrelease
    · next hs => cases hrelease; exact ⟨acts, db.reservations, rfl, .before hs⟩
    · simp only [bind_ok, require_ok, exists_const, Prod.exists, pure_ok, Prod.mk.injEq] at hrelease
      obtain ⟨hact, used, remaining', hrec, rfl, rfl⟩ := hrelease
      exact ⟨acts, _, rfl, .now hact hrec (sets_updateReservation (by intro; rfl) (he e rfl))⟩

theorem settleCandidate_ok
    (h : settleCandidate E db runId candidate evaluation actual reserved limit exceeded bundle now =
      .ok (db', remaining)) (hc : ∀ c ∈ candidate, db.candidates.get? c.candidateId = some c)
    (he : ∀ e ∈ evaluation, db.reservations.get? e.reservationId = some e) : ∃ cs ps acts rs,
      db' = { db with candidates := cs, policyDecisions := ps, activities := acts, reservations := rs } ∧
      SettlesCandidate db evaluation reserved candidate cs rs remaining := by
  unfold settleCandidate at h
  split at h
  · cases h; exact ⟨_, _, _, _, rfl, .absent⟩
  · next c =>
    simp only [bind_ok, Prod.exists, pure_ok, Prod.mk.injEq] at h
    obtain ⟨_, hblock, _, _, hcancel, _, hdenial, rfl, rfl⟩ := h
    obtain ⟨cs, rfl, hcs⟩ := blockCandidate_ok hblock (hc c rfl)
    obtain ⟨acts, rs, rfl, hrs⟩ := cancelEvaluation_ok hcancel he
    obtain ⟨ps, rfl⟩ := recordPolicyDenial_ok hdenial
    exact ⟨cs, ps, acts, rs, rfl, .blocked hcs hrs⟩

theorem failRun_ok (h : failRun db run = .ok db') (hr : db.runs.get? run.runId = some run) :
    ∃ ns, db' = { db with runs := ns } ∧ db.runs.Sets { run with state := .failed } ns ∧
      (run.state = .failed ∨ .failed ∈ runTransitions run.state) := by
  unfold failRun at h
  split at h
  · next hs =>
    cases h
    have he : { run with state := .failed } = run := by rw [← hs]
    exact ⟨db.runs, rfl, by rw [he]; exact Table.sets_self hr, .inl hs⟩
  · simp only [bind_ok, requireRunTransition_ok, exists_const, pure_ok] at h
    obtain ⟨ht, rfl⟩ := h
    exact ⟨_, rfl, sets_setRunState hr, .inr ht⟩

theorem ReleasesEvaluation.get? {t t' : Table BudgetReservationRow.reservationId}
    (h : ReleasesEvaluation t reserved evaluation t' remaining) (he : ∀ e ∈ evaluation, t.get? e.reservationId = some e)
    (hr : t.get? r.reservationId = some r) :
    ∃ s a, t'.get? r.reservationId = some { r with state := s, actual := a } := by
  cases h with
  | missing | before h => exact ⟨r.state, r.actual, hr⟩
  | @now e _ _ _ hact hrec hset =>
    by_cases hk : r.reservationId = e.reservationId
    · have : r = e := Option.some.inj (hr.symm.trans (hk ▸ he e rfl))
      subst this
      exact ⟨_, _, hset.get?_self⟩
    · exact ⟨r.state, r.actual, (hset.get?_ne hk).trans hr⟩

theorem SettlesCandidate.get? {cs : Table CandidateRow.candidateId} {rs : Table BudgetReservationRow.reservationId}
    (h : SettlesCandidate db evaluation reserved candidate cs rs remaining)
    (he : ∀ e ∈ evaluation, db.reservations.get? e.reservationId = some e)
    (hr : db.reservations.get? r.reservationId = some r) :
    ∃ s a, rs.get? r.reservationId = some { r with state := s, actual := a } := by
  cases h with
  | absent => exact ⟨_, _, hr⟩
  | blocked _ hrel => exact hrel.get? he hr

theorem resolvedCase_reconciliationId (now : Instant) (c : ReconciliationCaseRow) :
    (resolvedCase now c).reconciliationId = c.reconciliationId := rfl

/-- What the first settlement of a reservation leaves behind. -/
def Settles (db : Db) (run : RunRow) (activity : ActivityRow) (reservation : BudgetReservationRow)
    (ledger : BudgetLedgerRow) (actual requiredEvaluation : UsageRecord) (now : Instant) (db' : Db) : Prop :=
  ∃ used reserved remaining cs ps acts rs₁ rs ls ns es os,
    let candidate := (sessionCandidates db run.runId activity.sessionId).head?
    let evaluation := evaluationReservation db run.runId candidate
    db' = { db with candidates := cs, policyDecisions := ps, activities := acts, reservations := rs, ledgers := ls,
                    cases := db.cases.modifyAll (isOpenCase run.runId activity.activityId) (resolvedCase now)
                      (resolvedCase_reconciliationId now),
                    runs := ns, events := es, outbox := os } ∧
    reservation.state.active = true ∧
    reconcileUsage ledger.used ledger.reserved reservation.estimated actual = .ok (used, reserved) ∧
    ((used.plus reserved).plus (unreservedEvaluation candidate evaluation requiredEvaluation)).fitsWithin ledger.limit =
      false ∧
    (run.state = .failed ∨ .failed ∈ runTransitions run.state) ∧
    SettlesCandidate db evaluation reserved candidate cs rs₁ remaining ∧
    rs₁.Sets { reservation with state := .exceeded, actual := some actual } rs ∧
    db.ledgers.Sets { ledger with used := used, reserved := remaining, revision := ledger.revision + 1 } ls ∧
    db.Logs (bump run { run with state := .failed }) db'

theorem mem_evaluationReservation {e : BudgetReservationRow} (h : e ∈ evaluationReservation db runId candidate) :
    ∃ c, candidate = some c ∧ db.reservations.get? e.reservationId = some e ∧ e.runId = runId ∧
      e.activityKey = evaluationKey c.candidateId := by
  cases candidate with
  | none => cases h
  | some c =>
    have hf : db.reservations.find? (fun r => r.runId = runId ∧ r.activityKey = evaluationKey c.candidateId) = some e := h
    have := Table.find?_holds hf
    simp only [decide_eq_true_eq] at this
    exact ⟨c, rfl, Table.get?_of_mem (Table.find?_mem hf), this.1, this.2⟩

theorem mem_sessionCandidates {sessionId : Option String} (h : c ∈ (sessionCandidates db runId sessionId).head?) :
    db.candidates.get? c.candidateId = some c := by
  have := List.mem_of_mem_head? h
  exact Table.get?_of_mem (List.mem_filter.1 this).1

theorem settle_ok {activity : ActivityRow} {reservation : BudgetReservationRow} {ledger : BudgetLedgerRow}
    (h : settle E db run activity reservation ledger digest actual requiredEvaluation bundle actorId now ids = .ok db')
    (hr : db.runs.get? run.runId = some run) (hres : db.reservations.get? reservation.reservationId = some reservation)
    (hl : db.ledgers.get? run.runId = some ledger) :
    Settles db run activity reservation ledger actual requiredEvaluation now db' := by
  simp only [settle, bind_ok, require_ok, exists_const, Prod.exists] at h
  obtain ⟨hact, used, reserved, hrec, -, hfit, db₁, remaining, hcand, db₂, hfail, hev⟩ := h
  obtain ⟨cs, ps, acts, rs₁, rfl, hsettle⟩ := settleCandidate_ok hcand (fun c hc => mem_sessionCandidates hc)
    (fun e he => (mem_evaluationReservation he).choose_spec.2.1)
  obtain ⟨ns, rfl, hns, hok⟩ := failRun_ok hfail hr
  obtain ⟨ns', es, os, rfl, hlog⟩ := appendNextEvent_ok hev (r := { run with state := .failed }) hns.get?_self
  have hset : rs₁.Sets { reservation with state := .exceeded, actual := some actual }
      (rs₁.modify reservation.reservationId (fun r => { r with state := .exceeded, actual := some actual })
        (fun _ => rfl)) := by
    obtain ⟨s, a, hget⟩ := hsettle.get? (fun e he => (mem_evaluationReservation he).choose_spec.2.1) hres
    have := Table.sets_modify (fun r : BudgetReservationRow => { r with state := .exceeded, actual := some actual })
      (fun _ => rfl) hget
    exact this
  exact ⟨used, reserved, remaining, cs, ps, _, rs₁, _, _, ns', es, os, rfl, hact, hrec, hfit, hok, hsettle, hset,
    sets_updateLedger (by intro; rfl) hl, hns.trans hlog.1 rfl, hlog.2⟩

/-- What a committed settlement found: the rows it names, of one run. -/
structure Context (db : Db) (runId activityId reservationId : String) (run : RunRow) (activity : ActivityRow)
    (reservation : BudgetReservationRow) (ledger : BudgetLedgerRow) : Prop where
  run_row : db.runs.get? runId = some run
  activity_row : db.activities.get? activityId = some activity
  reservation_row : db.reservations.get? reservationId = some reservation
  ledger_row : db.ledgers.get? runId = some ledger
  activity_run : activity.runId = runId
  reservation_run : reservation.runId = runId
  activity_reservation : activity.budgetReservationId = some reservationId

theorem settleExhaustedVariation_ok {activityId reservationId : String} {epoch : Option Nat}
    (h : settleExhaustedVariation E db runId activityId reservationId digest actual requiredEvaluation bundle actorId
      epoch now ids = .ok db') : ∃ run activity reservation ledger,
      Context db runId activityId reservationId run activity reservation ledger ∧
      (db' = db ∨
        (reservation.state = .exceeded ∧ run.state = .failed ∧ ∃ ns es os,
          db' = { db with cases := db.cases.modifyAll (isOpenCase runId activityId) (resolvedCase now) (fun _ => rfl),
                          runs := ns, events := es, outbox := os } ∧ db.Logs (bump run run) db') ∨
        (reservation.state ≠ .exceeded ∧
          Settles db run activity reservation ledger actual requiredEvaluation now db')) := by
  simp only [settleExhaustedVariation, bind_ok, orRaise_ok, require_ok, exists_const] at h
  obtain ⟨run, hrun, activity, hact, reservation, hres, ledger, hl, ⟨hactrun, hresrun⟩, hactres, -, -, -, h⟩ := h
  have hk := Table.get?_key hrun
  have hka := Table.get?_key hact
  have hkr := Table.get?_key hres
  refine ⟨run, activity, reservation, ledger, ⟨hrun, hact, hres, hl, hactrun, hresrun, hactres⟩, ?_⟩
  subst hk
  split at h
  · next hs =>
    simp only [replay, bind_ok, orRaise_ok, require_ok, exists_const] at h
    obtain ⟨prior, -, -, ⟨hfailed, -⟩, h⟩ := h
    split at h
    · obtain ⟨ns, es, os, rfl, hlog⟩ := appendNextEvent_ok h (r := run) hrun
      rw [← hka]
      exact .inr (.inl ⟨hs, hfailed, ns, es, os, rfl, hlog⟩)
    · exact .inl (pure_ok.1 h).symm
  · next hs => exact .inr (.inr ⟨hs, settle_ok h hrun (by rw [hkr]; exact hres) hl⟩)

end TerminalBudgetService

end AvoCorrelate
