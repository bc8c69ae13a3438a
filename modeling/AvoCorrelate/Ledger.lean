import AvoCorrelate.Journal
/-!
# The budget ledger

`LedgerChange` says once what a committed call can do to the ledgers and the
reservations. Two conservation laws and the hard cap are derived from it.

`RuntimeService.resolve_reconciliation` sets the state of the reservation a case
names without looking at it, although `open_reconciliation` refuses one that is
not active or belongs to another run; and a settlement releases the candidate's
evaluation reservation without asking whether it is the one being settled. The
conservation laws hold as long as these two steps meet the reservations they
expect (`budgetSafe`), the cap as long as a case names a reservation of its own
run (`ownReservation`).
-/
open AvoLib

namespace AvoCorrelate

open TerminalBudgetService (ReleasesEvaluation SettlesCandidate evaluationReservation sessionCandidates)

def namedReservation (db : Db) (row : ReconciliationCaseRow) : Option BudgetReservationRow :=
  row.record.budgetReservationId.bind db.reservations.get?

/-- Resolving a case for retry finds its reservation active, cancelling or
failing it finds it active and of the case's own run; a settlement does not
settle the evaluation reservation of the candidate it blocks. -/
def budgetSafe (db : Db) : Op → Bool
  | .resolveReconciliation id resolution _ _ _ _ _ =>
    (db.cases.get? id).all fun row => row.record.state = .resolved || (namedReservation db row).all fun r =>
      match resolution with
      | .retry => r.state.active
      | .acceptResult => true
      | .cancel | .fail => r.state.active && r.runId = row.record.runId
  | .settleExhaustedVariation runId activityId reservationId _ _ _ _ _ _ _ _ =>
    (db.activities.get? activityId).all fun a =>
      (evaluationReservation db runId (sessionCandidates db runId a.sessionId).head?).all fun e =>
        e.reservationId ≠ reservationId
  | _ => true

/-- A case that is resolved names no reservation of another run. -/
def ownReservation (db : Db) : Op → Bool
  | .resolveReconciliation id _ _ _ _ _ _ =>
    (db.cases.get? id).all fun row => row.record.state = .resolved ||
      (namedReservation db row).all fun r => r.runId = row.record.runId
  | _ => true

/-- What a committed call on existing runs can do to ledgers and reservations.
`safe` and `own` are what the call may rely on beside its own checks. -/
inductive LedgerChange (safe own : Prop) (db db' : Db) : Prop
  | untouched (hl : db'.ledgers = db.ledgers) (hr : db'.reservations = db.reservations)
  | reserved {ledger : BudgetLedgerRow} {r : BudgetReservationRow} {reserved : UsageRecord}
    (hs : r.state = .reserved) (hrun : (db.runs.get? r.runId).isSome = true)
    (hl : db.ledgers.get? r.runId = some ledger)
    (hres : reserveUsage ledger.limit ledger.used ledger.reserved r.estimated = .ok reserved)
    (hr : db.reservations.insert? r = some db'.reservations)
    (hls : db.ledgers.Sets { ledger with reserved := reserved, revision := ledger.revision + 1 } db'.ledgers)
  | touched {r : BudgetReservationRow} {s : ReservationState} {a : Option UsageRecord}
    (hr : db.reservations.get? r.reservationId = some r) (hact : r.state.active = true) (hact' : s.active = true)
    (hset : db.reservations.Sets { r with state := s, actual := a } db'.reservations) (hl : db'.ledgers = db.ledgers)
  | reopened {r : BudgetReservationRow} (hr : db.reservations.get? r.reservationId = some r)
    (hsafe : safe → r.state.active = true) (hown : own → ∃ run, db.runs.get? r.runId = some run ∧ run.state ≠ .failed)
    (hset : db.reservations.Sets { r with state := .reserved } db'.reservations) (hl : db'.ledgers = db.ledgers)
  | charged {r : BudgetReservationRow} {ledger : BudgetLedgerRow} {actual used reserved : UsageRecord}
    (hr : db.reservations.get? r.reservationId = some r) (hact : r.state.active = true)
    (hl : db.ledgers.get? r.runId = some ledger)
    (hrec : reconcileUsage ledger.used ledger.reserved r.estimated actual = .ok (used, reserved))
    (hfit : (used.plus reserved).fitsWithin ledger.limit = true)
    (hset : db.reservations.Sets { r with state := .completed, actual := some actual } db'.reservations)
    (hls : db.ledgers.Sets { ledger with used := used, reserved := reserved, revision := ledger.revision + 1 }
      db'.ledgers)
  | released {r : BudgetReservationRow} {ledger : BudgetLedgerRow} {used remaining : UsageRecord}
    (hr : db.reservations.get? r.reservationId = some r)
    (hsafe : safe → r.state.active = true ∧ r.runId = ledger.runId)
    (hown : own → r.state.active = true ∨ ∃ run, db.runs.get? r.runId = some run ∧ run.state ≠ .failed)
    (hl : db.ledgers.get? ledger.runId = some ledger)
    (hrec : reconcileUsage ledger.used ledger.reserved r.estimated .zero = .ok (used, remaining))
    (hset : db.reservations.Sets { r with state := .released } db'.reservations)
    (hls : db.ledgers.Sets { ledger with reserved := remaining, revision := ledger.revision + 1 } db'.ledgers)
  | settled {r : BudgetReservationRow} {ledger : BudgetLedgerRow} {evaluation : Option BudgetReservationRow}
    {actual used reserved remaining : UsageRecord} {rs : Table BudgetReservationRow.reservationId}
    (hr : db.reservations.get? r.reservationId = some r) (hact : r.state.active = true)
    (hl : db.ledgers.get? r.runId = some ledger)
    (hrec : reconcileUsage ledger.used ledger.reserved r.estimated actual = .ok (used, reserved))
    (he : ∀ e ∈ evaluation, db.reservations.get? e.reservationId = some e ∧ e.runId = r.runId)
    (hrel : ReleasesEvaluation db.reservations reserved evaluation rs remaining)
    (hsafe : safe → ∀ e ∈ evaluation, e.reservationId ≠ r.reservationId)
    (hset : rs.Sets { r with state := .exceeded, actual := some actual } db'.reservations)
    (hls : db.ledgers.Sets { ledger with used := used, reserved := remaining, revision := ledger.revision + 1 }
      db'.ledgers)
    (hfail : ∃ run, db'.runs.get? r.runId = some run ∧ run.state = .failed)

/-- A call either creates a run with an empty ledger, or changes ledgers of existing runs. -/
inductive LedgerStep (safe own : Prop) (db db' : Db) : Prop
  | opened {run : RunRow} {limit : BudgetSpec} (hfresh : ∀ r ∈ db.runs, r.runId ≠ run.runId)
    (hset : db.runs.Sets run db'.runs)
    (hl : db.ledgers.insert? ⟨run.runId, limit, .zero, .zero, 1⟩ = some db'.ledgers)
    (hr : db'.reservations = db.reservations)
  | kept (hruns : ∀ k, (db'.runs.get? k).isSome = (db.runs.get? k).isSome) (h : LedgerChange safe own db db')

variable {safe own : Prop} {db db' : Db} {id runId actorId : String} {resolution : Resolution} {now : Instant}
  {ids : Db.EventIds} {E : Env}

theorem LedgerStep.weaken {own' : Prop} (h : LedgerStep safe own db db') (ho : own' → own) :
    LedgerStep safe own' db db' := by
  cases h with
  | opened hfresh hset hl hr => exact .opened hfresh hset hl hr
  | kept hruns h =>
    refine .kept hruns ?_
    cases h with
    | untouched hl hr => exact .untouched hl hr
    | reserved hs hrun hl hres hr hls => exact .reserved hs hrun hl hres hr hls
    | touched hr hact hact' hset hl => exact .touched hr hact hact' hset hl
    | reopened hr hsafe hown hset hl => exact .reopened hr hsafe (hown ∘ ho) hset hl
    | charged hr hact hl hrec hfit hset hls => exact .charged hr hact hl hrec hfit hset hls
    | released hr hsafe hown hl hrec hset hls => exact .released hr hsafe (hown ∘ ho) hl hrec hset hls
    | settled hr hact hl hrec he hrel hsafe hset hls hfail =>
      exact .settled hr hact hl hrec he hrel hsafe hset hls hfail

theorem sameRuns_of_logs {run run' : RunRow} (h : db.Logs run' db') (hr : db.runs.get? id = some run)
    (hk : run'.runId = run.runId) (k : String) : (db'.runs.get? k).isSome = (db.runs.get? k).isSome :=
  h.1.isSome hr hk k

theorem Holds.ledgerChange (h : Holds db.reservations db'.reservations) (hl : db'.ledgers = db.ledgers) :
    LedgerChange safe own db db' := by
  rcases h with h | ⟨r, hr, hs, hset⟩
  · exact .untouched hl h
  · exact .touched hr (by rw [hs]; rfl) rfl hset hl

theorem SettlesCandidate.releases {candidate : Option CandidateRow} {reserved remaining : UsageRecord}
    {cs : Table CandidateRow.candidateId} {rs : Table BudgetReservationRow.reservationId}
    (h : SettlesCandidate db (evaluationReservation db runId candidate) reserved candidate cs rs remaining) :
    ReleasesEvaluation db.reservations reserved (evaluationReservation db runId candidate) rs remaining := by
  cases h with
  | absent => exact .missing
  | blocked _ hr => exact hr

theorem not_failed_of_runTarget {s : RunState} (h : RuntimeService.runTarget resolution ∈ runTransitions s) :
    s ≠ .failed := by
  rintro rfl
  exact failed_final h

theorem resolve_ledger {note : String} {digest : Option String} {record : ReconciliationCaseRecord}
    (h : RuntimeService.resolveReconciliation db id resolution note actorId digest now ids = .ok (db', record)) :
    LedgerStep (budgetSafe db (.resolveReconciliation id resolution note actorId digest now ids) = true)
      (ownReservation db (.resolveReconciliation id resolution note actorId digest now ids) = true) db db' := by
  obtain rfl | ⟨row, run, acts, ss, rs, ls, cs, ns, es, os, rfl, hrow, hopen, hr, ht, -, -, -, hset, hlog⟩ :=
    RuntimeService.resolveReconciliation_ok h
  · exact .kept (fun _ => rfl) (.untouched rfl rfl)
  refine .kept (sameRuns_of_logs hlog hr rfl) ?_
  -- Under `ownReservation` the reservation belongs to the run being resolved, which has not failed.
  have hown {r : BudgetReservationRow} (hid : row.record.budgetReservationId = some r.reservationId)
      (hres : db.reservations.get? r.reservationId = some r)
      (ho : ownReservation db (.resolveReconciliation id resolution note actorId digest now ids) = true) :
      ∃ run, db.runs.get? r.runId = some run ∧ run.state ≠ .failed := by
    have hk : r.runId = row.record.runId := by
      simpa [ownReservation, hrow, hopen, namedReservation, hid, hres] using ho
    exact ⟨run, hk ▸ hr, not_failed_of_runTarget ht⟩
  cases hset with
  | untouched _ => exact .untouched rfl rfl
  | reopened hid hres hrs =>
    refine .reopened hres (fun hs => ?_) (hown hid hres) hrs rfl
    simpa [budgetSafe, hrow, hopen, namedReservation, hid, hres] using hs
  | released hcf hid hres hl hrec hrs hls =>
    have hlk := Table.get?_key hl
    refine .released hres (fun hs => ?_) (fun ho => .inr (hown hid hres ho)) (by rw [hlk]; exact hl) hrec hrs hls
    rw [hlk]
    rcases hcf with rfl | rfl <;>
      simpa [budgetSafe, hrow, hopen, namedReservation, hid, hres] using hs

theorem settle_ledger {activityId reservationId digest : String} {actual requiredEvaluation : UsageRecord}
    {bundle : String} {epoch : Option Nat}
    (h : TerminalBudgetService.settleExhaustedVariation E db runId activityId reservationId digest actual
      requiredEvaluation bundle actorId epoch now ids = .ok db') :
    LedgerStep (budgetSafe db (.settleExhaustedVariation runId activityId reservationId digest actual
      requiredEvaluation bundle actorId epoch now ids) = true) own db db' := by
  obtain ⟨run, activity, r, ledger, hctx, hcase⟩ := TerminalBudgetService.settleExhaustedVariation_ok h
  have hkey : run.runId = runId := Table.get?_key hctx.run_row
  have hr : db.runs.get? run.runId = some run := by rw [hkey]; exact hctx.run_row
  have hk : r.reservationId = reservationId := Table.get?_key hctx.reservation_row
  have hrr : r.runId = run.runId := hctx.reservation_run.trans hkey.symm
  obtain rfl | ⟨-, -, _, _, _, rfl, hlog⟩ |
    ⟨-, used, reserved, remaining, cs, ps, acts, rs, _, _, _, _, _, rfl, hact, hrec, -, -, hcand, hset, hls, hlog⟩ := hcase
  · exact .kept (fun _ => rfl) (.untouched rfl rfl)
  · exact .kept (sameRuns_of_logs hlog hr rfl) (.untouched rfl rfl)
  · refine .kept (sameRuns_of_logs hlog hr rfl) (.settled (by rw [hk]; exact hctx.reservation_row) hact ?_ hrec ?_
      (SettlesCandidate.releases hcand) ?_ hset hls ⟨Db.bump run { run with state := .failed }, ?_, rfl⟩)
    · rw [hctx.reservation_run]; exact hctx.ledger_row
    · intro e he
      obtain ⟨_, -, hget, hrun, -⟩ := TerminalBudgetService.mem_evaluationReservation he
      exact ⟨hget, hrun.trans hrr.symm⟩
    · intro hs e he
      rw [hk]
      rw [hkey] at he
      simp only [budgetSafe, hctx.activity_row, Option.all_some] at hs
      rw [Option.mem_def.1 he] at hs
      simpa using hs
    · rw [hrr]; exact hlog.1.get?_self

theorem exec_ledger {op : Op} (h : exec E db op = .ok db') :
    LedgerStep (budgetSafe db op = true) (ownReservation db op = true) db db' := by
  have same := exec_frame h
  have bumps := exec_bumps h
  cases op <;> simp only [exec, map_ok, Prod.exists, exists_and_right, exists_eq_right] at h
  case createRun =>
    obtain ⟨_, h⟩ := h
    obtain rfl | ⟨runId, run, _, _, _, _, _, _, _, rfl, rfl, ⟨_, _, _, limit, hfresh, hset, -, -, hls⟩, -⟩ :=
      RunService.createRun_ok h
    · exact .kept (fun _ => rfl) (.untouched rfl rfl)
    · exact .opened (by simpa using hfresh) hset (by rw [createdRun_runId]; exact hls) rfl
  case transition =>
    obtain ⟨_, h⟩ := h
    obtain rfl | ⟨run, _, _, _, _, rfl, hr, -, hlog⟩ := RunService.transition_ok h
    · exact .kept (fun _ => rfl) (.untouched rfl rfl)
    · exact .kept (sameRuns_of_logs hlog hr rfl) (.untouched rfl rfl)
  case reserve =>
    obtain ⟨_, h⟩ := h
    obtain rfl | ⟨ledger, run, reserved, _, _, _, _, _, rfl, hl, hr, hres, hrs, hls, hlog⟩ := BudgetService.reserve_ok h
    · exact .kept (fun _ => rfl) (.untouched rfl rfl)
    · refine .kept (sameRuns_of_logs hlog hr rfl) (.reserved ?_ ?_ ?_ ?_ hrs hls)
      · rfl
      · rw [hr]; rfl
      · exact hl
      · exact hres
  case completeReservation =>
    obtain rfl | ⟨r, ledger, run, _, _, _, _, _, _, _, rfl, hres, hact, hl, hr, hrec, hfit, hrs, hls, hlog⟩ :=
      BudgetService.complete_ok h
    · exact .kept (fun _ => rfl) (.untouched rfl rfl)
    · exact .kept (sameRuns_of_logs hlog hr rfl)
        (.charged (Table.get?_self hres) hact hl hrec hfit hrs hls)
  case observe =>
    obtain ⟨r, run, _, _, _, _, rfl, hres, hact, hr, hrs, hlog⟩ := BudgetService.observe_ok h
    exact .kept (sameRuns_of_logs hlog hr rfl)
      (.touched (Table.get?_self hres) hact hact hrs rfl)
  case holdForReconciliation =>
    obtain rfl | ⟨r, run, _, _, _, _, rfl, hres, hs, hr, hrs, hlog⟩ := BudgetService.holdForReconciliation_ok h
    · exact .kept (fun _ => rfl) (.untouched rfl rfl)
    · exact .kept (sameRuns_of_logs hlog hr rfl)
        (.touched (Table.get?_self hres) (by rw [hs]; rfl) rfl hrs rfl)
  case release =>
    obtain rfl | ⟨r, ledger, run, _, _, _, _, _, _, _, rfl, hres, hact, hl, hr, hrec, hrs, hls, hlog⟩ :=
      BudgetService.release_ok h
    · exact .kept (fun _ => rfl) (.untouched rfl rfl)
    · have hlk := Table.get?_key hl
      exact .kept (sameRuns_of_logs hlog hr rfl)
        (.released (Table.get?_self hres) (fun _ => ⟨hact, hlk.symm⟩) (fun _ => .inl hact)
          (by rw [hlk]; exact hl) hrec hrs hls)
  case markReconciliationRequired =>
    obtain ⟨run, _, _, _, _, _, _, _, _, rfl, hr, -, -, -, -, hhold, hlog⟩ :=
      ActivityService.markReconciliationRequired_ok h
    exact .kept (sameRuns_of_logs hlog hr rfl) (hhold.ledgerChange rfl)
  case openReconciliation =>
    obtain ⟨_, h⟩ := h
    obtain rfl | ⟨run, _, _, _, _, _, _, _, _, rfl, hr, -, -, -, -, hhold, hlog⟩ := RuntimeService.openReconciliation_ok h
    · exact .kept (fun _ => rfl) (.untouched rfl rfl)
    · exact .kept (sameRuns_of_logs hlog hr rfl) (hhold.ledgerChange rfl)
  case resolveReconciliation =>
    obtain ⟨_, h⟩ := h
    exact resolve_ledger h
  case settleExhaustedVariation => exact settle_ledger h
  case commitAdmission =>
    obtain ⟨_, h⟩ := h
    obtain ⟨rfl, -⟩ | ⟨run, c, _, _, _, -, hr, -, -, -, -, -, -, ⟨-, rfl⟩ | ⟨-, -, _, _, _, _, _, rfl, -, -, -, hlog⟩⟩ :=
      EvidenceService.commitAdmission_ok h
    · exact .kept (fun _ => rfl) (.untouched rfl rfl)
    · exact .kept (fun _ => rfl) (.untouched rfl rfl)
    · exact .kept (sameRuns_of_logs hlog hr rfl) (.untouched rfl rfl)
  all_goals
    refine .kept (fun k => ?_) (.untouched (same .ledgers rfl) (same .reservations rfl))
    obtain ⟨hr, -⟩ | ⟨run, hr, hlog⟩ := bumps rfl
    · rw [hr]
    · exact sameRuns_of_logs hlog hr rfl k

/-! ## Conservation -/

/-- The estimates of the run's reservations in state `reserved` or `held`. -/
def activeEstimates (db : Db) (runId : String) (d : Dimension) : Nat :=
  ((db.reservations.rows.filter fun r => r.runId = runId ∧ r.state.active = true).map (·.estimated.get d)).sum

/-- The actual usage of the run's reservations in state `completed` or `exceeded`. -/
def settledActuals (db : Db) (runId : String) (d : Dimension) : Nat :=
  ((db.reservations.rows.filter fun r => r.runId = runId ∧ r.state.settled = true).map
    fun r => (r.actual.getD .zero).get d).sum

/-- Each run's ledger reserves exactly the estimates of its active reservations
and has used exactly what its settled reservations were charged. -/
def Conserved (db : Db) : Prop :=
  (∀ run ∈ db.runs, ∃ ledger, db.ledgers.get? run.runId = some ledger ∧
    ∀ d, ledger.reserved.get d = activeEstimates db run.runId d ∧ ledger.used.get d = settledActuals db run.runId d) ∧
  ∀ r ∈ db.reservations, r.state.settled = true → r.actual.isSome = true

/-- What one reservation contributes to `reserved`. -/
def activeShare (runId : String) (d : Dimension) (r : BudgetReservationRow) : Nat :=
  if r.runId = runId ∧ r.state.active = true then r.estimated.get d else 0

/-- What one reservation contributes to `used`. -/
def settledShare (runId : String) (d : Dimension) (r : BudgetReservationRow) : Nat :=
  if r.runId = runId ∧ r.state.settled = true then (r.actual.getD .zero).get d else 0

theorem activeEstimates_eq (db : Db) (runId : String) (d : Dimension) :
    activeEstimates db runId d = db.reservations.total (activeShare runId d) := by
  unfold activeEstimates activeShare
  rw [← Table.total_filter]
  simp

theorem settledActuals_eq (db : Db) (runId : String) (d : Dimension) :
    settledActuals db runId d = db.reservations.total (settledShare runId d) := by
  unfold settledActuals settledShare
  rw [← Table.total_filter]
  simp

/-- Runs, ledgers and reservations belong together. -/
structure Owned (db : Db) : Prop where
  ledgers : ∀ k, (db.ledgers.get? k).isSome = (db.runs.get? k).isSome
  reservations : ∀ r ∈ db.reservations, (db.runs.get? r.runId).isSome = true

section Shares
variable {r : BudgetReservationRow} {k : String} {d : Dimension}

theorem activeShare_ne (h : r.runId ≠ k) : activeShare k d r = 0 := if_neg fun hk => h hk.1
theorem settledShare_ne (h : r.runId ≠ k) : settledShare k d r = 0 := if_neg fun hk => h hk.1

theorem activeShare_active (h : r.state.active = true) : activeShare r.runId d r = r.estimated.get d :=
  if_pos ⟨rfl, h⟩

theorem activeShare_inactive (h : r.state.active = false) : activeShare k d r = 0 :=
  if_neg fun hk => by rw [h] at hk; exact Bool.false_ne_true hk.2

theorem settledShare_unsettled (h : r.state.settled = false) : settledShare k d r = 0 :=
  if_neg fun hk => by rw [h] at hk; exact Bool.false_ne_true hk.2

theorem settled_of_active {s : ReservationState} (h : s.active = true) : s.settled = false := by
  cases s <;> simp_all [ReservationState.active, ReservationState.settled]

end Shares

def Balanced (ls : Table BudgetLedgerRow.runId) (rs : Table BudgetReservationRow.reservationId) : Prop :=
  ∀ k l, ls.get? k = some l → ∀ d,
    l.reserved.get d = rs.total (activeShare k d) ∧ l.used.get d = rs.total (settledShare k d)

section Balance
variable {ls ls' : Table BudgetLedgerRow.runId} {rs rs' : Table BudgetReservationRow.reservationId}
  {l l' : BudgetLedgerRow} {r r' : BudgetReservationRow}

theorem Balanced.move (hb : Balanced ls rs) (hl : ls.get? l.runId = some l) (hls : ls.Sets l' ls')
    (hlk : l'.runId = l.runId) (hr : rs.get? r.reservationId = some r) (hrs : rs.Sets r' rs')
    (hrk : r'.reservationId = r.reservationId) (hrun : r.runId = l.runId) (hrun' : r'.runId = l.runId)
    (hres : ∀ d, l'.reserved.get d + activeShare l.runId d r = l.reserved.get d + activeShare l.runId d r')
    (hused : ∀ d, l'.used.get d + settledShare l.runId d r = l.used.get d + settledShare l.runId d r') :
    Balanced ls' rs' := by
  intro k x hx d
  have ha := hrs.total_old (by rw [hrk]; exact hr) (activeShare k d)
  have hs := hrs.total_old (by rw [hrk]; exact hr) (settledShare k d)
  rw [hls k, hlk] at hx
  split at hx
  · next hk =>
    cases hx
    subst hk
    obtain ⟨h1, h2⟩ := hb l.runId l hl d
    have h3 := hres d
    have h4 := hused d
    omega
  · next hk =>
    obtain ⟨h1, h2⟩ := hb k x hx d
    rw [activeShare_ne (hrun ▸ Ne.symm hk), activeShare_ne (hrun' ▸ Ne.symm hk)] at ha
    rw [settledShare_ne (hrun ▸ Ne.symm hk), settledShare_ne (hrun' ▸ Ne.symm hk)] at hs
    omega

theorem Balanced.touch (hb : Balanced ls rs) (hr : rs.get? r.reservationId = some r) (hrs : rs.Sets r' rs')
    (hrk : r'.reservationId = r.reservationId) (ha : ∀ k d, activeShare k d r' = activeShare k d r)
    (hs : ∀ k d, settledShare k d r' = settledShare k d r) : Balanced ls rs' := by
  intro k x hx d
  have h1 := hrs.total_old (by rw [hrk]; exact hr) (activeShare k d)
  have h2 := hrs.total_old (by rw [hrk]; exact hr) (settledShare k d)
  obtain ⟨h3, h4⟩ := hb k x hx d
  rw [ha] at h1
  rw [hs] at h2
  omega

theorem activeShare_congr (hr : r'.runId = r.runId) (he : r'.estimated = r.estimated)
    (h : r.state.active = true) (h' : r'.state.active = true) (k : String) (d : Dimension) :
    activeShare k d r' = activeShare k d r := by
  unfold activeShare
  rw [hr, he, h, h']

theorem Balanced.release {remaining : UsageRecord} (hb : Balanced ls rs) (hl : ls.get? l.runId = some l)
    (hr : rs.get? r.reservationId = some r) (hrun : r.runId = l.runId) (hact : r.state.active = true)
    (hrec : ∀ d, remaining.get d + r.estimated.get d = l.reserved.get d)
    (hrs : rs.Sets r' rs') (hrk : r'.reservationId = r.reservationId) (hrun' : r'.runId = r.runId)
    (hs : r'.state = .released)
    (hls : ls.Sets l' ls') (hlk : l'.runId = l.runId) (hlu : l'.used = l.used) (hlr : l'.reserved = remaining) :
    Balanced ls' rs' := by
  refine hb.move hl hls hlk hr hrs hrk hrun (hrun'.trans hrun) (fun d => ?_) (fun d => ?_)
  · have h1 := hrec d
    rw [← hrun, activeShare_active hact, hlr, activeShare_inactive (by rw [hs]; rfl)]
    omega
  · rw [hlu, settledShare_unsettled (settled_of_active hact), settledShare_unsettled (by rw [hs]; rfl)]

theorem Balanced.charge {actual remaining : UsageRecord} (hb : Balanced ls rs)
    (hl : ls.get? l.runId = some l) (hr : rs.get? r.reservationId = some r) (hrun : r.runId = l.runId)
    (hact : r.state.active = true) (hrec : ∀ d, remaining.get d + r.estimated.get d = l.reserved.get d)
    (hrs : rs.Sets r' rs') (hrk : r'.reservationId = r.reservationId) (hrun' : r'.runId = r.runId)
    (hs : r'.state.settled = true) (hs' : r'.state.active = false) (ha : r'.actual = some actual)
    (hls : ls.Sets l' ls') (hlk : l'.runId = l.runId) (hlu : l'.used = l.used.plus actual)
    (hlr : l'.reserved = remaining) : Balanced ls' rs' := by
  refine hb.move hl hls hlk hr hrs hrk hrun (hrun'.trans hrun) (fun d => ?_) (fun d => ?_)
  · have h1 := hrec d
    rw [← hrun, activeShare_active hact, hlr, activeShare_inactive hs']
    omega
  · have h2 : settledShare l.runId d r' = actual.get d := by
      unfold settledShare
      rw [if_pos ⟨hrun'.trans hrun, hs⟩, ha]
      rfl
    rw [hlu, settledShare_unsettled (settled_of_active hact), h2]
    simp

end Balance

section Changes
variable {safe own : Prop} {db db' : Db}

theorem LedgerChange.ledgers_isSome (h : LedgerChange safe own db db') (k : String) :
    (db'.ledgers.get? k).isSome = (db.ledgers.get? k).isSome := by
  cases h with
  | untouched hl hr => rw [hl]
  | touched hr hact hact' hset hl => rw [hl]
  | reopened hr hsafe hown hset hl => rw [hl]
  | reserved hs hrun hl hres hr hls => exact hls.isSome hl rfl k
  | charged hr hact hl hrec hfit hset hls => exact hls.isSome hl rfl k
  | released hr hsafe hown hl hrec hset hls => exact hls.isSome hl rfl k
  | settled hr hact hl hrec he hrel hsafe hset hls hfail => exact hls.isSome hl rfl k

theorem runs_of_sets {rs rs' : Table BudgetReservationRow.reservationId} {r r' : BudgetReservationRow} {id : String}
    {runs : Table RunRow.runId} (hrs : rs.Sets r' rs') (hr : rs.get? id = some r) (hk : r'.runId = r.runId)
    (h : ∀ x ∈ rs, (runs.get? x.runId).isSome = true) : ∀ x ∈ rs', (runs.get? x.runId).isSome = true := by
  intro x hx
  rcases hrs.mem_iff.1 hx with rfl | ⟨hx, -⟩
  · rw [hk]; exact h r (Table.get?_mem hr)
  · exact h x hx

theorem LedgerChange.reservation_runs (h : LedgerChange safe own db db')
    (ho : ∀ r ∈ db.reservations, (db.runs.get? r.runId).isSome = true) :
    ∀ r ∈ db'.reservations, (db.runs.get? r.runId).isSome = true := by
  cases h with
  | untouched hl hr => rw [hr]; exact ho
  | touched hr hact hact' hset hl => exact runs_of_sets hset hr rfl ho
  | reopened hr hsafe hown hset hl => exact runs_of_sets hset hr rfl ho
  | reserved hs hrun hl hres hr hls =>
    intro x hx
    rcases (Table.mem_insert hr).1 hx with hx | rfl
    · exact ho x hx
    · exact hrun
  | charged hr hact hl hrec hfit hset hls => exact runs_of_sets hset hr rfl ho
  | released hr hsafe hown hl hrec hset hls => exact runs_of_sets hset hr rfl ho
  | settled hr hact hl hrec he hrel hsafe hset hls hfail =>
    obtain ⟨s, a, hget⟩ := hrel.get? (fun e hm => (he e hm).1) hr
    refine runs_of_sets hset hget rfl ?_
    cases hrel with
    | missing | before _ => exact ho
    | now _ _ hset' => exact runs_of_sets hset' (he _ rfl).1 rfl ho

theorem LedgerStep.owned (h : LedgerStep safe own db db') (ho : Owned db) : Owned db' := by
  cases h with
  | @opened run limit hfresh hset hl hr =>
    refine ⟨fun k => ?_, fun r hr' => ?_⟩
    · rw [hset k, Table.get?_insert hl]
      by_cases hk : k = run.runId
      · simp [hk]
      · rw [if_neg hk, if_neg (Ne.symm hk)]
        exact ho.ledgers k
    · rw [hr] at hr'
      rw [hset]
      split
      · rfl
      · exact ho.reservations r hr'
  | kept hruns h =>
    refine ⟨fun k => ?_, fun r hr => ?_⟩
    · rw [hruns, h.ledgers_isSome, ho.ledgers]
    · rw [hruns]
      exact h.reservation_runs ho.reservations r hr

theorem initial_owned : Owned Db.initial := ⟨fun _ => rfl, fun _ h => absurd h (Table.not_mem_empty _)⟩

theorem reachable_owned {E : Env} (h : Reachable E db) : Owned db :=
  Reaches.inv Owned initial_owned (fun _ _ _ hi _ he => (exec_ledger he).owned hi) h

/-- What conservation rests on in every state. -/
structure LedgerInv (db : Db) : Prop where
  owned : Owned db
  balanced : Balanced db.ledgers db.reservations
  charged : ∀ r ∈ db.reservations, r.state.settled = true → r.actual.isSome = true

theorem charged_of_sets {rs rs' : Table BudgetReservationRow.reservationId} {r : BudgetReservationRow}
    (hrs : rs.Sets r rs') (h : r.state.settled = true → r.actual.isSome = true)
    (hc : ∀ x ∈ rs, x.state.settled = true → x.actual.isSome = true) :
    ∀ x ∈ rs', x.state.settled = true → x.actual.isSome = true := by
  intro x hx
  rcases hrs.mem_iff.1 hx with rfl | ⟨hx, -⟩
  · exact h
  · exact hc x hx

theorem unsettled_active {s : ReservationState} (h : s.active = true) {p : Prop} : s.settled = true → p := by
  intro hs
  rw [settled_of_active h] at hs
  cases hs

theorem settled_balanced {r : BudgetReservationRow} {ledger : BudgetLedgerRow}
    {evaluation : Option BudgetReservationRow} {actual used reserved remaining : UsageRecord}
    {ls' : Table BudgetLedgerRow.runId} {rs rs₁ rs' : Table BudgetReservationRow.reservationId}
    {ls : Table BudgetLedgerRow.runId} (hb : Balanced ls rs)
    (hr : rs.get? r.reservationId = some r) (hact : r.state.active = true) (hl : ls.get? r.runId = some ledger)
    (hrec : reconcileUsage ledger.used ledger.reserved r.estimated actual = .ok (used, reserved))
    (he : ∀ e ∈ evaluation, rs.get? e.reservationId = some e ∧ e.runId = r.runId)
    (hne : ∀ e ∈ evaluation, e.reservationId ≠ r.reservationId)
    (hrel : ReleasesEvaluation rs reserved evaluation rs₁ remaining)
    (hset : rs₁.Sets { r with state := .exceeded, actual := some actual } rs')
    (hls : ls.Sets { ledger with used := used, reserved := remaining, revision := ledger.revision + 1 } ls') :
    Balanced ls' rs' := by
  have hk : ledger.runId = r.runId := Table.get?_key hl
  have hl' : ls.get? ledger.runId = some ledger := Table.get?_self hl
  obtain ⟨rfl, hres⟩ := reconcileUsage_ok hrec
  have hsame (h : remaining = reserved) (h' : rs₁ = rs) : Balanced ls' rs' := by
    subst h h'
    exact hb.charge hl' hr hk.symm hact hres hset rfl rfl rfl rfl rfl hls rfl rfl rfl
  cases hrel with
  | missing => exact hsame rfl rfl
  | before _ => exact hsame rfl rfl
  | @now e _ _ _ heact herec heset =>
    obtain ⟨-, hrem⟩ := reconcileUsage_ok herec
    obtain ⟨hget, hrun⟩ := he e rfl
    have hne' : r.reservationId ≠ e.reservationId := fun h => hne e rfl h.symm
    -- The ledger after the evaluation's estimate is given back, before the charge.
    let between : BudgetLedgerRow := { ledger with reserved := remaining.plus r.estimated }
    have hbetween : ls.Sets between (ls.modify ledger.runId (fun l => { l with reserved := remaining.plus r.estimated })
        (fun _ => rfl)) :=
      Table.sets_modify (fun l : BudgetLedgerRow => { l with reserved := remaining.plus r.estimated }) (fun _ => rfl) hl'
    have hback (d : Dimension) : (remaining.plus r.estimated).get d + e.estimated.get d = ledger.reserved.get d := by
      have h1 := hrem d
      have h2 := hres d
      rw [UsageRecord.get_plus]
      omega
    have hb₁ := hb.release hl' hget (hrun.trans hk.symm) heact hback heset rfl rfl rfl hbetween rfl rfl rfl
    refine hb₁.charge hbetween.get?_self ((heset.get?_ne hne').trans hr) hk.symm hact (fun d => ?_) hset rfl rfl rfl
      rfl rfl (hbetween.of_trans hls rfl) rfl rfl rfl
    simp [between]

theorem LedgerStep.inv (h : LedgerStep True own db db') (hi : LedgerInv db) : LedgerInv db' := by
  refine ⟨h.owned hi.owned, ?_, ?_⟩
  · cases h with
    | @opened run limit hfresh hset hl hr =>
      intro k l hget d
      rw [hr]
      rw [Table.get?_insert hl] at hget
      split at hget
      · next hk =>
        -- No reservation carries the identifier of a run that did not exist.
        have hnone : ∀ r ∈ db.reservations, r.runId ≠ k := by
          intro r hr' he
          have := hi.owned.reservations r hr'
          obtain ⟨x, hx⟩ := Option.isSome_iff_exists.1 this
          exact hfresh x (Table.get?_mem hx) ((Table.get?_key hx).trans (he.trans hk.symm))
        cases hget
        rw [Table.total_eq_zero fun r hr' => activeShare_ne (hnone r hr'),
          Table.total_eq_zero fun r hr' => settledShare_ne (hnone r hr')]
        simp
      · exact hi.balanced k l hget d
    | kept hruns h =>
      cases h with
      | untouched hl hr => rw [hl, hr]; exact hi.balanced
      | touched hr hact hact' hset hl =>
        rw [hl]
        exact hi.balanced.touch hr hset rfl (activeShare_congr rfl rfl hact hact') fun k d => by
          rw [settledShare_unsettled (settled_of_active hact), settledShare_unsettled (settled_of_active hact')]
      | reopened hr hsafe hown hset hl =>
        have hact := hsafe trivial
        rw [hl]
        exact hi.balanced.touch hr hset rfl (activeShare_congr rfl rfl hact rfl) fun k d => by
          rw [settledShare_unsettled (settled_of_active hact), settledShare_unsettled rfl]
      | @reserved ledger r reserved hs hrun hl hres hr hls =>
        obtain ⟨rfl, -⟩ := reserveUsage_ok hres
        intro k l hget d
        have hnew := Table.sets_insert hr
        rw [Table.total_insert hr, Table.total_insert hr, settledShare_unsettled (by rw [hs]; rfl)]
        have hlk : ledger.runId = r.runId := Table.get?_key hl
        rw [hls k] at hget
        split at hget
        · next hk =>
          have hk : k = r.runId := hk.trans hlk
          cases hget
          subst hk
          obtain ⟨h1, h2⟩ := hi.balanced r.runId ledger hl d
          rw [activeShare_active (by rw [hs]; rfl)]
          simp only [UsageRecord.get_plus]
          omega
        · next hk =>
          obtain ⟨h1, h2⟩ := hi.balanced k l hget d
          rw [activeShare_ne fun hkr => hk (hkr.symm.trans hlk.symm)]
          omega
      | charged hr hact hl hrec hfit hset hls =>
        have hlk := Table.get?_key hl
        obtain ⟨rfl, hrem⟩ := reconcileUsage_ok hrec
        exact hi.balanced.charge (Table.get?_self hl) hr hlk.symm hact hrem hset rfl rfl rfl rfl rfl hls rfl rfl rfl
      | released hr hsafe hown hl hrec hset hls =>
        obtain ⟨hact, hrun⟩ := hsafe trivial
        obtain ⟨-, hrem⟩ := reconcileUsage_ok hrec
        exact hi.balanced.release hl hr hrun hact hrem hset rfl rfl rfl hls rfl rfl rfl
      | settled hr hact hl hrec he hrel hsafe hset hls hfail =>
        exact settled_balanced hi.balanced hr hact hl hrec he (hsafe trivial) hrel hset hls
  · cases h with
    | opened hfresh hset hl hr => rw [hr]; exact hi.charged
    | kept hruns h =>
      cases h with
      | untouched hl hr => rw [hr]; exact hi.charged
      | touched hr hact hact' hset hl => exact charged_of_sets hset (unsettled_active hact') hi.charged
      | reopened hr hsafe hown hset hl => exact charged_of_sets hset (unsettled_active rfl) hi.charged
      | reserved hs hrun hl hres hr hls =>
        intro x hx
        rcases (Table.mem_insert hr).1 hx with hx | rfl
        · exact hi.charged x hx
        · exact unsettled_active (by rw [hs]; rfl)
      | charged hr hact hl hrec hfit hset hls => exact charged_of_sets hset (fun _ => rfl) hi.charged
      | released hr hsafe hown hl hrec hset hls =>
        exact charged_of_sets hset (fun hs => by cases hs) hi.charged
      | settled hr hact hl hrec he hrel hsafe hset hls hfail =>
        refine charged_of_sets hset (fun _ => rfl) ?_
        cases hrel with
        | missing | before _ => exact hi.charged
        | now _ _ hset' => exact charged_of_sets hset' (fun _ => rfl) hi.charged

end Changes

theorem initial_ledger : LedgerInv Db.initial where
  owned := initial_owned
  balanced _ _ h := by cases h
  charged _ h := absurd h (Table.not_mem_empty _)

theorem LedgerInv.conserved (h : LedgerInv db) : Conserved db := by
  refine ⟨fun run hrun => ?_, h.charged⟩
  have hsome : (db.ledgers.get? run.runId).isSome = true := by
    rw [h.owned.ledgers, Table.get?_of_mem hrun]
    rfl
  obtain ⟨ledger, hl⟩ := Option.isSome_iff_exists.1 hsome
  refine ⟨ledger, hl, fun d => ?_⟩
  rw [activeEstimates_eq, settledActuals_eq]
  exact h.balanced run.runId ledger hl d

/-- Budget conservation: in every run whose resolutions and settlements meet the
reservations they expect, each ledger's `reserved` is the sum of the active
estimates and its `used` the sum of the settled actual usage. -/
theorem budget_conservation {E : Env} {db : Db} (h : ReachableWhen E (fun db op => budgetSafe db op = true) db) :
    Conserved db := by
  refine LedgerInv.conserved (Reaches.inv LedgerInv initial_ledger (fun _ _ _ hi hsafe he => ?_) h)
  have hstep := exec_ledger he
  rw [hsafe] at hstep
  exact LedgerStep.inv (by simpa using hstep) hi

/-- A reservation of 5 whose activity goes to reconciliation, resolved for retry. -/
def Sample.retried : List Op :=
  Sample.started "run" "tree" ++ [Sample.reserved "run" "res" 5] ++ Sample.claimed "run" "act" (some "res") ++
    [Sample.disputed "act" "case", Sample.resolved "case" .retry]

theorem budget_conservation_retried :
    activeEstimates (after Sample.env Sample.retried) "run" .toolCalls = 5 ∧ Conserved (after Sample.env Sample.retried) :=
  ⟨by decide, budget_conservation (reachableWhen_after (by decide))⟩

/-- The same, but the reservation was completed before the activity went to
reconciliation: the retry makes it `reserved` again with nothing set aside. -/
def Sample.retriedSettled : List Op :=
  Sample.started "run" "tree" ++ [Sample.reserved "run" "res" 5] ++ Sample.claimed "run" "act" (some "res") ++
    [.completeReservation "res" (Sample.usage 3) "worker" (Sample.ids "completed"), Sample.disputed "act" "case",
      Sample.resolved "case" .retry]

theorem retry_breaks_conservation : ¬ ∀ E db, Reachable E db → Conserved db := by
  intro h
  obtain ⟨hc, -⟩ := h Sample.env (after Sample.env Sample.retriedSettled) (reachable_after (by decide))
  have hrun : ∃ run ∈ (after Sample.env Sample.retriedSettled).runs.rows, run.runId = "run" := by decide
  obtain ⟨run, hrun, hk⟩ := hrun
  obtain ⟨ledger, hl, hd⟩ := hc run hrun
  rw [hk] at hl hd
  have hz : ((after Sample.env Sample.retriedSettled).ledgers.get? "run").map (·.reserved.get .toolCalls) = some 0 := by
    decide
  have hf : activeEstimates (after Sample.env Sample.retriedSettled) "run" .toolCalls = 5 := by decide
  rw [hl] at hz
  have h0 : ledger.reserved.get .toolCalls = 0 := Option.some.inj hz
  have h5 := (hd .toolCalls).1
  omega

end AvoCorrelate
