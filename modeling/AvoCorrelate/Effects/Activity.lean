import AvoCorrelate.Services.Activity
/-!
# What a committed activity or reconciliation call leaves behind
-/
open AvoLib

namespace AvoCorrelate

/-! ## Activities and invocations -/

namespace ActivityService
open Db

variable {db db' : Db} {digest workerId activityId : String} {ids : EventIds} {leaseSeconds : Int} {leaseEpoch : Nat}

theorem enqueue_ok {runId key actorId : String} {sessionId reservationId : Option String} {id id' : String}
    {now : Instant} (h : enqueue db runId key digest actorId sessionId reservationId id now ids = .ok (db', id')) :
    db' = db ∨ ∃ run acts ns es os,
      db' = { db with activities := acts, runs := ns, events := es, outbox := os } ∧
      db.runs.get? run.runId = some run ∧ db.Logs (bump run run) db' := by
  unfold enqueue at h
  split at h
  · simp only [bind_ok, require_ok, pure_ok, exists_const, Prod.mk.injEq] at h
    exact .inl h.2.2.1.symm
  · simp only [bind_ok, orRaise_ok, insertActivity, insertRow_ok, pure_ok, Prod.mk.injEq] at h
    obtain ⟨run, hr, _, ⟨acts, -, rfl⟩, _, hev, rfl, -⟩ := h
    have hr' := Table.get?_self hr
    obtain ⟨ns, es, os, rfl, hlog⟩ := appendNextEvent_ok hev (r := run) hr'
    exact .inr ⟨run, acts, ns, es, os, rfl, hr', hlog⟩

theorem claimNext_ok {claimedAt : Instant} {found : Option ActivityRow}
    (h : claimNext db workerId leaseSeconds claimedAt ids = .ok (db', found)) : db' = db ∨ ∃ run acts ns es os,
      db' = { db with activities := acts, runs := ns, events := es, outbox := os } ∧
      db.runs.get? run.runId = some run ∧ db.Logs (bump run run) db' := by
  unfold claimNext at h
  split at h
  · cases h; exact .inl rfl
  · simp only [bind_ok, orRaise_ok, pure_ok, Prod.mk.injEq] at h
    obtain ⟨run, hr, _, hev, rfl, -⟩ := h
    have hr' : db.runs.get? run.runId = some run := Table.get?_self hr
    obtain ⟨ns, es, os, rfl, hlog⟩ := appendNextEvent_ok hev (r := run) hr'
    exact .inr ⟨run, _, ns, es, os, rfl, hr', hlog⟩

theorem complete_ok (h : complete db activityId workerId leaseEpoch digest ids = .ok db') :
    db' = db ∨ ∃ run acts ns es os,
      db' = { db with activities := acts, runs := ns, events := es, outbox := os } ∧
      db.runs.get? run.runId = some run ∧ db.Logs (bump run run) db' := by
  simp only [complete, bind_ok, orRaise_ok] at h
  obtain ⟨activity, -, h⟩ := h
  split at h
  · simp only [bind_ok, require_ok, pure_ok, exists_const] at h
    exact .inl h.2.symm
  · simp only [bind_ok, orRaise_ok, require_ok, exists_const] at h
    obtain ⟨-, run, hr, hev⟩ := h
    have hr' : db.runs.get? run.runId = some run := Table.get?_self hr
    obtain ⟨ns, es, os, rfl, hlog⟩ := appendNextEvent_ok hev (r := run) hr'
    exact .inr ⟨run, _, ns, es, os, rfl, hr', hlog⟩

theorem heartbeat_ok {heartbeatAt : ClockValue} {t : Instant}
    (h : heartbeat db activityId workerId leaseEpoch leaseSeconds heartbeatAt = .ok (db', t)) :
    ∃ acts, db' = { db with activities := acts } := by
  simp only [heartbeat, bind_ok, orRaise_ok, require_ok, pure_ok, exists_const, Prod.mk.injEq] at h
  obtain ⟨-, -, -, -, -, -, -, rfl, -⟩ := h
  exact ⟨_, rfl⟩

end ActivityService

namespace RuntimeService

theorem recordInvocation_ok {E : Env} {db db' : Db} {record : HarnessInvocationRecord}
    (h : recordInvocation E db record = .ok db') : ∃ is, db' = { db with invocations := is } := by
  simp only [recordInvocation, bind_ok, orRaise_ok, require_ok, exists_const] at h
  obtain ⟨_, -, -, h⟩ := h
  split at h
  · simp only [bind_ok, require_ok, pure_ok, exists_const] at h
    exact ⟨db.invocations, h.2.symm⟩
  · simp only [Db.insertInvocation, bind_ok, insertRow_ok, pure_ok] at h
    obtain ⟨is, -, rfl⟩ := h
    exact ⟨is, rfl⟩

theorem replaceInvocation_ok {E : Env} {db db' : Db} {record : HarnessInvocationRecord}
    (h : replaceInvocation E db record = .ok db') : ∃ is, db' = { db with invocations := is } := by
  simp only [replaceInvocation, bind_ok, orRaise_ok, require_ok, exists_const, pure_ok] at h
  obtain ⟨_, -, -, -, rfl⟩ := h
  exact ⟨_, rfl⟩

end RuntimeService

/-! ## Reconciliation -/

/-- At most one reservation changed, from `reserved` to `held`. -/
def Holds (t t' : Table BudgetReservationRow.reservationId) : Prop :=
  t' = t ∨ ∃ r, t.get? r.reservationId = some r ∧ r.state = .reserved ∧ t.Sets { r with state := .held } t'

def openedRow (record : ReconciliationCaseRecord) : ReconciliationCaseRow :=
  ⟨record.reconciliationId, record.runId, record.activityId, record.sessionId, .opened, record⟩

/-- `run` once blocked by a case and journaled. -/
def blockedRun (run : RunRow) : RunRow := Db.bump run { run with state := .blockedReconciliation }

/-- A case was opened: its run is blocked and the reservation it names, if any, is held. -/
def OpensCase (db db' : Db) : Prop :=
  ∃ run record acts ss rs cs ns es os,
    db' = { db with activities := acts, sessions := ss, reservations := rs, cases := cs, runs := ns, events := es,
                    outbox := os } ∧
    db.runs.get? run.runId = some run ∧
    (run.state = .blockedReconciliation ∨ .blockedReconciliation ∈ runTransitions run.state) ∧
    record.state = .opened ∧ record.runId = run.runId ∧ db.cases.insert? (openedRow record) = some cs ∧
    Holds db.reservations rs ∧ db.Logs (blockedRun run) db'

namespace ActivityService
open Db

theorem blockRun_ok {db db' : Db} {run : RunRow} (h : blockRun db run = .ok db')
    (hr : db.runs.get? run.runId = some run) :
    ∃ ns, db' = { db with runs := ns } ∧ db.runs.Sets { run with state := .blockedReconciliation } ns ∧
      (run.state = .blockedReconciliation ∨ .blockedReconciliation ∈ runTransitions run.state) := by
  unfold blockRun at h
  split at h
  · next hs =>
    cases h
    have he : { run with state := .blockedReconciliation } = run := by rw [← hs]
    exact ⟨db.runs, rfl, by rw [he]; exact Table.sets_self hr, .inl hs⟩
  · simp only [bind_ok, requireRunTransition_ok, exists_const, pure_ok] at h
    obtain ⟨ht, rfl⟩ := h
    exact ⟨_, rfl, sets_setRunState hr, .inr ht⟩

theorem suspendSession_eq (db : Db) (id : Option String) :
    ∃ ss, suspendSession db id = { db with sessions := ss } := by
  unfold suspendSession
  split
  · exact ⟨db.sessions, rfl⟩
  · split
    · split
      · exact ⟨_, rfl⟩
      · exact ⟨db.sessions, rfl⟩
    · exact ⟨db.sessions, rfl⟩

theorem holdReservation_eq (db : Db) (id : Option String) :
    ∃ rs, holdReservation db id = { db with reservations := rs } ∧ Holds db.reservations rs := by
  unfold holdReservation
  split
  · exact ⟨db.reservations, rfl, .inl rfl⟩
  · split
    · next hr =>
      split
      · next hs =>
        exact ⟨_, rfl, .inr ⟨_, Table.get?_self hr, hs, sets_setReservationState hr⟩⟩
      · exact ⟨db.reservations, rfl, .inl rfl⟩
    · exact ⟨db.reservations, rfl, .inl rfl⟩

theorem logs_blocked {db db' : Db} {ns : Table RunRow.runId} {run : RunRow}
    (hns : db.runs.Sets { run with state := .blockedReconciliation } ns)
    (h : Logs { db with runs := ns } (blockedRun run) db') : db.Logs (blockedRun run) db' :=
  ⟨hns.trans h.1 rfl, h.2⟩

theorem markReconciliationRequired_ok {db db' : Db} {activityId actorId reason : String} {epoch : Option Nat}
    {id : String} {now : Instant} {ids : EventIds}
    (h : markReconciliationRequired db activityId actorId reason epoch id now ids = .ok db') : OpensCase db db' := by
  simp only [markReconciliationRequired, bind_ok, orRaise_ok, require_ok, exists_const, insertCase, insertRow_ok,
    pure_ok] at h
  obtain ⟨activity, -, -, -, run, hrun, _, hblock, -, _, ⟨cs, ⟨-, hcs⟩, rfl⟩, hev⟩ := h
  have hr : db.runs.get? run.runId = some run := Table.get?_self hrun
  obtain ⟨ns, rfl, hns, hok⟩ := blockRun_ok hblock hr
  obtain ⟨ss, hss⟩ := suspendSession_eq
    { (db.updateActivity activityId parked fun _ => rfl) with runs := ns, cases := cs } activity.sessionId
  obtain ⟨rs, hrs, hhold⟩ := holdReservation_eq
    { (db.updateActivity activityId parked fun _ => rfl) with runs := ns, cases := cs, sessions := ss }
    activity.budgetReservationId
  rw [hss, hrs] at hev
  obtain ⟨ns', es, os, rfl, hlog⟩ := appendNextEvent_ok hev (r := { run with state := .blockedReconciliation })
    hns.get?_self
  exact ⟨run, ⟨id, run.runId, activityId, activity.sessionId, reason, activity.budgetReservationId, .opened, none, none,
    now, none⟩, _, ss, rs, cs, ns', es, os, rfl, hr, hok, rfl, rfl, hcs, hhold, logs_blocked hns hlog⟩

end ActivityService

namespace RuntimeService
open Db

theorem parkActivity_eq (db : Db) (a : ActivityRow) : ∃ acts, parkActivity db a = { db with activities := acts } := by
  unfold parkActivity
  split
  · exact ⟨_, rfl⟩
  · exact ⟨db.activities, rfl⟩

variable {db db' : Db} {runId activityId actorId note : String} {id digest : Option String} {now : Instant}
  {ids : EventIds} {record : ReconciliationCaseRecord} {resolution : Resolution}

theorem suspendSession_ok (h : suspendSession db runId id = .ok db') : ∃ ss, db' = { db with sessions := ss } := by
  unfold suspendSession at h
  split at h
  · cases h; exact ⟨db.sessions, rfl⟩
  · simp only [bind_ok, orRaise_ok, require_ok, exists_const] at h
    obtain ⟨_, -, -, h⟩ := h
    split at h
    · cases h; exact ⟨db.sessions, rfl⟩
    · simp only [bind_ok, requireSessionTransition_ok, exists_const, pure_ok] at h
      exact ⟨_, h.2.symm⟩

theorem holdReservation_ok (h : holdReservation db runId id = .ok db') :
    ∃ rs, db' = { db with reservations := rs } ∧ Holds db.reservations rs := by
  unfold holdReservation at h
  split at h
  · cases h; exact ⟨db.reservations, rfl, .inl rfl⟩
  · simp only [bind_ok, orRaise_ok, require_ok, exists_const] at h
    obtain ⟨r, hr, -, h⟩ := h
    split at h
    · next hs =>
      cases h
      exact ⟨_, rfl, .inr ⟨r, Table.get?_self hr, hs, sets_setReservationState hr⟩⟩
    · simp only [bind_ok, require_ok, exists_const, pure_ok] at h
      exact ⟨db.reservations, h.2.symm, .inl rfl⟩

theorem openReconciliation_ok {reason : String} {sessionId reservationId : Option String} {id : String}
    (h : openReconciliation db runId activityId reason actorId sessionId reservationId id now ids = .ok (db', record)) :
    db' = db ∨ OpensCase db db' := by
  unfold openReconciliation at h
  split at h
  · cases h; exact .inl rfl
  · simp only [bind_ok, orRaise_ok, require_ok, exists_const, insertCase, insertRow_ok, pure_ok, Prod.mk.injEq] at h
    obtain ⟨activity, -, run, hrun, -, -, _, hblock, _, hsess, _, hres, -, _, ⟨cs, ⟨-, hcs⟩, rfl⟩, _, hev, rfl, rfl⟩ := h
    have hk : run.runId = runId := Table.get?_key hrun
    have hr : db.runs.get? run.runId = some run := by rw [hk]; exact hrun
    obtain ⟨acts, hacts⟩ := parkActivity_eq db activity
    rw [hacts] at hblock
    obtain ⟨ns, rfl, hns, hok⟩ := ActivityService.blockRun_ok hblock hr
    obtain ⟨ss, rfl⟩ := suspendSession_ok hsess
    obtain ⟨rs, rfl, hhold⟩ := holdReservation_ok hres
    obtain ⟨ns', es, os, rfl, hlog⟩ := appendNextEvent_ok hev (r := { run with state := .blockedReconciliation })
      hns.get?_self
    exact .inr ⟨run, ⟨id, runId, activityId, orElse sessionId activity.sessionId, reason,
      orElse reservationId activity.budgetReservationId, .opened, none, none, now, none⟩, acts, ss, rs, cs, ns', es, os,
      rfl, hr, hok, rfl, hk.symm, hcs, hhold, ActivityService.logs_blocked hns hlog⟩

/-- What resolving a case does to the reservation it names. -/
inductive SettlesReservation (db : Db) (runId : String) (reservationId : Option String) :
    Resolution → Table BudgetReservationRow.reservationId → Table BudgetLedgerRow.runId → Prop
  | untouched {resolution : Resolution} (h : reservationId = none ∨ resolution = .acceptResult) :
    SettlesReservation db runId reservationId resolution db.reservations db.ledgers
  | reopened {r : BudgetReservationRow} {rs : Table BudgetReservationRow.reservationId}
    (hid : reservationId = some r.reservationId) (hr : db.reservations.get? r.reservationId = some r)
    (hrs : db.reservations.Sets { r with state := .reserved } rs) :
    SettlesReservation db runId reservationId .retry rs db.ledgers
  | released {resolution : Resolution} {r : BudgetReservationRow} {ledger : BudgetLedgerRow}
    {used remaining : UsageRecord} {rs : Table BudgetReservationRow.reservationId} {ls : Table BudgetLedgerRow.runId}
    (hres : resolution = .cancel ∨ resolution = .fail)
    (hid : reservationId = some r.reservationId) (hr : db.reservations.get? r.reservationId = some r)
    (hl : db.ledgers.get? runId = some ledger)
    (hrec : reconcileUsage ledger.used ledger.reserved r.estimated .zero = .ok (used, remaining))
    (hrs : db.reservations.Sets { r with state := .released } rs)
    (hls : db.ledgers.Sets { ledger with reserved := remaining, revision := ledger.revision + 1 } ls) :
    SettlesReservation db runId reservationId resolution rs ls

theorem settleActivity_ok (h : settleActivity db activityId resolution digest = .ok db') :
    ∃ acts, db' = { db with activities := acts } := by
  cases resolution with
  | retry | cancel | fail => cases h; exact ⟨_, rfl⟩
  | acceptResult =>
    simp only [settleActivity, bind_ok, orRaise_ok, pure_ok] at h
    obtain ⟨_, -, rfl⟩ := h
    exact ⟨_, rfl⟩

theorem settleSession_ok (h : settleSession db id resolution = .ok db') : ∃ ss, db' = { db with sessions := ss } := by
  unfold settleSession at h
  split at h
  · cases h; exact ⟨db.sessions, rfl⟩
  · simp only [bind_ok, orRaise_ok, requireSessionTransition_ok, exists_const, pure_ok] at h
    obtain ⟨_, -, -, rfl⟩ := h
    exact ⟨_, rfl⟩

theorem settleReservation_ok (h : settleReservation db runId id resolution = .ok db') :
    ∃ rs ls, db' = { db with reservations := rs, ledgers := ls } ∧ SettlesReservation db runId id resolution rs ls := by
  unfold settleReservation at h
  split at h
  · cases h; exact ⟨_, _, rfl, .untouched (.inl rfl)⟩
  · simp only [bind_ok, orRaise_ok] at h
    obtain ⟨r, hr, h⟩ := h
    have hk := Table.get?_key hr
    subst hk
    cases resolution with
    | retry => cases h; exact ⟨_, _, rfl, .reopened rfl hr (sets_setReservationState hr)⟩
    | acceptResult => cases h; exact ⟨_, _, rfl, .untouched (.inr rfl)⟩
    | cancel =>
      simp only [bind_ok, orRaise_ok, Prod.exists, pure_ok] at h
      obtain ⟨ledger, hl, used, remaining, hrec, rfl⟩ := h
      exact ⟨_, _, rfl, .released (.inl rfl) rfl hr hl hrec (sets_setReservationState hr)
        (sets_updateLedger (by intro; rfl) hl)⟩
    | fail =>
      simp only [bind_ok, orRaise_ok, Prod.exists, pure_ok] at h
      obtain ⟨ledger, hl, used, remaining, hrec, rfl⟩ := h
      exact ⟨_, _, rfl, .released (.inr rfl) rfl hr hl hrec (sets_setReservationState hr)
        (sets_updateLedger (by intro; rfl) hl)⟩

theorem resolveReconciliation_opened {id : String} {row : ReconciliationCaseRow} (hrow : db.cases.get? id = some row)
    (hopen : row.record.state = .opened)
    (h : resolveReconciliation db id resolution note actorId digest now ids = .ok (db', record)) :
    ∃ run acts ss rs ls cs ns es os,
      db' = { db with activities := acts, sessions := ss, reservations := rs, ledgers := ls, cases := cs, runs := ns,
                      events := es, outbox := os } ∧
      db.runs.get? row.record.runId = some run ∧
      runTarget resolution ∈ runTransitions run.state ∧
      record.state = .resolved ∧ db.cases.Sets (resolvedRow record row) cs ∧ record.runId = row.record.runId ∧
      SettlesReservation db row.record.runId row.record.budgetReservationId resolution rs ls ∧
      db.Logs (bump run { run with state := runTarget resolution }) db' := by
  simp only [resolveReconciliation, bind_ok, orRaise_ok] at h
  obtain ⟨row', hrow', h⟩ := h
  obtain rfl : row = row' := Option.some.inj (hrow.symm.trans hrow')
  split at h
  · next hst => cases hopen.symm.trans hst
  · simp only [bind_ok, orRaise_ok, requireRunTransition_ok, exists_const, pure_ok, Prod.mk.injEq] at h
    obtain ⟨activity, -, run, hrun, _, hact, htr, _, hsess, _, hres, _, hev, rfl, rfl⟩ := h
    have hr : db.runs.get? run.runId = some run := Table.get?_self hrun
    obtain ⟨acts, rfl⟩ := settleActivity_ok hact
    obtain ⟨ss, rfl⟩ := settleSession_ok hsess
    obtain ⟨rs, ls, rfl, hsettle⟩ := settleReservation_ok hres
    have hset : db.runs.Sets { run with state := runTarget resolution } (db.setRunState run.runId (runTarget resolution)).runs :=
      sets_setRunState hr
    obtain ⟨ns, es, os, rfl, hlog⟩ := appendNextEvent_ok hev (r := { run with state := runTarget resolution })
      hset.get?_self
    refine ⟨run, acts, ss, rs, ls, _, ns, es, os, rfl, hrun, htr, rfl,
      Table.sets_modify (resolvedRow _) (fun _ => rfl) hrow, rfl, ?_, hset.trans hlog.1 rfl, hlog.2⟩
    cases hsettle with
    | untouched h => exact .untouched h
    | reopened hid hr hrs => exact .reopened hid hr hrs
    | released hres hid hr hl hrec hrs hls => exact .released hres hid hr hl hrec hrs hls

theorem resolveReconciliation_ok {id : String}
    (h : resolveReconciliation db id resolution note actorId digest now ids = .ok (db', record)) :
    db' = db ∨ ∃ row run acts ss rs ls cs ns es os,
      db' = { db with activities := acts, sessions := ss, reservations := rs, ledgers := ls, cases := cs, runs := ns,
                      events := es, outbox := os } ∧
      db.cases.get? id = some row ∧ row.record.state = .opened ∧ db.runs.get? row.record.runId = some run ∧
      runTarget resolution ∈ runTransitions run.state ∧
      record.state = .resolved ∧ db.cases.Sets (resolvedRow record row) cs ∧ record.runId = row.record.runId ∧
      SettlesReservation db row.record.runId row.record.budgetReservationId resolution rs ls ∧
      db.Logs (bump run { run with state := runTarget resolution }) db' := by
  have hcommitted := h
  simp only [resolveReconciliation, bind_ok, orRaise_ok] at h
  obtain ⟨row, hrow, h⟩ := h
  cases hst : row.record.state with
  | opened =>
    obtain ⟨run, acts, ss, rs, ls, cs, ns, es, os, hdb, hrest⟩ := resolveReconciliation_opened hrow hst hcommitted
    exact .inr ⟨row, run, acts, ss, rs, ls, cs, ns, es, os, hdb, hrow, hst, hrest⟩
  | resolved =>
    simp only [hst, if_true, bind_ok, require_ok, exists_const, pure_ok, Prod.mk.injEq] at h
    exact .inl h.2.1.symm

end RuntimeService

end AvoCorrelate
