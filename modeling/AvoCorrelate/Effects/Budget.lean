import AvoCorrelate.Services.Budget
/-!
# What a committed budget call leaves behind

One lemma per service call: either the call was a replay and the database is
unchanged, or the guards it passed and the rows it set. Everything proved about
runs of the system starts from these lemmas and their kin in the other `Effects`
modules; no later proof unfolds a service.
-/
open AvoLib

namespace AvoCorrelate

namespace BudgetService
open Db

variable {db db' : Db} {actorId id : String} {ids : EventIds}

theorem reserve_ok {runId key : String} {estimated : UsageRecord} {id' : String}
    (h : reserve db runId key estimated actorId id ids = .ok (db', id')) :
    db' = db ∨ ∃ ledger run reserved rs ls ns es os,
      db' = { db with reservations := rs, ledgers := ls, runs := ns, events := es, outbox := os } ∧
      db.ledgers.get? runId = some ledger ∧ db.runs.get? runId = some run ∧
      reserveUsage ledger.limit ledger.used ledger.reserved estimated = .ok reserved ∧
      db.reservations.insert? ⟨id, runId, key, .reserved, estimated, none⟩ = some rs ∧
      db.ledgers.Sets { ledger with reserved := reserved, revision := ledger.revision + 1 } ls ∧
      db.Logs (bump run run) db' := by
  unfold reserve at h
  split at h
  · simp only [bind_ok, require_ok, pure_ok, exists_const, Prod.mk.injEq] at h
    exact .inl h.2.1.symm
  · simp only [bind_ok, orRaise_ok, insertReservation, insertRow_ok, pure_ok, Prod.mk.injEq] at h
    obtain ⟨ledger, hl, run, hr, reserved, hres, _, ⟨rs, ⟨-, hrs⟩, rfl⟩, _, hev, rfl, -⟩ := h
    have hk := Table.get?_key hr
    obtain ⟨ns, es, os, rfl, hlog⟩ := appendNextEvent_ok hev (r := run) (by rw [hk]; exact hr)
    exact .inr ⟨ledger, run, reserved, rs, _, ns, es, os, rfl, hl, hr, hres, hrs, sets_updateLedger (by intro; rfl) hl, hlog⟩

theorem complete_ok {actual : UsageRecord} (h : complete db id actual actorId ids = .ok db') :
    db' = db ∨ ∃ reservation ledger run used reserved rs ls ns es os,
      db' = { db with reservations := rs, ledgers := ls, runs := ns, events := es, outbox := os } ∧
      db.reservations.get? id = some reservation ∧ reservation.state.active = true ∧
      db.ledgers.get? reservation.runId = some ledger ∧ db.runs.get? reservation.runId = some run ∧
      reconcileUsage ledger.used ledger.reserved reservation.estimated actual = .ok (used, reserved) ∧
      (used.plus reserved).fitsWithin ledger.limit = true ∧
      db.reservations.Sets { reservation with state := .completed, actual := some actual } rs ∧
      db.ledgers.Sets { ledger with used := used, reserved := reserved, revision := ledger.revision + 1 } ls ∧
      db.Logs (bump run run) db' := by
  simp only [complete, bind_ok, orRaise_ok] at h
  obtain ⟨reservation, hres, h⟩ := h
  split at h
  · simp only [bind_ok, orRaise_ok, require_ok, pure_ok, exists_const] at h
    obtain ⟨-, -, -, rfl⟩ := h
    exact .inl rfl
  · simp only [bind_ok, orRaise_ok, require_ok, exists_const, Prod.exists] at h
    obtain ⟨hact, ledger, hl, run, hr, used, reserved, hrec, hfit, hev⟩ := h
    have hk := Table.get?_key hr
    obtain ⟨ns, es, os, rfl, hlog⟩ := appendNextEvent_ok hev (r := run) (by rw [hk]; exact hr)
    exact .inr ⟨reservation, ledger, run, used, reserved, _, _, ns, es, os, rfl, hres, hact, hl, hr, hrec, hfit,
      sets_updateReservation (by intro; rfl) hres, sets_updateLedger (by intro; rfl) hl, hlog⟩

theorem observe_ok {cumulative : UsageRecord} (h : observe db id cumulative actorId ids = .ok db') :
    ∃ reservation run rs ns es os,
      db' = { db with reservations := rs, runs := ns, events := es, outbox := os } ∧
      db.reservations.get? id = some reservation ∧ reservation.state.active = true ∧
      db.runs.get? reservation.runId = some run ∧
      db.reservations.Sets { reservation with actual := some cumulative } rs ∧ db.Logs (bump run run) db' := by
  simp only [observe, bind_ok, orRaise_ok, require_ok, exists_const] at h
  obtain ⟨reservation, hres, hact, -, -, run, hr, hev⟩ := h
  have hr' : db.runs.get? reservation.runId = some run := hr
  have hk := Table.get?_key hr'
  obtain ⟨ns, es, os, rfl, hlog⟩ := appendNextEvent_ok hev (r := run) (by rw [hk]; exact hr')
  exact ⟨reservation, run, _, ns, es, os, rfl, hres, hact, hr', sets_updateReservation (by intro; rfl) hres, hlog⟩

theorem holdForReconciliation_ok (h : holdForReconciliation db id actorId ids = .ok db') :
    db' = db ∨ ∃ reservation run rs ns es os,
      db' = { db with reservations := rs, runs := ns, events := es, outbox := os } ∧
      db.reservations.get? id = some reservation ∧ reservation.state = .reserved ∧
      db.runs.get? reservation.runId = some run ∧
      db.reservations.Sets { reservation with state := .held } rs ∧ db.Logs (bump run run) db' := by
  simp only [holdForReconciliation, bind_ok, orRaise_ok] at h
  obtain ⟨reservation, hres, h⟩ := h
  split at h
  · exact .inl (pure_ok.1 h).symm
  · simp only [bind_ok, orRaise_ok, require_ok, exists_const] at h
    obtain ⟨hst, run, hr, hev⟩ := h
    have hr' : db.runs.get? reservation.runId = some run := hr
    have hk := Table.get?_key hr'
    obtain ⟨ns, es, os, rfl, hlog⟩ := appendNextEvent_ok hev (r := run) (by rw [hk]; exact hr')
    exact .inr ⟨reservation, run, _, ns, es, os, rfl, hres, hst, hr', sets_setReservationState hres, hlog⟩

theorem release_ok (h : release db id actorId ids = .ok db') :
    db' = db ∨ ∃ reservation ledger run used remaining rs ls ns es os,
      db' = { db with reservations := rs, ledgers := ls, runs := ns, events := es, outbox := os } ∧
      db.reservations.get? id = some reservation ∧ reservation.state.active = true ∧
      db.ledgers.get? reservation.runId = some ledger ∧ db.runs.get? reservation.runId = some run ∧
      reconcileUsage ledger.used ledger.reserved reservation.estimated .zero = .ok (used, remaining) ∧
      db.reservations.Sets { reservation with state := .released } rs ∧
      db.ledgers.Sets { ledger with reserved := remaining, revision := ledger.revision + 1 } ls ∧
      db.Logs (bump run run) db' := by
  simp only [release, bind_ok, orRaise_ok] at h
  obtain ⟨reservation, hres, h⟩ := h
  split at h
  · exact .inl (pure_ok.1 h).symm
  · simp only [bind_ok, orRaise_ok, require_ok, exists_const, Prod.exists] at h
    obtain ⟨hact, ledger, hl, run, hr, used, remaining, hrec, hev⟩ := h
    have hk := Table.get?_key hr
    obtain ⟨ns, es, os, rfl, hlog⟩ := appendNextEvent_ok hev (r := run) (by rw [hk]; exact hr)
    exact .inr ⟨reservation, ledger, run, used, remaining, _, _, ns, es, os, rfl, hres, hact, hl, hr, hrec,
      sets_setReservationState hres, sets_updateLedger (by intro; rfl) hl, hlog⟩

end BudgetService

end AvoCorrelate
