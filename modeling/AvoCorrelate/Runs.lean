import AvoCorrelate.Sessions
/-!
# Run states

Five calls write the state of a run, and each goes through `RUN_TRANSITIONS`.
`asksRun` says which run a call would move and where to, `exec_runs` that a
committed call moves that run along the table, or leaves all states alone.
-/
open AvoLib

namespace AvoCorrelate

/-- The run a call would move, and the state it would move it to. A replay asks
for nothing. -/
def asksRun (E : Env) (db : Db) : Op → Option (String × RunState)
  | .transition runId target actorId _ reason key scope _ _ =>
    match checkIdempotency db actorId (orDefault scope ("runs." ++ runId ++ ".transition")) key
      (E.canonicalDigest (.transitionRequest runId target reason)) with
    | .ok none => some (runId, target)
    | _ => none
  | .markReconciliationRequired id _ _ _ _ _ _ =>
    (db.activities.get? id).map fun a => (a.runId, .blockedReconciliation)
  | .openReconciliation runId activityId _ _ _ _ _ _ _ =>
    match db.cases.find? (fun c => c.activityId = activityId ∧ c.state = .opened) with
    | some _ => none
    | none => some (runId, .blockedReconciliation)
  | .resolveReconciliation id resolution _ _ _ _ _ =>
    (db.cases.get? id).bind fun row =>
      if row.record.state = .resolved then none
      else some (row.record.runId, RuntimeService.runTarget resolution)
  | .settleExhaustedVariation runId _ reservationId _ _ _ _ _ _ _ _ =>
    (db.reservations.get? reservationId).bind fun r => if r.state = .exceeded then none else some (runId, .failed)
  | _ => none

/-- Every run keeps its state, no revision falls, and a new run is `created` or `ready`. -/
structure SameStates (db : Db) (t : Table RunRow.runId) : Prop where
  kept : ∀ k r, db.runs.get? k = some r → ∃ r', t.get? k = some r' ∧ r'.state = r.state ∧ r.revision ≤ r'.revision
  fresh : ∀ k r, t.get? k = some r → db.runs.get? k = none → r.state = .created ∨ r.state = .ready

/-- What a committed call can do to the states of the runs. -/
inductive RunsStep (E : Env) (db : Db) (op : Op) (t : Table RunRow.runId) : Prop
  | same (hask : asksRun E db op = none) (h : SameStates db t)
  | moved {run run' : RunRow} (hset : db.runs.Sets run' t) (hrun : db.runs.get? run.runId = some run)
    (hk : run'.runId = run.runId) (hask : asksRun E db op = some (run.runId, run'.state))
    (ht : run'.state = run.state ∨ run'.state ∈ runTransitions run.state) (hrev : run'.revision = run.revision + 1)

/-! ## What the calls do -/

theorem sameStates_refl (db : Db) : SameStates db db.runs :=
  ⟨fun _ r h => ⟨r, h, rfl, Nat.le_refl _⟩, fun k r h hn => by rw [hn] at h; cases h⟩

variable {db db' : Db} {t : Table RunRow.runId} {run run' : RunRow} {id runId actorId : String} {E : Env}
  {ids : Db.EventIds}

theorem sameStates_of_sets (h : db.runs.Sets run' t) (hr : db.runs.get? id = some run) (hk : run'.runId = run.runId)
    (hs : run'.state = run.state) (hrev : run.revision ≤ run'.revision) : SameStates db t where
  kept k r hget := by
    by_cases he : k = run'.runId
    · subst he
      rw [hk, Table.get?_self hr] at hget
      cases hget
      exact ⟨run', h.get?_self, hs, hrev⟩
    · exact ⟨r, (h.get?_ne he).trans hget, rfl, Nat.le_refl _⟩
  fresh k r hget hn := by
    by_cases he : k = run'.runId
    · subst he
      rw [hk, Table.get?_self hr] at hn
      cases hn
    · rw [h.get?_ne he, hn] at hget
      cases hget

theorem sameStates_of_logs (h : db.Logs run' db') (hr : db.runs.get? id = some run) (hk : run'.runId = run.runId)
    (hs : run'.state = run.state) (hrev : run.revision ≤ run'.revision) : SameStates db db'.runs :=
  sameStates_of_sets h.1 hr hk hs hrev

theorem sameStates_bump (h : db.Logs (Db.bump run run) db') (hr : db.runs.get? id = some run) :
    SameStates db db'.runs :=
  sameStates_of_logs h hr rfl rfl (Nat.le_succ _)

theorem sameStates_created {experimentId : String} {prepare : Bool} (hfresh : ∀ r ∈ db.runs, r.runId ≠ runId)
    (h : db.runs.Sets (createdRun runId experimentId prepare) t) : SameStates db t where
  kept k r hget := by
    refine ⟨r, (h.get?_ne ?_).trans hget, rfl, Nat.le_refl _⟩
    rw [createdRun_runId]
    rintro rfl
    exact hfresh r (Table.get?_mem hget) (Table.get?_key hget)
  fresh k r hget hn := by
    by_cases he : k = (createdRun runId experimentId prepare).runId
    · subst he
      rw [h.get?_self] at hget
      cases hget
      cases prepare
      · exact .inl rfl
      · exact .inr rfl
    · rw [h.get?_ne he, hn] at hget
      cases hget

theorem RunService.transition_runs {target : RunState} {expected : Option Nat} {reason key scope : Option String}
    {recordId : String}
    (h : transition E db runId target actorId expected reason key scope ids recordId = .ok (db', run')) :
    RunsStep E db (.transition runId target actorId expected reason key scope ids recordId) db'.runs := by
  simp only [transition, bind_ok] at h
  obtain ⟨prior, hprior, h⟩ := h
  cases prior with
  | some _ =>
    simp only [bind_ok, orRaise_ok, pure_ok, Prod.mk.injEq] at h
    obtain ⟨_, -, rfl, -⟩ := h
    exact .same (by simp only [asksRun, hprior]) (sameStates_refl db)
  | none =>
    simp only [bind_ok, orRaise_ok, requireRunTransition_ok, require_ok, exists_const, pure_ok, Prod.mk.injEq] at h
    obtain ⟨run, hr, ht, -, _, hev, _, hi, rfl, -⟩ := h
    obtain ⟨es, os, rfl, -⟩ := Db.appendEvent_ok hev
    obtain ⟨is, rfl⟩ := recordIdempotency_ok hi
    have hk := Table.get?_key hr
    subst hk
    let changed (r : RunRow) : RunRow :=
      { r with state := target, revision := run.revision + 1, eventSequence := run.eventSequence + 1 }
    have hset : db.runs.Sets (changed run) _ := Table.sets_modify changed (fun _ => rfl) hr
    exact .moved hset hr rfl (by simp only [asksRun, hprior, changed]) (.inr ht) rfl

theorem Db.appendNextEvent_sets {r : RunRow} {eventType : String} {payload : Payload} {ids : EventIds}
    (h : db.appendNextEvent run eventType actorId payload ids = .ok db') (hr : db.runs.get? run.runId = some r) :
    db.runs.Sets (bump run r) db'.runs := by
  obtain ⟨_, _, _, rfl, hlog⟩ := appendNextEvent_ok h hr
  exact hlog.1

namespace ActivityService
variable {db db' : Db}

theorem suspendSession_runs (db : Db) (id : Option String) : (suspendSession db id).runs = db.runs := by
  obtain ⟨ss, h⟩ := suspendSession_eq db id
  rw [h]

theorem holdReservation_runs (db : Db) (id : Option String) : (holdReservation db id).runs = db.runs := by
  obtain ⟨rs, h, -⟩ := holdReservation_eq db id
  rw [h]

theorem markReconciliationRequired_runs {E : Env} {activityId actorId reason : String} {epoch : Option Nat}
    {id : String} {now : Instant} {ids : Db.EventIds}
    (h : markReconciliationRequired db activityId actorId reason epoch id now ids = .ok db') :
    RunsStep E db (.markReconciliationRequired activityId actorId reason epoch id now ids) db'.runs := by
  simp only [markReconciliationRequired, bind_ok, orRaise_ok, require_ok, exists_const, Db.insertCase, insertRow_ok,
    pure_ok] at h
  obtain ⟨a, ha, -, -, run, hrun, d₁, hblock, -, _, ⟨cs, -, rfl⟩, hev⟩ := h
  have hk : run.runId = a.runId := Table.get?_key hrun
  have hr : db.runs.get? run.runId = some run := Table.get?_self hrun
  obtain ⟨ns, rfl, hns, ht⟩ := blockRun_ok hblock hr
  have hset := Db.appendNextEvent_sets hev (r := { run with state := .blockedReconciliation })
    (by rw [holdReservation_runs, suspendSession_runs]; exact hns.get?_self)
  rw [holdReservation_runs, suspendSession_runs] at hset
  refine .moved (hns.trans hset rfl) hr rfl ?_ (ht.imp_left Eq.symm) rfl
  simp [asksRun, ha, hk, Db.bump]

end ActivityService

namespace RuntimeService
variable {db db' : Db}

variable {E : Env} {actorId id : String} {now : Instant} {ids : Db.EventIds} {record : ReconciliationCaseRecord}

theorem openReconciliation_runs {runId activityId reason : String} {sessionId reservationId : Option String}
    (h : openReconciliation db runId activityId reason actorId sessionId reservationId id now ids = .ok (db', record)) :
    RunsStep E db (.openReconciliation runId activityId reason actorId sessionId reservationId id now ids) db'.runs := by
  unfold openReconciliation at h
  split at h
  · next hopen =>
    cases h
    exact .same (by simp only [asksRun, hopen]) (sameStates_refl db)
  · next hnone =>
    simp only [bind_ok, orRaise_ok, require_ok, exists_const, Db.insertCase, insertRow_ok, pure_ok, Prod.mk.injEq] at h
    obtain ⟨a, -, run, hrun, -, -, d₁, hblock, d₂, hsess, d₃, hres, -, _, ⟨cs, -, rfl⟩, _, hev, rfl, rfl⟩ := h
    have hk : run.runId = runId := Table.get?_key hrun
    have hr : db.runs.get? run.runId = some run := Table.get?_self hrun
    obtain ⟨acts, hacts⟩ := parkActivity_eq db a
    rw [hacts] at hblock
    obtain ⟨ns, rfl, hns, ht⟩ := ActivityService.blockRun_ok hblock hr
    obtain ⟨ss, rfl⟩ := suspendSession_ok hsess
    obtain ⟨rs, rfl, -⟩ := holdReservation_ok hres
    have hset := Db.appendNextEvent_sets hev (r := { run with state := .blockedReconciliation }) hns.get?_self
    refine .moved (hns.trans hset rfl) hr rfl ?_ (ht.imp_left Eq.symm) rfl
    simp only [asksRun, hnone, hk, Db.bump]

theorem resolveReconciliation_runs {resolution : Resolution} {note : String} {digest : Option String}
    (h : resolveReconciliation db id resolution note actorId digest now ids = .ok (db', record)) :
    RunsStep E db (.resolveReconciliation id resolution note actorId digest now ids) db'.runs := by
  have hcommitted := h
  simp only [resolveReconciliation, bind_ok, orRaise_ok] at h
  obtain ⟨row, hrow, h⟩ := h
  cases hst : row.record.state with
  | opened =>
    obtain ⟨run, _, _, _, _, _, _, _, _, rfl, hrun, ht, -, -, -, -, hlog⟩ := resolveReconciliation_opened hrow hst hcommitted
    have hk : run.runId = row.record.runId := Table.get?_key hrun
    exact .moved hlog.1 (Table.get?_self hrun) rfl (by simp [asksRun, hrow, hst, hk, Db.bump]) (.inr ht) rfl
  | resolved =>
    simp only [hst, if_true, bind_ok, require_ok, exists_const, pure_ok, Prod.mk.injEq] at h
    rw [← h.2.1]
    exact .same (by simp [asksRun, hrow, hst]) (sameStates_refl db)

end RuntimeService

theorem TerminalBudgetService.settleExhaustedVariation_runs {activityId reservationId digest : String}
    {actual requiredEvaluation : UsageRecord} {bundle : String} {epoch : Option Nat} {now : Instant}
    (h : settleExhaustedVariation E db runId activityId reservationId digest actual requiredEvaluation bundle actorId
      epoch now ids = .ok db') :
    RunsStep E db (.settleExhaustedVariation runId activityId reservationId digest actual requiredEvaluation bundle
      actorId epoch now ids) db'.runs := by
  simp only [settleExhaustedVariation, bind_ok, orRaise_ok, require_ok, exists_const] at h
  obtain ⟨run, hrun, activity, -, reservation, hres, ledger, hl, -, -, -, -, -, h⟩ := h
  have hk : run.runId = runId := Table.get?_key hrun
  have hkr := Table.get?_key hres
  have hr : db.runs.get? run.runId = some run := Table.get?_self hrun
  split at h
  · next hs =>
    have hask : asksRun E db (.settleExhaustedVariation runId activityId reservationId digest actual requiredEvaluation
        bundle actorId epoch now ids) = none := by simp [asksRun, hres, hs]
    simp only [replay, bind_ok, orRaise_ok, require_ok, exists_const] at h
    obtain ⟨prior, -, -, -, h⟩ := h
    split at h
    · have hset := Db.appendNextEvent_sets h (r := run) hr
      exact .same hask (sameStates_of_sets hset hr rfl rfl (Nat.le_succ _))
    · rw [← pure_ok.1 h]
      exact .same hask (sameStates_refl db)
  · next hs =>
    obtain ⟨_, _, _, _, _, _, _, _, _, _, _, _, rfl, -, -, -, ht, -, -, -, hlog⟩ :=
      settle_ok h hr (by rw [hkr]; exact hres) (hk ▸ hl)
    refine .moved hlog.1 hr rfl ?_ (ht.imp_left Eq.symm) rfl
    simp [asksRun, hres, hs, hk, Db.bump]

theorem exec_runs {op : Op} (h : exec E db op = .ok db') : RunsStep E db op db'.runs := by
  have bumps := exec_bumps h
  cases op <;> simp only [exec, map_ok, Prod.exists, exists_and_right, exists_eq_right] at h
  case createRun =>
    obtain ⟨_, h⟩ := h
    obtain rfl | ⟨runId, run, _, _, _, _, _, _, _, rfl, rfl, ⟨_, _, _, _, hfresh, hset, -⟩, -⟩ := RunService.createRun_ok h
    · exact .same rfl (sameStates_refl _)
    · exact .same rfl (sameStates_created hfresh hset)
  case transition =>
    obtain ⟨_, h⟩ := h
    exact RunService.transition_runs h
  case markReconciliationRequired => exact ActivityService.markReconciliationRequired_runs h
  case openReconciliation =>
    obtain ⟨_, h⟩ := h
    exact RuntimeService.openReconciliation_runs h
  case resolveReconciliation =>
    obtain ⟨_, h⟩ := h
    exact RuntimeService.resolveReconciliation_runs h
  case settleExhaustedVariation => exact TerminalBudgetService.settleExhaustedVariation_runs h
  case commitAdmission =>
    obtain ⟨_, h⟩ := h
    obtain ⟨rfl, -⟩ | ⟨run, c, _, _, _, -, hr, -, -, -, -, -, -, ⟨-, rfl⟩ | ⟨-, -, _, _, _, _, _, rfl, -, -, -, hlog⟩⟩ :=
      EvidenceService.commitAdmission_ok h
    · exact .same rfl (sameStates_refl _)
    · exact .same rfl (sameStates_refl _)
    · exact .same rfl (sameStates_of_logs hlog hr rfl rfl (Nat.le_succ _))
  all_goals
    refine .same rfl ?_
    obtain ⟨hr, -⟩ | ⟨run, hr, hlog⟩ := bumps rfl
    · exact hr ▸ sameStates_refl _
    · exact sameStates_bump hlog hr

end AvoCorrelate
