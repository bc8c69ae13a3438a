import AvoCorrelate.Activities
/-!
# Variation sessions

Five calls write the state of a variation session. `SessionStep` says what each
makes of the row, `exec_sessions` that no call does anything else: a session
starts `queued`, and is `running` again only after `start` or a resolution.
-/
open AvoLib

namespace AvoCorrelate

/-- What a committed call can make of the row of a session. -/
inductive SessionStep (db : Db) (s : VariationSessionRow) : Op → VariationSessionRow → Prop
  | started {run : RunRow} (hrun : db.runs.get? s.runId = some run) (hr : run.state = .running)
    (halone : ∀ x ∈ db.sessions, ¬ (x.runId = s.runId ∧ x.state = .running ∧ x.sessionId ≠ s.sessionId))
    (ht : .running ∈ sessionTransitions s.state) :
    SessionStep db s (.startSession s.sessionId) { s with state := .running }
  | finished {result : VariationSessionResult} (hid : result.sessionId = s.sessionId) (hn : s.result = none)
    (ht : result.outcome.state ∈ sessionTransitions s.state) :
    SessionStep db s (.finishSession result) { s with state := result.outcome.state, result := some result }
  | suspended {op : Op} (ht : .reconciliationRequired ∈ sessionTransitions s.state) :
    SessionStep db s op { s with state := .reconciliationRequired }
  | resolved {id : String} {row : ReconciliationCaseRow} {run : RunRow} {resolution : Resolution} {note actorId : String}
    {digest : Option String} {now : Instant} {ids : Db.EventIds} (hrow : db.cases.get? id = some row)
    (ho : row.record.state = .opened) (hid : row.record.sessionId = some s.sessionId)
    (hrun : db.runs.get? row.record.runId = some run)
    (hr : RuntimeService.runTarget resolution ∈ runTransitions run.state)
    (ht : RuntimeService.sessionTarget resolution ∈ sessionTransitions s.state) :
    SessionStep db s (.resolveReconciliation id resolution note actorId digest now ids)
      { s with state := RuntimeService.sessionTarget resolution }

/-- The session a call would move, and the state it would move it to. A replay
asks for nothing, and `mark_reconciliation_required` only for a running session. -/
def asksSession (db : Db) : Op → Option (String × VariationSessionState)
  | .startSession id => (db.sessions.get? id).bind fun s => if s.state = .running then none else some (id, .running)
  | .finishSession result =>
    (db.sessions.get? result.sessionId).bind fun s =>
      if s.result.isSome then none else some (result.sessionId, result.outcome.state)
  | .markReconciliationRequired id _ _ _ _ _ _ =>
    (db.activities.get? id).bind fun a => a.sessionId.bind fun k => (db.sessions.get? k).bind fun s =>
      if s.state = .running then some (k, .reconciliationRequired) else none
  | .openReconciliation _ activityId _ _ sessionId _ _ _ _ =>
    match db.cases.find? (fun c => c.activityId = activityId ∧ c.state = .opened) with
    | some _ => none
    | none =>
      (db.activities.get? activityId).bind fun a => (orElse sessionId a.sessionId).bind fun k =>
        (db.sessions.get? k).bind fun s =>
          if s.state = .reconciliationRequired then none else some (k, .reconciliationRequired)
  | .resolveReconciliation id resolution _ _ _ _ _ =>
    (db.cases.get? id).bind fun row =>
      if row.record.state = .resolved then none
      else row.record.sessionId.map fun k => (k, RuntimeService.sessionTarget resolution)
  | _ => none

/-- What a committed call can make of the sessions: nothing, a new one that is
queued, or one step of one session. -/
inductive SessionsStep (db : Db) (op : Op) (t : Table VariationSessionRow.sessionId) : Prop
  | same (h : t = db.sessions) (hask : asksSession db op = none)
  | queued {request : VariationSessionRequest} {number : Nat} (hop : op = .enqueueSession request)
    (h : db.sessions.insert? ⟨request.sessionId, request.runId, number, .queued, request, none⟩ = some t)
  | changed {s s' : VariationSessionRow} (hs : db.sessions.get? s.sessionId = some s) (hstep : SessionStep db s op s')
    (hask : asksSession db op = some (s.sessionId, s'.state)) (hset : db.sessions.Sets s' t)

variable {db db' : Db} {s s' : VariationSessionRow} {op : Op} {k actorId : String} {E : Env}

theorem SessionStep.identity (h : SessionStep db s op s') :
    s'.sessionId = s.sessionId ∧ s'.runId = s.runId ∧ s'.sessionNumber = s.sessionNumber ∧ s'.request = s.request := by
  cases h <;> exact ⟨rfl, rfl, rfl, rfl⟩

theorem SessionStep.table (h : SessionStep db s op s') : s'.state ∈ sessionTransitions s.state := by
  cases h with
  | started _ _ _ ht | finished _ _ ht | suspended ht | resolved _ _ _ _ _ ht => exact ht

/-! ## What the calls do -/

/-- The session named changed to `reconciliation_required`, or it is `idle` (or absent) and stays so. -/
def Suspends (idle : VariationSessionState → Prop) (id : Option String) (t t' : Table VariationSessionRow.sessionId) :
    Prop :=
  (t' = t ∧ ∀ k s, id = some k → t.get? k = some s → idle s.state) ∨ ∃ s, id = some s.sessionId ∧
    t.get? s.sessionId = some s ∧ .reconciliationRequired ∈ sessionTransitions s.state ∧
    t.Sets { s with state := .reconciliationRequired } t'

theorem running_of_suspends {s : VariationSessionState} (h : .reconciliationRequired ∈ sessionTransitions s) :
    s = .running := by
  revert h
  cases s <;> decide

theorem Suspends.step {idle : VariationSessionState → Prop} {id : Option String}
    {t : Table VariationSessionRow.sessionId} (h : Suspends idle id db.sessions t)
    (hnone : (∀ k s, id = some k → db.sessions.get? k = some s → idle s.state) → asksSession db op = none)
    (hask : ∀ s, id = some s.sessionId → db.sessions.get? s.sessionId = some s → s.state = .running →
      asksSession db op = some (s.sessionId, .reconciliationRequired)) : SessionsStep db op t := by
  obtain ⟨h, hidle⟩ | ⟨s, hid, hs, ht, hset⟩ := h
  · exact .same h (hnone hidle)
  · exact .changed hs (.suspended ht) (hask s hid hs (running_of_suspends ht)) hset

theorem Db.sets_setSessionState {state : VariationSessionState} (h : db.sessions.get? k = some s) :
    db.sessions.Sets { s with state := state } (db.setSessionState k state).sessions :=
  Table.sets_modify (fun r : VariationSessionRow => { r with state := state }) (fun _ => rfl) h

theorem Db.appendNextEvent_sessions {run : RunRow} {eventType : String} {payload : Payload} {ids : EventIds}
    (h : db.appendNextEvent run eventType actorId payload ids = .ok db') : db'.sessions = db.sessions := by
  obtain ⟨_, _, rfl, -⟩ := appendEvent_ok h
  rfl

namespace SessionService
variable {db db' : Db}

theorem enqueue_sessions {E : Env} {request : VariationSessionRequest} (h : enqueue E db request = .ok db') :
    SessionsStep db (.enqueueSession request) db'.sessions := by
  simp only [enqueue] at h
  split at h
  · simp only [bind_ok, require_ok, exists_const, pure_ok] at h
    exact .same (by rw [h.2]) rfl
  · simp only [Db.insertSession, bind_ok, orRaise_ok, require_ok, exists_const, insertRow_ok, pure_ok] at h
    obtain ⟨_, -, -, ss, ⟨-, hss⟩, rfl⟩ := h
    exact .queued rfl hss

theorem start_sessions {id : String} (h : start db id = .ok db') : SessionsStep db (.startSession id) db'.sessions := by
  simp only [start, bind_ok, orRaise_ok] at h
  obtain ⟨s, hs, h⟩ := h
  have hk := Table.get?_key hs
  subst hk
  split at h
  · next hr => exact .same (by rw [pure_ok.1 h]) (by simp [asksSession, hs, hr])
  · next hn =>
    simp only [bind_ok, orRaise_ok, require_ok, requireSessionTransition_ok, exists_const, pure_ok] at h
    obtain ⟨run, hrun, hr, halone, ht, rfl⟩ := h
    exact .changed hs (.started hrun hr halone ht) (by simp [asksSession, hs, hn]) (Db.sets_setSessionState hs)

theorem finish_sessions {E : Env} {result : VariationSessionResult} (h : finish E db result = .ok db') :
    SessionsStep db (.finishSession result) db'.sessions := by
  simp only [finish, bind_ok, orRaise_ok] at h
  obtain ⟨s, hs, h⟩ := h
  have hk : s.sessionId = result.sessionId := Table.get?_key hs
  split at h
  · next hsome =>
    simp only [bind_ok, require_ok, exists_const, pure_ok] at h
    exact .same (by rw [h.2]) (by simp [asksSession, hs, hsome])
  · next hn =>
    simp only [bind_ok, requireSessionTransition_ok, exists_const, pure_ok] at h
    obtain ⟨ht, rfl⟩ := h
    have hset : db.sessions.Sets { s with state := result.outcome.state, result := some result }
        (db.updateSession result.sessionId (fun r => { r with state := result.outcome.state, result := some result })
          (fun _ => rfl)).sessions :=
      Table.sets_modify (fun r : VariationSessionRow => { r with state := result.outcome.state, result := some result })
        (fun _ => rfl) hs
    exact .changed (hk ▸ hs) (.finished hk.symm hn ht) (by simp [asksSession, hs, hn, hk]) hset

end SessionService

namespace ActivityService
variable {db db' : Db}

theorem suspendSession_suspends (db : Db) (id : Option String) :
    Suspends (· ≠ .running) id db.sessions (suspendSession db id).sessions := by
  unfold suspendSession
  split
  · exact .inl ⟨rfl, fun _ _ hk _ => by cases hk⟩
  · next k =>
    split
    · next s hs =>
      split
      · next hr =>
        have hk := Table.get?_key hs
        subst hk
        exact .inr ⟨s, rfl, hs, by rw [hr]; decide, Db.sets_setSessionState hs⟩
      · next hr =>
        refine .inl ⟨rfl, fun k' s' hk hs' => ?_⟩
        cases hk
        rw [hs] at hs'
        cases hs'
        exact hr
    · next hnone =>
      refine .inl ⟨rfl, fun k' s' hk hs' => ?_⟩
      cases hk
      rw [hnone] at hs'
      cases hs'

theorem holdReservation_sessions (db : Db) (id : Option String) : (holdReservation db id).sessions = db.sessions := by
  obtain ⟨rs, h, -⟩ := holdReservation_eq db id
  rw [h]

theorem blockRun_sessions {run : RunRow} (h : blockRun db run = .ok db') : db'.sessions = db.sessions := by
  unfold blockRun at h
  split at h
  · cases h; rfl
  · simp only [bind_ok, requireRunTransition_ok, exists_const, pure_ok] at h
    rw [← h.2]
    rfl

theorem markReconciliationRequired_sessions {activityId actorId reason : String} {epoch : Option Nat} {id : String}
    {now : Instant} {ids : Db.EventIds}
    (h : markReconciliationRequired db activityId actorId reason epoch id now ids = .ok db') :
    SessionsStep db (.markReconciliationRequired activityId actorId reason epoch id now ids) db'.sessions := by
  simp only [markReconciliationRequired, bind_ok, orRaise_ok, require_ok, exists_const, Db.insertCase, insertRow_ok,
    pure_ok] at h
  obtain ⟨a, ha, -, -, run, -, d₁, hblock, -, _, ⟨cs, -, rfl⟩, hev⟩ := h
  have hblocked : d₁.sessions = db.sessions := by rw [blockRun_sessions hblock]; rfl
  have hsuspended : Suspends (· ≠ .running) a.sessionId db.sessions
      (suspendSession { d₁ with cases := cs } a.sessionId).sessions :=
    hblocked ▸ suspendSession_suspends { d₁ with cases := cs } a.sessionId
  have hheld := holdReservation_sessions (suspendSession { d₁ with cases := cs } a.sessionId) a.budgetReservationId
  rw [Db.appendNextEvent_sessions hev, hheld]
  refine hsuspended.step (fun hidle => ?_) fun s hid hs hr => by simp [asksSession, ha, hid, hs, hr]
  simp only [asksSession, ha, Option.bind_some, Option.bind_eq_none_iff]
  intro k hk s hs
  rw [if_neg (hidle k s hk hs)]

end ActivityService

namespace RuntimeService
variable {db db' : Db}

variable {runId actorId : String} {id : Option String} {now : Instant} {ids : Db.EventIds}
  {record : ReconciliationCaseRecord} {resolution : Resolution}

theorem suspendSession_suspends (h : suspendSession db runId id = .ok db') :
    Suspends (· = .reconciliationRequired) id db.sessions db'.sessions := by
  unfold suspendSession at h
  split at h
  · cases h; exact .inl ⟨rfl, fun _ _ hk _ => by cases hk⟩
  · simp only [bind_ok, orRaise_ok, require_ok, exists_const] at h
    obtain ⟨s, hs, -, h⟩ := h
    have hk := Table.get?_key hs
    subst hk
    split at h
    · next hr =>
      cases h
      refine .inl ⟨rfl, fun k s' hk hs' => ?_⟩
      cases hk
      rw [hs] at hs'
      cases hs'
      exact hr
    · simp only [bind_ok, requireSessionTransition_ok, exists_const, pure_ok] at h
      obtain ⟨ht, rfl⟩ := h
      exact .inr ⟨s, rfl, hs, ht, Db.sets_setSessionState hs⟩

theorem openReconciliation_sessions {activityId reason : String} {sessionId reservationId : Option String} {id : String}
    (h : openReconciliation db runId activityId reason actorId sessionId reservationId id now ids = .ok (db', record)) :
    SessionsStep db (.openReconciliation runId activityId reason actorId sessionId reservationId id now ids)
      db'.sessions := by
  unfold openReconciliation at h
  split at h
  · next hopen => cases h; exact .same rfl (by simp only [asksSession, hopen])
  · next hnone =>
    simp only [bind_ok, orRaise_ok, require_ok, exists_const, Db.insertCase, insertRow_ok, pure_ok, Prod.mk.injEq] at h
    obtain ⟨a, ha, run, -, -, -, d₁, hblock, d₂, hsess, d₃, hres, -, _, ⟨cs, -, rfl⟩, _, hev, rfl, rfl⟩ := h
    obtain ⟨rs, rfl, -⟩ := holdReservation_ok hres
    have hblocked : d₁.sessions = db.sessions := by
      obtain ⟨acts, hacts⟩ := parkActivity_eq db a
      rw [ActivityService.blockRun_sessions hblock, hacts]
    have hsuspended : Suspends (· = .reconciliationRequired) (orElse sessionId a.sessionId) db.sessions d₂.sessions :=
      hblocked ▸ suspendSession_suspends hsess
    rw [Db.appendNextEvent_sessions hev]
    refine hsuspended.step (fun hidle => ?_) fun s hid hs hr => ?_
    · simp only [asksSession, hnone, ha, Option.bind_some, Option.bind_eq_none_iff]
      intro k hk s hs
      rw [if_pos (hidle k s hk hs)]
    · simp only [asksSession, hnone, ha, Option.bind_some, hid, hs, hr]
      rfl

theorem settleSession_sessions (h : settleSession db id resolution = .ok db') :
    (id = none ∧ db'.sessions = db.sessions) ∨ ∃ s, id = some s.sessionId ∧ db.sessions.get? s.sessionId = some s ∧
      sessionTarget resolution ∈ sessionTransitions s.state ∧
      db.sessions.Sets { s with state := sessionTarget resolution } db'.sessions := by
  unfold settleSession at h
  split at h
  · cases h; exact .inl ⟨rfl, rfl⟩
  · simp only [bind_ok, orRaise_ok, requireSessionTransition_ok, exists_const, pure_ok] at h
    obtain ⟨s, hs, ht, rfl⟩ := h
    have hk := Table.get?_key hs
    subst hk
    exact .inr ⟨s, rfl, hs, ht, Db.sets_setSessionState hs⟩

theorem resolveReconciliation_sessions {id : String} {note : String} {digest : Option String}
    (h : resolveReconciliation db id resolution note actorId digest now ids = .ok (db', record)) :
    SessionsStep db (.resolveReconciliation id resolution note actorId digest now ids) db'.sessions := by
  simp only [resolveReconciliation, bind_ok, orRaise_ok] at h
  obtain ⟨row, hrow, h⟩ := h
  split at h
  · next hst =>
    simp only [bind_ok, require_ok, exists_const, pure_ok, Prod.mk.injEq] at h
    exact .same (by rw [h.2.1]) (by simp [asksSession, hrow, hst])
  · next hst =>
    simp only [bind_ok, orRaise_ok, requireRunTransition_ok, exists_const, pure_ok, Prod.mk.injEq] at h
    obtain ⟨a, -, run, hrun, d₁, hact, hr, d₂, hsess, d₃, hres, _, hev, rfl, rfl⟩ := h
    obtain ⟨acts, rfl⟩ := settleActivity_ok hact
    obtain ⟨rs, ls, rfl, -⟩ := settleReservation_ok hres
    have hsettled := settleSession_sessions hsess
    rw [Db.appendNextEvent_sessions hev]
    obtain ⟨hid, hsame⟩ | ⟨s, hid, hs, ht, hset⟩ := hsettled
    · exact .same hsame (by simp [asksSession, hrow, hid])
    · exact .changed hs (.resolved hrow (opened_of_ne_resolved hst) hid hrun hr ht)
        (by simp [asksSession, hrow, hst, hid]) hset

end RuntimeService

theorem exec_sessions (h : exec E db op = .ok db') : SessionsStep db op db'.sessions := by
  have same := exec_frame h
  cases op <;> simp only [exec, map_ok, Prod.exists, exists_and_right, exists_eq_right] at h
  case markReconciliationRequired => exact ActivityService.markReconciliationRequired_sessions h
  case openReconciliation =>
    obtain ⟨_, h⟩ := h
    exact RuntimeService.openReconciliation_sessions h
  case resolveReconciliation =>
    obtain ⟨_, h⟩ := h
    exact RuntimeService.resolveReconciliation_sessions h
  case enqueueSession => exact SessionService.enqueue_sessions h
  case startSession => exact SessionService.start_sessions h
  case finishSession => exact SessionService.finish_sessions h
  all_goals exact .same (same .sessions rfl) rfl

theorem exec_session (h : exec E db op = .ok db') (hs : db.sessions.get? k = some s) : db'.sessions.get? k = some s ∨
      ∃ s', db'.sessions.get? k = some s' ∧ SessionStep db s op s' ∧ asksSession db op = some (k, s'.state) := by
  cases exec_sessions h with
  | same hsame _ => exact .inl (hsame ▸ hs)
  | queued _ hins => exact .inl (Table.get?_insert_of_some hins hs)
  | @changed x x' hx hstep hask hset =>
    have hid := hstep.identity.1
    by_cases hk : k = x.sessionId
    · subst hk
      obtain rfl : x = s := Option.some.inj (hx.symm.trans hs)
      exact .inr ⟨x', hid ▸ hset.get?_self, hstep, hask⟩
    · exact .inl ((hset.get?_ne (hid ▸ hk)).trans hs)

theorem exec_session_new (h : exec E db op = .ok db') (hs : db'.sessions.get? k = some s)
    (hn : db.sessions.get? k = none) : s.state = .queued ∧ s.result = none := by
  cases exec_sessions h with
  | same hsame _ => rw [hsame, hn] at hs; cases hs
  | @queued request number _ hins =>
    rw [Table.get?_insert hins, hn] at hs
    split at hs
    · cases hs; exact ⟨rfl, rfl⟩
    · cases hs
  | @changed x x' hx hstep _ hset =>
    have hk : k ≠ x'.sessionId := by
      rintro rfl
      rw [hstep.identity.1, hx] at hn
      cases hn
    rw [hset.get?_ne hk, hn] at hs
    cases hs

/-! ## One running session per run -/

/-- At most one variation session of each run is `running`. -/
def OneActive (db : Db) : Prop :=
  ∀ s ∈ db.sessions, ∀ s' ∈ db.sessions, s.runId = s'.runId → s.state = .running → s'.state = .running → s = s'

def alone (db : Db) (runId sessionId : String) : Bool :=
  db.sessions.rows.all fun x => ¬ (x.runId = runId ∧ x.state = .running ∧ x.sessionId ≠ sessionId)

/-- A resolution that sets the session of its case running again finds no other
session of that session's run running. -/
def sessionSafe (db : Db) : Op → Bool
  | .resolveReconciliation id resolution _ _ _ _ _ =>
    (db.cases.get? id).all fun row => row.record.state = .resolved || decide (resolution = .cancel ∨ resolution = .fail) ||
      row.record.sessionId.all fun k => (db.sessions.get? k).all fun s => alone db s.runId s.sessionId
  | _ => true

theorem alone_iff {runId sessionId : String} : alone db runId sessionId = true ↔
    ∀ x ∈ db.sessions, ¬ (x.runId = runId ∧ x.state = .running ∧ x.sessionId ≠ sessionId) := by
  simp only [alone, List.all_eq_true, decide_eq_true_eq]
  exact Iff.rfl

theorem SessionStep.alone (h : SessionStep db s op s') (hs : db.sessions.get? s.sessionId = some s)
    (hsafe : sessionSafe db op = true) (hr : s'.state = .running) :
    ∀ x ∈ db.sessions, ¬ (x.runId = s.runId ∧ x.state = .running ∧ x.sessionId ≠ s.sessionId) := by
  cases h with
  | started _ _ halone _ => exact halone
  | @finished result _ _ _ =>
    have hout : result.outcome.state ≠ .running := by cases result.outcome <;> decide
    exact absurd hr hout
  | suspended _ => cases hr
  | @resolved id row run resolution note actorId digest now ids hrow ho hid _ _ _ =>
    have hres : ¬ (resolution = .cancel ∨ resolution = .fail) := by
      rintro (rfl | rfl)
      · cases hr
      · cases hr
    simp only [sessionSafe, hrow, Option.all_some, ho, reduceCtorEq, decide_false, Bool.false_or, hid, hs, hres] at hsafe
    exact alone_iff.mp hsafe

theorem OneActive.step (h : OneActive db) (he : exec E db op = .ok db') (hsafe : sessionSafe db op = true) :
    OneActive db' := by
  cases exec_sessions he with
  | same hsame _ =>
    unfold OneActive
    rw [hsame]
    exact h
  | queued _ hins =>
    intro s hs s' hs' hrun hr hr'
    rcases (Table.mem_insert hins).1 hs with hs | rfl
    · rcases (Table.mem_insert hins).1 hs' with hs' | rfl
      · exact h s hs s' hs' hrun hr hr'
      · cases hr'
    · cases hr
  | @changed x x' hx hstep _ hset =>
    obtain ⟨hid, hrunId, -, -⟩ := hstep.identity
    -- A session that is running after the step, beside the one that changed.
    have hother (y : VariationSessionRow) (hy : y ∈ db.sessions) (hk : y.sessionId ≠ x'.sessionId)
        (hrun : y.runId = x'.runId) (hr : y.state = .running) (hr' : x'.state = .running) : False :=
      hstep.alone hx hsafe hr' y hy ⟨hrun.trans hrunId, hr, hid ▸ hk⟩
    intro s hs s' hs' hrun hr hr'
    rcases hset.mem_iff.1 hs with rfl | ⟨hs, hk⟩
    · rcases hset.mem_iff.1 hs' with rfl | ⟨hs', hk'⟩
      · rfl
      · exact (hother s' hs' hk' hrun.symm hr' hr).elim
    · rcases hset.mem_iff.1 hs' with rfl | ⟨hs', -⟩
      · exact (hother s hs hk hrun hr hr').elim
      · exact h s hs s' hs' hrun hr hr'

theorem resolution_breaks_exclusivity {id : String} {resolution : Resolution} {note : String} {digest : Option String}
    {now : Instant} {ids : Db.EventIds}
    (he : exec E db (.resolveReconciliation id resolution note actorId digest now ids) = .ok db')
    (hn : sessionSafe db (.resolveReconciliation id resolution note actorId digest now ids) = false) :
    ¬ OneActive db' := by
  intro hone
  simp only [sessionSafe, Option.all_eq_false, Bool.or_eq_false_iff, decide_eq_false_iff_not] at hn
  obtain ⟨row, hrow, ⟨ho, hres⟩, k, hk, s, hs, halone⟩ := hn
  have hk' := Table.get?_key hs
  subst hk'
  have hrunning : RuntimeService.sessionTarget resolution = .running := by
    cases resolution with
    | retry | acceptResult => rfl
    | cancel => exact absurd (.inl rfl) hres
    | fail => exact absurd (.inr rfl) hres
  simp only [exec, map_ok, Prod.exists, exists_and_right, exists_eq_right] at he
  obtain ⟨_, he⟩ := he
  simp only [RuntimeService.resolveReconciliation, bind_ok, orRaise_ok, hrow, Option.some.injEq, exists_eq_left', ho,
    if_false, requireRunTransition_ok, exists_const, pure_ok, Prod.mk.injEq] at he
  obtain ⟨a, -, run, -, d₁, hact, -, d₂, hsess, d₃, hres, d₄, hev, rfl, -⟩ := he
  obtain ⟨acts, rfl⟩ := RuntimeService.settleActivity_ok hact
  obtain ⟨rs, ls, rfl, -⟩ := RuntimeService.settleReservation_ok hres
  have hev := Db.appendNextEvent_sessions hev
  obtain ⟨hnone, -⟩ | ⟨s₀, hid, hs₀, -, hset⟩ := RuntimeService.settleSession_sessions hsess
  · rw [hk] at hnone
    cases hnone
  · have hid' : s.sessionId = s₀.sessionId := Option.some.inj (hk.symm.trans hid)
    obtain rfl : s = s₀ := Option.some.inj (hs.symm.trans (hid' ▸ hs₀))
    obtain ⟨x, hx, hrun, hr, hne⟩ : ∃ x ∈ db.sessions, x.runId = s.runId ∧ x.state = .running ∧
        x.sessionId ≠ s.sessionId := by
      by_contra hno
      have : alone db s.runId s.sessionId = true := alone_iff.mpr fun x hx hbad => hno ⟨x, hx, hbad⟩
      rw [halone] at this
      cases this
    have hx' : x ∈ d₄.sessions := hev ▸ hset.mem_iff.2 (.inr ⟨hx, hne⟩)
    have hs' : { s with state := RuntimeService.sessionTarget resolution } ∈ d₄.sessions := hev ▸ hset.mem_iff.2 (.inl rfl)
    have hsame := hone x hx' _ hs' hrun hr hrunning
    rw [hsame] at hne
    exact hne rfl

theorem sessionSafe_of_step (he : exec E db op = .ok db') (hone : OneActive db') : sessionSafe db op = true := by
  cases hsafe : sessionSafe db op with
  | true => rfl
  | false =>
    cases op with
    | resolveReconciliation => exact absurd hone (resolution_breaks_exclusivity he hsafe)
    | _ => cases hsafe

/-- In every run whose resolutions keep to the condition at most one variation
session of a run is running, and the next call keeps it so iff it does too. -/
theorem one_active_session {E : Env} {db : Db} (h : ReachableWhen E (fun db op => sessionSafe db op = true) db) :
    OneActive db ∧ ∀ op db', exec E db op = .ok db' → (OneActive db' ↔ sessionSafe db op = true) := by
  have hone : OneActive db :=
    Reaches.inv OneActive (fun s hs => (Table.not_mem_empty s hs).elim) (fun _ _ _ hi hsafe he => hi.step he hsafe) h
  exact ⟨hone, fun _ _ he => ⟨sessionSafe_of_step he, hone.step he⟩⟩

/-- The first session waits for a reconciliation while the second one runs, and
the run is blocked by an activity without a session. -/
def Sample.overlapping : List Op :=
  Sample.started "run" "tree" ++ [Sample.session "run" "first", Sample.session "run" "second", .startSession "first",
    Sample.reserved "run" "r" 1] ++ Sample.claimedFor "run" "first" "a" "r" ++ [Sample.disputed "a" "case-a",
    Sample.moved "run" .running "restarted", .startSession "second"] ++ Sample.claimed "run" "b" none ++
    [Sample.disputed "b" "case-b"]

theorem one_active_session_overlapping :
    OneActive (after Sample.env (Sample.overlapping ++ [Sample.resolved "case-b" .retry])) :=
  (one_active_session (reachableWhen_after (p := sessionSafe) (by decide +kernel))).1

/-- Trying the first activity again sets its session running beside the second. -/
theorem retry_runs_two_sessions : ¬ ∀ E db, Reachable E db → OneActive db := by
  intro h
  have hreach : Reachable Sample.env (after Sample.env (Sample.overlapping ++ [Sample.resolved "case-a" .retry])) :=
    reachable_after (by decide)
  have hone := h _ _ hreach
  unfold OneActive at hone
  simp only [Table.mem_def] at hone
  revert hone
  decide

end AvoCorrelate
