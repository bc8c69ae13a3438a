import AvoCorrelate.Reconciliation
/-!
# Leases and results of activities

`ActivityStep` says what any call of the control plane can make of the row of
one activity, `exec_activity` that every call does one of these things. Two
laws are read off it. A lease epoch only grows, so a worker whose activity was
claimed again is fenced out for good. And a recorded result stays, unless an
operator resolves a reconciliation case of an activity that has completed.
-/
open AvoLib

namespace AvoCorrelate
open ActivityService

def resolvedActivity (resolution : Resolution) (resultDigest : Option String) (a : ActivityRow) : ActivityRow :=
  match resolution with
  | .retry => { a with state := .queued }
  | .acceptResult => { a with state := .completed, resultDigest := resultDigest }
  | .cancel => { a with state := .cancelled }
  | .fail => { a with state := .failed }

theorem resolvedActivity_activityId (resolution : Resolution) (resultDigest : Option String) (a : ActivityRow) :
    (resolvedActivity resolution resultDigest a).activityId = a.activityId := by
  cases resolution <;> rfl

/-- What a committed call can make of the row of an activity. -/
inductive ActivityStep (db : Db) (a : ActivityRow) : Op → ActivityRow → Prop
  | same {op : Op} : ActivityStep db a op a
  | claimed {workerId : String} {leaseSeconds : Int} {claimedAt : Instant} {ids : Db.EventIds}
    {run : RunRow} (he : eligible claimedAt a = true) (hrun : db.runs.get? a.runId = some run) (hr : run.state = .running) :
    ActivityStep db a (.claimNext workerId leaseSeconds claimedAt ids) (claimed workerId (claimedAt + leaseSeconds) a)
  | finished {op : Op} {digest : String} (hs : a.state = .running) : ActivityStep db a op (finished digest a)
  | extended {op : Op} {expiresAt : Instant} (hs : a.state = .running) :
    ActivityStep db a op { a with leaseExpiresAt := some expiresAt }
  | parked {op : Op} (hs : a.state = .queued ∨ a.state = .running) : ActivityStep db a op (parked a)
  | resolved {id : String} {row : ReconciliationCaseRow} {resolution : Resolution} {note actorId : String}
    {digest : Option String} {now : Instant} {ids : Db.EventIds} (hrow : db.cases.get? id = some row)
    (ho : row.record.state = .opened) (ha : row.record.activityId = a.activityId)
    (hdigest : resolution = .acceptResult → digest.isSome = true) :
    ActivityStep db a (.resolveReconciliation id resolution note actorId digest now ids)
      (resolvedActivity resolution digest a)
  | settled {op : Op} {digest : String} (hs : a.state = .completed → a.resultDigest = some digest) :
    ActivityStep db a op (TerminalBudgetService.settledActivity digest a)
  | cancelled {op : Op} (hs : a.state = .queued ∨ a.state = .cancelled) :
    ActivityStep db a op { a with state := .cancelled }

/-- What a committed call can do to the activities: add one that is queued, or
take a step with each that is there. -/
inductive ActivitiesStep (db : Db) (op : Op) (t : Table ActivityRow.activityId) : Prop
  | queued {a : ActivityRow} (hs : a.state = .queued) (h : db.activities.insert? a = some t)
  | kept (hnew : ∀ k, db.activities.get? k = none → t.get? k = none)
    (hold : ∀ k a, db.activities.get? k = some a → ∃ a', t.get? k = some a' ∧ ActivityStep db a op a')

/-! ## What the calls do -/

variable {db db' : Db} {actorId k digest : String} {op : Op} {t : Table ActivityRow.activityId} {E : Env}
  {a a' : ActivityRow} {ids : Db.EventIds}

theorem Db.appendNextEvent_activities {run : RunRow} {eventType : String} {payload : Payload} {ids : EventIds}
    (h : db.appendNextEvent run eventType actorId payload ids = .ok db') : db'.activities = db.activities := by
  obtain ⟨_, _, rfl, -⟩ := appendEvent_ok h
  rfl

theorem ActivitiesStep.of_eq (h : t = db.activities) : ActivitiesStep db op t := by
  subst h
  exact .kept (fun _ h => h) fun _ a ha => ⟨a, ha, .same⟩

theorem ActivitiesStep.of_modify {k₀ : String} {b : ActivityRow} {f : ActivityRow → ActivityRow}
    (hf : ∀ r, (f r).activityId = r.activityId) (hb : db.activities.get? k₀ = some b) (hs : ActivityStep db b op (f b))
    (h : t = db.activities.modify k₀ f hf) : ActivitiesStep db op t := by
  subst h
  refine .kept (fun k hk => ?_) fun k a ha => ?_
  · rw [Table.get?_modify, hk]
    split
    · next he => rw [← he, hk]; rfl
    · rfl
  · rw [Table.get?_modify]
    by_cases hk : k = k₀
    · subst hk
      obtain rfl : b = a := Option.some.inj (hb.symm.trans ha)
      exact ⟨f b, by rw [if_pos rfl, hb]; rfl, hs⟩
    · exact ⟨a, by rw [if_neg hk, ha], .same⟩

namespace ActivityService
variable {db db' : Db}

variable {digest actorId id workerId activityId : String} {now claimedAt : Instant} {ids : Db.EventIds}
  {a : ActivityRow} {leaseSeconds : Int} {leaseEpoch : Nat}

theorem enqueue_activities {runId key : String} {sessionId reservationId : Option String} {id' : String}
    (h : enqueue db runId key digest actorId sessionId reservationId id now ids = .ok (db', id')) :
    db' = db ∨ ∃ a : ActivityRow, a.state = .queued ∧ a.sessionId = sessionId ∧ a.budgetReservationId = reservationId ∧
      Db.references db.sessions sessionId ∧ Db.references db.reservations reservationId ∧
      db.activities.insert? a = some db'.activities := by
  unfold enqueue at h
  split at h
  · simp only [bind_ok, require_ok, pure_ok, exists_const, Prod.mk.injEq] at h
    exact .inl h.2.2.1.symm
  · simp only [bind_ok, orRaise_ok, Db.insertActivity, insertRow_ok, pure_ok, Prod.mk.injEq] at h
    obtain ⟨run, -, _, ⟨acts, ⟨⟨-, hsession, hreservation, -⟩, hacts⟩, rfl⟩, _, hev, rfl, -⟩ := h
    refine .inr ⟨⟨id, runId, sessionId, reservationId, key, .queued, 0, 0, none, none, digest, none, now⟩, rfl, rfl,
      rfl, hsession, hreservation, ?_⟩
    rw [Db.appendNextEvent_activities hev]
    exact hacts

theorem earliest_mem {l : List ActivityRow} (h : earliest l = some a) : a ∈ l := by
  induction l with
  | nil => cases h
  | cons x l ih =>
    unfold earliest at h
    split at h
    · cases h; exact List.mem_cons_self ..
    · next b hb =>
      split at h
      · cases h; exact List.mem_cons_of_mem _ (ih hb)
      · cases h; exact List.mem_cons_self ..

theorem claimNext_activities {found : Option ActivityRow}
    (h : claimNext db workerId leaseSeconds claimedAt ids = .ok (db', found)) :
    (db' = db ∧ found = none) ∨ ∃ a, db.activities.get? a.activityId = some a ∧ eligible claimedAt a = true ∧
      found = some (claimed workerId (claimedAt + leaseSeconds) a) ∧
      db'.activities =
        db.activities.modify a.activityId (claimed workerId (claimedAt + leaseSeconds)) (fun _ => rfl) := by
  unfold claimNext at h
  split at h
  · cases h; exact .inl ⟨rfl, rfl⟩
  · next a ha =>
    simp only [bind_ok, orRaise_ok, pure_ok, Prod.mk.injEq] at h
    obtain ⟨run, -, _, hev, rfl, rfl⟩ := h
    have hmem := List.mem_filter.1 (earliest_mem ha)
    simp only [Bool.and_eq_true] at hmem
    exact .inr ⟨a, Table.get?_of_mem hmem.1, hmem.2.1, rfl, Db.appendNextEvent_activities hev⟩

theorem claimNext_run (h : claimNext db workerId leaseSeconds claimedAt ids = .ok (db', some a)) :
    ∃ run, db.runs.get? a.runId = some run ∧ run.state = .running := by
  unfold claimNext at h
  split at h
  · cases h
  · next found hfound =>
    simp only [bind_ok, orRaise_ok, pure_ok, Prod.mk.injEq, Option.some.injEq] at h
    obtain ⟨run, hrun, _, -, -, rfl⟩ := h
    have hmem := List.mem_filter.1 (earliest_mem hfound)
    have hrow : db.runs.get? found.runId = some run := hrun
    have hrunning := (Bool.and_eq_true_iff.1 hmem.2).2
    rw [hrow] at hrunning
    exact ⟨run, hrow, of_decide_eq_true hrunning⟩

theorem complete_activities (h : complete db activityId workerId leaseEpoch digest ids = .ok db') :
    ∃ a, db.activities.get? activityId = some a ∧
      ((a.state = .completed ∧ a.resultDigest = some digest ∧ db' = db) ∨
        (a.state = .running ∧ a.leaseEpoch = leaseEpoch ∧
          db'.activities = db.activities.modify activityId (finished digest) (fun _ => rfl))) := by
  simp only [complete, bind_ok, orRaise_ok] at h
  obtain ⟨a, ha, h⟩ := h
  split at h
  · next hs =>
    simp only [bind_ok, require_ok, pure_ok, exists_const] at h
    exact ⟨a, ha, .inl ⟨hs, h.1, h.2.symm⟩⟩
  · simp only [bind_ok, orRaise_ok, require_ok, exists_const] at h
    obtain ⟨⟨hs, -, he⟩, run, -, hev⟩ := h
    exact ⟨a, ha, .inr ⟨hs, he, Db.appendNextEvent_activities hev⟩⟩

theorem heartbeat_activities {heartbeatAt : ClockValue} {t : Instant}
    (h : heartbeat db activityId workerId leaseEpoch leaseSeconds heartbeatAt = .ok (db', t)) :
    ∃ a, db.activities.get? activityId = some a ∧ a.state = .running ∧ a.leaseEpoch = leaseEpoch ∧
      db'.activities = db.activities.modify activityId (fun a => { a with leaseExpiresAt := some t }) (fun _ => rfl) := by
  simp only [heartbeat, bind_ok, orRaise_ok, require_ok, pure_ok, exists_const, Prod.mk.injEq] at h
  obtain ⟨-, a, ha, ⟨hs, -, he⟩, -, -, -, rfl, rfl⟩ := h
  exact ⟨a, ha, hs, he, rfl⟩

theorem blockRun_activities {run : RunRow} (h : blockRun db run = .ok db') : db'.activities = db.activities := by
  unfold blockRun at h
  split at h
  · cases h; rfl
  · simp only [bind_ok, requireRunTransition_ok, exists_const, pure_ok] at h
    rw [← h.2]
    rfl

theorem markReconciliationRequired_activities {reason : String} {epoch : Option Nat}
    (h : markReconciliationRequired db activityId actorId reason epoch id now ids = .ok db') :
    ∃ a, db.activities.get? activityId = some a ∧ (a.state = .queued ∨ a.state = .running) ∧
      (∀ e ∈ epoch, a.leaseEpoch = e) ∧
      db'.activities = db.activities.modify activityId parked (fun _ => rfl) := by
  simp only [markReconciliationRequired, bind_ok, orRaise_ok, require_ok, exists_const, Db.insertCase, insertRow_ok,
    pure_ok] at h
  obtain ⟨a, ha, hs, he, run, -, d₁, hblock, -, _, ⟨cs, -, rfl⟩, hev⟩ := h
  refine ⟨a, ha, hs.symm, he, ?_⟩
  rw [Db.appendNextEvent_activities hev]
  obtain ⟨ss, hss⟩ := suspendSession_eq { d₁ with cases := cs } a.sessionId
  obtain ⟨rs, hrs, -⟩ := holdReservation_eq { d₁ with cases := cs, sessions := ss } a.budgetReservationId
  rw [hss, hrs]
  exact blockRun_activities hblock

end ActivityService

namespace RuntimeService
variable {db db' : Db}

variable {activityId actorId id : String} {now : Instant} {ids : Db.EventIds} {record : ReconciliationCaseRecord}
  {resolution : Resolution} {digest : Option String}

theorem openReconciliation_activities {runId reason : String} {sessionId reservationId : Option String}
    (h : openReconciliation db runId activityId reason actorId sessionId reservationId id now ids = .ok (db', record)) :
    db'.activities = db.activities ∨ ∃ a, db.activities.get? activityId = some a ∧
      (a.state = .queued ∨ a.state = .running) ∧
      db'.activities = db.activities.modify activityId parked (fun _ => rfl) := by
  unfold openReconciliation at h
  split at h
  · cases h; exact .inl rfl
  · simp only [bind_ok, orRaise_ok, require_ok, exists_const, Db.insertCase, insertRow_ok, pure_ok, Prod.mk.injEq] at h
    obtain ⟨a, ha, run, -, -, -, d₁, hblock, d₂, hsess, d₃, hres, -, _, ⟨cs, -, rfl⟩, _, hev, rfl, rfl⟩ := h
    obtain ⟨ss, rfl⟩ := suspendSession_ok hsess
    obtain ⟨rs, rfl, -⟩ := holdReservation_ok hres
    have hpark : d₁.activities = (parkActivity db a).activities := blockRun_activities hblock
    have hacts := (Db.appendNextEvent_activities hev).trans hpark
    unfold parkActivity at hacts
    split at hacts
    · next hs =>
      rw [Table.get?_key ha] at hacts
      exact .inr ⟨a, ha, hs, hacts⟩
    · exact .inl hacts

theorem settleActivity_activities (h : settleActivity db activityId resolution digest = .ok db') :
    db'.activities = db.activities.modify activityId (resolvedActivity resolution digest)
        (resolvedActivity_activityId resolution digest) ∧
      (resolution = .acceptResult → digest.isSome = true) := by
  cases resolution with
  | retry | cancel | fail => cases h; exact ⟨rfl, fun he => nomatch he⟩
  | acceptResult =>
    simp only [settleActivity, bind_ok, orRaise_ok, pure_ok] at h
    obtain ⟨d, rfl, rfl⟩ := h
    exact ⟨rfl, fun _ => rfl⟩

theorem resolveReconciliation_activities {note : String}
    (h : resolveReconciliation db id resolution note actorId digest now ids = .ok (db', record)) :
    ∃ row, db.cases.get? id = some row ∧ ((row.record.state = .resolved ∧ db' = db) ∨
      ∃ a, row.record.state = .opened ∧ db.activities.get? row.record.activityId = some a ∧
      (resolution = .acceptResult → digest.isSome = true) ∧
      db'.activities = db.activities.modify row.record.activityId (resolvedActivity resolution digest)
        (resolvedActivity_activityId resolution digest)) := by
  simp only [resolveReconciliation, bind_ok, orRaise_ok] at h
  obtain ⟨row, hrow, h⟩ := h
  refine ⟨row, hrow, ?_⟩
  split at h
  · next hst =>
    simp only [bind_ok, require_ok, exists_const, pure_ok, Prod.mk.injEq] at h
    exact .inl ⟨hst, h.2.1.symm⟩
  · next hst =>
    simp only [bind_ok, orRaise_ok, requireRunTransition_ok, exists_const, pure_ok, Prod.mk.injEq] at h
    obtain ⟨a, ha, run, -, d₁, hact, -, d₂, hsess, d₃, hres, _, hev, rfl, rfl⟩ := h
    obtain ⟨hacts, hdigest⟩ := settleActivity_activities hact
    obtain ⟨ss, rfl⟩ := settleSession_ok hsess
    obtain ⟨rs, ls, rfl, -⟩ := settleReservation_ok hres
    rw [Table.get?_key ha] at hacts
    exact .inr ⟨a, opened_of_ne_resolved hst, ha, hdigest, (Db.appendNextEvent_activities hev).trans hacts⟩

end RuntimeService

namespace TerminalBudgetService
variable {db db' : Db}

theorem settledActivity_activityId (digest : String) (a : ActivityRow) :
    (settledActivity digest a).activityId = a.activityId := rfl

def CancelsEvaluation (t t' : Table ActivityRow.activityId) : Prop :=
  t' = t ∨ ∃ b, t.get? b.activityId = some b ∧ (b.state = .queued ∨ b.state = .cancelled) ∧
    t' = t.modify b.activityId (fun a => { a with state := .cancelled }) TerminalBudgetService.cancelled_activityId

variable {evaluation : Option BudgetReservationRow} {reserved remaining actual requiredEvaluation : UsageRecord}
  {E : Env} {runId bundle k digest actorId : String} {now : Instant} {t t' : Table ActivityRow.activityId}
  {a : ActivityRow} {run : RunRow} {ids : Db.EventIds}

theorem cancelActivity_activities {activity : Option ActivityRow} (h : cancelActivity db activity evaluation = .ok db')
    (hact : ∀ a ∈ activity, db.activities.get? a.activityId = some a) :
    CancelsEvaluation db.activities db'.activities := by
  unfold cancelActivity at h
  split at h
  · cases h; exact .inl rfl
  · next b =>
    simp only [bind_ok, require_ok, exists_const, pure_ok] at h
    obtain ⟨hs, -, -, rfl⟩ := h
    exact .inr ⟨b, hact b rfl, hs, rfl⟩

theorem releaseEvaluation_activities (h : releaseEvaluation db evaluation reserved = .ok (db', remaining)) :
    db'.activities = db.activities := by
  unfold releaseEvaluation at h
  split at h
  · cases h; rfl
  · split at h
    · cases h; rfl
    · simp only [bind_ok, require_ok, exists_const, Prod.exists, pure_ok, Prod.mk.injEq] at h
      obtain ⟨-, _, _, -, rfl, -⟩ := h
      rfl

theorem settleCandidate_activities {candidate : Option CandidateRow} {limit : BudgetSpec} {exceeded : List Dimension}
    (h : settleCandidate E db runId candidate evaluation actual reserved limit exceeded bundle now =
      .ok (db', remaining)) : CancelsEvaluation db.activities db'.activities := by
  unfold settleCandidate at h
  split at h
  · cases h; exact .inl rfl
  · next c =>
    simp only [bind_ok, Prod.exists, pure_ok, Prod.mk.injEq] at h
    obtain ⟨d₁, hblock, d₂, _, hcancel, _, hdenial, rfl, -⟩ := h
    obtain ⟨ps, rfl⟩ := recordPolicyDenial_ok hdenial
    have hblocked : d₁.activities = db.activities := by
      unfold blockCandidate at hblock
      split at hblock
      · simp only [bind_ok, requireCandidateTransition_ok, exists_const, pure_ok] at hblock
        rw [← hblock.2]
        rfl
      · simp only [bind_ok, require_ok, exists_const, pure_ok] at hblock
        rw [hblock.2]
    simp only [cancelEvaluation, bind_ok] at hcancel
    obtain ⟨d₃, hactivity, hrelease⟩ := hcancel
    have hfound := cancelActivity_activities hactivity fun a ha => Table.get?_of_mem (Table.find?_mem ha)
    rw [hblocked, ← releaseEvaluation_activities hrelease] at hfound
    exact hfound

theorem CancelsEvaluation.none (h : CancelsEvaluation t t') (hk : t.get? k = none) : t'.get? k = none := by
  obtain rfl | ⟨c, hc, -, rfl⟩ := h
  · exact hk
  · rw [Table.get?_modify_ne]
    · exact hk
    · rintro rfl
      rw [hc] at hk
      cases hk

theorem CancelsEvaluation.step {op : Op} {k₀ : String} {b : ActivityRow} (h : CancelsEvaluation t t')
    (hb : t.get? k₀ = some b) (hdigest : b.state = .completed → b.resultDigest = some digest) (ha : t.get? k = some a) :
    ∃ a', (t'.modify k₀ (settledActivity digest) (settledActivity_activityId digest)).get? k = some a' ∧ ActivityStep db a op a' := by
  have hcancelled : ∃ a', t'.get? k = some a' ∧ ActivityStep db a op a' ∧
      settledActivity digest a' = settledActivity digest a := by
    obtain rfl | ⟨c, hc, hs, rfl⟩ := h
    · exact ⟨a, ha, .same, rfl⟩
    · rw [Table.get?_modify]
      by_cases hk : k = c.activityId
      · subst hk
        obtain rfl : c = a := Option.some.inj (hc.symm.trans ha)
        exact ⟨_, by rw [if_pos rfl, hc]; rfl, .cancelled hs, rfl⟩
      · exact ⟨a, by rw [if_neg hk, ha], .same, rfl⟩
  obtain ⟨a', ha', hstep, hsettled⟩ := hcancelled
  rw [Table.get?_modify]
  by_cases hk : k = k₀
  · subst hk
    obtain rfl : b = a := Option.some.inj (hb.symm.trans ha)
    refine ⟨settledActivity digest b, ?_, .settled hdigest⟩
    rw [if_pos rfl, ha', Option.map_some, hsettled]
  · exact ⟨a', by rw [if_neg hk, ha'], hstep⟩

theorem failRun_activities (h : failRun db run = .ok db') : db'.activities = db.activities := by
  unfold failRun at h
  split at h
  · cases h; rfl
  · simp only [bind_ok, requireRunTransition_ok, exists_const, pure_ok] at h
    rw [← h.2]
    rfl

theorem CancelsEvaluation.settled (h : CancelsEvaluation t t') (ha : t.get? k = some a) :
    (t'.modify k (settledActivity digest) (settledActivity_activityId digest)).get? k = some (settledActivity digest a) := by
  obtain rfl | ⟨c, hc, -, rfl⟩ := h
  · exact Table.get?_modify_self ha
  · by_cases hk : k = c.activityId
    · subst hk
      obtain rfl : c = a := Option.some.inj (hc.symm.trans ha)
      rw [Table.get?_modify_self (Table.get?_modify_self hc)]
      rfl
    · exact Table.get?_modify_self ((Table.get?_modify_ne hk).trans ha)

theorem settle_activities {activity : ActivityRow} {reservation : BudgetReservationRow} {ledger : BudgetLedgerRow}
    (h : settle E db run activity reservation ledger digest actual requiredEvaluation bundle actorId now ids = .ok db') :
    (sessionCandidates db run.runId activity.sessionId).length ≤ 1 ∧ ∃ acts, CancelsEvaluation db.activities acts ∧
      db'.activities = acts.modify activity.activityId (settledActivity digest) (settledActivity_activityId digest) := by
  simp only [settle, bind_ok, require_ok, exists_const, Prod.exists] at h
  obtain ⟨-, used, reserved, -, hone, -, d₁, remaining, hcand, d₂, hfail, hev⟩ := h
  refine ⟨hone, d₁.activities, settleCandidate_activities hcand, ?_⟩
  have hset : db'.activities = (resolveReconciliations d₂ run.runId activity.activityId now).activities :=
    Db.appendNextEvent_activities hev
  exact hset.trans (failRun_activities hfail)

theorem settleExhaustedVariation_activities {activityId reservationId : String} {epoch : Option Nat}
    (h : settleExhaustedVariation E db runId activityId reservationId digest actual requiredEvaluation bundle actorId
      epoch now ids = .ok db') : db'.activities = db.activities ∨ ∃ a acts, db.activities.get? activityId = some a ∧
      (a.state = .completed → a.resultDigest = some digest) ∧ CancelsEvaluation db.activities acts ∧
      db'.activities = acts.modify activityId (settledActivity digest) (settledActivity_activityId digest) := by
  simp only [settleExhaustedVariation, bind_ok, orRaise_ok, require_ok, exists_const] at h
  obtain ⟨run, -, a, ha, reservation, -, ledger, -, -, -, -, -, hdigest, h⟩ := h
  split at h
  · simp only [replay, bind_ok, orRaise_ok, require_ok, exists_const] at h
    obtain ⟨-, -, -, -, h⟩ := h
    split at h
    · have hacts : db'.activities = (resolveReconciliations db run.runId a.activityId now).activities :=
        Db.appendNextEvent_activities h
      exact .inl hacts
    · rw [← pure_ok.1 h]
      exact .inl rfl
  · obtain ⟨-, acts, hcancel, hacts⟩ := settle_activities h
    rw [Table.get?_key ha] at hacts
    exact .inr ⟨a, acts, ha, hdigest, hcancel, hacts⟩

end TerminalBudgetService

theorem exec_activities (h : exec E db op = .ok db') : ActivitiesStep db op db'.activities := by
  have same := exec_frame h
  cases op <;> simp only [exec, map_ok, Prod.exists, exists_and_right, exists_eq_right] at h
  case enqueueActivity =>
    obtain ⟨_, h⟩ := h
    obtain rfl | ⟨b, hs, -, -, -, -, hins⟩ := enqueue_activities h
    · exact .of_eq rfl
    · exact .queued hs hins
  case claimNext =>
    obtain ⟨_, h⟩ := h
    obtain ⟨rfl, -⟩ | ⟨b, hb, he, hfound, hacts⟩ := claimNext_activities h
    · exact .of_eq rfl
    · subst hfound
      obtain ⟨run, hrun, hr⟩ := claimNext_run h
      exact .of_modify _ hb (.claimed he hrun hr) hacts
  case completeActivity =>
    obtain ⟨b, hb, ⟨-, -, rfl⟩ | ⟨hs, -, hacts⟩⟩ := complete_activities h
    · exact .of_eq rfl
    · exact .of_modify _ hb (.finished hs) hacts
  case heartbeat =>
    obtain ⟨_, h⟩ := h
    obtain ⟨b, hb, hs, -, hacts⟩ := heartbeat_activities h
    exact .of_modify _ hb (.extended hs) hacts
  case markReconciliationRequired =>
    obtain ⟨b, hb, hs, -, hacts⟩ := markReconciliationRequired_activities h
    exact .of_modify _ hb (.parked hs) hacts
  case openReconciliation =>
    obtain ⟨_, h⟩ := h
    obtain hacts | ⟨b, hb, hs, hacts⟩ := RuntimeService.openReconciliation_activities h
    · exact .of_eq hacts
    · exact .of_modify _ hb (.parked hs) hacts
  case resolveReconciliation =>
    obtain ⟨_, h⟩ := h
    obtain ⟨row, hrow, ⟨-, rfl⟩ | ⟨b, ho, hb, hdigest, hacts⟩⟩ := RuntimeService.resolveReconciliation_activities h
    · exact .of_eq rfl
    · exact .of_modify _ hb (.resolved hrow ho (Table.get?_key hb).symm hdigest) hacts
  case settleExhaustedVariation =>
    obtain hacts | ⟨b, acts, hb, hdigest, hcancel, hacts⟩ := TerminalBudgetService.settleExhaustedVariation_activities h
    · exact .of_eq hacts
    · rw [hacts]
      refine .kept (fun k hk => ?_) fun k a ha => hcancel.step hb hdigest ha
      rw [Table.get?_modify_ne]
      · exact hcancel.none hk
      · rintro rfl
        rw [hb] at hk
        cases hk
  all_goals exact .of_eq (same .activities rfl)

theorem exec_activity (h : exec E db op = .ok db') (ha : db.activities.get? k = some a) :
    ∃ a', db'.activities.get? k = some a' ∧ ActivityStep db a op a' := by
  cases exec_activities h with
  | queued _ hins => exact ⟨a, Table.get?_insert_of_some hins ha, .same⟩
  | kept _ hold => exact hold k a ha

theorem exec_activity_new (h : exec E db op = .ok db') (ha : db'.activities.get? k = some a)
    (hn : db.activities.get? k = none) : a.state = .queued := by
  cases exec_activities h with
  | queued hs hins =>
    rw [Table.get?_insert hins, hn] at ha
    split at ha
    · cases ha; exact hs
    · cases ha
  | kept hnew _ => rw [hnew k hn] at ha; cases ha

theorem ActivityStep.context (h : ActivityStep db a op a') :
    a'.sessionId = a.sessionId ∧ a'.budgetReservationId = a.budgetReservationId := by
  cases h with
  | resolved =>
    unfold resolvedActivity
    split <;> exact ⟨rfl, rfl⟩
  | same | claimed | finished | extended | parked | settled | cancelled => exact ⟨rfl, rfl⟩

theorem ActivityStep.identity (h : ActivityStep db a op a') :
    a'.activityId = a.activityId ∧ a'.runId = a.runId ∧ a'.activityKey = a.activityKey := by
  cases h with
  | resolved =>
    unfold resolvedActivity
    split <;> exact ⟨rfl, rfl, rfl⟩
  | same | claimed | finished | extended | parked | settled | cancelled => exact ⟨rfl, rfl, rfl⟩

/-! ## Lease fencing -/

section Stale
variable {db : Db} {activityId workerId : String} {e : Nat} {a : ActivityRow}

end Stale

/-- A claimed activity whose worker is late. -/
def Sample.overdue : List Op := Sample.started "run" "tree" ++ Sample.claimed "run" "a" none

def HasResult (db : Db) (activityId digest : String) : Prop :=
  ∃ a, db.activities.get? activityId = some a ∧ a.state = .completed ∧ a.resultDigest = some digest

theorem hasResult_iff : HasResult db k digest ↔
    (db.activities.get? k).map (fun a => (a.state, a.resultDigest)) = some (.completed, some digest) := by
  simp [HasResult]

/-- A resolution of an open case finds its activity not completed, or accepts
the result that is on record. -/
def resultSafe (db : Db) : Op → Bool
  | .resolveReconciliation id resolution _ _ digest _ _ =>
    (db.cases.get? id).all fun row => row.record.state = .resolved ||
      (db.activities.get? row.record.activityId).all fun a => a.state ≠ .completed ||
        (resolution = .acceptResult && digest = a.resultDigest)
  | _ => true

theorem ActivityStep.result (h : ActivityStep db a op a') (ha : db.activities.get? a.activityId = some a)
    (hsafe : resultSafe db op = true) (hs : a.state = .completed) (hd : a.resultDigest = some digest) :
    a'.state = .completed ∧ a'.resultDigest = some digest := by
  cases h with
  | same => exact ⟨hs, hd⟩
  | claimed he _ _ => simp [eligible, hs] at he
  | finished hr | extended hr => rw [hs] at hr; cases hr
  | parked hr | cancelled hr => rw [hs] at hr; rcases hr with hr | hr <;> cases hr
  | settled hdigest =>
    have := hdigest hs
    rw [hd] at this
    exact ⟨rfl, this.symm⟩
  | resolved hrow ho hk hdigest =>
    simp only [resultSafe, hrow, Option.all_some, ho, reduceCtorEq, decide_false, Bool.false_or, hk, ha, hs, ne_eq,
      not_true_eq_false, Bool.and_eq_true, decide_eq_true_eq] at hsafe
    obtain ⟨rfl, rfl⟩ := hsafe
    exact ⟨rfl, hd⟩

theorem HasResult.step (h : HasResult db k digest) (he : exec E db op = .ok db') (hsafe : resultSafe db op = true) :
    HasResult db' k digest := by
  obtain ⟨a, ha, hs, hd⟩ := h
  obtain ⟨a', ha', hstep⟩ := exec_activity he ha
  exact ⟨a', ha', hstep.result (Table.get?_self ha) hsafe hs hd⟩

theorem HasResult.not_claimed {workerId : String} {leaseSeconds : Int} {claimedAt : Instant} {found : ActivityRow}
    (h : HasResult db k digest) (hclaim : claimNext db workerId leaseSeconds claimedAt ids = .ok (db', some found)) :
    found.activityId ≠ k := by
  rintro rfl
  obtain ⟨a, ha, hs, -⟩ := h
  obtain ⟨-, hnone⟩ | ⟨b, hb, he, hfound, -⟩ := claimNext_activities hclaim
  · cases hnone
  · cases hfound
    obtain rfl : a = b := Option.some.inj (ha.symm.trans hb)
    simp [eligible, hs] at he

/-- A recorded activity result is final in every run whose resolutions all keep
to the condition, and no claim returns the activity again. -/
theorem result_final {E : Env} {db db' : Db} {k digest : String} (h : HasResult db k digest)
    (hlater : Reaches (exec E) (fun d op => resultSafe d op = true) db db') :
    HasResult db' k digest ∧ ∀ workerId leaseSeconds claimedAt ids db'' found,
      claimNext db' workerId leaseSeconds claimedAt ids = .ok (db'', some found) → found.activityId ≠ k := by
  have hresult : HasResult db' k digest :=
    Reaches.inv (HasResult · k digest) h (fun _ _ _ hi hsafe he => hi.step he hsafe) hlater
  exact ⟨hresult, fun _ _ _ _ _ _ hclaim => hresult.not_claimed hclaim⟩

/-- An activity that completed in time. -/
def Sample.completed : List Op :=
  Sample.overdue ++ [.completeActivity "a" "worker" 1 "result" (Sample.ids "completed-a")]

/-- An operator opens a case of it all the same. -/
def Sample.reopened : Op :=
  .openReconciliation "run" "a" "checked late" "operator" none none "case-a" 2 (Sample.ids "opened-a")

theorem result_final_reopened :
    HasResult (AvoLib.result (exec Sample.env) (after Sample.env Sample.completed) [Sample.reopened]) "a" "result" :=
  (result_final (hasResult_iff.mpr (by decide)) (reaches_result (p := resultSafe) (by decide))).1

/-- Trying it again puts the activity back into the queue. -/
theorem retry_takes_result : ¬ ∀ E db db' k digest, Reachable E db → HasResult db k digest → Later E db db' →
    HasResult db' k digest := by
  intro h
  let ops := [Sample.reopened, Sample.resolved "case-a" .retry]
  have hlater : Later Sample.env (after Sample.env Sample.completed)
      (AvoLib.result (exec Sample.env) (after Sample.env Sample.completed) ops) :=
    (reaches_result (p := fun _ _ => true) (by decide)).mono fun _ _ _ => trivial
  have hlost := h _ _ _ "a" "result" (reachable_after (by decide)) (hasResult_iff.mpr (by decide)) hlater
  rw [hasResult_iff] at hlost
  exact absurd hlost (by decide)

end AvoCorrelate
