import AvoCorrelate.Activities
/-!
# Open cases and leases

An open case belongs to an activity of its own run, that activity does not wait for a
worker, and it has no other open case. So a lease is only held by a running activity:
what is resolved, settled or cancelled has none. Reservations of one run have different
keys.
-/
open AvoLib

namespace AvoCorrelate

/-! ## What the calls do to the cases and the keys -/

/-- A worker may still take the activity, or has it. -/
def Waiting (a : ActivityRow) : Prop := a.state = .queued ∨ a.state = .running

/-- The call that lets an activity go on. -/
def Op.resolvesCase : Op → Bool
  | .resolveReconciliation _ _ _ _ _ _ _ => true
  | _ => false

/-- What a committed call does to the cases. -/
inductive CaseRows (db db' : Db) : Op → Prop
  | still {op : Op} (h : db' = db) : CaseRows db db' op
  | same {op : Op} (hop : op.resolvesCase = false) (h : db'.cases = db.cases) : CaseRows db db' op
  | opened {op : Op} {a : ActivityRow} (record : ReconciliationCaseRecord) (hop : op.resolvesCase = false)
    (ha : db.activities.get? record.activityId = some a) (hrun : record.runId = a.runId) (hs : record.state = .opened)
    (hfree : Waiting a ∨ ∀ c ∈ db.cases, c.state = .opened → c.activityId ≠ record.activityId)
    (hparked : ∀ b, db'.activities.get? record.activityId = some b → ¬ Waiting b)
    (hc : db.cases.insert? (openedRow record) = some db'.cases) : CaseRows db db' op
  | resolved {id note actorId : String} {resolution : Resolution} {digest : Option String} {now : Instant}
    {ids : Db.EventIds} {row : ReconciliationCaseRow} {record : ReconciliationCaseRecord}
    (hrow : db.cases.get? id = some row) (hopen : row.record.state = .opened) (hs : record.state = .resolved)
    (ha : record.activityId = row.record.activityId)
    (hc : db.cases.Sets (RuntimeService.resolvedRow record row) db'.cases) :
    CaseRows db db' (.resolveReconciliation id resolution note actorId digest now ids)
  | settled {op : Op} {runId activityId : String} {now : Instant} (hop : op.resolvesCase = false)
    (h : db'.cases = db.cases.modifyAll (TerminalBudgetService.isOpenCase runId activityId)
      (TerminalBudgetService.resolvedCase now) (fun _ => rfl)) : CaseRows db db' op

/-- Every reservation was there, under its key. -/
def KeepsKeys (t t' : Table BudgetReservationRow.reservationId) : Prop :=
  ∀ r' ∈ t', ∃ r ∈ t, r.reservationId = r'.reservationId ∧ r.runId = r'.runId ∧ r.activityKey = r'.activityKey

/-- What a committed call does to the keys of the reservations. -/
inductive KeyRows (t t' : Table BudgetReservationRow.reservationId) : Prop
  | kept (h : KeepsKeys t t')
  | reserved {r : BudgetReservationRow} (hfresh : ∀ x ∈ t, ¬ (x.runId = r.runId ∧ x.activityKey = r.activityKey))
    (h : t.insert? r = some t')

section Keys
variable {t t' t'' : Table BudgetReservationRow.reservationId}

theorem keepsKeys_refl : KeepsKeys t t := fun r hr => ⟨r, hr, rfl, rfl, rfl⟩

theorem KeepsKeys.trans (h : KeepsKeys t t') (h' : KeepsKeys t' t'') : KeepsKeys t t'' := by
  intro r'' hr''
  obtain ⟨r', hr', hid', hrun', hkey'⟩ := h' r'' hr''
  obtain ⟨r, hr, hid, hrun, hkey⟩ := h r' hr'
  exact ⟨r, hr, hid.trans hid', hrun.trans hrun', hkey.trans hkey'⟩

theorem keepsKeys_of_sets {r r' : BudgetReservationRow} {id : String} (h : t.Sets r' t') (hr : t.get? id = some r)
    (hid : r.reservationId = r'.reservationId) (hrun : r.runId = r'.runId) (hkey : r.activityKey = r'.activityKey) :
    KeepsKeys t t' := by
  intro x hx
  rcases h.mem_iff.1 hx with rfl | ⟨hx, -⟩
  · exact ⟨r, Table.get?_mem hr, hid, hrun, hkey⟩
  · exact ⟨x, hx, rfl, rfl, rfl⟩

theorem Holds.keepsKeys (h : Holds t t') : KeepsKeys t t' := by
  obtain rfl | ⟨r, hr, -, hset⟩ := h
  · exact keepsKeys_refl
  · exact keepsKeys_of_sets hset hr rfl rfl rfl

variable {db : Db} {evaluation : Option BudgetReservationRow} {reserved remaining : UsageRecord}

theorem RuntimeService.SettlesReservation.keepsKeys {runId : String} {id : Option String} {resolution : Resolution}
    {ls : Table BudgetLedgerRow.runId} (h : SettlesReservation db runId id resolution t' ls) :
    KeepsKeys db.reservations t' := by
  cases h with
  | untouched _ => exact keepsKeys_refl
  | reopened _ hr hset => exact keepsKeys_of_sets hset hr rfl rfl rfl
  | released _ _ hr _ _ hset _ => exact keepsKeys_of_sets hset hr rfl rfl rfl

theorem TerminalBudgetService.ReleasesEvaluation.keepsKeys (h : ReleasesEvaluation t reserved evaluation t' remaining)
    (he : ∀ e ∈ evaluation, t.get? e.reservationId = some e) : KeepsKeys t t' := by
  cases h with
  | missing | before _ => exact keepsKeys_refl
  | now _ _ hset => exact keepsKeys_of_sets hset (he _ rfl) rfl rfl rfl

theorem TerminalBudgetService.SettlesCandidate.keepsKeys {candidate : Option CandidateRow}
    {cs : Table CandidateRow.candidateId} (h : SettlesCandidate db evaluation reserved candidate cs t' remaining)
    (he : ∀ e ∈ evaluation, db.reservations.get? e.reservationId = some e) : KeepsKeys db.reservations t' := by
  cases h with
  | absent => exact keepsKeys_refl
  | blocked _ hrel => exact hrel.keepsKeys he

end Keys

namespace BudgetService

theorem reserve_keys {db db' : Db} {runId key : String} {estimated : UsageRecord} {actorId id id' : String}
    {ids : Db.EventIds} (h : reserve db runId key estimated actorId id ids = .ok (db', id')) :
    KeyRows db.reservations db'.reservations := by
  unfold reserve at h
  split at h
  · simp only [bind_ok, require_ok, pure_ok, exists_const, Prod.mk.injEq] at h
    rw [← h.2.1]
    exact .kept keepsKeys_refl
  · simp only [bind_ok, orRaise_ok, Db.insertReservation, insertRow_ok, pure_ok, Prod.mk.injEq] at h
    obtain ⟨ledger, -, run, -, reserved, -, _, ⟨rs, ⟨⟨-, hfresh⟩, hrs⟩, rfl⟩, _, hev, rfl, -⟩ := h
    obtain ⟨_, _, rfl, -⟩ := Db.appendEvent_ok hev
    exact .reserved hfresh hrs

end BudgetService

namespace ActivityService

theorem not_waiting_parked {db : Db} {k : String} {a b : ActivityRow} (ha : db.activities.get? k = some a)
    (hb : (db.updateActivity k parked fun _ => rfl).activities.get? k = some b) : ¬ Waiting b := by
  have hparked : (db.activities.modify k parked fun _ => rfl).get? k = some (parked a) := Table.get?_modify_self ha
  obtain rfl : parked a = b := Option.some.inj (hparked.symm.trans hb)
  rintro (h | h)
  · cases h
  · cases h

theorem markReconciliationRequired_rows {db db' : Db} {activityId actorId reason : String} {epoch : Option Nat}
    {id : String} {now : Instant} {ids : Db.EventIds}
    (h : markReconciliationRequired db activityId actorId reason epoch id now ids = .ok db') :
    CaseRows db db' (.markReconciliationRequired activityId actorId reason epoch id now ids) ∧
      KeepsKeys db.reservations db'.reservations := by
  obtain ⟨a, ha, hs, -, hacts⟩ := markReconciliationRequired_activities h
  simp only [markReconciliationRequired, bind_ok, orRaise_ok, require_ok, exists_const, Db.insertCase, insertRow_ok,
    pure_ok] at h
  obtain ⟨_, ha', -, -, run, hrun, d₁, hblock, -, _, ⟨cs, ⟨-, hcs⟩, rfl⟩, hev⟩ := h
  obtain rfl : a = _ := Option.some.inj (ha.symm.trans ha')
  have hk : run.runId = a.runId := Table.get?_key hrun
  obtain ⟨ns, rfl, -, -⟩ := blockRun_ok hblock (Table.get?_self hrun)
  obtain ⟨ss, hss⟩ := suspendSession_eq
    { (db.updateActivity activityId parked fun _ => rfl) with runs := ns, cases := cs } a.sessionId
  obtain ⟨rs, hrs, hholds⟩ := holdReservation_eq
    { (db.updateActivity activityId parked fun _ => rfl) with runs := ns, cases := cs, sessions := ss }
    a.budgetReservationId
  rw [hss, hrs] at hev
  obtain ⟨_, _, rfl, -⟩ := Db.appendEvent_ok hev
  refine ⟨.opened ⟨id, run.runId, activityId, a.sessionId, reason, a.budgetReservationId, .opened, none, none, now, none⟩ rfl ha hk rfl (.inl hs) (fun b hb => not_waiting_parked ha hb) hcs, hholds.keepsKeys⟩

end ActivityService

namespace RuntimeService

variable {db db' : Db} {actorId id : String} {now : Instant} {ids : Db.EventIds} {record : ReconciliationCaseRecord}

theorem openReconciliation_rows {runId activityId reason : String} {sessionId reservationId : Option String}
    (h : openReconciliation db runId activityId reason actorId sessionId reservationId id now ids = .ok (db', record)) :
    CaseRows db db' (.openReconciliation runId activityId reason actorId sessionId reservationId id now ids) ∧
      KeepsKeys db.reservations db'.reservations := by
  unfold openReconciliation at h
  split at h
  · cases h; exact ⟨.still rfl, keepsKeys_refl⟩
  · next hnone =>
    simp only [bind_ok, orRaise_ok, require_ok, exists_const, Db.insertCase, insertRow_ok, pure_ok, Prod.mk.injEq] at h
    obtain ⟨a, ha, run, hrun, hka, -, d₁, hblock, d₂, hsess, d₃, hres, -, _, ⟨cs, ⟨-, hcs⟩, rfl⟩, _, hev, rfl, rfl⟩ := h
    have hk : run.runId = runId := Table.get?_key hrun
    have hr : db.runs.get? run.runId = some run := by rw [hk]; exact hrun
    have hpark : d₁.activities = (parkActivity db a).activities := ActivityService.blockRun_activities hblock
    obtain ⟨acts, hparked⟩ := parkActivity_eq db a
    rw [hparked] at hblock
    obtain ⟨ns, rfl, -, -⟩ := ActivityService.blockRun_ok hblock hr
    obtain ⟨ss, rfl⟩ := suspendSession_ok hsess
    obtain ⟨rs, rfl, hholds⟩ := holdReservation_ok hres
    obtain ⟨_, _, rfl, -⟩ := Db.appendEvent_ok hev
    refine ⟨.opened ⟨id, runId, activityId, orElse sessionId a.sessionId, reason,
      orElse reservationId a.budgetReservationId, .opened, none, none, now, none⟩ rfl ha hka.symm rfl
      (.inr fun c hc ho hk => ?_) (fun b hb => ?_) hcs, hholds.keepsKeys⟩
    · have := Table.find?_none hnone c hc
      simp [hk, ho] at this
    · have hget : (parkActivity db a).activities.get? activityId = some b := by rw [← hpark]; exact hb
      unfold parkActivity at hget
      split at hget
      · have hka : a.activityId = activityId := Table.get?_key ha
        subst hka
        exact ActivityService.not_waiting_parked ha hget
      · next hs =>
        obtain rfl : a = b := Option.some.inj (ha.symm.trans hget)
        exact hs

theorem resolveReconciliation_rows {resolution : Resolution} {note : String} {digest : Option String}
    (h : resolveReconciliation db id resolution note actorId digest now ids = .ok (db', record)) :
    CaseRows db db' (.resolveReconciliation id resolution note actorId digest now ids) ∧
      KeepsKeys db.reservations db'.reservations := by
  simp only [resolveReconciliation, bind_ok, orRaise_ok] at h
  obtain ⟨row, hrow, h⟩ := h
  split at h
  · simp only [bind_ok, require_ok, exists_const, pure_ok, Prod.mk.injEq] at h
    exact ⟨.still h.2.1.symm, h.2.1 ▸ keepsKeys_refl⟩
  · next hst =>
    simp only [bind_ok, orRaise_ok, requireRunTransition_ok, exists_const, pure_ok, Prod.mk.injEq] at h
    obtain ⟨a, -, run, -, d₁, hact, -, d₂, hsess, d₃, hres, _, hev, rfl, rfl⟩ := h
    obtain ⟨acts, rfl⟩ := settleActivity_ok hact
    obtain ⟨ss, rfl⟩ := settleSession_ok hsess
    obtain ⟨rs, ls, rfl, hsettle⟩ := settleReservation_ok hres
    obtain ⟨_, _, rfl, -⟩ := Db.appendEvent_ok hev
    refine ⟨.resolved hrow (opened_of_ne_resolved hst) ?_ ?_ (Table.sets_modify (resolvedRow _) (fun _ => rfl) hrow), hsettle.keepsKeys⟩
    · rfl
    · rfl

end RuntimeService

variable {E : Env} {db db' : Db} {runId activityId reservationId digest bundle actorId k : String}
  {actual requiredEvaluation : UsageRecord} {epoch : Option Nat} {now : Instant} {ids : Db.EventIds}
  {t t' : Table ActivityRow.activityId} {op : Op} {a a' : ActivityRow}

theorem TerminalBudgetService.settleExhaustedVariation_rows
    (h : settleExhaustedVariation E db runId activityId reservationId digest actual requiredEvaluation bundle actorId
      epoch now ids = .ok db') :
    CaseRows db db' (.settleExhaustedVariation runId activityId reservationId digest actual requiredEvaluation bundle actorId
      epoch now ids) ∧ KeepsKeys db.reservations db'.reservations := by
  obtain ⟨run, activity, r, ledger, hctx, hcase⟩ := settleExhaustedVariation_ok h
  obtain rfl | ⟨-, -, _, _, _, rfl, -⟩ |
    ⟨-, _, _, _, _, _, _, rs₁, _, _, _, _, _, rfl, -, -, -, -, hcand, hset, -, -⟩ := hcase
  · exact ⟨.still rfl, keepsKeys_refl⟩
  · exact ⟨.settled rfl rfl, keepsKeys_refl⟩
  · have he : ∀ e ∈ evaluationReservation db run.runId (sessionCandidates db run.runId activity.sessionId).head?,
        db.reservations.get? e.reservationId = some e := fun e he => (mem_evaluationReservation he).choose_spec.2.1
    obtain ⟨s, u, hget⟩ := hcand.get? he (Table.get?_self hctx.reservation_row)
    exact ⟨.settled rfl rfl, (hcand.keepsKeys he).trans (keepsKeys_of_sets hset hget rfl rfl rfl)⟩

/-- Every activity was there, or is new and holds no lease. -/
def NewActivities (t t' : Table ActivityRow.activityId) : Prop :=
  ∀ a ∈ t', (t.get? a.activityId).isSome = true ∨ (a.leaseOwner = none ∧ a.leaseExpiresAt = none)

/-- What a committed call does to cases, keys and activities. -/
structure RowStep (db db' : Db) (op : Op) : Prop where
  cases : CaseRows db db' op
  keys : KeyRows db.reservations db'.reservations
  activities : NewActivities db.activities db'.activities

theorem newActivities_of_isSome (h : ∀ k, (t'.get? k).isSome = (t.get? k).isSome) :
    NewActivities t t' := fun a ha => .inl (by rw [← h, Table.get?_of_mem ha]; rfl)

theorem newActivities_modify {f : ActivityRow → ActivityRow} {hf : ∀ a, (f a).activityId = a.activityId}
    (h : t' = t.modify k f hf) : NewActivities t t' :=
  newActivities_of_isSome fun k' => by rw [h, Table.isSome_modify]

theorem newActivities_refl : NewActivities t t := newActivities_of_isSome fun _ => rfl

theorem RowStep.quiet (hop : op.resolvesCase = false) (hc : db'.cases = db.cases)
    (hr : db'.reservations = db.reservations) (ha : db'.activities = db.activities) : RowStep db db' op where
  cases := .same hop hc
  keys := .kept (hr ▸ keepsKeys_refl)
  activities := ha ▸ newActivities_refl

theorem ActivityService.enqueue_new {key : String} {sessionId reservationId : Option String} {id id' : String}
    (h : enqueue db runId key digest actorId sessionId reservationId id now ids = .ok (db', id')) :
    NewActivities db.activities db'.activities := by
  unfold enqueue at h
  split at h
  · simp only [bind_ok, require_ok, pure_ok, exists_const, Prod.mk.injEq] at h
    exact h.2.2.1 ▸ newActivities_refl
  · simp only [bind_ok, orRaise_ok, Db.insertActivity, insertRow_ok, pure_ok, Prod.mk.injEq] at h
    obtain ⟨run, -, _, ⟨acts, ⟨-, hacts⟩, rfl⟩, _, hev, rfl, -⟩ := h
    rw [Db.appendNextEvent_activities hev]
    intro a ha
    rcases (Table.mem_insert hacts).1 ha with ha | rfl
    · exact .inl (by rw [Table.get?_of_mem ha]; rfl)
    · exact .inr ⟨rfl, rfl⟩

theorem TerminalBudgetService.settleExhaustedVariation_new
    (h : settleExhaustedVariation E db runId activityId reservationId digest actual requiredEvaluation bundle actorId
      epoch now ids = .ok db') : NewActivities db.activities db'.activities := by
  obtain hacts | ⟨_, acts, -, -, hcancel, hacts⟩ := settleExhaustedVariation_activities h
  · exact hacts ▸ newActivities_refl
  · refine newActivities_of_isSome fun k => ?_
    rw [hacts, Table.isSome_modify]
    obtain rfl | ⟨_, -, -, rfl⟩ := hcancel
    · rfl
    · rw [Table.isSome_modify]

theorem exec_rows (h : exec E db op = .ok db') : RowStep db db' op := by
  have same := exec_frame h
  cases op <;> simp only [exec, map_ok, Prod.exists, exists_and_right, exists_eq_right] at h
  case reserve =>
    obtain ⟨_, h⟩ := h
    have hkeys := BudgetService.reserve_keys h
    obtain rfl | ⟨_, _, _, _, _, _, _, _, rfl, -⟩ := BudgetService.reserve_ok h
    · exact ⟨.same rfl rfl, hkeys, newActivities_refl⟩
    · exact ⟨.same rfl rfl, hkeys, newActivities_refl⟩
  case completeReservation =>
    obtain rfl | ⟨r, _, _, _, _, _, _, _, _, _, rfl, hr, -, -, -, -, -, hset, -⟩ := BudgetService.complete_ok h
    · exact .quiet rfl rfl rfl rfl
    · exact ⟨.same rfl rfl, .kept (keepsKeys_of_sets hset hr rfl rfl rfl), newActivities_refl⟩
  case observe =>
    obtain ⟨r, _, _, _, _, _, rfl, hr, -, -, hset, -⟩ := BudgetService.observe_ok h
    exact ⟨.same rfl rfl, .kept (keepsKeys_of_sets hset hr rfl rfl rfl), newActivities_refl⟩
  case holdForReconciliation =>
    obtain rfl | ⟨r, _, _, _, _, _, rfl, hr, -, -, hset, -⟩ := BudgetService.holdForReconciliation_ok h
    · exact .quiet rfl rfl rfl rfl
    · exact ⟨.same rfl rfl, .kept (keepsKeys_of_sets hset hr rfl rfl rfl), newActivities_refl⟩
  case release =>
    obtain rfl | ⟨r, _, _, _, _, _, _, _, _, _, rfl, hr, -, -, -, -, hset, -⟩ := BudgetService.release_ok h
    · exact .quiet rfl rfl rfl rfl
    · exact ⟨.same rfl rfl, .kept (keepsKeys_of_sets hset hr rfl rfl rfl), newActivities_refl⟩
  case enqueueActivity =>
    obtain ⟨_, h⟩ := h
    have hacts := ActivityService.enqueue_new h
    obtain rfl | ⟨_, _, _, _, _, rfl, -⟩ := ActivityService.enqueue_ok h
    · exact .quiet rfl rfl rfl rfl
    · exact ⟨.same rfl rfl, .kept keepsKeys_refl, hacts⟩
  case claimNext =>
    obtain ⟨_, h⟩ := h
    obtain ⟨rfl, -⟩ | ⟨_, -, -, -, hacts⟩ := ActivityService.claimNext_activities h
    · exact .quiet rfl rfl rfl rfl
    · obtain rfl | ⟨_, _, _, _, _, rfl, -⟩ := ActivityService.claimNext_ok h
      · exact .quiet rfl rfl rfl rfl
      · exact ⟨.same rfl rfl, .kept keepsKeys_refl, newActivities_modify hacts⟩
  case completeActivity =>
    obtain ⟨_, -, ⟨-, -, rfl⟩ | ⟨-, -, hacts⟩⟩ := ActivityService.complete_activities h
    · exact .quiet rfl rfl rfl rfl
    · obtain rfl | ⟨_, _, _, _, _, rfl, -⟩ := ActivityService.complete_ok h
      · exact .quiet rfl rfl rfl rfl
      · exact ⟨.same rfl rfl, .kept keepsKeys_refl, newActivities_modify hacts⟩
  case heartbeat =>
    obtain ⟨_, h⟩ := h
    obtain ⟨_, -, -, -, hacts⟩ := ActivityService.heartbeat_activities h
    obtain ⟨_, rfl⟩ := ActivityService.heartbeat_ok h
    exact ⟨.same rfl rfl, .kept keepsKeys_refl, newActivities_modify hacts⟩
  case markReconciliationRequired =>
    obtain ⟨hcases, hkeys⟩ := ActivityService.markReconciliationRequired_rows h
    obtain ⟨_, -, -, -, hacts⟩ := ActivityService.markReconciliationRequired_activities h
    exact ⟨hcases, .kept hkeys, newActivities_modify hacts⟩
  case openReconciliation =>
    obtain ⟨_, h⟩ := h
    obtain ⟨hcases, hkeys⟩ := RuntimeService.openReconciliation_rows h
    obtain hacts | ⟨_, -, -, hacts⟩ := RuntimeService.openReconciliation_activities h
    · exact ⟨hcases, .kept hkeys, hacts ▸ newActivities_refl⟩
    · exact ⟨hcases, .kept hkeys, newActivities_modify hacts⟩
  case resolveReconciliation =>
    obtain ⟨_, h⟩ := h
    obtain ⟨hcases, hkeys⟩ := RuntimeService.resolveReconciliation_rows h
    obtain ⟨_, -, ⟨-, rfl⟩ | ⟨_, -, -, -, hacts⟩⟩ := RuntimeService.resolveReconciliation_activities h
    · exact ⟨hcases, .kept hkeys, newActivities_refl⟩
    · exact ⟨hcases, .kept hkeys, newActivities_modify hacts⟩
  case settleExhaustedVariation =>
    obtain ⟨hcases, hkeys⟩ := TerminalBudgetService.settleExhaustedVariation_rows h
    exact ⟨hcases, .kept hkeys, TerminalBudgetService.settleExhaustedVariation_new h⟩
  all_goals exact .quiet rfl (same .cases rfl) (same .reservations rfl) (same .activities rfl)

/-! ## The invariant -/

def UniqueKeys (t : Table BudgetReservationRow.reservationId) : Prop :=
  ∀ r ∈ t, ∀ r' ∈ t, r.runId = r'.runId → r.activityKey = r'.activityKey → r = r'

/-- Only a running activity holds a lease. -/
def LeaseFree (a : ActivityRow) : Prop := a.state ≠ .running → a.leaseOwner = none ∧ a.leaseExpiresAt = none

structure Placed (db : Db) : Prop where
  /-- A case is about an activity of its run. -/
  activity : ∀ c ∈ db.cases, ∃ a, db.activities.get? c.activityId = some a ∧ a.runId = c.runId
  /-- A row's columns repeat its record. -/
  columns : ∀ c ∈ db.cases, c.record.activityId = c.activityId ∧ c.record.state = c.state
  idle : ∀ c ∈ db.cases, c.state = .opened → ∀ a, db.activities.get? c.activityId = some a → ¬ Waiting a
  alone : ∀ c ∈ db.cases, ∀ c' ∈ db.cases, c.state = .opened → c'.state = .opened → c.activityId = c'.activityId → c = c'
  leases : ∀ a ∈ db.activities, LeaseFree a
  keys : UniqueKeys db.reservations

theorem KeyRows.unique {t t' : Table BudgetReservationRow.reservationId} (h : KeyRows t t') (hu : UniqueKeys t) :
    UniqueKeys t' := by
  intro r hr r' hr' hrun hkey
  cases h with
  | kept hkept =>
    obtain ⟨x, hx, hid, hxrun, hxkey⟩ := hkept r hr
    obtain ⟨x', hx', hid', hxrun', hxkey'⟩ := hkept r' hr'
    obtain rfl : x = x' := hu x hx x' hx' (hxrun.trans (hrun.trans hxrun'.symm)) (hxkey.trans (hkey.trans hxkey'.symm))
    exact Table.eq_of_key hr hr' (hid.symm.trans hid')
  | reserved hfresh hins =>
    rcases (Table.mem_insert hins).1 hr with hr | rfl
    · rcases (Table.mem_insert hins).1 hr' with hr' | rfl
      · exact hu r hr r' hr' hrun hkey
      · exact absurd ⟨hrun, hkey⟩ (hfresh r hr)
    · rcases (Table.mem_insert hins).1 hr' with hr' | rfl
      · exact absurd ⟨hrun.symm, hkey.symm⟩ (hfresh r' hr')
      · rfl

theorem ActivityStep.not_waiting (h : ActivityStep db a op a') (hop : op.resolvesCase = false) (hi : ¬ Waiting a) :
    ¬ Waiting a' := by
  cases h with
  | same => exact hi
  | claimed he _ _ =>
    refine absurd ?_ hi
    simp only [ActivityService.eligible, Bool.or_eq_true, Bool.and_eq_true, decide_eq_true_eq] at he
    exact he.imp id fun h => h.1.1
  | finished | parked | settled | cancelled => rintro (h | h) <;> cases h
  | extended hs => exact absurd (.inr hs) hi
  | resolved => cases hop

theorem ActivityStep.leaseFree (h : ActivityStep db a op a') (hp : Placed db)
    (ha : db.activities.get? a.activityId = some a) : LeaseFree a' := by
  have hfree := hp.leases a (Table.get?_mem ha)
  cases h with
  | same => exact hfree
  | claimed => exact fun hn => absurd rfl hn
  | extended hs => exact fun hn => absurd hs hn
  | finished | parked | settled => exact fun _ => ⟨rfl, rfl⟩
  | cancelled hs =>
    intro _
    refine hfree ?_
    rcases hs with hs | hs <;> rw [hs] <;> nofun
  | resolved hrow hopen hk =>
    have hmem := Table.get?_mem hrow
    obtain ⟨hid, hst⟩ := hp.columns _ hmem
    have hidle : ¬ Waiting a := hp.idle _ hmem (hst.symm.trans hopen) a (by rw [← hid, hk]; exact ha)
    have hnone := hfree fun hs => hidle (.inr hs)
    intro _
    unfold resolvedActivity
    split <;> exact hnone

theorem Placed.activity_later (he : exec E db op = .ok db') (h : ∃ a, db.activities.get? k = some a ∧ a.runId = runId) :
    ∃ a, db'.activities.get? k = some a ∧ a.runId = runId := by
  obtain ⟨a, ha, hrun⟩ := h
  obtain ⟨a', ha', hstep⟩ := exec_activity he ha
  exact ⟨a', ha', hstep.identity.2.1.trans hrun⟩

theorem Placed.idle_later (hp : Placed db) (he : exec E db op = .ok db') (hop : op.resolvesCase = false)
    {c : ReconciliationCaseRow} (hc : c ∈ db.cases) (ho : c.state = .opened)
    (ha' : db'.activities.get? c.activityId = some a') : ¬ Waiting a' := by
  obtain ⟨a, ha, -⟩ := hp.activity c hc
  obtain ⟨b, hb, hstep⟩ := exec_activity he ha
  obtain rfl : b = a' := Option.some.inj (hb.symm.trans ha')
  exact hstep.not_waiting hop (hp.idle c hc ho a ha)

theorem Placed.leases_later (hp : Placed db) (he : exec E db op = .ok db') : ∀ a ∈ db'.activities, LeaseFree a := by
  intro a' ha'
  obtain hold | hnone := (exec_rows he).activities a' ha'
  · obtain ⟨a, ha⟩ := Option.isSome_iff_exists.1 hold
    obtain ⟨b, hb, hstep⟩ := exec_activity he ha
    obtain rfl : b = a' := Option.some.inj (hb.symm.trans (Table.get?_of_mem ha'))
    exact hstep.leaseFree hp (Table.get?_self ha)
  · exact fun _ => hnone

theorem exec_placed (he : exec E db op = .ok db') (hp : Placed db) : Placed db' := by
  have hrows := exec_rows he
  have hkeys := hrows.keys.unique hp.keys
  have hleases := hp.leases_later he
  have hactivity {c : ReconciliationCaseRow} (hc : c ∈ db.cases) := Placed.activity_later he (hp.activity c hc)
  cases hrows.cases with
  | still h => rw [h]; exact hp
  | same hop h =>
    refine ⟨fun c hc => hactivity (h ▸ hc), fun c hc => hp.columns c (h ▸ hc), fun c hc ho a ha => ?_,
      fun c hc c' hc' => hp.alone c (h ▸ hc) c' (h ▸ hc'), hleases, hkeys⟩
    exact hp.idle_later he hop (h ▸ hc) ho ha
  | @opened _ a record hop ha hrun hs hfree hparked hins =>
    -- a case of an activity that waits has no open one beside it
    have hnone : ∀ c ∈ db.cases, c.state = .opened → c.activityId ≠ record.activityId := by
      rcases hfree with hwaits | hnone
      · intro c hc ho hk
        exact hp.idle c hc ho a (hk ▸ ha) hwaits
      · exact hnone
    refine ⟨fun c hc => ?_, fun c hc => ?_, fun c hc ho b hb => ?_, fun c hc c' hc' ho ho' hk => ?_, hleases, hkeys⟩
    · rcases (Table.mem_insert hins).1 hc with hc | rfl
      · exact hactivity hc
      · exact Placed.activity_later he ⟨a, ha, hrun.symm⟩
    · rcases (Table.mem_insert hins).1 hc with hc | rfl
      · exact hp.columns c hc
      · exact ⟨rfl, hs⟩
    · rcases (Table.mem_insert hins).1 hc with hc | rfl
      · exact hp.idle_later he hop hc ho hb
      · exact hparked b hb
    · rcases (Table.mem_insert hins).1 hc with hc | rfl
      · rcases (Table.mem_insert hins).1 hc' with hc' | rfl
        · exact hp.alone c hc c' hc' ho ho' hk
        · exact absurd hk (hnone c hc ho)
      · rcases (Table.mem_insert hins).1 hc' with hc' | rfl
        · exact absurd hk.symm (hnone c' hc' ho')
        · rfl
  | @resolved id note actorId resolution digest now ids row record hrow hopen hs hk hset =>
    have hmem := Table.get?_mem hrow
    obtain ⟨hid, hst⟩ := hp.columns row hmem
    have hrowOpen : row.state = .opened := hst.symm.trans hopen
    -- the open cases are those that were, but for the one that is resolved
    have hold {c : ReconciliationCaseRow} (hc : c ∈ db'.cases) (ho : c.state = .opened) :
        c ∈ db.cases ∧ c.activityId ≠ row.activityId := by
      rcases hset.mem_iff.1 hc with rfl | ⟨hc, hne⟩
      · cases ho
      · refine ⟨hc, fun hsame => hne ?_⟩
        rw [hp.alone c hc row hmem ho hrowOpen hsame]
        rfl
    refine ⟨fun c hc => ?_, fun c hc => ?_, fun c hc ho b hb => ?_, fun c hc c' hc' ho ho' => ?_, hleases, hkeys⟩
    · rcases hset.mem_iff.1 hc with rfl | ⟨hc, -⟩
      · exact Placed.activity_later he (hp.activity row hmem)
      · exact hactivity hc
    · rcases hset.mem_iff.1 hc with rfl | ⟨hc, -⟩
      · exact ⟨hk.trans hid, hs⟩
      · exact hp.columns c hc
    · obtain ⟨hcold, hne⟩ := hold hc ho
      obtain ⟨a, ha, -⟩ := hp.activity c hcold
      obtain ⟨b', hb', hstep⟩ := exec_activity he ha
      obtain rfl : b' = b := Option.some.inj (hb'.symm.trans hb)
      have hidle := hp.idle c hcold ho a ha
      cases hstep with
      | same => exact hidle
      | finished | parked | settled | cancelled => rintro (h | h) <;> cases h
      | extended hrunning => exact absurd (.inr hrunning) hidle
      | resolved hrow' _ hk' =>
        obtain rfl : row = _ := Option.some.inj (hrow.symm.trans hrow')
        exact absurd ((Table.get?_key ha).symm.trans (hk'.symm.trans hid)) hne
    · exact hp.alone c (hold hc ho).1 c' (hold hc' ho').1 ho ho'
  | settled hop h =>
    have hold {c : ReconciliationCaseRow} (hc : c ∈ db'.cases) (ho : c.state = .opened) : c ∈ db.cases := by
      rw [h] at hc
      obtain ⟨x, hx, rfl⟩ := Table.mem_modifyAll.1 hc
      split at ho
      · cases ho
      · next hn => rw [if_neg hn]; exact hx
    refine ⟨fun c hc => ?_, fun c hc => ?_, fun c hc ho b hb => hp.idle_later he hop (hold hc ho) ho hb,
      fun c hc c' hc' ho ho' => hp.alone c (hold hc ho) c' (hold hc' ho') ho ho', hleases, hkeys⟩
    · rw [h] at hc
      obtain ⟨x, hx, rfl⟩ := Table.mem_modifyAll.1 hc
      have hx' := hactivity hx
      split
      · exact hx'
      · exact hx'
    · rw [h] at hc
      obtain ⟨x, hx, rfl⟩ := Table.mem_modifyAll.1 hc
      split
      · exact ⟨(hp.columns x hx).1, rfl⟩
      · exact hp.columns x hx

theorem initial_placed : Placed Db.initial where
  activity _ h := absurd h (Table.not_mem_empty _)
  columns _ h := absurd h (Table.not_mem_empty _)
  idle _ h := absurd h (Table.not_mem_empty _)
  alone _ h := absurd h (Table.not_mem_empty _)
  leases _ h := absurd h (Table.not_mem_empty _)
  keys _ h := absurd h (Table.not_mem_empty _)

theorem reachable_placed (h : Reachable E db) : Placed db :=
  Reaches.inv Placed initial_placed (fun _ _ _ hi _ he => exec_placed he hi) h

end AvoCorrelate
