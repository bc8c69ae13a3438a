import AvoCorrelate.Sessions
import AvoCorrelate.Worker.Variation
/-!
# The usage of a resumed variation

A session's usage is folded over the events that one execution read; those of one that
crashed are in the spool, and read again only where the provider streams them again.
-/
open AvoLib

namespace AvoCorrelate.Variation
open Worker (Draw Failure ActivityRecovery FailureDisposition)

/-! ## The rows of sessions and reservations -/

/-- The row has the request of its session, and with a result the state of its outcome. -/
structure RowSound (s : VariationSessionRow) : Prop where
  request : s.request.sessionId = s.sessionId
  finished : ∀ r, s.result = some r → s.state = r.outcome.state

theorem outcome_final {o : SessionOutcome} {t : VariationSessionState} : t ∉ sessionTransitions o.state := by
  cases o <;> simp [SessionOutcome.state, sessionTransitions]

theorem RowSound.unfinished {db : Db} {s s' : VariationSessionRow} {op : Op} (hs : RowSound s)
    (h : SessionStep db s op s') : s.result = none := by
  cases hr : s.result with
  | none => rfl
  | some r =>
    have htable := h.table
    rw [hs.finished r hr] at htable
    exact absurd htable outcome_final

theorem RowSound.step {db : Db} {s s' : VariationSessionRow} {op : Op} (hs : RowSound s) (h : SessionStep db s op s') :
    RowSound s' := by
  have hn := hs.unfinished h
  refine ⟨?_, ?_⟩
  · obtain ⟨hid, -, -, hrequest⟩ := h.identity
    rw [hrequest, hid]
    exact hs.request
  · cases h with
    | started | suspended | resolved =>
      intro r hr
      rw [hn] at hr
      cases hr
    | finished =>
      intro r hr
      cases hr
      rfl

theorem reachable_rowSound {E : Env} {db : Db} (h : Reachable E db) :
    ∀ {k : String} {s : VariationSessionRow}, db.sessions.get? k = some s → RowSound s := by
  refine Reaches.inv (fun db => ∀ {k : String} {s : VariationSessionRow}, db.sessions.get? k = some s → RowSound s)
    (fun hs => by cases hs) (fun db op db' hi _ he => ?_) h
  intro k s hs
  cases hk : db.sessions.get? k with
  | some x =>
    rcases exec_session he hk with hx | ⟨x', hx', hstep, -⟩
    · obtain rfl : x = s := Option.some.inj (hx.symm.trans hs)
      exact hi hk
    · obtain rfl : x' = s := Option.some.inj (hx'.symm.trans hs)
      exact (hi hk).step hstep
  | none =>
    cases exec_sessions he with
    | same hsame _ =>
      rw [hsame, hk] at hs
      cases hs
    | queued _ hins =>
      rw [Table.get?_insert hins, hk] at hs
      split at hs
      · cases hs
        exact ⟨rfl, fun r hr => nomatch hr⟩
      · cases hs
    | @changed x x' hx hstep _ hset =>
      by_cases hkey : k = x'.sessionId
      · rw [hkey, hstep.identity.1, hx] at hk
        cases hk
      · rw [hset.get?_ne hkey, hk] at hs
        cases hs

def actualOf (t : Table BudgetReservationRow.reservationId) (k : String) : Option UsageRecord := (t.get? k).bind (·.actual)

theorem actualOf_sets {t t' : Table BudgetReservationRow.reservationId} {r : BudgetReservationRow} (h : t.Sets r t')
    (k : String) : actualOf t' k = if k = r.reservationId then r.actual else actualOf t k := by
  unfold actualOf
  split
  · next hk =>
    rw [hk, h.get?_self]
    rfl
  · next hk => rw [h.get?_ne hk]

section Calls
variable {E : Env} {db db' : Db} {k : String}

variable {runId actorId id activityId : String} {ids : Db.EventIds} {actual : UsageRecord} {epoch : Option Nat}
  {now : Instant}

theorem reserve_actual {key : String} {estimated : UsageRecord} {id' : String}
    (h : BudgetService.reserve db runId key estimated actorId id ids = .ok (db', id')) :
    actualOf db'.reservations k = actualOf db.reservations k := by
  obtain rfl | ⟨_, _, _, rs, _, _, _, _, rfl, -, -, -, hins, -⟩ := BudgetService.reserve_ok h
  · rfl
  · change (rs.get? k).bind (·.actual) = (db.reservations.get? k).bind (·.actual)
    cases hk : db.reservations.get? k with
    | some r => rw [Table.get?_insert_of_some hins hk]
    | none =>
      rw [Table.get?_insert hins, hk]
      split <;> rfl

theorem complete_actual (h : BudgetService.complete db id actual actorId ids = .ok db') :
    actualOf db'.reservations id = actualOf db.reservations id ∨ actualOf db'.reservations id = some actual := by
  obtain rfl | ⟨r, _, _, _, _, rs, _, _, _, _, rfl, hr, -, -, -, -, -, hset, -⟩ := BudgetService.complete_ok h
  · exact .inl rfl
  · exact .inr ((actualOf_sets hset id).trans (if_pos (Table.get?_key hr).symm))

theorem settle_actual {digest : String} {required : UsageRecord} {bundle : String}
    (h : TerminalBudgetService.settleExhaustedVariation E db runId activityId id digest actual required bundle actorId
      epoch now ids = .ok db') :
    actualOf db'.reservations id = actualOf db.reservations id ∨ actualOf db'.reservations id = some actual := by
  obtain ⟨_, _, r, _, hcontext, hcase⟩ := TerminalBudgetService.settleExhaustedVariation_ok h
  obtain rfl | ⟨-, -, _, _, _, rfl, -⟩ | ⟨-, hsettles⟩ := hcase
  · exact .inl rfl
  · exact .inl rfl
  · obtain ⟨_, _, _, _, _, _, _, _, _, _, _, _, rfl, -, -, -, -, -, hset, -⟩ := hsettles
    exact .inr ((actualOf_sets hset id).trans (if_pos (Table.get?_key hcontext.reservation_row).symm))

theorem markReconciliationRequired_actual {reason : String}
    (h : ActivityService.markReconciliationRequired db activityId actorId reason epoch id now ids = .ok db') :
    actualOf db'.reservations k = actualOf db.reservations k := by
  obtain ⟨_, _, _, _, rs, _, _, _, _, rfl, -, -, -, -, -, hholds, -⟩ := ActivityService.markReconciliationRequired_ok h
  rcases hholds with rfl | ⟨r, hr, -, hset⟩
  · rfl
  · refine (actualOf_sets hset k).trans ?_
    split
    · next hk =>
      unfold actualOf
      rw [hk]
      exact (congrArg (Option.bind · (·.actual)) hr).symm
    · rfl

end Calls

/-! ## What a resumed execution leaves in the rows -/

/-- The session and the reservation of an activity, what was charged before, whether the
session had no result, and the usage that its result is to carry. -/
structure Account where
  sessionId : String
  reservationId : String
  before : Option UsageRecord
  fresh : Prop
  usage : UsageRecord

/-- The row of the session stays, with its result. -/
def Account.KeepsSession (q : Account) (db db' : Db) : Prop :=
  ∀ s, db.sessions.get? q.sessionId = some s → RowSound s →
    ∃ s', db'.sessions.get? q.sessionId = some s' ∧ RowSound s' ∧ s'.result = s.result

def Account.KeepsActual (q : Account) (db db' : Db) : Prop :=
  actualOf db'.reservations q.reservationId = actualOf db.reservations q.reservationId

/-- The session has no result yet, and nothing was charged. -/
def Unfinished (q : Account) (w : World) : Prop :=
  q.fresh ∧ ∃ s, w.db.sessions.get? q.sessionId = some s ∧ RowSound s ∧ s.result = none ∧
    actualOf w.db.reservations q.reservationId = q.before

/-- The session has a result of the usage, and what was charged since is that usage. -/
def Finished (q : Account) (w : World) : Prop :=
  ∃ s r, w.db.sessions.get? q.sessionId = some s ∧ RowSound s ∧ s.result = some r ∧ r.usage = q.usage ∧
    (actualOf w.db.reservations q.reservationId = q.before ∨ actualOf w.db.reservations q.reservationId = some q.usage)

def Carries (q : Account) (w : World) : Prop := Unfinished q w ∨ Finished q w

section Accounts
variable {C : CodingEnv} {h : Handler} {q : Account} {I : World → Prop}

variable {db db' : Db} {w w' : World} {α : Type} {y : α} {call : Draw → Op} {answer : Nat → Except Failure α}
  {runId id workerId digest streamDigest : String} {leaseEpoch : Nat} {result : VariationSessionResult} {p : Task α}
  {request : VariationSessionRequest} {usage : UsageRecord} {completedAt : Instant} {completion : AgentCompletion}
  {e : Failure}

theorem keepsSession_of_eq (he : db'.sessions = db.sessions) : q.KeepsSession db db' :=
  fun s hs hsound => ⟨s, he ▸ hs, hsound, rfl⟩

theorem keepsSession_of_exec {op : Op} (he : exec C.toEnv db op = .ok db') (hop : ∀ result, op ≠ .finishSession result) :
    q.KeepsSession db db' := by
  intro s hs hsound
  rcases exec_session he hs with hs' | ⟨s', hs', hstep, -⟩
  · exact ⟨s, hs', hsound, rfl⟩
  · refine ⟨s', hs', hsound.step hstep, ?_⟩
    cases hstep with
    | started | suspended | resolved => rfl
    | finished => exact absurd rfl (hop _)

/-- What holds whatever is done that leaves the session and the charge alone. -/
def Calm (q : Account) (I : World → Prop) : Prop :=
  ∀ {w w'}, I w → q.KeepsSession w.db w'.db → q.KeepsActual w.db w'.db → I w'

theorem calm_unfinished : Calm q (Unfinished q) := by
  rintro w w' ⟨hfresh, s, hs, hsound, hn, ha⟩ hsession hactual
  obtain ⟨s', hs', hsound', hresult⟩ := hsession s hs hsound
  exact ⟨hfresh, s', hs', hsound', hresult.trans hn, hactual.trans ha⟩

theorem Finished.charged (hw : Finished q w) (hsession : q.KeepsSession w.db w'.db)
    (ha : q.KeepsActual w.db w'.db ∨ actualOf w'.db.reservations q.reservationId = some q.usage) : Finished q w' := by
  obtain ⟨s, r, hs, hsound, hr, hu, hcharge⟩ := hw
  obtain ⟨s', hs', hsound', hresult⟩ := hsession s hs hsound
  refine ⟨s', r, hs', hsound', hresult.trans hr, hu, ?_⟩
  rcases ha with ha | ha
  · rw [Account.KeepsActual] at ha
    rwa [ha]
  · exact .inr ha

theorem calm_finished : Calm q (Finished q) := fun hw hsession hactual => hw.charged hsession (.inl hactual)

theorem calm_carries : Calm q (Carries q) := fun hw hsession hactual =>
  hw.imp (fun hw => calm_unfinished hw hsession hactual) fun hw => calm_finished hw hsession hactual

theorem raised_ok {x : Except Err α} : raised x = .ok y ↔ x = .ok y := by
  cases x with
  | ok z => exact ⟨fun h => by cases h; rfl, fun h => by cases h; rfl⟩
  | error e => exact ⟨nofun, nofun⟩

theorem keeps_service (hI : Calm q I) {call : Draw → Db → Except Err (Db × α)}
    (hcall : ∀ d db db' x, call d db = .ok (db', x) → q.KeepsSession db db' ∧ q.KeepsActual db db') :
    Steps.Keeps I (service C call) := by
  refine Steps.keeps_transact fun w w' x hw ht => ?_
  simp only [bind_ok, pure_ok, raised_ok, Prod.mk.injEq] at ht
  obtain ⟨⟨db, y⟩, hr, rfl, -⟩ := ht
  obtain ⟨hsession, hactual⟩ := hcall _ _ _ _ hr
  exact hI hw hsession hactual

theorem keeps_commit (hI : Calm q I) (hop : ∀ d result, call d ≠ .finishSession result)
    (hcall : ∀ d db db', exec C.toEnv db (call d) = .ok db' → q.KeepsActual db db') :
    Steps.Keeps I (commit C call) := by
  refine keeps_service hI fun d db db' x hx => ?_
  simp only [map_ok, Prod.mk.injEq] at hx
  obtain ⟨db'', hexec, rfl, -⟩ := hx
  exact ⟨keepsSession_of_exec hexec (hop d), hcall d _ _ hexec⟩

theorem keeps_ask (hI : Calm q I) : Steps.Keeps I (ask answer) := by
  refine Steps.keeps_transact fun w w' x hw ht => ?_
  simp only [map_ok, Prod.mk.injEq] at ht
  obtain ⟨y, -, rfl, -⟩ := ht
  exact hI hw (keepsSession_of_eq rfl) rfl

theorem runs_ask {J : World → Prop} (hJ : J w) (hy : answer w.ticks = .ok y) :
    (ask answer).Runs J (Steps.Returning fun x w' => x = y ∧ w' = { w with ticks := w.ticks + 1 }) w :=
  Steps.runs_transact hJ (by rw [hy]; rfl)

theorem keeps_putBytes (hI : Calm q I) {content : Content} {a : Artifact} :
    Steps.Keeps I (putBytes C h content runId a) := by
  refine Steps.keeps_require.bind fun _ => (keeps_commit hI (fun _ _ => by simp) fun d db db' he => ?_).bind
    fun _ => Steps.keeps_done
  obtain ⟨_, rfl⟩ | ⟨_, _, _, _, _, _, rfl, -⟩ := ArtifactService.putBytes_ok he
  · rfl
  · rfl

theorem keeps_replaceInvocation (hI : Calm q I) {invocation : Invocation} :
    Steps.Keeps I (replaceInvocation C invocation) := by
  refine Steps.keeps_transact fun w w' x hw ht => ?_
  simp only [bind_ok, pure_ok, raised_ok, Prod.mk.injEq] at ht
  obtain ⟨db, hr, rfl, -⟩ := ht
  obtain ⟨_, rfl⟩ := RuntimeService.replaceInvocation_ok hr
  exact hI hw (keepsSession_of_eq rfl) rfl

theorem keeps_recordInvocation (hI : Calm q I) {invocation : Invocation} :
    Steps.Keeps I (recordInvocation C invocation) := by
  refine Steps.keeps_transact fun w w' x hw ht => ?_
  simp only [bind_ok, pure_ok, raised_ok, Prod.mk.injEq] at ht
  obtain ⟨db, hr, rfl, -⟩ := ht
  obtain ⟨_, rfl⟩ := RuntimeService.recordInvocation_ok hr
  exact hI hw (keepsSession_of_eq rfl) rfl

theorem keeps_appendSpool (hI : Calm q I) {events : List RuntimeEvent} : Steps.Keeps I (appendSpool C id events) := by
  induction events with
  | nil => exact Steps.keeps_done
  | cons event rest ih =>
    refine (Steps.keeps_transact fun w w' x hw ht => ?_).bind fun _ => ih
    split at ht
    · cases ht
      exact hI hw (keepsSession_of_eq rfl) rfl
    · simp only [bind_ok, pure_ok, Prod.mk.injEq] at ht
      obtain ⟨-, -, rfl, -⟩ := ht
      exact hI hw (keepsSession_of_eq rfl) rfl

theorem keeps_unlinkSpool (hI : Calm q I) : Steps.Keeps I (unlinkSpool id) := by
  refine Steps.keeps_transact fun w w' x hw ht => ?_
  cases ht
  exact hI hw (keepsSession_of_eq rfl) rfl

theorem recordedAttempt_ok {record : VariationAttemptRecord} {n : Nat} (h : recordedAttempt C w record = .ok (w', n)) :
    w'.db = w.db ∧ ∃ row, w.db.sessions.get? record.sessionId = some row ∧ row.state = .running := by
  simp only [recordedAttempt, bind_ok, orRaise_ok, require_ok, exists_const] at h
  obtain ⟨row, hrow, hstate, h⟩ := h
  split at h
  · simp only [bind_ok, pure_ok, Prod.mk.injEq] at h
    obtain ⟨_, -, rfl, -⟩ := h
    exact ⟨rfl, row, hrow, hstate⟩
  · simp only [bind_ok, pure_ok, Prod.mk.injEq] at h
    obtain ⟨_, -, rfl, -⟩ := h
    exact ⟨rfl, row, hrow, hstate⟩

theorem keeps_startSession (hI : Calm q I) : Steps.Keeps I (commit C fun _ => .startSession id) := by
  refine keeps_commit hI (fun _ _ => by simp) fun d db db' he => ?_
  obtain ⟨_, rfl⟩ := SessionService.start_ok he
  rfl

theorem keeps_stageCandidate (hI : Calm q I) {m : CandidateManifest} :
    Steps.Keeps I (commit C fun _ => .stageCandidate m) := by
  refine keeps_commit hI (fun _ _ => by simp) fun d db db' he => ?_
  simp only [exec, map_ok, Prod.exists, exists_and_right, exists_eq_right] at he
  obtain ⟨_, he⟩ := he
  obtain rfl | ⟨_, _, rfl, -⟩ := EvidenceService.stageCandidate_ok he
  · rfl
  · rfl

theorem keeps_reserve (hI : Calm q I) {key : String} {estimated : UsageRecord} :
    Steps.Keeps I (reserve C h runId key estimated) := by
  refine keeps_service hI fun d db db' x he => ⟨?_, reserve_actual he⟩
  obtain rfl | ⟨_, _, _, _, _, _, _, _, rfl, -⟩ := BudgetService.reserve_ok he
  · exact keepsSession_of_eq rfl
  · exact keepsSession_of_eq rfl

theorem keeps_enqueueActivity (hI : Calm q I)
    (hcall : ∀ d, ∃ runId key digest actorId sessionId reservationId id now ids,
      call d = .enqueueActivity runId key digest actorId sessionId reservationId id now ids) :
    Steps.Keeps I (commit C call) := by
  refine keeps_commit hI (fun d result => ?_) fun d db db' he => ?_
  · obtain ⟨_, _, _, _, _, _, _, _, _, heq⟩ := hcall d
    simp [heq]
  · obtain ⟨_, _, _, _, _, _, _, _, _, heq⟩ := hcall d
    rw [heq] at he
    simp only [exec, map_ok, Prod.exists, exists_and_right, exists_eq_right] at he
    obtain ⟨_, he⟩ := he
    obtain rfl | ⟨_, _, _, _, _, rfl, -⟩ := ActivityService.enqueue_ok he
    · rfl
    · rfl

theorem keeps_complete (hI : Calm q I) {activity : ActivityRow} :
    Steps.Keeps I (complete C workerId activity digest) := by
  refine keeps_commit hI (fun _ _ => by simp) fun d db db' he => ?_
  obtain rfl | ⟨_, _, _, _, _, rfl, -⟩ := ActivityService.complete_ok he
  · rfl
  · rfl

theorem keeps_markReconciliationRequired (hI : Calm q I) {reason : String} {activity : ActivityRow} :
    Steps.Keeps I (markReconciliationRequired C workerId activity reason) :=
  keeps_commit hI (fun _ _ => by simp) fun _ _ _ he => markReconciliationRequired_actual he

theorem keeps_charge (hop : ∀ d result, call d ≠ .finishSession result)
    (hcall : ∀ d db db', exec C.toEnv db (call d) = .ok db' →
      actualOf db'.reservations q.reservationId = actualOf db.reservations q.reservationId ∨
        actualOf db'.reservations q.reservationId = some q.usage) : Steps.Keeps (Finished q) (commit C call) := by
  refine Steps.keeps_transact fun w w' x hw ht => ?_
  simp only [bind_ok, pure_ok, raised_ok, map_ok, Prod.mk.injEq] at ht
  obtain ⟨⟨db, y⟩, ⟨db'', hexec, rfl, -⟩, rfl, -⟩ := ht
  exact hw.charged (keepsSession_of_exec hexec (hop _)) (hcall _ _ _ hexec)

theorem keeps_completeBudget : Steps.Keeps (Finished q) (completeBudget C h q.reservationId q.usage) :=
  keeps_charge (fun _ _ => by simp) fun _ _ _ he => complete_actual he

theorem keeps_settleExhausted {activity : ActivityRow} :
    Steps.Keeps (Finished q) (settleExhausted C h runId activity leaseEpoch q.reservationId digest q.usage) :=
  keeps_charge (fun _ _ => by simp) fun _ _ _ he => settle_actual he

theorem keeps_chargeBudget {activity : ActivityRow} :
    Steps.Keeps (Finished q) (chargeBudget C h runId activity leaseEpoch q.reservationId digest q.usage) := by
  refine (keeps_completeBudget.attempt).bind fun outcome => ?_
  cases outcome with
  | ok _ => exact Steps.keeps_done
  | error e =>
    change Steps.Keeps _ (if exhausted e = true then _ else _)
    split
    · exact keeps_settleExhausted
    · exact Steps.keeps_raise

/-! ### The end of a session -/

theorem recordAttempt_runs {record : VariationAttemptRecord} (hid : record.sessionId = q.sessionId) (hw : Carries q w) :
    (recordAttempt C record).Runs (Carries q) (fun x w' => Carries q w' ∧ ∀ n, x = .ok n → Unfinished q w') w := by
  refine Steps.runs_transact_of hw (fun w' n ht => ?_) fun e _ => ⟨hw, nofun⟩
  obtain ⟨hdb, row, hrow, hrunning⟩ := recordedAttempt_ok (raised_ok.mp ht)
  have hunfinished : Unfinished q w := by
    rcases hw with hw | ⟨s, r, hs, hsound, hr, -⟩
    · exact hw
    · obtain rfl : row = s := Option.some.inj (hrow.symm.trans (hid ▸ hs))
      have hstate := hsound.finished r hr
      rw [hrunning] at hstate
      cases ho : r.outcome <;> rw [ho] at hstate <;> cases hstate
  have hunfinished' : Unfinished q w' := by
    refine calm_unfinished hunfinished (keepsSession_of_eq (by rw [hdb])) ?_
    rw [Account.KeepsActual, hdb]
  exact ⟨.inl hunfinished', fun _ _ => hunfinished'⟩

theorem finish_runs (hid : result.sessionId = q.sessionId) (hu : q.fresh → result.usage = q.usage) (hw : Unfinished q w) :
    (commit C fun _ => .finishSession result).Runs (Carries q)
      (fun x w' => Carries q w' ∧ ∀ u, x = .ok u → Finished q w') w := by
  refine Steps.runs_transact_of (.inl hw) (fun w' x ht => ?_) fun e _ => ⟨.inl hw, nofun⟩
  simp only [bind_ok, pure_ok, raised_ok, map_ok, Prod.mk.injEq] at ht
  obtain ⟨_, ⟨db', hfinish, rfl⟩, rfl, -⟩ := ht
  obtain ⟨hfresh, s, hs, hsound, hn, ha⟩ := hw
  simp only [exec, SessionService.finish, bind_ok, orRaise_ok] at hfinish
  obtain ⟨s', hs', hfinish⟩ := hfinish
  obtain rfl : s' = s := Option.some.inj (hs'.symm.trans (hid ▸ hs))
  rw [hn] at hfinish
  simp only [bind_ok, requireSessionTransition_ok, exists_const, pure_ok] at hfinish
  obtain ⟨-, rfl⟩ := hfinish
  suffices hw' : Finished q _ from ⟨.inr hw', fun _ _ => hw'⟩
  refine ⟨{ s' with state := result.outcome.state, result := some result }, result, ?_,
    ⟨hsound.request, fun r hr => by cases hr; rfl⟩, rfl, hu hfresh, .inl ha⟩
  have hset := Table.sets_modify
    (fun r : VariationSessionRow => { r with state := result.outcome.state, result := some result }) (fun _ => rfl) hs'
  rw [← hid]
  exact (congrArg _ (Table.get?_key hs').symm).trans hset.get?_self

/-- What the computation of an outcome comes to: only with a finished session it returns. -/
def Finishes (q : Account) (x : Except Failure String) (w : World) : Prop :=
  Carries q w ∧ ∀ digest, x = .ok digest → Finished q w ∧ q.fresh

theorem record_finish_runs {record : VariationAttemptRecord} (hid : record.sessionId = q.sessionId)
    (hid' : result.sessionId = q.sessionId) (hu : q.fresh → result.usage = q.usage) {rest : Task String}
    (hrest : Steps.Keeps (Finished q) rest) (hw : Carries q w) : (do
      let _ ← recordAttempt C record
      commit C fun _ => .finishSession result
      rest : Task String).Runs (Carries q) (Finishes q) w := by
  refine (recordAttempt_runs hid hw).bind (fun n w₁ hn => ?_) fun e w₁ he => ⟨he.1, nofun⟩
  have hw₁ := hn.2 n rfl
  refine (finish_runs hid' hu hw₁).bind (fun u w₂ hf => ?_) fun e w₂ he => ⟨he.1, nofun⟩
  have hw₂ := hf.2 u rfl
  exact ((hrest w₂ hw₂).weaken fun _ => .inr).mono fun x w₃ hw₃ => ⟨.inr hw₃, fun _ _ => ⟨hw₃, hw₁.1⟩⟩

theorem Finishes.before {f : α → Task String} (hp : Steps.Keeps (Carries q) p) (hw : Carries q w)
    (hf : ∀ x w', Carries q w' → (f x).Runs (Carries q) (Finishes q) w') : (p >>= f).Runs (Carries q) (Finishes q) w :=
  (hp w hw).bind hf fun _ _ he => ⟨he, nofun⟩

theorem abandon_runs {activity : ActivityRow} {before : String} (hid : request.sessionId = q.sessionId)
    (hu : q.fresh → usage = q.usage) (hw : Carries q w) :
    (abandon C request activity usage streamDigest before completedAt).Runs (Carries q) (Finishes q) w :=
  record_finish_runs hid hid hu Steps.keeps_done hw

theorem propose_runs {activity : ActivityRow} {workspace : CampaignWorkspace} {before after : String}
    (hid : request.sessionId = q.sessionId) (hu : q.fresh → usage = q.usage) (hw : Carries q w) :
    (propose C h request activity workspace completion usage streamDigest before after completedAt).Runs (Carries q)
      (Finishes q) w := by
  unfold propose
  refine Finishes.before Steps.keeps_require hw fun _ w₁ hw₁ => ?_
  refine Finishes.before Steps.keeps_orRaise hw₁ fun _ w₂ hw₂ => ?_
  refine Finishes.before Steps.keeps_orRaise hw₂ fun _ w₃ hw₃ => ?_
  refine Finishes.before (keeps_putBytes calm_carries) hw₃ fun patchDigest w₄ hw₄ => ?_
  refine Finishes.before (keeps_putBytes calm_carries) hw₄ fun _ w₅ hw₅ => ?_
  refine record_finish_runs hid hid hu ?_ hw₅
  exact (keeps_stageCandidate calm_finished).bind fun _ => (keeps_reserve calm_finished).bind fun _ =>
    (keeps_enqueueActivity calm_finished fun d => ⟨_, _, _, _, _, _, _, _, _, rfl⟩).bind fun _ => Steps.keeps_done

theorem finalizeCompletion_runs {activity : ActivityRow} {workspace : CampaignWorkspace} {before after : String}
    (hid : request.sessionId = q.sessionId) (hu : q.fresh → usage = q.usage) (hw : Carries q w) :
    (finalizeCompletion C h request activity workspace completion usage streamDigest before after).Runs (Carries q)
      (Finishes q) w := by
  refine Finishes.before (keeps_ask calm_carries) hw fun completedAt w₁ hw₁ => ?_
  cases completion.outcome with
  | stop => exact abandon_runs hid hu hw₁
  | proposal => exact propose_runs hid hu hw₁

theorem runs_of_finished (hp : Steps.Keeps (Finished q) p) (hw : Finished q w) :
    p.Runs (Carries q) (fun _ w' => Carries q w') w :=
  ((hp w hw).weaken fun _ => .inr).mono fun _ _ => .inr

theorem getResult_runs (hw : Carries q w) : (getResult q.sessionId).Runs (Carries q)
      (fun x w' => w' = w ∧ ∀ r, x = .ok (some r) → Finished q w ∧ r.usage = q.usage) w := by
  refine Steps.runs_look_of hw (fun x hx => ⟨rfl, ?_⟩) fun e _ => ⟨rfl, nofun⟩
  simp only [map_ok, findSession, raised_ok, orRaise_ok] at hx
  obtain ⟨s, hs, rfl⟩ := hx
  intro r hr
  have hr : s.result = some r := Except.ok.inj hr
  rcases hw with ⟨-, s', hs', -, hn, -⟩ | hw
  · obtain rfl : s = s' := Option.some.inj (hs.symm.trans hs')
    rw [hr] at hn
    cases hn
  · obtain ⟨s', r', hs', -, hr', hu, -⟩ := id hw
    obtain rfl : s = s' := Option.some.inj (hs.symm.trans hs')
    obtain rfl : r = r' := Option.some.inj (hr.symm.trans hr')
    exact ⟨hw, hu⟩

theorem keeps_settleUnreserved {activity : ActivityRow} {completed : Invocation} (hid : request.sessionId = q.sessionId) :
    Steps.Keeps (Carries q) (settleUnreserved C h request activity leaseEpoch q.reservationId completed e) := by
  intro w hw
  unfold settleUnreserved
  rw [hid]
  refine (getResult_runs hw).bind (fun result w₁ hr => ?_) fun e w₁ he => he.1 ▸ hw
  obtain ⟨rfl, hr⟩ := hr
  refine Steps.Runs.bind (Q := fun _ w' => w' = w₁) (Steps.runs_look_of hw (fun _ _ => rfl) fun _ _ => rfl)
    (fun frozen w₂ hw₂ => ?_) fun e w₂ hw₂ => hw₂ ▸ hw
  subst hw₂
  cases result with
  | none => exact hw
  | some r =>
    cases frozen with
    | none => exact hw
    | some frozen =>
      obtain ⟨hfinished, hu⟩ := hr r rfl
      simp only [hu]
      exact runs_of_finished ((keeps_replaceInvocation calm_finished).bind fun _ => keeps_settleExhausted.bind fun _ =>
        (keeps_unlinkSpool calm_finished).bind fun _ => Steps.keeps_done) hfinished

theorem conclude_runs {activity : ActivityRow} {workspace : CampaignWorkspace} {before : String} {turn : Turn}
    (hid : request.sessionId = q.sessionId) (hu : q.fresh → usageFromEvents turn.events = q.usage) (hw : Carries q w) :
    (conclude C h request activity leaseEpoch q.reservationId workspace before turn).Runs (Carries q)
      (fun _ w' => Carries q w') w := by
  unfold conclude
  refine (Steps.keeps_look w hw).bind (fun spool w₁ hw₁ => ?_) fun _ _ he => he
  refine (keeps_putBytes calm_carries w₁ hw₁).bind (fun streamDigest w₂ hw₂ => ?_) fun _ _ he => he
  refine (keeps_ask calm_carries w₂ hw₂).bind (fun completedAt w₃ hw₃ => ?_) fun _ _ he => he
  refine (finalizeCompletion_runs hid hu hw₃).attempt.bind (fun outcome w₄ hw₄ => ?_) fun _ _ he => he.elim
  cases outcome with
  | error e =>
    change (if exhausted e = true then _ else _ : Task String).Runs _ _ _
    split
    · exact keeps_settleUnreserved hid w₄ hw₄.1
    · exact hw₄.1
  | ok digest =>
    obtain ⟨hfinished, hfresh⟩ := hw₄.2 digest rfl
    simp only [hu hfresh]
    exact runs_of_finished ((keeps_replaceInvocation calm_finished).bind fun _ => keeps_chargeBudget.bind fun _ =>
      (keeps_unlinkSpool calm_finished).bind fun _ => Steps.keeps_done) hfinished

/-! ### A failed execution -/

theorem keeps_park (hI : Calm q I) {invocation : Invocation} : Steps.Keeps I (park C h invocation) := by
  refine Steps.keeps_look.bind fun spool => ?_
  cases spool with
  | none => exact Steps.keeps_done.bind fun _ => keeps_replaceInvocation hI
  | some events =>
    exact (keeps_putBytes hI).bind fun _ => Steps.keeps_done.bind fun _ => keeps_replaceInvocation hI

theorem keeps_classifyFailure (hI : Calm q I) {activity : ActivityRow} : Steps.Keeps I (classifyFailure C h activity) := by
  refine Steps.keeps_look.bind fun found => ?_
  cases found with
  | none => exact Steps.keeps_done
  | some invocation =>
    dsimp only
    split
    · exact Steps.keeps_done
    · exact (keeps_park hI).attempt.bind fun _ => Steps.keeps_done

theorem keeps_fail (hI : Calm q I) {activity : ActivityRow} : Steps.Keeps I (fail C h workerId activity e) := by
  refine (keeps_classifyFailure hI).bind fun disposition => ?_
  cases disposition with
  | reconcile => exact (keeps_markReconciliationRequired hI).bind fun _ => Steps.keeps_raise
  | retry => exact Steps.keeps_done.bind fun _ => Steps.keeps_raise

/-! ### The turn -/

theorem keeps_openInvocation (hI : Calm q I) {activity : ActivityRow} {before : String} :
    Steps.Keeps I (openInvocation C activity request before) := by
  refine Steps.keeps_look.bind fun found => ?_
  cases found with
  | some invocation => exact Steps.keeps_done
  | none => exact (keeps_ask hI).bind fun _ => (keeps_recordInvocation hI).bind fun _ => Steps.keeps_done

theorem keeps_openSession (hI : Calm q I) {activity : ActivityRow} {workspace : CampaignWorkspace}
    {invocation : Invocation} : Steps.Keeps I (openSession C activity request workspace invocation) := by
  unfold openSession
  split
  · exact Steps.keeps_done
  · exact (keeps_ask hI).bind fun _ => Steps.keeps_require.bind fun _ => (keeps_ask hI).bind fun _ =>
      (keeps_replaceInvocation hI).bind fun _ => Steps.keeps_done

theorem keeps_startTurn (hI : Calm q I) {workspace : CampaignWorkspace} {invocation : Invocation}
    {session : RuntimeSessionRef} : Steps.Keeps I (startTurn C request workspace invocation session) := by
  refine (keeps_ask hI).bind fun inspection => ?_
  split
  · exact Steps.keeps_done
  · split
    · exact (keeps_ask hI).bind fun _ => (keeps_replaceInvocation hI).bind fun _ => Steps.keeps_done
    · exact Steps.keeps_done
    · exact Steps.keeps_raise

theorem keeps_completeTurn (hI : Calm q I) {activity : ActivityRow} {session : RuntimeSessionRef}
    {inspection : RuntimeInspection} : Steps.Keeps I (completeTurn C activity session inspection) := by
  unfold completeTurn
  split
  · exact Steps.keeps_orRaise.bind fun _ => Steps.keeps_done
  · refine (keeps_ask hI).bind fun streamed => (keeps_appendSpool hI).bind fun _ => ?_
    split
    · exact Steps.keeps_raise
    · exact (keeps_ask hI).bind fun _ => Steps.keeps_done

theorem keeps_runTurn (hI : Calm q I) {activity : ActivityRow} {workspace : CampaignWorkspace} {before : String} :
    Steps.Keeps I (runTurn C activity request workspace before) :=
  (keeps_openInvocation hI).bind fun _ => (keeps_openSession hI).bind fun _ => (keeps_startTurn hI).bind fun _ =>
    (keeps_completeTurn hI).bind fun _ => Steps.keeps_done

end Accounts

/-! ## The events of a resumed turn -/

/-- The events that the provider hands to an execution which asks it from the n-th time on:
none where the turn is completed, else those of the turn that goes on or is started. -/
def delivered (C : CodingEnv) (n : Nat) (request : VariationSessionRequest) (workspace : CampaignWorkspace)
    (session : RuntimeSessionRef) : List RuntimeEvent :=
  match C.runtime.inspect n session workspace with
  | .error _ => []
  | .ok inspection =>
    if inspection.state = .completed then []
    else
      match session.nativeOperationId with
      | some _ => (C.runtime.events (n + 1) session).1
      | none =>
        match C.runtime.startTurn (n + 1) request session with
        | .ok started => (C.runtime.events (n + 3) started).1
        | .error _ => []

section Delivery
variable {C : CodingEnv}

variable {w w' : World} {inspection : RuntimeInspection} {completion : AgentCompletion} {events : List RuntimeEvent}
  {request : VariationSessionRequest}

theorem run_ask {α : Type} {answer : Nat → Except Failure α} {x : α} (h : (ask answer).run w = (.ok x, w')) :
    answer w.ticks = .ok x ∧ w' = { w with ticks := w.ticks + 1 } := by
  unfold ask at h
  rw [Steps.run_transact] at h
  cases ha : answer w.ticks with
  | ok y =>
    rw [ha] at h
    cases h
    exact ⟨rfl, rfl⟩
  | error e =>
    rw [ha] at h
    cases h

theorem completeTurn_events {activity : ActivityRow} {session : RuntimeSessionRef}
    (h : (completeTurn C activity session inspection).run w = (.ok (completion, events), w')) :
    events = if inspection.state = .completed then [] else (C.runtime.events w.ticks session).1 := by
  unfold completeTurn at h
  split at h
  · next hs =>
    obtain ⟨_, _, -, h⟩ := Steps.run_bind_ok h
    cases h
    rw [if_pos hs]
  · next hs =>
    obtain ⟨streamed, w₁, hask, h⟩ := Steps.run_bind_ok h
    obtain ⟨_, w₂, -, h⟩ := Steps.run_bind_ok h
    obtain rfl := Except.ok.inj (run_ask hask).1
    split at h
    · cases h
    · obtain ⟨_, _, -, h⟩ := Steps.run_bind_ok h
      cases h
      rw [if_neg hs]

theorem replaceInvocation_ticks {invocation : Invocation} {u : Unit}
    (h : (replaceInvocation C invocation).run w = (.ok u, w')) : w'.ticks = w.ticks + 1 := by
  unfold replaceInvocation at h
  rw [Steps.run_transact] at h
  split at h
  · next w₁ x ht =>
    simp only [bind_ok, pure_ok, Prod.mk.injEq] at ht
    obtain ⟨_, -, rfl, -⟩ := ht
    obtain ⟨-, rfl⟩ := Prod.mk.inj h
    rfl
  · cases h

theorem startTurn_events {activity : ActivityRow} {workspace : CampaignWorkspace} {invocation invocation' : Invocation}
    {session session' : RuntimeSessionRef} {w₁ w₂ : World}
    (h : (startTurn C request workspace invocation session).run w = (.ok (invocation', session', inspection), w₁))
    (h' : (completeTurn C activity session' inspection).run w₁ = (.ok (completion, events), w₂)) :
    events = delivered C w.ticks request workspace session := by
  rw [completeTurn_events h']
  unfold startTurn at h
  obtain ⟨inspected, w₃, hask, h⟩ := Steps.run_bind_ok h
  obtain ⟨hinspected, rfl⟩ := run_ask hask
  simp only [delivered, hinspected]
  cases hop : session.nativeOperationId with
  | some operation =>
    simp only [hop] at h ⊢
    cases h
    rfl
  | none =>
    simp only [hop] at h ⊢
    cases hs : inspected.state with
    | notStarted =>
      simp only [hs] at h
      obtain ⟨started, w₄, hstart, h⟩ := Steps.run_bind_ok h
      obtain ⟨hstarted, rfl⟩ := run_ask hstart
      obtain ⟨_, w₅, hreplace, h⟩ := Steps.run_bind_ok h
      have hticks := replaceInvocation_ticks hreplace
      cases h
      rw [hs, hticks]
      simp only [hstarted]
    | completed =>
      simp only [hs] at h
      cases h
      rw [hs]
      rfl
    | _ =>
      simp only [hs] at h
      cases h

theorem runTurn_events {activity : ActivityRow} {workspace : CampaignWorkspace} {before : String}
    {invocation : Invocation} {session : RuntimeSessionRef} {turn : Turn}
    (hfound : (findActivityInvocation activity.activityId).run w = (.ok (some invocation), w))
    (hsession : invocation.envelope.runtimeSession = some session)
    (h : (runTurn C activity request workspace before).run w = (.ok turn, w')) :
    turn.events = delivered C w.ticks request workspace session := by
  have hopen : (openInvocation C activity request before).run w = (.ok invocation, w) := Steps.run_bind_of hfound
  have hopen' : (openSession C activity request workspace invocation).run w = (.ok (invocation, session), w) := by
    unfold openSession
    rw [hsession]
    rfl
  unfold runTurn at h
  rw [Steps.run_bind_of hopen, Steps.run_bind_of hopen'] at h
  obtain ⟨⟨invocation', session', inspection⟩, w₁, hstart, h⟩ := Steps.run_bind_ok h
  obtain ⟨⟨completion, events⟩, w₂, hcomplete, h⟩ := Steps.run_bind_ok h
  cases h
  exact startTurn_events hstart hcomplete

end Delivery

/-! ## Resuming an activity -/

/-- A crash left an invocation with a session of the provider, and the provider says that
its turn has not started or is completed. -/
structure Resumes (C : CodingEnv) (w : World) (activity : ActivityRow) (sessionId reservationId : String)
    (row : VariationSessionRow) (workspace : CampaignWorkspace) (invocation : Invocation) (session : RuntimeSessionRef) :
    Prop where
  reached : Reachable C.toEnv w.db
  ofSession : activity.sessionId = some sessionId
  ofReservation : activity.budgetReservationId = some reservationId
  stored : w.db.sessions.get? sessionId = some row
  found : (findActivityInvocation activity.activityId).run w = (.ok (some invocation), w)
  begun : invocation.record.state = .started ∨ invocation.record.state = .running
  prepared : invocation.envelope.runtimeSession = some session
  resolved : C.resolve row.request = .ok workspace
  inspected : ∃ inspection, C.runtime.inspect w.ticks session workspace = .ok inspection ∧
    (inspection.state = .notStarted ∨ inspection.state = .completed)

/-- The events that the resumed execution is handed: the provider was asked once before,
and a session that is queued is started. -/
def resumedEvents (C : CodingEnv) (w : World) (row : VariationSessionRow) (workspace : CampaignWorkspace)
    (session : RuntimeSessionRef) : List RuntimeEvent :=
  delivered C (w.ticks + 1 + if row.state = .queued then 1 else 0) row.request workspace session

def resumedAccount (C : CodingEnv) (w : World) (sessionId reservationId : String) (row : VariationSessionRow)
    (workspace : CampaignWorkspace) (session : RuntimeSessionRef) : Account where
  sessionId
  reservationId
  before := actualOf w.db.reservations reservationId
  fresh := row.result = none
  usage := match row.result with
    | some r => r.usage
    | none => usageFromEvents (resumedEvents C w row workspace session)

section Resumption
variable {C : CodingEnv} {h : Handler} {w : World} {activity : ActivityRow} {sessionId reservationId : String}
  {row : VariationSessionRow} {workspace : CampaignWorkspace} {invocation : Invocation} {session : RuntimeSessionRef}

theorem Resumes.carries (hr : Resumes C w activity sessionId reservationId row workspace invocation session) :
    Carries (resumedAccount C w sessionId reservationId row workspace session) w := by
  have hsound := reachable_rowSound hr.reached hr.stored
  cases hresult : row.result with
  | none => exact .inl ⟨hresult, row, hr.stored, hsound, hresult, rfl⟩
  | some r => exact .inr ⟨row, r, hr.stored, hsound, hresult, by simp [resumedAccount, hresult], .inl rfl⟩

theorem Resumes.request (hr : Resumes C w activity sessionId reservationId row workspace invocation session) :
    row.request.sessionId = sessionId :=
  (reachable_rowSound hr.reached hr.stored).request.trans (Table.get?_key hr.stored)

theorem Resumes.found_eq (hr : Resumes C w activity sessionId reservationId row workspace invocation session)
    {w' : World} (hi : w'.db.invocations = w.db.invocations) (he : w'.envelopes = w.envelopes) :
    (findActivityInvocation activity.activityId).run w' = (.ok (some invocation), w') := by
  have hfound := hr.found
  unfold findActivityInvocation at hfound ⊢
  rw [Steps.run_look] at hfound ⊢
  rw [hi, he, (Prod.mk.inj hfound).1]

theorem Resumes.recover_runs (hr : Resumes C w activity sessionId reservationId row workspace invocation session)
    {I : World → Prop} (hI : I w) :
    (recover C h activity).Runs I (fun x w' => x = .ok .resumable ∧ w' = { w with ticks := w.ticks + 1 }) w := by
  obtain ⟨inspection, hinspection, hstate⟩ := hr.inspected
  have hfound := hr.found
  unfold findActivityInvocation at hfound
  rw [Steps.run_look] at hfound
  have hturn : (recoverTurn C activity invocation).Runs I
      (fun x w' => x = .ok .resumable ∧ w' = { w with ticks := w.ticks + 1 }) w := by
    unfold recoverTurn
    rw [hr.prepared, hr.ofSession]
    refine (Steps.runs_look (y := row.request) hI (by simp [findSession, hr.stored, orRaise, raised, ok_mapError])).seq
      fun request w₁ hrequest => ?_
    obtain ⟨rfl, rfl⟩ := hrequest
    refine (Steps.runs_orRaise hr.resolved).seq fun workspace' w₂ hworkspace => ?_
    obtain ⟨rfl, rfl⟩ := hworkspace
    refine (runs_ask hI hinspection).seq fun inspected w₃ hinspected => ?_
    obtain ⟨rfl, rfl⟩ := hinspected
    rw [if_pos hstate]
    exact ⟨rfl, rfl⟩
  refine (Steps.runs_look hI (Prod.mk.inj hfound).1).seq fun found w₁ hw₁ => ?_
  obtain ⟨rfl, rfl⟩ := hw₁
  rcases hr.begun with hbegun | hbegun
  · simp only [hbegun]
    exact hturn
  · simp only [hbegun]
    exact hturn

theorem Resumes.start_runs (hr : Resumes C w activity sessionId reservationId row workspace invocation session)
    {w₁ : World} (hw₁ : w₁ = { w with ticks := w.ticks + 1 }) {q : Account} (hq : Carries q w₁) {α : Type} {rest : Task α}
    {Q : Except Failure α → World → Prop} (herror : ∀ e w', Carries q w' → Q (.error e) w')
    (hrest : ∀ w₂, Carries q w₂ → w₂.ticks = w.ticks + 1 + (if row.state = .queued then 1 else 0) →
      (findActivityInvocation activity.activityId).run w₂ = (.ok (some invocation), w₂) → rest.Runs (Carries q) Q w₂) :
    (if row.state = .queued then commit C (fun _ => .startSession row.request.sessionId) >>= fun _ => rest else rest
      : Task α).Runs (Carries q) Q w₁ := by
  subst hw₁
  split
  · next hqueued =>
    refine ((keeps_startSession calm_carries _ hq).with_run).bind (fun u w₂ hw₂ => ?_) fun e w₂ hw₂ => herror e w₂ hw₂.1
    obtain ⟨hcarries, hrun⟩ := hw₂
    unfold commit service at hrun
    rw [Steps.run_transact] at hrun
    split at hrun
    · next w₃ y ht =>
      simp only [bind_ok, pure_ok, raised_ok, map_ok, Prod.mk.injEq] at ht
      obtain ⟨_, ⟨db, hstart, rfl⟩, rfl, -⟩ := ht
      obtain ⟨_, rfl⟩ := SessionService.start_ok hstart
      cases hrun
      exact hrest _ hcarries (by simp [hqueued]) (hr.found_eq rfl rfl)
    · cases hrun
  · next hqueued => exact hrest _ hq (by simp [hqueued]) (hr.found_eq rfl rfl)

theorem Resumes.execute_runs (hr : Resumes C w activity sessionId reservationId row workspace invocation session) :
    (execute C h activity activity.leaseEpoch).Runs (Carries (resumedAccount C w sessionId reservationId row workspace session))
      (fun _ w' => Carries (resumedAccount C w sessionId reservationId row workspace session) w')
      { w with ticks := w.ticks + 1 } := by
  have hcarries : Carries (resumedAccount C w sessionId reservationId row workspace session) { w with ticks := w.ticks + 1 } :=
    calm_carries hr.carries (keepsSession_of_eq rfl) rfl
  have hrow : findSession { w with ticks := w.ticks + 1 } sessionId = .ok row := by
    simp [findSession, hr.stored, orRaise, raised, ok_mapError]
  unfold execute
  rw [hr.ofSession, hr.ofReservation]
  refine (Steps.runs_look (y := row.request) hcarries (by simp [hrow])).seq fun request w₁ hrequest => ?_
  obtain ⟨rfl, rfl⟩ := hrequest
  refine (Steps.runs_orRaise hr.resolved).seq fun workspace' w₂ hworkspace => ?_
  obtain ⟨rfl, rfl⟩ := hworkspace
  refine Steps.runs_orRaise_of.bind (fun _ w₃ hw₃ => ?_) fun e w₃ hw₃ => hw₃ ▸ hcarries
  obtain rfl := hw₃
  refine Steps.runs_require_of.bind (fun _ w₄ hw₄ => ?_) fun e w₄ hw₄ => hw₄ ▸ hcarries
  obtain rfl := hw₄
  refine (Steps.runs_look (y := row.state) hcarries (by rw [hr.request]; simp [hrow])).seq fun state w₅ hstate => ?_
  obtain ⟨rfl, rfl⟩ := hstate
  refine hr.start_runs rfl hcarries (fun _ _ hw' => hw') fun w₆ hw₆ hticks hfound => ?_
  refine ((keeps_runTurn calm_carries w₆ hw₆).with_run).bind (fun turn w₇ hw₇ => ?_) fun e w₇ hw₇ => hw₇.1
  refine conclude_runs hr.request (fun hfresh => ?_) hw₇.1
  have hfresh : row.result = none := hfresh
  rw [runTurn_events hfound hr.prepared hw₇.2, hticks]
  simp only [resumedAccount, hfresh]
  rfl

theorem Resumes.work_runs (hr : Resumes C w activity sessionId reservationId row workspace invocation session)
    (workerId : String) :
    (work C h workerId activity).Runs (Carries (resumedAccount C w sessionId reservationId row workspace session))
      (fun _ w' => Carries (resumedAccount C w sessionId reservationId row workspace session) w') w := by
  unfold work
  refine (hr.recover_runs hr.carries).bind (fun recovery w₁ hw₁ => ?_) fun e w₁ hw₁ => nomatch hw₁.1
  obtain ⟨hrecovery, rfl⟩ := hw₁
  obtain rfl := Except.ok.inj hrecovery
  refine hr.execute_runs.attempt.bind (fun outcome w₂ hw₂ => ?_) fun _ _ he => he.elim
  cases outcome with
  | error e => exact keeps_fail calm_carries w₂ hw₂
  | ok digest => exact (keeps_complete calm_carries).bind (fun _ => Steps.keeps_done) w₂ hw₂

end Resumption

/-! ## Usage survives recovery -/

/-- The events that executions before have appended to the activity's spool. -/
def appended (w : World) (activity : ActivityRow) : List RuntimeEvent := (w.spools (invocationId activity)).getD []

def AtLeast (usage : UsageRecord) (events : List RuntimeEvent) : Prop :=
  ∀ d, (usageFromEvents events).get d ≤ usage.get d

def inputTokens (events : List RuntimeEvent) : Nat := maximum (runtimeUsage events) ["input_tokens", "prompt_tokens"]

def outputTokens (events : List RuntimeEvent) : Nat := maximum (runtimeUsage events) ["output_tokens", "completion_tokens"]

theorem atLeast_usageFromEvents {events events' : List RuntimeEvent} :
    AtLeast (usageFromEvents events') events ↔
      inputTokens events ≤ inputTokens events' ∧ outputTokens events ≤ outputTokens events' := by
  constructor
  · intro h
    exact ⟨h .modelInputTokens, h .modelOutputTokens⟩
  · rintro ⟨hinput, houtput⟩ d
    cases d with
    | modelInputTokens => exact hinput
    | modelOutputTokens => exact houtput
    | wallClockSeconds | modelCostMicrousd | toolCalls | sandboxCpuSeconds | sandboxGpuSeconds | authoritativeEvaluations
    | variationSessions | artifactBytes => exact Nat.le_refl _

/-- The store at a later crash, or at the end. -/
def Reached (p : Task Bool) (w s : World) : Prop := p.Cuts s w ∨ s = (p.run w).2

def HasResult (s : World) (sessionId : String) : Prop :=
  ∃ row, s.db.sessions.get? sessionId = some row ∧ row.result ≠ none

/-- The session's result and what was charged since are at least the usage of the events. -/
structure Survives (events : List RuntimeEvent) (sessionId reservationId : String) (w s : World) : Prop where
  result : ∀ row r, s.db.sessions.get? sessionId = some row → row.result = some r → AtLeast r.usage events
  charged : ∀ u, actualOf s.db.reservations reservationId = some u →
    actualOf w.db.reservations reservationId ≠ some u → AtLeast u events

/-- The session had a result with the usage of the events before; or it had none, and the
events that the provider hands to the resumed execution reach their tokens. -/
def Covered (C : CodingEnv) (w : World) (row : VariationSessionRow) (workspace : CampaignWorkspace)
    (session : RuntimeSessionRef) (events : List RuntimeEvent) : Prop :=
  match row.result with
  | some r => AtLeast r.usage events
  | none => inputTokens events ≤ inputTokens (resumedEvents C w row workspace session) ∧
      outputTokens events ≤ outputTokens (resumedEvents C w row workspace session)

section Survival
variable {C : CodingEnv} {h : Handler} {w s : World} {activity : ActivityRow} {sessionId reservationId workerId : String}
  {row : VariationSessionRow} {workspace : CampaignWorkspace} {invocation : Invocation} {session : RuntimeSessionRef}

variable (sessionId reservationId) in
theorem covered_iff {events : List RuntimeEvent} : Covered C w row workspace session events ↔
    AtLeast (resumedAccount C w sessionId reservationId row workspace session).usage events := by
  unfold Covered resumedAccount
  cases row.result with
  | some r => exact Iff.rfl
  | none => exact atLeast_usageFromEvents.symm

/-- The usage of the events of a crashed execution survives its recovery exactly when the
resumed execution is handed events that reach it. -/
theorem resumed_usage_survives_iff
    (hr : Resumes C w activity sessionId reservationId row workspace invocation session)
    (hs : Reached (work C h workerId activity) w s) (hresult : HasResult s sessionId) :
    Survives (appended w activity) sessionId reservationId w s ↔
      Covered C w row workspace session (appended w activity) := by
  have hcarries : Carries (resumedAccount C w sessionId reservationId row workspace session) s := by
    rcases hs with hcut | rfl
    · exact (hr.work_runs workerId).cut hcut
    · exact (hr.work_runs workerId).ends
  rw [covered_iff sessionId reservationId]
  obtain ⟨row', hrow', hsome⟩ := hresult
  rcases hcarries with ⟨-, row'', hrow'', -, hnone, -⟩ | ⟨row'', r, hrow'', -, hr', hu, hcharged⟩
  · obtain rfl : row' = row'' := Option.some.inj (hrow'.symm.trans hrow'')
    exact absurd hnone hsome
  · constructor
    · intro hsurvives
      exact hu ▸ hsurvives.result row'' r hrow'' hr'
    · refine fun hcovered => ⟨fun row₁ r₁ hrow₁ hr₁ => ?_, fun u hactual hnew => ?_⟩
      · obtain rfl : row₁ = row'' := Option.some.inj (hrow₁.symm.trans hrow'')
        obtain rfl : r₁ = r := Option.some.inj (hr₁.symm.trans hr')
        exact hu ▸ hcovered
      · rcases hcharged with hbefore | hnow
        · exact absurd (hbefore.symm.trans hactual) hnew
        · obtain rfl := Option.some.inj (hnow.symm.trans hactual)
          exact hcovered

end Survival

/-! ## A completed turn -/

namespace Sample
open AvoCorrelate.Sample (prepared reserved claimedFor ids usage)

def stop : AgentCompletion := ⟨.stop, "nothing to change", []⟩

def event : RuntimeEvent := ⟨1, "payload", [("input_tokens", 5)]⟩

/-- The turn has one event, and is completed from the tenth question on. -/
def runtime : Runtime where
  preflight _ := true
  prepare _ _ _ invocation := .ok ⟨"codex", "thread", none, some invocation⟩
  inspect n session _ :=
    .ok (if n < 10 then ⟨.notStarted, session, none, by simp⟩ else ⟨.completed, session, some stop, by simp⟩)
  startTurn _ _ session := .ok { session with nativeOperationId := some "turn" }
  events _ _ := ([event], none)
  wait _ _ := .ok stop

/-- What is drawn when the journal has so many events. -/
def drawn (db : Db) : String := "drawn-" ++ String.ofList (List.replicate db.events.rows.length 'x')

def workspace : CampaignWorkspace := ⟨"baseline", "candidate", "git"⟩

def env : CodingEnv where
  toEnv := AvoCorrelate.Sample.env
  attemptDigest r := "attempt:" ++ r.attemptId
  attemptIndexDigest _ stream after := stream ++ after
  sha256
    | .stream events => "stream:" ++ String.ofList (List.replicate events.length 'x')
    | .patch workspace => "patch:" ++ workspace.candidate
    | .rationale completion => "rationale:" ++ completion.rationale
  size _ := 1
  clock n := n
  uuid4 db := (drawn db, ids (drawn db))
  runtime
  resolve _ := .ok workspace
  validate _ := .ok ()
  sourceTreeDigest path := "tree:" ++ path
  championTree _ := "tree:baseline"
  createPatch _ := .ok ()
  changedPaths _ := .ok []
  deriveRisk _ := some .low

def handler : Handler := ⟨usage 1, "bundle", "worker"⟩

/-- A session whose activity is claimed. -/
def calls : List Op := prepared ++ [reserved "run" "reservation" 2] ++ claimedFor "run" "session" "activity" "reservation"

def world : World := ⟨after env.toEnv calls, .empty, fun _ => none, fun _ => none, 0⟩

def activity : ActivityRow :=
  ⟨"activity", "run", some "session", some "reservation", "activity", .running, 1, 1, some "worker", some 61, "input", none, 0⟩

/-- The worker crashed before the n-th of its further steps. -/
def crashedWorld (n : Nat) : World := (Steps.crashed n (work env handler "worker" activity) world).getD world

def record (state : InvocationState) : HarnessInvocationRecord :=
  ⟨"harness:activity", "activity", "run", some "session", state, none⟩

def crashedCalls : List Op :=
  calls ++ [.startSession "session", .recordInvocation (record .started), .replaceInvocation (record .started),
    .replaceInvocation (record .running)]

def row : VariationSessionRow := ⟨"session", "run", 1, .running, ⟨"session", "run", "seed-run", "", 0⟩, none⟩

def session : RuntimeSessionRef := ⟨"codex", "thread", some "turn", some "harness:activity"⟩

def invocation : Invocation := ⟨record .running, ⟨some session, "tree:baseline", none, none, none, [], none, 1⟩⟩

theorem resumes_started : Resumes env (crashedWorld 14) activity "session" "reservation" row workspace invocation session where
  reached := by
    rw [show (crashedWorld 14).db = after env.toEnv crashedCalls from rfl]
    exact reachable_after (by decide)
  ofSession := rfl
  ofReservation := rfl
  stored := rfl
  found := rfl
  begun := .inr rfl
  prepared := rfl
  resolved := rfl
  inspected := ⟨_, rfl, .inr rfl⟩

theorem resumes_spooled : Resumes env (crashedWorld 15) activity "session" "reservation" row workspace invocation session where
  reached := by
    rw [show (crashedWorld 15).db = after env.toEnv crashedCalls from rfl]
    exact reachable_after (by decide)
  ofSession := rfl
  ofReservation := rfl
  stored := rfl
  found := rfl
  begun := .inr rfl
  prepared := rfl
  resolved := rfl
  inspected := ⟨_, rfl, .inr rfl⟩

/-- Where the resumed execution ends. -/
def resumed (n : Nat) : World := ((work env handler "worker" activity).run (crashedWorld n)).2

def resultOf (s : World) : Option VariationSessionResult := (s.db.sessions.get? "session").bind (·.result)

theorem hasResult_of {s : World} (h : (resultOf s).isSome = true) : HasResult s "session" := by
  unfold resultOf at h
  cases hrow : s.db.sessions.get? "session" with
  | none =>
    rw [hrow] at h
    cases h
  | some row =>
    rw [hrow] at h
    exact ⟨row, hrow, Option.isSome_iff_ne_none.mp h⟩

end Sample

open AvoCorrelate.Variation.Sample in
/-- Nothing is lost where nothing was appended. -/
theorem resumed_usage_survives_started :
    Survives (appended (crashedWorld 14) activity) "session" "reservation" (crashedWorld 14) (resumed 14) :=
  have hreached : Reached (work env handler "worker" activity) (crashedWorld 14) (resumed 14) := .inr rfl
  (resumed_usage_survives_iff resumes_started hreached (hasResult_of (by decide))).mpr ⟨by decide, by decide⟩

open AvoCorrelate.Variation.Sample in
/-- The worker crashed with an event in the spool, the provider says that the turn is
completed, and the session ends with the usage of no event. -/
theorem spooled_usage_lost :
    (work env handler "worker" activity).Cuts (crashedWorld 15) world ∧
    Resumes env (crashedWorld 15) activity "session" "reservation" row workspace invocation session ∧
    HasResult (resumed 15) "session" ∧
    ¬ Survives (appended (crashedWorld 15) activity) "session" "reservation" (crashedWorld 15) (resumed 15) := by
  refine ⟨Steps.cuts_of_crashed (n := 15) rfl, resumes_spooled, hasResult_of (by decide), fun h => ?_⟩
  have hlost : (resultOf (resumed 15)).map (·.usage.modelInputTokens) = some 0 := by decide
  obtain ⟨r, hr, hzero⟩ := Option.map_eq_some_iff.mp hlost
  obtain ⟨row, hrow, hresult⟩ := Option.bind_eq_some_iff.mp hr
  have hle : (usageFromEvents [event]).modelInputTokens ≤ r.usage.modelInputTokens :=
    h.result row r hrow hresult .modelInputTokens
  rw [hzero, show (usageFromEvents [event]).modelInputTokens = 5 by decide] at hle
  exact absurd hle (by decide)

end AvoCorrelate.Variation
