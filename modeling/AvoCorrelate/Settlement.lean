import AvoCorrelate.Lib.Histories
import AvoCorrelate.Placement
/-!
# Settling an exhausted run

One call of `settle_exhausted_variation` ends the run, the activity, its reservation, the
candidate of its session with the evaluation ahead, and the open cases. A repeated call
finds the reservation exceeded, and then it looks at the run, the activity and the cases,
but no longer at the candidate.
-/
open AvoLib

namespace AvoCorrelate

namespace TerminalBudgetService

def stagedCandidates (db : Db) (activity : ActivityRow) : List CandidateRow :=
  match activity.sessionId with
  | none => []
  | some id => sessionCandidates db activity.runId (some id)

/-- The candidate is blocked, and no evaluation of it is ahead. -/
structure Stopped (db : Db) (c : CandidateRow) : Prop where
  state : c.state = .lifecycle .policyBlocked
  evaluation : ∀ r ∈ db.reservations, r.activityKey = evaluationKey c.candidateId → r.state.active = false

/-- What a terminal settlement is to leave behind. -/
structure Settled (db : Db) (runId activityId reservationId digest : String) (actual : UsageRecord) : Prop where
  run : ∃ run, db.runs.get? runId = some run ∧ run.state = .failed
  activity : ∃ a, db.activities.get? activityId = some a ∧ a.state = .completed ∧ a.resultDigest = some digest ∧
    a.leaseOwner = none ∧ a.leaseExpiresAt = none
  reservation : ∃ r, db.reservations.get? reservationId = some r ∧ r.state = .exceeded ∧ r.actual = some actual
  candidate : ∀ a, db.activities.get? activityId = some a → ∀ c ∈ stagedCandidates db a, Stopped db c
  cases : ∀ c ∈ db.cases, c.activityId = activityId → c.state = .resolved

/-- What the call must find: when the reservation is exceeded already, the candidate still
stopped; otherwise no reservation that another run made under the evaluation's key. -/
def Undisturbed (db : Db) (runId activityId reservationId : String) : Prop :=
  ∀ activity reservation, db.activities.get? activityId = some activity →
    db.reservations.get? reservationId = some reservation → ∀ c ∈ stagedCandidates db activity,
      if reservation.state = .exceeded then Stopped db c
      else ∀ r ∈ db.reservations, r.activityKey = evaluationKey c.candidateId → r.runId ≠ runId → r.state.active = false

/-! ## What a call leaves behind -/

/-- The rows of a settlement, but for the candidate. -/
structure Closed (db : Db) (runId activityId reservationId digest : String) (actual : UsageRecord) (run : RunRow)
    (activity : ActivityRow) (reservation : BudgetReservationRow) (ledger : BudgetLedgerRow) : Prop where
  context : Context db runId activityId reservationId run activity reservation ledger
  failed : run.state = .failed
  completed : activity.state = .completed ∧ activity.resultDigest = some digest
  lease : activity.leaseOwner = none ∧ activity.leaseExpiresAt = none
  exceeded : reservation.state = .exceeded ∧ reservation.actual = some actual
  resolved : ∀ c ∈ db.cases, c.activityId = activityId → c.state = .resolved

section Call
variable {E : Env} {db db' : Db} {runId activityId reservationId digest : String} {actual required : UsageRecord}
  {bundle actorId : String} {epoch : Option Nat} {now : Instant} {ids : Db.EventIds} {run : RunRow}
  {activity : ActivityRow} {reservation : BudgetReservationRow} {ledger : BudgetLedgerRow}

theorem Closed.again (h : Closed db runId activityId reservationId digest actual run activity reservation ledger) :
    settleExhaustedVariation E db runId activityId reservationId digest actual required bundle actorId epoch now ids =
      .ok db := by
  obtain ⟨hrun, hact, hres, hledger, hactRun, hresRun, hactRes⟩ := h.context
  have hnone : db.cases.rows.any (isOpenCase run.runId activity.activityId) = false := by
    rw [List.any_eq_false]
    intro c hc
    have hka : activity.activityId = activityId := Table.get?_key hact
    simp only [isOpenCase, decide_eq_true_eq, not_and]
    intro _ hk
    rw [h.resolved c hc (hk.trans hka)]
    intro hx; cases hx
  simp [settleExhaustedVariation, hrun, hact, hres, hledger, hactRun, hresRun, hactRes, h.completed.1,
    h.completed.2, h.exceeded.1, replay, h.exceeded.2, h.failed, hnone, orRaise, require, bind, pure, Except.bind, Except.pure]

theorem repeats_or_settles (h : settleExhaustedVariation E db runId activityId reservationId digest actual required bundle
      actorId epoch now ids = .ok db') :
    ∃ run activity reservation ledger, Context db runId activityId reservationId run activity reservation ledger ∧
      (activity.state = .completed → activity.resultDigest = some digest) ∧
      ((reservation.state = .exceeded ∧ replay db run activity reservation actual actorId now ids = .ok db') ∨
        (reservation.state ≠ .exceeded ∧ settle E db run activity reservation ledger digest actual required bundle actorId
          now ids = .ok db')) := by
  simp only [settleExhaustedVariation, bind_ok, orRaise_ok, require_ok, exists_const] at h
  obtain ⟨run, hrun, activity, hact, reservation, hres, ledger, hl, ⟨hactRun, hresRun⟩, hactRes, -, -, hdigest, h⟩ := h
  refine ⟨run, activity, reservation, ledger, ⟨hrun, hact, hres, hl, hactRun, hresRun, hactRes⟩, hdigest, ?_⟩
  split at h
  · next hs => exact .inl ⟨hs, h⟩
  · next hs => exact .inr ⟨hs, h⟩

theorem isOpenCase_of_placed (hp : Placed db) (hact : db.activities.get? activityId = some activity)
    (hrun : activity.runId = runId) {c : ReconciliationCaseRow} (hc : c ∈ db.cases) (hk : c.activityId = activityId)
    (ho : c.state = .opened) : isOpenCase runId activityId c = true := by
  obtain ⟨a, ha, hka⟩ := hp.activity c hc
  rw [hk, hact] at ha
  obtain rfl := Option.some.inj ha
  simp [isOpenCase, hk, ho, ← hka, hrun]

theorem resolved_of_modifyAll (hp : Placed db) (hact : db.activities.get? activityId = some activity)
    (hrun : activity.runId = runId) :
    ∀ c ∈ db.cases.modifyAll (isOpenCase runId activityId) (resolvedCase now) (fun _ => rfl),
      c.activityId = activityId → c.state = .resolved := by
  intro c hc hk
  obtain ⟨x, hx, rfl⟩ := Table.mem_modifyAll.1 hc
  by_cases hopen : isOpenCase runId activityId x = true
  · rw [if_pos hopen]
    rfl
  · rw [if_neg hopen] at hk ⊢
    by_contra hst
    exact hopen (isOpenCase_of_placed hp hact hrun hx hk (opened_of_ne_resolved hst))

theorem replay_closed (hp : Placed db) (hctx : Context db runId activityId reservationId run activity reservation ledger)
    (hexceeded : reservation.state = .exceeded) (hdigest : activity.state = .completed → activity.resultDigest = some digest)
    (h : replay db run activity reservation actual actorId now ids = .ok db') :
    (∃ run', Closed db' runId activityId reservationId digest actual run' activity reservation ledger) ∧
      db'.candidates = db.candidates ∧ db'.reservations = db.reservations := by
  obtain ⟨hrun, hact, hres, hledger, hactRun, hresRun, hactRes⟩ := hctx
  obtain rfl : run.runId = runId := Table.get?_key hrun
  obtain rfl : activity.activityId = activityId := Table.get?_key hact
  simp only [replay, bind_ok, orRaise_ok, require_ok, exists_const] at h
  obtain ⟨prior, hprior, rfl, ⟨hfailed, hcompleted⟩, h⟩ := h
  have hlease : activity.leaseOwner = none ∧ activity.leaseExpiresAt = none :=
    hp.leases activity (Table.get?_mem hact) (by rw [hcompleted]; intro hx; cases hx)
  split at h
  · obtain ⟨ns, es, os, rfl, hlog⟩ := Db.appendNextEvent_ok h (r := run) hrun
    refine ⟨⟨Db.bump run run, ⟨hlog.1.get?_self, hact, hres, hledger, hactRun, hresRun, hactRes⟩, hfailed,
      ⟨hcompleted, hdigest hcompleted⟩, hlease, ⟨hexceeded, hprior⟩, resolved_of_modifyAll hp hact hactRun⟩, rfl, rfl⟩
  · next hnone =>
    obtain rfl := pure_ok.1 h
    refine ⟨⟨run, ⟨hrun, hact, hres, hledger, hactRun, hresRun, hactRes⟩, hfailed, ⟨hcompleted, hdigest hcompleted⟩,
      hlease, ⟨hexceeded, hprior⟩, fun c hc hk => ?_⟩, rfl, rfl⟩
    by_contra hst
    exact hnone (List.any_eq_true.mpr ⟨c, hc, isOpenCase_of_placed hp hact hactRun hc hk (opened_of_ne_resolved hst)⟩)

/-! ## The candidate and its evaluation -/

variable {c : CandidateRow} {r : BudgetReservationRow} {reserved remaining : UsageRecord}
  {rs₁ : Table BudgetReservationRow.reservationId} {sessionId : Option String}

theorem evaluationReservation_eq (hkeys : UniqueKeys db.reservations) (hr : r ∈ db.reservations)
    (hrun : r.runId = runId) (hkey : r.activityKey = evaluationKey c.candidateId) :
    evaluationReservation db runId (some c) = some r := by
  cases hfound : evaluationReservation db runId (some c) with
  | none =>
    have hlookup : db.reservations.find? (fun r => r.runId = runId ∧ r.activityKey = evaluationKey c.candidateId) = none :=
      hfound
    have hno := Table.find?_none hlookup r hr
    simp [hrun, hkey] at hno
  | some e =>
    obtain ⟨x, hx, hget, herun, hekey⟩ := mem_evaluationReservation hfound
    cases hx
    rw [hkeys r hr e (Table.get?_mem hget) (hrun.trans herun.symm) (hkey.trans hekey.symm)]

theorem ReleasesEvaluation.mem_other {t t' : Table BudgetReservationRow.reservationId}
    {evaluation : Option BudgetReservationRow} (h : ReleasesEvaluation t reserved evaluation t' remaining)
    (he : ∀ e ∈ evaluation, t.get? e.reservationId = some e ∧ e.runId = runId) (hr : r ∈ t) (hother : r.runId ≠ runId) :
    r ∈ t' := by
  cases h with
  | missing | before _ => exact hr
  | @now e _ _ _ _ _ hset =>
    obtain ⟨hget, hrun⟩ := he e rfl
    refine hset.mem_iff.2 (.inr ⟨hr, fun hid => ?_⟩)
    have heq : r = e := Table.eq_of_key hr (Table.get?_mem hget) hid
    exact hother (heq ▸ hrun)

theorem evaluation_stopped_iff {rs : Table BudgetReservationRow.reservationId} (hkeys : UniqueKeys db.reservations)
    (hrel : ReleasesEvaluation db.reservations reserved (evaluationReservation db runId (some c)) rs₁ remaining)
    (hres : db.reservations.get? reservation.reservationId = some reservation) (hrun : reservation.runId = runId)
    (hset : rs₁.Sets { reservation with state := .exceeded, actual := some actual } rs) :
    (∀ r ∈ rs, r.activityKey = evaluationKey c.candidateId → r.state.active = false) ↔
      ∀ r ∈ db.reservations, r.activityKey = evaluationKey c.candidateId → r.runId ≠ runId → r.state.active = false := by
  constructor
  · intro h r hr hkey hother
    refine h r (hset.mem_iff.2 (.inr ⟨hrel.mem_other (fun e he => ?_) hr hother, fun hid => ?_⟩)) hkey
    · obtain ⟨_, -, hget, herun, -⟩ := mem_evaluationReservation he
      exact ⟨hget, herun⟩
    · have heq : r = reservation := Table.eq_of_key hr (Table.get?_mem hres) hid
      exact hother (heq ▸ hrun)
  · intro h r hr hkey
    rcases hset.mem_iff.1 hr with rfl | ⟨hr, -⟩
    · rfl
    have hfound (hmem : r ∈ db.reservations) (hsame : r.runId = runId) := evaluationReservation_eq hkeys hmem hsame hkey
    generalize evaluationReservation db runId (some c) = evaluation at hrel hfound
    cases hrel with
    | missing =>
      by_cases hsame : r.runId = runId
      · cases hfound hr hsame
      · exact h r hr hkey hsame
    | before hreleased =>
      by_cases hsame : r.runId = runId
      · cases hfound hr hsame
        rw [hreleased]
        rfl
      · exact h r hr hkey hsame
    | now _ _ hset₁ =>
      rcases hset₁.mem_iff.1 hr with rfl | ⟨hr, hne⟩
      · rfl
      by_cases hsame : r.runId = runId
      · cases hfound hr hsame
        exact absurd rfl hne
      · exact h r hr hkey hsame

theorem mem_sessionCandidates_iff :
    c ∈ sessionCandidates db runId sessionId ↔ c ∈ db.candidates ∧ c.runId = runId ∧ c.sessionId = sessionId := by
  unfold sessionCandidates
  rw [List.mem_filter, decide_eq_true_iff]
  exact Iff.rfl

theorem BlocksCandidate.mem_session_iff {db' : Db} (h : BlocksCandidate db.candidates c db'.candidates)
    (hone : sessionCandidates db runId sessionId = [c]) (x : CandidateRow) :
    x ∈ sessionCandidates db' runId sessionId ↔ x = { c with state := .lifecycle .policyBlocked } := by
  have hmem (y : CandidateRow) : y ∈ db.candidates ∧ y.runId = runId ∧ y.sessionId = sessionId ↔ y = c := by
    rw [← mem_sessionCandidates_iff, hone, List.mem_singleton]
  obtain ⟨hc, hrun, hsession⟩ := (hmem c).2 rfl
  rw [mem_sessionCandidates_iff]
  obtain ⟨-, hset⟩ | ⟨hs, hsame⟩ := h
  · rw [hset.mem_iff]
    constructor
    · rintro ⟨rfl | ⟨hx, hne⟩, hxrun, hxsession⟩
      · rfl
      · exact absurd (congrArg CandidateRow.candidateId ((hmem x).1 ⟨hx, hxrun, hxsession⟩)) hne
    · rintro rfl
      exact ⟨.inl rfl, hrun, hsession⟩
  · have hc' : { c with state := .lifecycle .policyBlocked } = c := by rw [← hs]
    rw [hsame, hmem, hc']

theorem stopped_iff_of_settles {db' : Db} {activity' : ActivityRow} (hkeys : UniqueKeys db.reservations)
    (hrun : activity.runId = runId)
    (hsame : activity'.sessionId = activity.sessionId ∧ activity'.runId = activity.runId)
    (hone : (sessionCandidates db runId activity.sessionId).length ≤ 1)
    (hsettle : SettlesCandidate db (evaluationReservation db runId (sessionCandidates db runId activity.sessionId).head?) reserved
      (sessionCandidates db runId activity.sessionId).head? db'.candidates rs₁ remaining)
    (hres : db.reservations.get? reservation.reservationId = some reservation) (hresRun : reservation.runId = runId)
    (hset : rs₁.Sets { reservation with state := .exceeded, actual := some actual } db'.reservations) :
    (∀ c ∈ stagedCandidates db' activity', Stopped db' c) ↔ ∀ c ∈ stagedCandidates db activity, ∀ r ∈ db.reservations,
      r.activityKey = evaluationKey c.candidateId → r.runId ≠ runId → r.state.active = false := by
  unfold stagedCandidates
  rw [hsame.1, hsame.2, hrun]
  cases hsession : activity.sessionId with
  | none => simp
  | some sessionId =>
    rw [hsession] at hone hsettle
    dsimp only
    cases hlist : sessionCandidates db runId (some sessionId) with
    | nil =>
      have habsent : sessionCandidates db' runId (some sessionId) = [] := by
        rw [hlist] at hsettle
        generalize hcands : db'.candidates = cs at hsettle
        cases hsettle with
        | absent => rw [← hlist]; unfold sessionCandidates; rw [hcands]
      rw [habsent]
      simp
    | cons c tail =>
      obtain rfl : tail = [] := by
        rw [hlist] at hone
        exact List.length_eq_zero_iff.mp (Nat.le_zero.mp (Nat.le_of_succ_le_succ hone))
      rw [hlist] at hsettle
      cases hsettle with
      | blocked hblock hrel =>
        have hmem := hblock.mem_session_iff hlist
        have hstop := evaluation_stopped_iff hkeys hrel hres hresRun hset
        constructor
        · intro h x hx
          obtain rfl := List.mem_singleton.mp hx
          exact hstop.1 (h _ ((hmem _).2 rfl)).evaluation
        · intro h x hx
          obtain rfl := (hmem x).1 hx
          exact ⟨rfl, hstop.2 (h c List.mem_cons_self)⟩

theorem settle_closed (hp : Placed db) (hctx : Context db runId activityId reservationId run activity reservation ledger)
    (h : settle E db run activity reservation ledger digest actual required bundle actorId now ids = .ok db') :
    ∃ run' reservation' ledger', Closed db' runId activityId reservationId digest actual run' (settledActivity digest activity)
        reservation' ledger' ∧
      ((∀ c ∈ stagedCandidates db' (settledActivity digest activity), Stopped db' c) ↔
        ∀ c ∈ stagedCandidates db activity, ∀ r ∈ db.reservations, r.activityKey = evaluationKey c.candidateId →
          r.runId ≠ runId → r.state.active = false) := by
  obtain ⟨hrun, hact, hres, hledger, hactRun, hresRun, hactRes⟩ := hctx
  obtain rfl : run.runId = runId := Table.get?_key hrun
  obtain rfl : activity.activityId = activityId := Table.get?_key hact
  obtain rfl : reservation.reservationId = reservationId := Table.get?_key hres
  obtain ⟨hone, acts, hcancel, hacts⟩ := settle_activities h
  obtain ⟨used, reserved, remaining, cs, ps, acts', rs₁, rs, ls, ns, es, os, rfl, -, -, -, -, hsettle, hset, hls, hlog⟩ :=
    settle_ok h hrun hres hledger
  have hactivity : acts'.get? activity.activityId = some (settledActivity digest activity) := by
    have hacts' : acts' = _ := hacts
    rw [hacts']
    exact hcancel.settled hact
  have hkey : ledger.runId = run.runId := Table.get?_key hledger
  have hledger' : ls.get? run.runId = some { ledger with used := used, reserved := remaining, revision := ledger.revision + 1 } := by
    rw [← hkey]
    exact hls.get?_self
  refine ⟨_, _, _, ⟨⟨hlog.1.get?_self, hactivity, hset.get?_self, hledger', hactRun, hresRun, hactRes⟩, rfl, ⟨rfl, rfl⟩,
    ⟨rfl, rfl⟩, ⟨rfl, rfl⟩, resolved_of_modifyAll hp hact hactRun⟩, ?_⟩
  · exact stopped_iff_of_settles hp.keys hactRun ⟨rfl, rfl⟩ hone hsettle hres hresRun hset

theorem Closed.settled_iff (h : Closed db runId activityId reservationId digest actual run activity reservation ledger) :
    Settled db runId activityId reservationId digest actual ↔ ∀ c ∈ stagedCandidates db activity, Stopped db c := by
  constructor
  · intro hs
    exact hs.candidate activity h.context.activity_row
  · intro hs
    refine ⟨⟨run, h.context.run_row, h.failed⟩, ⟨activity, h.context.activity_row, h.completed.1, h.completed.2, h.lease⟩,
      ⟨reservation, h.context.reservation_row, h.exceeded⟩, fun a ha => ?_, h.resolved⟩
    obtain rfl := Option.some.inj (h.context.activity_row.symm.trans ha)
    exact hs

end Call

/-- A call that raises changes nothing, and one that succeeds leaves the run settled, so that the
same call changes nothing any more, exactly when the candidate was left as it was settled. -/
theorem terminal_settlement_iff {E : Env} {db : Db} (h : Reachable E db) (runId activityId reservationId digest : String)
    (actual required : UsageRecord) (bundle actorId : String) (epoch : Option Nat) (now : Instant) (ids : Db.EventIds) :
    (∀ e, settleExhaustedVariation E db runId activityId reservationId digest actual required bundle actorId epoch now ids =
        .error e →
      attempt (exec E) db (.settleExhaustedVariation runId activityId reservationId digest actual required bundle actorId
        epoch now ids) = db) ∧
    ∀ db', settleExhaustedVariation E db runId activityId reservationId digest actual required bundle actorId epoch now ids =
        .ok db' →
      ((Settled db' runId activityId reservationId digest actual ∧ ∀ now' ids',
          settleExhaustedVariation E db' runId activityId reservationId digest actual required bundle actorId epoch now' ids' =
            .ok db') ↔
        Undisturbed db runId activityId reservationId) := by
  have hp := reachable_placed h
  refine ⟨fun e he => attempt_error he, fun db' hok => ?_⟩
  obtain ⟨run, activity, reservation, ledger, hctx, hdigest, hcase⟩ := repeats_or_settles hok
  have hundisturbed : Undisturbed db runId activityId reservationId ↔ ∀ c ∈ stagedCandidates db activity,
      if reservation.state = .exceeded then Stopped db c
      else ∀ r ∈ db.reservations, r.activityKey = evaluationKey c.candidateId → r.runId ≠ runId → r.state.active = false := by
    constructor
    · intro hu
      exact hu activity reservation hctx.activity_row hctx.reservation_row
    · intro hu a r ha hr
      obtain rfl := Option.some.inj (hctx.activity_row.symm.trans ha)
      obtain rfl := Option.some.inj (hctx.reservation_row.symm.trans hr)
      exact hu
  rw [hundisturbed]
  obtain ⟨hexceeded, hreplay⟩ | ⟨hopen, hsettle⟩ := hcase
  · obtain ⟨⟨run', hclosed⟩, hcands, hress⟩ := replay_closed hp hctx hexceeded hdigest hreplay
    have hstaged : stagedCandidates db' activity = stagedCandidates db activity := by
      simp only [stagedCandidates, sessionCandidates, hcands]
    have hstopped (c : CandidateRow) : Stopped db' c ↔ Stopped db c :=
      ⟨fun hs => ⟨hs.state, hress ▸ hs.evaluation⟩, fun hs => ⟨hs.state, hress ▸ hs.evaluation⟩⟩
    rw [hclosed.settled_iff, hstaged, and_iff_left fun now' ids' => hclosed.again]
    simp only [hexceeded, if_true, hstopped]
  · obtain ⟨run', reservation', ledger', hclosed, hiff⟩ := settle_closed hp hctx hsettle
    rw [hclosed.settled_iff, hiff, and_iff_left fun now' ids' => hclosed.again]
    simp only [hopen, if_false]

end TerminalBudgetService

namespace Sample

/-- A session that staged a candidate, and whose result then exhausted the run. -/
def blocked : List Op :=
  started "run" "tree" ++ [session "run" "session", reserved "run" "a" 5, reserved "run" "b" 5] ++
    claimedFor "run" "session" "act" "a" ++ [staged "run" "cand" ["seed-run"], settled "run" "act" "a" 7]

/-- The candidate is evaluated all the same. -/
def reevaluated : List Op := blocked ++ [evaluated "cand" "late"]

end Sample

open TerminalBudgetService in
theorem terminal_settlement_blocked :
    ∃ db', settleExhaustedVariation Sample.env (after Sample.env Sample.blocked) "run" "act" "a" "result" (Sample.usage 7) .zero
        "bundle" "worker" none 4 (Sample.ids "again") = .ok db' ∧
      Settled db' "run" "act" "a" "result" (Sample.usage 7) := by
  have hreach : Reachable Sample.env (after Sample.env Sample.blocked) := reachable_after (by decide)
  have hiff := terminal_settlement_iff hreach "run" "act" "a" "result"
    (Sample.usage 7) .zero "bundle" "worker" none 4 (Sample.ids "again")
  have hexceeded : (after Sample.env Sample.blocked).reservations.rows.all
      (fun r => r.reservationId ≠ "a" || r.state = .exceeded) = true := by decide
  have hstopped : ∀ c ∈ (after Sample.env Sample.blocked).candidates.rows, c.sessionId.isSome = true →
      c.state = .lifecycle .policyBlocked ∧ ∀ r ∈ (after Sample.env Sample.blocked).reservations.rows,
        r.activityKey = evaluationKey c.candidateId → r.state.active = false := by decide
  have hundisturbed : Undisturbed (after Sample.env Sample.blocked) "run" "act" "a" := by
    intro activity r _ hr c hc
    have hstate := List.all_eq_true.mp hexceeded r (Table.get?_mem hr)
    rw [Table.get?_key hr] at hstate
    rw [if_pos (by simpa using hstate)]
    unfold stagedCandidates at hc
    split at hc
    · cases hc
    · obtain ⟨hmem, -, hsession⟩ := mem_sessionCandidates_iff.mp hc
      obtain ⟨hstate, heval⟩ := hstopped c hmem (by rw [hsession]; rfl)
      exact ⟨hstate, heval⟩
  have hsome : (settleExhaustedVariation Sample.env (after Sample.env Sample.blocked) "run" "act" "a" "result" (Sample.usage 7)
      .zero "bundle" "worker" none 4 (Sample.ids "again")).toOption.isSome = true := by decide
  cases hok : settleExhaustedVariation Sample.env (after Sample.env Sample.blocked) "run" "act" "a" "result" (Sample.usage 7)
      .zero "bundle" "worker" none 4 (Sample.ids "again") with
  | error e => rw [hok] at hsome; cases hsome
  | ok db' => exact ⟨db', rfl, ((hiff.2 db' hok).2 hundisturbed).1⟩

open TerminalBudgetService in
/-- A repeated settlement succeeds while the candidate is being evaluated. -/
theorem repeated_settlement_unsettled : ¬ ∀ E db, Reachable E db →
    ∀ runId activityId reservationId digest actual required bundle actorId epoch now ids db',
      settleExhaustedVariation E db runId activityId reservationId digest actual required bundle actorId epoch now ids =
        .ok db' → Settled db' runId activityId reservationId digest actual := by
  intro h
  have hevaluating : (settleExhaustedVariation Sample.env (after Sample.env Sample.reevaluated) "run" "act" "a" "result"
      (Sample.usage 7) .zero "bundle" "worker" none 4 (Sample.ids "again")).toOption.any (fun d =>
      (d.activities.get? "act").any fun a => (stagedCandidates d a).any fun c => c.state ≠ .lifecycle .policyBlocked) =
      true := by decide
  cases hok : settleExhaustedVariation Sample.env (after Sample.env Sample.reevaluated) "run" "act" "a" "result"
      (Sample.usage 7) .zero "bundle" "worker" none 4 (Sample.ids "again") with
  | error e => rw [hok] at hevaluating; cases hevaluating
  | ok db' =>
    have hsettled := h _ _ (reachable_after (by decide)) _ _ _ _ _ _ _ _ _ _ _ _ hok
    rw [hok] at hevaluating
    change ((db'.activities.get? "act").any fun a => (stagedCandidates db' a).any fun c =>
      c.state ≠ .lifecycle .policyBlocked) = true at hevaluating
    obtain ⟨a, ha, hany⟩ := (Option.any_eq_true _ _).mp hevaluating
    obtain ⟨c, hc, hstate⟩ := List.any_eq_true.mp hany
    exact of_decide_eq_true hstate (hsettled.candidate a ha c hc).state

end AvoCorrelate
