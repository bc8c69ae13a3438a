import AvoCorrelate.Services.Endpoints
import AvoCorrelate.Frames
import AvoCorrelate.Resolving
/-!
# A request sent again

A reply is stored under the key of a request in the transaction that answers it, and both
stay. A request that is sent again finds its reply, unless the endpoint now asks for
something else: `cancel` takes its target from the state the run is in by then.
-/
open AvoLib

namespace AvoCorrelate

/-! ## Stored replies -/

def Stored (db : Db) (actorId scope key digest : String) : Prop :=
  ∃ r ∈ db.idempotency, r.actorId = actorId ∧ r.endpointScope = scope ∧ r.idempotencyKey = key ∧ r.requestDigest = digest

variable {db : Db} {actorId scope key digest : String} {E : Env} {r : IdempotencyRow}

theorem checkIdempotency_some {prior : String}
    (h : checkIdempotency db actorId scope (some key) digest = .ok (some prior)) :
    ∃ r ∈ db.idempotency, r.actorId = actorId ∧ r.endpointScope = scope ∧ r.idempotencyKey = key ∧
      r.requestDigest = digest ∧ r.resourceId = prior := by
  simp only [checkIdempotency] at h
  split at h
  · cases h
  · next r hr =>
    simp only [bind_ok, require_ok, exists_const, pure_ok, Option.some.injEq] at h
    obtain ⟨ha, hs, hk⟩ : r.actorId = actorId ∧ r.endpointScope = scope ∧ r.idempotencyKey = key := by
      simpa using Table.find?_holds hr
    exact ⟨r, Table.find?_mem hr, ha, hs, hk, h⟩

theorem checkIdempotency_none : checkIdempotency db actorId scope (some key) digest = .ok none ↔
      ∀ r ∈ db.idempotency, ¬ (r.actorId = actorId ∧ r.endpointScope = scope ∧ r.idempotencyKey = key) := by
  simp only [checkIdempotency]
  constructor
  · intro h
    split at h
    · next hnone =>
      intro r hr hk
      simpa [hk] using Table.find?_none hnone r hr
    · simp only [bind_ok, require_ok, pure_ok] at h
      obtain ⟨-, -, h⟩ := h
      cases h
  · intro h
    split
    · rfl
    · next r hr => exact absurd (by simpa using Table.find?_holds hr) (h r (Table.find?_mem hr))

theorem checkIdempotency_stored (h : Reachable E db) (hr : r ∈ db.idempotency) :
    checkIdempotency db r.actorId r.endpointScope (some r.idempotencyKey) r.requestDigest = .ok (some r.resourceId) := by
  simp only [checkIdempotency]
  split
  · next hnone => simpa using Table.find?_none hnone r hr
  · next r' hr' =>
    have hk : r'.SameKey r := by simpa [IdempotencyRow.SameKey] using Table.find?_holds hr'
    obtain rfl := reachable_replies h r' (Table.find?_mem hr') r hr hk
    simp

theorem digest_of_checked (h : Reachable E db) {prior : Option String}
    (hc : checkIdempotency db actorId scope (some key) digest = .ok prior) (hr : r ∈ db.idempotency)
    (ha : r.actorId = actorId) (hs : r.endpointScope = scope) (hk : r.idempotencyKey = key) :
    r.requestDigest = digest := by
  cases prior with
  | none => exact absurd ⟨ha, hs, hk⟩ (checkIdempotency_none.1 hc r hr)
  | some p =>
    obtain ⟨r', hr', ha', hs', hk', hd, -⟩ := checkIdempotency_some hc
    obtain rfl := reachable_replies h r hr r' hr' ⟨ha.trans ha'.symm, hs.trans hs'.symm, hk.trans hk'.symm⟩
    exact hd

/-! ## Transitions under a key -/

namespace RunService
variable {E : Env} {db db' : Db} {runId actorId recordId key : String} {target : RunState} {expected : Option Nat}
  {reason scope : Option String} {ids : Db.EventIds} {run' : RunRow}

theorem transition_later (h : transition E db runId target actorId expected reason (some key) scope ids recordId = .ok (db', run')) :
    Later E db db' :=
  .step (o := .transition runId target actorId expected reason (some key) scope ids recordId) .init trivial
    (by simp [exec, h])

theorem transition_answered
    (h : transition E db runId target actorId expected reason (some key) scope ids recordId = .ok (db', run')) :
    ∃ r ∈ db'.idempotency, r.actorId = actorId ∧ r.endpointScope = orDefault scope ("runs." ++ runId ++ ".transition") ∧
      r.idempotencyKey = key ∧ r.requestDigest = E.canonicalDigest (.transitionRequest runId target reason) ∧
      (db'.runs.get? r.resourceId).isSome = true := by
  simp only [transition, bind_ok] at h
  obtain ⟨prior, hprior, h⟩ := h
  cases prior with
  | some p =>
    simp only [bind_ok, orRaise_ok, pure_ok, Prod.mk.injEq] at h
    obtain ⟨priorRun, hrun, rfl, -⟩ := h
    obtain ⟨r, hr, ha, hs, hk, hd, rfl⟩ := checkIdempotency_some hprior
    exact ⟨r, hr, ha, hs, hk, hd, by rw [hrun]; rfl⟩
  | none =>
    simp only [bind_ok, orRaise_ok, requireRunTransition_ok, require_ok, exists_const, pure_ok, Prod.mk.injEq] at h
    obtain ⟨run, hrun, -, -, _, hev, _, hi, rfl, -⟩ := h
    obtain ⟨_, _, rfl, -⟩ := Db.appendEvent_ok hev
    obtain ⟨hnone, -⟩ | ⟨k, hk, hins, -⟩ := recordIdempotency_stores hi
    · cases hnone
    · cases hk
      obtain ⟨t, rfl⟩ := recordIdempotency_ok hi
      refine ⟨_, (Table.mem_insert hins).2 (.inr rfl), rfl, rfl, rfl, rfl, ?_⟩
      rw [Db.isSome_updateRun]
      rw [hrun]
      rfl

theorem transition_again (h : Reachable E db) {r : IdempotencyRow} (hr : r ∈ db.idempotency)
    (hs : r.endpointScope = orDefault scope ("runs." ++ runId ++ ".transition"))
    (hd : r.requestDigest = E.canonicalDigest (.transitionRequest runId target reason))
    (hrun : (db.runs.get? r.resourceId).isSome = true) :
    ∃ run, transition E db runId target r.actorId expected reason (some r.idempotencyKey) scope ids recordId = .ok (db, run) := by
  obtain ⟨run, hrun⟩ := Option.isSome_iff_exists.1 hrun
  refine ⟨run, ?_⟩
  have hcheck := checkIdempotency_stored h hr
  rw [hs, hd] at hcheck
  simp only [transition, bind_ok]
  exact ⟨_, hcheck, by simp [hrun, orRaise]⟩

end RunService

/-! ## Settling -/

/-- Nothing is moved but a run that was asked to pause or to cancel and is at a safe
boundary. -/
def OnlySettles (db db' : Db) (runId : String) : Prop :=
  db'.runs = db.runs ∨ ∃ run, db.runs.get? runId = some run ∧ (run.state = .pausing ∨ run.state = .cancelling) ∧
    RunService.hasActiveActivity db runId = false ∧ RunService.hasActiveSession db runId = false ∧
    db.runs.Sets (Db.bump run { run with state := RunService.settledState run.state }) db'.runs

namespace RunService
variable {E : Env} {db db' : Db} {runId actorId : String} {ids : Db.EventIds}

theorem settledState_allowed {state : RunState} (h : state = .pausing ∨ state = .cancelling) :
    settledState state ∈ runTransitions state := by
  rcases h with rfl | rfl <;> decide

theorem settleTransition_later {state : RunState} {revision : Nat}
    (h : settleTransition E db runId state revision actorId ids = .ok db') : Later E db db' :=
  .step (o := .transition runId (settledState state) actorId (some revision) (some "safe_boundary_reached") none none ids "")
    .init trivial (by simpa [exec, settleTransition] using h)

theorem settle_later (h : settleControlRequest E db runId actorId ids = .ok db') : Later E db db' := by
  simp only [settleControlRequest, bind_ok] at h
  obtain ⟨run, -, h⟩ := h
  split at h
  · split at h
    · cases h; exact .init
    · exact settleTransition_later h
  · cases h; exact .init

theorem settle_succeeds (h : Reachable E db) (hrun : (db.runs.get? runId).isSome = true) (hids : Drawn db ids) :
    ∃ db', settleControlRequest E db runId actorId ids = .ok db' ∧ OnlySettles db db' runId := by
  obtain ⟨run, hrun⟩ := Option.isSome_iff_exists.1 hrun
  have hget : getRun db runId = .ok run := by simp [getRun, hrun, orRaise]
  have hkey : run.runId = runId := Table.get?_key hrun
  simp only [settleControlRequest, bind_ok]
  by_cases hs : run.state = .pausing ∨ run.state = .cancelling
  · by_cases hactive : hasActiveActivity db runId = true ∨ hasActiveSession db runId = true
    · exact ⟨db, ⟨run, hget, by rw [if_pos hs, if_pos hactive]; rfl⟩, .inl rfl⟩
    · -- the run is at a safe boundary
      let changed (r : RunRow) : RunRow :=
        { r with state := settledState run.state, revision := run.revision + 1, eventSequence := run.eventSequence + 1 }
      let moved := db.updateRun runId changed (fun _ => rfl)
      have hruns : (moved.runs.get? runId).isSome = true := by
        rw [Db.isSome_updateRun, hrun]
        rfl
      have hseq : ∀ e ∈ moved.events, e.runId = runId → e.sequence < run.eventSequence + 1 := by
        intro e he hk
        exact Nat.lt_succ_of_le ((reachable_journal h).sequence_le (Table.get?_mem hrun) e he (hk.trans hkey.symm))
      obtain ⟨db', hev⟩ := Db.appendEvent_succeeds hruns hseq ⟨hids.event, hids.published, hids.outbox⟩
        ("run." ++ (settledState run.state).value) actorId
        [("from", .str run.state.value), ("to", .str (settledState run.state).value), ("reason", .str "safe_boundary_reached")]
      have htransition : settleTransition E db runId run.state run.revision actorId ids = .ok db' := by
        rw [settleTransition, map_ok]
        refine ⟨(db', changed run), ?_, rfl⟩
        simp only [transition, bind_ok]
        refine ⟨none, rfl, ?_⟩
        simp only [bind_ok, orRaise_ok, requireRunTransition_ok, require_ok, exists_const, pure_ok]
        exact ⟨run, hrun, settledState_allowed hs, by simp, db', hev, db', rfl, rfl⟩
      refine ⟨db', ⟨run, hget, by rw [if_pos hs, if_neg hactive]; exact htransition⟩, .inr ⟨run, hrun, hs, ?_, ?_, ?_⟩⟩
      · simpa using fun ha => hactive (.inl ha)
      · simpa using fun ha => hactive (.inr ha)
      · obtain ⟨es, os, rfl, -⟩ := Db.appendEvent_ok hev
        have hset : db.runs.Sets (changed run) moved.runs := Table.sets_modify changed (fun _ => rfl) hrun
        exact hset
  · exact ⟨db, ⟨run, hget, by rw [if_neg hs]; rfl⟩, .inl rfl⟩

theorem transition_cases {key target expected reason scope recordId} {run' : RunRow}
    (h : transition E db runId target actorId expected reason (some key) scope ids recordId = .ok (db', run')) :
    (db' = db ∧ Stored db actorId (orDefault scope ("runs." ++ runId ++ ".transition")) key
      (E.canonicalDigest (.transitionRequest runId target reason))) ∨
    ∃ run, db.runs.get? runId = some run ∧ target ∈ runTransitions run.state ∧
      db.runs.Sets (Db.bump run { run with state := target }) db'.runs := by
  have hdb := transition_ok h
  simp only [transition, bind_ok] at h
  obtain ⟨prior, hprior, h⟩ := h
  cases prior with
  | some p =>
    simp only [bind_ok, orRaise_ok, pure_ok, Prod.mk.injEq] at h
    obtain ⟨_, -, rfl, -⟩ := h
    obtain ⟨r, hr, ha, hs, hk, hd, -⟩ := checkIdempotency_some hprior
    exact .inl ⟨rfl, r, hr, ha, hs, hk, hd⟩
  | none =>
    obtain rfl | ⟨run, _, _, _, _, -, hrun, hallowed, hlog⟩ := hdb
    · -- the reply that was stored would have been there
      simp only [bind_ok, orRaise_ok, requireRunTransition_ok, require_ok, exists_const, pure_ok, Prod.mk.injEq] at h
      obtain ⟨_, -, -, -, _, hev, _, hi, rfl, -⟩ := h
      obtain ⟨hnone, -⟩ | ⟨k, hk, hins, -⟩ := recordIdempotency_stores hi
      · cases hnone
      · cases hk
        exact absurd ⟨rfl, rfl, rfl⟩ (checkIdempotency_none.1 hprior _ ((Table.mem_insert hins).2 (.inr rfl)))
    · exact .inr ⟨run, hrun, hallowed, hlog.1⟩

theorem settle_settles (h : settleControlRequest E db runId actorId ids = .ok db') : OnlySettles db db' runId := by
  simp only [settleControlRequest, bind_ok] at h
  obtain ⟨run, hget, h⟩ := h
  have hrun : db.runs.get? runId = some run := orRaise_ok.1 hget
  split at h
  · next hs =>
    split at h
    · cases h; exact .inl rfl
    · next hactive =>
      simp only [settleTransition, map_ok] at h
      obtain ⟨⟨d, _⟩, ht, rfl⟩ := h
      obtain rfl | ⟨run', _, _, _, _, -, hrun', -, hlog⟩ := transition_ok ht
      · exact .inl rfl
      · cases hrun.symm.trans hrun'
        refine .inr ⟨run, hrun, hs, ?_, ?_, hlog.1⟩
        · simpa using fun ha => hactive (.inl ha)
        · simpa using fun ha => hactive (.inr ha)
  · cases h; exact .inl rfl

end RunService

/-! ## What a reply names -/

theorem reachable_named (h : Reachable E db) :
    ∀ r ∈ db.idempotency, (∀ x, r.endpointScope ≠ "experiments." ++ x) → (∀ x, r.endpointScope ≠ "reviews." ++ x) →
      (db.runs.get? r.resourceId).isSome = true := by
  induction h with
  | init => exact fun r hr => absurd hr (Table.not_mem_empty r)
  | @step db db' op hreach _ he ih =>
    intro r hr hexperiments hreviews
    have kept {k : String} (hk : (db.runs.get? k).isSome = true) : (db'.runs.get? k).isSome = true := by
      obtain ⟨run, hrun⟩ := Option.isSome_iff_exists.1 hk
      obtain ⟨run', hrun', -⟩ := exec_experimentId he hrun
      rw [hrun']
      rfl
    obtain hsame | ⟨row, hins, hreply, -⟩ := exec_replies he
    · rw [hsame] at hr
      exact kept (ih r hr hexperiments hreviews)
    · rcases (Table.mem_insert hins).1 hr with hr | rfl
      · exact kept (ih r hr hexperiments hreviews)
      · unfold Op.reply at hreply
        split at hreply
        · have hscope := congrArg Reply.endpointScope (Option.some.inj hreply)
          exact absurd hscope.symm (hexperiments "create")
        · have hscope := congrArg Reply.endpointScope (Option.some.inj hreply)
          exact absurd (hscope.symm.trans (String.append_assoc ..)) (hexperiments _)
        · next runId target actorId expected reason key scope ids recordId =>
          simp only [exec, map_ok, Prod.exists, exists_and_right, exists_eq_right] at he
          obtain ⟨_, ht⟩ := he
          obtain ⟨r', hr', ha, hs, hk, -, hrun⟩ := RunService.transition_answered ht
          have hsame : r'.SameKey r := by
            have hreply := Option.some.inj hreply
            exact ⟨ha.trans (congrArg Reply.actorId hreply), hs.trans (congrArg Reply.endpointScope hreply),
              hk.trans (congrArg Reply.idempotencyKey hreply)⟩
          obtain rfl := reachable_replies (hreach.trans (RunService.transition_later ht)) r' hr' r hr hsame
          exact hrun
        · have hscope := congrArg Reply.endpointScope (Option.some.inj hreply)
          exact absurd (hscope.symm.trans (String.append_assoc ..)) (hreviews _)
        · cases hreply

/-! ## Requests -/

namespace Api
variable {E : Env} {db db' : Db} {request : Request} {draws : Draws}

variable {runId : String} {target : RunState} {run : RunRow}

theorem hasRun_of_response {r : RunResponse} (h : runResponse db runId = .ok r) : HasRun db runId := by
  simp only [runResponse, RunService.getRun, bind_ok, orRaise_ok, pure_ok] at h
  obtain ⟨run, hrun, ledger, hledger, -⟩ := h
  exact ⟨by rw [hrun]; rfl, by rw [hledger]; rfl⟩

theorem response_of_hasRun (h : HasRun db runId) : ∃ r, runResponse db runId = .ok r := by
  obtain ⟨run, hrun⟩ := Option.isSome_iff_exists.1 h.1
  obtain ⟨ledger, hledger⟩ := Option.isSome_iff_exists.1 h.2
  simp only [runResponse, RunService.getRun, bind_ok, orRaise_ok, pure_ok]
  exact ⟨_, run, hrun, ledger, hledger, rfl⟩

theorem scopeOf_default (runId action default : String) : orDefault (some (scopeOf runId action)) default = scopeOf runId action := by
  have hne : scopeOf runId action ≠ "" := by
    intro h
    have := congrArg String.toList h
    simp [scopeOf] at this
  simp [orDefault, hne]

abbrev Moved (E : Env) (db : Db) (runId : String) (target : RunState) (action : String) (request : Request) : Prop :=
  Stored db request.actorId (scopeOf runId action) request.idempotencyKey (E.canonicalDigest (.transitionRequest runId target none))

section Moving
variable {runId action : String} {target : RunState}

theorem moveRun_later (h : moveRun E db runId target action request draws = .ok db') : Later E db db' := by
  simp only [moveRun, bind_ok, pure_ok, Prod.exists] at h
  obtain ⟨n, -, _, _, ht, rfl⟩ := h
  exact RunService.transition_later ht

theorem moveRun_first (h : moveRun E db runId target action request draws = .ok db') :
    (∃ n, request.ifMatch = .ok n) ∧ Moved E db' runId target action request := by
  simp only [moveRun, bind_ok, pure_ok, Prod.exists] at h
  obtain ⟨n, hn, _, _, ht, rfl⟩ := h
  obtain ⟨r, hr, ha, hs, hk, hd, -⟩ := RunService.transition_answered ht
  rw [scopeOf_default] at hs
  exact ⟨⟨n, hn⟩, r, hr, ha, hs, hk, hd⟩

theorem moveRun_again (h : Reachable E db) (hn : ∃ n, request.ifMatch = .ok n)
    (hm : Moved E db runId target action request) : moveRun E db runId target action request draws = .ok db := by
  obtain ⟨n, hn⟩ := hn
  obtain ⟨r, hr, ha, hs, hk, hd⟩ := hm
  have hrun : (db.runs.get? r.resourceId).isSome = true := by
    refine reachable_named h r hr ?_ ?_
    all_goals
      intro x hx
      have := congrArg String.toList (hs.symm.trans hx)
      simp [scopeOf] at this
  obtain ⟨run, hagain⟩ : ∃ run, RunService.transition E db runId target r.actorId (some n) none (some r.idempotencyKey)
      (some (scopeOf runId action)) draws.event draws.recordId = .ok (db, run) :=
    RunService.transition_again h hr (by rw [scopeOf_default]; exact hs) hd hrun
  rw [ha, hk] at hagain
  simp only [moveRun, bind_ok, pure_ok, Prod.exists]
  exact ⟨n, hn, db, run, hagain, rfl⟩

theorem moveRun_cases (h : moveRun E db runId target action request draws = .ok db') :
    (db' = db ∧ (∃ n, request.ifMatch = .ok n) ∧ Moved E db runId target action request) ∨
    ∃ run, db.runs.get? runId = some run ∧ target ∈ runTransitions run.state ∧
      db.runs.Sets (Db.bump run { run with state := target }) db'.runs := by
  simp only [moveRun, bind_ok, pure_ok, Prod.exists] at h
  obtain ⟨n, hn, _, _, ht, rfl⟩ := h
  rcases RunService.transition_cases ht with ⟨he, hstored⟩ | hmoved
  · rw [scopeOf_default] at hstored
    exact .inl ⟨he, ⟨n, hn⟩, hstored⟩
  · exact .inr hmoved

theorem moveAndSettle_later (h : moveAndSettle E db runId target action request draws = .ok db') : Later E db db' := by
  simp only [moveAndSettle, bind_ok] at h
  obtain ⟨_, hmove, hsettle⟩ := h
  exact (moveRun_later hmove).trans (RunService.settle_later hsettle)

theorem moveAndSettle_again (h : Reachable E db) (hrun : HasRun db runId) (hids : Drawn db draws.settle)
    (hn : ∃ n, request.ifMatch = .ok n) (hm : Moved E db runId target action request) :
    ∃ db', moveAndSettle E db runId target action request draws = .ok db' ∧ OnlySettles db db' runId := by
  obtain ⟨db', hsettle, hsettles⟩ : ∃ db', RunService.settleControlRequest E db runId "control-plane" draws.settle = .ok db' ∧
    OnlySettles db db' runId := RunService.settle_succeeds h hrun.1 hids
  refine ⟨db', ?_, hsettles⟩
  simp only [moveAndSettle, bind_ok]
  exact ⟨db, moveRun_again h hn hm, hsettle⟩

end Moving

theorem Moved.later {action : String} (h : Moved E db runId target action request) (hlater : Later E db db') :
    Moved E db' runId target action request := by
  obtain ⟨r, hr, hrest⟩ := h
  exact ⟨r, hlater.replies r hr, hrest⟩

theorem perform_later (h : perform E db request draws = .ok db') : Later E db db' := by
  unfold perform at h
  split at h
  · next experimentId _ =>
    simp only [bind_ok, pure_ok, Prod.exists] at h
    obtain ⟨_, _, hcreate, rfl⟩ := h
    exact .step (o := .createRun experimentId request.actorId (some (createRunId E request.actorId experimentId
      request.idempotencyKey)) true (some request.idempotencyKey) draws.create) .init trivial (by simp [exec, hcreate])
  · exact moveRun_later h
  · exact moveAndSettle_later h
  · exact moveRun_later h
  · simp only [bind_ok] at h
    obtain ⟨run, -, h⟩ := h
    split at h
    · cases h; exact .init
    · exact moveAndSettle_later h

theorem respond_ok {response : RunResponse} (h : respond E db request draws = .ok (db', response)) :
    perform E db request draws = .ok db' ∧ HasRun db' (request.runId E) := by
  simp only [respond, bind_ok, pure_ok, Prod.mk.injEq] at h
  obtain ⟨_, hperform, _, hresponse, rfl, -⟩ := h
  exact ⟨hperform, hasRun_of_response hresponse⟩

/-- The request succeeds, and at most settles what was pending. -/
def AnsweredAgain (E : Env) (db : Db) (request : Request) (draws : Draws) : Prop :=
  ∃ db' response, respond E db request draws = .ok (db', response) ∧ OnlySettles db db' (request.runId E)

theorem answeredAgain_iff (hrun : HasRun db (request.runId E)) :
    AnsweredAgain E db request draws ↔ ∃ db', perform E db request draws = .ok db' ∧ OnlySettles db db' (request.runId E) := by
  constructor
  · rintro ⟨db', response, h, hsettles⟩
    exact ⟨db', (respond_ok h).1, hsettles⟩
  · rintro ⟨db', h, hsettles⟩
    obtain ⟨response, hresponse⟩ := response_of_hasRun ((perform_later h).hasRun hrun)
    refine ⟨db', response, ?_, hsettles⟩
    simp only [respond, bind_ok, pure_ok]
    exact ⟨db', h, response, hresponse, rfl⟩

/-- When a request that succeeded is answered again: nothing else was stored under the key
of a creation, and `cancel` asks for nothing or for what it asked for. -/
def Replays (E : Env) (db : Db) (request : Request) : Prop :=
  match request.endpoint with
  | .createRun experimentId =>
    ∀ r ∈ db.idempotency, r.actorId = request.actorId → r.endpointScope = "experiments." ++ experimentId ++ ".runs.create" →
      r.idempotencyKey = request.idempotencyKey → r.requestDigest = E.canonicalDigest
        (.createRunRequest experimentId true (createRunId E request.actorId experimentId request.idempotencyKey))
  | .start _ | .pause _ | .resume _ => True
  | .cancel runId => ∃ run, db.runs.get? runId = some run ∧ (run.state = .cancelled ∨ run.state = .cancelling ∨
      ((∃ n, request.ifMatch = .ok n) ∧ Moved E db runId (cancelTarget run.state) "cancel" request))

theorem cancelTarget_ends (state : RunState) : cancelTarget state = .cancelled ∨ cancelTarget state = .cancelling := by
  unfold cancelTarget
  split
  · exact .inl rfl
  · exact .inr rfl

theorem not_settles_of_cancelled {db₁ : Db} (hrun : db.runs.get? runId = some run)
    (hs : ¬ (run.state = .cancelled ∨ run.state = .cancelling)) (htarget : target = .cancelled ∨ target = .cancelling)
    (hset : db.runs.Sets (Db.bump run { run with state := target }) db₁.runs) (hsettle : OnlySettles db₁ db' runId) :
    ¬ OnlySettles db db' runId := by
  have hkey : run.runId = runId := Table.get?_key hrun
  have hrun₁ : db₁.runs.get? runId = some (Db.bump run { run with state := target }) := hkey ▸ hset.get?_self
  -- at the end the run is cancelled or cancelling
  obtain ⟨last, hlast, hends⟩ : ∃ last, db'.runs.get? runId = some last ∧ (last.state = .cancelled ∨ last.state = .cancelling) := by
    rcases hsettle with he | ⟨run₁, hrun₁', hpending, -, -, hset'⟩
    · exact ⟨_, by rw [he]; exact hrun₁, htarget⟩
    · cases hrun₁.symm.trans hrun₁'
      refine ⟨_, hkey ▸ hset'.get?_self, ?_⟩
      rcases htarget with rfl | rfl
      · rcases hpending with h | h <;> cases h
      · exact .inl rfl
  rintro (he | ⟨run', hrun', hpending, -, -, hset'⟩)
  · rw [he, hrun] at hlast
    cases hlast
    exact hs hends
  · cases hrun.symm.trans hrun'
    have hself : db'.runs.get? runId = _ := hkey ▸ hset'.get?_self
    cases hlast.symm.trans hself
    rcases hpending with h | h
    · simp [Db.bump, RunService.settledState, h] at hends
    · exact hs (.inr h)

theorem perform_cancel (hendpoint : request.endpoint = .cancel runId) (hrun : db.runs.get? runId = some run) :
    perform E db request draws = if run.state = .cancelled ∨ run.state = .cancelling then .ok db
      else moveAndSettle E db runId (cancelTarget run.state) "cancel" request draws := by
  unfold perform
  rw [hendpoint]
  simp only [RunService.getRun, hrun, orRaise]
  rfl

theorem replays_cancel (hendpoint : request.endpoint = .cancel runId) (h : Reachable E db) (hrun : HasRun db runId)
    (hids : Drawn db draws.settle) :
    (∃ db', perform E db request draws = .ok db' ∧ OnlySettles db db' runId) ↔ ∃ run, db.runs.get? runId = some run ∧
      (run.state = .cancelled ∨ run.state = .cancelling ∨
        ((∃ n, request.ifMatch = .ok n) ∧ Moved E db runId (cancelTarget run.state) "cancel" request)) := by
  obtain ⟨run, hget⟩ := Option.isSome_iff_exists.1 hrun.1
  rw [perform_cancel hendpoint hget]
  constructor
  · rintro ⟨db', hperform, hsettles⟩
    refine ⟨run, hget, ?_⟩
    split at hperform
    · next hs => exact hs.imp_right .inl
    · next hs =>
      simp only [moveAndSettle, bind_ok] at hperform
      obtain ⟨db₁, hmove, hsettle⟩ := hperform
      rcases moveRun_cases hmove with ⟨-, hn, hm⟩ | ⟨run', hrun', -, hset⟩
      · exact .inr (.inr ⟨hn, hm⟩)
      · cases hget.symm.trans hrun'
        exact absurd hsettles
          (not_settles_of_cancelled hget hs (cancelTarget_ends _) hset (RunService.settle_settles hsettle))
  · rintro ⟨run', hrun', hcase⟩
    cases hget.symm.trans hrun'
    by_cases hs : run.state = .cancelled ∨ run.state = .cancelling
    · rw [if_pos hs]
      exact ⟨db, rfl, .inl rfl⟩
    · obtain ⟨hn, hm⟩ := (or_assoc.2 hcase).resolve_left hs
      rw [if_neg hs]
      exact moveAndSettle_again h hrun hids hn hm

/-! ## Creating a run again -/

section Creating
variable {experimentId : String}

variable {runId actorId key : String} {ids : RunService.CreateRunIds}

theorem createRun_first {id : String} (hrunId : runId ≠ "")
    (h : RunService.createRun E db experimentId actorId (some runId) true (some key) ids = .ok (db', id)) :
    Stored db' actorId ("experiments." ++ experimentId ++ ".runs.create") key
      (E.canonicalDigest (.createRunRequest experimentId true runId)) ∨
    ∃ run x, db'.runs.get? runId = some run ∧ run.experimentId = experimentId ∧ db'.experiments.get? experimentId = some x := by
  have hdefault : orDefault (some runId) ids.runId = runId := by simp [orDefault, hrunId]
  simp only [RunService.createRun, hdefault, bind_ok] at h
  obtain ⟨prior, hprior, h⟩ := h
  cases prior with
  | some p =>
    cases h
    obtain ⟨r, hr, ha, hs, hk, hd, -⟩ := checkIdempotency_some hprior
    exact .inl ⟨r, hr, ha, hs, hk, hd⟩
  | none =>
    simp only [bind_ok, orRaise_ok] at h
    obtain ⟨experiment, hexperiment, h⟩ := h
    split at h
    · next existing hexisting =>
      simp only [bind_ok, require_ok, exists_const, pure_ok, Prod.mk.injEq] at h
      obtain ⟨hsame, rfl, -⟩ := h
      exact .inr ⟨existing, experiment, hexisting, hsame, hexperiment⟩
    · simp only [bind_ok, pure_ok, Prod.mk.injEq] at h
      obtain ⟨_, -, _, -, _, hi, rfl, -⟩ := h
      obtain ⟨hnone, -⟩ | ⟨k, hk, hins, -⟩ := recordIdempotency_stores hi
      · cases hnone
      · cases hk
        exact .inl ⟨_, (Table.mem_insert hins).2 (.inr rfl), rfl, rfl, rfl, rfl⟩

theorem createRun_stored (h : Reachable E db) (hrunId : runId ≠ "")
    (hs : Stored db actorId ("experiments." ++ experimentId ++ ".runs.create") key
      (E.canonicalDigest (.createRunRequest experimentId true runId))) :
    ∃ id, RunService.createRun E db experimentId actorId (some runId) true (some key) ids = .ok (db, id) := by
  have hdefault : orDefault (some runId) ids.runId = runId := by simp [orDefault, hrunId]
  obtain ⟨r, hr, rfl, hscope, rfl, hd⟩ := hs
  have hcheck := checkIdempotency_stored h hr
  rw [hscope, hd] at hcheck
  refine ⟨r.resourceId, ?_⟩
  simp only [RunService.createRun, hdefault, bind_ok]
  exact ⟨_, hcheck, rfl⟩

theorem createRun_found (hrunId : runId ≠ "") {run : RunRow} {x : ExperimentRow} (hrun : db.runs.get? runId = some run)
    (he : run.experimentId = experimentId) (hx : db.experiments.get? experimentId = some x)
    (hnone : ∀ r ∈ db.idempotency, ¬ (r.actorId = actorId ∧
      r.endpointScope = "experiments." ++ experimentId ++ ".runs.create" ∧ r.idempotencyKey = key)) :
    ∃ id, RunService.createRun E db experimentId actorId (some runId) true (some key) ids = .ok (db, id) := by
  have hdefault : orDefault (some runId) ids.runId = runId := by simp [orDefault, hrunId]
  refine ⟨runId, ?_⟩
  simp only [RunService.createRun, hdefault, bind_ok]
  refine ⟨none, checkIdempotency_none.2 hnone, ?_⟩
  simp [orRaise, hx, hrun, he]

theorem replays_create (hendpoint : request.endpoint = .createRun experimentId) {db₀ db₁ : Db} {draws₀ : Draws}
    (hfirst : perform E db₀ request draws₀ = .ok db₁) (hlater : Later E db₁ db) (h : Reachable E db)
    (huuid : ∀ name, E.uuid5 name ≠ "") :
    (∃ db', perform E db request draws = .ok db' ∧ OnlySettles db db' (request.runId E)) ↔
      ∀ r ∈ db.idempotency, r.actorId = request.actorId → r.endpointScope = "experiments." ++ experimentId ++ ".runs.create" →
        r.idempotencyKey = request.idempotencyKey → r.requestDigest = E.canonicalDigest
          (.createRunRequest experimentId true (createRunId E request.actorId experimentId request.idempotencyKey)) := by
  simp only [perform, hendpoint, bind_ok, pure_ok, Prod.exists] at hfirst ⊢
  obtain ⟨_, _, hcreate, rfl⟩ := hfirst
  have hrunId : createRunId E request.actorId experimentId request.idempotencyKey ≠ "" := huuid _
  constructor
  · rintro ⟨_, ⟨_, _, hagain, -⟩, -⟩ r hr ha hs hk
    simp only [RunService.createRun, bind_ok] at hagain
    obtain ⟨prior, hprior, -⟩ := hagain
    have hdefault : orDefault (some (createRunId E request.actorId experimentId request.idempotencyKey)) draws.create.runId =
        createRunId E request.actorId experimentId request.idempotencyKey := by simp [orDefault, hrunId]
    rw [hdefault] at hprior
    exact digest_of_checked h hprior hr ha hs hk
  · intro hsame
    have unchanged {id : String} (ha : RunService.createRun E db experimentId request.actorId
        (some (createRunId E request.actorId experimentId request.idempotencyKey)) true (some request.idempotencyKey)
        draws.create = .ok (db, id)) : ∃ db', (∃ a b, RunService.createRun E db experimentId request.actorId
          (some (createRunId E request.actorId experimentId request.idempotencyKey)) true (some request.idempotencyKey)
          draws.create = .ok (a, b) ∧ a = db') ∧ OnlySettles db db' (request.runId E) :=
      ⟨db, ⟨db, id, ha, rfl⟩, .inl rfl⟩
    rcases createRun_first hrunId hcreate with ⟨r, hr, hrest⟩ | ⟨run, x, hrun, he, hx⟩
    · obtain ⟨_, ha⟩ := createRun_stored h hrunId ⟨r, hlater.replies r hr, hrest⟩
      exact unchanged ha
    · by_cases hnone : ∀ r ∈ db.idempotency, ¬ (r.actorId = request.actorId ∧
        r.endpointScope = "experiments." ++ experimentId ++ ".runs.create" ∧ r.idempotencyKey = request.idempotencyKey)
      · obtain ⟨run', hrun', he'⟩ := hlater.experimentId hrun
        obtain ⟨_, ha⟩ := createRun_found hrunId hrun' (he'.trans he) (hlater.experiments hx) hnone
        exact unchanged ha
      · simp only [not_forall, not_not, exists_prop] at hnone
        obtain ⟨r, hr, ha, hs, hk⟩ := hnone
        obtain ⟨_, ha⟩ := createRun_stored h hrunId ⟨r, hr, ha, hs, hk, hsame r hr ha hs hk⟩
        exact unchanged ha

end Creating

end Api

/-! ## A cancel whose run is blocked meanwhile -/

namespace Sample
open Api

/-- A run with an activity that is claimed. -/
def busy : List Op := started "run" "tree" ++ claimed "run" "act" none

def cancelRequest : Request := ⟨.cancel "run", "operator", "key", .ok 6⟩

def draws (tag : String) : Draws :=
  ⟨⟨"", "", ids "", ids "", ids "", ""⟩, ids ("cancel-" ++ tag), "record-" ++ tag, ids ("settle-" ++ tag)⟩

/-- The cancel, which waits for the activity. -/
def cancelRequested : List Op :=
  busy ++ [.transition "run" .cancelling "operator" (some 6) none (some "key") (some "runs.run.cancel") (ids "cancel-first")
    "record-first"]

/-- Meanwhile the activity's worker is lost. -/
def cancelBlocked : List Op := cancelRequested ++ [disputed "act" "case"]

set_option maxRecDepth 8000 in
theorem cancel_answered :
    ∃ response, respond env (after env busy) cancelRequest (draws "first") = .ok (after env cancelRequested, response) :=
  ⟨_, rfl⟩

theorem uuid5_ne (name : String) : env.uuid5 name ≠ "" := by
  intro h
  have := congrArg String.toList h
  simp [env] at this

theorem cancel_requested_later : Later env (after env cancelRequested) (after env cancelBlocked) :=
  .step (o := disputed "act" "case") .init trivial rfl

end Sample

namespace Api
variable {E : Env} {db : Db} {request : Request} {draws : Draws}

/-- A request that succeeded is answered again, whatever ran since, exactly when
`Replays` holds. -/
theorem mutation_replay {db₀ db₁ : Db} {draws₀ : Draws} {response : RunResponse} (hreach : Reachable E db₀)
    (hfirst : respond E db₀ request draws₀ = .ok (db₁, response)) (hlater : Later E db₁ db) (hids : Drawn db draws.settle)
    (huuid : ∀ name, E.uuid5 name ≠ "") : AnsweredAgain E db request draws ↔ Replays E db request := by
  obtain ⟨hperform, hrun₁⟩ := respond_ok hfirst
  have hrun := hlater.hasRun hrun₁
  have h : Reachable E db := (hreach.trans (perform_later hperform)).trans hlater
  rw [answeredAgain_iff hrun]
  cases hendpoint : request.endpoint with
  | createRun experimentId =>
    rw [replays_create hendpoint hperform hlater h huuid, Replays, hendpoint]
  | start runId | resume runId =>
    have hrunId : request.runId E = runId := by rw [Request.runId, hendpoint]
    simp only [perform, hendpoint] at hperform ⊢
    obtain ⟨hn, hm⟩ := moveRun_first hperform
    rw [Replays, hendpoint]
    exact iff_of_true ⟨db, moveRun_again h hn (hm.later hlater), .inl rfl⟩ trivial
  | pause runId =>
    have hrunId : request.runId E = runId := by rw [Request.runId, hendpoint]
    simp only [perform, hendpoint, moveAndSettle, bind_ok] at hperform
    obtain ⟨_, hmove, hsettle⟩ := hperform
    obtain ⟨hn, hm⟩ := moveRun_first hmove
    have hm := (hm.later (RunService.settle_later hsettle)).later hlater
    rw [hrunId] at hrun ⊢
    rw [Replays, hendpoint]
    simp only [perform, hendpoint]
    exact iff_of_true (moveAndSettle_again h hrun hids hn hm) trivial
  | cancel runId =>
    have hrunId : request.runId E = runId := by rw [Request.runId, hendpoint]
    rw [hrunId] at hrun ⊢
    rw [replays_cancel hendpoint h hrun hids, Replays, hendpoint]

theorem mutation_replay_cancelling : AnsweredAgain Sample.env (after Sample.env Sample.cancelRequested) Sample.cancelRequest
    (Sample.draws "again") := by
  obtain ⟨response, hfirst⟩ := Sample.cancel_answered
  have hreach : Reachable Sample.env (after Sample.env Sample.busy) :=
    (reachableWhen_after (p := fun _ _ => true) (by decide)).reachable
  have hids : Drawn (after Sample.env Sample.cancelRequested) (Sample.draws "again").settle := ⟨by decide, by decide, by decide⟩
  exact (mutation_replay hreach hfirst .init hids Sample.uuid5_ne).2 ⟨_, rfl, .inr (.inl rfl)⟩

/-- The run is blocked after the cancel was answered; the same cancel now asks to go
straight to `cancelled`, which is not what its reply says. -/
theorem cancel_not_replayed :
    ¬ ∀ (E : Env) (db₀ db₁ db : Db) (request : Request) (draws₀ draws : Draws) (response : RunResponse), Reachable E db₀ →
      respond E db₀ request draws₀ = .ok (db₁, response) → Later E db₁ db → Drawn db draws.settle →
      (∀ name, E.uuid5 name ≠ "") → AnsweredAgain E db request draws := by
  intro hall
  obtain ⟨response, hfirst⟩ := Sample.cancel_answered
  have hreach : Reachable Sample.env (after Sample.env Sample.busy) :=
    (reachableWhen_after (p := fun _ _ => true) (by decide)).reachable
  have hids : Drawn (after Sample.env Sample.cancelBlocked) (Sample.draws "again").settle := ⟨by decide, by decide, by decide⟩
  have hagain := hall _ _ _ _ _ _ (Sample.draws "again") response hreach hfirst Sample.cancel_requested_later hids Sample.uuid5_ne
  have hrun : HasRun (after Sample.env Sample.cancelBlocked) "run" := ⟨by decide, by decide⟩
  have hreach' := (hreach.trans (perform_later (respond_ok hfirst).1)).trans Sample.cancel_requested_later
  rw [answeredAgain_iff hrun] at hagain
  obtain ⟨run, hget, hcase⟩ := (replays_cancel rfl hreach' hrun hids).1 hagain
  have hblocked : (after Sample.env Sample.cancelBlocked).runs.get? "run" =
      some ⟨"run", "exp-run", .blockedReconciliation, 8, 8, some "seed-run"⟩ := by decide
  cases hblocked.symm.trans hget
  have hnone : ∀ r ∈ (after Sample.env Sample.cancelBlocked).idempotency.rows, r.requestDigest ≠ "transition:run:cancelled" := by
    decide
  rcases hcase with h | h | ⟨-, r, hr, -, -, -, hd⟩
  · cases h
  · cases h
  · exact hnone r hr hd

end Api

end AvoCorrelate
