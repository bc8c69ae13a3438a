import AvoCorrelate.Paths
import AvoCorrelate.Services.Control
/-!
# The safe boundary of a pause or a cancellation

A run that is `paused` or `cancelled` should have no running activity and no
running variation session. `settle_control_request` sees to that for the
requests it commits, however its statements are interleaved with other calls:
whatever sets work running requires a running run, and the revision it expects
rules out that the run was running in between. The other ways into `cancelled`,
and a resolution that sets a session of another run running, do not look.
-/
open AvoLib

namespace AvoCorrelate
open RunService

/-- Nothing of the run is `running`. -/
structure Idle (db : Db) (k : String) : Prop where
  activities : ∀ a ∈ db.activities, a.runId = k → a.state ≠ .running
  sessions : ∀ s ∈ db.sessions, s.runId = k → s.state ≠ .running

def RunState.resting (s : RunState) : Prop := s = .paused ∨ s = .cancelled

instance (s : RunState) : Decidable s.resting := inferInstanceAs (Decidable (_ ∨ _))

/-- Every run that is paused or cancelled is idle. -/
def SafeBoundary (db : Db) : Prop := ∀ run ∈ db.runs, run.state.resting → Idle db run.runId

/-- No endpoint asks for `paused`: that is left to `settle_control_request`. -/
def issued : Move → Bool
  | .call (.transition _ .paused _ _ _ _ _ _ _) => false
  | _ => true

/-- The run is not at rest, nor about to be put to rest by a settlement that has
made its last look. -/
def unsettled (c : Control) (k : String) : Bool :=
  (c.db.runs.get? k).all fun r => ¬ r.state.resting ∧
    c.settles.all fun p => ¬ (p.runId = k ∧ p.revision = r.revision ∧ p.phase = .sessionsRead)

/-- A cancellation that `settle_control_request` does not make finds no work
running but that which it cancels itself, and a resolution sets the session of
another run running only when that run is unsettled. -/
def boundarySafe (E : Env) (c : Control) : Move → Bool
  | .call (.transition runId .cancelled actorId expected reason key scope ids recordId) =>
    asksRun E c.db (.transition runId .cancelled actorId expected reason key scope ids recordId) = none ||
      !hasActiveActivity c.db runId && !hasActiveSession c.db runId
  | .call (.resolveReconciliation id resolution _ _ _ _ _) =>
    (c.db.cases.get? id).all fun row => row.record.state = .resolved ||
      match resolution with
      | .cancel =>
        (c.db.activities.rows.all fun a =>
          ¬ (a.runId = row.record.runId ∧ a.state = .running ∧ a.activityId ≠ row.record.activityId)) &&
        c.db.sessions.rows.all fun s =>
          ¬ (s.runId = row.record.runId ∧ s.state = .running ∧ row.record.sessionId ≠ some s.sessionId)
      | .retry | .acceptResult =>
        row.record.sessionId.all fun k => (c.db.sessions.get? k).all fun s =>
          s.runId = row.record.runId || unsettled c s.runId
      | .fail => true
  | _ => true

/-! ## What can be running after a call -/

section Running
variable {E : Env} {db db' : Db} {op : Op}

theorem running_activity (he : exec E db op = .ok db') {a' : ActivityRow} (ha : a' ∈ db'.activities)
    (hr : a'.state = .running) :
    (∃ a ∈ db.activities, a.activityId = a'.activityId ∧ a.runId = a'.runId ∧ a.state = .running) ∨
      ∃ run, db.runs.get? a'.runId = some run ∧ run.state = .running := by
  have ha' := Table.get?_of_mem ha
  cases hold : db.activities.get? a'.activityId with
  | none =>
    have hqueued := exec_activity_new he ha' hold
    rw [hr] at hqueued
    cases hqueued
  | some a =>
    obtain ⟨b, hb, hstep⟩ := exec_activity he hold
    obtain rfl : a' = b := Option.some.inj (ha'.symm.trans hb)
    cases hstep with
    | same => exact .inl ⟨a', Table.get?_mem hold, rfl, rfl, hr⟩
    | claimed _ hrun hrunning => exact .inr ⟨_, hrun, hrunning⟩
    | extended hs => exact .inl ⟨a, Table.get?_mem hold, rfl, rfl, hs⟩
    | finished | parked | settled | cancelled => cases hr
    | @resolved _ _ resolution => cases resolution <;> cases hr

theorem running_session (he : exec E db op = .ok db') {s' : VariationSessionRow} (hs : s' ∈ db'.sessions)
    (hr : s'.state = .running) :
    (∃ s ∈ db.sessions, s.sessionId = s'.sessionId ∧ s.runId = s'.runId ∧ s.state = .running) ∨
      (∃ run, db.runs.get? s'.runId = some run ∧ run.state = .running) ∨
      ∃ id row resolution note actorId digest now ids s,
        op = .resolveReconciliation id resolution note actorId digest now ids ∧ db.cases.get? id = some row ∧
        row.record.state = .opened ∧ (resolution = .retry ∨ resolution = .acceptResult) ∧
        row.record.sessionId = some s.sessionId ∧ db.sessions.get? s.sessionId = some s ∧ s.runId = s'.runId := by
  have hs' := Table.get?_of_mem hs
  cases hold : db.sessions.get? s'.sessionId with
  | none =>
    have hqueued := (exec_session_new he hs' hold).1
    rw [hr] at hqueued
    cases hqueued
  | some s =>
    obtain hsame | ⟨x, hx, hstep, -⟩ := exec_session he hold
    · obtain rfl : s' = s := Option.some.inj (hs'.symm.trans hsame)
      exact .inl ⟨s', Table.get?_mem hold, rfl, rfl, hr⟩
    · obtain rfl : s' = x := Option.some.inj (hs'.symm.trans hx)
      cases hstep with
      | started hrun hrunning => exact .inr (.inl ⟨_, hrun, hrunning⟩)
      | @finished result =>
        have hout : result.outcome.state ≠ .running := by cases result.outcome <;> decide
        exact absurd hr hout
      | suspended => cases hr
      | @resolved id row run resolution note actorId digest now ids hrow ho hid =>
        refine .inr (.inr ⟨id, row, resolution, note, actorId, digest, now, ids, s, rfl, hrow, ho, ?_, hid, hold, rfl⟩)
        cases resolution with
        | retry => exact .inl rfl
        | acceptResult => exact .inr rfl
        | cancel | fail => cases hr

theorem asksRun_sets (he : exec E db op = .ok db') {k : String} {t : RunState} (hask : asksRun E db op = some (k, t)) :
    ∃ r r', db.runs.get? k = some r ∧ db'.runs.get? k = some r' ∧ r'.state = t ∧ r'.revision = r.revision + 1 := by
  cases exec_runs he with
  | same hnone _ => rw [hnone] at hask; cases hask
  | @moved run run' hset hrun hk hmoved _ hrev =>
    rw [hmoved] at hask
    cases hask
    exact ⟨run, run', hrun, hk ▸ hset.get?_self, rfl, hrev⟩

theorem asksSession_sets (he : exec E db op = .ok db') {k : String} {t : VariationSessionState}
    (hask : asksSession db op = some (k, t)) : ∃ s', db'.sessions.get? k = some s' ∧ s'.state = t := by
  cases exec_sessions he with
  | same _ hnone => rw [hnone] at hask; cases hask
  | queued hop _ => subst hop; cases hask
  | @changed s s' _ hstep hmoved hset =>
    rw [hmoved] at hask
    cases hask
    exact ⟨s', hstep.identity.1 ▸ hset.get?_self, rfl⟩

theorem exec_run_kept (he : exec E db op = .ok db') {k : String} {r : RunRow} (hr : db.runs.get? k = some r) :
    ∃ r', db'.runs.get? k = some r' ∧ ((r'.state = r.state ∧ r.revision ≤ r'.revision) ∨
      (asksRun E db op = some (k, r'.state) ∧ r'.state ∈ runTransitions r.state ∧ r'.revision = r.revision + 1)) := by
  cases exec_runs he with
  | same _ hsame =>
    obtain ⟨r', hr', hs, hrev⟩ := hsame.kept k r hr
    exact ⟨r', hr', .inl ⟨hs, hrev⟩⟩
  | @moved run run' hset hrun hk hask ht hrev =>
    by_cases hne : k = run'.runId
    · subst hne
      obtain rfl : run = r := Option.some.inj (hrun.symm.trans (hk ▸ hr))
      refine ⟨run', hset.get?_self, ?_⟩
      rcases ht with ht | ht
      · exact .inl ⟨ht, by omega⟩
      · exact .inr ⟨hk ▸ hask, ht, hrev⟩
    · exact ⟨r, (hset.get?_ne hne).trans hr, .inl ⟨rfl, Nat.le_refl _⟩⟩

theorem exec_run_new (he : exec E db op = .ok db') {k : String} {r' : RunRow} (hr : db'.runs.get? k = some r')
    (hn : db.runs.get? k = none) : r'.state = .created ∨ r'.state = .ready := by
  cases exec_runs he with
  | same _ hsame => exact hsame.fresh k r' hr hn
  | @moved run run' hset hrun hk _ _ _ =>
    have hne : k ≠ run'.runId := by
      rintro rfl
      rw [hk, hrun] at hn
      cases hn
    rw [hset.get?_ne hne, hn] at hr
    cases hr

theorem idle_activities (he : exec E db op = .ok db') {k : String} {r : RunRow} (hr : db.runs.get? k = some r)
    (hs : r.state ≠ .running) (h : ∀ a ∈ db.activities, a.runId = k → a.state ≠ .running) :
    ∀ a ∈ db'.activities, a.runId = k → a.state ≠ .running := by
  intro a' ha' hk hrunning
  obtain ⟨a, ha, -, hrun, hra⟩ | ⟨run, hrun, hrs⟩ := running_activity he ha' hrunning
  · exact h a ha (hrun.trans hk) hra
  · rw [hk, hr] at hrun
    cases hrun
    exact hs hrs

end Running

/-! ## What a call keeps -/

section Keeps
variable {E : Env} {c : Control} {db' : Db} {op : Op} {k : String} {r : RunRow}

/-- A resolution that sets a session running is of that session's run, or finds the run unsettled. -/
def KeepsApart (c : Control) (op : Op) : Prop :=
  ∀ id row resolution note actorId digest now ids s,
    op = .resolveReconciliation id resolution note actorId digest now ids → c.db.cases.get? id = some row →
    row.record.state = .opened → resolution = .retry ∨ resolution = .acceptResult →
    row.record.sessionId = some s.sessionId → c.db.sessions.get? s.sessionId = some s →
    s.runId = row.record.runId ∨ unsettled c s.runId = true

theorem idle_sessions (he : exec E c.db op = .ok db') (hapart : KeepsApart c op) (hr : c.db.runs.get? k = some r)
    (hs : r.state ≠ .running) (hs' : ∀ r', db'.runs.get? k = some r' → r'.state ≠ .running)
    (hsettled : unsettled c k = false) (h : ∀ s ∈ c.db.sessions, s.runId = k → s.state ≠ .running) :
    ∀ s ∈ db'.sessions, s.runId = k → s.state ≠ .running := by
  intro x hx hk hrunning
  obtain ⟨s, hsm, -, hrun, hrs⟩ | ⟨run, hrun, hrs⟩ |
    ⟨id, row, resolution, note, actorId, digest, now, ids, s, rfl, hrow, ho, hres, hid, hget, hrun⟩ :=
    running_session he hx hrunning
  · exact h s hsm (hrun.trans hk) hrs
  · rw [hk, hr] at hrun
    cases hrun
    exact hs hrs
  · rcases hapart _ _ _ _ _ _ _ _ s rfl hrow ho hres hid hget with hsame | hun
    · have hask : asksRun E c.db (.resolveReconciliation id resolution note actorId digest now ids) = some (k, .running) := by
        have hkr : row.record.runId = k := hsame.symm.trans (hrun.trans hk)
        rcases hres with rfl | rfl <;> simp [asksRun, hrow, ho, hkr, RuntimeService.runTarget]
      obtain ⟨_, r', -, hr', ht, -⟩ := asksRun_sets he hask
      exact hs' r' hr' ht
    · rw [hrun, hk, hsettled] at hun
      cases hun

/-- What is known of a settlement under way, while the run is as it was read. -/
structure Settling (db : Db) (p : Settle) (run : RunRow) : Prop where
  state : run.state = p.state
  activities : p.phase ≠ .runRead → ∀ a ∈ db.activities, a.runId = p.runId → a.state ≠ .running
  sessions : p.phase = .sessionsRead → ∀ s ∈ db.sessions, s.runId = p.runId → s.state ≠ .running

structure SettleInv (db : Db) (p : Settle) : Prop where
  requested : p.state = .pausing ∨ p.state = .cancelling
  current : ∃ run, db.runs.get? p.runId = some run ∧ p.revision ≤ run.revision ∧
    (p.revision = run.revision → Settling db p run)

theorem SettleInv.not_running {db : Db} {p : Settle} (h : SettleInv db p) : p.state ≠ .running := by
  rcases h.requested with hs | hs <;> rw [hs] <;> decide

theorem SettleInv.call {p : Settle} (h : SettleInv c.db p) (hp : p ∈ c.settles) (he : exec E c.db op = .ok db')
    (hapart : KeepsApart c op) : SettleInv db' p := by
  obtain ⟨run, hrun, hle, hsettling⟩ := h.current
  obtain ⟨run', hrun', hkept⟩ := exec_run_kept he hrun
  refine ⟨h.requested, run', hrun', ?_, fun hrev => ?_⟩
  · rcases hkept with ⟨-, hrev⟩ | ⟨-, -, hrev⟩ <;> omega
  -- The revision is the one that was read, so no call has moved the run since.
  obtain ⟨hstate, hrevision⟩ | ⟨-, -, hmoved⟩ := hkept
  · have hread : p.revision = run.revision := by omega
    have hold := hsettling hread
    have hnot : run.state ≠ .running := by rw [hold.state]; exact h.not_running
    refine ⟨hstate.trans hold.state, fun hphase => idle_activities he hrun hnot (hold.activities hphase), fun hphase => ?_⟩
    refine idle_sessions he hapart hrun hnot (fun r' hr' => ?_) ?_ (hold.sessions hphase)
    · obtain rfl : run' = r' := Option.some.inj (hrun'.symm.trans hr')
      rw [hstate]
      exact hnot
    · simp only [unsettled, hrun, Option.all_some, decide_eq_false_iff_not, not_and]
      intro _ hall
      have := List.all_eq_true.1 hall p hp
      simp [hread, hphase] at this
  · omega

theorem SafeBoundary.call (h : SafeBoundary c.db) (he : exec E c.db op = .ok db') (hapart : KeepsApart c op)
    (hrest : ∀ k t, asksRun E c.db op = some (k, t) → t.resting → Idle db' k) : SafeBoundary db' := by
  intro run' hmem hresting
  have hrun' := Table.get?_of_mem hmem
  cases hrun : c.db.runs.get? run'.runId with
  | none =>
    rcases exec_run_new he hrun' hrun with hs | hs <;> rw [hs] at hresting <;> cases hresting <;> contradiction
  | some run =>
    obtain ⟨x, hx, hkept⟩ := exec_run_kept he hrun
    obtain rfl : run' = x := Option.some.inj (hrun'.symm.trans hx)
    obtain ⟨hstate, -⟩ | ⟨hask, -, -⟩ := hkept
    · have hrested : run.state.resting := hstate ▸ hresting
      have hnot (s : RunState) (hs : s.resting) : s ≠ .running := by rcases hs with rfl | rfl <;> decide
      have hidle : Idle c.db run'.runId := Table.get?_key hrun ▸ h run (Table.get?_mem hrun) hrested
      refine ⟨idle_activities he hrun (hnot _ hrested) hidle.activities,
        idle_sessions he hapart hrun (hnot _ hrested) (fun r' hr' => ?_) ?_ hidle.sessions⟩
      · obtain rfl : run' = r' := Option.some.inj (hrun'.symm.trans hr')
        exact hnot _ hresting
      · simp [unsettled, hrun, hrested]
    · exact hrest _ _ hask hresting

end Keeps

/-! ## The moves -/

section Moves
variable {E : Env} {c c' : Control} {db' : Db} {op : Op}

/-- The safe boundary, and what the settlements under way rely on. -/
structure Bounded (c : Control) : Prop where
  boundary : SafeBoundary c.db
  settling : ∀ p ∈ c.settles, SettleInv c.db p

theorem keepsApart_of_safe (hsafe : boundarySafe E c (.call op) = true) : KeepsApart c op := by
  rintro id row resolution note actorId digest now ids s rfl hrow ho hres hid hget
  simp only [boundarySafe, hrow, Option.all_some, ho, reduceCtorEq, decide_false, Bool.false_or] at hsafe
  rcases hres with rfl | rfl <;> simpa [hid, hget] using hsafe

variable {db : Db} {k runId actorId : String} {t : RunState} {ids : Db.EventIds} {run : RunRow} {p : Settle}
  {phase : SettlePhase} {i : Nat}

theorem not_active_activity (h : hasActiveActivity db k = false) :
    ∀ a ∈ db.activities, a.runId = k → a.state ≠ .running := by
  intro a ha hk hr
  have := List.any_eq_false.1 h a ha
  simp [hk, hr] at this

theorem not_active_session (h : hasActiveSession db k = false) :
    ∀ s ∈ db.sessions, s.runId = k → s.state ≠ .running := by
  intro s hs hk hr
  have := List.any_eq_false.1 h s hs
  simp [hk, hr] at this

theorem not_running_of_rests (he : exec E c.db op = .ok db') {r : RunRow} (hr : c.db.runs.get? k = some r)
    (hask : asksRun E c.db op = some (k, t)) (ht : t.resting) : r.state ≠ .running := by
  intro hs
  rcases asksRun_allowed he hr hask with hsame | hmem
  · rw [← hsame] at hs
    rcases ht with rfl | rfl <;> cases hs
  · rw [hs] at hmem
    rcases ht with rfl | rfl <;> revert hmem <;> decide

theorem idle_of_transition {target : RunState} {expected : Option Nat} {reason key scope : Option String}
    {recordId : String}
    (he : exec E c.db (.transition runId target actorId expected reason key scope ids recordId) = .ok db')
    (hask : asksRun E c.db (.transition runId target actorId expected reason key scope ids recordId) = some (runId, target))
    (ht : target.resting) (hidle : Idle c.db runId) : Idle db' runId := by
  obtain ⟨r, r', hr, hr', hstate, -⟩ := asksRun_sets he hask
  have hnot := not_running_of_rests he hr hask ht
  have hsame : db'.sessions = c.db.sessions := by
    cases exec_sessions he with
    | same h _ => exact h
    | queued hop _ => cases hop
    | changed _ _ hasks _ => cases hasks
  exact ⟨idle_activities he hr hnot hidle.activities, hsame ▸ hidle.sessions⟩

theorem idle_of_resolution {id : String} {note : String} {digest : Option String} {now : Instant}
    {row : ReconciliationCaseRow}
    (he : exec E c.db (.resolveReconciliation id .cancel note actorId digest now ids) = .ok db')
    (hrow : c.db.cases.get? id = some row) (ho : row.record.state = .opened)
    (hactivities : ∀ a ∈ c.db.activities, a.runId = row.record.runId → a.state = .running →
      a.activityId = row.record.activityId)
    (hsessions : ∀ s ∈ c.db.sessions, s.runId = row.record.runId → s.state = .running →
      row.record.sessionId = some s.sessionId) : Idle db' row.record.runId := by
  have hask : asksRun E c.db (.resolveReconciliation id .cancel note actorId digest now ids) =
      some (row.record.runId, .cancelled) := by simp [asksRun, hrow, ho, RuntimeService.runTarget]
  obtain ⟨r, -, hr, -, -, -⟩ := asksRun_sets he hask
  have hnot := not_running_of_rests he hr hask (.inr rfl)
  have hrunning (k : String) (hk : k = row.record.runId) : ¬ ∃ run, c.db.runs.get? k = some run ∧ run.state = .running := by
    rintro ⟨run, hrun, hs⟩
    rw [hk, hr] at hrun
    cases hrun
    exact hnot hs
  constructor
  · intro a' ha' hk hs
    obtain ⟨a, ha, hid, hrun, hra⟩ | hran := running_activity he ha' hs
    · have hcase := hactivities a ha (hrun.trans hk) hra
      have hget := Table.get?_of_mem ha'
      simp only [exec, map_ok, Prod.exists, exists_and_right, exists_eq_right] at he
      obtain ⟨_, he⟩ := he
      obtain ⟨row', hrow', ⟨hresolved, -⟩ | ⟨b, -, hb, -, hacts⟩⟩ := RuntimeService.resolveReconciliation_activities he
      · rw [hrow] at hrow'
        cases hrow'
        rw [ho] at hresolved
        cases hresolved
      · rw [hrow] at hrow'
        cases hrow'
        rw [hacts, ← hid, hcase, Table.get?_modify_self hb] at hget
        cases hget
        cases hs
    · exact hrunning _ hk hran
  · intro s' hs' hk hs
    obtain ⟨s, hsm, hid, hrun, hrs⟩ | hran | ⟨_, _, _, _, _, _, _, _, _, hop, -, -, hres, -⟩ :=
      running_session he hs' hs
    · have hcase := hsessions s hsm (hrun.trans hk) hrs
      have hasks : asksSession c.db (.resolveReconciliation id .cancel note actorId digest now ids) =
          some (s.sessionId, .cancelled) := by simp [asksSession, hrow, ho, hcase, RuntimeService.sessionTarget]
      obtain ⟨x, hx, hstate⟩ := asksSession_sets he hasks
      rw [hid, Table.get?_of_mem hs'] at hx
      cases hx
      rw [hs] at hstate
      cases hstate
    · exact hrunning _ hk hran
    · cases hop
      rcases hres with h | h <;> cases h

theorem idle_of_safe (he : exec E c.db op = .ok db') (hissued : issued (.call op) = true)
    (hsafe : boundarySafe E c (.call op) = true) (hask : asksRun E c.db op = some (k, t)) (ht : t.resting) :
    Idle db' k := by
  cases op with
  | transition runId target actorId expected reason key scope ids recordId =>
    obtain ⟨rfl, rfl⟩ : runId = k ∧ target = t := by
      simp only [asksRun] at hask
      split at hask
      · cases hask; exact ⟨rfl, rfl⟩
      · cases hask
    rcases ht with rfl | rfl
    · cases hissued
    · simp only [boundarySafe, hask, reduceCtorEq, decide_false, Bool.false_or, Bool.and_eq_true,
        Bool.not_eq_true'] at hsafe
      exact idle_of_transition he hask (.inr rfl) ⟨not_active_activity hsafe.1, not_active_session hsafe.2⟩
  | resolveReconciliation id resolution note actorId digest now ids =>
    simp only [asksRun, Option.bind_eq_some_iff] at hask
    obtain ⟨row, hrow, hrowask⟩ := hask
    split at hrowask
    · cases hrowask
    · next hst =>
      have ho := opened_of_ne_resolved hst
      simp only [Option.some.injEq, Prod.mk.injEq] at hrowask
      obtain ⟨rfl, rfl⟩ := hrowask
      cases resolution with
      | retry | acceptResult | fail => rcases ht with h | h <;> cases h
      | cancel =>
        simp only [boundarySafe, hrow, Option.all_some, ho, reduceCtorEq, decide_false, Bool.false_or,
          Bool.and_eq_true, List.all_eq_true, decide_eq_true_eq] at hsafe
        refine idle_of_resolution he hrow ho (fun a ha hk hr => ?_) fun s hs hk hr => ?_
        · by_contra hne
          exact hsafe.1 a ha ⟨hk, hr, hne⟩
        · by_contra hne
          exact hsafe.2 s hs ⟨hk, hr, hne⟩
  | markReconciliationRequired =>
    simp only [asksRun, Option.map_eq_some_iff, Prod.mk.injEq] at hask
    obtain ⟨_, -, -, rfl⟩ := hask
    rcases ht with h | h <;> cases h
  | openReconciliation =>
    simp only [asksRun] at hask
    split at hask
    · cases hask
    · cases hask
      rcases ht with h | h <;> cases h
  | settleExhaustedVariation =>
    simp only [asksRun, Option.bind_eq_some_iff] at hask
    obtain ⟨_, -, hask⟩ := hask
    split at hask
    · cases hask
    · cases hask
      rcases ht with h | h <;> cases h
  | _ => cases hask

theorem Bounded.call (h : Bounded c) (he : exec E c.db op = .ok db') (hissued : issued (.call op) = true)
    (hsafe : boundarySafe E c (.call op) = true) : Bounded { c with db := db' } where
  boundary := h.boundary.call he (keepsApart_of_safe hsafe) fun _ _ hask ht => idle_of_safe he hissued hsafe hask ht
  settling p hp := (h.settling p hp).call hp he (keepsApart_of_safe hsafe)

theorem settleInv_read (hrun : db.runs.get? runId = some run) (hs : run.state = .pausing ∨ run.state = .cancelling) :
    SettleInv db ⟨runId, run.state, run.revision, .runRead⟩ where
  requested := hs
  current := ⟨run, hrun, Nat.le_refl _, fun _ => ⟨rfl, fun h => absurd rfl h, fun h => by cases h⟩⟩

theorem SettleInv.look (h : SettleInv db p)
    (hactivities : phase ≠ .runRead → (p.phase ≠ .runRead ∨ hasActiveActivity db p.runId = false))
    (hsessions : phase = .sessionsRead → hasActiveSession db p.runId = false) :
    SettleInv db { p with phase := phase } := by
  obtain ⟨run, hrun, hle, hsettling⟩ := h.current
  refine ⟨h.requested, run, hrun, hle, fun hrev => ?_⟩
  have hold := hsettling hrev
  refine ⟨hold.state, fun hphase => ?_, fun hphase => not_active_session (hsessions hphase)⟩
  rcases hactivities hphase with hbefore | hnone
  · exact hold.activities hbefore
  · exact not_active_activity hnone

theorem Bounded.looked (h : Bounded c) {found : Bool} (hp : found = false → SettleInv c.db { p with phase := phase }) :
    Bounded (looked c i p found phase) := by
  refine ⟨h.boundary, fun q hq => ?_⟩
  unfold AvoCorrelate.looked at hq
  cases found with
  | true => exact h.settling q (List.mem_of_mem_eraseIdx hq)
  | false =>
    rcases List.mem_or_eq_of_mem_set hq with hq | rfl
    · exact h.settling q hq
    · exact hp rfl

theorem settleTransition_run {state : RunState} {revision : Nat}
    (h : settleTransition E db runId state revision actorId ids = .ok db') (hrun : db.runs.get? runId = some run) :
    run.revision = revision := by
  simp only [settleTransition, map_ok, Prod.exists, exists_and_right, exists_eq_right] at h
  obtain ⟨_, h⟩ := h
  simp only [RunService.transition, checkIdempotency, bind_ok, Except.ok.injEq, exists_eq_left', orRaise_ok,
    requireRunTransition_ok, require_ok, exists_const] at h
  obtain ⟨current, hcurrent, -, hrev, -⟩ := h
  rw [hrun] at hcurrent
  cases hcurrent
  exact hrev revision rfl

theorem Bounded.commit (h : Bounded c) (hp : p ∈ c.settles) (hphase : p.phase = .sessionsRead)
    (he : settleTransition E c.db p.runId p.state p.revision actorId ids = .ok db') :
    Bounded ⟨db', c.settles.eraseIdx i⟩ := by
  have hcall : exec E c.db (.transition p.runId (settledState p.state) actorId (some p.revision)
      (some "safe_boundary_reached") none none ids "") = .ok db' := he
  have hapart : KeepsApart c (.transition p.runId (settledState p.state) actorId (some p.revision)
      (some "safe_boundary_reached") none none ids "") := by
    rintro _ _ _ _ _ _ _ _ _ hop
    cases hop
  obtain ⟨run, hrun, -, hsettling⟩ := (h.settling p hp).current
  have hold := hsettling (settleTransition_run he hrun).symm
  have hidle : Idle c.db p.runId := ⟨hold.activities (by rw [hphase]; decide), hold.sessions hphase⟩
  constructor
  · refine h.boundary.call hcall hapart fun k t hask ht => ?_
    obtain ⟨rfl, rfl⟩ : p.runId = k ∧ settledState p.state = t := by
      cases hask
      exact ⟨rfl, rfl⟩
    exact idle_of_transition hcall hask ht hidle
  · exact fun q hq => (h.settling q (List.mem_of_mem_eraseIdx hq)).call (List.mem_of_mem_eraseIdx hq) hcall hapart

theorem Bounded.step {m : Move} (h : Bounded c) (he : move E c m = .ok c') (hissued : issued m = true)
    (hsafe : boundarySafe E c m = true) : Bounded c' := by
  cases m with
  | call op =>
    simp only [move, bind_ok, pure_ok] at he
    obtain ⟨db', hexec, rfl⟩ := he
    exact h.call hexec hissued hsafe
  | readRun runId =>
    simp only [move, getRun, bind_ok, orRaise_ok] at he
    obtain ⟨run, hrun, he⟩ := he
    split at he
    · next hs =>
      cases he
      refine ⟨h.boundary, fun p hp => ?_⟩
      rcases List.mem_append.1 hp with hp | hp
      · exact h.settling p hp
      · rw [List.mem_singleton.1 hp]
        exact settleInv_read hrun hs
    · cases he
      exact h
  | readActivities i =>
    simp only [move, bind_ok, orRaise_ok, require_ok, exists_const, pure_ok] at he
    obtain ⟨p, hp, hphase, rfl⟩ := he
    exact h.looked fun hnone => (h.settling p (List.mem_of_getElem? hp)).look (fun _ => .inr hnone) fun hx => by cases hx
  | readSessions i =>
    simp only [move, bind_ok, orRaise_ok, require_ok, exists_const, pure_ok] at he
    obtain ⟨p, hp, hphase, rfl⟩ := he
    exact h.looked fun hnone => (h.settling p (List.mem_of_getElem? hp)).look
      (fun _ => .inl (by rw [hphase]; decide)) fun _ => hnone
  | commit i actorId ids =>
    simp only [move, bind_ok, orRaise_ok, require_ok, exists_const, pure_ok] at he
    obtain ⟨p, hp, hphase, db', hcommit, rfl⟩ := he
    exact h.commit (List.mem_of_getElem? hp) hphase hcommit

end Moves

def Control.initial : Control := ⟨.initial, []⟩

theorem initial_bounded : Bounded Control.initial :=
  ⟨fun _ h => (Table.not_mem_empty _ h).elim, fun _ h => (List.not_mem_nil h).elim⟩

/-- Whatever workers, operators and endpoints do, and however the statements of
`settle_control_request` fall between their calls: in every run whose
cancellations and resolutions keep to the condition, a run that is paused or
cancelled is idle. -/
theorem safe_boundary {E : Env} {c : Control}
    (h : Reaches (move E) (fun c m => issued m = true ∧ boundarySafe E c m = true) Control.initial c) :
    SafeBoundary c.db :=
  (Reaches.inv Bounded initial_bounded (fun _ _ _ hb hp he => hb.step he hp.1 hp.2) h).boundary

/-- A pause that waits for an activity: the first settlement finds it running,
the second one finds it completed. -/
def Sample.paused : List Move :=
  (Sample.started "run" "tree" ++ Sample.claimed "run" "a" none ++ [Sample.moved "run" .pausing "pause"]).map .call ++
    [.readRun "run", .readActivities 0, .call (.completeActivity "a" "worker" 1 "result" (Sample.ids "completed-a")),
      .readRun "run", .readActivities 0, .call (Sample.session "run" "session"), .readSessions 0,
      .commit 0 "control-plane" (Sample.ids "settled")]

theorem safe_boundary_paused : SafeBoundary (result (move Sample.env) Control.initial Sample.paused).db :=
  safe_boundary ((reaches_result (p := fun c m => issued m && boundarySafe Sample.env c m) (by decide)).mono
    fun _ _ h => Bool.and_eq_true_iff.1 h)

/-- Two activities run when one of them is sent to reconciliation, and the
operator cancels the blocked run. -/
def Sample.cancelledEarly : List Move :=
  (Sample.started "run" "tree" ++ Sample.claimed "run" "a" none ++ Sample.claimed "run" "b" none ++
    [Sample.disputed "a" "case-a",
      .transition "run" .cancelled "operator" (some 9) none (some "key") (some "runs.run.cancel") (Sample.ids "cancel")
        "record"]).map .call

/-- The other activity still runs. -/
theorem cancelled_run_active : ¬ ∀ E c, Reaches (move E) (fun _ m => issued m = true) Control.initial c →
    SafeBoundary c.db := by
  intro h
  have hreach : Reaches (move Sample.env) (fun _ m => issued m = true) Control.initial
      (result (move Sample.env) Control.initial Sample.cancelledEarly) :=
    reaches_result (p := fun _ m => issued m) (by decide)
  have hsafe := h _ _ hreach
  have hrun : ∃ run ∈ (result (move Sample.env) Control.initial Sample.cancelledEarly).db.runs,
      run.runId = "run" ∧ run.state = .cancelled := by
    simp only [Table.mem_def]
    decide
  have hactivity : ∃ a ∈ (result (move Sample.env) Control.initial Sample.cancelledEarly).db.activities,
      a.runId = "run" ∧ a.state = .running := by
    simp only [Table.mem_def]
    decide
  obtain ⟨run, hrun, hk, hs⟩ := hrun
  obtain ⟨a, ha, hka, hr⟩ := hactivity
  exact (hsafe run hrun (.inr hs)).activities a ha (hka.trans hk.symm) hr

end AvoCorrelate
