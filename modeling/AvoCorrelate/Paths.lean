import AvoCorrelate.Runs
import AvoCorrelate.Lib.Histories
/-!
# The paths of runs and sessions

Along any list of calls, those that raise included, the states of a run are a
path of `RUN_TRANSITIONS` and those of a session a path of
`SESSION_TRANSITIONS`. The ends of the tables are absorbing, and a call that
asks for a way out of one raises and changes nothing.
-/
open AvoLib

namespace AvoCorrelate

def runPath (dbs : List Db) (k : String) : List RunState :=
  (dbs.filterMap fun db => (db.runs.get? k).map (·.state)).destutter (· ≠ ·)

def sessionPath (dbs : List Db) (k : String) : List VariationSessionState :=
  (dbs.filterMap fun db => (db.sessions.get? k).map (·.state)).destutter (· ≠ ·)

def RunState.ended (s : RunState) : Bool := s = .completed || s = .cancelled || s = .failed

def VariationSessionState.ended (s : VariationSessionState) : Bool :=
  s = .proposalReady || s = .exhausted || s = .policyBlocked || s = .cancelled || s = .failed

theorem RunState.not_mem_of_ended {s t : RunState} (h : s.ended = true) : t ∉ runTransitions s := by
  cases s with
  | completed | cancelled | failed => exact List.not_mem_nil
  | _ => cases h

theorem VariationSessionState.not_mem_of_ended {s t : VariationSessionState} (h : s.ended = true) :
    t ∉ sessionTransitions s := by
  cases s with
  | proposalReady | exhausted | policyBlocked | cancelled | failed => exact List.not_mem_nil
  | _ => cases h

section Step
variable {E : Env} {db db' : Db} {op : Op} {k : String}

variable {r : RunRow} {t : RunState} {s : VariationSessionRow}

theorem exec_runState (h : exec E db op = .ok db') (hr : db.runs.get? k = some r) :
    ∃ r', db'.runs.get? k = some r' ∧ (r'.state = r.state ∨
      r'.state ∈ runTransitions r.state ∧ asksRun E db op = some (k, r'.state)) := by
  cases exec_runs h with
  | same _ hsame =>
    obtain ⟨r', hr', hs, -⟩ := hsame.kept k r hr
    exact ⟨r', hr', .inl hs⟩
  | @moved run run' hset hrun hk hask ht _ =>
    by_cases he : k = run'.runId
    · subst he
      obtain rfl : run = r := Option.some.inj (hrun.symm.trans (hk ▸ hr))
      exact ⟨run', hset.get?_self, ht.imp_right fun h => ⟨h, hk ▸ hask⟩⟩
    · exact ⟨r, (hset.get?_ne he).trans hr, .inl rfl⟩

theorem asksRun_allowed (h : exec E db op = .ok db') (hr : db.runs.get? k = some r)
    (hask : asksRun E db op = some (k, t)) : t = r.state ∨ t ∈ runTransitions r.state := by
  cases exec_runs h with
  | same hnone _ => rw [hnone] at hask; cases hask
  | @moved run run' hset hrun hk hmoved ht _ =>
    rw [hmoved] at hask
    cases hask
    obtain rfl : run = r := Option.some.inj (hrun.symm.trans hr)
    exact ht

theorem exec_sessionState (h : exec E db op = .ok db') (hs : db.sessions.get? k = some s) :
    ∃ s', db'.sessions.get? k = some s' ∧ (s'.state = s.state ∨
      s'.state ∈ sessionTransitions s.state ∧ asksSession db op = some (k, s'.state)) := by
  obtain hsame | ⟨s', hs', hstep, hask⟩ := exec_session h hs
  · exact ⟨s, hsame, .inl rfl⟩
  · exact ⟨s', hs', .inr ⟨hstep.table, hask⟩⟩

theorem asksSession_allowed (h : exec E db op = .ok db') (hs : db.sessions.get? k = some s) {t : VariationSessionState}
    (hask : asksSession db op = some (k, t)) : t ∈ sessionTransitions s.state := by
  cases exec_sessions h with
  | same _ hnone => rw [hnone] at hask; cases hask
  | queued hop _ =>
    subst hop
    cases hask
  | @changed x x' hx hstep hmoved hset =>
    rw [hmoved] at hask
    cases hask
    obtain rfl : x = s := Option.some.inj (hx.symm.trans hs)
    exact hstep.table

theorem asksRun_ended (hr : db.runs.get? k = some r) (hended : r.state.ended = true)
    (hask : asksRun E db op = some (k, t)) (ht : t ≠ r.state) :
    ∃ e, exec E db op = .error e ∧ attempt (exec E) db op = db := by
  cases h : exec E db op with
  | error e => exact ⟨e, rfl, attempt_error h⟩
  | ok db' =>
    rcases asksRun_allowed h hr hask with hsame | hmem
    · exact absurd hsame ht
    · exact absurd hmem (RunState.not_mem_of_ended hended)

theorem asksSession_ended (hs : db.sessions.get? k = some s) (hended : s.state.ended = true) {t : VariationSessionState}
    (hask : asksSession db op = some (k, t)) : ∃ e, exec E db op = .error e ∧ attempt (exec E) db op = db := by
  cases h : exec E db op with
  | error e => exact ⟨e, rfl, attempt_error h⟩
  | ok db' => exact absurd (asksSession_allowed h hs hask) (VariationSessionState.not_mem_of_ended hended)

end Step

/-! ## Along a history -/

/-- A committed call may move a run along the table. -/
def RunMoves (db db' : Db) : Prop :=
  ∀ k r, db.runs.get? k = some r →
    ∃ r', db'.runs.get? k = some r' ∧ (r'.state = r.state ∨ r'.state ∈ runTransitions r.state)

def SessionMoves (db db' : Db) : Prop :=
  ∀ k s, db.sessions.get? k = some s →
    ∃ s', db'.sessions.get? k = some s' ∧ (s'.state = s.state ∨ s'.state ∈ sessionTransitions s.state)

theorem runMoves_refl (db : Db) : RunMoves db db := fun _ r hr => ⟨r, hr, .inl rfl⟩

theorem sessionMoves_refl (db : Db) : SessionMoves db db := fun _ s hs => ⟨s, hs, .inl rfl⟩

theorem exec_runMoves {E : Env} {db db' : Db} {op : Op} (h : exec E db op = .ok db') : RunMoves db db' := by
  intro k r hr
  obtain ⟨r', hr', hs⟩ := exec_runState h hr
  exact ⟨r', hr', hs.imp_right And.left⟩

theorem exec_sessionMoves {E : Env} {db db' : Db} {op : Op} (h : exec E db op = .ok db') : SessionMoves db db' := by
  intro k s hs
  obtain ⟨s', hs', hst⟩ := exec_sessionState h hs
  exact ⟨s', hs', hst.imp_right And.left⟩

section Along
variable (E : Env) (db : Db) (ops : List Op)

theorem runPath_isChain (k : String) : (runPath (history (exec E) db ops) k).IsChain fun s t => t ∈ runTransitions s := by
  have hmoves : (history (exec E) db ops).IsChain RunMoves :=
    isChain_history runMoves_refl (fun _ _ _ => exec_runMoves) ops
  refine isChain_destutter_ne (isChain_filterMap (fun d d' hmove s hs => ?_) hmoves)
  obtain ⟨r, hr, rfl⟩ := Option.map_eq_some_iff.1 hs
  obtain ⟨r', hr', hst⟩ := hmove k r hr
  exact ⟨r'.state, by rw [hr']; rfl, hst⟩

theorem sessionPath_isChain (k : String) :
    (sessionPath (history (exec E) db ops) k).IsChain fun s t => t ∈ sessionTransitions s := by
  have hmoves : (history (exec E) db ops).IsChain SessionMoves :=
    isChain_history sessionMoves_refl (fun _ _ _ => exec_sessionMoves) ops
  refine isChain_destutter_ne (isChain_filterMap (fun d d' hmove s hs => ?_) hmoves)
  obtain ⟨r, hr, rfl⟩ := Option.map_eq_some_iff.1 hs
  obtain ⟨r', hr', hst⟩ := hmove k r hr
  exact ⟨r'.state, by rw [hr']; rfl, hst⟩

theorem run_absorbed {k : String} {r : RunRow} (hr : db.runs.get? k = some r) (hended : r.state.ended = true) :
    ∀ d ∈ history (exec E) db ops, (d.runs.get? k).map (·.state) = some r.state := by
  refine history_inv (fun d : Db => (d.runs.get? k).map (·.state) = some r.state) (fun d op d' hd he => ?_)
    (by rw [hr]; rfl) ops
  obtain ⟨x, hx, hs⟩ := Option.map_eq_some_iff.1 hd
  obtain ⟨x', hx', hst⟩ := exec_runMoves he k x hx
  have hsame : x'.state = x.state := hst.resolve_right (RunState.not_mem_of_ended (hs ▸ hended))
  rw [hx', Option.map_some, hsame, hs]

theorem session_absorbed {k : String} {s : VariationSessionRow} (hs : db.sessions.get? k = some s)
    (hended : s.state.ended = true) :
    ∀ d ∈ history (exec E) db ops, (d.sessions.get? k).map (·.state) = some s.state := by
  refine history_inv (fun d : Db => (d.sessions.get? k).map (·.state) = some s.state) (fun d op d' hd he => ?_)
    (by rw [hs]; rfl) ops
  obtain ⟨x, hx, hst⟩ := Option.map_eq_some_iff.1 hd
  obtain ⟨x', hx', hmove⟩ := exec_sessionMoves he k x hx
  have hsame : x'.state = x.state := hmove.resolve_right (VariationSessionState.not_mem_of_ended (hst ▸ hended))
  rw [hx', Option.map_some, hsame, hst]

/-- From any database, whatever is called: the distinct states of each run are a
path of the table, those of each session too; a run or a session that has ended
stays so, and a call that would take it elsewhere raises and changes no row. -/
theorem paths_in_tables :
    (∀ k, (runPath (history (exec E) db ops) k).IsChain fun s t => t ∈ runTransitions s) ∧
    (∀ k, (sessionPath (history (exec E) db ops) k).IsChain fun s t => t ∈ sessionTransitions s) ∧
    (∀ k r, db.runs.get? k = some r → r.state.ended = true →
      (∀ d ∈ history (exec E) db ops, (d.runs.get? k).map (·.state) = some r.state) ∧
      ∀ op t, asksRun E db op = some (k, t) → t ≠ r.state →
        ∃ e, exec E db op = .error e ∧ attempt (exec E) db op = db) ∧
    (∀ k s, db.sessions.get? k = some s → s.state.ended = true →
      (∀ d ∈ history (exec E) db ops, (d.sessions.get? k).map (·.state) = some s.state) ∧
      ∀ op t, asksSession db op = some (k, t) → ∃ e, exec E db op = .error e ∧ attempt (exec E) db op = db) := by
  refine ⟨runPath_isChain E db ops, sessionPath_isChain E db ops, fun k r hr hended => ?_, fun k s hs hended => ?_⟩
  · exact ⟨run_absorbed E db ops hr hended, fun op t hask ht => asksRun_ended hr hended hask ht⟩
  · exact ⟨session_absorbed E db ops hs hended, fun op t hask => asksSession_ended hs hended hask⟩

end Along

end AvoCorrelate
