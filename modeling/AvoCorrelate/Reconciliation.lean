import AvoCorrelate.Journal
/-!
# Reconciliation blocks the run

An open case means that nobody knows what external work did, so its run should
wait in `blocked_reconciliation`; `ProvenanceService.verify` reports a run that
ended with an open case. `CaseStep` says what every call does to the cases and
to the state of the runs.

One run can have several open cases, while each resolution moves the single run
state, and `RunService.transition` takes any edge out of `blocked_reconciliation`
without looking at the cases. The law holds for runs of calls that do not leave
an open case behind in this way (`caseSafe`).
-/
open AvoLib

namespace AvoCorrelate

/-- The call leaves no open case behind: a transition out of
`blocked_reconciliation` finds no open case of the run, a resolution no other
one, and a terminal settlement none of another activity. -/
def caseSafe (db : Db) : Op → Bool
  | .transition runId _ _ _ _ _ _ _ _ =>
    (db.runs.get? runId).all fun run => run.state ≠ .blockedReconciliation ||
      db.cases.rows.all fun c => c.state = .resolved || c.runId ≠ runId
  | .resolveReconciliation id _ _ _ _ _ _ =>
    (db.cases.get? id).all fun row => row.record.state = .resolved ||
      db.cases.rows.all fun c => c.state = .resolved || c.runId ≠ row.record.runId || c.reconciliationId = id
  | .settleExhaustedVariation runId activityId _ _ _ _ _ _ _ _ _ =>
    db.cases.rows.all fun c => c.state = .resolved || c.runId ≠ runId || c.activityId = activityId
  | _ => true

/-- What a committed call can do to the cases and to the states of the runs. -/
inductive CaseStep (safe : Prop) (db db' : Db) : Prop
  | same (hc : db'.cases = db.cases)
    (hr : ∀ k run, db.runs.get? k = some run → ∃ run', db'.runs.get? k = some run' ∧ run'.state = run.state)
  | moved {run run' : RunRow} (hrun : db.runs.get? run.runId = some run) (hset : db.runs.Sets run' db'.runs)
    (hk : run'.runId = run.runId) (hc : db'.cases = db.cases)
    (hsafe : safe → run.state = .blockedReconciliation → ∀ c ∈ db.cases, c.state = .opened → c.runId ≠ run.runId)
  | opened {run : RunRow} {record : ReconciliationCaseRecord} (hset : db.runs.Sets (blockedRun run) db'.runs)
    (hs : record.state = .opened) (hk : record.runId = run.runId)
    (hc : db.cases.insert? (openedRow record) = some db'.cases)
  | resolved {run run' : RunRow} {row : ReconciliationCaseRow} {record : ReconciliationCaseRecord}
    (hrun : db.runs.get? row.record.runId = some run) (hset : db.runs.Sets run' db'.runs)
    (hk : run'.runId = run.runId) (hrow : db.cases.get? row.reconciliationId = some row)
    (hs : record.state = .resolved) (hr : record.runId = row.record.runId)
    (hc : db.cases.Sets (RuntimeService.resolvedRow record row) db'.cases)
    (hsafe : safe → ∀ c ∈ db.cases, c.state = .opened → c.runId = row.record.runId →
      c.reconciliationId = row.reconciliationId)
  | settled {run run' : RunRow} {activityId : String} {now : Instant} (hrun : db.runs.get? run.runId = some run)
    (hset : db.runs.Sets run' db'.runs) (hk : run'.runId = run.runId)
    (hc : db'.cases = db.cases.modifyAll (TerminalBudgetService.isOpenCase run.runId activityId)
      (TerminalBudgetService.resolvedCase now) (fun _ => rfl))
    (hsafe : safe → ∀ c ∈ db.cases, c.state = .opened → c.runId = run.runId → c.activityId = activityId)

variable {db db' : Db} {run' : RunRow} {id runId actorId : String} {E : Env} {ids : Db.EventIds} {now : Instant}

theorem states_of_logs {run : RunRow} (h : db.Logs run' db') (hr : db.runs.get? id = some run)
    (hk : run'.runId = run.runId) (hs : run'.state = run.state) :
    ∀ k r, db.runs.get? k = some r → ∃ r', db'.runs.get? k = some r' ∧ r'.state = r.state := by
  intro k r hget
  by_cases he : k = run'.runId
  · subst he
    rw [hk, Table.get?_self hr] at hget
    cases hget
    exact ⟨run', h.1.get?_self, hs⟩
  · exact ⟨r, (h.1.get?_ne he).trans hget, rfl⟩

theorem same_states : ∀ k r, db.runs.get? k = some r → ∃ r', db.runs.get? k = some r' ∧ r'.state = r.state :=
  fun _ r h => ⟨r, h, rfl⟩

theorem opened_of_ne_resolved {s : CaseState} (h : s ≠ .resolved) : s = .opened := by
  cases s
  · rfl
  · exact absurd rfl h

theorem transition_cases {target : RunState} {expected : Option Nat} {reason key scope : Option String}
    {recordId : String}
    (h : RunService.transition E db runId target actorId expected reason key scope ids recordId = .ok (db', run')) :
    CaseStep (caseSafe db (.transition runId target actorId expected reason key scope ids recordId) = true) db db' := by
  obtain rfl | ⟨run, _, _, _, _, rfl, hr, -, hlog⟩ := RunService.transition_ok h
  · exact .same rfl same_states
  · have hk : run.runId = runId := Table.get?_key hr
    refine .moved (Table.get?_self hr) hlog.1 rfl rfl fun hsafe hb c hc ho hkc => ?_
    simp only [caseSafe, hr, Option.all_some, hb, ne_eq, not_true_eq_false, decide_false, Bool.false_or] at hsafe
    have := List.all_eq_true.1 hsafe c hc
    simp [ho, hkc, hk] at this

theorem resolve_cases {resolution : Resolution} {note : String} {digest : Option String}
    {record : ReconciliationCaseRecord}
    (h : RuntimeService.resolveReconciliation db id resolution note actorId digest now ids = .ok (db', record)) :
    CaseStep (caseSafe db (.resolveReconciliation id resolution note actorId digest now ids) = true) db db' := by
  obtain rfl | ⟨row, run, _, _, _, _, _, _, _, _, rfl, hrow, hopen, hr, -, hs, hcs, hrr, -, hlog⟩ :=
    RuntimeService.resolveReconciliation_ok h
  · exact .same rfl same_states
  · have hk : row.reconciliationId = id := Table.get?_key hrow
    refine .resolved hr hlog.1 rfl (Table.get?_self hrow) hs hrr hcs fun hsafe c hc ho hkc => ?_
    simp only [caseSafe, hrow, Option.all_some, hopen, reduceCtorEq, decide_false, Bool.false_or] at hsafe
    have := List.all_eq_true.1 hsafe c hc
    simpa [ho, hkc, hk] using this

theorem settle_cases {activityId reservationId digest : String} {actual requiredEvaluation : UsageRecord}
    {bundle : String} {epoch : Option Nat}
    (h : TerminalBudgetService.settleExhaustedVariation E db runId activityId reservationId digest actual
      requiredEvaluation bundle actorId epoch now ids = .ok db') :
    CaseStep (caseSafe db (.settleExhaustedVariation runId activityId reservationId digest actual
      requiredEvaluation bundle actorId epoch now ids) = true) db db' := by
  obtain ⟨run, activity, r, ledger, hctx, hcase⟩ := TerminalBudgetService.settleExhaustedVariation_ok h
  have hkr : run.runId = runId := Table.get?_key hctx.run_row
  have hka : activity.activityId = activityId := Table.get?_key hctx.activity_row
  have hr := Table.get?_self hctx.run_row
  have hother (hsafe : caseSafe db (.settleExhaustedVariation runId activityId reservationId digest actual
      requiredEvaluation bundle actorId epoch now ids) = true) :
      ∀ c ∈ db.cases, c.state = .opened → c.runId = run.runId → c.activityId = activityId := by
    intro c hc ho hkc
    have := List.all_eq_true.1 hsafe c hc
    simpa [ho, hkc, hkr] using this
  obtain rfl | ⟨-, -, _, _, _, rfl, hlog⟩ |
    ⟨-, _, _, _, _, _, _, _, _, _, _, _, _, rfl, -, -, -, -, -, -, -, hlog⟩ := hcase
  · exact .same rfl same_states
  · exact .settled hr hlog.1 rfl (by rw [hkr]) hother
  · exact .settled hr hlog.1 rfl (by rw [hka]) hother

theorem exec_cases {op : Op} (h : exec E db op = .ok db') : CaseStep (caseSafe db op = true) db db' := by
  have same := exec_frame h
  have bumps := exec_bumps h
  cases op <;> simp only [exec, map_ok, Prod.exists, exists_and_right, exists_eq_right] at h
  case createRun =>
    obtain ⟨_, h⟩ := h
    obtain rfl | ⟨runId, run, _, _, _, _, _, _, _, rfl, rfl, ⟨_, _, _, _, hfresh, hset, -⟩, -⟩ := RunService.createRun_ok h
    · exact .same rfl same_states
    · refine .same rfl fun k r hget => ⟨r, (hset.get?_ne ?_).trans hget, rfl⟩
      rw [createdRun_runId]
      rintro rfl
      exact hfresh r (Table.get?_mem hget) (Table.get?_key hget)
  case transition =>
    obtain ⟨_, h⟩ := h
    exact transition_cases h
  case markReconciliationRequired =>
    obtain ⟨run, record, _, _, _, _, _, _, _, rfl, -, -, hs, hk, hcs, -, hlog⟩ :=
      ActivityService.markReconciliationRequired_ok h
    exact .opened hlog.1 hs hk hcs
  case openReconciliation =>
    obtain ⟨_, h⟩ := h
    obtain rfl | ⟨run, record, _, _, _, _, _, _, _, rfl, -, -, hs, hk, hcs, -, hlog⟩ :=
      RuntimeService.openReconciliation_ok h
    · exact .same rfl same_states
    · exact .opened hlog.1 hs hk hcs
  case resolveReconciliation =>
    obtain ⟨_, h⟩ := h
    exact resolve_cases h
  case settleExhaustedVariation => exact settle_cases h
  case commitAdmission =>
    obtain ⟨_, h⟩ := h
    obtain ⟨rfl, -⟩ | ⟨run, c, _, _, _, -, hr, -, -, -, -, -, -, ⟨-, rfl⟩ | ⟨-, -, _, _, _, _, _, rfl, -, -, -, hlog⟩⟩ :=
      EvidenceService.commitAdmission_ok h
    · exact .same rfl same_states
    · exact .same rfl same_states
    · exact .same rfl (states_of_logs hlog hr rfl rfl)
  all_goals
    refine .same (same .cases rfl) ?_
    obtain ⟨hr, -⟩ | ⟨run, hr, hlog⟩ := bumps rfl
    · exact hr ▸ same_states
    · exact states_of_logs hlog hr rfl rfl

/-! ## The law -/

/-- The run is in state `blocked_reconciliation`. -/
def IsBlocked (db : Db) (runId : String) : Prop :=
  ∃ run, db.runs.get? runId = some run ∧ run.state = .blockedReconciliation

structure CaseInv (db : Db) : Prop where
  /-- A row's columns repeat its record. -/
  columns : ∀ c ∈ db.cases, c.record.state = c.state ∧ c.record.runId = c.runId
  /-- Every open case blocks its run. -/
  blocked : ∀ c ∈ db.cases, c.state = .opened → IsBlocked db c.runId

theorem CaseInv.columns_of_step {safe : Prop} (h : CaseStep safe db db') (hi : CaseInv db) :
    ∀ c ∈ db'.cases, c.record.state = c.state ∧ c.record.runId = c.runId := by
  intro c hc
  cases h with
  | same hcs _ => exact hi.columns c (hcs ▸ hc)
  | moved _ _ _ hcs _ => exact hi.columns c (hcs ▸ hc)
  | opened hset hs hk hcs =>
    rcases (Table.mem_insert hcs).1 hc with hc | rfl
    · exact hi.columns c hc
    · exact ⟨hs, rfl⟩
  | resolved hrun hset hk hrow hs hr hcs _ =>
    rcases hcs.mem_iff.1 hc with rfl | ⟨hc, -⟩
    · exact ⟨hs, hr.trans (hi.columns _ (Table.get?_mem hrow)).2⟩
    · exact hi.columns c hc
  | settled hrun hset hk hcs _ =>
    rw [hcs] at hc
    obtain ⟨x, hx, rfl⟩ := Table.mem_modifyAll.1 hc
    split
    · exact ⟨rfl, (hi.columns x hx).2⟩
    · exact hi.columns x hx

theorem IsBlocked.of_sets {k : String} (h : IsBlocked db k) (hset : db.runs.Sets run' db'.runs) (hk : k ≠ run'.runId) :
    IsBlocked db' k := by
  obtain ⟨r, hr, hs⟩ := h
  exact ⟨r, (hset.get?_ne hk).trans hr, hs⟩

theorem CaseStep.inv (h : CaseStep True db db') (hi : CaseInv db) : CaseInv db' := by
  refine ⟨hi.columns_of_step h, fun c hc ho => ?_⟩
  cases h with
  | same hcs hr =>
    obtain ⟨run, hrun, hs⟩ := hi.blocked c (hcs ▸ hc) ho
    obtain ⟨run', hrun', hs'⟩ := hr _ _ hrun
    exact ⟨run', hrun', hs'.trans hs⟩
  | @moved run run' hrun hset hk hcs hsafe =>
    rw [hcs] at hc
    have hb := hi.blocked c hc ho
    by_cases hkc : c.runId = run.runId
    · obtain ⟨r, hr, hs⟩ := hb
      rw [hkc, hrun] at hr
      cases hr
      exact absurd hkc (hsafe trivial hs c hc ho)
    · exact hb.of_sets hset (hk ▸ hkc)
  | @opened run record hset hs hk hcs =>
    have hnew : IsBlocked db' run.runId := ⟨_, hset.get?_self, rfl⟩
    rcases (Table.mem_insert hcs).1 hc with hc | rfl
    · by_cases hkc : c.runId = run.runId
      · rw [hkc]; exact hnew
      · exact (hi.blocked c hc ho).of_sets hset hkc
    · change IsBlocked db' record.runId
      rw [hk]
      exact hnew
  | @resolved run run' row record hrun hset hk hrow hs hr hcs hsafe =>
    rcases hcs.mem_iff.1 hc with rfl | ⟨hc, hne⟩
    · cases ho
    · refine (hi.blocked c hc ho).of_sets hset fun hkc => hne ?_
      exact hsafe trivial c hc ho (hkc.trans (hk.trans (Table.get?_key hrun)))
  | @settled run run' activityId now hrun hset hk hcs hsafe =>
    rw [hcs] at hc
    obtain ⟨x, hx, rfl⟩ := Table.mem_modifyAll.1 hc
    split at ho
    · cases ho
    · next hn =>
      rw [if_neg hn]
      refine (hi.blocked x hx ho).of_sets hset fun hkx => hn ?_
      have hrunx : x.runId = run.runId := hkx.trans hk
      simp [TerminalBudgetService.isOpenCase, hrunx, hsafe trivial x hx ho hrunx, ho]

theorem initial_cases : CaseInv Db.initial :=
  ⟨fun _ h => absurd h (Table.not_mem_empty _), fun _ h => absurd h (Table.not_mem_empty _)⟩

theorem reachable_cases (h : ReachableWhen E (fun db op => caseSafe db op = true) db) : CaseInv db := by
  refine Reaches.inv CaseInv initial_cases (fun _ _ _ hi hsafe he => ?_) h
  have hstep := exec_cases he
  rw [hsafe] at hstep
  exact CaseStep.inv (by simpa using hstep) hi

theorem ProvenanceService.verify_cases {exported : ProvenanceExport} (hi : CaseInv db)
    (h : exportRun E db runId = .ok exported) :
    "terminal_run_has_open_reconciliation" ∉ (verify E exported).errors := by
  obtain ⟨run, hr, hrun, -, -, hcases⟩ := exportRun_ok h
  have hterm : terminalReconciliationError exported.manifest = [] := by
    refine if_neg fun ⟨hs, hany⟩ => ?_
    rw [hcases, List.any_eq_true] at hany
    obtain ⟨record, hmem, ho⟩ := hany
    obtain ⟨c, hc, rfl⟩ := List.mem_map.1 hmem
    obtain ⟨hc, hk⟩ := List.mem_filter.1 hc
    simp only [decide_eq_true_eq] at ho hk
    obtain ⟨run', hrun', hb⟩ := hi.blocked c hc ((hi.columns c hc).1.symm.trans ho)
    rw [hk, hr] at hrun'
    cases hrun'
    rw [hrun, hb] at hs
    rcases hs with hs | hs | hs <;> cases hs
  intro herr
  rw [mem_errors, hterm] at herr
  rcases herr with herr | herr | herr | herr | herr
  · unfold manifestDigestError at herr
    split at herr <;> simp at herr
  · unfold eventSequenceError at herr
    split at herr <;> simp at herr
  · unfold lineageSequenceError at herr
    split at herr <;> simp at herr
  · unfold championError at herr
    split at herr
    · simp at herr
    · split at herr <;> simp at herr
  · cases herr

open ProvenanceService in
/-- Reconciliation blocks the run: in every run of calls that leave no open case
behind, the run of every open case is in `blocked_reconciliation`, and no export
is reported as ended with an open reconciliation. -/
theorem reconciliation_blocks {E : Env} {db : Db} (h : ReachableWhen E (fun db op => caseSafe db op = true) db) :
    (∀ c ∈ db.cases, c.state = .opened →
      ∃ run, db.runs.get? c.runId = some run ∧ run.state = .blockedReconciliation) ∧
    ∀ runId exported, exportRun E db runId = .ok exported →
      "terminal_run_has_open_reconciliation" ∉ (verify E exported).errors :=
  have hi := reachable_cases h
  ⟨hi.blocked, fun _ _ he => verify_cases hi he⟩

/-- Two claimed activities of one run, both sent to reconciliation. -/
def Sample.twoCases : List Op :=
  Sample.started "run" "tree" ++ Sample.claimed "run" "a" none ++ Sample.claimed "run" "b" none ++
    [Sample.disputed "a" "case-a", Sample.disputed "b" "case-b"]

theorem reconciliation_blocks_twoCases :
    (after Sample.env Sample.twoCases).cases.rows.map (·.state) = [.opened, .opened] ∧
      ∀ c ∈ (after Sample.env Sample.twoCases).cases, c.state = .opened →
        ∃ run, (after Sample.env Sample.twoCases).runs.get? c.runId = some run ∧ run.state = .blockedReconciliation :=
  ⟨by decide, (reconciliation_blocks (reachableWhen_after (by decide))).1⟩

/-- Failing the first case ends the run while the second is still open. -/
theorem resolution_leaves_open_case :
    ¬ ∀ E db, Reachable E db → ∀ c ∈ db.cases, c.state = .opened →
      ∃ run, db.runs.get? c.runId = some run ∧ run.state = .blockedReconciliation := by
  intro h
  let ops : List Op := Sample.twoCases ++ [Sample.resolved "case-a" .fail]
  have hcase : ∃ c ∈ (after Sample.env ops).cases.rows, c.state = .opened ∧ c.runId = "run" := by decide
  obtain ⟨c, hc, ho, hk⟩ := hcase
  obtain ⟨run, hrun, hs⟩ := h Sample.env (after Sample.env ops) (reachable_after (by decide)) c hc ho
  have hfailed : ((after Sample.env ops).runs.get? "run").map (·.state) = some .failed := by decide
  rw [← hk, hrun] at hfailed
  rw [Option.map_some, hs] at hfailed
  cases hfailed

end AvoCorrelate
