import AvoCorrelate.Writes
/-!
# The event journal

Every call that journals advances the run's two counters by one and appends the
event with the new number; `create_run` writes the first one or three by hand.
`JournalStep` says so once, for every call, together with what the call does to
the lineage and to the run's row. The journal's integrity, and that
`ProvenanceService.verify` finds it, follow for every run of calls.
-/
open AvoLib

namespace AvoCorrelate

/-- What a committed call can do to the runs, the journal and the lineage. -/
inductive JournalStep (db db' : Db) : Prop
  | quiet (hr : db'.runs = db.runs) (he : db'.events = db.events) (ho : db'.outbox = db.outbox)
    (hl : db'.lineage = db.lineage)
  | logged {run : RunRow} {state : RunState} (hrun : db.runs.get? run.runId = some run)
    (hs : state = run.state ∨ state ∈ runTransitions run.state)
    (hlog : db.Logs (Db.bump run { run with state := state }) db') (hl : db'.lineage = db.lineage)
  | extended {run : RunRow} (entry : LineageRow) (hrun : db.runs.get? run.runId = some run)
    (hstate : run.state = .running) (hentry : entry.runId = run.runId)
    (hseq : entry.sequence = EvidenceService.nextLineage db run.runId)
    (hlog : db.Logs (EvidenceService.admittedRun run entry.candidateId) db')
    (hl : db.lineage.insert? entry = some db'.lineage)
  | created {run : RunRow} (entry : LineageRow) {experimentId : String} {prepare : Bool}
    (hrun : run = createdRun run.runId experimentId prepare) (hfresh : ∀ r ∈ db.runs, r.runId ≠ run.runId)
    (hset : db.runs.Sets run db'.runs) (hj : JournalsFirst db run.runId run.eventSequence db')
    (hentry : entry.runId = run.runId) (hseq : entry.sequence = 0) (hch : run.championId = some entry.candidateId)
    (hl : db.lineage.insert? entry = some db'.lineage)

variable {E : Env} {db db' : Db} {k : String} {run : RunRow}

/-- The calls that leave the state of every run as it was. -/
def Op.keepsRuns : Op → Bool
  | .createRun .. | .transition .. | .markReconciliationRequired .. | .openReconciliation ..
  | .resolveReconciliation .. | .settleExhaustedVariation .. | .commitAdmission .. => false
  | _ => true

theorem exec_bumps {op : Op} (h : exec E db op = .ok db') (hop : op.keepsRuns = true) :
    (db'.runs = db.runs ∧ db'.events = db.events ∧ db'.outbox = db.outbox) ∨
      ∃ run, db.runs.get? run.runId = some run ∧ db.Logs (Db.bump run run) db' := by
  have same := exec_frame h
  cases op <;> simp only [exec, map_ok, Prod.exists, exists_and_right, exists_eq_right] at h <;>
    first | exact Bool.noConfusion (show false = true from hop) | skip
  case reserve =>
    obtain ⟨_, h⟩ := h
    obtain rfl | ⟨_, run, _, _, _, _, _, _, rfl, -, hr, -, -, -, hlog⟩ := BudgetService.reserve_ok h
    · exact .inl ⟨rfl, rfl, rfl⟩
    · exact .inr ⟨run, Table.get?_self hr, hlog⟩
  case completeReservation =>
    obtain rfl | ⟨_, _, run, _, _, _, _, _, _, _, rfl, -, -, -, hr, -, -, -, -, hlog⟩ := BudgetService.complete_ok h
    · exact .inl ⟨rfl, rfl, rfl⟩
    · exact .inr ⟨run, Table.get?_self hr, hlog⟩
  case observe =>
    obtain ⟨_, run, _, _, _, _, rfl, -, -, hr, -, hlog⟩ := BudgetService.observe_ok h
    exact .inr ⟨run, Table.get?_self hr, hlog⟩
  case holdForReconciliation =>
    obtain rfl | ⟨_, run, _, _, _, _, rfl, -, -, hr, -, hlog⟩ := BudgetService.holdForReconciliation_ok h
    · exact .inl ⟨rfl, rfl, rfl⟩
    · exact .inr ⟨run, Table.get?_self hr, hlog⟩
  case release =>
    obtain rfl | ⟨_, _, run, _, _, _, _, _, _, _, rfl, -, -, -, hr, -, -, -, hlog⟩ := BudgetService.release_ok h
    · exact .inl ⟨rfl, rfl, rfl⟩
    · exact .inr ⟨run, Table.get?_self hr, hlog⟩
  case enqueueActivity =>
    obtain ⟨_, h⟩ := h
    obtain rfl | ⟨run, _, _, _, _, rfl, hr, hlog⟩ := ActivityService.enqueue_ok h
    · exact .inl ⟨rfl, rfl, rfl⟩
    · exact .inr ⟨run, hr, hlog⟩
  case claimNext =>
    obtain ⟨_, h⟩ := h
    obtain rfl | ⟨run, _, _, _, _, rfl, hr, hlog⟩ := ActivityService.claimNext_ok h
    · exact .inl ⟨rfl, rfl, rfl⟩
    · exact .inr ⟨run, hr, hlog⟩
  case completeActivity =>
    obtain rfl | ⟨run, _, _, _, _, rfl, hr, hlog⟩ := ActivityService.complete_ok h
    · exact .inl ⟨rfl, rfl, rfl⟩
    · exact .inr ⟨run, hr, hlog⟩
  case putBytes =>
    obtain ⟨_, rfl⟩ | ⟨run, _, _, _, _, _, rfl, hr, hlog⟩ := ArtifactService.putBytes_ok h
    · exact .inl ⟨rfl, rfl, rfl⟩
    · exact .inr ⟨run, hr, hlog⟩
  all_goals exact .inl ⟨same .runs rfl, same .events rfl, same .outbox rfl⟩

theorem exec_journal {op : Op} (h : exec E db op = .ok db') : JournalStep db db' := by
  have same := exec_frame h
  have bumps := exec_bumps h
  cases op <;> simp only [exec, map_ok, Prod.exists, exists_and_right, exists_eq_right] at h
  case createRun =>
    obtain ⟨_, h⟩ := h
    obtain rfl | ⟨runId, run, ns, cs, lin, ls, es, os, is, rfl, rfl, ⟨seed, _, lid, _, hfresh, hset, -, hlin, -⟩, hj⟩ :=
      RunService.createRun_ok h
    · exact .quiet rfl rfl rfl rfl
    · refine .created ⟨lid, runId, 0, RunService.seedId runId, seed.sourceTreeDigest, none⟩
        (by rw [createdRun_runId]) (by simpa using hfresh) hset (by rw [createdRun_runId]; exact hj) (by simp) rfl ?_ hlin
      unfold createdRun
      split <;> rfl
  case transition =>
    obtain ⟨_, h⟩ := h
    obtain rfl | ⟨run, ns, es, os, is, rfl, hr, ht, hlog⟩ := RunService.transition_ok h
    · exact .quiet rfl rfl rfl rfl
    · exact .logged (Table.get?_self hr) (.inr ht) hlog rfl
  case markReconciliationRequired =>
    obtain ⟨run, _, _, _, _, _, _, _, _, rfl, hr, hs, -, -, -, -, hlog⟩ :=
      ActivityService.markReconciliationRequired_ok h
    exact .logged hr (hs.imp_left Eq.symm) hlog rfl
  case openReconciliation =>
    obtain ⟨_, h⟩ := h
    obtain rfl | ⟨run, _, _, _, _, _, _, _, _, rfl, hr, hs, -, -, -, -, hlog⟩ := RuntimeService.openReconciliation_ok h
    · exact .quiet rfl rfl rfl rfl
    · exact .logged hr (hs.imp_left Eq.symm) hlog rfl
  case resolveReconciliation =>
    obtain ⟨_, h⟩ := h
    obtain rfl | ⟨_, run, _, _, _, _, _, _, _, _, rfl, -, -, hr, ht, -, -, -, -, hlog⟩ :=
      RuntimeService.resolveReconciliation_ok h
    · exact .quiet rfl rfl rfl rfl
    · exact .logged (Table.get?_self hr) (.inr ht) hlog rfl
  case settleExhaustedVariation =>
    obtain ⟨run, activity, reservation, ledger, hctx, hcase⟩ := TerminalBudgetService.settleExhaustedVariation_ok h
    have hr : db.runs.get? run.runId = some run := Table.get?_self hctx.run_row
    obtain rfl | ⟨-, -, _, _, _, rfl, hlog⟩ | ⟨-, _, _, _, _, _, _, _, _, _, _, _, _, rfl, -, -, -, hs, -, -, -, hlog⟩ := hcase
    · exact .quiet rfl rfl rfl rfl
    · exact .logged hr (.inl rfl) hlog rfl
    · exact .logged hr (hs.imp_left Eq.symm) hlog rfl
  case commitAdmission =>
    obtain ⟨_, h⟩ := h
    obtain ⟨rfl, -⟩ | ⟨run, c, _, _, _, -, hr, -, -, -, -, -, -, ⟨-, rfl⟩ | ⟨-, -, lid, _, _, _, _, rfl, hstate, hlin, -, hlog⟩⟩ :=
      EvidenceService.commitAdmission_ok h
    · exact .quiet rfl rfl rfl rfl
    · exact .quiet rfl rfl rfl rfl
    · exact .extended ⟨lid, run.runId, _, c.candidateId, c.sourceTreeDigest, _⟩ (Table.get?_self hr)
        hstate rfl rfl hlog hlin
  all_goals
    obtain ⟨hr, he, ho⟩ | ⟨run, hr, hlog⟩ := bumps rfl
    · exact .quiet hr he ho (same .lineage rfl)
    · exact .logged hr (.inl rfl) hlog (same .lineage rfl)

theorem JournalStep.final {state : RunState} (hs : ∀ t, t ∉ runTransitions state) (h : JournalStep db db')
    (hf : ∃ run, db.runs.get? k = some run ∧ run.state = state) :
    ∃ run, db'.runs.get? k = some run ∧ run.state = state := by
  obtain ⟨r, hr, rfl⟩ := hf
  cases h with
  | quiet hruns _ _ _ => exact ⟨r, hruns ▸ hr, rfl⟩
  | @logged run state hrun hst hlog _ =>
    by_cases hk : k = run.runId
    · subst hk
      have he : r = run := Option.some.inj (hr.symm.trans hrun)
      subst he
      refine ⟨_, hlog.1.get?_self, ?_⟩
      rcases hst with hst | hst
      · exact hst
      · exact absurd hst (hs _)
    · exact ⟨r, (hlog.1.get?_ne hk).trans hr, rfl⟩
  | @extended run entry hrun hstate _ _ hlog _ =>
    have hk : k ≠ run.runId := by
      rintro rfl
      have he : r = run := Option.some.inj (hr.symm.trans hrun)
      refine hs .completed ?_
      rw [he, hstate]
      decide
    exact ⟨r, (hlog.1.get?_ne hk).trans hr, rfl⟩
  | @created run entry _ _ _ hfresh hset _ _ _ _ _ =>
    have hk : k ≠ run.runId := by
      rintro rfl
      exact hfresh r (Table.get?_mem hr) (Table.get?_key hr)
    exact ⟨r, (hset.get?_ne hk).trans hr, rfl⟩

/-! ## Integrity -/

def eventsOf (db : Db) (runId : String) : List EventRow := db.events.rows.filter fun e => e.runId = runId

def lineageOf (db : Db) (runId : String) : List LineageRow := db.lineage.rows.filter fun l => l.runId = runId

/-- Journal integrity of one run: its events are numbered from 1 to its
`event_sequence`, which is its `revision`, its lineage entries from 0 on, and
its champion is the candidate of the last entry. -/
structure RunIntegrity (db : Db) (run : RunRow) : Prop where
  events_numbered : (eventsOf db run.runId).map (·.sequence) = List.range' 1 run.eventSequence
  revision_eq : run.revision = run.eventSequence
  lineage_numbered : (lineageOf db run.runId).map (·.sequence) = List.range (lineageOf db run.runId).length
  champion_last : ∃ entry, (lineageOf db run.runId).getLast? = some entry ∧ run.championId = some entry.candidateId

/-- Each event is published by exactly one outbox row. -/
def Published (db : Db) : Prop :=
  ∀ e ∈ db.events, ∃ o ∈ db.outbox, o.eventId = e.eventId ∧ ∀ o' ∈ db.outbox, o'.eventId = e.eventId → o' = o

/-- Events and lineage entries belong to runs. -/
def Rooted (db : Db) : Prop :=
  (∀ e ∈ db.events, ∃ run ∈ db.runs, run.runId = e.runId) ∧ ∀ l ∈ db.lineage, ∃ run ∈ db.runs, run.runId = l.runId

structure JournalInv (db : Db) : Prop where
  integrity : ∀ run ∈ db.runs, RunIntegrity db run
  published : Published db
  rooted : Rooted db

theorem filter_insert {α κ : Type} [DecidableEq κ] {key : α → κ} {t t' : Table key} {x : α}
    (h : t.insert? x = some t') (p : α → Bool) :
    t'.rows.filter p = t.rows.filter p ++ if p x then [x] else [] := by
  rw [Table.insert?_rows h, List.filter_append]
  by_cases hp : p x <;> simp [hp]

section Appended
variable {db db' : Db} {runId : String} {n : Nat}

theorem Db.Journals.eventsOf_self (h : db.Journals runId n db') :
    (eventsOf db' runId).map (·.sequence) = (eventsOf db runId).map (·.sequence) ++ [n] := by
  obtain ⟨e, o, hr, hs, -, he, -⟩ := h
  unfold eventsOf
  rw [filter_insert he]
  simp [hr, hs]

theorem Db.Journals.eventsOf_ne (h : db.Journals runId n db') {k : String} (hk : k ≠ runId) :
    eventsOf db' k = eventsOf db k := by
  obtain ⟨e, o, hr, hs, -, he, -⟩ := h
  unfold eventsOf
  rw [filter_insert he]
  simp [hr, hk.symm]

theorem Db.Journals.published (h : db.Journals runId n db') (hp : Published db) : Published db' := by
  obtain ⟨e, o, -, -, ho, he, hob, hfresh⟩ := h
  intro x hx
  rcases (Table.mem_insert he).1 hx with hx | rfl
  · obtain ⟨y, hy, hxy, huniq⟩ := hp x hx
    refine ⟨y, (Table.mem_insert hob).2 (.inl hy), hxy, fun y' hy' hk => ?_⟩
    rcases (Table.mem_insert hob).1 hy' with hy' | rfl
    · exact huniq y' hy' hk
    · exact absurd (hk.symm.trans ho) (Table.insert?_fresh he x hx)
  · refine ⟨o, (Table.mem_insert hob).2 (.inr rfl), ho, fun y' hy' hk => ?_⟩
    rcases (Table.mem_insert hob).1 hy' with hy' | rfl
    · exact absurd hk (hfresh y' hy')
    · rfl

theorem Db.Journals.mem_events (h : db.Journals runId n db') {x : EventRow} (hx : x ∈ db'.events) :
    x ∈ db.events ∨ x.runId = runId := by
  obtain ⟨e, o, hr, -, -, he, -⟩ := h
  rcases (Table.mem_insert he).1 hx with hx | rfl
  · exact .inl hx
  · exact .inr hr

end Appended

section First
variable {db db' : Db} {runId : String} {n : Nat}

theorem JournalsFirst.eventsOf_self (h : JournalsFirst db runId n db') :
    (eventsOf db' runId).map (·.sequence) = (eventsOf db runId).map (·.sequence) ++ List.range' 1 n := by
  induction n generalizing db' with
  | zero => unfold eventsOf; rw [h.1]; simp
  | succ n ih =>
    obtain ⟨d, hd, hj⟩ := h
    rw [hj.eventsOf_self, ih hd, List.range'_1_concat, List.append_assoc, Nat.add_comm 1 n]

theorem JournalsFirst.eventsOf_ne (h : JournalsFirst db runId n db') {k : String} (hk : k ≠ runId) :
    eventsOf db' k = eventsOf db k := by
  induction n generalizing db' with
  | zero => unfold eventsOf; rw [h.1]
  | succ n ih =>
    obtain ⟨d, hd, hj⟩ := h
    rw [hj.eventsOf_ne hk, ih hd]

theorem JournalsFirst.published (h : JournalsFirst db runId n db') (hp : Published db) : Published db' := by
  induction n generalizing db' with
  | zero =>
    unfold Published
    rw [h.1, h.2]
    exact hp
  | succ n ih =>
    obtain ⟨d, hd, hj⟩ := h
    exact hj.published (ih hd)

theorem JournalsFirst.mem_events (h : JournalsFirst db runId n db') {x : EventRow} (hx : x ∈ db'.events) :
    x ∈ db.events ∨ x.runId = runId := by
  induction n generalizing db' with
  | zero => rw [h.1] at hx; exact .inl hx
  | succ n ih =>
    obtain ⟨d, hd, hj⟩ := h
    exact (hj.mem_events hx).elim (ih hd) .inr

end First

theorem lineageOf_insert {entry : LineageRow} (h : db.lineage.insert? entry = some db'.lineage) (k : String) :
    lineageOf db' k = lineageOf db k ++ if entry.runId = k then [entry] else [] := by
  unfold lineageOf
  rw [filter_insert h]
  simp

theorem nextLineage_eq {runId : String}
    (h : (lineageOf db runId).map (·.sequence) = List.range (lineageOf db runId).length) :
    EvidenceService.nextLineage db runId = (lineageOf db runId).length := by
  have hfold : ∀ n, (List.range n).foldl (fun m s => max m (s + 1)) 0 = n := by
    intro n
    induction n with
    | zero => rfl
    | succ n ih => rw [List.range_succ, List.foldl_append, ih]; simp
  have hmap : EvidenceService.nextLineage db runId =
      ((lineageOf db runId).map (·.sequence)).foldl (fun m s => max m (s + 1)) 0 := by
    rw [List.foldl_map]
    rfl
  rw [hmap, h, hfold]

theorem RunIntegrity.congr (h : RunIntegrity db run) (he : eventsOf db' run.runId = eventsOf db run.runId)
    (hl : lineageOf db' run.runId = lineageOf db run.runId) : RunIntegrity db' run := by
  obtain ⟨h1, h2, h3, h4⟩ := h
  exact ⟨he ▸ h1, h2, hl ▸ h3, hl ▸ h4⟩

theorem exists_run_of_sets {t t' : Table RunRow.runId} (h : t.Sets run t') (hk : ∃ r ∈ t, r.runId = k) :
    ∃ r ∈ t', r.runId = k := by
  obtain ⟨r, hr, rfl⟩ := hk
  by_cases hn : r.runId = run.runId
  · exact ⟨run, h.mem_iff.2 (.inl rfl), hn.symm⟩
  · exact ⟨r, h.mem_iff.2 (.inr ⟨hr, hn⟩), rfl⟩

theorem numbered_append {l : List LineageRow} {x : LineageRow} (h : l.map (·.sequence) = List.range l.length)
    (hx : x.sequence = l.length) : (l ++ [x]).map (·.sequence) = List.range (l ++ [x]).length := by
  rw [List.map_append, h, List.length_append, List.length_singleton, List.range_succ]
  simp [hx]

theorem JournalStep.inv (h : JournalStep db db') (hi : JournalInv db) : JournalInv db' := by
  obtain ⟨hint, hpub, hroot⟩ := hi
  cases h with
  | quiet hr he ho hl =>
    refine ⟨fun run hrun => (hint run (hr ▸ hrun)).congr (by unfold eventsOf; rw [he]) (by unfold lineageOf; rw [hl]), ?_, ?_⟩
    · unfold Published; rw [he, ho]; exact hpub
    · unfold Rooted; rw [he, hl, hr]; exact hroot
  | @logged run state hrun hs hlog hl =>
    obtain ⟨hset, hj⟩ := hlog
    have hlin (k : String) : lineageOf db' k = lineageOf db k := by unfold lineageOf; rw [hl]
    refine ⟨fun x hx => ?_, hj.published hpub, fun e he => ?_, fun l hl' => ?_⟩
    · rcases hset.mem_iff.1 hx with rfl | ⟨hx, hne⟩
      · -- The run that logged: one more event, under the next number.
        obtain ⟨h1, h2, h3, h4⟩ := hint run (Table.get?_mem hrun)
        refine ⟨?_, ?_, ?_, ?_⟩
        · rw [hj.eventsOf_self]
          change (eventsOf db run.runId).map _ ++ [run.eventSequence + 1] = List.range' 1 (run.eventSequence + 1)
          rw [h1, List.range'_1_concat, Nat.add_comm 1]
        · change run.revision + 1 = run.eventSequence + 1
          rw [h2]
        · rw [hlin]; exact h3
        · rw [hlin]; exact h4
      · exact (hint x hx).congr (hj.eventsOf_ne hne) (hlin _)
    · rcases hj.mem_events he with he | he
      · exact exists_run_of_sets hset (hroot.1 e he)
      · exact ⟨_, hset.mem_iff.2 (.inl rfl), he.symm⟩
    · rw [hl] at hl'
      exact exists_run_of_sets hset (hroot.2 l hl')
  | @extended run entry hrun hstate hentry hseq hlog hl =>
    obtain ⟨hset, hj⟩ := hlog
    refine ⟨fun x hx => ?_, hj.published hpub, fun e he => ?_, fun l hl' => ?_⟩
    · rcases hset.mem_iff.1 hx with rfl | ⟨hx, hne⟩
      · -- The run that admitted: one more event and one more entry, its champion.
        obtain ⟨h1, h2, h3, -⟩ := hint run (Table.get?_mem hrun)
        have hlin : lineageOf db' run.runId = lineageOf db run.runId ++ [entry] := by
          rw [lineageOf_insert hl, if_pos hentry]
        refine ⟨?_, ?_, ?_, entry, ?_, rfl⟩
        · rw [hj.eventsOf_self]
          change (eventsOf db run.runId).map _ ++ [run.eventSequence + 1] = List.range' 1 (run.eventSequence + 1)
          rw [h1, List.range'_1_concat, Nat.add_comm 1]
        · change run.revision + 1 = run.eventSequence + 1
          rw [h2]
        · change (lineageOf db' run.runId).map _ = List.range (lineageOf db' run.runId).length
          rw [hlin]
          exact numbered_append h3 (hseq.trans (nextLineage_eq h3))
        · change (lineageOf db' run.runId).getLast? = some entry
          rw [hlin, List.getLast?_append]
          rfl
      · have hne' : entry.runId ≠ x.runId := fun hk => hne (hk.symm.trans hentry)
        refine (hint x hx).congr (hj.eventsOf_ne hne) ?_
        rw [lineageOf_insert hl, if_neg hne', List.append_nil]
    · rcases hj.mem_events he with he | he
      · exact exists_run_of_sets hset (hroot.1 e he)
      · exact ⟨_, hset.mem_iff.2 (.inl rfl), he.symm⟩
    · rcases (Table.mem_insert hl).1 hl' with hl' | rfl
      · exact exists_run_of_sets hset (hroot.2 l hl')
      · exact ⟨_, hset.mem_iff.2 (.inl rfl), hentry.symm⟩
  | @created run entry experimentId prepare hrun hfresh hset hj hentry hseq hch hl =>
    have hnone : ∀ r ∈ db.runs, r.runId = run.runId → False := fun r hr => hfresh r hr
    refine ⟨fun x hx => ?_, hj.published hpub, fun e he => ?_, fun l hl' => ?_⟩
    · rcases hset.mem_iff.1 hx with rfl | ⟨hx, hne⟩
      · -- The new run: nothing was journaled under its identifier before.
        have hev : eventsOf db x.runId = [] := by
          refine List.filter_eq_nil_iff.2 fun e he hk => ?_
          obtain ⟨r, hr, hre⟩ := hroot.1 e he
          exact hnone r hr (hre.trans (by simpa using hk))
        have hln : lineageOf db x.runId = [] := by
          refine List.filter_eq_nil_iff.2 fun l hl hk => ?_
          obtain ⟨r, hr, hrl⟩ := hroot.2 l hl
          exact hnone r hr (hrl.trans (by simpa using hk))
        have hlin : lineageOf db' x.runId = [entry] := by
          rw [lineageOf_insert hl, if_pos hentry, hln, List.nil_append]
        refine ⟨?_, ?_, ?_, entry, ?_, hch⟩
        · rw [hj.eventsOf_self, hev]; rfl
        · rw [hrun]; unfold createdRun; split <;> rfl
        · rw [hlin]; simp [hseq]
        · rw [hlin]; rfl
      · have hne' : entry.runId ≠ x.runId := fun hk => hne (hk.symm.trans hentry)
        refine (hint x hx).congr (hj.eventsOf_ne hne) ?_
        rw [lineageOf_insert hl, if_neg hne', List.append_nil]
    · rcases hj.mem_events he with he | he
      · exact exists_run_of_sets hset (hroot.1 e he)
      · exact ⟨_, hset.mem_iff.2 (.inl rfl), he.symm⟩
    · rcases (Table.mem_insert hl).1 hl' with hl' | rfl
      · exact exists_run_of_sets hset (hroot.2 l hl')
      · exact ⟨_, hset.mem_iff.2 (.inl rfl), hentry.symm⟩

theorem initial_journal : JournalInv Db.initial where
  integrity _ h := absurd h (Table.not_mem_empty _)
  published _ h := absurd h (Table.not_mem_empty _)
  rooted := ⟨fun _ h => absurd h (Table.not_mem_empty _), fun _ h => absurd h (Table.not_mem_empty _)⟩

theorem reachable_journal (h : Reachable E db) : JournalInv db :=
  Reaches.inv JournalInv initial_journal (fun _ _ _ hi _ he => (exec_journal he).inv hi) h

/-! ## Verification of an export -/

namespace ProvenanceService

theorem mergeSort_numbered {α : Type} {l : List α} {f : α → Nat} {s n : Nat} (h : l.map f = List.range' s n) :
    l.mergeSort (fun a b => f a ≤ f b) = l := by
  apply List.mergeSort_of_pairwise
  have hp : (l.map f).Pairwise (· ≤ ·) := by
    rw [h]
    exact List.pairwise_le_range'
  simpa [List.pairwise_map] using hp

variable {E : Env} {db : Db} {runId : String} {exported : ProvenanceExport}

theorem exportRun_ok (h : exportRun E db runId = .ok exported) :
    ∃ run, db.runs.get? runId = some run ∧ exported.manifest.run = run ∧
      exported.manifest.events = (eventsOf db runId).mergeSort (fun a b => a.sequence ≤ b.sequence) ∧
      exported.manifest.lineage = (lineageOf db runId).mergeSort (fun a b => a.sequence ≤ b.sequence) ∧
      exported.manifest.reconciliations = (db.cases.rows.filter fun c => c.runId = runId).map (·.record) := by
  simp only [exportRun, bind_ok, orRaise_ok, pure_ok] at h
  obtain ⟨run, hr, _, -, _, -, rfl⟩ := h
  exact ⟨run, hr, rfl, rfl, rfl, rfl⟩

theorem mem_errors {msg : String} :
    msg ∈ (verify E exported).errors ↔ msg ∈ manifestDigestError E exported ∨ msg ∈ eventSequenceError exported.manifest ∨
      msg ∈ lineageSequenceError exported.manifest ∨ msg ∈ championError exported.manifest ∨
      msg ∈ terminalReconciliationError exported.manifest := by
  simp [verify]

theorem verify_journal (hi : JournalInv db) (h : exportRun E db runId = .ok exported) :
    ∀ msg ∈ ["event_sequence_gap", "lineage_sequence_gap", "champion_lineage_mismatch"],
      msg ∉ (verify E exported).errors := by
  obtain ⟨run, hr, hrun, hev, hlin, -⟩ := exportRun_ok h
  have hk : run.runId = runId := Table.get?_key hr
  obtain ⟨h1, -, h3, entry, hlast, hch⟩ := hi.integrity run (Table.get?_mem hr)
  rw [hk] at h1 h3 hlast
  rw [mergeSort_numbered h1] at hev
  rw [mergeSort_numbered (h3.trans List.range_eq_range')] at hlin
  have e1 : eventSequenceError exported.manifest = [] := by
    have hlen : (eventsOf db runId).length = run.eventSequence := by
      simpa using congrArg List.length h1
    rw [eventSequenceError, hev, if_pos (by rw [h1, hlen])]
  have e2 : lineageSequenceError exported.manifest = [] := by
    rw [lineageSequenceError, hlin, if_pos h3]
  have e3 : championError exported.manifest = [] := by
    rw [championError, hlin, hlast, hrun]
    exact if_pos hch
  intro msg hmsg herr
  rw [mem_errors, e1, e2, e3] at herr
  have h0 : msg ∉ manifestDigestError E exported := by
    unfold manifestDigestError
    split
    · exact List.not_mem_nil
    · intro hm
      rw [List.mem_singleton.1 hm] at hmsg
      revert hmsg
      decide
  have h5 : msg ∉ terminalReconciliationError exported.manifest := by
    unfold terminalReconciliationError
    split
    · intro hm
      rw [List.mem_singleton.1 hm] at hmsg
      revert hmsg
      decide
    · exact List.not_mem_nil
  simp [h0, h5] at herr

end ProvenanceService

open ProvenanceService in
/-- Journal integrity of every reachable database: each run's events carry
exactly the numbers from 1 to its `event_sequence`, which equals its `revision`,
each event is published once, the lineage is numbered from 0 and ends in the
champion; so no export fails one of the three journal checks. -/
theorem journal_integrity {E : Env} {db : Db} (h : Reachable E db) :
    (∀ run ∈ db.runs, RunIntegrity db run) ∧ Published db ∧
      ∀ runId exported, exportRun E db runId = .ok exported →
        ∀ msg ∈ ["event_sequence_gap", "lineage_sequence_gap", "champion_lineage_mismatch"],
          msg ∉ (verify E exported).errors :=
  have hi := reachable_journal h
  ⟨hi.integrity, hi.published, fun _ _ he => verify_journal hi he⟩

theorem journal_integrity_started :
    (after Sample.env (Sample.started "run" "tree")).runs.rows.map (·.eventSequence) = [4] ∧
      ∀ run ∈ (after Sample.env (Sample.started "run" "tree")).runs,
        RunIntegrity (after Sample.env (Sample.started "run" "tree")) run :=
  ⟨by decide, (journal_integrity (reachable_after (by decide))).1⟩

end AvoCorrelate
