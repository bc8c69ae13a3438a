import AvoCorrelate.Services.Run
/-!
# What a committed run or artifact call leaves behind
-/
open AvoLib

namespace AvoCorrelate

/-- The events of a new run: the journal grew by the numbers 1 to `n`. -/
def JournalsFirst (db : Db) (runId : String) : Nat → Db → Prop
  | 0, db' => db'.events = db.events ∧ db'.outbox = db.outbox
  | n + 1, db' => ∃ d, JournalsFirst db runId n d ∧ d.Journals runId (n + 1) db'

theorem JournalsFirst.congr {db d d' : Db} {runId : String} {n : Nat} (h : JournalsFirst db runId n d)
    (he : d'.events = d.events) (ho : d'.outbox = d.outbox) : JournalsFirst db runId n d' := by
  cases n with
  | zero => exact ⟨he.trans h.1, ho.trans h.2⟩
  | succ n =>
    obtain ⟨d₀, h0, hj⟩ := h
    exact ⟨d₀, h0, by unfold Db.Journals at hj ⊢; rw [he, ho]; exact hj⟩

/-- The row of a run as `create_run` leaves it. -/
def createdRun (runId experimentId : String) (prepare : Bool) : RunRow :=
  if prepare then ⟨runId, experimentId, .ready, 3, 3, some (RunService.seedId runId)⟩
  else ⟨runId, experimentId, .created, 1, 1, some (RunService.seedId runId)⟩

@[simp] theorem createdRun_runId (runId experimentId : String) (prepare : Bool) :
    (createdRun runId experimentId prepare).runId = runId := by cases prepare <;> rfl

namespace RunService
open Db

variable {db db' : Db} {spec : ExperimentSpec} {digest recordId experimentId runId actorId : String} {E : Env}
  {key : Option String} {ids : CreateRunIds} {prepare : Bool}

theorem ensureExperiment_ok (h : ensureExperiment db spec digest = .ok db') :
    ∃ xs, db' = { db with experiments := xs } := by
  unfold ensureExperiment at h
  split at h
  · simp only [bind_ok, require_ok, exists_const, pure_ok] at h
    exact ⟨db.experiments, h.2.symm⟩
  · simp only [insertExperiment, bind_ok, insertRow_ok, pure_ok] at h
    obtain ⟨xs, -, rfl⟩ := h
    exact ⟨xs, rfl⟩

theorem createExperiment_ok {actorId : Option String}
    (h : createExperiment E db spec actorId key recordId = .ok (db', digest)) :
    ∃ xs is, db' = { db with experiments := xs, idempotency := is } := by
  simp only [createExperiment, bind_ok] at h
  obtain ⟨prior, -, h⟩ := h
  cases prior with
  | some _ => cases h; exact ⟨db.experiments, db.idempotency, rfl⟩
  | none =>
    simp only [bind_ok, pure_ok, Prod.mk.injEq] at h
    obtain ⟨_, hx, _, hi, rfl, -⟩ := h
    obtain ⟨xs, rfl⟩ := ensureExperiment_ok hx
    obtain ⟨is, rfl⟩ := recordIdempotency_ok hi
    exact ⟨xs, is, rfl⟩

def CreatesRows (db : Db) (runId : String) (run : RunRow) (db' : Db) : Prop :=
  ∃ seed digest lineageId limit,
    (∀ r ∈ db.runs, r.runId ≠ runId) ∧ db.runs.Sets run db'.runs ∧
    db.candidates.insert? ⟨seedId runId, runId, none, .seed, seed.sourceTreeDigest, digest, .seed seed⟩ =
      some db'.candidates ∧
    db.lineage.insert? ⟨lineageId, runId, 0, seedId runId, seed.sourceTreeDigest, none⟩ = some db'.lineage ∧
    db.ledgers.insert? ⟨runId, limit, .zero, .zero, 1⟩ = some db'.ledgers

theorem createRows_ok (h : createRows E db spec experimentId runId actorId ids = .ok db') : ∃ ns cs lin ls es os,
      db' = { db with runs := ns, candidates := cs, lineage := lin, ledgers := ls, events := es, outbox := os } ∧
      CreatesRows db runId (createdRun runId experimentId false) db' ∧ JournalsFirst db runId 1 db' := by
  simp only [createRows, insertRun, insertCandidate, insertLineage, insertLedger, bind_ok, insertRow_ok, pure_ok] at h
  obtain ⟨_, ⟨ns, ⟨-, hns⟩, rfl⟩, _, ⟨cs, ⟨-, hcs⟩, rfl⟩, _, ⟨lin, ⟨-, hlin⟩, rfl⟩, _, ⟨ls, ⟨-, hls⟩, rfl⟩, hev⟩ := h
  obtain ⟨es, os, rfl, hj⟩ := appendEvent_ok hev
  have h1 := Table.sets_insert hns
  have h2 : ns.Sets (createdRun runId experimentId false) _ :=
    Table.sets_modify (fun r : RunRow => { r with championId := some (seedId runId) }) (fun _ => rfl) h1.get?_self
  refine ⟨_, cs, lin, ls, es, os, rfl, ?_, ?_⟩
  · exact ⟨⟨seedId runId, runId, spec.sourceTreeDigest, spec.sourceRevision⟩, _, ids.lineageId, spec.budget,
      Table.insert?_fresh hns, h1.trans h2 rfl, hcs, hlin, hls⟩
  · exact ⟨db, ⟨rfl, rfl⟩, hj⟩

theorem prepareRows_ok (hr : db.runs.get? runId = some (createdRun runId experimentId false))
    (h : prepareRows db prepare runId actorId ids = .ok db') :
    ∃ ns es os, db' = { db with runs := ns, events := es, outbox := os } ∧
      db.runs.Sets (createdRun runId experimentId prepare) ns ∧
      ∀ d, JournalsFirst d runId 1 db → JournalsFirst d runId (createdRun runId experimentId prepare).eventSequence db' := by
  unfold prepareRows at h
  split at h
  · next hp =>
    subst hp
    simp only [bind_ok] at h
    obtain ⟨_, h1, h2⟩ := h
    obtain ⟨es, os, rfl, hj⟩ := appendEvent_ok h1
    obtain ⟨es', os', rfl, hj'⟩ := appendEvent_ok h2
    refine ⟨_, es', os', rfl, sets_updateRun (by intro; rfl) hr, fun d hd => ⟨_, ⟨_, hd, hj⟩, hj'⟩⟩
  · next hp =>
    cases h
    have hp : prepare = false := by simpa using hp
    subst hp
    exact ⟨db.runs, db.events, db.outbox, rfl, Table.sets_self hr, fun _ hd => hd⟩

theorem createRun_ok {runId : Option String} {id : String}
    (h : createRun E db experimentId actorId runId prepare key ids = .ok (db', id)) :
    db' = db ∨ ∃ runId run ns cs lin ls es os is,
      db' = { db with runs := ns, candidates := cs, lineage := lin, ledgers := ls, events := es, outbox := os,
                      idempotency := is } ∧
      run = createdRun runId experimentId prepare ∧ CreatesRows db runId run db' ∧
      JournalsFirst db runId run.eventSequence db' := by
  simp only [createRun, bind_ok] at h
  obtain ⟨prior, -, h⟩ := h
  cases prior with
  | some _ => cases h; exact .inl rfl
  | none =>
    simp only [bind_ok, orRaise_ok] at h
    obtain ⟨experiment, -, h⟩ := h
    split at h
    · simp only [bind_ok, require_ok, exists_const, pure_ok, Prod.mk.injEq] at h
      exact .inl h.2.1.symm
    · simp only [bind_ok, pure_ok, Prod.mk.injEq] at h
      obtain ⟨_, hc, _, hp, _, hi, rfl, -⟩ := h
      obtain ⟨ns, cs, lin, ls, es, os, rfl, ⟨seed, digest, lid, limit, hfresh, hset, hcs, hlin, hls⟩, hj⟩ :=
        createRows_ok hc
      have hrow : ns.get? (orDefault runId ids.runId) =
          some (createdRun (orDefault runId ids.runId) experimentId false) := hset.get?_self
      obtain ⟨ns', es', os', rfl, hset', hj'⟩ := prepareRows_ok hrow hp
      obtain ⟨is, rfl⟩ := recordIdempotency_ok hi
      exact .inr ⟨orDefault runId ids.runId, _, ns', cs, lin, ls, es', os', is, rfl, rfl,
        ⟨seed, digest, lid, limit, hfresh, hset.trans hset' (by rw [createdRun_runId, createdRun_runId]), hcs, hlin, hls⟩,
        (hj' db hj).congr rfl rfl⟩

theorem transition_ok {target : RunState} {expected : Option Nat} {reason scope : Option String} {ids : EventIds}
    {run' : RunRow} (h : transition E db runId target actorId expected reason key scope ids recordId = .ok (db', run')) :
    db' = db ∨ ∃ run ns es os is,
      db' = { db with runs := ns, events := es, outbox := os, idempotency := is } ∧
      db.runs.get? runId = some run ∧ target ∈ runTransitions run.state ∧
      db.Logs (bump run { run with state := target }) db' := by
  simp only [transition, bind_ok] at h
  obtain ⟨prior, -, h⟩ := h
  cases prior with
  | some _ =>
    simp only [bind_ok, orRaise_ok, pure_ok, Prod.mk.injEq] at h
    obtain ⟨_, -, rfl, -⟩ := h
    exact .inl rfl
  | none =>
    simp only [bind_ok, orRaise_ok, requireRunTransition_ok, require_ok, exists_const, pure_ok, Prod.mk.injEq] at h
    obtain ⟨run, hr, ht, -, _, hev, _, hi, rfl, -⟩ := h
    obtain ⟨es, os, rfl, hj⟩ := appendEvent_ok hev
    obtain ⟨is, rfl⟩ := recordIdempotency_ok hi
    have hk := Table.get?_key hr
    subst hk
    let changed (r : RunRow) : RunRow :=
      { r with state := target, revision := run.revision + 1, eventSequence := run.eventSequence + 1 }
    have hset : db.runs.Sets (changed run) _ := Table.sets_modify changed (fun _ => rfl) hr
    exact .inr ⟨run, _, es, os, is, rfl, hr, ht, hset, hj⟩

end RunService

namespace ArtifactService
open Db

theorem ensureMetadata_ok {db db' : Db} {reference : StoredBytes} (h : ensureMetadata db reference = .ok db') :
    ∃ as, db' = { db with artifacts := as } := by
  unfold ensureMetadata at h
  split at h
  · simp only [insertArtifact, bind_ok, insertRow_ok, pure_ok] at h
    obtain ⟨as, -, rfl⟩ := h
    exact ⟨as, rfl⟩
  · simp only [bind_ok, require_ok, exists_const, pure_ok] at h
    exact ⟨db.artifacts, h.2.symm⟩

theorem putBytes_ok {db db' : Db} {reference : StoredBytes} {runId ownerType ownerId retention actorId id : String}
    {ids : EventIds} (h : putBytes db reference runId ownerType ownerId retention actorId id ids = .ok db') :
    (∃ as, db' = { db with artifacts := as }) ∨ ∃ run as refs ns es os,
      db' = { db with artifacts := as, artifactReferences := refs, runs := ns, events := es, outbox := os } ∧
      db.runs.get? run.runId = some run ∧ db.Logs (bump run run) db' := by
  simp only [putBytes, bind_ok, orRaise_ok] at h
  obtain ⟨run, hrun, _, hm, h⟩ := h
  obtain ⟨as, rfl⟩ := ensureMetadata_ok hm
  have hr : db.runs.get? run.runId = some run := Table.get?_self hrun
  split at h
  · exact .inl ⟨as, (pure_ok.1 h).symm⟩
  · simp only [insertArtifactReference, bind_ok, insertRow_ok, pure_ok] at h
    obtain ⟨_, ⟨refs, -, rfl⟩, hev⟩ := h
    obtain ⟨ns, es, os, rfl, hlog⟩ := appendNextEvent_ok hev (r := run) hr
    exact .inr ⟨run, as, refs, ns, es, os, rfl, hr, hlog⟩

end ArtifactService

end AvoCorrelate
