import AvoCorrelate.Persistence
/-!
# Experiments, runs and artifacts

`RunService` and the committing half of `ArtifactService`. Identifiers drawn
with `uuid4` are arguments; one that is already taken violates a primary key
and raises.
-/
open AvoLib

namespace AvoCorrelate

/-- `value or default` on an optional string: the empty string is false. -/
def orDefault (value : Option String) (default : String) : String :=
  match value with
  | some s => if s = "" then default else s
  | none => default

/-! ## Idempotency records -/

/-- `_check_idempotency`, made only when the caller sent a key. -/
def checkIdempotency (db : Db) (actorId endpointScope : String) (idempotencyKey : Option String)
    (requestDigest : String) : Except Err (Option String) :=
  match idempotencyKey with
  | none => .ok none
  | some key =>
    match db.idempotency.find? (fun r => r.actorId = actorId ∧ r.endpointScope = endpointScope ∧
      r.idempotencyKey = key) with
    | none => .ok none
    | some record => do
      require (record.requestDigest = requestDigest)
        ⟨.revisionConflict, "idempotency key was already used for a different request"⟩
      return some record.resourceId

/-- `_record_idempotency`, made only when the caller sent a key. -/
def recordIdempotency (db : Db) (actorId endpointScope : String) (idempotencyKey : Option String)
    (requestDigest resourceId recordId : String) : Except Err Db :=
  match idempotencyKey with
  | none => .ok db
  | some key => db.insertIdempotency ⟨recordId, actorId, endpointScope, key, requestDigest, resourceId⟩

theorem recordIdempotency_ok {db db' : Db} {actorId scope : String} {key : Option String} {digest resource id : String}
    (h : recordIdempotency db actorId scope key digest resource id = .ok db') :
    ∃ t, db' = { db with idempotency := t } := by
  unfold recordIdempotency at h
  split at h
  · cases h; exact ⟨db.idempotency, rfl⟩
  · simp only [Db.insertIdempotency, bind_ok, insertRow_ok, pure_ok] at h
    obtain ⟨t, -, rfl⟩ := h
    exact ⟨t, rfl⟩

namespace RunService

/-- Reuse the stored experiment, which must have this spec, or store it. -/
def ensureExperiment (db : Db) (spec : ExperimentSpec) (digest : String) : Except Err Db :=
  match db.experiments.get? spec.experimentId with
  | some existing => do
    require (existing.specDigest = digest)
      ⟨.duplicateExperiment, "experiment_id already refers to a different immutable spec"⟩
    return db
  | none => db.insertExperiment ⟨spec.experimentId, digest, spec⟩

def createExperiment (E : Env) (db : Db) (spec : ExperimentSpec) (actorId idempotencyKey : Option String)
    (recordId : String) : Except Err (Db × String) := do
  let digest := E.canonicalDigest (.experimentSpec spec)
  -- Idempotency is kept only for a request that names both its actor and a key.
  let key := actorId.bind fun _ => idempotencyKey
  let prior ← checkIdempotency db (actorId.getD "") "experiments.create" key digest
  match prior with
  | some _ => return (db, digest)
  | none => do
    let db ← ensureExperiment db spec digest
    let db ← recordIdempotency db (actorId.getD "") "experiments.create" key digest spec.experimentId recordId
    return (db, digest)

/-- The identifiers `create_run` draws. -/
structure CreateRunIds where
  runId : String
  lineageId : String
  created : Db.EventIds
  validating : Db.EventIds
  ready : Db.EventIds
  recordId : String

def seedId (runId : String) : String := "seed-" ++ runId

/-- The rows of a new run: the run, its seed candidate, lineage entry 0, its
ledger and `run.created`. -/
def createRows (E : Env) (db : Db) (spec : ExperimentSpec) (experimentId runId actorId : String)
    (ids : CreateRunIds) : Except Err Db := do
  let db ← db.insertRun ⟨runId, experimentId, .created, 1, 1, none⟩
  let seed : SeedManifest := ⟨seedId runId, runId, spec.sourceTreeDigest, spec.sourceRevision⟩
  let db ← db.insertCandidate ⟨seedId runId, runId, none, .seed, spec.sourceTreeDigest,
    E.canonicalDigest (.seedManifest seed), .seed seed⟩
  let db ← db.insertLineage ⟨ids.lineageId, runId, 0, seedId runId, spec.sourceTreeDigest, none⟩
  let db := db.updateRun runId (fun r => { r with championId := some (seedId runId) }) (fun _ => rfl)
  let db ← db.insertLedger ⟨runId, spec.budget, .zero, .zero, 1⟩
  db.appendEvent runId 1 "run.created" actorId
    [("experiment_id", .str experimentId), ("state", .str "created"), ("champion_id", .str (seedId runId))] ids.created

/-- `create_run(prepare=True)` goes on to `ready` with hand-written counters. -/
def prepareRows (db : Db) (prepare : Bool) (runId actorId : String) (ids : CreateRunIds) : Except Err Db :=
  if prepare then do
    let db := db.updateRun runId (fun r => { r with state := .ready, revision := 3, eventSequence := 3 })
      (fun _ => rfl)
    let db ← db.appendEvent runId 2 "run.validating" actorId [("from", .str "created"), ("to", .str "validating")]
      ids.validating
    db.appendEvent runId 3 "run.ready" actorId [("from", .str "validating"), ("to", .str "ready")] ids.ready
  else .ok db

def createRun (E : Env) (db : Db) (experimentId actorId : String) (runId : Option String) (prepare : Bool)
    (idempotencyKey : Option String) (ids : CreateRunIds) : Except Err (Db × String) := do
  let runId := orDefault runId ids.runId
  let scope := "experiments." ++ experimentId ++ ".runs.create"
  let digest := E.canonicalDigest (.createRunRequest experimentId prepare runId)
  let prior ← checkIdempotency db actorId scope idempotencyKey digest
  match prior with
  | some prior => return (db, prior)
  | none => do
    let experiment ← orRaise (db.experiments.get? experimentId)
      ⟨.notFound, "experiment not found: " ++ experimentId⟩
    match db.runs.get? runId with
    | some existing => do
      require (existing.experimentId = experimentId) ⟨.revisionConflict, "run_id belongs to another experiment"⟩
      return (db, runId)
    | none => do
      let db ← createRows E db experiment.spec experimentId runId actorId ids
      let db ← prepareRows db prepare runId actorId ids
      let db ← recordIdempotency db actorId scope idempotencyKey digest runId ids.recordId
      return (db, runId)

/-- The conditional `UPDATE ... WHERE revision = current.revision` always finds
its row: the row was read in the same transaction. -/
def transition (E : Env) (db : Db) (runId : String) (target : RunState) (actorId : String)
    (expectedRevision : Option Nat) (reason idempotencyKey endpointScope : Option String) (ids : Db.EventIds)
    (recordId : String) : Except Err (Db × RunRow) := do
  let scope := orDefault endpointScope ("runs." ++ runId ++ ".transition")
  let digest := E.canonicalDigest (.transitionRequest runId target reason)
  let prior ← checkIdempotency db actorId scope idempotencyKey digest
  match prior with
  | some prior => do
    let priorRun ← orRaise (db.runs.get? prior) ⟨.notFound, "run not found: " ++ prior⟩
    return (db, priorRun)
  | none => do
    let current ← orRaise (db.runs.get? runId) ⟨.notFound, "run not found: " ++ runId⟩
    requireRunTransition current.state target
    require (∀ e ∈ expectedRevision, current.revision = e)
      ⟨.revisionConflict, "expected revision " ++ toString (expectedRevision.getD 0) ++ ", current is " ++
        toString current.revision⟩
    let changed (r : RunRow) : RunRow :=
      { r with state := target, revision := current.revision + 1, eventSequence := current.eventSequence + 1 }
    let db := db.updateRun runId changed (fun _ => rfl)
    let db ← db.appendEvent runId (current.eventSequence + 1) ("run." ++ target.value) actorId
      [("from", .str current.state.value), ("to", .str target.value),
        ("reason", reason.elim .null .str)] ids
    let db ← recordIdempotency db actorId scope idempotencyKey digest runId recordId
    return (db, changed current)

end RunService

namespace ArtifactService

/-- The reference the content-addressed store returned for the bytes. -/
structure StoredBytes where
  digest : String
  sizeBytes : Nat
  mediaType : String
  role : String

def appendEvent := Db.appendNextEvent

/-- Reuse the stored metadata of a digest, which must match, or store it. -/
def ensureMetadata (db : Db) (reference : StoredBytes) : Except Err Db :=
  match db.artifacts.get? reference.digest with
  | none => db.insertArtifact ⟨reference.digest, reference.sizeBytes, reference.mediaType, reference.role⟩
  | some metadata => do
    require (metadata.sizeBytes = reference.sizeBytes ∧ metadata.mediaType = reference.mediaType)
      ⟨.artifactMetadataConflict, "digest has incompatible metadata"⟩
    return db

def putBytes (db : Db) (reference : StoredBytes) (runId ownerType ownerId retentionClass actorId : String)
    (referenceId : String) (ids : Db.EventIds) : Except Err Db := do
  let run ← orRaise (db.runs.get? runId) ⟨.lookup, "run not found: " ++ runId⟩
  let db ← ensureMetadata db reference
  match db.artifactReferences.find? (fun r => r.digest = reference.digest ∧ r.ownerType = ownerType ∧
    r.ownerId = ownerId ∧ r.role = reference.role) with
  | some _ => return db
  | none => do
    let db ← db.insertArtifactReference
      ⟨referenceId, reference.digest, runId, ownerType, ownerId, reference.role, retentionClass⟩
    appendEvent db run "artifact.committed" actorId
      [("digest", .str reference.digest), ("owner_type", .str ownerType), ("owner_id", .str ownerId)] ids

end ArtifactService

end AvoCorrelate
