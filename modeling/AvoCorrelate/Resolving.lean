import AvoCorrelate.Activities
import AvoCorrelate.Ledger
/-!
# Closing a reconciliation case

`resolve_reconciliation` with `fail` moves three state machines at once: the run
to `failed`, the session of the case to `failed`, and its reservation to
`released`, the estimate given back to the ledger. The run of an open case can
always make its move. Whether the session and the ledger can make theirs depends
on what was done to them while the case was open, and before: a case may name
the session of an evaluation, which finished when it proposed the candidate.
-/
open AvoLib

namespace AvoCorrelate

/-! ## What an open case names is there -/

/-- What a committed call does to the sessions, the activities and the open cases. -/
structure LinkStep (db db' : Db) : Prop where
  sessions : ∀ k, (db.sessions.get? k).isSome = true → (db'.sessions.get? k).isSome = true
  /-- A new activity names rows that exist. -/
  activities : ∀ k a', db'.activities.get? k = some a' → (db.activities.get? k).isSome = true ∨
    (Db.references db.sessions a'.sessionId ∧ Db.references db.reservations a'.budgetReservationId)
  /-- A new case names what it was told to, or what its activity names. -/
  cases : ∀ c ∈ db'.cases, c.state = .opened → c ∈ db.cases ∨
    (c.record.state = .opened ∧ c.record.runId = c.runId ∧ (db.runs.get? c.runId).isSome = true ∧
      ∃ a ∈ db.activities, a.activityId = c.record.activityId ∧
        (c.record.sessionId = a.sessionId ∨ Db.references db.sessions c.record.sessionId) ∧
        (c.record.budgetReservationId = a.budgetReservationId ∨
          Db.references db.reservations c.record.budgetReservationId))

theorem LinkStep.quiet {db db' : Db} (hs : db'.sessions = db.sessions) (ha : db'.activities = db.activities)
    (hc : db'.cases = db.cases) : LinkStep db db' where
  sessions _ h := hs ▸ h
  activities _ _ h := .inl (by rw [← ha, h]; rfl)
  cases _ h _ := .inl (hc ▸ h)

namespace ActivityService
variable {db db' : Db}

end ActivityService

namespace RuntimeService
variable {db db' : Db}

end RuntimeService

section Growth
variable {safe own : Prop} {db db' : Db} {k : String}

end Growth

/-- The activities, sessions, reservations and runs that are referred to exist. -/
structure Linked (db : Db) : Prop where
  activities : ∀ a ∈ db.activities,
    Db.references db.sessions a.sessionId ∧ Db.references db.reservations a.budgetReservationId
  cases : ∀ c ∈ db.cases, c.state = .opened → c.record.state = .opened ∧ c.record.runId = c.runId ∧
    (db.runs.get? c.runId).isSome = true ∧ (db.activities.get? c.record.activityId).isSome = true ∧
    Db.references db.sessions c.record.sessionId ∧ Db.references db.reservations c.record.budgetReservationId

/-- Identifiers that occur nowhere yet, as `uuid4` draws them. -/
structure Drawn (db : Db) (ids : Db.EventIds) : Prop where
  event : ∀ e ∈ db.events, e.eventId ≠ ids.eventId
  published : ∀ o ∈ db.outbox, o.eventId ≠ ids.eventId
  outbox : ∀ o ∈ db.outbox, o.outboxId ≠ ids.outboxId

theorem Db.isSome_updateRun (db : Db) (k : String) (f : RunRow → RunRow) (hf : ∀ r, (f r).runId = r.runId) (k' : String) :
    ((db.updateRun k f hf).runs.get? k').isSome = (db.runs.get? k').isSome := by
  change ((db.runs.modify k f hf).get? k').isSome = _
  rw [Table.isSome_modify]

theorem Db.appendEvent_succeeds {db : Db} {runId : String} {sequence : Nat} {ids : EventIds}
    (hrun : (db.runs.get? runId).isSome = true) (hseq : ∀ e ∈ db.events, e.runId = runId → e.sequence < sequence)
    (hids : Drawn db ids) (eventType actorId : String) (payload : Payload) :
    ∃ db', db.appendEvent runId sequence eventType actorId payload ids = .ok db' := by
  let row : EventRow := ⟨ids.eventId, runId, sequence, eventType, actorId, payload⟩
  obtain ⟨es, hes⟩ : ∃ es, db.events.insert? row = some es := Table.exists_insert hids.event
  obtain ⟨os, hos⟩ : ∃ os, db.outbox.insert? ⟨ids.outboxId, ids.eventId, "run.events", payload⟩ = some os :=
    Table.exists_insert hids.outbox
  have hnew : ∀ x ∈ db.events, ¬ (x.runId = runId ∧ x.sequence = sequence) := by
    rintro x hx ⟨hk, hs⟩
    have := hseq x hx hk
    omega
  have hpublished : (es.get? ids.eventId).isSome = true := by
    rw [Table.get?_insert hes, if_pos rfl]
    rfl
  simp only [appendEvent, insertEvent, insertOutbox, bind_ok, insertRow_ok, pure_ok]
  exact ⟨_, _, ⟨es, ⟨⟨hrun, hnew⟩, hes⟩, rfl⟩, os, ⟨⟨hpublished, hids.published⟩, hos⟩, rfl⟩

theorem JournalInv.sequence_le {db : Db} (h : JournalInv db) {run : RunRow} (hrun : run ∈ db.runs) :
    ∀ e ∈ db.events, e.runId = run.runId → e.sequence ≤ run.eventSequence := by
  intro e he hk
  have hmem : e.sequence ∈ (eventsOf db run.runId).map (·.sequence) :=
    List.mem_map.2 ⟨e, List.mem_filter.2 ⟨he, by simpa using hk⟩, rfl⟩
  rw [(h.integrity run hrun).events_numbered, List.mem_range'_1] at hmem
  omega

/-! ## The three moves -/

namespace RuntimeService
variable {db : Db}

end RuntimeService

/-- A lost worker that evaluated a candidate: its activity names the session
that proposed the candidate, which has finished. -/
def Sample.evaluating : List Op :=
  Sample.started "run" "tree" ++ [Sample.session "run" "session", .startSession "session",
    .finishSession ⟨"session", .proposalReady, some "workspace", Sample.usage 1, by simp⟩, Sample.reserved "run" "r" 1] ++
    Sample.claimedFor "run" "session" "evaluate:c" "r" ++ [Sample.disputed "evaluate:c" "case"]

end AvoCorrelate
