import AvoCorrelate.Services.Evidence
/-!
# What a committed session, evidence or review call leaves behind
-/
open AvoLib

namespace AvoCorrelate

namespace SessionService

theorem enqueue_ok {E : Env} {db db' : Db} {request : VariationSessionRequest}
    (h : enqueue E db request = .ok db') : ∃ ss, db' = { db with sessions := ss } := by
  simp only [enqueue] at h
  split at h
  · simp only [bind_ok, require_ok, exists_const, pure_ok] at h
    exact ⟨db.sessions, h.2.symm⟩
  · simp only [Db.insertSession, bind_ok, orRaise_ok, require_ok, exists_const, insertRow_ok, pure_ok] at h
    obtain ⟨_, -, -, ss, -, rfl⟩ := h
    exact ⟨ss, rfl⟩

theorem start_ok {db db' : Db} {id : String} (h : start db id = .ok db') : ∃ ss, db' = { db with sessions := ss } := by
  simp only [start, bind_ok, orRaise_ok] at h
  obtain ⟨_, -, h⟩ := h
  split at h
  · exact ⟨db.sessions, (pure_ok.1 h).symm⟩
  · simp only [bind_ok, orRaise_ok, require_ok, requireSessionTransition_ok, exists_const, pure_ok] at h
    obtain ⟨_, -, -, -, -, rfl⟩ := h
    exact ⟨_, rfl⟩

theorem finish_ok {E : Env} {db db' : Db} {result : VariationSessionResult} (h : finish E db result = .ok db') :
    ∃ ss, db' = { db with sessions := ss } := by
  simp only [finish, bind_ok, orRaise_ok] at h
  obtain ⟨row, -, h⟩ := h
  split at h
  · simp only [bind_ok, require_ok, exists_const, pure_ok] at h
    exact ⟨db.sessions, h.2.symm⟩
  · simp only [bind_ok, requireSessionTransition_ok, exists_const, pure_ok] at h
    exact ⟨_, h.2.symm⟩

end SessionService

namespace EvidenceService
open Db

variable {E : Env} {db db' : Db} {digest runId lineageId : String} {decision : AdmissionDecision} {ids : EventIds}

theorem stageCandidate_ok {m : CandidateManifest} (h : stageCandidate E db m = .ok (db', digest)) :
    db' = db ∨ ∃ run cs, db' = { db with candidates := cs } ∧ db.runs.get? m.runId = some run ∧
      (∃ c ∈ m.parentCandidateIds, run.championId = some c) ∧
      db.candidates.insert? ⟨m.candidateId, m.runId, some m.sessionId, .lifecycle .staged, m.sourceTreeDigest, digest,
        .candidate m⟩ = some cs := by
  simp only [stageCandidate] at h
  split at h
  · simp only [bind_ok, require_ok, exists_const, pure_ok, Prod.mk.injEq] at h
    exact .inl h.2.1.symm
  · simp only [insertCandidate, bind_ok, orRaise_ok, require_ok, exists_const, insertRow_ok, pure_ok, Prod.mk.injEq] at h
    obtain ⟨run, hr, hparent, _, ⟨cs, ⟨-, hcs⟩, rfl⟩, rfl, rfl⟩ := h
    exact .inr ⟨run, cs, rfl, hr, hparent, hcs⟩

theorem recordEvaluation_ok {record : EvaluationRecord} {key : String}
    (h : recordEvaluation E db record key = .ok (db', digest)) :
    (db' = db ∧ ∃ e ∈ db.evaluations, e.candidateId = record.candidateId ∧ e.evaluatorKey = key) ∨ ∃ candidate evs cs, db' = { db with evaluations := evs, candidates := cs } ∧
      db.candidates.get? record.candidateId = some candidate ∧
      (∀ e ∈ db.evaluations, ¬ (e.candidateId = record.candidateId ∧ e.evaluatorKey = key)) ∧
      db.evaluations.insert? ⟨record.evaluationId, record.candidateId, key, digest, record⟩ = some evs ∧
      db.candidates.Sets { candidate with state := .lifecycle .evaluating } cs := by
  simp only [recordEvaluation, bind_ok, orRaise_ok] at h
  obtain ⟨candidate, hc, h⟩ := h
  split at h
  · next existing hsome =>
    simp only [bind_ok, require_ok, exists_const, pure_ok, Prod.mk.injEq] at h
    have hk := Table.find?_holds hsome
    simp only [decide_eq_true_eq] at hk
    exact .inl ⟨h.2.1.symm, existing, Table.find?_mem hsome, hk⟩
  · next hnone =>
    simp only [insertEvaluation, bind_ok, insertRow_ok, pure_ok, Prod.mk.injEq] at h
    obtain ⟨_, ⟨evs, ⟨-, hevs⟩, rfl⟩, rfl, rfl⟩ := h
    have hc' := Table.get?_self hc
    refine .inr ⟨candidate, evs, _, rfl, hc, fun e he hk => ?_, hevs, sets_setCandidateState hc'⟩
    have := Table.find?_none hnone e he
    simp [hk] at this

theorem recordPolicyDecision_ok {decision : PolicyDecision} {candidateId : Option String}
    (h : recordPolicyDecision E db runId decision candidateId = .ok (db', digest)) :
    ∃ ps, db' = { db with policyDecisions := ps } := by
  simp only [recordPolicyDecision] at h
  split at h
  · simp only [bind_ok, require_ok, exists_const, pure_ok, Prod.mk.injEq] at h
    exact ⟨db.policyDecisions, h.2.1.symm⟩
  · simp only [insertPolicyDecision, bind_ok, insertRow_ok, pure_ok, Prod.mk.injEq] at h
    obtain ⟨_, ⟨ps, -, rfl⟩, rfl, -⟩ := h
    exact ⟨ps, rfl⟩

/-- The row of a run whose champion an admission replaced. -/
def admittedRun (run : RunRow) (candidateId : String) : RunRow :=
  { bump run run with championId := some candidateId }

/-- What a new admission with outcome `admit` adds: a lineage entry, the new champion and an event. -/
def AppendsLineage (db : Db) (run : RunRow) (candidate : CandidateRow) (admissionId : String) (db' : Db) : Prop :=
  ∃ lineageId lin ns es os, db' = { db with lineage := lin, runs := ns, events := es, outbox := os } ∧
    run.state = .running ∧
    db.lineage.insert? ⟨lineageId, run.runId, nextLineage db run.runId, candidate.candidateId,
      candidate.sourceTreeDigest, some admissionId⟩ = some lin ∧
    (∀ l ∈ db.lineage, ¬ (l.runId = run.runId ∧ l.candidateId = candidate.candidateId)) ∧
    db.Logs (admittedRun run candidate.candidateId) db'

theorem appendLineage_ok {run : RunRow} {candidate : CandidateRow} {prior : StoredCandidateState} {next : Nat}
    (h : appendLineage db run candidate prior decision lineageId ids = .ok (db', next))
    (hr : db.runs.get? run.runId = some run) (hc : candidate.candidateId = decision.candidateId) :
    (prior = .lifecycle .reviewRequired → (approvedReview db decision.candidateId).isSome = true) ∧
      AppendsLineage db run candidate decision.admissionId db' := by
  simp only [appendLineage, insertLineage, bind_ok, require_ok, exists_const, insertRow_ok, pure_ok, Prod.mk.injEq] at h
  obtain ⟨-, hreview, hrun, _, ⟨lin, ⟨⟨-, -, -, huniq⟩, hlin⟩, rfl⟩, _, hev, rfl, rfl⟩ := h
  obtain ⟨es, os, rfl, hj⟩ := appendEvent_ok hev
  let changed (r : RunRow) : RunRow := { bump run r with championId := some decision.candidateId }
  have hset : db.runs.Sets (changed run) _ := Table.sets_modify changed (fun _ => rfl) hr
  have hrow : changed run = admittedRun run candidate.candidateId := by rw [hc]; rfl
  rw [hrow] at hset
  refine ⟨hreview, lineageId, lin, _, es, os, rfl, hrun, hc ▸ hlin, ?_, hset, hj⟩
  intro l hl hk
  exact huniq l hl ⟨hk.1, .inr (.inl (hk.2.trans hc))⟩

def admissionRow (runId digest : String) (decision : AdmissionDecision) : AdmissionRow :=
  ⟨decision.admissionId, runId, decision.candidateId, decision.outcome, digest, decision⟩

theorem commitAdmission_ok {next : Option Nat} (h : commitAdmission E db runId decision lineageId ids = .ok (db', next)) :
    (db' = db ∧ (db.admissions.get? decision.admissionId).isSome = true) ∨ ∃ run candidate digest ads cs,
      db.admissions.get? decision.admissionId = none ∧ db.runs.get? runId = some run ∧ db.candidates.get? decision.candidateId = some candidate ∧
      candidate.runId = runId ∧ validateDecisionEvidence db decision = .ok () ∧
      run.championId = some decision.expectedChampionId ∧
      db.admissions.insert? (admissionRow runId digest decision) = some ads ∧
      db.candidates.Sets { candidate with state := .lifecycle (terminalState decision.outcome) } cs ∧
      ((decision.outcome ≠ .admits ∧ db' = { db with admissions := ads, candidates := cs }) ∨
        (decision.outcome = .admits ∧
          (candidate.state = .lifecycle .reviewRequired → (approvedReview db decision.candidateId).isSome = true) ∧
          AppendsLineage { db with admissions := ads, candidates := cs } run candidate decision.admissionId db')) := by
  simp only [commitAdmission] at h
  split at h
  · next existing hsome =>
    simp only [bind_ok, require_ok, exists_const, pure_ok, Prod.mk.injEq] at h
    exact .inl ⟨h.2.1.symm, by rw [hsome]; rfl⟩
  · next hnone =>
    simp only [insertAdmission, bind_ok, orRaise_ok, require_ok, exists_const, insertRow_ok, pure_ok] at h
    obtain ⟨run, hr, candidate, hc, hcr, _, hval, -, hch, _, ⟨ads, ⟨-, hads⟩, rfl⟩, h⟩ := h
    have hset : db.candidates.Sets _ (db.setCandidateState decision.candidateId (terminalState decision.outcome)).candidates :=
      sets_setCandidateState hc
    refine .inr ⟨run, candidate, E.canonicalDigest (.admissionDecision decision), ads, _, hnone, hr, hc,
      hcr, hval, hch, hads, hset, ?_⟩
    split at h
    · next ho =>
      simp only [bind_ok, Prod.exists, pure_ok, Prod.mk.injEq] at h
      obtain ⟨_, _, hl, rfl, -⟩ := h
      have hr' : db.runs.get? run.runId = some run := Table.get?_self hr
      obtain ⟨hreview, happ⟩ := appendLineage_ok hl hr' (Table.get?_key hc)
      exact .inr ⟨ho, hreview, happ⟩
    · next ho =>
      simp only [pure_ok, Prod.mk.injEq] at h
      exact .inl ⟨ho, h.1.symm⟩

end EvidenceService

namespace ReviewService
open Db

theorem create_ok {db db' : Db} {request : ReviewRequest} (h : create db request = .ok db') :
    db' = db ∨ ∃ rs, db' = { db with reviews := rs } ∧ db.reviews.insert? ⟨request.reviewId, request, .pending⟩ = some rs := by
  unfold create at h
  split at h
  · simp only [bind_ok, require_ok, exists_const, pure_ok] at h
    exact .inl h.2.symm
  · simp only [insertReview, bind_ok, orRaise_ok, require_ok, exists_const, insertRow_ok, pure_ok] at h
    obtain ⟨_, -, -, -, rs, ⟨-, hrs⟩, rfl⟩ := h
    exact .inr ⟨rs, rfl, hrs⟩

theorem recordIdempotency_ok {db db' : Db} {actorId key : Option String} {scope digest decisionId recordId : String}
    (h : recordIdempotency db actorId key scope digest decisionId recordId = .ok db') :
    ∃ is, db' = { db with idempotency := is } := by
  unfold recordIdempotency at h
  split at h
  · simp only [insertIdempotency, bind_ok, insertRow_ok, pure_ok] at h
    obtain ⟨is, -, rfl⟩ := h
    exact ⟨is, rfl⟩
  · cases h; exact ⟨db.idempotency, rfl⟩

/-- A decision only ever takes a request out of `pending`. -/
def SettlesReview (t t' : Table ReviewRequestRow.reviewId) : Prop :=
  t' = t ∨ ∃ r s, t.get? r.reviewId = some r ∧ r.state = .pending ∧ t.Sets { r with state := s } t'

theorem settle_eq (db : Db) {r : ReviewRequestRow} (outcome : ReviewOutcome)
    (hr : db.reviews.get? r.reviewId = some r) (hs : r.state = .pending) :
    ∃ rs, settle db r outcome = { db with reviews := rs } ∧ SettlesReview db.reviews rs := by
  have hset (s : ReviewState) : db.reviews.Sets { r with state := s } (db.setReviewState r.reviewId s).reviews :=
    Table.sets_modify (fun r : ReviewRequestRow => { r with state := s }) (fun _ => rfl) hr
  cases outcome with
  | reject => exact ⟨_, rfl, .inr ⟨r, .rejected, hr, hs, hset .rejected⟩⟩
  | approve =>
    simp only [settle]
    split
    · exact ⟨_, rfl, .inr ⟨r, .approved, hr, hs, hset .approved⟩⟩
    · exact ⟨db.reviews, rfl, .inl rfl⟩

theorem submit_ok {E : Env} {db db' : Db} {decision : ReviewDecision} {actorId key : Option String} {now : Instant}
    {recordId : String} (h : submit E db decision actorId key now recordId = .ok db') :
    ∃ ds rs is, db' = { db with reviewDecisions := ds, reviews := rs, idempotency := is } ∧
      SettlesReview db.reviews rs := by
  simp only [submit, bind_ok, orRaise_ok] at h
  obtain ⟨request, hreq, h⟩ := h
  split at h
  · simp only [bind_ok, require_ok, exists_const, pure_ok] at h
    exact ⟨db.reviewDecisions, db.reviews, db.idempotency, h.2.symm, .inl rfl⟩
  · split at h
    · simp only [bind_ok, require_ok, exists_const] at h
      obtain ⟨is, rfl⟩ := recordIdempotency_ok h.2
      exact ⟨db.reviewDecisions, db.reviews, is, rfl, .inl rfl⟩
    · simp only [bind_ok, require_ok, exists_const, insertReviewDecision, insertRow_ok, pure_ok] at h
      obtain ⟨hpending, -, -, -, -, _, ⟨ds, -, rfl⟩, h⟩ := h
      have hr : db.reviews.get? request.reviewId = some request := Table.get?_self hreq
      obtain ⟨rs, hrs, hset⟩ := settle_eq { db with reviewDecisions := ds } decision.outcome hr hpending
      rw [hrs] at h
      obtain ⟨is, rfl⟩ := recordIdempotency_ok h
      exact ⟨ds, rs, is, rfl, hset⟩

end ReviewService

end AvoCorrelate
