import AvoCorrelate.Paths
import AvoCorrelate.Ledger
/-!
# What most calls leave alone

Reviews and their decisions are written by the two calls of `ReviewService` only, and
idempotency records by the four calls that take a key.
-/
open AvoLib

namespace AvoCorrelate

/-- The calls that write reviews or decisions. -/
def Op.reviews : Op → Bool
  | .createReview _ => true
  | .submitReview _ _ _ _ _ => true
  | _ => false

def Op.takesKey : Op → Bool
  | .createExperiment _ _ _ _ => true
  | .createRun _ _ _ _ _ _ => true
  | .transition _ _ _ _ _ _ _ _ _ => true
  | .submitReview _ _ _ _ _ => true
  | _ => false

/-- The tables of reviews and of replies, as a call leaves them. -/
structure LeavesAlone (op : Op) (db db' : Db) : Prop where
  reviews : op.reviews = false → db'.reviews = db.reviews
  decisions : op.reviews = false → db'.reviewDecisions = db.reviewDecisions
  idempotency : op.takesKey = false → db'.idempotency = db.idempotency
  /-- experiments stay -/
  experiments : ∀ k x, db.experiments.get? k = some x → db'.experiments.get? k = some x

variable {E : Env} {db db' : Db} {spec : ExperimentSpec} {actorId key : Option String}
  {recordId digest scope id runId k : String} {op : Op} {run : RunRow}

theorem RunService.createExperiment_kept
    (h : RunService.createExperiment E db spec actorId key recordId = .ok (db', digest)) (k : String)
    (x : ExperimentRow) (hx : db.experiments.get? k = some x) : db'.experiments.get? k = some x := by
  simp only [RunService.createExperiment, bind_ok] at h
  obtain ⟨prior, -, h⟩ := h
  cases prior with
  | some _ => cases h; exact hx
  | none =>
    simp only [bind_ok, pure_ok, Prod.mk.injEq] at h
    obtain ⟨_, he, _, hi, rfl, -⟩ := h
    obtain ⟨is, rfl⟩ := recordIdempotency_ok hi
    unfold RunService.ensureExperiment at he
    split at he
    · simp only [bind_ok, require_ok, exists_const, pure_ok] at he
      rw [← he.2]
      exact hx
    · simp only [Db.insertExperiment, bind_ok, insertRow_ok, pure_ok] at he
      obtain ⟨xs, ⟨-, hxs⟩, rfl⟩ := he
      exact Table.get?_insert_of_some hxs hx

theorem exec_leavesAlone (h : exec E db op = .ok db') : LeavesAlone op db db' := by
  have same := exec_frame h
  cases op
  case createExperiment =>
    simp only [exec, map_ok, Prod.exists, exists_and_right, exists_eq_right] at h
    obtain ⟨_, h⟩ := h
    exact ⟨fun _ => same .reviews rfl, fun _ => same .reviewDecisions rfl, fun hx => Bool.noConfusion hx,
      RunService.createExperiment_kept h⟩
  case createReview =>
    exact ⟨fun hx => Bool.noConfusion hx, fun _ => same .reviewDecisions rfl, fun _ => same .idempotency rfl,
      fun _ _ hx => same .experiments rfl ▸ hx⟩
  case submitReview => exact ⟨fun hx => Bool.noConfusion hx, fun hx => Bool.noConfusion hx, fun hx => Bool.noConfusion hx,
      fun _ _ hx => same .experiments rfl ▸ hx⟩
  case createRun | transition =>
    exact ⟨fun _ => same .reviews rfl, fun _ => same .reviewDecisions rfl, fun hx => Bool.noConfusion hx,
      fun _ _ hx => same .experiments rfl ▸ hx⟩
  all_goals
    exact ⟨fun _ => same .reviews rfl, fun _ => same .reviewDecisions rfl, fun _ => same .idempotency rfl,
      fun _ _ hx => same .experiments rfl ▸ hx⟩

/-! ## Replies -/

/-- What a call that sends a key stores of itself. -/
structure Reply where
  actorId : String
  endpointScope : String
  idempotencyKey : String
  requestDigest : String
  resourceId : String
  deriving DecidableEq

def IdempotencyRow.reply (r : IdempotencyRow) : Reply :=
  ⟨r.actorId, r.endpointScope, r.idempotencyKey, r.requestDigest, r.resourceId⟩

/-- Two rows for one key of one actor in one scope. -/
def IdempotencyRow.SameKey (r r' : IdempotencyRow) : Prop :=
  r.actorId = r'.actorId ∧ r.endpointScope = r'.endpointScope ∧ r.idempotencyKey = r'.idempotencyKey

/-- The reply that a call would store. -/
def Op.reply (E : Env) : Op → Option Reply
  | .createExperiment spec (some actor) (some key) _ =>
    some ⟨actor, "experiments.create", key, E.canonicalDigest (.experimentSpec spec), spec.experimentId⟩
  | .createRun experimentId actor runId prepare (some key) ids =>
    some ⟨actor, "experiments." ++ experimentId ++ ".runs.create", key,
      E.canonicalDigest (.createRunRequest experimentId prepare (orDefault runId ids.runId)), orDefault runId ids.runId⟩
  | .transition runId target actor _ reason (some key) scope _ _ =>
    some ⟨actor, orDefault scope ("runs." ++ runId ++ ".transition"), key,
      E.canonicalDigest (.transitionRequest runId target reason), runId⟩
  | .submitReview decision (some actor) (some key) _ _ =>
    some ⟨actor, "reviews." ++ decision.reviewId ++ ".decisions", key, E.canonicalDigest (.reviewDecision decision),
      decision.decisionId⟩
  | _ => none

/-- A call stores its reply, or none. -/
def Replies (E : Env) (db : Db) (op : Op) (t : Table IdempotencyRow.recordId) : Prop :=
  t = db.idempotency ∨ ∃ row, db.idempotency.insert? row = some t ∧ op.reply E = some row.reply ∧
    ∀ x ∈ db.idempotency, ¬ x.SameKey row

theorem recordIdempotency_stores {actorId : String} {resource : String}
    (h : recordIdempotency db actorId scope key digest resource id = .ok db') :
    (key = none ∧ db'.idempotency = db.idempotency) ∨
      ∃ k, key = some k ∧ db.idempotency.insert? ⟨id, actorId, scope, k, digest, resource⟩ = some db'.idempotency ∧
        ∀ x ∈ db.idempotency, ¬ x.SameKey ⟨id, actorId, scope, k, digest, resource⟩ := by
  cases key with
  | none => cases h; exact .inl ⟨rfl, rfl⟩
  | some k =>
    simp only [recordIdempotency, Db.insertIdempotency, bind_ok, insertRow_ok, pure_ok] at h
    obtain ⟨t, ⟨hnew, ht⟩, rfl⟩ := h
    exact .inr ⟨k, rfl, ht, hnew⟩

theorem RunService.createExperiment_replies
    (h : RunService.createExperiment E db spec actorId key recordId = .ok (db', digest)) :
    Replies E db (.createExperiment spec actorId key recordId) db'.idempotency := by
  simp only [RunService.createExperiment, bind_ok] at h
  obtain ⟨prior, -, h⟩ := h
  cases prior with
  | some _ => cases h; exact .inl rfl
  | none =>
    simp only [bind_ok, pure_ok, Prod.mk.injEq] at h
    obtain ⟨_, hx, _, hi, rfl, -⟩ := h
    obtain ⟨xs, rfl⟩ := RunService.ensureExperiment_ok hx
    obtain ⟨-, hsame⟩ | ⟨k, hk, hins, hnew⟩ := recordIdempotency_stores hi
    · exact .inl hsame
    · cases actorId with
      | none => cases hk
      | some a => cases hk; exact .inr ⟨_, hins, rfl, hnew⟩

theorem RunService.createRun_replies {experimentId actorId : String} {runId : Option String} {prepare : Bool}
    {ids : RunService.CreateRunIds}
    (h : RunService.createRun E db experimentId actorId runId prepare key ids = .ok (db', id)) :
    Replies E db (.createRun experimentId actorId runId prepare key ids) db'.idempotency := by
  simp only [RunService.createRun, bind_ok] at h
  obtain ⟨prior, -, h⟩ := h
  cases prior with
  | some _ => cases h; exact .inl rfl
  | none =>
    simp only [bind_ok, orRaise_ok] at h
    obtain ⟨experiment, -, h⟩ := h
    split at h
    · simp only [bind_ok, require_ok, exists_const, pure_ok, Prod.mk.injEq] at h
      exact .inl (by rw [h.2.1])
    · simp only [bind_ok, pure_ok, Prod.mk.injEq] at h
      obtain ⟨_, hc, _, hp, _, hi, rfl, -⟩ := h
      obtain ⟨_, _, _, _, _, _, rfl, ⟨_, _, _, _, _, hset, _, _, _⟩, -⟩ := RunService.createRows_ok hc
      obtain ⟨_, _, _, rfl, -⟩ := RunService.prepareRows_ok hset.get?_self hp
      obtain ⟨-, hsame⟩ | ⟨k, rfl, hins, hnew⟩ := recordIdempotency_stores hi
      · exact .inl hsame
      · exact .inr ⟨_, hins, rfl, hnew⟩

theorem RunService.transition_replies {target : RunState} {actorId : String} {expected : Option Nat}
    {reason scope : Option String} {ids : Db.EventIds} {run' : RunRow}
    (h : RunService.transition E db runId target actorId expected reason key scope ids recordId = .ok (db', run')) :
    Replies E db (.transition runId target actorId expected reason key scope ids recordId) db'.idempotency := by
  simp only [RunService.transition, bind_ok] at h
  obtain ⟨prior, -, h⟩ := h
  cases prior with
  | some _ =>
    simp only [bind_ok, orRaise_ok, pure_ok, Prod.mk.injEq] at h
    obtain ⟨_, -, rfl, -⟩ := h
    exact .inl rfl
  | none =>
    simp only [bind_ok, orRaise_ok, requireRunTransition_ok, require_ok, exists_const, pure_ok, Prod.mk.injEq] at h
    obtain ⟨run, -, -, -, _, hev, _, hi, rfl, -⟩ := h
    obtain ⟨_, _, rfl, -⟩ := Db.appendEvent_ok hev
    obtain ⟨-, hsame⟩ | ⟨k, rfl, hins, hnew⟩ := recordIdempotency_stores hi
    · exact .inl hsame
    · exact .inr ⟨_, hins, rfl, hnew⟩

theorem ReviewService.recordIdempotency_stores {decisionId : String}
    (h : ReviewService.recordIdempotency db actorId key scope digest decisionId recordId = .ok db') :
    (¬ (actorId.isSome ∧ key.isSome) ∧ db' = db) ∨ ∃ a k is, actorId = some a ∧ key = some k ∧
      db' = { db with idempotency := is } ∧
      db.idempotency.insert? ⟨recordId, a, scope, k, digest, decisionId⟩ = some is ∧
      ∀ x ∈ db.idempotency, ¬ x.SameKey ⟨recordId, a, scope, k, digest, decisionId⟩ := by
  unfold ReviewService.recordIdempotency at h
  split at h
  · simp only [Db.insertIdempotency, bind_ok, insertRow_ok, pure_ok] at h
    obtain ⟨is, ⟨hnew, his⟩, rfl⟩ := h
    exact .inr ⟨_, _, is, rfl, rfl, rfl, his, hnew⟩
  · next hn =>
    cases h
    refine .inl ⟨?_, rfl⟩
    rintro ⟨ha, hk⟩
    obtain ⟨a, rfl⟩ := Option.isSome_iff_exists.1 ha
    obtain ⟨k, rfl⟩ := Option.isSome_iff_exists.1 hk
    exact hn a k rfl rfl

namespace ReviewService

/-- The role of the reviewer, the proposer's rule and the evidence of a decision. -/
structure Eligible (request : ReviewRequest) (decision : ReviewDecision) : Prop where
  role : decision.reviewerRole ∈ request.eligibleRoles
  proposer : decision.reviewerId = request.proposerId → request.proposerMayReview = true
  evidence : ∀ e ∈ request.requiredEvidenceDigests, e ∈ decision.evidenceDigests

def decisionRow (E : Env) (decision : ReviewDecision) : ReviewDecisionRow :=
  ⟨decision.decisionId, decision.reviewId, decision.reviewerId, decision.outcome,
    E.canonicalDigest (.reviewDecision decision), decision⟩

/-- A decision is new and settles its request, or nothing of reviews changes. -/
inductive Decides (E : Env) (db : Db) (decision : ReviewDecision) (now : Instant) (db' : Db) : Prop
  | same (hr : db'.reviews = db.reviews) (hd : db'.reviewDecisions = db.reviewDecisions)
  | decided {request : ReviewRequestRow} {db₁ : Db} (hget : db.reviews.get? decision.reviewId = some request)
    (hpending : request.state = .pending) (hnow : now < request.request.expiresAt)
    (heligible : Eligible request.request decision) (hnew : db.reviewDecisions.get? decision.decisionId = none)
    (hfirst : ∀ x ∈ db.reviewDecisions, ¬ (x.reviewId = decision.reviewId ∧ x.reviewerId = decision.reviewerId))
    (hinsert : db.reviewDecisions.insert? (decisionRow E decision) = some db₁.reviewDecisions)
    (hr₁ : db₁.reviews = db.reviews) (hr : db'.reviews = (settle db₁ request decision.outcome).reviews)
    (hd : db'.reviewDecisions = db₁.reviewDecisions)

theorem settle_frame (db : Db) (request : ReviewRequestRow) (outcome : ReviewOutcome) :
    (settle db request outcome).reviewDecisions = db.reviewDecisions ∧
      (settle db request outcome).idempotency = db.idempotency := by
  cases outcome with
  | reject => exact ⟨rfl, rfl⟩
  | approve =>
    simp only [settle]
    split <;> exact ⟨rfl, rfl⟩

variable {E : Env} {db db' : Db} {decision : ReviewDecision} {actorId key : Option String} {now : Instant} {recordId : String}

theorem submit_decides (h : submit E db decision actorId key now recordId = .ok db') : Decides E db decision now db' := by
  simp only [submit, bind_ok, orRaise_ok] at h
  obtain ⟨request, hreq, h⟩ := h
  split at h
  · simp only [bind_ok, require_ok, exists_const, pure_ok] at h
    exact .same (by rw [h.2]) (by rw [h.2])
  · split at h
    · simp only [bind_ok, require_ok, exists_const] at h
      obtain ⟨is, rfl⟩ := recordIdempotency_ok h.2
      exact .same rfl rfl
    · next hnew =>
      simp only [bind_ok, require_ok, exists_const, Db.insertReviewDecision, insertRow_ok, pure_ok] at h
      obtain ⟨hpending, hnow, hrole, hproposer, hevidence, _, ⟨ds, ⟨⟨-, hfirst⟩, hds⟩, rfl⟩, h⟩ := h
      obtain ⟨is, rfl⟩ := recordIdempotency_ok h
      let db₁ : Db := { db with reviewDecisions := ds }
      have hinsert : db.reviewDecisions.insert? (decisionRow E decision) = some db₁.reviewDecisions := hds
      exact .decided hreq hpending hnow ⟨hrole, hproposer, hevidence⟩ hnew hfirst hinsert rfl rfl (settle_frame _ _ _).1

theorem submit_replies (h : submit E db decision actorId key now recordId = .ok db') :
    Replies E db (.submitReview decision actorId key now recordId) db'.idempotency := by
  have stores {db₁ db₂ : Db} (hs : db₁.idempotency = db.idempotency)
      (hrec : recordIdempotency db₁ actorId key ("reviews." ++ decision.reviewId ++ ".decisions")
        (E.canonicalDigest (.reviewDecision decision)) decision.decisionId recordId = .ok db₂) :
      Replies E db (.submitReview decision actorId key now recordId) db₂.idempotency := by
    obtain ⟨-, rfl⟩ | ⟨a, k, is, rfl, rfl, rfl, his, hnew⟩ := recordIdempotency_stores hrec
    · exact .inl hs
    · rw [hs] at his hnew
      exact .inr ⟨_, his, rfl, hnew⟩
  simp only [submit, bind_ok, orRaise_ok] at h
  obtain ⟨request, hreq, h⟩ := h
  split at h
  · simp only [bind_ok, require_ok, exists_const, pure_ok] at h
    exact .inl (by rw [h.2])
  · split at h
    · simp only [bind_ok, require_ok, exists_const] at h
      exact stores rfl h.2
    · simp only [bind_ok, require_ok, exists_const, Db.insertReviewDecision, insertRow_ok, pure_ok] at h
      obtain ⟨-, -, -, -, -, _, ⟨ds, -, rfl⟩, h⟩ := h
      exact stores (settle_frame { db with reviewDecisions := ds } request decision.outcome).2 h

end ReviewService

theorem exec_replies (h : exec E db op = .ok db') : Replies E db op db'.idempotency := by
  have hframe := (exec_leavesAlone h).idempotency
  cases op <;> simp only [exec, map_ok, Prod.exists, exists_and_right, exists_eq_right] at h
  case createExperiment =>
    obtain ⟨_, h⟩ := h
    exact RunService.createExperiment_replies h
  case createRun =>
    obtain ⟨_, h⟩ := h
    exact RunService.createRun_replies h
  case transition =>
    obtain ⟨_, h⟩ := h
    exact RunService.transition_replies h
  case submitReview => exact ReviewService.submit_replies h
  all_goals exact .inl (hframe rfl)

theorem exec_replies_mono (h : exec E db op = .ok db') : ∀ r ∈ db.idempotency, r ∈ db'.idempotency := by
  obtain he | ⟨row, hins, -⟩ := exec_replies h
  · rw [he]; exact fun _ hr => hr
  · exact fun _ hr => (Table.mem_insert hins).2 (.inl hr)

theorem Later.replies (h : Later E db db') : ∀ r ∈ db.idempotency, r ∈ db'.idempotency :=
  Reaches.inv (fun d => ∀ r ∈ db.idempotency, r ∈ d.idempotency) (fun _ hr => hr)
    (fun _ _ _ ih _ he r hr => exec_replies_mono he r (ih r hr)) h

theorem reachable_replies (h : Reachable E db) :
    ∀ r ∈ db.idempotency, ∀ r' ∈ db.idempotency, r.SameKey r' → r = r' := by
  refine Reaches.inv (fun d => ∀ r ∈ d.idempotency, ∀ r' ∈ d.idempotency, r.SameKey r' → r = r')
    (fun r hr => absurd hr (Table.not_mem_empty r)) ?_ h
  intro d op d' hi _ he r hr r' hr' hk
  obtain hsame | ⟨row, hins, -, hnew⟩ := exec_replies he
  · rw [hsame] at hr hr'
    exact hi r hr r' hr' hk
  · rcases (Table.mem_insert hins).1 hr with hr | rfl <;> rcases (Table.mem_insert hins).1 hr' with hr' | rfl
    · exact hi r hr r' hr' hk
    · exact absurd hk (hnew r hr)
    · exact absurd ⟨hk.1.symm, hk.2.1.symm, hk.2.2.symm⟩ (hnew r' hr')
    · rfl

/-! ## Runs stay -/

def HasRun (db : Db) (runId : String) : Prop := (db.runs.get? runId).isSome = true ∧ (db.ledgers.get? runId).isSome = true

theorem exec_hasRun (h : exec E db op = .ok db') (hr : HasRun db runId) : HasRun db' runId := by
  cases exec_ledger h with
  | opened _ hset hl _ =>
    exact ⟨hset.isSome_mono hr.1, (Table.sets_insert hl).isSome_mono hr.2⟩
  | kept hruns hledgers => exact ⟨by rw [hruns]; exact hr.1, by rw [hledgers.ledgers_isSome]; exact hr.2⟩

theorem Later.hasRun (h : Later E db db') (hr : HasRun db runId) : HasRun db' runId :=
  Reaches.inv (fun d => HasRun d runId) hr (fun _ _ _ hr _ he => exec_hasRun he hr) h

theorem Later.experiments (h : Later E db db') {x : ExperimentRow} (hx : db.experiments.get? k = some x) :
    db'.experiments.get? k = some x :=
  Reaches.inv (fun d => d.experiments.get? k = some x) hx (fun _ _ _ hx _ he => (exec_leavesAlone he).experiments k x hx) h

theorem exec_experimentId (h : exec E db op = .ok db') (hr : db.runs.get? k = some run) :
    ∃ run', db'.runs.get? k = some run' ∧ run'.experimentId = run.experimentId := by
  have moved {r r' : RunRow} (hset : db.runs.Sets r' db'.runs) (hrow : db.runs.get? r.runId = some r) (hk : r'.runId = r.runId)
      (he : r'.experimentId = r.experimentId) : ∃ run', db'.runs.get? k = some run' ∧ run'.experimentId = run.experimentId := by
    by_cases hkey : k = r'.runId
    · subst hkey
      rw [hk] at hr
      cases hrow.symm.trans hr
      exact ⟨r', hset.get?_self, he⟩
    · exact ⟨run, by rw [hset.get?_ne hkey]; exact hr, rfl⟩
  cases exec_journal h with
  | quiet hruns _ _ _ => exact ⟨run, by rw [hruns]; exact hr, rfl⟩
  | logged hrow _ hlog _ => exact moved hlog.1 hrow rfl rfl
  | extended _ hrow _ _ _ hlog _ => exact moved hlog.1 hrow rfl rfl
  | @created r _ _ _ _ hfresh hset _ _ _ _ _ =>
    refine ⟨run, ?_, rfl⟩
    rw [hset.get?_ne fun hk => hfresh run (Table.get?_mem hr) ((Table.get?_key hr).trans hk)]
    exact hr

theorem Later.experimentId (h : Later E db db') (hr : db.runs.get? k = some run) :
    ∃ run', db'.runs.get? k = some run' ∧ run'.experimentId = run.experimentId := by
  refine Reaches.inv (fun d => ∃ run', d.runs.get? k = some run' ∧ run'.experimentId = run.experimentId) ⟨run, hr, rfl⟩ ?_ h
  rintro d op d' ⟨r, hr, he⟩ - hexec
  obtain ⟨r', hr', he'⟩ := exec_experimentId hexec hr
  exact ⟨r', hr', he'.trans he⟩

end AvoCorrelate
