import AvoCorrelate.Review
import AvoCorrelate.Lib.Histories
/-!
# Expired reviews

`ReviewService.submit` marks an expired request and raises, both inside one session of
the database, and a session that is left by an exception is rolled back.
-/
open AvoLib

namespace AvoCorrelate

/-- The statements of a session: what it has written when it ends, or the exception with
what it had written by then. -/
abbrev Statements := Except (Err × Db) Db

/-- A statement that raises with this much written. -/
def Db.raising {α : Type} (db : Db) (x : Except Err α) : Except (Err × Db) α := x.mapError fun e => (e, db)

/-- `Database.session`: committed on a normal exit, rolled back otherwise. -/
def Db.session (db : Db) : Statements → Except Err Unit × Db
  | .ok written => (.ok (), written)
  | .error (e, _) => (.error e, db)

namespace ReviewService

/-- The expiry check of `submit`. -/
def checkExpiry (db : Db) (request : ReviewRequestRow) (now : Instant) : Except (Err × Db) Unit :=
  if request.request.expiresAt ≤ now then
    (db.setReviewState request.reviewId .expired).raising (.error ⟨.reviewAuthorization, "review request expired"⟩)
  else .ok ()

/-- The statements of `submit`. -/
def submitStatements (E : Env) (db : Db) (decision : ReviewDecision) (actorId idempotencyKey : Option String) (now : Instant)
    (recordId : String) : Statements := do
  let request ← db.raising (orRaise (db.reviews.get? decision.reviewId) ⟨.reviewAuthorization, "review request does not exist"⟩)
  let digest := E.canonicalDigest (.reviewDecision decision)
  let scope := "reviews." ++ decision.reviewId ++ ".decisions"
  match replayed db actorId idempotencyKey scope with
  | some record => do
    db.raising (require (record.requestDigest = digest)
      ⟨.reviewConflict, "idempotency key was already used for a different review decision"⟩)
    return db
  | none =>
    match db.reviewDecisions.get? decision.decisionId with
    | some prior => do
      db.raising (require (prior.decisionDigest = digest) ⟨.reviewConflict, "review decision ID has other evidence"⟩)
      db.raising (recordIdempotency db actorId idempotencyKey scope digest decision.decisionId recordId)
    | none => do
      db.raising (require (request.state = .pending) ⟨.reviewAuthorization, "review is already " ++ request.state.value⟩)
      checkExpiry db request now
      db.raising (require (decision.reviewerRole ∈ request.request.eligibleRoles)
        ⟨.reviewAuthorization, "reviewer role is not eligible"⟩)
      db.raising (require (decision.reviewerId = request.request.proposerId → request.request.proposerMayReview = true)
        ⟨.reviewAuthorization, "proposer cannot review this action"⟩)
      db.raising (require (∀ e ∈ request.request.requiredEvidenceDigests, e ∈ decision.evidenceDigests)
        ⟨.reviewAuthorization, "required review evidence is missing"⟩)
      let added ← db.raising (db.insertReviewDecision ⟨decision.decisionId, decision.reviewId, decision.reviewerId,
        decision.outcome, digest, decision⟩)
      let settled := settle added request decision.outcome
      settled.raising (recordIdempotency settled actorId idempotencyKey scope digest decision.decisionId recordId)

section Submit
variable {E : Env} {db : Db} {decision : ReviewDecision} {actorId idempotencyKey : Option String} {now : Instant} {recordId : String}

theorem mapError_bind {ε ε' α β : Type} {f : ε → ε'} {x : Except ε α} {g : α → Except ε β} :
    (x >>= g).mapError f = x.mapError f >>= fun a => (g a).mapError f := by
  cases x <;> rfl

theorem raising_fst {α : Type} {x : Except Err α} : (db.raising x).mapError Prod.fst = x := by
  cases x <;> rfl

theorem checkExpiry_fst {request : ReviewRequestRow} : (checkExpiry db request now).mapError Prod.fst =
    require (now < request.request.expiresAt) ⟨.reviewAuthorization, "review request expired"⟩ := by
  unfold checkExpiry require
  by_cases h : request.request.expiresAt ≤ now
  · rw [if_pos h, if_neg (Int.not_lt.mpr h)]
    rfl
  · rw [if_neg h, if_pos (Int.not_le.mp h)]
    rfl

theorem submitStatements_fst : (submitStatements E db decision actorId idempotencyKey now recordId).mapError Prod.fst =
    submit E db decision actorId idempotencyKey now recordId := by
  unfold submitStatements submit
  simp only [mapError_bind, raising_fst]
  refine bind_congr fun request => ?_
  cases replayed db actorId idempotencyKey ("reviews." ++ decision.reviewId ++ ".decisions") with
  | some record =>
    simp only [mapError_bind, raising_fst]
    rfl
  | none =>
    cases db.reviewDecisions.get? decision.decisionId with
    | some prior => simp only [mapError_bind, raising_fst]
    | none => simp only [mapError_bind, raising_fst, checkExpiry_fst]

/-- The call is durable in the way the session left it. -/
theorem session_submit : attempt (exec E) db (.submitReview decision actorId idempotencyKey now recordId) =
    (db.session (submitStatements E db decision actorId idempotencyKey now recordId)).2 := by
  have hsubmit : exec E db (.submitReview decision actorId idempotencyKey now recordId) =
      (submitStatements E db decision actorId idempotencyKey now recordId).mapError Prod.fst := submitStatements_fst.symm
  unfold attempt
  rw [hsubmit]
  cases submitStatements E db decision actorId idempotencyKey now recordId with
  | ok written => rfl
  | error e => rfl

/-- A decision that nothing recorded yet, about a pending request. -/
structure NewDecision (db : Db) (decision : ReviewDecision) (actorId idempotencyKey : Option String) (request : ReviewRequestRow) :
    Prop where
  found : db.reviews.get? decision.reviewId = some request
  pending : request.state = .pending
  unreplayed : replayed db actorId idempotencyKey ("reviews." ++ decision.reviewId ++ ".decisions") = none
  unrecorded : db.reviewDecisions.get? decision.decisionId = none

/-- The call raises, and from then on the stored request has expired. -/
def ExpiresDurably (E : Env) (db : Db) (decision : ReviewDecision) (actorId idempotencyKey : Option String) (now : Instant)
    (recordId : String) : Prop :=
  let left := db.session (submitStatements E db decision actorId idempotencyKey now recordId)
  (∃ e, left.1 = .error e) ∧ ∀ db', Later E left.2 db' → ∃ r, db'.reviews.get? decision.reviewId = some r ∧ r.state = .expired

theorem statements_of_expired {request : ReviewRequestRow} (h : NewDecision db decision actorId idempotencyKey request)
    (hexpired : request.request.expiresAt ≤ now) : submitStatements E db decision actorId idempotencyKey now recordId =
      .error (⟨.reviewAuthorization, "review request expired"⟩, db.setReviewState request.reviewId .expired) := by
  have hcheck : checkExpiry db request now =
      .error (⟨.reviewAuthorization, "review request expired"⟩, db.setReviewState request.reviewId .expired) := if_pos hexpired
  simp only [submitStatements, h.found, h.unreplayed, h.unrecorded, orRaise, Db.raising, ok_mapError, bind, Except.bind, require,
    h.pending, if_true, hcheck]

/-- No late decision expires its request: the call raises, and what it had written is rolled back. -/
theorem late_decision_never_expires {request : ReviewRequestRow} (h : NewDecision db decision actorId idempotencyKey request)
    (hexpired : request.request.expiresAt ≤ now) :
    db.session (submitStatements E db decision actorId idempotencyKey now recordId) =
        (.error ⟨.reviewAuthorization, "review request expired"⟩, db) ∧
      ¬ ExpiresDurably E db decision actorId idempotencyKey now recordId := by
  have hleft : db.session (submitStatements E db decision actorId idempotencyKey now recordId) =
      (.error ⟨.reviewAuthorization, "review request expired"⟩, db) := by
    rw [statements_of_expired h hexpired]
    rfl
  refine ⟨hleft, fun hdurable => ?_⟩
  unfold ExpiresDurably at hdurable
  rw [hleft] at hdurable
  obtain ⟨r, hr, hstate⟩ := hdurable.2 db .init
  cases h.found.symm.trans hr
  cases h.pending.symm.trans hstate

end Submit

end ReviewService

open ReviewService

/-- A review of the candidate, which expires at 100. -/
def Sample.requested : List Op :=
  Sample.inReview ++ [.createReview ⟨"rev", "run", "cand", "candidate.admit", "proposer", ["maintainer"], 1, false, [], 100, 0⟩]

def Sample.late : ReviewDecision := ⟨"vote", "rev", "reviewer", "maintainer", .approve, [], 100⟩

theorem Sample.pending : ∃ request, NewDecision (after Sample.env Sample.requested) Sample.late none none request ∧
    request.request.expiresAt ≤ 100 := by
  have hfound : ((after Sample.env Sample.requested).reviews.get? "rev").map (fun r => (r.state, r.request.expiresAt)) =
      some (.pending, 100) := by decide
  obtain ⟨request, hrequest, hrow⟩ := Option.map_eq_some_iff.mp hfound
  exact ⟨request, ⟨hrequest, congrArg Prod.fst hrow, rfl, by decide⟩, Int.le_of_eq (congrArg Prod.snd hrow)⟩

theorem late_decision_never_expires_vote :
    (after Sample.env Sample.requested).session
        (submitStatements Sample.env (after Sample.env Sample.requested) Sample.late none none 100 "") =
      (.error ⟨.reviewAuthorization, "review request expired"⟩, after Sample.env Sample.requested) := by
  obtain ⟨request, hnew, hexpired⟩ := Sample.pending
  exact (late_decision_never_expires hnew hexpired).1

/-- A late vote on a pending review of a reachable database leaves the review pending. -/
theorem late_vote_leaves_pending : Reachable Sample.env (after Sample.env Sample.requested) ∧
    ¬ ∀ E db decision actorId key request now recordId, Reachable E db → NewDecision db decision actorId key request →
      request.request.expiresAt ≤ now → ExpiresDurably E db decision actorId key now recordId := by
  have hreach : Reachable Sample.env (after Sample.env Sample.requested) := reachable_after (by decide)
  refine ⟨hreach, fun h => ?_⟩
  obtain ⟨request, hnew, hexpired⟩ := Sample.pending
  have hdurable := h Sample.env _ Sample.late none none request 100 "" hreach hnew hexpired
  unfold ExpiresDurably at hdurable
  rw [statements_of_expired hnew hexpired] at hdurable
  obtain ⟨r, hr, hstate⟩ := hdurable.2 _ .init
  cases hnew.found.symm.trans hr
  cases hnew.pending.symm.trans hstate

end AvoCorrelate
