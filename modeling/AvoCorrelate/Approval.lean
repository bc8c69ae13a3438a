import AvoCorrelate.Review
import AvoCorrelate.Frames
/-!
# Approved reviews

A request is approved by the decision that completes its approvals. `ApprovalInv` says
what the stored decisions then are; when each was taken is said by the run itself.
-/
open AvoLib

namespace AvoCorrelate

/-- What the stored reviews and decisions say of each other. -/
structure ApprovalInv (E : Env) (db : Db) : Prop where
  /-- a stored decision is that of its row -/
  rows : ∀ d ∈ db.reviewDecisions, d = ReviewService.decisionRow E d.decision
  /-- a reviewer decides once -/
  once : ∀ d ∈ db.reviewDecisions, ∀ d' ∈ db.reviewDecisions, d.reviewId = d'.reviewId → d.reviewerId = d'.reviewerId → d = d'
  /-- every decision was eligible for its request -/
  eligible : ∀ d ∈ db.reviewDecisions, ∃ r ∈ db.reviews, r.reviewId = d.reviewId ∧ ReviewService.Eligible r.request d.decision
  approved : ∀ r ∈ db.reviews, r.state = .approved → r.request.approvalsRequired ≤ ReviewService.approvals db r.reviewId
  rejected : ∀ d ∈ db.reviewDecisions, d.outcome = .reject → ∀ r ∈ db.reviews, r.reviewId = d.reviewId → r.state = .rejected

namespace ReviewService

theorem approvals_congr {db db' : Db} (h : db'.reviewDecisions = db.reviewDecisions) (reviewId : String) :
    approvals db' reviewId = approvals db reviewId := by
  unfold approvals
  rw [h]

theorem approvals_insert {db db' : Db} {d : ReviewDecisionRow} (h : db.reviewDecisions.insert? d = some db'.reviewDecisions)
    (reviewId : String) : approvals db reviewId ≤ approvals db' reviewId := by
  unfold approvals
  rw [Table.insert?_rows h, List.filter_append, List.length_append]
  exact Nat.le_add_right _ _

/-- What settling does to the requests: another request stays, and the settled one is
rejected, or approved with its approvals complete, or stays. -/
theorem mem_settle {db : Db} {request r : ReviewRequestRow} {outcome : ReviewOutcome}
    (hget : db.reviews.get? request.reviewId = some request) (hr : r ∈ (settle db request outcome).reviews) :
    (r ∈ db.reviews ∧ (r.reviewId = request.reviewId → r = request ∧ outcome = .approve)) ∨
      (outcome = .reject ∧ r = { request with state := .rejected }) ∨
      (outcome = .approve ∧ r = { request with state := .approved } ∧
        request.request.approvalsRequired ≤ approvals db request.reviewId) := by
  have hset (s : ReviewState) : db.reviews.Sets { request with state := s } (db.setReviewState request.reviewId s).reviews :=
    Table.sets_modify (fun r : ReviewRequestRow => { r with state := s }) (fun _ => rfl) hget
  cases outcome with
  | reject =>
    rcases (hset .rejected).mem_iff.1 hr with rfl | ⟨hr, hne⟩
    · exact .inr (.inl ⟨rfl, rfl⟩)
    · exact .inl ⟨hr, fun hk => absurd hk hne⟩
  | approve =>
    simp only [settle] at hr
    split at hr
    · next henough =>
      rcases (hset .approved).mem_iff.1 hr with rfl | ⟨hr, hne⟩
      · exact .inr (.inr ⟨rfl, rfl, henough⟩)
      · exact .inl ⟨hr, fun hk => absurd hk hne⟩
    · exact .inl ⟨hr, fun hk => ⟨Table.eq_of_key hr (Table.get?_mem hget) hk, rfl⟩⟩

theorem SettlesReview.kept {t t' : Table ReviewRequestRow.reviewId} (h : SettlesReview t t') {r : ReviewRequestRow} (hr : r ∈ t) :
    (r.state ≠ .pending → r ∈ t') ∧ ∃ r' ∈ t', r'.reviewId = r.reviewId ∧ r'.request = r.request := by
  rcases h with rfl | ⟨x, s, hx, hpending, hset⟩
  · exact ⟨fun _ => hr, r, hr, rfl, rfl⟩
  · by_cases hk : r.reviewId = x.reviewId
    · obtain rfl : r = x := Table.eq_of_key hr (Table.get?_mem hx) hk
      exact ⟨fun hs => absurd hpending hs, _, hset.mem_iff.2 (.inl rfl), rfl, rfl⟩
    · have hm : r ∈ t' := hset.mem_iff.2 (.inr ⟨hr, hk⟩)
      exact ⟨fun _ => hm, r, hm, rfl, rfl⟩

theorem Decides.settles {E : Env} {db db' : Db} {decision : ReviewDecision} {now : Instant} (h : Decides E db decision now db') :
    SettlesReview db.reviews db'.reviews := by
  cases h with
  | same hr _ => exact .inl hr
  | decided hget hpending _ _ _ _ _ hr₁ hr _ =>
    rw [← hr₁] at hget ⊢
    obtain ⟨rs, he, hs⟩ := settle_eq _ decision.outcome (Table.get?_self hget) hpending
    rw [hr, he]
    exact hs

end ReviewService

variable {E : Env} {db db' : Db} {decision : ReviewDecision} {op : Op} {r : ReviewRequestRow} {d : ReviewDecisionRow}

open ReviewService in
theorem ApprovalInv.decides {now : Instant} (hi : ApprovalInv E db) (h : Decides E db decision now db') :
    ApprovalInv E db' := by
  have hsettles := h.settles
  cases h with
  | same hr hd =>
    refine ⟨hd ▸ hi.rows, hd ▸ hi.once, ?_, ?_, ?_⟩
    · rw [hd, hr]; exact hi.eligible
    · rw [hr]
      intro r hm hs
      rw [approvals_congr hd]
      exact hi.approved r hm hs
    · rw [hd, hr]; exact hi.rejected
  | @decided request db₁ hget hpending hnow heligible hnew hfirst hinsert hr₁ hr hd =>
    have hkey : request.reviewId = decision.reviewId := Table.get?_key hget
    have hget₁ : db₁.reviews.get? request.reviewId = some request := by rw [hr₁, hkey]; exact hget
    have hmem {d : ReviewDecisionRow} : d ∈ db'.reviewDecisions ↔ d ∈ db.reviewDecisions ∨ d = decisionRow E decision := by
      rw [hd]; exact Table.mem_insert hinsert
    have happrovals (id : String) : approvals db' id = approvals db₁ id := approvals_congr hd id
    refine ⟨?_, ?_, ?_, ?_, ?_⟩
    · intro d hm
      rcases hmem.1 hm with hm | rfl
      · exact hi.rows d hm
      · rfl
    · intro d hm d' hm' hreview hreviewer
      rcases hmem.1 hm with hm | rfl <;> rcases hmem.1 hm' with hm' | rfl
      · exact hi.once d hm d' hm' hreview hreviewer
      · exact absurd ⟨hreview, hreviewer⟩ (hfirst d hm)
      · exact absurd ⟨hreview.symm, hreviewer.symm⟩ (hfirst d' hm')
      · rfl
    · intro d hm
      rcases hmem.1 hm with hm | rfl
      · obtain ⟨r, hr', hid, he⟩ := hi.eligible d hm
        obtain ⟨r', hm', hid', hreq⟩ := (hsettles.kept hr').2
        exact ⟨r', hm', hid'.trans hid, hreq ▸ he⟩
      · obtain ⟨r', hm', hid', hreq⟩ := (hsettles.kept (Table.get?_mem hget)).2
        exact ⟨r', hm', hid'.trans hkey, hreq ▸ heligible⟩
    · intro r hm hs
      rw [happrovals]
      rw [hr] at hm
      rcases mem_settle hget₁ hm with ⟨hm, -⟩ | ⟨-, rfl⟩ | ⟨-, rfl, henough⟩
      · rw [hr₁] at hm
        exact (hi.approved r hm hs).trans (approvals_insert hinsert r.reviewId)
      · cases hs
      · exact henough
    · intro d hm hreject r hr' hid
      rw [hr] at hr'
      rcases mem_settle hget₁ hr' with ⟨hr', hsame⟩ | ⟨-, rfl⟩ | ⟨happrove, rfl, -⟩
      · rw [hr₁] at hr'
        rcases hmem.1 hm with hm | rfl
        · exact hi.rejected d hm hreject r hr' hid
        · obtain ⟨-, happrove⟩ := hsame (hid.trans hkey.symm)
          exact absurd (happrove.symm.trans hreject) (by simp)
      · rfl
      · rcases hmem.1 hm with hm | rfl
        · have hrejected := hi.rejected d hm hreject request (Table.get?_mem hget) hid
          rw [hpending] at hrejected
          cases hrejected
        · exact absurd (happrove.symm.trans hreject) (by simp)

theorem ApprovalInv.of_eq (hi : ApprovalInv E db) (hr : db'.reviews = db.reviews)
    (hd : db'.reviewDecisions = db.reviewDecisions) : ApprovalInv E db' :=
  hi.decides (ReviewService.Decides.same hr hd : ReviewService.Decides E db ⟨"", "", "", "", .approve, [], 0⟩ 0 db')

theorem ApprovalInv.created {request : ReviewRequest} (hi : ApprovalInv E db)
    (hinsert : db.reviews.insert? ⟨request.reviewId, request, .pending⟩ = some db'.reviews)
    (hd : db'.reviewDecisions = db.reviewDecisions) : ApprovalInv E db' := by
  have hmem {r : ReviewRequestRow} : r ∈ db'.reviews ↔ r ∈ db.reviews ∨ r = ⟨request.reviewId, request, .pending⟩ :=
    Table.mem_insert hinsert
  refine ⟨hd ▸ hi.rows, hd ▸ hi.once, ?_, ?_, ?_⟩
  · intro d hm
    rw [hd] at hm
    obtain ⟨r, hr, he⟩ := hi.eligible d hm
    exact ⟨r, hmem.2 (.inl hr), he⟩
  · intro r hm hs
    rw [ReviewService.approvals_congr hd]
    rcases hmem.1 hm with hm | rfl
    · exact hi.approved r hm hs
    · cases hs
  · intro d hm hreject r hr hid
    rw [hd] at hm
    rcases hmem.1 hr with hr | rfl
    · exact hi.rejected d hm hreject r hr hid
    · obtain ⟨r, hr, hid', -⟩ := hi.eligible d hm
      exact absurd (hid'.trans hid.symm) (Table.insert?_fresh hinsert r hr)

theorem exec_reviews_kept (h : exec E db op = .ok db') (hr : r ∈ db.reviews) :
    (r.state ≠ .pending → r ∈ db'.reviews) ∧ ∃ r' ∈ db'.reviews, r'.reviewId = r.reviewId ∧ r'.request = r.request := by
  have hframe := exec_leavesAlone h
  cases op
  case createReview request =>
    obtain rfl | ⟨rs, rfl, hrs⟩ := ReviewService.create_ok h
    · exact ⟨fun _ => hr, r, hr, rfl, rfl⟩
    · have hm := (Table.mem_insert hrs).2 (.inl hr)
      exact ⟨fun _ => hm, r, hm, rfl, rfl⟩
  case submitReview => exact (ReviewService.submit_decides h).settles.kept hr
  all_goals
    rw [hframe.reviews rfl]
    exact ⟨fun _ => hr, r, hr, rfl, rfl⟩

theorem exec_decisions_kept (h : exec E db op = .ok db') (hd : d ∈ db.reviewDecisions) : d ∈ db'.reviewDecisions := by
  have hframe := exec_leavesAlone h
  cases op
  case createReview request =>
    obtain rfl | ⟨rs, rfl, -⟩ := ReviewService.create_ok h
    · exact hd
    · exact hd
  case submitReview =>
    cases ReviewService.submit_decides h with
    | same _ he => rw [he]; exact hd
    | decided _ _ _ _ _ _ hinsert _ _ he =>
      rw [he]
      exact (Table.mem_insert hinsert).2 (.inl hd)
  all_goals
    rw [hframe.decisions rfl]
    exact hd

theorem Later.decisions (h : Later E db db') (hd : d ∈ db.reviewDecisions) : d ∈ db'.reviewDecisions :=
  Reaches.inv (fun d' => d ∈ d'.reviewDecisions) hd (fun _ _ _ hm _ he => exec_decisions_kept he hm) h

/-! ## When a decision was taken -/

def AcceptedBefore (E : Env) (db : Db) (d : ReviewDecisionRow) (expiresAt : Instant) : Prop :=
  ∃ db₀ db₁ actorId key now recordId, Reachable E db₀ ∧
    exec E db₀ (.submitReview d.decision actorId key now recordId) = .ok db₁ ∧
    db₀.reviewDecisions.get? d.decisionId = none ∧ d ∈ db₁.reviewDecisions ∧ Later E db₁ db ∧ now < expiresAt

theorem AcceptedBefore.step {t : Instant} (h : AcceptedBefore E db d t) (he : exec E db op = .ok db') :
    AcceptedBefore E db' d t := by
  obtain ⟨db₀, db₁, actorId, key, now, recordId, h₀, hsubmit, hnew, hd, hlater, hnow⟩ := h
  exact ⟨db₀, db₁, actorId, key, now, recordId, h₀, hsubmit, hnew, hd, hlater.step trivial he, hnow⟩

namespace ReviewService
variable {E : Env} {db db' : Db} {decision : ReviewDecision} {actorId key : Option String} {now : Instant} {recordId : String}

def Known (db : Db) (decision : ReviewDecision) (actorId key : Option String) : Prop :=
  (∃ d ∈ db.reviewDecisions, d.decisionId = decision.decisionId) ∨
    ∃ a k, actorId = some a ∧ key = some k ∧ ∃ r ∈ db.idempotency, r.actorId = a ∧
      r.endpointScope = "reviews." ++ decision.reviewId ++ ".decisions" ∧ r.idempotencyKey = k

theorem Known.same (hk : Known db decision actorId key) (h : submit E db decision actorId key now recordId = .ok db') :
    db'.reviews = db.reviews ∧ db'.reviewDecisions = db.reviewDecisions := by
  simp only [submit, bind_ok, orRaise_ok] at h
  obtain ⟨request, hreq, h⟩ := h
  split at h
  · simp only [bind_ok, require_ok, exists_const, pure_ok] at h
    obtain ⟨-, rfl⟩ := h
    exact ⟨rfl, rfl⟩
  · next hnone =>
    split at h
    · simp only [bind_ok, require_ok, exists_const] at h
      obtain ⟨is, rfl⟩ := recordIdempotency_ok h.2
      exact ⟨rfl, rfl⟩
    · next hnew =>
      exfalso
      rcases hk with ⟨d, hd, hid⟩ | ⟨a, k, rfl, rfl, r, hr, ha, hs, hkey⟩
      · exact Table.get?_none hnew d hd hid
      · have hfalse := Table.find?_none hnone r hr
        simp [ha, hs, hkey] at hfalse

end ReviewService

theorem Later.known (h : Later E db db') {actorId key : Option String}
    (hk : ReviewService.Known db decision actorId key) : ReviewService.Known db' decision actorId key := by
  rcases hk with ⟨d, hd, hid⟩ | ⟨a, k, ha, hkey, r, hr, hrest⟩
  · exact .inl ⟨d, h.decisions hd, hid⟩
  · exact .inr ⟨a, k, ha, hkey, r, h.replies r hr, hrest⟩

/-! ## Soundness -/

end AvoCorrelate
