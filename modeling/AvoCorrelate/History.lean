import AvoCorrelate.Approval
import AvoCorrelate.Cap
import AvoCorrelate.Replay
/-!
# What stays on record

No call takes back what an earlier one put on record. `Preserved` says which rows of a
database another one still has; one call preserves them, so every later database does.
-/
open AvoLib

namespace AvoCorrelate

variable {E : Env} {db db' db₁ : Db} {op : Op}

/-- What is on record in `db` is on record in `db'`. Runs move, candidates are judged and
pending reviews are decided, but their names, manifests and requests stay; what a budget
was charged with stays charged. -/
structure Preserved (db db' : Db) : Prop where
  events : ∀ e ∈ db.events, e ∈ db'.events
  lineage : ∀ e ∈ db.lineage, e ∈ db'.lineage
  admissions : ∀ a ∈ db.admissions, a ∈ db'.admissions
  candidates : ∀ k c, db.candidates.get? k = some c →
    ∃ c', db'.candidates.get? k = some c' ∧ c'.manifest = c.manifest ∧ c'.runId = c.runId
  reviews : ∀ r ∈ db.reviews, (r.state ≠ .pending → r ∈ db'.reviews) ∧
    ∃ r' ∈ db'.reviews, r'.reviewId = r.reviewId ∧ r'.request = r.request
  decisions : ∀ d ∈ db.reviewDecisions, d ∈ db'.reviewDecisions
  replies : ∀ r ∈ db.idempotency, r ∈ db'.idempotency
  ledgers : ∀ k l, db.ledgers.get? k = some l →
    ∃ l', db'.ledgers.get? k = some l' ∧ l'.limit = l.limit ∧ ∀ d, l.used.get d ≤ l'.used.get d

theorem Db.Journals.keeps {runId : String} {n : Nat} (h : db.Journals runId n db') : ∀ e ∈ db.events, e ∈ db'.events := by
  obtain ⟨_, _, -, -, -, he, -⟩ := h
  exact fun e hm => (Table.mem_insert he).mpr (.inl hm)

theorem JournalsFirst.keeps {runId : String} {n : Nat} (h : JournalsFirst db runId n db') :
    ∀ e ∈ db.events, e ∈ db'.events := by
  induction n generalizing db' with
  | zero => exact fun e hm => h.1 ▸ hm
  | succ n ih =>
    obtain ⟨d, hd, hj⟩ := h
    exact fun e hm => hj.keeps e (ih hd e hm)

theorem JournalStep.keeps (h : JournalStep db db') :
    (∀ e ∈ db.events, e ∈ db'.events) ∧ ∀ e ∈ db.lineage, e ∈ db'.lineage := by
  cases h with
  | quiet _ he _ hl => exact ⟨fun e hm => he ▸ hm, fun e hm => hl ▸ hm⟩
  | logged _ _ hlog hl => exact ⟨hlog.2.keeps, fun e hm => hl ▸ hm⟩
  | extended _ _ _ _ _ hlog hl => exact ⟨hlog.2.keeps, fun e hm => (Table.mem_insert hl).mpr (.inl hm)⟩
  | created _ _ _ _ hj _ _ _ hl => exact ⟨hj.keeps, fun e hm => (Table.mem_insert hl).mpr (.inl hm)⟩

theorem CandidateStep.admitted (h : CandidateStep db op db') : ∀ a ∈ db.admissions, a ∈ db'.admissions := by
  cases h with
  | decided _ _ _ _ _ hads _ _ => exact fun a hm => (Table.mem_insert hads).mpr (.inl hm)
  | same _ ha _ _ | seeded _ _ _ _ ha _ _ | staged _ ha _ _ | evaluated _ _ _ _ ha _ _ | blocked _ _ _ ha _ _ =>
    exact fun a hm => ha ▸ hm

theorem Preserved.trans (h : Preserved db db₁) (h' : Preserved db₁ db') : Preserved db db' where
  events e hm := h'.events e (h.events e hm)
  lineage e hm := h'.lineage e (h.lineage e hm)
  admissions a hm := h'.admissions a (h.admissions a hm)
  candidates k c hc := by
    obtain ⟨c₁, hc₁, hm₁, hr₁⟩ := h.candidates k c hc
    obtain ⟨c', hc', hm', hr'⟩ := h'.candidates k c₁ hc₁
    exact ⟨c', hc', hm'.trans hm₁, hr'.trans hr₁⟩
  reviews r hm := by
    obtain ⟨r₁, hm₁, hid₁, hreq₁⟩ := (h.reviews r hm).2
    obtain ⟨r', hm', hid', hreq'⟩ := (h'.reviews r₁ hm₁).2
    exact ⟨fun hs => (h'.reviews r ((h.reviews r hm).1 hs)).1 hs, r', hm', hid'.trans hid₁, hreq'.trans hreq₁⟩
  decisions d hm := h'.decisions d (h.decisions d hm)
  replies r hm := h'.replies r (h.replies r hm)
  ledgers k l hl := by
    obtain ⟨l₁, hl₁, hlim₁, hu₁⟩ := h.ledgers k l hl
    obtain ⟨l', hl', hlim', hu'⟩ := h'.ledgers k l₁ hl₁
    exact ⟨l', hl', hlim'.trans hlim₁, fun d => Nat.le_trans (hu₁ d) (hu' d)⟩

theorem exec_preserves (ho : Owned db) (h : exec E db op = .ok db') : Preserved db db' where
  events := (exec_journal h).keeps.1
  lineage := (exec_journal h).keeps.2
  admissions := (exec_candidates h).admitted
  candidates _ _ hc := (exec_candidates h).keeps hc
  reviews _ hm := exec_reviews_kept h hm
  decisions _ hm := exec_decisions_kept h hm
  replies := exec_replies_mono h
  ledgers _ _ hl := Later.ledger (.step .init trivial h) ho hl

theorem Preserved.refl (db : Db) : Preserved db db where
  events _ hm := hm
  lineage _ hm := hm
  admissions _ hm := hm
  candidates _ c hc := ⟨c, hc, rfl, rfl⟩
  reviews r hm := ⟨fun _ => hm, r, hm, rfl, rfl⟩
  decisions _ hm := hm
  replies _ hm := hm
  ledgers _ l hl := ⟨l, hl, rfl, fun _ => Nat.le_refl _⟩

/-- Whatever calls follow, nothing that is on record is lost or rewritten, and no budget
gets back what was charged to it. -/
theorem record_preserved (h : Reachable E db) (hlater : Later E db db') : Preserved db db' := by
  suffices hs : Reachable E db' ∧ Preserved db db' from hs.2
  refine Reaches.inv (fun d => Reachable E d ∧ Preserved db d) ⟨h, .refl db⟩ (fun _ _ _ hi _ he => ?_) hlater
  exact ⟨hi.1.step trivial he, hi.2.trans (exec_preserves (reachable_owned hi.1) he)⟩

theorem record_preserved_blocked :
    Preserved (after Sample.env Sample.cancelRequested) (after Sample.env Sample.cancelBlocked) :=
  record_preserved (reachable_after (by decide)) Sample.cancel_requested_later

/-- A stored reply is the answer to its request from then on, and no other request of
the actor gets through under its key. -/
theorem key_answers_once (h : Reachable E db) (hlater : Later E db db') {r : IdempotencyRow} (hr : r ∈ db.idempotency)
    (digest : String) : checkIdempotency db' r.actorId r.endpointScope (some r.idempotencyKey) digest =
      if digest = r.requestDigest then .ok (some r.resourceId)
      else .error ⟨.revisionConflict, "idempotency key was already used for a different request"⟩ := by
  have hr' := hlater.replies r hr
  simp only [checkIdempotency]
  split
  · next hnone => simpa using Table.find?_none hnone r hr'
  · next r' hfound =>
    have hk : r'.SameKey r := by simpa [IdempotencyRow.SameKey] using Table.find?_holds hfound
    obtain rfl := reachable_replies (h.trans hlater) r' (Table.find?_mem hfound) r hr' hk
    by_cases hd : digest = r'.requestDigest
    · simp [hd]
    · rw [if_neg hd, require, if_neg (Ne.symm hd)]
      rfl

theorem key_answers_once_blocked : ∃ r ∈ (after Sample.env Sample.cancelRequested).idempotency,
    checkIdempotency (after Sample.env Sample.cancelBlocked) r.actorId r.endpointScope (some r.idempotencyKey) "other" =
      .error ⟨.revisionConflict, "idempotency key was already used for a different request"⟩ := by
  have hrow : ∃ r ∈ (after Sample.env Sample.cancelRequested).idempotency.rows, "other" ≠ r.requestDigest := by decide
  obtain ⟨r, hr, hne⟩ := hrow
  refine ⟨r, hr, ?_⟩
  rw [key_answers_once (reachable_after (by decide)) Sample.cancel_requested_later hr, if_neg hne]

end AvoCorrelate
