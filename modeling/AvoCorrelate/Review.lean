import AvoCorrelate.Candidates
/-!
# Human review

Once a decision asks for a human review of a candidate, the candidate should
enter the lineage only with an approved review. `commit_admission` asks for the
approval when the candidate's stored state is `review_required` at that moment;
a new evaluation, or another decision in between, rewrites that state.
-/
open AvoLib

namespace AvoCorrelate

/-- An approved review request to admit the candidate. -/
def Approved (db : Db) (candidateId : String) : Prop :=
  ∃ r ∈ db.reviews, r.request.candidateId = candidateId ∧ r.request.action = "candidate.admit" ∧ r.state = .approved

def reviewAsked (db : Db) (candidateId : String) : Bool :=
  db.admissions.rows.any fun a => a.candidateId = candidateId ∧ a.outcome = .reviewRequired

/-- The gate sees what it needs: with no approval yet, a new admission of a
candidate whose review was asked for finds it in `review_required`, and a review
is asked for before the candidate is in the lineage. -/
def reviewSafe (db : Db) : Op → Bool
  | .commitAdmission _ decision _ _ =>
    (db.admissions.get? decision.admissionId).isSome ||
      (EvidenceService.approvedReview db decision.candidateId).isSome ||
      match decision.outcome with
      | .admits => !reviewAsked db decision.candidateId ||
          (db.candidates.get? decision.candidateId).all fun c => c.state = .lifecycle .reviewRequired
      | .reviewRequired => db.lineage.rows.all fun l => l.candidateId ≠ decision.candidateId
      | _ => true
  | _ => true

variable {db db' : Db} {candidateId : String} {op : Op}

theorem approved_of_isSome (h : (EvidenceService.approvedReview db candidateId).isSome = true) :
    Approved db candidateId := by
  obtain ⟨r, hr⟩ := Option.isSome_iff_exists.1 h
  have hp := Table.find?_holds hr
  simp only [decide_eq_true_eq] at hp
  exact ⟨r, Table.find?_mem hr, hp⟩

theorem Approved.keep (h : Approved db candidateId) (hk : KeepsApproved db db') : Approved db' candidateId := by
  obtain ⟨r, hr, hc, ha, hs⟩ := h
  exact ⟨r, hk r hr hs, hc, ha, hs⟩

structure ReviewInv (db : Db) : Prop where
  /-- Decisions are about candidates. -/
  rooted : ∀ a ∈ db.admissions, (db.candidates.get? a.candidateId).isSome = true
  /-- A candidate in the lineage whose review was asked for has an approval. -/
  gated : ∀ a ∈ db.admissions, a.outcome = .reviewRequired → ∀ l ∈ db.lineage, l.candidateId = a.candidateId →
    Approved db a.candidateId

theorem CandidateStep.keepsApproved (h : CandidateStep db op db') : KeepsApproved db db' := by
  cases h with
  | same _ _ _ hr => exact hr
  | seeded _ _ _ _ _ _ hr => exact keepsApproved_of_eq hr
  | staged _ _ _ hr => exact keepsApproved_of_eq hr
  | evaluated _ _ _ _ _ _ hr => exact keepsApproved_of_eq hr
  | blocked _ _ _ _ _ hr => exact keepsApproved_of_eq hr
  | decided _ _ _ _ _ _ hr _ => exact keepsApproved_of_eq hr

theorem ReviewInv.keep (hi : ReviewInv db) (h : CandidateStep db op db') (ha : db'.admissions = db.admissions)
    (hl : db'.lineage = db.lineage) : ReviewInv db' := by
  refine ⟨fun a hm => ?_, fun a hm ho l hlm hk => ?_⟩
  · obtain ⟨c, hc⟩ := Option.isSome_iff_exists.1 (hi.rooted a (ha ▸ hm))
    obtain ⟨c', hc', -⟩ := h.keeps hc
    rw [hc']
    rfl
  · exact (hi.gated a (ha ▸ hm) ho l (hl ▸ hlm) hk).keep h.keepsApproved

theorem reviewAsked_of_mem {a : AdmissionRow} (hm : a ∈ db.admissions) (ho : a.outcome = .reviewRequired) :
    reviewAsked db a.candidateId = true := by
  simp only [reviewAsked, List.any_eq_true, decide_eq_true_eq]
  exact ⟨a, hm, rfl, ho⟩

theorem CandidateStep.reviewed (h : CandidateStep db op db') (hsafe : reviewSafe db op = true) (hi : ReviewInv db) :
    ReviewInv db' := by
  cases id h with
  | same _ ha hl _ => exact hi.keep h ha hl
  | staged _ ha hl _ => exact hi.keep h ha hl
  | evaluated _ _ _ _ ha hl _ => exact hi.keep h ha hl
  | blocked _ _ _ ha hl _ => exact hi.keep h ha hl
  | @seeded c entry m hm hentry hfresh hc ha hl hr =>
    refine ⟨fun a hma => ?_, fun a hma ho l hlm hk => ?_⟩
    · obtain ⟨x, hx⟩ := Option.isSome_iff_exists.1 (hi.rooted a (ha ▸ hma))
      obtain ⟨x', hx', -⟩ := h.keeps hx
      rw [hx']
      rfl
    · rw [ha] at hma
      rcases (Table.mem_insert hl).1 hlm with hlm | rfl
      · exact (hi.gated a hma ho l hlm hk).keep h.keepsApproved
      · -- The seed is a new candidate, so nothing was decided about it.
        obtain ⟨x, hx⟩ := Option.isSome_iff_exists.1 (hi.rooted a hma)
        exact absurd ((Table.get?_key hx).trans (hk.symm.trans hentry)) (Table.insert?_fresh hc x (Table.get?_mem hx))
  | @decided runId decision lineageId ids run c digest hop hnew hrun hget hc ha hr hl =>
    have hcid : c.candidateId = decision.candidateId := Table.get?_key hget
    have hkeep := h.keepsApproved
    subst hop
    simp only [reviewSafe, hnew, Option.isSome_none, Bool.false_or, Bool.or_eq_true] at hsafe
    refine ⟨fun a hma => ?_, fun a hma ho l hlm hk => ?_⟩
    · have hsome : (db.candidates.get? a.candidateId).isSome = true := by
        rcases (Table.mem_insert ha).1 hma with hma | rfl
        · exact hi.rooted a hma
        · change (db.candidates.get? decision.candidateId).isSome = true
          rw [hget]
          rfl
      obtain ⟨x, hx⟩ := Option.isSome_iff_exists.1 hsome
      obtain ⟨x', hx', -⟩ := h.keeps hx
      rw [hx']
      rfl
    · rcases (Table.mem_insert ha).1 hma with hma | rfl
      · rcases hl with ⟨-, hl⟩ | ⟨hadm, hreview, entry, -, hec, -, hl⟩
        · exact (hi.gated a hma ho l (hl ▸ hlm) hk).keep hkeep
        · rcases (Table.mem_insert hl).1 hlm with hlm | rfl
          · exact (hi.gated a hma ho l hlm hk).keep hkeep
          · -- The admitted candidate is the one whose review was asked for.
            have hka : a.candidateId = decision.candidateId := hk.symm.trans (hec.trans hcid)
            have hasked := reviewAsked_of_mem hma ho
            rw [hka] at hasked ⊢
            rw [hadm] at hsafe
            simp only [hasked, hget, Bool.not_true, Bool.false_or, Option.all_some, decide_eq_true_eq] at hsafe
            rcases hsafe with hsafe | hsafe
            · exact (approved_of_isSome hsafe).keep hkeep
            · exact (approved_of_isSome (hreview hsafe)).keep hkeep
      · -- The new decision asks for the review of a candidate that is not in the lineage.
        have ho : decision.outcome = .reviewRequired := ho
        have hk : l.candidateId = decision.candidateId := hk
        rcases hl with ⟨-, hl⟩ | ⟨hadm, -⟩
        · rw [hl] at hlm
          rw [ho] at hsafe
          rcases hsafe with hsafe | hsafe
          · exact (approved_of_isSome hsafe).keep hkeep
          · have := List.all_eq_true.1 hsafe l hlm
            simp [hk] at this
        · rw [ho] at hadm
          cases hadm

theorem initial_review : ReviewInv Db.initial :=
  ⟨fun _ h => absurd h (Table.not_mem_empty _), fun _ h => absurd h (Table.not_mem_empty _)⟩

/-- Human review cannot be bypassed, in every run of calls whose gate sees what
it needs: a candidate whose review was asked for at some point is in a lineage,
or a run's champion, only with an approved review to admit it. -/
theorem review_not_bypassed {E : Env} {db : Db} (h : ReachableWhen E (fun db op => reviewSafe db op = true) db) :
    ∀ a ∈ db.admissions, a.outcome = .reviewRequired →
      ((∃ l ∈ db.lineage, l.candidateId = a.candidateId) ∨ ∃ run ∈ db.runs, run.championId = some a.candidateId) →
      Approved db a.candidateId := by
  have hi : ReviewInv db :=
    Reaches.inv ReviewInv initial_review (fun _ _ _ hi hs he => (exec_candidates he).reviewed hs hi) h
  rintro a ha ho (⟨l, hl, hk⟩ | ⟨run, hrun, hchamp⟩)
  · exact hi.gated a ha ho l hl hk
  · obtain ⟨-, -, -, entry, hlast, he⟩ := (reachable_journal h.reachable).integrity run hrun
    have hmem : entry ∈ db.lineage := (List.mem_filter.1 (List.mem_of_getLast? hlast)).1
    exact hi.gated a ha ho entry hmem (Option.some.inj (he.symm.trans hchamp))

/-- A candidate sent to review. -/
def Sample.inReview : List Op :=
  Sample.prepared ++ [Sample.staged "run" "cand" ["seed-run"], Sample.evaluated "cand" "eval-1",
    Sample.decided "run" "cand" "seed-run" "eval-1" "review" .reviewRequired]

/-- One reviewer approves, and the candidate is admitted. -/
def Sample.reviewed : List Op :=
  Sample.inReview ++
    [.createReview ⟨"rev", "run", "cand", "candidate.admit", "proposer", ["maintainer"], 1, false, [], 100, 0⟩,
      .submitReview ⟨"vote", "rev", "reviewer", "maintainer", .approve, [], 5⟩ none none 5 "",
      Sample.decided "run" "cand" "seed-run" "eval-1" "yes" .admits]

theorem review_not_bypassed_reviewed :
    (after Sample.env Sample.reviewed).lineage.rows.map (·.candidateId) = ["seed-run", "cand"] ∧
      Approved (after Sample.env Sample.reviewed) "cand" := by
  have hasked : ∃ a ∈ (after Sample.env Sample.reviewed).admissions.rows, a.outcome = .reviewRequired ∧
      a.candidateId = "cand" := by decide
  have hin : ∃ l ∈ (after Sample.env Sample.reviewed).lineage.rows, l.candidateId = "cand" := by decide
  obtain ⟨a, ha, ho, hk⟩ := hasked
  obtain ⟨l, hl, hlk⟩ := hin
  refine ⟨by decide, ?_⟩
  rw [← hk]
  exact review_not_bypassed (reachableWhen_after (by decide)) a ha ho (.inl ⟨l, hl, hlk.trans hk.symm⟩)

/-- Evaluating the candidate under another key takes it out of `review_required`,
and it is admitted with no review at all. -/
theorem evaluation_bypasses_review :
    ¬ ∀ E db, Reachable E db → ∀ a ∈ db.admissions, a.outcome = .reviewRequired →
      ((∃ l ∈ db.lineage, l.candidateId = a.candidateId) ∨ ∃ run ∈ db.runs, run.championId = some a.candidateId) →
      Approved db a.candidateId := by
  intro h
  let ops : List Op := Sample.inReview ++ [Sample.evaluated "cand" "eval-2",
    Sample.decided "run" "cand" "seed-run" "eval-2" "yes" .admits]
  have hasked : ∃ a ∈ (after Sample.env ops).admissions.rows, a.outcome = .reviewRequired ∧ a.candidateId = "cand" := by
    decide
  have hin : ∃ l ∈ (after Sample.env ops).lineage.rows, l.candidateId = "cand" := by decide
  have hnone : (after Sample.env ops).reviews.rows = [] := by decide
  obtain ⟨a, ha, ho, hk⟩ := hasked
  obtain ⟨l, hl, hlk⟩ := hin
  obtain ⟨r, hr, -⟩ := h Sample.env (after Sample.env ops) (reachable_after (by decide)) a ha ho
    (.inl ⟨l, hl, hlk.trans hk.symm⟩)
  rw [Table.mem_def, hnone] at hr
  cases hr

end AvoCorrelate
