import AvoCorrelate.Journal
/-!
# The candidate lifecycle

`CandidateStep` says what every call does to the candidates, the admissions and
the lineage. `CANDIDATE_TRANSITIONS` is the closed table of candidate states, but
of the writers only the terminal settlement consults it: `record_evaluation`
moves any candidate to `evaluating`, and `commit_admission` any candidate to the
state of its decision.
-/
open AvoLib

namespace AvoCorrelate

/-- The reviews a call leaves approved stay approved. -/
def KeepsApproved (db db' : Db) : Prop :=
  ∀ r ∈ db.reviews, r.state = .approved → r ∈ db'.reviews

/-- What a committed call can do to candidates, admissions and the lineage. -/
inductive CandidateStep (db : Db) (op : Op) (db' : Db) : Prop
  | same (hc : db'.candidates = db.candidates) (ha : db'.admissions = db.admissions) (hl : db'.lineage = db.lineage)
    (hr : KeepsApproved db db')
  | seeded {c : CandidateRow} {entry : LineageRow} {m : SeedManifest} (hm : c.manifest = .seed m)
    (hentry : entry.candidateId = c.candidateId) (hfresh : ∀ r ∈ db.runs, r.runId ≠ entry.runId)
    (hc : db.candidates.insert? c = some db'.candidates) (ha : db'.admissions = db.admissions)
    (hl : db.lineage.insert? entry = some db'.lineage) (hr : db'.reviews = db.reviews)
  | staged {c : CandidateRow} (hc : db.candidates.insert? c = some db'.candidates)
    (ha : db'.admissions = db.admissions) (hl : db'.lineage = db.lineage) (hr : db'.reviews = db.reviews)
  | evaluated {record : EvaluationRecord} {key : String} {c : CandidateRow} (hop : op = .recordEvaluation record key)
    (hnew : ∀ e ∈ db.evaluations, ¬ (e.candidateId = record.candidateId ∧ e.evaluatorKey = key))
    (hget : db.candidates.get? record.candidateId = some c)
    (hc : db.candidates.Sets { c with state := .lifecycle .evaluating } db'.candidates)
    (ha : db'.admissions = db.admissions) (hl : db'.lineage = db.lineage) (hr : db'.reviews = db.reviews)
  | blocked {c : CandidateRow} (hget : db.candidates.get? c.candidateId = some c) (hs : c.state = .lifecycle .staged)
    (hc : db.candidates.Sets { c with state := .lifecycle .policyBlocked } db'.candidates)
    (ha : db'.admissions = db.admissions) (hl : db'.lineage = db.lineage) (hr : db'.reviews = db.reviews)
  | decided {runId : String} {decision : AdmissionDecision} {lineageId : String} {ids : Db.EventIds}
    {run : RunRow} {c : CandidateRow} {digest : String} (hop : op = .commitAdmission runId decision lineageId ids)
    (hnew : db.admissions.get? decision.admissionId = none) (hrun : db.runs.get? runId = some run)
    (hget : db.candidates.get? decision.candidateId = some c)
    (hc : db.candidates.Sets
      { c with state := .lifecycle (EvidenceService.terminalState decision.outcome) } db'.candidates)
    (ha : db.admissions.insert? (EvidenceService.admissionRow runId digest decision) = some db'.admissions)
    (hr : db'.reviews = db.reviews)
    (hl : (decision.outcome ≠ .admits ∧ db'.lineage = db.lineage) ∨
      (decision.outcome = .admits ∧
        (c.state = .lifecycle .reviewRequired →
          (EvidenceService.approvedReview db decision.candidateId).isSome = true) ∧
        ∃ entry : LineageRow, entry.runId = run.runId ∧ entry.candidateId = c.candidateId ∧
          entry.sequence = EvidenceService.nextLineage db run.runId ∧ db.lineage.insert? entry = some db'.lineage))

variable {db db' : Db} {E : Env} {op : Op} {c : CandidateRow} {k : String} {s : StoredCandidateState}

theorem keepsApproved_of_eq (h : db'.reviews = db.reviews) : KeepsApproved db db' :=
  fun _ hr _ => h ▸ hr

theorem keepsApproved_of_settles (h : ReviewService.SettlesReview db.reviews db'.reviews) : KeepsApproved db db' := by
  intro r hr hs
  rcases h with h | ⟨x, s, hx, hp, hset⟩
  · exact h ▸ hr
  · refine hset.mem_iff.2 (.inr ⟨hr, fun hk => ?_⟩)
    have he : r = x := Table.eq_of_key hr (Table.get?_mem hx) hk
    rw [he, hp] at hs
    cases hs

theorem exec_candidates (h : exec E db op = .ok db') : CandidateStep db op db' := by
  have unchanged (hd : db' = db) : CandidateStep db op db' := by
    subst hd
    exact .same rfl rfl rfl (keepsApproved_of_eq rfl)
  have same := exec_frame h
  cases op <;> simp only [exec, map_ok, Prod.exists, exists_and_right, exists_eq_right] at h
  case createRun =>
    obtain ⟨_, h⟩ := h
    obtain hd | ⟨runId, run, _, _, _, _, _, _, _, rfl, rfl, ⟨seed, _, _, _, hfresh, -, hcs, hlin, -⟩, -⟩ :=
      RunService.createRun_ok h
    · exact unchanged hd
    · exact .seeded rfl rfl hfresh hcs rfl hlin rfl
  case settleExhaustedVariation =>
    obtain ⟨run, activity, reservation, ledger, hctx, hcase⟩ := TerminalBudgetService.settleExhaustedVariation_ok h
    obtain hd | ⟨-, -, _, _, _, rfl, -⟩ |
      ⟨-, _, _, _, cs, _, _, _, _, _, _, _, _, rfl, -, -, -, -, hcand, -⟩ := hcase
    · exact unchanged hd
    · exact .same rfl rfl rfl (keepsApproved_of_eq rfl)
    · generalize hcd : (TerminalBudgetService.sessionCandidates db run.runId activity.sessionId).head? = candidate at hcand
      cases hcand with
      | absent => exact .same rfl rfl rfl (keepsApproved_of_eq rfl)
      | blocked hblock _ =>
        rcases hblock with ⟨hs, hset⟩ | ⟨-, rfl⟩
        · exact .blocked (TerminalBudgetService.mem_sessionCandidates hcd) hs hset rfl rfl rfl
        · exact .same rfl rfl rfl (keepsApproved_of_eq rfl)
  case stageCandidate =>
    obtain ⟨_, h⟩ := h
    obtain hd | ⟨_, _, rfl, -, -, hcs⟩ := EvidenceService.stageCandidate_ok h
    · exact unchanged hd
    · exact .staged hcs rfl rfl rfl
  case recordEvaluation =>
    obtain ⟨_, h⟩ := h
    obtain ⟨hd, -⟩ | ⟨_, _, _, rfl, hget, hnew, -, hset⟩ := EvidenceService.recordEvaluation_ok h
    · exact unchanged hd
    · exact .evaluated rfl hnew hget hset rfl rfl rfl
  case commitAdmission =>
    obtain ⟨_, h⟩ := h
    obtain ⟨hd, -⟩ | ⟨run, c, _, _, _, hnew, hr, hget, -, -, -, hads, hset,
      ⟨ho, rfl⟩ | ⟨ho, hreview, _, _, _, _, _, rfl, -, hlin, -⟩⟩ := EvidenceService.commitAdmission_ok h
    · exact unchanged hd
    · exact .decided rfl hnew hr hget hset hads rfl (.inl ⟨ho, rfl⟩)
    · exact .decided rfl hnew hr hget hset hads rfl (.inr ⟨ho, hreview, _, rfl, rfl, rfl, hlin⟩)
  case createReview =>
    obtain hd | ⟨_, rfl, hrs⟩ := ReviewService.create_ok h
    · exact unchanged hd
    · exact .same rfl rfl rfl fun r hr _ => (Table.mem_insert hrs).2 (.inl hr)
  case submitReview =>
    obtain ⟨_, _, _, rfl, hset⟩ := ReviewService.submit_ok h
    exact .same rfl rfl rfl (keepsApproved_of_settles hset)
  all_goals exact .same (same .candidates rfl) (same .admissions rfl) (same .lineage rfl) (keepsApproved_of_eq (same .reviews rfl))

/-! ## The closed table -/

def Manifest.isSeed : Manifest → Bool
  | .seed _ => true
  | .candidate _ => false

/-- An edge of `CANDIDATE_TRANSITIONS` between stored states. -/
def IsEdge (a b : StoredCandidateState) : Prop :=
  ∃ s t, a = .lifecycle s ∧ b = .lifecycle t ∧ t ∈ candidateTransitions s

/-- Every change of a non-seed candidate's stored state is an edge of the table. -/
def EdgesOnly (db db' : Db) : Prop :=
  ∀ k c c', db.candidates.get? k = some c → db'.candidates.get? k = some c' → c.manifest.isSeed = false →
    c'.state ≠ c.state → IsEdge c.state c'.state

/-- A decision follows the table: the candidate is under evaluation, or awaits a
review and is not quarantined, or the decision repeats the state it has. -/
def decisionLawful (state : StoredCandidateState) (outcome : AdmissionOutcome) : Bool :=
  match state, outcome with
  | .lifecycle .evaluating, _ => true
  | .lifecycle .reviewRequired, o => o ≠ .quarantines
  | .lifecycle .admitted, o => o = .admits
  | .lifecycle .rejected, o => o = .rejects
  | .lifecycle .quarantined, o => o = .quarantines
  | _, _ => false

/-- A new evaluation is of a seed or of a candidate that is staged or under
evaluation, and a new decision about a seed or lawful. -/
def candidateLawful (db : Db) : Op → Bool
  | .recordEvaluation record key =>
    (db.evaluations.rows.any fun e => e.candidateId = record.candidateId ∧ e.evaluatorKey = key) ||
      (db.candidates.get? record.candidateId).all fun c => c.manifest.isSeed ||
        c.state = .lifecycle .staged || c.state = .lifecycle .evaluating
  | .commitAdmission _ decision _ _ =>
    (db.admissions.get? decision.admissionId).isSome ||
      (db.candidates.get? decision.candidateId).all fun c => c.manifest.isSeed || decisionLawful c.state decision.outcome
  | _ => true

theorem edgesOnly_of_same (h : db'.candidates = db.candidates) : EdgesOnly db db' := by
  intro k c c' hc hc' _ hne
  rw [h, hc] at hc'
  cases hc'
  exact absurd rfl hne

theorem edgesOnly_of_insert (h : db.candidates.insert? c = some db'.candidates) : EdgesOnly db db' := by
  intro k x x' hx hx' _ hne
  rw [Table.get?_insert_of_some h hx] at hx'
  cases hx'
  exact absurd rfl hne

theorem edgesOnly_of_sets {t : CandidateState} (hget : db.candidates.get? k = some c)
    (h : db.candidates.Sets { c with state := .lifecycle t } db'.candidates) :
    EdgesOnly db db' ↔ c.manifest.isSeed = true ∨ c.state = .lifecycle t ∨ IsEdge c.state (.lifecycle t) := by
  constructor
  · intro he
    by_cases hseed : c.manifest.isSeed = true
    · exact .inl hseed
    by_cases hs : c.state = .lifecycle t
    · exact .inr (.inl hs)
    · exact .inr (.inr (he _ c _ (Table.get?_self hget) h.get?_self (by simpa using hseed) (Ne.symm hs)))
  · intro hl k' x x' hx hx' hseed hne
    by_cases hk : k' = c.candidateId
    · subst hk
      rw [Table.get?_self hget] at hx
      cases hx
      rw [show db'.candidates.get? c.candidateId = _ from h.get?_self] at hx'
      cases hx'
      rcases hl with hl | hl | hl
      · rw [hl] at hseed; cases hseed
      · exact absurd hl.symm hne
      · exact hl
    · rw [h.get?_ne hk, hx] at hx'
      cases hx'
      exact absurd rfl hne

theorem evaluating_lawful : (s = .lifecycle .evaluating ∨ IsEdge s (.lifecycle .evaluating)) ↔
      (s = .lifecycle .staged ∨ s = .lifecycle .evaluating) := by
  constructor
  · rintro (rfl | ⟨s, t, rfl, ht, he⟩)
    · exact .inr rfl
    · cases ht
      revert he
      cases s <;> simp [candidateTransitions]
  · rintro (rfl | rfl)
    · exact .inr ⟨.staged, .evaluating, rfl, rfl, by decide⟩
    · exact .inl rfl

theorem decision_lawful {o : AdmissionOutcome} :
    (s = .lifecycle (EvidenceService.terminalState o) ∨ IsEdge s (.lifecycle (EvidenceService.terminalState o))) ↔
      decisionLawful s o = true := by
  have hedge {s t : CandidateState} : IsEdge (.lifecycle s) (.lifecycle t) ↔ t ∈ candidateTransitions s := by
    constructor
    · rintro ⟨_, _, hs, ht, he⟩
      cases hs
      cases ht
      exact he
    · exact fun he => ⟨s, t, rfl, rfl, he⟩
  cases s with
  | seed =>
    constructor
    · rintro (h | ⟨_, _, h, -⟩) <;> cases h
    · intro h; cases h
  | lifecycle s =>
    rw [hedge]
    cases s <;> cases o <;>
      simp [decisionLawful, EvidenceService.terminalState, candidateTransitions]

theorem edgesOnly_iff (h : exec E db op = .ok db') : EdgesOnly db db' ↔ candidateLawful db op = true := by
  have hstep := exec_candidates h
  cases op
  case recordEvaluation record key =>
    simp only [exec, map_ok, Prod.exists, exists_and_right, exists_eq_right] at h
    obtain ⟨_, h⟩ := h
    obtain ⟨rfl, e, he, hk⟩ | ⟨c, _, _, rfl, hget, hnew, -, hset⟩ := EvidenceService.recordEvaluation_ok h
    · refine iff_of_true (edgesOnly_of_same rfl) ?_
      simp only [candidateLawful, Bool.or_eq_true, List.any_eq_true, decide_eq_true_eq]
      exact .inl ⟨e, he, hk⟩
    · have hany : (db.evaluations.rows.any fun e => e.candidateId = record.candidateId ∧ e.evaluatorKey = key) = false := by
        rw [List.any_eq_false]
        intro e he
        simpa using hnew e he
      rw [edgesOnly_of_sets hget hset, evaluating_lawful]
      simp only [candidateLawful, hany, hget, Option.all_some, Bool.false_or, Bool.or_eq_true, decide_eq_true_eq]
      rw [or_assoc]
  case commitAdmission runId decision lineageId ids =>
    simp only [exec, map_ok, Prod.exists, exists_and_right, exists_eq_right] at h
    obtain ⟨_, h⟩ := h
    obtain ⟨rfl, hsome⟩ | ⟨run, c, _, _, cs, hnew, -, hget, -, -, -, -, hset, hrest⟩ := EvidenceService.commitAdmission_ok h
    · refine iff_of_true (edgesOnly_of_same rfl) ?_
      simp [candidateLawful, hsome]
    · have hcs : db'.candidates = cs := by
        obtain ⟨-, rfl⟩ | ⟨-, -, _, _, _, _, _, rfl, -⟩ := hrest <;> rfl
      rw [← hcs] at hset
      rw [edgesOnly_of_sets hget hset, decision_lawful]
      simp [candidateLawful, hnew, hget]
  all_goals
    refine iff_of_true ?_ rfl
    cases hstep with
    | same hc _ _ _ => exact edgesOnly_of_same hc
    | seeded _ _ _ hc _ _ _ => exact edgesOnly_of_insert hc
    | staged hc _ _ _ => exact edgesOnly_of_insert hc
    | blocked hget hs hc _ _ _ =>
      exact (edgesOnly_of_sets hget hc).2 (.inr (.inr ⟨.staged, .policyBlocked, hs, rfl, by decide⟩))
    | evaluated hop _ _ _ _ _ _ => cases hop
    | decided hop _ _ _ _ _ _ _ => cases hop

/-- The states that no edge leaves: `admitted`, `rejected`, `quarantined`, `policy_blocked` (and `cancelled`). -/
def IsFinal (s : StoredCandidateState) : Prop := ∃ t, s = .lifecycle t ∧ candidateTransitions t = []

theorem CandidateStep.keeps (h : CandidateStep db op db') (hc : db.candidates.get? k = some c) :
    ∃ c', db'.candidates.get? k = some c' ∧ c'.manifest = c.manifest ∧ c'.runId = c.runId := by
  have hset {x : CandidateRow} {k₀ : String} {t : CandidateState} (hx : db.candidates.get? k₀ = some x)
      (hs : db.candidates.Sets { x with state := .lifecycle t } db'.candidates) :
      ∃ c', db'.candidates.get? k = some c' ∧ c'.manifest = c.manifest ∧ c'.runId = c.runId := by
    by_cases hk : k = x.candidateId
    · subst hk
      rw [Table.get?_self hx] at hc
      cases hc
      exact ⟨_, hs.get?_self, rfl, rfl⟩
    · exact ⟨c, (hs.get?_ne hk).trans hc, rfl, rfl⟩
  cases h with
  | same hcs _ _ _ => exact ⟨c, hcs ▸ hc, rfl, rfl⟩
  | seeded _ _ _ hcs _ _ _ => exact ⟨c, Table.get?_insert_of_some hcs hc, rfl, rfl⟩
  | staged hcs _ _ _ => exact ⟨c, Table.get?_insert_of_some hcs hc, rfl, rfl⟩
  | evaluated _ _ hget hcs _ _ _ => exact hset hget hcs
  | blocked hget _ hcs _ _ _ => exact hset hget hcs
  | decided _ _ _ hget hcs _ _ _ => exact hset hget hcs

theorem final_absorbing (h : Reaches (exec E) (fun db op => candidateLawful db op = true) db db')
    (hc : db.candidates.get? k = some c) (hseed : c.manifest.isSeed = false) (hf : IsFinal c.state) :
    ∃ c', db'.candidates.get? k = some c' ∧ c'.state = c.state := by
  suffices hs : ∃ c', db'.candidates.get? k = some c' ∧ c'.state = c.state ∧ c'.manifest = c.manifest by
    obtain ⟨c', hc', hs, -⟩ := hs
    exact ⟨c', hc', hs⟩
  refine Reaches.inv (fun d => ∃ c', d.candidates.get? k = some c' ∧ c'.state = c.state ∧ c'.manifest = c.manifest)
    ⟨c, hc, rfl, rfl⟩ ?_ h
  rintro d op d' ⟨x, hx, hxs, hxm⟩ hlawful he
  obtain ⟨x', hx', hm, -⟩ := (exec_candidates he).keeps hx
  refine ⟨x', hx', ?_, hm.trans hxm⟩
  by_cases hne : x'.state = x.state
  · exact hne.trans hxs
  · obtain ⟨s, t, hs, -, hedge⟩ := (edgesOnly_iff he).2 hlawful k x x' hx hx' (hxm ▸ hseed) hne
    obtain ⟨u, hu, hnone⟩ := hf
    rw [← hxs, hs] at hu
    cases hu
    rw [hnone] at hedge
    cases hedge

/-- Candidate lifecycle closure. A call keeps to `CANDIDATE_TRANSITIONS` exactly
if it is lawful, so every run of lawful calls does, and along it a non-seed
candidate that is admitted, rejected, quarantined or blocked stays so. -/
theorem candidate_lifecycle (E : Env) :
    (∀ db op db', exec E db op = .ok db' → (EdgesOnly db db' ↔ candidateLawful db op = true)) ∧
    ∀ db db', Reaches (exec E) (fun db op => candidateLawful db op = true) db db' →
      ∀ k c, db.candidates.get? k = some c → c.manifest.isSeed = false →
        c.state ∈ [StoredCandidateState.lifecycle .admitted, .lifecycle .rejected, .lifecycle .quarantined,
          .lifecycle .policyBlocked] →
        ∃ c', db'.candidates.get? k = some c' ∧ c'.state = c.state := by
  refine ⟨fun db op db' h => edgesOnly_iff h, fun db db' h k c hc hseed hs => final_absorbing h hc hseed ?_⟩
  simp only [List.mem_cons, List.not_mem_nil, or_false] at hs
  rcases hs with hs | hs | hs | hs <;> exact ⟨_, hs, rfl⟩

/-- A candidate that was evaluated and rejected. -/
def Sample.rejected : List Op :=
  Sample.prepared ++ [Sample.staged "run" "cand" ["seed-run"], Sample.evaluated "cand" "eval-1",
    Sample.decided "run" "cand" "seed-run" "eval-1" "no" .rejects]

/-- Evaluating a rejected candidate once more is not lawful, and it takes the
candidate out of `rejected`. -/
theorem candidate_lifecycle_rejected :
    ∃ db', exec Sample.env (after Sample.env Sample.rejected) (Sample.evaluated "cand" "eval-2") = .ok db' ∧
      candidateLawful (after Sample.env Sample.rejected) (Sample.evaluated "cand" "eval-2") = false ∧
      ¬ EdgesOnly (after Sample.env Sample.rejected) db' := by
  have hok : (exec Sample.env (after Sample.env Sample.rejected) (Sample.evaluated "cand" "eval-2")).isOk = true := by
    decide
  have hlaw : candidateLawful (after Sample.env Sample.rejected) (Sample.evaluated "cand" "eval-2") = false := by
    decide
  cases he : exec Sample.env (after Sample.env Sample.rejected) (Sample.evaluated "cand" "eval-2") with
  | error e => rw [he] at hok; cases hok
  | ok db' =>
    refine ⟨db', rfl, hlaw, fun hedges => ?_⟩
    rw [((candidate_lifecycle Sample.env).1 _ _ _ he).1 hedges] at hlaw
    cases hlaw

/-- A rejected candidate, evaluated again under another key, is admitted. -/
theorem rejected_candidate_admitted :
    (((after Sample.env Sample.rejected).candidates.get? "cand").map (·.state) = some (.lifecycle .rejected) ∧
      ((after Sample.env (Sample.rejected ++ [Sample.evaluated "cand" "eval-2",
        Sample.decided "run" "cand" "seed-run" "eval-2" "yes" .admits])).candidates.get? "cand").map (·.state) =
          some (.lifecycle .admitted)) ∧
    ¬ ∀ E db op db', Reachable E db → exec E db op = .ok db' → EdgesOnly db db' := by
  refine ⟨by decide, fun h => ?_⟩
  let again : Op := Sample.evaluated "cand" "eval-2"
  have hstates : ((after Sample.env Sample.rejected).candidates.get? "cand").map (fun c => (c.state, c.manifest.isSeed)) =
      some (.lifecycle .rejected, false) := by decide
  have hstates' : (exec Sample.env (after Sample.env Sample.rejected) again).toOption.bind
      (fun d => (d.candidates.get? "cand").map (·.state)) = some (.lifecycle .evaluating) := by decide
  cases he : exec Sample.env (after Sample.env Sample.rejected) again with
  | error e => rw [he] at hstates'; cases hstates'
  | ok db' =>
    rw [he] at hstates'
    obtain ⟨c, hc, hcs⟩ := Option.map_eq_some_iff.1 hstates
    obtain ⟨c', hc', hcs'⟩ := Option.map_eq_some_iff.1 (show (db'.candidates.get? "cand").map (·.state) = _ from hstates')
    simp only [Prod.mk.injEq] at hcs
    have hne : c'.state ≠ c.state := by
      rw [hcs', hcs.1]
      decide
    obtain ⟨s, t, hs, ht, hedge⟩ := h Sample.env _ again db' (reachable_after (by decide)) he "cand" c c' hc hc'
      hcs.2 hne
    rw [hcs.1] at hs
    cases hs
    cases hedge

end AvoCorrelate
