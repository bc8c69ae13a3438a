import AvoCorrelate.Activities
import AvoCorrelate.Candidates
import AvoCorrelate.Worker.Handlers
/-!
# Follow-up work

An evaluation that ends must have enqueued the admission of its candidate, and an
admission that ends must have completed the run. A handler makes these calls after
the ones that make its result durable, and `recover` looks at the latter only. So a
worker that takes over in between ends the activity without the follow-up.
-/
open AvoLib

namespace AvoCorrelate.Worker
open ActivityService

/-! ## What lasts -/

/-- The run has reached `completed`. -/
def HasCompleted (db : Db) (runId : String) : Prop := ∃ run, db.runs.get? runId = some run ∧ run.state = .completed

/-- An admission of the candidate is enqueued in the run of its manifest. -/
def Enqueued (db : Db) (candidateId : String) : Prop :=
  ∃ m, getCandidate db candidateId = .ok m ∧
    ∃ b ∈ db.activities, b.runId = m.runId ∧ b.activityKey = "admit:" ++ candidateId

/-- The run of the candidate's manifest has reached `completed`. -/
def RunCompleted (db : Db) (candidateId : String) : Prop :=
  ∃ m, getCandidate db candidateId = .ok m ∧ HasCompleted db m.runId

/-- A decision under this identifier is on record. -/
def OnRecord (db : Db) (admissionId : String) : Prop := ∃ row ∈ db.admissions, row.admissionId = admissionId

/-- Every decision is on record under its own identifiers. -/
def Identified (db : Db) : Prop :=
  ∀ row ∈ db.admissions, row.admissionId = row.decision.admissionId ∧ row.candidateId = row.decision.candidateId

section Lasting
variable {E : Env} {db db' : Db} {op : Op} {candidateId runId key : String}

theorem HasCompleted.stays (h : HasCompleted db runId) (he : exec E db op = .ok db') : HasCompleted db' runId :=
  (exec_journal he).final (fun t => by cases t <;> decide) h

theorem getCandidate_ok {m : CandidateManifest} :
    getCandidate db candidateId = .ok m ↔ ∃ row, db.candidates.get? candidateId = some row ∧ row.manifest = .candidate m := by
  unfold getCandidate
  split
  · next h => simp [h]
  · next row h =>
    split
    · next m' hm => simp [h, hm]
    · next m' hm => simp [h, hm]

theorem getCandidate_stays {m : CandidateManifest} (h : getCandidate db candidateId = .ok m) (he : exec E db op = .ok db') :
    getCandidate db' candidateId = .ok m := by
  obtain ⟨row, hrow, hm⟩ := getCandidate_ok.mp h
  obtain ⟨row', hrow', hm', -⟩ := (exec_candidates he).keeps hrow
  exact getCandidate_ok.mpr ⟨row', hrow', hm'.trans hm⟩

theorem activity_stays {a : ActivityRow} (h : a ∈ db.activities) (he : exec E db op = .ok db') :
    ∃ b ∈ db'.activities, b.activityId = a.activityId ∧ b.runId = a.runId ∧ b.activityKey = a.activityKey := by
  obtain ⟨b, hb, hstep⟩ := exec_activity he (Table.get?_of_mem h)
  exact ⟨b, Table.get?_mem hb, hstep.identity⟩

theorem Enqueued.stays (h : Enqueued db candidateId) (he : exec E db op = .ok db') : Enqueued db' candidateId := by
  obtain ⟨m, hm, a, ha, hrun, hkey⟩ := h
  obtain ⟨b, hb, -, hrun', hkey'⟩ := activity_stays ha he
  exact ⟨m, getCandidate_stays hm he, b, hb, hrun'.trans hrun, hkey'.trans hkey⟩

theorem RunCompleted.stays (h : RunCompleted db candidateId) (he : exec E db op = .ok db') : RunCompleted db' candidateId := by
  obtain ⟨m, hm, hrun⟩ := h
  exact ⟨m, getCandidate_stays hm he, hrun.stays he⟩

theorem OnRecord.stays {admissionId : String} (h : OnRecord db admissionId) (he : exec E db op = .ok db') :
    OnRecord db' admissionId := by
  obtain ⟨row, hrow, hid⟩ := h
  cases exec_candidates he with
  | same _ ha | seeded _ _ _ _ ha | staged _ ha | evaluated _ _ _ _ ha | blocked _ _ _ ha => exact ⟨row, ha ▸ hrow, hid⟩
  | decided _ _ _ _ _ ha => exact ⟨row, (Table.mem_insert ha).2 (.inl hrow), hid⟩

theorem Identified.stays (h : Identified db) (he : exec E db op = .ok db') : Identified db' := by
  cases exec_candidates he with
  | same _ ha | seeded _ _ _ _ ha | staged _ ha | evaluated _ _ _ _ ha | blocked _ _ _ ha =>
    intro row hrow
    exact h row (ha ▸ hrow)
  | decided _ _ _ _ _ ha =>
    intro row hrow
    obtain hrow | rfl := (Table.mem_insert ha).1 hrow
    · exact h row hrow
    · exact ⟨rfl, rfl⟩

end Lasting

/-! ## What must follow -/

section FollowUps
variable (E : CampaignEnv) (c : CampaignHandlers)

/-- The digest is that of a decision on record about the candidate. If the decision
admits it, and admissions are to complete runs, its run has completed. -/
def Decided (db : Db) (candidateId digest : String) : Prop :=
  ∃ d : AdmissionDecision, d.candidateId = candidateId ∧ digest = E.canonicalDigest (.admissionDecision d) ∧
    OnRecord db d.admissionId ∧
    (d.outcome = .admits → c.admission.completeOnAdmission = true → RunCompleted db candidateId)

structure FollowedUp (db : Db) (activityKey : String) (result : Option String) : Prop where
  evaluated : ∀ candidateId, activityKey = "evaluate:" ++ candidateId → Enqueued db candidateId
  admitted : ∀ candidateId, activityKey = "admit:" ++ candidateId →
    ∃ digest, result = some digest ∧ Decided E c db candidateId digest

/-- Every evaluation and every admission that ended was followed up. -/
def FollowUps (db : Db) : Prop :=
  ∀ a ∈ db.activities, a.state = .completed → FollowedUp E c db a.activityKey a.resultDigest

/-- Keys of evaluations and admissions. -/
def Followed (activityKey : String) : Prop :=
  "evaluate:".toList <+: activityKey.toList ∨ "admit:".toList <+: activityKey.toList

instance (activityKey : String) : Decidable (Followed activityKey) := inferInstanceAs (Decidable (_ ∨ _))

/-- A call leaves it to the workers to end evaluations and admissions, and to the
admission handler to use its idempotency keys. -/
def Leaves (db db' : Db) : Prop :=
  (∀ a ∈ db'.activities.rows, Followed a.activityKey → a.state = .completed → a ∈ db.activities.rows) ∧
    ∀ r ∈ db'.idempotency.rows, r.actorId = c.admission.actorId → r ∈ db.idempotency.rows

instance (db db' : Db) : Decidable (Leaves c db db') := inferInstanceAs (Decidable (_ ∧ _))

/-- A run that the admission handler asked to complete has completed. -/
def Keyed (db : Db) : Prop :=
  ∀ r ∈ db.idempotency, r.actorId = c.admission.actorId →
    ∀ runId, r.endpointScope = "runs." ++ runId ++ ".transition" → HasCompleted db runId

structure Inv (db : Db) : Prop where
  followUps : FollowUps E c db
  keyed : Keyed c db
  identified : Identified db

end FollowUps

section Calls
variable {E : CampaignEnv} {c : CampaignHandlers} {db db' : Db} {op : Op}

theorem followed_evaluate (candidateId : String) : Followed ("evaluate:" ++ candidateId) := by
  refine .inl ?_
  rw [String.toList_append]
  exact List.prefix_append _ _

theorem followed_admit (candidateId : String) : Followed ("admit:" ++ candidateId) := by
  refine .inr ?_
  rw [String.toList_append]
  exact List.prefix_append _ _

variable {digest key runId : String} {result : Option String} {ids : Db.EventIds}

theorem Decided.stays {candidateId : String} (h : Decided E c db candidateId digest) (he : exec E.toEnv db op = .ok db') :
    Decided E c db' candidateId digest := by
  obtain ⟨d, hd, hdigest, hrecord, hrun⟩ := h
  exact ⟨d, hd, hdigest, hrecord.stays he, fun ho hc => (hrun ho hc).stays he⟩

theorem FollowedUp.stays (h : FollowedUp E c db key result) (he : exec E.toEnv db op = .ok db') :
    FollowedUp E c db' key result where
  evaluated candidateId hk := (h.evaluated candidateId hk).stays he
  admitted candidateId hk := by
    obtain ⟨digest, hr, hd⟩ := h.admitted candidateId hk
    exact ⟨digest, hr, hd.stays he⟩

theorem followedUp_of_not (h : ¬ Followed key) : FollowedUp E c db key result where
  evaluated candidateId hk := absurd (hk ▸ followed_evaluate candidateId) h
  admitted candidateId hk := absurd (hk ▸ followed_admit candidateId) h

theorem Inv.leaves (h : Inv E c db) (he : exec E.toEnv db op = .ok db') (hl : Leaves c db db') : Inv E c db' where
  followUps a ha hs := by
    by_cases hf : Followed a.activityKey
    · exact (h.followUps a (hl.1 a ha hf hs) hs).stays he
    · exact followedUp_of_not hf
  keyed r hr hactor runId hscope := (h.keyed r (hl.2 r hr hactor) hactor runId hscope).stays he
  identified := h.identified.stays he

theorem leaves_of_eq (ha : ∀ a ∈ db'.activities, a.state = .completed → a ∈ db.activities)
    (hi : db'.idempotency = db.idempotency) : Leaves c db db' :=
  ⟨fun a hm _ hs => ha a hm hs, fun _ hr _ => hi ▸ hr⟩

theorem leaves_of_same (ha : db'.activities = db.activities) (hi : db'.idempotency = db.idempotency) : Leaves c db db' :=
  leaves_of_eq (fun _ hm _ => ha ▸ hm) hi

theorem completed_of_modify {t : Table ActivityRow.activityId} {k : String} {f : ActivityRow → ActivityRow}
    (hf : ∀ r, (f r).activityId = r.activityId) (hs : ∀ r, (f r).state ≠ .completed) {a : ActivityRow}
    (ha : a ∈ t.modify k f hf) (hc : a.state = .completed) : a ∈ t := by
  obtain ⟨r, -, -, rfl⟩ | ⟨ha, -⟩ := Table.mem_modify.mp ha
  · exact absurd hc (hs r)
  · exact ha

theorem enqueue_activity {actorId : String} {sessionId reservationId : Option String} {id id' : String} {now : Instant}
    (h : enqueue db runId key digest actorId sessionId reservationId id now ids = .ok (db', id')) :
    (∃ b ∈ db'.activities, b.runId = runId ∧ b.activityKey = key) ∧
      ∀ a ∈ db'.activities, a.state = .completed → a ∈ db.activities := by
  unfold enqueue at h
  split at h
  · next existing hfound =>
    simp only [bind_ok, require_ok, pure_ok, exists_const, Prod.mk.injEq] at h
    obtain ⟨-, -, rfl, -⟩ := h
    exact ⟨⟨existing, Table.find?_mem hfound, by simpa using Table.find?_holds hfound⟩, fun _ ha _ => ha⟩
  · simp only [bind_ok, orRaise_ok, Db.insertActivity, insertRow_ok, pure_ok, Prod.mk.injEq] at h
    obtain ⟨run, -, _, ⟨acts, ⟨-, hacts⟩, rfl⟩, _, hev, rfl, -⟩ := h
    rw [Db.appendNextEvent_activities hev]
    refine ⟨⟨_, (Table.mem_insert hacts).2 (.inr rfl), rfl, rfl⟩, fun a ha hs => ?_⟩
    obtain ha | rfl := (Table.mem_insert hacts).1 ha
    · exact ha
    · cases hs

/-- The calls a worker makes besides completing an activity or a run. -/
def Routine : Op → Prop
  | .claimNext .. | .recordEvaluation .. | .enqueueActivity .. | .completeReservation .. | .recordPolicyDecision ..
  | .commitAdmission .. | .markReconciliationRequired .. => True
  | _ => False

theorem Routine.leaves {E : Env} (hop : Routine op) (he : exec E db op = .ok db') : Leaves c db db' := by
  cases op <;> try exact hop.elim
  all_goals simp only [exec, map_ok, Prod.exists, exists_and_right, exists_eq_right] at he
  case claimNext =>
    obtain ⟨_, he⟩ := he
    have hi : db'.idempotency = db.idempotency := by
      obtain rfl | ⟨_, _, _, _, _, rfl, -⟩ := claimNext_ok he <;> rfl
    obtain ⟨rfl, -⟩ | ⟨a, -, -, -, hacts⟩ := claimNext_activities he
    · exact leaves_of_same rfl rfl
    · exact leaves_of_eq (fun _ hm => completed_of_modify _ (fun _ => by simp [claimed]) (hacts ▸ hm)) hi
  case recordEvaluation =>
    obtain ⟨_, he⟩ := he
    obtain ⟨rfl, -⟩ | ⟨_, _, _, rfl, -⟩ := EvidenceService.recordEvaluation_ok he <;> exact leaves_of_same rfl rfl
  case enqueueActivity =>
    obtain ⟨_, he⟩ := he
    have hi : db'.idempotency = db.idempotency := by
      obtain rfl | ⟨_, _, _, _, _, rfl, -⟩ := enqueue_ok he <;> rfl
    exact leaves_of_eq (enqueue_activity he).2 hi
  case completeReservation =>
    obtain rfl | ⟨_, _, _, _, _, _, _, _, _, _, rfl, -⟩ := BudgetService.complete_ok he <;> exact leaves_of_same rfl rfl
  case recordPolicyDecision =>
    obtain ⟨_, he⟩ := he
    obtain ⟨_, rfl⟩ := EvidenceService.recordPolicyDecision_ok he
    exact leaves_of_same rfl rfl
  case commitAdmission =>
    obtain ⟨_, he⟩ := he
    obtain ⟨rfl, -⟩ | ⟨_, _, _, _, _, -, -, -, -, -, -, -, -, h⟩ := EvidenceService.commitAdmission_ok he
    · exact leaves_of_same rfl rfl
    · obtain ⟨-, rfl⟩ | ⟨-, -, _, _, _, _, _, rfl, -⟩ := h <;> exact leaves_of_same rfl rfl
  case markReconciliationRequired =>
    have hi : db'.idempotency = db.idempotency := by
      obtain ⟨_, _, _, _, _, _, _, _, _, rfl, -⟩ := markReconciliationRequired_ok he
      rfl
    obtain ⟨a, -, -, -, hacts⟩ := markReconciliationRequired_activities he
    exact leaves_of_eq (fun _ hm => completed_of_modify _ (fun _ => by simp [parked]) (hacts ▸ hm)) hi

theorem Inv.routine (h : Inv E c db) (he : exec E.toEnv db op = .ok db') (hop : Routine op) : Inv E c db' :=
  h.leaves he (hop.leaves he)

/-! ## Completing -/

theorem Inv.complete {activityId workerId : String} {leaseEpoch : Nat} (h : Inv E c db)
    (he : exec E.toEnv db (.completeActivity activityId workerId leaseEpoch digest ids) = .ok db')
    (hf : ∀ a, db.activities.get? activityId = some a → FollowedUp E c db a.activityKey (some digest)) :
    Inv E c db' := by
  have hi : db'.idempotency = db.idempotency := by
    obtain rfl | ⟨_, _, _, _, _, rfl, -⟩ := complete_ok he <;> rfl
  refine ⟨fun a ha hs => ?_, fun r hr hactor runId hscope => ?_, h.identified.stays he⟩
  · obtain ⟨a₀, ha₀, ⟨-, -, rfl⟩ | ⟨-, -, hacts⟩⟩ := complete_activities he
    · exact h.followUps a ha hs
    · rw [hacts] at ha
      obtain ⟨b, hb, hid, rfl⟩ | ⟨ha, -⟩ := Table.mem_modify.mp ha
      · exact (hf b (hid ▸ Table.get?_of_mem hb)).stays he
      · exact (h.followUps a ha hs).stays he
  · rw [hi] at hr
    exact (h.keyed r hr hactor runId hscope).stays he

theorem scope_inj {runId' : String} (h : "runs." ++ runId ++ ".transition" = "runs." ++ runId' ++ ".transition") :
    runId = runId' := by
  simpa using h

theorem completed_of_transition {expected : Option Nat} {reason key : Option String} {recordId : String}
    (h : Inv E c db)
    (he : exec E.toEnv db (.transition runId .completed c.admission.actorId expected reason key none ids recordId) = .ok db') :
    HasCompleted db' runId ∧ Inv E c db' := by
  have hstep := he
  simp only [exec, map_ok, Prod.exists, exists_and_right, exists_eq_right] at he
  obtain ⟨run', he⟩ := he
  simp only [RunService.transition, bind_ok] at he
  obtain ⟨prior, hprior, he⟩ := he
  cases prior with
  | some prior =>
    -- a replay: the record is under a key of the handler, for this run
    simp only [bind_ok, orRaise_ok, pure_ok, Prod.mk.injEq] at he
    obtain ⟨_, -, rfl, -⟩ := he
    refine ⟨?_, h⟩
    unfold checkIdempotency at hprior
    split at hprior
    · cases hprior
    · split at hprior
      · cases hprior
      · next record hfound =>
        have hr := Table.find?_holds hfound
        simp only [Bool.decide_and, Bool.and_eq_true, decide_eq_true_eq] at hr
        exact h.keyed record (Table.find?_mem hfound) hr.1 runId hr.2.1
  | none =>
    simp only [bind_ok, orRaise_ok, requireRunTransition_ok, require_ok, exists_const, pure_ok, Prod.mk.injEq] at he
    obtain ⟨run, hr, -, -, d, hev, d', hi, rfl, -⟩ := he
    obtain ⟨es, os, rfl, -⟩ := Db.appendEvent_ok hev
    let changed (r : RunRow) : RunRow :=
      { r with state := .completed, revision := run.revision + 1, eventSequence := run.eventSequence + 1 }
    have hset : db.runs.Sets (changed run) _ := Table.sets_modify changed (fun _ => rfl) hr
    have hcompleted : HasCompleted d' runId := by
      obtain ⟨is, rfl⟩ := recordIdempotency_ok hi
      have hk : (changed run).runId = runId := by
        change run.runId = runId
        exact Table.get?_key hr
      have hget := hset.get?_self
      rw [hk] at hget
      exact ⟨changed run, hget, rfl⟩
    refine ⟨hcompleted, fun a ha hs => ?_, fun r hr' hactor runId' hscope => ?_, h.identified.stays hstep⟩
    · obtain ⟨is, rfl⟩ := recordIdempotency_ok hi
      exact (h.followUps a ha hs).stays hstep
    · unfold recordIdempotency at hi
      split at hi
      · cases hi
        exact (h.keyed r hr' hactor runId' hscope).stays hstep
      · simp only [Db.insertIdempotency, bind_ok, insertRow_ok, pure_ok] at hi
        obtain ⟨t, ⟨-, ht⟩, rfl⟩ := hi
        obtain hr' | rfl := (Table.mem_insert ht).1 hr'
        · exact (h.keyed r hr' hactor runId' hscope).stays hstep
        · obtain rfl := scope_inj hscope
          exact hcompleted

end Calls

/-! ## The rules of the workers -/

instance (db : Db) (runId : String) : Decidable (HasCompleted db runId) :=
  decidable_of_iff ((db.runs.get? runId).any (fun run => run.state = .completed) = true)
    (by simp [HasCompleted, Option.any_eq_true])

instance (db : Db) (candidateId : String) : Decidable (Enqueued db candidateId) :=
  match h : getCandidate db candidateId with
  | .ok m =>
    decidable_of_iff (∃ b ∈ db.activities.rows, b.runId = m.runId ∧ b.activityKey = "admit:" ++ candidateId)
      ⟨fun hb => ⟨m, h, hb⟩, fun ⟨m', hm, hb⟩ => by rw [h] at hm; cases hm; exact hb⟩
  | .error e => .isFalse fun ⟨m, hm, _⟩ => by rw [h] at hm; cases hm

instance (db : Db) (candidateId : String) : Decidable (RunCompleted db candidateId) :=
  match h : getCandidate db candidateId with
  | .ok m =>
    decidable_of_iff (HasCompleted db m.runId)
      ⟨fun hb => ⟨m, h, hb⟩, fun ⟨m', hm, hb⟩ => by rw [h] at hm; cases hm; exact hb⟩
  | .error e => .isFalse fun ⟨m, hm, _⟩ => by rw [h] at hm; cases hm

section Rules
variable (E : CampaignEnv) (c : CampaignHandlers)

/-- The calls of others leave the workers their part. -/
def Aside (db : Db) : (p : Port) → p.Answer → Prop
  | .other call, _ =>
    match exec E.toEnv db call with
    | .ok db' => Leaves c db db'
    | .error _ => True
  | _, _ => True

/-- A recovery that finds a durable result finds its follow-up too, and an execution
that looks at the run after its decision finds it running, or completed. -/
def Resumable (db : Db) : (p : Port) → p.Answer → Prop
  | .recoverEvaluations candidateId, existing =>
    (c.evaluation.recorded existing).isSome = true → Enqueued db candidateId
  | .getAdmission candidateId, some decision =>
    decision.outcome = .admits → c.admission.completeOnAdmission = true → RunCompleted db candidateId
  | .getRun _, .ok run => run.state = .running ∨ run.state = .completed
  | _, _ => True

instance (db : Db) (p : Port) (r : p.Answer) : Decidable (Aside E c db p r) := by
  unfold Aside
  split
  · split <;> infer_instance
  · infer_instance

instance (db : Db) (p : Port) (r : p.Answer) : Decidable (Resumable c db p r) := by
  unfold Resumable
  split <;> infer_instance

/-- What a committed call leaves behind. -/
def Committed (db : Db) : Op → Prop
  | .enqueueActivity runId activityKey .. => ∃ b ∈ db.activities, b.runId = runId ∧ b.activityKey = activityKey
  | .commitAdmission _ decision .. => OnRecord db decision.admissionId
  | .transition runId .. => HasCompleted db runId
  | _ => True

def tells : (p : Port) → p.Answer → Db → Prop
  | .claimNext _ _, (_, .ok (some a)), db =>
    ∃ b ∈ db.activities, b.activityId = a.activityId ∧ b.activityKey = a.activityKey
  | .commit call, (draw, .ok ()), db => Committed db (call draw)
  | .recoverEvaluations candidateId, existing, db =>
    (c.evaluation.recorded existing).isSome = true → Enqueued db candidateId
  | .getCandidate candidateId, .ok m, db => getCandidate db candidateId = .ok m
  | .getAdmission candidateId, some d, db => d.candidateId = candidateId ∧ OnRecord db d.admissionId ∧
    (d.outcome = .admits → c.admission.completeOnAdmission = true → RunCompleted db candidateId)
  | .getRun runId, .ok run, db => run.state ≠ .running → HasCompleted db runId
  | _, _, _ => True

/-- What must be true when a worker makes a call. -/
def Fine (db : Db) : Op → Prop
  | .completeActivity activityId _ _ digest _ =>
    ∀ a, db.activities.get? activityId = some a → FollowedUp E c db a.activityKey (some digest)
  | .transition _ target actorId _ _ _ scope _ _ => target = .completed ∧ actorId = c.admission.actorId ∧ scope = none
  | op => Routine op

/-- A worker makes a call when what it was told makes it fine. -/
def rules : Job → Rules NoFile Port.Answer
  | .work _ _ _, h, .port (.commit call) => ∀ db draw, Told (tells c) db h → Fine E c db (call draw)
  | .work _ _ _, _, .port (.other _) => False
  | .work _ _ _, _, _ => True
  | .other _, _, .port (.other _) => True
  | .other _, _, _ => False

end Rules

section Standing
variable {E : CampaignEnv} {c : CampaignHandlers} {db db' : Db} {op : Op}

theorem Committed.stays {op' : Op} (h : Committed db op') (he : exec E.toEnv db op = .ok db') : Committed db' op' := by
  cases op' <;> try trivial
  case enqueueActivity =>
    obtain ⟨a, ha, hrun, hkey⟩ := h
    obtain ⟨b, hb, -, hrun', hkey'⟩ := activity_stays ha he
    exact ⟨b, hb, hrun'.trans hrun, hkey'.trans hkey⟩
  case commitAdmission => exact OnRecord.stays h he
  case transition => exact HasCompleted.stays h he

theorem tells_stays (he : exec E.toEnv db op = .ok db') (p : Port) (r : p.Answer) (h : tells c p r db) : tells c p r db' := by
  cases p with
  | claimNext =>
    obtain ⟨draw, _ | _ | a⟩ := r
    · trivial
    · trivial
    · obtain ⟨b, hb, hid, hkey⟩ := h
      obtain ⟨b', hb', hid', -, hkey'⟩ := activity_stays hb he
      exact ⟨b', hb', hid'.trans hid, hkey'.trans hkey⟩
  | commit call =>
    obtain ⟨draw, _ | _⟩ := r
    · trivial
    · exact Committed.stays h he
  | recoverEvaluations => exact fun hr => (h hr).stays he
  | getCandidate =>
    cases r with
    | error => trivial
    | ok m => exact getCandidate_stays h he
  | getAdmission =>
    cases r with
    | none => trivial
    | some d => exact ⟨h.1, h.2.1.stays he, fun ho hc => (h.2.2 ho hc).stays he⟩
  | getRun =>
    cases r with
    | error => trivial
    | ok run => exact fun hr => (h hr).stays he
  | listEvaluations | evaluate | decide | other => trivial

theorem returned_cases {α : Type} [DecidableEq α] {outcome : Except Err (Db × α)} {answer : Except Err α}
    (h : returned db outcome answer = some db') :
    (∃ x, outcome = .ok (db', x) ∧ answer = .ok x) ∨ (∃ e, answer = .error e) ∧ db' = db := by
  unfold returned at h
  split at h
  · split at h
    · next ha => cases h; exact .inl ⟨_, rfl, ha⟩
    · cases h
  · split at h
    · next ha => cases h; exact .inr ⟨⟨_, ha⟩, rfl⟩
    · cases h

theorem returned_commit {answer : Except Err Unit} (h : returned db ((·, ()) <$> exec E.toEnv db op) answer = some db') :
    (exec E.toEnv db op = .ok db' ∧ answer = .ok ()) ∨ (∃ e, answer = .error e) ∧ db' = db := by
  obtain ⟨_, ho, ha⟩ | h := returned_cases h
  · simp only [map_ok, Prod.mk.injEq] at ho
    obtain ⟨_, he, rfl, -⟩ := ho
    exact .inl ⟨he, ha⟩
  · exact .inr h

theorem onRecord_of_commit {runId lineageId : String} {decision : AdmissionDecision} {ids : Db.EventIds} {next : Option Nat}
    (h : EvidenceService.commitAdmission E.toEnv db runId decision lineageId ids = .ok (db', next)) :
    OnRecord db' decision.admissionId := by
  obtain ⟨rfl, hsome⟩ | ⟨_, _, _, _, _, -, -, -, -, -, -, hads, -, h⟩ := EvidenceService.commitAdmission_ok h
  · obtain ⟨row, hrow⟩ := Option.isSome_iff_exists.mp hsome
    exact ⟨row, Table.get?_mem hrow, Table.get?_key hrow⟩
  · have hrow := (Table.mem_insert hads).2 (.inr rfl)
    obtain ⟨-, rfl⟩ | ⟨-, -, _, _, _, _, _, rfl, -⟩ := h <;> exact ⟨_, hrow, rfl⟩

theorem Fine.commit (h : Inv E c db) (hop : Fine E c db op) (he : exec E.toEnv db op = .ok db') :
    Inv E c db' ∧ Committed db' op := by
  cases op with
  | completeActivity => exact ⟨h.complete he hop, trivial⟩
  | transition =>
    obtain ⟨rfl, rfl, rfl⟩ := hop
    exact (completed_of_transition h he).symm
  | enqueueActivity =>
    refine ⟨h.routine he trivial, ?_⟩
    simp only [exec, map_ok, Prod.exists, exists_and_right, exists_eq_right] at he
    obtain ⟨_, he⟩ := he
    exact (enqueue_activity he).1
  | commitAdmission =>
    refine ⟨h.routine he trivial, ?_⟩
    simp only [exec, map_ok, Prod.exists, exists_and_right, exists_eq_right] at he
    obtain ⟨_, he⟩ := he
    exact onRecord_of_commit he
  | claimNext | recordEvaluation | completeReservation | recordPolicyDecision | markReconciliationRequired =>
    exact ⟨h.routine he trivial, trivial⟩
  | _ => exact hop.elim

theorem claimed_tells {workerId : String} {leaseSeconds : Int} {now : Instant} {ids : Db.EventIds} {a : ActivityRow}
    (h : ActivityService.claimNext db workerId leaseSeconds now ids = .ok (db', some a)) :
    ∃ b ∈ db'.activities, b.activityId = a.activityId ∧ b.activityKey = a.activityKey := by
  obtain ⟨-, hnone⟩ | ⟨b, hb, -, hfound, hacts⟩ := claimNext_activities h
  · cases hnone
  · cases hfound
    refine ⟨claimed workerId (now + leaseSeconds) b, ?_, rfl, rfl⟩
    rw [hacts]
    exact Table.mem_modify.mpr (.inl ⟨b, Table.get?_mem hb, rfl, rfl⟩)

/-- The answers that are given: others leave the workers their part, and what is
found durable is found with its follow-up. -/
def Given (E : CampaignEnv) (c : CampaignHandlers) (db : Db) (p : Port) (r : p.Answer) : Prop :=
  Aside E c db p r ∧ Resumable c db p r

instance (db : Db) (p : Port) (r : p.Answer) : Decidable (Given E c db p r) := inferInstanceAs (Decidable (_ ∧ _))

theorem getAdmission_some {candidateId : String} {d : AdmissionDecision} (h : Inv E c db)
    (hd : getAdmission db candidateId (some d) = true) : d.candidateId = candidateId ∧ OnRecord db d.admissionId := by
  obtain ⟨row, hrow, hk⟩ := List.any_eq_true.mp hd
  simp only [Bool.decide_and, Bool.and_eq_true, decide_eq_true_eq] at hk
  obtain ⟨rfl, rfl⟩ := hk
  obtain ⟨hid, hcandidate⟩ := h.identified row hrow
  exact ⟨hcandidate.symm, row, hrow, hid⟩

theorem read_some {p : Prop} [Decidable p] (h : (if p then some db else none) = some db') : p ∧ db = db' := by
  split at h
  · next hp => cases h; exact ⟨hp, rfl⟩
  · cases h

theorem keeps {call : Job} {log : List (Event NoFile Port.Answer)} {p : Port} {r : p.Answer} (h : Inv E c db)
    (ht : Told (tells c) db log) (hg : rules E c call log (.port p))
    (hs : (plane E.toEnv).given (Given E c) p r db = some db') :
    Inv E c db' ∧ tells c p r db' ∧ ∀ q a, tells c q a db → tells c q a db' := by
  obtain ⟨⟨haside, hresumable⟩, hs⟩ := Service.given_some.mp hs
  cases p with
  | claimNext workerId leaseSeconds =>
    obtain ⟨draw, answer⟩ := r
    obtain ⟨found, hclaim, rfl⟩ | ⟨⟨e, rfl⟩, rfl⟩ := returned_cases hs
    · have he : exec E.toEnv db (.claimNext workerId leaseSeconds draw.now draw.ids) = .ok db' := by
        simp only [exec, map_ok]
        exact ⟨_, hclaim, rfl⟩
      refine ⟨h.routine he trivial, ?_, fun q a => tells_stays he q a⟩
      cases found with
      | none => trivial
      | some a => exact claimed_tells hclaim
    · exact ⟨h, trivial, fun _ _ hq => hq⟩
  | commit op =>
    obtain ⟨draw, answer⟩ := r
    cases call with
    | other => exact hg.elim
    | work =>
      obtain ⟨he, rfl⟩ | ⟨⟨e, rfl⟩, rfl⟩ := returned_commit hs
      · obtain ⟨hinv, hcommitted⟩ := Fine.commit h (hg db draw ht) he
        exact ⟨hinv, hcommitted, fun q a => tells_stays he q a⟩
      · exact ⟨h, trivial, fun _ _ hq => hq⟩
  | other op =>
    obtain ⟨he, rfl⟩ | ⟨⟨e, rfl⟩, rfl⟩ := returned_commit hs
    · simp only [Aside, he] at haside
      exact ⟨h.leaves he haside, trivial, fun q a => tells_stays he q a⟩
    · exact ⟨h, trivial, fun _ _ hq => hq⟩
  | recoverEvaluations candidateId =>
    obtain ⟨-, rfl⟩ := read_some hs
    exact ⟨h, hresumable, fun _ _ hq => hq⟩
  | listEvaluations candidateId =>
    obtain ⟨-, rfl⟩ := read_some hs
    exact ⟨h, trivial, fun _ _ hq => hq⟩
  | getCandidate candidateId =>
    obtain ⟨hr, rfl⟩ := read_some hs
    refine ⟨h, ?_, fun _ _ hq => hq⟩
    cases r with
    | error e => trivial
    | ok m => exact hr.symm
  | getAdmission candidateId =>
    obtain ⟨hr, rfl⟩ := read_some hs
    refine ⟨h, ?_, fun _ _ hq => hq⟩
    cases r with
    | none => trivial
    | some d =>
      obtain ⟨hd, hrecord⟩ := getAdmission_some h hr
      exact ⟨hd, hrecord, hresumable⟩
  | getRun runId =>
    obtain ⟨hr, rfl⟩ := read_some hs
    refine ⟨h, ?_, fun _ _ hq => hq⟩
    cases r with
    | error e => trivial
    | ok run => exact fun hs => ⟨run, orRaise_ok.mp hr.symm, hresumable.resolve_left hs⟩
  | evaluate | decide =>
    cases hs
    exact ⟨h, trivial, fun _ _ hq => hq⟩

end Standing

/-- What lasts of the answers, under the rules of the workers. -/
def standing (E : CampaignEnv) (c : CampaignHandlers) : Standing ((plane E.toEnv).given (Given E c)) (rules E c) where
  holds := Inv E c
  tells := tells c
  keeps := keeps

/-! ## The handlers -/

theorem partition_some {key kind subject : String} (h : partition key = (kind, some subject)) :
    key = kind ++ ":" ++ subject := by
  unfold partition at h
  obtain ⟨rfl, hs⟩ := Prod.mk.inj h
  split at hs
  · cases hs
  · next ch rest hd =>
    cases hs
    have hcolon : ch = ':' := by
      have := List.head?_dropWhile_not (· ≠ ':') key.toList
      rw [hd] at this
      simpa using this
    subst hcolon
    have hsplit := List.takeWhile_append_dropWhile (p := (· ≠ ':')) (l := key.toList)
    rw [hd] at hsplit
    rw [← String.toList_inj]
    simp only [String.toList_append, String.toList_ofList]
    simpa using hsplit.symm

section Handlers
variable {E : CampaignEnv} {c : CampaignHandlers} {activity : ActivityRow} {F : Files NoFile}
  {h : List (Event NoFile Port.Answer)} {workerId : String} {leaseSeconds : Int} {positive : 0 < leaseSeconds}

/-- With what a worker was told, the activity may end with this result. -/
def Follows (E : CampaignEnv) (c : CampaignHandlers) (activity : ActivityRow) (h : List (Event NoFile Port.Answer))
    (digest : String) : Prop :=
  ∀ db, Told (tells c) db h → FollowedUp E c db activity.activityKey (some digest)

variable {db : Db} {candidateId digest : String} {G : Rules NoFile Port.Answer} {α : Type} {handler : ActivityHandler}
  {s : Scheduler}

theorem followedUp_evaluate {result : Option String} (h : Enqueued db candidateId) :
    FollowedUp E c db ("evaluate:" ++ candidateId) result where
  evaluated other hk := by
    obtain rfl : candidateId = other := by simpa using hk
    exact h
  admitted other hk := by
    have := congrArg (fun s : String => s.toList.head?) hk
    simp at this

theorem followedUp_admit (h : Decided E c db candidateId digest) :
    FollowedUp E c db ("admit:" ++ candidateId) (some digest) where
  evaluated other hk := by
    have := congrArg (fun s : String => s.toList.head?) hk
    simp at this
  admitted other hk := by
    obtain rfl : candidateId = other := by simpa using hk
    exact ⟨digest, rfl, h⟩

theorem subject_safe (kind : String) :
    (activitySubject activity kind).Safe F G (Prog.Returning fun _ s => activity.activityKey = kind ++ ":" ++ s) h := by
  unfold activitySubject
  split
  · next hp =>
    split
    · next hk => exact hk.1 ▸ partition_some hp
    · trivial
  · trivial

theorem orRaised_safe {r : Except Err α} : (orRaised r).Safe F G (Prog.Returning fun _ x => r = .ok x) h := by
  cases r with
  | ok x => exact rfl
  | error e => trivial

theorem orFail_safe {r : Except Failure α} : (orFail r).Safe F G (Prog.Returning fun _ x => r = .ok x) h := by
  cases r with
  | ok x => exact rfl
  | error e => trivial

theorem commit_safe {call : Draw → Op} (hfine : ∀ db draw, Told (tells c) db h → Fine E c db (call draw)) :
    (commit call).Safe F (rules E c (.work workerId leaseSeconds positive))
      (Prog.Returning fun h' _ => ∀ db, Told (tells c) db h' → ∃ draw, Committed db (call draw)) h := by
  refine ⟨hfine, fun r => ?_⟩
  obtain ⟨draw, answer⟩ := r
  cases answer with
  | error e => trivial
  | ok u =>
    exact fun db ht => ⟨draw, ht (.commit call) (draw, .ok u) (List.mem_cons_self ..)⟩

namespace CandidateEvaluationActivityHandler

theorem recover_safe : (c.evaluation.recover E activity).Safe F (rules E c (.work workerId leaseSeconds positive))
    (Prog.Returning fun h' r => ∀ digest, r = .durableResult digest → Follows E c activity h' digest) h := by
  unfold recover
  refine (subject_safe "evaluate").seq fun h₁ candidateId _ hkey => ⟨trivial, fun existing => ?_⟩
  have hfound (db : Db) (ht : Told (tells c) db (.port (.recoverEvaluations candidateId) existing :: h₁))
      (hr : (c.evaluation.recorded existing).isSome = true) : Enqueued db candidateId :=
    ht (.recoverEvaluations candidateId) existing (List.mem_cons_self ..) hr
  cases hrecorded : c.evaluation.recorded existing with
  | none =>
    simp only [Prog.bind, hrecorded]
    intro digest hd
    cases hd
  | some records =>
    simp only [Prog.bind, hrecorded]
    refine Prog.Safe.ofOption_bind (fun reservationId _ => ?_) trivial
    refine (commit_safe ?_).seq fun h₂ _ hs _ digest hd db ht => ?_
    · exact fun _ _ _ => trivial
    have henqueued := hfound db (ht.suffix hs) (by rw [hrecorded]; rfl)
    rw [hkey]
    exact followedUp_evaluate henqueued

theorem recordAll_safe {candidateId : String} {records : List (String × EvaluationRecord)} :
    (recordAll candidateId records).Safe F (rules E c (.work workerId leaseSeconds positive))
      (Prog.Returning fun _ _ => True) h := by
  induction records generalizing h with
  | nil => trivial
  | cons entry rest ih =>
    refine Prog.Safe.require_bind (fun _ => ?_) trivial
    refine (commit_safe ?_).seq fun _ _ _ _ => ih
    exact fun _ _ _ => trivial

theorem execute_safe (leaseEpoch : Nat) :
    (c.evaluation.execute E activity leaseEpoch).Safe F (rules E c (.work workerId leaseSeconds positive))
      (Prog.Returning fun h' digest => Follows E c activity h' digest) h := by
  unfold execute
  refine (subject_safe "evaluate").seq fun h₁ candidateId _ hkey => ?_
  refine Prog.Safe.ofOption_bind (fun reservationId _ => ?_) trivial
  refine ⟨trivial, fun answer => ?_⟩
  refine orRaised_safe.seq fun h₂ manifest hs₂ hmanifest => ⟨trivial, fun evaluated => ?_⟩
  refine orFail_safe.seq fun h₃ records hs₃ _ => Prog.Safe.require_bind (fun _ => ?_) trivial
  refine recordAll_safe.seq fun h₄ _ hs₄ _ => ?_
  refine (commit_safe ?_).seq fun h₅ _ hs₅ henqueued => ?_
  · exact fun _ _ _ => trivial
  refine (commit_safe ?_).seq fun h₆ _ hs₆ _ db ht => ?_
  · exact fun _ _ _ => trivial
  subst hmanifest
  have hget : getCandidate db candidateId = .ok manifest :=
    ht (.getCandidate candidateId) (.ok manifest) ((((hs₂.trans (List.suffix_cons ..)).trans hs₃).trans (hs₄.trans (hs₅.trans hs₆))).mem (List.mem_cons_self ..))
  obtain ⟨draw, hb⟩ := henqueued db (ht.suffix hs₆)
  rw [hkey]
  exact followedUp_evaluate ⟨manifest, hget, hb⟩

end CandidateEvaluationActivityHandler

namespace CandidateAdmissionActivityHandler

theorem recover_safe : (recover E activity).Safe F (rules E c (.work workerId leaseSeconds positive))
    (Prog.Returning fun h' r => ∀ digest, r = .durableResult digest → Follows E c activity h' digest) h := by
  unfold recover
  refine (subject_safe "admit").seq fun h₁ candidateId _ hkey => ⟨trivial, fun answer => ?_⟩
  cases answer with
  | none =>
    intro digest hd
    cases hd
  | some decision =>
    intro digest hd db ht
    cases hd
    obtain ⟨hcandidate, hrecord, hrun⟩ := ht (.getAdmission candidateId) (some decision) (List.mem_cons_self ..)
    rw [hkey]
    exact followedUp_admit ⟨decision, hcandidate, rfl, hrecord, hrun⟩

theorem recordPolicies_safe {manifest : CandidateManifest} {candidateId : String} {policies : List PolicyDecision} :
    (recordPolicies manifest candidateId policies).Safe F (rules E c (.work workerId leaseSeconds positive))
      (Prog.Returning fun _ _ => True) h := by
  induction policies generalizing h with
  | nil => trivial
  | cons policy rest ih =>
    refine (commit_safe ?_).seq fun _ _ _ _ => ih
    exact fun _ _ _ => trivial

theorem completeRun_safe {runId : String} {decision : AdmissionDecision} :
    (c.admission.completeRun runId decision).Safe F (rules E c (.work workerId leaseSeconds positive))
      (Prog.Returning fun h' _ => ∀ db, Told (tells c) db h' →
        decision.outcome = .admits → c.admission.completeOnAdmission = true → HasCompleted db runId) h := by
  unfold completeRun
  split
  · refine ⟨trivial, fun answer => orRaised_safe.seq fun h₁ run hs₁ hrun => ?_⟩
    subst hrun
    split
    · refine (commit_safe ?_).mono fun h₂ x hq => ?_
      · exact fun _ _ _ => ⟨rfl, rfl, rfl⟩
      cases x with
      | error e => trivial
      | ok u =>
        intro db ht _ _
        obtain ⟨draw, hcompleted⟩ := hq db ht
        exact hcompleted
    · next hs =>
      intro db ht _ _
      exact ht (.getRun runId) (.ok run) (hs₁.mem (List.mem_cons_self ..)) hs
  · next hn => exact fun db _ ho hc => absurd ⟨ho, hc⟩ hn

theorem execute_safe (leaseEpoch : Nat) :
    (c.admission.execute E activity leaseEpoch).Safe F (rules E c (.work workerId leaseSeconds positive))
      (Prog.Returning fun h' digest => Follows E c activity h' digest) h := by
  unfold execute
  refine (subject_safe "admit").seq fun h₁ candidateId _ hkey => ⟨trivial, fun answer => ?_⟩
  refine orRaised_safe.seq fun h₂ manifest hs₂ hmanifest => ⟨trivial, fun evaluations => ?_⟩
  refine Prog.Safe.require_bind (fun _ => ⟨trivial, fun decided => ?_⟩) trivial
  refine orFail_safe.seq fun h₃ package hs₃ _ => Prog.Safe.require_bind (fun hcandidate => ?_) trivial
  refine recordPolicies_safe.seq fun h₄ _ hs₄ _ => ?_
  refine (commit_safe ?_).seq fun h₅ _ hs₅ hrecord => ?_
  · exact fun _ _ _ => trivial
  refine completeRun_safe.seq fun h₆ _ hs₆ hrun db ht => ?_
  subst hmanifest
  have hget : getCandidate db candidateId = .ok manifest :=
    ht (.getCandidate candidateId) (.ok manifest)
      ((hs₂.trans ((List.suffix_cons ..).trans ((List.suffix_cons ..).trans
        (hs₃.trans (hs₄.trans (hs₅.trans hs₆)))))).mem (List.mem_cons_self ..))
  obtain ⟨draw, hdecided⟩ := hrecord db (ht.suffix hs₆)
  rw [hkey]
  exact followedUp_admit ⟨package.decision, hcandidate, rfl, hdecided, fun ho hc => ⟨manifest, hget, hrun db ht ho hc⟩⟩

end CandidateAdmissionActivityHandler

/-! ## The scheduler -/

def Claimed (activity : ActivityRow) (h : List (Event NoFile Port.Answer)) : Prop :=
  ∃ workerId leaseSeconds draw, .port (.claimNext workerId leaseSeconds) (draw, .ok (some activity)) ∈ h

theorem Claimed.suffix {h' : List (Event NoFile Port.Answer)} (hc : Claimed activity h) (hs : h <:+ h') : Claimed activity h' := by
  obtain ⟨workerId, leaseSeconds, draw, hm⟩ := hc
  exact ⟨workerId, leaseSeconds, draw, hs.mem hm⟩

/-- A handler ends an activity only with a result that was followed up. -/
structure HandlerSafe (E : CampaignEnv) (c : CampaignHandlers) (job : Job) (handler : ActivityHandler) : Prop where
  recover : ∀ F h activity, (handler.recover activity).Safe F (rules E c job)
    (Prog.Returning fun h' r => ∀ digest, r = .durableResult digest → Follows E c activity h' digest) h
  execute : ∀ F h activity leaseEpoch, (handler.execute activity leaseEpoch).Safe F (rules E c job)
    (Prog.Returning fun h' digest => Follows E c activity h' digest) h
  classifyFailure : ∀ activity e, handler.classifyFailure activity e = .done .retry

theorem lookup_safe {kind : String} (hl : c.lookup E kind = some handler) :
    HandlerSafe E c (.work workerId leaseSeconds positive) handler := by
  unfold CampaignHandlers.lookup at hl
  split at hl
  · cases hl
    exact ⟨fun _ _ _ => CandidateEvaluationActivityHandler.recover_safe,
      fun _ _ _ => CandidateEvaluationActivityHandler.execute_safe, fun _ _ => rfl⟩
  · split at hl
    · cases hl
      exact ⟨fun _ _ _ => CandidateAdmissionActivityHandler.recover_safe,
        fun _ _ _ => CandidateAdmissionActivityHandler.execute_safe, fun _ _ => rfl⟩
    · cases hl

theorem complete_safe (hc : Claimed activity h) (hf : Follows E c activity h digest) :
    (s.complete activity digest).Safe F (rules E c (.work workerId leaseSeconds positive)) (fun _ _ => True) h := by
  refine (commit_safe ?_).mono fun _ _ _ => trivial
  intro db draw ht a ha
  obtain ⟨workerId, leaseSeconds, draw, hm⟩ := hc
  obtain ⟨b, hb, hid, hkey⟩ := ht _ _ hm
  obtain rfl : a = b := Table.eq_of_key (Table.get?_mem ha) hb ((Table.get?_key ha).trans hid.symm)
  rw [hkey]
  exact hf db ht

theorem markReconciliationRequired_safe {reason : String} :
    (s.markReconciliationRequired activity reason).Safe F (rules E c (.work workerId leaseSeconds positive))
      (fun _ _ => True) h := by
  refine (commit_safe ?_).mono fun _ _ _ => trivial
  exact fun _ _ _ => trivial

theorem fail_safe {job : Job} {e : Failure} (hh : HandlerSafe E c job handler) :
    (s.fail handler activity e).Safe F (rules E c job) (fun _ _ => True) h := by
  unfold Scheduler.fail
  rw [hh.classifyFailure]
  trivial

theorem work_safe (hh : HandlerSafe E c (.work workerId leaseSeconds positive) handler) (hc : Claimed activity h) :
    (s.work handler activity).Safe F (rules E c (.work workerId leaseSeconds positive)) (fun _ _ => True) h := by
  unfold Scheduler.work
  refine (hh.recover F h activity).suffix.bind (fun h₁ recovery hr => ?_) fun _ _ _ => trivial
  obtain ⟨hs, hdurable⟩ := hr
  cases recovery with
  | ambiguous => exact markReconciliationRequired_safe.bind (fun _ _ _ => trivial) fun _ _ _ => trivial
  | durableResult digest =>
    exact (complete_safe (hc.suffix hs) (hdurable digest rfl)).bind (fun _ _ _ => trivial) fun _ _ _ => trivial
  | _ =>
    -- what is neither durable nor ambiguous is executed
    refine (hh.execute F h₁ activity activity.leaseEpoch).suffix.attempt_bind fun h₂ outcome hq => ?_
    obtain ⟨hs₂, hq⟩ := hq
    cases outcome with
    | error e => exact fail_safe hh
    | ok digest =>
      exact (complete_safe (hc.suffix (hs.trans hs₂)) hq).bind (fun _ _ _ => trivial) fun _ _ _ => trivial

theorem program_safe (E : CampaignEnv) (c : CampaignHandlers) (job : Job) (F : Files NoFile) :
    (program E c job).Safe F (rules E c job) (fun _ _ => True) [] := by
  cases job with
  | other call =>
    refine ⟨trivial, fun r => ?_⟩
    cases r <;> trivial
  | work workerId leaseSeconds positive =>
    refine ⟨trivial, fun r => ?_⟩
    obtain ⟨draw, _ | _ | activity⟩ := r
    · trivial
    · trivial
    · have hc : Claimed activity [.port (.claimNext workerId leaseSeconds) (draw, .ok (some activity))] :=
        ⟨_, _, _, List.mem_cons_self ..⟩
      dsimp only [orRaised, Prog.bind]
      cases hl : c.lookup E (partition activity.activityKey).1 with
      | none => exact markReconciliationRequired_safe.bind (fun _ _ _ => trivial) fun _ _ _ => trivial
      | some handler => exact work_safe (lookup_safe hl) hc

end Handlers

theorem initial_inv (E : CampaignEnv) (c : CampaignHandlers) : Inv E c Db.initial where
  followUps a ha := absurd ha (Table.not_mem_empty a)
  keyed r hr := absurd hr (Table.not_mem_empty r)
  identified row hrow := absurd hrow (Table.not_mem_empty row)

abbrev Workers := Served Job NoFile Port.Answer Failure Bool Db

/-- No worker has started, on a fresh database. -/
def Workers.idle : Workers := Served.idle (fun k => nomatch k) Db.initial

/-- Where every recovery finds what is durable with its follow-up, every evaluation
that ends has its admission enqueued, and every admission that ends with an admit
decision has completed its run. -/
theorem follow_ups_durable {E : CampaignEnv} {c : CampaignHandlers} {w : Workers}
    (h : Reaches (serve (plane E.toEnv) (program E c)) (fun w m => ∀ p r, w.Asks m p r → Given E c w.state p r)
      Workers.idle w) : FollowUps E c w.state :=
  ((standing E c).stands (program_safe E c) (initial_inv E c) h.given).holds.followUps

/-! ## A sample campaign -/

namespace Sample
open AvoCorrelate.Sample

def env : CampaignEnv := ⟨AvoCorrelate.Sample.env, String.join, fun _ => 0⟩

/-- One evaluator, and admissions that complete the run. -/
def handlers : CampaignHandlers where
  evaluation := ⟨["eval"], by decide, by decide, "evaluator"⟩
  admission := ⟨true, "admission-controller"⟩

/-- What is drawn when the journal has so many events. -/
def draw (now : Instant) (db : Db) : Draw :=
  let tag := String.ofList (List.replicate db.events.rows.length 'x')
  ⟨now, "drawn-" ++ tag, ids ("drawn-" ++ tag)⟩

def evaluated : List (String × EvaluationRecord) :=
  [("eval", ⟨"eval-1", "cand", .admission, [⟨0, 1⟩], [⟨"correct", true, .hard⟩], .passed⟩)]

theorem policies_named : ¬["policy"] = [] := by simp

def package : AdmissionPackage :=
  ⟨[], ⟨"admission", "cand", "seed-run", ["eval-1"], ["policy"], .admits, .improved, "operator", by simp, policies_named⟩⟩

/-- What a call leaves. -/
def left {α : Type} (db : Db) : Except Err (Db × α) → Db
  | .ok (db', _) => db'
  | .error _ => db

theorem returned_answer {α : Type} [DecidableEq α] (db : Db) (outcome : Except Err (Db × α)) :
    returned db outcome (Prod.snd <$> outcome) = some (left db outcome) := by
  cases outcome <;> exact if_pos rfl

def answer (now : Instant) (db : Db) : (p : Port) → p.Answer
  | .claimNext workerId leaseSeconds =>
    (draw now db, Prod.snd <$> ActivityService.claimNext db workerId leaseSeconds now (draw now db).ids)
  | .commit call => (draw now db, Prod.snd <$> (·, ()) <$> exec env.toEnv db (call (draw now db)))
  | .recoverEvaluations candidateId => listEvaluations db candidateId
  | .listEvaluations candidateId => listEvaluations db candidateId
  | .getCandidate candidateId => getCandidate db candidateId
  | .getAdmission candidateId => (db.admissions.rows.find? fun r => r.candidateId = candidateId).map (·.decision)
  | .getRun runId => getRun db runId
  | .evaluate _ => .ok evaluated
  | .decide _ _ => .ok package
  | .other call => Prod.snd <$> (·, ()) <$> exec env.toEnv db call

/-- Everybody answers at this time. -/
def oracle (now : Instant) : Oracle (plane env.toEnv) where
  answer := answer now
  next db
    | .claimNext workerId leaseSeconds =>
      left db (ActivityService.claimNext db workerId leaseSeconds now (draw now db).ids)
    | .commit call => left db ((·, ()) <$> exec env.toEnv db (call (draw now db)))
    | .other call => left db ((·, ()) <$> exec env.toEnv db call)
    | _ => db
  serves db p := by
    cases p with
    | claimNext | commit | other => exact returned_answer _ _
    | getAdmission candidateId =>
      refine if_pos ?_
      simp only [answer]
      cases hfound : db.admissions.rows.find? fun r => r.candidateId = candidateId with
      | none => simpa [getAdmission] using hfound
      | some row =>
        have hid : row.candidateId = candidateId := by simpa using List.find?_some hfound
        exact List.any_eq_true.mpr ⟨row, List.mem_of_find?_eq_some hfound, by simp [hid]⟩
    | recoverEvaluations | listEvaluations | getCandidate | getRun => exact if_pos rfl
    | evaluate | decide => rfl

/-- The calls of others that bring a campaign to its first evaluation. -/
def calls : List Op :=
  prepared ++ [staged "run" "cand" ["seed-run"], reserved "run" "evaluation" 5,
    .enqueueActivity "run" "evaluate:cand" "input" "operator" (some "session") (some "evaluation") "evaluation" 0
      (ids "queued-evaluation")]

/-- Others make their calls, a worker takes some steps of the evaluation and crashes,
and when its lease has run out another worker does `rest`. -/
def takenOver (first rest : Nat) : List (Turn Job (plane env.toEnv)) :=
  (calls.zipIdx.flatMap fun (call, i) => [.start (.other call), .steps (oracle 1) i 1]) ++
    [.start (.work "first" 60 (by decide)), .steps (oracle 1) calls.length first, .crash calls.length,
      .start (.work "second" 60 (by decide)), .steps (oracle 100) (calls.length + 1) rest]

def evaluationEnded (db : Db) : Bool :=
  db.activities.rows.any fun a => a.activityKey = "evaluate:cand" ∧ a.state = .completed

end Sample

open AvoCorrelate.Worker.Sample in
/-- The first worker crashed after it enqueued the admission. -/
theorem follow_ups_durable_taken_over :
    ∃ w : Workers, evaluationEnded w.state = true ∧ FollowUps env handlers w.state := by
  have hrun : (follow (program env handlers) (Served.allows (Given env handlers)) (takenOver 6 4) Workers.idle).map
      (fun w => evaluationEnded w.state) = some true := by decide +kernel
  obtain ⟨w, hw, hended⟩ := Option.map_eq_some_iff.mp hrun
  exact ⟨w, hended, follow_ups_durable ((follow_reaches hw).mono fun _ _ hm => Served.asks_of_allows hm)⟩

open AvoCorrelate.Worker.Sample in
/-- Crash and recovery can lose an admission: the first worker crashed when it had
recorded the evaluation. -/
theorem admission_never_enqueued : ¬ ∀ (E : CampaignEnv) (c : CampaignHandlers) (w : Workers),
    Reaches (serve (plane E.toEnv) (program E c)) (fun w m => ∀ p r, w.Asks m p r → Aside E c w.state p r)
      Workers.idle w → FollowUps E c w.state := by
  intro h
  have hrun : (follow (program env handlers) (Served.allows (Aside env handlers)) (takenOver 5 4) Workers.idle).map
      (fun w => evaluationEnded w.state && w.state.activities.rows.all fun a => a.activityKey ≠ "admit:cand") =
      some true := by decide +kernel
  obtain ⟨w, hw, hended⟩ := Option.map_eq_some_iff.mp hrun
  obtain ⟨hended, hnone⟩ := Bool.and_eq_true_iff.mp hended
  obtain ⟨a, ha, hkey⟩ := List.any_eq_true.mp hended
  simp only [Bool.decide_and, Bool.and_eq_true, decide_eq_true_eq] at hkey
  obtain ⟨m, -, b, hb, -, hadmission⟩ :=
    (h env handlers w ((follow_reaches hw).mono fun _ _ hm => Served.asks_of_allows hm) a ha hkey.2).evaluated "cand" hkey.1
  exact of_decide_eq_true (List.all_eq_true.mp hnone b hb) hadmission

end AvoCorrelate.Worker
