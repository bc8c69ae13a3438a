import AvoCorrelate.ExactCas.Dispatch
/-!
# Reported rejections

A call reports `rejected` on a durable rejected receipt, or because it failed
before its own dispatch. The second report says nothing of the other calls of
the operation: it is true of them when the call failed alone.
-/
open AvoLib

namespace AvoCorrelate.ExactCas

variable {H : Doc → Sha256Digest} {L : Limits H} {w w' : World H}

def live (t : CallThread H) : Bool :=
  match t.status with
  | .running (.done _) => false
  | .running (.raise _) => false
  | .crashed => false
  | _ => true

/-- The event is a dispatch of operation `op` that applied the update. -/
def applies (op : Sha256Digest) : Event (Rec H) (Port.Answer (H := H)) → Bool
  | .port (.apply intent _) (.delivered receipt) => intent.operationId = op && receipt.outcome = .applied
  | _ => false

/-- A rejection of operation `op` reported in world `w` is true: a rejected
receipt is durable, or the operation was not dispatched and no call in progress
will dispatch it; and no call there ever was applies the update. -/
def TruthfullyRejected (L : Limits H) (w : World H) (op : Sha256Digest) : Prop :=
  ((∃ r, w.files (.receipt op) = .bound r ∧ r.outcome = .rejected) ∨
    (w.dispatchCount op = 0 ∧ ∀ w' : World H, w.Later L w' → ∀ (j : Nat) (u u' : CallThread H), w.threads[j]? = some u →
      live u = true → w'.threads[j]? = some u' → ∀ e ∈ u'.log, dispatches op e = false)) ∧
  ∀ w' : World H, w.Later L w' → ∀ (j : Nat) (u u' : CallThread H), w.threads[j]? = some u →
    w'.threads[j]? = some u' → ∀ e ∈ u'.log, applies op e = false

/-- A call that fails before its dispatch fails alone: it created the marker of
the operation itself, or there is none yet and no other call of the operation
is in progress. -/
def FailsAlone (L : Limits H) (w : World H) (m : WorldMove H) : Prop :=
  ∀ (i : Nat) n (w' : World H) (t t' : CallThread H) (a : Authorization H) res, m = .step i n →
    perform (Call.program L) w m = .ok w' → w.threads[i]? = some t → w'.threads[i]? = some t' → t'.call = .execute a →
    t'.status = .running (.done (some res)) → res.state = .rejected → res.reason ≠ "authoritative_rejection" →
    t.Owns (.dispatchStarted a.operationId) ∨
      (w.files (.dispatchStarted a.operationId) = .absent ∧
        ∀ (j : Nat) (u : CallThread H) b, j ≠ i → w.threads[j]? = some u → u.call = .execute b →
          b.operationId = a.operationId → live u = false)

variable {op : Sha256Digest} {e : Event (Rec H) (Port.Answer (H := H))} {r : Receipt H} {j i : Nat}
  {u t : CallThread H}

theorem dispatches_of_applies (h : applies op e = true) :
    dispatches op e = true := by
  unfold applies at h
  split at h
  · exact (Bool.and_eq_true _ _ ▸ h).1
  · cases h

/-! ## One receipt for one dispatch -/

theorem World.Known.receipt_delivered (hk : w.Known) (hr : w.files (.receipt op) = .bound r) :
    ∃ (k : Nat) (t : CallThread H) (i : Intent H) (m : DispatchStarted H), w.threads[k]? = some t ∧
      .port (.apply i m) (.delivered r) ∈ t.log ∧ i.operationId = op := by
  rcases hk.sound.published hk.linked hk.obeys hr with h | ⟨k, t, ht, h, hs, hrule⟩
  · cases h
  · cases hc : t.call with
    | recordActivation act =>
      rw [hc] at hrule
      rcases hrule with hq | hi | hp
      · exact hq.elim
      · cases hi
      · cases hp
    | execute a =>
      rw [hc] at hrule
      obtain ⟨i, m, happ, hop⟩ := hrule.2.2
      exact ⟨k, t, i, m, ht, hs.mem happ, hop.symm.trans (hk.linked _ _ hr).1⟩

theorem World.Known.not_applied (hk : w.Known) (hr : w.files (.receipt op) = .bound r) (hrej : r.outcome = .rejected)
    (hj : w.threads[j]? = some u) (he : e ∈ u.log) :
    applies op e = false := by
  by_contra happ
  have happ : applies op e = true := by simpa using happ
  have hd := dispatches_of_applies happ
  obtain ⟨k, t, i, m, ht, hm, hop⟩ := hk.receipt_delivered hr
  have hdr : dispatches op (.port (.apply i m) (.delivered r) : Event (Rec H) (Port.Answer (H := H))) = true :=
    dispatches_iff.mpr ⟨i, m, .delivered r, rfl, hop⟩
  obtain ⟨a, hc, _, hown⟩ := hk.dispatched hj he hd
  obtain ⟨_, _, _, hown'⟩ := hk.dispatched ht hm hdr
  -- both calls created the marker, so they are one call, and it dispatched once
  cases hk.sound.exclusive hj ht hown hown'
  rw [hj] at ht
  cases ht
  cases eq_of_countP_le_one (countP_le_one op (hk.execute hj hc).1) he hm hd hdr
  simp [applies, hrej] at happ

/-! ## Nobody else dispatches -/

theorem World.Known.silent (hk : w.Known) (hj : w.threads[j]? = some u)
    (hother : ∀ b, u.call = .execute b → b.operationId ≠ op) (he : e ∈ u.log) : dispatches op e = false := by
  by_contra hd
  obtain ⟨a, hc, hop, _⟩ := hk.dispatched hj he (by simpa using hd)
  exact hother a hc hop

theorem World.dispatchCount_eq_zero
    (h : ∀ (j : Nat) (u : CallThread H), w.threads[j]? = some u → ∀ e ∈ u.log, dispatches op e = false) :
    w.dispatchCount op = 0 := by
  refine List.sum_eq_zero_iff_forall_eq_nat.mpr fun n hn => ?_
  obtain ⟨u, hu, rfl⟩ := List.mem_map.mp hn
  obtain ⟨j, hj⟩ := List.getElem?_of_mem hu
  exact List.countP_eq_zero.mpr fun e he hd => by simp [h j u hj e he] at hd

theorem not_stepped_of_not_live (h : live t = false) (files files' : Files (Rec H)) (t' : CallThread H) :
    ¬ Stepped files t files' t' := by
  intro hs
  unfold live at h
  cases hs with
  | read hst | port hst | refused hst | create hst | wrote hst | tore hst => rw [hst] at h; cases h

theorem truthfullyRejected_of_silent
    (h : ∀ w' : World H, w.Later L w' → ∀ (j : Nat) (u u' : CallThread H), w.threads[j]? = some u →
      w'.threads[j]? = some u' → ∀ e ∈ u'.log, dispatches op e = false) : TruthfullyRejected L w op := by
  refine ⟨.inr ⟨World.dispatchCount_eq_zero fun j u hj => h w .init j u u hj hj, ?_⟩, ?_⟩
  · exact fun w' hl j u u' hj _ hj' => h w' hl j u u' hj hj'
  · intro w' hl j u u' hj hj' e he
    by_contra happ
    have hd := dispatches_of_applies (by simpa using happ : applies op e = true)
    rw [h w' hl j u u' hj hj' e he] at hd
    cases hd

theorem silent_of_stopped (hl : w.Later L w') (ht : w.threads[i]? = some t) (hlive : live t = false)
    (hidle : ∀ e ∈ t.log, dispatches op e = false) (hu : w'.threads[i]? = some u) :
    ∀ e ∈ u.log, dispatches op e = false := by
  obtain ⟨t', ht', _, hlog⟩ := Reaches.stopped hl ht (not_stepped_of_not_live hlive)
  rw [hu] at ht'
  cases ht'
  rw [hlog]
  exact hidle

theorem not_dispatches_of_noApply {h : Log H} (op : Sha256Digest) (hn : NoApply h) : ∀ e ∈ h, dispatches op e = false := by
  intro e he
  by_contra hd
  obtain ⟨i, m, r, rfl, _⟩ := dispatches_iff.mp (by simpa using hd : dispatches op e = true)
  cases hn _ he

theorem truthfullyRejected_of_owner (hw : Runs L w) (ht : w.threads[i]? = some t) (hlive : live t = false)
    (hidle : NoApply t.log) (hown : t.Owns (.dispatchStarted op)) : TruthfullyRejected L w op := by
  refine truthfullyRejected_of_silent fun w' hl j u u' hj hj' e he => ?_
  have hk' := (hw.trans hl).known
  by_cases hji : j = i
  · subst hji
    exact silent_of_stopped hl ht hlive (not_dispatches_of_noApply op hidle) hj' e he
  · by_contra hd
    obtain ⟨_, _, _, hown'⟩ := hk'.dispatched hj' he (by simpa using hd)
    obtain ⟨t', ht', _, hlog⟩ := Reaches.stopped hl ht (not_stepped_of_not_live hlive)
    refine hji (hk'.sound.exclusive hj' ht' hown' ?_)
    obtain ⟨v, ⟨next, hst⟩ | hv⟩ := hown
    · rw [live, hst] at hlive; cases hlive
    · exact ⟨v, .inr (by rw [hlog]; exact hv)⟩

theorem truthfullyRejected_of_alone (hw : Runs L w) (ht : w.threads[i]? = some t) (hlive : live t = false)
    (habsent : w.files (.dispatchStarted op) = .absent)
    (halone : ∀ (j : Nat) (u : CallThread H) b, j ≠ i → w.threads[j]? = some u → u.call = .execute b →
      b.operationId = op → live u = false) : TruthfullyRejected L w op := by
  have hpast : ∀ (j : Nat) (u : CallThread H), w.threads[j]? = some u → ∀ e ∈ u.log, dispatches op e = false := by
    intro j u hj e he
    by_contra hd
    obtain ⟨_, _, _, hown⟩ := hw.known.dispatched hj he (by simpa using hd)
    exact (hw.known.sound.owned hj hown).1 habsent
  refine truthfullyRejected_of_silent fun w' hl j u u' hj hj' => ?_
  by_cases hother : ∀ b, u.call = .execute b → b.operationId ≠ op
  · obtain ⟨u₁, hu₁, hcall, _⟩ := Reaches.thread hl hj
    rw [hj'] at hu₁
    cases hu₁
    intro e he
    exact (hw.trans hl).known.silent hj' (fun b hb => hother b (hcall ▸ hb)) he
  · have hdead : live u = false := by
      simp only [not_forall, Decidable.not_not] at hother
      obtain ⟨b, hb, hop⟩ := hother
      by_cases hji : j = i
      · subst hji
        rw [ht] at hj
        cases hj
        exact hlive
      · exact halone j u b hji hj hb hop
    exact silent_of_stopped hl hj hdead (hpast j u hj) hj'

/-- In every run a call that reports `rejected` says the truth, when it has an
authoritative rejection to report or failed alone. -/
theorem rejection_truthful {m : WorldMove H} {i : Nat} {n : Nature (Port.Answer (H := H))} {t : CallThread H}
    {a : Authorization H} {res : ControllerResult} (hw : Runs L w) (hmove : m = .step i n) (halone : FailsAlone L w m)
    (hm : perform (Call.program L) w m = .ok w') (ht : w'.threads[i]? = some t) (hc : t.call = .execute a)
    (hret : t.status = .running (.done (some res))) (hrej : res.state = .rejected) :
    TruthfullyRejected L w' a.operationId := by
  have hw' : Runs L w' := .step hw trivial hm
  have hlive : live t = false := by rw [live, hret]
  have hpost := (hw'.known.execute ht hc).2
  rw [hret] at hpost
  obtain ⟨res', hres, htrue⟩ := hpost
  cases hres
  rcases htrue hrej with ⟨r, hr, hrr⟩ | ⟨hreason, hidle⟩
  · refine ⟨.inl ⟨r, hr, hrr⟩, fun w'' hl j u u' hj hj' e he => ?_⟩
    have hr'' := Reaches.grows hl hw'.known.sound _ _ hr
    exact (hw'.trans hl).known.not_applied hr'' hrr hj' he
  · subst hmove
    obtain ⟨t₀, t₁, ht₀, ht₁, hs, hothers⟩ := perform_step hm
    rw [ht] at ht₁
    cases ht₁
    rcases halone i n w' t₀ t a res rfl hm ht₀ ht hc hret hrej hreason with hown | ⟨habsent, hnone⟩
    · exact truthfullyRejected_of_owner hw' ht hlive hidle (hs.owns_after hown)
    · have habsent' := hw.known.sound.absent ht₀ hs (by rw [hret]; exact fun _ _ _ h => (nomatch h)) habsent
      refine truthfullyRejected_of_alone hw' ht hlive habsent' fun j u b hji hj hb hop => ?_
      exact hnone j u b hji ((hothers j hji).symm.trans hj) hb hop

namespace Sample

/-- The call returned a result with this reason, and says that it did not
dispatch. -/
def rejectedFor (reason : String) (t : CallThread digest) : Bool :=
  match t.status with
  | .running (.done (some res)) => res.state = .rejected && res.reason = reason && !res.dispatchStarted
  | _ => false

theorem exists_rejected {reason : String} {t : CallThread digest} (h : rejectedFor reason t = true) :
    ∃ res, t.status = .running (.done (some res)) ∧ res.state = .rejected ∧ res.dispatchStarted = false := by
  unfold rejectedFor at h
  split at h
  · next res hs =>
    simp only [Bool.and_eq_true, decide_eq_true_eq, Bool.not_eq_true'] at h
    exact ⟨res, hs, h.1.1, h.2⟩
  · cases h

/-- A call reads its clock after the lease of its authorization expired. -/
def expired : List (WorldMove digest) := activated ++ (.start (.execute authorization) :: steps 1 10 200)

/-- Two calls find no intent; the first records its own at 10, so that the
second cannot record one at 11. -/
def racing : List (WorldMove digest) :=
  activated ++ (.start (.execute authorization) :: steps 1 13 10) ++
    (.start (.execute authorization) :: steps 2 13 11) ++ steps 1 7 10 ++ steps 2 6 11

/-- The world after one more step of call `i`. -/
def next (w : World digest) (i : Nat) (now : Instant) : World digest :=
  result (perform (Call.program limits)) w (steps i 1 now)

theorem perform_next {w : World digest} {i : Nat} {now : Instant}
    (h : allowed (perform (Call.program limits)) (fun _ _ => true) w (steps i 1 now) = true) :
    perform (Call.program limits) w (.step i (nature .applied now)) = .ok (next w i now) := exec_result h

/-- The run of `expired`, and its rejection. -/
theorem expired_concludes :
    allowed (perform (Call.program limits)) (fun _ _ => true) World.fresh expired = true ∧
      (next (after expired) 1 200).threads[1]?.any (rejectedFor "intent was not durably recorded") = true ∧
      allowed (perform (Call.program limits)) (fun _ _ => true) (after expired) (steps 1 1 200) = true := by
  decide +kernel

/-- The run of `racing`, its rejection, and how the call that won goes on to its dispatch. -/
theorem racing_concludes :
    allowed (perform (Call.program limits)) (fun _ _ => true) World.fresh racing = true ∧
      (next (after racing) 2 11).threads[2]?.any (rejectedFor "intent was not durably recorded") = true ∧
      allowed (perform (Call.program limits)) (fun _ _ => true) (after racing) (steps 2 1 11) = true ∧
      allowed (perform (Call.program limits)) (fun _ _ => true) (next (after racing) 2 11) (steps 1 12 11) = true ∧
      ((next (after racing) 2 11).threads[1]?.any fun _ => true) = true ∧
      ((result (perform (Call.program limits)) (next (after racing) 2 11) (steps 1 12 11)).threads[1]?.any
        fun u => u.log.any (applies authorization.operationId)) = true := by
  decide +kernel

theorem runs_expired : Runs limits (after expired) := runs_after expired_concludes.1

theorem runs_racing : Runs limits (after racing) := runs_after racing_concludes.1

theorem expired_alone : FailsAlone limits (after expired) (.step 1 (nature .applied 200)) := by
  intro i n w' t t' a res hm _ _ _ _ _ _ _
  cases hm
  refine .inr ⟨rfl, ?_⟩
  intro j u b hj hu hc _
  have hcalls : (after expired).threads.map (·.call) = [.recordActivation activation, .execute authorization] := rfl
  have hcall : ((after expired).threads.map (·.call))[j]? = some (.execute b) := by rw [List.getElem?_map, hu, ← hc]; rfl
  rw [hcalls] at hcall
  match j, hj, hcall with
  | 0, _, h => cases h
  | _ + 2, _, h => cases h

theorem expired_rejected :
    ∃ t, (next (after expired) 1 200).threads[1]? = some t ∧ rejectedFor "intent was not durably recorded" t = true :=
  (Option.any_eq_true _ _).mp expired_concludes.2.1

theorem racing_rejected :
    ∃ t, (next (after racing) 2 11).threads[2]? = some t ∧ rejectedFor "intent was not durably recorded" t = true :=
  (Option.any_eq_true _ _).mp racing_concludes.2.1

end Sample

theorem rejection_truthful_expired :
    ∃ (t : CallThread Sample.digest) (res : ControllerResult),
      (Sample.next (Sample.after Sample.expired) 1 200).threads[1]? = some t ∧ t.status = .running (.done (some res)) ∧
      res.state = .rejected ∧
      TruthfullyRejected Sample.limits (Sample.next (Sample.after Sample.expired) 1 200) Sample.authorization.operationId := by
  obtain ⟨t, ht, hr⟩ := Sample.expired_rejected
  obtain ⟨res, hs, hrej, _⟩ := Sample.exists_rejected hr
  have hcall : (Sample.next (Sample.after Sample.expired) 1 200).threads[1]?.map (·.call) =
      some (.execute Sample.authorization) := rfl
  have hc : t.call = .execute Sample.authorization := by simpa [ht] using hcall
  refine ⟨t, res, ht, hs, hrej, ?_⟩
  exact rejection_truthful Sample.runs_expired rfl Sample.expired_alone (Sample.perform_next Sample.expired_concludes.2.2) ht hc hs hrej

/-- A call that loses the race for the intent reports a rejection, and the call
that won it applies the update. -/
theorem racing_rejection_untruthful :
    ¬ ∀ (w w' : World Sample.digest) (i : Nat) n (t : CallThread Sample.digest) a res, Runs Sample.limits w →
      perform (Call.program Sample.limits) w (.step i n) = .ok w' → w'.threads[i]? = some t → t.call = .execute a →
      t.status = .running (.done (some res)) → res.state = .rejected →
      TruthfullyRejected Sample.limits w' a.operationId := by
  intro hall
  obtain ⟨t, ht, hr⟩ := Sample.racing_rejected
  obtain ⟨res, hs, hrej, _⟩ := Sample.exists_rejected hr
  have hcall : (Sample.next (Sample.after Sample.racing) 2 11).threads[2]?.map (·.call) =
      some (.execute Sample.authorization) := rfl
  have hc : t.call = .execute Sample.authorization := by simpa [ht] using hcall
  obtain ⟨-, -, hmove, hmoves, hwinner, happlied⟩ := Sample.racing_concludes
  have htrue := hall _ _ 2 _ t _ res Sample.runs_racing (Sample.perform_next hmove) ht hc hs hrej
  -- the winner goes on to its dispatch, which applies the update
  have hlater : (Sample.next (Sample.after Sample.racing) 2 11).Later Sample.limits
      (result (perform (Call.program Sample.limits)) (Sample.next (Sample.after Sample.racing) 2 11)
        (Sample.steps 1 12 11)) :=
    (reaches_result (p := fun _ _ => true) hmoves).mono fun _ _ _ => trivial
  obtain ⟨u, hu, _⟩ := (Option.any_eq_true _ _).mp hwinner
  obtain ⟨u', hu', hany⟩ := (Option.any_eq_true _ _).mp happlied
  obtain ⟨e, he, happ⟩ := List.any_eq_true.mp hany
  rw [htrue.2 _ hlater 1 u u' hu hu' e he] at happ
  cases happ

end AvoCorrelate.ExactCas
