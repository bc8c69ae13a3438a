import AvoCorrelate.Promotion.Merge
/-!
# Reported outcomes

A success is reported on a durable receipt of an exact merge. A rejection is
reported on a durable receipt, or by a call that submitted no PUT itself. The
second report says nothing of the other calls of the operation: it is true of them
when the call made the operation's lease evidence, or failed alone.
-/
open AvoLib

namespace AvoCorrelate.Promotion

open ExactCas (Sha256Digest GitObject)
open Service

variable {C : Canon} {w w' : World C}

/-- The outcome says that the operation changed nothing. -/
def Outcome.rejecting : Outcome → Bool
  | .invalid | .staleBase | .notApplicable => true
  | _ => false

/-- The result commit of the receipt has the candidate tree and the base commit as
its only parent, by a report of the provider on the durable intent. -/
structure MergedExactly (w : World C) (r : Receipt C) (i : Intent C) (rec : Reconciliation C) : Prop where
  intent : w.config.files (.intent r.operationId) = .bound i
  reported : ∃ (k : Nat) (t : CallThread C), w.config.threads[k]? = some t ∧ .port (.reconcile i) (.returned rec) ∈ t.log
  commit : r.appliedResultCommit = some rec.targetHeadCommit ∧ rec.mergeCommit = some rec.targetHeadCommit
  tree : r.appliedResultTree = some i.candidateTree ∧ rec.targetHeadTree = i.candidateTree
  parent : r.appliedResultParentCommit = some i.baseCommit ∧ rec.targetParents = [i.baseCommit]

/-- No call ever submitted the PUT of the operation, and no call in progress will. -/
def Unsubmitted (w : World C) (op : Sha256Digest) : Prop :=
  w.putCount op = 0 ∧ ∀ w' : World C, w.Later w' → ∀ (j : Nat) (u u' : CallThread C), w.config.threads[j]? = some u →
    u.live = true → w'.config.threads[j]? = some u' → ∀ e ∈ u'.log, submits op e = false

def Receipted (w : World C) (op : Sha256Digest) (outcome : Outcome) : Prop :=
  ∃ r, w.config.files (.receipt op) = .bound r ∧ r.outcome = outcome

/-- What a report of operation `op` says is true in world `w`. -/
def TruthfullyReported (w : World C) (op : Sha256Digest) (outcome : Outcome) : Prop :=
  (outcome.rejecting = true → Receipted w op outcome ∨ Unsubmitted w op) ∧
  (outcome.success = true →
    ∃ r i rec, w.config.files (.receipt op) = .bound r ∧ r.outcome = outcome ∧ MergedExactly w r i rec)

/-- A call that reports a rejection without a receipt made the lease evidence of
its operation itself; or the mutation was never authorized, and no other call of
the operation is in progress. -/
def FailsAlone (w : World C) (m : WorldMove C) : Prop :=
  ∀ (i : Nat) n (w' : World C) (t t' : CallThread C) report, m = .step i n → serve board promote w m = .ok w' →
    w.config.threads[i]? = some t → w'.config.threads[i]? = some t' → t'.status = .running (.done report) →
    report.outcome.rejecting = true → ¬ Receipted w' t.call.operationId report.outcome →
    t.Owns (.leaseEvidence t.call.operationId) ∨
      (w.config.files (.mutationAuthorization t.call.operationId) = .absent ∧
        ∀ (j : Nat) (u : CallThread C), j ≠ i → w.config.threads[j]? = some u →
          u.call.operationId = t.call.operationId → u.live = false)

/-! ## Successes -/

variable {op : Sha256Digest} {r : Receipt C} {i : Nat} {t : CallThread C}

theorem World.Known.receipt_from (hk : w.Known) (hr : w.config.files (.receipt op) = .bound r) :
    ∃ (k : Nat) (t : CallThread C) (h : Log C), w.config.threads[k]? = some t ∧ h <:+ t.log ∧
      t.call.operationId = op ∧ ReceiptFrom w.config.files h op r := by
  rcases hk.sound.published hk.linked hk.obeys hr with hi | ⟨k, t, ht, h, hs, hop, hfrom⟩
  · cases hi
  · exact ⟨k, t, h, ht, hs, hop.symm, hfrom⟩

theorem World.Known.intent_operation (hk : w.Known) {i : Intent C} (hi : w.config.files (.intent op) = .bound i) :
    i.operationId = op := by
  rcases hk.sound.published hk.linked hk.obeys hi with hb | ⟨k, t, ht, h, hs, hop, l, hl, hbound, hr⟩
  · cases hb
  · exact hbound.operation.trans hop.symm

theorem World.Known.merged_exactly (hk : w.Known) (hr : w.config.files (.receipt op) = .bound r)
    (hs : r.outcome.success = true) : ∃ i rec, MergedExactly w r i rec := by
  obtain ⟨k, t, h, ht, hsuf, hop, i, hi, hrop, ⟨message, hpre, _⟩ | ⟨m, rec, hrec, hbody, hexact⟩⟩ := hk.receipt_from hr
  · have hout : r.outcome = .invalid := by rw [hpre]; rfl
    rw [hout] at hs
    cases hs
  · obtain ⟨_, hmerge, htree, hparent, hparents⟩ := hexact hs
    have hop' : r.operationId = op := hrop.trans (hk.intent_operation hi)
    refine ⟨i, rec, ⟨by rw [hop']; exact hi, ⟨k, t, ht, hsuf.mem hrec⟩, ⟨?_, hmerge⟩, ⟨?_, htree⟩, ⟨?_, hparents⟩⟩⟩
    · rw [hbody]
      simp only [receiptOf, hs, if_true]
      exact hmerge
    · rw [hbody]
      simp only [receiptOf, hs, if_true]
      rw [htree]
    · rw [hbody]
      simp only [receiptOf, hs, if_true]
      rw [hparent]

/-! ## Rejections -/

theorem World.putCount_eq_zero
    (h : ∀ (j : Nat) (u : CallThread C), w.config.threads[j]? = some u → ∀ e ∈ u.log, submits op e = false) :
    w.putCount op = 0 := by
  refine List.sum_eq_zero_iff_forall_eq_nat.mpr fun n hn => ?_
  obtain ⟨u, hu, rfl⟩ := List.mem_map.mp hn
  obtain ⟨j, hj⟩ := List.getElem?_of_mem hu
  exact List.countP_eq_zero.mpr fun e he hs => by simp [h j u hj e he] at hs

theorem unsubmitted_of_silent
    (h : ∀ w' : World C, w.Later w' → ∀ (j : Nat) (u u' : CallThread C), w.config.threads[j]? = some u →
      w'.config.threads[j]? = some u' → ∀ e ∈ u'.log, submits op e = false) : Unsubmitted w op :=
  ⟨World.putCount_eq_zero fun j u hj => h w .init j u u hj hj, fun w' hl j u u' hj _ hj' => h w' hl j u u' hj hj'⟩

theorem submits_of_without {h : Log C} (op : Sha256Digest) (hn : Without puts h) : ∀ e ∈ h, submits op e = false := by
  intro e he
  by_contra hs
  obtain ⟨i, r, rfl, _⟩ := submits_iff.mp (by simpa using hs : submits op e = true)
  cases hn _ he

theorem World.Known.only_owner (hk : w.Known) {j : Nat} {u : CallThread C} (ht : w.config.threads[i]? = some t)
    (hown : t.Owns (.leaseEvidence op)) (hu : w.config.threads[j]? = some u) {e : Event (Rec C) (Port.Answer (C := C))}
    (he : e ∈ u.log) (hs : submits op e = true) : j = i := by
  obtain ⟨_, ev, hev, hmade⟩ := hk.submitter hu he hs
  rcases hk.sound.origin hev with hi | ⟨k, v, hv, hwrote⟩
  · cases hi
  · cases hk.sound.exclusive hv ht hwrote.owns hown
    rw [ht] at hv
    cases hv
    have hmade' : Made t.call t.log ev.toLease := by
      rcases hwrote with hw | hw
      · obtain ⟨h, hsuf, _, hm⟩ := (hk.call ht).1.rule hw
        exact hm.suffix hsuf
      · obtain ⟨h, hsuf, _, hm⟩ := (hk.call ht).1.rule hw
        exact hm.suffix hsuf
    exact hk.distinct.unique hu ht hmade.drew hmade'.drew

theorem unsubmitted_of_owner (hw : Runs w) (ht : w.config.threads[i]? = some t) (hlive : t.live = false)
    (hidle : Without puts t.log) (hown : t.Owns (.leaseEvidence op)) : Unsubmitted w op := by
  refine unsubmitted_of_silent fun w' hl j u u' hj hj' e he => ?_
  by_cases hji : j = i
  · subst hji
    exact hl.config.silent ht hlive (submits_of_without op hidle) hj' e he
  · by_contra hs
    obtain ⟨t', ht', _, hlog⟩ := hl.config.stopped ht (Thread.not_stepped hlive)
    refine hji ((hw.trans hl).known.only_owner ht' ?_ hj' he (by simpa using hs))
    obtain ⟨v, ⟨next, hst⟩ | hv⟩ := hown
    · rw [Thread.live, hst] at hlive; cases hlive
    · exact ⟨v, .inr (by rw [hlog]; exact hv)⟩

theorem unsubmitted_of_alone (hw : Runs w) (ht : w.config.threads[i]? = some t) (hlive : t.live = false)
    (habsent : w.config.files (.mutationAuthorization op) = .absent)
    (halone : ∀ (j : Nat) (u : CallThread C), j ≠ i → w.config.threads[j]? = some u → u.call.operationId = op →
      u.live = false) : Unsubmitted w op := by
  have hpast : ∀ (j : Nat) (u : CallThread C), w.config.threads[j]? = some u → ∀ e ∈ u.log, submits op e = false := by
    intro j u hj e he
    by_contra hs
    obtain ⟨i, r, rfl, hop⟩ := submits_iff.mp (by simpa using hs : submits op e = true)
    obtain ⟨h, l, a, _, hready⟩ := hw.known.submitted hj he
    obtain ⟨_, hauth⟩ := hready.authorized
    have hbound := hauth.authorization
    rw [hop, habsent] at hbound
    cases hbound
  refine unsubmitted_of_silent fun w' hl j u u' hj hj' => ?_
  by_cases hother : u.call.operationId = op
  · have hdead : u.live = false := by
      by_cases hji : j = i
      · subst hji
        rw [ht] at hj
        cases hj
        exact hlive
      · exact halone j u hji hj hother
    exact hl.config.silent hj hdead (hpast j u hj) hj'
  · intro e he
    by_contra hs
    obtain ⟨hcall, _⟩ := (hw.trans hl).known.submitter hj' he (by simpa using hs : submits op e = true)
    obtain ⟨u₁, hu₁, hsame, _⟩ := hl.config.thread hj
    rw [hj'] at hu₁
    cases hu₁
    exact hother ((congrArg PromoteCall.operationId hsame).symm.trans hcall)

/-- In every run a call reports the truth, when a rejection without a receipt comes
from the call that made the lease evidence, or from one that failed alone. -/
theorem outcome_truthful {m : WorldMove C} {i : Nat} {n : Nature (Port.Answer (C := C))} {t : CallThread C}
    {report : Report} (hw : Runs w) (hmove : m = .step i n) (halone : FailsAlone w m)
    (hm : serve board promote w m = .ok w') (ht : w'.config.threads[i]? = some t)
    (hret : t.status = .running (.done report)) : TruthfullyReported w' t.call.operationId report.outcome := by
  have hw' : Runs w' := .step hw trivial hm
  have hlive : t.live = false := by rw [Thread.live, hret]
  have hpost := (hw'.known.call ht).2
  rw [hret] at hpost
  have htrue : Truthful t.call w'.config.files t.log report := hpost
  subst hmove
  obtain ⟨t₀, t₁, ht₀, ht₁, hs, hothers⟩ := perform_step (serve_ok.mp hm).1
  rw [ht] at ht₁
  cases ht₁
  constructor
  · intro hrej
    by_cases hreceipt : Receipted w' t.call.operationId report.outcome
    · exact .inl hreceipt
    · right
      have hidle : Without puts t.log := by
        rcases htrue with ⟨r, hr, hout⟩ | ⟨_, hrr | hn⟩
        · exact absurd ⟨r, hr, hout⟩ hreceipt
        · rw [hrr] at hrej; cases hrej
        · exact hn
      have hcall := hs.call
      rcases halone i n w' t₀ t report rfl hm ht₀ ht hret hrej (hcall ▸ hreceipt) with hown | ⟨habsent, hnone⟩
      · exact unsubmitted_of_owner hw' ht hlive hidle (hcall ▸ hs.owns_after hown)
      · have habsent' := hw.known.sound.absent ht₀ hs (by rw [hret]; exact fun _ _ _ h => (nomatch h)) habsent
        refine unsubmitted_of_alone hw' ht hlive (hcall ▸ habsent') fun j u hji hj hop => ?_
        exact hnone j u hji ((hothers j hji).symm.trans hj) (hcall ▸ hop)
  · intro hsuccess
    rcases htrue with ⟨r, hr, hout⟩ | ⟨hfail, _⟩
    · obtain ⟨i, rec, hmerged⟩ := hw'.known.merged_exactly hr (hout ▸ hsuccess)
      exact ⟨r, i, rec, hr, hout, hmerged⟩
    · rw [hfail] at hsuccess; cases hsuccess

namespace Sample

/-- The world after one more step of call `i`. -/
def next (w : World canon) (i : Nat) (env : Env) : World canon := result obey w (steps i 1 env)

theorem serve_next {w : World canon} {i : Nat} {env : Env} (h : allowed obey (fun _ _ => true) w (steps i 1 env) = true) :
    serve board promote w (.step i ⟨false, false, .written, answer env w.state⟩) = .ok (next w i env) := by
  have he : obey w (.step i env) = .ok (next w i env) := exec_result h
  exact he

def returned (outcome : Outcome) (t : CallThread canon) : Bool :=
  match t.status with
  | .running (.done report) => report.outcome = outcome
  | _ => false

theorem exists_report {outcome : Outcome} {t : CallThread canon} (h : returned outcome t = true) :
    ∃ report, t.status = .running (.done report) ∧ report.outcome = outcome := by
  unfold returned at h
  split at h
  · next report hs => exact ⟨report, hs, of_decide_eq_true h⟩
  · cases h

/-- The target is leased to one operation, and a call for the other is about to
create its lease file. -/
def occupied : List Order := .start true :: steps 0 8 lost ++ (.start false :: steps 1 6 lost)

/-- The provider cannot be asked. -/
def unreachable : Env := ⟨.transportError "connection reset", fun _ => .raised "service unavailable"⟩

/-- A call crashes right after its PUT, and the next one finds the provider
unreachable. -/
def interrupted : List Order :=
  .start false :: steps 0 37 lost ++ (.crash 0 :: .start false :: steps 1 5 unreachable)

def isFirst : Order → Bool
  | .start second => !second
  | _ => true

def lacks (w : World canon) (k : Key) : Bool :=
  match w.config.files k with
  | .absent => true
  | _ => false

theorem absent_of_lacks {w : World canon} {k : Key} (h : lacks w k = true) : w.config.files k = .absent := by
  unfold lacks at h
  split at h
  · next hf => exact hf
  · cases h

set_option maxRecDepth 8000 in
/-- The two runs, and the step after each, evaluated together. -/
theorem occupied_interrupted_conclude :
    concludes obey (fun _ _ => true)
        (fun w => allowed obey (fun _ _ => true) w (steps 1 1 lost) &&
          (next w 1 lost).config.threads[1]?.any (returned .invalid) &&
          decide (w.config.threads.map (·.call) = [call true, call false]) &&
          lacks w (.mutationAuthorization (call false).operationId)) World.fresh occupied = true ∧
      concludes obey (fun _ o => isFirst o)
        (fun w => allowed obey (fun _ _ => true) w (steps 1 1 unreachable) &&
          (next w 1 unreachable).config.threads[1]?.any (returned .invalid) &&
          decide (((next w 1 unreachable).config.threads.map (·.call))[1]? = some (call false)) &&
          lacks (next w 1 unreachable) (.receipt (call false).operationId) &&
          decide ((next w 1 unreachable).putCount (call false).operationId = 1)) World.fresh interrupted = true := by
  decide +kernel

theorem runs_occupied : Runs (after occupied) := runs_after (allowed_of_concludes occupied_interrupted_conclude.1).1

theorem occupied_next :
    allowed obey (fun _ _ => true) (after occupied) (steps 1 1 lost) = true ∧
      (∃ t, (next (after occupied) 1 lost).config.threads[1]? = some t ∧ returned .invalid t = true) ∧
      (after occupied).config.threads.map (·.call) = [call true, call false] ∧
      (after occupied).config.files (.mutationAuthorization (call false).operationId) = .absent := by
  have htest := after_passes occupied_interrupted_conclude.1
  simp only [Bool.and_eq_true, decide_eq_true_eq] at htest
  obtain ⟨⟨⟨hallowed, hinvalid⟩, hcalls⟩, hlacks⟩ := htest
  exact ⟨hallowed, (Option.any_eq_true _ _).mp hinvalid, hcalls, absent_of_lacks hlacks⟩

theorem occupied_alone :
    FailsAlone (after occupied) (.step 1 ⟨false, false, .written, answer lost (after occupied).state⟩) := by
  intro i n w' t t' report hm _ ht _ _ _ _
  cases hm
  obtain ⟨-, -, hcalls, hfiles⟩ := occupied_next
  have hcall : ((after occupied).config.threads.map (·.call))[1]? = some t.call := by rw [List.getElem?_map, ht]; rfl
  rw [hcalls] at hcall
  rw [← Option.some.inj hcall]
  refine .inr ⟨hfiles, fun j u hj hu hop => ?_⟩
  have hcall : ((after occupied).config.threads.map (·.call))[j]? = some u.call := by rw [List.getElem?_map, hu]; rfl
  rw [hcalls] at hcall
  match j, hj, hcall with
  | 0, _, h =>
    rw [← Option.some.inj h] at hop
    exact absurd hop operation_ne
  | _ + 2, _, h => cases h

/-- Every call has the same arguments, with a publication that its verifier accepts
and the intent of its lease. -/
def SameArguments (_ : World canon) : WorldMove canon → Prop
  | .start c => c = call false ∧ publicationBound c.publication c.bundle
  | .crash _ => True
  | .step _ n => (∀ p b, n.answer (.verifyPublication p b) = .returned true) ∧
      ∀ l, n.answer (.intentFactory l) = .returned (intent l)

theorem sameArguments_move {w : World canon} {o : Order} (h : o ≠ .start true) : SameArguments w (o.move w) := by
  cases o with
  | start second =>
    cases second with
    | false => exact ⟨rfl, by decide⟩
    | true => exact absurd rfl h
  | crash i => trivial
  | step i env => exact ⟨fun _ _ => rfl, fun _ => rfl⟩

theorem reaches_interrupted :
    Reaches (serve board promote) SameArguments World.fresh (after interrupted) := by
  refine (Reaches.obeyed (reaches_result (allowed_of_concludes occupied_interrupted_conclude.2).1)).mono ?_
  rintro w m ⟨o, rfl, ho⟩
  exact sameArguments_move fun h => by rw [h] at ho; cases ho

/-- The call reports `invalid` in the next step, when its operation was submitted
and has no receipt. -/
theorem interrupted_next :
    allowed obey (fun _ _ => true) (after interrupted) (steps 1 1 unreachable) = true ∧
      (∃ t, (next (after interrupted) 1 unreachable).config.threads[1]? = some t ∧ returned .invalid t = true) ∧
      ((next (after interrupted) 1 unreachable).config.threads.map (·.call))[1]? = some (call false) ∧
      (next (after interrupted) 1 unreachable).config.files (.receipt (call false).operationId) = .absent ∧
      (next (after interrupted) 1 unreachable).putCount (call false).operationId = 1 := by
  have htest := after_passes occupied_interrupted_conclude.2
  simp only [Bool.and_eq_true, decide_eq_true_eq] at htest
  obtain ⟨⟨⟨⟨hallowed, hinvalid⟩, hcall⟩, hfiles⟩, hcount⟩ := htest
  exact ⟨hallowed, (Option.any_eq_true _ _).mp hinvalid, hcall, absent_of_lacks hfiles, hcount⟩

end Sample

theorem outcome_truthful_occupied :
    ∃ (t : CallThread Sample.canon) (report : Report),
      (Sample.next (Sample.after Sample.occupied) 1 Sample.lost).config.threads[1]? = some t ∧
      t.status = .running (.done report) ∧ report.outcome = .invalid ∧
      TruthfullyReported (Sample.next (Sample.after Sample.occupied) 1 Sample.lost) t.call.operationId report.outcome := by
  obtain ⟨hallowed, ⟨t, ht, hr⟩, -⟩ := Sample.occupied_next
  obtain ⟨report, hs, ho⟩ := Sample.exists_report hr
  refine ⟨t, report, ht, hs, ho, ?_⟩
  exact outcome_truthful Sample.runs_occupied rfl Sample.occupied_alone (Sample.serve_next hallowed) ht hs

/-- A recovery that cannot reach the provider reports `invalid`, after the PUT of
its operation. -/
theorem failed_recovery_untruthful :
    ¬ ∀ (w w' : World Sample.canon) (i : Nat) n (t : CallThread Sample.canon) report,
      Reaches (serve board promote) Sample.SameArguments World.fresh w → Sample.SameArguments w (.step i n) →
      serve board promote w (.step i n) = .ok w' → w'.config.threads[i]? = some t →
      t.status = .running (.done report) → TruthfullyReported w' t.call.operationId report.outcome := by
  intro hall
  obtain ⟨hallowed, ⟨t, ht, hr⟩, hcalls, habsent, hone⟩ := Sample.interrupted_next
  obtain ⟨report, hs, ho⟩ := Sample.exists_report hr
  have hcall : t.call = Sample.call false := by simpa [ht] using hcalls
  have htrue := hall _ _ 1 _ t report Sample.reaches_interrupted ⟨fun _ _ => rfl, fun _ => rfl⟩
    (Sample.serve_next hallowed) ht hs
  rw [hcall, ho] at htrue
  rcases htrue.1 rfl with ⟨r, hb, _⟩ | ⟨hcount, _⟩
  · -- the first call crashed before its receipt
    rw [habsent] at hb
    cases hb
  · rw [hone] at hcount
    cases hcount

end AvoCorrelate.Promotion
