import Mathlib.Algebra.Order.BigOperators.Group.List
import Mathlib.Algebra.Order.Group.Nat
import AvoCorrelate.Promotion.Fencing
import AvoCorrelate.Promotion.Pending
import AvoCorrelate.Promotion.Rollback
/-!
# Recovering a pending rollback

A rollback whose promotion asked for reconciliation is left without a receipt and
without a case. Once the promotion can be resolved, the next run closes both.
-/
open AvoLib

namespace AvoCorrelate.Promotion

open ExactCas (Sha256Digest GitObject)
open Service

variable {C : Canon} {O : Oracle (board (C := C))} {files files' : Files (Rec C)} {b b' : Board}

namespace Rollback

variable {S : Settings} {c : RunCall C}

/-- What `_validate_soak` asks of a soak. -/
def FailedSoak (r : RollbackRequest) (s : Soak C) : Prop :=
  s.operationId = r.operationId ∧ s.repositoryDigest = r.repositoryDigest ∧ s.targetRef = r.targetRef ∧
    s.mainBeforeCommit = r.mainBeforeCommit ∧ s.mainAfterCommit = r.mainBeforeCommit ∧
    s.targetHeadCommit = r.failedIntegrationHeadCommit ∧ s.targetHeadTree = r.failedIntegrationHeadTree ∧
    s.targetParents = [] ∧ s.outcome = .failed

instance (r : RollbackRequest) (s : Soak C) : Decidable (FailedSoak r s) := inferInstanceAs (Decidable (_ ∧ _))

/-- The arguments of a run that its fences let pass. -/
structure Fenced (S : Settings) (c : RunCall C) : Prop where
  target : c.request.targetRef = targetRef
  objects : ∀ x ∈ c.request.mainBeforeCommit :: c.request.toRollbackTopology.objects, C.gitObject x = true
  parent : c.request.rollbackCandidateParentCommit = c.request.failedIntegrationHeadCommit
  candidate : c.request.rollbackCandidateCommit ≠ c.request.failedIntegrationHeadCommit ∧
    c.request.rollbackCandidateCommit ≠ c.request.restoreToCommit
  authorization : authorizes S c.request c.authorization.toRollbackAuthorizationBody
  digest : c.authorization.authorizationId = rollbackAuthorizationDigest C c.authorization.toRollbackAuthorizationBody
  publication : c.publication.repositoryDigest = c.request.repositoryDigest ∧
    c.publication.baseCommit = c.request.failedIntegrationHeadCommit ∧
    c.publication.baseTree = c.request.failedIntegrationHeadTree ∧
    c.publication.candidateCommit = c.request.rollbackCandidateCommit ∧
    c.publication.candidateTree = c.request.restoreToTree ∧ c.bundle.repositoryDigest = c.request.repositoryDigest ∧
    c.bundle.targetRef = c.request.targetRef ∧ c.bundle.commit = c.request.failedIntegrationHeadCommit ∧
    c.bundle.tree = c.request.failedIntegrationHeadTree

/-- The repository is verified, main stays where it is, and the soak fails. -/
structure Steady (O : Oracle (board (C := C))) (r : RollbackRequest) : Prop where
  verified : ∀ b, O.answer b (.verifyRepository r) = .returned ()
  main : ∀ b, O.answer b .mainHead = .returned r.mainBeforeCommit
  soak : ∀ b, ∃ s, O.answer b (.soak r) = .returned s ∧ FailedSoak r s

/-- The drill records that a run can start from: what earlier runs with the same
arguments prepared. -/
structure Preparable (S : Settings) (c : RunCall C) (files : Files (Rec C)) : Prop where
  soak : files (.soak c.request.operationId) = .absent ∨
    ∃ s, files (.soak c.request.operationId) = .bound s ∧ FailedSoak c.request s
  authorization : files (.rollbackAuthorization c.request.operationId) = .absent ∨
    files (.rollbackAuthorization c.request.operationId) = .bound c.authorization
  intent : files (.rollbackIntent c.request.operationId) = .absent ∨
    ∃ i, files (.rollbackIntent c.request.operationId) = .bound i ∧
      i.toRollbackIntentBody = makeIntent S c.request c.authorization

/-- The drill records of a run that is not closed: neither a receipt nor a case. -/
structure Unclosed (S : Settings) (c : RunCall C) (files : Files (Rec C)) : Prop extends Preparable S c files where
  receipt : files (.rollbackReceipt c.request.operationId) = .absent
  case : files (.caseResult c.request.operationId caseId) = .absent

/-! ## The records of a run -/

theorem nonEmpty_of_attested {s : String} (h : s.toList.any (fun c => !isStripped c) = true) : nonEmpty s = true := by
  obtain ⟨x, hx, hn⟩ := List.any_eq_true.mp h
  refine List.any_eq_true.mpr ⟨x, hx, ?_⟩
  simp only [isStripped, Bool.not_or, Bool.and_eq_true] at hn
  exact hn.1

theorem makeIntent_valid (hf : Fenced S c) : (makeIntent S c.request c.authorization).Valid C := by
  have hobj := hf.objects
  simp only [RollbackTopology.objects, List.mem_cons, List.not_mem_nil, or_false, forall_eq_or_imp, forall_eq] at hobj
  obtain ⟨hmain, hhead, htree, hto, htoTree, hcand, hpar⟩ := hobj
  refine ⟨⟨?_, by simp [makeIntent], hf.target, rfl⟩, ?_, rfl, ⟨rfl, rfl⟩, hf.parent, nonEmpty_of_attested S.attested, ?_⟩
  · simp [makeIntent, hmain, hhead, htree]
  · exact fun x hx => hf.objects x (List.mem_cons_of_mem _ hx)
  · obtain ⟨_, _, _, _, _, _, _, hreason⟩ := c.authorization.valid
    exact hreason

variable {p : Receipt C} {i : RollbackIntent C} {y : Report}

theorem exactReceipt_of_made {i : Intent C} {m : MergeResult} {rec : Reconciliation C} (hf : Fenced S c) {l : Lease}
    (hb : IntentBound (c.promoteCall S) l i) (hp : p.toReceiptBody = Service.receiptOf i m rec .alreadyApplied) :
    exactReceipt c.request p := by
  obtain ⟨hrepo, hbase, htree, hcand, hcandTree, hbrepo, htarget, hcommit, hbtree⟩ := hf.publication
  have hout : p.outcome.success = true := by rw [hp]; rfl
  have hmerged := p.valid.merged hout
  have hresult := p.valid.result
  rw [hout] at hresult
  have hexpected : p.expectedTargetRef = i.targetRef ∧ p.expectedBaseCommit = i.baseCommit ∧
      p.expectedCandidateCommit = i.candidateCommit ∧ p.expectedCandidateTree = i.candidateTree := by
    rw [hp]
    exact ⟨rfl, rfl, rfl, rfl⟩
  have htref : i.targetRef = c.request.targetRef := hb.target.trans htarget
  have hibase : i.baseCommit = c.request.failedIntegrationHeadCommit := hb.snapshot.1.trans hcommit
  have hicand : i.candidateCommit = c.request.rollbackCandidateCommit :=
    hb.publication.2.2.2.2.2.1.symm.trans hcand
  have hitree : i.candidateTree = c.request.restoreToTree := hb.publication.2.2.2.2.2.2.1.symm.trans hcandTree
  refine ⟨hout, hexpected.1.trans htref, hexpected.2.1.trans hibase, hexpected.2.2.1.trans hicand,
    hexpected.2.2.2.trans hitree, ?_, ?_, ?_⟩
  · rw [hmerged.2.1, hexpected.2.2.2, hitree]
  · rw [hmerged.2.2.1, hexpected.2.1, hibase]
  · cases hc : p.appliedResultCommit with
    | none => simp [hc] at hresult
    | some x => rfl

theorem makeReceipt_applied (hy : y.outcome = .alreadyApplied) (hp : exactReceipt c.request p) :
    makeReceipt S c.request i y (some p) =
      { repositoryDigest := c.request.repositoryDigest
        targetRef := c.request.targetRef
        mainBeforeCommit := c.request.mainBeforeCommit
        mainAfterCommit := c.request.mainBeforeCommit
        targetHeadCommit := p.appliedResultCommit.getD c.request.failedIntegrationHeadCommit
        targetHeadTree := c.request.restoreToTree
        targetParents := [c.request.failedIntegrationHeadCommit]
        toRollbackTopology := c.request.toRollbackTopology
        operationId := c.request.operationId
        promotionOperationId := c.request.promotionOperationId
        intentDigest := i.intentDigest
        outcome := .alreadyApplied
        attesterIdentity := S.attesterIdentity
        resultCommit := p.appliedResultCommit
        resultTree := some c.request.restoreToTree
        error := none } := by
  have hv : verdict c.request y (some p) = (.alreadyApplied, none) := by
    simp [verdict, hy, Outcome.success, hp]
  obtain ⟨_, _, _, _, _, htree, _, hcommit⟩ := hp
  simp [makeReceipt, hv, RollbackOutcome.success, htree, hcommit]

theorem makeReceipt_valid (hf : Fenced S c) (hy : y.outcome = .alreadyApplied) (hp : exactReceipt c.request p) :
    (makeReceipt S c.request i y (some p)).Valid C := by
  rw [makeReceipt_applied hy hp]
  have hobj := hf.objects
  simp only [RollbackTopology.objects, List.mem_cons, List.not_mem_nil, or_false, forall_eq_or_imp, forall_eq] at hobj
  obtain ⟨hmain, hhead, htree, hto, htoTree, hcand, hpar⟩ := hobj
  obtain ⟨_, _, _, _, _, _, _, hcommit⟩ := hp
  obtain ⟨x, hx⟩ := Option.isSome_iff_exists.mp hcommit
  have hgit : C.gitObject x = true := by
    refine p.valid.objects x ?_
    rw [hx]
    simp
  refine ⟨⟨?_, by simp, hf.target, rfl⟩, ?_, fun _ => rfl, fun _ => ⟨?_, hcommit, rfl, rfl, rfl, hf.parent⟩, fun h => ?_, ?_,
    nonEmpty_of_attested S.attested⟩
  · simp [hx, hmain, hhead, htoTree, hgit]
  · exact fun x hx => hf.objects x (List.mem_cons_of_mem _ hx)
  · simp [hx, hgit, htoTree]
  · cases h
  · intro t ht
    cases ht

theorem makeCase_valid {s : Soak C} {r : RollbackReceipt C} (hf : Fenced S c) (hout : r.outcome = .alreadyApplied)
    (herr : r.error = none) (hdistinct : (evidence s c.authorization i r).Nodup) :
    (makeCase S c.request c.request.mainBeforeCommit s c.authorization i r).Valid C := by
  obtain ⟨⟨hobj, hlen, _, _⟩, _⟩ := r.valid
  have hmain := hf.objects _ List.mem_cons_self
  refine ⟨⟨?_, hlen, hf.target, rfl⟩, by simp [makeCase, caseId], fun _ => by simp [makeCase, evidence], ?_, hdistinct, ?_,
    nonEmpty_of_attested S.attested⟩
  · intro x hx
    simp only [makeCase, List.cons_append, List.nil_append, List.mem_cons] at hx
    rcases hx with rfl | rfl | hx
    · exact hmain
    · exact hmain
    · exact hobj x (by simp only [List.cons_append, List.nil_append, List.mem_cons]; exact .inr (.inr hx))
  · simp [makeCase, hout, caseOutcome]
  · simp [makeCase, herr]

/-! ## The run, alone -/

section Alone

variable {k : Key} {s : Soak C} {i : RollbackIntent C} {y : Report} {r : RollbackReceipt C}

theorem play_record_same (hO : Stored O) {t : Journal.Texts} {v : Rec C k} (hk : files k = .absent ∨ files k = .bound v) :
    (Journal.record t k v).play O files b = ⟨.ok (), files.put k (.bound v), b⟩ := by
  rcases hk with hk | hk
  · exact Journal.play_record hO hk
  · unfold Journal.record
    rw [Prog.play, hO b k, next_still (p := .install k) trivial (by simp)]
    dsimp only
    rw [Prog.play_taken (by rw [hk]; intro h; cases h)]
    have hsame : files.put k (.bound v) = files := by rw [← hk]; exact Function.update_eq_self _ _
    simp only [Prog.play, hk, File.content, if_true, hsame]

theorem play_validateRequest (hf : Fenced S c) : (validateRequest c.request).play O files b = ⟨.ok (), files, b⟩ := by
  refine (Prog.play_bind_ok (Prog.play_require hf.target)).trans ?_
  refine (Prog.play_bind_ok (Prog.play_require hf.objects)).trans ?_
  refine (Prog.play_bind_ok (Prog.play_require hf.parent)).trans ?_
  exact Prog.play_require hf.candidate

theorem play_assertMain (hf : Fenced S c) (hmain : ∀ b, O.answer b .mainHead = .returned c.request.mainBeforeCommit) :
    (assertMain c.request.mainBeforeCommit).play O files b = ⟨.ok c.request.mainBeforeCommit, files, b⟩ := by
  have hport : (.port .mainHead Answer.orRaise : Code C GitObject).play O files b =
      ⟨.ok c.request.mainBeforeCommit, files, b⟩ := play_still trivial (by simp) (by rw [hmain]; rfl)
  refine (Prog.play_bind_ok hport).trans ?_
  exact Prog.play_bind_ok (Prog.play_require ⟨rfl, hf.objects _ List.mem_cons_self⟩)

theorem play_fences (hf : Fenced S c) (hsteady : Steady O c.request) :
    (fences S c).play O files b = ⟨.ok (), files, b⟩ := by
  have hverify : (.port (.verifyRepository c.request) Answer.orRaise : Code C Unit).play O files b =
      ⟨.ok (), files, b⟩ := play_still trivial (by simp) (by rw [hsteady.verified]; rfl)
  refine (Prog.play_bind_ok (play_validateRequest hf)).trans ?_
  refine (Prog.play_bind_ok hverify).trans ?_
  refine (Prog.play_bind_ok (play_assertMain hf hsteady.main)).trans ?_
  have hauth : (validateAuthorization S c.request c.authorization).play O files b = ⟨.ok (), files, b⟩ :=
    (Prog.play_bind_ok (Prog.play_require hf.authorization)).trans (Prog.play_require hf.digest)
  exact (Prog.play_bind_ok hauth).trans (Prog.play_require hf.publication)

/-- The soak that a run works with: the recorded one, or the one it records. -/
def Soaked (O : Oracle (board (C := C))) (files : Files (Rec C)) (b : Board) (r : RollbackRequest) (s : Soak C) : Prop :=
  files (.soak r.operationId) = .bound s ∨ (files (.soak r.operationId) = .absent ∧ O.answer b (.soak r) = .returned s)

theorem play_soakOf (hO : Stored O) (hu : Preparable S c files) (hsoak : files (.soak c.request.operationId) = .absent →
    ∃ s, O.answer b (.soak c.request) = .returned s ∧ FailedSoak c.request s) :
    ∃ s, Soaked O files b c.request s ∧ (soakOf c.request).play O files b =
      ⟨.ok s, files.put (.soak c.request.operationId) (.bound s), b⟩ := by
  rcases hu.soak with habsent | ⟨s, hbound, hfailed⟩
  · obtain ⟨s, hs, hfailed⟩ := hsoak habsent
    refine ⟨s, .inr ⟨habsent, hs⟩, ?_⟩
    have hport : (.port (.soak c.request) Answer.orRaise : Code C (Soak C)).play O files b = ⟨.ok s, files, b⟩ :=
      play_still trivial (by simp) (by rw [hs]; rfl)
    refine (Prog.play_bind_ok (Journal.play_read_absent habsent)).trans ?_
    refine (Prog.play_bind_ok hport).trans ?_
    refine (Prog.play_bind_ok (Prog.play_require hfailed)).trans ?_
    exact Prog.play_bind_ok (play_record_same hO (.inl habsent))
  · have hkey : Rec.key (C := C) (.soak c.request.operationId) s = .soak c.request.operationId :=
      congrArg Key.soak hfailed.1
    have hsame : files.put (.soak c.request.operationId) (.bound s) = files := by
      rw [← hbound]
      exact Function.update_eq_self _ _
    refine ⟨s, .inl hbound, ?_⟩
    rw [hsame]
    refine (Prog.play_bind_ok (Journal.play_read_bound hbound hkey)).trans ?_
    exact Prog.play_bind_ok (Prog.play_require hfailed)

def prepared (c : RunCall C) (s : Soak C) (i : RollbackIntent C) (files : Files (Rec C)) : Files (Rec C) :=
  ((files.put (.soak c.request.operationId) (.bound s)).put (.rollbackAuthorization c.request.operationId)
    (.bound c.authorization)).put (.rollbackIntent c.request.operationId) (.bound i)

theorem prepared_other (hs : k ≠ .soak c.request.operationId) (ha : k ≠ .rollbackAuthorization c.request.operationId)
    (hi : k ≠ .rollbackIntent c.request.operationId) : prepared c s i files k = files k := by
  unfold prepared
  rw [Files.put_ne _ _ hi, Files.put_ne _ _ ha, Files.put_ne _ _ hs]

theorem play_prepare (hO : Stored O) (hf : Fenced S c) (hu : Preparable S c files)
    (hanswer : files (.soak c.request.operationId) = .absent →
      ∃ s, O.answer b (.soak c.request) = .returned s ∧ FailedSoak c.request s) :
    ∃ s i, Soaked O files b c.request s ∧ i.toRollbackIntentBody = makeIntent S c.request c.authorization ∧
      (prepare S c).play O files b = ⟨.ok (s, i), prepared c s i files, b⟩ := by
  obtain ⟨s, hsoaked, hsoak⟩ := play_soakOf hO hu hanswer
  let i : RollbackIntent C := ⟨makeIntent S c.request c.authorization, makeIntent_valid hf⟩
  refine ⟨s, i, hsoaked, rfl, ?_⟩
  have hbuild : RollbackIntent.build (C := C) (makeIntent S c.request c.authorization) = some i :=
    dif_pos (makeIntent_valid hf)
  refine (Prog.play_bind_ok hsoak).trans ?_
  have hauth : (files.put (.soak c.request.operationId) (.bound s)) (.rollbackAuthorization c.request.operationId) = .absent ∨
      (files.put (.soak c.request.operationId) (.bound s)) (.rollbackAuthorization c.request.operationId) =
        .bound c.authorization := by
    rw [Files.put_ne _ _ (by simp)]
    exact hu.authorization
  refine (Prog.play_bind_ok (play_record_same hO hauth)).trans ?_
  rw [hbuild]
  refine (Prog.play_bind_ok rfl).trans (Prog.play_bind_ok (play_record_same hO ?_))
  rw [Files.put_ne _ _ (by simp), Files.put_ne _ _ (by simp)]
  rcases hu.intent with habsent | ⟨j, hbound, hbody⟩
  · exact .inl habsent
  · have hj : j = i := by
      cases j
      cases hbody
      rfl
    exact .inr (hj ▸ hbound)

theorem play_receiptOf {j : Intent C} {p : Receipt C} {l : Lease} (hf : Fenced S c)
    (hb : IntentBound (c.promoteCall S) l j) (hy : y.outcome = .alreadyApplied)
    (hintent : files (.intent c.request.promotionOperationId) = .bound j)
    (hreceipt : files (.receipt c.request.promotionOperationId) = .bound p)
    (hpop : p.operationId = c.request.promotionOperationId)
    (hr : r.toRollbackReceiptBody = makeReceipt S c.request i y (some p)) :
    (receiptOf S c i y).play O files b = ⟨.ok r, files, b⟩ := by
  obtain ⟨hrepo, hbase, htree, hcand, hcandTree, hbrepo, htarget, hcommit, hbtree⟩ := hf.publication
  have hpkey : Rec.key (C := C) (.receipt c.request.promotionOperationId) p = .receipt c.request.promotionOperationId :=
    congrArg Key.receipt hpop
  have hikey : Rec.key (C := C) (.intent c.request.promotionOperationId) j = .intent c.request.promotionOperationId :=
    congrArg Key.intent hb.operation
  have hpub := hb.publication
  have hvalid := j.valid
  have hbound : (validatePromotionIntent c.request c.publication (some j)).play O files b = ⟨.ok (), files, b⟩ := by
    refine (Prog.play_bind_ok rfl).trans (Prog.play_require ?_)
    have hjcand : j.candidateCommit = c.request.rollbackCandidateCommit := hpub.2.2.2.2.2.1.symm.trans hcand
    have hjtree : j.candidateTree = c.request.restoreToTree := hpub.2.2.2.2.2.2.1.symm.trans hcandTree
    have hjref : j.candidateRef = c.publication.candidateRef := hpub.2.2.2.2.1.symm
    have hjbase : j.baseCommit = c.request.failedIntegrationHeadCommit := hb.snapshot.1.trans hcommit
    have hjbaseTree : j.baseTree = c.request.failedIntegrationHeadTree := hb.snapshot.2.1.trans hbtree
    have hjtarget : j.targetRef = c.request.targetRef := hb.target.trans htarget
    refine ⟨hb.operation, hb.repository.trans hbrepo, hjtarget, hjref, hjbase, hjbaseTree, hjcand, hjtree,
      hvalid.heads.1.trans hjref, hvalid.candidate.1.symm.trans hjcand, hvalid.candidate.2.symm.trans hjtree,
      hvalid.heads.2.trans hjtarget, hvalid.base.1.symm.trans hjbase, hvalid.base.2.symm.trans hjbaseTree⟩
  have hbuild : RollbackReceipt.build (C := C) (makeReceipt S c.request i y (some p)) = some r := by
    rw [← hr]
    exact dif_pos r.valid
  refine (Prog.play_bind_ok (Journal.play_read_bound hreceipt hpkey)).trans ?_
  refine (Prog.play_bind_ok (Journal.play_read_bound hintent hikey)).trans ?_
  rw [if_pos (by rw [hy]; rfl)]
  refine (Prog.play_bind_ok hbound).trans ?_
  rw [hbuild]
  rfl

/-- The run ended with a successful case that is on record. -/
def Succeeds (c : RunCall C) (x : Play (Rec C) Exc (Execution C) Board) : Prop :=
  ∃ e, x.outcome = .ok e ∧ e.case.outcome.success = true ∧
    x.files (.caseResult c.request.operationId caseId) = .bound e.case

theorem play_close (hO : Stored O) (hf : Fenced S c) (hout : r.outcome = .alreadyApplied) (herr : r.error = none)
    (hdistinct : (evidence s c.authorization i r).Nodup)
    (hreceipt : files (.rollbackReceipt c.request.operationId) = .absent)
    (hcase : files (.caseResult c.request.operationId caseId) = .absent) :
    Succeeds c ((close S c s i c.request.mainBeforeCommit y r).play O files b) := by
  have hvalid := makeCase_valid (s := s) (i := i) hf hout herr hdistinct
  have hsettled : decide (r.outcome ≠ .reconciliationRequired) = true := by rw [hout]; rfl
  have hbuild : CaseResult.build (C := C)
      (makeCase S c.request c.request.mainBeforeCommit s c.authorization i r) = some ⟨_, hvalid⟩ := dif_pos hvalid
  have hcase' : (files.put (.rollbackReceipt c.request.operationId) (.bound r))
      (.caseResult c.request.operationId caseId) = .absent := by
    rw [Files.put_ne _ _ (by simp)]
    exact hcase
  have hplay : (close S c s i c.request.mainBeforeCommit y r).play O files b =
      ⟨.ok ⟨c.request, s, c.authorization, i, r, ⟨_, hvalid⟩, y, evidence s c.authorization i r, false⟩,
        (files.put (.rollbackReceipt c.request.operationId) (.bound r)).put
          (.caseResult c.request.operationId caseId) (.bound ⟨_, hvalid⟩), b⟩ := by
    unfold close
    simp only [hsettled, if_true]
    refine (Prog.play_bind_ok (Journal.play_record hO hreceipt)).trans ?_
    rw [hbuild]
    refine (Prog.play_bind_ok rfl).trans ?_
    exact Prog.play_bind_ok (Journal.play_record hO hcase')
  rw [hplay]
  refine ⟨_, rfl, ?_, Files.put_self _ _ _⟩
  simp [makeCase, hout, caseOutcome, CaseOutcome.success]

/-- The run closes with a successful case, unless two of its four records have the
same digest. -/
def RecoversCase (O : Oracle (board (C := C))) (S : Settings) (c : RunCall C) (files : Files (Rec C)) (b : Board) : Prop :=
  ∃ s i r, Soaked O files b c.request s ∧ i.toRollbackIntentBody = makeIntent S c.request c.authorization ∧
    (r.operationId = c.request.operationId ∧ r.promotionOperationId = c.request.promotionOperationId ∧
      r.intentDigest = i.intentDigest ∧ r.outcome = .alreadyApplied ∧ r.error = none) ∧
    ((evidence s c.authorization i r).Nodup → Succeeds c ((run S promote c).play O files b))

theorem play_run_recovers {i : Intent C} {e : LeaseEvidence C} {a : MutationAuthorization} {rec : Reconciliation C}
    (hO : Calm O (c.promoteCall S)) (hf : Fenced S c) (hsteady : Steady O c.request) (hu : Unclosed S c files)
    (hrec : ∀ b, O.answer b (.reconcile i) = .returned rec) (hx : exact rec i)
    (hs : Submitted (c.promoteCall S) files i e a)
    (hreceipt : ∀ r, files (.receipt c.request.promotionOperationId) = .bound r →
      r.operationId = c.request.promotionOperationId ∧
        (r.outcome.success = true → ∃ m rec', r.toReceiptBody = Service.receiptOf i m rec' r.outcome))
    (hres : Resolvable files b c.request.promotionOperationId i rec) : RecoversCase O S c files b := by
  obtain ⟨s, ri, hsoaked, hri, hprepare⟩ := play_prepare hO.installs hf hu.toPreparable fun _ => hsteady.soak b
  have hother : ∀ k, k ≠ .soak c.request.operationId → k ≠ .rollbackAuthorization c.request.operationId →
      k ≠ .rollbackIntent c.request.operationId → prepared c s ri files k = files k := fun k => prepared_other
  -- the promotion finds its own records as they were
  have hs₁ : Submitted (c.promoteCall S) (prepared c s ri files) i e a := by
    refine ⟨hs.entered, ?_, hs.scope, hs.bound⟩
    obtain ⟨hev, hin, hau, hop, hl, hul, hui⟩ := hs.authorized
    refine ⟨?_, ?_, ?_, hop, hl, hul, hui⟩
    · rw [hother _ (by simp) (by simp) (by simp)]; exact hev
    · rw [hother _ (by simp) (by simp) (by simp)]; exact hin
    · rw [hother _ (by simp) (by simp) (by simp)]; exact hau
  have hsame : prepared c s ri files (.receipt c.request.promotionOperationId) =
      files (.receipt c.request.promotionOperationId) := hother _ (by simp) (by simp) (by simp)
  have hres₁ : Resolvable (prepared c s ri files) b (c.promoteCall S).operationId i rec := by
    unfold Resolvable
    change ((∃ r, prepared c s ri files (.receipt c.request.promotionOperationId) = .bound r ∧ _) ∧ _) ∨
      (prepared c s ri files (.receipt c.request.promotionOperationId) = .absent ∧ _)
    rw [hsame]
    exact hres
  obtain ⟨y, p, files₂, b₂, hpromote, ⟨hyop, hyo⟩, hp, ⟨m, rec', hbody⟩, hkept⟩ :=
    play_promote_resolved hO hrec hx hs₁ (fun r hr => hreceipt r (hsame ▸ hr)) hres₁
  have hpop : p.operationId = c.request.promotionOperationId := by rw [hbody]; exact hs.bound.operation
  have hexact : exactReceipt c.request p := exactReceipt_of_made hf hs.bound hbody
  obtain ⟨r, hr⟩ : ∃ r : RollbackReceipt C, r.toRollbackReceiptBody = makeReceipt S c.request ri y (some p) :=
    ⟨⟨_, makeReceipt_valid hf hyo hexact⟩, rfl⟩
  have hshape := hr.trans (makeReceipt_applied hyo hexact)
  have hout : r.outcome = .alreadyApplied := by rw [hshape]
  have herr : r.error = none := by rw [hshape]
  have hnamed : r.operationId = c.request.operationId ∧ r.promotionOperationId = c.request.promotionOperationId ∧
      r.intentDigest = ri.intentDigest := by
    rw [hshape]
    exact ⟨rfl, rfl, rfl⟩
  refine ⟨s, ri, r, hsoaked, hri, ⟨hnamed.1, hnamed.2.1, hnamed.2.2, hout, herr⟩, fun hdistinct => ?_⟩
  have hintent : files₂ (.intent c.request.promotionOperationId) = .bound i := by
    rw [hkept _ (by simp), hother _ (by simp) (by simp) (by simp)]
    have h := hs.authorized.intent
    rw [hs.bound.operation] at h
    exact h
  have hclosed : ∀ k, (k = .rollbackReceipt c.request.operationId ∨ k = .caseResult c.request.operationId caseId) →
      files₂ k = files k := by
    rintro k (rfl | rfl)
    · rw [hkept _ (by simp), hother _ (by simp) (by simp) (by simp)]
    · rw [hkept _ (by simp), hother _ (by simp) (by simp) (by simp)]
  have hrun : (run S promote c).play O files b =
      (close S c s ri c.request.mainBeforeCommit y r).play O files₂ b₂ := by
    refine (Prog.play_bind_ok (play_fences hf hsteady)).trans ?_
    refine (Prog.play_bind_ok (Journal.play_read_absent hu.case)).trans ?_
    refine (Prog.play_bind_ok hprepare).trans ?_
    refine (Prog.play_bind_ok hpromote).trans ?_
    refine (Prog.play_bind_ok (Prog.play_require hyop)).trans ?_
    refine (Prog.play_bind_ok (play_assertMain hf hsteady.main)).trans ?_
    exact Prog.play_bind_ok (play_receiptOf hf hs.bound hyo hintent hp hpop hr)
  rw [hrun]
  refine play_close hO.installs hf hout herr hdistinct ?_ ?_
  · rw [hclosed _ (.inl rfl)]; exact hu.receipt
  · rw [hclosed _ (.inr rfl)]; exact hu.case

end Alone

end Rollback

/-! ## Later in a run -/

/-- The records of the promotion service; the others are those of the drill. -/
def Key.ofPromotion : Key → Bool
  | .leaseEvidence _ | .intent _ | .mutationAuthorization _ | .receipt _ => true
  | _ => false

/-- The call is made once more and let run alone to its end: it returns
`already_applied`, and the receipt on record says so. -/
def ResolvesLater (O : Oracle (board (C := C))) (w : World C) (call : PromoteCall) : Prop :=
  ∃ (w₁ w' : World C) (t : CallThread C) (y : Report), serve board promote w (.start call) = .ok w₁ ∧
    Reaches (serve board promote) (Alone O w.config.threads.length) w₁ w' ∧
    w'.config.threads[w.config.threads.length]? = some t ∧ t.status = .running (.done y) ∧ y.outcome = .alreadyApplied ∧
    Receipted w' call.operationId .alreadyApplied

theorem resolvesLater_iff {w : World C} {call : PromoteCall} :
    ResolvesLater O w call ↔ Resolves call.operationId ((promote call).play O w.config.files w.state) := by
  have hstart : serve board promote w (.start call) =
      .ok ⟨⟨w.config.files, w.config.threads ++ [⟨call, .running (promote call), []⟩]⟩, w.state⟩ :=
    serve_ok.mpr ⟨rfl, rfl⟩
  have hlast : (w.config.threads ++ [(⟨call, .running (promote call), []⟩ : CallThread C)])[w.config.threads.length]? =
      some ⟨call, .running (promote call), []⟩ := by simp
  constructor
  · rintro ⟨w₁, w', t, y, hs, hr, ht, hret, hyo, hreceipt⟩
    cases hstart.symm.trans hs
    obtain ⟨t', ht', hplay⟩ := Reaches.played hr hlast
    cases ht.symm.trans ht'
    rw [hret] at hplay
    have hend : (promote call).play O w.config.files w.state = ⟨.ok y, w'.config.files, w'.state⟩ :=
      (Option.some.inj hplay).symm
    rw [hend]
    exact ⟨⟨y, rfl, hyo⟩, hreceipt⟩
  · rintro ⟨⟨y, hy, hyo⟩, r, hr, hout⟩
    obtain ⟨w', log', hreach, hf, _, ht⟩ := Prog.play_reaches (O := O) (w := ⟨⟨_, _⟩, w.state⟩) hlast
    dsimp only at hf ht
    rw [hy] at ht
    exact ⟨_, w', _, y, hstart, hreach, ht, rfl, hyo, r, by rw [hf]; exact hr, hout⟩

namespace Sample

/-! ### A provider that applied the merge after all -/

def merged : Env :=
  ⟨.transportError "connection reset", fun i => .returned (reconciliation true (i.operationId = operation true))⟩

/-- An identity that is longer than all of these together. -/
def longer (names : List String) : String :=
  String.ofList (List.replicate ((names.map fun s => s.toList.length).sum + 1) 'i')

theorem longer_not_mem (names : List String) : longer names ∉ names := by
  intro h
  have hle : (longer names).toList.length ≤ (names.map fun s => s.toList.length).sum :=
    List.single_le_sum (fun _ _ => Nat.zero_le _) _ (List.mem_map_of_mem h)
  simp only [longer, String.toList_ofList, List.length_replicate] at hle
  omega

def request : RollbackRequest where
  failedIntegrationHeadCommit := object 'b'
  failedIntegrationHeadTree := object '1'
  restoreToCommit := object 'a'
  restoreToTree := object '2'
  rollbackCandidateCommit := object 'c'
  rollbackCandidateParentCommit := object 'b'
  operationId := 21
  promotionOperationId := operation false
  repositoryDigest := 11
  targetRef := "refs/heads/integration"
  mainBeforeCommit := object 'f'

def soak : Soak canon where
  repositoryDigest := 11
  targetRef := "refs/heads/integration"
  mainBeforeCommit := object 'f'
  mainAfterCommit := object 'f'
  targetHeadCommit := object 'b'
  targetHeadTree := object '1'
  targetParents := []
  operationId := 21
  outcome := .failed
  error := some "deterministic integration soak failure"
  valid := by decide +kernel

def mergedAnswer (b : Board) : (p : Port canon) → p.Answer
  | .freshIdentity => longer b.identities
  | .soak _ => .returned soak
  | p => answer merged b p

theorem mergedAnswer_served (b : Board) (p : Port canon) : (board p (mergedAnswer b p) b).isSome = true := by
  cases p with
  | freshIdentity => simp [board, mergedAnswer, longer_not_mem]
  | createLease l =>
    simp only [board, mergedAnswer, answer]
    by_cases hk : b.leases (l.key canon) = .free <;> simp [hk]
  | writeLease l =>
    simp only [board, mergedAnswer, answer]
    split <;> rfl
  | readLease key =>
    simp only [board, mergedAnswer, answer]
    cases b.leases key <;> simp [Slot.content]
  | removeLease key =>
    simp only [board, mergedAnswer, answer]
    by_cases hk : b.leases key = .free <;> simp [hk]
  | _ => rfl

def mergedOracle : Oracle (board (C := canon)) where
  answer := mergedAnswer
  next b p := (board p (mergedAnswer b p) b).get (mergedAnswer_served b p)
  serves _ _ := (Option.some_get _).symm

theorem calm_merged (second : Bool) : Calm mergedOracle (call second) where
  verified _ := rfl
  installs _ _ := rfl
  reads _ _ := rfl
  removes b key hk := by
    change (if b.leases key = .free then Removal.missing else .removed) = .removed
    rw [if_neg hk]

def settings : Rollback.Settings := ⟨"attester", ["issuer"], 100, by decide⟩

def authorizationBody : RollbackAuthorizationBody where
  repositoryDigest := 11
  targetRef := "refs/heads/integration"
  mainBeforeCommit := object 'f'
  mainAfterCommit := object 'f'
  targetHeadCommit := object 'b'
  targetHeadTree := object '1'
  targetParents := []
  toRollbackTopology := request.toRollbackTopology
  operationId := 21
  prepublicationAuthorizationId := none
  failedSoakAttestationId := none
  issuer := "issuer"
  reason := "failed soak"
  authorized := true

def authorization : RollbackAuthorization canon :=
  ⟨authorizationBody, rollbackAuthorizationDigest canon authorizationBody, by decide +kernel⟩

/-- A rollback through the first promotion. -/
def rollback : Rollback.RunCall canon := ⟨request, authorization, bundle, publication, 17⟩

theorem fenced_rollback : Rollback.Fenced settings rollback where
  target := rfl
  objects := by simp [rollback, request, RollbackTopology.objects, gitObject_object]
  parent := rfl
  candidate := by decide +kernel
  authorization := ⟨rfl, rfl, rfl, rfl, rfl, rfl, rfl, rfl, rfl, List.mem_singleton.mpr rfl⟩
  digest := rfl
  publication := ⟨rfl, rfl, rfl, rfl, rfl, rfl, rfl, rfl, rfl⟩

theorem steady_merged : Rollback.Steady mergedOracle request where
  verified _ := rfl
  main _ := rfl
  soak _ := ⟨soak, rfl, rfl, rfl, rfl, rfl, rfl, rfl, rfl, rfl, rfl⟩

/-- The PUT went out, and then the provider could not be asked. -/
def stranded : List Order := .start false :: steps 0 38 unreachable

theorem runs_pending : Runs (after pending) := reaches_pending.mono fun _ _ _ => trivial

instance (i : Intent canon) (r : Reconciliation canon) : Decidable (ReportsOn i r) :=
  decidable_of_iff ((r.repositoryDigest = i.repositoryDigest ∧ r.targetRef = i.targetRef ∧
      r.protectionEvidenceDigest = i.protectionEvidenceDigest) ∧
      (r.pullRequestNumber = i.pullRequestNumber ∧ r.pullRequestUrl = i.pullRequestUrl) ∧
      r.providerIdentity = i.providerIdentity ∧ r.providerApiVersion = i.providerApiVersion)
    ⟨fun ⟨⟨h₁, h₂, h₃⟩, h₄, h₅⟩ => ⟨h₁, h₄, h₅, h₂, h₃⟩, fun ⟨h₁, h₄, h₅, h₂, h₃⟩ => ⟨⟨h₁, h₂, h₃⟩, h₄, h₅⟩⟩

instance (i : Intent canon) (l : Lease) : Decidable (OwnLease i l) := inferInstanceAs (Decidable (_ ∧ _))

/-- The target is leased by the intent. -/
def holds (b : Board) (i : Intent canon) : Bool :=
  match b.leases (leaseKey canon i.repositoryDigest i.targetRef) with
  | .held l => OwnLease i l
  | _ => false

theorem targetOpen_of_holds {b : Board} {i : Intent canon} (h : holds b i = true) : TargetOpen b i := by
  unfold holds at h
  split at h
  · next l hl => exact .inr ⟨l, hl, of_decide_eq_true h⟩
  · cases h

/-- The log has the PUT of an intent that was exactly applied later on. -/
def hasExactPut (b : Board) (t : CallThread canon) : Bool :=
  t.log.any fun
    | .port (.put i) _ => exact (reconciliation true false) i && ReportsOn i (reconciliation true false) && holds b i &&
        i.operationId = operation false && i.candidateCommit = object 'c'
    | _ => false

theorem exists_exact_put {b : Board} {t : CallThread canon} (h : hasExactPut b t = true) :
    ∃ i r, .port (.put i) r ∈ t.log ∧ exact (reconciliation true false) i ∧
      Recoverable b i (reconciliation true false) ∧ i.operationId = operation false := by
  obtain ⟨e, he, hs⟩ := List.any_eq_true.mp h
  split at hs
  · next i r =>
    simp only [Bool.and_eq_true, decide_eq_true_eq] at hs
    obtain ⟨⟨⟨⟨hx, hon⟩, hold⟩, hop⟩, hcand⟩ := hs
    exact ⟨i, r, he, hx, ⟨hon, by rw [hcand]; decide, targetOpen_of_holds hold⟩, hop⟩
  · cases hs

theorem reconcile_merged {i : Intent canon} (hop : i.operationId = operation false) (b : Board) :
    mergedOracle.answer b (.reconcile i) = .returned (reconciliation true false) := by
  change Answer.returned (reconciliation true (decide (i.operationId = operation true))) = _
  have hne : decide (i.operationId = operation true) = false := decide_eq_false fun h => operation_ne (h.symm.trans hop)
  rw [hne]

/-- The records that a rollback of the first operation goes by. -/
def rollbackKeys : List Key :=
  [.receipt (call false).operationId, .soak rollback.request.operationId, .rollbackAuthorization rollback.request.operationId,
    .rollbackIntent rollback.request.operationId, .rollbackReceipt rollback.request.operationId,
    .caseResult rollback.request.operationId Rollback.caseId]

/-- The only call returned `reconciliation_required`, after a PUT exactly applied. -/
def unresolvedPut (w : World canon) : Bool :=
  decide (w.config.threads.map (·.call) = [call false]) &&
    w.config.threads[0]?.any fun t => returned .reconciliationRequired t && hasExactPut w.state t

set_option maxRecDepth 8000 in
/-- Both runs, evaluated together. -/
theorem stranded_pending_conclude :
    concludes obey (fun _ _ => true) (fun w => unresolvedPut w && rollbackKeys.all (lacks w)) World.fresh stranded = true ∧
      concludes obey (fun _ _ => true)
        (fun w => unresolvedPut w && decide (receiptOutcome w (call false).operationId = some .reconciliationRequired))
        World.fresh pending = true := by
  decide +kernel

theorem runs_stranded : Runs (after stranded) := runs_after (allowed_of_concludes stranded_pending_conclude.1).1

theorem exists_unresolved_put {w : World canon} (h : unresolvedPut w = true) :
    ∃ t i r, w.config.threads[0]? = some t ∧ t.call = call false ∧ returned .reconciliationRequired t = true ∧
      .port (.put i) r ∈ t.log ∧ exact (reconciliation true false) i ∧
      Recoverable w.state i (reconciliation true false) ∧ i.operationId = operation false := by
  simp only [unresolvedPut, Bool.and_eq_true, decide_eq_true_eq] at h
  obtain ⟨hcalls, hany⟩ := h
  obtain ⟨t, ht, hb⟩ := (Option.any_eq_true _ _).mp hany
  obtain ⟨hret, hput⟩ := (Bool.and_eq_true _ _).mp hb
  obtain ⟨i, r, hr⟩ := exists_exact_put hput
  have hcall : (w.config.threads.map (·.call))[0]? = some t.call := by rw [List.getElem?_map, ht]; rfl
  rw [hcalls] at hcall
  exact ⟨t, i, r, ht, (Option.some.inj hcall).symm, hret, hr⟩

theorem stranded_put : unresolvedPut (after stranded) = true ∧
    ∀ k ∈ rollbackKeys, (after stranded).config.files k = .absent := by
  have htest := after_passes stranded_pending_conclude.1
  simp only [Bool.and_eq_true, List.all_eq_true] at htest
  exact ⟨htest.1, fun k hk => absent_of_lacks (htest.2 k hk)⟩

theorem exists_receipt {w : World canon} {op : Sha256Digest} {outcome : Outcome} (h : receiptOutcome w op = some outcome) :
    ∃ q, w.config.files (.receipt op) = .bound q ∧ q.outcome = outcome := by
  unfold receiptOutcome at h
  split at h
  · next q hq => exact ⟨q, hq, Option.some.inj h⟩
  · cases h

theorem pending_put_exact : unresolvedPut (after pending) = true ∧
    ∃ q, (after pending).config.files (.receipt (call false).operationId) = .bound q ∧
      q.outcome = .reconciliationRequired := by
  have htest := after_passes stranded_pending_conclude.2
  simp only [Bool.and_eq_true, decide_eq_true_eq] at htest
  exact ⟨htest.1, exists_receipt htest.2⟩

theorem distinct_evidence {i : RollbackIntent canon} {r : RollbackReceipt canon}
    (hi : i.toRollbackIntentBody = Rollback.makeIntent settings request authorization) (hop : r.operationId = 21)
    (hpop : r.promotionOperationId = operation false) (hintent : r.intentDigest = i.intentDigest)
    (hout : r.outcome = .alreadyApplied) (herr : r.error = none) :
    (Rollback.evidence soak authorization i r).Nodup := by
  have hidigest : i.intentDigest = digest (.rollbackIntent (Rollback.makeIntent settings request authorization)) := by
    rw [← hi]
    rfl
  have hrdigest : r.receiptDigest = mix [11, (21 : Sha256Digest).toNat, (operation false).toNat, i.intentDigest.toNat, 0] := by
    change mix [11, r.operationId.toNat, r.promotionOperationId.toNat, r.intentDigest.toNat, (r.error.map text).getD 0] = _
    rw [hop, hpop, hintent, herr]
    rfl
  unfold Rollback.evidence
  rw [if_neg (by rw [hout]; decide), hrdigest, hidigest]
  decide +kernel

end Sample

/-- In every run, after the PUT of an operation and with the merge exactly applied
for good: the same call made again returns `already_applied` and records it, and a
rollback through it closes with a successful case, exactly when the receipt of the
operation is not on record or says `already_applied`, the target is open, and the
provider reports a commit other than the candidate on the intent. -/
theorem pending_promotion_resolves {w : World C} (hw : Runs w) {j : Nat} {u : CallThread C} {i : Intent C} {r : PutAnswer}
    {rec : Reconciliation C} (hu : w.config.threads[j]? = some u) (hput : .port (.put i) r ∈ u.log) (hO : Calm O u.call)
    (hrec : ∀ b, O.answer b (.reconcile i) = .returned rec) (hx : exact rec i) :
    (ResolvesLater O w u.call ∧
      ∀ (S : Rollback.Settings) (c : Rollback.RunCall C) (files : Files (Rec C)), c.promoteCall S = u.call →
        Rollback.Fenced S c → Rollback.Steady O c.request → Rollback.Unclosed S c files →
        (∀ k, k.ofPromotion = true → files k = w.config.files k) → Rollback.RecoversCase O S c files w.state) ↔
    Resolvable w.config.files w.state u.call.operationId i rec := by
  have hk := hw.known
  obtain ⟨e, a, hs⟩ := hk.submitted_record hu hput
  have hintent : w.config.files (.intent u.call.operationId) = .bound i := by
    rw [← hs.bound.operation]
    exact hs.authorized.intent
  have hiff := play_promote_resolves_iff (b := w.state) hO hrec hx hs fun r hr => hk.receipt_made hintent hr
  refine ⟨fun h => hiff.mp (resolvesLater_iff.mp h.1), fun hres => ⟨resolvesLater_iff.mpr (hiff.mpr hres), ?_⟩⟩
  intro S c files hcall hf hsteady hopen hagree
  rw [← hcall] at hO hs hintent hres
  have hs' : Submitted (c.promoteCall S) files i e a := by
    obtain ⟨hev, hin, hau, hop, hl, hul, hui⟩ := hs.authorized
    refine ⟨hs.entered, ⟨?_, ?_, ?_, hop, hl, hul, hui⟩, hs.scope, hs.bound⟩
    · rw [hagree _ rfl]; exact hev
    · rw [hagree _ rfl]; exact hin
    · rw [hagree _ rfl]; exact hau
  refine Rollback.play_run_recovers hO hf hsteady hopen hrec hx hs' ?_ ?_
  · intro r hr
    rw [hagree _ rfl] at hr
    exact hk.receipt_made hintent hr
  · unfold Resolvable
    rw [hagree _ rfl]
    exact hres

theorem pending_promotion_resolves_stranded :
    ResolvesLater Sample.mergedOracle (Sample.after Sample.stranded) (Sample.call false) ∧
      Rollback.Succeeds Sample.rollback ((Rollback.run Sample.settings promote Sample.rollback).play Sample.mergedOracle
        (Sample.after Sample.stranded).config.files (Sample.after Sample.stranded).state) := by
  obtain ⟨hput, habsent⟩ := Sample.stranded_put
  obtain ⟨t, i, r, ht, hcall, -, hr, hx, hrecover, hop⟩ := Sample.exists_unresolved_put hput
  simp only [Sample.rollbackKeys, List.mem_cons, List.not_mem_nil, or_false, forall_eq_or_imp, forall_eq] at habsent
  obtain ⟨hreceipt, hsoak, hauthorization, hintent, hrollback, hcase⟩ := habsent
  have hboth := (pending_promotion_resolves Sample.runs_stranded ht hr (by rw [hcall]; exact Sample.calm_merged false)
    (Sample.reconcile_merged hop) hx).mpr (.inr ⟨by rw [hcall]; exact hreceipt, hrecover⟩)
  rw [hcall] at hboth
  refine ⟨hboth.1, ?_⟩
  obtain ⟨s, ri, rr, hsoaked, hri, ⟨h₁, h₂, h₃, h₄, h₅⟩, hsucceeds⟩ :=
    hboth.2 Sample.settings Sample.rollback (Sample.after Sample.stranded).config.files rfl Sample.fenced_rollback
      Sample.steady_merged ⟨⟨.inl hsoak, .inl hauthorization, .inl hintent⟩, hrollback, hcase⟩ fun _ _ => rfl
  have hs : s = Sample.soak := by
    rcases hsoaked with hb | ⟨_, hb⟩
    · cases hsoak.symm.trans hb
    · exact (Answer.returned.inj hb).symm
  subst hs
  exact hsucceeds (Sample.distinct_evidence hri h₁ h₂ h₃ h₄ h₅)

/-- A receipt that asks for reconciliation stays: the call replays it although the
merge is exactly applied. -/
theorem unresolved_receipt_replayed :
    ¬ ∀ (w : World Sample.canon) (j : Nat) (u : CallThread Sample.canon) (report : Report) (i : Intent Sample.canon)
      (r : PutAnswer) (O : Oracle (board (C := Sample.canon))) (rec : Reconciliation Sample.canon), Runs w →
      w.config.threads[j]? = some u → u.status = .running (.done report) → report.outcome = .reconciliationRequired →
      .port (.put i) r ∈ u.log → Calm O u.call → (∀ b, O.answer b (.reconcile i) = .returned rec) → exact rec i →
      ResolvesLater O w u.call := by
  intro hall
  obtain ⟨hput, q', hq', hout'⟩ := Sample.pending_put_exact
  obtain ⟨t, i, r, ht, hcall, hret, hr, hx, -, hop⟩ := Sample.exists_unresolved_put hput
  obtain ⟨report, hs, ho⟩ := Sample.exists_report hret
  have hlater := hall _ 0 t report i r Sample.mergedOracle _ Sample.runs_pending ht hs ho hr
    (by rw [hcall]; exact Sample.calm_merged false) (Sample.reconcile_merged hop) hx
  rw [hcall] at hlater
  obtain ⟨_, q, hq, hout⟩ := resolvesLater_iff.mp hlater
  -- the receipt on record is still the first one
  cases (Prog.play_grows _ _ hq').symm.trans hq
  rw [hout'] at hout
  cases hout

end AvoCorrelate.Promotion
