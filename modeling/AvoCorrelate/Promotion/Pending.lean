import AvoCorrelate.Promotion.Outcomes
/-!
# Pending promotions

After its PUT an operation is resolved by a later `promote` call that finds the
merge exactly applied, unless its receipt is durable already: a receipt that asks
for reconciliation is replayed as it is, for good. `promote_resolves_iff` says
exactly when a call that is let run alone resolves the operation.
-/
open AvoLib

namespace AvoCorrelate.Promotion

open ExactCas (Sha256Digest GitObject)
open Service

variable {C : Canon} {O : Oracle (board (C := C))} {files files' : Files (Rec C)} {b b' : Board}

/-- The object store does not fail. -/
def Stored (O : Oracle (board (C := C))) : Prop := ∀ b k, O.answer b (.install k) = .returned ()

/-- The verifier accepts the publication, and neither the object store nor the lease
files fail. -/
structure Calm (O : Oracle (board (C := C))) (call : PromoteCall) : Prop where
  verified : ∀ b, O.answer b (.verifyPublication call.publication call.bundle) = .returned true
  installs : Stored O
  reads : ∀ b key, O.answer b (.readLease key) = (b.leases key).content
  removes : ∀ b key, b.leases key ≠ .free → O.answer b (.removeLease key) = .removed

/-- What is on record of an operation from its PUT on. -/
structure Submitted (call : PromoteCall) (files : Files (Rec C)) (i : Intent C) (e : LeaseEvidence C)
    (a : MutationAuthorization) : Prop where
  entered : Entered call
  authorized : Authorized files i e a
  scope : Scoped call e.toLease
  bound : IntentBound call e.toLease i

/-- The provider reports on the repository, the pull request, the target and the
protection of the intent. -/
structure ReportsOn (i : Intent C) (r : Reconciliation C) : Prop where
  repository : r.repositoryDigest = i.repositoryDigest
  pullRequest : r.pullRequestNumber = i.pullRequestNumber ∧ r.pullRequestUrl = i.pullRequestUrl
  provider : r.providerIdentity = i.providerIdentity ∧ r.providerApiVersion = i.providerApiVersion
  target : r.targetRef = i.targetRef
  protection : r.protectionEvidenceDigest = i.protectionEvidenceDigest

def OwnLease (i : Intent C) (l : Lease) : Prop :=
  l.repositoryDigest = i.repositoryDigest ∧ l.targetRef = i.targetRef ∧ l.operationId = i.operationId ∧
    l.identity = i.controllerLeaseIdentity ∧ l.digest C = i.controllerLeaseDigest

/-- The lease file of the target is not there, or holds the lease of the intent. -/
def TargetOpen (b : Board) (i : Intent C) : Prop :=
  b.leases (leaseKey C i.repositoryDigest i.targetRef) = .free ∨
    ∃ l, b.leases (leaseKey C i.repositoryDigest i.targetRef) = .held l ∧ OwnLease i l

/-- The call returned `already_applied`, with a receipt of that outcome. -/
def Resolves (op : Sha256Digest) (x : Play (Rec C) Exc Report Board) : Prop :=
  (∃ y, x.outcome = .ok y ∧ y.outcome = .alreadyApplied) ∧
    ∃ r, x.files (.receipt op) = .bound r ∧ r.outcome = .alreadyApplied

/-! ## Steps of the journal -/

theorem next_still {p : Port C} (hp : Still (.port p : Action (Rec C) (Port C))) (hf : p ≠ .freshIdentity) (b : Board) :
    O.next b p = b := by
  have h := O.serves b p
  generalize O.answer b p = r at h
  cases p with
  | freshIdentity => exact absurd rfl hf
  | createLease | writeLease | removeLease | put => exact hp.elim
  | readLease key =>
    cases r with
    | malformed => exact (Option.some.inj h).symm
    | missing | found l =>
      simp only [board] at h
      split at h
      · exact (Option.some.inj h).symm
      · cases h
  | _ => exact (Option.some.inj h).symm

theorem play_still {α : Type} {p : Port C} {v : α} {next : p.Answer → Code C α}
    (hp : Still (.port p : Action (Rec C) (Port C))) (hf : p ≠ .freshIdentity) (hv : next (O.answer b p) = .done v) :
    (Prog.port p next : Code C α).play O files b = ⟨.ok v, files, b⟩ := by
  change (next (O.answer b p)).play O files (O.next b p) = _
  rw [hv, next_still hp hf]
  rfl

namespace Journal

variable {t : Texts} {k : Key} {v : Rec C k}

theorem play_read_absent (hk : files k = .absent) : (read t k).play O files b = ⟨.ok none, files, b⟩ := by
  simp only [read, Prog.play, hk, File.content]

theorem play_read_bound (hk : files k = .bound v) (hv : Rec.key k v = k) :
    (read t k).play O files b = ⟨.ok (some v), files, b⟩ := by
  simp only [read, Prog.play, hk, File.content, hv, if_true]

theorem play_read_torn (hk : files k = .torn) :
    (read t k : Code C (Option (Rec C k))).play O files b = ⟨.error (.error t.malformedRecord), files, b⟩ := by
  simp only [read, Prog.play, hk, File.content]

theorem play_record (hO : Stored O) (hk : files k = .absent) :
    (record t k v).play O files b = ⟨.ok (), files.put k (.bound v), b⟩ := by
  unfold record
  rw [Prog.play, hO b k, next_still (p := .install k) trivial (by simp)]
  dsimp only
  rw [Prog.play_publish hk]
  rfl

end Journal

/-! ## Giving the lease back -/

section Release
variable {call : PromoteCall} {i : Intent C}

theorem play_removeLease (files : Files (Rec C)) (hO : Calm O call) {key : Sha256Digest} (hb : b.leases key ≠ .free) :
    ∃ b', (Journal.removeLease key : Code C Unit).play O files b = ⟨.ok (), files, b'⟩ := by
  refine ⟨O.next b (.removeLease key), ?_⟩
  unfold Journal.removeLease
  rw [Prog.play, hO.removes b key hb]
  rfl

theorem play_releaseLease (files : Files (Rec C)) (hO : Calm O call) {l : Lease} (hb : b.leases (l.key C) = .held l) :
    ∃ b', (Journal.releaseLease l : Code C Unit).play O files b = ⟨.ok (), files, b'⟩ := by
  obtain ⟨b', hrm⟩ := play_removeLease files hO (show b.leases (l.key C) ≠ .free by rw [hb]; exact fun h => (nomatch h))
  refine ⟨b', ?_⟩
  unfold Journal.releaseLease
  rw [Prog.play, hO.reads, hb, next_still (p := .readLease _) trivial (by simp)]
  have hsame : Journal.sameLease C l l := ⟨rfl, rfl, rfl, rfl⟩
  simp only [Slot.content, hsame, if_true]
  exact hrm

theorem play_readLease (files : Files (Rec C)) (b : Board) (hO : Calm O call) (htrim : trimmed i.targetRef = true) :
    (Journal.readLease i.repositoryDigest i.targetRef : Code C (Option Lease)).play O files b =
      match b.leases (leaseKey C i.repositoryDigest i.targetRef) with
      | .free => ⟨.ok none, files, b⟩
      | .reserved _ => ⟨.error (.error "lease is malformed"), files, b⟩
      | .held l =>
        if l.repositoryDigest = i.repositoryDigest ∧ l.targetRef = i.targetRef then ⟨.ok (some l), files, b⟩
        else ⟨.error (.error "lease scope does not match its key"), files, b⟩ := by
  unfold Journal.readLease
  rw [if_pos htrim, Prog.play, hO.reads, next_still (p := .readLease _) trivial (by simp)]
  cases b.leases (leaseKey C i.repositoryDigest i.targetRef) with
  | free => rfl
  | reserved l => rfl
  | held l =>
    simp only [Slot.content]
    split <;> rfl

def giveBack (i : Intent C) : Code C Bool :=
  Journal.releaseMatchingLease i.repositoryDigest i.targetRef i.operationId i.controllerLeaseIdentity i.controllerLeaseDigest

theorem play_giveBack (files : Files (Rec C)) (hO : Calm O call) (htrim : trimmed i.targetRef = true) (hopen : TargetOpen b i) :
    ∃ x b', (giveBack i).play O files b = ⟨.ok x, files, b'⟩ := by
  have hread := play_readLease files b hO htrim
  rcases hopen with hfree | ⟨l, hheld, hown⟩
  · rw [hfree] at hread
    exact ⟨false, b, Prog.play_bind_ok hread⟩
  · have hkey : l.key C = leaseKey C i.repositoryDigest i.targetRef := by rw [Lease.key, hown.1, hown.2.1]
    rw [hheld] at hread
    simp only [hown.1, hown.2.1, and_self, if_true] at hread
    obtain ⟨b', hrel⟩ := play_releaseLease files hO (b := b) (l := l) (by rw [hkey]; exact hheld)
    refine ⟨true, b', ?_⟩
    refine (Prog.play_bind_ok hread).trans ?_
    refine (Prog.play_bind_ok (Prog.play_require hown.2.2)).trans ?_
    exact Prog.play_bind_ok hrel

theorem play_giveBack_error (files : Files (Rec C)) (hO : Calm O call) (htrim : trimmed i.targetRef = true) (hopen : ¬ TargetOpen b i) :
    ∃ e, (giveBack i).play O files b = ⟨.error e, files, b⟩ := by
  have hread := play_readLease files b hO htrim
  unfold TargetOpen at hopen
  cases hb : b.leases (leaseKey C i.repositoryDigest i.targetRef) with
  | free => exact absurd (.inl hb) hopen
  | reserved l =>
    rw [hb] at hread
    exact ⟨_, Prog.play_bind_error hread⟩
  | held l =>
    rw [hb] at hread
    by_cases hscope : l.repositoryDigest = i.repositoryDigest ∧ l.targetRef = i.targetRef
    · simp only [hscope, and_self, if_true] at hread
      have hnot : ¬ (l.operationId = i.operationId ∧ l.identity = i.controllerLeaseIdentity ∧
          l.digest C = i.controllerLeaseDigest) := fun h => hopen (.inr ⟨l, hb, hscope.1, hscope.2, h⟩)
      exact ⟨_, (Prog.play_bind_ok hread).trans (Prog.play_bind_error (Prog.play_require_not hnot))⟩
    · simp only [hscope, if_false] at hread
      exact ⟨_, Prog.play_bind_error hread⟩

end Release

/-! ## Checks of the durable intent -/

section Checks
variable {call : PromoteCall} {i : Intent C} {e : LeaseEvidence C} {a : MutationAuthorization}

theorem play_assertDurableLeaseEvidence (hs : Submitted call files i e a) :
    (assertDurableLeaseEvidence i).play O files b = ⟨.ok (), files, b⟩ := by
  have hkey : Rec.key (.leaseEvidence i.operationId) e = .leaseEvidence i.operationId :=
    congrArg Key.leaseEvidence hs.authorized.operation.1
  refine (Prog.play_bind_ok (Journal.play_read_bound hs.authorized.evidence hkey)).trans ?_
  refine (Prog.play_bind_ok rfl).trans (Prog.play_require ?_)
  refine ⟨hs.authorized.operation.1, ?_, ?_, hs.authorized.lease.1.symm, hs.authorized.lease.2.symm⟩
  · exact hs.scope.repository.trans hs.bound.repository.symm
  · exact hs.scope.target.trans hs.bound.target.symm

theorem play_assertIntentBindingWithoutLease (hs : Submitted call files i e a) :
    (assertIntentBindingWithoutLease i call).play O files b = ⟨.ok (), files, b⟩ := by
  refine (Prog.play_bind_ok (Prog.play_require ⟨hs.bound.operation, hs.bound.repository, hs.bound.target⟩)).trans ?_
  refine (Prog.play_bind_ok (Prog.play_require ⟨hs.bound.bundle, hs.bound.candidate⟩)).trans ?_
  exact Prog.play_require hs.bound.snapshot

theorem play_assertPublicationIntentBinding (hs : Submitted call files i e a) :
    (assertPublicationIntentBinding call.publication i).play O files b = ⟨.ok (), files, b⟩ :=
  Prog.play_require hs.bound.publication

theorem play_recoverable (hs : Submitted call files i e a) :
    (recoverable call i).play O files b = ⟨.ok (some a), files, b⟩ := by
  refine (Prog.play_bind_ok (play_assertDurableLeaseEvidence hs)).trans ?_
  refine (Prog.play_bind_ok (play_assertIntentBindingWithoutLease hs)).trans ?_
  refine (Prog.play_bind_ok (play_assertPublicationIntentBinding hs)).trans ?_
  have hop := hs.bound.operation
  have hkey : Rec.key (C := C) (.mutationAuthorization call.operationId) a = .mutationAuthorization call.operationId :=
    congrArg Key.mutationAuthorization (hs.authorized.operation.2.trans hop)
  exact Journal.play_read_bound (hop ▸ hs.authorized.authorization) hkey

theorem play_assertFields (O : Oracle (board (C := C))) (files : Files (Rec C)) (b : Board) (what : String)
    (fields : List (String × Bool)) :
    ((assertFields what fields : Code C Unit).play O files b).files = files ∧
    ((assertFields what fields : Code C Unit).play O files b).state = b ∧
    ((assertFields what fields : Code C Unit).play O files b).outcome.isOk = fields.all (·.2) := by
  induction fields with
  | nil => exact ⟨rfl, rfl, rfl⟩
  | cons f fields ih =>
    unfold assertFields
    split
    · next hf => simpa [hf] using ih
    · next hf => simp [hf, Prog.play, Except.isOk, Except.toBool]

theorem all_fields_iff {rec : Reconciliation C} :
    ([("repository_digest", decide (rec.repositoryDigest = i.repositoryDigest)),
      ("pull_request_number", decide (rec.pullRequestNumber = i.pullRequestNumber)),
      ("pull_request_url", decide (rec.pullRequestUrl = i.pullRequestUrl)),
      ("provider_identity", decide (rec.providerIdentity = i.providerIdentity)),
      ("provider_api_version", decide (rec.providerApiVersion = i.providerApiVersion)),
      ("target_ref", decide (rec.targetRef = i.targetRef)),
      ("protection_evidence_digest", decide (rec.protectionEvidenceDigest = i.protectionEvidenceDigest))] :
      List (String × Bool)).all (·.2) = true ↔ ReportsOn i rec := by
  simp only [List.all_cons, List.all_nil, Bool.and_true, Bool.and_eq_true, decide_eq_true_eq]
  constructor
  · rintro ⟨h₁, h₂, h₃, h₄, h₅, h₆, h₇⟩
    exact ⟨h₁, ⟨h₂, h₃⟩, ⟨h₄, h₅⟩, h₆, h₇⟩
  · rintro ⟨h₁, ⟨h₂, h₃⟩, ⟨h₄, h₅⟩, h₆, h₇⟩
    exact ⟨h₁, h₂, h₃, h₄, h₅, h₆, h₇⟩

theorem play_assertReconciliationBinding {rec : Reconciliation C} (hr : ReportsOn i rec) :
    (assertReconciliationBinding i rec).play O files b = ⟨.ok (), files, b⟩ := by
  obtain ⟨hf, hb, ho⟩ := play_assertFields O files b "reconciliation" _
  rw [all_fields_iff.mpr hr] at ho
  cases hx : (assertReconciliationBinding i rec).play O files b with
  | mk x f s =>
    unfold assertReconciliationBinding at hx
    rw [hx] at hf hb ho
    cases hf
    cases hb
    cases x with
    | ok u => rfl
    | error err => cases ho

theorem play_assertReconciliationBinding_error (O : Oracle (board (C := C))) (files : Files (Rec C)) (b : Board) {rec : Reconciliation C} (hr : ¬ ReportsOn i rec) :
    ∃ err, (assertReconciliationBinding i rec).play O files b = ⟨.error err, files, b⟩ := by
  obtain ⟨hf, hb, ho⟩ := play_assertFields O files b "reconciliation" _
  rw [Bool.eq_false_iff.mpr fun h => hr (all_fields_iff.mp h)] at ho
  cases hx : (assertReconciliationBinding i rec).play O files b with
  | mk x f s =>
    unfold assertReconciliationBinding at hx
    rw [hx] at hf hb ho
    cases hf
    cases hb
    cases x with
    | ok u => cases ho
    | error err => exact ⟨err, rfl⟩

end Checks

/-! ## The receipt of an exact merge -/

section Receipts
variable {call : PromoteCall} {i : Intent C} {e : LeaseEvidence C} {a : MutationAuthorization} {rec : Reconciliation C}

theorem receiptOf_valid_iff (hr : ReportsOn i rec) (hx : exact rec i) :
    (receiptOf i reconciledMerge rec .alreadyApplied).Valid C ↔ rec.mergeCommit ≠ some i.candidateCommit := by
  obtain ⟨_, hmerge, htree, hparent, _⟩ := hx
  have hi : ∀ x ∈ [i.baseCommit, i.candidateCommit, i.candidateTree] ++ i.expectedMainCommit.toList, C.gitObject x = true := by
    intro x hm
    refine i.valid.objects x ?_
    simp only [List.mem_append, List.mem_cons, List.not_mem_nil, or_false] at hm ⊢
    rcases hm with (hm | hm | hm) | hm
    · exact .inl (.inl hm)
    · exact .inl (.inr (.inr (.inl hm)))
    · exact .inl (.inr (.inr (.inr (.inl hm))))
    · exact .inr hm
  have hhead : C.gitObject rec.targetHeadCommit = true := rec.valid.objects _ (by simp)
  have hheadTree : C.gitObject rec.targetHeadTree = true := rec.valid.objects _ (by simp)
  have hfirst : C.gitObject rec.targetFirstParent = true := rec.valid.objects _ (by simp)
  have hreftarget : C.ref i.targetRef = true := i.valid.refs _ (by simp)
  constructor
  · intro hv
    have h := (hv.merged rfl).1
    simpa only [receiptOf, Outcome.success, if_true] using h
  · intro hne
    constructor
    · exact fun h => (nomatch h)
    · exact ⟨rec.valid.ref, hreftarget⟩
    · intro x hm
      simp only [receiptOf, Outcome.success, if_true, hmerge, Option.toList_some, List.mem_append, List.mem_cons,
        List.not_mem_nil, or_false] at hm
      rcases hm with ((((((hm | hm | hm | hm) | hm) | hm) | hm) | hm) | hm) | hm
      · exact hi x (by simp [hm])
      · exact hi x (by simp [hm])
      · exact hi x (by simp [hm])
      · exact hi x (by simp [hm])
      · exact hi x (List.mem_append_right _ hm)
      · rw [hm]; exact hhead
      · rw [hm]; exact hheadTree
      · rw [hm]; exact hhead
      · rw [hm]; exact hheadTree
      · rw [hm]; exact hfirst
    · rfl
    · exact fun _ => ⟨hr.target, congrArg some htree, hr.protection, hr.provider.1, hr.provider.2⟩
    · simp [receiptOf, Outcome.success, hmerge]
    · intro _
      refine ⟨?_, ?_, ?_, ?_, rfl⟩
      · simpa only [receiptOf, Outcome.success, if_true] using hne
      · simp only [receiptOf, Outcome.success, if_true, htree]
      · simp only [receiptOf, Outcome.success, if_true, hparent]
      · simp only [receiptOf, Outcome.success, if_true, hmerge]
    · intro t ht
      cases ht
    · rintro (h | h) <;> cases h

theorem build_closed (hr : ReportsOn i rec) (hx : exact rec i) (hne : rec.mergeCommit ≠ some i.candidateCommit) :
    ∃ r : Receipt C, Receipt.build (receiptOf i reconciledMerge rec .alreadyApplied) = some r ∧
      r.toReceiptBody = receiptOf i reconciledMerge rec .alreadyApplied :=
  ⟨⟨_, (receiptOf_valid_iff hr hx).mpr hne⟩, dif_pos _, rfl⟩

theorem play_report (O : Oracle (board (C := C))) (files : Files (Rec C)) (b : Board) (op : Sha256Digest) (outcome : Outcome)
    (r : Option (Receipt C)) {checks errors : List String} (ht : (checks ++ errors).all nonEmpty = true) :
    ∃ y, (report op outcome checks errors r : Code C Report).play O files b = ⟨.ok y, files, b⟩ ∧
      y.operationId = op ∧ y.outcome = outcome :=
  ⟨_, Prog.play_bind_ok (Prog.play_require ht), rfl, rfl⟩

variable {checks : List String} {x : Except Exc Report} {r : Receipt C}

theorem play_closeIntent (hO : Calm O call) (hs : Submitted call files i e a) (hr : ReportsOn i rec) (hx : exact rec i)
    (hne : rec.mergeCommit ≠ some i.candidateCommit) (habsent : files (.receipt call.operationId) = .absent)
    (ht : checks.all nonEmpty = true) :
    ∃ r : Receipt C, r.toReceiptBody = receiptOf i reconciledMerge rec .alreadyApplied ∧
      (TargetOpen b i → ∃ y b', (closeIntent call checks i rec).play O files b =
        ⟨.ok y, files.put (.receipt call.operationId) (.bound r), b'⟩ ∧
          y.operationId = call.operationId ∧ y.outcome = .alreadyApplied) ∧
      (¬ TargetOpen b i → ∃ err, (closeIntent call checks i rec).play O files b =
        ⟨.error err, files.put (.receipt call.operationId) (.bound r), b⟩) := by
  obtain ⟨r, hb, hbody⟩ := build_closed hr hx hne
  have hrop : r.operationId = call.operationId := by rw [hbody]; exact hs.bound.operation
  have htrim : trimmed i.targetRef = true := hs.bound.target ▸ hs.entered.target
  have hbuild : (Prog.ofOption (Receipt.build (receiptOf i reconciledMerge rec .alreadyApplied)) (.error "invalid receipt") :
      Code C (Receipt C)).play O files b = ⟨.ok r, files, b⟩ := by rw [hb]; rfl
  have hrecord : (Journal.recordReceipt r).play O files b =
      ⟨.ok (), files.put (.receipt call.operationId) (.bound r), b⟩ := by
    unfold Journal.recordReceipt
    rw [hrop]
    exact Journal.play_record hO.installs habsent
  refine ⟨r, hbody, fun hopen => ?_, fun hopen => ?_⟩
  · obtain ⟨x, b', hgive⟩ := play_giveBack (files.put (.receipt call.operationId) (.bound r)) hO htrim hopen
    obtain ⟨y, hy, hyo⟩ := play_report O (files.put (.receipt call.operationId) (.bound r)) b' call.operationId
      .alreadyApplied (some r) (show (checks ++ []).all nonEmpty = true by simpa using ht)
    refine ⟨y, b', ?_, hyo⟩
    exact (Prog.play_bind_ok hbuild).trans ((Prog.play_bind_ok hrecord).trans ((Prog.play_bind_ok hgive).trans hy))
  · obtain ⟨err, hgive⟩ := play_giveBack_error (files.put (.receipt call.operationId) (.bound r)) hO htrim hopen
    exact ⟨err, (Prog.play_bind_ok hbuild).trans ((Prog.play_bind_ok hrecord).trans (Prog.play_bind_error hgive))⟩

/-! ## Recovery and replay -/

section Bodies
variable {α β : Type} {p : Code C α} {checks : List String} {safeRelease : Bool}

theorem play_noting_ok {x : α} (hp : p.play O files b = ⟨.ok x, files', b'⟩) :
    (noting checks safeRelease p).play O files b = ⟨.ok x, files', b'⟩ :=
  Prog.play_bind_ok (Prog.play_attempt hp)

theorem play_noting_error {err : Exc} (hp : p.play O files b = ⟨.error err, files', b'⟩) :
    (noting checks safeRelease p).play O files b = ⟨.error ⟨checks, err.message, safeRelease⟩, files', b'⟩ :=
  Prog.play_bind_ok (Prog.play_attempt hp)

end Bodies

theorem Submitted.authorizes (hs : Submitted call files i e a) : authorizationBound i a :=
  ⟨hs.authorized.operation.2, hs.authorized.underIntent, hs.authorized.underLease.1.trans hs.authorized.lease.1.symm,
    hs.authorized.underLease.2.trans hs.authorized.lease.2.symm⟩

/-- What can be resolved by recovery: the provider reports on the intent, the merge
made a commit of its own, and the target is open. -/
def Recoverable (b : Board) (i : Intent C) (rec : Reconciliation C) : Prop :=
  ReportsOn i rec ∧ rec.mergeCommit ≠ some i.candidateCommit ∧ TargetOpen b i

/-- The part of a recovery after the provider's report. -/
def settle (call : PromoteCall) (checks : List String) (i : Intent C) (rec : Reconciliation C) : Code C Report := do
  assertReconciliationBinding i rec
  if classifyReconciliation rec i = .alreadyApplied then closeIntent call checks i rec
  else report call.operationId .reconciliationRequired checks ["existing intent requires reconciliation"] none

theorem play_recoverIntent (hrec : ∀ b, O.answer b (.reconcile i) = .returned rec) (hs : Submitted call files i e a)
    (hx : (settle call (checks ++ ["intent_existing", "reconciled_once"]) i rec).play O files b = ⟨x, files', b'⟩) :
    (recoverIntent call checks i).play O files b =
      ⟨x.mapError fun err => ⟨checks ++ ["intent_existing", "reconciled_once"], err.message, false⟩, files', b'⟩ := by
  have hreconcile : (.port (.reconcile i) Answer.orRaise : Code C (Reconciliation C)).play O files b = ⟨.ok rec, files, b⟩ :=
    play_still trivial (by simp) (by rw [hrec]; rfl)
  refine (Prog.play_bind_ok (play_noting_ok (play_recoverable hs))).trans ?_
  refine (Prog.play_bind_ok (play_noting_ok (Prog.play_require hs.authorizes))).trans ?_
  refine (Prog.play_bind_ok (play_noting_ok hreconcile)).trans ?_
  cases x with
  | ok y => exact play_noting_ok hx
  | error err => exact play_noting_error hx

theorem play_settle (hO : Calm O call) (hs : Submitted call files i e a) (hx : exact rec i)
    (habsent : files (.receipt call.operationId) = .absent) (ht : checks.all nonEmpty = true) (hr : Recoverable b i rec) :
    ∃ r y b', (settle call checks i rec).play O files b =
      ⟨.ok y, files.put (.receipt call.operationId) (.bound r), b'⟩ ∧
        (y.operationId = call.operationId ∧ y.outcome = .alreadyApplied) ∧
        r.toReceiptBody = receiptOf i reconciledMerge rec .alreadyApplied := by
  obtain ⟨hon, hne, hopen⟩ := hr
  obtain ⟨r, hbody, hclose, _⟩ := play_closeIntent (b := b) hO hs hon hx hne habsent ht
  obtain ⟨y, b', hy, hyo⟩ := hclose hopen
  have hcl : classifyReconciliation rec i = .alreadyApplied := by simp [classifyReconciliation, hx]
  refine ⟨r, y, b', (Prog.play_bind_ok (play_assertReconciliationBinding hon)).trans ?_, hyo, hbody⟩
  rw [if_pos hcl]
  exact hy

theorem play_settle_error (hO : Calm O call) (hs : Submitted call files i e a) (hx : exact rec i)
    (habsent : files (.receipt call.operationId) = .absent) (ht : checks.all nonEmpty = true)
    (hr : ¬ Recoverable b i rec) :
    ∃ err files' b', (settle call checks i rec).play O files b = ⟨.error err, files', b'⟩ := by
  have hcl : classifyReconciliation rec i = .alreadyApplied := by simp [classifyReconciliation, hx]
  by_cases hon : ReportsOn i rec
  · have htail : ∀ {z : Play (Rec C) Exc Report Board}, (closeIntent call checks i rec).play O files b = z →
        (settle call checks i rec).play O files b = z := by
      rintro z rfl
      refine (Prog.play_bind_ok (play_assertReconciliationBinding hon)).trans ?_
      rw [if_pos hcl]
    by_cases hne : rec.mergeCommit = some i.candidateCommit
    · have hbuild : Receipt.build (C := C) (receiptOf i reconciledMerge rec .alreadyApplied) = none :=
        dif_neg fun hv => (receiptOf_valid_iff hon hx).mp hv hne
      refine ⟨.error "invalid receipt", files, b, htail ?_⟩
      refine Prog.play_bind_error ?_
      rw [hbuild]
      rfl
    · obtain ⟨r, _, _, hclose⟩ := play_closeIntent (b := b) hO hs hon hx hne habsent ht
      obtain ⟨err, herr⟩ := hclose fun hopen => hr ⟨hon, hne, hopen⟩
      exact ⟨err, _, b, htail herr⟩
  · obtain ⟨err, herr⟩ := play_assertReconciliationBinding_error O files b hon
    exact ⟨err, files, b, Prog.play_bind_error herr⟩

theorem play_assertReceiptBinding (hfrom : ∃ m rec', r.toReceiptBody = receiptOf i m rec' r.outcome)
    (hout : r.outcome.success = true) : (assertReceiptBinding r i).play O files b = ⟨.ok (), files, b⟩ := by
  obtain ⟨m, rec', hbody⟩ := hfrom
  have hbound := r.valid.bound hout
  have hdigest : r.intentDigest = i.digest := by rw [hbody]; rfl
  have htarget : r.expectedTargetRef = i.targetRef := by rw [hbody]; rfl
  have hprotection : r.expectedProtectionEvidenceDigest = i.protectionEvidenceDigest := by rw [hbody]; rfl
  have hprovider : r.expectedProviderIdentity = i.providerIdentity := by rw [hbody]; rfl
  have hversion : r.expectedProviderApiVersion = i.providerApiVersion := by rw [hbody]; rfl
  have htree : r.expectedCandidateTree = i.candidateTree := by rw [hbody]; rfl
  have hsame : r.operationId = i.operationId ∧ r.bundleDigest = i.bundleDigest ∧
      r.expectedCandidateCommit = i.candidateCommit ∧ r.expectedBaseCommit = i.baseCommit ∧
      r.expectedMainCommit = i.expectedMainCommit ∧ r.observedBaseCommit = i.baseCommit := by
    rw [hbody]
    exact ⟨rfl, rfl, rfl, rfl, rfl, rfl⟩
  refine (Prog.play_bind_ok (Prog.play_require hdigest)).trans ?_
  refine (Prog.play_bind_ok (Prog.play_require ⟨hsame.1, hsame.2.1, htarget, hsame.2.2.1, htree, hsame.2.2.2.1,
    hsame.2.2.2.2.1, hprotection, hprovider, hversion, hbound.1.trans htarget, hsame.2.2.2.2.2,
    hbound.2.2.1.trans hprotection, hbound.2.2.2.1.trans hprovider, hbound.2.2.2.2.trans hversion⟩)).trans ?_
  exact Prog.play_require fun _ => hbound.2.1.trans (congrArg some htree)

theorem play_replayReceipt (hO : Calm O call) (hs : Submitted call files i e a) (hop : r.operationId = call.operationId)
    (hfrom : ∃ m rec', r.toReceiptBody = receiptOf i m rec' r.outcome) (hout : r.outcome.success = true) :
    (TargetOpen b i → ∃ y b', (replayReceipt call r).play O files b = ⟨.ok y, files, b'⟩ ∧
      y.operationId = call.operationId ∧ y.outcome = r.outcome) ∧
    (¬ TargetOpen b i → ∃ err, (replayReceipt call r).play O files b = ⟨.error err, files, b⟩) := by
  have htrim : trimmed i.targetRef = true := hs.bound.target ▸ hs.entered.target
  have hbundle : r.bundleDigest = call.bundleDigest := by
    obtain ⟨m, rec', hbody⟩ := hfrom
    rw [hbody]
    exact hs.bound.bundle
  have hkey : Rec.key (C := C) (.intent call.operationId) i = .intent call.operationId :=
    congrArg Key.intent hs.bound.operation
  have hread : (Journal.readIntent call.operationId).play O files b = ⟨.ok (some i), files, b⟩ :=
    Journal.play_read_bound (hs.bound.operation ▸ hs.authorized.intent) hkey
  have hchecks : ∀ {z : Play (Rec C) Exc Report Board},
      (do let _ ← giveBack i; report call.operationId r.outcome ["receipt_existing"] [] (some r) : Code C Report).play O
        files b = z → (replayReceipt call r).play O files b = z := by
    rintro z rfl
    unfold replayReceipt
    rw [if_neg (by simp [hbundle, hop])]
    refine (Prog.play_bind_ok hread).trans ?_
    refine (Prog.play_bind_ok (play_assertDurableLeaseEvidence hs)).trans ?_
    refine (Prog.play_bind_ok (play_assertIntentBindingWithoutLease hs)).trans ?_
    refine (Prog.play_bind_ok (play_assertPublicationIntentBinding hs)).trans ?_
    exact Prog.play_bind_ok (play_assertReceiptBinding hfrom hout)
  refine ⟨fun hopen => ?_, fun hopen => ?_⟩
  · obtain ⟨x, b', hgive⟩ := play_giveBack files hO htrim hopen
    obtain ⟨y, hy, hyo⟩ := play_report O files b' call.operationId r.outcome (some r)
      (show (["receipt_existing"] ++ []).all nonEmpty = true by decide)
    exact ⟨y, b', hchecks ((Prog.play_bind_ok hgive).trans hy), hyo⟩
  · obtain ⟨err, hgive⟩ := play_giveBack_error files hO htrim hopen
    exact ⟨err, hchecks (Prog.play_bind_error hgive)⟩

/-! ## The call -/

/-- When a call that finds the merge exactly applied resolves the operation: it finds
a receipt of that outcome and the target open, or no receipt at all and can recover. -/
def Resolvable (files : Files (Rec C)) (b : Board) (op : Sha256Digest) (i : Intent C) (rec : Reconciliation C) : Prop :=
  ((∃ r, files (.receipt op) = .bound r ∧ r.outcome = .alreadyApplied) ∧ TargetOpen b i) ∨
    (files (.receipt op) = .absent ∧ Recoverable b i rec)

theorem play_promote_some (hseconds : 0 < call.leaseSeconds) {y : Report}
    (hb : (beforeLease call).play O files b = ⟨.ok (some y), files', b'⟩) :
    (promote call).play O files b = ⟨.ok y, files', b'⟩ :=
  (Prog.play_bind_ok (Prog.play_require hseconds)).trans (Prog.play_bind_ok (Prog.play_attempt hb))

theorem play_promote_error (hseconds : 0 < call.leaseSeconds) {f : Failure}
    (hb : (beforeLease call).play O files b = ⟨.error f, files', b'⟩) :
    ¬ Resolves call.operationId ((promote call).play O files b) := by
  have hplay : (promote call).play O files b =
      (report (C := C) call.operationId .invalid f.checks [f.error] none).play O files' b' :=
    (Prog.play_bind_ok (Prog.play_require hseconds)).trans (Prog.play_bind_ok (Prog.play_attempt hb))
  rintro ⟨⟨y, hy, hyo⟩, _⟩
  rw [hplay] at hy
  by_cases ht : (f.checks ++ [f.error]).all nonEmpty = true
  · obtain ⟨z, hz, _, hzo⟩ := play_report (C := C) O files' b' call.operationId .invalid none ht
    rw [hz] at hy
    cases hy
    rw [hzo] at hyo
    cases hyo
  · have herr : (report (C := C) call.operationId .invalid f.checks [f.error] none).play O files' b' =
        ⟨.error (.error "invalid promotion report"), files', b'⟩ := Prog.play_bind_error (Prog.play_require_not ht)
    rw [herr] at hy
    cases hy

theorem play_verified (hO : Calm O call) (he : Entered call) {f : Unit → Body C (Option Report)} :
    (noting [] false (do
      Prog.require (publicationBound call.publication call.bundle)
        (.error "candidate publication does not match bundle provenance")
      let verified ← (.port (.verifyPublication call.publication call.bundle) Answer.orRaise : Code C Bool)
      Prog.require (verified = true) (.error "candidate publication verifier rejected evidence")) >>= f).play O files b =
      (f ()).play O files b := by
  refine Prog.play_bind_ok (play_noting_ok ?_)
  refine (Prog.play_bind_ok (Prog.play_require he.publication)).trans ?_
  have hport : (.port (.verifyPublication call.publication call.bundle) Answer.orRaise : Code C Bool).play O files b =
      ⟨.ok true, files, b⟩ := play_still trivial (by simp) (by rw [hO.verified]; rfl)
  exact (Prog.play_bind_ok hport).trans (Prog.play_require rfl)

theorem play_beforeLease_receipt (hO : Calm O call) (he : Entered call)
    (hr : files (.receipt call.operationId) = .bound r) (hop : r.operationId = call.operationId)
    (hx : (replayReceipt call r).play O files b = ⟨x, files', b'⟩) : (beforeLease call).play O files b =
      ⟨(x.mapError fun err => ⟨["publication_verified"], err.message, false⟩).map some, files', b'⟩ := by
  have hkey : Rec.key (C := C) (.receipt call.operationId) r = .receipt call.operationId := congrArg Key.receipt hop
  refine (play_verified hO he).trans ?_
  refine (Prog.play_bind_ok (play_noting_ok (Journal.play_read_bound hr hkey))).trans ?_
  cases x with
  | ok y => exact Prog.play_bind_ok (play_noting_ok hx)
  | error err => exact Prog.play_bind_error (play_noting_error hx)

theorem play_beforeLease_intent (hO : Calm O call) (he : Entered call)
    (hr : files (.receipt call.operationId) = .absent) (hs : Submitted call files i e a) {x : Except Failure Report}
    (hx : (recoverIntent call ["publication_verified"] i).play O files b = ⟨x, files', b'⟩) :
    (beforeLease call).play O files b = ⟨x.map some, files', b'⟩ := by
  have hkey : Rec.key (C := C) (.intent call.operationId) i = .intent call.operationId :=
    congrArg Key.intent hs.bound.operation
  refine (play_verified hO he).trans ?_
  refine (Prog.play_bind_ok (play_noting_ok (Journal.play_read_absent hr))).trans ?_
  refine (Prog.play_bind_ok (play_noting_ok (Journal.play_read_bound (hs.bound.operation ▸ hs.authorized.intent) hkey))).trans ?_
  cases x with
  | ok y => exact Prog.play_bind_ok hx
  | error f => exact Prog.play_bind_error hx

theorem play_promote_unresolved (hO : Calm O call) (hrec : ∀ b, O.answer b (.reconcile i) = .returned rec)
    (hx : exact rec i) (hs : Submitted call files i e a)
    (hreceipt : ∀ r, files (.receipt call.operationId) = .bound r → r.operationId = call.operationId ∧
      (r.outcome.success = true → ∃ m rec', r.toReceiptBody = receiptOf i m rec' r.outcome))
    (hres : ¬ Resolvable files b call.operationId i rec) :
    ¬ Resolves call.operationId ((promote call).play O files b) := by
  have hseconds := hs.entered.seconds
  cases hr : files (.receipt call.operationId) with
  | absent =>
    have htexts : (["publication_verified"] ++ ["intent_existing", "reconciled_once"]).all nonEmpty = true := by decide
    obtain ⟨err, files', b', herr⟩ := play_settle_error (b := b) hO hs hx hr htexts fun h => hres (.inr ⟨hr, h⟩)
    exact play_promote_error hseconds (play_beforeLease_intent hO hs.entered hr hs (play_recoverIntent hrec hs herr))
  | torn =>
    have hread : (beforeLease call).play O files b = ⟨.error _, files, b⟩ :=
      (play_verified hO hs.entered).trans (Prog.play_bind_error (play_noting_error (Journal.play_read_torn hr)))
    exact play_promote_error hseconds hread
  | bound r =>
    obtain ⟨hop, hfrom⟩ := hreceipt r hr
    by_cases hout : r.outcome = .alreadyApplied
    · have hsuccess : r.outcome.success = true := by rw [hout]; rfl
      obtain ⟨err, herr⟩ := (play_replayReceipt (b := b) hO hs hop (hfrom hsuccess) hsuccess).2
        fun h => hres (.inl ⟨⟨r, hr, hout⟩, h⟩)
      exact play_promote_error hseconds (play_beforeLease_receipt hO hs.entered hr hop herr)
    · rintro ⟨_, r', hr', hout'⟩
      rw [Prog.play_grows _ _ hr] at hr'
      cases hr'
      exact hout hout'

/-- A call that finds the operation resolvable reports it applied already, and leaves
the receipt of a merge of the intent and nothing else. -/
theorem play_promote_resolved (hO : Calm O call) (hrec : ∀ b, O.answer b (.reconcile i) = .returned rec)
    (hx : exact rec i) (hs : Submitted call files i e a)
    (hreceipt : ∀ r, files (.receipt call.operationId) = .bound r → r.operationId = call.operationId ∧
      (r.outcome.success = true → ∃ m rec', r.toReceiptBody = receiptOf i m rec' r.outcome))
    (hres : Resolvable files b call.operationId i rec) :
    ∃ y r files' b', (promote call).play O files b = ⟨.ok y, files', b'⟩ ∧
      (y.operationId = call.operationId ∧ y.outcome = .alreadyApplied) ∧ files' (.receipt call.operationId) = .bound r ∧
      (∃ m rec', r.toReceiptBody = receiptOf i m rec' .alreadyApplied) ∧
      ∀ k, k ≠ .receipt call.operationId → files' k = files k := by
  have hseconds := hs.entered.seconds
  rcases hres with ⟨⟨r, hr, hout⟩, hopen⟩ | ⟨hr, hrecover⟩
  · obtain ⟨hop, hfrom⟩ := hreceipt r hr
    have hsuccess : r.outcome.success = true := by rw [hout]; rfl
    obtain ⟨y, b', hy, hyop, hyo⟩ := (play_replayReceipt (b := b) hO hs hop (hfrom hsuccess) hsuccess).1 hopen
    refine ⟨y, r, files, b', play_promote_some hseconds (play_beforeLease_receipt hO hs.entered hr hop hy), ⟨hyop, ?_⟩, hr,
      hout ▸ hfrom hsuccess, fun _ _ => rfl⟩
    exact hyo.trans hout
  · have htexts : (["publication_verified"] ++ ["intent_existing", "reconciled_once"]).all nonEmpty = true := by decide
    obtain ⟨r, y, b', hy, hyo, hbody⟩ := play_settle (b := b) hO hs hx hr htexts hrecover
    refine ⟨y, r, _, b', play_promote_some hseconds (play_beforeLease_intent hO hs.entered hr hs (play_recoverIntent hrec hs hy)),
      hyo, Files.put_self _ _ _, ⟨_, _, hbody⟩, fun k hk => Files.put_ne _ _ hk⟩

theorem play_promote_resolves_iff (hO : Calm O call) (hrec : ∀ b, O.answer b (.reconcile i) = .returned rec)
    (hx : exact rec i) (hs : Submitted call files i e a)
    (hreceipt : ∀ r, files (.receipt call.operationId) = .bound r → r.operationId = call.operationId ∧
      (r.outcome.success = true → ∃ m rec', r.toReceiptBody = receiptOf i m rec' r.outcome)) :
    Resolves call.operationId ((promote call).play O files b) ↔ Resolvable files b call.operationId i rec := by
  refine ⟨fun hresolves => ?_, fun hres => ?_⟩
  · by_contra hres
    exact play_promote_unresolved hO hrec hx hs hreceipt hres hresolves
  · obtain ⟨y, r, files', b', hplay, ⟨_, hyo⟩, hr, ⟨m, rec', hbody⟩, _⟩ := play_promote_resolved hO hrec hx hs hreceipt hres
    rw [hplay]
    exact ⟨⟨y, rfl, hyo⟩, r, hr, by rw [hbody]; rfl⟩

end Receipts

/-! ## Later in a run -/

section Runs
variable {w : World C}

theorem World.Known.submitted_record (hk : w.Known) {j : Nat} {u : CallThread C} {i : Intent C} {r : PutAnswer}
    (hu : w.config.threads[j]? = some u) (hput : .port (.put i) r ∈ u.log) :
    ∃ e a, Submitted u.call w.config.files i e a := by
  obtain ⟨h, l, a, _, hready⟩ := hk.submitted hu hput
  obtain ⟨e, hauth⟩ := hready.authorized
  obtain ⟨ev, hev, rfl⟩ := hready.prepared.leased.evidence
  have hsame : ev = e := by
    have h := hauth.evidence
    rw [hready.prepared.bound.operation, hev] at h
    exact File.bound.inj h
  subst hsame
  have hmade := hready.prepared.leased.made
  obtain ⟨h', _, _, _, _, _, _, hentered⟩ := (hk.call hu).1.rule (hready.prepared.leased.made.suffix ‹_›).created
  exact ⟨ev, a, hentered, hauth, hmade.scope, hready.prepared.bound⟩

theorem World.Known.receipt_made (hk : w.Known) {op : Sha256Digest} {i : Intent C} {r : Receipt C}
    (hi : w.config.files (.intent op) = .bound i) (hr : w.config.files (.receipt op) = .bound r) :
    r.operationId = op ∧ (r.outcome.success = true → ∃ m rec, r.toReceiptBody = receiptOf i m rec r.outcome) := by
  obtain ⟨k, t, h, ht, _, _, i', hi', hop, hcases⟩ := hk.receipt_from hr
  cases hi.symm.trans hi'
  refine ⟨hop.trans (hk.intent_operation hi), fun hs => ?_⟩
  rcases hcases with ⟨message, hpre, _⟩ | ⟨m, rec, _, hbody, _⟩
  · have hout : r.outcome = .invalid := by rw [hpre]; rfl
    rw [hout] at hs
    cases hs
  · exact ⟨m, rec, hbody⟩

end Runs

end AvoCorrelate.Promotion
