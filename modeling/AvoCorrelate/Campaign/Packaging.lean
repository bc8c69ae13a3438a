import AvoCorrelate.Campaign.ServiceLogic
import AvoCorrelate.Promotion.RollbackRecovery
/-!
# From a merged campaign to its package

The plan, the intent and the receipt of a merged campaign leave open what only the
package asks: that no two artifacts of evidence share a digest or a role, that the
observation before the merge names the provider of the intent, that the evidence is
canonical JSON, and that the records fit.
-/
open AvoLib

namespace AvoCorrelate.Campaign

open ExactCas (Sha256Digest GitObject)
open Promotion (Intent MergeResult Receipt Reconciliation Outcome LeaseEvidence)
open Service (finalize finalizeRecords completePackage packageOf recoveredReport)

variable {C : Canon} {config : Config}

/-! ## What only the package asks -/

/-- What the package asks of a plan beyond what the plan and the promotion did. -/
structure Agreed (plan : Plan C) : Prop where
  digests : (plan.evidenceArtifacts.map (·.digest)).Nodup
  roles : (plan.evidenceArtifacts.map (·.role)).Nodup
  provider : plan.preparation.observation.providerIdentity = plan.preparation.template.providerIdentity
  apiVersion : plan.preparation.observation.providerApiVersion = plan.preparation.template.providerApiVersion

section Package
variable {F : Disk C} {op : Sha256Digest} {plan : Plan C} {i : Intent C.toCanon} {e : LeaseEvidence C.toCanon}
  {r : Receipt C.toCanon} {m : MergeResult} {rec : Reconciliation C.toCanon}

theorem Intended.observed (h : Intended config F op i plan e) (hp : PlanRests op plan)
    (hprovider : plan.preparation.observation.providerIdentity = plan.preparation.template.providerIdentity ∧
      plan.preparation.observation.providerApiVersion = plan.preparation.template.providerApiVersion) :
    observationBound C plan.preparation.observation.toObservation i := by
  obtain ⟨hnumber, hurl, hheadRef, hheadCommit, hcandidateTree, hbaseRef, hbaseCommit, hsynthetic, hprotection, hchecks, _⟩ := hp.2
  have hseen : plan.preparation.observation = plan.discovery.observation := plan.valid.preparation.2
  have hrepository : plan.preparation.observation.repositoryDigest = i.repositoryDigest := by
    rw [hseen, plan.valid.discovery.1]
    exact h.bound.publication.1
  have htree : plan.preparation.observation.baseTree = i.baseTree := by
    rw [hseen, plan.valid.discovery.2.2.2.2.1]
    exact h.bound.publication.2.2.1
  have hcandidate := plan.preparation.observation.valid.candidate.trans hrepository
  have htarget := plan.preparation.observation.valid.target.trans hrepository
  have hmerge : plan.preparation.observation.syntheticMergeCommit = plan.preparation.template.syntheticMergeCommit := by
    rw [hseen]
    exact plan.valid.binding.2.2.2.2.2.2.2.1.symm
  obtain rfl := h.template
  exact ⟨⟨hrepository, hnumber, hurl, hcandidate, htarget⟩, ⟨hbaseRef, hbaseCommit, htree, hheadRef, hheadCommit, hcandidateTree⟩,
    ⟨hmerge, hsynthetic, hprotection, hchecks⟩, hprovider⟩

theorem Intended.lease (h : Intended config F op i plan e) : e.operationId = i.operationId ∧
    e.repositoryDigest = i.repositoryDigest ∧ e.targetRef = i.targetRef ∧ e.identity = i.controllerLeaseIdentity ∧
    e.toLease.digest C.toCanon = i.controllerLeaseDigest ∧ e.acquiredAt < e.expiresAt :=
  ⟨h.scope.operation.trans h.bound.operation.symm, h.scope.repository.trans h.bound.repository.symm,
    h.scope.target.trans h.bound.target.symm, h.bound.leaseIdentity.symm, h.bound.leaseDigest.symm, e.valid.2.2⟩

theorem Intended.published (h : Intended config F op i plan e) : publicationBound C plan.publication i plan.bundle := by
  obtain ⟨h₁, h₂, h₃, h₄, h₅, h₆, h₇, h₈⟩ := h.bound.publication
  exact ⟨h₁, h₂, h₃, h₄, h₅, h₆, h₇, h₈, plan.valid.publication.2.2.2.2⟩

theorem Intended.bundled (h : Intended config F op i plan e) : bundleBound C i plan.bundle := by
  obtain ⟨hcommit, htree, hprotection, hcontroller, hevidence, hsource⟩ := h.bound.snapshot
  exact ⟨h.bound.repository, h.bound.target, hcommit, htree, h.bound.candidate, hprotection, hcontroller, hevidence, hsource⟩

theorem Received.receiptBound (h : Received F op r i m rec) (hs : r.outcome.success = true) {b : PackageBody C.toCanon}
    (hb : b.receipt = r ∧ b.intent = i ∧ b.reconciliation = rec ∧ b.intentDigest = i.digest ∧ b.bundleDigest = i.bundleDigest) :
    receiptBound C b := by
  obtain ⟨hreceipt, hintent, hreconciliation, hdigest, hbundle⟩ := hb
  have hfield : ∀ {α : Type} (f : Promotion.ReceiptBody → α),
      f r.toReceiptBody = f (Promotion.Service.receiptOf i m rec r.outcome) := fun f => congrArg f h.body
  obtain ⟨_, _, _, hprovider, hversion, htarget, hprotection⟩ := h.bound
  have hhead : r.observedHeadCommit = some rec.targetHeadCommit ∧ r.observedHeadTree = some rec.targetHeadTree := by
    refine ⟨(hfield (·.observedHeadCommit)).trans ?_, (hfield (·.observedHeadTree)).trans ?_⟩ <;>
    · simp only [Promotion.Service.receiptOf, hs, if_true]
  unfold Campaign.receiptBound
  rw [hreceipt, hintent, hreconciliation, hdigest, hbundle]
  refine ⟨⟨hfield (·.operationId), hfield (·.intentDigest), hfield (·.bundleDigest), hfield (·.expectedTargetRef),
      hfield (·.expectedCandidateCommit), hfield (·.expectedCandidateTree), hfield (·.expectedBaseCommit),
      hfield (·.expectedProtectionEvidenceDigest), hfield (·.expectedProviderIdentity), hfield (·.expectedProviderApiVersion)⟩,
    ⟨(hfield (·.observedTargetRef)).trans htarget, hfield (·.observedBaseCommit),
      (hfield (·.observedProtectionEvidenceDigest)).trans hprotection, (hfield (·.observedProviderIdentity)).trans hprovider,
      (hfield (·.observedProviderApiVersion)).trans hversion⟩, fun _ => ?_⟩
  rw [hhead.1, hhead.2, h.exact.2.2.1]
  exact ⟨rfl, rfl⟩

theorem Received.result (h : Received F op r i m rec) (hs : r.outcome = .applied) :
    r.appliedResultCommit = some rec.targetHeadCommit ∧ r.appliedResultTree = some rec.targetHeadTree ∧
      r.appliedResultParentCommit = some rec.targetFirstParent := by
  have hfield : ∀ {α : Type} (f : Promotion.ReceiptBody → α),
      f r.toReceiptBody = f (Promotion.Service.receiptOf i m rec .applied) := fun f => by rw [h.body, hs]
  exact ⟨(hfield (·.appliedResultCommit)).trans h.exact.2.1, hfield (·.appliedResultTree), hfield (·.appliedResultParentCommit)⟩

theorem derivedResult_applied {outcome : Outcome} (h : outcome = .applied) : derivedResult outcome rec =
    ⟨.applied, some rec.targetHeadCommit, some rec.targetHeadTree, some rec.targetFirstParent, none, none⟩ := if_pos h

theorem derivedResult_already {outcome : Outcome} (h : outcome = .alreadyApplied) : derivedResult outcome rec =
    ⟨.ambiguous, none, none, none, none, some "provider reconciliation indicates an already-applied result"⟩ := by
  subst h
  rfl

theorem packageOf_valid_iff (hp : PlanRests op plan) (hi : Intended config F op i plan e) (hr : Received F op r i m rec)
    (hs : r.outcome.success = true) :
    (packageOf plan i r e (recoveredReport i r op) (rec, derivedResult r.outcome rec) plan.mainBeforeCommit).Valid C ↔
      Agreed plan := by
  constructor
  · intro h
    have hprovider := h.observed.2.2.2
    obtain rfl := hi.template
    exact ⟨h.uniqueDigests, h.uniqueRoles, hprovider.1, hprovider.2⟩
  · intro h
    have hoperation : r.operationId = i.operationId := congrArg (·.operationId) hr.body
    have hbundle : r.bundleDigest = i.bundleDigest := congrArg (·.bundleDigest) hr.body
    refine {
      bundle := plan.valid.bundle
      digests := ⟨rfl, rfl⟩
      operation := ⟨hoperation.symm, hi.bound.operation⟩
      bundles := ⟨hi.bound.bundle, hbundle.trans hi.bound.bundle⟩
      intent := congrArg (·.intentDigest) hr.body
      report := ⟨rfl, rfl, rfl⟩
      reconciled := congrArg (·.observationDigest) hr.body
      marker := rfl
      uniqueDigests := h.digests
      uniqueRoles := h.roles
      evidence := plan.valid.evidence
      publicationEvidence := plan.valid.publicationEvidence
      leaseArtifact := rfl
      lease := hi.lease
      bundled := hi.bundled
      published := hi.published
      observed := hi.observed hp ⟨h.provider, h.apiVersion⟩
      reconciliation := hr.bound
      receipt := hr.receiptBound hs ⟨rfl, rfl, rfl, rfl, hi.bound.bundle.symm⟩
      main := ⟨plan.valid.mainObject, plan.valid.mainObject, rfl⟩
      applied := fun _ => hr.exact
      merged := fun happlied => congrArg (·.outcome) (derivedResult_applied happlied)
      ambiguous := fun halready => congrArg (·.outcome) (derivedResult_already halready)
      result := fun happlied => ?_
      refused := fun hrefused => absurd (hs.symm.trans hrefused) (by decide) }
    have houtcome : r.outcome = .applied := happlied
    obtain ⟨hcommit, htree, hparent⟩ := hr.result houtcome
    dsimp only [packageOf]
    rw [derivedResult_applied houtcome]
    exact ⟨rfl, rfl, rfl, hcommit, htree, hparent⟩

end Package

/-! ## Finalizing alone -/

section Alone
variable {σ τ : Type} {service : Service (AnyAnswer C) σ}
  {O : Oracle service} {view : σ → τ} {v : τ} {files : Disk C} {op : Sha256Digest} {plan : Plan C} {i : Intent C.toCanon}
  {e : LeaseEvidence C.toCanon} {r : Receipt C.toCanon} {m : MergeResult} {rec : Reconciliation C.toCanon}

/-- From here on main is where it was, the evidence can be read, and the stores work. -/
structure Serving (O : Oracle service) (view : σ → τ) (v : τ) (plan : Plan C) : Prop where
  head : ∀ s, view s = v → O.answer s (.inr .headCommit) = .returned plan.mainBeforeCommit
  readable : ∀ s a, view s = v → O.answer s (.inr (.readArtifact a)) = .returned ()
  writer : ∀ s b, view s = v → O.answer s (.inr (.writePackage b)) = .returned (C.package b.toPackageBody).digest
  installs : ∀ s k, view s = v → O.answer s (.inr (.install k)) = .returned ()
  kept : ∀ s q, view s = v → view (O.next s (.inr q)) = v

/-- From here on the provider reconciles the intent so. -/
structure Reconciles (O : Oracle service) (view : σ → τ) (v : τ) (i : Intent C.toCanon)
    (x : Promotion.Answer (Reconciliation C.toCanon)) : Prop where
  answers : ∀ s, view s = v → O.answer s (.inl (.reconcile i)) = x
  kept : ∀ s, view s = v → view (O.next s (.inl (.reconcile i))) = v

namespace Journal

theorem verifyArtifacts_gives {references : List ArtifactRef} (hO : Serving O view v plan)
    (hc : Canonical (C := C) references) : (verifyArtifacts references : Code C Unit).Gives O view files v () := by
  induction references with
  | nil => exact Prog.gives_done
  | cons a rest ih =>
    obtain ⟨ha, hrest⟩ := List.forall_mem_cons.mp hc
    refine Prog.Gives.asked (fun s hs => hO.readable s a hs) (fun s hs => hO.kept s _ hs) ?_
    exact (Prog.Gives.require ha).bind (ih hrest)

theorem verifyChildren_gives (hO : Serving O view v plan) : (k : Key) → (x : Rec C k) → Verified k x →
    (verifyChildren k x).Gives O view files v ()
  | .plan _, _, _ => Prog.gives_done
  | .finalEvidence _, _, _ => Prog.gives_done
  | .package _, _, hc =>
    Prog.Gives.asked (fun s hs => hO.readable s _ hs) (fun s hs => hO.kept s _ hs) (verifyArtifacts_gives hO hc)

theorem record_goes {k : Key} {x : Rec C k} (hO : Serving O view v plan) (hx : Verified k x)
    (hsize : (Rec.encoding k x).size ≤ maxBytes) (hk : files (.inr k) = .absent) :
    (record k x).Goes O view files v () (files.put (.inr k) (.bound x)) v := by
  refine (verifyChildren_gives hO k x hx).attempt.goes.bind ?_
  refine (Prog.Gives.require hsize).goes.bind ?_
  refine Prog.Goes.port (fun s hs => hO.installs s k hs) (fun s hs => hO.kept s _ hs) ?_
  exact Prog.Goes.publish hk Prog.gives_done.goes

theorem verifyArtifacts_comes {references : List ArtifactRef} (hO : Serving O view v plan)
    (hc : ¬ Canonical (C := C) references) :
    ∃ e, (verifyArtifacts references : Code C Unit).Comes O view files v files v (.raise e) := by
  induction references with
  | nil => exact absurd (fun a ha => nomatch ha) hc
  | cons a rest ih =>
    have hread : (ask (.readArtifact a) orRaise : Code C Unit).Gives O view files v () :=
      Prog.Gives.asked (fun s hs => hO.readable s a hs) (fun s hs => hO.kept s _ hs) Prog.gives_done
    by_cases ha : C.canonicalJson a.digest = true
    · obtain ⟨e, he⟩ := ih fun hrest => hc (List.forall_mem_cons.mpr ⟨ha, hrest⟩)
      exact ⟨e, hread.comes ((Prog.Gives.require ha).comes he)⟩
    · exact ⟨_, hread.comes (Prog.comes_require ha).raise⟩

theorem record_comes_size {k : Key} {x : Rec C k} (hO : Serving O view v plan) (hx : Verified k x)
    (hsize : ¬ (Rec.encoding k x).size ≤ maxBytes) :
    ∃ e, (record k x).Comes O view files v files v (.raise e) :=
  ⟨_, (verifyChildren_gives hO k x hx).attempt.comes (Prog.comes_require hsize).raise⟩

theorem recordPackage_comes_evidence {op : Sha256Digest} {b : Package C} (hO : Serving O view v plan)
    (hc : ¬ Canonical (C := C) b.evidenceArtifacts) :
    ∃ e, (record (.package op) b : Code C Unit).Comes O view files v files v (.raise e) := by
  have hlease : (ask (.readArtifact b.leaseEvidenceArtifact) orRaise : Code C Unit).Gives O view files v () :=
    Prog.Gives.asked (fun s hs => hO.readable s _ hs) (fun s hs => hO.kept s _ hs) Prog.gives_done
  obtain ⟨e, he⟩ : ∃ e, (verifyArtifacts b.evidenceArtifacts : Code C Unit).Comes O view files v files v (.raise e) :=
    verifyArtifacts_comes hO hc
  have hchildren : (verifyChildren (.package op) b : Code C Unit).Comes O view files v files v (.raise e) := hlease.comes he
  exact ⟨_, hchildren.caught.comes Prog.comes_refl⟩

theorem read_gives {k : Key} {x : Rec C k} (hO : Serving O view v plan) (hk : files (.inr k) = .bound x) (hx : Verified k x)
    (hid : Rec.recordId k x = k.operationId) : (read k).Gives O view files v (some x) := by
  have hfound : (files (.inr k)).content = .found x := by rw [hk]; rfl
  refine Prog.Gives.read hfound ?_
  exact (verifyChildren_gives hO k x hx).attempt.bind ((Prog.Gives.require hid).bind Prog.gives_done)

theorem read_missing {k : Key} (hk : files (.inr k) = .absent) :
    (read k : Code C (Option (Rec C k))).Gives O view files v none :=
  Prog.Gives.read (r := .missing) (by rw [hk]; rfl) Prog.gives_done

end Journal

theorem ofPromotion_read_gives {t : Promotion.Journal.Texts} {k : Promotion.Key} {x : Promotion.Rec C.toCanon k}
    (hk : files (.inl k) = .bound x) (hx : Promotion.Rec.key k x = k) :
    (ofPromotion (Promotion.Journal.read t k) : Code C (Option (Promotion.Rec C.toCanon k))).Gives O view files v (some x) := by
  have hfound : (files (.inl k)).content = .found x := by rw [hk]; rfl
  refine Prog.Gives.read hfound ?_
  dsimp only
  rw [if_pos hx]
  exact Prog.gives_done

theorem readIntent_gives (hi : files (.inl (.intent op)) = .bound i) (hop : i.operationId = op) :
    (Service.readIntent op).Gives O view files v i :=
  (ofPromotion_read_gives hi (congrArg Promotion.Key.intent hop)).bind (Prog.Gives.ofOption rfl)

theorem readReceipt_gives (hr : files (.inl (.receipt op)) = .bound r) (hop : r.operationId = op) :
    (Service.readReceipt op).Gives O view files v r :=
  (ofPromotion_read_gives hr (congrArg Promotion.Key.receipt hop)).bind (Prog.Gives.ofOption rfl)

/-! ### The evidence of the merge -/

theorem mergeResult_gives (hv : m.Valid C.toCanon) : (Provider.mergeResult m : Code C MergeResult).Gives O view files v m :=
  (Prog.Gives.require hv).bind Prog.gives_done

theorem mergeResultOf_gives (hr : Received files op r i m rec) (hs : r.outcome.success = true) :
    (Provider.mergeResultOf i (recoveredReport i r op) rec : Code C MergeResult).Gives O view files v
      (derivedResult r.outcome rec) := by
  have hobjects := rec.valid.objects
  unfold Provider.mergeResultOf
  cases houtcome : r.outcome with
  | applied =>
    simp only [recoveredReport, houtcome]
    refine (Prog.Gives.require hr.exact.1).bind ((Prog.Gives.require ⟨hr.exact.2.1, hr.exact.2.2.1, hr.exact.2.2.2.1⟩).bind ?_)
    refine mergeResult_gives ⟨fun x hx => hobjects x ?_, fun _ => ⟨rfl, rfl, rfl⟩, fun h => absurd rfl h, (fun e he => by cases he),
      fun h => absurd rfl h⟩
    simp only [Option.toList_some, List.cons_append, List.nil_append, List.mem_cons, List.mem_append] at hx ⊢
    tauto
  | alreadyApplied =>
    simp only [recoveredReport, houtcome]
    exact mergeResult_gives ⟨(fun x hx => by cases hx), (fun h => by cases h), fun _ => ⟨rfl, rfl, rfl⟩,
      fun e he => by cases he; decide, fun _ => rfl⟩
  | _ => rw [houtcome] at hs; cases hs

/-- The records of a merged campaign. -/
structure Merged (config : Config) (F : Disk C) (op : Sha256Digest) (plan : Plan C) (i : Intent C.toCanon)
    (e : LeaseEvidence C.toCanon) (r : Receipt C.toCanon) (m : MergeResult) (rec : Reconciliation C.toCanon) : Prop where
  planned : PlanRests op plan
  intended : Intended config F op i plan e
  receipt : F (.inl (.receipt op)) = .bound r
  success : r.outcome.success = true
  received : Received F op r i m rec

theorem finalEvidence_gives (h : Merged config files op plan i e r m rec)
    (hrec : Reconciles O view v i (.returned rec)) :
    (Provider.finalEvidence i (recoveredReport i r op) plan.preparation.observation.toObservation :
      Code C (Reconciliation C.toCanon × MergeResult)).Gives O view files v (rec, derivedResult r.outcome rec) := by
  have hnumber : plan.preparation.observation.pullRequestNumber = i.pullRequestNumber := by
    rw [h.intended.template]
    exact h.planned.2.1
  refine (Prog.Gives.require h.intended.bound.operation.symm).bind ((Prog.Gives.require hnumber).bind ?_)
  refine Prog.Gives.bind (Prog.Gives.asked hrec.answers hrec.kept Prog.gives_done) ?_
  exact (mergeResultOf_gives h.received h.success).bind Prog.gives_done

def finalOf (op : Sha256Digest) (r : Receipt C.toCanon) (rec : Reconciliation C.toCanon) : FinalEvidence C.toCanon :=
  ⟨op, rec, derivedResult r.outcome rec⟩

section Settling
variable (hO : Serving O view v plan) (h : Merged config files op plan i e r m rec)
  (habsent : files (.inr (.finalEvidence op)) = .absent)
  (hrec : Reconciles O view v i (.returned rec))
include hO h habsent hrec

theorem settleFinalEvidence_goes (hsize : (C.finalEvidence (finalOf op r rec)).size ≤ Journal.maxBytes) :
    (Service.settleFinalEvidence plan op i (recoveredReport i r op)).Goes O view files v (rec, derivedResult r.outcome rec)
      (files.put (.inr (.finalEvidence op)) (.bound (finalOf op r rec))) v := by
  refine (Journal.read_missing habsent).goes.bind ?_
  refine (finalEvidence_gives h hrec).goes.bind ?_
  exact (Journal.record_goes (k := .finalEvidence op) hO trivial hsize habsent).bind Prog.gives_done.goes

theorem settleFinalEvidence_comes (hsize : ¬ (C.finalEvidence (finalOf op r rec)).size ≤ Journal.maxBytes) :
    ∃ x, (Service.settleFinalEvidence plan op i (recoveredReport i r op)).Comes O view files v files v (.raise x) := by
  obtain ⟨x, hx⟩ : ∃ x, (Journal.record (.finalEvidence op) (finalOf op r rec) : Code C Unit).Comes O view files v files v
      (.raise x) :=
    Journal.record_comes_size hO trivial hsize
  exact ⟨x, (Journal.read_missing habsent).comes ((finalEvidence_gives h hrec).comes hx.raise)⟩

end Settling

theorem settleFinalEvidence_gives {f : FinalEvidence C.toCanon} {report : Promotion.Report} (hO : Serving O view v plan)
    (hf : files (.inr (.finalEvidence op)) = .bound f) (hop : f.operationId = op) :
    (Service.settleFinalEvidence plan op i report).Gives O view files v (f.reconciliation, f.mergeResult) := by
  refine (Journal.read_gives hO hf trivial hop).bind ?_
  exact (Prog.Gives.require hop).bind Prog.gives_done

/-! ### The package -/

section Closing
variable {final : Reconciliation C.toCanon × MergeResult}

/-- The fields of the package that `finalize` makes with this final evidence. -/
def packageBody (op : Sha256Digest) (plan : Plan C) (i : Intent C.toCanon) (e : LeaseEvidence C.toCanon)
    (r : Receipt C.toCanon) (final : Reconciliation C.toCanon × MergeResult) : PackageBody C.toCanon :=
  packageOf plan i r e (recoveredReport i r op) final plan.mainBeforeCommit

def Fits (config : Config) (b : PackageBody C.toCanon) : Prop :=
  (C.package b).size ≤ config.maxPackageBytes ∧ (C.package b).size ≤ Journal.maxBytes

theorem recordPackage_goes {b : Package C} (hO : Serving O view v plan) (hc : Canonical (C := C) b.evidenceArtifacts)
    (hsize : Fits config b.toPackageBody) (hop : b.intent.operationId = op) (hb : files (.inr (.package op)) = .absent) :
    (Service.recordPackage config b.toPackageBody).Goes O view files v b (files.put (.inr (.package op)) (.bound b)) v := by
  refine (Prog.Gives.ofOption (dif_pos b.valid)).goes.bind ((Prog.Gives.require hsize.1).goes.bind ?_)
  refine Prog.Goes.bind (Prog.Goes.port (fun s hs => hO.writer s b hs) (fun s hs => hO.kept s _ hs) Prog.gives_done.goes) ?_
  refine (Prog.Gives.require rfl).goes.bind ?_
  subst hop
  exact (Journal.record_goes (k := .package b.intent.operationId) hO hc hsize.2 hb).bind Prog.gives_done.goes

theorem recordPackage_comes {b : PackageBody C.toCanon} (hO : Serving O view v plan)
    (hfails : ¬ (b.Valid C ∧ Canonical (C := C) b.evidenceArtifacts ∧ Fits config b)) :
    ∃ x, (Service.recordPackage config b).Comes O view files v files v (.raise x) := by
  by_cases hv : b.Valid C
  · have hsome : (Prog.ofOption (if h : b.Valid C then some (⟨b, h⟩ : Package C) else none)
        (.error "invalid campaign package") : Code C (Package C)).Gives O view files v ⟨b, hv⟩ :=
      Prog.Gives.ofOption (dif_pos hv)
    by_cases hlimit : (C.package b).size ≤ config.maxPackageBytes
    · have hwritten : (ask (.writePackage ⟨b, hv⟩) orRaise : Code C Sha256Digest).Gives O view files v (C.package b).digest :=
        Prog.Gives.asked (fun s hs => hO.writer s _ hs) (fun s hs => hO.kept s _ hs) Prog.gives_done
      have hrecord : ∃ x, (Journal.record (.package b.intent.operationId) (⟨b, hv⟩ : Package C) : Code C Unit).Comes O view
          files v files v (.raise x) := by
        by_cases hc : Canonical (C := C) b.evidenceArtifacts
        · refine Journal.record_comes_size hO hc fun hsize => hfails ⟨hv, hc, hlimit, hsize⟩
        · exact Journal.recordPackage_comes_evidence hO hc
      obtain ⟨x, hx⟩ := hrecord
      refine ⟨x, hsome.comes ((Prog.Gives.require hlimit).comes (hwritten.comes ?_))⟩
      exact (Prog.Gives.require rfl).comes hx.raise
    · exact ⟨_, hsome.comes (Prog.comes_require hlimit).raise⟩
  · refine ⟨.error "invalid campaign package", Prog.Comes.raise ?_⟩
    rw [dif_neg hv]
    exact Prog.comes_refl

/-- The release of the lease, which ends a finalization. -/
def releasing (i : Intent C.toCanon) (b : Package C) : Code C (CampaignResult C) := do
  Service.releaseRecoveredLease i
  return ⟨b.report, some b⟩

theorem closePackage_comes {b : Package C} (hO : Serving O view v plan) (hb : b.toPackageBody = packageBody op plan i e r final)
    (hop : i.operationId = op) (hc : Canonical (C := C) plan.evidenceArtifacts) (hsize : Fits config b.toPackageBody)
    (hpackage : files (.inr (.package op)) = .absent) :
    (Service.closePackage config plan op i r e final).Comes O view files v (files.put (.inr (.package op)) (.bound b)) v
      (releasing i b) := by
  have hhead : (ask .headCommit orRaise : Code C GitObject).Gives O view files v plan.mainBeforeCommit :=
    Prog.Gives.asked hO.head (fun s hs => hO.kept s _ hs) Prog.gives_done
  refine hhead.comes ((Prog.Gives.require rfl).comes ?_)
  have hartifacts : b.evidenceArtifacts = plan.evidenceArtifacts := congrArg (·.evidenceArtifacts) hb
  have hbop : b.intent.operationId = op := (congrArg (·.intent.operationId) hb).trans hop
  change (Service.recordPackage config (packageBody op plan i e r final) >>= _).Comes _ _ _ _ _ _ _
  rw [← hb]
  exact (recordPackage_goes hO (hartifacts ▸ hc) hsize hbop hpackage).comes Prog.comes_refl

theorem closePackage_comes_raise (hO : Serving O view v plan)
    (hfails : ¬ ((packageBody op plan i e r final).Valid C ∧ Canonical (C := C) plan.evidenceArtifacts ∧
      Fits config (packageBody op plan i e r final))) :
    ∃ x, (Service.closePackage config plan op i r e final).Comes O view files v files v (.raise x) := by
  have hhead : (ask .headCommit orRaise : Code C GitObject).Gives O view files v plan.mainBeforeCommit :=
    Prog.Gives.asked hO.head (fun s hs => hO.kept s _ hs) Prog.gives_done
  obtain ⟨x, hx⟩ : ∃ x, (Service.recordPackage config (packageBody op plan i e r final)).Comes O view files v files v
      (.raise x) :=
    recordPackage_comes hO hfails
  exact ⟨x, hhead.comes ((Prog.Gives.require rfl).comes hx.raise)⟩

end Closing

/-! ### The whole -/

theorem finalizeRecords_comes (hO : Serving O view v plan) (h : Merged config files op plan i e r m rec)
    (hpackage : files (.inr (.package op)) = .absent) :
    (finalizeRecords config op).Comes O view files v files v
      (Service.settleFinalEvidence plan op i (recoveredReport i r op) >>= Service.closePackage config plan op i r e) := by
  have hplan := h.intended.planned
  have hop := h.planned.1
  have hiop : i.operationId = op := h.intended.bound.operation
  have hrop : r.operationId = op := (congrArg (·.operationId) h.received.body).trans hiop
  have heop : e.operationId = op := h.intended.scope.operation
  refine (Journal.read_gives hO hplan trivial hop).comes ((Prog.Gives.ofOption rfl).comes ((Prog.Gives.require hop).comes ?_))
  refine (Journal.read_missing hpackage).comes ?_
  refine (readIntent_gives h.received.intent hiop).comes ((readReceipt_gives h.receipt hrop).comes ?_)
  refine (ofPromotion_read_gives h.intended.evidence (congrArg Promotion.Key.leaseEvidence heop)).comes ?_
  refine (Prog.Gives.ofOption rfl).comes ?_
  have hassert : (Service.assertPlanIntentReceipt plan i r).Gives O view files v () := by
    refine (Prog.Gives.require ?_).bind (Prog.Gives.require ?_)
    · rw [h.intended.template]
      rfl
    · exact ⟨hrop.trans hop.symm, congrArg (·.intentDigest) h.received.body⟩
  exact hassert.comes ((Prog.Gives.require h.success).comes Prog.comes_refl)

theorem finalize_play {s : σ} : (finalize config op).play O files s =
    ⟨((finalizeRecords config op).play O files s).outcome.mapError fun x => .unsafeState x.message,
      ((finalizeRecords config op).play O files s).files, ((finalizeRecords config op).play O files s).state⟩ := by
  cases hplay : (finalizeRecords config op).play O files s with
  | mk outcome files' s' =>
    refine (Prog.play_bind_ok (Prog.play_attempt hplay)).trans ?_
    cases outcome <;> rfl

end Alone

/-! ## In a run -/

/-- A call that recorded this receipt had been told this reconciliation. -/
def BuiltFrom (c : Calls C) (op : Sha256Digest) (r : Receipt C.toCanon) (i : Intent C.toCanon)
    (rec : Reconciliation C.toCanon) : Prop :=
  ∃ (n : Nat) (t : Thread Call _ _ Exc (CampaignResult C)) (h : Log C) (x : Published), c.threads[n]? = some t ∧
    .publish (.inl (.receipt op)) r x :: h <:+ t.log ∧ Heard h i rec

section Runs
variable {c : Calls C} {Pm : Calls C → Move Call (AnyAnswer C) → Prop}
  {op : Sha256Digest} {plan : Plan C} {i : Intent C.toCanon} {e : LeaseEvidence C.toCanon} {r : Receipt C.toCanon}
  {m : MergeResult} {rec : Reconciliation C.toCanon}

theorem exists_merged (h : Reaches (perform (program C config)) Pm (AvoLib.Config.idle fun _ => .absent) c)
    (hplan : c.files (.inr (.plan op)) = .bound plan) (hr : c.files (.inl (.receipt op)) = .bound r)
    (hs : r.outcome.success = true) (hb : BuiltFrom c op r i rec) : ∃ e m, Merged config c.files op plan i e r m rec := by
  obtain ⟨hsound, hlinked, hobeys⟩ := run_rests h
  obtain ⟨n, t, h₁, x, ht, hlog, hheard⟩ := hb
  have hrests : ReceiptRests c.files h₁ op r := (hsound.obeys hlinked hobeys ht).1.rule_at hlog
  obtain ⟨i', m, rec', hreceived, hheard', honly⟩ := hrests hs
  obtain ⟨rfl, hsame⟩ := honly i _ hheard
  cases hsame
  obtain ⟨_, plan', e, hintended⟩ := hlinked _ _ hreceived.intent
  have hsame : plan' = plan := File.bound.inj (hintended.planned.symm.trans hplan)
  subst hsame
  obtain ⟨_, hplanned⟩ := hlinked _ _ hplan
  exact ⟨e, m, hplanned, hintended, hr, hs, hreceived⟩

theorem exists_built (h : Reaches (perform (program C config)) Pm (AvoLib.Config.idle fun _ => .absent) c)
    (hr : c.files (.inl (.receipt op)) = .bound r) (hs : r.outcome.success = true) : ∃ i rec, BuiltFrom c op r i rec := by
  obtain ⟨hsound, hlinked, hobeys⟩ := run_rests h
  rcases hsound.origin hr with hinit | ⟨n, t, ht, hwrote⟩
  · cases hinit
  have hlog : ∃ x h', .publish (.inl (.receipt op)) r x :: h' <:+ t.log := by
    rcases hwrote with hm | hm <;>
    · obtain ⟨before, after, heq⟩ := List.append_of_mem hm
      exact ⟨_, after, before, heq.symm⟩
  obtain ⟨x, h', hlog⟩ := hlog
  have hrests : ReceiptRests c.files h' op r := (hsound.obeys hlinked hobeys ht).1.rule_at hlog
  obtain ⟨i, m, rec, _, hheard, _⟩ := hrests hs
  exact ⟨i, rec, n, t, h', x, ht, hlog, hheard⟩

/-- What the package and its journal ask, beyond what was checked before the merge. -/
structure Completes (config : Config) (F : Disk C) (op : Sha256Digest) (plan : Plan C) (i : Intent C.toCanon)
    (r : Receipt C.toCanon) (rec : Reconciliation C.toCanon) : Prop where
  agreed : Agreed plan
  canonical : Canonical (C := C) plan.evidenceArtifacts
  final : (C.finalEvidence (finalOf op r rec)).size ≤ Journal.maxBytes
  fits : ∀ e, F (.inl (.leaseEvidence op)) = .bound e →
    Fits config (packageBody op plan i e r (rec, derivedResult r.outcome rec))

section Alone
variable {σ τ : Type} {service : Service (AnyAnswer C) σ}
  {O : Oracle service} {view : σ → τ} {v : τ} {files : Disk C}

theorem Merged.completes_iff (h : Merged config files op plan i e r m rec) : Completes config files op plan i r rec ↔
    (C.finalEvidence (finalOf op r rec)).size ≤ Journal.maxBytes ∧
      (packageBody op plan i e r (rec, derivedResult r.outcome rec)).Valid C ∧ Canonical (C := C) plan.evidenceArtifacts ∧
      Fits config (packageBody op plan i e r (rec, derivedResult r.outcome rec)) := by
  have hvalid := packageOf_valid_iff h.planned h.intended h.received h.success
  constructor
  · intro hc
    exact ⟨hc.final, hvalid.mpr hc.agreed, hc.canonical, hc.fits e h.intended.evidence⟩
  · rintro ⟨hfinal, hpackage, hcanonical, hfits⟩
    refine ⟨hvalid.mp hpackage, hcanonical, hfinal, fun e' he' => ?_⟩
    have hsame : e = e' := File.bound.inj (h.intended.evidence.symm.trans he')
    exact hsame ▸ hfits

theorem Merged.settles (hO : Serving O view v plan) (h : Merged config files op plan i e r m rec)
    (hfinal : files (.inr (.finalEvidence op)) = .absent ∨ files (.inr (.finalEvidence op)) = .bound (finalOf op r rec))
    (hrec : Reconciles O view v i (.returned rec))
    (hsize : (C.finalEvidence (finalOf op r rec)).size ≤ Journal.maxBytes) :
    (Service.settleFinalEvidence plan op i (recoveredReport i r op)).Goes O view files v (rec, derivedResult r.outcome rec)
      (files.put (.inr (.finalEvidence op)) (.bound (finalOf op r rec))) v := by
  rcases hfinal with habsent | hbound
  · exact settleFinalEvidence_goes hO h habsent hrec hsize
  · rw [Files.put_bound hbound]
    exact (settleFinalEvidence_gives hO hbound rfl).goes

section Coming
variable (hO : Serving O view v plan) (h : Merged config files op plan i e r m rec)
  (hfinal : files (.inr (.finalEvidence op)) = .absent ∨ files (.inr (.finalEvidence op)) = .bound (finalOf op r rec))
  (hpackage : files (.inr (.package op)) = .absent)
  (hrec : Reconciles O view v i (.returned rec))
include hO h hfinal hpackage hrec

theorem Merged.comes_of_completes (hc : Completes config files op plan i r rec) :
    ∃ b : Package C, b.toPackageBody = packageBody op plan i e r (rec, derivedResult r.outcome rec) ∧
      (finalizeRecords config op).Comes O view files v
        ((files.put (.inr (.finalEvidence op)) (.bound (finalOf op r rec))).put (.inr (.package op)) (.bound b)) v
        (releasing i b) := by
  obtain ⟨hsize, hvalid, hcanonical, hfits⟩ := h.completes_iff.mp hc
  refine ⟨⟨_, hvalid⟩, rfl, (finalizeRecords_comes hO h hpackage).trans ?_⟩
  refine (h.settles hO hfinal hrec hsize).comes ?_
  refine closePackage_comes hO rfl h.intended.bound.operation hcanonical hfits ?_
  rw [Files.put_ne _ _ (by simp)]
  exact hpackage

theorem Merged.comes_of_not_completes
    (hrests : ∀ f, files (.inr (.finalEvidence op)) = .bound f → (C.finalEvidence f).size ≤ Journal.maxBytes)
    (hc : ¬ Completes config files op plan i r rec) :
    ∃ files' x, files' (.inr (.package op)) = .absent ∧ (finalizeRecords config op).Comes O view files v files' v (.raise x) := by
  have hcomes := finalizeRecords_comes (v := v) hO h hpackage
  by_cases hsize : (C.finalEvidence (finalOf op r rec)).size ≤ Journal.maxBytes
  · have hfails := fun h' => hc (h.completes_iff.mpr ⟨hsize, h'⟩)
    let files' := files.put (.inr (.finalEvidence op)) (.bound (finalOf op r rec))
    have habsent : files' (.inr (.package op)) = .absent := (Files.put_ne _ _ (by simp)).trans hpackage
    obtain ⟨x, hx⟩ : ∃ x, (Service.closePackage config plan op i r e (rec, derivedResult r.outcome rec)).Comes O view files' v
        files' v (.raise x) :=
      closePackage_comes_raise hO hfails
    exact ⟨files', x, habsent, hcomes.trans ((h.settles hO hfinal hrec hsize).comes hx)⟩
  · have habsent := hfinal.resolve_right fun hbound => hsize (hrests _ hbound)
    obtain ⟨x, hx⟩ := settleFinalEvidence_comes hO h habsent hrec hsize
    exact ⟨files, x, hpackage, hcomes.trans hx.raise⟩

end Coming

end Alone

end Runs

theorem final_size {c : Calls C} {Pm : Calls C → Move Call (AnyAnswer C) → Prop} {op : Sha256Digest}
    (h : Reaches (perform (program C config)) Pm (AvoLib.Config.idle fun _ => .absent) c) (f : FinalEvidence C.toCanon)
    (hf : c.files (.inr (.finalEvidence op)) = .bound f) : (C.finalEvidence f).size ≤ Journal.maxBytes := by
  obtain ⟨_, i, r, H, hfinal, _⟩ := (run_rests h).2.1 _ _ hf
  exact hfinal.size

/-- Calls of campaigns, and what is behind their ports. -/
abbrev World (C : Canon) (σ : Type) := Served Call (AnyRec C) (AnyAnswer C) Exc (CampaignResult C) σ

/-- From the reconciliation that the receipt was built from, `finalize` makes a package
that its contract and the journal accept exactly when the plan was one they accept. -/
theorem finalize_packages_iff {σ : Type} {service : Service (AnyAnswer C) σ} {O : Oracle service} {s₀ : σ} {w : World C σ}
    {op : Sha256Digest} {plan : Plan C} {i : Intent C.toCanon} {r : Receipt C.toCanon} {rec : Reconciliation C.toCanon}
    (h : Reaches (serve service (program C config)) (fun _ _ => True) (Served.idle (fun _ => .absent) s₀) w)
    (hplan : w.config.files (.inr (.plan op)) = .bound plan) (hr : w.config.files (.inl (.receipt op)) = .bound r)
    (hs : r.outcome.success = true) (hb : BuiltFrom w.config op r i rec)
    (hfinal : w.config.files (.inr (.finalEvidence op)) = .absent ∨
      w.config.files (.inr (.finalEvidence op)) = .bound (finalOf op r rec))
    (hpackage : w.config.files (.inr (.package op)) = .absent) (hO : Serving O (fun _ => ()) () plan)
    (hrec : Reconciles O (fun _ => ()) () i (.returned rec)) :
    (∃ b, ((finalize config op).play O w.config.files w.state).files (.inr (.package op)) = .bound b) ↔
      Completes config w.config.files op plan i r rec := by
  obtain ⟨e, m, hm⟩ := exists_merged h.config hplan hr hs hb
  rw [finalize_play]
  dsimp only
  constructor
  · rintro ⟨b, hbound⟩
    by_contra hc
    obtain ⟨files', x, habsent, hcomes⟩ :=
      hm.comes_of_not_completes hO hfinal hpackage hrec (final_size h.config) hc
    obtain ⟨s', -, hplay⟩ := hcomes w.state rfl
    rw [hplay] at hbound
    cases habsent.symm.trans hbound
  · intro hc
    obtain ⟨b, _, hcomes⟩ := hm.comes_of_completes hO hfinal hpackage hrec hc
    obtain ⟨s', -, hplay⟩ := hcomes w.state rfl
    rw [hplay]
    exact ⟨b, Prog.play_grows _ _ (Files.put_self _ _ _)⟩

/-! ## A small campaign -/

namespace Sample

open Promotion.Sample (object mergedOracle)

/-- The documents of the promotion sample, and constants for those of campaigns. -/
def canon : Canon where
  toCanon := Promotion.Sample.canon
  bundle _ := 17
  marker _ := 30
  openIdentity _ := 31
  leaseEvidence _ := ⟨32, 500⟩
  canonicalJson _ := true
  plan _ := ⟨33, 5000⟩
  finalEvidence _ := ⟨34, 3000⟩
  package _ := ⟨35, 20000⟩

def settings : Config := ⟨100000, 100, [("proposer", "authors")], [("first", "one"), ("second", "two")]⟩

def request : Request := ⟨"candidate", "proposer", 16⟩

def intake : DryRunInput := ⟨"candidate", "proposer", 13, [], [], none, 16, [16]⟩

def gate (name : String) (evidenceDigest : Sha256Digest) : GateAttestation := ⟨name, 13, 40, evidenceDigest, true⟩

def reviewer (name : String) (evidenceDigest : Sha256Digest) : ReviewerAttestation := ⟨name, 13, 40, evidenceDigest, true⟩

def artifact (digest : Sha256Digest) (role : String) : ArtifactRef := ⟨digest, 100, "application/json", role⟩

/-- The evidence of a campaign, and whether a resolver that knows only some of it gives
the rest one role. -/
def evidence (shared : Bool) : List ArtifactRef :=
  [artifact 16 "publication-evidence", artifact 18 "check-evidence-manifest", artifact 20 "controller-derived-evidence",
    artifact 21 (if shared then "controller-derived-evidence" else "integration-soak-evidence"),
    artifact 22 "first-review", artifact 23 "second-review", artifact 24 "rollback-evidence"]

def bundle : PromotionBundle where
  toBundle := { Promotion.Sample.bundle with evidenceDigests := [16, 18, 20, 21, 22, 23, 24] }
  sourceTreeDigest := 40
  others := ""

def quality : QualityEvidence where
  gateAttestations := [gate "trusted_ci" 18, gate "private_evaluation" 20, gate "provenance" 16, gate "integration_soak" 21]
  reviewerAttestations := [reviewer "first" 22, reviewer "second" 23]
  rollbackAttestation := ⟨13, 40, 24, true⟩
  evidenceArtifacts := evidence false
  syntheticMergeCommit := object 'd'
  syntheticMergeTree := object '2'
  protectionEvidenceDigest := 12
  checkEvidenceManifestDigest := 18

def templateBody : TemplateBody where
  toPromotionIdentity := Promotion.Sample.identity false
  operationId := Promotion.Sample.operation false
  baseTree := object '1'
  candidateTree := object '2'
  candidateRepositoryDigest := 11
  candidateHeadRef := "refs/heads/candidate"
  candidateHeadTree := object '2'
  targetRepositoryDigest := 11
  targetBaseRef := "refs/heads/integration"
  targetBaseTree := object '1'
  syntheticMergeTree := object '2'
  controllerConfigDigest := 14
  protectionEvidenceDigest := 12
  evidenceManifestDigest := 15
  checkEvidenceManifestDigest := 18
  pullRequestUrl := "https://host/pull"

def template : Template canon.toCanon where
  toTemplateBody := templateBody
  valid := by
    refine ⟨?_, by decide, by decide, ⟨rfl, rfl⟩, ⟨rfl, rfl⟩, rfl, ⟨rfl, rfl⟩, ⟨rfl, rfl⟩, ⟨by decide, ?_⟩, rfl⟩
    · simp [templateBody, TemplateBody.bound, Promotion.Sample.identity, canon, Promotion.Sample.gitObject_object]
    · simp [TemplateBody.bound, templateBody]

def observation : ProviderObservation canon.toCanon where
  toObservation := Promotion.Sample.observation (template.bindLease "" 0)
  valid := by
    refine ⟨?_, by decide, by decide, rfl, rfl, ?_⟩
    · simp [Promotion.Sample.observation, canon, Promotion.Sample.gitObject_object]
    · simp [Promotion.Sample.observation]

def opened : Opened := ⟨1, "https://host/pull", "refs/heads/integration", object 'b', object '1', 31⟩

def discovery : Discovery canon.toCanon := ⟨observation, object 'f', 31⟩

def preparation : Preparation canon.toCanon := ⟨template, observation, true, 31, none⟩

/-- What the ports of the campaign answer, and whether the package can be written. -/
def answer (shared stored : Bool) : (p : Port canon) → p.Answer
  | .headCommit => .returned (object 'f')
  | .collect _ => .returned intake
  | .evaluate _ _ _ => .returned quality
  | .dryRun _ _ => .returned ⟨bundle, 17⟩
  | .openOrReconcile _ => .returned opened
  | .discover _ _ => .returned discovery
  | .bind _ _ _ _ _ => .returned preparation
  | .verifyPublication _ _ => .returned true
  | .resolve _ => .returned (evidence shared)
  | .writePackage b => if stored then .returned (canon.package b.toPackageBody).digest else .raised "no space left on device"
  | .install _ => .returned ()
  | .readArtifact _ => .returned ()

/-- The merge was applied although its answer was lost. -/
def oracle (shared stored : Bool) :
    Oracle (AvoLib.Service.within Promotion.board : AvoLib.Service (AnyAnswer canon) Promotion.Board) :=
  mergedOracle.within (answer shared stored)

def operation : Sha256Digest := Promotion.Sample.operation false

def merged : Reconciliation canon.toCanon := Promotion.Sample.reconciliation true false

theorem other_operation {op : Sha256Digest} (h : op = operation) : ¬ op = Promotion.Sample.operation true :=
  fun hop => Promotion.Sample.operation_ne (hop.symm.trans h)

def firstRun (shared stored : Bool) : Play (AnyRec canon) Exc (CampaignResult canon) Promotion.Board :=
  (Service.run settings request Promotion.Sample.publication).play (oracle shared stored) (fun _ => .absent)
    Promotion.Board.empty

/-- The records are those of a merge that `finalize` heard of again. -/
def settled (shared : Bool) (plan : Plan canon) (r : Receipt canon.toCanon) (f : FinalEvidence canon.toCanon) : Bool :=
  r.outcome.success && decide (f = finalOf operation r merged) && decide (plan.evidenceArtifacts = evidence shared) &&
    decide (plan.mainBeforeCommit = object 'f') && decide (plan.preparation = preparation)

/-- Merged and finalized up to the package, which is not there. -/
def unpacked (shared : Bool) (x : Play (AnyRec canon) Exc (CampaignResult canon) Promotion.Board) : Bool :=
  match x.files (.inr (.plan operation)), x.files (.inl (.receipt operation)), x.files (.inr (.finalEvidence operation)),
    x.files (.inr (.package operation)) with
  | .bound plan, .bound r, .bound f, .absent => settled shared plan r f
  | _, _, _, _ => false

/-- A state of the system that the first run left. -/
structure Left (shared : Bool) (w : World canon Promotion.Board) (plan : Plan canon) (i : Intent canon.toCanon)
    (r : Receipt canon.toCanon) : Prop where
  reaches : Reaches (serve (AvoLib.Service.within Promotion.board) (program canon settings)) (fun _ _ => True)
    (Served.idle (fun _ => .absent) Promotion.Board.empty) w
  planned : w.config.files (.inr (.plan operation)) = .bound plan
  receipt : w.config.files (.inl (.receipt operation)) = .bound r
  success : r.outcome.success = true
  built : BuiltFrom w.config operation r i merged
  operation : i.operationId = operation
  final : w.config.files (.inr (.finalEvidence Sample.operation)) = .bound (finalOf Sample.operation r merged)
  package : w.config.files (.inr (.package Sample.operation)) = .absent
  evidence : plan.evidenceArtifacts = evidence shared
  main : plan.mainBeforeCommit = object 'f'
  preparation : plan.preparation = preparation

def Merged : (p : Promotion.Port canon.toCanon ⊕ Port canon) → AnyAnswer canon p → Prop
  | .inl (.reconcile i), r => r = .returned (Promotion.Sample.reconciliation true (i.operationId = Promotion.Sample.operation true))
  | _, _ => True

set_option maxRecDepth 8000 in
/-- The two runs, evaluated together. -/
theorem runs_unpacked : unpacked true (firstRun true true) = true ∧ unpacked false (firstRun false false) = true := by
  decide +kernel

theorem told_merged {shared stored : Bool} {w : World canon Promotion.Board}
    (h : Reaches (serve (AvoLib.Service.within Promotion.board) (program canon settings))
      (fun w m => m = .start (.run request Promotion.Sample.publication) ∨ Alone (oracle shared stored) 0 w m)
      (Served.idle (fun _ => .absent) Promotion.Board.empty) w) {n : Nat} {t : Thread Call (AnyRec canon) (AnyAnswer canon) Exc
      (CampaignResult canon)} {i : Intent canon.toCanon} {x : Promotion.Answer (Reconciliation canon.toCanon)}
    (ht : w.config.threads[n]? = some t) (hm : .port (.inl (.reconcile i)) x ∈ t.log) :
    x = .returned (Promotion.Sample.reconciliation true (i.operationId = Promotion.Sample.operation true)) := by
  have hX : ∀ s p, Merged p ((oracle shared stored).answer s p) := by
    intro s p
    cases p with
    | inr p => trivial
    | inl p => cases p with
      | reconcile i => rfl
      | _ => trivial
  have hasks : Reaches (serve (AvoLib.Service.within Promotion.board) (program canon settings))
      (fun w m => ∀ p r, w.Asks m p r → Merged p r) (Served.idle (fun _ => .absent) Promotion.Board.empty) w := by
    refine h.mono ?_
    rintro w m hm p r ⟨j, n, t, next, rfl, _, _, rfl⟩
    rcases hm with hm | hm
    · cases hm
    · cases hm
      exact hX _ p
  exact hasks.answers ht hm

theorem exists_of_unpacked {shared : Bool} {x : Play (AnyRec canon) Exc (CampaignResult canon) Promotion.Board}
    (h : unpacked shared x = true) : ∃ plan r f, x.files (.inr (.plan operation)) = .bound plan ∧
      x.files (.inl (.receipt operation)) = .bound r ∧ x.files (.inr (.finalEvidence operation)) = .bound f ∧
      x.files (.inr (.package operation)) = .absent ∧ settled shared plan r f = true := by
  unfold unpacked at h
  split at h
  · next plan r f hplan hr hf hpackage => exact ⟨plan, r, f, hplan, hr, hf, hpackage, h⟩
  · cases h

theorem exists_left {shared stored : Bool} (h : unpacked shared (firstRun shared stored) = true) :
    ∃ w plan i r, Left shared w plan i r := by
  obtain ⟨w, _, hreach, hfiles, _, _⟩ := exists_alone_run (oracle shared stored) (program canon settings)
    (.run request Promotion.Sample.publication) (fun _ => .absent) Promotion.Board.empty
  have hrun : Reaches (serve (AvoLib.Service.within Promotion.board) (program canon settings)) (fun _ _ => True)
      (Served.idle (fun _ => .absent) Promotion.Board.empty) w := hreach.mono fun _ _ _ => trivial
  change w.config.files = (firstRun shared stored).files at hfiles
  obtain ⟨plan, r, f, hplan, hr, hf, hpackage, h⟩ := exists_of_unpacked h
  rw [← hfiles] at hplan hr hf hpackage
  simp only [settled, Bool.and_eq_true, decide_eq_true_eq] at h
  obtain ⟨⟨⟨⟨hs, hfinal⟩, hevidence⟩, hmain⟩, hprepared⟩ := h
  obtain ⟨i, rec, hbuilt⟩ := exists_built hrun.config hr hs
  obtain ⟨e, m, hmerged⟩ := exists_merged hrun.config hplan hr hs hbuilt
  have hop : i.operationId = operation := hmerged.intended.bound.operation
  obtain ⟨n, t, h', x, ht, hlog, hheard⟩ := hbuilt
  have hx := told_merged hreach ht (((List.suffix_cons _ _).trans hlog).mem hheard)
  have hrec : rec = merged := by
    simp only [other_operation hop, decide_false] at hx
    exact Promotion.Answer.returned.inj hx
  subst hrec
  exact ⟨w, plan, i, r, hrun, hplan, hr, hs, ⟨n, t, h', x, ht, hlog, hheard⟩, hop, hfinal ▸ hf, hpackage, hevidence, hmain,
    hprepared⟩

theorem Left.serving {shared : Bool} {w : World canon Promotion.Board} {plan : Plan canon} {i : Intent canon.toCanon}
    {r : Receipt canon.toCanon} (h : Left shared w plan i r) : Serving (oracle shared true) (fun _ => ()) () plan where
  head _ _ := congrArg Promotion.Answer.returned h.main.symm
  readable _ _ _ := rfl
  writer _ _ _ := rfl
  installs _ _ _ := rfl
  kept _ _ _ := rfl

theorem Left.told {shared : Bool} {w : World canon Promotion.Board} {plan : Plan canon} {i : Intent canon.toCanon}
    {r : Receipt canon.toCanon} (h : Left shared w plan i r) :
    Reconciles (oracle shared true) (fun _ => ()) () i (.returned merged) where
  answers _ _ := by
    change Promotion.Answer.returned (Promotion.Sample.reconciliation true (i.operationId = Promotion.Sample.operation true)) = _
    simp only [other_operation h.operation, decide_false]
    rfl
  kept _ _ := rfl

end Sample

/-- With evidence of different roles, a later `finalize` makes the package that the run
could not write. -/
theorem finalize_packages_iff_unwritten : ∃ (w : World Sample.canon Promotion.Board) (b : Package Sample.canon),
    ((finalize Sample.settings Sample.operation).play (Sample.oracle false true) w.config.files w.state).files
      (.inr (.package Sample.operation)) = .bound b := by
  obtain ⟨w, plan, i, r, h⟩ := Sample.exists_left Sample.runs_unpacked.2
  have hagreed : Agreed plan := by
    constructor
    · rw [h.evidence]
      decide
    · rw [h.evidence]
      decide
    · rw [h.preparation]
      rfl
    · rw [h.preparation]
      rfl
  have hfinal : 3000 ≤ Journal.maxBytes := by decide
  have hlimit : 20000 ≤ Sample.settings.maxPackageBytes := by decide
  have hsize : 20000 ≤ Journal.maxBytes := by decide
  obtain ⟨b, hb⟩ := (finalize_packages_iff h.reaches h.planned h.receipt h.success h.built (.inr h.final) h.package h.serving
    h.told).mpr ⟨hagreed, fun _ _ => rfl, hfinal, fun _ _ => ⟨hlimit, hsize⟩⟩
  exact ⟨w, b, hb⟩

/-- Two artifacts of evidence with one role pass every check before the merge, and none
of the finalizations after it. -/
theorem finalize_fails_shared_role :
    ¬ ∀ (w : World Sample.canon Promotion.Board) (plan : Plan Sample.canon) (i : Intent Sample.canon.toCanon)
      (r : Receipt Sample.canon.toCanon) (rec : Reconciliation Sample.canon.toCanon),
      Reaches (serve (AvoLib.Service.within Promotion.board) (program Sample.canon Sample.settings)) (fun _ _ => True)
        (Served.idle (fun _ => .absent) Promotion.Board.empty) w →
      w.config.files (.inr (.plan Sample.operation)) = .bound plan →
      w.config.files (.inl (.receipt Sample.operation)) = .bound r → r.outcome.success = true →
      BuiltFrom w.config Sample.operation r i rec →
      w.config.files (.inr (.package Sample.operation)) = .absent → Serving (Sample.oracle true true) (fun _ => ()) () plan →
      Reconciles (Sample.oracle true true) (fun _ => ()) () i (.returned rec) →
      ∃ b, ((finalize Sample.settings Sample.operation).play (Sample.oracle true true) w.config.files w.state).files
        (.inr (.package Sample.operation)) = .bound b := by
  intro hall
  obtain ⟨w, plan, i, r, h⟩ := Sample.exists_left Sample.runs_unpacked.1
  obtain ⟨b, hb⟩ := hall w plan i r _ h.reaches h.planned h.receipt h.success h.built h.package h.serving h.told
  obtain ⟨e, m, hm⟩ := exists_merged h.reaches.config h.planned h.receipt h.success h.built
  have hnot : ¬ Completes Sample.settings w.config.files Sample.operation plan i r Sample.merged := by
    intro hc
    have hroles := hc.agreed.roles
    rw [h.evidence] at hroles
    revert hroles
    decide
  obtain ⟨files', x, habsent, hcomes⟩ := hm.comes_of_not_completes h.serving (.inr h.final) h.package h.told
    (final_size h.reaches.config) hnot
  obtain ⟨s', -, hplay⟩ := hcomes w.state rfl
  rw [finalize_play, hplay] at hb
  cases habsent.symm.trans hb

end AvoCorrelate.Campaign
