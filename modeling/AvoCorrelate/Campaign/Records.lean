import AvoCorrelate.Promotion.Service
import Mathlib.Tactic.MkIffOfInductiveProp
/-!
# Records of an integration campaign

The contracts around one campaign: what its ports report before the merge, the plan
that is recorded before the promotion, the evidence of the merge and the package. A
record is its fields with what its validator checked.

`Canon` adds to the promotion's what the campaign's contracts hash and measure.
Nothing is assumed of it.
-/
namespace AvoCorrelate.Campaign

open ExactCas (Sha256Digest GitObject)
open Promotion (Publication Observation Intent IntentBody Lease LeaseEvidence MergeResult Receipt Reconciliation Report)

/-! ## Documents -/

/-- `PromotionBundle`: what a promotion reads of it, the digest of the tree it was
evaluated on, and all its other fields as one. -/
structure PromotionBundle extends Promotion.Bundle where
  sourceTreeDigest : Sha256Digest
  others : String
  deriving DecidableEq

/-- `ArtifactRef`, without the time of its creation. -/
structure ArtifactRef where
  digest : Sha256Digest
  sizeBytes : Nat
  mediaType : String
  role : String
  deriving DecidableEq

section Decidable
variable {p : Sha256Digest → Prop} [DecidablePred p]

-- over the digests that are there; the instance for every digest would try them all
instance (priority := 2000) (xs : List Sha256Digest) : Decidable (∀ x ∈ xs, p x) := List.decidableBAll p xs

instance (priority := 2000) (o : Option Sha256Digest) : Decidable (∀ x ∈ o, p x) :=
  decidable_of_iff (∀ x ∈ o.toList, p x) (by simp)

end Decidable

def sameSet (xs ys : List Sha256Digest) : Prop := (∀ x ∈ xs, x ∈ ys) ∧ ∀ y ∈ ys, y ∈ xs

instance (xs ys : List Sha256Digest) : Decidable (sameSet xs ys) := inferInstanceAs (Decidable (_ ∧ _))

/-- What `campaign_marker_digest` hashes. -/
structure Marker where
  operationId : Sha256Digest
  bundleDigest : Sha256Digest
  repositoryDigest : Sha256Digest
  pullRequestNumber : Nat
  candidateRef : String
  candidateCommit : GitObject
  targetRef : String
  baseCommit : GitObject
  deriving DecidableEq

/-- What `campaign_open_identity` hashes. -/
structure OpenIdentity where
  repositoryDigest : Sha256Digest
  publicationEvidenceDigest : Sha256Digest
  candidateRef : String
  candidateCommit : GitObject
  pullRequestNumber : Nat
  pullRequestUrl : String
  targetRef : String
  baseCommit : GitObject
  baseTree : GitObject
  deriving DecidableEq

/-- The digest of a document's canonical bytes, and how many they are. -/
structure Encoding where
  digest : Sha256Digest
  size : Nat
  deriving DecidableEq

/-! ## The pull request -/

/-- `CampaignOpened`, and its durable form. -/
structure Opened where
  pullRequestNumber : Nat
  pullRequestUrl : String
  targetRef : String
  baseCommit : GitObject
  baseTree : GitObject
  openIdentity : Sha256Digest
  deriving DecidableEq

def openIdentityOf (p : Publication) (o : Opened) : OpenIdentity :=
  ⟨p.repositoryDigest, p.publicationEvidenceDigest, p.candidateRef, p.candidateCommit, o.pullRequestNumber, o.pullRequestUrl,
    o.targetRef, o.baseCommit, o.baseTree⟩

section Contracts
variable (C : Promotion.Canon)

/-- `validate_refs_and_objects`. -/
structure ValidObservation (o : Observation) : Prop where
  objects : ∀ x ∈ [o.baseCommit, o.headCommit, o.candidateTree, o.baseTree, o.syntheticMergeCommit, o.syntheticMergeTree],
    C.gitObject x = true
  refs : C.ref o.baseRef = true ∧ C.ref o.headRef = true
  distinct : C.casefold o.baseRef ≠ C.casefold o.headRef
  candidate : o.candidateRepositoryDigest = o.repositoryDigest
  target : o.targetRepositoryDigest = o.repositoryDigest
  url : o.pullRequestUrl.startsWith "https://" = true

/-- `IntegrationProviderObservation`. -/
structure ProviderObservation extends Observation where
  valid : ValidObservation C toObservation
  deriving DecidableEq

/-- `CampaignDiscovery`, and its durable form. -/
structure Discovery where
  observation : ProviderObservation C
  mainBeforeCommit : GitObject
  openIdentity : Sha256Digest
  deriving DecidableEq

/-! ## The template of the intent -/

/-- The fields of an intent but for its lease. -/
structure TemplateBody extends Promotion.PromotionIdentity where
  operationId : Sha256Digest
  baseTree : GitObject
  candidateTree : GitObject
  candidateRepositoryDigest : Sha256Digest
  candidateHeadRef : String
  candidateHeadTree : GitObject
  targetRepositoryDigest : Sha256Digest
  targetBaseRef : String
  targetBaseTree : GitObject
  syntheticMergeTree : GitObject
  controllerConfigDigest : Sha256Digest
  protectionEvidenceDigest : Sha256Digest
  evidenceManifestDigest : Sha256Digest
  checkEvidenceManifestDigest : Sha256Digest
  pullRequestUrl : String
  deriving DecidableEq

/-- The fields of the intent under this lease. -/
def TemplateBody.bound (t : TemplateBody) (identity : String) (digest : Sha256Digest) : IntentBody where
  toPromotionIdentity := t.toPromotionIdentity
  operationId := t.operationId
  controllerLeaseDigest := digest
  controllerLeaseIdentity := identity
  baseTree := t.baseTree
  candidateTree := t.candidateTree
  candidateRepositoryDigest := t.candidateRepositoryDigest
  candidateHeadRef := t.candidateHeadRef
  candidateHeadTree := t.candidateHeadTree
  targetRepositoryDigest := t.targetRepositoryDigest
  targetBaseRef := t.targetBaseRef
  targetBaseTree := t.targetBaseTree
  syntheticMergeTree := t.syntheticMergeTree
  controllerConfigDigest := t.controllerConfigDigest
  protectionEvidenceDigest := t.protectionEvidenceDigest
  evidenceManifestDigest := t.evidenceManifestDigest
  checkEvidenceManifestDigest := t.checkEvidenceManifestDigest
  pullRequestUrl := t.pullRequestUrl

/-- `IntegrationIntentTemplate`: its validator builds an intent under a lease that is
none (`template-validation-lease`), with the digest of zeros. -/
structure Template extends TemplateBody where
  valid : (toTemplateBody.bound "template-validation-lease" 0).Valid C

instance : DecidableEq (Template C) := fun s t =>
  decidable_of_iff (s.toTemplateBody = t.toTemplateBody) ⟨fun h => by cases s; cases t; cases h; rfl, fun h => h ▸ rfl⟩

variable {C}

theorem TemplateBody.bound_valid {t : TemplateBody} {identity identity' : String} {digest digest' : Sha256Digest}
    (h : (t.bound identity digest).Valid C) : (t.bound identity' digest').Valid C :=
  ⟨h.objects, h.refs, h.distinct, h.base, h.candidate, h.synthetic, h.repositories, h.heads, h.pullRequest, h.identity⟩

def Template.bindLease (t : Template C) (identity : String) (digest : Sha256Digest) : Intent C :=
  ⟨t.toTemplateBody.bound identity digest, TemplateBody.bound_valid t.valid⟩

def markerOf (i : Intent C) : Marker :=
  ⟨i.operationId, i.bundleDigest, i.repositoryDigest, i.pullRequestNumber, i.candidateRef, i.candidateCommit, i.targetRef,
    i.baseCommit⟩

variable (C)

/-- `CampaignPreparation`, and its durable form. -/
structure Preparation where
  template : Template C
  observation : ProviderObservation C
  markerVerified : Bool
  openIdentity : Sha256Digest
  markerDigest : Option Sha256Digest
  deriving DecidableEq

/-! ## The fields of the records -/

instance : DecidableEq (Reconciliation C) := fun r s =>
  decidable_of_iff (r.toReconciliationBody = s.toReconciliationBody)
    ⟨fun h => by cases r; cases s; cases h; rfl, fun h => h ▸ rfl⟩

structure PlanBody where
  operationId : Sha256Digest
  bundle : PromotionBundle
  publication : Publication
  evidenceArtifacts : List ArtifactRef
  bundleDigest : Sha256Digest
  opened : Opened
  discovery : Discovery C
  preparation : Preparation C
  mainBeforeCommit : GitObject
  deriving DecidableEq

/-- `CampaignFinalEvidenceRecord`. -/
structure FinalEvidence where
  operationId : Sha256Digest
  reconciliation : Reconciliation C
  mergeResult : MergeResult
  deriving DecidableEq

structure PackageBody where
  bundle : PromotionBundle
  publication : Publication
  evidenceArtifacts : List ArtifactRef
  intent : Intent C
  observation : ProviderObservation C
  mergeResult : MergeResult
  reconciliation : Reconciliation C
  receipt : Receipt C
  report : Report
  bundleDigest : Sha256Digest
  intentDigest : Sha256Digest
  receiptDigest : Sha256Digest
  campaignMarkerDigest : Sha256Digest
  leaseEvidence : LeaseEvidence C
  leaseEvidenceArtifact : ArtifactRef
  mainBeforeCommit : GitObject
  mainAfterCommit : GitObject
  deriving DecidableEq

end Contracts

/-- What the campaign's contracts rest on: digests of its documents, the sizes of its
records, and whether the content with a digest is canonical JSON. -/
structure Canon extends Promotion.Canon where
  bundle : PromotionBundle → Sha256Digest
  marker : Marker → Sha256Digest
  openIdentity : OpenIdentity → Sha256Digest
  leaseEvidence : Lease → Encoding
  canonicalJson : Sha256Digest → Bool
  plan : PlanBody toCanon → Encoding
  finalEvidence : FinalEvidence toCanon → Encoding
  package : PackageBody toCanon → Encoding

section Records
variable (C : Canon)

/-! ## The plan -/

/-- What `_validate_publication_binding` and the plan ask of a publication. -/
def publicationOf (p : Publication) (b : PromotionBundle) : Prop :=
  p.repositoryDigest = b.repositoryDigest ∧ p.baseCommit = b.commit ∧ p.baseTree = b.tree ∧
    p.candidateDigest = b.candidateDigest ∧ p.publicationEvidenceDigest = b.sourceProvenanceDigest ∧
    p.controllerPublisherIdentity = b.controllerIdentity

instance (p : Publication) (b : PromotionBundle) : Decidable (publicationOf p b) := inferInstanceAs (Decidable (_ ∧ _))

/-- `validate_plan`. -/
@[mk_iff]
structure PlanBody.Valid (b : PlanBody C.toCanon) : Prop where
  operation : b.operationId = b.preparation.template.operationId
  bundle : b.bundleDigest = C.bundle b.bundle
  template : b.preparation.template.bundleDigest = b.bundleDigest
  publicationEvidence : b.publication.publicationEvidenceDigest ∈ b.evidenceArtifacts.map (·.digest)
  evidence : sameSet (b.evidenceArtifacts.map (·.digest)) b.bundle.evidenceDigests
  prepared : b.opened.openIdentity = b.preparation.openIdentity
  discovered : b.discovery.openIdentity = b.opened.openIdentity
  publication : publicationOf b.publication b.bundle
  marker : ∀ d ∈ b.preparation.markerDigest, d = C.marker (markerOf (b.preparation.template.bindLease "plan-validation" 0))
  main : b.discovery.mainBeforeCommit = b.mainBeforeCommit
  base : b.opened.baseCommit = b.publication.baseCommit ∧ b.opened.baseTree = b.publication.baseTree
  target : b.opened.targetRef = b.bundle.targetRef
  discovery : b.discovery.observation.repositoryDigest = b.publication.repositoryDigest ∧
    b.discovery.observation.pullRequestUrl = b.opened.pullRequestUrl ∧
    b.discovery.observation.baseRef = b.opened.targetRef ∧
    b.discovery.observation.baseCommit = b.publication.baseCommit ∧
    b.discovery.observation.baseTree = b.publication.baseTree ∧
    b.discovery.observation.headRef = b.publication.candidateRef ∧
    b.discovery.observation.headCommit = b.publication.candidateCommit ∧
    b.discovery.observation.candidateTree = b.publication.candidateTree
  pullRequest : b.discovery.observation.pullRequestNumber = b.opened.pullRequestNumber
  preparation : b.preparation.markerVerified = true ∧ b.preparation.observation = b.discovery.observation
  binding : b.preparation.template.repositoryDigest = b.publication.repositoryDigest ∧
    b.preparation.template.targetRef = b.opened.targetRef ∧
    b.preparation.template.baseCommit = b.publication.baseCommit ∧
    b.preparation.template.baseTree = b.publication.baseTree ∧
    b.preparation.template.candidateRef = b.publication.candidateRef ∧
    b.preparation.template.candidateCommit = b.publication.candidateCommit ∧
    b.preparation.template.candidateTree = b.publication.candidateTree ∧
    b.preparation.template.syntheticMergeCommit = b.discovery.observation.syntheticMergeCommit ∧
    b.preparation.template.syntheticMergeTree = b.discovery.observation.syntheticMergeTree ∧
    b.preparation.template.protectionEvidenceDigest = b.discovery.observation.protectionEvidenceDigest ∧
    b.preparation.template.checkEvidenceManifestDigest = b.discovery.observation.checkEvidenceManifestDigest
  mainObject : C.gitObject b.mainBeforeCommit = true

local instance lawfulDigest : LawfulBEq Sha256Digest := inferInstance

instance (b : PlanBody C.toCanon) : Decidable (b.Valid C) := decidable_of_iff _ (PlanBody.valid_iff C b).symm

/-- `CampaignCompletionPlan`. -/
structure Plan extends PlanBody C.toCanon where
  valid : toPlanBody.Valid C

instance : DecidableEq (Plan C) := fun p q =>
  decidable_of_iff (p.toPlanBody = q.toPlanBody) ⟨fun h => by cases p; cases q; cases h; rfl, fun h => h ▸ rfl⟩

/-! ## The package -/

/-- `_validate_bundle_binding`. -/
def bundleBound (i : Intent C.toCanon) (b : PromotionBundle) : Prop :=
  i.repositoryDigest = b.repositoryDigest ∧ i.targetRef = b.targetRef ∧ i.baseCommit = b.commit ∧ i.baseTree = b.tree ∧
    i.candidateDigest = b.candidateDigest ∧ i.protectionEvidenceDigest = b.protectionEvidenceDigest ∧
    i.controllerConfigDigest = b.controllerConfigDigest ∧ i.evidenceManifestDigest = b.evidenceManifestDigest ∧
    i.publicationEvidenceDigest = b.sourceProvenanceDigest

/-- `_validate_publication_binding`. -/
def publicationBound (p : Publication) (i : Intent C.toCanon) (b : PromotionBundle) : Prop :=
  p.repositoryDigest = i.repositoryDigest ∧ p.baseCommit = i.baseCommit ∧ p.baseTree = i.baseTree ∧
    p.candidateDigest = i.candidateDigest ∧ p.candidateRef = i.candidateRef ∧ p.candidateCommit = i.candidateCommit ∧
    p.candidateTree = i.candidateTree ∧ p.publicationEvidenceDigest = i.publicationEvidenceDigest ∧
    p.publicationEvidenceDigest = b.sourceProvenanceDigest ∧ p.controllerPublisherIdentity = b.controllerIdentity

/-- `_validate_provider_binding`; an observation is of an open pull request. -/
def observationBound (o : Observation) (i : Intent C.toCanon) : Prop :=
  (o.repositoryDigest = i.repositoryDigest ∧ o.pullRequestNumber = i.pullRequestNumber ∧
    o.pullRequestUrl = i.pullRequestUrl ∧ o.candidateRepositoryDigest = i.repositoryDigest ∧
    o.targetRepositoryDigest = i.repositoryDigest) ∧
  (o.baseRef = i.targetRef ∧ o.baseCommit = i.baseCommit ∧ o.baseTree = i.baseTree ∧ o.headRef = i.candidateRef ∧
    o.headCommit = i.candidateCommit ∧ o.candidateTree = i.candidateTree) ∧
  (o.syntheticMergeCommit = i.syntheticMergeCommit ∧ o.syntheticMergeTree = i.syntheticMergeTree ∧
    o.protectionEvidenceDigest = i.protectionEvidenceDigest ∧
    o.checkEvidenceManifestDigest = i.checkEvidenceManifestDigest) ∧
  o.providerIdentity = i.providerIdentity ∧ o.providerApiVersion = i.providerApiVersion

/-- The first half of `_validate_reconciliation_binding`. -/
def reconciliationBound (r : Reconciliation C.toCanon) (i : Intent C.toCanon) : Prop :=
  r.repositoryDigest = i.repositoryDigest ∧ r.pullRequestNumber = i.pullRequestNumber ∧
    r.pullRequestUrl = i.pullRequestUrl ∧ r.providerIdentity = i.providerIdentity ∧
    r.providerApiVersion = i.providerApiVersion ∧ r.targetRef = i.targetRef ∧
    r.protectionEvidenceDigest = i.protectionEvidenceDigest

/-- The second half. -/
def receiptBound (b : PackageBody C.toCanon) : Prop :=
  (b.receipt.operationId = b.intent.operationId ∧ b.receipt.intentDigest = b.intentDigest ∧
    b.receipt.bundleDigest = b.bundleDigest ∧ b.receipt.expectedTargetRef = b.intent.targetRef ∧
    b.receipt.expectedCandidateCommit = b.intent.candidateCommit ∧
    b.receipt.expectedCandidateTree = b.intent.candidateTree ∧ b.receipt.expectedBaseCommit = b.intent.baseCommit ∧
    b.receipt.expectedProtectionEvidenceDigest = b.intent.protectionEvidenceDigest ∧
    b.receipt.expectedProviderIdentity = b.intent.providerIdentity ∧
    b.receipt.expectedProviderApiVersion = b.intent.providerApiVersion) ∧
  (b.receipt.observedTargetRef = b.intent.targetRef ∧ b.receipt.observedBaseCommit = b.intent.baseCommit ∧
    b.receipt.observedProtectionEvidenceDigest = b.intent.protectionEvidenceDigest ∧
    b.receipt.observedProviderIdentity = b.intent.providerIdentity ∧
    b.receipt.observedProviderApiVersion = b.intent.providerApiVersion) ∧
  (b.receipt.outcome.success = true → b.receipt.observedHeadTree = some b.intent.candidateTree ∧
    b.receipt.observedHeadCommit = some b.reconciliation.targetHeadCommit)

instance (i : Intent C.toCanon) (b : PromotionBundle) : Decidable (bundleBound C i b) := inferInstanceAs (Decidable (_ ∧ _))

instance (p : Publication) (i : Intent C.toCanon) (b : PromotionBundle) : Decidable (publicationBound C p i b) :=
  inferInstanceAs (Decidable (_ ∧ _))

instance (o : Observation) (i : Intent C.toCanon) : Decidable (observationBound C o i) := inferInstanceAs (Decidable (_ ∧ _))

instance (r : Reconciliation C.toCanon) (i : Intent C.toCanon) : Decidable (reconciliationBound C r i) :=
  inferInstanceAs (Decidable (_ ∧ _))

instance (b : PackageBody C.toCanon) : Decidable (receiptBound C b) := inferInstanceAs (Decidable (_ ∧ _))

/-- The reference under which the lease evidence of a promotion is kept. -/
def leaseReference (l : Lease) : ArtifactRef :=
  ⟨(C.leaseEvidence l).digest, (C.leaseEvidence l).size, "application/vnd.avo.integration-promotion+json",
    "promotion-lease-evidence"⟩

/-- `validate_package`. -/
@[mk_iff]
structure PackageBody.Valid (b : PackageBody C.toCanon) : Prop where
  bundle : b.bundleDigest = C.bundle b.bundle
  digests : b.intentDigest = b.intent.digest ∧ b.receiptDigest = b.receipt.digest
  operation : b.intent.operationId = b.receipt.operationId ∧ b.intent.operationId = b.report.operationId
  bundles : b.intent.bundleDigest = b.bundleDigest ∧ b.receipt.bundleDigest = b.bundleDigest
  intent : b.receipt.intentDigest = b.intentDigest
  report : b.report.intentDigest = some b.intentDigest ∧ b.report.receiptDigest = some b.receiptDigest ∧
    b.report.outcome = b.receipt.outcome
  reconciled : b.receipt.observationDigest = b.reconciliation.digest
  marker : b.campaignMarkerDigest = C.marker (markerOf b.intent)
  uniqueDigests : (b.evidenceArtifacts.map (·.digest)).Nodup
  uniqueRoles : (b.evidenceArtifacts.map (·.role)).Nodup
  evidence : sameSet (b.evidenceArtifacts.map (·.digest)) b.bundle.evidenceDigests
  publicationEvidence : b.publication.publicationEvidenceDigest ∈ b.evidenceArtifacts.map (·.digest)
  leaseArtifact : b.leaseEvidenceArtifact = leaseReference C b.leaseEvidence.toLease
  lease : b.leaseEvidence.operationId = b.intent.operationId ∧
    b.leaseEvidence.repositoryDigest = b.intent.repositoryDigest ∧ b.leaseEvidence.targetRef = b.intent.targetRef ∧
    b.leaseEvidence.identity = b.intent.controllerLeaseIdentity ∧
    b.leaseEvidence.toLease.digest C.toCanon = b.intent.controllerLeaseDigest ∧
    b.leaseEvidence.acquiredAt < b.leaseEvidence.expiresAt
  bundled : bundleBound C b.intent b.bundle
  published : publicationBound C b.publication b.intent b.bundle
  observed : observationBound C b.observation.toObservation b.intent
  reconciliation : reconciliationBound C b.reconciliation b.intent
  receipt : receiptBound C b
  main : C.gitObject b.mainBeforeCommit = true ∧ C.gitObject b.mainAfterCommit = true ∧
    b.mainBeforeCommit = b.mainAfterCommit
  applied : b.receipt.outcome.success = true → Promotion.Service.exact b.reconciliation b.intent
  merged : b.receipt.outcome = .applied → b.mergeResult.outcome = .applied
  ambiguous : b.receipt.outcome = .alreadyApplied → b.mergeResult.outcome = .ambiguous
  result : b.receipt.outcome = .applied → b.mergeResult.resultCommit = some b.reconciliation.targetHeadCommit ∧
    b.mergeResult.resultTree = some b.reconciliation.targetHeadTree ∧
    b.mergeResult.firstParentCommit = some b.reconciliation.targetFirstParent ∧
    b.receipt.appliedResultCommit = b.mergeResult.resultCommit ∧ b.receipt.appliedResultTree = b.mergeResult.resultTree ∧
    b.receipt.appliedResultParentCommit = b.mergeResult.firstParentCommit
  refused : b.receipt.outcome.success = false → b.mergeResult.outcome ≠ .applied

set_option synthInstance.maxSize 400 in
instance (b : PackageBody C.toCanon) : Decidable (b.Valid C) := decidable_of_iff _ (PackageBody.valid_iff C b).symm

/-- `IntegrationCampaignEvidencePackage`. -/
structure Package extends PackageBody C.toCanon where
  valid : toPackageBody.Valid C

instance : DecidableEq (Package C) := fun p q =>
  decidable_of_iff (p.toPackageBody = q.toPackageBody) ⟨fun h => by cases p; cases q; cases h; rfl, fun h => h ▸ rfl⟩

end Records

end AvoCorrelate.Campaign
