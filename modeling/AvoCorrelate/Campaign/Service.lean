import AvoCorrelate.Campaign.Journal
import Mathlib.Data.List.Sort
import Mathlib.Data.List.Dedup
/-!
# The campaign service

`run` prepares a campaign around its pull request, records the completion plan, promotes
and finalizes. `finalize` works from durable records alone: it takes the final evidence
from its record, or from the provider once, and records the package. `resume` takes up a
campaign whose intent is durable.

What the promotion asks its intent factory is answered by the template of the plan.
-/
open AvoLib

namespace AvoCorrelate.Campaign

open ExactCas (Sha256Digest GitObject)
open Promotion (Publication Intent IntentBody MergeResult Receipt Reconciliation Report Outcome)

variable {C : Canon}

/-- What the service is built with: the limits, and the domains of its trusted policy. -/
structure Config where
  maxPackageBytes : Nat
  leaseSeconds : Int
  proposerDomains : List (String × String)
  reviewerDomains : List (String × String)

/-- `IntegrationCampaignResult`. -/
structure CampaignResult (C : Canon) where
  report : Report
  package : Option (Package C)

/-! ## The provider after the merge -/

namespace Provider

/-- A merge result with these fields, when its validator accepts them. -/
def mergeResult (m : MergeResult) : Code C MergeResult := do
  Prog.require (m.Valid C.toCanon) (.error "invalid merge result")
  return m

/-- The merge result that goes with a report, as far as the reconciliation bears it out. -/
def mergeResultOf (i : Intent C.toCanon) (report : Report) (r : Reconciliation C.toCanon) : Code C MergeResult :=
  match report.outcome with
  | .applied => do
    Prog.require (r.merged = true) (.error "applied report has no merged provider reconciliation")
    Prog.require (r.mergeCommit = some r.targetHeadCommit ∧ r.targetHeadTree = i.candidateTree ∧
      r.targetFirstParent = i.baseCommit) (.error "applied report has inexact provider result")
    mergeResult ⟨.applied, some r.targetHeadCommit, some r.targetHeadTree, some r.targetFirstParent, none, none⟩
  | .alreadyApplied =>
    mergeResult ⟨.ambiguous, none, none, none, none, some "provider reconciliation indicates an already-applied result"⟩
  | outcome => mergeResult ⟨.rejected, none, none, none, none, some ("campaign report outcome was " ++ outcome.value)⟩

/-- `final_evidence`: one reconciliation, and the merge result that goes with it. -/
def finalEvidence (i : Intent C.toCanon) (report : Report) (o : Promotion.Observation) :
    Code C (Reconciliation C.toCanon × MergeResult) := do
  Prog.require (report.operationId = i.operationId) (.error "campaign report operation does not match intent")
  Prog.require (o.pullRequestNumber = i.pullRequestNumber) (.error "campaign observation does not match intent")
  let r ← (.port (.inl (.reconcile i)) orRaise : Code C (Reconciliation C.toCanon))
  let m ← mergeResultOf i report r
  return (r, m)

end Provider

namespace Service

/-! ## The checks of a run -/

def requiredGates : List String := ["trusted_ci", "private_evaluation", "provenance", "integration_soak"]

def validateIntake (request : Request) (p : Publication) (intake : DryRunInput) : Code C Unit := do
  Prog.require (intake.candidateId = request.candidateId ∧ intake.proposerId = request.proposerId ∧
    intake.sourceProvenanceDigest = request.sourceProvenanceDigest ∧
    request.sourceProvenanceDigest = p.publicationEvidenceDigest)
    (.prerequisite "candidate intake provenance is not bound to controller publication")
  Prog.require (intake.gateAttestations = [] ∧ intake.reviewerAttestations = [] ∧ intake.rollbackAttestation = none)
    (.prerequisite "candidate intake cannot supply policy or gate evidence")
  Prog.require (intake.evidenceDigests = [intake.sourceProvenanceDigest])
    (.prerequisite "candidate intake evidence manifest is not source-only")

def validateOpened (o : Opened) (p : Publication) : Code C Unit :=
  Prog.require (0 < o.pullRequestNumber ∧ o.pullRequestUrl.startsWith "https://" = true ∧ o.baseCommit = p.baseCommit ∧
    o.baseTree = p.baseTree ∧ o.openIdentity = C.openIdentity (openIdentityOf p o))
    (.prerequisite "opened PR is not bound to publication base")

def validateDiscovery (d : Discovery C.toCanon) (o : Opened) (p : Publication) : Code C Unit :=
  Prog.require (d.openIdentity = o.openIdentity ∧ d.observation.pullRequestNumber = o.pullRequestNumber ∧
    d.observation.pullRequestUrl = o.pullRequestUrl ∧ d.observation.baseCommit = p.baseCommit ∧
    d.observation.baseTree = p.baseTree ∧ d.observation.headRef = p.candidateRef ∧
    d.observation.headCommit = p.candidateCommit ∧ d.observation.candidateTree = p.candidateTree ∧
    d.observation.baseRef = o.targetRef)
    (.prerequisite "provider discovery is not publication-bound")

def reviewerDomains (config : Config) (intake : DryRunInput) : List ReviewerAttestation → Code C (List String)
  | [] => .done []
  | r :: rest => do
    Prog.require (r.approved = true ∧ r.candidateDigest = intake.candidateDigest)
      (.prerequisite "independent review did not approve")
    let domain ← Prog.ofOption ((config.reviewerDomains.lookup r.reviewerId).filter
      fun d => some d ≠ config.proposerDomains.lookup intake.proposerId)
      (.prerequisite "reviewer domain is not independent")
    let domains ← reviewerDomains config intake rest
    return domain :: domains

def validateQuality (config : Config) (intake : DryRunInput) (q : QualityEvidence) (d : Discovery C.toCanon) : Code C Unit := do
  let names := q.gateAttestations.map (·.gateName)
  Prog.require ((∀ n ∈ names, n ∈ requiredGates) ∧ (∀ n ∈ requiredGates, n ∈ names) ∧ names.Nodup)
    (.prerequisite "ordinary campaign gates are incomplete")
  Prog.require (∀ g ∈ q.gateAttestations, g.passed = true ∧ g.candidateDigest = intake.candidateDigest)
    (.prerequisite "ordinary campaign gate failed")
  Prog.require (q.syntheticMergeCommit = d.observation.syntheticMergeCommit ∧
    q.syntheticMergeTree = d.observation.syntheticMergeTree ∧
    q.protectionEvidenceDigest = d.observation.protectionEvidenceDigest ∧
    q.checkEvidenceManifestDigest = d.observation.checkEvidenceManifestDigest)
    (.prerequisite "quality evidence is not bound to provider discovery")
  let trustedCi := q.gateAttestations.find? fun g => g.gateName = "trusted_ci"
  Prog.require (trustedCi.map (·.evidenceDigest) = some q.checkEvidenceManifestDigest)
    (.prerequisite "trusted CI attestation is not the discovered check manifest")
  Prog.require (2 ≤ q.reviewerAttestations.length ∧ (q.reviewerAttestations.map (·.reviewerId)).Nodup)
    (.prerequisite "two independent reviewers are required")
  let domains ← reviewerDomains config intake q.reviewerAttestations
  Prog.require (2 ≤ domains.dedup.length) (.prerequisite "reviewers must represent two domains")
  Prog.require (q.rollbackAttestation.available = true ∧ q.rollbackAttestation.candidateDigest = intake.candidateDigest)
    (.prerequisite "rollback evidence is unavailable")
  Prog.require (sameSet (q.evidenceArtifacts.map (·.digest)) (q.gateAttestations.map (·.evidenceDigest) ++
    q.reviewerAttestations.map (·.evidenceDigest) ++ [q.rollbackAttestation.evidenceDigest]))
    (.prerequisite "quality artifacts do not match attestations")

def validateQualityBase (q : QualityEvidence) (baseDigest : Sha256Digest) : Code C Unit :=
  Prog.require ((∀ g ∈ q.gateAttestations, g.baseDigest = baseDigest) ∧
    (∀ r ∈ q.reviewerAttestations, r.baseDigest = baseDigest) ∧ q.rollbackAttestation.baseDigest = baseDigest)
    (.prerequisite "quality evidence is bound to a different integration base")

def validateArtifacts (references : List ArtifactRef) (digests : List Sha256Digest) : Code C Unit :=
  Prog.require (sameSet (references.map (·.digest)) digests) (.prerequisite "evidence resolver returned incomplete artifacts")

/-- What the last check of `_validate_preparation` compares. -/
def intentBound (prepared : Preparation C.toCanon) (d : Discovery C.toCanon) : Prop :=
  prepared.observation.pullRequestNumber = prepared.template.pullRequestNumber ∧
    prepared.observation.pullRequestUrl = prepared.template.pullRequestUrl ∧
    prepared.observation.headRef = prepared.template.candidateRef ∧
    prepared.observation.headCommit = prepared.template.candidateCommit ∧
    prepared.observation.candidateTree = prepared.template.candidateTree ∧
    prepared.observation.baseRef = prepared.template.targetRef ∧
    prepared.observation.baseCommit = prepared.template.baseCommit ∧
    prepared.observation.syntheticMergeTree = prepared.template.syntheticMergeTree ∧
    prepared.observation.protectionEvidenceDigest = prepared.template.protectionEvidenceDigest ∧
    prepared.observation.checkEvidenceManifestDigest = prepared.template.checkEvidenceManifestDigest ∧
    prepared.observation.pullRequestNumber = d.observation.pullRequestNumber

instance (prepared : Preparation C.toCanon) (d : Discovery C.toCanon) : Decidable (intentBound prepared d) :=
  inferInstanceAs (Decidable (_ ∧ _))

def validatePreparation (prepared : Preparation C.toCanon) (p : Publication) (dryRun : DryRunResult)
    (d : Discovery C.toCanon) : Code C Unit := do
  Prog.require (prepared.openIdentity = d.openIdentity ∧ prepared.template.bundleDigest = dryRun.bundleDigest ∧
    prepared.template.candidateDigest = p.candidateDigest ∧ prepared.template.baseCommit = p.baseCommit ∧
    prepared.template.baseTree = p.baseTree ∧ prepared.template.candidateRef = p.candidateRef ∧
    prepared.template.candidateCommit = p.candidateCommit ∧ prepared.template.candidateTree = p.candidateTree)
    (.prerequisite "provider binding is not bound to publication and bundle")
  Prog.require (intentBound prepared d) (.prerequisite "provider observation is not intent-bound")

/-- The marker checks of `run`. -/
def validateMarker (prepared : Preparation C.toCanon) : Code C Unit := do
  Prog.require (prepared.markerVerified = true) (.prerequisite "provider campaign marker was not verified")
  Prog.require (∀ d ∈ prepared.markerDigest, C.marker (markerOf (prepared.template.bindLease "marker-check" 0)) = d)
    (.prerequisite "provider campaign marker does not match operation identity")

/-! ## The promotion -/

/-- What `intent_factory` is in a campaign. -/
def factory (template : Template C.toCanon) : (p : Promotion.Port C.toCanon) → Option p.Answer
  | .intentFactory lease => some (.returned (template.bindLease lease.identity (lease.digest C.toCanon)))
  | _ => none

def promoteCall (config : Config) (plan : Plan C) (operationId : Sha256Digest) : Promotion.Service.PromoteCall :=
  ⟨plan.bundle.toBundle, plan.publication, plan.bundleDigest, operationId, config.leaseSeconds⟩

def promote (config : Config) (plan : Plan C) (operationId : Sha256Digest) : Code C Report :=
  ((Promotion.Service.promote (promoteCall config plan operationId)).answered (factory plan.preparation.template)).within
    Exc.ofPromotion

/-! ## Finalizing -/

def readIntent (operationId : Sha256Digest) : Code C (Intent C.toCanon) := do
  let found ← ofPromotion (Promotion.Journal.readIntent operationId)
  Prog.ofOption found (.unsafeState "promotion intent was not durably recorded")

def readReceipt (operationId : Sha256Digest) : Code C (Receipt C.toCanon) := do
  let found ← ofPromotion (Promotion.Journal.readReceipt operationId)
  Prog.ofOption found (.unsafeState "promotion receipt was not durably recorded")

def assertPlanIntentReceipt (plan : Plan C) (i : Intent C.toCanon) (r : Receipt C.toCanon) : Code C Unit := do
  Prog.require (i = plan.preparation.template.bindLease i.controllerLeaseIdentity i.controllerLeaseDigest)
    (.unsafeState "durable intent conflicts with completion plan")
  Prog.require (r.operationId = plan.operationId ∧ r.intentDigest = i.digest)
    (.unsafeState "durable receipt conflicts with completion plan")

def assertPackagePlan (package : Package C) (plan : Plan C) : Code C Unit :=
  Prog.require (package.intent.operationId = plan.operationId ∧ package.bundleDigest = plan.bundleDigest ∧
    package.publication = plan.publication ∧
    sameSet (package.evidenceArtifacts.map (·.digest)) (plan.evidenceArtifacts.map (·.digest)) ∧
    package.mainBeforeCommit = plan.mainBeforeCommit)
    (.unsafeState "durable package conflicts with completion plan")

def releaseRecoveredLease (i : Intent C.toCanon) : Code C Unit := do
  let released ← (ofPromotion (Promotion.Journal.releaseMatchingLease i.repositoryDigest i.targetRef i.operationId
    i.controllerLeaseIdentity i.controllerLeaseDigest) : Code C Bool).attempt
  match released with
  | .ok _ => return ()
  | .error _ => .raise (.unsafeState "recovered lease could not be released")

def recoveredReport (i : Intent C.toCanon) (r : Receipt C.toCanon) (operationId : Sha256Digest) : Report :=
  ⟨operationId, r.outcome, some i.digest, some r.digest, ["recovered", "receipt_durable"],
    (r.error.filter (· ≠ "")).toList⟩

def settleFinalEvidence (plan : Plan C) (operationId : Sha256Digest) (i : Intent C.toCanon) (report : Report) :
    Code C (Reconciliation C.toCanon × MergeResult) := do
  let durable ← Journal.readFinalEvidence operationId
  match durable with
  | none => do
    let final ← Provider.finalEvidence i report plan.preparation.observation.toObservation
    Journal.recordFinalEvidence ⟨operationId, final.1, final.2⟩
    return final
  | some final => do
    Prog.require (final.operationId = operationId) (.unsafeState "durable final evidence operation mismatch")
    return (final.reconciliation, final.mergeResult)

def packageOf (plan : Plan C) (i : Intent C.toCanon) (r : Receipt C.toCanon) (evidence : Promotion.LeaseEvidence C.toCanon)
    (report : Report) (final : Reconciliation C.toCanon × MergeResult) (mainAfter : GitObject) : PackageBody C.toCanon where
  bundle := plan.bundle
  publication := plan.publication
  evidenceArtifacts := plan.evidenceArtifacts
  intent := i
  observation := plan.preparation.observation
  mergeResult := final.2
  reconciliation := final.1
  receipt := r
  report := report
  bundleDigest := plan.bundleDigest
  intentDigest := i.digest
  receiptDigest := r.digest
  campaignMarkerDigest := C.marker (markerOf i)
  leaseEvidence := evidence
  leaseEvidenceArtifact := leaseReference C evidence.toLease
  mainBeforeCommit := plan.mainBeforeCommit
  mainAfterCommit := mainAfter

/-- The package is built, written by the artifact writer and recorded. -/
def recordPackage (config : Config) (b : PackageBody C.toCanon) : Code C (Package C) := do
  let package ← Prog.ofOption (if h : b.Valid C then some (⟨b, h⟩ : Package C) else none)
    (.error "invalid campaign package")
  Prog.require ((C.package package.toPackageBody).size ≤ config.maxPackageBytes) (.error "artifact exceeds the package limit")
  let written ← (ask (.writePackage package) orRaise : Code C Sha256Digest)
  Prog.require (written = (C.package package.toPackageBody).digest) (.unsafeState "campaign package artifact digest mismatch")
  Journal.recordPackage package
  return package

/-- The end of `finalize`: main is where it was, and the package is recorded. -/
def closePackage (config : Config) (plan : Plan C) (operationId : Sha256Digest) (i : Intent C.toCanon) (r : Receipt C.toCanon)
    (evidence : Promotion.LeaseEvidence C.toCanon) (final : Reconciliation C.toCanon × MergeResult) :
    Code C (CampaignResult C) := do
  let mainAfter ← (ask .headCommit orRaise : Code C GitObject)
  Prog.require (mainAfter = plan.mainBeforeCommit) (.unsafeState "main changed during integration campaign")
  let package ← recordPackage config (packageOf plan i r evidence (recoveredReport i r operationId) final mainAfter)
  releaseRecoveredLease i
  return ⟨package.report, some package⟩

/-- From the durable records to a durable package. -/
def completePackage (config : Config) (plan : Plan C) (operationId : Sha256Digest) : Code C (CampaignResult C) := do
  let i ← readIntent operationId
  let r ← readReceipt operationId
  let evidence ← ofPromotion (Promotion.Journal.readLeaseEvidence operationId)
  let evidence ← Prog.ofOption evidence (.unsafeState "promotion lease evidence is missing")
  assertPlanIntentReceipt plan i r
  Prog.require (r.outcome.success = true)
    (.unsafeState "completion requires an applied or already-applied receipt")
  let final ← settleFinalEvidence plan operationId i (recoveredReport i r operationId)
  closePackage config plan operationId i r evidence final

/-- The body of `finalize`. -/
def finalizeRecords (config : Config) (operationId : Sha256Digest) : Code C (CampaignResult C) := do
  let planned ← Journal.readPlan operationId
  let plan ← Prog.ofOption planned (.unsafeState "campaign completion plan is missing")
  Prog.require (plan.operationId = operationId) (.unsafeState "campaign completion plan operation mismatch")
  let existing ← Journal.readPackage operationId
  match existing with
  | some package => do
    assertPackagePlan package plan
    releaseRecoveredLease package.intent
    return ⟨package.report, some package⟩
  | none => completePackage config plan operationId

/-- `finalize`; whatever is raised is unsafe. -/
def finalize (config : Config) (operationId : Sha256Digest) : Code C (CampaignResult C) := do
  let finished ← (finalizeRecords config operationId).attempt
  match finished with
  | .ok result => return result
  | .error e => .raise (.unsafeState e.message)

def resume (config : Config) (operationId : Sha256Digest) : Code C (CampaignResult C) := do
  let planned ← Journal.readPlan operationId
  let plan ← Prog.ofOption planned (.unsafeState "campaign completion plan is missing")
  let intent ← ofPromotion (Promotion.Journal.readIntent operationId)
  Prog.require (intent.isSome = true)
    (.unsafeState "campaign plan has no durable promotion intent; manual reconciliation required")
  let receipt ← ofPromotion (Promotion.Journal.readReceipt operationId)
  match receipt with
  | some _ => finalize config operationId
  | none => do
    let report ← promote config plan operationId
    if report.outcome.success then finalize config operationId else return ⟨report, none⟩

/-! ## Running -/

/-- The digests that the dry run is given: of the source, and of every attestation. -/
def evidenceDigestsOf (intake : DryRunInput) (q : QualityEvidence) : List Sha256Digest :=
  (intake.sourceProvenanceDigest :: q.gateAttestations.map (·.evidenceDigest) ++
    q.reviewerAttestations.map (·.evidenceDigest) ++ [q.rollbackAttestation.evidenceDigest]).dedup.insertionSort (· ≤ ·)

def promotionInput (intake : DryRunInput) (q : QualityEvidence) : DryRunInput :=
  { intake with
    gateAttestations := q.gateAttestations
    reviewerAttestations := q.reviewerAttestations
    rollbackAttestation := some q.rollbackAttestation
    evidenceDigests := evidenceDigestsOf intake q }

def completionPlan (p : Publication) (dryRun : DryRunResult) (evidence : List ArtifactRef) (opened : Opened)
    (d : Discovery C.toCanon) (prepared : Preparation C.toCanon) : PlanBody C.toCanon :=
  ⟨prepared.template.operationId, dryRun.bundle, p, evidence, dryRun.bundleDigest, opened, d, prepared, d.mainBeforeCommit⟩

/-- Up to the trusted quality evidence. -/
def gather (config : Config) (request : Request) (p : Publication) :
    Code C (Opened × Discovery C.toCanon × DryRunInput × QualityEvidence) := do
  let mainBefore ← (ask .headCommit orRaise : Code C GitObject)
  let intake ← (ask (.collect request) orRaise : Code C DryRunInput)
  validateIntake request p intake
  let opened ← (ask (.openOrReconcile p) orRaise : Code C Opened)
  validateOpened opened p
  let discovery ← (ask (.discover opened p) orRaise : Code C (Discovery C.toCanon))
  validateDiscovery discovery opened p
  Prog.require (discovery.mainBeforeCommit = mainBefore)
    (.prerequisite "provider main observation changed during preparation")
  let quality ← (ask (.evaluate request intake discovery) orRaise : Code C QualityEvidence)
  validateQuality config intake quality discovery
  return (opened, discovery, intake, quality)

/-- From the quality evidence to the completion plan. -/
def plan (request : Request) (p : Publication) (opened : Opened) (discovery : Discovery C.toCanon) (intake : DryRunInput)
    (quality : QualityEvidence) : Code C (Plan C) := do
  let dryRun ← (ask (.dryRun request (promotionInput intake quality)) orRaise : Code C DryRunResult)
  validateQualityBase quality dryRun.bundle.sourceTreeDigest
  let verified ← (ask (.verifyPublication p dryRun.bundle) orRaise : Code C Bool)
  Prog.require (verified = true) (.prerequisite "candidate publication verifier rejected evidence")
  let evidence ← (ask (.resolve dryRun.bundle.evidenceDigests) orRaise : Code C (List ArtifactRef))
  validateArtifacts evidence dryRun.bundle.evidenceDigests
  let prepared ← (ask (.bind p dryRun.bundle dryRun.bundleDigest opened discovery) orRaise : Code C (Preparation C.toCanon))
  validatePreparation prepared p dryRun discovery
  validateMarker prepared
  let body := completionPlan p dryRun evidence opened discovery prepared
  Prog.ofOption (if h : body.Valid C then some (⟨body, h⟩ : Plan C) else none) (.error "invalid completion plan")

def run (config : Config) (request : Request) (p : Publication) : Code C (CampaignResult C) := do
  let (opened, discovery, intake, quality) ← gather config request p
  let plan ← plan request p opened discovery intake quality
  Journal.recordPlan plan
  let report ← promote config plan plan.operationId
  if report.outcome.success then finalize config plan.operationId else return ⟨report, none⟩

end Service

/-! ## Calls -/

inductive Call
  | run (request : Request) (publication : Publication)
  | finalize (operationId : Sha256Digest)
  | resume (operationId : Sha256Digest)

def program (C : Canon) (config : Config) : Call → Code C (CampaignResult C)
  | .run request p => Service.run config request p
  | .finalize op => Service.finalize config op
  | .resume op => Service.resume config op

end AvoCorrelate.Campaign
