import AvoCorrelate.Graduation.Evidence
import AvoCorrelate.Graduation.Coordinator
import AvoCorrelate.Lib.Parts
/-!
# Records of a rollback of main

A rollback takes a graduated candidate back through the same six stages, under an
authority of its own. The validator makes `authorization_digest` of a preparation the
digest of its other fields; `canonical_digest` of the whole record, that field among
them, is another digest. `Canon` keeps both apart, as it does all documents.
-/
open AvoLib

namespace AvoCorrelate.MainRollback

open ExactCas (GitObject)
open Graduation (MainBound Stage Intent LeaseRecord StageRequest ObservationRequest QueueConfiguration Protection PullRequest
  Check Admission Issuer Executor)

variable {D : Type}

/-- `MainRollbackPreparationAuthorization`, less the digest of these fields. -/
structure Preparation (D : Type) extends MainBound D where
  operationId : D
  compositionId : D
  compositionArtifactDigest : D
  rollbackAuthorizationDigest : D
  rollbackIntentDigest : D
  packageDigest : D
  compositionDigest : D
  baseCommit : GitObject
  baseTree : GitObject
  candidateCommit : GitObject
  candidateTree : GitObject
  candidateRef : String
  leaseIdentity : String
  leaseDigest : D
  leaseEpochDigest : D
  policyEpoch : D
  authorizedAt : Instant
  deriving DecidableEq

/-- What is compared of a `MainRollbackAuthorization`. -/
structure Authorization (D : Type) where
  authorizationDigest : D
  policyEpoch : D
  controllerConfigDigest : D
  releaseIssuer : Issuer D
  expiresAt : Instant
  deriving DecidableEq

/-- What is compared of a `MainRollbackIntent`. -/
structure RollbackIntent (D : Type) extends MainBound D where
  sourceOperationId : D
  completionPackageDigest : D
  candidateRef : String
  deriving DecidableEq

/-- What is read of a `MainRollbackCompositionArtifact`. -/
structure Composition where
  candidateCommit : GitObject
  candidateTree : GitObject
  currentMainCommit : GitObject
  currentMainTree : GitObject
  deriving DecidableEq

/-- What is read of the source's `MainCompletionPackage`. -/
structure Source (D : Type) where
  operationId : D
  packageDigest : D
  attestationPackageDigest : D

/-- `MainRollbackAuthorityResult`: what `MainRollbackAuthority.prepare` returns. -/
structure Authority (D : Type) where
  operationId : D
  lease : LeaseRecord D
  composition : Composition
  authorization : Authorization D
  intent : RollbackIntent D
  preparation : Preparation D

/-- Documents that are hashed beside those of the stages. -/
inductive Doc (D : Type)
  -- without its authorization_digest, and with it
  | preparation (fields : Preparation D)
  | preparationRecord (fields : Preparation D)
  | admission (admission : Admission D)
  -- the dictionaries that the run of the admission check and its nonce are made of
  | admissionSeed (operationId : D) (pullRequestNumber : Nat) (pullRequestUrl : String) (headCommit : GitObject)
  | stageNonce (stageIdentityDigest : D)
  -- what a request's external key and its digest are made of
  | object (stage : Stage) (fields : List (String × String))
  | request (bound : MainBound D) (operationId leaseEpochDigest externalIdentity : D) (stage : Stage) (fields : List (String × String))

/-- `canonical_digest`, without collisions; `hex` is the text of a digest after its prefix. -/
structure Canon (D : Type) extends Graduation.Canon D where
  hash : Doc D → D
  hash_injective : Function.Injective hash
  hex : D → String

variable (C : Canon D)

def Canon.text (d : D) : String := "sha256:" ++ C.hex d

def Preparation.authorizationDigest (p : Preparation D) : D := C.hash (.preparation p)

/-- `canonical_digest` of the record. -/
def Preparation.digest (p : Preparation D) : D := C.hash (.preparationRecord p)

theorem Preparation.digest_ne (p q : Preparation D) : p.authorizationDigest C ≠ q.digest C :=
  fun h => nomatch C.hash_injective h

/-- `_main_rollback_candidate_ref`, and `candidate_ref_for_operation` of a rollback. -/
def rollbackCandidateRef (operationId : D) : String := "refs/heads/avo/main-rollback/" ++ C.hex operationId

/-! ## Requests -/

/-- A request with the external key that its identity is made of. -/
structure Built (D : Type) where
  request : StageRequest D
  externalKey : Graduation.ExternalKey D

/-- `StageRequest.build` for a stage of a rollback before its queue generation; `fields` are the fields of the stage. -/
def build (a : Authority D) (stage : Stage) (fields : List (String × String)) : Built D :=
  let fields := ("operation_kind", "rollback") :: fields
  let externalKey := .digest (C.hash (.object stage fields))
  let identity : Graduation.ExternalIdentity D := ⟨a.intent.toMainBound, a.operationId, stage, externalKey, none⟩
  let externalIdentity := identity.digest C.toCanon
  ⟨⟨a.intent.toMainBound, a.operationId, stage, a.lease.leaseEpochDigest,
    C.hash (.request a.intent.toMainBound a.operationId a.lease.leaseEpochDigest externalIdentity stage fields), externalIdentity,
    none, fields⟩, externalKey⟩

/-- `CandidatePublicationRequest.build`. -/
def candidateRequest (a : Authority D) : Built D :=
  build C a .candidatePublication [("candidate_ref", a.intent.candidateRef), ("candidate_commit", a.composition.candidateCommit),
    ("preparation_authorization_digest", C.text (a.preparation.authorizationDigest C))]

/-- `PullRequestCreateRequest.build`. -/
def pullRequestRequest (a : Authority D) : Built D :=
  build C a .pullRequestOpen [("candidate_ref", a.intent.candidateRef), ("candidate_commit", a.composition.candidateCommit),
    ("candidate_tree", a.composition.candidateTree), ("base_commit", a.composition.currentMainCommit),
    ("base_tree", a.composition.currentMainTree),
    ("preparation_authorization_digest", C.text (a.preparation.authorizationDigest C))]

/-- The seed of the admission check's run. -/
def admissionSeed (a : Authority D) (pr : PullRequest D) : D :=
  C.hash (.admissionSeed a.operationId pr.number pr.url pr.headCommit)

def admissionRunId (a : Authority D) (pr : PullRequest D) : String := "avo-main-admission-" ++ C.hex (admissionSeed C a pr)

/-- `main_stage_nonce` of the seed. -/
def admissionNonce (a : Authority D) (pr : PullRequest D) : String := C.text (C.hash (.stageNonce (admissionSeed C a pr)))

/-- `AdmissionIssueRequest.build`. -/
def admissionRequest (a : Authority D) (config : QueueConfiguration D) (protection : Protection D) (pr : PullRequest D) : Built D :=
  build C a .admissionCheck [("queue_configuration_digest", C.text config.queueConfigurationDigest),
    ("pull_request_number", toString pr.number), ("pull_request_head", a.composition.candidateCommit),
    ("pull_request_tree", a.composition.candidateTree), ("base_commit", a.composition.currentMainCommit),
    ("base_tree", a.composition.currentMainTree),
    ("preparation_authorization_digest", C.text (a.preparation.authorizationDigest C)),
    ("admission_run_id", admissionRunId C a pr), ("admission_nonce", admissionNonce C a pr),
    ("issuer_identity", protection.issuer.identity), ("issuer_app_id", toString protection.issuer.appId),
    ("issuer_isolation_digest", C.text protection.issuer.isolationDigest)]

/-- The admission that `_admission` builds of the pull request and its check. -/
def admissionOf (a : Authority D) (config : QueueConfiguration D) (protection : Protection D) (pr : PullRequest D) (check : Check) :
    Admission D :=
  { a.intent.toMainBound with
    operationId := a.operationId
    preparationAuthorizationDigest := a.preparation.authorizationDigest C
    packageDigest := a.intent.completionPackageDigest
    compositionDigest := a.preparation.compositionDigest
    pullRequestNumber := pr.number
    pullRequestUrl := pr.url
    baseCommit := pr.baseCommit
    baseTree := pr.baseTree
    headCommit := pr.headCommit
    headTree := pr.headTree
    admissionSha := pr.headCommit
    admissionRunId := admissionRunId C a pr
    admissionNonce := admissionNonce C a pr
    queueConfigurationDigest := config.queueConfigurationDigest
    protectionManifestDigest := protection.manifestDigest
    issuer := protection.issuer
    observedAt := check.observedAt }

end AvoCorrelate.MainRollback
