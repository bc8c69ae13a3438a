import AvoCorrelate.Graduation.Documents
/-!
# Evidence around the stages

What the provider is asked about the queue, the protection of the main ref, the pull
request and its checks, and the records that are made of the answers. Graduation and
rollback use the same ones. Literal fields are left out.
-/
namespace AvoCorrelate.Graduation

open ExactCas (MainRef GitObject)

variable {D : Type}

def validationAppId : Nat := 15368

/-- The issuer of the release check. -/
structure Issuer (D : Type) where
  identity : String
  appId : Nat
  isolationDigest : D
  deriving DecidableEq

/-- `MainQueueConfigurationObservation`. -/
structure QueueConfiguration (D : Type) extends MainBound D where
  operationId : D
  queueConfigurationDigest : D
  expectedBaseCommit : GitObject
  expectedBaseTree : GitObject
  protectionManifestDigest : D
  protectionEpoch : D
  providerIdentity : String
  providerApiVersion : String
  issuer : Issuer D
  observedAt : Instant
  deriving DecidableEq

/-- `MainProtectionManifest`. -/
structure Protection (D : Type) extends MainBound D where
  operationId : D
  manifestDigest : D
  providerIdentity : String
  providerApiVersion : String
  issuer : Issuer D
  protectionEpoch : D
  observedAt : Instant
  deriving DecidableEq

/-- `MainPullRequestObservation`. -/
structure PullRequest (D : Type) where
  repositoryDigest : D
  number : Nat
  url : String
  baseRef : String
  baseCommit : GitObject
  baseTree : GitObject
  headRef : String
  headCommit : GitObject
  headTree : GitObject
  state : String
  draft : Bool
  deriving DecidableEq

/-- The status and the conclusion of a check. -/
inductive CheckState
  | success | neutral | failure | pending
  deriving DecidableEq

/-- `MainCheckObservation`: one that is not completed is pending. -/
structure Check where
  context : String
  appId : Nat
  sha : GitObject
  state : CheckState
  runId : String
  nonce : String
  observedAt : Instant
  deriving DecidableEq

/-- `MainQueueAdmissionObservation`. -/
structure Admission (D : Type) extends MainBound D where
  operationId : D
  preparationAuthorizationDigest : D
  packageDigest : D
  compositionDigest : D
  pullRequestNumber : Nat
  pullRequestUrl : String
  baseCommit : GitObject
  baseTree : GitObject
  headCommit : GitObject
  headTree : GitObject
  admissionSha : GitObject
  admissionRunId : String
  admissionNonce : String
  queueConfigurationDigest : D
  protectionManifestDigest : D
  issuer : Issuer D
  observedAt : Instant
  deriving DecidableEq

/-- `validate_admission`. -/
def Admission.Valid (a : Admission D) : Prop :=
  a.admissionSha = a.headCommit ∧ a.issuer.appId ≠ validationAppId ∧ a.baseCommit ≠ a.headCommit ∧
    a.pullRequestUrl.startsWith "https://" = true

instance (a : Admission D) : Decidable a.Valid := inferInstanceAs (Decidable (_ ∧ _))

end AvoCorrelate.Graduation
