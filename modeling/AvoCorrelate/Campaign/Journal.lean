import AvoCorrelate.Campaign.Records
import AvoCorrelate.Lib.Parts
/-!
# The completion journal of a campaign

Plan, final evidence and package each have one index file for an operation, created
once: the file is there before its content is. A package is verified with the artifacts
that it refers to, when it is recorded and whenever it is read.

A campaign runs over the files and ports of the promotion and its own. Its own ports
(intake, quality gates, the provider up to the merge, the object store, the head of
main) give any answer.
-/
open AvoLib

namespace AvoCorrelate.Campaign

open ExactCas (Sha256Digest GitObject)
open Promotion (Publication Answer)

/-! ## What a campaign is given -/

/-- `IntegrationCampaignRequest`, without the candidate's files. -/
structure Request where
  candidateId : String
  proposerId : String
  sourceProvenanceDigest : Sha256Digest
  deriving DecidableEq

structure GateAttestation where
  gateName : String
  candidateDigest : Sha256Digest
  baseDigest : Sha256Digest
  evidenceDigest : Sha256Digest
  passed : Bool
  deriving DecidableEq

structure ReviewerAttestation where
  reviewerId : String
  candidateDigest : Sha256Digest
  baseDigest : Sha256Digest
  evidenceDigest : Sha256Digest
  approved : Bool
  deriving DecidableEq

structure RollbackAttestation where
  candidateDigest : Sha256Digest
  baseDigest : Sha256Digest
  evidenceDigest : Sha256Digest
  available : Bool
  deriving DecidableEq

/-- `PromotionDryRunInput`, without the fields that nothing here reads. -/
structure DryRunInput where
  candidateId : String
  proposerId : String
  candidateDigest : Sha256Digest
  gateAttestations : List GateAttestation
  reviewerAttestations : List ReviewerAttestation
  rollbackAttestation : Option RollbackAttestation
  sourceProvenanceDigest : Sha256Digest
  evidenceDigests : List Sha256Digest
  deriving DecidableEq

/-- `CampaignQualityEvidence`. -/
structure QualityEvidence where
  gateAttestations : List GateAttestation
  reviewerAttestations : List ReviewerAttestation
  rollbackAttestation : RollbackAttestation
  evidenceArtifacts : List ArtifactRef
  syntheticMergeCommit : GitObject
  syntheticMergeTree : GitObject
  protectionEvidenceDigest : Sha256Digest
  checkEvidenceManifestDigest : Sha256Digest
  deriving DecidableEq

/-- `PromotionDryRunResult`. -/
structure DryRunResult where
  bundle : PromotionBundle
  bundleDigest : Sha256Digest
  deriving DecidableEq

/-! ## Files and ports -/

/-- An index file, kept by operation. -/
inductive Key
  | plan (operationId : Sha256Digest)
  | finalEvidence (operationId : Sha256Digest)
  | package (operationId : Sha256Digest)
  deriving DecidableEq

def Key.kind : Key → String
  | .plan _ => "plan"
  | .finalEvidence _ => "final-evidence"
  | .package _ => "package"

def Key.operationId : Key → Sha256Digest
  | .plan op | .finalEvidence op | .package op => op

variable {C : Canon}

abbrev Rec (C : Canon) : Key → Type
  | .plan _ => Plan C
  | .finalEvidence _ => FinalEvidence C.toCanon
  | .package _ => Package C

instance Rec.decEq : (k : Key) → DecidableEq (Rec C k)
  | .plan _ => inferInstanceAs (DecidableEq (Plan C))
  | .finalEvidence _ => inferInstanceAs (DecidableEq (FinalEvidence C.toCanon))
  | .package _ => inferInstanceAs (DecidableEq (Package C))

/-- The operation that a record belongs to. -/
def Rec.recordId : (k : Key) → Rec C k → Sha256Digest
  | .plan _, v => v.operationId
  | .finalEvidence _, v => v.operationId
  | .package _, v => v.intent.operationId

/-- The canonical bytes of a record. -/
def Rec.encoding : (k : Key) → Rec C k → Encoding
  | .plan _, v => C.plan v.toPlanBody
  | .finalEvidence _, v => C.finalEvidence v
  | .package _, v => C.package v.toPackageBody

inductive Port (C : Canon)
  -- CampaignMainState.head_commit
  | headCommit
  -- CampaignIntakePort, CampaignQualityPort, PromotionController.dry_run
  | collect (request : Request)
  | evaluate (request : Request) (intake : DryRunInput) (discovery : Discovery C.toCanon)
  | dryRun (request : Request) (input : DryRunInput)
  -- CampaignProviderPort up to the promotion
  | openOrReconcile (publication : Publication)
  | discover (opened : Opened) (publication : Publication)
  | bind (publication : Publication) (bundle : PromotionBundle) (bundleDigest : Sha256Digest) (opened : Opened)
      (discovery : Discovery C.toCanon)
  -- CampaignPublicationVerifier, CampaignEvidenceResolver
  | verifyPublication (publication : Publication) (bundle : PromotionBundle)
  | resolve (digests : List Sha256Digest)
  -- CampaignArtifactWriter.put_bytes of a package
  | writePackage (package : Package C)
  -- the completion journal's store: put_bytes within its limit with the directory sync, read_bytes
  | install (k : Key)
  | readArtifact (reference : ArtifactRef)

abbrev Port.Answer : Port C → Type
  | .headCommit => Promotion.Answer GitObject
  | .collect _ => Promotion.Answer DryRunInput
  | .evaluate _ _ _ => Promotion.Answer QualityEvidence
  | .dryRun _ _ => Promotion.Answer DryRunResult
  | .openOrReconcile _ => Promotion.Answer Opened
  | .discover _ _ => Promotion.Answer (Discovery C.toCanon)
  | .bind _ _ _ _ _ => Promotion.Answer (Preparation C.toCanon)
  | .verifyPublication _ _ => Promotion.Answer Bool
  | .resolve _ => Promotion.Answer (List ArtifactRef)
  | .writePackage _ => Promotion.Answer Sha256Digest
  | .install _ => Promotion.Answer Unit
  | .readArtifact _ => Promotion.Answer Unit

/-! ## Programs -/

/-- What is raised: `IntegrationCampaignPrerequisiteError`,
`IntegrationCampaignUnsafeError`, or any other `ValueError`, `RuntimeError` or `OSError`. -/
inductive Exc
  | prerequisite (message : String)
  | unsafeState (message : String)
  | error (message : String)
  deriving DecidableEq

/-- `str(exc)`. -/
def Exc.message : Exc → String
  | .prerequisite m => m
  | .unsafeState m => m
  | .error m => m

def Exc.ofPromotion (e : Promotion.Exc) : Exc := .error e.message

/-- The records of the promotion and of the campaign. -/
abbrev AnyRec (C : Canon) := Both (Promotion.Rec C.toCanon) (Rec C)

/-- The answers at the ports of both. -/
abbrev AnyAnswer (C : Canon) := Both (Promotion.Port.Answer (C := C.toCanon)) (Port.Answer (C := C))

abbrev Code (C : Canon) (α : Type) := Prog (AnyRec C) (AnyAnswer C) Exc α

/-- A part of the promotion's journal. -/
def ofPromotion {α : Type} (p : Promotion.Code C.toCanon α) : Code C α := p.within Exc.ofPromotion

def orRaise {α : Type} : Promotion.Answer α → Code C α
  | .raised message => .raise (.error message)
  | .returned v => .done v

def readFile (k : Key) : Code C (Found (Rec C k)) := .read (.inr k) .done

def publishFile (k : Key) (v : Rec C k) : Code C Published := .publish (.inr k) v .done

def ask (p : Port C) (next : p.Answer → Code C α) : Code C α := .port (.inr p) next

namespace Journal

/-- `max_bytes` of the completion journal's store. -/
def maxBytes : Nat := 8 * 1024 * 1024

/-- Each artifact is there, and is canonical JSON. -/
def verifyArtifacts : List ArtifactRef → Code C Unit
  | [] => .done ()
  | reference :: rest => do
    ask (.readArtifact reference) orRaise
    Prog.require (C.canonicalJson reference.digest = true) (.error "campaign evidence artifact is missing or tampered")
    verifyArtifacts rest

def verifyPackageChildren (package : Package C) : Code C Unit := do
  ask (.readArtifact package.leaseEvidenceArtifact) orRaise
  verifyArtifacts package.evidenceArtifacts

/-- What is done to a record before it is stored or returned. -/
def verifyChildren : (k : Key) → Rec C k → Code C Unit
  | .plan _, _ => .done ()
  | .finalEvidence _, _ => .done ()
  | .package _, v => verifyPackageChildren v

def conflicting (k : Key) : String :=
  "conflicting " ++ k.kind ++ " for operation " ++ Promotion.digestText k.operationId

/-- `_record`: the record is durable afterwards, this one or an equal one. -/
def record (k : Key) (v : Rec C k) : Code C Unit := do
  let verified ← (verifyChildren k v).attempt
  match verified with
  | .error _ => .raise (.error ("malformed campaign " ++ k.kind))
  | .ok _ => do
    Prog.require ((Rec.encoding k v).size ≤ maxBytes) (.error "artifact exceeds 8388608 bytes")
    ask (.install k) orRaise
    let published ← publishFile k v
    match published with
    | .created => return ()
    | .failed => .raise (.error "campaign record was not durably indexed")
    | .lost => .raise (.error "campaign record was not durably indexed")
    | .taken => do
      let found ← readFile k
      match found with
      | .missing => .raise (.error "campaign record index is malformed")
      | .malformed => .raise (.error "campaign record index is malformed")
      | .found old => Prog.require (old = v) (.error (conflicting k))

def read (k : Key) : Code C (Option (Rec C k)) := do
  let found ← readFile k
  match found with
  | .missing => return none
  | .malformed => .raise (.error ("malformed or unverifiable campaign " ++ k.kind))
  | .found v => do
    let verified ← (verifyChildren k v).attempt
    match verified with
    | .error _ => .raise (.error ("malformed or unverifiable campaign " ++ k.kind))
    | .ok _ => do
      Prog.require (Rec.recordId k v = k.operationId) (.error "campaign record operation ID does not match index")
      return some v

def recordPlan (plan : Plan C) : Code C Unit := record (.plan plan.operationId) plan

def readPlan (operationId : Sha256Digest) : Code C (Option (Plan C)) := read (.plan operationId)

def recordFinalEvidence (evidence : FinalEvidence C.toCanon) : Code C Unit :=
  record (.finalEvidence evidence.operationId) evidence

def readFinalEvidence (operationId : Sha256Digest) : Code C (Option (FinalEvidence C.toCanon)) :=
  read (.finalEvidence operationId)

def recordPackage (package : Package C) : Code C Unit := record (.package package.intent.operationId) package

def readPackage (operationId : Sha256Digest) : Code C (Option (Package C)) := read (.package operationId)

end Journal

end AvoCorrelate.Campaign
