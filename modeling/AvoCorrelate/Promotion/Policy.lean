import AvoCorrelate.MainLedger.Contracts
import Mathlib.Data.List.Dedup
import Mathlib.Data.List.Sort
import Mathlib.Data.String.Basic
/-!
# The promotion policy

`PromotionPolicy.classify` goes through its checks in a fixed order and returns at the
first that fails. `Allowed` is what has to hold for a promotion, all at once, and
`classify_allow_iff` that the order leaves nothing else.
-/
namespace AvoCorrelate.Promotion.Policy

open ExactCas (Sha256Digest)
open MainLedger (isValidPromotionPath pathManifestDigest)

/-! ## Contracts -/

inductive RiskClass
  | low | ordinary | constitutional | production
  deriving DecidableEq

inductive PromotionOutcome
  | allow | deny | quarantine | escalate
  deriving DecidableEq

/-- A dictionary, its entries in order of insertion. -/
structure Dict (κ α : Type) where
  entries : List (κ × α)
  keys : (entries.map Prod.fst).Nodup

def Dict.get {κ α : Type} [DecidableEq κ] (d : Dict κ α) (k : κ) : Option α := (d.entries.find? fun e => e.1 = k).map Prod.snd

/-- A frozen set, its items in the order of its iteration. -/
structure FrozenSet where
  items : List String
  distinct : items.Nodup

/-- What the attestations have in common, with `_validate_window`. -/
structure Attestation where
  candidateDigest : Sha256Digest
  baseDigest : Sha256Digest
  issuerId : String
  validFromEpoch : Nat
  validUntilEpoch : Nat
  window : validFromEpoch ≤ validUntilEpoch
  deriving DecidableEq

structure GateAttestation extends Attestation where
  gateName : String
  passed : Bool
  deriving DecidableEq

structure ReviewerAttestation extends Attestation where
  reviewerId : String
  approved : Bool

structure RollbackAttestation extends Attestation where
  rollbackCount : Nat
  available : Bool

structure PathManifestAttestation extends Attestation where
  pathManifestDigest : Sha256Digest

structure PromotionConfig where
  evaluationEpoch : Nat
  trustedGateIssuers : Dict String (List String)
  trustedBaseIssuers : List String
  trustedReviewerIssuers : List String
  trustedPathIssuers : List String
  rollbackIssuerIds : List String
  rollbackLimit : Nat
  reviewerDomains : Dict String String
  proposerDomains : Dict String String
  candidateProposers : Dict Sha256Digest String
  lowGates : FrozenSet := ⟨["deterministic", "provenance"], by decide⟩
  ordinaryGates : FrozenSet := ⟨["trusted_ci", "private_evaluation", "provenance", "integration_soak"], by decide⟩

inductive Exc
  | value (message : String)
  | key (key : String)
  deriving DecidableEq

variable (C : MainLedger.Canon)

def validatePaths (paths : List String) : Except Exc (List String) :=
  let canonical := paths.map C.casefold
  if paths = [] then .error (.value "changed paths cannot be empty")
  else if (paths.any fun path => !isValidPromotionPath C path) = true then .error (.value "paths must be normalized relative paths")
  else if canonical.length ≠ canonical.dedup.length then
    .error (.value "changed paths must not contain case or Unicode collisions")
  else .ok paths

/-- A request, with the paths its validator accepted. -/
structure PromotionRequest where
  candidateId : String
  proposerId : String
  candidateDigest : Sha256Digest
  baseDigest : Sha256Digest
  changedPaths : List String
  pathManifestAttestation : PathManifestAttestation
  baseAttestation : GateAttestation
  gateAttestations : List GateAttestation
  reviewerAttestations : List ReviewerAttestation
  rollbackAttestation : Option RollbackAttestation
  exceptionRequested : Bool
  normalizedPaths : validatePaths C changedPaths = .ok changedPaths

structure PromotionDecision where
  candidateId : String
  outcome : PromotionOutcome
  riskClass : RiskClass
  reasonCodes : List String
  requiredQuorum : Nat
  deriving DecidableEq

/-! ## Risk -/

def constitutionalExact : List String :=
  [".gitattributes", ".gitmodules", "pyproject.toml", "docs/roadmap.md", "uv.lock", "poetry.lock", "pdm.lock",
    "package-lock.json", "yarn.lock", "pnpm-lock.yaml", "bun.lockb", "cargo.lock", "gemfile.lock", "composer.lock", "go.sum"]

def constitutionalPrefixes : List String :=
  [".agents/skills/avo-roadmap/", ".github/", "schemas/", "migrations/", "evaluators/private/", "sandbox/", "credentials/",
    ".credentials/", "secrets/", ".secrets/", "src/avo_correlate/adapters/policy/",
    "src/avo_correlate/adapters/persistence/migrations/"]

def constitutionalAuthorityPaths : List String :=
  ["scripts/run_sanitized_integration_campaign.py", "src/avo_correlate/application/campaign.py",
    "src/avo_correlate/application/integration_campaign_service.py",
    "src/avo_correlate/application/integration_attester_drill_service.py",
    "src/avo_correlate/application/integration_drill_service.py",
    "src/avo_correlate/application/integration_promotion_service.py",
    "src/avo_correlate/application/integration_rollback_service.py", "src/avo_correlate/application/promotion_service.py",
    "src/avo_correlate/application/synthetic_validation_service.py",
    "src/avo_correlate/adapters/artifacts/campaign_journal.py", "src/avo_correlate/adapters/artifacts/drill_journal.py",
    "src/avo_correlate/adapters/artifacts/promotion_journal.py",
    "src/avo_correlate/adapters/artifacts/synthetic_validation_journal.py",
    "src/avo_correlate/contracts/integration_campaign.py", "src/avo_correlate/contracts/integration_drill.py",
    "src/avo_correlate/contracts/integration_promotion.py", "src/avo_correlate/contracts/policy.py",
    "src/avo_correlate/contracts/policy_bundle.py", "src/avo_correlate/contracts/promotion_bundle.py",
    "src/avo_correlate/contracts/synthetic_validation.py", "scripts/run_avo0046_drills.py"]

def constitutionalAuthorityPrefixes : List String :=
  ["src/avo_correlate/adapters/hosted_git/", "src/avo_correlate/adapters/git/"]

def constitutionalTerms : List String :=
  ["admission", "budget", "controller", "graduation", "lifecycle", "policy", "promotion", "provenance"]

def dependencyFilenames : List String :=
  ["bun.lockb", "cargo.lock", "cargo.toml", "composer.lock", "composer.json", "deno.json", "deno.jsonc", "deno.lock", "deps.edn",
    "flake.lock", "flake.nix", "gemfile", "gemfile.lock", "go.mod", "go.sum", "gradle.lockfile", "gradle.properties", "mix.exs",
    "mix.lock", "npm-shrinkwrap.json", "package.json", "package-lock.json", "package.resolved", "package.swift", "pdm.lock",
    "pipfile", "pipfile.lock", "pnpm-lock.yaml", "poetry.lock", "pom.xml", "project.clj", "pubspec.lock", "pubspec.yaml",
    "pyproject.toml", "uv.lock", "yarn.lock"]

def productionPrefixes : List String := ["deploy/", "production/", "infra/", "ops/"]

def startsWith (path : List Char) (heads : List String) : Bool := heads.any fun head => head.toList.isPrefixOf path

def endsWith (path : List Char) (tails : List String) : Bool := tails.any fun tail => tail.toList.isSuffixOf path

/-- `term in path`. -/
def contains (path term : List Char) : Bool := path.tails.any fun tail => term.isPrefixOf tail

def constitutionalPath (path : String) : Bool :=
  let chars := path.toList
  let filename := (chars.splitOn '/').getLastD []
  constitutionalExact.contains path || constitutionalAuthorityPaths.contains path || startsWith chars constitutionalPrefixes ||
    startsWith chars constitutionalAuthorityPrefixes || dependencyFilenames.contains (String.ofList filename) ||
    endsWith filename [".lock", ".lockb", "-lock.json"] ||
    (startsWith filename ["requirements"] && endsWith filename [".in", ".txt"]) ||
    startsWith filename ["build.gradle", "settings.gradle"] || filename = ".env".toList ||
    constitutionalTerms.any fun term => contains chars term.toList

def deriveRisk (paths : List String) : Except Exc RiskClass := do
  let _ ← validatePaths C paths
  let normalized := paths.map C.casefold
  if (normalized.any fun path => startsWith path.toList productionPrefixes) = true then return .production
  if normalized.any constitutionalPath = true then return .constitutional
  return if (normalized.all fun path => startsWith path.toList ["docs/", "tests/"]) = true then .low else .ordinary

/-! ## Attestations -/

section Attestations
variable {C} (request : PromotionRequest C) (config : PromotionConfig)

def bound (attestation : Attestation) (epoch : Nat) (issuers : List String) : Bool :=
  attestation.candidateDigest = request.candidateDigest && attestation.baseDigest = request.baseDigest &&
    issuers.contains attestation.issuerId && attestation.validFromEpoch ≤ epoch && epoch ≤ attestation.validUntilEpoch

def pathManifestValid : Bool :=
  request.pathManifestAttestation.pathManifestDigest = pathManifestDigest C request.changedPaths &&
    bound request request.pathManifestAttestation.toAttestation config.evaluationEpoch config.trustedPathIssuers

def baseValid (attestation : GateAttestation) : Bool :=
  attestation.gateName = "base" && attestation.passed &&
    bound request attestation.toAttestation config.evaluationEpoch config.trustedBaseIssuers

def gateValid (attestation : GateAttestation) (gate : String) : Bool :=
  attestation.gateName = gate &&
    bound request attestation.toAttestation config.evaluationEpoch ((config.trustedGateIssuers.get gate).getD [])

/-- `_gate`. -/
def gatePassed (gate : String) : Bool :=
  request.gateAttestations.any fun attestation => attestation.passed && gateValid request config attestation gate

def failedGate (gate : String) : Bool :=
  request.gateAttestations.any fun attestation => !attestation.passed && gateValid request config attestation gate

def conflictingGate (gate : String) : Bool :=
  let trusted := request.gateAttestations.filter fun attestation => gateValid request config attestation gate
  trusted.any (fun attestation => attestation.passed) && trusted.any fun attestation => !attestation.passed

def duplicateGate (gate : String) : Bool :=
  1 < request.gateAttestations.countP fun attestation => gateValid request config attestation gate

def hasInvalidGateEvidence (gate : String) : Bool :=
  request.gateAttestations.any fun attestation => attestation.gateName = gate && !gateValid request config attestation gate

def reviewerValid (attestation : ReviewerAttestation) : Bool :=
  (config.reviewerDomains.get attestation.reviewerId).isSome && config.trustedReviewerIssuers.contains attestation.issuerId &&
    attestation.candidateDigest = request.candidateDigest && attestation.baseDigest = request.baseDigest &&
    attestation.validFromEpoch ≤ config.evaluationEpoch && config.evaluationEpoch ≤ attestation.validUntilEpoch

/-! ## Classification -/

/-- `_d`. -/
def decision (outcome : PromotionOutcome) (risk : RiskClass) (reasons : List String) (quorum : Nat) : PromotionDecision :=
  ⟨request.candidateId, outcome, risk, reasons, quorum⟩

def requiredQuorum (risk : RiskClass) : Nat := if risk = .low then 1 else 2

def requiredGates (risk : RiskClass) : FrozenSet := if risk = .low then config.lowGates else config.ordinaryGates

def gatesWith (gates : FrozenSet) (p : String → Bool) : List String := (gates.items.filter p).mergeSort fun a b => a ≤ b

/-- `config.reviewer_domains[reviewer_id]`. -/
def reviewerDomain (attestation : ReviewerAttestation) : Except Exc String :=
  match config.reviewerDomains.get attestation.reviewerId with
  | some domain => .ok domain
  | none => .error (.key attestation.reviewerId)

/-- An approval from another domain than the proposer's. -/
def independent (attestation : ReviewerAttestation) : Except Exc Bool :=
  if attestation.approved = true then do
    let domain ← reviewerDomain config attestation
    return config.proposerDomains.get request.proposerId ≠ some domain
  else return false

def approvals : List ReviewerAttestation → Except Exc (List ReviewerAttestation)
  | [] => return []
  | attestation :: attestations => do
    let counts ← independent request config attestation
    let rest ← approvals attestations
    return if counts = true then attestation :: rest else rest

/-- The quorum, once nothing else is in the way. -/
def classifyQuorum (risk : RiskClass) (quorum : Nat) : Except Exc PromotionDecision := do
  let approvals ← approvals request config request.reviewerAttestations
  let domains ← approvals.mapM (reviewerDomain config)
  if approvals.length < quorum ∨ domains.dedup.length < quorum then
    return decision request .deny risk ["review_quorum_not_met"] quorum
  return decision request .allow risk ["requirements_satisfied"] quorum

def classifyReviewers (risk : RiskClass) (quorum : Nat) : Except Exc PromotionDecision := do
  let reviewerIds := request.reviewerAttestations.map fun attestation => attestation.reviewerId
  if reviewerIds = [] then return decision request .quarantine risk ["missing_reviewer_evidence"] quorum
  if reviewerIds.length ≠ reviewerIds.dedup.length then
    return decision request .quarantine risk ["duplicate_reviewer_evidence"] quorum
  if (request.reviewerAttestations.any fun attestation => !reviewerValid request config attestation) = true then
    return decision request .quarantine risk ["invalid_reviewer_evidence"] quorum
  if request.exceptionRequested = true then return decision request .escalate risk ["operator_exception"] quorum
  if (request.reviewerAttestations.any fun attestation => !attestation.approved) = true then
    return decision request .escalate risk ["reviewer_disagreement"] quorum
  classifyQuorum request config risk quorum

def boundRollback : Option RollbackAttestation := request.rollbackAttestation.filter fun attestation =>
  bound request attestation.toAttestation config.evaluationEpoch config.rollbackIssuerIds

/-- Base and rollback, and the evidence of the gates. -/
def classifyEvidence (risk : RiskClass) (quorum : Nat) : Except Exc PromotionDecision := do
  if ((boundRollback request config).any fun attestation => !attestation.available) = true then
    return decision request .deny risk ["rollback_unavailable"] quorum
  if ((boundRollback request config).any fun attestation => config.rollbackLimit < attestation.rollbackCount) = true then
    return decision request .deny risk ["rollback_limit_exceeded"] quorum
  if baseValid request config request.baseAttestation = false then
    return decision request .quarantine risk ["untrusted_or_stale_base"] quorum
  if request.rollbackAttestation.isNone = true then
    return decision request .quarantine risk ["missing_rollback_evidence"] quorum
  if (boundRollback request config).isNone = true then
    return decision request .quarantine risk ["invalid_rollback_evidence"] quorum
  let gates := requiredGates config risk
  let invalid := gatesWith gates (hasInvalidGateEvidence request config)
  if invalid ≠ [] then return decision request .quarantine risk (invalid.map ("invalid_gate:" ++ ·)) quorum
  let missing := gatesWith gates fun gate => !gatePassed request config gate
  if missing ≠ [] then return decision request .quarantine risk (missing.map ("missing_gate:" ++ ·)) quorum
  classifyReviewers request config risk quorum

def classify : Except Exc PromotionDecision := do
  let risk ← deriveRisk C request.changedPaths
  let quorum := requiredQuorum risk
  if risk = .production then return decision request .deny risk ["production_out_of_scope"] quorum
  if pathManifestValid request config = false then
    return decision request .quarantine risk ["invalid_path_manifest"] quorum
  if (config.proposerDomains.get request.proposerId).isNone = true ∨
      config.candidateProposers.get request.candidateDigest ≠ some request.proposerId then
    return decision request .quarantine risk ["invalid_proposer_identity"] quorum
  let gates := requiredGates config risk
  let conflicting := gatesWith gates (conflictingGate request config)
  if conflicting ≠ [] then return decision request .quarantine risk (conflicting.map ("conflicting_gate:" ++ ·)) quorum
  let duplicate := gatesWith gates (duplicateGate request config)
  if duplicate ≠ [] then return decision request .quarantine risk (duplicate.map ("duplicate_gate:" ++ ·)) quorum
  let failed := gatesWith gates (failedGate request config)
  if failed ≠ [] then return decision request .deny risk (failed.map ("failed_gate:" ++ ·)) quorum
  if (request.reviewerAttestations.any fun attestation =>
      attestation.reviewerId = request.proposerId && reviewerValid request config attestation) = true then
    return decision request .deny risk ["self_approval"] quorum
  if risk = .constitutional then return decision request .escalate risk ["constitutional_change"] 2
  classifyEvidence request config risk quorum

/-! ## What a promotion needs -/

/-- An attestation of this candidate on this base, by one of the issuers, in its window. -/
structure Bound (attestation : Attestation) (issuers : List String) : Prop where
  candidate : attestation.candidateDigest = request.candidateDigest
  base : attestation.baseDigest = request.baseDigest
  issuer : attestation.issuerId ∈ issuers
  window : attestation.validFromEpoch ≤ config.evaluationEpoch ∧ config.evaluationEpoch ≤ attestation.validUntilEpoch

/-- One attestation names the gate, and it is of a trusted issuer and passed. -/
def GatePassed (gate : String) : Prop :=
  ∃ attestation, request.gateAttestations.filter (fun a => a.gateName = gate) = [attestation] ∧ attestation.passed = true ∧
    Bound request config attestation.toAttestation ((config.trustedGateIssuers.get gate).getD [])

/-- A reviewer with a domain, attested by a trusted issuer. -/
structure ReviewerValid (attestation : ReviewerAttestation) : Prop where
  domain : (config.reviewerDomains.get attestation.reviewerId).isSome = true
  bound : Bound request config attestation.toAttestation config.trustedReviewerIssuers

/-- The approving reviewers of another domain than the proposer's. -/
def voters : List ReviewerAttestation :=
  request.reviewerAttestations.filter fun attestation => attestation.approved &&
    config.reviewerDomains.get attestation.reviewerId ≠ config.proposerDomains.get request.proposerId

/-- What has to hold for a promotion of this risk. -/
structure Allowed (risk : RiskClass) : Prop where
  promotable : deriveRisk C request.changedPaths = .ok risk ∧ (risk = .low ∨ risk = .ordinary)
  paths : request.pathManifestAttestation.pathManifestDigest = pathManifestDigest C request.changedPaths ∧
    Bound request config request.pathManifestAttestation.toAttestation config.trustedPathIssuers
  proposer : (config.proposerDomains.get request.proposerId).isSome = true ∧
    config.candidateProposers.get request.candidateDigest = some request.proposerId
  gates : ∀ gate ∈ (requiredGates config risk).items, GatePassed request config gate
  base : request.baseAttestation.gateName = "base" ∧ request.baseAttestation.passed = true ∧
    Bound request config request.baseAttestation.toAttestation config.trustedBaseIssuers
  rollback : ∃ rollback ∈ request.rollbackAttestation, Bound request config rollback.toAttestation config.rollbackIssuerIds ∧
    rollback.available = true ∧ rollback.rollbackCount ≤ config.rollbackLimit
  reviewed : request.reviewerAttestations ≠ []
  distinct : (request.reviewerAttestations.map fun attestation => attestation.reviewerId).Nodup
  reviewers : ∀ attestation ∈ request.reviewerAttestations, ReviewerValid request config attestation ∧
    attestation.approved = true ∧ attestation.reviewerId ≠ request.proposerId
  exception : request.exceptionRequested = false
  quorum : requiredQuorum risk ≤ (voters request config).length ∧
    requiredQuorum risk ≤
      ((voters request config).map fun attestation => config.reviewerDomains.get attestation.reviewerId).dedup.length

end Attestations

/-! ## The checks -/

section Checks
variable {C : MainLedger.Canon} {request : PromotionRequest C} {config : PromotionConfig}

theorem bound_iff {attestation : Attestation} {issuers : List String} :
    bound request attestation config.evaluationEpoch issuers = true ↔ Bound request config attestation issuers := by
  simp only [bound, Bool.and_eq_true, decide_eq_true_eq, List.contains_iff_mem]
  constructor
  · rintro ⟨⟨⟨⟨hcandidate, hbase⟩, hissuer⟩, hfrom⟩, huntil⟩
    exact ⟨hcandidate, hbase, hissuer, hfrom, huntil⟩
  · rintro ⟨hcandidate, hbase, hissuer, hfrom, huntil⟩
    exact ⟨⟨⟨⟨hcandidate, hbase⟩, hissuer⟩, hfrom⟩, huntil⟩

theorem gateValid_iff {attestation : GateAttestation} {gate : String} :
    gateValid request config attestation gate = true ↔ attestation.gateName = gate ∧
      Bound request config attestation.toAttestation ((config.trustedGateIssuers.get gate).getD []) := by
  rw [gateValid, Bool.and_eq_true, decide_eq_true_eq, bound_iff]

theorem reviewerValid_iff {attestation : ReviewerAttestation} :
    reviewerValid request config attestation = true ↔ ReviewerValid request config attestation := by
  simp only [reviewerValid, Bool.and_eq_true, decide_eq_true_eq, List.contains_iff_mem]
  constructor
  · rintro ⟨⟨⟨⟨⟨hdomain, hissuer⟩, hcandidate⟩, hbase⟩, hfrom⟩, huntil⟩
    exact ⟨hdomain, hcandidate, hbase, hissuer, hfrom, huntil⟩
  · rintro ⟨hdomain, hcandidate, hbase, hissuer, hfrom, huntil⟩
    exact ⟨⟨⟨⟨⟨hdomain, hissuer⟩, hcandidate⟩, hbase⟩, hfrom⟩, huntil⟩

theorem gatesWith_eq_nil {gates : FrozenSet} {p : String → Bool} :
    gatesWith gates p = [] ↔ ∀ gate ∈ gates.items, p gate = false := by
  rw [gatesWith, ← List.length_eq_zero_iff, List.length_mergeSort, List.length_eq_zero_iff, List.filter_eq_nil_iff]
  simp only [Bool.not_eq_true]

theorem gatePassed_iff {gate : String} :
    (conflictingGate request config gate = false ∧ duplicateGate request config gate = false ∧
      failedGate request config gate = false ∧ hasInvalidGateEvidence request config gate = false ∧
      gatePassed request config gate = true) ↔ GatePassed request config gate := by
  constructor
  · rintro ⟨-, hduplicate, -, hinvalid, hpassed⟩
    -- without invalid evidence the attestations that name the gate are the valid ones
    have hsame : request.gateAttestations.filter (fun a => a.gateName = gate) =
        request.gateAttestations.filter (fun a => gateValid request config a gate) := by
      refine List.filter_congr fun a ha => ?_
      have hvalid := List.any_eq_false.mp hinvalid a ha
      by_cases hname : a.gateName = gate
      · simpa [hname] using hvalid
      · simp [gateValid, hname]
    obtain ⟨a, ha, hpassed⟩ := List.any_eq_true.mp hpassed
    obtain ⟨hpassed, hvalid⟩ := Bool.and_eq_true_iff.mp hpassed
    have hmem : a ∈ request.gateAttestations.filter fun a => gateValid request config a gate := List.mem_filter.mpr ⟨ha, hvalid⟩
    have hlength : (request.gateAttestations.filter fun a => gateValid request config a gate).length ≤ 1 := by
      rw [← List.countP_eq_length_filter]
      simpa [duplicateGate] using hduplicate
    refine ⟨a, ?_, hpassed, (gateValid_iff.mp hvalid).2⟩
    rw [hsame]
    obtain ⟨b, hb⟩ := List.length_eq_one_iff.mp (le_antisymm hlength (List.length_pos_of_mem hmem))
    rw [hb] at hmem ⊢
    rw [List.mem_singleton.mp hmem]
  · rintro ⟨a, hsingle, hpassed, hbound⟩
    have hnamed : ∀ b ∈ request.gateAttestations, b.gateName = gate → b = a := fun b hb hname => by
      have hmem : b ∈ request.gateAttestations.filter fun a => a.gateName = gate := List.mem_filter.mpr ⟨hb, decide_eq_true hname⟩
      rw [hsingle] at hmem
      exact List.mem_singleton.mp hmem
    obtain ⟨ha, hname⟩ := List.mem_filter.mp (hsingle ▸ List.mem_singleton_self a)
    have hvalid : gateValid request config a gate = true := gateValid_iff.mpr ⟨of_decide_eq_true hname, hbound⟩
    have honly : ∀ b ∈ request.gateAttestations, gateValid request config b gate = true → b = a := fun b hb hb' =>
      hnamed b hb (gateValid_iff.mp hb').1
    refine ⟨?_, ?_, List.any_eq_false.mpr ?_, List.any_eq_false.mpr ?_, List.any_eq_true.mpr ⟨a, ha, ?_⟩⟩
    · have hnone : (request.gateAttestations.filter fun b => gateValid request config b gate).any (fun b => !b.passed) = false := by
        refine List.any_eq_false.mpr fun b hb => ?_
        obtain ⟨hb, hb'⟩ := List.mem_filter.mp hb
        simp [honly b hb hb', hpassed]
      simp only [conflictingGate, hnone, Bool.and_false]
    · have hle : request.gateAttestations.countP (fun b => gateValid request config b gate) ≤
          request.gateAttestations.countP (fun b => b.gateName = gate) :=
        List.countP_mono_left fun b _ hb => decide_eq_true (gateValid_iff.mp hb).1
      rw [List.countP_eq_length_filter (p := fun b : GateAttestation => decide (b.gateName = gate)), hsingle] at hle
      simpa [duplicateGate] using hle
    · intro b hb hfailed
      obtain ⟨hfailed, hb'⟩ := Bool.and_eq_true_iff.mp hfailed
      rw [honly b hb hb', hpassed] at hfailed
      cases hfailed
    · intro b hb hinvalid
      obtain ⟨hname, hinvalid⟩ := Bool.and_eq_true_iff.mp hinvalid
      rw [hnamed b hb (of_decide_eq_true hname), hvalid] at hinvalid
      cases hinvalid
    · rw [hpassed, hvalid]
      rfl

theorem gates_iff {gates : FrozenSet} :
    (gatesWith gates (conflictingGate request config) = [] ∧ gatesWith gates (duplicateGate request config) = [] ∧
      gatesWith gates (failedGate request config) = [] ∧ gatesWith gates (hasInvalidGateEvidence request config) = [] ∧
      gatesWith gates (fun gate => !gatePassed request config gate) = []) ↔ ∀ gate ∈ gates.items, GatePassed request config gate := by
  simp only [gatesWith_eq_nil, ← gatePassed_iff, Bool.not_eq_false', ← forall₂_and]

theorem rollback_iff :
    (((boundRollback request config).any fun attestation => !attestation.available) = false ∧
      ((boundRollback request config).any fun attestation => config.rollbackLimit < attestation.rollbackCount) = false ∧
      request.rollbackAttestation.isNone = false ∧ (boundRollback request config).isNone = false) ↔
      ∃ rollback ∈ request.rollbackAttestation, Bound request config rollback.toAttestation config.rollbackIssuerIds ∧
        rollback.available = true ∧ rollback.rollbackCount ≤ config.rollbackLimit := by
  simp only [← bound_iff, boundRollback]
  cases request.rollbackAttestation with
  | none => simp
  | some r =>
    by_cases hbound : bound request r.toAttestation config.evaluationEpoch config.rollbackIssuerIds = true
    · simp [Option.filter, hbound]
    · simp [Option.filter, hbound]

end Checks

/-! ## Along the checks -/

section Classify
variable {C : MainLedger.Canon} {request : PromotionRequest C} {config : PromotionConfig} {P Q : Prop} {rest : Except Exc PromotionDecision}
  {risk : RiskClass}

/-- A decision comes back, and it is to allow just when this holds. -/
def Settles (P : Prop) (r : Except Exc PromotionDecision) : Prop := ∃ d, r = .ok d ∧ (d.outcome = .allow ↔ P)

theorem Settles.congr (h : Settles P rest) (hiff : P ↔ Q) : Settles Q rest := by
  obtain ⟨d, hd, hallow⟩ := h
  exact ⟨d, hd, hallow.trans hiff⟩

variable {quorum : Nat} {attestations : List ReviewerAttestation}

theorem settles_check {c : Prop} [Decidable c] {outcome : PromotionOutcome} {reasons : List String}
    (houtcome : outcome ≠ .allow) (hc : ¬ c ↔ Q) (hrest : Q → Settles P rest) :
    Settles (Q ∧ P) (if c then pure (decision request outcome risk reasons quorum) else rest) := by
  by_cases h : c
  · rw [if_pos h]
    exact ⟨_, rfl, fun hallow => (houtcome hallow).elim, fun hallow => (hc.mpr hallow.1 h).elim⟩
  · rw [if_neg h]
    exact (hrest (hc.mp h)).congr (by simp [hc.mp h])

theorem independent_eq {attestation : ReviewerAttestation} (h : (config.reviewerDomains.get attestation.reviewerId).isSome = true) :
    independent request config attestation = .ok (attestation.approved &&
      config.reviewerDomains.get attestation.reviewerId ≠ config.proposerDomains.get request.proposerId) := by
  obtain ⟨domain, hdomain⟩ := Option.isSome_iff_exists.mp h
  unfold independent reviewerDomain
  cases attestation.approved with
  | false => rfl
  | true =>
    rw [hdomain]
    simp only [if_true, Bool.true_and, ne_eq, eq_comm (a := some domain)]
    rfl

theorem approvals_eq (h : ∀ a ∈ attestations, (config.reviewerDomains.get a.reviewerId).isSome = true) :
    approvals request config attestations = .ok (attestations.filter fun a => a.approved &&
      config.reviewerDomains.get a.reviewerId ≠ config.proposerDomains.get request.proposerId) := by
  induction attestations with
  | nil => rfl
  | cons a as ih =>
    rw [approvals, independent_eq (h a List.mem_cons_self), ih fun b hb => h b (List.mem_cons_of_mem a hb), List.filter_cons]
    rfl

theorem mapM_reviewerDomain (h : ∀ a ∈ attestations, (config.reviewerDomains.get a.reviewerId).isSome = true) :
    ∃ domains, attestations.mapM (reviewerDomain config) = .ok domains ∧
      attestations.map (fun a => config.reviewerDomains.get a.reviewerId) = domains.map some := by
  induction attestations with
  | nil => exact ⟨[], rfl, rfl⟩
  | cons a as ih =>
    obtain ⟨domain, hdomain⟩ := Option.isSome_iff_exists.mp (h a List.mem_cons_self)
    obtain ⟨domains, hdomains, hmap⟩ := ih fun b hb => h b (List.mem_cons_of_mem a hb)
    refine ⟨domain :: domains, ?_, by rw [List.map_cons, List.map_cons, hdomain, hmap]⟩
    rw [List.mapM_cons, hdomains, reviewerDomain, hdomain]
    rfl

theorem classifyQuorum_eq
    (h : ∀ a ∈ request.reviewerAttestations, (config.reviewerDomains.get a.reviewerId).isSome = true) :
    classifyQuorum request config risk quorum =
      if (voters request config).length < quorum ∨
          ((voters request config).map fun a => config.reviewerDomains.get a.reviewerId).dedup.length < quorum then
        pure (decision request .deny risk ["review_quorum_not_met"] quorum)
      else pure (decision request .allow risk ["requirements_satisfied"] quorum) := by
  have hvoters : ∀ a ∈ voters request config, (config.reviewerDomains.get a.reviewerId).isSome = true := fun a ha =>
    h a (List.mem_of_mem_filter ha)
  obtain ⟨domains, hdomains, hmap⟩ := mapM_reviewerDomain hvoters
  rw [classifyQuorum, approvals_eq h, hmap, List.dedup_map_of_injective (Option.some_injective _), List.length_map]
  show (voters request config).mapM (reviewerDomain config) >>= _ = _
  rw [hdomains]
  rfl

theorem settles_quorum (h : ∀ a ∈ request.reviewerAttestations, (config.reviewerDomains.get a.reviewerId).isSome = true) :
    Settles (quorum ≤ (voters request config).length ∧
      quorum ≤ ((voters request config).map fun a => config.reviewerDomains.get a.reviewerId).dedup.length)
      (classifyQuorum request config risk quorum) := by
  rw [classifyQuorum_eq h]
  refine (settles_check (by decide) ?_ fun _ => ⟨_, rfl, iff_of_true rfl trivial⟩).congr (iff_of_eq (and_true _))
  rw [not_or, not_lt, not_lt]

theorem settles_reviewers :
    Settles (request.reviewerAttestations ≠ [] ∧ (request.reviewerAttestations.map fun a => a.reviewerId).Nodup ∧
      (∀ a ∈ request.reviewerAttestations, ReviewerValid request config a) ∧ request.exceptionRequested = false ∧
      (∀ a ∈ request.reviewerAttestations, a.approved = true) ∧ quorum ≤ (voters request config).length ∧
      quorum ≤ ((voters request config).map fun a => config.reviewerDomains.get a.reviewerId).dedup.length)
      (classifyReviewers request config risk quorum) := by
  have hdistinct : ¬ ((request.reviewerAttestations.map fun a => a.reviewerId).length ≠
      (request.reviewerAttestations.map fun a => a.reviewerId).dedup.length) ↔
      (request.reviewerAttestations.map fun a => a.reviewerId).Nodup := by
    rw [not_not, eq_comm, (List.dedup_sublist _).length_eq, List.dedup_eq_self]
  have hvalid : ¬ ((request.reviewerAttestations.any fun a => !reviewerValid request config a) = true) ↔
      ∀ a ∈ request.reviewerAttestations, ReviewerValid request config a := by
    simp [← reviewerValid_iff]
  have happroved : ¬ ((request.reviewerAttestations.any fun a => !a.approved) = true) ↔
      ∀ a ∈ request.reviewerAttestations, a.approved = true := by
    simp
  refine settles_check (by decide) (by simp) fun _ => settles_check (by decide) hdistinct fun _ => ?_
  refine settles_check (by decide) hvalid fun h => settles_check (by decide) (by simp) fun _ => ?_
  exact settles_check (by decide) happroved fun _ => settles_quorum fun a ha => (h a ha).domain

theorem baseValid_iff : ¬ (baseValid request config request.baseAttestation = false) ↔
    request.baseAttestation.gateName = "base" ∧ request.baseAttestation.passed = true ∧
      Bound request config request.baseAttestation.toAttestation config.trustedBaseIssuers := by
  rw [Bool.not_eq_false, baseValid, Bool.and_eq_true, Bool.and_eq_true, decide_eq_true_eq, bound_iff, and_assoc]

theorem settles_evidence (hreviewers : Settles P (classifyReviewers request config risk quorum)) :
    Settles (((boundRollback request config).any fun a => !a.available) = false ∧
      ((boundRollback request config).any fun a => config.rollbackLimit < a.rollbackCount) = false ∧
      (request.baseAttestation.gateName = "base" ∧ request.baseAttestation.passed = true ∧
        Bound request config request.baseAttestation.toAttestation config.trustedBaseIssuers) ∧
      request.rollbackAttestation.isNone = false ∧ (boundRollback request config).isNone = false ∧
      gatesWith (requiredGates config risk) (hasInvalidGateEvidence request config) = [] ∧
      gatesWith (requiredGates config risk) (fun gate => !gatePassed request config gate) = [] ∧ P)
      (classifyEvidence request config risk quorum) := by
  refine settles_check (by decide) (Bool.not_eq_true _).to_iff fun _ => ?_
  refine settles_check (by decide) (Bool.not_eq_true _).to_iff fun _ => ?_
  refine settles_check (by decide) baseValid_iff fun _ => ?_
  refine settles_check (by decide) (Bool.not_eq_true _).to_iff fun _ => ?_
  refine settles_check (by decide) (Bool.not_eq_true _).to_iff fun _ => ?_
  exact settles_check (by decide) not_not fun _ => settles_check (by decide) not_not fun _ => hreviewers

theorem pathManifestValid_iff : ¬ (pathManifestValid request config = false) ↔
    request.pathManifestAttestation.pathManifestDigest = pathManifestDigest C request.changedPaths ∧
      Bound request config request.pathManifestAttestation.toAttestation config.trustedPathIssuers := by
  rw [Bool.not_eq_false, pathManifestValid, Bool.and_eq_true, decide_eq_true_eq, bound_iff]

theorem deriveRisk_eq (request : PromotionRequest C) : ∃ risk, deriveRisk C request.changedPaths = .ok risk := by
  unfold deriveRisk
  rw [request.normalizedPaths]
  dsimp only [bind, Except.bind]
  split_ifs <;> exact ⟨_, rfl⟩

theorem proposer_iff : ¬ ((config.proposerDomains.get request.proposerId).isNone = true ∨
    config.candidateProposers.get request.candidateDigest ≠ some request.proposerId) ↔
    (config.proposerDomains.get request.proposerId).isSome = true ∧
      config.candidateProposers.get request.candidateDigest = some request.proposerId := by
  rw [not_or, not_not, Option.isNone_iff_eq_none, ← ne_eq, Option.isSome_iff_ne_none]

theorem selfApproval_iff : ¬ ((request.reviewerAttestations.any fun a =>
    a.reviewerId = request.proposerId && reviewerValid request config a) = true) ↔
    ∀ a ∈ request.reviewerAttestations, a.reviewerId = request.proposerId → ¬ ReviewerValid request config a := by
  simp [← reviewerValid_iff]

theorem settles_classify (hrisk : deriveRisk C request.changedPaths = .ok risk)
    (hevidence : Settles P (classifyEvidence request config risk (requiredQuorum risk))) :
    Settles (risk ≠ .production ∧
      (request.pathManifestAttestation.pathManifestDigest = pathManifestDigest C request.changedPaths ∧
        Bound request config request.pathManifestAttestation.toAttestation config.trustedPathIssuers) ∧
      ((config.proposerDomains.get request.proposerId).isSome = true ∧
        config.candidateProposers.get request.candidateDigest = some request.proposerId) ∧
      gatesWith (requiredGates config risk) (conflictingGate request config) = [] ∧
      gatesWith (requiredGates config risk) (duplicateGate request config) = [] ∧
      gatesWith (requiredGates config risk) (failedGate request config) = [] ∧
      (∀ a ∈ request.reviewerAttestations, a.reviewerId = request.proposerId → ¬ ReviewerValid request config a) ∧
      risk ≠ .constitutional ∧ P) (classify request config) := by
  unfold classify
  rw [hrisk]
  refine settles_check (by decide) Iff.rfl fun _ => settles_check (by decide) pathManifestValid_iff fun _ => ?_
  refine settles_check (by decide) proposer_iff fun _ => settles_check (by decide) not_not fun _ => ?_
  refine settles_check (by decide) not_not fun _ => settles_check (by decide) not_not fun _ => ?_
  exact settles_check (by decide) selfApproval_iff fun _ => settles_check (by decide) Iff.rfl fun _ => hevidence

/-- For every request and configuration a decision comes back, and it is to allow just
when everything that a promotion needs is there. -/
theorem classify_allow_iff (request : PromotionRequest C) (config : PromotionConfig) :
    ∃ d, classify request config = .ok d ∧ (d.outcome = .allow ↔ ∃ risk, Allowed request config risk) := by
  obtain ⟨risk, hrisk⟩ := deriveRisk_eq request
  refine (settles_classify hrisk (settles_evidence settles_reviewers)).congr ⟨?_, ?_⟩
  · rintro ⟨hproduction, hpaths, hproposer, hconflicting, hduplicate, hfailed, hself, hconstitutional, hunavailable, hlimit, hbase,
      hnone, hunbound, hinvalid, hmissing, hreviewed, hdistinct, hvalid, hexception, happroved, hquorum⟩
    refine ⟨risk, ⟨hrisk, ?_⟩, hpaths, hproposer, gates_iff.mp ⟨hconflicting, hduplicate, hfailed, hinvalid, hmissing⟩, hbase,
      rollback_iff.mp ⟨hunavailable, hlimit, hnone, hunbound⟩, hreviewed, hdistinct, fun a ha => ?_, hexception, hquorum⟩
    · cases risk with
      | low => exact .inl rfl
      | ordinary => exact .inr rfl
      | constitutional => exact (hconstitutional rfl).elim
      | production => exact (hproduction rfl).elim
    · exact ⟨hvalid a ha, happroved a ha, fun hsame => hself a ha hsame (hvalid a ha)⟩
  · rintro ⟨risk', h⟩
    cases hrisk.symm.trans h.promotable.1
    obtain ⟨hconflicting, hduplicate, hfailed, hinvalid, hmissing⟩ := gates_iff.mpr h.gates
    obtain ⟨hunavailable, hlimit, hnone, hunbound⟩ := rollback_iff.mpr h.rollback
    have hproduction : risk ≠ .production := fun hr => by rw [hr] at h; exact h.promotable.2.elim nofun nofun
    have hconstitutional : risk ≠ .constitutional := fun hr => by rw [hr] at h; exact h.promotable.2.elim nofun nofun
    exact ⟨hproduction, h.paths, h.proposer, hconflicting, hduplicate, hfailed, fun a ha hsame => ((h.reviewers a ha).2.2 hsame).elim,
      hconstitutional, hunavailable, hlimit, h.base, hnone, hunbound, hinvalid, hmissing, h.reviewed, h.distinct,
      fun a ha => (h.reviewers a ha).1, h.exception, fun a ha => (h.reviewers a ha).2.1, h.quorum⟩

end Classify

end AvoCorrelate.Promotion.Policy
