import AvoCorrelate.Promotion.Policy
/-!
# What the policy does not see

A decision depends on what paths, attestations and gates there are, not on the order
they come in, and the risk of a change on its case-folded paths, of which a digest is
attested.
-/
namespace AvoCorrelate.Promotion.Policy

open ExactCas (Sha256Digest)
open MainLedger (isValidPromotionPath pathManifestDigest)

variable {C : MainLedger.Canon}

/-! ## Risk -/

/-- From low to production. -/
def RiskClass.level : RiskClass → Nat
  | .low => 0
  | .ordinary => 1
  | .constitutional => 2
  | .production => 3

instance : LE RiskClass := ⟨fun r r' => r.level ≤ r'.level⟩

theorem RiskClass.le_antisymm {r r' : RiskClass} (h : r ≤ r') (h' : r' ≤ r) : r = r' := by
  have hlevel : r.level = r'.level := Nat.le_antisymm h h'
  cases r <;> cases r' <;> first | rfl | cases hlevel

/-- What `path_manifest_digest` hashes. -/
def manifestPaths (C : MainLedger.Canon) (paths : List String) : List String := (paths.map C.casefold).mergeSort fun a b => a ≤ b

section Risk
variable {ps qs : List String}

/-- The risk of case-folded paths. -/
def riskOf (normalized : List String) : RiskClass :=
  if (normalized.any fun path => startsWith path.toList productionPrefixes) = true then .production
  else if normalized.any constitutionalPath = true then .constitutional
  else if (normalized.all fun path => startsWith path.toList ["docs/", "tests/"]) = true then .low
  else .ordinary

theorem deriveRisk_eq_riskOf (h : validatePaths C ps = .ok ps) : deriveRisk C ps = .ok (riskOf (ps.map C.casefold)) := by
  unfold deriveRisk riskOf
  rw [h]
  dsimp only [bind, Except.bind]
  split_ifs <;> rfl

theorem any_of_subset {f : String → Bool} (hsub : ∀ p ∈ ps, p ∈ qs) (h : ps.any f = true) : qs.any f = true := by
  obtain ⟨p, hp, hf⟩ := List.any_eq_true.mp h
  exact List.any_eq_true.mpr ⟨p, hsub p hp, hf⟩

theorem all_of_subset {f : String → Bool} (hsub : ∀ p ∈ ps, p ∈ qs) (h : qs.all f = true) : ps.all f = true :=
  List.all_eq_true.mpr fun p hp => List.all_eq_true.mp h p (hsub p hp)

theorem riskOf_mono (hsub : ∀ p ∈ ps, p ∈ qs) : riskOf ps ≤ riskOf qs := by
  show (riskOf ps).level ≤ (riskOf qs).level
  unfold riskOf
  by_cases hproduction : (qs.any fun path => startsWith path.toList productionPrefixes) = true
  · rw [if_pos hproduction]
    split_ifs <;> decide
  · rw [if_neg hproduction, if_neg fun h => hproduction (any_of_subset hsub h)]
    by_cases hconstitutional : qs.any constitutionalPath = true
    · rw [if_pos hconstitutional]
      split_ifs <;> decide
    · rw [if_neg hconstitutional, if_neg fun h => hconstitutional (any_of_subset hsub h)]
      by_cases hlow : (qs.all fun path => startsWith path.toList ["docs/", "tests/"]) = true
      · rw [if_pos (all_of_subset hsub hlow)]
        exact Nat.zero_le _
      · rw [if_neg hlow]
        split_ifs <;> decide

/-- Risk grows with the paths, and where the digest of the sorted paths has no collision
it is what the digest was taken of that decides it. -/
theorem deriveRisk_monotone_bound (hps : validatePaths C ps = .ok ps) (hqs : validatePaths C qs = .ok qs) :
    ∃ r r', deriveRisk C ps = .ok r ∧ deriveRisk C qs = .ok r' ∧
      ((∀ p ∈ ps, C.casefold p ∈ qs.map C.casefold) → r ≤ r') ∧
      (Set.InjOn C.manifest {manifestPaths C ps, manifestPaths C qs} →
        pathManifestDigest C ps = pathManifestDigest C qs → r = r') := by
  refine ⟨_, _, deriveRisk_eq_riskOf hps, deriveRisk_eq_riskOf hqs, fun hsub => ?_, fun hinj hdigest => ?_⟩
  · refine riskOf_mono fun p hp => ?_
    obtain ⟨q, hq, rfl⟩ := List.mem_map.mp hp
    exact hsub q hq
  · have hsorted : manifestPaths C ps = manifestPaths C qs := hinj (.inl rfl) (.inr rfl) hdigest
    have hmem : ∀ p, p ∈ ps.map C.casefold ↔ p ∈ qs.map C.casefold := fun p => by
      rw [← (List.mergeSort_perm (ps.map C.casefold) fun a b => a ≤ b).mem_iff,
        ← (List.mergeSort_perm (qs.map C.casefold) fun a b => a ≤ b).mem_iff]
      exact iff_of_eq (congrArg (p ∈ ·) hsorted)
    exact RiskClass.le_antisymm (riskOf_mono fun p hp => (hmem p).mp hp) (riskOf_mono fun p hp => (hmem p).mpr hp)

end Risk

namespace Sample

/-- Letters fold to small ones, and a list of paths is told by its length. -/
def canon : MainLedger.Canon where
  digest _ := 0
  manifest paths := paths.length
  nfc _ := true
  casefold path := String.ofList (path.toList.map Char.toLower)

theorem valid : validatePaths canon ["docs/A.md"] = .ok ["docs/A.md"] ∧
    validatePaths canon ["src/main.py", "docs/a.md"] = .ok ["src/main.py", "docs/a.md"] := by decide +kernel

end Sample

theorem deriveRisk_monotone_bound_docs : ∃ r r', deriveRisk Sample.canon ["docs/A.md"] = .ok r ∧
    deriveRisk Sample.canon ["src/main.py", "docs/a.md"] = .ok r' ∧ r ≤ r' := by
  obtain ⟨r, r', hr, hr', hmono, -⟩ := deriveRisk_monotone_bound Sample.valid.1 Sample.valid.2
  have hsub : ∀ p ∈ ["docs/A.md"], Sample.canon.casefold p ∈ ["src/main.py", "docs/a.md"].map Sample.canon.casefold := by
    decide
  exact ⟨r, r', hr, hr', hmono hsub⟩

/-! ## Order -/

/-- The same request, its paths, gates and reviewers in another order. -/
structure Permuted (request request' : PromotionRequest C) : Prop where
  candidateId : request.candidateId = request'.candidateId
  proposerId : request.proposerId = request'.proposerId
  candidateDigest : request.candidateDigest = request'.candidateDigest
  baseDigest : request.baseDigest = request'.baseDigest
  changedPaths : request.changedPaths.Perm request'.changedPaths
  pathManifestAttestation : request.pathManifestAttestation = request'.pathManifestAttestation
  baseAttestation : request.baseAttestation = request'.baseAttestation
  gateAttestations : request.gateAttestations.Perm request'.gateAttestations
  reviewerAttestations : request.reviewerAttestations.Perm request'.reviewerAttestations
  rollbackAttestation : request.rollbackAttestation = request'.rollbackAttestation
  exceptionRequested : request.exceptionRequested = request'.exceptionRequested

/-- The same configuration, its gate sets iterated in another order. -/
def PromotionConfig.iterated (config : PromotionConfig) (low ordinary : FrozenSet) : PromotionConfig :=
  { config with lowGates := low, ordinaryGates := ordinary }

section Order
variable {request request' : PromotionRequest C} {config : PromotionConfig} {low ordinary : FrozenSet} {risk : RiskClass} {quorum : Nat}

theorem mergeSort_eq {l l' : List String} (h : l.Perm l') : (l.mergeSort fun a b => a ≤ b) = l'.mergeSort fun a b => a ≤ b := by
  have hsorted : ∀ l : List String, (l.mergeSort fun a b => a ≤ b).Pairwise fun a b => decide (a ≤ b) = true := fun l =>
    List.pairwise_mergeSort (fun a b c hab hbc => by simp only [decide_eq_true_eq] at *; exact le_trans hab hbc)
      (fun a b => by simpa using le_total a b) l
  have hperm := (List.mergeSort_perm l fun a b => a ≤ b).trans (h.trans (List.mergeSort_perm l' fun a b => a ≤ b).symm)
  refine hperm.eq_of_pairwise (fun a b _ _ hab hba => ?_) (hsorted l) (hsorted l')
  exact le_antisymm (of_decide_eq_true hab) (of_decide_eq_true hba)

theorem gatesWith_perm {gates gates' : FrozenSet} {p p' : String → Bool} (hgates : gates.items.Perm gates'.items)
    (hp : p = p') : gatesWith gates p = gatesWith gates' p' := by
  subst hp
  exact mergeSort_eq (hgates.filter p)

section Checks
variable (h : Permuted request request') (config : PromotionConfig) (low ordinary : FrozenSet)
include h

theorem decision_perm {outcome : PromotionOutcome} {reasons : List String} :
    decision request outcome risk reasons quorum = decision request' outcome risk reasons quorum := by
  unfold decision
  rw [h.candidateId]

theorem bound_perm {attestation : Attestation} {epoch : Nat} {issuers : List String} :
    bound request attestation epoch issuers = bound request' attestation epoch issuers := by
  unfold bound
  rw [h.candidateDigest, h.baseDigest]

theorem deriveRisk_perm : deriveRisk C request.changedPaths = deriveRisk C request'.changedPaths := by
  have hperm : (request.changedPaths.map C.casefold).Perm (request'.changedPaths.map C.casefold) := h.changedPaths.map _
  rw [deriveRisk_eq_riskOf request.normalizedPaths, deriveRisk_eq_riskOf request'.normalizedPaths, riskOf, riskOf,
    hperm.any_eq, hperm.any_eq, hperm.all_eq]

theorem pathManifestValid_perm : pathManifestValid request config = pathManifestValid request' (config.iterated low ordinary) := by
  have hdigest : pathManifestDigest C request.changedPaths = pathManifestDigest C request'.changedPaths :=
    congrArg C.manifest (mergeSort_eq (h.changedPaths.map _))
  unfold pathManifestValid
  rw [h.pathManifestAttestation, hdigest, bound_perm h]
  rfl

theorem baseValid_perm :
    baseValid request config request.baseAttestation = baseValid request' (config.iterated low ordinary) request'.baseAttestation := by
  unfold baseValid
  rw [h.baseAttestation, bound_perm h]
  rfl

theorem gateValid_perm : gateValid request config = gateValid request' (config.iterated low ordinary) := by
  funext attestation gate
  unfold gateValid
  rw [bound_perm h]
  rfl

theorem gatePassed_perm : gatePassed request config = gatePassed request' (config.iterated low ordinary) := by
  funext gate
  unfold gatePassed
  rw [gateValid_perm h config low ordinary, h.gateAttestations.any_eq]

theorem failedGate_perm : failedGate request config = failedGate request' (config.iterated low ordinary) := by
  funext gate
  unfold failedGate
  rw [gateValid_perm h config low ordinary, h.gateAttestations.any_eq]

theorem conflictingGate_perm : conflictingGate request config = conflictingGate request' (config.iterated low ordinary) := by
  funext gate
  unfold conflictingGate
  rw [gateValid_perm h config low ordinary]
  have hperm := h.gateAttestations.filter fun a => gateValid request' (config.iterated low ordinary) a gate
  dsimp only
  rw [hperm.any_eq, hperm.any_eq]

theorem duplicateGate_perm : duplicateGate request config = duplicateGate request' (config.iterated low ordinary) := by
  funext gate
  unfold duplicateGate
  rw [gateValid_perm h config low ordinary, h.gateAttestations.countP_eq]

theorem hasInvalidGateEvidence_perm : hasInvalidGateEvidence request config = hasInvalidGateEvidence request' (config.iterated low ordinary) := by
  funext gate
  unfold hasInvalidGateEvidence
  rw [gateValid_perm h config low ordinary, h.gateAttestations.any_eq]

theorem reviewerValid_perm : reviewerValid request config = reviewerValid request' (config.iterated low ordinary) := by
  funext attestation
  unfold reviewerValid
  rw [h.candidateDigest, h.baseDigest]
  rfl

theorem boundRollback_perm : boundRollback request config = boundRollback request' (config.iterated low ordinary) := by
  unfold boundRollback
  rw [h.rollbackAttestation]
  simp only [bound_perm h]
  rfl

theorem voters_perm : (voters request config).Perm (voters request' (config.iterated low ordinary)) := by
  unfold voters
  rw [h.proposerId]
  exact h.reviewerAttestations.filter _

end Checks

section Stages
variable (h : Permuted request request')
include h

theorem check_congr {c c' : Prop} [Decidable c] [Decidable c'] {outcome : PromotionOutcome} {reasons reasons' : List String}
    {rest rest' : Except Exc PromotionDecision} (hc : c ↔ c') (hreasons : reasons = reasons') (hrest : ¬ c' → rest = rest') :
    (if c then pure (decision request outcome risk reasons quorum) else rest) =
      if c' then pure (decision request' outcome risk reasons' quorum) else rest' := by
  subst hreasons
  exact ite_congr (propext hc) (fun _ => by rw [decision_perm h]) hrest

theorem classifyQuorum_perm
    (hdomains : ∀ a ∈ request.reviewerAttestations, (config.reviewerDomains.get a.reviewerId).isSome = true) :
    classifyQuorum request config risk quorum = classifyQuorum request' (config.iterated low ordinary) risk quorum := by
  have hvoters := voters_perm h config low ordinary
  have hspan := (hvoters.map fun a => config.reviewerDomains.get a.reviewerId).dedup
  have hdomains' : ∀ a ∈ request'.reviewerAttestations, ((config.iterated low ordinary).reviewerDomains.get a.reviewerId).isSome = true :=
    fun a ha => hdomains a (h.reviewerAttestations.mem_iff.mpr ha)
  rw [classifyQuorum_eq hdomains, classifyQuorum_eq hdomains', hvoters.length_eq, hspan.length_eq, decision_perm h, decision_perm h]
  rfl

theorem classifyReviewers_perm :
    classifyReviewers request config risk quorum = classifyReviewers request' (config.iterated low ordinary) risk quorum := by
  have hids := h.reviewerAttestations.map fun a => a.reviewerId
  unfold classifyReviewers
  rw [reviewerValid_perm h config low ordinary, h.exceptionRequested, h.reviewerAttestations.any_eq,
    h.reviewerAttestations.any_eq]
  dsimp only
  rw [hids.length_eq, hids.dedup.length_eq]
  have hnil : request.reviewerAttestations.map (fun a => a.reviewerId) = [] ↔
      request'.reviewerAttestations.map (fun a => a.reviewerId) = [] := by
    rw [← List.length_eq_zero_iff, ← List.length_eq_zero_iff, hids.length_eq]
  refine check_congr h hnil rfl fun _ => check_congr h Iff.rfl rfl fun _ => ?_
  refine check_congr h Iff.rfl rfl fun hvalid => check_congr h Iff.rfl rfl fun _ => check_congr h Iff.rfl rfl fun _ => ?_
  -- no reviewer was found invalid, so each has a domain
  refine classifyQuorum_perm h fun a ha => ?_
  rw [Bool.not_eq_true, List.any_eq_false] at hvalid
  have hreviewer := hvalid a (h.reviewerAttestations.mem_iff.mp ha)
  rw [Bool.not_eq_true, Bool.not_eq_false', reviewerValid_iff] at hreviewer
  exact hreviewer.domain

theorem classifyEvidence_perm
    (hgates : (requiredGates config risk).items.Perm (requiredGates (config.iterated low ordinary) risk).items) :
    classifyEvidence request config risk quorum = classifyEvidence request' (config.iterated low ordinary) risk quorum := by
  unfold classifyEvidence
  rw [boundRollback_perm h config low ordinary, baseValid_perm h config low ordinary,
    h.rollbackAttestation]
  have hinvalid := gatesWith_perm hgates (hasInvalidGateEvidence_perm h config low ordinary)
  have hmissing := gatesWith_perm hgates (congrArg (fun p gate => !p gate) (gatePassed_perm h config low ordinary))
  refine check_congr h Iff.rfl rfl fun _ => check_congr h Iff.rfl rfl fun _ => check_congr h Iff.rfl rfl fun _ => ?_
  refine check_congr h Iff.rfl rfl fun _ => check_congr h Iff.rfl rfl fun _ => ?_
  refine check_congr h ?_ ?_ fun _ => check_congr h ?_ ?_ fun _ => classifyReviewers_perm h
  · rw [hinvalid]
  · rw [hinvalid]
  · rw [hmissing]
  · rw [hmissing]

/-- Requests that differ in the order of their paths and attestations get the same decision,
whatever the order the gate sets are iterated in. -/
theorem classify_perm (hlow : config.lowGates.items.Perm low.items) (hordinary : config.ordinaryGates.items.Perm ordinary.items) :
    classify request config = classify request' (config.iterated low ordinary) := by
  obtain ⟨risk, hrisk⟩ := deriveRisk_eq request
  have hgates : (requiredGates config risk).items.Perm (requiredGates (config.iterated low ordinary) risk).items := by
    unfold requiredGates
    split
    · exact hlow
    · exact hordinary
  have hconflicting := gatesWith_perm hgates (conflictingGate_perm h config low ordinary)
  have hduplicate := gatesWith_perm hgates (duplicateGate_perm h config low ordinary)
  have hfailed := gatesWith_perm hgates (failedGate_perm h config low ordinary)
  unfold classify
  rw [← deriveRisk_perm h, hrisk]
  refine check_congr h Iff.rfl rfl fun _ => check_congr h ?_ rfl fun _ => check_congr h ?_ rfl fun _ => ?_
  · rw [pathManifestValid_perm h config low ordinary]
  · rw [h.proposerId, h.candidateDigest]
    rfl
  refine check_congr h ?_ ?_ fun _ => check_congr h ?_ ?_ fun _ => check_congr h ?_ ?_ fun _ => ?_
  · rw [hconflicting]
  · rw [hconflicting]
  · rw [hduplicate]
  · rw [hduplicate]
  · rw [hfailed]
  · rw [hfailed]
  refine check_congr h ?_ rfl fun _ => check_congr h Iff.rfl rfl fun _ => classifyEvidence_perm h hgates
  rw [h.proposerId, reviewerValid_perm h config low ordinary, h.reviewerAttestations.any_eq]

end Stages

end Order

namespace Sample

def attestation (issuer : String) : Attestation := ⟨10, 11, issuer, 0, 100, by decide⟩

def gate (name : String) : GateAttestation := ⟨attestation "ci", name, true⟩

def reviewer (id : String) : ReviewerAttestation := ⟨attestation "desk", id, true⟩

/-- A change of a program and its manual, its gates passed and two reviewers for it. -/
def request (paths : List String) (gates : List GateAttestation) (reviewers : List ReviewerAttestation)
    (valid : validatePaths canon paths = .ok paths) : PromotionRequest canon where
  candidateId := "candidate"
  proposerId := "ann"
  candidateDigest := 10
  baseDigest := 11
  changedPaths := paths
  pathManifestAttestation := ⟨attestation "paths", 2⟩
  baseAttestation := ⟨attestation "base", "base", true⟩
  gateAttestations := gates
  reviewerAttestations := reviewers
  rollbackAttestation := some ⟨attestation "rollback", 0, true⟩
  exceptionRequested := false
  normalizedPaths := valid

def first : PromotionRequest canon :=
  request ["src/main.py", "docs/a.md"] (["trusted_ci", "private_evaluation", "provenance", "integration_soak"].map gate)
    [reviewer "bob", reviewer "eve"] valid.2

def second : PromotionRequest canon :=
  request ["docs/a.md", "src/main.py"] (["provenance", "trusted_ci", "integration_soak", "private_evaluation"].map gate)
    [reviewer "eve", reviewer "bob"] (by decide)

def config : PromotionConfig where
  evaluationEpoch := 50
  trustedGateIssuers := ⟨["trusted_ci", "private_evaluation", "provenance", "integration_soak"].map fun g => (g, ["ci"]), by decide⟩
  trustedBaseIssuers := ["base"]
  trustedReviewerIssuers := ["desk"]
  trustedPathIssuers := ["paths"]
  rollbackIssuerIds := ["rollback"]
  rollbackLimit := 1
  reviewerDomains := ⟨[("bob", "east"), ("eve", "west")], by decide⟩
  proposerDomains := ⟨[("ann", "north")], by decide⟩
  candidateProposers := ⟨[(10, "ann")], by decide⟩

def ordinary : FrozenSet := ⟨["integration_soak", "provenance", "trusted_ci", "private_evaluation"], by decide⟩

theorem permuted : Permuted first second where
  candidateId := rfl
  proposerId := rfl
  candidateDigest := rfl
  baseDigest := rfl
  changedPaths := .swap _ _ _
  pathManifestAttestation := rfl
  baseAttestation := rfl
  gateAttestations := List.Perm.map gate (by decide)
  reviewerAttestations := .swap _ _ _
  rollbackAttestation := rfl
  exceptionRequested := rfl

theorem bound_attestation {issuer : String} {issuers : List String} (h : issuer ∈ issuers) :
    Bound first config (attestation issuer) issuers :=
  ⟨rfl, rfl, h, Nat.zero_le _, show 50 ≤ 100 by decide⟩

theorem reviewerValid_reviewer {id : String} (h : (config.reviewerDomains.get id).isSome = true) :
    ReviewerValid first config (reviewer id) := ⟨h, bound_attestation (by decide)⟩

theorem deriveRisk_first : deriveRisk canon first.changedPaths = .ok .ordinary := by decide +kernel

theorem allowed : Allowed first config .ordinary where
  promotable := ⟨deriveRisk_first, .inr rfl⟩
  paths := ⟨by simp [pathManifestDigest, canon, first, request], bound_attestation (by decide)⟩
  proposer := by decide
  gates := by
    have hnamed : ∀ name ∈ config.ordinaryGates.items, first.gateAttestations.filter (fun a => a.gateName = name) = [gate name] ∧
        "ci" ∈ (config.trustedGateIssuers.get name).getD [] := by decide
    exact fun name hname => ⟨gate name, (hnamed name hname).1, rfl, bound_attestation (hnamed name hname).2⟩
  base := ⟨rfl, rfl, bound_attestation (by decide)⟩
  rollback := ⟨_, rfl, bound_attestation (by decide), rfl, by decide⟩
  reviewed := by decide
  distinct := by decide
  reviewers := by
    intro a ha
    rcases ha with _ | ⟨_, _ | ⟨_, ⟨⟩⟩⟩
    · exact ⟨reviewerValid_reviewer (by decide), rfl, by decide⟩
    · exact ⟨reviewerValid_reviewer (by decide), rfl, by decide⟩
  exception := rfl
  quorum := by decide

end Sample

/-- An allowed promotion, presented in another way. -/
theorem classify_perm_allowed : Allowed Sample.first Sample.config .ordinary ∧
    classify Sample.first Sample.config = classify Sample.second (Sample.config.iterated Sample.config.lowGates Sample.ordinary) :=
  ⟨Sample.allowed, classify_perm Sample.permuted (.refl _) (by decide)⟩

end AvoCorrelate.Promotion.Policy
