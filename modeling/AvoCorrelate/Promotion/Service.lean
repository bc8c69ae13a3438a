import AvoCorrelate.Promotion.Journal
/-!
# The promotion service

`promote` replays a recorded receipt, reconciles a recorded intent, or runs a
promotion for the first time: lease, replay of the bundle, intent, then the
provider's `merge` with its lease guard and mutation authorization called back
right before the one mutating PUT. The `try` blocks of the source are programs
of their own; a `Failure` is what reaches the outer handler, with the checks
collected so far and whether the lease may be released.
-/
open AvoLib

namespace AvoCorrelate.Promotion

open ExactCas (Sha256Digest GitObject)

variable {C : Canon}

/-! ## The provider's merge -/

namespace Provider

/-- The reads before the lease guard; the evidence of main's protection is carried
into the result. -/
def mergePreconditions (intent : Intent C) : Code C Sha256Digest := do
  let _ ← (.port (.observe intent) Answer.orRaise : Code C Observation)
  let target ← (.port (.observeIntegration intent.targetRef) Answer.orRaise : Code C TargetObservation)
  let baseParent ← (.port (.firstParent intent.baseCommit) Answer.orRaise : Code C GitObject)
  Prog.require (target.commit = intent.baseCommit ∧ target.tree = intent.baseTree ∧
    target.firstParentCommit = baseParent ∧ target.protectionEvidenceDigest = intent.protectionEvidenceDigest)
    (.error "integration target head or protection drifted")
  let mainProtection ← (.port .mainProtection Answer.orRaise : Code C Sha256Digest)
  match intent.expectedMainCommit with
  | none => return mainProtection
  | some expected => do
    let main ← (.port .mainRef Answer.orRaise : Code C GitObject)
    Prog.require (main = expected) (.error "current main commit differs from expected main commit")
    return mainProtection

/-- The result with these fields, when its validator accepts them. -/
def mergeResult (m : MergeResult) : Code C MergeResult := do
  Prog.require (m.Valid C) (.error "invalid merge result")
  return m

def unapplied (outcome : MergeOutcome) (error : String) : MergeResult := ⟨outcome, none, none, none, none, some error⟩

/-- The commit that the PUT says it made. -/
def mergedCommit (intent : Intent C) (mainProtection : Sha256Digest) (sha : String) : Code C MergeResult := do
  let t ← (.port (.commitTopology sha) Answer.orRaise : Code C CommitTopology)
  Prog.require (t.parents = [intent.baseCommit]) (.error "merge result has unexpected parent topology")
  mergeResult ⟨.applied, some t.commit, some t.tree, some intent.baseCommit, some mainProtection, none⟩

/-- The one mutating request. -/
def submit (intent : Intent C) (mainProtection : Sha256Digest) : Code C MergeResult :=
  .port (.put intent) fun
    | .rejected message => mergeResult (unapplied .rejected message)
    | .transportError message => mergeResult (unapplied .ambiguous message)
    | .malformed => .raise (.error "malformed merge response response")
    | .response response => do
      let merged ← Prog.ofOption response.merged (.error "malformed merge response: missing merged")
      if merged then
        let sha ← Prog.ofOption (response.sha.filter (· ≠ "")) (.error "malformed merge response: missing sha")
        mergedCommit intent mainProtection sha
      else mergeResult (unapplied .rejected (response.message.getD "merge rejected"))

def merge (intent : Intent C) (leaseGuard mutationAuthorize : Code C Unit) : Code C MergeResult := do
  let observed ← (mergePreconditions intent).attempt
  match observed with
  | .error e => .raise (.precondition e.message)
  | .ok mainProtection => do
    let fenced ← (do leaseGuard; mutationAuthorize : Code C Unit).attempt
    match fenced with
    | .error e => .raise (.precondition e.message)
    | .ok _ => submit intent mainProtection

end Provider

/-! ## Bindings -/

namespace Service

/-- The arguments of `promote`, the lease seconds with their default filled in. -/
structure PromoteCall where
  bundle : Bundle
  publication : Publication
  bundleDigest : Sha256Digest
  operationId : Sha256Digest
  leaseSeconds : Int
  deriving DecidableEq

/-- `_assert_publication_binding`. -/
def publicationBound (p : Publication) (b : Bundle) : Prop :=
  p.repositoryDigest = b.repositoryDigest ∧ p.baseCommit = b.commit ∧ p.baseTree = b.tree ∧
    p.candidateDigest = b.candidateDigest ∧ p.publicationEvidenceDigest = b.sourceProvenanceDigest ∧
    (b.hasRollbackAuthorization = false → p.controllerPublisherIdentity = b.controllerIdentity) ∧
    p.publicationEvidenceDigest ∈ b.evidenceDigests

instance (p : Publication) (b : Bundle) : Decidable (publicationBound p b) := inferInstanceAs (Decidable (_ ∧ _))

def assertIntentBindingWithoutLease (intent : Intent C) (call : PromoteCall) : Code C Unit := do
  Prog.require (intent.operationId = call.operationId ∧ intent.repositoryDigest = call.bundle.repositoryDigest ∧
    intent.targetRef = call.bundle.targetRef) (.error "intent identity does not match operation or lease scope")
  Prog.require (intent.bundleDigest = call.bundleDigest ∧ intent.candidateDigest = call.bundle.candidateDigest)
    (.error "intent and bundle differ")
  Prog.require (intent.baseCommit = call.bundle.commit ∧ intent.baseTree = call.bundle.tree ∧
    intent.protectionEvidenceDigest = call.bundle.protectionEvidenceDigest ∧
    intent.controllerConfigDigest = call.bundle.controllerConfigDigest ∧
    intent.evidenceManifestDigest = call.bundle.evidenceManifestDigest ∧
    intent.publicationEvidenceDigest = call.bundle.sourceProvenanceDigest)
    (.error "intent binding differs from bundle snapshot or evidence")

def assertIntentBinding (intent : Intent C) (call : PromoteCall) (lease : Lease) : Code C Unit := do
  assertIntentBindingWithoutLease intent call
  Prog.require (intent.controllerLeaseIdentity = lease.identity ∧ intent.controllerLeaseDigest = lease.digest C)
    (.error "intent lease binding differs from acquired lease")

def assertPublicationIntentBinding (p : Publication) (i : Intent C) : Code C Unit :=
  Prog.require (p.repositoryDigest = i.repositoryDigest ∧ p.baseCommit = i.baseCommit ∧ p.baseTree = i.baseTree ∧
    p.candidateDigest = i.candidateDigest ∧ p.candidateRef = i.candidateRef ∧ p.candidateCommit = i.candidateCommit ∧
    p.candidateTree = i.candidateTree ∧ p.publicationEvidenceDigest = i.publicationEvidenceDigest)
    (.error "candidate publication does not match intent")

def assertLeaseEvidence (operationId : Sha256Digest) (lease : Lease) : Code C Unit := do
  let loaded ← Journal.readLeaseEvidence operationId
  let evidence ← Prog.ofOption loaded (.error "promotion lease evidence is missing")
  Prog.require (evidence.operationId = operationId ∧ evidence.identity = lease.identity ∧
    evidence.toLease.digest C = lease.digest C)
    (.error "promotion lease evidence does not bind to acquired lease")

def assertDurableLeaseEvidence (intent : Intent C) : Code C Unit := do
  let loaded ← Journal.readLeaseEvidence intent.operationId
  let evidence ← Prog.ofOption loaded (.error "promotion lease evidence is missing for durable intent")
  Prog.require (evidence.operationId = intent.operationId ∧ evidence.repositoryDigest = intent.repositoryDigest ∧
    evidence.targetRef = intent.targetRef ∧ evidence.identity = intent.controllerLeaseIdentity ∧
    evidence.toLease.digest C = intent.controllerLeaseDigest)
    (.error "durable intent lease binding differs from lease evidence")

/-- `_assert_mutation_authorization`. -/
def authorizationBound (intent : Intent C) (a : MutationAuthorization) : Prop :=
  a.operationId = intent.operationId ∧ a.intentDigest = intent.digest ∧
    a.leaseIdentity = intent.controllerLeaseIdentity ∧ a.leaseDigest = intent.controllerLeaseDigest

instance (intent : Intent C) (a : MutationAuthorization) : Decidable (authorizationBound intent a) :=
  inferInstanceAs (Decidable (_ ∧ _))

def assertReceiptBinding (r : Receipt C) (i : Intent C) : Code C Unit := do
  Prog.require (r.intentDigest = i.digest) (.error "receipt intent digest does not match durable intent")
  Prog.require (r.operationId = i.operationId ∧ r.bundleDigest = i.bundleDigest ∧ r.expectedTargetRef = i.targetRef ∧
    r.expectedCandidateCommit = i.candidateCommit ∧ r.expectedCandidateTree = i.candidateTree ∧
    r.expectedBaseCommit = i.baseCommit ∧ r.expectedMainCommit = i.expectedMainCommit ∧
    r.expectedProtectionEvidenceDigest = i.protectionEvidenceDigest ∧
    r.expectedProviderIdentity = i.providerIdentity ∧ r.expectedProviderApiVersion = i.providerApiVersion ∧
    r.observedTargetRef = i.targetRef ∧ r.observedBaseCommit = i.baseCommit ∧
    r.observedProtectionEvidenceDigest = i.protectionEvidenceDigest ∧
    r.observedProviderIdentity = i.providerIdentity ∧ r.observedProviderApiVersion = i.providerApiVersion)
    (.error "receipt binding differs from durable intent")
  Prog.require (r.outcome.success = true → r.observedHeadTree = some i.candidateTree)
    (.error "receipt candidate tree differs from durable intent")

/-- Named comparisons in order; the first that fails is reported. -/
def assertFields (what : String) : List (String × Bool) → Code C Unit
  | [] => .done ()
  | (name, same) :: rest => if same then assertFields what rest else .raise (.error (what ++ " binding mismatch: " ++ name))

def assertObservation (i : Intent C) (o : Observation) : Code C Unit :=
  assertFields "provider"
    [("repository_digest", o.repositoryDigest = i.repositoryDigest),
     ("pull_request_number", o.pullRequestNumber = i.pullRequestNumber),
     ("pull_request_url", o.pullRequestUrl = i.pullRequestUrl),
     ("candidate_repository_digest", o.candidateRepositoryDigest = i.repositoryDigest),
     ("target_repository_digest", o.targetRepositoryDigest = i.repositoryDigest),
     ("base_ref", o.baseRef = i.targetRef), ("base_commit", o.baseCommit = i.baseCommit),
     ("base_tree", o.baseTree = i.baseTree), ("head_ref", o.headRef = i.candidateRef),
     ("head_commit", o.headCommit = i.candidateCommit), ("candidate_tree", o.candidateTree = i.candidateTree),
     ("synthetic_merge_commit", o.syntheticMergeCommit = i.syntheticMergeCommit),
     ("synthetic_merge_tree", o.syntheticMergeTree = i.syntheticMergeTree),
     ("protection_evidence_digest", o.protectionEvidenceDigest = i.protectionEvidenceDigest),
     ("check_evidence_manifest_digest", o.checkEvidenceManifestDigest = i.checkEvidenceManifestDigest),
     ("provider_identity", o.providerIdentity = i.providerIdentity),
     ("provider_api_version", o.providerApiVersion = i.providerApiVersion)]

def assertReconciliationBinding (i : Intent C) (r : Reconciliation C) : Code C Unit :=
  assertFields "reconciliation"
    [("repository_digest", r.repositoryDigest = i.repositoryDigest),
     ("pull_request_number", r.pullRequestNumber = i.pullRequestNumber),
     ("pull_request_url", r.pullRequestUrl = i.pullRequestUrl),
     ("provider_identity", r.providerIdentity = i.providerIdentity),
     ("provider_api_version", r.providerApiVersion = i.providerApiVersion),
     ("target_ref", r.targetRef = i.targetRef),
     ("protection_evidence_digest", r.protectionEvidenceDigest = i.protectionEvidenceDigest)]

/-! ## Verdicts -/

/-- The pull request is merged, and the head of the target is its merge commit:
the candidate tree over the base commit alone. -/
def exact (r : Reconciliation C) (i : Intent C) : Prop :=
  r.merged = true ∧ r.mergeCommit = some r.targetHeadCommit ∧ r.targetHeadTree = i.candidateTree ∧
    r.targetFirstParent = i.baseCommit ∧ r.targetParents = [i.baseCommit]

instance (r : Reconciliation C) (i : Intent C) : Decidable (exact r i) := inferInstanceAs (Decidable (_ ∧ _))

def classify (m : MergeResult) (r : Reconciliation C) (i : Intent C) : Outcome :=
  if exact r i ∧ m.outcome = .applied ∧ m.resultCommit = r.mergeCommit ∧ m.resultTree = some r.targetHeadTree ∧
      m.firstParentCommit = some r.targetFirstParent then .applied
  else if exact r i ∧ m.outcome = .ambiguous then .alreadyApplied
  else if r.merged = false ∧ m.outcome = .rejected then
    if r.targetHeadCommit = i.baseCommit then .notApplicable else .staleBase
  else .reconciliationRequired

def classifyReconciliation (r : Reconciliation C) (i : Intent C) : Outcome :=
  if exact r i then .alreadyApplied else .reconciliationRequired

/-- `_receipt`. -/
def receiptOf (i : Intent C) (m : MergeResult) (r : Reconciliation C) (outcome : Outcome) : ReceiptBody where
  operationId := i.operationId
  intentDigest := i.digest
  bundleDigest := i.bundleDigest
  expectedTargetRef := i.targetRef
  expectedCandidateCommit := i.candidateCommit
  expectedCandidateTree := i.candidateTree
  expectedBaseCommit := i.baseCommit
  expectedMainCommit := i.expectedMainCommit
  expectedProtectionEvidenceDigest := i.protectionEvidenceDigest
  mainProtectionEvidenceDigest := m.mainProtectionEvidenceDigest
  expectedProviderIdentity := i.providerIdentity
  expectedProviderApiVersion := i.providerApiVersion
  appliedResultCommit := if outcome.success then r.mergeCommit else none
  appliedResultTree := if outcome.success then some r.targetHeadTree else none
  appliedResultParentCommit := if outcome.success then some r.targetFirstParent else none
  outcome
  observedTargetRef := r.targetRef
  observedBaseCommit := i.baseCommit
  observedHeadCommit := if outcome.success then some r.targetHeadCommit else none
  observedHeadTree := if outcome.success then some r.targetHeadTree else none
  observedProtectionEvidenceDigest := r.protectionEvidenceDigest
  observedProviderIdentity := r.providerIdentity
  observedProviderApiVersion := r.providerApiVersion
  observationDigest := r.digest
  error := if outcome.success then none else some (m.error.getD "promotion did not reconcile")

def preconditionReceipt (i : Intent C) (error : String) : ReceiptBody where
  operationId := i.operationId
  intentDigest := i.digest
  bundleDigest := i.bundleDigest
  expectedTargetRef := i.targetRef
  expectedCandidateCommit := i.candidateCommit
  expectedCandidateTree := i.candidateTree
  expectedBaseCommit := i.baseCommit
  expectedMainCommit := i.expectedMainCommit
  expectedProtectionEvidenceDigest := i.protectionEvidenceDigest
  mainProtectionEvidenceDigest := none
  expectedProviderIdentity := i.providerIdentity
  expectedProviderApiVersion := i.providerApiVersion
  appliedResultCommit := none
  appliedResultTree := none
  appliedResultParentCommit := none
  outcome := .invalid
  observedTargetRef := i.targetRef
  observedBaseCommit := i.baseCommit
  observedHeadCommit := none
  observedHeadTree := none
  observedProtectionEvidenceDigest := i.protectionEvidenceDigest
  observedProviderIdentity := i.providerIdentity
  observedProviderApiVersion := i.providerApiVersion
  observationDigest := C.digest (.preconditionFailure i.operationId error)
  error := some error

/-- `_report`; its contract takes no empty text. -/
def report (operationId : Sha256Digest) (outcome : Outcome) (checks errors : List String)
    (receipt : Option (Receipt C)) : Code C Report := do
  Prog.require ((checks ++ errors).all nonEmpty = true) (.error "invalid promotion report")
  return ⟨operationId, outcome, receipt.map (·.intentDigest), receipt.map (·.digest),
    if checks.isEmpty then ["boundary"] else checks, errors⟩

/-! ## Failures -/

/-- What reaches the outer handler. -/
structure Failure where
  checks : List String
  error : String
  safeRelease : Bool

abbrev Body (C : Canon) (α : Type) := Prog (Rec C) (Port.Answer (C := C)) Failure α

/-- A part of the body, run when these checks are collected. -/
def noting {α : Type} (checks : List String) (safeRelease : Bool) (p : Code C α) : Body C α := do
  let result ← p.attempt
  match result with
  | .ok x => return x
  | .error e => .raise ⟨checks, e.message, safeRelease⟩

/-! ## Replay and recovery -/

/-- A durable receipt is replayed and the lease of its operation given back. -/
def replayReceipt (call : PromoteCall) (receipt : Receipt C) : Code C Report :=
  if receipt.bundleDigest ≠ call.bundleDigest ∨ receipt.operationId ≠ call.operationId then
    report (C := C) call.operationId .invalid ["receipt_existing"] ["receipt binding mismatch"] none
  else do
    let durable ← Journal.readIntent call.operationId
    match durable with
    | none =>
      report (C := C) call.operationId .reconciliationRequired ["receipt_existing", "missing_intent"]
        ["durable receipt has no matching durable intent"] none
    | some intent => do
      assertDurableLeaseEvidence intent
      assertIntentBindingWithoutLease intent call
      assertPublicationIntentBinding call.publication intent
      assertReceiptBinding receipt intent
      let _ ← Journal.releaseMatchingLease intent.repositoryDigest intent.targetRef intent.operationId
        intent.controllerLeaseIdentity intent.controllerLeaseDigest
      report call.operationId receipt.outcome ["receipt_existing"] [] (some receipt)

/-- The merge result of a recovery: nothing was submitted by this call. -/
def reconciledMerge : MergeResult := Provider.unapplied .ambiguous "reconciled existing intent"

/-- The durable intent is exactly applied: the receipt becomes durable and the
lease is given back. -/
def closeIntent (call : PromoteCall) (checks : List String) (intent : Intent C) (reconciliation : Reconciliation C) :
    Code C Report := do
  let receipt ← Prog.ofOption (Receipt.build (receiptOf intent reconciledMerge reconciliation .alreadyApplied))
    (.error "invalid receipt")
  Journal.recordReceipt receipt
  let _ ← Journal.releaseMatchingLease intent.repositoryDigest intent.targetRef intent.operationId
    intent.controllerLeaseIdentity intent.controllerLeaseDigest
  report call.operationId .alreadyApplied checks [] (some receipt)

/-- What a durable intent needs before it is reconciled. -/
def recoverable (call : PromoteCall) (intent : Intent C) : Code C (Option MutationAuthorization) := do
  assertDurableLeaseEvidence intent
  assertIntentBindingWithoutLease intent call
  assertPublicationIntentBinding call.publication intent
  Journal.readMutationAuthorization call.operationId

/-- A durable intent is only reconciled, never submitted again. -/
def recoverIntent (call : PromoteCall) (checks : List String) (intent : Intent C) : Body C Report := do
  let authorization ← noting checks false (recoverable call intent)
  match authorization with
  | none =>
    noting checks false (report (C := C) call.operationId .invalid ["intent_existing", "mutation_authorization_missing"]
      ["durable intent has no mutation authorization marker"] none)
  | some authorization => do
    noting checks false (Prog.require (authorizationBound intent authorization)
      (.error "mutation authorization does not bind to durable intent"))
    let reconciliation ← noting checks false (.port (.reconcile intent) Answer.orRaise)
    let checks := checks ++ ["intent_existing", "reconciled_once"]
    noting checks false (do
      assertReconciliationBinding intent reconciliation
      if classifyReconciliation reconciliation intent = .alreadyApplied then
        closeIntent call checks intent reconciliation
      else report call.operationId .reconciliationRequired checks ["existing intent requires reconciliation"] none)

/-- Up to the lease: the report of a replay or a recovery, if there is one to make. -/
def beforeLease (call : PromoteCall) : Body C (Option Report) := do
  noting [] false (do
    Prog.require (publicationBound call.publication call.bundle)
      (.error "candidate publication does not match bundle provenance")
    let verified ← (.port (.verifyPublication call.publication call.bundle) Answer.orRaise : Code C Bool)
    Prog.require (verified = true) (.error "candidate publication verifier rejected evidence"))
  let checks := ["publication_verified"]
  let existing ← noting checks false (Journal.readReceipt call.operationId)
  match existing with
  | some receipt => do
    let result ← noting checks false (replayReceipt call receipt)
    return some result
  | none => do
    let durable ← noting checks false (Journal.readIntent call.operationId)
    match durable with
    | some intent => do
      let result ← recoverIntent call checks intent
      return some result
    | none => return none

/-! ## A first run -/

def authorizeMutation (intent : Intent C) (lease : Lease) : Code C Unit := do
  let authorizedAt ← readClock
  Journal.recordMutationAuthorization ⟨intent.operationId, intent.digest, lease.identity, lease.digest C, authorizedAt⟩

/-- The outcome reported for a replay that would not apply. -/
def replayVerdict : ReplayOutcome → Outcome
  | .invalidBundle => .invalid
  | .staleBase => .staleBase
  | .notApplicable => .notApplicable
  | .wouldApply => .ready

def bindIntent (call : PromoteCall) (lease : Lease) : Code C (Intent C × ReplayReport) := do
  Journal.assertCurrent lease
  assertLeaseEvidence call.operationId lease
  let intent ← (.port (.intentFactory lease) Answer.orRaise : Code C (Intent C))
  assertIntentBinding intent call lease
  assertPublicationIntentBinding call.publication intent
  let replay ← (.port (.replay call.bundle call.bundleDigest) Answer.orRaise : Code C ReplayReport)
  return (intent, replay)

def observePrecondition (lease : Lease) (intent : Intent C) : Code C Unit := do
  Journal.assertCurrent lease
  let observation ← (.port (.observe intent) Answer.orRaise : Code C Observation)
  assertObservation intent observation

/-- From the lease to the durable intent, or the report of a bundle that does not
apply any more. -/
def prepare (call : PromoteCall) (lease : Lease) : Body C (Report ⊕ Intent C × List String) := do
  let checks := ["publication_verified"]
  let (intent, replay) ← noting checks false (bindIntent call lease)
  let checks := checks ++ replay.checks
  if replay.outcome = .wouldApply then
    noting checks false (observePrecondition lease intent)
    let checks := checks ++ ["provider_precondition"]
    noting checks false (do
      Journal.assertCurrent lease
      Journal.recordIntent intent)
    return .inr (intent, checks ++ ["intent_durable"])
  else
    let result ← noting checks false (report (C := C) call.operationId (replayVerdict replay.outcome) checks replay.errors none)
    return .inl result

/-- A failed precondition is no ambiguity: an invalid receipt is recorded. -/
def closePrecondition (call : PromoteCall) (checks : List String) (intent : Intent C) (message : String) :
    Body C (Report × Bool) := do
  let result ← noting checks true (do
    let receipt ← Prog.ofOption (Receipt.build (preconditionReceipt intent message)) (.error "invalid receipt")
    Journal.recordReceipt receipt
    report call.operationId .invalid (checks ++ ["merge_precondition_failed"]) [message] (some receipt))
  return (result, true)

/-- Reconcile once and record what was seen; the report, and whether the lease may
be released. -/
def closeMerge (call : PromoteCall) (lease : Lease) (checks : List String) (intent : Intent C) (merge : MergeResult) :
    Body C (Report × Bool) := do
  let checks := checks ++ ["merge_submitted"]
  let reconciliation ← noting checks false (.port (.reconcile intent) Answer.orRaise)
  let checks := checks ++ ["reconciled_once"]
  let receipt ← noting checks false (do
    assertReconciliationBinding intent reconciliation
    let receipt ← Prog.ofOption
      (Receipt.build (receiptOf intent merge reconciliation (classify merge reconciliation intent)))
      (.error "invalid receipt")
    Journal.assertCurrent lease
    Journal.recordReceipt receipt
    return receipt)
  let safeRelease := decide (receipt.outcome ≠ .reconciliationRequired)
  let result ← noting checks safeRelease (report call.operationId receipt.outcome checks receipt.error.toList (some receipt))
  return (result, safeRelease)

/-- From the durable intent on the mutation may have occurred. -/
def submit (call : PromoteCall) (lease : Lease) (checks : List String) (intent : Intent C) : Body C (Report × Bool) := do
  noting checks false (Journal.assertCurrent lease)
  let merged ← (Provider.merge intent (Journal.assertCurrent lease) (authorizeMutation intent lease)).attempt
  match merged with
  | .error (.precondition message) => closePrecondition call checks intent message
  | .error (.error message) => do
    let merge ← noting checks false (Provider.mergeResult (Provider.unapplied .ambiguous message))
    closeMerge call lease checks intent merge
  | .ok merge => closeMerge call lease checks intent merge

/-! ## The service -/

/-- The `finally` clause: what releasing the lease raises is suppressed. -/
def release (lease : Lease) : Code C Unit := do
  let _ ← ((Journal.releaseLease lease).attempt : Code C (Except Exc Unit))
  return ()

def runLeased (call : PromoteCall) (lease : Lease) : Code C Report := do
  let prepared ← (prepare call lease).attempt
  match prepared with
  | .error f => do
    release lease
    report (C := C) call.operationId .invalid f.checks [f.error] none
  | .ok (.inl result) => do
    release lease
    return result
  | .ok (.inr (intent, checks)) => do
    let submitted ← (submit call lease checks intent).attempt
    match submitted with
    | .error f => do
      if f.safeRelease then release lease
      report (C := C) call.operationId .reconciliationRequired f.checks [f.error] none
    | .ok (result, safeRelease) => do
      if safeRelease then release lease
      return result

def promote (call : PromoteCall) : Code C Report := do
  Prog.require (0 < call.leaseSeconds) (.error "lease_seconds must be positive")
  let before ← (beforeLease call).attempt
  match before with
  | .error f => report (C := C) call.operationId .invalid f.checks [f.error] none
  | .ok (some result) => return result
  | .ok none => do
    let acquired ← (Journal.acquireLease call.bundle.repositoryDigest call.bundle.targetRef call.operationId
      call.leaseSeconds).attempt
    match acquired with
    | .error e => report (C := C) call.operationId .invalid ["publication_verified"] [e.message] none
    | .ok lease => runLeased call lease

end Service

end AvoCorrelate.Promotion
