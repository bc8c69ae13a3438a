import AvoCorrelate.Promotion.Service
/-!
# The rollback drill

Case 7: `run` records the failed soak, the authorization and the rollback intent,
lets the promotion service merge the rollback, and records a receipt and the case
result made from its report. A recorded case is replayed instead. The promotion is
a parameter: any program that returns a report.
-/
open AvoLib

namespace AvoCorrelate.Promotion

open ExactCas (Sha256Digest GitObject)
open Service (PromoteCall)

variable {C : Canon}

namespace Rollback

def targetRef : String := "refs/heads/integration"

def caseId : Nat := 7

/-- What the service is made with; `leaseSeconds` is the default of the promotion
service. -/
structure Settings where
  attesterIdentity : String
  trustedRollbackIssuers : List String
  leaseSeconds : Int
  -- attester_identity.strip()
  attested : attesterIdentity.toList.any (fun c => !isStripped c) = true

/-- The arguments of `run`; what `intent_factory` makes comes from a port. -/
structure RunCall (C : Canon) where
  request : RollbackRequest
  authorization : RollbackAuthorization C
  bundle : Bundle
  publication : Publication
  bundleDigest : Sha256Digest

def RunCall.promoteCall (S : Settings) (c : RunCall C) : PromoteCall :=
  ⟨c.bundle, c.publication, c.bundleDigest, c.request.promotionOperationId, S.leaseSeconds⟩

/-- `IntegrationRollbackDrillExecution`; an artifact is given by its digest. -/
structure Execution (C : Canon) where
  request : RollbackRequest
  soak : Soak C
  authorization : RollbackAuthorization C
  intent : RollbackIntent C
  receipt : RollbackReceipt C
  case : CaseResult C
  report : Report
  evidenceArtifacts : List Sha256Digest
  replayed : Bool

/-! ## Fences -/

def validateRequest (r : RollbackRequest) : Code C Unit := do
  Prog.require (r.targetRef = targetRef) (.error "rollback target must be protected integration")
  Prog.require (∀ x ∈ r.mainBeforeCommit :: r.toRollbackTopology.objects, C.gitObject x = true)
    (.error "rollback request contains malformed Git object")
  Prog.require (r.rollbackCandidateParentCommit = r.failedIntegrationHeadCommit)
    (.error "rollback candidate is not parented by failed integration head")
  Prog.require (r.rollbackCandidateCommit ≠ r.failedIntegrationHeadCommit ∧ r.rollbackCandidateCommit ≠ r.restoreToCommit)
    (.error "rollback candidate must be a new commit distinct from restore anchor")

def assertMain (expected : GitObject) : Code C GitObject := do
  let actual ← (.port .mainHead Answer.orRaise : Code C GitObject)
  Prog.require (actual = expected ∧ C.gitObject actual = true) (.error "main head is stale or malformed")
  return actual

def authorizes (S : Settings) (r : RollbackRequest) (a : RollbackAuthorizationBody) : Prop :=
  a.operationId = r.operationId ∧ a.repositoryDigest = r.repositoryDigest ∧ a.targetRef = r.targetRef ∧
    a.mainBeforeCommit = r.mainBeforeCommit ∧ a.mainAfterCommit = r.mainBeforeCommit ∧
    a.targetHeadCommit = r.failedIntegrationHeadCommit ∧ a.targetHeadTree = r.failedIntegrationHeadTree ∧
    a.toRollbackTopology = r.toRollbackTopology ∧ a.authorized = true ∧ a.issuer ∈ S.trustedRollbackIssuers

instance (S : Settings) (r : RollbackRequest) (a : RollbackAuthorizationBody) : Decidable (authorizes S r a) :=
  inferInstanceAs (Decidable (_ ∧ _))

def validateAuthorization (S : Settings) (r : RollbackRequest) (a : RollbackAuthorization C) : Code C Unit := do
  Prog.require (authorizes S r a.toRollbackAuthorizationBody) (.error "rollback authorization is stale or mismatched")
  Prog.require (a.authorizationId = rollbackAuthorizationDigest C a.toRollbackAuthorizationBody)
    (.error "rollback authorization digest mismatch")

def validateSoak (r : RollbackRequest) (s : Soak C) : Code C Unit :=
  Prog.require (s.operationId = r.operationId ∧ s.repositoryDigest = r.repositoryDigest ∧ s.targetRef = r.targetRef ∧
    s.mainBeforeCommit = r.mainBeforeCommit ∧ s.mainAfterCommit = r.mainBeforeCommit ∧
    s.targetHeadCommit = r.failedIntegrationHeadCommit ∧ s.targetHeadTree = r.failedIntegrationHeadTree ∧
    s.targetParents = [] ∧ s.outcome = .failed)
    (.error "integration soak is not the exact deterministic failure")

def validatePublication (r : RollbackRequest) (p : Publication) (b : Bundle) : Code C Unit :=
  Prog.require (p.repositoryDigest = r.repositoryDigest ∧ p.baseCommit = r.failedIntegrationHeadCommit ∧
    p.baseTree = r.failedIntegrationHeadTree ∧ p.candidateCommit = r.rollbackCandidateCommit ∧
    p.candidateTree = r.restoreToTree ∧ b.repositoryDigest = r.repositoryDigest ∧ b.targetRef = r.targetRef ∧
    b.commit = r.failedIntegrationHeadCommit ∧ b.tree = r.failedIntegrationHeadTree)
    (.error "rollback publication or bundle topology is stale")

def validatePromotionIntent (r : RollbackRequest) (p : Publication) (loaded : Option (Intent C)) : Code C Unit := do
  let i ← Prog.ofOption loaded (.error "successful rollback has no durable promotion intent")
  Prog.require (i.operationId = r.promotionOperationId ∧ i.repositoryDigest = r.repositoryDigest ∧
    i.targetRef = r.targetRef ∧ i.candidateRef = p.candidateRef ∧ i.baseCommit = r.failedIntegrationHeadCommit ∧
    i.baseTree = r.failedIntegrationHeadTree ∧ i.candidateCommit = r.rollbackCandidateCommit ∧
    i.candidateTree = r.restoreToTree ∧ i.candidateHeadRef = p.candidateRef ∧
    i.candidateHeadCommit = r.rollbackCandidateCommit ∧ i.candidateHeadTree = r.restoreToTree ∧
    i.targetBaseRef = r.targetRef ∧ i.targetBaseCommit = r.failedIntegrationHeadCommit ∧
    i.targetBaseTree = r.failedIntegrationHeadTree) (.error "durable promotion intent is not rollback-bound")

/-! ## Records -/

def makeIntent (S : Settings) (r : RollbackRequest) (a : RollbackAuthorization C) : RollbackIntentBody where
  repositoryDigest := r.repositoryDigest
  targetRef := r.targetRef
  mainBeforeCommit := r.mainBeforeCommit
  mainAfterCommit := r.mainBeforeCommit
  targetHeadCommit := r.failedIntegrationHeadCommit
  targetHeadTree := r.failedIntegrationHeadTree
  targetParents := []
  toRollbackTopology := r.toRollbackTopology
  operationId := r.operationId
  promotionOperationId := r.promotionOperationId
  authorizationId := a.authorizationId
  attesterIdentity := S.attesterIdentity
  authorized := true
  reason := a.reason

def exactReceipt (r : RollbackRequest) (p : Receipt C) : Prop :=
  p.outcome.success = true ∧ p.expectedTargetRef = r.targetRef ∧ p.expectedBaseCommit = r.failedIntegrationHeadCommit ∧
    p.expectedCandidateCommit = r.rollbackCandidateCommit ∧ p.expectedCandidateTree = r.restoreToTree ∧
    p.appliedResultTree = some r.restoreToTree ∧ p.appliedResultParentCommit = some r.failedIntegrationHeadCommit ∧
    p.appliedResultCommit.isSome = true

instance (r : RollbackRequest) (p : Receipt C) : Decidable (exactReceipt r p) := inferInstanceAs (Decidable (_ ∧ _))

/-- The errors of a report in one text, or another text when there are none. -/
def joined (errors : List String) (otherwise : String) : String :=
  let text := String.intercalate "; " errors
  if text = "" then otherwise else text

def verdict (r : RollbackRequest) (report : Report) (loaded : Option (Receipt C)) : RollbackOutcome × Option String :=
  if report.outcome.success then
    if loaded.any (fun p => exactReceipt r p) then
      (if report.outcome = .alreadyApplied then .alreadyApplied else .applied, none)
    else (.reconciliationRequired, some "successful promotion report lacks exact rollback receipt")
  else if report.outcome = .reconciliationRequired then
    (.reconciliationRequired, some (joined report.errors "rollback promotion requires reconciliation"))
  else
    (if report.outcome = .staleBase then .staleTarget else .rejected,
      some (joined report.errors ("rollback promotion outcome: " ++ report.outcome.value)))

/-- `_make_receipt`. An object id is never empty. -/
def makeReceipt (S : Settings) (r : RollbackRequest) (intent : RollbackIntent C) (report : Report)
    (loaded : Option (Receipt C)) : RollbackReceiptBody :=
  let (outcome, error) := verdict r report loaded
  let resultCommit := if outcome.success then loaded.bind (·.appliedResultCommit) else none
  let resultTree := if outcome.success then loaded.bind (·.appliedResultTree) else none
  { repositoryDigest := r.repositoryDigest
    targetRef := r.targetRef
    mainBeforeCommit := r.mainBeforeCommit
    mainAfterCommit := r.mainBeforeCommit
    targetHeadCommit := resultCommit.getD r.failedIntegrationHeadCommit
    targetHeadTree := resultTree.getD r.failedIntegrationHeadTree
    targetParents := if resultCommit.isSome then [r.failedIntegrationHeadCommit] else []
    toRollbackTopology := r.toRollbackTopology
    operationId := r.operationId
    promotionOperationId := r.promotionOperationId
    intentDigest := intent.intentDigest
    outcome
    attesterIdentity := S.attesterIdentity
    resultCommit
    resultTree
    error }

def caseOutcome : RollbackOutcome → CaseOutcome
  | .applied => .applied
  | .alreadyApplied => .alreadyApplied
  | .reconciliationRequired => .reconciliationRequired
  | _ => .rejected

/-- The artifacts of a case: soak, authorization and intent, and a receipt that was
recorded. -/
def evidence (s : Soak C) (a : RollbackAuthorization C) (i : RollbackIntent C) (r : RollbackReceipt C) : List Sha256Digest :=
  [s.observationId, rollbackAuthorizationDigest C a.toRollbackAuthorizationBody, i.intentDigest] ++
    if r.outcome = .reconciliationRequired then [] else [r.receiptDigest]

/-- The case result of a receipt. -/
def makeCase (S : Settings) (request : RollbackRequest) (main : GitObject) (s : Soak C) (a : RollbackAuthorization C)
    (i : RollbackIntent C) (r : RollbackReceipt C) : CaseBody where
  repositoryDigest := request.repositoryDigest
  targetRef := request.targetRef
  mainBeforeCommit := request.mainBeforeCommit
  mainAfterCommit := main
  targetHeadCommit := r.targetHeadCommit
  targetHeadTree := r.targetHeadTree
  targetParents := r.targetParents
  caseId
  operationId := request.operationId
  outcome := caseOutcome r.outcome
  attesterIdentity := S.attesterIdentity
  evidenceArtifacts := evidence s a i r
  soakObservation := some s.observationId
  rollbackIntent := some i.intentDigest
  rollbackReceipt := some r.receiptDigest
  error := r.error

/-! ## The journal of the drill -/

def readRecord (k : Key) : Code C (Option (Rec C k)) := Journal.read (Journal.drillTexts k) k

def recordDrill (k : Key) (v : Rec C k) : Code C Unit := Journal.record (Journal.drillTexts k) k v

/-! ## Replay -/

/-- The receipt or the intent names the request and its topology. -/
def bindsRequest (r : RollbackRequest) (operationId promotionOperationId : Sha256Digest) (b : DrillBinding)
    (t : RollbackTopology) : Prop :=
  operationId = r.operationId ∧ promotionOperationId = r.promotionOperationId ∧ b.repositoryDigest = r.repositoryDigest ∧
    b.targetRef = r.targetRef ∧ b.mainBeforeCommit = r.mainBeforeCommit ∧ b.mainAfterCommit = r.mainBeforeCommit ∧
    t = r.toRollbackTopology

instance (r : RollbackRequest) (o p : Sha256Digest) (b : DrillBinding) (t : RollbackTopology) :
    Decidable (bindsRequest r o p b t) := inferInstanceAs (Decidable (_ ∧ _))

def replayReport (r : RollbackRequest) : Report := ⟨r.promotionOperationId, .alreadyApplied, none, none, ["case_7_replay"], []⟩

def replay (S : Settings) (request : RollbackRequest) (case : CaseResult C) (supplied : RollbackAuthorization C) :
    Code C (Execution C) := do
  Prog.require (case.caseId = caseId ∧ case.operationId = request.operationId) (.error "case-7 replay identity mismatch")
  Prog.require (case.mainBeforeCommit = request.mainBeforeCommit ∧ case.mainAfterCommit = request.mainBeforeCommit)
    (.error "replayed case does not prove main unchanged")
  let soakLoaded ← readRecord (.soak request.operationId)
  let authLoaded ← readRecord (.rollbackAuthorization request.operationId)
  let intentLoaded ← readRecord (.rollbackIntent request.operationId)
  let receiptLoaded ← readRecord (.rollbackReceipt request.operationId)
  let soak ← Prog.ofOption soakLoaded (.error "case-7 evidence is incomplete")
  let authorization ← Prog.ofOption authLoaded (.error "case-7 evidence is incomplete")
  let intent ← Prog.ofOption intentLoaded (.error "case-7 evidence is incomplete")
  let receipt ← Prog.ofOption receiptLoaded (.error "case-7 evidence is incomplete")
  validateRequest request
  validateAuthorization S request supplied
  Prog.require (supplied = authorization) (.error "replay authorization differs")
  validateAuthorization S request authorization
  validateSoak request soak
  Prog.require (case.rollbackReceipt = some receipt.receiptDigest ∧ case.rollbackIntent = some intent.intentDigest)
    (.error "case-7 replay references differ")
  Prog.require (bindsRequest request intent.operationId intent.promotionOperationId intent.toDrillBinding intent.toRollbackTopology ∧
    bindsRequest request receipt.operationId receipt.promotionOperationId receipt.toDrillBinding receipt.toRollbackTopology ∧
    intent.authorizationId = authorization.authorizationId ∧ receipt.intentDigest = intent.intentDigest)
    (.error "case-7 replay topology or promotion binding differs")
  Prog.require (intent.attesterIdentity = S.attesterIdentity ∧ receipt.attesterIdentity = S.attesterIdentity ∧
    case.attesterIdentity = S.attesterIdentity) (.error "case-7 attester identity differs")
  return ⟨request, soak, authorization, intent, receipt, case, replayReport request,
    [soak.observationId, rollbackAuthorizationDigest C authorization.toRollbackAuthorizationBody, intent.intentDigest,
      receipt.receiptDigest], true⟩

/-! ## The run -/

/-- Every fence before the journal is read. -/
def fences (S : Settings) (c : RunCall C) : Code C Unit := do
  validateRequest c.request
  (.port (.verifyRepository c.request) Answer.orRaise : Code C Unit)
  let _ ← assertMain c.request.mainBeforeCommit
  validateAuthorization S c.request c.authorization
  validatePublication c.request c.publication c.bundle

/-- The recorded soak, or a soak that is recorded now. -/
def soakOf (request : RollbackRequest) : Code C (Soak C) := do
  let loaded ← readRecord (.soak request.operationId)
  match loaded with
  | some soak => do
    validateSoak request soak
    return soak
  | none => do
    let soak ← (.port (.soak request) Answer.orRaise : Code C (Soak C))
    validateSoak request soak
    recordDrill (.soak request.operationId) soak
    return soak

/-- The soak, the authorization and the rollback intent become durable. -/
def prepare (S : Settings) (c : RunCall C) : Code C (Soak C × RollbackIntent C) := do
  let soak ← soakOf c.request
  recordDrill (.rollbackAuthorization c.request.operationId) c.authorization
  let intent ← Prog.ofOption (RollbackIntent.build (makeIntent S c.request c.authorization)) (.error "invalid rollback intent")
  recordDrill (.rollbackIntent c.request.operationId) intent
  return (soak, intent)

def receiptOf (S : Settings) (c : RunCall C) (intent : RollbackIntent C) (report : Report) : Code C (RollbackReceipt C) := do
  let promotionReceipt ← Journal.readReceipt c.request.promotionOperationId
  let promotionIntent ← Journal.readIntent c.request.promotionOperationId
  if report.outcome.success then validatePromotionIntent c.request c.publication promotionIntent
  Prog.ofOption (RollbackReceipt.build (makeReceipt S c.request intent report promotionReceipt))
    (.error "invalid rollback receipt")

/-- The receipt and the case become durable, unless the promotion is unresolved. -/
def close (S : Settings) (c : RunCall C) (soak : Soak C) (intent : RollbackIntent C) (main : GitObject) (report : Report)
    (receipt : RollbackReceipt C) : Code C (Execution C) := do
  let settled := decide (receipt.outcome ≠ .reconciliationRequired)
  if settled then recordDrill (.rollbackReceipt c.request.operationId) receipt
  let case ← Prog.ofOption
    (CaseResult.build (makeCase S c.request main soak c.authorization intent receipt)) (.error "invalid case result")
  if settled then recordDrill (.caseResult c.request.operationId caseId) case
  return ⟨c.request, soak, c.authorization, intent, receipt, case, report,
    evidence soak c.authorization intent receipt, false⟩

def run (S : Settings) (promotion : PromoteCall → Code C Report) (c : RunCall C) : Code C (Execution C) := do
  fences S c
  let existing ← readRecord (.caseResult c.request.operationId caseId)
  match existing with
  | some case => replay S c.request case c.authorization
  | none => do
    let (soak, intent) ← prepare S c
    let report ← promotion (c.promoteCall S)
    Prog.require (report.operationId = c.request.promotionOperationId)
      (.error "promotion report operation identity differs")
    let main ← assertMain c.request.mainBeforeCommit
    let receipt ← receiptOf S c intent report
    close S c soak intent main report receipt

end Rollback

end AvoCorrelate.Promotion
