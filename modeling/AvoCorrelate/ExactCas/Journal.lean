import AvoCorrelate.ExactCas.Records
import AvoCorrelate.Lib.Programs
/-!
# The exact-CAS journal

Each record has one index file, created once. An index points to a stored
object; a file here holds the record itself, since objects are addressed by
digest and installed before their index. The verifier, the trusted source and
the artifact store are ports, like those of the controller: any answer may come
back. Every record and read is a program over these, as the source orders its
steps, with its error texts.
-/
open AvoLib

namespace AvoCorrelate.ExactCas

variable {H : Doc → Sha256Digest}

/-! ## Files -/

/-- An index file. There is one activation; the others are kept by operation. -/
inductive Key
  | activation
  | authorization (operationId : Sha256Digest)
  | intent (operationId : Sha256Digest)
  | dispatchStarted (operationId : Sha256Digest)
  | receipt (operationId : Sha256Digest)
  | postState (operationId : Sha256Digest)
  | reconciliation (operationId : Sha256Digest)
  | completion (operationId : Sha256Digest)
  deriving DecidableEq

def Key.kind : Key → String
  | .activation => "activation"
  | .authorization _ => "authorization"
  | .intent _ => "intent"
  | .dispatchStarted _ => "dispatch-started"
  | .receipt _ => "receipt"
  | .postState _ => "post-state"
  | .reconciliation _ => "reconciliation"
  | .completion _ => "completion"

/-- The contract of the records under a key (`_RECORDS`). -/
abbrev Rec (H : Doc → Sha256Digest) : Key → Type
  | .activation => Activation
  | .authorization _ => Authorization H
  | .intent _ => Intent H
  | .dispatchStarted _ => DispatchStarted H
  | .receipt _ => Receipt H
  | .postState _ => PostState H
  | .reconciliation _ => Reconciliation H
  | .completion _ => Completion

instance Rec.decEq : (k : Key) → DecidableEq (Rec H k)
  | .activation => inferInstanceAs (DecidableEq Activation)
  | .authorization _ => inferInstanceAs (DecidableEq (Authorization H))
  | .intent _ => inferInstanceAs (DecidableEq (Intent H))
  | .dispatchStarted _ => inferInstanceAs (DecidableEq (DispatchStarted H))
  | .receipt _ => inferInstanceAs (DecidableEq (Receipt H))
  | .postState _ => inferInstanceAs (DecidableEq (PostState H))
  | .reconciliation _ => inferInstanceAs (DecidableEq (Reconciliation H))
  | .completion _ => inferInstanceAs (DecidableEq Completion)

/-! ## Ports -/

/-- The evidence that the trusted source points to. -/
structure EvidenceRef where
  operationId : Sha256Digest
  planDigest : Sha256Digest
  planRef : ArtifactRef
  packageDigest : Sha256Digest
  compositionDigest : Sha256Digest
  baseCommit : GitObject
  baseTree : GitObject
  candidateCommit : GitObject
  candidateTree : GitObject
  candidateRef : String
  deriving DecidableEq

def EvidenceRef.Binds (e : EvidenceRef) (a : Activation) : Prop :=
  e.operationId = a.source.sourceOperationId ∧ e.planDigest = a.source.sourcePlanDigest ∧
    e.planRef = a.sourcePlanArtifact ∧ e.packageDigest = a.source.sourcePackageDigest ∧
    e.compositionDigest = a.source.sourceCompositionDigest ∧ e.baseCommit = a.source.baseCommit ∧
    e.baseTree = a.source.baseTree ∧ e.candidateCommit = a.source.candidateCommit ∧
    e.candidateTree = a.source.candidateTree ∧ e.candidateRef = a.source.candidateRef

instance (e : EvidenceRef) (a : Activation) : Decidable (e.Binds a) := inferInstanceAs (Decidable (_ ∧ _))

/-- What the authority verifier is asked to accept. -/
inductive Verification (H : Doc → Sha256Digest)
  | activation (activation : Activation) (evidence : EvidenceRef)
  | authorization (authorization : Authorization H) (activation : Activation)
  | receipt (receipt : Receipt H) (intent : Intent H) (marker : DispatchStarted H)
  | postState (observation : PostState H) (receipt : Receipt H)
  | reconciliation (reconciliation : Reconciliation H) (receipt : Receipt H) (observation : PostState H)
  | completion (completion : Completion) (receipt : Receipt H) (observation : PostState H)
    (reconciliation : Option (Reconciliation H))

def Verification.kind : Verification H → String
  | .activation _ _ => "activation"
  | .authorization _ _ => "authorization"
  | .receipt _ _ _ => "receipt"
  | .postState _ _ => "post-state"
  | .reconciliation _ _ _ => "reconciliation"
  | .completion _ _ _ _ => "completion"

inductive Port (H : Doc → Sha256Digest)
  -- TrustedMainGraduationEvidenceReader.read
  | trustedRead (sourceOperationId : Sha256Digest)
  -- MainPersonalExactCasAuthorityVerifier.verify_*
  | verify (v : Verification H)
  -- FilesystemArtifactStore.put_bytes and the directories it needs
  | install (k : Key)
  -- MainPersonalExactCasTrustedClock.now
  | now
  -- MainPersonalExactCasLeasePort.assert_current
  | assertCurrent (operationId : Sha256Digest) (targetRef : MainRef) (leaseIdentity : String)
    (leaseDigest : Sha256Digest) (leaseExpiresAt now : Instant)
  -- MainPersonalExactCasDispatchPort.apply
  | apply (intent : Intent H) (marker : DispatchStarted H)
  -- MainPersonalExactCasPostStateReader.observe
  | observe (intent : Intent H) (receipt : Receipt H)

inductive TrustedAnswer
  | raised
  -- not a concrete accepted result
  | refused
  | accepted (evidence : Option EvidenceRef)

/-- Only the value `True` accepts. -/
inductive Verdict
  | raised
  | returned (isTrue : Bool)

inductive Installed
  | installed | invalid | uncommitted | directoryNotDurable

inductive ClockAnswer
  | raised | naive
  | aware (t : Instant)

inductive LeaseAnswer
  | raised | current

/-- A record handed back by a port. Anything that is not a concrete record which
survives a second validation is `other`. -/
inductive Delivered (α : Type)
  | raised | other
  | delivered (v : α)

abbrev Port.Answer : Port H → Type
  | .trustedRead _ => TrustedAnswer
  | .verify _ => Verdict
  | .install _ => Installed
  | .now => ClockAnswer
  | .assertCurrent _ _ _ _ _ _ => LeaseAnswer
  | .apply _ _ => Delivered (Receipt H)
  | .observe _ _ => Delivered (PostState H)

/-! ## Programs -/

inductive Exc
  -- MainPersonalExactCasJournalError and its subclass
  | journal (message : String)
  | recordConflict (message : String)
  -- MainPersonalExactCasControllerError
  | controller (message : String)
  | value (message : String)
  -- whatever a port raised
  | port
  deriving DecidableEq

abbrev Code (H : Doc → Sha256Digest) (α : Type) := Prog (Rec H) (Port.Answer (H := H)) Exc α

/-- The size of canonical records and the journal's limit on it. -/
structure Limits (H : Doc → Sha256Digest) where
  recordBytes : (k : Key) → Rec H k → Nat
  maxRecordBytes : Nat

namespace Journal

def readRaw (k : Key) : Code H (Option (Rec H k)) :=
  .read k fun
    | .missing => .done none
    | .malformed => .raise (.journal ("malformed " ++ k.kind))
    | .found v => .done (some v)

/-- `_require`. -/
def requireRecord (k : Key) : Code H (Rec H k) := do
  let v ← readRaw k
  Prog.ofOption v (.journal (k.kind ++ " is missing"))

def verify (v : Verification H) : Code H Unit :=
  .port (.verify v) fun
    | .returned true => .done ()
    | _ => .raise (.journal (v.kind ++ " authority verification failed"))

def trustedEvidenceForActivation (a : Activation) : Code H EvidenceRef :=
  .port (.trustedRead a.source.sourceOperationId) fun
    | .raised => .raise (.journal "trusted source revalidation failed")
    | .refused => .raise (.journal "trusted source rejected activation")
    | .accepted none => .raise (.journal "activation source binding differs")
    | .accepted (some e) =>
      if e.Binds a then .done e else .raise (.journal "activation source binding differs")

def verifyActivation (a : Activation) : Code H Unit := do
  let evidence ← trustedEvidenceForActivation a
  verify (.activation a evidence)

/-- `_require_activation`, also called `_require_trusted_activation`. -/
def requireActivation (activationDigest : Sha256Digest) : Code H Activation := do
  let activation ← requireRecord .activation
  Prog.require (Activation.activationDigest H activation = activationDigest) (.journal "activation identity differs")
  verifyActivation activation
  return activation

/-- Named comparisons in order; the first that fails is reported. -/
def assertFields : List (String × Bool) → Code H Unit
  | [] => .done ()
  | (name, same) :: rest => if same then assertFields rest else .raise (.journal (name ++ " binding differs"))

def sourceFields (r a : SourceScope) : List (String × Bool) :=
  [("repository_digest", r.repositoryDigest = a.repositoryDigest), ("target_ref", r.targetRef = a.targetRef),
   ("source_operation_id", r.sourceOperationId = a.sourceOperationId),
   ("source_plan_digest", r.sourcePlanDigest = a.sourcePlanDigest),
   ("source_package_digest", r.sourcePackageDigest = a.sourcePackageDigest),
   ("source_composition_digest", r.sourceCompositionDigest = a.sourceCompositionDigest),
   ("base_commit", r.baseCommit = a.baseCommit), ("base_tree", r.baseTree = a.baseTree),
   ("candidate_commit", r.candidateCommit = a.candidateCommit), ("candidate_tree", r.candidateTree = a.candidateTree),
   ("candidate_ref", r.candidateRef = a.candidateRef), ("candidate_parents", r.candidateParents = a.candidateParents),
   ("protection_ruleset_digest", r.protectionRulesetDigest = a.protectionRulesetDigest),
   ("writer_app_id", r.writerAppId = a.writerAppId),
   ("writer_installation_id", r.writerInstallationId = a.writerInstallationId),
   ("writer_identity", r.writerIdentity = a.writerIdentity)]

def assertActivationScope (authorization : Authorization H) (activation : Activation) : Code H Unit :=
  assertFields (("activation_digest", decide (authorization.scope.activationDigest = activation.activationDigest H)) ::
    sourceFields authorization.scope.source activation.source)

/-- `_assert_scope`; the operation is not among the fields it compares. -/
def assertScope (r a : Scope) : Code H Unit :=
  assertFields (("activation_digest", decide (r.activationDigest = a.activationDigest)) ::
    sourceFields r.source a.source ++
    [("lease_identity", decide (r.leaseIdentity = a.leaseIdentity)), ("lease_digest", r.leaseDigest = a.leaseDigest),
     ("lease_expires_at", r.leaseExpiresAt = a.leaseExpiresAt), ("claim_nonce", r.claimNonce = a.claimNonce),
     ("claim_digest", r.claimDigest = a.claimDigest)])

/-- `_record`. The answer says whether this call created the index. -/
def record (L : Limits H) (k : Key) (v : Rec H k) : Code H Bool :=
  if L.maxRecordBytes < L.recordBytes k v then .raise (.journal ("invalid " ++ k.kind))
  else .port (.install k) fun
    | .invalid => .raise (.journal ("invalid " ++ k.kind))
    | .uncommitted => .raise (.journal (k.kind ++ " object was not durably committed"))
    | .directoryNotDurable => .raise (.journal (k.kind ++ " index directory is not durable"))
    | .installed => .publish k v fun
      | .created => .done true
      | .failed => .raise (.journal (k.kind ++ " index was not durably committed"))
      | .lost => .raise (.journal (k.kind ++ " index was not durably committed"))
      | .taken => .read k fun
        | .missing => .raise (.journal (k.kind ++ " index is malformed"))
        | .malformed => .raise (.journal (k.kind ++ " index is malformed"))
        | .found old => if old = v then .done false else .raise (.recordConflict ("conflicting " ++ k.kind))

def assertReceiptBinding (receipt : Receipt H) (intent : Intent H) (marker : DispatchStarted H) : Code H Unit :=
  Prog.require (receipt.authorizationDigest = intent.authorizationDigest ∧
    receipt.intentDigest = intent.intentDigest ∧ receipt.dispatchMarkerDigest = marker.dispatchMarkerDigest)
    (.journal "receipt authority binding differs")

def assertPostStateBinding (observation : PostState H) (receipt : Receipt H) : Code H Unit :=
  Prog.require (observation.authorizationDigest = receipt.authorizationDigest ∧
    observation.intentDigest = receipt.intentDigest ∧ observation.receiptDigest = receipt.receiptDigest ∧
    observation.receiptOutcome = receipt.outcome)
    (.journal "post-state receipt binding differs")

def AppliedArm (receipt : Receipt H) (observation : PostState H) (reconciliation : Option (Reconciliation H)) : Prop :=
  receipt.outcome = .applied ∧ observation.receiptOutcome = .applied ∧ reconciliation = none

instance (receipt : Receipt H) (observation : PostState H) (reconciliation : Option (Reconciliation H)) :
    Decidable (AppliedArm receipt observation reconciliation) := inferInstanceAs (Decidable (_ ∧ _))

def RecoveredArm (receipt : Receipt H) (observation : PostState H) (reconciliation : Option (Reconciliation H)) :
    Prop :=
  receipt.outcome = .ambiguous ∧ observation.receiptOutcome = .ambiguous ∧
    reconciliation.any (fun r => r.outcome = .applied) = true

instance (receipt : Receipt H) (observation : PostState H) (reconciliation : Option (Reconciliation H)) :
    Decidable (RecoveredArm receipt observation reconciliation) := inferInstanceAs (Decidable (_ ∧ _))

def assertCompletionArm (completion : Completion) (receipt : Receipt H) (observation : PostState H)
    (reconciliation : Option (Reconciliation H)) : Code H Unit := do
  Prog.require (observation.Exact ∧
    (AppliedArm receipt observation reconciliation ∨ RecoveredArm receipt observation reconciliation))
    (.journal "completion is not an authenticated applied result")
  Prog.require (completion.activationDigest = receipt.scope.activationDigest ∧
    completion.receiptDigest = receipt.receiptDigest ∧
    completion.postStateObservationDigest = observation.canonicalDigest ∧
    completion.reconciliationDigest =
      if AppliedArm receipt observation reconciliation then none
      else reconciliation.map Reconciliation.canonicalDigest)
    (.journal "completion binding differs")

/-! ## Reading -/

/-- How far `_revalidate_chain` goes. -/
inductive Through
  | authorization | intent | dispatchStarted | receipt | postState | reconciliation | completion
  deriving DecidableEq

/-- The reconciliation, if there is one, is over this receipt and observation. -/
def revalidateReconciliation (reconciliation : Option (Reconciliation H)) (receipt : Receipt H)
    (observation : PostState H) : Code H Unit :=
  match reconciliation with
  | none => .done ()
  | some r => do
    Prog.require (receipt.outcome = .ambiguous ∧ r.ambiguousReceipt = receipt.toReceiptBody ∧
      r.observation = observation.toPostStateBody) (.journal "reconciliation evidence differs")
    verify (.reconciliation r receipt observation)

def revalidateCompletion (completion : Option Completion) (receipt : Receipt H) (observation : PostState H)
    (reconciliation : Option (Reconciliation H)) : Code H Unit :=
  match completion with
  | none => .done ()
  | some c => do
    assertCompletionArm c receipt observation reconciliation
    verify (.completion c receipt observation reconciliation)

def revalidateChain (operationId : Sha256Digest) (through : Through) : Code H Unit := do
  let activation ← requireRecord .activation
  verifyActivation activation
  let authorization ← requireRecord (.authorization operationId)
  assertActivationScope authorization activation
  verify (.authorization authorization activation)
  if through = .authorization then return ()
  let intent ← requireRecord (.intent operationId)
  assertScope intent.scope authorization.scope
  Prog.require (intent.authorizationDigest = authorization.authorizationDigest)
    (.journal "intent authorization binding differs")
  if through = .intent then return ()
  let found ← readRaw (.dispatchStarted operationId)
  let marker ← Prog.ofOption found (.journal "dispatch marker is missing")
  assertScope marker.scope intent.scope
  Prog.require (marker.intentDigest = intent.intentDigest) (.journal "dispatch marker intent binding differs")
  if through = .dispatchStarted then return ()
  let receipt ← requireRecord (.receipt operationId)
  assertScope receipt.scope intent.scope
  assertReceiptBinding receipt intent marker
  verify (.receipt receipt intent marker)
  if through = .receipt then return ()
  let observation ← requireRecord (.postState operationId)
  assertScope observation.scope receipt.scope
  assertPostStateBinding observation receipt
  verify (.postState observation receipt)
  if through = .postState then return ()
  let reconciliation ← readRaw (.reconciliation operationId)
  revalidateReconciliation reconciliation receipt observation
  if through = .reconciliation then
    Prog.require (reconciliation.isSome = true) (.journal "reconciliation is missing")
    return ()
  let completion ← readRaw (.completion operationId)
  revalidateCompletion completion receipt observation reconciliation

/-- A record with its chain revalidated through its own kind. -/
def readChecked (k : Key) (operationId : Sha256Digest) (through : Through) : Code H (Option (Rec H k)) := do
  let result ← readRaw k
  if result.isSome then revalidateChain operationId through
  return result

def readIntent (operationId : Sha256Digest) : Code H (Option (Intent H)) :=
  readChecked (.intent operationId) operationId .intent

def readDispatchStarted (operationId : Sha256Digest) : Code H (Option (DispatchStarted H)) :=
  readChecked (.dispatchStarted operationId) operationId .dispatchStarted

def readReceipt (operationId : Sha256Digest) : Code H (Option (Receipt H)) :=
  readChecked (.receipt operationId) operationId .receipt

def readPostState (operationId : Sha256Digest) : Code H (Option (PostState H)) :=
  readChecked (.postState operationId) operationId .postState

def readReconciliation (operationId : Sha256Digest) : Code H (Option (Reconciliation H)) :=
  readChecked (.reconciliation operationId) operationId .reconciliation

def readCompletion (operationId : Sha256Digest) : Code H (Option Completion) :=
  readChecked (.completion operationId) operationId .completion

def requireVerifiedReceipt (operationId : Sha256Digest) : Code H (Receipt H) := do
  let intent ← requireRecord (.intent operationId)
  let _ ← requireActivation intent.scope.activationDigest
  let marker ← requireRecord (.dispatchStarted operationId)
  let receipt ← requireRecord (.receipt operationId)
  assertScope receipt.scope intent.scope
  assertReceiptBinding receipt intent marker
  verify (.receipt receipt intent marker)
  return receipt

/-! ## Recording -/

section Recording
variable (L : Limits H)

def recordActivation (activation : Activation) : Code H Unit := do
  verifyActivation activation
  let _ ← record L .activation activation

def recordAuthorization (authorization : Authorization H) : Code H Unit := do
  let activation ← requireActivation authorization.scope.activationDigest
  assertActivationScope authorization activation
  verify (.authorization authorization activation)
  let _ ← record L (.authorization authorization.operationId) authorization

def recordIntent (intent : Intent H) : Code H Unit := do
  let authorization ← requireRecord (.authorization intent.operationId)
  let _ ← requireActivation authorization.scope.activationDigest
  assertScope intent.scope authorization.scope
  Prog.require (intent.authorizationDigest = authorization.authorizationDigest)
    (.journal "intent authorization binding differs")
  let _ ← record L (.intent intent.operationId) intent

/-- Create the dispatch marker and say whether this caller created it. -/
def claimDispatchStarted (marker : DispatchStarted H) : Code H Bool := do
  let intent ← requireRecord (.intent marker.operationId)
  let _ ← requireActivation intent.scope.activationDigest
  assertScope marker.scope intent.scope
  Prog.require (marker.intentDigest = intent.intentDigest) (.journal "dispatch marker intent binding differs")
  record L (.dispatchStarted marker.operationId) marker

/-- The same steps as `claimDispatchStarted`, without its answer. -/
def recordDispatchStarted (marker : DispatchStarted H) : Code H Unit := do
  let _ ← claimDispatchStarted L marker

def recordReceipt (receipt : Receipt H) : Code H Unit := do
  let intent ← requireRecord (.intent receipt.operationId)
  let _ ← requireActivation intent.scope.activationDigest
  let marker ← requireRecord (.dispatchStarted receipt.operationId)
  assertScope receipt.scope intent.scope
  assertReceiptBinding receipt intent marker
  verify (.receipt receipt intent marker)
  let _ ← record L (.receipt receipt.operationId) receipt

def recordPostState (observation : PostState H) : Code H Unit := do
  let receipt ← requireVerifiedReceipt observation.operationId
  assertScope observation.scope receipt.scope
  assertPostStateBinding observation receipt
  verify (.postState observation receipt)
  let _ ← record L (.postState observation.operationId) observation

def recordReconciliation (reconciliation : Reconciliation H) : Code H Unit := do
  let receipt ← requireVerifiedReceipt reconciliation.operationId
  let observation ← requireRecord (.postState reconciliation.operationId)
  Prog.require (receipt.outcome = .ambiguous) (.journal "only ambiguous receipts can be reconciled")
  Prog.require (reconciliation.ambiguousReceipt = receipt.toReceiptBody ∧
    reconciliation.observation = observation.toPostStateBody) (.journal "reconciliation evidence differs")
  verify (.reconciliation reconciliation receipt observation)
  let _ ← record L (.reconciliation reconciliation.operationId) reconciliation

def recordCompletion (completion : Completion) : Code H Unit := do
  let receipt ← requireVerifiedReceipt completion.operationId
  let observation ← requireRecord (.postState completion.operationId)
  let reconciliation ← readReconciliation completion.operationId
  assertCompletionArm completion receipt observation reconciliation
  verify (.completion completion receipt observation reconciliation)
  let _ ← record L (.completion completion.operationId) completion

end Recording

end Journal

end AvoCorrelate.ExactCas
