import AvoCorrelate.ExactCas.Journal
/-!
# The exact-CAS controller

`execute` runs an operation once or recovers one that was started. The `try`
blocks of the source are programs of their own here, and `attempt` is where it
catches what they raise.
-/
open AvoLib

namespace AvoCorrelate.ExactCas

variable {H : Doc → Sha256Digest}

inductive ControllerState
  | completed | rejected | reconciliationRequired
  deriving DecidableEq

structure ControllerResult where
  operationId : Sha256Digest
  state : ControllerState
  outcome : Option PersonalCasOutcome
  dispatchStarted : Bool
  dispatchCount : Nat
  completionReplayed : Bool
  reason : String
  deriving DecidableEq

namespace Controller

def unresolved (operationId : Sha256Digest) (reason : String) (dispatchStarted : Bool) (count : Nat) :
    ControllerResult :=
  ⟨operationId, .reconciliationRequired, some .ambiguous, dispatchStarted, count, false, reason⟩

/-- `_safe_failure`: a failure before the dispatch, reported as a rejection. -/
def safeFailure (operationId : Sha256Digest) (reason : String) : ControllerResult :=
  ⟨operationId, .rejected, some .rejected, false, 0, false, reason⟩

def authoritativeRejection (receipt : Receipt H) (count : Nat) : ControllerResult :=
  ⟨receipt.operationId, .rejected, some .rejected, receipt.dispatchStarted, count, false, "authoritative_rejection"⟩

def completedReplay (operationId : Sha256Digest) : ControllerResult :=
  ⟨operationId, .completed, some .applied, true, 0, true, "completed_replay"⟩

def completed (operationId : Sha256Digest) (count : Nat) : ControllerResult :=
  ⟨operationId, .completed, some .applied, true, count, false, "applied"⟩

/-- `now` and `_assert_aware`. -/
def trustedNow : Code H Instant :=
  .port .now fun
    | .raised => .raise .port
    | .naive => .raise (.value "trusted clock returned naive time")
    | .aware t => .done t

def assertBeforeExpiry (now expiry : Instant) : Code H Unit :=
  Prog.require (now < expiry) (.controller "lease expired")

def assertLease (b : Binding) (now : Instant) : Code H Unit :=
  .port (.assertCurrent b.operationId b.scope.source.targetRef b.scope.leaseIdentity b.scope.leaseDigest
      b.scope.leaseExpiresAt now) fun
    | .raised => .raise .port
    | .current => .done ()

def exactTopology (observation : PostState H) : Prop :=
  observation.observedRef.val = "refs/heads/main" ∧ observation.Exact

instance (observation : PostState H) : Decidable (exactTopology observation) := inferInstanceAs (Decidable (_ ∧ _))

def receiptExactlyBound (receipt : Receipt H) (intent : Intent H) (marker : DispatchStarted H) : Prop :=
  receipt.toBinding = intent.toBinding ∧ receipt.authorizationDigest = intent.authorizationDigest ∧
    receipt.intentDigest = intent.intentDigest ∧ receipt.dispatchMarkerDigest = marker.dispatchMarkerDigest

instance (receipt : Receipt H) (intent : Intent H) (marker : DispatchStarted H) :
    Decidable (receiptExactlyBound receipt intent marker) := inferInstanceAs (Decidable (_ ∧ _))

section
variable (L : Limits H)

/-! ## The intent -/

/-- Adopt the durable intent, or record one with the clock reading `now`. -/
def settleIntent (authorization : Authorization H) (now : Instant) : Option (Intent H) → Code H (Intent H)
  | some intent => do
    Prog.require (intent.authorizationDigest = authorization.authorizationDigest)
      (.value "authorization differs from durable intent")
    return intent
  | none => do
    let intent ← Prog.ofOption
      (Intent.build ⟨authorization.toBinding, authorization.authorizationDigest, now⟩) (.value "invalid intent")
    Journal.recordIntent L intent
    return intent

/-- The first `try` block after the recovery reads. -/
def acceptIntent (authorization : Authorization H) : Code H (Intent H) := do
  Journal.recordAuthorization L authorization
  let now ← trustedNow
  assertBeforeExpiry now authorization.scope.leaseExpiresAt
  Prog.require (authorization.authorizedAt ≤ now) (.value "trusted clock precedes authorization")
  assertLease authorization.toBinding now
  let existing ← Journal.readIntent authorization.operationId
  settleIntent L authorization now existing

/-! ## The marker -/

/-- The last gate before the marker: the marker, its clock reading, and whether
this call created it. -/
def claimMarker (intent : Intent H) : Code H (DispatchStarted H × Instant × Bool) := do
  let lastMoment ← trustedNow
  assertBeforeExpiry lastMoment intent.scope.leaseExpiresAt
  Prog.require (intent.recordedAt ≤ lastMoment) (.value "trusted clock precedes durable intent")
  assertLease intent.toBinding lastMoment
  let marker ← Prog.ofOption (DispatchStarted.build ⟨intent.toBinding, intent.intentDigest, lastMoment⟩)
    (.value "invalid dispatch marker")
  let created ← Journal.claimDispatchStarted L marker
  return (marker, lastMoment, created)

/-- Marker publication may pause, so time and lease are checked once more. -/
def recheck (intent : Intent H) (lastMoment : Instant) : Code H Unit := do
  let postMarker ← trustedNow
  assertBeforeExpiry postMarker intent.scope.leaseExpiresAt
  Prog.require (lastMoment ≤ postMarker) (.value "trusted clock regressed after marker")
  assertLease intent.toBinding postMarker

/-! ## The dispatch and its aftermath -/

/-- `_dispatch_once`. An invalid or unbound receipt counts as none. -/
def dispatchOnce (intent : Intent H) (marker : DispatchStarted H) : Code H (Option (Receipt H)) :=
  .port (.apply intent marker) fun
    | .raised => .done none
    | .other => .done none
    | .delivered receipt => .done (if receiptExactlyBound receipt intent marker then some receipt else none)

/-- The durable observation, or a new one that is recorded. -/
def settleObservation (intent : Intent H) (receipt : Receipt H) : Option (PostState H) → Code H (PostState H)
  | some observation => return observation
  | none => .port (.observe intent receipt) fun
    | .raised => .raise .port
    | .other => .raise (.value "post-state is not concrete")
    | .delivered observation => do
      Journal.recordPostState L observation
      return observation

def reconciliationOf (receipt : Receipt H) (observation : PostState H) : ReconciliationBody :=
  ⟨receipt.scope.activationDigest, receipt.operationId, receipt.toReceiptBody, observation.toPostStateBody,
    if exactTopology observation then .applied else .ambiguous, observation.observedAt⟩

/-- The durable reconciliation, or the one that follows from the observation. -/
def settleReconciliation (receipt : Receipt H) (observation : PostState H) :
    Option (Reconciliation H) → Code H (Reconciliation H)
  | some reconciliation => return reconciliation
  | none => do
    let reconciliation ← Prog.ofOption (Reconciliation.build (reconciliationOf receipt observation))
      (.value "invalid reconciliation")
    Journal.recordReconciliation L reconciliation
    return reconciliation

def completionOf (receipt : Receipt H) (observation : PostState H) (reconciliationDigest : Option Sha256Digest) :
    Completion :=
  ⟨receipt.scope.activationDigest, receipt.operationId, receipt.receiptDigest, observation.canonicalDigest,
    reconciliationDigest, observation.observedAt⟩

def complete (intent : Intent H) (receipt : Receipt H) (observation : PostState H)
    (reconciliationDigest : Option Sha256Digest) (count : Nat) : Code H ControllerResult := do
  Journal.recordCompletion L (completionOf receipt observation reconciliationDigest)
  return completed intent.operationId count

def close (intent : Intent H) (receipt : Receipt H) (count : Nat) (observation : Option (PostState H))
    (reconciliation : Option (Reconciliation H)) : Code H ControllerResult := do
  let observation ← settleObservation L intent receipt observation
  if receipt.outcome = .ambiguous then
    let reconciliation ← settleReconciliation L receipt observation reconciliation
    if exactTopology observation then
      complete L intent receipt observation (some reconciliation.canonicalDigest) count
    else return unresolved intent.operationId "ambiguous receipt remains unresolved" true count
  else if exactTopology observation then complete L intent receipt observation none count
  else return unresolved intent.operationId "applied receipt lacks exact post-state" true count

def observeAndClose (intent : Intent H) (receipt : Receipt H) (count : Nat) (observation : Option (PostState H))
    (reconciliation : Option (Reconciliation H)) : Code H ControllerResult := do
  let result ← (close L intent receipt count observation reconciliation).attempt
  match result with
  | .ok result => return result
  | .error _ => return unresolved intent.operationId "authoritative post-state is unresolved" true count

def finishReceipt (intent : Intent H) (receipt : Receipt H) (count : Nat) : Code H ControllerResult := do
  let recorded ← (Journal.recordReceipt L receipt).attempt
  match recorded with
  | .error _ => return unresolved intent.operationId "receipt was not durably authenticated" true count
  | .ok _ =>
    if receipt.outcome = .rejected then
      return { authoritativeRejection receipt count with operationId := intent.operationId }
    else observeAndClose L intent receipt count none none

/-- What `_recover_receipt` reads, or the gap it finds in the chain. -/
def recoveryReads (operationId : Sha256Digest) :
    Code H (Except String (Intent H × Option (PostState H) × Option (Reconciliation H))) := do
  let intent ← Journal.readIntent operationId
  let marker ← Journal.readDispatchStarted operationId
  match intent, marker with
  | some intent, some _ => do
    let observation ← Journal.readPostState operationId
    let reconciliation ← Journal.readReconciliation operationId
    if reconciliation.isSome ∧ observation.isNone then return .error "reconciliation chain is incomplete"
    else return .ok (intent, observation, reconciliation)
  | _, _ => return .error "receipt chain is incomplete"

def recoverReceipt (receipt : Receipt H) : Code H ControllerResult :=
  if receipt.outcome = .rejected then return authoritativeRejection receipt 0
  else do
    let reads ← (recoveryReads receipt.operationId).attempt
    match reads with
    | .error _ => return unresolved receipt.operationId "receipt recovery is unresolved" true 0
    | .ok (.error reason) => return unresolved receipt.operationId reason true 0
    | .ok (.ok (intent, observation, reconciliation)) =>
      observeAndClose L intent receipt 0 observation reconciliation

/-! ## The controller -/

/-- The marker and the receipt of an earlier call. -/
def recoveryState (operationId : Sha256Digest) : Code H (Option (DispatchStarted H) × Option (Receipt H)) := do
  let marker ← Journal.readDispatchStarted operationId
  let receipt ← Journal.readReceipt operationId
  return (marker, receipt)

/-- The sole dispatch, behind the marker of this call. -/
def dispatch (operationId : Sha256Digest) (intent : Intent H) (marker : DispatchStarted H) :
    Code H ControllerResult := do
  let receipt ← dispatchOnce intent marker
  match receipt with
  | none => return unresolved operationId "dispatch receipt is unresolved" true 1
  | some receipt => finishReceipt L intent receipt 1

def claimAndDispatch (operationId : Sha256Digest) (intent : Intent H) : Code H ControllerResult := do
  let claimed ← (claimMarker L intent).attempt
  match claimed with
  | .error _ => return safeFailure operationId "dispatch was fenced before start"
  | .ok (_, _, false) =>
    return unresolved operationId "dispatch marker is owned by another controller" true 0
  | .ok (marker, lastMoment, true) => do
    let fenced ← (recheck intent lastMoment).attempt
    match fenced with
    | .error _ => return unresolved operationId "dispatch was fenced after marker publication" true 0
    | .ok _ => dispatch L operationId intent marker

/-- A first run: no marker and no receipt were found. -/
def firstRun (authorization : Authorization H) : Code H ControllerResult := do
  let intent ← (acceptIntent L authorization).attempt
  match intent with
  | .error _ => return safeFailure authorization.operationId "intent was not durably recorded"
  | .ok intent => claimAndDispatch L authorization.operationId intent

def execute (authorization : Authorization H) : Code H ControllerResult := do
  let replay ← (Journal.readCompletion authorization.operationId).attempt
  match replay with
  | .error _ => return unresolved authorization.operationId "completion replay is unresolved" false 0
  | .ok (some _) => return completedReplay authorization.operationId
  | .ok none => do
    let state ← (recoveryState authorization.operationId).attempt
    match state with
    | .error _ => return unresolved authorization.operationId "durable recovery is unresolved" false 0
    | .ok (_, some receipt) => recoverReceipt L receipt
    | .ok (some _, none) => return unresolved authorization.operationId "dispatch marker has no receipt" false 0
    | .ok (none, none) => firstRun L authorization

end

end Controller

end AvoCorrelate.ExactCas
