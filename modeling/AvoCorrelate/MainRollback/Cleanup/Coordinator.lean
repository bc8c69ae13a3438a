import AvoCorrelate.MainRollback.Cleanup.Journal
/-!
# The cleanup of a rollback

What `MainRollbackCoordinator` does once the release is applied: the result is recorded,
the candidate ref is deleted, and what became of it is closed over. The stages before the
release, and the package after the cleanup, are ports.
-/
open AvoLib

namespace AvoCorrelate.MainRollback.Cleanup

variable {D : Type}

structure Config (D : Type) where
  cleanupPrincipal : Option (Principal D)
  observerPrincipal : Option (Principal D)
  providerIdentity : String
  providerApiVersion : String

inductive Call (D : Type)
  | execute (config : Config D) (sourceOperationId : D)
  | recover (a : Authority D) (result : ResultReceipt D) (i : CleanupIntent D)

def orRaise {α : Type} : Except String α → Code D α
  | .error message => .raise (.other message)
  | .ok v => .done v

def ask {α : Type} (p : Port D) (next : p.Answer → Code D α) : Code D α := .port p next

/-- `_canonical` of what a capability gave. -/
def canonical {α : Type} (model : String) : Reply α → Code D α
  | .returned v => .done v
  | .untyped => .raise (.coordinator ("provider returned an untyped " ++ model))
  | .raised message => .raise (.other message)

def now : Code D Instant := ask .clock orRaise

def verifyNamed (x : Shown D) : Code D Unit := ask (.verifyNamed x) orRaise

namespace Coordinator

variable [DecidableEq D] (C : Canon D)

/-- What `_cleanup` comes to: receipt, observation and terminal evidence. -/
abbrev Cleaned (D : Type) := CleanupReceipt D × Option (CleanupObservation D) × Option (TerminalEvidence D)

/-- The intent that `_cleanup_intent` builds. -/
def intentOf (config : Config D) (cleanup observer : Principal D) (separate : cleanup ≠ observer) (a : Authority D)
    (result : ResultReceipt D) (pullRequestNumber : Nat) (pullRequestUrl : String) (recordedAt : Instant) : CleanupIntent D where
  toMainBound := a.intent.toMainBound
  providerIdentity := config.providerIdentity
  providerApiVersion := config.providerApiVersion
  cleanupPrincipal := cleanup
  observer := observer
  observerProviderIdentity := config.providerIdentity
  observerProviderApiVersion := config.providerApiVersion
  separate := separate
  candidateRef := a.intent.candidateRef
  candidateCommit := a.intent.candidateCommit
  pullRequestNumber := pullRequestNumber
  pullRequestUrl := pullRequestUrl
  operationId := a.operationId
  sourceOperationId := a.intent.sourceOperationId
  completionPackageDigest := result.completionPackageDigest
  resultReceiptDigest := result.receiptDigest
  authorizationDigest := a.authorizationDigest
  recordedAt := recordedAt

def cleanupIntent (config : Config D) (a : Authority D) (result : ResultReceipt D) (pullRequestNumber : Nat)
    (pullRequestUrl : String) : Code D (CleanupIntent D) := do
  let cleanup ← Prog.ofOption config.cleanupPrincipal (.coordinator "cleanup and observer principal bindings are required")
  let observer ← Prog.ofOption config.observerPrincipal (.coordinator "cleanup and observer principal bindings are required")
  let existing ← Journal.readIntent C a.operationId
  let recordedAt ← (match existing with
    | none => now
    | some i => .done i.recordedAt : Code D Instant)
  if separate : cleanup ≠ observer then
    let candidate := intentOf config cleanup observer separate a result pullRequestNumber pullRequestUrl recordedAt
    Prog.require (candidate.Valid C) (.value "rollback cleanup intent is invalid")
    Prog.require (∀ i ∈ existing, i = candidate) (.coordinator "durable rollback cleanup intent differs from exact binding")
    return candidate
  else .raise (.value "cleanup mutator and observer principal tuples must differ")

/-- The claim of the dispatch, where nobody has made it. -/
def claim (operationId : D) (i : CleanupIntent D) : Code D Bool := do
  let owner ← Journal.readDispatchOwner C (i.digest C)
  match owner with
  | some _ => return false
  | none => do
    let recordedAt ← now
    Journal.claimDispatch C operationId (i.digest C) i.candidateRef recordedAt

/-- The branch of `_cleanup` that deletes the ref. -/
def delete (i : CleanupIntent D) : Code D (CleanupReceipt D) := do
  let r ← ask (.cleanupRollback i) (canonical "MainRollbackCleanupReceipt")
  Journal.record C .receipt r
  return r

/-- The branch of `_cleanup` after a lost race or a restart: nothing but reads. -/
def reconcile (operationId : D) (i : CleanupIntent D) : Code D (CleanupReceipt D) := do
  let prior ← Journal.readReceipt C operationId
  let r ← (match prior with
    | some r => .done r
    | none => do
      let observedAt ← now
      Journal.record C .receipt (i.reconciliationReceipt C observedAt)
      return i.reconciliationReceipt C observedAt : Code D (CleanupReceipt D))
  let o ← ask (.reconcileRollbackCleanup i r) (canonical "MainRollbackCleanupObservation")
  Journal.record C .observation o
  return r

/-- The receipt that `_cleanup` goes on with. -/
def dispatch (operationId : D) (i : CleanupIntent D) : Code D (CleanupReceipt D) := do
  let prior ← Journal.readReceipt C operationId
  match prior with
  | some r => return r
  | none => do
    let claimed ← claim C operationId i
    if claimed then delete C i else reconcile C operationId i

/-- The observation that an unsettled receipt is missing. `_record` gives the artifact
of the record, and the record is then looked for in it. -/
def observeAgain {α : Type} (i : CleanupIntent D) (r : CleanupReceipt D) : Code D α :=
  ask (.reconcileRollbackCleanup i r) fun
    | .returned o => do
      Journal.record C .observation o
      .raise (.type "'ArtifactRef' object is not subscriptable")
    | .untyped => .raise (.journal "invalid main graduation rollback-cleanup-observation")
    | .raised message => .raise (.other message)

/-- The terminal record that is there, or a new one. -/
def conclude (operationId : D) (i : CleanupIntent D) (r : CleanupReceipt D) (observation : Option (CleanupObservation D)) :
    Code D (Cleaned D) := do
  let prior ← Journal.readTerminal C operationId
  match prior with
  | some e => return (r, observation, some e)
  | none => do
    let observedAt ← now
    Journal.record C .terminal (i.terminalEvidence C operationId r observation observedAt)
    return (r, observation, some (i.terminalEvidence C operationId r observation observedAt))

/-- What `_cleanup` does with the receipt. -/
def settle (operationId : D) (result : ResultReceipt D) (i : CleanupIntent D) (r : CleanupReceipt D) : Code D (Cleaned D) := do
  verifyNamed (.receipt r i result)
  let observation ← Journal.readObservation C operationId
  match observation with
  | none => if r.outcome.unsettled then observeAgain C i r else conclude C operationId i r none
  | some o => do
    verifyNamed (.observation o i r)
    if r.outcome.unsettled = true ∧ o.outcome.gone = false then return (r, some o, none)
    else conclude C operationId i r (some o)

def cleanup (operationId : D) (result : ResultReceipt D) (i : CleanupIntent D) : Code D (Cleaned D) := do
  let r ← dispatch C operationId i
  settle C operationId result i r

/-- Another record of the preparation. -/
def readAncestor (a : Ancestor) (kind : String) (key : D) : Code D (Option D) :=
  ask (.readAncestor a key) (Journal.readOther kind)

/-- The comparison of `_recover_cleanup_scoped` with the records of the preparation. -/
def requireAncestry (a : Authority D) : Code D Unit := do
  let lease ← readAncestor .lease "lease-evidence-record" a.operationId
  let composition ← readAncestor .composition "rollback-composition" a.compositionId
  let auth ← Journal.readAuthorization a.operationId
  let rollback ← Journal.readRollbackIntent a.operationId
  let attempt ← readAncestor .attemptAuthority "rollback-attempt-authority" a.operationId
  let preparation ← readAncestor .preparationAuthorization "rollback-preparation-authorization" a.operationId
  Prog.require (lease = some (a.ancestor .lease)) (.coordinator "durable lease ancestry differs")
  Prog.require (composition = some (a.ancestor .composition)) (.coordinator "durable composition ancestry differs")
  Prog.require (auth = some a.authorizationDigest) (.coordinator "durable rollback authorization ancestry differs")
  Prog.require (rollback = some a.intent) (.coordinator "durable rollback intent ancestry differs")
  Prog.require (attempt = some (a.ancestor .attemptAuthority)) (.coordinator "durable attempt authority ancestry differs")
  Prog.require (preparation = some (a.ancestor .preparationAuthorization))
    (.coordinator "durable preparation authorization ancestry differs")

/-- `_recover_cleanup_scoped`. -/
def recoverCleanup (a : Authority D) (result : ResultReceipt D) (i : CleanupIntent D) : Code D (Outcome D) := do
  Prog.require (result.operationId = a.operationId ∧ i.operationId = a.operationId ∧ i.resultReceiptDigest = result.receiptDigest)
    (.coordinator "cleanup recovery operation binding differs")
  let durable ← Journal.readIntent C a.operationId
  Prog.require (durable = some i) (.coordinator "durable cleanup intent differs")
  let durable ← Journal.readResult a.operationId
  Prog.require (durable = some result) (.coordinator "durable rollback result differs")
  requireAncestry a
  let owner ← Journal.readDispatchOwner C (i.digest C)
  Prog.require owner.isSome (.coordinator "durable cleanup dispatch owner is missing")
  let (r, o, e) ← cleanup C a.operationId result i
  return .recovered r o e

/-- `_rollback_result`, for the value of the result builder. -/
def rollbackResult (a : Authority D) (result : ResultReceipt D) : Code D Unit := do
  verifyNamed (.result result a.intent a.authorizationDigest)
  Journal.record C .result result

/-- `_execute_authority` from the release on. -/
def closeRollback (config : Config D) (a : Authority D) (result : ResultReceipt D) (pullRequestNumber : Nat)
    (pullRequestUrl : String) : Code D (Outcome D) := do
  rollbackResult C a result
  ask (.postState result) orRaise
  let i ← cleanupIntent C config a result pullRequestNumber pullRequestUrl
  Journal.record C .intent i
  let (r, o, e) ← cleanup C a.operationId result i
  match e with
  | none => return .reconciliationRequired "cleanup" "cleanup remains unresolved"
  | some e => do
    ask (.package ⟨r, o, e⟩) orRaise
    return .completed (some ⟨r, o, e⟩)

def executeScoped (config : Config D) (sourceOperationId : D) : Code D (Outcome D) := do
  let earlier ← ask (.earlier sourceOperationId) orRaise
  match earlier with
  | .ended outcome => return outcome
  | .released a result number url => closeRollback C config a result number url

/-- `execute`: what is raised on the way becomes a quarantine. -/
def execute (config : Config D) (sourceOperationId : D) : Code D (Outcome D) := do
  let outcome ← (executeScoped C config sourceOperationId).attempt
  match outcome with
  | .ok outcome => return outcome
  | .error e =>
    match e.caught with
    | some reason => return .quarantined reason
    | none => .raise e

end Coordinator

def program [DecidableEq D] (C : Canon D) : Call D → Code D (Outcome D)
  | .execute config sourceOperationId => Coordinator.execute C config sourceOperationId
  | .recover a result i => Coordinator.recoverCleanup C a result i

end AvoCorrelate.MainRollback.Cleanup
