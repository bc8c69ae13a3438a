import AvoCorrelate.Promotion.DrillRecords
import AvoCorrelate.Lib.Served
/-!
# The promotion journal

Lease evidence, intents, mutation authorizations and receipts each have one index
file, created once, and so have the records of the rollback drill. The live lease
of a target is a file too, but one that its owner removes: it is created, written,
read and removed through ports, and `Board` is what stands behind them. The other
ports (the provider, the verifier, the clocks, the object store) give any answer.
-/
open AvoLib

namespace AvoCorrelate.Promotion

open ExactCas (Sha256Digest GitObject)

variable {C : Canon}

/-! ## Files -/

/-- An index file, kept by operation. -/
inductive Key
  | leaseEvidence (operationId : Sha256Digest)
  | intent (operationId : Sha256Digest)
  | mutationAuthorization (operationId : Sha256Digest)
  | receipt (operationId : Sha256Digest)
  | soak (operationId : Sha256Digest)
  | rollbackAuthorization (operationId : Sha256Digest)
  | rollbackIntent (operationId : Sha256Digest)
  | rollbackReceipt (operationId : Sha256Digest)
  | caseResult (operationId : Sha256Digest) (caseId : Nat)
  deriving DecidableEq

def Key.kind : Key → String
  | .leaseEvidence _ => "lease-evidence"
  | .intent _ => "intent"
  | .mutationAuthorization _ => "mutation-authorization"
  | .receipt _ => "receipt"
  | .soak _ => "soak"
  | .rollbackAuthorization _ => "rollback-authorization"
  | .rollbackIntent _ => "rollback-intent"
  | .rollbackReceipt _ => "rollback-receipt"
  | .caseResult _ _ => "case"

def Key.operationId : Key → Sha256Digest
  | .leaseEvidence op | .intent op | .mutationAuthorization op | .receipt op | .soak op => op
  | .rollbackAuthorization op | .rollbackIntent op | .rollbackReceipt op | .caseResult op _ => op

def digestText (d : Sha256Digest) : String := "sha256:" ++ d.toHex

abbrev Rec (C : Canon) : Key → Type
  | .leaseEvidence _ => LeaseEvidence C
  | .intent _ => Intent C
  | .mutationAuthorization _ => MutationAuthorization
  | .receipt _ => Receipt C
  | .soak _ => Soak C
  | .rollbackAuthorization _ => RollbackAuthorization C
  | .rollbackIntent _ => RollbackIntent C
  | .rollbackReceipt _ => RollbackReceipt C
  | .caseResult _ _ => CaseResult C

instance Rec.decEq : (k : Key) → DecidableEq (Rec C k)
  | .leaseEvidence _ => inferInstanceAs (DecidableEq (LeaseEvidence C))
  | .intent _ => inferInstanceAs (DecidableEq (Intent C))
  | .mutationAuthorization _ => inferInstanceAs (DecidableEq MutationAuthorization)
  | .receipt _ => inferInstanceAs (DecidableEq (Receipt C))
  | .soak _ => inferInstanceAs (DecidableEq (Soak C))
  | .rollbackAuthorization _ => inferInstanceAs (DecidableEq (RollbackAuthorization C))
  | .rollbackIntent _ => inferInstanceAs (DecidableEq (RollbackIntent C))
  | .rollbackReceipt _ => inferInstanceAs (DecidableEq (RollbackReceipt C))
  | .caseResult _ _ => inferInstanceAs (DecidableEq (CaseResult C))

/-- The key that a record belongs under (`_id`). -/
def Rec.key : (k : Key) → Rec C k → Key
  | .leaseEvidence _, v => .leaseEvidence v.operationId
  | .intent _, v => .intent v.operationId
  | .mutationAuthorization _, v => .mutationAuthorization v.operationId
  | .receipt _, v => .receipt v.operationId
  | .soak _, v => .soak v.operationId
  | .rollbackAuthorization _, v => .rollbackAuthorization v.operationId
  | .rollbackIntent _, v => .rollbackIntent v.operationId
  | .rollbackReceipt _, v => .rollbackReceipt v.operationId
  | .caseResult _ _, v => .caseResult v.operationId v.caseId

/-! ## Ports -/

inductive Port (C : Canon)
  -- PublicationVerifier
  | verifyPublication (publication : Publication) (bundle : Bundle)
  -- FilesystemArtifactStore.put_bytes, with its size limit, and the directory sync
  | install (k : Key)
  -- the injected clock of the service and of the journal
  | clock
  -- datetime.now(UTC)
  | systemNow
  -- identity_factory
  | freshIdentity
  -- the live lease file: open("xb"), write and sync, read, unlink
  | createLease (lease : Lease)
  | writeLease (lease : Lease)
  | readLease (key : Sha256Digest)
  | removeLease (key : Sha256Digest)
  | intentFactory (lease : Lease)
  -- PromotionController.replay
  | replay (bundle : Bundle) (bundleDigest : Sha256Digest)
  -- GitHubIntegrationProvider: observe with _assert_intent, observe_integration, the first parent of a
  -- commit, _main_protection_evidence, read_authority_ref of main, the merging PUT, a commit, reconcile
  | observe (intent : Intent C)
  | observeIntegration (targetRef : String)
  | firstParent (commit : GitObject)
  | mainProtection
  | mainRef
  | put (intent : Intent C)
  | commitTopology (sha : String)
  | reconcile (intent : Intent C)
  -- the rollback drill: RollbackRepositoryVerifier.verify, the main head reader, IntegrationSoakPort.observe
  | verifyRepository (request : RollbackRequest)
  | mainHead
  | soak (request : RollbackRequest)

/-- What a port returned, or the text of what it raised. -/
inductive Answer (α : Type)
  | raised (message : String)
  | returned (v : α)

inductive ClockAnswer
  | raised (message : String)
  | naive
  | aware (t : Instant)

inductive Creation
  | created | exists | failed

inductive Removal
  | removed | missing | unsynced
  | failed (message : String)

structure PutResponse where
  merged : Option Bool
  message : Option String
  sha : Option String

/-- How the merging PUT ends: `GitHubRejected`, `GitHubTransportError`, a payload
that is no JSON object, or an object. -/
inductive PutAnswer
  | rejected (message : String)
  | transportError (message : String)
  | malformed
  | response (response : PutResponse)

structure CommitTopology where
  commit : GitObject
  tree : GitObject
  parents : List GitObject

abbrev Port.Answer : Port C → Type
  | .verifyPublication _ _ => Promotion.Answer Bool
  | .install _ => Promotion.Answer Unit
  | .clock => ClockAnswer
  | .systemNow => Instant
  | .freshIdentity => String
  | .createLease _ => Creation
  | .writeLease _ => Write
  | .readLease _ => Found Lease
  | .removeLease _ => Removal
  | .intentFactory _ => Promotion.Answer (Intent C)
  | .replay _ _ => Promotion.Answer ReplayReport
  | .observe _ => Promotion.Answer Observation
  | .observeIntegration _ => Promotion.Answer TargetObservation
  | .firstParent _ => Promotion.Answer GitObject
  | .mainProtection => Promotion.Answer Sha256Digest
  | .mainRef => Promotion.Answer GitObject
  | .put _ => PutAnswer
  | .commitTopology _ => Promotion.Answer CommitTopology
  | .reconcile _ => Promotion.Answer (Reconciliation C)
  | .verifyRepository _ => Promotion.Answer Unit
  | .mainHead => Promotion.Answer GitObject
  | .soak _ => Promotion.Answer (Soak C)

/-! ## Behind the ports -/

/-- A lease file: not there; created, its document not written yet; written. -/
inductive Slot
  | free
  | reserved (lease : Lease)
  | held (lease : Lease)
  deriving DecidableEq

def Slot.content : Slot → Found Lease
  | .free => .missing
  | .reserved _ => .malformed
  | .held lease => .found lease

/-- The lease files, and the identities that were handed out. -/
structure Board where
  leases : Sha256Digest → Slot
  identities : List String

def Board.set (b : Board) (key : Sha256Digest) (slot : Slot) : Board :=
  { b with leases := Function.update b.leases key slot }

def Board.empty : Board := ⟨fun _ => .free, []⟩

/-- Creating a lease file is atomic and exclusive. A document goes to the file that
was created for it: if that was removed in the meantime, it is lost. Removing takes
whatever is there. Identities are never handed out twice. -/
def board : Service (Port.Answer (C := C)) Board
  | .freshIdentity, identity, b =>
    if identity ∈ b.identities then none else some { b with identities := identity :: b.identities }
  | .createLease lease, r, b =>
    match r with
    | .created => if b.leases (lease.key C) = .free then some (b.set (lease.key C) (.reserved lease)) else none
    | .exists => if b.leases (lease.key C) = .free then none else some b
    | .failed => some b
  | .writeLease lease, r, b =>
    match r with
    | .torn => some b
    | .written | .unsynced =>
      if b.leases (lease.key C) = .reserved lease then some (b.set (lease.key C) (.held lease)) else some b
  | .readLease key, r, b =>
    match r with
    | .malformed => some b
    | .missing => if b.leases key = .free then some b else none
    | .found lease => if b.leases key = .held lease then some b else none
  | .removeLease key, r, b =>
    match r with
    | .removed | .unsynced => if b.leases key = .free then none else some (b.set key .free)
    | .missing => if b.leases key = .free then some b else none
    | .failed _ => some b
  | _, _, b => some b

/-! ## Programs -/

/-- What is raised: `IntegrationPromotionPreconditionError`, or any other
`ValueError`, `RuntimeError` or `OSError`. -/
inductive Exc
  | precondition (message : String)
  | error (message : String)
  deriving DecidableEq

/-- `str(exc)`. -/
def Exc.message : Exc → String
  | .precondition m => m
  | .error m => m

abbrev Code (C : Canon) (α : Type) := Prog (Rec C) (Port.Answer (C := C)) Exc α

def Answer.orRaise {α : Type} : Answer α → Code C α
  | .raised message => .raise (.error message)
  | .returned v => .done v

/-- Characters that `str.strip` removes. -/
def isStripped (c : Char) : Bool := isWhiteSpace c || (0x1C ≤ c.toNat && c.toNat ≤ 0x1F)

/-- `target_ref and target_ref.strip() == target_ref`. -/
def trimmed (s : String) : Bool :=
  !s.isEmpty && s.toList.head?.all (fun c => !isStripped c) && s.toList.getLast?.all (fun c => !isStripped c)

/-- `_aware` of a reading of the injected clock. -/
def readClock : Code C Instant :=
  .port .clock fun
    | .raised message => .raise (.error message)
    | .naive => .raise (.error "timestamp must be timezone-aware")
    | .aware t => .done t

namespace Journal

/-! ## Records -/

/-- The texts in which the two journals differ. -/
structure Texts where
  malformedIndex : String
  conflicting : String
  malformedRecord : String
  otherIdentity : String

def texts (k : Key) : Texts :=
  ⟨"existing promotion record index is malformed",
    "conflicting " ++ k.kind ++ " for operation " ++ digestText k.operationId,
    "malformed or unverifiable " ++ k.kind ++ " record",
    k.kind ++ " operation ID does not match index"⟩

def drillTexts (k : Key) : Texts :=
  ⟨"malformed drill index", "conflicting " ++ k.kind ++ " record", "malformed or unverifiable drill " ++ k.kind,
    "drill record identity does not match index"⟩

/-- `_record`: the record is durable afterwards, this one or an equal one. -/
def record (t : Texts) (k : Key) (v : Rec C k) : Code C Unit :=
  .port (.install k) fun
    | .raised message => .raise (.error message)
    | .returned _ => .publish k v fun
      | .created => .done ()
      -- the text of the operating system
      | .failed => .raise (.error "index is not durably recorded")
      | .lost => .raise (.error "index is not durably recorded")
      | .taken => .read k fun
        | .missing => .raise (.error t.malformedIndex)
        | .malformed => .raise (.error t.malformedIndex)
        | .found old => if old = v then .done () else .raise (.error t.conflicting)

def read (t : Texts) (k : Key) : Code C (Option (Rec C k)) :=
  .read k fun
    | .missing => .done none
    | .malformed => .raise (.error t.malformedRecord)
    | .found v => if Rec.key k v = k then .done (some v) else .raise (.error t.otherIdentity)

def readIntent (operationId : Sha256Digest) : Code C (Option (Intent C)) := read (texts (.intent operationId)) (.intent operationId)

def readReceipt (operationId : Sha256Digest) : Code C (Option (Receipt C)) :=
  read (texts (.receipt operationId)) (.receipt operationId)

def readLeaseEvidence (operationId : Sha256Digest) : Code C (Option (LeaseEvidence C)) :=
  read (texts (.leaseEvidence operationId)) (.leaseEvidence operationId)

def readMutationAuthorization (operationId : Sha256Digest) : Code C (Option MutationAuthorization) :=
  read (texts (.mutationAuthorization operationId)) (.mutationAuthorization operationId)

def recordIntent (intent : Intent C) : Code C Unit :=
  record (texts (.intent intent.operationId)) (.intent intent.operationId) intent

def recordReceipt (receipt : Receipt C) : Code C Unit :=
  record (texts (.receipt receipt.operationId)) (.receipt receipt.operationId) receipt

def recordLeaseEvidence (evidence : LeaseEvidence C) : Code C Unit :=
  record (texts (.leaseEvidence evidence.operationId)) (.leaseEvidence evidence.operationId) evidence

def recordMutationAuthorization (authorization : MutationAuthorization) : Code C Unit :=
  record (texts (.mutationAuthorization authorization.operationId)) (.mutationAuthorization authorization.operationId)
    authorization

/-! ## Leases -/

/-- The fields that `release_lease` compares. -/
def sameLease (C : Canon) (current lease : Lease) : Prop :=
  current.identity = lease.identity ∧ current.digest C = lease.digest C ∧
    current.repositoryDigest = lease.repositoryDigest ∧ current.targetRef = lease.targetRef

instance (current lease : Lease) : Decidable (sameLease C current lease) := inferInstanceAs (Decidable (_ ∧ _))

/-- Unlink the lease file. -/
def removeLease (key : Sha256Digest) : Code C Unit :=
  .port (.removeLease key) fun
    | .removed => .done ()
    | .missing => .raise (.error "lease disappeared before release")
    | .failed message => .raise (.error message)
    | .unsynced => .raise (.error
        "lease was removed but directory durability could not be confirmed; reconciliation required")

def releaseLease (lease : Lease) : Code C Unit :=
  .port (.readLease (lease.key C)) fun
    | .missing => .raise (.error "lease is missing or malformed")
    | .malformed => .raise (.error "lease is missing or malformed")
    | .found current =>
      if sameLease C current lease then removeLease (lease.key C)
      else .raise (.error "lease identity or digest does not match")

def readLease (repositoryDigest : Sha256Digest) (targetRef : String) : Code C (Option Lease) :=
  if trimmed targetRef then
    .port (.readLease (leaseKey C repositoryDigest targetRef)) fun
      | .missing => .done none
      | .malformed => .raise (.error "lease is malformed")
      | .found lease =>
        if lease.repositoryDigest = repositoryDigest ∧ lease.targetRef = targetRef then .done (some lease)
        else .raise (.error "lease scope does not match its key")
  else .raise (.error "target_ref must be non-empty and trimmed")

def releaseMatchingLease (repositoryDigest : Sha256Digest) (targetRef : String) (operationId : Sha256Digest)
    (identity : String) (digest : Sha256Digest) : Code C Bool := do
  let lease ← readLease repositoryDigest targetRef
  match lease with
  | none => return false
  | some lease => do
    Prog.require (lease.operationId = operationId ∧ lease.identity = identity ∧ lease.digest C = digest)
      (.error "lease recovery bindings do not match")
    releaseLease lease
    return true

def assertCurrent (lease : Lease) : Code C Unit :=
  .port (.readLease (lease.key C)) fun
    | .missing => .raise (.error "lease is missing or malformed")
    | .malformed => .raise (.error "lease is missing or malformed")
    | .found current => do
      Prog.require (current = lease) (.error "lease identity or digest does not match")
      .port .systemNow fun now => Prog.require (now < current.expiresAt) (.error "promotion lease has expired")

/-- `_exclusive_write` of the lease document. -/
def writeLease (lease : Lease) : Code C Unit :=
  .port (.createLease lease) fun
    | .exists => .raise (.error "promotion lease is occupied; expired or malformed leases are not auto-broken")
    | .failed => .raise (.error "promotion lease creation is not durably recorded; reconciliation required")
    | .created => .port (.writeLease lease) fun
      | .written => .done ()
      | .torn => .raise (.error "promotion lease creation is not durably recorded; reconciliation required")
      | .unsynced => .raise (.error "promotion lease creation is not durably recorded; reconciliation required")

/-- Record the evidence of a lease just written; without it the lease is given up. -/
def evidenceLease (lease : Lease) (evidence : LeaseEvidence C) : Code C Unit := do
  let recorded ← (recordLeaseEvidence evidence).attempt
  match recorded with
  | .ok _ => return ()
  | .error _ => do
    let released ← (releaseLease lease).attempt
    match released with
    | .ok _ => .raise (.error "promotion lease evidence is not durably recorded; reconciliation required")
    | .error _ => .raise (.error
        "promotion lease evidence failed and lease cleanup was not confirmed; operator reconciliation required")

def acquireLease (repositoryDigest : Sha256Digest) (targetRef : String) (operationId : Sha256Digest)
    (leaseSeconds : Int) : Code C Lease := do
  Prog.require (0 < leaseSeconds) (.error "lease_seconds must be positive")
  Prog.require (trimmed targetRef = true) (.error "target_ref must be non-empty and trimmed")
  let acquired ← readClock
  let identity ← (.port .freshIdentity .done : Code C String)
  let lease : Lease := ⟨operationId, repositoryDigest, targetRef, identity, acquired, acquired + leaseSeconds⟩
  let existing ← readLeaseEvidence operationId
  Prog.require (existing = none) (.error "operation already has durable promotion lease evidence")
  writeLease lease
  -- the contract may refuse the evidence, outside of any handler: the file stays
  let evidence ← Prog.ofOption (if h : lease.Evident C then some ⟨lease, h⟩ else none) (.error "invalid lease evidence")
  evidenceLease lease evidence
  return lease

end Journal

end AvoCorrelate.Promotion
