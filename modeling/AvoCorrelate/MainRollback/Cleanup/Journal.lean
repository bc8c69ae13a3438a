import AvoCorrelate.MainRollback.Cleanup.Records
import AvoCorrelate.Lib.Served
/-!
# The cleanup's part of the main graduation journal

An index is linked, so it appears at once and for good; it stands behind a port.
Reading a record repeats the checks of its kind, which read the records it names. The
records of the preparation and the checks of the rollback result are ports with any
answers, as are the verifiers.
-/
open AvoLib

namespace AvoCorrelate.MainRollback.Cleanup

variable {D : Type}

/-! ## Records and ports -/

/-- The kinds of record that are kept by operation. -/
inductive Kind
  | result | intent | receipt | observation | terminal
  deriving DecidableEq

def Kind.name : Kind → String
  | .result => "rollback-result"
  | .intent => "rollback-cleanup-intent"
  | .receipt => "rollback-cleanup-receipt"
  | .observation => "rollback-cleanup-observation"
  | .terminal => "rollback-cleanup-terminal"

abbrev Rec (D : Type) : Kind → Type
  | .result => ResultReceipt D
  | .intent => CleanupIntent D
  | .receipt => CleanupReceipt D
  | .observation => CleanupObservation D
  | .terminal => TerminalEvidence D

instance Rec.decEq [DecidableEq D] : (k : Kind) → DecidableEq (Rec D k)
  | .result => inferInstanceAs (DecidableEq (ResultReceipt D))
  | .intent => inferInstanceAs (DecidableEq (CleanupIntent D))
  | .receipt => inferInstanceAs (DecidableEq (CleanupReceipt D))
  | .observation => inferInstanceAs (DecidableEq (CleanupObservation D))
  | .terminal => inferInstanceAs (DecidableEq (TerminalEvidence D))

def Rec.operationId : {k : Kind} → Rec D k → D
  | .result, r => ResultReceipt.operationId r
  | .intent, i => CleanupIntent.operationId i
  | .receipt, r => CleanupReceipt.operationId r
  | .observation, o => CleanupObservation.operationId o
  | .terminal, e => TerminalEvidence.operationId e

/-- Other records of the preparation, by the digest of the whole. -/
inductive Ancestor
  | lease | composition | attemptAuthority | preparationAuthorization
  deriving DecidableEq

/-- `MainRollbackAuthorityResult`: what `MainRollbackAuthority.prepare` returns. -/
structure Authority (D : Type) where
  operationId : D
  compositionId : D
  intent : RollbackIntent D
  authorizationDigest : D
  ancestor : Ancestor → D

/-- What the authority verifiers are shown. -/
inductive Shown (D : Type)
  | result (r : ResultReceipt D) (rollback : RollbackIntent D) (authorizationDigest : D)
  | intent (i : CleanupIntent D) (rollback : RollbackIntent D) (r : ResultReceipt D) (authorizationDigest : D)
  | receipt (r : CleanupReceipt D) (i : CleanupIntent D) (result : ResultReceipt D)
  | observation (o : CleanupObservation D) (i : CleanupIntent D) (r : CleanupReceipt D)
  | terminal (e : TerminalEvidence D) (i : CleanupIntent D) (r : CleanupReceipt D)
  deriving DecidableEq

/-- What is closed over when a cleanup is over. -/
structure Closure (D : Type) where
  receipt : CleanupReceipt D
  observation : Option (CleanupObservation D)
  terminal : TerminalEvidence D
  deriving DecidableEq

/-- `RollbackResult`, and what `recover_cleanup` returns. -/
inductive Outcome (D : Type)
  -- the package holds the closure; none of this call's when it was there before
  | completed (closure : Option (Closure D))
  | reconciliationRequired (stage reason : String)
  | quarantined (reason : String)
  | recovered (receipt : CleanupReceipt D) (observation : Option (CleanupObservation D)) (terminal : Option (TerminalEvidence D))
  deriving DecidableEq

/-- What `execute` did up to the release: it is over, or the release is applied. -/
inductive Earlier (D : Type)
  | ended (outcome : Outcome D)
  | released (a : Authority D) (result : ResultReceipt D) (pullRequestNumber : Nat) (pullRequestUrl : String)

/-- What a capability gives: a value of the type that is expected, one of another, or
an exception. -/
inductive Reply (α : Type)
  | returned (v : α)
  | untyped
  | raised (message : String)
  deriving DecidableEq

inductive Port (D : Type)
  -- FilesystemArtifactStore.put_bytes
  | put
  | load (k : Kind) (operationId : D)
  | link (k : Kind) (record : Rec D k)
  | loadOwner (intentDigest : D)
  | linkOwner (marker : DispatchOwner D)
  -- the records of the preparation: rollback intent, authorization and the others
  | readRollbackIntent (operationId : D)
  | readAuthorization (operationId : D)
  | readAncestor (a : Ancestor) (key : D)
  -- _require_rollback_result, and the journal's verifier
  | requireResult (r : ResultReceipt D)
  | verify (x : Shown D)
  -- TrustedClock.now, and the coordinator's verifier
  | clock
  | verifyNamed (x : Shown D)
  -- the stages up to the release; the final state of main; the package and its record
  | earlier (sourceOperationId : D)
  | postState (r : ResultReceipt D)
  | package (c : Closure D)
  -- the cleanup capability
  | cleanupRollback (i : CleanupIntent D)
  | reconcileRollbackCleanup (i : CleanupIntent D) (r : CleanupReceipt D)

abbrev Port.Answer : Port D → Type
  | .put => Bool
  | .load k _ => Found (Rec D k)
  | .link _ _ => Published
  | .loadOwner _ => Found (DispatchOwner D)
  | .linkOwner _ => Published
  | .readRollbackIntent _ => Found (RollbackIntent D)
  | .readAuthorization _ => Found D
  | .readAncestor _ _ => Found D
  | .requireResult _ => Bool
  | .verify _ => Bool
  | .clock => Except String Instant
  | .verifyNamed _ => Except String Unit
  | .earlier _ => Except String (Earlier D)
  | .postState _ => Except String Unit
  | .package _ => Except String Unit
  | .cleanupRollback _ => Reply (CleanupReceipt D)
  | .reconcileRollbackCleanup _ _ => Reply (CleanupObservation D)

/-! ## Behind the ports -/

/-- The indexes of the records, and the dispatch owners. -/
structure Store (D : Type) where
  index : (k : Kind) → D → Option (Rec D k)
  owners : List (DispatchOwner D)

def Store.empty : Store D := ⟨fun _ _ => none, []⟩

def content {α : Type} : Option α → Found α
  | none => .missing
  | some v => .found v

section Serving
variable [DecidableEq D]

def Store.setIndex (s : Store D) (k : Kind) (record : Rec D k) : Store D :=
  { s with index := Function.update s.index k (Function.update (s.index k) record.operationId (some record)) }

def Store.owner (s : Store D) (intentDigest : D) : Option (DispatchOwner D) :=
  s.owners.find? fun m => m.intentDigest = intentDigest

def Store.setOwner (s : Store D) (m : DispatchOwner D) : Store D := { s with owners := m :: s.owners }

/-- Where an exclusive link leads, given what was there. -/
def linked {α : Type} (s s' : Store D) : Published → Option α → Option (Store D)
  | .created, none => some s'
  | .lost, none => some s'
  | .taken, some _ => some s
  | .failed, _ => some s
  | _, _ => none

/-- A read tells what is there, or fails. Links are atomic and exclusive; one whose
directory was not synced is lost to the caller and there. -/
def journal : Service (Port.Answer (D := D)) (Store D)
  | .load k operationId, r, s => if r = .malformed ∨ r = content (s.index k operationId) then some s else none
  | .link k record, r, s => linked s (s.setIndex k record) r (s.index k record.operationId)
  | .loadOwner intentDigest, r, s => if r = .malformed ∨ r = content (s.owner intentDigest) then some s else none
  | .linkOwner marker, r, s => linked s (s.setOwner marker) r (s.owner marker.intentDigest)
  | _, _, s => some s

end Serving

/-! ## Reading and recording -/

/-- What is raised: `MainGraduationJournalError`, its subclass for conflicts,
`MainRollbackCoordinatorError`, `ValueError`, `TypeError`, or anything else. -/
inductive Exc
  | journal (message : String)
  | conflict (message : String)
  | coordinator (message : String)
  | value (message : String)
  | type (message : String)
  | other (message : String)
  deriving DecidableEq

/-- The text of an exception that `execute` catches. -/
def Exc.caught : Exc → Option String
  | .journal m => some m
  | .conflict m => some m
  | .coordinator m => some m
  | .value m => some m
  | .type m => some m
  | .other _ => none

/-- No file is created in two steps. -/
abbrev NoFile : Empty → Type := fun k => k.elim

abbrev Code (D : Type) (α : Type) := Prog NoFile (Port.Answer (D := D)) Exc α

def unverifiable (kind : String) : Exc := .journal ("malformed or unverifiable main graduation " ++ kind)

/-- An exception that leaves `_read`: a conflict as it is, another as an unverifiable record. -/
def unread (kind : String) : Exc → Exc
  | .conflict m => .conflict m
  | _ => unverifiable kind

namespace Journal

variable [DecidableEq D]

/-- `_read`: what is indexed, with the checks of its kind. -/
def read (k : Kind) (operationId : D) (check : Rec D k → Code D Unit) : Code D (Option (Rec D k)) :=
  .port (.load k operationId) fun
    | .missing => .done none
    | .malformed => .raise (unverifiable k.name)
    | .found r => do
      let checked ← (check r).attempt
      match checked with
      | .error e => .raise (unread k.name e)
      | .ok () =>
        Prog.require (r.operationId = operationId) (.conflict "main graduation identity does not match index")
        return some r

/-- A record of the preparation, read by code with checks of its own. -/
def readOther {α : Type} (kind : String) : Found α → Code D (Option α)
  | .missing => .done none
  | .malformed => .raise (unverifiable kind)
  | .found v => .done (some v)

def verify (what : String) (x : Shown D) : Code D Unit :=
  .port (.verify x) fun ok => Prog.require (ok = true) (.journal (what ++ " authority verification failed"))

/-- `_require_rollback_result`. -/
def requireResult (r : ResultReceipt D) : Code D Unit :=
  .port (.requireResult r) fun ok => Prog.require (ok = true) (.journal "rollback result authority binding differs")

def readResult (operationId : D) : Code D (Option (ResultReceipt D)) := read .result operationId requireResult

def readRollbackIntent (operationId : D) : Code D (Option (RollbackIntent D)) :=
  .port (.readRollbackIntent operationId) (readOther "rollback-intent")

def readAuthorization (operationId : D) : Code D (Option D) :=
  .port (.readAuthorization operationId) (readOther "rollback-authorization")

variable (C : Canon D)

def BoundIntent (i : CleanupIntent D) (r : ResultReceipt D) (rollback : RollbackIntent D) (authorizationDigest : D) : Prop :=
  i.resultReceiptDigest = r.receiptDigest ∧ i.authorizationDigest = authorizationDigest ∧
  i.sourceOperationId = rollback.sourceOperationId ∧
  (i.candidateRef = rollback.candidateRef ∧ i.candidateCommit = rollback.candidateCommit) ∧
  i.toMainBound = rollback.toMainBound ∧
  (i.completionPackageDigest = r.completionPackageDigest ∧ i.completionPackageDigest = rollback.completionPackageDigest) ∧
  (i.providerIdentity = r.providerIdentity ∧ i.providerApiVersion = r.providerApiVersion) ∧
  r.outcome.success = true ∧ r.observedAt ≤ i.recordedAt

def BoundReceipt (r : CleanupReceipt D) (i : CleanupIntent D) : Prop :=
  r.intentDigest = i.digest C ∧ r.authorizationDigest = i.authorizationDigest ∧ r.toCandidate = i.toCandidate ∧
  r.toMainBound = i.toMainBound ∧ i.recordedAt ≤ r.observedAt ∧ r.toBinding = i.toBinding

/-- An observation names what its intent and receipt name. A receipt that is direct has
the ref gone. -/
def BoundObservation (o : CleanupObservation D) (i : CleanupIntent D) (r : CleanupReceipt D) : Prop :=
  o.receiptDigest = r.digest C ∧ o.intentDigest = i.digest C ∧ o.toCandidate = i.toCandidate ∧ o.toMainBound = i.toMainBound ∧
  r.observedAt ≤ o.observedAt ∧ r.outcome ≠ .invalid ∧ (r.outcome.direct = true → o.outcome.gone = true) ∧
  o.toBinding = i.toBinding

def BoundTerminal (e : TerminalEvidence D) (i : CleanupIntent D) (r : CleanupReceipt D) : Prop :=
  e.cleanupIntentDigest = i.digest C ∧ e.cleanupReceiptDigest = r.digest C ∧ e.toCandidate = i.toCandidate ∧
  e.toMainBound = i.toMainBound ∧ r.observedAt ≤ e.observedAt ∧ (r.outcome.direct = true ∨ r.outcome.unsettled = true) ∧
  e.toBinding = i.toBinding

def ShowsGone (e : TerminalEvidence D) (i : CleanupIntent D) (r : CleanupReceipt D) (o : CleanupObservation D) : Prop :=
  e.cleanupObservationDigest = some (o.digest C) ∧ o.outcome.gone = true ∧ o.intentDigest = i.digest C ∧
  o.receiptDigest = r.digest C ∧ o.toCandidate = i.toCandidate ∧ o.toBinding = i.toBinding

instance (i : CleanupIntent D) (r : ResultReceipt D) (rollback : RollbackIntent D) (authorizationDigest : D) :
    Decidable (BoundIntent i r rollback authorizationDigest) := inferInstanceAs (Decidable (_ ∧ _))

instance (r : CleanupReceipt D) (i : CleanupIntent D) : Decidable (BoundReceipt C r i) := inferInstanceAs (Decidable (_ ∧ _))

instance (o : CleanupObservation D) (i : CleanupIntent D) (r : CleanupReceipt D) : Decidable (BoundObservation C o i r) :=
  inferInstanceAs (Decidable (_ ∧ _))

instance (e : TerminalEvidence D) (i : CleanupIntent D) (r : CleanupReceipt D) : Decidable (BoundTerminal C e i r) :=
  inferInstanceAs (Decidable (_ ∧ _))

instance (e : TerminalEvidence D) (i : CleanupIntent D) (r : CleanupReceipt D) (o : CleanupObservation D) :
    Decidable (ShowsGone C e i r o) := inferInstanceAs (Decidable (_ ∧ _))

/-- `_require_rollback_cleanup_intent`. -/
def requireIntent (i : CleanupIntent D) : Code D Unit := do
  Prog.require (i.Valid C) (.journal "invalid main graduation rollback-cleanup-intent")
  let result ← readResult i.operationId
  let rollback ← readRollbackIntent i.operationId
  let auth ← readAuthorization i.operationId
  match result, rollback, auth with
  | some result, some rollback, some auth => do
    Prog.require (BoundIntent i result rollback auth) (.journal "rollback cleanup intent binding differs")
    verify "rollback cleanup intent" (.intent i rollback result auth)
  | _, _, _ => .raise (.journal "rollback cleanup intent requires durable rollback result and authority")

def readIntent (operationId : D) : Code D (Option (CleanupIntent D)) := read .intent operationId (requireIntent C)

/-- `_require_rollback_cleanup_receipt`. -/
def requireReceipt (r : CleanupReceipt D) : Code D Unit := do
  let prior ← readIntent C r.operationId
  let i ← Prog.ofOption prior (.journal "rollback cleanup receipt requires durable intent")
  Prog.require (BoundReceipt C r i) (.journal "rollback cleanup receipt binding differs")
  let prior ← readResult r.operationId
  let result ← Prog.ofOption prior (.journal "rollback cleanup receipt requires a durable rollback result")
  verify "rollback cleanup receipt" (.receipt r i result)

def readReceipt (operationId : D) : Code D (Option (CleanupReceipt D)) := read .receipt operationId (requireReceipt C)

/-- `_require_rollback_cleanup_observation`. -/
def requireObservation (o : CleanupObservation D) : Code D Unit := do
  let receipt ← readReceipt C o.operationId
  let intent ← readIntent C o.operationId
  match receipt, intent with
  | some r, some i => do
    Prog.require (BoundObservation C o i r) (.journal "rollback cleanup observation binding differs")
    verify "rollback cleanup observation" (.observation o i r)
  | _, _ => .raise (.journal "rollback cleanup observation requires durable receipt and intent")

def readObservation (operationId : D) : Code D (Option (CleanupObservation D)) :=
  read .observation operationId (requireObservation C)

/-- `_require_rollback_cleanup_terminal`. -/
def requireTerminal (e : TerminalEvidence D) : Code D Unit := do
  Prog.require (Https e.pullRequestUrl) (.journal "invalid main graduation rollback-cleanup-terminal")
  let intent ← readIntent C e.operationId
  let receipt ← readReceipt C e.operationId
  match intent, receipt with
  | some i, some r => do
    Prog.require (BoundTerminal C e i r) (.journal "rollback cleanup terminal binding differs")
    if r.outcome.unsettled then do
      let observation ← readObservation C e.operationId
      let o ← Prog.ofOption observation (.journal "ambiguous cleanup requires durable terminal cleanup observation")
      Prog.require (ShowsGone C e i r o) (.journal "ambiguous cleanup terminal observation binding differs")
    else Prog.require (e.cleanupObservationDigest = none) (.journal "direct cleanup terminal evidence cannot bind an observation")
    verify "rollback cleanup terminal" (.terminal e i r)
  | _, _ => .raise (.journal "rollback cleanup terminal evidence requires durable intent and receipt")

def readTerminal (operationId : D) : Code D (Option (TerminalEvidence D)) := read .terminal operationId (requireTerminal C)

def checkOf : (k : Kind) → Rec D k → Code D Unit
  | .result => requireResult
  | .intent => requireIntent C
  | .receipt => requireReceipt C
  | .observation => requireObservation C
  | .terminal => requireTerminal C

/-- `put_bytes`. -/
def put : Code D Unit := .port .put fun ok => Prog.require (ok = true) (.other "artifact store")

def record (k : Kind) (r : Rec D k) : Code D Unit := do
  checkOf C k r
  put
  .port (.link k r) fun
    | .created => .done ()
    | .taken => .port (.load k r.operationId) fun
      | .found old => Prog.require (old = r)
          (.conflict ("conflicting main graduation " ++ k.name ++ " for sha256:" ++ C.hex r.operationId))
      | _ => .raise (.journal "main graduation index is malformed")
    | .failed => .raise (.journal "main graduation record was not indexed")
    | .lost => .raise (.journal "main graduation record was not indexed")

/-- `read_rollback_cleanup_dispatch_owner`. -/
def readDispatchOwner (intentDigest : D) : Code D (Option (DispatchOwner D)) :=
  .port (.loadOwner intentDigest) fun
    | .missing => .done none
    | .malformed => .raise (.journal "rollback-cleanup-dispatch-owner index is malformed")
    | .found m => do
      let prior ← readIntent C m.operationId
      let i ← Prog.ofOption prior (.journal "rollback cleanup dispatch owner intent is missing")
      Prog.require (m.intentDigest = i.digest C ∧ m.candidateRef = i.candidateRef)
        (.journal "rollback cleanup dispatch owner is malformed")
      return some m

/-- `claim_rollback_cleanup_dispatch`. -/
def claimDispatch (operationId intentDigest : D) (candidateRef : String) (recordedAt : Instant) : Code D Bool := do
  let prior ← readIntent C operationId
  let i ← Prog.ofOption prior (.journal "rollback cleanup dispatch owner requires durable cleanup intent")
  Prog.require (i.digest C = intentDigest ∧ i.candidateRef = candidateRef)
    (.conflict "rollback cleanup dispatch owner binding differs")
  let marker : DispatchOwner D := ⟨operationId, intentDigest, candidateRef, recordedAt⟩
  put
  .port (.linkOwner marker) fun
    | .created => .done true
    -- another claim won, or this very marker is there
    | .taken => .port (.loadOwner intentDigest) fun
      | .found current => if current = marker then .done false else do
          let existing ← readDispatchOwner C intentDigest
          Prog.require existing.isSome (.conflict "conflicting rollback cleanup dispatch owner")
          return false
      | _ => .raise (.journal "rollback cleanup dispatch owner index is malformed")
    | .failed => .raise (.journal "rollback cleanup dispatch owner was not durably indexed")
    | .lost => .raise (.journal "rollback cleanup dispatch owner was not durably indexed")

end Journal

end AvoCorrelate.MainRollback.Cleanup
