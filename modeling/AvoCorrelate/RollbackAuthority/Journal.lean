import AvoCorrelate.RollbackAuthority.Records
import AvoCorrelate.Graduation.Disk
/-!
# The journal under a rollback authority

The four records of an authority are create-once files of one operation. Whoever reads
one has its chain checked again: the intent against its composition, the authorization
against the intent, the lease and the source, the attempt and the preparation against
all of them. The completed source, the compositions and the lease of the operation are
read at ports.
-/
open AvoLib

namespace AvoCorrelate.RollbackAuthority

open ExactCas (GitObject)
open Graduation (MainBound Issuer Answer)
open MainRollback (Preparation)

variable {D : Type}

/-- The files of the journal, by the operation. -/
inductive Key (D : Type)
  | intent (operationId : D)
  | authorization (operationId : D)
  | attempt (operationId : D)
  | preparation (operationId : D)
  deriving DecidableEq

abbrev Rec : Key D → Type
  | .intent _ => Intent D
  | .authorization _ => Authorization D
  | .attempt _ => Attempt D
  | .preparation _ => Preparation D

def Key.operationId : Key D → D
  | .intent d => d
  | .authorization d => d
  | .attempt d => d
  | .preparation d => d

def Rec.operationId : (k : Key D) → Rec k → D
  | .intent _, i => Intent.operationId i
  | .authorization _, a => Authorization.operationId a
  | .attempt _, t => Attempt.operationId t
  | .preparation _, p => Preparation.operationId p

/-- Records of a graduation whose index is looked for. -/
inductive GraduationKind
  | plan
  | intent
  | preparationAuthorization
  deriving DecidableEq

inductive Port (D : Type)
  | clock
  | install
  -- the journal's other records: a completed package, a composition as it is stored, the lease of
  -- an operation, whether an index of the graduation is there
  | completion (operationId : D)
  | composition (compositionId : D)
  | lease (operationId : D)
  | indexPresent (kind : GraduationKind) (operationId : D)
  -- the target lease index, and the verifier of leases
  | assertTargetLease (lease : Lease D)
  | verifyLease (lease : Lease D)
  -- the controller
  | acquire (operationId : D) (target : MainBound D)
  | currentAuthority

abbrev Port.Answer : Port D → Type
  | .clock => Graduation.Answer Instant
  | .install => Graduation.Answer Unit
  -- with the digest of the reference
  | .completion _ => Graduation.Answer (Option (Source D × D))
  | .composition _ => Graduation.Answer (Option (Composition D × Ref D))
  | .lease _ => Graduation.Answer (Option (Lease D))
  | .indexPresent _ _ => Bool
  | .assertTargetLease _ => Graduation.Answer Unit
  | .verifyLease _ => Graduation.Answer Unit
  | .acquire _ _ => Graduation.Answer (Lease D)
  | .currentAuthority => Graduation.Answer (CurrentAuthority D)

inductive Exc
  | journal (message : String)
  | conflict (message : String)
  | authority (message : String)
  -- a record that does not pass its validator
  | value (message : String)
  | other (message : String)
  deriving DecidableEq

abbrev Code (D : Type) (α : Type) := Prog (Rec (D := D)) (Port.Answer (D := D)) Exc α

abbrev Disc (D : Type) := Files (Rec (D := D))

/-- What a port returns, or raise what it raised. -/
def raising {α : Type} (e : String → Exc) : Graduation.Answer α → Code D α
  | .raised message => .raise (e message)
  | .returned v => .done v

/-- What a reader of the journal returns. -/
def orRaise {α : Type} : Graduation.Answer α → Code D α := raising .journal

variable [DecidableEq D] (C : Canon D)

instance (k : Key D) : DecidableEq (Rec k) :=
  match k with
  | .intent _ => inferInstanceAs (DecidableEq (Intent D))
  | .authorization _ => inferInstanceAs (DecidableEq (Authorization D))
  | .attempt _ => inferInstanceAs (DecidableEq (Attempt D))
  | .preparation _ => inferInstanceAs (DecidableEq (Preparation D))

namespace Journal

/-- What the journal is opened with. -/
structure Config (D : Type) where
  policyEpoch : Option D
  releaseIssuerBinding : Option (IssuerBinding D)

variable (J : Config D)

/-! ## Records of others -/

def completion (operationId : D) : Code D (Option (Source D × D)) := .port (.completion operationId) orRaise

def lease (operationId : D) : Code D (Option (Lease D)) := .port (.lease operationId) orRaise

def indexPresent (kind : GraduationKind) (operationId : D) : Code D Bool := .port (.indexPresent kind operationId) .done

/-- The condition of `_require_rollback_composition`. -/
def CompositionOf (c : Composition D) (source : Source D) : Prop :=
  c.completionPackageDigest = source.digest ∧ c.originalDeltaDigest = source.deltaDigest ∧
    c.currentMainCommit = source.mainCommit ∧ c.currentMainTree = source.mainTree ∧
    source.mainParents.head? = some c.currentMainParentCommit ∧ c.currentMainParentCommit = source.baseCommit ∧
    c.inverseChangedPaths = source.changedPaths ∧ c.inverseTree = source.baseTree ∧ c.toMainBound = source.toMainBound ∧
    c.policyEpoch = source.policyEpoch ∧ c.candidateParentCommit = c.currentMainCommit ∧
    c.candidateCommit ≠ c.currentMainCommit ∧ c.candidateTree = c.inverseTree

instance (c : Composition D) (source : Source D) : Decidable (CompositionOf c source) := by
  unfold CompositionOf; infer_instance

/-- `read_rollback_composition`. -/
def readComposition (compositionId : D) : Code D (Option (Composition D × Ref D)) := do
  let stored ← .port (.composition compositionId) orRaise
  match stored with
  | none => return none
  | some (c, ref) => do
    let prior ← completion c.sourceOperationId
    let (source, _) ← Prog.ofOption prior (.journal "rollback composition requires durable source completion")
    Prog.require (CompositionOf c source) (.journal "rollback composition source binding differs")
    Prog.require (c.compositionId = compositionId) (.conflict "main graduation identity does not match index")
    return some (c, ref)

/-! ## The intent -/

/-- The condition of `_require_rollback_composition_intent`. -/
def IntentOf (i : Intent D) (c : Composition D) : Prop :=
  i.compositionArtifactDigest = c.digest C ∧ i.sourceOperationId = c.sourceOperationId ∧
    i.completionPackageDigest = c.completionPackageDigest ∧ i.originalDeltaDigest = c.originalDeltaDigest ∧
    i.currentMainCommit = c.currentMainCommit ∧ i.currentMainTree = c.currentMainTree ∧
    i.currentMainParentCommit = c.currentMainParentCommit ∧ i.inverseDeltaDigest = c.inverseDeltaDigest ∧
    i.inverseTree = c.inverseTree ∧ i.candidateCommit = c.candidateCommit ∧ i.candidateTree = c.candidateTree ∧
    i.candidateParentCommit = c.candidateParentCommit ∧ i.policyEpoch = c.policyEpoch

instance (i : Intent D) (c : Composition D) : Decidable (IntentOf C i c) := by unfold IntentOf; infer_instance

/-- `_require_rollback_composition_intent`. -/
def requireCompositionIntent (i : Intent D) : Code D Unit := do
  let prior ← readComposition i.compositionId
  let (c, _) ← Prog.ofOption prior (.journal "rollback intent requires durable composition")
  Prog.require (IntentOf C i c) (.journal "rollback intent composition binding differs")

/-- `_read` of a file: checked, and under its own operation. -/
def readFile (k : Key D) (malformed : String) (check : Rec k → Code D Unit) : Code D (Option (Rec k)) :=
  .read k fun
    | .missing => .done none
    | .malformed => .raise (.journal malformed)
    | .found v => do
      check v
      Prog.require (Rec.operationId k v = k.operationId) (.conflict "main graduation identity does not match index")
      return some v

/-- `read_rollback_intent`. -/
def readIntent (operationId : D) : Code D (Option (Intent D)) :=
  readFile (.intent operationId) "malformed or unverifiable main graduation rollback-intent" (requireCompositionIntent C)

/-! ## The authorization -/

/-- What `_require_rollback_intent` compares with the intent. -/
def AuthorizationOfIntent (a : Authorization D) (i : Intent D) : Prop :=
  a.sourceOperationId ≠ a.operationId ∧ i.sourceOperationId = a.sourceOperationId ∧
    i.completionPackageDigest = a.completionPackageDigest ∧ i.originalDeltaDigest = a.originalDeltaDigest ∧
    i.authorizationDigest = a.authorizationDigest C ∧ i.currentMainCommit = a.currentMainCommit ∧
    i.currentMainTree = a.currentMainTree ∧ i.currentMainParentCommit = a.currentMainParentCommit ∧
    i.baseCommit = a.currentMainCommit ∧ i.inverseDeltaDigest = a.inverseDeltaDigest ∧
    i.inverseDeltaArtifactDigest = a.inverseDeltaArtifactDigest ∧ i.inverseTree = a.inverseTree ∧
    i.policyEpoch = a.policyEpoch ∧ i.toMainBound = a.toMainBound ∧ i.leaseIdentity = a.leaseIdentity ∧
    i.leaseDigest = a.leaseDigest ∧ a.authorizedAt ≤ i.recordedAt ∧ i.recordedAt < a.expiresAt

instance (a : Authorization D) (i : Intent D) : Decidable (AuthorizationOfIntent C a i) := by
  unfold AuthorizationOfIntent; infer_instance

def AuthorizationOfLease (a : Authorization D) (i : Intent D) (l : Lease D) : Prop :=
  l.operationId = a.operationId ∧ l.toMainBound = a.toMainBound ∧ l.owner = a.leaseIdentity ∧ l.leaseDigest = a.leaseDigest ∧
    l.leaseEpochDigest = a.leaseEpochDigest ∧ l.policyEpoch = a.policyEpoch ∧ a.authorizedAt < l.expiresAt ∧
    a.expiresAt ≤ l.expiresAt ∧ i.leaseEpochDigest = a.leaseEpochDigest

instance (a : Authorization D) (i : Intent D) (l : Lease D) : Decidable (AuthorizationOfLease a i l) := by
  unfold AuthorizationOfLease; infer_instance

def AuthorizationOfSource (a : Authorization D) (source : Source D) : Prop :=
  a.completionPackageDigest = source.digest ∧ a.currentMainCommit = source.mainCommit ∧ a.currentMainTree = source.mainTree ∧
    source.mainParents.head? = some a.currentMainParentCommit ∧ a.currentMainParentCommit = source.baseCommit ∧
    a.originalDeltaDigest = source.deltaDigest ∧ a.policyEpoch = source.policyEpoch ∧
    a.controllerConfigDigest = source.binding.controllerConfigDigest ∧ a.releaseIssuer = source.releaseIssuer ∧
    a.releaseIssuer = source.binding.issuer ∧
    ∀ b ∈ J.releaseIssuerBinding, a.controllerConfigDigest = b.controllerConfigDigest

instance (a : Authorization D) (source : Source D) : Decidable (AuthorizationOfSource J a source) := by
  unfold AuthorizationOfSource; infer_instance

/-- `_require_rollback_intent`. -/
def requireIntent (a : Authorization D) : Code D Unit := do
  let prior ← readIntent C a.operationId
  let i ← Prog.ofOption prior (.journal "rollback authorization requires durable intent")
  Prog.require (i.compositionId = a.compositionId ∧ i.compositionArtifactDigest = a.compositionArtifactDigest)
    (.journal "rollback authorization composition differs")
  requireCompositionIntent C i
  Prog.require (AuthorizationOfIntent C a i) (.journal "rollback intent binding differs from authorization")
  let leasePrior ← lease a.operationId
  let l ← Prog.ofOption leasePrior (.journal "rollback authorization requires a fresh durable rollback lease")
  Prog.require (AuthorizationOfLease a i l) (.journal "rollback authorization lease binding differs")
  let sourcePrior ← completion a.sourceOperationId
  let (source, _) ← Prog.ofOption sourcePrior (.journal "rollback authorization requires durable source completion")
  Prog.require (AuthorizationOfSource J a source) (.journal "rollback authorization source binding differs")

/-- `read_rollback_authorization`. -/
def readAuthorization (operationId : D) : Code D (Option (Authorization D)) :=
  readFile (.authorization operationId) "malformed or unverifiable main graduation rollback-authorization"
    (requireIntent C J)

/-! ## The attempt -/

/-- The condition of `_require_rollback_attempt_authority`. -/
def AttemptOf (t : Attempt D) (source : Source D) (c : Composition D) (a : Authorization D) (i : Intent D) : Prop :=
  t.toMainBound = source.toMainBound ∧ t.completionPackageDigest = source.digest ∧ t.compositionId = c.compositionId ∧
    t.compositionArtifactDigest = c.digest C ∧ t.inverseDeltaDigest = c.inverseDeltaDigest ∧
    t.inverseDeltaArtifactDigest = c.digest C ∧ t.currentMainCommit = a.currentMainCommit ∧
    t.currentMainTree = a.currentMainTree ∧ t.currentMainParentCommit = a.currentMainParentCommit ∧
    t.originalDeltaDigest = c.originalDeltaDigest ∧ t.originalDeltaDigest = source.deltaDigest ∧ t.inverseTree = c.inverseTree ∧
    t.candidateCommit = i.candidateCommit ∧ t.candidateTree = i.candidateTree ∧
    t.candidateParentCommit = i.candidateParentCommit ∧ t.candidateRef = i.candidateRef ∧ t.policyEpoch = a.policyEpoch ∧
    t.policyEpoch = i.policyEpoch ∧ t.controllerConfigDigest = a.controllerConfigDigest ∧ t.releaseIssuer = a.releaseIssuer ∧
    i.operationId = t.operationId

instance (t : Attempt D) (source : Source D) (c : Composition D) (a : Authorization D) (i : Intent D) :
    Decidable (AttemptOf C t source c a i) := by unfold AttemptOf; infer_instance

/-- `_require_rollback_attempt_authority`. -/
def requireAttempt (t : Attempt D) : Code D Unit := do
  let plan ← indexPresent .plan t.operationId
  let intent ← indexPresent .intent t.operationId
  let preparation ← indexPresent .preparationAuthorization t.operationId
  Prog.require ((plan || intent || preparation) = false)
    (.journal "rollback attempt authority conflicts with graduation authority")
  let sourcePrior ← completion t.sourceOperationId
  let compositionPrior ← readComposition t.compositionId
  let authPrior ← readAuthorization C J t.operationId
  let intentPrior ← readIntent C t.operationId
  match sourcePrior, compositionPrior, authPrior, intentPrior with
  | some (source, _), some (c, _), some a, some i =>
    Prog.require (AttemptOf C t source c a i) (.journal "rollback attempt authority binding differs")
  | _, _, _, _ =>
    .raise (.journal "rollback attempt authority requires durable source, composition, intent, and authorization")

/-- `read_rollback_attempt_authority`. -/
def readAttempt (operationId : D) : Code D (Option (Attempt D)) :=
  readFile (.attempt operationId) "malformed or unverifiable main graduation rollback-attempt-authority"
    (requireAttempt C J)

/-! ## The preparation -/

/-- `re.fullmatch(r"refs/heads/avo/main-rollback/[0-9a-f]{64}")`. -/
def isControllerRef (ref : String) : Bool :=
  let text := ref.toList
  let stem := "refs/heads/avo/main-rollback/".toList
  stem.isPrefixOf text && (text.drop stem.length).length == 64 &&
    (text.drop stem.length).all fun c => "0123456789abcdef".toList.contains c

/-- The condition of `_require_rollback_preparation_chain`. -/
def PreparationOf (p : Preparation D) (a : Authorization D) (i : Intent D) (l : Lease D) : Prop :=
  p.operationId = i.operationId ∧ p.toMainBound = i.toMainBound ∧ p.rollbackIntentDigest = i.intentDigest C ∧
    p.rollbackAuthorizationDigest = a.authorizationDigest C ∧ p.packageDigest = i.completionPackageDigest ∧
    p.compositionId = i.compositionId ∧ p.compositionArtifactDigest = i.compositionArtifactDigest ∧
    p.compositionDigest = i.inverseDeltaArtifactDigest ∧ p.baseCommit = i.baseCommit ∧ p.baseTree = i.baseTree ∧
    p.candidateCommit = i.candidateCommit ∧ p.candidateTree = i.candidateTree ∧ p.candidateRef = i.candidateRef ∧
    p.leaseIdentity = l.owner ∧ p.leaseDigest = l.leaseDigest ∧ p.leaseEpochDigest = l.leaseEpochDigest ∧
    i.leaseIdentity = l.owner ∧ i.leaseDigest = l.leaseDigest ∧ i.leaseEpochDigest = l.leaseEpochDigest ∧
    a.leaseIdentity = l.owner ∧ a.leaseDigest = l.leaseDigest ∧ a.leaseEpochDigest = l.leaseEpochDigest ∧
    a.policyEpoch = l.policyEpoch ∧ p.policyEpoch = a.policyEpoch ∧
    (a.authorizedAt ≤ i.recordedAt ∧ i.recordedAt ≤ p.authorizedAt ∧ p.authorizedAt < a.expiresAt) ∧
    i.recordedAt < l.expiresAt ∧ p.authorizedAt < l.expiresAt ∧ a.expiresAt ≤ l.expiresAt

instance (p : Preparation D) (a : Authorization D) (i : Intent D) (l : Lease D) : Decidable (PreparationOf C p a i l) := by
  unfold PreparationOf; infer_instance

/-- `_require_rollback_preparation_chain`. -/
def requirePreparation (p : Preparation D) : Code D Unit := do
  let authPrior ← readAuthorization C J p.operationId
  let intentPrior ← readIntent C p.operationId
  let leasePrior ← lease p.operationId
  match authPrior, intentPrior, leasePrior with
  | some a, some i, some l => do
    let plan ← indexPresent .plan p.operationId
    let preparation ← indexPresent .preparationAuthorization p.operationId
    Prog.require ((plan || preparation) = false) (.journal "rollback preparation conflicts with graduation authority")
    requireIntent C J a
    Prog.require (∀ epoch ∈ J.policyEpoch, a.policyEpoch = epoch) (.journal "rollback preparation policy epoch is stale")
    Prog.require (PreparationOf C p a i l) (.journal "rollback preparation authority binding differs")
    Prog.require (isControllerRef i.candidateRef = true)
      (.journal "rollback preparation candidate ref is outside controller namespace")
  | _, _, _ => .raise (.journal "rollback preparation requires durable authorization, intent, and lease")

/-- `read_rollback_preparation_authorization`. -/
def readPreparation (operationId : D) : Code D (Option (Preparation D)) :=
  readFile (.preparation operationId) "malformed or unverifiable main graduation rollback-preparation-authorization"
    (requirePreparation C J)

/-! ## Recording -/

def install : Code D Unit := .port .install (raising .other)

/-- `_record`: check the chain, put the artifact into the store, create the index. -/
def record (k : Key D) (v : Rec k) (kind : String) (check : Rec k → Code D Unit) : Code D Unit := do
  check v
  install
  .publish k v fun
    | .created => .done ()
    | .failed => .raise (.journal "main graduation record was not indexed")
    | .lost => .raise (.journal "main graduation record was not indexed")
    | .taken => .read k fun
      | .missing => .raise (.journal "main graduation index is malformed")
      | .malformed => .raise (.journal "main graduation index is malformed")
      | .found old => Prog.require (old = v) (.conflict ("conflicting main graduation " ++ kind))

end Journal

end AvoCorrelate.RollbackAuthority
