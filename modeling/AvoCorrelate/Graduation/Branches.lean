import AvoCorrelate.Graduation.Journal
import AvoCorrelate.Lib.Interleaving
/-!
# Graduation and rollback authority

An operation is a graduation or a rollback by the authority that was recorded for
it. Before a branch records its preparation authorization it looks for records of the
other branch: a graduation before it reads its own plan and intent, a rollback after
it read its own. What a record proves about other matters (evidence, composition,
lease authority, source completion) is behind ports that raise or not.
-/
open AvoLib

namespace AvoCorrelate.Graduation.Branches

open ExactCas (GitObject)

variable {D : Type}

/-! ## Records -/

/-- What the plan says of the composition. -/
structure Composition (D : Type) where
  compositionDigest : D
  baseCommit : GitObject
  baseTree : GitObject
  candidateCommit : GitObject
  candidateTree : GitObject
  candidateRef : String
  deriving DecidableEq

/-- What is compared of a `MainGraduationPlan`; `digest` is its canonical digest. -/
structure Plan (D : Type) extends MainBound D where
  operationId : D
  digest : D
  packageDigest : D
  composition : Composition D
  policyEpoch : D
  deriving DecidableEq

/-- What is compared of a `MainGraduationIntent`. -/
structure GraduationIntent (D : Type) extends MainBound D where
  operationId : D
  digest : D
  planDigest : D
  packageDigest : D
  composition : Composition D
  leaseIdentity : String
  leaseDigest : D
  leaseEpochDigest : D
  policyEpoch : D
  recordedAt : Instant
  deriving DecidableEq

/-- What is compared of a `MainPreparationAuthorization`. -/
structure Authorization (D : Type) extends MainBound D where
  operationId : D
  planDigest : D
  intentDigest : D
  packageDigest : D
  compositionDigest : D
  baseCommit : GitObject
  baseTree : GitObject
  candidateCommit : GitObject
  candidateTree : GitObject
  leaseIdentity : String
  leaseDigest : D
  policyEpoch : D
  authorizedAt : Instant
  deriving DecidableEq

/-- What is compared of a `MainRollbackAuthorization`. -/
structure RollbackAuthorization (D : Type) extends MainBound D where
  operationId : D
  authorizationDigest : D
  leaseIdentity : String
  leaseDigest : D
  leaseEpochDigest : D
  policyEpoch : D
  authorizedAt : Instant
  expiresAt : Instant
  deriving DecidableEq

/-- What is compared of a `MainRollbackIntent`. -/
structure RollbackIntent (D : Type) extends MainBound D where
  operationId : D
  intentDigest : D
  completionPackageDigest : D
  compositionId : D
  compositionArtifactDigest : D
  inverseDeltaArtifactDigest : D
  baseCommit : GitObject
  baseTree : GitObject
  candidateCommit : GitObject
  candidateTree : GitObject
  candidateRef : String
  leaseIdentity : String
  leaseDigest : D
  leaseEpochDigest : D
  recordedAt : Instant
  deriving DecidableEq

/-- What is compared of a `MainRollbackPreparationAuthorization`. -/
structure RollbackPreparation (D : Type) extends MainBound D where
  operationId : D
  rollbackIntentDigest : D
  rollbackAuthorizationDigest : D
  packageDigest : D
  compositionId : D
  compositionArtifactDigest : D
  compositionDigest : D
  baseCommit : GitObject
  baseTree : GitObject
  candidateCommit : GitObject
  candidateTree : GitObject
  candidateRef : String
  leaseIdentity : String
  leaseDigest : D
  leaseEpochDigest : D
  policyEpoch : D
  authorizedAt : Instant
  deriving DecidableEq

/-- What is compared of a `MainLeaseEvidenceRecord`. -/
structure Lease (D : Type) where
  operationId : D
  owner : String
  leaseDigest : D
  leaseEpochDigest : D
  policyEpoch : D
  expiresAt : Instant
  deriving DecidableEq

/-! ## Files and ports -/

/-- The index file of a kind, for an operation. -/
inductive Key (D : Type)
  | plan (operationId : D)
  | intent (operationId : D)
  | preparation (operationId : D)
  | rollbackIntent (operationId : D)
  | rollbackAuthorization (operationId : D)
  | rollbackPreparation (operationId : D)
  | lease (operationId : D)
  deriving DecidableEq

abbrev Rec : Key D → Type
  | .plan _ => Plan D
  | .intent _ => GraduationIntent D
  | .preparation _ => Authorization D
  | .rollbackIntent _ => RollbackIntent D
  | .rollbackAuthorization _ => RollbackAuthorization D
  | .rollbackPreparation _ => RollbackPreparation D
  | .lease _ => Lease D

/-- The checks of a record that read nothing of the above. -/
inductive Port (D : Type)
  -- _verify_plan_evidence, _verify_plan_composition, _verify_intent_lease, _verify_lease_authority with _assert_target_lease
  | planEvidence (plan : Plan D)
  | planComposition (plan : Plan D)
  | intentLease (intent : GraduationIntent D)
  | leaseAuthority (lease : Lease D)
  -- _cas_target_lease
  | targetLease (lease : Lease D)
  -- _require_rollback_composition_intent, and what _require_rollback_intent compares
  | rollbackComposition (intent : RollbackIntent D)
  | rollbackSource (authorization : RollbackAuthorization D) (intent : RollbackIntent D) (lease : Lease D)
  | install

abbrev Port.Answer : Port D → Type := fun _ => Graduation.Answer Unit

abbrev Code (D : Type) (α : Type) := Prog (Rec (D := D)) (Port.Answer (D := D)) Exc α

/-- A check that raises or passes. -/
def check (p : Port D) : Code D Unit :=
  .port p fun
    | .raised message => .raise (.journal message)
    | .returned _ => .done ()

variable [DecidableEq D]

instance (k : Key D) : DecidableEq (Rec k) :=
  match k with
  | .plan _ => inferInstanceAs (DecidableEq (Plan D))
  | .intent _ => inferInstanceAs (DecidableEq (GraduationIntent D))
  | .preparation _ => inferInstanceAs (DecidableEq (Authorization D))
  | .rollbackIntent _ => inferInstanceAs (DecidableEq (RollbackIntent D))
  | .rollbackAuthorization _ => inferInstanceAs (DecidableEq (RollbackAuthorization D))
  | .rollbackPreparation _ => inferInstanceAs (DecidableEq (RollbackPreparation D))
  | .lease _ => inferInstanceAs (DecidableEq (Lease D))

/-! ## Reading -/

/-- `_read` of a kind: the record is checked again, and its identity. -/
def readWith (k : Key D) (recheck : Rec k → Code D Unit) (Named : Rec k → Prop) [DecidablePred Named] :
    Code D (Option (Rec k)) :=
  .read k fun
    | .missing => .done none
    | .malformed => .raise (.journal "main graduation index is malformed")
    | .found v => do
      recheck v
      Prog.require (Named v) (.conflict "main graduation identity does not match index")
      return some v

/-- `_durable_index_present`. -/
def present (k : Key D) : Code D Bool :=
  .read k fun
    | .missing => .done false
    | _ => .done true

def readPlan (op : D) : Code D (Option (Plan D)) :=
  readWith (.plan op) (fun p => check (.planEvidence p)) fun p => p.operationId = op

def readIntent (op : D) : Code D (Option (GraduationIntent D)) :=
  readWith (.intent op) (fun i => check (.intentLease i)) fun i => i.operationId = op

def readLease (op : D) : Code D (Option (Lease D)) :=
  readWith (.lease op) (fun l => check (.leaseAuthority l)) fun l => l.operationId = op

def readRollbackIntent (op : D) : Code D (Option (RollbackIntent D)) :=
  readWith (.rollbackIntent op) (fun i => check (.rollbackComposition i)) fun i => i.operationId = op

def requireRollbackIntent (a : RollbackAuthorization D) : Code D Unit := do
  let prior ← readRollbackIntent a.operationId
  let intent ← Prog.ofOption prior (.journal "rollback authorization requires durable intent")
  let leasePrior ← readLease a.operationId
  let lease ← Prog.ofOption leasePrior (.journal "rollback authorization requires a fresh durable rollback lease")
  check (.rollbackSource a intent lease)

def readRollbackAuthorization (op : D) : Code D (Option (RollbackAuthorization D)) :=
  readWith (.rollbackAuthorization op) requireRollbackIntent fun a => a.operationId = op

/-! ## Preparation -/

/-- `re.fullmatch` of a ref in a namespace, with a SHA-256 in hexadecimal at its end. -/
def InNamespace (space ref : String) : Prop :=
  ref.toList.take space.toList.length = space.toList ∧ (ref.toList.drop space.toList.length).length = 64 ∧
    ∀ c ∈ ref.toList.drop space.toList.length, c.isDigit = true ∨ ('a' ≤ c ∧ c ≤ 'f')

-- over the characters that are there; the instance for every character would try them all
instance (space ref : String) : Decidable (InNamespace space ref) :=
  have : Decidable (∀ c ∈ ref.toList.drop space.toList.length, c.isDigit = true ∨ ('a' ≤ c ∧ c ≤ 'f')) :=
    List.decidableBAll _ _
  inferInstanceAs (Decidable (_ ∧ _ ∧ _))

def SameLease (p : Authorization D) (i : GraduationIntent D) (l : Lease D) : Prop :=
  p.leaseIdentity = l.owner ∧ p.leaseDigest = l.leaseDigest ∧ p.policyEpoch = l.policyEpoch ∧ i.leaseIdentity = l.owner ∧
    i.leaseDigest = l.leaseDigest ∧ i.leaseEpochDigest = l.leaseEpochDigest ∧ i.policyEpoch = l.policyEpoch

instance (p : Authorization D) (i : GraduationIntent D) (l : Lease D) : Decidable (SameLease p i l) :=
  inferInstanceAs (Decidable (_ ∧ _))

def SamePlan (p : Authorization D) (plan : Plan D) (i : GraduationIntent D) (lease : Option (Lease D)) : Prop :=
  (p.planDigest = plan.digest ∧ p.intentDigest = i.digest ∧ i.planDigest = plan.digest) ∧
  (p.operationId = plan.operationId ∧ p.operationId = i.operationId ∧ p.toMainBound = plan.toMainBound ∧
    p.toMainBound = i.toMainBound ∧ p.packageDigest = plan.packageDigest ∧ p.packageDigest = i.packageDigest) ∧
  (p.compositionDigest = plan.composition.compositionDigest ∧ p.baseCommit = plan.composition.baseCommit ∧
    p.baseTree = plan.composition.baseTree ∧ p.candidateCommit = plan.composition.candidateCommit ∧
    p.candidateTree = plan.composition.candidateTree ∧ i.composition = plan.composition) ∧
  (p.leaseIdentity = i.leaseIdentity ∧ p.leaseDigest = i.leaseDigest ∧ p.policyEpoch = i.policyEpoch ∧
    p.policyEpoch = plan.policyEpoch) ∧
  ∀ l ∈ lease, SameLease p i l

instance (p : Authorization D) (plan : Plan D) (i : GraduationIntent D) (lease : Option (Lease D)) :
    Decidable (SamePlan p plan i lease) := inferInstanceAs (Decidable (_ ∧ _))

def SameRollback (p : RollbackPreparation D) (a : RollbackAuthorization D) (i : RollbackIntent D) (l : Lease D) : Prop :=
  (p.operationId = i.operationId ∧ p.toMainBound = i.toMainBound ∧ p.rollbackIntentDigest = i.intentDigest ∧
    p.rollbackAuthorizationDigest = a.authorizationDigest ∧ p.packageDigest = i.completionPackageDigest ∧
    p.compositionId = i.compositionId ∧ p.compositionArtifactDigest = i.compositionArtifactDigest ∧
    p.compositionDigest = i.inverseDeltaArtifactDigest) ∧
  (p.baseCommit = i.baseCommit ∧ p.baseTree = i.baseTree ∧ p.candidateCommit = i.candidateCommit ∧
    p.candidateTree = i.candidateTree ∧ p.candidateRef = i.candidateRef) ∧
  (p.leaseIdentity = l.owner ∧ p.leaseDigest = l.leaseDigest ∧ p.leaseEpochDigest = l.leaseEpochDigest ∧
    i.leaseIdentity = l.owner ∧ i.leaseDigest = l.leaseDigest ∧ i.leaseEpochDigest = l.leaseEpochDigest ∧
    a.leaseIdentity = l.owner ∧ a.leaseDigest = l.leaseDigest ∧ a.leaseEpochDigest = l.leaseEpochDigest ∧
    a.policyEpoch = l.policyEpoch ∧ p.policyEpoch = a.policyEpoch) ∧
  (a.authorizedAt ≤ i.recordedAt ∧ i.recordedAt ≤ p.authorizedAt ∧ p.authorizedAt < a.expiresAt) ∧
  i.recordedAt < l.expiresAt ∧ p.authorizedAt < l.expiresAt ∧ a.expiresAt ≤ l.expiresAt

instance (p : RollbackPreparation D) (a : RollbackAuthorization D) (i : RollbackIntent D) (l : Lease D) :
    Decidable (SameRollback p a i l) := inferInstanceAs (Decidable (_ ∧ _))

/-- One of two index files is there. -/
def eitherPresent (k k' : Key D) : Code D Bool := do
  let first ← present k
  if first then return true else present k'

variable (policyEpoch : Option D)

def requireRollbackPreparationChain (p : RollbackPreparation D) : Code D Unit := do
  let authPrior ← readRollbackAuthorization p.operationId
  let intentPrior ← readRollbackIntent p.operationId
  let leasePrior ← readLease p.operationId
  let auth ← Prog.ofOption authPrior (.journal "rollback preparation requires durable authorization, intent, and lease")
  let intent ← Prog.ofOption intentPrior (.journal "rollback preparation requires durable authorization, intent, and lease")
  let lease ← Prog.ofOption leasePrior (.journal "rollback preparation requires durable authorization, intent, and lease")
  let mixed ← eitherPresent (.plan p.operationId) (.preparation p.operationId)
  Prog.require (mixed = false) (.journal "rollback preparation conflicts with graduation authority")
  requireRollbackIntent auth
  Prog.require (∀ epoch ∈ policyEpoch, auth.policyEpoch = epoch) (.journal "rollback preparation policy epoch is stale")
  Prog.require (SameRollback p auth intent lease) (.journal "rollback preparation authority binding differs")
  Prog.require (InNamespace "refs/heads/avo/main-rollback/" intent.candidateRef)
    (.journal "rollback preparation candidate ref is outside controller namespace")

def readRollbackPreparation (op : D) : Code D (Option (RollbackPreparation D)) :=
  readWith (.rollbackPreparation op) (requireRollbackPreparationChain policyEpoch) fun p => p.operationId = op

def requireNoRollback (op : D) : Code D Unit := do
  let auth ← readRollbackAuthorization op
  Prog.require (auth = none) (.journal "graduation preparation conflicts with rollback authority")
  let intent ← readRollbackIntent op
  Prog.require (intent = none) (.journal "graduation preparation conflicts with rollback authority")
  let preparation ← readRollbackPreparation policyEpoch op
  Prog.require (preparation = none) (.journal "graduation preparation conflicts with rollback authority")

def requirePreparationChain (p : Authorization D) : Code D Unit := do
  requireNoRollback policyEpoch p.operationId
  let planPrior ← readPlan p.operationId
  let intentPrior ← readIntent p.operationId
  let plan ← Prog.ofOption planPrior (.journal "preparation requires durable plan and intent")
  let intent ← Prog.ofOption intentPrior (.journal "preparation requires durable plan and intent")
  let lease ← readLease p.operationId
  Prog.require (SamePlan p plan intent lease) (.journal "preparation plan/intent binding differs")
  Prog.require (InNamespace "refs/heads/avo/candidate/" intent.composition.candidateRef)
    (.journal "intent candidate ref is outside controller namespace")
  Prog.require (intent.recordedAt ≤ p.authorizedAt) (.journal "preparation predates intent")

def readPreparation (op : D) : Code D (Option (Authorization D)) :=
  readWith (.preparation op) (requirePreparationChain policyEpoch) fun p => p.operationId = op

/-! ## Recording -/

/-- The end of `_record`: the index is published once. -/
def publish (k : Key D) (v : Rec k) : Code D Unit := do
  check .install
  .publish k v fun
    | .created => .done ()
    | .failed => .raise (.journal "main graduation record was not indexed")
    | .lost => .raise (.journal "main graduation record was not indexed")
    | .taken => .read k fun
      | .missing => .raise (.journal "main graduation index is malformed")
      | .malformed => .raise (.journal "main graduation index is malformed")
      | .found old => Prog.require (old = v) (.conflict "conflicting main graduation record")

/-- `record_plan`: the composition is recomputed unless the index is there. -/
def recordPlan (p : Plan D) : Code D Unit := do
  check (.planEvidence p)
  let indexed ← present (.plan p.operationId)
  if indexed then publish (.plan p.operationId) p
  else do
    check (.planComposition p)
    publish (.plan p.operationId) p

/-- Which branch an intent was accepted under. -/
inductive Branch
  | graduation | rollback
  deriving DecidableEq

/-- The branch that `_validate_phase_chain` takes for a mutation intent of the
operation. -/
def branchOf (op : D) : Code D Branch := do
  let prep ← readPreparation policyEpoch op
  let rollbackPrep ← readRollbackPreparation policyEpoch op
  let rollbackAuth ← readRollbackAuthorization op
  if rollbackPrep.isSome || rollbackAuth.isSome then
    if rollbackPrep.isSome && rollbackAuth.isSome && prep.isNone then return .rollback
    else .raise (.journal "rollback mutation intent has an ambiguous preparation branch")
  else
    Prog.require (prep.isSome = true) (.journal "mutation intent requires preparation authorization")
    return .graduation

/-- A call on a journal with its policy epoch: a recording, or the decision for an
intent. -/
inductive Call (D : Type)
  | plan (p : Plan D)
  | intent (i : GraduationIntent D)
  | lease (l : Lease D)
  | preparation (policyEpoch : Option D) (p : Authorization D)
  | rollbackIntent (i : RollbackIntent D)
  | rollbackAuthorization (a : RollbackAuthorization D)
  | rollbackPreparation (policyEpoch : Option D) (p : RollbackPreparation D)
  | accept (policyEpoch : Option D) (operationId : D)

/-- A recording returns nothing. -/
def recording (p : Code D Unit) : Code D (Option Branch) := do
  p
  return none

def program : Call D → Code D (Option Branch)
  | .plan p => recording (recordPlan p)
  | .intent i => recording do
      check (.intentLease i)
      publish (.intent i.operationId) i
  | .lease l => recording do
      check (.leaseAuthority l)
      check (.targetLease l)
      publish (.lease l.operationId) l
  | .preparation policyEpoch p => recording do
      requirePreparationChain policyEpoch p
      publish (.preparation p.operationId) p
  | .rollbackIntent i => recording do
      check (.rollbackComposition i)
      publish (.rollbackIntent i.operationId) i
  | .rollbackAuthorization a => recording do
      requireRollbackIntent a
      publish (.rollbackAuthorization a.operationId) a
  | .rollbackPreparation policyEpoch p => recording do
      requireRollbackPreparationChain policyEpoch p
      publish (.rollbackPreparation p.operationId) p
  | .accept policyEpoch op => do
      let branch ← branchOf policyEpoch op
      return some branch

end AvoCorrelate.Graduation.Branches
