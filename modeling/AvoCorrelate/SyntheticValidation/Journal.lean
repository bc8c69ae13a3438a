import AvoCorrelate.SyntheticValidation.Contracts
import AvoCorrelate.Lib.Served
/-!
# The synthetic validation journal

The index of an authorization is created and written in two steps. Everything else
the journal keeps appears at once (a prepared file is linked or renamed, a directory
is made), so it stands behind ports, beside the provider.
-/
open AvoLib

namespace AvoCorrelate.SyntheticValidation

variable {D : Type}

/-! ## Records and ports -/

/-- The kinds of record whose index is linked. -/
inductive Kind
  | plan | outcome | attempt
  deriving DecidableEq

def Kind.name : Kind → String
  | .plan => "plan"
  | .outcome => "outcome"
  | .attempt => "attempt"

abbrev Rec (C : Canon D) : Kind → Type
  | .plan => Plan C
  | .outcome => Outcome C
  | .attempt => Attempt C

instance Rec.decEq [DecidableEq D] {C : Canon D} : (k : Kind) → DecidableEq (Rec C k)
  | .plan => inferInstanceAs (DecidableEq (Plan C))
  | .outcome => inferInstanceAs (DecidableEq (Outcome C))
  | .attempt => inferInstanceAs (DecidableEq (Attempt C))

def Rec.operationId {C : Canon D} : {k : Kind} → Rec C k → D
  | .plan, plan => PlanPayload.operationId plan.toPlanPayload
  | .outcome, outcome => Binding.operationId outcome.toBinding
  | .attempt, attempt => Binding.operationId attempt.toBinding

/-- The index of an authorization, by operation. -/
inductive Key (D : Type)
  | authorization (operationId : D)
  deriving DecidableEq

abbrev Content (C : Canon D) : Key D → Type := fun _ => CreateAuthorization C

/-- A field of a mapping: a string or something else. -/
inductive Value
  | text (s : String)
  | other
  deriving DecidableEq

/-- What `read_validation_ref` gave. -/
inductive RefAnswer
  | raised | absent
  | text (s : String)
  | mapping (entries : List (String × Value))
  | other
  deriving DecidableEq

/-- What a call of `create_validation_ref` did: nothing, its effect, or its effect at
a later time; and whether it returned. -/
inductive Effect
  | never | done | pending
  deriving DecidableEq

structure Created where
  effect : Effect
  returned : Bool
  deriving DecidableEq

/-- `mkdir`. -/
inductive Making
  | made | existed | failed
  deriving DecidableEq

/-- A rename and the directory syncs after it. -/
inductive Installing
  | installed | unsynced | failed
  deriving DecidableEq

inductive Port (C : Canon D)
  -- FilesystemArtifactStore.put_bytes
  | put
  | load (k : Kind) (operationId : D)
  | link (k : Kind) (record : Rec C k)
  -- the claim directory of an authorization and the record in it
  | makeClaim (operationId : D)
  | loadClaim (operationId : D)
  | installClaim (authorization : CreateAuthorization C)
  -- the provider
  | readRef (repositoryDigest : D) (ref : String)
  | createRef (repositoryDigest : D) (ref commit : String)

abbrev Port.Answer {C : Canon D} : Port C → Type
  | .put => Bool
  | .load k _ => Found (Rec C k)
  | .link _ _ => Published
  | .makeClaim _ => Making
  | .loadClaim _ => Found (CreateAuthorization C)
  | .installClaim _ => Installing
  | .readRef _ _ => RefAnswer
  | .createRef _ _ _ => Created

/-! ## Behind the ports -/

/-- The provider's side: which answers it can give, and its state after each. -/
structure Remote (D τ : Type) where
  read : D → String → RefAnswer → τ → Option τ
  create : D → String → String → Created → τ → Option τ

structure Store (C : Canon D) (τ : Type) where
  index : (k : Kind) → D → Option (Rec C k)
  -- the operations with a claim directory
  claims : List D
  claimed : D → Option (CreateAuthorization C)
  remote : τ

section Serving
variable [DecidableEq D] {C : Canon D} {τ : Type}

def Store.empty (t : τ) : Store C τ := ⟨fun _ _ => none, [], fun _ => none, t⟩

def Store.setIndex (s : Store C τ) (k : Kind) (record : Rec C k) : Store C τ :=
  { s with index := Function.update s.index k (Function.update (s.index k) record.operationId (some record)) }

def Store.setClaimed (s : Store C τ) (a : CreateAuthorization C) : Store C τ :=
  { s with claimed := Function.update s.claimed a.operationId (some a) }

def content {α : Type} : Option α → Found α
  | none => .missing
  | some v => .found v

/-- A read tells what is there, or fails. Links, renames and `mkdir` are atomic, and
exclusive but for the rename. -/
def store (C : Canon D) (R : Remote D τ) : Service (Port.Answer (C := C)) (Store C τ)
  | .put, _, s => some s
  | .load k operationId, r, s => if r = .malformed ∨ r = content (s.index k operationId) then some s else none
  | .link k record, r, s =>
    match r, s.index k record.operationId with
    | .created, none => some (s.setIndex k record)
    | .lost, none => some (s.setIndex k record)
    | .taken, some _ => some s
    | .failed, _ => some s
    | _, _ => none
  | .makeClaim operationId, r, s =>
    match r with
    | .made => if operationId ∈ s.claims then none else some { s with claims := operationId :: s.claims }
    | .existed => if operationId ∈ s.claims then some s else none
    | .failed => some s
  | .loadClaim operationId, r, s => if r = .malformed ∨ r = content (s.claimed operationId) then some s else none
  | .installClaim a, r, s =>
    match r with
    | .installed => some (s.setClaimed a)
    | .unsynced => some (s.setClaimed a)
    | .failed => some s
  | .readRef repositoryDigest ref, r, s => (R.read repositoryDigest ref r s.remote).map fun t => { s with remote := t }
  | .createRef repositoryDigest ref commit, r, s =>
    (R.create repositoryDigest ref commit r s.remote).map fun t => { s with remote := t }

end Serving

/-! ## Reading and recording -/

/-- The exceptions of a call: the journal's, the service's conflicts, a contract that
does not hold, and those of the file system and the artifact store. -/
inductive Exc
  | journal (message : String)
  | conflict (message : String)
  | validation
  | store
  deriving DecidableEq

abbrev Code (C : Canon D) (α : Type) := Prog (Content C) (Port.Answer (C := C)) Exc α

variable [DecidableEq D] {C : Canon D}

namespace Journal

/-- `_read` of a linked index. -/
def read (k : Kind) (operationId : D) : Code C (Option (Rec C k)) :=
  .port (.load k operationId) fun
    | .missing => .done none
    | .malformed => .raise (.journal ("malformed or unverifiable synthetic validation " ++ k.name))
    | .found record => do
      Prog.require (record.operationId = operationId) (.journal "record operation ID does not match index")
      return some record

/-- `put_bytes`. -/
def put : Code C Unit :=
  .port .put fun ok => if ok then .done () else .raise .store

def record (k : Kind) (r : Rec C k) : Code C Unit := do
  put
  .port (.link k r) fun
    | .created => .done ()
    | .taken => .port (.load k r.operationId) fun
      | .found old => Prog.require (old = r)
          (.journal ("conflicting synthetic validation " ++ k.name ++ " for operation sha256:" ++ C.hex r.operationId))
      | _ => .raise (.journal "synthetic validation index is malformed")
    | .failed => .raise (.journal "synthetic validation record was not indexed")
    | .lost => .raise .store

def recordAuthorizationAfterClaim (a : CreateAuthorization C) : Code C Unit := do
  put
  .publish (.authorization a.operationId) a fun
    | .created => .done ()
    | _ => .raise (.journal "synthetic validation authorization was not indexed")

def claimCreateAuthorization (a : CreateAuthorization C) : Code C Bool :=
  .port (.makeClaim a.operationId) fun
    | .made => .port (.installClaim a) fun
      | .installed => do
        recordAuthorizationAfterClaim a
        return true
      | _ => .raise (.journal "synthetic validation authorization claim was not indexed")
    | .existed => .port (.loadClaim a.operationId) fun
      | .missing => .done false
      | .malformed => .raise (.journal "synthetic validation authorization claim is malformed")
      | .found existing => do
        Prog.require (existing = a)
          (.journal ("conflicting synthetic validation authorization for operation sha256:" ++ C.hex a.operationId))
        return false
    | .failed => .raise (.journal "synthetic validation authorization claim was not indexed")

/-- The record in the claim directory. -/
def readClaim (operationId : D) : Code C (Option (CreateAuthorization C)) :=
  .port (.loadClaim operationId) fun
    | .missing => .done none
    | .malformed => .raise (.journal "synthetic validation authorization claim is malformed")
    | .found a => do
      Prog.require (a.operationId = operationId) (.journal "authorization claim operation ID does not match index")
      return some a

def readCreateAuthorization (operationId : D) : Code C (Option (CreateAuthorization C)) :=
  .read (.authorization operationId) fun
    | .missing => readClaim operationId
    | .malformed => .raise (.journal "malformed or unverifiable synthetic validation authorization")
    | .found a => do
      Prog.require (a.operationId = operationId) (.journal "record operation ID does not match index")
      return some a

end Journal

end AvoCorrelate.SyntheticValidation
