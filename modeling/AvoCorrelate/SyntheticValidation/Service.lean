import AvoCorrelate.SyntheticValidation.Journal
/-!
# The synthetic validation service

`trigger` adopts the plan, returns a durable outcome, and otherwise looks at the
attempt, the authorization and the ref; only the call that claims the authorization
creates the ref.
-/
open AvoLib

namespace AvoCorrelate.SyntheticValidation

variable {D : Type} [DecidableEq D] {C : Canon D}

/-- What `_read` makes of the ref. -/
inductive RefState
  | error | none
  | exact (commit tree : String)
  | wrong (commit tree : String)
  deriving DecidableEq

/-- `_ref_values`: commit and tree of a mapping that has both. -/
def refValues : RefAnswer → Option (String × String)
  | .mapping entries =>
    match (entries.lookup "commit").getD ((entries.lookup "sha").getD ((entries.lookup "oid").getD .other)),
      entries.lookup "tree" with
    | .text commit, some (.text tree) => some (commit, tree)
    | _, _ => none
  | _ => none

def Plan.refState (plan : Plan C) : RefAnswer → RefState
  | .raised => .error
  | .absent => .none
  | answer =>
    match refValues answer with
    | none => .error
    | some (commit, tree) =>
      if commit = plan.expectedCommit then if tree = plan.expectedTree then .exact commit tree else .wrong commit tree
      else .wrong commit tree

namespace Service

/-- `_check_outcome_binding` and `_check_authorization_binding`, and what `trigger`
asks of an attempt: the four fields after the operation. -/
def Bound (b : Binding C) (plan : Plan C) : Prop :=
  b.planDigest = plan.planDigest ∧ b.validationRef = plan.validationRef ∧
  b.expectedCommit = plan.expectedCommit ∧ b.expectedTree = plan.expectedTree

instance {b : Binding C} {plan : Plan C} : Decidable (Bound b plan) := by
  unfold Bound
  infer_instance

def outcome (plan : Plan C) (kind : OutcomeKind) (commit tree error : Option String) : Code C (Outcome C) :=
  if valid : plan.binding.Admits kind commit tree error then
    .done { toBinding := plan.binding, outcome := kind, observedCommit := commit, observedTree := tree, error, valid }
  else .raise .validation

def read (plan : Plan C) : Code C RefState :=
  .port (.readRef plan.request.targetRepositoryDigest plan.validationRef) fun r => .done (plan.refState r)

def save (o : Outcome C) : Code C (Outcome C) := do
  match ← (Journal.record .outcome o).attempt with
  | .ok () => return o
  | .error e =>
    match ← Journal.read .outcome o.operationId with
    | none => .raise e
    | some durable => do
      Prog.require (durable.toBinding = o.toBinding) (.conflict "concurrent durable outcome is not bound to the operation")
      return durable

def uncertain (plan : Plan C) (kind : AttemptKind) : Code C (Outcome C) := do
  Journal.record .attempt (⟨plan.binding, kind⟩ : Attempt C)
  outcome plan .reconciliationRequired none none (some
    (match kind with
    | .createAmbiguous => "create response requires reconciliation"
    | .readError => "ref read requires reconciliation"))

def report (plan : Plan C) (kind : OutcomeKind) (commit tree : String) (error : Option String) : Code C (Outcome C) := do
  let o ← outcome plan kind (some commit) (some tree) error
  save o

/-- What a call that may have created the ref makes of it. -/
def settle (plan : Plan C) (kind : OutcomeKind) (error : String) : Code C (Outcome C) := do
  match ← read plan with
  | .exact commit tree => report plan kind commit tree none
  | .wrong commit tree => report plan .invalid commit tree (some error)
  | _ => uncertain plan .createAmbiguous

/-- The part of `trigger` that may create the ref. -/
def create (plan : Plan C) : Code C (Outcome C) := do
  if ← Journal.claimCreateAuthorization plan.binding then
    .port (.createRef plan.request.targetRepositoryDigest plan.validationRef plan.expectedCommit) fun r =>
      if r.returned then settle plan .created "create returned success but ref has a wrong SHA; quarantined"
      else settle plan .reconciled "ambiguous create left a wrong SHA; quarantined"
  else settle plan .reconciled "concurrent create left a wrong SHA; quarantined"

/-- The part of `trigger` after the durable outcome. -/
def reconcile (plan : Plan C) : Code C (Outcome C) := do
  let prior ← Journal.read .attempt plan.operationId
  Prog.require (∀ a ∈ prior, Bound a.toBinding plan) (.conflict "durable attempt is not bound to the plan")
  let authorization ← Journal.readCreateAuthorization plan.operationId
  Prog.require (∀ a ∈ authorization, Bound a plan) (.conflict "durable create authorization is not bound to the plan")
  match ← read plan with
  | .error => uncertain plan .readError
  | .exact commit tree =>
    if authorization.isNone then
      report plan .quarantined commit tree (some "existing validation ref was pre-seeded without authorization")
    else report plan (if prior.isSome then .reconciled else .alreadyPresent) commit tree none
  | .wrong commit tree => report plan .invalid commit tree (some "existing validation ref points to a wrong SHA; quarantined")
  | .none =>
    -- an earlier ambiguous create, or an authorization, is a fence: this call only reads
    if prior.isSome || authorization.isSome then uncertain plan .createAmbiguous else create plan

/-- `prepare`, for a request. -/
def prepare (request : Request D) : Code C (Plan C) := do
  match ← Journal.read .plan (syntheticValidationOperationId C request) with
  | some existing => do
    Prog.require (existing = request.plan) (.conflict "conflicting replay for operation")
    return existing
  | none => do
    Journal.record .plan (request.plan : Plan C)
    return request.plan

/-- What `trigger` is called with. -/
inductive Asked (C : Canon D)
  | plan (plan : Plan C)
  | request (request : Request D)

def Asked.meant : Asked C → Plan C
  | .plan p => p
  | .request r => r.plan

/-- The part of `trigger` that adopts the plan. -/
def adopt : Asked C → Code C (Plan C)
  | .plan asked => do
    match ← Journal.read .plan asked.operationId with
    | none => do
      Journal.record .plan asked
      return asked
    | some plan => do
      Prog.require (plan = asked) (.conflict "conflicting replay for operation")
      return plan
  | .request request => prepare request

def trigger (asked : Asked C) : Code C (Outcome C) := do
  let plan ← adopt asked
  match ← Journal.read .outcome plan.operationId with
  | some durable => do
    Prog.require (Bound durable.toBinding plan) (.conflict "durable outcome is not bound to the plan")
    return durable
  | none => reconcile plan

end Service

end AvoCorrelate.SyntheticValidation
