import Mathlib.Data.List.Basic
/-!
# Contracts of synthetic validation

One validation ref is published for one operation. The operation's identity is the
digest of the whole request, and the ref's name is made from it.
-/
namespace AvoCorrelate.SyntheticValidation

/-- `_GIT_OBJECT`: 40 or 64 lowercase hexadecimal digits. -/
def gitObject (s : String) : Bool :=
  (s.length = 40 || s.length = 64) && s.toList.all fun c => ('0' ≤ c && c ≤ '9') || ('a' ≤ c && c ≤ 'f')

/-- The current pull request and its synthetic merge. -/
structure Observation (D : Type) where
  repositoryDigest : D
  baseRef : String
  baseCommit : String
  baseTree : String
  headRef : String
  headCommit : String
  headTree : String
  syntheticCommit : String
  syntheticTree : String
  objects : gitObject baseCommit ∧ gitObject baseTree ∧ gitObject headCommit ∧ gitObject headTree ∧
    gitObject syntheticCommit ∧ gitObject syntheticTree
  deriving DecidableEq

structure Request (D : Type) where
  observation : Observation D
  targetRepositoryDigest : D
  targetRef : String
  targetIdentity : String
  trustedCheckContexts : List String
  providerIdentity : String
  providerApiVersion : String
  repository : targetRepositoryDigest = observation.repositoryDigest
  deriving DecidableEq

/-- What a plan says, in the order of its fields. -/
structure PlanPayload (D : Type) where
  operationId : D
  request : Request D
  validationRef : String
  expectedCommit : String
  expectedTree : String

/-- `canonical_digest` of requests and plans, and the text of a digest after its
algorithm's name. -/
structure Canon (D : Type) where
  request : Request D → D
  plan : PlanPayload D → D
  hex : D → String

variable {D : Type} (C : Canon D)

def syntheticValidationOperationId (request : Request D) : D := C.request request

def validationRefFor (operationId : D) : String := "refs/heads/avo/validation/" ++ C.hex operationId

structure Plan extends PlanPayload D where
  operation : operationId = syntheticValidationOperationId C request
  ref : validationRef = validationRefFor C operationId
  commit : expectedCommit = request.observation.syntheticCommit
  tree : expectedTree = request.observation.syntheticTree

variable {C}

def Plan.planDigest (plan : Plan C) : D := C.plan plan.toPlanPayload

def Request.plan (request : Request D) : Plan C where
  operationId := syntheticValidationOperationId C request
  request
  validationRef := validationRefFor C (syntheticValidationOperationId C request)
  expectedCommit := request.observation.syntheticCommit
  expectedTree := request.observation.syntheticTree
  operation := rfl
  ref := rfl
  commit := rfl
  tree := rfl

theorem Plan.eq_plan (plan : Plan C) : plan = plan.request.plan := by
  obtain ⟨⟨operationId, request, ref, commit, tree⟩, hop, href, hcommit, htree⟩ := plan
  dsimp only at hop href hcommit htree
  subst hop href hcommit htree
  rfl

theorem Plan.ext_request {plan plan' : Plan C} (h : plan.request = plan'.request) : plan = plan' := by
  rw [plan.eq_plan, plan'.eq_plan, h]

instance [DecidableEq D] : DecidableEq (Plan C) := fun plan plan' =>
  decidable_of_iff (plan.request = plan'.request) ⟨Plan.ext_request, fun h => h ▸ rfl⟩

variable (C) in
/-- The fields that outcome, attempt and authorization share. -/
structure Binding where
  operationId : D
  planDigest : D
  validationRef : String
  expectedCommit : String
  expectedTree : String
  ref : validationRef = validationRefFor C operationId
  objects : gitObject expectedCommit ∧ gitObject expectedTree
  deriving DecidableEq

def Plan.binding (plan : Plan C) : Binding C where
  operationId := plan.operationId
  planDigest := plan.planDigest
  validationRef := plan.validationRef
  expectedCommit := plan.expectedCommit
  expectedTree := plan.expectedTree
  ref := plan.ref
  objects := plan.commit ▸ plan.tree ▸ plan.request.observation.objects.2.2.2.2

@[simp] theorem Plan.binding_operationId (plan : Plan C) : plan.binding.operationId = plan.operationId := rfl

/-- `SyntheticValidationCreateAuthorization`. -/
abbrev CreateAuthorization (C : Canon D) := Binding C

inductive AttemptKind
  | createAmbiguous | readError
  deriving DecidableEq

variable (C) in
structure Attempt extends Binding C where
  kind : AttemptKind
  deriving DecidableEq

inductive OutcomeKind
  | created | alreadyPresent | reconciled | reconciliationRequired | invalid | quarantined | cleaned
  deriving DecidableEq

/-- The ref is there and exact. -/
def OutcomeKind.success : OutcomeKind → Bool
  | .created | .alreadyPresent | .reconciled => true
  | _ => false

/-- `SyntheticValidationOutcome._validity`. -/
def Binding.Admits (b : Binding C) (kind : OutcomeKind) (commit tree error : Option String) : Prop :=
  (∀ c ∈ commit, gitObject c) ∧ (∀ t ∈ tree, gitObject t) ∧
  (kind = .reconciliationRequired ∨ kind = .invalid ∨ kind = .quarantined → error.isSome) ∧
  (kind.success ∨ kind = .invalid ∨ kind = .quarantined → commit.isSome ∧ tree.isSome) ∧
  (kind.success → commit = some b.expectedCommit ∧ tree = some b.expectedTree) ∧
  (kind = .invalid → ¬ (commit = some b.expectedCommit ∧ tree = some b.expectedTree))

instance {b : Binding C} {kind : OutcomeKind} {commit tree error : Option String} :
    Decidable (b.Admits kind commit tree error) := by
  unfold Binding.Admits
  infer_instance

variable (C) in
structure Outcome extends Binding C where
  outcome : OutcomeKind
  observedCommit : Option String
  observedTree : Option String
  error : Option String
  valid : toBinding.Admits outcome observedCommit observedTree error
  deriving DecidableEq

end AvoCorrelate.SyntheticValidation
