import AvoCorrelate.SyntheticValidation.Service
/-!
# The provider of one validation ref

The ref of one plan: nothing of ours, a create that was accepted and shows later, or the
planned commit and tree. Reads fail or tell the truth. Others may put something else
there, or they may not.
-/
open AvoLib

namespace AvoCorrelate.SyntheticValidation

inductive Ref
  | free | pending | present
  deriving DecidableEq

/-- The ref after a read, if it can be read so. -/
def Ref.seen (others : Bool) : Ref → RefState → Option Ref
  | ref, .error => some ref
  | .present, .exact _ _ => some .present
  | .pending, .exact _ _ => some .present
  | .free, .exact _ _ => if others then some .free else none
  | .present, _ => none
  | .pending, .none => some .pending
  | .free, .none => some .free
  | _, .wrong _ _ => if others then some .free else none

def Ref.created : Ref → Effect → Ref
  | .present, _ => .present
  | _, .done => .present
  | _, .pending => .pending
  | ref, .never => ref

variable {D τ : Type} [DecidableEq D] {C : Canon D}

/-- The ref of one plan, which a create sets to the planned commit and tree. -/
def planRef (others : Bool) (plan : Plan C) : Remote D Ref where
  read _ _ r ref := ref.seen others (plan.refState r)
  create _ _ _ r ref := some (ref.created r.effect)

/-- A provider that always answers. -/
structure Provider (R : Remote D τ) where
  read : τ → D → String → RefAnswer
  create : τ → D → String → String → Created
  reads : ∀ t repositoryDigest ref, (R.read repositoryDigest ref (read t repositoryDigest ref) t).isSome
  creates : ∀ t repositoryDigest ref commit,
    (R.create repositoryDigest ref commit (create t repositoryDigest ref commit) t).isSome

/-- A journal without I/O errors beside the provider: what it answers. -/
def Provider.answer {R : Remote D τ} (p : Provider R) (s : Store C τ) : (q : Port C) → q.Answer
  | .put => true
  | .load k operationId => content (s.index k operationId)
  | .link k r => if s.index k r.operationId = none then .created else .taken
  | .makeClaim operationId => if operationId ∈ s.claims then .existed else .made
  | .loadClaim operationId => content (s.claimed operationId)
  | .installClaim _ => .installed
  | .readRef repositoryDigest ref => p.read s.remote repositoryDigest ref
  | .createRef repositoryDigest ref commit => p.create s.remote repositoryDigest ref commit

theorem Provider.serves {R : Remote D τ} (p : Provider R) (s : Store C τ) (q : Port C) :
    (store C R q (p.answer s q) s).isSome := by
  cases q with
  | put => rfl
  | load k operationId => simp [store, Provider.answer]
  | link k r =>
    cases hi : s.index k r.operationId with
    | none => simp [store, Provider.answer, hi]
    | some v => simp [store, Provider.answer, hi]
  | makeClaim operationId =>
    by_cases hm : operationId ∈ s.claims
    · simp [store, Provider.answer, hm]
    · simp [store, Provider.answer, hm]
  | loadClaim operationId => simp [store, Provider.answer]
  | installClaim a => rfl
  | readRef repositoryDigest ref =>
    simp only [store, Option.isSome_map]
    exact p.reads _ _ _
  | createRef repositoryDigest ref commit =>
    simp only [store, Option.isSome_map]
    exact p.creates _ _ _ _

def Provider.oracle {R : Remote D τ} (p : Provider R) : Oracle (store C R) where
  answer := p.answer
  next s q := (store C R q (p.answer s q) s).get (p.serves s q)
  serves s q := (Option.some_get (p.serves s q)).symm

/-! ## A sample -/

namespace Sample

/-- Digests that are the text of what they digest. -/
def canon : Canon String where
  request r := String.intercalate "\n" (["request", r.observation.repositoryDigest, r.observation.baseRef,
    r.observation.baseCommit, r.observation.baseTree, r.observation.headRef, r.observation.headCommit, r.observation.headTree,
    r.observation.syntheticCommit, r.observation.syntheticTree, r.targetRepositoryDigest, r.targetRef, r.targetIdentity,
    r.providerIdentity, r.providerApiVersion] ++ r.trustedCheckContexts)
  plan p := String.intercalate "\n" ["plan", p.operationId, p.validationRef, p.expectedCommit, p.expectedTree]
  hex d := d

def observation : Observation String where
  repositoryDigest := "repository"
  baseRef := "refs/heads/integration"
  baseCommit := "1111111111111111111111111111111111111111"
  baseTree := "2222222222222222222222222222222222222222"
  headRef := "refs/heads/topic"
  headCommit := "3333333333333333333333333333333333333333"
  headTree := "4444444444444444444444444444444444444444"
  syntheticCommit := "5555555555555555555555555555555555555555"
  syntheticTree := "6666666666666666666666666666666666666666"
  objects := by decide

def request : Request String where
  observation
  targetRepositoryDigest := "repository"
  targetRef := "refs/heads/integration"
  targetIdentity := "integration-campaign"
  trustedCheckContexts := ["check"]
  providerIdentity := "synthetic-validation-provider"
  providerApiVersion := "1"
  repository := rfl

def plan : Plan canon := request.plan

/-- The planned commit and tree, once the ref is there; a create does `created`. -/
def provider (others : Bool) (created : Created) : Provider (planRef others plan) where
  read ref _ _ := if ref = .present then
    .mapping [("commit", .text observation.syntheticCommit), ("tree", .text observation.syntheticTree)] else .absent
  create _ _ _ _ := created
  reads ref _ _ := by
    cases ref <;> rfl
  creates _ _ _ _ := rfl

/-- A provider whose create takes effect and returns. -/
def oracle (others : Bool) : Oracle (store canon (planRef others plan)) := (provider others ⟨.done, true⟩).oracle

end Sample

end AvoCorrelate.SyntheticValidation
