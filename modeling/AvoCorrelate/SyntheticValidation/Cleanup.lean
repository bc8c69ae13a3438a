import AvoCorrelate.SyntheticValidation.Provider
/-!
# Cleaning up the validation ref

`cleanup` reads the ref, deletes it when it is exactly the planned one, and reads again.
What the provider does is a function of what happened before: a read may fail or show
anything, and a deletion may return or not, whatever its effect. Every exit makes a record
of the outcome, and the contract of that record has the last word.
-/
open AvoLib

namespace AvoCorrelate.SyntheticValidation

namespace Cleanup

/-- `SyntheticValidationCompletionProof`; its `completed` is always true. -/
structure CompletionProof (D : Type) where
  operationId : D
  planDigest : D
  completionDigest : D
  deriving DecidableEq

/-- What a call does at the provider. -/
inductive Event
  | read (answer : RefAnswer)
  | delete (returned : Bool)
  deriving DecidableEq

/-- The provider, by what happened in the call before. -/
structure Behaviour where
  read : List Event → RefAnswer
  delete : List Event → Bool

/-- The indexes of the journal that `cleanup` uses, and what it has done. -/
structure World {D : Type} (C : Canon D) where
  plan : D → Found (Plan C)
  cleanup : D → Found (Outcome C)
  events : List Event

/-- The exceptions: a conflict, a refusal, the journal's, and a contract that does not hold. -/
inductive Failure
  | conflict (message : String)
  | refused (message : String)
  | journal (message : String)
  | validation
  deriving DecidableEq

abbrev Call {D : Type} (C : Canon D) := ExceptT Failure (StateM (World C))

/-- The argument of `cleanup`. -/
inductive Asked {D : Type} (C : Canon D)
  | plan (plan : Plan C)
  | operation (operationId : D)

variable {D : Type} [DecidableEq D] {C : Canon D}

/-! ## The journal -/

/-- `_read` of an index. -/
def load {R : Type} (kind : String) (operationOf : R → D) (operationId : D) : Found R → Except Failure (Option R)
  | .missing => .ok none
  | .malformed => .error (.journal ("malformed or unverifiable synthetic validation " ++ kind))
  | .found record =>
    if operationOf record = operationId then .ok (some record)
    else .error (.journal "record operation ID does not match index")

def readPlan (operationId : D) : Call C (Option (Plan C)) := fun w =>
  (load "plan" (fun plan => plan.operationId) operationId (w.plan operationId), w)

def readCleanup (operationId : D) : Call C (Option (Outcome C)) := fun w =>
  (load "cleanup" (fun o => o.operationId) operationId (w.cleanup operationId), w)

def recordCleanup (o : Outcome C) : Call C Unit := fun w =>
  match w.cleanup o.operationId with
  | .missing => (.ok (), { w with cleanup := Function.update w.cleanup o.operationId (.found o) })
  | .malformed => (.error (.journal "synthetic validation index is malformed"), w)
  | .found old =>
    if old = o then (.ok (), w)
    else (.error (.journal ("conflicting synthetic validation cleanup for operation sha256:" ++ C.hex o.operationId)), w)

/-! ## The service -/

def read (B : Behaviour) (plan : Plan C) : Call C RefState := fun w =>
  (.ok (plan.refState (B.read w.events)), { w with events := w.events ++ [.read (B.read w.events)] })

/-- `delete_validation_ref`, and whether it returned. -/
def delete (B : Behaviour) : Call C Bool := fun w =>
  (.ok (B.delete w.events), { w with events := w.events ++ [.delete (B.delete w.events)] })

def outcome (plan : Plan C) (kind : OutcomeKind) (commit tree error : Option String) : Call C (Outcome C) :=
  if valid : plan.binding.Admits kind commit tree error then
    return { toBinding := plan.binding, outcome := kind, observedCommit := commit, observedTree := tree, error, valid }
  else throw .validation

def saveCleanup (o : Outcome C) : Call C (Outcome C) :=
  if o.outcome = .reconciliationRequired then return o
  else do
    recordCleanup o
    return o

def report (plan : Plan C) (kind : OutcomeKind) (commit tree error : Option String) : Call C (Outcome C) := do
  let o ← outcome plan kind commit tree error
  saveCleanup o

/-- What the second read says about a deletion that raised, or returned. -/
def afterDelete (plan : Plan C) : Bool → RefState → Call C (Outcome C)
  | _, .none => report plan .cleaned none none none
  | false, _ => report plan .reconciliationRequired none none (some "delete response ambiguous")
  | true, .exact _ _ => report plan .reconciliationRequired none none (some "delete succeeded but ref remains")
  | true, .wrong _ _ => report plan .invalid none none (some "delete changed ref to a wrong SHA")
  | true, .error => report plan .reconciliationRequired none none (some "deleted ref could not be reconciled")

/-- The part of `cleanup` from the first read on. -/
def remove (B : Behaviour) (plan : Plan C) : Call C (Outcome C) := do
  match ← read B plan with
  | .none => report plan .cleaned none none none
  | .error => report plan .reconciliationRequired none none (some "ref read failed")
  | .wrong commit tree =>
    report plan .invalid (some commit) (some tree) (some "ref does not contain the planned SHA; refusing delete")
  | .exact _ _ => do
    let returned ← delete B
    let after ← read B plan
    afterDelete plan returned after

def durablePlan : Asked C → Call C (Plan C)
  | .operation operationId => do
    match ← readPlan operationId with
    | none => throw (.conflict "cannot clean up an unknown operation")
    | some loaded => return loaded
  | .plan plan => do
    match ← readPlan plan.operationId with
    | none => throw (.refused "cleanup requires a durably recorded plan")
    | some loaded => if loaded = plan then return loaded else throw (.conflict "cleanup plan differs from durable plan")

def admitProof (verifier : Option (Plan C → CompletionProof D → Bool)) (plan : Plan C) (proof : CompletionProof D) :
    Call C Unit :=
  if proof.operationId = plan.operationId ∧ proof.planDigest = plan.planDigest then
    match verifier with
    | none => throw (.refused "cleanup requires durable completion proof verification")
    | some verify =>
      if verify plan proof then return ()
      else throw (.refused "completion proof is not bound to durable campaign evidence")
  else throw (.refused "cleanup requires completion proof bound to the exact plan")

/-- A durable outcome is final unless it is uncertain. -/
def resume (B : Behaviour) (plan : Plan C) : Option (Outcome C) → Call C (Outcome C)
  | none => remove B plan
  | some durable =>
    if durable.outcome = .reconciliationRequired then remove B plan
    else if Service.Bound durable.toBinding plan then return durable
    else throw (.conflict "durable outcome is not bound to the plan")

def cleanup (B : Behaviour) (verifier : Option (Plan C → CompletionProof D → Bool)) (asked : Asked C)
    (proof : CompletionProof D) : Call C (Outcome C) := do
  let plan ← durablePlan asked
  admitProof verifier plan proof
  let durable ← readCleanup plan.operationId
  resume B plan durable

/-! ## What one call does -/

def Behaviour.first (B : Behaviour) : RefAnswer := B.read []

def Behaviour.returned (B : Behaviour) : Bool := B.delete [.read B.first]

/-- What is read after the deletion. -/
def Behaviour.second (B : Behaviour) : RefAnswer := B.read [.read B.first, .delete B.returned]

/-- What the record of the outcome is made of. -/
structure Ending where
  kind : OutcomeKind
  commit : Option String
  tree : Option String
  error : Option String

def endingAfter : Bool → RefState → Ending
  | _, .none => ⟨.cleaned, none, none, none⟩
  | false, _ => ⟨.reconciliationRequired, none, none, some "delete response ambiguous"⟩
  | true, .exact _ _ => ⟨.reconciliationRequired, none, none, some "delete succeeded but ref remains"⟩
  | true, .wrong _ _ => ⟨.invalid, none, none, some "delete changed ref to a wrong SHA"⟩
  | true, .error => ⟨.reconciliationRequired, none, none, some "deleted ref could not be reconciled"⟩

def Behaviour.ending (B : Behaviour) (plan : Plan C) : Ending :=
  match plan.refState B.first with
  | .none => ⟨.cleaned, none, none, none⟩
  | .error => ⟨.reconciliationRequired, none, none, some "ref read failed"⟩
  | .wrong commit tree =>
    ⟨.invalid, some commit, some tree, some "ref does not contain the planned SHA; refusing delete"⟩
  | .exact _ _ => endingAfter B.returned (plan.refState B.second)

def Ending.report (e : Ending) (plan : Plan C) : Call C (Outcome C) :=
  Cleanup.report plan e.kind e.commit e.tree e.error

variable {X Y : Type} {x : Call C X} {f : X → Call C Y} {w w' : World C} {o : Outcome C} {e : Ending}
  {asked : Asked C} {a : RefAnswer} {commit tree : String} {B : Behaviour}

omit [DecidableEq D] in
theorem bind_ok {v : X} (h : x w = (.ok v, w')) : (x >>= f) w = f v w' := by
  change (ExceptT.bind x f) w = f v w'
  simp only [ExceptT.bind, ExceptT.mk, bind, StateT.bind, h]
  rfl

omit [DecidableEq D] in
theorem bind_error {e : Failure} (h : x w = (.error e, w')) : (x >>= f) w = (.error e, w') := by
  change (ExceptT.bind x f) w = (.error e, w')
  simp only [ExceptT.bind, ExceptT.mk, bind, StateT.bind, h]
  rfl

def Ending.Admitted (e : Ending) (plan : Plan C) : Prop := plan.binding.Admits e.kind e.commit e.tree e.error

def Ending.record (e : Ending) (plan : Plan C) (valid : e.Admitted plan) : Outcome C where
  toBinding := plan.binding
  outcome := e.kind
  observedCommit := e.commit
  observedTree := e.tree
  error := e.error
  valid

structure Accepted (w : World C) (verifier : Option (Plan C → CompletionProof D → Bool)) (asked : Asked C)
    (proof : CompletionProof D) (plan : Plan C) : Prop where
  asked : asked = .plan plan ∨ asked = .operation plan.operationId
  durable : w.plan plan.operationId = .found plan
  bound : proof.operationId = plan.operationId ∧ proof.planDigest = plan.planDigest
  verified : ∃ verify, verifier = some verify ∧ verify plan proof

omit [DecidableEq D] in
theorem refState_exact {plan : Plan C} (h : plan.refState a = .exact commit tree) :
    commit = plan.expectedCommit ∧ tree = plan.expectedTree := by
  unfold Plan.refState at h
  split at h
  · cases h
  · cases h
  · split at h
    · cases h
    · split at h
      · next hcommit =>
        split at h
        · next htree =>
          cases h
          exact ⟨hcommit, htree⟩
        · cases h
      · cases h

omit [DecidableEq D] in
theorem refState_wrong {plan : Plan C} (h : plan.refState a = .wrong commit tree) :
    ¬ (commit = plan.expectedCommit ∧ tree = plan.expectedTree) := by
  rintro ⟨rfl, rfl⟩
  unfold Plan.refState at h
  split at h
  · cases h
  · cases h
  · split at h
    · cases h
    · split at h
      · split at h
        · cases h
        · next htree =>
          cases h
          exact htree rfl
      · next hcommit =>
        cases h
        exact hcommit rfl

namespace Sample

open SyntheticValidation.Sample (canon plan observation)

def proof : CompletionProof String where
  operationId := plan.operationId
  planDigest := plan.planDigest
  completionDigest := "completion"

def verifier : Option (Plan canon → CompletionProof String → Bool) := some fun _ _ => true

def world : World canon where
  plan _ := .found plan
  cleanup _ := .missing
  events := []

def planned : RefAnswer := .mapping [("commit", .text observation.syntheticCommit), ("tree", .text observation.syntheticTree)]

/-- The deletion returns, and then the ref shows the base commit. -/
def replaced : Behaviour where
  read events := if events = [] then planned else
    .mapping [("commit", .text observation.baseCommit), ("tree", .text observation.baseTree)]
  delete _ := true

theorem accepted : Accepted world verifier (.plan plan) proof plan where
  asked := .inl rfl
  durable := rfl
  bound := ⟨rfl, rfl⟩
  verified := ⟨_, rfl, rfl⟩

end Sample

end Cleanup

end AvoCorrelate.SyntheticValidation
