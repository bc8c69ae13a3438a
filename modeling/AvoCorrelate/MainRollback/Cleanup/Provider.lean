import AvoCorrelate.MainRollback.Cleanup.Coordinator
/-!
# A journal without faults

What the journal answers when no I/O error is met; what stands behind the other ports is
given. `Sample` is one rollback to compute with.
-/
open AvoLib

namespace AvoCorrelate.MainRollback.Cleanup

variable {D : Type} [DecidableEq D]

/-- The answer of an exclusive link. -/
def linking {α : Type} : Option α → Published
  | none => .created
  | some _ => .taken

/-- The answers when no operation of the journal fails. -/
def faultless (others : Store D → (p : Port D) → p.Answer) (s : Store D) : (p : Port D) → p.Answer
  | .put => true
  | .load k operationId => content (s.index k operationId)
  | .link k r => linking (s.index k r.operationId)
  | .loadOwner d => content (s.owner d)
  | .linkOwner m => linking (s.owner m.intentDigest)
  | p => others s p

theorem faultless_served (others : Store D → (p : Port D) → p.Answer) (s : Store D) (p : Port D) :
    (journal p (faultless others s p) s).isSome = true := by
  cases p with
  | load k operationId => simp [journal, faultless]
  | loadOwner d => simp [journal, faultless]
  | link k r =>
    cases hi : s.index k r.operationId with
    | none => simp [journal, faultless, hi, linking, linked]
    | some v => simp [journal, faultless, hi, linking, linked]
  | linkOwner m =>
    cases hi : s.owner m.intentDigest with
    | none => simp [journal, faultless, hi, linking, linked]
    | some v => simp [journal, faultless, hi, linking, linked]
  | _ => rfl

def steady (others : Store D → (p : Port D) → p.Answer) : Oracle (journal (D := D)) where
  answer := faultless others
  next s p := (journal p (faultless others s p) s).get (faultless_served others s p)
  serves s p := (Option.some_get (faultless_served others s p)).symm

namespace Sample

/-- Digests that tell little. -/
def canon : Canon String where
  intent i := "intent of " ++ i.operationId
  receipt r := "receipt of " ++ r.operationId
  observation o := "observation of " ++ o.operationId
  ownerWithoutReceipt := "cleanup-owner-without-receipt"
  hex d := d

def rollback : RollbackIntent String where
  repositoryDigest := "repository"
  targetRef := ⟨"refs/heads/main", rfl⟩
  operationId := "rollback"
  sourceOperationId := "graduation"
  completionPackageDigest := "package"
  candidateRef := "refs/heads/avo/main-rollback/rollback"
  candidateCommit := "1111111111111111111111111111111111111111"
  intentDigest := "rollback intent"

def authority : Authority String := ⟨"rollback", "composition", rollback, "authorization", fun _ => "ancestor"⟩

def result : ResultReceipt String := ⟨"rollback", "package", "provider", "1", .applied, 10, "result"⟩

def cleaner : Principal String := ⟨"cleanup", 5, "isolation"⟩

def observer : Principal String := ⟨"observer", 4, "isolation"⟩

def config : Config String := ⟨some cleaner, some observer, "provider", "1"⟩

def intent : CleanupIntent String :=
  Coordinator.intentOf config cleaner observer (by decide) authority result 7 "https://provider/pull/7" 20

def receipt (i : CleanupIntent String) (outcome : ReceiptOutcome) : CleanupReceipt String :=
  { i.reconciliationReceipt canon i.recordedAt with outcome, responseDigest := "response" }

/-- What the provider sees of the ref, once the pull request is merged. -/
def observation (gone : Bool) (i : CleanupIntent String) (r : CleanupReceipt String) : CleanupObservation String :=
  { i.toMainBound, i.toBinding, i.toCandidate with
    operationId := i.operationId
    intentDigest := i.digest canon
    receiptDigest := r.digest canon
    outcome := if gone then .absent else .present
    candidateRefAbsent := gone
    pullRequestState := .closed
    pullRequestMerged := some true
    observedAt := r.observedAt
    exact := by cases gone <;> decide }

/-- A time that is not before those on record. -/
def clock (s : Store String) : Instant :=
  max ((s.index .intent "rollback").elim 20 (·.recordedAt)) ((s.index .receipt "rollback").elim 20 (·.observedAt))

/-- A provider that deletes the ref with this outcome, and sees it gone or not. -/
def others (outcome : ReceiptOutcome) (gone : Bool) (s : Store String) : (p : Port String) → p.Answer
  | .readRollbackIntent _ => .found rollback
  | .readAuthorization _ => .found "authorization"
  | .readAncestor _ _ => .found "ancestor"
  | .requireResult _ => true
  | .verify _ => true
  | .clock => .ok (clock s)
  | .verifyNamed _ => .ok ()
  | .earlier _ => .ok (.released authority result 7 "https://provider/pull/7")
  | .postState _ => .ok ()
  | .package _ => .ok ()
  | .cleanupRollback i => .returned (receipt i outcome)
  | .reconcileRollbackCleanup i r => .returned (observation gone i r)
  -- the journal's own ports are not asked
  | .put => true
  | .load _ _ => .missing
  | .link _ _ => .failed
  | .loadOwner _ => .missing
  | .linkOwner _ => .failed

def oracle (outcome : ReceiptOutcome) (gone : Bool) : Oracle (journal (D := String)) := steady (others outcome gone)

end Sample

end AvoCorrelate.MainRollback.Cleanup
