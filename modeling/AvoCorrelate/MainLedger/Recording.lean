import AvoCorrelate.MainLedger.Journal
/-!
# What the journal records

Each call checks its record against the disk (`admit...`): it is there already, and the
call returns what is there, or it may be recorded now, and the call creates its file.
-/
namespace AvoCorrelate.MainLedger

open AvoLib
open ExactCas (Sha256Digest)

/-! ## Files that are created in place -/

/-- Where an index is on the disk. -/
structure Slot (C : Canon) (R : Type) where
  file : Disk C → File R
  set : File R → Disk C → Disk C

namespace Slot
variable {C : Canon}

def activation : Slot C (Activation C) := ⟨(·.activation), fun f d => { d with activation := f }⟩

/-- The files of a sequence after `f`. -/
def setStages (digest : Sha256Digest) (n : Nat) (f : Stages C → Stages C) (d : Disk C) : Disk C :=
  { d with stages := Function.update d.stages digest (Function.update (d.stages digest) n (f (d.stages digest n))) }

def classification (digest : Sha256Digest) (n : Nat) : Slot C (Classification C) :=
  ⟨fun d => (d.stages digest n).classification, fun f => setStages digest n fun s => { s with classification := f }⟩

def outcome (digest : Sha256Digest) (n : Nat) : Slot C (Outcome C) :=
  ⟨fun d => (d.stages digest n).outcome, fun f => setStages digest n fun s => { s with outcome := f }⟩

def transition (digest : Sha256Digest) (n : Nat) : Slot C (Transition C) :=
  ⟨fun d => (d.stages digest n).transition, fun f => setStages digest n fun s => { s with transition := f }⟩

def boundary (digest : Sha256Digest) : Slot C Violation :=
  ⟨fun d => d.boundary digest, fun f d => { d with boundary := Function.update d.boundary digest f }⟩

def boundaryReset (digest : Sha256Digest) : Slot C (Reset C) :=
  ⟨fun d => d.boundaryReset digest, fun f d => { d with boundaryReset := Function.update d.boundaryReset digest f }⟩

def package (digest : Sha256Digest) : Slot C (EvidencePackage C) :=
  ⟨fun d => d.package digest, fun f d => { d with packages := (digest, f) :: d.packages.filter fun g => g.1 ≠ digest }⟩

end Slot

variable {C : Canon} (L : Limits C)

section CreateOnce
variable {R : Type} [Recorded C R] [DecidableEq R]

/-- What `_create_once` finds: nothing, or the record that it is to create. -/
def existing (slot : Slot C R) (r : R) (d : Disk C) : LedgerCheck C (Option R) :=
  ifFile (slot.file d) do
    let old ← readReference C (slot.file d)
    readRaw L old
    .require (old = r) (.conflict ("conflicting " ++ Recorded.kind C R ++ " create-once record"))
    pure old

def createOnce (slot : Slot C R) (r : R) : Ledger C R := do
  let old ← .check (existing L slot r)
  match old with
  | some old => pure old
  | none =>
    .write (slot.set (.bound r))
    pure r

/-- Return the record that is there, or create it. -/
def recordOnce (slot : Slot C R) (r : R) (admitted : Disk C → LedgerCheck C (Option R)) : Ledger C R := do
  let replayed ← .check admitted
  match replayed with
  | some old => pure old
  | none => createOnce L slot r

end CreateOnce

/-! ## Activation and submission -/

def admitActivation (a : Activation C) : LedgerCheck C (Option (Activation C)) := do
  verify "activation" (.activation a)
  put L a
  pure none

def recordActivation (a : Activation C) : Ledger C (Activation C) :=
  recordOnce L Slot.activation a fun _ => admitActivation L a

/-- The loop of `record_submission` over the entries that are there. -/
def requireNewSubmission (a : Activation C) (r : Submission C) (e : Entry C) : LedgerCheck C Unit := do
  let old ← readEntrySubmission L e a
  .require (¬ (old.sourceIdentity = r.sourceIdentity ∧ old.submissionIdentity = r.submissionIdentity))
    (.conflict "duplicate submission identity")
  .require (old.submissionDigest ≠ r.submissionDigest) (.conflict "duplicate physical submission content")

def admitSubmission (r : Submission C) (d : Disk C) : LedgerCheck C (Option (Submission C)) := do
  let a ← requireActivation L d r.activationDigest
  validateRecordArtifacts L r
  verify "submission" (.submission r a)
  .require (r.repositoryDigest = a.repositoryDigest ∧ r.targetRef = a.targetRef)
    (.journal "submission target differs from activation")
  .require (a.schedulerSequenceWatermark < r.schedulerSequence)
    (.journal "submission sequence is at or before activation watermark")
  let present ← sequenceEntry L d r.activationDigest r.schedulerSequence
  match present with
  | some e =>
    let old ← readEntrySubmission L e a
    .require (old = r) (.conflict "conflicting submission for scheduler sequence")
    pure (some e.submission)
  | none =>
    .require (isFile (d.boundary (a.activationDigest C)) = false)
      (.journal "submission cannot be appended after boundary evidence")
    requireFreshMutationAllowed L d a "submission"
    let state ← currentAccumulatorState L d a
    .require (r.schedulerSequence = state.lastSchedulerSequence + 1)
      (.journal "submission must be the exact next unprocessed sequence; scheduler sequence has a gap")
    put L r
    let entries ← entriesFor L d a
    let _ ← Check.each (requireNewSubmission L a r) entries
    pure none

def newEntry (s : Submission C) : Entry C :=
  ⟨s.activationDigest, s.schedulerSequence, s.operationId, s.sourceIdentity, s.submissionIdentity, s⟩

/-- What `_commit_entry` finds in the place of the entry. -/
def existingEntry (digest : Sha256Digest) (n : Nat) (entry : Entry C) (d : Disk C) : LedgerCheck C (Option (Entry C)) := do
  let present ← sequenceEntry L d digest n
  match present with
  | none => pure none
  | some old =>
    .require (old = entry) (.conflict "conflicting committed sequence entry")
    pure (some old)

def commitEntry (digest : Sha256Digest) (n : Nat) (entry : Entry C) : Ledger C Unit := do
  let old ← .check (existingEntry L digest n entry)
  match old with
  | some _ => pure ()
  | none => .write fun d => { d with sequences := Function.update d.sequences digest (d.sequences digest ++ [(n, entry)]) }

def recordSubmission (r : Submission C) : Ledger C (Submission C) := do
  let replayed ← .check (admitSubmission L r)
  match replayed with
  | some old => pure old
  | none =>
    commitEntry L r.activationDigest r.schedulerSequence (newEntry r)
    .check fun d => do
      let committed ← sequenceEntry L d r.activationDigest r.schedulerSequence
      let e ← .orRaise committed (.journal "submission commit disappeared")
      pure e.submission

/-! ## Stages -/

def admitClassification (r : Classification C) (d : Disk C) : LedgerCheck C (Option (Classification C)) := do
  let a ← requireActivation L d r.activationDigest
  validateRecordArtifacts L r
  let _ ← entriesFor L d a
  let e ← requireEntry L d r.activationDigest r.schedulerSequence
  let s ← readEntrySubmission L e a
  requireExactClassificationBinding r a s
  verify "classification" (.classification r a s)
  if isFile (d.stages (a.activationDigest C) r.schedulerSequence).classification then
    let old ← readEntryClassification L d e a s
    .require (old = r) (.conflict "conflicting classification replay")
    pure (some old)
  else
    .require (isFile (d.boundary (a.activationDigest C)) = false)
      (.journal "classification cannot be appended after boundary evidence")
    requireFreshMutationAllowed L d a "classification"
    put L r
    pure none

def recordClassification (r : Classification C) : Ledger C (Classification C) :=
  recordOnce L (.classification r.activationDigest r.schedulerSequence) r (admitClassification L r)

def admitOutcome (r : Outcome C) (d : Disk C) : LedgerCheck C (Option (Outcome C)) := do
  let a ← requireActivation L d r.activationDigest
  validateRecordArtifacts L r
  let _ ← entriesFor L d a
  let e ← requireEntry L d r.activationDigest r.schedulerSequence
  let s ← readEntrySubmission L e a
  let c ← requireClassification L d e a s
  requireExactOutcomeBinding r a s c
  verify "outcome" (.outcome r a s c)
  if isFile (d.stages (a.activationDigest C) r.schedulerSequence).outcome then
    let old ← readEntryOutcome L d e a s c
    .require (old = r) (.conflict "conflicting terminal outcome replay")
    pure (some old)
  else
    .require (isFile (d.boundary (a.activationDigest C)) = false)
      (.journal "outcome cannot be appended after boundary evidence")
    requireFreshMutationAllowed L d a "outcome"
    put L r
    pure none

def recordOutcome (r : Outcome C) : Ledger C (Outcome C) :=
  recordOnce L (.outcome r.activationDigest r.schedulerSequence) r (admitOutcome L r)

def admitTransition (r : Transition C) (d : Disk C) : LedgerCheck C (Option (Transition C)) := do
  let a ← requireActivation L d r.activationDigest
  let _ ← entriesFor L d a
  let n := r.classification.schedulerSequence
  let e ← requireEntry L d r.activationDigest n
  let s ← readEntrySubmission L e a
  let c ← requireClassification L d e a s
  .require (r.classification = c.toClassificationBody)
    (.journal "transition classification differs from durable classification")
  let o ← outcomeFor L d e a s c
  .require (c.classification = .excluded → r.outcome = none) (.journal "excluded transition cannot carry outcome")
  requireExactTransitionBinding r a c o
  let before ← priorState L d a n
  .require (r.priorState = before) (.journal "transition predecessor differs from durable chain")
  verify "transition" (.transition r a c o)
  if isFile (d.stages (a.activationDigest C) n).transition then
    let old ← readEntryTransition L d e a c o
    .require (old = r) (.conflict "conflicting accumulator transition replay")
    pure (some old)
  else
    .require (isFile (d.boundary (a.activationDigest C)) = false)
      (.journal "transition cannot be appended after boundary evidence")
    requireFreshMutationAllowed L d a "transition"
    put L r
    pure none

def recordTransition (r : Transition C) : Ledger C (Transition C) :=
  recordOnce L (.transition r.activationDigest r.classification.schedulerSequence) r (admitTransition L r)

/-! ## The boundary -/

def admitBoundaryEvidence (r : Violation) (d : Disk C) : LedgerCheck C (Option Violation) := do
  let a ← requireActivation L d r.activationDigest
  validateRecordArtifacts L r
  .require (r.controllerAuthority = a.controllerAuthority)
    (.journal "boundary evidence controller authority differs from activation")
  if isFile (d.boundary (a.activationDigest C)) then
    let old ← readReference C (d.boundary (a.activationDigest C))
    readRaw L old
    .require (old = r) (.conflict "conflicting boundary create-once record")
    let old ← readRecord L old
    verify "boundary" (.boundary old a)
    pure (some old)
  else
    requireFreshMutationAllowed L d a "boundary evidence"
    validateBoundaryObservation L d a r.toViolationBody
    verify "boundary" (.boundary r a)
    put L r
    pure none

def recordBoundaryEvidence (r : Violation) : Ledger C Violation :=
  recordOnce L (.boundary r.activationDigest) r (admitBoundaryEvidence L r)

def admitBoundaryReset (r : Reset C) (d : Disk C) : LedgerCheck C (Option (Reset C)) := do
  let a ← requireActivation L d r.activationDigest
  validateRecordArtifacts L r
  let e ← requireBoundaryEvidence L d a (r.violation.violationDigest C)
  .require (r.violation = e.toViolationBody) (.journal "boundary reset evidence differs from durable evidence")
  validateBoundaryObservation L d a e.toViolationBody
  requirePriorStateForBoundary L d a r.priorState e.toViolationBody
  verify "boundary-reset" (.boundaryReset r a e)
  if isFile (d.boundaryReset (a.activationDigest C)) then
    let old ← readReference C (d.boundaryReset (a.activationDigest C))
    readRaw L old
    .require (old = r) (.conflict "conflicting boundary reset create-once record")
    pure (some old)
  else
    put L r
    pure none

def recordBoundaryReset (r : Reset C) : Ledger C (Reset C) :=
  recordOnce L (.boundaryReset r.activationDigest) r (admitBoundaryReset L r)

/-! ## The package -/

/-- What `_verify_package_closure` asks of a submission of the package. -/
def closesSubmission (a : Activation C) (entries : List (Entry C)) (s : SubmissionBody) : LedgerCheck C Unit := do
  let e ← .orRaise (lookup Entry.schedulerSequence entries s.schedulerSequence)
    (.journal "package references a missing durable submission")
  let durable ← readEntrySubmission L e a
  readExternal L (contentArtifact s)
  .require (durable.toSubmissionBody = s) (.journal "package submission differs from durable record")

def closesTailEntry (d : Disk C) (a : Activation C) (entries : List (Entry C)) (p : PackageBody) (t : TailEntryBody) :
    LedgerCheck C Unit := do
  let e ← .orRaise (lookup Entry.schedulerSequence entries t.schedulerSequence)
    (.journal "package unresolved tail does not represent every durable sequence")
  let durable ← readEntrySubmission L e a
  match t.envelope with
  | some s =>
    .require (t.schedulerSequence ∉ p.submissions.map (·.schedulerSequence) ∧ s = durable.toSubmissionBody)
      (.journal "unresolved tail envelope differs from durable envelope")
    readExternal L (contentArtifact s)
    verify "submission" (.submission durable a)
  | none =>
    .require (t.hasEnvelopeIdentity = true) (.journal "durable unresolved sequence has no envelope binding")
    .require (t.schedulerSequence ∈ p.submissions.map (·.schedulerSequence))
      (.journal "unresolved tail identity has no package envelope")
    .require (t.identity = durable.identity C) (.journal "unresolved tail identity differs from durable envelope")
  .require ((d.stages (a.activationDigest C) t.schedulerSequence).untouched = true)
    (.journal "package contains a stage after the first unresolved sequence")

/-- What it asks of a boundary package before it looks at the processed prefix. -/
def closesBoundary (d : Disk C) (a : Activation C) (entries : List (Entry C)) (p : EvidencePackage C) :
    LedgerCheck C Unit := do
  let e ← .orRaise p.boundaryEvidence (.journal "boundary-reset package is missing terminal evidence")
  let r ← .orRaise p.terminalBoundaryReset (.journal "boundary-reset package is missing terminal evidence")
  let durableEvidence ← requireBoundaryEvidence L d a (e.violationDigest C)
  .require (durableEvidence.toViolationBody = e) (.journal "package boundary evidence differs from durable record")
  let durableReset ← readBoundaryReset L d (a.activationDigest C)
  .require (durableReset.map (·.toResetBody) = some r) (.journal "package boundary reset differs from durable record")
  validateBoundaryObservation L d a durableEvidence.toViolationBody
  let first := a.schedulerSequenceWatermark + 1
  let expected := e.expectedSchedulerSequence
  let durableTail := (entries.map (·.schedulerSequence)).filter fun n => expected ≤ n
  .require ((p.submissions.map (·.schedulerSequence)).filter (fun n => n < expected) = List.range' first (expected - first))
    (.journal "package processed submissions are not a contiguous prefix")
  .require (p.unresolvedTail.map (·.schedulerSequence)).Nodup (.journal "package unresolved tail overlaps")
  if durableTail ≠ [] then
    .require (p.unresolvedTail.map (·.schedulerSequence) = durableTail)
      (.journal "package unresolved tail does not represent every durable sequence")
    let _ ← Check.each (closesTailEntry L d a entries p.toPackageBody) p.unresolvedTail
  else
    .require (expected = first + entries.length) (.journal "missing-envelope boundary is not at the next sequence")
    .require (p.unresolvedTail = [] ∨ p.unresolvedTail.map (·.schedulerSequence) = [expected])
      (.journal "missing-envelope tail is not the exact next sequence")
    .require (∀ t ∈ p.unresolvedTail, t.hasEnvelopeIdentity = false)
      (.journal "missing-envelope starvation carries an envelope identity")
  .require (r.priorState = p.normalFinalState C) (.journal "boundary reset predecessor differs from processed prefix")
  .require (p.finalState = r.resultingState) (.journal "boundary package final state differs from durable reset")
  .require (p.finalState.thresholdComplete = false) (.journal "boundary-reset package cannot complete threshold")

/-- What it asks of a processed submission, its classification, outcome and transition.
The submission of the entry is the one of the package. -/
def closesProcessed (d : Disk C) (a : Activation C) (entries : List (Entry C)) (p : EvidencePackage C)
    (sc : SubmissionBody × ClassificationBody) : LedgerCheck C Unit := do
  let e ← .orRaise (lookup Entry.schedulerSequence entries sc.1.schedulerSequence)
    (.journal "package references a missing durable submission")
  let c ← requireClassification L d e a e.submission
  .require (c.toClassificationBody = sc.2) (.journal "package classification differs from durable record")
  let o ←
    match lookup OutcomeBody.schedulerSequence p.outcomes sc.2.schedulerSequence with
    | some o => do
      .require (c.classification = .eligible) (.journal "excluded package submission has an outcome")
      let durable ← requireOutcome L d e a e.submission c
      .require (durable.toOutcomeBody = o) (.journal "package outcome differs from durable record")
      pure (some durable)
    | none => do
      .require (c.classification ≠ .eligible) (.journal "eligible package submission has no outcome")
      pure none
  let t ← readEntryTransition L d e a c o
  .require (lookup (fun t => t.classification.schedulerSequence) p.transitions sc.2.schedulerSequence =
    some t.toTransitionBody) (.journal "package transition differs from durable record")

def verifyPackageClosure (d : Disk C) (p : EvidencePackage C) (a : Activation C) : LedgerCheck C Unit := do
  .require (p.activation = a.toActivationBody) (.journal "package activation differs from durable activation")
  let entries ← entriesFor L d a
  let durableSequences := entries.map (·.schedulerSequence)
  .require (durableSequences = List.range' (a.schedulerSequenceWatermark + 1) entries.length)
    (.journal "package sequence index has a gap, overlap, or reordering")
  .require (p.submissions.map (·.schedulerSequence)).Nodup (.journal "package contains duplicate submissions")
  let _ ← Check.each (closesSubmission L a entries) p.submissions
  .require ((p.outcomes.map (·.schedulerSequence)).Nodup ∧
    (p.transitions.map (·.classification.schedulerSequence)).Nodup) (.journal "package contains duplicate stage records")
  match p.status with
  | .boundaryReset => closesBoundary L d a entries p
  | .thresholdComplete =>
    .require (p.unresolvedTail = []) (.journal "threshold-complete package contains unresolved tail")
    .require (p.submissions.map (·.schedulerSequence) = durableSequences)
      (.journal "threshold package does not represent every durable submission")
  .require (p.classifications.length = p.prefixSubmissions.length ∧ p.transitions.length = p.prefixSubmissions.length)
    (.journal "package does not close every processed durable sequence")
  let _ ← Check.each (closesProcessed L d a entries p) (p.prefixSubmissions.zip p.classifications)
  .require (sameSet (p.outcomes.map (·.schedulerSequence))
    ((p.classifications.filter fun c => c.classification = .eligible).map (·.schedulerSequence)))
    (.journal "package outcome coverage differs")
  .require (p.status = .thresholdComplete → p.finalState = p.normalFinalState C ∧ p.finalState.thresholdComplete = true)
    (.journal "threshold package final state does not close the transition chain")

def admitPackage (r : EvidencePackage C) (d : Disk C) : LedgerCheck C (Option (EvidencePackage C)) := do
  let a ← requireActivation L d (r.activation.activationDigest C)
  if isFile (d.package (a.activationDigest C)) then
    let old ← readReference C (d.package (a.activationDigest C))
    readRaw L old
    .require (old = r) (.conflict "conflicting package create-once record")
    let old ← readRecord L old
    verifyPackageClosure L d old a
    verify "package" (.package old)
    pure (some old)
  else
    requirePackageWriteAllowed L d a
    verifyPackageClosure L d r a
    verify "package" (.package r)
    put L r
    pure none

def recordPackage (r : EvidencePackage C) : Ledger C (EvidencePackage C) :=
  recordOnce L (.package (r.activation.activationDigest C)) r (admitPackage L r)

/-! ## Reading -/

def readPackageFile (f : File (EvidencePackage C)) : LedgerCheck C (EvidencePackage C) := do
  let p ← readReference C f
  readRecord L p

/-- The checks of `read_package` on a package that was read. -/
def checkPackage (d : Disk C) (p : EvidencePackage C) : LedgerCheck C (EvidencePackage C) := do
  let a ← requireActivation L d (p.activation.activationDigest C)
  verifyPackageClosure L d p a
  verify "package" (.package p)
  pure p

/-- The loop of `read_package` over the index files. -/
def matchingPackages (d : Disk C) (digest : Sha256Digest) :
    List (Sha256Digest × File (EvidencePackage C)) → LedgerCheck C (List (EvidencePackage C))
  | [] => pure []
  | f :: fs => do
    let p ← readPackageFile L f.2
    if C.digest (.package p.toPackageBody) = digest then
      let p ← checkPackage L d p
      let ps ← matchingPackages d digest fs
      pure (p :: ps)
    else matchingPackages d digest fs

def readPackage (d : Disk C) (digest : Sha256Digest) : LedgerCheck C (Option (EvidencePackage C)) :=
  if isFile (d.package digest) then do
    let p ← readPackageFile L (d.package digest)
    .require (p.activation.activationDigest C = digest)
      (.journal "package index identity differs from package activation")
    let p ← checkPackage L d p
    pure (some p)
  else do
    let ps ← matchingPackages L d digest d.packages
    match ps with
    | [p] => pure (some p)
    | _ => pure none

/-- How a submission is asked for: by its operation or by its sequence. -/
inductive Identity
  | operation (operationId : Sha256Digest)
  | sequence (n : Nat)
  deriving DecidableEq

def Identity.names : Identity → Submission C → Bool
  | .operation operationId, s => s.operationId = operationId
  | .sequence n, s => s.schedulerSequence = n

def findSubmission (a : Activation C) (identity : Identity) :
    List (Entry C) → LedgerCheck C (Option (Entry C × Submission C))
  | [] => pure none
  | e :: es => do
    let s ← readEntrySubmission L e a
    if identity.names s then pure (some (e, s)) else findSubmission a identity es

def readSubmission (d : Disk C) (operationId : Sha256Digest) : LedgerCheck C (Option (Submission C)) := do
  let a ← requireActivationForRead L d
  let entries ← entriesFor L d a
  let found ← findSubmission L a (.operation operationId) entries
  pure (found.map (·.2))

def readSubmissionBySequence (d : Disk C) (n : Nat) : LedgerCheck C (Option (Submission C)) := do
  let a ← requireActivationForRead L d
  let entries ← entriesFor L d a
  match entries.find? fun e => e.schedulerSequence = n with
  | none => pure none
  | some e => do
    let s ← readEntrySubmission L e a
    pure (some s)

def listSubmissions (d : Disk C) : LedgerCheck C (List (Submission C)) := do
  let a ← requireActivationForRead L d
  let entries ← entriesFor L d a
  Check.each (fun e => readEntrySubmission L e a) entries

def readClassification (d : Disk C) (identity : Identity) : LedgerCheck C (Option (Classification C)) := do
  let a ← requireActivationForRead L d
  let entries ← entriesFor L d a
  let found ← findSubmission L a identity entries
  match found with
  | none => pure none
  | some (e, s) =>
    ifFile (d.stages (a.activationDigest C) s.schedulerSequence).classification (readEntryClassification L d e a s)

def readOutcome (d : Disk C) (identity : Identity) : LedgerCheck C (Option (Outcome C)) := do
  let a ← requireActivationForRead L d
  let entries ← entriesFor L d a
  let found ← findSubmission L a identity entries
  match found with
  | none => pure none
  | some (e, s) =>
    ifFile (d.stages (a.activationDigest C) s.schedulerSequence).outcome do
      let c ← requireClassification L d e a s
      readEntryOutcome L d e a s c

def readTransition (d : Disk C) (identity : Identity) : LedgerCheck C (Option (Transition C)) := do
  let a ← requireActivationForRead L d
  let entries ← entriesFor L d a
  let found ← findSubmission L a identity entries
  match found with
  | none => pure none
  | some (e, s) =>
    ifFile (d.stages (a.activationDigest C) s.schedulerSequence).transition do
      let c ← requireClassification L d e a s
      let o ← outcomeFor L d e a s c
      let t ← readEntryTransition L d e a c o
      requirePriorState L d a t
      pure t

def listSequences (d : Disk C) : LedgerCheck C (List Nat) := do
  let a ← requireActivationForRead L d
  let entries ← entriesFor L d a
  let _ ← Check.each (validateEntry L d a) entries
  pure (entries.map (·.schedulerSequence))

/-! ## Calls -/

/-- The calls that write. -/
inductive Call (C : Canon)
  | activation (a : Activation C)
  | submission (s : Submission C)
  | classification (c : Classification C)
  | outcome (o : Outcome C)
  | transition (t : Transition C)
  | boundaryEvidence (e : Violation)
  | boundaryReset (r : Reset C)
  | package (p : EvidencePackage C)

/-- A call, whatever it returns or raises. -/
def Call.run : Call C → Ledger C Unit
  | .activation a => do let _ ← (recordActivation L a).attempt
  | .submission s => do let _ ← (recordSubmission L s).attempt
  | .classification c => do let _ ← (recordClassification L c).attempt
  | .outcome o => do let _ ← (recordOutcome L o).attempt
  | .transition t => do let _ ← (recordTransition L t).attempt
  | .boundaryEvidence e => do let _ ← (recordBoundaryEvidence L e).attempt
  | .boundaryReset r => do let _ ← (recordBoundaryReset L r).attempt
  | .package p => do let _ ← (recordPackage L p).attempt

end AvoCorrelate.MainLedger
