import AvoCorrelate.Lib.Checks
import AvoCorrelate.Lib.Programs
import AvoCorrelate.MainLedger.Contracts
/-!
# The journal of the ledger

An index file names its record by digest, so it stands for the record here. The entry of
a sequence is installed by a hard link and is there as a whole or not at all; the other
indexes are created in place (`AvoLib.File`). The calls run one at a time, so a call is
the checks it makes of the disk, and then at most one file that it creates.

What a call cannot know is a question: whether the authority verifier accepts a record,
and whether an artifact that a record names is in the store, whole and canonical.
-/
namespace AvoCorrelate.MainLedger

open AvoLib
open ExactCas (Sha256Digest ArtifactRef)

/-! ## The disk -/

/-- The index of a sequence. -/
structure Entry (C : Canon) where
  activationDigest : Sha256Digest
  schedulerSequence : Nat
  operationId : Sha256Digest
  sourceIdentity : String
  submissionIdentity : String
  submission : Submission C
  deriving DecidableEq

/-- The files of a sequence below `stage`. -/
structure Stages (C : Canon) where
  classification : File (Classification C)
  outcome : File (Outcome C)
  transition : File (Transition C)

/-- Everything below `main-ledger-v2`. -/
structure Disk (C : Canon) where
  activation : File (Activation C)
  sequences : Sha256Digest → List (Nat × Entry C)
  stages : Sha256Digest → Nat → Stages C
  boundary : Sha256Digest → File Violation
  boundaryReset : Sha256Digest → File (Reset C)
  packages : List (Sha256Digest × File (EvidencePackage C))

def Disk.blank (C : Canon) : Disk C where
  activation := .absent
  sequences _ := []
  stages _ _ := ⟨.absent, .absent, .absent⟩
  boundary _ := .absent
  boundaryReset _ := .absent
  packages := []

def isFile {α : Type} : File α → Bool
  | .absent => false
  | _ => true

@[simp] theorem isFile_eq_true {α : Type} {f : File α} : isFile f = true ↔ f ≠ .absent := by cases f <;> simp [isFile]

@[simp] theorem isFile_eq_false {α : Type} {f : File α} : isFile f = false ↔ f = .absent := by cases f <;> simp [isFile]

variable {C : Canon}

/-- `_package_path`. -/
def Disk.package (d : Disk C) (digest : Sha256Digest) : File (EvidencePackage C) := (d.packages.lookup digest).getD .absent

/-- The lengths of the canonical bytes of a record with its digest and of a sequence
entry, and `max_record_bytes`. -/
structure Limits (C : Canon) where
  record : Document → Nat
  entry : Entry C → Nat
  max : Nat

def maxIndexBytes : Nat := 1024 * 1024

inductive Question (C : Canon)
  | activation (a : Activation C)
  | submission (s : Submission C) (a : Activation C)
  | classification (c : Classification C) (a : Activation C) (s : Submission C)
  | outcome (o : Outcome C) (a : Activation C) (s : Submission C) (c : Classification C)
  | transition (t : Transition C) (a : Activation C) (c : Classification C) (o : Option (Outcome C))
  | boundary (e : Violation) (a : Activation C)
  | boundaryReset (r : Reset C) (a : Activation C) (e : Violation)
  | package (p : EvidencePackage C)
  | external (artifact : ArtifactRef)

/-- `MainGraduationLedgerJournalError`, its subclass for conflicts, `ArtifactTooLargeError`
of the store, and the `ValidationError` of a record that is not valid. -/
inductive LedgerError
  | journal (message : String)
  | conflict (message : String)
  | tooLarge
  | invalid
  deriving DecidableEq

abbrev LedgerCheck (C : Canon) := Check (Question C) LedgerError

abbrev Ledger (C : Canon) := Procedure (Question C) (Disk C) LedgerError

/-- An artifact outside the ledger that a record names, with the role and the media type
it must have. -/
structure External where
  artifact : ArtifactRef
  role : String
  mediaType : String
  deriving DecidableEq

/-- A kind of records. -/
class Recorded (C : Canon) (R : Type) where
  kind : String
  document : R → Document
  artifacts : R → List External

instance : Recorded C (Activation C) := ⟨"activation", fun a => .activation a.toActivationBody, fun _ => []⟩

def contentArtifact (s : SubmissionBody) : External :=
  ⟨s.contentArtifact, "scheduler-submission-content", "application/vnd.avo.scheduler-submission+json"⟩

instance : Recorded C (Submission C) := ⟨"submission", fun s => .submission s.toSubmissionBody, fun s =>
  [contentArtifact s.toSubmissionBody]⟩

instance : Recorded C (Classification C) := ⟨"classification", fun c => .classification c.toClassificationBody, fun c =>
  c.independentExclusionEvidence.toList.map fun e =>
    ⟨e, "ledger-classification-exclusion-evidence", "application/vnd.avo.ledger-exclusion-evidence+json"⟩⟩

instance : Recorded C (Outcome C) := ⟨"outcome", fun o => .outcome o.toOutcomeBody, fun o =>
  ⟨o.terminalEvidence, "ledger-terminal-evidence", "application/vnd.avo.ledger-terminal-evidence+json"⟩ ::
    o.packageArtifact.toList.map fun p =>
      ⟨p, "integration-campaign-package", "application/vnd.avo.integration-campaign+json"⟩⟩

instance : Recorded C (Transition C) := ⟨"transition", fun t => .transition t.toTransitionBody, fun _ => []⟩

def boundaryArtifact (e : ViolationBody) : External :=
  ⟨e.evidenceArtifact, "ledger-boundary-violation-evidence", "application/vnd.avo.ledger-boundary-violation+json"⟩

instance : Recorded C Violation := ⟨"boundary", fun e => .violation e.toViolationBody, fun e => [boundaryArtifact e.toViolationBody]⟩

instance : Recorded C (Reset C) := ⟨"boundary-reset", fun r => .reset r.toResetBody, fun r => [boundaryArtifact r.violation]⟩

instance : Recorded C (EvidencePackage C) := ⟨"package", fun p => .package p.toPackageBody, fun _ => []⟩

section Journal
variable (L : Limits C)

/-! ## Records and indexes -/

def verify (kind : String) (q : Question C) : LedgerCheck C Unit :=
  .confirm q (.journal ("authority verifier rejected " ++ kind)) (pure ())

def readExternal (x : External) : LedgerCheck C Unit := do
  .require (x.artifact.role = x.role ∧ x.artifact.mediaType = x.mediaType ∧ 0 < x.artifact.sizeBytes ∧
    x.artifact.sizeBytes ≤ L.max) (.journal "external ledger artifact metadata mismatch")
  .confirm (.external x.artifact) (.journal "external ledger artifact is missing or tampered") (pure ())

section Record
variable {R : Type} [Recorded C R]

def validateRecordArtifacts (r : R) : LedgerCheck C Unit := do
  let _ ← Check.each (readExternal L) (Recorded.artifacts C r)

def put (r : R) : LedgerCheck C Unit := .require (L.record (Recorded.document C r) ≤ L.max) .tooLarge

variable (C) in
def readReference (f : File R) : LedgerCheck C R :=
  match f with
  | .bound r => pure r
  | _ => .raise (.journal ("malformed " ++ Recorded.kind C R ++ " index"))

def readRaw (r : R) : LedgerCheck C Unit :=
  .require (L.record (Recorded.document C r) ≤ L.max) (.journal (Recorded.kind C R ++ " artifact metadata mismatch"))

def readRecord (r : R) : LedgerCheck C R := do
  readRaw L r
  Check.wrap (.journal ("malformed or unverifiable ledger " ++ Recorded.kind C R)) (validateRecordArtifacts L r)
  pure r

/-- `_stage_reference` and `_read_record`. -/
def readStage (f : File R) : LedgerCheck C R := do
  .require (isFile f = true) (.journal (Recorded.kind C R ++ " is not durably recorded"))
  let r ← readReference C f
  readRecord L r

def ifFile {α β : Type} (f : File α) (p : LedgerCheck C β) : LedgerCheck C (Option β) :=
  if isFile f then do
    let x ← p
    pure (some x)
  else pure none

end Record

/-! ## Activation -/

def readActivation (d : Disk C) : LedgerCheck C (Option (Activation C)) :=
  ifFile d.activation do
    let a ← readReference C d.activation
    let a ← readRecord L a
    verify "activation" (.activation a)
    pure a

def requireActivation (d : Disk C) (digest : Sha256Digest) : LedgerCheck C (Activation C) := do
  let loaded ← readActivation L d
  let a ← .orRaise loaded (.journal "ledger activation is not durably recorded")
  .require (a.activationDigest C = digest) (.journal "ledger activation is not durably recorded")
  pure a

def requireActivationForRead (d : Disk C) : LedgerCheck C (Activation C) := do
  let loaded ← readActivation L d
  .orRaise loaded (.journal "ledger activation is not durably recorded")

/-! ## Entries -/

def readSequenceFile (digest : Sha256Digest) (n : Nat) (e : Entry C) : LedgerCheck C (Entry C) := do
  .require (L.entry e ≤ maxIndexBytes ∧ e.activationDigest = digest ∧ e.schedulerSequence = n)
    (.journal "malformed sequence index")
  pure e

def allEntries (d : Disk C) (digest : Sha256Digest) : LedgerCheck C (List (Entry C)) := do
  let entries ← Check.each (fun f : Nat × Entry C => readSequenceFile L digest f.1 f.2)
    ((d.sequences digest).mergeSort fun f g => f.1 ≤ g.1)
  .require (entries.map (·.schedulerSequence) = (entries.map (·.schedulerSequence)).mergeSort)
    (.journal "sequence index ordering is malformed")
  pure entries

def readEntrySubmission (e : Entry C) (a : Activation C) : LedgerCheck C (Submission C) := do
  let s ← readRecord L e.submission
  verify "submission" (.submission s a)
  .require (s.activationDigest = a.activationDigest C ∧ s.repositoryDigest = a.repositoryDigest ∧
    s.targetRef = a.targetRef ∧ a.schedulerSequenceWatermark < s.schedulerSequence ∧
    s.activationDigest = e.activationDigest ∧ s.schedulerSequence = e.schedulerSequence ∧
    s.operationId = e.operationId ∧ s.sourceIdentity = e.sourceIdentity ∧
    s.submissionIdentity = e.submissionIdentity) (.journal "sequence index does not bind submission")
  pure s

/-- The loop of `_entries_for`, with the contents seen so far. -/
def checkContents (a : Activation C) : List (Sha256Digest × Nat) → List (Entry C) → LedgerCheck C Unit
  | _, [] => pure ()
  | seen, e :: es => do
    let s ← readEntrySubmission L e a
    .require (∀ n ∈ seen.lookup s.submissionDigest, n = s.schedulerSequence)
      (.conflict "duplicate physical submission content")
    checkContents a ((s.submissionDigest, s.schedulerSequence) :: seen) es

def entriesFor (d : Disk C) (a : Activation C) : LedgerCheck C (List (Entry C)) := do
  let entries ← allEntries L d (a.activationDigest C)
  checkContents L a [] entries
  pure entries

def sequenceEntry (d : Disk C) (digest : Sha256Digest) (n : Nat) : LedgerCheck C (Option (Entry C)) :=
  match (d.sequences digest).lookup n with
  | none => pure none
  | some e => do
    let e ← readSequenceFile L digest n e
    pure (some e)

def requireEntry (d : Disk C) (digest : Sha256Digest) (n : Nat) : LedgerCheck C (Entry C) := do
  let e ← sequenceEntry L d digest n
  .orRaise e (.journal "submission is not durably recorded")

/-! ## Stages -/

def requireExactClassificationBinding (c : Classification C) (a : Activation C) (s : Submission C) : LedgerCheck C Unit :=
  .require (c.activationDigest = a.activationDigest C ∧ c.submissionDigest = s.submissionDigest ∧
    c.operationId = s.operationId ∧ c.schedulerSequence = s.schedulerSequence ∧ c.policyDigest = a.policyDigest ∧
    c.policyEpoch = a.policyEpoch ∧ c.controllerAuthority = a.controllerAuthority)
    (.journal "classification is not exactly bound to activation and submission")

def requireExactOutcomeBinding (o : Outcome C) (a : Activation C) (s : Submission C) (c : Classification C) :
    LedgerCheck C Unit :=
  .require (o.activationDigest = a.activationDigest C ∧ o.submissionDigest = s.submissionDigest ∧
    o.schedulerSequence = s.schedulerSequence ∧ o.operationId = s.operationId ∧
    o.classificationDigest = c.classificationDigest C ∧ o.classification = c.toClassificationBody ∧
    c.classification = .eligible)
    (.journal "terminal outcome is not exactly bound to eligible classification")

def requireExactTransitionBinding (t : Transition C) (a : Activation C) (c : Classification C) (o : Option (Outcome C)) :
    LedgerCheck C Unit :=
  .require (t.activationDigest = a.activationDigest C ∧ t.classification = c.toClassificationBody ∧
    t.outcome = o.map (·.toOutcomeBody))
    (.journal "transition is not exactly bound to durable classification and outcome")

/-- `_read_entry_ref` of a classification. -/
def readEntryClassification (d : Disk C) (e : Entry C) (a : Activation C) (s : Submission C) :
    LedgerCheck C (Classification C) := do
  let c ← readStage L (d.stages (a.activationDigest C) e.schedulerSequence).classification
  requireExactClassificationBinding c a s
  verify "classification" (.classification c a s)
  pure c

/-- `_read_entry_ref` of an outcome. -/
def readEntryOutcome (d : Disk C) (e : Entry C) (a : Activation C) (s : Submission C) (c : Classification C) :
    LedgerCheck C (Outcome C) := do
  let o ← readStage L (d.stages (a.activationDigest C) e.schedulerSequence).outcome
  requireExactOutcomeBinding o a s c
  verify "outcome" (.outcome o a s c)
  pure o

/-- `_read_entry_ref` of a transition. -/
def readEntryTransition (d : Disk C) (e : Entry C) (a : Activation C) (c : Classification C) (o : Option (Outcome C)) :
    LedgerCheck C (Transition C) := do
  let t ← readStage L (d.stages (a.activationDigest C) e.schedulerSequence).transition
  requireExactTransitionBinding t a c o
  verify "transition" (.transition t a c o)
  pure t

def requireClassification (d : Disk C) (e : Entry C) (a : Activation C) (s : Submission C) :
    LedgerCheck C (Classification C) := do
  .require (isFile (d.stages (a.activationDigest C) s.schedulerSequence).classification = true)
    (.journal "classification is not durably recorded")
  readEntryClassification L d e a s

def requireOutcome (d : Disk C) (e : Entry C) (a : Activation C) (s : Submission C) (c : Classification C) :
    LedgerCheck C (Outcome C) := do
  .require (isFile (d.stages (a.activationDigest C) s.schedulerSequence).outcome = true)
    (.journal "terminal outcome is not durably recorded")
  readEntryOutcome L d e a s c

def outcomeFor (d : Disk C) (e : Entry C) (a : Activation C) (s : Submission C) (c : Classification C) :
    LedgerCheck C (Option (Outcome C)) :=
  if c.classification = .eligible then do
    let o ← requireOutcome L d e a s c
    pure (some o)
  else pure none

def Activation.genesis (a : Activation C) : StateBody :=
  mainLedgerGenesisState (a.activationDigest C) a.schedulerSequenceWatermark

def priorState (d : Disk C) (a : Activation C) (n : Nat) : LedgerCheck C StateBody :=
  if n = a.schedulerSequenceWatermark + 1 then pure a.genesis
  else do
    let previous ← requireEntry L d (a.activationDigest C) (n - 1)
    let s ← readEntrySubmission L previous a
    let c ← requireClassification L d previous a s
    let o ← outcomeFor L d previous a s c
    let t ← readEntryTransition L d previous a c o
    pure t.resultingState

def requirePriorState (d : Disk C) (a : Activation C) (t : Transition C) : LedgerCheck C Unit := do
  let before ← priorState L d a t.classification.schedulerSequence
  .require (t.priorState = before) (.journal "transition predecessor differs from durable chain")

def validateEntry (d : Disk C) (a : Activation C) (e : Entry C) : LedgerCheck C Unit := do
  let s ← readEntrySubmission L e a
  let stages := d.stages (a.activationDigest C) s.schedulerSequence
  let c ← ifFile stages.classification (readEntryClassification L d e a s)
  let o ← ifFile stages.outcome do
    let c ← .orRaise c (.journal "sequence outcome has no classification")
    readEntryOutcome L d e a s c
  let _ ← ifFile stages.transition do
    let c ← .orRaise c (.journal "sequence transition has no classification")
    .require (c.classification = .eligible → o.isSome) (.journal "eligible sequence transition has no terminal outcome")
    let t ← readEntryTransition L d e a c o
    requirePriorState L d a t

/-! ## The accumulator -/

def readProcessed (d : Disk C) (a : Activation C) (e : Entry C) : LedgerCheck C (Option (Transition C)) := do
  validateEntry L d a e
  let s ← readEntrySubmission L e a
  let stages := d.stages (a.activationDigest C) e.schedulerSequence
  if isFile stages.classification then
    let c ← readEntryClassification L d e a s
    if c.classification = .eligible ∧ isFile stages.outcome = false then pure none
    else
      let o ← outcomeFor L d e a s c
      ifFile stages.transition (readEntryTransition L d e a c o)
  else pure none

/-- The loop of `_current_accumulator_state`. -/
def accumulate (d : Disk C) (a : Activation C) : StateBody → List (Entry C) → LedgerCheck C StateBody
  | state, [] => pure state
  | state, e :: es => do
    let processed ← readProcessed L d a e
    match processed with
    | none => pure state
    | some t =>
      .require (t.priorState = state) (.journal "durable accumulator predecessor differs from chain")
      accumulate d a t.resultingState es

def currentAccumulatorState (d : Disk C) (a : Activation C) : LedgerCheck C StateBody := do
  let entries ← entriesFor L d a
  accumulate L d a a.genesis entries

def requireFreshMutationAllowed (d : Disk C) (a : Activation C) (kind : String) : LedgerCheck C Unit := do
  let state ← currentAccumulatorState L d a
  .require (state.thresholdComplete = false) (.journal (kind ++ " cannot be written after threshold completion"))
  .require (isFile (d.package (a.activationDigest C)) = false)
    (.journal (kind ++ " cannot be written after terminal package"))
  .require (isFile (d.boundary (a.activationDigest C)) = false ∧ isFile (d.boundaryReset (a.activationDigest C)) = false)
    (.journal (kind ++ " cannot be written after boundary fence"))

def requirePackageWriteAllowed (d : Disk C) (a : Activation C) : LedgerCheck C Unit := do
  .require (isFile (d.boundary (a.activationDigest C)) = true → isFile (d.boundaryReset (a.activationDigest C)) = true)
    (.journal "package cannot be written before boundary reset")
  let state ← currentAccumulatorState L d a
  .require (state.thresholdComplete = true ∨ isFile (d.boundaryReset (a.activationDigest C)) = true)
    (.journal "package cannot be written before terminal state")

/-! ## The boundary -/

/-- The loop of `_validate_boundary_observation` over the processed prefix. -/
def readPrefix (d : Disk C) (a : Activation C) : StateBody → List (Entry C) → LedgerCheck C StateBody
  | state, [] => pure state
  | state, e :: es => do
    let s ← readEntrySubmission L e a
    let c ← requireClassification L d e a s
    let o ← outcomeFor L d e a s c
    let t ← readEntryTransition L d e a c o
    .require (t.priorState = state) (.journal "boundary processed prefix predecessor differs from durable chain")
    readPrefix d a t.resultingState es

/-- Nothing is recorded of the sequence but its submission. -/
def Stages.untouched (stages : Stages C) : Bool :=
  !isFile stages.classification && !isFile stages.outcome && !isFile stages.transition

def validateBoundaryObservation (d : Disk C) (a : Activation C) (e : ViolationBody) : LedgerCheck C Unit := do
  let entries ← entriesFor L d a
  let first := a.schedulerSequenceWatermark + 1
  let sequences := entries.map (·.schedulerSequence)
  .require (sequences = List.range' first entries.length) (.journal "committed scheduler sequence has a gap or reordering")
  .require (a.schedulerSequenceWatermark < e.expectedSchedulerSequence ∧
    e.expectedSchedulerSequence ≤ (sequences.getLast?.map (· + 1)).getD first)
    (.journal "boundary expected sequence is not the next unresolved sequence")
  let processed := entries.filter fun entry => entry.schedulerSequence < e.expectedSchedulerSequence
  .require (processed.map (·.schedulerSequence) = List.range' first (e.expectedSchedulerSequence - first))
    (.journal "boundary processed prefix is not contiguous")
  let state ← readPrefix L d a a.genesis processed
  .require (e.currentStateDigest = state.stateDigest C)
    (.journal "boundary evidence state differs from durable processed prefix")
  match lookup Entry.schedulerSequence entries e.expectedSchedulerSequence with
  | none => .require (e.identity = .absent) (.journal "missing-envelope boundary cannot carry submission identity")
  | some durable =>
    let s ← readEntrySubmission L durable a
    .require (e.identity = s.identity C) (.journal "boundary evidence does not exactly bind first unresolved envelope")
    .require (∀ entry ∈ entries, e.expectedSchedulerSequence ≤ entry.schedulerSequence →
      (d.stages (a.activationDigest C) entry.schedulerSequence).untouched = true)
      (.journal "boundary has a classified or transitioned unresolved sequence")

def requirePriorStateForBoundary (d : Disk C) (a : Activation C) (before : StateBody) (e : ViolationBody) :
    LedgerCheck C Unit := do
  .require (before.lastSchedulerSequence + 1 = e.expectedSchedulerSequence)
    (.journal "boundary reset predecessor does not end at expected sequence")
  let expected ←
    if before.lastSchedulerSequence = a.schedulerSequenceWatermark then pure a.genesis
    else priorState L d a (before.lastSchedulerSequence + 1)
  .require (before = expected) (.journal "boundary reset predecessor differs from durable chain")

def readBoundaryEvidence (d : Disk C) (digest : Sha256Digest) : LedgerCheck C (Option Violation) := do
  let a ← requireActivation L d digest
  ifFile (d.boundary digest) do
    let e ← readReference C (d.boundary digest)
    let e ← readRecord L e
    .require (e.activationDigest = a.activationDigest C ∧ e.controllerAuthority = a.controllerAuthority)
      (.journal "boundary evidence differs from activation")
    verify "boundary" (.boundary e a)
    pure e

def requireBoundaryEvidence (d : Disk C) (a : Activation C) (digest : Sha256Digest) : LedgerCheck C Violation := do
  let loaded ← readBoundaryEvidence L d (a.activationDigest C)
  let e ← .orRaise loaded (.journal "boundary evidence is not durably recorded")
  .require (e.violationDigest C = digest) (.journal "boundary evidence is not durably recorded")
  pure e

def readBoundaryReset (d : Disk C) (digest : Sha256Digest) : LedgerCheck C (Option (Reset C)) := do
  let a ← requireActivation L d digest
  ifFile (d.boundaryReset digest) do
    let r ← readReference C (d.boundaryReset digest)
    let r ← readRecord L r
    let e ← requireBoundaryEvidence L d a (r.violation.violationDigest C)
    .require (r.violation = e.toViolationBody) (.journal "boundary reset evidence differs from durable evidence")
    validateBoundaryObservation L d a e.toViolationBody
    requirePriorStateForBoundary L d a r.priorState e.toViolationBody
    verify "boundary-reset" (.boundaryReset r a e)
    pure r

end Journal

end AvoCorrelate.MainLedger
