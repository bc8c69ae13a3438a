import AvoCorrelate.Graduation.Journal
import AvoCorrelate.Lib.Interleaving
/-!
# Eligibility records and the scheduler sequence

`record_eligibility` publishes a record twice: under its operation, and then under
its scheduler sequence. A call that finds the operation's index already there returns
at once. So the two indexes agree in every run in which calls for one sequence do not
overlap and no call is interrupted between its two writes, and not in others.
-/
open AvoLib

namespace AvoCorrelate.Graduation.Eligibility

variable {D : Type}

/-! ## Records -/

inductive Classification
  | eligible | excluded
  deriving DecidableEq

inductive Disposition
  | success | failed | quarantined | reconciliationRequired | reset
  deriving DecidableEq

/-- The fields of a `MainGraduationEligibilityRecord`. -/
structure Body (D : Type) extends MainBound D where
  operationId : D
  schedulerSequence : Nat
  previousSchedulerSequence : Option Int
  schedulerWatermark : Option Nat
  submissionDigest : D
  classification : Classification
  exclusionReason : Option String
  exclusionEvidenceDigest : Option D
  ordinary : Bool
  nonempty : Bool
  terminalDisposition : Option Disposition
  dispositionDigest : Option D
  deriving DecidableEq

/-- `validate_eligibility`, and the bounds of the fields. -/
structure Body.Valid (b : Body D) : Prop where
  positive : 0 < b.schedulerSequence
  eligible : b.classification = .eligible → b.ordinary = true ∧ b.nonempty = true
  excluded : b.classification = .excluded →
    ¬ (b.ordinary = true ∧ b.nonempty = true) ∧ b.exclusionReason.any (fun s => !s.isEmpty) = true ∧
      b.exclusionEvidenceDigest.isSome = true
  disposed : b.classification = .eligible → b.terminalDisposition.isSome = true → b.dispositionDigest.isSome = true
  adjacent : ∀ p ∈ b.previousSchedulerSequence, (b.schedulerSequence : Int) = p + 1
  watermark : ∀ m ∈ b.schedulerWatermark, m < b.schedulerSequence

/-- A record that its validator accepted. -/
structure Record (D : Type) extends Body D where
  valid : toBody.Valid

theorem Record.ext_body {r r' : Record D} (h : r.toBody = r'.toBody) : r = r' := by
  cases r; cases r'; cases h; rfl

instance [DecidableEq D] : DecidableEq (Record D) := fun r r' =>
  decidable_of_iff (r.toBody = r'.toBody) ⟨Record.ext_body, fun h => h ▸ rfl⟩

/-- What a sequence index holds: the operation, and the record its reference names. -/
structure Entry (D : Type) where
  operationId : D
  reference : Record D

instance [DecidableEq D] : DecidableEq (Entry D) := fun e e' =>
  decidable_of_iff (e.operationId = e'.operationId ∧ e.reference = e'.reference)
    ⟨fun ⟨h, h'⟩ => by cases e; cases e'; cases h; cases h'; rfl, fun h => h ▸ ⟨rfl, rfl⟩⟩

def Record.entry (r : Record D) : Entry D := ⟨r.operationId, r⟩

/-! ## Programs -/

inductive Key (D : Type)
  | eligibility (operationId : D)
  | sequence (n : Nat)
  deriving DecidableEq

abbrev Rec : Key D → Type
  | .eligibility _ => Record D
  | .sequence _ => Entry D

/-- The artifact store. -/
inductive Port
  | install

abbrev Port.Answer : Port → Type := fun _ => Graduation.Answer Unit

abbrev Code (D : Type) (α : Type) := Prog (Rec (D := D)) Port.Answer Exc α

def install : Code D Unit :=
  .port .install fun
    | .raised message => .raise (.other message)
    | .returned _ => .done ()

variable [DecidableEq D]

def readEligibility (op : D) : Code D (Option (Record D)) :=
  .read (.eligibility op) fun
    | .missing => .done none
    | .malformed => .raise (.journal "malformed or unverifiable main graduation eligibility")
    | .found r => do
      Prog.require (r.operationId = op) (.conflict "main graduation identity does not match index")
      return some r

/-- `read_eligibility_sequence` of a positive sequence. -/
def readSequence (n : Nat) : Code D (Option (Entry D)) :=
  .read (.sequence n) fun
    | .missing => .done none
    | .malformed => .raise (.journal "scheduler sequence index is malformed")
    | .found e => do
      let durable ← readEligibility e.operationId
      let r ← Prog.ofOption durable (.journal "scheduler sequence index is malformed")
      Prog.require (e.reference = r ∧ r.schedulerSequence = n) (.journal "scheduler sequence index is malformed")
      return some e

/-- The sequence is taken: by this very record, or it is a conflict. -/
def requireSame (r : Record D) : Code D Unit := do
  let existing ← readSequence r.schedulerSequence
  Prog.require (existing.any (fun e => e.operationId = r.operationId) = true)
    (.conflict "scheduler sequence is already occupied")
  let durable ← readEligibility r.operationId
  Prog.require (durable = some r) (.conflict "scheduler sequence differs from canonical eligibility record")

/-- The predecessor's record is there, and not an open attempt. -/
def requirePredecessor (previous : Int) : Code D Unit := do
  Prog.require (0 < previous) (.other "scheduler sequence must be positive")
  let entry ← readSequence previous.toNat
  let entry ← Prog.ofOption entry (.journal "scheduler sequence predecessor is missing")
  let prior ← readEligibility entry.operationId
  let prior ← Prog.ofOption prior (.journal "scheduler predecessor record is missing")
  Prog.require (¬ (prior.classification = .eligible ∧ prior.terminalDisposition = none))
    (.journal "later sequence is blocked by open eligible attempt")

/-- `_check_eligibility_predecessor`. -/
def checkPredecessor (r : Record D) : Code D Unit :=
  .read (.sequence r.schedulerSequence) fun
    | .missing =>
      match r.previousSchedulerSequence, r.schedulerWatermark with
      | some previous, _ => requirePredecessor previous
      | none, some watermark =>
        Prog.require (r.schedulerSequence = watermark + 1) (.journal "scheduler sequence is not adjacent to watermark")
      | none, none =>
        Prog.require (r.schedulerSequence = 1) (.journal "scheduler sequence predecessor is required")
    | _ => requireSame r

/-- `_index_eligibility_sequence`. -/
def indexSequence (r : Record D) : Code D Unit :=
  .publish (.sequence r.schedulerSequence) r.entry fun
    | .created => .done ()
    | .failed => .raise (.journal "scheduler sequence was not durably indexed")
    | .lost => .raise (.journal "scheduler sequence was not durably indexed")
    | .taken => requireSame r

def recordEligibility (r : Record D) : Code D Unit := do
  checkPredecessor r
  install
  .publish (.eligibility r.operationId) r fun
    | .created => indexSequence r
    | .failed => .raise (.journal "main graduation record was not indexed")
    | .lost => .raise (.journal "main graduation record was not indexed")
    -- a replay ends here
    | .taken => .read (.eligibility r.operationId) fun
      | .missing => .raise (.journal "main graduation index is malformed")
      | .malformed => .raise (.journal "main graduation index is malformed")
      | .found old => Prog.require (old = r) (.conflict "conflicting main graduation eligibility")

end AvoCorrelate.Graduation.Eligibility
