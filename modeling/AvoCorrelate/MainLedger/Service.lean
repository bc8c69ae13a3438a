import AvoCorrelate.MainLedger.Recording
/-!
# The states of the service

The service derives the state after a submission, or after a boundary was crossed, before
it hands the record to the journal.
-/
namespace AvoCorrelate.MainLedger

open AvoLib

section Service
variable {C : Canon}

/-- `model_validate` of a record. -/
def validated {α : Type} (c : Prop) [Decidable c] (f : c → α) : LedgerCheck C α :=
  if h : c then pure (f h) else .raise .invalid

def nextState (before : StateBody) (classification : Eligibility) (outcome : Option (Outcome C)) : LedgerCheck C StateBody := do
  let after ←
    match classification with
    | .excluded => pure { before with lastSchedulerSequence := before.lastSchedulerSequence + 1 }
    | .eligible => do
      let o ← .orRaise outcome (.journal "eligible sequence has no outcome")
      let success : Bool := o.outcome = .success
      pure
        { before with
          lastSchedulerSequence := before.lastSchedulerSequence + 1
          streak := if success then before.streak + 1 else 0
          successes := if success then before.successes + 1 else before.successes
          failures := if success then before.failures else before.failures + 1
          thresholdComplete := success && decide (before.streak + 1 = 12) }
  validated after.Valid fun _ => after

def boundaryState (before : StateBody) : LedgerCheck C StateBody := do
  .require (before.thresholdComplete = false) (.journal "boundary reset cannot erase threshold completion")
  let after := { before with streak := 0, boundaryViolations := before.boundaryViolations + 1, thresholdComplete := false }
  validated after.Valid fun _ => after

end Service

end AvoCorrelate.MainLedger
