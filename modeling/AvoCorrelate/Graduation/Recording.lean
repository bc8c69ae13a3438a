import AvoCorrelate.Graduation.Journal
/-!
# Recording in the main graduation journal

A record is checked, stored, bound to its identities and indexed. An intent takes
the slot of its target before it is bound to anything; a terminal receipt and a
resolution give the slot back after they are indexed.
-/
open AvoLib

namespace AvoCorrelate.Graduation

variable {D : Type} [DecidableEq D]

namespace Journal

variable (C : Canon D) (policyEpoch : Option D)

/-! ## Create-once files -/

/-- Put the artifact into the store. -/
def install : Code D Unit := .port .install Answer.orRaise

/-- `_cas_global_envelope` and `_cas_phase_local`: the record is durable afterwards,
this one or an equal one. -/
def cas (description conflicting : String) (k : Key D) (v : Rec k) : Code D Unit :=
  .publish k v fun
    | .created => .done ()
    | .failed => .raise (.journal (description ++ " was not durably indexed"))
    | .lost => .raise (.journal (description ++ " was not durably indexed"))
    | .taken => .read k fun
      | .missing => .raise (.journal (description ++ " index is malformed"))
      | .malformed => .raise (.journal (description ++ " index is malformed"))
      | .found old => Prog.require (old = v) (.conflict conflicting)

def casStageIdentity (i : Intent D) : Code D Unit :=
  cas "stage identity" "conflicting stage identity" (.stageIdentity i.externalIdentity) i

def casOperationStageIdentity (i : Intent D) : Code D Unit :=
  cas "operation stage identity" "conflicting operation stage identity" (.operationStage i.operationId i.stage) i

def casExternalObjectIdentity (i : Intent D) : Code D Unit :=
  cas "external object identity" "conflicting external object identity" i.externalObject i

/-! ## Closing slots -/

/-- `_assert_closed_fence` of a directory that is there. -/
def assertClosedFence (f : Fence D) : Code D Unit := do
  let current ← lookClosed (f.digest C) >>= fenceIn
  Prog.require (current.digest C = f.digest C) (.conflict "closed target mutation fence differs")
  let resolution ← readFenceResolution (f.digest C)
  Prog.require (resolution.isSome = true) (.journal "closed target mutation fence lacks resolution")

def closeTargetFenceIfResolved (q : Resolution D) : Code D Unit := do
  let fencePrior ← (readers C policyEpoch).fence q.fenceDigest
  let f ← Prog.ofOption fencePrior (.journal "resolution fence is missing")
  let closed ← lookClosed (f.digest C)
  if closed.isSome then assertClosedFence C f
  else
    let current ← look f.toMainBound >>= fenceIn
    Prog.require (current.digest C = f.digest C) (.conflict "target fence closure differs")
    .port (.closeSlot f.toMainBound (f.digest C)) fun
      | .moved => .done ()
      | .missing => .done ()
      | .unsynced => .raise (.journal "resolved target fence could not be closed")
      | .refused => .raise (.journal "resolved target fence could not be closed")

/-- The end of `_close_target_reservation_if_terminal`: the directory goes unless a
fence is in it. -/
def removeEmptied (target : MainBound D) : Code D Unit := do
  let slot ← look target
  if hasRecord slot then return ()
  else .port (.removeSlot target) fun
    | .removed => .done ()
    | .refused => .raise (.other "slot directory was not removed")

def closeTargetReservationIfTerminal (r : Receipt D) : Code D Unit := do
  let slot ← look r.toMainBound
  if hasReservation slot then
    let current ← look r.toMainBound >>= reservationIn
    Prog.require (current.digest C = r.intentDigest) (.conflict "terminal receipt reservation differs")
    let i ← sourceIntent C (readers C policyEpoch).intent r
    verifyMutationReceipt r i
    .port (.unlinkReservation r.toMainBound) fun
      | .removed => removeEmptied r.toMainBound
      | .refused => .raise (.other "reservation was not removed")
  else return ()

/-! ## Fences -/

/-- The fence that got there first is this one, or it is a conflict. -/
def classifyExisting (f : Fence D) : Code D Unit := do
  let current ← look f.toMainBound >>= fenceIn
  Prog.require (current.digest C = f.digest C) (.conflict "target mutation fence raced")

def reopened (f : Fence D) : Code D Unit := do
  assertClosedFence C f
  .raise (.conflict "resolved target mutation fence cannot be reopened")

/-- The exclusive link of `record.json`. -/
def linkFence (f : Fence D) : Code D Unit :=
  .port (.linkRecord f.toMainBound f) fun
    | .created => .done ()
    | .taken => classifyExisting C f
    | .failed => .raise (.journal "target mutation fence was not durably indexed")
    | .lost => .raise (.journal "target mutation fence was not durably indexed")

def publishFence (f : Fence D) : Code D Unit :=
  .port (.makeSlot f.toMainBound) fun
    | .failed => .raise (.journal "target mutation fence was not durably indexed")
    | _ => do
      let slot ← look f.toMainBound
      Prog.require (slot.isSome = true) (.journal "target mutation fence slot is malformed")
      let slot ← look f.toMainBound
      if hasRecord slot then classifyExisting C f
      else
        let slot ← look f.toMainBound
        if hasReservation slot then
          let reservation ← look f.toMainBound >>= reservationIn
          Prog.require (reservation.operationId = f.operationId ∧ reservation.digest C = f.intentDigest)
            (.conflict "target mutation reservation differs")
          linkFence C f
        else linkFence C f

def casTargetFence (f : Fence D) : Code D Unit := do
  let closed ← lookClosed (f.digest C)
  if closed.isSome then reopened C f
  else
    let slot ← look f.toMainBound
    if slot.isSome then
      let slot ← look f.toMainBound
      if hasRecord slot then
        let current ← look f.toMainBound >>= fenceIn
        if current.digest C = f.digest C then return ()
        else
          let resolved ← readFenceResolution (current.digest C)
          match resolved with
          | none => .raise (.conflict "target has an unresolved mutation fence")
          | some q => do
            closeTargetFenceIfResolved C policyEpoch q
            let closed ← lookClosed (f.digest C)
            if closed.isSome then reopened C f else publishFence C f
      else
        let slot ← look f.toMainBound
        Prog.require (hasReservation slot = true) (.journal "target mutation slot is malformed")
        publishFence C f
    else publishFence C f

/-! ## Reservations -/

/-- The closed fences of this intent, as `_repair_target_mutation_reservation` finds
them in the history. -/
def closedFences (i : Intent D) : List (D × Dir D) → Code D (List (Fence D))
  | [] => .done []
  | (name, dir) :: rest => do
    let f ← Prog.ofOption dir.record (.journal "closed target mutation fence record is missing")
    if f.toMainBound = i.toMainBound then do
      Prog.require (name = f.digest C) (.conflict "closed target mutation fence path differs")
      let prior ← (readers C policyEpoch).fence (f.digest C)
      let durable ← Prog.ofOption prior (.journal "closed target mutation fence artifact is missing")
      let more ← closedFences i rest
      if durable.operationId = i.operationId ∧ durable.intentDigest = i.digest C ∧ durable.toMainBound = i.toMainBound then
        return durable :: more
      else return more
    else closedFences i rest

/-- Finish closing a fence that has its resolution. -/
def closeResolved (q : Resolution D) : Code D Unit := do
  let r ← sourceReceipt (readers C policyEpoch).receipt q
  verifyFenceAuthority q r
  closeTargetFenceIfResolved C policyEpoch q

def requireReservation (i : Intent D) (conflicting : String) : Code D Unit := do
  let current ← look i.toMainBound >>= reservationIn
  Prog.require (current = i) (.conflict conflicting)

/-- The branch of `_repair_target_mutation_reservation` for a slot that is there. -/
def repairActive (i : Intent D) : Code D Unit := do
  let slot ← look i.toMainBound
  Prog.require (hasRecord slot = true) (.journal "ambiguous mutation receipt has no verified active target fence")
  let current ← look i.toMainBound >>= fenceIn
  let fencePrior ← (readers C policyEpoch).fence (current.digest C)
  let f ← Prog.ofOption fencePrior (.journal "ambiguous mutation target fence is missing")
  Prog.require (f.operationId = i.operationId ∧ f.intentDigest = i.digest C ∧ f.toMainBound = i.toMainBound)
    (.conflict "ambiguous mutation target fence differs")
  let resolution ← readFenceResolution (f.digest C)
  match resolution with
  | some q => closeResolved C policyEpoch q
  | none => do
    let slot ← look i.toMainBound
    if hasReservation slot then requireReservation i "ambiguous mutation target reservation differs"
    else .port (.linkReservation i.toMainBound i) fun
      | .created => .done ()
      | .taken => requireReservation i "ambiguous mutation target reservation raced"
      | .failed => .raise (.journal "ambiguous mutation target reservation was not repaired")
      | .lost => .raise (.journal "ambiguous mutation target reservation was not repaired")

/-- The branch for a slot that is gone: the fence must be in the history. -/
def repairClosed (i : Intent D) : Code D Unit :=
  .port .listClosed fun history => do
    let history ← Prog.ofOption history (.journal "closed target mutation fence history is malformed")
    let matched ← closedFences C policyEpoch i history
    match matched with
    | [] => .raise (.journal "ambiguous mutation receipt has no durable target reservation")
    | [f] => do
      let resolution ← readFenceResolution (f.digest C)
      let q ← Prog.ofOption resolution (.journal "closed target mutation fence lacks durable resolution")
      closeResolved C policyEpoch q
    | _ => .raise (.conflict "multiple closed target mutation fences match intent")

/-- `_repair_target_mutation_reservation`. -/
def repairTargetReservation (i : Intent D) : Code D Unit := do
  let slot ← look i.toMainBound
  if slot.isSome then repairActive C policyEpoch i else repairClosed C policyEpoch i

/-- A new directory with the reservation takes the place of the slot. -/
def installReservation (i : Intent D) : Code D Unit :=
  .port (.installReservation i.toMainBound i) fun
    | .moved => .done ()
    | .unsynced => .raise (.journal "target mutation reservation was not durably indexed")
    | _ => do
      -- somebody may have got there first
      let slot ← look i.toMainBound
      if hasReservation slot then
        let current ← look i.toMainBound >>= reservationIn
        Prog.require (current = i) (.conflict "target mutation reservation raced")
      else .raise (.journal "target mutation reservation was not durably indexed")

def takeSlot (i : Intent D) : Code D Unit := do
  let slot ← look i.toMainBound
  if slot.isSome then
    let slot ← look i.toMainBound
    if hasRecord slot then
      let active ← look i.toMainBound >>= fenceIn
      Prog.require (active.operationId = i.operationId ∧ active.intentDigest = i.digest C)
        (.conflict "target has an unresolved mutation fence")
    else
      let slot ← look i.toMainBound
      if hasReservation slot then requireReservation i "target mutation reservation differs"
      else
        -- a directory that a crash left empty
        .port (.removeSlot i.toMainBound) fun
          | .removed => installReservation i
          | .refused => .raise (.journal "target mutation slot is malformed")
  else installReservation i

def casTargetMutationReservation (i : Intent D) : Code D Unit := do
  let prior ← readReceiptForIntent C policyEpoch (i.digest C)
  match prior with
  | none => takeSlot C i
  | some r =>
    if r.outcome.terminal then do
      let durable ← (readers C policyEpoch).intent (i.digest C)
      Prog.require (durable = some i)
        (.conflict "mutation intent already has a terminal receipt; dispatch is prohibited")
    else do
      let durable ← (readers C policyEpoch).intent (i.digest C)
      Prog.require (durable = some i) (.journal "ambiguous mutation receipt has no verified durable intent")
      repairTargetReservation C policyEpoch i

/-! ## Records -/

def recordMutationIntent (i : Intent D) : Code D Unit := do
  validateIntent C policyEpoch (readers C policyEpoch) i
  install
  casTargetMutationReservation C policyEpoch i
  casStageIdentity i
  casOperationStageIdentity i
  casExternalObjectIdentity i
  cas "mutation-intent" "conflicting mutation-intent" (.intent (i.digest C)) i

def recordMutationReceipt (r : Receipt D) : Code D Unit := do
  validateReceipt (readers C policyEpoch).intent r
  let i ← sourceIntent C (readers C policyEpoch).intent r
  verifyMutationReceipt r i
  install
  cas "mutation-receipt identity" "conflicting mutation-receipt identity" (.receiptIdentity r.intentDigest) r
  cas "mutation-receipt" "conflicting mutation-receipt" (.receipt (r.digest C)) r
  if r.outcome.terminal then closeTargetReservationIfTerminal C policyEpoch r else return ()

def recordUnresolvedMutationFence (f : Fence D) : Code D Unit := do
  validateFence C (readers C policyEpoch).receipt f
  install
  casTargetFence C policyEpoch f
  cas "unresolved-mutation-fence" "conflicting unresolved-mutation-fence" (.fence (f.digest C)) f

/-- `_cas_phase_identity` of a resolution. -/
def casResolutionIdentity (q : Resolution D) : Code D Unit :=
  .port (.publishResolution q) fun
    | .created => .done ()
    | .failed => .raise (.journal "mutation-fence-resolution identity was not durably indexed")
    | .lost => .raise (.journal "mutation-fence-resolution identity was not durably indexed")
    | .taken => .port (.readResolution q.fenceDigest) fun
      | .missing => .raise (.journal "mutation-fence-resolution identity index is malformed")
      | .malformed => .raise (.journal "mutation-fence-resolution identity index is malformed")
      | .found old => Prog.require (old = q) (.conflict "conflicting mutation-fence-resolution identity")

def recordMutationFenceResolution (q : Resolution D) : Code D Unit := do
  validateResolution C (readers C policyEpoch).fence (readers C policyEpoch).receipt q
  let r ← sourceReceipt (readers C policyEpoch).receipt q
  verifyFenceAuthority q r
  install
  casResolutionIdentity q
  cas "mutation-fence-resolution" "conflicting mutation-fence-resolution" (.resolution (q.digest C)) q
  closeTargetFenceIfResolved C policyEpoch q

/-- `claim_mutation_dispatch` with the values of the marker: only the call that
creates the marker is told so. -/
def claimMutationDispatch (m : DispatchOwner D) : Code D Bool := do
  let prior ← (readers C policyEpoch).intent m.intentDigest
  let i ← Prog.ofOption prior (.journal "dispatch owner requires durable mutation intent")
  Prog.require (OwnerOf C m i) (.conflict "dispatch owner binding differs from intent")
  install
  .publish (.dispatchOwner m.intentDigest) m fun
    | .created => .done true
    | .failed => .raise (.journal "mutation dispatch owner was not durably indexed")
    | .lost => .raise (.journal "mutation dispatch owner was not durably indexed")
    | .taken => .read (.dispatchOwner m.intentDigest) fun
      | .missing => .raise (.journal "mutation dispatch owner index is malformed")
      | .malformed => .raise (.journal "mutation dispatch owner index is malformed")
      | .found old =>
        if old = m then .done false
        else do
          let existing ← readDispatchOwner C policyEpoch m.intentDigest
          let _ ← Prog.ofOption existing (.conflict "conflicting mutation dispatch owner")
          return false

end Journal

end AvoCorrelate.Graduation
