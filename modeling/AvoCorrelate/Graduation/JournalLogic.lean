import AvoCorrelate.Graduation.Executor
import AvoCorrelate.Graduation.Reading
/-!
# What the executor does at the provider

Recording in the journal stays away from the provider, and only one recorder settles
a fence; such actions are `Journaling`. The rules of one call say what it has in hand
when it calls the provider, asks it, or settles a fence.
-/
open AvoLib

namespace AvoCorrelate.Graduation

variable {D : Type}

/-- Any action but at the provider, or the settling of a fence. -/
def Journaling : Action (Rec (D := D)) (Port D) → Prop
  | .port (.publishResolution _) => False
  | .port (.dispatch _ _) => False
  | .port (.dispatched _ _) => False
  | .port (.observe _ _) => False
  | _ => True

theorem journaling_of_still {a : Action (Rec (D := D)) (Port D)} (h : Still a) : Journaling a := by
  cases a with
  | read k => trivial
  | publish k v => trivial
  | port p => cases p <;> trivial

variable [DecidableEq D]

/-! ## Recording -/

section Recording
variable {C : Canon D} {policyEpoch : Option D} {α : Type}

omit [DecidableEq D] in
theorem journals_of_still {p : Code D α} (h : p.Does Still) : p.Does Journaling := h.mono fun _ => journaling_of_still

omit [DecidableEq D] in
theorem journals_port {p : Port D} {next : p.Answer → Code D α} (hp : Journaling (.port p : Action (Rec (D := D)) (Port D)))
    (hn : ∀ r, (next r).Does Journaling) : (Prog.port p next : Code D α).Does Journaling := ⟨hp, hn⟩

omit [DecidableEq D] in
theorem journals_orRaise (a : Answer α) : (Answer.orRaise a : Code D α).Does Journaling := by cases a <;> trivial

namespace Journal

omit [DecidableEq D] in
theorem journals_install : (install : Code D Unit).Does Journaling := ⟨trivial, journals_orRaise⟩

theorem journals_cas {description conflicting : String} {k : Key D} {v : Rec k} :
    (cas description conflicting k v).Does Journaling := by
  refine ⟨trivial, fun r => ?_⟩
  cases r with
  | created => trivial
  | failed => trivial
  | lost => trivial
  | taken =>
    refine ⟨trivial, fun found => ?_⟩
    cases found with
    | missing => trivial
    | malformed => trivial
    | found old => exact Prog.Does.require

theorem journals_assertClosedFence (f : Fence D) : (assertClosedFence C f).Does Journaling := by
  refine journals_of_still ?_
  refine ((still_lookClosed _).bind still_fenceIn).bind fun _ => Prog.Does.require_bind fun _ => ?_
  exact (still_readFenceResolution _).bind fun _ => Prog.Does.require

theorem journals_closeTargetFence (q : Resolution D) : (closeTargetFenceIfResolved C policyEpoch q).Does Journaling := by
  refine (journals_of_still (still_readers.fence _)).bind fun _ => Prog.Does.ofOption_bind fun f => ?_
  refine (journals_of_still (still_lookClosed _)).bind fun closed => ?_
  split
  · exact journals_assertClosedFence f
  · refine (journals_of_still (still_lookFence _)).bind fun _ => Prog.Does.require_bind fun _ => ?_
    refine journals_port trivial fun r => ?_
    cases r <;> trivial

omit [DecidableEq D] in
theorem journals_removeEmptied (target : MainBound D) : (removeEmptied target).Does Journaling := by
  refine (journals_of_still (still_look _)).bind fun slot => ?_
  split
  · trivial
  · refine journals_port trivial fun r => ?_
    cases r <;> trivial

theorem journals_closeTargetReservation (r : Receipt D) :
    (closeTargetReservationIfTerminal C policyEpoch r).Does Journaling := by
  refine (journals_of_still (still_look _)).bind fun slot => ?_
  split
  · refine (journals_of_still (still_lookReservation _)).bind fun _ => Prog.Does.require_bind fun _ => ?_
    refine (journals_of_still (still_sourceIntent still_readers.intent r)).bind fun i => ?_
    refine (journals_of_still (still_verifyMutationReceipt r i)).bind fun _ => ?_
    refine journals_port trivial fun removing => ?_
    cases removing with
    | removed => exact journals_removeEmptied _
    | refused => trivial
  · trivial

theorem journals_classifyExisting (f : Fence D) : (classifyExisting C f).Does Journaling :=
  journals_of_still ((still_lookFence _).bind fun _ => Prog.Does.require)

theorem journals_reopened (f : Fence D) : (reopened C f).Does Journaling :=
  (journals_assertClosedFence f).bind fun _ => trivial

theorem journals_linkFence (f : Fence D) : (linkFence C f).Does Journaling := by
  refine ⟨trivial, fun r => ?_⟩
  cases r with
  | created => trivial
  | taken => exact journals_classifyExisting f
  | failed => trivial
  | lost => trivial

theorem journals_publishFence (f : Fence D) : (publishFence C f).Does Journaling := by
  have hrest : (do
      let slot ← look f.toMainBound
      Prog.require (slot.isSome = true) (.journal "target mutation fence slot is malformed")
      let slot ← look f.toMainBound
      if hasRecord slot then classifyExisting C f
      else
        let slot ← look f.toMainBound
        if hasReservation slot then
          let reservation ← look f.toMainBound >>= reservationIn
          Prog.require (reservation.operationId = f.operationId ∧ reservation.digest C = f.intentDigest)
            (.conflict "target mutation reservation differs")
          linkFence C f
        else linkFence C f : Code D Unit).Does Journaling := by
    refine (journals_of_still (still_look _)).bind fun _ => Prog.Does.require_bind fun _ => ?_
    refine (journals_of_still (still_look _)).bind fun _ => ?_
    split
    · exact journals_classifyExisting f
    · refine (journals_of_still (still_look _)).bind fun _ => ?_
      split
      · refine (journals_of_still (still_lookReservation _)).bind fun _ => ?_
        exact Prog.Does.require_bind fun _ => journals_linkFence f
      · exact journals_linkFence f
  refine ⟨trivial, fun r => ?_⟩
  cases r with
  | failed => trivial
  | made => exact hrest
  | «exists» => exact hrest

theorem journals_casTargetFence (f : Fence D) : (casTargetFence C policyEpoch f).Does Journaling := by
  refine (journals_of_still (still_lookClosed _)).bind fun _ => ?_
  split
  · exact journals_reopened f
  · refine (journals_of_still (still_look _)).bind fun _ => ?_
    split
    · refine (journals_of_still (still_look _)).bind fun _ => ?_
      split
      · refine (journals_of_still (still_lookFence _)).bind fun current => ?_
        split
        · trivial
        · refine (journals_of_still (still_readFenceResolution _)).bind fun resolved => ?_
          cases resolved with
          | none => trivial
          | some q =>
            refine (journals_closeTargetFence q).bind fun _ => (journals_of_still (still_lookClosed _)).bind fun _ => ?_
            split
            · exact journals_reopened f
            · exact journals_publishFence f
      · refine (journals_of_still (still_look _)).bind fun _ => ?_
        exact Prog.Does.require_bind fun _ => journals_publishFence f
    · exact journals_publishFence f

theorem still_closedFences (i : Intent D) (history : List (D × Dir D)) : (closedFences C policyEpoch i history).Does Still := by
  induction history with
  | nil => trivial
  | cons entry rest ih =>
    refine Prog.Does.ofOption_bind fun f => ?_
    split
    · refine Prog.Does.require_bind fun _ => (still_readers.fence _).bind fun _ => ?_
      refine Prog.Does.ofOption_bind fun durable => ih.bind fun more => ?_
      split <;> trivial
    · exact ih

theorem journals_closeResolved (q : Resolution D) : (closeResolved C policyEpoch q).Does Journaling := by
  refine (journals_of_still (still_sourceReceipt still_readers.receipt q)).bind fun r => ?_
  exact (journals_of_still (still_verifyFenceAuthority q r)).bind fun _ => journals_closeTargetFence q

theorem journals_requireReservation (i : Intent D) (conflicting : String) :
    (requireReservation i conflicting).Does Journaling :=
  journals_of_still ((still_lookReservation _).bind fun _ => Prog.Does.require)

theorem journals_repairActive (i : Intent D) : (repairActive C policyEpoch i).Does Journaling := by
  refine (journals_of_still (still_look _)).bind fun _ => Prog.Does.require_bind fun _ => ?_
  refine (journals_of_still (still_lookFence _)).bind fun current => ?_
  refine (journals_of_still (still_readers.fence _)).bind fun _ => Prog.Does.ofOption_bind fun f => ?_
  refine Prog.Does.require_bind fun _ => (journals_of_still (still_readFenceResolution _)).bind fun resolution => ?_
  cases resolution with
  | some q => exact journals_closeResolved q
  | none =>
    refine (journals_of_still (still_look _)).bind fun _ => ?_
    split
    · exact journals_requireReservation i _
    · refine journals_port trivial fun r => ?_
      cases r with
      | taken => exact journals_requireReservation i _
      | created => trivial
      | failed => trivial
      | lost => trivial

theorem journals_repairClosed (i : Intent D) : (repairClosed C policyEpoch i).Does Journaling := by
  refine journals_port trivial fun history => Prog.Does.ofOption_bind fun history => ?_
  refine (journals_of_still (still_closedFences i history)).bind fun matched => ?_
  split
  · trivial
  · refine (journals_of_still (still_readFenceResolution _)).bind fun _ => Prog.Does.ofOption_bind fun q => ?_
    exact journals_closeResolved q
  · trivial

theorem journals_repairTargetReservation (i : Intent D) : (repairTargetReservation C policyEpoch i).Does Journaling := by
  refine (journals_of_still (still_look _)).bind fun _ => ?_
  split
  · exact journals_repairActive i
  · exact journals_repairClosed i

theorem journals_installReservation (i : Intent D) : (installReservation i).Does Journaling := by
  have hraced : (do
      let slot ← look i.toMainBound
      if hasReservation slot then
        let current ← look i.toMainBound >>= reservationIn
        Prog.require (current = i) (.conflict "target mutation reservation raced")
      else .raise (.journal "target mutation reservation was not durably indexed") : Code D Unit).Does Journaling := by
    refine (journals_of_still (still_look _)).bind fun _ => ?_
    split
    · exact (journals_of_still (still_lookReservation _)).bind fun _ => Prog.Does.require
    · trivial
  refine ⟨trivial, fun r => ?_⟩
  cases r with
  | moved => trivial
  | unsynced => trivial
  | missing => exact hraced
  | refused => exact hraced

theorem journals_takeSlot (i : Intent D) : (takeSlot C i).Does Journaling := by
  refine (journals_of_still (still_look _)).bind fun _ => ?_
  split
  · refine (journals_of_still (still_look _)).bind fun _ => ?_
    split
    · exact (journals_of_still (still_lookFence _)).bind fun _ => Prog.Does.require
    · refine (journals_of_still (still_look _)).bind fun _ => ?_
      split
      · exact journals_requireReservation i _
      · refine journals_port trivial fun r => ?_
        cases r with
        | removed => exact journals_installReservation i
        | refused => trivial
  · exact journals_installReservation i

theorem journals_casTargetMutationReservation (i : Intent D) :
    (casTargetMutationReservation C policyEpoch i).Does Journaling := by
  refine (journals_of_still (still_readReceiptForIntent _)).bind fun prior => ?_
  cases prior with
  | none => exact journals_takeSlot i
  | some r =>
    simp only
    split
    · exact (journals_of_still (still_readers.intent _)).bind fun _ => Prog.Does.require
    · refine (journals_of_still (still_readers.intent _)).bind fun _ => Prog.Does.require_bind fun _ => ?_
      exact journals_repairTargetReservation i

theorem journals_recordMutationIntent (i : Intent D) : (recordMutationIntent C policyEpoch i).Does Journaling := by
  refine (journals_of_still (still_validateIntent still_readers i)).bind fun _ => journals_install.bind fun _ => ?_
  refine (journals_casTargetMutationReservation i).bind fun _ => journals_cas.bind fun _ => ?_
  exact journals_cas.bind fun _ => journals_cas.bind fun _ => journals_cas

theorem journals_recordMutationReceipt (r : Receipt D) : (recordMutationReceipt C policyEpoch r).Does Journaling := by
  refine (journals_of_still (still_validateReceipt still_readers.intent r)).bind fun _ => ?_
  refine (journals_of_still (still_sourceIntent still_readers.intent r)).bind fun i => ?_
  refine (journals_of_still (still_verifyMutationReceipt r i)).bind fun _ => journals_install.bind fun _ => ?_
  refine journals_cas.bind fun _ => journals_cas.bind fun _ => ?_
  split
  · exact journals_closeTargetReservation r
  · trivial

theorem journals_recordUnresolvedMutationFence (f : Fence D) :
    (recordUnresolvedMutationFence C policyEpoch f).Does Journaling := by
  refine (journals_of_still (still_validateFence still_readers.receipt f)).bind fun _ => journals_install.bind fun _ => ?_
  exact (journals_casTargetFence f).bind fun _ => journals_cas

theorem journals_claimMutationDispatch (m : DispatchOwner D) : (claimMutationDispatch C policyEpoch m).Does Journaling := by
  refine (journals_of_still (still_readers.intent _)).bind fun _ => Prog.Does.ofOption_bind fun i => ?_
  refine Prog.Does.require_bind fun _ => journals_install.bind fun _ => ?_
  refine ⟨trivial, fun r => ?_⟩
  cases r with
  | created => trivial
  | failed => trivial
  | lost => trivial
  | taken =>
    refine ⟨trivial, fun found => ?_⟩
    cases found with
    | missing => trivial
    | malformed => trivial
    | found old =>
      simp only
      split
      · trivial
      · refine (journals_of_still (still_readDispatchOwner _)).bind fun _ => ?_
        exact Prog.Does.ofOption_bind fun _ => trivial

end Journal

namespace Executor

theorem still_checkRequest (E : Executor D) (i : Intent D) (request : StageRequest D) :
    (checkRequest C E i request).Does Still := by
  refine Prog.Does.require_bind fun _ => ?_
  exact Prog.Does.require_bind fun _ => Prog.Does.require

theorem still_checkObservationRequest (E : Executor D) (i : Intent D) (request : ObservationRequest D)
    (original : StageRequest D) : (checkObservationRequest E i request original).Does Still := by
  refine Prog.Does.require_bind fun _ => Prog.Does.require_bind fun _ => ?_
  refine Prog.Does.bind ?_ fun _ => Prog.Does.require
  refine Prog.Does.require_bind fun _ => ?_
  split
  · exact Prog.Does.require
  · exact Prog.Does.require

omit [DecidableEq D] in
theorem still_verifyReceiptAuthority (r : Receipt D) (i : Intent D) : (verifyReceiptAuthority r i).Does Still := by
  refine (Journal.still_verifyMutationReceipt r i).attempt.bind fun verified => ?_
  cases verified <;> trivial

theorem still_readActiveFence (E : Executor D) (i : Intent D) : (readActiveFence C E i).Does Still := by
  refine (Journal.still_look _).bind fun slot => ?_
  split
  · exact (Journal.still_lookFence _).bind fun _ => Journal.still_readers.fence _
  · trivial

theorem still_ambiguousReceipt (i : Intent D) (response : Doc D) : (ambiguousReceipt C i response).Does Still :=
  still_now.bind fun _ => Prog.Does.ofOption

omit [DecidableEq D] in
theorem still_fenceFromReceipt (i : Intent D) (r : Receipt D) : (fenceFromReceipt C i r).Does Still :=
  still_now.bind fun _ => trivial

theorem still_checkPrerequisites (E : Executor D) (i : Intent D) : (checkPrerequisites C E i).Does Still := by
  unfold checkPrerequisites
  split
  · exact (Journal.still_readers.resolution _).bind fun _ => Prog.Does.require
  · split
    · refine (Journal.still_readers.intent _).bind fun _ => Prog.Does.ofOption_bind fun _ => ?_
      exact Prog.Does.require_bind fun _ => Prog.Does.require
    · trivial

omit [DecidableEq D] in
theorem still_checkPreIntentExpiry (i : Intent D) (request : StageRequest D) :
    (checkPreIntentExpiry i request).Does Still := by
  refine still_now.bind fun _ => Prog.Does.require_bind fun _ => ?_
  refine Prog.Does.bind (still_port trivial fun _ => trivial) fun lease => ?_
  split
  · exact Prog.Does.require
  · trivial

omit [DecidableEq D] in
theorem still_requireUnexpired (expiry : Option Instant) (message : String) :
    (requireUnexpired expiry message : Code D Unit).Does Still := by
  cases expiry with
  | none => trivial
  | some e => exact still_now.bind fun _ => Prog.Does.require

theorem still_lastMomentAuthority (i : Intent D) (request : StageRequest D) :
    (lastMomentAuthority i request).Does Still := by
  refine (still_requireUnexpired _ _).bind fun _ => ?_
  split
  · refine Prog.Does.bind (still_port trivial still_orRaise) fun _ => Prog.Does.ofOption_bind fun _ => ?_
    refine Prog.Does.require_bind fun _ => (still_requireUnexpired _ _).bind fun _ => ?_
    exact still_port trivial still_orRaise
  · exact still_port trivial still_orRaise

omit [DecidableEq D] in
theorem does_reporting {S : Action (Rec (D := D)) (Port D) → Prop} {message : String} {p : Code D α} (hp : p.Does S) :
    (reporting message p).Does S := by
  refine hp.attempt.bind fun outcome => ?_
  split <;> trivial

theorem still_receiptFromResult (i : Intent D) (request : StageRequest D) (result : MutationResult D) :
    (receiptFromResult C i request result).Does Still := by
  refine Prog.Does.require_bind fun _ => Prog.Does.require_bind fun _ => ?_
  refine Prog.Does.bind (still_port trivial still_orRaise) fun _ => Prog.Does.ofOption_bind fun r => ?_
  exact (still_verifyReceiptAuthority r i).bind fun _ => trivial

theorem journals_openFence (E : Executor D) (i : Intent D) (r : Receipt D) : (openFence C E i r).Does Journaling := by
  refine (journals_of_still (still_readActiveFence E i)).bind fun active => ?_
  cases active with
  | some f => trivial
  | none =>
    exact (journals_of_still (still_fenceFromReceipt i r)).bind fun f => Journal.journals_recordUnresolvedMutationFence f

theorem journals_persistAmbiguous (E : Executor D) (i : Intent D) (error : String) :
    (persistAmbiguous C E i error).Does Journaling := by
  refine (journals_of_still (still_ambiguousReceipt i _)).bind fun r => ?_
  refine (journals_of_still (still_verifyReceiptAuthority r i)).bind fun _ => ?_
  refine (Journal.journals_recordMutationReceipt r).bind fun _ => ?_
  exact (journals_openFence E i r).bind fun _ => trivial

theorem journals_settle (E : Executor D) (i : Intent D) (request : StageRequest D) (result : MutationResult D) :
    (settle C E i request result).Does Journaling := by
  refine (journals_of_still (still_receiptFromResult i request result)).attempt.bind fun built => ?_
  cases built with
  | error e => exact journals_persistAmbiguous E i _
  | ok r =>
    refine (Journal.journals_recordMutationReceipt r).bind fun _ => ?_
    split
    · trivial
    · exact (journals_openFence E i r).bind fun _ => trivial

theorem still_recoverResolved (E : Executor D) (i : Intent D) (q : Resolution D) : (recoverResolved C E i q).Does Still := by
  refine Prog.Does.require_bind fun _ => ?_
  refine Prog.Does.bind (Prog.Does.require_bind fun _ => Prog.Does.require) fun _ => ?_
  refine (Journal.still_readers.receipt _).bind fun _ => Prog.Does.ofOption_bind fun r => ?_
  refine Prog.Does.require_bind fun _ => (still_verifyReceiptAuthority r i).bind fun _ => ?_
  exact Prog.Does.bind (Prog.Does.require_bind fun _ => Prog.Does.require) fun _ => trivial

end Executor

end Recording

/-! ## The rules -/

/-- The event is the beginning of a mutation call. -/
def dispatches : Event (Rec (D := D)) (Port.Answer (D := D)) → Bool
  | .port (.dispatch _ _) _ => true
  | _ => false

def Without (f : Event (Rec (D := D)) (Port.Answer (D := D)) → Bool) (h : Log D) : Prop := ∀ e ∈ h, f e = false

omit [DecidableEq D] in
theorem Journaling.keeps (h : Log D) (e : Event (Rec (D := D)) (Port.Answer (D := D))) (hn : Without dispatches h)
    (he : Journaling e.action) : Without dispatches (e :: h) := by
  refine List.forall_mem_cons.mpr ⟨?_, hn⟩
  cases e with
  | read k r => rfl
  | publish k v r => rfl
  | port p r =>
    cases p <;> first | rfl | exact (he : False).elim

variable (C : Canon D)

/-- What a call has in hand when it calls the provider: its own marker, created
after it found no receipt, and the durable intent, both for this request. -/
structure Claimed (call : Call D) (F : Disc D) (h : Log D) (intentDigest : D) (request : StageRequest D) : Prop where
  executes : ∃ E i, call = .execute E i request ∧ IntentAt C F intentDigest i ∧ Executor.SameBinding C i request ∧
    ∃ m, .publish (.dispatchOwner intentDigest) m .created ∈ h ∧ m.intentDigest = intentDigest ∧ Journal.OwnerOf C m i
  unreceipted : .read (.receiptIdentity intentDigest) .missing ∈ h

def rules (call : Call D) (F : Disc D) : Rules (Rec (D := D)) (Port.Answer (D := D)) := fun h a =>
  match a with
  | .port (.dispatch d request) => Claimed C call F h d request ∧ Without dispatches h
  | .port (.dispatched d request) => ∃ a, .port (.dispatch d request) a ∈ h
  -- a receipt is durable before the provider is asked
  | .port (.observe d _) => d = call.intentDigest C ∧ ∃ r, F (.receiptIdentity d) = .bound r
  | .port (.publishResolution q) => ∃ request a, .port (.observe q.intentDigest request) a ∈ h
  | _ => True

section Specs
variable {C : Canon D} {call : Call D} {F : Disc D} {h : Log D} {policyEpoch : Option D} {α : Type}

omit [DecidableEq D] in
theorem rules_journaling {a : Action (Rec (D := D)) (Port D)} (ha : Journaling a) : rules C call F h a := by
  cases a with
  | read k => trivial
  | publish k v => trivial
  | port p => cases p <;> trivial

omit [DecidableEq D] in
theorem safe_of_journaling {p : Code D α} (hd : p.Does Journaling) :
    p.Safe F (rules C call F) (Prog.Returning fun _ _ => True) h :=
  (hd.safe fun _ _ _ ha => rules_journaling ha).mono fun _ x _ => by cases x <;> trivial

omit [DecidableEq D] in
theorem quiet_safe {p : Code D α} {Q : Log D → Except Exc α → Prop} (hp : p.Safe F quiet Q h) :
    p.Safe F (rules C call F) Q h :=
  hp.weaken fun _ _ _ ha => rules_journaling (journaling_of_still ha)

omit [DecidableEq D] in
theorem journal_keeps {p : Code D α} (hd : p.Does Journaling) (hn : Without dispatches h) :
    p.Safe F (rules C call F) (Prog.Returning fun h' _ => Without dispatches h') h :=
  ((hd.safe fun _ _ _ ha => rules_journaling ha).keeps hd Journaling.keeps hn).mono fun _ x hx => by
    cases x with
    | ok => exact hx.1
    | error => trivial

omit [DecidableEq D] in
theorem keeps_of_journaling {p : Code D α} {Q : Log D → α → Prop}
    (hp : p.Safe F (rules C call F) (Prog.Returning Q) h) (hd : p.Does Journaling) (hn : Without dispatches h) :
    p.Safe F (rules C call F) (Prog.Returning fun h' x => Without dispatches h' ∧ Q h' x) h :=
  (hp.keeps hd Journaling.keeps hn).mono fun _ x hx => by
    cases x with
    | ok => exact hx
    | error => trivial

theorem cas_safe {description conflicting : String} {k : Key D} {v : Rec k} :
    (Journal.cas description conflicting k v).Safe F (rules C call F) (Prog.Returning fun _ _ => F k = .bound v) h := by
  refine ⟨trivial, fun r hr => ?_⟩
  cases r with
  | created => exact hr
  | failed => trivial
  | lost => trivial
  | taken =>
    refine ⟨trivial, fun found hf => ?_⟩
    cases found with
    | missing => trivial
    | malformed => trivial
    | found old =>
      change (Prog.require (old = v) _ : Code D Unit).Safe F _ _ _
      unfold Prog.require
      split
      · next hold => exact hold ▸ hf
      · trivial

theorem recordMutationReceipt_safe (r : Receipt D) :
    (Journal.recordMutationReceipt C policyEpoch r).Safe F (rules C call F)
      (Prog.Returning fun _ _ => F (.receiptIdentity r.intentDigest) = .bound r) h := by
  refine (safe_of_journaling (journals_of_still (Journal.still_validateReceipt Journal.still_readers.intent r))).seq
    fun h₁ _ _ _ => ?_
  refine (safe_of_journaling (journals_of_still (Journal.still_sourceIntent Journal.still_readers.intent r))).seq
    fun h₂ i _ _ => ?_
  refine (safe_of_journaling (journals_of_still (Journal.still_verifyMutationReceipt r i))).seq fun h₃ _ _ _ => ?_
  refine (safe_of_journaling Journal.journals_install).seq fun h₄ _ _ _ => ?_
  refine cas_safe.seq fun h₅ _ _ hid => ?_
  refine (safe_of_journaling Journal.journals_cas).seq fun h₆ _ _ _ => ?_
  refine (safe_of_journaling ?_).mono fun h' x _ => ?_
  · split
    · exact Journal.journals_closeTargetReservation r
    · trivial
  · cases x with
    | ok => exact hid
    | error => trivial

theorem claimMutationDispatch_safe (m : DispatchOwner D) :
    (Journal.claimMutationDispatch C policyEpoch m).Safe F (rules C call F) (Prog.Returning fun h' claimed => claimed = true →
      .publish (.dispatchOwner m.intentDigest) m .created ∈ h' ∧ ∃ i, IntentAt C F m.intentDigest i ∧ Journal.OwnerOf C m i) h := by
  refine (quiet_safe (Journal.readers_finds.intent _ h)).seq fun h₁ prior _ hp => ?_
  refine Prog.Safe.ofOption_bind (fun i hi => ?_) trivial
  refine Prog.Safe.require_bind (fun howner => ?_) trivial
  refine (safe_of_journaling Journal.journals_install).seq fun h₂ _ _ _ => ?_
  refine ⟨trivial, fun r _ => ?_⟩
  cases r with
  | created => exact fun _ => ⟨List.mem_cons_self, i, hp i hi, howner⟩
  | failed => trivial
  | lost => trivial
  | taken =>
    refine ⟨trivial, fun found _ => ?_⟩
    cases found with
    | missing => trivial
    | malformed => trivial
    | found old =>
      simp only
      split
      · exact fun h => nomatch h
      · refine (safe_of_journaling (journals_of_still (Journal.still_readDispatchOwner _))).seq fun h₃ _ _ _ => ?_
        exact Prog.Safe.ofOption_bind (fun _ _ h => nomatch h) trivial

omit [DecidableEq D] in
theorem reporting_safe {message : String} {p : Code D α} {G : Rules (Rec (D := D)) (Port.Answer (D := D))} {Q : Log D → α → Prop}
    (hp : p.Safe F G (Prog.Returning Q) h) : (Executor.reporting message p).Safe F G (Prog.Returning Q) h := by
  refine hp.attempt_bind fun h' x hx => ?_
  split
  · exact hx
  · trivial
  · trivial

namespace Executor

variable {E : Executor D} {i : Intent D} {request : StageRequest D}

theorem claimAndDispatch_safe (hcall : call = .execute E i request) (hsame : SameBinding C i request)
    (hnone : .read (.receiptIdentity (i.digest C)) .missing ∈ h) (hn : Without dispatches h) :
    (claimAndDispatch C E i request).Safe F (rules C call F) (Prog.Returning fun _ _ => True) h := by
  have hlast : ∀ {message : String}, (reporting message (lastMomentAuthority i request)).Does Journaling :=
    does_reporting (journals_of_still (still_lastMomentAuthority i request))
  refine (journal_keeps hlast hn).seq fun h₁ _ hs₁ hn₁ => ?_
  have hclaim : (claimDispatchOwner C E i request).Does Journaling :=
    (journals_of_still still_now).bind fun _ => Journal.journals_claimMutationDispatch _
  have hclaimed : (claimDispatchOwner C E i request).Safe F (rules C call F) (Prog.Returning fun h' claimed => claimed = true →
      ∃ m, .publish (.dispatchOwner (i.digest C)) m .created ∈ h' ∧ m.intentDigest = i.digest C ∧
        ∃ i', IntentAt C F (i.digest C) i' ∧ Journal.OwnerOf C m i') h₁ := by
    refine (safe_of_journaling (journals_of_still still_now)).seq fun h₂ t _ _ => ?_
    refine (claimMutationDispatch_safe _).mono fun h' x hx => ?_
    cases x with
    | error => trivial
    | ok claimed => exact fun hc => ⟨_, (hx hc).1, rfl, (hx hc).2⟩
  refine (keeps_of_journaling (reporting_safe hclaimed) (does_reporting hclaim) hn₁).seq fun h₃ claimed hs₃ hx => ?_
  refine Prog.Safe.require_bind (fun hc => ?_) trivial
  obtain ⟨m, hm, hmd, i', hi', howner⟩ := hx.2 hc
  refine (journal_keeps hlast hx.1).seq fun h₄ _ hs₄ hn₄ => ?_
  have hi : i' = i := Intent.ext_body (IntentBody.digest_inj C hi'.digest)
  subst hi
  refine ⟨⟨⟨⟨E, i', hcall, hi', hsame, m, hs₄.mem hm, hmd, howner⟩, ?_⟩, hn₄⟩, fun begun => ?_⟩
  · exact hs₄.mem (hs₃.mem (hs₁.mem hnone))
  · refine ⟨⟨begun, List.mem_cons_self⟩, fun returned => ?_⟩
    cases returned with
    | mk effect answer =>
      cases answer with
      | raised message => exact safe_of_journaling (journals_persistAmbiguous E i' message)
      | returned result => exact safe_of_journaling (journals_settle E i' request result)

theorem execute_safe : (execute C E i request).Safe F (rules C (.execute E i request) F) (Prog.Returning fun _ _ => True) [] := by
  refine Prog.Safe.seq (Q := fun h' _ => Without dispatches h' ∧ SameBinding C i request) ?_ fun h₁ _ _ hx => ?_
  · have hnone : Without dispatches ([] : Log D) := fun _ he => nomatch he
    refine keeps_of_journaling ?_ (journals_of_still (still_checkRequest E i request)) hnone
    refine Prog.Safe.require_bind (fun _ => ?_) trivial
    refine Prog.Safe.require_bind (fun hsame => ?_) trivial
    unfold Prog.require
    split
    · exact hsame
    · trivial
  obtain ⟨hn₁, hsame⟩ := hx
  refine (keeps_of_journaling (quiet_safe (Journal.readReceiptForIntentWith_finds Journal.readers_finds.intent _))
    (journals_of_still (Journal.still_readReceiptForIntent _)) hn₁).seq fun h₂ prior _ hp => ?_
  cases prior with
  | some r => exact Prog.Safe.require_bind (fun _ => trivial) trivial
  | none =>
    have hmissing := hp.2.1 rfl
    refine (journal_keeps (journals_of_still (Journal.still_readers.intent _)) hp.1).seq fun h₃ existing hs₃ hn₃ => ?_
    cases existing with
    | some durable =>
      refine Prog.Safe.require_bind (fun _ => ?_) trivial
      refine (journal_keeps (journals_of_still (Journal.still_readDispatchOwner _)) hn₃).seq fun h₄ owner hs₄ hn₄ => ?_
      refine Prog.Safe.require_bind (fun _ => ?_) trivial
      refine (journal_keeps (journals_of_still (still_checkPrerequisites E i)) hn₄).seq fun h₅ _ hs₅ hn₅ => ?_
      exact claimAndDispatch_safe rfl hsame (hs₅.mem (hs₄.mem (hs₃.mem hmissing))) hn₅
    | none =>
      refine (journal_keeps (journals_of_still (still_checkPrerequisites E i)) hn₃).seq fun h₄ _ hs₄ hn₄ => ?_
      refine (journal_keeps (journals_of_still (still_checkPreIntentExpiry i request)) hn₄).seq fun h₅ _ hs₅ hn₅ => ?_
      refine (journal_keeps (Journal.journals_recordMutationIntent i).attempt hn₅).seq fun h₆ recorded hs₆ hn₆ => ?_
      cases recorded with
      | ok => exact claimAndDispatch_safe rfl hsame (hs₆.mem (hs₅.mem (hs₄.mem (hs₃.mem hmissing)))) hn₆
      | error e =>
        refine (safe_of_journaling (journals_of_still (Journal.still_readReceiptForIntent _))).seq fun h₇ prior _ _ => ?_
        cases prior with
        | some r => exact Prog.Safe.require_bind (fun _ => trivial) trivial
        | none => trivial

theorem recoverReceipt_safe : (recoverReceipt C E i).Safe F (rules C call F)
    (Prog.Returning fun _ r => F (.receiptIdentity (i.digest C)) = .bound r) h := by
  refine (quiet_safe (Journal.readReceiptForIntentWith_finds Journal.readers_finds.intent _)).seq fun h₁ prior _ hp => ?_
  cases prior with
  | some r => exact (hp.2 r rfl).1
  | none =>
    have hbuilt : (ambiguousReceipt C i .missingDispatch).Safe F (rules C call F)
        (Prog.Returning fun _ r => r.intentDigest = i.digest C) h₁ := by
      refine (safe_of_journaling (journals_of_still still_now)).seq fun h₂ t _ _ => ?_
      unfold Prog.ofOption
      split
      · next r hr => exact congrArg ReceiptBody.intentDigest (Receipt.build_eq hr)
      · trivial
    refine hbuilt.seq fun h₂ r _ hd => ?_
    refine (safe_of_journaling (journals_of_still (still_verifyReceiptAuthority r i))).seq fun h₃ _ _ _ => ?_
    refine (recordMutationReceipt_safe r).seq fun h₄ _ _ hr => ?_
    exact hd ▸ hr

theorem recordMutationFenceResolution_safe (q : Resolution D)
    (hq : ∃ request a, .port (.observe q.intentDigest request) a ∈ h) :
    (Journal.recordMutationFenceResolution C policyEpoch q).Safe F (rules C call F) (Prog.Returning fun _ _ => True) h := by
  refine (safe_of_journaling (journals_of_still
    (Journal.still_validateResolution Journal.still_readers.fence Journal.still_readers.receipt q))).seq fun h₁ _ hs₁ _ => ?_
  refine (safe_of_journaling (journals_of_still (Journal.still_sourceReceipt Journal.still_readers.receipt q))).seq fun h₂ r hs₂ _ => ?_
  refine (safe_of_journaling (journals_of_still (Journal.still_verifyFenceAuthority q r))).seq fun h₃ _ hs₃ _ => ?_
  refine (safe_of_journaling Journal.journals_install).seq fun h₄ _ hs₄ _ => ?_
  have hidentity : (Journal.casResolutionIdentity q).Safe F (rules C call F) (Prog.Returning fun _ _ => True) h₄ := by
    obtain ⟨request, a, ha⟩ := hq
    refine ⟨⟨request, a, hs₄.mem (hs₃.mem (hs₂.mem (hs₁.mem ha)))⟩, fun published => safe_of_journaling ?_⟩
    cases published with
    | created => trivial
    | failed => trivial
    | lost => trivial
    | taken =>
      refine journals_port trivial fun found => ?_
      cases found with
      | missing => trivial
      | malformed => trivial
      | found old => exact Prog.Does.require
  refine hidentity.seq fun h₅ _ _ _ => ?_
  refine (safe_of_journaling Journal.journals_cas).seq fun h₆ _ _ _ => ?_
  exact safe_of_journaling (Journal.journals_closeTargetFence q)

theorem resolve_safe {observation : ObservationRequest D} {r : Receipt D} {f : Fence D} (hf : f.intentDigest = i.digest C)
    (answer : Answer (ObservationResult D)) (hq : ∃ request a, .port (.observe (i.digest C) request) a ∈ h) :
    (resolve C E i observation r f answer).Safe F (rules C call F) (Prog.Returning fun _ _ => True) h := by
  cases answer with
  | raised message => trivial
  | returned o =>
    have hverify : (verifyObservation i observation o).Does Still := by
      refine Prog.Does.require_bind fun _ => Prog.Does.require_bind fun _ => ?_
      exact still_port trivial still_orRaise
    refine (safe_of_journaling (journals_of_still hverify)).seq fun h₁ _ hs₁ _ => ?_
    split
    · have hbuilt : (resolutionFromObservation C E f r o).Safe F (rules C call F)
          (Prog.Returning fun _ q => q.intentDigest = i.digest C) h₁ := by
        refine Prog.Safe.require_bind (fun _ => ?_) trivial
        exact (safe_of_journaling (journals_of_still still_now)).seq fun h₂ t _ _ => hf
      refine hbuilt.seq fun h₂ q hs₂ hd => ?_
      obtain ⟨request, a, ha⟩ := hq
      refine (recordMutationFenceResolution_safe q ⟨request, a, ?_⟩).seq fun h₃ _ _ _ => trivial
      rw [hd]
      exact hs₂.mem (hs₁.mem ha)
    · trivial

theorem recoverFence_safe {r : Receipt D} : (recoverFence C E i r).Safe F (rules C call F)
    (Prog.Returning fun _ f => f.intentDigest = i.digest C) h := by
  refine (safe_of_journaling (journals_of_still (still_readActiveFence E i))).seq fun h₁ active _ _ => ?_
  cases active with
  | some f => exact Prog.Safe.require_bind (fun hb => hb.1) trivial
  | none =>
    have hbuilt : (fenceFromReceipt C i r).Safe F (rules C call F)
        (Prog.Returning fun _ f => f.intentDigest = i.digest C) h₁ :=
      (safe_of_journaling (journals_of_still still_now)).seq fun h₂ t _ _ => rfl
    refine hbuilt.seq fun h₂ f _ hf => ?_
    exact (safe_of_journaling (Journal.journals_recordUnresolvedMutationFence f)).seq fun h₃ _ _ _ => hf

theorem recover_safe {ref : IntentRef D} {observation : ObservationRequest D} :
    (recover C E ref observation request).Safe F (rules C (.recover E ref observation request) F)
      (Prog.Returning fun _ _ => True) [] := by
  refine (quiet_safe (Journal.readers_finds.intent _ _)).seq fun h₁ prior _ hp => ?_
  refine Prog.Safe.ofOption_bind (fun i hi => ?_) trivial
  have hd : i.digest C = ref.expected C := (hp i hi).digest
  refine Prog.Safe.require_bind (fun _ => ?_) trivial
  refine (safe_of_journaling (journals_of_still (still_checkRequest E i request))).seq fun h₂ _ _ _ => ?_
  refine (safe_of_journaling (journals_of_still (still_checkObservationRequest E i observation request))).seq fun h₃ _ _ _ => ?_
  refine (safe_of_journaling (journals_of_still (Journal.still_readResolutionByIntent _))).seq fun h₄ resolution _ _ => ?_
  cases resolution with
  | some q => exact safe_of_journaling (journals_of_still (still_recoverResolved E i q))
  | none =>
    refine recoverReceipt_safe.seq fun h₅ r _ hr => ?_
    refine Prog.Safe.require_bind (fun _ => ?_) trivial
    split
    · trivial
    · refine recoverFence_safe.seq fun h₆ f _ hf => ?_
      refine (safe_of_journaling (journals_of_still (Journal.still_readResolutionByFence _))).seq fun h₇ resolution _ _ => ?_
      cases resolution with
      | some q =>
        refine safe_of_journaling ?_
        refine Prog.Does.require_bind fun _ => ?_
        refine Prog.Does.bind (Prog.Does.require_bind fun _ => Prog.Does.require) fun _ => ?_
        exact Prog.Does.bind (Prog.Does.require_bind fun _ => Prog.Does.require) fun _ => trivial
      | none =>
        refine ⟨⟨hd, r, hr⟩, fun a => ?_⟩
        exact resolve_safe hf a.answer ⟨_, a, List.mem_cons_self⟩

end Executor

theorem program_safe (call : Call D) :
    (program C call).Safe F (rules C call F) (Prog.Returning fun _ _ => True) [] := by
  cases call with
  | execute E i request => exact Executor.execute_safe
  | recover E ref observation request => exact Executor.recover_safe

end Specs

end AvoCorrelate.Graduation
