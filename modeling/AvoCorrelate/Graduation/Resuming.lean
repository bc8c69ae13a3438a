import AvoCorrelate.Graduation.Steps
import AvoCorrelate.Graduation.Coordinator
import AvoCorrelate.Graduation.Dispatching
/-!
# Resuming an interrupted stage

A crash between the writes of `record_mutation_intent` leaves a reservation, and some
of the identities of the intent. The next call of `_run_stage` finds the intent by the
operation and the stage, or builds a new one, which the reservation is not for.
-/
open AvoLib

namespace AvoCorrelate.Graduation.Coordinator

variable {D : Type} [DecidableEq D] {C : Canon D} {E : Executor D} {others : Nat → (p : Port D) → p.Answer}
  {run : StageRun D} {observationRequest : Intent D → StageRequest D → Code D (ObservationRequest D)}
  {files files₁ : Disc D} {s s₁ : Disk D} {i : Intent D} {t : Instant}

def reserved (s : Disk D) (i : Intent D) : Disk D := s.setSlot i.toMainBound (some ⟨some i, none⟩)

/-- The checks of the intent and its predecessor succeed. -/
structure Accepted (C : Canon D) (E : Executor D) (others : Nat → (p : Port D) → p.Answer) (files : Disc D) (s : Disk D)
    (i : Intent D) : Prop where
  chain : (Journal.validateIntent C E.policyEpoch (Journal.readers C E.policyEpoch) i).Gives (timely others) Prod.fst files s ()
  prerequisites : (Executor.checkPrerequisites C E i).Gives (timely others) Prod.fst files s ()

/-- A stage of which nothing is on record and to which nobody has an objection: at any
time of the clock, the journal accepts its intent and would read it back. -/
structure Ready (C : Canon D) (E : Executor D) (others : Nat → (p : Port D) → p.Answer) (run : StageRun D) (files : Disc D)
    (s : Disk D) : Prop where
  lasting : Lasting others
  clock : ∀ n, ∃ t, others n .clock = .returned t ∧ (∀ expiry ∈ run.request.authorizationExpiresAt, t < expiry) ∧
    ∀ n l, others n (.lease run.request.operationId) = .returned (some l) → t < l.expiresAt
  leased : ∀ n, others n (.leaseCurrent run.request.operationId run.leaseEpochDigest) = .returned ()
  store : ∀ n, others n .install = .returned ()
  able : E.implements run.stage = true
  epoch : run.request.leaseEpochDigest = run.leaseEpochDigest
  identity : run.request.externalIdentity = (externalIdentity run).digest C
  parent : ∀ p ∈ run.parent, p.2.effectiveOutcome.success = true
  accepts : ∀ n t, others n .clock = .returned t → ∃ i, Intent.build (intentValues C run t) = some i ∧
    Accepted C E others files s i ∧
    ((Journal.readers C E.policyEpoch).intent (i.digest C)).Gives (timely others) Prod.fst (Journal.withIntent C files i)
      (reserved s i) (some i)
  free : Journal.Free (s.slots run.request.toMainBound)
  fresh : ∀ i : Intent D, i.toIntentBody = intentValues C run i.recordedAt →
    files (.stageIdentity i.externalIdentity) = .absent ∧ files (.operationStage i.operationId i.stage) = .absent ∧
    files i.externalObject = .absent ∧ files (.intent (i.digest C)) = .absent ∧ files (.receiptIdentity (i.digest C)) = .absent

/-- The claim to dispatch an intent of the run, which is durable, bound to the operation
and the stage, and in the slot. -/
def Claims (C : Canon D) (run : StageRun D) (files : Disc D) (w : Disk D × Nat) (a : Action (Rec (D := D)) (Port D)) : Prop :=
  ∃ i : Intent D, i.toIntentBody = intentValues C run i.recordedAt ∧ files (.intent (i.digest C)) = .bound i ∧
    files (.operationStage i.operationId i.stage) = .bound i ∧ w.1.slots i.toMainBound = some ⟨some i, none⟩ ∧
    ∃ m, a = .publish (.dispatchOwner (i.digest C)) m

variable {w : Disk D × Nat} {α : Type} {x : α} {j : Intent D} {n : Nat}

omit [DecidableEq D] in
theorem not_claims_still {a : Action (Rec (D := D)) (Port D)} (ha : Still a) : ¬ Claims C run files w a := by
  rintro ⟨i, -, -, -, -, m, rfl⟩
  exact ha

theorem build_eq {b : IntentBody D} (h : Intent.build b = some i) : i.toIntentBody = b := by
  unfold Intent.build at h
  split at h
  · cases h; rfl
  · cases h

theorem build_values (h : Intent.build (intentValues C run t) = some i) :
    i.toIntentBody = intentValues C run i.recordedAt ∧ i.recordedAt = t := by
  have hbody := build_eq h
  have htime : i.recordedAt = t := by rw [hbody]; rfl
  exact ⟨by rw [htime]; exact hbody, htime⟩

omit [DecidableEq D] in
theorem names_of_values (hi : i.toIntentBody = intentValues C run i.recordedAt) :
    i.toMainBound = run.request.toMainBound ∧ i.operationId = run.request.operationId ∧ i.stage = run.stage := by
  rw [hi]
  exact ⟨rfl, rfl, rfl⟩

/-! ## The parts of a call -/

theorem still_readIntentByOperationStage (operationId : D) (stage : Stage) :
    (readIntentByOperationStage operationId stage).Does Still := by
  refine ⟨trivial, fun found => ?_⟩
  cases found with
  | missing => trivial
  | malformed => trivial
  | found i => exact Prog.Does.require_bind fun _ => (Journal.still_assertStageIdentity i).bind fun _ => trivial


theorem gives_reporting {message : String} {p : Code D α} (hp : p.Gives (timely others) Prod.fst files s x) :
    (Executor.reporting message p).Gives (timely others) Prod.fst files s x :=
  hp.attempt.bind Prog.gives_done

section Parts
variable (hready : Ready C E others run files s)
include hready

theorem gives_buildIntent (hi : Intent.build (intentValues C run t) = some i) :
    (buildIntent C run t).Gives (timely others) Prod.fst files₁ s₁ i :=
  (Prog.Gives.require hready.parent).bind ((Prog.Gives.require hready.identity).bind (Prog.Gives.ofOption hi))

theorem sameBinding (hi : i.toIntentBody = intentValues C run i.recordedAt) : Executor.SameBinding C i run.request := by
  have hstage := i.valid.binding.external.2.2
  rw [hi] at hstage
  refine ⟨by rw [hi]; rfl, by rw [hi]; rfl, ?_, ?_, by rw [hi]; rfl, ?_⟩
  · rw [hi]; exact hstage
  · rw [hi]; exact hready.epoch
  · rw [hi]; exact hready.identity

theorem gives_checkRequest (hi : i.toIntentBody = intentValues C run i.recordedAt) :
    (Executor.checkRequest C E i run.request).Gives (timely others) Prod.fst files₁ s₁ () := by
  have hsame := sameBinding hready hi
  have hable : E.implements i.stage = true := by rw [hi]; exact hready.able
  exact (Prog.Gives.require hsame.2.2.1).bind ((Prog.Gives.require hsame).bind (Prog.Gives.require hable))

theorem gives_checkPreIntentExpiry (hi : i.toIntentBody = intentValues C run i.recordedAt) :
    (Executor.checkPreIntentExpiry i run.request).Gives (timely others) Prod.fst files₁ s₁ () := by
  have hoperation : i.operationId = run.request.operationId := by rw [hi]; rfl
  refine gives_now hready.clock fun t ⟨hexpiry, hlease⟩ => (Prog.Gives.require hexpiry).bind ?_
  refine Prog.Gives.bind (gives_lasting rfl (fun n => hready.lasting n 0 _ rfl) Prog.gives_done) ?_
  rw [hoperation]
  cases hl : others 0 (.lease run.request.operationId) with
  | raised message => exact Prog.gives_done
  | returned lease =>
    cases lease with
    | none => exact Prog.gives_done
    | some l => exact Prog.Gives.require (hlease 0 l hl)

theorem gives_lastMomentAuthority (hi : i.toIntentBody = intentValues C run i.recordedAt) :
    (Executor.lastMomentAuthority i run.request).Gives (timely others) Prod.fst files₁ s₁ () := by
  have hoperation : i.operationId = run.request.operationId := by rw [hi]; rfl
  have hepoch : i.leaseEpochDigest = run.leaseEpochDigest := by rw [hi]; rfl
  have hstage : i.stage ≠ .releaseTransition := by
    intro h
    have hrelease := (i.valid.binding.release.1 h).1
    rw [hi] at hrelease
    cases hrelease
  have hleased : (Prog.port (.leaseCurrent i.operationId i.leaseEpochDigest) Answer.orRaise : Code D Unit).Gives (timely others)
      Prod.fst files₁ s₁ () := by
    rw [hoperation, hepoch]
    exact gives_lasting rfl hready.leased Prog.gives_done
  refine Prog.Gives.bind (x := ()) ?_ (by rw [if_neg hstage]; exact hleased)
  unfold Executor.requireUnexpired
  split
  · exact Prog.gives_done
  · next e he => exact gives_now hready.clock fun t ht => Prog.Gives.require (ht.1 e he)

theorem meets_claimAndDispatch (hi : i.toIntentBody = intentValues C run i.recordedAt)
    (hfile : files₁ (.intent (i.digest C)) = .bound i) (hstage : files₁ (.operationStage i.operationId i.stage) = .bound i)
    (hslot : s₁.slots i.toMainBound = some ⟨some i, none⟩)
    (hread : ((Journal.readers C E.policyEpoch).intent (i.digest C)).Gives (timely others) Prod.fst files₁ s₁ (some i))
    {w : Disk D × Nat} (hw : w.1 = s₁) :
    (Executor.claimAndDispatch C E i run.request).Meets (timely others) (Claims C run) files₁ w := by
  refine (gives_reporting (gives_lastMomentAuthority hready hi)).goes.meets hw fun w hw => Prog.Meets.left ?_
  refine Prog.Meets.left (Prog.meets_attempt.mpr ?_)
  obtain ⟨t, ht, -⟩ := hready.clock w.2
  refine Prog.Meets.after (play_now ht) ?_
  have howner : Journal.OwnerOf C ⟨i.toMainBound, i.operationId, i.digest C, run.request.requestDigest, i.stage,
      i.externalIdentity.digest C, i.leaseIdentity, i.leaseDigest, i.leaseEpochDigest, t⟩ i :=
    ⟨rfl, (sameBinding hready hi).2.2.2.2.1, rfl, rfl, rfl, rfl, rfl, rfl⟩
  refine hread.goes.meets hw fun w hw => (Prog.Gives.ofOption rfl).goes.meets hw fun w hw => ?_
  refine (Prog.Gives.require howner).goes.meets hw fun w hw => (Journal.gives_install hready.store).goes.meets hw fun w hw => ?_
  exact .inl ⟨i, hi, hfile, hstage, by rw [hw]; exact hslot, _, rfl⟩

theorem meets_execute (hi : i.toIntentBody = intentValues C run i.recordedAt) (hp : Journal.PartlyIn C files₁ i)
    (hfile : files₁ (.intent (i.digest C)) = .absent) (hreceipt : files₁ (.receiptIdentity (i.digest C)) = .absent)
    (haccepted : Accepted C E others files₁ s₁ i)
    (htake : (Journal.takeSlot C i).Goes (timely others) Prod.fst files₁ s₁ () files₁ (reserved s i))
    (hread : ((Journal.readers C E.policyEpoch).intent (i.digest C)).Gives (timely others) Prod.fst (Journal.withIntent C files₁ i)
      (reserved s i) (some i)) {w : Disk D × Nat} (hw : w.1 = s₁) :
    (Executor.execute C E i run.request).Meets (timely others) (Claims C run) files₁ w := by
  refine (gives_checkRequest hready hi).goes.meets hw fun w hw => ?_
  refine (Journal.gives_readReceipt_none hreceipt).goes.meets hw fun w hw => ?_
  refine (Journal.gives_readIntent_none hfile).goes.meets hw fun w hw => haccepted.prerequisites.goes.meets hw fun w hw => ?_
  refine (gives_checkPreIntentExpiry hready hi).goes.meets hw fun w hw => ?_
  have hrecord := Journal.goes_recordMutationIntent hp hreceipt hready.store haccepted.chain htake
  refine hrecord.attempt.meets hw fun w hw => ?_
  exact meets_claimAndDispatch hready hi (Journal.withIntent_intent i) (Journal.withIntent_operation i) (Disk.setSlot_self _) hread hw

end Parts

/-! ## What a crash leaves -/

/-- The worlds between the writes of `record_mutation_intent`. -/
inductive Left (files : Disc D) (s : Disk D) (i : Intent D) : Disc D → Disk D → Prop
  | nothing : Left files s i files s
  | removed : Left files s i files (s.setSlot i.toMainBound none)
  | reservation : Left files s i files (reserved s i)
  | stage : Left files s i (Journal.withStage files i) (reserved s i)
  | operation : Left files s i (Journal.withOperation files i) (reserved s i)
  | object : Left files s i (Journal.withObject files i) (reserved s i)

theorem left_of_passes (hready : Ready C E others run files s) (hi : i.toIntentBody = intentValues C run i.recordedAt)
    (hchain : (Journal.validateIntent C E.policyEpoch (Journal.readers C E.policyEpoch) i).Gives (timely others) Prod.fst files s ())
    (hw : w.1 = s)
    (h : (Journal.recordMutationIntent C E.policyEpoch i).Passes (timely others) Prod.fst files w files₁ s₁) :
    Left files s i files₁ s₁ := by
  obtain ⟨hstage, hoperation, hobject, hfile, hreceipt⟩ := hready.fresh i hi
  have hfree : Journal.Free (s.slots i.toMainBound) := by
    rw [(names_of_values hi).1]
    exact hready.free
  obtain ⟨rfl, rfl⟩ | ⟨w, hw, h⟩ := hchain.passes (Journal.still_validateIntent Journal.still_readers i) idle_still hw h
  · exact .nothing
  obtain ⟨rfl, rfl⟩ | ⟨w, hw, h⟩ := (Journal.gives_install hready.store).passes (still_port trivial still_orRaise) idle_still hw h
  · exact .nothing
  have htake : (Journal.casTargetMutationReservation C E.policyEpoch i).Goes (timely others) Prod.fst files s () files
      (reserved s i) := (Journal.gives_readReceipt_none hreceipt).goes.bind (Journal.goes_takeSlot hfree)
  obtain h | ⟨w, hw, h⟩ := htake.passes hw h
  · obtain ⟨rfl, rfl⟩ | ⟨w, hw, h⟩ :=
      (Journal.gives_readReceipt_none hreceipt).passes (Journal.still_readReceiptForIntent _) idle_still hw h
    · exact .nothing
    obtain ⟨rfl, rfl | rfl⟩ := Journal.passes_takeSlot hfree hw h
    · exact .nothing
    · exact .removed
  obtain h | ⟨w, hw, h⟩ := (Journal.goes_cas (.inl hstage)).passes hw h
  · obtain ⟨rfl, rfl⟩ := Journal.passes_cas hstage h
    rw [hw]; exact .reservation
  have hoperation := (Journal.withStage_operation i).trans hoperation
  obtain h | ⟨w, hw, h⟩ := (Journal.goes_cas (.inl hoperation)).passes hw h
  · obtain ⟨rfl, rfl⟩ := Journal.passes_cas hoperation h
    rw [hw]; exact .stage
  have hobject := (Journal.withOperation_object i).trans hobject
  obtain h | ⟨w, hw, h⟩ := (Journal.goes_cas (.inl hobject)).passes hw h
  · obtain ⟨rfl, rfl⟩ := Journal.passes_cas hobject h
    rw [hw]; exact .operation
  have hfile := (Journal.withObject_intent i _).trans hfile
  obtain ⟨rfl, rfl⟩ := Journal.passes_cas hfile h
  rw [hw]; exact .object

theorem Left.carried (h : Left files s i files₁ s₁) (hfree : Journal.Free (s.slots i.toMainBound)) :
    Journal.FencesCarried C others files s files₁ s₁ := by
  cases h with
  | nothing => exact ⟨fun f => carried_assertTargetFence f rfl rfl, rfl⟩
  | removed => exact Journal.fencesCarried_removed hfree
  | reservation => exact fencesCarried_reserved
  | stage => exact fencesCarried_reserved
  | operation => exact fencesCarried_reserved
  | object => exact fencesCarried_reserved

theorem grows_put {k : Key D} {f : File (Rec k)} (hk : files k = .absent) (h : Grows files files₁) :
    Grows files (files₁.put k f) := by
  intro k' v hv
  rw [Files.put_ne _ _ fun he => by subst he; cases hk.symm.trans hv]
  exact h k' v hv

theorem Left.grows (h : Left files s i files₁ s₁) (hstage : files (.stageIdentity i.externalIdentity) = .absent)
    (hoperation : files (.operationStage i.operationId i.stage) = .absent) (hobject : files i.externalObject = .absent) :
    Grows files files₁ := by
  have hrefl : Grows files files := fun _ _ h => h
  have hgrows := grows_put (f := .bound i) hstage hrefl
  cases h with
  | nothing => exact hrefl
  | removed => exact hrefl
  | reservation => exact hrefl
  | stage => exact hgrows
  | operation => exact grows_put hoperation hgrows
  | object => exact grows_put hobject (grows_put hoperation hgrows)

theorem gives_of_carried {p : Code D α} (hp : p.Gives (timely others) Prod.fst files s x)
    (hc : CarriedAll others files s files₁ s₁ p) : p.Gives (timely others) Prod.fst files₁ s₁ x := by
  obtain ⟨w, -, hplay⟩ := hp (s, 0) rfl
  exact hc (s, 0) x files w rfl hplay trivial

theorem Accepted.left (hready : Ready C E others run files s) (hi : i.toIntentBody = intentValues C run i.recordedAt)
    (h : Accepted C E others files s j) (hleft : Left files s i files₁ s₁) : Accepted C E others files₁ s₁ j := by
  obtain ⟨hstage, hoperation, hobject, -, -⟩ := hready.fresh i hi
  have hgrows := hleft.grows hstage hoperation hobject
  have hfences : Journal.FencesCarried C others files s files₁ s₁ := hleft.carried (by rw [(names_of_values hi).1]; exact hready.free)
  have hchains : Journal.ChainsCarried C others files s files₁ s₁ fun _ => True :=
    ⟨fun _ _ _ => trivial, fun _ _ => ⟨hfences, fun _ => trivial⟩⟩
  exact ⟨gives_of_carried h.chain (Journal.carried_validate hready.lasting hgrows hchains trivial),
    gives_of_carried h.prerequisites (Executor.carried_checkPrerequisites hready.lasting hgrows hfences j)⟩

/-! ## The next call -/

theorem runStage_anew (observationRequest : Intent D → StageRequest D → Code D (ObservationRequest D)) (s₁ : Disk D)
    (hready : Ready C E others run files s)
    (hfile : files₁ (.operationStage run.request.operationId run.stage) = .absent) (ht : others n .clock = .returned t)
    (hi : Intent.build (intentValues C run t) = some i) : ∃ w : Disk D × Nat, w.1 = s₁ ∧
      ((runStage C observationRequest E run).Meets (timely others) (Claims C run) files₁ (s₁, n) ↔
        (finishStage C observationRequest E i run.request).Meets (timely others) (Claims C run) files₁ w) := by
  have hprior : (readIntentByOperationStage run.request.operationId run.stage).play (timely others) files₁ (s₁, n) =
      ⟨.ok none, files₁, (s₁, n)⟩ := by
    simp only [readIntentByOperationStage, Prog.play, hfile, File.content]
  have hgives : (buildIntent C run t).Gives (timely others) Prod.fst files₁ s₁ i := gives_buildIntent hready hi
  obtain ⟨w, hw, hbuild⟩ := hgives (s₁, n + 1) rfl
  have hstill : (buildIntent C run t).Does Still :=
    Prog.Does.require_bind fun _ => Prog.Does.require_bind fun _ => Prog.Does.ofOption
  have hclaims : ∀ (files : Disc D) (w : Disk D × Nat) a, Still a → ¬ Claims C run files w a := fun _ _ _ => not_claims_still
  have hrequire : (Prog.require (∀ p ∈ (none : Option (Intent D)), i = p)
      (Exc.other "durable mutation intent differs from current request") : Code D Unit).play (timely others) files₁ w =
      ⟨.ok (), files₁, w⟩ := Prog.play_require fun _ h => by cases h
  have hnow : (recordingTime (none : Option (Intent D))).Does Still := still_now
  have htime : (recordingTime (none : Option (Intent D))).play (timely others) files₁ (s₁, n) = ⟨.ok t, files₁, (s₁, n + 1)⟩ :=
    play_now ht
  refine ⟨w, hw, ?_⟩
  unfold runStage
  rw [(still_readIntentByOperationStage _ _).meets_bind_iff hclaims hprior, hnow.meets_bind_iff hclaims htime,
    hstill.meets_bind_iff hclaims hbuild, Prog.Does.require.meets_bind_iff hclaims hrequire]

theorem meets_finishStage (hready : Ready C E others run files s)
    (hi : i.toIntentBody = intentValues C run i.recordedAt) (hp : Journal.PartlyIn C files₁ i)
    (hfile : files₁ (.intent (i.digest C)) = .absent) (hreceipt : files₁ (.receiptIdentity (i.digest C)) = .absent)
    (haccepted : Accepted C E others files₁ s₁ i)
    (htake : (Journal.takeSlot C i).Goes (timely others) Prod.fst files₁ s₁ () files₁ (reserved s i))
    (hread : ((Journal.readers C E.policyEpoch).intent (i.digest C)).Gives (timely others) Prod.fst (Journal.withIntent C files₁ i)
      (reserved s i) (some i)) (hw : w.1 = s₁) :
    (finishStage C observationRequest E i run.request).Meets (timely others) (Claims C run) files₁ w := by
  refine Prog.Meets.left ((Journal.gives_readIntent_none hfile).goes.meets hw fun w hw => Prog.Meets.left ?_)
  exact meets_execute hready hi hp hfile hreceipt haccepted htake hread hw

theorem fails_finishStage (hready : Ready C E others run files s)
    (hi : i.toIntentBody = intentValues C run i.recordedAt) (hslot : s₁.slots i.toMainBound = some ⟨some j, none⟩)
    (hij : j ≠ i) (hfile : files₁ (.intent (i.digest C)) = .absent)
    (hreceipt : files₁ (.receiptIdentity (i.digest C)) = .absent) (haccepted : Accepted C E others files₁ s₁ i) :
    (finishStage C observationRequest E i run.request).Fails (timely others) Prod.fst Still files₁ s₁ := by
  have hread : ((Journal.readers C E.policyEpoch).intent (i.digest C)).Gives (timely others) Prod.fst files₁ s₁ none :=
    Journal.gives_readIntent_none hfile
  have hnone : (Journal.readReceiptForIntent C E.policyEpoch (i.digest C)).Gives (timely others) Prod.fst files₁ s₁ none :=
    Journal.gives_readReceipt_none hreceipt
  have hrecord : (Journal.recordMutationIntent C E.policyEpoch i).Fails (timely others) Prod.fst Still files₁ s₁ := by
    refine haccepted.chain.fails (Journal.still_validateIntent Journal.still_readers i) ?_
    refine (Journal.gives_install hready.store).fails (still_port trivial still_orRaise) ?_
    exact (hnone.fails (Journal.still_readReceiptForIntent _) (Journal.fails_takeSlot hslot hij)).left
  have hexecute : (Executor.execute C E i run.request).Fails (timely others) Prod.fst Still files₁ s₁ := by
    refine (gives_checkRequest hready hi).fails (Executor.still_checkRequest E i _) ?_
    refine hnone.fails (Journal.still_readReceiptForIntent _) (hread.fails (Journal.still_readers.intent _) ?_)
    refine haccepted.prerequisites.fails (Executor.still_checkPrerequisites E i) ?_
    refine (gives_checkPreIntentExpiry hready hi).fails (Executor.still_checkPreIntentExpiry i _) ?_
    exact hrecord.attempt fun _ => hnone.fails (Journal.still_readReceiptForIntent _) Prog.fails_raise
  exact (hread.fails (Journal.still_readers.intent _) hexecute.left).left

theorem meets_runStage_found (hready : Ready C E others run files s)
    (hi : i.toIntentBody = intentValues C run i.recordedAt)
    (hstage : files₁ (.stageIdentity i.externalIdentity) = .bound i)
    (hoperation : files₁ (.operationStage i.operationId i.stage) = .bound i)
    (hobject : files₁ i.externalObject = .bound i) (hfinish : ∀ w : Disk D × Nat, w.1 = s₁ →
      (finishStage C observationRequest E i run.request).Meets (timely others) (Claims C run) files₁ w) (hw : w.1 = s₁) :
    (runStage C observationRequest E run).Meets (timely others) (Claims C run) files₁ w := by
  have hbuild : Intent.build (intentValues C run i.recordedAt) = some i := by
    unfold Intent.build
    rw [dif_pos (hi ▸ i.valid)]
    exact congrArg some (Intent.ext_body hi.symm)
  have hnames := (names_of_values hi).2
  have hprior : (readIntentByOperationStage run.request.operationId run.stage).Gives (timely others) Prod.fst files₁ s₁ (some i) := by
    rw [← hnames.1, ← hnames.2]
    refine Prog.Gives.read (r := .found i) (by rw [hoperation]; rfl) ((Prog.Gives.require ⟨rfl, rfl⟩).bind ?_)
    exact (Journal.gives_assertStageIdentity hstage hoperation hobject).bind Prog.gives_done
  refine hprior.goes.meets hw fun w hw => ?_
  refine (Prog.gives_done (x := i.recordedAt)).goes.meets hw fun w hw => ?_
  refine (gives_buildIntent hready hbuild).goes.meets hw fun w hw => ?_
  exact (Prog.Gives.require fun p hp => Option.some.inj hp).goes.meets hw hfinish

theorem fails_runStage (hi : i.toIntentBody = intentValues C run i.recordedAt)
    (hstage : files₁ (.stageIdentity i.externalIdentity) = .bound i)
    (hoperation : files₁ (.operationStage i.operationId i.stage) = .bound i) (hobject : files₁ i.externalObject = .absent) :
    (runStage C observationRequest E run).Fails (timely others) Prod.fst Still files₁ s₁ := by
  have hnames := (names_of_values hi).2
  refine Prog.Fails.left ?_
  rw [← hnames.1, ← hnames.2]
  refine Prog.Fails.read (r := .found i) trivial (by rw [hoperation]; rfl) ?_
  exact (Prog.Gives.require ⟨rfl, rfl⟩).fails Prog.Does.require (Journal.fails_assertStageIdentity hstage hoperation hobject).left

theorem meets_runStage_free (hready : Ready C E others run files s) (ht : others n .clock = .returned t)
    (hj : Intent.build (intentValues C run t) = some i) (haccepted : Accepted C E others files s₁ i)
    (htake : (Journal.takeSlot C i).Goes (timely others) Prod.fst files s₁ () files (reserved s i))
    (hread : ((Journal.readers C E.policyEpoch).intent (i.digest C)).Gives (timely others) Prod.fst (Journal.withIntent C files i)
      (reserved s i) (some i)) :
    (runStage C observationRequest E run).Meets (timely others) (Claims C run) files (s₁, n) := by
  obtain ⟨hbody, -⟩ := build_values hj
  obtain ⟨hstage, hoperation, hobject, hfile, hreceipt⟩ := hready.fresh i hbody
  obtain ⟨-, hoperationId, hstageName⟩ := names_of_values hbody
  have habsent : files (.operationStage run.request.operationId run.stage) = .absent := by
    rw [← hoperationId, ← hstageName]
    exact hoperation
  obtain ⟨w, hw, hiff⟩ := runStage_anew observationRequest s₁ hready habsent ht hj
  refine hiff.mpr (meets_finishStage hready hbody ?_ hfile hreceipt haccepted htake hread hw)
  exact ⟨.inl hstage, .inl hoperation, .inl hobject, .inl hfile⟩

theorem runStage_reserved (hready : Ready C E others run files s) (ht : others n .clock = .returned t)
    (hi : i.toIntentBody = intentValues C run i.recordedAt) (hj : Intent.build (intentValues C run t) = some j)
    (hp : Journal.PartlyIn C files₁ i) (hstage : files₁ (.operationStage i.operationId i.stage) = .absent)
    (hframe : ∀ j : Intent D, files₁ (.intent (j.digest C)) = files (.intent (j.digest C)) ∧
      files₁ (.receiptIdentity (j.digest C)) = files (.receiptIdentity (j.digest C)))
    (hwith : Journal.withIntent C files₁ i = Journal.withIntent C files i)
    (haccepted : Accepted C E others files₁ (reserved s i) i) (haccepted' : Accepted C E others files₁ (reserved s i) j)
    (hread : ((Journal.readers C E.policyEpoch).intent (i.digest C)).Gives (timely others) Prod.fst (Journal.withIntent C files i)
      (reserved s i) (some i)) :
    (runStage C observationRequest E run).Meets (timely others) (Claims C run) files₁ (reserved s i, n) ↔ t = i.recordedAt := by
  obtain ⟨hbody, htime⟩ := build_values hj
  obtain ⟨-, -, -, hfile, hreceipt⟩ := hready.fresh j hbody
  rw [← (hframe j).1] at hfile
  rw [← (hframe j).2] at hreceipt
  obtain ⟨htarget, hoperationId, hstageName⟩ := names_of_values hi
  have habsent : files₁ (.operationStage run.request.operationId run.stage) = .absent := by
    rw [← hoperationId, ← hstageName]
    exact hstage
  obtain ⟨w, hw, hiff⟩ := runStage_anew observationRequest (reserved s i) hready habsent ht hj
  rw [hiff]
  by_cases hsame : j = i
  · subst hsame
    have htake : (Journal.takeSlot C j).Goes (timely others) Prod.fst files₁ (reserved s j) () files₁ (reserved s j) :=
      Journal.gives_takeSlot (Disk.setSlot_self _)
    rw [← hwith] at hread
    exact iff_of_true (meets_finishStage hready hi hp hfile hreceipt haccepted htake hread hw) htime.symm
  · have hslot : (reserved s i).slots j.toMainBound = some ⟨some i, none⟩ := by
      rw [(names_of_values hbody).1, ← htarget]
      exact Disk.setSlot_self _
    refine iff_of_false ?_ fun h => hsame (Intent.ext_body ?_)
    · exact (fails_finishStage hready hbody hslot (Ne.symm hsame) hfile hreceipt haccepted' w hw).2 _ fun _ _ _ => not_claims_still
    · rw [hbody, hi, htime, h]

/-- What the next call at time `t` needs of the world that the crash left: that the
reservation was not made, or all identities were, or that the clock still shows the
time of the intent and the operation and the stage name none. -/
def Resumable (i : Intent D) (t : Instant) (files : Disc D) (s : Disk D) : Prop :=
  Journal.hasReservation (s.slots i.toMainBound) = false ∨ files i.externalObject = .bound i ∨
    (files (.operationStage i.operationId i.stage) = .absent ∧ t = i.recordedAt)

/-- After a crash between the writes of `record_mutation_intent`, the next call of
`_run_stage` gets to the claim of one intent that owns the slot exactly when the world
is resumable. -/
theorem interrupted_intent_resumed (hready : Ready C E others run files s) {n₀ n₁ n : Nat} {t₀ : Instant}
    (ht₀ : others n₀ .clock = .returned t₀) (hi : Intent.build (intentValues C run t₀) = some i)
    (hcrash : (Journal.recordMutationIntent C E.policyEpoch i).Passes (timely others) Prod.fst files (s, n₁) files₁ s₁)
    (ht : others n .clock = .returned t) :
    (runStage C observationRequest E run).Meets (timely others) (Claims C run) files₁ (s₁, n) ↔ Resumable i t files₁ s₁ := by
  obtain ⟨i', hi', haccepted, hread⟩ := hready.accepts n₀ t₀ ht₀
  cases hi.symm.trans hi'
  obtain ⟨j, hj, haccepted', hread'⟩ := hready.accepts n t ht
  obtain ⟨hbody, -⟩ := build_values hi
  obtain ⟨hbody', htime'⟩ := build_values hj
  obtain ⟨hstage, hoperation, hobject, hfile, hreceipt⟩ := hready.fresh i hbody
  obtain ⟨hstage', hoperation', hobject', hfile', hreceipt'⟩ := hready.fresh j hbody'
  have hleft := left_of_passes hready hbody haccepted.chain rfl hcrash
  have hafter : Accepted C E others files₁ s₁ i := haccepted.left hready hbody hleft
  have hafter' : Accepted C E others files₁ s₁ j := haccepted'.left hready hbody hleft
  have hfree : Journal.Free (s.slots j.toMainBound) := by
    rw [(names_of_values hbody').1]
    exact hready.free
  have htarget : j.toMainBound = i.toMainBound := (names_of_values hbody').1.trans (names_of_values hbody).1.symm
  have hreserved : Journal.hasReservation ((reserved s i).slots i.toMainBound) = true := by
    rw [reserved, Disk.setSlot_self]
    rfl
  cases hleft with
  | nothing =>
    refine iff_of_true (meets_runStage_free hready ht hj hafter' (Journal.goes_takeSlot hfree) hread') (.inl ?_)
    exact Journal.hasReservation_free (htarget ▸ hfree)
  | removed =>
    rw [← htarget] at hafter' ⊢
    have hgone : Journal.Free ((s.setSlot j.toMainBound none).slots j.toMainBound) := Or.inl (Disk.setSlot_self none)
    have htake : (Journal.takeSlot C j).Goes (timely others) Prod.fst files (s.setSlot j.toMainBound none) () files
        (reserved (s.setSlot j.toMainBound none) j) := Journal.goes_takeSlot hgone
    rw [reserved, Disk.setSlot_setSlot] at htake
    refine iff_of_true (meets_runStage_free hready ht hj hafter' htake hread') (.inl ?_)
    exact Journal.hasReservation_free (htarget ▸ hgone)
  | reservation =>
    rw [runStage_reserved hready ht hbody hj ⟨.inl hstage, .inl hoperation, .inl hobject, .inl hfile⟩ hoperation
      (fun _ => ⟨rfl, rfl⟩) rfl hafter hafter' hread]
    simp [Resumable, hreserved, hobject, hoperation]
  | stage =>
    have hpartly : Journal.PartlyIn C (Journal.withStage files i) i :=
      ⟨.inr (Files.put_self _ _ _), .inl ((Journal.withStage_operation i).trans hoperation),
        .inl ((Files.put_ne _ _ (by simp [Intent.externalObject])).trans hobject), .inl ((Files.put_ne _ _ (by simp)).trans hfile)⟩
    rw [runStage_reserved hready ht hbody hj hpartly ((Journal.withStage_operation i).trans hoperation)
      (fun _ => ⟨Files.put_ne _ _ (by simp), Files.put_ne _ _ (by simp)⟩) (Journal.withIntent_withStage i) hafter hafter' hread]
    have hobject : Journal.withStage files i i.externalObject = .absent :=
      (Files.put_ne _ _ (by simp [Intent.externalObject])).trans hobject
    simp [Resumable, hreserved, hobject, Journal.withStage_operation, hoperation]
  | operation =>
    have hstage : Journal.withOperation files i (.stageIdentity i.externalIdentity) = .bound i :=
      (Files.put_ne _ _ (by simp)).trans (Files.put_self _ _ _)
    have hoperation : Journal.withOperation files i (.operationStage i.operationId i.stage) = .bound i := Files.put_self _ _ _
    have hobject := (Journal.withOperation_object i).trans hobject
    refine iff_of_false ?_ ?_
    · exact (fails_runStage hbody hstage hoperation hobject (reserved s i, n) rfl).2 _ fun _ _ _ => not_claims_still
    · simp [Resumable, hreserved, hobject, hoperation]
  | object =>
    have hpartly : Journal.PartlyIn C (Journal.withObject files i) i :=
      ⟨.inr (Journal.withObject_stage i), .inr (Journal.withObject_operation i), .inr (Journal.withObject_object i),
        .inl ((Journal.withObject_intent i _).trans hfile)⟩
    have hreceipt := (Journal.withObject_ne i (by simp) (by simp) (by simp [Intent.externalObject])).trans hreceipt
    have htake : (Journal.takeSlot C i).Goes (timely others) Prod.fst (Journal.withObject files i) (reserved s i) ()
        (Journal.withObject files i) (reserved s i) := Journal.gives_takeSlot (Disk.setSlot_self _)
    rw [← Journal.withIntent_withObject i] at hread
    refine iff_of_true ?_ (.inr (.inl (Journal.withObject_object i)))
    refine meets_runStage_found hready hbody (Journal.withObject_stage i) (Journal.withObject_operation i)
      (Journal.withObject_object i) (fun w hw => ?_) rfl
    exact meets_finishStage hready hbody hpartly ((Journal.withObject_intent i _).trans hfile) hreceipt hafter htake hread hw

end AvoCorrelate.Graduation.Coordinator

namespace AvoCorrelate.Graduation

namespace Sample

open Coordinator

/-- The clock shows one time in the first call and the next in the second. -/
def moving (n : Nat) : (p : Port Form) → p.Answer := others false (if n = 0 then 0 else 1)

def publicationRun : StageRun Form := ⟨.number 5, preparation, .number 3, request, .text "", none, none, .candidatePublication⟩

def unobserved : Intent Form → StageRequest Form → Code Form (ObservationRequest Form) :=
  fun _ _ => .raise (.other "no observation request")

theorem publicationRun_intent (t : Instant) : Intent.build (intentValues Form.canon publicationRun t) = some (intent t) := by
  unfold Intent.build
  exact dif_pos (intent t).valid

theorem moving_lasting : Lasting moving := by
  intro n n' p hp
  cases p <;> first | rfl | cases hp

theorem intent_validated {t : Instant} (ht : t < 100) (R : Journal.Readers Form) (files : Disc Form) (s : Disk Form) :
    (Journal.validateIntent Form.canon none R (intent t)).Gives (timely moving) Prod.fst files s () := by
  have hsame : Journal.SamePreparation (intent t) preparation lease (.number 5) :=
    ⟨⟨rfl, rfl, rfl, rfl, rfl⟩, rfl, rfl, rfl, rfl, rfl, rfl, ht⟩
  refine Prog.Gives.bind (gives_lasting rfl (fun _ => rfl) Prog.gives_done) ?_
  refine Prog.Gives.bind (gives_lasting rfl (fun _ => rfl) Prog.gives_done) ?_
  refine Prog.Gives.bind (gives_lasting rfl (fun _ => rfl) Prog.gives_done) ?_
  refine Prog.Gives.bind (Prog.Gives.ofOption rfl) ?_
  refine Prog.Gives.bind (Prog.Gives.bind (gives_lasting rfl (fun _ => rfl) Prog.gives_done) (Prog.Gives.ofOption rfl)) ?_
  refine Prog.Gives.bind (gives_lasting rfl (fun _ => rfl) Prog.gives_done) ?_
  exact (Prog.Gives.require hsame).bind (Prog.gives_done.bind Prog.gives_done)

theorem publicationRun_ready : Ready Form.canon executor moving publicationRun (fun _ => .absent) Disk.empty where
  lasting := moving_lasting
  clock n := by
    refine ⟨_, rfl, fun _ h => (nomatch h), fun m l hl => ?_⟩
    cases hl
    split <;> decide
  leased _ := rfl
  store _ := rfl
  able := rfl
  epoch := rfl
  identity := rfl
  parent _ h := nomatch h
  accepts n t ht := by
    have hlate : t < 100 := by
      cases ht
      split <;> decide
    refine ⟨intent t, publicationRun_intent t, ⟨intent_validated hlate _ _ _, Prog.gives_done⟩, ?_⟩
    refine Journal.gives_readIntent_some (Journal.withIntent_intent _) (intent_validated hlate _ _ _) ?_
    exact Journal.gives_assertStageIdentity (Journal.withIntent_stage _) (Journal.withIntent_operation _) (Journal.withIntent_object _)
  free := Or.inl rfl
  fresh _ _ := ⟨rfl, rfl, rfl, rfl, rfl⟩

theorem reservation_left : (Journal.recordMutationIntent Form.canon none (intent 0)).Passes (timely moving) Prod.fst (fun _ => .absent)
    (Disk.empty, 1) (fun _ => .absent) (reserved Disk.empty (intent 0)) :=
  Prog.meets_walk (n := 9) rfl ⟨rfl, rfl⟩

/-- The next call, at a time at which it would succeed on an empty disk. -/
def nextCall (s : Disk Form) : Play (Rec (D := Form)) Exc (Intent Form × Executor.EffectiveResult Form) (Disk Form × Nat) :=
  (runStage Form.canon unobserved executor publicationRun).play (timely moving) (fun _ => .absent) (s, 1)

/-- What the next call raises. -/
def refusal (s : Disk Form) : Option Exc :=
  match (nextCall s).outcome with
  | .error e => some e
  | .ok _ => none

theorem refusal_reserved : refusal (reserved Disk.empty (intent 0)) = some (.execution "mutation intent was not durably recorded") := by
  decide

theorem refusal_empty : refusal Disk.empty = none := by decide +kernel

theorem reserved_accepted {t : Instant} (ht : t < 100) :
    Accepted Form.canon executor moving (fun _ => .absent) (reserved Disk.empty (intent 0)) (intent t) :=
  ⟨intent_validated ht _ _ _, Prog.gives_done⟩

end Sample

open Coordinator

/-- The reservation of the interrupted intent is in the way of the next call. -/
theorem interrupted_intent_refused :
    (Journal.recordMutationIntent Form.canon none (Sample.intent 0)).Passes (timely Sample.moving) Prod.fst (fun _ => .absent)
      (Disk.empty, 1) (fun _ => .absent) (reserved Disk.empty (Sample.intent 0)) ∧
    Sample.refusal (reserved Disk.empty (Sample.intent 0)) = some (.execution "mutation intent was not durably recorded") ∧
    Sample.refusal Disk.empty = none ∧
    ¬ (runStage Form.canon Sample.unobserved Sample.executor Sample.publicationRun).Meets (timely Sample.moving)
      (Claims Form.canon Sample.publicationRun) (fun _ => .absent) (reserved Disk.empty (Sample.intent 0), 1) := by
  refine ⟨Sample.reservation_left, Sample.refusal_reserved, Sample.refusal_empty, fun h => ?_⟩
  obtain ⟨i, hi, -, hread⟩ := Sample.publicationRun_ready.accepts 0 0 rfl
  cases (Sample.publicationRun_intent 0).symm.trans hi
  have htime := (runStage_reserved Sample.publicationRun_ready (t := 1) rfl rfl (Sample.publicationRun_intent 1)
    ⟨.inl rfl, .inl rfl, .inl rfl, .inl rfl⟩ rfl (fun _ => ⟨rfl, rfl⟩) rfl (Sample.reserved_accepted (by decide))
    (Sample.reserved_accepted (by decide)) hread).mp h
  cases htime

theorem interrupted_intent_resumed_at_once :
    Resumable (Sample.intent 0) 0 (fun _ => .absent) (reserved Disk.empty (Sample.intent 0)) ∧
    (runStage Form.canon Sample.unobserved Sample.executor Sample.publicationRun).Meets (timely Sample.moving)
      (Claims Form.canon Sample.publicationRun) (fun _ => .absent) (reserved Disk.empty (Sample.intent 0), 0) := by
  have hresumable : Resumable (Sample.intent 0) 0 (fun _ => .absent) (reserved Disk.empty (Sample.intent 0)) :=
    .inr (.inr ⟨rfl, rfl⟩)
  have hclock : Sample.moving 0 .clock = .returned 0 := rfl
  exact ⟨hresumable, (interrupted_intent_resumed Sample.publicationRun_ready hclock (Sample.publicationRun_intent 0)
    Sample.reservation_left hclock).mpr hresumable⟩

end AvoCorrelate.Graduation
