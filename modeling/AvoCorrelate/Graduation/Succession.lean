import AvoCorrelate.Graduation.Faultless
import AvoCorrelate.Graduation.Reading
/-!
# The order of the stages

Anybody may record: here the calls are the journal's own, with any records. An
intent of a graduation is taken only when its predecessor is durable and was proved
applied, by its receipt or by a resolution. An intent of a rollback is checked for
nothing of the kind.
-/
open AvoLib

namespace AvoCorrelate.Graduation

variable {D : Type} [DecidableEq D] (C : Canon D)

/-- A call that records something, on a journal with its policy epoch. -/
inductive RecordCall (D : Type)
  | intent (policyEpoch : Option D) (i : Intent D)
  | receipt (policyEpoch : Option D) (r : Receipt D)
  | fence (policyEpoch : Option D) (f : Fence D)
  | resolution (policyEpoch : Option D) (q : Resolution D)

def record : RecordCall D → Code D Unit
  | .intent policyEpoch i => Journal.recordMutationIntent C policyEpoch i
  | .receipt policyEpoch r => Journal.recordMutationReceipt C policyEpoch r
  | .fence policyEpoch f => Journal.recordUnresolvedMutationFence C policyEpoch f
  | .resolution policyEpoch q => Journal.recordMutationFenceResolution C policyEpoch q

abbrev Records (D : Type) [DecidableEq D] := Served (RecordCall D) (Rec (D := D)) (Port.Answer (D := D)) Exc Unit (Disk D)

omit [DecidableEq D] in
/-- The intent that digest `d` names was proved applied: by its receipt, or by a
resolution of a fence of it. -/
def ProvedApplied (F : Disc D) (d : D) : Prop :=
  (∃ r : Receipt D, F (.receipt (r.digest C)) = .bound r ∧ r.intentDigest = d ∧ r.outcome.success = true) ∨
    ∃ (q : Resolution D) (f : Fence D), F (.resolution (q.digest C)) = .bound q ∧ q.outcome.observed = true ∧
      F (.fence q.fenceDigest) = .bound f ∧ f.intentDigest = d

/-- The predecessor that the intent names is durable, of the same operation and the
stage before, and was proved applied. -/
def Follows (F : Disc D) (i : Intent D) : Prop :=
  ∃ d parent, i.parentIntentDigest = some d ∧ IntentAt C F d parent ∧ parent.operationId = i.operationId ∧
    i.stage.parent = some parent.stage ∧ ProvedApplied C F d

/-! ## What an accepted intent follows -/

/-- Nobody found a record of a rollback for the operation. -/
def Graduates (operationId : D) (p : Port D) (r : p.Answer) : Prop :=
  match p, r with
  | .rollbackPreparation op, .returned (some _) => op ≠ operationId
  | .rollbackAuthorization op, .returned (some _) => op ≠ operationId
  | _, _ => True

section AcceptedCall
variable {C} {F : Disc D} {h : Log D} {policyEpoch : Option D}

variable {d : D} {i : Intent D} {p : Receipt D} {R : Journal.Readers D}

omit [DecidableEq D] in
theorem IntentAt.unique {i' : Intent D} (hi : IntentAt C F d i) (hi' : IntentAt C F d i') : i = i' := by
  have he := hi.durable.symm.trans hi'.durable
  cases he
  rfl

omit [DecidableEq D] in
theorem follows_of_receipt (hp : Journal.parentReceipt i = some p) (hr : ReceiptAt C F (p.digest C) p) :
    Follows C F i := by
  obtain ⟨_, hstage, hnamed, hop, _, hsuccess⟩ := i.valid.receipt _ (Journal.parentReceipt_some hp)
  obtain ⟨parent, hparent, hpop, hsame⟩ := hr.source
  refine ⟨p.intentDigest, parent, hnamed, hparent, hpop.trans hop, ?_, .inl ⟨p, hr.durable, rfl, hsuccess⟩⟩
  rw [← i.valid.parent, hstage, hsame.1]

omit [DecidableEq D] in
theorem follows_of_resolution {q : Resolution D} {f : Fence D} (hq : ResolutionAt C F d q)
    (hop : q.operationId = i.operationId) (hobserved : q.outcome.observed = true) (hf : FenceAt C F q.fenceDigest f)
    (hnamed : some f.intentDigest = i.parentIntentDigest) (hstage : some f.stage = i.parentStage) : Follows C F i := by
  obtain ⟨f', r, hres⟩ := hq.resolves
  have hff : f' = f := by
    have he := hres.fence.durable.symm.trans hf.durable
    cases he
    rfl
  subst hff
  -- the receipt that was resolved gives the stage, the one that was fenced the operation
  obtain ⟨parent, hparent, _, hsame⟩ := hres.receipt.source
  obtain ⟨r', hfenced⟩ := hf.source
  obtain ⟨parent', hparent', hpop', _⟩ := hfenced.receipt.source
  have hrf : r.intentDigest = f'.intentDigest := hres.source.1.trans hres.same.2.1
  rw [hrf] at hparent
  rw [hfenced.same.1] at hparent'
  cases hparent.unique hparent'
  refine ⟨f'.intentDigest, parent, hnamed.symm, hparent, ?_, ?_, .inr ⟨q, f', ?_, hobserved, hf.durable, rfl⟩⟩
  · exact hpop'.trans (hfenced.same.2.1.trans (hres.same.1.symm.trans hop))
  · rw [← i.valid.parent, ← hstage, hsame.1, hres.source.2.2.2.1]
  · rw [hq.digest]
    exact hq.durable

theorem verifyParentResolution_follows (hR : R.Finds C F) (hstill : R.Still) (i : Intent D) (d : D) :
    (Journal.verifyParentResolution R i d).Safe F quiet (Prog.Returning fun _ _ => Follows C F i) h := by
  refine (hR.resolution _ h).seq fun h₁ resolved _ hq => ?_
  refine Prog.Safe.ofOption_bind (fun q hqe => ?_) trivial
  refine Prog.Safe.require_bind (fun hsame => ?_) trivial
  refine (hR.fence _ _).seq fun h₂ fencePrior _ hf => ?_
  refine Prog.Safe.ofOption_bind (fun f hfe => ?_) trivial
  refine Prog.Safe.require_bind (fun hnamed => ?_) trivial
  refine (quiet_of_still (hstill.receipt _)).seq fun h₃ _ _ _ => ?_
  unfold Prog.require
  split
  · exact follows_of_resolution (hq q hqe) hsame.1 hsame.2 (hf f hfe) hnamed.1 hnamed.2
  · trivial

theorem requireParentReceipt_follows (hR : R.Finds C F) (hstill : R.Still) (hp : Journal.parentReceipt i = some p) :
    (Journal.requireParentReceipt C R i p).Safe F quiet (Prog.Returning fun _ _ => Follows C F i) h := by
  refine (hR.receipt _ h).seq fun h₁ prior _ hr => ?_
  refine Prog.Safe.require_bind (fun he => ?_) trivial
  have hfollows := follows_of_receipt hp (hr p he)
  refine (quiet_of_still ?_).seq fun h₂ parentPrior _ _ => ?_
  · split
    · exact hstill.intent _
    · trivial
  · refine Prog.Safe.ofOption_bind (fun parent _ => ?_) trivial
    refine (quiet_of_still (Journal.still_verifyMutationReceipt p parent)).mono fun h₃ x _ => ?_
    cases x with
    | ok => exact hfollows
    | error => trivial

omit [DecidableEq D] in
theorem exists_proof (hstage : i.stage ≠ .candidatePublication) (hr : i.parentReceipt = none) :
    i.parentResolutionDigest.isSome = true := by
  have hsome : i.parentStage.isSome = true := by
    rw [i.valid.parent]
    cases h : i.stage <;> first | rfl | exact absurd h hstage
  have hproof := i.valid.proof hsome
  rw [hr] at hproof
  simpa using hproof

theorem requireParent_follows (hR : R.Finds C F) (hstill : R.Still) (hstage : i.stage ≠ .candidatePublication) :
    (Journal.requireParent C R i).Safe F quiet (Prog.Returning fun _ _ => Follows C F i) h := by
  unfold Journal.requireParent
  cases hp : Journal.parentReceipt i with
  | some p =>
    refine (requireParentReceipt_follows hR hstill hp).seq fun h₁ _ _ hfollows => ?_
    refine (quiet_of_still ?_).mono fun h₂ x _ => ?_
    · split
      · exact Journal.still_verifyParentResolution hstill i _
      · trivial
    · cases x with
      | ok => exact hfollows
      | error => trivial
  | none =>
    obtain ⟨d, hd⟩ := Option.isSome_iff_exists.mp (exists_proof hstage (Journal.parentReceipt_none hp))
    rw [hd]
    exact verifyParentResolution_follows hR hstill i d

theorem validateGraduationIntent_follows (hR : R.Finds C F) (hstill : R.Still) {prep : Preparation D}
    (hstage : i.stage ≠ .candidatePublication) :
    (Journal.validateGraduationIntent C R i prep).Safe F quiet (Prog.Returning fun _ _ => Follows C F i) h := by
  refine (quiet_of_still (Journal.still_requireLease _)).seq fun h₁ lease _ _ => ?_
  refine Prog.Safe.seq (quiet_of_still ⟨trivial, still_orRaise⟩) fun h₂ config _ _ => ?_
  refine Prog.Safe.require_bind (fun _ => ?_) trivial
  refine (requireParent_follows hR hstill hstage).seq fun h₃ _ _ hfollows => ?_
  split
  · refine (quiet_of_still (Journal.still_requireRelease i)).mono fun h₄ x _ => ?_
    cases x with
    | ok => exact hfollows
    | error => trivial
  · exact hfollows

theorem validateIntent_follows (hR : R.Finds C F) (hstill : R.Still) (hstage : i.stage ≠ .candidatePublication) :
    (Journal.validateIntent C policyEpoch R i).Safe F quiet (Prog.Returning fun h' _ =>
      (∀ p r, .port p r ∈ h' → Graduates i.operationId p r) → Follows C F i) h := by
  refine Prog.Safe.port_bind trivial fun r₁ => ?_
  cases r₁ with
  | raised => trivial
  | returned prep =>
  refine Prog.Safe.port_bind trivial fun r₂ => ?_
  cases r₂ with
  | raised => trivial
  | returned rollbackPrep =>
  refine Prog.Safe.port_bind trivial fun r₃ => ?_
  cases r₃ with
  | raised => trivial
  | returned rollbackAuth =>
  change (if rollbackPrep.isSome || rollbackAuth.isSome then _ else _ : Code D Unit).Safe F quiet _ _
  split
  · next hrollback =>
    -- a rollback record was found, which the run excludes
    have hno : ∀ h' : Log D, .port (.rollbackAuthorization i.operationId) (.returned rollbackAuth) ::
        .port (.rollbackPreparation i.operationId) (.returned rollbackPrep) :: .port (.preparation i.operationId) (.returned prep) :: h <:+ h' →
        ¬ ∀ p r, .port p r ∈ h' → Graduates i.operationId p r := by
      intro h' hs hall
      cases rollbackPrep with
      | some _ => exact hall _ _ (hs.mem (List.mem_cons_of_mem _ List.mem_cons_self)) rfl
      | none =>
        cases rollbackAuth with
        | some _ => exact hall _ _ (hs.mem List.mem_cons_self) rfl
        | none => cases hrollback
    refine (Prog.Safe.suffix (quiet_of_still ?_)).mono fun h' x hx => ?_
    · split
      · exact (Journal.still_requireLease _).bind fun _ => Journal.still_validateRollbackIntent i _ _
      · trivial
    · cases x with
      | ok => exact fun hall => absurd hall (hno h' hx.1)
      | error => trivial
  · refine Prog.Safe.ofOption_bind (fun prep _ => ?_) trivial
    refine (validateGraduationIntent_follows hR hstill hstage).mono fun h' x hx => ?_
    cases x with
    | ok => exact fun _ => hx
    | error => trivial

/-- What follows from a call that returned, for the records it was asked to make. -/
def AcceptedCall (C : Canon D) (F : Disc D) (h : Log D) : RecordCall D → Prop
  | .intent _ i => i.stage ≠ .candidatePublication → (∀ p r, .port p r ∈ h → Graduates i.operationId p r) → Follows C F i
  | _ => True

theorem record_accepted (call : RecordCall D) :
    (record C call).Safe F (fun _ _ => True) (Prog.Returning fun h' _ => AcceptedCall C F h' call) [] := by
  have hany : ∀ p : Code D Unit, ∀ h : Log D, p.Safe F (fun _ _ => True) (fun _ _ => True) h :=
    fun p h => (Prog.Does.any p).safe fun _ _ _ ha => ha
  cases call with
  | intent policyEpoch i =>
    by_cases hstage : i.stage = .candidatePublication
    · refine (hany _ _).mono fun h' x _ => ?_
      cases x with
      | ok => exact fun hn => absurd hstage hn
      | error => trivial
    · have hfinds : (Journal.readers C policyEpoch).Finds C F := Journal.readers_finds
      have hv : (Journal.validateIntent C policyEpoch (Journal.readers C policyEpoch) i).Safe F quiet _ [] :=
        validateIntent_follows hfinds Journal.still_readers hstage
      refine (hv.weaken fun _ _ _ _ => trivial).seq fun h₁ _ _ hfollows => ?_
      refine (Prog.Safe.suffix (hany _ _)).mono fun h' x hx => ?_
      cases x with
      | ok => exact fun _ hall => hfollows fun p r hm => hall p r (hx.1.mem hm)
      | error => trivial
  | receipt | fence | resolution =>
    refine (hany _ _).mono fun h' x _ => ?_
    cases x <;> trivial

end AcceptedCall

/-! ## Over every run -/

/-- In a run in which nobody finds a rollback of the operation, an intent that was
accepted and is not of the first stage follows its predecessor. -/
theorem accepted_intent_follows {C : Canon D} {operationId : D} {init : Disc D} {s : Disk D} {w : Records D}
    (hw : Reaches (serve disk (record C)) (fun w m => ∀ p r, w.Asks m p r → Graduates operationId p r) (Served.idle init s) w)
    {n : Nat} {policyEpoch : Option D} {i : Intent D} {log : Log D}
    (ht : w.config.threads[n]? = some ⟨.intent policyEpoch i, .running (.done ()), log⟩) (hop : i.operationId = operationId)
    (hstage : i.stage ≠ .candidatePublication) : Follows C w.config.files i := by
  subst hop
  obtain ⟨hsound, hlinked, hobeys⟩ := sound_ruled (G := fun _ _ _ _ => True)
    (Q := fun call F h x => Prog.Returning (fun h' _ => AcceptedCall C F h' call) h x) (fun call F => record_accepted call) hw.config
  have hsafe := (hsound.obeys hlinked hobeys ht).2
  exact hsafe hstage fun p r hm => hw.answers ht hm

/-! ## A graduation and a rollback -/

namespace Sample

theorem second_binding_valid (parent : Form) : (binding .pullRequestOpen (some parent)).Valid :=
  ⟨⟨rfl, rfl, rfl⟩, (by decide : (identity .pullRequestOpen).Valid), by simp [binding], fun _ => ⟨rfl, rfl⟩⟩

/-- An intent of the second stage that names a resolution. -/
def orphan : Intent Form where
  toMutationBinding := binding .pullRequestOpen (some (.number 14))
  parentStage := some .candidatePublication
  parentReceipt := none
  parentResolutionDigest := some (.number 15)
  requestDigest := .number 7
  recordedAt := 1
  valid :=
    { binding := second_binding_valid _
      parent := rfl
      named := rfl
      root := fun h => by cases h
      proof := fun _ => rfl
      receipt := fun _ h => by cases h }

/-- The receipt of the first stage. -/
def receipt : Receipt Form where
  toMutationBinding := binding .candidatePublication none
  intentDigest := (intent 1).digest Form.canon
  outcome := .applied
  dispatchStarted := true
  responseDigest := .number 12
  observedAt := 1
  valid := { binding := binding_valid, dispatch := rfl }

/-- The intent of the second stage with that receipt. -/
def successor : Intent Form where
  toMutationBinding := binding .pullRequestOpen (some ((intent 1).digest Form.canon))
  parentStage := some .candidatePublication
  parentReceipt := some receipt.toReceiptBody
  parentResolutionDigest := none
  requestDigest := .number 7
  recordedAt := 2
  valid :=
    { binding := second_binding_valid _
      parent := rfl
      named := rfl
      root := fun h => by cases h
      proof := fun _ => rfl
      receipt := fun p h => by
        cases h
        exact ⟨receipt.valid, rfl, rfl, rfl, rfl, rfl⟩ }

/-- What a recording leaves, on a disk without faults. -/
def recorded (rollback : Bool) (files : Disc Form) (s : Disk Form) (call : RecordCall Form) : Play (Rec (D := Form)) Exc Unit (Disk Form) :=
  (record Form.canon call).play (steady (others rollback 1)) files s

/-- The first stage is recorded, and its receipt. -/
def afterFirst : Play (Rec (D := Form)) Exc Unit (Disk Form) :=
  let p := recorded false (fun _ => .absent) Disk.empty (.intent none (intent 1))
  recorded false p.files p.state (.receipt none receipt)

set_option maxRecDepth 8000 in
theorem orphan_recorded : (recorded true (fun _ => .absent) Disk.empty (.intent none orphan)).outcome = .ok () := by decide

set_option maxRecDepth 8000 in
theorem orphan_alone :
    (recorded true (fun _ => .absent) Disk.empty (.intent none orphan)).files (.intent (.number 14)) = .absent := by decide

set_option maxRecDepth 8000 in
theorem successor_recorded : (recorded false afterFirst.files afterFirst.state (.intent none successor)).outcome = .ok () := by
  decide +kernel

theorem graduates (operationId : Form) (s : Disk Form) (p : Port Form) :
    Graduates operationId p (faultless (others false 1) s p) := by
  cases p <;> trivial

end Sample

theorem accepted_intent_follows_successor :
    ∃ w : Records Form, Follows Form.canon w.config.files Sample.successor := by
  obtain ⟨w, log, hreach, _, _, ht⟩ := exists_alone_run (steady (Sample.others false 1)) (record Form.canon)
    (.intent none Sample.successor) Sample.afterFirst.files Sample.afterFirst.state
  have houtcome : ((record Form.canon (.intent none Sample.successor)).play (steady (Sample.others false 1)) Sample.afterFirst.files
      Sample.afterFirst.state).outcome = .ok () := Sample.successor_recorded
  rw [houtcome] at ht
  have hgraduates : Reaches (serve disk (record Form.canon)) (fun w m => ∀ p r, w.Asks m p r → Graduates Sample.operation p r)
      (Served.idle Sample.afterFirst.files Sample.afterFirst.state) w := hreach.mono ?_
  · exact ⟨w, accepted_intent_follows hgraduates ht rfl (fun h => by cases h)⟩
  rintro w m (rfl | hm) p r ⟨i, n, t, next, hstep, _, _, rfl⟩
  · cases hstep
  · cases hm.symm.trans hstep
    exact Sample.graduates _ w.state p

/-- The journal of a rollback accepts a second stage on an empty disk. -/
theorem rollback_intent_unproved :
    ¬ ∀ (init : Disc Form) (s : Disk Form) (w : Records Form) (n : Nat) (policyEpoch : Option Form) (i : Intent Form)
      (log : Log Form), Reaches (serve disk (record Form.canon)) (fun _ _ => True) (Served.idle init s) w →
      w.config.threads[n]? = some ⟨.intent policyEpoch i, .running (.done ()), log⟩ → i.stage ≠ .candidatePublication →
      Follows Form.canon w.config.files i := by
  intro hall
  obtain ⟨w, log, hreach, hf, _, ht⟩ := exists_alone_run (steady (Sample.others true 1)) (record Form.canon)
    (.intent none Sample.orphan) (fun _ => .absent) Disk.empty
  have houtcome : ((record Form.canon (.intent none Sample.orphan)).play (steady (Sample.others true 1)) (fun _ => .absent)
      Disk.empty).outcome = .ok () := Sample.orphan_recorded
  rw [houtcome] at ht
  obtain ⟨d, parent, hnamed, hparent, _⟩ := hall _ _ w 0 none Sample.orphan log (hreach.mono fun _ _ _ => trivial) ht
    (fun h => by cases h)
  cases hnamed
  have habsent : w.config.files (.intent (.number 14)) = .absent := by
    rw [hf]
    exact Sample.orphan_alone
  cases hparent.durable.symm.trans habsent

end AvoCorrelate.Graduation
