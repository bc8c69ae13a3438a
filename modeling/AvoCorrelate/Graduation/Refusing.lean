import AvoCorrelate.Graduation.Freeing
/-!
# A refused intent and the slot

`record_mutation_intent` takes the slot of the target before it binds the intent to its
stage and to its external object. A file that is not for this intent is met only then,
and the reservation stays behind.
-/
open AvoLib

namespace AvoCorrelate.Graduation.Journal

variable {D : Type} [DecidableEq D] {others : Nat → (p : Port D) → p.Answer} {files files₁ : Disc D} {s : Disk D}
  {C : Canon D} {policyEpoch : Option D} {i : Intent D} {α : Type}

/-! ## The files of an intent -/

/-- The last part of `record_mutation_intent`: the three identities and the index. -/
def publishIntent (C : Canon D) (i : Intent D) : Code D Unit := do
  casStageIdentity i
  casOperationStageIdentity i
  casExternalObjectIdentity i
  cas "mutation-intent" "conflicting mutation-intent" (.intent (i.digest C)) i

/-- Reads and publications. -/
def Filing : Action (Rec (D := D)) (Port D) → Prop
  | .port _ => False
  | _ => True

variable {description conflicting : String} {k : Key D} {v : Rec k} {w w' : Disk D × Nat}

theorem files_cas : (cas description conflicting k v).Does Filing := by
  refine ⟨trivial, fun r => ?_⟩
  cases r with
  | created => trivial
  | failed => trivial
  | lost => trivial
  | taken =>
    refine ⟨trivial, fun found => ?_⟩
    cases found with
    | missing => trivial
    | malformed => trivial
    | found old => exact Prog.Does.require

theorem files_publishIntent : (publishIntent C i).Does Filing :=
  files_cas.bind fun _ => files_cas.bind fun _ => files_cas.bind fun _ => files_cas

theorem file_of_cas (h : (cas description conflicting k v).play (timely others) files w = ⟨.ok (), files₁, w'⟩) :
    (files k = .absent ∨ files k = .bound v) ∧ files₁ = files.put k (.bound v) := by
  unfold cas at h
  cases hfile : files k with
  | absent =>
    rw [Prog.play_publish hfile] at h
    cases h
    exact ⟨.inl rfl, rfl⟩
  | torn =>
    rw [Prog.play_taken (by rw [hfile]; intro h'; cases h')] at h
    simp only [Prog.play, hfile] at h
    cases h
  | bound old =>
    rw [Prog.play_taken (by rw [hfile]; intro h'; cases h')] at h
    simp only [Prog.play, hfile] at h
    obtain ⟨hsame, hfiles, -⟩ := Prog.play_require_inv h
    rw [hsame] at hfile ⊢
    exact ⟨.inr rfl, hfiles.trans (Files.put_bound hfile).symm⟩

theorem publishIntent_ok_iff :
    ((publishIntent C i).play (timely others) files w).outcome = .ok () ↔ PartlyIn C files i := by
  constructor
  · intro h
    cases hplay : (publishIntent C i).play (timely others) files w with
    | mk outcome files₁ w₁ =>
      rw [hplay] at h
      cases h
      obtain ⟨⟨⟩, f₁, w₁, h₁, h⟩ := Prog.play_bind_inv hplay
      obtain ⟨⟨⟩, f₂, w₂, h₂, h⟩ := Prog.play_bind_inv h
      obtain ⟨⟨⟩, f₃, w₃, h₃, h⟩ := Prog.play_bind_inv h
      obtain ⟨hstage, rfl⟩ := file_of_cas h₁
      obtain ⟨hoperation, rfl⟩ := file_of_cas h₂
      obtain ⟨hobject, rfl⟩ := file_of_cas h₃
      obtain ⟨hindex, -⟩ := file_of_cas h
      refine ⟨hstage, ?_, ?_, ?_⟩
      · exact hoperation.imp (withStage_operation i).symm.trans (withStage_operation i).symm.trans
      · exact hobject.imp (withOperation_object i).symm.trans (withOperation_object i).symm.trans
      · exact hindex.imp (withObject_intent i _).symm.trans (withObject_intent i _).symm.trans
  · intro hp
    have hgoes : (publishIntent C i).Goes (timely others) Prod.fst files w.1 () (withIntent C files i) w.1 := by
      refine (goes_cas hp.stage).bind ((goes_cas ?_).bind ((goes_cas ?_).bind (goes_cas ?_)))
      · exact hp.operation.imp (withStage_operation i).trans (withStage_operation i).trans
      · exact hp.object.imp (withOperation_object i).trans (withOperation_object i).trans
      · exact hp.index.imp (withObject_intent i _).trans (withObject_intent i _).trans
    obtain ⟨w', -, hplay⟩ := hgoes w rfl
    rw [hplay]

theorem yield_matchIdentity {missing otherOperation differs : String} {f : File (Intent D)} {x : Unit}
    (h : Yield others files s (matchIdentity missing otherOperation differs i f.content) x) : f = .bound i := by
  cases f with
  | absent => exact (Prog.Yields.raise_inv h).elim
  | torn => exact (Prog.Yields.raise_inv h).elim
  | bound current =>
    obtain ⟨-, h⟩ := yield_require h
    rw [Prog.Yields.require_inv h]

theorem partlyIn_of_readIntent (h : Yield others files s ((readers C policyEpoch).intent (i.digest C)) (some i)) :
    PartlyIn C files i := by
  have hfile : files (.intent (i.digest C)) = .bound i := (yield_readIntentN h).1
  have h : Yield others files s (readIntentWith C policyEpoch (.over C (readIntentN C policyEpoch 5)) (i.digest C)) (some i) := h
  have h := Prog.Yields.read_inv h
  rw [hfile] at h
  obtain ⟨-, h⟩ := yield_require h
  obtain ⟨_, _, h⟩ := yield_bind (still_validateIntent (still_over (still_readIntentN 5)) i) h
  obtain ⟨_, hidentity, -⟩ := yield_bind (still_assertStageIdentity i) h
  have hread : ∀ {k : Key D} {next : Found (Rec k) → Code D Unit}, (∀ r, (next r).Does Still) → (Prog.read k next).Does Still :=
    fun h => ⟨trivial, h⟩
  obtain ⟨_, hstage, hidentity⟩ := yield_bind (hread fun _ => still_matchIdentity _) hidentity
  obtain ⟨_, hoperation, hobject⟩ := yield_bind (hread fun _ => still_matchIdentity _) hidentity
  exact ⟨.inr (yield_matchIdentity hstage), .inr (yield_matchIdentity hoperation), .inr (yield_matchIdentity hobject), .inr hfile⟩

/-! ## The slot -/

omit [DecidableEq D] in
theorem Free.of_vacant {slot : Option (Dir D)} (hrecord : hasRecord slot = false) (hreservation : hasReservation slot = false) :
    Free slot := by
  cases slot with
  | none => exact .inl rfl
  | some dir =>
    obtain ⟨reservation, record⟩ := dir
    simp only [hasRecord, hasReservation, Option.isSome_eq_false_iff, Option.isNone_iff_eq_none, Option.bind_some] at hrecord hreservation
    subst hrecord hreservation
    exact .inr rfl

theorem keeps_takeSlot (h : ¬ Free (s.slots i.toMainBound)) : (takeSlot C i).Keeps (timely others) Prod.fst files s := by
  have hlook : (look i.toMainBound).Gives (timely others) Prod.fst files s (s.slots i.toMainBound) := gives_look _
  refine hlook.keeps.bind fun slot hslot => ?_
  obtain rfl := hlook.yields_eq hslot
  split
  · refine hlook.keeps.bind fun slot hslot => ?_
    obtain rfl := hlook.yields_eq hslot
    split
    · exact keeps_still ((still_lookFence _).bind fun _ => Prog.Does.require)
    · next hrecord =>
      refine hlook.keeps.bind fun slot hslot => ?_
      obtain rfl := hlook.yields_eq hslot
      split
      · exact keeps_still ((still_lookReservation _).bind fun _ => Prog.Does.require)
      · next hreservation =>
        exact absurd (Free.of_vacant (Bool.eq_false_iff.mpr hrecord) (Bool.eq_false_iff.mpr hreservation)) h
  · next hslot => exact absurd (.inl (Option.not_isSome_iff_eq_none.mp hslot)) h

theorem still_assertClosedFence (f : Fence D) : (assertClosedFence C f).Does Still := by
  refine ((still_lookClosed _).bind still_fenceIn).bind fun _ => Prog.Does.require_bind fun _ => ?_
  exact (still_readFenceResolution _).bind fun _ => Prog.Does.require

theorem refuses_step {q : Port D} {next : q.Answer → Code D α}
    (h : ∀ others, (∃ x, next (faultless others s q) = .done x) ∨
      disk q (faultless others s q) s = some s ∧ (next (faultless others s q)).Does Still) :
    (Prog.port q next).Refuses (timely others) Prod.fst files s := by
  refine Prog.Refuses.port fun w hw => ?_
  subst hw
  obtain hdone | ⟨hdisk, hstill⟩ := h (others w.2)
  · exact .inl hdone
  · obtain ⟨-, hnext⟩ := timely_step rfl hdisk
    exact .inr ⟨hnext, (keeps_still hstill).refuses⟩

theorem refuses_closeTargetFence (q : Resolution D) :
    (closeTargetFenceIfResolved C policyEpoch q).Refuses (timely others) Prod.fst files s := by
  refine (keeps_still (still_readers.fence _)).refuses_bind fun _ _ => (keeps_still Prog.Does.ofOption).refuses_bind fun f _ => ?_
  refine (keeps_still (still_lookClosed _)).refuses_bind fun closed _ => ?_
  split
  · exact (keeps_still (still_assertClosedFence f)).refuses
  · refine (keeps_still (still_lookFence _)).refuses_bind fun _ _ => (keeps_still Prog.Does.require).refuses_bind fun _ _ => ?_
    refine refuses_step fun others => ?_
    cases hslot : s.slots f.toMainBound with
    | none => exact .inl ⟨(), by simp only [faultless, hslot]⟩
    | some dir =>
      by_cases hclosed : s.closedDir (f.digest C) = none
      · exact .inl ⟨(), by simp only [faultless, hslot, hclosed, if_true]⟩
      · have hanswer : faultless others s (.closeSlot f.toMainBound (f.digest C)) = .refused := by
          simp only [faultless, hslot, hclosed, if_false]
        rw [hanswer]
        exact .inr ⟨rfl, trivial⟩

theorem refuses_closeResolved (q : Resolution D) :
    (closeResolved C policyEpoch q).Refuses (timely others) Prod.fst files s := by
  refine (keeps_still (still_sourceReceipt still_readers.receipt q)).refuses_bind fun r _ => ?_
  exact (keeps_still (still_verifyFenceAuthority q r)).refuses_bind fun _ _ => refuses_closeTargetFence q

theorem refuses_repairActive : (repairActive C policyEpoch i).Refuses (timely others) Prod.fst files s := by
  refine (keeps_still (still_look _)).refuses_bind fun _ _ => (keeps_still Prog.Does.require).refuses_bind fun _ _ => ?_
  refine (keeps_still (still_lookFence _)).refuses_bind fun current _ => ?_
  refine (keeps_still (still_readers.fence _)).refuses_bind fun _ _ => (keeps_still Prog.Does.ofOption).refuses_bind fun f _ => ?_
  refine (keeps_still Prog.Does.require).refuses_bind fun _ _ => (keeps_still (still_readFenceResolution _)).refuses_bind fun q _ => ?_
  cases q with
  | some q => exact refuses_closeResolved q
  | none =>
    refine (keeps_still (still_look _)).refuses_bind fun _ _ => ?_
    have hstill : ∀ conflicting, (requireReservation i conflicting).Does Still :=
      fun _ => (still_lookReservation _).bind fun _ => Prog.Does.require
    split
    · exact (keeps_still (hstill _)).refuses
    · refine refuses_step fun others => ?_
      cases hslot : s.slots i.toMainBound with
      | none =>
        have hanswer : faultless others s (.linkReservation i.toMainBound i) = .failed := by simp only [faultless, hslot]
        rw [hanswer]
        exact .inr ⟨rfl, trivial⟩
      | some dir =>
        obtain ⟨reservation, record⟩ := dir
        cases reservation with
        | none => exact .inl ⟨(), by simp only [faultless, hslot]⟩
        | some j =>
          have hanswer : faultless others s (.linkReservation i.toMainBound i) = .taken := by simp only [faultless, hslot]
          rw [hanswer]
          exact .inr ⟨by simp only [disk, hslot], hstill _⟩

theorem refuses_repairClosed : (repairClosed C policyEpoch i).Refuses (timely others) Prod.fst files s := by
  have hhistory : (Prog.port .listClosed fun history => Prog.ofOption history (.journal "closed target mutation fence history is malformed")
      : Code D (List (D × Dir D))).Does Still := ⟨trivial, fun _ => Prog.Does.ofOption⟩
  refine (keeps_still hhistory).refuses_bind fun history _ => ?_
  refine (keeps_still (still_closedFences i history)).refuses_bind fun matched _ => ?_
  split
  · exact Prog.refuses_raise
  · refine (keeps_still (still_readFenceResolution _)).refuses_bind fun _ _ => ?_
    exact (keeps_still Prog.Does.ofOption).refuses_bind fun q _ => refuses_closeResolved q
  · exact Prog.refuses_raise

theorem refuses_repairTargetReservation : (repairTargetReservation C policyEpoch i).Refuses (timely others) Prod.fst files s := by
  refine (keeps_still (still_look _)).refuses_bind fun slot _ => ?_
  split
  · exact refuses_repairActive
  · exact refuses_repairClosed

/-! ## The reservation -/

/-- Nothing was dispatched for the intent, and the slot of its target is free. -/
def Takes (C : Canon D) (files : Disc D) (s : Disk D) (i : Intent D) : Prop :=
  files (.receiptIdentity (i.digest C)) = .absent ∧ Free (s.slots i.toMainBound)

theorem goes_reservation (h : Takes C files s i) : (casTargetMutationReservation C policyEpoch i).Goes (timely others) Prod.fst
    files s () files (s.setSlot i.toMainBound (some ⟨some i, none⟩)) :=
  (gives_readReceipt_none h.1).goes.bind (goes_takeSlot h.2)

theorem some_of_yield_receipt {d : D} {x : Option (Receipt D)} (hfile : files (.receiptIdentity d) ≠ .absent)
    (h : Yield others files s (readReceiptForIntent C policyEpoch d) x) : ∃ r, x = some r := by
  cases hbound : files (.receiptIdentity d) with
  | absent => exact absurd hbound hfile
  | torn =>
    have h := Prog.Yields.read_inv h
    rw [hbound] at h
    exact (Prog.Yields.raise_inv h).elim
  | bound r => exact ⟨r, yield_readReceiptForIntent hbound h⟩

theorem partlyIn_of_reserved {u : Unit} (hreceipt : files (.receiptIdentity (i.digest C)) ≠ .absent)
    (h : (casTargetMutationReservation C policyEpoch i).play (timely others) files w = ⟨.ok u, files₁, w'⟩) :
    PartlyIn C files i := by
  obtain ⟨x, w₁, hw₁, hx, h⟩ := played_bind (s := w.1) (still_readReceiptForIntent _) rfl h
  obtain ⟨r, rfl⟩ := some_of_yield_receipt hreceipt hx
  simp only at h
  split at h
  · obtain ⟨durable, w₂, hw₂, hread, h⟩ := played_bind (still_readers.intent _) hw₁ h
    obtain ⟨rfl, -⟩ := Prog.play_require_inv h
    exact partlyIn_of_readIntent hread
  · obtain ⟨durable, w₂, hw₂, hread, h⟩ := played_bind (still_readers.intent _) hw₁ h
    obtain ⟨_, _, _, hcheck, -⟩ := Prog.play_bind_inv h
    obtain ⟨rfl, -⟩ := Prog.play_require_inv hcheck
    exact partlyIn_of_readIntent hread

variable (others policyEpoch) in
/-- How the reservation ends when it does not take a slot that was free: whatever it
changed, it returns, and the intent is in its files already. -/
theorem reserved_of_not_takes (w : Disk D × Nat) (h : ¬ Takes C files w.1 i) :
    let left := (casTargetMutationReservation C policyEpoch i).play (timely others) files w
    left.files = files ∧ (left.state.1 = w.1 ∨ left.outcome = .ok () ∧ PartlyIn C files i) := by
  intro left
  by_cases hreceipt : files (.receiptIdentity (i.digest C)) = .absent
  · have hkeeps : (casTargetMutationReservation C policyEpoch i).Keeps (timely others) Prod.fst files w.1 :=
      (gives_readReceipt_none hreceipt).keeps.bind fun x hx => by
        obtain rfl := (gives_readReceipt_none hreceipt).yields_eq hx
        exact keeps_takeSlot fun hfree => h ⟨hreceipt, hfree⟩
    obtain ⟨hfiles, hstate⟩ := hkeeps w rfl
    exact ⟨hfiles, .inl hstate⟩
  have hrefuses : (casTargetMutationReservation C policyEpoch i).Refuses (timely others) Prod.fst files w.1 := by
    refine (keeps_still (still_readReceiptForIntent _)).refuses_bind fun x hx => ?_
    obtain ⟨r, rfl⟩ := some_of_yield_receipt hreceipt hx
    simp only
    split
    · exact (keeps_still ((still_readers.intent _).bind fun _ => Prog.Does.require)).refuses
    · refine (keeps_still (still_readers.intent _)).refuses_bind fun _ _ => ?_
      exact (keeps_still Prog.Does.require).refuses_bind fun _ _ => refuses_repairTargetReservation
  obtain ⟨hfiles, hstate⟩ := hrefuses w rfl
  refine ⟨hfiles, ?_⟩
  cases hplay : (casTargetMutationReservation C policyEpoch i).play (timely others) files w with
  | mk outcome files₁ w₁ =>
    cases outcome with
    | error e => exact .inl (hstate e (by rw [hplay]))
    | ok u => exact .inr ⟨by simp only [left, hplay], partlyIn_of_reserved hreceipt hplay⟩

/-! ## The call -/

/-- The checks before the reservation, and the store of artifacts, do not object. -/
def Admits (C : Canon D) (policyEpoch : Option D) (others : Nat → (p : Port D) → p.Answer) (files : Disc D) (w : Disk D × Nat)
    (i : Intent D) : Prop :=
  ((validateIntent C policyEpoch (readers C policyEpoch) i >>= fun _ => install).play (timely others) files w).outcome = .ok ()

/-- If the call raises, every slot is as it was. -/
def RefusedWithoutSlot (C : Canon D) (policyEpoch : Option D) (others : Nat → (p : Port D) → p.Answer) (files : Disc D)
    (w : Disk D × Nat) (i : Intent D) : Prop :=
  ∀ e, ((recordMutationIntent C policyEpoch i).play (timely others) files w).outcome = .error e →
    ∀ target, ((recordMutationIntent C policyEpoch i).play (timely others) files w).state.1.slots target = w.1.slots target

variable (others files C policyEpoch i) in
theorem play_recordMutationIntent (w : Disk D × Nat) :
    (∃ e w₁, w₁.1 = w.1 ∧ (recordMutationIntent C policyEpoch i).play (timely others) files w = ⟨.error e, files, w₁⟩ ∧
      ¬ Admits C policyEpoch others files w i) ∨
    ∃ w₁, w₁.1 = w.1 ∧ (recordMutationIntent C policyEpoch i).play (timely others) files w =
      (casTargetMutationReservation C policyEpoch i >>= fun _ => publishIntent C i).play (timely others) files w₁ ∧
      Admits C policyEpoch others files w i := by
  have hfirst : (validateIntent C policyEpoch (readers C policyEpoch) i >>= fun _ => install).Does Still :=
    (still_validateIntent still_readers i).bind fun _ => still_port trivial still_orRaise
  have hidle := (keeps_still hfirst : Prog.Keeps (timely others) Prod.fst files w.1 _) w rfl
  have hassoc : recordMutationIntent C policyEpoch i = (validateIntent C policyEpoch (readers C policyEpoch) i >>= fun _ => install) >>=
      fun _ => casTargetMutationReservation C policyEpoch i >>= fun _ => publishIntent C i := (Prog.bind_bind _ _ _).symm
  unfold Admits
  rw [hassoc]
  cases hplay : (validateIntent C policyEpoch (readers C policyEpoch) i >>= fun _ => install).play (timely others) files w with
  | mk outcome files₁ w₁ =>
    rw [hplay] at hidle
    obtain ⟨rfl, hw₁⟩ := hidle
    cases outcome with
    | error e => exact .inl ⟨e, w₁, hw₁, Prog.play_bind_error hplay, nofun⟩
    | ok u => exact .inr ⟨w₁, hw₁, Prog.play_bind_ok hplay, rfl⟩

/-- Every refusal leaves every slot as it was, but for one kind: the intent is admitted,
its slot was free, and one of its files is there and is not for it. -/
theorem refused_intent_takes_no_slot (w : Disk D × Nat) :
    RefusedWithoutSlot C policyEpoch others files w i ↔
      ¬ (Admits C policyEpoch others files w i ∧ Takes C files w.1 i ∧ ¬ PartlyIn C files i) := by
  have hpublish : ∀ f w₁, ((publishIntent C i).play (timely others) f w₁).state = w₁ :=
    fun f w₁ => files_publishIntent.play_portless fun _ h => h
  unfold RefusedWithoutSlot
  obtain ⟨e, w₁, hw₁, hplay, hadmits⟩ | ⟨w₁, hw₁, hplay, hadmits⟩ :=
    play_recordMutationIntent others files C policyEpoch i w
  · rw [hplay]
    exact ⟨fun _ h => hadmits h.1, fun _ _ _ target => by rw [hw₁]⟩
  rw [hplay]
  by_cases htakes : Takes C files w.1 i
  · -- the slot is taken, and the files decide
    rw [← hw₁] at htakes
    have hgoes : (casTargetMutationReservation C policyEpoch i).Goes (timely others) Prod.fst files w₁.1 () files _ := goes_reservation htakes
    obtain ⟨w₂, hw₂, htook⟩ := hgoes w₁ rfl
    rw [Prog.play_bind_ok htook, hpublish]
    constructor
    · rintro hsame ⟨-, -, hobstructed⟩
      cases houtcome : ((publishIntent C i).play (timely others) files w₂).outcome with
      | ok u => exact hobstructed (publishIntent_ok_iff.mp houtcome)
      | error e =>
        have hslot := hsame e houtcome i.toMainBound
        rw [hw₂, Disk.setSlot_self, ← hw₁] at hslot
        have hfree := htakes.2
        rw [← hslot] at hfree
        cases hfree.vacant
    · intro hadmitted e he
      have hpartly : PartlyIn C files i := by
        by_contra hobstructed
        exact hadmitted ⟨hadmits, hw₁ ▸ htakes, hobstructed⟩
      rw [publishIntent_ok_iff.mpr hpartly] at he
      cases he
  · obtain ⟨hfiles, hended⟩ := reserved_of_not_takes others policyEpoch w₁ (by rw [hw₁]; exact htakes)
    refine ⟨fun _ h => htakes h.2.1, fun _ e he target => ?_⟩
    cases hreserve : (casTargetMutationReservation C policyEpoch i).play (timely others) files w₁ with
    | mk outcome files₂ w₂ =>
      rw [hreserve] at hfiles hended
      obtain rfl : files₂ = files := hfiles
      cases outcome with
      | error e' =>
        rw [Prog.play_bind_error hreserve]
        obtain hstate | ⟨hok, -⟩ := hended
        · rw [← hw₁]; exact congrArg (fun s => Disk.slots s target) hstate
        · cases hok
      | ok u =>
        rw [Prog.play_bind_ok hreserve] at he ⊢
        rw [hpublish]
        obtain hstate | ⟨-, hpartly⟩ := hended
        · rw [← hw₁]; exact congrArg (fun s => Disk.slots s target) hstate
        · rw [publishIntent_ok_iff.mpr hpartly] at he
          cases he

end AvoCorrelate.Graduation.Journal

namespace AvoCorrelate.Graduation.Sample

/-- A journal after calls one after the other, and how the last of them ended. -/
def called (calls : List (Code Form Unit)) : Play (Rec (D := Form)) Exc Unit (Disk Form × Nat) :=
  calls.foldl (fun left call => call.play (timely standing) left.files left.state) ⟨.ok (), fun _ => .absent, (Disk.empty, 0)⟩

/-- The first stage is recorded and has its receipt. -/
def receiptedCalls : List (Code Form Unit) :=
  [Journal.recordMutationIntent Form.canon none (intent 1), Journal.recordMutationReceipt Form.canon none receipt]

/-- Another coordinator records the stage at a later time. -/
def repeatedCalls : List (Code Form Unit) := receiptedCalls ++ [Journal.recordMutationIntent Form.canon none (intent 2)]

end AvoCorrelate.Graduation.Sample

namespace AvoCorrelate.Graduation

/-- The second intent for a stage is refused, holds the slot, and is in the way of the
next stage. -/
theorem refused_intent_keeps_slot :
    (Sample.called Sample.receiptedCalls).outcome = .ok () ∧
    (Sample.called Sample.receiptedCalls).state.1.slots Sample.target = none ∧
    (Sample.called Sample.repeatedCalls).outcome = .error (.conflict "conflicting stage identity") ∧
    (Sample.called Sample.repeatedCalls).state.1.slots Sample.target = some ⟨some (Sample.intent 2), none⟩ ∧
    (Sample.called (Sample.receiptedCalls ++ [Journal.recordMutationIntent Form.canon none Sample.successor])).outcome = .ok () ∧
    (Sample.called (Sample.repeatedCalls ++ [Journal.recordMutationIntent Form.canon none Sample.successor])).outcome =
      .error (.conflict "target mutation reservation differs") ∧
    ¬ Journal.RefusedWithoutSlot Form.canon none Sample.standing (Sample.called Sample.receiptedCalls).files
      (Sample.called Sample.receiptedCalls).state (Sample.intent 2) := by
  have hslot : (Sample.called Sample.receiptedCalls).state.1.slots Sample.target = none := by decide
  have htaken : (Sample.called Sample.repeatedCalls).state.1.slots Sample.target = some ⟨some (Sample.intent 2), none⟩ := by decide
  have hrefused : (Sample.called Sample.repeatedCalls).outcome = .error (.conflict "conflicting stage identity") := by decide
  refine ⟨by decide, hslot, hrefused, htaken, by decide, by decide, fun h => ?_⟩
  have hsame : (Sample.called Sample.repeatedCalls).state.1.slots Sample.target =
      (Sample.called Sample.receiptedCalls).state.1.slots Sample.target := h _ hrefused Sample.target
  rw [htaken, hslot] at hsame
  cases hsame

end AvoCorrelate.Graduation
