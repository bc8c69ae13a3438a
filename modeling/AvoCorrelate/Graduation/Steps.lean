import AvoCorrelate.Graduation.Carrying
/-!
# Recording on a disk without faults

What the recorders do when nobody else is around and nothing fails, from a world in
which their files are missing or already there. A recorder that was interrupted and is
called again with the same record does the rest.
-/
open AvoLib

namespace AvoCorrelate.Graduation

variable {D : Type} [DecidableEq D]

section Steps
variable {others : Nat → (p : Port D) → p.Answer} {files : Disc D} {s : Disk D} {α β : Type}

theorem Disk.setSlot_setSlot (target : MainBound D) (dir dir' : Option (Dir D)) :
    (s.setSlot target dir).setSlot target dir' = s.setSlot target dir' := by
  simp [Disk.setSlot]

theorem play_now {n : Nat} {t : Instant} (h : others n .clock = .returned t) :
    (now : Code D Instant).play (timely others) files (s, n) = ⟨.ok t, files, (s, n + 1)⟩ := by
  change (Answer.orRaise (others n .clock) : Code D Instant).play (timely others) files (s, n + 1) = _
  rw [h]
  rfl

variable {x : α} {w : Disk D × Nat} {q : Port D} {r : q.Answer} {s' s₁ : Disk D} {next : q.Answer → Code D α}
  {files' : Disc D}

theorem gives_now {InTime : Instant → Prop} {f : Instant → Code D α}
    (htime : ∀ n, ∃ t, others n .clock = .returned t ∧ InTime t)
    (hf : ∀ t, InTime t → (f t).Gives (timely others) Prod.fst files s x) :
    (now >>= f).Gives (timely others) Prod.fst files s x := by
  rintro ⟨s, n⟩ rfl
  obtain ⟨t, ht, hin⟩ := htime n
  obtain ⟨w, hw, hplay⟩ := hf t hin (s, n + 1) rfl
  exact ⟨w, hw, (Prog.play_bind_ok (play_now ht)).trans hplay⟩

theorem timely_step (hr : faultless (others w.2) w.1 q = r) (hd : disk q r w.1 = some s') :
    (timely others).answer w q = r ∧ ((timely others).next w q).1 = s' := by
  subst hr
  refine ⟨rfl, ?_⟩
  change (disk q (faultless (others w.2) w.1 q) w.1).getD w.1 = s'
  rw [hd]
  rfl

theorem goes_step (hr : ∀ others, faultless others s q = r) (hd : disk q r s = some s₁)
    (hn : (next r).Goes (timely others) Prod.fst files s₁ x files' s') :
    (Prog.port q next).Goes (timely others) Prod.fst files s x files' s' := by
  refine Prog.Goes.port (fun w hw => ?_) (fun w hw => ?_) hn
  · subst hw
    exact (timely_step (hr _) hd).1
  · subst hw
    exact (timely_step (hr _) hd).2

theorem passes_step (hr : ∀ others, faultless others s q = r) (hd : disk q r s = some s₁) (hw : w.1 = s)
    (h : (Prog.port q next).Passes (timely others) Prod.fst files w files' s') :
    (files' = files ∧ s' = s) ∨ ∃ w' : Disk D × Nat, w'.1 = s₁ ∧ (next r).Passes (timely others) Prod.fst files w' files' s' := by
  obtain ⟨rfl, rfl⟩ | h := h
  · exact .inl ⟨rfl, hw⟩
  · subst hw
    have hstep : (timely others).answer w q = r ∧ ((timely others).next w q).1 = s₁ := timely_step (hr _) hd
    rw [hstep.1] at h
    exact .inr ⟨_, hstep.2, h⟩

theorem gives_lasting (hq : q.lasting = true) (hr : ∀ n, others n q = r)
    (hn : (next r).Gives (timely others) Prod.fst files s x) :
    (Prog.port q next).Gives (timely others) Prod.fst files s x := by
  refine Prog.Gives.port (fun w _ => ?_) (fun w => idle_still.ports w q ?_) hn
  · cases q <;> first | exact hr w.2 | cases hq
  · cases q <;> trivial

namespace Journal

theorem gives_install (h : ∀ n, others n .install = .returned ()) :
    (install : Code D Unit).Gives (timely others) Prod.fst files s () :=
  gives_lasting rfl h Prog.gives_done

variable {description conflicting : String} {k : Key D} {v : Rec k} {w : Disk D × Nat} {files' : Disc D} {s' : Disk D}
  {i : Intent D} {target : MainBound D} {d : D}

theorem goes_cas (h : files k = .absent ∨ files k = .bound v) :
    (cas description conflicting k v).Goes (timely others) Prod.fst files s () (files.put k (.bound v)) s := by
  obtain h | h := h
  · exact Prog.Goes.publish h Prog.gives_done.goes
  · rw [Files.put_bound h]
    refine Prog.Goes.taken (fun habsent => nomatch habsent.symm.trans h) ?_
    exact Prog.Gives.read (r := .found v) (by rw [h]; rfl) (Prog.Gives.require rfl)

theorem passes_cas (h : files k = .absent)
    (hp : (cas description conflicting k v).Passes (timely others) Prod.fst files w files' s') :
    files' = files ∧ s' = w.1 := by
  obtain ⟨rfl, rfl⟩ | hp := (Prog.meets_publish h).mp hp
  · exact ⟨rfl, rfl⟩
  · exact hp.elim

/-! ## Taking a slot -/

def Free (slot : Option (Dir D)) : Prop := slot = none ∨ Dir.vacant slot = true

omit [DecidableEq D] in
theorem Free.vacant {dir : Dir D} (h : Free (some dir)) : dir = .empty := by
  obtain h | h := h
  · cases h
  · unfold Dir.vacant at h
    split at h
    · next hd => cases hd; rfl
    · cases h

theorem installs (others : (p : Port D) → p.Answer) (h : Free (s.slots i.toMainBound)) :
    faultless others s (.installReservation i.toMainBound i) = .moved ∧
      disk (.installReservation i.toMainBound i) .moved s = some (s.setSlot i.toMainBound (some ⟨some i, none⟩)) := by
  have hfree : (s.slots i.toMainBound).isNone = true ∨ Dir.vacant (s.slots i.toMainBound) = true :=
    h.imp (fun h => by rw [h]; rfl) id
  exact ⟨if_pos hfree, if_pos hfree⟩

theorem removes (others : (p : Port D) → p.Answer) (h : s.slots target = some .empty) :
    faultless others s (.removeSlot target) = .removed ∧ disk (.removeSlot target) .removed s = some (s.setSlot target none) := by
  have hvacant : Dir.vacant (s.slots target) = true := by rw [h]; rfl
  exact ⟨if_pos hvacant, if_pos hvacant⟩

theorem goes_installReservation (h : Free (s.slots i.toMainBound)) :
    (installReservation i).Goes (timely others) Prod.fst files s () files (s.setSlot i.toMainBound (some ⟨some i, none⟩)) :=
  goes_step (fun others => (installs others h).1) (installs (others 0) h).2 Prog.gives_done.goes

omit [DecidableEq D] in
theorem hasReservation_free {slot : Option (Dir D)} (h : Free slot) : hasReservation slot = false := by
  cases slot with
  | none => rfl
  | some dir => rw [h.vacant]; rfl

theorem gives_lookReservation (h : (s.slots target).bind Dir.reservation = some i) :
    (look target >>= reservationIn).Gives (timely others) Prod.fst files s i :=
  (gives_look target).bind (Prog.Gives.ofOption h)

variable {C : Canon D}

theorem goes_takeSlot (h : Free (s.slots i.toMainBound)) :
    (takeSlot C i).Goes (timely others) Prod.fst files s () files (s.setSlot i.toMainBound (some ⟨some i, none⟩)) := by
  refine (gives_look i.toMainBound).goes.bind ?_
  cases hslot : s.slots i.toMainBound with
  | none => exact goes_installReservation h
  | some dir =>
    rw [hslot] at h
    obtain rfl := h.vacant
    refine (gives_look_of hslot).goes.bind ((gives_look_of hslot).goes.bind ?_)
    refine goes_step (fun others => (removes others hslot).1) (removes (others 0) hslot).2 ?_
    have hfree : Free ((s.setSlot i.toMainBound none).slots i.toMainBound) := Or.inl (Disk.setSlot_self none)
    have hgoes : (installReservation i).Goes (timely others) Prod.fst files (s.setSlot i.toMainBound none) () files
        ((s.setSlot i.toMainBound none).setSlot i.toMainBound (some ⟨some i, none⟩)) := goes_installReservation hfree
    rwa [Disk.setSlot_setSlot] at hgoes

theorem gives_takeSlot (h : s.slots i.toMainBound = some ⟨some i, none⟩) :
    (takeSlot C i).Gives (timely others) Prod.fst files s () := by
  have hlook : (look i.toMainBound).Gives (timely others) Prod.fst files s (some ⟨some i, none⟩) := gives_look_of h
  refine hlook.bind (hlook.bind (hlook.bind ?_))
  exact (gives_lookReservation (by rw [h]; rfl)).bind (Prog.Gives.require rfl)

theorem fails_takeSlot {j : Intent D} (h : s.slots i.toMainBound = some ⟨some j, none⟩) (hij : j ≠ i) :
    (takeSlot C i).Fails (timely others) Prod.fst Still files s := by
  have hlook : (look i.toMainBound).Gives (timely others) Prod.fst files s (some ⟨some j, none⟩) := gives_look_of h
  refine hlook.fails (still_look _) (hlook.fails (still_look _) (hlook.fails (still_look _) ?_))
  exact (gives_lookReservation (by rw [h]; rfl)).fails (still_lookReservation _) (Prog.Fails.require hij)

theorem passes_installReservation (h : Free (s.slots i.toMainBound)) (hw : w.1 = s)
    (hp : (installReservation i).Passes (timely others) Prod.fst files w files' s') : files' = files ∧ s' = s := by
  obtain hsame | ⟨w', -, hp⟩ := passes_step (fun others => (installs others h).1) (installs (others 0) h).2 hw hp
  · exact hsame
  · exact hp.elim

theorem passes_takeSlot (h : Free (s.slots i.toMainBound)) (hw : w.1 = s)
    (hp : (takeSlot C i).Passes (timely others) Prod.fst files w files' s') :
    files' = files ∧ (s' = s ∨ s' = s.setSlot i.toMainBound none) := by
  have hlook : (look i.toMainBound).Gives (timely others) Prod.fst files s (s.slots i.toMainBound) := gives_look _
  obtain ⟨hf, hs⟩ | ⟨w, hw, hp⟩ := hlook.passes (still_look _) idle_still hw hp
  · exact ⟨hf, .inl hs⟩
  cases hslot : s.slots i.toMainBound with
  | none =>
    rw [hslot] at hp
    obtain ⟨hf, hs⟩ := passes_installReservation h hw hp
    exact ⟨hf, .inl hs⟩
  | some dir =>
    rw [hslot] at h hp hlook
    obtain rfl := h.vacant
    obtain ⟨hf, hs⟩ | ⟨w, hw, hp⟩ := hlook.passes (still_look _) idle_still hw hp
    · exact ⟨hf, .inl hs⟩
    obtain ⟨hf, hs⟩ | ⟨w, hw, hp⟩ := hlook.passes (still_look _) idle_still hw hp
    · exact ⟨hf, .inl hs⟩
    obtain ⟨hf, hs⟩ | ⟨w, hw, hp⟩ := passes_step (fun others => (removes others hslot).1) (removes (others 0) hslot).2 hw hp
    · exact ⟨hf, .inl hs⟩
    obtain ⟨hf, hs⟩ := passes_installReservation (Or.inl (Disk.setSlot_self none)) hw hp
    exact ⟨hf, .inr hs⟩

theorem fails_assertTargetFence {f : Fence D} (h : s.slots f.toMainBound = some .empty) :
    (assertTargetFence C f).Fails (timely others) Prod.fst Still files s := by
  have hlook : (look f.toMainBound).Gives (timely others) Prod.fst files s (some .empty) := gives_look_of h
  refine hlook.fails (still_look _) (hlook.fails (still_look _) (hlook.fails (still_look _) ?_))
  exact Prog.Fails.require (by simp [hasReservation, Dir.empty])

theorem fencesCarried_removed (h : Free (s.slots target)) :
    FencesCarried C others files s files' (s.setSlot target none) where
  resolutions := rfl
  slots f := by
    by_cases htarget : f.toMainBound = target
    · cases hslot : s.slots target with
      | none => exact carried_assertTargetFence f (by rw [htarget, Disk.setSlot_self, hslot]) rfl
      | some dir =>
        rw [hslot] at h
        obtain rfl := h.vacant
        intro w x files₁ w₁ hw he _
        have hfails : (assertTargetFence C f).Fails (timely others) Prod.fst Still files s :=
          fails_assertTargetFence (by rw [htarget, hslot])
        obtain ⟨⟨e, w', -, hplay⟩, -⟩ := hfails w hw
        cases hplay.symm.trans he
    · exact carried_assertTargetFence f (Disk.setSlot_ne _ htarget) rfl

/-! ## Recording an intent -/

variable {policyEpoch : Option D}

theorem gives_readIntent_none (h : files (.intent d) = .absent) :
    ((readers C policyEpoch).intent d).Gives (timely others) Prod.fst files s none :=
  Prog.Gives.read (r := .missing) (by rw [h]; rfl) Prog.gives_done

theorem gives_readIntent_some (hfile : files (.intent (i.digest C)) = .bound i)
    (hv : (validateIntent C policyEpoch (.over C (readIntentN C policyEpoch 5)) i).Gives (timely others) Prod.fst files s ())
    (hid : (assertStageIdentity i).Gives (timely others) Prod.fst files s ()) :
    ((readers C policyEpoch).intent (i.digest C)).Gives (timely others) Prod.fst files s (some i) := by
  refine Prog.Gives.read (r := .found i) (by rw [hfile]; rfl) ?_
  exact (Prog.Gives.require rfl).bind (hv.bind (hid.bind Prog.gives_done))

theorem gives_readReceipt_none (h : files (.receiptIdentity d) = .absent) :
    (readReceiptForIntent C policyEpoch d).Gives (timely others) Prod.fst files s none :=
  Prog.Gives.read (r := .missing) (by rw [h]; rfl) Prog.gives_done

theorem gives_matchIdentity {missing otherOperation differs : String} :
    (matchIdentity missing otherOperation differs i (.found i)).Gives (timely others) Prod.fst files s () :=
  (Prog.Gives.require rfl).bind (Prog.Gives.require rfl)

theorem gives_assertStageIdentity (hstage : files (.stageIdentity i.externalIdentity) = .bound i)
    (hoperation : files (.operationStage i.operationId i.stage) = .bound i)
    (hobject : files i.externalObject = .bound i) :
    (assertStageIdentity i).Gives (timely others) Prod.fst files s () := by
  refine Prog.Gives.bind (x := ()) ?_ (Prog.Gives.bind (x := ()) ?_ ?_)
  · exact Prog.Gives.read (r := .found i) (by rw [hstage]; rfl) gives_matchIdentity
  · exact Prog.Gives.read (r := .found i) (by rw [hoperation]; rfl) gives_matchIdentity
  · exact Prog.Gives.read (r := .found i) (by rw [hobject]; rfl) gives_matchIdentity

theorem fails_assertStageIdentity (hstage : files (.stageIdentity i.externalIdentity) = .bound i)
    (hoperation : files (.operationStage i.operationId i.stage) = .bound i) (hobject : files i.externalObject = .absent) :
    (assertStageIdentity i).Fails (timely others) Prod.fst Still files s := by
  refine Prog.Gives.fails (x := ()) ?_ ⟨trivial, still_matchIdentity⟩ (Prog.Gives.fails (x := ()) ?_ ⟨trivial, still_matchIdentity⟩ ?_)
  · exact Prog.Gives.read (r := .found i) (by rw [hstage]; rfl) gives_matchIdentity
  · exact Prog.Gives.read (r := .found i) (by rw [hoperation]; rfl) gives_matchIdentity
  · exact Prog.Fails.read (r := .missing) trivial (by rw [hobject]; rfl) Prog.fails_raise

def withStage (files : Disc D) (i : Intent D) : Disc D := files.put (.stageIdentity i.externalIdentity) (.bound i)

def withOperation (files : Disc D) (i : Intent D) : Disc D :=
  (withStage files i).put (.operationStage i.operationId i.stage) (.bound i)

def withObject (files : Disc D) (i : Intent D) : Disc D := (withOperation files i).put i.externalObject (.bound i)

def withIntent (C : Canon D) (files : Disc D) (i : Intent D) : Disc D := (withObject files i).put (.intent (i.digest C)) (.bound i)

theorem withStage_operation (i : Intent D) :
    withStage files i (.operationStage i.operationId i.stage) = files (.operationStage i.operationId i.stage) :=
  Files.put_ne _ _ (by simp)

theorem withOperation_object (i : Intent D) : withOperation files i i.externalObject = files i.externalObject := by
  unfold withOperation withStage
  rw [Files.put_ne _ _ (by simp [Intent.externalObject]), Files.put_ne _ _ (by simp [Intent.externalObject])]

theorem withObject_ne (i : Intent D) (hstage : k ≠ .stageIdentity i.externalIdentity)
    (hoperation : k ≠ .operationStage i.operationId i.stage) (hobject : k ≠ i.externalObject) :
    withObject files i k = files k := by
  unfold withObject withOperation withStage
  rw [Files.put_ne _ _ hobject, Files.put_ne _ _ hoperation, Files.put_ne _ _ hstage]

theorem withObject_intent (i : Intent D) (d : D) : withObject files i (.intent d) = files (.intent d) :=
  withObject_ne i (by simp) (by simp) (by simp [Intent.externalObject])

theorem withIntent_intent (i : Intent D) : withIntent C files i (.intent (i.digest C)) = .bound i := Files.put_self _ _ _

theorem withIntent_operation (i : Intent D) : withIntent C files i (.operationStage i.operationId i.stage) = .bound i := by
  unfold withIntent withObject withOperation
  rw [Files.put_ne _ _ (by simp), Files.put_ne _ _ (by simp [Intent.externalObject]), Files.put_self]

theorem withObject_stage (i : Intent D) : withObject files i (.stageIdentity i.externalIdentity) = .bound i := by
  unfold withObject withOperation withStage
  rw [Files.put_ne _ _ (by simp [Intent.externalObject]), Files.put_ne _ _ (by simp), Files.put_self]

theorem withObject_operation (i : Intent D) : withObject files i (.operationStage i.operationId i.stage) = .bound i := by
  unfold withObject withOperation
  rw [Files.put_ne _ _ (by simp [Intent.externalObject]), Files.put_self]

theorem withObject_object (i : Intent D) : withObject files i i.externalObject = .bound i := Files.put_self _ _ _

theorem withIntent_stage (i : Intent D) : withIntent C files i (.stageIdentity i.externalIdentity) = .bound i :=
  (Files.put_ne _ _ (by simp)).trans (withObject_stage i)

theorem withIntent_object (i : Intent D) : withIntent C files i i.externalObject = .bound i :=
  (Files.put_ne _ _ (by simp [Intent.externalObject])).trans (withObject_object i)

theorem withIntent_withStage (i : Intent D) : withIntent C (withStage files i) i = withIntent C files i := by
  have h : withStage (withStage files i) i = withStage files i := Files.put_bound (Files.put_self _ _ _)
  unfold withIntent withObject withOperation
  rw [h]

theorem withIntent_withObject (i : Intent D) : withIntent C (withObject files i) i = withIntent C files i := by
  have hstage : withStage (withObject files i) i = withObject files i := Files.put_bound (withObject_stage i)
  have hoperation : withOperation (withObject files i) i = withObject files i := by
    rw [withOperation, hstage]
    exact Files.put_bound (withObject_operation i)
  have hobject : withObject (withObject files i) i = withObject files i := by
    rw [withObject, hoperation]
    exact Files.put_bound (withObject_object i)
  rw [withIntent, hobject, withIntent]

/-- Each file of the intent is missing or holds it. -/
structure PartlyIn (C : Canon D) (files : Disc D) (i : Intent D) : Prop where
  stage : files (.stageIdentity i.externalIdentity) = .absent ∨ files (.stageIdentity i.externalIdentity) = .bound i
  operation : files (.operationStage i.operationId i.stage) = .absent ∨ files (.operationStage i.operationId i.stage) = .bound i
  object : files i.externalObject = .absent ∨ files i.externalObject = .bound i
  index : files (.intent (i.digest C)) = .absent ∨ files (.intent (i.digest C)) = .bound i

theorem goes_recordMutationIntent (hp : PartlyIn C files i) (hreceipt : files (.receiptIdentity (i.digest C)) = .absent)
    (hstore : ∀ n, others n .install = .returned ())
    (hv : (validateIntent C policyEpoch (readers C policyEpoch) i).Gives (timely others) Prod.fst files s ())
    (htake : (takeSlot C i).Goes (timely others) Prod.fst files s () files s') :
    (recordMutationIntent C policyEpoch i).Goes (timely others) Prod.fst files s () (withIntent C files i) s' := by
  refine hv.goes.bind ((gives_install hstore).goes.bind ?_)
  refine Prog.Goes.bind ((gives_readReceipt_none hreceipt).goes.bind htake) ?_
  refine (goes_cas hp.stage).bind ((goes_cas ?_).bind ((goes_cas ?_).bind (goes_cas ?_)))
  · exact hp.operation.imp (withStage_operation i).trans (withStage_operation i).trans
  · exact hp.object.imp (withOperation_object i).trans (withOperation_object i).trans
  · exact hp.index.imp (withObject_intent i _).trans (withObject_intent i _).trans

end Journal

end Steps

end AvoCorrelate.Graduation
