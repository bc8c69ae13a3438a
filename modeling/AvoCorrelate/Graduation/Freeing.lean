import AvoCorrelate.Graduation.Chains
import AvoCorrelate.Graduation.Succession
import AvoCorrelate.Graduation.Verdicts
/-!
# A terminal receipt and the slot

`record_mutation_receipt` makes a terminal receipt durable and takes the reservation
out of the slot afterwards. Whoever comes back to the intent finds the receipt and goes
no further, so a reservation that a crash left stays.
-/
open AvoLib

namespace AvoCorrelate.Graduation

variable {D : Type} [DecidableEq D]

/-- A later call for an intent: by the coordinator, or by the executor. -/
inductive Replay (D : Type)
  | execute (executor : Executor D) (request : StageRequest D)
  | recover (executor : Executor D) (byRecord : Bool) (observation : ObservationRequest D) (original : StageRequest D)
  | effectiveResult (executor : Executor D) (byRecord : Bool) (given : Option (Receipt D))
  | recordIntent (policyEpoch : Option D)

def intentRef (C : Canon D) (i : Intent D) (byRecord : Bool) : Executor.IntentRef D :=
  if byRecord then .record i else .digest (i.digest C)

/-- The call, whatever it returns. -/
def Replay.program (C : Canon D) (i : Intent D) : Replay D → Code D Unit
  | .execute E request => do
    let _ ← Executor.execute C E i request
    return ()
  | .recover E byRecord observation original => do
    let _ ← Executor.recover C E (intentRef C i byRecord) observation original
    return ()
  | .effectiveResult E byRecord given => do
    let _ ← Executor.effectiveResult C E (intentRef C i byRecord) given
    return ()
  | .recordIntent policyEpoch => Journal.recordMutationIntent C policyEpoch i

/-- The world after calls one after the other, each of which may raise. -/
def replayed (C : Canon D) (others : Nat → (p : Port D) → p.Answer) (i : Intent D) :
    List (Replay D) → Disc D → Disk D × Nat → Disc D × (Disk D × Nat)
  | [], files, w => (files, w)
  | replay :: rest, files, w =>
    let left := (replay.program C i).play (timely others) files w
    replayed C others i rest left.files left.state

/-- The intent is durable with its identities, and its receipt is terminal. -/
structure Finished (C : Canon D) (files : Disc D) (i : Intent D) (r : Receipt D) : Prop where
  stage : files (.stageIdentity i.externalIdentity) = .bound i
  operation : files (.operationStage i.operationId i.stage) = .bound i
  object : files i.externalObject = .bound i
  intent : files (.intent (i.digest C)) = .bound i
  receipt : files (.receiptIdentity (i.digest C)) = .bound r
  terminal : r.outcome.terminal = true

section Replays
variable {others : Nat → (p : Port D) → p.Answer} {files : Disc D} {s : Disk D} {C : Canon D} {policyEpoch : Option D}
  {i : Intent D} {r : Receipt D}

theorem yield_readReceiptForIntent {d : D} {x : Option (Receipt D)} (hfile : files (.receiptIdentity d) = .bound r)
    (h : Yield others files s (Journal.readReceiptForIntent C policyEpoch d) x) : x = some r := by
  have h := Prog.Yields.read_inv h
  rw [hfile] at h
  obtain ⟨-, h⟩ := yield_require h
  obtain ⟨i, _, h⟩ := yield_bind (Journal.still_sourceIntent Journal.still_readers.intent r) h
  obtain ⟨_, _, h⟩ := yield_bind (Journal.still_verifyMutationReceipt r i) h
  exact Prog.Yields.done_inv h

omit [DecidableEq D] in
theorem intentRef_expected (byRecord : Bool) : (intentRef C i byRecord).expected C = i.digest C := by
  cases byRecord <;> rfl

theorem keeps_still {α : Type} {p : Code D α} (hd : p.Does Still) : p.Keeps (timely others) Prod.fst files s := hd.keeps idle_still

theorem keeps_execute (hf : Finished C files i r) (E : Executor D) (request : StageRequest D) :
    (Executor.execute C E i request).Keeps (timely others) Prod.fst files s := by
  refine (keeps_still (Executor.still_checkRequest E i request)).bind fun _ _ => ?_
  refine (keeps_still (Journal.still_readReceiptForIntent _)).bind fun x hx => ?_
  obtain rfl := yield_readReceiptForIntent hf.receipt hx
  exact keeps_still (Prog.Does.require_bind fun _ => trivial)

theorem keeps_recover (hf : Finished C files i r) (E : Executor D) {ref : Executor.IntentRef D} (href : ref.expected C = i.digest C)
    (observation : ObservationRequest D) (original : StageRequest D) :
    (Executor.recover C E ref observation original).Keeps (timely others) Prod.fst files s := by
  unfold Executor.recover
  rw [href]
  refine (keeps_still (Journal.still_readers.intent _)).bind fun x hx => ?_
  refine (keeps_still Prog.Does.ofOption).bind fun i' hi' => ?_
  have hdurable : i' = i := by
    obtain rfl := hi'.ofOption_inv
    have hfile := (Journal.yield_readIntentN hx).1
    cases hf.intent.symm.trans hfile
    rfl
  subst hdurable
  refine (keeps_still Prog.Does.require).bind fun _ _ => (keeps_still (Executor.still_checkRequest E i' original)).bind fun _ _ => ?_
  refine (keeps_still (Executor.still_checkObservationRequest E i' observation original)).bind fun _ _ => ?_
  refine (keeps_still (Journal.still_readResolutionByIntent _)).bind fun q _ => ?_
  cases q with
  | some q => exact keeps_still (Executor.still_recoverResolved E i' q)
  | none =>
    refine Prog.Keeps.bind (p := Executor.recoverReceipt C E i') ?_ fun r' hr' => ?_
    · refine (keeps_still (Journal.still_readReceiptForIntent _)).bind fun x hx => ?_
      obtain rfl := yield_readReceiptForIntent hf.receipt hx
      exact keeps_still trivial
    · obtain ⟨x, hx, h⟩ := yield_bind (Journal.still_readReceiptForIntent _) hr'
      obtain rfl := yield_readReceiptForIntent hf.receipt hx
      obtain rfl := Prog.Yields.done_inv h
      refine (keeps_still Prog.Does.require).bind fun _ _ => ?_
      rw [if_pos hf.terminal]
      exact keeps_still trivial

theorem still_effectiveResult (E : Executor D) (ref : Executor.IntentRef D) (given : Option (Receipt D)) :
    (Executor.effectiveResult C E ref given).Does Still := by
  refine (Journal.still_readers.intent _).bind fun _ => Prog.Does.ofOption_bind fun i => ?_
  refine Prog.Does.require_bind fun _ => (Journal.still_readReceiptForIntent _).bind fun _ => ?_
  refine Prog.Does.ofOption_bind fun r => Prog.Does.require_bind fun _ => ?_
  refine Prog.Does.require_bind fun _ => (Executor.still_verifyReceiptAuthority r i).bind fun _ => ?_
  refine (Journal.still_readResolutionByIntent _).bind fun q => ?_
  cases q with
  | none => trivial
  | some q =>
    refine Prog.Does.require_bind fun _ => Prog.Does.bind ?_ fun _ => Prog.Does.bind ?_ fun _ => trivial
    · exact Prog.Does.require_bind fun _ => Prog.Does.require
    · exact Prog.Does.require_bind fun _ => Prog.Does.require

theorem keeps_cas {description conflicting : String} {k : Key D} {v : Rec k} (h : files k = .bound v) :
    (Journal.cas description conflicting k v).Keeps (timely others) Prod.fst files s := by
  have hgoes : (Journal.cas description conflicting k v).Goes (timely others) Prod.fst files s () (files.put k (.bound v)) s :=
    Journal.goes_cas (.inr h)
  rw [Files.put_bound h] at hgoes
  exact Prog.Gives.keeps hgoes

theorem keeps_recordIntent (hf : Finished C files i r) (policyEpoch : Option D) :
    (Journal.recordMutationIntent C policyEpoch i).Keeps (timely others) Prod.fst files s := by
  refine (keeps_still (Journal.still_validateIntent Journal.still_readers i)).bind fun _ _ => ?_
  refine (keeps_still (p := Journal.install) ⟨trivial, still_orRaise⟩).bind fun _ _ => ?_
  refine Prog.Keeps.bind ?_ fun _ _ => ?_
  · refine (keeps_still (Journal.still_readReceiptForIntent _)).bind fun x hx => ?_
    obtain rfl := yield_readReceiptForIntent hf.receipt hx
    simp only [hf.terminal, if_true]
    exact keeps_still ((Journal.still_readers.intent _).bind fun _ => Prog.Does.require)
  · refine (keeps_cas hf.stage).bind fun _ _ => (keeps_cas hf.operation).bind fun _ _ => ?_
    exact (keeps_cas hf.object).bind fun _ _ => keeps_cas hf.intent

theorem keeps_replay (hf : Finished C files i r) (replay : Replay D) :
    (replay.program C i).Keeps (timely others) Prod.fst files s := by
  have hdone : ∀ {α : Type} (x : α), ((fun _ => pure ()) x : Code D Unit).Keeps (timely others) Prod.fst files s :=
    fun _ => keeps_still trivial
  cases replay with
  | execute E request => exact (keeps_execute hf E request).bind fun x _ => hdone x
  | recover E byRecord observation original =>
    exact (keeps_recover hf E (intentRef_expected byRecord) observation original).bind fun x _ => hdone x
  | effectiveResult E byRecord given => exact (keeps_still (still_effectiveResult E _ given)).bind fun x _ => hdone x
  | recordIntent policyEpoch => exact keeps_recordIntent hf policyEpoch

theorem replayed_eq (hf : Finished C files i r) (replays : List (Replay D)) (w : Disk D × Nat) (hw : w.1 = s) :
    ∃ w', w'.1 = s ∧ replayed C others i replays files w = (files, w') := by
  induction replays generalizing w with
  | nil => exact ⟨w, hw, rfl⟩
  | cons replay rest ih =>
    have hkeeps : (replay.program C i).Keeps (timely others) Prod.fst files s := keeps_replay hf replay
    obtain ⟨hfiles, hstate⟩ := hkeeps w hw
    unfold replayed
    simp only [hfiles]
    exact ih _ hstate

end Replays

/-! ## Where the recording of a receipt can stop -/

/-- The intent is durable and in the slot, and this is to be its terminal receipt. -/
structure Executed (C : Canon D) (files : Disc D) (s : Disk D) (i : Intent D) (r : Receipt D) : Prop where
  stage : files (.stageIdentity i.externalIdentity) = .bound i
  operation : files (.operationStage i.operationId i.stage) = .bound i
  object : files i.externalObject = .bound i
  intent : files (.intent (i.digest C)) = .bound i
  unreceipted : files (.receiptIdentity (i.digest C)) = .absent
  unindexed : files (.receipt (r.digest C)) = .absent
  slot : s.slots i.toMainBound = some ⟨some i, none⟩
  source : r.intentDigest = i.digest C
  terminal : r.outcome.terminal = true

def withReceiptIdentity (files : Disc D) (r : Receipt D) : Disc D := files.put (.receiptIdentity r.intentDigest) (.bound r)

def withReceipt (C : Canon D) (files : Disc D) (r : Receipt D) : Disc D :=
  (withReceiptIdentity files r).put (.receipt (r.digest C)) (.bound r)

/-- The worlds between the durable receipt and the end of its recording. -/
inductive Halfway (C : Canon D) (files : Disc D) (s : Disk D) (i : Intent D) (r : Receipt D) : Disc D → Disk D → Prop
  | identity : Halfway C files s i r (withReceiptIdentity files r) s
  | receipt : Halfway C files s i r (withReceipt C files r) s
  | unlinked : Halfway C files s i r (withReceipt C files r) (s.setSlot i.toMainBound (some .empty))

section Stopping
variable {others : Nat → (p : Port D) → p.Answer} {files files₁ : Disc D} {s s₁ : Disk D} {C : Canon D}
  {policyEpoch : Option D} {i j : Intent D} {r : Receipt D} {w : Disk D × Nat}

theorem halfway_of_passes_close (htarget : r.toMainBound = i.toMainBound) (hslot : s.slots i.toMainBound = some ⟨some i, none⟩)
    (hw : w.1 = s) (h : (Journal.closeTargetReservationIfTerminal C policyEpoch r).Passes (timely others) Prod.fst files₁ w files s₁) :
    files = files₁ ∧ (s₁ = s ∨ s₁ = s.setSlot i.toMainBound (some .empty)) := by
  unfold Journal.closeTargetReservationIfTerminal at h
  rw [htarget] at h
  have hlook : (Journal.look i.toMainBound).Gives (timely others) Prod.fst files₁ s (some ⟨some i, none⟩) := gives_look_of hslot
  obtain ⟨rfl, rfl⟩ | ⟨w, hw, h⟩ := hlook.passes (Journal.still_look _) idle_still hw h
  · exact ⟨rfl, .inl rfl⟩
  obtain ⟨rfl, rfl⟩ | ⟨x, w, hw, _, h⟩ := (Journal.still_lookReservation _).passes_bind idle_still hw h
  · exact ⟨rfl, .inl rfl⟩
  obtain ⟨rfl, rfl⟩ | ⟨_, w, hw, _, h⟩ := Prog.Does.require.passes_bind idle_still hw h
  · exact ⟨rfl, .inl rfl⟩
  obtain ⟨rfl, rfl⟩ | ⟨i', w, hw, _, h⟩ := (Journal.still_sourceIntent Journal.still_readers.intent r).passes_bind idle_still hw h
  · exact ⟨rfl, .inl rfl⟩
  obtain ⟨rfl, rfl⟩ | ⟨_, w, hw, _, h⟩ := (Journal.still_verifyMutationReceipt r i').passes_bind idle_still hw h
  · exact ⟨rfl, .inl rfl⟩
  have hunlink : ∀ others, faultless others s (.unlinkReservation i.toMainBound) = .removed := fun _ => by simp only [faultless, hslot]
  have hunlinked : disk (.unlinkReservation i.toMainBound) .removed s = some (s.setSlot i.toMainBound (some .empty)) := by
    simp only [disk, hslot, Dir.empty]
  obtain ⟨rfl, rfl⟩ | ⟨w, hw, h⟩ := passes_step hunlink hunlinked hw h
  · exact ⟨rfl, .inl rfl⟩
  have hempty : (s.setSlot i.toMainBound (some .empty)).slots i.toMainBound = some .empty := Disk.setSlot_self _
  obtain ⟨rfl, rfl⟩ | ⟨w, hw, h⟩ := (gives_look_of hempty).passes (Journal.still_look _) idle_still hw h
  · exact ⟨rfl, .inr rfl⟩
  obtain ⟨rfl, rfl⟩ | ⟨w, hw, h⟩ := passes_step (fun others => (Journal.removes others hempty).1) (Journal.removes (others 0) hempty).2 hw h
  · exact ⟨rfl, .inr rfl⟩
  exact h.elim

theorem Executed.withReceiptIdentity_ne (hx : Executed C files s i r) {k : Key D} (hk : k ≠ .receiptIdentity (i.digest C)) :
    withReceiptIdentity files r k = files k := by
  unfold withReceiptIdentity
  rw [hx.source]
  exact Files.put_ne _ _ hk

theorem Executed.withReceipt_ne (hx : Executed C files s i r) {k : Key D} (hk : k ≠ .receiptIdentity (i.digest C))
    (hk' : k ≠ .receipt (r.digest C)) : withReceipt C files r k = files k :=
  (Files.put_ne _ _ hk').trans (hx.withReceiptIdentity_ne hk)

theorem Executed.finished (hx : Executed C files s i r) (h : Halfway C files s i r files₁ s₁) : Finished C files₁ i r := by
  have hidentity : withReceiptIdentity files r (.receiptIdentity (i.digest C)) = .bound r := by
    unfold withReceiptIdentity
    rw [hx.source]
    exact Files.put_self _ _ _
  have hfinished : Finished C (withReceipt C files r) i r := by
    refine ⟨?_, ?_, ?_, ?_, (Files.put_ne _ _ (by simp)).trans hidentity, hx.terminal⟩
    · exact (hx.withReceipt_ne (by simp) (by simp)).trans hx.stage
    · exact (hx.withReceipt_ne (by simp) (by simp)).trans hx.operation
    · exact (hx.withReceipt_ne (by simp [Intent.externalObject]) (by simp [Intent.externalObject])).trans hx.object
    · exact (hx.withReceipt_ne (by simp) (by simp)).trans hx.intent
  cases h with
  | identity =>
    refine ⟨?_, ?_, ?_, ?_, hidentity, hx.terminal⟩
    · exact (hx.withReceiptIdentity_ne (by simp)).trans hx.stage
    · exact (hx.withReceiptIdentity_ne (by simp)).trans hx.operation
    · exact (hx.withReceiptIdentity_ne (by simp [Intent.externalObject])).trans hx.object
    · exact (hx.withReceiptIdentity_ne (by simp)).trans hx.intent
  | receipt => exact hfinished
  | unlinked => exact hfinished

theorem halfway_of_passes (hx : Executed C files s i r) (hw : w.1 = s)
    (h : (Journal.recordMutationReceipt C policyEpoch r).Passes (timely others) Prod.fst files w files₁ s₁)
    (hdurable : files₁ (.receiptIdentity (i.digest C)) = .bound r) : Halfway C files s i r files₁ s₁ := by
  have hbefore : ∀ {P : Prop}, files₁ = files ∧ s₁ = s → P := by
    rintro P ⟨rfl, -⟩
    cases hx.unreceipted.symm.trans hdurable
  obtain hsame | ⟨⟨⟩, w, hw, hv, h⟩ :=
    (Journal.still_validateReceipt Journal.still_readers.intent r).passes_bind idle_still hw h
  · exact hbefore hsame
  have htarget : r.toMainBound = i.toMainBound := by
    obtain ⟨i', hi', -, hmutation⟩ := Journal.yield_validateReceipt Journal.still_readers.intent hv
    have hfile := (Journal.yield_readIntentN hi').1
    rw [hx.source] at hfile
    cases hx.intent.symm.trans hfile
    exact (Journal.SameMutation.target hmutation).symm
  obtain hsame | ⟨i', w, hw, _, h⟩ := (Journal.still_sourceIntent Journal.still_readers.intent r).passes_bind idle_still hw h
  · exact hbefore hsame
  obtain hsame | ⟨_, w, hw, _, h⟩ := (Journal.still_verifyMutationReceipt r i').passes_bind idle_still hw h
  · exact hbefore hsame
  have hinstall : (Journal.install : Code D Unit).Does Still := ⟨trivial, still_orRaise⟩
  obtain hsame | ⟨_, w, hw, _, h⟩ := hinstall.passes_bind idle_still hw h
  · exact hbefore hsame
  have habsent : files (.receiptIdentity r.intentDigest) = .absent := by rw [hx.source]; exact hx.unreceipted
  obtain h | ⟨w, hw, h⟩ := (Journal.goes_cas (.inl habsent)).passes hw h
  · obtain ⟨rfl, rfl⟩ := Journal.passes_cas habsent h
    exact hbefore ⟨rfl, hw⟩
  have hunindexed : withReceiptIdentity files r (.receipt (r.digest C)) = .absent :=
    (hx.withReceiptIdentity_ne (by simp)).trans hx.unindexed
  obtain h | ⟨w, hw, h⟩ := (Journal.goes_cas (.inl hunindexed)).passes hw h
  · obtain ⟨rfl, rfl⟩ := Journal.passes_cas hunindexed h
    rw [hw]
    exact .identity
  rw [if_pos hx.terminal] at h
  obtain ⟨rfl, rfl | rfl⟩ := halfway_of_passes_close htarget hx.slot hw h
  · exact .receipt
  · exact .unlinked

/-! ## The next intent -/

theorem recorded_inv (hl : Lasting others) (hw : w.1 = s) (hnew : files (.receiptIdentity (j.digest C)) = .absent)
    (h : ((Journal.recordMutationIntent C policyEpoch j).play (timely others) files w).outcome = .ok ()) :
    Yield others files s (Journal.validateIntent C policyEpoch (Journal.readers C policyEpoch) j) () ∧
      others 0 .install = .returned () ∧
      ∃ w₁ files' w', w₁.1 = s ∧ (Journal.takeSlot C j).play (timely others) files w₁ = ⟨.ok (), files', w'⟩ := by
  cases hplay : (Journal.recordMutationIntent C policyEpoch j).play (timely others) files w with
  | mk outcome files' w' =>
    rw [hplay] at h
    obtain rfl : outcome = .ok () := h
    obtain ⟨⟨⟩, w₁, hw₁, hv, h₁⟩ := played_bind (Journal.still_validateIntent Journal.still_readers j) hw hplay
    have hinstall : (Journal.install : Code D Unit).Does Still := ⟨trivial, still_orRaise⟩
    obtain ⟨⟨⟩, w₂, hw₂, hstore, h₂⟩ := played_bind hinstall hw₁ h₁
    obtain ⟨⟨⟩, files₃, w₃, h₃, _⟩ := Prog.play_bind_inv h₂
    obtain ⟨x, w₄, hw₄, hx, h₄⟩ := played_bind (Journal.still_readReceiptForIntent _) hw₂ h₃
    obtain rfl := (Journal.gives_readReceipt_none hnew).eq_of_yields hx
    exact ⟨hv, yield_orRaise (yield_lasting hl rfl hstore), w₄, files₃, w₃, hw₄, h₄⟩

theorem not_recorded_reserved (hl : Lasting others) (hw : w.1 = s) (hnew : files (.receiptIdentity (j.digest C)) = .absent)
    (hslot : s.slots j.toMainBound = some ⟨some i, none⟩) (hij : i ≠ j) :
    ((Journal.recordMutationIntent C policyEpoch j).play (timely others) files w).outcome ≠ .ok () := by
  intro h
  obtain ⟨-, -, w₁, files', w', hw₁, htake⟩ := recorded_inv hl hw hnew h
  have hfails : (Journal.takeSlot C j).Fails (timely others) Prod.fst Still files s := Journal.fails_takeSlot hslot hij
  obtain ⟨⟨e, w₂, -, hplay⟩, -⟩ := hfails w₁ hw₁
  cases hplay.symm.trans htake

theorem recorded_empty_iff (hl : Lasting others) (hw : w.1 = s.setSlot j.toMainBound (some .empty))
    (hnew : files (.receiptIdentity (j.digest C)) = .absent) (hpartly : Journal.PartlyIn C files j)
    (hclean : ∃ n, ((Journal.recordMutationIntent C policyEpoch j).play (timely others) files
      (s.setSlot j.toMainBound none, n)).outcome = .ok ()) :
    ((Journal.recordMutationIntent C policyEpoch j).play (timely others) files w).outcome = .ok () ↔
      ¬ (Journal.Graduating others j.operationId ∧ Journal.RestsOnFence files j) := by
  have hempty : (s.setSlot j.toMainBound (some .empty)).slots j.toMainBound = some .empty := Disk.setSlot_self _
  constructor
  · rintro h ⟨hg, hrests⟩
    obtain ⟨hv, -⟩ := recorded_inv hl hw hnew h
    exact Journal.not_yield_fenced hl hrests hempty (.beyond 6) hg hv
  · intro hfine
    obtain ⟨n, hclean⟩ := hclean
    obtain ⟨hv, hstore, -⟩ := recorded_inv hl rfl hnew hclean
    have hchain : (Journal.validateIntent C policyEpoch (Journal.readers C policyEpoch) j).Gives (timely others) Prod.fst files
        (s.setSlot j.toMainBound (some .empty)) () := by
      by_cases hg : Journal.Graduating others j.operationId
      · have hchains : Journal.ChainsCarried C others files (s.setSlot j.toMainBound none) files
            (s.setSlot j.toMainBound (some .empty)) fun i => ¬ Journal.RestsOnFence files i :=
          ⟨fun hi hd hp h => hi (.parent hd hp h), fun hi hq => absurd (.resolution hq) hi⟩
        exact Journal.gives_of_yield hv (Journal.carried_validate hl (fun _ _ h => h) hchains fun h => hfine ⟨hg, h⟩)
      · exact Journal.gives_validate_rollback hl hg hv
    have hfree : Journal.Free ((s.setSlot j.toMainBound (some .empty)).slots j.toMainBound) := Or.inr (by rw [hempty]; rfl)
    obtain ⟨w', -, hplay⟩ := Journal.goes_recordMutationIntent hpartly hnew (fun n => (hl n 0 _ rfl).trans hstore) hchain
      (Journal.goes_takeSlot hfree) w hw
    rw [hplay]

/-- However often the stage is replayed, a later intent of the target, which could be
recorded if the slot were gone, is recorded exactly when the crash came after the
reservation was taken out of the slot and its chain rests on no fence. -/
theorem terminal_receipt_frees (hl : Lasting others) (hx : Executed C files s i r) {n₀ : Nat}
    (hcrash : (Journal.recordMutationReceipt C policyEpoch r).Passes (timely others) Prod.fst files (s, n₀) files₁ s₁)
    (hdurable : files₁ (.receiptIdentity (i.digest C)) = .bound r) (hij : i ≠ j) (htarget : j.toMainBound = i.toMainBound)
    (hnew : files (.receiptIdentity (j.digest C)) = .absent) (hpartly : Journal.PartlyIn C files j) {policyEpoch' : Option D}
    (hclean : ∃ n, ((Journal.recordMutationIntent C policyEpoch' j).play (timely others) (withReceipt C files r)
      (s.setSlot i.toMainBound none, n)).outcome = .ok ()) (replays : List (Replay D)) (n : Nat) :
    ((Journal.recordMutationIntent C policyEpoch' j).play (timely others) (replayed C others i replays files₁ (s₁, n)).1
      (replayed C others i replays files₁ (s₁, n)).2).outcome = .ok () ↔
    Journal.hasReservation (s₁.slots i.toMainBound) = false ∧
      ¬ (Journal.Graduating others j.operationId ∧ Journal.RestsOnFence files₁ j) := by
  have hhalf := halfway_of_passes hx rfl hcrash hdurable
  obtain ⟨w, hw, hreplayed⟩ : ∃ w, w.1 = s₁ ∧ replayed C others i replays files₁ (s₁, n) = (files₁, w) :=
    replayed_eq (hx.finished hhalf) replays (s₁, n) rfl
  rw [hreplayed]
  have hne : (.receiptIdentity (j.digest C) : Key D) ≠ .receiptIdentity (i.digest C) := by
    intro h
    injection h with h
    exact hij (Intent.ext_body (IntentBody.digest_inj C h).symm)
  have hreserved : Journal.hasReservation (s.slots i.toMainBound) = true := by rw [hx.slot]; rfl
  have hslot : s.slots j.toMainBound = some ⟨some i, none⟩ := by rw [htarget]; exact hx.slot
  cases hhalf with
  | identity =>
    refine iff_of_false (not_recorded_reserved hl hw ((hx.withReceiptIdentity_ne hne).trans hnew) hslot hij) fun h => ?_
    cases hreserved.symm.trans h.1
  | receipt =>
    refine iff_of_false (not_recorded_reserved hl hw ((hx.withReceipt_ne hne (by simp)).trans hnew) hslot hij) fun h => ?_
    cases hreserved.symm.trans h.1
  | unlinked =>
    have hnew' := (hx.withReceipt_ne hne (by simp)).trans hnew
    have hpartly' : Journal.PartlyIn C (withReceipt C files r) j := by
      constructor
      · rw [hx.withReceipt_ne (by simp) (by simp)]; exact hpartly.stage
      · rw [hx.withReceipt_ne (by simp) (by simp)]; exact hpartly.operation
      · rw [hx.withReceipt_ne (by simp [Intent.externalObject]) (by simp [Intent.externalObject])]; exact hpartly.object
      · rw [hx.withReceipt_ne (by simp) (by simp)]; exact hpartly.index
    rw [← htarget] at hw hclean ⊢
    rw [recorded_empty_iff hl hw hnew' hpartly' hclean, Disk.setSlot_self]
    exact ⟨fun h => ⟨rfl, h⟩, fun h => h.2⟩

end Stopping

namespace Sample

def standing (_ : Nat) : (p : Port Form) → p.Answer := others false 1

theorem standing_lasting : Lasting standing := fun _ _ _ _ => rfl

/-- The first stage was dispatched: its intent is durable and in the slot. -/
def dispatchedFiles : Disc Form := Journal.withIntent Form.canon (fun _ => .absent) (intent 1)

def dispatchedDisk : Disk Form := Disk.empty.setSlot target (some ⟨some (intent 1), none⟩)

theorem dispatched_executed : Executed Form.canon dispatchedFiles dispatchedDisk (intent 1) receipt where
  stage := Journal.withIntent_stage _
  operation := Journal.withIntent_operation _
  object := Journal.withIntent_object _
  intent := Journal.withIntent_intent _
  unreceipted := rfl
  unindexed := rfl
  slot := Disk.setSlot_self _
  source := rfl
  terminal := rfl

def receiptedFiles : Disc Form := withReceipt Form.canon dispatchedFiles receipt

theorem stopped_reserved : (Journal.recordMutationReceipt Form.canon none receipt).Passes (timely standing) Prod.fst dispatchedFiles
    (dispatchedDisk, 0) receiptedFiles dispatchedDisk :=
  Prog.meets_walk (n := 37) rfl ⟨rfl, rfl⟩

theorem stopped_empty : (Journal.recordMutationReceipt Form.canon none receipt).Passes (timely standing) Prod.fst dispatchedFiles
    (dispatchedDisk, 0) receiptedFiles (dispatchedDisk.setSlot target (some .empty)) :=
  Prog.meets_walk (n := 39) rfl ⟨rfl, rfl⟩

/-- The stage is replayed in every way. -/
def replays : List (Replay Form) :=
  [.execute executor publication, .recover executor true observation publication, .effectiveResult executor true none, .recordIntent none]

/-- What recording the next stage raises after that. -/
def nextStage (s : Disk Form) : Option Exc :=
  let left := replayed Form.canon standing (intent 1) replays receiptedFiles (s, 0)
  match ((Journal.recordMutationIntent Form.canon none successor).play (timely standing) left.1 left.2).outcome with
  | .error e => some e
  | .ok _ => none

theorem nextStage_reserved : nextStage dispatchedDisk = some (.conflict "target mutation reservation differs") := by
  decide +kernel

theorem receipted : Finished Form.canon receiptedFiles (intent 1) receipt := dispatched_executed.finished .receipt

theorem successor_clean : ((Journal.recordMutationIntent Form.canon none successor).play (timely standing)
    (withReceipt Form.canon dispatchedFiles receipt) (dispatchedDisk.setSlot (intent 1).toMainBound none, 0)).outcome = .ok () := by
  decide +kernel

theorem successor_unfenced (files : Disc Form) (hfile : files (.intent ((intent 1).digest Form.canon)) = .bound (intent 1)) :
    ¬ Journal.RestsOnFence files successor := by
  intro h
  cases h with
  | resolution hq => cases hq
  | parent hd hp h =>
    cases hd
    cases hfile.symm.trans hp
    cases h with
    | resolution hq => cases hq
    | parent hd _ _ => cases hd

end Sample

/-- The reservation that the crash left is in the way of the next stage, though the
stage was replayed. -/
theorem terminal_receipt_keeps_slot :
    (Journal.recordMutationReceipt Form.canon none Sample.receipt).Passes (timely Sample.standing) Prod.fst Sample.dispatchedFiles
      (Sample.dispatchedDisk, 0) Sample.receiptedFiles Sample.dispatchedDisk ∧
    Sample.receiptedFiles (.receiptIdentity ((Sample.intent 1).digest Form.canon)) = .bound Sample.receipt ∧
    Sample.nextStage Sample.dispatchedDisk = some (.conflict "target mutation reservation differs") ∧
    ((Journal.recordMutationIntent Form.canon none Sample.successor).play (timely Sample.standing)
      (withReceipt Form.canon Sample.dispatchedFiles Sample.receipt)
      (Sample.dispatchedDisk.setSlot (Sample.intent 1).toMainBound none, 0)).outcome = .ok () :=
  ⟨Sample.stopped_reserved, Sample.receipted.receipt, Sample.nextStage_reserved, Sample.successor_clean⟩

theorem terminal_receipt_frees_unlinked :
    ((Journal.recordMutationIntent Form.canon none Sample.successor).play (timely Sample.standing)
      (replayed Form.canon Sample.standing (Sample.intent 1) Sample.replays Sample.receiptedFiles
        (Sample.dispatchedDisk.setSlot Sample.target (some .empty), 0)).1
      (replayed Form.canon Sample.standing (Sample.intent 1) Sample.replays Sample.receiptedFiles
        (Sample.dispatchedDisk.setSlot Sample.target (some .empty), 0)).2).outcome = .ok () := by
  have hij : Sample.intent 1 ≠ Sample.successor := fun h => nomatch congrArg (fun i : Intent Form => i.stage) h
  have hiff := terminal_receipt_frees (j := Sample.successor) Sample.standing_lasting Sample.dispatched_executed Sample.stopped_empty
    Sample.receipted.receipt hij rfl rfl ⟨.inl rfl, .inl rfl, .inl rfl, .inl rfl⟩ ⟨0, Sample.successor_clean⟩ Sample.replays 0
  exact hiff.mpr ⟨rfl, fun h => Sample.successor_unfenced _ Sample.receipted.intent h.2⟩

end AvoCorrelate.Graduation
