import AvoCorrelate.Graduation.Reading
import AvoCorrelate.Graduation.Executor
import AvoCorrelate.Graduation.Faultless
import AvoCorrelate.Lib.Alone
/-!
# Reading in a world with more in it

A disk without faults, on which the clock moves on. What the journal's readers find on
it they still find when files were added and the slot of one target, which was free,
holds a reservation.
-/
open AvoLib

namespace AvoCorrelate.Graduation

variable {D : Type} [DecidableEq D]

/-- A disk without faults, with answers behind the other ports that may change with
time. -/
def timely (others : Nat → (p : Port D) → p.Answer) : Oracle (disk (D := D)).timed := .timed fun n => steady (others n)

/-- A port that gives one answer at all times: records of other kinds, verifiers, the
artifact store and the lease. -/
def Port.lasting : Port D → Bool
  | .leaseCurrent _ _ => true
  | .install => true
  | .preparation _ => true
  | .rollbackPreparation _ => true
  | .rollbackAuthorization _ => true
  | .rollbackIntent _ => true
  | .lease _ => true
  | .controllerConfig _ => true
  | .releaseAuthorization _ => true
  | .releaseClaim _ => true
  | .verifyReceipt _ _ => true
  | .verifyResolution _ _ => true
  | .verifyResult _ _ _ => true
  | .verifyObservation _ _ _ => true
  | _ => false

def Lasting (others : Nat → (p : Port D) → p.Answer) : Prop := ∀ n n' p, p.lasting = true → others n p = others n' p

section Disk
variable {others : Nat → (p : Port D) → p.Answer}

theorem idle_still : Prog.Idle (V := Rec (D := D)) (timely others) Prod.fst Still where
  reads _ _ h := h
  ports w q hq := by
    have hnext : (disk q (faultless (others w.2) w.1 q) w.1).getD w.1 = w.1 := by
      cases q with
      | look target => simp [faultless, disk]
      | lookClosed d => simp [faultless, disk]
      | listClosed => simp [faultless, disk]
      | readResolution d => cases h : w.1.resolution d <;> simp [faultless, disk, h]
      | listResolutions => simp [faultless, disk]
      | makeSlot | removeSlot | installReservation | linkRecord | linkReservation | unlinkReservation | closeSlot
      | publishResolution | dispatch | dispatched | observe => exact (hq : False).elim
      | _ => rfl
    exact hnext

theorem timely_lasting (hl : Lasting others) {w w' : Disk D × Nat} {q : Port D} (hq : q.lasting = true) :
    (timely others).answer w' q = (timely others).answer w q := by
  cases q <;> first | exact hl w'.2 w.2 _ hq | cases hq

end Disk

section Carrying
variable {others : Nat → (p : Port D) → p.Answer} {files files' : Disc D} {s s' : Disk D} {C : Canon D}
  {policyEpoch : Option D} {α β : Type}

/-- The program finds in the other world what it found, when that is `G`. -/
abbrev Carried (others : Nat → (p : Port D) → p.Answer) (files : Disc D) (s : Disk D) (files' : Disc D) (s' : Disk D)
    (G : α → Prop) (p : Code D α) : Prop :=
  p.Carries (timely others) Prod.fst files s files' s' G

/-- The program finds in the other world whatever it found. -/
abbrev CarriedAll (others : Nat → (p : Port D) → p.Answer) (files : Disc D) (s : Disk D) (files' : Disc D) (s' : Disk D)
    (p : Code D α) : Prop :=
  Carried others files s files' s' (fun _ => True) p

theorem carried_seq {p : Code D α} {f : α → Code D β} (hd : p.Does Still) (hp : CarriedAll others files s files' s' p)
    (hf : ∀ x, CarriedAll others files s files' s' (f x)) : CarriedAll others files s files' s' (p >>= f) :=
  hp.seq hd idle_still hf

theorem carried_some {p : Code D (Option α)} {e : Exc} {f : α → Code D β} {G : β → Prop} (hd : p.Does Still)
    (hp : Carried others files s files' s' (fun x => x.isSome = true) p) (hf : ∀ x, Carried others files s files' s' G (f x)) :
    Carried others files s files' s' G (p >>= fun x => Prog.ofOption x e >>= f) := by
  refine hp.bind hd idle_still (fun x hx => ?_) fun x hx w y files₁ w₁ he => ?_
  · obtain ⟨x, rfl⟩ := Option.isSome_iff_exists.mp hx
    exact hf x
  · cases x with
    | none => cases he
    | some x => exact absurd rfl hx

variable (hl : Lasting others)
include hl

theorem carried_lasting {q : Port D} {next : q.Answer → Code D α} {G : α → Prop} (hq : q.lasting = true)
    (hn : ∀ r, Carried others files s files' s' G (next r)) : Carried others files s files' s' G (Prog.port q next) := by
  refine Prog.Carries.port (fun w => idle_still.ports w q ?_) (fun w w' _ _ => timely_lasting hl hq) hn
  cases q <;> trivial

omit hl in
theorem carried_orRaise {G : α → Prop} (a : Answer α) : Carried others files s files' s' G (Answer.orRaise a) := by
  cases a with
  | raised message => exact Prog.carries_raise
  | returned v => exact Prog.carries_done

omit hl in
theorem carried_require {c : Prop} [Decidable c] {e : Exc} {f : Unit → Code D β}
    (hf : ∀ x, CarriedAll others files s files' s' (f x)) : CarriedAll others files s files' s' (Prog.require c e >>= f) :=
  carried_seq Prog.Does.require Prog.Carries.require hf

omit hl in
theorem carried_ofOption {o : Option α} {e : Exc} {f : α → Code D β}
    (hf : ∀ x, CarriedAll others files s files' s' (f x)) : CarriedAll others files s files' s' (Prog.ofOption o e >>= f) :=
  carried_seq Prog.Does.ofOption Prog.Carries.ofOption hf

namespace Journal

theorem carried_verifyMutationReceipt (r : Receipt D) (i : Intent D) :
    CarriedAll others files s files' s' (verifyMutationReceipt r i) := by
  refine carried_lasting hl rfl fun a => ?_
  cases a with
  | returned u => exact Prog.carries_done
  | raised message => exact Prog.carries_raise

theorem carried_verifyFenceAuthority (q : Resolution D) (r : Receipt D) :
    CarriedAll others files s files' s' (verifyFenceAuthority q r) := carried_lasting hl rfl carried_orRaise

variable (hgrows : Grows files files')
include hgrows

omit hl in
theorem carried_readIdentity {k : Key D} {next : Found (Rec k) → Code D Unit}
    (hfound : ∀ v, CarriedAll others files s files' s' (next (.found v))) (hmissing : ∃ e, next .missing = .raise e)
    (hmalformed : ∃ e, next .malformed = .raise e) : CarriedAll others files s files' s' (Prog.read k next) := by
  obtain ⟨e, he⟩ := hmissing
  obtain ⟨e', he'⟩ := hmalformed
  refine Prog.Carries.read (fun v => hgrows k v) (fun v _ => hfound v) (fun w x files₁ w₁ h => ?_) fun w x files₁ w₁ h => ?_
  · rw [he] at h; cases h
  · rw [he'] at h; cases h

omit hl in
theorem carried_assertStageIdentity (i : Intent D) : CarriedAll others files s files' s' (assertStageIdentity i) := by
  have hmatch : ∀ {missing otherOperation differs : String} (current : Intent D),
      CarriedAll others files s files' s' (matchIdentity missing otherOperation differs i (.found current)) :=
    fun current => carried_require fun _ => Prog.Carries.require
  refine carried_seq ⟨trivial, still_matchIdentity⟩ (carried_readIdentity hgrows hmatch ⟨_, rfl⟩ ⟨_, rfl⟩) fun _ => ?_
  refine carried_seq ⟨trivial, still_matchIdentity⟩ (carried_readIdentity hgrows hmatch ⟨_, rfl⟩ ⟨_, rfl⟩) fun _ => ?_
  exact carried_readIdentity hgrows hmatch ⟨_, rfl⟩ ⟨_, rfl⟩

omit hl in
theorem carried_assertReceiptIdentity (r : Receipt D) : CarriedAll others files s files' s' (assertReceiptIdentity r) := by
  refine carried_readIdentity hgrows (fun current => ?_) ⟨_, rfl⟩ ⟨_, rfl⟩
  exact carried_require fun _ => Prog.Carries.require

section Chains
variable {readIntent : D → Code D (Option (Intent D))} {readReceipt : D → Code D (Option (Receipt D))}
  {readFence : D → Code D (Option (Fence D))}

omit hl hgrows in
theorem carried_sourceIntent (hs : ∀ d, (readIntent d).Does Still) (r : Receipt D)
    (hi : Carried others files s files' s' (fun x => x.isSome = true) (readIntent r.intentDigest)) :
    CarriedAll others files s files' s' (sourceIntent C readIntent r) :=
  carried_some (hs _) hi fun _ => carried_require fun _ => Prog.carries_done

omit hl in
theorem carried_validateReceipt (hs : ∀ d, (readIntent d).Does Still) (r : Receipt D)
    (hi : Carried others files s files' s' (fun x => x.isSome = true) (readIntent r.intentDigest)) :
    CarriedAll others files s files' s' (validateReceipt readIntent r) := by
  refine carried_some (hs _) hi fun i => carried_require fun _ => ?_
  exact carried_seq (still_assertStageIdentity i) (carried_assertStageIdentity hgrows i) fun _ => Prog.Carries.require

theorem carried_readReceiptWith (hs : ∀ d, (readIntent d).Does Still) {d : D}
    (hi : ∀ r, files (.receipt d) = .bound r → r.digest C = d →
      Carried others files s files' s' (fun x => x.isSome = true) (readIntent r.intentDigest)) :
    Carried others files s files' s' (fun x => x.isSome = true) (readReceiptWith C readIntent d) := by
  refine Prog.Carries.read (fun v => hgrows _ v) (fun r hr => ?_) (fun w x files₁ w₁ h => ?_) fun w x files₁ w₁ h => ?_
  · by_cases hd : r.digest C = d
    · have hi := hi r hr hd
      refine (Prog.Carries.require (G := fun _ => True)).seq Prog.Does.require idle_still fun _ => ?_
      refine (carried_validateReceipt hgrows hs r hi).seq (still_validateReceipt hs r) idle_still fun _ => ?_
      refine (carried_assertReceiptIdentity hgrows r).seq (still_assertReceiptIdentity r) idle_still fun _ => ?_
      refine (carried_sourceIntent hs r hi).seq (still_sourceIntent hs r) idle_still fun i => ?_
      refine (carried_verifyMutationReceipt hl r i).seq (still_verifyMutationReceipt r i) idle_still fun _ => ?_
      exact Prog.carries_done
    · intro w x files₁ w₁ _ h
      rw [Prog.play_bind_error (Prog.play_require_not hd)] at h
      cases h
  · cases h; exact fun h => nomatch h
  · cases h

/-- What the checks of a fence look at besides files is found in the other world: the
slots and the resolutions. -/
structure FencesCarried (C : Canon D) (others : Nat → (p : Port D) → p.Answer) (files : Disc D) (s : Disk D) (files' : Disc D)
    (s' : Disk D) : Prop where
  slots : ∀ f, CarriedAll others files s files' s' (assertTargetFence C f)
  resolutions : s'.resolutions = s.resolutions

omit hl hgrows in
theorem carried_validateFence (hs : ∀ d, (readReceipt d).Does Still) (f : Fence D)
    (hr : ∀ d, Carried others files s files' s' (fun x => x.isSome = true) (readReceipt d)) :
    CarriedAll others files s files' s' (validateFence C readReceipt f) :=
  carried_some (hs _) (hr _) fun _ => carried_require fun _ => Prog.Carries.require

omit hl in
theorem carried_readFenceWith (hf : FencesCarried C others files s files' s') (hs : ∀ d, (readReceipt d).Does Still) (d : D)
    (hr : ∀ d, Carried others files s files' s' (fun x => x.isSome = true) (readReceipt d)) :
    Carried others files s files' s' (fun x => x.isSome = true) (readFenceWith C readReceipt d) := by
  refine Prog.Carries.read (fun v => hgrows _ v) (fun f _ => ?_) (fun w x files₁ w₁ h => ?_) fun w x files₁ w₁ h => ?_
  · refine (Prog.Carries.require (G := fun _ => True)).seq Prog.Does.require idle_still fun _ => ?_
    refine (carried_validateFence hs f hr).seq (still_validateFence hs f) idle_still fun _ => ?_
    exact (hf.slots f).seq (still_assertTargetFence f) idle_still fun _ => Prog.carries_done
  · cases h; exact fun h => nomatch h
  · cases h

omit hl hgrows in
theorem carried_validateResolution (hsf : ∀ d, (readFence d).Does Still) (hsr : ∀ d, (readReceipt d).Does Still)
    (q : Resolution D) (hf : ∀ d, Carried others files s files' s' (fun x => x.isSome = true) (readFence d))
    (hr : ∀ d, Carried others files s files' s' (fun x => x.isSome = true) (readReceipt d)) :
    CarriedAll others files s files' s' (validateResolution C readFence readReceipt q) := by
  refine carried_some (hsf _) (hf _) fun _ => carried_require fun _ => ?_
  exact carried_some (hsr _) (hr _) fun _ => Prog.Carries.require

omit hl hgrows in
theorem carried_sourceReceipt (hs : ∀ d, (readReceipt d).Does Still) (q : Resolution D)
    (hr : ∀ d, Carried others files s files' s' (fun x => x.isSome = true) (readReceipt d)) :
    CarriedAll others files s files' s' (sourceReceipt readReceipt q) := by
  refine (hr _).bind (hs _) idle_still (fun x _ => Prog.Carries.ofOption) fun x hx w y files₁ w₁ he => ?_
  cases x with
  | none => cases he
  | some r => exact absurd rfl hx

omit hl hgrows in
theorem carried_assertResolutionIdentity (hres : s'.resolutions = s.resolutions) (q : Resolution D) :
    CarriedAll others files s files' s' (assertResolutionIdentity q) := by
  refine Prog.Carries.port (fun w => idle_still.ports w _ trivial) (fun w w' hw hw' => ?_) fun found => ?_
  · have hsame : w'.1.resolution q.fenceDigest = w.1.resolution q.fenceDigest := by
      rw [hw, hw', Disk.resolution, Disk.resolution, hres]
    change faultless (others w'.2) w'.1 (.readResolution q.fenceDigest) = faultless (others w.2) w.1 (.readResolution q.fenceDigest)
    simp only [faultless, hsame]
  · cases found with
    | missing => exact Prog.carries_raise
    | malformed => exact Prog.carries_raise
    | found current => exact carried_require fun _ => Prog.Carries.require

theorem carried_readResolutionWith (hfc : FencesCarried C others files s files' s') (hsf : ∀ d, (readFence d).Does Still)
    (hsr : ∀ d, (readReceipt d).Does Still) (d : D)
    (hf : ∀ d, Carried others files s files' s' (fun x => x.isSome = true) (readFence d))
    (hr : ∀ d, Carried others files s files' s' (fun x => x.isSome = true) (readReceipt d)) :
    Carried others files s files' s' (fun x => x.isSome = true) (readResolutionWith C readFence readReceipt d) := by
  refine Prog.Carries.read (fun v => hgrows _ v) (fun q _ => ?_) (fun w x files₁ w₁ h => ?_) fun w x files₁ w₁ h => ?_
  · refine (Prog.Carries.require (G := fun _ => True)).seq Prog.Does.require idle_still fun _ => ?_
    refine (carried_validateResolution hsf hsr q hf hr).seq (still_validateResolution hsf hsr q) idle_still fun _ => ?_
    refine (carried_assertResolutionIdentity hfc.resolutions q).seq (still_assertResolutionIdentity q) idle_still fun _ => ?_
    refine (carried_sourceReceipt hsr q hr).seq (still_sourceReceipt hsr q) idle_still fun r => ?_
    exact (carried_verifyFenceAuthority hl q r).seq (still_verifyFenceAuthority q r) idle_still fun _ => Prog.carries_done
  · cases h; exact fun h => nomatch h
  · cases h

end Chains

/-! ## Intents -/

section Intents
variable {R : Readers D}

omit hgrows in
theorem carried_requireParentReceipt (hs : R.Still) (i : Intent D) (p : Receipt D)
    (hr : Carried others files s files' s' (fun x => x.isSome = true) (R.receipt (p.digest C)))
    (hi : ∀ d, i.parentIntentDigest = some d → Carried others files s files' s' (fun x => x.isSome = true) (R.intent d)) :
    CarriedAll others files s files' s' (requireParentReceipt C R i p) := by
  refine hr.bind (hs.receipt _) idle_still (fun x _ => ?_) fun x hx w y files₁ w₁ he => ?_
  · refine carried_require fun _ => ?_
    cases hd : i.parentIntentDigest with
    | none => exact Prog.carries_raise
    | some d => exact carried_some (hs.intent d) (hi d hd) fun parent => carried_verifyMutationReceipt hl p parent
  · have hx : ¬ x = some p := fun h => hx (by rw [h]; rfl)
    rw [Prog.play_bind_error (Prog.play_require_not hx)] at he
    cases he

omit hl hgrows in
theorem carried_verifyParentResolution (hs : R.Still) (i : Intent D) (q : D)
    (hq : ∀ d, Carried others files s files' s' (fun x => x.isSome = true) (R.resolution d))
    (hf : ∀ d, Carried others files s files' s' (fun x => x.isSome = true) (R.fence d))
    (hr : ∀ d, Carried others files s files' s' (fun x => x.isSome = true) (R.receipt d)) :
    CarriedAll others files s files' s' (verifyParentResolution R i q) := by
  refine carried_some (hs.resolution _) (hq _) fun q => carried_require fun _ => ?_
  refine carried_some (hs.fence _) (hf _) fun f => carried_require fun _ => ?_
  refine (hr _).bind (hs.receipt _) idle_still (fun x _ => Prog.Carries.require) fun x hx w y files₁ w₁ he => ?_
  cases x with
  | none => cases he
  | some r => exact absurd rfl hx

omit hgrows in
theorem carried_requireRelease (i : Intent D) : CarriedAll others files s files' s' (requireRelease C i) := by
  refine carried_seq (still_port trivial still_orRaise) (carried_lasting hl rfl carried_orRaise) fun _ => ?_
  refine carried_seq (still_port trivial still_orRaise) (carried_lasting hl rfl carried_orRaise) fun _ => ?_
  refine carried_ofOption fun _ => ?_
  refine carried_ofOption fun _ => ?_
  refine carried_require fun _ => ?_
  exact carried_require fun _ => Prog.Carries.require

omit hgrows in
theorem carried_requireLease (d : D) : CarriedAll others files s files' s' (requireLease d) :=
  carried_seq (still_port trivial still_orRaise) (carried_lasting hl rfl carried_orRaise) fun _ => Prog.Carries.ofOption

omit hgrows in
theorem carried_validateRollbackIntent (i : Intent D) (prep : RollbackPreparation D) (lease : LeaseRecord D) :
    CarriedAll others files s files' s' (validateRollbackIntent policyEpoch i prep lease) := by
  refine carried_seq (still_port trivial still_orRaise) (carried_lasting hl rfl carried_orRaise) fun _ => ?_
  refine carried_seq (still_port trivial still_orRaise) (carried_lasting hl rfl carried_orRaise) fun _ => ?_
  refine carried_ofOption fun _ => ?_
  refine carried_ofOption fun _ => ?_
  refine carried_require fun _ => ?_
  refine carried_require fun _ => ?_
  split
  · refine carried_seq (still_port trivial still_orRaise) (carried_lasting hl rfl carried_orRaise) fun _ => ?_
    refine carried_seq (still_port trivial still_orRaise) (carried_lasting hl rfl carried_orRaise) fun _ => ?_
    refine carried_ofOption fun _ => ?_
    exact carried_ofOption fun _ => Prog.Carries.require
  · exact Prog.carries_done

omit hgrows in
theorem carried_validateIntent (hs : R.Still) (i : Intent D) (hparent : CarriedAll others files s files' s' (requireParent C R i)) :
    CarriedAll others files s files' s' (validateIntent C policyEpoch R i) := by
  refine carried_seq (still_port trivial still_orRaise) (carried_lasting hl rfl carried_orRaise) fun prep => ?_
  refine carried_seq (still_port trivial still_orRaise) (carried_lasting hl rfl carried_orRaise) fun rollbackPrep => ?_
  refine carried_seq (still_port trivial still_orRaise) (carried_lasting hl rfl carried_orRaise) fun rollbackAuth => ?_
  split
  · split
    · exact carried_seq (still_requireLease _) (carried_requireLease hl _) fun _ => carried_validateRollbackIntent hl i _ _
    · exact Prog.carries_raise
  · refine carried_ofOption fun prep => ?_
    refine carried_seq (still_requireLease _) (carried_requireLease hl _) fun _ => ?_
    refine carried_seq (still_port trivial still_orRaise) (carried_lasting hl rfl carried_orRaise) fun _ => ?_
    refine carried_require fun _ => ?_
    refine carried_seq (still_requireParent hs i) hparent fun _ => ?_
    split
    · exact carried_requireRelease hl i
    · exact Prog.carries_done

/-- Intents whose chains are found in the other world: with an intent its predecessor,
and where one rests on a resolution, everything. -/
structure ChainsCarried (C : Canon D) (others : Nat → (p : Port D) → p.Answer) (files : Disc D) (s : Disk D) (files' : Disc D)
    (s' : Disk D) (Fine : Intent D → Prop) : Prop where
  parent : ∀ {i : Intent D} {d : D} {p : Intent D}, Fine i → i.parentIntentDigest = some d → files (.intent d) = .bound p → Fine p
  fenced : ∀ {i : Intent D}, Fine i → i.parentResolutionDigest.isSome = true →
    FencesCarried C others files s files' s' ∧ ∀ j, Fine j

variable {Fine : Intent D → Prop}

theorem carried_requireParent (hc : ChainsCarried C others files s files' s' Fine) {readIntent : D → Code D (Option (Intent D))}
    (hs : ∀ d, (readIntent d).Does Still)
    (hi : ∀ d, (∀ j, files (.intent d) = .bound j → Fine j) →
      Carried others files s files' s' (fun x => x.isSome = true) (readIntent d))
    {i : Intent D} (hfine : Fine i) : CarriedAll others files s files' s' (requireParent C (.over C readIntent) i) := by
  have hstill := still_over (C := C) hs
  have hparent : ∀ d, i.parentIntentDigest = some d →
      Carried others files s files' s' (fun x => x.isSome = true) (readIntent d) :=
    fun d hd => hi d fun j hj => hc.parent hfine hd hj
  refine carried_seq ?_ ?_ fun _ => ?_
  · split
    · exact still_requireParentReceipt hstill i _
    · trivial
  · split
    · next p hp =>
      refine carried_requireParentReceipt hl hstill i p (carried_readReceiptWith hl hgrows hs fun r _ hd => ?_) hparent
      -- the receipt is the one that the intent carries
      have hbody : r.toReceiptBody = p.toReceiptBody := ReceiptBody.digest_inj C hd
      refine hparent _ ?_
      rw [hbody]
      exact (i.valid.receipt _ (parentReceipt_some hp)).2.2.1
    · exact Prog.carries_done
  · split
    · next q hq =>
      obtain ⟨hfc, hall⟩ := hc.fenced hfine (by rw [hq]; rfl)
      have hr : ∀ d, Carried others files s files' s' (fun x => x.isSome = true) (readReceiptWith C readIntent d) :=
        fun d => carried_readReceiptWith hl hgrows hs fun r _ _ => hi _ fun j _ => hall j
      have hf : ∀ d, Carried others files s files' s' (fun x => x.isSome = true) (readFenceWith C (readReceiptWith C readIntent) d) :=
        fun d => carried_readFenceWith hgrows hfc hstill.receipt d hr
      exact carried_verifyParentResolution hstill i q
        (fun d => carried_readResolutionWith hl hgrows hfc hstill.fence hstill.receipt d hf hr) hf hr
    · exact Prog.carries_done

omit hl in
theorem carried_readIntentWith (hs : R.Still) {d : D}
    (hv : ∀ j, files (.intent d) = .bound j → CarriedAll others files s files' s' (validateIntent C policyEpoch R j)) :
    Carried others files s files' s' (fun x => x.isSome = true) (readIntentWith C policyEpoch R d) := by
  refine Prog.Carries.read (fun v => hgrows _ v) (fun j hj => ?_) (fun w x files₁ w₁ h => ?_) fun w x files₁ w₁ h => ?_
  · refine (Prog.Carries.require (G := fun _ => True)).seq Prog.Does.require idle_still fun _ => ?_
    refine (hv j hj).seq (still_validateIntent hs j) idle_still fun _ => ?_
    exact (carried_assertStageIdentity hgrows j).seq (still_assertStageIdentity j) idle_still fun _ => Prog.carries_done
  · cases h; exact fun h => nomatch h
  · cases h

theorem carried_readIntentN (hc : ChainsCarried C others files s files' s' Fine) (n : Nat) (d : D)
    (hd : ∀ j, files (.intent d) = .bound j → Fine j) :
    Carried others files s files' s' (fun x => x.isSome = true) (readIntentN C policyEpoch n d) := by
  induction n generalizing d with
  | zero =>
    refine carried_readIntentWith hgrows still_exhausted fun j _ => carried_validateIntent hl still_exhausted j ?_
    refine carried_seq ?_ ?_ fun _ => ?_
    · split
      · exact still_requireParentReceipt still_exhausted j _
      · trivial
    · split
      · exact Prog.carries_raise
      · exact Prog.carries_done
    · split
      · exact Prog.carries_raise
      · exact Prog.carries_done
  | succ n ih =>
    refine carried_readIntentWith hgrows (still_over (still_readIntentN n)) fun j hj => ?_
    exact carried_validateIntent hl (still_over (still_readIntentN n)) j
      (carried_requireParent hl hgrows hc (still_readIntentN n) ih (hd j hj))

theorem carried_validate (hc : ChainsCarried C others files s files' s' Fine) {i : Intent D} (hfine : Fine i) :
    CarriedAll others files s files' s' (validateIntent C policyEpoch (readers C policyEpoch) i) :=
  carried_validateIntent hl still_readers i
    (carried_requireParent hl hgrows hc (still_readIntentN 6) (carried_readIntentN hl hgrows hc 6) hfine)

theorem carried_readers (hfc : FencesCarried C others files s files' s') (policyEpoch : Option D) :
    (∀ d, Carried others files s files' s' (fun x => x.isSome = true) ((readers C policyEpoch).intent d)) ∧
      (∀ d, Carried others files s files' s' (fun x => x.isSome = true) ((readers C policyEpoch).receipt d)) ∧
      ∀ d, Carried others files s files' s' (fun x => x.isSome = true) ((readers C policyEpoch).resolution d) := by
  have hc : ChainsCarried C others files s files' s' fun _ => True := ⟨fun _ _ _ => trivial, fun _ _ => ⟨hfc, fun _ => trivial⟩⟩
  have hstill : (readers C policyEpoch).Still := still_readers
  have hi : ∀ d, Carried others files s files' s' (fun x => x.isSome = true) ((readers C policyEpoch).intent d) :=
    fun d => carried_readIntentN hl hgrows hc 6 d fun _ _ => trivial
  have hr : ∀ d, Carried others files s files' s' (fun x => x.isSome = true) ((readers C policyEpoch).receipt d) :=
    fun d => carried_readReceiptWith hl hgrows hstill.intent fun r _ _ => hi _
  have hf : ∀ d, Carried others files s files' s' (fun x => x.isSome = true) ((readers C policyEpoch).fence d) :=
    fun d => carried_readFenceWith hgrows hfc hstill.receipt d hr
  exact ⟨hi, hr, fun d => carried_readResolutionWith hl hgrows hfc hstill.fence hstill.receipt d hf hr⟩

end Intents

end Journal

theorem Executor.carried_checkPrerequisites {E : Executor D} (hgrows : Grows files files')
    (hfc : Journal.FencesCarried C others files s files' s') (i : Intent D) :
    CarriedAll others files s files' s' (Executor.checkPrerequisites C E i) := by
  obtain ⟨hi, -, hq⟩ := Journal.carried_readers hl hgrows hfc E.policyEpoch
  unfold Executor.checkPrerequisites
  split
  · refine (hq _).bind (Journal.still_readers.resolution _) idle_still (fun x _ => Prog.Carries.require) fun x hx w y files₁ w₁ he => ?_
    cases x with
    | none => cases he
    | some q => exact absurd rfl hx
  · split
    · refine carried_some (Journal.still_readers.intent _) (hi _) fun parent => ?_
      exact carried_require fun _ => Prog.Carries.require
    · exact Prog.carries_done

end Carrying

/-! ## A reservation -/

section Reserved
variable {others : Nat → (p : Port D) → p.Answer} {files files' : Disc D} {s : Disk D} {C : Canon D} {target : MainBound D}
  {i : Intent D}

@[simp] theorem Disk.setSlot_self (dir : Option (Dir D)) : (s.setSlot target dir).slots target = dir := by
  simp [Disk.setSlot]

theorem Disk.setSlot_ne {target' : MainBound D} (dir : Option (Dir D)) (h : target' ≠ target) :
    (s.setSlot target dir).slots target' = s.slots target' := by
  simp [Disk.setSlot, h]

theorem gives_look (target : MainBound D) :
    (Journal.look target).Gives (timely others) Prod.fst files s (s.slots target) := by
  refine Prog.Gives.port (fun w hw => ?_) (fun w => idle_still.ports w _ trivial) (Prog.Gives.ofOption rfl)
  rw [← hw]
  rfl

theorem gives_look_of {dir : Option (Dir D)} (h : s.slots target = dir) :
    (Journal.look target).Gives (timely others) Prod.fst files s dir := by
  rw [← h]
  exact gives_look target

theorem carried_look {s' : Disk D} {target : MainBound D} (h : s'.slots target = s.slots target) :
    CarriedAll others files s files' s' (Journal.look target) := by
  refine Prog.Carries.port (fun w => idle_still.ports w _ trivial) (fun w w' hw hw' => ?_) fun _ => Prog.Carries.ofOption
  change some (w'.1.slots target) = some (w.1.slots target)
  rw [hw, hw', h]

theorem carried_lookClosed {s' : Disk D} (h : s'.closed = s.closed) (d : D) :
    CarriedAll others files s files' s' (Journal.lookClosed d) := by
  refine Prog.Carries.port (fun w => idle_still.ports w _ trivial) (fun w w' hw hw' => ?_) fun _ => Prog.Carries.ofOption
  change some (w'.1.closedDir d) = some (w.1.closedDir d)
  rw [hw, hw', Disk.closedDir, Disk.closedDir, h]

theorem carried_assertTargetFence {s' : Disk D} (f : Fence D) (hslot : s'.slots f.toMainBound = s.slots f.toMainBound)
    (hclosed : s'.closed = s.closed) : CarriedAll others files s files' s' (Journal.assertTargetFence C f) := by
  refine carried_seq (Journal.still_look _) (carried_look hslot) fun slot => ?_
  split
  · refine carried_seq (Journal.still_look _) (carried_look hslot) fun slot => ?_
    split
    · refine carried_seq (Journal.still_lookFence _) ?_ fun _ => Prog.Carries.require
      exact carried_seq (Journal.still_look _) (carried_look hslot) fun _ => Prog.Carries.ofOption
    · exact carried_seq (Journal.still_look _) (carried_look hslot) fun _ => Prog.Carries.require
  · refine carried_seq (Journal.still_lookClosed _) (carried_lookClosed hclosed _) fun _ => ?_
    refine carried_require fun _ => ?_
    refine carried_seq ((Journal.still_lookClosed _).bind Journal.still_fenceIn) ?_ fun _ => Prog.Carries.require
    exact carried_seq (Journal.still_lookClosed _) (carried_lookClosed hclosed _) fun _ => Prog.Carries.ofOption

theorem gives_assertTargetFence {f : Fence D} (hslot : s.slots f.toMainBound = some ⟨some i, none⟩) :
    (Journal.assertTargetFence C f).Gives (timely others) Prod.fst files s () := by
  have hlook : (Journal.look f.toMainBound).Gives (timely others) Prod.fst files s (some ⟨some i, none⟩) := gives_look_of hslot
  refine hlook.bind ?_
  simp only [Option.isSome_some, if_true]
  refine hlook.bind ?_
  simp only [Journal.hasRecord, Option.bind_some, Option.isSome_none, Bool.false_eq_true, if_false]
  exact hlook.bind (Prog.Gives.require rfl)

theorem fencesCarried_reserved :
    Journal.FencesCarried C others files s files' (s.setSlot target (some ⟨some i, none⟩)) where
  resolutions := rfl
  slots f := by
    by_cases htarget : f.toMainBound = target
    · exact fun _ _ _ _ _ _ _ => gives_assertTargetFence (i := i) (by rw [htarget, Disk.setSlot_self])
    · exact carried_assertTargetFence f (Disk.setSlot_ne _ htarget) rfl

end Reserved

end AvoCorrelate.Graduation
