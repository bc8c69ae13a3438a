import AvoCorrelate.Graduation.Recording
/-!
# What the journal's readers find

Reading publishes nothing and leaves slots and provider alone: such actions are
`Still`. What a reader returns was checked down its chain, and every record of that
chain is durable; `ReceiptAt`, `FenceAt` and `ResolutionAt` say what of it the later
arguments use.
-/
open AvoLib

namespace AvoCorrelate.Graduation

variable {D : Type}

abbrev Log (D : Type) := List (Event (Rec (D := D)) (Port.Answer (D := D)))

abbrev Disc (D : Type) := Files (Rec (D := D))

/-- An action that publishes nothing and leaves slots and provider alone. -/
def Still : Action (Rec (D := D)) (Port D) → Prop
  | .read _ => True
  | .publish _ _ => False
  | .port (.makeSlot _) => False
  | .port (.removeSlot _) => False
  | .port (.installReservation _ _) => False
  | .port (.linkRecord _ _) => False
  | .port (.linkReservation _ _) => False
  | .port (.unlinkReservation _) => False
  | .port (.closeSlot _ _) => False
  | .port (.publishResolution _) => False
  | .port (.dispatch _ _) => False
  | .port (.dispatched _ _) => False
  | .port (.observe _ _) => False
  | .port _ => True

variable [DecidableEq D]

/-! ## Still programs -/

section StillPrograms
variable {C : Canon D} {policyEpoch : Option D} {α : Type}

omit [DecidableEq D] in
theorem still_port {p : Port D} {next : p.Answer → Code D α} (hp : Still (.port p : Action (Rec (D := D)) (Port D)))
    (hn : ∀ r, (next r).Does Still) : (Prog.port p next : Code D α).Does Still := ⟨hp, hn⟩

omit [DecidableEq D] in
theorem still_orRaise (a : Answer α) : (Answer.orRaise a : Code D α).Does Still := by cases a <;> trivial

omit [DecidableEq D] in
theorem still_now : (now : Code D Instant).Does Still := ⟨trivial, still_orRaise⟩

namespace Journal

theorem still_matchIdentity {missing otherOperation differs : String} {i : Intent D} (r : Found (Intent D)) :
    (matchIdentity missing otherOperation differs i r).Does Still := by
  cases r with
  | missing => trivial
  | malformed => trivial
  | found current => exact Prog.Does.require_bind fun _ => Prog.Does.require

theorem still_assertStageIdentity (i : Intent D) : (assertStageIdentity i).Does Still := by
  refine Prog.Does.bind ⟨trivial, still_matchIdentity⟩ fun _ => ?_
  refine Prog.Does.bind ⟨trivial, still_matchIdentity⟩ fun _ => ?_
  exact ⟨trivial, still_matchIdentity⟩

theorem still_assertReceiptIdentity (r : Receipt D) : (assertReceiptIdentity r).Does Still := by
  refine ⟨trivial, fun found => ?_⟩
  cases found with
  | missing => trivial
  | malformed => trivial
  | found current => exact Prog.Does.require_bind fun _ => Prog.Does.require

theorem still_readFenceResolution (d : D) : (readFenceResolution d).Does Still := by
  refine ⟨trivial, fun found => ?_⟩
  cases found with
  | missing => trivial
  | malformed => trivial
  | found q => exact Prog.Does.require_bind fun _ => trivial

theorem still_assertResolutionIdentity (q : Resolution D) : (assertResolutionIdentity q).Does Still := by
  refine ⟨trivial, fun found => ?_⟩
  cases found with
  | missing => trivial
  | malformed => trivial
  | found current => exact Prog.Does.require_bind fun _ => Prog.Does.require

omit [DecidableEq D] in
theorem still_verifyMutationReceipt (r : Receipt D) (i : Intent D) : (verifyMutationReceipt r i).Does Still := by
  refine ⟨trivial, fun a => ?_⟩
  cases a <;> trivial

omit [DecidableEq D] in
theorem still_verifyFenceAuthority (q : Resolution D) (r : Receipt D) : (verifyFenceAuthority q r).Does Still :=
  ⟨trivial, still_orRaise⟩

omit [DecidableEq D] in
theorem still_look (target : MainBound D) : (look target).Does Still := ⟨trivial, fun _ => Prog.Does.ofOption⟩

omit [DecidableEq D] in
theorem still_lookClosed (d : D) : (lookClosed d).Does Still := ⟨trivial, fun _ => Prog.Does.ofOption⟩

omit [DecidableEq D] in
theorem still_fenceIn (dir : Option (Dir D)) : (fenceIn dir).Does Still := Prog.Does.ofOption

omit [DecidableEq D] in
theorem still_reservationIn (dir : Option (Dir D)) : (reservationIn dir).Does Still := Prog.Does.ofOption

omit [DecidableEq D] in
theorem still_lookFence (target : MainBound D) : (look target >>= fenceIn).Does Still :=
  (still_look target).bind still_fenceIn

omit [DecidableEq D] in
theorem still_lookReservation (target : MainBound D) : (look target >>= reservationIn).Does Still :=
  (still_look target).bind still_reservationIn

theorem still_assertTargetFence (f : Fence D) : (assertTargetFence C f).Does Still := by
  refine (still_look _).bind fun slot => ?_
  split
  · refine (still_look _).bind fun slot => ?_
    split
    · exact (still_lookFence _).bind fun _ => Prog.Does.require
    · exact (still_look _).bind fun _ => Prog.Does.require
  · refine (still_lookClosed _).bind fun _ => ?_
    refine Prog.Does.require_bind fun _ => ?_
    exact ((still_lookClosed _).bind still_fenceIn).bind fun _ => Prog.Does.require

section Chains
variable {readIntent : D → Code D (Option (Intent D))} {readReceipt : D → Code D (Option (Receipt D))}
  {readFence : D → Code D (Option (Fence D))}

theorem still_sourceIntent (hi : ∀ d, (readIntent d).Does Still) (r : Receipt D) : (sourceIntent C readIntent r).Does Still := by
  refine (hi _).bind fun _ => ?_
  refine Prog.Does.ofOption_bind fun _ => ?_
  exact Prog.Does.require_bind fun _ => trivial

theorem still_validateReceipt (hi : ∀ d, (readIntent d).Does Still) (r : Receipt D) : (validateReceipt readIntent r).Does Still := by
  refine (hi _).bind fun _ => ?_
  refine Prog.Does.ofOption_bind fun i => ?_
  refine Prog.Does.require_bind fun _ => ?_
  exact (still_assertStageIdentity i).bind fun _ => Prog.Does.require

theorem still_readReceiptWith (hi : ∀ d, (readIntent d).Does Still) (d : D) : (readReceiptWith C readIntent d).Does Still := by
  refine ⟨trivial, fun found => ?_⟩
  cases found with
  | missing => trivial
  | malformed => trivial
  | found r =>
    refine Prog.Does.require_bind fun _ => ?_
    refine (still_validateReceipt hi r).bind fun _ => ?_
    refine (still_assertReceiptIdentity r).bind fun _ => ?_
    refine (still_sourceIntent hi r).bind fun i => ?_
    exact (still_verifyMutationReceipt r i).bind fun _ => trivial

theorem still_readReceiptForIntentWith (hi : ∀ d, (readIntent d).Does Still) (d : D) :
    (readReceiptForIntentWith C readIntent d).Does Still := by
  refine ⟨trivial, fun found => ?_⟩
  cases found with
  | missing => trivial
  | malformed => trivial
  | found r =>
    refine Prog.Does.require_bind fun _ => ?_
    refine (still_sourceIntent hi r).bind fun i => ?_
    exact (still_verifyMutationReceipt r i).bind fun _ => trivial

theorem still_validateFence (hr : ∀ d, (readReceipt d).Does Still) (f : Fence D) : (validateFence C readReceipt f).Does Still := by
  refine (hr _).bind fun _ => ?_
  refine Prog.Does.ofOption_bind fun _ => ?_
  exact Prog.Does.require_bind fun _ => Prog.Does.require

theorem still_readFenceWith (hr : ∀ d, (readReceipt d).Does Still) (d : D) : (readFenceWith C readReceipt d).Does Still := by
  refine ⟨trivial, fun found => ?_⟩
  cases found with
  | missing => trivial
  | malformed => trivial
  | found f =>
    refine Prog.Does.require_bind fun _ => ?_
    refine (still_validateFence hr f).bind fun _ => ?_
    exact (still_assertTargetFence f).bind fun _ => trivial

theorem still_validateResolution (hf : ∀ d, (readFence d).Does Still) (hr : ∀ d, (readReceipt d).Does Still)
    (q : Resolution D) : (validateResolution C readFence readReceipt q).Does Still := by
  refine (hf _).bind fun _ => ?_
  refine Prog.Does.ofOption_bind fun _ => ?_
  refine Prog.Does.require_bind fun _ => ?_
  refine (hr _).bind fun _ => ?_
  exact Prog.Does.ofOption_bind fun _ => Prog.Does.require

omit [DecidableEq D] in
theorem still_sourceReceipt (hr : ∀ d, (readReceipt d).Does Still) (q : Resolution D) : (sourceReceipt readReceipt q).Does Still :=
  (hr _).bind fun _ => Prog.Does.ofOption

theorem still_readResolutionWith (hf : ∀ d, (readFence d).Does Still) (hr : ∀ d, (readReceipt d).Does Still) (d : D) :
    (readResolutionWith C readFence readReceipt d).Does Still := by
  refine ⟨trivial, fun found => ?_⟩
  cases found with
  | missing => trivial
  | malformed => trivial
  | found q =>
    refine Prog.Does.require_bind fun _ => ?_
    refine (still_validateResolution hf hr q).bind fun _ => ?_
    refine (still_assertResolutionIdentity q).bind fun _ => ?_
    refine (still_sourceReceipt hr q).bind fun r => ?_
    exact (still_verifyFenceAuthority q r).bind fun _ => trivial

end Chains

structure Readers.Still (R : Readers D) : Prop where
  intent : ∀ d, (R.intent d).Does Graduation.Still
  receipt : ∀ d, (R.receipt d).Does Graduation.Still
  fence : ∀ d, (R.fence d).Does Graduation.Still
  resolution : ∀ d, (R.resolution d).Does Graduation.Still

theorem still_over {readIntent : D → Code D (Option (Intent D))} (hi : ∀ d, (readIntent d).Does Still) :
    (Readers.over C readIntent).Still := by
  have hr := still_readReceiptWith (C := C) hi
  have hf := still_readFenceWith (C := C) hr
  exact ⟨hi, hr, hf, still_readResolutionWith hf hr⟩

omit [DecidableEq D] in
theorem still_exhausted : (Readers.exhausted : Readers D).Still :=
  ⟨fun _ => trivial, fun _ => trivial, fun _ => trivial, fun _ => trivial⟩

variable {R : Readers D}

theorem still_requireParentReceipt (hR : R.Still) (i : Intent D) (p : Receipt D) :
    (requireParentReceipt C R i p).Does Still := by
  refine (hR.receipt _).bind fun _ => ?_
  refine Prog.Does.require_bind fun _ => ?_
  refine Prog.Does.bind ?_ fun _ => ?_
  · split
    · exact hR.intent _
    · trivial
  · exact Prog.Does.ofOption_bind fun parent => still_verifyMutationReceipt p parent

theorem still_verifyParentResolution (hR : R.Still) (i : Intent D) (d : D) :
    (verifyParentResolution R i d).Does Still := by
  refine (hR.resolution _).bind fun _ => ?_
  refine Prog.Does.ofOption_bind fun _ => ?_
  refine Prog.Does.require_bind fun _ => ?_
  refine (hR.fence _).bind fun _ => ?_
  refine Prog.Does.ofOption_bind fun _ => ?_
  refine Prog.Does.require_bind fun _ => ?_
  exact (hR.receipt _).bind fun _ => Prog.Does.require

theorem still_requireRelease (i : Intent D) : (requireRelease C i).Does Still := by
  refine Prog.Does.bind (still_port trivial still_orRaise) fun _ => ?_
  refine Prog.Does.bind (still_port trivial still_orRaise) fun _ => ?_
  refine Prog.Does.ofOption_bind fun _ => ?_
  refine Prog.Does.ofOption_bind fun _ => ?_
  refine Prog.Does.require_bind fun _ => ?_
  exact Prog.Does.require_bind fun _ => Prog.Does.require

omit [DecidableEq D] in
theorem still_requireLease (d : D) : (requireLease d).Does Still :=
  Prog.Does.bind (still_port trivial still_orRaise) fun _ => Prog.Does.ofOption

theorem still_validateRollbackIntent (i : Intent D) (prep : RollbackPreparation D) (lease : LeaseRecord D) :
    (validateRollbackIntent policyEpoch i prep lease).Does Still := by
  refine Prog.Does.bind (still_port trivial still_orRaise) fun _ => ?_
  refine Prog.Does.bind (still_port trivial still_orRaise) fun _ => ?_
  refine Prog.Does.ofOption_bind fun _ => ?_
  refine Prog.Does.ofOption_bind fun _ => ?_
  refine Prog.Does.require_bind fun _ => ?_
  refine Prog.Does.require_bind fun _ => ?_
  split
  · refine Prog.Does.bind (still_port trivial still_orRaise) fun _ => ?_
    refine Prog.Does.bind (still_port trivial still_orRaise) fun _ => ?_
    refine Prog.Does.ofOption_bind fun _ => ?_
    exact Prog.Does.ofOption_bind fun _ => Prog.Does.require
  · trivial

theorem still_requireParent (hR : R.Still) (i : Intent D) : (requireParent C R i).Does Still := by
  refine Prog.Does.bind ?_ fun _ => ?_
  · split
    · exact still_requireParentReceipt hR i _
    · trivial
  · split
    · exact still_verifyParentResolution hR i _
    · trivial

theorem still_validateGraduationIntent (hR : R.Still) (i : Intent D) (prep : Preparation D) :
    (validateGraduationIntent C R i prep).Does Still := by
  refine (still_requireLease _).bind fun _ => ?_
  refine Prog.Does.bind (still_port trivial still_orRaise) fun _ => ?_
  refine Prog.Does.require_bind fun _ => ?_
  refine (still_requireParent hR i).bind fun _ => ?_
  split
  · exact still_requireRelease i
  · trivial

theorem still_validateIntent (hR : R.Still) (i : Intent D) : (validateIntent C policyEpoch R i).Does Still := by
  refine Prog.Does.bind (still_port trivial still_orRaise) fun prep => ?_
  refine Prog.Does.bind (still_port trivial still_orRaise) fun rollbackPrep => ?_
  refine Prog.Does.bind (still_port trivial still_orRaise) fun rollbackAuth => ?_
  split
  · split
    · exact (still_requireLease _).bind fun _ => still_validateRollbackIntent i _ _
    · trivial
  · exact Prog.Does.ofOption_bind fun _ => still_validateGraduationIntent hR i _

theorem still_readIntentWith (hR : R.Still) (d : D) : (readIntentWith C policyEpoch R d).Does Still := by
  refine ⟨trivial, fun found => ?_⟩
  cases found with
  | missing => trivial
  | malformed => trivial
  | found i =>
    refine Prog.Does.require_bind fun _ => ?_
    refine (still_validateIntent hR i).bind fun _ => ?_
    exact (still_assertStageIdentity i).bind fun _ => trivial

theorem still_readIntentN (n : Nat) (d : D) : (readIntentN C policyEpoch n d).Does Still := by
  induction n generalizing d with
  | zero => exact still_readIntentWith still_exhausted d
  | succ n ih => exact still_readIntentWith (still_over ih) d

theorem still_readers : (readers C policyEpoch).Still := still_over (still_readIntentN 6)

theorem still_readReceiptForIntent (d : D) : (readReceiptForIntent C policyEpoch d).Does Still :=
  still_readReceiptForIntentWith still_readers.intent d

theorem still_readDispatchOwner (d : D) : (readDispatchOwner C policyEpoch d).Does Still := by
  refine ⟨trivial, fun found => ?_⟩
  cases found with
  | missing => trivial
  | malformed => trivial
  | found m =>
    refine (still_readers.intent _).bind fun _ => ?_
    refine Prog.Does.ofOption_bind fun _ => ?_
    exact Prog.Does.require_bind fun _ => trivial

theorem still_readResolutionByFence (d : D) : (readResolutionByFence C policyEpoch d).Does Still := by
  refine (still_readFenceResolution d).bind fun prior => ?_
  cases prior with
  | none => trivial
  | some q =>
    refine (still_readers.fence d).bind fun _ => ?_
    refine Prog.Does.ofOption_bind fun _ => ?_
    refine Prog.Does.require_bind fun _ => ?_
    refine (still_sourceReceipt still_readers.receipt q).bind fun r => ?_
    exact (still_verifyFenceAuthority q r).bind fun _ => trivial

theorem still_findResolution (d : D) (matched : Option (Resolution D)) (names : List D) :
    (findResolution C policyEpoch d matched names).Does Still := by
  induction names generalizing matched with
  | nil => trivial
  | cons name rest ih =>
    refine (still_readResolutionByFence name).bind fun candidate => ?_
    cases candidate with
    | none => exact ih matched
    | some q =>
      simp only
      split
      · split
        · exact ih _
        · trivial
      · exact ih matched

theorem still_readResolutionByIntent (d : D) : (readResolutionByIntent C policyEpoch d).Does Still :=
  ⟨trivial, fun _ => Prog.Does.ofOption_bind fun _ => still_findResolution d none _⟩

end Journal

end StillPrograms

/-! ## What is found -/

variable (C : Canon D)

/-- The durable intent of this digest. -/
structure IntentAt (F : Disc D) (d : D) (i : Intent D) : Prop where
  durable : F (.intent d) = .bound i
  digest : i.digest C = d

/-- The durable receipt of this digest, with its intent. -/
structure ReceiptAt (F : Disc D) (d : D) (r : Receipt D) : Prop where
  durable : F (.receipt d) = .bound r
  digest : r.digest C = d
  identity : F (.receiptIdentity r.intentDigest) = .bound r
  source : ∃ i, IntentAt C F r.intentDigest i ∧ i.operationId = r.operationId ∧
    Journal.SameMutation i.toMutationBinding r.toMutationBinding

/-- The receipt left the outcome open, and the fence is about its intent. -/
structure FencedBy (F : Disc D) (f : Fence D) (r : Receipt D) : Prop where
  receipt : ReceiptAt C F f.sourceReceiptDigest r
  unsettled : r.outcome.terminal = false
  same : Journal.SameFenced C r f

/-- The durable fence of this digest, with its receipt. -/
structure FenceAt (F : Disc D) (d : D) (f : Fence D) : Prop where
  durable : F (.fence d) = .bound f
  digest : f.digest C = d
  source : ∃ r, FencedBy C F f r

structure Resolves (F : Disc D) (q : Resolution D) (f : Fence D) (r : Receipt D) : Prop where
  fence : FenceAt C F q.fenceDigest f
  same : Journal.SameResolved q f
  receipt : ReceiptAt C F q.resolvedReceiptDigest r
  source : Journal.SameSource C q f r

/-- The durable resolution of this digest, with its fence and receipt. -/
structure ResolutionAt (F : Disc D) (d : D) (q : Resolution D) : Prop where
  durable : F (.resolution d) = .bound q
  digest : q.digest C = d
  resolves : ∃ f r, Resolves C F q f r

/-- Only still actions. -/
abbrev quiet : Rules (Rec (D := D)) (Port.Answer (D := D)) := fun _ a => Still a

section Finding
variable {C : Canon D} {F : Disc D} {h : Log D} {policyEpoch : Option D} {α : Type}

omit [DecidableEq D] in
theorem quiet_of_still {p : Code D α} (hd : p.Does Still) : p.Safe F quiet (Prog.Returning fun _ _ => True) h :=
  (hd.safe fun _ _ _ ha => ha).mono fun _ x _ => by cases x <;> trivial

namespace Journal

/-- The reader returns only durable intents. -/
def FindsIntents (C : Canon D) (F : Disc D) (readIntent : D → Code D (Option (Intent D))) : Prop :=
  ∀ d h, (readIntent d).Safe F quiet (Prog.Returning fun _ x => ∀ i ∈ x, IntentAt C F d i) h

def FindsReceipts (C : Canon D) (F : Disc D) (readReceipt : D → Code D (Option (Receipt D))) : Prop :=
  ∀ d h, (readReceipt d).Safe F quiet (Prog.Returning fun _ x => ∀ r ∈ x, ReceiptAt C F d r) h

def FindsFences (C : Canon D) (F : Disc D) (readFence : D → Code D (Option (Fence D))) : Prop :=
  ∀ d h, (readFence d).Safe F quiet (Prog.Returning fun _ x => ∀ f ∈ x, FenceAt C F d f) h

def FindsResolutions (C : Canon D) (F : Disc D) (readResolution : D → Code D (Option (Resolution D))) : Prop :=
  ∀ d h, (readResolution d).Safe F quiet (Prog.Returning fun _ x => ∀ q ∈ x, ResolutionAt C F d q) h

section Chains
variable {readIntent : D → Code D (Option (Intent D))} {readReceipt : D → Code D (Option (Receipt D))}
  {readFence : D → Code D (Option (Fence D))}

theorem sourceIntent_finds (hi : FindsIntents C F readIntent) (r : Receipt D) :
    (sourceIntent C readIntent r).Safe F quiet (Prog.Returning fun _ i => IntentAt C F r.intentDigest i) h := by
  refine (hi _ h).seq fun h₁ prior _ hp => ?_
  refine Prog.Safe.ofOption_bind (fun i he => ?_) trivial
  exact Prog.Safe.require_bind (fun _ => hp i he) trivial

theorem validateReceipt_finds (hi : FindsIntents C F readIntent) (r : Receipt D) :
    (validateReceipt readIntent r).Safe F quiet (Prog.Returning fun _ _ => ∃ i, IntentAt C F r.intentDigest i ∧
      i.operationId = r.operationId ∧ SameMutation i.toMutationBinding r.toMutationBinding) h := by
  refine (hi _ h).seq fun h₁ prior _ hp => ?_
  refine Prog.Safe.ofOption_bind (fun i he => ?_) trivial
  refine Prog.Safe.require_bind (fun hop => ?_) trivial
  refine (quiet_of_still (still_assertStageIdentity i)).seq fun h₂ _ _ _ => ?_
  unfold Prog.require
  split
  · next hs => exact ⟨i, hp i he, hop, hs⟩
  · trivial

theorem assertReceiptIdentity_finds (r : Receipt D) :
    (assertReceiptIdentity r).Safe F quiet (Prog.Returning fun _ _ => F (.receiptIdentity r.intentDigest) = .bound r) h := by
  refine ⟨trivial, fun found hf => ?_⟩
  cases found with
  | missing => trivial
  | malformed => trivial
  | found current =>
    refine Prog.Safe.require_bind (fun _ => ?_) trivial
    unfold Prog.require
    split
    · next hc => exact hc ▸ hf
    · trivial

theorem readReceiptWith_finds (hi : FindsIntents C F readIntent) : FindsReceipts C F (readReceiptWith C readIntent) := by
  intro d h
  refine ⟨trivial, fun found hf => ?_⟩
  cases found with
  | missing => intro r hr; cases hr
  | malformed => trivial
  | found r =>
    refine Prog.Safe.require_bind (fun hd => ?_) trivial
    refine (validateReceipt_finds hi r).seq fun h₁ _ _ hv => ?_
    refine (assertReceiptIdentity_finds r).seq fun h₂ _ _ hid => ?_
    refine (sourceIntent_finds hi r).seq fun h₃ i _ _ => ?_
    refine (quiet_of_still (still_verifyMutationReceipt r i)).seq fun h₄ _ _ _ => ?_
    intro r' hr'
    cases hr'
    exact ⟨hf, hd, hid, hv⟩

theorem readReceiptForIntentWith_finds (hi : FindsIntents C F readIntent) (d : D) :
    (readReceiptForIntentWith C readIntent d).Safe F quiet (Prog.Returning fun h' x =>
      (x = none → .read (.receiptIdentity d) .missing ∈ h') ∧
      ∀ r ∈ x, F (.receiptIdentity d) = .bound r ∧ r.intentDigest = d ∧ ∃ i, IntentAt C F d i) h := by
  refine ⟨trivial, fun found hf => ?_⟩
  cases found with
  | missing => exact ⟨fun _ => List.mem_cons_self, fun r hr => (nomatch hr)⟩
  | malformed => trivial
  | found r =>
    refine Prog.Safe.require_bind (fun hd => ?_) trivial
    refine (sourceIntent_finds hi r).seq fun h₁ i _ hsource => ?_
    refine (quiet_of_still (still_verifyMutationReceipt r i)).seq fun h₂ _ _ _ => ?_
    refine ⟨fun h => (nomatch h), fun r' hr' => ?_⟩
    cases hr'
    exact ⟨hf, hd, i, hd ▸ hsource⟩

theorem validateFence_finds (hr : FindsReceipts C F readReceipt) (f : Fence D) :
    (validateFence C readReceipt f).Safe F quiet (Prog.Returning fun _ _ => ∃ r, FencedBy C F f r) h := by
  refine (hr _ h).seq fun h₁ prior _ hp => ?_
  refine Prog.Safe.ofOption_bind (fun r he => ?_) trivial
  refine Prog.Safe.require_bind (fun ho => ?_) trivial
  unfold Prog.require
  split
  · next hs => exact ⟨r, hp r he, ho.1, hs⟩
  · trivial

theorem readFenceWith_finds (hr : FindsReceipts C F readReceipt) : FindsFences C F (readFenceWith C readReceipt) := by
  intro d h
  refine ⟨trivial, fun found hf => ?_⟩
  cases found with
  | missing => intro f hf; cases hf
  | malformed => trivial
  | found f =>
    refine Prog.Safe.require_bind (fun hd => ?_) trivial
    refine (validateFence_finds hr f).seq fun h₁ _ _ hv => ?_
    refine (quiet_of_still (still_assertTargetFence f)).seq fun h₂ _ _ _ => ?_
    intro f' hf'
    cases hf'
    exact ⟨hf, hd, hv⟩

theorem validateResolution_finds (hf : FindsFences C F readFence) (hr : FindsReceipts C F readReceipt) (q : Resolution D) :
    (validateResolution C readFence readReceipt q).Safe F quiet (Prog.Returning fun _ _ => ∃ f r, Resolves C F q f r) h := by
  refine (hf _ h).seq fun h₁ fencePrior _ hfp => ?_
  refine Prog.Safe.ofOption_bind (fun f hfe => ?_) trivial
  refine Prog.Safe.require_bind (fun hs => ?_) trivial
  refine (hr _ _).seq fun h₂ receiptPrior _ hrp => ?_
  refine Prog.Safe.ofOption_bind (fun r hre => ?_) trivial
  unfold Prog.require
  split
  · next hsource => exact ⟨f, r, hfp f hfe, hs, hrp r hre, hsource⟩
  · trivial

omit [DecidableEq D] in
theorem sourceReceipt_finds (hr : FindsReceipts C F readReceipt) (q : Resolution D) :
    (sourceReceipt readReceipt q).Safe F quiet (Prog.Returning fun _ r => ReceiptAt C F q.resolvedReceiptDigest r) h := by
  refine (hr _ h).seq fun h₁ prior _ hp => ?_
  unfold Prog.ofOption
  split
  · exact hp _ rfl
  · trivial

theorem readResolutionWith_finds (hf : FindsFences C F readFence) (hr : FindsReceipts C F readReceipt) :
    FindsResolutions C F (readResolutionWith C readFence readReceipt) := by
  intro d h
  refine ⟨trivial, fun found hq => ?_⟩
  cases found with
  | missing => intro q hq; cases hq
  | malformed => trivial
  | found q =>
    refine Prog.Safe.require_bind (fun hd => ?_) trivial
    refine (validateResolution_finds hf hr q).seq fun h₁ _ _ hv => ?_
    refine (quiet_of_still (still_assertResolutionIdentity q)).seq fun h₂ _ _ _ => ?_
    refine (sourceReceipt_finds hr q).seq fun h₃ r _ _ => ?_
    refine (quiet_of_still (still_verifyFenceAuthority q r)).seq fun h₄ _ _ _ => ?_
    intro q' hq'
    cases hq'
    exact ⟨hq, hd, hv⟩

end Chains

/-- What these readers return is durable, with its chain. -/
structure Readers.Finds (C : Canon D) (F : Disc D) (R : Readers D) : Prop where
  intent : FindsIntents C F R.intent
  receipt : FindsReceipts C F R.receipt
  fence : FindsFences C F R.fence
  resolution : FindsResolutions C F R.resolution

theorem finds_over {readIntent : D → Code D (Option (Intent D))} (hi : FindsIntents C F readIntent) :
    (Readers.over C readIntent).Finds C F := by
  have hr := readReceiptWith_finds hi
  have hf := readFenceWith_finds hr
  exact ⟨hi, hr, hf, readResolutionWith_finds hf hr⟩

theorem readIntentWith_finds {R : Readers D} (hR : R.Still) : FindsIntents C F (readIntentWith C policyEpoch R) := by
  intro d h
  refine ⟨trivial, fun found hf => ?_⟩
  cases found with
  | missing => intro i hi; cases hi
  | malformed => trivial
  | found i =>
    refine Prog.Safe.require_bind (fun hd => ?_) trivial
    refine (quiet_of_still (still_validateIntent hR i)).seq fun h₁ _ _ _ => ?_
    refine (quiet_of_still (still_assertStageIdentity i)).seq fun h₂ _ _ _ => ?_
    intro i' hi'
    cases hi'
    exact ⟨hf, hd⟩

theorem readIntentN_finds (n : Nat) : FindsIntents C F (readIntentN C policyEpoch n) := by
  cases n with
  | zero => exact readIntentWith_finds still_exhausted
  | succ n => exact readIntentWith_finds (still_over (still_readIntentN n))

theorem readers_finds : (readers C policyEpoch).Finds C F := finds_over (readIntentN_finds 6)

end Journal

end Finding

end AvoCorrelate.Graduation
