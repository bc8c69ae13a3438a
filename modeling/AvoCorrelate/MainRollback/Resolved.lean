import AvoCorrelate.MainRollback.Transition
import AvoCorrelate.Graduation.Freeing
import AvoCorrelate.Graduation.Forms
/-!
# A resolved release and its transition

The coordinator takes response and time of the claimed transition from the receipt of
the release, whatever resolved it; the journal wants those of the resolution. The two
agree for a receipt that was terminal from the start.
-/
open AvoLib

namespace AvoCorrelate.MainRollback.Transition

open Graduation (Executor Intent Receipt Disk Yield Lasting timely Form)

section Statement

variable {D : Type} [DecidableEq D] {others : Nat → (p : Graduation.Port D) → p.Answer} {answers : (p : Port D) → p.Answer}
  {C : Canon D} {policyEpoch : Option D} {E : Executor D} {F F' : Disc D} {w w' : Disk D × Nat} {s : Disk D} {i : Intent D}
  {x : Arguments D} {effective : Executor.EffectiveResult D} {α β : Type}

/-- The world of the stages, and the journal's other records. -/
abbrev world (others : Nat → (p : Graduation.Port D) → p.Answer) (answers : (p : Port D) → p.Answer) :=
  (timely others).within answers

/-! ## What the executor returned -/

structure Stands (C : Graduation.Canon D) (i : Intent D) (effective : Executor.EffectiveResult D) : Prop where
  receipt : effective.receipt.intentDigest = i.digest C ∧ effective.receipt.operationId = i.operationId ∧
    effective.receipt.stage = i.stage ∧ effective.receipt.externalIdentity = i.externalIdentity
  resolution : ∀ q ∈ effective.resolution, (q.intentDigest = i.digest C ∧ q.operationId = i.operationId ∧
    q.toMainBound = i.toMainBound ∧ q.externalIdentityDigest = i.externalIdentity.digest C ∧ q.leaseDigest = i.leaseDigest ∧
    q.leaseIdentity = i.leaseIdentity) ∧ q.resolvedReceiptDigest = effective.receipt.digest C ∧
    effective.receipt.outcome.terminal = false

theorem stands_of_effectiveResult {C : Graduation.Canon D} {files : Graduation.Disc D} {given : Option (Receipt D)}
    (h : Yield others files s (Executor.effectiveResult C E (.record i) given) effective) :
    Yield others files s ((Graduation.Journal.readers C E.policyEpoch).intent (i.digest C)) (some i) ∧ Stands C i effective := by
  obtain ⟨prior, hintent, h⟩ := Graduation.yield_bind (Graduation.Journal.still_readers.intent _) h
  obtain ⟨i', rfl, h⟩ := Graduation.yield_ofOption h
  obtain ⟨hagrees, hread⟩ := Graduation.yield_require h
  obtain rfl : i' = i := hagrees
  obtain ⟨durable, -, h⟩ := Graduation.yield_bind (Graduation.Journal.still_readReceiptForIntent _) hread
  obtain ⟨r, rfl, h⟩ := Graduation.yield_ofOption h
  obtain ⟨-, h⟩ := Graduation.yield_require h
  obtain ⟨hreceipt, h⟩ := Graduation.yield_require h
  obtain ⟨_, -, h⟩ := Graduation.yield_bind (Executor.still_verifyReceiptAuthority r i') h
  obtain ⟨resolution, -, h⟩ := Graduation.yield_bind (Graduation.Journal.still_readResolutionByIntent _) h
  refine ⟨hintent, ?_⟩
  cases resolution with
  | none =>
    cases Prog.Yields.done_inv h
    exact ⟨hreceipt, nofun⟩
  | some q =>
    obtain ⟨hbinding, h⟩ := Graduation.yield_require h
    have hprovider : (Executor.checkResolutionProvider E q).Does Graduation.Still :=
      Prog.Does.require_bind fun _ => Prog.Does.require
    have hsource : (Executor.checkResolutionSource C q r).Does Graduation.Still :=
      Prog.Does.require_bind fun _ => Prog.Does.require
    obtain ⟨_, -, h⟩ := Graduation.yield_bind hprovider h
    obtain ⟨_, hq, h⟩ := Graduation.yield_bind hsource h
    obtain ⟨hdigest, hq⟩ := Graduation.yield_require hq
    cases Prog.Yields.done_inv h
    refine ⟨hreceipt, fun q' hq' => ?_⟩
    cases hq'
    exact ⟨hbinding, hdigest, hq.require_inv⟩

/-- The result of the release stage, as `_stage` gets it: executed, or recovered. -/
inductive Returned (C : Canon D) (E : Executor D) (others : Nat → (p : Graduation.Port D) → p.Answer)
    (answers : (p : Port D) → p.Answer) (i : Intent D) (effective : Executor.EffectiveResult D) (F : Disc D) (w : Disk D × Nat) :
    Prop
  | executed {F₀ : Disc D} {w₀ : Disk D × Nat} (request : Graduation.StageRequest D) :
    (ofStage (Graduation.Coordinator.executeEffective C.toCanon E i request)).play (world others answers) F₀ w₀ =
      ⟨.ok effective, F, w⟩ → Returned C E others answers i effective F w
  | recovered {F₀ : Disc D} {w₀ : Disk D × Nat} (request : Graduation.StageRequest D)
    (observation : Graduation.ObservationRequest D) :
    (ofStage (Graduation.Coordinator.recoverEffective C.toCanon E i observation request)).play (world others answers) F₀ w₀ =
      ⟨.ok effective, F, w⟩ → Returned C E others answers i effective F w

theorem Returned.stands (h : Returned C E others answers i effective F w) :
    Yield others F.left w.1 ((Graduation.Journal.readers C.toCanon E.policyEpoch).intent (i.digest C.toCanon)) (some i) ∧
      Stands C.toCanon i effective := by
  have hends : ∀ {p : Graduation.Code D (Receipt D)} {F₀ : Disc D} {w₀ : Disk D × Nat},
      (ofStage (p >>= fun r => Executor.effectiveResult C.toCanon E (.record i) (some r))).play (world others answers) F₀ w₀ =
        ⟨.ok effective, F, w⟩ → ∃ given, Yield others F.left w.1 (Executor.effectiveResult C.toCanon E (.record i) given) effective := by
    intro p F₀ w₀ hplay
    obtain ⟨files', halone, hF⟩ := Prog.played_within hplay
    obtain ⟨r, files₁, w₁, -, hresult⟩ := Prog.play_bind_inv halone
    have hstill := Graduation.still_effectiveResult (C := C.toCanon) E (.record i) (some r)
    have hidle : _ = files₁ ∧ _ = w₁.1 := hstill.play_idle (O := timely others) Graduation.idle_still
    rw [hresult] at hidle
    obtain ⟨hfiles, hw⟩ := hidle
    obtain rfl : files' = files₁ := hfiles
    subst hF
    exact ⟨some r, w₁, w, hw.symm, hresult⟩
  cases h with
  | executed request hplay =>
    obtain ⟨given, hyield⟩ := hends hplay
    exact stands_of_effectiveResult hyield
  | recovered request observation hplay =>
    obtain ⟨given, hyield⟩ := hends hplay
    exact stands_of_effectiveResult hyield

theorem not_success {o : Graduation.MutationOutcome} (h : o.terminal = false) : o.success = false := by
  cases o with
  | applied => cases h
  | alreadyApplied => cases h
  | _ => rfl

omit [DecidableEq D] in
theorem Stands.terminal_eq {C : Graduation.Canon D} (h : Stands C i effective) :
    terminal effective = effective.effectiveOutcome.success := by
  obtain ⟨r, resolution⟩ := effective
  cases resolution with
  | none => exact Bool.or_false _
  | some q =>
    have hterminal : r.outcome.terminal = false := (h.resolution q rfl).2.2
    have hsuccess : r.outcome.success = false := not_success hterminal
    simp only [terminal, hsuccess, Bool.false_or, Option.any_some, Executor.EffectiveResult.effectiveOutcome]
    cases q.outcome <;> rfl

/-! ## Parts of the journal -/

/-- An action that records no transition and leaves slots and provider alone. -/
def Quiet : Action (Both (Graduation.Rec (D := D)) (Rec (D := D))) (Graduation.Port D ⊕ Port D) → Prop
  | .read _ => True
  | .publish _ _ => False
  | .port (.inl q) => Graduation.Still (.port q)
  | .port (.inr _) => True

theorem idle_quiet : Prog.Idle (V := Both (Graduation.Rec (D := D)) (Rec (D := D))) (world others answers) Prod.fst Quiet where
  reads _ _ h := h
  ports w q hq := by
    cases q with
    | inl q =>
      have hidle : Prog.Idle (V := Graduation.Rec (D := D)) (timely others) Prod.fst Graduation.Still := Graduation.idle_still
      exact hidle.ports w q hq
    | inr q => rfl

omit [DecidableEq D] in
theorem quiet_ofStage {p : Graduation.Code D α} (hp : p.Does Graduation.Still) : (ofStage p).Does Quiet := by
  refine hp.within fun a ha => ?_
  cases a with
  | read k => trivial
  | publish k v => exact ha
  | port q => exact ha

omit [DecidableEq D] in
theorem quiet_orRaise (a : Graduation.Answer α) : (orRaise a : Code D α).Does Quiet := by cases a <;> trivial

omit [DecidableEq D] in
theorem quiet_readAuthorization (operationId : D) : (readAuthorization operationId).Does Quiet := ⟨trivial, quiet_orRaise⟩

omit [DecidableEq D] in
theorem quiet_readClaim (claimDigest : D) : (readClaim claimDigest).Does Quiet := ⟨trivial, quiet_orRaise⟩

omit [DecidableEq D] in
theorem quiet_install : (install : Code D Unit).Does Quiet := ⟨trivial, quiet_orRaise⟩

omit [DecidableEq D] in
theorem quiet_requireBranch (auth : Authorization D) : (.port (.inr (.requireBranch auth)) orRaise : Code D Unit).Does Quiet :=
  ⟨trivial, quiet_orRaise⟩

variable {f : α → Code D β} {y : β} {e : Graduation.Exc} {a : Graduation.Answer α} {z : α} {q : Port D}
  {next : q.Answer → Code D α}

theorem yields_bind {p : Code D α} (hd : p.Does Quiet) (h : (p >>= f).Yields (world others answers) Prod.fst F s y) :
    ∃ z, p.Yields (world others answers) Prod.fst F s z ∧ (f z).Yields (world others answers) Prod.fst F s y := h.bind_inv hd idle_quiet

theorem yields_ofOption {o : Option α} (h : (Prog.ofOption o e >>= f).Yields (world others answers) Prod.fst F s y) :
    ∃ z, o = some z ∧ (f z).Yields (world others answers) Prod.fst F s y := by
  obtain ⟨z, hz, h⟩ := yields_bind Prog.Does.ofOption h
  exact ⟨z, hz.ofOption_inv, h⟩

theorem yields_require {c : Prop} [Decidable c] {f : Unit → Code D β}
    (h : (Prog.require c e >>= f).Yields (world others answers) Prod.fst F s y) :
    c ∧ (f ()).Yields (world others answers) Prod.fst F s y := by
  obtain ⟨_, hc, h⟩ := yields_bind Prog.Does.require h
  exact ⟨hc.require_inv, h⟩

theorem yields_orRaise (h : (orRaise a : Code D α).Yields (world others answers) Prod.fst F s z) : a = .returned z := by
  cases a with
  | raised message => exact (Prog.Yields.raise_inv h).elim
  | returned v => rw [Prog.Yields.done_inv h]

theorem yields_port (h : (Prog.port (.inr q) next : Code D α).Yields (world others answers) Prod.fst F s z) :
    (next (answers q)).Yields (world others answers) Prod.fst F s z := by
  obtain ⟨_, -, h⟩ := h.port_inv fun _ => rfl
  exact h

theorem gives_port (h : (next (answers q)).Gives (world others answers) Prod.fst F s z) :
    (Prog.port (.inr q) next : Code D α).Gives (world others answers) Prod.fst F s z :=
  Prog.Gives.port (fun _ _ => rfl) (fun _ => rfl) h

theorem gives_orRaise (ha : a = .returned z) : (orRaise a : Code D α).Gives (world others answers) Prod.fst F s z := by
  subst ha
  exact Prog.gives_done

namespace Journal

section Create
variable {k : Key D} {v : Rec k} {unindexed malformed conflicting : String}

theorem does_requireSame {S : Action (Both (Graduation.Rec (D := D)) (Rec (D := D))) (Graduation.Port D ⊕ Port D) → Prop}
    (found : Found (Rec k)) : (requireSame malformed conflicting v found).Does S := by
  cases found with
  | missing => trivial
  | malformed => trivial
  | found old => exact Prog.Does.require

theorem play_created (hfile : F (.inr k) = .absent) : (create unindexed malformed conflicting k v).play (world others answers) F w =
    ⟨.ok (), Files.put (k := Sum.inr k) F (.bound v), w⟩ := Prog.play_publish (k := Sum.inr k) hfile

theorem play_taken {f : File (Rec k)} (hfile : F (.inr k) = f) (hf : f ≠ .absent) :
    (create unindexed malformed conflicting k v).play (world others answers) F w =
      (requireSame malformed conflicting v f.content).play (world others answers) F w := by
  subst hfile
  exact Prog.play_taken (k := Sum.inr k) hf

theorem created_of_play (h : (create unindexed malformed conflicting k v).play (world others answers) F w = ⟨.ok (), F', w'⟩) :
    (F (.inr k) = .absent ∨ F (.inr k) = .bound v) ∧ F' = Files.put (k := Sum.inr k) F (.bound v) ∧ w' = w := by
  obtain ⟨f, hfile⟩ : ∃ f : File (Rec k), F (.inr k) = f := ⟨_, rfl⟩
  rw [hfile]
  cases f with
  | absent =>
    rw [play_created hfile] at h
    cases h
    exact ⟨.inl rfl, rfl, rfl⟩
  | torn =>
    rw [play_taken hfile nofun] at h
    cases h
  | bound old =>
    rw [play_taken hfile nofun] at h
    obtain ⟨hsame, rfl, rfl⟩ := Prog.play_require_inv (c := old = v) h
    subst hsame
    exact ⟨.inr rfl, (Files.put_bound (k := Sum.inr k) hfile).symm, rfl⟩

theorem goes_create (h : F (.inr k) = .absent ∨ F (.inr k) = .bound v) :
    (create unindexed malformed conflicting k v).Goes (world others answers) Prod.fst F s ()
      (Files.put (k := Sum.inr k) F (.bound v)) s := by
  intro w hw
  refine ⟨w, hw, ?_⟩
  obtain hfile | hfile := h
  · exact play_created hfile
  · rw [play_taken hfile nofun, Files.put_bound (k := Sum.inr k) hfile]
    exact Prog.play_require rfl

end Create

theorem quiet_requireMutation (c : Claimed D) (m : Receipt D) : (requireMutation C policyEpoch c m).Does Quiet := by
  unfold requireMutation
  split
  · exact Prog.Does.require
  · split
    · refine Prog.Does.ofOption_bind fun _ => (quiet_ofStage (Graduation.Journal.still_readers.resolution _)).bind fun _ => ?_
      exact Prog.Does.ofOption_bind fun _ => Prog.Does.require_bind fun _ => Prog.Does.require
    · trivial

theorem quiet_validateClaimed (c : Claimed D) : (validateClaimed C policyEpoch c).Does Quiet := by
  refine (quiet_readClaim _).bind fun _ => (quiet_readAuthorization _).bind fun _ => ?_
  refine Prog.Does.ofOption_bind fun _ => Prog.Does.ofOption_bind fun _ => ?_
  refine (quiet_ofStage (Graduation.Journal.still_readers.receipt _)).bind fun _ => Prog.Does.ofOption_bind fun _ => ?_
  exact Prog.Does.require_bind fun _ => quiet_requireMutation _ _

theorem quiet_requireReleaseAuthorization (t : Record D) : (requireReleaseAuthorization t).Does Quiet := by
  refine (quiet_readAuthorization _).bind fun _ => Prog.Does.ofOption_bind fun auth => ?_
  refine (quiet_requireBranch auth).bind fun _ => Prog.Does.require_bind fun _ => ?_
  exact Prog.Does.require_bind fun _ => Prog.Does.require

theorem yields_validateClaimed {c : Claimed D} (h : (validateClaimed C policyEpoch c).Yields (world others answers) Prod.fst F s ()) :
    ∃ m, Yield others F.left s ((Graduation.Journal.readers C.toCanon policyEpoch).receipt c.mutationReceiptDigest) (some m) ∧
      (requireMutation C policyEpoch c m).Yields (world others answers) Prod.fst F s () := by
  obtain ⟨claimPrior, -, h⟩ := yields_bind (quiet_readClaim _) h
  obtain ⟨authPrior, -, h⟩ := yields_bind (quiet_readAuthorization _) h
  obtain ⟨claim, -, h⟩ := yields_ofOption h
  obtain ⟨auth, -, h⟩ := yields_ofOption h
  obtain ⟨prior, hprior, h⟩ := yields_bind (quiet_ofStage (Graduation.Journal.still_readers.receipt _)) h
  obtain ⟨m, rfl, h⟩ := yields_ofOption h
  obtain ⟨-, h⟩ := yields_require h
  exact ⟨m, hprior.within_inv, h⟩

theorem yields_requireMutation {c : Claimed D} {m : Receipt D} (hterminal : m.outcome.terminal = false)
    (h : (requireMutation C policyEpoch c m).Yields (world others answers) Prod.fst F s ()) :
    ∃ q, c.mutationResolutionDigest = some (q.digest C.toCanon) ∧
      Yield others F.left s ((Graduation.Journal.readers C.toCanon policyEpoch).resolution (q.digest C.toCanon)) (some q) ∧
      MatchesResolution c q := by
  rw [requireMutation, if_neg (Bool.eq_false_iff.mp (not_success hterminal)), if_pos hterminal] at h
  obtain ⟨digest, hdigest, h⟩ := yields_ofOption h
  obtain ⟨prior, hprior, h⟩ := yields_bind (quiet_ofStage (Graduation.Journal.still_readers.resolution _)) h
  obtain ⟨q, rfl, h⟩ := yields_ofOption h
  obtain ⟨⟨hsame, -⟩, hmatches⟩ := yields_require h
  subst hsame
  exact ⟨q, hdigest, hprior.within_inv, hmatches.require_inv⟩

end Journal

/-! ## Before the transition -/

/-- What the coordinator has made durable before the stage: the journal returns
authorization and claim, which its checks have found to agree with the hold. -/
structure Released (answers : (p : Port D) → p.Answer) (x : Arguments D) : Prop where
  authorization : answers (.releaseAuthorization x.operationId) = .returned (some x.auth)
  claim : answers (.releaseClaim x.claim.claimDigest) = .returned (some x.claim)
  branch : answers (.requireBranch x.auth) = .returned ()
  store : answers .install = .returned ()
  authorized : x.auth.operationId = x.operationId ∧ x.auth.toMainBound = x.toMainBound ∧ x.auth.groupSha = x.hold.groupSha ∧
    x.auth.holdRunId = x.hold.holdRunId ∧ x.auth.holdNonce = x.hold.holdNonce ∧ x.auth.issuer = x.hold.issuer
  claimed : x.claim.operationId = x.operationId ∧ x.claim.toMainBound = x.toMainBound ∧ x.claim.groupSha = x.hold.groupSha ∧
    x.claim.holdRunId = x.hold.holdRunId ∧ x.claim.holdNonce = x.hold.holdNonce ∧ x.claim.issuer = x.hold.issuer

/-- The intent of the release stage, as `_stage` builds it. -/
structure ReleaseIntent (x : Arguments D) (i : Intent D) : Prop where
  stage : i.stage = .releaseTransition
  operation : i.operationId = x.operationId
  target : i.toMainBound = x.toMainBound
  authorization : i.releaseAuthorizationDigest = some x.auth.authorizationDigest
  claim : i.releaseClaimDigest = some x.claim.claimDigest

/-- The transition itself is accepted, receipt and resolution are read back, no other
claimed transition is there, and a resolution has response and time of the receipt. -/
structure Recordable (C : Canon D) (policyEpoch : Option D) (others : Nat → (p : Graduation.Port D) → p.Answer) (F : Disc D)
    (s : Disk D) (x : Arguments D) (effective : Executor.EffectiveResult D) : Prop where
  window : x.auth.authorizedAt ≤ effective.receipt.observedAt ∧ effective.receipt.observedAt ≤ x.auth.expiresAt
  transition : F (.inr (.transition x.operationId)) = .absent ∨ F (.inr (.transition x.operationId)) = .bound (x.transition effective)
  receipt : Yield others F.left s ((Graduation.Journal.readers C.toCanon policyEpoch).receipt (effective.receipt.digest C.toCanon))
    (some effective.receipt)
  resolution : ∀ q ∈ effective.resolution,
    Yield others F.left s ((Graduation.Journal.readers C.toCanon policyEpoch).resolution (q.digest C.toCanon)) (some q) ∧
      q.authoritativeObservationDigest = effective.receipt.responseDigest ∧ q.resolvedAt = effective.receipt.observedAt
  identity : F (.inr (.claimedIdentity x.claim.claimDigest)) = .absent ∨
    F (.inr (.claimedIdentity x.claim.claimDigest)) = .bound (x.claimed effective C)
  claimed : F (.inr (.claimed (C.claimedDigest (x.claimed effective C)))) = .absent ∨
    F (.inr (.claimed (C.claimedDigest (x.claimed effective C)))) = .bound (x.claimed effective C)

/-- What the chain check wants of a claimed transition, for this receipt and this resolution. -/
def Wanted (C : Canon D) (effective : Executor.EffectiveResult D) (c : Claimed D) : Prop :=
  match effective.resolution with
  | none => Journal.MatchesReceipt c effective.receipt
  | some q => c.mutationResolutionDigest = some (q.digest C.toCanon) ∧ Journal.MatchesResolution c q

/-- No transition is recorded with a successful outcome. -/
def Unsuccessful : Action (Both (Graduation.Rec (D := D)) (Rec (D := D))) (Graduation.Port D ⊕ Port D) → Prop
  | .publish (.inr (.transition _)) t => Record.outcome t = .reconciliationRequired
  | .publish (.inr (.claimedIdentity _)) c => Record.outcome (Claimed.toRecord c) = .reconciliationRequired
  | .publish (.inr (.claimed _)) c => Record.outcome (Claimed.toRecord c) = .reconciliationRequired
  | _ => True

/-- A release that took effect is recorded as the executor resolved it, and no other
with success. -/
def RecordedAsResolved (C : Canon D) (policyEpoch : Option D) (others : Nat → (p : Graduation.Port D) → p.Answer)
    (answers : (p : Port D) → p.Answer) (F : Disc D) (w : Disk D × Nat) (x : Arguments D) (effective : Executor.EffectiveResult D) :
    Prop :=
  (effective.effectiveOutcome.success = true → ∃ F' w', (transitionRecords C policyEpoch x effective).play (world others answers) F w =
    ⟨.ok (x.transition effective, some (x.claimed effective C)), F', w'⟩ ∧ Wanted C effective (x.claimed effective C)) ∧
  (effective.effectiveOutcome.success = false → (transitionRecords C policyEpoch x effective).Does Unsuccessful)

/-! ## Recording -/

section Recording

theorem transition_of_play (hreleased : Released answers x)
    (h : (Journal.recordReleaseTransition (x.transition effective)).play (world others answers) F w = ⟨.ok (), F', w'⟩) :
    (x.auth.authorizedAt ≤ effective.receipt.observedAt ∧ effective.receipt.observedAt ≤ x.auth.expiresAt) ∧
      (F (.inr (.transition x.operationId)) = .absent ∨ F (.inr (.transition x.operationId)) = .bound (x.transition effective)) ∧
      F' = Files.put (k := Sum.inr (.transition x.operationId)) F (.bound (x.transition effective)) ∧ w'.1 = w.1 := by
  obtain ⟨_, w₁, hw₁, -, h₁⟩ := Prog.Does.require.played_bind idle_quiet rfl h
  obtain ⟨⟨⟩, w₂, hw₂, hauth, h₂⟩ := (Journal.quiet_requireReleaseAuthorization _).played_bind idle_quiet hw₁ h₁
  obtain ⟨_, w₃, hw₃, -, h₃⟩ := quiet_install.played_bind idle_quiet hw₂ h₂
  obtain ⟨hfile, hF, rfl⟩ := Journal.created_of_play h₃
  obtain ⟨prior, hprior, hauth⟩ := yields_bind (quiet_readAuthorization _) hauth
  have hprior := yields_orRaise (yields_port hprior)
  cases hreleased.authorization.symm.trans hprior
  obtain ⟨auth, hsome, hauth⟩ := yields_ofOption hauth
  cases hsome
  obtain ⟨_, -, hauth⟩ := yields_bind (quiet_requireBranch _) hauth
  obtain ⟨-, hauth⟩ := yields_require hauth
  obtain ⟨hwindow, -⟩ := yields_require hauth
  exact ⟨hwindow, hfile, hF, hw₃⟩

theorem goes_recordReleaseTransition (hreleased : Released answers x)
    (hwindow : x.auth.authorizedAt ≤ effective.receipt.observedAt ∧ effective.receipt.observedAt ≤ x.auth.expiresAt)
    (hfile : F (.inr (.transition x.operationId)) = .absent ∨ F (.inr (.transition x.operationId)) = .bound (x.transition effective)) :
    (Journal.recordReleaseTransition (x.transition effective)).Goes (world others answers) Prod.fst F s ()
      (Files.put (k := Sum.inr (.transition x.operationId)) F (.bound (x.transition effective))) s := by
  obtain ⟨hop, htarget, hgroup, hrun, hnonce, hissuer⟩ := hreleased.authorized
  refine (Prog.Gives.require x.hold.isolated).goes.bind (Prog.Goes.bind (x := ()) (Prog.Gives.goes ?_) ?_)
  · refine (gives_port (gives_orRaise hreleased.authorization)).bind ((Prog.Gives.ofOption rfl).bind ?_)
    refine (gives_port (gives_orRaise hreleased.branch)).bind ((Prog.Gives.require rfl).bind ?_)
    refine (Prog.Gives.require hwindow).bind (Prog.Gives.require ?_)
    exact ⟨hop.symm, htarget.symm, hgroup.symm, hrun.symm, hnonce.symm, hissuer.symm⟩
  · exact (gives_port (gives_orRaise hreleased.store)).goes.bind (Journal.goes_create hfile)

theorem put_transition {k : Key D} (hk : ∀ d, k ≠ .transition d) (t : Record D) :
    Files.put (k := Sum.inr (.transition x.operationId)) F (.bound t) (.inr k) = F (.inr k) :=
  Files.put_ne (k := Sum.inr (.transition x.operationId)) F _ fun h => hk _ (Sum.inr.inj h)

theorem claimed_of_play {c : Claimed D}
    (h : (Journal.recordClaimedReleaseTransition C policyEpoch c).play (world others answers) F w = ⟨.ok (), F', w'⟩) :
    (Journal.validateClaimed C policyEpoch c).Yields (world others answers) Prod.fst F w.1 () ∧
      (F (.inr (.claimedIdentity c.claimDigest)) = .absent ∨ F (.inr (.claimedIdentity c.claimDigest)) = .bound c) ∧
      (F (.inr (.claimed (C.claimedDigest c))) = .absent ∨ F (.inr (.claimed (C.claimedDigest c))) = .bound c) := by
  obtain ⟨_, w₁, hw₁, -, h₁⟩ := Prog.Does.require.played_bind idle_quiet rfl h
  obtain ⟨⟨⟩, w₂, hw₂, hchain, h₂⟩ := (Journal.quiet_validateClaimed c).played_bind idle_quiet hw₁ h₁
  obtain ⟨_, w₃, hw₃, -, h₃⟩ := quiet_install.played_bind idle_quiet hw₂ h₂
  obtain ⟨⟨⟩, F₁, w₄, hidentity, hindex⟩ := Prog.play_bind_inv h₃
  obtain ⟨hfree, rfl, rfl⟩ := Journal.created_of_play hidentity
  obtain ⟨hclaimed, -, -⟩ := Journal.created_of_play hindex
  have hne : (Sum.inr (.claimed (C.claimedDigest c)) : Graduation.Key D ⊕ Key D) ≠ Sum.inr (.claimedIdentity c.claimDigest) := nofun
  rw [Files.put_ne (k := Sum.inr (.claimedIdentity c.claimDigest)) F _ hne] at hclaimed
  exact ⟨hchain, hfree, hclaimed⟩

theorem binds_of_yield (hreleased : Released answers x) (hi : ReleaseIntent x i) (hstands : Stands C.toCanon i effective)
    (h : Yield others F.left s ((Graduation.Journal.readers C.toCanon policyEpoch).receipt (effective.receipt.digest C.toCanon))
      (some effective.receipt)) :
    Journal.Binds (x.claimed effective C) x.claim x.auth effective.receipt ∧
      Graduation.Journal.SameMutation i.toMutationBinding effective.receipt.toMutationBinding := by
  obtain ⟨-, i', hi', -, hsame⟩ := Graduation.Journal.yield_readReceipt Graduation.Journal.still_readers.intent h
  obtain ⟨-, hdigest, -⟩ := Graduation.Journal.yield_readIntentN hi'
  obtain rfl : i' = i :=
    Graduation.Intent.ext_body (Graduation.IntentBody.digest_inj C.toCanon (hdigest.trans hstands.receipt.1))
  have htarget : effective.receipt.toMainBound = x.toMainBound := (Graduation.Journal.SameMutation.target hsame).symm.trans hi.target
  obtain ⟨hop, hauthTarget, -, -, -, hissuer⟩ := hreleased.authorized
  obtain ⟨hclaimOp, hclaimTarget, hgroup, hrun, hnonce, hclaimIssuer⟩ := hreleased.claimed
  refine ⟨⟨⟨hclaimOp, hclaimTarget, hop, hauthTarget⟩, ⟨rfl, rfl, hgroup.symm, hrun.symm, hnonce.symm, ?_, ?_, ?_, ?_⟩, ?_⟩, hsame⟩
  · rw [hclaimIssuer]; rfl
  · rw [hclaimIssuer]; rfl
  · rw [hclaimIssuer, hissuer]
  · rw [hclaimIssuer]; rfl
  · obtain ⟨-, -, -, -, -, -, -, -, -, hauth, hclaim⟩ := hsame
    exact ⟨hstands.receipt.2.1.trans hi.operation, htarget, hstands.receipt.2.2.1.trans hi.stage, hauth.symm.trans hi.authorization,
      hclaim.symm.trans hi.claim⟩

variable {files : Graduation.Disc D} {d : D} {r : Receipt D} {q : Graduation.Resolution D}

theorem fencesCarried_refl {C : Graduation.Canon D} : Graduation.Journal.FencesCarried C others files s files s :=
  ⟨fun f => Graduation.carried_assertTargetFence f rfl rfl, rfl⟩

theorem yield_of_outcome {w : Disk D × Nat} {p : Graduation.Code D α} {y : α} (hp : p.Does Graduation.Still)
    (h : (p.play (timely others) files w).outcome = .ok y) : Yield others files w.1 p y := by
  have hidle : (p.play (timely others) files w).files = files ∧ (p.play (timely others) files w).state.1 = w.1 :=
    hp.play_idle Graduation.idle_still
  obtain ⟨hfiles, -⟩ := hidle
  cases hplay : p.play (timely others) files w with
  | mk outcome files' w' =>
    rw [hplay] at h hfiles
    subst h hfiles
    exact ⟨w, w', rfl, hplay⟩

theorem gives_receipt (hl : Lasting others) {C : Graduation.Canon D}
    (h : Yield others files s ((Graduation.Journal.readers C policyEpoch).receipt d) (some r)) :
    ((Graduation.Journal.readers C policyEpoch).receipt d).Gives (timely others) Prod.fst files s (some r) := by
  obtain ⟨w, w', hw, hplay⟩ := h
  obtain ⟨-, hcarried, -⟩ := Graduation.Journal.carried_readers hl (fun _ _ hf => hf) (fencesCarried_refl (C := C)) policyEpoch
  exact hcarried d w (some r) files w' hw hplay rfl

theorem gives_resolution (hl : Lasting others) {C : Graduation.Canon D}
    (h : Yield others files s ((Graduation.Journal.readers C policyEpoch).resolution d) (some q)) :
    ((Graduation.Journal.readers C policyEpoch).resolution d).Gives (timely others) Prod.fst files s (some q) := by
  obtain ⟨w, w', hw, hplay⟩ := h
  obtain ⟨-, -, hcarried⟩ := Graduation.Journal.carried_readers hl (fun _ _ hf => hf) (fencesCarried_refl (C := C)) policyEpoch
  exact hcarried d w (some q) files w' hw hplay rfl

omit [DecidableEq D] in
theorem outcomeOf_direct (hsuccess : r.outcome.success = true) :
    outcomeOf ⟨r, none⟩ = if r.outcome = .applied then .transitioned else .alreadyTransitioned := by
  have hterminal : terminal ⟨r, none⟩ = true := (Bool.or_false _).trans hsuccess
  unfold outcomeOf
  by_cases happlied : r.outcome = .applied
  · rw [if_pos (.inl happlied), if_pos happlied]
  · rw [if_neg (fun h => h.elim happlied nofun), if_pos hterminal, if_neg happlied]

omit [DecidableEq D] in
theorem outcomeOf_resolved (hr : r.outcome.success = false) : outcomeOf ⟨r, some q⟩ = Journal.resolvedOutcome q := by
  have happlied : r.outcome ≠ .applied := fun h => by rw [h] at hr; cases hr
  simp only [outcomeOf, terminal, Journal.resolvedOutcome, happlied, hr, Option.any_some, Bool.false_or, false_or]
  cases q.outcome <;> rfl

variable (answers) in
theorem gives_requireMutation (hl : Lasting others) (hstands : Stands C.toCanon i effective)
    (hsuccess : effective.effectiveOutcome.success = true) (hr : Recordable C policyEpoch others F s x effective)
    (hsame : Graduation.Journal.SameMutation i.toMutationBinding effective.receipt.toMutationBinding) :
    (Journal.requireMutation C policyEpoch (x.claimed effective C) effective.receipt).Gives (world others answers) Prod.fst F s () ∧
      Wanted C effective (x.claimed effective C) := by
  obtain ⟨r, resolution⟩ := effective
  cases resolution with
  | none =>
    have hreceipt : r.outcome.success = true := hsuccess
    have hmatches : Journal.MatchesReceipt (x.claimed ⟨r, none⟩ C) r := ⟨rfl, outcomeOf_direct hreceipt, rfl, rfl⟩
    rw [Journal.requireMutation, if_pos hreceipt]
    exact ⟨Prog.Gives.require hmatches, hmatches⟩
  | some q =>
    obtain ⟨⟨hintent, hop, htarget, hexternal, hlease, howner⟩, hresolved, hterminal⟩ := hstands.resolution q rfl
    obtain ⟨hread, hresponse, htime⟩ := hr.resolution q rfl
    obtain ⟨hrIntent, hrOp, -, hrExternal⟩ := hstands.receipt
    have hcloses : Journal.Closes C q r := by
      refine ⟨hresolved, hop.trans hrOp.symm, htarget.trans (Graduation.Journal.SameMutation.target hsame),
        hintent.trans hrIntent.symm, ?_, howner.trans hsame.2.2.2.1, hlease.trans hsame.2.2.2.2.1, Int.le_of_eq htime.symm⟩
      rw [hexternal, ← hrExternal]
    have hmatches : Journal.MatchesResolution (x.claimed ⟨r, some q⟩ C) q :=
      ⟨outcomeOf_resolved (not_success hterminal), hresponse.symm, htime.symm⟩
    rw [Journal.requireMutation, if_neg (Bool.eq_false_iff.mp (not_success hterminal)), if_pos hterminal]
    refine ⟨(Prog.Gives.ofOption rfl).bind ((gives_resolution hl hread).within.bind ((Prog.Gives.ofOption rfl).bind ?_)), rfl, hmatches⟩
    exact (Prog.Gives.require ⟨rfl, hcloses⟩).bind (Prog.Gives.require hmatches)

theorem gives_validateClaimed (hl : Lasting others) (hreleased : Released answers x) (hi : ReleaseIntent x i)
    (hstands : Stands C.toCanon i effective) (hsuccess : effective.effectiveOutcome.success = true)
    (hr : Recordable C policyEpoch others F s x effective) :
    (Journal.validateClaimed C policyEpoch (x.claimed effective C)).Gives (world others answers) Prod.fst F s () ∧
      Wanted C effective (x.claimed effective C) := by
  obtain ⟨hbinds, hsame⟩ := binds_of_yield hreleased hi hstands hr.receipt
  obtain ⟨hmutation, hwanted⟩ := gives_requireMutation answers hl hstands hsuccess hr hsame
  refine ⟨?_, hwanted⟩
  refine (gives_port (gives_orRaise hreleased.claim)).bind ((gives_port (gives_orRaise hreleased.authorization)).bind ?_)
  refine (Prog.Gives.ofOption rfl).bind ((Prog.Gives.ofOption rfl).bind ?_)
  refine (gives_receipt hl hr.receipt).within.bind ((Prog.Gives.ofOption rfl).bind ?_)
  exact (Prog.Gives.require hbinds).bind hmutation

theorem put_left (t : Record D) : (Files.put (k := Sum.inr (.transition x.operationId)) F (.bound t)).left = F.left := by
  funext k
  exact Files.put_ne (k := Sum.inr (.transition x.operationId)) F _ nofun

theorem Recordable.after_transition (hr : Recordable C policyEpoch others F s x effective) :
    Recordable C policyEpoch others (Files.put (k := Sum.inr (.transition x.operationId)) F (.bound (x.transition effective))) s x
      effective where
  window := hr.window
  transition := .inr (Files.put_self (k := Sum.inr (.transition x.operationId)) F _)
  receipt := by rw [put_left]; exact hr.receipt
  resolution := by rw [put_left]; exact hr.resolution
  identity := by rw [put_transition nofun]; exact hr.identity
  claimed := by rw [put_transition nofun]; exact hr.claimed

theorem goes_recordClaimed (hl : Lasting others) (hreleased : Released answers x) (hi : ReleaseIntent x i)
    (hstands : Stands C.toCanon i effective) (hsuccess : effective.effectiveOutcome.success = true)
    (hr : Recordable C policyEpoch others F s x effective) :
    ∃ F', (Journal.recordClaimedReleaseTransition C policyEpoch (x.claimed effective C)).Goes (world others answers) Prod.fst F s () F' s := by
  have hchain := (gives_validateClaimed hl hreleased hi hstands hsuccess hr).1
  have hne : (Sum.inr (.claimed (C.claimedDigest (x.claimed effective C))) : Graduation.Key D ⊕ Key D) ≠
      Sum.inr (.claimedIdentity x.claim.claimDigest) := nofun
  have hindex := hr.claimed
  rw [← Files.put_ne (k := Sum.inr (.claimedIdentity x.claim.claimDigest)) F (.bound (x.claimed effective C)) hne] at hindex
  have hinstall : install.Gives (world others answers) Prod.fst F s () := gives_port (gives_orRaise hreleased.store)
  exact ⟨_, (Prog.Gives.require x.hold.isolated).goes.bind (hchain.goes.bind
    (hinstall.goes.bind ((Journal.goes_create hr.identity).bind (Journal.goes_create hindex))))⟩

theorem goes_transitionRecords (hl : Lasting others) (hreleased : Released answers x) (hi : ReleaseIntent x i)
    (hstands : Stands C.toCanon i effective) (hsuccess : effective.effectiveOutcome.success = true)
    (hr : Recordable C policyEpoch others F s x effective) :
    ∃ F', (transitionRecords C policyEpoch x effective).Goes (world others answers) Prod.fst F s
      (x.transition effective, some (x.claimed effective C)) F' s := by
  obtain ⟨F', hclaimed⟩ := goes_recordClaimed hl hreleased hi hstands hsuccess hr.after_transition
  refine ⟨F', (Prog.Gives.require x.hold.isolated).goes.bind ?_⟩
  refine (goes_recordReleaseTransition hreleased hr.window hr.transition).bind ?_
  rw [if_pos (hstands.terminal_eq.trans hsuccess)]
  exact (Prog.Gives.require x.hold.isolated).goes.bind (hclaimed.bind Prog.gives_done.goes)

omit [DecidableEq D] in
theorem unsuccessful_of_quiet {a : Action (Both (Graduation.Rec (D := D)) (Rec (D := D))) (Graduation.Port D ⊕ Port D)}
    (h : Quiet a) : Unsuccessful a := by
  cases a with
  | publish k v => exact h.elim
  | read k => trivial
  | port q => trivial

theorem does_unsuccessful (hstands : Stands C.toCanon i effective) (hsuccess : effective.effectiveOutcome.success = false) :
    (transitionRecords C policyEpoch x effective).Does Unsuccessful := by
  have hterminal : terminal effective = false := hstands.terminal_eq.trans hsuccess
  have houtcome : outcomeOf effective = .reconciliationRequired := by
    obtain ⟨r, resolution⟩ := effective
    cases resolution with
    | none =>
      have hr : r.outcome.success = false := hsuccess
      have happlied : r.outcome ≠ .applied := fun h => by rw [h] at hr; cases hr
      rw [outcomeOf, if_neg (fun h => h.elim happlied nofun), hterminal]
      rfl
    | some q =>
      rw [outcomeOf_resolved (not_success (hstands.resolution q rfl).2.2)]
      cases houtcome : q.outcome <;>
        simp_all [Executor.EffectiveResult.effectiveOutcome, Graduation.EffectiveOutcome.success, Graduation.MutationOutcome.success,
          Journal.resolvedOutcome]
  refine Prog.Does.require_bind fun _ => Prog.Does.bind ?_ fun _ => ?_
  · refine Prog.Does.require_bind fun _ => ?_
    refine ((Journal.quiet_requireReleaseAuthorization _).mono fun _ => unsuccessful_of_quiet).bind fun _ => ?_
    refine (quiet_install.mono fun _ => unsuccessful_of_quiet).bind fun _ => ⟨houtcome, fun published => ?_⟩
    cases published with
    | taken => exact ⟨trivial, fun found => Journal.does_requireSame (k := .transition x.operationId) found⟩
    | created => trivial
    | failed => trivial
    | lost => trivial
  · rw [if_neg (Bool.eq_false_iff.mp hterminal)]
    trivial

theorem recordable_of_play (hreleased : Released answers x) (hstands : Stands C.toCanon i effective)
    (hsuccess : effective.effectiveOutcome.success = true)
    (hplay : (transitionRecords C policyEpoch x effective).play (world others answers) F w =
      ⟨.ok (x.transition effective, some (x.claimed effective C)), F', w'⟩) : Recordable C policyEpoch others F w.1 x effective := by
  obtain ⟨_, w₁, hw₁, -, h₁⟩ := Prog.Does.require.played_bind idle_quiet rfl hplay
  obtain ⟨⟨⟩, F₂, w₂, htransition, h₂⟩ := Prog.play_bind_inv h₁
  obtain ⟨hwindow, hfile, rfl, hw₂⟩ := transition_of_play hreleased htransition
  rw [if_pos (hstands.terminal_eq.trans hsuccess)] at h₂
  obtain ⟨_, w₃, hw₃, -, h₃⟩ := Prog.Does.require.played_bind idle_quiet rfl h₂
  obtain ⟨⟨⟩, F₄, w₄, hclaimed, -⟩ := Prog.play_bind_inv h₃
  obtain ⟨hchain, hidentity, hindex⟩ := claimed_of_play hclaimed
  rw [put_transition nofun] at hidentity hindex
  obtain ⟨m, hm, hmutation⟩ := Journal.yields_validateClaimed hchain
  have hs : w₃.1 = w.1 := hw₃.trans (hw₂.trans hw₁)
  rw [hs] at hm hmutation
  rw [put_left] at hm
  -- the receipt that was read is the one of the result
  obtain rfl : m = effective.receipt := by
    obtain ⟨hdigest, -⟩ := Graduation.Journal.yield_readReceipt Graduation.Journal.still_readers.intent hm
    exact Graduation.Receipt.ext_body (Graduation.ReceiptBody.digest_inj C.toCanon hdigest)
  refine ⟨hwindow, hfile, hm, fun q hq => ?_, hidentity, hindex⟩
  obtain ⟨q', hdigest, hread, -, hresponse, htime⟩ := Journal.yields_requireMutation (hstands.resolution q hq).2.2 hmutation
  rw [put_left] at hread
  obtain rfl : q' = q := by
    have hdigest : effective.resolution.map (fun q => q.digest C.toCanon) = some (q'.digest C.toCanon) := hdigest
    rw [hq] at hdigest
    exact (Graduation.Resolution.digest_inj C.toCanon (Option.some.inj hdigest)).symm
  exact ⟨hread, hresponse.symm, htime.symm⟩

end Recording

/-- A release that took effect is recorded as it was resolved just when receipt and
resolution agree and nothing durable is in the way; without effect it never is. -/
theorem recorded_as_resolved_iff (hl : Lasting others) (hreleased : Released answers x) (hi : ReleaseIntent x i)
    (hreturned : Returned C E others answers i effective F w) :
    RecordedAsResolved C E.policyEpoch others answers F w x effective ↔
      (effective.effectiveOutcome.success = true → Recordable C E.policyEpoch others F w.1 x effective) := by
  obtain ⟨-, hstands⟩ := hreturned.stands
  constructor
  · rintro ⟨hrecorded, -⟩ hsuccess
    obtain ⟨F', w', hplay, -⟩ := hrecorded hsuccess
    exact recordable_of_play hreleased hstands hsuccess hplay
  · intro hr
    refine ⟨fun hsuccess => ?_, does_unsuccessful hstands⟩
    obtain ⟨F', hgoes⟩ := goes_transitionRecords hl hreleased hi hstands hsuccess (hr hsuccess)
    obtain ⟨w', -, hplay⟩ := hgoes w rfl
    exact ⟨F', w', hplay, (gives_validateClaimed hl hreleased hi hstands hsuccess (hr hsuccess)).2⟩

end Statement

namespace Sample

open Graduation.Sample (target operation)

def stageIdentity (stage : Graduation.Stage) : Graduation.ExternalIdentity Form :=
  ⟨target, operation, stage, .text "", some (.number 40)⟩

def binding (stage : Graduation.Stage) (parent : Form) (auth claim : Option Form) : Graduation.MutationBinding Form :=
  ⟨target, operation, stage, some parent, "", .number 2, .number 3, .number 4, .number 5, .number 6, auth, claim, stageIdentity stage⟩

/-- The hold of the merge group, whose predecessor was resolved. -/
def holdIntent : Intent Form where
  toMutationBinding := binding .mergeGroupHold (.number 31) none none
  parentStage := some .queueEnqueue
  parentReceipt := none
  parentResolutionDigest := some (.number 30)
  requestDigest := .number 7
  recordedAt := 0
  valid := by decide

def holdReceipt : Receipt Form where
  toMutationBinding := binding .mergeGroupHold (.number 31) none none
  intentDigest := holdIntent.digest Form.canon
  outcome := .applied
  dispatchStarted := true
  responseDigest := .number 33
  observedAt := 0
  valid := by decide

def auth : Authorization Form := ⟨target, operation, .number 50, "group", "run", "nonce", ⟨"issuer", 99, .number 41⟩, 0, 1000⟩

def claim : Claim Form := ⟨target, operation, .number 51, "group", "run", "nonce", ⟨"issuer", 99, .number 41⟩⟩

def arguments : Arguments Form where
  toMainBound := target
  operationId := operation
  hold := ⟨"group", "run", "nonce", ⟨"issuer", 99, .number 41⟩, by decide⟩
  auth := auth
  claim := claim

/-- The release, after the hold. -/
def releaseIntent : Intent Form where
  toMutationBinding := binding .releaseTransition (holdIntent.digest Form.canon) (some (.number 50)) (some (.number 51))
  parentStage := some .mergeGroupHold
  parentReceipt := some holdReceipt.toReceiptBody
  parentResolutionDigest := none
  requestDigest := .number 7
  recordedAt := 0
  valid := by decide

def request : Graduation.StageRequest Form where
  toMainBound := target
  operationId := operation
  stage := .releaseTransition
  leaseEpochDigest := .number 3
  requestDigest := .number 7
  externalIdentity := (stageIdentity .releaseTransition).digest Form.canon
  authorizationExpiresAt := some 1000
  fields := [("hold_run_id", "run")]

def observation : Graduation.ObservationRequest Form where
  toMainBound := target
  operationId := operation
  stage := .releaseTransition
  leaseEpochDigest := .number 3
  requestDigest := .number 8
  externalIdentity := (stageIdentity .releaseTransition).digest Form.canon
  objectId := "run"
  fields := [("hold_run_id", "run")]

def executor : Executor Form := ⟨none, some "provider", some "1", none, fun _ => true, true⟩

def canon : Canon Form where
  toCanon := Form.canon
  claimedDigest c := .pair c.claimDigest c.mutationReceiptDigest

/-- The provider's answer to the release is lost, or comes back. -/
def others (lost : Bool) (n : Nat) : (p : Graduation.Port Form) → p.Answer
  | .clock => .returned n
  | .lease _ => .returned (some ⟨target, operation, "", .number 2, .number 3, .number 4, 1000⟩)
  | .rollbackAuthorization _ => .returned (some ⟨.number 9, .number 4, .number 5, 1000⟩)
  | .releaseAuthorization _ => .returned (some ⟨target, operation, .number 50, .number 6, .number 10, .number 11, "", .number 2, 0, 1000⟩)
  | .releaseClaim _ =>
    .returned (some ⟨target, operation, .number 51, .number 50, .number 52, "group", "run", "nonce", .number 40, .number 2, .number 3,
      99, 1000, 0⟩)
  | .dispatched d request => if lost then ⟨true, .raised "timeout"⟩ else Graduation.Sample.others true n (.dispatched d request)
  | p => Graduation.Sample.others true n p

def answers : (p : Port Form) → p.Answer
  | .install => .returned ()
  | .releaseAuthorization _ => .returned (some auth)
  | .releaseClaim _ => .returned (some claim)
  | .requireBranch _ => .returned ()

def around (lost : Bool) := world (others lost) answers

/-- The hold is durable with its receipt. -/
def held (lost : Bool) : Play (Both (Graduation.Rec (D := Form)) (Rec (D := Form))) Graduation.Exc Unit (Disk Form × Nat) :=
  (ofStage (do
    Graduation.Journal.recordMutationIntent Form.canon none holdIntent
    Graduation.Journal.recordMutationReceipt Form.canon none holdReceipt)).play (around lost) (fun _ => .absent) (Disk.empty, 0)

def executed (lost : Bool) :=
  (ofStage (Graduation.Coordinator.executeEffective Form.canon executor releaseIntent request)).play (around lost) (held lost).files
    (held lost).state

def recovered :=
  (ofStage (Graduation.Coordinator.recoverEffective Form.canon executor releaseIntent observation request)).play (around true)
    (executed true).files (executed true).state

end Sample

namespace Sample

theorem lasting_others (lost : Bool) : Lasting (others lost) := by
  intro n n' p hp
  cases p with
  | dispatched d request => cases hp
  | clock => cases hp
  | observe d request => cases hp
  | _ => rfl

theorem released : Released answers arguments where
  authorization := rfl
  claim := rfl
  branch := rfl
  store := rfl
  authorized := ⟨rfl, rfl, rfl, rfl, rfl, rfl⟩
  claimed := ⟨rfl, rfl, rfl, rfl, rfl, rfl⟩

theorem release_intent : ReleaseIntent arguments releaseIntent := ⟨rfl, rfl, rfl, rfl, rfl⟩

theorem absent_executed (k : Key Form) : (executed false).files (.inr k) = .absent := by
  simp only [executed, held, ofStage, around, world, Prog.play_within, Files.withLeft]

theorem executed_concludes : (executed false).outcome.toOption.isSome = true ∧
    ∀ effective ∈ (executed false).outcome.toOption, effective.effectiveOutcome.success = true ∧
      effective.resolution = none ∧ (0 ≤ effective.receipt.observedAt ∧ effective.receipt.observedAt ≤ 1000) ∧
      (((Graduation.Journal.readers canon.toCanon none).receipt (effective.receipt.digest canon.toCanon)).play
        (timely (others false)) (executed false).files.left (executed false).state).outcome = .ok (some effective.receipt) := by
  decide +kernel

theorem recovered_concludes : recovered.outcome.toOption.isSome = true ∧
    ∀ effective ∈ recovered.outcome.toOption, effective.effectiveOutcome.success = true ∧
      ((transitionRecords canon none arguments effective).play (around true) recovered.files recovered.state).outcome =
        .error (.journal "claimed transition does not match fence resolution") := by
  decide +kernel

end Sample

/-- A release whose answer came back is recorded as it was resolved. -/
theorem recorded_as_resolved_of_answer : ∃ effective, (Sample.executed false).outcome = .ok effective ∧
    effective.effectiveOutcome.success = true ∧
    RecordedAsResolved Sample.canon none (Sample.others false) Sample.answers (Sample.executed false).files (Sample.executed false).state
      Sample.arguments effective := by
  obtain ⟨hends, hresult⟩ := Sample.executed_concludes
  have habsent := Sample.absent_executed
  cases hrun : Sample.executed false with
  | mk outcome files' w' =>
    rw [hrun] at hends hresult habsent
    cases outcome with
    | error e => cases hends
    | ok effective =>
      obtain ⟨hsuccess, hresolution, hwindow, hread⟩ := hresult effective rfl
      have hreturned : Returned Sample.canon Sample.executor (Sample.others false) Sample.answers Sample.releaseIntent effective files' w' :=
        .executed Sample.request hrun
      refine ⟨effective, rfl, hsuccess, ?_⟩
      refine (recorded_as_resolved_iff (Sample.lasting_others false) Sample.released Sample.release_intent hreturned).mpr fun _ => ?_
      refine ⟨hwindow, .inl (habsent _), ?_, fun q hq => ?_, .inl (habsent _), .inl (habsent _)⟩
      · exact yield_of_outcome (Graduation.Journal.still_readers.receipt _) hread
      · cases hresolution.symm.trans hq

/-- A release whose answer was lost, and that was seen to have happened afterwards, is
refused by the journal. -/
theorem not_recorded_as_resolved_of_recovery : ∃ effective, Sample.recovered.outcome = .ok effective ∧
    effective.effectiveOutcome.success = true ∧
    ((transitionRecords Sample.canon none Sample.arguments effective).play (Sample.around true) Sample.recovered.files
      Sample.recovered.state).outcome = .error (.journal "claimed transition does not match fence resolution") ∧
    ¬ RecordedAsResolved Sample.canon none (Sample.others true) Sample.answers Sample.recovered.files Sample.recovered.state
      Sample.arguments effective := by
  obtain ⟨hends, hresult⟩ := Sample.recovered_concludes
  cases hrun : Sample.recovered with
  | mk outcome files' w' =>
    rw [hrun] at hends hresult
    cases outcome with
    | error e => cases hends
    | ok effective =>
      obtain ⟨hsuccess, hrefused⟩ := hresult effective rfl
      refine ⟨effective, rfl, hsuccess, hrefused, fun h => ?_⟩
      obtain ⟨F', w, hplay, -⟩ := h.1 hsuccess
      rw [show (transitionRecords Sample.canon none Sample.arguments effective).play (Sample.around true) files' w' = _ from hplay] at hrefused
      cases hrefused

end AvoCorrelate.MainRollback.Transition
