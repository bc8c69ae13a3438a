import AvoCorrelate.MainRollback.Cleanup.Coordinator
import AvoCorrelate.Lib.Told
/-!
# What a cleanup knows when it acts

A record is linked only after the records that it names were loaded and compared, and
the ref is deleted only by the call that linked the dispatch owner. Everything else a
call does looks.
-/
open AvoLib

namespace AvoCorrelate.MainRollback.Cleanup

variable {D : Type}

abbrev Log (D : Type) := List (Event NoFile (Port.Answer (D := D)))

/-- Neither a record is linked nor the ref deleted. -/
def Looks : Action NoFile (Port D) → Prop
  | .port (.link _ _) => False
  | .port (.linkOwner _) => False
  | .port (.cleanupRollback _) => False
  | _ => True

/-- The ref is not deleted. -/
def Spares : Action NoFile (Port D) → Prop
  | .port (.cleanupRollback _) => False
  | _ => True

theorem Looks.spares {a : Action NoFile (Port D)} (h : Looks a) : Spares a := by
  cases a with
  | read k => trivial
  | publish k v => trivial
  | port p =>
    cases p with
    | cleanupRollback i => exact h
    | _ => trivial

/-- The event is a call of the provider to delete the ref. -/
def deletes : Event NoFile (Port.Answer (D := D)) → Bool
  | .port (.cleanupRollback _) _ => true
  | _ => false

/-- The call loaded the record from its index. -/
def Loaded (h : Log D) (k : Kind) (operationId : D) (r : Rec D k) : Prop := .port (.load k operationId) (.found r) ∈ h

/-- The call loaded the record or linked it. -/
def Kept (h : Log D) (k : Kind) (r : Rec D k) : Prop := Loaded h k r.operationId r ∨ .port (.link k r) .created ∈ h

theorem Kept.suffix {h h' : Log D} {k : Kind} {r : Rec D k} (hk : Kept h k r) (hs : h <:+ h') : Kept h' k r := by
  rcases hk with hk | hk
  · exact .inl (hs.mem hk)
  · exact .inr (hs.mem hk)

section Rests
variable (C : Canon D)

/-- The records that a record of its kind rests on are `At` their places, and agree with it. -/
def Rests (At : (k : Kind) → D → Rec D k → Prop) : (k : Kind) → Rec D k → Prop
  | .result, _ => True
  | .intent, i => CleanupIntent.Valid C i ∧
    ∃ r rollback auth, At .result (CleanupIntent.operationId i) r ∧ Journal.BoundIntent i r rollback auth
  | .receipt, r => ∃ i, At .intent (CleanupReceipt.operationId r) i ∧ Journal.BoundReceipt C r i
  | .observation, o => ∃ i r, At .intent (CleanupObservation.operationId o) i ∧
    At .receipt (CleanupObservation.operationId o) r ∧ Journal.BoundObservation C o i r
  | .terminal, e => Https (TerminalEvidence.toCandidate e).pullRequestUrl ∧
    ∃ i r, At .intent (TerminalEvidence.operationId e) i ∧ At .receipt (TerminalEvidence.operationId e) r ∧
      Journal.BoundTerminal C e i r ∧
      (r.outcome.unsettled = true → ∃ o, At .observation (TerminalEvidence.operationId e) o ∧ Journal.ShowsGone C e i r o) ∧
      (r.outcome.unsettled = false → TerminalEvidence.cleanupObservationDigest e = none)

/-- The intent that a dispatch owner names is at its place. -/
def OwnerRests (At : (k : Kind) → D → Rec D k → Prop) (m : DispatchOwner D) : Prop :=
  ∃ i, At .intent m.operationId i ∧ m.intentDigest = i.digest C ∧ m.candidateRef = i.candidateRef

variable {C} {At At' : (k : Kind) → D → Rec D k → Prop}

theorem Rests.mono {k : Kind} {r : Rec D k} (hr : Rests C At k r) (hAt : ∀ k operationId r, At k operationId r → At' k operationId r) :
    Rests C At' k r := by
  cases k with
  | result => trivial
  | intent =>
    obtain ⟨hv, result, rollback, auth, hat, hb⟩ := hr
    exact ⟨hv, result, rollback, auth, hAt _ _ _ hat, hb⟩
  | receipt =>
    obtain ⟨i, hat, hb⟩ := hr
    exact ⟨i, hAt _ _ _ hat, hb⟩
  | observation =>
    obtain ⟨i, receipt, hi, hr, hb⟩ := hr
    exact ⟨i, receipt, hAt _ _ _ hi, hAt _ _ _ hr, hb⟩
  | terminal =>
    obtain ⟨hurl, i, receipt, hi, hr, hb, hgone, hnone⟩ := hr
    refine ⟨hurl, i, receipt, hAt _ _ _ hi, hAt _ _ _ hr, hb, fun hu => ?_, hnone⟩
    obtain ⟨o, ho, hshows⟩ := hgone hu
    exact ⟨o, hAt _ _ _ ho, hshows⟩

theorem OwnerRests.mono {m : DispatchOwner D} (hm : OwnerRests C At m)
    (hAt : ∀ k operationId r, At k operationId r → At' k operationId r) : OwnerRests C At' m := by
  obtain ⟨i, hi, hb⟩ := hm
  exact ⟨i, hAt _ _ _ hi, hb⟩

end Rests

def Call.recovers : Call D → Bool
  | .execute _ _ => false
  | .recover _ _ _ => true

section Ruling
variable (C : Canon D) (call : Call D)

/-- The call linked the dispatch owner of the intent. A recovery had loaded one before. -/
def Claimed (h : Log D) (i : CleanupIntent D) : Prop :=
  ∃ m h₁, (.port (.linkOwner m) .created :: h₁) <:+ h ∧ m.operationId = i.operationId ∧ m.intentDigest = i.digest C ∧
    (call.recovers = true → ∃ m', .port (.loadOwner (i.digest C)) (.found m') ∈ h₁)

def rules (h : Log D) : Action NoFile (Port D) → Prop
  | .port (.link k r) => Rests C (Loaded h) k r
  | .port (.linkOwner m) => OwnerRests C (Loaded h) m
  | .port (.cleanupRollback i) => Kept h .intent i ∧ Claimed C call h i ∧ ∀ e ∈ h, deletes e = false
  | _ => True

end Ruling

variable {C : Canon D} {call : Call D} {h h' : Log D}

theorem rules_of_looks {a : Action NoFile (Port D)} (ha : Looks a) : rules C call h a := by
  cases a with
  | read k => trivial
  | publish k v => trivial
  | port p =>
    cases p with
    | link k r => cases ha
    | linkOwner m => cases ha
    | cleanupRollback i => cases ha
    | _ => trivial

theorem permits_looks : Permits (rules C call) Looks h := fun _ _ _ ha => rules_of_looks ha

theorem loaded_suffix (hs : h <:+ h') (k : Kind) (operationId : D) (r : Rec D k) (hl : Loaded h k operationId r) :
    Loaded h' k operationId r := hs.mem hl

/-! ## The journal looks -/

namespace Journal

variable [DecidableEq D] {α : Type}

variable {k : Kind} {operationId intentDigest : D} {check : Rec D k → Code D Unit} {i : CleanupIntent D}
  {o : CleanupObservation D} {e : TerminalEvidence D} {r : Rec D k} {candidateRef : String} {recordedAt : Instant}

theorem looks_read (hc : ∀ r, (check r).Does Looks) : (read k operationId check).Does Looks := by
  refine ⟨trivial, fun found => ?_⟩
  cases found with
  | missing => trivial
  | malformed => trivial
  | found r =>
    refine (hc r).attempt.bind fun x => ?_
    cases x with
    | error e => trivial
    | ok u => exact Prog.Does.require.bind fun _ => trivial

omit [DecidableEq D] in
theorem looks_readOther {kind : String} {found : Found α} : (readOther kind found : Code D _).Does Looks := by
  cases found <;> trivial

omit [DecidableEq D] in
theorem looks_readRollbackIntent : (readRollbackIntent operationId).Does Looks :=
  ⟨trivial, fun _ => looks_readOther⟩

omit [DecidableEq D] in
theorem looks_readAuthorization : (readAuthorization operationId).Does Looks :=
  ⟨trivial, fun _ => looks_readOther⟩

omit [DecidableEq D] in
theorem looks_verify {what : String} {x : Shown D} : (verify what x).Does Looks := ⟨trivial, fun _ => Prog.Does.require⟩

omit [DecidableEq D] in
theorem looks_requireResult {r : ResultReceipt D} : (requireResult r).Does Looks := ⟨trivial, fun _ => Prog.Does.require⟩

theorem looks_readResult : (readResult operationId).Does Looks := looks_read fun _ => looks_requireResult

theorem looks_requireIntent : (requireIntent C i).Does Looks := by
  refine Prog.Does.require.bind fun _ => looks_readResult.bind fun result => ?_
  refine looks_readRollbackIntent.bind fun rollback => looks_readAuthorization.bind fun auth => ?_
  cases result with
  | none => trivial
  | some result =>
    cases rollback with
    | none => trivial
    | some rollback =>
      cases auth with
      | none => trivial
      | some auth => exact Prog.Does.require.bind fun _ => looks_verify

theorem looks_readIntent : (readIntent C operationId).Does Looks := looks_read fun _ => looks_requireIntent

theorem looks_requireReceipt {r : CleanupReceipt D} : (requireReceipt C r).Does Looks := by
  refine looks_readIntent.bind fun _ => Prog.Does.ofOption.bind fun i => Prog.Does.require.bind fun _ => ?_
  exact looks_readResult.bind fun _ => Prog.Does.ofOption.bind fun _ => looks_verify

theorem looks_readReceipt : (readReceipt C operationId).Does Looks := looks_read fun _ => looks_requireReceipt

theorem looks_requireObservation : (requireObservation C o).Does Looks := by
  refine looks_readReceipt.bind fun receipt => looks_readIntent.bind fun intent => ?_
  cases receipt with
  | none => trivial
  | some r =>
    cases intent with
    | none => trivial
    | some i => exact Prog.Does.require.bind fun _ => looks_verify

theorem looks_readObservation : (readObservation C operationId).Does Looks :=
  looks_read fun _ => looks_requireObservation

theorem looks_requireTerminal : (requireTerminal C e).Does Looks := by
  refine Prog.Does.require.bind fun _ => looks_readIntent.bind fun intent => looks_readReceipt.bind fun receipt => ?_
  cases intent with
  | none => trivial
  | some i =>
    cases receipt with
    | none => trivial
    | some r =>
      refine Prog.Does.require.bind fun _ => ?_
      dsimp only
      split
      · refine looks_readObservation.bind fun _ => Prog.Does.ofOption.bind fun _ => Prog.Does.require.bind fun _ => ?_
        exact looks_verify
      · exact Prog.Does.require.bind fun _ => looks_verify

theorem looks_readTerminal : (readTerminal C operationId).Does Looks := looks_read fun _ => looks_requireTerminal

theorem looks_readDispatchOwner : (readDispatchOwner C intentDigest).Does Looks := by
  refine ⟨trivial, fun found => ?_⟩
  cases found with
  | missing => trivial
  | malformed => trivial
  | found m => exact looks_readIntent.bind fun _ => Prog.Does.ofOption.bind fun _ => Prog.Does.require.bind fun _ => trivial

theorem looks_checkOf : (checkOf C k r).Does Looks := by
  cases k with
  | result => exact looks_requireResult
  | intent => exact looks_requireIntent
  | receipt => exact looks_requireReceipt
  | observation => exact looks_requireObservation
  | terminal => exact looks_requireTerminal

omit [DecidableEq D] in
theorem looks_put : (put : Code D Unit).Does Looks := ⟨trivial, fun _ => Prog.Does.require⟩

theorem spares_record : (record C k r).Does Spares := by
  refine (looks_checkOf.mono fun _ ha => ha.spares).bind fun _ => (looks_put.mono fun _ ha => ha.spares).bind fun _ => ?_
  refine ⟨trivial, fun linked => ?_⟩
  cases linked with
  | created => trivial
  | failed => trivial
  | lost => trivial
  | taken =>
    refine ⟨trivial, fun found => ?_⟩
    cases found with
    | missing => trivial
    | malformed => trivial
    | found old => exact Prog.Does.require

theorem spares_claimDispatch : (claimDispatch C operationId intentDigest candidateRef recordedAt).Does Spares := by
  refine (looks_readIntent.mono fun _ ha => ha.spares).bind fun _ => Prog.Does.ofOption.bind fun i => ?_
  refine Prog.Does.require.bind fun _ => (looks_put.mono fun _ ha => ha.spares).bind fun _ => ⟨trivial, fun linked => ?_⟩
  cases linked with
  | created => trivial
  | failed => trivial
  | lost => trivial
  | taken =>
    refine ⟨trivial, fun found => ?_⟩
    cases found with
    | missing => trivial
    | malformed => trivial
    | found current =>
      dsimp only
      split
      · trivial
      · exact (looks_readDispatchOwner.mono fun _ ha => ha.spares).bind fun _ => Prog.Does.require.bind fun _ => trivial

/-! ## What the journal's functions know -/

variable {F : Files (NoFile)}

theorem read_safe (hc : ∀ r, (check r).Does Looks) : (read k operationId check).Safe F (rules C call)
      (Prog.Returning fun h' x => ∀ r, x = some r → Loaded h' k operationId r ∧ r.operationId = operationId) h := by
  refine ⟨rules_of_looks trivial, fun found => ?_⟩
  cases found with
  | missing => exact fun r hr => nomatch hr
  | malformed => trivial
  | found r =>
    refine ((hc r).safe permits_looks).suffix.attempt_bind fun h₁ x hs => ?_
    cases x with
    | error e => trivial
    | ok u =>
      refine Prog.Safe.require_bind (fun hop => ?_) trivial
      rintro r' ⟨⟩
      exact ⟨hs.1.mem List.mem_cons_self, hop⟩

theorem requireIntent_safe :
    (requireIntent C i).Safe F (rules C call) (Prog.Returning fun h' _ => Rests C (Loaded h') .intent i) h := by
  refine Prog.Safe.require_bind (fun hvalid => ?_) trivial
  refine (read_safe fun _ => looks_requireResult).seq fun h₁ result _ hresult => ?_
  refine (looks_readRollbackIntent.safe permits_looks).suffix.bind (fun h₂ rollback hs₂ => ?_) fun _ _ _ => trivial
  refine (looks_readAuthorization.safe permits_looks).suffix.bind (fun h₃ auth hs₃ => ?_) fun _ _ _ => trivial
  cases result with
  | none => trivial
  | some result =>
    cases rollback with
    | none => trivial
    | some rollback =>
      cases auth with
      | none => trivial
      | some auth =>
        refine Prog.Safe.require_bind (fun hb => ?_) trivial
        refine (looks_verify.safe permits_looks).suffix.mono fun h₄ x hx => ?_
        cases x with
        | error e => trivial
        | ok u =>
          exact ⟨hvalid, result, rollback, auth, (hs₂.1.trans (hs₃.1.trans hx.1)).mem (hresult result rfl).1, hb⟩

theorem requireReceipt_safe {r : CleanupReceipt D} :
    (requireReceipt C r).Safe F (rules C call) (Prog.Returning fun h' _ => Rests C (Loaded h') .receipt r) h := by
  refine (read_safe fun _ => looks_requireIntent).seq fun h₁ intent _ hintent => ?_
  refine Prog.Safe.ofOption_bind (fun i hi => Prog.Safe.require_bind (fun hb => ?_) trivial) trivial
  refine (Prog.Does.safe (looks_readResult.bind fun _ => Prog.Does.ofOption.bind fun _ => looks_verify)
    permits_looks).suffix.mono fun h₂ x hx => ?_
  cases x with
  | error e => trivial
  | ok u => exact ⟨i, hx.1.mem (hintent i hi).1, hb⟩

theorem requireObservation_safe :
    (requireObservation C o).Safe F (rules C call) (Prog.Returning fun h' _ => Rests C (Loaded h') .observation o) h := by
  refine (read_safe fun _ => looks_requireReceipt).seq fun h₁ receipt _ hreceipt => ?_
  refine (read_safe fun _ => looks_requireIntent).seq fun h₂ intent hs₂ hintent => ?_
  cases receipt with
  | none => trivial
  | some r =>
    cases intent with
    | none => trivial
    | some i =>
      refine Prog.Safe.require_bind (fun hb => ?_) trivial
      refine (looks_verify.safe permits_looks).suffix.mono fun h₃ x hx => ?_
      cases x with
      | error e => trivial
      | ok u => exact ⟨i, r, hx.1.mem (hintent i rfl).1, (hs₂.trans hx.1).mem (hreceipt r rfl).1, hb⟩

theorem requireTerminal_safe :
    (requireTerminal C e).Safe F (rules C call) (Prog.Returning fun h' _ => Rests C (Loaded h') .terminal e) h := by
  refine Prog.Safe.require_bind (fun hurl => ?_) trivial
  refine (read_safe fun _ => looks_requireIntent).seq fun h₁ intent _ hintent => ?_
  refine (read_safe fun _ => looks_requireReceipt).seq fun h₂ receipt hs₂ hreceipt => ?_
  cases intent with
  | none => trivial
  | some i =>
    cases receipt with
    | none => trivial
    | some r =>
      refine Prog.Safe.require_bind (fun hb => ?_) trivial
      have hi := (hintent i rfl).1
      have hr := (hreceipt r rfl).1
      dsimp only
      split
      · next hu =>
        refine (read_safe fun _ => looks_requireObservation).seq fun h₃ observation hs₃ hobservation => ?_
        refine Prog.Safe.ofOption_bind (fun o ho => Prog.Safe.require_bind (fun hshows => ?_) trivial) trivial
        refine (looks_verify.safe permits_looks).suffix.mono fun h₄ x hx => ?_
        cases x with
        | error e => trivial
        | ok u =>
          refine ⟨hurl, i, r, ((hs₂.trans hs₃).trans hx.1).mem hi, (hs₃.trans hx.1).mem hr, hb,
            fun _ => ⟨o, hx.1.mem (hobservation o ho).1, hshows⟩, fun hf => ?_⟩
          rw [hu] at hf
          cases hf
      · next hu =>
        refine Prog.Safe.require_bind (fun hnone => ?_) trivial
        refine (looks_verify.safe permits_looks).suffix.mono fun h₃ x hx => ?_
        cases x with
        | error e => trivial
        | ok u => exact ⟨hurl, i, r, (hs₂.trans hx.1).mem hi, hx.1.mem hr, hb, fun ht => absurd ht hu, fun _ => hnone⟩

theorem checkOf_safe :
    (checkOf C k r).Safe F (rules C call) (Prog.Returning fun h' _ => Rests C (Loaded h') k r) h := by
  cases k with
  | result =>
    refine (looks_requireResult.safe permits_looks).mono fun h' x _ => ?_
    cases x <;> trivial
  | intent => exact requireIntent_safe
  | receipt => exact requireReceipt_safe
  | observation => exact requireObservation_safe
  | terminal => exact requireTerminal_safe

theorem record_safe : (record C k r).Safe F (rules C call) (Prog.Returning fun h' _ => Kept h' k r) h := by
  refine checkOf_safe.seq fun h₁ _ _ hrests => ?_
  refine (looks_put.safe permits_looks).suffix.bind (fun h₂ _ hs => ?_) fun _ _ _ => trivial
  refine ⟨hrests.mono (loaded_suffix hs.1), fun linked => ?_⟩
  cases linked with
  | created => exact .inr List.mem_cons_self
  | failed => trivial
  | lost => trivial
  | taken =>
    refine ⟨rules_of_looks trivial, fun found => ?_⟩
    cases found with
    | missing => trivial
    | malformed => trivial
    | found old =>
      change Prog.Safe F (rules C call) _ _ (if old = r then .done () else .raise _)
      split
      · next heq =>
        subst heq
        exact .inl List.mem_cons_self
      · trivial

theorem claimDispatch_safe : (claimDispatch C operationId intentDigest candidateRef recordedAt).Safe F (rules C call)
      (Prog.Returning fun h' won => won = true → ∃ m h₁, (.port (.linkOwner m) .created :: h₁) <:+ h' ∧
        m.operationId = operationId ∧ m.intentDigest = intentDigest ∧ h <:+ h₁) h := by
  refine (read_safe fun _ => looks_requireIntent).suffix.bind (fun h₁ prior hprior => ?_) fun _ _ _ => trivial
  obtain ⟨hs₁, hintent⟩ := hprior
  refine Prog.Safe.ofOption_bind (fun i hi => Prog.Safe.require_bind (fun hb => ?_) trivial) trivial
  refine (looks_put.safe permits_looks).suffix.bind (fun h₂ _ hs₂ => ?_) fun _ _ _ => trivial
  refine ⟨⟨i, hs₂.1.mem (hintent i hi).1, hb.1.symm, hb.2.symm⟩, fun linked => ?_⟩
  cases linked with
  | created => exact fun _ => ⟨_, h₂, List.suffix_refl _, rfl, rfl, hs₁.trans hs₂.1⟩
  | failed => trivial
  | lost => trivial
  | taken =>
    refine ⟨rules_of_looks trivial, fun found => ?_⟩
    cases found with
    | missing => trivial
    | malformed => trivial
    | found current =>
      dsimp only
      split
      · exact fun hw => nomatch hw
      · refine (looks_readDispatchOwner.safe permits_looks).bind (fun h₃ existing _ => ?_) fun _ _ _ => trivial
        exact Prog.Safe.require_bind (fun _ hw => nomatch hw) trivial

theorem readDispatchOwner_safe : (readDispatchOwner C intentDigest).Safe F (rules C call)
      (Prog.Returning fun h' x => ∀ m, x = some m → .port (.loadOwner intentDigest) (.found m) ∈ h') h := by
  refine ⟨rules_of_looks trivial, fun found => ?_⟩
  cases found with
  | missing => exact fun m hm => nomatch hm
  | malformed => trivial
  | found m =>
    refine (looks_readIntent.safe permits_looks).suffix.bind (fun h₁ prior hs => ?_) fun _ _ _ => trivial
    refine Prog.Safe.ofOption_bind (fun i _ => Prog.Safe.require_bind (fun _ => ?_) trivial) trivial
    rintro m' ⟨⟩
    exact hs.1.mem List.mem_cons_self

end Journal

end AvoCorrelate.MainRollback.Cleanup
