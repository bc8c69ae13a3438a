import AvoCorrelate.ExactCas.Journal
/-!
# What the journal calls do

One specification for each journal call, in the program logic: which actions it
takes, and what it makes of the files when it returns. A read leaves the files
alone. A record call publishes its record under its own key, and only when the
records it builds on are there and agree with it (`Supported`).
-/
open AvoLib

namespace AvoCorrelate.ExactCas

variable {H : Doc → Sha256Digest}

/-! ## Links between records -/

def Authorization.Under (a : Authorization H) (act : Activation) : Prop :=
  a.scope.activationDigest = act.activationDigest H ∧ a.scope.source = act.source

def Intent.Under (i : Intent H) (a : Authorization H) : Prop :=
  i.scope = a.scope ∧ i.authorizationDigest = a.authorizationDigest

def DispatchStarted.Under (m : DispatchStarted H) (i : Intent H) : Prop :=
  m.scope = i.scope ∧ m.intentDigest = i.intentDigest

def Receipt.Under (r : Receipt H) (i : Intent H) (m : DispatchStarted H) : Prop :=
  r.scope = i.scope ∧ r.authorizationDigest = i.authorizationDigest ∧ r.intentDigest = i.intentDigest ∧
    r.dispatchMarkerDigest = m.dispatchMarkerDigest

def PostState.Under (o : PostState H) (r : Receipt H) : Prop :=
  o.scope = r.scope ∧ o.authorizationDigest = r.authorizationDigest ∧ o.intentDigest = r.intentDigest ∧
    o.receiptDigest = r.receiptDigest ∧ o.receiptOutcome = r.outcome

def Reconciliation.Over (x : Reconciliation H) (r : Receipt H) (o : PostState H) : Prop :=
  r.outcome = .ambiguous ∧ x.ambiguousReceipt = r.toReceiptBody ∧ x.observation = o.toPostStateBody

/-- The completion closes an exact observation of this receipt, in one of the
two arms, and points to all of them. -/
def Completion.Closes (c : Completion) (r : Receipt H) (o : PostState H) (x : Option (Reconciliation H)) : Prop :=
  o.Exact ∧ (Journal.AppliedArm r o x ∨ Journal.RecoveredArm r o x) ∧
    c.activationDigest = r.scope.activationDigest ∧ c.receiptDigest = r.receiptDigest ∧
    c.postStateObservationDigest = o.canonicalDigest ∧
    c.reconciliationDigest = if Journal.AppliedArm r o x then none else x.map Reconciliation.canonicalDigest

/-- The files hold what the record under key `k` builds on, and it agrees with it. -/
def Supported (F : Files (Rec H)) : (k : Key) → Rec H k → Prop
  | .activation, _ => True
  | .authorization op, a => a.operationId = op ∧ ∃ act, F .activation = .bound act ∧ Authorization.Under a act
  | .intent op, i => i.operationId = op ∧ ∃ a, F (.authorization op) = .bound a ∧ Intent.Under i a
  | .dispatchStarted op, m => m.operationId = op ∧ ∃ i, F (.intent op) = .bound i ∧ DispatchStarted.Under m i
  | .receipt op, r => r.operationId = op ∧
    ∃ i m, F (.intent op) = .bound i ∧ F (.dispatchStarted op) = .bound m ∧ Receipt.Under r i m
  | .postState op, o => o.operationId = op ∧ ∃ r, F (.receipt op) = .bound r ∧ PostState.Under o r
  | .reconciliation op, x => x.operationId = op ∧
    ∃ r o, F (.receipt op) = .bound r ∧ F (.postState op) = .bound o ∧ Reconciliation.Over x r o
  | .completion op, c => c.operationId = op ∧
    ∃ r o x, F (.receipt op) = .bound r ∧ F (.postState op) = .bound o ∧
      (∀ y, x = some y → F (.reconciliation op) = .bound y) ∧ Completion.Closes c r o x

/-! ## Actions -/

/-- An action that leaves the files and the controller's ports alone. -/
def Quiet : Action (Rec H) (Port H) → Prop
  | .read _ => True
  | .port (.verify _) => True
  | .port (.trustedRead _) => True
  | _ => False

/-- An action of recording `v` under `k`. -/
def Writes (k : Key) (v : Rec H k) (a : Action (Rec H) (Port H)) : Prop :=
  Quiet a ∨ a = .port (.install k) ∨ a = .publish k v

namespace Journal

section Does
variable {S : Action (Rec H) (Port H) → Prop}

theorem readRaw_does (k : Key) (hS : S (.read k)) : (readRaw k : Code H (Option (Rec H k))).Does S := by
  refine ⟨hS, fun r => ?_⟩
  cases r <;> trivial

theorem requireRecord_does (k : Key) (hS : S (.read k)) : (requireRecord k : Code H (Rec H k)).Does S :=
  (readRaw_does k hS).bind fun _ => Prog.Does.ofOption

theorem verify_does (v : Verification H) (hS : S (.port (.verify v))) : (verify v).Does S := by
  refine ⟨hS, fun r => ?_⟩
  rcases r with _ | (_ | _) <;> trivial

theorem verifyActivation_does (a : Activation) (hS : ∀ p, Quiet (.port p) → S (.port p)) :
    (verifyActivation a : Code H Unit).Does S := by
  refine Prog.Does.bind ⟨hS _ trivial, fun r => ?_⟩ fun e => verify_does _ (hS _ trivial)
  rcases r with _ | _ | (_ | e)
  · trivial
  · trivial
  · trivial
  · dsimp only
    split <;> trivial

theorem assertFields_does (l : List (String × Bool)) : (assertFields l : Code H Unit).Does S := by
  induction l with
  | nil => trivial
  | cons x l ih =>
    unfold assertFields
    split
    · exact ih
    · trivial

theorem requireActivation_does (d : Sha256Digest) (hS : ∀ a, Quiet a → S a) :
    (requireActivation d : Code H Activation).Does S := by
  refine (requireRecord_does _ (hS _ trivial)).bind fun a => ?_
  refine Prog.Does.require.bind fun _ => ?_
  exact (verifyActivation_does a fun p hp => hS _ hp).bind fun _ => trivial

end Does

theorem revalidateChain_does (op : Sha256Digest) (through : Through) :
    (revalidateChain op through : Code H Unit).Does Quiet := by
  refine (requireRecord_does _ trivial).bind fun activation => ?_
  refine (verifyActivation_does _ fun _ hp => hp).bind fun _ => ?_
  refine (requireRecord_does _ trivial).bind fun authorization => ?_
  refine (assertFields_does _).bind fun _ => (verify_does _ trivial).bind fun _ => ?_
  split
  · trivial
  refine (requireRecord_does _ trivial).bind fun intent => (assertFields_does _).bind fun _ => ?_
  refine Prog.Does.require.bind fun _ => ?_
  split
  · trivial
  refine (readRaw_does _ trivial).bind fun _ => Prog.Does.ofOption.bind fun marker => ?_
  refine (assertFields_does _).bind fun _ => Prog.Does.require.bind fun _ => ?_
  split
  · trivial
  refine (requireRecord_does _ trivial).bind fun receipt => (assertFields_does _).bind fun _ => ?_
  refine Prog.Does.require.bind fun _ => (verify_does _ trivial).bind fun _ => ?_
  split
  · trivial
  refine (requireRecord_does _ trivial).bind fun observation => (assertFields_does _).bind fun _ => ?_
  refine Prog.Does.require.bind fun _ => (verify_does _ trivial).bind fun _ => ?_
  split
  · trivial
  refine (readRaw_does _ trivial).bind fun reconciliation => Prog.Does.bind ?_ fun _ => ?_
  · unfold revalidateReconciliation
    split
    · trivial
    · exact Prog.Does.require.bind fun _ => verify_does _ trivial
  split
  · exact Prog.Does.require.bind fun _ => trivial
  refine (readRaw_does _ trivial).bind fun completion => ?_
  unfold revalidateCompletion
  split
  · trivial
  · refine Prog.Does.bind ?_ fun _ => verify_does _ trivial
    exact Prog.Does.require.bind fun _ => Prog.Does.require

theorem readChecked_does (k : Key) (op : Sha256Digest) (through : Through) :
    (readChecked k op through : Code H (Option (Rec H k))).Does Quiet := by
  refine (readRaw_does k trivial).bind fun r => ?_
  dsimp only
  split
  · exact (revalidateChain_does op through).bind fun _ => trivial
  · trivial

/-! ## Results -/

section Safe
variable {F : Files (Rec H)} {G : Rules (Rec H) (Port.Answer (H := H))} {h : List (Event (Rec H) (Port.Answer (H := H)))}

theorem readRaw_safe (k : Key) (hq : Permits G Quiet h) :
    (readRaw k).Safe F G (Prog.Returning fun h' r => (∀ v, r = some v → F k = .bound v) ∧
      (r = none → .read k .missing ∈ h')) h := by
  refine ⟨hq.here trivial, fun r hr => ?_⟩
  cases r with
  | missing => exact ⟨by simp, by simp⟩
  | malformed => trivial
  | found v =>
    refine ⟨?_, by simp⟩
    intro w hw
    cases hw
    exact hr

theorem requireRecord_safe (k : Key) (hq : Permits G Quiet h) :
    (requireRecord k).Safe F G (Prog.Returning fun _ v => F k = .bound v) h := by
  refine (readRaw_safe k hq).seq fun h' r _ hr => ?_
  cases r with
  | none => trivial
  | some v => exact hr.1 v rfl

theorem quiet_safe {α : Type} {p : Code H α} (hd : p.Does Quiet) (hq : Permits G Quiet h) :
    p.Safe F G (Prog.Returning fun _ _ => True) h :=
  (hd.safe hq).mono fun _ x _ => by cases x <;> trivial

theorem readChecked_safe (k : Key) (op : Sha256Digest) (through : Through) (hq : Permits G Quiet h) :
    (readChecked k op through).Safe F G (Prog.Returning fun h' r => (∀ v, r = some v → F k = .bound v) ∧
      (r = none → .read k .missing ∈ h')) h := by
  refine (readRaw_safe k hq).seq fun h₁ r hs₁ hr => ?_
  dsimp only
  split
  · next hsome =>
    refine (quiet_safe (revalidateChain_does op through) (hq.suffix hs₁)).seq fun h₂ _ hs₂ _ => ?_
    exact ⟨hr.1, fun hn => hs₂.mem (hr.2 hn)⟩
  · exact hr

theorem assertFields_safe (l : List (String × Bool)) :
    (assertFields l).Safe F G (Prog.Returning fun _ _ => ∀ x ∈ l, x.2 = true) h := by
  induction l with
  | nil => intro x hx; cases hx
  | cons y l ih =>
    unfold assertFields
    split
    · next hy =>
      refine ih.mono fun h' r hr => ?_
      cases r with
      | error e => trivial
      | ok u => exact List.forall_mem_cons.mpr ⟨hy, hr⟩
    · trivial

theorem sourceFields_all {r a : SourceScope} (h : ∀ x ∈ sourceFields r a, x.2 = true) : r = a := by
  simp only [sourceFields, List.forall_mem_cons, decide_eq_true_eq] at h
  obtain ⟨_, _, _, _, _, _, _, _, _, _, _, _, _, _, _, _, _⟩ := h
  cases r
  cases a
  simp_all

theorem assertActivationScope_safe (a : Authorization H) (act : Activation) :
    (assertActivationScope a act).Safe F G (Prog.Returning fun _ _ => a.Under act) h := by
  refine (assertFields_safe _).mono fun h' r hr => ?_
  cases r with
  | error e => trivial
  | ok u =>
    obtain ⟨hd, hs⟩ := List.forall_mem_cons.mp hr
    exact ⟨by simpa using hd, sourceFields_all hs⟩

theorem assertScope_safe (r a : Scope) : (assertScope r a).Safe F G (Prog.Returning fun _ _ => r = a) h := by
  refine (assertFields_safe _).mono fun h' x hx => ?_
  cases x with
  | error e => trivial
  | ok u =>
    obtain ⟨hd, hs⟩ := List.forall_mem_cons.mp hx
    obtain ⟨hs, hl⟩ := List.forall_mem_append.mp hs
    have hsource := sourceFields_all hs
    simp only [List.forall_mem_cons, decide_eq_true_eq] at hd hl
    change r = a
    cases r
    cases a
    simp_all

theorem require_safe {c : Prop} [Decidable c] (e : Exc) :
    (Prog.require c e : Code H Unit).Safe F G (Prog.Returning fun _ _ => c) h := by
  unfold Prog.require
  split
  · next hc => exact hc
  · trivial

/-! ## Recording -/

variable {L : Limits H}

theorem record_does (k : Key) (v : Rec H k) : (record L k v).Does (Writes k v) := by
  unfold record
  split
  · trivial
  refine ⟨.inr (.inl rfl), fun r => ?_⟩
  cases r with
  | invalid | uncommitted | directoryNotDurable => trivial
  | installed =>
    refine ⟨.inr (.inr rfl), fun r => ?_⟩
    cases r with
    | created | failed | lost => trivial
    | taken =>
      refine ⟨.inl trivial, fun r => ?_⟩
      cases r with
      | missing | malformed => trivial
      | found old =>
        dsimp only
        split <;> trivial

theorem record_safe (k : Key) (v : Rec H k) (hw : Permits G (Writes k v) h) :
    (record L k v).Safe F G (Prog.Returning fun h' b => F k = .bound v ∧ (b = true → .publish k v .created ∈ h')) h := by
  unfold record
  split
  · trivial
  refine ⟨hw.here (.inr (.inl rfl)), fun r => ?_⟩
  cases r with
  | invalid | uncommitted | directoryNotDurable => trivial
  | installed =>
    refine ⟨(hw.suffix (List.suffix_cons _ _)).here (.inr (.inr rfl)), fun r hr => ?_⟩
    cases r with
    | failed | lost => trivial
    | created => exact ⟨hr, by simp⟩
    | taken =>
      refine ⟨(hw.suffix ((List.suffix_cons _ _).trans (List.suffix_cons _ _))).here (.inl trivial), fun r hr => ?_⟩
      cases r with
      | missing | malformed => trivial
      | found old =>
        dsimp only
        split
        · next he => exact ⟨he ▸ hr, by simp⟩
        · trivial

theorem record_unit_does (k : Key) (v : Rec H k) : (record L k v >>= fun _ => pure ()).Does (Writes k v) :=
  (record_does k v).bind fun _ => trivial

theorem recordAuthorization_does (a : Authorization H) :
    (recordAuthorization L a).Does (Writes (.authorization a.operationId) a) := by
  refine (requireActivation_does _ fun _ h => .inl h).bind fun act => (assertFields_does _).bind fun _ => ?_
  exact (verify_does _ (.inl trivial)).bind fun _ => record_unit_does _ _

theorem recordIntent_does (i : Intent H) : (recordIntent L i).Does (Writes (.intent i.operationId) i) := by
  refine (requireRecord_does _ (.inl trivial)).bind fun a => (requireActivation_does _ fun _ h => .inl h).bind fun _ => ?_
  exact (assertFields_does _).bind fun _ => Prog.Does.require.bind fun _ => record_unit_does _ _

theorem claimDispatchStarted_does (m : DispatchStarted H) :
    (claimDispatchStarted L m).Does (Writes (.dispatchStarted m.operationId) m) := by
  refine (requireRecord_does _ (.inl trivial)).bind fun i => (requireActivation_does _ fun _ h => .inl h).bind fun _ => ?_
  exact (assertFields_does _).bind fun _ => Prog.Does.require.bind fun _ => record_does _ _

theorem record_unit_safe (k : Key) (v : Rec H k) (hw : Permits G (Writes k v) h) :
    (record L k v >>= fun _ => pure ()).Safe F G (Prog.Returning fun _ _ => F k = .bound v) h :=
  (record_safe k v hw).seq fun _ _ _ hr => hr.1

theorem requireActivation_safe (d : Sha256Digest) (hq : Permits G Quiet h) :
    (requireActivation d).Safe F G
      (Prog.Returning fun _ a => F .activation = .bound a ∧ a.activationDigest H = d) h := by
  refine (requireRecord_safe _ hq).seq fun h₁ a hs₁ ha => ?_
  refine (require_safe _).seq fun h₂ _ hs₂ hd => ?_
  refine (quiet_safe (verifyActivation_does _ fun _ hp => hp) (hq.suffix (hs₁.trans hs₂))).seq fun h₃ _ _ _ => ?_
  exact ⟨ha, hd⟩

theorem requireVerifiedReceipt_safe (op : Sha256Digest) (hq : Permits G Quiet h) :
    (requireVerifiedReceipt op).Safe F G (Prog.Returning fun _ r => F (.receipt op) = .bound r) h := by
  refine (requireRecord_safe _ hq).seq fun h₁ intent hs₁ _ => ?_
  refine (requireActivation_safe _ (hq.suffix hs₁)).seq fun h₂ _ hs₂ _ => ?_
  have hq₂ := hq.suffix (hs₁.trans hs₂)
  refine (requireRecord_safe _ hq₂).seq fun h₃ marker hs₃ _ => ?_
  refine (requireRecord_safe _ (hq₂.suffix hs₃)).seq fun h₄ receipt hs₄ hr => ?_
  have hq₄ := hq₂.suffix (hs₃.trans hs₄)
  refine (quiet_safe (assertFields_does _) hq₄).seq fun h₅ _ hs₅ _ => ?_
  refine (quiet_safe Prog.Does.require (hq₄.suffix hs₅)).seq fun h₆ _ hs₆ _ => ?_
  refine (quiet_safe (verify_does _ trivial) (hq₄.suffix (hs₅.trans hs₆))).seq fun _ _ _ _ => ?_
  exact hr

theorem recordActivation_safe (a : Activation) (hw : Permits G (Writes .activation a) h) :
    (recordActivation L a).Safe F G (Prog.Returning fun _ _ => F .activation = .bound a) h := by
  have hq : Permits G Quiet h := fun h' hs b hb => hw h' hs b (.inl hb)
  refine (quiet_safe (verifyActivation_does _ fun _ hp => hp) hq).seq fun h₁ _ hs₁ _ => ?_
  exact record_unit_safe _ _ (hw.suffix hs₁)

theorem recordAuthorization_safe (a : Authorization H) (hq : Permits G Quiet h)
    (hw : Supported F (.authorization a.operationId) a → Permits G (Writes (.authorization a.operationId) a) h) :
    (recordAuthorization L a).Safe F G (Prog.Returning fun _ _ => F (.authorization a.operationId) = .bound a) h := by
  refine (requireActivation_safe _ hq).seq fun h₁ act hs₁ hact => ?_
  refine (assertActivationScope_safe _ _).seq fun h₂ _ hs₂ hu => ?_
  refine (quiet_safe (verify_does _ trivial) (hq.suffix (hs₁.trans hs₂))).seq fun h₃ _ hs₃ _ => ?_
  exact record_unit_safe _ _ ((hw ⟨rfl, act, hact.1, hu⟩).suffix ((hs₁.trans hs₂).trans hs₃))

theorem recordIntent_safe (i : Intent H) (hq : Permits G Quiet h)
    (hw : Supported F (.intent i.operationId) i → Permits G (Writes (.intent i.operationId) i) h) :
    (recordIntent L i).Safe F G (Prog.Returning fun _ _ => F (.intent i.operationId) = .bound i) h := by
  refine (requireRecord_safe _ hq).seq fun h₁ a hs₁ ha => ?_
  refine (requireActivation_safe _ (hq.suffix hs₁)).seq fun h₂ _ hs₂ _ => ?_
  refine (assertScope_safe _ _).seq fun h₃ _ hs₃ hscope => ?_
  refine (require_safe _).seq fun h₄ _ hs₄ hd => ?_
  exact record_unit_safe _ _ ((hw ⟨rfl, a, ha, hscope, hd⟩).suffix (((hs₁.trans hs₂).trans hs₃).trans hs₄))

theorem claimDispatchStarted_safe (m : DispatchStarted H) (hq : Permits G Quiet h)
    (hw : Supported F (.dispatchStarted m.operationId) m → Permits G (Writes (.dispatchStarted m.operationId) m) h) :
    (claimDispatchStarted L m).Safe F G (Prog.Returning fun h' created => F (.dispatchStarted m.operationId) = .bound m ∧
      (created = true → .publish (.dispatchStarted m.operationId) m .created ∈ h')) h := by
  refine (requireRecord_safe _ hq).seq fun h₁ i hs₁ hi => ?_
  refine (requireActivation_safe _ (hq.suffix hs₁)).seq fun h₂ _ hs₂ _ => ?_
  refine (assertScope_safe _ _).seq fun h₃ _ hs₃ hscope => ?_
  refine (require_safe _).seq fun h₄ _ hs₄ hd => ?_
  exact record_safe _ _ ((hw ⟨rfl, i, hi, hscope, hd⟩).suffix (((hs₁.trans hs₂).trans hs₃).trans hs₄))

theorem recordReceipt_safe (r : Receipt H) (hq : Permits G Quiet h)
    (hw : Supported F (.receipt r.operationId) r → Permits G (Writes (.receipt r.operationId) r) h) :
    (recordReceipt L r).Safe F G (Prog.Returning fun _ _ => F (.receipt r.operationId) = .bound r) h := by
  refine (requireRecord_safe _ hq).seq fun h₁ i hs₁ hi => ?_
  refine (requireActivation_safe _ (hq.suffix hs₁)).seq fun h₂ _ hs₂ _ => ?_
  have hs₂ := hs₁.trans hs₂
  refine (requireRecord_safe _ (hq.suffix hs₂)).seq fun h₃ m hs₃ hm => ?_
  refine (assertScope_safe _ _).seq fun h₄ _ hs₄ hscope => ?_
  refine (require_safe _).seq fun h₅ _ hs₅ hd => ?_
  have hs₅ := ((hs₂.trans hs₃).trans hs₄).trans hs₅
  refine (quiet_safe (verify_does _ trivial) (hq.suffix hs₅)).seq fun h₆ _ hs₆ _ => ?_
  exact record_unit_safe _ _ ((hw ⟨rfl, i, m, hi, hm, hscope, hd⟩).suffix (hs₅.trans hs₆))

theorem recordPostState_safe (o : PostState H) (hq : Permits G Quiet h)
    (hw : Supported F (.postState o.operationId) o → Permits G (Writes (.postState o.operationId) o) h) :
    (recordPostState L o).Safe F G (Prog.Returning fun _ _ => F (.postState o.operationId) = .bound o) h := by
  refine (requireVerifiedReceipt_safe _ hq).seq fun h₁ r hs₁ hr => ?_
  refine (assertScope_safe _ _).seq fun h₂ _ hs₂ hscope => ?_
  refine (require_safe _).seq fun h₃ _ hs₃ hd => ?_
  have hs₃ := (hs₁.trans hs₂).trans hs₃
  refine (quiet_safe (verify_does _ trivial) (hq.suffix hs₃)).seq fun h₄ _ hs₄ _ => ?_
  exact record_unit_safe _ _ ((hw ⟨rfl, r, hr, hscope, hd⟩).suffix (hs₃.trans hs₄))

theorem recordReconciliation_safe (x : Reconciliation H) (hq : Permits G Quiet h)
    (hw : Supported F (.reconciliation x.operationId) x → Permits G (Writes (.reconciliation x.operationId) x) h) :
    (recordReconciliation L x).Safe F G (Prog.Returning fun _ _ => F (.reconciliation x.operationId) = .bound x) h := by
  refine (requireVerifiedReceipt_safe _ hq).seq fun h₁ r hs₁ hr => ?_
  refine (requireRecord_safe _ (hq.suffix hs₁)).seq fun h₂ o hs₂ ho => ?_
  refine (require_safe _).seq fun h₃ _ hs₃ ha => ?_
  refine (require_safe _).seq fun h₄ _ hs₄ he => ?_
  have hs₄ := ((hs₁.trans hs₂).trans hs₃).trans hs₄
  refine (quiet_safe (verify_does _ trivial) (hq.suffix hs₄)).seq fun h₅ _ hs₅ _ => ?_
  exact record_unit_safe _ _ ((hw ⟨rfl, r, o, hr, ho, ha, he⟩).suffix (hs₄.trans hs₅))

theorem recordCompletion_safe (c : Completion) (hq : Permits G Quiet h)
    (hw : Supported F (.completion c.operationId) c →
      Permits G (Writes (H := H) (.completion c.operationId) c) h) :
    (recordCompletion L c).Safe F G (Prog.Returning fun _ _ => F (.completion c.operationId) = .bound c) h := by
  refine (requireVerifiedReceipt_safe _ hq).seq fun h₁ r hs₁ hr => ?_
  refine (requireRecord_safe _ (hq.suffix hs₁)).seq fun h₂ o hs₂ ho => ?_
  have hs₂ := hs₁.trans hs₂
  refine (readChecked_safe _ _ _ (hq.suffix hs₂)).seq fun h₃ x hs₃ hx => ?_
  have hs₃ := hs₂.trans hs₃
  refine Prog.Safe.seq (Q := fun _ _ => c.Closes r o x) ?_ fun h₄ _ hs₄ hc => ?_
  · refine (require_safe _).seq fun _ _ _ harm => ?_
    exact (require_safe _).mono fun _ u hu => by
      cases u with
      | error e => trivial
      | ok u => exact ⟨harm.1, harm.2, hu⟩
  have hs₄ := hs₃.trans hs₄
  refine (quiet_safe (verify_does _ trivial) (hq.suffix hs₄)).seq fun h₅ _ hs₅ _ => ?_
  exact record_unit_safe _ _ ((hw ⟨rfl, r, o, x, hr, ho, hx.1, hc⟩).suffix (hs₄.trans hs₅))

end Safe

end Journal

end AvoCorrelate.ExactCas
