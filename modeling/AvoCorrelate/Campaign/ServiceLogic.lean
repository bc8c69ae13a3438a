import AvoCorrelate.Campaign.Service
import AvoCorrelate.Promotion.Issuing
/-!
# What the records of a campaign rest on

The rules that every call keeps: an intent is the template of its plan under the lease on
record, a receipt of a success comes from the one reconciliation that its call heard, and
the records of the completion journal repeat those of the promotion.
-/
open AvoLib

namespace AvoCorrelate.Campaign

open ExactCas (Sha256Digest GitObject)
open Promotion (Publication Intent MergeResult Receipt Reconciliation Report Outcome LeaseEvidence Aside ReconciliationBound)
open Promotion.Service (receiptOf exact)
open Service (promoteCall factory intentBound packageOf recoveredReport)

variable {C : Canon} {config : Config}

abbrev Log (C : Canon) :=
  List (Event (AnyRec C) (AnyAnswer C))

/-- The files of a campaign: the promotion's and its own. -/
abbrev Disk (C : Canon) := Files (AnyRec C)

/-! ## What a record rests on -/

def Heard (H : Log C) (i : Intent C.toCanon) (rec : Reconciliation C.toCanon) : Prop :=
  .port (.inl (.reconcile i)) (.returned rec) ∈ H

/-- It heard nothing else. -/
def OnlyHeard (H : Log C) (i : Intent C.toCanon) (rec : Reconciliation C.toCanon) : Prop :=
  ∀ i' x, .port (.inl (.reconcile i')) x ∈ H → i' = i ∧ x = .returned rec

/-- The call heard of no reconciliation. -/
def Unheard (H : Log C) : Prop := ∀ i x, .port (.inl (.reconcile i)) x ∉ H

/-- The intent is the template of the plan under the lease on record. -/
structure Intended (config : Config) (F : Disk C) (op : Sha256Digest) (i : Intent C.toCanon) (plan : Plan C)
    (e : LeaseEvidence C.toCanon) : Prop where
  planned : F (.inr (.plan op)) = .bound plan
  evidence : F (.inl (.leaseEvidence op)) = .bound e
  scope : Promotion.Scoped (promoteCall config plan op) e.toLease
  bound : Promotion.IntentBound (promoteCall config plan op) e.toLease i
  template : i = plan.preparation.template.bindLease e.identity (e.toLease.digest C.toCanon)

/-- The receipt says what the reconciliation shows, an exact merge of the intent. -/
structure Received (F : Disk C) (op : Sha256Digest) (r : Receipt C.toCanon) (i : Intent C.toCanon) (m : MergeResult)
    (rec : Reconciliation C.toCanon) : Prop where
  intent : F (.inl (.intent op)) = .bound i
  body : r.toReceiptBody = receiptOf i m rec r.outcome
  exact : exact rec i
  bound : ReconciliationBound rec i

/-- The merge result that the provider derives for a receipt of a success. -/
def derivedResult (outcome : Outcome) (rec : Reconciliation C.toCanon) : MergeResult :=
  if outcome = .applied then
    ⟨.applied, some rec.targetHeadCommit, some rec.targetHeadTree, some rec.targetFirstParent, none, none⟩
  else ⟨.ambiguous, none, none, none, none, some "provider reconciliation indicates an already-applied result"⟩

structure Finalized (F : Disk C) (op : Sha256Digest) (e : FinalEvidence C.toCanon) (i : Intent C.toCanon)
    (r : Receipt C.toCanon) : Prop where
  operation : e.operationId = op
  intent : F (.inl (.intent op)) = .bound i
  receipt : F (.inl (.receipt op)) = .bound r
  success : r.outcome.success = true
  result : e.mergeResult = derivedResult r.outcome e.reconciliation
  size : (C.finalEvidence e).size ≤ Journal.maxBytes

/-- The package is made of the records of its operation. -/
structure Packaged (config : Config) (F : Disk C) (op : Sha256Digest) (b : Package C) (plan : Plan C) : Prop where
  planned : F (.inr (.plan op)) = .bound plan
  intent : F (.inl (.intent op)) = .bound b.intent
  receipt : F (.inl (.receipt op)) = .bound b.receipt
  lease : F (.inl (.leaseEvidence op)) = .bound b.leaseEvidence
  final : F (.inr (.finalEvidence op)) = .bound ⟨op, b.reconciliation, b.mergeResult⟩
  made : b.toPackageBody = packageOf plan b.intent b.receipt b.leaseEvidence (recoveredReport b.intent b.receipt op)
    (b.reconciliation, b.mergeResult) plan.mainBeforeCommit
  size : (C.package b.toPackageBody).size ≤ config.maxPackageBytes ∧ (C.package b.toPackageBody).size ≤ Journal.maxBytes

def PlanRests (op : Sha256Digest) (plan : Plan C) : Prop :=
  plan.operationId = op ∧ intentBound plan.preparation plan.discovery

def IntentRests (config : Config) (F : Disk C) (op : Sha256Digest) (i : Intent C.toCanon) : Prop :=
  ∃ plan e, Intended config F op i plan e

def ReceiptRests (F : Disk C) (H : Log C) (op : Sha256Digest) (r : Receipt C.toCanon) : Prop :=
  r.outcome.success = true → ∃ i m rec, Received F op r i m rec ∧ Heard H i rec ∧ OnlyHeard H i rec

/-- The reconciliation was heard after the receipt was found. -/
def FinalRests (F : Disk C) (H : Log C) (op : Sha256Digest) (e : FinalEvidence C.toCanon) : Prop :=
  ∃ i r H₁, Finalized F op e i r ∧ .port (.inl (.reconcile i)) (.returned e.reconciliation) :: H₁ <:+ H ∧
    .read (.inl (.receipt op)) (.found r) ∈ H₁

/-- Every artifact of evidence is canonical JSON. -/
def Canonical (references : List ArtifactRef) : Prop := ∀ a ∈ references, C.canonicalJson a.digest = true

def PackageRests (config : Config) (F : Disk C) (op : Sha256Digest) (b : Package C) : Prop :=
  b.intent.operationId = op ∧ (∃ plan, Packaged config F op b plan) ∧ Canonical (C := C) b.evidenceArtifacts

/-- What the rules ask of a record that is published. -/
def Rests (config : Config) (F : Disk C) (H : Log C) :
    (k : Promotion.Key ⊕ Key) → AnyRec C k → Prop
  | .inl (.intent op), i => IntentRests config F op i
  | .inl (.receipt op), r => ReceiptRests F H op r
  | .inr (.plan op), p => PlanRests op p
  | .inr (.finalEvidence op), e => FinalRests F H op e
  | .inr (.package op), b => PackageRests config F op b
  | _, _ => True

def rules (config : Config) (F : Disk C) :
    Rules (AnyRec C) (AnyAnswer C) :=
  fun H a =>
    match a with
    | .publish k v => Rests config F H k v
    | .read _ => True
    | .port _ => True

variable {F : Disk C} {H : Log C} {h : Promotion.Log C.toCanon} {op : Sha256Digest}

theorem Rests.grows {F' : Disk C} {k : Promotion.Key ⊕ Key} {v : AnyRec C k} (hF : Grows F F')
    (h : Rests config F H k v) : Rests config F' H k v := by
  match k, v, h with
  | .inl (.intent op), i, ⟨plan, e, h⟩ => exact ⟨plan, e, hF _ _ h.planned, hF _ _ h.evidence, h.scope, h.bound, h.template⟩
  | .inl (.receipt op), r, h =>
    intro hs
    obtain ⟨i, m, rec, hr, hheard⟩ := h hs
    exact ⟨i, m, rec, ⟨hF _ _ hr.intent, hr.body, hr.exact, hr.bound⟩, hheard⟩
  | .inr (.plan op), p, h => exact h
  | .inr (.finalEvidence op), e, ⟨i, r, H₁, h, hs, hm⟩ =>
    exact ⟨i, r, H₁, ⟨h.operation, hF _ _ h.intent, hF _ _ h.receipt, h.success, h.result, h.size⟩, hs, hm⟩
  | .inr (.package op), b, ⟨hop, ⟨plan, h⟩, hc⟩ =>
    refine ⟨hop, ⟨plan, hF _ _ h.planned, hF _ _ h.intent, hF _ _ h.receipt, hF _ _ h.lease, hF _ _ h.final, h.made, h.size⟩, hc⟩
  | .inl (.leaseEvidence _), _, _ => trivial
  | .inl (.mutationAuthorization _), _, _ => trivial
  | .inl (.soak _), _, _ => trivial
  | .inl (.rollbackAuthorization _), _, _ => trivial
  | .inl (.rollbackIntent _), _, _ => trivial
  | .inl (.rollbackReceipt _), _, _ => trivial
  | .inl (.caseResult _ _), _, _ => trivial

/-! ## Actions that rest on nothing -/

/-- Nothing is published but records of the promotion that rest on nothing, and nothing
is reconciled. -/
def Outside : Action (AnyRec C) (Promotion.Port C.toCanon ⊕ Port C) → Prop
  | .publish (.inl k) v => Aside (.publish k v)
  | .publish (.inr _) _ => False
  | .port (.inl p) => Aside (.port p : Action (Promotion.Rec C.toCanon) (Promotion.Port C.toCanon))
  | _ => True

section Steps
variable {F : Disk C} {H H' : Log C} {α β : Type} {p : Code C α}

theorem rules_outside {a : Action (AnyRec C) (Promotion.Port C.toCanon ⊕ Port C)}
    (ha : Outside a) : rules config F H a := by
  cases a with
  | read k => trivial
  | port p => trivial
  | publish k v =>
    cases k with
    | inl k => cases k <;> trivial
    | inr k => exact ha.elim

theorem permits_outside : Permits (rules config F) Outside H := fun _ _ _ ha => rules_outside ha

theorem Unheard.cons {e : Event (AnyRec C)
    (AnyAnswer C)} (hu : Unheard H)
    (he : ∀ i x, e ≠ .port (.inl (.reconcile i)) x) : Unheard (e :: H) := by
  intro i x hm
  rcases List.mem_cons.mp hm with heq | hm
  · exact he i x heq.symm
  · exact hu i x hm

theorem unheard_kept (H : Log C) (e : Event (AnyRec C)
    (AnyAnswer C)) (hu : Unheard H) (he : Outside e.action) :
    Unheard (e :: H) := by
  refine hu.cons fun i x heq => ?_
  rw [heq] at he
  exact he

theorem outside_safe (hd : p.Does Outside) : p.Safe F (rules config F) (fun _ _ => True) H := hd.safe permits_outside

theorem outside_unheard (hu : Unheard H) (hd : p.Does Outside) : p.Safe F (rules config F) (fun H' _ => Unheard H') H :=
  ((outside_safe hd).keeps hd unheard_kept hu).mono fun _ _ hx => hx.1

theorem ask_outside {q : Port C} {next : q.Answer → Code C α} (hn : ∀ r, (next r).Does Outside) : (ask q next).Does Outside :=
  ⟨trivial, hn⟩

theorem orRaise_outside (a : Promotion.Answer α) : (orRaise a : Code C α).Does Outside := by
  cases a <;> trivial

theorem asks_outside {q : Port C} {next : q.Answer → Promotion.Answer α} :
    (ask q fun r => orRaise (next r) : Code C α).Does Outside := ⟨trivial, fun _ => orRaise_outside _⟩

theorem ofPromotion_outside {p : Promotion.Code C.toCanon α} (hd : p.Does Aside) : (ofPromotion p).Does Outside :=
  hd.within fun a ha => by cases a <;> exact ha

end Steps

/-! ## The promotion of a plan -/

theorem mem_promotion {answers : (p : Promotion.Port C.toCanon) → Option p.Answer} (hu : Unheard H)
    {i : Intent C.toCanon} {x : Promotion.Answer (Reconciliation C.toCanon)}
    (hm : .port (.inl (.reconcile i)) x ∈ (shown answers h ++ H : Log C)) :
    (.port (.reconcile i) x : Event (Promotion.Rec C.toCanon) (Promotion.Port.Answer (C := C.toCanon))) ∈ h := by
  let e : Event (Promotion.Rec C.toCanon) (Promotion.Port.Answer (C := C.toCanon)) := .port (.reconcile i) x
  rcases List.mem_append.mp hm with hm | hm
  · have he : (Event.inl e : Event (AnyRec C) _) ∈ shown answers h := hm
    exact mem_shown he
  · exact absurd hm (hu i x)

theorem rests_promotion {plan : Plan C} (hplan : F (.inr (.plan op)) = .bound plan) (hu : Unheard H)
    (hr : ∀ p r, .port p r ∈ h → ∀ x, factory plan.preparation.template p = some x → r = x)
    {a : Action (Promotion.Rec C.toCanon) (Promotion.Port C.toCanon)}
    (hrules : Promotion.rules (promoteCall config plan op) (fun k => F (.inl k)) h a) (hissues : Promotion.issues h a) :
    rules config F (shown (factory plan.preparation.template) h ++ H) a.inl := by
  match a, hrules, hissues with
  | .publish (.intent _) i, ⟨rfl, l, hl, hb, _⟩, ⟨l', hm⟩ =>
    obtain ⟨e, he, rfl⟩ := hl.evidence
    refine ⟨plan, e, hplan, he, hl.made.scope, hb, ?_⟩
    -- the factory's lease is the one on record, as the intent names it
    have hi : i = plan.preparation.template.bindLease l'.identity (l'.digest C.toCanon) :=
      Promotion.Answer.returned.inj (hr _ _ hm _ rfl)
    have hidentity : l'.identity = e.identity := by
      rw [← hb.leaseIdentity, hi]
      rfl
    have hdigest : l'.digest C.toCanon = e.toLease.digest C.toCanon := by
      rw [← hb.leaseDigest, hi]
      rfl
    rw [hi, hidentity, hdigest]
  | .publish (.receipt _) r, ⟨rfl, i, hi, hop, hfrom⟩, hissued =>
    intro hs
    obtain ⟨i', rec', hbound, honly⟩ := hissued hs
    rcases hfrom with ⟨message, hbody, _⟩ | ⟨m, rec, hrec, hbody, hexact⟩
    · have hout : r.outcome = .invalid := by rw [hbody]; rfl
      rw [hout] at hs
      cases hs
    · obtain ⟨rfl, hx⟩ := honly _ _ hrec
      cases hx
      have hshown : .port (.inl (.reconcile i)) (.returned rec') ∈ (shown (factory plan.preparation.template) h : Log C) :=
        mem_shown_of hrec fun _ _ he => by
          cases he
          rfl
      refine ⟨i, m, rec', ⟨hi, hbody, hexact hs, hbound⟩, ?_, ?_⟩
      · exact List.mem_append_left _ hshown
      · exact fun i' x hm => honly i' x (mem_promotion hu hm)
  | .publish (.leaseEvidence _) _, _, _ => trivial
  | .publish (.mutationAuthorization _) _, _, _ => trivial
  | .publish (.soak _) _, h, _ => exact h.elim
  | .publish (.rollbackAuthorization _) _, h, _ => exact h.elim
  | .publish (.rollbackIntent _) _, h, _ => exact h.elim
  | .publish (.rollbackReceipt _) _, h, _ => exact h.elim
  | .publish (.caseResult _ _) _, h, _ => exact h.elim
  | .read _, _, _ => trivial
  | .port _, _, _ => trivial

theorem promote_safe {plan : Plan C} (hplan : F (.inr (.plan op)) = .bound plan) (hu : Unheard H) :
    (Service.promote config plan op).Safe F (rules config F) (fun _ _ => True) H := by
  have hp := (@Promotion.promote_safe C.toCanon (promoteCall config plan op) fun k => F (.inl k)).and Promotion.promote_issues
  refine (hp.within (fun _ _ hm => nomatch hm) fun h a hr ha => ?_).mono fun _ _ _ => trivial
  exact rests_promotion hplan hu hr ha.1 ha.2

/-! ## The completion journal -/

/-- Nothing is reconciled. -/
def Quiet : Action (AnyRec C) (Promotion.Port C.toCanon ⊕ Port C) → Prop
  | .port (.inl (.reconcile _)) => False
  | _ => True

theorem quiet_of_outside {a : Action (AnyRec C) (Promotion.Port C.toCanon ⊕ Port C)}
    (ha : Outside a) : Quiet a := by
  cases a with
  | read k => trivial
  | publish k v => trivial
  | port p =>
    cases p with
    | inr p => trivial
    | inl p => cases p with
      | reconcile i => exact ha
      | _ => trivial

theorem quiet_kept (H : Log C) (e : Event (AnyRec C)
    (AnyAnswer C)) (hu : Unheard H) (he : Quiet e.action) :
    Unheard (e :: H) := by
  refine hu.cons fun i x heq => ?_
  rw [heq] at he
  exact he

namespace Journal

variable {F : Disk C} {H : Log C}

variable {references : List ArtifactRef} {k : Key} {old v : Rec C k} {e : Exc}

theorem verifyArtifacts_outside : (verifyArtifacts references : Code C Unit).Does Outside := by
  induction references with
  | nil => trivial
  | cons a rest ih => exact Prog.Does.bind asks_outside fun _ => Prog.Does.require.bind fun _ => ih

theorem verifyPackageChildren_outside {b : Package C} : (verifyPackageChildren b).Does Outside :=
  Prog.Does.bind asks_outside fun _ => verifyArtifacts_outside

theorem verifyChildren_outside : (k : Key) → (v : Rec C k) → (verifyChildren k v).Does Outside
  | .plan _, _ => trivial
  | .finalEvidence _, _ => trivial
  | .package _, _ => verifyPackageChildren_outside

/-- What verifying the children of a record shows. -/
def Verified : (k : Key) → Rec C k → Prop
  | .package _, b => Canonical (C := C) (Package.toPackageBody b).evidenceArtifacts
  | _, _ => True

theorem verifyArtifacts_safe : (verifyArtifacts references : Code C Unit).Safe F (rules config F)
      (Prog.Returning fun _ _ => Canonical (C := C) references) H := by
  induction references generalizing H with
  | nil => exact fun a ha => nomatch ha
  | cons a rest ih =>
    refine Prog.Safe.port_bind trivial fun r => ?_
    cases r with
    | raised m => trivial
    | returned u =>
      refine Prog.Safe.require_bind (fun hcanonical => ?_) trivial
      refine ih.mono fun _ x hx => ?_
      cases x with
      | error e => trivial
      | ok u => exact List.forall_mem_cons.mpr ⟨hcanonical, hx⟩

theorem verifyChildren_safe : (k : Key) → (v : Rec C k) →
    (verifyChildren k v).Safe F (rules config F) (Prog.Returning fun _ _ => Verified k v) H
  | .plan _, _ => trivial
  | .finalEvidence _, _ => trivial
  | .package _, b => by
    refine Prog.Safe.port_bind trivial fun r => ?_
    cases r with
    | raised m => trivial
    | returned u => exact verifyArtifacts_safe

theorem same_safe (hold : F (.inr k) = .bound old) :
    (Prog.require (old = v) e : Code C Unit).Safe F (rules config F) (Prog.Returning fun _ _ => F (.inr k) = .bound v) H := by
  unfold Prog.require
  split
  · next heq =>
    rw [← heq]
    exact hold
  · trivial

theorem same_quiet : (Prog.require (old = v) e : Code C Unit).Does Quiet :=
  Prog.Does.require

theorem record_safe
    (hk : ∀ H', H <:+ H' → Verified k v → (Rec.encoding k v).size ≤ maxBytes → Rests config F H' (.inr k) v) :
    (record k v).Safe F (rules config F) (Prog.Returning fun _ _ => F (.inr k) = .bound v) H := by
  refine Prog.Safe.attempt_bind (verifyChildren_safe k v).suffix fun H₁ x hx => ?_
  cases x with
  | error e => trivial
  | ok u =>
    refine Prog.Safe.require_bind (fun hsize => ?_) trivial
    refine Prog.Safe.port_bind trivial fun r => ?_
    cases r with
    | raised m => trivial
    | returned u' =>
      refine ⟨hk _ (hx.1.trans (List.suffix_cons _ _)) hx.2 hsize, fun r hr => ?_⟩
      cases r with
      | created => exact hr
      | failed | lost => trivial
      | taken =>
        refine ⟨trivial, fun r hr' => ?_⟩
        cases r with
        | missing | malformed => trivial
        | found old => exact same_safe hr'

theorem record_quiet : (record k v).Does Quiet := by
  have hchildren : (verifyChildren k v).Does Quiet := (verifyChildren_outside k v).mono fun _ => quiet_of_outside
  refine hchildren.attempt.bind fun x => ?_
  cases x with
  | error e => trivial
  | ok u =>
    refine Prog.Does.require.bind fun _ => Prog.Does.bind ⟨trivial, fun r => by cases r <;> trivial⟩ fun _ => ?_
    refine ⟨trivial, fun r => ?_⟩
    cases r with
    | created | failed | lost => trivial
    | taken =>
      refine ⟨trivial, fun r => ?_⟩
      cases r with
      | missing | malformed => trivial
      | found old => exact same_quiet

theorem read_outside : (read k : Code C (Option (Rec C k))).Does Outside := by
  refine ⟨trivial, fun r => ?_⟩
  cases r with
  | missing | malformed => trivial
  | found v =>
    refine (verifyChildren_outside k v).attempt.bind fun x => ?_
    cases x with
    | error e => trivial
    | ok u => exact Prog.Does.require.bind fun _ => trivial

theorem read_safe : (read k : Code C (Option (Rec C k))).Safe F (rules config F)
      (Prog.Returning fun _ x => ∀ v, x = some v → F (.inr k) = .bound v ∧ Rec.recordId k v = k.operationId) H := by
  refine ⟨trivial, fun r hr => ?_⟩
  cases r with
  | missing => exact fun v hv => nomatch hv
  | malformed => trivial
  | found v =>
    refine Prog.Safe.attempt_bind (outside_safe (verifyChildren_outside k v)) fun H₁ x _ => ?_
    cases x with
    | error e => trivial
    | ok u =>
      refine Prog.Safe.require_bind (fun hid => ?_) trivial
      intro w hw
      cases hw
      exact ⟨hr, hid⟩

end Journal

/-! ## Finalizing -/

namespace Service

variable {F : Disk C} {H : Log C} {op : Sha256Digest}

variable {α : Type} {i : Intent C.toCanon} {report : Report} {r : Receipt C.toCanon}
  {evidence : Promotion.LeaseEvidence C.toCanon} {final : Reconciliation C.toCanon × MergeResult} {p : Publication}

theorem ofOption_safe {o : Option α} {e : Exc} {Q : Log C → α → Prop} (ho : ∀ x, o = some x → Q H x) :
    (Prog.ofOption o e : Code C α).Safe F (rules config F) (Prog.Returning Q) H := by
  cases o with
  | none => trivial
  | some x => exact ho x rfl

theorem ofPromotion_read_safe {t : Promotion.Journal.Texts} {k : Promotion.Key} :
    (ofPromotion (Promotion.Journal.read t k) : Code C (Option (Promotion.Rec C.toCanon k))).Safe F (rules config F)
      (Prog.Returning fun H' x => ∀ v, x = some v → F (.inl k) = .bound v ∧ .read (.inl k) (.found v) ∈ H' ∧
        Promotion.Rec.key k v = k) H := by
  refine ⟨trivial, fun r hr => ?_⟩
  cases r with
  | missing => exact fun v hv => nomatch hv
  | malformed => trivial
  | found v =>
    dsimp only
    split
    · next hkey =>
      intro w hw
      cases hw
      exact ⟨hr, List.mem_cons_self, hkey⟩
    · trivial

theorem readIntent_safe : (readIntent op : Code C (Intent C.toCanon)).Safe F (rules config F)
    (Prog.Returning fun _ i => F (.inl (.intent op)) = .bound i ∧ i.operationId = op) H := by
  refine ofPromotion_read_safe.seq fun H₁ x _ hx => ofOption_safe fun i hi => ?_
  exact ⟨(hx i hi).1, Promotion.Key.intent.inj (hx i hi).2.2⟩

theorem readReceipt_safe : (readReceipt op : Code C (Receipt C.toCanon)).Safe F (rules config F)
    (Prog.Returning fun H' r => F (.inl (.receipt op)) = .bound r ∧ .read (.inl (.receipt op)) (.found r) ∈ H') H := by
  exact ofPromotion_read_safe.seq fun H₁ x _ hx => ofOption_safe fun r hr => ⟨(hx r hr).1, (hx r hr).2.1⟩

theorem releaseRecoveredLease_outside : (releaseRecoveredLease i : Code C Unit).Does Outside := by
  refine (ofPromotion_outside (Promotion.Journal.releaseMatchingLease_aside _ _ _ _ _)).attempt.bind fun x => ?_
  cases x <;> trivial

theorem finalEvidence_safe {o : Promotion.Observation} (hs : report.outcome.success = true) :
    (Provider.finalEvidence i report o : Code C (Reconciliation C.toCanon × MergeResult)).Safe F (rules config F)
      (Prog.Returning fun H' x => x.2 = derivedResult report.outcome x.1 ∧
        ∃ H₁, .port (.inl (.reconcile i)) (.returned x.1) :: H₁ = H' ∧ H <:+ H₁) H := by
  refine Prog.Safe.require_bind (fun _ => Prog.Safe.require_bind (fun _ => ?_) trivial) trivial
  refine Prog.Safe.port_bind trivial fun x => ?_
  cases x with
  | raised m => trivial
  | returned rec =>
    have hresult : (Provider.mergeResultOf i report rec : Code C MergeResult).Safe F (rules config F)
        (Prog.Returning fun H' m => m = derivedResult report.outcome rec ∧
          H' = .port (.inl (.reconcile i)) (.returned rec) :: H) (.port (.inl (.reconcile i)) (.returned rec) :: H) := by
      unfold Provider.mergeResultOf derivedResult
      cases houtcome : report.outcome with
      | applied =>
        refine Prog.Safe.require_bind (fun _ => Prog.Safe.require_bind (fun _ => ?_) trivial) trivial
        exact Prog.Safe.require_bind (fun _ => ⟨rfl, rfl⟩) trivial
      | alreadyApplied => exact Prog.Safe.require_bind (fun _ => ⟨rfl, rfl⟩) trivial
      | _ => rw [houtcome] at hs; cases hs
    refine hresult.seq fun H₁ m _ hm => ?_
    obtain ⟨hm, rfl⟩ := hm
    exact ⟨hm, H, rfl, List.suffix_refl H⟩

theorem settleFinalEvidence_safe {plan : Plan C} (hi : F (.inl (.intent op)) = .bound i)
    (hr : F (.inl (.receipt op)) = .bound r) (hs : r.outcome.success = true)
    (hread : .read (.inl (.receipt op)) (.found r) ∈ H) :
    (settleFinalEvidence plan op i (recoveredReport i r op)).Safe F (rules config F)
      (Prog.Returning fun _ x => F (.inr (.finalEvidence op)) = .bound ⟨op, x.1, x.2⟩) H := by
  refine Journal.read_safe.seq fun H₁ durable hH₁ hdurable => ?_
  cases durable with
  | some e =>
    refine Prog.Safe.require_bind (fun hop => ?_) trivial
    have he := (hdurable e rfl).1
    obtain ⟨_, rec, m⟩ := e
    cases hop
    exact he
  | none =>
    refine (finalEvidence_safe hs).seq fun H₂ final _ hfinal => ?_
    obtain ⟨hresult, H₃, rfl, hH₃⟩ := hfinal
    have hrecord := @Journal.record_safe C config F (.port (.inl (.reconcile i)) (.returned final.1) :: H₃)
      (.finalEvidence op) ⟨op, final.1, final.2⟩
      fun H' hH' _ hsize => ⟨i, r, H₃, ⟨rfl, hi, hr, hs, hresult, hsize⟩, hH', (hH₁.trans hH₃).mem hread⟩
    exact hrecord.seq fun _ _ _ hbound => hbound

theorem recordPackage_safe {plan : Plan C} (hop : i.operationId = op) (hplan : F (.inr (.plan op)) = .bound plan)
    (hi : F (.inl (.intent op)) = .bound i) (hr : F (.inl (.receipt op)) = .bound r)
    (he : F (.inl (.leaseEvidence op)) = .bound evidence)
    (hfinal : F (.inr (.finalEvidence op)) = .bound ⟨op, final.1, final.2⟩) :
    (recordPackage config (packageOf plan i r evidence (recoveredReport i r op) final plan.mainBeforeCommit)).Safe F
      (rules config F) (fun _ _ => True) H := by
  refine Prog.Safe.ofOption_bind (fun package hpackage => ?_) trivial
  split at hpackage
  · cases hpackage
    refine Prog.Safe.require_bind (fun hlimit => ?_) trivial
    refine Prog.Safe.port_bind trivial fun x => ?_
    cases x with
    | raised m => trivial
    | returned d =>
      refine Prog.Safe.require_bind (fun _ => ?_) trivial
      subst hop
      refine (Journal.record_safe fun H' _ hcanonical hsize => ?_).bind (fun _ _ _ => trivial) fun _ _ _ => trivial
      exact ⟨rfl, ⟨plan, hplan, hi, hr, he, hfinal, rfl, hlimit, hsize⟩, hcanonical⟩
  · cases hpackage

theorem assertPlanIntentReceipt_outside {plan : Plan C} :
    (assertPlanIntentReceipt plan i r).Does Outside := Prog.Does.require.bind fun _ => Prog.Does.require

theorem closePackage_safe {plan : Plan C} (hop : i.operationId = op) (hplan : F (.inr (.plan op)) = .bound plan)
    (hi : F (.inl (.intent op)) = .bound i) (hr : F (.inl (.receipt op)) = .bound r)
    (he : F (.inl (.leaseEvidence op)) = .bound evidence)
    (hfinal : F (.inr (.finalEvidence op)) = .bound ⟨op, final.1, final.2⟩) :
    (closePackage config plan op i r evidence final).Safe F (rules config F) (Prog.Returning fun _ _ => True) H := by
  refine Prog.Safe.port_bind trivial fun x => ?_
  cases x with
  | raised m => trivial
  | returned mainAfter =>
    refine Prog.Safe.require_bind (fun hmain => ?_) trivial
    subst hmain
    refine (recordPackage_safe hop hplan hi hr he hfinal).bind (fun H₆ package _ => ?_) fun _ _ _ => trivial
    refine (outside_safe ?_).mono fun _ x _ => by cases x <;> trivial
    exact releaseRecoveredLease_outside.bind fun _ => trivial

theorem completePackage_safe {plan : Plan C} (hplan : F (.inr (.plan op)) = .bound plan) :
    (completePackage config plan op).Safe F (rules config F) (Prog.Returning fun _ _ => True) H := by
  refine readIntent_safe.seq fun H₁ i _ hi => ?_
  refine readReceipt_safe.seq fun H₂ r _ hr => ?_
  refine ofPromotion_read_safe.seq fun H₃ o hH₃ ho => Prog.Safe.ofOption_bind (fun evidence he => ?_) trivial
  have hassert : (assertPlanIntentReceipt plan i r).Safe F (rules config F) (Prog.Returning fun _ _ => True) H₃ :=
    (outside_safe assertPlanIntentReceipt_outside).mono fun _ x _ => by cases x <;> trivial
  refine hassert.seq fun H₄ _ hH₄ _ => Prog.Safe.require_bind (fun hsuccess => ?_) trivial
  have hread : .read (.inl (.receipt op)) (.found r) ∈ H₄ := (hH₃.trans hH₄).mem hr.2
  refine (settleFinalEvidence_safe hi.1 hr.1 hsuccess hread).seq fun H₅ final _ hfinal => ?_
  exact closePackage_safe hi.2 hplan hi.1 hr.1 (ho evidence he).1 hfinal

/-! ## Calls -/

theorem finalize_safe : (finalize config op).Safe F (rules config F) (fun _ _ => True) H := by
  have hrecords : (finalizeRecords config op).Safe F (rules config F) (Prog.Returning fun _ _ => True) H := by
    refine Journal.read_safe.seq fun H₁ planned _ hplanned => Prog.Safe.ofOption_bind (fun plan hplan => ?_) trivial
    refine Prog.Safe.require_bind (fun _ => ?_) trivial
    refine Journal.read_safe.seq fun H₂ existing _ _ => ?_
    cases existing with
    | none => exact completePackage_safe (hplanned plan hplan).1
    | some package =>
      refine (outside_safe ?_).mono fun _ x _ => by cases x <;> trivial
      exact Prog.Does.require.bind fun _ => releaseRecoveredLease_outside.bind fun _ => trivial
  refine Prog.Safe.attempt_bind hrecords fun H₁ x _ => ?_
  cases x <;> trivial

theorem afterPromotion_safe :
    (if report.outcome.success then finalize config op else return ⟨report, none⟩ : Code C (CampaignResult C)).Safe F
      (rules config F) (fun _ _ => True) H := by
  split
  · exact finalize_safe
  · trivial

theorem outside_then {β : Type} {p : Code C α} {f : α → Code C β} (hu : Unheard H) (hd : p.Does Outside)
    (hf : ∀ H' x, Unheard H' → (f x).Safe F (rules config F) (fun _ _ => True) H') :
    (p >>= f).Safe F (rules config F) (fun _ _ => True) H :=
  (outside_unheard hu hd).bind hf fun _ _ _ => trivial

theorem resume_safe (hu : Unheard H) : (resume config op).Safe F (rules config F) (fun _ _ => True) H := by
  refine (Journal.read_safe.keeps Journal.read_outside unheard_kept hu).bind (fun H₁ planned hplanned => ?_) fun _ _ _ => trivial
  refine Prog.Safe.ofOption_bind (fun plan hplan => ?_) trivial
  have hbound := (hplanned.2 plan hplan).1
  refine outside_then hplanned.1 (ofPromotion_outside (Promotion.Journal.read_aside _ _)) fun H₂ intent hu₂ => ?_
  refine Prog.Safe.require_bind (fun _ => ?_) trivial
  refine outside_then hu₂ (ofPromotion_outside (Promotion.Journal.read_aside _ _)) fun H₃ receipt hu₃ => ?_
  cases receipt with
  | some r => exact finalize_safe
  | none => exact (promote_safe hbound hu₃).bind (fun _ _ _ => afterPromotion_safe) fun _ _ _ => trivial

theorem reviewerDomains_outside {intake : DryRunInput} {reviewers : List ReviewerAttestation} :
    (reviewerDomains config intake reviewers : Code C (List String)).Does Outside := by
  induction reviewers with
  | nil => trivial
  | cons r rest ih => exact Prog.Does.require.bind fun _ => Prog.Does.ofOption.bind fun _ => ih.bind fun _ => trivial

theorem validateQuality_outside {intake : DryRunInput} {q : QualityEvidence} {d : Discovery C.toCanon} :
    (validateQuality config intake q d).Does Outside := by
  refine Prog.Does.require.bind fun _ => Prog.Does.require.bind fun _ => Prog.Does.require.bind fun _ => ?_
  refine Prog.Does.require.bind fun _ => Prog.Does.require.bind fun _ => reviewerDomains_outside.bind fun _ => ?_
  refine Prog.Does.require.bind fun _ => Prog.Does.require.bind fun _ => ?_
  exact Prog.Does.require

theorem gather_outside {request : Request} : (gather config request p : Code C _).Does Outside := by
  have hintake : ∀ intake, (validateIntake request p intake : Code C Unit).Does Outside := fun _ =>
    Prog.Does.require.bind fun _ => Prog.Does.require.bind fun _ => Prog.Does.require
  refine Prog.Does.bind (ask_outside orRaise_outside) fun _ => Prog.Does.bind (ask_outside orRaise_outside) fun intake => ?_
  refine (hintake intake).bind fun _ => Prog.Does.bind (ask_outside orRaise_outside) fun opened => ?_
  refine Prog.Does.require.bind fun _ => Prog.Does.bind (ask_outside orRaise_outside) fun discovery => ?_
  refine Prog.Does.require.bind fun _ => Prog.Does.require.bind fun _ => ?_
  refine Prog.Does.bind (ask_outside orRaise_outside) fun quality => ?_
  exact validateQuality_outside.bind fun _ => trivial

section Planning
variable {request : Request} {p : Publication} {opened : Opened} {d : Discovery C.toCanon} {intake : DryRunInput}
  {q : QualityEvidence}

theorem validatePreparation_outside {prepared : Preparation C.toCanon} {dryRun : DryRunResult} :
    (validatePreparation prepared p dryRun d).Does Outside := by
  refine Prog.Does.require.bind fun _ => ?_
  exact Prog.Does.require

theorem plan_outside : (plan request p opened d intake q).Does Outside := by
  refine Prog.Does.bind (ask_outside orRaise_outside) fun dryRun => Prog.Does.require.bind fun _ => ?_
  refine Prog.Does.bind (ask_outside orRaise_outside) fun verified => Prog.Does.require.bind fun _ => ?_
  refine Prog.Does.bind (ask_outside orRaise_outside) fun evidence => Prog.Does.require.bind fun _ => ?_
  refine Prog.Does.bind (ask_outside orRaise_outside) fun prepared => ?_
  have hmarker : (validateMarker prepared).Does Outside := Prog.Does.require.bind fun _ => Prog.Does.require
  exact validatePreparation_outside.bind fun _ => hmarker.bind fun _ => Prog.Does.ofOption

theorem plan_safe : (plan request p opened d intake q).Safe F (rules config F)
    (Prog.Returning fun _ plan => intentBound plan.preparation plan.discovery) H := by
  have hask : ∀ {α : Type} (p : Code C α) (H : Log C), p.Does Outside →
      p.Safe F (rules config F) (Prog.Returning fun _ _ => True) H := fun p H hd =>
    (outside_safe hd).mono fun _ x _ => by cases x <;> trivial
  refine (hask _ _ (ask_outside orRaise_outside)).seq fun _ dryRun _ _ => ?_
  refine Prog.Safe.require_bind (fun _ => ?_) trivial
  refine (hask _ _ (ask_outside orRaise_outside)).seq fun _ verified _ _ => Prog.Safe.require_bind (fun _ => ?_) trivial
  refine (hask _ _ (ask_outside orRaise_outside)).seq fun _ evidence _ _ => Prog.Safe.require_bind (fun _ => ?_) trivial
  refine (hask _ _ (ask_outside orRaise_outside)).seq fun _ prepared _ _ => ?_
  have hprepared : ∀ H, (validatePreparation prepared p dryRun d).Safe F (rules config F)
      (Prog.Returning fun _ _ => intentBound prepared d) H := by
    intro H
    refine Prog.Safe.require_bind (fun _ => ?_) trivial
    unfold Prog.require
    split
    · next hbound => exact hbound
    · trivial
  refine (hprepared _).seq fun _ _ _ hbound => ?_
  have hmarker : (validateMarker prepared).Does Outside := Prog.Does.require.bind fun _ => Prog.Does.require
  refine (hask _ _ hmarker).seq fun _ _ _ _ => ofOption_safe fun plan hplan => ?_
  split at hplan
  · cases hplan
    exact hbound
  · cases hplan

end Planning

theorem run_safe {request : Request} (hu : Unheard H) :
    (run config request p : Code C (CampaignResult C)).Safe F (rules config F) (fun _ _ => True) H := by
  refine outside_then hu gather_outside fun H₁ x hu₁ => ?_
  obtain ⟨opened, discovery, intake, quality⟩ := x
  refine (plan_safe.keeps plan_outside unheard_kept hu₁).bind (fun H₂ plan hplan => ?_) fun _ _ _ => trivial
  have hrecord := (@Journal.record_safe C config F H₂ (.plan plan.operationId) plan
    fun _ _ _ _ => ⟨rfl, hplan.2⟩).keeps Journal.record_quiet quiet_kept hplan.1
  refine hrecord.bind (fun H₃ _ hbound => ?_) fun _ _ _ => trivial
  exact (promote_safe hbound.2 hbound.1).bind (fun _ _ _ => afterPromotion_safe) fun _ _ _ => trivial

end Service

theorem program_safe (call : Call) (F : Disk C) : (program C config call).Safe F (rules config F) (fun _ _ => True) [] := by
  have hnone : Unheard ([] : Log C) := fun _ _ hm => nomatch hm
  cases call with
  | run request p => exact Service.run_safe hnone
  | finalize op => exact Service.finalize_safe
  | resume op => exact Service.resume_safe hnone

/-- Calls of campaigns, over their files. -/
abbrev Calls (C : Canon) := AvoLib.Config Call (AnyRec C)
  (AnyAnswer C) Exc (CampaignResult C)

theorem run_rests {Pm : Calls C → Move Call (AnyAnswer C) → Prop}
    {c : Calls C} (h : Reaches (perform (program C config)) Pm (AvoLib.Config.idle fun _ => .absent) c) :
    c.Sound (fun _ => .absent) ∧ Linked (fun F k v => ∃ H, Rests config F H k v) c.files ∧
      c.Obeys (fun _ => .absent) (fun F k v => ∃ H, Rests config F H k v) (fun _ F => rules config F) fun _ _ _ _ => True := by
  refine sound_obeys (fun hF hk => ?_) (fun _ F H k v hk => ⟨H, hk⟩) (fun _ _ hb => nomatch hb)
    (fun call F _ _ => program_safe call F) h
  obtain ⟨H, hk⟩ := hk
  exact ⟨H, hk.grows hF⟩

end AvoCorrelate.Campaign
