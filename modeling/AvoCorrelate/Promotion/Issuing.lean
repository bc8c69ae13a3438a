import AvoCorrelate.Promotion.ServiceLogic
/-!
# Where the records of a promotion come from

A `promote` call records only intents that its factory returned, and a receipt of a
success only after the one reconciliation that the call was told, which it compared with
the intent. All else that a call does is `Aside`.
-/
open AvoLib

namespace AvoCorrelate.Promotion

open ExactCas (Sha256Digest GitObject)
open Service

variable {C : Canon} {call : PromoteCall} {F : Files (Rec C)} {h h' : Log C}

/-- What `_assert_reconciliation_binding` compares. -/
def ReconciliationBound (r : Reconciliation C) (i : Intent C) : Prop :=
  r.repositoryDigest = i.repositoryDigest ∧ r.pullRequestNumber = i.pullRequestNumber ∧
    r.pullRequestUrl = i.pullRequestUrl ∧ r.providerIdentity = i.providerIdentity ∧
    r.providerApiVersion = i.providerApiVersion ∧ r.targetRef = i.targetRef ∧
    r.protectionEvidenceDigest = i.protectionEvidenceDigest

def OnlyTold (h : Log C) (i : Intent C) (rec : Reconciliation C) : Prop :=
  ∀ i' r, .port (.reconcile i') r ∈ h → i' = i ∧ r = .returned rec

/-- The call was told of no reconciliation. -/
def Untold (h : Log C) : Prop := ∀ i r, .port (.reconcile i) r ∉ h

/-- Neither an intent nor a receipt is recorded, and nothing is reconciled. -/
def Aside : Action (Rec C) (Port C) → Prop
  | .publish (.intent _) _ => False
  | .publish (.receipt _) _ => False
  | .port (.reconcile _) => False
  | _ => True

def FromFactory (h : Log C) (i : Intent C) : Prop := ∃ l, .port (.intentFactory l) (.returned i) ∈ h

/-- A receipt of a success comes after the one reconciliation of the call, which was
compared with the intent. -/
def Reconciled (h : Log C) (r : Receipt C) : Prop :=
  r.outcome.success = true → ∃ i rec, ReconciliationBound rec i ∧ OnlyTold h i rec

def Issues (h : Log C) : (k : Key) → Rec C k → Prop
  | .intent _, i => FromFactory h i
  | .receipt _, r => Reconciled h r
  | _, _ => True

def issues : Rules (Rec C) (Port.Answer (C := C)) := fun h a =>
  match a with
  | .publish k v => Issues h k v
  | .read _ => True
  | .port _ => True

theorem issues_aside {a : Action (Rec C) (Port C)} (ha : Aside a) : issues h a := by
  cases a with
  | read k => trivial
  | publish k v => cases k <;> trivial
  | port p => trivial

theorem permits_aside : Permits (issues (C := C)) Aside h := fun _ _ _ ha => issues_aside ha

theorem Untold.cons {e : Event (Rec C) (Port.Answer (C := C))} (hu : Untold h) (he : Aside e.action) : Untold (e :: h) := by
  intro i r hm
  rcases List.mem_cons.mp hm with rfl | hm
  · exact he
  · exact hu i r hm

theorem OnlyTold.cons {i : Intent C} {rec : Reconciliation C} {e : Event (Rec C) (Port.Answer (C := C))}
    (ht : OnlyTold h i rec) (he : Aside e.action) : OnlyTold (e :: h) i rec := by
  intro i' r hm
  rcases List.mem_cons.mp hm with rfl | hm
  · exact he.elim
  · exact ht i' r hm

variable {i : Intent C} {rec : Reconciliation C} {α : Type} {checks : List String} {what : String}
  {fields : List (String × Bool)} {r : Receipt C} {l : Lease}

theorem Untold.told (hu : Untold h) : OnlyTold (.port (.reconcile i) (.returned rec) :: h) i rec := by
  intro i' r hm
  rcases List.mem_cons.mp hm with he | hm
  · cases he
    exact ⟨rfl, rfl⟩
  · exact absurd hm (hu i' r)

section Steps
variable {ε ε' α β : Type} {p : Prog (Rec C) (Port.Answer (C := C)) ε α}

theorem aside_safe (hd : p.Does Aside) : p.Safe F issues (fun _ _ => True) h := hd.safe permits_aside

theorem aside_keeps {I : Log C → Prop} (hI : ∀ h e, I h → Aside e.action → I (e :: h)) (h0 : I h) (hd : p.Does Aside) :
    p.Safe F issues (fun h' _ => I h') h :=
  ((aside_safe hd).keeps hd hI h0).mono fun _ _ hx => hx.1

theorem untold_kept (h : Log C) (e : Event (Rec C) (Port.Answer (C := C))) (hu : Untold h) (he : Aside e.action) :
    Untold (e :: h) := hu.cons he

theorem told_kept {i : Intent C} {rec : Reconciliation C} (h : Log C) (e : Event (Rec C) (Port.Answer (C := C)))
    (ht : OnlyTold h i rec) (he : Aside e.action) : OnlyTold (e :: h) i rec := ht.cons he

theorem FromFactory.suffix {i : Intent C} (hf : FromFactory h i) (hs : h <:+ h') : FromFactory h' i := by
  obtain ⟨l, hm⟩ := hf
  exact ⟨l, hs.mem hm⟩

end Steps

theorem orRaise_aside (a : Answer α) : (a.orRaise : Code C α).Does Aside := orRaise_does a

theorem readClock_aside : (readClock : Code C Instant).Does Aside := by
  refine ⟨trivial, fun r => ?_⟩
  cases r <;> trivial

/-! ## The journal -/

namespace Journal

theorem read_aside (t : Texts) (k : Key) : (read t k : Code C (Option (Rec C k))).Does Aside := by
  refine ⟨trivial, fun r => ?_⟩
  cases r with
  | missing | malformed => trivial
  | found v =>
    dsimp only
    split <;> trivial

theorem record_aside (t : Texts) {k : Key} {v : Rec C k} (hk : Aside (.publish k v)) : (record t k v).Does Aside := by
  refine ⟨trivial, fun r => ?_⟩
  cases r with
  | raised m => trivial
  | returned u =>
    refine ⟨hk, fun r => ?_⟩
    cases r with
    | created | failed | lost => trivial
    | taken =>
      refine ⟨trivial, fun r => ?_⟩
      cases r with
      | missing | malformed => trivial
      | found old =>
        dsimp only
        split <;> trivial

theorem record_untold (t : Texts) {k : Key} {v : Rec C k} (hk : ∀ r, Issues (.port (.install k) r :: h) k v)
    (hu : Untold h) : (record t k v).Safe F issues (fun h' _ => Untold h') h := by
  have hcons : ∀ {h : Log C} {e : Event (Rec C) (Port.Answer (C := C))}, Untold h → (∀ i r, e ≠ .port (.reconcile i) r) →
      Untold (e :: h) := by
    intro h e hu he i r hm
    rcases List.mem_cons.mp hm with heq | hm
    · exact he i r heq.symm
    · exact hu i r hm
  refine ⟨trivial, fun r => ?_⟩
  have hu₁ : Untold (.port (.install k) r :: h) := hu.cons trivial
  cases r with
  | raised m => exact hu₁
  | returned u =>
    refine ⟨hk _, fun r _ => ?_⟩
    have hu₂ : Untold (.publish k v r :: .port (.install k) (.returned u) :: h) := hcons hu₁ fun _ _ h => nomatch h
    cases r with
    | created | failed | lost => exact hu₂
    | taken =>
      refine ⟨trivial, fun r _ => ?_⟩
      have hu₃ : Untold (.read k r :: .publish k v .taken :: .port (.install k) (.returned u) :: h) := hu₂.cons trivial
      cases r with
      | missing | malformed => exact hu₃
      | found old =>
        dsimp only
        split <;> exact hu₃

theorem record_issues (t : Texts) {k : Key} {v : Rec C k} (hk : ∀ r, Issues (.port (.install k) r :: h) k v) :
    (record t k v).Safe F issues (Prog.Returning fun _ _ => F k = .bound v) h := by
  refine ⟨trivial, fun r => ?_⟩
  cases r with
  | raised m => trivial
  | returned u =>
    refine ⟨hk _, fun r hr => ?_⟩
    cases r with
    | created => exact hr
    | failed | lost => trivial
    | taken =>
      refine ⟨trivial, fun r hold => ?_⟩
      cases r with
      | missing | malformed => trivial
      | found old =>
        dsimp only
        split
        · next he =>
          subst he
          exact hold
        · trivial

theorem assertCurrent_aside (l : Lease) : (assertCurrent l : Code C Unit).Does Aside := by
  refine ⟨trivial, fun r => ?_⟩
  cases r with
  | missing | malformed => trivial
  | found current => exact Prog.Does.require.bind fun _ => ⟨trivial, fun _ => Prog.Does.require⟩

theorem removeLease_aside (key : Sha256Digest) : (removeLease key : Code C Unit).Does Aside := by
  refine ⟨trivial, fun r => ?_⟩
  cases r <;> trivial

theorem releaseLease_aside (l : Lease) : (releaseLease l : Code C Unit).Does Aside := by
  refine ⟨trivial, fun r => ?_⟩
  cases r with
  | missing | malformed => trivial
  | found current =>
    dsimp only
    split
    · exact removeLease_aside _
    · trivial

theorem readLease_aside (d : Sha256Digest) (ref : String) : (readLease d ref : Code C (Option Lease)).Does Aside := by
  unfold readLease
  split
  · refine ⟨trivial, fun r => ?_⟩
    cases r with
    | missing | malformed => trivial
    | found l =>
      dsimp only
      split <;> trivial
  · trivial

theorem releaseMatchingLease_aside (d : Sha256Digest) (ref : String) (op : Sha256Digest) (id : String) (e : Sha256Digest) :
    (releaseMatchingLease d ref op id e : Code C Bool).Does Aside := by
  refine (readLease_aside d ref).bind fun o => ?_
  cases o with
  | none => trivial
  | some l => exact Prog.Does.require.bind fun _ => (releaseLease_aside l).bind fun _ => trivial

theorem writeLease_aside (l : Lease) : (writeLease l : Code C Unit).Does Aside := by
  refine ⟨trivial, fun r => ?_⟩
  cases r with
  | «exists» | failed => trivial
  | created =>
    refine ⟨trivial, fun r => ?_⟩
    cases r <;> trivial

theorem evidenceLease_aside (l : Lease) (e : LeaseEvidence C) : (evidenceLease l e).Does Aside := by
  have hrecord : (recordLeaseEvidence e).Does Aside := record_aside _ trivial
  refine hrecord.attempt.bind fun x => ?_
  cases x with
  | ok u => trivial
  | error m =>
    refine (releaseLease_aside l).attempt.bind fun y => ?_
    cases y <;> trivial

theorem acquireLease_aside (d : Sha256Digest) (ref : String) (op : Sha256Digest) (seconds : Int) :
    (acquireLease d ref op seconds : Code C Lease).Does Aside := by
  refine Prog.Does.require.bind fun _ => Prog.Does.require.bind fun _ => ?_
  refine readClock_aside.bind fun acquired => ?_
  refine Prog.Does.bind ⟨trivial, fun _ => trivial⟩ fun identity => ?_
  refine (read_aside _ _).bind fun existing => Prog.Does.require.bind fun _ => ?_
  refine (writeLease_aside _).bind fun _ => Prog.Does.ofOption.bind fun e => ?_
  exact (evidenceLease_aside _ e).bind fun _ => trivial

end Journal

/-! ## The service -/

theorem report_aside {op : Sha256Digest} {outcome : Outcome} {errors : List String} {r : Option (Receipt C)} :
    (report op outcome checks errors r : Code C Report).Does Aside :=
  Prog.Does.require.bind fun _ => trivial

theorem noting_aside {safeRelease : Bool} {p : Code C α} (hp : p.Does Aside) :
    (noting checks safeRelease p).Does Aside := by
  refine hp.attempt.bind fun x => ?_
  cases x <;> trivial

theorem assertFields_aside : (assertFields what fields : Code C Unit).Does Aside := by
  induction fields with
  | nil => trivial
  | cons f fields ih =>
    unfold assertFields
    split
    · exact ih
    · trivial

theorem assertIntentBindingWithoutLease_aside : (assertIntentBindingWithoutLease i call).Does Aside :=
  Prog.Does.require.bind fun _ => Prog.Does.require.bind fun _ => Prog.Does.require

theorem assertDurableLeaseEvidence_aside : (assertDurableLeaseEvidence i).Does Aside :=
  (Journal.read_aside _ _).bind fun _ => Prog.Does.ofOption.bind fun _ => Prog.Does.require

theorem replayReceipt_aside : (replayReceipt call r).Does Aside := by
  unfold replayReceipt
  split
  · exact report_aside
  · refine (Journal.read_aside _ _).bind fun o => ?_
    cases o with
    | none => exact report_aside
    | some i =>
      refine assertDurableLeaseEvidence_aside.bind fun _ => ?_
      refine assertIntentBindingWithoutLease_aside.bind fun _ => Prog.Does.require.bind fun _ => ?_
      refine (Prog.Does.require.bind fun _ => Prog.Does.require.bind fun _ => Prog.Does.require :
        (assertReceiptBinding r i).Does Aside).bind fun _ => ?_
      exact (Journal.releaseMatchingLease_aside _ _ _ _ _).bind fun _ => report_aside

theorem recoverable_aside : (recoverable call i).Does Aside := by
  refine assertDurableLeaseEvidence_aside.bind fun _ => ?_
  refine assertIntentBindingWithoutLease_aside.bind fun _ => Prog.Does.require.bind fun _ => ?_
  exact Journal.read_aside _ _

theorem observePrecondition_aside : (observePrecondition l i).Does Aside := by
  refine (Journal.assertCurrent_aside l).bind fun _ => ?_
  exact Prog.Does.bind ⟨trivial, orRaise_aside⟩ fun _ => assertFields_aside

theorem authorizeMutation_aside : (authorizeMutation i l).Does Aside :=
  readClock_aside.bind fun _ => Journal.record_aside _ trivial

namespace Provider

theorem mergePreconditions_aside {i : Intent C} : (mergePreconditions i).Does Aside := by
  refine Prog.Does.bind ⟨trivial, orRaise_aside⟩ fun _ => Prog.Does.bind ⟨trivial, orRaise_aside⟩ fun _ => ?_
  refine Prog.Does.bind ⟨trivial, orRaise_aside⟩ fun _ => Prog.Does.require.bind fun _ => ?_
  refine Prog.Does.bind ⟨trivial, orRaise_aside⟩ fun _ => ?_
  cases i.expectedMainCommit with
  | none => trivial
  | some expected => exact Prog.Does.bind ⟨trivial, orRaise_aside⟩ fun _ => Prog.Does.require.bind fun _ => trivial

theorem mergeResult_aside {m : MergeResult} : (mergeResult m : Code C MergeResult).Does Aside :=
  Prog.Does.require.bind fun _ => trivial

theorem submit_aside {i : Intent C} {d : Sha256Digest} : (submit i d).Does Aside := by
  refine ⟨trivial, fun r => ?_⟩
  cases r with
  | rejected m | transportError m => exact mergeResult_aside
  | malformed => trivial
  | response response =>
    refine Prog.Does.ofOption.bind fun merged => ?_
    split
    · refine Prog.Does.ofOption.bind fun sha => Prog.Does.bind ⟨trivial, orRaise_aside⟩ fun t => ?_
      exact Prog.Does.require.bind fun _ => mergeResult_aside
    · exact mergeResult_aside

theorem merge_aside {i : Intent C} {leaseGuard mutationAuthorize : Code C Unit} (hl : leaseGuard.Does Aside)
    (hm : mutationAuthorize.Does Aside) : (merge i leaseGuard mutationAuthorize).Does Aside := by
  refine mergePreconditions_aside.attempt.bind fun x => ?_
  cases x with
  | error e => trivial
  | ok d =>
    refine (hl.bind fun _ => hm : (do leaseGuard; mutationAuthorize : Code C Unit).Does Aside).attempt.bind fun y => ?_
    cases y with
    | error e => trivial
    | ok u => exact submit_aside

end Provider

section Bodies
variable {α β : Type} {I : Log C → Prop} {Q : Log C → α → Prop} {R : Log C → Except Failure β → Prop} {p : Code C α}
  {f : α → Body C β} {checks : List String} {safeRelease : Bool}

theorem noting_then (hp : p.Safe F issues (fun h' x => I h' ∧ Prog.Returning Q h' x) h)
    (hf : ∀ h' y, I h' → Q h' y → (f y).Safe F issues R h') (herr : ∀ h' e, I h' → R h' (.error e)) :
    (noting checks safeRelease p >>= f).Safe F issues R h := by
  have hn : (noting checks safeRelease p).Safe F issues (fun h' x => I h' ∧ match x with
      | .ok y => Q h' y
      | .error _ => True) h := by
    refine Prog.Safe.attempt_bind hp fun h' x hx => ?_
    cases x with
    | ok y => exact hx
    | error e => exact ⟨hx.1, trivial⟩
  exact hn.bind (fun h' y hx => hf h' y hx.1 hx.2) fun h' e hx => herr h' e hx.1

theorem noting_aside_then (hI : ∀ h e, I h → Aside e.action → I (e :: h)) (h0 : I h) (hp : p.Does Aside)
    (hf : ∀ h' y, I h' → (f y).Safe F issues R h') (herr : ∀ h' e, I h' → R h' (.error e)) :
    (noting checks safeRelease p >>= f).Safe F issues R h :=
  noting_then (Q := fun _ _ => True) (((aside_safe hp).keeps hp hI h0).mono fun _ x hx => ⟨hx.1, by cases x <;> trivial⟩)
    (fun h' y hi _ => hf h' y hi) herr

end Bodies

theorem reconcile_told (hu : Untold h) : (.port (.reconcile i) Answer.orRaise : Code C (Reconciliation C)).Safe F issues
      (fun h' x => True ∧ Prog.Returning (fun h' rec => OnlyTold h' i rec) h' x) h := by
  refine ⟨trivial, fun r => ?_⟩
  cases r with
  | raised m => exact ⟨trivial, trivial⟩
  | returned rec => exact ⟨trivial, hu.told⟩

theorem assertFields_passed :
    (assertFields what fields : Code C Unit).Safe F issues (Prog.Returning fun _ _ => ∀ f ∈ fields, f.2 = true) h := by
  induction fields with
  | nil => exact fun f hf => nomatch hf
  | cons f fields ih =>
    unfold assertFields
    split
    · next hsame =>
      refine ih.mono fun _ x hx => ?_
      cases x with
      | error e => trivial
      | ok u => exact List.forall_mem_cons.mpr ⟨hsame, hx⟩
    · trivial

theorem assertReconciliationBinding_bound :
    (assertReconciliationBinding i rec).Safe F issues (Prog.Returning fun _ _ => ReconciliationBound rec i) h := by
  refine assertFields_passed.mono fun _ x hx => ?_
  cases x with
  | error e => trivial
  | ok u => simpa [Prog.Returning, ReconciliationBound, decide_eq_true_eq] using hx

theorem recordReceipt_issues (hb : ReconciliationBound rec i) (ht : OnlyTold h i rec) :
    (Journal.recordReceipt r).Safe F issues (fun _ _ => True) h := by
  have hrec : (Journal.recordReceipt r).Safe F issues (Prog.Returning fun _ _ => F (.receipt r.operationId) = .bound r) h :=
    Journal.record_issues _ fun a _ => ⟨i, rec, hb, ht.cons trivial⟩
  exact hrec.mono fun _ _ _ => trivial

theorem closeIntent_issues (hb : ReconciliationBound rec i) (ht : OnlyTold h i rec) :
    (closeIntent call checks i rec).Safe F issues (fun _ _ => True) h := by
  refine Prog.Safe.ofOption_bind (fun r _ => ?_) trivial
  refine (recordReceipt_issues hb ht).bind (fun h₁ _ _ => ?_) fun _ _ _ => trivial
  exact aside_safe ((Journal.releaseMatchingLease_aside _ _ _ _ _).bind fun _ => report_aside)

theorem recoverIntent_issues (hu : Untold h) : (recoverIntent call checks i).Safe F issues (fun _ _ => True) h := by
  refine noting_aside_then untold_kept hu recoverable_aside (fun h₁ o hu₁ => ?_) fun _ _ _ => trivial
  cases o with
  | none => exact aside_safe (noting_aside report_aside)
  | some a =>
    refine noting_aside_then untold_kept hu₁ Prog.Does.require (fun h₂ _ hu₂ => ?_) fun _ _ _ => trivial
    refine noting_then (reconcile_told hu₂) (fun h₃ rec _ ht => ?_) fun _ _ _ => trivial
    have htail : (do
        assertReconciliationBinding i rec
        if classifyReconciliation rec i = .alreadyApplied then
          closeIntent call (checks ++ ["intent_existing", "reconciled_once"]) i rec
        else
          report call.operationId .reconciliationRequired (checks ++ ["intent_existing", "reconciled_once"])
            ["existing intent requires reconciliation"] none : Code C Report).Safe F issues (fun _ _ => True) h₃ := by
      refine (assertReconciliationBinding_bound.keeps assertFields_aside told_kept ht).bind
        (fun h₄ _ hx => ?_) fun _ _ _ => trivial
      split
      · exact closeIntent_issues hx.2 hx.1
      · exact aside_safe report_aside
    refine Prog.Safe.attempt_bind htail fun h₄ x _ => ?_
    cases x <;> trivial

theorem beforeLease_issues (hu : Untold h) :
    (beforeLease call).Safe F issues (fun h' (x : Except Failure (Option Report)) => x = .ok none → Untold h') h := by
  have herr : ∀ (h' : Log C) (e : Failure), Untold h' → ((.error e : Except Failure (Option Report)) = .ok none → Untold h') :=
    fun _ _ hu _ => hu
  have hverify : (do
      Prog.require (publicationBound call.publication call.bundle)
        (.error "candidate publication does not match bundle provenance")
      let verified ← (.port (.verifyPublication call.publication call.bundle) Answer.orRaise : Code C Bool)
      Prog.require (verified = true) (.error "candidate publication verifier rejected evidence") : Code C Unit).Does Aside :=
    Prog.Does.require.bind fun _ => Prog.Does.bind ⟨trivial, orRaise_aside⟩ fun _ => Prog.Does.require
  refine noting_aside_then untold_kept hu hverify (fun h₁ _ hu₁ => ?_) herr
  refine noting_aside_then untold_kept hu₁ (Journal.read_aside _ _) (fun h₂ existing hu₂ => ?_) herr
  cases existing with
  | some r =>
    exact (aside_safe (noting_aside replayReceipt_aside)).bind (fun _ _ _ => fun hx => (nomatch hx)) fun _ _ _ hx => nomatch hx
  | none =>
    refine noting_aside_then untold_kept hu₂ (Journal.read_aside _ _) (fun h₃ durable hu₃ => ?_) herr
    cases durable with
    | some i => exact (recoverIntent_issues hu₃).bind (fun _ _ _ => fun hx => (nomatch hx)) fun _ _ _ hx => nomatch hx
    | none => exact fun _ => hu₃

/-! ## A first run -/

section First
variable {l : Lease} {i : Intent C}

theorem bindIntent_issues (hu : Untold h) :
    (bindIntent call l).Safe F issues
      (fun h' x => Untold h' ∧ Prog.Returning (fun h' y => FromFactory h' y.1) h' x) h := by
  refine (aside_keeps untold_kept hu (Journal.assertCurrent_aside l)).bind (fun h₁ _ hu₁ => ?_) fun _ _ hu => ⟨hu, trivial⟩
  have hlease : (assertLeaseEvidence call.operationId l : Code C Unit).Does Aside :=
    (Journal.read_aside _ _).bind fun _ => Prog.Does.ofOption.bind fun _ => Prog.Does.require
  refine (aside_keeps untold_kept hu₁ hlease).bind (fun h₂ _ hu₂ => ?_) fun _ _ hu => ⟨hu, trivial⟩
  refine Prog.Safe.port_bind trivial fun r => ?_
  have hu₃ : Untold (.port (.intentFactory l) r :: h₂) := hu₂.cons trivial
  cases r with
  | raised m => exact ⟨hu₃, trivial⟩
  | returned i =>
    let I : Log C → Prop := fun h => Untold h ∧ FromFactory h i
    have hI : ∀ h e, I h → Aside e.action → I (e :: h) := fun h e hi he =>
      ⟨hi.1.cons he, hi.2.suffix (List.suffix_cons e h)⟩
    have h₃I : I (.port (.intentFactory l) (.returned i) :: h₂) := ⟨hu₃, l, List.mem_cons_self⟩
    have hbinding : (assertIntentBinding i call l).Does Aside :=
      assertIntentBindingWithoutLease_aside.bind fun _ => Prog.Does.require
    refine (aside_keeps hI h₃I hbinding).bind (fun h₄ _ h₄I => ?_) fun _ _ hi => ⟨hi.1, trivial⟩
    have hpublication : (assertPublicationIntentBinding call.publication i).Does Aside := Prog.Does.require
    refine (aside_keeps hI h₄I hpublication).bind (fun h₅ _ h₅I => ?_) fun _ _ hi => ⟨hi.1, trivial⟩
    have hreplay : (.port (.replay call.bundle call.bundleDigest) Answer.orRaise : Code C ReplayReport).Does Aside :=
      ⟨trivial, orRaise_aside⟩
    exact (aside_keeps hI h₅I hreplay).bind (fun h₆ _ h₆I => h₆I) fun _ _ hi => ⟨hi.1, trivial⟩

theorem prepare_issues (hu : Untold h) : (prepare call l).Safe F issues (fun h' _ => Untold h') h := by
  have herr : ∀ (h' : Log C) (e : Failure), Untold h' → Untold h' := fun _ _ hu => hu
  refine noting_then (bindIntent_issues hu) (fun h₁ x hu₁ hmade => ?_) herr
  obtain ⟨i, r⟩ := x
  dsimp only
  split
  · let I : Log C → Prop := fun h => Untold h ∧ FromFactory h i
    have hI : ∀ h e, I h → Aside e.action → I (e :: h) := fun h e hi he =>
      ⟨hi.1.cons he, hi.2.suffix (List.suffix_cons e h)⟩
    refine noting_aside_then hI ⟨hu₁, hmade⟩ observePrecondition_aside (fun h₂ _ h₂I => ?_) fun _ _ hi => hi.1
    have hrecord : (do
        Journal.assertCurrent l
        Journal.recordIntent i : Code C Unit).Safe F issues (fun h' x => Untold h' ∧ Prog.Returning (fun _ _ => True) h' x) h₂ := by
      refine (aside_keeps hI h₂I (Journal.assertCurrent_aside l)).bind (fun h₃ _ h₃I => ?_) fun _ _ hi => ⟨hi.1, trivial⟩
      have hrec : (Journal.recordIntent i).Safe F issues (fun h' _ => Untold h') h₃ :=
        Journal.record_untold _ (fun a => h₃I.2.suffix (List.suffix_cons _ h₃)) h₃I.1
      exact hrec.mono fun _ x hx => ⟨hx, by cases x <;> trivial⟩
    exact noting_then hrecord (fun h₃ _ hu₃ _ => hu₃) herr
  · exact (aside_keeps untold_kept hu₁ (noting_aside report_aside)).bind (fun _ _ hu => hu) fun _ _ hu => hu

theorem closePrecondition_issues {checks : List String} {message : String} :
    (closePrecondition call checks i message).Safe F issues (fun _ _ => True) h := by
  have hbody : (do
      let receipt ← Prog.ofOption (Receipt.build (preconditionReceipt i message)) (.error "invalid receipt")
      Journal.recordReceipt receipt
      report call.operationId .invalid (checks ++ ["merge_precondition_failed"]) [message] (some receipt) :
      Code C Report).Safe F issues (fun h' x => True ∧ Prog.Returning (fun _ _ => True) h' x) h := by
    refine Prog.Safe.ofOption_bind (fun r hr => ?_) ⟨trivial, trivial⟩
    have hrefused : r.outcome.success = false := by
      rw [Receipt.build_eq hr]
      rfl
    have hrec : (Journal.recordReceipt r).Safe F issues
        (Prog.Returning fun _ _ => F (.receipt r.operationId) = .bound r) h :=
      Journal.record_issues _ fun _ hs => nomatch hrefused.symm.trans hs
    refine hrec.bind (fun h₁ _ _ => ?_) fun _ _ _ => ⟨trivial, trivial⟩
    exact (aside_safe report_aside).mono fun _ x _ => ⟨trivial, by cases x <;> trivial⟩
  exact noting_then hbody (fun _ _ _ _ => trivial) fun _ _ _ => trivial

theorem closeMerge_issues {checks : List String} {m : MergeResult} (hu : Untold h) :
    (closeMerge call l checks i m).Safe F issues (fun _ _ => True) h := by
  refine noting_then (reconcile_told hu) (fun h₁ rec _ ht => ?_) fun _ _ _ => trivial
  have hbody : (do
      assertReconciliationBinding i rec
      let receipt ← Prog.ofOption (Receipt.build (receiptOf i m rec (classify m rec i))) (.error "invalid receipt")
      Journal.assertCurrent l
      Journal.recordReceipt receipt
      return receipt : Code C (Receipt C)).Safe F issues (fun h' x => True ∧ Prog.Returning (fun _ _ => True) h' x) h₁ := by
    refine (assertReconciliationBinding_bound.keeps assertFields_aside told_kept ht).bind (fun h₂ _ hx => ?_)
      fun _ _ _ => ⟨trivial, trivial⟩
    refine Prog.Safe.ofOption_bind (fun r _ => ?_) ⟨trivial, trivial⟩
    refine (aside_keeps told_kept hx.1 (Journal.assertCurrent_aside l)).bind (fun h₃ _ ht₃ => ?_) fun _ _ _ => ⟨trivial, trivial⟩
    exact (recordReceipt_issues hx.2 ht₃).bind (fun _ _ _ => ⟨trivial, trivial⟩) fun _ _ _ => ⟨trivial, trivial⟩
  refine noting_then hbody (fun h₂ r _ _ => ?_) fun _ _ _ => trivial
  exact (aside_safe (noting_aside report_aside)).bind (fun _ _ _ => trivial) fun _ _ _ => trivial

theorem submit_issues {checks : List String} (hu : Untold h) :
    (submit call l checks i).Safe F issues (fun _ _ => True) h := by
  refine noting_aside_then untold_kept hu (Journal.assertCurrent_aside l) (fun h₁ _ hu₁ => ?_) fun _ _ _ => trivial
  have hmerge : (Provider.merge i (Journal.assertCurrent l) (authorizeMutation i l)).Does Aside :=
    Provider.merge_aside (Journal.assertCurrent_aside l) authorizeMutation_aside
  refine Prog.Safe.attempt_bind (aside_keeps untold_kept hu₁ hmerge) fun h₂ x hu₂ => ?_
  match x with
  | .error (.precondition message) => exact closePrecondition_issues
  | .error (.error message) =>
    exact noting_aside_then untold_kept hu₂ Provider.mergeResult_aside (fun h₃ m hu₃ => closeMerge_issues hu₃) fun _ _ _ => trivial
  | .ok m => exact closeMerge_issues hu₂

theorem release_aside : (release l : Code C Unit).Does Aside := (Journal.releaseLease_aside l).attempt.bind fun _ => trivial

theorem runLeased_issues (hu : Untold h) : (runLeased call l).Safe F issues (fun _ _ => True) h := by
  refine Prog.Safe.attempt_bind (prepare_issues hu) fun h₁ x hu₁ => ?_
  match x with
  | .error f => exact aside_safe (release_aside.bind fun _ => report_aside)
  | .ok (.inl y) => exact aside_safe (release_aside.bind fun _ => trivial)
  | .ok (.inr (i, checks)) =>
    refine Prog.Safe.attempt_bind (submit_issues hu₁) fun h₂ z _ => ?_
    match z with
    | .error f =>
      dsimp only
      split
      · exact aside_safe (release_aside.bind fun _ => report_aside)
      · exact aside_safe report_aside
    | .ok (y, safeRelease) =>
      dsimp only
      split
      · exact aside_safe (release_aside.bind fun _ => trivial)
      · trivial

end First

theorem promote_issues : (promote call).Safe F issues (fun _ _ => True) ([] : Log C) := by
  have hu : Untold ([] : Log C) := fun _ _ hm => nomatch hm
  refine Prog.Safe.require_bind (fun _ => ?_) trivial
  refine Prog.Safe.attempt_bind (beforeLease_issues hu) fun h₁ x hx => ?_
  match x, hx with
  | .error f, _ => exact aside_safe report_aside
  | .ok (some y), _ => trivial
  | .ok none, hx =>
    refine Prog.Safe.attempt_bind (aside_keeps untold_kept (hx rfl) (Journal.acquireLease_aside _ _ _ _)) fun h₂ z hu₂ => ?_
    cases z with
    | error e => exact aside_safe report_aside
    | ok l => exact runLeased_issues hu₂

end AvoCorrelate.Promotion
