import AvoCorrelate.Promotion.JournalLogic
/-!
# What a promotion does

Every program of `Service` keeps to the rules of its call, and `promote_safe` sums
them up: what a report says is on record, or the call submitted no PUT. The parts
of a first run are followed by what the call has in hand: its lease, then its
intent, then nothing that it may give up before its receipt is durable.
-/
open AvoLib

namespace AvoCorrelate.Promotion

open ExactCas (Sha256Digest GitObject)
open Service

variable {C : Canon} {call : PromoteCall} {F : Files (Rec C)} {h h' : Log C}

/-- A report is backed by a durable receipt of its outcome, or says that nothing
is known of a merge, or the call submitted no PUT. -/
def Truthful (call : PromoteCall) (F : Files (Rec C)) (h : Log C) (report : Report) : Prop :=
  (∃ r, F (.receipt call.operationId) = .bound r ∧ r.outcome = report.outcome) ∨
    (report.outcome.success = false ∧ (report.outcome = .reconciliationRequired ∨ Without puts h))

/-- The call may give up its lease. -/
def Releasable (call : PromoteCall) (F : Files (Rec C)) (h : Log C) : Prop :=
  Without puts h ∨ Resolved F call.operationId

/-! ## Steps of a body -/

section Bodies
variable {α β : Type} {I : Log C → Prop} {Q : Log C → α → Prop} {R : Log C → Except Failure β → Prop}
  {p : Code C α} {f : α → Body C β} {checks : List String} {safeRelease : Bool}

theorem noting_safe {Q : Log C → Except Exc α → Prop} {R : Log C → Except Failure α → Prop}
    (hp : p.Safe F (rules call F) Q h) (hok : ∀ h' y, Q h' (.ok y) → R h' (.ok y))
    (herr : ∀ h' e, Q h' (.error e) → R h' (.error ⟨checks, e.message, safeRelease⟩)) :
    (noting checks safeRelease p).Safe F (rules call F) R h := by
  refine Prog.Safe.attempt_bind hp fun h' x hx => ?_
  cases x with
  | ok y => exact hok h' y hx
  | error e => exact herr h' e hx

theorem noting_step (hI : ∀ h e, I h → Journaling e.action → I (e :: h)) (h0 : I h)
    (hp : p.Safe F (rules call F) (Prog.Returning Q) h) (hd : p.Does Journaling)
    (hf : ∀ h' y, I h' → Q h' y → (f y).Safe F (rules call F) R h')
    (herr : ∀ h' e, I h' → R h' (.error ⟨checks, e, safeRelease⟩)) :
    (noting checks safeRelease p >>= f).Safe F (rules call F) R h := by
  have hn : (noting checks safeRelease p).Safe F (rules call F)
      (fun h' x => I h' ∧ match x with
        | .ok y => Q h' y
        | .error f => ∃ e, f = ⟨checks, e, safeRelease⟩) h :=
    noting_safe (hp.keeps hd hI h0) (fun h' y hx => hx) fun h' e hx => ⟨hx.1, e.message, rfl⟩
  refine hn.bind (fun h' y hx => hf h' y hx.1 hx.2) fun h' e hx => ?_
  obtain ⟨hi, m, rfl⟩ := hx
  exact herr h' m hi

end Bodies

variable {op : Sha256Digest} {outcome : Outcome} {checks errors : List String} {i : Intent C} {l : Lease}
  {r : Receipt C} {rec : Reconciliation C}

theorem report_does {r : Option (Receipt C)} : (report op outcome checks errors r : Code C Report).Does Still :=
  Prog.Does.require.bind fun _ => trivial

theorem report_safe {r : Option (Receipt C)} : (report op outcome checks errors r : Code C Report).Safe F (rules call F)
      (fun h' x => h' = h ∧ ∀ y, x = .ok y → y.outcome = outcome) h := by
  refine Prog.Safe.require_bind (fun _ => ?_) ⟨rfl, fun _ hx => (nomatch hx)⟩
  exact ⟨rfl, fun y hy => by cases hy; rfl⟩

theorem assertFields_does {what : String} {fields : List (String × Bool)} :
    (assertFields what fields : Code C Unit).Does Still := by
  induction fields with
  | nil => trivial
  | cons f fields ih =>
    unfold assertFields
    split
    · exact ih
    · trivial

/-! ## Checks -/

theorem assertIntentBindingWithoutLease_does : (assertIntentBindingWithoutLease i call).Does Still :=
  Prog.Does.require.bind fun _ => Prog.Does.require.bind fun _ => Prog.Does.require

theorem assertIntentBinding_does : (assertIntentBinding i call l).Does Still :=
  assertIntentBindingWithoutLease_does.bind fun _ => Prog.Does.require

theorem assertPublicationIntentBinding_does {p : Publication} :
    (assertPublicationIntentBinding p i).Does Still := Prog.Does.require

theorem assertLeaseEvidence_does : (assertLeaseEvidence op l : Code C Unit).Does Still :=
  (Journal.read_does _ _).bind fun _ => Prog.Does.ofOption.bind fun _ => Prog.Does.require

theorem assertDurableLeaseEvidence_does : (assertDurableLeaseEvidence i).Does Still :=
  (Journal.read_does _ _).bind fun _ => Prog.Does.ofOption.bind fun _ => Prog.Does.require

theorem assertReceiptBinding_does : (assertReceiptBinding r i).Does Still :=
  Prog.Does.require.bind fun _ => Prog.Does.require.bind fun _ => Prog.Does.require

/-- What `_assert_intent_binding_without_lease` checks. -/
def BundleBound (call : PromoteCall) (i : Intent C) : Prop :=
  (i.operationId = call.operationId ∧ i.repositoryDigest = call.bundle.repositoryDigest ∧
    i.targetRef = call.bundle.targetRef) ∧
  (i.bundleDigest = call.bundleDigest ∧ i.candidateDigest = call.bundle.candidateDigest) ∧
  i.baseCommit = call.bundle.commit ∧ i.baseTree = call.bundle.tree ∧
    i.protectionEvidenceDigest = call.bundle.protectionEvidenceDigest ∧
    i.controllerConfigDigest = call.bundle.controllerConfigDigest ∧
    i.evidenceManifestDigest = call.bundle.evidenceManifestDigest ∧
    i.publicationEvidenceDigest = call.bundle.sourceProvenanceDigest

theorem assertIntentBindingWithoutLease_safe :
    (assertIntentBindingWithoutLease i call).Safe F (rules call F) (Prog.Returning fun _ _ => BundleBound call i) h := by
  refine require_safe.seq fun _ _ _ h₁ => ?_
  refine require_safe.seq fun _ _ _ h₂ => ?_
  refine require_safe.mono fun _ x h₃ => ?_
  cases x with
  | error e => trivial
  | ok u => exact ⟨h₁, h₂, h₃⟩

theorem assertIntentBinding_safe :
    (assertIntentBinding i call l).Safe F (rules call F) (Prog.Returning fun _ _ => BundleBound call i ∧
      i.controllerLeaseIdentity = l.identity ∧ i.controllerLeaseDigest = l.digest C) h := by
  refine assertIntentBindingWithoutLease_safe.seq fun _ _ _ hb => ?_
  refine require_safe.mono fun _ x hl => ?_
  cases x with
  | error e => trivial
  | ok u => exact ⟨hb, hl⟩

/-! ## Receipts -/

theorem ReceiptFrom.cons {op : Sha256Digest} {r : Receipt C} {e : Event (Rec C) (Port.Answer (C := C))}
    (hr : ReceiptFrom F h op r) (he : puts e = false) : ReceiptFrom F (e :: h) op r := by
  obtain ⟨i, hi, hop, ⟨message, hm, hn⟩ | ⟨m, rec, hrec, hrest⟩⟩ := hr
  · exact ⟨i, hi, hop, .inl ⟨message, hm, hn.cons he⟩⟩
  · exact ⟨i, hi, hop, .inr ⟨m, rec, List.mem_cons_of_mem _ hrec, hrest⟩⟩

theorem recordReceipt_safe (hop : r.operationId = call.operationId) (hr : ReceiptFrom F h call.operationId r) :
    (Journal.recordReceipt r).Safe F (rules call F)
      (Prog.Returning fun _ _ => F (.receipt call.operationId) = .bound r) h := by
  have hrec : (Journal.recordReceipt r).Safe F (rules call F)
      (Prog.Returning fun _ _ => F (.receipt r.operationId) = .bound r) h :=
    Journal.record_safe _ fun a => ⟨hop, hop ▸ hr.cons rfl⟩
  rw [hop] at hrec
  exact hrec

theorem recordReceipt_does : (Journal.recordReceipt r).Does Journaling :=
  (Journal.record_does _ _ _).mono fun _ => journaling_of_recording

theorem putless_of_still {a : Action (Rec C) (Port C)} (h : Still a) : Putless a :=
  putless_of_journaling (journaling_of_still h)

/-! ## Replay and recovery -/

theorem replayReceipt_does : (replayReceipt call r).Does Putless := by
  have hreport : ∀ {op outcome checks errors r}, (report op outcome checks errors r : Code C Report).Does Putless :=
    report_does.mono fun _ => putless_of_still
  unfold replayReceipt
  split
  · exact hreport
  · refine ((Journal.read_does _ _).mono fun _ => putless_of_still).bind fun o => ?_
    cases o with
    | none => exact hreport
    | some i =>
      refine (assertDurableLeaseEvidence_does.mono fun _ => putless_of_still).bind fun _ => ?_
      refine (assertIntentBindingWithoutLease_does.mono fun _ => putless_of_still).bind fun _ => ?_
      refine (assertPublicationIntentBinding_does.mono fun _ => putless_of_still).bind fun _ => ?_
      refine (assertReceiptBinding_does.mono fun _ => putless_of_still).bind fun _ => ?_
      exact (Journal.releaseMatchingLease_does _ _ _ _ _).bind fun _ => hreport

theorem replayReceipt_safe (hr : F (.receipt call.operationId) = .bound r) :
    (replayReceipt call r).Safe F (rules call F)
      (Prog.Returning fun _ y => y.outcome = r.outcome ∨ y.outcome.success = false) h := by
  have hreport : ∀ {h : Log C} {outcome checks errors} {r' : Option (Receipt C)},
      outcome = r.outcome ∨ outcome.success = false →
      (report call.operationId outcome checks errors r' : Code C Report).Safe F (rules call F)
        (Prog.Returning fun _ y => y.outcome = r.outcome ∨ y.outcome.success = false) h := by
    intro h outcome checks errors r' ho
    refine report_safe.mono fun _ x hx => ?_
    cases x with
    | error e => trivial
    | ok y =>
      have hy := hx.2 y rfl
      change y.outcome = r.outcome ∨ y.outcome.success = false
      rw [hy]
      exact ho
  unfold replayReceipt
  split
  · exact hreport (.inr rfl)
  · refine (Journal.read_safe _ _).seq fun h₁ o _ ho => ?_
    cases o with
    | none => exact hreport (.inr rfl)
    | some i =>
      refine (still_safe assertDurableLeaseEvidence_does).seq fun _ _ _ _ => ?_
      refine assertIntentBindingWithoutLease_safe.seq fun _ _ _ hb => ?_
      refine (still_safe assertPublicationIntentBinding_does).seq fun _ _ _ _ => ?_
      refine (still_safe assertReceiptBinding_does).seq fun h₂ _ _ _ => ?_
      have hrel : (Journal.releaseMatchingLease i.repositoryDigest i.targetRef i.operationId i.controllerLeaseIdentity
          i.controllerLeaseDigest : Code C Bool).Safe F (rules call F) (fun _ _ => True) h₂ :=
        hb.1.1 ▸ Journal.releaseMatchingLease_safe hr
      exact hrel.bind (fun _ _ _ => hreport (.inl rfl)) fun _ _ _ => trivial

theorem receiptFrom_closed (hi : F (.intent call.operationId) = .bound i)
    (hrec : .port (.reconcile i) (.returned rec) ∈ h) (hx : exact rec i)
    (hb : Receipt.build (receiptOf i reconciledMerge rec .alreadyApplied) = some r) :
    ReceiptFrom F h call.operationId r := by
  have he := Receipt.build_eq hb
  have hout : r.outcome = .alreadyApplied := by rw [he]; rfl
  refine ⟨i, hi, by rw [he]; rfl, .inr ⟨reconciledMerge, rec, hrec, ?_, fun _ => hx⟩⟩
  rw [hout]
  exact he

theorem closeIntent_safe (hop : i.operationId = call.operationId) (hi : F (.intent call.operationId) = .bound i)
    (hrec : .port (.reconcile i) (.returned rec) ∈ h) (hx : exact rec i) :
    (closeIntent call checks i rec).Safe F (rules call F)
      (Prog.Returning fun _ y => ∃ r, F (.receipt call.operationId) = .bound r ∧ r.outcome = y.outcome) h := by
  refine Prog.Safe.ofOption_bind (fun r hb => ?_) trivial
  have he := Receipt.build_eq hb
  have hrop : r.operationId = call.operationId := by rw [he]; exact hop
  refine (recordReceipt_safe hrop (receiptFrom_closed hi hrec hx hb)).seq fun h₁ _ _ hF => ?_
  have hrel : (Journal.releaseMatchingLease i.repositoryDigest i.targetRef i.operationId i.controllerLeaseIdentity
      i.controllerLeaseDigest : Code C Bool).Safe F (rules call F) (fun _ _ => True) h₁ :=
    hop ▸ Journal.releaseMatchingLease_safe hF
  refine hrel.bind (fun _ _ _ => ?_) fun _ _ _ => trivial
  refine report_safe.mono fun _ x hx' => ?_
  cases x with
  | error e => trivial
  | ok y => exact ⟨r, hF, by rw [hx'.2 y rfl, he]; rfl⟩

theorem closeIntent_does : (closeIntent call checks i rec).Does Putless := by
  refine Prog.Does.ofOption.bind fun r => ?_
  refine (recordReceipt_does.mono fun _ => putless_of_journaling).bind fun _ => ?_
  refine (Journal.releaseMatchingLease_does _ _ _ _ _).bind fun _ => ?_
  exact report_does.mono fun _ => putless_of_still

/-- What a replay or a recovery leaves: no PUT, and a true report. -/
def Quietly (call : PromoteCall) (F : Files (Rec C)) (h : Log C) (x : Except Failure Report) : Prop :=
  Without puts h ∧ ∀ y, x = .ok y → Truthful call F h y

theorem quietly_error {f : Failure} (hn : Without puts h) : Quietly call F h (.error f) := ⟨hn, fun _ hx => (nomatch hx)⟩

theorem puts_kept (h : Log C) (e : Event (Rec C) (Port.Answer (C := C))) (hn : Without puts h)
    (he : Journaling e.action) : Without puts (e :: h) := Journaling.keeps (.inl rfl) h e hn he

theorem noting_report {checks' : List String} {safeRelease : Bool} (ho : outcome.success = false) (hn : Without puts h) :
    (noting checks safeRelease (report (C := C) call.operationId outcome checks' errors none)).Safe F (rules call F)
      (Quietly call F) h := by
  refine noting_safe report_safe (fun h' y hy => ?_) fun h' e hx => ?_
  · obtain ⟨rfl, hy⟩ := hy
    refine ⟨hn, fun z hz => ?_⟩
    cases hz
    rw [← hy y rfl] at ho
    exact .inr ⟨ho, .inr hn⟩
  · obtain ⟨rfl, _⟩ := hx
    exact quietly_error hn

theorem recoverable_safe :
    (recoverable call i).Safe F (rules call F) (Prog.Returning fun _ _ => BundleBound call i) h := by
  refine (still_safe assertDurableLeaseEvidence_does).seq fun _ _ _ _ => ?_
  refine assertIntentBindingWithoutLease_safe.seq fun _ _ _ hb => ?_
  refine (still_safe assertPublicationIntentBinding_does).seq fun _ _ _ _ => ?_
  refine (Journal.read_safe _ _).mono fun _ x _ => ?_
  cases x with
  | error e => trivial
  | ok o => exact hb

theorem recoverable_does : (recoverable call i).Does Still := by
  refine assertDurableLeaseEvidence_does.bind fun _ => ?_
  refine assertIntentBindingWithoutLease_does.bind fun _ => ?_
  exact assertPublicationIntentBinding_does.bind fun _ => Journal.read_does _ _

theorem reconcile_safe : (.port (.reconcile i) Answer.orRaise : Code C (Reconciliation C)).Safe F (rules call F)
      (Prog.Returning fun h' rec => .port (.reconcile i) (.returned rec) ∈ h') h := by
  refine ⟨trivial, fun r => ?_⟩
  cases r with
  | raised m => trivial
  | returned rec => exact List.mem_cons_self

theorem reconcile_does : (.port (.reconcile i) Answer.orRaise : Code C (Reconciliation C)).Does Still :=
  ⟨trivial, fun r => orRaise_does r⟩

theorem recoverIntent_safe (hi : F (.intent call.operationId) = .bound i) (hn : Without puts h) :
    (recoverIntent call checks i).Safe F (rules call F) (Quietly call F) h := by
  refine noting_step puts_kept hn recoverable_safe (Does.journaling recoverable_does) (fun h₁ o hn₁ hb => ?_)
    fun _ _ => quietly_error
  cases o with
  | none => exact noting_report rfl hn₁
  | some a =>
    refine noting_step puts_kept hn₁ require_safe Prog.Does.require (fun h₂ _ hn₂ _ => ?_) fun _ _ => quietly_error
    refine noting_step puts_kept hn₂ reconcile_safe (Does.journaling reconcile_does) (fun h₃ rec hn₃ hrec => ?_)
      fun _ _ => quietly_error
    -- the last part may release the lease
    let tail : Code C Report := do
      assertReconciliationBinding i rec
      if classifyReconciliation rec i = .alreadyApplied then
        closeIntent call (checks ++ ["intent_existing", "reconciled_once"]) i rec
      else
        report call.operationId .reconciliationRequired (checks ++ ["intent_existing", "reconciled_once"])
          ["existing intent requires reconciliation"] none
    have htail : tail.Safe F (rules call F) (Prog.Returning fun _ y =>
        (∃ r, F (.receipt call.operationId) = .bound r ∧ r.outcome = y.outcome) ∨ y.outcome.success = false) h₃ := by
      refine (still_safe assertFields_does).seq fun h₄ _ hs _ => ?_
      split
      · next hcl =>
        have hexact : exact rec i := by
          by_contra hne
          simp [classifyReconciliation, hne] at hcl
        refine (closeIntent_safe hb.1.1 hi (hs.mem hrec) hexact).mono fun _ x hx => ?_
        cases x with
        | error e => trivial
        | ok y => exact .inl hx
      · refine report_safe.mono fun _ x hx => ?_
        cases x with
        | error e => trivial
        | ok y => exact .inr (by rw [hx.2 y rfl]; rfl)
    have hdoes : tail.Does Putless := by
      refine (assertFields_does.mono fun _ => putless_of_still).bind fun _ => ?_
      split
      · exact closeIntent_does
      · exact report_does.mono fun _ => putless_of_still
    refine noting_safe (p := tail) (htail.keeps hdoes Putless.keeps hn₃) (fun h' y hy => ⟨hy.1, fun z hz => ?_⟩)
      fun h' e hx => quietly_error hx.1
    cases hz
    exact hy.2.imp id fun hf => ⟨hf, .inr hy.1⟩

/-- Nothing of a first run was done yet. -/
structure Untouched (h : Log C) : Prop where
  puts : Without puts h
  removes : Without removes h
  creates : Without creates h

theorem untouched_kept (h : Log C) (e : Event (Rec C) (Port.Answer (C := C))) (hu : Untouched h)
    (he : Journaling e.action) : Untouched (e :: h) :=
  ⟨Journaling.keeps (.inl rfl) h e hu.puts he, Journaling.keeps (.inr (.inl rfl)) h e hu.removes he,
    Journaling.keeps (.inr (.inr rfl)) h e hu.creates he⟩

theorem beforeLease_safe (hu : Untouched h) :
    (beforeLease call).Safe F (rules call F) (fun h' x => Without puts h' ∧ match x with
      | .error _ => True
      | .ok none => Untouched h' ∧ publicationBound call.publication call.bundle
      | .ok (some y) => Truthful call F h' y) h := by
  have herr : ∀ (checks : List String) (h' : Log C) (e : String), Untouched h' → Without puts h' ∧ True :=
    fun _ _ _ hu => ⟨hu.puts, trivial⟩
  let verify : Code C Unit := do
    Prog.require (publicationBound call.publication call.bundle)
      (.error "candidate publication does not match bundle provenance")
    let verified ← (.port (.verifyPublication call.publication call.bundle) Answer.orRaise : Code C Bool)
    Prog.require (verified = true) (.error "candidate publication verifier rejected evidence")
  have hverify : verify.Does Still := by
    refine Prog.Does.require.bind fun _ => ?_
    exact Prog.Does.bind ⟨trivial, fun r => orRaise_does r⟩ fun _ => Prog.Does.require
  have hverified : verify.Safe F (rules call F)
      (Prog.Returning fun _ _ => publicationBound call.publication call.bundle) h := by
    refine Prog.Safe.require_bind (fun hpub => ?_) trivial
    refine (still_safe (p := .port (.verifyPublication call.publication call.bundle) Answer.orRaise)
      ⟨trivial, fun r => orRaise_does r⟩).seq fun _ _ _ _ => ?_
    exact require_safe.mono fun _ x _ => by
      cases x with
      | error e => trivial
      | ok u => exact hpub
  refine noting_step (p := verify) untouched_kept hu hverified (Does.journaling hverify) (fun h₁ _ hu₁ hpub => ?_)
    (herr [])
  refine noting_step untouched_kept hu₁ (Journal.read_safe _ _) (Does.journaling (Journal.read_does _ _))
    (fun h₂ existing hu₂ hex => ?_) (herr ["publication_verified"])
  cases existing with
  | some r =>
    have hr : F (.receipt call.operationId) = .bound r := hex.1 r rfl
    have hreplay : (noting ["publication_verified"] false (replayReceipt call r)).Safe F (rules call F)
        (Quietly call F) h₂ := by
      refine noting_safe ((replayReceipt_safe hr).keeps replayReceipt_does Putless.keeps hu₂.puts)
        (fun h' y hy => ⟨hy.1, fun z hz => ?_⟩) fun h' e hx => quietly_error hx.1
      cases hz
      rcases hy.2 with ho | hf
      · exact .inl ⟨r, hr, ho.symm⟩
      · exact .inr ⟨hf, .inr hy.1⟩
    exact hreplay.bind (fun h' y hy => ⟨hy.1, hy.2 y rfl⟩) fun h' f hx => ⟨hx.1, trivial⟩
  | none =>
    refine noting_step untouched_kept hu₂ (Journal.read_safe _ _) (Does.journaling (Journal.read_does _ _))
      (fun h₃ durable hu₃ hin => ?_) (herr ["publication_verified"])
    cases durable with
    | some i =>
      exact (recoverIntent_safe (hin.1 i rfl) hu₃.puts).bind (fun h' y hy => ⟨hy.1, hy.2 y rfl⟩) fun h' f hx => ⟨hx.1, trivial⟩
    | none => exact ⟨hu₃.puts, hu₃, hpub⟩

/-! ## Up to the intent -/

section First
variable {l : Lease} {i : Intent C}

structure Holding (call : PromoteCall) (F : Files (Rec C)) (h : Log C) (l : Lease) : Prop where
  leased : Leased call F h l
  unsubmitted : Without puts h

theorem holding_kept (h : Log C) (e : Event (Rec C) (Port.Answer (C := C))) (hh : Holding call F h l)
    (he : Journaling e.action) : Holding call F (e :: h) l :=
  ⟨hh.leased.keeps h e he, puts_kept h e hh.unsubmitted he⟩

theorem bindIntent_safe :
    (bindIntent call l).Safe F (rules call F) (Prog.Returning fun h' x => IntentBound call l x.1 ∧
      .port (.replay call.bundle call.bundleDigest) (.returned x.2) ∈ h') h := by
  refine (still_safe (Journal.assertCurrent_does l)).seq fun _ _ _ _ => ?_
  refine (still_safe assertLeaseEvidence_does).seq fun _ _ _ _ => ?_
  refine (still_safe (p := .port (.intentFactory l) Answer.orRaise) ⟨trivial, fun r => orRaise_does r⟩).seq
    fun _ i _ _ => ?_
  refine assertIntentBinding_safe.seq fun _ _ _ hb => ?_
  refine require_safe.seq fun h₁ _ _ hp => ?_
  have hreplay : (.port (.replay call.bundle call.bundleDigest) Answer.orRaise : Code C ReplayReport).Safe F (rules call F)
      (Prog.Returning fun h' r => .port (.replay call.bundle call.bundleDigest) (.returned r) ∈ h') h₁ := by
    refine ⟨trivial, fun r => ?_⟩
    cases r with
    | raised m => trivial
    | returned r => exact List.mem_cons_self
  refine hreplay.seq fun _ r _ hr => ⟨?_, hr⟩
  obtain ⟨⟨h₁, h₂, h₃⟩, hl⟩ := hb
  exact ⟨h₁.1, h₁.2.1, h₁.2.2, h₂.1, h₂.2, h₃, hp, hl.1, hl.2⟩

theorem bindIntent_does : (bindIntent call l : Code C (Intent C × ReplayReport)).Does Still := by
  refine (Journal.assertCurrent_does l).bind fun _ => ?_
  refine assertLeaseEvidence_does.bind fun _ => ?_
  refine Prog.Does.bind ⟨trivial, fun r => orRaise_does r⟩ fun i => ?_
  refine assertIntentBinding_does.bind fun _ => ?_
  refine assertPublicationIntentBinding_does.bind fun _ => ?_
  exact Prog.Does.bind ⟨trivial, fun r => orRaise_does r⟩ fun _ => trivial

theorem observePrecondition_does : (observePrecondition l i).Does Still := by
  refine (Journal.assertCurrent_does l).bind fun _ => ?_
  exact Prog.Does.bind ⟨trivial, fun r => orRaise_does r⟩ fun _ => assertFields_does

theorem recordIntent_safe (hl : Leased call F h l) (hb : IntentBound call l i) (hr : Replayed call h) :
    (do Journal.assertCurrent l; Journal.recordIntent i : Code C Unit).Safe F (rules call F)
      (Prog.Returning fun _ _ => F (.intent call.operationId) = .bound i) h := by
  have hcurrent : (Journal.assertCurrent l : Code C Unit).Safe F (rules call F)
      (fun h' _ => Leased call F h' l ∧ True) h :=
    ((Journal.assertCurrent_does l).safe permits_still).keeps (Does.journaling (Journal.assertCurrent_does l))
      (fun h e => Leased.keeps h e) hl
  refine hcurrent.suffix.bind (fun h' _ hx => ?_) fun _ _ _ => trivial
  have hrec : (Journal.recordIntent i).Safe F (rules call F)
      (Prog.Returning fun _ _ => F (.intent i.operationId) = .bound i) h' :=
    Journal.record_safe _ fun a =>
      ⟨hb.operation, l, hx.2.1.cons rfl, hb, (hr.suffix hx.1).suffix (List.suffix_cons _ _)⟩
  rw [hb.operation] at hrec
  exact hrec

theorem recordIntent_does : (do Journal.assertCurrent l; Journal.recordIntent i : Code C Unit).Does Journaling := by
  refine (Does.journaling (Journal.assertCurrent_does l)).bind fun _ => ?_
  exact (Journal.record_does _ _ _).mono fun _ => journaling_of_recording

theorem replayVerdict_success {o : ReplayOutcome} : (replayVerdict o).success = false := by
  cases o <;> rfl

theorem prepare_safe (hh : Holding call F h l) :
    (prepare call l).Safe F (rules call F) (fun h' (x : Except Failure (Report ⊕ Intent C × List String)) =>
      Holding call F h' l ∧ match x with
        | .error _ => True
        | .ok (.inl y) => y.outcome.success = false
        | .ok (.inr (i, _)) => Prepared call F h' l i) h := by
  have herr : ∀ (h' : Log C) (e : String), Holding call F h' l → Holding call F h' l ∧ True := fun _ _ hh => ⟨hh, trivial⟩
  refine noting_step holding_kept hh bindIntent_safe (Does.journaling bindIntent_does) (fun h₁ x hh₁ hx => ?_) herr
  obtain ⟨i, r⟩ := x
  obtain ⟨hb, hreplay⟩ := hx
  dsimp only
  split
  · next hwould =>
    let I : Log C → Prop := fun h => Holding call F h l ∧ Replayed call h
    have hI : ∀ h e, I h → Journaling e.action → I (e :: h) := fun h e hi he =>
      ⟨holding_kept h e hi.1 he, hi.2.suffix (List.suffix_cons _ _)⟩
    refine noting_step hI ⟨hh₁, r, hreplay, hwould⟩ (still_safe observePrecondition_does)
      (Does.journaling observePrecondition_does) (fun h₂ _ hi₂ _ => ?_) fun h' e hi => herr h' e hi.1
    refine noting_step hI hi₂ (recordIntent_safe hi₂.1.leased hb hi₂.2) recordIntent_does (fun h₃ _ hi₃ hF => ?_)
      fun h' e hi => herr h' e hi.1
    exact ⟨hi₃.1, hi₃.1.leased, hb, hi₃.2, hF⟩
  · refine Prog.Safe.bind (noting_safe (report_safe.keeps (Does.journaling report_does) holding_kept hh₁)
      (R := fun h' x => Holding call F h' l ∧ ∀ y, x = .ok y → y.outcome.success = false) (fun h' y hy => ?_)
      fun h' e hx => ?_) (fun h' y hy => ?_) fun h' f hx => ⟨hx.1, trivial⟩
    · refine ⟨hy.1, fun z hz => ?_⟩
      cases hz
      rw [hy.2.2 y rfl]
      exact replayVerdict_success
    · exact ⟨hx.1, fun _ hz => (nomatch hz)⟩
    · exact ⟨hy.1, hy.2 y rfl⟩

/-! ## The merge -/

theorem prepared_kept (h : Log C) (e : Event (Rec C) (Port.Answer (C := C))) (hp : Prepared call F h l i)
    (he : Journaling e.action) : Prepared call F (e :: h) l i := hp.keeps h e he

theorem authorizeMutation_safe (hp : Prepared call F h l i) (hn : Without puts h) :
    (authorizeMutation i l).Safe F (rules call F)
      (Prog.Returning fun _ _ => ∃ a, F (.mutationAuthorization call.operationId) = .bound a ∧ authorizationBound i a) h := by
  have hclock : (readClock : Code C Instant).Safe F (rules call F)
      (fun h' _ => (Prepared call F h' l i ∧ Without puts h') ∧ True) h :=
    (readClock_does.safe permits_still).keeps (Does.journaling readClock_does)
      (fun h e hi he => ⟨prepared_kept h e hi.1 he, puts_kept h e hi.2 he⟩) ⟨hp, hn⟩
  refine hclock.bind (fun h' t hx => ?_) fun _ _ _ => trivial
  obtain ⟨⟨hp', hn'⟩, _⟩ := hx
  have hbound : authorizationBound i ⟨i.operationId, i.digest, l.identity, l.digest C, t⟩ :=
    ⟨rfl, rfl, hp.bound.leaseIdentity.symm, hp.bound.leaseDigest.symm⟩
  have hrec : (Journal.recordMutationAuthorization ⟨i.operationId, i.digest, l.identity, l.digest C, t⟩).Safe F
      (rules call F) (Prog.Returning fun _ _ => F (.mutationAuthorization i.operationId) =
        .bound ⟨i.operationId, i.digest, l.identity, l.digest C, t⟩) h' :=
    Journal.record_safe _ fun a => ⟨hp.bound.operation, l, i, hp'.cons rfl, hbound, hn'.cons rfl⟩
  refine hrec.mono fun _ x hx => ?_
  cases x with
  | error e => trivial
  | ok u =>
    refine ⟨_, ?_, hbound⟩
    rw [← hp.bound.operation]
    exact hx

theorem authorizeMutation_does : (authorizeMutation i l).Does Journaling := by
  refine (Does.journaling readClock_does).bind fun t => ?_
  exact (Journal.record_does _ _ _).mono fun _ => journaling_of_recording

namespace Provider

theorem mergePreconditions_does : (mergePreconditions i).Does Still := by
  refine Prog.Does.bind ⟨trivial, fun r => orRaise_does r⟩ fun _ => ?_
  refine Prog.Does.bind ⟨trivial, fun r => orRaise_does r⟩ fun _ => ?_
  refine Prog.Does.bind ⟨trivial, fun r => orRaise_does r⟩ fun _ => ?_
  refine Prog.Does.require.bind fun _ => ?_
  refine Prog.Does.bind ⟨trivial, fun r => orRaise_does r⟩ fun _ => ?_
  cases i.expectedMainCommit with
  | none => trivial
  | some expected =>
    exact Prog.Does.bind ⟨trivial, fun r => orRaise_does r⟩ fun _ => Prog.Does.require.bind fun _ => trivial

/-- Nothing that is raised here is a failed precondition. -/
def Plain {α : Type} (_ : Log C) (x : Except Exc α) : Prop := ∀ m, x ≠ .error (.precondition m)

theorem orRaise_plain {α : Type} {a : Answer α} : (a.orRaise : Code C α).Safe F (rules call F) Plain h := by
  cases a with
  | raised m => exact fun _ hx => by cases hx
  | returned v => exact fun _ hx => by cases hx

variable {m : MergeResult} {d : Sha256Digest} {sha : String}

theorem mergeResult_safe : (mergeResult m : Code C MergeResult).Safe F (rules call F) Plain h := by
  refine Prog.Safe.require_bind (fun _ => ?_) ?_
  · exact fun _ hx => by cases hx
  · exact fun _ hx => by cases hx

theorem mergeResult_does : (mergeResult m : Code C MergeResult).Does Still :=
  Prog.Does.require.bind fun _ => trivial

theorem mergedCommit_safe : (mergedCommit i d sha).Safe F (rules call F) Plain h := by
  refine Prog.Safe.bind (Q := Plain) ⟨trivial, fun r => orRaise_plain⟩ (fun _ t _ => ?_) fun _ e hx m he => ?_
  · exact Prog.Safe.require_bind (fun _ => mergeResult_safe) fun _ hx => by cases hx
  · exact hx m (by cases he; rfl)

theorem mergedCommit_does : (mergedCommit i d sha).Does Still := by
  refine Prog.Does.bind ⟨trivial, fun r => orRaise_does r⟩ fun _ => ?_
  exact Prog.Does.require.bind fun _ => mergeResult_does

theorem submit_safe {a : MutationAuthorization} (hr : Ready call F h l i a) :
    (submit i d).Safe F (rules call F) (fun h' x => Prepared call F h' l i ∧ Plain h' x) h := by
  refine ⟨⟨l, a, hr⟩, fun r => ?_⟩
  have hp : Prepared call F (.port (.put i) r :: h) l i := hr.prepared.cons rfl
  cases r with
  | rejected m => exact mergeResult_safe.keeps (Does.journaling mergeResult_does) prepared_kept hp
  | transportError m => exact mergeResult_safe.keeps (Does.journaling mergeResult_does) prepared_kept hp
  | malformed => exact ⟨hp, fun _ hx => by cases hx⟩
  | response response =>
    refine Prog.Safe.ofOption_bind (fun merged _ => ?_) ⟨hp, fun _ hx => by cases hx⟩
    split
    · refine Prog.Safe.ofOption_bind (fun sha _ => ?_) ⟨hp, fun _ hx => by cases hx⟩
      exact mergedCommit_safe.keeps (Does.journaling mergedCommit_does) prepared_kept hp
    · exact mergeResult_safe.keeps (Does.journaling mergeResult_does) prepared_kept hp

theorem merge_safe (hp : Prepared call F h l i) (hn : Without puts h) :
    (merge i (Journal.assertCurrent l) (authorizeMutation i l)).Safe F (rules call F)
      (fun h' x => Prepared call F h' l i ∧ ∀ m, x = .error (.precondition m) → Without puts h') h := by
  let I : Log C → Prop := fun h => Prepared call F h l i ∧ Without puts h
  have hI : ∀ h e, I h → Journaling e.action → I (e :: h) := fun h e hi he =>
    ⟨prepared_kept h e hi.1 he, puts_kept h e hi.2 he⟩
  refine Prog.Safe.attempt_bind ((mergePreconditions_does.safe permits_still).keeps
    (Does.journaling mergePreconditions_does) hI ⟨hp, hn⟩) fun h₁ x hx => ?_
  cases x with
  | error e => exact ⟨hx.1.1, fun _ _ => hx.1.2⟩
  | ok d =>
    have hfence : (do Journal.assertCurrent l; authorizeMutation i l : Code C Unit).Safe F (rules call F)
        (fun h' x => I h' ∧ ∀ u, x = .ok u →
          ∃ a, F (.mutationAuthorization call.operationId) = .bound a ∧ authorizationBound i a) h₁ := by
      refine Prog.Safe.bind (((Journal.assertCurrent_does l).safe permits_still).keeps
        (Does.journaling (Journal.assertCurrent_does l)) hI hx.1) (fun h₂ _ hx₂ => ?_)
        fun _ _ hx₂ => ⟨hx₂.1, fun _ hx => (nomatch hx)⟩
      refine ((authorizeMutation_safe hx₂.1.1 hx₂.1.2).keeps authorizeMutation_does hI hx₂.1).mono fun _ y hy => ⟨hy.1, ?_⟩
      rintro u rfl
      exact hy.2
    refine Prog.Safe.attempt_bind hfence fun h₂ y hy => ?_
    cases y with
    | error e => exact ⟨hy.1.1, fun _ _ => hy.1.2⟩
    | ok u =>
      obtain ⟨a, ha, hab⟩ := hy.2 u rfl
      refine (submit_safe ⟨hy.1.1, ha, hab, hy.1.2⟩).mono fun h' z hz => ⟨hz.1, fun m hm => ?_⟩
      exact absurd hm (hz.2 m)

end Provider

/-! ## After the merge -/

/-- What the call has when its `try` block is over: the report is true, and the
lease may be released if the block says so. -/
def Closed (call : PromoteCall) (l : Lease) (F : Files (Rec C)) (h : Log C) : Except Failure (Report × Bool) → Prop
  | .error f => Made call h l ∧ (f.safeRelease = true → Releasable call F h)
  | .ok (y, safeRelease) => Made call h l ∧ Truthful call F h y ∧ (safeRelease = true → Releasable call F h)

variable {checks errors : List String} {r : Receipt C} {m : MergeResult} {rec : Reconciliation C}

theorem receipt_report {checks' : List String} {safeRelease : Bool} (hp : Prepared call F h l i)
    (hF : F (.receipt call.operationId) = .bound r) (hsafe : safeRelease = true → Releasable call F h) : (do
      let y ← noting checks safeRelease (report (C := C) call.operationId r.outcome checks' errors (some r))
      return (y, safeRelease) : Body C (Report × Bool)).Safe F (rules call F) (Closed call l F) h := by
  refine Prog.Safe.bind (noting_safe report_safe
    (R := fun h' x => h' = h ∧ match x with
      | .ok y => y.outcome = r.outcome
      | .error f => f.safeRelease = safeRelease) (fun h' y hy => ⟨hy.1, hy.2 y rfl⟩) fun h' e hx => ⟨hx.1, rfl⟩)
    (fun h' y hy => ?_) fun h' f hx => ?_
  · obtain ⟨rfl, ho⟩ := hy
    exact ⟨hp.leased.made, .inl ⟨r, hF, ho.symm⟩, hsafe⟩
  · obtain ⟨rfl, hf⟩ := hx
    exact ⟨hp.leased.made, fun ht => hsafe (hf ▸ ht)⟩

theorem closePrecondition_safe {message : String} (hp : Prepared call F h l i) (hn : Without puts h) :
    (closePrecondition call checks i message).Safe F (rules call F) (Closed call l F) h := by
  let I : Log C → Prop := fun h => Prepared call F h l i ∧ Without puts h
  have hI : ∀ h e, I h → Journaling e.action → I (e :: h) := fun h e hi he =>
    ⟨prepared_kept h e hi.1 he, puts_kept h e hi.2 he⟩
  let body : Code C Report := do
    let receipt ← Prog.ofOption (Receipt.build (preconditionReceipt i message)) (.error "invalid receipt")
    Journal.recordReceipt receipt
    report call.operationId .invalid (checks ++ ["merge_precondition_failed"]) [message] (some receipt)
  have hbody : body.Safe F (rules call F) (Prog.Returning fun _ y =>
      ∃ r, F (.receipt call.operationId) = .bound r ∧ r.outcome = y.outcome) h := by
    refine Prog.Safe.ofOption_bind (fun r hb => ?_) trivial
    have he := Receipt.build_eq hb
    have hop : r.operationId = call.operationId := by rw [he]; exact hp.bound.operation
    have hfrom : ReceiptFrom F h call.operationId r :=
      ⟨i, hp.intent, by rw [he]; rfl, .inl ⟨message, he, hn⟩⟩
    refine (recordReceipt_safe hop hfrom).seq fun h₁ _ _ hF => ?_
    refine report_safe.mono fun _ x hx => ?_
    cases x with
    | error e => trivial
    | ok y => exact ⟨r, hF, by rw [hx.2 y rfl, he]; rfl⟩
  have hdoes : body.Does Journaling :=
    Prog.Does.ofOption.bind fun _ => recordReceipt_does.bind fun _ => Does.journaling report_does
  refine Prog.Safe.bind (noting_safe (p := body) (hbody.keeps hdoes hI ⟨hp, hn⟩)
    (R := fun h' x => I h' ∧ ∀ y, x = .ok y → ∃ r, F (.receipt call.operationId) = .bound r ∧ r.outcome = y.outcome)
    (fun h' y hy => ⟨hy.1, fun z hz => by cases hz; exact hy.2⟩) fun h' e hx => ⟨hx.1, fun _ hz => (nomatch hz)⟩)
    (fun h' y hy => ?_) fun h' f hx => ?_
  · exact ⟨hy.1.1.leased.made, .inl (hy.2 y rfl), fun _ => .inl hy.1.2⟩
  · exact ⟨hx.1.1.leased.made, fun _ => .inl hx.1.2⟩

theorem classify_exact (h : (classify m rec i).success = true) : exact rec i := by
  unfold classify at h
  split at h
  · next hx => exact hx.1
  · split at h
    · next hx => exact hx.1
    · split at h
      · split at h <;> cases h
      · cases h

theorem receiptFrom_seen (hi : F (.intent call.operationId) = .bound i)
    (hrec : .port (.reconcile i) (.returned rec) ∈ h)
    (hb : Receipt.build (receiptOf i m rec (classify m rec i)) = some r) : ReceiptFrom F h call.operationId r := by
  have he := Receipt.build_eq hb
  have hout : r.outcome = classify m rec i := by rw [he]; rfl
  refine ⟨i, hi, by rw [he]; rfl, .inr ⟨m, rec, hrec, ?_, fun hs => ?_⟩⟩
  · rw [hout]
    exact he
  · rw [hout] at hs
    exact classify_exact hs

theorem closeMerge_safe (hp : Prepared call F h l i) :
    (closeMerge call l checks i m).Safe F (rules call F) (Closed call l F) h := by
  have herr : ∀ (checks : List String) (h' : Log C) (e : String), Prepared call F h' l i →
      Closed call l F h' (.error ⟨checks, e, false⟩) := fun _ h' e hp => ⟨hp.leased.made, fun ht => (nomatch ht)⟩
  refine noting_step prepared_kept hp reconcile_safe (Does.journaling reconcile_does) (fun h₁ rec hp₁ hrec => ?_) (herr _)
  let body : Code C (Receipt C) := do
    assertReconciliationBinding i rec
    let receipt ← Prog.ofOption (Receipt.build (receiptOf i m rec (classify m rec i))) (.error "invalid receipt")
    Journal.assertCurrent l
    Journal.recordReceipt receipt
    return receipt
  have hbody : body.Safe F (rules call F) (Prog.Returning fun _ r => F (.receipt call.operationId) = .bound r) h₁ := by
    refine (still_safe assertFields_does).seq fun h₂ _ hs₂ _ => ?_
    refine Prog.Safe.ofOption_bind (fun r hb => ?_) trivial
    have hop : r.operationId = call.operationId := by rw [Receipt.build_eq hb]; exact hp.bound.operation
    refine (still_safe (Journal.assertCurrent_does l)).seq fun h₃ _ hs₃ _ => ?_
    have hfrom : ReceiptFrom F h₃ call.operationId r := receiptFrom_seen hp.intent (hs₃.mem (hs₂.mem hrec)) hb
    exact (recordReceipt_safe hop hfrom).seq fun h₄ _ _ hF => hF
  have hdoes : body.Does Journaling := by
    refine (Does.journaling assertFields_does).bind fun _ => Prog.Does.ofOption.bind fun r => ?_
    exact (Does.journaling (Journal.assertCurrent_does l)).bind fun _ => recordReceipt_does.bind fun _ => trivial
  refine noting_step (p := body) prepared_kept hp₁ hbody hdoes (fun h₂ r hp₂ hF => ?_) (herr _)
  refine receipt_report hp₂ hF fun hsafe => .inr ⟨r, hF, ?_⟩
  exact of_decide_eq_true hsafe

theorem submit_closed (hp : Prepared call F h l i) (hn : Without puts h) :
    (submit call l checks i).Safe F (rules call F) (Closed call l F) h := by
  let I : Log C → Prop := fun h => Prepared call F h l i ∧ Without puts h
  have hI : ∀ h e, I h → Journaling e.action → I (e :: h) := fun h e hi he =>
    ⟨prepared_kept h e hi.1 he, puts_kept h e hi.2 he⟩
  refine noting_step hI ⟨hp, hn⟩ (still_safe (Journal.assertCurrent_does l))
    (Does.journaling (Journal.assertCurrent_does l)) (fun h₁ _ hi _ => ?_)
    fun h' e hi => ⟨hi.1.leased.made, fun ht => (nomatch ht)⟩
  refine Prog.Safe.attempt_bind (Provider.merge_safe hi.1 hi.2) fun h₂ x hx => ?_
  match x, hx with
  | .error (.precondition message), hx => exact closePrecondition_safe hx.1 (hx.2 message rfl)
  | .error (.error message), hx =>
    exact noting_step prepared_kept hx.1 (still_safe Provider.mergeResult_does)
      (Does.journaling Provider.mergeResult_does) (fun h₃ m hp₃ _ => closeMerge_safe hp₃)
      fun h' e hp => ⟨hp.leased.made, fun ht => (nomatch ht)⟩
  | .ok m, hx => exact closeMerge_safe hx.1

/-! ## The service -/

theorem release_does : (release l : Code C Unit).Does Putless :=
  (Journal.releaseLease_does l).attempt.bind fun _ => trivial

theorem release_safe (hm : Made call h l) (hr : Releasable call F h) :
    (release l : Code C Unit).Safe F (rules call F) (fun _ _ => True) h :=
  Prog.Safe.attempt_bind (Journal.releaseLease_own hm hr) fun _ _ _ => trivial

theorem release_kept (hm : Made call h l) (hr : Releasable call F h) :
    (release l : Code C Unit).Safe F (rules call F) (fun h' _ => (Without puts h → Without puts h') ∧ True) h :=
  (release_safe hm hr).keeps (I := fun h' => Without puts h → Without puts h') release_does
    (fun h' e hk he hn => Putless.keeps h' e (hk hn) he) id

theorem Truthful.mono {y : Report} (ht : Truthful call F h y) (hn : Without puts h → Without puts h') :
    Truthful call F h' y :=
  ht.imp id fun hf => ⟨hf.1, hf.2.imp id hn⟩

theorem report_truthful {outcome : Outcome}
    (ho : outcome.success = false ∧ (outcome = .reconciliationRequired ∨ Without puts h)) :
    (report (C := C) call.operationId outcome checks errors none).Safe F (rules call F)
      (Prog.Returning (Truthful call F)) h := by
  refine report_safe.mono fun h' x hx => ?_
  obtain ⟨rfl, hy⟩ := hx
  cases x with
  | error e => trivial
  | ok y =>
    have he := hy y rfl
    refine .inr ?_
    rw [he]
    exact ho

theorem runLeased_safe (hh : Holding call F h l) :
    (runLeased call l).Safe F (rules call F) (Prog.Returning (Truthful call F)) h := by
  refine Prog.Safe.attempt_bind (prepare_safe hh) fun h₁ x hx => ?_
  have hmade := hx.1.leased.made
  have hfree : Releasable call F h₁ := .inl hx.1.unsubmitted
  match x, hx with
  | .error f, hx =>
    refine (release_kept hmade hfree).bind (fun h₂ _ h₂n => ?_) fun _ _ _ => trivial
    exact report_truthful ⟨rfl, .inr (h₂n.1 hx.1.unsubmitted)⟩
  | .ok (.inl y), hx =>
    refine (release_kept hmade hfree).bind (fun h₂ _ h₂n => ?_) fun _ _ _ => trivial
    exact .inr ⟨hx.2, .inr (h₂n.1 hx.1.unsubmitted)⟩
  | .ok (.inr (i, checks)), hx =>
    refine Prog.Safe.attempt_bind (submit_closed hx.2 hx.1.unsubmitted) fun h₂ z hz => ?_
    match z, hz with
    | .error f, hz =>
      have hlast : ∀ {h : Log C}, (report (C := C) call.operationId .reconciliationRequired f.checks [f.error] none).Safe F
          (rules call F) (Prog.Returning (Truthful call F)) h := report_truthful ⟨rfl, .inl rfl⟩
      dsimp only
      split
      · next hsafe => exact (release_safe hz.1 (hz.2 hsafe)).bind (fun _ _ _ => hlast) fun _ _ _ => trivial
      · exact hlast
    | .ok (y, safeRelease), hz =>
      dsimp only
      split
      · next hsafe =>
        exact (release_kept hz.1 (hz.2.2 hsafe)).bind (fun h₃ _ h₃n => hz.2.1.mono h₃n.1) fun _ _ _ => trivial
      · exact hz.2.1

end First

theorem promote_safe : (promote call).Safe F (rules call F) (Prog.Returning (Truthful call F)) [] := by
  have hu : Untouched ([] : Log C) := ⟨fun _ he => (nomatch he), fun _ he => (nomatch he), fun _ he => (nomatch he)⟩
  refine Prog.Safe.require_bind (fun _ => ?_) trivial
  refine Prog.Safe.attempt_bind (beforeLease_safe hu) fun h₁ x hx => ?_
  match x, hx with
  | .error f, hx => exact report_truthful ⟨rfl, .inr hx.1⟩
  | .ok (some y), hx => exact hx.2
  | .ok none, hx =>
    refine Prog.Safe.attempt_bind (Journal.acquireLease_safe hx.2.2 hx.2.1.puts hx.2.1.removes hx.2.1.creates) fun h₂ z hz => ?_
    cases z with
    | error e => exact report_truthful ⟨rfl, .inr hz.1⟩
    | ok l => exact runLeased_safe ⟨hz.2 l rfl, hz.1⟩

end AvoCorrelate.Promotion
