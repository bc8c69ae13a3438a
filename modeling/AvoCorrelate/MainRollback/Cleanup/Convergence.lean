import AvoCorrelate.MainRollback.Cleanup.Dispatching
import AvoCorrelate.Lib.Turns
/-!
# When a cleanup comes to its end

From some moment on the ref is gone, and a call is let run alone. Receipt, observation and
terminal evidence are each recorded once, so what earlier calls left decides whether the
call can record terminal evidence, or find it.
-/
open AvoLib

namespace AvoCorrelate.MainRollback.Cleanup

variable {D : Type} [DecidableEq D]

/-! ## What is on record -/

/-- The result and the intent of a cleanup are in the journal, and the intent's digest is
no other's. -/
structure OnRecord (C : Canon D) (a : Authority D) (result : ResultReceipt D) (i : CleanupIntent D) (s : Store D) : Prop where
  coherent : Coherent C s
  resulted : s.index .result a.operationId = some result
  intended : s.index .intent a.operationId = some i
  bound : Journal.BoundIntent i result a.intent a.authorizationDigest
  only : ∀ operationId i', s.index .intent operationId = some i' → i'.digest C = i.digest C → i' = i

section Recorded
variable {C : Canon D} {a : Authority D} {result : ResultReceipt D} {i : CleanupIntent D} {s : Store D}

theorem OnRecord.result_operation (h : OnRecord C a result i s) : result.operationId = a.operationId :=
  h.coherent.keyed h.resulted

theorem OnRecord.intent_operation (h : OnRecord C a result i s) : i.operationId = a.operationId :=
  h.coherent.keyed h.intended

theorem OnRecord.valid (h : OnRecord C a result i s) : i.Valid C := (h.coherent.rests h.intended).1

variable {k : Kind} {r : Rec D k} {m : DispatchOwner D}

theorem OnRecord.of_intent (h : OnRecord C a result i s) (hr : s.index k a.operationId = some r) {i' : CleanupIntent D}
    (hi : s.Holds .intent r.operationId i') : i' = i := by
  have hop := h.coherent.keyed hr
  unfold Store.Holds at hi
  rw [hop, h.intended] at hi
  cases hi
  rfl

theorem OnRecord.receipt (h : OnRecord C a result i s) {r : CleanupReceipt D}
    (hr : s.index .receipt a.operationId = some r) : r.operationId = a.operationId ∧ Journal.BoundReceipt C r i := by
  obtain ⟨i', hi, hb⟩ := h.coherent.rests hr
  rw [h.of_intent hr hi] at hb
  exact ⟨h.coherent.keyed hr, hb⟩

theorem OnRecord.observation (h : OnRecord C a result i s) {o : CleanupObservation D}
    (ho : s.index .observation a.operationId = some o) :
    o.operationId = a.operationId ∧ ∃ r, s.index .receipt a.operationId = some r ∧ Journal.BoundObservation C o i r := by
  obtain ⟨i', r, hi, hr, hb⟩ := h.coherent.rests ho
  have hop : o.operationId = a.operationId := h.coherent.keyed ho
  rw [h.of_intent ho hi] at hb
  rw [hop] at hr
  exact ⟨hop, r, hr, hb⟩

theorem OnRecord.terminal (h : OnRecord C a result i s) {e : TerminalEvidence D}
    (he : s.index .terminal a.operationId = some e) :
    e.operationId = a.operationId ∧ Https e.pullRequestUrl ∧ ∃ r, s.index .receipt a.operationId = some r ∧
      Journal.BoundTerminal C e i r ∧
      (r.outcome.unsettled = true → ∃ o, s.index .observation a.operationId = some o ∧ Journal.ShowsGone C e i r o) ∧
      (r.outcome.unsettled = false → e.cleanupObservationDigest = none) := by
  obtain ⟨hurl, i', r, hi, hr, hb, hgone, hnone⟩ := h.coherent.rests he
  have hop : e.operationId = a.operationId := h.coherent.keyed he
  rw [h.of_intent he hi] at hb hgone
  rw [hop] at hr
  refine ⟨hop, hurl, r, hr, hb, fun hu => ?_, hnone⟩
  obtain ⟨o, ho, hshows⟩ := hgone hu
  rw [hop] at ho
  exact ⟨o, ho, hshows⟩

theorem OnRecord.owner (h : OnRecord C a result i s) (hm : s.owner (i.digest C) = some m) :
    m.operationId = a.operationId ∧ m.intentDigest = i.digest C ∧ m.candidateRef = i.candidateRef := by
  obtain ⟨hd, i', hi, hdigest, href⟩ := h.coherent.owned hm
  obtain rfl := h.only _ _ hi (hdigest.symm.trans hd)
  exact ⟨(h.coherent.keyed hi).symm.trans h.intent_operation, hd, href⟩

theorem OnRecord.unobserved (h : OnRecord C a result i s) (hr : s.index .receipt a.operationId = none) :
    s.index .observation a.operationId = none ∧ s.index .terminal a.operationId = none := by
  constructor
  · cases ho : s.index .observation a.operationId with
    | none => rfl
    | some o =>
      obtain ⟨_, r, hsome, _⟩ := h.observation ho
      rw [hr] at hsome
      cases hsome
  · cases he : s.index .terminal a.operationId with
    | none => rfl
    | some e =>
      obtain ⟨_, _, r, hsome, _⟩ := h.terminal he
      rw [hr] at hsome
      cases hsome

theorem Store.index_other {k' : Kind} {operationId : D} (hk : k' ≠ k) :
    (s.setIndex k r).index k' operationId = s.index k' operationId := by
  simp [Store.setIndex, hk]

theorem Store.index_self : (s.setIndex k r).index k (Rec.operationId r) = some r :=
  Store.index_setIndex.mpr (.inl ⟨rfl, rfl, rfl⟩)

theorem OnRecord.setIndex (h : OnRecord C a result i s) (hresult : k ≠ .result) (hintent : k ≠ .intent)
    (hnone : s.index k (Rec.operationId r) = none) (hr : Rests C s.Holds k r) :
    OnRecord C a result i (s.setIndex k r) where
  coherent := h.coherent.setIndex hnone hr
  resulted := (Store.index_other hresult.symm).trans h.resulted
  intended := (Store.index_other hintent.symm).trans h.intended
  bound := h.bound
  only operationId i' hi hd := by
    rw [Store.index_other hintent.symm] at hi
    exact h.only _ _ hi hd

theorem OnRecord.setOwner (h : OnRecord C a result i s) (hm : OwnerRests C s.Holds m) :
    OnRecord C a result i (s.setOwner m) :=
  ⟨h.coherent.setOwner hm, h.resulted, h.intended, h.bound, h.only⟩

end Recorded

/-! ## The ref is gone -/

section Gone
variable (C : Canon D) (a : Authority D) (result : ResultReceipt D) (i : CleanupIntent D) (d : Option ReceiptOutcome)

def Deletes (reply : Reply (CleanupReceipt D)) : Option ReceiptOutcome → Prop
  | some outcome => ∃ receipt, reply = .returned receipt ∧ receipt.operationId = i.operationId ∧
      Journal.BoundReceipt C receipt i ∧ receipt.outcome = outcome
  | none => ∀ receipt, reply ≠ .returned receipt

/-- No I/O error is met; the records of the preparation are the authority's; no verifier
objects to a ref that is gone; the clock is not before the times on record; a deletion
comes to `d`, and who observes the ref finds it gone. -/
def AnswersGone (s : Store D) : (p : Port D) → p.Answer → Prop
  | .put, ok => ok = true
  | .load k operationId, found => found = content (s.index k operationId)
  | .link k r, linked => linked = linking (s.index k r.operationId)
  | .loadOwner d, found => found = content (s.owner d)
  | .linkOwner m, linked => linked = linking (s.owner m.intentDigest)
  | .readRollbackIntent _, found => found = .found a.intent
  | .readAuthorization _, found => found = .found a.authorizationDigest
  | .readAncestor x _, found => found = .found (a.ancestor x)
  | .requireResult _, ok => ok = true
  | .verify (.observation o _ _), ok => o.outcome.gone = true → ok = true
  | .verify _, ok => ok = true
  | .verifyNamed (.observation o _ _), r => o.outcome.gone = true → r = .ok ()
  | .verifyNamed _, r => r = .ok ()
  | .clock, r => ∃ t, r = .ok t ∧ (∀ i, s.index .intent a.operationId = some i → CleanupIntent.recordedAt i ≤ t) ∧
      ∀ r, s.index .receipt a.operationId = some r → CleanupReceipt.observedAt r ≤ t
  | .earlier _, r => r = .ok (.released a result i.pullRequestNumber i.pullRequestUrl)
  | .postState _, r => r = .ok ()
  | .package _, r => r = .ok ()
  | .cleanupRollback i, r => Deletes C i r d
  | .reconcileRollbackCleanup i receipt, r => ∃ o, r = .returned o ∧ o.operationId = i.operationId ∧ o.outcome.gone = true ∧
      (receipt.outcome ≠ .invalid → Journal.BoundObservation C o i receipt)

abbrev gone : Regime (Call D) NoFile (Port.Answer (D := D)) (Store D) where
  starts _ := True
  ok := AnswersGone C a result i d
  cut _ _ := False

/-- The call ends like this. -/
abbrev Lasts {α : Type} (Q : Except Exc α → Store D → Prop) (p : Code D α) (files : Files NoFile) (s : Store D) : Prop :=
  p.Survives journal (gone C a result i d) (fun _ _ => True) (fun x _ s' => Q x s') files s

end Gone

/-- It returns this, and leaves the journal so. -/
def Gives {α : Type} (y : α) (s : Store D) (x : Except Exc α) (s' : Store D) : Prop := x = .ok y ∧ s' = s

section Looking
variable {C : Canon D} {a : Authority D} {result : ResultReceipt D} {i : CleanupIntent D} {d : Option ReceiptOutcome}
  {s s' : Store D} {files : Files NoFile} {α β : Type}

theorem Lasts.bind_gives {p : Code D α} {f : α → Code D β} {y : α} {Q : Except Exc β → Store D → Prop}
    (hp : Lasts C a result i d (Gives y s') p files s) (hf : ∀ files, Lasts C a result i d Q (f y) files s') :
    Lasts C a result i d Q (p >>= f) files s := by
  refine Prog.Survives.bind hp (fun x files' s₁ hx => ?_) fun e _ _ hx => nomatch hx.1
  obtain ⟨hy, rfl⟩ := hx
  cases hy
  exact hf files'

theorem lasts_done {y : α} : Lasts C a result i d (Gives y s) (.done y) files s := ⟨rfl, rfl⟩

theorem journal_load {k : Kind} {operationId : D} {r : Found (Rec D k)} (h : journal (.load k operationId) r s = some s') :
    s' = s := by
  simp only [journal] at h
  split at h
  · cases h; rfl
  · cases h

theorem journal_loadOwner {d : D} {r : Found (DispatchOwner D)} (h : journal (.loadOwner d) r s = some s') : s' = s := by
  simp only [journal] at h
  split at h
  · cases h; rfl
  · cases h

namespace Journal

variable {k : Kind} {operationId : D} {check : Rec D k → Code D Unit} {r : CleanupReceipt D}
  {o : CleanupObservation D}

theorem lasts_read_missing (hk : s.index k operationId = none) :
    Lasts C a result i d (Gives none s) (read k operationId check) files s := by
  refine ⟨fun h => h.elim, fun r s' hr hs => ?_⟩
  cases journal_load hs
  rw [show r = .missing from hr.trans (congrArg content hk)]
  exact ⟨rfl, rfl⟩

theorem lasts_read {r : Rec D k} {Q : Except Exc (Option (Rec D k)) → Store D → Prop}
    (hk : s.index k operationId = some r) (hop : r.operationId = operationId)
    (hc : ∀ files, Lasts C a result i d (fun x s' => s' = s ∧
      ((x = .ok () ∧ Q (.ok (some r)) s) ∨ ((∃ e, x = .error e) ∧ ∀ e, Q (.error e) s))) (check r) files s) :
    Lasts C a result i d Q (read k operationId check) files s := by
  refine ⟨fun h => h.elim, fun found s' hr hs => ?_⟩
  cases journal_load hs
  rw [show found = .found r from hr.trans (congrArg content hk)]
  refine (hc files).attempt_bind fun x files' s₁ hx => ?_
  obtain ⟨rfl, ⟨rfl, hq⟩ | ⟨⟨e, rfl⟩, hq⟩⟩ := hx
  · exact Prog.Survives.require_bind hop hq
  · exact hq _

theorem lasts_read_found {r : Rec D k} (hk : s.index k operationId = some r) (hop : r.operationId = operationId)
    (hc : ∀ files, Lasts C a result i d (Gives () s) (check r) files s) :
    Lasts C a result i d (Gives (some r) s) (read k operationId check) files s :=
  lasts_read hk hop fun files => (hc files).mono fun _ _ _ hx => ⟨hx.2, .inl ⟨hx.1, rfl, rfl⟩⟩

theorem lasts_verify {what : String} {x : Shown D} (hx : ∀ o i r, x = .observation o i r → o.outcome.gone = true) :
    Lasts C a result i d (Gives () s) (verify what x) files s := by
  refine ⟨fun h => h.elim, fun ok s' hok hs => ?_⟩
  cases hs
  have htrue : ok = true := by
    cases x with
    | observation o i r => exact hok (hx o i r rfl)
    | _ => exact hok
  subst htrue
  exact ⟨rfl, rfl⟩

theorem lasts_requireResult {r : ResultReceipt D} : Lasts C a result i d (Gives () s) (requireResult r) files s := by
  refine ⟨fun h => h.elim, fun ok s' hok hs => ?_⟩
  cases hs
  rw [show ok = true from hok]
  exact ⟨rfl, rfl⟩

theorem lasts_readRollbackIntent :
    Lasts C a result i d (Gives (some a.intent) s) (readRollbackIntent operationId) files s := by
  refine ⟨fun h => h.elim, fun found s' hr hs => ?_⟩
  cases hs
  rw [show found = .found a.intent from hr]
  exact ⟨rfl, rfl⟩

theorem lasts_readAuthorization :
    Lasts C a result i d (Gives (some a.authorizationDigest) s) (readAuthorization operationId) files s := by
  refine ⟨fun h => h.elim, fun found s' hr hs => ?_⟩
  cases hs
  rw [show found = .found a.authorizationDigest from hr]
  exact ⟨rfl, rfl⟩

variable (h : OnRecord C a result i s)
include h

theorem lasts_readResult : Lasts C a result i d (Gives (some result) s) (readResult a.operationId) files s :=
  lasts_read_found h.resulted h.result_operation fun _ => lasts_requireResult

theorem lasts_requireIntent : Lasts C a result i d (Gives () s) (requireIntent C i) files s := by
  refine Prog.Survives.require_bind h.valid ?_
  rw [h.intent_operation]
  refine (lasts_readResult h).bind_gives fun files => lasts_readRollbackIntent.bind_gives fun files => ?_
  refine lasts_readAuthorization.bind_gives fun files => ?_
  exact Prog.Survives.require_bind h.bound (lasts_verify fun _ _ _ hx => nomatch hx)

theorem lasts_readIntent : Lasts C a result i d (Gives (some i) s) (readIntent C a.operationId) files s :=
  lasts_read_found h.intended h.intent_operation fun _ => lasts_requireIntent h

theorem lasts_requireReceipt (hop : r.operationId = a.operationId) (hb : BoundReceipt C r i) :
    Lasts C a result i d (Gives () s) (requireReceipt C r) files s := by
  unfold requireReceipt
  rw [hop]
  refine (lasts_readIntent h).bind_gives fun files => Prog.Survives.require_bind hb ?_
  exact (lasts_readResult h).bind_gives fun files => lasts_verify fun _ _ _ hx => nomatch hx

theorem lasts_readReceipt : Lasts C a result i d (Gives (s.index .receipt a.operationId) s) (readReceipt C a.operationId) files s := by
  cases hr : s.index .receipt a.operationId with
  | none => exact lasts_read_missing hr
  | some r =>
    obtain ⟨hop, hb⟩ := h.receipt hr
    exact lasts_read_found hr hop fun _ => lasts_requireReceipt h hop hb

theorem lasts_requireObservation (hr : s.index .receipt a.operationId = some r) (hop : o.operationId = a.operationId)
    (hb : BoundObservation C o i r) (hgone : o.outcome.gone = true) :
    Lasts C a result i d (Gives () s) (requireObservation C o) files s := by
  unfold requireObservation
  rw [hop]
  refine (lasts_readReceipt h).bind_gives fun files => (lasts_readIntent h).bind_gives fun files => ?_
  rw [hr]
  refine Prog.Survives.require_bind hb (lasts_verify fun o' i' r' hx => ?_)
  cases hx
  exact hgone

theorem lasts_readObservation (ho : s.index .observation a.operationId = some o) (hgone : o.outcome.gone = true) :
    Lasts C a result i d (Gives (some o) s) (readObservation C a.operationId) files s := by
  obtain ⟨hop, r, hr, hb⟩ := h.observation ho
  exact lasts_read_found ho hop fun _ => lasts_requireObservation h hr hop hb hgone

theorem lasts_readObservation_present (ho : s.index .observation a.operationId = some o) :
    Lasts C a result i d (fun x s' => s' = s ∧ (x = .ok (some o) ∨ ∃ e, x = .error e)) (readObservation C a.operationId) files s := by
  obtain ⟨hop, r, hr, hb⟩ := h.observation ho
  refine lasts_read ho hop fun files => ?_
  unfold requireObservation
  rw [show CleanupObservation.operationId o = a.operationId from hop]
  refine (lasts_readReceipt h).bind_gives fun files => (lasts_readIntent h).bind_gives fun files => ?_
  rw [hr]
  refine Prog.Survives.require_bind hb ⟨fun h => h.elim, fun ok s' hok hs => ?_⟩
  cases hs
  cases ok with
  | true => exact ⟨rfl, .inl ⟨rfl, rfl, .inl rfl⟩⟩
  | false => exact ⟨rfl, .inr ⟨⟨_, rfl⟩, fun e => ⟨rfl, .inr ⟨e, rfl⟩⟩⟩⟩

theorem lasts_requireTerminal {e : TerminalEvidence D} (hr : s.index .receipt a.operationId = some r)
    (hop : e.operationId = a.operationId) (hurl : Https e.pullRequestUrl) (hb : BoundTerminal C e i r)
    (hgone : r.outcome.unsettled = true → ∃ o, s.index .observation a.operationId = some o ∧ ShowsGone C e i r o)
    (hnone : r.outcome.unsettled = false → e.cleanupObservationDigest = none) :
    Lasts C a result i d (Gives () s) (requireTerminal C e) files s := by
  refine Prog.Survives.require_bind hurl ?_
  rw [hop]
  refine (lasts_readIntent h).bind_gives fun files => (lasts_readReceipt h).bind_gives fun files => ?_
  rw [hr]
  refine Prog.Survives.require_bind hb ?_
  dsimp only
  split
  · next hu =>
    obtain ⟨o, ho, hshows⟩ := hgone hu
    refine (lasts_readObservation h ho hshows.2.1).bind_gives fun files => ?_
    exact Prog.Survives.require_bind hshows (lasts_verify fun _ _ _ hx => by cases hx)
  · next hu =>
    exact Prog.Survives.require_bind (hnone (by simpa using hu)) (lasts_verify fun _ _ _ hx => by cases hx)

theorem lasts_readTerminal :
    Lasts C a result i d (Gives (s.index .terminal a.operationId) s) (readTerminal C a.operationId) files s := by
  cases he : s.index .terminal a.operationId with
  | none => exact lasts_read_missing he
  | some e =>
    obtain ⟨hop, hurl, r, hr, hb, hgone, hnone⟩ := h.terminal he
    exact lasts_read_found he hop fun _ => lasts_requireTerminal h hr hop hurl hb hgone hnone

theorem lasts_readDispatchOwner :
    Lasts C a result i d (Gives (s.owner (i.digest C)) s) (readDispatchOwner C (i.digest C)) files s := by
  refine ⟨fun h => h.elim, fun found s' hr hs => ?_⟩
  cases journal_loadOwner hs
  cases hm : s.owner (i.digest C) with
  | none =>
    rw [show found = .missing from hr.trans (congrArg content hm)]
    exact ⟨rfl, rfl⟩
  | some m =>
    rw [show found = .found m from hr.trans (congrArg content hm)]
    obtain ⟨hop, hd, href⟩ := h.owner hm
    dsimp only
    rw [hop]
    exact (lasts_readIntent h).bind_gives fun files => Prog.Survives.require_bind ⟨hd, href⟩ ⟨rfl, rfl⟩

end Journal

/-! ## Recording -/

namespace Journal

theorem lasts_put : Lasts C a result i d (Gives () s) put files s := by
  refine ⟨fun h => h.elim, fun ok s' hok hs => ?_⟩
  cases hs
  rw [show ok = true from hok]
  exact ⟨rfl, rfl⟩

theorem lasts_record {k : Kind} {r : Rec D k} (hk : s.index k (Rec.operationId r) = none)
    (hc : ∀ files, Lasts C a result i d (Gives () s) (checkOf C k r) files s) :
    Lasts C a result i d (Gives () (s.setIndex k r)) (record C k r) files s := by
  refine (hc files).bind_gives fun files => lasts_put.bind_gives fun files => ⟨fun h => h.elim, fun published s' hp hs => ?_⟩
  rw [show published = .created from hp.trans (congrArg linking hk)] at hs ⊢
  simp only [journal, hk, linked, Option.some.injEq] at hs
  exact ⟨rfl, hs.symm⟩

theorem lasts_record_again {k : Kind} {r : Rec D k} (hk : s.index k (Rec.operationId r) = some r)
    (hc : ∀ files, Lasts C a result i d (Gives () s) (checkOf C k r) files s) :
    Lasts C a result i d (Gives () s) (record C k r) files s := by
  refine (hc files).bind_gives fun files => lasts_put.bind_gives fun files => ⟨fun h => h.elim, fun published s' hp hs => ?_⟩
  rw [show published = .taken from hp.trans (congrArg linking hk)] at hs ⊢
  simp only [journal, hk, linked, Option.some.injEq] at hs
  subst hs
  refine ⟨fun h => h.elim, fun found s' hf hs => ?_⟩
  cases journal_load hs
  rw [show found = .found r from hf.trans (congrArg content hk)]
  dsimp only
  rw [Prog.require_of rfl]
  exact ⟨rfl, rfl⟩

theorem lasts_record_refused {k : Kind} {r : Rec D k}
    (hc : Lasts C a result i d (fun x _ => ∃ e, x = .error e) (checkOf C k r) files s) :
    Lasts C a result i d (fun x _ => ∃ e, x = .error e) (record C k r) files s := by
  refine Prog.Survives.bind hc (fun x _ _ hx => ?_) fun e _ _ _ => ⟨e, rfl⟩
  obtain ⟨e, he⟩ := hx
  cases he

end Journal

theorem lasts_now : Lasts C a result i d (fun x s' => s' = s ∧ ∃ t, x = .ok t ∧
    (∀ i, s.index .intent a.operationId = some i → CleanupIntent.recordedAt i ≤ t) ∧
    ∀ r, s.index .receipt a.operationId = some r → CleanupReceipt.observedAt r ≤ t) now files s := by
  refine ⟨fun h => h.elim, fun r s' hr hs => ?_⟩
  cases hs
  obtain ⟨t, rfl, ht⟩ := hr
  exact ⟨rfl, t, rfl, ht⟩

/-! ## The cleanup -/

namespace Coordinator

variable (h : OnRecord C a result i s)
include h

theorem lasts_claimDispatch {recordedAt : Instant} (hm : s.owner (i.digest C) = none) :
    Lasts C a result i d (fun x s' => x = .ok true ∧ OnRecord C a result i s' ∧ ∀ k, s'.index k = s.index k)
      (Journal.claimDispatch C a.operationId (i.digest C) i.candidateRef recordedAt) files s := by
  refine (Journal.lasts_readIntent h).bind_gives fun files => Prog.Survives.require_bind ⟨rfl, rfl⟩ ?_
  refine Journal.lasts_put.bind_gives fun files => ⟨fun h => h.elim, fun published s' hp hs => ?_⟩
  rw [show published = .created from hp.trans (congrArg linking hm)] at hs ⊢
  simp only [journal, hm, linked, Option.some.injEq] at hs
  subst hs
  exact ⟨rfl, h.setOwner ⟨i, h.intended, rfl, rfl⟩, fun _ => rfl⟩

theorem lasts_claim : Lasts C a result i d (fun x s' => x = .ok (s.owner (i.digest C)).isNone ∧ OnRecord C a result i s' ∧
      ∀ k, s'.index k = s.index k)
    (claim C a.operationId i) files s := by
  refine (Journal.lasts_readDispatchOwner h).bind_gives fun files => ?_
  cases hm : s.owner (i.digest C) with
  | some m => exact ⟨rfl, h, fun _ => rfl⟩
  | none =>
    refine Prog.Survives.bind lasts_now (fun x files s' hx => ?_) fun e _ _ hx => ?_
    · obtain ⟨rfl, _⟩ := hx
      exact lasts_claimDispatch h hm
    · obtain ⟨_, t, ht, _⟩ := hx
      cases ht

structure Left (C : Canon D) (a : Authority D) (result : ResultReceipt D) (i : CleanupIntent D) (r : CleanupReceipt D)
    (s : Store D) : Prop where
  recorded : OnRecord C a result i s
  receipt : s.index .receipt a.operationId = some r

variable {r : CleanupReceipt D} {o : CleanupObservation D}

theorem lasts_recordReceipt (hnone : s.index .receipt a.operationId = none) (hop : r.operationId = a.operationId)
    (hb : Journal.BoundReceipt C r i) : Lasts C a result i d (fun x s' => x = .ok () ∧ Left C a result i r s' ∧
      s'.index .observation a.operationId = none ∧ s'.index .terminal a.operationId = none)
      (Journal.record C .receipt r) files s := by
  have hnone' : s.index .receipt (Rec.operationId (k := .receipt) r) = none := (congrArg _ hop).trans hnone
  refine (Journal.lasts_record hnone' fun _ => Journal.lasts_requireReceipt h hop hb).mono fun x _ s' hx => ?_
  obtain ⟨hx, rfl⟩ := hx
  have hrests : Rests C s.Holds .receipt r := ⟨i, (congrArg _ hop).trans h.intended, hb⟩
  have hother := h.unobserved hnone
  refine ⟨hx, ⟨h.setIndex (by simp) (by simp) hnone' hrests, ?_⟩, ?_, ?_⟩
  · rw [← hop]
    exact Store.index_self
  · exact (Store.index_other (by simp)).trans hother.1
  · exact (Store.index_other (by simp)).trans hother.2

theorem lasts_delete (hnone : s.index .receipt a.operationId = none) :
    Lasts C a result i d (fun x s' => (d = none ∧ ∃ e, x = .error e) ∨ ∃ r, x = .ok r ∧ Left C a result i r s' ∧
      d = some r.outcome ∧ s'.index .observation a.operationId = none ∧ s'.index .terminal a.operationId = none)
      (delete C i) files s := by
  refine ⟨fun h => h.elim, fun reply s' hr hs => ?_⟩
  cases hs
  cases d with
  | none =>
    cases reply with
    | returned r => exact absurd rfl (hr r)
    | untyped => exact .inl ⟨rfl, _, rfl⟩
    | raised m => exact .inl ⟨rfl, _, rfl⟩
  | some outcome =>
    obtain ⟨r, rfl, hop, hb, rfl⟩ := hr
    refine Prog.Survives.bind (p := Journal.record C .receipt r) (lasts_recordReceipt h hnone (hop.trans h.intent_operation) hb)
      (fun x _ _ hx => ?_) fun e _ _ hx => ?_
    · exact .inr ⟨r, rfl, hx.2.1, rfl, hx.2.2⟩
    · cases hx.1

omit h in
theorem lasts_recordObservation (hl : Left C a result i r s) (hnone : s.index .observation a.operationId = none)
    (hop : o.operationId = a.operationId) (hb : Journal.BoundObservation C o i r) (hgone : o.outcome.gone = true) :
    Lasts C a result i d (fun x s' => x = .ok () ∧ Left C a result i r s' ∧ s'.index .observation a.operationId = some o)
      (Journal.record C .observation o) files s := by
  have hnone' : s.index .observation (Rec.operationId (k := .observation) o) = none := (congrArg _ hop).trans hnone
  refine (Journal.lasts_record hnone' fun _ => Journal.lasts_requireObservation hl.recorded hl.receipt hop hb hgone).mono
    fun x _ s' hx => ?_
  obtain ⟨hx, rfl⟩ := hx
  have hrests : Rests C s.Holds .observation o :=
    ⟨i, r, (congrArg _ hop).trans hl.recorded.intended, (congrArg _ hop).trans hl.receipt, hb⟩
  refine ⟨hx, ⟨hl.recorded.setIndex (by simp) (by simp) hnone' hrests, (Store.index_other (by simp)).trans hl.receipt⟩, ?_⟩
  rw [← hop]
  exact Store.index_self

theorem lasts_reconcile (hnone : s.index .receipt a.operationId = none) :
    Lasts C a result i d (fun x s' => ∃ r, x = .ok r ∧ Left C a result i r s' ∧ r.outcome.unsettled = true ∧
      ∃ o : CleanupObservation D, s'.index .observation a.operationId = some o ∧ o.outcome.gone = true)
      (reconcile C a.operationId i) files s := by
  refine (Journal.lasts_readReceipt h).bind_gives fun files => ?_
  rw [hnone]
  refine Prog.Survives.bind (Q := fun x _ s' => ∃ r, x = .ok r ∧ Left C a result i r s' ∧
    s'.index .observation a.operationId = none ∧ r.outcome.unsettled = true) ?_ (fun r files s₁ hx => ?_) fun e _ _ hx => ?_
  · refine Prog.Survives.bind lasts_now (fun t files s₁ hx => ?_) fun e _ _ hx => ?_
    · obtain ⟨rfl, t', ht, hintent, _⟩ := hx
      cases ht
      have hb : Journal.BoundReceipt C (i.reconciliationReceipt C t) i := ⟨rfl, rfl, rfl, rfl, hintent i h.intended, rfl⟩
      refine Prog.Survives.bind (lasts_recordReceipt h hnone h.intent_operation hb) (fun x _ _ hx => ?_) fun e _ _ hx => ?_
      · exact ⟨_, rfl, hx.2.1, hx.2.2.1, rfl⟩
      · cases hx.1
    · obtain ⟨_, t, ht, _⟩ := hx
      cases ht
  · obtain ⟨r', hr, hl, hunobserved, hunsettled⟩ := hx
    cases hr
    refine ⟨fun h => h.elim, fun reply s' hr hs => ?_⟩
    cases hs
    obtain ⟨o, rfl, hop, hgone, hb⟩ := hr
    have hvalid : r.outcome ≠ .invalid := fun he => by rw [he] at hunsettled; cases hunsettled
    refine Prog.Survives.bind (p := Journal.record C .observation o)
      (lasts_recordObservation hl hunobserved (hop.trans h.intent_operation) (hb hvalid) hgone) (fun x _ _ hx => ?_) fun e _ _ hx => ?_
    · exact ⟨r, rfl, hx.2.1, hunsettled, o, hx.2.2, hgone⟩
    · cases hx.1
  · obtain ⟨_, hr, _⟩ := hx
    cases hr

/-- What the durable records let a receipt come to: terminal evidence is there, or a
direct receipt was not observed, or an unsettled one was observed gone. -/
def Concludes (s : Store D) (operationId : D) (r : CleanupReceipt D) : Prop :=
  s.index .terminal operationId ≠ none ∨ (r.outcome.direct = true ∧ s.index .observation operationId = none) ∨
    (r.outcome.unsettled = true ∧ ∃ o : CleanupObservation D, s.index .observation operationId = some o ∧ o.outcome.gone = true)

/-- What the cleanup can come to: without a receipt, a deletion that nobody made before
has to return a direct one. -/
def Settles (C : Canon D) (i : CleanupIntent D) (d : Option ReceiptOutcome) (s : Store D) (operationId : D) : Prop :=
  match s.index .receipt operationId with
  | some r => Concludes s operationId r
  | none => s.owner (i.digest C) = none → ∃ outcome, d = some outcome ∧ outcome.direct = true

omit h in
theorem Settles.iff_concludes (hr : s.index .receipt a.operationId = some r) :
    Settles C i d s a.operationId ↔ Concludes s a.operationId r := by
  unfold Settles
  rw [hr]

omit h in
theorem Settles.of_owner {m : DispatchOwner D} (hr : s.index .receipt a.operationId = none) (hm : s.owner (i.digest C) = some m) :
    Settles C i d s a.operationId := by
  unfold Settles
  rw [hr]
  intro hnone
  rw [hm] at hnone
  cases hnone

omit h in
theorem Settles.iff_direct (hr : s.index .receipt a.operationId = none) (hm : s.owner (i.digest C) = none) :
    Settles C i d s a.operationId ↔ ∃ outcome, d = some outcome ∧ outcome.direct = true := by
  unfold Settles
  rw [hr]
  exact ⟨fun h => h hm, fun h _ => h⟩

theorem lasts_dispatch : Lasts C a result i d (fun x s' =>
    (¬ Settles C i d s a.operationId ∧ ∃ e, x = .error e) ∨ ∃ r, x = .ok r ∧ Left C a result i r s' ∧
      (Settles C i d s a.operationId ↔ Concludes s' a.operationId r)) (dispatch C a.operationId i) files s := by
  refine (Journal.lasts_readReceipt h).bind_gives fun files => ?_
  cases hr : s.index .receipt a.operationId with
  | some r => exact .inr ⟨r, rfl, ⟨h, hr⟩, Settles.iff_concludes hr⟩
  | none =>
    refine Prog.Survives.bind (lasts_claim h) (fun won files s₁ hx => ?_) fun e _ _ hx => nomatch hx.1
    obtain ⟨hwon, hrecorded, hindex⟩ := hx
    have hnone : s₁.index .receipt a.operationId = none := (congrFun (hindex .receipt) _).trans hr
    cases hm : s.owner (i.digest C) with
    | none =>
      rw [hm] at hwon
      cases hwon
      refine (lasts_delete hrecorded hnone).mono fun _ _ _ hx => ?_
      obtain ⟨rfl, he⟩ | ⟨r, rfl, hl, rfl, hobs, hterminal⟩ := hx
      · refine .inl ⟨fun hs => ?_, he⟩
        obtain ⟨_, hd, _⟩ := (Settles.iff_direct hr hm).mp hs
        cases hd
      · refine .inr ⟨r, rfl, hl, (Settles.iff_direct hr hm).trans ⟨?_, ?_⟩⟩
        · rintro ⟨_, hd, hdirect⟩
          cases hd
          exact .inr (.inl ⟨hdirect, hobs⟩)
        · rintro (he | ⟨hdirect, _⟩ | ⟨_, o, ho, _⟩)
          · exact absurd hterminal he
          · exact ⟨_, rfl, hdirect⟩
          · rw [hobs] at ho
            cases ho
    | some m =>
      rw [hm] at hwon
      cases hwon
      refine (lasts_reconcile hrecorded hnone).mono fun _ _ _ hx => ?_
      obtain ⟨r, rfl, hl, hunsettled, hobs⟩ := hx
      have hc : Concludes _ a.operationId r := .inr (.inr ⟨hunsettled, hobs⟩)
      exact .inr ⟨r, rfl, hl, iff_of_true (Settles.of_owner hr hm) hc⟩

omit h in
theorem lasts_conclude {o : Option (CleanupObservation D)} (hl : Left C a result i r s)
    (hgood : s.index .terminal a.operationId = none → (r.outcome.direct = true ∧ o = none) ∨
      (r.outcome.unsettled = true ∧ ∃ o', o = some o' ∧ s.index .observation a.operationId = some o' ∧ o'.outcome.gone = true)) :
    Lasts C a result i d (fun x s' => ∃ e, x = .ok (r, o, some e) ∧ s'.index .terminal a.operationId = some e)
      (conclude C a.operationId i r o) files s := by
  refine (Journal.lasts_readTerminal hl.recorded).bind_gives fun files => ?_
  cases he : s.index .terminal a.operationId with
  | some e => exact ⟨e, rfl, he⟩
  | none =>
    refine Prog.Survives.bind lasts_now (fun t files s₁ hx => ?_) fun e _ _ hx => ?_
    · obtain ⟨rfl, t', ht, _, hreceipt⟩ := hx
      cases ht
      have hsettled : r.outcome.direct = true ∨ r.outcome.unsettled = true := (hgood he).imp And.left And.left
      have hb : Journal.BoundTerminal C (i.terminalEvidence C a.operationId r o t) i r :=
        ⟨rfl, rfl, rfl, rfl, hreceipt r hl.receipt, hsettled, rfl⟩
      have hcheck : ∀ files, Lasts C a result i d (Gives () s₁)
          (Journal.requireTerminal C (i.terminalEvidence C a.operationId r o t)) files s₁ := fun files => by
        refine Journal.lasts_requireTerminal hl.recorded hl.receipt rfl hl.recorded.valid.2.2 hb (fun hu => ?_) fun hu => ?_
        · rcases hgood he with ⟨hdirect, _⟩ | ⟨_, o', rfl, ho, hgone⟩
          · rw [ReceiptOutcome.settled_of_direct hdirect] at hu
            cases hu
          · obtain ⟨_, r', hr', hbo⟩ := hl.recorded.observation ho
            rw [hl.receipt] at hr'
            cases hr'
            exact ⟨o', ho, rfl, hgone, hbo.2.1, hbo.1, hbo.2.2.1, hbo.2.2.2.2.2.2.2⟩
        · rcases hgood he with ⟨_, rfl⟩ | ⟨hunsettled, _⟩
          · rfl
          · rw [hu] at hunsettled; cases hunsettled
      refine Prog.Survives.bind (Journal.lasts_record (k := .terminal) he hcheck) (fun x _ s₂ hx => ?_) fun e _ _ hx => ?_
      · obtain ⟨_, rfl⟩ := hx
        exact ⟨_, rfl, Store.index_self⟩
      · cases hx.1
    · obtain ⟨_, t, ht, _⟩ := hx
      cases ht

omit h in
theorem lasts_conclude_refused {o : Option (CleanupObservation D)} (hl : Left C a result i r s)
    (hnone : s.index .terminal a.operationId = none)
    (hbad : r.outcome = .invalid ∨ (r.outcome.direct = true ∧ o.isSome = true)) :
    Lasts C a result i d (fun x _ => ∃ e, x = .error e) (conclude C a.operationId i r o) files s := by
  refine (Journal.lasts_readTerminal hl.recorded).bind_gives fun files => ?_
  rw [hnone]
  refine Prog.Survives.bind lasts_now (fun t files s₁ hx => ?_) fun e _ _ hx => ⟨e, rfl⟩
  obtain ⟨rfl, _⟩ := hx
  refine Prog.Survives.bind (Journal.lasts_record_refused (k := .terminal) ?_) (fun x _ _ hx => ?_) fun e _ _ hx => ⟨e, rfl⟩
  · refine Prog.Survives.require_bind hl.recorded.valid.2.2 ?_
    refine (Journal.lasts_readIntent hl.recorded).bind_gives fun files => ?_
    refine (Journal.lasts_readReceipt hl.recorded).bind_gives fun files => ?_
    rw [hl.receipt]
    rcases hbad with hinvalid | ⟨hdirect, hsome⟩
    · refine Prog.Survives.refuse_bind (fun hb => ?_) ⟨_, rfl⟩
      rcases hb.2.2.2.2.2.1 with hs | hs <;> rw [hinvalid] at hs <;> cases hs
    · by_cases hb : Journal.BoundTerminal C (i.terminalEvidence C a.operationId r o t) i r
      · refine Prog.Survives.require_bind hb ?_
        rw [if_neg (by simp [ReceiptOutcome.settled_of_direct hdirect])]
        refine Prog.Survives.refuse_bind (fun hd => ?_) ⟨_, rfl⟩
        obtain ⟨o', rfl⟩ := Option.isSome_iff_exists.mp hsome
        cases hd
      · exact Prog.Survives.refuse_bind hb ⟨_, rfl⟩
  · obtain ⟨e, he⟩ := hx
    cases he

/-- With terminal evidence that is on record, or without. -/
def Ended (good : Prop) (operationId : D) (x : Except Exc (Cleaned D)) (s : Store D) : Prop :=
  (good → ∃ r o e, x = .ok (r, o, some e) ∧ s.index .terminal operationId = some e) ∧ (¬ good → ∀ r o e, x ≠ .ok (r, o, some e))

omit h in
theorem lasts_observeAgain :
    Lasts C a result i d (fun x _ => ∃ e, x = .error e) (observeAgain C i r : Code D (Cleaned D)) files s := by
  refine ⟨fun h => h.elim, fun reply s' hr hs => ?_⟩
  obtain ⟨o, rfl, _⟩ := hr
  exact Prog.Survives.bind (p := Journal.record C .observation o) (Prog.Survives.any (fun _ _ => trivial) _)
    (fun _ _ _ _ => ⟨_, rfl⟩) fun e _ _ _ => ⟨e, rfl⟩

omit h in
theorem Left.terminal (hl : Left C a result i r s) (he : s.index .terminal a.operationId ≠ none) :
    r.outcome.direct = true ∨ (r.outcome.unsettled = true ∧
      ∃ o : CleanupObservation D, s.index .observation a.operationId = some o ∧ o.outcome.gone = true) := by
  obtain ⟨e, he⟩ := Option.ne_none_iff_exists'.mp he
  obtain ⟨_, _, r', hr', hb, hgone, _⟩ := hl.recorded.terminal he
  rw [hl.receipt] at hr'
  cases hr'
  rcases hb.2.2.2.2.2.1 with hdirect | hunsettled
  · exact .inl hdirect
  · obtain ⟨o, ho, hshows⟩ := hgone hunsettled
    exact .inr ⟨hunsettled, o, ho, hshows.2.1⟩

omit h in
theorem lasts_settle_unobserved (hl : Left C a result i r s) (ho : s.index .observation a.operationId = none) :
    Lasts C a result i d (Ended (Concludes s a.operationId r) a.operationId)
      (if r.outcome.unsettled then observeAgain C i r else conclude C a.operationId i r none) files s := by
  split
  · next hu =>
    refine lasts_observeAgain.mono fun x _ s' hx => ⟨fun hgood => ?_, fun _ r o e hok => ?_⟩
    · rcases hgood with he | ⟨hdirect, _⟩ | ⟨_, o, hsome, _⟩
      · rcases hl.terminal he with hdirect | ⟨_, o, hsome, _⟩
        · rw [ReceiptOutcome.settled_of_direct hdirect] at hu; cases hu
        · rw [ho] at hsome; cases hsome
      · rw [ReceiptOutcome.settled_of_direct hdirect] at hu; cases hu
      · rw [ho] at hsome; cases hsome
    · obtain ⟨e', he'⟩ := hx
      rw [hok] at he'
      cases he'
  · next hu =>
    by_cases hdirect : r.outcome.direct = true
    · refine (lasts_conclude hl fun _ => .inl ⟨hdirect, rfl⟩).mono fun x _ s' hx => ⟨fun _ => ?_, fun hbad => ?_⟩
      · obtain ⟨e, hx, he⟩ := hx
        exact ⟨r, none, e, hx, he⟩
      · exact absurd (.inr (.inl ⟨hdirect, ho⟩)) hbad
    · have hinvalid : r.outcome = .invalid := by
        cases hr : r.outcome with
        | invalid => rfl
        | applied | alreadyAbsent => rw [hr] at hdirect; exact absurd rfl hdirect
        | ambiguous | reconciliationRequired => rw [hr] at hu; exact absurd rfl hu
      have hnone : s.index .terminal a.operationId = none := by
        by_contra he
        rcases hl.terminal he with hd | ⟨hus, _⟩
        · exact hdirect hd
        · exact hu hus
      refine (lasts_conclude_refused hl hnone (.inl hinvalid)).mono fun x _ s' hx => ⟨fun hgood => ?_, fun _ r o e hok => ?_⟩
      · rcases hgood with he | ⟨hd, _⟩ | ⟨hus, _⟩
        · exact absurd hnone he
        · exact absurd hd hdirect
        · exact absurd hus hu
      · obtain ⟨e', he'⟩ := hx
        rw [hok] at he'
        cases he'

omit h in
theorem lasts_settle_gone (hl : Left C a result i r s) (ho : s.index .observation a.operationId = some o)
    (hgone : o.outcome.gone = true) :
    Lasts C a result i d (Ended (Concludes s a.operationId r) a.operationId) (conclude C a.operationId i r (some o)) files s := by
  obtain ⟨_, r', hr', hb⟩ := hl.recorded.observation ho
  rw [hl.receipt] at hr'
  cases hr'
  by_cases hgood : Concludes s a.operationId r
  · have hsettles : s.index .terminal a.operationId = none → (r.outcome.direct = true ∧ some o = none) ∨
        (r.outcome.unsettled = true ∧ ∃ o', some o = some o' ∧ s.index .observation a.operationId = some o' ∧
          o'.outcome.gone = true) := by
      intro hnone
      rcases hgood with he | ⟨_, hobs⟩ | ⟨hu, _⟩
      · exact absurd hnone he
      · rw [ho] at hobs; cases hobs
      · exact .inr ⟨hu, o, rfl, ho, hgone⟩
    refine (lasts_conclude hl hsettles).mono fun x _ s' hx => ⟨fun _ => ?_, fun hbad => absurd hgood hbad⟩
    obtain ⟨e, hx, he⟩ := hx
    exact ⟨r, some o, e, hx, he⟩
  · have hnone : s.index .terminal a.operationId = none := by
      by_contra he
      exact hgood (.inl he)
    have hdirect : r.outcome.direct = true := by
      cases hr : r.outcome with
      | applied | alreadyAbsent => rfl
      | invalid => exact absurd hr hb.2.2.2.2.2.1
      | ambiguous | reconciliationRequired => exact absurd (.inr (.inr ⟨by rw [hr]; rfl, o, ho, hgone⟩)) hgood
    refine (lasts_conclude_refused hl hnone (.inr ⟨hdirect, rfl⟩)).mono fun x _ s' hx =>
      ⟨fun h => absurd h hgood, fun _ r o e hok => ?_⟩
    obtain ⟨e', he'⟩ := hx
    rw [hok] at he'
    cases he'

omit h in
theorem not_concludes_of_present (hl : Left C a result i r s) (ho : s.index .observation a.operationId = some o)
    (hgone : ¬ o.outcome.gone = true) : ¬ Concludes s a.operationId r ∧ r.outcome.unsettled = true := by
  obtain ⟨_, r', hr', hb⟩ := hl.recorded.observation ho
  rw [hl.receipt] at hr'
  cases hr'
  have hdirect : ¬ r.outcome.direct = true := fun hd => hgone (hb.2.2.2.2.2.2.1 hd)
  refine ⟨?_, ?_⟩
  · rintro (he | ⟨hd, _⟩ | ⟨_, o', ho', hgone'⟩)
    · rcases hl.terminal he with hd | ⟨_, o', ho', hgone'⟩
      · exact hdirect hd
      · rw [ho] at ho'
        cases ho'
        exact hgone hgone'
    · exact hdirect hd
    · rw [ho] at ho'
      cases ho'
      exact hgone hgone'
  · cases hr : r.outcome with
    | ambiguous | reconciliationRequired => rfl
    | invalid => exact absurd hr hb.2.2.2.2.2.1
    | applied | alreadyAbsent => rw [hr] at hdirect; exact absurd rfl hdirect

omit h in
theorem lasts_settle (hl : Left C a result i r s) :
    Lasts C a result i d (Ended (Concludes s a.operationId r) a.operationId) (settle C a.operationId result i r) files s := by
  refine ⟨fun h => h.elim, fun reply s' hr hs => ?_⟩
  cases hs
  rw [show reply = .ok () from hr]
  cases ho : s.index .observation a.operationId with
  | none => exact (Journal.lasts_read_missing ho).bind_gives fun files => lasts_settle_unobserved hl ho
  | some o =>
    by_cases hgone : o.outcome.gone = true
    · refine (Journal.lasts_readObservation hl.recorded ho hgone).bind_gives fun files => ⟨fun h => h.elim, fun reply s' hr hs => ?_⟩
      cases hs
      rw [show reply = .ok () from hr hgone]
      have hcond : ¬ (r.outcome.unsettled = true ∧ o.outcome.gone = false) := fun hc => by rw [hgone] at hc; cases hc.2
      change Lasts C a result i d _ (if r.outcome.unsettled = true ∧ o.outcome.gone = false then _ else _) files s
      rw [if_neg hcond]
      exact lasts_settle_gone hl ho hgone
    · obtain ⟨hbad, hu⟩ := not_concludes_of_present hl ho hgone
      refine Prog.Survives.bind (p := Journal.readObservation C a.operationId)
        (Journal.lasts_readObservation_present hl.recorded ho) (fun x files s₁ hx => ?_) fun e _ _ hx => ?_
      · obtain ⟨rfl, hx | ⟨e, hx⟩⟩ := hx
        · cases hx
          refine ⟨fun h => h.elim, fun reply s' _ hs => ?_⟩
          cases hs
          cases reply with
          | error m => exact ⟨fun h => absurd h hbad, fun _ _ _ _ hok => nomatch hok⟩
          | ok u =>
            change Lasts C a result i d _ (if r.outcome.unsettled = true ∧ o.outcome.gone = false then _ else _) files s₁
            rw [if_pos ⟨hu, by simpa using hgone⟩]
            refine ⟨fun h => absurd h hbad, fun _ _ _ _ hok => ?_⟩
            cases hok
        · cases hx
      · exact ⟨fun h => absurd h hbad, fun _ _ _ _ hok => nomatch hok⟩

theorem lasts_cleanup : Lasts C a result i d (Ended (Settles C i d s a.operationId) a.operationId)
    (cleanup C a.operationId result i) files s := by
  refine Prog.Survives.bind (lasts_dispatch h) (fun r files s₁ hx => ?_) fun e _ _ hx => ?_
  · obtain ⟨_, _, hx⟩ | ⟨r', hr, hl, hiff⟩ := hx
    · cases hx
    · cases hr
      rw [hiff]
      exact lasts_settle hl
  · obtain ⟨hbad, _⟩ | ⟨_, hr, _⟩ := hx
    · exact ⟨fun hgood => absurd hgood hbad, fun _ _ _ _ hok => nomatch hok⟩
    · cases hr

end Coordinator

/-! ## The calls -/

/-- The terminal evidence that a call comes back with. -/
def Outcome.terminal : Outcome D → Option (TerminalEvidence D)
  | .completed (some c) => some c.terminal
  | .recovered _ _ e => e
  | _ => none

/-- With terminal evidence that is on record, or without. -/
def Concluded (good : Prop) (operationId : D) (x : Except Exc (Outcome D)) (s : Store D) : Prop :=
  (good → ∃ outcome e, x = .ok outcome ∧ outcome.terminal = some e ∧ s.index .terminal operationId = some e) ∧
    (¬ good → ∀ outcome, x = .ok outcome → outcome.terminal = none)

/-- The call is for this cleanup: a recovery is given its records, and the configuration
of an execution makes its intent. -/
def Call.For (a : Authority D) (result : ResultReceipt D) (i : CleanupIntent D) : Call D → Prop
  | .recover a' result' i' => a' = a ∧ result' = result ∧ i' = i
  | .execute config _ => ∃ cleanup observer separate, config.cleanupPrincipal = some cleanup ∧
    config.observerPrincipal = some observer ∧
    i = Coordinator.intentOf config cleanup observer separate a result i.pullRequestNumber i.pullRequestUrl i.recordedAt

/-- What the durable records let a call come to, if a deletion comes to `d`. A recovery
needs the dispatch owner. -/
def Converges (C : Canon D) (i : CleanupIntent D) (d : Option ReceiptOutcome) (s : Store D) (call : Call D) (operationId : D) : Prop :=
  (call.recovers = true → (s.owner (i.digest C)).isSome = true) ∧ Coordinator.Settles C i d s operationId

namespace Coordinator

variable (h : OnRecord C a result i s)
include h

omit h in
theorem lasts_requireAncestry : Lasts C a result i d (Gives () s) (requireAncestry a) files s := by
  have hread : ∀ (x : Ancestor) (kind : String) (key : D) (files : Files NoFile),
      Lasts C a result i d (Gives (some (a.ancestor x)) s) (readAncestor x kind key) files s := by
    intro x kind key files
    refine ⟨fun h => h.elim, fun found s' hr hs => ?_⟩
    cases hs
    rw [show found = .found (a.ancestor x) from hr]
    exact ⟨rfl, rfl⟩
  refine (hread _ _ _ _).bind_gives fun files => (hread _ _ _ _).bind_gives fun files => ?_
  refine Journal.lasts_readAuthorization.bind_gives fun files => Journal.lasts_readRollbackIntent.bind_gives fun files => ?_
  refine (hread _ _ _ _).bind_gives fun files => (hread _ _ _ _).bind_gives fun files => ?_
  refine Prog.Survives.require_bind rfl (Prog.Survives.require_bind rfl (Prog.Survives.require_bind rfl ?_))
  refine Prog.Survives.require_bind rfl (Prog.Survives.require_bind rfl ?_)
  rw [Prog.require_of rfl]
  exact ⟨rfl, rfl⟩

variable {call : Call D} {config : Config D} {cleanup observer : Principal D} {separate : cleanup ≠ observer}

theorem lasts_recoverCleanup (hcall : call.recovers = true) :
    Lasts C a result i d (Concluded (Converges C i d s call a.operationId) a.operationId) (recoverCleanup C a result i) files s := by
  refine Prog.Survives.require_bind ⟨h.result_operation, h.intent_operation, h.bound.1⟩ ?_
  refine (Journal.lasts_readIntent h).bind_gives fun files => Prog.Survives.require_bind rfl ?_
  refine (Journal.lasts_readResult h).bind_gives fun files => Prog.Survives.require_bind rfl ?_
  refine lasts_requireAncestry.bind_gives fun files => (Journal.lasts_readDispatchOwner h).bind_gives fun files => ?_
  by_cases howner : (s.owner (i.digest C)).isSome = true
  · refine Prog.Survives.require_bind howner ?_
    refine Prog.Survives.bind (lasts_cleanup h) (fun cleaned files s₁ hx => ?_) fun e _ _ hx => ?_
    · obtain ⟨r, o, e⟩ := cleaned
      refine ⟨fun hgood => ?_, fun hbad outcome hout => ?_⟩
      · obtain ⟨r', o', e', hx, he⟩ := hx.1 hgood.2
        cases hx
        exact ⟨_, e', rfl, rfl, he⟩
      · cases hout
        cases e with
        | none => rfl
        | some e => exact absurd rfl (hx.2 (fun hall => hbad ⟨fun _ => howner, hall⟩) r o e)
    · refine ⟨fun hgood => ?_, fun _ outcome hout => nomatch hout⟩
      obtain ⟨_, _, _, hx, _⟩ := hx.1 hgood.2
      cases hx
  · refine Prog.Survives.refuse_bind howner ⟨fun hgood => absurd (hgood.1 hcall) howner, fun _ outcome hout => nomatch hout⟩

theorem lasts_cleanupIntent (hcleanup : config.cleanupPrincipal = some cleanup)
    (hobserver : config.observerPrincipal = some observer)
    (hi : i = intentOf config cleanup observer separate a result i.pullRequestNumber i.pullRequestUrl i.recordedAt) :
    Lasts C a result i d (Gives i s) (cleanupIntent C config a result i.pullRequestNumber i.pullRequestUrl) files s := by
  unfold cleanupIntent
  rw [hcleanup, hobserver]
  refine (lasts_done (y := cleanup)).bind_gives fun files => (lasts_done (y := observer)).bind_gives fun files => ?_
  refine (Journal.lasts_readIntent h).bind_gives fun files => (lasts_done (y := i.recordedAt)).bind_gives fun files => ?_
  rw [dif_pos separate, ← hi]
  refine Prog.Survives.require_bind h.valid (Prog.Survives.require_bind ?_ ⟨rfl, rfl⟩)
  rintro _ ⟨⟩
  rfl

theorem lasts_closeRollback (hcall : call.recovers = false) (hcleanup : config.cleanupPrincipal = some cleanup)
    (hobserver : config.observerPrincipal = some observer)
    (hi : i = intentOf config cleanup observer separate a result i.pullRequestNumber i.pullRequestUrl i.recordedAt) :
    Lasts C a result i d (Concluded (Converges C i d s call a.operationId) a.operationId)
      (closeRollback C config a result i.pullRequestNumber i.pullRequestUrl) files s := by
  have hresult : ∀ files, Lasts C a result i d (Gives () s) (rollbackResult C a result) files s := by
    intro files
    refine ⟨fun h => h.elim, fun reply s' hr hs => ?_⟩
    cases hs
    rw [show reply = .ok () from hr]
    exact Journal.lasts_record_again (k := .result) ((congrArg _ h.result_operation).trans h.resulted) fun _ => Journal.lasts_requireResult
  have hpost : ∀ files, Lasts C a result i d (Gives () s) (ask (.postState result) orRaise) files s := by
    intro files
    refine ⟨fun h => h.elim, fun reply s' hr hs => ?_⟩
    cases hs
    rw [show reply = .ok () from hr]
    exact ⟨rfl, rfl⟩
  have hrecord : ∀ files, Lasts C a result i d (Gives () s) (Journal.record C .intent i) files s := fun files =>
    Journal.lasts_record_again (k := .intent) ((congrArg _ h.intent_operation).trans h.intended) fun _ => Journal.lasts_requireIntent h
  refine (hresult _).bind_gives fun files => (hpost _).bind_gives fun files => ?_
  refine (lasts_cleanupIntent h hcleanup hobserver hi).bind_gives fun files => (hrecord _).bind_gives fun files => ?_
  refine Prog.Survives.bind (lasts_cleanup h) (fun cleaned files s₁ hx => ?_) fun e _ _ hx => ?_
  · obtain ⟨r, o, e⟩ := cleaned
    cases e with
    | none =>
      refine ⟨fun hgood => ?_, fun _ outcome hout => ?_⟩
      · obtain ⟨_, _, _, hx, _⟩ := hx.1 hgood.2
        cases hx
      · cases hout
        rfl
    | some e =>
      refine ⟨fun h => h.elim, fun reply s' hr hs => ?_⟩
      cases hs
      rw [show reply = .ok () from hr]
      refine ⟨fun hgood => ?_, fun hbad _ _ => ?_⟩
      · obtain ⟨_, _, e', hx, he⟩ := hx.1 hgood.2
        cases hx
        exact ⟨_, e, rfl, rfl, he⟩
      · refine absurd rfl (hx.2 (fun hall => hbad ⟨fun hrec => ?_, hall⟩) r o e)
        rw [hcall] at hrec
        cases hrec
  · refine ⟨fun hgood => ?_, fun _ outcome hout => nomatch hout⟩
    obtain ⟨_, _, _, hx, _⟩ := hx.1 hgood.2
    cases hx

theorem lasts_execute {sourceOperationId : D} (hcall : call.recovers = false)
    (hcleanup : config.cleanupPrincipal = some cleanup) (hobserver : config.observerPrincipal = some observer)
    (hi : i = intentOf config cleanup observer separate a result i.pullRequestNumber i.pullRequestUrl i.recordedAt) :
    Lasts C a result i d (Concluded (Converges C i d s call a.operationId) a.operationId) (execute C config sourceOperationId) files s := by
  have hscoped : Lasts C a result i d (Concluded (Converges C i d s call a.operationId) a.operationId)
      (executeScoped C config sourceOperationId) files s := by
    refine ⟨fun h => h.elim, fun reply s' hr hs => ?_⟩
    cases hs
    rw [show reply = .ok (.released a result i.pullRequestNumber i.pullRequestUrl) from hr]
    exact lasts_closeRollback h hcall hcleanup hobserver hi
  refine hscoped.attempt_bind fun x files s₁ hx => ?_
  cases x with
  | ok outcome => exact hx
  | error e =>
    have hbad : ¬ Converges C i d s call a.operationId := fun hgood => by
      obtain ⟨_, _, hout, _⟩ := hx.1 hgood
      cases hout
    dsimp only
    split
    · refine ⟨fun hgood => absurd hgood hbad, fun _ outcome hout => ?_⟩
      cases hout
      rfl
    · exact ⟨fun hgood => absurd hgood hbad, fun _ outcome hout => nomatch hout⟩

end Coordinator

theorem lasts_program {call : Call D} (h : OnRecord C a result i s) (hcall : call.For a result i) :
    Lasts C a result i d (Concluded (Converges C i d s call a.operationId) a.operationId) (program C call) files s := by
  cases call with
  | recover a' result' i' =>
    obtain ⟨rfl, rfl, rfl⟩ := hcall
    exact Coordinator.lasts_recoverCleanup h rfl
  | execute config sourceOperationId =>
    obtain ⟨cleanup, observer, separate, hcleanup, hobserver, hi⟩ := hcall
    exact Coordinator.lasts_execute h rfl hcleanup hobserver hi

end Looking

/-- In any state that calls of coordinators in any order lead to, with crashes, I/O errors
and any answers: if a cleanup's result and intent are on record and from now on the ref is
seen gone, the next call that is let run alone returns terminal evidence and has it on
record if and only if the records that are there let it. -/
theorem cleanup_converges {C : Canon D} {w : Coordinators D} {a : Authority D} {result : ResultReceipt D} {i : CleanupIntent D}
    {d : Option ReceiptOutcome} {call : Call D} {O : Oracle (journal (D := D))} (hw : Runs C w)
    (hresult : w.state.index .result a.operationId = some result) (hintent : w.state.index .intent a.operationId = some i)
    (hbound : Journal.BoundIntent i result a.intent a.authorizationDigest)
    (honly : ∀ operationId i', w.state.index .intent operationId = some i' → i'.digest C = i.digest C → i' = i)
    (hcall : call.For a result i) (hO : ∀ s p, AnswersGone C a result i d s p (O.answer s p)) :
    (∃ outcome files s e, (program C call).play O w.config.files w.state = ⟨.ok outcome, files, s⟩ ∧
      outcome.terminal = some e ∧ s.index .terminal a.operationId = some e) ↔ Converges C i d w.state call a.operationId := by
  have hrecord : OnRecord C a result i w.state := ⟨(stands_of_runs hw).holds, hresult, hintent, hbound, honly⟩
  have hlasts : Lasts C a result i d (Concluded (Converges C i d w.state call a.operationId) a.operationId) (program C call)
      w.config.files w.state := lasts_program hrecord hcall
  have hplay := hlasts.play hO
  cases hp : (program C call).play O w.config.files w.state with
  | mk x files s =>
    rw [hp] at hplay
    constructor
    · rintro ⟨outcome, files', s', e, heq, he, _⟩
      cases heq
      by_contra hbad
      rw [hplay.2 hbad outcome rfl] at he
      cases he
    · intro hgood
      obtain ⟨outcome, e, rfl, he, hindex⟩ := hplay.1 hgood
      exact ⟨outcome, files, s, e, rfl, he, hindex⟩

namespace Sample

theorem clock_late (s : Store String) :
    (∀ i, s.index .intent "rollback" = some i → CleanupIntent.recordedAt i ≤ clock s) ∧
      ∀ r, s.index .receipt "rollback" = some r → CleanupReceipt.observedAt r ≤ clock s := by
  constructor
  · intro i hi
    refine Int.le_trans (Int.le_of_eq ?_) (Int.le_max_left _ _)
    rw [hi]
    rfl
  · intro r hr
    refine Int.le_trans (Int.le_of_eq ?_) (Int.le_max_right _ _)
    rw [hr]
    rfl

theorem answers_gone (outcome : ReceiptOutcome) (s : Store String) (p : Port String) :
    AnswersGone canon authority result intent (some outcome) s p ((oracle outcome true).answer s p) := by
  cases p with
  | clock => exact ⟨clock s, rfl, clock_late s⟩
  | verify x => cases x with
    | observation o i r => exact fun _ => rfl
    | _ => rfl
  | verifyNamed x => cases x with
    | observation o i r => exact fun _ => rfl
    | _ => rfl
  | cleanupRollback i => exact ⟨receipt i outcome, rfl, rfl, ⟨rfl, rfl, rfl, rfl, Int.le_refl _, rfl⟩, rfl⟩
  | reconcileRollbackCleanup i r =>
    exact ⟨observation true i r, rfl, rfl, rfl, fun hr => ⟨rfl, rfl, rfl, rfl, Int.le_refl _, hr, fun _ => rfl, rfl⟩⟩
  | _ => rfl

theorem only_intent {w : Coordinators String} (hw : Runs canon w) (hintent : w.state.index .intent "rollback" = some intent)
    (operationId : String) (i : CleanupIntent String) (hi : w.state.index .intent operationId = some i)
    (hd : i.digest canon = intent.digest canon) : i = intent := by
  have hkeyed : i.operationId = operationId := (stands_of_runs hw).holds.keyed hi
  have hop : i.operationId = "rollback" := (String.append_right_inj _).mp hd
  rw [← hkeyed, hop, hintent] at hi
  cases hi
  rfl

/-- Both records of the cleanup are in the journal. -/
def recorded (w : Coordinators String) : Bool :=
  decide (w.state.index .result "rollback" = some result ∧ w.state.index .intent "rollback" = some intent)

theorem recorded_run (turns : List (Turn (Call String) (journal (D := String))))
    (h : (follow (program canon) (fun _ _ => true) turns (Coordinators.idle Store.empty)).map recorded = some true) :
    ∃ w : Coordinators String, follow (program canon) (fun _ _ => true) turns (Coordinators.idle Store.empty) = some w ∧
      Runs canon w ∧ w.state.index .result "rollback" = some result ∧ w.state.index .intent "rollback" = some intent := by
  obtain ⟨w, hw, hr⟩ := Option.map_eq_some_iff.mp h
  exact ⟨w, hw, (follow_reaches hw).mono fun _ _ _ => trivial, of_decide_eq_true hr⟩

/-- A coordinator claims the cleanup and crashes before it deletes. -/
def claimed : List (Turn (Call String) (journal (D := String))) :=
  [.start (.execute config "graduation"), .steps (oracle .applied true) 0 26, .crash 0]

/-- Then a recovery finds that the ref is still there. -/
def seen : List (Turn (Call String) (journal (D := String))) :=
  claimed ++ [.start (.recover authority result intent), .steps (oracle .applied false) 1 82]

end Sample

/-- A claim without a deletion is recovered. -/
theorem cleanup_converges_claimed :
    ∃ (w : Coordinators String) (outcome : Outcome String) (files : Files NoFile) (s : Store String) (e : TerminalEvidence String),
      Runs Sample.canon w ∧
      (program Sample.canon (.recover Sample.authority Sample.result Sample.intent)).play (Sample.oracle .applied true)
        w.config.files w.state = ⟨.ok outcome, files, s⟩ ∧
      outcome.terminal = some e ∧ s.index .terminal "rollback" = some e := by
  obtain ⟨w, hw, hruns, hresult, hintent⟩ := Sample.recorded_run Sample.claimed (by decide)
  have hgood : (follow (program Sample.canon) (fun _ _ => true) Sample.claimed (Coordinators.idle Store.empty)).map
      (fun w => decide ((w.state.owner (Sample.intent.digest Sample.canon)).isSome = true ∧
        w.state.index .receipt "rollback" = none)) = some true := by decide
  rw [hw] at hgood
  obtain ⟨howner, hreceipt⟩ : (w.state.owner (Sample.intent.digest Sample.canon)).isSome = true ∧
      w.state.index .receipt "rollback" = none := by simpa using hgood
  obtain ⟨m, hm⟩ := Option.isSome_iff_exists.mp howner
  have hconverges : Converges Sample.canon Sample.intent (some .applied) w.state
      (.recover Sample.authority Sample.result Sample.intent) "rollback" :=
    ⟨fun _ => howner, Coordinator.Settles.of_owner (a := Sample.authority) hreceipt hm⟩
  have hcall : (Call.recover Sample.authority Sample.result Sample.intent).For Sample.authority Sample.result Sample.intent :=
    ⟨rfl, rfl, rfl⟩
  obtain ⟨outcome, files, s, e, hplay⟩ := (cleanup_converges (a := Sample.authority) hruns hresult hintent (by decide)
    (Sample.only_intent hruns hintent) hcall (Sample.answers_gone .applied)).mpr hconverges
  exact ⟨w, outcome, files, s, e, hruns, hplay⟩

/-- An observation that the ref was there is the last: when the ref is gone, no call finds
that out. -/
theorem cleanup_not_converges :
    ∃ w : Coordinators String, Runs Sample.canon w ∧ w.state.index .result "rollback" = some Sample.result ∧
      w.state.index .intent "rollback" = some Sample.intent ∧
      (∀ s p, AnswersGone Sample.canon Sample.authority Sample.result Sample.intent (some .applied) s p
        ((Sample.oracle .applied true).answer s p)) ∧
      ∀ call ∈ [Call.recover Sample.authority Sample.result Sample.intent, .execute Sample.config "graduation"],
        ¬ ∃ outcome files s e, (program Sample.canon call).play (Sample.oracle .applied true) w.config.files w.state =
          ⟨.ok outcome, files, s⟩ ∧ outcome.terminal = some e ∧ s.index .terminal "rollback" = some e := by
  obtain ⟨w, hw, hruns, hresult, hintent⟩ := Sample.recorded_run Sample.seen (by decide +kernel)
  have hstuck : (follow (program Sample.canon) (fun _ _ => true) Sample.seen (Coordinators.idle Store.empty)).map (fun w =>
      [Call.recover Sample.authority Sample.result Sample.intent, .execute Sample.config "graduation"].all fun call =>
        (((program Sample.canon call).play (Sample.oracle .applied true) w.config.files w.state).state.index .terminal
          "rollback").isNone) = some true := by decide +kernel
  rw [hw] at hstuck
  refine ⟨w, hruns, hresult, hintent, Sample.answers_gone .applied, ?_⟩
  rintro call hcall ⟨outcome, files, s, e, hplay, _, he⟩
  have hnone := List.all_eq_true.mp (Option.some.inj hstuck) call hcall
  rw [hplay, he] at hnone
  cases hnone

end AvoCorrelate.MainRollback.Cleanup
