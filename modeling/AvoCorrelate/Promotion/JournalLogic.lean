import AvoCorrelate.Promotion.Service
/-!
# What the promotion journal does

The rules of one `promote` call, and the specifications of the journal calls under
them: what a call may publish, when it may create, write and remove a lease file,
and what it has in hand when it submits the PUT. Most actions are `Still`: they
touch no index, no lease file and not the target.
-/
open AvoLib

namespace AvoCorrelate.Promotion

open ExactCas (Sha256Digest GitObject)
open Service (PromoteCall authorizationBound receiptOf preconditionReceipt exact)

variable {C : Canon}

/-! ## Reading a log -/

abbrev Log (C : Canon) := List (Event (Rec C) (Port.Answer (C := C)))

/-- The event is a mutating PUT. -/
def puts : Event (Rec C) (Port.Answer (C := C)) → Bool
  | .port (.put _) _ => true
  | _ => false

/-- The event is an attempt to remove a lease file. -/
def removes : Event (Rec C) (Port.Answer (C := C)) → Bool
  | .port (.removeLease _) _ => true
  | _ => false

/-- The event is an attempt to create a lease file. -/
def creates : Event (Rec C) (Port.Answer (C := C)) → Bool
  | .port (.createLease _) _ => true
  | _ => false

def Without (f : Event (Rec C) (Port.Answer (C := C)) → Bool) (h : Log C) : Prop := ∀ e ∈ h, f e = false

theorem Without.cons {f : Event (Rec C) (Port.Answer (C := C)) → Bool} {h : Log C}
    {e : Event (Rec C) (Port.Answer (C := C))} (hn : Without f h) (he : f e = false) : Without f (e :: h) :=
  List.forall_mem_cons.mpr ⟨he, hn⟩

theorem Without.suffix {f : Event (Rec C) (Port.Answer (C := C)) → Bool} {h h' : Log C} (hn : Without f h')
    (hs : h <:+ h') : Without f h := fun e he => hn e (hs.mem he)

/-- An action that touches no index, no lease file and not the target. -/
def Still : Action (Rec C) (Port C) → Prop
  | .read _ => True
  | .publish _ _ => False
  | .port (.createLease _) => False
  | .port (.writeLease _) => False
  | .port (.removeLease _) => False
  | .port (.put _) => False
  | .port _ => True

/-- An action of recording `v` under `k`. -/
def Recording (k : Key) (v : Rec C k) (a : Action (Rec C) (Port C)) : Prop := Still a ∨ a = .publish k v

/-- Any action that is none of a lease file or the target. -/
def Journaling : Action (Rec C) (Port C) → Prop
  | .port (.createLease _) => False
  | .port (.writeLease _) => False
  | .port (.removeLease _) => False
  | .port (.put _) => False
  | _ => True

def Putless : Action (Rec C) (Port C) → Prop
  | .port (.put _) => False
  | _ => True

variable {a : Action (Rec C) (Port C)}

theorem journaling_of_still (h : Still a) : Journaling a := by
  cases a with
  | read k => trivial
  | publish k v => trivial
  | port p => cases p <;> trivial

theorem journaling_of_recording {k : Key} {v : Rec C k} (h : Recording k v a) : Journaling a := by
  rcases h with h | rfl
  · exact journaling_of_still h
  · trivial

theorem putless_of_journaling (h : Journaling a) : Putless a := by
  cases a with
  | read k => trivial
  | publish k v => trivial
  | port p => cases p <;> trivial

theorem Journaling.keeps {f : Event (Rec C) (Port.Answer (C := C)) → Bool}
    (hf : f = puts ∨ f = removes ∨ f = creates) (h : Log C) (e : Event (Rec C) (Port.Answer (C := C)))
    (hn : Without f h) (he : Journaling e.action) : Without f (e :: h) := by
  refine hn.cons ?_
  cases e with
  | read k r => rcases hf with rfl | rfl | rfl <;> rfl
  | publish k v r => rcases hf with rfl | rfl | rfl <;> rfl
  | port p r =>
    cases p <;> first | (rcases hf with rfl | rfl | rfl <;> rfl) | exact (he : False).elim

theorem Putless.keeps (h : Log C) (e : Event (Rec C) (Port.Answer (C := C))) (hn : Without puts h)
    (he : Putless e.action) : Without puts (e :: h) := by
  refine hn.cons ?_
  cases e with
  | read k r => rfl
  | publish k v r => rfl
  | port p r => cases p <;> first | rfl | exact (he : False).elim

/-! ## What a call has in hand -/

structure Scoped (call : PromoteCall) (l : Lease) : Prop where
  operation : l.operationId = call.operationId
  repository : l.repositoryDigest = call.bundle.repositoryDigest
  target : l.targetRef = call.bundle.targetRef

/-- The call created this lease file, under an identity it was handed. -/
structure Made (call : PromoteCall) (h : Log C) (l : Lease) : Prop where
  created : .port (.createLease l) .created ∈ h
  named : .port .freshIdentity l.identity ∈ h
  scope : Scoped call l

/-- The call made its lease and wrote it, its evidence is durable, and the call has
not tried to remove it. -/
structure Leased (call : PromoteCall) (F : Files (Rec C)) (h : Log C) (l : Lease) : Prop where
  made : Made call h l
  wrote : .port (.writeLease l) .written ∈ h
  evidence : ∃ e, F (.leaseEvidence call.operationId) = .bound e ∧ e.toLease = l
  unreleased : Without removes h

/-- The intent names the call's operation, target and bundle, and its lease. -/
structure IntentBound (call : PromoteCall) (l : Lease) (i : Intent C) : Prop where
  operation : i.operationId = call.operationId
  repository : i.repositoryDigest = call.bundle.repositoryDigest
  target : i.targetRef = call.bundle.targetRef
  bundle : i.bundleDigest = call.bundleDigest
  candidate : i.candidateDigest = call.bundle.candidateDigest
  snapshot : i.baseCommit = call.bundle.commit ∧ i.baseTree = call.bundle.tree ∧
    i.protectionEvidenceDigest = call.bundle.protectionEvidenceDigest ∧
    i.controllerConfigDigest = call.bundle.controllerConfigDigest ∧
    i.evidenceManifestDigest = call.bundle.evidenceManifestDigest ∧
    i.publicationEvidenceDigest = call.bundle.sourceProvenanceDigest
  publication : call.publication.repositoryDigest = i.repositoryDigest ∧ call.publication.baseCommit = i.baseCommit ∧
    call.publication.baseTree = i.baseTree ∧ call.publication.candidateDigest = i.candidateDigest ∧
    call.publication.candidateRef = i.candidateRef ∧ call.publication.candidateCommit = i.candidateCommit ∧
    call.publication.candidateTree = i.candidateTree ∧
    call.publication.publicationEvidenceDigest = i.publicationEvidenceDigest
  leaseIdentity : i.controllerLeaseIdentity = l.identity
  leaseDigest : i.controllerLeaseDigest = l.digest C

/-- The replay of the call's bundle said that it would apply. -/
def Replayed (call : PromoteCall) (h : Log C) : Prop :=
  ∃ r : ReplayReport, .port (.replay call.bundle call.bundleDigest) (.returned r) ∈ h ∧ r.outcome = .wouldApply

structure Prepared (call : PromoteCall) (F : Files (Rec C)) (h : Log C) (l : Lease) (i : Intent C) : Prop where
  leased : Leased call F h l
  bound : IntentBound call l i
  replayed : Replayed call h
  intent : F (.intent call.operationId) = .bound i

/-- All that a call has in hand when it submits the PUT. -/
structure Ready (call : PromoteCall) (F : Files (Rec C)) (h : Log C) (l : Lease) (i : Intent C)
    (a : MutationAuthorization) : Prop where
  prepared : Prepared call F h l i
  authorization : F (.mutationAuthorization call.operationId) = .bound a
  authorizes : authorizationBound i a
  unsubmitted : Without puts h

/-- A receipt of the operation is durable that does not ask for reconciliation. -/
def Resolved (F : Files (Rec C)) (op : Sha256Digest) : Prop :=
  ∃ r, F (.receipt op) = .bound r ∧ r.outcome ≠ .reconciliationRequired

/-- Where a receipt comes from: the call's preconditions failed before its PUT, or
the provider reported on the durable intent, and a success is an exact merge. -/
def ReceiptFrom (F : Files (Rec C)) (h : Log C) (op : Sha256Digest) (r : Receipt C) : Prop :=
  ∃ i, F (.intent op) = .bound i ∧ r.operationId = i.operationId ∧
    ((∃ message, r.toReceiptBody = preconditionReceipt i message ∧ Without puts h) ∨
      ∃ m rec, .port (.reconcile i) (.returned rec) ∈ h ∧ r.toReceiptBody = receiptOf i m rec r.outcome ∧
        (r.outcome.success = true → exact rec i))

/-- When a call may remove a lease file: it has just read there the lease that it
made itself, and it submitted no PUT or its operation is resolved; or the lease of
its operation, whose receipt is durable. -/
def Removable (call : PromoteCall) (F : Files (Rec C)) (h : Log C) (key : Sha256Digest) : Prop :=
  ∃ current, h.head? = some (.port (.readLease key) (.found current)) ∧
    ((∃ l, Made call h l ∧ key = l.key C ∧ Journal.sameLease C current l ∧
        (Without puts h ∨ Resolved F call.operationId)) ∨
      ∃ r l, F (.receipt call.operationId) = .bound r ∧ .port (.readLease key) (.found l) ∈ h ∧
        l.operationId = call.operationId ∧ Journal.sameLease C current l)

/-- What a call checked of its arguments before it creates its lease file. -/
structure Entered (call : PromoteCall) : Prop where
  seconds : 0 < call.leaseSeconds
  publication : Service.publicationBound call.publication call.bundle
  target : trimmed call.bundle.targetRef = true

/-! ## The rules of a call -/

def Publishes (call : PromoteCall) (F : Files (Rec C)) (h : Log C) : (k : Key) → Rec C k → Prop
  | .leaseEvidence op, e => op = call.operationId ∧ Made call h e.toLease
  | .intent op, i => op = call.operationId ∧ ∃ l, Leased call F h l ∧ IntentBound call l i ∧ Replayed call h
  | .mutationAuthorization op, a =>
    op = call.operationId ∧ ∃ l i, Prepared call F h l i ∧ authorizationBound i a ∧ Without puts h
  | .receipt op, r => op = call.operationId ∧ ReceiptFrom F h op r
  | _, _ => False

def rules (call : PromoteCall) (F : Files (Rec C)) : Rules (Rec C) (Port.Answer (C := C)) := fun h act =>
  match act with
  | .read _ => True
  | .publish k v => Publishes call F h k v
  | .port (.createLease l) =>
    .port .freshIdentity l.identity ∈ h ∧ Scoped call l ∧ Without creates h ∧ Without puts h ∧ Without removes h ∧ Entered call
  | .port (.writeLease l) => Made call h l
  | .port (.put i) => ∃ l a, Ready call F h l i a
  | .port (.removeLease key) => Removable call F h key
  | .port _ => True

variable {call : PromoteCall} {F : Files (Rec C)} {h h' : Log C}

theorem rules_still (ha : Still a) : rules call F h a := by
  cases a with
  | read k => trivial
  | publish k v => exact ha.elim
  | port p => cases p <;> trivial

theorem permits_still : Permits (rules call F) Still h := fun _ _ _ ha => rules_still ha

/-! ### What longer logs keep -/

theorem Made.suffix {l : Lease} (hm : Made call h l) (hs : h <:+ h') : Made call h' l :=
  ⟨hs.mem hm.created, hs.mem hm.named, hm.scope⟩

theorem Replayed.suffix (hr : Replayed call h) (hs : h <:+ h') : Replayed call h' := by
  obtain ⟨r, hm, ho⟩ := hr
  exact ⟨r, hs.mem hm, ho⟩

theorem Leased.cons {l : Lease} {e : Event (Rec C) (Port.Answer (C := C))} (hl : Leased call F h l)
    (he : removes e = false) : Leased call F (e :: h) l where
  made := hl.made.suffix (List.suffix_cons e h)
  wrote := List.mem_cons_of_mem _ hl.wrote
  evidence := hl.evidence
  unreleased := hl.unreleased.cons he

theorem Prepared.cons {l : Lease} {i : Intent C} {e : Event (Rec C) (Port.Answer (C := C))}
    (hp : Prepared call F h l i) (he : removes e = false) : Prepared call F (e :: h) l i where
  leased := hp.leased.cons he
  bound := hp.bound
  replayed := hp.replayed.suffix (List.suffix_cons e h)
  intent := hp.intent

theorem removes_of_journaling {e : Event (Rec C) (Port.Answer (C := C))} (he : Journaling e.action) :
    removes e = false := by
  cases e with
  | read k r => rfl
  | publish k v r => rfl
  | port p r => cases p <;> first | rfl | exact (he : False).elim

theorem Leased.keeps {l : Lease} (h : Log C) (e : Event (Rec C) (Port.Answer (C := C))) (hl : Leased call F h l)
    (he : Journaling e.action) : Leased call F (e :: h) l := hl.cons (removes_of_journaling he)

theorem Prepared.keeps {l : Lease} {i : Intent C} (h : Log C) (e : Event (Rec C) (Port.Answer (C := C)))
    (hp : Prepared call F h l i) (he : Journaling e.action) : Prepared call F (e :: h) l i :=
  hp.cons (removes_of_journaling he)

/-! ## Steps -/

section Steps
variable {ε α β : Type} {I : Log C → Prop} {Q : Log C → α → Prop}
  {R : Log C → Except ε β → Prop} {p : Prog (Rec C) (Port.Answer (C := C)) ε α}
  {f : α → Prog (Rec C) (Port.Answer (C := C)) ε β}

theorem step_safe (hI : ∀ h e, I h → Journaling e.action → I (e :: h)) (h0 : I h)
    (hp : p.Safe F (rules call F) (Prog.Returning Q) h) (hd : p.Does Journaling)
    (hf : ∀ h' y, I h' → Q h' y → (f y).Safe F (rules call F) R h') (herr : ∀ h' e, I h' → R h' (.error e)) :
    (p >>= f).Safe F (rules call F) R h :=
  (hp.keeps hd hI h0).bind (fun h' y hx => hf h' y hx.1 hx.2) fun h' e hx => herr h' e hx.1

theorem still_safe (hd : p.Does Still) : p.Safe F (rules call F) (Prog.Returning fun _ _ => True) h :=
  (hd.safe permits_still).mono fun _ x _ => by cases x <;> trivial

theorem Does.journaling (hd : p.Does Still) : p.Does Journaling := hd.mono fun _ => journaling_of_still

theorem require_safe {c : Prop} [Decidable c] {e : ε} :
    (Prog.require c e : Prog (Rec C) (Port.Answer (C := C)) ε Unit).Safe F (rules call F) (Prog.Returning fun _ _ => c) h := by
  unfold Prog.require
  split
  · next hc => exact hc
  · trivial

end Steps

theorem orRaise_does {α : Type} {S : Action (Rec C) (Port C) → Prop} (a : Answer α) : (a.orRaise : Code C α).Does S := by
  cases a <;> trivial

theorem readClock_does : (readClock : Code C Instant).Does Still := by
  refine ⟨trivial, fun r => ?_⟩
  cases r <;> trivial

namespace Journal

/-! ## Records -/

theorem read_does (t : Texts) (k : Key) : (read t k : Code C (Option (Rec C k))).Does Still := by
  refine ⟨trivial, fun r => ?_⟩
  cases r with
  | missing | malformed => trivial
  | found v =>
    dsimp only
    split <;> trivial

theorem read_safe (t : Texts) (k : Key) :
    (read t k).Safe F (rules call F)
      (Prog.Returning fun h' r => (∀ v, r = some v → F k = .bound v) ∧ (r = none → .read k .missing ∈ h')) h := by
  refine ⟨trivial, fun r hr => ?_⟩
  cases r with
  | missing => exact ⟨by simp, by simp⟩
  | malformed => trivial
  | found v =>
    dsimp only
    split
    · exact ⟨fun w hw => by cases hw; exact hr, by simp⟩
    · trivial

theorem record_does (t : Texts) (k : Key) (v : Rec C k) : (record t k v).Does (Recording k v) := by
  refine ⟨.inl trivial, fun r => ?_⟩
  cases r with
  | raised m => trivial
  | returned u =>
    refine ⟨.inr rfl, fun r => ?_⟩
    cases r with
    | created | failed | lost => trivial
    | taken =>
      refine ⟨.inl trivial, fun r => ?_⟩
      cases r with
      | missing | malformed => trivial
      | found old =>
        dsimp only
        split <;> trivial

theorem record_safe (t : Texts) {k : Key} {v : Rec C k} (hpub : ∀ r, Publishes call F (.port (.install k) r :: h) k v) :
    (record t k v).Safe F (rules call F) (Prog.Returning fun _ _ => F k = .bound v) h := by
  refine ⟨trivial, fun r => ?_⟩
  cases r with
  | raised m => trivial
  | returned u =>
    refine ⟨hpub _, fun r hr => ?_⟩
    cases r with
    | created => exact hr
    | failed | lost => trivial
    | taken =>
      refine ⟨trivial, fun r hold => ?_⟩
      cases r with
      | missing | malformed => trivial
      | found old =>
        dsimp only
        split
        · next he => subst he; exact hold
        · trivial

/-! ## Leases -/

theorem assertCurrent_does (l : Lease) : (assertCurrent l : Code C Unit).Does Still := by
  refine ⟨trivial, fun r => ?_⟩
  cases r with
  | missing | malformed => trivial
  | found current => exact Prog.Does.require.bind fun _ => ⟨trivial, fun _ => Prog.Does.require⟩

theorem removeLease_does (key : Sha256Digest) : (removeLease key : Code C Unit).Does Putless := by
  refine ⟨trivial, fun r => ?_⟩
  cases r <;> trivial

theorem releaseLease_does (l : Lease) : (releaseLease l : Code C Unit).Does Putless := by
  refine ⟨trivial, fun r => ?_⟩
  cases r with
  | missing | malformed => trivial
  | found current =>
    dsimp only
    split
    · exact removeLease_does _
    · trivial

theorem readLease_does (d : Sha256Digest) (ref : String) : (readLease d ref : Code C (Option Lease)).Does Still := by
  unfold readLease
  split
  · refine ⟨trivial, fun r => ?_⟩
    cases r with
    | missing | malformed => trivial
    | found l =>
      dsimp only
      split <;> trivial
  · trivial

theorem releaseMatchingLease_does (d : Sha256Digest) (ref : String) (op : Sha256Digest) (id : String) (e : Sha256Digest) :
    (releaseMatchingLease d ref op id e : Code C Bool).Does Putless := by
  refine ((readLease_does d ref).mono fun _ h => putless_of_journaling (journaling_of_still h)).bind fun o => ?_
  cases o with
  | none => trivial
  | some l => exact Prog.Does.require.bind fun _ => (releaseLease_does l).bind fun _ => trivial

theorem removeLease_safe {key : Sha256Digest} (hr : Removable call F h key) :
    (removeLease key : Code C Unit).Safe F (rules call F) (fun _ _ => True) h := by
  refine ⟨hr, fun r => ?_⟩
  cases r <;> trivial

theorem releaseLease_own {l : Lease} (hm : Made call h l) (hn : Without puts h ∨ Resolved F call.operationId) :
    (releaseLease l : Code C Unit).Safe F (rules call F) (fun _ _ => True) h := by
  refine ⟨trivial, fun r => ?_⟩
  cases r with
  | missing | malformed => trivial
  | found current =>
    dsimp only
    split
    · next hsame =>
      refine removeLease_safe ⟨current, rfl, .inl ⟨l, hm.suffix (List.suffix_cons _ _), rfl, hsame, ?_⟩⟩
      exact hn.imp (fun hn => hn.cons rfl) id
    · trivial

theorem releaseMatchingLease_safe {d : Sha256Digest} {ref : String} {id : String} {e : Sha256Digest} {r : Receipt C}
    (hr : F (.receipt call.operationId) = .bound r) :
    (releaseMatchingLease d ref call.operationId id e : Code C Bool).Safe F (rules call F) (fun _ _ => True) h := by
  have hread : (readLease d ref : Code C (Option Lease)).Safe F (rules call F)
      (Prog.Returning fun h' o => ∀ l, o = some l → .port (.readLease (l.key C)) (.found l) ∈ h') h := by
    unfold readLease
    split
    · refine ⟨trivial, fun r => ?_⟩
      cases r with
      | missing => exact fun l hl => (nomatch hl)
      | malformed => trivial
      | found l =>
        dsimp only
        split
        · next hscope =>
          intro l' hl
          cases hl
          rw [Lease.key, hscope.1, hscope.2]
          simp
        · trivial
    · trivial
  refine hread.bind (fun h₁ o ho => ?_) fun _ _ _ => trivial
  cases o with
  | none => trivial
  | some l =>
    refine Prog.Safe.require_bind (fun hop => ?_) trivial
    refine Prog.Safe.bind (Q := fun _ _ => True) ⟨trivial, fun r' => ?_⟩ (fun _ _ _ => trivial) fun _ _ _ => trivial
    cases r' with
    | missing | malformed => trivial
    | found current =>
      dsimp only
      split
      · next hsame =>
        exact removeLease_safe ⟨current, rfl, .inr ⟨r, l, hr, List.mem_cons_of_mem _ (ho l rfl), hop.1, hsame⟩⟩
      · trivial

theorem writeLease_safe {l : Lease} (hnamed : .port .freshIdentity l.identity ∈ h) (hscope : Scoped call l)
    (hc : Without creates h) (hp : Without puts h) (hr : Without removes h) (he : Entered call) :
    (writeLease l).Safe F (rules call F) (fun h' x => Without puts h' ∧
      ∀ u, x = .ok u → Made call h' l ∧ .port (.writeLease l) .written ∈ h' ∧ Without removes h') h := by
  refine ⟨⟨hnamed, hscope, hc, hp, hr, he⟩, fun r => ?_⟩
  cases r with
  | «exists» => exact ⟨hp.cons rfl, fun _ hx => (nomatch hx)⟩
  | failed => exact ⟨hp.cons rfl, fun _ hx => (nomatch hx)⟩
  | created =>
    have hmade : Made call (.port (.createLease l) .created :: h) l :=
      ⟨List.mem_cons_self, List.mem_cons_of_mem _ hnamed, hscope⟩
    refine ⟨hmade, fun r => ?_⟩
    cases r with
    | written =>
      refine ⟨(hp.cons rfl).cons rfl, fun _ _ => ⟨hmade.suffix (List.suffix_cons _ _), List.mem_cons_self, ?_⟩⟩
      exact (hr.cons rfl).cons rfl
    | torn | unsynced => exact ⟨(hp.cons rfl).cons rfl, fun _ hx => (nomatch hx)⟩

theorem evidenceLease_safe {l : Lease} {e : LeaseEvidence C} (he : e.toLease = l) (hm : Made call h l)
    (hp : Without puts h) (hr : Without removes h) :
    (evidenceLease l e).Safe F (rules call F) (fun h' x => Without puts h' ∧ ∀ u, x = .ok u →
      Made call h' l ∧ (∃ e, F (.leaseEvidence call.operationId) = .bound e ∧ e.toLease = l) ∧
        Without removes h' ∧ h <:+ h') h := by
  have hop : e.operationId = call.operationId := by
    have := hm.scope.operation
    rw [← he] at this
    exact this
  have hrec : (recordLeaseEvidence e).Safe F (rules call F)
      (Prog.Returning fun _ _ => F (.leaseEvidence e.operationId) = .bound e) h :=
    record_safe _ fun r => ⟨hop, he ▸ hm.suffix (List.suffix_cons _ _)⟩
  have hkeep := hrec.suffix.keeps (S := Journaling) (I := fun h' => Without puts h' ∧ Without removes h')
    ((record_does _ _ _).mono fun _ => journaling_of_recording)
    (fun h' e' hI ha => ⟨Journaling.keeps (.inl rfl) h' e' hI.1 ha, Journaling.keeps (.inr (.inl rfl)) h' e' hI.2 ha⟩)
    ⟨hp, hr⟩
  refine Prog.Safe.attempt_bind hkeep fun h₁ x hx => ?_
  obtain ⟨⟨hp₁, hr₁⟩, hsuf, hok⟩ := hx
  cases x with
  | ok u => exact ⟨hp₁, fun _ _ => ⟨hm.suffix hsuf, ⟨e, hop ▸ hok, he⟩, hr₁, hsuf⟩⟩
  | error err =>
    have hrel := (releaseLease_own (C := C) (F := F) (hm.suffix hsuf) (.inl hp₁)).keeps (I := Without puts)
      (releaseLease_does l) Putless.keeps hp₁
    refine Prog.Safe.attempt_bind hrel fun h₂ y hy => ?_
    cases y with
    | ok _ => exact ⟨hy.1, fun _ hx => (nomatch hx)⟩
    | error _ => exact ⟨hy.1, fun _ hx => (nomatch hx)⟩

theorem acquireLease_safe (hpub : Service.publicationBound call.publication call.bundle) (hp : Without puts h)
    (hr : Without removes h) (hc : Without creates h) :
    (acquireLease call.bundle.repositoryDigest call.bundle.targetRef call.operationId call.leaseSeconds : Code C Lease).Safe F
      (rules call F) (fun h' x => Without puts h' ∧ ∀ l, x = .ok l → Leased call F h' l) h := by
  have herr : ∀ (h' : Log C) (e : Exc), Without puts h' →
      Without puts h' ∧ ∀ l, (.error e : Except Exc Lease) = .ok l → Leased call F h' l :=
    fun h' e hn => ⟨hn, fun _ hx => (nomatch hx)⟩
  let I : Log C → Prop := fun h => Without puts h ∧ Without removes h ∧ Without creates h
  have hI : ∀ h e, I h → Journaling e.action → I (e :: h) := fun h e hi ha =>
    ⟨Journaling.keeps (.inl rfl) h e hi.1 ha, Journaling.keeps (.inr (.inl rfl)) h e hi.2.1 ha,
      Journaling.keeps (.inr (.inr rfl)) h e hi.2.2 ha⟩
  refine step_safe hI ⟨hp, hr, hc⟩ require_safe Prog.Does.require (fun h₁ _ h₁I hseconds => ?_) fun h' e hi => herr h' e hi.1
  refine step_safe hI h₁I require_safe Prog.Does.require (fun h₂ _ h₂I htrim => ?_) fun h' e hi => herr h' e hi.1
  refine step_safe hI h₂I (still_safe readClock_does) (Does.journaling readClock_does) (fun h₃ acquired h₃I _ => ?_)
    fun h' e hi => herr h' e hi.1
  refine Prog.Safe.bind (Q := fun h' x => ∃ identity, x = .ok identity ∧ h' = .port .freshIdentity identity :: h₃)
    ⟨trivial, fun identity => ⟨identity, rfl, rfl⟩⟩ ?_ fun h' e hx => (nomatch hx.choose_spec.1)
  rintro h' identity ⟨_, hx, rfl⟩
  obtain rfl := Except.ok.inj hx
  have h₄I : I (.port .freshIdentity identity :: h₃) := hI _ _ h₃I trivial
  have hnamed : (.port .freshIdentity identity : Event (Rec C) (Port.Answer (C := C))) ∈ .port .freshIdentity identity :: h₃ :=
    List.mem_cons_self
  let l : Lease := ⟨call.operationId, call.bundle.repositoryDigest, call.bundle.targetRef, identity, acquired,
    acquired + call.leaseSeconds⟩
  let J : Log C → Prop := fun h => I h ∧ .port .freshIdentity identity ∈ h
  have hJ : ∀ h e, J h → Journaling e.action → J (e :: h) := fun h e hj ha => ⟨hI h e hj.1 ha, List.mem_cons_of_mem _ hj.2⟩
  refine step_safe hJ ⟨h₄I, hnamed⟩ (read_safe _ _) (Does.journaling (read_does _ _)) (fun h₅ existing h₅J _ => ?_)
    fun h' e hj => herr h' e hj.1.1
  refine step_safe hJ h₅J require_safe Prog.Does.require (fun h₆ _ h₆J _ => ?_) fun h' e hj => herr h' e hj.1.1
  refine (writeLease_safe (l := l) h₆J.2 ⟨rfl, rfl, rfl⟩ h₆J.1.2.2 h₆J.1.1 h₆J.1.2.1 ⟨hseconds, hpub, htrim⟩).bind
    (fun h₇ _ h₇Q => ?_) fun h' e hq => herr h' e hq.1
  obtain ⟨hmade, hwrote, hnone⟩ := h₇Q.2 _ rfl
  have hp₇ : Without puts h₇ := h₇Q.1
  refine Prog.Safe.ofOption_bind (fun e he => ?_) (herr h₇ _ hp₇)
  have hel : e.toLease = l := by
    split at he
    · cases he; rfl
    · cases he
  refine (evidenceLease_safe hel hmade hp₇ hnone).bind (fun h₈ _ h₈Q => ?_) fun h' e hq => herr h' e hq.1
  obtain ⟨hmade', hevidence, hnone', hsuf⟩ := h₈Q.2 _ rfl
  refine ⟨h₈Q.1, fun l' hl => ?_⟩
  cases hl
  exact ⟨hmade', hsuf.mem hwrote, hevidence, hnone'⟩

end Journal

end AvoCorrelate.Promotion
