import AvoCorrelate.ExactCas.Recovery
import AvoCorrelate.ExactCas.Dispatch
/-!
# Completions

The journal open to everybody: any record call with any record, next to the
controllers, interleaved and crashing at will. A completion that a read returns
closes a whole chain of records; and once an exact observation is durable, every
controller call that is let run to its end completes the operation, always with
the same completion.
-/
open AvoLib

namespace AvoCorrelate.ExactCas

variable {H : Doc → Sha256Digest}

/-! ## The open journal -/

/-- A call to the journal, or to a controller over it. -/
inductive JournalCall (H : Doc → Sha256Digest)
  | recordActivation (activation : Activation)
  | recordAuthorization (authorization : Authorization H)
  | recordIntent (intent : Intent H)
  | recordDispatchStarted (marker : DispatchStarted H)
  | claimDispatchStarted (marker : DispatchStarted H)
  | recordReceipt (receipt : Receipt H)
  | recordPostState (observation : PostState H)
  | recordReconciliation (reconciliation : Reconciliation H)
  | recordCompletion (completion : Completion)
  | readCompletion (operationId : Sha256Digest)
  | execute (authorization : Authorization H)

inductive Reply
  | recorded
  | claimed (created : Bool)
  | completion (completion : Option Completion)
  | result (result : ControllerResult)

def JournalCall.program (L : Limits H) : JournalCall H → Code H Reply
  | .recordActivation activation => do
    Journal.recordActivation L activation
    return .recorded
  | .recordAuthorization authorization => do
    Journal.recordAuthorization L authorization
    return .recorded
  | .recordIntent intent => do
    Journal.recordIntent L intent
    return .recorded
  | .recordDispatchStarted marker => do
    Journal.recordDispatchStarted L marker
    return .recorded
  | .claimDispatchStarted marker => do
    let created ← Journal.claimDispatchStarted L marker
    return .claimed created
  | .recordReceipt receipt => do
    Journal.recordReceipt L receipt
    return .recorded
  | .recordPostState observation => do
    Journal.recordPostState L observation
    return .recorded
  | .recordReconciliation reconciliation => do
    Journal.recordReconciliation L reconciliation
    return .recorded
  | .recordCompletion completion => do
    Journal.recordCompletion L completion
    return .recorded
  | .readCompletion operationId => do
    let completion ← Journal.readCompletion operationId
    return .completion completion
  | .execute authorization => do
    let result ← Controller.execute L authorization
    return .result result

abbrev JournalWorld (H : Doc → Sha256Digest) := Config (JournalCall H) (Rec H) (Port.Answer (H := H)) Exc Reply

abbrev JournalThread (H : Doc → Sha256Digest) := Thread (JournalCall H) (Rec H) (Port.Answer (H := H)) Exc Reply

abbrev JournalMove (H : Doc → Sha256Digest) := Move (JournalCall H) (Port.Answer (H := H))

/-- Worlds that some run of journal calls reaches, from an empty journal. -/
def JournalRuns (L : Limits H) (w : JournalWorld H) : Prop :=
  Reaches (perform (JournalCall.program L)) (fun _ _ => True) (Config.idle fun _ => .absent) w

/-! ## What every call keeps to -/

/-- A record call publishes its own record, and only when the files support it. -/
def Recording (F : Files (Rec H)) (k : Key) (v : Rec H k) : Rules (Rec H) (Port.Answer (H := H)) := fun _ act =>
  Quiet act ∨ Writes k v act ∧ Supported F k v

def journalRules : JournalCall H → Files (Rec H) → Rules (Rec H) (Port.Answer (H := H))
  | .recordActivation a, F => Recording F .activation a
  | .recordAuthorization a, F => Recording F (.authorization a.operationId) a
  | .recordIntent i, F => Recording F (.intent i.operationId) i
  | .recordDispatchStarted m, F => Recording F (.dispatchStarted m.operationId) m
  | .claimDispatchStarted m, F => Recording F (.dispatchStarted m.operationId) m
  | .recordReceipt r, F => Recording F (.receipt r.operationId) r
  | .recordPostState o, F => Recording F (.postState o.operationId) o
  | .recordReconciliation x, F => Recording F (.reconciliation x.operationId) x
  | .recordCompletion c, F => Recording F (.completion c.operationId) c
  | .readCompletion _, _ => fun _ act => Quiet act
  | .execute a, F => rules a F

/-- A read returns what is in the file. -/
def journalPost : JournalCall H → Files (Rec H) → Log H → Except Exc Reply → Prop
  | .readCompletion op, F => Prog.Returning fun _ reply => ∀ c, reply = .completion (some c) → F (.completion op) = .bound c
  | _, _ => Prog.Returning fun _ _ => True

section Rules
variable {F : Files (Rec H)} {h : Log H} {k : Key} {v : Rec H k}

theorem recording_quiet : Permits (Recording F k v) Quiet h := fun _ _ _ hq => .inl hq

theorem recording_writes (hs : Supported F k v) : Permits (Recording F k v) (Writes k v) h :=
  fun _ _ _ hw => .inr ⟨hw, hs⟩

theorem Recording.publish {k' : Key} {v' : Rec H k'} (hr : Recording F k v h (.publish k' v')) :
    k' = k ∧ Supported F k' v' := by
  rcases hr with hq | ⟨hq | hi | hp, hs⟩
  · exact hq.elim
  · exact hq.elim
  · cases hi
  · cases hp
    exact ⟨rfl, hs⟩

theorem journalRules_supported (call : JournalCall H) (F : Files (Rec H)) (h : Log H) (k : Key) (v : Rec H k)
    (hr : journalRules call F h (.publish k v)) : Supported F k v := by
  cases call with
  | readCompletion op => exact hr.elim
  | execute a => exact hr.2.1
  | _ => exact (Recording.publish (h := h) hr).2

theorem journalCall_safe (L : Limits H) (call : JournalCall H) (F : Files (Rec H)) (hl : Linked Supported F) :
    (call.program L).Safe F (journalRules call F) (journalPost call F) [] := by
  cases call with
  | recordActivation a => exact (Journal.recordActivation_safe a (recording_writes trivial)).seq fun _ _ _ _ => trivial
  | recordAuthorization a =>
    exact (Journal.recordAuthorization_safe a recording_quiet recording_writes).seq fun _ _ _ _ => trivial
  | recordIntent i => exact (Journal.recordIntent_safe i recording_quiet recording_writes).seq fun _ _ _ _ => trivial
  | recordDispatchStarted m =>
    refine Prog.Safe.seq (Q := fun _ _ => True) ?_ fun _ _ _ _ => trivial
    exact (Journal.claimDispatchStarted_safe m recording_quiet recording_writes).seq fun _ _ _ _ => trivial
  | claimDispatchStarted m =>
    exact (Journal.claimDispatchStarted_safe m recording_quiet recording_writes).seq fun _ _ _ _ => trivial
  | recordReceipt r => exact (Journal.recordReceipt_safe r recording_quiet recording_writes).seq fun _ _ _ _ => trivial
  | recordPostState o =>
    exact (Journal.recordPostState_safe o recording_quiet recording_writes).seq fun _ _ _ _ => trivial
  | recordReconciliation x =>
    exact (Journal.recordReconciliation_safe x recording_quiet recording_writes).seq fun _ _ _ _ => trivial
  | recordCompletion c =>
    exact (Journal.recordCompletion_safe c recording_quiet recording_writes).seq fun _ _ _ _ => trivial
  | readCompletion op =>
    refine (Journal.readChecked_safe _ _ _ fun _ _ _ hq => hq).seq fun _ c _ hc => ?_
    intro d hd
    cases hd
    exact hc.1 d rfl
  | execute a => exact (Controller.execute_safe L hl).seq fun _ _ _ _ => trivial

end Rules

structure JournalKnown (w : JournalWorld H) : Prop where
  sound : w.Sound fun _ => .absent
  linked : Linked Supported w.files
  obeys : w.Obeys (fun _ => .absent) Supported journalRules journalPost

theorem JournalRuns.known {L : Limits H} {w : JournalWorld H} (hw : JournalRuns L w) : JournalKnown w := by
  have hall : w.Sound (fun _ => .absent) ∧ Linked Supported w.files ∧
      w.Obeys (fun _ => .absent) Supported journalRules journalPost :=
    sound_obeys Supported.grows journalRules_supported (by intro k v h; cases h)
      (fun call F _ hl => journalCall_safe L call F hl) hw
  exact ⟨hall.1, hall.2.1, hall.2.2⟩

section Soundness
variable {L : Limits H} {w w' : JournalWorld H} {op : Sha256Digest} {r : Receipt H} {o : PostState H}

theorem JournalKnown.writing (hk : JournalKnown w) {i : Nat} {t : JournalThread H} {k : Key} {v : Rec H k}
    {next : Published → Code H Reply} (ht : w.threads[i]? = some t) (hst : t.status = .writing k v next) :
    journalRules t.call w.files t.log (.publish k v) := by
  have hsafe := (hk.sound.obeys hk.linked hk.obeys ht).2
  rw [hst] at hsafe
  exact hsafe.1

/-! ## A completion closes a chain -/

theorem JournalRuns.reconciling (hw : JournalRuns L w) (op : Sha256Digest) :
    w.files (.reconciliation op) ≠ .absent → ∃ r, w.files (.receipt op) = .bound r ∧ r.outcome = .ambiguous := by
  refine (hw.inv (fun w => JournalRuns L w ∧ (w.files (.reconciliation op) ≠ .absent →
    ∃ r, w.files (.receipt op) = .bound r ∧ r.outcome = .ambiguous)) ⟨.init, ?_⟩ ?_).2
  · exact fun h => absurd rfl h
  rintro w₁ m w₂ ⟨hw₁, ih⟩ _ hm
  have hk := hw₁.known
  have hgrows := hk.sound.perform_grows hm
  refine ⟨.step hw₁ trivial hm, fun hpresent => ?_⟩
  by_cases habsent : w₁.files (.reconciliation op) = .absent
  · obtain ⟨_, t, x, _, hrule⟩ := hk.sound.created hk.linked hk.obeys hm habsent hpresent
    obtain ⟨_, r, _, hr, _, hover⟩ := journalRules_supported _ _ _ _ _ hrule
    exact ⟨r, hgrows _ _ hr, hover.1⟩
  · obtain ⟨r, hr, hamb⟩ := ih habsent
    exact ⟨r, hgrows _ _ hr, hamb⟩

/-- The completion closes operation `op`: a whole chain with an exact
observation of main, over an applied receipt without a reconciliation or an
ambiguous one reconciled as applied, and it points to all of them. -/
def Completed (F : Files (Rec H)) (op : Sha256Digest) (c : Completion) : Prop :=
  ∃ act a i m r o, Chain F op act a i m r o ∧
    (o.observedRef.val = "refs/heads/main" ∧ o.observedCommit = o.scope.source.candidateCommit ∧
      o.observedTree = o.scope.source.candidateTree ∧ o.observedParents = [o.scope.source.baseCommit]) ∧
    (c.operationId = op ∧ c.activationDigest = act.activationDigest H ∧ c.receiptDigest = r.receiptDigest ∧
      c.postStateObservationDigest = o.canonicalDigest) ∧
    ((r.outcome = .applied ∧ F (.reconciliation op) = .absent ∧ c.reconciliationDigest = none) ∨
      (r.outcome = .ambiguous ∧ ∃ x, F (.reconciliation op) = .bound x ∧ x.operationId = op ∧ x.outcome = .applied ∧
        x.ambiguousReceipt = r.toReceiptBody ∧ x.observation = o.toPostStateBody ∧
        c.reconciliationDigest = some x.canonicalDigest))

theorem JournalRuns.completed (hw : JournalRuns L w) {c : Completion} (hc : w.files (.completion op) = .bound c) :
    Completed w.files op c := by
  have hl := hw.known.linked
  obtain ⟨hcop, r, o, x, hr, ho, hx, hexact, harm, hact, hreceipt, hobs, hrec⟩ := hl _ _ hc
  obtain ⟨act, a, i, m, hchain⟩ := exists_chain hl hr ho
  have hactivation : c.activationDigest = act.activationDigest H := by
    rw [hact, hchain.underMarker.1, hchain.underAuthorization.1, hchain.underActivation.1]
  refine ⟨act, a, i, m, r, o, hchain, ⟨o.observedRef.property, hexact⟩, ⟨hcop, hactivation, hreceipt, hobs⟩, ?_⟩
  rcases harm with happ | ⟨hamb, hobserved, hany⟩
  · refine .inl ⟨happ.1, ?_, by rw [hrec, if_pos happ]⟩
    by_contra hpresent
    obtain ⟨r', hr', hamb⟩ := hw.reconciling op hpresent
    cases hr.symm.trans hr'
    rw [happ.1] at hamb
    cases hamb
  · cases x with
    | none => cases hany
    | some y =>
      obtain ⟨hyop, r', o', hr', ho', hover⟩ := hl _ _ (hx y rfl)
      cases hr.symm.trans hr'
      cases ho.symm.trans ho'
      have hnot : ¬ Journal.AppliedArm r o (some y) := fun h => (nomatch h.2.2)
      refine .inr ⟨hamb, y, hx y rfl, hyop, by simpa using hany, hover.2.1, hover.2.2, ?_⟩
      rw [hrec, if_neg hnot]
      rfl

end Soundness

/-! ## The same completion -/

/-- A receipt that calls for a completion and an exact observation of it are
durable, and nobody reconciled them as anything but applied. -/
structure Observed (F : Files (Rec H)) (op : Sha256Digest) (r : Receipt H) (o : PostState H) : Prop where
  receipt : F (.receipt op) = .bound r
  accepted : r.outcome ≠ .rejected
  observation : F (.postState op) = .bound o
  topology : o.Exact
  reconciled : ∀ x, F (.reconciliation op) = .bound x → x.outcome = .applied

/-- The digest tells `o` from the other observations in the journal. -/
def Addressed (F : Files (Rec H)) (o : PostState H) : Prop :=
  ∀ op' o', F (.postState op') = .bound o' → o'.canonicalDigest = o.canonicalDigest → o' = o

/-- The move is no step of a direct call that records a reconciliation or a
completion of operation `op`. -/
def Steady (op : Sha256Digest) (w : JournalWorld H) (move : JournalMove H) : Prop :=
  ∀ (i : Nat) n (t : JournalThread H), move = .step i n → w.threads[i]? = some t →
    (∀ x, t.call = .recordReconciliation x → x.operationId ≠ op) ∧ ∀ c, t.call = .recordCompletion c → c.operationId ≠ op

section Convergence
open Controller
variable {L : Limits H} {F : Files (Rec H)} {w w' : JournalWorld H} {op : Sha256Digest} {r : Receipt H} {o : PostState H}
  {call : JournalCall H} {h : Log H}

theorem Observed.exactTopology (hobs : Observed F op r o) : exactTopology o := ⟨o.observedRef.property, hobs.topology⟩

theorem reconciliation_of_rule (hr : F (.receipt op) = .bound r) (ho : F (.postState op) = .bound o)
    (htopology : o.Exact) {x : Reconciliation H} (hcall : ∀ y, call = .recordReconciliation y → y.operationId ≠ op)
    (hrule : journalRules call F h (.publish (.reconciliation op) x)) :
    x.outcome = .applied ∧ x.toReconciliationBody = reconciliationOf r o := by
  obtain ⟨_, r', o', hr', ho', _, hreceipt, hobservation⟩ := journalRules_supported _ _ _ _ _ hrule
  cases hr.symm.trans hr'
  cases ho.symm.trans ho'
  have hof : ∃ (r' : Receipt H) (o' : PostState H), x.toReconciliationBody = reconciliationOf r' o' := by
    cases call with
    | readCompletion _ => exact hrule.elim
    | execute a => exact hrule.2.2
    | recordReconciliation y =>
      have hkey := (Recording.publish (h := h) hrule).1
      cases hkey
      exact absurd rfl (hcall y rfl)
    | _ => cases (Recording.publish (h := h) hrule).1
  obtain ⟨r', o', hbody⟩ := hof
  have hr' : r' = r := Receipt.eq_of_body (by rw [← hreceipt, hbody]; rfl)
  have ho' : o' = o := PostState.eq_of_body (by rw [← hobservation, hbody]; rfl)
  subst hr' ho'
  exact ⟨by rw [hbody]; exact if_pos ⟨o'.observedRef.property, htopology⟩, hbody⟩

theorem Observed.completion (hobs : Observed F op r o) (hop : r.operationId = op) (haddr : Addressed F o) {c : Completion}
    (hcall : ∀ d, call = .recordCompletion d → d.operationId ≠ op)
    (hrule : journalRules call F h (.publish (.completion op) c)) :
    c = completionOf r o (if r.outcome = .ambiguous then some (reconciledDigest F op r o) else none) := by
  obtain ⟨hcop, r', o', x, hr, ho, hx, hcloses⟩ := journalRules_supported _ _ _ _ _ hrule
  cases hobs.receipt.symm.trans hr
  cases hobs.observation.symm.trans ho
  have hof : ∃ (r' : Receipt H) (o' : PostState H) (d : Option Sha256Digest),
      F (.postState o'.operationId) = .bound o' ∧ c = completionOf r' o' d := by
    cases call with
    | readCompletion _ => exact hrule.elim
    | execute a => exact hrule.2.2
    | recordCompletion d =>
      have hkey := (Recording.publish (h := h) hrule).1
      cases hkey
      exact absurd rfl (hcall d rfl)
    | _ => cases (Recording.publish (h := h) hrule).1
  obtain ⟨r', o', d, hbound, rfl⟩ := hof
  obtain ⟨_, harm, hact, hreceipt, hobservation, hreconciliation⟩ := hcloses
  cases haddr _ _ hbound hobservation
  have hd : d = if r.outcome = .ambiguous then some (reconciledDigest F op r o) else none := by
    change d = _ at hreconciliation
    rcases harm with happ | ⟨hamb, _, hany⟩
    · rw [hreconciliation, if_pos happ, happ.1]
      rfl
    · cases x with
      | none => cases hany
      | some y =>
        have hnot : ¬ Journal.AppliedArm r o (some y) := fun h => (nomatch h.2.2)
        rw [hreconciliation, if_neg hnot, if_pos hamb, reconciledDigest_of_bound (hx y rfl)]
        rfl
  have hop' : r'.operationId = r.operationId := hcop.trans hop.symm
  have hact' : r'.scope.activationDigest = r.scope.activationDigest := hact
  have hreceipt' : r'.receiptDigest = r.receiptDigest := hreceipt
  rw [← hd]
  unfold completionOf
  rw [hact', hop', hreceipt']

theorem exists_writing {files files' : Files (Rec H)} {t t' : JournalThread H} (hs : Stepped files t files' t') {k : Key}
    {v : Rec H k} (hnew : files' k = .bound v) (hold : files k ≠ .bound v) : ∃ next, t.status = .writing k v next := by
  rcases hs.file k with he | ⟨_, ht⟩ | ⟨v', next, hst, hb, _⟩
  · exact absurd (he.symm.trans hnew) hold
  · cases ht.symm.trans hnew
  · cases hb.symm.trans hnew
    exact ⟨next, hst⟩

theorem JournalKnown.steady_step (hk : JournalKnown w) (hobs : Observed w.files op r o) (haddr : Addressed w.files o)
    {i : Nat} {t t' : JournalThread H} {files' : Files (Rec H)} (ht : w.threads[i]? = some t)
    (hs : Stepped w.files t files' t') (hreconciles : ∀ x, t.call = .recordReconciliation x → x.operationId ≠ op)
    (hcompletes : ∀ c, t.call = .recordCompletion c → c.operationId ≠ op) :
    Observed files' op r o ∧ settled files' op r o = settled w.files op r o := by
  have hgrows : Grows w.files files' := hk.sound.grows ht hs
  have hrop : r.operationId = op := (hk.linked _ _ hobs.receipt).1
  -- a reconciliation that this step writes is the one the observation calls for
  have hwritten : ∀ x, files' (.reconciliation op) = .bound x → w.files (.reconciliation op) ≠ .bound x →
      x.outcome = .applied ∧ x.toReconciliationBody = reconciliationOf r o := by
    intro x hnew hold
    obtain ⟨next, hst⟩ := exists_writing hs hnew hold
    exact reconciliation_of_rule hobs.receipt hobs.observation hobs.topology hreconciles (hk.writing ht hst)
  have hdigest : reconciledDigest files' op r o = reconciledDigest w.files op r o := by
    by_cases hold : ∃ x, w.files (.reconciliation op) = .bound x
    · obtain ⟨x, hx⟩ := hold
      rw [reconciledDigest_of_bound hx, reconciledDigest_of_bound (hgrows _ _ hx)]
    · have hold : ∀ x, w.files (.reconciliation op) ≠ .bound x := fun x hx => hold ⟨x, hx⟩
      rw [reconciledDigest_of_not_bound hold]
      by_cases hnew : ∃ x, files' (.reconciliation op) = .bound x
      · obtain ⟨x, hx⟩ := hnew
        rw [reconciledDigest_of_bound hx, Reconciliation.canonicalDigest, (hwritten x hx (hold x)).2]
      · exact reconciledDigest_of_not_bound fun x hx => hnew ⟨x, hx⟩
  refine ⟨⟨hgrows _ _ hobs.receipt, hobs.accepted, hgrows _ _ hobs.observation, hobs.topology, ?_⟩, ?_⟩
  · intro x hx
    by_cases hold : w.files (.reconciliation op) = .bound x
    · exact hobs.reconciled x hold
    · exact (hwritten x hx hold).1
  by_cases hold : ∃ c, w.files (.completion op) = .bound c
  · obtain ⟨c, hc⟩ := hold
    rw [settled_of_bound hc, settled_of_bound (hgrows _ _ hc)]
  · have hold : ∀ c, w.files (.completion op) ≠ .bound c := fun c hc => hold ⟨c, hc⟩
    rw [settled_of_not_bound hold]
    by_cases hnew : ∃ c, files' (.completion op) = .bound c
    · obtain ⟨c, hc⟩ := hnew
      obtain ⟨next, hst⟩ := exists_writing hs hc (hold c)
      rw [settled_of_bound hc]
      exact hobs.completion hrop haddr hcompletes (hk.writing ht hst)
    · rw [settled_of_not_bound fun c hc => hnew ⟨c, hc⟩, hdigest]

theorem Addressed.of_grows {F' : Files (Rec H)} (haddr : Addressed F' o) (hgrows : Grows F F') : Addressed F o :=
  fun _ _ hb hd => haddr _ _ (hgrows _ _ hb) hd

theorem JournalRuns.steady (hw : JournalRuns L w) (hobs : Observed w.files op r o)
    (hlater : Reaches (perform (JournalCall.program L)) (Steady op) w w') (haddr : Addressed w'.files o) :
    JournalRuns L w' ∧ Observed w'.files op r o ∧ settled w'.files op r o = settled w.files op r o := by
  have hall : JournalRuns L w' ∧ (Addressed w'.files o → Observed w'.files op r o ∧
      settled w'.files op r o = settled w.files op r o) := by
    refine hlater.inv (fun w' => JournalRuns L w' ∧ (Addressed w'.files o → Observed w'.files op r o ∧
      settled w'.files op r o = settled w.files op r o)) ⟨hw, fun _ => ⟨hobs, rfl⟩⟩ ?_
    rintro w₁ move w₂ ⟨hw₁, ih⟩ hsteady hm
    have hk := hw₁.known
    refine ⟨.step hw₁ trivial hm, fun haddr₂ => ?_⟩
    have haddr₁ := haddr₂.of_grows (hk.sound.perform_grows hm)
    obtain ⟨hobs₁, hsettled⟩ := ih haddr₁
    rcases perform_cases hm with ⟨_, _, rfl⟩ | ⟨_, _, _, _, rfl⟩ | ⟨i, n, t, files', t', hmove, ht, hs, rfl⟩
    · exact ⟨hobs₁, hsettled⟩
    · exact ⟨hobs₁, hsettled⟩
    · obtain ⟨hreconciles, hcompletes⟩ := hsteady i n t hmove ht
      obtain ⟨hobs₂, hstep⟩ := hk.steady_step hobs₁ haddr₁ ht hs hreconciles hcompletes
      exact ⟨hobs₂, hstep.trans hsettled⟩
  exact ⟨hall.1, hall.2 haddr⟩

theorem JournalRuns.exists_tail (hw : JournalRuns L w) (hobs : Observed w.files op r o)
    (hreconciliation : w.files (.reconciliation op) ≠ .torn) (hcompletion : w.files (.completion op) ≠ .torn) :
    ∃ x c, Tail w.files op r o x c ∧ ∀ y, x = some y → y.outcome = .applied := by
  have hl := hw.known.linked
  have hx : ∃ x, Reads w.files (.reconciliation op) x ∧ ∀ y, x = some y → w.files (.reconciliation op) = .bound y := by
    cases hf : w.files (.reconciliation op) with
    | absent => exact ⟨none, hf, by simp⟩
    | torn => exact absurd hf hreconciliation
    | bound y => exact ⟨some y, hf, by simp⟩
  obtain ⟨x, hreads, hbound⟩ := hx
  have hover : ∀ y, x = some y → y.operationId = op ∧ y.Over r o := by
    intro y hy
    obtain ⟨hyop, r', o', hr, ho, hover⟩ := hl _ _ (hbound y hy)
    cases hobs.receipt.symm.trans hr
    cases hobs.observation.symm.trans ho
    exact ⟨hyop, hover⟩
  have happlied : ∀ y, x = some y → y.outcome = .applied := fun y hy => hobs.reconciled y (hbound y hy)
  cases hf : w.files (.completion op) with
  | absent => exact ⟨x, none, ⟨hreads, hover, hf, fun _ h => (nomatch h)⟩, happlied⟩
  | torn => exact absurd hf hcompletion
  | bound d =>
    obtain ⟨hdop, r', o', x', hr, ho, hx', hcloses⟩ := hl _ _ hf
    cases hobs.receipt.symm.trans hr
    cases hobs.observation.symm.trans ho
    have hsame : x' = x := by
      cases x' with
      | some y =>
        have hy := hx' y rfl
        cases x with
        | none => cases hy.symm.trans (show w.files (.reconciliation op) = .absent from hreads)
        | some y' => cases hy.symm.trans (hbound y' rfl); rfl
      | none =>
        cases x with
        | none => rfl
        | some y =>
          rcases hcloses.2.1 with happ | ⟨_, _, hany⟩
          · cases (hover y rfl).2.1.symm.trans happ.1
          · cases hany
    subst hsame
    exact ⟨x', some d, ⟨hreads, hover, hf, fun _ h => by cases h; exact ⟨hdop, hcloses⟩⟩, happlied⟩

end Convergence

namespace Sample

def intent : Intent digest := ⟨⟨authorization.toBinding, authorization.authorizationDigest, 10⟩, by decide⟩

def marker : DispatchStarted digest := ⟨⟨intent.toBinding, intent.intentDigest, 10⟩, by decide⟩

def ambiguousReceipt : Receipt digest := receipt .ambiguous intent marker

def operation : Sha256Digest := authorization.operationId

/-- Limits under which everything fits but a reconciliation. -/
def tightLimits : Limits digest where
  recordBytes
    | .reconciliation _, _ => 2
    | _, _ => 0
  maxRecordBytes := 1

def journalAfter (L : Limits digest) (moves : List (JournalMove digest)) : JournalWorld digest :=
  result (perform (JournalCall.program L)) (Config.idle fun _ => .absent) moves

variable {L : Limits digest} {w : JournalWorld digest}

theorem journalRuns_after {moves : List (JournalMove digest)}
    (h : allowed (perform (JournalCall.program L)) (fun _ _ => true) (Config.idle fun _ => .absent) moves = true) :
    JournalRuns L (journalAfter L moves) :=
  (reaches_result h).mono fun _ _ _ => trivial

theorem journalAfter_passes {test : JournalWorld digest → Bool} {moves : List (JournalMove digest)}
    (h : concludes (perform (JournalCall.program L)) (fun _ _ => true) test (Config.idle fun _ => .absent) moves = true) :
    test (journalAfter L moves) = true :=
  (allowed_of_concludes h).2

/-- Call `i` starts and takes `n` steps; the dispatch is ambiguous, and the clock
shows 10. -/
def journalSteps (i n : Nat) (call : JournalCall digest) : List (JournalMove digest) :=
  .start call :: List.replicate n (.step i (nature .ambiguous 10))

/-- A controller gets an ambiguous receipt, records an exact observation of it
and crashes. -/
def observed : List (JournalMove digest) :=
  journalSteps 0 5 (.recordActivation activation) ++ journalSteps 1 53 (.execute authorization) ++ [.crash 1]

set_option maxRecDepth 4000 in
/-- After that somebody records that the outcome is still ambiguous. -/
def disputed : List (JournalMove digest) :=
  observed ++ journalSteps 2 12 (.recordReconciliation ⟨⟨scope.activationDigest, operation,
    ambiguousReceipt.toReceiptBody, (observation ambiguousReceipt).toPostStateBody, .ambiguous, 80⟩, by decide⟩)

theorem fits (r : Receipt digest) (o : PostState digest) : Controller.Fits limits operation r o :=
  ⟨fun _ _ => Nat.zero_le 1, fun _ => Nat.zero_le 1⟩

theorem accepting (outcome : PersonalCasOutcome) (now : Instant) : Accepting (answer outcome now) activation :=
  ⟨fun _ => rfl, ⟨evidence, rfl, by decide⟩, fun _ => rfl⟩

/-- The event does not publish another observation than `o`. -/
def observes (o : PostState digest) : Event (Rec digest) (Port.Answer (H := digest)) → Bool
  | .publish (.postState _) o' _ => o' = o
  | _ => true

/-- The journal holds an exact observation of the ambiguous receipt and no other,
and no completion. -/
def holdsObservation (w : JournalWorld digest) : Bool :=
  w.files .activation = .bound activation && w.files (.receipt operation) = .bound ambiguousReceipt &&
    w.files (.postState operation) = .bound (observation ambiguousReceipt) && w.files (.reconciliation operation) ≠ .torn &&
    w.files (.completion operation) = .absent && w.threads.all fun t => t.log.all (observes (observation ambiguousReceipt))

theorem addressed_of_log {o : PostState digest} (hw : JournalRuns L w)
    (hall : (w.threads.all fun t => t.log.all (observes o)) = true) : Addressed w.files o := by
  intro op o' hb _
  rcases hw.known.sound.origin hb with hi | ⟨i, t, ht, hw⟩
  · cases hi
  · have hlog := List.all_eq_true.mp hall t (List.mem_of_getElem? ht)
    rcases hw with hw | hw
    · simpa [observes] using List.all_eq_true.mp hlog _ hw
    · simpa [observes] using List.all_eq_true.mp hlog _ hw

theorem files_of_holds (hw : JournalRuns L w) (h : holdsObservation w = true) :
    w.files .activation = .bound activation ∧ w.files (.receipt operation) = .bound ambiguousReceipt ∧
      w.files (.postState operation) = .bound (observation ambiguousReceipt) ∧ w.files (.reconciliation operation) ≠ .torn ∧
      w.files (.completion operation) ≠ .torn ∧ Addressed w.files (observation ambiguousReceipt) := by
  simp only [holdsObservation, Bool.and_eq_true, decide_eq_true_eq] at h
  obtain ⟨⟨⟨⟨⟨hact, hr⟩, ho⟩, hx⟩, hc⟩, hall⟩ := h
  exact ⟨hact, hr, ho, hx, by simp [hc], addressed_of_log hw hall⟩

theorem ambiguousReceipt_accepted : ambiguousReceipt.outcome ≠ .rejected := by decide

theorem observation_exact : (observation ambiguousReceipt).Exact := by decide

theorem observed_of_absent (hr : w.files (.receipt operation) = .bound ambiguousReceipt)
    (ho : w.files (.postState operation) = .bound (observation ambiguousReceipt))
    (hx : w.files (.reconciliation operation) = .absent) :
    Observed w.files operation ambiguousReceipt (observation ambiguousReceipt) := by
  refine ⟨hr, ambiguousReceipt_accepted, ho, observation_exact, fun x hb => ?_⟩
  rw [hx] at hb
  cases hb

/-- The run of a call ends in another state than completed. -/
def endsOtherwise (L : Limits digest) (w : JournalWorld digest) : Bool :=
  ((Controller.execute L authorization).run (answer .ambiguous 10) w.files).1.toOption.any fun res => res.state ≠ .completed

theorem not_completed {res : ControllerResult} {files' : Files (Rec digest)} (h : endsOtherwise L w = true)
    (hres : Yields (answer .ambiguous 10) w.files (Controller.execute L authorization) res files')
    (hstate : res.state = .completed) : False := by
  unfold endsOtherwise at h
  rw [hres.1] at h
  simp [Except.toOption, hstate] at h

/-- No reconciliation is on record. -/
def unreconciled (w : JournalWorld digest) : Bool := w.files (.reconciliation operation) = .absent

set_option maxRecDepth 4000 in
/-- The three runs, evaluated together. -/
theorem runs_conclude :
    concludes (perform (JournalCall.program limits)) (fun _ _ => true) (fun w => holdsObservation w && unreconciled w)
        (Config.idle fun _ => .absent) observed = true ∧
      concludes (perform (JournalCall.program tightLimits)) (fun _ _ => true)
        (fun w => holdsObservation w && unreconciled w && endsOtherwise tightLimits w) (Config.idle fun _ => .absent)
        observed = true ∧
      concludes (perform (JournalCall.program limits)) (fun _ _ => true)
        (fun w => holdsObservation w && endsOtherwise limits w) (Config.idle fun _ => .absent) disputed = true := by
  decide +kernel

theorem runs_observed : JournalRuns limits (journalAfter limits observed) :=
  journalRuns_after (allowed_of_concludes runs_conclude.1).1

theorem observed_holds : holdsObservation (journalAfter limits observed) = true ∧
    (journalAfter limits observed).files (.reconciliation operation) = .absent := by
  have htest := journalAfter_passes runs_conclude.1
  simp only [Bool.and_eq_true, unreconciled, decide_eq_true_eq] at htest
  exact htest

theorem runs_tight : JournalRuns tightLimits (journalAfter tightLimits observed) :=
  journalRuns_after (allowed_of_concludes runs_conclude.2.1).1

theorem tight_holds : holdsObservation (journalAfter tightLimits observed) = true ∧
    (journalAfter tightLimits observed).files (.reconciliation operation) = .absent ∧
    endsOtherwise tightLimits (journalAfter tightLimits observed) = true := by
  have htest := journalAfter_passes runs_conclude.2.1
  simp only [Bool.and_eq_true, unreconciled, decide_eq_true_eq] at htest
  exact ⟨htest.1.1, htest.1.2, htest.2⟩

theorem runs_disputed : JournalRuns limits (journalAfter limits disputed) :=
  journalRuns_after (allowed_of_concludes runs_conclude.2.2).1

theorem disputed_holds : holdsObservation (journalAfter limits disputed) = true ∧
    endsOtherwise limits (journalAfter limits disputed) = true := by
  have htest := journalAfter_passes runs_conclude.2.2
  simp only [Bool.and_eq_true] at htest
  exact htest

end Sample

/-- A completion that a read returns closes its operation, and no completion
stands next to a rejected receipt. Once an exact observation is durable, a
controller call that runs to its end with accepting verifiers completes the
operation, after any later run of controllers that crashed between journal
calls: without its own ports, and always with the same completion. -/
theorem completion_sound_and_convergent {L : Limits H} {w : JournalWorld H} (hw : JournalRuns L w) :
    (∀ (i : Nat) (t : JournalThread H) op c, w.threads[i]? = some t → t.call = .readCompletion op →
      t.status = .running (.done (.completion (some c))) → Completed w.files op c) ∧
    (∀ op r c, w.files (.receipt op) = .bound r → w.files (.completion op) = .bound c → r.outcome ≠ .rejected) ∧
    (∀ op r o act (w' : JournalWorld H) answer (a : Authorization H), Observed w.files op r o → Controller.Fits L op r o →
      Reaches (perform (JournalCall.program L)) (Steady op) w w' → Addressed w'.files o →
      w'.files (.reconciliation op) ≠ .torn → w'.files (.completion op) ≠ .torn →
      w.files .activation = .bound act → Accepting answer act → a.operationId = op →
      ∃ res files', Yields answer w'.files (Controller.execute L a) res files' ∧ res.operationId = op ∧
        res.state = .completed ∧ res.outcome = some .applied ∧
        files' (.completion op) = .bound (Controller.settled w.files op r o) ∧
        ∃ w₁ w₂ : JournalWorld H, perform (JournalCall.program L) w' (.start (.execute a)) = .ok w₁ ∧
          Reaches (perform (JournalCall.program L)) (fun _ m => m = .step w'.threads.length (.calm answer)) w₁ w₂ ∧
          w₂.files = files' ∧ w₂.Ends w'.threads.length (.execute a) (.result res) Journaling []) := by
  refine ⟨?_, ?_, ?_⟩
  · intro i t op c ht hcall hst
    have hk := hw.known
    have hpost := (hk.sound.obeys hk.linked hk.obeys ht).2
    rw [hst, hcall] at hpost
    exact hw.completed (hpost c rfl)
  · intro op r c hr hc hrej
    obtain ⟨_, _, _, _, r', _, hchain, _, _, harm⟩ := hw.completed hc
    cases hr.symm.trans hchain.receipt
    rcases harm with ⟨happ, _⟩ | ⟨hamb, _⟩
    · rw [hrej] at happ; cases happ
    · rw [hrej] at hamb; cases hamb
  · intro op r o act w' answer a hobs hfits hlater haddr hreconciliation hcompletion hact hacc hop
    obtain ⟨hw', hobs', hsettled⟩ := hw.steady hobs hlater haddr
    obtain ⟨x, c, htail, happ⟩ := hw'.exists_tail hobs' hreconciliation hcompletion
    obtain ⟨act', a', i, m, hchain⟩ := exists_chain hw'.known.linked hobs'.receipt hobs'.observation
    cases (Reaches.grows hlater hw.known.sound _ _ hact).symm.trans hchain.activation
    obtain ⟨res, files', hres, hrop, hstate, houtcome, hbound⟩ :=
      Controller.execute_yields hacc hchain htail hfits hobs'.accepted hobs'.exactTopology happ hop
    rw [hsettled] at hbound
    refine ⟨res, files', hres, hrop, hstate, houtcome, hbound, ?_⟩
    -- the same run, as moves of the whole system
    have hprogram : Yields answer w'.files ((JournalCall.execute a).program L) (.result res) files' :=
      hres.bind (yields_done _)
    let w₁ : JournalWorld H :=
      { w' with threads := w'.threads ++ [⟨.execute a, .running ((JournalCall.execute a).program L), []⟩] }
    have hstarted : w₁.threads[w'.threads.length]? =
        some ⟨.execute a, .running ((JournalCall.execute a).program L), []⟩ := List.getElem?_concat_length
    exact ⟨w₁, (Prog.Returns.reaches hstarted hprogram).imp fun w₂ h => ⟨rfl, h⟩⟩

set_option maxRecDepth 4000 in
theorem completion_sound_and_convergent_observed :
    ∃ res files', Yields (Sample.answer .ambiguous 10) (Sample.journalAfter Sample.limits Sample.observed).files
        (Controller.execute Sample.limits Sample.authorization) res files' ∧ res.state = .completed ∧
      files' (.completion Sample.operation) = .bound (Controller.settled
        (Sample.journalAfter Sample.limits Sample.observed).files Sample.operation Sample.ambiguousReceipt
        (Sample.observation Sample.ambiguousReceipt)) := by
  obtain ⟨hact, hr, ho, hx, hc, haddr⟩ := Sample.files_of_holds Sample.runs_observed Sample.observed_holds.1
  have hobs := Sample.observed_of_absent hr ho Sample.observed_holds.2
  obtain ⟨res, files', hres, _, hstate, _, hbound, _⟩ := (completion_sound_and_convergent Sample.runs_observed).2.2
    _ _ _ Sample.activation _ (Sample.answer .ambiguous 10) Sample.authorization hobs (Sample.fits _ _) .init haddr
    hx hc hact (Sample.accepting _ _) rfl
  exact ⟨res, files', hres, hstate, hbound⟩

set_option maxRecDepth 4000 in
/-- Receipt and exact observation alone do not make a call complete: not when a
reconciliation was recorded as ambiguous, and not when the reconciliation is too
large to record. -/
theorem observed_not_enough :
    (¬ ∀ (L : Limits Sample.digest) (w : JournalWorld Sample.digest) op r o act answer (a : Authorization Sample.digest),
      JournalRuns L w → w.files (.receipt op) = .bound r → r.outcome ≠ .rejected →
      w.files (.postState op) = .bound o → o.Exact → Controller.Fits L op r o → Addressed w.files o →
      w.files (.reconciliation op) ≠ .torn → w.files (.completion op) ≠ .torn →
      w.files .activation = .bound act → Accepting answer act → a.operationId = op →
      ∃ res files', Yields answer w.files (Controller.execute L a) res files' ∧ res.state = .completed) ∧
    ¬ ∀ (L : Limits Sample.digest) (w : JournalWorld Sample.digest) op r o act answer (a : Authorization Sample.digest),
      JournalRuns L w → Observed w.files op r o → Addressed w.files o →
      w.files (.reconciliation op) ≠ .torn → w.files (.completion op) ≠ .torn →
      w.files .activation = .bound act → Accepting answer act → a.operationId = op →
      ∃ res files', Yields answer w.files (Controller.execute L a) res files' ∧ res.state = .completed := by
  constructor
  · intro hall
    obtain ⟨hact, hr, ho, hx, hc, haddr⟩ := Sample.files_of_holds Sample.runs_disputed Sample.disputed_holds.1
    obtain ⟨res, files', hres, hstate⟩ := hall _ _ _ _ _ _ (Sample.answer .ambiguous 10) Sample.authorization
      Sample.runs_disputed hr Sample.ambiguousReceipt_accepted ho Sample.observation_exact (Sample.fits _ _) haddr hx hc
      hact (Sample.accepting _ _) rfl
    exact Sample.not_completed Sample.disputed_holds.2 hres hstate
  · intro hall
    obtain ⟨htight, habsent, hends⟩ := Sample.tight_holds
    obtain ⟨hact, hr, ho, hx, hc, haddr⟩ := Sample.files_of_holds Sample.runs_tight htight
    have hobs := Sample.observed_of_absent hr ho habsent
    obtain ⟨res, files', hres, hstate⟩ := hall _ _ _ _ _ _ (Sample.answer .ambiguous 10) Sample.authorization
      Sample.runs_tight hobs haddr hx hc hact (Sample.accepting _ _) rfl
    exact Sample.not_completed hends hres hstate

end AvoCorrelate.ExactCas
