import AvoCorrelate.ExactCas.Controller
import AvoCorrelate.ExactCas.JournalLogic
/-!
# What a controller call does

`rules` is what one `execute` call keeps to along every path, in any files: it
touches a port or a file only after it looked for a completion in vain, it
publishes only what the files support, and it invokes the dispatch once, when
`Ready`. `execute_safe` proves it from the specifications of the journal calls.
-/
open AvoLib

namespace AvoCorrelate.ExactCas

variable {H : Doc → Sha256Digest}

/-! ## Reading a log -/

abbrev Log (H : Doc → Sha256Digest) := List (Event (Rec H) (Port.Answer (H := H)))

def clockAnswer : Event (Rec H) (Port.Answer (H := H)) → Option ClockAnswer
  | .port .now r => some r
  | _ => none

/-- The clock readings of a call, latest first. -/
def readings (h : Log H) : List ClockAnswer := h.filterMap clockAnswer

/-- The event is an invocation of the dispatch. -/
def isApply : Event (Rec H) (Port.Answer (H := H)) → Bool
  | .port (.apply _ _) _ => true
  | _ => false

def NoApply (h : Log H) : Prop := ∀ e ∈ h, isApply e = false

/-- The call looked for a completion and found none. -/
def Looked (op : Sha256Digest) (h : Log H) : Prop := .read (.completion op) .missing ∈ h

/-- An action of the journal, none of the controller's own ports. -/
def Journaling : Action (Rec H) (Port H) → Prop
  | .port .now => False
  | .port (.assertCurrent _ _ _ _ _ _) => False
  | .port (.apply _ _) => False
  | .port (.observe _ _) => False
  | _ => True

def Preparing : Action (Rec H) (Port H) → Prop
  | .port (.apply _ _) => False
  | _ => True

theorem journaling_of_quiet {a : Action (Rec H) (Port H)} (h : Quiet a) : Journaling a := by
  cases a with
  | read k => trivial
  | publish k v => trivial
  | port p => cases p <;> trivial

theorem journaling_of_writes {k : Key} {v : Rec H k} {a : Action (Rec H) (Port H)} (h : Writes k v a) : Journaling a := by
  rcases h with h | rfl | rfl
  · exact journaling_of_quiet h
  · trivial
  · trivial

theorem preparing_of_journaling {a : Action (Rec H) (Port H)} (h : Journaling a) : Preparing a := by
  cases a with
  | read k => trivial
  | publish k v => trivial
  | port p => cases p <;> trivial

theorem readings_extends {h h' : Log H} (he : Prog.Extends Journaling h h') : readings h' = readings h := by
  obtain ⟨es, rfl, hes⟩ := he
  have hnil : es.filterMap clockAnswer = [] := by
    refine List.filterMap_eq_nil_iff.mpr fun e hm => ?_
    have hj := hes e hm
    unfold clockAnswer
    split
    · cases hj
    · rfl
  unfold readings
  rw [List.filterMap_append, hnil, List.nil_append]

theorem noApply_extends {h h' : Log H} (he : Prog.Extends Preparing h h') (hn : NoApply h) : NoApply h' := by
  obtain ⟨es, rfl, hes⟩ := he
  intro e hm
  rcases List.mem_append.mp hm with hm | hm
  · have hp := hes e hm
    unfold isApply
    split
    · cases hp
    · rfl
  · exact hn e hm

/-- A call that has not dispatched yet, with its clock readings so far. -/
structure Before (op : Sha256Digest) (ts : List Instant) (h : Log H) : Prop where
  looked : Looked op h
  clock : readings h = ts.map .aware
  idle : NoApply h

theorem Before.journaling {op : Sha256Digest} {ts : List Instant} {h h' : Log H} (hb : Before op ts h)
    (he : Prog.Extends Journaling h h') : Before op ts h' where
  looked := he.suffix.mem hb.looked
  clock := (readings_extends he).trans hb.clock
  idle := noApply_extends (he.mono fun _ => preparing_of_journaling) hb.idle

/-! ## The rules of a call -/

structure Ready (a : Authorization H) (F : Files (Rec H)) (h : Log H) (i : Intent H) (m : DispatchStarted H) :
    Prop where
  authorization : F (.authorization a.operationId) = .bound a
  intent : F (.intent a.operationId) = .bound i
  marker : F (.dispatchStarted a.operationId) = .bound m
  claimed : .publish (.dispatchStarted a.operationId) m .created ∈ h
  idle : NoApply h
  clock : ∃ t₁ t₂ t₃, readings h = [.aware t₃, .aware t₂, .aware t₁] ∧ a.authorizedAt ≤ t₁ ∧
    t₁ < a.scope.leaseExpiresAt ∧ i.recordedAt ≤ t₂ ∧ t₂ < i.scope.leaseExpiresAt ∧ t₂ ≤ t₃ ∧
    t₃ < i.scope.leaseExpiresAt

/-- What a call may publish besides being supported. -/
def MayPublish (a : Authorization H) (F : Files (Rec H)) (h : Log H) : (k : Key) → Rec H k → Prop
  | .intent op, i => F (.authorization op) = .bound a ∧ a.authorizedAt ≤ i.recordedAt
  | .receipt _, r => ∃ i m, .port (.apply i m) (.delivered r) ∈ h ∧ r.operationId = i.operationId
  | .reconciliation _, x => ∃ (r : Receipt H) (o : PostState H), x.toReconciliationBody = Controller.reconciliationOf r o
  | .completion _, c => ∃ (r : Receipt H) (o : PostState H) (d : Option Sha256Digest),
    F (.postState o.operationId) = .bound o ∧ c = Controller.completionOf r o d
  | _, _ => True

def rules (a : Authorization H) (F : Files (Rec H)) : Rules (Rec H) (Port.Answer (H := H)) := fun h act =>
  match act with
  | .read _ => True
  | .port (.verify _) => True
  | .port (.trustedRead _) => True
  | .port (.apply i m) => Looked a.operationId h ∧ Ready a F h i m
  | .publish k v => Looked a.operationId h ∧ Supported F k v ∧ MayPublish a F h k v
  | .port _ => Looked a.operationId h

variable {a : Authorization H} {F : Files (Rec H)} {h : Log H} {L : Limits H}

theorem permits_quiet : Permits (rules a F) Quiet h := by
  intro h' _ act hq
  cases act with
  | read k => trivial
  | publish k v => exact hq.elim
  | port p => cases p <;> trivial

theorem MayPublish.suffix {h' : Log H} {k : Key} {v : Rec H k} (hs : h <:+ h') (hm : MayPublish a F h k v) :
    MayPublish a F h' k v := by
  cases k with
  | intent op => exact hm
  | receipt op =>
    obtain ⟨i, m, hm, hop⟩ := hm
    exact ⟨i, m, hs.mem hm, hop⟩
  | _ => exact hm

theorem permits_writes {k : Key} {v : Rec H k} (hl : Looked a.operationId h) (hs : Supported F k v)
    (hm : MayPublish a F h k v) : Permits (rules a F) (Writes k v) h := by
  intro h' hsuf act hw
  rcases hw with hq | rfl | rfl
  · exact permits_quiet h' (List.suffix_refl h') act hq
  · exact hsuf.mem hl
  · exact ⟨hsuf.mem hl, hs, hm.suffix hsuf⟩

namespace Controller

/-! ## Clock and lease -/

variable {ts : List Instant} {t : Instant} {i : Intent H} {S : Action (Rec H) (Port H) → Prop} {r : Receipt H}
  {o : Option (PostState H)} {n : Nat} {x : Option (Reconciliation H)} {m : DispatchStarted H}

theorem trustedNow_safe (hb : Before a.operationId ts h) :
    (trustedNow : Code H Instant).Safe F (rules a F) (Prog.Returning fun h' t => Before a.operationId (t :: ts) h') h := by
  refine ⟨hb.looked, fun r => ?_⟩
  cases r with
  | raised | naive => trivial
  | aware t =>
    refine ⟨List.mem_cons_of_mem _ hb.looked, ?_, List.forall_mem_cons.mpr ⟨rfl, hb.idle⟩⟩
    rw [readings, List.filterMap_cons]
    exact congrArg _ hb.clock

theorem assertLease_safe (b : Binding) (t : Instant) (hb : Before a.operationId ts h) :
    (assertLease b t : Code H Unit).Safe F (rules a F) (Prog.Returning fun h' _ => Before a.operationId ts h') h := by
  refine ⟨hb.looked, fun r => ?_⟩
  cases r with
  | raised => trivial
  | current => exact ⟨List.mem_cons_of_mem _ hb.looked, hb.clock, List.forall_mem_cons.mpr ⟨rfl, hb.idle⟩⟩

theorem require_before {c : Prop} [Decidable c] (e : Exc) (hb : Before a.operationId ts h) :
    (Prog.require c e : Code H Unit).Safe F (rules a F)
      (Prog.Returning fun h' _ => Before a.operationId ts h' ∧ c) h := by
  unfold Prog.require
  split
  · next hc => exact ⟨hb, hc⟩
  · trivial

theorem journal_before {α : Type} {p : Code H α} {Q : Log H → α → Prop} (hp : p.Safe F (rules a F) (Prog.Returning Q) h)
    (hd : p.Does Journaling) (hb : Before a.operationId ts h) :
    p.Safe F (rules a F) (Prog.Returning fun h' x => Before a.operationId ts h' ∧ Q h' x) h :=
  (hp.frame hd).mono fun h' x hx => by
    cases x with
    | error e => trivial
    | ok y => exact ⟨hb.journaling hx.1, hx.2⟩

/-! ## The intent -/

theorem settleIntent_safe (existing : Option (Intent H)) (hb : Before a.operationId [t] h)
    (ha : F (.authorization a.operationId) = .bound a) (hle : a.authorizedAt ≤ t)
    (hx : ∀ i, existing = some i → F (.intent a.operationId) = .bound i) :
    (settleIntent L a t existing).Safe F (rules a F)
      (Prog.Returning fun h' i => Before a.operationId [t] h' ∧ F (.intent a.operationId) = .bound i) h := by
  cases existing with
  | some i => exact (require_before _ hb).seq fun h' _ _ hr => ⟨hr.1, hx i rfl⟩
  | none =>
    refine Prog.Safe.ofOption_bind (fun i hi => ?_) trivial
    have hbody := Intent.build_eq hi
    have hop : i.operationId = a.operationId := by rw [hbody]
    have hrec : i.recordedAt = t := by rw [hbody]
    refine (journal_before (Journal.recordIntent_safe i permits_quiet fun hs => permits_writes hb.looked hs ?_)
      ((Journal.recordIntent_does i).mono fun _ => journaling_of_writes) hb).seq fun h' _ _ hr => ?_
    · exact ⟨hop ▸ ha, hrec ▸ hle⟩
    · exact ⟨hr.1, hop ▸ hr.2⟩

theorem acceptIntent_safe (hb : Before a.operationId [] h) :
    (acceptIntent L a).Safe F (rules a F) (Prog.Returning fun h' i => ∃ t, Before a.operationId [t] h' ∧
      F (.authorization a.operationId) = .bound a ∧ F (.intent a.operationId) = .bound i ∧
      a.authorizedAt ≤ t ∧ t < a.scope.leaseExpiresAt) h := by
  refine (journal_before (Journal.recordAuthorization_safe a permits_quiet fun hs => permits_writes hb.looked hs trivial)
    ((Journal.recordAuthorization_does a).mono fun _ => journaling_of_writes) hb).seq fun h₁ _ _ h₁b => ?_
  obtain ⟨hb₁, ha⟩ := h₁b
  refine (trustedNow_safe hb₁).seq fun h₂ t _ hb₂ => ?_
  refine (require_before _ hb₂).seq fun h₃ _ _ h₃b => ?_
  obtain ⟨hb₃, hlt⟩ := h₃b
  refine (require_before _ hb₃).seq fun h₄ _ _ h₄b => ?_
  obtain ⟨hb₄, hle⟩ := h₄b
  refine (assertLease_safe _ _ hb₄).seq fun h₅ _ _ hb₅ => ?_
  refine (journal_before (Journal.readChecked_safe _ _ _ permits_quiet)
    ((Journal.readChecked_does _ _ _).mono fun _ => journaling_of_quiet) hb₅).seq fun h₆ existing _ h₆b => ?_
  refine (settleIntent_safe existing h₆b.1 ha hle h₆b.2.1).mono fun h₇ x hx => ?_
  cases x with
  | error e => trivial
  | ok i => exact ⟨t, hx.1, ha, hx.2, hle, hlt⟩

/-! ## The marker -/

theorem claimMarker_safe (hl : Linked Supported F) (hb : Before a.operationId [t] h)
    (hi : F (.intent a.operationId) = .bound i) :
    (claimMarker L i).Safe F (rules a F) (Prog.Returning fun h' x => Before a.operationId [x.2.1, t] h' ∧
      F (.dispatchStarted a.operationId) = .bound x.1 ∧ i.recordedAt ≤ x.2.1 ∧ x.2.1 < i.scope.leaseExpiresAt ∧
      (x.2.2 = true → .publish (.dispatchStarted a.operationId) x.1 .created ∈ h')) h := by
  have hop : i.operationId = a.operationId := (hl _ _ hi).1
  refine (trustedNow_safe hb).seq fun h₁ last _ hb₁ => ?_
  refine (require_before _ hb₁).seq fun h₂ _ _ h₂b => ?_
  obtain ⟨hb₂, hlt⟩ := h₂b
  refine (require_before _ hb₂).seq fun h₃ _ _ h₃b => ?_
  obtain ⟨hb₃, hle⟩ := h₃b
  refine (assertLease_safe _ _ hb₃).seq fun h₄ _ _ hb₄ => ?_
  refine Prog.Safe.ofOption_bind (fun m hm => ?_) trivial
  have hmop : m.operationId = a.operationId := by rw [DispatchStarted.build_eq hm]; exact hop
  refine (journal_before (Journal.claimDispatchStarted_safe m permits_quiet fun hs => permits_writes hb₄.looked hs trivial)
    ((Journal.claimDispatchStarted_does m).mono fun _ => journaling_of_writes) hb₄).seq fun h₅ created _ h₅b => ?_
  obtain ⟨hb₅, hbound, hcreated⟩ := h₅b
  rw [hmop] at hbound hcreated
  exact ⟨hb₅, hbound, hle, hlt, hcreated⟩

theorem recheck_safe {last : Instant} (hb : Before a.operationId [last, t] h) :
    (recheck i last : Code H Unit).Safe F (rules a F) (Prog.Returning fun h' _ => ∃ post,
      Before a.operationId [post, last, t] h' ∧ last ≤ post ∧ post < i.scope.leaseExpiresAt) h := by
  refine (trustedNow_safe hb).seq fun h₁ post _ hb₁ => ?_
  refine (require_before _ hb₁).seq fun h₂ _ _ h₂b => ?_
  obtain ⟨hb₂, hlt⟩ := h₂b
  refine (require_before _ hb₂).seq fun h₃ _ _ h₃b => ?_
  obtain ⟨hb₃, hle⟩ := h₃b
  refine (assertLease_safe _ _ hb₃).mono fun h₄ x hx => ?_
  cases x with
  | error e => trivial
  | ok u => exact ⟨post, hx, hle, hlt⟩

theorem clock_does (hS : S (.port .now)) : (trustedNow : Code H Instant).Does S := by
  refine ⟨hS, fun r => ?_⟩
  cases r <;> trivial

theorem lease_does (b : Binding) (t : Instant) (hS : ∀ op ref id d e n, S (.port (.assertCurrent op ref id d e n))) :
    (assertLease b t : Code H Unit).Does S := by
  refine ⟨hS _ _ _ _ _ _, fun r => ?_⟩
  cases r <;> trivial

theorem preparing_of_writes {k : Key} {v : Rec H k} (act : Action (Rec H) (Port H)) (hw : Writes k v act) :
    Preparing act :=
  preparing_of_journaling (journaling_of_writes hw)

theorem preparing_of_quiet (act : Action (Rec H) (Port H)) (hq : Quiet act) : Preparing act :=
  preparing_of_journaling (journaling_of_quiet hq)

theorem acceptIntent_does : (acceptIntent L a).Does Preparing := by
  refine ((Journal.recordAuthorization_does a).mono preparing_of_writes).bind fun _ => ?_
  refine (clock_does trivial).bind fun t => Prog.Does.require.bind fun _ => Prog.Does.require.bind fun _ => ?_
  refine (lease_does _ _ fun _ _ _ _ _ _ => trivial).bind fun _ => ?_
  refine ((Journal.readChecked_does _ _ _).mono preparing_of_quiet).bind fun existing => ?_
  cases existing with
  | some i => exact Prog.Does.require.bind fun _ => trivial
  | none =>
    refine Prog.Does.ofOption.bind fun i => ?_
    exact ((Journal.recordIntent_does i).mono preparing_of_writes).bind fun _ => trivial

theorem claimMarker_does : (claimMarker L i).Does Preparing := by
  refine (clock_does trivial).bind fun t => Prog.Does.require.bind fun _ => Prog.Does.require.bind fun _ => ?_
  refine (lease_does _ _ fun _ _ _ _ _ _ => trivial).bind fun _ => Prog.Does.ofOption.bind fun m => ?_
  exact ((Journal.claimDispatchStarted_does m).mono preparing_of_writes).bind fun _ => trivial

/-! ## After the dispatch -/

/-- A rejection rests on a durable rejected receipt, or the call failed before
its dispatch. -/
def Truthful (a : Authorization H) (F : Files (Rec H)) (h : Log H) (res : ControllerResult) : Prop :=
  res.state = .rejected → (∃ r, F (.receipt a.operationId) = .bound r ∧ r.outcome = .rejected) ∨
    (res.reason ≠ "authoritative_rejection" ∧ NoApply h)

theorem truthful_unresolved (op : Sha256Digest) (reason : String) (started : Bool) (count : Nat) :
    Truthful a F h (unresolved op reason started count) := fun hr => (nomatch hr)

theorem settleObservation_safe (hlook : Looked a.operationId h)
    (ho : ∀ o', o = some o' → F (.postState o'.operationId) = .bound o') :
    (settleObservation L i r o).Safe F (rules a F)
      (Prog.Returning fun h' o' => Looked a.operationId h' ∧ F (.postState o'.operationId) = .bound o') h := by
  cases o with
  | some o => exact ⟨hlook, ho o rfl⟩
  | none =>
    refine ⟨hlook, fun ans => ?_⟩
    cases ans with
    | raised | other => trivial
    | delivered o =>
      have hlook₁ : Looked a.operationId (.port (.observe i r) (.delivered o) :: h) := List.mem_cons_of_mem _ hlook
      refine (Journal.recordPostState_safe o permits_quiet fun hs => permits_writes hlook₁ hs trivial).seq
        fun h₂ _ hs₂ hbound => ?_
      exact ⟨hs₂.mem hlook₁, hbound⟩

theorem settleReconciliation_safe {o : PostState H} (x : Option (Reconciliation H)) (hlook : Looked a.operationId h) :
    (settleReconciliation L r o x).Safe F (rules a F) (Prog.Returning fun h' _ => Looked a.operationId h') h := by
  cases x with
  | some x => exact hlook
  | none =>
    refine Prog.Safe.ofOption_bind (fun x hx => ?_) trivial
    refine (Journal.recordReconciliation_safe x permits_quiet fun hs => permits_writes hlook hs ?_).seq fun h₂ _ hs₂ _ => ?_
    · exact ⟨r, o, Reconciliation.build_eq hx⟩
    · exact hs₂.mem hlook

theorem complete_safe {o : PostState H} (d : Option Sha256Digest) (hlook : Looked a.operationId h)
    (ho : F (.postState o.operationId) = .bound o) :
    (complete L i r o d n).Safe F (rules a F) (Prog.Returning fun _ res => res.state ≠ .rejected) h := by
  refine (Journal.recordCompletion_safe _ permits_quiet fun hs => permits_writes hlook hs ⟨r, o, d, ho, rfl⟩).seq
    fun h₃ _ _ _ => ?_
  exact fun hr => (nomatch hr)

theorem close_safe (hlook : Looked a.operationId h) (ho : ∀ o', o = some o' → F (.postState o'.operationId) = .bound o') :
    (close L i r n o x).Safe F (rules a F) (Prog.Returning fun _ res => res.state ≠ .rejected) h := by
  refine (settleObservation_safe hlook ho).seq fun h₁ o _ h₁b => ?_
  obtain ⟨hlook₁, ho⟩ := h₁b
  split
  · refine (settleReconciliation_safe x hlook₁).seq fun h₂ x _ hlook₂ => ?_
    split
    · exact complete_safe _ hlook₂ ho
    · exact fun hr => (nomatch hr)
  · split
    · exact complete_safe _ hlook₁ ho
    · exact fun hr => (nomatch hr)

theorem observeAndClose_safe (hlook : Looked a.operationId h)
    (ho : ∀ o', o = some o' → F (.postState o'.operationId) = .bound o') :
    (observeAndClose L i r n o x).Safe F (rules a F) (Prog.Returning (Truthful a F)) h := by
  refine Prog.Safe.attempt_bind (close_safe hlook ho) fun h' res hres => ?_
  cases res with
  | error e => exact truthful_unresolved _ _ _ _
  | ok res => exact fun hr => absurd hr hres

theorem finishReceipt_safe (hlook : Looked a.operationId h) (happ : .port (.apply i m) (.delivered r) ∈ h)
    (hrop : r.operationId = i.operationId) (hop : i.operationId = a.operationId) :
    (finishReceipt L i r n).Safe F (rules a F) (Prog.Returning (Truthful a F)) h := by
  refine Prog.Safe.attempt_bind (Journal.recordReceipt_safe r permits_quiet fun hs =>
    permits_writes hlook hs ⟨i, m, happ, hrop⟩).suffix fun h' recorded hrec => ?_
  cases recorded with
  | error e => exact truthful_unresolved _ _ _ _
  | ok u =>
    dsimp only
    split
    · next hrej => exact fun _ => .inl ⟨r, (hrop.trans hop) ▸ hrec.2, hrej⟩
    · exact observeAndClose_safe (hrec.1.mem hlook) (by simp)

theorem dispatch_safe (hl : Linked Supported F) (hlook : Looked a.operationId h) (hready : Ready a F h i m) :
    (dispatch L a.operationId i m).Safe F (rules a F) (Prog.Returning (Truthful a F)) h := by
  have hop : i.operationId = a.operationId := (hl _ _ hready.intent).1
  refine Prog.Safe.seq (Q := fun h' receipt => Looked a.operationId h' ∧ ∀ r, receipt = some r →
    receiptExactlyBound r i m ∧ .port (.apply i m) (.delivered r) ∈ h') ⟨⟨hlook, hready⟩, fun ans => ?_⟩ ?_
  · have hlook₁ : Looked a.operationId (.port (.apply i m) ans :: h) := List.mem_cons_of_mem _ hlook
    cases ans with
    | raised | other => exact ⟨hlook₁, fun r hr => (nomatch hr)⟩
    | delivered r =>
      refine ⟨hlook₁, fun r' hr => ?_⟩
      split at hr
      · next hbound =>
        cases hr
        exact ⟨hbound, List.mem_cons_self⟩
      · cases hr
  · intro h₁ receipt _ h₁b
    cases receipt with
    | none => exact truthful_unresolved _ _ _ _
    | some r =>
      obtain ⟨hbound, happ⟩ := h₁b.2 r rfl
      have hrop : r.operationId = i.operationId := by rw [hbound.1]
      exact finishReceipt_safe h₁b.1 happ hrop hop

theorem claimAndDispatch_safe (hl : Linked Supported F) (hb : Before a.operationId [t] h)
    (ha : F (.authorization a.operationId) = .bound a) (hi : F (.intent a.operationId) = .bound i)
    (hle : a.authorizedAt ≤ t) (hlt : t < a.scope.leaseExpiresAt) :
    (claimAndDispatch L a.operationId i).Safe F (rules a F) (Prog.Returning (Truthful a F)) h := by
  refine Prog.Safe.attempt_bind ((claimMarker_safe hl hb hi).extends claimMarker_does) fun h₁ claimed hc => ?_
  obtain ⟨hext, hc⟩ := hc
  match claimed with
  | .error e => exact fun _ => .inr ⟨by simp [safeFailure], noApply_extends hext hb.idle⟩
  | .ok (m, last, false) => exact truthful_unresolved _ _ _ _
  | .ok (m, last, true) =>
    obtain ⟨hb₁, hm, hle₂, hlt₂, hclaimed⟩ := hc
    refine Prog.Safe.attempt_bind (recheck_safe (i := i) hb₁).suffix fun h₂ fenced hf => ?_
    obtain ⟨hs₂, hf⟩ := hf
    cases fenced with
    | error e => exact truthful_unresolved _ _ _ _
    | ok u =>
      obtain ⟨post, hb₂, hle₃, hlt₃⟩ := hf
      refine dispatch_safe hl hb₂.looked ⟨ha, hi, hm, hs₂.mem (hclaimed rfl), hb₂.idle, ?_⟩
      exact ⟨t, last, post, hb₂.clock, hle, hlt, hle₂, hlt₂, hle₃, hlt₃⟩

theorem firstRun_safe (hl : Linked Supported F) (hb : Before a.operationId [] h) :
    (firstRun L a).Safe F (rules a F) (Prog.Returning (Truthful a F)) h := by
  refine Prog.Safe.attempt_bind ((acceptIntent_safe hb).extends acceptIntent_does) fun h₁ intent hi => ?_
  obtain ⟨hext, hi⟩ := hi
  cases intent with
  | error e => exact fun _ => .inr ⟨by simp [safeFailure], noApply_extends hext hb.idle⟩
  | ok i =>
    obtain ⟨t, hb₁, ha, hi, hle, hlt⟩ := hi
    exact claimAndDispatch_safe hl hb₁ ha hi hle hlt

theorem recoveryReads_safe (op : Sha256Digest) :
    (recoveryReads op : Code H _).Safe F (rules a F) (Prog.Returning fun _ reads =>
      ∀ i o x, reads = .ok (i, some o, x) → F (.postState op) = .bound o) h := by
  refine (Journal.readChecked_safe _ _ _ permits_quiet).seq fun h₁ i _ _ => ?_
  refine (Journal.readChecked_safe _ _ _ permits_quiet).seq fun h₂ m _ _ => ?_
  split
  · refine (Journal.readChecked_safe _ _ _ permits_quiet).seq fun h₃ o _ ho => ?_
    refine (Journal.readChecked_safe _ _ _ permits_quiet).seq fun h₄ x _ _ => ?_
    split
    · exact fun _ _ _ he => (nomatch he)
    · intro i' o' x' he
      cases he
      exact ho.1 o' rfl
  · exact fun _ _ _ he => (nomatch he)

theorem recoverReceipt_safe (hl : Linked Supported F) (hlook : Looked a.operationId h)
    (hr : F (.receipt a.operationId) = .bound r) :
    (recoverReceipt L r).Safe F (rules a F) (Prog.Returning (Truthful a F)) h := by
  unfold recoverReceipt
  split
  · next hrej => exact fun _ => .inl ⟨r, hr, hrej⟩
  refine Prog.Safe.attempt_bind (recoveryReads_safe r.operationId).suffix fun h₁ reads h₁b => ?_
  match reads with
  | .error e => exact truthful_unresolved _ _ _ _
  | .ok (.error reason) => exact truthful_unresolved _ _ _ _
  | .ok (.ok (i, o, x)) =>
    refine observeAndClose_safe (h₁b.1.mem hlook) fun o' ho => ?_
    have hbound := h₁b.2 i o' x (by rw [ho])
    rw [(hl _ _ hbound).1]
    exact hbound

theorem recoveryState_does (op : Sha256Digest) : (recoveryState op : Code H _).Does Quiet :=
  (Journal.readChecked_does _ _ _).bind fun _ => (Journal.readChecked_does _ _ _).bind fun _ => trivial

theorem recoveryState_safe (op : Sha256Digest) :
    (recoveryState op : Code H _).Safe F (rules a F)
      (Prog.Returning fun _ x => ∀ r, x.2 = some r → F (.receipt op) = .bound r) h := by
  refine (Journal.readChecked_safe _ _ _ permits_quiet).seq fun h₁ m _ _ => ?_
  refine (Journal.readChecked_safe _ _ _ permits_quiet).seq fun h₂ r _ hr => ?_
  exact hr.1

theorem execute_safe (L : Limits H) (hl : Linked Supported F) :
    (execute L a).Safe F (rules a F) (Prog.Returning (Truthful a F)) [] := by
  refine Prog.Safe.attempt_bind ((Journal.readChecked_safe _ _ _ permits_quiet).extends (Journal.readChecked_does _ _ _))
    fun h₁ replay h₁b => ?_
  obtain ⟨hext₁, h₁b⟩ := h₁b
  match replay with
  | .error e => exact truthful_unresolved _ _ _ _
  | .ok (some c) => exact fun hr => (nomatch hr)
  | .ok none =>
    have hlook : Looked a.operationId h₁ := h₁b.2 rfl
    refine Prog.Safe.attempt_bind ((recoveryState_safe a.operationId).extends (recoveryState_does _))
      fun h₂ state h₂b => ?_
    obtain ⟨hext₂, h₂b⟩ := h₂b
    have hlook₂ := hext₂.suffix.mem hlook
    match state with
    | .error e => exact truthful_unresolved _ _ _ _
    | .ok (m, some r) => exact recoverReceipt_safe hl hlook₂ (h₂b r rfl)
    | .ok (some m, none) => exact truthful_unresolved _ _ _ _
    | .ok (none, none) =>
      have hb₀ : Before a.operationId [] h₁ := by
        have hj : Prog.Extends Journaling [] h₁ := hext₁.mono fun _ => journaling_of_quiet
        exact ⟨hlook, readings_extends hj, noApply_extends (hj.mono fun _ => preparing_of_journaling) (by simp [NoApply])⟩
      exact firstRun_safe hl (hb₀.journaling (hext₂.mono fun _ => journaling_of_quiet))

end Controller

end AvoCorrelate.ExactCas
