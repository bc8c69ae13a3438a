import AvoCorrelate.ExactCas.ControllerLogic
import AvoCorrelate.Lib.Interleaving
/-!
# Recovery

What the journal and the controller do when they run alone, over the files of a
chain that reaches an observation, with verifiers that accept. `execute_yields`
is the result: the call completes the operation, and the completion it leaves
is fixed by the files it found.
-/
open AvoLib

namespace AvoCorrelate.ExactCas

variable {H : Doc → Sha256Digest}

/-- Verifiers that accept, a trusted source that vouches for the activation, and
a store that works. -/
structure Accepting (answer : (p : Port H) → p.Answer) (act : Activation) : Prop where
  verify : ∀ v, answer (.verify v) = .returned true
  trusted : ∃ e, answer (.trustedRead act.source.sourceOperationId) = .accepted (some e) ∧ e.Binds act
  install : ∀ k, answer (.install k) = .installed

/-- The records of an operation from the activation to the observation, each
bound to those before it. -/
structure Chain (F : Files (Rec H)) (op : Sha256Digest) (act : Activation) (a : Authorization H) (i : Intent H)
    (m : DispatchStarted H) (r : Receipt H) (o : PostState H) : Prop where
  activation : F .activation = .bound act
  authorization : F (.authorization op) = .bound a
  intent : F (.intent op) = .bound i
  marker : F (.dispatchStarted op) = .bound m
  receipt : F (.receipt op) = .bound r
  observation : F (.postState op) = .bound o
  underActivation : a.Under act
  underAuthorization : i.Under a
  underIntent : m.Under i
  underMarker : r.Under i m
  underReceipt : o.Under r
  operations : a.operationId = op ∧ i.operationId = op ∧ m.operationId = op ∧ r.operationId = op ∧ o.operationId = op

/-- The part of a chain up to the receipt. -/
structure Stem (F : Files (Rec H)) (op : Sha256Digest) (act : Activation) (a : Authorization H) (i : Intent H)
    (m : DispatchStarted H) (r : Receipt H) : Prop where
  activation : F .activation = .bound act
  authorization : F (.authorization op) = .bound a
  intent : F (.intent op) = .bound i
  marker : F (.dispatchStarted op) = .bound m
  receipt : F (.receipt op) = .bound r
  underActivation : a.Under act
  underAuthorization : i.Under a
  underIntent : m.Under i
  underMarker : r.Under i m
  operations : a.operationId = op ∧ i.operationId = op ∧ m.operationId = op ∧ r.operationId = op

section Chains
variable {F F' : Files (Rec H)} {op : Sha256Digest} {act : Activation} {a : Authorization H} {i : Intent H}
  {m : DispatchStarted H} {r : Receipt H} {o : PostState H}

theorem exists_stem (hl : Linked Supported F) (hr : F (.receipt op) = .bound r) : ∃ act a i m, Stem F op act a i m r := by
  obtain ⟨hrop, i, m, hi, hm, hru⟩ := hl _ _ hr
  obtain ⟨hmop, i', hi', hmu⟩ := hl _ _ hm
  cases hi.symm.trans hi'
  obtain ⟨hiop, a, ha, hiu⟩ := hl _ _ hi
  obtain ⟨haop, act, hact, hau⟩ := hl _ _ ha
  exact ⟨act, a, i, m, hact, ha, hi, hm, hr, hau, hiu, hmu, hru, haop, hiop, hmop, hrop⟩

theorem Stem.chain (hs : Stem F op act a i m r) (ho : F (.postState op) = .bound o) (hop : o.operationId = op)
    (hu : o.Under r) : Chain F op act a i m r o :=
  { hs with
    observation := ho
    underReceipt := hu
    operations := ⟨hs.operations.1, hs.operations.2.1, hs.operations.2.2.1, hs.operations.2.2.2, hop⟩ }

theorem Chain.stem (hc : Chain F op act a i m r o) : Stem F op act a i m r :=
  { hc with operations := ⟨hc.operations.1, hc.operations.2.1, hc.operations.2.2.1, hc.operations.2.2.2.1⟩ }

theorem exists_chain (hl : Linked Supported F) (hr : F (.receipt op) = .bound r) (ho : F (.postState op) = .bound o) :
    ∃ act a i m, Chain F op act a i m r o := by
  obtain ⟨hoop, r', hr', hou⟩ := hl _ _ ho
  cases hr.symm.trans hr'
  obtain ⟨act, a, i, m, hs⟩ := exists_stem hl hr
  exact ⟨act, a, i, m, hs.chain ho hoop hou⟩

theorem Stem.grows (hs : Stem F op act a i m r) (hF : Grows F F') : Stem F' op act a i m r :=
  { hs with
    activation := hF _ _ hs.activation
    authorization := hF _ _ hs.authorization
    intent := hF _ _ hs.intent
    marker := hF _ _ hs.marker
    receipt := hF _ _ hs.receipt }

theorem Chain.grows (hc : Chain F op act a i m r o) (hF : Grows F F') : Chain F' op act a i m r o :=
  (hc.stem.grows hF).chain (hF _ _ hc.observation) hc.operations.2.2.2.2 hc.underReceipt

theorem grows_put {k : Key} (hk : F k = .absent) (v : Rec H k) : Grows F (F.put k (.bound v)) := by
  intro k' v' hb
  by_cases hkk : k' = k
  · subst hkk
    rw [hk] at hb
    cases hb
  · rw [Files.put_ne _ _ hkk]
    exact hb

end Chains

/-- What the file says: it is absent, or it holds this record. -/
def Reads (F : Files (Rec H)) (k : Key) : Option (Rec H k) → Prop
  | none => F k = .absent
  | some v => F k = .bound v

/-- The end of a chain: the reconciliation and the completion, so far as they
are there. -/
structure Tail (F : Files (Rec H)) (op : Sha256Digest) (r : Receipt H) (o : PostState H)
    (x : Option (Reconciliation H)) (c : Option Completion) : Prop where
  reconciliation : Reads F (.reconciliation op) x
  reconciles : ∀ y, x = some y → y.operationId = op ∧ y.Over r o
  completion : Reads (H := H) F (.completion op) c
  closes : ∀ d, c = some d → d.operationId = op ∧ d.Closes r o x

/-- Run alone, the call returns `x` and leaves the files `F'`, without any of the
controller's own ports. -/
def Yields {α : Type} (answer : (p : Port H) → p.Answer) (F : Files (Rec H)) (p : Code H α) (x : α)
    (F' : Files (Rec H)) : Prop :=
  p.Returns answer Journaling F (.ok x) F'

section Yields
variable {answer : (p : Port H) → p.Answer} {F F₁ F₂ : Files (Rec H)} {α β : Type}

theorem Yields.bind {p : Code H α} {f : α → Code H β} {x : α} {y : β} (hp : Yields answer F p x F₁)
    (hf : Yields answer F₁ (f x) y F₂) : Yields answer F (p >>= f) y F₂ :=
  Prog.Returns.bind hp hf

theorem yields_done (x : α) : Yields answer F (.done x) x F := Prog.returns_done.mpr ⟨rfl, rfl⟩

theorem yields_require {c : Prop} [Decidable c] {e : Exc} (hc : c) : Yields answer F (Prog.require c e) () F :=
  Prog.Returns.require hc

theorem yields_attempt {p : Code H α} {x : α} (hp : Yields answer F p x F₁) :
    Yields answer F (p.attempt : Code H (Except Exc α)) (.ok x) F₁ :=
  Prog.Returns.attempt hp

end Yields

namespace Journal

/-- Revalidation through this kind goes beyond the receipt. -/
def Through.late : Through → Bool
  | .postState => true
  | .reconciliation => true
  | .completion => true
  | _ => false

section Alone
variable {answer : (p : Port H) → p.Answer} {F : Files (Rec H)} {op : Sha256Digest} {act : Activation}
  {a : Authorization H} {i : Intent H} {m : DispatchStarted H} {r : Receipt H} {o : PostState H}

variable {k : Key} {v : Option (Rec H k)} {d : Completion} {L : Limits H}

theorem readRaw_yields (hk : Reads F k v) : Yields answer F (readRaw k) v F := by
  refine Prog.returns_read.mpr ⟨trivial, ?_⟩
  cases v with
  | none => rw [show F k = .absent from hk]; exact yields_done _
  | some v => rw [show F k = .bound v from hk]; exact yields_done _

theorem requireRecord_yields {v : Rec H k} (hk : F k = .bound v) : Yields answer F (requireRecord k) v F :=
  (readRaw_yields (show Reads F k (some v) from hk)).bind (yields_done v)

theorem verify_yields (hacc : Accepting answer act) (v : Verification H) : Yields answer F (verify v) () F := by
  refine Prog.returns_port.mpr ⟨trivial, ?_⟩
  rw [hacc.verify]
  exact yields_done _

theorem verifyActivation_yields (hacc : Accepting answer act) : Yields answer F (verifyActivation act) () F := by
  obtain ⟨e, he, hb⟩ := hacc.trusted
  have hev : Yields answer F (trustedEvidenceForActivation act) e F := by
    refine Prog.returns_port.mpr ⟨trivial, ?_⟩
    rw [he]
    dsimp only
    rw [if_pos hb]
    exact yields_done _
  exact hev.bind (verify_yields hacc _)

theorem assertFields_yields {l : List (String × Bool)} (h : ∀ x ∈ l, x.2 = true) :
    Yields answer F (assertFields l) () F := by
  induction l with
  | nil => exact yields_done _
  | cons x l ih =>
    obtain ⟨hx, hl⟩ := List.forall_mem_cons.mp h
    unfold assertFields
    rw [if_pos hx]
    exact ih hl

theorem sourceFields_self (s : SourceScope) : ∀ x ∈ sourceFields s s, x.2 = true := by simp [sourceFields]

theorem assertActivationScope_yields (hu : a.Under act) : Yields answer F (assertActivationScope a act) () F := by
  refine assertFields_yields (List.forall_mem_cons.mpr ⟨by simpa using hu.1, ?_⟩)
  rw [hu.2]
  exact sourceFields_self _

theorem assertScope_yields {s s' : Scope} (hs : s = s') : Yields answer F (assertScope s s') () F := by
  subst hs
  refine assertFields_yields (List.forall_mem_cons.mpr ⟨by simp, ?_⟩)
  exact List.forall_mem_append.mpr ⟨sourceFields_self _, by simp⟩

theorem requireActivation_yields (hacc : Accepting answer act) (hact : F .activation = .bound act) {d : Sha256Digest}
    (hd : act.activationDigest H = d) : Yields answer F (requireActivation d) act F := by
  refine (requireRecord_yields hact).bind ?_
  refine (yields_require hd).bind ?_
  exact (verifyActivation_yields hacc).bind (yields_done _)

theorem requireVerifiedReceipt_yields (hacc : Accepting answer act) (hc : Stem F op act a i m r) :
    Yields answer F (requireVerifiedReceipt op) r F := by
  have hact : act.activationDigest H = i.scope.activationDigest := by
    rw [hc.underAuthorization.1, hc.underActivation.1]
  refine (requireRecord_yields hc.intent).bind ?_
  refine (requireActivation_yields hacc hc.activation hact).bind ?_
  refine (requireRecord_yields hc.marker).bind ?_
  refine (requireRecord_yields hc.receipt).bind ?_
  refine (assertScope_yields hc.underMarker.1).bind ?_
  refine (yields_require hc.underMarker.2).bind ?_
  exact (verify_yields hacc _).bind (yields_done _)

variable {x : Option (Reconciliation H)} {c : Option Completion}

theorem assertCompletionArm_yields (h : d.Closes r o x) : Yields answer F (assertCompletionArm d r o x) () F := by
  obtain ⟨hexact, harm, hlinks⟩ := h
  exact (yields_require ⟨hexact, harm⟩).bind (yields_require hlinks)

theorem revalidateStem_yields (hacc : Accepting answer act) (hs : Stem F op act a i m r) (through : Through)
    (hlate : through.late = true → ∃ o, F (.postState op) = .bound o ∧ o.Under r ∧ (through ≠ .postState →
      ∃ x c, Tail F op r o x c ∧ (through = .reconciliation → x.isSome = true))) :
    Yields answer F (revalidateChain op through) () F := by
  refine (requireRecord_yields hs.activation).bind ?_
  refine (verifyActivation_yields hacc).bind ?_
  refine (requireRecord_yields hs.authorization).bind ?_
  refine (assertActivationScope_yields hs.underActivation).bind ?_
  refine (verify_yields hacc _).bind ?_
  split
  · exact yields_done _
  next hauthorization =>
  refine (requireRecord_yields hs.intent).bind ?_
  refine (assertScope_yields hs.underAuthorization.1).bind ?_
  refine (yields_require hs.underAuthorization.2).bind ?_
  split
  · exact yields_done _
  next hintent =>
  refine (readRaw_yields (show Reads F (.dispatchStarted op) (some m) from hs.marker)).bind ?_
  refine (yields_done m).bind ?_
  refine (assertScope_yields hs.underIntent.1).bind ?_
  refine (yields_require hs.underIntent.2).bind ?_
  split
  · exact yields_done _
  next hmarker =>
  refine (requireRecord_yields hs.receipt).bind ?_
  refine (assertScope_yields hs.underMarker.1).bind ?_
  refine (yields_require hs.underMarker.2).bind ?_
  refine (verify_yields hacc _).bind ?_
  split
  · exact yields_done _
  next hreceipt =>
  have hl : through.late = true := by cases through <;> first | rfl | contradiction
  obtain ⟨o, ho, hu, htail⟩ := hlate hl
  refine (requireRecord_yields ho).bind ?_
  refine (assertScope_yields hu.1).bind ?_
  refine (yields_require hu.2).bind ?_
  refine (verify_yields hacc _).bind ?_
  split
  · exact yields_done _
  next hobservation =>
  obtain ⟨x, c, ht, hx⟩ := htail hobservation
  have hreconciliation : Yields answer F (revalidateReconciliation x r o) () F := by
    cases x with
    | none => exact yields_done _
    | some y =>
      obtain ⟨_, hamb, hreceipt, hobservation⟩ := ht.reconciles y rfl
      exact (yields_require ⟨hamb, hreceipt, hobservation⟩).bind (verify_yields hacc _)
  refine (readRaw_yields ht.reconciliation).bind (hreconciliation.bind ?_)
  split
  · next hthrough => exact (yields_require (hx hthrough)).bind (yields_done _)
  refine (readRaw_yields ht.completion).bind ?_
  cases c with
  | none => exact yields_done _
  | some d => exact (assertCompletionArm_yields (ht.closes d rfl).2).bind (verify_yields hacc _)

theorem revalidateChain_yields (hacc : Accepting answer act) (hc : Chain F op act a i m r o) (ht : Tail F op r o x c)
    (through : Through) (hx : through = .reconciliation → x.isSome = true) :
    Yields answer F (revalidateChain op through) () F :=
  revalidateStem_yields hacc hc.stem through fun _ => ⟨o, hc.observation, hc.underReceipt, fun _ => ⟨x, c, ht, hx⟩⟩

theorem readChecked_yields {through : Through} (hk : Reads F k v)
    (hv : v.isSome = true → Yields answer F (revalidateChain op through) () F) :
    Yields answer F (readChecked k op through) v F := by
  refine (readRaw_yields hk).bind ?_
  dsimp only
  split
  · next hs => exact (hv hs).bind (yields_done _)
  · exact yields_done _

theorem record_yields (hacc : Accepting answer act) {v : Rec H k} (hk : F k = .absent)
    (hfits : L.recordBytes k v ≤ L.maxRecordBytes) : Yields answer F (record L k v) true (F.put k (.bound v)) := by
  unfold record
  rw [if_neg (Nat.not_lt.mpr hfits)]
  refine Prog.returns_port.mpr ⟨trivial, ?_⟩
  rw [hacc.install]
  exact (Prog.returns_publish hk).mpr ⟨trivial, yields_done _⟩

theorem recordReconciliation_yields (hacc : Accepting answer act) (hc : Chain F op act a i m r o) {y : Reconciliation H}
    (hop : y.operationId = op) (hover : y.Over r o) (hk : F (.reconciliation op) = .absent)
    (hfits : L.recordBytes (.reconciliation op) y ≤ L.maxRecordBytes) :
    Yields answer F (recordReconciliation L y) () (F.put (.reconciliation op) (.bound y)) := by
  subst hop
  refine (requireVerifiedReceipt_yields hacc hc.stem).bind ?_
  refine (requireRecord_yields hc.observation).bind ?_
  refine (yields_require hover.1).bind ?_
  refine (yields_require hover.2).bind ?_
  refine (verify_yields hacc _).bind ?_
  exact (record_yields hacc hk hfits).bind (yields_done _)

theorem recordCompletion_yields (hacc : Accepting answer act) (hc : Chain F op act a i m r o)
    (ht : Tail F op r o x none) (hop : d.operationId = op) (hcloses : d.Closes r o x)
    (hfits : L.recordBytes (.completion op) d ≤ L.maxRecordBytes) :
    Yields answer F (recordCompletion L d) () (F.put (.completion op) (.bound d)) := by
  subst hop
  refine (requireVerifiedReceipt_yields hacc hc.stem).bind ?_
  refine (requireRecord_yields hc.observation).bind ?_
  refine (readChecked_yields ht.reconciliation fun hs => revalidateChain_yields hacc hc ht _ fun _ => hs).bind ?_
  refine (assertCompletionArm_yields hcloses).bind ?_
  refine (verify_yields hacc _).bind ?_
  exact (record_yields hacc ht.completion hfits).bind (yields_done _)

end Alone

end Journal

/-! ## The controller -/

namespace Controller

/-- The digest of the reconciliation: of the durable one, or else of the one that
the observation calls for. -/
def reconciledDigest (F : Files (Rec H)) (op : Sha256Digest) (r : Receipt H) (o : PostState H) : Sha256Digest :=
  match F (.reconciliation op) with
  | .bound x => x.canonicalDigest
  | _ => H (.reconciliation (reconciliationOf r o))

/-- The completion that the files call for: the durable one, or else the one over
receipt, observation and reconciliation. -/
def settled (F : Files (Rec H)) (op : Sha256Digest) (r : Receipt H) (o : PostState H) : Completion :=
  match F (.completion op) with
  | .bound c => c
  | _ => completionOf r o (if r.outcome = .ambiguous then some (reconciledDigest F op r o) else none)

/-- The records that a recovery may have to write are within the size limit. -/
structure Fits (L : Limits H) (op : Sha256Digest) (r : Receipt H) (o : PostState H) : Prop where
  reconciliation : ∀ y : Reconciliation H, y.toReconciliationBody = reconciliationOf r o →
    L.recordBytes (.reconciliation op) y ≤ L.maxRecordBytes
  completion : ∀ d, L.recordBytes (.completion op) (completionOf r o d) ≤ L.maxRecordBytes

section Alone
variable {answer : (p : Port H) → p.Answer} {F : Files (Rec H)} {op : Sha256Digest} {act : Activation}
  {a : Authorization H} {i : Intent H} {m : DispatchStarted H} {r : Receipt H} {o : PostState H}
  {x : Option (Reconciliation H)} {L : Limits H}

theorem settled_of_bound {c : Completion} (hc : F (.completion op) = .bound c) : settled F op r o = c := by
  unfold settled
  rw [hc]

theorem settled_of_not_bound (hc : ∀ c, F (.completion op) ≠ .bound c) :
    settled F op r o = completionOf r o (if r.outcome = .ambiguous then some (reconciledDigest F op r o) else none) := by
  unfold settled
  split
  · next c hb => exact absurd hb (hc c)
  · rfl

theorem reconciledDigest_of_bound {y : Reconciliation H} (hy : F (.reconciliation op) = .bound y) :
    reconciledDigest F op r o = y.canonicalDigest := by
  unfold reconciledDigest
  rw [hy]

theorem reconciledDigest_of_not_bound (hy : ∀ y, F (.reconciliation op) ≠ .bound y) :
    reconciledDigest F op r o = H (.reconciliation (reconciliationOf r o)) := by
  unfold reconciledDigest
  split
  · next y hb => exact absurd hb (hy y)
  · rfl

theorem build_reconciliationOf (hc : Chain F op act a i m r o) (hamb : r.outcome = .ambiguous) :
    ∃ y, Reconciliation.build (reconciliationOf r o) = some y ∧ y.toReconciliationBody = reconciliationOf r o ∧
      y.operationId = op ∧ y.Over r o := by
  obtain ⟨_, _, _, hrop, hoop⟩ := hc.operations
  have happlied : (reconciliationOf r o).outcome = .applied → o.Exact := by
    intro h
    by_contra hnot
    have hno : ¬ exactTopology o := fun he => hnot he.2
    rw [reconciliationOf, if_neg hno] at h
    cases h
  have hvalid : (reconciliationOf r o).Valid H :=
    ⟨r.valid, o.valid, ⟨hamb, rfl, rfl, hoop.trans hrop.symm, hc.underReceipt.2.2.2.1⟩, happlied⟩
  exact ⟨⟨reconciliationOf r o, hvalid⟩, dif_pos hvalid, rfl, hrop, ⟨hamb, rfl, rfl⟩⟩

theorem complete_yields (hacc : Accepting answer act) (hc : Chain F op act a i m r o) (ht : Tail F op r o x none)
    (hfits : Fits L op r o) {d : Option Sha256Digest} (hcloses : (completionOf r o d).Closes r o x) (n : Nat) :
    Yields answer F (complete L i r o d n) (completed i.operationId n)
      (F.put (.completion op) (.bound (completionOf r o d))) :=
  (Journal.recordCompletion_yields hacc hc ht hc.operations.2.2.2.1 hcloses (hfits.completion d)).bind (yields_done _)

theorem closes_applied (hc : Chain F op act a i m r o) (hexact : exactTopology o) (happ : r.outcome = .applied) :
    (completionOf r o none).Closes r o none := by
  have harm : Journal.AppliedArm r o none := ⟨happ, hc.underReceipt.2.2.2.2.trans happ, rfl⟩
  exact ⟨hexact.2, .inl harm, rfl, rfl, rfl, (if_pos harm).symm⟩

theorem closes_reconciled (hc : Chain F op act a i m r o) (hexact : exactTopology o) {y : Reconciliation H}
    (hover : y.Over r o) (happ : y.outcome = .applied) :
    (completionOf r o (some y.canonicalDigest)).Closes r o (some y) := by
  have harm : Journal.RecoveredArm r o (some y) := ⟨hover.1, hc.underReceipt.2.2.2.2.trans hover.1, by simp [happ]⟩
  have hnot : ¬ Journal.AppliedArm r o (some y) := fun h => (nomatch h.2.2)
  exact ⟨hexact.2, .inr harm, rfl, rfl, rfl, (if_neg hnot).symm⟩

theorem settleReconciliation_yields (hacc : Accepting answer act) (hc : Chain F op act a i m r o)
    (ht : Tail F op r o x none) (hfits : Fits L op r o) (hamb : r.outcome = .ambiguous) :
    ∃ y F', Yields answer F (settleReconciliation L r o x) y F' ∧ Grows F F' ∧ Tail F' op r o (some y) none ∧
      (x = some y ∨ y.toReconciliationBody = reconciliationOf r o) ∧ y.canonicalDigest = reconciledDigest F op r o := by
  cases x with
  | some y =>
    have hbound : F (.reconciliation op) = .bound y := ht.reconciliation
    exact ⟨y, F, yields_done y, fun _ _ hb => hb, ht, .inl rfl, (reconciledDigest_of_bound hbound).symm⟩
  | none =>
    have habsent : F (.reconciliation op) = .absent := ht.reconciliation
    obtain ⟨y, hbuild, hbody, hop, hover⟩ := build_reconciliationOf hc hamb
    have hrecord := Journal.recordReconciliation_yields hacc hc hop hover habsent (hfits.reconciliation y hbody)
    have hbuilt : Yields answer F (Prog.ofOption (Reconciliation.build (reconciliationOf r o))
        (.value "invalid reconciliation")) y F := Prog.Returns.ofOption hbuild
    refine ⟨y, _, hbuilt.bind (hrecord.bind (yields_done y)), grows_put habsent y, ⟨?_, ?_, ?_, ?_⟩, .inr hbody, ?_⟩
    · exact Files.put_self _ _ _
    · rintro _ ⟨⟩
      exact ⟨hop, hover⟩
    · exact (Files.put_ne _ _ (by simp)).trans ht.completion
    · intro d hd
      cases hd
    · rw [reconciledDigest_of_not_bound (by simp [habsent]), Reconciliation.canonicalDigest, hbody]

theorem close_yields (hacc : Accepting answer act) (hc : Chain F op act a i m r o) (ht : Tail F op r o x none)
    (hfits : Fits L op r o) (hrej : r.outcome ≠ .rejected) (hexact : exactTopology o)
    (happ : ∀ y, x = some y → y.outcome = .applied) (n : Nat) :
    ∃ F', Yields answer F (close L i r n (some o) x) (completed i.operationId n) F' ∧
      F' (.completion op) = .bound (settled F op r o) := by
  have hnone : F (.completion op) = .absent := ht.completion
  rw [settled_of_not_bound (by simp [hnone])]
  by_cases hamb : r.outcome = .ambiguous
  · obtain ⟨y, F', hy, hgrows, ht', hwhich, hdigest⟩ := settleReconciliation_yields hacc hc ht hfits hamb
    have happ' : y.outcome = .applied := by
      rcases hwhich with hx | hbody
      · exact happ y hx
      · rw [hbody]; exact if_pos hexact
    rw [if_pos hamb, ← hdigest]
    have hcloses := closes_reconciled hc hexact (ht'.reconciles y rfl).2 happ'
    have hcomplete := complete_yields hacc (hc.grows hgrows) ht' hfits hcloses n
    refine ⟨_, (yields_done o).bind ?_, Files.put_self F' _ _⟩
    rw [if_pos hamb]
    refine hy.bind ?_
    rw [if_pos hexact]
    exact hcomplete
  · have happlied : r.outcome = .applied := by
      cases h : r.outcome with
      | applied => rfl
      | rejected => exact absurd h hrej
      | ambiguous => exact absurd h hamb
    have hx : x = none := by
      cases x with
      | none => rfl
      | some y => exact absurd (ht.reconciles y rfl).2.1 hamb
    subst hx
    rw [if_neg hamb]
    refine ⟨_, (yields_done o).bind ?_, Files.put_self F _ _⟩
    rw [if_neg hamb, if_pos hexact]
    exact complete_yields hacc hc ht hfits (closes_applied hc hexact happlied) n

theorem recoveryReads_yields (hacc : Accepting answer act) (hc : Chain F op act a i m r o)
    (ht : Tail F op r o x none) : Yields answer F (recoveryReads op) (.ok (i, some o, x)) F := by
  have hchain := fun through hx => Journal.revalidateChain_yields hacc hc ht through hx
  refine (Journal.readChecked_yields (show Reads F (.intent op) (some i) from hc.intent)
    fun _ => hchain _ (by simp)).bind ?_
  refine (Journal.readChecked_yields (show Reads F (.dispatchStarted op) (some m) from hc.marker)
    fun _ => hchain _ (by simp)).bind ?_
  refine (Journal.readChecked_yields (show Reads F (.postState op) (some o) from hc.observation)
    fun _ => hchain _ (by simp)).bind ?_
  refine (Journal.readChecked_yields ht.reconciliation fun hs => hchain _ fun _ => hs).bind ?_
  rw [if_neg (by simp)]
  exact yields_done _

theorem execute_yields (hacc : Accepting answer act) (hc : Chain F op act a i m r o) {c : Option Completion}
    (ht : Tail F op r o x c) (hfits : Fits L op r o) (hrej : r.outcome ≠ .rejected) (hexact : exactTopology o)
    (happ : ∀ y, x = some y → y.outcome = .applied) {b : Authorization H} (hop : b.operationId = op) :
    ∃ res F', Yields answer F (execute L b) res F' ∧ res.operationId = op ∧ res.state = .completed ∧
      res.outcome = some .applied ∧ F' (.completion op) = .bound (settled F op r o) := by
  have hchain := fun through hx => Journal.revalidateChain_yields hacc hc ht through hx
  have hreplay := yields_attempt (Journal.readChecked_yields ht.completion fun _ => hchain .completion (by simp))
  subst hop
  cases c with
  | some d =>
    refine ⟨completedReplay b.operationId, F, hreplay.bind (yields_done _), rfl, rfl, rfl, ?_⟩
    rw [settled_of_bound ht.completion]
    exact ht.completion
  | none =>
    obtain ⟨F', hclose, hsettled⟩ := close_yields hacc hc ht hfits hrej hexact happ 0
    refine ⟨completed i.operationId 0, F', hreplay.bind ?_, hc.operations.2.1, rfl, rfl, hsettled⟩
    have hstate : Yields answer F (recoveryState b.operationId) (some m, some r) F := by
      refine (Journal.readChecked_yields (show Reads F (.dispatchStarted _) (some m) from hc.marker)
        fun _ => hchain _ (by simp)).bind ?_
      refine (Journal.readChecked_yields (show Reads F (.receipt _) (some r) from hc.receipt)
        fun _ => hchain _ (by simp)).bind ?_
      exact yields_done _
    refine (yields_attempt hstate).bind ?_
    dsimp only
    unfold recoverReceipt
    rw [if_neg hrej, hc.operations.2.2.2.1]
    refine (yields_attempt (recoveryReads_yields hacc hc ht)).bind ?_
    exact (yields_attempt hclose).bind (yields_done _)

end Alone

end Controller

end AvoCorrelate.ExactCas
