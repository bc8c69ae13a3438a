import AvoCorrelate.ExactCas.Completion
/-!
# Observing again

An observation is recorded once, and recovery reads it back instead of observing
again. So a call that runs to its end, with a reader that by then sees the
candidate on main, completes the operation exactly when no earlier call left an
inexact observation, or a half-written index, behind.
-/
open AvoLib

namespace AvoCorrelate.ExactCas

variable {H : Doc → Sha256Digest}

/-- Run alone the call returns `x` and leaves the files `F'`, through any ports. -/
def Concludes {α : Type} (answer : (p : Port H) → p.Answer) (F : Files (Rec H)) (p : Code H α) (x : Except Exc α)
    (F' : Files (Rec H)) : Prop :=
  p.Returns answer (fun _ => True) F x F'

/-- The post-state reader sees main at the candidate, over the base alone, after
this receipt. -/
def SeesCandidate (answer : (p : Port H) → p.Answer) (r : Receipt H) : Prop :=
  ∀ i, ∃ o, answer (.observe i r) = .delivered o ∧ o.operationId = r.operationId ∧ o.Under r ∧ o.Exact

/-- Every record is within the size limit. -/
def Roomy (L : Limits H) : Prop := ∀ k v, L.recordBytes k v ≤ L.maxRecordBytes

/-- No inexact observation and no half-written index stands in the way of
recovery. -/
structure Unfrozen (F : Files (Rec H)) (op : Sha256Digest) : Prop where
  topology : ∀ o, F (.postState op) = .bound o → o.Exact
  observation : F (.postState op) ≠ .torn
  reconciliation : F (.reconciliation op) ≠ .torn
  completion : F (.completion op) ≠ .torn

section Concludes
variable {answer : (p : Port H) → p.Answer} {F F₁ F₂ : Files (Rec H)} {α β : Type}

theorem Yields.concludes {p : Code H α} {x : α} (hp : Yields answer F p x F₁) : Concludes answer F p (.ok x) F₁ :=
  Prog.Returns.mono hp fun _ _ => trivial

theorem Concludes.bind {p : Code H α} {f : α → Code H β} {x : α} {y : Except Exc β}
    (hp : Concludes answer F p (.ok x) F₁) (hf : Concludes answer F₁ (f x) y F₂) : Concludes answer F (p >>= f) y F₂ :=
  Prog.Returns.bind hp hf

theorem Concludes.bind_error {p : Code H α} {f : α → Code H β} {e : Exc} (hp : Concludes answer F p (.error e) F₁) :
    Concludes answer F (p >>= f) (.error e) F₁ :=
  Prog.Returns.bind_error hp

theorem Concludes.attempt {p : Code H α} {x : Except Exc α} (hp : Concludes answer F p x F₁) :
    Concludes answer F (p.attempt : Code H (Except Exc α)) (.ok x) F₁ :=
  Prog.Returns.attempt hp

theorem Concludes.unique {p : Code H α} {x y : Except Exc α} (hx : Concludes answer F p x F₁)
    (hy : Concludes answer F p y F₂) : x = y := hx.1.symm.trans hy.1

theorem readChecked_torn {k : Key} {op : Sha256Digest} {through : Journal.Through} (hk : F k = .torn) :
    Concludes answer F (Journal.readChecked k op through) (.error (.journal ("malformed " ++ k.kind))) F := by
  refine Concludes.bind_error (Prog.returns_read.mpr ⟨trivial, ?_⟩)
  rw [hk]
  exact Prog.returns_raise.mpr ⟨rfl, rfl⟩

end Concludes

namespace Controller

section Alone
variable {answer : (p : Port H) → p.Answer} {F : Files (Rec H)} {op : Sha256Digest} {act : Activation}
  {a : Authorization H} {i : Intent H} {m : DispatchStarted H} {r : Receipt H} {o : PostState H}
  {x : Option (Reconciliation H)} {L : Limits H}

theorem fits_of_roomy (hL : Roomy L) (op : Sha256Digest) (r : Receipt H) (o : PostState H) : Fits L op r o :=
  ⟨fun _ _ => hL _ _, fun _ => hL _ _⟩

theorem execute_of_recover (hacc : Accepting answer act) (hs : Stem F op act a i m r)
    (hc : F (.completion op) = .absent) {b : Authorization H} (hop : b.operationId = op) {res : ControllerResult}
    {F' : Files (Rec H)} (hrec : Concludes answer F (recoverReceipt L r) (.ok res) F') :
    Concludes answer F (execute L b) (.ok res) F' := by
  subst hop
  have hreplay : Yields answer F (Journal.readCompletion b.operationId) none F :=
    Journal.readChecked_yields (show Reads F (.completion b.operationId) none from hc) fun h => (nomatch h)
  have hstem := fun through (h : through.late = false) => Journal.revalidateStem_yields hacc hs through (by simp [h])
  have hstate : Yields answer F (recoveryState b.operationId) (some m, some r) F := by
    refine (Journal.readChecked_yields (show Reads F (.dispatchStarted _) (some m) from hs.marker)
      fun _ => hstem .dispatchStarted rfl).bind ?_
    refine (Journal.readChecked_yields (show Reads F (.receipt _) (some r) from hs.receipt)
      fun _ => hstem .receipt rfl).bind ?_
    exact yields_done _
  refine (yields_attempt hreplay).concludes.bind ?_
  exact (yields_attempt hstate).concludes.bind hrec

theorem recoveryReads_of_rest (hacc : Accepting answer act) (hs : Stem F op act a i m r)
    {y : Except Exc (Except String (Intent H × Option (PostState H) × Option (Reconciliation H)))}
    (hrest : Concludes answer F (do
      let observation ← Journal.readPostState op
      let reconciliation ← Journal.readReconciliation op
      if reconciliation.isSome ∧ observation.isNone then return .error "reconciliation chain is incomplete"
      else return .ok (i, observation, reconciliation)) y F) :
    Concludes answer F (recoveryReads op) y F := by
  have hstem := fun through (h : through.late = false) => Journal.revalidateStem_yields hacc hs through (by simp [h])
  refine (Journal.readChecked_yields (show Reads F (.intent op) (some i) from hs.intent)
    fun _ => hstem .intent rfl).concludes.bind ?_
  refine (Journal.readChecked_yields (show Reads F (.dispatchStarted op) (some m) from hs.marker)
    fun _ => hstem .dispatchStarted rfl).concludes.bind ?_
  exact hrest

theorem recoverReceipt_of_error (hrej : r.outcome ≠ .rejected) {e : Exc}
    (hreads : Concludes answer F (recoveryReads r.operationId) (.error e) F) :
    Concludes answer F (recoverReceipt L r) (.ok (unresolved r.operationId "receipt recovery is unresolved" true 0)) F := by
  unfold recoverReceipt
  rw [if_neg hrej]
  exact hreads.attempt.bind (yields_done _).concludes

theorem recoverReceipt_of_close (hrej : r.outcome ≠ .rejected) {o : Option (PostState H)} {res : ControllerResult}
    {F' : Files (Rec H)} (hreads : Concludes answer F (recoveryReads r.operationId) (.ok (.ok (i, o, x))) F)
    (hclose : Concludes answer F (close L i r 0 o x) (.ok res) F') :
    Concludes answer F (recoverReceipt L r) (.ok res) F' := by
  unfold recoverReceipt
  rw [if_neg hrej]
  refine hreads.attempt.bind ?_
  exact hclose.attempt.bind (yields_done _).concludes

theorem close_observing (hacc : Accepting answer act) (hs : Stem F op act a i m r) (hL : Roomy L)
    (hsees : SeesCandidate answer r) (hrej : r.outcome ≠ .rejected) (ho : F (.postState op) = .absent)
    (hx : F (.reconciliation op) = .absent) (hc : F (.completion op) = .absent) :
    ∃ res F', Concludes answer F (close L i r 0 none none) (.ok res) F' ∧ res.state = .completed := by
  obtain ⟨o, hans, hop, hu, hexact⟩ := hsees i
  have hoop : o.operationId = op := hop.trans hs.operations.2.2.2
  -- the files once the observation is recorded
  have hrecord : Yields answer F (Journal.recordPostState L o) () (F.put (.postState op) (.bound o)) := by
    subst hoop
    refine (Journal.requireVerifiedReceipt_yields hacc hs).bind ?_
    refine (Journal.assertScope_yields hu.1).bind ?_
    refine (yields_require hu.2).bind ?_
    refine (Journal.verify_yields hacc _).bind ?_
    exact (Journal.record_yields hacc ho (hL _ _)).bind (yields_done _)
  have hgrows := grows_put ho o
  have hchain : Chain (F.put (.postState op) (.bound o)) op act a i m r o :=
    (hs.grows hgrows).chain (Files.put_self _ _ _) hoop hu
  have htail : Tail (F.put (.postState op) (.bound o)) op r o none none := by
    refine ⟨?_, fun _ h => (nomatch h), ?_, fun _ h => (nomatch h)⟩
    · exact (Files.put_ne _ _ (by simp)).trans hx
    · exact (Files.put_ne _ _ (by simp)).trans hc
  obtain ⟨F', hclose, _⟩ := close_yields hacc hchain htail (fits_of_roomy hL op r o) hrej
    ⟨o.observedRef.property, hexact⟩ (fun _ h => (nomatch h)) 0
  have hobserve : Concludes answer F (settleObservation L i r none) (.ok o) (F.put (.postState op) (.bound o)) := by
    refine Prog.returns_port.mpr ⟨trivial, ?_⟩
    rw [hans]
    exact (hrecord.bind (yields_done o)).concludes
  exact ⟨completed i.operationId 0, F', hobserve.bind hclose.concludes, rfl⟩

theorem close_inexact (hacc : Accepting answer act) (hc : Chain F op act a i m r o) (hL : Roomy L)
    (ht : Tail F op r o x none) (hrej : r.outcome ≠ .rejected) (hnot : ¬ o.Exact) :
    ∃ res F', Concludes answer F (close L i r 0 (some o) x) (.ok res) F' ∧ res.state ≠ .completed := by
  have hamb : r.outcome = .ambiguous := by
    cases h : r.outcome with
    | applied => exact absurd (o.valid.2 (hc.underReceipt.2.2.2.2.trans h)) hnot
    | rejected => exact absurd h hrej
    | ambiguous => rfl
  have hno : ¬ exactTopology o := fun he => hnot he.2
  obtain ⟨y, F', hy, _⟩ := settleReconciliation_yields hacc hc ht (fits_of_roomy hL op r o) hamb
  refine ⟨unresolved i.operationId "ambiguous receipt remains unresolved" true 0, F', ?_, fun h => (nomatch h)⟩
  refine Yields.concludes ((yields_done o).bind ?_)
  rw [if_pos hamb]
  refine hy.bind ?_
  rw [if_neg hno]
  exact yields_done _

end Alone

end Controller

/-! ## Over every run -/

/-- No call is a direct one that records a reconciliation. -/
def Undisputed (_ : JournalWorld H) (move : JournalMove H) : Prop :=
  ∀ call, move = .start call → ∀ x, call ≠ .recordReconciliation x

section Runs
open Controller
variable {L : Limits H} {w : JournalWorld H} {op : Sha256Digest} {r : Receipt H} {o : PostState H} {act : Activation}
  {answer : (p : Port H) → p.Answer} {a : Authorization H}

theorem observed_of_undisputed
    (hw : Reaches (perform (JournalCall.program L)) Undisputed (Config.idle fun _ => .absent) w) (hk : JournalKnown w)
    (hr : w.files (.receipt op) = .bound r) (hrej : r.outcome ≠ .rejected) (ho : w.files (.postState op) = .bound o)
    (hexact : o.Exact) : Observed w.files op r o := by
  refine ⟨hr, hrej, ho, hexact, fun x hx => ?_⟩
  rcases hk.sound.published hk.linked hk.obeys hx with h | ⟨i, t, ht, h, _, hrule⟩
  · cases h
  · exact (reconciliation_of_rule hr ho hexact (fun y hy => absurd hy (Reaches.calls hw i t ht y)) hrule).1

theorem JournalKnown.unobserved (hk : JournalKnown w) (ho : w.files (.postState op) = .absent)
    (hx : w.files (.reconciliation op) ≠ .torn) (hc : w.files (.completion op) ≠ .torn) :
    w.files (.reconciliation op) = .absent ∧ w.files (.completion op) = .absent := by
  constructor
  · cases hf : w.files (.reconciliation op) with
    | absent => rfl
    | torn => exact absurd hf hx
    | bound x =>
      obtain ⟨_, _, _, _, ho', _⟩ := hk.linked _ _ hf
      cases ho.symm.trans ho'
  · cases hf : w.files (.completion op) with
    | absent => rfl
    | torn => exact absurd hf hc
    | bound c =>
      obtain ⟨_, _, _, _, _, ho', _⟩ := hk.linked _ _ hf
      cases ho.symm.trans ho'

theorem JournalKnown.exists_tail_absent (hk : JournalKnown w) (hr : w.files (.receipt op) = .bound r)
    (ho : w.files (.postState op) = .bound o) (hx : w.files (.reconciliation op) ≠ .torn)
    (hc : w.files (.completion op) = .absent) : ∃ x, Tail w.files op r o x none := by
  cases hf : w.files (.reconciliation op) with
  | torn => exact absurd hf hx
  | absent => exact ⟨none, hf, fun _ h => (nomatch h), hc, fun _ h => (nomatch h)⟩
  | bound x =>
    obtain ⟨hxop, r', o', hr', ho', hover⟩ := hk.linked _ _ hf
    cases hr.symm.trans hr'
    cases ho.symm.trans ho'
    refine ⟨some x, hf, fun y hy => ?_, hc, fun _ h => (nomatch h)⟩
    cases hy
    exact ⟨hxop, hover⟩

theorem JournalRuns.unfrozen_of_completed (hw : JournalRuns L w) {c : Completion}
    (hc : w.files (.completion op) = .bound c) : Unfrozen w.files op := by
  obtain ⟨_, _, _, _, r, o, hchain, ⟨_, hexact⟩, _, harm⟩ := hw.completed hc
  refine ⟨fun o' ho' => ?_, by rw [hchain.observation]; exact fun h => (nomatch h), ?_, by rw [hc]; exact fun h => (nomatch h)⟩
  · cases hchain.observation.symm.trans ho'
    exact hexact
  · rcases harm with ⟨_, hx, _⟩ | ⟨_, x, hx, _⟩
    · rw [hx]; exact fun h => (nomatch h)
    · rw [hx]; exact fun h => (nomatch h)

theorem completes_of_unfrozen
    (hw : Reaches (perform (JournalCall.program L)) Undisputed (Config.idle fun _ => .absent) w) (hruns : JournalRuns L w)
    (hr : w.files (.receipt op) = .bound r) (hrej : r.outcome ≠ .rejected) (hact : w.files .activation = .bound act)
    (hacc : Accepting answer act) (hsees : SeesCandidate answer r) (hL : Roomy L) (hop : a.operationId = op)
    (hu : Unfrozen w.files op) :
    ∃ res files', Concludes answer w.files (execute L a) (.ok res) files' ∧ res.state = .completed := by
  have hk := hruns.known
  obtain ⟨act', b, i, m, hstem⟩ := exists_stem hk.linked hr
  cases hact.symm.trans hstem.activation
  cases ho : w.files (.postState op) with
  | torn => exact absurd ho hu.observation
  | bound o =>
    have hobs := observed_of_undisputed hw hk hr hrej ho (hu.topology o ho)
    obtain ⟨x, c, htail, happ⟩ := hruns.exists_tail hobs hu.reconciliation hu.completion
    obtain ⟨_, _, _, _, hchain⟩ := exists_chain hk.linked hr ho
    cases hact.symm.trans hchain.activation
    obtain ⟨res, files', hres, _, hstate, _⟩ :=
      execute_yields hacc hchain htail (fits_of_roomy hL op r o) hrej hobs.exactTopology happ hop
    exact ⟨res, files', hres.concludes, hstate⟩
  | absent =>
    obtain ⟨hx, hc⟩ := hk.unobserved ho hu.reconciliation hu.completion
    obtain ⟨res, files', hclose, hstate⟩ := close_observing hacc hstem hL hsees hrej ho hx hc
    have hreads : Concludes answer w.files (recoveryReads r.operationId) (.ok (.ok (i, none, none))) w.files := by
      rw [hstem.operations.2.2.2]
      refine recoveryReads_of_rest hacc hstem ?_
      refine (Journal.readChecked_yields (show Reads w.files (.postState op) none from ho)
        fun h => (nomatch h)).concludes.bind ?_
      refine (Journal.readChecked_yields (show Reads w.files (.reconciliation op) none from hx)
        fun h => (nomatch h)).concludes.bind ?_
      exact (yields_done _).concludes
    exact ⟨res, files', execute_of_recover hacc hstem hc hop (recoverReceipt_of_close hrej hreads hclose), hstate⟩

theorem recoveryReads_torn (hacc : Accepting answer act) {b : Authorization H} {i : Intent H} {m : DispatchStarted H}
    (hstem : Stem w.files op act b i m r) (hk : JournalKnown w)
    (htorn : w.files (.postState op) = .torn ∨ w.files (.reconciliation op) = .torn) :
    ∃ e, Concludes answer w.files (recoveryReads r.operationId) (.error e) w.files := by
  rw [hstem.operations.2.2.2]
  have hfirst : w.files (.postState op) = .torn → ∃ e, Concludes answer w.files (recoveryReads op) (.error e) w.files :=
    fun ho => ⟨_, recoveryReads_of_rest hacc hstem (Concludes.bind_error (readChecked_torn ho))⟩
  have hread : w.files (.postState op) ≠ .torn → ∃ o, Yields answer w.files (Journal.readPostState op) o w.files := by
    intro ho
    cases hf : w.files (.postState op) with
    | torn => exact absurd hf ho
    | absent => exact ⟨none, Journal.readChecked_yields hf fun h => (nomatch h)⟩
    | bound o =>
      obtain ⟨_, r', hr', hu⟩ := hk.linked _ _ hf
      cases hstem.receipt.symm.trans hr'
      refine ⟨some o, Journal.readChecked_yields hf fun _ => ?_⟩
      exact Journal.revalidateStem_yields hacc hstem .postState fun _ => ⟨o, hf, hu, fun h => absurd rfl h⟩
  by_cases ho : w.files (.postState op) = .torn
  · exact hfirst ho
  · obtain ⟨o, hread⟩ := hread ho
    have hx : w.files (.reconciliation op) = .torn := htorn.resolve_left ho
    exact ⟨_, recoveryReads_of_rest hacc hstem (hread.concludes.bind (Concludes.bind_error (readChecked_torn hx)))⟩

theorem unfrozen_of_completes (hruns : JournalRuns L w) (hr : w.files (.receipt op) = .bound r)
    (hrej : r.outcome ≠ .rejected) (hact : w.files .activation = .bound act) (hacc : Accepting answer act)
    (hL : Roomy L) (hop : a.operationId = op) {res : ControllerResult} {files' : Files (Rec H)}
    (hres : Concludes answer w.files (execute L a) (.ok res) files') (hstate : res.state = .completed) :
    Unfrozen w.files op := by
  have hk := hruns.known
  obtain ⟨act', b, i, m, hstem⟩ := exists_stem hk.linked hr
  cases hact.symm.trans hstem.activation
  -- the call has one result, so no other run of it ends elsewhere
  have hother : ∀ {res' files₁}, Concludes answer w.files (execute L a) (.ok res') files₁ → res'.state ≠ .completed → False := by
    intro res' files₁ hres' hne
    cases hres.unique hres'
    exact hne hstate
  have hrecovered : ∀ {res' files₁}, w.files (.completion op) = .absent →
      Concludes answer w.files (recoverReceipt L r) (.ok res') files₁ → res'.state ≠ .completed → False :=
    fun hc hrec hne => hother (execute_of_recover hacc hstem hc hop hrec) hne
  cases hc : w.files (.completion op) with
  | bound c => exact hruns.unfrozen_of_completed hc
  | torn =>
    subst hop
    have hreplay : Concludes answer w.files (execute L a) (.ok (unresolved a.operationId "completion replay is unresolved"
        false 0)) w.files := (readChecked_torn hc).attempt.bind (yields_done _).concludes
    exact (hother hreplay fun h => (nomatch h)).elim
  | absent =>
    by_cases htorn : w.files (.postState op) = .torn ∨ w.files (.reconciliation op) = .torn
    · obtain ⟨e, hreads⟩ := recoveryReads_torn hacc hstem hk htorn
      exact (hrecovered hc (recoverReceipt_of_error hrej hreads) fun h => (nomatch h)).elim
    · have hotorn : w.files (.postState op) ≠ .torn := fun h => htorn (.inl h)
      have hxtorn : w.files (.reconciliation op) ≠ .torn := fun h => htorn (.inr h)
      refine ⟨fun o ho => ?_, hotorn, hxtorn, by rw [hc]; exact fun h => (nomatch h)⟩
      by_contra hnot
      obtain ⟨_, r', hr', hu⟩ := hk.linked _ _ ho
      cases hr.symm.trans hr'
      have hchain := hstem.chain ho (hk.linked _ _ ho).1 hu
      obtain ⟨x, htail⟩ := hk.exists_tail_absent hr ho hxtorn hc
      obtain ⟨res', files₁, hclose, hne⟩ := close_inexact hacc hchain hL htail hrej hnot
      have hreads := (recoveryReads_yields hacc hchain htail).concludes
      rw [← hstem.operations.2.2.2] at hreads
      exact hrecovered hc (recoverReceipt_of_close hrej hreads hclose) hne

end Runs

namespace Sample

/-- An early read that still saw the base. -/
def stale : PostState digest :=
  ⟨{ (observation ambiguousReceipt).toPostStateBody with
      observedCommit := "b", observedTree := "bt", observedParents := ["a"], observedAt := 61 }, by decide⟩

/-- As `answer` for an ambiguous dispatch, with the early read. -/
def earlyAnswer : (p : Port digest) → p.Answer
  | .trustedRead op => answer .ambiguous 10 (.trustedRead op)
  | .verify v => answer .ambiguous 10 (.verify v)
  | .install k => answer .ambiguous 10 (.install k)
  | .now => answer .ambiguous 10 .now
  | .assertCurrent op ref id d e n => answer .ambiguous 10 (.assertCurrent op ref id d e n)
  | .apply i m => answer .ambiguous 10 (.apply i m)
  | .observe _ _ => .delivered stale

/-- A controller observes too early and leaves the operation unresolved. -/
def observedEarly : List (JournalMove digest) :=
  journalSteps 0 5 (.recordActivation activation) ++
    (.start (.execute authorization) :: List.replicate 65 (.step 1 (.calm earlyAnswer)))

/-- The moves start no direct call that records a reconciliation. -/
def undisputed (_ : JournalWorld digest) : JournalMove digest → Bool
  | .start (.recordReconciliation _) => false
  | _ => true

theorem reaches_undisputed {moves : List (JournalMove digest)}
    (h : allowed (perform (JournalCall.program limits)) undisputed (Config.idle fun _ => .absent) moves = true) :
    Reaches (perform (JournalCall.program limits)) Undisputed (Config.idle fun _ => .absent) (journalAfter limits moves) := by
  refine (reaches_result h).mono fun _ move hm call hstart x hx => ?_
  subst hstart hx
  cases hm

theorem seesCandidate : SeesCandidate (answer .ambiguous 10) ambiguousReceipt :=
  fun _ => ⟨observation ambiguousReceipt, rfl, rfl, ⟨rfl, rfl, rfl, rfl, rfl⟩, observation_exact⟩

theorem roomy : Roomy limits := fun _ _ => Nat.zero_le 1

end Sample

/-- Next to a durable applied or ambiguous receipt, after any run of controllers,
a call that runs to its end with accepting verifiers and a reader that sees the
candidate completes the operation exactly when it is not frozen. -/
theorem completes_iff_unfrozen {L : Limits H} {w : JournalWorld H}
    (hw : Reaches (perform (JournalCall.program L)) Undisputed (Config.idle fun _ => .absent) w) {op : Sha256Digest}
    {r : Receipt H} {act : Activation} {answer : (p : Port H) → p.Answer} {a : Authorization H}
    (hr : w.files (.receipt op) = .bound r) (hrej : r.outcome ≠ .rejected) (hact : w.files .activation = .bound act)
    (hacc : Accepting answer act) (hsees : SeesCandidate answer r) (hL : Roomy L) (hop : a.operationId = op) :
    (∃ res files', Concludes answer w.files (Controller.execute L a) (.ok res) files' ∧ res.state = .completed) ↔
      Unfrozen w.files op := by
  have hruns : JournalRuns L w := hw.mono fun _ _ _ => trivial
  constructor
  · rintro ⟨res, files', hres, hstate⟩
    exact unfrozen_of_completes hruns hr hrej hact hacc hL hop hres hstate
  · exact completes_of_unfrozen hw hruns hr hrej hact hacc hsees hL hop

set_option maxRecDepth 4000 in
theorem completes_iff_unfrozen_observed :
    (∃ res files', Concludes (Sample.answer .ambiguous 10) (Sample.journalAfter Sample.limits Sample.observed).files
      (Controller.execute Sample.limits Sample.authorization) (.ok res) files' ∧ res.state = .completed) ↔
      Unfrozen (Sample.journalAfter Sample.limits Sample.observed).files Sample.operation := by
  obtain ⟨hact, hr, _⟩ := Sample.files_of_holds Sample.runs_observed Sample.observed_holds.1
  exact completes_iff_unfrozen (Sample.reaches_undisputed (by decide +kernel)) hr Sample.ambiguousReceipt_accepted hact
    (Sample.accepting _ _) Sample.seesCandidate Sample.roomy rfl

set_option maxRecDepth 4000 in
/-- An observation made too early freezes the operation. -/
theorem early_observation_freezes :
    ¬ ∀ (w : JournalWorld Sample.digest) op r act answer (a : Authorization Sample.digest),
      Reaches (perform (JournalCall.program Sample.limits)) Undisputed (Config.idle fun _ => .absent) w →
      w.files (.receipt op) = .bound r → r.outcome ≠ .rejected → w.files .activation = .bound act →
      Accepting answer act → SeesCandidate answer r → Roomy Sample.limits → a.operationId = op →
      ∃ res files', Concludes answer w.files (Controller.execute Sample.limits a) (.ok res) files' ∧
        res.state = .completed := by
  intro hall
  obtain ⟨res, files', hres, hstate⟩ := hall (Sample.journalAfter Sample.limits Sample.observedEarly) Sample.operation
    Sample.ambiguousReceipt Sample.activation (Sample.answer .ambiguous 10) Sample.authorization
    (Sample.reaches_undisputed (by decide)) (by decide) Sample.ambiguousReceipt_accepted (by decide)
    (Sample.accepting _ _) Sample.seesCandidate Sample.roomy rfl
  have hends : Sample.endsOtherwise Sample.limits (Sample.journalAfter Sample.limits Sample.observedEarly) = true := by
    decide
  unfold Sample.endsOtherwise at hends
  rw [hres.1] at hends
  simp [Except.toOption, hstate] at hends

end AvoCorrelate.ExactCas
