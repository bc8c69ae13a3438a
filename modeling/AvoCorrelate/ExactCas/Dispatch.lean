import AvoCorrelate.ExactCas.ControllerLogic
import AvoCorrelate.Lib.Interleaving
/-!
# At most one dispatch

Any number of controllers, in any number of processes, over one journal: `World`
is the journal's files with every call made so far. A run starts from an empty
journal; its calls record activations and execute authorizations, interleave
and crash at will, and get any answers from their ports.
-/
open AvoLib

namespace AvoCorrelate.ExactCas

variable {H : Doc → Sha256Digest}

inductive Call (H : Doc → Sha256Digest)
  | recordActivation (activation : Activation)
  | execute (authorization : Authorization H)

def Call.program (L : Limits H) : Call H → Code H (Option ControllerResult)
  | .recordActivation activation => do
    Journal.recordActivation L activation
    return none
  | .execute authorization => do
    let result ← Controller.execute L authorization
    return some result

abbrev World (H : Doc → Sha256Digest) := Config (Call H) (Rec H) (Port.Answer (H := H)) Exc (Option ControllerResult)

abbrev CallThread (H : Doc → Sha256Digest) :=
  Thread (Call H) (Rec H) (Port.Answer (H := H)) Exc (Option ControllerResult)

abbrev WorldMove (H : Doc → Sha256Digest) := Move (Call H) (Port.Answer (H := H))

def World.fresh : World H := Config.idle fun _ => .absent

/-- Worlds that some run reaches. -/
def Runs (L : Limits H) (w : World H) : Prop := Reaches (perform (Call.program L)) (fun _ _ => True) World.fresh w

/-- Worlds that a run through `w` can still reach. -/
def World.Later (L : Limits H) (w w' : World H) : Prop := Reaches (perform (Call.program L)) (fun _ _ => True) w w'

/-! ## Every call keeps to its rules -/

def callRules : Call H → Files (Rec H) → Rules (Rec H) (Port.Answer (H := H))
  | .recordActivation a, _ => fun _ act => Writes .activation a act
  | .execute a, F => rules a F

def callPost : Call H → Files (Rec H) → Log H → Except Exc (Option ControllerResult) → Prop
  | .recordActivation _, _ => Prog.Returning fun _ res => res = none
  | .execute a, F => Prog.Returning fun h res => ∃ r, res = some r ∧ Controller.Truthful a F h r

theorem Supported.grows {F F' : Files (Rec H)} {k : Key} {v : Rec H k} (hF : Grows F F') (hs : Supported F k v) :
    Supported F' k v := by
  cases k with
  | activation => trivial
  | authorization op =>
    obtain ⟨hop, a, ha, hu⟩ := hs
    exact ⟨hop, a, hF _ _ ha, hu⟩
  | intent op =>
    obtain ⟨hop, a, ha, hu⟩ := hs
    exact ⟨hop, a, hF _ _ ha, hu⟩
  | dispatchStarted op =>
    obtain ⟨hop, i, hi, hu⟩ := hs
    exact ⟨hop, i, hF _ _ hi, hu⟩
  | receipt op =>
    obtain ⟨hop, i, m, hi, hm, hu⟩ := hs
    exact ⟨hop, i, m, hF _ _ hi, hF _ _ hm, hu⟩
  | postState op =>
    obtain ⟨hop, r, hr, hu⟩ := hs
    exact ⟨hop, r, hF _ _ hr, hu⟩
  | reconciliation op =>
    obtain ⟨hop, r, o, hr, ho, hu⟩ := hs
    exact ⟨hop, r, o, hF _ _ hr, hF _ _ ho, hu⟩
  | completion op =>
    obtain ⟨hop, r, o, x, hr, ho, hx, hu⟩ := hs
    exact ⟨hop, r, o, x, hF _ _ hr, hF _ _ ho, fun y hy => hF _ _ (hx y hy), hu⟩

theorem callRules_supported (call : Call H) (F : Files (Rec H)) (h : Log H) (k : Key) (v : Rec H k)
    (hr : callRules call F h (.publish k v)) : Supported F k v := by
  cases call with
  | recordActivation a =>
    rcases hr with hq | hi | hp
    · exact hq.elim
    · cases hi
    · cases hp; trivial
  | execute a => exact hr.2.1

theorem program_safe (L : Limits H) (call : Call H) (F : Files (Rec H)) (hl : Linked Supported F) :
    (call.program L).Safe F (callRules call F) (callPost call F) [] := by
  cases call with
  | recordActivation a =>
    refine (Journal.recordActivation_safe a fun _ _ _ hw => hw).seq fun _ _ _ _ => ?_
    exact rfl
  | execute a => exact (Controller.execute_safe L hl).seq fun h res _ hres => ⟨res, rfl, hres⟩

structure World.Known (w : World H) : Prop where
  sound : w.Sound fun _ => .absent
  linked : Linked Supported w.files
  obeys : w.Obeys (fun _ => .absent) Supported callRules callPost

theorem Runs.known {L : Limits H} {w : World H} (hw : Runs L w) : w.Known := by
  have hall : w.Sound (fun _ => .absent) ∧ Linked Supported w.files ∧
      w.Obeys (fun _ => .absent) Supported callRules callPost :=
    sound_obeys Supported.grows callRules_supported (by intro k v h; cases h)
      (fun call F _ hl => program_safe L call F hl) hw
  exact ⟨hall.1, hall.2.1, hall.2.2⟩

section Known
variable {w : World H} {i : Nat} {t : CallThread H} {a : Authorization H}

theorem World.Known.execute (hk : w.Known) (ht : w.threads[i]? = some t) (hc : t.call = .execute a) :
    Along (rules a w.files) t.log ∧ t.status.Safe w.files (rules a w.files) (callPost (.execute a) w.files) t.log := by
  have h := hk.sound.obeys hk.linked hk.obeys ht
  rw [hc] at h
  exact h

/-! ## Counting dispatches -/

/-- The event is a dispatch of operation `op`. -/
def dispatches (op : Sha256Digest) : Event (Rec H) (Port.Answer (H := H)) → Bool
  | .port (.apply intent _) _ => intent.operationId = op
  | _ => false

/-- How often the dispatch of `op` was invoked, over all calls there ever were. -/
def World.dispatchCount (op : Sha256Digest) (w : World H) : Nat :=
  (w.threads.map fun t => t.log.countP (dispatches op)).sum

variable {op : Sha256Digest} {e : Event (Rec H) (Port.Answer (H := H))} {F : Files (Rec H)} {h : Log H}
  {intent : Intent H} {marker : DispatchStarted H}

theorem dispatches_iff :
    dispatches op e = true ↔ ∃ i m r, e = .port (.apply i m) r ∧ i.operationId = op := by
  constructor
  · intro h
    unfold dispatches at h
    split at h
    · next i m r => exact ⟨i, m, r, rfl, of_decide_eq_true h⟩
    · cases h
  · rintro ⟨i, m, r, rfl, hop⟩
    exact decide_eq_true hop

theorem countP_le_one (op : Sha256Digest) (hr : Along (rules a F) h) : h.countP (dispatches op) ≤ 1 := by
  refine hr.countP_le_one fun h e he hrule e' hm => ?_
  obtain ⟨i, m, r, rfl, _⟩ := dispatches_iff.mp he
  have hidle : NoApply h := hrule.2.idle
  by_contra hd
  obtain ⟨_, _, _, rfl, _⟩ := dispatches_iff.mp (by simpa using hd : dispatches op e' = true)
  cases hidle _ hm

theorem World.Known.dispatched (hk : w.Known) (ht : w.threads[i]? = some t) (he : e ∈ t.log)
    (hd : dispatches op e = true) :
    ∃ a, t.call = .execute a ∧ a.operationId = op ∧ t.Owns (.dispatchStarted op) := by
  obtain ⟨i, m, r, rfl, hop⟩ := dispatches_iff.mp hd
  obtain ⟨h, hs, hr⟩ := (hk.sound.obeys hk.linked hk.obeys ht).1.rule he
  cases hc : t.call with
  | recordActivation act =>
    rw [hc] at hr
    rcases hr with hq | hi | hp
    · exact hq.elim
    · cases hi
    · cases hp
  | execute a =>
    rw [hc] at hr
    have hready : Ready a w.files h i m := hr.2
    have haop : a.operationId = op := ((hk.linked _ _ hready.intent).1).symm.trans hop
    refine ⟨a, rfl, haop, m, .inr (.inl ?_)⟩
    rw [← haop]
    exact hs.mem hready.claimed

theorem World.Known.dispatchCount_le (hk : w.Known) (op : Sha256Digest) : w.dispatchCount op ≤ 1 := by
  refine sum_le_one ?_ ?_
  · intro t ht
    obtain ⟨i, hi⟩ := List.getElem?_of_mem ht
    by_cases hpos : 0 < t.log.countP (dispatches op)
    · obtain ⟨e, he, hd⟩ := List.countP_pos_iff.mp hpos
      obtain ⟨a, hc, _, _⟩ := hk.dispatched hi he hd
      exact countP_le_one op (hk.execute hi hc).1
    · omega
  · intro i j t u hi hj ht hu
    obtain ⟨e, he, hd⟩ := List.countP_pos_iff.mp ht
    obtain ⟨e', he', hd'⟩ := List.countP_pos_iff.mp hu
    obtain ⟨_, _, _, hown⟩ := hk.dispatched hi he hd
    obtain ⟨_, _, _, hown'⟩ := hk.dispatched hj he' hd'
    exact hk.sound.exclusive hi hj hown hown'

/-! ## The dispatch and its clock -/

/-- The instants that a call read from its clock, in order. -/
def instants (h : Log H) : List Instant :=
  (readings h).reverse.filterMap fun
    | .aware t => some t
    | _ => none

/-- Every clock reading is an instant of the authorization's window. -/
def InWindow (a : Authorization H) (h : Log H) : Prop :=
  ∀ r ∈ readings h, ∃ t, r = .aware t ∧ a.authorizedAt ≤ t ∧ t < a.scope.leaseExpiresAt

def NonDecreasing (h : Log H) : Prop := (instants h).Pairwise (· ≤ ·)

instance (h : Log H) : Decidable (NonDecreasing h) := inferInstanceAs (Decidable (List.Pairwise _ _))

/-- The intent is no older than the first clock reading of the call, or the clock
did not step back between the first reading and the second. -/
def ClockKept (intent : Intent H) (h : Log H) : Prop :=
  ∀ t₁ t₂ rest, instants h = t₁ :: t₂ :: rest → t₁ ≤ intent.recordedAt ∨ t₁ ≤ t₂

/-- Authorization, intent and marker are durable and each is bound to the one
before it. -/
structure Authorized (w : World H) (a : Authorization H) (i : Intent H) (m : DispatchStarted H) : Prop where
  authorization : w.files (.authorization a.operationId) = .bound a
  intent : w.files (.intent a.operationId) = .bound i
  underAuthorization : i.toBinding = a.toBinding ∧ i.authorizationDigest = a.authorizationDigest
  marker : w.files (.dispatchStarted a.operationId) = .bound m
  underIntent : m.toBinding = i.toBinding ∧ m.intentDigest = i.intentDigest

theorem binding_eq {b c : Binding} (hop : b.operationId = c.operationId) (hs : b.scope = c.scope) : b = c := by
  cases b
  cases c
  simp_all

theorem World.Known.intent_after (hk : w.Known) (ha : w.files (.authorization a.operationId) = .bound a)
    (hi : w.files (.intent a.operationId) = .bound intent) : a.authorizedAt ≤ intent.recordedAt := by
  rcases hk.sound.published hk.linked hk.obeys hi with h | ⟨i, t, ht, h, _, hr⟩
  · cases h
  · cases hc : t.call with
    | recordActivation act =>
      rw [hc] at hr
      rcases hr with hq | hi | hp
      · exact hq.elim
      · cases hi
      · cases hp
    | execute b =>
      rw [hc] at hr
      have hb : w.files (.authorization a.operationId) = .bound b ∧ b.authorizedAt ≤ intent.recordedAt := hr.2.2
      cases ha.symm.trans hb.1
      exact hb.2

theorem World.Known.authorized (hk : w.Known) (hr : Ready a w.files h intent marker) :
    Authorized w a intent marker := by
  obtain ⟨hiop, b, hb, hiu⟩ := hk.linked _ _ hr.intent
  cases hb.symm.trans hr.authorization
  obtain ⟨hmop, j, hj, hmu⟩ := hk.linked _ _ hr.marker
  cases hj.symm.trans hr.intent
  refine ⟨hr.authorization, hr.intent, ⟨binding_eq hiop hiu.1, hiu.2⟩, hr.marker, ⟨?_, hmu.2⟩⟩
  exact binding_eq (hmop.trans hiop.symm) hmu.1

theorem World.Known.clock (hk : w.Known) (hr : Ready a w.files h intent marker) :
    InWindow a h ∧ (NonDecreasing h ↔ ClockKept intent h) := by
  have hafter : a.authorizedAt ≤ intent.recordedAt := hk.intent_after hr.authorization hr.intent
  have hscope : intent.scope = a.scope := congrArg Binding.scope (hk.authorized hr).underAuthorization.1
  obtain ⟨t₁, t₂, t₃, hread, hle₁, hlt₁, hle₂, hlt₂, hle₃, hlt₃⟩ := hr.clock
  rw [hscope] at hlt₂ hlt₃
  have hinst : instants h = [t₁, t₂, t₃] := by simp [instants, hread]
  have hwin₂ : a.authorizedAt ≤ t₂ := Int.le_trans hafter hle₂
  constructor
  · intro r hm
    rw [hread] at hm
    simp only [List.mem_cons, List.not_mem_nil, or_false] at hm
    rcases hm with rfl | rfl | rfl
    · exact ⟨t₃, rfl, Int.le_trans hwin₂ hle₃, hlt₃⟩
    · exact ⟨t₂, rfl, hwin₂, hlt₂⟩
    · exact ⟨t₁, rfl, hle₁, hlt₁⟩
  · unfold NonDecreasing ClockKept
    rw [hinst]
    constructor
    · intro hsorted s₁ s₂ rest he
      cases he
      exact .inr (List.rel_of_pairwise_cons hsorted (by simp))
    · intro hkept
      have h₁₂ : t₁ ≤ t₂ := by
        rcases hkept t₁ t₂ [t₃] rfl with h | h
        · exact Int.le_trans h hle₂
        · exact h
      refine List.pairwise_cons.mpr ⟨?_, List.pairwise_pair.mpr hle₃⟩
      intro t ht
      simp only [List.mem_cons, List.not_mem_nil, or_false] at ht
      rcases ht with rfl | rfl
      · exact h₁₂
      · exact Int.le_trans h₁₂ hle₃

/-! ## Replay -/

/-- The call touched no port of the controller and no file. -/
def ReadOnly (t : CallThread H) : Prop :=
  (∀ e ∈ t.log, Quiet e.action) ∧ ∀ k v next, t.status ≠ .writing k v next

theorem rules_looked {act : Action (Rec H) (Port H)} (hr : rules a F h act) : Quiet act ∨ Looked a.operationId h := by
  cases act with
  | read k => exact .inl trivial
  | publish k v => exact .inr hr.1
  | port p =>
    cases p with
    | trustedRead _ | verify _ => exact .inl trivial
    | apply i m => exact .inr hr.1
    | install _ | now | assertCurrent _ _ _ _ _ _ | observe _ _ => exact .inr hr

theorem World.Known.readOnly (hk : w.Known) (ht : w.threads[i]? = some t) (hc : t.call = .execute a)
    (hn : ¬ Looked a.operationId t.log) : ReadOnly t := by
  obtain ⟨halong, hsafe⟩ := hk.execute ht hc
  constructor
  · intro e he
    obtain ⟨h, hs, hr⟩ := halong.rule he
    rcases rules_looked hr with hq | hl
    · exact hq
    · exact absurd (hs.mem hl) hn
  · intro k v next hst
    rw [hst] at hsafe
    exact hn hsafe.1.1

end Known

theorem Runs.trans {L : Limits H} {w w' : World H} (h : Runs L w) (h' : w.Later L w') : Runs L w' := Reaches.trans h h'

/-! ## A small world -/

namespace Sample

def mix (xs : List Nat) : Sha256Digest := BitVec.ofNat 256 (xs.foldl (fun acc x => acc * 1000003 + x + 1) 7)

def text (s : String) : Nat := s.toList.foldl (fun acc c => acc * 257 + c.toNat) 1

def sourceCode (s : SourceScope) : List Nat :=
  [s.repositoryDigest.toNat, s.sourceOperationId.toNat, s.sourcePlanDigest.toNat, s.sourcePackageDigest.toNat,
   s.sourceCompositionDigest.toNat, text s.baseCommit, text s.baseTree, text s.candidateCommit, text s.candidateTree,
   text s.candidateRef, s.protectionRulesetDigest.toNat, s.writerAppId.toNat, s.writerInstallationId.toNat,
   text s.writerIdentity] ++ s.candidateParents.map text

def bindingCode (b : Binding) : List Nat :=
  [b.operationId.toNat, b.scope.activationDigest.toNat, text b.scope.leaseIdentity, b.scope.leaseDigest.toNat,
   b.scope.leaseExpiresAt.toNat, text b.scope.claimNonce, b.scope.claimDigest.toNat] ++ sourceCode b.scope.source

def outcomeCode : PersonalCasOutcome → Nat
  | .applied => 1
  | .rejected => 2
  | .ambiguous => 3

def receiptCode (b : ReceiptBody) : List Nat :=
  [b.authorizationDigest.toNat, b.intentDigest.toNat, b.dispatchMarkerDigest.toNat, b.responseDigest.toNat,
   outcomeCode b.outcome, b.dispatchStarted.toNat, b.observedAt.toNat] ++ bindingCode b.toBinding

def postStateCode (b : PostStateBody) : List Nat :=
  [b.authorizationDigest.toNat, b.intentDigest.toNat, b.receiptDigest.toNat, outcomeCode b.receiptOutcome,
   text b.observedCommit, text b.observedTree, b.observedAt.toNat] ++ b.observedParents.map text ++ bindingCode b.toBinding

/-- A digest that tells the documents of the samples apart. -/
def digest : Doc → Sha256Digest
  | .claim op id d e nonce => mix [1, op.toNat, text id, d.toNat, e.toNat, text nonce]
  | .operation act repo _ op plan comp bc bt cc ct cref ps rules app inst who id d e nonce =>
    mix ([2, act.toNat, repo.toNat, op.toNat, plan.toNat, comp.toNat, text bc, text bt, text cc, text ct, text cref,
      rules.toNat, app.toNat, inst.toNat, text who, text id, d.toNat, e.toNat, text nonce] ++ ps.map text)
  | .activation b => mix ([3, b.activatedAt.toNat, b.sourcePlanArtifact.digest.toNat] ++ sourceCode b.source)
  | .authorization b => mix ([4, b.authorizedAt.toNat] ++ bindingCode b.toBinding)
  | .intent b => mix ([5, b.authorizationDigest.toNat, b.recordedAt.toNat] ++ bindingCode b.toBinding)
  | .dispatchStarted b => mix ([6, b.intentDigest.toNat, b.startedAt.toNat] ++ bindingCode b.toBinding)
  | .receipt b => mix (7 :: receiptCode b)
  | .postState b => mix (8 :: postStateCode b)
  | .reconciliation b =>
    mix ([9, b.activationDigest.toNat, b.operationId.toNat, if b.outcome = .applied then 1 else 0,
      b.reconciledAt.toNat] ++ receiptCode b.ambiguousReceipt ++ postStateCode b.observation)

def source : SourceScope where
  repositoryDigest := 11
  targetRef := ⟨"refs/heads/main", rfl⟩
  sourceOperationId := 12
  sourcePlanDigest := 13
  sourcePackageDigest := 14
  sourceCompositionDigest := 15
  baseCommit := "b"
  baseTree := "bt"
  candidateCommit := "c"
  candidateTree := "ct"
  candidateRef := "candidate"
  candidateParents := ["b"]
  protectionRulesetDigest := 16
  writerAppId := 1
  writerInstallationId := 2
  writerIdentity := "writer"

def activation : Activation where
  source
  sourcePlanArtifact := ⟨13, 1, "application/vnd.avo.main-graduation-plan+json", "main-graduation-plan", 0⟩
  candidateRefImmutable := true
  candidateReachable := true
  activatedAt := 0
  valid := by decide

def scope : Scope :=
  let unclaimed : Scope := ⟨activation.activationDigest digest, source, "lease", 21, 100, "nonce", 0⟩
  { unclaimed with
    claimDigest := personalCasClaimDigest digest (personalCasOperationId digest unclaimed) unclaimed }

def authorization : Authorization digest where
  operationId := personalCasOperationId digest scope
  scope
  authorizedAt := 5
  valid := by decide

def evidence : EvidenceRef :=
  ⟨12, 13, activation.sourcePlanArtifact, 14, 15, "b", "bt", "c", "ct", "candidate"⟩

def receipt (outcome : PersonalCasOutcome) (i : Intent digest) (m : DispatchStarted digest) : Receipt digest where
  toBinding := i.toBinding
  authorizationDigest := i.authorizationDigest
  intentDigest := i.intentDigest
  dispatchMarkerDigest := m.dispatchMarkerDigest
  responseDigest := 31
  outcome
  dispatchStarted := true
  errorCode := none
  httpStatus := none
  requestId := none
  observedAt := 60
  valid := ⟨i.valid.1, fun _ => rfl, fun _ => rfl⟩

/-- An exact observation of main after a receipt. -/
def observation (r : Receipt digest) : PostState digest where
  toBinding := r.toBinding
  authorizationDigest := r.authorizationDigest
  intentDigest := r.intentDigest
  receiptDigest := r.receiptDigest
  receiptOutcome := r.outcome
  observedRef := ⟨"refs/heads/main", rfl⟩
  observedCommit := r.scope.source.candidateCommit
  observedTree := r.scope.source.candidateTree
  observedParents := [r.scope.source.baseCommit]
  observedAt := 70
  valid := ⟨r.valid.1, fun _ => ⟨rfl, rfl, rfl⟩⟩

def answer (outcome : PersonalCasOutcome) (now : Instant) : (p : Port digest) → p.Answer
  | .trustedRead _ => .accepted (some evidence)
  | .verify _ => .returned true
  | .install _ => .installed
  | .now => .aware now
  | .assertCurrent _ _ _ _ _ _ => .current
  | .apply i m => .delivered (receipt outcome i m)
  | .observe _ r => .delivered (observation r)

/-- Everything works, and the clock shows `now`. -/
def nature (outcome : PersonalCasOutcome) (now : Instant) : Nature (Port.Answer (H := digest)) :=
  ⟨false, false, .written, answer outcome now⟩

def limits : Limits digest := ⟨fun _ _ => 0, 1⟩

/-- Call `i` takes `n` steps while the clock shows `now`. -/
def steps (i n : Nat) (now : Instant) : List (WorldMove digest) := List.replicate n (.step i (nature .applied now))

def after (moves : List (WorldMove digest)) : World digest := result (perform (Call.program limits)) World.fresh moves

def activated : List (WorldMove digest) := .start (.recordActivation activation) :: steps 0 5 10

def atDispatch (t : CallThread digest) : Bool :=
  match t.status with
  | .running (.port (.apply _ _) _) => true
  | _ => false

theorem exists_apply {t : CallThread digest} (h : atDispatch t = true) :
    ∃ i m next, t.status = .running (.port (.apply i m) next) := by
  unfold atDispatch at h
  split at h
  · next i m next hs => exact ⟨i, m, next, hs⟩
  · cases h

theorem runs_after {moves : List (WorldMove digest)}
    (h : allowed (perform (Call.program limits)) (fun _ _ => true) World.fresh moves = true) : Runs limits (after moves) :=
  (reaches_result h).mono fun _ _ _ => trivial

/-- A call records an intent at 10 and crashes; a second call reads 50, adopts
the intent, and then reads 20. -/
def adopting : List (WorldMove digest) :=
  activated ++ (.start (.execute authorization) :: steps 1 20 10) ++
    (.crash 1 :: .start (.execute authorization) :: steps 2 12 50) ++ steps 2 18 20

theorem runs_adopting : Runs limits (after adopting) := runs_after (by decide +kernel)

set_option maxRecDepth 4000 in
theorem adopting_dispatches : ∃ t, (after adopting).threads[2]? = some t ∧ atDispatch t = true ∧ ¬ NonDecreasing t.log := by
  have h : ((after adopting).threads[2]?.any fun t => atDispatch t && !decide (NonDecreasing t.log)) = true := by
    decide +kernel
  obtain ⟨t, ht, hd⟩ := (Option.any_eq_true _ _).mp h
  simp only [Bool.and_eq_true, Bool.not_eq_true', decide_eq_false_iff_not] at hd
  exact ⟨t, ht, hd⟩

end Sample

/-! ## The dispatch, over every run -/

/-- In every run an operation is dispatched at most once. A call about to invoke
the dispatch does so under its durable authorization, intent and marker, with
every clock reading inside the authorization's window; the readings never go
back exactly when `ClockKept` holds. A call that starts when a completion is
durable touches no port of the controller and no file. -/
theorem exact_cas_dispatch {L : Limits H} {w : World H} (hw : Runs L w) :
    (∀ op, w.dispatchCount op ≤ 1) ∧
    (∀ (i : Nat) (t : CallThread H) intent marker next, w.threads[i]? = some t →
      t.status = .running (.port (.apply intent marker) next) →
      ∃ a, t.call = .execute a ∧ Authorized w a intent marker ∧ InWindow a t.log ∧
        (NonDecreasing t.log ↔ ClockKept intent t.log)) ∧
    (∀ (a : Authorization H) completion (w₁ w₂ : World H) t, w.files (.completion a.operationId) = .bound completion →
      perform (Call.program L) w (.start (.execute a)) = .ok w₁ → w₁.Later L w₂ →
      w₂.threads[w.threads.length]? = some t → ReadOnly t) := by
  have hk := hw.known
  refine ⟨hk.dispatchCount_le, ?_, ?_⟩
  · intro i t intent marker next ht hst
    have hsafe := (hk.sound.obeys hk.linked hk.obeys ht).2
    rw [hst] at hsafe
    cases hc : t.call with
    | recordActivation act =>
      rw [hc] at hsafe
      rcases hsafe.1 with hq | hi | hp
      · exact hq.elim
      · cases hi
      · cases hp
    | execute a =>
      rw [hc] at hsafe
      have hready : Ready a w.files t.log intent marker := hsafe.1.2
      exact ⟨a, rfl, hk.authorized hready, hk.clock hready⟩
  · intro a completion w₁ w₂ t hb hstart hlater ht
    have hw₁ : Runs L w₁ := .step hw trivial hstart
    have hw₂ : w₂.Known := (hw₁.trans hlater).known
    cases hstart
    obtain ⟨t', ht', hcall, hn⟩ := hlater.never_missing hw₁.known.sound hb
      (List.getElem?_concat_length) (by simp)
    rw [ht] at ht'
    cases ht'
    exact hw₂.readOnly ht hcall hn

theorem exact_cas_dispatch_adopting :
    ∃ (t : CallThread Sample.digest) (i : Intent Sample.digest) (m : DispatchStarted Sample.digest),
      (Sample.after Sample.adopting).threads[2]? = some t ∧
      (Sample.after Sample.adopting).dispatchCount Sample.authorization.operationId ≤ 1 ∧
      ∃ a, t.call = .execute a ∧ Authorized (Sample.after Sample.adopting) a i m ∧ InWindow a t.log ∧
        (NonDecreasing t.log ↔ ClockKept i t.log) := by
  obtain ⟨t, ht, hd, _⟩ := Sample.adopting_dispatches
  obtain ⟨i, m, next, hs⟩ := Sample.exists_apply hd
  have h := exact_cas_dispatch Sample.runs_adopting
  exact ⟨t, i, m, ht, h.1 _, h.2.1 2 t i m next ht hs⟩

/-- A call that adopts the intent of an earlier call can dispatch with clock
readings that went back. -/
theorem adopted_intent_clock_goes_back :
    ¬ ∀ w : World Sample.digest, Runs Sample.limits w → ∀ (i : Nat) (t : CallThread Sample.digest) intent marker next,
      w.threads[i]? = some t → t.status = .running (.port (.apply intent marker) next) → NonDecreasing t.log := by
  intro hall
  obtain ⟨t, ht, hd, hn⟩ := Sample.adopting_dispatches
  obtain ⟨i, m, next, hs⟩ := Sample.exists_apply hd
  exact hn (hall _ Sample.runs_adopting 2 t i m next ht hs)

end AvoCorrelate.ExactCas
