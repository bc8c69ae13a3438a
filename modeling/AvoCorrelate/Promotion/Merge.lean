import AvoCorrelate.Promotion.ServiceLogic
/-!
# At most one merge

Any number of promotion services over one journal: `World` is the index files and
the lease files with every `promote` call made so far. Calls interleave and crash
at will, and get any answers from the provider; a lease file is created by one call
only, and no identity is handed out twice. A call submits its PUT under lease
evidence that names the identity it was handed itself, and the evidence of an
operation is created once: no second call can.
-/
open AvoLib

namespace AvoCorrelate.Promotion

open ExactCas (Sha256Digest GitObject)
open Service

variable {C : Canon}

abbrev World (C : Canon) := Served PromoteCall (Rec C) (Port.Answer (C := C)) Exc Report Board

abbrev CallThread (C : Canon) := Thread PromoteCall (Rec C) (Port.Answer (C := C)) Exc Report

abbrev WorldMove (C : Canon) := Move PromoteCall (Port.Answer (C := C))

def World.fresh : World C := Served.idle (fun _ => .absent) Board.empty

/-- Worlds that some run reaches. -/
def Runs (w : World C) : Prop := Reaches (serve board promote) (fun _ _ => True) World.fresh w

/-- Worlds that a run through `w` can still reach. -/
def World.Later (w w' : World C) : Prop := Reaches (serve board promote) (fun _ _ => True) w w'

theorem Runs.trans {w w' : World C} (h : Runs w) (h' : w.Later w') : Runs w' := Reaches.trans h h'

/-! ## Identities -/

/-- The identities that `identity_factory` hands out. -/
def identities : Names (board (C := C)) String where
  name
    | .freshIdentity, identity => some identity
    | _, _ => none
  issued b := b.identities
  fresh := by
    intro p r s s' x hs hn
    cases p with
    | freshIdentity =>
      cases hn
      simp only [board] at hs
      split at hs
      · cases hs
      · next hnew =>
        cases hs
        exact ⟨hnew, List.mem_cons_self⟩
    | _ => cases hn
  kept := by
    intro p r s s' x hs hx
    have hset : ∀ (key : Sha256Digest) (slot : Slot), x ∈ (s.set key slot).identities := fun _ _ => hx
    unfold board at hs
    split at hs
    · split at hs
      · cases hs
      · cases hs; exact List.mem_cons_of_mem _ hx
    · split at hs
      · split at hs <;> cases hs; exact hset _ _
      · split at hs <;> cases hs; exact hx
      · cases hs; exact hx
    · split at hs
      · cases hs; exact hx
      · split at hs <;> cases hs
        · exact hset _ _
        · exact hx
      · split at hs <;> cases hs
        · exact hset _ _
        · exact hx
    · split at hs
      · cases hs; exact hx
      · split at hs <;> cases hs; exact hx
      · split at hs <;> cases hs; exact hx
    · split at hs
      · split at hs <;> cases hs; exact hset _ _
      · split at hs <;> cases hs; exact hset _ _
      · split at hs <;> cases hs; exact hx
      · cases hs; exact hx
    · cases hs; exact hx

theorem Made.drew {t : CallThread C} {l : Lease} (hm : Made t.call t.log l) : identities.Drew t l.identity :=
  ⟨.freshIdentity, l.identity, hm.named, rfl⟩

/-! ## Every call keeps to its rules -/

structure World.Known (w : World C) : Prop where
  sound : w.config.Sound fun _ => .absent
  linked : Linked (fun _ _ _ => True) w.config.files
  obeys : w.config.Obeys (fun _ => .absent) (fun _ _ _ => True) rules fun call F => Prog.Returning (Truthful call F)
  distinct : identities.Distinct w

theorem Reaches.known {Pm : World C → WorldMove C → Prop} {w : World C}
    (hw : Reaches (serve board promote) Pm World.fresh w) : w.Known := by
  have hall : w.config.Sound (fun _ => .absent) ∧ Linked (fun _ _ _ => True) w.config.files ∧
      w.config.Obeys (fun _ => .absent) (fun _ _ _ => True) rules fun call F => Prog.Returning (Truthful call F) :=
    sound_obeys (fun _ _ => trivial) (fun _ _ _ _ _ _ => trivial) (by intro k v h; cases h)
      (fun call F _ _ => promote_safe) hw.config
  exact ⟨hall.1, hall.2.1, hall.2.2, hw.distinct⟩

theorem Runs.known {w : World C} (hw : Runs w) : w.Known := Reaches.known hw

section Known
variable {w : World C} {k : Nat} {t : CallThread C}

theorem World.Known.call (hk : w.Known) (ht : w.config.threads[k]? = some t) :
    Along (rules t.call w.config.files) t.log ∧
      t.status.Safe w.config.files (rules t.call w.config.files) (Prog.Returning (Truthful t.call w.config.files)) t.log :=
  hk.sound.obeys hk.linked hk.obeys ht

theorem World.Known.submitted (hk : w.Known) (ht : w.config.threads[k]? = some t) {i : Intent C} {r : PutAnswer}
    (he : .port (.put i) r ∈ t.log) : ∃ h l a, h <:+ t.log ∧ Ready t.call w.config.files h l i a := by
  obtain ⟨h, hs, l, a, hr⟩ := (hk.call ht).1.rule he
  exact ⟨h, l, a, hs, hr⟩

/-! ## Counting PUTs -/

/-- The event is a PUT of operation `op`. -/
def submits (op : Sha256Digest) : Event (Rec C) (Port.Answer (C := C)) → Bool
  | .port (.put intent) _ => intent.operationId = op
  | _ => false

theorem submits_iff {op : Sha256Digest} {e : Event (Rec C) (Port.Answer (C := C))} :
    submits op e = true ↔ ∃ i r, e = .port (.put i) r ∧ i.operationId = op := by
  constructor
  · intro h
    unfold submits at h
    split at h
    · next i r => exact ⟨i, r, rfl, of_decide_eq_true h⟩
    · cases h
  · rintro ⟨i, r, rfl, hop⟩
    exact decide_eq_true hop

/-- How often the PUT of `op` was submitted, over all calls there ever were. -/
def World.putCount (op : Sha256Digest) (w : World C) : Nat :=
  (w.config.threads.map fun t => t.log.countP (submits op)).sum

theorem countP_submits_le {call : PromoteCall} {F : Files (Rec C)} {h : Log C} (op : Sha256Digest)
    (hr : Along (rules call F) h) : h.countP (submits op) ≤ 1 := by
  refine hr.countP_le_one fun h e he hrule e' hm => ?_
  obtain ⟨i, r, rfl, _⟩ := submits_iff.mp he
  obtain ⟨l, a, hready⟩ := hrule
  by_contra hs
  obtain ⟨_, _, rfl, _⟩ := submits_iff.mp (by simpa using hs : submits op e' = true)
  cases hready.unsubmitted _ hm

theorem World.Known.submitter (hk : w.Known) (ht : w.config.threads[k]? = some t) {op : Sha256Digest}
    {e : Event (Rec C) (Port.Answer (C := C))} (he : e ∈ t.log) (hs : submits op e = true) :
    t.call.operationId = op ∧ ∃ ev, w.config.files (.leaseEvidence op) = .bound ev ∧ Made t.call t.log ev.toLease := by
  obtain ⟨i, r, rfl, hop⟩ := submits_iff.mp hs
  obtain ⟨h, l, a, hsuf, hready⟩ := hk.submitted ht he
  obtain ⟨ev, hev, rfl⟩ := hready.prepared.leased.evidence
  have hcall : t.call.operationId = op := hready.prepared.bound.operation.symm.trans hop
  exact ⟨hcall, ev, hcall ▸ hev, hready.prepared.leased.made.suffix hsuf⟩

theorem World.Known.one_submitter (hk : w.Known) {op : Sha256Digest} {j : Nat} {u : CallThread C}
    {e e' : Event (Rec C) (Port.Answer (C := C))} (ht : w.config.threads[k]? = some t) (hu : w.config.threads[j]? = some u)
    (he : e ∈ t.log) (hs : submits op e = true) (he' : e' ∈ u.log) (hs' : submits op e' = true) : k = j := by
  obtain ⟨_, ev, hev, hm⟩ := hk.submitter ht he hs
  obtain ⟨_, ev', hev', hm'⟩ := hk.submitter hu he' hs'
  cases hev.symm.trans hev'
  exact hk.distinct.unique ht hu hm.drew hm'.drew

theorem World.Known.putCount_le (hk : w.Known) (op : Sha256Digest) : w.putCount op ≤ 1 := by
  refine sum_le_one ?_ ?_
  · intro t ht
    obtain ⟨i, hi⟩ := List.getElem?_of_mem ht
    exact countP_submits_le op (hk.call hi).1
  · intro i j t u hi hj ht hu
    obtain ⟨e, he, hs⟩ := List.countP_pos_iff.mp ht
    obtain ⟨e', he', hs'⟩ := List.countP_pos_iff.mp hu
    exact hk.one_submitter hi hj he hs he' hs'

end Known

/-- Lease evidence, intent and mutation authorization of one operation, bound to
each other. -/
structure Authorized (files : Files (Rec C)) (i : Intent C) (e : LeaseEvidence C) (a : MutationAuthorization) : Prop where
  evidence : files (.leaseEvidence i.operationId) = .bound e
  intent : files (.intent i.operationId) = .bound i
  authorization : files (.mutationAuthorization i.operationId) = .bound a
  operation : e.operationId = i.operationId ∧ a.operationId = i.operationId
  lease : i.controllerLeaseIdentity = e.identity ∧ i.controllerLeaseDigest = e.toLease.digest C
  underLease : a.leaseIdentity = e.identity ∧ a.leaseDigest = e.toLease.digest C
  underIntent : a.intentDigest = i.digest

theorem Ready.authorized {call : PromoteCall} {F : Files (Rec C)} {h : Log C} {l : Lease} {i : Intent C}
    {a : MutationAuthorization} (hr : Ready call F h l i a) : ∃ e, Authorized F i e a := by
  obtain ⟨e, he, rfl⟩ := hr.prepared.leased.evidence
  have hop := hr.prepared.bound.operation
  obtain ⟨haop, hadigest, haid, halease⟩ := hr.authorizes
  refine ⟨e, ⟨hop ▸ he, hop ▸ hr.prepared.intent, hop ▸ hr.authorization, ⟨?_, haop⟩, ?_, ⟨?_, ?_⟩, hadigest⟩⟩
  · exact hr.prepared.leased.made.scope.operation.trans hop.symm
  · exact ⟨hr.prepared.bound.leaseIdentity, hr.prepared.bound.leaseDigest⟩
  · exact haid.trans hr.prepared.bound.leaseIdentity
  · exact halease.trans hr.prepared.bound.leaseDigest

/-! ## A small world -/

namespace Sample

def mix (xs : List Nat) : Sha256Digest := BitVec.ofNat 256 (xs.foldl (fun acc x => acc * 1000003 + x + 1) 7)

def text (s : String) : Nat := s.toList.foldl (fun acc c => acc * 257 + c.toNat) 1

def identityCode (i : PromotionIdentity) : List Nat :=
  [i.repositoryDigest.toNat, i.pullRequestNumber, text i.candidateRef, text i.targetRef, text i.baseCommit,
   text i.candidateCommit, i.bundleDigest.toNat, i.candidateDigest.toNat]

def outcomeCode : Outcome → Nat
  | .ready => 1
  | .intentRecorded => 2
  | .applied => 3
  | .alreadyApplied => 4
  | .staleBase => 5
  | .notApplicable => 6
  | .invalid => 7
  | .reconciliationRequired => 8

/-- A digest that tells the documents of the samples apart. -/
def digest : Doc → Sha256Digest
  | .leaseKey repo ref => mix [1, repo.toNat, text ref]
  | .lease l => mix [2, l.operationId.toNat, l.repositoryDigest.toNat, text l.targetRef, text l.identity,
      l.acquiredAt.toNat, l.expiresAt.toNat]
  | .promotionIdentity i => mix (3 :: identityCode i)
  | .intent b => mix ([4, b.operationId.toNat, b.controllerLeaseDigest.toNat, text b.controllerLeaseIdentity] ++
      identityCode b.toPromotionIdentity)
  | .receipt b => mix [5, b.operationId.toNat, b.intentDigest.toNat, outcomeCode b.outcome, b.observationDigest.toNat,
      (b.error.map text).getD 0]
  | .reconciliation b => mix [6, b.pullRequestNumber, b.merged.toNat, text b.targetHeadCommit, text b.targetHeadTree]
  | .preconditionFailure op e => mix [7, op.toNat, text e]
  | .soak b => mix [8, b.operationId.toNat, text b.targetHeadCommit]
  | .rollbackAuthorization b => mix [9, b.operationId.toNat, text b.restoreToCommit]
  | .rollbackIntent b => mix [10, b.operationId.toNat, b.promotionOperationId.toNat, b.authorizationId.toNat]
  | .rollbackReceipt b => mix [11, b.operationId.toNat, b.promotionOperationId.toNat, b.intentDigest.toNat,
      (b.error.map text).getD 0]

/-- A Git object with an id of one hexadecimal digit repeated. -/
def object (c : Char) : GitObject := String.ofList (List.replicate 40 c)

def canon : Canon where
  digest
  gitObject s := s.toList.length = 40 && s.toList.all fun c => c.isDigit || ('a' ≤ c && c ≤ 'f')
  ref s := s = "refs/heads/integration" || s = "refs/heads/candidate"
  casefold s := s

theorem gitObject_object (c : Char) : canon.gitObject (object c) = (c.isDigit || ('a' ≤ c && c ≤ 'f')) := by
  simp [canon, object]

def bundle : Bundle where
  repositoryDigest := 11
  targetRef := "refs/heads/integration"
  commit := object 'b'
  tree := object '1'
  protectionEvidenceDigest := 12
  candidateDigest := 13
  controllerConfigDigest := 14
  evidenceManifestDigest := 15
  sourceProvenanceDigest := 16
  hasRollbackAuthorization := false
  controllerIdentity := "controller"
  evidenceDigests := [16]

def publication : Publication where
  repositoryDigest := 11
  baseCommit := object 'b'
  baseTree := object '1'
  candidateDigest := 13
  candidateRef := "refs/heads/candidate"
  candidateCommit := object 'c'
  candidateTree := object '2'
  controllerPublisherIdentity := "controller"
  publicationEvidenceDigest := 16

/-- Two promotions of one candidate, through two pull requests. -/
def identity (second : Bool) : PromotionIdentity where
  repositoryDigest := 11
  pullRequestNumber := if second then 2 else 1
  candidateRef := "refs/heads/candidate"
  targetRef := "refs/heads/integration"
  baseCommit := object 'b'
  candidateCommit := object 'c'
  candidateHeadCommit := object 'c'
  targetBaseCommit := object 'b'
  syntheticMergeCommit := object 'd'
  bundleDigest := 17
  candidateDigest := 13
  publicationEvidenceDigest := 16
  providerIdentity := "github"
  providerApiVersion := "2022-11-28"
  expectedMainCommit := none

def operation (second : Bool) : Sha256Digest := digest (.promotionIdentity (identity second))

theorem operation_ne : operation true ≠ operation false := by decide +kernel

def call (second : Bool) : PromoteCall := ⟨bundle, publication, 17, operation second, 100⟩

/-- What `intent_factory` makes of a lease. -/
def intentBody (l : Lease) : IntentBody where
  toPromotionIdentity := identity (l.operationId = operation true)
  operationId := operation (l.operationId = operation true)
  controllerLeaseDigest := l.digest canon
  controllerLeaseIdentity := l.identity
  baseTree := object '1'
  candidateTree := object '2'
  candidateRepositoryDigest := 11
  candidateHeadRef := "refs/heads/candidate"
  candidateHeadTree := object '2'
  targetRepositoryDigest := 11
  targetBaseRef := "refs/heads/integration"
  targetBaseTree := object '1'
  syntheticMergeTree := object '2'
  controllerConfigDigest := 14
  protectionEvidenceDigest := 12
  evidenceManifestDigest := 15
  checkEvidenceManifestDigest := 18
  pullRequestUrl := "https://host/pull"

def intent (l : Lease) : Intent canon where
  toIntentBody := intentBody l
  valid := by
    have hobject : ∀ x ∈ [object 'b', object '1', object 'c', object '2', object 'c', object '2', object 'b',
        object '1', object 'd', object '2'] ++ (none : Option GitObject).toList, canon.gitObject x = true := by
      simp [gitObject_object]
    have href : ∀ x ∈ ["refs/heads/candidate", "refs/heads/integration", "refs/heads/candidate",
        "refs/heads/integration"], canon.ref x = true := by decide
    refine ⟨hobject, href, ?_, ⟨rfl, rfl⟩, ⟨rfl, rfl⟩, rfl, ⟨rfl, rfl⟩, ⟨rfl, rfl⟩, ⟨?_, by simp [intentBody]⟩, rfl⟩
    · change "refs/heads/candidate" ≠ "refs/heads/integration" ∧ "refs/heads/candidate" ≠ "refs/heads/integration"
      decide
    · change 0 < if decide (l.operationId = operation true) = true then 2 else 1
      split <;> decide

def observation (i : Intent canon) : Observation where
  repositoryDigest := 11
  pullRequestNumber := i.pullRequestNumber
  pullRequestUrl := "https://host/pull"
  candidateRepositoryDigest := 11
  targetRepositoryDigest := 11
  baseRef := "refs/heads/integration"
  baseCommit := object 'b'
  baseTree := object '1'
  headRef := "refs/heads/candidate"
  headCommit := object 'c'
  candidateTree := object '2'
  syntheticMergeCommit := object 'd'
  syntheticMergeTree := object '2'
  protectionEvidenceDigest := 12
  checkEvidenceManifestDigest := 18
  providerIdentity := "github"
  providerApiVersion := "2022-11-28"

/-- A pull request, exactly merged or still as it was. -/
def reconciliation (merged second : Bool) : Reconciliation canon where
  repositoryDigest := 11
  pullRequestNumber := if second then 2 else 1
  pullRequestUrl := "https://host/pull"
  providerIdentity := "github"
  providerApiVersion := "2022-11-28"
  isOpen := !merged
  merged
  mergeCommit := if merged then some (object 'e') else none
  targetRef := "refs/heads/integration"
  targetHeadCommit := if merged then object 'e' else object 'b'
  targetHeadTree := if merged then object '2' else object '1'
  targetFirstParent := if merged then object 'b' else object 'a'
  targetParents := if merged then [object 'b'] else [object 'a']
  protectionEvidenceDigest := 12
  valid := by
    have href : canon.ref "refs/heads/integration" = true := by decide
    refine ⟨?_, href, ?_, ?_, by simp, ?_, rfl⟩
    · cases merged <;> simp [gitObject_object]
    all_goals cases merged <;> simp

/-- How the provider answers the PUT and a later `reconcile`. -/
structure Env where
  put : PutAnswer
  reconcile : Intent canon → Answer (Reconciliation canon)

/-- The PUT is lost on the way, and the pull request is not merged. -/
def lost : Env := ⟨.transportError "connection reset", fun i => .returned (reconciliation false (i.operationId = operation true))⟩

/-- Answers that the lease files of `b` can give, the clocks at 10. -/
def answer (env : Env) (b : Board) : (p : Port canon) → p.Answer
  | .verifyPublication _ _ => .returned true
  | .install _ => .returned ()
  | .clock => .aware 10
  | .systemNow => (10 : Int)
  | .freshIdentity => String.ofList (List.replicate (b.identities.length + 1) 'i')
  | .createLease l => if b.leases (l.key canon) = .free then .created else .exists
  | .writeLease _ => .written
  | .readLease key => (b.leases key).content
  | .removeLease key => if b.leases key = .free then .missing else .removed
  | .intentFactory l => .returned (intent l)
  | .replay _ _ => .returned ⟨.wouldApply, ["bundle_replayed"], []⟩
  | .observe i => .returned (observation i)
  | .observeIntegration _ => .returned ⟨object 'b', object '1', object 'a', 12⟩
  | .firstParent _ => .returned (object 'a')
  | .mainProtection => .returned (19 : Sha256Digest)
  | .mainRef => .returned (object 'f')
  | .put _ => env.put
  | .commitTopology _ => .returned ⟨object 'e', object '2', [object 'b']⟩
  | .reconcile i => env.reconcile i
  | .verifyRepository _ => .returned ()
  | .mainHead => .returned (object 'f')
  | .soak _ => .raised "no soak"

/-- A move whose answers are read off the world it is made in. -/
inductive Order
  | start (second : Bool)
  | crash (i : Nat)
  | step (i : Nat) (env : Env)

def Order.move (w : World canon) : Order → WorldMove canon
  | .start second => .start (call second)
  | .crash i => .crash i
  | .step i env => .step i ⟨false, false, .written, answer env w.state⟩

def obey (w : World canon) (o : Order) : Except Unit (World canon) := serve board promote w (o.move w)

def after (orders : List Order) : World canon := result obey World.fresh orders

def steps (i n : Nat) (env : Env) : List Order := List.replicate n (.step i env)

theorem Reaches.obeyed {Pm : World canon → Order → Prop} {w w' : World canon} (h : Reaches obey Pm w w') :
    Reaches (serve board promote) (fun w m => ∃ o, m = o.move w ∧ Pm w o) w w' := by
  induction h with
  | init => exact .init
  | step _ hp he ih => exact .step ih ⟨_, rfl, hp⟩ he

theorem runs_after {orders : List Order} (h : allowed obey (fun _ _ => true) World.fresh orders = true) :
    Runs (after orders) :=
  (Reaches.obeyed (reaches_result h)).mono fun _ _ _ => trivial

theorem after_passes {p : World canon → Order → Bool} {test : World canon → Bool} {orders : List Order}
    (h : concludes obey p test World.fresh orders = true) : test (after orders) = true :=
  (allowed_of_concludes h).2

/-- One call, about to submit its PUT. -/
def submitting : List Order := .start false :: steps 0 36 lost

def atPut (t : CallThread canon) : Bool :=
  match t.status with
  | .running (.port (.put i) _) => i.operationId = operation false
  | _ => false

theorem exists_put {t : CallThread canon} (h : atPut t = true) :
    ∃ i next, t.status = .running (.port (.put i) next) ∧ i.operationId = operation false := by
  unfold atPut at h
  split at h
  · next i next hs => exact ⟨i, next, hs, of_decide_eq_true h⟩
  · cases h

set_option maxRecDepth 8000 in
theorem submitting_concludes : concludes obey (fun _ _ => true) (fun w => w.config.threads[0]?.any atPut) World.fresh
    submitting = true := by
  decide +kernel

theorem runs_submitting : Runs (after submitting) := runs_after (allowed_of_concludes submitting_concludes).1

theorem submitting_put : ∃ t, (after submitting).config.threads[0]? = some t ∧ atPut t = true := by
  have hput := after_passes submitting_concludes
  beta_reduce at hput
  exact (Option.any_eq_true _ _).mp hput

end Sample

/-! ## The PUT, over every run -/

/-- In every run the PUT of an operation is submitted at most once; a call about to
submit it does so under durable lease evidence, intent and mutation authorization
bound to each other, after a replay that would apply the bundle of the intent. -/
theorem merge_at_most_once {w : World C} (hw : Runs w) :
    (∀ op, w.putCount op ≤ 1) ∧
    ∀ (k : Nat) (t : CallThread C) (i : Intent C) next, w.config.threads[k]? = some t →
      t.status = .running (.port (.put i) next) →
      ∃ e a b r, Authorized w.config.files i e a ∧
        (.port (.replay b i.bundleDigest) (.returned r) : Event (Rec C) (Port.Answer (C := C))) ∈ t.log ∧
        r.outcome = .wouldApply := by
  have hk := hw.known
  refine ⟨hk.putCount_le, fun k t i next ht hst => ?_⟩
  have hsafe := (hk.call ht).2
  rw [hst] at hsafe
  obtain ⟨l, a, hready⟩ := hsafe.1
  obtain ⟨e, he⟩ := hready.authorized
  obtain ⟨r, hr, hwould⟩ := hready.prepared.replayed
  rw [← hready.prepared.bound.bundle] at hr
  exact ⟨e, a, t.call.bundle, r, he, hr, hwould⟩

theorem merge_at_most_once_submitting :
    ∃ (t : CallThread Sample.canon) (i : Intent Sample.canon), (Sample.after Sample.submitting).config.threads[0]? = some t ∧
      (Sample.after Sample.submitting).putCount (Sample.operation false) ≤ 1 ∧ i.operationId = Sample.operation false ∧
      ∃ e a b r, Authorized (Sample.after Sample.submitting).config.files i e a ∧
        (.port (.replay b i.bundleDigest) (.returned r) : Event (Rec Sample.canon) (Port.Answer (C := Sample.canon))) ∈ t.log ∧
        r.outcome = .wouldApply := by
  obtain ⟨t, ht, hput⟩ := Sample.submitting_put
  obtain ⟨i, next, hs, hop⟩ := Sample.exists_put hput
  have h := merge_at_most_once Sample.runs_submitting
  exact ⟨t, i, ht, h.1 _, hop, h.2 0 t i next ht hs⟩

end AvoCorrelate.Promotion
