import AvoCorrelate.SyntheticValidation.JournalLogic
import AvoCorrelate.SyntheticValidation.Provider
/-!
# A validation ref is created once

Only the call that made the claim directory of an operation creates the operation's
ref, when plan and authorization are durable, and it creates it once.
-/
open AvoLib

namespace AvoCorrelate.SyntheticValidation

variable {D τ : Type} [DecidableEq D]

/-- Triggers at work on one journal. -/
abbrev Triggers (C : Canon D) (τ : Type) := Served (Service.Asked C) (Content C) (Port.Answer (C := C)) Exc (Outcome C) (Store C τ)

abbrev TriggerThread (C : Canon D) := Thread (Service.Asked C) (Content C) (Port.Answer (C := C)) Exc (Outcome C)

/-- An empty journal beside a provider. -/
def Triggers.idle (C : Canon D) (t : τ) : Triggers C τ := Served.idle (fun _ => .absent) (Store.empty t)

/-- The state is reached by triggers in any order, with crashes and I/O errors anywhere. -/
abbrev Runs {C : Canon D} (R : Remote D τ) (t : τ) (w : Triggers C τ) : Prop :=
  Reaches (serve (store C R) Service.trigger) (fun _ _ => True) (Triggers.idle C t) w

/-- How often the ref of this operation was created. -/
def creations {C : Canon D} (w : Triggers C τ) (operationId : D) : Nat :=
  (w.config.threads.map fun t => if t.call.meant.operationId = operationId then t.log.countP creates else 0).sum

/-! ## What is durable -/

variable {C : Canon D} {R : Remote D τ}

/-- Records are where their operation says; an installed authorization is that of the
durable plan. -/
structure Ordered (s : Store C τ) : Prop where
  keyed : ∀ {k operationId r}, s.index k operationId = some r → Rec.operationId r = operationId
  planned : ∀ {operationId a}, s.claimed operationId = some a → ∃ plan, s.index .plan operationId = some plan ∧ a = plan.binding

def tells : (p : Port C) → p.Answer → Store C τ → Prop
  | .load k operationId, .found r, s => s.index k operationId = some r
  | .link k r, .created, s => s.index k (Rec.operationId r) = some r
  | .makeClaim operationId, .made, s => operationId ∈ s.claims
  | .loadClaim operationId, .found a, s => s.claimed operationId = some a
  | .installClaim a, .installed, s => s.claimed a.operationId = some a
  | _, _, _ => True

variable {h : Log C} {s s' : Store C τ} {k : Kind} {r : Rec C k} {operationId : D}

omit [DecidableEq D] in
theorem Kept.durable {plan : Plan C} (hk : Kept plan h) (ht : Told tells s h) :
    s.index .plan plan.operationId = some plan := by
  rcases hk with hk | hk
  · exact ht _ _ hk
  · exact ht _ _ hk

/-- Later the journal holds what it held. -/
structure Store.Grows (s s' : Store C τ) : Prop where
  index : ∀ {k operationId r}, s.index k operationId = some r → s'.index k operationId = some r
  claims : ∀ {operationId}, operationId ∈ s.claims → operationId ∈ s'.claims
  claimed : ∀ {operationId a}, s.claimed operationId = some a → s'.claimed operationId = some a

omit [DecidableEq D] in
theorem Store.Grows.tells (hg : s.Grows s') (p : Port C) (r : p.Answer) (h : SyntheticValidation.tells p r s) :
    SyntheticValidation.tells p r s' := by
  cases p with
  | load k operationId =>
    cases r with
    | found v => exact hg.index h
    | missing => trivial
    | malformed => trivial
  | link k v =>
    cases r with
    | created => exact hg.index h
    | taken => trivial
    | failed => trivial
    | lost => trivial
  | makeClaim operationId =>
    cases r with
    | made => exact hg.claims h
    | existed => trivial
    | failed => trivial
  | loadClaim operationId =>
    cases r with
    | found a => exact hg.claimed h
    | missing => trivial
    | malformed => trivial
  | installClaim a =>
    cases r with
    | installed => exact hg.claimed h
    | unsynced => trivial
    | failed => trivial
  | put => trivial
  | readRef => trivial
  | createRef => trivial

theorem Store.index_setIndex {k' : Kind} {r' : Rec C k'} : (s.setIndex k r).index k' operationId = some r' ↔
      (∃ h : k' = k, operationId = Rec.operationId r ∧ h ▸ r' = r) ∨
      (¬ (k' = k ∧ operationId = Rec.operationId r) ∧ s.index k' operationId = some r') := by
  by_cases hk : k' = k
  · subst hk
    by_cases hop : operationId = Rec.operationId r
    · subst hop
      simp [Store.setIndex, eq_comm]
    · simp [Store.setIndex, hop]
  · simp [Store.setIndex, hk]

theorem Store.grows_setIndex (h : s.index k (Rec.operationId r) = none) : s.Grows (s.setIndex k r) := by
  refine ⟨fun {k' operationId r'} hr => ?_, fun hc => hc, fun hc => hc⟩
  refine Store.index_setIndex.mpr (.inr ⟨?_, hr⟩)
  rintro ⟨rfl, rfl⟩
  rw [hr] at h
  cases h

theorem Ordered.setIndex (hs : Ordered s) (h : s.index k (Rec.operationId r) = none) : Ordered (s.setIndex k r) := by
  constructor
  · intro k' operationId r' hr
    rcases Store.index_setIndex.mp hr with ⟨rfl, rfl, rfl⟩ | ⟨_, hr⟩
    · rfl
    · exact hs.keyed hr
  · intro operationId a ha
    obtain ⟨plan, hp, rfl⟩ := hs.planned ha
    exact ⟨plan, (Store.grows_setIndex h).index hp, rfl⟩

theorem Store.claimed_setClaimed {a : CreateAuthorization C} :
    (s.setClaimed a).claimed operationId = if operationId = a.operationId then some a else s.claimed operationId := by
  simp [Store.setClaimed, Function.update_apply]

theorem Store.grows_setClaimed {plan : Plan C} (hs : Ordered s) (hp : s.index .plan plan.operationId = some plan) :
    s.Grows (s.setClaimed plan.binding) := by
  refine ⟨fun hr => hr, fun hc => hc, fun {operationId a} ha => ?_⟩
  rw [Store.claimed_setClaimed]
  split
  · next hop =>
    subst hop
    obtain ⟨plan', hp', rfl⟩ := hs.planned ha
    have heq : some plan = some plan' := hp.symm.trans hp'
    cases heq
    rfl
  · exact ha

theorem Ordered.setClaimed {plan : Plan C} (hs : Ordered s) (hp : s.index .plan plan.operationId = some plan) :
    Ordered (s.setClaimed plan.binding) := by
  refine ⟨hs.keyed, fun {operationId a} ha => ?_⟩
  rw [Store.claimed_setClaimed] at ha
  split at ha
  · next hop =>
    subst hop
    cases ha
    exact ⟨plan, hp, rfl⟩
  · exact hs.planned ha

theorem store_keeps {plan : Plan C} {p : Port C} {r : p.Answer} (hs : Ordered s) (ht : Told tells s h)
    (hr : rules plan h (.port p)) (he : store C R p r s = some s') : Ordered s' ∧ tells p r s' ∧ s.Grows s' := by
  have hrefl : s.Grows s := ⟨fun h => h, fun h => h, fun h => h⟩
  cases p with
  | put => cases he; exact ⟨hs, trivial, hrefl⟩
  | load k operationId =>
    simp only [store] at he
    split at he
    · next hc =>
      cases he
      refine ⟨hs, ?_, hrefl⟩
      rcases hc with rfl | rfl
      · trivial
      · cases hi : s.index k operationId with
        | none => trivial
        | some v => exact hi
    · cases he
  | link k record =>
    simp only [store] at he
    split at he
    · next hn =>
      cases he
      exact ⟨hs.setIndex hn, Store.index_setIndex.mpr (.inl ⟨rfl, rfl, rfl⟩), Store.grows_setIndex hn⟩
    · next hn =>
      cases he
      exact ⟨hs.setIndex hn, trivial, Store.grows_setIndex hn⟩
    · cases he; exact ⟨hs, trivial, hrefl⟩
    · cases he; exact ⟨hs, trivial, hrefl⟩
    · cases he
  | makeClaim operationId =>
    simp only [store] at he
    split at he
    · split at he
      · cases he
      · cases he
        exact ⟨⟨hs.keyed, hs.planned⟩, List.mem_cons_self, fun h => h, fun h => List.mem_cons_of_mem _ h, fun h => h⟩
    · split at he
      · cases he; exact ⟨hs, trivial, hrefl⟩
      · cases he
    · cases he; exact ⟨hs, trivial, hrefl⟩
  | loadClaim operationId =>
    simp only [store] at he
    split at he
    · next hc =>
      cases he
      refine ⟨hs, ?_, hrefl⟩
      rcases hc with rfl | rfl
      · trivial
      · cases hi : s.claimed operationId with
        | none => trivial
        | some a => exact hi
    · cases he
  | installClaim a =>
    obtain ⟨rfl, hk, _⟩ := hr
    have hp := hk.durable ht
    simp only [store] at he
    split at he
    · cases he
      exact ⟨hs.setClaimed hp, Function.update_self _ _ _, Store.grows_setClaimed hs hp⟩
    · cases he
      exact ⟨hs.setClaimed hp, trivial, Store.grows_setClaimed hs hp⟩
    · cases he; exact ⟨hs, trivial, hrefl⟩
  | readRef repositoryDigest ref =>
    obtain ⟨t, _, rfl⟩ := Option.map_eq_some_iff.mp he
    exact ⟨⟨hs.keyed, hs.planned⟩, trivial, fun h => h, fun h => h, fun h => h⟩
  | createRef repositoryDigest ref commit =>
    obtain ⟨t, _, rfl⟩ := Option.map_eq_some_iff.mp he
    exact ⟨⟨hs.keyed, hs.planned⟩, trivial, fun h => h, fun h => h, fun h => h⟩

def standing (R : Remote D τ) : Standing (store C R) (fun asked : Service.Asked C => rules asked.meant) where
  holds := Ordered
  tells := tells
  keeps hs ht hr he := by
    obtain ⟨ho, htell, hg⟩ := store_keeps hs ht hr he
    exact ⟨ho, htell, hg.tells⟩

omit [DecidableEq D] in
theorem ordered_empty (t : τ) : Ordered (Store.empty t : Store C τ) := 
  ⟨fun h => (nomatch h), fun h => (nomatch h)⟩

/-- Claim directories are handed out once. -/
def claimNames (R : Remote D τ) : Names (store C R) D where
  name
    | .makeClaim operationId, .made => some operationId
    | _, _ => none
  issued s := s.claims
  fresh := by
    intro p r s s' x he hn
    cases p with
    | makeClaim operationId =>
      cases r with
      | made =>
        cases hn
        simp only [store] at he
        split at he
        · cases he
        · next hnot =>
          cases he
          exact ⟨hnot, List.mem_cons_self⟩
      | existed => cases hn
      | failed => cases hn
    | _ => cases hn
  kept := by
    intro p r s s' x he hx
    cases p with
    | makeClaim operationId =>
      simp only [store] at he
      split at he
      · split at he
        · cases he
        · cases he; exact List.mem_cons_of_mem _ hx
      · split at he
        · cases he; exact hx
        · cases he
      · cases he; exact hx
    | put => cases he; exact hx
    | load k operationId =>
      simp only [store] at he
      split at he
      · cases he; exact hx
      · cases he
    | loadClaim operationId =>
      simp only [store] at he
      split at he
      · cases he; exact hx
      · cases he
    | link k record =>
      simp only [store] at he
      split at he <;> cases he <;> exact hx
    | installClaim a =>
      simp only [store] at he
      split at he <;> cases he <;> exact hx
    | readRef repositoryDigest ref =>
      obtain ⟨t, _, rfl⟩ := Option.map_eq_some_iff.mp he
      exact hx
    | createRef repositoryDigest ref commit =>
      obtain ⟨t, _, rfl⟩ := Option.map_eq_some_iff.mp he
      exact hx

/-! ## Who creates -/

section Creating
variable {Pm : Triggers C τ → Move (Service.Asked C) (Port.Answer (C := C)) → Prop} {t : τ} {w : Triggers C τ} {i : Nat}
  {u : TriggerThread C}

abbrev Stands (R : Remote D τ) (w : Triggers C τ) : Prop := (standing R).Stands (fun _ _ _ => True) w

theorem stands_of_reaches (h : Reaches (serve (store C R) Service.trigger) Pm (Triggers.idle C t) w) : Stands R w :=
  (standing R).stands (fun asked _ => Service.trigger_safe asked) (ordered_empty t) h

omit [DecidableEq D] in
theorem creates_iff {e : Event (Content C) (Port.Answer (C := C))} :
    creates e = true ↔ ∃ repositoryDigest ref commit r, e = .port (.createRef repositoryDigest ref commit) r := by
  constructor
  · intro he
    cases e with
    | read k r => cases he
    | publish k v r => cases he
    | port p r =>
      cases p with
      | createRef repositoryDigest ref commit => exact ⟨repositoryDigest, ref, commit, r, rfl⟩
      | _ => cases he
  · rintro ⟨repositoryDigest, ref, commit, r, rfl⟩
    rfl

theorem authorized_of_creates (hw : Stands R w) (hu : w.config.threads[i]? = some u)
    {e : Event (Content C) (Port.Answer (C := C))} (he : e ∈ u.log) (hc : creates e = true) :
    Kept u.call.meant u.log ∧ Authorized u.call.meant u.log := by
  obtain ⟨repositoryDigest, ref, commit, r, rfl⟩ := creates_iff.mp hc
  obtain ⟨h, hs, _, hk, ha, _⟩ := (hw.obeys hu).1.rule he
  exact ⟨hk.suffix hs, ha.suffix hs⟩

theorem creations_le_one (hw : Stands R w) (hd : (claimNames R).Distinct w) (operationId : D) :
    creations w operationId ≤ 1 := by
  refine sum_le_one (fun u hu => ?_) fun {i j u v} hu hv hpu hpv => ?_
  · obtain ⟨i, hi⟩ := List.getElem?_of_mem hu
    split
    · refine (hw.obeys hi).1.countP_le_one fun h e he hrule => ?_
      obtain ⟨repositoryDigest, ref, commit, r, rfl⟩ := creates_iff.mp he
      exact hrule.2.2.2
    · exact Nat.zero_le 1
  · -- both made the one claim directory of the operation
    have hdrew : ∀ {i : Nat} {u : TriggerThread C}, w.config.threads[i]? = some u →
        (0 < if u.call.meant.operationId = operationId then u.log.countP creates else 0) →
        (claimNames R).Drew u operationId := by
      intro i u hu hp
      split at hp
      · next hop =>
        obtain ⟨e, he, hc⟩ := List.countP_pos_iff.mp hp
        exact ⟨_, _, (authorized_of_creates hw hu he hc).2.1, by rw [← hop]; rfl⟩
      · cases hp
    exact hd.unique hu hv (hdrew hu hpu) (hdrew hv hpv)

theorem creations_eq_zero (hw : Stands R w) (hd : (claimNames R).Distinct w) (hu : w.config.threads[i]? = some u)
    (ha : Authorized u.call.meant u.log) (hn : ∀ e ∈ u.log, creates e = false) : creations w u.call.meant.operationId = 0 := by
  refine List.sum_eq_zero_iff_forall_eq_nat.mpr fun n hm => ?_
  obtain ⟨v, hv, rfl⟩ := List.mem_map.mp hm
  obtain ⟨j, hj⟩ := List.getElem?_of_mem hv
  split
  · next hop =>
    refine List.countP_eq_zero.mpr fun e he hc => ?_
    have hav := (authorized_of_creates hw hj he hc).2
    rw [Authorized, hop] at hav
    have hij : i = j := hd.unique hu hj ⟨_, _, ha.1, rfl⟩ ⟨_, _, hav.1, rfl⟩
    subst hij
    rw [hu] at hj
    cases hj
    rw [hn e he] at hc
    cases hc
  · rfl

end Creating

/-- Over any run the ref of an operation is created at most once. A call about to create
one names the ref and the commit of its plan; nobody created it before; the plan, and the
authorization with the plan's digest, ref, commit and tree, are durable. -/
theorem created_at_most_once {t : τ} {w : Triggers C τ} (hw : Runs R t w) :
    (∀ operationId, creations w operationId ≤ 1) ∧
    ∀ (i : Nat) (u : TriggerThread C) (repositoryDigest : D) (ref commit : String) (next : Created → Code C (Outcome C)),
      w.config.threads[i]? = some u → u.status = .running (.port (.createRef repositoryDigest ref commit) next) →
      creations w u.call.meant.operationId = 0 ∧
      ref = u.call.meant.validationRef ∧ commit = u.call.meant.expectedCommit ∧
      w.state.index .plan u.call.meant.operationId = some u.call.meant ∧
      ∃ a, w.state.claimed u.call.meant.operationId = some a ∧
        w.config.files (.authorization u.call.meant.operationId) = .bound a ∧ Service.Bound a u.call.meant := by
  have hstands := stands_of_reaches hw
  have hdistinct : (claimNames R).Distinct w := hw.distinct
  refine ⟨creations_le_one hstands hdistinct, fun i u repositoryDigest ref commit next hu hst => ?_⟩
  have hsafe := (hstands.obeys hu).2
  rw [hst] at hsafe
  obtain ⟨⟨⟨_, href, hcommit⟩, hk, ha, hn⟩, _⟩ := hsafe
  have hsound := (sound_ruled (G := fun asked _ => rules asked.meant) (Q := fun _ _ _ _ => True)
    (fun asked _ => Service.trigger_safe asked) hw.config).1
  refine ⟨creations_eq_zero hstands hdistinct hu ha hn, href, hcommit, hk.durable (hstands.told hu), _,
    hstands.told hu _ _ ha.2.1, ?_, rfl, rfl, rfl, rfl⟩
  exact hsound.tells hu _ ha.2.2

namespace Sample

/-- One trigger, up to the return of its create. -/
def triggered : Option (Triggers canon Ref) :=
  follow Service.trigger (fun _ _ => true) [.start (.plan plan), .steps (oracle false) 0 14] (Triggers.idle canon .free)

end Sample

set_option maxRecDepth 8000 in
theorem created_at_most_once_triggered :
    ∃ w : Triggers Sample.canon Ref, Runs (planRef false Sample.plan) .free w ∧ creations w Sample.plan.operationId = 1 := by
  have hcount : (Sample.triggered.map fun w => decide (0 < creations w Sample.plan.operationId)) = some true := by
    decide +kernel
  obtain ⟨w, hw, hpos⟩ := Option.map_eq_some_iff.mp hcount
  have hruns : Runs (planRef false Sample.plan) .free w := (follow_reaches hw).mono fun _ _ _ => trivial
  have hle := (created_at_most_once hruns).1 Sample.plan.operationId
  exact ⟨w, hruns, Nat.le_antisymm hle (of_decide_eq_true hpos)⟩

end AvoCorrelate.SyntheticValidation
