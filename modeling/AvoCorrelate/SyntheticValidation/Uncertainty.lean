import AvoCorrelate.SyntheticValidation.Quarantine
import AvoCorrelate.Lib.Turns
/-!
# Triggers in turn

Triggers for one plan, one after another, with crashes. An attempt of one kind stays for
ever, so a later call that meets the other kind of uncertainty conflicts with it; and a
crash between the creation of the authorization's index and its writing leaves an index
that cannot be read. Otherwise no call is stopped by what earlier ones left.
-/
open AvoLib

namespace AvoCorrelate.SyntheticValidation

variable {D τ : Type} [DecidableEq D] {C : Canon D}

/-! ## The regime -/

/-- Answers without I/O errors. -/
def Faultless (s : Store C τ) : (q : Port C) → q.Answer → Prop
  | .put, r => r = true
  | .load k operationId, r => r = content (s.index k operationId)
  | .link _ _, r => r = .created ∨ r = .taken
  | .makeClaim _, r => r = .made ∨ r = .existed
  | .loadClaim operationId, r => r = content (s.claimed operationId)
  | .installClaim _, r => r = .installed
  | .readRef _ _, _ => True
  | .createRef _ _ _, _ => True

/-- The kind of uncertainty a read is, if any, is that of the durable attempt; and what is
read are Git objects. -/
def Consistent (plan : Plan C) (s : Store C τ) (state : RefState) : Prop :=
  (∀ a ∈ (s.index .attempt plan.operationId : Option (Attempt C)),
    (a.kind = .createAmbiguous → state ≠ .error) ∧ (a.kind = .readError → state ≠ .none)) ∧
  ∀ commit tree, state = .wrong commit tree → gitObject commit ∧ gitObject tree

instance Faultless.decidable {s : Store C τ} : (q : Port C) → (r : q.Answer) → Decidable (Faultless s q r)
  | .put, r => inferInstanceAs (Decidable (r = true))
  | .load k operationId, r => inferInstanceAs (Decidable (r = content (s.index k operationId)))
  | .link _ _, r => inferInstanceAs (Decidable (r = .created ∨ r = .taken))
  | .makeClaim _, r => inferInstanceAs (Decidable (r = .made ∨ r = .existed))
  | .loadClaim operationId, r => inferInstanceAs (Decidable (r = content (s.claimed operationId)))
  | .installClaim _, r => inferInstanceAs (Decidable (r = .installed))
  | .readRef _ _, _ => .isTrue trivial
  | .createRef _ _ _, _ => .isTrue trivial

instance {plan : Plan C} {s : Store C τ} {state : RefState} : Decidable (Consistent plan s state) :=
  have : Decidable (∀ commit tree, state = .wrong commit tree → gitObject commit ∧ gitObject tree) :=
    match state with
    | .wrong commit tree => decidable_of_iff (gitObject commit ∧ gitObject tree) ⟨by rintro h _ _ ⟨⟩; exact h, fun h => h _ _ rfl⟩
    | .error => .isTrue fun _ _ h => nomatch h
    | .none => .isTrue fun _ _ h => nomatch h
    | .exact _ _ => .isTrue fun _ _ h => nomatch h
  instDecidableAnd

/-- Triggers for the plan in turn, without I/O errors. `Reads` tells what a read of the ref
may show; `Cut`, by the authorization's index, where a call may crash. -/
def turns (plan : Plan C) (Reads : Store C τ → RefState → Prop) (Cut : File (CreateAuthorization C) → Prop) :
    Regime (Service.Asked C) (Content C) (Port.Answer (C := C)) (Store C τ) where
  starts asked := asked.meant = plan
  ok s q r := Faultless s q r ∧
    match q, r with
    | .readRef _ _, r => Reads s (plan.refState r)
    | _, _ => True
  cut files _ := Cut (files (.authorization plan.operationId))

instance {plan : Plan C} {Reads : Store C τ → RefState → Prop} [∀ s state, Decidable (Reads s state)]
    {Cut : File (CreateAuthorization C) → Prop} (s : Store C τ) (q : Port C) (r : q.Answer) :
    Decidable ((turns plan Reads Cut).ok s q r) :=
  have : Decidable (match q, r with
      | .readRef _ _, r => Reads s (plan.refState r)
      | _, _ => True) :=
    match q, r with
    | .readRef _ _, r => inferInstanceAs (Decidable (Reads s (plan.refState r)))
    | .put, _ | .load _ _, _ | .link _ _, _ | .makeClaim _, _ | .loadClaim _, _ | .installClaim _, _ | .createRef _ _ _, _ =>
      .isTrue trivial
  instDecidableAnd

instance {plan : Plan C} {Reads : Store C τ → RefState → Prop} {Cut : File (CreateAuthorization C) → Prop}
    [DecidablePred Cut] (files : Files (Content C)) (s : Store C τ) : Decidable ((turns plan Reads Cut).cut files s) :=
  inferInstanceAs (Decidable (Cut _))

instance {plan : Plan C} {Reads : Store C τ → RefState → Prop} {Cut : File (CreateAuthorization C) → Prop} :
    DecidablePred (turns plan Reads Cut).starts := fun asked => inferInstanceAs (Decidable (asked.meant = plan))

/-! ## What triggers leave -/

/-- What triggers of the plan leave, and, when `base` holds, that the ref is there. -/
structure Left (plan : Plan C) (base : Prop) (files : Files (Content C)) (s : Store C Ref) : Prop where
  planned : ∀ p : Plan C, s.index .plan plan.operationId = some p → p = plan
  outcomes : ∀ o : Outcome C, s.index .outcome plan.operationId = some o → o.toBinding = plan.binding
  attempts : ∀ a : Attempt C, s.index .attempt plan.operationId = some a → a.toBinding = plan.binding
  indexed : files (.authorization plan.operationId) = .absent ∨ files (.authorization plan.operationId) = .bound plan.binding
  claimed : s.claimed plan.operationId = none ∨ s.claimed plan.operationId = some plan.binding
  unclaimed : plan.operationId ∉ s.claims →
    files (.authorization plan.operationId) = .absent ∧ s.claimed plan.operationId = none
  taken : s.remote ≠ .free → files (.authorization plan.operationId) = .bound plan.binding
  success : s.remote ≠ .free → ∀ o : Outcome C, s.index .outcome plan.operationId = some o → o.outcome.success = true
  present : base → s.remote = .present

section Left
variable {plan : Plan C} {base : Prop} {files : Files (Content C)} {s : Store C Ref}

theorem Left.setPlan (h : Left plan base files s) : Left plan base files (s.setIndex .plan plan) := by
  refine ⟨?_, ?_, ?_, h.indexed, h.claimed, h.unclaimed, h.taken, ?_, h.present⟩
  · intro p hp
    rcases Store.index_setIndex.mp hp with ⟨_, _, rfl⟩ | ⟨_, hp⟩
    · rfl
    · exact h.planned p hp
  · intro o ho
    rcases Store.index_setIndex.mp ho with ⟨hk, _⟩ | ⟨_, ho⟩
    · cases hk
    · exact h.outcomes o ho
  · intro a ha
    rcases Store.index_setIndex.mp ha with ⟨hk, _⟩ | ⟨_, ha⟩
    · cases hk
    · exact h.attempts a ha
  · intro hr o ho
    rcases Store.index_setIndex.mp ho with ⟨hk, _⟩ | ⟨_, ho⟩
    · cases hk
    · exact h.success hr o ho

theorem Left.setAttempt {kind : AttemptKind} (h : Left plan base files s) :
    Left plan base files (s.setIndex .attempt ⟨plan.binding, kind⟩) := by
  refine ⟨?_, ?_, ?_, h.indexed, h.claimed, h.unclaimed, h.taken, ?_, h.present⟩
  · intro p hp
    rcases Store.index_setIndex.mp hp with ⟨hk, _⟩ | ⟨_, hp⟩
    · cases hk
    · exact h.planned p hp
  · intro o ho
    rcases Store.index_setIndex.mp ho with ⟨hk, _⟩ | ⟨_, ho⟩
    · cases hk
    · exact h.outcomes o ho
  · intro a ha
    rcases Store.index_setIndex.mp ha with ⟨_, _, rfl⟩ | ⟨_, ha⟩
    · rfl
    · exact h.attempts a ha
  · intro hr o ho
    rcases Store.index_setIndex.mp ho with ⟨hk, _⟩ | ⟨_, ho⟩
    · cases hk
    · exact h.success hr o ho

theorem Left.setOutcome {o : Outcome C} (h : Left plan base files s) (hb : o.toBinding = plan.binding)
    (hs : s.remote ≠ .free → o.outcome.success = true) : Left plan base files (s.setIndex .outcome o) := by
  refine ⟨?_, ?_, ?_, h.indexed, h.claimed, h.unclaimed, h.taken, ?_, h.present⟩
  · intro p hp
    rcases Store.index_setIndex.mp hp with ⟨hk, _⟩ | ⟨_, hp⟩
    · cases hk
    · exact h.planned p hp
  · intro o' ho
    rcases Store.index_setIndex.mp ho with ⟨_, _, rfl⟩ | ⟨_, ho⟩
    · exact hb
    · exact h.outcomes o' ho
  · intro a ha
    rcases Store.index_setIndex.mp ha with ⟨hk, _⟩ | ⟨_, ha⟩
    · cases hk
    · exact h.attempts a ha
  · intro hr o' ho
    rcases Store.index_setIndex.mp ho with ⟨_, _, rfl⟩ | ⟨_, ho⟩
    · exact hs hr
    · exact h.success hr o' ho

omit [DecidableEq D] in
theorem Left.setRemote {ref : Ref} (h : Left plan base files s) (hp : s.remote = .present → ref = .present)
    (hr : ref ≠ .free → files (.authorization plan.operationId) = .bound plan.binding ∧
      ∀ o : Outcome C, s.index .outcome plan.operationId = some o → o.outcome.success = true) :
    Left plan base files { s with remote := ref } :=
  ⟨h.planned, h.outcomes, h.attempts, h.indexed, h.claimed, h.unclaimed, fun hne => (hr hne).1, fun hne => (hr hne).2,
    fun hb => hp (h.present hb)⟩

omit [DecidableEq D] in
theorem Left.makeClaim {operationId : D} (h : Left plan base files s) :
    Left plan base files { s with claims := operationId :: s.claims } :=
  ⟨h.planned, h.outcomes, h.attempts, h.indexed, h.claimed, fun hn => h.unclaimed fun hm => hn (List.mem_cons_of_mem _ hm), h.taken,
    h.success, h.present⟩

theorem Left.setClaimed (h : Left plan base files s) (hm : plan.operationId ∈ s.claims) :
    Left plan base files (s.setClaimed plan.binding) := by
  refine ⟨h.planned, h.outcomes, h.attempts, h.indexed, .inr ?_, fun hn => absurd hm hn, h.taken, h.success, h.present⟩
  exact Store.claimed_setClaimed.trans (if_pos rfl)

theorem Left.publish (h : Left plan base files s) (hm : plan.operationId ∈ s.claims) :
    Left plan base (files.put (.authorization plan.operationId) (.bound plan.binding)) s :=
  ⟨h.planned, h.outcomes, h.attempts, .inr (Files.put_self _ _ _), h.claimed, fun hn => absurd hm hn, fun _ => Files.put_self _ _ _,
    h.success, h.present⟩

end Left

/-! ## Reading the ref -/

variable {r : RefAnswer} {commit tree : String} {state : RefState} {s : Store C Ref}

omit [DecidableEq D] in
theorem Plan.refState_exact {plan : Plan C} (h : plan.refState r = .exact commit tree) :
    commit = plan.expectedCommit ∧ tree = plan.expectedTree := by
  unfold Plan.refState at h
  split at h
  · cases h
  · cases h
  · split at h
    · cases h
    · next hc ht =>
      split at h
      · next hc' =>
        split at h
        · next ht' => cases h; exact ⟨hc', ht'⟩
        · cases h
      · cases h

omit [DecidableEq D] in
theorem Plan.refState_wrong {plan : Plan C} (h : plan.refState r = .wrong commit tree) :
    ¬ (commit = plan.expectedCommit ∧ tree = plan.expectedTree) := by
  unfold Plan.refState at h
  split at h
  · cases h
  · cases h
  · split at h
    · cases h
    · split at h
      · split at h
        · cases h
        · next ht => cases h; exact fun he => ht he.2
      · next hc => cases h; exact fun he => hc he.1

theorem Ref.seen_true {ref ref' : Ref} (h : ref.seen true state = some ref') :
    (ref' ≠ .free → ref ≠ .free) ∧ (∀ commit tree, state = .wrong commit tree → ref' = .free) ∧
      (ref = .present → ref' = .present ∧ state ≠ .none ∧ ∀ commit tree, state ≠ .wrong commit tree) := by
  cases ref <;> cases state <;> simp [Ref.seen] at h ⊢ <;> simp [← h]

omit [DecidableEq D] in
theorem Left.seen {plan : Plan C} {base : Prop} {files : Files (Content C)} {ref : Ref} (h : Left plan base files s)
    (hs : s.remote.seen true state = some ref) : Left plan base files { s with remote := ref } := by
  obtain ⟨hfree, _, hpresent⟩ := Ref.seen_true hs
  exact h.setRemote (fun hp => (hpresent hp).1) fun hne => ⟨h.taken (hfree hne), h.success (hfree hne)⟩

omit [DecidableEq D] in
theorem admits_exact {plan : Plan C} {kind : OutcomeKind} {error : Option String}
    (hr : plan.refState r = .exact commit tree) (hk : kind.success ∨ (kind = .quarantined ∧ error.isSome)) :
    plan.binding.Admits kind (some commit) (some tree) error := by
  obtain ⟨rfl, rfl⟩ := Plan.refState_exact hr
  have ho : gitObject plan.expectedCommit ∧ gitObject plan.expectedTree := plan.binding.objects
  refine ⟨?_, ?_, ?_, fun _ => ⟨rfl, rfl⟩, fun _ => ⟨rfl, rfl⟩, ?_⟩
  · rintro c ⟨⟩
    exact ho.1
  · rintro t ⟨⟩
    exact ho.2
  · rintro hkind
    rcases hk with hk | ⟨_, he⟩
    · rcases hkind with rfl | rfl | rfl <;> cases hk
    · exact he
  · rintro rfl
    rcases hk with hk | ⟨hk, _⟩ <;> cases hk

omit [DecidableEq D] in
theorem admits_wrong {plan : Plan C} {error : String} (hr : plan.refState r = .wrong commit tree)
    (hc : Consistent plan s (plan.refState r)) :
    plan.binding.Admits .invalid (some commit) (some tree) (some error) := by
  have hobjects := hc.2 commit tree hr
  have hne := Plan.refState_wrong hr
  simp only [Binding.Admits, OutcomeKind.success]
  simpa using ⟨hobjects.1, hobjects.2, fun h₁ h₂ => hne ⟨h₁, h₂⟩⟩

/-! ## One trigger -/

/-- The call does not crash with the index created and not written. -/
abbrev regime (plan : Plan C) (Reads : Store C Ref → RefState → Prop) :
    Regime (Service.Asked C) (Content C) (Port.Answer (C := C)) (Store C Ref) :=
  turns plan Reads (· ≠ .torn)

abbrev Survives {α : Type} (plan : Plan C) (Reads : Store C Ref → RefState → Prop) (base : Prop)
    (Q : Except Exc α → Files (Content C) → Store C Ref → Prop) (p : Code C α) (files : Files (Content C)) (s : Store C Ref) : Prop :=
  p.Survives (store C (planRef true plan)) (regime plan Reads) (Left plan base) Q files s

section Survives
variable {α : Type} {plan : Plan C} {Reads : Store C Ref → RefState → Prop} {base : Prop} {files : Files (Content C)} {s : Store C Ref}
  {Q : Except Exc α → Files (Content C) → Store C Ref → Prop}

theorem survives_read {k : Kind} {operationId : D} {f : Option (Rec C k) → Code C α} (h : Left plan base files s)
    (hkeyed : ∀ v, s.index k operationId = some v → Rec.operationId v = operationId)
    (hf : Survives plan Reads base Q (f (s.index k operationId)) files s) :
    Survives plan Reads base Q (Journal.read k operationId >>= f) files s := by
  refine ⟨fun _ => h, fun r s' hr hs => ?_⟩
  obtain rfl : r = content (s.index k operationId) := hr.1
  have hsame : s = s' := by simpa [store] using hs
  subst hsame
  cases hi : s.index k operationId with
  | none => rw [hi] at hf; exact hf
  | some v =>
    rw [hi] at hf
    change Survives plan Reads base Q ((Prog.require (Rec.operationId v = operationId) _ >>= fun _ => .done (some v)) >>= f) files s
    rw [Prog.require_of (hkeyed v hi)]
    exact hf

/-- What a recording leaves: the record, where nothing was, or the same record as before. -/
def Recorded (k : Kind) (r : Rec C k) (files : Files (Content C)) (s : Store C Ref) :
    Except Exc Unit → Files (Content C) → Store C Ref → Prop :=
  fun x files' s' => x = .ok () ∧ files' = files ∧
    ((s.index k (Rec.operationId r) = none ∧ s' = s.setIndex k r) ∨ (s.index k (Rec.operationId r) = some r ∧ s' = s))

theorem survives_record {k : Kind} {r : Rec C k} (h : Left plan base files s)
    (hold : ∀ v, s.index k (Rec.operationId r) = some v → v = r) :
    Survives plan Reads base (Recorded k r files s) (Journal.record k r) files s := by
  refine ⟨fun _ => h, fun ok s' hok hs => ?_⟩
  obtain rfl : ok = true := hok.1
  cases hs
  refine ⟨fun _ => h, fun linked s' hlinked hs => ?_⟩
  cases hi : s.index k (Rec.operationId r) with
  | none =>
    rcases hlinked.1 with rfl | rfl
    · have hset : s.setIndex k r = s' := by simpa [store, hi] using hs
      exact ⟨rfl, rfl, .inl ⟨hi, hset.symm⟩⟩
    · simp [store, hi] at hs
  | some v =>
    rcases hlinked.1 with rfl | rfl
    · simp [store, hi] at hs
    · have hkept : s = s' := by simpa [store, hi] using hs
      subst hkept
      obtain rfl := hold v hi
      refine ⟨fun _ => h, fun found s' hfound hs => ?_⟩
      obtain rfl : found = content (s.index k (Rec.operationId v)) := hfound.1
      have hkept : s = s' := by simpa [store] using hs
      subst hkept
      rw [hi]
      change Survives plan Reads base _ (Prog.require (v = v) _) files s
      rw [Prog.require_of rfl]
      exact ⟨rfl, rfl, .inr ⟨hi, rfl⟩⟩

theorem survives_readRef {f : RefState → Code C α} (h : Left plan base files s)
    (hf : ∀ r ref, Reads s (plan.refState r) → s.remote.seen true (plan.refState r) = some ref →
      Survives plan Reads base Q (f (plan.refState r)) files { s with remote := ref }) :
    Survives plan Reads base Q (Service.read plan >>= f) files s := by
  refine ⟨fun _ => h, fun r s' hok hs => ?_⟩
  obtain ⟨ref, href, rfl⟩ := store_readRef.mp hs
  exact hf r ref hok.2 href

theorem survives_outcome {kind : OutcomeKind} {commit tree error : Option String} {f : Outcome C → Code C α}
    (hv : plan.binding.Admits kind commit tree error)
    (hf : ∀ o : Outcome C, o.toBinding = plan.binding → o.outcome = kind → Survives plan Reads base Q (f o) files s) :
    Survives plan Reads base Q (Service.outcome plan kind commit tree error >>= f) files s := by
  unfold Service.outcome
  rw [dif_pos hv]
  exact hf _ rfl rfl

end Survives

/-- A read could fail, or show no ref. -/
def Missed (plan : Plan C) (Reads : Store C Ref → RefState → Prop) (base : Prop) : Prop :=
  ∃ files s state, Left plan base files s ∧ Reads s state ∧ (state = .error ∨ state = .none)

/-- A call ends with a durable outcome, or it could not read the ref, or saw none, and says so. -/
def Decided (plan : Plan C) (Reads : Store C Ref → RefState → Prop) (base : Prop) :
    Except Exc (Outcome C) → Files (Content C) → Store C Ref → Prop
  | .ok o, files, s => Left plan base files s ∧ (s.index .outcome plan.operationId = some o ∨
      (o.outcome = .reconciliationRequired ∧ Missed plan Reads base))
  | .error _, _, _ => False

section Calls
variable {plan : Plan C} {Reads : Store C Ref → RefState → Prop} {base : Prop} {files : Files (Content C)} {s : Store C Ref}

theorem survives_report {kind : OutcomeKind} {commit tree : String} {error : Option String} (h : Left plan base files s)
    (hnone : s.index .outcome plan.operationId = none) (hv : plan.binding.Admits kind (some commit) (some tree) error)
    (hs : s.remote ≠ .free → kind.success = true) :
    Survives plan Reads base (Decided plan Reads base) (Service.report plan kind commit tree error) files s := by
  refine survives_outcome hv fun o hb ho => ?_
  have hop : o.operationId = plan.operationId := congrArg Binding.operationId hb
  have hrec : Survives plan Reads base (Recorded .outcome o files s) (Journal.record .outcome o) files s :=
    survives_record h fun v hv => ?_
  · refine hrec.attempt_bind fun x files' s' hx => ?_
    obtain ⟨rfl, rfl, ⟨_, rfl⟩ | ⟨hi, rfl⟩⟩ := hx
    · refine ⟨h.setOutcome hb fun hne => by rw [ho]; exact hs hne, .inl ?_⟩
      exact Store.index_setIndex.mpr (.inl ⟨rfl, hop.symm, rfl⟩)
    · exact absurd (hi.symm.trans ((congrArg _ hop).trans hnone)) (fun he => nomatch he)
  · exact absurd (hv.symm.trans ((congrArg _ hop).trans hnone)) (fun he => nomatch he)

theorem survives_uncertain {kind : AttemptKind} (h : Left plan base files s)
    (hkind : ∀ a : Attempt C, s.index .attempt plan.operationId = some a → a.kind = kind)
    (hmissed : Missed plan Reads base) :
    Survives plan Reads base (Decided plan Reads base) (Service.uncertain plan kind) files s := by
  have hrec : Survives plan Reads base (Recorded .attempt ⟨plan.binding, kind⟩ files s)
      (Journal.record .attempt ⟨plan.binding, kind⟩) files s := survives_record h fun v hv => ?_
  · refine hrec.bind (fun x files' s' hx => ?_) fun e files' s' hx => nomatch hx.1
    obtain ⟨_, rfl, hs⟩ := hx
    have hleft : Left plan base files' s' := by
      rcases hs with ⟨_, rfl⟩ | ⟨_, rfl⟩
      · exact h.setAttempt
      · exact h
    unfold Service.outcome
    rw [dif_pos (by cases kind <;> simp [Binding.Admits, OutcomeKind.success])]
    exact ⟨hleft, .inr ⟨rfl, hmissed⟩⟩
  · obtain ⟨b, k⟩ := v
    have hb : b = plan.binding := h.attempts _ hv
    have hk : k = kind := hkind _ hv
    rw [hb, hk]

variable (hreads : ∀ files s state, Left plan base files s → Reads s state → Consistent plan s state)
include hreads

theorem survives_settle {kind : OutcomeKind} {error : String} (h : Left plan base files s)
    (hnone : s.index .outcome plan.operationId = none) (hattempt : s.index .attempt plan.operationId = none)
    (hk : kind.success) : Survives plan Reads base (Decided plan Reads base) (Service.settle plan kind error) files s := by
  refine survives_readRef h fun r ref hr hs => ?_
  have hc := hreads _ _ _ h hr
  have hleft := h.seen hs
  cases hstate : plan.refState r with
  | exact commit tree => exact survives_report hleft hnone (admits_exact hstate (.inl hk)) fun _ => hk
  | wrong commit tree =>
    exact survives_report hleft hnone (admits_wrong hstate hc) fun hne => absurd ((Ref.seen_true hs).2.1 _ _ hstate) hne
  | error =>
    exact survives_uncertain hleft (fun a ha => by rw [hattempt] at ha; cases ha) ⟨_, _, _, h, hr, .inl hstate⟩
  | none =>
    exact survives_uncertain hleft (fun a ha => by rw [hattempt] at ha; cases ha) ⟨_, _, _, h, hr, .inr hstate⟩

theorem survives_create (h : Left plan base files s) (hnone : s.index .outcome plan.operationId = none)
    (hattempt : s.index .attempt plan.operationId = none) (hfile : files (.authorization plan.operationId) = .absent)
    (hclaimed : s.claimed plan.operationId = none) :
    Survives plan Reads base (Decided plan Reads base) (Service.create plan) files s := by
  refine ⟨fun _ => h, fun making s' hok hs => ?_⟩
  by_cases hm : plan.operationId ∈ s.claims
  · -- the directory of a call that crashed before it installed the authorization
    rcases hok.1 with rfl | rfl
    · simp [store, hm] at hs
    · have hkept : s = s' := by simpa [store, hm] using hs
      subst hkept
      refine ⟨fun _ => h, fun found s' hfound hs => ?_⟩
      obtain rfl : found = content (s.claimed plan.operationId) := hfound.1
      have hkept : s = s' := by simpa [store] using hs
      subst hkept
      rw [hclaimed]
      exact survives_settle hreads h hnone hattempt rfl
  · rcases hok.1 with rfl | rfl
    · obtain rfl : ({ s with claims := plan.operationId :: s.claims } : Store C Ref) = s' := by simpa [store, hm] using hs
      have h₁ : Left plan base files { s with claims := plan.operationId :: s.claims } := h.makeClaim
      refine ⟨fun _ => h₁, fun installing s' hinst hs => ?_⟩
      obtain rfl : installing = .installed := hinst.1
      cases hs
      have hmem : plan.operationId ∈ ({ s with claims := plan.operationId :: s.claims } : Store C Ref).claims := List.mem_cons_self
      have h₂ := h₁.setClaimed hmem
      refine ⟨fun _ => h₂, fun ok s' hput hs => ?_⟩
      obtain rfl : ok = true := hput.1
      cases hs
      -- a crash may not leave the index created and not written
      refine ⟨fun _ => h₂, fun _ => ⟨fun hcut => absurd (Files.put_self _ _ _) hcut, ?_⟩, fun hne => absurd hfile hne⟩
      have h₃ := h₂.publish hmem
      refine ⟨fun _ => h₃, fun created s' _ hs => ?_⟩
      obtain ⟨ref, href, rfl⟩ := store_createRef.mp hs
      have h₄ : Left plan base (files.put (.authorization plan.operationId) (.bound plan.binding)) { (({ s with claims := plan.operationId :: s.claims } : Store C Ref).setClaimed plan.binding) with
          remote := ref } := by
        refine h₃.setRemote (fun hp => ?_) fun _ => ⟨Files.put_self _ _ _, fun o ho => ?_⟩
        · obtain rfl := Option.some.inj href
          change Ref.created s.remote created.effect = .present
          rw [show s.remote = .present from hp]
          rfl
        · rw [show s.index .outcome plan.operationId = some o from ho] at hnone
          cases hnone
      change Survives plan Reads base _ (if created.returned then _ else _) _ _
      split
      · exact survives_settle hreads h₄ hnone hattempt rfl
      · exact survives_settle hreads h₄ hnone hattempt rfl
    · simp [store, hm] at hs

omit hreads in
theorem survives_readCreateAuthorization {α : Type} {Q : Except Exc α → Files (Content C) → Store C Ref → Prop}
    {f : Option (CreateAuthorization C) → Code C α} (h : Left plan base files s)
    (hf : ∀ authorization : Option (CreateAuthorization C), (∀ a ∈ authorization, a = plan.binding) →
      (authorization = none → files (.authorization plan.operationId) = .absent ∧ s.claimed plan.operationId = none) →
      Survives plan Reads base Q (f authorization) files s) :
    Survives plan Reads base Q (Journal.readCreateAuthorization plan.operationId >>= f) files s := by
  have hsome : Survives plan Reads base Q (f (some plan.binding)) files s :=
    hf _ (fun a ha => (Option.some.inj ha).symm) fun he => nomatch he
  refine ⟨fun _ => h, ?_⟩
  rcases h.indexed with hfile | hfile
  · rw [hfile]
    refine ⟨fun _ => h, fun found s' hok hs => ?_⟩
    obtain rfl : found = content (s.claimed plan.operationId) := hok.1
    have hkept : s = s' := by simpa [store] using hs
    subst hkept
    rcases h.claimed with hc | hc
    · rw [hc]
      exact hf none (fun a ha => nomatch ha) fun _ => ⟨hfile, hc⟩
    · rw [hc]
      change Survives plan Reads base Q ((Prog.require (plan.binding.operationId = plan.operationId) _ >>= fun _ =>
        .done (some plan.binding)) >>= f) files s
      rw [Prog.require_of plan.binding_operationId]
      exact hsome
  · rw [hfile]
    change Survives plan Reads base Q ((Prog.require (plan.binding.operationId = plan.operationId) _ >>= fun _ =>
      .done (some plan.binding)) >>= f) files s
    rw [Prog.require_of plan.binding_operationId]
    exact hsome

theorem survives_reconcile (h : Left plan base files s) (hnone : s.index .outcome plan.operationId = none) :
    Survives plan Reads base (Decided plan Reads base) (Service.reconcile plan) files s := by
  unfold Service.reconcile
  refine survives_read h (fun a ha => congrArg Binding.operationId (h.attempts a ha)) ?_
  refine Prog.Survives.require_bind (fun a ha => ?_) ?_
  · rw [h.attempts a ha]
    exact ⟨rfl, rfl, rfl, rfl⟩
  refine survives_readCreateAuthorization h fun authorization hbound habsent => ?_
  refine Prog.Survives.require_bind (fun a ha => ?_) ?_
  · rw [hbound a ha]
    exact ⟨rfl, rfl, rfl, rfl⟩
  refine survives_readRef h fun r ref hr hs => ?_
  have hc := hreads _ _ _ h hr
  have hleft := h.seen hs
  cases hstate : plan.refState r with
  | error =>
    refine survives_uncertain hleft (fun a ha => ?_) ⟨_, _, _, h, hr, .inl hstate⟩
    cases hk : a.kind with
    | readError => rfl
    | createAmbiguous => exact absurd hstate ((hc.1 a ha).1 hk)
  | exact commit tree =>
    dsimp only
    split
    · next ha =>
      -- nobody is authorized, so the ref is not the plan's
      refine survives_report hleft hnone (admits_exact hstate (.inr ⟨rfl, rfl⟩)) fun hne => ?_
      have htaken := h.taken ((Ref.seen_true hs).1 hne)
      rw [(habsent (Option.isNone_iff_eq_none.mp ha)).1] at htaken
      cases htaken
    · have hk : (if (s.index .attempt plan.operationId).isSome then OutcomeKind.reconciled else .alreadyPresent).success := by
        split <;> rfl
      exact survives_report hleft hnone (admits_exact hstate (.inl hk)) fun _ => hk
  | wrong commit tree =>
    exact survives_report hleft hnone (admits_wrong hstate hc) fun hne => absurd ((Ref.seen_true hs).2.1 _ _ hstate) hne
  | none =>
    dsimp only
    split
    · refine survives_uncertain hleft (fun a ha => ?_) ⟨_, _, _, h, hr, .inr hstate⟩
      cases hk : a.kind with
      | createAmbiguous => rfl
      | readError => exact absurd hstate ((hc.1 a ha).2 hk)
    · next hfresh =>
      simp only [Bool.or_eq_true, not_or, Bool.not_eq_true, Option.isSome_eq_false_iff, Option.isNone_iff_eq_none] at hfresh
      obtain ⟨hfile, hclaimed⟩ := habsent hfresh.2
      exact survives_create hreads hleft hnone hfresh.1 hfile hclaimed

omit hreads in
theorem survives_adopt {asked : Service.Asked C} (hasked : asked.meant = plan) (h : Left plan base files s) :
    Survives plan Reads base (fun x files' s' => x = .ok plan ∧ Left plan base files' s') (Service.adopt asked) files s := by
  have hrecord : Survives plan Reads base (fun x files' s' => x = .ok () ∧ Left plan base files' s')
      (Journal.record .plan plan : Code C Unit) files s := by
    refine (survives_record (k := .plan) h fun p hp => h.planned p hp).mono fun x files' s' hx => ?_
    obtain ⟨rfl, rfl, ⟨_, rfl⟩ | ⟨_, rfl⟩⟩ := hx
    · exact ⟨rfl, h.setPlan⟩
    · exact ⟨rfl, h⟩
  have hkeyed : ∀ p : Plan C, s.index .plan plan.operationId = some p → Rec.operationId (k := .plan) p = plan.operationId :=
    fun p hp => by rw [h.planned p hp]; rfl
  have hnew : Survives plan Reads base (fun x files' s' => x = .ok plan ∧ Left plan base files' s')
      (do Journal.record .plan plan; return plan : Code C (Plan C)) files s :=
    hrecord.bind (fun _ _ _ hx => ⟨rfl, hx.2⟩) fun _ _ _ hx => by cases hx.1
  have hold : Survives plan Reads base (fun x files' s' => x = .ok plan ∧ Left plan base files' s')
      (do
        Prog.require (plan = plan) (.conflict "conflicting replay for operation")
        return plan : Code C (Plan C)) files s := Prog.Survives.require_bind rfl ⟨rfl, h⟩
  cases asked with
  | plan p =>
    obtain rfl : p = plan := hasked
    refine survives_read h hkeyed ?_
    cases hp : s.index .plan p.operationId with
    | none => exact hnew
    | some q =>
      obtain rfl := h.planned q hp
      exact hold
  | request r =>
    obtain rfl : r.plan = plan := hasked
    refine survives_read h hkeyed ?_
    cases hp : s.index .plan (syntheticValidationOperationId C r) with
    | none => exact hnew
    | some q =>
      obtain rfl := h.planned q hp
      exact hold

theorem survives_trigger {asked : Service.Asked C} (hasked : asked.meant = plan) (h : Left plan base files s) :
    Survives plan Reads base (Decided plan Reads base) (Service.trigger asked) files s := by
  refine (survives_adopt hasked h).bind (fun p files s hx => ?_) fun _ _ _ hx => nomatch hx.1
  obtain ⟨hp, h⟩ := hx
  cases hp
  refine survives_read h (fun o ho => congrArg Binding.operationId (h.outcomes o ho)) ?_
  cases ho : s.index .outcome plan.operationId with
  | none => exact survives_reconcile hreads h ho
  | some o =>
    refine Prog.Survives.require_bind ?_ ⟨h, .inl ho⟩
    rw [h.outcomes o ho]
    exact ⟨rfl, rfl, rfl, rfl⟩

end Calls

omit [DecidableEq D] in
theorem left_empty {plan : Plan C} : Left plan False (fun _ => .absent) (Store.empty Ref.free) :=
  ⟨fun _ h => (nomatch h), fun _ h => (nomatch h), fun _ h => (nomatch h), .inl rfl, .inl rfl, fun _ => ⟨rfl, rfl⟩,
    fun h => absurd rfl h, fun h => absurd rfl h, fun h => h.elim⟩

/-- In a run of triggers for one plan in turn, whose reads of the ref are consistent with the
durable attempt and which never crash with the authorization's index created and not written,
no call raises. When all calls are over, the next uninterrupted one returns the durable
outcome or says that reconciliation is required; and a success, once the create has taken
effect and reads show it. -/
theorem uncertainty_never_breaks {plan : Plan C} {w : Triggers C Ref}
    (hw : Reaches (serve (store C (planRef true plan)) Service.trigger) (regime plan (Consistent plan)).InTurn
      (Triggers.idle C .free) w) :
    (∀ (i : Nat) (u : TriggerThread C) (e : Exc), w.config.threads[i]? = some u → u.status ≠ .running (.raise e)) ∧
    ((∀ u ∈ w.config.threads, u.live = false) → ∀ (asked : Service.Asked C) (O : Oracle (store C (planRef true plan))),
      asked.meant = plan →
      ((∀ s q, (regime plan (Consistent plan)).ok s q (O.answer s q)) →
        ∃ o files s, (Service.trigger asked).play O w.config.files w.state = ⟨.ok o, files, s⟩ ∧
          (s.index .outcome plan.operationId = some o ∨ o.outcome = .reconciliationRequired)) ∧
      (w.state.remote = .present →
        (∀ s q, (regime plan fun s state => s.remote = .present → ∃ commit tree, state = .exact commit tree).ok s q (O.answer s q)) →
        ∃ o files s, (Service.trigger asked).play O w.config.files w.state = ⟨.ok o, files, s⟩ ∧
          s.index .outcome plan.operationId = some o ∧ o.outcome.success = true)) := by
  have hturned : Turned (store C (planRef true plan)) (regime plan (Consistent plan)) (Left plan False)
      (fun _ => Decided plan (Consistent plan) False) w := by
    refine turned_of_reaches (fun call files s hcall h => survives_trigger (fun _ _ _ _ hc => hc) hcall h) ?_ left_empty hw
    intro call x files s hx
    cases x with
    | error e => exact hx.elim
    | ok o => exact hx.1
  refine ⟨fun i u e hu hst => ?_, fun hover asked O hasked => ⟨fun hO => ?_, fun hpresent hO => ?_⟩⟩
  · obtain ⟨_, _, hq⟩ := hturned.ended (x := .error e) hu hst
    exact hq
  · have hsurvives : Survives plan (Consistent plan) False (Decided plan (Consistent plan) False) (Service.trigger asked)
        w.config.files w.state := survives_trigger (fun _ _ _ _ hc => hc) hasked (hturned.still hover)
    have hplay := hsurvives.play hO
    cases hp : (Service.trigger asked).play O w.config.files w.state with
    | mk outcome files s =>
      rw [hp] at hplay
      cases outcome with
      | error e => exact hplay.elim
      | ok o => exact ⟨o, files, s, rfl, hplay.2.imp id And.left⟩
  · have hleft : Left plan True w.config.files w.state := by
      have h := hturned.still hover
      exact ⟨h.planned, h.outcomes, h.attempts, h.indexed, h.claimed, h.unclaimed, h.taken, h.success, fun _ => hpresent⟩
    have hexact : ∀ (files : Files (Content C)) (s : Store C Ref) (state : RefState), Left plan True files s →
        (s.remote = .present → ∃ commit tree, state = .exact commit tree) → ∃ commit tree, state = .exact commit tree :=
      fun files s state h hs => hs (h.present trivial)
    have hsurvives : Survives plan (fun s state => s.remote = .present → ∃ commit tree, state = .exact commit tree) True
        (Decided plan (fun s state => s.remote = .present → ∃ commit tree, state = .exact commit tree) True)
        (Service.trigger asked) w.config.files w.state := survives_trigger (fun files s state h hs => ?_) hasked hleft
    have hplay := hsurvives.play hO
    · cases hp : (Service.trigger asked).play O w.config.files w.state with
      | mk outcome files s =>
        rw [hp] at hplay
        cases outcome with
        | error e => exact hplay.elim
        | ok o =>
          obtain ⟨hl, hdone | ⟨_, files', s', state, hl', hs', hmissed⟩⟩ := hplay
          · refine ⟨o, files, s, rfl, hdone, hl.success (fun hf => ?_) o hdone⟩
            rw [hl.present trivial] at hf
            cases hf
          · obtain ⟨commit, tree, rfl⟩ := hexact _ _ _ hl' hs'
            rcases hmissed with h | h <;> cases h
    · obtain ⟨commit, tree, rfl⟩ := hexact _ _ _ h hs
      exact ⟨fun a _ => ⟨fun _ he => (nomatch he), fun _ he => (nomatch he)⟩, fun _ _ he => (nomatch he)⟩

/-! ## Stopped by an earlier trigger -/

namespace Sample

/-- Triggers in turn: any reads, crashes anywhere. -/
abbrev anyTurns : Regime (Service.Asked canon) (Content canon) (Port.Answer (C := canon)) (Store canon Ref) :=
  turns plan (fun _ _ => True) (fun _ => True)

def failing : Provider (planRef true plan) where
  read _ _ _ := .raised
  create _ _ _ _ := ⟨.never, false⟩
  reads ref _ _ := by
    cases ref <;> rfl
  creates _ _ _ _ := rfl

/-- A provider that answers with something else than Git objects. -/
def garbled : Provider (planRef true plan) where
  read ref _ _ := if ref = .present then .raised else .mapping [("commit", .text "HEAD"), ("tree", .text "HEAD")]
  create _ _ _ _ := ⟨.never, false⟩
  reads ref _ _ := by
    cases ref <;> rfl
  creates _ _ _ _ := rfl

/-- The exception that a call ended with. -/
def raised (w : Triggers canon Ref) (i : Nat) : Option Exc :=
  match (w.config.threads[i]?).map Thread.status with
  | some (.running (.raise e)) => some e
  | _ => none

/-- The first read fails; the second trigger sees no ref. -/
def mixed : Option (Triggers canon Ref) :=
  follow Service.trigger anyTurns.check [.start (.plan plan), .steps failing.oracle 0 10, .start (.plan plan),
    .steps (oracle true) 1 9] (Triggers.idle canon .free)

/-- The first trigger crashes after the index was created. -/
def torn : Option (Triggers canon Ref) :=
  follow Service.trigger anyTurns.check [.start (.plan plan), .steps (oracle true) 0 12, .crash 0, .start (.plan plan),
    .steps (oracle true) 1 4] (Triggers.idle canon .free)

/-- A trigger whose read gives garbage. -/
def misread : Option (Triggers canon Ref) :=
  follow Service.trigger anyTurns.check [.start (.plan plan), .steps garbled.oracle 0 8] (Triggers.idle canon .free)

/-- A trigger that crashes once its create has taken effect. -/
def cut : Option (Triggers canon Ref) :=
  follow Service.trigger (regime plan (Consistent plan)).check [.start (.plan plan), .steps (oracle true) 0 14, .crash 0]
    (Triggers.idle canon .free)

end Sample

set_option maxRecDepth 8000 in
theorem uncertainty_breaks :
    (∃ w, Reaches (serve (store Sample.canon (planRef true Sample.plan)) Service.trigger) Sample.anyTurns.InTurn
        (Triggers.idle Sample.canon .free) w ∧
      Sample.raised w 1 = some (.journal ("conflicting synthetic validation attempt for operation sha256:" ++
        Sample.canon.hex Sample.plan.operationId))) ∧
    (∃ w, Reaches (serve (store Sample.canon (planRef true Sample.plan)) Service.trigger) Sample.anyTurns.InTurn
        (Triggers.idle Sample.canon .free) w ∧
      Sample.raised w 1 = some (.journal "malformed or unverifiable synthetic validation authorization")) ∧
    (∃ w, Reaches (serve (store Sample.canon (planRef true Sample.plan)) Service.trigger) Sample.anyTurns.InTurn
        (Triggers.idle Sample.canon .free) w ∧ Sample.raised w 0 = some .validation) := by
  have hreach : ∀ {run : Option (Triggers Sample.canon Ref)} {turns : List (Turn _ (store Sample.canon (planRef true Sample.plan)))}
      {i : Nat} {e : Exc}, run = follow Service.trigger Sample.anyTurns.check turns (Triggers.idle Sample.canon .free) →
      (run.bind fun w => Sample.raised w i) = some e →
      ∃ w, Reaches (serve (store Sample.canon (planRef true Sample.plan)) Service.trigger) Sample.anyTurns.InTurn
        (Triggers.idle Sample.canon .free) w ∧ Sample.raised w i = some e := by
    rintro run turns i e rfl he
    obtain ⟨w, hw, hraised⟩ := Option.bind_eq_some_iff.mp he
    exact ⟨w, (follow_reaches hw).mono fun _ _ hm => Regime.inTurn_of_check hm, hraised⟩
  have hmixed : (Sample.mixed.bind fun w => Sample.raised w 1) =
      some (.journal ("conflicting synthetic validation attempt for operation sha256:" ++
        Sample.canon.hex Sample.plan.operationId)) := by decide +kernel
  have htorn : (Sample.torn.bind fun w => Sample.raised w 1) =
      some (.journal "malformed or unverifiable synthetic validation authorization") := by decide +kernel
  have hmisread : (Sample.misread.bind fun w => Sample.raised w 0) = some .validation := by decide +kernel
  exact ⟨hreach rfl hmixed, hreach rfl htorn, hreach rfl hmisread⟩

theorem Provider.faultless {R : Remote D τ} (p : Provider R) (s : Store C τ) (q : Port C) : Faultless s q (p.answer s q) := by
  cases q with
  | link k r =>
    by_cases hi : s.index k (Rec.operationId r) = none
    · exact .inl (if_pos hi)
    · exact .inr (if_neg hi)
  | makeClaim operationId =>
    by_cases hm : operationId ∈ s.claims
    · exact .inr (if_pos hm)
    · exact .inl (if_neg hm)
  | put | load | loadClaim | installClaim => rfl
  | readRef | createRef => trivial

set_option maxRecDepth 8000 in
theorem uncertainty_never_breaks_cut :
    ∃ (w : Triggers Sample.canon Ref) (o : Outcome Sample.canon) (files : Files (Content Sample.canon)) (s : Store Sample.canon Ref),
      w.state.index .outcome Sample.plan.operationId = none ∧
      (Service.trigger (.plan Sample.plan)).play (Sample.oracle true) w.config.files w.state = ⟨.ok o, files, s⟩ ∧
        o.outcome.success = true := by
  have hcut : (Sample.cut.map fun w => decide (w.state.remote = .present ∧ (∀ u ∈ w.config.threads, u.live = false) ∧
      w.state.index .outcome Sample.plan.operationId = none)) = some true := by decide +kernel
  obtain ⟨w, hw, hstate⟩ := Option.map_eq_some_iff.mp hcut
  obtain ⟨hpresent, hover, hnone⟩ := of_decide_eq_true hstate
  have hreach := (follow_reaches hw).mono fun _ _ hm => Regime.inTurn_of_check hm
  obtain ⟨o, files, s, hplay, _, hsuccess⟩ :=
    ((uncertainty_never_breaks hreach).2 hover (.plan Sample.plan) (Sample.oracle true) rfl).2 hpresent fun s q => by
      refine ⟨Provider.faultless _ s q, ?_⟩
      cases q with
      | readRef repositoryDigest ref =>
        intro hp
        refine ⟨Sample.observation.syntheticCommit, Sample.observation.syntheticTree, ?_⟩
        change Sample.plan.refState (if s.remote = .present then _ else _) = _
        rw [if_pos hp]
        rfl
      | _ => trivial
  exact ⟨w, o, files, s, hnone, hplay, hsuccess⟩

end AvoCorrelate.SyntheticValidation
