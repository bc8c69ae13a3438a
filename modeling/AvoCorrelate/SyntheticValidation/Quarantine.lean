import AvoCorrelate.SyntheticValidation.Creation
/-!
# Whether a ref of one's own is quarantined

A trigger reads the authorization and then the ref. Between the two, another trigger can
claim the authorization and create the ref: then the first one takes the ref for one that
nobody authorized.
-/
open AvoLib

namespace AvoCorrelate.SyntheticValidation

variable {D : Type} [DecidableEq D] {C : Canon D}

/-- The call has just found no authorization record for the plan, claimed nothing, and
has not read the ref since. -/
def Undecided (plan : Plan C) (u : TriggerThread C) : Prop :=
  u.live = true ∧ (∀ e ∈ u.log, claims e = false) ∧
    u.log.head? = some (.port (.loadClaim plan.operationId) .missing)

instance {plan : Plan C} {u : TriggerThread C} : Decidable (Undecided plan u) :=
  decidable_of_iff (u.live = true ∧ (∀ e ∈ u.log, claims e = false) ∧
      (match u.log.head? with
      | some (.port (.loadClaim operationId) .missing) => decide (operationId = plan.operationId)
      | _ => false) = true) <| by
    refine and_congr_right fun _ => and_congr_right fun _ => ?_
    constructor
    · intro h
      split at h
      · next operationId he =>
        rw [he, of_decide_eq_true h]
      · cases h
    · intro h
      rw [h]
      exact decide_eq_true rfl

/-- The move is a call of the provider that creates the ref, now or later. -/
def Creates (plan : Plan C) (w : Triggers C Ref) (m : Move (Service.Asked C) (Port.Answer (C := C))) : Prop :=
  ∃ commit r, r.effect ≠ .never ∧ w.Asks m (.createRef plan.request.targetRepositoryDigest plan.validationRef commit) r

/-- Triggers for one plan, none of which is undecided when the ref is created. -/
def Undisturbed (plan : Plan C) (w : Triggers C Ref) (m : Move (Service.Asked C) (Port.Answer (C := C))) : Prop :=
  (∀ asked, m = .start asked → asked.meant = plan) ∧
    (Creates plan w m → ∀ (i : Nat) (u : TriggerThread C), w.config.threads[i]? = some u → ¬ Undecided plan u)

/-- In a ref that only the plan's create changes: nothing is created before an
authorization; the undecided see nothing; no read is wrong. -/
structure Calm (plan : Plan C) (w : Triggers C Ref) : Prop where
  asked : ∀ {i : Nat} {u : TriggerThread C}, w.config.threads[i]? = some u → u.call.meant = plan
  unclaimed : w.state.claimed plan.operationId = none → w.state.remote = .free
  undecided : ∀ {i : Nat} {u : TriggerThread C}, w.config.threads[i]? = some u → Undecided plan u → w.state.remote = .free
  unauthorized : ∀ {i : Nat} {u : TriggerThread C} {r : RefAnswer} {commit tree : String}, w.config.threads[i]? = some u →
    Unauthorized plan r u.log → plan.refState r ≠ .exact commit tree
  right : ∀ {i : Nat} {u : TriggerThread C} {r : RefAnswer} {commit tree : String}, w.config.threads[i]? = some u →
    .port (.readRef plan.request.targetRepositoryDigest plan.validationRef) r ∈ u.log → plan.refState r ≠ .wrong commit tree

theorem Ref.seen_false {ref ref' : Ref} {state : RefState} (h : ref.seen false state = some ref') :
    (∀ commit tree, state ≠ .wrong commit tree) ∧ (ref = .free → ref' = .free ∧ ∀ commit tree, state ≠ .exact commit tree) := by
  cases ref <;> cases state <;> simp [Ref.seen] at h ⊢ <;> exact h.symm

section Answers
variable {τ : Type} {R : Remote D τ} {s s' : Store C τ}

theorem store_readRef {repositoryDigest : D} {ref : String} {r : RefAnswer} :
    store C R (.readRef repositoryDigest ref) r s = some s' ↔
      ∃ t, R.read repositoryDigest ref r s.remote = some t ∧ { s with remote := t } = s' :=
  Option.map_eq_some_iff

theorem store_createRef {repositoryDigest : D} {ref commit : String} {r : Created} :
    store C R (.createRef repositoryDigest ref commit) r s = some s' ↔
      ∃ t, R.create repositoryDigest ref commit r s.remote = some t ∧ { s with remote := t } = s' :=
  Option.map_eq_some_iff

theorem store_remote {q : Port C} {r : q.Answer} (h : store C R q r s = some s')
    (hread : ∀ repositoryDigest ref, q ≠ .readRef repositoryDigest ref)
    (hcreate : ∀ repositoryDigest ref commit, q ≠ .createRef repositoryDigest ref commit) : s'.remote = s.remote := by
  cases q with
  | readRef repositoryDigest ref => exact absurd rfl (hread _ _)
  | createRef repositoryDigest ref commit => exact absurd rfl (hcreate _ _ _)
  | put => cases h; rfl
  | load k operationId =>
    simp only [store] at h
    split at h <;> cases h
    rfl
  | loadClaim operationId =>
    simp only [store] at h
    split at h <;> cases h
    rfl
  | link k record =>
    simp only [store] at h
    split at h <;> cases h <;> rfl
  | makeClaim operationId =>
    simp only [store] at h
    split at h
    · split at h <;> cases h
      rfl
    · split at h <;> cases h
      rfl
    · cases h; rfl
  | installClaim a =>
    simp only [store] at h
    split at h <;> cases h <;> rfl

end Answers

section Steps
variable {plan : Plan C} {w w' : Triggers C Ref} {m : Move (Service.Asked C) (Port.Answer (C := C))}

theorem free_of_serve (hw : Stands (planRef false plan) w) (hc : Calm plan w)
    (h : serve (store C (planRef false plan)) Service.trigger w m = .ok w') (hfree : w.state.remote = .free) :
    w'.state.remote = .free ∨ (Creates plan w m ∧ w.state.claimed plan.operationId ≠ none) := by
  rcases serve_cases h with ⟨call, _, rfl⟩ | ⟨i, t, _, ht, rfl⟩ | ⟨i, n, t, files', t', s', hm, ht, hst, ha, rfl⟩
  · exact .inl hfree
  · exact .inl hfree
  · cases ha with
    | other => exact .inl hfree
    | @port q r next _ hs hstatus hlog hserved =>
      have hsafe := (hw.obeys ht).2
      rw [hs] at hsafe
      have hrule := hsafe.1
      rw [hc.asked ht] at hrule
      cases q with
      | readRef repositoryDigest ref =>
        obtain ⟨x, hx, rfl⟩ := store_readRef.mp hserved
        exact .inl ((Ref.seen_false hx).2 hfree).1
      | createRef repositoryDigest ref commit =>
        obtain ⟨⟨rfl, rfl, rfl⟩, hk, hauth, hnone⟩ := hrule
        obtain ⟨x, hx, rfl⟩ := store_createRef.mp hserved
        by_cases he : r.effect = .never
        · left
          have hx' : Ref.created w.state.remote r.effect = x := Option.some.inj hx
          rw [hfree, he] at hx'
          exact hx'.symm
        · right
          refine ⟨⟨plan.expectedCommit, r, he, ?_⟩, ?_⟩
          · have hset : (w.config.threads.set i t')[i]? = some t' := List.getElem?_set_self (List.getElem?_eq_some_iff.mp ht).1
            rcases serve_asks h hset (by rw [hlog]; exact List.mem_cons_self) with ⟨u, hu, hmem⟩ | hasks
            · rw [ht] at hu
              cases hu
              have hfalse := hnone _ hmem
              cases hfalse
            · exact hasks
          · have hinstalled : w.state.claimed plan.binding.operationId = some plan.binding := hw.told ht _ _ hauth.2.1
            exact fun hn => by rw [show plan.operationId = plan.binding.operationId from rfl, hinstalled] at hn; cases hn
      | _ => exact .inl ((store_remote hserved (fun _ _ he => nomatch he) fun _ _ _ he => nomatch he).trans hfree)

omit [DecidableEq D] in
theorem unauthorized_of_cons {e : Event (Content C) (Port.Answer (C := C))} {r : RefAnswer} {h : Log C}
    (hu : Unauthorized plan r (e :: h)) :
    Unauthorized plan r h ∨ (e = .port (.readRef plan.request.targetRepositoryDigest plan.validationRef) r ∧
      h.head? = some (.port (.loadClaim plan.operationId) .missing) ∧ ∀ e ∈ h, claims e = false) := by
  obtain ⟨h₀, hs, hn⟩ := hu
  rcases List.suffix_cons_iff.mp hs with he | hs
  · obtain ⟨rfl, rfl⟩ := List.cons.inj he
    exact .inr ⟨rfl, rfl, List.forall_mem_cons.mpr ⟨rfl, hn⟩⟩
  · exact .inl ⟨h₀, hs, hn⟩

theorem Calm.serve (hw : Stands (planRef false plan) w) (hc : Calm plan w) (hm : Undisturbed plan w m)
    (h : serve (store C (planRef false plan)) Service.trigger w m = .ok w') : Calm plan w' := by
  have hgrows : w'.state.claimed plan.operationId = none → w.state.claimed plan.operationId = none := by
    intro hn
    cases hold : w.state.claimed plan.operationId with
    | none => rfl
    | some a =>
      have hkept := (hw.stays h).2 (.loadClaim plan.operationId) (.found a) hold
      exact absurd (hkept.symm.trans hn) (fun he => nomatch he)
  have hunclaimed : w'.state.claimed plan.operationId = none → w'.state.remote = .free := by
    intro hn
    rcases free_of_serve hw hc h (hc.unclaimed (hgrows hn)) with hfree | ⟨_, hclaimed⟩
    · exact hfree
    · exact absurd (hgrows hn) hclaimed
  have hstill : ∀ {i : Nat} {u : TriggerThread C}, w.config.threads[i]? = some u → Undecided plan u → w'.state.remote = .free := by
    intro i u hu hund
    rcases free_of_serve hw hc h (hc.undecided hu hund) with hfree | ⟨hcreates, _⟩
    · exact hfree
    · exact absurd hund (hm.2 hcreates i u hu)
  rcases serve_cases h with ⟨call, rfl, rfl⟩ | ⟨i, t, rfl, ht, rfl⟩ | ⟨i, n, t, files', t', s', hstep, ht, hst, ha, rfl⟩
  · refine ⟨?_, hunclaimed, ?_, ?_, ?_⟩
    · intro j u hj
      rcases getElem?_snoc_cases hj with hj | ⟨_, rfl⟩
      · exact hc.asked hj
      · exact hm.1 call rfl
    · intro j u hj hund
      rcases getElem?_snoc_cases hj with hj | ⟨_, rfl⟩
      · exact hstill hj hund
      · cases hund.2.2
    · intro j u r commit tree hj hun
      rcases getElem?_snoc_cases hj with hj | ⟨_, rfl⟩
      · exact hc.unauthorized hj hun
      · obtain ⟨h₀, hs, _⟩ := hun
        cases List.suffix_nil.mp hs
    · intro j u r commit tree hj hmem
      rcases getElem?_snoc_cases hj with hj | ⟨_, rfl⟩
      · exact hc.right hj hmem
      · cases hmem
  · refine ⟨?_, hunclaimed, ?_, ?_, ?_⟩
    · intro j u hj
      rcases getElem?_set_cases hj with ⟨rfl, rfl⟩ | ⟨_, hj⟩
      · exact hc.asked (u := t) ht
      · exact hc.asked hj
    · intro j u hj hund
      rcases getElem?_set_cases hj with ⟨rfl, rfl⟩ | ⟨_, hj⟩
      · cases hund.1
      · exact hstill hj hund
    · intro j u r commit tree hj hun
      rcases getElem?_set_cases hj with ⟨rfl, rfl⟩ | ⟨_, hj⟩
      · exact hc.unauthorized ht hun
      · exact hc.unauthorized hj hun
    · intro j u r commit tree hj hmem
      rcases getElem?_set_cases hj with ⟨rfl, rfl⟩ | ⟨_, hj⟩
      · exact hc.right ht hmem
      · exact hc.right hj hmem
  · refine ⟨?_, hunclaimed, ?_, ?_, ?_⟩
    · intro j u hj
      rcases getElem?_set_cases hj with ⟨rfl, rfl⟩ | ⟨_, hj⟩
      · rw [hst.call]
        exact hc.asked ht
      · exact hc.asked hj
    · intro j u hj hund
      rcases getElem?_set_cases hj with ⟨rfl, rfl⟩ | ⟨_, hj⟩
      · cases ha with
        | @port q r next _ hs hstatus hlog hserved =>
          have hhead := hund.2.2
          rw [hlog] at hhead
          cases Option.some.inj hhead
          simp only [store] at hserved
          split at hserved
          · next hcontent =>
            cases hserved
            refine hunclaimed ?_
            rcases hcontent with he | he
            · cases he
            · cases hold : w.state.claimed plan.operationId with
              | none => rfl
              | some a => rw [hold] at he; cases he
          · cases hserved
        | other hs hlog =>
          cases hst with
          | read hst' | refused hst' | wrote hst' | tore hst' => cases hund.2.2
          | port hst' => exact absurd hst' (hs _ _)
          | create hst' =>
            refine hstill ht ⟨?_, hund.2.1, hund.2.2⟩
            unfold Thread.live
            rw [hst']
      · exact hstill hj hund
    · intro j u r commit tree hj hun
      rcases getElem?_set_cases hj with ⟨rfl, rfl⟩ | ⟨_, hj⟩
      · cases ha with
        | @port q r' next _ hs hstatus hlog hserved =>
          rw [hlog] at hun
          rcases unauthorized_of_cons hun with hun | ⟨he, hhead, hn⟩
          · exact hc.unauthorized ht hun
          · have hlive : t.live = true := by
              unfold Thread.live
              rw [hs]
            have hfree := hc.undecided ht ⟨hlive, hn, hhead⟩
            cases he
            obtain ⟨x, hx, rfl⟩ := store_readRef.mp hserved
            exact ((Ref.seen_false hx).2 hfree).2 commit tree
        | other hs hlog =>
          cases hst with
          | port hst' => exact absurd hst' (hs _ _)
          | create hst' => exact hc.unauthorized ht hun
          | read hst' | refused hst' | wrote hst' | tore hst' =>
            rcases unauthorized_of_cons hun with hun | ⟨he, _, _⟩
            · exact hc.unauthorized ht hun
            · cases he
      · exact hc.unauthorized hj hun
    · intro j u r commit tree hj hmem
      rcases getElem?_set_cases hj with ⟨rfl, rfl⟩ | ⟨_, hj⟩
      · cases ha with
        | @port q r' next _ hs hstatus hlog hserved =>
          rw [hlog] at hmem
          rcases List.mem_cons.mp hmem with he | hmem
          · cases he
            obtain ⟨x, hx, rfl⟩ := store_readRef.mp hserved
            exact (Ref.seen_false hx).1 commit tree
          · exact hc.right ht hmem
        | other hs hlog => exact hc.right ht (hlog _ _ hmem)
      · exact hc.right hj hmem

omit [DecidableEq D] in
theorem calm_idle : Calm plan (Triggers.idle C .free) := by
  refine ⟨?_, fun _ => rfl, ?_, ?_, ?_⟩ <;>
  · intro i u
    simp [Triggers.idle, Served.idle, Config.idle]

omit [DecidableEq D] in
theorem Calm.success {i : Nat} {u : TriggerThread C} {o : Outcome C} {h : Log C} (hc : Calm plan w)
    (hu : w.config.threads[i]? = some u) (hs : h <:+ u.log) (hg : Grounded plan o h) : o.outcome.success = true := by
  rcases (hg.suffix hs).2 with ⟨hk, _⟩ | ⟨_, r, commit, tree, hun, hx⟩ | ⟨_, r, commit, tree, hr, hx⟩
  · exact hk
  · exact absurd hx (hc.unauthorized hu hun)
  · exact absurd hx (hc.right hu hr)

theorem index_of_serve {τ : Type} {R : Remote D τ} {w w' : Triggers C τ} {m : Move (Service.Asked C) (Port.Answer (C := C))}
    (h : serve (store C R) Service.trigger w m = .ok w') {k : Kind} {operationId : D} {v : Rec C k}
    (hv : w'.state.index k operationId = some v) : w.state.index k operationId = some v ∨
      ∃ (i : Nat) (u : TriggerThread C) (next : Published → Code C (Outcome C)),
        w.config.threads[i]? = some u ∧ u.status = .running (.port (.link k v) next) := by
  rcases serve_cases h with ⟨call, _, rfl⟩ | ⟨i, t, _, ht, rfl⟩ | ⟨i, n, t, files', t', s', _, ht, hst, ha, rfl⟩
  · exact .inl hv
  · exact .inl hv
  · cases ha with
    | other => exact .inl hv
    | @port q r next _ hs hstatus hlog hserved =>
      cases q with
      | link k' record =>
        have hlinked : (w.state.setIndex k' record).index k operationId = some v →
            w.state.index k operationId = some v ∨ ∃ (i : Nat) (u : TriggerThread C) (next : Published → Code C (Outcome C)),
              w.config.threads[i]? = some u ∧ u.status = .running (.port (.link k v) next) := by
          intro hset
          rcases Store.index_setIndex.mp hset with ⟨rfl, rfl, rfl⟩ | ⟨_, hold⟩
          · exact .inr ⟨i, t, next, ht, hs⟩
          · exact .inl hold
        simp only [store] at hserved
        split at hserved
        · cases hserved; exact hlinked hv
        · cases hserved; exact hlinked hv
        · cases hserved; exact .inl hv
        · cases hserved; exact .inl hv
        · cases hserved
      | put => cases hserved; exact .inl hv
      | load k' operationId' =>
        simp only [store] at hserved
        split at hserved <;> cases hserved
        exact .inl hv
      | loadClaim operationId' =>
        simp only [store] at hserved
        split at hserved <;> cases hserved
        exact .inl hv
      | makeClaim operationId' =>
        simp only [store] at hserved
        split at hserved
        · split at hserved <;> cases hserved
          exact .inl hv
        · split at hserved <;> cases hserved
          exact .inl hv
        · cases hserved; exact .inl hv
      | installClaim a =>
        simp only [store] at hserved
        split at hserved <;> cases hserved <;> exact .inl hv
      | readRef repositoryDigest ref =>
        obtain ⟨x, _, rfl⟩ := store_readRef.mp hserved
        exact .inl hv
      | createRef repositoryDigest ref commit =>
        obtain ⟨x, _, rfl⟩ := store_createRef.mp hserved
        exact .inl hv

end Steps

/-- Where nobody is undecided when the ref is created, triggers for one plan whose ref only
they create record no outcome but a success. -/
theorem own_ref_never_quarantined {plan : Plan C} {w : Triggers C Ref}
    (hw : Reaches (serve (store C (planRef false plan)) Service.trigger) (Undisturbed plan) (Triggers.idle C .free) w) :
    (∀ (i : Nat) (u : TriggerThread C) (o : Outcome C) (r : Published), w.config.threads[i]? = some u →
      .port (.link .outcome o) r ∈ u.log → o.outcome.success = true) ∧
    ∀ o : Outcome C, w.state.index .outcome plan.operationId = some o → o.outcome.success = true := by
  have hcalm : Calm plan w ∧ ∀ o : Outcome C, w.state.index .outcome plan.operationId = some o → o.outcome.success = true := by
    induction hw with
    | init => exact ⟨calm_idle, fun o ho => nomatch ho⟩
    | step hr hm he ih =>
      have hstands := stands_of_reaches hr
      refine ⟨ih.1.serve hstands hm he, fun o ho => ?_⟩
      rcases index_of_serve he ho with hold | ⟨i, u, next, hu, hst⟩
      · exact ih.2 o hold
      · have hsafe := (hstands.obeys hu).2
        rw [hst, ih.1.asked hu] at hsafe
        exact ih.1.success hu (List.suffix_refl _) hsafe.1.2
  refine ⟨fun i u o r hu hmem => ?_, hcalm.2⟩
  obtain ⟨h, hs, _, hg⟩ := ((stands_of_reaches hw).obeys hu).1.rule hmem
  rw [hcalm.1.asked hu] at hg
  exact hcalm.1.success hu hs hg

/-! ## Overtaken -/

namespace Sample

/-- Only calls for the sample plan start. -/
def ours (_ : Triggers canon Ref) : Move (Service.Asked canon) (Port.Answer (C := canon)) → Bool
  | .start asked => asked.meant = plan
  | _ => true

/-- The first trigger finds no authorization; the second claims it and creates the ref; the
first reads the ref and records what it makes of it. -/
def overtaken : Option (Triggers canon Ref) :=
  follow Service.trigger ours [.start (.plan plan), .steps (oracle false) 0 7, .start (.plan plan), .steps (oracle false) 1 12,
    .steps (oracle false) 0 3] (Triggers.idle canon .free)

theorem ours_iff {w : Triggers canon Ref} {m : Move (Service.Asked canon) (Port.Answer (C := canon))} :
    ours w m = true ↔ ∀ asked, m = .start asked → asked.meant = plan := by
  cases m with
  | start asked =>
    constructor
    · rintro h _ ⟨⟩
      exact of_decide_eq_true h
    · exact fun h => decide_eq_true (h asked rfl)
  | crash i => exact ⟨fun _ _ he => (nomatch he), fun _ => rfl⟩
  | step i n => exact ⟨fun _ _ he => (nomatch he), fun _ => rfl⟩

/-- The next action of the call is to create a ref. -/
def creating (u : TriggerThread canon) : Bool :=
  match u.status with
  | .running (.port (.createRef _ _ _) _) => true
  | _ => false

/-- Nobody is undecided when a call creates. -/
def checks (w : Triggers canon Ref) (m : Move (Service.Asked canon) (Port.Answer (C := canon))) : Bool :=
  ours w m && (match m with
  | .step i _ => !((w.config.threads[i]?).any creating) || w.config.threads.all fun u => !decide (Undecided plan u)
  | _ => true)

theorem undisturbed_of_checks {w : Triggers canon Ref} {m : Move (Service.Asked canon) (Port.Answer (C := canon))}
    (h : checks w m = true) : Undisturbed plan w m := by
  obtain ⟨hours, hcheck⟩ := Bool.and_eq_true_iff.mp h
  refine ⟨ours_iff.mp hours, ?_⟩
  rintro ⟨commit, r, _, i, n, t, next, rfl, ht, hst, _⟩ j u hu
  have hcreating : (w.config.threads[i]?).any creating = true := by
    rw [ht]
    simp only [Option.any_some, creating, hst]
  dsimp only at hcheck
  rw [hcreating] at hcheck
  have hnone : ∀ v ∈ w.config.threads, ¬ Undecided plan v := by simpa using hcheck
  exact hnone u (List.mem_of_getElem? hu)

def alone : Option (Triggers canon Ref) :=
  follow Service.trigger checks [.start (.plan plan), .steps (oracle false) 0 17] (Triggers.idle canon .free)

end Sample

set_option maxRecDepth 8000 in
theorem own_ref_quarantined :
    ¬ ∀ w : Triggers Sample.canon Ref, Reaches (serve (store Sample.canon (planRef false Sample.plan)) Service.trigger)
        (fun _ m => ∀ asked, m = .start asked → asked.meant = Sample.plan) (Triggers.idle Sample.canon .free) w →
      ∀ o : Outcome Sample.canon, w.state.index .outcome Sample.plan.operationId = some o → o.outcome.success = true := by
  intro hall
  have hkind : (Sample.overtaken.bind fun w => (w.state.index .outcome Sample.plan.operationId).map Outcome.outcome) =
      some .quarantined := by decide +kernel
  obtain ⟨w, hw, hout⟩ := Option.bind_eq_some_iff.mp hkind
  obtain ⟨o, ho, hq⟩ := Option.map_eq_some_iff.mp hout
  have hsuccess := hall w ((follow_reaches hw).mono fun _ _ hm => Sample.ours_iff.mp hm) o ho
  rw [hq] at hsuccess
  cases hsuccess

set_option maxRecDepth 8000 in
theorem own_ref_never_quarantined_alone :
    ∃ (w : Triggers Sample.canon Ref) (o : Outcome Sample.canon),
      w.state.index .outcome Sample.plan.operationId = some o ∧ o.outcome.success = true := by
  have hkind : (Sample.alone.bind fun w => (w.state.index .outcome Sample.plan.operationId).map Outcome.outcome) =
      some .created := by decide +kernel
  obtain ⟨w, hw, hout⟩ := Option.bind_eq_some_iff.mp hkind
  obtain ⟨o, ho, _⟩ := Option.map_eq_some_iff.mp hout
  exact ⟨w, o, ho, (own_ref_never_quarantined ((follow_reaches hw).mono fun _ _ hm => Sample.undisturbed_of_checks hm)).2 o ho⟩

end AvoCorrelate.SyntheticValidation
