import AvoCorrelate.RollbackAuthority.Recording
/-!
# Calling again after a crash

A call of `prepare` that ends well makes its records durable one after the other. One
that is made again after a crash finds some of them, takes their time for its own and
writes the rest as the first call would have: it returns the same records.
-/
open AvoLib

namespace AvoCorrelate.RollbackAuthority

open Graduation (MainBound)
open MainRollback (Preparation)

variable {D : Type} [DecidableEq D] {E E' : Surroundings D} {files files' g : Disc D} {v v' : Leases D} {α β : Type} {n : Nat}
  {C : Canon D} {A : Controller D} {x : Arguments D} {R : Result D}

/-! ## A call from its lease on -/

variable {d : Derived D} {operationId : D} {l : Lease D} {t : Instant} {w w' : Leases D × Nat}

/-- The result of a call with this lease and this time, which then reads `held`. -/
def Derived.result (C : Canon D) (d : Derived D) (nonce : String) (operationId : D) (l : Lease D) (t : Instant) (held : Lease D) :
    Result D :=
  let a := d.authorization C operationId l t
  let i := d.intent C operationId l t a
  ⟨operationId, held, d.composition, a, i, d.attempt C operationId nonce, d.preparation C operationId l t a i⟩

/-- Such a result, with records that pass their validators. -/
structure Built (C : Canon D) (x : Arguments D) (v : Leases D) (d : Derived D) (operationId : D) (l : Lease D) (t : Instant)
    (held : Lease D) (R : Result D) : Prop where
  result : R = d.result C x.attemptNonce operationId l t held
  authorization : (d.authorization C operationId l t).Valid
  intent : (d.intent C operationId l t (d.authorization C operationId l t)).Valid C
  attempt : (d.attempt C operationId x.attemptNonce).Valid C
  preparation : PreparationValid C (d.preparation C operationId l t (d.authorization C operationId l t)
    (d.intent C operationId l t (d.authorization C operationId l t)))
  identity : (d.identity C x.attemptNonce).operationId C = operationId
  lease : v.lease operationId = .returned (some held)

variable {r : α} {valid : Prop} {found supplied : Option (Lease D)} {k : Key D} {malformed : String} {held : Lease D}
  {now : Instant}

omit [DecidableEq D] in
theorem does_digestRecord {S : Action (Rec (D := D)) (Port D) → Prop} [Decidable valid] :
    (digestRecord r valid : Code D α).Does S := Prog.Does.require_bind fun _ => trivial

theorem yields_digestRecord {r' : α} [Decidable valid]
    (h : (digestRecord r valid : Code D α).Yields E.oracle Prod.fst files v r') : r' = r ∧ valid := by
  obtain ⟨⟨⟩, hvalid, h⟩ := yields_bind Prog.Does.require h
  exact ⟨Prog.Yields.done_inv h, hvalid.require_inv⟩

theorem gives_digestRecord [Decidable valid] (h : valid) :
    (digestRecord r valid : Code D α).Gives E.oracle Prod.fst files v r :=
  (Prog.Gives.require h).bind Prog.gives_done

theorem yields_lease (h : (Journal.lease operationId).Yields E.oracle Prod.fst files v found) :
    v.lease operationId = .returned found := by
  obtain ⟨w, w', rfl, h⟩ := h
  have h : ((orRaise (w.1.lease operationId) : Code D (Option (Lease D))).play E.oracle files w) = ⟨.ok found, files, w'⟩ := h
  cases hanswer : w.1.lease operationId with
  | raised message => rw [hanswer] at h; cases h
  | returned found' =>
    rw [hanswer] at h
    cases h
    rfl

theorem gives_lease (h : v.lease operationId = .returned found) :
    (Journal.lease operationId).Gives E.oracle Prod.fst files v found := by
  refine Prog.Gives.port (r := .returned found) (fun w hw => ?_) (fun _ => rfl) Prog.gives_done
  subst hw
  exact h

theorem chained_of_recorded {f₁ f₂ f₃ f₄ : Disc D}
    (hintent : Recorded E v files (.intent R.operationId) R.intent (Journal.requireCompositionIntent C) f₁)
    (hauth : Recorded E v f₁ (.authorization R.operationId) R.authorization (Journal.requireIntent C A.journal) f₂)
    (hattempt : Recorded E v f₂ (.attempt R.operationId) R.attempt (Journal.requireAttempt C A.journal) f₃)
    (hpreparation : Recorded E v f₃ (.preparation R.operationId) R.preparation (Journal.requirePreparation C A.journal) f₄) :
    Chained C A E v files R := by
  have h₀ : withRecords files R 0 = files := withRecords_zero
  have h₁ : f₁ = withRecords files R 1 := by
    have hsucc : (withRecords files R 0).put (.intent R.operationId) (.bound R.intent) = withRecords files R 1 :=
      withRecords_succ (k := .intent R.operationId) rfl
    rw [hintent.left, ← hsucc, h₀]
  have h₂ : f₂ = withRecords files R 2 := by
    rw [hauth.left, h₁]
    exact withRecords_succ (k := .authorization R.operationId) rfl
  have h₃ : f₃ = withRecords files R 3 := by
    rw [hattempt.left, h₂]
    exact withRecords_succ (k := .attempt R.operationId) rfl
  have h₄ : f₄ = withRecords files R 4 := by
    rw [hpreparation.left, h₃]
    exact withRecords_succ (k := .preparation R.operationId) rfl
  subst h₁ h₂ h₃ h₄
  refine ⟨fun k hk => ?_⟩
  cases k with
  | intent operationId => cases hk; exact h₀.symm ▸ hintent
  | authorization operationId => cases hk; exact hauth
  | attempt operationId => cases hk; exact hattempt
  | preparation operationId => cases hk; exact hpreparation

theorem played_recordAll (hw : w.1 = v)
    (h : (recordAll C A x d operationId l t).play E.oracle files w = ⟨.ok R, files', w'⟩) :
    (∃ held, Built C x v d operationId l t held R) ∧ Chained C A E v files R := by
  obtain ⟨a, w, hw, ha, h⟩ := played_bind does_digestRecord hw h
  obtain ⟨rfl, hvalid⟩ := yields_digestRecord ha
  obtain ⟨i, w, hw, hi, h⟩ := played_bind does_digestRecord hw h
  obtain ⟨rfl, hvalid'⟩ := yields_digestRecord hi
  obtain ⟨⟨⟩, f₁, w₁, hintent, h⟩ := Prog.play_bind_inv h
  obtain ⟨hw₁, hintent⟩ := recorded_of_play (k := .intent operationId) (looks_chain (C := C) (J := A.journal) _) hw hintent
  obtain ⟨⟨⟩, f₂, w₂, hauth, h⟩ := Prog.play_bind_inv h
  obtain ⟨hw₂, hauth⟩ := recorded_of_play (k := .authorization operationId) (looks_chain (C := C) (J := A.journal) _) hw₁ hauth
  obtain ⟨⟨⟩, w, hw, hidentity, h⟩ := played_bind Prog.Does.require hw₂ h
  obtain ⟨_, w, hw, ht, h⟩ := played_bind does_digestRecord hw h
  obtain ⟨rfl, hvalid''⟩ := yields_digestRecord ht
  obtain ⟨⟨⟩, f₃, w₃, hattempt, h⟩ := Prog.play_bind_inv h
  obtain ⟨hw₃, hattempt⟩ := recorded_of_play (k := .attempt operationId) (looks_chain (C := C) (J := A.journal) _) hw hattempt
  obtain ⟨_, w, hw, hp, h⟩ := played_bind does_digestRecord hw₃ h
  obtain ⟨rfl, hvalid'''⟩ := yields_digestRecord hp
  obtain ⟨⟨⟩, f₄, w₄, hpreparation, h⟩ := Prog.play_bind_inv h
  obtain ⟨hw₄, hpreparation⟩ :=
    recorded_of_play (k := .preparation operationId) (looks_chain (C := C) (J := A.journal) _) hw hpreparation
  obtain ⟨found, w, hw, hlease, h⟩ := played_bind (watches_looking (n := 0) (Journal.looks_lease _)) hw₄ h
  obtain ⟨l', w, hw, hfound, h⟩ := played_bind Prog.Does.ofOption hw h
  obtain rfl := hfound.ofOption_inv
  cases h
  refine ⟨⟨l', rfl, hvalid, hvalid', hvalid'', hvalid''', hidentity.require_inv, yields_lease hlease⟩, ?_⟩
  exact chained_of_recorded hintent hauth hattempt hpreparation

theorem Chained.passes (h : Chained C A E v files R) (hk : k.operationId = R.operationId) {kind : String}
    {f : Unit → Code D β} (hw : w.1 = v)
    (hp : (recordOrAdopt kind k (R.record k) (Journal.readFile k malformed (chain C A.journal k)) (chain C A.journal k) >>= f).Passes
      E.oracle Prod.fst (withRecords files R k.place) w g v') : (v' = v ∧ g = withRecords files R k.place) ∨
      ∃ w₁, w₁.1 = v ∧ (f ()).Passes E.oracle Prod.fst (withRecords files R (k.place + 1)) w₁ g v' := by
  have hgoes : (recordOrAdopt kind k (R.record k) (Journal.readFile k malformed (chain C A.journal k)) (chain C A.journal k)).Goes
      E.oracle Prod.fst _ v () _ v := h.goes rfl (m := 0) hk
  rw [withRecords_zero] at hgoes
  obtain hp | hp := hgoes.passes hw hp
  · obtain ⟨hg, hv⟩ := passes_recordOrAdopt (looks_chain k) hw hp
    exact .inl ⟨hv, hg⟩
  · exact .inr hp

theorem passes_recordAll (hw : w.1 = v) (hbuilt : Built C x v d operationId l t held R)
    (hchained : Chained C A E v files R) (h : (recordAll C A x d operationId l t).Passes E.oracle Prod.fst files w g v') :
    v' = v ∧ ∃ n, g = withRecords files R n := by
  have hresult := hbuilt.result
  have h₀ : files = withRecords files R 0 := withRecords_zero.symm
  have hdone : ∀ {n f v'}, f = withRecords files R n ∧ v' = v → v' = v ∧ ∃ n, f = withRecords files R n :=
    fun h => ⟨h.2, _, h.1⟩
  obtain hsame | ⟨_, w, hw, hy, h⟩ := does_digestRecord.passes_bind idle_watching hw h
  · exact hdone (h₀ ▸ hsame)
  obtain ⟨rfl, -⟩ := yields_digestRecord hy
  obtain hsame | ⟨_, w, hw, hy, h⟩ := does_digestRecord.passes_bind idle_watching hw h
  · exact hdone (h₀ ▸ hsame)
  obtain ⟨rfl, -⟩ := yields_digestRecord hy
  subst hresult
  rw [h₀] at h
  obtain ⟨hv, hg⟩ | ⟨w, hw, h⟩ := hchained.passes (k := .intent operationId) rfl hw h
  · exact ⟨hv, _, hg⟩
  obtain ⟨hv, hg⟩ | ⟨w, hw, h⟩ := hchained.passes (k := .authorization operationId) rfl hw h
  · exact ⟨hv, _, hg⟩
  obtain hsame | ⟨_, w, hw, -, h⟩ := Prog.Does.require.passes_bind idle_watching hw h
  · exact hdone hsame
  obtain hsame | ⟨_, w, hw, hy, h⟩ := does_digestRecord.passes_bind idle_watching hw h
  · exact hdone hsame
  obtain ⟨rfl, -⟩ := yields_digestRecord hy
  obtain ⟨hv, hg⟩ | ⟨w, hw, h⟩ := hchained.passes (k := .attempt operationId) rfl hw h
  · exact ⟨hv, _, hg⟩
  obtain hsame | ⟨_, w, hw, hy, h⟩ := does_digestRecord.passes_bind idle_watching hw h
  · exact hdone hsame
  obtain ⟨rfl, -⟩ := yields_digestRecord hy
  obtain ⟨hv, hg⟩ | ⟨w, hw, h⟩ := hchained.passes (k := .preparation operationId) rfl hw h
  · exact ⟨hv, _, hg⟩
  obtain hsame | ⟨_, w, hw, -, h⟩ := (watches_looking (n := 0) (Journal.looks_lease _)).passes_bind idle_watching hw h
  · exact hdone hsame
  obtain hsame | ⟨_, w, hw, -, h⟩ := Prog.Does.ofOption.passes_bind idle_watching hw h
  · exact hdone hsame
  exact h.elim

theorem Chained.goes_intent (h : Chained C A E v files R) (hports : E'.ports = E.ports) (m : Nat) (kind malformed : String) :
    (recordOrAdopt kind (.intent R.operationId) R.intent (Journal.readFile (.intent R.operationId) malformed
      (Journal.requireCompositionIntent C)) (Journal.requireCompositionIntent C)).Goes E'.oracle Prod.fst (withRecords files R m) v ()
      (withRecords (withRecords files R m) R 1) v := by
  have hgoes : (recordOrAdopt kind (.intent R.operationId) R.intent (Journal.readFile (.intent R.operationId) malformed
      (Journal.requireCompositionIntent C)) (Journal.requireCompositionIntent C)).Goes E'.oracle Prod.fst
      (withRecords (withRecords files R m) R 0) v () (withRecords (withRecords files R m) R 1) v :=
    h.goes (k := .intent R.operationId) hports rfl
  rwa [withRecords_zero] at hgoes

theorem goes_recordAll (hports : E'.ports = E.ports) (hbuilt : Built C x v d operationId l t held R)
    (hchained : Chained C A E v files R) (m : Nat) :
    (recordAll C A x d operationId l t).Goes E'.oracle Prod.fst (withRecords files R m) v R
      (withRecords (withRecords files R m) R 4) v := by
  obtain ⟨rfl, hvalid, hvalid', hvalid'', hvalid''', hidentity, hlease⟩ := hbuilt
  refine (gives_digestRecord hvalid).goes.bind ((gives_digestRecord hvalid').goes.bind ?_)
  refine (hchained.goes_intent hports m _ _).bind ((hchained.goes (k := .authorization operationId) hports rfl).bind ?_)
  refine (Prog.Gives.require hidentity).goes.bind ((gives_digestRecord hvalid'').goes.bind ?_)
  refine (hchained.goes (k := .attempt operationId) hports rfl).bind ((gives_digestRecord hvalid''').goes.bind ?_)
  refine (hchained.goes (k := .preparation operationId) hports rfl).bind ?_
  refine (gives_lease hlease).goes.bind ?_
  exact Prog.gives_done.goes

/-! ## The lease of a call -/

/-- The durable lease that a call goes by. -/
structure Leased (v : Leases D) (x : Arguments D) (operationId : D) (l : Lease D) : Prop where
  durable : v.lease operationId = .returned (some l)
  own : l.operationId = operationId
  supplied : ∀ l' ∈ x.lease, l' = l

omit [DecidableEq D] in
theorem watches_trustedNow : (trustedNow : Code D Instant).Does Watching := ⟨trivial, does_raising⟩

omit [DecidableEq D] in
theorem watches_asAuthority {message : String} {p : Code D α} (hp : p.Does Watching) : (asAuthority message p).Does Watching := by
  refine hp.attempt.bind fun result => ?_
  cases result with
  | ok r => trivial
  | error e => cases e <;> trivial

theorem watches_assertLeaseEvidence (l : Lease D) (t : Instant) : (assertLeaseEvidence l t).Does Watching := by
  refine (watches_looking (n := 0) (Journal.looks_lease _)).bind fun _ => Prog.Does.ofOption_bind fun _ => ?_
  refine Prog.Does.require_bind fun _ => Prog.Does.bind ⟨trivial, does_raising⟩ fun _ => ?_
  exact Prog.Does.require_bind fun _ => Prog.Does.bind ⟨trivial, does_raising⟩ fun _ => trivial

theorem watches_durableLease (operationId : D) (supplied : Option (Lease D)) (active : Bool) :
    (durableLease operationId supplied active).Does Watching := by
  refine (watches_looking (n := 0) (Journal.looks_lease _)).bind fun _ => Prog.Does.ofOption_bind fun l => ?_
  refine Prog.Does.require_bind fun _ => Prog.Does.require_bind fun _ => watches_trustedNow.bind fun t => ?_
  split
  · exact (watches_asAuthority (watches_assertLeaseEvidence l t)).bind fun _ => Prog.Does.require_bind fun _ => trivial
  · trivial

theorem yields_durableLease {active : Bool}
    (h : (durableLease operationId supplied active).Yields E.oracle Prod.fst files v l) :
    v.lease operationId = .returned (some l) ∧ l.operationId = operationId ∧ ∀ l' ∈ supplied, l' = l := by
  obtain ⟨found, hfound, h⟩ := yields_bind (watches_looking (n := 0) (Journal.looks_lease _)) h
  obtain ⟨durable, hdurable, h⟩ := yields_bind Prog.Does.ofOption h
  obtain rfl := hdurable.ofOption_inv
  obtain ⟨_, hown, h⟩ := yields_bind Prog.Does.require h
  obtain ⟨_, hsupplied, h⟩ := yields_bind Prog.Does.require h
  obtain ⟨t, -, h⟩ := yields_bind watches_trustedNow h
  have hl : l = durable := by
    split at h
    · obtain ⟨_, -, h⟩ := yields_bind (watches_asAuthority (watches_assertLeaseEvidence durable t)) h
      obtain ⟨_, -, h⟩ := yields_bind Prog.Does.require h
      exact Prog.Yields.done_inv h
    · exact Prog.Yields.done_inv h
  subst hl
  exact ⟨yields_lease hfound, hown.require_inv, hsupplied.require_inv⟩

theorem watches_revalidateAfterLease : (revalidateAfterLease A d).Does Watching := by
  refine Prog.Does.require_bind fun _ => Prog.Does.bind ⟨trivial, fun _ => trivial⟩ fun answer => ?_
  cases answer with
  | raised message => trivial
  | returned current =>
    refine Prog.Does.require_bind fun _ => Prog.Does.require_bind fun _ => ?_
    exact Prog.Does.require_bind fun _ => Prog.Does.require

theorem watches_adoptedLease : (adoptedLease x operationId).Does Watching :=
  (watches_durableLease _ _ _).bind fun _ => watches_trustedNow.bind fun _ => trivial

/-- Everything but publishing. -/
def Reading : Action (Rec (D := D)) (Port D) → Prop
  | .publish _ _ => False
  | _ => True

omit [DecidableEq D] in
theorem reading_of_watching {a : Action (Rec (D := D)) (Port D)} (h : Watching a) : Reading a := by
  cases a with
  | publish k r => exact h
  | read k => trivial
  | port q => trivial

theorem reads_firstLease : (firstLease A x d operationId).Does Reading := by
  refine Prog.Does.bind (p := acquireLease A x d operationId) ?_ fun supplied => ?_
  · unfold acquireLease
    split
    · refine ⟨trivial, fun answer => ?_⟩
      cases answer <;> trivial
    · trivial
  · refine Prog.Does.mono ?_ fun _ => reading_of_watching
    refine (watches_durableLease _ _ _).bind fun _ => watches_trustedNow.bind fun _ => Prog.Does.require_bind fun _ => ?_
    exact watches_revalidateAfterLease.bind fun _ => trivial

theorem played_acquireLease (h : (acquireLease A x d operationId).play E.oracle files w = ⟨.ok supplied, files', w'⟩) :
    files' = files ∧ ∀ l' ∈ x.lease, supplied = some l' := by
  unfold acquireLease at h
  split at h
  · next hnone =>
    simp only [Prog.play] at h
    split at h
    · cases h
      exact ⟨rfl, fun l' hl' => by rw [hnone.1] at hl'; cases hl'⟩
    · cases h
  · cases h
    exact ⟨rfl, fun l' hl' => hl'⟩

theorem played_firstLease (h : (firstLease A x d operationId).play E.oracle files w = ⟨.ok (l, now), files', w'⟩) :
    files' = files ∧ Leased w'.1 x operationId l := by
  obtain ⟨supplied, f, w₁, hacquire, hafter⟩ := Prog.play_bind_inv h
  obtain ⟨rfl, hsupplied⟩ := played_acquireLease hacquire
  obtain ⟨l', w₂, hw₂, hdurable, h⟩ := played_bind (watches_durableLease _ _ _) rfl hafter
  obtain ⟨t, w₃, hw₃, -, h⟩ := played_bind watches_trustedNow hw₂ h
  obtain ⟨_, w₄, hw₄, -, h⟩ := played_bind Prog.Does.require hw₃ h
  obtain ⟨_, w₅, hw₅, -, h⟩ := played_bind watches_revalidateAfterLease hw₄ h
  cases h
  obtain ⟨hlease, hown, hl⟩ := yields_durableLease hdurable
  rw [hw₅]
  exact ⟨rfl, hlease, hown, fun l' hl' => hl l' (hsupplied l' hl')⟩

theorem yields_adoptedLease (h : (adoptedLease x operationId).Yields E.oracle Prod.fst files v (l, now)) :
    Leased v x operationId l := by
  obtain ⟨l', hdurable, h⟩ := yields_bind (watches_durableLease _ _ _) h
  obtain ⟨t, -, h⟩ := yields_bind watches_trustedNow h
  cases Prog.Yields.done_inv h
  obtain ⟨hlease, hown, hl⟩ := yields_durableLease hdurable
  exact ⟨hlease, hown, hl⟩

theorem play_trustedNow (hclock : E.clock w.2 = .returned t) :
    (trustedNow : Code D Instant).play E.oracle files w = ⟨.ok t, files, (w.1, w.2 + 1)⟩ := by
  change ((raising .other (E.clock w.2) : Code D Instant).play E.oracle files (w.1, w.2 + 1)) = _
  rw [hclock]
  rfl

theorem adoptedLease_again (hl : Leased v x operationId l) (hclock : ∀ n, ∃ t, E.clock n = .returned t) (hw : w.1 = v) :
    ∃ t w', w'.1 = v ∧ (adoptedLease x operationId).play E.oracle files w = ⟨.ok (l, t), files, w'⟩ := by
  obtain ⟨w₁, hw₁, h₁⟩ := gives_lease hl.durable w hw
  obtain ⟨t, ht⟩ := hclock w₁.2
  obtain ⟨t', ht'⟩ := hclock (w₁.2 + 1)
  have hdurable : (durableLease operationId x.lease false).play E.oracle files w = ⟨.ok l, files, (w₁.1, w₁.2 + 1)⟩ := by
    rw [durableLease, Prog.play_bind_ok h₁]
    refine (Prog.play_bind_ok (Prog.play_require hl.own)).trans ((Prog.play_bind_ok (Prog.play_require hl.supplied)).trans ?_)
    exact Prog.play_bind_ok (play_trustedNow ht)
  refine ⟨t', (w₁.1, w₁.2 + 2), hw₁, ?_⟩
  exact (Prog.play_bind_ok hdurable).trans (Prog.play_bind_ok (play_trustedNow ht'))

/-! ## The whole call -/

theorem Chained.gives_read (h : Chained C A E v files R) (hports : E'.ports = E.ports)
    (hk : k.operationId = R.operationId) (hfile : g k = .bound (R.record k))
    (hbefore : ∀ k' : Key D, k'.place < k.place → g k' = withRecords files R k.place k') :
    (Journal.readFile k malformed (chain C A.journal k)).Gives E'.oracle Prod.fst g v (some (R.record k)) :=
  gives_readFile_some hfile (gives_again (looks_chain k _) hports hbefore (h.recorded k hk).checked) (h.recorded k hk).own

theorem again_of_intent {m : Nat} (hports : E'.ports = E.ports) (hclock : ∀ n, ∃ t, E'.clock n = .returned t)
    {v₀ : Leases D} (hd : (derive C A x).Yields E.oracle Prod.fst files v₀ d)
    (hl : Leased v x (d.operationId C x.attemptNonce) l)
    (hbuilt : Built C x v d (d.operationId C x.attemptNonce) l t held R) (hchained : Chained C A E v files R)
    (hintent : withRecords files R m (.intent R.operationId) = .bound R.intent) (hw : w.1 = v) :
    ((prepareOpen C A x).play E'.oracle (withRecords files R m) w).outcome = .ok R := by
  have hop : R.operationId = d.operationId C x.attemptNonce := by rw [hbuilt.result]; rfl
  have htime : R.authorization.authorizedAt = t ∧ R.intent.recordedAt = t := by rw [hbuilt.result]; exact ⟨rfl, rfl⟩
  have hderive : (derive C A x).Gives E'.oracle Prod.fst (withRecords files R m) v d := gives_asked (asks_derive A x) hports hd
  have hintents : ∀ k : Key D, k.place < 1 → withRecords files R m k = withRecords files R 1 k := by
    intro k hk
    by_cases hown : k.operationId = R.operationId
    · obtain rfl : k = .intent R.operationId := Key.eq_of hown (Nat.lt_one_iff.mp hk)
      rw [hintent, withRecords_own hown hk]
      rfl
    · simp only [withRecords, hown, false_and, if_false]
  have hread : (Journal.readIntent C R.operationId).Gives E'.oracle Prod.fst (withRecords files R m) v (some R.intent) :=
    hchained.gives_read (k := .intent R.operationId) hports rfl hintent fun k' hk' => absurd hk' (Nat.not_lt_zero _)
  have hprior : ∃ prior, (Journal.readAuthorization C A.journal R.operationId).Gives E'.oracle Prod.fst (withRecords files R m) v
      prior ∧ ∀ t', authorityTime (some R.intent) prior t' = t := by
    have hfile : withRecords files R m (.authorization R.operationId) = .absent ∨
        withRecords files R m (.authorization R.operationId) = .bound R.authorization := by
      by_cases hm : 1 < m
      · exact .inr (withRecords_own (k := .authorization R.operationId) rfl hm)
      · rw [withRecords_later (k := .authorization R.operationId) (Nat.not_lt.mp hm)]
        exact hchained.file (k := .authorization R.operationId) rfl
    obtain hfile | hfile := hfile
    · exact ⟨none, gives_readFile_none hfile, fun _ => htime.2⟩
    · exact ⟨some R.authorization, hchained.gives_read (k := .authorization R.operationId) hports rfl hfile hintents, fun _ => htime.1⟩
  obtain ⟨prior, hprior, hat⟩ := hprior
  rw [hop] at hread hprior
  obtain ⟨w₁, hw₁, h₁⟩ := hderive w hw
  obtain ⟨w₂, hw₂, h₂⟩ := hread w₁ hw₁
  obtain ⟨w₃, hw₃, h₃⟩ := hprior w₂ hw₂
  obtain ⟨t', w₄, hw₄, h₄⟩ := adoptedLease_again hl hclock hw₃
  obtain ⟨w₅, -, h₅⟩ := goes_recordAll hports hbuilt hchained m w₄ hw₄
  have hcall : (prepareOpen C A x).play E'.oracle (withRecords files R m) w =
      (recordAll C A x d (d.operationId C x.attemptNonce) l (authorityTime (some R.intent) prior t')).play E'.oracle
        (withRecords files R m) w₄ :=
    (Prog.play_bind_ok h₁).trans ((Prog.play_bind_ok h₂).trans ((Prog.play_bind_ok h₃).trans (Prog.play_bind_ok h₄)))
  rw [hcall, hat, h₅]

omit [DecidableEq D] in
theorem asAuthority_raises (message : String) (e : Exc) : ∃ e', (match (.error e : Except Exc α) with
    | .ok r => return r
    | .error (.journal _) => .raise (.authority message)
    | .error (.conflict _) => .raise (.authority message)
    | .error (.value _) => .raise (.authority message)
    | .error e => .raise e : Code D α) = .raise e' := by
  cases e with
  | conflict m => exact ⟨_, rfl⟩
  | journal m => exact ⟨_, rfl⟩
  | authority m => exact ⟨_, rfl⟩
  | value m => exact ⟨_, rfl⟩
  | other m => exact ⟨_, rfl⟩

theorem played_prepare (h : (prepare C A x).play E.oracle files w = ⟨.ok R, files', w'⟩) :
    (prepareOpen C A x).play E.oracle files w = ⟨.ok R, files', w'⟩ := by
  obtain ⟨R', f, w₁, hplay, h⟩ := Prog.play_caught (asAuthority_raises _) h
  cases h
  exact hplay

theorem prepare_ok (h : ((prepareOpen C A x).play E.oracle files w).outcome = .ok R) :
    ((prepare C A x).play E.oracle files w).outcome = .ok R := by
  cases hplay : (prepareOpen C A x).play E.oracle files w with
  | mk outcome f w₁ =>
    rw [hplay] at h
    cases h
    rw [prepare, asAuthority, Prog.play_bind_ok (Prog.play_attempt hplay)]
    rfl

theorem passes_prepare (h : (prepare C A x).Passes E.oracle Prod.fst files w g v') :
    (prepareOpen C A x).Passes E.oracle Prod.fst files w g v' := by
  obtain h | ⟨result, f, w₁, -, h⟩ := Prog.meets_bind.mp h
  · exact Prog.meets_attempt.mp h
  · cases result with
    | ok R => exact h.elim
    | error e => cases e <;> exact h.elim

/-- A call of `prepare` that would return its records, interrupted anywhere and made
again at any other times, with the leases as they were: nothing was durable yet, or it
returns the same records. -/
theorem prepare_crash_idempotent {leases : Leases D} {clock : Nat → Graduation.Answer Instant}
    (hrun : (prepare C A x).play E.oracle files w = ⟨.ok R, files', w'⟩)
    (hcrash : (prepare C A x).Passes E.oracle Prod.fst files w g leases) (hclock : ∀ n, ∃ t, clock n = .returned t) :
    (g = files ∧ g (.intent R.operationId) = .absent) ∨
      ∀ n, ((prepare C A x).play (E.withClock clock).oracle g (leases, n)).outcome = .ok R := by
  have hports : (E.withClock clock).ports = E.ports := rfl
  have hrun := played_prepare hrun
  obtain ⟨d, w₁, hw₁, hd, hrun, hcrash⟩ := Prog.Does.interrupted
    (watches_looking ((asks_derive A x).mono fun _ => looking_of_asking (n := 0))) idle_watching rfl hrun (.inr (passes_prepare hcrash))
  obtain ⟨priorIntent, w₂, hw₂, hprior, hrun, hcrash⟩ := Prog.Does.interrupted
    (watches_looking (Journal.looks_readIntent Nat.one_pos _)) idle_watching hw₁ hrun hcrash
  obtain ⟨priorAuth, w₃, hw₃, -, hrun, hcrash⟩ := Prog.Does.interrupted
    (watches_looking (Journal.looks_readAuthorization Nat.one_lt_two _)) idle_watching hw₂ hrun hcrash
  unfold takeLease at hrun hcrash
  split at hrun
  · -- a first run: nothing is durable before its records
    next hnone =>
    rw [if_pos hnone] at hcrash
    obtain ⟨⟨l, now⟩, f, w₄, hlease, hrest⟩ := Prog.play_bind_inv hrun
    obtain ⟨hf, hleased⟩ := played_firstLease hlease
    subst hf
    obtain ⟨⟨held, hbuilt⟩, hchained⟩ := played_recordAll rfl hrest
    have hop : R.operationId = d.operationId C x.attemptNonce := congrArg Result.operationId hbuilt.result
    have hnothing : f (.intent R.operationId) = .absent := by
      rw [hop]
      obtain ⟨-, hfile⟩ | ⟨i, hfound, -⟩ := yields_readFile Journal.looks_requireCompositionIntent hprior
      · exact hfile
      · cases hnone.symm.trans hfound
    have hfirst {h : Disc D} (hsame : h = f) : h = f ∧ h (.intent R.operationId) = .absent := ⟨hsame, hsame.symm ▸ hnothing⟩
    obtain ⟨hsame, -⟩ | hcrash := hcrash
    · exact .inl (hfirst hsame)
    obtain hcrash | ⟨⟨l', now'⟩, f', w₅, hlease', hcrash⟩ := Prog.meets_bind.mp hcrash
    · exact .inl (hfirst (reads_firstLease.passes_files (fun _ _ => id) hcrash))
    cases hlease.symm.trans hlease'
    obtain ⟨hv, n, rfl⟩ := passes_recordAll rfl hbuilt hchained hcrash
    subst hv
    cases n with
    | zero => exact .inl (hfirst withRecords_zero)
    | succ n =>
      refine .inr fun m => prepare_ok (again_of_intent hports hclock hd hleased hbuilt hchained ?_ rfl)
      exact withRecords_own (k := .intent R.operationId) rfl (Nat.succ_pos n)
  · -- a run that found an intent
    next hsome =>
    rw [if_neg hsome] at hcrash
    obtain ⟨⟨l, now⟩, w₄, hw₄, hlease, hrest, hcrash⟩ :=
      Prog.Does.interrupted watches_adoptedLease idle_watching hw₃ hrun hcrash
    obtain ⟨⟨held, hbuilt⟩, hchained⟩ := played_recordAll hw₄ hrest
    have hop : R.operationId = d.operationId C x.attemptNonce := congrArg Result.operationId hbuilt.result
    have hfound : files (.intent R.operationId) = .bound R.intent := by
      obtain hfile | hfile := hchained.file (k := .intent R.operationId) rfl
      · rw [hop] at hfile
        obtain ⟨hnone, -⟩ | ⟨i, -, hfile', -⟩ := yields_readFile Journal.looks_requireCompositionIntent hprior
        · exact absurd hnone hsome
        · cases hfile.symm.trans hfile'
      · exact hfile
    obtain ⟨hv, n, rfl⟩ : leases = w.1 ∧ ∃ n, g = withRecords files R n := by
      obtain ⟨hsame, hv⟩ | hcrash := hcrash
      · exact ⟨hv, 0, hsame.trans withRecords_zero.symm⟩
      · exact passes_recordAll hw₄ hbuilt hchained hcrash
    subst hv
    have hleased : Leased w.1 x (d.operationId C x.attemptNonce) l := yields_adoptedLease hlease
    refine .inr fun m => prepare_ok (again_of_intent hports hclock hd hleased hbuilt hchained ?_ rfl)
    by_cases hn : 0 < n
    · exact withRecords_own (k := .intent R.operationId) rfl hn
    · rw [withRecords_later (k := .intent R.operationId) (Nat.not_lt.mp hn)]
      exact hfound

namespace Sample

/-- Digests are numbers here, of 64 digits as texts. -/
def canon : Canon Nat where
  hash
    | .composition _ => 10
    | .attempt _ => 20
    | .authorization a => 100 + a.authorizedAt.toNat
    | .intent i => 200 + i.recordedAt.toNat
  hex n :=
    let digits := Nat.toDigits 16 n
    String.ofList (List.replicate (64 - digits.length) '0' ++ digits)

def target : MainBound Nat := ⟨1, ⟨"refs/heads/main", rfl⟩⟩

def binding : IssuerBinding Nat where
  toMainBound := target
  operationId := 5
  controllerConfigDigest := 6
  issuer := ⟨"controller", 99, 7⟩
  trustedSourceIssuer := "source"

/-- Main is at "m", on "b"; the rollback "c" takes it back to the tree of "b". -/
def source : Source Nat where
  toMainBound := target
  operationId := 5
  digest := 8
  state := .completed
  mainCommit := "m"
  mainTree := "tm"
  mainParents := ["b"]
  baseCommit := "b"
  baseTree := "tb"
  deltaDigest := 9
  changedPaths := ["a.py"]
  policyEpoch := 2
  binding := binding
  releaseIssuer := binding.issuer

def composition : Composition Nat where
  toMainBound := target
  compositionId := 11
  sourceOperationId := 5
  completionPackageDigest := 8
  originalDeltaDigest := 9
  currentMainCommit := "m"
  currentMainTree := "tm"
  currentMainParentCommit := "b"
  inverseChangedPaths := ["a.py"]
  inverseTree := "tb"
  inverseDeltaDigest := 12
  policyEpoch := 2
  candidateCommit := "c"
  candidateTree := "tb"
  candidateParentCommit := "m"
  retentionRef := "refs/heads/retained"

def lease : Lease Nat where
  toMainBound := target
  operationId := 20
  owner := "owner"
  policyEpoch := 2
  leaseEpochDigest := 13
  acquiredAt := 0
  expiresAt := 50
  leaseDigest := 14

def controller : Controller Nat where
  journal := ⟨none, none⟩
  policyEpoch := none
  controllerConfigDigest := none
  releaseIssuerBinding := none
  reads := true
  acquires := true

def arguments : Arguments Nat where
  sourceOperationId := 5
  attemptNonce := "nonce"
  composition := ⟨11, 5, composition, ⟨10, 3⟩⟩
  lease := none
  policyEpoch := none
  controllerConfigDigest := none
  releaseIssuerBinding := none

def ports : (p : Port Nat) → p.Answer
  | .clock => .raised "not asked here"
  | .install => .returned ()
  | .completion operationId => .returned (if operationId = 5 then some (source, 8) else none)
  | .composition compositionId => .returned (if compositionId = 11 then some (composition, ⟨10, 3⟩) else none)
  | .lease _ => .returned none
  | .indexPresent _ _ => false
  | .assertTargetLease _ => .returned ()
  | .verifyLease _ => .returned ()
  | .acquire _ _ => .returned lease
  | .currentAuthority => .returned ⟨"m", "tm", "b", 2, 6, binding⟩

def unleased : Leases Nat := ⟨fun _ => .returned none, fun _ => .returned ()⟩
def leased : Leases Nat := ⟨fun d => .returned (if d = 20 then some lease else none), fun _ => .returned ()⟩

/-- Every reading of the clock is later than the one before, from 10 on. -/
def around : Surroundings Nat := ⟨fun n => .returned (10 + n), ports, fun _ _ _ => leased⟩

/-- The call on an empty disc, and the world after so many of its actions. -/
def run := (prepare canon controller arguments).play around.oracle (fun _ => .absent) (unleased, 0)
def crash (n : Nat) := Prog.walk around.oracle n (fun _ => .absent) (unleased, 0) (prepare canon controller arguments)

end Sample

set_option maxRecDepth 8000 in
/-- A crash after the authorization: at 100 and later, when the lease has expired, the
call returns what it would have returned at 10. -/
theorem prepare_crash_idempotent_of_expired : ∃ R g leases, Sample.run.outcome = .ok R ∧ R.lease.expiresAt = 50 ∧
    g (.authorization 20) = .bound R.authorization ∧ g (.attempt 20) = .absent ∧
    ∀ n, ((prepare Sample.canon Sample.controller Sample.arguments).play (Sample.around.withClock fun n => .returned (100 + n)).oracle g
      (leases, n)).outcome = .ok R := by
  have hok : Sample.run.outcome.toOption.isSome = true := by decide
  have hcrash : (Sample.crash 30).isSome = true := by decide
  have hleft : ∀ R ∈ Sample.run.outcome.toOption, ∀ q ∈ Sample.crash 30, R.operationId = 20 ∧ R.lease.expiresAt = 50 ∧
      q.1 (.intent 20) ≠ .absent ∧ q.1 (.authorization 20) = .bound R.authorization ∧ q.1 (.attempt 20) = .absent := by
    decide
  obtain ⟨⟨g, w, a⟩, hcrash⟩ := Option.isSome_iff_exists.mp hcrash
  cases hrun : Sample.run with
  | mk outcome files' w' =>
    rw [hrun] at hok hleft
    cases outcome with
    | error e => cases hok
    | ok R =>
      obtain ⟨hop, hexpires, hintent, hauth, hattempt⟩ := hleft R rfl _ hcrash
      refine ⟨R, g, w.1, rfl, hexpires, hauth, hattempt, ?_⟩
      refine (prepare_crash_idempotent hrun (Prog.meets_walk hcrash ⟨rfl, rfl⟩) fun n => ⟨100 + n, rfl⟩).resolve_left ?_
      rw [hop]
      exact fun h => hintent h.2

end AvoCorrelate.RollbackAuthority
