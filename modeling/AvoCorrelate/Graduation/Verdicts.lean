import AvoCorrelate.Graduation.Dispatching
/-!
# A verdict that nothing was applied

Recovery makes a receipt durable before it asks the provider, so a call of `execute`
that looks for a receipt afterwards finds one. One that looked before and has not yet
called the provider does not look again: recovery that asks in the meantime settles a
mutation that is still to come.
-/
open AvoLib

namespace AvoCorrelate.Graduation

variable {D : Type} [DecidableEq D]

/-- The call found no receipt of the intent, and its mutation call has not returned. -/
structure OnItsWay (C : Canon D) (d : D) (t : ExecutorThread D) : Prop where
  live : t.live = true
  executes : ∃ E i request, t.call = .execute E i request ∧ i.digest C = d
  unreceipted : .read (.receiptIdentity d) .missing ∈ t.log
  waiting : ¬ ∃ request a, .port (.dispatched d request) a ∈ t.log

/-- The provider is asked about an intent only while no call is on its way to it. -/
def ObservesAlone (C : Canon D) (w : Executors D) (m : Move (Call D) (Port.Answer (D := D))) : Prop :=
  ∀ d request a, w.Asks m (.observe d request) a →
    ∀ (i : Nat) (t : ExecutorThread D), w.config.threads[i]? = some t → ¬ OnItsWay C d t

/-- A mutation call for the intent is in progress. -/
structure InProgress (d : D) (t : ExecutorThread D) : Prop where
  live : t.live = true
  begun : ∃ request a, .port (.dispatch d request) a ∈ t.log
  waiting : ¬ ∃ request a, .port (.dispatched d request) a ∈ t.log

/-- There is a receipt of the intent, and nobody is on its way to the provider. -/
structure Settled (C : Canon D) (d : D) (w : Executors D) : Prop where
  receipt : ∃ r, w.config.files (.receiptIdentity d) = .bound r
  nobody : ∀ {i : Nat} {t : ExecutorThread D}, w.config.threads[i]? = some t → ¬ OnItsWay C d t

section Settled
variable {C : Canon D} {init : Disc D} {w w' : Executors D} {m : Move (Call D) (Port.Answer (D := D))} {d : D}

theorem Settled.serve (hs : Settled C d w) (hk : Known C init w) (h : AvoLib.serve disk (program C) w m = .ok w') :
    Settled C d w' := by
  have hm := (serve_ok.mp h).1
  obtain ⟨r, hr⟩ := hs.receipt
  refine ⟨⟨r, hk.sound.perform_grows hm _ r hr⟩, fun {i t'} ht' hway => ?_⟩
  rcases perform_before hm ht' with ⟨call, _, _, rfl⟩ | ht | ⟨t, _, ht, rfl⟩ | ⟨n, t, _, ht, hstep⟩
  · cases hway.unreceipted
  · exact hs.nobody ht hway
  · cases hway.live
  · have hst := Thread.step_cases hstep
    refine hs.nobody ht ⟨hst.live, ?_, hst.missing hr hway.unreceipted, ?_⟩
    · exact hst.call ▸ hway.executes
    · rintro ⟨request, a, he⟩
      exact hway.waiting ⟨request, a, hst.log.mem he⟩

variable {s : Disk D} {t : ExecutorThread D} {request : StageRequest D} {i : Nat} {a : Effect Unit}

theorem Settled.later (hs : Settled C d w) (hw : Runs C init s w) (h : Later C w w') : Settled C d w' := by
  induction h with
  | init => exact hs
  | step hr _ he ih => exact ih.serve (known_of_reaches (hw.trans hr)) he

omit [DecidableEq D] in
theorem onItsWay_of_claimed {F : Disc D} {h : Log D} (hl : t.live = true) (hc : Claimed C t.call F h d request)
    (hs : h <:+ t.log) (hn : ¬ ∃ request a, .port (.dispatched d request) a ∈ t.log) : OnItsWay C d t := by
  obtain ⟨⟨E, i, hcall, hi, _⟩, hnone⟩ := hc
  exact ⟨hl, ⟨E, i, request, hcall, hi.digest⟩, hs.mem hnone, hn⟩

omit [DecidableEq D] in
theorem Settled.idle (hs : Settled C d w) (hk : Known C init w) (ht : w.config.threads[i]? = some t) :
    ¬ InProgress d t := by
  rintro ⟨hl, ⟨request, a, he⟩, hn⟩
  obtain ⟨h, hsuf, hc⟩ := hk.claimed ht he
  exact hs.nobody ht (onItsWay_of_claimed hl hc hsuf hn)

omit [DecidableEq D] in
theorem Settled.silent (hs : Settled C d w) (hk : Known C init w) : ¬ w.Asks m (.dispatch d request) a := by
  rintro ⟨i, n, t, next, _, ht, hst, _⟩
  have hsafe := (hk.obeys ht).2
  rw [hst] at hsafe
  refine hs.nobody ht (onItsWay_of_claimed (by rw [Thread.live, hst]) hsafe.1.1 (List.suffix_refl _) ?_)
  -- its call has not returned, for it has not begun
  rintro ⟨request', a', he⟩
  obtain ⟨h, hsuf, b, hb⟩ := (hk.obeys ht).1.rule he
  cases hsafe.1.2 _ (hsuf.mem hb)

theorem Settled.over (hs : Settled C d w) (hw : Runs C init s w) (h : Later C w w') {t' : ExecutorThread D}
    (ht' : w'.config.threads[i]? = some t') (he : .port (.dispatch d request) a ∈ t'.log) :
    ∃ t, w.config.threads[i]? = some t ∧ .port (.dispatch d request) a ∈ t.log := by
  induction h generalizing t' with
  | init => exact ⟨t', ht', he⟩
  | step hr _ hm ih =>
    rcases serve_asks hm ht' he with ⟨t₁, ht₁, he⟩ | hasks
    · exact ih ht₁ he
    · exact ((hs.later hw hr).silent (known_of_reaches (hw.trans hr)) hasks).elim

end Settled

/-! ## Where resolutions come from -/

omit [DecidableEq D] in
theorem takeEffect_resolutions {s : Disk D} {effect : Bool} {d : D} : (s.takeEffect effect d).resolutions = s.resolutions := by
  unfold Disk.takeEffect
  split <;> rfl

theorem disk_resolutions {p : Port D} {r : p.Answer} {s s' : Disk D} (h : disk p r s = some s') :
    s'.resolutions = s.resolutions ∨ ∃ q, p = .publishResolution q ∧ s'.resolutions = (q.fenceDigest, q) :: s.resolutions := by
  cases p with
  | publishResolution q =>
    cases r with
    | created | lost =>
      simp only [disk] at h
      split at h
      · cases h; exact .inr ⟨q, rfl, rfl⟩
      · cases h
    | taken =>
      simp only [disk] at h
      split at h
      · cases h
      · cases h; exact .inl rfl
    | failed => cases h; exact .inl rfl
  | dispatch | dispatched =>
    cases h
    exact .inl takeEffect_resolutions
  | observe =>
    simp only [disk] at h
    split at h
    · split at h
      · cases h
      · cases h; exact .inl takeEffect_resolutions
    · cases h; exact .inl takeEffect_resolutions
  | look | lookClosed | listClosed | readResolution | listResolutions | makeSlot | removeSlot | installReservation
  | linkRecord | linkReservation | unlinkReservation | closeSlot =>
    left
    simp only [disk] at h
    repeat' split at h
    all_goals cases h
    all_goals rfl
  | _ => cases h; exact .inl rfl

section Origin
variable {C : Canon D} {init : Disc D} {s : Disk D} {w w' : Executors D} {m : Move (Call D) (Port.Answer (D := D))}

/-- What an undisturbed question leaves: its intent is settled, and so is one with a
resolution. -/
structure Answered (C : Canon D) (w : Executors D) : Prop where
  observed : ∀ {i : Nat} {t : ExecutorThread D} {d : D} {request a}, w.config.threads[i]? = some t →
    .port (.observe d request) a ∈ t.log → Settled C d w
  resolved : ∀ {fenceDigest q}, (fenceDigest, q) ∈ w.state.resolutions → Settled C q.intentDigest w

theorem Answered.serve (ha : Answered C w) (hk : Known C init w) (ho : ObservesAlone C w m)
    (h : AvoLib.serve disk (program C) w m = .ok w') : Answered C w' where
  observed := by
    intro i t' d request a ht' he
    rcases serve_asks h ht' he with ⟨t, ht, he⟩ | hasks
    · exact (ha.observed ht he).serve hk h
    · refine Settled.serve ⟨?_, fun ht hway => ho d request a hasks _ _ ht hway⟩ hk h
      obtain ⟨j, n, u, next, _, hu, hst, _⟩ := hasks
      have hsafe := (hk.obeys hu).2
      rw [hst] at hsafe
      exact hsafe.1.2
  resolved := by
    intro fenceDigest q hq
    rcases serve_cases h with ⟨call, _, rfl⟩ | ⟨i, t, _, _, rfl⟩ | ⟨i, n, t, files', t', s', _, ht, _, hans, rfl⟩
    · exact (ha.resolved hq).serve hk h
    · exact (ha.resolved hq).serve hk h
    · cases hans with
      | other => exact (ha.resolved hq).serve hk h
      | @port p r next _ hst _ _ hserved =>
        rcases disk_resolutions hserved with hsame | ⟨q', rfl, hadd⟩
        · rw [hsame] at hq
          exact (ha.resolved hq).serve hk h
        · rw [hadd] at hq
          rcases List.mem_cons.mp hq with heq | hq
          · -- the call that settles the fence had asked the provider
            cases heq
            have hsafe := (hk.obeys ht).2
            rw [hst] at hsafe
            obtain ⟨request, a, he⟩ := hsafe.1
            exact (ha.observed ht he).serve hk h
          · exact (ha.resolved hq).serve hk h

theorem answered_of_reaches (h : Reaches (serve disk (program C)) (ObservesAlone C) (Served.idle (fun _ => .absent) Disk.empty) w) :
    Answered C w := by
  induction h with
  | init =>
    refine ⟨fun ht => ?_, fun hq => ?_⟩
    · simp [Served.idle, Config.idle] at ht
    · simp [Served.idle, Disk.empty] at hq
  | step hr ho he ih => exact ih.serve (known_of_reaches hr) ho he

end Origin

/-- A resolution that is durable settles its intent: no mutation call is in progress
and none begins later, when the provider is asked only while no call is on its way. -/
theorem not_applied_is_true {C : Canon D} {w : Executors D}
    (hw : Reaches (serve disk (program C)) (ObservesAlone C) (Served.idle (fun _ => .absent) Disk.empty) w)
    {fenceDigest : D} {q : Resolution D} (hq : w.state.resolution fenceDigest = some q) (_ : q.outcome = .notApplied) :
    (∀ (i : Nat) (t : ExecutorThread D), w.config.threads[i]? = some t → ¬ InProgress q.intentDigest t) ∧
    ∀ w', Later C w w' → ∀ (i : Nat) (t' : ExecutorThread D) (request : StageRequest D) (a : Effect Unit),
      w'.config.threads[i]? = some t' → .port (.dispatch q.intentDigest request) a ∈ t'.log →
      ∃ t, w.config.threads[i]? = some t ∧ .port (.dispatch q.intentDigest request) a ∈ t.log := by
  obtain ⟨l₁, l₂, hl, _⟩ := List.lookup_eq_some_iff.mp hq
  have hmem : (fenceDigest, q) ∈ w.state.resolutions := hl ▸ List.mem_append_right _ List.mem_cons_self
  have hsettled := (answered_of_reaches hw).resolved hmem
  refine ⟨fun i t ht => hsettled.idle (known_of_reaches hw) ht, fun w' hl i t' request a ht' he => ?_⟩
  exact hsettled.over (hw.mono fun _ _ _ => trivial) hl ht' he

namespace Sample

/-- Surroundings in which the provider finds nothing. -/
def finding (clock : Instant) : (p : Port Form) → p.Answer
  | .observe _ request =>
    ⟨false, .returned ⟨request.stage, request.requestDigest, request.externalIdentity, .notFound, .number 13⟩⟩
  | p => others false clock p

def publication : StageRequest Form := { request with fields := [("candidate_ref", "ref")] }

def observation : ObservationRequest Form :=
  ⟨target, operation, .candidatePublication, .number 3, .number 7, (identity .candidatePublication).digest Form.canon, "ref",
    [("candidate_ref", "ref")]⟩

def executes : Call Form := .execute executor (intent 1) publication

def recovers : Call Form := .recover executor (.digest ((intent 1).digest Form.canon)) observation publication

def idle : Executors Form := Served.idle (fun _ => .absent) Disk.empty

/-- Recovery between the recorded intent of a call and its claim. -/
def overtaken : Option (Executors Form) :=
  follow (program Form.canon) (fun _ _ => true)
    [.start executes, .steps (steady (finding 1)) 0 21, .start recovers, .steps (steady (finding 1)) 1 195,
      .steps (steady (finding 1)) 0 16] idle

/-- The verdict stands, and the first call is with the provider. -/
def overtakenFalse (w : Executors Form) : Bool :=
  w.state.resolutions.any (fun e => e.2.outcome = .notApplied && w.state.resolution e.1 = some e.2 &&
    w.config.threads.any fun t => t.live && t.log.any (dispatchesOf e.2.intentDigest) &&
      t.log.all fun
        | .port (.dispatched _ _) _ => false
        | _ => true)

set_option maxRecDepth 8000 in
theorem overtaken_false : overtaken.any overtakenFalse = true := by decide +kernel

/-- Only recovery is in progress when the provider is asked. -/
def quietly (w : Executors Form) : Move (Call Form) (Port.Answer (D := Form)) → Bool
  | .step i _ =>
    match w.config.threads[i]?.map Thread.status with
    | some (.running (.port (.observe _ _) _)) => w.config.threads.all fun t =>
      match t.call with
      | .execute _ _ _ => !t.live
      | .recover _ _ _ _ => true
    | _ => true
  | _ => true

/-- The same, when the first call crashed before. -/
def crashed : Option (Executors Form) :=
  follow (program Form.canon) quietly
    [.start executes, .steps (steady (finding 1)) 0 21, .crash 0, .start recovers, .steps (steady (finding 1)) 1 195] idle

def notApplied (w : Executors Form) : Bool :=
  w.state.resolutions.any fun e => e.2.outcome = .notApplied && w.state.resolution e.1 = some e.2

set_option maxRecDepth 8000 in
theorem crashed_notApplied : crashed.any notApplied = true := by decide +kernel

theorem observesAlone_of_quietly {w : Executors Form} {m : Move (Call Form) (Port.Answer (D := Form))}
    (h : quietly w m = true) : ObservesAlone Form.canon w m := by
  rintro d request a ⟨i, n, t, next, rfl, ht, hst, _⟩ j u hu hway
  simp only [quietly, ht, Option.map_some, hst, List.all_eq_true] at h
  have hover := h u (List.mem_of_getElem? hu)
  obtain ⟨E, i', request', hcall, _⟩ := hway.executes
  rw [hcall, hway.live] at hover
  cases hover

end Sample

theorem not_applied_is_true_crashed :
    ∃ (w : Executors Form) (q : Resolution Form), q.outcome = .notApplied ∧
      ∀ (i : Nat) (t : ExecutorThread Form), w.config.threads[i]? = some t → ¬ InProgress q.intentDigest t := by
  obtain ⟨w, hrun, hq⟩ := (Option.any_eq_true _ _).mp Sample.crashed_notApplied
  obtain ⟨⟨f, q⟩, _, hq⟩ := List.any_eq_true.mp hq
  simp only [Bool.and_eq_true, decide_eq_true_eq] at hq
  have hw : Reaches (serve disk (program Form.canon)) (ObservesAlone Form.canon)
      (Served.idle (fun _ => .absent) Disk.empty) w :=
    (follow_reaches hrun).mono fun _ _ h => Sample.observesAlone_of_quietly h
  exact ⟨w, q, hq.1, (not_applied_is_true hw hq.2 hq.1).1⟩

/-- A verdict stands while its mutation call is in progress. -/
theorem not_applied_overtaken :
    ¬ ∀ (w : Executors Form) (fenceDigest : Form) (q : Resolution Form),
      Reaches (serve disk (program Form.canon)) (fun _ _ => True) (Served.idle (fun _ => .absent) Disk.empty) w →
      w.state.resolution fenceDigest = some q → q.outcome = .notApplied →
      (∀ (i : Nat) (t : ExecutorThread Form), w.config.threads[i]? = some t → ¬ InProgress q.intentDigest t) ∧
      ∀ w', Later Form.canon w w' → ∀ (i : Nat) (t' : ExecutorThread Form) (request : StageRequest Form) (a : Effect Unit),
        w'.config.threads[i]? = some t' → .port (.dispatch q.intentDigest request) a ∈ t'.log →
        ∃ t, w.config.threads[i]? = some t ∧ .port (.dispatch q.intentDigest request) a ∈ t.log := by
  intro hall
  obtain ⟨w, hrun, hq⟩ := (Option.any_eq_true _ _).mp Sample.overtaken_false
  obtain ⟨⟨f, q⟩, _, hq⟩ := List.any_eq_true.mp hq
  simp only [Bool.and_eq_true, decide_eq_true_eq] at hq
  obtain ⟨⟨hout, hq⟩, hprogress⟩ := hq
  obtain ⟨t, ht, hprogress⟩ := List.any_eq_true.mp hprogress
  simp only [Bool.and_eq_true, List.any_eq_true, List.all_eq_true] at hprogress
  obtain ⟨⟨hl, e, he, hd⟩, hwaiting⟩ := hprogress
  obtain ⟨request, a, rfl⟩ := dispatchesOf_iff.mp hd
  obtain ⟨i, hi⟩ := List.getElem?_of_mem ht
  refine (hall w f q ((follow_reaches hrun).mono fun _ _ _ => trivial) hq hout).1 i t hi ⟨hl, ⟨request, a, he⟩, ?_⟩
  rintro ⟨request', a', he'⟩
  cases hwaiting _ he'

end AvoCorrelate.Graduation
