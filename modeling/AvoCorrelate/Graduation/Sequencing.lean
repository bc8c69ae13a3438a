import AvoCorrelate.Graduation.Eligibility
/-!
# The sequence and the records agree

What a call of `record_eligibility` saw before each of its two writes, and the
invariant of undisturbed runs: a record that is indexed under its operation is mapped
from its sequence, or its call is still on the way to that.
-/
open AvoLib

namespace AvoCorrelate.Graduation.Eligibility

variable {D : Type} [DecidableEq D]

abbrev Log (D : Type) := List (Event (Rec (D := D)) Port.Answer)

abbrev Index (D : Type) := Files (Rec (D := D))

abbrev World (D : Type) := Config (Record D) (Rec (D := D)) Port.Answer Exc Unit

abbrev CallThread (D : Type) := Thread (Record D) (Rec (D := D)) Port.Answer Exc Unit

/-! ## What a call saw -/

/-- The event publishes a record under its operation. -/
def indexes : Event (Rec (D := D)) Port.Answer → Bool
  | .publish (.eligibility _) _ _ => true
  | _ => false

/-- The event publishes an entry under a sequence. -/
def maps : Event (Rec (D := D)) Port.Answer → Bool
  | .publish (.sequence _) _ _ => true
  | _ => false

/-- The record is under its operation, and its sequence is mapped to that operation. -/
structure Mapped (F : Index D) (r : Record D) : Prop where
  entry : F (.sequence r.schedulerSequence) = .bound r.entry
  record : F (.eligibility r.operationId) = .bound r

variable {F : Index D} {r : Record D} {w : World D} {op : D}

omit [DecidableEq D] in
theorem Mapped.grows {F' : Index D} (h : Mapped F r) (hF : Grows F F') : Mapped F' r :=
  ⟨hF _ _ h.entry, hF _ _ h.record⟩

/-- The call published its record under its operation. -/
def Indexed (r : Record D) (h : Log D) : Prop := .publish (.eligibility r.operationId) r .created ∈ h

/-- What a call saw before it publishes. -/
def rules (r : Record D) : Rules (Rec (D := D)) Port.Answer := fun h a =>
  match a with
  | .publish (.eligibility op) v => op = r.operationId ∧ v = r ∧ (∀ e ∈ h, indexes e = false) ∧
      (.read (.sequence r.schedulerSequence) .missing ∈ h ∨ .read (.eligibility r.operationId) (.found r) ∈ h)
  | .publish (.sequence n) e => n = r.schedulerSequence ∧ e = r.entry ∧ Indexed r h ∧ ∀ e ∈ h, maps e = false
  | _ => True

/-- How a call ends: its record is mapped, or it was found under its operation; with
an error after its record was indexed only when the sequence could not be. -/
def Ends (r : Record D) (F : Index D) (h : Log D) : Except Exc Unit → Prop
  | .ok _ => Mapped F r ∨ (F (.eligibility r.operationId) = .bound r ∧ ¬ Indexed r h)
  | .error _ => Indexed r h → ∃ e res, res ≠ .created ∧ .publish (.sequence r.schedulerSequence) e res ∈ h

/-- Reads and the store: nothing is published. -/
def Looking : Action (Rec (D := D)) Port → Prop
  | .publish _ _ => False
  | _ => True

abbrev looks : Rules (Rec (D := D)) Port.Answer := fun _ a => Looking a

section Specs
variable {F : Index D} {h : Log D} {r : Record D} {α : Type}

omit [DecidableEq D] in
theorem rules_looking (h : Log D) (a : Action (Rec (D := D)) Port) (ha : Looking a) : rules r h a := by
  cases a with
  | read k => trivial
  | publish k v => exact ha.elim
  | port p => trivial

omit [DecidableEq D] in
theorem looking_keeps {f : Event (Rec (D := D)) Port.Answer → Bool} (hf : f = indexes ∨ f = maps) (h : Log D)
    (e : Event (Rec (D := D)) Port.Answer) (hn : ∀ e ∈ h, f e = false) (he : Looking e.action) :
    ∀ e' ∈ e :: h, f e' = false := by
  refine List.forall_mem_cons.mpr ⟨?_, hn⟩
  cases e with
  | read k r => rcases hf with rfl | rfl <;> rfl
  | publish k v r => exact he.elim
  | port p r => rcases hf with rfl | rfl <;> rfl

theorem readEligibility_looks (op : D) : (readEligibility op).Does Looking := by
  refine ⟨trivial, fun found => ?_⟩
  cases found with
  | missing => trivial
  | malformed => trivial
  | found r => exact Prog.Does.require_bind fun _ => trivial

theorem readSequence_looks (n : Nat) : (readSequence n : Code D _).Does Looking := by
  refine ⟨trivial, fun found => ?_⟩
  cases found with
  | missing => trivial
  | malformed => trivial
  | found e =>
    refine (readEligibility_looks _).bind fun _ => ?_
    refine Prog.Does.ofOption_bind fun _ => ?_
    exact Prog.Does.require_bind fun _ => trivial

theorem requireSame_looks (r : Record D) : (requireSame r).Does Looking := by
  refine (readSequence_looks _).bind fun _ => Prog.Does.require_bind fun _ => ?_
  exact (readEligibility_looks _).bind fun _ => Prog.Does.require

theorem requirePredecessor_looks (previous : Int) : (requirePredecessor previous : Code D Unit).Does Looking := by
  refine Prog.Does.require_bind fun _ => (readSequence_looks _).bind fun _ => ?_
  refine Prog.Does.ofOption_bind fun _ => (readEligibility_looks _).bind fun _ => ?_
  exact Prog.Does.ofOption_bind fun _ => Prog.Does.require

theorem checkPredecessor_looks (r : Record D) : (checkPredecessor r).Does Looking := by
  refine ⟨trivial, fun found => ?_⟩
  cases found with
  | missing =>
    dsimp only
    split
    · exact requirePredecessor_looks _
    · exact Prog.Does.require
    · exact Prog.Does.require
  | malformed => exact requireSame_looks r
  | found e => exact requireSame_looks r

omit [DecidableEq D] in
theorem looks_of_does {p : Code D α} (hd : p.Does Looking) : p.Safe F looks (Prog.Returning fun _ _ => True) h :=
  (hd.safe fun _ _ _ ha => ha).mono fun _ x _ => by cases x <;> trivial

theorem readSequence_finds (n : Nat) :
    (readSequence n).Safe F looks (Prog.Returning fun _ x => ∀ e, x = some e → F (.sequence n) = .bound e ∧
      F (.eligibility e.operationId) = .bound e.reference) h := by
  refine ⟨trivial, fun found hf => ?_⟩
  cases found with
  | missing => exact fun v hv => nomatch hv
  | malformed => trivial
  | found e =>
    refine Prog.Safe.seq (Q := fun _ x => ∀ v, x = some v → F (.eligibility e.operationId) = .bound v) ?_
      fun h₁ durable _ hd => ?_
    · refine ⟨trivial, fun found hfound => ?_⟩
      cases found with
      | missing => exact fun v hv => nomatch hv
      | malformed => trivial
      | found v =>
        refine Prog.Safe.require_bind (fun _ => ?_) trivial
        intro v' hv
        cases hv
        exact hfound
    · refine Prog.Safe.ofOption_bind (fun v hv => ?_) trivial
      refine Prog.Safe.require_bind (fun hsame => ?_) trivial
      intro e' he'
      cases he'
      exact ⟨hf, hsame.1 ▸ hd v hv⟩

theorem requireSame_finds (r : Record D) :
    (requireSame r).Safe F looks (Prog.Returning fun h' _ =>
      Mapped F r ∧ .read (.eligibility r.operationId) (.found r) ∈ h') h := by
  refine (readSequence_finds _).seq fun h₁ existing _ he => ?_
  refine Prog.Safe.require_bind (fun hsame => ?_) trivial
  obtain ⟨e, rfl, hop⟩ := (Option.any_eq_true _ _).mp hsame
  have hop : e.operationId = r.operationId := of_decide_eq_true hop
  obtain ⟨hentry, hrecord⟩ := he e rfl
  refine Prog.Safe.seq (Q := fun h' x => ∀ v, x = some v → .read (.eligibility r.operationId) (.found v) ∈ h' ∧
      F (.eligibility r.operationId) = .bound v) ?_ fun h₂ durable _ hd => ?_
  · refine ⟨trivial, fun found hfound => ?_⟩
    cases found with
    | missing => exact fun v hv => nomatch hv
    | malformed => trivial
    | found v =>
      refine Prog.Safe.require_bind (fun _ => ?_) trivial
      intro v' hv
      cases hv
      exact ⟨List.mem_cons_self, hfound⟩
  · unfold Prog.require
    split
    · next hr =>
      obtain ⟨hread, hbound⟩ := hd r hr
      refine ⟨⟨?_, hbound⟩, hread⟩
      rw [hop] at hrecord
      have href : e.reference = r := by
        have heq := hrecord.symm.trans hbound
        cases heq
        rfl
      have hee : e = r.entry := by
        rw [Record.entry, ← hop, ← href]
      exact hee ▸ hentry
    · trivial

theorem checkPredecessor_finds (r : Record D) :
    (checkPredecessor r).Safe F looks (Prog.Returning fun h' _ =>
      .read (.sequence r.schedulerSequence) .missing ∈ h' ∨ .read (.eligibility r.operationId) (.found r) ∈ h') h := by
  have hall := (checkPredecessor_looks r)
  refine ⟨trivial, fun found _ => ?_⟩
  cases found with
  | missing =>
    refine (Prog.Safe.suffix (looks_of_does (hall.2 .missing))).mono fun h' x hx => ?_
    cases x with
    | ok => exact .inl (hx.1.mem List.mem_cons_self)
    | error => trivial
  | malformed =>
    refine (requireSame_finds r).mono fun h' x hx => ?_
    cases x with
    | ok => exact .inr hx.2
    | error => trivial
  | found e =>
    refine (requireSame_finds r).mono fun h' x hx => ?_
    cases x with
    | ok => exact .inr hx.2
    | error => trivial

omit [DecidableEq D] in
theorem not_indexed {r : Record D} {h : Log D} (hn : ∀ e ∈ h, indexes e = false) : ¬ Indexed r h := by
  intro hi
  cases hn _ hi

omit [DecidableEq D] in
theorem not_indexed_cons {r : Record D} {h : Log D} {e : Event (Rec (D := D)) Port.Answer} (hn : ¬ Indexed r h)
    (he : e ≠ .publish (.eligibility r.operationId) r .created) : ¬ Indexed r (e :: h) := by
  intro hi
  rcases List.mem_cons.mp hi with heq | hi
  · exact he heq.symm
  · exact hn hi

theorem indexSequence_safe (r : Record D) (hrec : F (.eligibility r.operationId) = .bound r) (hi : Indexed r h)
    (hm : ∀ e ∈ h, maps e = false) : (indexSequence r).Safe F (rules r) (Ends r F) h := by
  refine ⟨⟨rfl, rfl, hi, hm⟩, fun res hres => ?_⟩
  cases res with
  | created => exact .inl ⟨hres, hrec⟩
  | failed => exact fun _ => ⟨_, .failed, fun h => (nomatch h), List.mem_cons_self⟩
  | lost => exact fun _ => ⟨_, .lost, fun h => (nomatch h), List.mem_cons_self⟩
  | taken =>
    have hsame := (requireSame_finds (F := F) (h := .publish (.sequence r.schedulerSequence) r.entry .taken :: h) r).weaken
      (G := rules r) fun h' _ a ha => rules_looking h' a ha
    refine hsame.suffix.mono fun h' x hx => ?_
    cases x with
    | ok => exact .inl hx.2.1
    | error => exact fun _ => ⟨_, .taken, fun h => (nomatch h), hx.1.mem List.mem_cons_self⟩

theorem recordEligibility_safe (r : Record D) : (recordEligibility r).Safe F (rules r) (Ends r F) [] := by
  have hcheck := (checkPredecessor_finds (F := F) (h := []) r).weaken (G := rules r)
    fun h' _ a ha => rules_looking h' a ha
  have hquiet := (hcheck.keeps (checkPredecessor_looks r) (looking_keeps (.inl rfl)) (fun _ he => nomatch he)).keeps
    (checkPredecessor_looks r) (looking_keeps (.inr rfl)) fun _ he => nomatch he
  refine hquiet.bind (fun h₁ _ hx => ?_) fun h₁ _ hx hi => absurd hi (not_indexed hx.2.1)
  obtain ⟨hmaps, hindexes, hsaw⟩ := hx
  refine Prog.Safe.port_bind trivial fun answer => ?_
  have hnone := looking_keeps (.inl rfl) h₁ (.port .install answer) hindexes trivial
  have hnone' := looking_keeps (.inr rfl) h₁ (.port .install answer) hmaps trivial
  cases answer with
  | raised message => exact fun hi => absurd hi (not_indexed hnone)
  | returned x =>
    refine ⟨⟨rfl, rfl, hnone, hsaw.imp (List.mem_cons_of_mem _) (List.mem_cons_of_mem _)⟩, fun res hres => ?_⟩
    have hother : ∀ res', res' ≠ .created → ¬ Indexed r (.publish (.eligibility r.operationId) r res' :: _) :=
      fun res' hne => not_indexed_cons (not_indexed hnone) fun heq => hne (by cases heq; rfl)
    cases res with
    | created => exact indexSequence_safe r hres List.mem_cons_self (List.forall_mem_cons.mpr ⟨rfl, hnone'⟩)
    | failed => exact fun hi => absurd hi (hother _ fun h => nomatch h)
    | lost => exact fun hi => absurd hi (hother _ fun h => nomatch h)
    | taken =>
      refine ⟨trivial, fun found hfound => ?_⟩
      have hread : ¬ Indexed r (.read (.eligibility r.operationId) found :: _) :=
        not_indexed_cons (hother .taken fun h => nomatch h) fun h => nomatch h
      cases found with
      | missing => exact fun hi => absurd hi hread
      | malformed => exact fun hi => absurd hi hread
      | found old =>
        change (Prog.require (old = r) _ : Code D Unit).Safe F (rules r) (Ends r F) _
        unfold Prog.require
        split
        · next hold => exact .inr ⟨hold ▸ hfound, hread⟩
        · exact fun hi => absurd hi hread

end Specs

/-! ## Undisturbed runs -/

/-- A call starts when no call for its sequence is in progress, and once its record is
durable under its operation it goes on to its end, without an I/O error. -/
structure Undisturbed (w : World D) (m : Move (Record D) Port.Answer) : Prop where
  apart : ∀ r, m = .start r → ∀ (i : Nat) (t : CallThread D), w.threads[i]? = some t → t.live = true →
    t.call.schedulerSequence ≠ r.schedulerSequence
  finishes : ∀ (i : Nat) (t : CallThread D), m = .crash i → w.threads[i]? = some t → Indexed t.call t.log → t.live = false
  writes : ∀ (i : Nat) n (t : CallThread D), m = .step i n → w.threads[i]? = some t → Indexed t.call t.log →
    n.createFails = false ∧ n.write = .written
  synced : ∀ (i : Nat) n (t : CallThread D) op v next, m = .step i n → w.threads[i]? = some t →
    t.status = .writing (.eligibility op) v next → n.write ≠ .unsynced

/-- What undisturbed runs keep. -/
structure Agree (w : World D) : Prop where
  alone : ∀ {i j : Nat} {t u : CallThread D}, w.threads[i]? = some t → w.threads[j]? = some u → t.live = true →
    u.live = true → t.call.schedulerSequence = u.call.schedulerSequence → i = j
  checked : ∀ {i : Nat} {t : CallThread D}, w.threads[i]? = some t → t.live = true →
    .read (.sequence t.call.schedulerSequence) .missing ∈ t.log →
      w.files (.sequence t.call.schedulerSequence) = .absent ∨ t.Owns (.sequence t.call.schedulerSequence)
  opened : ∀ {i : Nat} {t : CallThread D} {op : D}, w.threads[i]? = some t → t.Owns (.eligibility op) →
    .read (.sequence t.call.schedulerSequence) .missing ∈ t.log
  made : ∀ {op : D} {r : Record D}, w.files (.eligibility op) = .bound r →
    op = r.operationId ∧ ∃ (i : Nat) (t : CallThread D), w.threads[i]? = some t ∧ t.call = r ∧ Indexed r t.log
  clean : ∀ {i : Nat} {t : CallThread D} {n e res}, w.threads[i]? = some t → .publish (.sequence n) e res ∈ t.log →
    res = .created
  ended : ∀ {i : Nat} {t : CallThread D}, w.threads[i]? = some t → Indexed t.call t.log → t.live = false →
    Mapped w.files t.call
  returned : ∀ {i : Nat} {t : CallThread D}, w.threads[i]? = some t → t.status = .running (.done ()) →
    Mapped w.files t.call

abbrev nothing : Index D := fun _ => .absent

/-- The calls obey their rules. -/
structure Ordered (w : World D) : Prop where
  sound : w.Sound nothing
  obeys : w.Obeys nothing (fun _ _ _ => True) (fun r _ => rules r) fun r F => Ends r F

theorem ordered_of_reaches {Pm : World D → Move (Record D) Port.Answer → Prop}
    (h : Reaches (perform recordEligibility) Pm (Config.idle nothing) w) : Ordered w := by
  have hruled := sound_ruled (Q := fun r F => Ends r F) (fun r _ => recordEligibility_safe r) h
  exact ⟨hruled.1, hruled.2.2⟩

section Steps
variable {w w' : World D} {m : Move (Record D) Port.Answer} {i : Nat} {t t' : CallThread D}

omit [DecidableEq D] in
theorem Ordered.along (hw : Ordered w) (ht : w.threads[i]? = some t) : Along (rules t.call) t.log :=
  (hw.sound.obeys (fun _ _ _ => trivial) hw.obeys ht).1

omit [DecidableEq D] in
theorem Ordered.safe (hw : Ordered w) (ht : w.threads[i]? = some t) :
    t.status.Safe w.files (rules t.call) (Ends t.call w.files) t.log :=
  (hw.sound.obeys (fun _ _ _ => trivial) hw.obeys ht).2

variable {k : Key D} {v : Rec k} {next : Published → Code D Unit} {n : Nat} {e : Entry D} {res : Published} {op : D}

omit [DecidableEq D] in
theorem Ordered.publishes (hw : Ordered w) (ht : w.threads[i]? = some t) (hst : t.status = .running (.publish k v next)) :
    rules t.call t.log (.publish k v) := by
  have hsafe := hw.safe ht
  rw [hst] at hsafe
  exact hsafe.1

omit [DecidableEq D] in
theorem Ordered.writes (hw : Ordered w) (ht : w.threads[i]? = some t) (hst : t.status = .writing k v next) :
    rules t.call t.log (.publish k v) := by
  have hsafe := hw.safe ht
  rw [hst] at hsafe
  exact hsafe.1

omit [DecidableEq D] in
theorem Ordered.indexed_of_maps (hw : Ordered w) (ht : w.threads[i]? = some t)
    (hm : .publish (.sequence n) e res ∈ t.log) :
    n = t.call.schedulerSequence ∧ e = t.call.entry ∧ Indexed t.call t.log := by
  obtain ⟨h', hs, hn, he, hi, _⟩ := (hw.along ht).rule hm
  exact ⟨hn, he, hs.mem hi⟩

omit [DecidableEq D] in
theorem Indexed.owns (h : Indexed t.call t.log) : t.Owns (.eligibility t.call.operationId) := ⟨_, .inr (.inl h)⟩

omit [DecidableEq D] in
theorem Agree.free (ha : Agree w) (ht : w.threads[i]? = some t) (hl : t.live = true)
    (hi : Indexed t.call t.log) :
    w.files (.sequence t.call.schedulerSequence) = .absent ∨ t.Owns (.sequence t.call.schedulerSequence) :=
  ha.checked ht hl (ha.opened ht hi.owns)

variable (hw : Ordered w) (ha : Agree w) (hu : Undisturbed w m) (hm : perform recordEligibility w m = .ok w')
include hw ha hu hm

omit hw in
theorem Agree.step_alone {j : Nat} {u' : CallThread D} (ht' : w'.threads[i]? = some t') (hu' : w'.threads[j]? = some u')
    (htl : t'.live = true) (hul : u'.live = true) (hseq : t'.call.schedulerSequence = u'.call.schedulerSequence) : i = j := by
  rcases perform_live hm ht' htl with ⟨hnew, hi⟩ | ⟨t, ht, htl₀, htc⟩ <;>
    rcases perform_live hm hu' hul with ⟨hnew', hj⟩ | ⟨u, hu₀, hul₀, huc⟩
  · rw [hi, hj]
  · exact absurd (huc ▸ hseq.symm) (hu.apart _ hnew j u hu₀ hul₀)
  · exact absurd (htc ▸ hseq) (hu.apart _ hnew' i t ht htl₀)
  · exact ha.alone ht hu₀ htl₀ hul₀ (htc ▸ huc ▸ hseq)

omit hu in
theorem Agree.step_free (ht' : w'.threads[i]? = some t') (ht : w.threads[i]? = some t) (hl : t.live = true)
    (hfree : w.files (.sequence t.call.schedulerSequence) = .absent) :
    w'.files (.sequence t.call.schedulerSequence) = .absent ∨ t'.Owns (.sequence t.call.schedulerSequence) := by
  refine or_iff_not_imp_left.mpr fun hthere => ?_
  obtain ⟨j, n, u, v, next, _, hu₀, hst, hu'⟩ := perform_created hm hfree hthere fun h hs => hw.sound.writing h hs
  have hseq : t.call.schedulerSequence = u.call.schedulerSequence := (hw.publishes hu₀ hst).1
  have hul : u.live = true := by rw [Thread.live, hst]
  cases ha.alone ht hu₀ hl hul hseq
  rw [ht'] at hu'
  cases hu'
  exact Thread.owns_of_writing rfl

omit hu in
theorem Agree.step_checked (ht' : w'.threads[i]? = some t') (hl : t'.live = true)
    (hmiss : .read (.sequence t'.call.schedulerSequence) .missing ∈ t'.log) :
    w'.files (.sequence t'.call.schedulerSequence) = .absent ∨ t'.Owns (.sequence t'.call.schedulerSequence) := by
  rcases perform_before hm ht' with ⟨r, _, _, rfl⟩ | ht | ⟨t, _, _, rfl⟩ | ⟨n, t, _, ht, hstep⟩
  · cases hmiss
  · rcases ha.checked ht hl hmiss with hfree | hown
    · exact ha.step_free hw hm ht' ht hl hfree
    · exact .inr hown
  · cases hl
  · have hs := Thread.step_cases hstep
    rw [hs.call] at hmiss ⊢
    rcases hs.latest hmiss with hold | hlog
    · rcases ha.checked ht hs.live hold with hfree | hown
      · exact ha.step_free hw hm ht' ht hs.live hfree
      · exact .inr (hs.owns_after hown)
    · obtain ⟨hfree, hfiles, _⟩ := hs.read_missing hlog
      exact .inl (hfiles ▸ hfree)

omit hu in
theorem Agree.step_opened (ht' : w'.threads[i]? = some t') (ho : t'.Owns (.eligibility op)) :
    .read (.sequence t'.call.schedulerSequence) .missing ∈ t'.log := by
  rcases perform_before hm ht' with ⟨r, _, _, rfl⟩ | ht | ⟨t, _, ht, rfl⟩ | ⟨n, t, hmove, ht, hstep⟩
  · obtain ⟨v, ⟨_, h⟩ | h | h⟩ := ho <;> cases h
  · exact ha.opened ht ho
  · exact ha.opened (t := t) ht (Thread.owns_of_crashed ho)
  · have hs := Thread.step_cases hstep
    rw [hs.call]
    rcases hs.owns ho with ho | ⟨habsent, htorn⟩
    · exact hs.log.mem (ha.opened ht ho)
    · -- the call has just created the file: it did not find its record there before
      obtain ⟨j, n', u, v, next, hmove', hu₀, hst, _⟩ :=
        perform_created hm habsent (by rw [htorn]; exact fun h => nomatch h) fun h hs => hw.sound.writing h hs
      cases hmove.symm.trans hmove'
      cases ht.symm.trans hu₀
      obtain ⟨rfl, _, _, hmiss | hfound⟩ := hw.publishes ht hst
      · exact hs.log.mem hmiss
      · cases habsent.symm.trans (hw.sound.tells ht _ hfound)

omit ha in
theorem Agree.step_made {r : Record D} (hmade : ∀ {op r}, w.files (.eligibility op) = .bound r → op = r.operationId ∧
      ∃ (i : Nat) (t : CallThread D), w.threads[i]? = some t ∧ t.call = r ∧ Indexed r t.log)
    (hb : w'.files (.eligibility op) = .bound r) :
    op = r.operationId ∧ ∃ (i : Nat) (t : CallThread D), w'.threads[i]? = some t ∧ t.call = r ∧ Indexed r t.log := by
  rcases perform_bound hm hb with hb | ⟨i, n, t, t', next, hmove, ht, hst, ht', hcall, hcreated | hunsynced⟩
  · obtain ⟨hop, i, t, ht, hcall, hi⟩ := hmade hb
    obtain ⟨t', ht', rfl | rfl | hs⟩ := perform_thread hm ht
    · exact ⟨hop, i, _, ht', hcall, hi⟩
    · exact ⟨hop, i, _, ht', hcall, hi⟩
    · exact ⟨hop, i, t', ht', hs.call.trans hcall, hs.log.mem hi⟩
  · obtain ⟨rfl, rfl, _⟩ := hw.writes ht hst
    exact ⟨rfl, i, t', ht', hcall, hcreated⟩
  · exact absurd hunsynced (hu.synced i n t op r next hmove ht hst)

omit hw in
theorem Agree.step_clean (hw' : Ordered w') (ht' : w'.threads[i]? = some t')
    (he : .publish (.sequence n) e res ∈ t'.log) : res = .created := by
  rcases perform_before hm ht' with ⟨r, _, _, rfl⟩ | ht | ⟨t, _, ht, rfl⟩ | ⟨nature, t, hmove, ht, hstep⟩
  · cases he
  · exact ha.clean ht he
  · exact ha.clean (t := t) ht he
  · have hs := Thread.step_cases hstep
    rcases hs.latest he with hold | hlog
    · exact ha.clean ht hold
    · have hrule := hw'.along ht'
      rw [hs.call, hlog] at hrule
      obtain ⟨⟨rfl, rfl, hi, hnone⟩, _⟩ := hrule
      have hcalm := hu.writes i nature t hmove ht hi
      cases res with
      | created => rfl
      | failed =>
        have hfails := Thread.step_failed hstep hlog
        rw [hcalm.1] at hfails
        cases hfails
      | lost =>
        rcases (Thread.step_lost hstep hlog).2 with ⟨hwrite, _⟩ | hwrite
        · cases hcalm.2.symm.trans hwrite
        · cases hcalm.2.symm.trans hwrite
      | taken =>
        -- its sequence was free, and it has not tried before
        obtain ⟨hthere, next, hst⟩ := hs.publish_taken hlog
        rcases ha.free ht hs.live hi with hfree | ⟨v, ⟨next', hst'⟩ | hpub | hpub⟩
        · exact absurd hfree hthere
        · cases hst.symm.trans hst'
        · cases hnone _ hpub
        · cases hnone _ hpub

omit hw ha hu hm [DecidableEq D] in
theorem mapped_of_ended (hw : Ordered w) (hclean : ∀ {n e res}, .publish (.sequence n) e res ∈ t.log → res = .created)
    (ht : w.threads[i]? = some t) (hi : Indexed t.call t.log) (hl : t.live = false) (hc : t.status ≠ .crashed) :
    Mapped w.files t.call := by
  have hsafe := hw.safe ht
  unfold Thread.live at hl
  split at hl
  · next x hst =>
    rw [hst] at hsafe
    rcases hsafe with hmapped | ⟨_, hn⟩
    · exact hmapped
    · exact absurd hi hn
  · next e hst =>
    rw [hst] at hsafe
    obtain ⟨e, res, hres, hpub⟩ := hsafe hi
    exact absurd (hclean hpub) hres
  · next hst => exact absurd hst hc
  · cases hl

theorem Agree.step_ended (hw' : Ordered w') (ht' : w'.threads[i]? = some t') (hi : Indexed t'.call t'.log)
    (hl : t'.live = false) : Mapped w'.files t'.call := by
  have hgrows := hw.sound.perform_grows hm
  rcases perform_before hm ht' with ⟨r, _, _, rfl⟩ | ht | ⟨t, hmove, ht, rfl⟩ | ⟨n, t, hmove, ht, hstep⟩
  · cases hi
  · exact (ha.ended ht hi hl).grows hgrows
  · exact Mapped.grows (ha.ended (t := t) ht hi (hu.finishes i t hmove ht hi)) hgrows
  · exact mapped_of_ended hw' (fun hpub => ha.step_clean hu hm hw' ht' hpub) ht' hi hl
      (Thread.step_cases hstep).not_crashed

theorem Agree.step_returned (hw' : Ordered w') (ht' : w'.threads[i]? = some t') (hd : t'.status = .running (.done ())) :
    Mapped w'.files t'.call := by
  have hgrows := hw.sound.perform_grows hm
  rcases perform_before hm ht' with ⟨r, _, _, rfl⟩ | ht | ⟨t, _, _, rfl⟩ | ⟨n, t, hmove, ht, hstep⟩
  · cases hd
  · exact (ha.returned ht hd).grows hgrows
  · cases hd
  · have hs := Thread.step_cases hstep
    have hends := hw'.safe ht'
    rw [hd] at hends
    rcases hends with hmapped | ⟨hb, hn⟩
    · exact hmapped
    · -- the record was there: its call is over, since it is not this one
      obtain ⟨_, j, u, hu', hcall, hi⟩ := Agree.step_made hw hu hm ha.made hb
      have hne : j ≠ i := by
        rintro rfl
        cases ht'.symm.trans hu'
        exact hn hi
      rw [← hcall] at hi ⊢
      refine ha.step_ended hw hu hm hw' hu' hi ?_
      by_contra hl
      rw [Bool.not_eq_false] at hl
      obtain ⟨hstart, _⟩ | ⟨u₀, hu₀, hl₀, hc₀⟩ := perform_live hm hu' hl
      · cases hmove.symm.trans hstart
      · refine hne (ha.alone hu₀ ht hl₀ hs.live ?_)
        rw [← hc₀, hcall, hs.call]

theorem Agree.perform (hw' : Ordered w') : Agree w' where
  alone := ha.step_alone hu hm
  checked := ha.step_checked hw hm
  opened := ha.step_opened hw hm
  made := Agree.step_made hw hu hm ha.made
  clean := ha.step_clean hu hm hw'
  ended := ha.step_ended hw hu hm hw'
  returned := ha.step_returned hw hu hm hw'

end Steps

theorem agree_of_reaches (h : Reaches (perform recordEligibility) Undisturbed (Config.idle nothing) w) : Agree w := by
  induction h with
  | init => constructor <;> simp [Config.idle]
  | step hc hu hm ih => exact ih.perform (ordered_of_reaches hc) hu hm (ordered_of_reaches (.step hc hu hm))

omit [DecidableEq D] in
theorem Agree.distinct {op' : D} {r' : Record D} (ha : Agree w) (hw : Ordered w)
    (hr : w.files (.eligibility op) = .bound r) (hr' : w.files (.eligibility op') = .bound r')
    (hseq : r.schedulerSequence = r'.schedulerSequence) : op = op' := by
  obtain ⟨rfl, i, t, ht, rfl, hi⟩ := ha.made hr
  obtain ⟨rfl, j, u, hu, rfl, hj⟩ := ha.made hr'
  -- a call that is on its way to a sequence that is mapped has mapped it
  have hsame : ∀ {i j : Nat} {t u : CallThread D}, w.threads[i]? = some t → w.threads[j]? = some u →
      Indexed u.call u.log → u.live = true → t.call.schedulerSequence = u.call.schedulerSequence → Mapped w.files t.call →
      t.call.operationId = u.call.operationId := by
    intro i j t u ht hu hj hl hseq hmapped
    have hb := hmapped.entry
    rw [hseq] at hb
    rcases ha.free hu hl hj with hfree | hown
    · cases hfree.symm.trans hb
    · rcases hw.sound.origin hb with hinit | ⟨l, v, hv, hwrote⟩
      · cases hinit
      · cases hw.sound.exclusive hv hu hwrote.owns hown
        cases hv.symm.trans hu
        have he : t.call.entry = u.call.entry := by
          rcases hwrote with hwrote | hwrote
          · exact (hw.indexed_of_maps hu hwrote).2.1
          · exact (hw.indexed_of_maps hu hwrote).2.1
        exact congrArg Entry.operationId he
  cases htl : t.live with
  | false =>
    have hmapped := ha.ended ht hi htl
    cases hul : u.live with
    | false =>
      have hb := hmapped.entry
      rw [hseq, (ha.ended hu hj hul).entry] at hb
      exact (congrArg Entry.operationId (File.bound.inj hb)).symm
    | true => exact hsame ht hu hj hul hseq hmapped
  | true =>
    cases hul : u.live with
    | false => exact (hsame hu ht hi htl hseq.symm (ha.ended hu hj hul)).symm
    | true =>
      cases ha.alone ht hu htl hul hseq
      cases ht.symm.trans hu
      rfl

/-! ## The readers -/

/-- The outcome of a reader that nothing disturbs. -/
def reads {α : Type} (F : Index D) (p : Code D α) : Except Exc α := (p.run (fun _ => .returned ()) F).1

theorem bound_of_reads (h : reads F (readEligibility op) = .ok (some r)) : F (.eligibility op) = .bound r := by
  unfold reads readEligibility at h
  simp only [Prog.run] at h
  cases hF : F (.eligibility op) with
  | absent => rw [hF] at h; cases h
  | torn => rw [hF] at h; cases h
  | bound v =>
    rw [hF] at h
    by_cases hop : v.operationId = op
    · simp only [File.content, Prog.require, if_pos hop] at h
      cases h
      rfl
    · simp only [File.content, Prog.require, if_neg hop] at h
      cases h

theorem Mapped.reads (h : Mapped F r) : reads F (readSequence r.schedulerSequence) = .ok (some r.entry) := by
  have hread : (readEligibility r.operationId).Returns (fun _ => .returned ()) (fun _ => True) F (.ok (some r)) F := by
    refine Prog.returns_read.mpr ⟨trivial, ?_⟩
    rw [h.record]
    exact Prog.Returns.bind (Prog.Returns.require rfl) (Prog.returns_done.mpr ⟨rfl, rfl⟩)
  have hseq : (readSequence r.schedulerSequence).Returns (fun _ => .returned ()) (fun _ => True) F (.ok (some r.entry)) F := by
    refine Prog.returns_read.mpr ⟨trivial, ?_⟩
    rw [h.entry]
    refine Prog.Returns.bind hread (Prog.Returns.bind (Prog.Returns.ofOption rfl) ?_)
    exact Prog.Returns.bind (Prog.Returns.require ⟨rfl, rfl⟩) (Prog.returns_done.mpr ⟨rfl, rfl⟩)
  exact hseq.1

/-- The sequence and the records agree in every undisturbed run. -/
theorem sequence_agrees {w : World D}
    (hw : Reaches (perform recordEligibility) Undisturbed (Config.idle nothing) w) :
    (∀ op op' r r', reads w.files (readEligibility op) = .ok (some r) → reads w.files (readEligibility op') = .ok (some r') →
      op ≠ op' → r.schedulerSequence ≠ r'.schedulerSequence) ∧
    ∀ (i : Nat) (t : CallThread D), w.threads[i]? = some t → t.status = .running (.done ()) →
      reads w.files (readSequence t.call.schedulerSequence) = .ok (some t.call.entry) := by
  have ha := agree_of_reaches hw
  refine ⟨fun op op' r r' hr hr' hne hseq => ?_, fun i t ht hd => (ha.returned ht hd).reads⟩
  exact hne (ha.distinct (ordered_of_reaches hw) (bound_of_reads hr) (bound_of_reads hr') hseq)

namespace Sample

/-- An excluded attempt at the first sequence. -/
def record (op : Nat) : Record Nat where
  repositoryDigest := 0
  targetRef := ⟨"refs/heads/main", rfl⟩
  operationId := op
  schedulerSequence := 1
  previousSchedulerSequence := none
  schedulerWatermark := none
  submissionDigest := 2
  classification := .excluded
  exclusionReason := some "empty"
  exclusionEvidenceDigest := some 3
  ordinary := true
  nonempty := false
  terminalDisposition := none
  dispositionDigest := none
  valid := ⟨Nat.one_pos, fun h => (nomatch h), fun _ => ⟨fun h => (nomatch h.2), by simp, rfl⟩, fun h => (nomatch h), fun _ h => (nomatch h),
    fun _ h => (nomatch h)⟩

def steps (i n : Nat) : List (Move (Record Nat) Port.Answer) := List.replicate n (.step i (.calm fun _ => .returned ()))

def after (moves : List (Move (Record Nat) Port.Answer)) : World Nat :=
  result (perform recordEligibility) (Config.idle nothing) moves

/-- Two operations check one sequence before either takes it. -/
def race : List (Move (Record Nat) Port.Answer) :=
  .start (record 5) :: .start (record 6) :: steps 0 1 ++ steps 1 1 ++ steps 0 5 ++ steps 1 3

/-- A call crashes after its record is durable; the caller submits the record again. -/
def resubmitted : List (Move (Record Nat) Port.Answer) :=
  .start (record 5) :: steps 0 4 ++ [.crash 0, .start (record 5)] ++ steps 1 4

theorem race_allowed : allowed (perform recordEligibility) (fun _ _ => true) (Config.idle nothing) race = true := by decide

theorem resubmitted_allowed :
    allowed (perform recordEligibility) (fun _ _ => true) (Config.idle nothing) resubmitted = true := by decide

theorem race_reads : reads (after race).files (readEligibility 5) = .ok (some (record 5)) ∧
    reads (after race).files (readEligibility 6) = .ok (some (record 6)) := ⟨rfl, rfl⟩

theorem resubmitted_unmapped : (∃ t, (after resubmitted).threads[1]? = some t ∧ t.call = record 5 ∧
      t.status = .running (.done ())) ∧
    reads (after resubmitted).files (readSequence 1) = .ok none := ⟨⟨_, rfl, rfl, rfl⟩, rfl⟩

def alone : List (Move (Record Nat) Port.Answer) := .start (record 5) :: steps 0 6

def calmly (w : World Nat) : Move (Record Nat) Port.Answer → Bool
  | .start _ => w.threads.isEmpty
  | .crash _ => false
  | .step _ n => !n.createFails && n.write == .written

theorem undisturbed_of_calmly {w : World Nat} {m : Move (Record Nat) Port.Answer} (h : calmly w m = true) :
    Undisturbed w m := by
  cases m with
  | start r =>
    rw [calmly, List.isEmpty_iff] at h
    refine ⟨fun _ _ i t ht => ?_, fun _ _ h => (nomatch h), fun _ _ _ h => (nomatch h), fun _ _ _ _ _ _ h => (nomatch h)⟩
    rw [h] at ht
    cases ht
  | crash i => cases h
  | step i n =>
    simp only [calmly, Bool.and_eq_true, Bool.not_eq_true', beq_iff_eq] at h
    refine ⟨fun _ h => (nomatch h), fun _ _ h => (nomatch h), ?_, ?_⟩
    · intro _ _ _ hmove _ _
      cases hmove
      exact h
    · intro _ _ _ _ _ _ hmove _ _ hunsynced
      cases hmove
      cases h.2.symm.trans hunsynced

theorem alone_allowed : allowed (perform recordEligibility) calmly (Config.idle nothing) alone = true := by decide

end Sample

theorem sequence_agrees_alone : (∃ t, (Sample.after Sample.alone).threads[0]? = some t ∧ t.call = Sample.record 5) ∧
    reads (Sample.after Sample.alone).files (readSequence 1) = .ok (some (Sample.record 5).entry) := by
  have hw : Reaches (perform recordEligibility) Undisturbed (Config.idle nothing) (Sample.after Sample.alone) :=
    (reaches_result Sample.alone_allowed).mono fun _ _ h => Sample.undisturbed_of_calmly h
  exact ⟨⟨_, rfl, rfl⟩, (sequence_agrees hw).2 0 _ rfl rfl⟩

/-- Neither half holds of every run. -/
theorem sequence_disagrees :
    (¬ ∀ w : World Nat, Reaches (perform recordEligibility) (fun _ _ => True) (Config.idle nothing) w →
      ∀ op op' r r', reads w.files (readEligibility op) = .ok (some r) → reads w.files (readEligibility op') = .ok (some r') →
        op ≠ op' → r.schedulerSequence ≠ r'.schedulerSequence) ∧
    ¬ ∀ w : World Nat, Reaches (perform recordEligibility) (fun _ _ => True) (Config.idle nothing) w →
      ∀ (i : Nat) (t : CallThread Nat), w.threads[i]? = some t → t.status = .running (.done ()) →
        reads w.files (readSequence t.call.schedulerSequence) = .ok (some t.call.entry) := by
  refine ⟨fun hall => ?_, fun hall => ?_⟩
  · have hw : Reaches (perform recordEligibility) (fun _ _ => True) (Config.idle nothing) (Sample.after Sample.race) :=
      (reaches_result Sample.race_allowed).mono fun _ _ _ => trivial
    exact hall _ hw 5 6 _ _ Sample.race_reads.1 Sample.race_reads.2 (by decide) rfl
  · have hw : Reaches (perform recordEligibility) (fun _ _ => True) (Config.idle nothing) (Sample.after Sample.resubmitted) :=
      (reaches_result Sample.resubmitted_allowed).mono fun _ _ _ => trivial
    obtain ⟨⟨t, ht, hcall, hd⟩, hnone⟩ := Sample.resubmitted_unmapped
    have hmapped := hall _ hw 1 t ht hd
    rw [hcall] at hmapped
    cases hnone.symm.trans hmapped

end AvoCorrelate.Graduation.Eligibility
