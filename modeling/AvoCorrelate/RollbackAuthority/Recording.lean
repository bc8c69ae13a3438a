import AvoCorrelate.RollbackAuthority.Looking
/-!
# Recording, and adopting what is recorded

What one `_record_or_adopt` leaves, where it can be interrupted, and that the four
records of a call can be recorded once more when some of them are there already.
-/
open AvoLib

namespace AvoCorrelate.RollbackAuthority

open Graduation (MainBound)
open MainRollback (Preparation)

variable {D : Type}

/-- What the readers of leases answer. -/
structure Leases (D : Type) where
  lease : D → Graduation.Answer (Option (Lease D))
  target : Lease D → Graduation.Answer Unit

/-- What is around a call: the clock by the number of its readings, the ports that
always answer the same, and what acquiring a lease does to the leases. -/
structure Surroundings (D : Type) where
  clock : Nat → Graduation.Answer Instant
  ports : (p : Port D) → p.Answer
  acquired : D → MainBound D → Leases D → Leases D

namespace Surroundings

variable (E : Surroundings D)

def answer (w : Leases D × Nat) : (p : Port D) → p.Answer
  | .clock => E.clock w.2
  | .lease operationId => w.1.lease operationId
  | .assertTargetLease l => w.1.target l
  | p => E.ports p

def next (w : Leases D × Nat) : Port D → Leases D × Nat
  | .clock => (w.1, w.2 + 1)
  | .acquire operationId target => (E.acquired operationId target w.1, w.2)
  | _ => w

def service : Service (Port.Answer (D := D)) (Leases D × Nat) := fun p _ w => some (E.next w p)

def oracle : Oracle E.service where
  answer := E.answer
  next := E.next
  serves _ _ := rfl

/-- Nothing but the clock has changed. -/
def withClock (clock : Nat → Graduation.Answer Instant) : Surroundings D := { E with clock := clock }

end Surroundings

/-- Everything but publishing and acquiring a lease. -/
def Watching : Action (Rec (D := D)) (Port D) → Prop
  | .publish _ _ => False
  | .port (.acquire _ _) => False
  | _ => True

theorem watching_of_looking {n : Nat} {a : Action (Rec (D := D)) (Port D)} (h : Looking n a) : Watching a := by
  cases a with
  | read k => trivial
  | publish k v => exact h
  | port p =>
    cases p with
    | acquire operationId target => cases h
    | _ => trivial

variable [DecidableEq D] {E E' : Surroundings D} {files files' g : Disc D} {v v' : Leases D} {α β : Type} {n : Nat}

omit [DecidableEq D] in
theorem idle_watching : Prog.Idle E.oracle Prod.fst Watching where
  reads _ _ h := h
  ports w q hq := by
    cases q with
    | acquire operationId target => exact (hq : False).elim
    | _ => rfl

omit [DecidableEq D] in
theorem idle_looking : Prog.Idle E.oracle Prod.fst (Looking n) := idle_watching.of_imp fun _ => watching_of_looking

omit [DecidableEq D] in
theorem idle_asking : Prog.Idle E.oracle Prod.fst (Asking (D := D)) := idle_looking.of_imp fun _ => looking_of_asking (n := 0)

variable {p : Code D α} {k : Key D} {m : Nat}

theorem gives_again {x : α} (hd : p.Does (Looking n)) (hports : E'.ports = E.ports)
    (hfiles : ∀ k : Key D, k.place < n → files' k = files k) (h : p.Yields E.oracle Prod.fst files v x) :
    p.Gives E'.oracle Prod.fst files' v x := by
  refine hd.gives_elsewhere idle_looking idle_looking hfiles (fun w w' q hq hw hw' => ?_) h
  change E'.answer w' q = E.answer w q
  subst hw
  cases q with
  | clock => cases hq
  | acquire operationId target => cases hq
  | _ => simp only [Surroundings.answer, hports, hw']

theorem gives_asked {x : α} (hd : p.Does Asking) (hports : E'.ports = E.ports)
    (h : p.Yields E.oracle Prod.fst files v x) : p.Gives E'.oracle Prod.fst files' v' x := by
  refine hd.gives_elsewhere idle_asking idle_asking (fun _ => False.elim) (fun w w' q hq _ _ => ?_) h
  change E'.answer w' q = E.answer w q
  cases q with
  | clock => cases hq
  | lease operationId => cases hq
  | assertTargetLease l => cases hq
  | acquire operationId target => cases hq
  | _ => simp only [Surroundings.answer, hports]

/-! ## One record -/

section Record
variable {k : Key D} {r : Rec k} {kind malformed : String} {check : Rec k → Code D Unit} {w w' : Leases D × Nat}

variable {p : Code D α} {f : α → Code D β} {y : β}

theorem yields_bind (hd : p.Does Watching) (h : (p >>= f).Yields E.oracle Prod.fst files v y) :
    ∃ x, p.Yields E.oracle Prod.fst files v x ∧ (f x).Yields E.oracle Prod.fst files v y := h.bind_inv hd idle_watching

theorem played_bind (hd : p.Does Watching) (hw : w.1 = v) (h : (p >>= f).play E.oracle files w = ⟨.ok y, files', w'⟩) :
    ∃ x w₁, w₁.1 = v ∧ p.Yields E.oracle Prod.fst files v x ∧ (f x).play E.oracle files w₁ = ⟨.ok y, files', w'⟩ :=
  hd.played_bind idle_watching hw h

omit [DecidableEq D] in
theorem watches_looking (hd : p.Does (Looking n)) : p.Does Watching := hd.mono fun _ => watching_of_looking

theorem yields_readFile (hcheck : ∀ r, (check r).Does (Looking k.place)) {found : Option (Rec k)}
    (h : (Journal.readFile k malformed check).Yields E.oracle Prod.fst files v found) :
    (found = none ∧ files k = .absent) ∨
      ∃ r, found = some r ∧ files k = .bound r ∧ (check r).Yields E.oracle Prod.fst files v () ∧
        Rec.operationId k r = k.operationId := by
  have h := Prog.Yields.read_inv h
  cases hfile : files k with
  | absent =>
    rw [hfile] at h
    exact .inl ⟨Prog.Yields.done_inv h, rfl⟩
  | torn =>
    rw [hfile] at h
    exact (Prog.Yields.raise_inv h).elim
  | bound r =>
    rw [hfile] at h
    obtain ⟨⟨⟩, hr, h⟩ := yields_bind (watches_looking (hcheck r)) h
    obtain ⟨⟨⟩, hown, h⟩ := yields_bind Prog.Does.require h
    exact .inr ⟨r, Prog.Yields.done_inv h, rfl, hr, hown.require_inv⟩

theorem gives_readFile_none (hfile : files k = .absent) :
    (Journal.readFile k malformed check).Gives E.oracle Prod.fst files v none :=
  Prog.Gives.read (r := .missing) (by rw [hfile]; rfl) Prog.gives_done

theorem gives_readFile_some (hfile : files k = .bound r) (hcheck : (check r).Gives E.oracle Prod.fst files v ())
    (hown : Rec.operationId k r = k.operationId) :
    (Journal.readFile k malformed check).Gives E.oracle Prod.fst files v (some r) :=
  Prog.Gives.read (r := .found r) (by rw [hfile]; rfl) (hcheck.bind ((Prog.Gives.require hown).bind Prog.gives_done))

/-- What a call that recorded or adopted a record leaves, and what it had checked. -/
structure Recorded (E : Surroundings D) (v : Leases D) (files : Disc D) (k : Key D) (r : Rec k) (check : Rec k → Code D Unit)
    (files' : Disc D) : Prop where
  file : files k = .absent ∨ files k = .bound r
  checked : (check r).Yields E.oracle Prod.fst files v ()
  own : Rec.operationId k r = k.operationId
  store : files k = .absent → E.ports .install = .returned ()
  left : files' = files.put k (.bound r)

omit [DecidableEq D] in
theorem watches_install : (Journal.install : Code D Unit).Does Watching := ⟨trivial, does_raising⟩

theorem gives_install (hstore : E.ports .install = .returned ()) : Journal.install.Gives E.oracle Prod.fst files v () :=
  Prog.Gives.port (fun _ _ => hstore) (fun _ => rfl) Prog.gives_done

theorem stored_of_yields {u : Unit} (h : Journal.install.Yields E.oracle Prod.fst files v u) : E.ports .install = .returned () := by
  obtain ⟨w, w', -, h⟩ := h
  have h : ((raising .other (E.ports .install) : Code D Unit).play E.oracle files w) = ⟨.ok u, files, w'⟩ := h
  cases hanswer : E.ports .install with
  | raised message => rw [hanswer] at h; cases h
  | returned u => rfl

omit [DecidableEq D] in
theorem reconflict_raises (message : String) (e : Exc) : ∃ e', (match (.error e : Except Exc Unit) with
    | .ok () => return ()
    | .error (.conflict _) => .raise (.authority message)
    | .error e => .raise e : Code D Unit) = .raise e' := by
  cases e with
  | conflict m => exact ⟨_, rfl⟩
  | journal m => exact ⟨_, rfl⟩
  | authority m => exact ⟨_, rfl⟩
  | value m => exact ⟨_, rfl⟩
  | other m => exact ⟨_, rfl⟩

theorem recorded_of_play (hcheck : ∀ r, (check r).Does (Looking k.place)) (hw : w.1 = v)
    (h : (recordOrAdopt kind k r (Journal.readFile k malformed check) check).play E.oracle files w = ⟨.ok (), files', w'⟩) :
    w'.1 = v ∧ Recorded E v files k r check files' := by
  obtain ⟨_, w, hw, hown, h⟩ := played_bind Prog.Does.require hw h
  obtain ⟨found, w, hw, hfound, h⟩ := played_bind (watches_looking (Journal.looks_readFile (Nat.lt_succ_self _) hcheck)) hw h
  obtain ⟨rfl, hfile⟩ | ⟨old, rfl, hfile, hchecked, -⟩ := yields_readFile hcheck hfound
  · obtain ⟨⟨⟩, files₁, w₁, hrecord, h⟩ := Prog.play_caught (reconflict_raises _) h
    cases h
    obtain ⟨_, w, hw, hchecked, h⟩ := played_bind (watches_looking (hcheck r)) hw hrecord
    obtain ⟨_, w, hw, hstore, h⟩ := played_bind watches_install hw h
    rw [Prog.play_publish hfile] at h
    cases h
    exact ⟨hw, .inl hfile, hchecked, hown.require_inv, fun _ => stored_of_yields hstore, rfl⟩
  · obtain ⟨rfl, hsame, rfl⟩ := Prog.play_require_inv h
    rw [hsame]
    have hbound : files k ≠ .absent := by rw [hfile]; nofun
    exact ⟨hw, .inr hfile, hchecked, hown.require_inv, fun h => absurd h hbound, (Files.put_bound hfile).symm⟩

theorem passes_recordOrAdopt (hcheck : ∀ r, (check r).Does (Looking k.place)) (hw : w.1 = v)
    (h : (recordOrAdopt kind k r (Journal.readFile k malformed check) check).Passes E.oracle Prod.fst files w g v') :
    g = files ∧ v' = v := by
  obtain hsame | ⟨_, w, hw, -, h⟩ := Prog.Does.require.passes_bind idle_watching hw h
  · exact hsame
  have hlook : (Journal.readFile k malformed check).Does Watching :=
    watches_looking (Journal.looks_readFile (Nat.lt_succ_self _) hcheck)
  obtain hsame | ⟨found, w, hw, hfound, h⟩ := hlook.passes_bind idle_watching hw h
  · exact hsame
  obtain ⟨rfl, hfile⟩ | ⟨old, rfl, hfile, -⟩ := yields_readFile hcheck hfound
  · obtain h | ⟨result, files₁, w₁, -, h⟩ := Prog.meets_bind.mp h
    · have h : (Journal.record k r kind check).Passes E.oracle Prod.fst files w g v' := Prog.meets_attempt.mp h
      obtain hsame | ⟨_, w, hw, -, h⟩ := (watches_looking (hcheck r)).passes_bind idle_watching hw h
      · exact hsame
      obtain hsame | ⟨_, w, hw, -, h⟩ := watches_install.passes_bind idle_watching hw h
      · exact hsame
      obtain ⟨rfl, rfl⟩ | h := (Prog.meets_publish hfile).mp h
      · exact ⟨rfl, hw⟩
      · exact h.elim
    · cases result with
      | ok u => exact h.elim
      | error e =>
        cases e <;> exact h.elim
  · obtain ⟨rfl, rfl⟩ := Prog.Does.require.passes (S := Watching) idle_watching h
    exact ⟨rfl, hw⟩

theorem goes_recordOrAdopt (hfile : files k = .absent ∨ files k = .bound r) (hchecked : (check r).Gives E.oracle Prod.fst files v ())
    (hown : Rec.operationId k r = k.operationId) (hstore : files k = .absent → E.ports .install = .returned ()) :
    (recordOrAdopt kind k r (Journal.readFile k malformed check) check).Goes E.oracle Prod.fst files v () (files.put k (.bound r)) v := by
  refine (Prog.Gives.require hown).goes.bind ?_
  obtain hfile | hfile := hfile
  · refine (gives_readFile_none hfile).goes.bind ?_
    refine Prog.Goes.bind (x := .ok ()) (Prog.Goes.attempt ?_) Prog.gives_done.goes
    exact hchecked.goes.bind ((gives_install (hstore hfile)).goes.bind (Prog.Goes.publish hfile Prog.gives_done.goes))
  · rw [Files.put_bound hfile]
    exact ((gives_readFile_some hfile hchecked hown).bind (Prog.Gives.require rfl)).goes

end Record

/-! ## The four records -/

def Result.record (R : Result D) : (k : Key D) → Rec k
  | .intent _ => R.intent
  | .authorization _ => R.authorization
  | .attempt _ => R.attempt
  | .preparation _ => R.preparation

variable {C : Canon D} {A : Controller D} {x : Arguments D} {R : Result D}

/-- The check of each record's chain. -/
def chain (C : Canon D) (J : Journal.Config D) : (k : Key D) → Rec k → Code D Unit
  | .intent _ => Journal.requireCompositionIntent C
  | .authorization _ => Journal.requireIntent C J
  | .attempt _ => Journal.requireAttempt C J
  | .preparation _ => Journal.requirePreparation C J

theorem looks_chain {J : Journal.Config D} (k : Key D) (r : Rec k) : (chain C J k r).Does (Looking k.place) := by
  cases k with
  | intent operationId => exact Journal.looks_requireCompositionIntent r
  | authorization operationId => exact Journal.looks_requireIntent Nat.one_pos r
  | attempt operationId => exact Journal.looks_requireAttempt Nat.one_lt_two r
  | preparation operationId => exact (Journal.looks_requirePreparation Nat.one_lt_two r).mono fun _ => Looking.mono (Nat.le_succ 2)

def withRecords (files : Disc D) (R : Result D) (n : Nat) : Disc D :=
  fun k => if k.operationId = R.operationId ∧ k.place < n then .bound (R.record k) else files k

theorem withRecords_zero : withRecords files R 0 = files := by
  funext k
  exact if_neg fun h => Nat.not_lt_zero _ h.2

theorem withRecords_own (hk : k.operationId = R.operationId) (hn : k.place < n) :
    withRecords files R n k = .bound (R.record k) := if_pos ⟨hk, hn⟩

theorem withRecords_later (hn : n ≤ k.place) : withRecords files R n k = files k :=
  if_neg fun h => absurd h.2 (Nat.not_lt.mpr hn)

omit [DecidableEq D] in
theorem Key.eq_of {k' : Key D} (hid : k.operationId = k'.operationId) (hplace : k.place = k'.place) : k = k' := by
  cases k <;> cases k' <;> simp_all [Key.operationId, Key.place]

theorem withRecords_succ (hk : k.operationId = R.operationId) :
    (withRecords files R k.place).put k (.bound (R.record k)) = withRecords files R (k.place + 1) := by
  funext k'
  by_cases h : k' = k
  · subst h
    rw [Files.put_self, withRecords_own hk (Nat.lt_succ_self _)]
  · rw [Files.put_ne _ _ h]
    have hiff : (k'.operationId = R.operationId ∧ k'.place < k.place) ↔ (k'.operationId = R.operationId ∧ k'.place < k.place + 1) := by
      refine and_congr_right fun hid => ⟨fun hlt => Nat.lt_succ_of_lt hlt, fun hlt => ?_⟩
      exact (Nat.lt_succ_iff_lt_or_eq.mp hlt).resolve_right fun heq => h (Key.eq_of (hid.trans hk.symm) heq)
    simp only [withRecords, hiff]

theorem withRecords_withRecords (hk : k.place < n) :
    withRecords (withRecords files R m) R n k = withRecords files R n k := by
  unfold withRecords
  by_cases hid : k.operationId = R.operationId
  · simp only [hid, hk, and_self, if_true]
  · simp only [hid, false_and, if_false]

/-- A result whose records passed their checks, each with those before it durable, and
are not in the way of others. -/
structure Chained (C : Canon D) (A : Controller D) (E : Surroundings D) (v : Leases D) (files : Disc D) (R : Result D) : Prop where
  recorded : ∀ k : Key D, k.operationId = R.operationId → Recorded E v (withRecords files R k.place) k (R.record k)
    (chain C A.journal k) (withRecords files R (k.place + 1))

theorem Chained.file (h : Chained C A E v files R) (hk : k.operationId = R.operationId) :
    files k = .absent ∨ files k = .bound (R.record k) := by
  have hfile := (h.recorded k hk).file
  rwa [withRecords_later (Nat.le_refl _)] at hfile

theorem Chained.goes (h : Chained C A E v files R) (hports : E'.ports = E.ports) (hk : k.operationId = R.operationId)
    {kind malformed : String} :
    (recordOrAdopt kind k (R.record k) (Journal.readFile k malformed (chain C A.journal k)) (chain C A.journal k)).Goes E'.oracle
      Prod.fst (withRecords (withRecords files R m) R k.place) v () (withRecords (withRecords files R m) R (k.place + 1)) v := by
  have hrecorded := h.recorded k hk
  rw [← withRecords_succ hk]
  refine goes_recordOrAdopt ?_ ?_ hrecorded.own fun habsent => ?_
  · rw [withRecords_later (Nat.le_refl _)]
    by_cases hm : k.place < m
    · exact .inr (withRecords_own hk hm)
    · rw [withRecords_later (Nat.not_lt.mp hm)]
      exact h.file hk
  · exact gives_again (looks_chain k _) hports (fun _ => withRecords_withRecords) hrecorded.checked
  · rw [hports]
    refine hrecorded.store ?_
    rw [withRecords_later (Nat.le_refl _)] at habsent ⊢
    by_cases hm : k.place < m
    · rw [withRecords_own hk hm] at habsent; cases habsent
    · rwa [withRecords_later (Nat.not_lt.mp hm)] at habsent

end AvoCorrelate.RollbackAuthority
