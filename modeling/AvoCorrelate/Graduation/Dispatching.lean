import AvoCorrelate.Graduation.JournalLogic
import AvoCorrelate.Graduation.Faultless
/-!
# Stages at the provider

The marker of an intent is created once, and only the call that created it calls the
provider: over any run of executors, with crashes, there is one mutation call at most.
-/
open AvoLib

namespace AvoCorrelate.Graduation

variable {D : Type} [DecidableEq D]

/-- Executors at work on one disk. -/
abbrev Executors (D : Type) := Served (Call D) (Rec (D := D)) (Port.Answer (D := D)) Exc (Receipt D) (Disk D)

abbrev ExecutorThread (D : Type) := Thread (Call D) (Rec (D := D)) (Port.Answer (D := D)) Exc (Receipt D)

/-- The state is reached from these files, by executors in any order, with crashes and
I/O errors anywhere. -/
abbrev Runs (C : Canon D) (init : Disc D) (s : Disk D) (w : Executors D) : Prop :=
  Reaches (serve disk (program C)) (fun _ _ => True) (Served.idle init s) w

/-- The later state is reached from the earlier. -/
abbrev Later (C : Canon D) (w w' : Executors D) : Prop := Reaches (serve disk (program C)) (fun _ _ => True) w w'

/-- The event is the beginning of a mutation call for this intent. -/
def dispatchesOf (d : D) : Event (Rec (D := D)) (Port.Answer (D := D)) → Bool
  | .port (.dispatch d' _) _ => d' = d
  | _ => false

/-- How many mutation calls for this intent there were. -/
def dispatchCount (w : Executors D) (d : D) : Nat := (w.config.threads.map fun t => t.log.countP (dispatchesOf d)).sum

theorem dispatchesOf_iff {d : D} {e : Event (Rec (D := D)) (Port.Answer (D := D))} :
    dispatchesOf d e = true ↔ ∃ request a, e = .port (.dispatch d request) a := by
  constructor
  · intro h
    cases e with
    | read k r => cases h
    | publish k v r => cases h
    | port p a =>
      cases p with
      | dispatch d' request =>
        cases of_decide_eq_true h
        exact ⟨request, a, rfl⟩
      | _ => cases h
  · rintro ⟨request, a, rfl⟩
    exact decide_eq_true rfl

/-! ## What the calls know -/

section Known
variable {C : Canon D} {init : Disc D} {s : Disk D} {w w' : Executors D} {i : Nat} {t : ExecutorThread D} {d : D}

/-- The files are sound and every call obeyed its rules. -/
structure Known (C : Canon D) (init : Disc D) (w : Executors D) : Prop where
  sound : w.config.Sound init
  obeys : ∀ {i : Nat} {t : ExecutorThread D}, w.config.threads[i]? = some t →
    Along (rules C t.call w.config.files) t.log ∧
      t.status.Safe w.config.files (rules C t.call w.config.files) (Prog.Returning fun _ _ => True) t.log

theorem known_of_reaches {Pm : Executors D → Move (Call D) (Port.Answer (D := D)) → Prop}
    (h : Reaches (serve disk (program C)) Pm (Served.idle init s) w) : Known C init w := by
  obtain ⟨hsound, hlinked, hobeys⟩ := sound_ruled (G := fun call F => rules C call F)
    (Q := fun _ _ h x => Prog.Returning (fun _ _ => True) h x) (fun call F => program_safe call) h.config
  exact ⟨hsound, fun ht => hsound.obeys hlinked hobeys ht⟩

variable {request : StageRequest D} {a : Effect Unit}

omit [DecidableEq D] in
theorem Known.claimed (hk : Known C init w) (ht : w.config.threads[i]? = some t)
    (he : .port (.dispatch d request) a ∈ t.log) : ∃ h, h <:+ t.log ∧ Claimed C t.call w.config.files h d request := by
  obtain ⟨h, hs, hrule⟩ := (hk.obeys ht).1.rule he
  exact ⟨h, hs, hrule.1⟩

omit [DecidableEq D] in
theorem Known.owns (hk : Known C init w) (ht : w.config.threads[i]? = some t)
    (he : .port (.dispatch d request) a ∈ t.log) : t.Owns (.dispatchOwner d) := by
  obtain ⟨h, hs, ⟨_, _, _, _, _, m, hm, _⟩, _⟩ := hk.claimed ht he
  exact ⟨m, .inr (.inl (hs.mem hm))⟩

theorem Known.countP_le (hk : Known C init w) (ht : w.config.threads[i]? = some t) : t.log.countP (dispatchesOf d) ≤ 1 := by
  have hany : ∀ {e : Event (Rec (D := D)) (Port.Answer (D := D))}, dispatchesOf d e = true → dispatches e = true := by
    intro e he
    obtain ⟨request, a, rfl⟩ := dispatchesOf_iff.mp he
    rfl
  refine Nat.le_trans (List.countP_mono_left fun e _ he => hany he) ((hk.obeys ht).1.countP_le_one fun h e he hrule => ?_)
  cases e with
  | read k r => cases he
  | publish k v r => cases he
  | port p a =>
    cases p with
    | dispatch d' request => exact hrule.2
    | _ => cases he

theorem Known.dispatchCount_le (hk : Known C init w) (d : D) : dispatchCount w d ≤ 1 := by
  refine sum_le_one (fun t ht => ?_) fun {i j t u} ht hu hpt hpu => ?_
  · obtain ⟨i, hi⟩ := List.getElem?_of_mem ht
    exact hk.countP_le hi
  · obtain ⟨e, he, hd⟩ := List.countP_pos_iff.mp hpt
    obtain ⟨e', he', hd'⟩ := List.countP_pos_iff.mp hpu
    obtain ⟨request, a, rfl⟩ := dispatchesOf_iff.mp hd
    obtain ⟨request', a', rfl⟩ := dispatchesOf_iff.mp hd'
    exact hk.sound.exclusive ht hu (hk.owns ht he) (hk.owns hu he')

/-- The records behind a mutation call: the intent, and the marker that names what the
intent and the request name. -/
structure Backed (C : Canon D) (F : Disc D) (d : D) (request : StageRequest D) (i : Intent D) (m : DispatchOwner D) : Prop where
  intent : F (.intent d) = .bound i ∧ i.digest C = d
  marker : F (.dispatchOwner d) = .bound m ∧ m.intentDigest = d
  operation : m.operationId = i.operationId ∧ m.operationId = request.operationId
  stage : m.stage = i.stage ∧ m.stage = request.stage
  asked : m.requestDigest = i.requestDigest ∧ m.requestDigest = request.requestDigest
  external : m.externalIdentityDigest = i.externalIdentity.digest C ∧ m.externalIdentityDigest = request.externalIdentity
  lease : m.leaseIdentity = i.leaseIdentity ∧ m.leaseDigest = i.leaseDigest ∧ m.leaseEpochDigest = i.leaseEpochDigest ∧
    m.leaseEpochDigest = request.leaseEpochDigest

omit [DecidableEq D] in
theorem Claimed.backed {call : Call D} {F : Disc D} {h : Log D} (hc : Claimed C call F h d request) (hF : TrueOf F h) :
    ∃ i m, Backed C F d request i m := by
  obtain ⟨⟨_, i, _, hi, hsame, m, hm, hmd, howner⟩, _⟩ := hc
  obtain ⟨hop, hreq, hstage, _, hext, hlid, hld, hle⟩ := howner
  obtain ⟨hop', _, hstage', hle', hreq', hext'⟩ := hsame
  exact ⟨i, m, ⟨hi.durable, hi.digest⟩, ⟨hF _ hm, hmd⟩, ⟨hop, hop.trans hop'.symm⟩, ⟨hstage, hstage.trans hstage'.symm⟩,
    ⟨hreq, hreq.trans hreq'.symm⟩, ⟨hext, hext.trans hext'.symm⟩, hlid, hld, hle, hle.trans hle'.symm⟩

omit [DecidableEq D] in
theorem Known.backed (hk : Known C init w) (ht : w.config.threads[i]? = some t)
    {next : Effect Unit → Code D (Receipt D)} (hst : t.status = .running (.port (.dispatch d request) next)) :
    ∃ i m, Backed C w.config.files d request i m := by
  have hsafe := (hk.obeys ht).2
  rw [hst] at hsafe
  exact hsafe.1.1.backed (hk.sound.tells ht)

end Known

/-- Over any run there is at most one mutation call for an intent; it comes after the
durable intent and marker; the marker stays; and when the call that made it is over,
there is no further mutation call. -/
theorem dispatched_at_most_once {C : Canon D} {init : Disc D} {s : Disk D} {w : Executors D} (hw : Runs C init s w) (d : D) :
    dispatchCount w d ≤ 1 ∧
    (∀ (i : Nat) (t : ExecutorThread D) (request : StageRequest D) (next : Effect Unit → Code D (Receipt D)),
      w.config.threads[i]? = some t → t.status = .running (.port (.dispatch d request) next) →
      ∃ intent m, Backed C w.config.files d request intent m) ∧
    ∀ w', Later C w w' →
      (∀ m, w.config.files (.dispatchOwner d) = .bound m → w'.config.files (.dispatchOwner d) = .bound m) ∧
      (w.config.files (.dispatchOwner d) ≠ .absent →
        (∀ (i : Nat) (t : ExecutorThread D), w.config.threads[i]? = some t → t.Owns (.dispatchOwner d) → t.live = false) →
        ∀ (i : Nat) (t' : ExecutorThread D) (request : StageRequest D) (a : Effect Unit), w'.config.threads[i]? = some t' →
          .port (.dispatch d request) a ∈ t'.log →
          ∃ t, w.config.threads[i]? = some t ∧ .port (.dispatch d request) a ∈ t.log) := by
  have hk := known_of_reaches hw
  refine ⟨hk.dispatchCount_le d, fun i t request next ht hst => hk.backed ht hst, fun w' hlater => ⟨?_, ?_⟩⟩
  · exact fun m hm => hlater.config.grows hk.sound _ m hm
  · intro hthere hover i t' request a ht' he
    have hk' := known_of_reaches (hw.trans hlater)
    obtain ⟨t, ht, hown⟩ := hlater.config.owned hthere ht' (hk'.owns ht' he)
    obtain ⟨t₁, ht₁, _, hlog⟩ := hlater.config.stopped ht (Thread.not_stepped (hover i t ht hown))
    cases ht'.symm.trans ht₁
    exact ⟨t, ht, hlog ▸ he⟩

namespace Sample

/-- A request for the first intent. -/
def request : StageRequest Form :=
  ⟨target, operation, .candidatePublication, .number 3, .number 7, (identity .candidatePublication).digest Form.canon, none, []⟩

def executor : Executor Form := ⟨none, some "provider", some "1", none, fun _ => true, true⟩

/-- The first stage, executed on an empty disk. -/
def firstStage : Play (Rec (D := Form)) Exc (Receipt Form) (Disk Form) :=
  (program Form.canon (.execute executor (intent 1) request)).play (steady (others false 1)) (fun _ => .absent) Disk.empty

set_option maxRecDepth 8000 in
theorem firstStage_effects : firstStage.state.effects = [(intent 1).digest Form.canon] := by decide +kernel

end Sample

theorem dispatched_at_most_once_first :
    ∃ w : Executors Form, (Sample.intent 1).digest Form.canon ∈ w.state.effects ∧
      dispatchCount w ((Sample.intent 1).digest Form.canon) ≤ 1 := by
  obtain ⟨w, log, hreach, _, hs, _⟩ := exists_alone_run (steady (Sample.others false 1)) (program Form.canon)
    (.execute Sample.executor (Sample.intent 1) Sample.request) (fun _ => .absent) Disk.empty
  refine ⟨w, ?_, (dispatched_at_most_once (hreach.mono fun _ _ _ => trivial) _).1⟩
  have hstate : w.state = Sample.firstStage.state := hs
  rw [hstate, Sample.firstStage_effects]
  exact List.mem_singleton_self _

end AvoCorrelate.Graduation
