import AvoCorrelate.MainRollback.Refusal
/-!
# A rollback that is run again

Each run observes the merge queue's configuration anew and records what it sees, with
the time it was seen, under the index that the first run made for good. The preparation
coordinator of a graduation goes on with the configuration that is on record.
-/
open AvoLib

namespace AvoCorrelate.MainRollback

open Graduation (QueueConfiguration)

section Rerunning
variable {D Pkg σ : Type} [DecidableEq D] {C : Canon D} {config : Config D} {a : Authority D} {rest : Coordinator.Rest D Pkg}
  {service : Service (Both (Graduation.Port.Answer (D := D)) (Port.Answer : Port D Pkg → Type)) σ} {O : Oracle service}
  {files : Files (Both (Graduation.Rec (D := D)) (Rec (D := D) Pkg))} {s : σ} {c c' : QueueConfiguration D} {source : Source D}

/-- What a run finds that gets as far as the evidence: the source is there, and the
configuration is what it was, seen later. The verifier agrees, the store takes it. -/
structure SeesAgain (O : Oracle service) (a : Authority D) (source : Source D) (c c' : QueueConfiguration D) : Prop where
  loads : ∀ s, O.answer s (.inr (.source a.intent.sourceOperationId)) = .returned (some source)
  sourced : source.operationId = a.intent.sourceOperationId
  observes : ∀ s, O.answer s (.inr (.observeQueueConfiguration a.operationId)) = .returned c'
  same : c' = { c with observedAt := c'.observedAt }
  later : c.observedAt < c'.observedAt
  verifies : ∀ s, O.answer s (.inr (.verifyQueueConfiguration c')) = .returned ()
  installs : ∀ s, O.answer s (.inr .install) = .returned ()

/-- The configuration that is on record is another one. -/
def queueConflict (C : Canon D) (operationId : D) : String :=
  "conflicting main graduation queue-configuration for " ++ C.text operationId

omit [DecidableEq D] in
theorem SeesAgain.ne (hO : SeesAgain O a source c c') : c ≠ c' := by
  intro h
  have hlater := hO.later
  rw [h] at hlater
  exact absurd hlater (Int.lt_irrefl _)

namespace Journal

theorem readCompletion_absent {operationId : D} (h : files (.inr (.completion operationId)) = .absent) :
    (readCompletion operationId : Code D Pkg (Option Pkg)).play O files s = ⟨.ok none, files, s⟩ := by
  have hmissing : (readFile (.completion operationId) : Code D Pkg (Found Pkg)).play O files s =
      ⟨.ok .missing, files, s⟩ := by
    simp only [readFile, Prog.play, h, File.content]
    rfl
  unfold readCompletion read
  exact (Prog.play_bind_ok hmissing).trans rfl

theorem index_conflict {kind : String} {operationId : D} {k : Key D} [DecidableEq (Rec Pkg k)] {v old : Rec Pkg k}
    (hk : files (.inr k) = .bound old) (hne : old ≠ v) :
    (index C kind operationId k v : Code D Pkg Unit).play O files s =
      ⟨.error (.stage (.conflict ("conflicting main graduation " ++ kind ++ " for " ++ C.text operationId))), files, s⟩ := by
  have htaken : (publishFile k v : Code D Pkg Published).play O files s = ⟨.ok .taken, files, s⟩ := by
    have hthere : files (.inr k) ≠ .absent := by
      rw [hk]
      exact fun h => nomatch h
    exact (Prog.play_taken (k := Sum.inr k) hthere).trans rfl
  have hfound : (readFile k : Code D Pkg (Found (Rec Pkg k))).play O files s = ⟨.ok (.found old), files, s⟩ := by
    simp only [readFile, Prog.play, hk, File.content]
    rfl
  unfold index
  rw [Prog.play_bind_ok htaken]
  dsimp only
  rw [Prog.play_bind_ok hfound]
  exact Prog.play_require_not hne

theorem recordQueueConfiguration_conflict (hdurable : files (.inr (.queueConfiguration c'.operationId)) = .bound c)
    (hinstall : ∀ s, O.answer s (.inr .install) = .returned ()) (hne : c ≠ c') :
    ∃ s', (recordQueueConfiguration C c' : Code D Pkg Unit).play O files s =
      ⟨.error (.stage (.conflict (queueConflict C c'.operationId))), files, s'⟩ := by
  have hstored : (ask .install orRaise : Code D Pkg Unit).play O files s = ⟨.ok (), files, O.next s (.inr .install)⟩ := by
    simp only [ask, Prog.play, hinstall, orRaise]
  refine ⟨O.next s (.inr .install), ?_⟩
  unfold recordQueueConfiguration
  rw [Prog.play_bind_ok hstored]
  exact index_conflict hdurable hne

end Journal

namespace Coordinator

theorem sourceOf_found (hO : SeesAgain O a source c c') :
    ∃ s', (sourceOf a : Code D Pkg (Source D)).play O files s = ⟨.ok source, files, s'⟩ := by
  have hloaded : (ask (.source a.intent.sourceOperationId) orRaise : Code D Pkg (Option (Source D))).play O files s =
      ⟨.ok (some source), files, O.next s (.inr (.source a.intent.sourceOperationId))⟩ := by
    simp only [ask, Prog.play, hO.loads, orRaise]
  refine ⟨O.next s (.inr (.source a.intent.sourceOperationId)), ?_⟩
  unfold sourceOf
  rw [Prog.play_bind_ok hloaded]
  exact (Prog.play_bind_ok rfl).trans ((Prog.play_bind_ok (Prog.play_require hO.sourced)).trans rfl)

theorem observeQueueConfiguration_conflict (hO : SeesAgain O a source c c')
    (hdurable : files (.inr (.queueConfiguration a.operationId)) = .bound c) (hkey : c.operationId = a.operationId) :
    ∃ s', (observeQueueConfiguration C a.operationId : Code D Pkg (QueueConfiguration D)).play O files s =
      ⟨.error (.stage (.conflict (queueConflict C a.operationId))), files, s'⟩ := by
  have hop : c'.operationId = a.operationId := (congrArg QueueConfiguration.operationId hO.same).trans hkey
  have hseen : (ask (.observeQueueConfiguration a.operationId) orRaise : Code D Pkg (QueueConfiguration D)).play O files s =
      ⟨.ok c', files, O.next s (.inr (.observeQueueConfiguration a.operationId))⟩ := by
    simp only [ask, Prog.play, hO.observes, orRaise]
  have hverified : ∀ s₁, (ask (.verifyQueueConfiguration c') orRaise : Code D Pkg Unit).play O files s₁ =
      ⟨.ok (), files, O.next s₁ (.inr (.verifyQueueConfiguration c'))⟩ := by
    intro s₁
    simp only [ask, Prog.play, hO.verifies, orRaise]
  rw [← hop] at hdurable
  obtain ⟨s', hrecord⟩ := Journal.recordQueueConfiguration_conflict (C := C)
    (s := O.next (O.next s (.inr (.observeQueueConfiguration a.operationId))) (.inr (.verifyQueueConfiguration c')))
    hdurable hO.installs hO.ne
  rw [show queueConflict C c'.operationId = queueConflict C a.operationId from congrArg _ hop] at hrecord
  refine ⟨s', ?_⟩
  unfold observeQueueConfiguration
  rw [Prog.play_bind_ok hseen, Prog.play_bind_ok (Prog.play_require hop), Prog.play_bind_ok (hverified _)]
  exact Prog.play_bind_error hrecord

theorem executeScoped_conflict (hO : SeesAgain O a source c c')
    (hdurable : files (.inr (.queueConfiguration a.operationId)) = .bound c) (hkey : c.operationId = a.operationId)
    (hnew : files (.inr (.completion a.operationId)) = .absent) :
    ∃ s', (executeScoped C config a rest).play O files s =
      ⟨.error (.stage (.conflict (queueConflict C a.operationId))), files, s'⟩ := by
  obtain ⟨s₁, hsource⟩ : ∃ s', (sourceOf a : Code D Pkg (Source D)).play O files s = ⟨.ok source, files, s'⟩ :=
    sourceOf_found hO
  obtain ⟨s', hqueue⟩ := observeQueueConfiguration_conflict (C := C) (s := s₁) hO hdurable hkey
  refine ⟨s', ?_⟩
  unfold executeScoped
  rw [Prog.play_bind_ok (Journal.readCompletion_absent hnew)]
  dsimp only
  unfold executeAuthority
  rw [Prog.play_bind_ok hsource]
  exact Prog.play_bind_error (Prog.play_bind_error hqueue)

/-- Whatever a run has left, once the configuration it saw is on record and no completion
is: the next run sees the configuration later, and is in conflict with the record. -/
theorem execute_again_conflicts (hO : SeesAgain O a source c c')
    (hdurable : files (.inr (.queueConfiguration a.operationId)) = .bound c) (hkey : c.operationId = a.operationId)
    (hnew : files (.inr (.completion a.operationId)) = .absent) :
    ((execute C config a rest).play O files s).outcome = .ok (.quarantined (queueConflict C a.operationId)) := by
  obtain ⟨s', hscoped⟩ : ∃ s', (executeScoped C config a rest).play O files s =
      ⟨.error (.stage (.conflict (queueConflict C a.operationId))), files, s'⟩ :=
    executeScoped_conflict hO hdurable hkey hnew
  unfold execute
  rw [Prog.play_bind_ok (Prog.play_attempt hscoped)]
  rfl

end Coordinator

end Rerunning

namespace Sample

open Graduation (Form)

def queueLater : QueueConfiguration Form := { queue with observedAt := 2 }

/-- The same provider a moment later. -/
def answersLater : (p : Port Form Unit) → p.Answer
  | .clock => .returned 2
  | .wallClock => 2
  | .observeQueueConfiguration _ => .returned queueLater
  | .observeProtection => .returned { protection with observedAt := 2 }
  | p => answers p

def later := (Graduation.steady stageAnswers).within answersLater

theorem sees_again : SeesAgain later authority ⟨.number 21, .number 29, .number 29⟩ queue queueLater where
  loads _ := rfl
  sourced := rfl
  observes _ := rfl
  same := rfl
  later := by decide
  verifies _ := rfl
  installs _ := rfl

abbrev run (_ : Unit) := Coordinator.execute Form.rollbackCanon configuration authority nothingMore

/-- A run crashes when the configuration that it saw is on record. -/
def interrupted := follow run (fun _ _ => true) [.start (), .steps world 0 7, .crash 0] (Served.idle records Graduation.Disk.empty)

/-- How the next run ends. -/
def reasonAgain : Option String :=
  interrupted.bind fun w => match ((run ()).play later w.config.files w.state).outcome with
    | .ok (.quarantined reason) => some reason
    | _ => none

end Sample

/-- The run that is not interrupted ends elsewhere. -/
theorem execute_again_conflicts_interrupted :
    (∃ w, Sample.interrupted = some w ∧
      Reaches (serve Graduation.disk.within Sample.run) (fun _ _ => True) (Served.idle Sample.records Graduation.Disk.empty) w) ∧
    Sample.reasonAgain = some "conflicting main graduation queue-configuration for sha256:" ∧ Sample.reasonAgain ≠ Sample.reason := by
  have hsome : Sample.interrupted.isSome = true := by decide
  obtain ⟨w, hw⟩ := Option.isSome_iff_exists.mp hsome
  exact ⟨⟨w, hw, (follow_reaches hw).mono fun _ _ _ => trivial⟩, by decide +kernel, by decide +kernel⟩

theorem execute_again_conflicts_sample :
    ∃ files : Files (Both (Graduation.Rec (D := Graduation.Form)) (Rec (D := Graduation.Form) Unit)),
      ((Sample.run ()).play Sample.later files Graduation.Disk.empty).outcome =
        .ok (.quarantined (queueConflict Graduation.Form.rollbackCanon Sample.authority.operationId)) :=
  ⟨Sample.records.put (.inr (.queueConfiguration Sample.authority.operationId)) (.bound Sample.queue),
    Coordinator.execute_again_conflicts Sample.sees_again (Files.put_self _ _ _) rfl rfl⟩

end AvoCorrelate.MainRollback
