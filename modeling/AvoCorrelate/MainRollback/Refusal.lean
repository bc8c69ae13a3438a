import AvoCorrelate.MainRollback.Coordinator
import AvoCorrelate.MainRollback.Forms
import AvoCorrelate.Graduation.Faultless
/-!
# No rollback gets past its admission

The admission that the coordinator builds names the preparation by its
`authorization_digest`. The journal compares that with `canonical_digest` of the whole
preparation, which is another digest, and refuses the admission of every rollback. The
preparation coordinator of a graduation names the whole record.
-/
open AvoLib

namespace AvoCorrelate.MainRollback

open Graduation (MainBound Stage Intent LeaseRecord StageRequest ObservationRequest QueueConfiguration Protection PullRequest
  Check CheckState Admission Issuer Executor Answer)

section Refusing
variable {D Pkg σ : Type} [DecidableEq D] {C : Canon D} {config : Config D} {a : Authority D} {rest : Coordinator.Rest D Pkg}
  {service : Service (Both (Graduation.Port.Answer (D := D)) (Port.Answer : Port D Pkg → Type)) σ} {O : Oracle service}
  {files files' : Files (Both (Graduation.Rec (D := D)) (Rec (D := D) Pkg))} {s s' : σ}

namespace Journal

theorem readPreparation_inv {p : Preparation D} {operationId : D} {found : Option (Preparation D)}
    (hp : files (.inr (.preparation operationId)) = .bound p)
    (h : (readPreparation operationId : Code D Pkg (Option (Preparation D))).play O files s = ⟨.ok found, files', s'⟩) :
    found = some p := by
  unfold readPreparation read at h
  obtain ⟨r, files₁, s₁, hr, h⟩ := Prog.play_bind_inv h
  simp only [readFile, Prog.play, hp, File.content] at hr
  cases hr
  obtain ⟨_, _, _, _, h⟩ := Prog.play_bind_inv h
  cases h
  rfl

theorem recordQueueAdmission_refused {p : Preparation D} {admission : Admission D} {x : Unit}
    (hp : files (.inr (.preparation admission.operationId)) = .bound p)
    (hne : admission.preparationAuthorizationDigest ≠ p.digest C) :
    (recordQueueAdmission C admission : Code D Pkg Unit).play O files s ≠ ⟨.ok x, files', s'⟩ := by
  intro h
  unfold recordQueueAdmission at h
  obtain ⟨_, files₁, s₁, hp, h⟩ := Prog.play_bind_bound hp h
  obtain ⟨_, files₂, s₂, h, -⟩ := Prog.play_bind_inv h
  unfold requireQueueAdmission at h
  obtain ⟨_, files₃, s₃, hp, h⟩ := Prog.play_bind_bound hp h
  unfold requireRollbackQueueAdmission at h
  obtain ⟨queue, files₄, s₄, hp, h⟩ := Prog.play_bind_bound hp h
  obtain ⟨protection, files₅, s₅, hp, h⟩ := Prog.play_bind_bound hp h
  obtain ⟨preparation, files₆, s₆, hread, h⟩ := Prog.play_bind_inv h
  cases readPreparation_inv hp hread
  obtain ⟨auth, files₇, s₇, -, h⟩ := Prog.play_bind_inv h
  cases queue with
  | none => cases h
  | some queue =>
    cases protection with
    | none => cases h
    | some protection =>
      cases auth with
      | none => cases h
      | some auth =>
        obtain ⟨_, files₈, s₈, -, h⟩ := Prog.play_bind_inv h
        obtain ⟨_, files₉, s₉, h, -⟩ := Prog.play_bind_inv h
        exact hne (Prog.play_require_inv h).1.1

end Journal

namespace Coordinator

variable {queue : QueueConfiguration D} {protection : Protection D} {pr : PullRequest D}

theorem admission_inv {value : Admission D}
    (h : (admission C config a queue protection pr : Code D Pkg (Admission D)).play O files s = ⟨.ok value, files', s'⟩) :
    ∃ check, value = admissionOf C a queue protection pr check := by
  unfold admission at h
  obtain ⟨cutoff, _, _, -, h⟩ := Prog.play_bind_inv h
  obtain ⟨check, _, _, -, h⟩ := Prog.play_bind_inv h
  obtain ⟨_, _, _, -, h⟩ := Prog.play_bind_inv h
  obtain ⟨_, _, _, -, h⟩ := Prog.play_bind_inv h
  obtain ⟨cutoff', _, _, -, h⟩ := Prog.play_bind_inv h
  refine ⟨check, ?_⟩
  unfold attestAdmission ask at h
  simp only [Prog.play] at h
  iterate 9 obtain ⟨_, _, _, -, h⟩ := Prog.play_bind_inv h
  cases h
  rfl

variable {p : Preparation D} {package : Pkg}

theorem checkAdmission_not_completed {parent : Parent D} (hp : files (.inr (.preparation a.operationId)) = .bound p) :
    (checkAdmission C config a queue protection pr parent rest).play O files s ≠ ⟨.ok (.completed package), files', s'⟩ := by
  intro h
  unfold checkAdmission at h
  obtain ⟨_, files₁, s₁, hp, h⟩ := Prog.play_bind_bound hp h
  obtain ⟨⟨i, effective⟩, files₂, s₂, hp, h⟩ := Prog.play_bind_bound hp h
  dsimp only at h
  split at h
  · obtain ⟨value, files₃, s₃, hvalue, h⟩ := Prog.play_bind_inv h
    obtain ⟨check, rfl⟩ := admission_inv hvalue
    have hgrows : Grows files₂ files₃ := by
      have hplay : Grows files₂ ((admission C config a queue protection pr : Code D Pkg (Admission D)).play O files₂ s₂).files :=
        Prog.play_grows
      rw [hvalue] at hplay
      exact hplay
    obtain ⟨_, files₄, s₄, hrecord, -⟩ := Prog.play_bind_inv h
    exact Journal.recordQueueAdmission_refused (hgrows _ _ hp) (Preparation.digest_ne C _ _) hrecord
  · cases h

theorem prepareCandidate_not_completed (hp : files (.inr (.preparation a.operationId)) = .bound p) :
    (prepareCandidate C config a queue protection rest).play O files s ≠ ⟨.ok (.completed package), files', s'⟩ := by
  intro h
  unfold prepareCandidate at h
  obtain ⟨_, files₁, s₁, hp, h⟩ := Prog.play_bind_bound hp h
  obtain ⟨⟨i, effective⟩, files₂, s₂, hp, h⟩ := Prog.play_bind_bound hp h
  dsimp only at h
  split at h
  · obtain ⟨_, files₃, s₃, hp, h⟩ := Prog.play_bind_bound hp h
    obtain ⟨⟨i', effective'⟩, files₄, s₄, hp, h⟩ := Prog.play_bind_bound hp h
    dsimp only at h
    split at h
    · obtain ⟨pr, files₅, s₅, hp, h⟩ := Prog.play_bind_bound hp h
      exact checkAdmission_not_completed hp h
    · cases h
  · cases h

/-- A rollback with a preparation on record and no completion package never completes,
whatever the provider answers and whatever would follow the admission. -/
theorem execute_never_completes (hp : files (.inr (.preparation a.operationId)) = .bound a.preparation)
    (hnew : ∀ package, files (.inr (.completion a.operationId)) ≠ .bound package) (package : Pkg) :
    ((execute C config a rest).play O files s).outcome ≠ .ok (.completed package) := by
  intro hok
  obtain ⟨files', s', h⟩ : ∃ files' s', (execute C config a rest).play O files s = ⟨.ok (.completed package), files', s'⟩ := by
    cases hplay : (execute C config a rest).play O files s with
    | mk outcome files' s' =>
      rw [hplay] at hok
      cases hok
      exact ⟨files', s', rfl⟩
  unfold execute at h
  obtain ⟨outcome, files₁, s₁, hattempt, h⟩ := Prog.play_bind_inv h
  cases outcome with
  | error e =>
    simp only at h
    split at h <;> cases h
  | ok result =>
    cases h
    cases hscoped : (executeScoped C config a rest).play O files s with
    | mk outcome files₂ s₂ =>
      have hcaught : ((executeScoped C config a rest).attempt : Code D Pkg _).play O files s = ⟨.ok outcome, files₂, s₂⟩ :=
        Prog.play_attempt hscoped
      cases hcaught.symm.trans hattempt
      unfold executeScoped at hscoped
      obtain ⟨existing, files₃, s₃, hread, hscoped⟩ := Prog.play_bind_inv hscoped
      unfold Journal.readCompletion Journal.read at hread
      obtain ⟨found, files₄, s₄, hfound, hread⟩ := Prog.play_bind_inv hread
      simp only [readFile, Prog.play] at hfound
      cases hfile : files (.inr (.completion a.operationId)) with
      | bound package' => exact hnew package' hfile
      | torn =>
        rw [hfile] at hfound
        cases hfound
        cases hread
      | absent =>
        rw [hfile] at hfound
        cases hfound
        cases hread
        unfold executeAuthority at hscoped
        obtain ⟨source, files₅, s₅, hp, hscoped⟩ := Prog.play_bind_bound hp hscoped
        obtain ⟨⟨queue, protection⟩, files₆, s₆, hp, hscoped⟩ := Prog.play_bind_bound hp hscoped
        exact prepareCandidate_not_completed hp hscoped

end Coordinator

end Refusing

namespace Sample

open Graduation (Form)

/-- A prepared rollback of the operation. -/
def authority : Authority Form where
  operationId := Graduation.Sample.operation
  lease := Graduation.Sample.lease
  composition := ⟨"c", "t", "b", "u"⟩
  authorization := ⟨.number 9, .number 4, .number 5, ⟨"issuer", 7, .number 20⟩, 100⟩
  intent := ⟨Graduation.Sample.target, .number 21, .number 22, "refs/heads/avo/main-rollback/"⟩
  preparation := ⟨Graduation.Sample.target, Graduation.Sample.operation, .number 23, .number 24, .number 9, .number 8, .number 22,
    .number 25, "b", "u", "c", "t", "refs/heads/avo/main-rollback/", "", .number 2, .number 3, .number 4, 0⟩

def queue : QueueConfiguration Form :=
  ⟨Graduation.Sample.target, Graduation.Sample.operation, .number 26, "b", "u", .number 27, .number 28, "provider", "v1",
    ⟨"issuer", 7, .number 20⟩, 1⟩

def protection : Protection Form :=
  ⟨Graduation.Sample.target, Graduation.Sample.operation, .number 27, "provider", "v1", ⟨"issuer", 7, .number 20⟩, .number 28, 1⟩

def pullRequest : PullRequest Form :=
  ⟨.number 0, 1, "https://host/pull/1", "refs/heads/main", "b", "u", "refs/heads/avo/main-rollback/", "c", "t", "open", false⟩

def check : Check :=
  ⟨"avo-main-release", 7, "c", .success, admissionRunId Form.rollbackCanon authority pullRequest,
    admissionNonce Form.rollbackCanon authority pullRequest, 1⟩

/-- A provider that answers exactly what was asked for, and a controller that agrees. -/
def answers : (p : Port Form Unit) → p.Answer
  | .clock => .returned 1
  | .wallClock => 1
  | .install => .returned ()
  | .requirePreparationChain _ => .returned ()
  | .requireRollbackIntent _ => .returned ()
  | .verifyRollbackChildren _ => .returned ()
  | .graduates _ => false
  | .source _ => .returned (some ⟨.number 21, .number 29, .number 29⟩)
  | .observeQueueConfiguration _ => .returned queue
  | .observeProtection => .returned protection
  | .verifyQueueConfiguration _ => .returned ()
  | .verifyProtection _ => .returned ()
  | .pullRequestNumber _ => .returned (some 1)
  | .observePullRequest _ => .returned pullRequest
  | .observeAdmissionCheck _ _ => .returned check
  | .observationRequest _ => .raised "no stage is recovered"

/-- The journal's own records of the rollback, as the stages are checked against them. -/
def stageAnswers : (p : Graduation.Port Form) → p.Answer
  | .rollbackPreparation _ => .returned (some ⟨Graduation.Sample.target, authority.preparation.authorizationDigest Form.rollbackCanon,
    .number 8, .number 9, .number 22, .number 25, "refs/heads/avo/main-rollback/", "c", "t", "", .number 2, .number 3, .number 4⟩)
  | .rollbackAuthorization _ => .returned (some ⟨.number 9, .number 4, .number 5, 100⟩)
  | .rollbackIntent _ => .returned (some ⟨Graduation.Sample.target, .number 8, .number 9, "refs/heads/avo/main-rollback/", "c", "t", 0⟩)
  | p => Graduation.Sample.others true 1 p

def world := (Graduation.steady stageAnswers).within answers

def records : Files (Both (Graduation.Rec (D := Form)) (Rec (D := Form) Unit))
  | .inl _ => .absent
  | .inr (.preparation _) => .bound authority.preparation
  | .inr (.authorization _) => .bound authority.authorization
  | .inr _ => .absent

def configuration : Config Form where
  executor := ⟨none, some "provider", some "v1", none, fun _ => true, true⟩
  repositoryDigest := .number 0
  releaseIssuer := ⟨"issuer", 7, .number 20⟩

/-- Nothing is done after the admission. -/
def nothingMore : Coordinator.Rest Form Unit := fun _ _ _ _ _ => .done (.completed ())

theorem uncompleted (package : Unit) : records (.inr (.completion authority.operationId)) ≠ .bound package := by
  intro h
  cases h

/-- How the rollback ends. -/
def reason : Option String :=
  match ((Coordinator.execute Form.rollbackCanon configuration authority nothingMore).play world records Graduation.Disk.empty).outcome with
  | .ok (.quarantined reason) => some reason
  | _ => none

end Sample

/-- With a provider that answers exactly and truthfully, all stages applied, and a clock
that stands inside the lease, the journal refuses the admission. -/
theorem execute_refused_sample : Sample.reason = some "rollback admission package/queue binding differs" := by
  decide +kernel

theorem execute_never_completes_sample :
    ((Coordinator.execute Graduation.Form.rollbackCanon Sample.configuration Sample.authority Sample.nothingMore).play Sample.world
      Sample.records Graduation.Disk.empty).outcome ≠ .ok (.completed ()) :=
  Coordinator.execute_never_completes rfl Sample.uncompleted ()

end AvoCorrelate.MainRollback
