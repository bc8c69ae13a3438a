import AvoCorrelate.Graduation.Branches
/-!
# One branch for one operation

Two looks exclude each other (`Raised.exclusive`): a rollback misses the plan after
it found its authorization, so when a graduation misses that authorization at a time
when its plan is there, only one of them gets on. A graduation that looks before its
plan is there does not see what the rollback sees, and both prepare.
-/
open AvoLib

namespace AvoCorrelate.Graduation.Branches

variable {D : Type} [DecidableEq D]

abbrev Log (D : Type) := List (Event (Rec (D := D)) (Port.Answer (D := D)))

abbrev World (D : Type) := Config (Call D) (Rec (D := D)) (Port.Answer (D := D)) Exc (Option Branch)

abbrev CallThread (D : Type) := Thread (Call D) (Rec (D := D)) (Port.Answer (D := D)) Exc (Option Branch)

/-! ## What the checks see -/

/-- Anything but publishing. -/
def Looking : Action (Rec (D := D)) (Port D) → Prop
  | .publish _ _ => False
  | _ => True

abbrev looks : Rules (Rec (D := D)) (Port.Answer (D := D)) := fun _ a => Looking a

section Looks
variable {F : Files (Rec (D := D))} {h : Log D} {policyEpoch : Option D} {α : Type}

omit [DecidableEq D] in
theorem looks_of_does {p : Code D α} (hd : p.Does Looking) : p.Safe F looks (Prog.Returning fun _ _ => True) h :=
  (hd.safe fun _ _ _ ha => ha).mono fun _ x _ => by cases x <;> trivial

omit [DecidableEq D] in
theorem check_looks (p : Port D) : (check p).Does Looking := by
  refine ⟨trivial, fun r => ?_⟩
  cases r <;> trivial

variable {k : Key D} {recheck : Rec k → Code D Unit} {Named : Rec k → Prop}

omit [DecidableEq D] in
theorem readWith_looks [DecidablePred Named] (hr : ∀ v, (recheck v).Does Looking) :
    (readWith k recheck Named).Does Looking := by
  refine ⟨trivial, fun found => ?_⟩
  cases found with
  | missing => trivial
  | malformed => trivial
  | found v => exact (hr v).bind fun _ => Prog.Does.require_bind fun _ => trivial

omit [DecidableEq D] in
theorem present_looks (k : Key D) : (present k).Does Looking := by
  refine ⟨trivial, fun found => ?_⟩
  cases found <;> trivial

theorem readIntent_looks (op : D) : (readIntent op).Does Looking := readWith_looks fun _ => check_looks _

theorem readLease_looks (op : D) : (readLease op).Does Looking := readWith_looks fun _ => check_looks _

theorem readRollbackIntent_looks (op : D) : (readRollbackIntent op).Does Looking := readWith_looks fun _ => check_looks _

theorem requireRollbackIntent_looks (a : RollbackAuthorization D) : (requireRollbackIntent a).Does Looking := by
  refine (readRollbackIntent_looks _).bind fun _ => ?_
  refine Prog.Does.ofOption_bind fun _ => ?_
  refine (readLease_looks _).bind fun _ => ?_
  exact Prog.Does.ofOption_bind fun _ => check_looks _

theorem readRollbackAuthorization_looks (op : D) : (readRollbackAuthorization op).Does Looking :=
  readWith_looks requireRollbackIntent_looks

omit [DecidableEq D] in
theorem readWith_sees [DecidablePred Named] {Q : Log D → Rec k → Prop}
    (hr : ∀ v, (recheck v).Safe F looks (Prog.Returning fun h' _ => Q h' v) (.read k (.found v) :: h)) :
    (readWith k recheck Named).Safe F looks (Prog.Returning fun h' x =>
      (x = none → h' = .read k .missing :: h) ∧ ∀ v, x = some v → .read k (.found v) :: h <:+ h' ∧ Named v ∧ Q h' v) h := by
  refine ⟨trivial, fun found _ => ?_⟩
  cases found with
  | missing => exact ⟨fun _ => rfl, fun v hv => (nomatch hv)⟩
  | malformed => trivial
  | found v =>
    refine (hr v).seq fun h₁ _ hs hq => ?_
    refine Prog.Safe.require_bind (fun hn => ?_) trivial
    refine ⟨fun hx => (nomatch hx), fun v' hv => ?_⟩
    cases hv
    exact ⟨hs, hn, hq⟩

theorem readRollbackAuthorization_sees (op : D) :
    (readRollbackAuthorization op).Safe F looks (Prog.Returning fun h' x =>
      (x = none → h' = .read (.rollbackAuthorization op) .missing :: h) ∧
      ∀ a, x = some a → .read (.rollbackAuthorization op) (.found a) :: h <:+ h' ∧ a.operationId = op ∧ True) h :=
  readWith_sees fun a => looks_of_does (requireRollbackIntent_looks a)

omit [DecidableEq D] in
theorem eitherPresent_sees (k k' : Key D) :
    (eitherPresent k k').Safe F looks (Prog.Returning fun h' x => x = false → .read k .missing :: h <:+ h') h := by
  refine ⟨trivial, fun found _ => ?_⟩
  cases found with
  | missing =>
    refine (Prog.Safe.suffix (looks_of_does (present_looks k'))).mono fun h' x hx => ?_
    cases x with
    | ok => exact fun _ => hx.1
    | error => trivial
  | malformed => exact fun hx => (nomatch hx)
  | found v => exact fun hx => (nomatch hx)

theorem requireRollbackPreparationChain_sees (p : RollbackPreparation D) :
    (requireRollbackPreparationChain policyEpoch p).Safe F looks (Prog.Returning fun h' _ =>
      ∃ h₀ a, .read (.plan p.operationId) .missing :: h₀ <:+ h' ∧ h <:+ h₀ ∧
        .read (.rollbackAuthorization p.operationId) (.found a) ∈ h₀) h := by
  refine (readRollbackAuthorization_sees p.operationId).seq fun h₁ authPrior hs₁ hauth => ?_
  refine (looks_of_does (readRollbackIntent_looks _)).seq fun h₂ intentPrior hs₂ _ => ?_
  refine (looks_of_does (readLease_looks _)).seq fun h₃ leasePrior hs₃ _ => ?_
  refine Prog.Safe.ofOption_bind (fun auth ha => ?_) trivial
  refine Prog.Safe.ofOption_bind (fun intent _ => ?_) trivial
  refine Prog.Safe.ofOption_bind (fun lease _ => ?_) trivial
  refine (eitherPresent_sees _ _).seq fun h₄ mixed hs₄ hmissed => ?_
  refine Prog.Safe.require_bind (fun hm => ?_) trivial
  have hfound : .read (.rollbackAuthorization p.operationId) (.found auth) ∈ h₃ :=
    (hs₂.trans hs₃).mem ((hauth.2 auth ha).1.mem List.mem_cons_self)
  refine (looks_of_does (requireRollbackIntent_looks auth)).seq fun h₅ _ hs₅ _ => ?_
  refine Prog.Safe.require_bind (fun _ => ?_) trivial
  refine Prog.Safe.require_bind (fun _ => ?_) trivial
  unfold Prog.require
  split
  · exact ⟨h₃, auth, (hmissed hm).trans hs₅, hs₁.trans (hs₂.trans hs₃), hfound⟩
  · trivial

theorem requireRollbackPreparationChain_looks (p : RollbackPreparation D) :
    (requireRollbackPreparationChain policyEpoch p).Does Looking := by
  refine (readRollbackAuthorization_looks _).bind fun _ => ?_
  refine (readRollbackIntent_looks _).bind fun _ => ?_
  refine (readLease_looks _).bind fun _ => ?_
  refine Prog.Does.ofOption_bind fun auth => ?_
  refine Prog.Does.ofOption_bind fun _ => ?_
  refine Prog.Does.ofOption_bind fun _ => ?_
  refine Prog.Does.bind ?_ fun _ => ?_
  · refine (present_looks _).bind fun first => ?_
    split
    · trivial
    · exact present_looks _
  · refine Prog.Does.require_bind fun _ => ?_
    refine (requireRollbackIntent_looks auth).bind fun _ => ?_
    refine Prog.Does.require_bind fun _ => ?_
    exact Prog.Does.require_bind fun _ => Prog.Does.require

theorem readRollbackPreparation_looks (op : D) : (readRollbackPreparation policyEpoch op).Does Looking :=
  readWith_looks requireRollbackPreparationChain_looks

theorem readRollbackPreparation_sees (op : D) :
    (readRollbackPreparation policyEpoch op).Safe F looks (Prog.Returning fun h' x =>
      (x = none → h' = .read (.rollbackPreparation op) .missing :: h) ∧
      ∀ p, x = some p → .read (.rollbackPreparation op) (.found p) :: h <:+ h' ∧ p.operationId = op ∧
        Missed (.plan p.operationId) (.rollbackPreparation op) h') h := by
  refine readWith_sees fun p => (requireRollbackPreparationChain_sees p).mono fun h' x hx => ?_
  cases x with
  | error => trivial
  | ok =>
    obtain ⟨h₀, _, hmissed, hs, _⟩ := hx
    exact ⟨h₀, p, hmissed, hs.mem List.mem_cons_self⟩

theorem requireNoRollback_sees (op : D) :
    (requireNoRollback policyEpoch op).Safe F looks (Prog.Returning fun h' _ =>
      .read (.rollbackAuthorization op) .missing ∈ h') h := by
  refine (readRollbackAuthorization_sees op).seq fun h₁ auth _ hauth => ?_
  refine Prog.Safe.require_bind (fun hnone => ?_) trivial
  refine (looks_of_does (readRollbackIntent_looks _)).seq fun h₂ _ hs₂ _ => ?_
  refine Prog.Safe.require_bind (fun _ => ?_) trivial
  refine (looks_of_does (readRollbackPreparation_looks _)).seq fun h₃ _ hs₃ _ => ?_
  unfold Prog.require
  split
  · refine (hs₂.trans hs₃).mem ?_
    rw [hauth.1 hnone]
    exact List.mem_cons_self
  · trivial

theorem requirePreparationChain_sees (p : Authorization D) :
    (requirePreparationChain policyEpoch p).Safe F looks (Prog.Returning fun h' _ =>
      .read (.rollbackAuthorization p.operationId) .missing ∈ h' ∧ ∃ plan, .read (.plan p.operationId) (.found plan) ∈ h') h := by
  refine (requireNoRollback_sees p.operationId).seq fun h₁ _ _ hmissed => ?_
  refine Prog.Safe.seq (readWith_sees (Q := fun _ _ => True) fun _ => looks_of_does (check_looks _)) fun h₂ planPrior hs₂ hplan => ?_
  refine (looks_of_does (readIntent_looks _)).seq fun h₃ _ hs₃ _ => ?_
  refine Prog.Safe.ofOption_bind (fun plan hp => ?_) trivial
  refine Prog.Safe.ofOption_bind (fun intent _ => ?_) trivial
  refine (looks_of_does (readLease_looks _)).seq fun h₄ lease hs₄ _ => ?_
  refine Prog.Safe.require_bind (fun _ => ?_) trivial
  refine Prog.Safe.require_bind (fun _ => ?_) trivial
  unfold Prog.require
  split
  · refine ⟨(hs₂.trans (hs₃.trans hs₄)).mem hmissed, plan, (hs₃.trans hs₄).mem ?_⟩
    exact (hplan.2 plan hp).1.mem List.mem_cons_self
  · trivial

theorem readPreparation_sees (op : D) :
    (readPreparation policyEpoch op).Safe F looks (Prog.Returning fun h' x =>
      ∀ p, x = some p → ∃ plan, .read (.plan op) (.found plan) ∈ h') h := by
  refine (readWith_sees (Q := fun h' p => ∃ plan, .read (.plan p.operationId) (.found plan) ∈ h') fun p => ?_).mono
    fun h' x hx => ?_
  · refine (requirePreparationChain_sees p).mono fun h' x hx => ?_
    cases x with
    | ok => exact hx.2
    | error => trivial
  · cases x with
    | ok x =>
      intro p hp
      obtain ⟨_, hop, hplan⟩ := hx.2 p hp
      rwa [hop] at hplan
    | error => trivial

theorem branchOf_sees (op : D) :
    (branchOf policyEpoch op).Safe F looks (Prog.Returning fun h' branch =>
      match branch with
      | .graduation => Missed (.rollbackPreparation op) (.plan op) h'
      | .rollback => Missed (.plan op) (.rollbackPreparation op) h') h := by
  refine (readPreparation_sees op).seq fun h₁ prep _ hprep => ?_
  refine (readRollbackPreparation_sees op).seq fun h₂ rollbackPrep hs₂ hrollback => ?_
  refine (looks_of_does (readRollbackAuthorization_looks op)).seq fun h₃ rollbackAuth hs₃ _ => ?_
  split
  · split
    · next hsome =>
      simp only [Bool.and_eq_true] at hsome
      obtain ⟨p, rfl⟩ := Option.isSome_iff_exists.mp hsome.1.1
      obtain ⟨_, rfl, hmissed⟩ := hrollback.2 p rfl
      exact hmissed.suffix hs₃
    · trivial
  · next hnone =>
    refine Prog.Safe.require_bind (fun hsome => ?_) trivial
    obtain ⟨p, rfl⟩ := Option.isSome_iff_exists.mp hsome
    obtain ⟨plan, hplan⟩ := hprep p rfl
    have hmissing : rollbackPrep = none := by
      cases rollbackPrep with
      | none => rfl
      | some _ => simp at hnone
    refine ⟨h₁, plan, ?_, hplan⟩
    rw [← hrollback.1 hmissing]
    exact hs₃

end Looks

/-! ## The rules of a call -/

/-- What a call saw before it publishes the authorization of its branch. -/
def rules (call : Call D) : Rules (Rec (D := D)) (Port.Answer (D := D)) := fun h a =>
  match a with
  | .publish (.preparation op) p =>
    (∃ policyEpoch, call = .preparation policyEpoch p) ∧ p.operationId = op ∧ .read (.rollbackAuthorization op) .missing ∈ h
  | .publish (.rollbackPreparation op) _ => Missed (.plan op) (.rollbackAuthorization op) h
  | _ => True

def Accepted (h : Log D) : Call D → Option Branch → Prop
  | .accept _ op, some .graduation => Missed (.rollbackPreparation op) (.plan op) h
  | .accept _ op, some .rollback => Missed (.plan op) (.rollbackPreparation op) h
  | _, _ => True

section Rules
variable {F : Files (Rec (D := D))} {h : Log D} {call : Call D}

omit [DecidableEq D] in
theorem rules_looking (h : Log D) (a : Action (Rec (D := D)) (Port D)) (ha : Looking a) : rules call h a := by
  cases a with
  | read k => trivial
  | publish k v => exact ha.elim
  | port p => trivial

theorem publish_safe {k : Key D} {v : Rec k} (hk : ∀ h', h <:+ h' → rules call h' (.publish k v)) :
    (publish k v).Safe F (rules call) (Prog.Returning fun _ _ => True) h := by
  refine Prog.Safe.seq (((looks_of_does (check_looks _)).weaken fun h' _ => rules_looking h')) fun h₁ _ hs _ => ?_
  refine ⟨hk h₁ hs, fun r _ => ?_⟩
  cases r with
  | created => trivial
  | failed => trivial
  | lost => trivial
  | taken =>
    refine ⟨trivial, fun found _ => ?_⟩
    cases found with
    | missing => trivial
    | malformed => trivial
    | found old => exact (looks_of_does Prog.Does.require).weaken fun h' _ => rules_looking h'

omit [DecidableEq D] in
theorem recording_safe {p : Code D Unit} (hp : p.Safe F (rules call) (Prog.Returning fun _ _ => True) h) :
    (recording p).Safe F (rules call) (Prog.Returning fun h' x => Accepted h' call x) h := by
  refine hp.seq fun h' _ _ _ => ?_
  cases call <;> trivial

theorem plain_safe {k : Key D} {v : Rec k} {p : Code D Unit} (hp : p.Does Looking)
    (hk : ∀ h : Log D, rules call h (.publish k v)) :
    (p >>= fun _ => publish k v).Safe F (rules call) (Prog.Returning fun _ _ => True) h :=
  ((looks_of_does hp).weaken fun h' _ => rules_looking h').seq fun _ _ _ _ => publish_safe fun h' _ => hk h'

theorem program_safe (call : Call D) :
    (program call).Safe F (rules call) (Prog.Returning fun h' x => Accepted h' call x) [] := by
  have hl : ∀ h' : Log D, [] <:+ h' → ∀ a, Looking a → rules call h' a := fun h' _ => rules_looking h'
  cases call with
  | plan p =>
    refine recording_safe ?_
    refine ((looks_of_does (check_looks _)).weaken hl).seq fun h₁ _ _ _ => ?_
    refine ((looks_of_does (present_looks _)).weaken fun h' _ => rules_looking h').seq fun h₂ indexed _ _ => ?_
    split
    · exact publish_safe fun _ _ => trivial
    · exact plain_safe (check_looks _) fun _ => trivial
  | intent i => exact recording_safe (plain_safe (check_looks _) fun _ => trivial)
  | lease l =>
    refine recording_safe ?_
    refine ((looks_of_does (check_looks _)).weaken hl).seq fun h₁ _ _ _ => ?_
    exact plain_safe (check_looks _) fun _ => trivial
  | preparation policyEpoch p =>
    refine recording_safe (((requirePreparationChain_sees p).weaken hl).seq fun h₁ _ _ hsaw => ?_)
    exact publish_safe fun h' hs => ⟨⟨policyEpoch, rfl⟩, rfl, hs.mem hsaw.1⟩
  | rollbackIntent i => exact recording_safe (plain_safe (check_looks _) fun _ => trivial)
  | rollbackAuthorization a => exact recording_safe (plain_safe (requireRollbackIntent_looks a) fun _ => trivial)
  | rollbackPreparation policyEpoch p =>
    refine recording_safe (((requireRollbackPreparationChain_sees p).weaken hl).seq fun h₁ _ _ hsaw => ?_)
    obtain ⟨h₀, a, hmissed, _, hfound⟩ := hsaw
    exact publish_safe fun h' hs => ⟨h₀, a, hmissed.trans hs, hfound⟩
  | accept policyEpoch op =>
    refine ((branchOf_sees op).weaken hl).seq fun h₁ branch _ hsaw => ?_
    cases branch <;> exact hsaw

end Rules

/-! ## Over every run -/

/-- Whenever the recording of a graduation's preparation looks for a rollback
authorization, the plan of its operation is there. -/
def LooksInTime (w : World D) (m : Move (Call D) (Port.Answer (D := D))) : Prop :=
  ∀ (i : Nat) n (t : CallThread D) policyEpoch p next, m = .step i n → w.threads[i]? = some t →
    t.call = .preparation policyEpoch p → t.status = .running (.read (.rollbackAuthorization p.operationId) next) →
    w.files (.plan p.operationId) ≠ .absent

/-- The call records a graduation's preparation of the operation, and missed the
rollback authorization. -/
def PreparesWithout (op : D) (t : CallThread D) : Prop :=
  (∃ policyEpoch p, t.call = .preparation policyEpoch p ∧ p.operationId = op) ∧ .read (.rollbackAuthorization op) .missing ∈ t.log

theorem raised_prepares {init : Files (Rec (D := D))} (op : D) :
    Raised program LooksInTime init (.rollbackAuthorization op) (.plan op) (PreparesWithout op) := by
  rintro c c' m i t' hc hp he ht' ⟨⟨policyEpoch, p, hcall, hop⟩, hm⟩
  rcases perform_log he ht' with hnil | ⟨t, ht, hsame, hlog | ⟨n, e, rfl, hs, hlog⟩⟩
  · rw [hnil] at hm
    cases hm
  · rw [hlog] at hm
    exact .inl ⟨t, ht, ⟨policyEpoch, p, hsame.symm.trans hcall, hop⟩, hm⟩
  · rw [hlog] at hm
    rcases List.mem_cons.mp hm with rfl | hm
    · obtain ⟨habsent, _, next, hstatus⟩ := hs.read_missing hlog
      subst hop
      exact .inr ⟨habsent, hp i n t policyEpoch p next rfl ht (hsame.symm.trans hcall) hstatus⟩
    · exact .inl ⟨t, ht, ⟨policyEpoch, p, hsame.symm.trans hcall, hop⟩, hm⟩

/-- In a run in which every look for a rollback comes after the plan, no operation has
the preparation of both branches, and none has intents accepted under both. -/
theorem authority_never_mixes {w : World D}
    (hw : Reaches (perform program) LooksInTime (Config.idle fun _ => .absent) w) (op : D) :
    (¬ ∃ p p', w.files (.preparation op) = .bound p ∧ w.files (.rollbackPreparation op) = .bound p') ∧
    ¬ ∃ (i j : Nat) (policyEpoch policyEpoch' : Option D) (log log' : Log D),
      w.threads[i]? = some ⟨.accept policyEpoch op, .running (.done (some .graduation)), log⟩ ∧
      w.threads[j]? = some ⟨.accept policyEpoch' op, .running (.done (some .rollback)), log'⟩ := by
  obtain ⟨hsound, hlinked, hobeys⟩ := sound_ruled (G := fun call _ => rules call)
    (Q := fun call _ h x => Prog.Returning (fun h' x => Accepted h' call x) h x) (fun call F => program_safe call) hw
  constructor
  · rintro ⟨p, p', hp, hp'⟩
    refine Raised.exclusive (raised_prepares op) raised_missed hw ⟨?_, ?_⟩
    · rcases hsound.published hlinked hobeys hp with habsent | ⟨i, t, ht, h', hs, ⟨policyEpoch, hcall⟩, hop, hm⟩
      · cases habsent
      · exact ⟨i, t, ht, ⟨policyEpoch, p, hcall, hop⟩, hs.mem hm⟩
    · rcases hsound.published hlinked hobeys hp' with habsent | ⟨i, t, ht, h', hs, hm⟩
      · cases habsent
      · exact ⟨i, t, ht, hm.suffix hs⟩
  · rintro ⟨i, j, policyEpoch, policyEpoch', log, log', hi, hj⟩
    have hx := (hsound.obeys hlinked hobeys hi).2
    have hy := (hsound.obeys hlinked hobeys hj).2
    exact Raised.exclusive raised_missed raised_missed hw ⟨⟨i, _, hi, hx⟩, ⟨j, _, hj, hy⟩⟩

/-! ## A look that comes too early -/

namespace Sample

def target : MainBound Nat := ⟨0, ⟨"refs/heads/main", rfl⟩⟩

def candidateRef : String := "refs/heads/avo/candidate/0000000000000000000000000000000000000000000000000000000000000000"

def rollbackRef : String := "refs/heads/avo/main-rollback/0000000000000000000000000000000000000000000000000000000000000000"

def composition : Composition Nat := ⟨2, "", "", "", "", candidateRef⟩

def lease : Lease Nat := ⟨1, "", 3, 4, 5, 100⟩

def plan : Plan Nat := ⟨target, 1, 6, 7, composition, 5⟩

def intent : GraduationIntent Nat := ⟨target, 1, 8, 6, 7, composition, "", 3, 4, 5, 10⟩

def preparation : Authorization Nat := ⟨target, 1, 6, 8, 7, 2, "", "", "", "", "", 3, 5, 20⟩

def rollbackIntent : RollbackIntent Nat := ⟨target, 1, 9, 10, 11, 12, 13, "", "", "", "", rollbackRef, "", 3, 4, 10⟩

def rollbackAuthorization : RollbackAuthorization Nat := ⟨target, 1, 14, "", 3, 4, 5, 10, 50⟩

def rollbackPreparation : RollbackPreparation Nat :=
  ⟨target, 1, 9, 14, 10, 11, 12, 13, "", "", "", "", rollbackRef, "", 3, 4, 5, 20⟩

/-- Steps of one call, in which every check passes. -/
def steps (i n : Nat) : List (Move (Call Nat) (Port.Answer (D := Nat))) :=
  List.replicate n (.step i (.calm fun _ => .returned ()))

def after (moves : List (Move (Call Nat) (Port.Answer (D := Nat)))) : World Nat :=
  result (perform program) (Config.idle fun _ => .absent) moves

theorem after_passes {p : World Nat → Move (Call Nat) (Port.Answer (D := Nat)) → Bool} {test : World Nat → Bool}
    {moves : List (Move (Call Nat) (Port.Answer (D := Nat)))}
    (h : concludes (perform program) p test (Config.idle fun _ => .absent) moves = true) : test (after moves) = true :=
  (allowed_of_concludes h).2

/-- The graduation looks for a rollback; the rollback is recorded, then the plan. -/
def race : List (Move (Call Nat) (Port.Answer (D := Nat))) :=
  .start (.preparation none preparation) :: steps 0 3 ++ (.start (.lease lease) :: steps 1 5) ++
    (.start (.rollbackIntent rollbackIntent) :: steps 2 4) ++
    (.start (.rollbackAuthorization rollbackAuthorization) :: steps 3 8) ++
    (.start (.rollbackPreparation none rollbackPreparation) :: steps 4 20) ++ (.start (.plan plan) :: steps 5 6) ++
    (.start (.intent intent) :: steps 6 4) ++ steps 0 9

/-- The plan first, then the look. -/
def ordered : List (Move (Call Nat) (Port.Answer (D := Nat))) :=
  .start (.lease lease) :: steps 0 5 ++ (.start (.plan plan) :: steps 1 6) ++ (.start (.intent intent) :: steps 2 4) ++
    (.start (.preparation none preparation) :: steps 3 12)

/-- The move is not a step of the fourth call, or the plan is there. -/
def planned (w : World Nat) : Move (Call Nat) (Port.Answer (D := Nat)) → Bool
  | .step i _ =>
    match w.threads[i]?.map Thread.call with
    | some (.preparation _ p) => decide (w.files (.plan p.operationId) ≠ .absent)
    | _ => true
  | _ => true

theorem looksInTime_of_planned {w : World Nat} {m : Move (Call Nat) (Port.Answer (D := Nat))} (h : planned w m = true) :
    LooksInTime w m := by
  rintro i n t policyEpoch p next rfl ht hcall _
  simp only [planned, ht, Option.map_some, hcall, decide_eq_true_eq] at h
  exact h

set_option maxRecDepth 8000 in
/-- Both runs, evaluated together. -/
theorem race_ordered_conclude :
    concludes (perform program) (fun _ _ => true)
        (fun w => w.files (.preparation 1) = .bound preparation && w.files (.rollbackPreparation 1) = .bound rollbackPreparation)
        (Config.idle fun _ => .absent) race = true ∧
      concludes (perform program) planned (fun w => w.files (.preparation 1) = .bound preparation)
        (Config.idle fun _ => .absent) ordered = true := by
  decide +kernel

theorem race_mixed : (after race).files (.preparation 1) = .bound preparation ∧
    (after race).files (.rollbackPreparation 1) = .bound rollbackPreparation := by
  have htest := after_passes race_ordered_conclude.1
  simp only [Bool.and_eq_true, decide_eq_true_eq] at htest
  exact htest

theorem ordered_prepared : (after ordered).files (.preparation 1) = .bound preparation := by
  have htest := after_passes race_ordered_conclude.2
  simp only [decide_eq_true_eq] at htest
  exact htest

end Sample

theorem authority_never_mixes_ordered :
    (Sample.after Sample.ordered).files (.preparation 1) = .bound Sample.preparation ∧
      ¬ ∃ p', (Sample.after Sample.ordered).files (.rollbackPreparation 1) = .bound p' := by
  have hw : Reaches (perform program) LooksInTime (Config.idle fun _ => .absent) (Sample.after Sample.ordered) :=
    (reaches_result (allowed_of_concludes Sample.race_ordered_conclude.2).1).mono fun _ _ h => Sample.looksInTime_of_planned h
  refine ⟨Sample.ordered_prepared, fun ⟨p', hp'⟩ => (authority_never_mixes hw 1).1 ⟨_, p', Sample.ordered_prepared, hp'⟩⟩

/-- Both branches prepare one operation. -/
theorem preparations_mixed :
    ¬ ∀ (w : World Nat) (op : Nat), Reaches (perform program) (fun _ _ => True) (Config.idle fun _ => .absent) w →
      (¬ ∃ p p', w.files (.preparation op) = .bound p ∧ w.files (.rollbackPreparation op) = .bound p') ∧
      ¬ ∃ (i j : Nat) (policyEpoch policyEpoch' : Option Nat) (log log' : Log Nat),
        w.threads[i]? = some ⟨.accept policyEpoch op, .running (.done (some .graduation)), log⟩ ∧
        w.threads[j]? = some ⟨.accept policyEpoch' op, .running (.done (some .rollback)), log'⟩ := by
  intro hall
  have hw : Reaches (perform program) (fun _ _ => True) (Config.idle fun _ => .absent) (Sample.after Sample.race) :=
    (reaches_result (allowed_of_concludes Sample.race_ordered_conclude.1).1).mono fun _ _ _ => trivial
  exact (hall _ 1 hw).1 ⟨_, _, Sample.race_mixed⟩

end AvoCorrelate.Graduation.Branches
