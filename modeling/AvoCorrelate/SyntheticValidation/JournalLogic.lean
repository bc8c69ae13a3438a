import AvoCorrelate.SyntheticValidation.Service
import AvoCorrelate.Lib.Told
/-!
# What a trigger knows when it acts

Most actions of a trigger look: they read the journal or the ref. The rules say what
the log of a call holds when it installs a claim, creates the ref, or records an
outcome.
-/
open AvoLib

namespace AvoCorrelate.SyntheticValidation

variable {D : Type} {C : Canon D}

abbrev Log (C : Canon D) := List (Event (Content C) (Port.Answer (C := C)))

/-- Reading, and storing content that nothing names yet. -/
def Looks : Action (Content C) (Port C) → Prop
  | .read _ => True
  | .port .put => True
  | .port (.load _ _) => True
  | .port (.loadClaim _) => True
  | .port (.readRef _ _) => True
  | _ => False

/-- The event is a call of the provider to create a ref. -/
def creates : Event (Content C) (Port.Answer (C := C)) → Bool
  | .port (.createRef _ _ _) _ => true
  | _ => false

def claims : Event (Content C) (Port.Answer (C := C)) → Bool
  | .port (.makeClaim _) _ => true
  | _ => false

/-- The call found the plan in the journal or recorded it. -/
def Kept (plan : Plan C) (h : Log C) : Prop :=
  .port (.load .plan plan.operationId) (.found plan) ∈ h ∨ .port (.link .plan plan) .created ∈ h

/-- The call made the claim directory, and recorded the authorization there and in its index. -/
def Authorized (plan : Plan C) (h : Log C) : Prop :=
  .port (.makeClaim plan.operationId) .made ∈ h ∧ .port (.installClaim plan.binding) .installed ∈ h ∧
    .publish (.authorization plan.operationId) plan.binding .created ∈ h

/-- The call read the ref, right after it had found no authorization record, before it
claimed anything. -/
def Unauthorized (plan : Plan C) (r : RefAnswer) (h : Log C) : Prop :=
  ∃ h₀, (.port (.readRef plan.request.targetRepositoryDigest plan.validationRef) r ::
    .port (.loadClaim plan.operationId) .missing :: h₀) <:+ h ∧ ∀ e ∈ h₀, claims e = false

/-- What an outcome rests on: an exact ref, one nobody was authorized to create, or a
wrong one. -/
def Grounded (plan : Plan C) (o : Outcome C) (h : Log C) : Prop :=
  o.toBinding = plan.binding ∧
  ((o.outcome.success ∧ ∃ r commit tree, .port (.readRef plan.request.targetRepositoryDigest plan.validationRef) r ∈ h ∧
      plan.refState r = .exact commit tree) ∨
    (o.outcome = .quarantined ∧ ∃ r commit tree, Unauthorized plan r h ∧ plan.refState r = .exact commit tree) ∨
    (o.outcome = .invalid ∧ ∃ r commit tree, .port (.readRef plan.request.targetRepositoryDigest plan.validationRef) r ∈ h ∧
      plan.refState r = .wrong commit tree))

def rules (plan : Plan C) (h : Log C) : Action (Content C) (Port C) → Prop
  | .port (.link .plan p) => p = plan
  | .port (.link .attempt a) => a.toBinding = plan.binding
  | .port (.link .outcome o) => Kept plan h ∧ Grounded plan o h
  | .port (.makeClaim operationId) => operationId = plan.operationId
  | .port (.installClaim a) => a = plan.binding ∧ Kept plan h ∧ .port (.makeClaim plan.operationId) .made ∈ h
  | .port (.createRef repositoryDigest ref commit) =>
    (repositoryDigest = plan.request.targetRepositoryDigest ∧ ref = plan.validationRef ∧ commit = plan.expectedCommit) ∧
      Kept plan h ∧ Authorized plan h ∧ ∀ e ∈ h, creates e = false
  | _ => True

section Monotone
variable {plan : Plan C} {o : Outcome C} {h h' : Log C}

theorem Kept.suffix (hk : Kept plan h) (hs : h <:+ h') : Kept plan h' := by
  rcases hk with hk | hk
  · exact .inl (hs.mem hk)
  · exact .inr (hs.mem hk)

theorem Authorized.suffix (ha : Authorized plan h) (hs : h <:+ h') : Authorized plan h' :=
  ⟨hs.mem ha.1, hs.mem ha.2.1, hs.mem ha.2.2⟩

theorem Grounded.suffix (hg : Grounded plan o h) (hs : h <:+ h') : Grounded plan o h' := by
  refine ⟨hg.1, ?_⟩
  rcases hg.2 with ⟨hk, r, commit, tree, hr, hx⟩ | ⟨hk, r, commit, tree, ⟨h₀, hu, hc⟩, hx⟩ | ⟨hk, r, commit, tree, hr, hx⟩
  · exact .inl ⟨hk, r, commit, tree, hs.mem hr, hx⟩
  · exact .inr (.inl ⟨hk, r, commit, tree, ⟨h₀, hu.trans hs, hc⟩, hx⟩)
  · exact .inr (.inr ⟨hk, r, commit, tree, hs.mem hr, hx⟩)

theorem rules_of_looks {a : Action (Content C) (Port C)} (ha : Looks a) : rules plan h a := by
  cases a with
  | read k => trivial
  | publish k v => trivial
  | port p => cases p <;> trivial

theorem permits_looks : Permits (rules plan) Looks h := fun _ _ _ ha => rules_of_looks ha

end Monotone

variable [DecidableEq D] {plan : Plan C} {α : Type}

/-! ## The journal -/

namespace Journal

theorem looks_read {k : Kind} {operationId : D} : (read k operationId : Code C _).Does Looks := by
  refine ⟨trivial, fun r => ?_⟩
  cases r with
  | missing => trivial
  | malformed => trivial
  | found v => exact Prog.Does.require.bind fun _ => trivial

omit [DecidableEq D] in
theorem looks_put : (put : Code C Unit).Does Looks := by
  refine ⟨trivial, fun r => ?_⟩
  cases r <;> trivial

variable {F : Files (Content C)} {h : Log C}

theorem read_safe {k : Kind} {operationId : D} :
    (read k operationId : Code C _).Safe F (rules plan)
      (Prog.Returning fun h' r => ∀ v, r = some v → .port (.load k operationId) (.found v) ∈ h') h := by
  refine ⟨rules_of_looks trivial, fun r => ?_⟩
  cases r with
  | missing => exact fun v hv => nomatch hv
  | malformed => trivial
  | found v =>
    refine Prog.Safe.require_bind (fun _ => ?_) trivial
    rintro u ⟨⟩
    exact List.mem_cons_self

theorem record_safe {k : Kind} {r : Rec C k} (hr : ∀ h', h <:+ h' → rules plan h' (.port (.link k r))) :
    (record k r).Safe F (rules plan) (Prog.Returning fun h' _ =>
      .port (.load k (Rec.operationId r)) (.found r) ∈ h' ∨ .port (.link k r) .created ∈ h') h := by
  refine (looks_put.safe permits_looks).suffix.bind (fun h₁ _ hs => ?_) fun _ _ _ => trivial
  refine ⟨hr h₁ hs.1, fun linked => ?_⟩
  cases linked with
  | created => exact .inr List.mem_cons_self
  | failed => trivial
  | lost => trivial
  | taken =>
    refine ⟨rules_of_looks trivial, fun found => ?_⟩
    cases found with
    | missing => trivial
    | malformed => trivial
    | found old =>
      change Prog.Safe F (rules plan) _ _ (if old = r then .done () else .raise _)
      split
      · next heq =>
        subst heq
        exact .inl List.mem_cons_self
      · trivial

theorem claimCreateAuthorization_safe (hk : Kept plan h) :
    (claimCreateAuthorization plan.binding).Safe F (rules plan)
      (Prog.Returning fun h' won => won = true → Authorized plan h') h := by
  refine ⟨rfl, fun making => ?_⟩
  cases making with
  | failed => trivial
  | existed =>
    refine ⟨rules_of_looks trivial, fun found => ?_⟩
    cases found with
    | missing => exact fun hw => nomatch hw
    | malformed => trivial
    | found existing => exact Prog.Safe.require_bind (fun _ hw => nomatch hw) trivial
  | made =>
    refine ⟨⟨rfl, hk.suffix (List.suffix_cons _ _), List.mem_cons_self⟩, fun installing => ?_⟩
    cases installing with
    | unsynced => trivial
    | failed => trivial
    | installed =>
      have hindex : (recordAuthorizationAfterClaim plan.binding).Safe F (rules plan)
          (Prog.Returning fun h' _ => .publish (.authorization plan.operationId) plan.binding .created ∈ h')
          (.port (.installClaim plan.binding) .installed :: .port (.makeClaim plan.operationId) .made :: h) := by
        refine (looks_put.safe permits_looks).bind (fun h₁ _ _ => ⟨trivial, fun r _ => ?_⟩) fun _ _ _ => trivial
        cases r with
        | created => exact List.mem_cons_self
        | taken => trivial
        | failed => trivial
        | lost => trivial
      refine hindex.suffix.bind (fun h₁ _ hs _ => ?_) fun _ _ _ => trivial
      exact ⟨hs.1.mem (List.mem_cons_of_mem _ List.mem_cons_self), hs.1.mem List.mem_cons_self, hs.2⟩

end Journal

/-! ## The service -/

namespace Service

variable {F : Files (Content C)} {h : Log C}

variable {kind : OutcomeKind} {commit tree error : Option String}

omit [DecidableEq D] in
theorem looks_outcome : (outcome plan kind commit tree error).Does Looks := by
  unfold outcome
  split <;> trivial

omit [DecidableEq D] in
theorem outcome_safe : (outcome plan kind commit tree error).Safe F (rules plan)
      (Prog.Returning fun h' o => h' = h ∧ o.toBinding = plan.binding ∧ o.outcome = kind) h := by
  unfold outcome
  split
  · exact ⟨rfl, rfl, rfl⟩
  · trivial

theorem save_safe {o : Outcome C} (hk : Kept plan h) (hg : Grounded plan o h) :
    (save o).Safe F (rules plan) (fun _ _ => True) h := by
  have hrule : ∀ h', h <:+ h' → rules plan h' (.port (.link .outcome o)) := fun h' hs => ⟨hk.suffix hs, hg.suffix hs⟩
  refine (Journal.record_safe hrule).attempt_bind fun h₁ x _ => ?_
  cases x with
  | ok u => trivial
  | error e =>
    refine (Journal.looks_read.safe permits_looks).bind (fun h₂ found _ => ?_) fun _ _ _ => trivial
    cases found with
    | none => trivial
    | some durable => exact Prog.Safe.require_bind (fun _ => trivial) trivial

theorem uncertain_safe {kind : AttemptKind} : (uncertain plan kind).Safe F (rules plan) (fun _ _ => True) h := by
  have hrule : ∀ h', h <:+ h' → rules plan h' (.port (.link .attempt ⟨plan.binding, kind⟩)) := fun h' _ => rfl
  exact (Journal.record_safe hrule).bind (fun h₁ _ _ => looks_outcome.safe permits_looks) fun _ _ _ => trivial

theorem report_safe {commit tree : String} (hk : Kept plan h)
    (hg : ∀ o : Outcome C, o.toBinding = plan.binding → o.outcome = kind → Grounded plan o h) :
    (report plan kind commit tree error).Safe F (rules plan) (fun _ _ => True) h := by
  refine outcome_safe.bind (fun h₁ o ho => ?_) fun _ _ _ => trivial
  obtain ⟨rfl, hb, ho⟩ := ho
  exact save_safe hk (hg o hb ho)

theorem settle_safe {error : String} (hk : Kept plan h) (hkind : kind.success) :
    (settle plan kind error).Safe F (rules plan) (fun _ _ => True) h := by
  refine ⟨rules_of_looks trivial, fun r => ?_⟩
  dsimp only [Prog.bind]
  split
  · next commit tree hstate =>
    refine report_safe (hk.suffix (List.suffix_cons _ _)) fun o hb ho => ⟨hb, .inl ⟨by rw [ho]; exact hkind, r, commit, tree, ?_, hstate⟩⟩
    exact List.mem_cons_self
  · next commit tree hstate =>
    refine report_safe (hk.suffix (List.suffix_cons _ _)) fun o hb ho => ⟨hb, .inr (.inr ⟨ho, r, commit, tree, ?_, hstate⟩)⟩
    exact List.mem_cons_self
  · exact uncertain_safe

theorem create_safe (hk : Kept plan h) (hn : ∀ e ∈ h, creates e = false) :
    (create plan).Safe F (rules plan) (fun _ _ => True) h := by
  have hclaims : (Journal.claimCreateAuthorization plan.binding).Does
      (fun a => ∀ repositoryDigest ref commit, a ≠ .port (.createRef repositoryDigest ref commit)) := by
    have hput : (Journal.put : Code C Unit).Does
        (fun a => ∀ repositoryDigest ref commit, a ≠ .port (.createRef repositoryDigest ref commit)) :=
      Journal.looks_put.mono fun a ha _ _ _ he => by subst he; exact ha
    refine ⟨fun _ _ _ he => (nomatch he), fun making => ?_⟩
    cases making with
    | failed => trivial
    | existed =>
      refine ⟨fun _ _ _ he => (nomatch he), fun found => ?_⟩
      cases found with
      | missing => trivial
      | malformed => trivial
      | found existing => exact Prog.Does.require.bind fun _ => trivial
    | made =>
      refine ⟨fun _ _ _ he => (nomatch he), fun installing => ?_⟩
      cases installing with
      | unsynced => trivial
      | failed => trivial
      | installed =>
        refine Prog.Does.bind (hput.bind fun _ => ⟨fun _ _ _ he => (nomatch he), fun r => ?_⟩) fun _ => trivial
        cases r <;> trivial
  have hkeep := ((Journal.claimCreateAuthorization_safe (F := F) hk).keeps hclaims
    (I := fun h' => ∀ e ∈ h', creates e = false) (fun h' e hi he => ?_) hn).suffix
  · refine hkeep.bind (fun h₁ won hw => ?_) fun _ _ _ => trivial
    obtain ⟨hs, hnone, hauth⟩ := hw
    cases won with
    | false => exact settle_safe (hk.suffix hs) rfl
    | true =>
      refine ⟨⟨⟨rfl, rfl, rfl⟩, hk.suffix hs, hauth rfl, hnone⟩, fun r => ?_⟩
      have hk' := (hk.suffix hs).suffix (List.suffix_cons
        (.port (.createRef plan.request.targetRepositoryDigest plan.validationRef plan.expectedCommit) r) h₁)
      change Prog.Safe F (rules plan) _ _ (if r.returned then _ else _)
      split
      · exact settle_safe hk' rfl
      · exact settle_safe hk' rfl
  · refine List.forall_mem_cons.mpr ⟨?_, hi⟩
    cases e with
    | read k r => rfl
    | publish k v r => rfl
    | port p r =>
      cases p with
      | createRef repositoryDigest ref commit => exact absurd rfl (he repositoryDigest ref commit)
      | _ => rfl

/-- Nothing was claimed yet, and nothing created. -/
def Fresh (h : Log C) : Prop := ∀ e ∈ h, creates e = false ∧ claims e = false

/-- Looking and linking. -/
def Records (a : Action (Content C) (Port C)) : Prop := Looks a ∨ ∃ k r, a = .port (.link k r)

omit [DecidableEq D] in
theorem Fresh.cons {e : Event (Content C) (Port.Answer (C := C))} (hf : Fresh h) (he : Records e.action) : Fresh (e :: h) := by
  refine List.forall_mem_cons.mpr ⟨?_, hf⟩
  cases e with
  | read k r => exact ⟨rfl, rfl⟩
  | publish k v r => exact ⟨rfl, rfl⟩
  | port p r =>
    rcases he with he | ⟨k, record, he⟩
    · cases p <;> first | exact ⟨rfl, rfl⟩ | cases he
    · cases he
      exact ⟨rfl, rfl⟩

omit [DecidableEq D] in
theorem records_of_looks {p : Code C α} (hp : p.Does Looks) : p.Does Records := hp.mono fun _ => .inl

theorem records_record {k : Kind} {r : Rec C k} : (Journal.record k r).Does Records := by
  refine (records_of_looks Journal.looks_put).bind fun _ => ⟨.inr ⟨k, r, rfl⟩, fun linked => ?_⟩
  cases linked with
  | created => trivial
  | failed => trivial
  | lost => trivial
  | taken =>
    refine ⟨.inl trivial, fun found => ?_⟩
    cases found with
    | missing => trivial
    | malformed => trivial
    | found old => exact Prog.Does.require

theorem readCreateAuthorization_safe {operationId : D} (hf : Fresh h) :
    (Journal.readCreateAuthorization operationId : Code C _).Safe F (rules plan)
      (Prog.Returning fun h' r => Fresh h' ∧
        (r = none → ∃ h₀, h' = .port (.loadClaim operationId) .missing :: h₀ ∧ Fresh h₀)) h := by
  refine ⟨trivial, fun r _ => ?_⟩
  have hf₁ : Fresh (.read (.authorization operationId) r :: h) := hf.cons (.inl trivial)
  cases r with
  | malformed => trivial
  | found v => exact Prog.Safe.require_bind (fun _ => ⟨hf₁, fun hr => nomatch hr⟩) trivial
  | missing =>
    refine ⟨trivial, fun r => ?_⟩
    cases r with
    | missing => exact ⟨hf₁.cons (.inl trivial), fun _ => ⟨_, rfl, hf₁⟩⟩
    | malformed => trivial
    | found v => exact Prog.Safe.require_bind (fun _ => ⟨hf₁.cons (.inl trivial), fun hr => nomatch hr⟩) trivial

theorem reconcile_safe (hk : Kept plan h) (hf : Fresh h) : (reconcile plan).Safe F (rules plan) (fun _ _ => True) h := by
  unfold reconcile
  have hprior : (Journal.read .attempt plan.operationId : Code C _).Safe F (rules plan)
      (fun h' _ => Kept plan h' ∧ Fresh h') h := by
    refine ((Journal.looks_read.safe permits_looks).keeps (records_of_looks Journal.looks_read)
      (fun h' e hi he => hi.cons he) hf).suffix.mono fun h' _ hx => ⟨hk.suffix hx.1, hx.2.1⟩
  refine hprior.bind (fun h₁ prior hx => ?_) fun _ _ _ => trivial
  refine Prog.Safe.require_bind (fun _ => ?_) trivial
  refine (readCreateAuthorization_safe hx.2).suffix.bind (fun h₂ authorization hy => ?_) fun _ _ _ => trivial
  obtain ⟨hs, hf₂, hnone⟩ := hy
  refine Prog.Safe.require_bind (fun _ => ?_) trivial
  have hk₂ := hx.1.suffix hs
  refine ⟨rules_of_looks trivial, fun r => ?_⟩
  have hs₃ := List.suffix_cons (.port (.readRef plan.request.targetRepositoryDigest plan.validationRef) r) h₂
  have hk₃ := hk₂.suffix hs₃
  have hf₃ : Fresh (.port (.readRef plan.request.targetRepositoryDigest plan.validationRef) r :: h₂) := hf₂.cons (.inl trivial)
  dsimp only [Prog.bind]
  split
  · exact uncertain_safe
  · next commit tree hstate =>
    split
    · next ha =>
      obtain ⟨h₀, rfl, hf₀⟩ := hnone (Option.isNone_iff_eq_none.mp ha)
      refine report_safe hk₃ fun o hb ho => ⟨hb, .inr (.inl ⟨ho, r, commit, tree, ?_, hstate⟩)⟩
      exact ⟨h₀, List.suffix_refl _, fun e he => (hf₀ e he).2⟩
    · refine report_safe hk₃ fun o hb ho => ⟨hb, .inl ⟨?_, r, commit, tree, List.mem_cons_self, hstate⟩⟩
      rw [ho]
      split <;> rfl
  · next commit tree hstate =>
    exact report_safe hk₃ fun o hb ho => ⟨hb, .inr (.inr ⟨ho, r, commit, tree, List.mem_cons_self, hstate⟩)⟩
  · split
    · exact uncertain_safe
    · exact create_safe hk₃ fun e he => (hf₃ e he).1

theorem adopt_safe {asked : Asked C} :
    (adopt asked).Safe F (rules asked.meant) (Prog.Returning fun h' plan => plan = asked.meant ∧ Kept plan h' ∧ Fresh h') [] := by
  have hfresh : Fresh ([] : Log C) := fun e he => nomatch he
  have hread : (Journal.read .plan asked.meant.operationId : Code C _).Safe F (rules asked.meant)
      (Prog.Returning fun h' r => Fresh h' ∧ ∀ v, r = some v → .port (.load .plan asked.meant.operationId) (.found v) ∈ h') [] :=
    (Journal.read_safe.keeps (records_of_looks Journal.looks_read) (fun h' e hi he => hi.cons he) hfresh).mono fun h' x hx => by
      cases x with
      | error e => trivial
      | ok r => exact hx
  have hrecord : ∀ h₁ : Log C, Fresh h₁ → (Journal.record .plan asked.meant : Code C Unit).Safe F (rules asked.meant)
      (Prog.Returning fun h' _ => Kept asked.meant h' ∧ Fresh h') h₁ := fun h₁ hf => by
    have hrule : ∀ h', h₁ <:+ h' → rules asked.meant h' (.port (.link .plan asked.meant)) := fun h' _ => rfl
    refine ((Journal.record_safe hrule).keeps records_record (fun h' e hi he => hi.cons he) hf).mono fun h' x hx => ?_
    cases x with
    | error e => trivial
    | ok u => exact ⟨hx.2, hx.1⟩
  cases asked with
  | plan p =>
    refine hread.bind (fun h₁ found hx => ?_) fun _ _ _ => trivial
    cases found with
    | none => exact (hrecord h₁ hx.1).bind (fun h₂ _ hy => ⟨rfl, hy⟩) fun _ _ _ => trivial
    | some durable =>
      refine Prog.Safe.require_bind (fun heq => ?_) trivial
      subst heq
      exact ⟨rfl, .inl (hx.2 _ rfl), hx.1⟩
  | request request =>
    refine hread.bind (fun h₁ found hx => ?_) fun _ _ _ => trivial
    cases found with
    | none => exact (hrecord h₁ hx.1).bind (fun h₂ _ hy => ⟨rfl, hy⟩) fun _ _ _ => trivial
    | some durable =>
      refine Prog.Safe.require_bind (fun heq => ?_) trivial
      subst heq
      exact ⟨rfl, .inl (hx.2 _ rfl), hx.1⟩

theorem trigger_safe (asked : Asked C) : (trigger asked).Safe F (rules asked.meant) (fun _ _ => True) [] := by
  refine adopt_safe.bind (fun h₁ plan hx => ?_) fun _ _ _ => trivial
  obtain ⟨rfl, hk, hf⟩ := hx
  refine ((Journal.looks_read.safe permits_looks).keeps (records_of_looks Journal.looks_read)
    (fun h' e hi he => hi.cons he) hf).suffix.bind (fun h₂ durable hy => ?_) fun _ _ _ => trivial
  cases durable with
  | none => exact reconcile_safe (hk.suffix hy.1) hy.2.1
  | some durable => exact Prog.Safe.require_bind (fun _ => trivial) trivial

end Service

end AvoCorrelate.SyntheticValidation
