import AvoCorrelate.RollbackAuthority.Prepare
import AvoCorrelate.Lib.Alone
/-!
# What the checks look at

Every chain check reads records that were made durable before the one it is for, and
ports. So it comes out the same in every world in which those are the same.
-/
open AvoLib

namespace AvoCorrelate.RollbackAuthority

open Graduation (MainBound)
open MainRollback (Preparation)

variable {D : Type} [DecidableEq D] {C : Canon D} {J : Journal.Config D} {n : Nat} {α β : Type}

/-- The place of a record in the order in which the four are made durable. -/
def Key.place : Key D → Nat
  | .intent _ => 0
  | .authorization _ => 1
  | .attempt _ => 2
  | .preparation _ => 3

/-- Ports that answer the same at all times. -/
def Port.constant : Port D → Bool
  | .install => true
  | .completion _ => true
  | .composition _ => true
  | .indexPresent _ _ => true
  | .verifyLease _ => true
  | .currentAuthority => true
  | _ => false

/-- Ports that answer the same as long as no lease is acquired. -/
def Port.lasting : Port D → Bool
  | .lease _ => true
  | .assertTargetLease _ => true
  | p => p.constant

/-- Questions to the ports that always answer the same. -/
def Asking : Action (Rec (D := D)) (Port D) → Prop
  | .port p => p.constant = true
  | _ => False

/-- Questions to the ports, and reads of records before this place. -/
def Looking (n : Nat) : Action (Rec (D := D)) (Port D) → Prop
  | .read k => k.place < n
  | .port p => p.lasting = true
  | .publish _ _ => False

omit [DecidableEq D] in
theorem looking_of_asking {a : Action (Rec (D := D)) (Port D)} (h : Asking a) : Looking n a := by
  cases a with
  | read k => exact h.elim
  | publish k v => exact h.elim
  | port p => cases p <;> first | rfl | cases h

omit [DecidableEq D] in
theorem Looking.mono {m : Nat} (hmn : m ≤ n) {a : Action (Rec (D := D)) (Port D)} (h : Looking m a) : Looking n a := by
  cases a with
  | read k => exact Nat.lt_of_lt_of_le h hmn
  | publish k v => exact h
  | port p => exact h

omit [DecidableEq D] in
theorem does_raising {S : Action (Rec (D := D)) (Port D) → Prop} {e : String → Exc} (a : Graduation.Answer α) :
    (raising e a : Code D α).Does S := by
  cases a with
  | raised message => trivial
  | returned v => trivial

namespace Journal

omit [DecidableEq D] in
theorem asks_completion (operationId : D) : (completion operationId).Does Asking := ⟨rfl, does_raising⟩

theorem asks_readComposition (compositionId : D) : (readComposition compositionId).Does Asking := by
  refine Prog.Does.bind ⟨rfl, does_raising⟩ fun stored => ?_
  cases stored with
  | none => trivial
  | some stored =>
    refine (asks_completion _).bind fun _ => Prog.Does.ofOption_bind fun _ => ?_
    exact Prog.Does.require_bind fun _ => Prog.Does.require_bind fun _ => trivial

theorem asks_requireCompositionIntent (i : Intent D) : (requireCompositionIntent C i).Does Asking :=
  (asks_readComposition _).bind fun _ => Prog.Does.ofOption_bind fun _ => Prog.Does.require

omit [DecidableEq D] in
theorem looks_completion (operationId : D) : (completion operationId).Does (Looking n) :=
  (asks_completion _).mono fun _ => looking_of_asking

omit [DecidableEq D] in
theorem looks_lease (operationId : D) : (lease operationId).Does (Looking n) := ⟨rfl, does_raising⟩

omit [DecidableEq D] in
theorem looks_indexPresent (kind : GraduationKind) (operationId : D) : (indexPresent kind operationId).Does (Looking n) :=
  ⟨rfl, fun _ => trivial⟩

theorem looks_readComposition (compositionId : D) : (readComposition compositionId).Does (Looking n) :=
  (asks_readComposition _).mono fun _ => looking_of_asking

theorem looks_requireCompositionIntent (i : Intent D) : (requireCompositionIntent C i).Does (Looking n) :=
  (asks_requireCompositionIntent i).mono fun _ => looking_of_asking

theorem looks_readFile {k : Key D} {malformed : String} {check : Rec k → Code D Unit} (hk : k.place < n)
    (hcheck : ∀ v, (check v).Does (Looking k.place)) : (readFile k malformed check).Does (Looking n) := by
  refine ⟨hk, fun found => ?_⟩
  cases found with
  | missing => trivial
  | malformed => trivial
  | found v =>
    refine ((hcheck v).mono fun _ => Looking.mono (Nat.le_of_lt hk)).bind fun _ => ?_
    exact Prog.Does.require_bind fun _ => trivial

theorem looks_readIntent (hn : 0 < n) (operationId : D) : (readIntent C operationId).Does (Looking n) :=
  looks_readFile hn looks_requireCompositionIntent

theorem looks_requireIntent (hn : 0 < n) (a : Authorization D) : (requireIntent C J a).Does (Looking n) := by
  refine (looks_readIntent hn _).bind fun _ => Prog.Does.ofOption_bind fun i => ?_
  refine Prog.Does.require_bind fun _ => (looks_requireCompositionIntent i).bind fun _ => ?_
  refine Prog.Does.require_bind fun _ => (looks_lease _).bind fun _ => Prog.Does.ofOption_bind fun _ => ?_
  refine Prog.Does.require_bind fun _ => (looks_completion _).bind fun _ => ?_
  exact Prog.Does.ofOption_bind fun _ => Prog.Does.require

theorem looks_readAuthorization (hn : 1 < n) (operationId : D) : (readAuthorization C J operationId).Does (Looking n) :=
  looks_readFile hn (looks_requireIntent Nat.one_pos)

theorem looks_requireAttempt (hn : 1 < n) (t : Attempt D) : (requireAttempt C J t).Does (Looking n) := by
  refine (looks_indexPresent _ _).bind fun _ => (looks_indexPresent _ _).bind fun _ => (looks_indexPresent _ _).bind fun _ => ?_
  refine Prog.Does.require_bind fun _ => (looks_completion _).bind fun source => ?_
  refine (looks_readComposition _).bind fun c => (looks_readAuthorization hn _).bind fun a => ?_
  refine (looks_readIntent (Nat.lt_trans Nat.one_pos hn) _).bind fun i => ?_
  split
  · exact Prog.Does.require
  · trivial

theorem looks_requirePreparation (hn : 1 < n) (p : Preparation D) : (requirePreparation C J p).Does (Looking n) := by
  refine (looks_readAuthorization hn _).bind fun a => (looks_readIntent (Nat.lt_trans Nat.one_pos hn) _).bind fun i => ?_
  refine (looks_lease _).bind fun l => ?_
  split
  · refine (looks_indexPresent _ _).bind fun _ => (looks_indexPresent _ _).bind fun _ => Prog.Does.require_bind fun _ => ?_
    refine (looks_requireIntent (Nat.lt_trans Nat.one_pos hn) _).bind fun _ => Prog.Does.require_bind fun _ => ?_
    exact Prog.Does.require_bind fun _ => Prog.Does.require
  · trivial

end Journal

theorem asks_derive (A : Controller D) (x : Arguments D) : (derive C A x).Does Asking := by
  refine Prog.Does.bind (p := readSource x.sourceOperationId) ?_ fun source => Prog.Does.bind (p := durableComposition C _ _) ?_ fun c => ?_
  · refine (Journal.asks_completion _).bind fun _ => Prog.Does.ofOption_bind fun _ => ?_
    exact Prog.Does.require_bind fun _ => Prog.Does.require_bind fun _ => trivial
  · refine Prog.Does.require_bind fun _ => Prog.Does.require_bind fun _ => ?_
    refine Prog.Does.require_bind fun _ => Prog.Does.require_bind fun _ => ?_
    refine (Journal.asks_readComposition _).bind fun _ => Prog.Does.ofOption_bind fun _ => ?_
    exact Prog.Does.require_bind fun _ => trivial
  · refine Prog.Does.bind (p := validateCurrentAuthority _ _ _ _) ?_ fun _ => trivial
    exact Prog.Does.require_bind fun _ => Prog.Does.require_bind fun _ => Prog.Does.require

end AvoCorrelate.RollbackAuthority
