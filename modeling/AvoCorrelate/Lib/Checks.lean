import AvoCorrelate.Lib.Transactions
import Mathlib.Data.List.Forall2
/-!
# Checks and procedures

A `Check` computes something, may raise, and on its way asks to have things confirmed by
somebody about whom nothing is known: without the confirmation it raises. So it can
return one value only, `Returns`, and returns it iff everything is confirmed.

A `Procedure` also reads and writes a state, catches exceptions, and leaves what it wrote
when it raises. `Runs` says what some answers lead to, and `answered` what those of one
function lead to. There is one law for every construct, so that a run is taken apart by
`simp`.
-/
namespace AvoLib

variable {Q σ ε α β γ : Type}

inductive Check (Q ε α : Type)
  | done (x : α)
  | raise (e : ε)
  | confirm (q : Q) (e : ε) (next : Check Q ε α)

namespace Check

def bind : Check Q ε α → (α → Check Q ε β) → Check Q ε β
  | .done x, f => f x
  | .raise e, _ => .raise e
  | .confirm q e next, f => .confirm q e (next.bind f)

instance : Monad (Check Q ε) where
  pure := .done
  bind := bind

/-- Raise `e` unless `c` holds. -/
def require (c : Prop) [Decidable c] (e : ε) : Check Q ε Unit := if c then .done () else .raise e

/-- The value of an option, or raise `e`. -/
def orRaise (o : Option α) (e : ε) : Check Q ε α :=
  match o with
  | some x => .done x
  | none => .raise e

/-- Raise `e` in place of whatever it raises. -/
def wrap (e : ε) : Check Q ε α → Check Q ε α
  | .done x => .done x
  | .raise _ => .raise e
  | .confirm q _ next => .confirm q e (next.wrap e)

/-- Each item in turn. -/
def each (f : α → Check Q ε β) : List α → Check Q ε (List β)
  | [] => .done []
  | x :: xs => (f x).bind fun y => (each f xs).bind fun ys => .done (y :: ys)

/-- It returns `x` when everything is confirmed. -/
def Returns : Check Q ε α → α → Prop
  | .done y, x => y = x
  | .raise _, _ => False
  | .confirm _ _ next, x => next.Returns x

/-- It can end so. -/
def Ends : Check Q ε α → Except ε α → Prop
  | .done x, r => r = .ok x
  | .raise e, r => r = .error e
  | .confirm _ e next, r => r = .error e ∨ next.Ends r

/-- How it ends when `V` confirms. -/
def answered (V : Q → Bool) : Check Q ε α → Except ε α
  | .done x => .ok x
  | .raise e => .error e
  | .confirm q e next => if V q then next.answered V else .error e

variable {p : Check Q ε α} {f : α → Check Q ε β} {e : ε} {x x' : α} {y : β} {V : Q → Bool}

@[simp] theorem returns_done : (done x' : Check Q ε α).Returns x ↔ x' = x := Iff.rfl

@[simp] theorem returns_pure : (pure x' : Check Q ε α).Returns x ↔ x' = x := Iff.rfl

@[simp] theorem returns_raise : ¬ (raise e : Check Q ε α).Returns x := not_false

@[simp] theorem returns_bind : (p >>= f).Returns y ↔ ∃ x, p.Returns x ∧ (f x).Returns y := by
  change (p.bind f).Returns y ↔ _
  induction p with
  | done x =>
    constructor
    · intro h; exact ⟨x, rfl, h⟩
    · rintro ⟨_, rfl, h⟩; exact h
  | raise e =>
    constructor
    · intro h; exact h.elim
    · rintro ⟨_, h, _⟩; exact h.elim
  | confirm q e next ih => exact ih

@[simp] theorem returns_confirm {q : Q} : (confirm q e p).Returns x ↔ p.Returns x := Iff.rfl

@[simp] theorem returns_require {c : Prop} [Decidable c] {u : Unit} : (require c e : Check Q ε Unit).Returns u ↔ c := by
  unfold require
  split
  · next hc => simp [hc]
  · next hc => simp [hc]

@[simp] theorem returns_orRaise {o : Option α} : (orRaise o e : Check Q ε α).Returns x ↔ o = some x := by
  cases o with
  | none => simp [orRaise]
  | some x' => simp [orRaise]

@[simp] theorem returns_wrap : (wrap e p).Returns x ↔ p.Returns x := by
  induction p with
  | done x => exact Iff.rfl
  | raise e => exact Iff.rfl
  | confirm q e next ih => exact ih

@[simp] theorem returns_ite {c : Prop} [Decidable c] {p' : Check Q ε α} :
    (if c then p else p').Returns x ↔ if c then p.Returns x else p'.Returns x := by split <;> rfl

theorem returns_each {f : α → Check Q ε β} {xs : List α} {ys : List β} :
    (each f xs).Returns ys ↔ List.Forall₂ (fun x y => (f x).Returns y) xs ys := by
  induction xs generalizing ys with
  | nil =>
    constructor
    · rintro rfl; exact .nil
    · rintro ⟨⟩; rfl
  | cons x xs ih =>
    refine returns_bind.trans ⟨?_, ?_⟩
    · rintro ⟨y, hy, h⟩
      obtain ⟨ys, hys, rfl⟩ := returns_bind.mp h
      exact .cons hy (ih.mp hys)
    · rintro (_ | ⟨hy, hys⟩)
      exact ⟨_, hy, returns_bind.mpr ⟨_, ih.mpr hys, rfl⟩⟩

@[simp] theorem ends_ok : p.Ends (.ok x) ↔ p.Returns x := by
  induction p with
  | done y => exact ⟨fun h => (Except.ok.inj h).symm, fun h => congrArg Except.ok h.symm⟩
  | raise e => exact ⟨nofun, nofun⟩
  | confirm q e next ih => exact ⟨fun h => ih.mp (h.resolve_left nofun), fun h => .inr (ih.mpr h)⟩

theorem Returns.answered (hV : ∀ q, V q = true) (h : p.Returns x) : p.answered V = .ok x := by
  induction p with
  | done y => exact congrArg Except.ok h
  | raise e => exact h.elim
  | confirm q e next ih => rw [Check.answered, if_pos (hV q)]; exact ih h

end Check

/-! ## Procedures -/

/-- A computation that asks yes-or-no questions and goes on either way. -/
inductive Asking (Q α : Type)
  | done (x : α)
  | ask (q : Q) (next : Bool → Asking Q α)

namespace Asking

def bind : Asking Q α → (α → Asking Q β) → Asking Q β
  | .done x, f => f x
  | .ask q next, f => .ask q fun b => (next b).bind f

/-- Some answers lead to `x`. -/
def Yields : Asking Q α → α → Prop
  | .done y, x => y = x
  | .ask _ next, x => ∃ b, (next b).Yields x

/-- What the answers of `V` lead to. -/
def answered (V : Q → Bool) : Asking Q α → α
  | .done x => x
  | .ask q next => (next (V q)).answered V

theorem yields_bind {p : Asking Q α} {f : α → Asking Q β} {y : β} :
    (p.bind f).Yields y ↔ ∃ x, p.Yields x ∧ (f x).Yields y := by
  induction p with
  | done x =>
    constructor
    · intro h; exact ⟨x, rfl, h⟩
    · rintro ⟨_, rfl, h⟩; exact h
  | ask q next ih =>
    constructor
    · rintro ⟨b, h⟩
      obtain ⟨x, hx, hy⟩ := (ih b).mp h
      exact ⟨x, ⟨b, hx⟩, hy⟩
    · rintro ⟨x, ⟨b, hx⟩, hy⟩
      exact ⟨b, (ih b).mpr ⟨x, hx, hy⟩⟩

theorem answered_bind {V : Q → Bool} {p : Asking Q α} {f : α → Asking Q β} :
    (p.bind f).answered V = (f (p.answered V)).answered V := by
  induction p with
  | done x => rfl
  | ask q next ih => exact ih (V q)

theorem yields_answered (V : Q → Bool) (p : Asking Q α) : p.Yields (p.answered V) := by
  induction p with
  | done x => rfl
  | ask q next ih => exact ⟨V q, ih (V q)⟩

end Asking

def Check.asking : Check Q ε α → Asking Q (Except ε α)
  | .done x => .done (.ok x)
  | .raise e => .done (.error e)
  | .confirm q e next => .ask q fun b => if b then next.asking else .done (.error e)

theorem Check.yields_asking {p : Check Q ε α} {r : Except ε α} : p.asking.Yields r ↔ p.Ends r := by
  induction p with
  | done x => exact eq_comm
  | raise e => exact eq_comm
  | confirm q e next ih =>
    constructor
    · rintro ⟨b, h⟩
      cases b with
      | true => exact .inr (ih.mp h)
      | false => exact .inl (Eq.symm h)
    · rintro (rfl | h)
      · exact ⟨false, rfl⟩
      · exact ⟨true, ih.mpr h⟩

theorem Check.answered_asking {V : Q → Bool} {p : Check Q ε α} : p.asking.answered V = p.answered V := by
  induction p with
  | done x => rfl
  | raise e => rfl
  | confirm q e next ih =>
    unfold Check.answered Check.asking Asking.answered
    cases V q with
    | true => exact ih
    | false => rfl

/-- A computation that asks, may raise, and reads and writes a state. -/
def Procedure (Q σ ε α : Type) := σ → Asking Q (Except ε α × σ)

namespace Procedure

def bind (p : Procedure Q σ ε α) (f : α → Procedure Q σ ε β) : Procedure Q σ ε β := fun s =>
  (p s).bind fun r =>
    match r.1 with
    | .ok x => f x r.2
    | .error e => .done (.error e, r.2)

instance : Monad (Procedure Q σ ε) where
  pure x s := .done (.ok x, s)
  bind := bind

/-- Check something of the state. -/
def check (c : σ → Check Q ε α) : Procedure Q σ ε α := fun s => (c s).asking.bind fun r => .done (r, s)

def write (f : σ → σ) : Procedure Q σ ε Unit := fun s => .done (.ok (), f s)

/-- Hand an exception over as a value. -/
def attempt (p : Procedure Q σ ε α) : Procedure Q σ ε (Except ε α) := fun s => (p s).bind fun r => .done (.ok r.1, r.2)

/-- Some answers lead from `s` to `s'` with this outcome. -/
def Runs (p : Procedure Q σ ε α) (s : σ) (r : Except ε α) (s' : σ) : Prop := (p s).Yields (r, s')

def answered (V : Q → Bool) (p : Procedure Q σ ε α) (s : σ) : Except ε α × σ := (p s).answered V

variable {p : Procedure Q σ ε α} {f : α → Procedure Q σ ε β} {s s' : σ} {r : Except ε α} {x : α} {y : β} {e : ε}

@[simp] theorem runs_pure : (pure x : Procedure Q σ ε α).Runs s r s' ↔ r = .ok x ∧ s' = s := by
  change ((.ok x, s) : Except ε α × σ) = (r, s') ↔ _
  rw [Prod.mk.injEq, eq_comm, @eq_comm _ s]

variable {c : σ → Check Q ε α} {g : σ → σ} {τ : Type} {get : σ → τ} {set : τ → σ → σ}

@[simp] theorem runs_check : (check c).Runs s r s' ↔ (c s).Ends r ∧ s' = s := by
  refine Asking.yields_bind.trans ⟨?_, ?_⟩
  · rintro ⟨r', hr, h⟩
    cases h
    exact ⟨Check.yields_asking.mp hr, rfl⟩
  · rintro ⟨hr, rfl⟩
    exact ⟨r, Check.yields_asking.mpr hr, rfl⟩

@[simp] theorem runs_write {r : Except ε Unit} : (write g : Procedure Q σ ε Unit).Runs s r s' ↔ r = .ok () ∧ s' = g s := by
  change ((.ok (), g s) : Except ε Unit × σ) = (r, s') ↔ _
  rw [Prod.mk.injEq, eq_comm, @eq_comm _ (g s)]

@[simp] theorem runs_attempt {r : Except ε (Except ε α)} :
    (attempt p).Runs s r s' ↔ ∃ o, r = .ok o ∧ p.Runs s o s' := by
  refine Asking.yields_bind.trans ⟨?_, ?_⟩
  · rintro ⟨⟨o, s₁⟩, ho, h⟩
    cases h
    exact ⟨o, rfl, ho⟩
  · rintro ⟨o, rfl, ho⟩
    exact ⟨(o, s'), ho, rfl⟩

theorem runs_bind {r : Except ε β} : (p >>= f).Runs s r s' ↔
    (∃ e, p.Runs s (.error e) s' ∧ r = .error e) ∨ ∃ x s₁, p.Runs s (.ok x) s₁ ∧ (f x).Runs s₁ r s' := by
  refine Asking.yields_bind.trans ⟨?_, ?_⟩
  · rintro ⟨⟨o, s₁⟩, ho, h⟩
    cases o with
    | ok x => exact .inr ⟨x, s₁, ho, h⟩
    | error e => cases h; exact .inl ⟨e, ho, rfl⟩
  · rintro (⟨e, he, rfl⟩ | ⟨x, s₁, hx, h⟩)
    · exact ⟨(.error e, s'), he, rfl⟩
    · exact ⟨(.ok x, s₁), hx, h⟩

theorem runs_answered (V : Q → Bool) : p.Runs s (p.answered V s).1 (p.answered V s).2 := Asking.yields_answered V (p s)

/-! ## With the answers of one function -/

variable {V : Q → Bool}

@[simp] theorem answered_write : (write g : Procedure Q σ ε Unit).answered V s = (.ok (), g s) := rfl

@[simp] theorem answered_check : (check c).answered V s = ((c s).answered V, s) := by
  refine (Asking.answered_bind (p := (c s).asking)).trans ?_
  rw [Check.answered_asking]
  rfl

theorem answered_bind_ok (h : p.answered V s = (.ok x, s')) : (p >>= f).answered V s = (f x).answered V s' := by
  refine (Asking.answered_bind (p := p s)).trans ?_
  rw [show Asking.answered V (p s) = (.ok x, s') from h]
  rfl

end Procedure

end AvoLib
