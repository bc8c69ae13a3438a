/-!
# Computations that a crash can cut

A computation on a durable store is a tree of steps. A step sees the store, leaves
another one, and what follows depends on what it saw. `run` takes a computation to
its end. A crash between two steps leaves the store as the steps before it made it,
and nothing else of the computation: those stores are `Cuts`. `Runs` is the program
logic, with what holds of every store on the way and of the end.
-/
namespace AvoLib

variable {σ ε ε' α β : Type}

inductive Steps (σ ε α : Type)
  | done (x : α)
  | raise (e : ε)
  | step (apply : σ → σ) (next : σ → Steps σ ε α)

namespace Steps

def bind : Steps σ ε α → (α → Steps σ ε β) → Steps σ ε β
  | .done x, f => f x
  | .raise e, _ => .raise e
  | .step apply next, f => .step apply fun s => (next s).bind f

instance : Monad (Steps σ ε) where
  pure := .done
  bind := bind

/-- Run a computation and hand its exception over as a value. -/
def attempt : Steps σ ε α → Steps σ ε' (Except ε α)
  | .done x => .done (.ok x)
  | .raise e => .done (.error e)
  | .step apply next => .step apply fun s => (next s).attempt

/-- Hand over a value, or raise. -/
def orRaise : Except ε α → Steps σ ε α
  | .ok x => .done x
  | .error e => .raise e

/-- Raise `e` unless `p` holds. -/
def require (p : Prop) [Decidable p] (e : ε) : Steps σ ε Unit := if p then .done () else .raise e

/-- A step that sees the store and leaves it as it is. -/
def look (f : σ → Except ε α) : Steps σ ε α := .step id fun s => orRaise (f s)

/-- One transaction: it commits, or raises and leaves the store as it was. -/
def transact (t : σ → Except ε (σ × α)) : Steps σ ε α :=
  .step (fun s => match t s with
      | .ok (s', _) => s'
      | .error _ => s)
    fun s => match t s with
      | .ok (_, x) => .done x
      | .error e => .raise e

def run : Steps σ ε α → σ → Except ε α × σ
  | .done x, s => (.ok x, s)
  | .raise e, s => (.error e, s)
  | .step apply next, s => (next s).run (apply s)

/-- A crash before one of the steps leaves `s'`. -/
def Cuts (s' : σ) : Steps σ ε α → σ → Prop
  | .done _, _ => False
  | .raise _, _ => False
  | .step apply next, s => s' = s ∨ (next s).Cuts s' (apply s)

/-- `I` holds before every step, and `Q` of the outcome at the end. -/
def Runs (I : σ → Prop) (Q : Except ε α → σ → Prop) : Steps σ ε α → σ → Prop
  | .done x, s => Q (.ok x) s
  | .raise e, s => Q (.error e) s
  | .step apply next, s => I s ∧ (next s).Runs I Q (apply s)

/-! ## The logic is sound -/

variable {p : Steps σ ε α} {f : α → Steps σ ε β} {I : σ → Prop} {Q Q' : Except ε α → σ → Prop}
  {R : Except ε β → σ → Prop} {s s' : σ}

theorem Runs.ends (h : p.Runs I Q s) : Q (p.run s).1 (p.run s).2 := by
  induction p generalizing s with
  | done x => exact h
  | raise e => exact h
  | step apply next ih => exact ih s h.2

theorem Runs.cut (h : p.Runs I Q s) (hc : p.Cuts s' s) : I s' := by
  induction p generalizing s with
  | done x => exact hc.elim
  | raise e => exact hc.elim
  | step apply next ih =>
    rcases hc with rfl | hc
    · exact h.1
    · exact ih s h.2 hc

/-! ## Rules -/

theorem Runs.mono (h : p.Runs I Q s) (hq : ∀ x s', Q x s' → Q' x s') : p.Runs I Q' s := by
  induction p generalizing s with
  | done x => exact hq _ _ h
  | raise e => exact hq _ _ h
  | step apply next ih => exact ⟨h.1, ih s h.2⟩

theorem Runs.weaken {J : σ → Prop} (h : p.Runs I Q s) (hi : ∀ s', I s' → J s') : p.Runs J Q s := by
  induction p generalizing s with
  | done x => exact h
  | raise e => exact h
  | step apply next ih => exact ⟨hi _ h.1, ih s h.2⟩

theorem Runs.bind (hp : p.Runs I Q s) (hok : ∀ x s', Q (.ok x) s' → (f x).Runs I R s')
    (herror : ∀ e s', Q (.error e) s' → R (.error e) s') : (p >>= f).Runs I R s := by
  change (Steps.bind p f).Runs I R s
  induction p generalizing s with
  | done x => exact hok x s hp
  | raise e => exact herror e s hp
  | step apply next ih => exact ⟨hp.1, ih s hp.2⟩

/-- The outcome is a value of which `Q` holds, in a store of which it holds. -/
def Returning (Q : α → σ → Prop) : Except ε α → σ → Prop
  | .ok x, s => Q x s
  | .error _, _ => False

theorem Runs.seq {Q : α → σ → Prop} (hp : p.Runs I (Returning Q) s) (hok : ∀ x s', Q x s' → (f x).Runs I R s') :
    (p >>= f).Runs I R s :=
  hp.bind hok fun _ _ h => h.elim

theorem Runs.attempt (hp : p.Runs I Q s) :
    (p.attempt : Steps σ ε' (Except ε α)).Runs I (Returning Q) s := by
  induction p generalizing s with
  | done x => exact hp
  | raise e => exact hp
  | step apply next ih => exact ⟨hp.1, ih s hp.2⟩

variable {x : Except ε α} {y : α} {g : σ → Except ε α} {t : σ → Except ε (σ × α)} {c : Prop} {e : ε}

theorem runs_orRaise (hx : x = .ok y) : (orRaise x : Steps σ ε α).Runs I (Returning fun z s' => z = y ∧ s' = s) s := by
  subst hx
  exact ⟨rfl, rfl⟩

theorem runs_look (hI : I s) (hg : g s = .ok y) : (look g).Runs I (Returning fun z s' => z = y ∧ s' = s) s :=
  ⟨hI, runs_orRaise hg⟩

theorem runs_transact (hI : I s) (ht : t s = .ok (s', y)) :
    (transact t).Runs I (Returning fun z s'' => z = y ∧ s'' = s') s := by
  refine ⟨hI, ?_⟩
  simp only [ht]
  exact ⟨rfl, rfl⟩

theorem runs_transact_of (hI : I s) (hok : ∀ s' x, t s = .ok (s', x) → Q (.ok x) s')
    (herror : ∀ e, t s = .error e → Q (.error e) s) : (transact t).Runs I Q s := by
  refine ⟨hI, ?_⟩
  cases hr : t s with
  | ok r =>
    simp only [hr]
    exact hok r.1 r.2 hr
  | error e =>
    simp only [hr]
    exact herror e hr

theorem runs_look_of (hI : I s) (hok : ∀ x, g s = .ok x → Q (.ok x) s) (herror : ∀ e, g s = .error e → Q (.error e) s) :
    (look g).Runs I Q s := by
  refine ⟨hI, ?_⟩
  cases hr : g s with
  | ok x =>
    simp only [hr]
    exact hok x hr
  | error e =>
    simp only [hr]
    exact herror e hr

theorem runs_orRaise_of : (orRaise x : Steps σ ε α).Runs I (fun _ s' => s' = s) s := by
  cases x <;> rfl

theorem runs_require_of [Decidable c] : (require c e : Steps σ ε Unit).Runs I (fun _ s' => s' = s) s := by
  unfold require
  split <;> rfl

/-! ## What a computation keeps -/

theorem Runs.with_run (h : p.Runs I Q s) : p.Runs I (fun x s' => Q x s' ∧ p.run s = (x, s')) s := by
  induction p generalizing s with
  | done x => exact ⟨h, rfl⟩
  | raise e => exact ⟨h, rfl⟩
  | step apply next ih => exact ⟨h.1, ih s h.2⟩

theorem run_bind : (p >>= f).run s = match p.run s with
    | (.ok x, s') => (f x).run s'
    | (.error e, s') => (.error e, s') := by
  change (Steps.bind p f).run s = _
  induction p generalizing s with
  | done x => rfl
  | raise e => rfl
  | step apply next ih => exact ih s

theorem run_bind_of {x : α} (h : p.run s = (.ok x, s')) : (p >>= f).run s = (f x).run s' := by
  rw [run_bind, h]

theorem run_bind_ok {y : β} (h : (p >>= f).run s = (.ok y, s')) :
    ∃ x s₁, p.run s = (.ok x, s₁) ∧ (f x).run s₁ = (.ok y, s') := by
  rw [run_bind] at h
  split at h
  · next x s₁ hp => exact ⟨x, s₁, hp, h⟩
  · cases h

theorem run_orRaise : (orRaise x : Steps σ ε α).run s = (x, s) := by
  cases x <;> rfl

theorem run_look : (look g).run s = (g s, s) := run_orRaise

theorem run_transact : (transact t).run s = match t s with
    | .ok (s', x) => (.ok x, s')
    | .error e => (.error e, s) := by
  unfold transact
  simp only [run]
  cases t s <;> rfl

/-- What holds before a computation holds at every step of it, and after it. -/
def Keeps (I : σ → Prop) (p : Steps σ ε α) : Prop := ∀ s, I s → p.Runs I (fun _ s' => I s') s

theorem keeps_done {x : α} : Keeps I (pure x : Steps σ ε α) := fun _ h => h

theorem keeps_raise : Keeps I (.raise e : Steps σ ε α) := fun _ h => h

theorem Keeps.bind (hp : Keeps I p) (hf : ∀ x, Keeps I (f x)) : Keeps I (p >>= f) :=
  fun s h => (hp s h).bind (fun x s' h' => hf x s' h') fun _ _ h' => h'

theorem Keeps.attempt (hp : Keeps I p) : Keeps I (p.attempt : Steps σ ε' (Except ε α)) := by
  refine fun s h => (hp s h).attempt.mono fun x s' h' => ?_
  cases x with
  | ok x => exact h'
  | error e => exact h'.elim

theorem keeps_require [Decidable c] : Keeps I (require c e : Steps σ ε Unit) := by
  unfold require
  split
  · exact keeps_done
  · exact keeps_raise

theorem keeps_orRaise : Keeps I (orRaise x : Steps σ ε α) := by
  cases x with
  | ok x => exact keeps_done
  | error e => exact keeps_raise

theorem keeps_look : Keeps I (look g) := fun s h => ⟨h, keeps_orRaise s h⟩

theorem keeps_transact (ht : ∀ s s' x, I s → t s = .ok (s', x) → I s') : Keeps I (transact t) :=
  fun s h => runs_transact_of h (fun s' x hr => ht s s' x h hr) fun _ _ => h

/-! ## Crashes at a place -/

/-- What a crash before the n-th of the further steps leaves. -/
def crashed : Nat → Steps σ ε α → σ → Option σ
  | _, .done _, _ => none
  | _, .raise _, _ => none
  | 0, .step _ _, s => some s
  | n + 1, .step apply next, s => crashed n (next s) (apply s)

theorem cuts_of_crashed {n : Nat} (h : crashed n p s = some s') : p.Cuts s' s := by
  induction p generalizing n s with
  | done x => cases n <;> cases h
  | raise e => cases n <;> cases h
  | step apply next ih =>
    cases n with
    | zero =>
      cases h
      exact .inl rfl
    | succ n => exact .inr (ih s h)

end Steps

end AvoLib
