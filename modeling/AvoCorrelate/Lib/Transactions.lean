/-!
# Transactions and their runs

A service call is one transaction: it reads and writes a state `S` and either
commits (`.ok`) or raises (`.error`) and leaves the state as it was. A run is a
sequence of committed calls; calls that raise change nothing and are left out.
`Reaches P init s` says that a run from `init` whose calls all satisfied `P`
ends in `s`: with `P` always true it is plain reachability, and a theorem about
every such run holds for every order of calls, since the database serializes
them.
-/
namespace AvoLib

variable {ε α β S O : Type}

/-! ## Raising -/

/-- Raise `e` unless `p` holds. -/
def require (p : Prop) [Decidable p] (e : ε) : Except ε Unit := if p then .ok () else .error e

/-- Raise `e` on `none`. -/
def orRaise (o : Option α) (e : ε) : Except ε α :=
  match o with
  | some a => .ok a
  | none => .error e

variable {e : ε} {a : α} {x : Except ε α} {b : β}

@[simp] theorem require_ok {p : Prop} [Decidable p] {u : Unit} : require p e = .ok u ↔ p := by
  unfold require
  split <;> simp_all

@[simp] theorem orRaise_ok {o : Option α} : orRaise o e = .ok a ↔ o = some a := by
  cases o <;> simp [orRaise]

@[simp] theorem bind_ok {f : α → Except ε β} : (x >>= f) = .ok b ↔ ∃ a, x = .ok a ∧ f a = .ok b := by
  cases x with
  | ok a =>
    constructor
    · intro h; exact ⟨a, rfl, h⟩
    · rintro ⟨_, h, hf⟩; cases h; exact hf
  | error e =>
    constructor
    · intro h; cases h
    · rintro ⟨_, h, _⟩; cases h

@[simp] theorem pure_ok {b : α} : (pure a : Except ε α) = .ok b ↔ a = b :=
  ⟨fun h => by cases h; rfl, fun h => by rw [h]; rfl⟩

@[simp] theorem map_ok {f : α → β} : f <$> x = .ok b ↔ ∃ a, x = .ok a ∧ f a = b := by
  cases x with
  | ok a =>
    constructor
    · intro h; cases h; exact ⟨a, rfl, rfl⟩
    · rintro ⟨_, h, rfl⟩; cases h; rfl
  | error e =>
    constructor
    · intro h; cases h
    · rintro ⟨_, h, _⟩; cases h

theorem mapError_ok {ε' : Type} {f : ε → ε'} : x.mapError f = .ok a ↔ x = .ok a := by
  cases x with
  | error e =>
    change (.error (f e) : Except ε' α) = .ok a ↔ _
    simp
  | ok b =>
    change (.ok b : Except ε' α) = .ok a ↔ _
    simp

theorem ok_mapError {ε' : Type} {f : ε → ε'} : (Except.ok a).mapError f = .ok a := rfl

/-! ## Runs -/

section Runs
variable (exec : S → O → Except ε S)

/-- States reached from `init` by committed calls that each satisfied `P` in
the state they ran in. -/
inductive Reaches (P : S → O → Prop) (init : S) : S → Prop
  | init : Reaches P init init
  | step {s s' : S} {o : O} : Reaches P init s → P s o → exec s o = .ok s' → Reaches P init s'

/-- Run a list of calls, stopping at the first that raises. -/
def runAll (s : S) : List O → Except ε S
  | [] => .ok s
  | o :: os => exec s o >>= fun s' => runAll s' os

variable {exec} {P Q : S → O → Prop} {init s s' : S}

theorem Reaches.inv (I : S → Prop) (h0 : I init) (hs : ∀ s o s', I s → P s o → exec s o = .ok s' → I s')
    (h : Reaches exec P init s) : I s := by
  induction h with
  | init => exact h0
  | step _ hp he ih => exact hs _ _ _ ih hp he

theorem Reaches.mono (hpq : ∀ s o, P s o → Q s o) (h : Reaches exec P init s) : Reaches exec Q init s := by
  induction h with
  | init => exact .init
  | step _ hp he ih => exact .step ih (hpq _ _ hp) he

theorem Reaches.trans {t : S} (h : Reaches exec P init s) (h' : Reaches exec P s t) : Reaches exec P init t := by
  induction h' with
  | init => exact h
  | step _ hp he ih => exact .step ih hp he

/-- The state a list of calls ends in. -/
def result (exec : S → O → Except ε S) (s : S) (os : List O) : S :=
  match runAll exec s os with
  | .ok s' => s'
  | .error _ => s

/-- No call of the list raises, and each satisfies `p` in the state it runs in. -/
def allowed (exec : S → O → Except ε S) (p : S → O → Bool) : S → List O → Bool
  | _, [] => true
  | s, o :: os =>
    p s o && match exec s o with
      | .ok s' => allowed exec p s' os
      | .error _ => false

variable {p : S → O → Bool} {os : List O}

theorem runAll_of_allowed (h : allowed exec p s os = true) : ∃ t, runAll exec s os = .ok t := by
  induction os generalizing s with
  | nil => exact ⟨s, rfl⟩
  | cons o os ih =>
    simp only [allowed, Bool.and_eq_true] at h
    cases he : exec s o with
    | error e => rw [he] at h; cases h.2
    | ok s₁ =>
      rw [he] at h
      obtain ⟨t, ht⟩ := ih h.2
      exact ⟨t, by rw [runAll, he]; exact ht⟩

theorem exec_result {o : O} (h : allowed exec p s [o] = true) : exec s o = .ok (result exec s [o]) := by
  obtain ⟨t, ht⟩ := runAll_of_allowed h
  cases he : exec s o with
  | error e => rw [runAll, he] at ht; cases ht
  | ok s₁ => rw [result, runAll, he]; rfl

theorem reaches_result (h : allowed exec p s os = true) :
    Reaches exec (fun s o => p s o = true) s (result exec s os) := by
  induction os generalizing s with
  | nil => exact .init
  | cons o os ih =>
    simp only [allowed, Bool.and_eq_true] at h
    obtain ⟨hp, h⟩ := h
    cases he : exec s o with
    | error e => rw [he] at h; cases h
    | ok s₁ =>
      rw [he] at h
      have hr : result exec s (o :: os) = result exec s₁ os := by
        have hn : runAll exec s (o :: os) = runAll exec s₁ os := by rw [runAll, he]; rfl
        have hk : ∃ t, runAll exec s₁ os = .ok t := runAll_of_allowed h
        obtain ⟨t, ht⟩ := hk
        simp only [result, hn, ht]
      have hfirst : Reaches exec (fun s o => p s o = true) s s₁ := .step .init hp he
      rw [hr]
      exact hfirst.trans (ih h)

/-- No call of the list raises, each satisfies `p` in the state it runs in, and the last
state passes the test. -/
def concludes (exec : S → O → Except ε S) (p : S → O → Bool) (test : S → Bool) : S → List O → Bool
  | s, [] => test s
  | s, o :: os =>
    p s o && match exec s o with
      | .ok s' => concludes exec p test s' os
      | .error _ => false

theorem allowed_of_concludes {test : S → Bool} (h : concludes exec p test s os = true) :
    allowed exec p s os = true ∧ test (result exec s os) = true := by
  induction os generalizing s with
  | nil => exact ⟨rfl, h⟩
  | cons o os ih =>
    simp only [concludes, Bool.and_eq_true] at h
    obtain ⟨hp, h⟩ := h
    cases he : exec s o with
    | error e => rw [he] at h; cases h
    | ok s₁ =>
      rw [he] at h
      obtain ⟨hallowed, htest⟩ := ih h
      obtain ⟨t, ht⟩ := runAll_of_allowed hallowed
      have hr : result exec s (o :: os) = result exec s₁ os := by
        have hn : runAll exec s (o :: os) = runAll exec s₁ os := by rw [runAll, he]; rfl
        simp only [result, hn, ht]
      refine ⟨?_, hr ▸ htest⟩
      simp only [allowed, hp, he, hallowed, Bool.and_self]

end Runs

end AvoLib
