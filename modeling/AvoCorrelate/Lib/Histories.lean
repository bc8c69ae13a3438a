import AvoCorrelate.Lib.Transactions
import Mathlib.Data.List.Destutter
/-!
# Histories

`history` is the list of states that a list of calls goes through; unlike in a
run (`Reaches`) a call may raise, and then the state stays as it was. What a
relation between neighbouring states says about one column of them is a chain of
the column's values, and without repetitions a path of the relation.
-/
namespace AvoLib

variable {ε S O T : Type}

section Histories
variable (exec : S → O → Except ε S)

/-- Run one call; one that raises leaves the state as it was. -/
def attempt (s : S) (o : O) : S :=
  match exec s o with
  | .ok s' => s'
  | .error _ => s

/-- The states a list of calls goes through, the first and the last included. -/
def history (s : S) : List O → List S
  | [] => [s]
  | o :: os => s :: history (attempt exec s o) os

variable {exec} {s : S}

theorem attempt_error {o : O} {e : ε} (h : exec s o = .error e) : attempt exec s o = s := by
  unfold attempt
  rw [h]

theorem attempt_of {R : S → S → Prop} (hr : R s s) {o : O} (hs : ∀ s', exec s o = .ok s' → R s s') :
    R s (attempt exec s o) := by
  unfold attempt
  cases h : exec s o with
  | ok s' => exact hs s' h
  | error e => exact hr

theorem isChain_history {R : S → S → Prop} (hr : ∀ s, R s s) (hs : ∀ s o s', exec s o = .ok s' → R s s') (os : List O) :
    (history exec s os).IsChain R := by
  induction os generalizing s with
  | nil => exact List.isChain_singleton _
  | cons o os ih =>
    have hstep : R s (attempt exec s o) := attempt_of (hr s) fun s' h => hs s o s' h
    have hrest : (history exec (attempt exec s o) os).IsChain R := ih
    unfold history
    cases os with
    | nil => exact List.isChain_cons_cons.mpr ⟨hstep, List.isChain_singleton _⟩
    | cons o' os => exact List.isChain_cons_cons.mpr ⟨hstep, hrest⟩

theorem history_inv (I : S → Prop) (hs : ∀ s o s', I s → exec s o = .ok s' → I s') (h0 : I s) (os : List O) :
    ∀ t ∈ history exec s os, I t := by
  induction os generalizing s with
  | nil =>
    intro t ht
    rw [List.mem_singleton.1 ht]
    exact h0
  | cons o os ih =>
    intro t ht
    rcases List.mem_cons.1 ht with rfl | ht
    · exact h0
    · have hnext : I (attempt exec s o) := attempt_of (R := fun _ s' => I s') h0 fun s' h => hs s o s' h0 h
      exact ih hnext t ht

end Histories

/-! ## Columns -/

theorem isChain_filterMap {f : S → Option T} {R : S → S → Prop} {Q : T → T → Prop}
    (h : ∀ s s', R s s' → ∀ a, f s = some a → ∃ b, f s' = some b ∧ Q a b) {l : List S} (hl : l.IsChain R) :
    (l.filterMap f).IsChain Q := by
  induction l with
  | nil => exact List.isChain_nil
  | cons s l ih =>
    cases hf : f s with
    | none =>
      rw [List.filterMap_cons_none hf]
      exact ih hl.tail
    | some a =>
      rw [List.filterMap_cons_some hf]
      cases l with
      | nil => exact List.isChain_singleton _
      | cons s' l =>
        obtain ⟨hss, htail⟩ := List.isChain_cons_cons.1 hl
        obtain ⟨b, hb, hab⟩ := h s s' hss a hf
        have hrest := ih htail
        rw [List.filterMap_cons_some hb] at hrest ⊢
        exact List.isChain_cons_cons.mpr ⟨hab, hrest⟩

section Destutter
variable [DecidableEq T]

theorem destutter'_head (a : T) (l : List T) : ∃ l', l.destutter' (· ≠ ·) a = a :: l' := by
  induction l with
  | nil => exact ⟨[], rfl⟩
  | cons b l ih =>
    rw [List.destutter'_cons]
    split
    · exact ⟨_, rfl⟩
    · exact ih

theorem isChain_destutter_ne {R : T → T → Prop} {l : List T} (h : l.IsChain fun a b => b = a ∨ R a b) :
    (l.destutter (· ≠ ·)).IsChain R := by
  cases l with
  | nil => exact List.isChain_nil
  | cons a l =>
    rw [List.destutter_cons']
    induction l generalizing a with
    | nil => exact List.isChain_singleton _
    | cons b l ih =>
      obtain ⟨hab, htail⟩ := List.isChain_cons_cons.1 h
      rw [List.destutter'_cons]
      split
      · next hne =>
        have hrest := ih b htail
        obtain ⟨l', hl'⟩ := destutter'_head b l
        rw [hl'] at hrest ⊢
        exact List.isChain_cons_cons.mpr ⟨hab.resolve_left (Ne.symm hne), hrest⟩
      · next hsame =>
        rw [not_not.1 hsame]
        exact ih b htail

end Destutter

end AvoLib
