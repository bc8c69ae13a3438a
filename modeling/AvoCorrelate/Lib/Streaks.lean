import Mathlib.Data.List.Infix
import Mathlib.Data.List.Induction
/-!
# Streaks

The streak of a list is how many hits it ends with, counted as a program counts them:
up at a hit, back to zero at a miss. It has reached `k` iff the list ends with `k` hits,
and some prefix has reached `k` iff `k` hits stand next to each other somewhere.
-/
namespace AvoLib

variable {α β : Type} (hit : α → Prop) [DecidablePred hit]

def streak (xs : List α) : Nat := xs.foldl (fun n x => if hit x then n + 1 else 0) 0

variable {hit} {xs : List α} {k : Nat}

theorem streak_concat {x : α} : streak hit (xs ++ [x]) = if hit x then streak hit xs + 1 else 0 := by
  simp only [streak, List.foldl_append, List.foldl_cons, List.foldl_nil]

theorem le_streak_iff : k ≤ streak hit xs ↔ ∃ ys, ys <:+ xs ∧ ys.length = k ∧ ∀ y ∈ ys, hit y := by
  induction xs using List.reverseRecOn generalizing k with
  | nil =>
    constructor
    · intro h
      exact ⟨[], List.suffix_refl [], (Nat.le_zero.mp h).symm, by simp⟩
    · rintro ⟨ys, hs, rfl, -⟩
      rw [List.suffix_nil.mp hs]
      exact Nat.zero_le _
  | append_singleton xs x ih =>
    rw [streak_concat]
    constructor
    · intro h
      cases k with
      | zero => exact ⟨[], List.nil_suffix, rfl, by simp⟩
      | succ k =>
        split at h
        · next hx =>
          obtain ⟨ys, hs, hlen, hall⟩ := ih.mp (Nat.le_of_succ_le_succ h)
          refine ⟨ys ++ [x], ?_, by simp [hlen], ?_⟩
          · obtain ⟨zs, rfl⟩ := hs
            exact ⟨zs, by simp⟩
          · simp only [List.mem_append, List.mem_singleton]
            rintro y (hy | rfl)
            · exact hall y hy
            · exact hx
        · omega
    · rintro ⟨ys, hs, rfl, hall⟩
      rcases List.eq_nil_or_concat ys with rfl | ⟨ys, y, rfl⟩
      · exact Nat.zero_le _
      · obtain ⟨zs, hz⟩ := hs
        rw [List.concat_eq_append] at hz hall ⊢
        rw [← List.append_assoc] at hz
        obtain ⟨rfl, hy⟩ := List.append_inj' hz rfl
        cases hy
        rw [if_pos (hall x (by simp)), List.length_append]
        exact Nat.succ_le_succ (ih.mpr ⟨ys, List.suffix_append zs ys, rfl, fun y hy => hall y (by simp [hy])⟩)

theorem exists_hits_iff :
    (∃ ys, ys <:+: xs ∧ ys.length = k ∧ ∀ y ∈ ys, hit y) ↔ ∃ zs, zs <+: xs ∧ k ≤ streak hit zs := by
  constructor
  · rintro ⟨ys, ⟨before, after, rfl⟩, hlen, hall⟩
    exact ⟨before ++ ys, List.prefix_append _ _, le_streak_iff.mpr ⟨ys, List.suffix_append _ _, hlen, hall⟩⟩
  · rintro ⟨zs, hz, hk⟩
    obtain ⟨ys, hs, hlen, hall⟩ := le_streak_iff.mp hk
    exact ⟨ys, hs.isInfix.trans hz.isInfix, hlen, hall⟩

theorem prefix_filterMap {f : β → Option α} {l : List β} {zs : List α} (h : zs <+: l.filterMap f) :
    ∃ n, n ≤ l.length ∧ zs = (l.take n).filterMap f := by
  induction l generalizing zs with
  | nil => exact ⟨0, Nat.le_refl _, List.prefix_nil.mp h⟩
  | cons x l ih =>
    cases hx : f x with
    | none =>
      rw [List.filterMap_cons_none hx] at h
      obtain ⟨n, hn, rfl⟩ := ih h
      exact ⟨n + 1, Nat.succ_le_succ hn, by rw [List.take_succ_cons, List.filterMap_cons_none hx]⟩
    | some y =>
      rw [List.filterMap_cons_some hx] at h
      cases zs with
      | nil => exact ⟨0, Nat.zero_le _, rfl⟩
      | cons z zs =>
        obtain ⟨rfl, hzs⟩ := List.cons_prefix_cons.mp h
        obtain ⟨n, hn, rfl⟩ := ih hzs
        exact ⟨n + 1, Nat.succ_le_succ hn, by rw [List.take_succ_cons, List.filterMap_cons_some hx]⟩

end AvoLib
