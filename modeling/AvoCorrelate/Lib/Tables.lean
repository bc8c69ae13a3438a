import Mathlib.Data.List.Nodup
import Mathlib.Data.List.Basic
import Mathlib.Algebra.BigOperators.Group.List.Basic
import Mathlib.Algebra.GroupWithZero.Nat
/-!
# Keyed tables

A database table is a list of rows, in insertion order, with a primary key.
`Table key` carries the proof that no two rows share a key, so a lookup, an
`INSERT` and an `UPDATE ... WHERE key = k` need no side condition about it.

The lemmas say what each operation does to a lookup, to membership, to a
filtered view and to a column total. Services are verified with these and
never look at the row list again.
-/
namespace AvoLib

/-- Rows in insertion order, unique by `key`. -/
structure Table {α κ : Type} (key : α → κ) where
  rows : List α
  nodup : (rows.map key).Nodup

namespace Table

variable {α κ : Type} {key : α → κ}

instance : Membership α (Table key) := ⟨fun t x => x ∈ t.rows⟩

variable {t t' : Table key} {x y : α} {p : α → Bool} {g : α → Nat} {f : α → α} {hf : ∀ x, key (f x) = key x} {k : κ}

theorem mem_def : x ∈ t ↔ x ∈ t.rows := Iff.rfl

def empty : Table key := ⟨[], by simp⟩

theorem not_mem_empty (x : α) : x ∉ (empty : Table key) := List.not_mem_nil

/-- The first row, in insertion order, that satisfies `p`. -/
def find? (t : Table key) (p : α → Bool) : Option α := t.rows.find? p

theorem find?_mem (h : t.find? p = some x) : x ∈ t :=
  List.mem_of_find?_eq_some h

theorem find?_holds (h : t.find? p = some x) : p x = true :=
  List.find?_some h

theorem find?_none (h : t.find? p = none) : ∀ x ∈ t, p x = false := by
  intro x hx
  simpa using List.find?_eq_none.1 h x hx

theorem eq_of_key (hx : x ∈ t) (hy : y ∈ t) (h : key x = key y) : x = y :=
  List.inj_on_of_nodup_map t.nodup hx hy h

/-- `SELECT SUM(g)`. -/
def total (t : Table key) (g : α → Nat) : Nat := (t.rows.map g).sum

theorem total_congr {g' : α → Nat} (h : ∀ x ∈ t, g x = g' x) : t.total g = t.total g' := by
  unfold total
  rw [List.map_congr_left h]

theorem total_filter (t : Table key) (p : α → Bool) (g : α → Nat) :
    t.total (fun x => if p x then g x else 0) = ((t.rows.filter p).map g).sum := by
  unfold total
  induction t.rows with
  | nil => rfl
  | cons x l ih =>
    by_cases hp : p x
    · simp [hp, ih]
    · simp [hp, ih]

theorem total_eq_zero (h : ∀ x ∈ t, g x = 0) : t.total g = 0 := by
  rw [total_congr h]
  simp [total]

/-- `UPDATE ... SET f WHERE p`, for an update that keeps every key. -/
def modifyAll (t : Table key) (p : α → Bool) (f : α → α) (hf : ∀ x, key (f x) = key x) : Table key :=
  ⟨t.rows.map (fun x => if p x then f x else x), by
    have : (t.rows.map (fun x => if p x then f x else x)).map key = t.rows.map key := by
      rw [List.map_map]
      refine List.map_congr_left fun x _ => ?_
      simp only [Function.comp_apply]
      split
      · exact hf x
      · rfl
    rw [this]; exact t.nodup⟩

theorem mem_modifyAll : y ∈ t.modifyAll p f hf ↔ ∃ x ∈ t, y = if p x then f x else x := by
  simp only [mem_def, modifyAll, List.mem_map]
  exact ⟨fun ⟨x, hx, he⟩ => ⟨x, hx, he.symm⟩, fun ⟨x, hx, he⟩ => ⟨x, hx, he.symm⟩⟩

variable [DecidableEq κ]

/-- `SELECT ... WHERE key = k`. -/
def get? (t : Table key) (k : κ) : Option α := t.rows.find? (fun x => key x = k)

/-- `INSERT`; `none` is a primary-key conflict. -/
def insert? (t : Table key) (x : α) : Option (Table key) :=
  if h : key x ∈ t.rows.map key then none
  else some ⟨t.rows ++ [x], by
    rw [List.map_append, List.nodup_append]
    exact ⟨t.nodup, by simp, by rintro a ha b hb rfl; simp at hb; exact h (hb ▸ ha)⟩⟩

theorem map_key_modify (f : α → α) (hf : ∀ x, key (f x) = key x) (k : κ) (l : List α) :
    (l.map (fun x => if key x = k then f x else x)).map key = l.map key := by
  rw [List.map_map]
  refine List.map_congr_left fun x _ => ?_
  simp only [Function.comp_apply]
  split
  · exact hf x
  · rfl

/-- `UPDATE ... SET f WHERE key = k`, for an update that keeps the key. -/
def modify (t : Table key) (k : κ) (f : α → α) (hf : ∀ x, key (f x) = key x) : Table key :=
  ⟨t.rows.map (fun x => if key x = k then f x else x), by rw [map_key_modify f hf]; exact t.nodup⟩

/-! ## Lookups -/

theorem get?_mem (h : t.get? k = some x) : x ∈ t :=
  List.mem_of_find?_eq_some h

theorem get?_key (h : t.get? k = some x) : key x = k := by
  simpa using List.find?_some h

theorem get?_of_mem (hx : x ∈ t) : t.get? (key x) = some x := by
  obtain ⟨y, hy⟩ : ∃ y, t.get? (key x) = some y := by
    apply Option.isSome_iff_exists.1
    simp only [get?, List.find?_isSome, decide_eq_true_eq]
    exact ⟨x, hx, rfl⟩
  rw [hy, List.inj_on_of_nodup_map t.nodup (get?_mem hy) hx (get?_key hy)]

theorem get?_self (h : t.get? k = some x) : t.get? (key x) = some x :=
  get?_of_mem (get?_mem h)

theorem get?_none (h : t.get? k = none) : ∀ x ∈ t, key x ≠ k := by
  intro x hx he
  subst he
  rw [get?_of_mem hx] at h
  cases h

/-! ## Inserts -/

theorem insert?_rows (h : t.insert? x = some t') : t'.rows = t.rows ++ [x] := by
  unfold insert? at h
  split at h
  · cases h
  · cases h; rfl

theorem insert?_fresh (h : t.insert? x = some t') : ∀ y ∈ t, key y ≠ key x := by
  unfold insert? at h
  split at h
  · cases h
  · next hn => exact fun y hy he => hn (List.mem_map.2 ⟨y, hy, he⟩)

theorem exists_insert (h : ∀ y ∈ t, key y ≠ key x) : ∃ t', t.insert? x = some t' := by
  unfold insert?
  rw [dif_neg]
  · exact ⟨_, rfl⟩
  · intro hx
    obtain ⟨y, hy, hk⟩ := List.mem_map.1 hx
    exact h y hy hk

theorem mem_insert (h : t.insert? x = some t') : y ∈ t' ↔ y ∈ t ∨ y = x := by
  simp [mem_def, insert?_rows h]

theorem get?_insert (h : t.insert? x = some t') (k : κ) : t'.get? k = if key x = k then some x else t.get? k := by
  unfold get?
  rw [insert?_rows h, List.find?_append]
  by_cases hk : key x = k
  · have hn : t.rows.find? (fun y => key y = k) = none := by
      rw [List.find?_eq_none]
      intro y hy
      simpa [hk] using insert?_fresh h y hy
    simp [hn, hk]
  · simp [hk]

theorem get?_insert_of_some (h : t.insert? x = some t') (hy : t.get? k = some y) : t'.get? k = some y := by
  rw [get?_insert h, if_neg]
  · exact hy
  · intro hk
    exact insert?_fresh h y (get?_mem hy) ((get?_key hy).trans hk.symm)

/-! ## Updates -/

section Modify
variable {f : α → α} {hf : ∀ x, key (f x) = key x}

theorem get?_modify (t : Table key) (k k' : κ) :
    (t.modify k f hf).get? k' = if k' = k then (t.get? k).map f else t.get? k' := by
  simp only [get?, modify, List.find?_map]
  have hp : ((fun x => decide (key x = k')) ∘ fun x => if key x = k then f x else x) =
      fun x => decide (key x = k') := by
    funext x
    simp only [Function.comp_apply]
    split <;> simp [hf]
  rw [hp]
  cases hx : t.rows.find? (fun x => decide (key x = k')) with
  | none =>
    split
    · next he => subst he; simp [hx]
    · simp
  | some x =>
    have hk : key x = k' := by simpa using List.find?_some hx
    split
    · next he => subst he; simp [hx, hk]
    · next he => simp [hk, he]

variable {t : Table key} {k : κ}

theorem get?_modify_self {x : α} (h : t.get? k = some x) : (t.modify k f hf).get? k = some (f x) := by
  rw [get?_modify, if_pos rfl, h]; rfl

theorem get?_modify_ne {k' : κ} (h : k' ≠ k) : (t.modify k f hf).get? k' = t.get? k' := by
  rw [get?_modify, if_neg h]

theorem isSome_modify (t : Table key) (k k' : κ) : ((t.modify k f hf).get? k').isSome = (t.get? k').isSome := by
  rw [get?_modify]
  split
  · next he => rw [he, Option.isSome_map]
  · rfl

theorem mem_modify {y : α} : y ∈ t.modify k f hf ↔ (∃ x ∈ t, key x = k ∧ y = f x) ∨ (y ∈ t ∧ key y ≠ k) := by
  simp only [mem_def, modify, List.mem_map]
  constructor
  · rintro ⟨x, hx, rfl⟩
    split
    · next hk => exact .inl ⟨x, hx, hk, rfl⟩
    · next hk => exact .inr ⟨hx, hk⟩
  · rintro (⟨x, hx, hk, rfl⟩ | ⟨hy, hk⟩)
    · exact ⟨x, hx, if_pos hk⟩
    · exact ⟨y, hy, if_neg hk⟩

theorem modify_congr {g : α → α} {hg : ∀ x, key (g x) = key x} (h : ∀ x ∈ t, key x = k → f x = g x) :
    t.modify k f hf = t.modify k g hg := by
  have : t.rows.map (fun x => if key x = k then f x else x) = t.rows.map (fun x => if key x = k then g x else x) := by
    refine List.map_congr_left fun x hx => ?_
    split
    · next hk => exact h x hx hk
    · rfl
  simp only [modify, mk.injEq]
  exact this

end Modify

/-! ## Column totals -/

theorem total_insert (h : t.insert? x = some t') (g : α → Nat) : t'.total g = t.total g + g x := by
  simp [total, insert?_rows h]

theorem sum_modify_none {l : List α} (h : ∀ x ∈ l, key x ≠ k) :
    ((l.map (fun x => if key x = k then f x else x)).map g).sum = (l.map g).sum := by
  rw [List.map_map]
  congr 1
  refine List.map_congr_left fun x hx => ?_
  simp [h x hx]

theorem total_modify (h : t.get? k = some x) (g : α → Nat) : (t.modify k f hf).total g + g x = t.total g + g (f x) := by
  obtain ⟨rows, nodup⟩ := t
  have hx : x ∈ rows := get?_mem h
  have hk : key x = k := get?_key h
  simp only [total, modify]
  clear h
  induction rows with
  | nil => cases hx
  | cons y ys ih =>
    simp only [List.map_cons, List.nodup_cons, List.mem_map, not_exists, not_and] at nodup
    rcases List.mem_cons.1 hx with rfl | hx
    · have hn : ∀ z ∈ ys, key z ≠ k := fun z hz he => nodup.1 z hz (he.trans hk.symm)
      simp only [List.map_cons, List.sum_cons, hk, if_true, sum_modify_none hn]
      omega
    · have hy : key y ≠ k := fun he => nodup.1 x hx (hk.trans he.symm)
      have := ih nodup.2 hx
      simp only [List.map_cons, List.sum_cons, hy, if_false]
      omega

/-! ## Setting one row

`t.Sets x t'` says that `t'` is `t` with the row under `x`'s key set to `x`. An
insert and an update are both of this form, and so are several updates of one
row in a transaction; what a call leaves behind is stated with it. -/

theorem mem_iff_get? : x ∈ t ↔ t.get? (key x) = some x :=
  ⟨get?_of_mem, get?_mem⟩

theorem perm_of_get? (h : ∀ k, t'.get? k = t.get? k) : t'.rows.Perm t.rows := by
  rw [List.perm_ext_iff_of_nodup t'.nodup.of_map t.nodup.of_map]
  intro x
  rw [← mem_def, ← mem_def, mem_iff_get?, mem_iff_get?, h]

theorem total_of_get? (h : ∀ k, t'.get? k = t.get? k) (g : α → Nat) : t'.total g = t.total g :=
  ((perm_of_get? h).map g).sum_eq

def Sets (t : Table key) (x : α) (t' : Table key) : Prop :=
  ∀ k, t'.get? k = if k = key x then some x else t.get? k

theorem sets_insert (h : t.insert? x = some t') : t.Sets x t' := by
  intro k
  rw [get?_insert h]
  simp only [eq_comm]

theorem sets_modify (f : α → α) (hf : ∀ x, key (f x) = key x) (h : t.get? k = some x) :
    t.Sets (f x) (t.modify k f hf) := by
  intro k'
  have hk : key (f x) = k := (hf x).trans (get?_key h)
  rw [get?_modify, hk, h]
  rfl

theorem sets_self (h : t.get? (key x) = some x) : t.Sets x t := by
  intro k
  split
  · next hk => rw [hk, h]
  · rfl

namespace Sets
variable {t t' t'' : Table key} {x y z : α} {k : κ}

theorem get?_self (h : t.Sets x t') : t'.get? (key x) = some x := by rw [h, if_pos rfl]

theorem get?_ne (h : t.Sets x t') (hk : k ≠ key x) : t'.get? k = t.get? k := by rw [h, if_neg hk]

theorem isSome {k₀ : κ} (h : t.Sets x t') (hy : t.get? k₀ = some y) (hk : key x = key y) (k : κ) :
    (t'.get? k).isSome = (t.get? k).isSome := by
  rw [h k]
  split
  · next he => rw [he, hk, Table.get?_self hy]; rfl
  · rfl

theorem isSome_mono (h : t.Sets x t') (hk : (t.get? k).isSome = true) : (t'.get? k).isSome = true := by
  rw [h k]
  split
  · rfl
  · exact hk

theorem trans (h : t.Sets x t') (h' : t'.Sets y t'') (hk : key x = key y) : t.Sets y t'' := by
  intro k
  rw [h', h, hk]
  split <;> rfl

theorem of_trans (h : t.Sets x t') (h' : t.Sets y t'') (hk : key x = key y) : t'.Sets y t'' := by
  intro k
  rw [h', h, hk]
  split <;> rfl

theorem mem_iff (h : t.Sets x t') : y ∈ t' ↔ y = x ∨ (y ∈ t ∧ key y ≠ key x) := by
  rw [mem_iff_get?, mem_iff_get?, h]
  by_cases hk : key y = key x
  · simp [hk, eq_comm]
  · simp only [hk, if_false, ne_eq, not_false_eq_true, and_true]
    constructor
    · exact .inr
    · rintro (rfl | hy)
      · exact absurd rfl hk
      · exact hy

theorem total_old (h : t.Sets x t') (hy : t.get? (key x) = some y) (g : α → Nat) :
    t'.total g + g y = t.total g + g x := by
  let f : α → α := fun z => if key z = key x then x else z
  have hf : ∀ z, key (f z) = key z := by
    intro z
    by_cases hz : key z = key x <;> simp [f, hz]
  have hfy : f y = x := by simp [f, get?_key hy]
  have hs : t.Sets (f y) (t.modify (key x) f hf) := sets_modify f hf hy
  have ht : (t.modify (key x) f hf).total g + g y = t.total g + g (f y) := total_modify hy g
  rw [hfy] at hs ht
  rw [← ht, total_of_get? (t := t.modify (key x) f hf) fun k => by rw [h, hs]]

end Sets

end Table

end AvoLib
