import Mathlib.Data.List.Basic
/-!
# Dictionaries

A dictionary is the list of its members, a key each with its value, in the order in which the
keys were first assigned.
-/
namespace AvoLib.Dict

variable {κ α : Type} [DecidableEq κ]

/-- An assignment to a key: its value is replaced, or the key comes last. -/
def assign (key : κ) (value : α) : List (κ × α) → List (κ × α)
  | [] => [(key, value)]
  | member :: rest => if member.1 = key then (key, value) :: rest else member :: assign key value rest

def update (key : κ) (value : α) (members : List (κ × α)) : List (κ × α) :=
  members.map fun member => if member.1 = key then (key, value) else member

variable {key : κ} {members : List (κ × α)} {value : α}

theorem beq_false {k : κ} (h : k ≠ key) : (k == key) = false := by simpa using h

theorem lookup_assign (key : κ) (value : α) (members : List (κ × α)) (k : κ) :
    (assign key value members).lookup k = if k = key then some value else members.lookup k := by
  induction members with
  | nil =>
    by_cases hk : k = key
    · simp [assign, hk]
    · simp [assign, List.lookup_cons, beq_false hk, hk]
  | cons m members ih =>
    obtain ⟨name, item⟩ := m
    rw [assign]
    by_cases hname : name = key
    · subst hname
      by_cases hk : k = name
      · simp [hk]
      · simp [List.lookup_cons, beq_false hk, hk]
    · rw [if_neg hname, List.lookup_cons, List.lookup_cons, ih]
      by_cases hk : k = name
      · subst hk
        simp [hname]
      · rw [beq_false hk]

theorem lookup_map (f : κ → α → α) (members : List (κ × α)) (key : κ) :
    (members.map fun m => (m.1, f m.1 m.2)).lookup key = (members.lookup key).map (f key) := by
  induction members with
  | nil => rfl
  | cons m members ih =>
    obtain ⟨name, item⟩ := m
    rw [List.map_cons, List.lookup_cons, List.lookup_cons]
    by_cases hk : key = name
    · simp [hk]
    · rw [beq_false hk, ih]

theorem lookup_filter (p : κ → Bool) (members : List (κ × α)) (key : κ) :
    (members.filter fun m => p m.1).lookup key = if p key then members.lookup key else none := by
  induction members with
  | nil => simp
  | cons m members ih =>
    obtain ⟨name, item⟩ := m
    by_cases hk : key = name
    · subst hk
      by_cases hp : p key = true
      · simp [hp]
      · rw [List.filter_cons_of_neg (by simpa using hp), ih, if_neg hp, if_neg hp]
    · by_cases hp : p name = true
      · rw [List.filter_cons_of_pos (by simpa using hp), List.lookup_cons, beq_false hk, List.lookup_cons, beq_false hk, ih]
      · rw [List.filter_cons_of_neg (by simpa using hp), List.lookup_cons, beq_false hk, ih]

theorem update_eq_map (key : κ) (value : α) (members : List (κ × α)) :
    update key value members = members.map fun m => (m.1, if m.1 = key then value else m.2) := by
  rw [update]
  refine List.map_congr_left fun m _ => ?_
  by_cases h : m.1 = key
  · rw [if_pos h, if_pos h, h]
  · rw [if_neg h, if_neg h]

theorem lookup_update (key : κ) (value : α) (members : List (κ × α)) (k : κ) :
    (update key value members).lookup k = (members.lookup k).map fun item => if k = key then value else item := by
  rw [update_eq_map, lookup_map fun name item => if name = key then value else item]

theorem lookup_of_mem (h : (members.map Prod.fst).Nodup) {m : κ × α} (hmem : m ∈ members) :
    members.lookup m.1 = some m.2 := by
  induction members with
  | nil => cases hmem
  | cons first members ih =>
    rw [List.map_cons, List.nodup_cons] at h
    rw [List.lookup_cons]
    rcases List.mem_cons.mp hmem with rfl | hmem
    · simp
    · have hne : m.1 ≠ first.1 := by
        intro heq
        exact h.1 (heq ▸ List.mem_map_of_mem hmem)
      rw [beq_false hne]
      exact ih h.2 hmem

theorem update_of_lookup (h : (members.map Prod.fst).Nodup) (hlookup : members.lookup key = some value) (f : α → α) :
    update key (f value) members = members.map fun m => (m.1, if m.1 = key then f m.2 else m.2) := by
  rw [update_eq_map]
  refine List.map_congr_left fun m hm => ?_
  by_cases hkey : m.1 = key
  · have hvalue := lookup_of_mem h hm
    rw [hkey, hlookup] at hvalue
    rw [if_pos hkey, if_pos hkey, Option.some.inj hvalue]
  · rw [if_neg hkey, if_neg hkey]

theorem map_of_lookup_none (h : members.lookup key = none) (f : α → α) :
    (members.map fun m => (m.1, if m.1 = key then f m.2 else m.2)) = members := by
  rw [List.lookup_eq_none_iff] at h
  calc (members.map fun m => (m.1, if m.1 = key then f m.2 else m.2))
      = members.map id := by
        refine List.map_congr_left fun m hm => ?_
        have hne : m.1 ≠ key := by
          intro heq
          have := h m hm
          simp [heq] at this
        rw [if_neg hne, id]
    _ = members := List.map_id members

theorem map_assign (f : κ → α → α) (h : f key value = value) (members : List (κ × α)) :
    (assign key value members).map (fun m => (m.1, f m.1 m.2)) = assign key value (members.map fun m => (m.1, f m.1 m.2)) := by
  induction members with
  | nil => simp [assign, h]
  | cons m members ih =>
    by_cases hm : m.1 = key
    · simp [assign, hm, h]
    · simp [assign, hm, ih]

theorem keys_assign (key : κ) (value : α) (members : List (κ × α)) :
    (assign key value members).map Prod.fst =
      if key ∈ members.map Prod.fst then members.map Prod.fst else members.map Prod.fst ++ [key] := by
  induction members with
  | nil => simp [assign]
  | cons m members ih =>
    by_cases hm : m.1 = key
    · simp [assign, hm]
    · have hkey : ¬ key = m.1 := fun heq => hm heq.symm
      rw [assign, if_neg hm, List.map_cons, ih, List.map_cons]
      by_cases hmem : key ∈ members.map Prod.fst
      · rw [if_pos hmem, if_pos (List.mem_cons_of_mem _ hmem)]
      · rw [if_neg hmem, if_neg (by simpa [hkey] using hmem), List.cons_append]

theorem nodup_assign (h : (members.map Prod.fst).Nodup) : ((assign key value members).map Prod.fst).Nodup := by
  rw [keys_assign]
  split
  · exact h
  · next hnew => exact List.nodup_append.mpr ⟨h, by simp, fun a ha b hb heq => by simp_all⟩

end AvoLib.Dict
