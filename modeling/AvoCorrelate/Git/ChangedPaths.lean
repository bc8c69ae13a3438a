import AvoCorrelate.Git.Topology
import Mathlib.Data.Char
import Mathlib.Data.List.Dedup
import Mathlib.Data.List.Lex
import Mathlib.Data.List.Sort
/-!
# Changed paths

The paths that a publication plan says have changed are read from what `git diff --name-only`
prints. Git prints an odd name as a quoted C string, and for a rename only the new name; the
reader undoes neither. `changed_paths_complete_iff`: the plan names exactly the paths that
differ, if no rename was detected and no name that differs needs quotes.
-/
open AvoLib

namespace AvoCorrelate.Git

abbrev Text := List Char

/-! ## What Git prints -/

/-- A tree of Git: what stands at a path, if anything. No path is empty. -/
structure GitTree (ε : Type) where
  entry : Bytes → Option ε
  named : entry [] = none

/-- The bytes that Git does not print as they are: control characters, the double quote, the
backslash and what is not ASCII. -/
def odd (b : UInt8) : Bool := b < 32 ∨ b = 34 ∨ b = 92 ∨ 127 ≤ b

def NeedsQuotes (name : Bytes) : Prop := ∃ b ∈ name, odd b = true

instance (name : Bytes) : Decidable (NeedsQuotes name) := inferInstanceAs (Decidable (∃ b ∈ name, odd b = true))

/-- A byte inside quotes: the letter C has for it, or three octal digits. -/
def quoteByte (b : UInt8) : Bytes :=
  match b.toNat with
  | 7 => [92, 97]
  | 8 => [92, 98]
  | 9 => [92, 116]
  | 10 => [92, 110]
  | 11 => [92, 118]
  | 12 => [92, 102]
  | 13 => [92, 114]
  | 34 => [92, 34]
  | 92 => [92, 92]
  | _ => if odd b then [92, 48 + b / 64, 48 + b / 8 % 8, 48 + b % 8] else [b]

def quote (name : Bytes) : Bytes := 34 :: name.flatMap quoteByte ++ [34]

def shown (name : Bytes) : Bytes := if NeedsQuotes name then quote name else name

section Diff
variable {ε : Type}

/-- `git diff` of two trees. Of an entry that it takes for renamed, gone from one path and new
at another, it prints the new name only; the old names are `renamed`. -/
structure Diff (base candidate : GitTree ε) where
  names : List Bytes
  renamed : List Bytes
  gone : ∀ name ∈ renamed, base.entry name ≠ none ∧ candidate.entry name = none
  complete : ∀ name, name ∈ names ↔ base.entry name ≠ candidate.entry name ∧ name ∉ renamed

def Diff.stdout {base candidate : GitTree ε} (d : Diff base candidate) : Bytes :=
  d.names.flatMap fun name => shown name ++ [nl]

end Diff

/-! ## The reader -/

inductive GitRepositoryError
  | repository (message : String)
  deriving DecidableEq

/-- `bytes.decode("utf-8", "replace")`, the identity on ASCII, and `str.casefold`. -/
structure Codec where
  decode : Bytes → Text
  casefold : Text → Text
  ascii : ∀ bytes, (∀ b ∈ bytes, b < 128) → decode bytes = bytes.map fun b => Char.ofNat b.toNat

/-- `sorted(_, key=lambda path: (path.casefold(), path))`. -/
def byKey (C : Codec) (paths : List Text) : List Text :=
  paths.insertionSort fun a b => C.casefold a < C.casefold b ∨ C.casefold a = C.casefold b ∧ a ≤ b

def Unsafe (path : Text) : Prop := path = [] ∨ ['/'] <+: path ∨ ['\\'] <+: path ∨ ['.', '.'] ∈ path.splitOn '/'

instance (path : Text) : Decidable (Unsafe path) :=
  inferInstanceAs (Decidable (path = [] ∨ ['/'] <+: path ∨ ['\\'] <+: path ∨ ['.', '.'] ∈ path.splitOn '/'))

/-- `_changed_paths`, from the output of the command that ran; `limit` is `max_output_bytes`. -/
def changedPaths (C : Codec) (limit : Nat) (stdout : Bytes) : Except GitRepositoryError (List Text) := do
  require (stdout.length ≤ limit) (.repository "Git command output exceeded configured bound")
  let output := C.decode stdout
  require ((Text.utf8 output).length ≤ limit) (.repository "Git command output exceeded configured bound")
  let paths := (Text.textLines output).filter (· ≠ [])
  require (∀ path ∈ paths, ¬ Unsafe path) (.repository "Git changed path is unsafe")
  return byKey C paths.dedup

/-- `_validate_changed_paths`, on the paths of a plan. -/
def validateChangedPaths (C : Codec) (paths : List Text) : Except GitRepositoryError Unit := do
  require (paths = byKey C paths ∧ paths ≠ []) (.repository "candidate changed paths are malformed")
  require ((paths.map C.casefold).Nodup) (.repository "candidate changed paths contain a collision")
  require (∀ path ∈ paths, ¬ (path = [] ∨ ['/'] <+: path ∨ ['\\'] <+: path ∨
    ['.', '.'] ∈ (path.map fun c => if c = '\\' then '/' else c).splitOn '/'))
    (.repository "candidate changed path is unsafe")

/-! ## Printed names -/

theorem plain_of_not_odd {b : UInt8} (h : odd b = false) : 32 ≤ b ∧ b < 127 := by
  simp only [odd, decide_eq_false_iff_not, not_or] at h
  exact ⟨UInt8.not_lt.mp h.1, UInt8.not_le.mp h.2.2.2⟩

theorem octal_plain {d : UInt8} (h : d.toNat < 8) : 32 ≤ 48 + d ∧ 48 + d < 127 := by
  rw [UInt8.le_iff_toNat_le, UInt8.lt_iff_toNat_lt, UInt8.toNat_add]
  simp only [UInt8.reduceToNat]
  omega

theorem quoteByte_plain (b : UInt8) : ∀ c ∈ quoteByte b, 32 ≤ c ∧ c < 127 := by
  intro c hc
  have hb := b.toNat_lt
  unfold quoteByte at hc
  split at hc
  case h_10 =>
    split at hc
    · simp only [List.mem_cons, List.not_mem_nil, or_false] at hc
      rcases hc with rfl | rfl | rfl | rfl
      · decide
      · exact octal_plain (by rw [UInt8.toNat_div]; simp only [UInt8.reduceToNat]; omega)
      · exact octal_plain (by rw [UInt8.toNat_mod]; simp only [UInt8.reduceToNat]; omega)
      · exact octal_plain (by rw [UInt8.toNat_mod]; simp only [UInt8.reduceToNat]; omega)
    · next hodd =>
      rw [List.mem_singleton] at hc
      subst hc
      exact plain_of_not_odd (by simpa using hodd)
  all_goals
    simp only [List.mem_cons, List.not_mem_nil, or_false] at hc
    rcases hc with rfl | rfl <;> decide

theorem quoteByte_ne_nil (b : UInt8) : 1 ≤ (quoteByte b).length := by
  unfold quoteByte
  split
  case h_10 => split <;> simp
  all_goals simp

theorem shown_plain (name : Bytes) : ∀ b ∈ shown name, 32 ≤ b ∧ b < 127 := by
  intro b hb
  unfold shown at hb
  split at hb
  · simp only [quote, List.cons_append, List.mem_cons, List.mem_append, List.mem_flatMap, List.not_mem_nil,
      or_false] at hb
    rcases hb with rfl | ⟨c, -, hc⟩ | rfl
    · decide
    · exact quoteByte_plain c b hc
    · decide
  · next hplain =>
    refine plain_of_not_odd ?_
    by_contra hodd
    exact hplain ⟨b, hb, by simpa using hodd⟩

theorem shown_ne_nil {name : Bytes} (h : name ≠ []) : shown name ≠ [] := by
  unfold shown
  split
  · simp [quote]
  · exact h

theorem length_quote (name : Bytes) : name.length < (quote name).length := by
  have hinside : name.length ≤ (name.flatMap quoteByte).length := by
    induction name with
    | nil => simp
    | cons b name ih =>
      have := quoteByte_ne_nil b
      simp only [List.length_cons, List.flatMap_cons, List.length_append]
      omega
  simp only [quote, List.length_cons, List.length_append, List.length_nil, List.cons_append]
  omega

/-! ## Printed lines are read back -/

def asText (bytes : Bytes) : Text := bytes.map fun b => Char.ofNat b.toNat

theorem utf8_asText {bytes : Bytes} (h : ∀ b ∈ bytes, b < 128) : Text.utf8 (asText bytes) = bytes := by
  have hall : ∀ n < 128, String.utf8EncodeChar (Char.ofNat n) = [UInt8.ofNat n] := by
    set_option maxRecDepth 4000 in decide
  induction bytes with
  | nil => rfl
  | cons b bytes ih =>
    have hb : b.toNat < 128 := UInt8.lt_iff_toNat_lt.mp (h b (by simp))
    have hrest := ih fun c hc => h c (by simp [hc])
    simp only [asText, Text.utf8, List.map_cons, List.flatMap_cons] at hrest ⊢
    rw [hrest, hall _ hb, UInt8.ofNat_toNat]
    rfl

theorem lineEnd_asText {bytes : Bytes} (h : ∀ b ∈ bytes, 32 ≤ b ∧ b < 127) : ∀ c ∈ asText bytes, Text.lineEnd c = false := by
  have hall : ∀ n < 127, 32 ≤ n → Text.lineEnd (Char.ofNat n) = false := by
    set_option maxRecDepth 4000 in decide
  intro c hc
  obtain ⟨b, hb, rfl⟩ := List.mem_map.mp hc
  obtain ⟨hlow, hhigh⟩ := h b hb
  exact hall _ (UInt8.lt_iff_toNat_lt.mp hhigh) (UInt8.le_iff_toNat_le.mp hlow)

theorem textLines_shown (names : List Bytes) :
    Text.textLines (asText (names.flatMap fun name => shown name ++ [nl])) = names.map fun name => asText (shown name) := by
  induction names with
  | nil => rfl
  | cons name names ih =>
    have htext : asText ((name :: names).flatMap fun name => shown name ++ [nl]) =
        asText (shown name) ++ '\n' :: asText (names.flatMap fun name => shown name ++ [nl]) := by
      simp only [asText, List.flatMap_cons, List.map_append, List.append_assoc]
      rfl
    rw [htext, Text.textLines, Text.splitlines_line _ (lineEnd_asText (shown_plain name)) (by decide) (by decide)]
    exact congrArg _ ih

section Complete
variable {ε : Type} {base candidate : GitTree ε}

theorem Diff.stdout_ascii (d : Diff base candidate) : ∀ b ∈ d.stdout, b < 128 := by
  intro b hb
  obtain ⟨name, -, hb⟩ := List.mem_flatMap.mp hb
  rw [List.mem_append, List.mem_singleton] at hb
  rcases hb with hshown | rfl
  · exact UInt8.lt_trans (shown_plain name b hshown).2 (by decide)
  · decide

theorem Diff.name_ne_nil (d : Diff base candidate) {name : Bytes} (h : name ∈ d.names) : name ≠ [] := by
  rintro rfl
  have hdiffers := ((d.complete []).mp h).1
  rw [base.named, candidate.named] at hdiffers
  exact hdiffers rfl

variable {C : Codec} {limit : Nat} {d : Diff base candidate} {paths : List Text} {stdout : Bytes}

theorem mem_changedPaths (h : changedPaths C limit d.stdout = .ok paths) {path : Text} :
    path ∈ paths ↔ ∃ name ∈ d.names, asText (shown name) = path := by
  simp only [changedPaths, bind_ok, require_ok, pure_ok] at h
  obtain ⟨_, -, _, -, _, -, rfl⟩ := h
  rw [byKey, (List.perm_insertionSort _ _).mem_iff, List.mem_dedup, List.mem_filter, C.ascii _ d.stdout_ascii]
  have hlines := textLines_shown d.names
  rw [← Diff.stdout] at hlines
  rw [← asText, hlines, List.mem_map]
  constructor
  · rintro ⟨hmem, -⟩
    exact hmem
  · rintro ⟨name, hname, rfl⟩
    refine ⟨⟨name, hname, rfl⟩, ?_⟩
    have hne := shown_ne_nil (d.name_ne_nil hname)
    simpa [asText] using hne

theorem utf8_changedPaths (h : changedPaths C limit d.stdout = .ok paths) (name : Bytes) :
    (∃ path ∈ paths, Text.utf8 path = name) ↔ ∃ n ∈ d.names, shown n = name := by
  have hread : ∀ n, Text.utf8 (asText (shown n)) = shown n := fun n =>
    utf8_asText fun b hb => UInt8.lt_trans (shown_plain n b hb).2 (by decide)
  constructor
  · rintro ⟨path, hpath, rfl⟩
    obtain ⟨n, hn, rfl⟩ := (mem_changedPaths h).mp hpath
    exact ⟨n, hn, (hread n).symm⟩
  · rintro ⟨n, hn, rfl⟩
    exact ⟨_, (mem_changedPaths h).mpr ⟨n, hn, rfl⟩, hread n⟩

/-- A plan names the paths that differ, each under its real name, exactly if Git detected no
rename and no name that differs needs quotes. -/
theorem changed_paths_complete_iff (C : Codec) (limit : Nat) (d : Diff base candidate) (paths : List Text)
    (h : changedPaths C limit d.stdout = .ok paths) :
    (∀ name, (∃ path ∈ paths, Text.utf8 path = name) ↔ base.entry name ≠ candidate.entry name) ↔
      d.renamed = [] ∧ ∀ name, base.entry name ≠ candidate.entry name → ¬ NeedsQuotes name := by
  simp only [utf8_changedPaths h]
  constructor
  · intro heq
    have hplain : ∀ name, base.entry name ≠ candidate.entry name → ¬ NeedsQuotes name := by
      -- A shortest name that needs quotes would have to be the quoted form of a shorter one.
      intro name
      induction hlen : name.length using Nat.strong_induction_on generalizing name with
      | _ length ih =>
        intro hdiffers hneeds
        obtain ⟨n, hn, hshown⟩ := (heq name).mpr hdiffers
        by_cases hquotes : NeedsQuotes n
        · rw [shown, if_pos hquotes] at hshown
          have hshorter := length_quote n
          rw [hshown, hlen] at hshorter
          exact ih n.length hshorter n rfl ((d.complete n).mp hn).1 hquotes
        · rw [shown, if_neg hquotes] at hshown
          exact hquotes (hshown ▸ hneeds)
    refine ⟨?_, hplain⟩
    rw [List.eq_nil_iff_forall_not_mem]
    intro old hold
    obtain ⟨hbase, hcandidate⟩ := d.gone old hold
    have hdiffers : base.entry old ≠ candidate.entry old := by
      rw [hcandidate]
      exact hbase
    obtain ⟨n, hn, hshown⟩ := (heq old).mpr hdiffers
    rw [shown, if_neg (hplain n ((d.complete n).mp hn).1)] at hshown
    subst hshown
    exact ((d.complete n).mp hn).2 hold
  · rintro ⟨hrenamed, hplain⟩ name
    constructor
    · rintro ⟨n, hn, rfl⟩
      have hdiffers := ((d.complete n).mp hn).1
      rwa [shown, if_neg (hplain n hdiffers)]
    · intro hdiffers
      have hname := (d.complete name).mpr ⟨hdiffers, by simp [hrenamed]⟩
      exact ⟨name, hname, by rw [shown, if_neg (hplain name hdiffers)]⟩

/-! ## What publishing checks again -/

theorem byKey_sorted (C : Codec) (paths : List Text) : (byKey C paths).Pairwise fun a b =>
    C.casefold a < C.casefold b ∨ C.casefold a = C.casefold b ∧ a ≤ b := by
  have : Std.Total fun a b : Text => C.casefold a < C.casefold b ∨ C.casefold a = C.casefold b ∧ a ≤ b := by
    refine ⟨fun a b => ?_⟩
    rcases lt_trichotomy (C.casefold a) (C.casefold b) with hlt | heq | hgt
    · exact .inl (.inl hlt)
    · rcases le_total a b with hab | hba
      · exact .inl (.inr ⟨heq, hab⟩)
      · exact .inr (.inr ⟨heq.symm, hba⟩)
    · exact .inr (.inl hgt)
  have : IsTrans Text fun a b => C.casefold a < C.casefold b ∨ C.casefold a = C.casefold b ∧ a ≤ b := by
    refine ⟨fun a b c hab hbc => ?_⟩
    rcases hab with hab | ⟨hab, hab'⟩
    · rcases hbc with hbc | ⟨hbc, -⟩
      · exact .inl (lt_trans hab hbc)
      · exact .inl (hbc ▸ hab)
    · rcases hbc with hbc | ⟨hbc, hbc'⟩
      · exact .inl (hab ▸ hbc)
      · exact .inr ⟨hab.trans hbc, le_trans hab' hbc'⟩
  exact List.pairwise_insertionSort _ _

/-- The order that publishing expects is the one the paths of a plan are in. -/
theorem changedPaths_ordered (h : changedPaths C limit stdout = .ok paths) : paths = byKey C paths := by
  simp only [changedPaths, bind_ok, require_ok, pure_ok] at h
  obtain ⟨_, -, _, -, _, -, rfl⟩ := h
  exact (List.Pairwise.insertionSort_eq (byKey_sorted C _)).symm

/-- Publishing refuses a plan that was made here if nothing changed, if two paths differ in case
only, or if a path leaves the tree once a backslash counts as a separator. -/
theorem validateChangedPaths_ok (h : changedPaths C limit stdout = .ok paths) : validateChangedPaths C paths = .ok () ↔
      paths ≠ [] ∧ (paths.map C.casefold).Nodup ∧
        ∀ path ∈ paths, ['.', '.'] ∉ (path.map fun c => if c = '\\' then '/' else c).splitOn '/' := by
  have hordered := changedPaths_ordered h
  simp only [changedPaths, bind_ok, require_ok, pure_ok] at h
  obtain ⟨_, -, _, -, _, hsafe, rfl⟩ := h
  have hsafe' : ∀ path ∈ byKey C ((Text.textLines (C.decode stdout)).filter (· ≠ [])).dedup, ¬ Unsafe path := by
    intro path hpath
    rw [byKey, (List.perm_insertionSort _ _).mem_iff, List.mem_dedup] at hpath
    exact hsafe path hpath
  simp only [validateChangedPaths, bind_ok, require_ok]
  constructor
  · rintro ⟨_, ⟨-, hne⟩, _, hnodup, hinside⟩
    refine ⟨hne, hnodup, ?_⟩
    intro path hpath hleaves
    exact hinside path hpath (.inr (.inr (.inr hleaves)))
  · rintro ⟨hne, hnodup, hinside⟩
    refine ⟨(), ⟨hordered, hne⟩, (), hnodup, ?_⟩
    rintro path hpath (hempty | hslash | hbackslash | hleaves)
    · exact hsafe' path hpath (.inl hempty)
    · exact hsafe' path hpath (.inr (.inl hslash))
    · exact hsafe' path hpath (.inr (.inr (.inl hbackslash)))
    · exact hinside path hpath hleaves

end Complete

/-! ## A renamed file -/

namespace Sample

def codec : Codec where
  decode := asText
  casefold := id
  ascii _ _ := rfl

def oneFile (name : Bytes) (content : Nat) (h : name ≠ []) : GitTree Nat where
  entry n := if n = name then some content else none
  named := by simp [h.symm]

/-- The file `a`, renamed to `b`. -/
def rename : Diff (oneFile [97] 0 (by decide)) (oneFile [98] 0 (by decide)) where
  names := [[98]]
  renamed := [[97]]
  gone := by simp [oneFile]
  complete name := by
    by_cases ha : name = [97]
    · simp [oneFile, ha]
    · by_cases hb : name = [98]
      · simp [oneFile, hb]
      · simp [oneFile, ha, hb]

/-- The file `a`, with another content. -/
def edit : Diff (oneFile [97] 0 (by decide)) (oneFile [97] 1 (by decide)) where
  names := [[97]]
  renamed := []
  gone := by simp
  complete name := by
    by_cases ha : name = [97]
    · simp [oneFile, ha]
    · simp [oneFile, ha]

end Sample

theorem validateChangedPaths_ok_edit : changedPaths Sample.codec 100 Sample.edit.stdout = .ok [['a']] ∧
    validateChangedPaths Sample.codec [['a']] = .ok () := by
  have hpaths : changedPaths Sample.codec 100 Sample.edit.stdout = .ok [['a']] := by decide
  exact ⟨hpaths, (validateChangedPaths_ok hpaths).mpr ⟨by decide, by decide, List.forall_mem_singleton.mpr (by decide)⟩⟩

/-- Of a renamed file the plan does not name the path that is gone. -/
theorem renamed_path_missing :
    ¬ ∀ (base candidate : GitTree Nat) (C : Codec) limit (d : Diff base candidate) paths,
      changedPaths C limit d.stdout = .ok paths →
        ∀ name, (∃ path ∈ paths, Text.utf8 path = name) ↔ base.entry name ≠ candidate.entry name := by
  intro hclaim
  have hpaths : changedPaths Sample.codec 100 Sample.rename.stdout = .ok [['b']] := by decide
  have h := hclaim _ _ _ _ _ _ hpaths [97]
  obtain ⟨path, hpath, hname⟩ := h.mpr (by decide)
  rw [List.mem_singleton] at hpath
  subst hpath
  exact absurd hname (by decide)

theorem changed_paths_complete_iff_edit :
    (∀ name, (∃ path ∈ [['a']], Text.utf8 path = name) ↔
      (Sample.oneFile [97] 0 (by decide)).entry name ≠ (Sample.oneFile [97] 1 (by decide)).entry name) ↔
      Sample.edit.renamed = [] ∧ ∀ name,
        (Sample.oneFile [97] 0 (by decide)).entry name ≠ (Sample.oneFile [97] 1 (by decide)).entry name →
          ¬ NeedsQuotes name :=
  changed_paths_complete_iff Sample.codec 100 Sample.edit _ (by decide)

end AvoCorrelate.Git
