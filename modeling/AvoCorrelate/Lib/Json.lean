import Mathlib.Tactic.IntervalCases
/-!
# The text of a flat object

An object whose members are strings and numbers, written without blanks in the canonical
form of JSON, and its reader. What comes after the text of an object is left over when it
is read (`read_text`), so the text of an object does not begin with another one
(`text_prefix`).
-/
namespace AvoLib.Json

inductive Scalar
  | number (n : Nat)
  | string (s : List Char)
  deriving DecidableEq

abbrev Member := List Char × Scalar

/-! ## Writing -/

def quote : Char := Char.ofNat 34

def backslash : Char := Char.ofNat 92

/-- A character of a string. Control characters have no other spelling. -/
def escape (c : Char) : List Char :=
  if c = quote ∨ c = backslash then [backslash, c]
  else if c.toNat = 8 then [backslash, 'b']
  else if c.toNat = 9 then [backslash, 't']
  else if c.toNat = 10 then [backslash, 'n']
  else if c.toNat = 12 then [backslash, 'f']
  else if c.toNat = 13 then [backslash, 'r']
  else if c.toNat < 32 then [backslash, 'u', '0', '0', Nat.digitChar (c.toNat / 16), Nat.digitChar (c.toNat % 16)]
  else [c]

def quoted (s : List Char) : List Char := quote :: (s.flatMap escape ++ [quote])

def Scalar.text : Scalar → List Char
  | .number n => Nat.toDigits 10 n
  | .string s => quoted s

def memberText (m : Member) : List Char := quoted m.1 ++ ':' :: m.2.text

def membersText : List Member → List Char
  | [] => ['}']
  | [m] => memberText m ++ ['}']
  | m :: ms => memberText m ++ ',' :: membersText ms

def text (ms : List Member) : List Char := '{' :: membersText ms

/-! ## Reading -/

def hexValue (c : Char) : Nat := if c.isDigit then c.toNat - 48 else c.toNat - 87

/-- What the character after a backslash stands for. -/
def escaped (c : Char) : Option Char :=
  if c = quote ∨ c = backslash then some c
  else if c = 'b' then some (Char.ofNat 8)
  else if c = 't' then some (Char.ofNat 9)
  else if c = 'n' then some (Char.ofNat 10)
  else if c = 'f' then some (Char.ofNat 12)
  else if c = 'r' then some (Char.ofNat 13)
  else none

def readString : List Char → Option (List Char × List Char)
  | [] => none
  | c :: cs =>
    if c = quote then some ([], cs)
    else if c = backslash then
      match cs with
      | 'u' :: '0' :: '0' :: x :: y :: cs =>
        (readString cs).map fun p => (Char.ofNat (16 * hexValue x + hexValue y) :: p.1, p.2)
      | e :: cs => (escaped e).bind fun c => (readString cs).map fun p => (c :: p.1, p.2)
      | [] => none
    else if c.toNat < 32 then none
    else (readString cs).map fun p => (c :: p.1, p.2)
termination_by structural cs => cs

def readScalar (cs : List Char) : Option (Scalar × List Char) :=
  match cs with
  | [] => none
  | c :: rest =>
    if c = quote then (readString rest).map fun p => (.string p.1, p.2)
    else if c.isDigit then some (.number (Nat.ofDigitChars 10 (cs.takeWhile Char.isDigit) 0), cs.dropWhile Char.isDigit)
    else none

def readMember (cs : List Char) : Option (Member × List Char) :=
  match cs with
  | [] => none
  | c :: cs =>
    if c = quote then
      (readString cs).bind fun k =>
        match k.2 with
        | ':' :: cs => (readScalar cs).map fun v => ((k.1, v.1), v.2)
        | _ => none
    else none

def readMembers : Nat → List Char → Option (List Member × List Char)
  | 0, _ => none
  | fuel + 1, cs =>
    (readMember cs).bind fun m =>
      match m.2 with
      | '}' :: cs => some ([m.1], cs)
      | ',' :: cs => (readMembers fuel cs).map fun ms => (m.1 :: ms.1, ms.2)
      | _ => none

def read (cs : List Char) : Option (List Member × List Char) :=
  match cs with
  | '{' :: '}' :: cs => some ([], cs)
  | '{' :: cs => readMembers cs.length cs
  | _ => none

/-- The object that this is the text of. -/
def loads (cs : List Char) : Option (List Member) :=
  match read cs with
  | some (ms, []) => some ms
  | _ => none

/-! ## What is written is read -/

variable {c : Char} {cs : List Char} {m : Member} {ms : List Member}

theorem readString_escape : readString (escape c ++ cs) = (readString cs).map fun p => (c :: p.1, p.2) := by
  by_cases hplain : c = quote ∨ c = backslash
  · rcases hplain with rfl | rfl <;> rfl
  by_cases hcontrol : c.toNat < 32
  · have hall : ∀ k < 32, readString (escape (Char.ofNat k) ++ cs) =
        (readString cs).map fun p => (Char.ofNat k :: p.1, p.2) := by
      intro k hk
      interval_cases k <;> rfl
    rw [← Char.ofNat_toNat c]
    exact hall _ hcontrol
  · have hne : ∀ n < 32, c.toNat ≠ n := fun n hn heq => hcontrol (heq ▸ hn)
    simp only [escape, if_neg hplain, if_neg (hne 8 (by decide)), if_neg (hne 9 (by decide)), if_neg (hne 10 (by decide)),
      if_neg (hne 12 (by decide)), if_neg (hne 13 (by decide)), if_neg hcontrol, List.singleton_append]
    rw [not_or] at hplain
    rw [readString.eq_def]
    simp only [ if_neg hplain.1, if_neg hplain.2, if_neg hcontrol]

theorem readString_quoted {s : List Char} : readString (s.flatMap escape ++ quote :: cs) = some (s, cs) := by
  induction s with
  | nil => rw [List.flatMap_nil, List.nil_append, readString.eq_def]; simp only [if_true]
  | cons c s ih => rw [List.flatMap_cons, List.append_assoc, readString_escape, ih]; rfl

theorem readScalar_text {v : Scalar} (hc : c.isDigit = false) : readScalar (v.text ++ c :: cs) = some (v, c :: cs) := by
  cases v with
  | string s =>
    simp only [Scalar.text, quoted, List.cons_append, List.append_assoc, readScalar, if_true, List.nil_append,
      readString_quoted, Option.map_some]
  | number n =>
    have hdigits : ∀ x ∈ Nat.toDigits 10 n, x.isDigit = true := fun x hx => Nat.isDigit_of_mem_toDigits (by decide) (by decide) hx
    have hspan : (Nat.toDigits 10 n ++ c :: cs).takeWhile Char.isDigit = Nat.toDigits 10 n ∧
        (Nat.toDigits 10 n ++ c :: cs).dropWhile Char.isDigit = c :: cs := by
      constructor
      · rw [List.takeWhile_append_of_pos hdigits, List.takeWhile_cons_of_neg (by simp [hc]), List.append_nil]
      · rw [List.dropWhile_append_of_pos hdigits, List.dropWhile_cons_of_neg (by simp [hc])]
    obtain ⟨htake, hdrop⟩ := hspan
    cases hn : Nat.toDigits 10 n with
    | nil => exact absurd hn Nat.toDigits_ne_nil
    | cons x xs =>
      have hx : x.isDigit = true := hdigits x (by rw [hn]; exact List.mem_cons_self)
      have hquote : x ≠ quote := by
        rintro rfl
        cases hx
      rw [hn] at htake hdrop
      simp only [Scalar.text, hn, List.cons_append, readScalar, if_neg hquote, if_pos hx]
      rw [← List.cons_append, htake, hdrop, ← hn, Nat.ofDigitChars_ten_toDigits]

theorem readMember_text (hc : c.isDigit = false) : readMember (memberText m ++ c :: cs) = some (m, c :: cs) := by
  obtain ⟨k, v⟩ := m
  simp only [memberText, quoted, List.cons_append, List.append_assoc, List.nil_append, readMember, if_true,
    readString_quoted, Option.bind_some, readScalar_text hc, Option.map_some]

theorem readMembers_text {fuel : Nat} (hfuel : ms.length < fuel) :
    readMembers fuel (membersText (m :: ms) ++ cs) = some (m :: ms, cs) := by
  induction ms generalizing m fuel with
  | nil =>
    obtain ⟨fuel, rfl⟩ := Nat.exists_eq_succ_of_ne_zero (Nat.ne_of_gt hfuel)
    simp only [membersText, List.append_assoc, List.singleton_append, readMembers, readMember_text (show Char.isDigit '}' = false from rfl),
      Option.bind_some]
  | cons m' ms ih =>
    obtain ⟨fuel, rfl⟩ := Nat.exists_eq_succ_of_ne_zero (Nat.ne_of_gt (Nat.lt_of_le_of_lt (Nat.zero_le _) hfuel))
    have hrest : readMembers fuel (membersText (m' :: ms) ++ cs) = some (m' :: ms, cs) := ih (by simpa using hfuel)
    simp only [membersText, List.append_assoc, List.cons_append, readMembers, readMember_text (show Char.isDigit ',' = false from rfl),
      Option.bind_some, hrest, Option.map_some]

theorem length_membersText : ms.length < (membersText (m :: ms)).length := by
  induction ms generalizing m with
  | nil => simp [membersText]
  | cons m' ms ih =>
    have hrest := ih (m := m')
    simp only [membersText, List.length_append, List.length_cons] at hrest ⊢
    omega

theorem read_text : read (text ms ++ cs) = some (ms, cs) := by
  cases ms with
  | nil => rfl
  | cons m ms =>
    have hfuel : ms.length < (membersText (m :: ms) ++ cs).length := by
      have hshort : ms.length < (membersText (m :: ms)).length := length_membersText
      rw [List.length_append]
      omega
    have hopen : ∃ rest, membersText (m :: ms) ++ cs = quote :: rest := by
      cases ms <;> exact ⟨_, rfl⟩
    have hmembers : readMembers _ (membersText (m :: ms) ++ cs) = _ := readMembers_text hfuel
    obtain ⟨rest, hrest⟩ := hopen
    rw [text, List.cons_append]
    rw [hrest] at hmembers ⊢
    exact hmembers

theorem loads_text : loads (text ms) = some ms := by
  have h : read (text ms ++ []) = some (ms, []) := read_text
  rw [List.append_nil] at h
  rw [loads, h]

theorem text_prefix {ms' : List Member} (h : text ms <+: text ms') : text ms = text ms' := by
  obtain ⟨cs, hcs⟩ := h
  have hread : read (text ms ++ cs) = some (ms, cs) := read_text
  rw [hcs, ← List.append_nil (text ms'), read_text] at hread
  obtain ⟨rfl, -⟩ := Prod.mk.inj (Option.some.inj hread)
  rfl

end AvoLib.Json
