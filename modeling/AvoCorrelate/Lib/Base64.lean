import Mathlib.Data.List.DropRight
/-!
# Base64

The URL-safe alphabet of RFC 4648: three bytes are four digits of six bits, and the digits of
a last group of one or two bytes are filled up with `=`. The reader is the strict one of the
standard library, which lets more spellings through than the writer has: the digits of the
other alphabet, pads after a whole group, and any value in the bits of the last digit that no
byte takes. `decode_spelled_iff` says which of the texts it reads are the ones that are written.
-/
namespace AvoLib.Base64

/-! ## Digits -/

def digit (n : Nat) : Char :=
  if n < 26 then Char.ofNat (65 + n)
  else if n < 52 then Char.ofNat (71 + n)
  else if n < 62 then Char.ofNat (n - 4)
  else if n = 62 then '-' else '_'

/-- The value of a digit, in either alphabet. -/
def value (c : Char) : Option Nat :=
  if 65 ≤ c.toNat ∧ c.toNat ≤ 90 then some (c.toNat - 65)
  else if 97 ≤ c.toNat ∧ c.toNat ≤ 122 then some (c.toNat - 71)
  else if 48 ≤ c.toNat ∧ c.toNat ≤ 57 then some (c.toNat + 4)
  else if c = '-' ∨ c = '+' then some 62
  else if c = '_' ∨ c = '/' then some 63
  else none

def UrlSafe (c : Char) : Prop := ∃ n < 64, c = digit n

theorem value_digit {n : Nat} (h : n < 64) : value (digit n) = some n := by
  have hall : ∀ n < 64, value (digit n) = some n := by decide
  exact hall n h

theorem digit_ne_pad {n : Nat} (h : n < 64) : digit n ≠ '=' := by
  have hall : ∀ n < 64, digit n ≠ '=' := by decide
  exact hall n h

theorem digit_ne_dot {n : Nat} (h : n < 64) : digit n ≠ '.' := by
  have hall : ∀ n < 64, digit n ≠ '.' := by decide
  exact hall n h

/-! ## Writing -/

/-- The digits of a byte string, without the pads at the end. -/
def digits : List UInt8 → List Char
  | [] => []
  | [a] => [digit (a.toNat / 4), digit (a.toNat % 4 * 16)]
  | [a, b] => [digit (a.toNat / 4), digit (a.toNat % 4 * 16 + b.toNat / 16), digit (b.toNat % 16 * 4)]
  | a :: b :: c :: rest =>
    digit (a.toNat / 4) :: digit (a.toNat % 4 * 16 + b.toNat / 16) :: digit (b.toNat % 16 * 4 + c.toNat / 64) ::
      digit (c.toNat % 64) :: digits rest

def pads (n : Nat) : List Char := List.replicate ((4 - n % 4) % 4) '='

def encode (bytes : List UInt8) : List Char := digits bytes ++ pads (digits bytes).length

/-! ## Reading -/

/-- The strict reader. `quad` is the place in the group, `left` the bits read and not yet
given out, `seen` the pads of this group. A pad is passed over until the group is full. -/
def decodeFrom : Nat → Nat → Nat → Bool → List Char → Option (List UInt8)
  | quad, _, _, _, [] => if quad = 0 then some [] else none
  | quad, left, seen, padded, c :: rest =>
    if c = '=' then
      if 2 ≤ quad ∧ 4 ≤ quad + (seen + 1) then (if rest = [] then some [] else none)
      else decodeFrom quad left (if 2 ≤ quad then seen + 1 else seen) true rest
    else
      match value c with
      | none => none
      | some v =>
        if padded then none
        else
          match quad with
          | 0 => decodeFrom 1 v 0 false rest
          | 1 => (UInt8.ofNat (left * 4 + v / 16) :: ·) <$> decodeFrom 2 (v % 16) 0 false rest
          | 2 => (UInt8.ofNat (left * 16 + v / 4) :: ·) <$> decodeFrom 3 (v % 4) 0 false rest
          | _ => (UInt8.ofNat (left * 64 + v) :: ·) <$> decodeFrom 0 0 0 false rest

/-- A text that begins with a pad is refused at once. -/
def decode : List Char → Option (List UInt8)
  | '=' :: _ => none
  | text => decodeFrom 0 0 0 false text

/-- Reading digits whose pads were left out. -/
def decodeUnpadded (text : List Char) : Option (List UInt8) := decode (text ++ pads text.length)

example : decodeUnpadded (digits [77]) = some [77] := by
  simp [digits, digit, decodeUnpadded, pads, decode, decodeFrom, value]

/-! ## Groups -/

section Groups
variable {c₁ c₂ c₃ c₄ : Char} {v₁ v₂ v₃ v₄ : Nat}

theorem decodeFrom_digit {c : Char} {v : Nat} (quad left : Nat) (rest : List Char) (hc : c ≠ '=') (hv : value c = some v) :
    decodeFrom quad left 0 false (c :: rest) =
      match quad with
      | 0 => decodeFrom 1 v 0 false rest
      | 1 => (UInt8.ofNat (left * 4 + v / 16) :: ·) <$> decodeFrom 2 (v % 16) 0 false rest
      | 2 => (UInt8.ofNat (left * 16 + v / 4) :: ·) <$> decodeFrom 3 (v % 4) 0 false rest
      | _ => (UInt8.ofNat (left * 64 + v) :: ·) <$> decodeFrom 0 0 0 false rest := by
  rw [decodeFrom.eq_def]
  simp only [hc, hv, if_false, Bool.false_eq_true]

theorem decodeFrom_group (left : Nat) (rest : List Char)
    (h₁ : c₁ ≠ '=' ∧ value c₁ = some v₁) (h₂ : c₂ ≠ '=' ∧ value c₂ = some v₂)
    (h₃ : c₃ ≠ '=' ∧ value c₃ = some v₃) (h₄ : c₄ ≠ '=' ∧ value c₄ = some v₄) :
    decodeFrom 0 left 0 false (c₁ :: c₂ :: c₃ :: c₄ :: rest) =
      ([UInt8.ofNat (v₁ * 4 + v₂ / 16), UInt8.ofNat (v₂ % 16 * 16 + v₃ / 4), UInt8.ofNat (v₃ % 4 * 64 + v₄)] ++ ·)
        <$> decodeFrom 0 0 0 false rest := by
  rw [decodeFrom_digit _ _ _ h₁.1 h₁.2]
  simp only []
  rw [decodeFrom_digit _ _ _ h₂.1 h₂.2]
  simp only []
  rw [decodeFrom_digit _ _ _ h₃.1 h₃.2]
  simp only []
  rw [decodeFrom_digit _ _ _ h₄.1 h₄.2]
  simp [Function.comp_def]

theorem decodeFrom_two (left : Nat) (h₁ : c₁ ≠ '=' ∧ value c₁ = some v₁) (h₂ : c₂ ≠ '=' ∧ value c₂ = some v₂) :
    decodeFrom 0 left 0 false [c₁, c₂, '=', '='] = some [UInt8.ofNat (v₁ * 4 + v₂ / 16)] := by
  rw [decodeFrom_digit _ _ _ h₁.1 h₁.2]
  simp only []
  rw [decodeFrom_digit _ _ _ h₂.1 h₂.2]
  simp [decodeFrom]

theorem decodeFrom_three (left : Nat) (h₁ : c₁ ≠ '=' ∧ value c₁ = some v₁) (h₂ : c₂ ≠ '=' ∧ value c₂ = some v₂)
    (h₃ : c₃ ≠ '=' ∧ value c₃ = some v₃) :
    decodeFrom 0 left 0 false [c₁, c₂, c₃, '='] =
      some [UInt8.ofNat (v₁ * 4 + v₂ / 16), UInt8.ofNat (v₂ % 16 * 16 + v₃ / 4)] := by
  rw [decodeFrom_digit _ _ _ h₁.1 h₁.2]
  simp only []
  rw [decodeFrom_digit _ _ _ h₂.1 h₂.2]
  simp only []
  rw [decodeFrom_digit _ _ _ h₃.1 h₃.2]
  simp [decodeFrom]

theorem decodeFrom_one (left : Nat) (h₁ : c₁ ≠ '=' ∧ value c₁ = some v₁) :
    decodeFrom 0 left 0 false [c₁, '=', '=', '='] = none := by
  rw [decodeFrom_digit _ _ _ h₁.1 h₁.2]
  simp [decodeFrom]

end Groups

theorem pads_add_four (n : Nat) : pads (n + 4) = pads n := by simp [pads]

theorem of_digit {n : Nat} (h : n < 64) : digit n ≠ '=' ∧ value (digit n) = some n := ⟨digit_ne_pad h, value_digit h⟩

/-! ## What is written is read -/

theorem decodeFrom_encode (bytes : List UInt8) (left : Nat) : decodeFrom 0 left 0 false (encode bytes) = some bytes := by
  induction bytes using digits.induct generalizing left with
  | case1 => simp [encode, digits, pads, decodeFrom]
  | case2 a =>
    have ha := a.toNat_lt
    show decodeFrom 0 left 0 false [digit (a.toNat / 4), digit (a.toNat % 4 * 16), '=', '='] = some [a]
    rw [decodeFrom_two left (of_digit (by omega)) (of_digit (by omega))]
    have h : a.toNat / 4 * 4 + a.toNat % 4 * 16 / 16 = a.toNat := by omega
    rw [h, UInt8.ofNat_toNat]
  | case3 a b =>
    have ha := a.toNat_lt
    have hb := b.toNat_lt
    show decodeFrom 0 left 0 false
      [digit (a.toNat / 4), digit (a.toNat % 4 * 16 + b.toNat / 16), digit (b.toNat % 16 * 4), '='] = some [a, b]
    rw [decodeFrom_three left (of_digit (by omega)) (of_digit (by omega)) (of_digit (by omega))]
    have h₁ : a.toNat / 4 * 4 + (a.toNat % 4 * 16 + b.toNat / 16) / 16 = a.toNat := by omega
    have h₂ : (a.toNat % 4 * 16 + b.toNat / 16) % 16 * 16 + b.toNat % 16 * 4 / 4 = b.toNat := by omega
    rw [h₁, h₂, UInt8.ofNat_toNat, UInt8.ofNat_toNat]
  | case4 a b c rest ih =>
    have ha := a.toNat_lt
    have hb := b.toNat_lt
    have hc := c.toNat_lt
    have hcut : encode (a :: b :: c :: rest) =
        digit (a.toNat / 4) :: digit (a.toNat % 4 * 16 + b.toNat / 16) :: digit (b.toNat % 16 * 4 + c.toNat / 64) ::
          digit (c.toNat % 64) :: encode rest := by
      simp only [encode, digits, List.length_cons, pads_add_four, List.cons_append]
    rw [hcut, decodeFrom_group left _ (of_digit (by omega)) (of_digit (by omega)) (of_digit (by omega))
      (of_digit (by omega)), ih]
    have h₁ : a.toNat / 4 * 4 + (a.toNat % 4 * 16 + b.toNat / 16) / 16 = a.toNat := by omega
    have h₂ : (a.toNat % 4 * 16 + b.toNat / 16) % 16 * 16 + (b.toNat % 16 * 4 + c.toNat / 64) / 4 = b.toNat := by omega
    have h₃ : (b.toNat % 16 * 4 + c.toNat / 64) % 4 * 64 + c.toNat % 64 = c.toNat := by omega
    simp only [h₁, h₂, h₃, UInt8.ofNat_toNat]
    rfl

theorem urlSafe_digits (bytes : List UInt8) : ∀ c ∈ digits bytes, UrlSafe c := by
  induction bytes using digits.induct with
  | case1 => simp [digits]
  | case2 a =>
    have ha := a.toNat_lt
    simp only [digits, List.forall_mem_cons, List.not_mem_nil, false_implies, implies_true, and_true]
    exact ⟨⟨_, by omega, rfl⟩, ⟨_, by omega, rfl⟩⟩
  | case3 a b =>
    have ha := a.toNat_lt
    have hb := b.toNat_lt
    simp only [digits, List.forall_mem_cons, List.not_mem_nil, false_implies, implies_true, and_true]
    exact ⟨⟨_, by omega, rfl⟩, ⟨_, by omega, rfl⟩, ⟨_, by omega, rfl⟩⟩
  | case4 a b c rest ih =>
    have ha := a.toNat_lt
    have hb := b.toNat_lt
    have hc := c.toNat_lt
    simp only [digits, List.forall_mem_cons]
    exact ⟨⟨_, by omega, rfl⟩, ⟨_, by omega, rfl⟩, ⟨_, by omega, rfl⟩, ⟨_, by omega, rfl⟩, ih⟩

theorem rdropWhile_encode (bytes : List UInt8) : (encode bytes).rdropWhile (· = '=') = digits bytes := by
  have hpads : ∀ (l : List Char) (n : Nat), (l ++ List.replicate n '=').rdropWhile (· = '=') = l.rdropWhile (· = '=') := by
    intro l n
    induction n with
    | zero => simp
    | succ n ih =>
      rw [List.replicate_succ', ← List.append_assoc, List.rdropWhile_concat_pos _ _ _ (by simp), ih]
  rw [encode, pads, hpads, List.rdropWhile_eq_self_iff]
  intro hne
  obtain ⟨n, hn, hlast⟩ := urlSafe_digits bytes _ (List.getLast_mem hne)
  simpa [hlast] using digit_ne_pad hn

theorem decodeUnpadded_digits (bytes : List UInt8) : decodeUnpadded (digits bytes) = some bytes := by
  have h := decodeFrom_encode bytes 0
  rw [decodeUnpadded, decode.eq_def, ← encode]
  split
  · rename_i rest hrest
    cases hd : digits bytes with
    | nil =>
      rw [encode, hd] at hrest
      simp [pads] at hrest
    | cons c cs =>
      rw [encode, hd] at hrest
      obtain ⟨n, hn, hc⟩ := urlSafe_digits bytes c (by simp [hd])
      simp only [List.cons_append, List.cons.injEq] at hrest
      exact absurd (hc.symm.trans hrest.1) (digit_ne_pad hn)
  · exact h

/-! ## Which spelling is written -/

/-- The bits of a last digit that no byte takes, as a factor of its value. -/
def spare (length : Nat) : Nat := if length % 4 = 2 then 16 else if length % 4 = 3 then 4 else 1

/-- The spelling the writer has for the bytes: URL-safe digits only, and nothing in the bits
of the last digit that no byte takes. -/
def Spelled (text : List Char) : Prop :=
  (∀ c ∈ text, UrlSafe c) ∧ ∀ c ∈ text.getLast?, ∃ v < 64, c = digit v ∧ v % spare text.length = 0

theorem spelled_digits (bytes : List UInt8) : Spelled (digits bytes) := by
  refine ⟨urlSafe_digits bytes, ?_⟩
  induction bytes using digits.induct with
  | case1 => simp [digits]
  | case2 a =>
    intro c hc
    have ha := a.toNat_lt
    simp only [digits, List.getLast?_cons_cons, List.getLast?_singleton, Option.mem_some_iff] at hc
    exact ⟨_, by omega, hc.symm, by simp [digits, spare]⟩
  | case3 a b =>
    intro c hc
    have hb := b.toNat_lt
    simp only [digits, List.getLast?_cons_cons, List.getLast?_singleton, Option.mem_some_iff] at hc
    exact ⟨_, by omega, hc.symm, by simp [digits, spare]⟩
  | case4 a b c rest ih =>
    intro x hx
    have hc := c.toNat_lt
    have hspare : spare (digits (a :: b :: c :: rest)).length = spare (digits rest).length := by
      simp only [digits, List.length_cons, spare]
      simp [Nat.add_assoc]
    rw [hspare]
    cases hrest : digits rest with
    | nil =>
      rw [digits, hrest] at hx
      simp only [List.getLast?_cons_cons, List.getLast?_singleton, Option.mem_some_iff] at hx
      exact ⟨_, by omega, hx.symm, by simp [spare, Nat.mod_one]⟩
    | cons y ys =>
      rw [digits, hrest] at hx
      simp only [List.getLast?_cons_cons] at hx
      rw [← hrest]
      exact ih x (by rw [hrest]; exact hx)

theorem digits_of_spelled : ∀ (text : List Char) (left : Nat) (bytes : List UInt8), Spelled text →
    decodeFrom 0 left 0 false (text ++ pads text.length) = some bytes → digits bytes = text
  | [], left, bytes, _, h => by
    have hnil : [] = bytes := by simpa [pads, decodeFrom] using h
    rw [← hnil, digits]
  | [c₁], left, bytes, hs, h => by
    obtain ⟨n₁, hn₁, rfl⟩ := hs.1 c₁ (by simp)
    have := decodeFrom_one left (of_digit hn₁)
    rw [show [digit n₁] ++ pads [digit n₁].length = [digit n₁, '=', '=', '='] from rfl, this] at h
    cases h
  | [c₁, c₂], left, bytes, hs, h => by
    obtain ⟨n₁, hn₁, rfl⟩ := hs.1 c₁ (by simp)
    obtain ⟨n₂, hn₂, rfl, hspare⟩ := hs.2 c₂ (by simp)
    rw [show [digit n₁, digit n₂] ++ pads [digit n₁, digit n₂].length = [digit n₁, digit n₂, '=', '='] from rfl,
      decodeFrom_two left (of_digit hn₁) (of_digit hn₂)] at h
    simp only [Option.some.injEq] at h
    simp only [spare, List.length_cons, List.length_nil] at hspare
    have hmod : n₂ % 16 = 0 := by simpa using hspare
    have hbyte : (UInt8.ofNat (n₁ * 4 + n₂ / 16)).toNat = n₁ * 4 + n₂ / 16 := by
      rw [UInt8.toNat_ofNat']
      omega
    subst h
    simp only [digits, hbyte]
    have h₁ : (n₁ * 4 + n₂ / 16) / 4 = n₁ := by omega
    have h₂ : (n₁ * 4 + n₂ / 16) % 4 * 16 = n₂ := by omega
    rw [h₁, h₂]
  | [c₁, c₂, c₃], left, bytes, hs, h => by
    obtain ⟨n₁, hn₁, rfl⟩ := hs.1 c₁ (by simp)
    obtain ⟨n₂, hn₂, rfl⟩ := hs.1 c₂ (by simp)
    obtain ⟨n₃, hn₃, rfl, hspare⟩ := hs.2 c₃ (by simp)
    rw [show [digit n₁, digit n₂, digit n₃] ++ pads [digit n₁, digit n₂, digit n₃].length =
        [digit n₁, digit n₂, digit n₃, '='] from rfl,
      decodeFrom_three left (of_digit hn₁) (of_digit hn₂) (of_digit hn₃)] at h
    simp only [Option.some.injEq] at h
    simp only [spare, List.length_cons, List.length_nil] at hspare
    have hmod : n₃ % 4 = 0 := by simpa using hspare
    have hbyte₁ : (UInt8.ofNat (n₁ * 4 + n₂ / 16)).toNat = n₁ * 4 + n₂ / 16 := by
      rw [UInt8.toNat_ofNat']
      omega
    have hbyte₂ : (UInt8.ofNat (n₂ % 16 * 16 + n₃ / 4)).toNat = n₂ % 16 * 16 + n₃ / 4 := by
      rw [UInt8.toNat_ofNat']
      omega
    subst h
    simp only [digits, hbyte₁, hbyte₂]
    have h₁ : (n₁ * 4 + n₂ / 16) / 4 = n₁ := by omega
    have h₂ : (n₁ * 4 + n₂ / 16) % 4 * 16 + (n₂ % 16 * 16 + n₃ / 4) / 16 = n₂ := by omega
    have h₃ : (n₂ % 16 * 16 + n₃ / 4) % 16 * 4 = n₃ := by omega
    rw [h₁, h₂, h₃]
  | c₁ :: c₂ :: c₃ :: c₄ :: rest, left, bytes, hs, h => by
    obtain ⟨n₁, hn₁, rfl⟩ := hs.1 c₁ (by simp)
    obtain ⟨n₂, hn₂, rfl⟩ := hs.1 c₂ (by simp)
    obtain ⟨n₃, hn₃, rfl⟩ := hs.1 c₃ (by simp)
    obtain ⟨n₄, hn₄, rfl⟩ := hs.1 c₄ (by simp)
    simp only [List.length_cons, pads_add_four, List.cons_append] at h
    rw [decodeFrom_group left _ (of_digit hn₁) (of_digit hn₂) (of_digit hn₃) (of_digit hn₄)] at h
    simp only [Option.map_eq_map, Option.map_eq_some_iff] at h
    obtain ⟨bytes', hrest, rfl⟩ := h
    have hspelled : Spelled rest := by
      refine ⟨fun c hc => hs.1 c (by simp [hc]), ?_⟩
      intro c hc
      have hlen : spare (digit n₁ :: digit n₂ :: digit n₃ :: digit n₄ :: rest).length = spare rest.length := by
        simp only [List.length_cons, spare]
        simp [Nat.add_assoc]
      rw [← hlen]
      refine hs.2 c ?_
      cases rest with
      | nil => simp at hc
      | cons y ys => simpa only [List.getLast?_cons_cons] using hc
    have hdigits := digits_of_spelled rest 0 bytes' hspelled hrest
    have hbyte₁ : (UInt8.ofNat (n₁ * 4 + n₂ / 16)).toNat = n₁ * 4 + n₂ / 16 := by
      rw [UInt8.toNat_ofNat']
      omega
    have hbyte₂ : (UInt8.ofNat (n₂ % 16 * 16 + n₃ / 4)).toNat = n₂ % 16 * 16 + n₃ / 4 := by
      rw [UInt8.toNat_ofNat']
      omega
    have hbyte₃ : (UInt8.ofNat (n₃ % 4 * 64 + n₄)).toNat = n₃ % 4 * 64 + n₄ := by
      rw [UInt8.toNat_ofNat']
      omega
    simp only [List.cons_append, List.nil_append, digits, hbyte₁, hbyte₂, hbyte₃, hdigits]
    have h₁ : (n₁ * 4 + n₂ / 16) / 4 = n₁ := by omega
    have h₂ : (n₁ * 4 + n₂ / 16) % 4 * 16 + (n₂ % 16 * 16 + n₃ / 4) / 16 = n₂ := by omega
    have h₃ : (n₂ % 16 * 16 + n₃ / 4) % 16 * 4 + (n₃ % 4 * 64 + n₄) / 64 = n₃ := by omega
    have h₄ : (n₃ % 4 * 64 + n₄) % 64 = n₄ := by omega
    rw [h₁, h₂, h₃, h₄]

theorem decode_spelled_iff {text : List Char} {bytes : List UInt8} (h : decodeUnpadded text = some bytes) :
    digits bytes = text ↔ Spelled text := by
  constructor
  · rintro rfl
    exact spelled_digits bytes
  · intro hs
    refine digits_of_spelled text 0 bytes hs ?_
    rw [decodeUnpadded, decode.eq_def] at h
    split at h
    · cases h
    · exact h

end AvoLib.Base64
