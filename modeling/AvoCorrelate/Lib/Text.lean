import Mathlib.Data.List.DropRight
import Mathlib.Data.List.Infix
/-!
# Text

The operations of a string library on lists of characters or of bytes: cutting at line
ends, at blanks and at separators, finding a text in another one and putting a third in its
place. What a reader needs of them is how they undo writing: the lines of `a`, a line end and
`b` are `a` and the lines of `b`, and so on.
-/
namespace AvoLib.Text

variable {α : Type}

/-! ## Lines -/

section Lines
variable [DecidableEq α]

/-- The lines of a text. `brk` ends a line, and `lf` right after `cr` belongs to the end
before it. The text after the last end is a line if there is any. -/
def linesFrom (brk : α → Bool) (cr lf : α) : Bool → List α → List α → List (List α)
  | _, line, [] => if line = [] then [] else [line]
  | afterCr, line, c :: rest =>
    if afterCr ∧ c = lf then linesFrom brk cr lf false [] rest
    else if brk c then line :: linesFrom brk cr lf (c = cr) [] rest
    else linesFrom brk cr lf false (line ++ [c]) rest

def splitlines (brk : α → Bool) (cr lf : α) (text : List α) : List (List α) := linesFrom brk cr lf false [] text

variable {brk : α → Bool} {cr lf : α}

theorem linesFrom_line {a : List α} (line rest : List α) (ha : ∀ c ∈ a, brk c = false) :
    linesFrom brk cr lf false line (a ++ rest) = linesFrom brk cr lf false (line ++ a) rest := by
  induction a generalizing line with
  | nil => simp
  | cons c a ih =>
    have hc : brk c = false := ha c (by simp)
    have hrest := ih (line ++ [c]) fun x hx => ha x (List.mem_cons_of_mem _ hx)
    simp only [List.cons_append, linesFrom, hc]
    simpa using hrest

theorem splitlines_line {a : List α} (rest : List α) (ha : ∀ c ∈ a, brk c = false) (hlf : brk lf = true)
    (hne : lf ≠ cr) : splitlines brk cr lf (a ++ lf :: rest) = a :: splitlines brk cr lf rest := by
  rw [splitlines, linesFrom_line [] _ ha]
  simp [linesFrom, hlf, hne, splitlines]

end Lines

/-- The line ends of `str.splitlines`. -/
def lineEnd (c : Char) : Bool :=
  c ∈ ['\n', '\r', '\x0b', '\x0c', '\x1c', '\x1d', '\x1e', '\u0085', '\u2028', '\u2029']

/-- `str.isspace`, of one character. -/
def isspace (c : Char) : Bool :=
  c ∈ ['\t', '\n', '\x0b', '\x0c', '\r', '\x1c', '\x1d', '\x1e', '\x1f', ' ', '\u0085', '\u00a0', '\u1680',
    '\u2000', '\u2001', '\u2002', '\u2003', '\u2004', '\u2005', '\u2006', '\u2007', '\u2008', '\u2009', '\u200a',
    '\u2028', '\u2029', '\u202f', '\u205f', '\u3000']

theorem isspace_of_lineEnd {c : Char} (h : lineEnd c = true) : isspace c = true := by
  simp only [lineEnd, List.mem_cons, List.not_mem_nil, or_false, decide_eq_true_eq] at h
  rcases h with rfl | rfl | rfl | rfl | rfl | rfl | rfl | rfl | rfl | rfl <;> decide

/-- `str.splitlines`. -/
def textLines (text : List Char) : List (List Char) := splitlines lineEnd '\r' '\n' text

/-! ## Joined lines -/

section Joined
variable [DecidableEq α]

/-- What stands before the first `sep`. -/
def before (sep : List α) : List α → List α
  | [] => []
  | c :: rest => if sep.isPrefixOf (c :: rest) then [] else c :: before sep rest

end Joined

variable {p blank : α → Bool} {text piece a : List α}

theorem not_mem_of_mem_splitOnP (h : piece ∈ text.splitOnP p) : ∀ c ∈ piece, p c = false := by
  suffices hgo : ∀ (acc : List α), (∀ c ∈ acc, p c = false) → ∀ piece ∈ text.splitOnPPrepend p acc,
      ∀ c ∈ piece, p c = false from hgo [] (by simp) piece h
  clear h
  induction text with
  | nil =>
    intro acc hacc piece hp c hc
    simp only [List.splitOnPPrepend, List.mem_singleton] at hp
    exact hacc c (by simpa [hp] using hc)
  | cons x rest ih =>
    intro acc hacc piece hp
    by_cases hx : p x = true
    · simp only [List.splitOnPPrepend, hx, if_true, List.mem_cons] at hp
      rcases hp with rfl | hp
      · intro c hc
        exact hacc c (by simpa using hc)
      · exact ih [] (by simp) piece hp
    · simp only [List.splitOnPPrepend, hx, Bool.false_eq_true, if_false] at hp
      refine ih (x :: acc) ?_ piece hp
      intro c hc
      rcases List.mem_cons.mp hc with rfl | hc
      · exact Bool.not_eq_true _ ▸ hx
      · exact hacc c hc

theorem mem_of_mem_splitOnP (h : piece ∈ text.splitOnP p) : ∀ c ∈ piece, c ∈ text := by
  induction text generalizing piece with
  | nil =>
    rw [List.splitOnP_nil, List.mem_singleton] at h
    simp [h]
  | cons x rest ih =>
    rw [List.splitOnP_cons_eq_if_modifyHead] at h
    split at h
    · rcases List.mem_cons.mp h with rfl | h
      · simp
      · exact fun c hc => List.mem_cons_of_mem _ (ih h c hc)
    · cases hrest : rest.splitOnP p with
      | nil => exact absurd hrest (List.splitOnP_ne_nil p rest)
      | cons first others =>
        rw [hrest, List.modifyHead_cons] at h
        rcases List.mem_cons.mp h with rfl | h
        · intro c hc
          rcases List.mem_cons.mp hc with rfl | hc
          · simp
          · exact List.mem_cons_of_mem _ (ih (by simp [hrest]) c hc)
        · exact fun c hc => List.mem_cons_of_mem _ (ih (by simp [hrest, h]) c hc)

/-- The words of a text: its pieces between blanks, the empty ones left out. -/
def words (blank : α → Bool) (text : List α) : List (List α) := (text.splitOnP blank).filter (· ≠ [])

theorem words_word {sep : α} (rest : List α) (hne : a ≠ []) (ha : ∀ c ∈ a, blank c = false) (hsep : blank sep = true) :
    words blank (a ++ sep :: rest) = a :: words blank rest := by
  rw [words, List.splitOnP_append_cons_of_forall_mem ha sep hsep, List.filter_cons]
  simp [hne, words]

theorem words_last (hne : a ≠ []) (ha : ∀ c ∈ a, blank c = false) : words blank a = [a] := by
  rw [words, List.splitOnP_eq_singleton ha]
  simp [hne]

theorem blank_of_mem_words {word : List α} (h : word ∈ words blank text) : word ≠ [] ∧ ∀ c ∈ word, blank c = false := by
  simp only [words, List.mem_filter, decide_eq_true_eq] at h
  exact ⟨h.2, not_mem_of_mem_splitOnP h.1⟩

/-- The parts of a `PurePosixPath` after its root. -/
def posixParts (s : List Char) : List (List Char) := (s.splitOn '/').filter fun part => part ≠ [] ∧ part ≠ ['.']

theorem posixParts_proper (s : List Char) : ∀ part ∈ posixParts s, part ≠ [] ∧ part ≠ ['.'] ∧ '/' ∉ part := by
  intro part hpart
  simp only [posixParts, List.mem_filter, decide_eq_true_eq] at hpart
  refine ⟨hpart.2.1, hpart.2.2, ?_⟩
  intro hslash
  rw [List.splitOn_eq_splitOnP] at hpart
  have := not_mem_of_mem_splitOnP hpart.1 '/' hslash
  simp at this

/-! ## Texts in a text -/

section Substrings
variable [DecidableEq α]

/-- How often `old` stands in a text, counted from the left without overlaps: `skip`
characters still belong to the last one found. -/
def countFrom (old : List α) : Nat → List α → Nat
  | _, [] => 0
  | skip + 1, _ :: rest => countFrom old skip rest
  | 0, c :: rest => if old <+: c :: rest then countFrom old (old.length - 1) rest + 1 else countFrom old 0 rest

/-- The empty text stands before every character and at the end. -/
def count (old text : List α) : Nat := if old = [] then text.length + 1 else countFrom old 0 text

/-- `new` in the place of every `old` that `count` counts. -/
def replaceFrom (old new : List α) : Nat → List α → List α
  | _, [] => []
  | skip + 1, _ :: rest => replaceFrom old new skip rest
  | 0, c :: rest =>
    if old <+: c :: rest then new ++ replaceFrom old new (old.length - 1) rest else c :: replaceFrom old new 0 rest

def replace (old new text : List α) : List α := replaceFrom old new 0 text

/-- `new` in the place of the first `old`. -/
def replaceFirst (old new : List α) : List α → List α
  | [] => []
  | c :: rest => if old <+: c :: rest then new ++ (c :: rest).drop old.length else c :: replaceFirst old new rest

variable {old new : List α}

theorem countFrom_drop (skip : Nat) (text : List α) : countFrom old skip text = countFrom old 0 (text.drop skip) := by
  induction skip generalizing text with
  | zero => simp
  | succ skip ih =>
    cases text with
    | nil => simp [countFrom]
    | cons c rest => simp only [countFrom, List.drop_succ_cons, ih]

theorem once_of_count {text n : List α} (hold : old ≠ []) (h : countFrom old 0 text = 1) :
    ∃ before after, text = before ++ old ++ after ∧ replaceFirst old n text = before ++ n ++ after ∧
      countFrom old 0 after = 0 ∧ ∀ i < before.length, ¬ old <+: text.drop i := by
  induction text with
  | nil => simp [countFrom] at h
  | cons c rest ih =>
    by_cases hp : old <+: c :: rest
    · obtain ⟨after, hafter⟩ := hp
      have hlen : old.length - 1 + 1 = old.length := by
        have := List.length_pos_iff.mpr hold
        omega
      have hdrop : rest.drop (old.length - 1) = after := by
        have hd : (c :: rest).drop old.length = after := by rw [← hafter, List.drop_left]
        rwa [← hlen, List.drop_succ_cons] at hd
      have hp : old <+: c :: rest := ⟨after, hafter⟩
      rw [countFrom, if_pos hp, countFrom_drop, hdrop] at h
      refine ⟨[], after, by simpa using hafter.symm, ?_, by omega, by simp⟩
      simp only [replaceFirst, hp, if_true, List.nil_append]
      rw [← hafter, List.drop_left]
    · simp only [countFrom, hp, if_false] at h
      obtain ⟨before, after, htext, hnew, hcount, hfirst⟩ := ih h
      refine ⟨c :: before, after, by simp [htext], by simp [replaceFirst, hp, hnew], hcount, ?_⟩
      intro i hi
      cases i with
      | zero => simpa using hp
      | succ i => simpa using hfirst i (by simpa using hi)

theorem not_prefix_of_count {text : List α} (h : countFrom old 0 text = 0) (i : Nat) (hi : i < text.length) :
    ¬ old <+: text.drop i := by
  induction text generalizing i with
  | nil => simp at hi
  | cons c rest ih =>
    by_cases hp : old <+: c :: rest
    · simp [countFrom, hp] at h
    · simp only [countFrom, hp, if_false] at h
      cases i with
      | zero => simpa using hp
      | succ i => simpa using ih h i (by simpa using hi)

theorem replace_single (a : α) (new text : List α) :
    replace [a] new text = text.flatMap fun c => if c = a then new else [c] := by
  rw [replace]
  induction text with
  | nil => rfl
  | cons c rest ih =>
    by_cases hc : c = a
    · subst hc
      simp [replaceFrom, ih]
    · have hmiss : ¬ [a] <+: c :: rest := fun h => hc (by simpa using (List.cons_prefix_cons.mp h).1.symm)
      simp [replaceFrom, hmiss, hc, ih]

theorem replace_notMem {a : α} {tail text : List α} (h : a ∉ text) : replace (a :: tail) new text = text := by
  rw [replace]
  induction text with
  | nil => rfl
  | cons c rest ih =>
    have hc : a ≠ c := fun heq => h (by simp [heq])
    have hmiss : ¬ a :: tail <+: c :: rest := fun hp => hc (List.cons_prefix_cons.mp hp).1
    rw [replaceFrom, if_neg hmiss, ih fun hmem => h (List.mem_cons_of_mem _ hmem)]

end Substrings

theorem append_cons_inj {c : α} {b x y : List α} (ha : c ∉ a) (hb : c ∉ b) (h : a ++ c :: x = b ++ c :: y) :
    a = b ∧ x = y := by
  induction a generalizing b with
  | nil =>
    cases b with
    | nil => exact ⟨rfl, (List.cons.inj h).2⟩
    | cons d b => exact absurd (List.cons.inj h).1 fun hd => hb (by simp [hd])
  | cons d a ih =>
    cases b with
    | nil => exact absurd (List.cons.inj h).1 fun hd => ha (by simp [hd])
    | cons e b =>
      obtain ⟨rfl, hrest⟩ := List.cons.inj h
      obtain ⟨rfl, rfl⟩ := ih (fun hmem => ha (by simp [hmem])) (fun hmem => hb (by simp [hmem])) hrest
      exact ⟨rfl, rfl⟩

/-! ## Tokens

Tokens between single separators, in which something is looked for that begins with the
separator and is longer. -/

section Tokens
variable [DecidableEq α]

/-- What stands before and after the first `sep`: `split(sep, 1)`, where there is one. -/
def cut (sep : List α) : List α → Option (List α × List α)
  | [] => none
  | c :: rest =>
    if sep <+: c :: rest then some ([], (c :: rest).drop sep.length)
    else (cut sep rest).map fun (left, right) => (c :: left, right)

variable {sp : α} {tail : List α}

variable {a rest old d : List α} {tokens : List (List α)}

theorem countFrom_token (ha : sp ∉ a) (rest : List α) :
    countFrom (sp :: tail) 0 (a ++ rest) = countFrom (sp :: tail) 0 rest := by
  induction a with
  | nil => rfl
  | cons c a ih =>
    have hc : sp ≠ c := fun h => ha (by simp [h])
    have hmiss : ¬ sp :: tail <+: c :: (a ++ rest) := fun h => hc (List.cons_prefix_cons.mp h).1
    rw [List.cons_append, countFrom, if_neg hmiss, ih fun h => ha (by simp [h])]

theorem countFrom_blank (h : ¬ tail <+: rest) :
    countFrom (sp :: tail) 0 (sp :: rest) = countFrom (sp :: tail) 0 rest := by
  have hmiss : ¬ sp :: tail <+: sp :: rest := fun hp => h (List.cons_prefix_cons.mp hp).2
  rw [countFrom, if_neg hmiss]

theorem countFrom_found (hold : old ≠ []) (rest : List α) :
    countFrom old 0 (old ++ rest) = countFrom old 0 rest + 1 := by
  cases old with
  | nil => exact absurd rfl hold
  | cons c old =>
    rw [List.cons_append, countFrom, if_pos ⟨rest, by simp⟩, countFrom_drop]
    simp

theorem cut_token (ha : sp ∉ a) (rest : List α) :
    cut (sp :: tail) (a ++ rest) = (cut (sp :: tail) rest).map fun (left, right) => (a ++ left, right) := by
  induction a with
  | nil => simp
  | cons c a ih =>
    have hc : sp ≠ c := fun h => ha (by simp [h])
    have hmiss : ¬ sp :: tail <+: c :: (a ++ rest) := fun h => hc (List.cons_prefix_cons.mp h).1
    rw [List.cons_append, cut, if_neg hmiss, ih fun h => ha (by simp [h]), Option.map_map]
    rfl

theorem cut_blank (h : ¬ tail <+: rest) :
    cut (sp :: tail) (sp :: rest) = (cut (sp :: tail) rest).map fun (left, right) => (sp :: left, right) := by
  have hmiss : ¬ sp :: tail <+: sp :: rest := fun hp => h (List.cons_prefix_cons.mp hp).2
  rw [cut, if_neg hmiss]

theorem cut_found (hold : old ≠ []) (rest : List α) : cut old (old ++ rest) = some ([], rest) := by
  cases old with
  | nil => exact absurd rfl hold
  | cons c old =>
    rw [List.cons_append, cut, if_pos ⟨rest, by simp⟩]
    simp

omit [DecidableEq α] in
theorem not_prefix_token (ha : sp ∉ a) (hd : sp ∉ d) (hne : a ≠ d) : ¬ d ++ [sp] <+: a ++ sp :: rest := by
  rintro ⟨t, ht⟩
  rw [List.append_assoc, List.singleton_append] at ht
  exact hne (append_cons_inj hd ha ht).1.symm

theorem cut_tokens (hd : sp ∉ d) (hne : tokens ≠ []) (htokens : ∀ a ∈ tokens, sp ∉ a ∧ a ≠ d) (rest : List α) :
    cut (sp :: (d ++ [sp])) ([sp].intercalate tokens ++ sp :: (d ++ sp :: rest)) =
        some ([sp].intercalate tokens, rest) ∧
      countFrom (sp :: (d ++ [sp])) 0 ([sp].intercalate tokens ++ sp :: (d ++ sp :: rest)) =
        countFrom (sp :: (d ++ [sp])) 0 rest + 1 := by
  have hsep : sp :: (d ++ sp :: rest) = (sp :: (d ++ [sp])) ++ rest := by simp
  induction tokens with
  | nil => exact absurd rfl hne
  | cons a tokens ih =>
    obtain ⟨ha, -⟩ := htokens a (by simp)
    cases tokens with
    | nil =>
      simp only [List.intercalate_singleton]
      rw [cut_token ha, countFrom_token ha, hsep, cut_found (by simp), countFrom_found (by simp)]
      simp
    | cons b tokens =>
      obtain ⟨hb, hbd⟩ := htokens b (by simp)
      obtain ⟨hcut, hcount⟩ := ih (by simp) fun t ht => htokens t (List.mem_cons_of_mem _ ht)
      have hjoin : [sp].intercalate (a :: b :: tokens) = a ++ sp :: [sp].intercalate (b :: tokens) := by simp
      -- The next token ends at a separator, whether it is the last one or not.
      have hnext : ∃ rest', [sp].intercalate (b :: tokens) ++ sp :: (d ++ sp :: rest) = b ++ sp :: rest' := by
        cases tokens with
        | nil => exact ⟨d ++ sp :: rest, by simp⟩
        | cons c tokens => exact ⟨[sp].intercalate (c :: tokens) ++ sp :: (d ++ sp :: rest), by simp⟩
      have hmiss : ¬ d ++ [sp] <+: [sp].intercalate (b :: tokens) ++ sp :: (d ++ sp :: rest) := by
        obtain ⟨rest', hrest'⟩ := hnext
        rw [hrest']
        exact not_prefix_token hb hd hbd
      rw [hjoin, List.append_assoc, List.cons_append, cut_token ha, countFrom_token ha, cut_blank hmiss,
        countFrom_blank hmiss, hcut, hcount]
      simp

omit [DecidableEq α] in
theorem words_tokens {blank : α → Bool} (hsp : blank sp = true) (hne : tokens ≠ [])
    (htokens : ∀ a ∈ tokens, a ≠ [] ∧ ∀ c ∈ a, blank c = false) : words blank ([sp].intercalate tokens) = tokens := by
  induction tokens with
  | nil => exact absurd rfl hne
  | cons a tokens ih =>
    obtain ⟨ha, hblank⟩ := htokens a (by simp)
    cases tokens with
    | nil => rw [List.intercalate_singleton, words_last ha hblank]
    | cons b tokens =>
      have hjoin : [sp].intercalate (a :: b :: tokens) = a ++ sp :: [sp].intercalate (b :: tokens) := by simp
      rw [hjoin, words_word _ ha hblank hsp, ih (by simp) fun t ht => htokens t (List.mem_cons_of_mem _ ht)]

end Tokens

/-! ## Writing one after the other -/

section Streams
variable {β : Type}

theorem flatMap_injective {f : α → List β} {P : α → Prop}
    (hf : ∀ a b x y, P a → P b → f a ++ x = f b ++ y → a = b) (hne : ∀ a, f a ≠ []) {items items' : List α}
    (hitems : ∀ a ∈ items, P a) (hitems' : ∀ a ∈ items', P a) (h : items.flatMap f = items'.flatMap f) :
    items = items' := by
  induction items generalizing items' with
  | nil =>
    cases items' with
    | nil => rfl
    | cons b rest => exact absurd (by simpa using h.symm) fun hnil : f b = [] ∧ _ => hne b hnil.1
  | cons a items ih =>
    cases items' with
    | nil => exact absurd (by simpa using h) fun hnil : f a = [] ∧ _ => hne a hnil.1
    | cons b rest =>
      simp only [List.flatMap_cons] at h
      obtain rfl := hf a b _ _ (hitems a (by simp)) (hitems' b (by simp)) h
      rw [ih (fun c hc => hitems c (by simp [hc])) (fun c hc => hitems' c (by simp [hc])) (List.append_cancel_left h)]

def utf8 (text : List Char) : List UInt8 := text.flatMap String.utf8EncodeChar

/-- `bytes.decode("utf-8")`. -/
def decodeUtf8 (bytes : List UInt8) : Option (List Char) := bytes.toByteArray.utf8Decode?.map Array.toList

theorem decodeUtf8_utf8 (text : List Char) : decodeUtf8 (utf8 text) = some text := by
  have hread := List.utf8Decode?_utf8Encode (l := text)
  have hbytes : (utf8 text).toByteArray = text.utf8Encode := rfl
  rw [decodeUtf8, hbytes, hread]
  simp

theorem utf8_append (a b : List Char) : utf8 (a ++ b) = utf8 a ++ utf8 b := by simp [utf8]

theorem utf8_injective {a b : List Char} (h : utf8 a = utf8 b) : a = b := by
  have hbytes : a.utf8Encode = b.utf8Encode := congrArg List.toByteArray h
  have hread := List.utf8Decode?_utf8Encode (l := a)
  rw [hbytes, List.utf8Decode?_utf8Encode] at hread
  simpa using hread.symm

def hexdigest (bytes : List UInt8) : List Char :=
  bytes.flatMap fun b => [Nat.digitChar (b.toNat / 16), Nat.digitChar (b.toNat % 16)]

theorem digitChar_injective {m n : Nat} (hm : m < 16) (hn : n < 16) (h : Nat.digitChar m = Nat.digitChar n) :
    m = n := by
  have hall : ∀ m < 16, ∀ n < 16, Nat.digitChar m = Nat.digitChar n → m = n := by decide
  exact hall m hm n hn h

theorem hexdigest_injective {a b : List UInt8} (h : hexdigest a = hexdigest b) : a = b := by
  refine flatMap_injective (P := fun _ => True) ?_ (by simp) (by simp) (by simp) h
  intro a b x y _ _ hab
  have ha := a.toNat_lt
  have hb := b.toNat_lt
  simp only [List.cons_append, List.nil_append, List.cons.injEq] at hab
  have hhigh := digitChar_injective (by omega) (by omega) hab.1
  have hlow := digitChar_injective (by omega) (by omega) hab.2.1
  exact UInt8.toNat.inj (by omega)

theorem newline_notMem_hexdigest (bytes : List UInt8) : '\n' ∉ hexdigest bytes := by
  have hall : ∀ n < 16, Nat.digitChar n ≠ '\n' := by decide
  intro h
  obtain ⟨b, -, hb⟩ := List.mem_flatMap.mp h
  have := b.toNat_lt
  simp only [List.mem_cons, List.not_mem_nil, or_false] at hb
  rcases hb with hb | hb
  · exact hall _ (by omega) hb.symm
  · exact hall _ (by omega) hb.symm

theorem toDigits_injective {m n : Nat} (h : Nat.toDigits 10 m = Nat.toDigits 10 n) : m = n := by
  have hm := Nat.ofDigitChars_toDigits (b := 10) (n := m) (by decide) (by decide)
  rw [h, Nat.ofDigitChars_toDigits (by decide) (by decide)] at hm
  exact hm.symm

end Streams

end AvoLib.Text
