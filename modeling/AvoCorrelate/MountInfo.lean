import AvoCorrelate.Lib.Text
import AvoCorrelate.Lib.Transactions
import Mathlib
/-!
# The mount table

The gate in front of the durable journals reads the kernel's mount table. The kernel separates
fields by single spaces and entries by newlines, and escapes these in paths and sources; the
reader cuts at every whitespace and line end of Unicode. `mountinfo_read_iff`: it reads a table
as it was written exactly if there is an entry, and no field has whitespace that the kernel
does not escape, is empty or is the separator itself.
-/
open AvoLib

namespace AvoCorrelate.MountInfo

abbrev Text := List Char

/-! ## Paths -/

inductive Root
  | relative
  | single
  | double
  deriving DecidableEq

/-- `PurePosixPath`. Two slashes at the front are a root of their own, further ones and the
parts `.` are left out. -/
structure PosixPath where
  root : Root
  parts : List Text
  proper : ∀ part ∈ parts, part ≠ [] ∧ part ≠ ['.'] ∧ '/' ∉ part
  deriving DecidableEq

def Root.text : Root → Text
  | .relative => []
  | .single => ['/']
  | .double => ['/', '/']

def PosixPath.text (p : PosixPath) : Text := p.root.text ++ ['/'].intercalate p.parts

def posixPath (s : Text) : PosixPath :=
  match s with
  | '/' :: '/' :: '/' :: rest => ⟨.single, Text.posixParts ('/' :: '/' :: rest), Text.posixParts_proper _⟩
  | '/' :: '/' :: rest => ⟨.double, Text.posixParts rest, Text.posixParts_proper _⟩
  | '/' :: rest => ⟨.single, Text.posixParts rest, Text.posixParts_proper _⟩
  | s => ⟨.relative, Text.posixParts s, Text.posixParts_proper _⟩

/-! ## The reader -/

structure MountFacts where
  mountId : Int
  parentId : Int
  device : Text
  root : Text
  mountPoint : PosixPath
  mountOptions : Finset Text
  filesystemType : Text
  source : Text
  superOptions : Finset Text
  deriving DecidableEq

inductive ValueError
  | value (message : String)
  deriving DecidableEq

/-- `unicodedata.decimal`, on ASCII the ten digits. -/
structure Digits where
  decimal : Char → Option Nat
  ascii : ∀ n < 10, decimal (Nat.digitChar n) = some n
  small : ∀ c n, decimal c = some n → n < 10

/-- `sys.get_int_max_str_digits()`. -/
def maxDigits : Nat := 4300

variable (D : Digits)

/-- The value of decimal digits, of which `count` are read. `start` stands at the front and
after an underscore, where a digit has to follow. -/
def digitsFrom : Nat → Bool → Nat → Text → Option Nat
  | count, start, value, [] => if start then none else if count ≤ maxDigits then some value else none
  | count, start, value, c :: rest =>
    if c = '_' then if start then none else digitsFrom count true value rest
    else
      match D.decimal c with
      | none => none
      | some d => digitsFrom (count + 1) false (10 * value + d) rest

/-- `int`, of a text without whitespace. -/
def int : Text → Option Int
  | '-' :: rest => (digitsFrom D 0 true 0 rest).map fun n => -Int.ofNat n
  | '+' :: rest => (digitsFrom D 0 true 0 rest).map Int.ofNat
  | text => (digitsFrom D 0 true 0 text).map Int.ofNat

/-- `_DEVICE_RE`. -/
def isDevice (text : Text) : Bool :=
  match text.splitOn ':' with
  | [major, minor] => major ≠ [] ∧ minor ≠ [] ∧ ∀ c ∈ major ++ minor, c.isDigit
  | _ => false

/-- `_VALID_ESCAPES`. -/
def validEscape : Text → Option Char
  | ['0', '1', '1'] => some '\t'
  | ['0', '1', '2'] => some '\n'
  | ['0', '4', '0'] => some ' '
  | ['1', '3', '4'] => some '\\'
  | _ => none

/-- `_decode_mountinfo_path`. -/
def decodePath : Text → Option Text
  | [] => some []
  | '\\' :: a :: b :: c :: rest =>
    match validEscape [a, b, c], decodePath rest with
    | some d, some decoded => some (d :: decoded)
    | _, _ => none
  | c :: rest => if c = '\\' then none else (decodePath rest).map (c :: ·)

/-- `_parse_options`, or nothing where there is no option. -/
def parseOptions (value : Text) : Option (Finset Text) :=
  let options := (value.splitOn ',').filter (· ≠ [])
  if options = [] then none else some options.toFinset

/-- What separates the optional fields from the file system type. -/
def separator : Text := [' ', '-', ' ']

/-- One line of the table, after entries with the ids `seen`. -/
def parseLine (number : Nat) (seen : List Int) (line : Text) : Except ValueError MountFacts := do
  let malformed := ValueError.value ("malformed mountinfo line " ++ toString number)
  require (Text.count separator line = 1) malformed
  let (left, right) ← orRaise (Text.cut separator line) malformed
  match Text.words Text.isspace left, Text.words Text.isspace right with
  | mountId :: parentId :: device :: root :: mountPoint :: options :: _, filesystemType :: source :: superOptions :: _ => do
    let mountId ← orRaise (int D mountId) malformed
    let parentId ← orRaise (int D parentId) malformed
    require (1 ≤ mountId ∧ 1 ≤ parentId ∧ mountId ∉ seen ∧ isDevice device = true) malformed
    let root ← orRaise (decodePath root) malformed
    let mountPoint ← orRaise (decodePath mountPoint) malformed
    require (['/'] <+: root ∧ (posixPath mountPoint).root ≠ .relative) malformed
    let mountOptions ← orRaise (parseOptions options) malformed
    let source ← orRaise (decodePath source) malformed
    let superOptions ← orRaise (parseOptions superOptions) malformed
    return ⟨mountId, parentId, device, root, posixPath mountPoint, mountOptions, filesystemType, source, superOptions⟩
  | _, _ => .error malformed

def parseLines : Nat → List Int → List Text → Except ValueError (List MountFacts)
  | _, _, [] => .ok []
  | number, seen, line :: rest =>
    if Text.words Text.isspace line = [] then parseLines (number + 1) seen rest
    else do
      let entry ← parseLine D number seen line
      let entries ← parseLines (number + 1) (entry.mountId :: seen) rest
      return entry :: entries

def parseMountinfo (text : Text) : Except ValueError (List MountFacts) := do
  let entries ← parseLines D 1 [] (Text.textLines text)
  require (entries ≠ []) (.value "mountinfo is empty")
  return entries

/-- `path == entry.mount_point or entry.mount_point in path.parents`. -/
def Above (mountPoint path : PosixPath) : Prop := mountPoint.root = path.root ∧ mountPoint.parts <+: path.parts

instance (mountPoint path : PosixPath) : Decidable (Above mountPoint path) :=
  inferInstanceAs (Decidable (mountPoint.root = path.root ∧ mountPoint.parts <+: path.parts))

def mountForPath (path : PosixPath) (entries : List MountFacts) : Option MountFacts :=
  let candidates := entries.filter fun entry => Above entry.mountPoint path
  let longest := (candidates.map fun entry => entry.mountPoint.parts.length).foldl max 0
  match candidates.filter fun entry => entry.mountPoint.parts.length = longest with
  | [entry] => some entry
  | _ => none

/-! ## The table as the kernel writes it -/

/-- What the kernel escapes or ends a field with. -/
def separates (c : Char) : Bool := c = ' ' ∨ c = '\t' ∨ c = '\n'

/-- An entry of the mount table. The tags are ASCII words, the type and the options anything
without the kernel's separators. -/
structure Mount where
  mountId : Nat
  parentId : Nat
  major : Nat
  minor : Nat
  root : Text
  mountPoint : PosixPath
  mountOptions : List Text
  tags : List Text
  filesystemType : Text
  source : Text
  superOptions : List Text
  positive : 0 < mountId ∧ 0 < parentId
  absolute : ['/'] <+: root ∧ mountPoint.root ≠ .relative
  options : mountOptions ≠ [] ∧ superOptions ≠ [] ∧
    ∀ o ∈ mountOptions ++ superOptions, o ≠ [] ∧ ∀ c ∈ o, c ≠ ',' ∧ separates c = false
  type : filesystemType ≠ [] ∧ ∀ c ∈ filesystemType, separates c = false
  tagged : ∀ tag ∈ tags, tag ≠ [] ∧ tag ≠ ['-'] ∧ ∀ c ∈ tag, Text.isspace c = false

def escapeChar (c : Char) : Text :=
  if c = ' ' then ['\\', '0', '4', '0']
  else if c = '\t' then ['\\', '0', '1', '1']
  else if c = '\n' then ['\\', '0', '1', '2']
  else if c = '\\' then ['\\', '1', '3', '4']
  else [c]

def escape (text : Text) : Text := text.flatMap escapeChar

namespace Mount

def device (m : Mount) : Text := Nat.toDigits 10 m.major ++ ':' :: Nat.toDigits 10 m.minor

/-- The fields before the options. -/
def identity (m : Mount) : List Text :=
  [Nat.toDigits 10 m.mountId, Nat.toDigits 10 m.parentId, m.device, escape m.root, escape m.mountPoint.text]

def left (m : Mount) : List Text := m.identity ++ [','].intercalate m.mountOptions :: m.tags

def right (m : Mount) : Text :=
  m.filesystemType ++ ' ' :: (escape m.source ++ ' ' :: [','].intercalate m.superOptions)

def line (m : Mount) : Text := [' '].intercalate m.left ++ ' ' :: (['-'] ++ ' ' :: m.right)

def facts (m : Mount) : MountFacts :=
  ⟨m.mountId, m.parentId, m.device, m.root, m.mountPoint, m.mountOptions.toFinset, m.filesystemType, m.source,
    m.superOptions.toFinset⟩

/-- The texts of an entry that the kernel fills in. -/
def texts (m : Mount) : List Text :=
  [m.root, m.mountPoint.text, m.filesystemType, m.source] ++ m.mountOptions ++ m.superOptions

/-- What the reader takes for one field is one. -/
structure Readable (m : Mount) : Prop where
  ids : m.mountId < 10 ^ maxDigits ∧ m.parentId < 10 ^ maxDigits
  texts : ∀ text ∈ m.texts, ∀ c ∈ text, Text.isspace c = true → separates c = true
  source : m.source ≠ [] ∧ m.source ≠ ['-']
  options : m.mountOptions ≠ [['-']]

end Mount

def render (table : List Mount) : Text := table.flatMap fun m => m.line ++ ['\n']

/-! ## Numbers -/

/-- A field: not empty, and no whitespace in it. -/
def Plain (text : Text) : Prop := text ≠ [] ∧ ∀ c ∈ text, Text.isspace c = false

variable {c : Char} {n : Nat} {text : Text} {ps ts : List Text} {table : List Mount} {seen : List Int}
  {entries : List MountFacts}

theorem isspace_of_isDigit (h : c.isDigit = true) : Text.isspace c = false := by
  by_contra hspace
  simp only [Text.isspace, List.mem_cons, List.not_mem_nil, or_false, Bool.not_eq_false, decide_eq_true_eq] at hspace
  rcases hspace with rfl | rfl | rfl | rfl | rfl | rfl | rfl | rfl | rfl | rfl | rfl | rfl | rfl | rfl | rfl | rfl |
    rfl | rfl | rfl | rfl | rfl | rfl | rfl | rfl | rfl | rfl | rfl | rfl | rfl <;> exact absurd h (by decide)

theorem isDigit_toDigits (n : Nat) : ∀ c ∈ Nat.toDigits 10 n, c.isDigit = true :=
  fun _ hc => Nat.isDigit_of_mem_toDigits (by decide) (by decide) hc

theorem plain_toDigits (n : Nat) : Plain (Nat.toDigits 10 n) :=
  ⟨Nat.toDigits_ne_nil, fun c hc => isspace_of_isDigit (isDigit_toDigits n c hc)⟩

theorem digitChar_of_isDigit (h : c.isDigit = true) : c.toNat - 48 < 10 ∧ Nat.digitChar (c.toNat - 48) = c := by
  have hall : ∀ n < 10, Nat.digitChar n = Char.ofNat (48 + n) := by decide
  simp only [Char.isDigit, Bool.and_eq_true, decide_eq_true_eq, UInt32.le_iff_toNat_le] at h
  have hlow : 48 ≤ c.toNat := h.1
  have hhigh : c.toNat ≤ 57 := h.2
  refine ⟨by omega, ?_⟩
  rw [hall _ (by omega), Nat.add_sub_of_le hlow, Char.ofNat_toNat]

theorem decimal_of_isDigit (h : c.isDigit = true) : D.decimal c = some (c.toNat - 48) := by
  obtain ⟨hlt, hchar⟩ := digitChar_of_isDigit h
  rw [← D.ascii _ hlt, hchar]

theorem digitsFrom_digit (h : c.isDigit = true) (count : Nat) (start : Bool) (value : Nat) (rest : Text) :
    digitsFrom D count start value (c :: rest) =
      digitsFrom D (count + 1) false (10 * value + (c.toNat - 48)) rest := by
  have hc : c ≠ '_' := by
    rintro rfl
    exact absurd h (by decide)
  rw [digitsFrom, if_neg hc, decimal_of_isDigit D h]

theorem digitsFrom_digits {digits : Text} (hdigits : ∀ c ∈ digits, c.isDigit = true) (count value : Nat) :
    digitsFrom D count false value digits =
      if count + digits.length ≤ maxDigits then some (Nat.ofDigitChars 10 digits value) else none := by
  induction digits generalizing count value with
  | nil => simp [digitsFrom]
  | cons c digits ih =>
    rw [digitsFrom_digit D (hdigits c (by simp)), ih fun d hd => hdigits d (by simp [hd]), Nat.ofDigitChars_cons]
    have hzero : '0'.toNat = 48 := rfl
    have hlen : count + 1 + digits.length = count + (c :: digits).length := by
      rw [List.length_cons]
      omega
    rw [hlen, hzero]

theorem int_toDigits (h : n < 10 ^ maxDigits) : int D (Nat.toDigits 10 n) = some (n : Int) := by
  have hlen : (Nat.toDigits 10 n).length ≤ maxDigits :=
    (Nat.length_toDigits_le_iff (by decide) (by decide)).mpr h
  have hvalue := Nat.ofDigitChars_toDigits (b := 10) (n := n) (by decide) (by decide)
  have hdigits := isDigit_toDigits n
  revert hlen hvalue hdigits
  generalize hd : Nat.toDigits 10 n = digits
  intro hlen hvalue hdigits
  cases digits with
  | nil => exact absurd hd Nat.toDigits_ne_nil
  | cons c rest =>
    have hsigns : c ≠ '-' ∧ c ≠ '+' := by
      constructor
      · rintro rfl
        exact absurd (hdigits '-' (by simp)) (by decide)
      · rintro rfl
        exact absurd (hdigits '+' (by simp)) (by decide)
    have hint : int D (c :: rest) = (digitsFrom D 0 true 0 (c :: rest)).map Int.ofNat := by
      rw [int.eq_def]
      split
      · next heq => exact absurd (List.cons.inj heq).1 hsigns.1
      · next heq => exact absurd (List.cons.inj heq).1 hsigns.2
      · rfl
    have hread := digitsFrom_digits D (show ∀ d ∈ rest, d.isDigit = true from fun d hd => hdigits d (by simp [hd])) 1 (10 * 0 + (c.toNat - 48))
    have hlen' : 1 + rest.length ≤ maxDigits := by
      rw [List.length_cons] at hlen
      omega
    rw [if_pos hlen'] at hread
    have hzero : '0'.toNat = 48 := rfl
    rw [hint, digitsFrom_digit D (hdigits c (by simp)), Nat.zero_add, hread, ← hzero, ← Nat.ofDigitChars_cons, hvalue]
    rfl

theorem digitsFrom_lt {count value : Nat} {start : Bool} (hvalue : value < 10 ^ count)
    (h : digitsFrom D count start value text = some n) : n < 10 ^ maxDigits := by
  induction text generalizing count start value with
  | nil =>
    simp only [digitsFrom] at h
    split at h
    · cases h
    · split at h
      · next hcount =>
        cases h
        exact lt_of_lt_of_le hvalue (Nat.pow_le_pow_right (by decide) hcount)
      · cases h
  | cons c rest ih =>
    rw [digitsFrom] at h
    split at h
    · split at h
      · cases h
      · exact ih hvalue h
    · split at h
      · cases h
      · next d hd =>
        refine ih ?_ h
        have := D.small c d hd
        rw [Nat.pow_succ]
        omega

theorem int_lt (h : int D text = some (n : Int)) : n < 10 ^ maxDigits := by
  have hpos : 0 < 10 ^ maxDigits := Nat.pow_pos (by decide)
  rw [int.eq_def] at h
  split at h
  · obtain ⟨k, -, hk⟩ := Option.map_eq_some_iff.mp h
    have hneg : -(k : Int) = n := hk
    have hzero : n = 0 := by omega
    rw [hzero]
    exact hpos
  · obtain ⟨k, hread, hk⟩ := Option.map_eq_some_iff.mp h
    obtain rfl : k = n := Int.ofNat.inj hk
    exact digitsFrom_lt D (by decide) hread
  · obtain ⟨k, hread, hk⟩ := Option.map_eq_some_iff.mp h
    obtain rfl : k = n := Int.ofNat.inj hk
    exact digitsFrom_lt D (by decide) hread

/-! ## Escapes -/

theorem decodePath_cons (hc : c ≠ '\\') (rest : Text) : decodePath (c :: rest) = (decodePath rest).map (c :: ·) := by
  rw [decodePath.eq_def]
  split
  · next h => cases h
  · next h => exact absurd (List.cons.inj h).1 hc
  · next h =>
    obtain ⟨rfl, rfl⟩ := List.cons.inj h
    rw [if_neg hc]

theorem decodePath_escape (text : Text) : decodePath (escape text) = some text := by
  induction text with
  | nil => rfl
  | cons c text ih =>
    have hcons : escape (c :: text) = escapeChar c ++ escape text := rfl
    rw [hcons, escapeChar]
    split
    · next h => simp [decodePath, validEscape, ih, h]
    · split
      · next h => simp [decodePath, validEscape, ih, h]
      · split
        · next h => simp [decodePath, validEscape, ih, h]
        · split
          · next h => simp [decodePath, validEscape, ih, h]
          · next h => rw [List.singleton_append, decodePath_cons h, ih, Option.map_some]

theorem validEscape_some {code : Text} (h : validEscape code = some c) :
    Text.isspace c = true → separates c = true := by
  unfold validEscape at h
  split at h <;> cases h <;> decide

theorem decodePath_some {field : Text} (h : decodePath field = some text) (hfield : Plain field) :
    text ≠ [] ∧ ∀ c ∈ text, Text.isspace c = true → separates c = true := by
  have hchars : ∀ {field text : Text}, decodePath field = some text → (∀ c ∈ field, Text.isspace c = false) →
      ∀ c ∈ text, Text.isspace c = true → separates c = true := by
    intro field
    induction field using decodePath.induct with
    | case1 =>
      intro text h _
      cases h
      simp
    | case2 a b c rest d decoded hrest hd ih =>
      intro text h hfield
      rw [decodePath, hd, hrest] at h
      cases h
      have hrest' := ih hrest fun x hx => hfield x (by simp [hx])
      rw [List.forall_mem_cons]
      exact ⟨validEscape_some hd, hrest'⟩
    | case3 a b c rest hnone =>
      intro text h _
      rw [decodePath] at h
      split at h
      · next hd hrest => exact absurd hrest (hnone _ _ hd)
      · cases h
    | case4 rest =>
      intro text h _
      rw [decodePath.eq_def] at h
      simp_all
    | case5 c rest hshape hc ih =>
      intro text h hfield
      rw [decodePath_cons hc] at h
      obtain ⟨decoded, hrest, rfl⟩ := Option.map_eq_some_iff.mp h
      rw [List.forall_mem_cons]
      refine ⟨?_, ih hrest fun x hx => hfield x (by simp [hx])⟩
      intro hspace
      rw [hfield c (by simp)] at hspace
      cases hspace
  refine ⟨?_, hchars h hfield.2⟩
  rintro rfl
  rw [decodePath.eq_def] at h
  split at h
  · exact hfield.1 rfl
  · split at h <;> cases h
  · split at h
    · cases h
    · obtain ⟨_, -, hcons⟩ := Option.map_eq_some_iff.mp h
      cases hcons

/-! ## Paths are read back -/

theorem posixParts_intercalate (h : ∀ part ∈ ps, part ≠ [] ∧ part ≠ ['.'] ∧ '/' ∉ part) :
    Text.posixParts (['/'].intercalate ps) = ps := by
  cases ps with
  | nil => rfl
  | cons p ps =>
    rw [Text.posixParts, List.splitOn_intercalate '/' (fun part hpart => (h part hpart).2.2) (by simp), List.filter_eq_self]
    intro part hpart
    simpa using ⟨(h part hpart).1, (h part hpart).2.1⟩

theorem not_slash_intercalate (h : ∀ part ∈ ps, part ≠ [] ∧ part ≠ ['.'] ∧ '/' ∉ part) (rest : Text) :
    ['/'].intercalate ps ≠ '/' :: rest := by
  cases ps with
  | nil => simp
  | cons p ps =>
    obtain ⟨hne, -, hslash⟩ := h p (by simp)
    cases p with
    | nil => exact absurd rfl hne
    | cons c p =>
      intro heq
      have hc : c = '/' := by
        cases ps with
        | nil => simpa using congrArg List.head? heq
        | cons q ps => simpa using congrArg List.head? heq
      exact hslash (by simp [hc])

theorem posixPath_text {p : PosixPath} (h : p.root ≠ .relative) : posixPath p.text = p := by
  obtain ⟨root, ps, hproper⟩ := p
  have hread := posixParts_intercalate hproper
  have hslash := not_slash_intercalate hproper
  cases root with
  | relative => exact absurd rfl h
  | single =>
    have htext : PosixPath.text ⟨.single, ps, hproper⟩ = '/' :: ['/'].intercalate ps := rfl
    rw [htext, posixPath.eq_def]
    split
    · next heq => exact absurd (List.cons.inj heq).2 (hslash _)
    · next heq => exact absurd (List.cons.inj heq).2 (hslash _)
    · next heq =>
      obtain ⟨-, rfl⟩ := List.cons.inj heq
      simp [hread]
    · next h1 h2 h3 => exact absurd rfl (h3 _)
  | double =>
    have htext : PosixPath.text ⟨.double, ps, hproper⟩ = '/' :: '/' :: ['/'].intercalate ps := rfl
    rw [htext, posixPath.eq_def]
    split
    · next heq => exact absurd (List.cons.inj (List.cons.inj heq).2).2 (hslash _)
    · next heq =>
      obtain ⟨-, rfl⟩ := List.cons.inj (List.cons.inj heq).2
      simp [hread]
    · next h1 h2 heq => exact absurd (List.cons.inj heq).2.symm (h2 _)
    · next h1 h2 h3 => exact absurd rfl (h3 _)

theorem mem_intercalate {sep : Char} (h : c ∈ [sep].intercalate ts) : c = sep ∨ ∃ t ∈ ts, c ∈ t := by
  induction ts with
  | nil => simp at h
  | cons t ts ih =>
    cases ts with
    | nil => exact .inr ⟨t, by simp, by simpa using h⟩
    | cons u ts =>
      have hjoin : [sep].intercalate (t :: u :: ts) = t ++ sep :: [sep].intercalate (u :: ts) := by simp
      rw [hjoin, List.mem_append, List.mem_cons] at h
      rcases h with ht | rfl | hrest
      · exact .inr ⟨t, by simp, ht⟩
      · exact .inl rfl
      · obtain rfl | ⟨v, hv, hcv⟩ := ih hrest
        · exact .inl rfl
        · exact .inr ⟨v, List.mem_cons_of_mem _ hv, hcv⟩

theorem mem_posixPath_text {s : Text} (h : c ∈ (posixPath s).text) : c = '/' ∨ c ∈ s := by
  -- The parts are parts of what stands after the root.
  have hparts : ∀ rest : Text, c ∈ ['/'].intercalate (Text.posixParts rest) → c = '/' ∨ c ∈ rest := by
    intro rest hmem
    obtain rfl | ⟨part, hpart, hc⟩ := mem_intercalate hmem
    · exact .inl rfl
    · have hpiece := (List.mem_filter.mp hpart).1
      rw [List.splitOn_eq_splitOnP] at hpiece
      exact .inr (Text.mem_of_mem_splitOnP hpiece c hc)
  unfold posixPath at h
  split at h
  · simp only [PosixPath.text, Root.text, List.singleton_append, List.mem_cons] at h
    obtain rfl | hmem := h
    · exact .inl rfl
    · exact (hparts _ hmem).imp_right fun hc => by simp [hc]
  · simp only [PosixPath.text, Root.text, List.cons_append, List.nil_append, List.mem_cons] at h
    obtain rfl | rfl | hmem := h
    · exact .inl rfl
    · exact .inl rfl
    · exact (hparts _ hmem).imp_right fun hc => by simp [hc]
  · simp only [PosixPath.text, Root.text, List.singleton_append, List.mem_cons] at h
    obtain rfl | hmem := h
    · exact .inl rfl
    · exact (hparts _ hmem).imp_right fun hc => by simp [hc]
  · exact hparts _ h

/-! ## Fields are read back -/

theorem escapeChar_ne_nil (c : Char) : escapeChar c ≠ [] := by
  unfold escapeChar
  split_ifs <;> simp

theorem isspace_escape (h : ∀ c ∈ text, Text.isspace c = true → separates c = true) :
    ∀ d ∈ escape text, Text.isspace d = false := by
  intro d hd
  obtain ⟨c, hc, hd⟩ := List.mem_flatMap.mp hd
  unfold escapeChar at hd
  split_ifs at hd with h₁ h₂ h₃ h₄
  case neg =>
    rw [List.mem_singleton] at hd
    subst hd
    by_contra hspace
    have := h d hc (by simpa using hspace)
    simp [separates, h₁, h₂, h₃] at this
  all_goals
    simp only [List.mem_cons, List.not_mem_nil, or_false] at hd
    rcases hd with rfl | rfl | rfl | rfl <;> decide

theorem plain_escape (hne : text ≠ []) (h : ∀ c ∈ text, Text.isspace c = true → separates c = true) :
    Plain (escape text) := by
  refine ⟨?_, isspace_escape h⟩
  cases text with
  | nil => exact absurd rfl hne
  | cons c text =>
    intro hnil
    exact escapeChar_ne_nil c (List.append_eq_nil_iff.mp hnil).1

theorem plain_join (hne : ts ≠ []) (h : ∀ t ∈ ts, Plain t) : Plain ([','].intercalate ts) := by
  constructor
  · cases ts with
    | nil => exact absurd rfl hne
    | cons t ts =>
      have ht := (h t (by simp)).1
      cases ts with
      | nil => simpa using ht
      | cons u ts => simp
  · intro c hc
    obtain rfl | ⟨t, ht, hct⟩ := mem_intercalate hc
    · decide
    · exact (h t ht).2 c hct

theorem parseOptions_join {os : List Text} (hne : os ≠ []) (h : ∀ o ∈ os, o ≠ [] ∧ ',' ∉ o) :
    parseOptions ([','].intercalate os) = some os.toFinset := by
  have hkept : os.filter (· ≠ []) = os := by
    rw [List.filter_eq_self]
    intro o ho
    simpa using (h o ho).1
  simp only [parseOptions, List.splitOn_intercalate ',' (fun o ho => (h o ho).2) hne, hkept, if_neg hne]

theorem parseOptions_some {value : Text} {options : Finset Text} (h : parseOptions value = some options)
    (hvalue : Plain value) : ∀ o ∈ options, Plain o := by
  simp only [parseOptions] at h
  split at h
  · cases h
  · cases h
    intro o ho
    rw [List.mem_toFinset, List.mem_filter, List.splitOn_eq_splitOnP] at ho
    exact ⟨by simpa using ho.2, fun c hc => hvalue.2 c (Text.mem_of_mem_splitOnP ho.1 c hc)⟩

theorem isDevice_device (m : Mount) : isDevice m.device = true := by
  have hcolon : ∀ n, ':' ∉ Nat.toDigits 10 n := fun n h => absurd (isDigit_toDigits n ':' h) (by decide)
  have hsplit : m.device.splitOn ':' = [Nat.toDigits 10 m.major, Nat.toDigits 10 m.minor] := by
    rw [Mount.device, List.splitOn_append_cons_self_of_not_mem (hcolon _), List.splitOn_eq_singleton (hcolon _)]
  simp only [isDevice, hsplit, decide_eq_true_eq]
  refine ⟨Nat.toDigits_ne_nil, Nat.toDigits_ne_nil, ?_⟩
  intro c hc
  rcases List.mem_append.mp hc with hc | hc
  · exact isDigit_toDigits _ c hc
  · exact isDigit_toDigits _ c hc

/-- The kernel fills in nothing with whitespace that it does not escape. -/
def Clean (m : Mount) : Prop := ∀ text ∈ m.texts, ∀ c ∈ text, Text.isspace c = true → separates c = true

section Clean
variable {m : Mount}

theorem slash_text {p : PosixPath} (h : p.root ≠ .relative) : ∃ rest, p.text = '/' :: rest := by
  obtain ⟨root, ps, hproper⟩ := p
  cases root with
  | relative => exact absurd rfl h
  | single => exact ⟨_, rfl⟩
  | double => exact ⟨_, rfl⟩

theorem plain_identity (h : Clean m) : ∀ field ∈ m.identity, Plain field ∧ field ≠ ['-'] := by
  have hdigit : ∀ n, Nat.toDigits 10 n ≠ ['-'] := by
    intro n heq
    exact absurd (isDigit_toDigits n '-' (by simp [heq])) (by decide)
  -- What begins with a slash is not the separator.
  have hslash : ∀ rest, escape ('/' :: rest) ≠ ['-'] := by simp [escape, escapeChar]
  intro field hfield
  simp only [Mount.identity, List.mem_cons, List.not_mem_nil, or_false] at hfield
  rcases hfield with rfl | rfl | rfl | rfl | rfl
  · exact ⟨plain_toDigits _, hdigit _⟩
  · exact ⟨plain_toDigits _, hdigit _⟩
  · refine ⟨⟨by simp [Mount.device], ?_⟩, ?_⟩
    · intro c hc
      simp only [Mount.device, List.mem_append, List.mem_cons] at hc
      rcases hc with hc | rfl | hc
      · exact (plain_toDigits _).2 c hc
      · decide
      · exact (plain_toDigits _).2 c hc
    · intro heq
      have : ':' ∈ m.device := by simp [Mount.device]
      rw [heq] at this
      exact absurd this (by decide)
  · obtain ⟨rest, hrest⟩ := m.absolute.1
    refine ⟨plain_escape ?_ (h m.root (by simp [Mount.texts])), ?_⟩
    · rw [← hrest]
      simp
    · rw [← hrest]
      exact hslash rest
  · obtain ⟨rest, hrest⟩ := slash_text m.absolute.2
    refine ⟨plain_escape ?_ (h m.mountPoint.text (by simp [Mount.texts])), ?_⟩
    · rw [hrest]
      simp
    · rw [hrest]
      exact hslash rest

theorem plain_of_clean {text : Text} (h : Clean m) (hmem : text ∈ m.texts) (hne : text ≠ [])
    (hsep : ∀ c ∈ text, separates c = false) : Plain text := by
  refine ⟨hne, ?_⟩
  intro c hc
  by_contra hspace
  have := h text hmem c hc (by simpa using hspace)
  rw [hsep c hc] at this
  cases this

theorem plain_options (h : Clean m) : ∀ o ∈ m.mountOptions ++ m.superOptions, Plain o := by
  intro o ho
  obtain ⟨hne, hsep⟩ := m.options.2.2 o ho
  refine plain_of_clean h ?_ hne fun c hc => (hsep c hc).2
  simpa [Mount.texts, or_assoc] using .inr (.inr (.inr (.inr (List.mem_append.mp ho))))

theorem plain_left (h : Clean m) : ∀ field ∈ m.left, Plain field := by
  intro field hfield
  simp only [Mount.left, List.mem_append, List.mem_cons] at hfield
  rcases hfield with hid | rfl | htag
  · exact (plain_identity h field hid).1
  · exact plain_join m.options.1 fun o ho => plain_options h o (by simp [ho])
  · exact ⟨(m.tagged field htag).1, (m.tagged field htag).2.2⟩

theorem plain_type (h : Clean m) : Plain m.filesystemType :=
  plain_of_clean h (by simp [Mount.texts]) m.type.1 m.type.2

theorem plain_superOptions (h : Clean m) : Plain ([','].intercalate m.superOptions) :=
  plain_join m.options.2.1 fun o ho => plain_options h o (by simp [ho])

/-! ## Lines are read back -/

theorem blank_notMem {field : Text} (h : Plain field) : ' ' ∉ field := by
  intro hmem
  have := h.2 ' ' hmem
  exact absurd this (by decide)

theorem isspace_line (h : Clean m) : ∀ c ∈ m.line, Text.isspace c = true → c = ' ' := by
  intro c hc hspace
  have hplain : ∀ {field : Text}, Plain field → c ∉ field := by
    intro field hfield hmem
    rw [hfield.2 c hmem] at hspace
    cases hspace
  simp only [Mount.line, Mount.right, List.mem_append, List.mem_cons, List.not_mem_nil, or_false] at hc
  rcases hc with hleft | rfl | rfl | rfl | htype | rfl | hsource | rfl | hsuper
  · obtain rfl | ⟨field, hfield, hmem⟩ := mem_intercalate hleft
    · rfl
    · exact absurd hmem (hplain (plain_left h field hfield))
  · rfl
  · exact absurd hspace (by decide)
  · rfl
  · exact absurd htype (hplain (plain_type h))
  · rfl
  · have := isspace_escape (h m.source (by simp [Mount.texts])) c hsource
    rw [this] at hspace
    cases hspace
  · rfl
  · exact absurd hsuper (hplain (plain_superOptions h))

theorem words_line_ne_nil (m : Mount) : Text.words Text.isspace m.line ≠ [] := by
  have hline : ∃ rest, m.line = Nat.toDigits 10 m.mountId ++ ' ' :: rest := by
    simp [Mount.line, Mount.left, Mount.identity]
  obtain ⟨rest, hrest⟩ := hline
  obtain ⟨hne, hblank⟩ := plain_toDigits m.mountId
  rw [hrest, Text.words_word rest hne hblank (by decide)]
  simp

theorem eq_of_escape {text : Text} (h : escape text = ['-']) : text = ['-'] := by
  have hread := decodePath_escape text
  rw [h] at hread
  have : decodePath ['-'] = some ['-'] := rfl
  rw [this] at hread
  exact (Option.some.inj hread).symm

theorem eq_of_join {os : List Text} (hne : os ≠ []) (h : ∀ o ∈ os, ',' ∉ o) (heq : [','].intercalate os = ['-']) :
    os = [['-']] := by
  have hsplit := List.splitOn_intercalate ',' h hne
  rw [heq] at hsplit
  exact hsplit.symm.trans (by decide)

theorem not_prefix_of_blank {field : Text} (h : ' ' ∉ field) : ¬ ['-', ' '] <+: field := by
  intro hp
  exact h (hp.subset (by simp))

theorem count_right (h : Clean m) : Text.countFrom separator 0 m.right = if m.source = ['-'] then 1 else 0 := by
  have htype := blank_notMem (plain_type h)
  have hsuper := blank_notMem (plain_superOptions h)
  have hsource : ' ' ∉ escape m.source := by
    intro hmem
    have := isspace_escape (h m.source (by simp [Mount.texts])) ' ' hmem
    exact absurd this (by decide)
  have hnone : Text.countFrom separator 0 ([','].intercalate m.superOptions) = 0 := by
    have : Text.countFrom separator 0 ([','].intercalate m.superOptions ++ []) = 0 := Text.countFrom_token hsuper []
    rw [List.append_nil] at this
    exact this
  rw [Mount.right, separator, Text.countFrom_token htype]
  split
  · next hdash =>
    have htext : ' ' :: (escape m.source ++ ' ' :: [','].intercalate m.superOptions) =
        separator ++ [','].intercalate m.superOptions := by
      rw [hdash]
      rfl
    rw [htext, ← separator, Text.countFrom_found (by decide), hnone]
  · next hdash =>
    have hmiss : ¬ ['-', ' '] <+: escape m.source ++ ' ' :: [','].intercalate m.superOptions :=
      Text.not_prefix_token (d := ['-']) hsource (by decide) fun heq => hdash (eq_of_escape heq)
    rw [Text.countFrom_blank hmiss, Text.countFrom_token hsource, Text.countFrom_blank (not_prefix_of_blank hsuper)]
    exact hnone

theorem words_right (h : Clean m) (hsource : m.source ≠ []) :
    Text.words Text.isspace m.right = [m.filesystemType, escape m.source, [','].intercalate m.superOptions] := by
  obtain ⟨htne, htype⟩ := plain_type h
  obtain ⟨hsne, hsuper⟩ := plain_superOptions h
  obtain ⟨hene, hescape⟩ := plain_escape hsource (h m.source (by simp [Mount.texts]))
  rw [Mount.right, Text.words_word _ htne htype (by decide), Text.words_word _ hene hescape (by decide),
    Text.words_last hsne hsuper]

theorem left_tokens (h : Clean m) (hoptions : m.mountOptions ≠ [['-']]) :
    ∀ field ∈ m.left, ' ' ∉ field ∧ field ≠ ['-'] := by
  intro field hfield
  refine ⟨blank_notMem (plain_left h field hfield), ?_⟩
  simp only [Mount.left, List.mem_append, List.mem_cons] at hfield
  rcases hfield with hid | rfl | htag
  · exact (plain_identity h field hid).2
  · intro heq
    have hcomma : ∀ o ∈ m.mountOptions, ',' ∉ o := fun o ho hmem => ((m.options.2.2 o (by simp [ho])).2 ',' hmem).1 rfl
    exact hoptions (eq_of_join m.options.1 hcomma heq)
  · exact (m.tagged field htag).2.1

theorem cut_line (h : Clean m) (hoptions : m.mountOptions ≠ [['-']]) :
    Text.cut separator m.line = some ([' '].intercalate m.left, m.right) ∧
      Text.count separator m.line = (if m.source = ['-'] then 1 else 0) + 1 := by
  have hcut := Text.cut_tokens (d := ['-']) (by decide) (by simp [Mount.left]) (left_tokens h hoptions) m.right
  rw [Text.count, if_neg (by decide), ← count_right h]
  exact hcut

theorem parseLine_line (h : m.Readable) {seen : List Int} (hseen : (m.mountId : Int) ∉ seen) (number : Nat) :
    parseLine D number seen m.line = .ok m.facts := by
  have hclean : Clean m := h.texts
  obtain ⟨hcut, hcount⟩ := cut_line hclean h.options
  rw [if_neg h.source.2] at hcount
  have hcomma : ∀ o ∈ m.mountOptions ++ m.superOptions, o ≠ [] ∧ ',' ∉ o := fun o ho =>
    ⟨(m.options.2.2 o ho).1, fun hmem => ((m.options.2.2 o ho).2 ',' hmem).1 rfl⟩
  have hleft : Text.words Text.isspace ([' '].intercalate m.left) = m.left :=
    Text.words_tokens (by decide) (by simp [Mount.left]) (plain_left hclean)
  have hpositive := m.positive
  have hvalid : 1 ≤ (m.mountId : Int) ∧ 1 ≤ (m.parentId : Int) ∧ (m.mountId : Int) ∉ seen ∧ isDevice m.device = true :=
    ⟨by omega, by omega, hseen, isDevice_device m⟩
  have habsolute : ['/'] <+: m.root ∧ (posixPath m.mountPoint.text).root ≠ .relative := by
    rw [posixPath_text m.absolute.2]
    exact m.absolute
  simp only [parseLine, bind_ok, require_ok, orRaise_ok, hcount, hcut, Prod.exists]
  refine ⟨(), trivial, _, _, rfl, ?_⟩
  rw [hleft, words_right hclean h.source.1]
  simp only [Mount.left, Mount.identity, List.cons_append, List.nil_append, bind_ok, orRaise_ok, require_ok, pure_ok]
  refine ⟨_, int_toDigits D h.ids.1, _, int_toDigits D h.ids.2, (), hvalid, _, decodePath_escape _, _,
    decodePath_escape _, (), habsolute, _, parseOptions_join m.options.1 fun o ho => hcomma o (by simp [ho]), _,
    decodePath_escape _, _, parseOptions_join m.options.2.1 fun o ho => hcomma o (by simp [ho]), ?_⟩
  rw [posixPath_text m.absolute.2]
  rfl

theorem parseLine_unreadable (h : Clean m) (hdash : m.source = ['-'] ∨ m.mountOptions = [['-']]) (number : Nat)
    (seen : List Int) (e : MountFacts) : parseLine D number seen m.line ≠ .ok e := by
  intro hread
  simp only [parseLine, bind_ok, require_ok, orRaise_ok, Prod.exists] at hread
  obtain ⟨_, hone, left, right, hcut, hread⟩ := hread
  by_cases hoptions : m.mountOptions = [['-']]
  · -- The options are taken for the separator, and what stands before them is too short.
    have hline : ∃ rest, m.line = [' '].intercalate m.identity ++ ' ' :: (['-'] ++ ' ' :: rest) := by
      cases htags : m.tags with
      | nil => exact ⟨'-' :: ' ' :: m.right, by simp [Mount.line, Mount.left, Mount.identity, hoptions, htags]⟩
      | cons t ts =>
        exact ⟨[' '].intercalate (t :: ts) ++ ' ' :: '-' :: ' ' :: m.right, by
          simp [Mount.line, Mount.left, Mount.identity, hoptions, htags]⟩
    obtain ⟨rest, hrest⟩ := hline
    have htokens : ∀ field ∈ m.identity, ' ' ∉ field ∧ field ≠ ['-'] := fun field hfield =>
      ⟨blank_notMem (plain_identity h field hfield).1, (plain_identity h field hfield).2⟩
    have hfirst := (Text.cut_tokens (d := ['-']) (by decide) (by simp [Mount.identity]) htokens rest).1
    rw [hrest] at hcut
    have hleft : [' '].intercalate m.identity = left :=
      congrArg Prod.fst (Option.some.inj (hfirst.symm.trans hcut))
    have hwords : Text.words Text.isspace left = m.identity := by
      rw [← hleft]
      exact Text.words_tokens (by decide) (by simp [Mount.identity]) fun field hfield => (plain_identity h field hfield).1
    rw [hwords] at hread
    simp [Mount.identity] at hread
  · have hcount := (cut_line h hoptions).2
    rw [if_pos (hdash.resolve_right hoptions), hone] at hcount
    cases hcount

theorem clean_of_parseLine {number : Nat} {seen : List Int} {line : Text}
    (h : parseLine D number seen line = .ok m.facts) :
    (m.mountId < 10 ^ maxDigits ∧ m.parentId < 10 ^ maxDigits) ∧ Clean m ∧ m.source ≠ [] := by
  simp only [parseLine, bind_ok, require_ok, orRaise_ok, Prod.exists] at h
  obtain ⟨_, -, left, right, -, h⟩ := h
  split at h
  · next mountId parentId device root mountPoint options more filesystemType source superOptions more' hl hr =>
    have hleft : ∀ field ∈ mountId :: parentId :: device :: root :: mountPoint :: options :: more, Plain field := by
      rw [← hl]
      exact fun field hfield => Text.blank_of_mem_words hfield
    have hright : ∀ field ∈ filesystemType :: source :: superOptions :: more', Plain field := by
      rw [← hr]
      exact fun field hfield => Text.blank_of_mem_words hfield
    simp only [bind_ok, require_ok, orRaise_ok, pure_ok, Mount.facts, MountFacts.mk.injEq] at h
    obtain ⟨id, hid, parent, hparent, _, -, decodedRoot, hroot, decodedPoint, hpoint, _, -, parsed, hparsed, decodedSource,
      hsource, parsedSuper, hsuper, rfl, rfl, -, rfl, hmount, rfl, rfl, rfl, rfl⟩ := h
    have hrootChars := (decodePath_some hroot (hleft root (by simp))).2
    have hpointChars := (decodePath_some hpoint (hleft mountPoint (by simp))).2
    obtain ⟨hsourceNe, hsourceChars⟩ := decodePath_some hsource (hright source (by simp))
    have hnone : ∀ {text : Text}, Plain text → ∀ c ∈ text, Text.isspace c = true → separates c = true := by
      intro text htext c hc hspace
      rw [htext.2 c hc] at hspace
      cases hspace
    refine ⟨⟨int_lt D hid, int_lt D hparent⟩, ?_, hsourceNe⟩
    intro text htext
    simp only [Mount.texts, List.cons_append, List.nil_append, List.mem_cons, List.mem_append] at htext
    rcases htext with rfl | rfl | rfl | rfl | hoption | hoption
    · exact hrootChars
    · intro c hc hspace
      rw [← hmount] at hc
      obtain rfl | hc := mem_posixPath_text hc
      · exact absurd hspace (by decide)
      · exact hpointChars c hc hspace
    · exact hnone (hright _ (by simp))
    · exact hsourceChars
    · exact hnone (parseOptions_some hparsed (hleft options (by simp)) text (List.mem_toFinset.mpr hoption))
    · exact hnone (parseOptions_some hsuper (hright superOptions (by simp)) text (List.mem_toFinset.mpr hoption))
  · cases h

end Clean

/-! ## Tables are read back -/

theorem textLines_render (h : ∀ m ∈ table, Clean m) : Text.textLines (render table) = table.map Mount.line := by
  induction table with
  | nil => rfl
  | cons m table ih =>
    have hline : ∀ c ∈ m.line, Text.lineEnd c = false := by
      intro c hc
      by_contra hend
      have hspace := Text.isspace_of_lineEnd (by simpa using hend)
      rw [isspace_line (h m (by simp)) c hc hspace] at hend
      exact hend (by decide)
    have htext : render (m :: table) = m.line ++ '\n' :: render table := by simp [render]
    rw [htext, Text.textLines, Text.splitlines_line _ hline (by decide) (by decide), List.map_cons]
    exact congrArg _ (ih fun m' hm' => h m' (by simp [hm']))

theorem parseLines_lines (h : ∀ m ∈ table, m.Readable) (hids : (table.map Mount.mountId).Nodup)
    (hseen : ∀ m ∈ table, (m.mountId : Int) ∉ seen) (number : Nat) :
    parseLines D number seen (table.map Mount.line) = .ok (table.map Mount.facts) := by
  induction table generalizing seen number with
  | nil => rfl
  | cons m table ih =>
    rw [List.map_cons, List.nodup_cons] at hids
    have hrest : ∀ m' ∈ table, (m'.mountId : Int) ∉ m.facts.mountId :: seen := by
      intro m' hm' hmem
      rcases List.mem_cons.mp hmem with heq | hmem
      · have hid : m'.mountId = m.mountId := Int.ofNat.inj heq
        exact hids.1 (List.mem_map.mpr ⟨m', hm', hid⟩)
      · exact hseen m' (by simp [hm']) hmem
    have hline := parseLine_line D (h m (by simp)) (hseen m (by simp)) number
    have hlines := ih (fun m' hm' => h m' (by simp [hm'])) hids.2 hrest (number + 1)
    simp only [List.map_cons, parseLines, if_neg (words_line_ne_nil m), bind_ok, pure_ok]
    exact ⟨_, hline, _, hlines, rfl⟩

theorem parseLines_ok {number : Nat} {lines : List Text} (h : parseLines D number seen lines = .ok entries) :
    (∀ e ∈ entries, ∃ n s line, parseLine D n s line = .ok e) ∧
      ∀ line ∈ lines, Text.words Text.isspace line ≠ [] → ∃ n s e, parseLine D n s line = .ok e := by
  induction lines generalizing number seen entries with
  | nil =>
    cases h
    simp
  | cons line lines ih =>
    simp only [parseLines] at h
    split at h
    · next hblank =>
      obtain ⟨hentries, hlines⟩ := ih h
      refine ⟨hentries, ?_⟩
      rw [List.forall_mem_cons]
      exact ⟨fun hne => absurd hblank hne, hlines⟩
    · simp only [bind_ok, pure_ok] at h
      obtain ⟨e, he, rest, hrest, rfl⟩ := h
      obtain ⟨hentries, hlines⟩ := ih hrest
      rw [List.forall_mem_cons, List.forall_mem_cons]
      exact ⟨⟨⟨_, _, _, he⟩, hentries⟩, fun _ => ⟨_, _, _, he⟩, hlines⟩

theorem parseMountinfo_render (hids : (table.map Mount.mountId).Nodup) :
    parseMountinfo D (render table) = .ok (table.map Mount.facts) ↔ table ≠ [] ∧ ∀ m ∈ table, m.Readable := by
  constructor
  · intro h
    simp only [parseMountinfo, bind_ok, require_ok, pure_ok] at h
    obtain ⟨entries, hentries, _, hne, rfl⟩ := h
    obtain ⟨hread, hlines⟩ := parseLines_ok D hentries
    have hfields : ∀ m ∈ table,
        (m.mountId < 10 ^ maxDigits ∧ m.parentId < 10 ^ maxDigits) ∧ Clean m ∧ m.source ≠ [] := by
      intro m hm
      obtain ⟨_, _, _, hline⟩ := hread m.facts (List.mem_map_of_mem hm)
      exact clean_of_parseLine D hline
    refine ⟨by simpa using hne, ?_⟩
    intro m hm
    obtain ⟨hids, hclean, hsource⟩ := hfields m hm
    -- The lines are those of the entries, and none has a field like the separator.
    rw [textLines_render fun m' hm' => (hfields m' hm').2.1] at hlines
    obtain ⟨_, _, _, hline⟩ := hlines m.line (List.mem_map_of_mem hm) (words_line_ne_nil m)
    refine ⟨hids, hclean, ⟨hsource, ?_⟩, ?_⟩
    · intro hdash
      exact parseLine_unreadable D hclean (.inl hdash) _ _ _ hline
    · intro hdash
      exact parseLine_unreadable D hclean (.inr hdash) _ _ _ hline
  · rintro ⟨hne, h⟩
    simp only [parseMountinfo, bind_ok, require_ok, pure_ok]
    refine ⟨_, ?_, (), ?_, rfl⟩
    · rw [textLines_render fun m hm => (h m hm).texts]
      exact parseLines_lines D h hids (by simp) 1
    · simpa using hne

/-! ## The mount of a path -/

theorem le_foldl_max (ns : List Nat) (start : Nat) : start ≤ ns.foldl max start ∧ ∀ n ∈ ns, n ≤ ns.foldl max start := by
  induction ns generalizing start with
  | nil => simp
  | cons n ns ih =>
    obtain ⟨hstart, hns⟩ := ih (max start n)
    rw [List.foldl_cons, List.forall_mem_cons]
    exact ⟨le_trans (le_max_left _ _) hstart, le_trans (le_max_right _ _) hstart, hns⟩

theorem foldl_max_mem (ns : List Nat) (start : Nat) : ns.foldl max start = start ∨ ns.foldl max start ∈ ns := by
  induction ns generalizing start with
  | nil => simp
  | cons n ns ih =>
    rw [List.foldl_cons, List.mem_cons]
    rcases ih (max start n) with hmax | hmem
    · rcases le_total start n with hle | hle
      · rw [max_eq_right hle] at hmax ⊢
        exact .inr (.inl hmax)
      · rw [max_eq_left hle] at hmax ⊢
        exact .inl hmax
    · exact .inr (.inr hmem)

/-- The entry of a path is the one above it whose mount point is longer than any other's. -/
def Longest (path : PosixPath) (entries : List MountFacts) (e : MountFacts) : Prop :=
  e ∈ entries ∧ Above e.mountPoint path ∧
    ∀ e' ∈ entries, Above e'.mountPoint path → e' ≠ e → e'.mountPoint.parts.length < e.mountPoint.parts.length

theorem mountForPath_eq_some {path : PosixPath} (hnodup : entries.Nodup) {e : MountFacts} :
    mountForPath path entries = some e ↔ Longest path entries e := by
  simp only [mountForPath]
  generalize hc : entries.filter (fun entry => Above entry.mountPoint path) = candidates
  have hmem : ∀ e, e ∈ candidates ↔ e ∈ entries ∧ Above e.mountPoint path := by
    intro e
    rw [← hc, List.mem_filter, decide_eq_true_eq]
  have hcn : candidates.Nodup := hc ▸ hnodup.filter _
  generalize hl : (candidates.map fun entry => entry.mountPoint.parts.length).foldl max 0 = longest
  have hle : ∀ e ∈ candidates, e.mountPoint.parts.length ≤ longest := fun e he =>
    hl ▸ (le_foldl_max _ 0).2 _ (List.mem_map_of_mem he)
  have hreached : candidates ≠ [] → ∃ e ∈ candidates, e.mountPoint.parts.length = longest := by
    intro hne
    rcases foldl_max_mem (candidates.map fun entry => entry.mountPoint.parts.length) 0 with hzero | hlong
    · obtain ⟨e, he⟩ := List.exists_mem_of_ne_nil _ hne
      rw [hl] at hzero
      exact ⟨e, he, le_antisymm (hle e he) (by omega)⟩
    · rw [hl] at hlong
      exact List.mem_map.mp hlong
  generalize hm : candidates.filter (fun entry => entry.mountPoint.parts.length = longest) = longestOnes
  have hmatch : ∀ e, e ∈ longestOnes ↔ e ∈ candidates ∧ e.mountPoint.parts.length = longest := by
    intro e
    rw [← hm, List.mem_filter, decide_eq_true_eq]
  have hmn : longestOnes.Nodup := hm ▸ hcn.filter _
  constructor
  · intro h
    split at h
    · next entry =>
      cases h
      obtain ⟨hcand, hlong⟩ := (hmatch e).mp (by simp)
      obtain ⟨hentries, habove⟩ := (hmem e).mp hcand
      refine ⟨hentries, habove, ?_⟩
      intro e' he' habove' hne
      have hcand' := (hmem e').mpr ⟨he', habove'⟩
      rw [hlong]
      refine lt_of_le_of_ne (hle e' hcand') ?_
      intro heq
      exact hne (by simpa using (hmatch e').mpr ⟨hcand', heq⟩)
    · cases h
  · rintro ⟨hentries, habove, hshorter⟩
    have hcand := (hmem e).mpr ⟨hentries, habove⟩
    have honly : ∀ e' ∈ longestOnes, e' = e := by
      intro e' he'
      obtain ⟨hcand', hlong⟩ := (hmatch e').mp he'
      obtain ⟨hentries', habove'⟩ := (hmem e').mp hcand'
      by_contra hne
      have := hshorter e' hentries' habove' hne
      have := hle e hcand
      omega
    have hin : e ∈ longestOnes := by
      obtain ⟨e', he', hlong⟩ := hreached (List.ne_nil_of_mem hcand)
      have hmem' := (hmatch e').mpr ⟨he', hlong⟩
      rwa [← honly e' hmem']
    have hsingle : longestOnes = [e] := by
      cases longestOnes with
      | nil => simp at hin
      | cons first rest =>
        obtain rfl := honly first (by simp)
        cases rest with
        | nil => rfl
        | cons second rest =>
          have heq := honly second (by simp)
          rw [heq, List.nodup_cons] at hmn
          exact absurd (by simp) hmn.1
    rw [hsingle]

/-- The gate reads the entries that the kernel wrote, and selects the longest mount point above a
path. -/
def ReadAsWritten (table : List Mount) : Prop :=
  ∃ entries, parseMountinfo D (render table) = .ok entries ∧ entries = table.map Mount.facts ∧
    ∀ path e, mountForPath path entries = some e ↔ Longest path (table.map Mount.facts) e

theorem mountinfo_read_iff (table : List Mount) (hids : (table.map Mount.mountId).Nodup) :
    ReadAsWritten D table ↔ table ≠ [] ∧ ∀ m ∈ table, m.Readable := by
  rw [← parseMountinfo_render D hids]
  constructor
  · rintro ⟨entries, hread, rfl, -⟩
    exact hread
  · intro hread
    refine ⟨_, hread, rfl, ?_⟩
    intro path e
    refine mountForPath_eq_some ?_
    refine List.Nodup.of_map MountFacts.mountId ?_
    rw [List.map_map]
    have hmap : table.map (MountFacts.mountId ∘ Mount.facts) = (table.map Mount.mountId).map Int.ofNat := by
      rw [List.map_map]
      rfl
    rw [hmap]
    exact hids.map fun a b hab => Int.ofNat.inj hab

/-! ## A mount point with a no-break space -/

namespace Sample

def digits : Digits where
  decimal c := if c.isDigit then some (c.toNat - 48) else none
  ascii := by decide
  small c n h := by
    split at h
    · next hc =>
      cases h
      exact (digitChar_of_isDigit hc).1
    · cases h

/-- An ext4 partition mounted at `/data` and the name given. -/
def mount (name : Text) (h : '/' ∉ name) : Mount where
  mountId := 36
  parentId := 35
  major := 8
  minor := 1
  root := ['/']
  mountPoint := ⟨.single, [['d', 'a', 't', 'a'] ++ name], by simp [h]⟩
  mountOptions := [['r', 'w']]
  tags := []
  filesystemType := ['e', 'x', 't', '4']
  source := ['/', 'd', 'e', 'v', '/', 's', 'd', 'a']
  superOptions := [['r', 'w']]
  positive := by decide
  absolute := ⟨List.prefix_refl _, by simp⟩
  options := by simp [separates]
  type := by simp [separates]
  tagged := by simp

end Sample

/-- A table with a no-break space in a mount point is not read at all. -/
theorem mountPoint_not_read :
    ¬ ∀ (D : Digits) (table : List Mount), (table.map Mount.mountId).Nodup → ReadAsWritten D table := by
  intro hclaim
  obtain ⟨_, hread, rfl, -⟩ := hclaim Sample.digits [Sample.mount ['\u00a0', 'x'] (by decide)] (by decide)
  have hreadable := ((parseMountinfo_render Sample.digits (by decide)).mp hread).2 _ (List.mem_singleton_self _)
  have hspace := hreadable.texts (Sample.mount ['\u00a0', 'x'] (by decide)).mountPoint.text (by simp [Mount.texts])
    '\u00a0' (by decide) (by decide)
  exact absurd hspace (by decide)

theorem mountinfo_read_iff_sample :
    ReadAsWritten Sample.digits [Sample.mount [] (by decide)] ↔
      [Sample.mount [] (by decide)] ≠ [] ∧ ∀ m ∈ [Sample.mount [] (by decide)], m.Readable :=
  mountinfo_read_iff Sample.digits _ (by decide)

end AvoCorrelate.MountInfo
