import AvoCorrelate.Lib.Text
import AvoCorrelate.Lib.Transactions
import Mathlib.Data.Char
import Mathlib.Data.List.Lex
import Mathlib.Data.List.Sort
/-!
# Source-tree digests

The digest of a tree is that of the records of its files and links, one after the other, in
the order of their names. A record says where it ends, so that the digest determines the map
from normalized names to contents (`digest_determines_tree`). The names are sorted before they
are normalized: two hosts that spell the names of one tree differently get one digest exactly
if the spellings sort alike (`digest_portable_iff`).
-/
open AvoLib

namespace AvoCorrelate.SourceTree

abbrev Text := List Char

abbrev Bytes := List UInt8

/-- The tables of `unicodedata.normalize("NFC", _)` and `str.casefold`. No character composes to
U+0000. -/
structure Unicode where
  nfc : Text → Text
  casefold : Text → Text
  nul : ∀ text, '\x00' ∉ text → '\x00' ∉ nfc text

/-- What stands at a path. A link comes with what `resolve(strict=True)` finds: nothing, or a
target and whether it lies in the tree. -/
inductive Entry
  | file (content : Bytes)
  | directory
  | symlink (link : Text) (target : Option Bool)
  | other

/-- A tree as `rglob("*")` lists it, by POSIX paths relative to the root. -/
structure Tree where
  entries : List (Text × Entry)
  distinct : (entries.map Prod.fst).Nodup
  names : ∀ e ∈ entries, '\x00' ∉ e.1

inductive Error
  | canonicalization (message : String)
  | notFound
  deriving DecidableEq

inductive Kind
  | regular
  | symlink
  deriving DecidableEq

def Kind.word : Kind → Text
  | .regular => ['r', 'e', 'g', 'u', 'l', 'a', 'r']
  | .symlink => ['s', 'y', 'm', 'l', 'i', 'n', 'k']

structure Record where
  path : Text
  kind : Kind
  size : Nat
  digest : Bytes
  deriving DecidableEq

def sha256 : Text := ['s', 'h', 'a', '2', '5', '6', ':']

/-- The bytes appended for a file or a link. -/
def Record.line (r : Record) : Bytes :=
  Text.utf8 r.path ++ Text.utf8 ('\x00' :: r.kind.word ++ '\x00' :: r.kind.word ++ ['\x00']) ++
    Text.utf8 (Nat.toDigits 10 r.size) ++ Text.utf8 ('\x00' :: sha256) ++ Text.utf8 (Text.hexdigest r.digest) ++
    Text.utf8 ['\n']

variable (U : Unicode) (sha : Bytes → Bytes)

local instance lawfulText : LawfulBEq Text := inferInstance

/-- The records of the entries, those before them with the folded names `seen`. -/
def recordsFrom (symlinks : String) : List Text → List (Text × Entry) → Except Error (List Record)
  | _, [] => .ok []
  | seen, (relative, entry) :: rest => do
    let path := U.nfc relative
    let folded := U.casefold path
    require (folded ∉ seen) (.canonicalization ("case or Unicode path collision: " ++ String.ofList path))
    match entry with
    | .symlink link target =>
      require (symlinks = "internal_only") (.canonicalization ("symlink is not allowed: " ++ String.ofList path))
      let inside ← orRaise target .notFound
      require (inside = true) (.canonicalization ("symlink escapes tree: " ++ String.ofList path))
      let value := Text.utf8 link
      return ⟨path, .symlink, value.length, sha value⟩ :: (← recordsFrom symlinks (folded :: seen) rest)
    | .directory => recordsFrom symlinks (folded :: seen) rest
    | .other => .error (.canonicalization ("unsupported file type: " ++ String.ofList path))
    | .file content =>
      return ⟨path, .regular, content.length, sha content⟩ :: (← recordsFrom symlinks (folded :: seen) rest)

def sorted (t : Tree) : List (Text × Entry) := t.entries.insertionSort fun a b => a.1 ≤ b.1

def sourceTreeDigest (symlinks : String) (t : Tree) : Except Error Text := do
  let records ← recordsFrom U sha symlinks [] (sorted t)
  return sha256 ++ Text.hexdigest (sha (records.flatMap Record.line))

/-! ## What the records say -/

/-- What is hashed of an entry: the content of a file, the text of a link. -/
def Entry.leaf : Entry → Option (Kind × Bytes)
  | .file content => some (.regular, content)
  | .symlink link _ => some (.symlink, Text.utf8 link)
  | .directory => none
  | .other => none

def record (e : Text × Entry) : Option Record :=
  e.2.leaf.map fun (kind, content) => ⟨U.nfc e.1, kind, content.length, sha content⟩

def stream (t : Tree) : Bytes := ((sorted t).filterMap (record U sha)).flatMap Record.line

variable {symlinks : String} {rs : List Record} {t t₁ t₂ : Tree} {d path : Text}

theorem recordsFrom_ok {seen : List Text} {entries : List (Text × Entry)}
    (h : recordsFrom U sha symlinks seen entries = .ok rs) :
    rs = entries.filterMap (record U sha) ∧ (entries.map fun e => U.casefold (U.nfc e.1)).Nodup ∧
      ∀ e ∈ entries, U.casefold (U.nfc e.1) ∉ seen := by
  induction entries generalizing seen rs with
  | nil =>
    cases h
    simp
  | cons e rest ih =>
    obtain ⟨relative, entry⟩ := e
    simp only [recordsFrom, bind_ok, require_ok] at h
    obtain ⟨_, hnew, h⟩ := h
    have hlater : ∀ {rs}, recordsFrom U sha symlinks (U.casefold (U.nfc relative) :: seen) rest = .ok rs →
        rs = rest.filterMap (record U sha) ∧
        (((relative, entry) :: rest).map fun e => U.casefold (U.nfc e.1)).Nodup ∧
        ∀ e ∈ (relative, entry) :: rest, U.casefold (U.nfc e.1) ∉ seen := by
      intro rs hrest
      obtain ⟨hrs, hnodup, hseen⟩ := ih hrest
      refine ⟨hrs, ?_, ?_⟩
      · rw [List.map_cons, List.nodup_cons]
        refine ⟨?_, hnodup⟩
        intro hmem
        obtain ⟨e, he, heq⟩ := List.mem_map.mp hmem
        exact hseen e he (by simp [heq])
      · rw [List.forall_mem_cons]
        exact ⟨hnew, fun e he hmem => hseen e he (List.mem_cons_of_mem _ hmem)⟩
    cases entry with
    | file content =>
      simp only [bind_ok, pure_ok] at h
      obtain ⟨_, hrest, rfl⟩ := h
      obtain ⟨rfl, hnodup, hseen⟩ := hlater hrest
      exact ⟨by simp [record, Entry.leaf], hnodup, hseen⟩
    | directory =>
      obtain ⟨rfl, hnodup, hseen⟩ := hlater h
      refine ⟨?_, hnodup, hseen⟩
      rw [List.filterMap_cons_none]
      rfl
    | symlink link target =>
      simp only [bind_ok, require_ok, orRaise_ok, pure_ok] at h
      obtain ⟨_, _, _, _, _, _, _, hrest, rfl⟩ := h
      obtain ⟨rfl, hnodup, hseen⟩ := hlater hrest
      exact ⟨by simp [record, Entry.leaf], hnodup, hseen⟩
    | other => cases h

theorem sourceTreeDigest_ok (h : sourceTreeDigest U sha symlinks t = .ok d) :
    d = sha256 ++ Text.hexdigest (sha (stream U sha t)) ∧ (t.entries.map fun e => U.nfc e.1).Nodup := by
  simp only [sourceTreeDigest, bind_ok, pure_ok] at h
  obtain ⟨rs, hrs, rfl⟩ := h
  obtain ⟨rfl, hnodup, -⟩ := recordsFrom_ok U sha hrs
  refine ⟨rfl, ?_⟩
  have hperm : (sorted t).Perm t.entries := List.perm_insertionSort _ _
  have hfolded := (hperm.map fun e => U.casefold (U.nfc e.1)).nodup_iff.mp hnodup
  refine List.Nodup.of_map U.casefold ?_
  simpa [List.map_map, Function.comp_def] using hfolded

/-! ## Reading the records back -/

def Record.text (r : Record) : Text :=
  r.path ++ '\x00' :: (r.kind.word ++ '\x00' :: (r.kind.word ++ '\x00' ::
    (Nat.toDigits 10 r.size ++ '\x00' :: (sha256 ++ (Text.hexdigest r.digest ++ ['\n'])))))

theorem Record.line_eq (r : Record) : r.line = Text.utf8 r.text := by
  simp only [Record.line, Record.text, ← Text.utf8_append]
  simp

theorem nul_notMem_word (k : Kind) : '\x00' ∉ k.word := by
  cases k with
  | regular => decide
  | symlink => decide

theorem word_injective {k k' : Kind} (h : k.word = k'.word) : k = k' := by
  revert h
  cases k with
  | regular => cases k' with
    | regular => exact fun _ => rfl
    | symlink => decide
  | symlink => cases k' with
    | regular => decide
    | symlink => exact fun _ => rfl

theorem nul_notMem_toDigits (n : Nat) : '\x00' ∉ Nat.toDigits 10 n := by
  intro h
  exact absurd (Nat.isDigit_of_mem_toDigits (by decide) (by decide) h) (by decide)

theorem Record.text_delimited {r r' : Record} {x y : Text} (hr : '\x00' ∉ r.path) (hr' : '\x00' ∉ r'.path)
    (h : r.text ++ x = r'.text ++ y) : r = r' := by
  obtain ⟨path, kind, size, digest⟩ := r
  obtain ⟨path', kind', size', digest'⟩ := r'
  simp only [Record.text, List.append_assoc, List.cons_append, List.nil_append] at h hr hr'
  obtain ⟨hpath, hafterPath⟩ := Text.append_cons_inj hr hr' h
  obtain ⟨hword, hafterWord⟩ := Text.append_cons_inj (nul_notMem_word _) (nul_notMem_word _) hafterPath
  obtain ⟨-, hafterWords⟩ := Text.append_cons_inj (nul_notMem_word _) (nul_notMem_word _) hafterWord
  obtain ⟨hsize, hafterSize⟩ :=
    Text.append_cons_inj (nul_notMem_toDigits _) (nul_notMem_toDigits _) hafterWords
  obtain ⟨hdigest, -⟩ := Text.append_cons_inj (Text.newline_notMem_hexdigest _) (Text.newline_notMem_hexdigest _)
    (List.append_cancel_left hafterSize)
  rw [hpath, word_injective hword, Text.toDigits_injective hsize, Text.hexdigest_injective hdigest]

theorem lines_injective {rs' : List Record} (hrs : ∀ r ∈ rs, '\x00' ∉ r.path) (hrs' : ∀ r ∈ rs', '\x00' ∉ r.path)
    (h : rs.flatMap Record.line = rs'.flatMap Record.line) : rs = rs' := by
  have htexts : ∀ rs : List Record, rs.flatMap Record.line = Text.utf8 (rs.flatMap Record.text) := by
    intro rs
    induction rs with
    | nil => rfl
    | cons r rs ih => rw [List.flatMap_cons, List.flatMap_cons, Text.utf8_append, ih, Record.line_eq]
  rw [htexts, htexts] at h
  refine Text.flatMap_injective (fun a b x y ha hb => Record.text_delimited ha hb) ?_ hrs hrs' (Text.utf8_injective h)
  simp [Record.text]

theorem nul_notMem_records (t : Tree) : ∀ r ∈ (sorted t).filterMap (record U sha), '\x00' ∉ r.path := by
  intro r hr
  obtain ⟨e, he, hrec⟩ := List.mem_filterMap.mp hr
  have hname := t.names e ((List.perm_insertionSort _ _).mem_iff.mp he)
  obtain ⟨_, -, rfl⟩ := Option.map_eq_some_iff.mp hrec
  exact U.nul _ hname

/-! ## A digest determines its tree -/

def content (t : Tree) (path : Text) : Option (Kind × Bytes) :=
  t.entries.findSome? fun e => if U.nfc e.1 = path then e.2.leaf else none

/-- The map from normalized names to what stands there: regular or link, its size and its digest. -/
def describes (t : Tree) (path : Text) : Option (Kind × Nat × Bytes) :=
  (content U t path).map fun (kind, content) => (kind, content.length, sha content)

theorem content_eq_some (hnodup : (t.entries.map fun e => U.nfc e.1).Nodup) {leaf : Kind × Bytes} :
    content U t path = some leaf ↔ ∃ e ∈ t.entries, U.nfc e.1 = path ∧ e.2.leaf = some leaf := by
  constructor
  · intro h
    obtain ⟨e, he, hif⟩ := List.exists_of_findSome?_eq_some h
    split at hif
    · next hpath => exact ⟨e, he, hpath, hif⟩
    · cases hif
  · rintro ⟨e, he, rfl, hleaf⟩
    cases hfound : content U t (U.nfc e.1) with
    | none =>
      have := List.findSome?_eq_none_iff.mp hfound e he
      simp [hleaf] at this
    | some found =>
      obtain ⟨e', he', hif⟩ := List.exists_of_findSome?_eq_some hfound
      split at hif
      · next hpath =>
        obtain rfl := List.inj_on_of_nodup_map hnodup he' he hpath
        rw [hleaf] at hif
        exact hif.symm
      · cases hif

theorem describes_eq_some (hnodup : (t.entries.map fun e => U.nfc e.1).Nodup) {kind : Kind} {size : Nat}
    {digest : Bytes} : describes U sha t path = some (kind, size, digest) ↔
      ⟨path, kind, size, digest⟩ ∈ (sorted t).filterMap (record U sha) := by
  have hmem : ∀ e, e ∈ sorted t ↔ e ∈ t.entries := fun e => (List.perm_insertionSort _ _).mem_iff
  simp only [describes, Option.map_eq_some_iff, content_eq_some U hnodup, List.mem_filterMap, record, hmem,
    Prod.mk.injEq, Record.mk.injEq]
  constructor
  · rintro ⟨leaf, ⟨e, he, hpath, hleaf⟩, hsummary⟩
    exact ⟨e, he, leaf, hleaf, hpath, hsummary⟩
  · rintro ⟨e, he, leaf, hleaf, hpath, hsummary⟩
    exact ⟨leaf, ⟨e, he, hpath, hleaf⟩, hsummary⟩

theorem records_of_digest {s₁ s₂ : String}
    (hsha : sha (stream U sha t₁) = sha (stream U sha t₂) → stream U sha t₁ = stream U sha t₂)
    (h₁ : sourceTreeDigest U sha s₁ t₁ = .ok d) (h₂ : sourceTreeDigest U sha s₂ t₂ = .ok d) :
    (sorted t₁).filterMap (record U sha) = (sorted t₂).filterMap (record U sha) := by
  obtain ⟨hd₁, -⟩ := sourceTreeDigest_ok U sha h₁
  obtain ⟨hd₂, -⟩ := sourceTreeDigest_ok U sha h₂
  have hhex := List.append_cancel_left (hd₁.symm.trans hd₂)
  have hstream := hsha (Text.hexdigest_injective hhex)
  exact lines_injective (nul_notMem_records U sha t₁) (nul_notMem_records U sha t₂) hstream

/-- The two trees hold the same files and links, with the same contents, under names that have
the same normal forms. -/
def SameFiles (t₁ t₂ : Tree) : Prop := content U t₁ = content U t₂

/-- The files and links of a tree, in the order in which they are hashed. -/
def leaves (t : Tree) : List (Text × Entry) := (sorted t).filter fun e => e.2.leaf.isSome

/-- Every two files sort alike in both trees, each under the name it has there. -/
def SameOrder (t₁ t₂ : Tree) : Prop :=
  ∀ a ∈ leaves t₁, ∀ b ∈ leaves t₁, ∀ a' ∈ leaves t₂, ∀ b' ∈ leaves t₂,
    U.nfc a.1 = U.nfc a'.1 → U.nfc b.1 = U.nfc b'.1 → (a.1 < b.1 ↔ a'.1 < b'.1)

theorem mem_leaves {e : Text × Entry} : e ∈ leaves t ↔ e ∈ t.entries ∧ ∃ leaf, e.2.leaf = some leaf := by
  rw [leaves, List.mem_filter, sorted, (List.perm_insertionSort _ _).mem_iff, Option.isSome_iff_exists]

theorem leaves_sorted (t : Tree) : (leaves t).Pairwise fun a b => a.1 < b.1 := by
  have hle : (sorted t).Pairwise fun a b => a.1 ≤ b.1 := by
    have : Std.Total fun a b : Text × Entry => a.1 ≤ b.1 := ⟨fun a b => le_total a.1 b.1⟩
    have : IsTrans (Text × Entry) fun a b => a.1 ≤ b.1 := ⟨fun a b c => le_trans⟩
    exact List.pairwise_insertionSort _ _
  have hne : (sorted t).Pairwise fun a b => a.1 ≠ b.1 := by
    have hperm : (sorted t).Perm t.entries := List.perm_insertionSort _ _
    exact List.pairwise_map.mp ((hperm.map Prod.fst).nodup_iff.mpr t.distinct)
  exact (hle.and hne).filter _ |>.imp fun h => lt_of_le_of_ne h.1 h.2

theorem lt_iff_of_sorted {es : List (Text × Entry)} (h : es.Pairwise fun a b => a.1 < b.1) {i j : Nat}
    (hi : i < es.length) (hj : j < es.length) : es[i].1 < es[j].1 ↔ i < j := by
  have hlt := List.pairwise_iff_getElem.mp h
  constructor
  · intro hname
    by_contra hle
    rcases Nat.lt_or_eq_of_le (Nat.not_lt.mp hle) with hji | rfl
    · exact lt_asymm hname (hlt j i hj hi hji)
    · exact lt_irrefl _ hname
  · exact hlt i j hi hj

/-- The record of a file or link. -/
def leafRecord (e : Text × Entry) : Record :=
  ((record U sha) e).getD ⟨U.nfc e.1, .regular, 0, []⟩

theorem leafRecord_path (e : Text × Entry) : (leafRecord U sha e).path = U.nfc e.1 := by
  rw [leafRecord, record]
  cases e.2.leaf with
  | none => rfl
  | some leaf => rfl

theorem records_eq (t : Tree) : (sorted t).filterMap (record U sha) = (leaves t).map (leafRecord U sha) := by
  have hall : ∀ es : List (Text × Entry),
      es.filterMap (record U sha) = (es.filter fun e => e.2.leaf.isSome).map (leafRecord U sha) := by
    intro es
    induction es with
    | nil => rfl
    | cons e es ih =>
      cases hleaf : e.2.leaf with
      | none => simp [record, hleaf, ih]
      | some leaf => simp [record, leafRecord, hleaf, ih]
  exact hall (sorted t)

theorem leaves_inj (hnodup : (t.entries.map fun e => U.nfc e.1).Nodup) {a b : Text × Entry} (ha : a ∈ leaves t)
    (hb : b ∈ leaves t) (h : U.nfc a.1 = U.nfc b.1) : a = b :=
  List.inj_on_of_nodup_map hnodup (mem_leaves.mp ha).1 (mem_leaves.mp hb).1 h

theorem records_perm (hn₁ : (t₁.entries.map fun e => U.nfc e.1).Nodup) (hn₂ : (t₂.entries.map fun e => U.nfc e.1).Nodup)
    (hsame : SameFiles U t₁ t₂) : ((leaves t₁).map (leafRecord U sha)).Perm ((leaves t₂).map (leafRecord U sha)) := by
  have hnodup : ∀ {t : Tree}, (t.entries.map fun e => U.nfc e.1).Nodup → ((leaves t).map (leafRecord U sha)).Nodup := by
    intro t hn
    have hleaves : (leaves t).Nodup := by
      refine (leaves_sorted t).imp ?_
      rintro a _ hlt rfl
      exact lt_irrefl _ hlt
    refine List.Nodup.map_on ?_ hleaves
    intro a ha b hb hab
    have hpath := congrArg Record.path hab
    rw [leafRecord_path, leafRecord_path] at hpath
    exact leaves_inj U hn ha hb hpath
  refine (List.perm_ext_iff_of_nodup (hnodup hn₁) (hnodup hn₂)).mpr ?_
  rintro ⟨path, kind, size, digest⟩
  have hmap : describes U sha t₁ = describes U sha t₂ := by
    funext path
    rw [describes, describes, hsame]
  rw [← records_eq, ← records_eq, ← describes_eq_some U sha hn₁, ← describes_eq_some U sha hn₂, hmap]

theorem records_eq_iff_sameOrder (hn₁ : (t₁.entries.map fun e => U.nfc e.1).Nodup)
    (hn₂ : (t₂.entries.map fun e => U.nfc e.1).Nodup) (hsame : SameFiles U t₁ t₂) :
    (leaves t₁).map (leafRecord U sha) = (leaves t₂).map (leafRecord U sha) ↔ SameOrder U t₁ t₂ := by
  constructor
  · intro h a ha b hb a' ha' b' hb' haa hbb
    have hlen : (leaves t₁).length = (leaves t₂).length := by simpa using congrArg List.length h
    -- The entry of the second tree at the place of an entry of the first is the one of its name.
    have hat : ∀ i (hi : i < (leaves t₁).length) (e' : Text × Entry), e' ∈ leaves t₂ →
        U.nfc (leaves t₁)[i].1 = U.nfc e'.1 → (leaves t₂)[i] = e' := by
      intro i hi e' he' hpath
      refine leaves_inj U hn₂ (List.getElem_mem _) he' (Eq.trans ?_ hpath)
      have hi₂ : i < (leaves t₂).length := hlen ▸ hi
      have hrec : leafRecord U sha (leaves t₁)[i] = leafRecord U sha (leaves t₂)[i] := by
        have := List.getElem_of_eq h (i := i) (by simpa using hi)
        simpa using this
      rw [← leafRecord_path U sha, ← leafRecord_path U sha, hrec]
    obtain ⟨i, hi, rfl⟩ := List.getElem_of_mem ha
    obtain ⟨j, hj, rfl⟩ := List.getElem_of_mem hb
    obtain rfl := hat i hi a' ha' haa
    obtain rfl := hat j hj b' hb' hbb
    rw [lt_iff_of_sorted (leaves_sorted t₁), lt_iff_of_sorted (leaves_sorted t₂)]
  · intro horder
    -- "Before" as the first tree has it.
    let before (r r' : Record) : Prop :=
      ∀ a ∈ leaves t₁, ∀ b ∈ leaves t₁, U.nfc a.1 = r.path → U.nfc b.1 = r'.path → a.1 < b.1
    have hperm := records_perm U sha hn₁ hn₂ hsame
    have h₁ : ((leaves t₁).map (leafRecord U sha)).Pairwise before := by
      refine List.pairwise_map.mpr ((leaves_sorted t₁).imp_of_mem ?_)
      intro a b ha hb hlt c hc d hd hca hdb
      rw [leafRecord_path] at hca hdb
      obtain rfl := leaves_inj U hn₁ hc ha hca
      obtain rfl := leaves_inj U hn₁ hd hb hdb
      exact hlt
    have h₂ : ((leaves t₂).map (leafRecord U sha)).Pairwise before := by
      refine List.pairwise_map.mpr ((leaves_sorted t₂).imp_of_mem ?_)
      intro a' b' ha' hb' hlt a ha b hb haa hbb
      rw [leafRecord_path] at haa hbb
      exact (horder a ha b hb a' ha' b' hb' haa hbb).mpr hlt
    refine hperm.eq_of_pairwise ?_ h₁ h₂
    intro r r' hr hr' hlt hgt
    obtain ⟨a, ha, rfl⟩ := List.mem_map.mp hr
    obtain ⟨b, hb, rfl⟩ := List.mem_map.mp (hperm.mem_iff.mpr hr')
    have hab := hlt a ha b hb (leafRecord_path U sha a).symm (leafRecord_path U sha b).symm
    have hba := hgt b hb a ha (leafRecord_path U sha b).symm (leafRecord_path U sha a).symm
    exact absurd hab (lt_asymm hba)

/-- Two trees with the same files have one digest exactly if their names, as each host spells
them, sort alike. -/
theorem digest_portable_iff (s₁ s₂ : String) (t₁ t₂ : Tree) (d₁ d₂ : Text)
    (hsha : sha (stream U sha t₁) = sha (stream U sha t₂) → stream U sha t₁ = stream U sha t₂)
    (hsame : SameFiles U t₁ t₂) (h₁ : sourceTreeDigest U sha s₁ t₁ = .ok d₁)
    (h₂ : sourceTreeDigest U sha s₂ t₂ = .ok d₂) : d₁ = d₂ ↔ SameOrder U t₁ t₂ := by
  have hd₁ := sourceTreeDigest_ok U sha h₁
  have hd₂ := sourceTreeDigest_ok U sha h₂
  rw [← records_eq_iff_sameOrder U sha hd₁.2 hd₂.2 hsame, ← records_eq, ← records_eq]
  constructor
  · rintro rfl
    exact records_of_digest U sha hsha h₁ h₂
  · intro hrecords
    rw [hd₁.1, hd₂.1, stream, stream, hrecords]

/-! ## Two spellings of one tree

The file `é` beside the file `f`, both empty. Decomposed, `é` begins with `e` and sorts first. -/

namespace Sample

def unicode : Unicode where
  nfc name := if name = ['e', '\u0301'] then ['é'] else name
  casefold := id
  nul := by
    intro name h
    split
    · decide
    · exact h

/-- SHA-256 on the empty file and on the records of the two files in either order. -/
def hash (bytes : Bytes) : Bytes :=
  if bytes = [] then
    [
      227, 176, 196, 66, 152, 252, 28, 20, 154, 251, 244, 200, 153, 111, 185, 36, 39, 174, 65, 228, 100, 155,
      147, 76, 164, 149, 153, 27, 120, 82, 184, 85]
  else if bytes.head? = some 102 then
    [
      75, 12, 130, 90, 74, 78, 86, 130, 228, 163, 149, 108, 74, 23, 81, 62, 154, 72, 117, 202, 195, 180, 37,
      146, 130, 28, 89, 6, 53, 87, 214, 20]
  else
    [
      123, 220, 97, 87, 48, 231, 237, 244, 232, 208, 204, 131, 41, 94, 133, 87, 84, 158, 27, 214, 97, 250, 51,
      114, 13, 62, 159, 119, 169, 2, 175, 245]

def composed : Tree where
  entries := [(['é'], .file []), (['f'], .file [])]
  distinct := by decide
  names := by decide

def decomposed : Tree where
  entries := [(['f'], .file []), (['e', '\u0301'], .file [])]
  distinct := by decide
  names := by decide

/-- The one digest of the two listings of the composed tree. -/
def digest : Text := sha256 ++ Text.hexdigest (hash [102])

theorem digest_composed : sourceTreeDigest unicode hash "deny" composed = .ok digest := by decide

theorem digest_decomposed :
    sourceTreeDigest unicode hash "deny" decomposed = .ok (sha256 ++ Text.hexdigest (hash [195])) := by decide

theorem same_files : SameFiles unicode composed decomposed := by
  funext path
  simp only [content, composed, decomposed, unicode, List.findSome?_cons, List.findSome?_nil]
  by_cases he : ['é'] = path
  · subst he
    simp
  · by_cases hf : ['f'] = path
    · subst hf
      simp
    · simp [he, hf]

end Sample

/-- The composed and the decomposed tree have different digests. -/
theorem decomposed_tree_differs :
    ¬ ∀ (U : Unicode) (sha : Bytes → Bytes) s₁ s₂ t₁ t₂ d₁ d₂, SameFiles U t₁ t₂ →
      sourceTreeDigest U sha s₁ t₁ = .ok d₁ → sourceTreeDigest U sha s₂ t₂ = .ok d₂ → d₁ = d₂ := by
  intro hclaim
  have h := hclaim _ _ _ _ _ _ _ _ Sample.same_files Sample.digest_composed Sample.digest_decomposed
  exact absurd h (by decide)

theorem digest_portable_iff_sample :
    Sample.digest = sha256 ++ Text.hexdigest (Sample.hash [195]) ↔
      SameOrder Sample.unicode Sample.composed Sample.decomposed :=
  digest_portable_iff Sample.unicode Sample.hash "deny" "deny" _ _ _ _ (fun h => absurd h (by decide))
    Sample.same_files Sample.digest_composed Sample.digest_decomposed

end AvoCorrelate.SourceTree
