import AvoCorrelate.Lib.Json
import AvoCorrelate.MainLedger.Recording
/-!
# The bytes of an index

An index is the canonical text of the reference to its record. Its bytes are ASCII, so it
is a list of characters here. The text of a reference is read back as that reference, and
no shorter beginning of it is read at all.
-/
namespace AvoCorrelate.MainLedger

open AvoLib
open ExactCas (Sha256Digest ArtifactRef)

/-- How a model writes a time and reads it. -/
structure Stamps where
  text : Instant → List Char
  parse : List Char → Option Instant
  parse_text : ∀ t, parse (text t) = some t

/-! ## Digests -/

def hexDigits : Nat → Nat → List Char
  | 0, _ => []
  | w + 1, n => hexDigits w (n / 16) ++ [Nat.digitChar (n % 16)]

def ofHex (cs : List Char) : Nat := cs.foldl (fun n c => 16 * n + Json.hexValue c) 0

def isHex (c : Char) : Bool := c.isDigit || ('a' ≤ c && c ≤ 'f')

def digestText (d : Sha256Digest) : List Char := "sha256:".toList ++ hexDigits 64 d.toNat

def parseDigest (cs : List Char) : Option Sha256Digest :=
  if cs.take 7 = "sha256:".toList ∧ (cs.drop 7).length = 64 ∧ (cs.drop 7).all isHex = true then
    some (BitVec.ofNat 256 (ofHex (cs.drop 7)))
  else none

theorem hexDigits_length {w n : Nat} : (hexDigits w n).length = w := by
  induction w generalizing n with
  | zero => rfl
  | succ w ih => rw [hexDigits, List.length_append, ih, List.length_singleton]

theorem hexDigits_all {w n : Nat} : (hexDigits w n).all isHex = true := by
  have hdigit : ∀ k < 16, isHex (Nat.digitChar k) = true := by decide
  induction w generalizing n with
  | zero => rfl
  | succ w ih => simp [hexDigits, ih, hdigit _ (Nat.mod_lt n (by decide : 0 < 16))]

theorem ofHex_hexDigits {w n : Nat} : ofHex (hexDigits w n) = n % 16 ^ w := by
  have hvalue : ∀ k < 16, Json.hexValue (Nat.digitChar k) = k := by decide
  induction w generalizing n with
  | zero => simp [hexDigits, ofHex, Nat.mod_one]
  | succ w ih =>
    have hrest := ih (n := n / 16)
    rw [ofHex] at hrest
    rw [hexDigits, ofHex, List.foldl_append, hrest, List.foldl_cons, List.foldl_nil,
      hvalue _ (Nat.mod_lt n (by decide : 0 < 16)), Nat.pow_succ, Nat.mul_comm (16 ^ w), Nat.mod_mul]
    omega

theorem parseDigest_text {d : Sha256Digest} : parseDigest (digestText d) = some d := by
  have hdrop : (digestText d).drop 7 = hexDigits 64 d.toNat := List.drop_left' rfl
  have htake : (digestText d).take 7 = "sha256:".toList := List.take_left' rfl
  unfold parseDigest
  rw [hdrop, htake, if_pos ⟨rfl, hexDigits_length, hexDigits_all⟩, ofHex_hexDigits]
  have hlt : d.toNat < 16 ^ 64 := d.isLt
  rw [Nat.mod_eq_of_lt hlt, BitVec.ofNat_toNat, BitVec.setWidth_eq]

/-! ## References -/

section Reference
variable (S : Stamps)

/-- `ArtifactRef.model_dump`, in the order of its keys. -/
def dump (r : ArtifactRef) : List Json.Member :=
  [("created_at".toList, .string (S.text r.createdAt)),
    ("digest".toList, .string (digestText r.digest)),
    ("media_type".toList, .string r.mediaType.toList),
    ("role".toList, .string r.role.toList),
    ("schema_version".toList, .number 1),
    ("size_bytes".toList, .number r.sizeBytes)]

/-- `ArtifactRef.model_validate`. -/
def validate : List Json.Member → Option ArtifactRef
  | [(k₁, .string t), (k₂, .string g), (k₃, .string m), (k₄, .string r), (k₅, .number v), (k₆, .number n)] =>
    if [k₁, k₂, k₃, k₄, k₅, k₆] = ["created_at", "digest", "media_type", "role", "schema_version", "size_bytes"].map String.toList ∧
        m ≠ [] ∧ r ≠ [] ∧ v = 1 then do
      let createdAt ← S.parse t
      let digest ← parseDigest g
      some ⟨digest, n, String.ofList m, String.ofList r, createdAt⟩
    else none
  | _ => none

/-- The payload of `_create_once`. -/
def indexText (r : ArtifactRef) : List Char := Json.text (dump S r)

/-- `_read_reference` of what is in the file. -/
def readIndex (data : List Char) : Option ArtifactRef :=
  match Json.loads data with
  | none => none
  | some raw => if Json.text raw = data then validate S raw else none

variable {S} {r : ArtifactRef}

theorem validate_dump (hmedia : r.mediaType ≠ "") (hrole : r.role ≠ "") : validate S (dump S r) = some r := by
  have hne : ∀ s : String, s ≠ "" → s.toList ≠ [] := fun s hs h => hs (String.toList_eq_nil_iff.mp h)
  rw [dump, validate, if_pos ⟨rfl, hne _ hmedia, hne _ hrole, rfl⟩, S.parse_text, parseDigest_text]
  simp

theorem readIndex_text (hmedia : r.mediaType ≠ "") (hrole : r.role ≠ "") : readIndex S (indexText S r) = some r := by
  rw [readIndex, indexText, Json.loads_text]
  exact (if_pos rfl).trans (validate_dump hmedia hrole)

theorem readIndex_take {k : Nat} (h : k < (indexText S r).length) : readIndex S ((indexText S r).take k) = none := by
  unfold readIndex
  split
  · rfl
  · next raw _ =>
    refine if_neg fun htext => ?_
    have hprefix : Json.text raw <+: indexText S r := htext ▸ List.take_prefix k _
    have hwhole : Json.text raw = indexText S r := Json.text_prefix hprefix
    have hlen := congrArg List.length (htext.symm.trans hwhole)
    rw [List.length_take] at hlen
    omega

end Reference

end AvoCorrelate.MainLedger
