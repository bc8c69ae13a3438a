import AvoCorrelate.Lib.Text
import AvoCorrelate.Lib.Transactions
/-!
# Canonical JSON

Records are hashed and signed by their canonical JSON text. A string is not normalized on the
way: one that is not in NFC already is refused. The writer of RFC 8785 and the tables of NFC
are outside this repository and stand as parameters.
-/
open AvoLib

namespace AvoCorrelate.Canonical

/-- A value of JSON. A number is its literal, an object the list of its members in order. -/
inductive Json
  | null
  | bool (b : Bool)
  | number (literal : String)
  | string (s : String)
  | array (items : List Json)
  | object (members : List (String × Json))

inductive Error
  | canonicalization (message : String)
  deriving DecidableEq

/-- What the canonical form is made with: `unicodedata.normalize("NFC", _)` and `rfc8785.dumps`. -/
structure Canon where
  nfc : String → String
  dumps : Json → Except Error (List UInt8)

mutual
/-- `_normalize`. It gives back the value it was called with, or raises. -/
def normalize (C : Canon) : Json → Except Error Json
  | .string s => do
    require (s = C.nfc s) (.canonicalization "strings must already be NFC-normalized")
    return .string s
  | .object members => do return .object (← normalizeMembers C [] members)
  | .array items => do return .array (← normalizeItems C items)
  | value => .ok value

/-- The members after those of `result`, which have been normalized. -/
def normalizeMembers (C : Canon) (result : List (String × Json)) :
    List (String × Json) → Except Error (List (String × Json))
  | [] => .ok result
  | (key, item) :: rest => do
    require (key = C.nfc key) (.canonicalization "strings must already be NFC-normalized")
    require (key ∉ result.map Prod.fst) (.canonicalization "duplicate normalized JSON key")
    let item ← normalize C item
    normalizeMembers C (result ++ [(key, item)]) rest

def normalizeItems (C : Canon) : List Json → Except Error (List Json)
  | [] => .ok []
  | item :: rest => do return (← normalize C item) :: (← normalizeItems C rest)
end

def canonicalBytes (C : Canon) (value : Json) : Except Error (List UInt8) := do
  C.dumps (← normalize C value)

/-- `canonical_digest`, by SHA-256 as `sha`. -/
def canonicalDigest (C : Canon) (sha : List UInt8 → List UInt8) (value : Json) : Except Error String := do
  return "sha256:" ++ String.ofList (Text.hexdigest (sha (← canonicalBytes C value)))

/-! ## What has a canonical form -/

mutual
/-- The strings of a value, its keys among them. -/
def Json.strings : Json → List String
  | .string s => [s]
  | .object members => memberStrings members
  | .array items => itemStrings items
  | _ => []

def memberStrings : List (String × Json) → List String
  | [] => []
  | (key, item) :: rest => key :: (item.strings ++ memberStrings rest)

def itemStrings : List Json → List String
  | [] => []
  | item :: rest => item.strings ++ itemStrings rest
end

mutual
/-- No object has a key twice, as in a dictionary. -/
def Json.Keyed : Json → Prop
  | .object members => (members.map Prod.fst).Nodup ∧ MembersKeyed members
  | .array items => ItemsKeyed items
  | _ => True

def MembersKeyed : List (String × Json) → Prop
  | [] => True
  | (_, item) :: rest => item.Keyed ∧ MembersKeyed rest

def ItemsKeyed : List Json → Prop
  | [] => True
  | item :: rest => item.Keyed ∧ ItemsKeyed rest
end

mutual
theorem normalize_ok (C : Canon) : ∀ value result : Json,
    normalize C value = .ok result ↔ result = value ∧ (∀ s ∈ value.strings, s = C.nfc s) ∧ value.Keyed
  | .null, _ => by simp [normalize, Json.strings, Json.Keyed, eq_comm]
  | .bool _, _ => by simp [normalize, Json.strings, Json.Keyed, eq_comm]
  | .number _, _ => by simp [normalize, Json.strings, Json.Keyed, eq_comm]
  | .string s, result => by
    simp only [normalize, bind_ok, require_ok, pure_ok, Json.strings, List.mem_singleton, forall_eq, Json.Keyed,
      and_true]
    constructor
    · rintro ⟨_, hs, rfl⟩
      exact ⟨rfl, hs⟩
    · rintro ⟨rfl, hs⟩
      exact ⟨(), hs, rfl⟩
  | .array items, result => by
    have ih := normalizeItems_ok C items
    simp only [normalize, bind_ok, pure_ok, ih, Json.strings, Json.Keyed]
    constructor
    · rintro ⟨_, ⟨rfl, h⟩, rfl⟩
      exact ⟨rfl, h⟩
    · rintro ⟨rfl, h⟩
      exact ⟨items, ⟨rfl, h⟩, rfl⟩
  | .object members, result => by
    have ih := normalizeMembers_ok C members []
    simp only [normalize, bind_ok, pure_ok, ih, Json.strings, Json.Keyed, List.nil_append, List.map_nil]
    constructor
    · rintro ⟨_, ⟨rfl, hs, hnodup, -, hkeyed⟩, rfl⟩
      exact ⟨rfl, hs, hnodup, hkeyed⟩
    · rintro ⟨rfl, hs, hnodup, hkeyed⟩
      exact ⟨members, ⟨rfl, hs, hnodup, by simp, hkeyed⟩, rfl⟩
termination_by structural value => value

theorem normalizeMembers_ok (C : Canon) : ∀ members seen result : List (String × Json),
    normalizeMembers C seen members = .ok result ↔
      result = seen ++ members ∧ (∀ s ∈ memberStrings members, s = C.nfc s) ∧ (members.map Prod.fst).Nodup ∧
        (∀ key ∈ members.map Prod.fst, key ∉ seen.map Prod.fst) ∧ MembersKeyed members
  | [], _, _ => by simp [normalizeMembers, memberStrings, MembersKeyed, eq_comm]
  | (key, item) :: rest, seen, result => by
    have hitem := normalize_ok C item
    have ih := normalizeMembers_ok C rest
    simp only [normalizeMembers, bind_ok, require_ok, hitem, ih, memberStrings, MembersKeyed,
      List.forall_mem_cons, List.map_cons, List.nodup_cons, List.map_append, List.map_nil,
      List.mem_append, List.mem_singleton, not_or, List.append_assoc, List.cons_append, List.nil_append]
    constructor
    · rintro ⟨_, hkey, _, hnew, _, ⟨rfl, hs, hk⟩, rfl, hrest, hnodup, hdisjoint, hkeyed⟩
      exact ⟨rfl, ⟨hkey, fun s hmem => hmem.elim (hs s) (hrest s)⟩, ⟨fun hmem => (hdisjoint key hmem).2 rfl, hnodup⟩,
        ⟨hnew, fun k hmem => (hdisjoint k hmem).1⟩, hk, hkeyed⟩
    · rintro ⟨rfl, ⟨hkey, hs⟩, ⟨hfresh, hnodup⟩, ⟨hnew, hdisjoint⟩, hk, hkeyed⟩
      refine ⟨(), hkey, (), hnew, item, ⟨rfl, fun s hmem => hs s (.inl hmem), hk⟩, rfl, fun s hmem => hs s (.inr hmem),
        hnodup, ?_, hkeyed⟩
      intro k hmem
      refine ⟨hdisjoint k hmem, ?_⟩
      rintro rfl
      exact hfresh hmem
termination_by structural members => members

theorem normalizeItems_ok (C : Canon) : ∀ items result : List Json,
    normalizeItems C items = .ok result ↔
      result = items ∧ (∀ s ∈ itemStrings items, s = C.nfc s) ∧ ItemsKeyed items
  | [], _ => by simp [normalizeItems, itemStrings, ItemsKeyed, eq_comm]
  | item :: rest, result => by
    have hitem := normalize_ok C item
    have ih := normalizeItems_ok C rest
    simp only [normalizeItems, bind_ok, pure_ok, hitem, ih, itemStrings, ItemsKeyed, List.mem_append]
    constructor
    · rintro ⟨_, ⟨rfl, hs, hk⟩, _, ⟨rfl, hrest, hkeyed⟩, rfl⟩
      exact ⟨rfl, fun s hmem => hmem.elim (hs s) (hrest s), hk, hkeyed⟩
    · rintro ⟨rfl, hs, hk, hkeyed⟩
      exact ⟨_, ⟨rfl, fun s hmem => hs s (.inl hmem), hk⟩, _, ⟨rfl, fun s hmem => hs s (.inr hmem), hkeyed⟩, rfl⟩
termination_by structural items => items
end

theorem canonicalBytes_ok {C : Canon} {value : Json} {bytes : List UInt8} :
    canonicalBytes C value = .ok bytes ↔
      (∀ s ∈ value.strings, s = C.nfc s) ∧ value.Keyed ∧ C.dumps value = .ok bytes := by
  simp only [canonicalBytes, bind_ok, normalize_ok C value]
  constructor
  · rintro ⟨_, ⟨rfl, hs, hk⟩, hd⟩
    exact ⟨hs, hk, hd⟩
  · rintro ⟨hs, hk, hd⟩
    exact ⟨_, ⟨rfl, hs, hk⟩, hd⟩

end AvoCorrelate.Canonical
