import AvoCorrelate.Canonical
import AvoCorrelate.Contracts
import AvoCorrelate.Lib.Base64
import AvoCorrelate.Lib.Text
/-!
# Capability tokens

A token is the version, the canonical JSON of the claims and its HMAC, the last two in
Base64 without pads. What a token says is read from the bytes that were signed, whatever
their spelling. A token that is accepted names the session, the workspace and the tool it was
checked for and has not expired, but it need not be the token that was issued: it is exactly
if both segments are spelled as they are written and the bytes signed are the canonical JSON
(`tokens_issued_iff`).
-/
open AvoLib

namespace AvoCorrelate.Capabilities

open Canonical

abbrev Bytes := List UInt8

abbrev Text := List Char

structure CapabilityClaims where
  tokenId : String
  sessionId : String
  actorId : String
  workspaceDigest : String
  tools : List String
  policyDecisionId : String
  expiresAt : Instant
  deriving DecidableEq

inductive InvalidCapabilityToken
  | invalid (message : String)
  deriving DecidableEq

/-- `CapabilityIssuer`, with what it is made of outside this repository: the canonical form,
`hmac.digest` with SHA-256, and how the model writes a timestamp and reads its JSON text. -/
structure CapabilityIssuer where
  canon : Canon
  hmac : Bytes → Bytes → Bytes
  isoformat : Instant → String
  validateJson : Bytes → Option CapabilityClaims
  signingKey : Bytes
  long : 32 ≤ signingKey.length

variable (I : CapabilityIssuer)

/-- `model_dump(mode="json")`. -/
def dump (c : CapabilityClaims) : Json :=
  .object
    [("schema_version", .number "1"), ("token_id", .string c.tokenId), ("session_id", .string c.sessionId),
      ("actor_id", .string c.actorId), ("workspace_digest", .string c.workspaceDigest),
      ("tools", .array (c.tools.map .string)), ("policy_decision_id", .string c.policyDecisionId),
      ("expires_at", .string (I.isoformat c.expiresAt))]

def encode (value : Bytes) : Text := (Base64.encode value).rdropWhile (· = '=')

def decode (value : Text) : Option Bytes := Base64.decode (value ++ List.replicate ((4 - value.length % 4) % 4) '=')

def token (payload signature : Bytes) : Text := ['v', '1', '.'] ++ encode payload ++ '.' :: encode signature

def issue (c : CapabilityClaims) : Except Canonical.Error Text := do
  let payload ← canonicalBytes I.canon (dump I c)
  return token payload (I.hmac I.signingKey payload)

/-- `token.split(".")`, unpacked into three. -/
def segments (t : Text) : Except InvalidCapabilityToken (Text × Text × Text) :=
  match t.splitOn '.' with
  | [version, payload, signature] => .ok (version, payload, signature)
  | _ => .error (.invalid "malformed capability token")

/-- `verify`, the clock at `checkedAt`. -/
def verify (t : Text) (sessionId : String) (workspaceDigest : String) (toolId : String) (checkedAt : Instant) :
    Except InvalidCapabilityToken CapabilityClaims := do
  let (version, encodedPayload, encodedSignature) ← segments t
  let payload ← orRaise (decode encodedPayload) (.invalid "malformed capability token")
  let signature ← orRaise (decode encodedSignature) (.invalid "malformed capability token")
  require (version = ['v', '1']) (.invalid "unsupported capability token version")
  let expected := I.hmac I.signingKey payload
  require (signature = expected) (.invalid "invalid capability token signature")
  let claims ← orRaise (I.validateJson payload) (.invalid "invalid capability claims")
  require (¬ claims.expiresAt ≤ checkedAt) (.invalid "capability token expired")
  require (claims.sessionId = sessionId) (.invalid "capability token belongs to another session")
  require (claims.workspaceDigest = workspaceDigest) (.invalid "capability token belongs to another workspace")
  require (toolId ∈ claims.tools) (.invalid "tool is not granted by capability token")
  return claims

/-! ## Segments -/

theorem encode_eq (value : Bytes) : encode value = Base64.digits value := Base64.rdropWhile_encode value

theorem decode_eq (value : Text) : decode value = Base64.decodeUnpadded value := rfl

theorem decode_encode (value : Bytes) : decode (encode value) = some value := by
  rw [decode_eq, encode_eq, Base64.decodeUnpadded_digits]

theorem dot_notMem_encode (value : Bytes) : '.' ∉ encode value := by
  intro h
  rw [encode_eq] at h
  obtain ⟨n, hn, hdot⟩ := Base64.urlSafe_digits value '.' h
  exact Base64.digit_ne_dot hn hdot.symm

variable {t : Text} {sessionId workspaceDigest toolId : String} {checkedAt : Instant} {c : CapabilityClaims}

theorem segments_ok {version payload signature : Text} : segments t = .ok (version, payload, signature) ↔
      t = version ++ '.' :: (payload ++ '.' :: signature) ∧ '.' ∉ version ∧ '.' ∉ payload ∧ '.' ∉ signature := by
  constructor
  · intro h
    unfold segments at h
    split at h
    · next v p s hsplit =>
      simp only [Except.ok.injEq, Prod.mk.injEq] at h
      obtain ⟨rfl, rfl, rfl⟩ := h
      have hjoin : ['.'].intercalate (t.splitOn '.') = t := List.intercalate_splitOn '.'
      have hfree : ∀ piece ∈ t.splitOn '.', '.' ∉ piece := by
        intro piece hp hdot
        rw [List.splitOn_eq_splitOnP] at hp
        have := Text.not_mem_of_mem_splitOnP hp '.' hdot
        simp at this
      rw [hsplit] at hjoin hfree
      refine ⟨?_, hfree _ (by simp), hfree _ (by simp), hfree _ (by simp)⟩
      rw [← hjoin]
      simp [List.intercalate]
    · cases h
  · rintro ⟨rfl, hv, hp, hs⟩
    have hsplit : (version ++ '.' :: (payload ++ '.' :: signature)).splitOn '.' = [version, payload, signature] := by
      rw [List.splitOn_append_cons_self_of_not_mem hv, List.splitOn_append_cons_self_of_not_mem hp,
        List.splitOn_eq_singleton hs]
    simp only [segments, hsplit]

theorem segments_token (payload signature : Bytes) :
    segments (token payload signature) = .ok (['v', '1'], encode payload, encode signature) :=
  segments_ok.mpr ⟨by simp [token], by decide, dot_notMem_encode _, dot_notMem_encode _⟩

/-! ## What is checked -/

variable {I}

theorem verify_ok : verify I t sessionId workspaceDigest toolId checkedAt = .ok c ↔
      (∃ p s payload, segments t = .ok (['v', '1'], p, s) ∧ decode p = some payload ∧
        decode s = some (I.hmac I.signingKey payload) ∧ I.validateJson payload = some c) ∧
      checkedAt < c.expiresAt ∧ c.sessionId = sessionId ∧ c.workspaceDigest = workspaceDigest ∧ toolId ∈ c.tools := by
  constructor
  · intro h
    simp only [verify, bind_ok, orRaise_ok, require_ok, Prod.exists, pure_ok] at h
    obtain ⟨version, p, s, hseg, payload, hp, signature, hs, _, rfl, _, rfl, claims, hv, _, hexp, _, hses, _, hws, _,
      htool, rfl⟩ := h
    exact ⟨⟨p, s, payload, hseg, hp, hs, hv⟩, Int.not_le.mp hexp, hses, hws, htool⟩
  · rintro ⟨⟨p, s, payload, hseg, hp, hs, hv⟩, hexp, hses, hws, htool⟩
    simp only [verify, bind_ok, orRaise_ok, require_ok, Prod.exists, pure_ok]
    exact ⟨_, p, s, hseg, payload, hp, _, hs, (), rfl, (), rfl, c, hv, (), Int.not_le.mpr hexp, (), hses, (), hws, (),
      htool, rfl⟩

theorem issue_ok : issue I c = .ok t ↔
      ∃ payload, canonicalBytes I.canon (dump I c) = .ok payload ∧ token payload (I.hmac I.signingKey payload) = t := by
  simp only [issue, bind_ok, pure_ok]

/-- A token whose segments are both spelled as they are written and whose signed bytes are the
canonical JSON of the claims they say. -/
def AsWritten (I : CapabilityIssuer) (t : Text) : Prop :=
  ∃ p s payload c, segments t = .ok (['v', '1'], p, s) ∧ Base64.Spelled p ∧ Base64.Spelled s ∧
    decode p = some payload ∧ I.validateJson payload = some c ∧ canonicalBytes I.canon (dump I c) = .ok payload

theorem issued_iff_asWritten (h : verify I t sessionId workspaceDigest toolId checkedAt = .ok c) :
    issue I c = .ok t ↔ AsWritten I t := by
  obtain ⟨⟨p, s, payload, hseg, hp, hs, hread⟩, -⟩ := verify_ok.mp h
  rw [issue_ok]
  constructor
  · rintro ⟨written, hcanon, rfl⟩
    rw [segments_token, Except.ok.injEq, Prod.mk.injEq, Prod.mk.injEq] at hseg
    obtain ⟨-, rfl, rfl⟩ := hseg
    rw [decode_encode, Option.some.injEq] at hp
    subst hp
    refine ⟨_, _, written, c, segments_token _ _, ?_, ?_, decode_encode _, hread, hcanon⟩
    · rw [encode_eq]
      exact Base64.spelled_digits _
    · rw [encode_eq]
      exact Base64.spelled_digits _
  · rintro ⟨p', s', payload', c', hseg', hspelledp, hspelleds, hp', hread', hcanon⟩
    rw [hseg, Except.ok.injEq, Prod.mk.injEq, Prod.mk.injEq] at hseg'
    obtain ⟨-, rfl, rfl⟩ := hseg'
    rw [hp, Option.some.injEq] at hp'
    subst hp'
    rw [hread, Option.some.injEq] at hread'
    subst hread'
    refine ⟨payload, hcanon, ?_⟩
    have hpdigits := (Base64.decode_spelled_iff hp).mpr hspelledp
    have hsdigits := (Base64.decode_spelled_iff hs).mpr hspelleds
    have ht := (segments_ok.mp hseg).1
    rw [token, encode_eq, encode_eq, hpdigits, hsdigits, ht]
    rfl

/-! ## Claims that can be issued -/

def CapabilityClaims.texts (c : CapabilityClaims) : List String :=
  [c.tokenId, c.sessionId, c.actorId, c.workspaceDigest] ++ c.tools ++ [c.policyDecisionId]

def asciiTexts (I : CapabilityIssuer) (c : CapabilityClaims) : List String :=
  ["schema_version", "token_id", "session_id", "actor_id", "workspace_digest", "tools", "policy_decision_id",
    "expires_at", I.isoformat c.expiresAt]

/-- What is documented of the parts outside this repository: ASCII is in NFC, the dump of claims
has none of the numbers that RFC 8785 refuses, and the model reads the JSON of its dump. -/
structure CapabilityIssuer.Documented (I : CapabilityIssuer) (c : CapabilityClaims) : Prop where
  ascii : ∀ s ∈ asciiTexts I c, s = I.canon.nfc s
  dumps : ∃ payload, I.canon.dumps (dump I c) = .ok payload
  reads : ∀ payload, I.canon.dumps (dump I c) = .ok payload → I.validateJson payload = some c

theorem itemStrings_texts (ss : List String) : itemStrings (ss.map .string) = ss := by
  induction ss with
  | nil => rfl
  | cons s ss ih => simp [itemStrings, Json.strings, ih]

theorem itemsKeyed_texts (ss : List String) : ItemsKeyed (ss.map .string) := by
  induction ss with
  | nil => trivial
  | cons s ss ih => exact ⟨trivial, ih⟩

theorem forall_mem_dump_strings {P : String → Prop} :
    (∀ s ∈ (dump I c).strings, P s) ↔ (∀ s ∈ asciiTexts I c, P s) ∧ ∀ s ∈ c.texts, P s := by
  simp only [dump, Json.strings, memberStrings, itemStrings_texts, asciiTexts, CapabilityClaims.texts,
    List.mem_append, List.cons_append, List.nil_append, List.mem_cons, List.not_mem_nil, or_false]
  constructor
  · intro h
    exact ⟨fun s hs => h s (by grind), fun s hs => h s (by grind)⟩
  · rintro ⟨h, h'⟩ s hs
    grind

theorem dump_keyed (c : CapabilityClaims) : (dump I c).Keyed := by
  refine ⟨by simp, ?_⟩
  simp [MembersKeyed, Json.Keyed, itemsKeyed_texts]

theorem issue_isOk (hd : I.Documented c) : (∃ t, issue I c = .ok t) ↔ ∀ s ∈ c.texts, s = I.canon.nfc s := by
  have hbytes : ∀ payload, canonicalBytes I.canon (dump I c) = .ok payload ↔
      (∀ s ∈ c.texts, s = I.canon.nfc s) ∧ I.canon.dumps (dump I c) = .ok payload := by
    intro payload
    rw [canonicalBytes_ok, forall_mem_dump_strings]
    constructor
    · rintro ⟨⟨-, ht⟩, -, hp⟩
      exact ⟨ht, hp⟩
    · rintro ⟨ht, hp⟩
      exact ⟨⟨hd.ascii, ht⟩, dump_keyed c, hp⟩
  simp only [issue_ok, hbytes]
  constructor
  · rintro ⟨_, _, ⟨ht, -⟩, -⟩
    exact ht
  · intro ht
    obtain ⟨payload, hp⟩ := hd.dumps
    exact ⟨_, payload, ⟨ht, hp⟩, rfl⟩

theorem verify_issued {issued : Text} (hd : I.Documented c) (h : issue I c = .ok issued)
    (hexp : checkedAt < c.expiresAt) (htool : toolId ∈ c.tools) :
    verify I issued c.sessionId c.workspaceDigest toolId checkedAt = .ok c := by
  obtain ⟨payload, hcanon, rfl⟩ := issue_ok.mp h
  have hread := hd.reads payload (canonicalBytes_ok.mp hcanon).2.2
  exact verify_ok.mpr ⟨⟨_, _, payload, segments_token _ _, decode_encode _, decode_encode _, hread⟩, hexp, rfl, rfl,
    htool⟩

/-- A token that is accepted covers the call, and is the one issued for its claims exactly if it is
spelled as it is written; one can be issued for claims, and is accepted, exactly if their texts are
in NFC. -/
theorem tokens_issued_iff (I : CapabilityIssuer) :
    (∀ t sessionId workspaceDigest toolId checkedAt c,
      verify I t sessionId workspaceDigest toolId checkedAt = .ok c →
        c.sessionId = sessionId ∧ c.workspaceDigest = workspaceDigest ∧ toolId ∈ c.tools ∧ checkedAt < c.expiresAt ∧
          (issue I c = .ok t ↔ AsWritten I t)) ∧
    ∀ c toolId checkedAt, I.Documented c → checkedAt < c.expiresAt → toolId ∈ c.tools →
      ((∃ t, issue I c = .ok t ∧ verify I t c.sessionId c.workspaceDigest toolId checkedAt = .ok c) ↔
        ∀ s ∈ c.texts, s = I.canon.nfc s) := by
  constructor
  · intro t sessionId workspaceDigest toolId checkedAt c h
    obtain ⟨-, hexp, hses, hws, htool⟩ := verify_ok.mp h
    exact ⟨hses, hws, htool, hexp, issued_iff_asWritten h⟩
  · intro c toolId checkedAt hd hexp htool
    rw [← issue_isOk hd]
    constructor
    · rintro ⟨t, hissue, -⟩
      exact ⟨t, hissue⟩
    · rintro ⟨t, hissue⟩
      exact ⟨t, hissue, verify_issued hd hissue hexp htool⟩

/-! ## A token that was not issued

The 32 bytes of a signature leave two bits of the last digit unused. -/

namespace Sample

def claims : CapabilityClaims where
  tokenId := "t"
  sessionId := "s"
  actorId := "a"
  workspaceDigest := "sha256:0000000000000000000000000000000000000000000000000000000000000000"
  tools := ["read_file"]
  policyDecisionId := "p"
  expiresAt := 1767225600

/-- The canonical JSON of the claims. -/
def payload : Bytes :=
  [
    123, 34, 97, 99, 116, 111, 114, 95, 105, 100, 34, 58, 34, 97, 34, 44, 34, 101, 120, 112, 105, 114, 101, 115,
    95, 97, 116, 34, 58, 34, 50, 48, 50, 54, 45, 48, 49, 45, 48, 49, 84, 48, 48, 58, 48, 48, 58, 48, 48, 90, 34,
    44, 34, 112, 111, 108, 105, 99, 121, 95, 100, 101, 99, 105, 115, 105, 111, 110, 95, 105, 100, 34, 58, 34, 112,
    34, 44, 34, 115, 99, 104, 101, 109, 97, 95, 118, 101, 114, 115, 105, 111, 110, 34, 58, 49, 44, 34, 115, 101,
    115, 115, 105, 111, 110, 95, 105, 100, 34, 58, 34, 115, 34, 44, 34, 116, 111, 107, 101, 110, 95, 105, 100, 34,
    58, 34, 116, 34, 44, 34, 116, 111, 111, 108, 115, 34, 58, 91, 34, 114, 101, 97, 100, 95, 102, 105, 108, 101,
    34, 93, 44, 34, 119, 111, 114, 107, 115, 112, 97, 99, 101, 95, 100, 105, 103, 101, 115, 116, 34, 58, 34, 115,
    104, 97, 50, 53, 54, 58] ++
    List.replicate 64 48 ++ [34, 125]

def signature : Bytes :=
  [
    149, 128, 36, 183, 67, 226, 25, 43, 200, 37, 76, 222, 173, 177, 10, 190, 174, 33, 251, 86, 108, 8, 99, 135,
    213, 28, 189, 99, 93, 171, 224, 198]

/-- The issuer whose key is 32 times `k`, on these claims. -/
def issuer : CapabilityIssuer where
  canon := { nfc := id, dumps := fun _ => .ok payload }
  hmac _ _ := signature
  isoformat _ := "2026-01-01T00:00:00Z"
  validateJson _ := some claims
  signingKey := List.replicate 32 107
  long := by simp

/-- The signature as it is sent, but for the last character, which is `Y`. -/
def altered : Text :=
  [
    'l', 'Y', 'A', 'k', 't', '0', 'P', 'i', 'G', 'S', 'v', 'I', 'J', 'U', 'z', 'e', 'r', 'b', 'E', 'K', 'v',
    'q', '4', 'h', '-', '1', 'Z', 's', 'C', 'G', 'O', 'H', '1', 'R', 'y', '9', 'Y', '1', '2', 'r', '4', 'M', 'Z']

def forged : Text := ['v', '1'] ++ '.' :: (encode payload ++ '.' :: altered)

theorem segments_forged : segments forged = .ok (['v', '1'], encode payload, altered) :=
  segments_ok.mpr ⟨rfl, by decide, dot_notMem_encode _, by decide⟩

theorem decode_altered : decode altered = some signature := by decide

theorem not_spelled_altered : ¬ Base64.Spelled altered := by
  rintro ⟨-, h⟩
  obtain ⟨v, hv, hc, hspare⟩ := h 'Z' (by decide)
  have hall : ∀ v < 64, 'Z' = Base64.digit v → v % 4 ≠ 0 := by decide
  exact hall v hv hc hspare

theorem verify_forged :
    verify issuer forged claims.sessionId claims.workspaceDigest "read_file" 0 = .ok claims :=
  verify_ok.mpr ⟨⟨_, _, payload, segments_forged, decode_encode _, decode_altered, rfl⟩, by decide, rfl, rfl, by decide⟩

end Sample

/-- A token that is accepted need not be the one issued for its claims. -/
theorem accepted_not_issued :
    ¬ ∀ (I : CapabilityIssuer) t sessionId workspaceDigest toolId checkedAt c,
      verify I t sessionId workspaceDigest toolId checkedAt = .ok c → issue I c = .ok t := by
  intro hclaim
  have hissued := hclaim _ _ _ _ _ _ _ Sample.verify_forged
  obtain ⟨p, s, payload, c, hseg, -, hspelled, -⟩ := (issued_iff_asWritten Sample.verify_forged).mp hissued
  rw [Sample.segments_forged, Except.ok.injEq, Prod.mk.injEq, Prod.mk.injEq] at hseg
  obtain ⟨-, -, rfl⟩ := hseg
  exact Sample.not_spelled_altered hspelled

theorem tokens_issued_iff_sample :
    (issue Sample.issuer Sample.claims = .ok Sample.forged ↔ AsWritten Sample.issuer Sample.forged) ∧
      ∃ t, issue Sample.issuer Sample.claims = .ok t ∧
        verify Sample.issuer t Sample.claims.sessionId Sample.claims.workspaceDigest "read_file" 0 =
          .ok Sample.claims := by
  have hd : Sample.issuer.Documented Sample.claims :=
    ⟨fun _ _ => rfl, ⟨Sample.payload, rfl⟩, fun _ _ => rfl⟩
  have h := tokens_issued_iff Sample.issuer
  exact ⟨(h.1 _ _ _ _ _ _ Sample.verify_forged).2.2.2.2,
    (h.2 Sample.claims "read_file" 0 hd (by decide) (by decide)).mpr fun _ _ => rfl⟩

end AvoCorrelate.Capabilities
