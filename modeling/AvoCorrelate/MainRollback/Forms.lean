import AvoCorrelate.MainRollback.Records
import AvoCorrelate.Graduation.Forms
/-!
# Canonical forms of the rollback's documents
-/
namespace AvoCorrelate.Graduation.Form

open MainRollback

/-- Names and texts, in order. -/
def entries : List (String × String) → Form
  | [] => .blank
  | e :: es => .pair (.pair (.text e.1) (.text e.2)) (entries es)

theorem entries_inj {es es' : List (String × String)} (h : entries es = entries es') : es = es' := by
  induction es generalizing es' with
  | nil =>
    cases es' with
    | nil => rfl
    | cons => cases h
  | cons e es ih =>
    cases es' with
    | nil => cases h
    | cons e' es' =>
      simp only [entries, Form.pair.injEq, Form.text.injEq] at h
      obtain ⟨⟨h₁, h₂⟩, h⟩ := h
      rw [ih h, Prod.ext h₁ h₂]

def issuer (i : Issuer Form) : Form := fields [.text i.identity, .number i.appId, i.isolationDigest]

theorem issuer_inj {i i' : Issuer Form} (h : issuer i = issuer i') : i = i' := by
  cases i
  cases i'
  simp only [issuer, fields, Form.pair.injEq, Form.text.injEq, Form.number.injEq, Int.natCast_inj, and_true] at h
  obtain ⟨rfl, rfl, rfl⟩ := h
  rfl

def rollbackPreparation (p : MainRollback.Preparation Form) : Form :=
  fields [bound p.toMainBound, p.operationId, p.compositionId, p.compositionArtifactDigest, p.rollbackAuthorizationDigest,
    p.rollbackIntentDigest, p.packageDigest, p.compositionDigest, .text p.baseCommit, .text p.baseTree, .text p.candidateCommit,
    .text p.candidateTree, .text p.candidateRef, .text p.leaseIdentity, p.leaseDigest, p.leaseEpochDigest, p.policyEpoch,
    .number p.authorizedAt]

theorem rollbackPreparation_inj {p p' : MainRollback.Preparation Form} (h : rollbackPreparation p = rollbackPreparation p') :
    p = p' := by
  cases p
  cases p'
  simp only [rollbackPreparation, fields, Form.pair.injEq, Form.text.injEq, Form.number.injEq, and_true] at h
  obtain ⟨h₁, rfl, rfl, rfl, rfl, rfl, rfl, rfl, rfl, rfl, rfl, rfl, rfl, rfl, rfl, rfl, rfl, rfl⟩ := h
  cases bound_inj h₁
  rfl

def admission (a : Admission Form) : Form :=
  fields [bound a.toMainBound, a.operationId, a.preparationAuthorizationDigest, a.packageDigest, a.compositionDigest,
    .number a.pullRequestNumber, .text a.pullRequestUrl, .text a.baseCommit, .text a.baseTree, .text a.headCommit, .text a.headTree,
    .text a.admissionSha, .text a.admissionRunId, .text a.admissionNonce, a.queueConfigurationDigest, a.protectionManifestDigest,
    issuer a.issuer, .number a.observedAt]

theorem admission_inj {a a' : Admission Form} (h : admission a = admission a') : a = a' := by
  cases a
  cases a'
  simp only [admission, fields, Form.pair.injEq, Form.text.injEq, Form.number.injEq, Int.natCast_inj, and_true] at h
  obtain ⟨h₁, rfl, rfl, rfl, rfl, rfl, rfl, rfl, rfl, rfl, rfl, rfl, rfl, rfl, rfl, rfl, h₁₇, rfl⟩ := h
  cases bound_inj h₁
  cases issuer_inj h₁₇
  rfl

/-- The form of a document, under the tag of its kind. -/
def ofRollbackDoc : MainRollback.Doc Form → Form
  | .preparation p => .pair (.number 10) (rollbackPreparation p)
  | .preparationRecord p => .pair (.number 11) (rollbackPreparation p)
  | .admission a => .pair (.number 12) (admission a)
  | .admissionSeed d n url head => .pair (.number 13) (fields [d, .number n, .text url, .text head])
  | .stageNonce d => .pair (.number 14) d
  | .object s es => .pair (.number 15) (.pair (stage s) (entries es))
  | .request b d e x s es => .pair (.number 16) (fields [bound b, d, e, x, stage s, entries es])

theorem ofRollbackDoc_injective : Function.Injective ofRollbackDoc := by
  intro d d' h
  cases d <;> cases d' <;> first | (simp [ofRollbackDoc] at h; done) | skip
  case preparation => cases rollbackPreparation_inj (Form.pair.inj h).2; rfl
  case preparationRecord => cases rollbackPreparation_inj (Form.pair.inj h).2; rfl
  case admission => cases admission_inj (Form.pair.inj h).2; rfl
  case admissionSeed =>
    simp only [ofRollbackDoc, fields, Form.pair.injEq, Form.text.injEq, Form.number.injEq, Int.natCast_inj, true_and, and_true] at h
    obtain ⟨h₁, h₂, h₃, h₄⟩ := h
    cases h₁; cases h₂; cases h₃; cases h₄
    rfl
  case stageNonce => cases h; rfl
  case object =>
    simp only [ofRollbackDoc, Form.pair.injEq, true_and] at h
    cases stage_inj h.1
    cases entries_inj h.2
    rfl
  case request =>
    simp only [ofRollbackDoc, fields, Form.pair.injEq, true_and, and_true] at h
    obtain ⟨h₁, h₂, h₃, h₄, h₅, h₆⟩ := h
    cases bound_inj h₁
    cases stage_inj h₅
    cases entries_inj h₆
    cases h₂; cases h₃; cases h₄
    rfl

/-- The digest of a document is its canonical form; its text tells nothing. -/
def rollbackCanon : MainRollback.Canon Form := ⟨canon, ofRollbackDoc, ofRollbackDoc_injective, fun _ => ""⟩

end AvoCorrelate.Graduation.Form
