import AvoCorrelate.Graduation.Documents
/-!
# Canonical forms

Digests without collisions can be had: a document's digest is its canonical form,
fields in order under a tag for its kind. What the journal does can be computed with
these.
-/
namespace AvoCorrelate.Graduation

inductive Form
  | blank
  | number (n : Int)
  | text (s : String)
  | pair (a b : Form)
  deriving DecidableEq

namespace Form

variable {α : Type}

/-- A value that may be missing. -/
def optional (f : α → Form) : Option α → Form
  | none => .blank
  | some x => .pair .blank (f x)

theorem optional_inj {f : α → Form} (hf : ∀ {x y}, f x = f y → x = y) {x y : Option α} (h : optional f x = optional f y) :
    x = y := by
  cases x with
  | none =>
    cases y with
    | none => rfl
    | some y => cases h
  | some x =>
    cases y with
    | none => cases h
    | some y => rw [hf (Form.pair.inj h).2]

def fields : List Form → Form
  | [] => .blank
  | f :: fs => .pair f (fields fs)

def digest (d : Form) : Form := d

def stage : Stage → Form
  | .candidatePublication => .number 0
  | .pullRequestOpen => .number 1
  | .admissionCheck => .number 2
  | .queueEnqueue => .number 3
  | .mergeGroupHold => .number 4
  | .releaseTransition => .number 5

theorem stage_inj {s s' : Stage} (h : stage s = stage s') : s = s' := by
  cases s <;> cases s' <;> first | rfl | cases h

def outcome : MutationOutcome → Form
  | .applied => .number 0
  | .alreadyApplied => .number 1
  | .rejected => .number 2
  | .ambiguous => .number 3
  | .reconciliationRequired => .number 4

theorem outcome_inj {o o' : MutationOutcome} (h : outcome o = outcome o') : o = o' := by
  cases o <;> cases o' <;> first | rfl | cases h

def resolutionOutcome : ResolutionOutcome → Form
  | .observedApplied => .number 0
  | .observedAlreadyApplied => .number 1
  | .notApplied => .number 2

theorem resolutionOutcome_inj {o o' : ResolutionOutcome} (h : resolutionOutcome o = resolutionOutcome o') : o = o' := by
  cases o <;> cases o' <;> first | rfl | cases h

def flag : Bool → Form
  | false => .number 0
  | true => .number 1

theorem flag_inj {b b' : Bool} (h : flag b = flag b') : b = b' := by
  cases b <;> cases b' <;> first | rfl | cases h

def externalKey : ExternalKey Form → Form
  | .text s => .text s
  | .digest d => .pair .blank d

theorem externalKey_inj {k k' : ExternalKey Form} (h : externalKey k = externalKey k') : k = k' := by
  cases k <;> cases k' <;> cases h <;> rfl

/-- There is one target ref, so the repository says it all. -/
def bound (b : MainBound Form) : Form := b.repositoryDigest

theorem bound_inj {b b' : MainBound Form} (h : bound b = bound b') : b = b' := by
  obtain ⟨d, ref, rfl⟩ := b
  obtain ⟨d', ref', rfl⟩ := b'
  cases h
  rfl

def externalIdentity (e : ExternalIdentity Form) : Form :=
  fields [bound e.toMainBound, e.operationId, stage e.stage, externalKey e.externalKey,
    optional digest e.queueGenerationDigest]

theorem externalIdentity_inj {e e' : ExternalIdentity Form} (h : externalIdentity e = externalIdentity e') : e = e' := by
  cases e
  cases e'
  simp only [externalIdentity, fields, Form.pair.injEq, and_true] at h
  obtain ⟨h₁, h₂, h₃, h₄, h₅⟩ := h
  cases bound_inj h₁
  cases h₂
  cases stage_inj h₃
  cases externalKey_inj h₄
  cases optional_inj (f := digest) (fun h => h) h₅
  rfl

def binding (b : MutationBinding Form) : Form :=
  fields [bound b.toMainBound, b.operationId, stage b.stage, optional digest b.parentIntentDigest, .text b.leaseIdentity,
    b.leaseDigest, b.leaseEpochDigest, b.policyEpochDigest, b.controllerConfigDigest, b.preparationAuthorizationDigest,
    optional digest b.releaseAuthorizationDigest, optional digest b.releaseClaimDigest,
    externalIdentity b.externalIdentity]

theorem binding_inj {b b' : MutationBinding Form} (h : binding b = binding b') : b = b' := by
  cases b
  cases b'
  simp only [binding, fields, Form.pair.injEq, Form.text.injEq, and_true] at h
  obtain ⟨h₁, rfl, h₃, h₄, rfl, rfl, rfl, rfl, rfl, rfl, h₁₁, h₁₂, h₁₃⟩ := h
  cases bound_inj h₁
  cases stage_inj h₃
  cases optional_inj (f := digest) (fun h => h) h₄
  cases optional_inj (f := digest) (fun h => h) h₁₁
  cases optional_inj (f := digest) (fun h => h) h₁₂
  cases externalIdentity_inj h₁₃
  rfl

def receipt (b : ReceiptBody Form) : Form :=
  fields [binding b.toMutationBinding, b.intentDigest, outcome b.outcome, flag b.dispatchStarted, b.responseDigest,
    .number b.observedAt]

theorem receipt_inj {b b' : ReceiptBody Form} (h : receipt b = receipt b') : b = b' := by
  cases b
  cases b'
  simp only [receipt, fields, Form.pair.injEq, Form.number.injEq, and_true] at h
  obtain ⟨h₁, rfl, h₃, h₄, rfl, rfl⟩ := h
  cases binding_inj h₁
  cases outcome_inj h₃
  cases flag_inj h₄
  rfl

def intent (b : IntentBody Form) : Form :=
  fields [binding b.toMutationBinding, optional stage b.parentStage, optional receipt b.parentReceipt,
    optional digest b.parentResolutionDigest, b.requestDigest, .number b.recordedAt]

theorem intent_inj {b b' : IntentBody Form} (h : intent b = intent b') : b = b' := by
  cases b
  cases b'
  simp only [intent, fields, Form.pair.injEq, Form.number.injEq, and_true] at h
  obtain ⟨h₁, h₂, h₃, h₄, h₅, h₆⟩ := h
  cases binding_inj h₁
  cases optional_inj stage_inj h₂
  cases optional_inj receipt_inj h₃
  cases optional_inj (f := digest) (fun h => h) h₄
  cases h₅; cases h₆
  rfl

def fence (f : Fence Form) : Form :=
  fields [bound f.toMainBound, f.operationId, stage f.stage, f.intentDigest, f.sourceReceiptDigest,
    f.externalIdentityDigest, .text f.leaseIdentity, f.leaseDigest, .number f.openedAt]

theorem fence_inj {f f' : Fence Form} (h : fence f = fence f') : f = f' := by
  cases f
  cases f'
  simp only [fence, fields, Form.pair.injEq, Form.number.injEq, Form.text.injEq, and_true] at h
  obtain ⟨h₁, rfl, h₃, rfl, rfl, rfl, rfl, rfl, rfl⟩ := h
  cases bound_inj h₁
  cases stage_inj h₃
  rfl

def resolution (q : Resolution Form) : Form :=
  fields [bound q.toMainBound, q.fenceDigest, q.operationId, q.intentDigest, q.externalIdentityDigest,
    .text q.leaseIdentity, q.leaseDigest, q.resolvedReceiptDigest, q.authoritativeObservationDigest,
    .text q.providerIdentity, .text q.providerApiVersion, resolutionOutcome q.outcome, .number q.resolvedAt]

theorem resolution_inj {q q' : Resolution Form} (h : resolution q = resolution q') : q = q' := by
  cases q
  cases q'
  simp only [resolution, fields, Form.pair.injEq, Form.number.injEq, Form.text.injEq, and_true] at h
  obtain ⟨h₁, rfl, rfl, rfl, rfl, rfl, rfl, rfl, rfl, rfl, rfl, h₁₂, rfl⟩ := h
  cases bound_inj h₁
  cases resolutionOutcome_inj h₁₂
  rfl

def releaseKey (k : ReleaseKey Form) : Form :=
  fields [bound k.toMainBound, k.operationId, k.authorizationDigest, k.holdObservationDigest, .text k.groupSha,
    .text k.holdRunId, .text k.holdNonce, k.queueGenerationDigest, .number k.releaseIssuerAppId]

theorem releaseKey_inj {k k' : ReleaseKey Form} (h : releaseKey k = releaseKey k') : k = k' := by
  cases k
  cases k'
  simp only [releaseKey, fields, Form.pair.injEq, Form.number.injEq, Form.text.injEq, Int.natCast_inj, and_true] at h
  obtain ⟨h₁, rfl, rfl, rfl, rfl, rfl, rfl, rfl, rfl⟩ := h
  cases bound_inj h₁
  rfl

/-- The form of a document, under the tag of its kind. -/
def ofDoc : Doc Form → Form
  | .externalIdentity e => .pair (.number 0) (externalIdentity e)
  | .releaseKey k => .pair (.number 1) (releaseKey k)
  | .intent b => .pair (.number 2) (intent b)
  | .receipt b => .pair (.number 3) (receipt b)
  | .fence f => .pair (.number 4) (fence f)
  | .resolution q => .pair (.number 5) (resolution q)
  | .failure error => .pair (.number 6) (.text error)
  | .missingDispatch => .pair (.number 7) .blank

theorem ofDoc_injective : Function.Injective ofDoc := by
  intro d d' h
  cases d <;> cases d' <;> first | (simp [ofDoc] at h; done) | skip
  case externalIdentity => cases externalIdentity_inj (Form.pair.inj h).2; rfl
  case releaseKey => cases releaseKey_inj (Form.pair.inj h).2; rfl
  case intent => cases intent_inj (Form.pair.inj h).2; rfl
  case receipt => cases receipt_inj (Form.pair.inj h).2; rfl
  case fence => cases fence_inj (Form.pair.inj h).2; rfl
  case resolution => cases resolution_inj (Form.pair.inj h).2; rfl
  case failure => cases h; rfl
  case missingDispatch => rfl

def canon : Canon Form := ⟨ofDoc, ofDoc_injective⟩

end Form

end AvoCorrelate.Graduation
