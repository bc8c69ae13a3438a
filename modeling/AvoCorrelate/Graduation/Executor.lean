import AvoCorrelate.Graduation.Recording
/-!
# The stage executor

`C4StageExecutor` takes one stage over the provider boundary: durable intent, claim
of the right to dispatch, one call of the provider, receipt, and afterwards only
observations. The lock that serialises the calls of one process for one intent is
left out: every call here is a process of its own.
-/
open AvoLib

namespace AvoCorrelate.Graduation

variable {D : Type} [DecidableEq D]

/-- An executor with its journal's configuration. -/
structure Executor (D : Type) where
  policyEpoch : Option D
  providerIdentity : Option String
  providerApiVersion : Option String
  providerRepository : Option String
  -- the capability has the method of a stage; an observation capability was given
  implements : Stage → Bool
  observes : Bool

/-- A text that is there and not empty. -/
def configured (s : Option String) : Bool := s.any fun t => !t.isEmpty

namespace Executor

/-! ## Bindings -/

variable (C : Canon D)

def SameBinding (i : Intent D) (request : StageRequest D) : Prop :=
  request.operationId = i.operationId ∧ request.toMainBound = i.toMainBound ∧ request.stage = i.stage ∧
    request.leaseEpochDigest = i.leaseEpochDigest ∧ request.requestDigest = i.requestDigest ∧
    request.externalIdentity = i.externalIdentity.digest C

instance (i : Intent D) (request : StageRequest D) : Decidable (SameBinding C i request) :=
  inferInstanceAs (Decidable (_ ∧ _))

/-- `_same_observation_binding`. -/
def SameObservation (i : Intent D) (request : ObservationRequest D) : Prop :=
  request.operationId = i.operationId ∧ request.toMainBound = i.toMainBound ∧ request.stage = i.stage ∧
    request.leaseEpochDigest = i.leaseEpochDigest

instance (i : Intent D) (request : ObservationRequest D) : Decidable (SameObservation i request) :=
  inferInstanceAs (Decidable (_ ∧ _))

/-- Two dictionaries with the same entries. -/
def sameDict (a b : List (String × String)) : Bool := a.all (fun e => b.contains e) && b.all (fun e => a.contains e)

def popKeys (keys : List String) (fields : List (String × String)) : List (String × String) :=
  fields.filter fun e => !keys.contains e.1

/-- `_immutable_stage_projection`, less the fields that are checked separately. -/
def immutableProjection (stage : Stage) (fields : List (String × String)) : List (String × String) :=
  if stage = .pullRequestOpen then popKeys ["pull_request_number", "preparation_authorization_digest"] fields else fields

/-- The create request's names of the head, as the observation request has them. -/
def renameHead (e : String × String) : String × String :=
  if e.1 = "candidate_commit" then ("head_commit", e.2)
  else if e.1 = "candidate_tree" then ("head_tree", e.2)
  else e

/-- The field of the mutation request that names the provider's object. -/
def objectField : Stage → Option String
  | .candidatePublication => some "candidate_ref"
  | .pullRequestOpen => none
  | .admissionCheck => some "admission_run_id"
  | .queueEnqueue => some "pull_request_url"
  | .mergeGroupHold => some "hold_run_id"
  | .releaseTransition => some "hold_run_id"

/-- `_check_observation_object_binding`. -/
def checkObservationObject (E : Executor D) (original : StageRequest D) (observation : ObservationRequest D) : Code D Unit := do
  let expected := immutableProjection original.stage original.fields
  let observed := immutableProjection observation.stage observation.fields
  let same :=
    if original.stage = .queueEnqueue then
      sameDict (popKeys ["queue_generation_digest"] expected) (popKeys ["queue_generation_digest"] observed)
    else if original.stage = .pullRequestOpen then sameDict (expected.map renameHead) observed
    else sameDict expected observed
  Prog.require (same = true) (.execution "observation target differs from original stage request")
  if original.stage = .pullRequestOpen then
    let objectId := do
      let repository ← E.providerRepository
      let number ← observation.fields.lookup "pull_request_number"
      if repository.isEmpty || number.isEmpty then none else some (repository ++ ":pull/" ++ number)
    Prog.require (objectId = some observation.objectId)
      (.execution "observation object identity is not derived from assigned pull request")
  else
    Prog.require ((objectField original.stage).bind (fun name => original.fields.lookup name) = some observation.objectId)
      (.execution "observation object identity is not derived from stage request")

def checkRequest (E : Executor D) (i : Intent D) (request : StageRequest D) : Code D Unit := do
  Prog.require (request.stage = i.stage) (.execution "stage request type does not match stage")
  Prog.require (SameBinding C i request) (.execution "stage request does not exactly match mutation intent")
  Prog.require (E.implements i.stage = true) (.execution "capability does not implement the exact stage operation")

def checkObservationRequest (E : Executor D) (i : Intent D) (request : ObservationRequest D) (original : StageRequest D) :
    Code D Unit := do
  Prog.require (request.stage = i.stage) (.execution "observation request type does not match stage")
  Prog.require (SameObservation i request) (.execution "observation request does not match mutation intent")
  checkObservationObject E original request
  Prog.require (E.observes = true) (.execution "read-only observation capability is missing")

def checkReceiptBinding (r : Receipt D) (i : Intent D) : Code D Unit :=
  Prog.require (r.intentDigest = i.digest C ∧ r.operationId = i.operationId ∧ r.stage = i.stage ∧
    r.externalIdentity = i.externalIdentity) (.execution "durable mutation receipt differs from intent")

def checkFenceBinding (f : Fence D) (i : Intent D) : Code D Unit :=
  Prog.require (f.intentDigest = i.digest C ∧ f.operationId = i.operationId ∧ f.stage = i.stage ∧
    f.toMainBound = i.toMainBound ∧ f.externalIdentityDigest = i.externalIdentity.digest C ∧
    f.leaseDigest = i.leaseDigest ∧ f.leaseIdentity = i.leaseIdentity)
    (.execution "durable mutation fence differs from intent")

def checkResolutionBinding (q : Resolution D) (i : Intent D) : Code D Unit :=
  Prog.require (q.intentDigest = i.digest C ∧ q.operationId = i.operationId ∧ q.toMainBound = i.toMainBound ∧
    q.externalIdentityDigest = i.externalIdentity.digest C ∧ q.leaseDigest = i.leaseDigest ∧
    q.leaseIdentity = i.leaseIdentity) (.execution "durable fence resolution differs from intent")

def checkResolutionProvider (E : Executor D) (q : Resolution D) : Code D Unit := do
  Prog.require (configured E.providerIdentity = true ∧ configured E.providerApiVersion = true)
    (.execution "provider identity/version is not controller configured")
  Prog.require (some q.providerIdentity = E.providerIdentity ∧ some q.providerApiVersion = E.providerApiVersion)
    (.execution "durable fence resolution provider differs")

def checkResolutionSource (q : Resolution D) (r : Receipt D) : Code D Unit := do
  Prog.require (q.resolvedReceiptDigest = r.digest C) (.execution "fence resolution source receipt differs")
  Prog.require (r.outcome.terminal = false) (.execution "fence resolution source receipt is terminal")

/-! ## Records -/

def receiptWith (i : Intent D) (outcome : MutationOutcome) (dispatchStarted : Bool) (responseDigest : D)
    (observedAt : Instant) : Option (Receipt D) :=
  Receipt.build ⟨i.toMutationBinding, i.digest C, outcome, dispatchStarted, responseDigest, observedAt⟩

/-- An ambiguous receipt (`_receipt_from_exception`, `_receipt_from_missing_dispatch`). -/
def ambiguousReceipt (i : Intent D) (response : Doc D) : Code D (Receipt D) := do
  let t ← now
  Prog.ofOption (receiptWith C i .ambiguous true (C.digest response) t) (.other "invalid mutation receipt")

def fenceFromReceipt (i : Intent D) (r : Receipt D) : Code D (Fence D) := do
  let t ← now
  return ⟨i.toMainBound, i.operationId, i.stage, i.digest C, r.digest C, i.externalIdentity.digest C, i.leaseIdentity,
    i.leaseDigest, t⟩

def resolutionFromObservation (E : Executor D) (f : Fence D) (r : Receipt D) (o : ObservationResult D) :
    Code D (Resolution D) := do
  Prog.require (configured E.providerIdentity = true ∧ configured E.providerApiVersion = true)
    (.execution "provider identity/version is not controller configured")
  let t ← now
  return ⟨f.toMainBound, f.digest C, f.operationId, f.intentDigest, f.externalIdentityDigest, f.leaseIdentity,
    f.leaseDigest, r.digest C, o.evidenceDigest, E.providerIdentity.getD "", E.providerApiVersion.getD "",
    if o.outcome = .observed then .observedAlreadyApplied else .notApplied, t⟩

def verifyReceiptAuthority (r : Receipt D) (i : Intent D) : Code D Unit := do
  let verified ← (Journal.verifyMutationReceipt r i).attempt
  match verified with
  | .ok _ => return ()
  | .error _ => .raise (.execution "controller rejected mutation receipt")

def readActiveFence (E : Executor D) (i : Intent D) : Code D (Option (Fence D)) := do
  let slot ← Journal.look i.toMainBound
  if Journal.hasRecord slot then
    let current ← Journal.look i.toMainBound >>= Journal.fenceIn
    (Journal.readers C E.policyEpoch).fence (current.digest C)
  else return none

def openFence (E : Executor D) (i : Intent D) (r : Receipt D) : Code D Unit := do
  let active ← readActiveFence C E i
  match active with
  | some _ => return ()
  | none => do
    let f ← fenceFromReceipt C i r
    Journal.recordUnresolvedMutationFence C E.policyEpoch f

def persistAmbiguous (E : Executor D) (i : Intent D) (error : String) : Code D (Receipt D) := do
  let r ← ambiguousReceipt C i (.failure error)
  verifyReceiptAuthority r i
  Journal.recordMutationReceipt C E.policyEpoch r
  openFence C E i r
  return r

/-! ## Executing -/

def checkPrerequisites (E : Executor D) (i : Intent D) : Code D Unit :=
  match i.parentResolutionDigest with
  | some digest => do
    let prior ← (Journal.readers C E.policyEpoch).resolution digest
    Prog.require (prior.any (fun q => some q.intentDigest = i.parentIntentDigest) = true)
      (.execution "parent fence resolution is missing or mismatched")
  | none =>
    match i.parentIntentDigest, i.parentReceipt with
    | some digest, some _ => do
      let prior ← (Journal.readers C E.policyEpoch).intent digest
      let parent ← Prog.ofOption prior (.execution "parent mutation intent is missing")
      Prog.require (parent.operationId = i.operationId) (.execution "parent mutation intent is missing")
      Prog.require (some parent.stage = i.parentStage) (.execution "parent mutation stage differs")
    | _, _ => .done ()

def checkPreIntentExpiry (i : Intent D) (request : StageRequest D) : Code D Unit := do
  let t ← now
  Prog.require (∀ expiry ∈ request.authorizationExpiresAt, t < expiry) (.execution "release authorization has expired")
  let lease ← (.port (.lease i.operationId) .done : Code D (Answer (Option (LeaseRecord D))))
  match lease with
  | .returned (some l) => Prog.require (t < l.expiresAt) (.execution "main lease has expired")
  | _ => return ()

/-- The authorization that the request carries has not expired. -/
def requireUnexpired (expiry : Option Instant) (message : String) : Code D Unit :=
  match expiry with
  | none => .done ()
  | some e => do
    let t ← now
    Prog.require (t < e) (.execution message)

def lastMomentAuthority (i : Intent D) (request : StageRequest D) : Code D Unit := do
  requireUnexpired request.authorizationExpiresAt "stage authorization has expired"
  if i.stage = .releaseTransition then
    let prior ← (.port (.releaseClaim i.releaseClaimDigest) Answer.orRaise : Code D (Option (ReleaseClaim D)))
    let claim ← Prog.ofOption prior (.execution "release claim is missing or mismatched")
    Prog.require (claim.operationId = i.operationId) (.execution "release claim is missing or mismatched")
    requireUnexpired (some claim.authorizationExpiresAt) "release authorization has expired"
    .port (.leaseCurrent i.operationId i.leaseEpochDigest) Answer.orRaise
  else .port (.leaseCurrent i.operationId i.leaseEpochDigest) Answer.orRaise

/-- Errors other than the executor's own are reported as this one. -/
def reporting {α : Type} (message : String) (p : Code D α) : Code D α := do
  let outcome ← p.attempt
  match outcome with
  | .ok x => return x
  | .error (.execution m) => .raise (.execution m)
  | .error _ => .raise (.execution message)

def claimDispatchOwner (E : Executor D) (i : Intent D) (request : StageRequest D) : Code D Bool := do
  let t ← now
  Journal.claimMutationDispatch C E.policyEpoch ⟨i.toMainBound, i.operationId, i.digest C, request.requestDigest, i.stage,
    i.externalIdentity.digest C, i.leaseIdentity, i.leaseDigest, i.leaseEpochDigest, t⟩

/-- `_verify_result` and `_receipt_from_result`, with the check of the receipt. -/
def receiptFromResult (i : Intent D) (request : StageRequest D) (result : MutationResult D) : Code D (Receipt D) := do
  Prog.require (result.stage = i.stage ∧ result.requestDigest = request.requestDigest)
    (.execution "provider result identity differs from request")
  Prog.require (result.externalIdentity = i.externalIdentity.digest C)
    (.execution "provider result external identity differs")
  (.port (.verifyResult result request i) Answer.orRaise : Code D Unit)
  let r ← Prog.ofOption (receiptWith C i result.outcome result.dispatchStarted result.responseDigest result.observedAt)
    (.other "invalid mutation receipt")
  verifyReceiptAuthority r i
  return r

def errorText : Exc → String
  | .journal m => m
  | .conflict m => m
  | .execution m => m
  | .other m => m

/-- The provider's result is recorded; what cannot be trusted is ambiguous. -/
def settle (E : Executor D) (i : Intent D) (request : StageRequest D) (result : MutationResult D) : Code D (Receipt D) := do
  let built ← (receiptFromResult C i request result).attempt
  match built with
  | .error e => persistAmbiguous C E i (errorText e)
  | .ok r => do
    Journal.recordMutationReceipt C E.policyEpoch r
    if r.outcome.terminal then return r
    else do
      openFence C E i r
      return r

/-- The call of the provider, which begins and returns, and its receipt. -/
def dispatch (E : Executor D) (i : Intent D) (request : StageRequest D) : Code D (Receipt D) :=
  .port (.dispatch (i.digest C) request) fun _ =>
    .port (.dispatched (i.digest C) request) fun r =>
      match r.answer with
      | .raised message => persistAmbiguous C E i message
      | .returned result => settle C E i request result

def claimAndDispatch (E : Executor D) (i : Intent D) (request : StageRequest D) : Code D (Receipt D) := do
  reporting "last-moment authority check failed" (lastMomentAuthority i request)
  let claimed ← reporting "mutation dispatch owner was not durably claimed" (claimDispatchOwner C E i request)
  Prog.require (claimed = true) (.execution "mutation dispatch owner is already claimed; recovery is required")
  -- claiming takes time: the authority is checked once more
  reporting "last-moment authority check failed" (lastMomentAuthority i request)
  dispatch C E i request

def recordIntent (E : Executor D) (i : Intent D) (request : StageRequest D) : Code D (Receipt D) := do
  checkPreIntentExpiry i request
  let recorded ← (Journal.recordMutationIntent C E.policyEpoch i).attempt
  match recorded with
  | .ok _ => claimAndDispatch C E i request
  | .error _ => do
    let prior ← Journal.readReceiptForIntent C E.policyEpoch (i.digest C)
    match prior with
    | some r => do
      checkReceiptBinding C r i
      return r
    | none => .raise (.execution "mutation intent was not durably recorded")

def execute (E : Executor D) (i : Intent D) (request : StageRequest D) : Code D (Receipt D) := do
  checkRequest C E i request
  let prior ← Journal.readReceiptForIntent C E.policyEpoch (i.digest C)
  match prior with
  | some r => do
    checkReceiptBinding C r i
    return r
  | none => do
    let existing ← (Journal.readers C E.policyEpoch).intent (i.digest C)
    match existing with
    | some durable => do
      Prog.require (durable = i) (.execution "durable mutation intent differs")
      let owner ← Journal.readDispatchOwner C E.policyEpoch (i.digest C)
      Prog.require (owner.isNone = true)
        (.execution "mutation dispatch owner exists without receipt; recovery is required")
      checkPrerequisites C E i
      claimAndDispatch C E i request
    | none => do
      checkPrerequisites C E i
      recordIntent C E i request

/-! ## Recovering -/

/-- The intent that recovery is asked for: a record, or its digest. -/
inductive IntentRef (D : Type)
  | record (i : Intent D)
  | digest (d : D)

def IntentRef.expected : IntentRef D → D
  | .record i => i.digest C
  | .digest d => d

/-- The durable intent is the one that was given. -/
def IntentRef.Agrees : IntentRef D → Intent D → Prop
  | .record i, durable => durable = i
  | .digest _, _ => True

instance (ref : IntentRef D) (durable : Intent D) : Decidable (ref.Agrees durable) :=
  match ref with
  | .record i => inferInstanceAs (Decidable (durable = i))
  | .digest _ => inferInstanceAs (Decidable True)

/-- A resolution that is already there decides. -/
def recoverResolved (E : Executor D) (i : Intent D) (q : Resolution D) : Code D (Receipt D) := do
  checkResolutionBinding C q i
  checkResolutionProvider E q
  let prior ← (Journal.readers C E.policyEpoch).receipt q.resolvedReceiptDigest
  let r ← Prog.ofOption prior (.execution "resolved mutation receipt is missing")
  checkReceiptBinding C r i
  verifyReceiptAuthority r i
  checkResolutionSource C q r
  return r

/-- The receipt of the intent; a crash may have left none. -/
def recoverReceipt (E : Executor D) (i : Intent D) : Code D (Receipt D) := do
  let prior ← Journal.readReceiptForIntent C E.policyEpoch (i.digest C)
  match prior with
  | some r => return r
  | none => do
    let r ← ambiguousReceipt C i .missingDispatch
    verifyReceiptAuthority r i
    Journal.recordMutationReceipt C E.policyEpoch r
    return r

def recoverFence (E : Executor D) (i : Intent D) (r : Receipt D) : Code D (Fence D) := do
  let active ← readActiveFence C E i
  match active with
  | some f => do
    checkFenceBinding C f i
    return f
  | none => do
    let f ← fenceFromReceipt C i r
    Journal.recordUnresolvedMutationFence C E.policyEpoch f
    return f

def verifyObservation (i : Intent D) (request : ObservationRequest D) (o : ObservationResult D) : Code D Unit := do
  Prog.require (o.stage = i.stage ∧ o.requestDigest = request.requestDigest)
    (.execution "provider observation identity differs from request")
  Prog.require (o.externalIdentity = request.externalIdentity)
    (.execution "provider observation identity differs from request")
  .port (.verifyObservation o request i) Answer.orRaise

def resolve (E : Executor D) (i : Intent D) (request : ObservationRequest D) (r : Receipt D) (f : Fence D) :
    Answer (ObservationResult D) → Code D (Receipt D)
  | .raised message => .raise (.other message)
  | .returned o => do
    verifyObservation i request o
    if o.outcome = .observed ∨ o.outcome = .notFound then
      let q ← resolutionFromObservation C E f r o
      Journal.recordMutationFenceResolution C E.policyEpoch q
      return r
    else return r

def recoverAmbiguous (E : Executor D) (i : Intent D) (request : ObservationRequest D) (r : Receipt D) : Code D (Receipt D) := do
  let f ← recoverFence C E i r
  let resolution ← Journal.readResolutionByFence C E.policyEpoch (f.digest C)
  match resolution with
  | some q => do
    checkResolutionBinding C q i
    checkResolutionProvider E q
    checkResolutionSource C q r
    return r
  | none => .port (.observe (i.digest C) request) fun a => resolve C E i request r f a.answer

def recover (E : Executor D) (ref : IntentRef D) (request : ObservationRequest D) (original : StageRequest D) :
    Code D (Receipt D) := do
  let prior ← (Journal.readers C E.policyEpoch).intent (ref.expected C)
  let i ← Prog.ofOption prior (.execution "mutation intent is missing")
  Prog.require (ref.Agrees i) (.execution "durable mutation intent differs")
  checkRequest C E i original
  checkObservationRequest E i request original
  let resolution ← Journal.readResolutionByIntent C E.policyEpoch (i.digest C)
  match resolution with
  | some q => recoverResolved C E i q
  | none => do
    let r ← recoverReceipt C E i
    checkReceiptBinding C r i
    if r.outcome.terminal then return r else recoverAmbiguous C E i request r

/-! ## Results -/

/-- `C4StageExecutionResult`: the outcome that counts is the receipt's, or what a
resolution established. -/
structure EffectiveResult (D : Type) where
  receipt : Receipt D
  resolution : Option (Resolution D)

def effectiveResult (E : Executor D) (ref : IntentRef D) (given : Option (Receipt D)) : Code D (EffectiveResult D) := do
  let prior ← (Journal.readers C E.policyEpoch).intent (ref.expected C)
  let i ← Prog.ofOption prior (.execution "mutation intent is missing")
  Prog.require (ref.Agrees i) (.execution "durable mutation intent differs")
  let durable ← Journal.readReceiptForIntent C E.policyEpoch (i.digest C)
  let r ← Prog.ofOption durable (.execution "mutation receipt is missing")
  Prog.require (∀ g ∈ given, g = r) (.execution "supplied mutation receipt differs")
  checkReceiptBinding C r i
  verifyReceiptAuthority r i
  let resolution ← Journal.readResolutionByIntent C E.policyEpoch (i.digest C)
  match resolution with
  | none => return ⟨r, none⟩
  | some q => do
    checkResolutionBinding C q i
    checkResolutionProvider E q
    checkResolutionSource C q r
    return ⟨r, some q⟩

end Executor

/-! ## Calls -/

inductive Call (D : Type)
  | execute (executor : Executor D) (intent : Intent D) (request : StageRequest D)
  | recover (executor : Executor D) (intent : Executor.IntentRef D) (request : ObservationRequest D)
    (original : StageRequest D)

def program (C : Canon D) : Call D → Code D (Receipt D)
  | .execute E i request => Executor.execute C E i request
  | .recover E ref request original => Executor.recover C E ref request original

def Call.intentDigest (C : Canon D) : Call D → D
  | .execute _ i _ => i.digest C
  | .recover _ ref _ _ => ref.expected C

end AvoCorrelate.Graduation
