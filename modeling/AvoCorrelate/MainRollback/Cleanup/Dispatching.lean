import AvoCorrelate.MainRollback.Cleanup.JournalLogic
import AvoCorrelate.MainRollback.Cleanup.Provider
/-!
# The ref is deleted once

Only the call that links the dispatch owner of a cleanup intent deletes the ref, and
a dispatch owner is linked once. A recovery has found one before it could link it.
-/
open AvoLib

namespace AvoCorrelate.MainRollback.Cleanup

variable {D : Type} [DecidableEq D] {C : Canon D} {call : Call D} {h h' : Log D}

/-! ## The coordinator's rules -/

/-- The ref was not deleted yet. -/
def Untouched (h : Log D) : Prop := ∀ e ∈ h, deletes e = false

namespace Coordinator

variable {F : Files NoFile} {α : Type}

omit [DecidableEq D] in
theorem untouched {p : Code D α} {Q : Log D → Except Exc α → Prop} (hn : Untouched h) (hp : p.Safe F (rules C call) Q h)
    (hd : p.Does Spares) : p.Safe F (rules C call) (fun h' x => Untouched h' ∧ Q h' x) h := by
  refine hp.keeps hd (fun h' e hh he => ?_) hn
  refine List.forall_mem_cons.mpr ⟨?_, hh⟩
  cases e with
  | read k r => rfl
  | publish k v r => rfl
  | port p r =>
    cases p with
    | cleanupRollback i => cases he
    | _ => rfl

omit [DecidableEq D] in
theorem looks_now : (now : Code D Instant).Does Looks := by
  refine ⟨trivial, fun r => ?_⟩
  cases r <;> trivial

omit [DecidableEq D] in
theorem looks_verifyNamed {x : Shown D} : (verifyNamed x).Does Looks := by
  refine ⟨trivial, fun r => ?_⟩
  cases r <;> trivial

variable {operationId : D} {i : CleanupIntent D} {r : CleanupReceipt D} {result : ResultReceipt D} {a : Authority D}
  {config : Config D} {number : Nat} {url : String}

theorem spares_claim : (claim C operationId i).Does Spares := by
  refine (Journal.looks_readDispatchOwner.mono fun _ ha => ha.spares).bind fun owner => ?_
  cases owner with
  | some m => trivial
  | none => exact (looks_now.mono fun _ ha => ha.spares).bind fun _ => Journal.spares_claimDispatch

theorem claim_safe : (claim C operationId i).Safe F (rules C call)
      (Prog.Returning fun h' won => won = true → ∃ m h₁, (.port (.linkOwner m) .created :: h₁) <:+ h' ∧
        m.operationId = operationId ∧ m.intentDigest = i.digest C ∧ h <:+ h₁) h := by
  refine (Journal.looks_readDispatchOwner.safe permits_looks).suffix.bind (fun h₁ owner hs₁ => ?_) fun _ _ _ => trivial
  cases owner with
  | some m => exact fun hw => nomatch hw
  | none =>
    refine (looks_now.safe permits_looks).suffix.bind (fun h₂ recordedAt hs₂ => ?_) fun _ _ _ => trivial
    refine Journal.claimDispatch_safe.mono fun h₃ x hx => ?_
    cases x with
    | error e => trivial
    | ok won =>
      intro hw
      obtain ⟨m, h₄, hs, hop, hd, hs₄⟩ := hx hw
      exact ⟨m, h₄, hs, hop, hd, (hs₁.1.trans hs₂.1).trans hs₄⟩

theorem delete_safe (hk : Kept h .intent i) (hc : Claimed C call h i) (hn : Untouched h) :
    (delete C i).Safe F (rules C call) (fun _ _ => True) h := by
  refine ⟨⟨hk, hc, hn⟩, fun r => ?_⟩
  cases r with
  | untyped => trivial
  | raised m => trivial
  | returned r => exact Journal.record_safe.bind (fun _ _ _ => trivial) fun _ _ _ => trivial

omit [DecidableEq D] in
theorem observe_safe {p : CleanupObservation D → Code D α}
    (hp : ∀ o h', (p o).Safe F (rules C call) (fun _ _ => True) h') :
    (ask (.reconcileRollbackCleanup i r) (canonical "MainRollbackCleanupObservation") >>= p).Safe F (rules C call)
      (fun _ _ => True) h := by
  refine ⟨rules_of_looks trivial, fun o => ?_⟩
  cases o with
  | untyped => trivial
  | raised m => trivial
  | returned o => exact hp o _

theorem reconcile_safe : (reconcile C operationId i).Safe F (rules C call) (fun _ _ => True) h := by
  refine (Journal.looks_readReceipt.safe permits_looks).bind (fun h₁ prior _ => ?_) fun _ _ _ => trivial
  have hobserve : ∀ r h', (ask (.reconcileRollbackCleanup i r) (canonical "MainRollbackCleanupObservation") >>= fun o => do
      Journal.record C .observation o
      return r).Safe F (rules C call) (fun _ _ => True) h' := fun r h' =>
    observe_safe fun o h' => Journal.record_safe.bind (fun _ _ _ => trivial) fun _ _ _ => trivial
  cases prior with
  | some r => exact hobserve r h₁
  | none =>
    refine Prog.Safe.bind (Q := fun _ _ => True) ?_ (fun h₂ r _ => hobserve r h₂) fun _ _ _ => trivial
    refine (looks_now.safe permits_looks).bind (fun h₃ observedAt _ => ?_) fun _ _ _ => trivial
    exact Journal.record_safe.bind (fun _ _ _ => trivial) fun _ _ _ => trivial

/-- What a call knows before it may delete the ref. -/
structure Ready (C : Canon D) (call : Call D) (operationId : D) (i : CleanupIntent D) (h : Log D) : Prop where
  kept : Kept h .intent i
  operation : i.operationId = operationId
  untouched : Untouched h
  found : call.recovers = true → ∃ m, .port (.loadOwner (i.digest C)) (.found m) ∈ h

theorem dispatch_safe (hr : Ready C call operationId i h) :
    (dispatch C operationId i).Safe F (rules C call) (fun _ _ => True) h := by
  refine (untouched hr.untouched (Journal.looks_readReceipt.safe permits_looks)
    (Journal.looks_readReceipt.mono fun _ ha => ha.spares)).suffix.bind (fun h₁ prior hx => ?_) fun _ _ _ => trivial
  obtain ⟨hs₁, hn₁, _⟩ := hx
  cases prior with
  | some r => trivial
  | none =>
    refine (untouched hn₁ claim_safe spares_claim).suffix.bind (fun h₂ claimed hy => ?_) fun _ _ _ => trivial
    obtain ⟨hs₂, hn₂, hclaimed⟩ := hy
    cases claimed with
    | false => exact reconcile_safe
    | true =>
      obtain ⟨m, h₃, hs, hop, hd, hs₃⟩ := hclaimed rfl
      refine delete_safe (hr.kept.suffix (hs₁.trans hs₂)) ⟨m, h₃, hs, hop.trans hr.operation.symm, hd, fun hrec => ?_⟩ hn₂
      obtain ⟨m', hm'⟩ := hr.found hrec
      exact ⟨m', (hs₁.trans hs₃).mem hm'⟩

theorem observeAgain_safe : (observeAgain C i r : Code D α).Safe F (rules C call) (fun _ _ => True) h := by
  refine ⟨rules_of_looks trivial, fun o => ?_⟩
  cases o with
  | untyped => trivial
  | raised m => trivial
  | returned o => exact Journal.record_safe.bind (fun _ _ _ => trivial) fun _ _ _ => trivial

theorem conclude_safe {o : Option (CleanupObservation D)} :
    (conclude C operationId i r o).Safe F (rules C call) (fun _ _ => True) h := by
  refine (Journal.looks_readTerminal.safe permits_looks).bind (fun h₁ prior _ => ?_) fun _ _ _ => trivial
  cases prior with
  | some e => trivial
  | none =>
    refine (looks_now.safe permits_looks).bind (fun h₂ observedAt _ => ?_) fun _ _ _ => trivial
    exact Journal.record_safe.bind (fun _ _ _ => trivial) fun _ _ _ => trivial

theorem settle_safe : (settle C operationId result i r).Safe F (rules C call) (fun _ _ => True) h := by
  refine (looks_verifyNamed.safe permits_looks).bind (fun h₁ _ _ => ?_) fun _ _ _ => trivial
  refine (Journal.looks_readObservation.safe permits_looks).bind (fun h₂ observation _ => ?_) fun _ _ _ => trivial
  cases observation with
  | none =>
    dsimp only
    split
    · exact observeAgain_safe
    · exact conclude_safe
  | some o =>
    refine (looks_verifyNamed.safe permits_looks).bind (fun h₃ _ _ => ?_) fun _ _ _ => trivial
    split
    · trivial
    · exact conclude_safe

theorem cleanup_safe (hr : Ready C call operationId i h) :
    (cleanup C operationId result i).Safe F (rules C call) (fun _ _ => True) h :=
  (dispatch_safe hr).bind (fun _ _ _ => settle_safe) fun _ _ _ => trivial

theorem looks_requireAncestry : (requireAncestry a).Does Looks := by
  have hread : ∀ (x : Ancestor) (kind : String) (key : D), (readAncestor x kind key : Code D _).Does Looks :=
    fun _ _ _ => ⟨trivial, fun _ => Journal.looks_readOther⟩
  refine (hread _ _ _).bind fun _ => (hread _ _ _).bind fun _ => Journal.looks_readAuthorization.bind fun _ => ?_
  refine Journal.looks_readRollbackIntent.bind fun _ => (hread _ _ _).bind fun _ => (hread _ _ _).bind fun _ => ?_
  refine Prog.Does.require.bind fun _ => Prog.Does.require.bind fun _ => Prog.Does.require.bind fun _ => ?_
  exact Prog.Does.require.bind fun _ => Prog.Does.require.bind fun _ => Prog.Does.require

theorem recoverCleanup_safe (hn : Untouched h) :
    (recoverCleanup C a result i).Safe F (rules C call) (fun _ _ => True) h := by
  refine Prog.Safe.require_bind (fun hb => ?_) trivial
  refine (untouched hn (Journal.read_safe fun _ => Journal.looks_requireIntent)
    (Journal.looks_readIntent.mono fun _ ha => ha.spares)).bind (fun h₁ intent hx => ?_) fun _ _ _ => trivial
  obtain ⟨hn₁, hintent⟩ := hx
  refine Prog.Safe.require_bind (fun hi => ?_) trivial
  refine (untouched hn₁ (Journal.looks_readResult.safe permits_looks)
    (Journal.looks_readResult.mono fun _ ha => ha.spares)).suffix.bind (fun h₂ durable hy => ?_) fun _ _ _ => trivial
  obtain ⟨hs₂, hn₂, _⟩ := hy
  refine Prog.Safe.require_bind (fun _ => ?_) trivial
  refine (untouched hn₂ (looks_requireAncestry.safe permits_looks)
    (looks_requireAncestry.mono fun _ ha => ha.spares)).suffix.bind (fun h₃ _ hz => ?_) fun _ _ _ => trivial
  obtain ⟨hs₃, hn₃, _⟩ := hz
  refine (untouched hn₃ Journal.readDispatchOwner_safe
    (Journal.looks_readDispatchOwner.mono fun _ ha => ha.spares)).suffix.bind (fun h₄ owner hw => ?_) fun _ _ _ => trivial
  obtain ⟨hs₄, hn₄, howner⟩ := hw
  refine Prog.Safe.require_bind (fun hsome => ?_) trivial
  obtain ⟨m, hm⟩ := Option.isSome_iff_exists.mp hsome
  have hkept : Kept h₁ .intent i := .inl (by
    obtain ⟨hl, hop⟩ := hintent i hi
    change Loaded h₁ .intent i.operationId i
    rw [hb.2.1]
    exact hl)
  refine (cleanup_safe ⟨hkept.suffix ((hs₂.trans hs₃).trans hs₄), hb.2.1, hn₄, fun _ => ⟨m, howner m hm⟩⟩).bind
    (fun _ _ _ => trivial) fun _ _ _ => trivial

theorem looks_cleanupIntent : (cleanupIntent C config a result number url).Does Looks := by
  refine Prog.Does.ofOption.bind fun cleanup => Prog.Does.ofOption.bind fun observer => ?_
  refine Journal.looks_readIntent.bind fun existing => Prog.Does.bind ?_ fun recordedAt => ?_
  · cases existing with
    | none => exact looks_now
    | some i => trivial
  · split
    · exact Prog.Does.require.bind fun _ => Prog.Does.require.bind fun _ => trivial
    · trivial

theorem cleanupIntent_safe : (cleanupIntent C config a result number url).Safe F (rules C call)
      (Prog.Returning fun _ i => i.operationId = a.operationId) h := by
  refine Prog.Safe.ofOption_bind (fun cleanup _ => Prog.Safe.ofOption_bind (fun observer _ => ?_) trivial) trivial
  refine (Journal.looks_readIntent.safe permits_looks).bind (fun h₁ existing _ => ?_) fun _ _ _ => trivial
  refine Prog.Safe.bind (Q := fun _ _ => True) ?_ (fun h₂ recordedAt _ => ?_) fun _ _ _ => trivial
  · cases existing with
    | none => exact looks_now.safe permits_looks
    | some i => trivial
  · split
    · exact Prog.Safe.require_bind (fun _ => Prog.Safe.require_bind (fun _ => rfl) trivial) trivial
    · trivial

theorem closeRollback_safe (hn : Untouched h) (hcall : call.recovers = false) :
    (closeRollback C config a result number url).Safe F (rules C call) (fun _ _ => True) h := by
  have hresult : (rollbackResult C a result).Safe F (rules C call) (fun _ _ => True) h :=
    (looks_verifyNamed.safe permits_looks).bind (fun _ _ _ => Journal.record_safe.mono fun _ _ _ => trivial) fun _ _ _ => trivial
  refine (untouched hn hresult ((looks_verifyNamed.mono fun _ ha => ha.spares).bind fun _ => Journal.spares_record)).bind
    (fun h₁ _ hx => ?_) fun _ _ _ => trivial
  have hpost : (ask (.postState result) orRaise : Code D Unit).Does Looks := by
    refine ⟨trivial, fun r => ?_⟩
    cases r <;> trivial
  refine (untouched hx.1 (hpost.safe permits_looks) (hpost.mono fun _ ha => ha.spares)).bind
    (fun h₂ _ hy => ?_) fun _ _ _ => trivial
  refine (untouched hy.1 cleanupIntent_safe (looks_cleanupIntent.mono fun _ ha => ha.spares)).bind
    (fun h₃ i hz => ?_) fun _ _ _ => trivial
  refine (untouched hz.1 Journal.record_safe Journal.spares_record).bind (fun h₄ _ hw => ?_) fun _ _ _ => trivial
  have hready : Ready C call a.operationId i h₄ := ⟨hw.2, hz.2, hw.1, fun hrec => by rw [hcall] at hrec; cases hrec⟩
  refine (cleanup_safe hready).bind (fun h₅ cleaned _ => ?_) fun _ _ _ => trivial
  obtain ⟨r, o, e⟩ := cleaned
  cases e with
  | none => trivial
  | some e =>
    refine ⟨rules_of_looks trivial, fun x => ?_⟩
    cases x <;> trivial

theorem execute_safe {sourceOperationId : D} (hn : Untouched h) (hcall : call.recovers = false) :
    (execute C config sourceOperationId).Safe F (rules C call) (fun _ _ => True) h := by
  have hscoped : (executeScoped C config sourceOperationId).Safe F (rules C call) (fun _ _ => True) h := by
    refine ⟨rules_of_looks trivial, fun earlier => ?_⟩
    cases earlier with
    | error e => trivial
    | ok earlier =>
      cases earlier with
      | ended outcome => trivial
      | released a result number url => exact closeRollback_safe (List.forall_mem_cons.mpr ⟨rfl, hn⟩) hcall
  refine hscoped.attempt_bind fun h₁ x _ => ?_
  cases x with
  | ok outcome => trivial
  | error e =>
    dsimp only
    split <;> trivial

end Coordinator

theorem program_safe {F : Files NoFile} (call : Call D) : (program C call).Safe F (rules C call) (fun _ _ => True) [] := by
  cases call with
  | execute config sourceOperationId => exact Coordinator.execute_safe (fun e he => nomatch he) rfl
  | recover a result i => exact Coordinator.recoverCleanup_safe fun e he => nomatch he

/-! ## The journal keeps what it holds -/

section Keeping
variable {s s' : Store D}

/-- The record is in its index. -/
def Store.Holds (s : Store D) (k : Kind) (operationId : D) (r : Rec D k) : Prop := s.index k operationId = some r

/-- Every record is its operation's, and the records it names are in the journal. -/
structure Coherent (C : Canon D) (s : Store D) : Prop where
  keyed : ∀ {k operationId r}, s.index k operationId = some r → Rec.operationId r = operationId
  rests : ∀ {k operationId r}, s.index k operationId = some r → Rests C s.Holds k r
  owned : ∀ {d m}, s.owner d = some m → m.intentDigest = d ∧ OwnerRests C s.Holds m

def tells : (p : Port D) → p.Answer → Store D → Prop
  | .load k operationId, .found r, s => s.index k operationId = some r
  | .link k r, .created, s => s.index k (Rec.operationId r) = some r
  | .loadOwner d, .found m, s => s.owner d = some m
  | .linkOwner m, .created, s => s.owner m.intentDigest = some m
  | _, _, _ => True

/-- Later the journal holds what it held. -/
structure Store.Grows (s s' : Store D) : Prop where
  index : ∀ {k operationId r}, s.index k operationId = some r → s'.index k operationId = some r
  owner : ∀ {d m}, s.owner d = some m → s'.owner d = some m

theorem holds_of_loaded (ht : Told tells s h) (k : Kind) (operationId : D) (r : Rec D k) (hl : Loaded h k operationId r) :
    s.Holds k operationId r := ht _ _ hl

variable {k : Kind} {r : Rec D k} {m : DispatchOwner D}

theorem Kept.durable (hk : Kept h k r) (ht : Told tells s h) : s.index k (Rec.operationId r) = some r := by
  rcases hk with hk | hk
  · exact ht _ _ hk
  · exact ht _ _ hk

theorem Store.Grows.tells (hg : s.Grows s') (p : Port D) (r : p.Answer) (h : Cleanup.tells p r s) : Cleanup.tells p r s' := by
  cases p with
  | load k operationId =>
    cases r with
    | found v => exact hg.index h
    | missing => trivial
    | malformed => trivial
  | link k v =>
    cases r with
    | created => exact hg.index h
    | taken => trivial
    | failed => trivial
    | lost => trivial
  | loadOwner d =>
    cases r with
    | found m => exact hg.owner h
    | missing => trivial
    | malformed => trivial
  | linkOwner m =>
    cases r with
    | created => exact hg.owner h
    | taken => trivial
    | failed => trivial
    | lost => trivial
  | _ => trivial

theorem Store.index_setIndex {k' : Kind} {r' : Rec D k'} {operationId : D} :
    (s.setIndex k r).index k' operationId = some r' ↔
      (∃ h : k' = k, operationId = Rec.operationId r ∧ h ▸ r' = r) ∨
      (¬ (k' = k ∧ operationId = Rec.operationId r) ∧ s.index k' operationId = some r') := by
  by_cases hk : k' = k
  · subst hk
    by_cases hop : operationId = Rec.operationId r
    · subst hop
      simp [Store.setIndex, eq_comm]
    · simp [Store.setIndex, hop]
  · simp [Store.setIndex, hk]

theorem Store.owner_setOwner {d : D} : (s.setOwner m).owner d = if m.intentDigest = d then some m else s.owner d := by
  by_cases hd : m.intentDigest = d
  · rw [if_pos hd]
    exact List.find?_cons_of_pos (by simpa using hd)
  · rw [if_neg hd]
    exact List.find?_cons_of_neg (by simpa using hd)

theorem Store.grows_setIndex (h : s.index k (Rec.operationId r) = none) : s.Grows (s.setIndex k r) := by
  refine ⟨fun {k' operationId r'} hr => Store.index_setIndex.mpr (.inr ⟨?_, hr⟩), fun hm => hm⟩
  rintro ⟨rfl, rfl⟩
  rw [hr] at h
  cases h

theorem Store.grows_setOwner (h : s.owner m.intentDigest = none) : s.Grows (s.setOwner m) := by
  refine ⟨fun hr => hr, fun {d m'} hm => ?_⟩
  rw [Store.owner_setOwner]
  split
  · next hd =>
    rw [← hd, h] at hm
    cases hm
  · exact hm

theorem Coherent.setIndex (hs : Coherent C s) (h : s.index k (Rec.operationId r) = none) (hr : Rests C s.Holds k r) :
    Coherent C (s.setIndex k r) := by
  have hg := Store.grows_setIndex h
  have hgrows : ∀ k' operationId r', s.Holds k' operationId r' → (s.setIndex k r).Holds k' operationId r' := fun _ _ _ => hg.index
  constructor
  · intro k' operationId r' hr'
    rcases Store.index_setIndex.mp hr' with ⟨rfl, rfl, rfl⟩ | ⟨_, hr'⟩
    · rfl
    · exact hs.keyed hr'
  · intro k' operationId r' hr'
    rcases Store.index_setIndex.mp hr' with ⟨rfl, rfl, rfl⟩ | ⟨_, hr'⟩
    · exact hr.mono hgrows
    · exact (hs.rests hr').mono hgrows
  · intro d m hm
    obtain ⟨hd, hrests⟩ := hs.owned hm
    exact ⟨hd, hrests.mono hgrows⟩

theorem Coherent.setOwner (hs : Coherent C s) (hm : OwnerRests C s.Holds m) : Coherent C (s.setOwner m) := by
  refine ⟨hs.keyed, hs.rests, fun {d m'} hm' => ?_⟩
  rw [Store.owner_setOwner] at hm'
  split at hm'
  · next hd =>
    cases hm'
    exact ⟨hd, hm⟩
  · exact hs.owned hm'

omit [DecidableEq D] in
theorem linked_cases {α : Type} {s₁ s' : Store D} {r : Published} {old : Option α} (h : linked s s₁ r old = some s') :
    (s' = s ∧ r ≠ .created) ∨ (s' = s₁ ∧ old = none) := by
  unfold linked at h
  split at h
  · cases h; exact .inr ⟨rfl, rfl⟩
  · cases h; exact .inr ⟨rfl, rfl⟩
  · cases h; exact .inl ⟨rfl, fun h => nomatch h⟩
  · cases h; exact .inl ⟨rfl, fun h => nomatch h⟩
  · cases h

theorem journal_keeps {p : Port D} {r : p.Answer} (hs : Coherent C s) (ht : Told tells s h) (hr : rules C call h (.port p))
    (he : journal p r s = some s') : Coherent C s' ∧ tells p r s' ∧ s.Grows s' := by
  have hrefl : s.Grows s := ⟨fun h => h, fun h => h⟩
  cases p with
  | load k operationId =>
    simp only [journal] at he
    split at he
    · next hc =>
      cases he
      refine ⟨hs, ?_, hrefl⟩
      rcases hc with rfl | rfl
      · trivial
      · cases hi : s.index k operationId with
        | none => trivial
        | some v => exact hi
    · cases he
  | link k record =>
    have hrests : Rests C s.Holds k record := Rests.mono hr (holds_of_loaded ht)
    rcases linked_cases he with ⟨rfl, hne⟩ | ⟨rfl, hn⟩
    · refine ⟨hs, ?_, hrefl⟩
      cases r with
      | created => exact absurd rfl hne
      | _ => trivial
    · refine ⟨hs.setIndex hn hrests, ?_, Store.grows_setIndex hn⟩
      cases r with
      | created => exact Store.index_setIndex.mpr (.inl ⟨rfl, rfl, rfl⟩)
      | _ => trivial
  | loadOwner d =>
    simp only [journal] at he
    split at he
    · next hc =>
      cases he
      refine ⟨hs, ?_, hrefl⟩
      rcases hc with rfl | rfl
      · trivial
      · cases hi : s.owner d with
        | none => trivial
        | some m => exact hi
    · cases he
  | linkOwner m =>
    have hrests : OwnerRests C s.Holds m := OwnerRests.mono hr (holds_of_loaded ht)
    rcases linked_cases he with ⟨rfl, hne⟩ | ⟨rfl, hn⟩
    · refine ⟨hs, ?_, hrefl⟩
      cases r with
      | created => exact absurd rfl hne
      | _ => trivial
    · refine ⟨hs.setOwner hrests, ?_, Store.grows_setOwner hn⟩
      cases r with
      | created => exact Store.owner_setOwner.trans (if_pos rfl)
      | _ => trivial
  | _ => cases he; exact ⟨hs, trivial, hrefl⟩

def standing (C : Canon D) : Standing journal (rules C) where
  holds := Coherent C
  tells := tells
  keeps hs ht hr he := by
    obtain ⟨hc, htell, hg⟩ := journal_keeps hs ht hr he
    exact ⟨hc, htell, hg.tells⟩

theorem coherent_empty : Coherent C Store.empty :=
  ⟨fun h => (nomatch h), fun h => (nomatch h), fun h => (nomatch h)⟩

/-- Dispatch owners are linked once for an intent. -/
def ownerNames : Names (journal (D := D)) D where
  name
    | .linkOwner m, .created => some m.intentDigest
    | _, _ => none
  issued s := s.owners.map DispatchOwner.intentDigest
  fresh := by
    intro p r s s' x he hn
    cases p with
    | linkOwner m =>
      cases r with
      | created =>
        cases hn
        rcases linked_cases he with ⟨_, hne⟩ | ⟨rfl, hn⟩
        · exact absurd rfl hne
        · refine ⟨fun hx => ?_, List.mem_cons_self⟩
          obtain ⟨m', hm', hd⟩ := List.mem_map.mp hx
          simpa [hd] using List.find?_eq_none.mp hn m' hm'
      | _ => cases hn
    | _ => cases hn
  kept := by
    intro p r s s' x he hx
    cases p with
    | load k operationId =>
      simp only [journal] at he
      split at he
      · cases he; exact hx
      · cases he
    | loadOwner d =>
      simp only [journal] at he
      split at he
      · cases he; exact hx
      · cases he
    | link k record =>
      rcases linked_cases he with ⟨rfl, _⟩ | ⟨rfl, _⟩
      · exact hx
      · exact hx
    | linkOwner m =>
      rcases linked_cases he with ⟨rfl, _⟩ | ⟨rfl, _⟩
      · exact hx
      · exact List.mem_cons_of_mem _ hx
    | _ => cases he; exact hx

end Keeping

/-! ## Who deletes -/

/-- Coordinators at work on one journal. -/
abbrev Coordinators (D : Type) := Served (Call D) NoFile (Port.Answer (D := D)) Exc (Outcome D) (Store D)

abbrev CoordinatorThread (D : Type) := Thread (Call D) NoFile (Port.Answer (D := D)) Exc (Outcome D)

/-- No coordinator was called yet. -/
def Coordinators.idle (s : Store D) : Coordinators D := Served.idle (fun k => nomatch k) s

/-- The state is reached by calls of coordinators in any order, with crashes and I/O
errors anywhere, and any answers of what they call. -/
abbrev Runs (C : Canon D) (w : Coordinators D) : Prop :=
  Reaches (serve journal (program C)) (fun _ _ => True) (Coordinators.idle Store.empty) w

def deletesOf (C : Canon D) (intentDigest : D) : Event NoFile (Port.Answer (D := D)) → Bool
  | .port (.cleanupRollback i) _ => i.digest C = intentDigest
  | _ => false

/-- How often the ref was deleted for the intent. -/
def deletions (C : Canon D) (w : Coordinators D) (intentDigest : D) : Nat :=
  (w.config.threads.map fun t => t.log.countP (deletesOf C intentDigest)).sum

theorem deletesOf_iff {d : D} {e : Event NoFile (Port.Answer (D := D))} :
    deletesOf C d e = true ↔ ∃ i r, e = .port (.cleanupRollback i) r ∧ i.digest C = d := by
  constructor
  · intro h
    cases e with
    | read k r => cases h
    | publish k v r => cases h
    | port p r =>
      cases p with
      | cleanupRollback i => exact ⟨i, r, rfl, of_decide_eq_true h⟩
      | _ => cases h
  · rintro ⟨i, r, rfl, hd⟩
    exact decide_eq_true hd

section Deleting
variable {w : Coordinators D} {i : Nat} {t : CoordinatorThread D} {d : D}

theorem Claimed.drew {t : CoordinatorThread D} {i : CleanupIntent D} (hc : Claimed C call h i) (hs : h <:+ t.log) :
    ownerNames.Drew t (i.digest C) := by
  obtain ⟨m, h₁, hm, _, hd, _⟩ := hc
  refine ⟨_, _, (hm.trans hs).mem List.mem_cons_self, ?_⟩
  exact congrArg some hd

theorem not_claimed_of_recovers (hw : Runs C w) (ht : w.config.threads[i]? = some t) (hrec : t.call.recovers = true)
    {intent : CleanupIntent D} : ¬ Claimed C t.call t.log intent := by
  rintro ⟨m, h₁, hm, _, hd, hfound⟩
  obtain ⟨m', hm'⟩ := hfound hrec
  obtain ⟨s₁, s₂, _, htold, hlink⟩ := (standing C).answered (Q := fun _ _ _ => True) (fun call _ => program_safe call)
    coherent_empty hw ht hm
  have howner : s₁.owner m.intentDigest = some m' := by rw [hd]; exact htold _ _ hm'
  rcases linked_cases hlink with ⟨_, hne⟩ | ⟨_, hn⟩
  · exact hne rfl
  · rw [howner] at hn
    cases hn

abbrev Stands (C : Canon D) (w : Coordinators D) : Prop := (standing C).Stands (fun _ _ _ => True) w

theorem stands_of_runs (hw : Runs C w) : Stands C w :=
  (standing C).stands (fun call _ => program_safe call) coherent_empty hw

theorem deletes_of_deletesOf {e : Event NoFile (Port.Answer (D := D))} (he : deletesOf C d e = true) : deletes e = true := by
  obtain ⟨i, r, rfl, _⟩ := deletesOf_iff.mp he
  rfl

theorem ruled_of_deletes (hw : Stands C w) (ht : w.config.threads[i]? = some t) {intent : CleanupIntent D}
    {r : Reply (CleanupReceipt D)} (he : .port (.cleanupRollback intent) r ∈ t.log) :
    ∃ h, h <:+ t.log ∧ Claimed C t.call h intent := by
  obtain ⟨h, hs, hrule⟩ := (hw.obeys ht).1.rule he
  exact ⟨h, hs, hrule.2.1⟩

theorem drew_of_deletes (hw : Stands C w) (ht : w.config.threads[i]? = some t) {e : Event NoFile (Port.Answer (D := D))}
    (he : e ∈ t.log) (hd : deletesOf C d e = true) : ownerNames.Drew t d := by
  obtain ⟨intent, r, rfl, rfl⟩ := deletesOf_iff.mp hd
  obtain ⟨h, hs, hc⟩ := ruled_of_deletes hw ht he
  exact hc.drew hs

theorem deletions_le_one (hw : Stands C w) (hd : ownerNames.Distinct w) : deletions C w d ≤ 1 := by
  refine sum_le_one (fun t ht => ?_) fun {i j t u} ht hu hpt hpu => ?_
  · obtain ⟨i, hi⟩ := List.getElem?_of_mem ht
    refine Nat.le_trans (List.countP_mono_left fun e _ he => deletes_of_deletesOf he) ((hw.obeys hi).1.countP_le_one
      fun h e he hrule => ?_)
    cases e with
    | read k r => cases he
    | publish k v r => cases he
    | port p r =>
      cases p with
      | cleanupRollback intent => exact hrule.2.2
      | _ => cases he
  · obtain ⟨e, he, hde⟩ := List.countP_pos_iff.mp hpt
    obtain ⟨e', he', hde'⟩ := List.countP_pos_iff.mp hpu
    exact hd.unique ht hu (drew_of_deletes hw ht he hde) (drew_of_deletes hw hu he' hde')

theorem deletions_eq_zero (hw : Stands C w) (hd : ownerNames.Distinct w) (ht : w.config.threads[i]? = some t)
    (hdrew : ownerNames.Drew t d) (hn : Untouched t.log) : deletions C w d = 0 := by
  refine List.sum_eq_zero_iff_forall_eq_nat.mpr fun n hm => ?_
  obtain ⟨u, hu, rfl⟩ := List.mem_map.mp hm
  obtain ⟨j, hj⟩ := List.getElem?_of_mem hu
  refine List.countP_eq_zero.mpr fun e he hde => ?_
  have hij : i = j := hd.unique ht hj hdrew (drew_of_deletes hw hj he hde)
  subst hij
  rw [ht] at hj
  cases hj
  have hfalse := hn e he
  rw [deletes_of_deletesOf hde] at hfalse
  cases hfalse

end Deleting

/-- Over any run the ref is deleted at most once for a cleanup intent. A call about to
delete it is the first; the intent, the successful result that it names and the dispatch
owner are durable. A recovery neither deleted it nor is about to. -/
theorem deleted_at_most_once {w : Coordinators D} (hw : Runs C w) :
    (∀ intentDigest, deletions C w intentDigest ≤ 1) ∧
    (∀ (i : Nat) (t : CoordinatorThread D) (intent : CleanupIntent D) (next : Reply (CleanupReceipt D) → Code D (Outcome D)),
      w.config.threads[i]? = some t → t.status = .running (.port (.cleanupRollback intent) next) →
      deletions C w (intent.digest C) = 0 ∧
      w.state.index .intent intent.operationId = some intent ∧
      (∃ result, w.state.index .result intent.operationId = some result ∧
        intent.resultReceiptDigest = result.receiptDigest ∧ result.outcome.success = true) ∧
      ∃ m, w.state.owner (intent.digest C) = some m ∧ m.intentDigest = intent.digest C ∧ m.operationId = intent.operationId) ∧
    ∀ (i : Nat) (t : CoordinatorThread D), w.config.threads[i]? = some t → t.call.recovers = true →
      (∀ e ∈ t.log, deletes e = false) ∧
      ∀ (intent : CleanupIntent D) (next : Reply (CleanupReceipt D) → Code D (Outcome D)),
        t.status ≠ .running (.port (.cleanupRollback intent) next) := by
  have hstands := stands_of_runs hw
  have hdistinct : ownerNames.Distinct w := hw.distinct
  refine ⟨fun _ => deletions_le_one hstands hdistinct, fun i t intent next ht hst => ?_, fun i t ht hrec => ⟨?_, ?_⟩⟩
  · have hsafe := (hstands.obeys ht).2
    rw [hst] at hsafe
    obtain ⟨⟨hkept, hclaimed, hn⟩, _⟩ := hsafe
    have hindex := hkept.durable (hstands.told ht)
    obtain ⟨_, result, _, _, hresult, hbound⟩ := hstands.holds.rests hindex
    have hdrew := hclaimed.drew (List.suffix_refl t.log)
    obtain ⟨m, h₁, hm, hop, hd, _⟩ := hclaimed
    refine ⟨deletions_eq_zero hstands hdistinct ht hdrew hn, hindex,
      ⟨result, hresult, hbound.1, hbound.2.2.2.2.2.2.2.1⟩, m, ?_, hd, hop⟩
    rw [← hd]
    exact hstands.told ht _ _ (hm.mem List.mem_cons_self)
  · intro e he
    cases hde : deletes e with
    | false => rfl
    | true =>
      cases e with
      | read k r => cases hde
      | publish k v r => cases hde
      | port p r =>
        cases p with
        | cleanupRollback intent =>
          obtain ⟨h, hs, m, h₁, hm, hrest⟩ := ruled_of_deletes hstands ht he
          exact absurd ⟨m, h₁, hm.trans hs, hrest⟩ (not_claimed_of_recovers hw ht hrec)
        | _ => cases hde
  · intro intent next hst
    have hsafe := (hstands.obeys ht).2
    rw [hst] at hsafe
    exact not_claimed_of_recovers hw ht hrec hsafe.1.2.1

namespace Sample

/-- One rollback, up to the return of the deletion. -/
def deleted : Option (Coordinators String) :=
  follow (program canon) (fun _ _ => true) [.start (.execute config "graduation"), .steps (oracle .applied true) 0 27]
    (Coordinators.idle Store.empty)

end Sample

theorem deleted_at_most_once_rollback :
    ∃ w : Coordinators String, Runs Sample.canon w ∧ deletions Sample.canon w (Sample.intent.digest Sample.canon) = 1 := by
  have hsome : Sample.deleted.isSome = true := by decide
  have hcount : (Sample.deleted.map fun w => decide (0 < deletions Sample.canon w (Sample.intent.digest Sample.canon))) =
      some true := by decide
  obtain ⟨w, hw⟩ := Option.isSome_iff_exists.mp hsome
  have hruns : Runs Sample.canon w := (follow_reaches hw).mono fun _ _ _ => trivial
  have hle := (deleted_at_most_once hruns).1 (Sample.intent.digest Sample.canon)
  rw [hw] at hcount
  have hpos : 0 < deletions Sample.canon w (Sample.intent.digest Sample.canon) := by simpa using hcount
  exact ⟨w, hruns, by omega⟩

end AvoCorrelate.MainRollback.Cleanup
