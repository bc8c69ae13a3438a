import AvoCorrelate.Graduation.Steps
/-!
# What the readers have found

Reading backwards: when a reader returned a record, the record was in the files, its
checks succeeded, and what they compare agrees. From this, the chain of a graduation
that rests on a fence of a target minds an empty slot of it.
-/
open AvoLib

namespace AvoCorrelate.Graduation

variable {D : Type} [DecidableEq D]

/-- From some time on the program returns this, in this world. -/
abbrev Yield {α : Type} (others : Nat → (p : Port D) → p.Answer) (files : Disc D) (s : Disk D) (p : Code D α) (x : α) : Prop :=
  p.Yields (timely others) Prod.fst files s x

section Chains
variable {others : Nat → (p : Port D) → p.Answer} {files : Disc D} {s : Disk D} {C : Canon D} {policyEpoch : Option D} {α β : Type}

variable {f : α → Code D β} {y : β} {e : Exc} {q : Port D} {x : α}

theorem yield_bind {p : Code D α} (hd : p.Does Still) (h : Yield others files s (p >>= f) y) :
    ∃ x, Yield others files s p x ∧ Yield others files s (f x) y := h.bind_inv hd idle_still

theorem played_bind {p : Code D α} {w w' : Disk D × Nat} {files' : Disc D} (hd : p.Does Still) (hw : w.1 = s)
    (h : (p >>= f).play (timely others) files w = ⟨.ok y, files', w'⟩) :
    ∃ x w₁, w₁.1 = s ∧ Yield others files s p x ∧ (f x).play (timely others) files w₁ = ⟨.ok y, files', w'⟩ :=
  hd.played_bind idle_still hw h

theorem yield_require {c : Prop} [Decidable c] {f : Unit → Code D β}
    (h : Yield others files s (Prog.require c e >>= f) y) : c ∧ Yield others files s (f ()) y := by
  obtain ⟨x, hx, h⟩ := yield_bind Prog.Does.require h
  exact ⟨hx.require_inv, h⟩

theorem yield_ofOption {o : Option α} (h : Yield others files s (Prog.ofOption o e >>= f) y) :
    ∃ x, o = some x ∧ Yield others files s (f x) y := by
  obtain ⟨x, hx, h⟩ := yield_bind Prog.Does.ofOption h
  exact ⟨x, hx.ofOption_inv, h⟩

theorem yield_lasting (hl : Lasting others) {next : q.Answer → Code D α} (hq : q.lasting = true)
    (h : Yield others files s (Prog.port q next) x) : Yield others files s (next (others 0 q)) x := by
  obtain ⟨w, -, h⟩ := h.port_inv fun w => idle_still.ports w q (by cases q <;> trivial)
  have hsame : (timely others).answer w q = others 0 q := by
    cases q <;> first | exact hl w.2 0 _ rfl | cases hq
  rwa [hsame] at h

theorem yield_orRaise {a : Answer α} (h : Yield others files s (Answer.orRaise a) x) : a = .returned x := by
  cases a with
  | raised message => exact (Prog.Yields.raise_inv h).elim
  | returned v => rw [Prog.Yields.done_inv h]

theorem yield_port (hl : Lasting others) {orRaise : q.Answer → Code D α} (hq : q.lasting = true)
    (hd : ∀ r, (orRaise r).Does Still) (h : Yield others files s (Prog.port q orRaise >>= f) y) :
    ∃ x, Yield others files s (orRaise (others 0 q)) x ∧ Yield others files s (f x) y := by
  obtain ⟨x, hx, h⟩ := yield_bind (still_port (by cases q <;> trivial) hd) h
  exact ⟨x, yield_lasting hl hq hx, h⟩

namespace Journal

section Readers
variable {readIntent : D → Code D (Option (Intent D))} {readReceipt : D → Code D (Option (Receipt D))}
  {readFence : D → Code D (Option (Fence D))} {d : D}

theorem yield_validateReceipt (hi : ∀ d, (readIntent d).Does Still) {r : Receipt D}
    (h : Yield others files s (validateReceipt readIntent r) ()) :
    ∃ i, Yield others files s (readIntent r.intentDigest) (some i) ∧ i.operationId = r.operationId ∧
      SameMutation i.toMutationBinding r.toMutationBinding := by
  obtain ⟨x, hx, h⟩ := yield_bind (hi _) h
  obtain ⟨i, rfl, h⟩ := yield_ofOption h
  obtain ⟨hop, h⟩ := yield_require h
  obtain ⟨_, _, h⟩ := yield_bind (still_assertStageIdentity i) h
  exact ⟨i, hx, hop, Prog.Yields.require_inv h⟩

theorem yield_readReceipt (hi : ∀ d, (readIntent d).Does Still) {r : Receipt D}
    (h : Yield others files s (readReceiptWith C readIntent d) (some r)) :
    r.digest C = d ∧ ∃ i, Yield others files s (readIntent r.intentDigest) (some i) ∧ i.operationId = r.operationId ∧
      SameMutation i.toMutationBinding r.toMutationBinding := by
  have h := Prog.Yields.read_inv h
  cases hfile : files (.receipt d) with
  | absent => rw [hfile] at h; cases Prog.Yields.done_inv h
  | torn => rw [hfile] at h; exact (Prog.Yields.raise_inv h).elim
  | bound r' =>
    rw [hfile] at h
    obtain ⟨hd, h⟩ := yield_require h
    obtain ⟨⟨⟩, hv, h⟩ := yield_bind (still_validateReceipt hi r') h
    obtain ⟨_, _, h⟩ := yield_bind (still_assertReceiptIdentity r') h
    obtain ⟨i', -, h⟩ := yield_bind (still_sourceIntent hi r') h
    obtain ⟨_, _, h⟩ := yield_bind (still_verifyMutationReceipt r' i') h
    cases Prog.Yields.done_inv h
    exact ⟨hd, yield_validateReceipt hi hv⟩

theorem yield_readFence (hr : ∀ d, (readReceipt d).Does Still) {f : Fence D}
    (h : Yield others files s (readFenceWith C readReceipt d) (some f)) :
    (∃ r, Yield others files s (readReceipt f.sourceReceiptDigest) (some r) ∧ SameFenced C r f) ∧
      Yield others files s (assertTargetFence C f) () := by
  have h := Prog.Yields.read_inv h
  cases hfile : files (.fence d) with
  | absent => rw [hfile] at h; cases Prog.Yields.done_inv h
  | torn => rw [hfile] at h; exact (Prog.Yields.raise_inv h).elim
  | bound f' =>
    rw [hfile] at h
    obtain ⟨-, h⟩ := yield_require h
    obtain ⟨_, hv, h⟩ := yield_bind (still_validateFence hr f') h
    obtain ⟨⟨⟩, ht, h⟩ := yield_bind (still_assertTargetFence f') h
    cases Prog.Yields.done_inv h
    obtain ⟨x, hx, hv⟩ := yield_bind (hr _) hv
    obtain ⟨r, rfl, hv⟩ := yield_ofOption hv
    obtain ⟨-, hv⟩ := yield_require hv
    exact ⟨⟨r, hx, Prog.Yields.require_inv hv⟩, ht⟩

theorem yield_readResolution (hf : ∀ d, (readFence d).Does Still) (hr : ∀ d, (readReceipt d).Does Still) {q : Resolution D}
    (h : Yield others files s (readResolutionWith C readFence readReceipt d) (some q)) :
    ∃ f, Yield others files s (readFence q.fenceDigest) (some f) ∧ SameResolved q f := by
  have h := Prog.Yields.read_inv h
  cases hfile : files (.resolution d) with
  | absent => rw [hfile] at h; cases Prog.Yields.done_inv h
  | torn => rw [hfile] at h; exact (Prog.Yields.raise_inv h).elim
  | bound q' =>
    rw [hfile] at h
    obtain ⟨-, h⟩ := yield_require h
    obtain ⟨_, hv, h⟩ := yield_bind (still_validateResolution hf hr q') h
    obtain ⟨_, _, h⟩ := yield_bind (still_assertResolutionIdentity q') h
    obtain ⟨r, -, h⟩ := yield_bind (still_sourceReceipt hr q') h
    obtain ⟨_, _, h⟩ := yield_bind (still_verifyFenceAuthority q' r) h
    cases Prog.Yields.done_inv h
    obtain ⟨x, hx, hv⟩ := yield_bind (hf _) hv
    obtain ⟨f, rfl, hv⟩ := yield_ofOption hv
    exact ⟨f, hx, (yield_require hv).1⟩

variable {R : Readers D}

theorem yield_readIntent (hs : R.Still) {i : Intent D} (h : Yield others files s (readIntentWith C policyEpoch R d) (some i)) :
    files (.intent d) = .bound i ∧ i.digest C = d ∧ Yield others files s (validateIntent C policyEpoch R i) () := by
  have h := Prog.Yields.read_inv h
  cases hfile : files (.intent d) with
  | absent => rw [hfile] at h; cases Prog.Yields.done_inv h
  | torn => rw [hfile] at h; exact (Prog.Yields.raise_inv h).elim
  | bound i' =>
    rw [hfile] at h
    obtain ⟨hd, h⟩ := yield_require h
    obtain ⟨⟨⟩, hv, h⟩ := yield_bind (still_validateIntent hs i') h
    obtain ⟨_, _, h⟩ := yield_bind (still_assertStageIdentity i') h
    cases Prog.Yields.done_inv h
    exact ⟨rfl, hd, hv⟩

theorem yield_requireParent (hs : R.Still) {i : Intent D} (h : Yield others files s (requireParent C R i) ()) :
    (∀ p, parentReceipt i = some p → Yield others files s (requireParentReceipt C R i p) ()) ∧
      ∀ q, i.parentResolutionDigest = some q → Yield others files s (verifyParentResolution R i q) () := by
  unfold requireParent at h
  obtain ⟨⟨⟩, hr, h⟩ := yield_bind (by split <;> [exact still_requireParentReceipt hs i _; trivial]) h
  constructor
  · intro p hp
    rwa [hp] at hr
  · intro q hq
    rwa [hq] at h

theorem yield_requireParentReceipt (hs : R.Still) {i : Intent D} {p : Receipt D}
    (h : Yield others files s (requireParentReceipt C R i p) ()) :
    Yield others files s (R.receipt (p.digest C)) (some p) ∧
      ∃ d parent, i.parentIntentDigest = some d ∧ Yield others files s (R.intent d) (some parent) := by
  obtain ⟨x, hx, h₁⟩ := yield_bind (hs.receipt _) h
  obtain ⟨hsome, h₂⟩ := yield_require h₁
  refine ⟨hsome ▸ hx, ?_⟩
  cases hd : i.parentIntentDigest with
  | none =>
    rw [hd] at h₂
    obtain ⟨_, _, _, h₂⟩ := h₂
    cases h₂
  | some d =>
    rw [hd] at h₂
    obtain ⟨y, hy, h₃⟩ := yield_bind (hs.intent d) h₂
    obtain ⟨parent, rfl, _⟩ := yield_ofOption h₃
    exact ⟨d, parent, rfl, hy⟩

theorem yield_verifyParentResolution (hs : R.Still) {i : Intent D} (h : Yield others files s (verifyParentResolution R i d) ()) :
    ∃ q f, Yield others files s (R.resolution d) (some q) ∧ q.operationId = i.operationId ∧
      Yield others files s (R.fence q.fenceDigest) (some f) ∧ some f.intentDigest = i.parentIntentDigest := by
  obtain ⟨x, hx, h⟩ := yield_bind (hs.resolution _) h
  obtain ⟨q, rfl, h⟩ := yield_ofOption h
  obtain ⟨hq, h⟩ := yield_require h
  obtain ⟨y, hy, h⟩ := yield_bind (hs.fence _) h
  obtain ⟨f, rfl, h⟩ := yield_ofOption h
  exact ⟨q, f, hx, hq.1, hy, (yield_require h).1.1⟩

def Graduating (others : Nat → (p : Port D) → p.Answer) (operationId : D) : Prop :=
  others 0 (.rollbackPreparation operationId) = .returned none ∧ others 0 (.rollbackAuthorization operationId) = .returned none

theorem yield_validateIntent (hl : Lasting others) (hs : R.Still) {i : Intent D} (hg : Graduating others i.operationId)
    (h : Yield others files s (validateIntent C policyEpoch R i) ()) :
    ∃ prep lease config, others 0 (.preparation i.operationId) = .returned (some prep) ∧ SamePreparation i prep lease config ∧
      Yield others files s (requireParent C R i) () := by
  obtain ⟨prep, hprep, h⟩ := yield_port hl rfl still_orRaise h
  obtain ⟨rollbackPrep, hrollback, h⟩ := yield_port hl rfl still_orRaise h
  obtain ⟨rollbackAuth, hauth, h⟩ := yield_port hl rfl still_orRaise h
  have hprep := yield_orRaise hprep
  cases hg.1.symm.trans (yield_orRaise hrollback)
  cases hg.2.symm.trans (yield_orRaise hauth)
  obtain ⟨prep, rfl, h⟩ := yield_ofOption h
  obtain ⟨lease, -, h⟩ := yield_bind (still_requireLease _) h
  obtain ⟨config, -, h⟩ := yield_port hl rfl still_orRaise h
  obtain ⟨hsame, h⟩ := yield_require h
  obtain ⟨⟨⟩, hparent, _⟩ := yield_bind (still_requireParent hs i) h
  exact ⟨prep, lease, config, hprep, hsame, hparent⟩

theorem target_eq_of_yield (hl : Lasting others) {R' : Readers D} (hs : R.Still) (hs' : R'.Still) {i j : Intent D} (hg : Graduating others i.operationId)
    (hop : j.operationId = i.operationId) (hi : Yield others files s (validateIntent C policyEpoch R i) ())
    (hj : Yield others files s (validateIntent C policyEpoch R' j) ()) : j.toMainBound = i.toMainBound := by
  obtain ⟨prep, lease, config, hprep, hsame, -⟩ := yield_validateIntent hl hs hg hi
  obtain ⟨prep', lease', config', hprep', hsame', -⟩ := yield_validateIntent hl hs' (hop ▸ hg) hj
  rw [hop] at hprep'
  cases hprep.symm.trans hprep'
  exact hsame'.1.2.1.trans hsame.1.2.1.symm

end Readers

/-! ## Chains that rest on a fence -/

/-- The intent, or one before it, rests on a resolution. -/
inductive RestsOnFence (files : Disc D) : Intent D → Prop
  | resolution {i : Intent D} : i.parentResolutionDigest.isSome = true → RestsOnFence files i
  | parent {i p : Intent D} {d : D} : i.parentIntentDigest = some d → files (.intent d) = .bound p → RestsOnFence files p →
    RestsOnFence files i

omit [DecidableEq D] in
theorem SameMutation.target {i : Intent D} {r : Receipt D} (h : SameMutation i.toMutationBinding r.toMutationBinding) :
    i.toMainBound = r.toMainBound := by
  rw [← i.valid.binding.external.1, h.2.1]
  exact r.valid.binding.external.1

variable {target : MainBound D} {n : Nat} {i : Intent D}

/-- The readers of the journal at any depth. -/
inductive Depth (C : Canon D) (policyEpoch : Option D) : Readers D → Prop
  | exhausted : Depth C policyEpoch .exhausted
  | beyond (n : Nat) : Depth C policyEpoch (.over C (readIntentN C policyEpoch n))

variable {R : Readers D} {files' : Disc D} {s' : Disk D}

theorem Depth.still (h : Depth C policyEpoch R) : R.Still := by
  cases h with
  | exhausted => exact still_exhausted
  | beyond n => exact still_over (still_readIntentN n)

theorem yield_readIntentN {d : D} (h : Yield others files s (readIntentN C policyEpoch n d) (some i)) :
    files (.intent d) = .bound i ∧ i.digest C = d ∧
      ∃ R, Depth C policyEpoch R ∧ Yield others files s (validateIntent C policyEpoch R i) () := by
  cases n with
  | zero =>
    obtain ⟨hfile, hd, hv⟩ := yield_readIntent still_exhausted h
    exact ⟨hfile, hd, _, .exhausted, hv⟩
  | succ n =>
    obtain ⟨hfile, hd, hv⟩ := yield_readIntent (still_over (still_readIntentN n)) h
    exact ⟨hfile, hd, _, .beyond n, hv⟩

theorem not_yield_resolution (hl : Lasting others) (hslot : s.slots i.toMainBound = some .empty)
    (hR : Depth C policyEpoch R) (hg : Graduating others i.operationId) {q : D} (hq : i.parentResolutionDigest = some q) :
    ¬ Yield others files s (validateIntent C policyEpoch R i) () := by
  intro h
  have hs := hR.still
  obtain ⟨_, _, _, _, _, hparent⟩ := yield_validateIntent hl hs hg h
  obtain ⟨q, f, hq, hop, hf, hintent⟩ := yield_verifyParentResolution hs ((yield_requireParent hs hparent).2 q hq)
  cases hR with
  | exhausted => exact Prog.Yields.raise_inv hq
  | beyond n =>
    obtain ⟨f', hf', hresolved⟩ := yield_readResolution hs.fence hs.receipt hq
    obtain ⟨⟨r, hr, hfenced⟩, hassert⟩ := yield_readFence hs.receipt hf'
    obtain ⟨-, p, hp, hpop, hmutation⟩ := yield_readReceipt hs.intent hr
    obtain ⟨-, -, R', hR', hv⟩ := yield_readIntentN hp
    -- the fence is of the receipt's intent, which has the operation's target
    have hop' : p.operationId = i.operationId := by
      rw [hpop, hfenced.2.1, ← hresolved.1, hop]
    have htarget : f'.toMainBound = i.toMainBound := by
      rw [← hfenced.2.2.1, ← SameMutation.target hmutation]
      exact target_eq_of_yield hl hs hR'.still hg hop' h hv
    exact (fails_assertTargetFence (by rw [htarget]; exact hslot)).not_yields hassert

theorem not_yield_fenced (hl : Lasting others) (hfenced : RestsOnFence files i)
    (hslot : s.slots i.toMainBound = some .empty) (hR : Depth C policyEpoch R) (hg : Graduating others i.operationId) :
    ¬ Yield others files s (validateIntent C policyEpoch R i) () := by
  induction hfenced generalizing R with
  | resolution hq =>
    obtain ⟨q, hq⟩ := Option.isSome_iff_exists.mp hq
    exact not_yield_resolution hl hslot hR hg hq
  | @parent i p d hd hp _ ih =>
    intro h
    have hs := hR.still
    cases hq : i.parentResolutionDigest with
    | some q => exact not_yield_resolution hl hslot hR hg hq h
    | none =>
      have hsome : i.parentStage.isSome = true := by rw [i.valid.named, hd]; rfl
      obtain ⟨_, _, _, _, _, hparent⟩ := yield_validateIntent hl hs hg h
      cases hr : parentReceipt i with
      | none =>
        have hproof := i.valid.proof hsome
        rw [parentReceipt_none hr, hq] at hproof
        cases hproof
      | some r =>
        obtain ⟨hr', d', parent, hd', hintent⟩ := yield_requireParentReceipt hs ((yield_requireParent hs hparent).1 r hr)
        obtain ⟨_, _, hnamed, hop, htarget, _⟩ := i.valid.receipt _ (parentReceipt_some hr)
        cases hR with
        | exhausted => exact Prog.Yields.raise_inv hintent
        | beyond n =>
          -- the receipt's intent is the one that the chain names
          obtain ⟨-, p', hp', hpop, hmutation⟩ := yield_readReceipt hs.intent hr'
          obtain ⟨hfile, -, R', hR', hv⟩ := yield_readIntentN hp'
          cases hd.symm.trans hnamed
          cases hp.symm.trans hfile
          have htarget' := (SameMutation.target hmutation).trans htarget
          exact ih (htarget' ▸ hslot) hR' (by rw [hpop, hop]; exact hg) hv

theorem gives_of_yield {p : Code D α} {x : α} (h : Yield others files s p x)
    (hc : CarriedAll others files s files' s' p) : p.Gives (timely others) Prod.fst files' s' x := by
  obtain ⟨w, w', hw, hplay⟩ := h
  exact hc w x files w' hw hplay trivial

theorem gives_validate_rollback (hl : Lasting others) (hg : ¬ Graduating others i.operationId)
    (h : Yield others files s (validateIntent C policyEpoch R i) ()) :
    (validateIntent C policyEpoch R i).Gives (timely others) Prod.fst files' s' () := by
  obtain ⟨prep, hprep, h⟩ := yield_port hl rfl still_orRaise h
  obtain ⟨rollbackPrep, hrollback, h⟩ := yield_port hl rfl still_orRaise h
  obtain ⟨rollbackAuth, hauth, h⟩ := yield_port hl rfl still_orRaise h
  have hprep := yield_orRaise hprep
  have hrollback := yield_orRaise hrollback
  have hauth := yield_orRaise hauth
  refine Prog.Gives.bind (gives_lasting rfl (fun n => (hl n 0 _ rfl).trans hprep) Prog.gives_done) ?_
  refine Prog.Gives.bind (gives_lasting rfl (fun n => (hl n 0 _ rfl).trans hrollback) Prog.gives_done) ?_
  refine Prog.Gives.bind (gives_lasting rfl (fun n => (hl n 0 _ rfl).trans hauth) Prog.gives_done) ?_
  have hsome : (rollbackPrep.isSome || rollbackAuth.isSome) = true := by
    cases rollbackPrep with
    | some _ => rfl
    | none =>
      cases rollbackAuth with
      | some _ => rfl
      | none => exact absurd ⟨hrollback, hauth⟩ hg
  rw [if_pos hsome] at h ⊢
  refine gives_of_yield h ?_
  split
  · exact carried_seq (still_requireLease _) (carried_requireLease hl _) fun _ => carried_validateRollbackIntent hl i _ _
  · exact Prog.carries_raise

end Journal

end Chains

end AvoCorrelate.Graduation
