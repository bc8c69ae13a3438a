import AvoCorrelate.Promotion.Merge
/-!
# Fencing

A call that submitted its PUT keeps the target leased until its operation is
resolved: nobody else creates a lease file there, and the file is removed only by
way of a lease that somebody read in it. Three windows break this: the file that
was read may have been replaced before it is removed, the receipt that a replay
releases the lease on may itself ask for reconciliation, and the call that made the
lease may still be on its way to its PUT. `ReleasesSafely` closes them.
-/
open AvoLib

namespace AvoCorrelate.Promotion

open ExactCas (Sha256Digest GitObject)
open Service

variable {C : Canon} {w w' : World C}

/-- A step that removes a lease file finds in it the lease that its call read there
last; the durable receipt of the call's operation, if there is one, does not ask for
reconciliation; and no other call is on its way to its PUT under that lease. -/
def ReleasesSafely (w : World C) (m : WorldMove C) : Prop :=
  ∀ (i : Nat) n (t : CallThread C) key next, m = .step i n → w.config.threads[i]? = some t →
    t.status = .running (.port (.removeLease key) next) →
    (∀ current, t.log.head? = some (.port (.readLease key) (.found current)) → w.state.leases key = .held current) ∧
    (∀ r, w.config.files (.receipt t.call.operationId) = .bound r → r.outcome ≠ .reconciliationRequired) ∧
    ∀ (j : Nat) (u : CallThread C) l, j ≠ i → w.config.threads[j]? = some u → Made u.call u.log l →
      w.state.leases key = .held l → u.live = true → ¬ Without puts u.log

/-! ## Lease files -/

/-- What an answer does to the lease files. -/
inductive Moved (b : Board) : Event (Rec C) (Port.Answer (C := C)) → (Sha256Digest → Slot) → Prop
  | created (l : Lease) (h : b.leases (l.key C) = .free) :
    Moved b (.port (.createLease l) .created) (Function.update b.leases (l.key C) (.reserved l))
  | wrote (l : Lease) (r : Write) (h : b.leases (l.key C) = .reserved l) :
    Moved b (.port (.writeLease l) r) (Function.update b.leases (l.key C) (.held l))
  | removed (key : Sha256Digest) (r : Removal) :
    Moved b (.port (.removeLease key) r) (Function.update b.leases key .free)
  | same (e : Event (Rec C) (Port.Answer (C := C))) : Moved b e b.leases

variable {b b' : Board} {l l' : Lease} {k j : Nat} {t u t' : CallThread C} {e : Event (Rec C) (Port.Answer (C := C))}
  {m : WorldMove C} {F files' : Files (Rec C)} {i : Intent C}

theorem board_moved {p : Port C} {r : p.Answer} (h : board p r b = some b') : Moved b (.port p r) b'.leases := by
  unfold board at h
  split at h
  · split at h
    · cases h
    · cases h; exact .same _
  · split at h
    · split at h
      · next hfree => cases h; exact .created _ hfree
      · cases h
    · split at h <;> cases h; exact .same _
    · cases h; exact .same _
  · split at h
    · cases h; exact .same _
    · split at h
      · next hres => cases h; exact .wrote _ _ hres
      · cases h; exact .same _
    · split at h
      · next hres => cases h; exact .wrote _ _ hres
      · cases h; exact .same _
  · split at h
    · cases h; exact .same _
    · split at h <;> cases h; exact .same _
    · split at h <;> cases h; exact .same _
  · split at h
    · split at h <;> cases h; exact .removed _ _
    · split at h <;> cases h; exact .removed _ _
    · split at h <;> cases h; exact .same _
    · cases h; exact .same _
  · cases h; exact .same _

theorem board_found {key : Sha256Digest} (h : board (C := C) (.readLease key) (.found l) b = some b') :
    b.leases key = .held l := by
  simp only [board] at h
  split at h
  · assumption
  · cases h

def Occupied (b : Board) (key : Sha256Digest) (l : Lease) : Prop := b.leases key = .reserved l ∨ b.leases key = .held l

/-! ## Makers -/

theorem World.Known.made (hk : w.Known) (ht : w.config.threads[k]? = some t)
    (hc : .port (.createLease l) .created ∈ t.log) : Made t.call t.log l := by
  obtain ⟨h, hs, hnamed, hscope, _⟩ := (hk.call ht).1.rule hc
  exact ⟨hc, hs.mem hnamed, hscope⟩

theorem creates_iff :
    creates e = true ↔ ∃ l r, e = .port (.createLease l) r := by
  constructor
  · intro h
    unfold creates at h
    split at h
    · exact ⟨_, _, rfl⟩
    · cases h
  · rintro ⟨l, r, rfl⟩
    rfl

theorem World.Known.made_one (hk : w.Known) (ht : w.config.threads[k]? = some t) (hl : Made t.call t.log l)
    (hl' : Made t.call t.log l') : l = l' := by
  have hcount : t.log.countP creates ≤ 1 := by
    refine (hk.call ht).1.countP_le_one fun h e he hrule => ?_
    obtain ⟨l, r, rfl⟩ := creates_iff.mp he
    exact hrule.2.2.1
  cases eq_of_countP_le_one hcount hl.created hl'.created rfl rfl
  rfl

theorem World.Known.made_same (hk : w.Known) (ht : w.config.threads[k]? = some t) (hu : w.config.threads[j]? = some u)
    (hl : Made t.call t.log l) (hl' : Made u.call u.log l') (hid : l.identity = l'.identity) : k = j ∧ l = l' := by
  have hkj : k = j := hk.distinct.unique ht hu hl.drew (hid ▸ hl'.drew)
  subst hkj
  rw [ht] at hu
  cases hu
  exact ⟨rfl, hk.made_one ht hl hl'⟩

def MadeAt (w : World C) (key : Sha256Digest) (l : Lease) : Prop :=
  l.key C = key ∧ ∃ (k : Nat) (t : CallThread C), w.config.threads[k]? = some t ∧ Made t.call t.log l

theorem MadeAt.serve {key : Sha256Digest} (hl : MadeAt w key l) (hm : AvoLib.serve board promote w m = .ok w') :
    MadeAt w' key l := by
  obtain ⟨hkey, k, t, ht, hmade⟩ := hl
  obtain ⟨t', ht', rfl | rfl | hs⟩ := perform_thread (serve_ok.mp hm).1 ht
  · exact ⟨hkey, k, _, ht', hmade⟩
  · exact ⟨hkey, k, _, ht', hmade⟩
  · exact ⟨hkey, k, t', ht', hs.call ▸ hmade.suffix hs.log⟩

/-- Every lease in a lease file, and every lease that was read in one, was made by a
call. -/
structure Provenance (w : World C) : Prop where
  slots : ∀ {key : Sha256Digest} {l : Lease}, Occupied w.state key l → MadeAt w key l
  reads : ∀ {i : Nat} {t : CallThread C} {key : Sha256Digest} {l : Lease}, w.config.threads[i]? = some t →
    .port (.readLease key) (.found l) ∈ t.log → MadeAt w key l

theorem Occupied.before {b b' : Board} {e : Event (Rec C) (Port.Answer (C := C))} {key : Sha256Digest} {l : Lease}
    (hm : Moved b e b'.leases) (ho : Occupied b' key l) :
    Occupied b key l ∨ (e = .port (.createLease l) .created ∧ l.key C = key) := by
  have hkeep : ∀ {key' : Sha256Digest} {slot : Slot}, b'.leases = Function.update b.leases key' slot → key ≠ key' →
      Occupied b key l := by
    intro key' slot he hne
    unfold Occupied at ho
    rw [he, Function.update_of_ne hne] at ho
    exact ho
  generalize hb : b'.leases = leases at hm
  cases hm with
  | same => exact .inl (by unfold Occupied at ho; rw [hb] at ho; exact ho)
  | created l' hfree =>
    by_cases hkey : key = l'.key C
    · subst hkey
      rcases ho with ho | ho <;> rw [hb, Function.update_self] at ho <;> cases ho
      exact .inr ⟨rfl, rfl⟩
    · exact .inl (hkeep hb hkey)
  | wrote l' r hres =>
    by_cases hkey : key = l'.key C
    · subst hkey
      rcases ho with ho | ho <;> rw [hb, Function.update_self] at ho <;> cases ho
      exact .inl (.inl hres)
    · exact .inl (hkeep hb hkey)
  | removed key' r =>
    by_cases hkey : key = key'
    · subst hkey
      rcases ho with ho | ho <;> rw [hb, Function.update_self] at ho <;> cases ho
    · exact .inl (hkeep hb hkey)

theorem Provenance.serve (hp : Provenance w) (hk' : w'.Known) (hm : AvoLib.serve board promote w m = .ok w') :
    Provenance w' := by
  rcases serve_cases hm with ⟨call, _, rfl⟩ | ⟨i, t, _, ht, rfl⟩ | ⟨i, n, t, files', t', s', _, ht, hst, ha, rfl⟩
  · refine ⟨fun ho => (hp.slots ho).serve hm, fun hj hr => ?_⟩
    rcases getElem?_snoc_cases hj with hj | ⟨_, rfl⟩
    · exact (hp.reads hj hr).serve hm
    · cases hr
  · refine ⟨fun ho => (hp.slots ho).serve hm, fun hj hr => ?_⟩
    rcases getElem?_set_cases hj with ⟨_, rfl⟩ | ⟨_, hj⟩
    · exact (hp.reads ht hr).serve hm
    · exact (hp.reads hj hr).serve hm
  · have ht' : (w.config.threads.set i t')[i]? = some t' := List.getElem?_set_self (List.getElem?_eq_some_iff.mp ht).1
    cases ha with
    | port hs hstatus hlog hserved =>
      refine ⟨fun ho => ?_, fun hj hr => ?_⟩
      · rcases Occupied.before (board_moved hserved) ho with ho | ⟨he, hkey⟩
        · exact (hp.slots ho).serve hm
        · exact ⟨hkey, i, t', ht', hk'.made ht' (by rw [hlog, he]; exact List.mem_cons_self)⟩
      · rcases getElem?_set_cases hj with ⟨_, rfl⟩ | ⟨_, hj⟩
        · rw [hlog] at hr
          rcases List.mem_cons.mp hr with he | hr
          · cases he
            exact (hp.slots (.inr (board_found hserved))).serve hm
          · exact (hp.reads ht hr).serve hm
        · exact (hp.reads hj hr).serve hm
    | other hs hlog =>
      refine ⟨fun ho => (hp.slots ho).serve hm, fun hj hr => ?_⟩
      rcases getElem?_set_cases hj with ⟨_, rfl⟩ | ⟨_, hj⟩
      · exact (hp.reads ht (hlog _ _ hr)).serve hm
      · exact (hp.reads hj hr).serve hm

theorem Reaches.provenance {Pm : World C → WorldMove C → Prop} (hw : Reaches (AvoLib.serve board promote) Pm World.fresh w) :
    Provenance w := by
  induction hw with
  | init =>
    refine ⟨fun ho => ?_, fun hj => ?_⟩
    · rcases ho with ho | ho <;> cases ho
    · simp [World.fresh, Served.idle, Config.idle] at hj
  | step hw hp he ih => exact ih.serve (Reaches.known (.step hw hp he)) he

/-! ## Custody -/

/-- The call is in charge of its lease: it is on its way to its PUT, or it submitted
it and its operation is not resolved. -/
def InCharge (files : Files (Rec C)) (t : CallThread C) : Prop :=
  (t.live = true ∧ Without puts t.log ∧ Without removes t.log) ∨
    (¬ Without puts t.log ∧ ¬ Resolved files t.call.operationId)

/-- The lease of a call in charge is in its file. -/
def Custody (w : World C) : Prop :=
  ∀ (k : Nat) (t : CallThread C) (l : Lease), w.config.threads[k]? = some t → Made t.call t.log l →
    InCharge w.config.files t → Occupied w.state (l.key C) l

theorem Resolved.grows {F' : Files (Rec C)} {op : Sha256Digest} (hF : Grows F F') (hr : Resolved F op) :
    Resolved F' op := by
  obtain ⟨r, hb, ho⟩ := hr
  exact ⟨r, hF _ _ hb, ho⟩

theorem not_inCharge_of_removable {files : Files (Rec C)} {key : Sha256Digest} {r : Removal} (hF : Grows files files')
    (hrule : Removable t.call files t.log key)
    (hreceipt : ∀ r, files (.receipt t.call.operationId) = .bound r → r.outcome ≠ .reconciliationRequired)
    (hcall : t'.call = t.call) (hlog : t'.log = .port (.removeLease key) r :: t.log) : ¬ InCharge files' t' := by
  rintro (⟨_, _, hn⟩ | ⟨hputs, hun⟩)
  · have := hn _ (by rw [hlog]; exact List.mem_cons_self)
    cases this
  · rw [hcall] at hun
    obtain ⟨current, _, ⟨l, _, _, _, hn | hres⟩ | ⟨rc, l, hr, _⟩⟩ := hrule
    · exact hputs (by rw [hlog]; exact hn.cons rfl)
    · exact hun (hres.grows hF)
    · exact hun (Resolved.grows hF ⟨rc, hr, hreceipt rc hr⟩)

theorem Occupied.after {b b' : Board} {e : Event (Rec C) (Port.Answer (C := C))} {key : Sha256Digest} {l : Lease}
    (hm : Moved b e b'.leases) (ho : Occupied b key l)
    (hkept : ∀ r, e ≠ .port (.removeLease key) r) : Occupied b' key l := by
  unfold Occupied
  generalize b'.leases = leases at hm
  cases hm with
  | same => exact ho
  | created l' hfree =>
    by_cases hkey : key = l'.key C
    · subst hkey
      rcases ho with ho | ho <;> rw [hfree] at ho <;> cases ho
    · rw [Function.update_of_ne hkey]
      exact ho
  | wrote l' r hres =>
    by_cases hkey : key = l'.key C
    · subst hkey
      rw [Function.update_self]
      rcases ho with ho | ho <;> rw [hres] at ho <;> cases ho
      exact .inr rfl
    · rw [Function.update_of_ne hkey]
      exact ho
  | removed key' r =>
    by_cases hkey : key = key'
    · subst hkey
      exact absurd rfl (hkept r)
    · rw [Function.update_of_ne hkey]
      exact ho

theorem puts_iff : puts e = true ↔ ∃ i r, e = .port (.put i) r := by
  constructor
  · intro h
    unfold puts at h
    split at h
    · exact ⟨_, _, rfl⟩
    · cases h
  · rintro ⟨i, r, rfl⟩
    rfl

theorem World.Known.inCharge_before (hk : w.Known) {i : Nat} {s' : Board} (ht : w.config.threads[i]? = some t)
    (hF : Grows w.config.files files') (hst : Stepped w.config.files t files' t') (ha : Answered board t t' w.state s')
    (hc : InCharge files' t') : InCharge w.config.files t := by
  have hlive : t.live = true := by
    by_contra hn
    exact Thread.not_stepped (by simpa using hn) _ _ _ hst
  rcases hc with ⟨_, hputs, hremoves⟩ | ⟨hputs, hun⟩
  · exact .inl ⟨hlive, hputs.suffix hst.log, hremoves.suffix hst.log⟩
  · by_cases hbefore : Without puts t.log
    · -- the step is the PUT itself
      cases ha with
      | @port p r next _ hs hstatus hlog hserved =>
        refine .inl ⟨hlive, hbefore, ?_⟩
        by_contra hremoves
        refine hputs ?_
        rw [hlog]
        refine hbefore.cons ?_
        by_contra hput
        obtain ⟨i', r', he⟩ := puts_iff.mp (by simpa using hput)
        cases he
        have hsafe := (hk.call ht).2
        rw [hs] at hsafe
        obtain ⟨l, a, hready⟩ := hsafe.1
        exact hremoves hready.prepared.leased.unreleased
      | other hs hlog =>
        refine absurd (fun e he => ?_) hputs
        by_contra hput
        obtain ⟨i', r', rfl⟩ := puts_iff.mp (by simpa using hput)
        exact hput (hbefore _ (hlog _ _ he))
    · exact .inr ⟨hbefore, fun hr => hun (hst.call ▸ hr.grows hF)⟩

theorem World.Known.removal_spares (hk : w.Known) (hp : Provenance w) {i j : Nat} {t u : CallThread C}
    {key : Sha256Digest} {next : Removal → Code C Report} {n : Nature (Port.Answer (C := C))} {l : Lease}
    (hsafe : ReleasesSafely w (.step i n)) (ht : w.config.threads[i]? = some t)
    (hs : t.status = .running (.port (.removeLease key) next)) (hji : j ≠ i) (hu : w.config.threads[j]? = some u)
    (hl : Made u.call u.log l) (ho : Occupied w.state key l) : ¬ InCharge w.config.files u := by
  obtain ⟨hcurrent, hreceipt, hsubmitted⟩ := hsafe i n t key next rfl ht hs
  have hrule := (hk.call ht).2
  rw [hs] at hrule
  obtain ⟨current, hhead, hcases⟩ := hrule.1
  have hheld := hcurrent current hhead
  have hcl : current = l := by
    rcases ho with ho | ho <;> rw [hheld] at ho <;> cases ho
    rfl
  subst hcl
  rcases hcases with ⟨l', hmade, _, hsame, _⟩ | ⟨r, l', hr, hread, hop, hsame⟩
  · exact absurd (hk.made_same hu ht hl hmade hsame.1).1 hji
  · obtain ⟨_, k, v, hv, hmade⟩ := hp.reads ht hread
    obtain ⟨_, rfl⟩ := hk.made_same hu hv hl hmade hsame.1
    have huop : u.call.operationId = t.call.operationId := hl.scope.operation.symm.trans hop
    rintro (⟨hlive, hputs, _⟩ | ⟨_, hun⟩)
    · exact hsubmitted j u current hji hu hl hheld hlive hputs
    · rw [huop] at hun
      exact hun ⟨r, hr, hreceipt r hr⟩

theorem Custody.serve (hc : Custody w) (hk : w.Known) (hp : Provenance w) (hsafe : ReleasesSafely w m) (hk' : w'.Known)
    (hm : AvoLib.serve board promote w m = .ok w') : Custody w' := by
  rcases serve_cases hm with ⟨call, _, rfl⟩ | ⟨i, t, _, ht, rfl⟩ | ⟨i, n, t, files', t', s', rfl, ht, hst, ha, rfl⟩
  · intro k u l hu hl hcharge
    rcases getElem?_snoc_cases hu with hu | ⟨_, rfl⟩
    · exact hc k u l hu hl hcharge
    · cases hl.created
  · intro k u l hu hl hcharge
    rcases getElem?_set_cases hu with ⟨rfl, rfl⟩ | ⟨_, hu⟩
    · rcases hcharge with ⟨hlive, _⟩ | hcharge
      · cases hlive
      · exact hc k t l ht hl (.inr hcharge)
    · exact hc k u l hu hl hcharge
  · have hF : Grows w.config.files files' := hk.sound.grows ht hst
    intro k u l hu hl hcharge
    rcases getElem?_set_cases hu with ⟨rfl, rfl⟩ | ⟨hne, hu'⟩
    · -- the call that moved: it created the file now, or was in charge before
      have hbefore := hk.inCharge_before ht hF hst ha hcharge
      cases ha with
      | @port p r next _ hs hstatus hlog hserved =>
        have hmoved := board_moved hserved
        have hcreated := hl.created
        rw [hlog] at hcreated
        rcases List.mem_cons.mp hcreated with he | hmem
        · cases he
          generalize hs' : s'.leases = leases at hmoved
          cases hmoved with
          | created l' hfree => exact .inl (by rw [hs', Function.update_self])
          | same =>
            exfalso
            simp only [board] at hserved
            split at hserved
            · next hfree =>
              cases hserved
              have hslot := congrFun hs' (l.key C)
              rw [hfree] at hslot
              simp [Board.set] at hslot
            · cases hserved
        · refine Occupied.after hmoved (hc k t l ht (hk.made ht hmem) hbefore) fun r' he => ?_
          cases he
          have hrule := (hk.call ht).2
          rw [hs] at hrule
          exact not_inCharge_of_removable hF hrule.1 (hsafe k n t _ next rfl ht hs).2.1 hst.call hlog hcharge
      | other hs hlog => exact hc k t l ht (hk.made ht (hlog _ _ hl.created)) hbefore
    · have hbefore : InCharge w.config.files u := hcharge.imp id fun h => ⟨h.1, fun hr => h.2 (hr.grows hF)⟩
      have ho := hc k u l hu' hl hbefore
      cases ha with
      | @port p r next _ hs hstatus hlog hserved =>
        refine Occupied.after (board_moved hserved) ho fun r' he => ?_
        cases he
        exact hk.removal_spares hp hsafe ht hs hne hu' hl ho hbefore
      | other => exact ho

theorem Reaches.custody (hw : Reaches (AvoLib.serve board promote) ReleasesSafely World.fresh w) : Custody w := by
  induction hw with
  | init =>
    intro k t l ht
    simp [World.fresh, Served.idle, Config.idle] at ht
  | step hw hp he ih =>
    exact ih.serve (Reaches.known hw) (Reaches.provenance hw) hp (Reaches.known (.step hw hp he)) he

/-! ## The fence, over every run -/

theorem occupied_one {key : Sha256Digest} (h : Occupied b key l) (h' : Occupied b key l') : l = l' := by
  rcases h with h | h <;> rcases h' with h' | h' <;> rw [h] at h' <;> cases h' <;> rfl

theorem Prepared.key {call : PromoteCall} {h : Log C} (hp : Prepared call F h l i) :
    l.key C = leaseKey C i.repositoryDigest i.targetRef := by
  rw [Lease.key, hp.leased.made.scope.repository, hp.leased.made.scope.target, hp.bound.repository, hp.bound.target]

theorem Custody.unresolved (hc : Custody w) (hk : w.Known) {r : PutAnswer} (hu : w.config.threads[j]? = some u)
    (hput : .port (.put i) r ∈ u.log) (hun : ¬ Resolved w.config.files i.operationId) :
    ∃ l, Made u.call u.log l ∧ l.operationId = i.operationId ∧
      Occupied w.state (leaseKey C i.repositoryDigest i.targetRef) l := by
  obtain ⟨h, l, a, hs, hready⟩ := hk.submitted hu hput
  have hmade := hready.prepared.leased.made.suffix hs
  have hop := hready.prepared.bound.operation
  refine ⟨l, hmade, hmade.scope.operation.trans hop.symm, ?_⟩
  rw [← hready.prepared.key]
  refine hc j u l hu hmade (.inr ⟨fun hn => ?_, hop ▸ hun⟩)
  cases hn _ hput

/-- A safe removal takes a lease of the call's own operation, and no lease that a
PUT was submitted under before its operation is resolved. -/
theorem removal_own (hk : w.Known) (hp : Provenance w) {i : Nat} {t : CallThread C} {key : Sha256Digest}
    {next : Removal → Code C Report} {n : Nature (Port.Answer (C := C))} {l : Lease}
    (hsafe : ReleasesSafely w (.step i n)) (ht : w.config.threads[i]? = some t)
    (hs : t.status = .running (.port (.removeLease key) next)) (hl : w.state.leases key = .held l) :
    l.operationId = t.call.operationId ∧ ∀ (j : Nat) (u : CallThread C) (i' : Intent C) r,
      w.config.threads[j]? = some u → .port (.put i') r ∈ u.log → Made u.call u.log l →
      Resolved w.config.files i'.operationId := by
  obtain ⟨hcurrent, hreceipt, _⟩ := hsafe i n t key next rfl ht hs
  have hrule := (hk.call ht).2
  rw [hs] at hrule
  obtain ⟨current, hhead, hcases⟩ := hrule.1
  have hheld := hcurrent current hhead
  rw [hl] at hheld
  cases hheld
  obtain ⟨_, k, v, hv, hmade⟩ := hp.slots (.inr hl)
  have hown : ∀ {j : Nat} {u : CallThread C} {i' : Intent C} {r : PutAnswer}, w.config.threads[j]? = some u →
      .port (.put i') r ∈ u.log → i'.operationId = u.call.operationId := fun hu hput => by
    obtain ⟨_, _, _, _, hready⟩ := hk.submitted hu hput
    exact hready.prepared.bound.operation
  rcases hcases with ⟨l', hmade', _, hsame, hfree⟩ | ⟨rc, l', hr, hread, hop, hsame⟩
  · obtain ⟨_, rfl⟩ := hk.made_same hv ht hmade hmade' hsame.1
    refine ⟨hmade'.scope.operation, fun j u i' r hu hput hm => ?_⟩
    obtain ⟨rfl, _⟩ := hk.made_same hu ht hm hmade' rfl
    rw [ht] at hu
    cases hu
    rw [hown ht hput]
    rcases hfree with hn | hres
    · cases hn _ hput
    · exact hres
  · obtain ⟨_, k', v', hv', hmade'⟩ := hp.reads ht hread
    obtain ⟨_, rfl⟩ := hk.made_same hv hv' hmade hmade' hsame.1
    refine ⟨hop, fun j u i' r hu hput hm => ?_⟩
    rw [hown hu hput, ← hm.scope.operation, hop]
    exact ⟨rc, hr, hreceipt rc hr⟩

/-- In every run whose removals are safe: a call about to submit its PUT finds every
earlier PUT on its target resolved; the lease of a submitted operation that is not
resolved stays in its file; and no removal takes a lease of another operation, or of
an unresolved one. -/
theorem unresolved_fenced (hw : Reaches (serve board promote) ReleasesSafely World.fresh w) :
    (∀ (k : Nat) (t : CallThread C) (i : Intent C) next, w.config.threads[k]? = some t →
      t.status = .running (.port (.put i) next) → ∀ (j : Nat) (u : CallThread C) (i' : Intent C) r,
      w.config.threads[j]? = some u → .port (.put i') r ∈ u.log → i'.repositoryDigest = i.repositoryDigest →
      i'.targetRef = i.targetRef → Resolved w.config.files i'.operationId) ∧
    (∀ (j : Nat) (u : CallThread C) (i : Intent C) r, w.config.threads[j]? = some u → .port (.put i) r ∈ u.log →
      ¬ Resolved w.config.files i.operationId →
      ∃ l : Lease, l.operationId = i.operationId ∧ Occupied w.state (leaseKey C i.repositoryDigest i.targetRef) l) ∧
    ∀ (i : Nat) n (t : CallThread C) key next l, ReleasesSafely w (.step i n) → w.config.threads[i]? = some t →
      t.status = .running (.port (.removeLease key) next) → w.state.leases key = .held l →
      l.operationId = t.call.operationId ∧ ∀ (j : Nat) (u : CallThread C) (i' : Intent C) r,
        w.config.threads[j]? = some u → .port (.put i') r ∈ u.log → Made u.call u.log l →
        Resolved w.config.files i'.operationId := by
  have hk := Reaches.known hw
  have hc := Reaches.custody hw
  refine ⟨?_, ?_, ?_⟩
  · intro k t i next ht hs j u i' r hu hput hrepo htarget
    by_contra hun
    obtain ⟨l', hmade', _, ho'⟩ := hc.unresolved hk hu hput hun
    have hsafe := (hk.call ht).2
    rw [hs] at hsafe
    obtain ⟨l, a, hready⟩ := hsafe.1
    have hlive : t.live = true := by rw [Thread.live, hs]
    have ho := hc k t l ht hready.prepared.leased.made
      (.inl ⟨hlive, hready.unsubmitted, hready.prepared.leased.unreleased⟩)
    rw [hready.prepared.key, ← hrepo, ← htarget] at ho
    cases occupied_one ho ho'
    -- one lease, so one call: but it has not submitted yet
    obtain ⟨rfl, _⟩ := hk.made_same ht hu hready.prepared.leased.made hmade' rfl
    rw [ht] at hu
    cases hu
    cases hready.unsubmitted _ hput
  · intro j u i r hu hput hun
    obtain ⟨l, _, hop, ho⟩ := hc.unresolved hk hu hput hun
    exact ⟨l, hop, ho⟩
  · intro i n t key next l hsafe ht hs hl
    exact removal_own hk (Reaches.provenance hw) hsafe ht hs hl

namespace Sample

/-- The call is not at removing a lease file. -/
def keepsLease (w : World canon) : Order → Bool
  | .step i _ => !(w.config.threads[i]?.any fun t =>
      match t.status with
      | .running (.port (.removeLease _) _) => true
      | _ => false)
  | _ => true

theorem releasesSafely_of_keeps {w : World canon} {o : Order} (h : keepsLease w o = true) :
    ReleasesSafely w (o.move w) := by
  intro i n t key next hm ht hs
  cases o with
  | start | crash => cases hm
  | step j env =>
    cases hm
    simp [keepsLease, ht, hs] at h

/-- A call whose PUT was lost, with its unresolved receipt. -/
def pending : List Order := .start false :: steps 0 43 lost

/-- The log has the PUT of this operation. -/
def hasPut (op : Sha256Digest) (t : CallThread canon) : Bool := t.log.any (submits op)

variable {op : Sha256Digest} {t : CallThread canon}

theorem exists_put_event (h : hasPut op t = true) : ∃ i r, .port (.put i) r ∈ t.log ∧ i.operationId = op := by
  obtain ⟨e, he, hs⟩ := List.any_eq_true.mp h
  obtain ⟨i, r, rfl, hop⟩ := submits_iff.mp hs
  exact ⟨i, r, he, hop⟩

def receiptOutcome (w : World canon) (op : Sha256Digest) : Option Outcome :=
  match w.config.files (.receipt op) with
  | .bound r => some r.outcome
  | _ => none

theorem not_resolved {w : World canon} (h : receiptOutcome w op = some .reconciliationRequired) :
    ¬ Resolved w.config.files op := by
  rintro ⟨r, hr, ho⟩
  rw [receiptOutcome, hr] at h
  exact ho (Option.some.inj h)

/-- The unresolved receipt is replayed, and a call for the other operation gets to
its PUT. -/
def replayed : List Order :=
  pending ++ (.start false :: steps 1 7 lost) ++ (.start true :: steps 2 36 lost)

def atSecondPut (t : CallThread canon) : Bool :=
  match t.status with
  | .running (.port (.put i) _) => i.operationId = operation true && i.repositoryDigest = 11 &&
      i.targetRef = "refs/heads/integration"
  | _ => false

theorem exists_second_put (h : atSecondPut t = true) :
    ∃ i next, t.status = .running (.port (.put i) next) ∧ i.operationId = operation true ∧ i.repositoryDigest = 11 ∧
      i.targetRef = "refs/heads/integration" := by
  unfold atSecondPut at h
  split at h
  · next i next hs =>
    simp only [Bool.and_eq_true, decide_eq_true_eq] at h
    exact ⟨i, next, hs, h.1.1, h.1.2, h.2⟩
  · cases h

/-- The log has a PUT of the first operation on the same target. -/
def hasFirstPut (t : CallThread canon) : Bool :=
  t.log.any fun
    | .port (.put i) _ => i.operationId = operation false && i.repositoryDigest = 11 &&
        i.targetRef = "refs/heads/integration"
    | _ => false

theorem exists_first_put (h : hasFirstPut t = true) :
    ∃ i r, .port (.put i) r ∈ t.log ∧ i.operationId = operation false ∧ i.repositoryDigest = 11 ∧
      i.targetRef = "refs/heads/integration" := by
  obtain ⟨e, he, hs⟩ := List.any_eq_true.mp h
  split at hs
  · next i r =>
    simp only [Bool.and_eq_true, decide_eq_true_eq] at hs
    exact ⟨i, r, he, hs.1.1, hs.1.2, hs.2⟩
  · cases hs

set_option maxRecDepth 8000 in
/-- The second run goes on from the first, so the two are evaluated together. -/
theorem pending_replayed_conclude :
    concludes obey keepsLease
        (fun w => w.config.threads[0]?.any (hasPut (operation false)) &&
          decide (receiptOutcome w (operation false) = some .reconciliationRequired)) World.fresh pending = true ∧
      concludes obey (fun _ _ => true)
        (fun w => w.config.threads[2]?.any atSecondPut && w.config.threads[0]?.any hasFirstPut &&
          decide (receiptOutcome w (operation false) = some .reconciliationRequired)) World.fresh replayed = true := by
  decide +kernel

theorem reaches_pending : Reaches (serve board promote) ReleasesSafely World.fresh (after pending) := by
  refine (Reaches.obeyed (reaches_result (allowed_of_concludes pending_replayed_conclude.1).1)).mono ?_
  rintro w m ⟨o, rfl, ho⟩
  exact releasesSafely_of_keeps ho

theorem pending_put : (∃ t, (after pending).config.threads[0]? = some t ∧ hasPut (operation false) t = true) ∧
    ¬ Resolved (after pending).config.files (operation false) := by
  have htest := after_passes pending_replayed_conclude.1
  simp only [Bool.and_eq_true, decide_eq_true_eq] at htest
  exact ⟨(Option.any_eq_true _ _).mp htest.1, not_resolved htest.2⟩

theorem runs_replayed : Runs (after replayed) := runs_after (allowed_of_concludes pending_replayed_conclude.2).1

theorem replayed_put :
    (∃ t, (after replayed).config.threads[2]? = some t ∧ atSecondPut t = true) ∧
      (∃ t, (after replayed).config.threads[0]? = some t ∧ hasFirstPut t = true) ∧
      ¬ Resolved (after replayed).config.files (operation false) := by
  have htest := after_passes pending_replayed_conclude.2
  simp only [Bool.and_eq_true, decide_eq_true_eq] at htest
  exact ⟨(Option.any_eq_true _ _).mp htest.1.1, (Option.any_eq_true _ _).mp htest.1.2, not_resolved htest.2⟩

end Sample

theorem unresolved_fenced_pending :
    ¬ Resolved (Sample.after Sample.pending).config.files (Sample.operation false) ∧
      ∃ (i : Intent Sample.canon) (l : Lease), i.operationId = Sample.operation false ∧ l.operationId = i.operationId ∧
        Occupied (Sample.after Sample.pending).state (leaseKey Sample.canon i.repositoryDigest i.targetRef) l := by
  obtain ⟨⟨t, ht, hput⟩, hunresolved⟩ := Sample.pending_put
  obtain ⟨i, r, hr, hop⟩ := Sample.exists_put_event hput
  obtain ⟨l, hl⟩ := (unresolved_fenced Sample.reaches_pending).2.1 0 t i r ht hr (by rw [hop]; exact hunresolved)
  exact ⟨hunresolved, i, l, hop, hl⟩

/-- Replaying an unresolved receipt frees the target: the next operation gets to
its PUT. -/
theorem replay_frees_target :
    ¬ ∀ w : World Sample.canon, Runs w → ∀ (k : Nat) (t : CallThread Sample.canon) (i : Intent Sample.canon) next,
      w.config.threads[k]? = some t → t.status = .running (.port (.put i) next) →
      ∀ (j : Nat) (u : CallThread Sample.canon) (i' : Intent Sample.canon) r, w.config.threads[j]? = some u →
      .port (.put i') r ∈ u.log → i'.operationId ≠ i.operationId → i'.repositoryDigest = i.repositoryDigest →
      i'.targetRef = i.targetRef → Resolved w.config.files i'.operationId := by
  intro hall
  obtain ⟨⟨t, ht, hput⟩, ⟨u, hu, hput'⟩, hunresolved⟩ := Sample.replayed_put
  obtain ⟨i, next, hs, hop, hrepo, htarget⟩ := Sample.exists_second_put hput
  obtain ⟨i', r, hr, hop', hrepo', htarget'⟩ := Sample.exists_first_put hput'
  have hne : i'.operationId ≠ i.operationId := by
    rw [hop, hop']
    exact Sample.operation_ne.symm
  have hres := hall _ Sample.runs_replayed 2 t i next ht hs 0 u i' r hu hr hne (hrepo'.trans hrepo.symm)
    (htarget'.trans htarget.symm)
  rw [hop'] at hres
  exact hunresolved hres

end AvoCorrelate.Promotion
