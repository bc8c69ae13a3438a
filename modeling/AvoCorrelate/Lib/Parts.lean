import AvoCorrelate.Lib.Alone
/-!
# Programs within larger programs

A component with its own files and ports runs inside one that has more of both:
`Prog.within` puts the actions of the one among those of the other, and its
exceptions under theirs.
-/
namespace AvoLib

variable {K K' P P' : Type} {V : K → Type} {V' : K' → Type} {A : P → Type} {A' : P' → Type} {ε ε' α σ : Type}

abbrev Both (V : K → Type) (V' : K' → Type) : K ⊕ K' → Type := Sum.elim V V'

/-- The program, among more files and ports; `f` says what its exceptions become. -/
def Prog.within (f : ε → ε') : Prog V A ε α → Prog (Both V V') (Both A A') ε' α
  | .done x => .done x
  | .raise e => .raise (f e)
  | .read k next => .read (.inl k) fun r => (next r).within f
  | .publish k v next => .publish (.inl k) v fun r => (next r).within f
  | .port p next => .port (.inl p) fun r => (next r).within f

/-- The program, when some of its requests are answered without asking. -/
def Prog.answered (answers : (p : P) → Option (A p)) : Prog V A ε α → Prog V A ε α
  | .done x => .done x
  | .raise e => .raise e
  | .read k next => .read k fun r => (next r).answered answers
  | .publish k v next => .publish k v fun r => (next r).answered answers
  | .port p next =>
    match answers p with
    | some r => (next r).answered answers
    | none => .port p fun r => (next r).answered answers

/-- The service of the component; the other ports may answer anything. -/
def Service.within (service : Service A σ) : Service (Both A A') σ
  | .inl p, r, s => service p r s
  | .inr _, _, s => some s

/-- The answers of the component, and the answers of the others. -/
def Oracle.within {service : Service A σ} (O : Oracle service) (others : (p : P') → A' p) :
    Oracle (Service.within service : Service (Both A A') σ) where
  answer s
    | .inl p => O.answer s p
    | .inr p => others p
  next s
    | .inl p => O.next s p
    | .inr _ => s
  serves s
    | .inl p => O.serves s p
    | .inr _ => rfl

/-! ## What the parts obey -/

theorem Along.rule_at {G : Rules V A} {h h' : List (Event V A)} {e : Event V A} (hg : Along G h) (hs : e :: h' <:+ h) :
    G h' e.action := by
  induction h with
  | nil => exact absurd (List.suffix_nil.mp hs) (by simp)
  | cons e' h ih =>
    rcases List.suffix_cons_iff.mp hs with heq | hs
    · cases heq
      exact hg.1
    · exact ih hg.2 hs

section Parts
variable {β : Type}

def Action.inl : Action V P → Action (Both V V') (P ⊕ P')
  | .read k => .read (.inl k)
  | .publish k v => .publish (.inl k) v
  | .port p => .port (.inl p)

def Event.inl : Event V A → Event (Both V V') (Both A A')
  | .read k r => .read (.inl k) r
  | .publish k v r => .publish (.inl k) v r
  | .port p r => .port (.inl p) r

/-- The event as the larger program has it in its log, unless it was answered. -/
def Event.shown (answers : (p : P) → Option (A p)) : Event V A → Option (Event (Both V V') (Both A A'))
  | .port p r => if (answers p).isSome then none else some (.port (.inl p) r)
  | .read k r => some (.read (.inl k) r)
  | .publish k v r => some (.publish (.inl k) v r)

/-- What the log of a component adds to the log of the larger program. -/
def shown (answers : (p : P) → Option (A p)) (h : List (Event V A)) : List (Event (Both V V') (Both A A')) :=
  h.filterMap (Event.shown answers)

variable {answers : (p : P) → Option (A p)}

variable {h : List (Event V A)} {e : Event V A} {G : Rules V A} {f : ε → ε'}
  {Q : List (Event V A) → Except ε α → Prop}

theorem mem_shown (hm : (Event.inl e : Event (Both V V') (Both A A')) ∈ shown answers h) : e ∈ h := by
  obtain ⟨e', he', heq⟩ := List.mem_filterMap.mp hm
  cases e' with
  | read k r => cases e <;> cases heq; exact he'
  | publish k v r => cases e <;> cases heq; exact he'
  | port p r =>
    by_cases hp : (answers p).isSome = true
    · simp only [Event.shown, hp, if_true] at heq
      cases heq
    · simp only [Event.shown, hp] at heq
      cases e <;> cases heq
      exact he'

theorem mem_shown_of (hm : e ∈ h) (hs : ∀ p r, e = .port p r → answers p = none) :
    (Event.inl e : Event (Both V V') (Both A A')) ∈ shown answers h := by
  refine List.mem_filterMap.mpr ⟨e, hm, ?_⟩
  cases e with
  | read k r => rfl
  | publish k v r => rfl
  | port p r => simp [Event.shown, Event.inl, hs p r rfl]

/-- A component that is safe on its own is safe within a program whose rules allow what
the component's rules do; the answers that it gets without asking are answers it may
always get. -/
theorem Prog.Safe.within {F : Files (Both V V')} {G' : Rules (Both V V') (Both A A')} {p : Prog V A ε α}
    {H : List (Event (Both V V') (Both A A'))} (hp : p.Safe (fun k => F (.inl k)) G Q h)
    (hr : ∀ p r, .port p r ∈ h → ∀ x, answers p = some x → r = x)
    (hG : ∀ h a, (∀ p r, .port p r ∈ h → ∀ x, answers p = some x → r = x) → G h a → G' (shown answers h ++ H) a.inl) :
    ((p.answered answers).within f).Safe F G'
      (fun H' x => ∃ h' y, H' = shown answers h' ++ H ∧ (∀ p r, .port p r ∈ h' → ∀ x, answers p = some x → r = x) ∧
        Q h' y ∧ x = y.mapError f) (shown answers h ++ H) := by
  induction p generalizing h with
  | done x => exact ⟨h, .ok x, rfl, hr, hp, rfl⟩
  | raise e => exact ⟨h, .error e, rfl, hr, hp, rfl⟩
  | read k next ih =>
    refine ⟨hG h _ hr hp.1, fun r ht => ih r (hp.2 r ?_) fun p r' hm => hr p r' ?_⟩
    · cases r <;> exact ht
    · exact (List.mem_cons.mp hm).resolve_left fun h => nomatch h
  | publish k v next ih =>
    refine ⟨hG h _ hr hp.1, fun r ht => ih r (hp.2 r ?_) fun p r' hm => hr p r' ?_⟩
    · cases r <;> exact ht
    · exact (List.mem_cons.mp hm).resolve_left fun h => nomatch h
  | port q next ih =>
    have hcons : ∀ r, (∀ x, answers q = some x → r = x) → ∀ p r', .port p r' ∈ (.port q r :: h : List (Event V A)) →
        ∀ x, answers p = some x → r' = x := by
      intro r hq p r' hm
      rcases List.mem_cons.mp hm with he | hm
      · cases he
        exact hq
      · exact hr p r' hm
    unfold Prog.answered
    split
    · next r ha =>
      have hsilent : (shown answers (.port q r :: h) : List (Event (Both V V') (Both A A'))) = shown answers h := by
        simp [shown, Event.shown, ha]
      rw [← hsilent]
      exact ih r (hp.2 r) (hcons r fun x hx => Option.some.inj (ha.symm.trans hx))
    · next ha =>
      refine ⟨hG h _ hr hp.1, fun r => ?_⟩
      have hshown : (.port (.inl q) r :: shown answers h : List (Event (Both V V') (Both A A'))) = shown answers (.port q r :: h) := by
        simp [shown, Event.shown, ha]
      change (Prog.within f ((next r).answered answers)).Safe F G' _ (.port (.inl q) r :: shown answers h ++ H)
      rw [hshown]
      exact ih r (hp.2 r) (hcons r fun x hx => nomatch ha.symm.trans hx)

theorem Prog.Safe.and {F : Files V} {G' : Rules V A} {Q' : List (Event V A) → Except ε α → Prop} {p : Prog V A ε α}
    (hp : p.Safe F G Q h) (hp' : p.Safe F G' Q' h) :
    p.Safe F (fun h a => G h a ∧ G' h a) (fun h x => Q h x ∧ Q' h x) h := by
  induction p generalizing h with
  | done x => exact ⟨hp, hp'⟩
  | raise e => exact ⟨hp, hp'⟩
  | read k next ih => exact ⟨⟨hp.1, hp'.1⟩, fun r hr => ih r (hp.2 r hr) (hp'.2 r hr)⟩
  | publish k v next ih => exact ⟨⟨hp.1, hp'.1⟩, fun r hr => ih r (hp.2 r hr) (hp'.2 r hr)⟩
  | port q next ih => exact ⟨⟨hp.1, hp'.1⟩, fun r => ih r (hp.2 r) (hp'.2 r)⟩

theorem Prog.Does.within {S : Action V P → Prop} {S' : Action (Both V V') (P ⊕ P') → Prop} {p : Prog V A ε α}
    (hp : p.Does S) (hS : ∀ a, S a → S' a.inl) : (p.within f : Prog (Both V V') (Both A A') ε' α).Does S' := by
  induction p with
  | done x => trivial
  | raise e => trivial
  | read k next ih => exact ⟨hS _ hp.1, fun r => ih r (hp.2 r)⟩
  | publish k v next ih => exact ⟨hS _ hp.1, fun r => ih r (hp.2 r)⟩
  | port q next ih => exact ⟨hS _ hp.1, fun r => ih r (hp.2 r)⟩

end Parts

/-! ## Played within -/

section Playing
variable [DecidableEq K] [DecidableEq K'] {service : Service A σ} {O : Oracle service} {others : (p : P') → A' p} {f : ε → ε'}
  {F : Files (Both V V')} {p : Prog V A ε α}

def Files.left (F : Files (Both V V')) : Files V := fun k => F (.inl k)

def Files.withLeft (F : Files (Both V V')) (files : Files V) : Files (Both V V')
  | .inl k => files k
  | .inr k => F (.inr k)

omit [DecidableEq K] [DecidableEq K'] in
theorem Files.withLeft_left : F.withLeft F.left = F := by
  funext k
  cases k <;> rfl

theorem Files.put_inl (k : K) (v : File (V k)) : Files.put F (.inl k) v = F.withLeft (F.left.put k v) := by
  funext k'
  cases k' with
  | inl k' =>
    by_cases h : k' = k
    · subst h
      exact (Files.put_self F (.inl k') v).trans (Files.put_self F.left k' v).symm
    · have hne : (Sum.inl k' : K ⊕ K') ≠ Sum.inl k := fun he => h (Sum.inl.inj he)
      exact (Files.put_ne (k := Sum.inl k) F v hne).trans (Files.put_ne F.left v h).symm
  | inr k' =>
    have hne : (Sum.inr k' : K ⊕ K') ≠ Sum.inl k := nofun
    exact Files.put_ne (k := Sum.inl k) F v hne

theorem Prog.play_within {s : σ} :
    (p.within f).play (O.within others) F s = ⟨(p.play O F.left s).outcome.mapError f, F.withLeft (p.play O F.left s).files,
      (p.play O F.left s).state⟩ := by
  induction p generalizing F s with
  | done x => simp only [Prog.within, Prog.play, Files.withLeft_left]; rfl
  | raise e => simp only [Prog.within, Prog.play, Files.withLeft_left]; rfl
  | read k next ih => exact ih _
  | port q next ih => exact ih _
  | publish k v next ih =>
    by_cases hk : F.left k = .absent
    · rw [Prog.play_publish hk]
      refine (Prog.play_publish (k := Sum.inl k) hk).trans ?_
      exact (congrArg (fun G => Prog.play (O.within others) G s _) (Files.put_inl k (.bound v))).trans (ih _)
    · rw [Prog.play_taken hk]
      exact (Prog.play_taken (k := Sum.inl k) hk).trans (ih _)

theorem Prog.played_within {s s' : σ} {F' : Files (Both V V')} {x : α}
    (h : (p.within f).play (O.within others) F s = ⟨.ok x, F', s'⟩) :
    ∃ files', p.play O F.left s = ⟨.ok x, files', s'⟩ ∧ F' = F.withLeft files' := by
  rw [Prog.play_within] at h
  cases hplay : p.play O F.left s with
  | mk outcome files' s₁ =>
    rw [hplay] at h
    cases outcome with
    | error e => cases h
    | ok y =>
      cases h
      exact ⟨files', rfl, rfl⟩

variable {τ : Type} {view : σ → τ} {v : τ} {x : α}

theorem Prog.Yields.within_inv (h : (p.within f).Yields (O.within others) view F v x) : p.Yields O view F.left v x := by
  obtain ⟨s, s', hs, h⟩ := h
  obtain ⟨files', hplay, hF⟩ := Prog.played_within h
  obtain rfl : files' = F.left := by rw [hF]; rfl
  exact ⟨s, s', hs, hplay⟩

theorem Prog.Gives.within (h : p.Gives O view F.left v x) : (p.within f).Gives (O.within others) view F v x := by
  intro s hs
  obtain ⟨s', hs', hplay⟩ := h s hs
  refine ⟨s', hs', ?_⟩
  rw [Prog.play_within, hplay]
  simp only [Files.withLeft_left]
  rfl

end Playing

namespace Prog

variable [DecidableEq K] {service : Service A σ} {O : Oracle service} {files files' : Files V} {s s' : σ} {p : Prog V A ε α} {β : Type}

theorem play_bind_bound {k : K} {v : V k} {f : α → Prog V A ε β} {y : β} (hk : files k = .bound v)
    (h : (p >>= f).play O files s = ⟨.ok y, files', s'⟩) :
    ∃ x files₁ s₁, files₁ k = .bound v ∧ (f x).play O files₁ s₁ = ⟨.ok y, files', s'⟩ := by
  obtain ⟨x, files₁, s₁, hx, hy⟩ := play_bind_inv h
  have hgrows : Grows files (p.play O files s).files := play_grows
  rw [hx] at hgrows
  exact ⟨x, files₁, s₁, hgrows k v hk, hy⟩

theorem Gives.asked {τ : Type} {view : σ → τ} {v : τ} {q : P} {next : A q → Prog V A ε α} {x : α} {r : A q}
    (hr : ∀ s, view s = v → O.answer s q = r) (hq : ∀ s, view s = v → view (O.next s q) = v)
    (hn : (next r).Gives O view files v x) : (Prog.port q next).Gives O view files v x :=
  Goes.port hr hq hn.goes

/-- From every state with this view the program comes to what `q` does from another world. -/
def Comes {τ : Type} (O : Oracle service) (view : σ → τ) (files : Files V) (v : τ) (p : Prog V A ε α) (files' : Files V) (v' : τ)
    (q : Prog V A ε α) : Prop :=
  ∀ s, view s = v → ∃ s', view s' = v' ∧ p.play O files s = q.play O files' s'

section Coming
variable {τ : Type} {view : σ → τ} {v v' v₁ : τ} {files₁ : Files V} {q : Prog V A ε β}

theorem comes_refl : p.Comes O view files v files v p := fun s hs => ⟨s, hs, rfl⟩

theorem Comes.trans {q : Prog V A ε α} {q' : Prog V A ε α} (hp : p.Comes O view files v files₁ v₁ q)
    (hq : q.Comes O view files₁ v₁ files' v' q') : p.Comes O view files v files' v' q' := by
  intro s hs
  obtain ⟨s₁, hs₁, hp⟩ := hp s hs
  obtain ⟨s', hs', hq⟩ := hq s₁ hs₁
  exact ⟨s', hs', hp.trans hq⟩

variable {f : α → Prog V A ε β} {x : α} {e : ε}

theorem Goes.comes (hp : p.Goes O view files v x files₁ v₁) (hf : (f x).Comes O view files₁ v₁ files' v' q) :
    (p >>= f).Comes O view files v files' v' q := by
  intro s hs
  obtain ⟨s₁, hs₁, hp⟩ := hp s hs
  obtain ⟨s', hs', hf⟩ := hf s₁ hs₁
  exact ⟨s', hs', (play_bind_ok hp).trans hf⟩

theorem Gives.comes (hp : p.Gives O view files v x) (hf : (f x).Comes O view files v files' v' q) :
    (p >>= f).Comes O view files v files' v' q :=
  hp.goes.comes hf

theorem comes_require {c : Prop} [Decidable c] (hc : ¬ c) :
    (Prog.require c e : Prog V A ε Unit).Comes O view files v files v (.raise e) := fun s hs => ⟨s, hs, play_require_not hc⟩

theorem Comes.raise (hp : p.Comes O view files v files' v' (.raise e)) :
    (p >>= f).Comes O view files v files' v' (.raise e) := by
  intro s hs
  obtain ⟨s', hs', hp⟩ := hp s hs
  exact ⟨s', hs', play_bind_error hp⟩

theorem Comes.caught (hp : p.Comes O view files v files' v' (.raise e)) :
    (p.attempt : Prog V A ε' (Except ε α)).Goes O view files v (.error e) files' v' := by
  intro s hs
  obtain ⟨s', hs', hp⟩ := hp s hs
  exact ⟨s', hs', play_attempt hp⟩

end Coming

end Prog

end AvoLib
