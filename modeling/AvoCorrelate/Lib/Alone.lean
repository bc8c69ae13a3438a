import AvoCorrelate.Lib.Served
/-!
# A call alone, step by step

More about `Prog.play`: a clock that moves on while a call runs, the actions that a
call comes to (`Prog.Meets`), and programs that look at the world and leave it as it
is (`Prog.Looks`, `Prog.Carries`).
-/
namespace AvoLib

variable {K P : Type} [DecidableEq K] {V : K → Type} {A : P → Type} {ε ε' α β σ : Type}

theorem Files.put_bound {files : Files V} {k : K} {v : V k} (h : files k = .bound v) : files.put k (.bound v) = files := by
  funext k'
  by_cases hk : k' = k
  · subst hk
    rw [Files.put_self, h]
  · rw [Files.put_ne _ _ hk]

/-- The service, counting what it was asked: answers may depend on the time. -/
def Service.timed (service : Service A σ) : Service A (σ × Nat) := fun p r w => (service p r w.1).map (·, w.2 + 1)

/-- Answers that the service can give at each time. -/
def Oracle.timed {service : Service A σ} (O : Nat → Oracle service) : Oracle service.timed where
  answer w p := (O w.2).answer w.1 p
  next w p := ((O w.2).next w.1 p, w.2 + 1)
  serves w p := by simp [Service.timed, (O w.2).serves w.1 p]

namespace Prog

variable {service : Service A σ} {O : Oracle service} {files files' : Files V} {s s' : σ} {p : Prog V A ε α}
  {M : Files V → σ → Action V P → Prop}

/-! ## Actions on the way -/

/-- Played alone, the program comes to an action for which `M` holds. -/
def Meets (O : Oracle service) (M : Files V → σ → Action V P → Prop) (files : Files V) (s : σ) : Prog V A ε α → Prop
  | .done _ => False
  | .raise _ => False
  | .read k next => M files s (.read k) ∨ (next (files k).content).Meets O M files s
  | .publish k v next =>
    M files s (.publish k v) ∨ match files k with
      | .absent => (next .created).Meets O M (files.put k (.bound v)) s
      | _ => (next .taken).Meets O M files s
  | .port q next => M files s (.port q) ∨ (next (O.answer s q)).Meets O M files (O.next s q)

example (x : α) : ¬ (Prog.done x : Prog V A ε α).Meets O M files s := by
  simp only [Meets, not_false_eq_true]

variable {k : K} {v : V k} {next : Published → Prog V A ε α} {f : α → Prog V A ε β} {x : α} {S : Action V P → Prop}

theorem meets_publish (hk : files k = .absent) : (Prog.publish k v next).Meets O M files s ↔
      M files s (.publish k v) ∨ (next .created).Meets O M (files.put k (.bound v)) s := by
  simp only [Meets, hk]

theorem meets_taken (hk : files k ≠ .absent) :
    (Prog.publish k v next).Meets O M files s ↔ M files s (.publish k v) ∨ (next .taken).Meets O M files s := by
  simp only [Meets]

theorem meets_bind : (p >>= f).Meets O M files s ↔
      p.Meets O M files s ∨ ∃ x files' s', p.play O files s = ⟨.ok x, files', s'⟩ ∧ (f x).Meets O M files' s' := by
  change (Prog.bind p f).Meets O M files s ↔ _
  induction p generalizing files s with
  | done y =>
    constructor
    · exact fun h => .inr ⟨y, files, s, rfl, h⟩
    · rintro (h | ⟨x, files', s', he, h⟩)
      · exact h.elim
      · cases he; exact h
  | raise e =>
    constructor
    · exact fun h => h.elim
    · rintro (h | ⟨x, files', s', he, h⟩)
      · exact h
      · cases he
  | read k next ih => simp only [Prog.bind, Meets, ih, or_assoc, play]
  | port q next ih => simp only [Prog.bind, Meets, ih, or_assoc, play]
  | publish k v next ih =>
    by_cases hk : files k = .absent
    · rw [Prog.bind, meets_publish hk, meets_publish hk, play_publish hk, ih, or_assoc]
    · rw [Prog.bind, meets_taken hk, meets_taken hk, play_taken hk, ih, or_assoc]

theorem Meets.left (h : p.Meets O M files s) : (p >>= f).Meets O M files s :=
  meets_bind.mpr (.inl h)

theorem Meets.after (hp : p.play O files s = ⟨.ok x, files', s'⟩) (h : (f x).Meets O M files' s') :
    (p >>= f).Meets O M files s :=
  meets_bind.mpr (.inr ⟨x, files', s', hp, h⟩)

theorem meets_attempt : (p.attempt : Prog V A ε' (Except ε α)).Meets O M files s ↔ p.Meets O M files s := by
  induction p generalizing files s with
  | done y => exact Iff.rfl
  | raise e => exact Iff.rfl
  | read k next ih => simp only [attempt, Meets, ih]
  | port q next ih => simp only [attempt, Meets, ih]
  | publish k v next ih =>
    by_cases hk : files k = .absent
    · rw [attempt, meets_publish hk, meets_publish hk, ih]
    · rw [attempt, meets_taken hk, meets_taken hk, ih]

theorem Does.not_meets (hd : p.Does S) (hM : ∀ files s a, S a → ¬ M files s a) : ¬ p.Meets O M files s := by
  induction p generalizing files s with
  | done y => exact id
  | raise e => exact id
  | read k next ih => exact not_or.mpr ⟨hM _ _ _ hd.1, ih _ (hd.2 _)⟩
  | port q next ih => exact not_or.mpr ⟨hM _ _ _ hd.1, ih _ (hd.2 _)⟩
  | publish k v next ih =>
    by_cases hk : files k = .absent
    · exact fun h => ((meets_publish hk).mp h).elim (hM _ _ _ hd.1) (ih _ (hd.2 _))
    · exact fun h => ((meets_taken hk).mp h).elim (hM _ _ _ hd.1) (ih _ (hd.2 _))

theorem Does.meets_bind_iff (hd : p.Does S) (hM : ∀ files s a, S a → ¬ M files s a)
    (hp : p.play O files s = ⟨.ok x, files', s'⟩) : (p >>= f).Meets O M files s ↔ (f x).Meets O M files' s' := by
  rw [meets_bind, hp]
  constructor
  · rintro (h | ⟨y, files₁, s₁, he, h⟩)
    · exact absurd h (hd.not_meets hM)
    · cases he; exact h
  · exact fun h => .inr ⟨x, files', s', rfl, h⟩

theorem play_caught {f : Except ε α → Prog V A ε' β} {y : β} (hf : ∀ e, ∃ e', f (.error e) = .raise e')
    (h : (p.attempt >>= f).play O files s = ⟨.ok y, files', s'⟩) :
    ∃ x files₁ s₁, p.play O files s = ⟨.ok x, files₁, s₁⟩ ∧ (f (.ok x)).play O files₁ s₁ = ⟨.ok y, files', s'⟩ := by
  cases hp : p.play O files s with
  | mk outcome files₁ s₁ =>
    rw [play_bind_ok (play_attempt hp)] at h
    cases outcome with
    | ok x => exact ⟨x, files₁, s₁, rfl, h⟩
    | error e =>
      obtain ⟨e', he'⟩ := hf e
      rw [he'] at h
      cases h

/-! ## Looking around -/

section Looking
variable {τ : Type} {view : σ → τ} {S : Action V P → Prop} {v v' : τ}

/-- These actions publish nothing and show nothing new of the state. -/
structure Idle (O : Oracle service) (view : σ → τ) (S : Action V P → Prop) : Prop where
  reads : ∀ k w, ¬ S (.publish k w)
  ports : ∀ s q, S (.port q) → view (O.next s q) = view s

omit [DecidableEq K] in
theorem Idle.of_imp {S' : Action V P → Prop} (h : Idle O view S) (hS : ∀ a, S' a → S a) : Idle O view S' :=
  ⟨fun k w h' => h.reads k w (hS _ h'), fun s q h' => h.ports s q (hS _ h')⟩

theorem Does.play_idle (hd : p.Does S) (hS : Idle O view S) :
    (p.play O files s).files = files ∧ view (p.play O files s).state = view s := by
  induction p generalizing s with
  | done y => exact ⟨rfl, rfl⟩
  | raise e => exact ⟨rfl, rfl⟩
  | read k next ih => exact ih _ (hd.2 _)
  | port q next ih =>
    obtain ⟨hf, hs⟩ := ih (O.answer s q) (hd.2 _) (s := O.next s q)
    exact ⟨hf, hs.trans (hS.ports s q hd.1)⟩
  | publish k w next ih => exact absurd hd.1 (hS.reads k w)

/-- From every state with this view the program returns `x` and leaves the world as it
is. -/
def Gives (O : Oracle service) (view : σ → τ) (files : Files V) (v : τ) (p : Prog V A ε α) (x : α) : Prop :=
  ∀ s, view s = v → ∃ s', view s' = v ∧ p.play O files s = ⟨.ok x, files, s'⟩

variable {x : α} {f : α → Prog V A ε β} {y : β} {c : Prop} {e : ε} {o : Option α} {k : K} {r : Found (V k)} {q : P}
  {v₁ : τ} {w : V k} {files₁ : Files V} {s₁ : σ} {G' : β → Prop}

theorem gives_done : (Prog.done x : Prog V A ε α).Gives O view files v x := fun s hs => ⟨s, hs, rfl⟩

theorem Gives.bind (hp : p.Gives O view files v x) (hf : (f x).Gives O view files v y) :
    (p >>= f).Gives O view files v y := by
  intro s hs
  obtain ⟨s₁, hs₁, hp⟩ := hp s hs
  obtain ⟨s₂, hs₂, hf⟩ := hf s₁ hs₁
  exact ⟨s₂, hs₂, (play_bind_ok hp).trans hf⟩

theorem Gives.require [Decidable c] (hc : c) : (Prog.require c e : Prog V A ε Unit).Gives O view files v () :=
  fun s hs => ⟨s, hs, play_require hc⟩

theorem Gives.ofOption (ho : o = some x) : (Prog.ofOption o e : Prog V A ε α).Gives O view files v x := by
  subst ho
  exact gives_done

theorem Gives.read {next : Found (V k) → Prog V A ε α} (hr : (files k).content = r)
    (hn : (next r).Gives O view files v x) : (Prog.read k next).Gives O view files v x := by
  subst hr
  exact hn

theorem Gives.port {next : A q → Prog V A ε α} {r : A q} (hr : ∀ s, view s = v → O.answer s q = r)
    (hq : ∀ s, view (O.next s q) = view s) (hn : (next r).Gives O view files v x) :
    (Prog.port q next).Gives O view files v x := by
  intro s hs
  obtain ⟨s', hs', hplay⟩ := hn (O.next s q) ((hq s).trans hs)
  refine ⟨s', hs', ?_⟩
  rw [← hr s hs] at hplay
  exact hplay

theorem Gives.attempt (hp : p.Gives O view files v x) :
    (p.attempt : Prog V A ε' (Except ε α)).Gives O view files v (.ok x) := by
  intro s hs
  obtain ⟨s', hs', hp⟩ := hp s hs
  exact ⟨s', hs', play_attempt hp⟩

/-- From every state with this view the program returns `x` and leaves this world. -/
def Goes (O : Oracle service) (view : σ → τ) (files : Files V) (v : τ) (p : Prog V A ε α) (x : α) (files' : Files V) (v' : τ) :
    Prop :=
  ∀ s, view s = v → ∃ s', view s' = v' ∧ p.play O files s = ⟨.ok x, files', s'⟩

theorem Gives.goes (hp : p.Gives O view files v x) : p.Goes O view files v x files v := hp

theorem Goes.bind {files₂ : Files V} {v₂ : τ} (hp : p.Goes O view files v x files' v')
    (hf : (f x).Goes O view files' v' y files₂ v₂) : (p >>= f).Goes O view files v y files₂ v₂ := by
  intro s hs
  obtain ⟨s₁, hs₁, hp⟩ := hp s hs
  obtain ⟨s₂, hs₂, hf⟩ := hf s₁ hs₁
  exact ⟨s₂, hs₂, (play_bind_ok hp).trans hf⟩

theorem Goes.attempt (hp : p.Goes O view files v x files' v') :
    (p.attempt : Prog V A ε' (Except ε α)).Goes O view files v (.ok x) files' v' := by
  intro s hs
  obtain ⟨s', hs', hp⟩ := hp s hs
  exact ⟨s', hs', play_attempt hp⟩

theorem Goes.port {next : A q → Prog V A ε α} {r : A q} (hr : ∀ s, view s = v → O.answer s q = r)
    (hq : ∀ s, view s = v → view (O.next s q) = v₁) (hn : (next r).Goes O view files v₁ x files' v') :
    (Prog.port q next).Goes O view files v x files' v' := by
  intro s hs
  obtain ⟨s', hs', hplay⟩ := hn (O.next s q) (hq s hs)
  refine ⟨s', hs', ?_⟩
  rw [← hr s hs] at hplay
  exact hplay

theorem Goes.publish {next : Published → Prog V A ε α} (hk : files k = .absent)
    (hn : (next .created).Goes O view (files.put k (.bound w)) v x files' v') :
    (Prog.publish k w next).Goes O view files v x files' v' := by
  intro s hs
  obtain ⟨s', hs', hplay⟩ := hn s hs
  exact ⟨s', hs', (play_publish hk).trans hplay⟩

theorem Goes.taken {next : Published → Prog V A ε α} (hk : files k ≠ .absent)
    (hn : (next .taken).Goes O view files v x files' v') : (Prog.publish k w next).Goes O view files v x files' v' := by
  intro s hs
  obtain ⟨s', hs', hplay⟩ := hn s hs
  exact ⟨s', hs', (play_taken hk).trans hplay⟩

theorem Goes.meets (hp : p.Goes O view files v x files' v') (hs : view s = v)
    (hf : ∀ s', view s' = v' → (f x).Meets O M files' s') : (p >>= f).Meets O M files s := by
  obtain ⟨s', hs', hp⟩ := hp s hs
  exact Meets.after hp (hf s' hs')

/-- From every state with this view the program raises, having looked around only. -/
def Fails (O : Oracle service) (view : σ → τ) (S : Action V P → Prop) (files : Files V) (v : τ) (p : Prog V A ε α) : Prop :=
  ∀ s, view s = v → (∃ e s', view s' = v ∧ p.play O files s = ⟨.error e, files, s'⟩) ∧
    ∀ M : Files V → σ → Action V P → Prop, (∀ files s a, S a → ¬ M files s a) → ¬ p.Meets O M files s

theorem fails_raise : (Prog.raise e : Prog V A ε α).Fails O view S files v :=
  fun s hs => ⟨⟨e, s, hs, rfl⟩, fun _ _ h => h⟩

theorem Fails.left (hp : p.Fails O view S files v) : (p >>= f).Fails O view S files v := by
  intro s hs
  obtain ⟨⟨e, s', hs', hplay⟩, hmeets⟩ := hp s hs
  refine ⟨⟨e, s', hs', play_bind_error hplay⟩, fun M hM h => ?_⟩
  obtain h | ⟨x, files₁, s₁, hx, h⟩ := meets_bind.mp h
  · exact hmeets M hM h
  · cases hplay.symm.trans hx

theorem Gives.fails (hp : p.Gives O view files v x) (hd : p.Does S) (hf : (f x).Fails O view S files v) :
    (p >>= f).Fails O view S files v := by
  intro s hs
  obtain ⟨s₁, hs₁, hplay⟩ := hp s hs
  obtain ⟨⟨e, s', hs', hplay'⟩, hmeets⟩ := hf s₁ hs₁
  refine ⟨⟨e, s', hs', (play_bind_ok hplay).trans hplay'⟩, fun M hM h => ?_⟩
  obtain h | ⟨y, files₂, s₂, hy, h⟩ := meets_bind.mp h
  · exact hd.not_meets hM h
  · cases hplay.symm.trans hy
    exact hmeets M hM h

theorem Fails.attempt {f : Except ε α → Prog V A ε' β} (hp : p.Fails O view S files v)
    (hf : ∀ e, (f (.error e)).Fails O view S files v) : (p.attempt >>= f).Fails O view S files v := by
  intro s hs
  obtain ⟨⟨e, s₁, hs₁, hplay⟩, hmeets⟩ := hp s hs
  obtain ⟨⟨e', s', hs', hplay'⟩, hmeets'⟩ := hf e s₁ hs₁
  have hcaught : (p.attempt : Prog V A ε' (Except ε α)).play O files s = ⟨.ok (.error e), files, s₁⟩ := play_attempt hplay
  refine ⟨⟨e', s', hs', (play_bind_ok hcaught).trans hplay'⟩, fun M hM h => ?_⟩
  obtain h | ⟨y, files₂, s₂, hy, h⟩ := meets_bind.mp h
  · exact hmeets M hM (meets_attempt.mp h)
  · cases hcaught.symm.trans hy
    exact hmeets' M hM h

theorem Fails.require [Decidable c] (hc : ¬ c) : (Prog.require c e : Prog V A ε Unit).Fails O view S files v := by
  unfold Prog.require
  rw [if_neg hc]
  exact fails_raise

theorem Fails.read {next : Found (V k) → Prog V A ε α} (hk : S (.read k)) (hr : (files k).content = r)
    (hn : (next r).Fails O view S files v) : (Prog.read k next).Fails O view S files v := by
  subst hr
  intro s hs
  obtain ⟨hplay, hmeets⟩ := hn s hs
  exact ⟨hplay, fun M hM => not_or.mpr ⟨hM _ _ _ hk, hmeets M hM⟩⟩

/-- From some state with this view the program returns `x` and leaves the files. -/
def Yields (O : Oracle service) (view : σ → τ) (files : Files V) (v : τ) (p : Prog V A ε α) (x : α) : Prop :=
  ∃ s s', view s = v ∧ p.play O files s = ⟨.ok x, files, s'⟩

theorem Yields.bind_inv (h : (p >>= f).Yields O view files v y) (hd : p.Does S) (hS : Idle O view S) :
    ∃ x, p.Yields O view files v x ∧ (f x).Yields O view files v y := by
  obtain ⟨s, s', hs, h⟩ := h
  obtain ⟨x, files₁, s₁, hx, hy⟩ := play_bind_inv h
  have hidle : (p.play O files s).files = files ∧ view (p.play O files s).state = view s := hd.play_idle hS
  rw [hx] at hidle
  obtain ⟨rfl, hs₁⟩ := hidle
  exact ⟨x, ⟨s, s₁, hs, hx⟩, s₁, s', hs₁.trans hs, hy⟩

theorem Yields.require_inv [Decidable c] {x : Unit} (h : (Prog.require c e : Prog V A ε Unit).Yields O view files v x) :
    c := by
  obtain ⟨s, s', -, h⟩ := h
  exact (play_require_inv h).1

theorem Yields.ofOption_inv (h : (Prog.ofOption o e : Prog V A ε α).Yields O view files v x) : o = some x := by
  obtain ⟨s, s', -, h⟩ := h
  cases o with
  | none => cases h
  | some y => cases h; rfl

theorem Yields.done_inv {y : α} (h : (Prog.done x : Prog V A ε α).Yields O view files v y) : y = x := by
  obtain ⟨s, s', -, h⟩ := h
  cases h
  rfl

theorem Yields.raise_inv (h : (Prog.raise e : Prog V A ε α).Yields O view files v x) : False := by
  obtain ⟨s, s', -, h⟩ := h
  cases h

theorem Yields.read_inv {next : Found (V k) → Prog V A ε α} (h : (Prog.read k next).Yields O view files v x) :
    (next (files k).content).Yields O view files v x := h

theorem Yields.port_inv {next : A q → Prog V A ε α} (h : (Prog.port q next).Yields O view files v x)
    (hq : ∀ s, view (O.next s q) = view s) : ∃ s, view s = v ∧ (next (O.answer s q)).Yields O view files v x := by
  obtain ⟨s, s', hs, h⟩ := h
  exact ⟨s, hs, O.next s q, s', (hq s).trans hs, h⟩

theorem Gives.eq_of_yields {y : α} (hp : p.Gives O view files v x) (h : p.Yields O view files v y) : y = x := by
  obtain ⟨s, s', hs, h⟩ := h
  obtain ⟨s₁, -, hplay⟩ := hp s hs
  cases hplay.symm.trans h
  rfl

theorem Fails.not_yields (hp : p.Fails O view S files v) : ¬ p.Yields O view files v x := by
  rintro ⟨s, s', hs, h⟩
  obtain ⟨⟨e, s₁, -, hplay⟩, -⟩ := hp s hs
  cases hplay.symm.trans h

/-- From every state with this view the program leaves the world as it is, however it
ends. -/
def Keeps (O : Oracle service) (view : σ → τ) (files : Files V) (v : τ) (p : Prog V A ε α) : Prop :=
  ∀ s, view s = v → (p.play O files s).files = files ∧ view (p.play O files s).state = v

theorem Does.keeps (hd : p.Does S) (hS : Idle O view S) : p.Keeps O view files v := by
  intro s hs
  obtain ⟨hf, hv⟩ := hd.play_idle hS (s := s)
  exact ⟨hf, hv.trans hs⟩

theorem Keeps.bind (hp : p.Keeps O view files v) (hf : ∀ x, p.Yields O view files v x → (f x).Keeps O view files v) :
    (p >>= f).Keeps O view files v := by
  intro s hs
  obtain ⟨hfiles, hview⟩ := hp s hs
  cases hplay : p.play O files s with
  | mk outcome files₁ s₁ =>
    rw [hplay] at hfiles hview
    obtain rfl : files₁ = files := hfiles
    cases outcome with
    | error e => rw [play_bind_error hplay]; exact ⟨rfl, hview⟩
    | ok x => rw [play_bind_ok hplay]; exact hf x ⟨s, s₁, hs, hplay⟩ s₁ hview

theorem Gives.keeps (hp : p.Gives O view files v x) : p.Keeps O view files v := by
  intro s hs
  obtain ⟨s', hs', hplay⟩ := hp s hs
  rw [hplay]
  exact ⟨rfl, hs'⟩

theorem Gives.yields_eq {y : α} (hp : p.Gives O view files v x) (h : p.Yields O view files v y) : y = x := by
  obtain ⟨s, s', hs, h⟩ := h
  obtain ⟨s'', -, hplay⟩ := hp s hs
  cases hplay.symm.trans h
  rfl

/-- From every state with this view the program publishes nothing, and where it raises
it leaves the view as it was. -/
def Refuses (O : Oracle service) (view : σ → τ) (files : Files V) (v : τ) (p : Prog V A ε α) : Prop :=
  ∀ s, view s = v → (p.play O files s).files = files ∧
    ∀ e, (p.play O files s).outcome = .error e → view (p.play O files s).state = v

theorem Keeps.refuses (hp : p.Keeps O view files v) : p.Refuses O view files v :=
  fun s hs => ⟨(hp s hs).1, fun _ _ => (hp s hs).2⟩

theorem Keeps.refuses_bind (hp : p.Keeps O view files v)
    (hf : ∀ x, p.Yields O view files v x → (f x).Refuses O view files v) : (p >>= f).Refuses O view files v := by
  intro s hs
  obtain ⟨hfiles, hview⟩ := hp s hs
  cases hplay : p.play O files s with
  | mk outcome files₁ s₁ =>
    rw [hplay] at hfiles hview
    obtain rfl : files₁ = files := hfiles
    cases outcome with
    | error e => rw [play_bind_error hplay]; exact ⟨rfl, fun _ _ => hview⟩
    | ok x => rw [play_bind_ok hplay]; exact hf x ⟨s, s₁, hs, hplay⟩ s₁ hview

theorem refuses_raise : (Prog.raise e : Prog V A ε α).Refuses O view files v := fun _ hs => ⟨rfl, fun _ _ => hs⟩

theorem Refuses.port {next : A q → Prog V A ε α} (h : ∀ s, view s = v → (∃ x, next (O.answer s q) = .done x) ∨
      view (O.next s q) = v ∧ (next (O.answer s q)).Refuses O view files v) :
    (Prog.port q next).Refuses O view files v := by
  intro s hs
  obtain ⟨x, hx⟩ | ⟨hview, hp⟩ := h s hs
  · change ((next (O.answer s q)).play O files (O.next s q)).files = files ∧ ∀ e,
      ((next (O.answer s q)).play O files (O.next s q)).outcome = .error e → _
    rw [hx]
    exact ⟨rfl, fun _ he => nomatch he⟩
  · exact hp _ hview

theorem Does.play_portless (hd : p.Does S) (hS : ∀ q, ¬ S (.port q)) : (p.play O files s).state = s := by
  induction p generalizing files s with
  | done y => rfl
  | raise e => rfl
  | read k next ih => exact ih _ (hd.2 _)
  | port q next ih => exact absurd hd.1 (hS q)
  | publish k w next ih =>
    by_cases hk : files k = .absent
    · rw [play_publish hk]; exact ih _ (hd.2 _)
    · rw [play_taken hk]; exact ih _ (hd.2 _)

/-! ## Interrupted -/

/-- Played alone, the program comes through this world with an action still ahead: a
crash may leave it so. -/
def Passes (O : Oracle service) (view : σ → τ) (files : Files V) (s : σ) (p : Prog V A ε α) (files' : Files V) (v' : τ) : Prop :=
  p.Meets O (fun f s _ => f = files' ∧ view s = v') files s

theorem Does.passes (hd : p.Does S) (hS : Idle O view S) (h : p.Passes O view files s files' v') :
    files' = files ∧ v' = view s := by
  unfold Passes at h
  induction p generalizing s with
  | done y => exact h.elim
  | raise e => exact h.elim
  | read k next ih =>
    obtain ⟨rfl, rfl⟩ | h := h
    · exact ⟨rfl, rfl⟩
    · exact ih _ (hd.2 _) h
  | port q next ih =>
    obtain ⟨rfl, rfl⟩ | h := h
    · exact ⟨rfl, rfl⟩
    · obtain ⟨hf, hv⟩ := ih _ (hd.2 _) h
      exact ⟨hf, hv.trans (hS.ports s q hd.1)⟩
  | publish k w next ih => exact absurd hd.1 (hS.reads k w)

theorem Does.passes_files (hd : p.Does S) (hS : ∀ k w, ¬ S (.publish k w)) (h : p.Passes O view files s files' v') :
    files' = files := by
  unfold Passes at h
  induction p generalizing s with
  | done y => exact h.elim
  | raise e => exact h.elim
  | read k next ih =>
    obtain ⟨rfl, -⟩ | h := h
    · rfl
    · exact ih _ (hd.2 _) h
  | port q next ih =>
    obtain ⟨rfl, -⟩ | h := h
    · rfl
    · exact ih _ (hd.2 _) h
  | publish k w next ih => exact absurd hd.1 (hS k w)

theorem Goes.passes (hp : p.Goes O view files v x files₁ v₁) (hs : view s = v)
    (h : (p >>= f).Passes O view files s files' v') :
    p.Passes O view files s files' v' ∨ ∃ s', view s' = v₁ ∧ (f x).Passes O view files₁ s' files' v' := by
  obtain h | ⟨y, files₂, s₂, hy, h⟩ := meets_bind.mp h
  · exact .inl h
  · obtain ⟨s', hs', hplay⟩ := hp s hs
    cases hplay.symm.trans hy
    exact .inr ⟨s₂, hs', h⟩

theorem Gives.passes (hp : p.Gives O view files v x) (hd : p.Does S) (hS : Idle O view S) (hs : view s = v)
    (h : (p >>= f).Passes O view files s files' v') :
    (files' = files ∧ v' = v) ∨ ∃ s', view s' = v ∧ (f x).Passes O view files s' files' v' := by
  obtain h | h := hp.goes.passes hs h
  · obtain ⟨hf, hv⟩ := hd.passes hS h
    exact .inl ⟨hf, hv.trans hs⟩
  · exact .inr h

theorem Does.passes_bind (hd : p.Does S) (hS : Idle O view S) (hs : view s = v)
    (h : (p >>= f).Passes O view files s files' v') : (files' = files ∧ v' = v) ∨
      ∃ x s', view s' = v ∧ p.Yields O view files v x ∧ (f x).Passes O view files s' files' v' := by
  obtain h' | ⟨x, files₁, s₁, hx, h'⟩ := meets_bind.mp h
  · obtain ⟨hf, hv⟩ := hd.passes hS h'
    exact .inl ⟨hf, hv.trans hs⟩
  · have hidle : (p.play O files s).files = files ∧ view (p.play O files s).state = view s := hd.play_idle hS
    rw [hx] at hidle
    obtain ⟨rfl, hv⟩ := hidle
    exact .inr ⟨x, s₁, hv.trans hs, ⟨s, s₁, hs, hx⟩, h'⟩

theorem Does.played_bind (hd : p.Does S) (hS : Idle O view S) (hs : view s = v)
    (h : (p >>= f).play O files s = ⟨.ok y, files₁, s₁⟩) :
    ∃ x s', view s' = v ∧ p.Yields O view files v x ∧ (f x).play O files s' = ⟨.ok y, files₁, s₁⟩ := by
  obtain ⟨x, files₂, s', hx, hy⟩ := play_bind_inv h
  have hidle : (p.play O files s).files = files ∧ view (p.play O files s).state = view s := hd.play_idle hS
  rw [hx] at hidle
  obtain ⟨rfl, hs'⟩ := hidle
  exact ⟨x, s', hs'.trans hs, ⟨s, s', hs, hx⟩, hy⟩

/-- A call that returns, and an interruption of it: after a first part that looks around
both are in the rest, or nothing had happened. -/
theorem Does.interrupted (hd : p.Does S) (hS : Idle O view S) (hs : view s = v)
    (hrun : (p >>= f).play O files s = ⟨.ok y, files₁, s₁⟩)
    (h : (files' = files ∧ v' = v) ∨ (p >>= f).Passes O view files s files' v') :
    ∃ x s', view s' = v ∧ p.Yields O view files v x ∧ (f x).play O files s' = ⟨.ok y, files₁, s₁⟩ ∧
      ((files' = files ∧ v' = v) ∨ (f x).Passes O view files s' files' v') := by
  obtain ⟨x, files₂, s', hx, hy⟩ := play_bind_inv hrun
  have hidle : (p.play O files s).files = files ∧ view (p.play O files s).state = view s := hd.play_idle hS
  rw [hx] at hidle
  obtain ⟨rfl, hs'⟩ := hidle
  refine ⟨x, s', hs'.trans hs, ⟨s, s', hs, hx⟩, hy, ?_⟩
  obtain hsame | h := h
  · exact .inl hsame
  obtain h | ⟨x', files₃, s₃, hx', h⟩ := meets_bind.mp h
  · obtain ⟨hf, hv⟩ := hd.passes hS h
    exact .inl ⟨hf, hv.trans hs⟩
  · cases hx.symm.trans hx'
    exact .inr h

/-- The world and the action that the program comes to after so many. -/
def walk (O : Oracle service) : Nat → Files V → σ → Prog V A ε α → Option (Files V × σ × Action V P)
  | _, _, _, .done _ => none
  | _, _, _, .raise _ => none
  | 0, files, s, .read k _ => some (files, s, .read k)
  | 0, files, s, .publish k w _ => some (files, s, .publish k w)
  | 0, files, s, .port q _ => some (files, s, .port q)
  | n + 1, files, s, .read k next => walk O n files s (next (files k).content)
  | n + 1, files, s, .publish k w next =>
    match files k with
    | .absent => walk O n (files.put k (.bound w)) s (next .created)
    | _ => walk O n files s (next .taken)
  | n + 1, files, s, .port q next => walk O n files (O.next s q) (next (O.answer s q))

theorem meets_walk {n : Nat} {a : Action V P} (h : p.walk O n files s = some (files', s', a)) (hM : M files' s' a) :
    p.Meets O M files s := by
  induction p generalizing n files s with
  | done y => cases n <;> cases h
  | raise e => cases n <;> cases h
  | read k next ih =>
    cases n with
    | zero => cases h; exact .inl hM
    | succ n => exact .inr (ih _ h)
  | port q next ih =>
    cases n with
    | zero => cases h; exact .inl hM
    | succ n => exact .inr (ih _ h)
  | publish k w next ih =>
    cases n with
    | zero => cases h; exact .inl hM
    | succ n =>
      by_cases hk : files k = .absent
      · simp only [walk, hk] at h
        exact (meets_publish hk).mpr (.inr (ih _ h))
      · simp only [walk] at h
        exact (meets_taken hk).mpr (.inr (ih _ h))

/-- What the program returns in one world, when it is `G`, it returns in the other. -/
def Carries (O : Oracle service) (view : σ → τ) (files : Files V) (v : τ) (files' : Files V) (v' : τ) (G : α → Prop)
    (p : Prog V A ε α) : Prop :=
  ∀ s x files₁ s₁, view s = v → p.play O files s = ⟨.ok x, files₁, s₁⟩ → G x → p.Gives O view files' v' x

variable {G : α → Prop}

theorem carries_done : (Prog.done x : Prog V A ε α).Carries O view files v files' v' G := by
  rintro s y files₁ s₁ - he -
  cases he
  exact gives_done

theorem carries_raise : (Prog.raise e : Prog V A ε α).Carries O view files v files' v' G := by
  rintro s y files₁ s₁ - he -
  cases he

theorem Carries.bind (hp : p.Carries O view files v files' v' G) (hd : p.Does S) (hS : Idle O view S)
    (hf : ∀ x, G x → (f x).Carries O view files v files' v' G')
    (hG : ∀ x, ¬ G x → ∀ s y files₁ s₁, (f x).play O files s = ⟨.ok y, files₁, s₁⟩ → ¬ G' y) :
    (p >>= f).Carries O view files v files' v' G' := by
  intro s y files₁ s₁ hs he hg
  obtain ⟨x, files₂, s₂, hx, hy⟩ := play_bind_inv he
  have hidle : (p.play O files s).files = files ∧ view (p.play O files s).state = view s := hd.play_idle hS
  rw [hx] at hidle
  obtain ⟨rfl, hs₂⟩ := hidle
  by_cases hgx : G x
  · exact (hp s x _ s₂ hs hx hgx).bind (hf x hgx s₂ y _ s₁ (hs₂.trans hs) hy hg)
  · exact absurd hg (hG x hgx s₂ y _ s₁ hy)

theorem Carries.seq (hp : p.Carries O view files v files' v' fun _ => True) (hd : p.Does S) (hS : Idle O view S)
    (hf : ∀ x, (f x).Carries O view files v files' v' G') : (p >>= f).Carries O view files v files' v' G' :=
  hp.bind hd hS (fun x _ => hf x) fun _ h => absurd trivial h

theorem Carries.require [Decidable c] {G : Unit → Prop} :
    (Prog.require c e : Prog V A ε Unit).Carries O view files v files' v' G := by
  unfold Prog.require
  split
  · exact carries_done
  · exact carries_raise

theorem Carries.ofOption : (Prog.ofOption o e : Prog V A ε α).Carries O view files v files' v' G := by
  cases o with
  | none => exact carries_raise
  | some x => exact carries_done

theorem Carries.read {next : Found (V k) → Prog V A ε α} (hk : ∀ w, files k = .bound w → files' k = .bound w)
    (hfound : ∀ w, files k = .bound w → (next (.found w)).Carries O view files v files' v' G)
    (hmissing : ∀ s x files₁ s₁, (next .missing).play O files s = ⟨.ok x, files₁, s₁⟩ → ¬ G x)
    (hmalformed : ∀ s x files₁ s₁, (next .malformed).play O files s = ⟨.ok x, files₁, s₁⟩ → ¬ G x) :
    (Prog.read k next).Carries O view files v files' v' G := by
  intro s x files₁ s₁ hs he hg
  cases hfile : files k with
  | absent =>
    simp only [play, hfile, File.content] at he
    exact absurd hg (hmissing s x files₁ s₁ he)
  | torn =>
    simp only [play, hfile, File.content] at he
    exact absurd hg (hmalformed s x files₁ s₁ he)
  | bound w =>
    simp only [play, hfile, File.content] at he
    exact Gives.read (by rw [hk w hfile]; rfl) (hfound w hfile s x files₁ s₁ hs he hg)

theorem Carries.port {next : A q → Prog V A ε α} (hq : ∀ s, view (O.next s q) = view s)
    (hsame : ∀ s s', view s = v → view s' = v' → O.answer s' q = O.answer s q)
    (hn : ∀ r, (next r).Carries O view files v files' v' G) :
    (Prog.port q next).Carries O view files v files' v' G := by
  intro s x files₁ s₁ hs he hg
  exact Gives.port (fun s' hs' => hsame s s' hs hs') hq (hn _ (O.next s q) x files₁ s₁ ((hq s).trans hs) he hg)

/-- What the program found in one world it finds in another, also under another oracle,
when the files that it reads are the same and the ports answer alike. -/
theorem Does.gives_elsewhere {service' : Service A σ} {O' : Oracle service'} (hd : p.Does S) (hS : Idle O view S)
    (hS' : Idle O' view S) (hreads : ∀ k, S (.read k) → files' k = files k)
    (hports : ∀ s s' q, S (.port q) → view s = v → view s' = v' → O'.answer s' q = O.answer s q)
    (h : p.Yields O view files v x) : p.Gives O' view files' v' x := by
  obtain ⟨s, s₁, hs, h⟩ := h
  induction p generalizing s with
  | done y => cases h; exact gives_done
  | raise e => cases h
  | read k next ih =>
    refine Gives.read (r := (files k).content) (by rw [hreads k hd.1]) ?_
    exact ih _ (hd.2 _) s hs h
  | port q next ih =>
    refine Gives.port (r := O.answer s q) (fun s' hs' => hports s s' q hd.1 hs hs') (fun s' => hS'.ports s' q hd.1) ?_
    exact ih _ (hd.2 _) (O.next s q) ((hS.ports s q hd.1).trans hs) h
  | publish k w next ih => exact absurd hd.1 (hS.reads k w)

end Looking

end Prog

end AvoLib
