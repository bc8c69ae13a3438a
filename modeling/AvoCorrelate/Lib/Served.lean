import AvoCorrelate.Lib.Interleaving
/-!
# Ports with a state behind them

`Lib.Interleaving` lets a port give any answer. Here something stands behind the
ports, shared by every call: a service that can give an answer only in some of
its states and moves to its next state by giving it (files that are created and
removed, a source of fresh names, a remote store). A served run is a run of the
calls in which every answer is one that the service could give.
-/
namespace AvoLib

variable {K P : Type} [DecidableEq K] {V : K → Type} {A : P → Type} {ε α J σ τ : Type}

/-- The state after port `p` gave this answer, if it can give it. -/
abbrev Service (A : P → Type) (σ : Type) := (p : P) → A p → σ → Option σ

/-- The calls and the state behind their ports. -/
structure Served (J : Type) (V : K → Type) (A : P → Type) (ε α σ : Type) where
  config : Config J V A ε α
  state : σ

/-- What a move does behind the ports: only a call at a port reaches it. -/
def Service.after (service : Service A σ) (c : Config J V A ε α) (s : σ) : Move J A → Option σ
  | .start _ => some s
  | .crash _ => some s
  | .step i n =>
    match c.threads[i]? with
    | none => some s
    | some t =>
      match t.status with
      | .running (.port p _) => service p (n.answer p) s
      | _ => some s

/-- One move; it is not possible with an answer that the service cannot give. -/
def serve (service : Service A σ) (program : J → Prog V A ε α) (w : Served J V A ε α σ) (m : Move J A) :
    Except Unit (Served J V A ε α σ) := do
  let c ← perform program w.config m
  let s ← orRaise (service.after w.config w.state m) ()
  return ⟨c, s⟩

/-- What one step of a call does behind the ports. -/
inductive Answered (service : Service A σ) (t t' : Thread J V A ε α) (s : σ) : σ → Prop
  | port {p : P} {r : A p} {next : A p → Prog V A ε α} {s' : σ} (hs : t.status = .running (.port p next))
    (hstatus : t'.status = .running (next r)) (hlog : t'.log = .port p r :: t.log) (hserved : service p r s = some s') :
    Answered service t t' s s'
  | other (hs : ∀ p next, t.status ≠ .running (.port p next))
    (hlog : ∀ p r, (.port p r : Event V A) ∈ t'.log → .port p r ∈ t.log) : Answered service t t' s s

section Cases
variable {service : Service A σ} {program : J → Prog V A ε α} {w w' : Served J V A ε α σ} {m : Move J A}

theorem serve_ok :
    serve service program w m = .ok w' ↔
      perform program w.config m = .ok w'.config ∧ service.after w.config w.state m = some w'.state := by
  cases w' with
  | mk c s =>
    simp only [serve, bind_ok, orRaise_ok, pure_ok]
    constructor
    · rintro ⟨c', hc, s', hs, he⟩
      cases he
      exact ⟨hc, hs⟩
    · rintro ⟨hc, hs⟩
      exact ⟨c, hc, s, hs, rfl⟩

theorem Stepped.port_mem {files files' : Files V} {t t' : Thread J V A ε α} (h : Stepped files t files' t')
    (hs : ∀ p next, t.status ≠ .running (.port p next)) {p : P} {r : A p} (hm : (.port p r : Event V A) ∈ t'.log) :
    .port p r ∈ t.log := by
  cases h with
  | port hst => exact absurd hst (hs _ _)
  | read | refused | wrote | tore => simpa using hm
  | create => exact hm

theorem serve_cases (h : serve service program w m = .ok w') :
    (∃ call, m = .start call ∧
      w' = ⟨⟨w.config.files, w.config.threads ++ [⟨call, .running (program call), []⟩]⟩, w.state⟩) ∨
    (∃ i t, m = .crash i ∧ w.config.threads[i]? = some t ∧
      w' = ⟨⟨w.config.files, w.config.threads.set i { t with status := .crashed }⟩, w.state⟩) ∨
    (∃ i n t files' t' s', m = .step i n ∧ w.config.threads[i]? = some t ∧ Stepped w.config.files t files' t' ∧
      Answered service t t' w.state s' ∧ w' = ⟨⟨files', w.config.threads.set i t'⟩, s'⟩) := by
  obtain ⟨hc, hs⟩ := serve_ok.mp h
  cases w' with
  | mk c' s' =>
    rcases perform_cases hc with ⟨call, rfl, rfl⟩ | ⟨i, t, rfl, ht, rfl⟩ | ⟨i, n, t, files', t', rfl, ht, hst, rfl⟩
    · cases hs
      exact .inl ⟨call, rfl, rfl⟩
    · cases hs
      exact .inr (.inl ⟨i, t, rfl, ht, rfl⟩)
    · refine .inr (.inr ⟨i, n, t, files', t', s', rfl, ht, hst, ?_, rfl⟩)
      simp only [Service.after, ht] at hs
      split at hs
      · next p next hport =>
        -- the answer in the log is the one that nature picked
        have hstep : t.step n w.config.files =
            some (w.config.files, { t with status := .running (next (n.answer p)), log := .port p (n.answer p) :: t.log }) := by
          unfold Thread.step
          rw [hport]
        simp only [perform, bind_ok, orRaise_ok, pure_ok] at hc
        obtain ⟨u, hu, ⟨f, u'⟩, hu', he⟩ := hc
        rw [ht] at hu
        cases hu
        rw [hstep] at hu'
        cases hu'
        have hset : w.config.threads.set i _ = w.config.threads.set i t' := congrArg Config.threads he
        have hlt := (List.getElem?_eq_some_iff.mp ht).1
        have hget : (w.config.threads.set i t')[i]? = some t' := List.getElem?_set_self hlt
        rw [← hset, List.getElem?_set_self hlt] at hget
        cases hget
        exact .port hport rfl rfl hs
      · next hport =>
        cases hs
        refine .other (fun p next hst' => hport p next hst') fun p r => hst.port_mem fun p next hst' => hport p next hst'

end Cases

/-! ## Runs -/

/-- Nothing was called yet. -/
def Served.idle (files : Files V) (s : σ) : Served J V A ε α σ := ⟨Config.idle files, s⟩

section Runs
variable {service : Service A σ} {program : J → Prog V A ε α} {w w' : Served J V A ε α σ}

variable {Pm : Served J V A ε α σ → Move J A → Prop} {m : Move J A} {t' t : Thread J V A ε α} {files : Files V}
  {s s' : σ} {x : τ}

theorem Reaches.config (h : Reaches (serve service program) Pm w w') :
    Reaches (perform program) (fun _ _ => True) w.config w'.config := by
  induction h with
  | init => exact .init
  | step _ _ he ih => exact .step ih trivial (serve_ok.mp he).1

/-! ## Fresh names -/

/-- The move is a step of a call at port `p`, and this is the answer. -/
def Served.Asks (w : Served J V A ε α σ) (m : Move J A) (p : P) (r : A p) : Prop :=
  ∃ (i : Nat) (n : Nature A) (t : Thread J V A ε α) (next : A p → Prog V A ε α),
    m = .step i n ∧ w.config.threads[i]? = some t ∧ t.status = .running (.port p next) ∧ n.answer p = r

theorem serve_asks {i : Nat} {p : P} {r : A p} (h : serve service program w m = .ok w')
    (ht' : w'.config.threads[i]? = some t') (hm : (.port p r : Event V A) ∈ t'.log) :
    (∃ t, w.config.threads[i]? = some t ∧ .port p r ∈ t.log) ∨ w.Asks m p r := by
  have hc := (serve_ok.mp h).1
  rcases serve_cases h with ⟨call, rfl, rfl⟩ | ⟨j, u, rfl, hu, rfl⟩ | ⟨j, n, u, files', u', s', rfl, hu, hst, ha, rfl⟩
  · rcases getElem?_snoc_cases ht' with ht' | ⟨_, rfl⟩
    · exact .inl ⟨t', ht', hm⟩
    · cases hm
  · rcases getElem?_set_cases ht' with ⟨rfl, rfl⟩ | ⟨_, ht'⟩
    · exact .inl ⟨u, hu, hm⟩
    · exact .inl ⟨t', ht', hm⟩
  · rcases getElem?_set_cases ht' with ⟨rfl, rfl⟩ | ⟨_, ht'⟩
    · cases ha with
      | other hs hports => exact .inl ⟨u, hu, hports _ _ hm⟩
      | @port q rq next _ hs hstatus hlog hserved =>
        rw [hlog] at hm
        rcases List.mem_cons.mp hm with he | hm
        · cases he
          refine .inr ⟨i, n, u, next, rfl, hu, hs, ?_⟩
          -- the answer in the log is the one that nature picked
          simp only [perform, bind_ok, orRaise_ok, pure_ok] at hc
          obtain ⟨v, hv, ⟨f, v'⟩, hv', he⟩ := hc
          rw [hu] at hv
          cases hv
          have hstep : v' = { u with status := .running (next (n.answer p)), log := .port p (n.answer p) :: u.log } := by
            unfold Thread.step at hv'
            rw [hs] at hv'
            cases hv'
            rfl
          have hget := congrArg (fun c : Config J V A ε α => c.threads[i]?) he
          have hlt := (List.getElem?_eq_some_iff.mp hu).1
          simp only [List.getElem?_set_self hlt, hstep, Option.some.injEq] at hget
          have hl := congrArg Thread.log hget
          rw [hlog] at hl
          cases hl
          rfl
        · exact .inl ⟨u, hu, hm⟩
    · exact .inl ⟨t', ht', hm⟩

theorem Reaches.answers {X : (p : P) → A p → Prop}
    (h : Reaches (serve service program) (fun w m => ∀ p r, w.Asks m p r → X p r) (Served.idle files s) w) :
    ∀ {i : Nat} {t : Thread J V A ε α} {p : P} {r : A p}, w.config.threads[i]? = some t → .port p r ∈ t.log → X p r := by
  induction h with
  | init =>
    intro i t p r ht
    simp [Served.idle, Config.idle] at ht
  | step _ hp he ih =>
    intro i t p r ht hm
    rcases serve_asks he ht hm with ⟨u, hu, hm⟩ | hasks
    · exact ih hu hm
    · exact hp p r hasks

/-- The names that ports hand out: which event hands one out, and the names that
the state remembers. -/
structure Names (service : Service A σ) (τ : Type) where
  name : (p : P) → A p → Option τ
  issued : σ → List τ
  fresh : ∀ {p r s s' x}, service p r s = some s' → name p r = some x → x ∉ issued s ∧ x ∈ issued s'
  kept : ∀ {p r s s' x}, service p r s = some s' → x ∈ issued s → x ∈ issued s'

variable (N : Names service τ)

/-- The call was handed the name. -/
def Names.Drew (t : Thread J V A ε α) (x : τ) : Prop := ∃ p r, (.port p r : Event V A) ∈ t.log ∧ N.name p r = some x

/-- Names that calls were handed are issued, and no two calls have one name. -/
structure Names.Distinct (w : Served J V A ε α σ) : Prop where
  issued : ∀ {i : Nat} {t : Thread J V A ε α} {x : τ}, w.config.threads[i]? = some t → N.Drew t x → x ∈ N.issued w.state
  unique : ∀ {i j : Nat} {t u : Thread J V A ε α} {x : τ}, w.config.threads[i]? = some t → w.config.threads[j]? = some u →
    N.Drew t x → N.Drew u x → i = j

variable {N}

omit [DecidableEq K] in
theorem Answered.drew (h : Answered service t t' s s') (hd : N.Drew t' x) :
    N.Drew t x ∨ (x ∉ N.issued s ∧ x ∈ N.issued s') := by
  obtain ⟨p, r, hm, hn⟩ := hd
  cases h with
  | port hs hstatus hlog hserved =>
    rw [hlog] at hm
    rcases List.mem_cons.mp hm with he | hm
    · cases he
      exact .inr (N.fresh hserved hn)
    · exact .inl ⟨p, r, hm, hn⟩
  | other hs hlog => exact .inl ⟨p, r, hlog p r hm, hn⟩

omit [DecidableEq K] in
theorem Answered.issued (h : Answered service t t' s s') (hx : x ∈ N.issued s) : x ∈ N.issued s' := by
  cases h with
  | port hs hstatus hlog hserved => exact N.kept hserved hx
  | other => exact hx

theorem Names.Distinct.serve (hw : N.Distinct w) (h : AvoLib.serve service program w m = .ok w') : N.Distinct w' := by
  have hcrash : ∀ {t : Thread J V A ε α} {x : τ}, N.Drew ({ t with status := .crashed } : Thread J V A ε α) x → N.Drew t x :=
    fun h => h
  rcases serve_cases h with ⟨call, _, rfl⟩ | ⟨i, t, _, ht, rfl⟩ | ⟨i, n, t, files', t', s', _, ht, hst, ha, rfl⟩
  · have hnone : ∀ {x : τ}, ¬ N.Drew (⟨call, .running (program call), []⟩ : Thread J V A ε α) x := by
      rintro x ⟨p, r, hm, _⟩
      cases hm
    constructor
    · intro j u x hj hd
      rcases getElem?_snoc_cases hj with hj | ⟨_, rfl⟩
      · exact hw.issued hj hd
      · exact absurd hd hnone
    · intro j l u v x hj hl hu hv
      rcases getElem?_snoc_cases hj with hj | ⟨_, rfl⟩
      · rcases getElem?_snoc_cases hl with hl | ⟨_, rfl⟩
        · exact hw.unique hj hl hu hv
        · exact absurd hv hnone
      · exact absurd hu hnone
  · constructor
    · intro j u x hj hd
      rcases getElem?_set_cases hj with ⟨rfl, rfl⟩ | ⟨_, hj⟩
      · exact hw.issued ht (hcrash hd)
      · exact hw.issued hj hd
    · intro j l u v x hj hl hu hv
      rcases getElem?_set_cases hj with ⟨rfl, rfl⟩ | ⟨_, hj'⟩ <;> rcases getElem?_set_cases hl with ⟨rfl, rfl⟩ | ⟨_, hl'⟩
      · rfl
      · exact hw.unique ht hl' (hcrash hu) hv
      · exact hw.unique hj' ht hu (hcrash hv)
      · exact hw.unique hj' hl' hu hv
  · constructor
    · intro j u x hj hd
      rcases getElem?_set_cases hj with ⟨rfl, rfl⟩ | ⟨_, hj⟩
      · rcases ha.drew hd with hd | ⟨_, hx⟩
        · exact ha.issued (hw.issued ht hd)
        · exact hx
      · exact ha.issued (hw.issued hj hd)
    · intro j l u v x hj hl hu hv
      rcases getElem?_set_cases hj with ⟨rfl, rfl⟩ | ⟨_, hj'⟩ <;> rcases getElem?_set_cases hl with ⟨rfl, rfl⟩ | ⟨_, hl'⟩
      · rfl
      · rcases ha.drew hu with hu | ⟨hx, _⟩
        · exact hw.unique ht hl' hu hv
        · exact absurd (hw.issued hl' hv) hx
      · rcases ha.drew hv with hv | ⟨hx, _⟩
        · exact hw.unique hj' ht hu hv
        · exact absurd (hw.issued hj' hu) hx
      · exact hw.unique hj' hl' hu hv

theorem Reaches.distinct (h : Reaches (serve service program) Pm (Served.idle files s) w) : N.Distinct w := by
  refine h.inv N.Distinct ?_ fun _ _ _ hw _ hm => hw.serve hm
  constructor
  · intro i t x ht
    simp [Served.idle, Config.idle] at ht
  · intro i j t u x ht
    simp [Served.idle, Config.idle] at ht

end Runs

/-! ## A call alone -/

/-- Answers that the service can always give. -/
structure Oracle (service : Service A σ) where
  answer : σ → (p : P) → A p
  next : σ → P → σ
  serves : ∀ s p, service p (answer s p) s = some (next s p)

/-- How a program ends, and what it leaves. -/
structure Play (V : K → Type) (ε α σ : Type) where
  outcome : Except ε α
  files : Files V
  state : σ

/-- Run a program with nobody else around: no read fails, no write fails, and the
oracle answers at the ports. -/
def Prog.play {service : Service A σ} (O : Oracle service) (files : Files V) (s : σ) : Prog V A ε α → Play V ε α σ
  | .done x => ⟨.ok x, files, s⟩
  | .raise e => ⟨.error e, files, s⟩
  | .read k next => (next (files k).content).play O files s
  | .publish k v next =>
    match files k with
    | .absent => (next .created).play O (files.put k (.bound v)) s
    | _ => (next .taken).play O files s
  | .port p next => (next (O.answer s p)).play O files (O.next s p)

namespace Prog

variable {ε' β : Type} {service : Service A σ} {O : Oracle service} {files files' : Files V} {s s' : σ} {p : Prog V A ε α}

variable {k : K} {v : V k} {next : Published → Prog V A ε α} {f : α → Prog V A ε β} {e : ε} {E : ε → Prop} {c : Prop}

theorem play_publish (hk : files k = .absent) :
    (Prog.publish k v next).play O files s = (next .created).play O (files.put k (.bound v)) s := by
  simp only [play, hk]

theorem play_taken (hk : files k ≠ .absent) :
    (Prog.publish k v next).play O files s = (next .taken).play O files s := by
  simp only [play]

theorem play_bind_ok {x : α} (hp : p.play O files s = ⟨.ok x, files', s'⟩) :
    (p >>= f).play O files s = (f x).play O files' s' := by
  change (Prog.bind p f).play O files s = (f x).play O files' s'
  induction p generalizing files s with
  | done y => cases hp; rfl
  | raise e => cases hp
  | read k next ih => exact ih _ hp
  | port q next ih => exact ih _ hp
  | publish k v next ih =>
    by_cases hk : files k = .absent
    · rw [play_publish hk] at hp
      rw [Prog.bind, play_publish hk]
      exact ih _ hp
    · rw [play_taken hk] at hp
      rw [Prog.bind, play_taken hk]
      exact ih _ hp

theorem play_bind_error (hp : p.play O files s = ⟨.error e, files', s'⟩) :
    (p >>= f).play O files s = ⟨.error e, files', s'⟩ := by
  change (Prog.bind p f).play O files s = ⟨.error e, files', s'⟩
  induction p generalizing files s with
  | done y => cases hp
  | raise e' => cases hp; rfl
  | read k next ih => exact ih _ hp
  | port q next ih => exact ih _ hp
  | publish k v next ih =>
    by_cases hk : files k = .absent
    · rw [play_publish hk] at hp
      rw [Prog.bind, play_publish hk]
      exact ih _ hp
    · rw [play_taken hk] at hp
      rw [Prog.bind, play_taken hk]
      exact ih _ hp

theorem play_bind_inv {y : β} (h : (p >>= f).play O files s = ⟨.ok y, files', s'⟩) :
    ∃ x files₁ s₁, p.play O files s = ⟨.ok x, files₁, s₁⟩ ∧ (f x).play O files₁ s₁ = ⟨.ok y, files', s'⟩ := by
  cases hp : p.play O files s with
  | mk outcome files₁ s₁ =>
    cases outcome with
    | ok x => exact ⟨x, files₁, s₁, rfl, (play_bind_ok hp).symm.trans h⟩
    | error e => cases (play_bind_error hp).symm.trans h

theorem play_attempt {x : Except ε α} (hp : p.play O files s = ⟨x, files', s'⟩) :
    (p.attempt : Prog V A ε' (Except ε α)).play O files s = ⟨.ok x, files', s'⟩ := by
  induction p generalizing files s with
  | done y => cases hp; rfl
  | raise e => cases hp; rfl
  | read k next ih => exact ih _ hp
  | port q next ih => exact ih _ hp
  | publish k v next ih =>
    by_cases hk : files k = .absent
    · rw [play_publish hk] at hp
      rw [Prog.attempt, play_publish hk]
      exact ih _ hp
    · rw [play_taken hk] at hp
      rw [Prog.attempt, play_taken hk]
      exact ih _ hp

theorem play_grows : Grows files (p.play O files s).files := by
  induction p generalizing files s with
  | done y => exact fun _ _ hb => hb
  | raise e => exact fun _ _ hb => hb
  | read k next ih => exact ih _
  | port q next ih => exact ih _
  | publish k v next ih =>
    by_cases hk : files k = .absent
    · rw [play_publish hk]
      intro k' v' hb
      refine ih _ k' v' ?_
      rw [Files.put_ne _ _ fun h => by subst h; rw [hk] at hb; cases hb]
      exact hb
    · rw [play_taken hk]
      exact ih _

theorem Does.play_frame {S : Action V P → Prop} (hd : p.Does S) (hk : ∀ v, ¬ S (.publish k v)) :
    (p.play O files s).files k = files k := by
  induction p generalizing files s with
  | done x => rfl
  | raise e => rfl
  | read k' next ih => exact ih _ (hd.2 _)
  | port q next ih => exact ih _ (hd.2 _)
  | publish k' v next ih =>
    by_cases hf : files k' = .absent
    · rw [play_publish hf, ih _ (hd.2 _)]
      exact Files.put_ne _ _ fun h => by subst h; exact hk v hd.1
    · rw [play_taken hf]
      exact ih _ (hd.2 _)

/-- Every exception of the program is in `E`. -/
def Raises (E : ε → Prop) : Prog V A ε α → Prop
  | .done _ => True
  | .raise e => E e
  | .read _ next => ∀ r, (next r).Raises E
  | .publish _ _ next => ∀ r, (next r).Raises E
  | .port _ next => ∀ r, (next r).Raises E

omit [DecidableEq K] in
theorem Raises.bind (hp : p.Raises E) (hf : ∀ x, (f x).Raises E) : (p >>= f).Raises E := by
  change (Prog.bind p f).Raises E
  induction p with
  | done x => exact hf x
  | raise e => exact hp
  | read k next ih => exact fun r => ih r (hp r)
  | publish k v next ih => exact fun r => ih r (hp r)
  | port q next ih => exact fun r => ih r (hp r)

omit [DecidableEq K] in
theorem Raises.require [Decidable c] (he : E e) : (Prog.require c e : Prog V A ε Unit).Raises E := by
  unfold Prog.require
  split
  · trivial
  · exact he

omit [DecidableEq K] in
theorem Raises.ofOption {o : Option α} (he : E e) : (Prog.ofOption o e : Prog V A ε α).Raises E := by
  cases o with
  | some x => trivial
  | none => exact he

theorem Raises.play (hp : p.Raises E) (he : p.play O files s = ⟨.error e, files', s'⟩) : E e := by
  induction p generalizing files s with
  | done x => cases he
  | raise e' => cases he; exact hp
  | read k next ih => exact ih _ (hp _) he
  | port q next ih => exact ih _ (hp _) he
  | publish k v next ih =>
    by_cases hf : files k = .absent
    · rw [play_publish hf] at he
      exact ih _ (hp _) he
    · rw [play_taken hf] at he
      exact ih _ (hp _) he

theorem play_require [Decidable c] (hc : c) :
    (Prog.require c e : Prog V A ε Unit).play O files s = ⟨.ok (), files, s⟩ := by
  unfold Prog.require
  rw [if_pos hc]
  rfl

theorem play_require_inv [Decidable c] {x : Unit}
    (h : (Prog.require c e : Prog V A ε Unit).play O files s = ⟨.ok x, files', s'⟩) : c ∧ files' = files ∧ s' = s := by
  unfold Prog.require at h
  split at h
  · next hc =>
    cases h
    exact ⟨hc, rfl, rfl⟩
  · cases h

theorem play_require_not [Decidable c] (hc : ¬ c) :
    (Prog.require c e : Prog V A ε Unit).play O files s = ⟨.error e, files, s⟩ := by
  unfold Prog.require
  rw [if_neg hc]
  rfl

end Prog

/-- The state of a call that is over. -/
def Status.ended : Except ε α → Status V A ε α
  | .ok x => .running (.done x)
  | .error e => .running (.raise e)

variable {service : Service A σ} {program : J → Prog V A ε α} {w w' : Served J V A ε α σ} {i : Nat}
  {t : Thread J V A ε α} {O : Oracle service}

theorem exists_serve_step {n : Nature A} {t' : Thread J V A ε α} {files' : Files V} (s' : σ)
    (ht : w.config.threads[i]? = some t) (hs : t.step n w.config.files = some (files', t'))
    (ha : service.after w.config w.state (.step i n) = some s') :
    ∃ w', serve service program w (.step i n) = .ok w' ∧ w'.config.files = files' ∧ w'.state = s' ∧
      w'.config.threads[i]? = some t' := by
  obtain ⟨c', hc, hf, ht'⟩ := exists_perform_step ht hs
  exact ⟨⟨c', s'⟩, serve_ok.mpr ⟨hc, ha⟩, hf, rfl, ht'⟩

/-- Moves of call `i` only, calm ones with the answers of the oracle. -/
def Alone {service : Service A σ} (O : Oracle service) (i : Nat) (w : Served J V A ε α σ) (m : Move J A) : Prop :=
  m = .step i (.calm (O.answer w.state))

theorem Prog.play_reaches {call : J} {p : Prog V A ε α} {log : List (Event V A)}
    (ht : w.config.threads[i]? = some ⟨call, .running p, log⟩) :
    ∃ w' log', Reaches (serve service program) (Alone O i) w w' ∧
      w'.config.files = (p.play O w.config.files w.state).files ∧ w'.state = (p.play O w.config.files w.state).state ∧
      w'.config.threads[i]? = some ⟨call, .ended (p.play O w.config.files w.state).outcome, log'⟩ := by
  induction p generalizing w log with
  | done x => exact ⟨w, log, .init, rfl, rfl, ht⟩
  | raise e => exact ⟨w, log, .init, rfl, rfl, ht⟩
  | read k next ih =>
    obtain ⟨w₁, hstep, hf₁, hs₁, ht₁⟩ := exists_serve_step (n := .calm (O.answer w.state))
      w.state ht rfl (by simp only [Service.after, ht])
    obtain ⟨w', log', hr, hf, hs, ht'⟩ := ih _ ht₁
    rw [hf₁, hs₁] at hf hs ht'
    exact ⟨w', log', Reaches.trans (.step .init rfl hstep) hr, hf, hs, ht'⟩
  | port q next ih =>
    obtain ⟨w₁, hstep, hf₁, hs₁, ht₁⟩ := exists_serve_step (n := .calm (O.answer w.state))
      (O.next w.state q) ht rfl (by simp only [Service.after, ht]; exact O.serves _ _)
    obtain ⟨w', log', hr, hf, hs, ht'⟩ := ih _ ht₁
    rw [hf₁, hs₁] at hf hs ht'
    exact ⟨w', log', Reaches.trans (.step .init rfl hstep) hr, hf, hs, ht'⟩
  | publish k v next ih =>
    by_cases hk : w.config.files k = .absent
    · -- one step creates the file, the next writes it
      have hcreate : (⟨call, .running (.publish k v next), log⟩ : Thread J V A ε α).step (.calm (O.answer w.state))
          w.config.files = some (w.config.files.put k .torn, ⟨call, .writing k v next, log⟩) := by
        simp [Thread.step, Nature.calm, hk]
      obtain ⟨w₁, hstep₁, hf₁, hs₁, ht₁⟩ := exists_serve_step w.state ht hcreate
        (by simp only [Service.after, ht])
      obtain ⟨w₂, hstep₂, hf₂, hs₂, ht₂⟩ := exists_serve_step (n := .calm (O.answer w₁.state))
        w₁.state ht₁ rfl (by simp only [Service.after, ht₁])
      have hfiles : w₂.config.files = w.config.files.put k (.bound v) := by
        rw [hf₂, hf₁]
        exact Function.update_idem _ _ _
      obtain ⟨w', log', hr, hf, hs, ht'⟩ := ih _ ht₂
      rw [hfiles, hs₂, hs₁] at hf hs ht'
      rw [Prog.play_publish hk]
      exact ⟨w', log', Reaches.trans (.step (.step .init rfl hstep₁) rfl hstep₂) hr, hf, hs, ht'⟩
    · have htaken : (⟨call, .running (.publish k v next), log⟩ : Thread J V A ε α).step (.calm (O.answer w.state))
          w.config.files = some (w.config.files, ⟨call, .running (next .taken), .publish k v .taken :: log⟩) := by
        simp only [Thread.step, Nature.calm, Bool.false_eq_true, if_false]
      obtain ⟨w₁, hstep, hf₁, hs₁, ht₁⟩ := exists_serve_step w.state ht htaken
        (by simp only [Service.after, ht])
      obtain ⟨w', log', hr, hf, hs, ht'⟩ := ih _ ht₁
      rw [hf₁, hs₁] at hf hs ht'
      rw [Prog.play_taken hk]
      exact ⟨w', log', Reaches.trans (.step .init rfl hstep) hr, hf, hs, ht'⟩

theorem exists_alone_run (O : Oracle service) (program : J → Prog V A ε α) (call : J) (files : Files V) (s : σ) :
    ∃ w log, Reaches (serve service program) (fun w m => m = .start call ∨ Alone O 0 w m) (Served.idle files s) w ∧
      w.config.files = ((program call).play O files s).files ∧ w.state = ((program call).play O files s).state ∧
      w.config.threads[0]? = some ⟨call, .ended ((program call).play O files s).outcome, log⟩ := by
  let w₀ : Served J V A ε α σ := ⟨⟨files, [⟨call, .running (program call), []⟩]⟩, s⟩
  have ht₀ : w₀.config.threads[0]? = some ⟨call, .running (program call), []⟩ := rfl
  obtain ⟨w, log, hreach, hf, hs, ht⟩ := Prog.play_reaches (O := O) ht₀
  refine ⟨w, log, ?_, hf, hs, ht⟩
  have hstart : Reaches (serve service program) (fun w m => m = .start call ∨ Alone O 0 w m) (Served.idle files s)
      ⟨⟨files, [⟨call, .running (program call), []⟩]⟩, s⟩ :=
    .step (o := .start call) .init (.inl rfl) (serve_ok.mpr ⟨rfl, rfl⟩)
  exact hstart.trans (hreach.mono fun _ _ hm => .inr hm)

/-- A part of a schedule: a call starts or crashes, or takes some steps with the answers
of an oracle. -/
inductive Turn (J : Type) (service : Service A σ)
  | start (call : J)
  | crash (i : Nat)
  | steps (O : Oracle service) (i n : Nat)

section Schedules
variable {service : Service A σ} (program : J → Prog V A ε α) (p : Served J V A ε α σ → Move J A → Bool)

def checked (service : Service A σ) (m : Move J A) (w : Served J V A ε α σ) : Option (Served J V A ε α σ) :=
  if p w m then (serve service program w m).toOption else none

/-- Call `i` takes `n` steps. -/
def Oracle.steps (O : Oracle service) (i : Nat) : Nat → Served J V A ε α σ → Option (Served J V A ε α σ)
  | 0, w => some w
  | n + 1, w => (checked program p service (.step i (.calm (O.answer w.state))) w).bind (O.steps i n)

/-- Follow a schedule, checking each move. -/
def follow : List (Turn J service) → Served J V A ε α σ → Option (Served J V A ε α σ)
  | [], w => some w
  | .start call :: turns, w => (checked program p service (.start call) w).bind (follow turns)
  | .crash i :: turns, w => (checked program p service (.crash i) w).bind (follow turns)
  | .steps O i n :: turns, w => (O.steps program p i n w).bind (follow turns)

variable {program p} {w w' : Served J V A ε α σ}

theorem checked_reaches {m : Move J A} (h : checked program p service m w = some w') :
    Reaches (serve service program) (fun w m => p w m = true) w w' := by
  unfold checked at h
  split at h
  · next hp =>
    cases he : serve service program w m with
    | error e => rw [he] at h; cases h
    | ok w₁ => rw [he] at h; cases h; exact .step .init hp he
  · cases h

theorem Oracle.steps_reaches {O : Oracle service} {i n : Nat} (h : O.steps program p i n w = some w') :
    Reaches (serve service program) (fun w m => p w m = true) w w' := by
  induction n generalizing w with
  | zero => cases h; exact .init
  | succ n ih =>
    obtain ⟨w₁, hw₁, h⟩ := Option.bind_eq_some_iff.mp h
    exact (checked_reaches hw₁).trans (ih h)

theorem follow_reaches {turns : List (Turn J service)} (h : follow program p turns w = some w') :
    Reaches (serve service program) (fun w m => p w m = true) w w' := by
  induction turns generalizing w with
  | nil => cases h; exact .init
  | cons turn turns ih =>
    cases turn with
    | start call =>
      obtain ⟨w₁, hw₁, h⟩ := Option.bind_eq_some_iff.mp h
      exact (checked_reaches hw₁).trans (ih h)
    | crash i =>
      obtain ⟨w₁, hw₁, h⟩ := Option.bind_eq_some_iff.mp h
      exact (checked_reaches hw₁).trans (ih h)
    | steps O i n =>
      obtain ⟨w₁, hw₁, h⟩ := Option.bind_eq_some_iff.mp h
      exact (Oracle.steps_reaches hw₁).trans (ih h)

end Schedules

/-- What is left of a call, played alone. -/
def Status.play {service : Service A σ} (O : Oracle service) (files : Files V) (s : σ) :
    Status V A ε α → Option (Play V ε α σ)
  | .running p => some (p.play O files s)
  | .writing k v next => some ((next .created).play O (files.put k (.bound v)) s)
  | .crashed => none

theorem Alone.play {m : Move J A} (hm : Alone O i w m) (h : serve service program w m = .ok w')
    (ht : w.config.threads[i]? = some t) : ∃ t', w'.config.threads[i]? = some t' ∧
      t'.status.play O w'.config.files w'.state = t.status.play O w.config.files w.state := by
  cases hm
  obtain ⟨hc, hs⟩ := serve_ok.mp h
  simp only [perform, bind_ok, orRaise_ok, pure_ok] at hc
  obtain ⟨u, hu, ⟨files', t'⟩, hstep, hw⟩ := hc
  rw [ht] at hu
  cases hu
  simp only [Service.after, ht] at hs
  have ht' : w'.config.threads[i]? = some t' := by
    rw [← hw]
    exact List.getElem?_set_self (List.getElem?_eq_some_iff.mp ht).1
  have hf : w'.config.files = files' := by rw [← hw]
  refine ⟨t', ht', ?_⟩
  rw [hf]
  cases t with
  | mk call status log =>
    cases status with
    | crashed => cases hstep
    | writing k v next =>
      cases hstep
      rw [← Option.some.inj hs]
      rfl
    | running p =>
      cases p with
      | done x => cases hstep
      | raise e => cases hstep
      | read k next =>
        cases hstep
        rw [← Option.some.inj hs]
        rfl
      | port q next =>
        cases hstep
        rw [← Option.some.inj ((O.serves _ q).symm.trans hs)]
        rfl
      | publish k v next =>
        rw [← Option.some.inj hs]
        by_cases hk : w.config.files k = .absent
        · simp only [Thread.step, Nature.calm, hk] at hstep
          cases hstep
          simp only [Status.play, Prog.play_publish hk]
          congr 2
          exact Function.update_idem _ _ _
        · simp only [Thread.step, Nature.calm] at hstep
          cases hstep
          simp only [Status.play, Prog.play_taken hk]

theorem Reaches.played (h : Reaches (serve service program) (Alone O i) w w') (ht : w.config.threads[i]? = some t) :
    ∃ t', w'.config.threads[i]? = some t' ∧
      t'.status.play O w'.config.files w'.state = t.status.play O w.config.files w.state := by
  induction h with
  | init => exact ⟨t, ht, rfl⟩
  | step _ hm he ih =>
    obtain ⟨t₁, ht₁, hp₁⟩ := ih
    obtain ⟨t', ht', hp'⟩ := Alone.play hm he ht₁
    exact ⟨t', ht', hp'.trans hp₁⟩

end AvoLib
