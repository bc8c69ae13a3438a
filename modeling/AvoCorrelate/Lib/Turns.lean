import AvoCorrelate.Lib.Served
/-!
# Calls one after another, with crashes

No call starts before the others are over, there are no I/O errors, and a call can crash
between any two of its steps where the regime lets it. `Survives` is the logic for one
call: where it may crash it leaves the crash condition, and it ends with its
postcondition. A run of calls that each survive keeps the condition.
-/
namespace AvoLib

variable {K P : Type} [DecidableEq K] {V : K → Type} {A : P → Type} {ε ε' α β J σ : Type}

/-- How calls are made in turn: which calls, the answers that are given, and where a call
may crash. -/
structure Regime (J : Type) (V : K → Type) (A : P → Type) (σ : Type) where
  starts : J → Prop
  ok : σ → (p : P) → A p → Prop
  cut : Files V → σ → Prop

def Regime.InTurn (R : Regime J V A σ) (w : Served J V A ε α σ) : Move J A → Prop
  | .start call => R.starts call ∧ ∀ t ∈ w.config.threads, t.live = false
  | .crash i => ∀ t, w.config.threads[i]? = some t → t.live = true → R.cut w.config.files w.state
  | .step i n => n.readFails = false ∧ n.createFails = false ∧ n.write = .written ∧
      ∀ t p next, w.config.threads[i]? = some t → t.status = .running (.port p next) → R.ok w.state p (n.answer p)

/-- Whether a move is in turn. -/
def Regime.check (R : Regime J V A σ) [DecidablePred R.starts] [∀ s p r, Decidable (R.ok s p r)]
    [∀ files s, Decidable (R.cut files s)] (w : Served J V A ε α σ) : Move J A → Bool
  | .start call => decide (R.starts call) && w.config.threads.all fun t => !t.live
  | .crash i => (w.config.threads[i]?).all fun t => !t.live || decide (R.cut w.config.files w.state)
  | .step i n => !n.readFails && !n.createFails && n.write = .written &&
      (w.config.threads[i]?).all fun t =>
        match t.status with
        | .running (.port p _) => decide (R.ok w.state p (n.answer p))
        | _ => true

omit [DecidableEq K] in
theorem Regime.inTurn_of_check {R : Regime J V A σ} [DecidablePred R.starts] [∀ s p r, Decidable (R.ok s p r)]
    [∀ files s, Decidable (R.cut files s)] {w : Served J V A ε α σ} {m : Move J A} (h : R.check w m = true) : R.InTurn w m := by
  cases m with
  | start call =>
    obtain ⟨hstarts, hlive⟩ := Bool.and_eq_true_iff.mp h
    refine ⟨of_decide_eq_true hstarts, fun t ht => ?_⟩
    simpa using List.all_eq_true.mp hlive t ht
  | crash i =>
    intro t ht hlive
    simp only [Regime.check, ht, Option.all_some, hlive, Bool.not_true, Bool.false_or] at h
    exact of_decide_eq_true h
  | step i n =>
    obtain ⟨h, hok⟩ := Bool.and_eq_true_iff.mp h
    obtain ⟨h, hwrite⟩ := Bool.and_eq_true_iff.mp h
    obtain ⟨hread, hcreate⟩ := Bool.and_eq_true_iff.mp h
    refine ⟨by simpa using hread, by simpa using hcreate, by simpa using hwrite, fun t p next ht hst => ?_⟩
    simp only [ht, Option.all_some, hst] at hok
    exact of_decide_eq_true hok

namespace Prog

/-- On every path with answers that are given, the call leaves `I` wherever it may crash,
and ends with `Q`. -/
def Survives (service : Service A σ) (R : Regime J V A σ) (I : Files V → σ → Prop)
    (Q : Except ε α → Files V → σ → Prop) : Prog V A ε α → Files V → σ → Prop
  | .done x, files, s => Q (.ok x) files s
  | .raise e, files, s => Q (.error e) files s
  | .read k next, files, s => (R.cut files s → I files s) ∧ (next (files k).content).Survives service R I Q files s
  | .publish k v next, files, s =>
    (R.cut files s → I files s) ∧
      (files k = .absent → (R.cut (files.put k .torn) s → I (files.put k .torn) s) ∧
        (next .created).Survives service R I Q (files.put k (.bound v)) s) ∧
      (files k ≠ .absent → (next .taken).Survives service R I Q files s)
  | .port p next, files, s =>
    (R.cut files s → I files s) ∧ ∀ r s', R.ok s p r → service p r s = some s' → (next r).Survives service R I Q files s'

variable {service : Service A σ} {R : Regime J V A σ} {I : Files V → σ → Prop} {Q Q' : Except ε α → Files V → σ → Prop}
  {files : Files V} {s : σ} {p : Prog V A ε α}

theorem Survives.mono (hp : p.Survives service R I Q files s) (hq : ∀ x files s, Q x files s → Q' x files s) :
    p.Survives service R I Q' files s := by
  induction p generalizing files s with
  | done x => exact hq _ _ _ hp
  | raise e => exact hq _ _ _ hp
  | read k next ih => exact ⟨hp.1, ih _ hp.2⟩
  | port q next ih => exact ⟨hp.1, fun r s' hok hs => ih r (hp.2 r s' hok hs)⟩
  | publish k v next ih => exact ⟨hp.1, fun hk => ⟨(hp.2.1 hk).1, ih _ (hp.2.1 hk).2⟩, fun hk => ih _ (hp.2.2 hk)⟩

theorem Survives.bind {f : α → Prog V A ε β} {T : Except ε β → Files V → σ → Prop} (hp : p.Survives service R I Q files s)
    (hok : ∀ x files s, Q (.ok x) files s → (f x).Survives service R I T files s)
    (herr : ∀ e files s, Q (.error e) files s → T (.error e) files s) : (p >>= f).Survives service R I T files s := by
  change (Prog.bind p f).Survives service R I T files s
  induction p generalizing files s with
  | done x => exact hok _ _ _ hp
  | raise e => exact herr _ _ _ hp
  | read k next ih => exact ⟨hp.1, ih _ hp.2⟩
  | port q next ih => exact ⟨hp.1, fun r s' hr hs => ih r (hp.2 r s' hr hs)⟩
  | publish k v next ih => exact ⟨hp.1, fun hk => ⟨(hp.2.1 hk).1, ih _ (hp.2.1 hk).2⟩, fun hk => ih _ (hp.2.2 hk)⟩

theorem Survives.attempt_bind {f : Except ε α → Prog V A ε' β} {T : Except ε' β → Files V → σ → Prop}
    (hp : p.Survives service R I Q files s) (hf : ∀ x files s, Q x files s → (f x).Survives service R I T files s) :
    (p.attempt >>= f).Survives service R I T files s := by
  change (Prog.bind p.attempt f).Survives service R I T files s
  induction p generalizing files s with
  | done x => exact hf _ _ _ hp
  | raise e => exact hf _ _ _ hp
  | read k next ih => exact ⟨hp.1, ih _ hp.2⟩
  | port q next ih => exact ⟨hp.1, fun r s' hr hs => ih r (hp.2 r s' hr hs)⟩
  | publish k v next ih => exact ⟨hp.1, fun hk => ⟨(hp.2.1 hk).1, ih _ (hp.2.1 hk).2⟩, fun hk => ih _ (hp.2.2 hk)⟩

variable {c : Prop} {e : ε} {f : Unit → Prog V A ε α}

omit [DecidableEq K] in
theorem require_of [Decidable c] (hc : c) : (Prog.require c e : Prog V A ε Unit) = .done () := if_pos hc

theorem Survives.require_bind [Decidable c] (hc : c) (hf : (f ()).Survives service R I Q files s) :
    (Prog.require c e >>= f).Survives service R I Q files s := by
  rw [require_of hc]
  exact hf

theorem Survives.any (hI : ∀ files s, I files s) (p : Prog V A ε α) : p.Survives service R I (fun _ _ _ => True) files s := by
  induction p generalizing files s with
  | done x => trivial
  | raise e => trivial
  | read k next ih => exact ⟨fun _ => hI _ _, ih _⟩
  | port q next ih => exact ⟨fun _ => hI _ _, fun r _ _ _ => ih r⟩
  | publish k v next ih => exact ⟨fun _ => hI _ _, fun _ => ⟨fun _ => hI _ _, ih _⟩, fun _ => ih _⟩

theorem Survives.refuse_bind [Decidable c] (hc : ¬ c) (hq : Q (.error e) files s) :
    (Prog.require c e >>= f).Survives service R I Q files s := by
  rw [show (Prog.require c e : Prog V A ε Unit) = .raise e from if_neg hc]
  exact hq

theorem Survives.play {O : Oracle service} (hO : ∀ s q, R.ok s q (O.answer s q)) (hp : p.Survives service R I Q files s) :
    Q (p.play O files s).outcome (p.play O files s).files (p.play O files s).state := by
  induction p generalizing files s with
  | done x => exact hp
  | raise e => exact hp
  | read k next ih => exact ih _ hp.2
  | port q next ih => exact ih _ (hp.2 _ _ (hO s q) (O.serves s q))
  | publish k v next ih =>
    by_cases hk : files k = .absent
    · rw [play_publish hk]
      exact ih _ (hp.2.1 hk).2
    · rw [play_taken hk]
      exact ih _ (hp.2.2 hk)

end Prog

/-! ## Runs -/

/-- What is left of a call survives. -/
def Status.Survives (service : Service A σ) (R : Regime J V A σ) (I : Files V → σ → Prop)
    (Q : Except ε α → Files V → σ → Prop) (files : Files V) (s : σ) : Status V A ε α → Prop
  | .running p => p.Survives service R I Q files s
  | .writing k v next => (R.cut files s → I files s) ∧ (next .created).Survives service R I Q (files.put k (.bound v)) s
  | .crashed => True

section Runs
variable {service : Service A σ} {R : Regime J V A σ} {I : Files V → σ → Prop} {program : J → Prog V A ε α}
  {Q : J → Except ε α → Files V → σ → Prop} {w w' : Served J V A ε α σ}

/-- At most one call is in progress, and it survives; without one the condition holds; a
call that ended had its postcondition. -/
structure Turned (service : Service A σ) (R : Regime J V A σ) (I : Files V → σ → Prop)
    (Q : J → Except ε α → Files V → σ → Prop) (w : Served J V A ε α σ) : Prop where
  alone : ∀ {i j : Nat} {t u : Thread J V A ε α}, w.config.threads[i]? = some t → w.config.threads[j]? = some u →
    t.live = true → u.live = true → i = j
  still : (∀ t ∈ w.config.threads, t.live = false) → I w.config.files w.state
  live : ∀ {i : Nat} {t : Thread J V A ε α}, w.config.threads[i]? = some t → t.live = true →
    t.status.Survives service R I (Q t.call) w.config.files w.state
  ended : ∀ {i : Nat} {t : Thread J V A ε α} {x : Except ε α}, w.config.threads[i]? = some t → t.status = .ended x →
    ∃ files s, Q t.call x files s

variable {t t' : Thread J V A ε α} {files files' : Files V} {s s' : σ}

omit [DecidableEq K] in
theorem Thread.ended_of_not_live (h : t.live = false) : (∃ x, t.status = .ended x) ∨ t.status = .crashed := by
  cases t with
  | mk call status log =>
    cases status with
    | crashed => exact .inr rfl
    | writing k v next => cases h
    | running p =>
      cases p with
      | done x => exact .inl ⟨.ok x, rfl⟩
      | raise e => exact .inl ⟨.error e, rfl⟩
      | read k next => cases h
      | publish k v next => cases h
      | port q next => cases h

theorem Survives.step {n : Nature A} {Q : Except ε α → Files V → σ → Prop}
    (ht : t.status.Survives service R I Q files s) (hread : n.readFails = false) (hcreate : n.createFails = false)
    (hwrite : n.write = .written)
    (hok : ∀ p next, t.status = .running (.port p next) → R.ok s p (n.answer p) ∧ service p (n.answer p) s = some s')
    (hother : (∀ p next, t.status ≠ .running (.port p next)) → s' = s) (hstep : t.step n files = some (files', t')) :
    t'.call = t.call ∧ t'.status.Survives service R I Q files' s' := by
  cases t with
  | mk call status log =>
    cases status with
    | crashed => cases hstep
    | writing k v next =>
      cases hother fun _ _ h => by cases h
      simp only [Thread.step, hwrite] at hstep
      cases hstep
      exact ⟨rfl, ht.2⟩
    | running p =>
      cases p with
      | done x => cases hstep
      | raise e => cases hstep
      | read k next =>
        cases hother fun _ _ h => by cases h
        simp only [Thread.step, hread] at hstep
        cases hstep
        exact ⟨rfl, ht.2⟩
      | port q next =>
        cases hstep
        obtain ⟨hq, hs⟩ := hok q next rfl
        exact ⟨rfl, ht.2 _ _ hq hs⟩
      | publish k v next =>
        cases hother fun _ _ h => by cases h
        by_cases hk : files k = .absent
        · simp only [Thread.step, hcreate, hk] at hstep
          cases hstep
          obtain ⟨htorn, hnext⟩ := ht.2.1 hk
          have hput : (files.put k .torn).put k (.bound v) = files.put k (.bound v) := Function.update_idem _ _ _
          exact ⟨rfl, htorn, hput.symm ▸ hnext⟩
        · have hnext := ht.2.2 hk
          simp only [Thread.step, hcreate, Bool.false_eq_true, if_false] at hstep
          cases hstep
          exact ⟨rfl, hnext⟩

theorem Status.Survives.crash {Q : Except ε α → Files V → σ → Prop} (ht : t.status.Survives service R I Q files s)
    (hlive : t.live = true) (hcut : R.cut files s) : I files s := by
  cases t with
  | mk call status log =>
    cases status with
    | crashed => cases hlive
    | writing k v next => exact ht.1 hcut
    | running p =>
      cases p with
      | done x => cases hlive
      | raise e => cases hlive
      | read k next => exact ht.1 hcut
      | publish k v next => exact ht.1 hcut
      | port q next => exact ht.1 hcut

theorem Turned.replace {i : Nat} (hw : Turned service R I Q w) (ht : w.config.threads[i]? = some t)
    (hlive : t.live = true ∨ t'.live = false) (hcall : t'.call = t.call)
    (hstill : t.live = false → files' = w.config.files ∧ s' = w.state)
    (hI : t.live = true → t'.live = false → I files' s')
    (hsurvives : t'.live = true → t'.status.Survives service R I (Q t.call) files' s')
    (hended : ∀ x, t'.status = .ended x → ∃ files s, Q t.call x files s) :
    Turned service R I Q ⟨⟨files', w.config.threads.set i t'⟩, s'⟩ := by
  have hothers : ∀ {j : Nat} {u : Thread J V A ε α}, j ≠ i → w.config.threads[j]? = some u → t.live = true → u.live = false := by
    intro j u hij hj ht'
    cases hu : u.live with
    | false => rfl
    | true => exact absurd (hw.alone ht hj ht' hu).symm hij
  have hlt : i < w.config.threads.length := (List.getElem?_eq_some_iff.mp ht).1
  constructor
  · intro j k u v hj hk hu hv
    rcases getElem?_set_cases hj with ⟨rfl, rfl⟩ | ⟨hij, hj'⟩ <;> rcases getElem?_set_cases hk with ⟨rfl, rfl⟩ | ⟨hik, hk'⟩
    · rfl
    · rcases hlive with hlive | hlive
      · rw [hothers hik hk' hlive] at hv; cases hv
      · rw [hlive] at hu; cases hu
    · rcases hlive with hlive | hlive
      · rw [hothers hij hj' hlive] at hu; cases hu
      · rw [hlive] at hv; cases hv
    · exact hw.alone hj' hk' hu hv
  · intro hall
    have hself : t'.live = false := hall t' (List.mem_of_getElem? (List.getElem?_set_self hlt))
    cases hl : t.live with
    | true => exact hI hl hself
    | false =>
      obtain ⟨rfl, rfl⟩ := hstill hl
      refine hw.still fun u hu => ?_
      obtain ⟨j, hj⟩ := List.getElem?_of_mem hu
      by_cases hij : i = j
      · subst hij
        rw [ht] at hj
        cases hj
        exact hl
      · exact hall u (List.mem_of_getElem? ((List.getElem?_set_ne hij).trans hj))
  · intro j u hj hu
    rcases getElem?_set_cases hj with ⟨rfl, rfl⟩ | ⟨hij, hj'⟩
    · rw [hcall]
      exact hsurvives hu
    · cases hl : t.live with
      | true => rw [hothers hij hj' hl] at hu; cases hu
      | false =>
        obtain ⟨rfl, rfl⟩ := hstill hl
        exact hw.live hj' hu
  · intro j u x hj hx
    rcases getElem?_set_cases hj with ⟨rfl, rfl⟩ | ⟨_, hj⟩
    · rw [hcall]
      exact hended x hx
    · exact hw.ended hj hx

theorem Turned.serve {m : Move J A} (hw : Turned service R I Q w)
    (hprogram : ∀ call files s, R.starts call → I files s → (program call).Survives service R I (Q call) files s)
    (hQ : ∀ call x files s, Q call x files s → I files s) (hm : R.InTurn w m)
    (h : AvoLib.serve service program w m = .ok w') : Turned service R I Q w' := by
  obtain ⟨hperform, hafter⟩ := serve_ok.mp h
  obtain ⟨⟨files', threads'⟩, s'⟩ := w'
  cases m with
  | start call =>
    obtain ⟨hstarts, hidle⟩ := hm
    cases hperform
    cases hafter
    have hold : ∀ {j : Nat} {u : Thread J V A ε α}, w.config.threads[j]? = some u → u.live = false :=
      fun hj => hidle _ (List.mem_of_getElem? hj)
    have hsurvives := hprogram call w.config.files w.state hstarts (hw.still hidle)
    constructor
    · intro j k u v hj hk hu hv
      rcases getElem?_snoc_cases hj with hj | ⟨rfl, _⟩
      · rw [hold hj] at hu; cases hu
      · rcases getElem?_snoc_cases hk with hk | ⟨rfl, _⟩
        · rw [hold hk] at hv; cases hv
        · rfl
    · intro _
      exact hw.still hidle
    · intro j u hj hu
      rcases getElem?_snoc_cases hj with hj | ⟨_, rfl⟩
      · rw [hold hj] at hu; cases hu
      · exact hsurvives
    · intro j u x hj hx
      rcases getElem?_snoc_cases hj with hj | ⟨_, rfl⟩
      · exact hw.ended hj hx
      · refine ⟨w.config.files, w.state, ?_⟩
        have hq := hsurvives
        cases x with
        | ok y =>
          have hprog : program call = .done y := Status.running.inj hx
          rw [hprog] at hq
          exact hq
        | error e =>
          have hprog : program call = .raise e := Status.running.inj hx
          rw [hprog] at hq
          exact hq
  | crash i =>
    simp only [perform, bind_ok, orRaise_ok, pure_ok] at hperform
    obtain ⟨t, ht, he⟩ := hperform
    cases he
    cases hafter
    refine hw.replace ht (.inr rfl) rfl (fun _ => ⟨rfl, rfl⟩) (fun hlive _ => ?_) (fun h => by cases h) fun x hx => ?_
    · exact (hw.live ht hlive).crash hlive (hm t ht hlive)
    · cases x <;> cases hx
  | step i n =>
    obtain ⟨hread, hcreate, hwrite, hok⟩ := hm
    simp only [perform, bind_ok, orRaise_ok, pure_ok] at hperform
    obtain ⟨t, ht, ⟨files₁, t'⟩, hstep, he⟩ := hperform
    cases he
    have hlive : t.live = true := (Thread.step_cases hstep).live
    simp only [Service.after, ht] at hafter
    obtain ⟨hcall, hnext⟩ : t'.call = t.call ∧ t'.status.Survives service R I (Q t.call) files₁ s' := Survives.step (hw.live ht hlive)
      hread hcreate hwrite
      (fun p next hst => ⟨hok t p next ht hst, by rw [hst] at hafter; exact hafter⟩)
      (fun hne => by
        split at hafter
        · next p next hst => exact absurd hst (hne p next)
        · exact (Option.some.inj hafter).symm) hstep
    have hend : ∀ x, t'.status = .ended x → Q t.call x files₁ s' := by
      intro x hx
      rw [hx] at hnext
      cases x <;> exact hnext
    refine hw.replace ht (.inl hlive) hcall (fun h => ?_) (fun _ hover => ?_) (fun _ => hnext) fun x hx => ⟨_, _, hend x hx⟩
    · rw [hlive] at h; cases h
    · rcases Thread.ended_of_not_live hover with ⟨x, hx⟩ | hcrashed
      · exact hQ _ _ _ _ (hend x hx)
      · exact absurd hcrashed ((Thread.step_cases hstep).not_crashed)

theorem turned_of_reaches
    (hprogram : ∀ call files s, R.starts call → I files s → (program call).Survives service R I (Q call) files s)
    (hQ : ∀ call x files s, Q call x files s → I files s) (h0 : I files s)
    (h : Reaches (AvoLib.serve service program) R.InTurn (Served.idle files s) w) : Turned service R I Q w := by
  refine h.inv (Turned service R I Q) ?_ fun _ _ _ hw hm he => hw.serve hprogram hQ hm he
  refine ⟨?_, fun _ => h0, ?_, ?_⟩
  · intro i j t u ht
    simp [Served.idle, Config.idle] at ht
  · intro i t ht
    simp [Served.idle, Config.idle] at ht
  · intro i t x ht
    simp [Served.idle, Config.idle] at ht

end Runs

end AvoLib
