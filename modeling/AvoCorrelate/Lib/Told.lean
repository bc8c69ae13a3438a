import AvoCorrelate.Lib.Served
/-!
# What the calls were told

An answer at a port can tell something that stays true: a record that was found is
there for good. `Standing` collects an invariant of the state behind the ports and
such facts, under the rules that the calls obey; in every state of every run the
invariant holds and everything in every log is still true.
-/
namespace AvoLib

variable {K P : Type} [DecidableEq K] {V : K → Type} {A : P → Type} {ε α J σ : Type}

/-- What the port events of a log tell of the state. -/
def Told (tells : (p : P) → A p → σ → Prop) (s : σ) (h : List (Event V A)) : Prop :=
  ∀ p r, (.port p r : Event V A) ∈ h → tells p r s

variable {s : σ} {m : Move J A} {Pm : Served J V A ε α σ → Move J A → Prop} {files : Files V} {t : Thread J V A ε α}
  {p : P} {r : A p} {h₁ : List (Event V A)} {ok : σ → (p : P) → A p → Prop}

omit [DecidableEq K] in
theorem Told.suffix {tells : (p : P) → A p → σ → Prop} {h h' : List (Event V A)} (ht : Told tells s h') (hs : h <:+ h') :
    Told tells s h :=
  fun p r hm => ht p r (hs.mem hm)

/-- An invariant of the state and what each answer tells of it. An action that the
rules allow keeps the invariant and everything that was told, and tells its own. -/
structure Standing (service : Service A σ) (G : J → Rules V A) where
  holds : σ → Prop
  tells : (p : P) → A p → σ → Prop
  keeps : ∀ {call h p r s s'}, holds s → Told tells s h → G call h (.port p) → service p r s = some s' →
    holds s' ∧ tells p r s' ∧ ∀ q a, tells q a s → tells q a s'

variable {service : Service A σ} {G : J → Rules V A} {program : J → Prog V A ε α} {w w' : Served J V A ε α σ}
  {Q : J → List (Event V A) → Except ε α → Prop}

/-- The invariant holds, and every call was told the truth, obeyed its rules and will. -/
structure Standing.Stands (S : Standing service G) (Q : J → List (Event V A) → Except ε α → Prop) (w : Served J V A ε α σ) :
    Prop where
  holds : S.holds w.state
  told : ∀ {i : Nat} {t : Thread J V A ε α}, w.config.threads[i]? = some t → Told S.tells w.state t.log
  obeys : ∀ {i : Nat} {t : Thread J V A ε α}, w.config.threads[i]? = some t →
    Along (G t.call) t.log ∧ t.status.Safe w.config.files (G t.call) (Q t.call) t.log

theorem Standing.Stands.stays {S : Standing service G} (hw : S.Stands Q w) (h : serve service program w m = .ok w') :
    S.holds w'.state ∧ ∀ q a, S.tells q a w.state → S.tells q a w'.state := by
  rcases serve_cases h with ⟨call, _, rfl⟩ | ⟨i, t, _, ht, rfl⟩ | ⟨i, n, t, files', t', s', _, ht, hst, ha, rfl⟩
  · exact ⟨hw.holds, fun _ _ hq => hq⟩
  · exact ⟨hw.holds, fun _ _ hq => hq⟩
  · cases ha with
    | other => exact ⟨hw.holds, fun _ _ hq => hq⟩
    | port hs hstatus hlog hserved =>
      have hsafe := (hw.obeys ht).2
      rw [hs] at hsafe
      obtain ⟨hholds, _, hstays⟩ := S.keeps hw.holds (hw.told ht) hsafe.1 hserved
      exact ⟨hholds, hstays⟩

theorem Standing.stands (S : Standing service G) (hp : ∀ call F, (program call).Safe F (G call) (Q call) [])
    (h0 : S.holds s) (h : Reaches (serve service program) Pm (Served.idle files s) w) : S.Stands Q w := by
  induction h with
  | init =>
    refine ⟨h0, ?_, ?_⟩ <;>
    · intro i t ht
      simp [Served.idle, Config.idle] at ht
  | @step w₁ w₂ m hr hm he ih =>
    obtain ⟨hholds, hstays⟩ := ih.stays he
    have hruled := sound_ruled (G := fun call _ => G call) (Q := fun call _ => Q call) hp (hr.step hm he).config
    refine ⟨hholds, ?_, fun ht => hruled.1.obeys hruled.2.1 hruled.2.2 ht⟩
    intro j u hj
    have hold : ∀ {i : Nat} {t : Thread J V A ε α}, w₁.config.threads[i]? = some t → Told S.tells w₂.state t.log :=
      fun ht p r hmem => hstays p r (ih.told ht p r hmem)
    rcases serve_cases he with ⟨call, _, rfl⟩ | ⟨i, t, _, ht, rfl⟩ | ⟨i, n, t, files', t', s', _, ht, hst, ha, rfl⟩
    · rcases getElem?_snoc_cases hj with hj | ⟨_, rfl⟩
      · exact hold hj
      · intro p r hmem
        cases hmem
    · rcases getElem?_set_cases hj with ⟨rfl, rfl⟩ | ⟨_, hj⟩
      · exact hold (t := t) ht
      · exact hold hj
    · rcases getElem?_set_cases hj with ⟨rfl, rfl⟩ | ⟨_, hj⟩
      · intro p r hmem
        cases ha with
        | other hs hlog => exact hold ht p r (hlog p r hmem)
        | port hs hstatus hlog hserved =>
          rw [hlog] at hmem
          rcases List.mem_cons.mp hmem with hev | hmem
          · cases hev
            have hsafe := (ih.obeys ht).2
            rw [hs] at hsafe
            exact (S.keeps ih.holds (ih.told ht) hsafe.1 hserved).2.1
          · exact hold ht p r hmem
      · exact hold hj

theorem Stepped.port_suffix {files' : Files V} {t' : Thread J V A ε α} (h : Stepped files t files' t')
    (hs : ∀ p next, t.status ≠ .running (.port p next)) (hm : (.port p r :: h₁) <:+ t'.log) :
    (.port p r :: h₁) <:+ t.log := by
  cases h with
  | port hst => exact absurd hst (hs _ _)
  | read | refused | wrote | tore =>
    rcases List.suffix_cons_iff.mp hm with heq | hm
    · cases heq
    · exact hm
  | create => exact hm

theorem Standing.answered (S : Standing service G) (hp : ∀ call F, (program call).Safe F (G call) (Q call) [])
    (h0 : S.holds s) (h : Reaches (serve service program) Pm (Served.idle files s) w) {i : Nat}
    (ht : w.config.threads[i]? = some t) (hs : (.port p r :: h₁) <:+ t.log) :
    ∃ s₁ s₂, S.holds s₁ ∧ Told S.tells s₁ h₁ ∧ service p r s₁ = some s₂ := by
  induction h generalizing i t with
  | init => simp [Served.idle, Config.idle] at ht
  | @step w₁ w₂ m hr hm he ih =>
    have hw₁ : S.Stands Q w₁ := S.stands hp h0 hr
    rcases serve_cases he with ⟨call, _, rfl⟩ | ⟨j, u, _, hu, rfl⟩ | ⟨j, n, u, files', u', s', _, hu, hst, ha, rfl⟩
    · rcases getElem?_snoc_cases ht with ht | ⟨_, rfl⟩
      · exact ih ht hs
      · exact absurd (List.suffix_nil.mp hs) (by simp)
    · rcases getElem?_set_cases ht with ⟨rfl, rfl⟩ | ⟨_, ht⟩
      · exact ih hu hs
      · exact ih ht hs
    · rcases getElem?_set_cases ht with ⟨rfl, rfl⟩ | ⟨_, ht⟩
      · cases ha with
        | other hport => exact ih hu (hst.port_suffix hport hs)
        | port hstatus _ hlog hserved =>
          rw [hlog] at hs
          rcases List.suffix_cons_iff.mp hs with heq | hs
          · cases heq
            exact ⟨_, _, hw₁.holds, hw₁.told hu, hserved⟩
          · exact ih hu hs
      · exact ih ht hs

/-! ## Runs with a condition on the answers -/

/-- The service when it gives only the answers that `ok` allows. -/
noncomputable def Service.given (service : Service A σ) (ok : σ → (p : P) → A p → Prop) : Service A σ :=
  open Classical in fun p r s => if ok s p r then service p r s else none

omit [DecidableEq K] in
theorem Service.given_some {s' : σ} : service.given ok p r s = some s' ↔ ok s p r ∧ service p r s = some s' := by
  unfold Service.given
  split
  · next h => exact ⟨fun hs => ⟨h, hs⟩, fun hs => hs.2⟩
  · next h => exact ⟨fun hs => (nomatch hs), fun hs => absurd hs.1 h⟩

theorem Reaches.given {init : Served J V A ε α σ}
    (h : Reaches (serve service program) (fun w m => ∀ p r, w.Asks m p r → ok w.state p r) init w) :
    Reaches (serve (service.given ok) program) (fun _ _ => True) init w := by
  refine Reaches.inv (fun w => Reaches (serve (service.given ok) program) (fun _ _ => True) init w) .init ?_ h
  intro w₁ m w₂ hr hm he
  obtain ⟨hc, hs⟩ := serve_ok.mp he
  suffices hg : (service.given ok).after w₁.config w₁.state m = some w₂.state from
    hr.step trivial (serve_ok.mpr ⟨hc, hg⟩)
  cases m with
  | start call => exact hs
  | crash i => exact hs
  | step i n =>
    simp only [Service.after] at hs ⊢
    split
    · next ht =>
      simp only [ht] at hs
      exact hs
    · next t ht =>
      simp only [ht] at hs
      split
      · next p next hst =>
        simp only [hst] at hs
        exact Service.given_some.mpr ⟨hm p _ ⟨i, n, t, next, rfl, ht, hst, rfl⟩, hs⟩
      · next hst =>
        split at hs
        · next p next hst' => exact absurd hst' (hst p next)
        · exact hs

/-- Whether the answer of a move is allowed. -/
def Served.allows (ok : σ → (p : P) → A p → Prop) [∀ s p r, Decidable (ok s p r)] (w : Served J V A ε α σ) :
    Move J A → Bool
  | .step i n =>
    (w.config.threads[i]?).all fun t =>
      match t.status with
      | .running (.port p _) => decide (ok w.state p (n.answer p))
      | _ => true
  | _ => true

omit [DecidableEq K] in
theorem Served.asks_of_allows {ok : σ → (p : P) → A p → Prop} [∀ s p r, Decidable (ok s p r)] (h : w.allows ok m = true)
    (p : P) (r : A p) (ha : w.Asks m p r) : ok w.state p r := by
  obtain ⟨i, n, t, next, rfl, ht, hst, rfl⟩ := ha
  simp only [Served.allows, ht, Option.all_some, hst] at h
  exact of_decide_eq_true h

end AvoLib
