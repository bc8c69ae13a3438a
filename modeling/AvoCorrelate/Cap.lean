import AvoCorrelate.Ledger
/-!
# The hard budget cap

A run stays within its limit or has failed, and failure is final. What the
budget service never does is look at the state of a run, so a ledger can still
move after the run has failed: only towards the limit, and never again once the
usage charged to it passes the limit by itself.
-/
open AvoLib

namespace AvoCorrelate

/-- `used + reserved <= limit` in every dimension. -/
def WithinCap (l : BudgetLedgerRow) : Prop := ∀ d, l.used.get d + l.reserved.get d ≤ l.limit.get d

/-- The run has a reservation in state `exceeded`. -/
def HasExceeded (rs : Table BudgetReservationRow.reservationId) (runId : String) : Prop :=
  ∃ r ∈ rs, r.runId = runId ∧ r.state = .exceeded

/-- The run is in state `failed`. -/
def HasFailed (db : Db) (runId : String) : Prop := ∃ run, db.runs.get? runId = some run ∧ run.state = .failed

variable {db db' : Db} {k : String} {E : Env} {l : BudgetLedgerRow}

theorem JournalStep.failed (h : JournalStep db db') (hf : HasFailed db k) : HasFailed db' k :=
  h.final (fun _ => failed_final) hf

section Exceeded
variable {rs rs' : Table BudgetReservationRow.reservationId} {r r' : BudgetReservationRow} {k : String}

theorem HasExceeded.of_sets (h : HasExceeded rs k) (hrs : rs.Sets r' rs') (hr : rs.get? r.reservationId = some r)
    (hk : r'.reservationId = r.reservationId) (hne : r.state ≠ .exceeded ∨ r.runId ≠ k) : HasExceeded rs' k := by
  obtain ⟨x, hx, hrun, hs⟩ := h
  refine ⟨x, hrs.mem_iff.2 (.inr ⟨hx, fun he => ?_⟩), hrun, hs⟩
  have hxr : x = r := Table.eq_of_key hx (Table.get?_mem hr) (he.trans hk)
  subst hxr
  rcases hne with hne | hne
  · exact hne hs
  · exact hne hrun

theorem not_exceeded_of_active (h : r.state.active = true) : r.state ≠ .exceeded := by
  intro hs
  rw [hs] at h
  cases h

end Exceeded

/-- Every ledger is within its cap or its run has failed, and then (where calls
may rely on `own`) a reservation of the run is exceeded. -/
def CapInv (own : Prop) (db : Db) : Prop :=
  ∀ k l, db.ledgers.get? k = some l → WithinCap l ∨ (HasFailed db k ∧ (own → HasExceeded db.reservations k))

section Step
variable {safe own : Prop} {db db' : Db}

theorem CapInv.keep (hi : CapInv own db) (hj : JournalStep db db') {k : String} {l : BudgetLedgerRow}
    (hl : db.ledgers.get? k = some l) (hx : own → HasFailed db k → HasExceeded db.reservations k →
      HasExceeded db'.reservations k) :
    WithinCap l ∨ (HasFailed db' k ∧ (own → HasExceeded db'.reservations k)) := by
  rcases hi k l hl with h | ⟨hf, he⟩
  · exact .inl h
  · exact .inr ⟨hj.failed hf, fun ho => hx ho hf (he ho)⟩

theorem LedgerChange.cap (h : LedgerChange safe own db db') (hj : JournalStep db db') (hi : CapInv own db) :
    CapInv own db' := by
  intro k l hl
  cases h with
  | untouched hls hrs =>
    rw [hls] at hl
    exact hi.keep hj hl fun _ _ h => hrs ▸ h
  | touched hr hact hact' hset hls =>
    rw [hls] at hl
    exact hi.keep hj hl fun _ _ h => h.of_sets hset hr rfl (.inl (not_exceeded_of_active hact))
  | @reopened r hr hsafe hown hset hls =>
    rw [hls] at hl
    refine hi.keep hj hl fun ho hf h => h.of_sets hset hr rfl (.inr ?_)
    -- The run of the reopened reservation has not failed.
    rintro rfl
    obtain ⟨run, hrun, hs⟩ := hown ho
    obtain ⟨run', hrun', hs'⟩ := hf
    rw [hrun] at hrun'
    cases hrun'
    exact hs hs'
  | @reserved ledger r reserved hs hrun hget hres hr hls =>
    rw [hls k] at hl
    split at hl
    · cases hl
      exact .inl (reserveUsage_ok hres).2
    · refine hi.keep hj hl fun _ _ h => ?_
      obtain ⟨x, hx, hp⟩ := h
      exact ⟨x, (Table.mem_insert hr).2 (.inl hx), hp⟩
  | @charged r ledger actual used reserved hr hact hget hrec hfit hset hls =>
    rw [hls k] at hl
    split at hl
    · cases hl
      refine .inl fun d => ?_
      have := UsageRecord.fitsWithin_iff.1 hfit d
      simpa using this
    · exact hi.keep hj hl fun _ _ h => h.of_sets hset hr rfl (.inl (not_exceeded_of_active hact))
  | @released r ledger used remaining hr hsafe hown hget hrec hset hls =>
    have hkeep : own → HasFailed db k → HasExceeded db.reservations k → HasExceeded db'.reservations k := by
      intro ho hf h
      refine h.of_sets hset hr rfl ?_
      rcases hown ho with hact | ⟨run, hrun, hs⟩
      · exact .inl (not_exceeded_of_active hact)
      · right
        rintro rfl
        obtain ⟨run', hrun', hs'⟩ := hf
        rw [hrun] at hrun'
        cases hrun'
        exact hs hs'
    rw [hls k] at hl
    split at hl
    · next hk =>
      cases hl
      have hk : k = ledger.runId := hk
      subst hk
      refine (hi.keep hj hget hkeep).imp_left fun hw d => ?_
      have h1 := hw d
      have h2 := (reconcileUsage_ok hrec).2 d
      change ledger.used.get d + remaining.get d ≤ ledger.limit.get d
      omega
    · exact hi.keep hj hl hkeep
  | @settled r ledger evaluation actual used reserved remaining rs hr hact hget hrec he hrel hsafe hset hls hfail =>
    have hlk : ledger.runId = r.runId := Table.get?_key hget
    rw [hls k] at hl
    split at hl
    · next hk =>
      have hk : k = r.runId := hk.trans hlk
      subst hk
      exact .inr ⟨hfail, fun _ => ⟨_, hset.mem_iff.2 (.inl rfl), rfl, rfl⟩⟩
    · next hk =>
      have hne : r.runId ≠ k := fun h => hk (h.symm.trans hlk.symm)
      refine hi.keep hj hl fun _ _ h => ?_
      obtain ⟨s, a, hget'⟩ := hrel.get? (fun e hm => (he e hm).1) hr
      refine HasExceeded.of_sets (r := { r with state := s, actual := a }) ?_ hset hget' rfl (.inr hne)
      cases hrel with
      | missing | before _ => exact h
      | @now e _ _ _ heact _ hset' =>
        exact h.of_sets hset' (he e rfl).1 rfl (.inl (not_exceeded_of_active heact))

theorem LedgerStep.cap (h : LedgerStep safe own db db') (hj : JournalStep db db') (hi : CapInv own db) :
    CapInv own db' := by
  cases h with
  | kept _ h => exact h.cap hj hi
  | @opened run limit hfresh hset hl hr =>
    intro k l hget
    rw [Table.get?_insert hl] at hget
    split at hget
    · cases hget
      exact .inl fun d => by simp
    · exact hi.keep hj hget fun _ _ h => hr ▸ h

theorem LedgerStep.used_mono (h : LedgerStep safe own db db') {k : String} {l l' : BudgetLedgerRow}
    (hl : db.ledgers.get? k = some l) (hl' : db'.ledgers.get? k = some l') :
    l'.limit = l.limit ∧ ∀ d, l.used.get d ≤ l'.used.get d := by
  have hsame (h : db'.ledgers.get? k = db.ledgers.get? k) : l'.limit = l.limit ∧ ∀ d, l.used.get d ≤ l'.used.get d := by
    rw [h, hl] at hl'
    cases hl'
    exact ⟨rfl, fun _ => Nat.le_refl _⟩
  -- A row set for `k` has the limit of the row it replaces and at least its usage.
  have hsets {x y : BudgetLedgerRow} {k₀ : String} (hget : db.ledgers.get? k₀ = some x)
      (hset : db.ledgers.Sets y db'.ledgers) (hk : y.runId = x.runId) (hlim : y.limit = x.limit)
      (hu : ∀ d, x.used.get d ≤ y.used.get d) : l'.limit = l.limit ∧ ∀ d, l.used.get d ≤ l'.used.get d := by
    by_cases hkey : k = y.runId
    · subst hkey
      rw [hset.get?_self] at hl'
      rw [hk, Table.get?_self hget] at hl
      cases hl'
      cases hl
      exact ⟨hlim, hu⟩
    · exact hsame (hset.get?_ne hkey)
  cases h with
  | opened hfresh hset hins hr => exact hsame (by rw [Table.get?_insert_of_some hins hl, hl])
  | kept _ h =>
    cases h with
    | untouched hls _ => exact hsame (by rw [hls])
    | touched _ _ _ _ hls => exact hsame (by rw [hls])
    | reopened _ _ _ _ hls => exact hsame (by rw [hls])
    | reserved _ _ hget _ _ hls => exact hsets hget hls rfl rfl fun _ => Nat.le_refl _
    | charged _ _ hget hrec _ _ hls =>
      obtain ⟨rfl, -⟩ := reconcileUsage_ok hrec
      exact hsets hget hls rfl rfl fun d => by simp
    | released _ _ _ hget _ _ hls => exact hsets hget hls rfl rfl fun _ => Nat.le_refl _
    | settled _ _ hget hrec _ _ _ _ hls _ =>
      obtain ⟨rfl, -⟩ := reconcileUsage_ok hrec
      exact hsets hget hls rfl rfl fun d => by simp

end Step

/-! ## Along a run -/

theorem cap_reachable (h : Reachable E db) : CapInv False db := by
  refine Reaches.inv (CapInv False) (fun _ _ h => by cases h) (fun _ _ _ hi _ he => ?_) h
  have hstep : LedgerStep _ (ownReservation _ _ = true) _ _ := exec_ledger he
  exact (hstep.weaken fun h => h.elim).cap (exec_journal he) hi

theorem cap_reachable_own (h : ReachableWhen E (fun db op => ownReservation db op = true) db) : CapInv True db := by
  refine Reaches.inv (CapInv True) (fun _ _ h => by cases h) (fun _ _ _ hi hown he => ?_) h
  exact ((exec_ledger he).weaken fun _ => hown).cap (exec_journal he) hi

theorem Later.failed (h : Later E db db') (hf : HasFailed db k) : HasFailed db' k :=
  Reaches.inv (HasFailed · k) hf (fun _ _ _ hi _ he => (exec_journal he).failed hi) h

theorem Later.ledger (h : Later E db db') (ho : Owned db) (hl : db.ledgers.get? k = some l) :
    ∃ l', db'.ledgers.get? k = some l' ∧ l'.limit = l.limit ∧ ∀ d, l.used.get d ≤ l'.used.get d := by
  suffices hs : Owned db' ∧ ∃ l', db'.ledgers.get? k = some l' ∧ l'.limit = l.limit ∧ ∀ d, l.used.get d ≤ l'.used.get d from
    hs.2
  refine Reaches.inv (fun d => Owned d ∧ ∃ l', d.ledgers.get? k = some l' ∧ l'.limit = l.limit ∧
    ∀ i, l.used.get i ≤ l'.used.get i) ⟨ho, l, hl, rfl, fun _ => Nat.le_refl _⟩ ?_ h
  rintro d op d' ⟨hod, l₁, hl₁, hlim, hu⟩ - he
  have hstep := exec_ledger he
  have hod' := hstep.owned hod
  refine ⟨hod', ?_⟩
  obtain ⟨l₂, hl₂⟩ : ∃ l₂, d'.ledgers.get? k = some l₂ := by
    apply Option.isSome_iff_exists.1
    cases hstep with
    | kept _ h => rw [h.ledgers_isSome, hl₁]; rfl
    | opened _ _ hins _ => rw [Table.get?_insert_of_some hins hl₁]; rfl
  obtain ⟨hlim', hu'⟩ := hstep.used_mono hl₁ hl₂
  exact ⟨l₂, hl₂, hlim'.trans hlim, fun i => Nat.le_trans (hu i) (hu' i)⟩

/-- The calls that put usage on a ledger. -/
def charges : Op → Bool
  | .reserve .. => true
  | .completeReservation .. => true
  | _ => false

theorem charges_within_cap {op : Op} {l' : BudgetLedgerRow} (hop : charges op = true) (h : exec E db op = .ok db')
    (hl : db.ledgers.get? k = some l) (hl' : db'.ledgers.get? k = some l') (hne : l' ≠ l) :
    WithinCap l' ∧ ((∃ runId key estimated actorId id ids, op = .reserve runId key estimated actorId id ids) →
      WithinCap l) := by
  cases op <;> try cases hop
  case reserve =>
    simp only [exec, map_ok, Prod.exists, exists_and_right, exists_eq_right] at h
    obtain ⟨_, h⟩ := h
    obtain rfl | ⟨ledger, run, reserved, _, _, _, _, _, rfl, hget, -, hres, -, hls, -⟩ := BudgetService.reserve_ok h
    · rw [hl] at hl'
      exact absurd (Option.some.inj hl').symm hne
    · rw [hls k] at hl'
      split at hl'
      · next hk =>
        cases hl'
        rw [hk, Table.get?_self hget] at hl
        cases hl
        obtain ⟨rfl, hcap⟩ := reserveUsage_ok hres
        refine ⟨hcap, fun _ d => ?_⟩
        have := hcap d
        rw [UsageRecord.get_plus] at this
        omega
      · rw [hl] at hl'
        exact absurd (Option.some.inj hl').symm hne
  case completeReservation =>
    refine ⟨?_, by rintro ⟨_, _, _, _, _, _, h⟩; cases h⟩
    obtain rfl | ⟨r, ledger, run, _, _, _, _, _, _, _, rfl, -, -, hget, -, -, hfit, -, hls, -⟩ := BudgetService.complete_ok h
    · rw [hl] at hl'
      exact absurd (Option.some.inj hl').symm hne
    · rw [hls k] at hl'
      split at hl'
      · cases hl'
        intro d
        have := UsageRecord.fitsWithin_iff.1 hfit d
        simpa using this
      · rw [hl] at hl'
        exact absurd (Option.some.inj hl').symm hne

/-- What a `reserve` or `complete` can still do to the run's ledger in `db`:
one that changes the row leaves it within its cap, a reservation also found it
within its cap, and there is none once `ledger` (the row of an earlier moment)
has used more than its limit. Completing a completed reservation is a no-op. -/
def ChargesLawfully (E : Env) (ledger : BudgetLedgerRow) (db : Db) : Prop :=
  (∀ op db' l l', charges op = true → exec E db op = .ok db' → db.ledgers.get? ledger.runId = some l →
    db'.ledgers.get? ledger.runId = some l' → l' ≠ l →
    WithinCap l' ∧
    ((∃ runId key estimated actorId id ids, op = .reserve runId key estimated actorId id ids) → WithinCap l) ∧
    ∀ d, ledger.used.get d ≤ ledger.limit.get d) ∧
  ∀ id r actual actorId ids db', db.reservations.get? id = some r → r.state = .completed →
    exec E db (.completeReservation id actual actorId ids) = .ok db' → db' = db

theorem Later.chargesLawfully {ledger : BudgetLedgerRow} (h : Later E db db') (ho : Owned db)
    (hl : db.ledgers.get? k = some ledger) : ChargesLawfully E ledger db' := by
  have hl₀ := Table.get?_self hl
  refine ⟨fun op db'' l l' hop he hget hget' hne => ?_, fun id r actual actorId ids db'' hr hs he => ?_⟩
  · obtain ⟨hcap, hcap'⟩ := charges_within_cap hop he hget hget' hne
    refine ⟨hcap, hcap', fun d => ?_⟩
    obtain ⟨x, hx, hlim, hu⟩ := Later.ledger (h.trans (.step .init trivial he)) ho hl₀
    rw [hget'] at hx
    cases hx
    have h1 := hcap d
    have h2 := hu d
    rw [hlim] at h1
    omega
  · obtain rfl | ⟨r', _, _, _, _, _, _, _, _, _, -, hr', hact, -⟩ := BudgetService.complete_ok he
    · rfl
    · rw [hr] at hr'
      cases hr'
      rw [hs] at hact
      cases hact

/-- The hard cap: every run is within its limit in all ten dimensions or has
failed (with an exceeded reservation, as long as no case resolved a reservation
of another run). Failure is final, and from then on reservations and charges
that change the ledger only ever leave it within its limit, and none does once
the usage charged so far passes the limit. -/
theorem hard_budget_cap {E : Env} {db : Db} (h : Reachable E db) :
    ∀ run ∈ db.runs, ∃ ledger, db.ledgers.get? run.runId = some ledger ∧
      (WithinCap ledger ∨ run.state = .failed) ∧
      (ReachableWhen E (fun db op => ownReservation db op = true) db →
        WithinCap ledger ∨ (run.state = .failed ∧ HasExceeded db.reservations run.runId)) ∧
      ∀ db', Later E db db' → (run.state = .failed → HasFailed db' run.runId) ∧ ChargesLawfully E ledger db' := by
  intro run hrun
  have ho := reachable_owned h
  have hget : db.runs.get? run.runId = some run := Table.get?_of_mem hrun
  obtain ⟨ledger, hl⟩ : ∃ ledger, db.ledgers.get? run.runId = some ledger := by
    apply Option.isSome_iff_exists.1
    rw [ho.ledgers, hget]
    rfl
  have hfailed (hf : HasFailed db run.runId) : run.state = .failed := by
    obtain ⟨r, hr, hs⟩ := hf
    rw [hget] at hr
    cases hr
    exact hs
  refine ⟨ledger, hl, ?_, fun hw => ?_, fun db' hlater => ⟨fun hs => hlater.failed ⟨run, hget, hs⟩, hlater.chargesLawfully ho hl⟩⟩
  · exact (cap_reachable h run.runId ledger hl).imp_right fun hf => hfailed hf.1
  · exact (cap_reachable_own hw run.runId ledger hl).imp_right fun hf => ⟨hfailed hf.1, hf.2 trivial⟩

/-- Two reservations of 5 on a limit of 10; the first one's result used 7. -/
def Sample.exhausted : List Op :=
  Sample.started "run" "tree" ++ [Sample.session "run" "session", Sample.reserved "run" "a" 5, Sample.reserved "run" "b" 5] ++
    Sample.claimedFor "run" "session" "act" "a" ++ [Sample.settled "run" "act" "a" 7]

theorem hard_budget_cap_exhausted :
    (after Sample.env Sample.exhausted).runs.rows.map (·.state) = [.failed] ∧
      ∀ run ∈ (after Sample.env Sample.exhausted).runs, ∃ ledger,
        (after Sample.env Sample.exhausted).ledgers.get? run.runId = some ledger ∧
        (WithinCap ledger ∨ run.state = .failed ∧ HasExceeded (after Sample.env Sample.exhausted).reservations run.runId) := by
  refine ⟨by decide, fun run hrun => ?_⟩
  obtain ⟨ledger, hl, -, hcap, -⟩ := hard_budget_cap (reachable_after (by decide)) run hrun
  exact ⟨ledger, hl, hcap (reachableWhen_after (by decide))⟩

/-- The run has failed with an exceeded reservation, and completing the other
reservation still moves its ledger. -/
theorem ledger_moves_after_exceeded :
    ∃ db op db', Reachable Sample.env db ∧ HasFailed db "run" ∧ HasExceeded db.reservations "run" ∧ charges op = true ∧
      exec Sample.env db op = .ok db' ∧ db'.ledgers.get? "run" ≠ db.ledgers.get? "run" := by
  let charge : Op := .completeReservation "b" (Sample.usage 1) "worker" (Sample.ids "charged")
  have hrun : ((after Sample.env Sample.exhausted).runs.get? "run").map (·.state) = some .failed := by decide
  obtain ⟨run, hget, hs⟩ := Option.map_eq_some_iff.1 hrun
  have hexceeded : ∃ r ∈ (after Sample.env Sample.exhausted).reservations.rows, r.runId = "run" ∧ r.state = .exceeded := by
    decide
  have hok : (exec Sample.env (after Sample.env Sample.exhausted) charge).isOk = true := by decide
  cases he : exec Sample.env (after Sample.env Sample.exhausted) charge with
  | error e => rw [he] at hok; cases hok
  | ok db' =>
    refine ⟨_, charge, db', reachable_after (by decide), ⟨run, hget, hs⟩, hexceeded, rfl, he, fun heq => ?_⟩
    have hmoved : (exec Sample.env (after Sample.env Sample.exhausted) charge).toOption.bind (·.ledgers.get? "run") ≠
        (after Sample.env Sample.exhausted).ledgers.get? "run" := by decide
    rw [he] at hmoved
    exact hmoved heq

end AvoCorrelate
