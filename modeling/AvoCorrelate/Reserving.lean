import Mathlib.Data.List.Induction
import AvoCorrelate.System
/-!
# Two reservations at a time

Everything else about the control plane takes a service call as one transaction.
`BudgetService.reserve` is taken apart here: it makes three `SELECT` statements,
each of which sees what is committed when it runs, and then commits its writes
at once. The writes assign columns of rows as they were read. Only the unique
event number, drawn from the row of the run, stands between two writers of one
run, and the ledger is read before that row.
-/
open AvoLib

namespace AvoCorrelate

/-- The arguments of a `reserve` call, its drawn identifiers included. -/
structure ReserveCall where
  activityKey : String
  estimated : UsageRecord
  actorId : String
  reservationId : String
  ids : Db.EventIds

/-- How far a `reserve` call has come, and what it has read. -/
inductive Reserving
  | begun
  | unreserved
  | budgeted (ledger : Option BudgetLedgerRow)
  | prepared (ledger : BudgetLedgerRow) (run : RunRow) (reserved : UsageRecord)
  | committed
  | replayed (reservationId : String)
  | raised (e : Err)
  deriving DecidableEq

namespace BudgetService

/-- The first statement: a reservation of the key, if there is one. -/
def selectReservation (db : Db) (runId : String) (c : ReserveCall) : Reserving :=
  match db.reservations.find? (fun r => r.runId = runId ∧ r.activityKey = c.activityKey) with
  | some existing =>
    if existing.estimated = c.estimated then .replayed existing.reservationId
    else .raised ⟨.reservationConflict, "activity_key already has a different estimate"⟩
  | none => .unreserved

/-- What follows from the rows that were read. -/
def prepare (runId : String) (c : ReserveCall) (ledger : Option BudgetLedgerRow) (run : Option RunRow) : Reserving :=
  match ledger, run with
  | some ledger, some run =>
    match reserveUsage ledger.limit ledger.used ledger.reserved c.estimated with
    | .ok reserved => .prepared ledger run reserved
    | .error e => .raised e
  | _, _ => .raised ⟨.lookup, "run not found: " ++ runId⟩

variable {runId : String} {c : ReserveCall} {reserved : UsageRecord} {db : Db}

theorem prepare_prepared {ledger : Option BudgetLedgerRow} {run : Option RunRow} {l : BudgetLedgerRow} {r : RunRow}
    (h : prepare runId c ledger run = .prepared l r reserved) :
    ledger = some l ∧ run = some r ∧ reserveUsage l.limit l.used l.reserved c.estimated = .ok reserved := by
  unfold prepare at h
  split at h
  · split at h
    · next hu => cases h; exact ⟨rfl, rfl, hu⟩
    · cases h
  · cases h

/-- The writes, under the constraints that hold when they are committed. -/
def commitReserve (db : Db) (runId : String) (c : ReserveCall) (ledger : BudgetLedgerRow) (run : RunRow)
    (reserved : UsageRecord) : Except Err Db := do
  let db ← db.insertReservation ⟨c.reservationId, runId, c.activityKey, .reserved, c.estimated, none⟩
  let db := db.updateLedger runId (fun l => { l with reserved := reserved, revision := ledger.revision + 1 })
    (fun _ => rfl)
  appendRunEvent db run "budget.reserved" c.actorId
    [("reservation_id", .str c.reservationId), ("activity_key", .str c.activityKey)] c.ids

/-- The next statement of a call, run against what is committed now. -/
def advance (runId : String) (c : ReserveCall) (db : Db) : Reserving → Db × Reserving
  | .begun => (db, selectReservation db runId c)
  | .unreserved => (db, .budgeted (db.ledgers.get? runId))
  | .budgeted ledger => (db, prepare runId c ledger (db.runs.get? runId))
  | .prepared ledger run reserved =>
    match commitReserve db runId c ledger run reserved with
    | .ok db' => (db', .committed)
    | .error e => (db, .raised e)
  | .committed => (db, .committed)
  | .replayed id => (db, .replayed id)
  | .raised e => (db, .raised e)

/-- `n` statements of one call with nothing in between. -/
def advances (runId : String) (c : ReserveCall) : Nat → Db × Reserving → Db × Reserving
  | 0, s => s
  | n + 1, s => advances runId c n (advance runId c s.1 s.2)

theorem reserve_prepared {ledger : BudgetLedgerRow} {run : RunRow}
    (hfound : db.reservations.find? (fun r => r.runId = runId ∧ r.activityKey = c.activityKey) = none)
    (hl : db.ledgers.get? runId = some ledger) (hr : db.runs.get? runId = some run)
    (hu : reserveUsage ledger.limit ledger.used ledger.reserved c.estimated = .ok reserved) :
    reserve db runId c.activityKey c.estimated c.actorId c.reservationId c.ids =
      (fun db' => (db', c.reservationId)) <$> commitReserve db runId c ledger run reserved := by
  have hupdate : db.ledgers.modify runId (fun l => { l with reserved := reserved, revision := l.revision + 1 })
      (fun _ => rfl) = db.ledgers.modify runId (fun l => { l with reserved := reserved, revision := ledger.revision + 1 })
      (fun _ => rfl) := by
    refine Table.modify_congr fun l hmem hk => ?_
    obtain rfl : ledger = l := Table.eq_of_key (Table.get?_mem hl) hmem ((Table.get?_key hl).trans hk.symm)
    rfl
  unfold reserve
  rw [hfound]
  simp only [hl, hr, orRaise]
  change (reserveUsage ledger.limit ledger.used ledger.reserved c.estimated >>= _) = _
  rw [hu]
  unfold commitReserve
  change (Db.insertReservation db _ >>= _) = _
  cases hins : db.insertReservation ⟨c.reservationId, runId, c.activityKey, .reserved, c.estimated, none⟩ with
  | error e => rfl
  | ok d =>
    simp only [Db.insertReservation, bind_ok, insertRow_ok, pure_ok] at hins
    obtain ⟨t, -, rfl⟩ := hins
    have hupdated : Db.updateLedger { db with reservations := t } runId
        (fun l => { l with reserved := reserved, revision := l.revision + 1 }) (fun _ => rfl) =
        Db.updateLedger { db with reservations := t } runId
        (fun l => { l with reserved := reserved, revision := ledger.revision + 1 }) (fun _ => rfl) :=
      congrArg (fun ls => { db with reservations := t, ledgers := ls }) hupdate
    change (appendRunEvent _ _ _ _ _ _ >>= _) = _ <$> appendRunEvent _ _ _ _ _ _
    rw [hupdated]
    rfl

theorem reserve_found {existing : BudgetReservationRow}
    (hfound : db.reservations.find? (fun r => r.runId = runId ∧ r.activityKey = c.activityKey) = some existing) :
    reserve db runId c.activityKey c.estimated c.actorId c.reservationId c.ids =
      if existing.estimated = c.estimated then .ok (db, existing.reservationId)
      else .error ⟨.reservationConflict, "activity_key already has a different estimate"⟩ := by
  unfold reserve
  rw [hfound]
  dsimp only [require]
  split <;> rfl

theorem reserve_raises {e : Err}
    (hfound : db.reservations.find? (fun r => r.runId = runId ∧ r.activityKey = c.activityKey) = none)
    (h : prepare runId c (db.ledgers.get? runId) (db.runs.get? runId) = .raised e) :
    reserve db runId c.activityKey c.estimated c.actorId c.reservationId c.ids = .error e := by
  unfold reserve
  rw [hfound]
  unfold prepare at h
  split at h
  · next ledger run hl hr =>
    simp only [hl, hr, orRaise]
    change (reserveUsage ledger.limit ledger.used ledger.reserved c.estimated >>= _) = _
    split at h
    · cases h
    · next hu =>
      cases h
      rw [hu]
      rfl
  · next hn =>
    cases h
    cases hl : db.ledgers.get? runId with
    | none => rfl
    | some ledger =>
      cases hr : db.runs.get? runId with
      | none => rfl
      | some run => exact absurd hr (hn ledger run hl)

/-- Left alone, the statements make up the call. -/
theorem advances_alone (db : Db) (runId : String) (c : ReserveCall) :
    advances runId c 4 (db, .begun) =
      match reserve db runId c.activityKey c.estimated c.actorId c.reservationId c.ids with
      | .ok (db', id) =>
        (db', if (db.reservations.find? fun r => r.runId = runId ∧ r.activityKey = c.activityKey).isSome then .replayed id
          else .committed)
      | .error e => (db, .raised e) := by
  simp only [advances, advance, selectReservation]
  cases hfound : db.reservations.find? (fun r => r.runId = runId ∧ r.activityKey = c.activityKey) with
  | some existing =>
    rw [reserve_found hfound]
    dsimp only
    by_cases he : existing.estimated = c.estimated
    · rw [if_pos he, if_pos he]
      rfl
    · rw [if_neg he, if_neg he]
  | none =>
    cases hprepared : prepare runId c (db.ledgers.get? runId) (db.runs.get? runId) with
    | raised e =>
      rw [reserve_raises hfound hprepared]
      simp only [hprepared]
    | prepared ledger run reserved =>
      obtain ⟨hl, hr, hu⟩ := prepare_prepared hprepared
      rw [reserve_prepared hfound hl hr hu]
      simp only [hprepared]
      cases commitReserve db runId c ledger run reserved <;> rfl
    | begun | unreserved | budgeted | committed | replayed =>
      unfold prepare at hprepared
      split at hprepared
      · split at hprepared <;> cases hprepared
      · cases hprepared

/-! ## What one call does -/

/-- The call returned without writing, or raised. -/
def Stopped (p : Reserving) : Prop := (∃ id, p = .replayed id) ∨ ∃ e, p = .raised e

section Alone
variable {runId : String} {c : ReserveCall} {db db' : Db} {n : Nat} {p : Reserving}

theorem advance_stopped (hp : Stopped p) : advance runId c db p = (db, p) := by
  obtain ⟨id, rfl⟩ | ⟨e, rfl⟩ := hp <;> rfl

theorem advances_stopped (hp : Stopped p) : advances runId c n (db, p) = (db, p) := by
  induction n with
  | zero => rfl
  | succ n ih => rw [advances, advance_stopped hp, ih]

theorem advances_committed : advances runId c n (db, .committed) = (db, .committed) := by
  induction n with
  | zero => rfl
  | succ n ih => exact ih

theorem Stopped.not_committed (hp : Stopped p) : p ≠ .committed := by
  obtain ⟨id, rfl⟩ | ⟨e, rfl⟩ := hp <;> nofun

theorem advances_succ (s : Db × Reserving) :
    advances runId c (n + 1) s = advance runId c (advances runId c n s).1 (advances runId c n s).2 := by
  induction n generalizing s with
  | zero => rfl
  | succ n ih => exact ih _

theorem selectReservation_cases : selectReservation db runId c = .unreserved ∨ Stopped (selectReservation db runId c) := by
  unfold selectReservation
  split
  · split
    · exact .inr (.inl ⟨_, rfl⟩)
    · exact .inr (.inr ⟨_, rfl⟩)
  · exact .inl rfl

theorem prepare_cases (ledger : Option BudgetLedgerRow) (run : Option RunRow) :
    (∃ l r u, prepare runId c ledger run = .prepared l r u) ∨ Stopped (prepare runId c ledger run) := by
  unfold prepare
  split
  · split
    · exact .inl ⟨_, _, _, rfl⟩
    · exact .inr (.inr ⟨_, rfl⟩)
  · exact .inr (.inr ⟨_, rfl⟩)

/-- What a call has read after `n` of its statements, all of them run against `db`. -/
inductive Read (runId : String) (c : ReserveCall) (db : Db) : Nat → Reserving → Prop
  | begun : Read runId c db 0 .begun
  | unreserved : Read runId c db 1 .unreserved
  | budgeted : Read runId c db 2 (.budgeted (db.ledgers.get? runId))
  | prepared {l : BudgetLedgerRow} {r : RunRow} {u : UsageRecord} (hl : db.ledgers.get? runId = some l)
    (hr : db.runs.get? runId = some r) (hu : reserveUsage l.limit l.used l.reserved c.estimated = .ok u) :
    Read runId c db 3 (.prepared l r u)
  | stopped {n : Nat} {p : Reserving} (hp : Stopped p) : Read runId c db n p

theorem Read.next (h : Read runId c db n p) (hn : n < 3) :
    (advance runId c db p).1 = db ∧ Read runId c db (n + 1) (advance runId c db p).2 := by
  cases h with
  | begun =>
    refine ⟨rfl, ?_⟩
    change Read runId c db 1 (selectReservation db runId c)
    obtain h | h := @selectReservation_cases runId c db
    · rw [h]
      exact .unreserved
    · exact .stopped h
  | unreserved => exact ⟨rfl, .budgeted⟩
  | budgeted =>
    refine ⟨rfl, ?_⟩
    change Read runId c db 3 (prepare runId c (db.ledgers.get? runId) (db.runs.get? runId))
    obtain ⟨l, r, u, h⟩ | h := @prepare_cases runId c (db.ledgers.get? runId) (db.runs.get? runId)
    · obtain ⟨hl, hr, hu⟩ := prepare_prepared h
      rw [h]
      exact .prepared hl hr hu
    · exact .stopped h
  | prepared => omega
  | stopped hp =>
    rw [advance_stopped hp]
    exact ⟨rfl, .stopped hp⟩

theorem Read.not_committed (h : Read runId c db n p) : p ≠ .committed := by
  cases h with
  | begun | unreserved | budgeted | prepared => nofun
  | stopped hp => exact hp.not_committed

/-! ## What a call that commits has read -/

theorem committed_of_prepared {l : BudgetLedgerRow} {r : RunRow} {u : UsageRecord}
    (h : advances runId c n (db, .prepared l r u) = (db', .committed)) : commitReserve db runId c l r u = .ok db' := by
  cases n with
  | zero => cases h
  | succ n =>
    simp only [advances, advance] at h
    split at h
    · next hok =>
      rw [advances_committed] at h
      cases h
      exact hok
    · rw [advances_stopped (.inr ⟨_, rfl⟩)] at h
      cases h

theorem committed_of_budgeted {ledger : Option BudgetLedgerRow}
    (h : advances runId c n (db, .budgeted ledger) = (db', .committed)) :
    ∃ l r u, ledger = some l ∧ db.runs.get? runId = some r ∧
      reserveUsage l.limit l.used l.reserved c.estimated = .ok u ∧ commitReserve db runId c l r u = .ok db' := by
  cases n with
  | zero => cases h
  | succ n =>
    simp only [advances, advance] at h
    obtain ⟨l, r, u, hp⟩ | hp := @prepare_cases runId c ledger (db.runs.get? runId)
    · rw [hp] at h
      obtain ⟨hl, hr, hu⟩ := prepare_prepared hp
      exact ⟨l, r, u, hl, hr, hu, committed_of_prepared h⟩
    · rw [advances_stopped hp] at h
      exact absurd (congrArg Prod.snd h) hp.not_committed

theorem committed_of_unreserved (h : advances runId c n (db, .unreserved) = (db', .committed)) :
    ∃ l r u, db.ledgers.get? runId = some l ∧ db.runs.get? runId = some r ∧
      reserveUsage l.limit l.used l.reserved c.estimated = .ok u ∧ commitReserve db runId c l r u = .ok db' := by
  cases n with
  | zero => cases h
  | succ n => exact committed_of_budgeted h

theorem committed_of_begun (h : advances runId c n (db, .begun) = (db', .committed)) :
    ∃ l r u, db.ledgers.get? runId = some l ∧ db.runs.get? runId = some r ∧
      reserveUsage l.limit l.used l.reserved c.estimated = .ok u ∧ commitReserve db runId c l r u = .ok db' := by
  cases n with
  | zero => cases h
  | succ n =>
    simp only [advances, advance] at h
    obtain hp | hp := @selectReservation_cases runId c db
    · rw [hp] at h
      exact committed_of_unreserved h
    · rw [advances_stopped hp] at h
      exact absurd (congrArg Prod.snd h) hp.not_committed

theorem Read.commits (h : Read runId c db 3 p) (hgoes : ¬ Stopped (advance runId c db p).2) :
    ∃ l r u db', p = .prepared l r u ∧ db.ledgers.get? runId = some l ∧ db.runs.get? runId = some r ∧
      reserveUsage l.limit l.used l.reserved c.estimated = .ok u ∧ commitReserve db runId c l r u = .ok db' ∧
      advance runId c db p = (db', .committed) := by
  cases h with
  | @prepared l r u hl hr hu =>
    cases hc : commitReserve db runId c l r u with
    | ok db' =>
      refine ⟨l, r, u, db', rfl, hl, hr, hu, hc, ?_⟩
      simp only [advance, hc]
    | error e =>
      refine absurd (.inr ⟨e, ?_⟩) hgoes
      simp only [advance, hc]
  | stopped hp =>
    rw [advance_stopped hp] at hgoes
    exact absurd hp hgoes

/-- A commit replaces the estimate of the ledger by what was computed, advances
the run as it was read and takes its next event number. -/
theorem commitReserve_ok {l l₀ : BudgetLedgerRow} {r r₀ : RunRow} {u : UsageRecord}
    (h : commitReserve db runId c l r u = .ok db') (hl : db.ledgers.get? runId = some l₀)
    (hr : db.runs.get? runId = some r₀) (hk : r.runId = runId) :
    db'.ledgers.get? runId = some { l₀ with reserved := u, revision := l.revision + 1 } ∧
      db'.runs.get? runId = some (Db.bump r r₀) ∧
      (∀ e ∈ db.events, ¬ (e.runId = runId ∧ e.sequence = r.eventSequence + 1)) ∧
      ∃ e ∈ db'.events, e.runId = runId ∧ e.sequence = r.eventSequence + 1 := by
  subst hk
  simp only [commitReserve, bind_ok, Db.insertReservation, insertRow_ok, pure_ok, appendRunEvent, Db.appendNextEvent,
    Db.appendEvent, Db.insertEvent, Db.insertOutbox] at h
  obtain ⟨_, ⟨rs, -, rfl⟩, _, ⟨es, ⟨⟨-, hnew⟩, hes⟩, rfl⟩, os, -, rfl⟩ := h
  have hrun := Table.sets_modify (Db.bump r) (fun _ => rfl) hr r.runId
  have hledger := Table.sets_modify (fun x : BudgetLedgerRow => { x with reserved := u, revision := l.revision + 1 })
    (fun _ => rfl) hl r.runId
  exact ⟨hledger.trans (if_pos (Table.get?_key hl).symm), hrun.trans (if_pos (Table.get?_key hr).symm), hnew, _, (Table.mem_insert hes).2 (.inr rfl), rfl, rfl⟩

end Alone

/-! ## Two calls -/

/-- The two calls. -/
inductive Caller
  | first | second
  deriving DecidableEq

def Caller.other : Caller → Caller
  | .first => .second
  | .second => .first

theorem Caller.other_ne (o : Caller) : o.other ≠ o := by cases o <;> nofun

theorem Caller.other_other (o : Caller) : o.other.other = o := by cases o <;> rfl

theorem Caller.eq_or (o c : Caller) : c = o ∨ c = o.other := by cases o <;> cases c <;> simp [Caller.other]

structure Reservers where
  db : Db
  phase : Caller → Reserving

section Two
variable (runId : String) (calls : Caller → ReserveCall)

/-- One of the calls runs its next statement. -/
def Reservers.move (s : Reservers) (c : Caller) : Reservers :=
  let next := advance runId (calls c) s.db (s.phase c)
  ⟨next.1, Function.update s.phase c next.2⟩

/-- The statements of both calls, interleaved as the schedule says. -/
def Reservers.run (s : Reservers) (schedule : List Caller) : Reservers :=
  schedule.foldl (Reservers.move runId calls) s

/-- Both calls are about to begin. -/
def Reservers.begin (db : Db) : Reservers := ⟨db, fun _ => .begun⟩

end Two

/-- `c` commits when the other call has read the ledger and not yet the run. -/
def Overtakes (c : Caller) (schedule : List Caller) : Prop :=
  ∃ before after, schedule = before ++ c :: after ∧ before.count c = 3 ∧ before.count c.other = 2

section Schedules
variable {runId : String} {calls : Caller → ReserveCall} {db : Db} {schedule before after : List Caller} {o : Caller}

theorem run_append (s : Reservers) :
    s.run runId calls (before ++ after) = (s.run runId calls before).run runId calls after :=
  List.foldl_append ..

theorem run_concat (s : Reservers) :
    s.run runId calls (schedule ++ [o]) = (s.run runId calls schedule).move runId calls o :=
  run_append s

theorem run_reads (hcount : ∀ c, schedule.count c ≤ 3) :
    ((Reservers.begin db).run runId calls schedule).db = db ∧
      ∀ c, Read runId (calls c) db (schedule.count c) (((Reservers.begin db).run runId calls schedule).phase c) := by
  induction schedule using List.reverseRecOn with
  | nil => exact ⟨rfl, fun _ => .begun⟩
  | append_singleton l o ih =>
    obtain ⟨hdb, hread⟩ := ih fun c => Nat.le_trans (by simp [List.count_append]) (hcount c)
    have ho : l.count o < 3 := by
      have := hcount o
      simp only [List.count_append, List.count_singleton_self] at this
      omega
    obtain ⟨hquiet, hnext⟩ := (hread o).next ho
    rw [run_concat]
    refine ⟨?_, fun c => ?_⟩
    · rw [Reservers.move, hdb]
      exact hquiet
    · simp only [Reservers.move, hdb]
      by_cases hc : c = o
      · subst hc
        rw [Function.update_self, List.count_append, List.count_singleton_self]
        exact hnext
      · rw [Function.update_of_ne hc, List.count_append, List.count_singleton, if_neg (by simpa using Ne.symm hc)]
        exact hread c

theorem run_alone {phase : Caller → Reserving} (ho : phase o = .committed) :
    (Reservers.run runId calls ⟨db, phase⟩ schedule).db =
        (advances runId (calls o.other) (schedule.count o.other) (db, phase o.other)).1 ∧
      (Reservers.run runId calls ⟨db, phase⟩ schedule).phase o.other =
        (advances runId (calls o.other) (schedule.count o.other) (db, phase o.other)).2 ∧
      (Reservers.run runId calls ⟨db, phase⟩ schedule).phase o = .committed := by
  induction schedule using List.reverseRecOn with
  | nil => exact ⟨rfl, rfl, ho⟩
  | append_singleton l c ih =>
    obtain ⟨hdb, hother, hcommitted⟩ := ih
    rw [run_concat]
    obtain rfl | rfl := o.eq_or c
    · have hcount : (l ++ [c]).count c.other = l.count c.other := by
        rw [List.count_append, List.count_singleton, if_neg (by simpa using (Caller.other_ne c).symm)]
        rfl
      simp only [Reservers.move, hcommitted, advance, hcount]
      refine ⟨hdb, ?_, by rw [Function.update_self]⟩
      rw [Function.update_of_ne (Caller.other_ne c)]
      exact hother
    · have hcount : (l ++ [o.other]).count o.other = l.count o.other + 1 := by
        rw [List.count_append, List.count_singleton_self]
      rw [hcount, advances_succ]
      rw [← hdb, ← hother]
      refine ⟨rfl, Function.update_self .., ?_⟩
      exact (Function.update_of_ne (Caller.other_ne o).symm ..).trans hcommitted

theorem run_stopped {s : Reservers} (ho : Stopped (s.phase o)) : (s.run runId calls schedule).phase o = s.phase o := by
  induction schedule generalizing s with
  | nil => rfl
  | cons c rest ih =>
    have hmove : (s.move runId calls c).phase o = s.phase o := by
      by_cases hc : o = c
      · subst hc
        exact (Function.update_self ..).trans (congrArg Prod.snd (advance_stopped ho))
      · exact Function.update_of_ne hc ..
    exact (ih (hmove ▸ ho)).trans hmove

theorem exists_first (h : ∃ c, 4 ≤ schedule.count c) :
    ∃ before o after, schedule = before ++ o :: after ∧ (∀ c, before.count c ≤ 3) ∧ before.count o = 3 := by
  induction schedule using List.reverseRecOn with
  | nil =>
    obtain ⟨c, hc⟩ := h
    simp at hc
  | append_singleton l x ih =>
    by_cases hl : ∃ c, 4 ≤ l.count c
    · obtain ⟨before, o, after, rfl, hcount, ho⟩ := ih hl
      exact ⟨before, o, after ++ [x], by simp, hcount, ho⟩
    · have hall : ∀ c, l.count c ≤ 3 := fun c => by
        have : ¬ 4 ≤ l.count c := fun hc => hl ⟨c, hc⟩
        omega
      obtain ⟨c, hc⟩ := h
      rw [List.count_append, List.count_singleton] at hc
      have := hall c
      split at hc
      · next he =>
        obtain rfl : x = c := by simpa using he
        exact ⟨l, x, [], rfl, hall, by omega⟩
      · omega

theorem overtakes_iff {x : Caller} (hcount : ∀ c, before.count c ≤ 3) (ho : before.count o = 3) :
    Overtakes x (before ++ o :: after) ↔ x = o ∧ before.count o.other = 2 := by
  constructor
  · rintro ⟨t, t', h, hx, hother⟩
    obtain ⟨as, rfl, has⟩ | ⟨bs, rfl, hbs⟩ := List.append_eq_append_iff.mp h
    · cases as with
      | nil =>
        obtain ⟨rfl, -⟩ := List.cons.inj has
        simp only [List.append_nil] at hother
        exact ⟨rfl, hother⟩
      | cons a as =>
        -- the other decomposition is longer: `o` has made its fourth statement in it
        obtain ⟨rfl, -⟩ := List.cons.inj has
        rw [List.count_append] at hx hother
        obtain rfl | rfl := o.eq_or x
        · rw [List.count_cons_self] at hx
          omega
        · rw [o.other_other, List.count_cons_self] at hother
          omega
    · cases bs with
      | nil =>
        obtain ⟨rfl, -⟩ := List.cons.inj hbs
        exact ⟨rfl, by rw [List.append_nil]; exact hother⟩
      | cons b bs =>
        obtain ⟨rfl, -⟩ := List.cons.inj hbs
        have := hcount x
        rw [List.count_append, List.count_cons_self] at this
        omega
  · rintro ⟨rfl, hother⟩
    exact ⟨before, after, rfl, ho, hother⟩

end Schedules

/-- The reservations of both calls are on the ledger, within its limit. -/
def Adds (runId : String) (calls : Caller → ReserveCall) (ledger : BudgetLedgerRow) (db : Db) : Prop :=
  ∃ l, db.ledgers.get? runId = some l ∧
    (∀ d, l.reserved.get d =
      ledger.reserved.get d + (calls .first).estimated.get d + (calls .second).estimated.get d) ∧
    (l.used.plus l.reserved).fitsWithin l.limit = true

section Adding
variable {runId : String} {calls : Caller → ReserveCall} {o : Caller} {ledger l : BudgetLedgerRow}

theorem reserved_sum (d : Dimension) :
    ledger.reserved.get d + (calls .first).estimated.get d + (calls .second).estimated.get d =
      ledger.reserved.get d + (calls o).estimated.get d + (calls o.other).estimated.get d := by
  cases o with
  | first => rfl
  | second => exact Nat.add_right_comm ..

theorem adds_of_after {db : Db} {u u' : UsageRecord} {n : Nat}
    (hu : reserveUsage ledger.limit ledger.used ledger.reserved (calls o).estimated = .ok u)
    (hu' : reserveUsage ledger.limit ledger.used u (calls o.other).estimated = .ok u')
    (hl : db.ledgers.get? runId = some { ledger with reserved := u', revision := n }) : Adds runId calls ledger db := by
  obtain ⟨rfl, -⟩ := reserveUsage_ok hu
  obtain ⟨rfl, hfits⟩ := reserveUsage_ok hu'
  refine ⟨_, hl, fun d => ?_, ?_⟩
  · rw [reserved_sum (o := o), UsageRecord.get_plus, UsageRecord.get_plus]
  · rw [UsageRecord.fitsWithin_iff]
    intro d
    rw [UsageRecord.get_plus]
    exact hfits d

theorem adds_of_before {db : Db} {u' : UsageRecord} {n : Nat}
    (hu' : reserveUsage ledger.limit ledger.used ledger.reserved (calls o.other).estimated = .ok u')
    (hl : db.ledgers.get? runId = some { ledger with reserved := u', revision := n }) :
    Adds runId calls ledger db ↔ ∀ d, (calls o).estimated.get d = 0 := by
  obtain ⟨rfl, hfits⟩ := reserveUsage_ok hu'
  constructor
  · rintro ⟨l, hl', hsum, -⟩ d
    obtain rfl := Option.some.inj (hl.symm.trans hl')
    have := hsum d
    rw [reserved_sum (o := o)] at this
    simp only [UsageRecord.get_plus] at this
    omega
  · intro hzero
    refine ⟨_, hl, fun d => ?_, ?_⟩
    · rw [reserved_sum (o := o), hzero d, UsageRecord.get_plus]
      rfl
    · rw [UsageRecord.fitsWithin_iff]
      intro d
      rw [UsageRecord.get_plus]
      exact hfits d

end Adding

/-- If both calls commit, the ledger holds both estimates within its limit,
exactly if neither call commits a nonzero estimate between the other's read of
the ledger and its read of the run. -/
theorem reserve_interleaved_iff {runId : String} {calls : Caller → ReserveCall} {db : Db} {ledger : BudgetLedgerRow}
    (hl : db.ledgers.get? runId = some ledger) {schedule : List Caller}
    (hcommitted : ∀ c, ((Reservers.begin db).run runId calls schedule).phase c = .committed) :
    Adds runId calls ledger ((Reservers.begin db).run runId calls schedule).db ↔
      ∀ c, Overtakes c schedule → ∀ d, (calls c).estimated.get d = 0 := by
  have hfour : ∃ c, 4 ≤ schedule.count c := by
    by_contra hn
    have hcount : ∀ c, schedule.count c ≤ 3 := fun c => by
      have : ¬ 4 ≤ schedule.count c := fun hc => hn ⟨c, hc⟩
      omega
    have hread : ∀ c, Read runId (calls c) db (schedule.count c)
        (((Reservers.begin db).run runId calls schedule).phase c) := (run_reads hcount).2
    exact (hread .first).not_committed (hcommitted .first)
  obtain ⟨before, o, after, rfl, hcount, ho⟩ := exists_first hfour
  obtain ⟨hdb, hread⟩ := @run_reads runId calls db before hcount
  have hsplit : (Reservers.begin db).run runId calls (before ++ o :: after) =
      (((Reservers.begin db).run runId calls before).move runId calls o).run runId calls after := run_append _
  rw [hsplit] at hcommitted ⊢
  generalize (Reservers.begin db).run runId calls before = s at *
  obtain ⟨d, phase⟩ := s
  dsimp only at hdb hread
  subst hdb
  -- the first commit goes through
  have hfirst := hread o
  rw [ho] at hfirst
  have hgoes : ¬ Stopped (advance runId (calls o) d (phase o)).2 := fun h => by
    have hmoved : (Reservers.move runId calls ⟨d, phase⟩ o).phase o = (advance runId (calls o) d (phase o)).2 :=
      Function.update_self ..
    rw [← hmoved] at h
    exact h.not_committed ((run_stopped h).symm.trans (hcommitted o))
  obtain ⟨l, r, u, db₁, hp, hl₀, hr, hu, hcommit, hadvance⟩ := hfirst.commits hgoes
  obtain rfl := Option.some.inj (hl.symm.trans hl₀)
  obtain ⟨hl₁, hr₁, -, ev, hev, hevrun, hevnumber⟩ := commitReserve_ok hcommit hl hr (Table.get?_key hr)
  have hmove : Reservers.move runId calls ⟨d, phase⟩ o = ⟨db₁, Function.update phase o .committed⟩ := by
    simp only [Reservers.move, hadvance]
  have hself : Function.update phase o Reserving.committed o = .committed := Function.update_self ..
  have hother : Function.update phase o Reserving.committed o.other = phase o.other :=
    Function.update_of_ne (Caller.other_ne o) ..
  rw [hmove] at hcommitted ⊢
  obtain ⟨hdb, hphase, -⟩ := @run_alone runId calls db₁ after o _ hself
  rw [hother] at hdb hphase
  -- the other call commits too, after what it had read
  have hsecond : advances runId (calls o.other) (after.count o.other) (db₁, phase o.other) =
      ((Reservers.run runId calls ⟨db₁, Function.update phase o .committed⟩ after).db, .committed) :=
    Prod.ext hdb.symm (hphase.symm.trans (hcommitted o.other))
  generalize (Reservers.run runId calls ⟨db₁, Function.update phase o .committed⟩ after).db = db₂ at hsecond ⊢
  have hfresh {l' : BudgetLedgerRow} {r' : RunRow} {u' : UsageRecord}
      (hl' : some { ledger with reserved := u, revision := ledger.revision + 1 } = some l')
      (hr' : db₁.runs.get? runId = some r')
      (hu' : reserveUsage l'.limit l'.used l'.reserved (calls o.other).estimated = .ok u')
      (hc : commitReserve db₁ runId (calls o.other) l' r' u' = .ok db₂) : Adds runId calls ledger db₂ := by
    cases hl'
    exact adds_of_after hu hu' (commitReserve_ok hc hl₁ hr' (Table.get?_key hr')).1
  have hread' := hread o.other
  generalize hn : before.count o.other = n at hread'
  have hnone (hne : n ≠ 2) : ∀ x, Overtakes x (before ++ o :: after) → ∀ d, (calls x).estimated.get d = 0 :=
    fun x hx => absurd (hn.symm.trans ((overtakes_iff hcount ho).mp hx).2) hne
  generalize phase o.other = q at hread' hsecond
  cases hread' with
  | begun =>
    obtain ⟨l', r', u', hl', hr', hu', hc⟩ := committed_of_begun hsecond
    exact iff_of_true (hfresh (hl₁.symm.trans hl') hr' hu' hc) (hnone (by omega))
  | unreserved =>
    obtain ⟨l', r', u', hl', hr', hu', hc⟩ := committed_of_unreserved hsecond
    exact iff_of_true (hfresh (hl₁.symm.trans hl') hr' hu' hc) (hnone (by omega))
  | budgeted =>
    obtain ⟨l', r', u', hl', hr', hu', hc⟩ := committed_of_budgeted hsecond
    obtain rfl := Option.some.inj (hl.symm.trans hl')
    rw [adds_of_before hu' (commitReserve_ok hc hl₁ hr' (Table.get?_key hr')).1]
    constructor
    · intro hzero x hx
      rw [((overtakes_iff hcount ho).mp hx).1]
      exact hzero
    · exact fun h => h o ((overtakes_iff hcount ho).mpr ⟨rfl, hn⟩)
  | prepared hl' hr' hu' =>
    -- it would take the event number the first one has taken
    obtain rfl := Option.some.inj (hr.symm.trans hr')
    have hc := committed_of_prepared hsecond
    exact absurd ⟨hevrun, hevnumber⟩ ((commitReserve_ok hc hl₁ hr₁ (Table.get?_key hr)).2.2.1 ev hev)
  | stopped hq =>
    rw [advances_stopped hq] at hsecond
    exact absurd (congrArg Prod.snd hsecond) hq.not_committed

/-- Two activities that want budget of one run. -/
def Sample.reserves : Caller → ReserveCall
  | .first => ⟨"a", Sample.usage 1, "worker", "res-a", Sample.ids "reserved-a"⟩
  | .second => ⟨"b", Sample.usage 1, "worker", "res-b", Sample.ids "reserved-b"⟩

/-- The run they want it of. -/
def Sample.unspent : Db := after Sample.env (Sample.started "run" "tree")

theorem Sample.ledger_unspent :
    Sample.unspent.ledgers.get? "run" = some ⟨"run", Sample.usage 10, .zero, .zero, 1⟩ := by decide

theorem reserve_interleaved_iff_apart :
    Adds "run" Sample.reserves ⟨"run", Sample.usage 10, .zero, .zero, 1⟩
      ((Reservers.begin Sample.unspent).run "run" Sample.reserves
        ([.first, .second, .first, .first] ++ .first :: [.second, .second, .second])).db := by
  refine (reserve_interleaved_iff Sample.ledger_unspent ?_).mpr ?_
  · intro c
    cases c <;> decide
  · intro c hc
    exact absurd ((overtakes_iff (fun c => by cases c <;> decide) (by decide)).mp hc).2 (by decide)

/-- The first call reads the ledger, the second one runs, and the first goes on. -/
theorem overtaken_reserve_lost : ¬ ∀ E db, Reachable E db → ∀ runId calls ledger, db.ledgers.get? runId = some ledger →
    (calls .first).activityKey ≠ (calls .second).activityKey → ∀ schedule,
      (∀ c, ((Reservers.begin db).run runId calls schedule).phase c = .committed) →
      Adds runId calls ledger ((Reservers.begin db).run runId calls schedule).db := by
  intro h
  let schedule : List Caller := [.first, .first, .second, .second, .second, .second, .first, .first]
  obtain ⟨l, hl, hsum, -⟩ := h Sample.env Sample.unspent (reachable_after (by decide)) "run" Sample.reserves _
    Sample.ledger_unspent (by decide) schedule (fun c => by cases c <;> decide)
  have hlost : (((Reservers.begin Sample.unspent).run "run" Sample.reserves schedule).db.ledgers.get? "run").map
      (·.reserved) = some (Sample.usage 1) := by decide
  rw [hl] at hlost
  have hone : l.reserved = Sample.usage 1 := Option.some.inj hlost
  have htwo := hsum .toolCalls
  rw [hone] at htwo
  exact absurd htwo (by decide)

end BudgetService

end AvoCorrelate
