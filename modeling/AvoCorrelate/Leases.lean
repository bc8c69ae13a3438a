import AvoCorrelate.Activities
import AvoCorrelate.Lib.Histories
/-!
# Renewing a lease

`heartbeat` compares the stored expiry with its own clock in Python. The stored one has
no timezone and the clock has, so the comparison raises, in each of the scheduler's
heartbeats.
-/
open AvoLib

namespace AvoCorrelate

open ActivityService

section Leases
variable {E : Env} {db : Db} {activityId workerId : String} {e : Nat} {b : ActivityRow} {x t : Instant} {leaseSeconds : Int}

structure HoldsLease (db : Db) (activityId workerId : String) (e : Nat) (x : Instant) (b : ActivityRow) : Prop where
  found : db.activities.get? activityId = some b
  running : b.state = .running
  owner : b.leaseOwner = some workerId
  epoch : b.leaseEpoch = e
  expiry : b.leaseExpiresAt = some x

/-- A heartbeat at an aware time succeeds, and the activity is not claimed by anyone up to
the new expiry. -/
def Renews (db : Db) (activityId workerId : String) (e : Nat) (leaseSeconds : Int) (t : Instant) : Prop :=
  ∃ db', heartbeat db activityId workerId e leaseSeconds ⟨t, true⟩ = .ok (db', t + leaseSeconds) ∧
    (db'.activities.get? activityId).map (·.leaseExpiresAt) = some (some (t + leaseSeconds)) ∧
    ∀ worker seconds claimedAt ids db'' found, claimedAt ≤ t + leaseSeconds →
      claimNext db' worker seconds claimedAt ids = .ok (db'', some found) → found.activityId ≠ activityId

theorem aware_heartbeat (h : HoldsLease db activityId workerId e x b) (hseconds : 0 < leaseSeconds) :
    heartbeat db activityId workerId e leaseSeconds ⟨t, true⟩ =
      .error ⟨.type, "can't compare offset-naive and offset-aware datetimes"⟩ := by
  simp only [heartbeat, require, hseconds, if_true, h.found, orRaise, bind, Except.bind, h.running, h.owner, h.epoch, and_self,
    leaseExpired, h.expiry, storedBefore]
  rfl

/-- The heartbeats of a scheduler, whose clock is aware. -/
def heartbeats (activityId workerId : String) (e : Nat) (leaseSeconds : Int) (times : List Instant) : List Op :=
  times.map fun t => .heartbeat activityId workerId e leaseSeconds ⟨t, true⟩

theorem heartbeats_keep (h : HoldsLease db activityId workerId e x b) (hseconds : 0 < leaseSeconds) (times : List Instant) :
    ∀ db' ∈ history (exec E) db (heartbeats activityId workerId e leaseSeconds times), db' = db := by
  induction times with
  | nil => exact fun db' hdb' => List.mem_singleton.mp hdb'
  | cons t times ih =>
    have hraise : exec E db (.heartbeat activityId workerId e leaseSeconds ⟨t, true⟩) =
        .error ⟨.type, "can't compare offset-naive and offset-aware datetimes"⟩ :=
      congrArg (Except.map Prod.fst) (aware_heartbeat h hseconds)
    intro db' hdb'
    obtain rfl | hdb' := List.mem_cons.mp hdb'
    · rfl
    · rw [attempt_error hraise] at hdb'
      exact ih db' hdb'

/-- No lease is renewed: a heartbeat raises at any aware time, and any number of them leaves
the stored expiry where it was. -/
theorem lease_never_renewed (h : HoldsLease db activityId workerId e x b) (hseconds : 0 < leaseSeconds) :
    ¬ Renews db activityId workerId e leaseSeconds t ∧
      ∀ times, ∀ db' ∈ history (exec E) db (heartbeats activityId workerId e leaseSeconds (t :: times)),
        HoldsLease db' activityId workerId e x b := by
  refine ⟨fun hrenews => ?_, fun times db' hdb' => ?_⟩
  · obtain ⟨db', hok, -⟩ := hrenews
    cases (aware_heartbeat h hseconds).symm.trans hok
  · cases heartbeats_keep h hseconds (t :: times) db' hdb'
    exact h

end Leases

theorem Sample.holds : ∃ b, HoldsLease (after Sample.env Sample.overdue) "a" "worker" 1 61 b := by
  have hrow : ((after Sample.env Sample.overdue).activities.get? "a").map (fun b =>
      (b.state, b.leaseOwner, b.leaseEpoch, b.leaseExpiresAt)) = some (.running, some "worker", 1, some 61) := by decide
  obtain ⟨b, hb, hfields⟩ := Option.map_eq_some_iff.mp hrow
  simp only [Prod.mk.injEq] at hfields
  obtain ⟨hstate, howner, hepoch, hexpiry⟩ := hfields
  exact ⟨b, hb, hstate, howner, hepoch, hexpiry⟩

theorem lease_never_renewed_overdue : ¬ Renews (after Sample.env Sample.overdue) "a" "worker" 1 60 30 := by
  obtain ⟨b, hb⟩ := Sample.holds
  exact (lease_never_renewed (E := Sample.env) hb (by decide)).1

/-- A heartbeat in time on a lease of a reachable database raises. -/
theorem heartbeat_in_time_raises : Reachable Sample.env (after Sample.env Sample.overdue) ∧
    ¬ ∀ E db activityId workerId e x b leaseSeconds t, Reachable E db → HoldsLease db activityId workerId e x b → 0 < leaseSeconds →
      t ≤ x → Renews db activityId workerId e leaseSeconds t := by
  have hreach : Reachable Sample.env (after Sample.env Sample.overdue) := reachable_after (by decide)
  refine ⟨hreach, fun h => ?_⟩
  obtain ⟨b, hb⟩ := Sample.holds
  obtain ⟨db', hok, -⟩ := h Sample.env _ "a" "worker" 1 61 b 60 30 hreach hb (by decide) (by decide)
  cases (aware_heartbeat hb (by decide)).symm.trans hok

end AvoCorrelate
