import AvoCorrelate.Promotion.RollbackRecovery
/-!
# Replaying a rollback

Any number of `run` calls with the same arguments over one journal. The records of
the drill are made one from the other, so a recorded case is always replayed with
the records it was made of. What the replay reports is not among them: it says
`already_applied` of every case. A receipt without its case is made again from the
next report of the promotion, and the two have to be the same.
-/
open AvoLib

namespace AvoCorrelate.Promotion

open ExactCas (Sha256Digest GitObject)
open Service

variable {C : Canon} {O : Oracle (board (C := C))} {files files' : Files (Rec C)} {b b' : Board}

/-! ## What a promotion publishes -/

/-- An action that publishes no record of the drill. -/
def Promoting : Action (Rec C) (Port C) → Prop
  | .publish k _ => k.ofPromotion = true
  | _ => True

theorem promoting_of_still {a : Action (Rec C) (Port C)} (h : Still a) : Promoting a := by
  cases a with
  | read k => trivial
  | publish k v => exact h.elim
  | port p => trivial

section Promoting
variable {α : Type} {p : Code C α} {call : PromoteCall} {l : Lease} {i : Intent C}

theorem Does.promoting (hd : p.Does Still) : p.Does Promoting := hd.mono fun _ => promoting_of_still

theorem record_promoting {t : Journal.Texts} {k : Key} {v : Rec C k} (hk : k.ofPromotion = true) :
    (Journal.record t k v).Does Promoting := by
  refine (Journal.record_does t k v).mono fun a ha => ?_
  rcases ha with ha | rfl
  · exact promoting_of_still ha
  · exact hk

theorem releaseLease_promoting : (Journal.releaseLease l : Code C Unit).Does Promoting := by
  refine ⟨trivial, fun r => ?_⟩
  cases r with
  | missing | malformed => trivial
  | found current =>
    dsimp only
    split
    · exact ⟨trivial, fun r => by cases r <;> trivial⟩
    · trivial

variable {d op : Sha256Digest} {ref : String} {checks : List String}

theorem releaseMatchingLease_promoting {id : String} {e : Sha256Digest} :
    (Journal.releaseMatchingLease d ref op id e : Code C Bool).Does Promoting := by
  refine (Does.promoting (Journal.readLease_does d ref)).bind fun o => ?_
  cases o with
  | none => trivial
  | some l => exact Prog.Does.require.bind fun _ => releaseLease_promoting.bind fun _ => trivial

theorem acquireLease_promoting {seconds : Int} :
    (Journal.acquireLease d ref op seconds : Code C Lease).Does Promoting := by
  refine Prog.Does.require.bind fun _ => Prog.Does.require.bind fun _ => ?_
  refine (Does.promoting readClock_does).bind fun acquired => ?_
  refine Prog.Does.bind ⟨trivial, fun _ => trivial⟩ fun identity => ?_
  refine (Does.promoting (Journal.read_does _ _)).bind fun existing => Prog.Does.require.bind fun _ => ?_
  refine Prog.Does.bind ⟨trivial, fun r => ?_⟩ fun _ => Prog.Does.ofOption.bind fun evidence => ?_
  · cases r with
    | created => exact ⟨trivial, fun r => by cases r <;> trivial⟩
    | «exists» | failed => trivial
  · refine Prog.Does.bind ?_ fun _ => trivial
    refine (record_promoting rfl).attempt.bind fun recorded => ?_
    cases recorded with
    | ok _ => trivial
    | error _ =>
      refine releaseLease_promoting.attempt.bind fun released => ?_
      cases released <;> trivial

theorem noting_promoting {safeRelease : Bool} (hd : p.Does Promoting) :
    (noting checks safeRelease p).Does Promoting := by
  refine hd.attempt.bind fun x => ?_
  cases x <;> trivial

theorem report_promoting {outcome : Outcome} {errors : List String} {r : Option (Receipt C)} :
    (report op outcome checks errors r : Code C Report).Does Promoting :=
  Prog.Does.require.bind fun _ => trivial

theorem replayReceipt_promoting {r : Receipt C} : (replayReceipt call r).Does Promoting := by
  unfold replayReceipt
  split
  · exact report_promoting
  · refine (Does.promoting (Journal.read_does _ _)).bind fun durable => ?_
    cases durable with
    | none => exact report_promoting
    | some i =>
      refine (Does.promoting assertDurableLeaseEvidence_does).bind fun _ => ?_
      refine (Does.promoting assertIntentBindingWithoutLease_does).bind fun _ => ?_
      refine (Does.promoting assertPublicationIntentBinding_does).bind fun _ => ?_
      refine (Does.promoting assertReceiptBinding_does).bind fun _ => ?_
      exact releaseMatchingLease_promoting.bind fun _ => report_promoting

theorem closeIntent_promoting {rec : Reconciliation C} : (closeIntent call checks i rec).Does Promoting := by
  refine Prog.Does.ofOption.bind fun r => (record_promoting rfl).bind fun _ => ?_
  exact releaseMatchingLease_promoting.bind fun _ => report_promoting

theorem recoverIntent_promoting : (recoverIntent call checks i).Does Promoting := by
  refine (noting_promoting (Does.promoting recoverable_does)).bind fun authorization => ?_
  cases authorization with
  | none => exact noting_promoting report_promoting
  | some a =>
    refine (noting_promoting Prog.Does.require).bind fun _ => ?_
    refine (noting_promoting (Does.promoting reconcile_does)).bind fun rec => ?_
    refine noting_promoting ((Does.promoting assertFields_does).bind fun _ => ?_)
    split
    · exact closeIntent_promoting
    · exact report_promoting

theorem beforeLease_promoting : (beforeLease call : Body C (Option Report)).Does Promoting := by
  refine Prog.Does.bind (noting_promoting ?_) fun _ => ?_
  · refine Prog.Does.require.bind fun _ => Prog.Does.bind ⟨trivial, fun r => orRaise_does r⟩ fun _ => Prog.Does.require
  refine (noting_promoting (Does.promoting (Journal.read_does _ _))).bind fun existing => ?_
  cases existing with
  | some r => exact (noting_promoting replayReceipt_promoting).bind fun _ => trivial
  | none =>
    refine (noting_promoting (Does.promoting (Journal.read_does _ _))).bind fun durable => ?_
    cases durable with
    | some i => exact recoverIntent_promoting.bind fun _ => trivial
    | none => trivial

theorem merge_promoting {leaseGuard authorize : Code C Unit} (hg : leaseGuard.Does Promoting)
    (ha : authorize.Does Promoting) : (Provider.merge i leaseGuard authorize).Does Promoting := by
  have hresult : ∀ m, (Provider.mergeResult m : Code C MergeResult).Does Promoting :=
    fun m => Prog.Does.require.bind fun _ => trivial
  refine Prog.Does.bind (Prog.Does.attempt ?_) fun observed => ?_
  · refine Prog.Does.bind ⟨trivial, fun r => orRaise_does r⟩ fun _ => ?_
    refine Prog.Does.bind ⟨trivial, fun r => orRaise_does r⟩ fun _ => ?_
    refine Prog.Does.bind ⟨trivial, fun r => orRaise_does r⟩ fun _ => ?_
    refine Prog.Does.require.bind fun _ => Prog.Does.bind ⟨trivial, fun r => orRaise_does r⟩ fun _ => ?_
    split
    · trivial
    · exact Prog.Does.bind ⟨trivial, fun r => orRaise_does r⟩ fun _ => Prog.Does.require.bind fun _ => trivial
  · cases observed with
    | error e => trivial
    | ok mainProtection =>
      refine (hg.bind fun _ => ha).attempt.bind fun fenced => ?_
      cases fenced with
      | error e => trivial
      | ok _ =>
        refine ⟨trivial, fun r => ?_⟩
        cases r with
        | rejected m | transportError m => exact hresult _
        | malformed => trivial
        | response response =>
          refine Prog.Does.ofOption.bind fun merged => ?_
          split
          · refine Prog.Does.ofOption.bind fun sha => ?_
            exact Prog.Does.bind ⟨trivial, fun r => orRaise_does r⟩ fun _ => Prog.Does.require.bind fun _ => hresult _
          · exact hresult _

theorem closeMerge_promoting {m : MergeResult} : (closeMerge call l checks i m).Does Promoting := by
  refine (noting_promoting (Does.promoting reconcile_does)).bind fun rec => ?_
  refine Prog.Does.bind (noting_promoting ?_) fun r => (noting_promoting report_promoting).bind fun _ => trivial
  refine (Does.promoting assertFields_does).bind fun _ => Prog.Does.ofOption.bind fun r => ?_
  refine (Does.promoting (Journal.assertCurrent_does l)).bind fun _ => ?_
  exact (record_promoting rfl).bind fun _ => trivial

theorem submit_promoting : (submit call l checks i).Does Promoting := by
  have hguard := Does.promoting (C := C) (Journal.assertCurrent_does l)
  refine (noting_promoting hguard).bind fun _ => ?_
  refine Prog.Does.bind (Prog.Does.attempt (merge_promoting hguard ?_)) fun merged => ?_
  · exact (Does.promoting readClock_does).bind fun _ => record_promoting rfl
  · match merged with
    | .error (.precondition m) =>
      refine Prog.Does.bind (noting_promoting ?_) fun _ => trivial
      exact Prog.Does.ofOption.bind fun r => (record_promoting rfl).bind fun _ => report_promoting
    | .error (.error m) =>
      refine Prog.Does.bind (noting_promoting ?_) fun _ => closeMerge_promoting
      exact Prog.Does.require.bind fun _ => trivial
    | .ok m => exact closeMerge_promoting

theorem runLeased_promoting : (runLeased call l : Code C Report).Does Promoting := by
  have hrelease : (release l : Code C Unit).Does Promoting := releaseLease_promoting.attempt.bind fun _ => trivial
  refine Prog.Does.bind (Prog.Does.attempt ?_) fun prepared => ?_
  · refine (noting_promoting (Does.promoting bindIntent_does)).bind fun x => ?_
    dsimp only
    split
    · refine (noting_promoting (Does.promoting observePrecondition_does)).bind fun _ => ?_
      refine (noting_promoting ?_).bind fun _ => trivial
      exact (Does.promoting (Journal.assertCurrent_does l)).bind fun _ => record_promoting rfl
    · exact (noting_promoting report_promoting).bind fun _ => trivial
  · match prepared with
    | .error f => exact hrelease.bind fun _ => report_promoting
    | .ok (.inl result) => exact hrelease.bind fun _ => trivial
    | .ok (.inr (i, checks)) =>
      refine submit_promoting.attempt.bind fun submitted => ?_
      match submitted with
      | .error f =>
        dsimp only
        split
        · exact hrelease.bind fun _ => report_promoting
        · exact report_promoting
      | .ok (result, safeRelease) =>
        dsimp only
        split
        · exact hrelease.bind fun _ => trivial
        · trivial

theorem promote_promoting : (promote call : Code C Report).Does Promoting := by
  refine Prog.Does.require.bind fun _ => beforeLease_promoting.attempt.bind fun before => ?_
  match before with
  | .error f => exact report_promoting
  | .ok (some result) => trivial
  | .ok none =>
    refine acquireLease_promoting.attempt.bind fun acquired => ?_
    cases acquired with
    | error e => exact report_promoting
    | ok l => exact runLeased_promoting

end Promoting

namespace Rollback

variable {S : Settings} {promotion : PromoteCall → Code C Report} {c : RunCall C}

/-! ## Histories -/

abbrev Drill (C : Canon) := Served Unit (Rec C) (Port.Answer (C := C)) Exc (Execution C) Board

def Drill.fresh : Drill C := Served.idle (fun _ => .absent) Board.empty

/-- Drills that `run` calls with these arguments reach, made and crashed in any
order. -/
def Histories (S : Settings) (promotion : PromoteCall → Code C Report) (c : RunCall C) (w : Drill C) : Prop :=
  Reaches (serve board fun _ => run S promotion c) (fun _ _ => True) Drill.fresh w

/-- How each record of the drill is made of the ones before it. -/
def Supported (S : Settings) (c : RunCall C) (F : Files (Rec C)) : (k : Key) → Rec C k → Prop
  | .soak op, s => op = c.request.operationId ∧ FailedSoak c.request s
  | .rollbackAuthorization op, a => op = c.request.operationId ∧ a = c.authorization
  | .rollbackIntent op, i => op = c.request.operationId ∧
    i.toRollbackIntentBody = makeIntent S c.request c.authorization ∧
    (∃ s, F (.soak c.request.operationId) = .bound s) ∧
    F (.rollbackAuthorization c.request.operationId) = .bound c.authorization
  | .rollbackReceipt op, r => op = c.request.operationId ∧ r.outcome ≠ .reconciliationRequired ∧
    ∃ i report loaded, F (.rollbackIntent c.request.operationId) = .bound i ∧
      r.toRollbackReceiptBody = makeReceipt S c.request i report loaded
  | .caseResult op id, k => (op = c.request.operationId ∧ id = caseId) ∧
    ∃ s i r, F (.soak c.request.operationId) = .bound s ∧ F (.rollbackIntent c.request.operationId) = .bound i ∧
      F (.rollbackReceipt c.request.operationId) = .bound r ∧
      k.toCaseBody = makeCase S c.request c.request.mainBeforeCommit s c.authorization i r
  | _, _ => True

variable {k : Key} {v : Rec C k} {s : Soak C} {i : RollbackIntent C} {r recorded : RollbackReceipt C}
  {report : Report} {loaded loaded' : Option (Receipt C)} {op : Sha256Digest}

theorem Supported.grows {F F' : Files (Rec C)} (hF : Grows F F') (hv : Supported S c F k v) : Supported S c F' k v := by
  cases k with
  | soak | rollbackAuthorization => exact hv
  | rollbackIntent op =>
    obtain ⟨hop, hi, ⟨s, hs⟩, ha⟩ := hv
    exact ⟨hop, hi, ⟨s, hF _ _ hs⟩, hF _ _ ha⟩
  | rollbackReceipt op =>
    obtain ⟨hop, hout, i, report, loaded, hi, hr⟩ := hv
    exact ⟨hop, hout, i, report, loaded, hF _ _ hi, hr⟩
  | caseResult op id =>
    obtain ⟨hop, s, i, r, hs, hi, hr, hk⟩ := hv
    exact ⟨hop, s, i, r, hF _ _ hs, hF _ _ hi, hF _ _ hr, hk⟩
  | _ => trivial

/-- A run publishes records that are supported. -/
def runRules (S : Settings) (c : RunCall C) (F : Files (Rec C)) : Rules (Rec C) (Port.Answer (C := C)) := fun _ act =>
  match act with
  | .publish k v => Supported S c F k v
  | _ => True

section Safe
variable {α : Type} {p : Code C α} {F : Files (Rec C)} {h : Log C}

theorem Does.run_safe (hd : p.Does Promoting) :
    p.Safe F (runRules S c F) (Prog.Returning fun _ _ => True) h := by
  refine (hd.safe (G := runRules S c F) fun h' _ a ha => ?_).mono fun _ x _ => by cases x <;> trivial
  cases a with
  | read | port => trivial
  | publish k v => cases k <;> trivial

theorem readRecord_safe (k : Key) :
    (readRecord k : Code C (Option (Rec C k))).Safe F (runRules S c F)
      (Prog.Returning fun _ o => ∀ v, o = some v → F k = .bound v) h := by
  refine ⟨trivial, fun r hr => ?_⟩
  cases r with
  | missing => exact fun v hv => (nomatch hv)
  | malformed => trivial
  | found v =>
    dsimp only
    split
    · intro v' hv'
      cases hv'
      exact hr
    · trivial

theorem recordDrill_safe {k : Key} {v : Rec C k} (hv : Supported S c F k v) :
    (recordDrill k v).Safe F (runRules S c F) (Prog.Returning fun _ _ => F k = .bound v) h := by
  refine ⟨trivial, fun r => ?_⟩
  cases r with
  | raised m => trivial
  | returned u =>
    refine ⟨hv, fun r hr => ?_⟩
    cases r with
    | created => exact hr
    | failed | lost => trivial
    | taken =>
      refine ⟨trivial, fun r hold => ?_⟩
      cases r with
      | missing | malformed => trivial
      | found old =>
        dsimp only
        split
        · next he => subst he; exact hold
        · trivial

theorem soakOf_safe : (soakOf c.request : Code C (Soak C)).Safe F (runRules S c F)
    (Prog.Returning fun _ s => F (.soak c.request.operationId) = .bound s) h := by
  refine (readRecord_safe _).seq fun h₁ o _ ho => ?_
  cases o with
  | some s =>
    exact Prog.Safe.require_bind (fun _ => ho s rfl) trivial
  | none =>
    have hport : (.port (.soak c.request) Answer.orRaise : Code C (Soak C)).Safe F (runRules S c F)
        (Prog.Returning fun _ _ => True) h₁ := Does.run_safe ⟨trivial, fun r => orRaise_does r⟩
    refine hport.seq fun h₂ s _ _ => Prog.Safe.require_bind (fun hf => ?_) trivial
    have hsupported : Supported S c F (.soak c.request.operationId) s := ⟨rfl, hf⟩
    exact (recordDrill_safe hsupported).seq fun _ _ _ hs => hs

theorem prepare_safe : (prepare S c).Safe F (runRules S c F)
    (Prog.Returning fun _ x => F (.soak c.request.operationId) = .bound x.1 ∧
      F (.rollbackIntent c.request.operationId) = .bound x.2) h := by
  refine soakOf_safe.seq fun h₁ s _ hs => ?_
  have hauth : Supported S c F (.rollbackAuthorization c.request.operationId) c.authorization := ⟨rfl, rfl⟩
  refine (recordDrill_safe hauth).seq fun h₂ _ _ ha => ?_
  refine Prog.Safe.ofOption_bind (fun i hi => ?_) trivial
  have hbody : i.toRollbackIntentBody = makeIntent S c.request c.authorization := by
    unfold RollbackIntent.build at hi
    split at hi
    · cases hi; rfl
    · cases hi
  have hintent : Supported S c F (.rollbackIntent c.request.operationId) i := ⟨rfl, hbody, ⟨s, hs⟩, ha⟩
  exact (recordDrill_safe hintent).seq fun _ _ _ hi => ⟨hs, hi⟩

theorem assertMain_safe {expected : GitObject} : (assertMain expected : Code C GitObject).Safe F (runRules S c F)
    (Prog.Returning fun _ main => main = expected) h := by
  have hport : (.port .mainHead Answer.orRaise : Code C GitObject).Safe F (runRules S c F)
      (Prog.Returning fun _ _ => True) h := Does.run_safe ⟨trivial, fun r => orRaise_does r⟩
  exact hport.seq fun _ main _ _ => Prog.Safe.require_bind (fun hm => hm.1) trivial

theorem receiptOf_safe {i : RollbackIntent C} {report : Report} : (receiptOf S c i report).Safe F (runRules S c F)
    (Prog.Returning fun _ r => ∃ loaded, r.toRollbackReceiptBody = makeReceipt S c.request i report loaded) h := by
  refine (Does.run_safe (Does.promoting (Journal.read_does _ _))).seq fun h₁ loaded _ _ => ?_
  refine (Does.run_safe (Does.promoting (Journal.read_does _ _))).seq fun h₂ durable _ _ => ?_
  have hbuild : ∀ h', (Prog.ofOption (RollbackReceipt.build (makeReceipt S c.request i report loaded))
      (.error "invalid rollback receipt") : Code C (RollbackReceipt C)).Safe F (runRules S c F)
      (Prog.Returning fun _ r => ∃ loaded, r.toRollbackReceiptBody = makeReceipt S c.request i report loaded) h' := by
    intro h'
    unfold RollbackReceipt.build
    split
    · exact ⟨loaded, rfl⟩
    · trivial
  split
  · refine (Does.run_safe ?_).seq fun h₃ _ _ _ => hbuild h₃
    exact Prog.Does.ofOption.bind fun _ => Prog.Does.require
  · exact hbuild h₂

theorem close_safe {s : Soak C} {i : RollbackIntent C} {report : Report} {loaded : Option (Receipt C)} {r : RollbackReceipt C}
    (hs : F (.soak c.request.operationId) = .bound s) (hi : F (.rollbackIntent c.request.operationId) = .bound i)
    (hr : r.toRollbackReceiptBody = makeReceipt S c.request i report loaded) :
    (close S c s i c.request.mainBeforeCommit report r).Safe F (runRules S c F) (Prog.Returning fun _ _ => True) h := by
  unfold close
  by_cases hout : r.outcome = .reconciliationRequired
  · have hsettled : decide (r.outcome ≠ .reconciliationRequired) = false := by rw [hout]; rfl
    simp only [hsettled, Bool.false_eq_true, if_false]
    exact Prog.Safe.ofOption_bind (fun _ _ => trivial) trivial
  · have hsettled : decide (r.outcome ≠ .reconciliationRequired) = true := decide_eq_true hout
    simp only [hsettled, if_true]
    have hreceipt : Supported S c F (.rollbackReceipt c.request.operationId) r := ⟨rfl, hout, i, report, loaded, hi, hr⟩
    refine (recordDrill_safe hreceipt).seq fun h₁ _ _ hb => Prog.Safe.ofOption_bind (fun k hk => ?_) trivial
    have hcase : Supported S c F (.caseResult c.request.operationId caseId) k := by
      refine ⟨⟨rfl, rfl⟩, s, i, r, hs, hi, hb, ?_⟩
      unfold CaseResult.build at hk
      split at hk
      · cases hk; rfl
      · cases hk
    exact (recordDrill_safe hcase).seq fun _ _ _ _ => trivial

theorem fences_does : (fences S c).Does Promoting := by
  refine Prog.Does.bind ?_ fun _ => ?_
  · exact Prog.Does.require.bind fun _ => Prog.Does.require.bind fun _ => Prog.Does.require.bind fun _ => Prog.Does.require
  refine Prog.Does.bind ⟨trivial, fun r => orRaise_does r⟩ fun _ => Prog.Does.bind ?_ fun _ => ?_
  · exact Prog.Does.bind ⟨trivial, fun r => orRaise_does r⟩ fun _ => Prog.Does.require.bind fun _ => trivial
  · exact Prog.Does.bind (Prog.Does.require.bind fun _ => Prog.Does.require) fun _ => Prog.Does.require

theorem replay_does {k : CaseResult C} {a : RollbackAuthorization C} : (replay S c.request k a).Does Promoting := by
  refine Prog.Does.require.bind fun _ => Prog.Does.require.bind fun _ => ?_
  refine (Does.promoting (Journal.read_does _ _)).bind fun _ => (Does.promoting (Journal.read_does _ _)).bind fun _ => ?_
  refine (Does.promoting (Journal.read_does _ _)).bind fun _ => (Does.promoting (Journal.read_does _ _)).bind fun _ => ?_
  refine Prog.Does.ofOption.bind fun _ => Prog.Does.ofOption.bind fun _ => Prog.Does.ofOption.bind fun _ =>
    Prog.Does.ofOption.bind fun _ => Prog.Does.bind ?_ fun _ => Prog.Does.bind ?_ fun _ => Prog.Does.require.bind fun _ =>
    Prog.Does.bind ?_ fun _ => Prog.Does.require.bind fun _ => Prog.Does.require.bind fun _ =>
    Prog.Does.require.bind fun _ => Prog.Does.require.bind fun _ => trivial
  · exact Prog.Does.require.bind fun _ => Prog.Does.require.bind fun _ => Prog.Does.require.bind fun _ => Prog.Does.require
  · exact Prog.Does.require.bind fun _ => Prog.Does.require
  · exact Prog.Does.require.bind fun _ => Prog.Does.require

theorem run_safe (hd : ∀ call, (promotion call).Does Promoting) :
    (run S promotion c).Safe F (runRules S c F) (Prog.Returning fun _ _ => True) h := by
  refine (Does.run_safe fences_does).seq fun h₁ _ _ _ => ?_
  refine (readRecord_safe _).seq fun h₂ existing _ _ => ?_
  cases existing with
  | some k => exact Does.run_safe replay_does
  | none =>
    refine prepare_safe.seq fun h₃ x _ hx => ?_
    refine (Does.run_safe (hd _)).seq fun h₄ report _ _ => Prog.Safe.require_bind (fun _ => ?_) trivial
    refine assertMain_safe.seq fun h₅ main _ hmain => receiptOf_safe.seq fun h₆ r _ hr => ?_
    obtain ⟨loaded, hr⟩ := hr
    subst hmain
    exact close_safe hx.1 hx.2 hr

end Safe

theorem Histories.linked {w : Drill C} (hd : ∀ call, (promotion call).Does Promoting) (hw : Histories S promotion c w) :
    Linked (Supported S c) w.config.files := by
  have hall : w.config.Sound (fun _ => .absent) ∧ Linked (Supported S c) w.config.files ∧
      w.config.Obeys (fun _ => .absent) (Supported S c) (fun _ => runRules S c) fun _ _ =>
        Prog.Returning fun _ _ => True :=
    sound_obeys Supported.grows (fun _ _ _ _ _ h => h) (by intro k v h; cases h) (fun _ F _ _ => run_safe hd) hw.config
  exact hall.2.1

/-! ## Replaying a recorded case -/

/-- The run gets past its fences. -/
def Passes (O : Oracle (board (C := C))) (S : Settings) (c : RunCall C) (files : Files (Rec C)) (b : Board) : Prop :=
  (fences S c).play O files b = ⟨.ok (), files, b⟩

theorem Passes.fenced (h : Passes O S c files b) : Fenced S c := by
  obtain ⟨_, files₁, b₁, hrequest, h⟩ := Prog.play_bind_inv h
  obtain ⟨_, files₂, b₂, _, h⟩ := Prog.play_bind_inv h
  obtain ⟨_, files₃, b₃, _, h⟩ := Prog.play_bind_inv h
  obtain ⟨_, files₄, b₄, hauth, hpublication⟩ := Prog.play_bind_inv h
  obtain ⟨_, _, _, htarget, hrequest⟩ := Prog.play_bind_inv hrequest
  obtain ⟨_, _, _, hobjects, hrequest⟩ := Prog.play_bind_inv hrequest
  obtain ⟨_, _, _, hparent, hcandidate⟩ := Prog.play_bind_inv hrequest
  obtain ⟨_, _, _, hauthorizes, hdigest⟩ := Prog.play_bind_inv hauth
  exact ⟨(Prog.play_require_inv htarget).1, (Prog.play_require_inv hobjects).1, (Prog.play_require_inv hparent).1,
    (Prog.play_require_inv hcandidate).1, (Prog.play_require_inv hauthorizes).1, (Prog.play_require_inv hdigest).1,
    (Prog.play_require_inv hpublication).1⟩

structure Recorded (S : Settings) (c : RunCall C) (files : Files (Rec C)) (k : CaseResult C) (s : Soak C)
    (i : RollbackIntent C) (r : RollbackReceipt C) : Prop where
  soak : files (.soak c.request.operationId) = .bound s
  authorization : files (.rollbackAuthorization c.request.operationId) = .bound c.authorization
  intent : files (.rollbackIntent c.request.operationId) = .bound i
  receipt : files (.rollbackReceipt c.request.operationId) = .bound r
  failed : FailedSoak c.request s
  intentBody : i.toRollbackIntentBody = makeIntent S c.request c.authorization
  receiptBody : ∃ report loaded, r.toRollbackReceiptBody = makeReceipt S c.request i report loaded
  settled : r.outcome ≠ .reconciliationRequired
  caseBody : k.toCaseBody = makeCase S c.request c.request.mainBeforeCommit s c.authorization i r

theorem recorded_of_linked (hl : Linked (Supported S c) files) {k : CaseResult C}
    (hk : files (.caseResult c.request.operationId caseId) = .bound k) : ∃ s i r, Recorded S c files k s i r := by
  obtain ⟨_, s, i, r, hs, hi, hr, hbody⟩ := hl _ _ hk
  obtain ⟨_, hib, _, ha⟩ := hl _ _ hi
  obtain ⟨_, hout, i', report, loaded, hi', hrb⟩ := hl _ _ hr
  cases hi.symm.trans hi'
  exact ⟨s, i, r, hs, ha, hi, hr, (hl _ _ hs).2, hib, ⟨report, loaded, hrb⟩, hout, hbody⟩

theorem play_replay {k : CaseResult C} (hf : Fenced S c) (hk : Recorded S c files k s i r) :
    (replay S c.request k c.authorization).play O files b =
      ⟨.ok ⟨c.request, s, c.authorization, i, r, k, replayReport c.request,
        [s.observationId, rollbackAuthorizationDigest C c.authorization.toRollbackAuthorizationBody, i.intentDigest,
          r.receiptDigest], true⟩, files, b⟩ := by
  obtain ⟨report, loaded, hrb⟩ := hk.receiptBody
  have hkbody := hk.caseBody
  have hibody := hk.intentBody
  have hskey : Rec.key (C := C) (.soak c.request.operationId) s = .soak c.request.operationId :=
    congrArg Key.soak hk.failed.1
  have hakey : Rec.key (C := C) (.rollbackAuthorization c.request.operationId) c.authorization =
      .rollbackAuthorization c.request.operationId := congrArg Key.rollbackAuthorization hf.authorization.1
  have hikey : Rec.key (C := C) (.rollbackIntent c.request.operationId) i = .rollbackIntent c.request.operationId :=
    congrArg Key.rollbackIntent (by rw [hibody]; rfl)
  have hrkey : Rec.key (C := C) (.rollbackReceipt c.request.operationId) r = .rollbackReceipt c.request.operationId :=
    congrArg Key.rollbackReceipt (by rw [hrb]; rfl)
  have hauth : (validateAuthorization S c.request c.authorization).play O files b = ⟨.ok (), files, b⟩ :=
    (Prog.play_bind_ok (Prog.play_require hf.authorization)).trans (Prog.play_require hf.digest)
  have hibinds : bindsRequest c.request i.operationId i.promotionOperationId i.toDrillBinding i.toRollbackTopology := by
    rw [hibody]
    exact ⟨rfl, rfl, rfl, rfl, rfl, rfl, rfl⟩
  have hrbinds : bindsRequest c.request r.operationId r.promotionOperationId r.toDrillBinding r.toRollbackTopology := by
    rw [hrb]
    exact ⟨rfl, rfl, rfl, rfl, rfl, rfl, rfl⟩
  have hauthId : i.authorizationId = c.authorization.authorizationId := by rw [hibody]; rfl
  have hrdigest : r.intentDigest = i.intentDigest := by rw [hrb]; rfl
  have hiattester : i.attesterIdentity = S.attesterIdentity := by rw [hibody]; rfl
  have hrattester : r.attesterIdentity = S.attesterIdentity := by rw [hrb]; rfl
  have hkattester : k.attesterIdentity = S.attesterIdentity := by rw [hkbody]; rfl
  refine (Prog.play_bind_ok (Prog.play_require (by rw [hkbody]; exact ⟨rfl, rfl⟩))).trans ?_
  refine (Prog.play_bind_ok (Prog.play_require (by rw [hkbody]; exact ⟨rfl, rfl⟩))).trans ?_
  refine (Prog.play_bind_ok (Journal.play_read_bound hk.soak hskey)).trans ?_
  refine (Prog.play_bind_ok (Journal.play_read_bound hk.authorization hakey)).trans ?_
  refine (Prog.play_bind_ok (Journal.play_read_bound hk.intent hikey)).trans ?_
  refine (Prog.play_bind_ok (Journal.play_read_bound hk.receipt hrkey)).trans ?_
  refine (Prog.play_bind_ok rfl).trans ((Prog.play_bind_ok rfl).trans ?_)
  refine (Prog.play_bind_ok rfl).trans ((Prog.play_bind_ok rfl).trans ?_)
  refine (Prog.play_bind_ok (play_validateRequest hf)).trans ?_
  refine (Prog.play_bind_ok hauth).trans ?_
  refine (Prog.play_bind_ok (Prog.play_require rfl)).trans ?_
  refine (Prog.play_bind_ok hauth).trans ?_
  refine (Prog.play_bind_ok (Prog.play_require hk.failed)).trans ?_
  refine (Prog.play_bind_ok (Prog.play_require (by rw [hkbody]; exact ⟨rfl, rfl⟩))).trans ?_
  refine (Prog.play_bind_ok (Prog.play_require ⟨hibinds, hrbinds, hauthId, hrdigest⟩)).trans ?_
  exact Prog.play_bind_ok (Prog.play_require ⟨hiattester, hrattester, hkattester⟩)

/-! ## Making a receipt again -/

theorem verdict_success {r : RollbackRequest} (h : (verdict r report loaded).1.success = true) :
    ∃ p, loaded = some p ∧ exactReceipt r p := by
  unfold verdict at h
  split at h
  · split at h
    · next hexact =>
      obtain ⟨p, hp, hx⟩ := (Option.any_eq_true _ _).mp hexact
      exact ⟨p, hp, of_decide_eq_true hx⟩
    · cases h
  · split at h
    · cases h
    · split at h <;> cases h

theorem makeReceipt_eq_iff {report' : Report} :
    makeReceipt S c.request i report loaded = makeReceipt S c.request i report' loaded' ↔
      verdict c.request report loaded = verdict c.request report' loaded' ∧
      ((verdict c.request report loaded).1.success = true →
        loaded.bind (·.appliedResultCommit) = loaded'.bind (·.appliedResultCommit)) := by
  constructor
  · intro h
    have hv : verdict c.request report loaded = verdict c.request report' loaded' :=
      Prod.ext (congrArg RollbackReceiptBody.outcome h) (congrArg RollbackReceiptBody.error h)
    refine ⟨hv, fun hs => ?_⟩
    have hcommit := congrArg RollbackReceiptBody.resultCommit h
    simpa only [makeReceipt, hs, ← hv, if_true] using hcommit
  · rintro ⟨hv, hcommit⟩
    unfold makeReceipt
    rw [← hv]
    by_cases hs : (verdict c.request report loaded).1.success = true
    · obtain ⟨p, hp, hx⟩ := verdict_success hs
      obtain ⟨p', hp', hx'⟩ := verdict_success (hv ▸ hs)
      have htree : loaded.bind (·.appliedResultTree) = loaded'.bind (·.appliedResultTree) := by
        rw [hp, hp']
        exact hx.2.2.2.2.2.1.trans hx'.2.2.2.2.2.1.symm
      simp only [hs, if_true, hcommit hs, htree]
    · simp only [hs, if_false, Bool.false_eq_true]

/-- The promotion receipt as a run reads it. -/
def Loads (files : Files (Rec C)) (op : Sha256Digest) (loaded : Option (Receipt C)) : Prop :=
  match files (.receipt op) with
  | .absent => loaded = none
  | .torn => False
  | .bound p => p.operationId = op ∧ loaded = some p

theorem loads_of_read (h : (Journal.readReceipt op).play O files b = ⟨.ok loaded, files', b'⟩) :
    Loads files op loaded ∧ files' = files ∧ b' = b := by
  unfold Loads
  cases hf : files (.receipt op) with
  | absent =>
    cases (Journal.play_read_absent hf).symm.trans h
    exact ⟨rfl, rfl, rfl⟩
  | torn => cases (Journal.play_read_torn hf).symm.trans h
  | bound p =>
    simp only [Journal.readReceipt, Journal.read, Prog.play, hf, File.content] at h
    split at h
    · next hk =>
      cases h
      exact ⟨⟨Key.receipt.inj hk, rfl⟩, rfl, rfl⟩
    · cases h

theorem Loads.unique (h : Loads files op loaded) (h' : Loads files op loaded') : loaded = loaded' := by
  unfold Loads at h h'
  split at h
  · rw [h]
    simp only [*] at h'
    exact h'.symm
  · exact h.elim
  · simp only [*] at h'
    rw [h.2, h'.2]

/-- The report, with the promotion receipt, stands for the recorded rollback
receipt; or for none, as it asks for reconciliation. -/
def Confirms (r : RollbackRequest) (report : Report) (loaded : Option (Receipt C)) (receipt : RollbackReceipt C) : Prop :=
  (verdict r report loaded).1 = .reconciliationRequired ∨
    verdict r report loaded = (receipt.outcome, receipt.error) ∧
      (receipt.outcome.success = true → loaded.bind (·.appliedResultCommit) = receipt.resultCommit)

/-- The run failed with a conflicting record. -/
def Conflicts (x : Play (Rec C) Exc (Execution C) Board) : Prop :=
  ∃ k, x.outcome = .error (.error (Journal.drillTexts k).conflicting)

/-- An exception other than a conflicting record. -/
def Unconflicting (e : Exc) : Prop := ∀ k, e ≠ .error (Journal.drillTexts k).conflicting

theorem unconflicting {text : String} (h : text.toList.head? ≠ some 'c') : Unconflicting (.error text) := by
  intro k he
  cases he
  refine h ?_
  simp [Journal.drillTexts, String.toList_append]

theorem read_unconflicting (hk : k.kind.toList.head? = some 'r' ∨ k.kind.toList.head? = some 'i') :
    (Journal.read (Journal.texts k) k : Code C (Option (Rec C k))).Raises Unconflicting := by
  intro r
  cases r with
  | missing => trivial
  | malformed => exact unconflicting (by simp [Journal.texts, String.toList_append])
  | found v =>
    dsimp only
    split
    · trivial
    · refine unconflicting ?_
      rcases hk with hk | hk <;> simp [Journal.texts, String.toList_append, hk]

theorem receiptOf_raises : (receiptOf S c i report).Raises Unconflicting := by
  refine (read_unconflicting (.inl (by simp [Key.kind]))).bind fun loaded => ?_
  refine (read_unconflicting (.inr (by simp [Key.kind]))).bind fun durable => ?_
  have hbuild : (Prog.ofOption (RollbackReceipt.build (makeReceipt S c.request i report loaded))
      (.error "invalid rollback receipt") : Code C (RollbackReceipt C)).Raises Unconflicting :=
    Prog.Raises.ofOption (unconflicting (by decide))
  split
  · refine Prog.Raises.bind ?_ fun _ => hbuild
    refine (Prog.Raises.ofOption (unconflicting (by decide))).bind fun _ => ?_
    exact Prog.Raises.require (unconflicting (by decide))
  · exact hbuild

theorem play_receiptOf_inv (h : (receiptOf S c i report).play O files b = ⟨.ok r, files', b'⟩) :
    files' = files ∧ b' = b ∧ ∃ loaded, Loads files c.request.promotionOperationId loaded ∧
      r.toRollbackReceiptBody = makeReceipt S c.request i report loaded := by
  obtain ⟨loaded, files₁, b₁, hread, hrest⟩ := Prog.play_bind_inv h
  obtain ⟨hloads, rfl, rfl⟩ := loads_of_read hread
  obtain ⟨durable, files₂, b₂, hintent, htail⟩ := Prog.play_bind_inv hrest
  have hkept : files₂ = files₁ ∧ b₂ = b₁ := by
    cases hf : files₁ (.intent c.request.promotionOperationId) with
    | absent =>
      cases (Journal.play_read_absent hf).symm.trans hintent
      exact ⟨rfl, rfl⟩
    | torn => cases (Journal.play_read_torn hf).symm.trans hintent
    | bound j =>
      simp only [Journal.readIntent, Journal.read, Prog.play, hf, File.content] at hintent
      split at hintent
      · cases hintent
        exact ⟨rfl, rfl⟩
      · cases hintent
  obtain ⟨rfl, rfl⟩ := hkept
  have hbuild : ∀ {f₃ : Files (Rec C)} {b₃ : Board},
      (Prog.ofOption (RollbackReceipt.build (makeReceipt S c.request i report loaded)) (.error "invalid rollback receipt") :
        Code C (RollbackReceipt C)).play O f₃ b₃ = ⟨.ok r, files', b'⟩ →
      files' = f₃ ∧ b' = b₃ ∧ r.toRollbackReceiptBody = makeReceipt S c.request i report loaded := by
    intro f₃ b₃ h
    unfold RollbackReceipt.build at h
    split at h
    · cases h
      exact ⟨rfl, rfl, rfl⟩
    · cases h
  split at htail
  · obtain ⟨_, files₃, b₃, hvalid, hlast⟩ := Prog.play_bind_inv htail
    obtain ⟨j, files₄, b₄, hsome, hrequire⟩ := Prog.play_bind_inv hvalid
    have hsame : files₄ = files₂ ∧ b₄ = b₂ := by
      cases durable with
      | some j => cases hsome; exact ⟨rfl, rfl⟩
      | none => cases hsome
    obtain ⟨rfl, rfl⟩ := hsame
    obtain ⟨_, rfl, rfl⟩ := Prog.play_require_inv hrequire
    obtain ⟨hf, hb, hbody⟩ := hbuild hlast
    exact ⟨hf, hb, loaded, hloads, hbody⟩
  · obtain ⟨hf, hb, hbody⟩ := hbuild htail
    exact ⟨hf, hb, loaded, hloads, hbody⟩

theorem play_record_taken (hO : Stored O) {t : Journal.Texts} {old : Rec C k} (hk : files k = .bound old) :
    (Journal.record t k v).play O files b =
      if old = v then ⟨.ok (), files, b⟩ else ⟨.error (.error t.conflicting), files, b⟩ := by
  unfold Journal.record
  rw [Prog.play, hO b k, next_still (p := .install k) trivial (by simp)]
  dsimp only
  rw [Prog.play_taken (by rw [hk]; intro h; cases h)]
  simp only [Prog.play, hk, File.content]
  split <;> rfl

theorem conflicts_close_iff (hO : Stored O) {main : GitObject}
    (hreceipt : files (.rollbackReceipt c.request.operationId) = .bound recorded)
    (hcase : files (.caseResult c.request.operationId caseId) = .absent) :
    Conflicts ((close S c s i main report r).play O files b) ↔
      r.outcome ≠ .reconciliationRequired ∧ recorded ≠ r := by
  have hinvalid : Unconflicting (.error "invalid case result") := unconflicting (by decide)
  unfold close
  by_cases hout : r.outcome = .reconciliationRequired
  · have hsettled : decide (r.outcome ≠ .reconciliationRequired) = false := by rw [hout]; rfl
    simp only [hsettled, Bool.false_eq_true, if_false]
    refine iff_of_false ?_ fun h => h.1 hout
    rintro ⟨k, hk⟩
    cases hbuild : CaseResult.build (C := C) (makeCase S c.request main s c.authorization i r) with
    | some case =>
      rw [hbuild] at hk
      cases hk
    | none =>
      rw [hbuild] at hk
      exact hinvalid k (Except.error.inj hk)
  · have hsettled : decide (r.outcome ≠ .reconciliationRequired) = true := decide_eq_true hout
    simp only [hsettled, if_true]
    have hrecord : (recordDrill (.rollbackReceipt c.request.operationId) r).play O files b =
        if recorded = r then ⟨.ok (), files, b⟩ else ⟨.error (.error (Journal.drillTexts _).conflicting), files, b⟩ :=
      play_record_taken hO hreceipt
    by_cases hsame : recorded = r
    · rw [if_pos hsame] at hrecord
      refine iff_of_false ?_ fun h => h.2 hsame
      rintro ⟨k, hk⟩
      rw [Prog.play_bind_ok hrecord] at hk
      cases hbuild : CaseResult.build (C := C) (makeCase S c.request main s c.authorization i r) with
      | some case =>
        rw [hbuild] at hk
        have hcaseRecord : (recordDrill (.caseResult c.request.operationId caseId) case).play O files b = ⟨.ok (), _, b⟩ :=
          Journal.play_record hO hcase
        rw [Prog.play_bind_ok (rfl : (Prog.ofOption (some case) _ : Code C _).play O files b = ⟨.ok case, files, b⟩),
          Prog.play_bind_ok hcaseRecord] at hk
        cases hk
      | none =>
        rw [hbuild] at hk
        exact hinvalid k (Except.error.inj hk)
    · rw [if_neg hsame] at hrecord
      refine iff_of_true ⟨.rollbackReceipt c.request.operationId, ?_⟩ ⟨hout, hsame⟩
      rw [Prog.play_bind_error hrecord]

theorem confirms_iff {report₁ : Report} {loaded₁ : Option (Receipt C)}
    (hr : r.toRollbackReceiptBody = makeReceipt S c.request i report loaded)
    (hrecorded : recorded.toRollbackReceiptBody = makeReceipt S c.request i report₁ loaded₁) :
    Confirms c.request report loaded recorded ↔ r.outcome = .reconciliationRequired ∨ recorded = r := by
  have hout : r.outcome = (verdict c.request report loaded).1 := by rw [hr]; rfl
  have hverdict : (recorded.outcome, recorded.error) = verdict c.request report₁ loaded₁ := by rw [hrecorded]; rfl
  have hsuccess : recorded.outcome = (verdict c.request report₁ loaded₁).1 := congrArg Prod.fst hverdict
  have hcommit : recorded.outcome.success = true → recorded.resultCommit = loaded₁.bind (·.appliedResultCommit) := by
    intro h
    rw [hsuccess] at h
    rw [hrecorded]
    simp only [makeReceipt, h, if_true]
  have hsame : recorded = r ↔ verdict c.request report loaded = verdict c.request report₁ loaded₁ ∧
      ((verdict c.request report loaded).1.success = true →
        loaded.bind (·.appliedResultCommit) = loaded₁.bind (·.appliedResultCommit)) := by
    rw [← makeReceipt_eq_iff (S := S) (i := i), ← hr, ← hrecorded]
    constructor
    · rintro rfl
      rfl
    · intro h
      cases r
      cases recorded
      cases h
      rfl
  rw [hsame, hout]
  unfold Confirms
  rw [hverdict]
  constructor
  · rintro (h | ⟨hv, hc⟩)
    · exact .inl h
    · refine .inr ⟨hv, fun hs => ?_⟩
      rw [hv, ← hsuccess] at hs
      exact (hc hs).trans (hcommit hs)
  · rintro (h | ⟨hv, hc⟩)
    · exact .inl h
    · refine .inr ⟨hv, fun hs => ?_⟩
      exact (hc (by rw [hv, ← hsuccess]; exact hs)).trans (hcommit hs).symm

/-- A receipt can be made of the report. -/
def Usable (O : Oracle (board (C := C))) (S : Settings) (c : RunCall C) (files : Files (Rec C)) (b : Board)
    (report : Report) : Prop :=
  ∃ i r, files (.rollbackIntent c.request.operationId) = .bound i ∧
    (receiptOf S c i report).play O files b = ⟨.ok r, files, b⟩

theorem prepared_same (hs : files (.soak c.request.operationId) = .bound s)
    (ha : files (.rollbackAuthorization c.request.operationId) = .bound c.authorization)
    (hi : files (.rollbackIntent c.request.operationId) = .bound i) : prepared c s i files = files := by
  unfold prepared
  have h₁ : files.put (.soak c.request.operationId) (.bound s) = files := by rw [← hs]; exact Function.update_eq_self _ _
  have h₂ : files.put (.rollbackAuthorization c.request.operationId) (.bound c.authorization) = files := by
    rw [← ha]
    exact Function.update_eq_self _ _
  have h₃ : files.put (.rollbackIntent c.request.operationId) (.bound i) = files := by
    rw [← hi]
    exact Function.update_eq_self _ _
  rw [h₁, h₂, h₃]

theorem conflicts_run_iff (hd : ∀ call, (promotion call).Does Promoting) (hl : Linked (Supported S c) files)
    (hpass : Passes O S c files b) (hO : Stored O)
    (hmain : ∀ b, O.answer b .mainHead = .returned c.request.mainBeforeCommit)
    (hreceipt : files (.rollbackReceipt c.request.operationId) = .bound recorded)
    (hcase : files (.caseResult c.request.operationId caseId) = .absent)
    (hreport : (promotion (c.promoteCall S)).play O files b = ⟨.ok report, files', b'⟩) :
    Conflicts ((run S promotion c).play O files b) ↔
      ¬ (report.operationId = c.request.promotionOperationId → Usable O S c files' b' report →
        ∀ loaded, Loads files' c.request.promotionOperationId loaded → Confirms c.request report loaded recorded) := by
  obtain ⟨_, hout, i, report₁, loaded₁, hi, hbody⟩ := hl _ _ hreceipt
  obtain ⟨_, hib, ⟨s, hs⟩, ha⟩ := hl _ _ hi
  have hf := hpass.fenced
  have hprepared : (prepare S c).play O files b = ⟨.ok (s, i), files, b⟩ := by
    obtain ⟨s', i', hs', hi', hplay⟩ := play_prepare (b := b) hO hf
      ⟨.inr ⟨s, hs, (hl _ _ hs).2⟩, .inr ha, .inr ⟨i, hi, hib⟩⟩ fun h => (nomatch hs.symm.trans h)
    have hsame : s' = s := by
      rcases hs' with h | ⟨h, _⟩
      · exact (File.bound.inj (hs.symm.trans h)).symm
      · cases hs.symm.trans h
    have hsameIntent : i' = i := by
      cases i
      cases i'
      cases hi'.trans hib.symm
      rfl
    rw [hplay, hsame, hsameIntent, prepared_same hs ha hi]
  -- the promotion leaves the records of the drill alone
  have hkept : ∀ k, k.ofPromotion = false → files' k = files k := by
    intro k hk
    have hframe : ((promotion (c.promoteCall S)).play O files b).files k = files k := by
      refine (hd (c.promoteCall S)).play_frame fun v hv => ?_
      cases hk.symm.trans hv
    rw [hreport] at hframe
    exact hframe
  have hi' : files' (.rollbackIntent c.request.operationId) = .bound i := by rw [hkept _ rfl]; exact hi
  have hstart : ∀ {x : Play (Rec C) Exc (Execution C) Board},
      (do
        Prog.require (report.operationId = c.request.promotionOperationId)
          (.error "promotion report operation identity differs")
        let main ← assertMain c.request.mainBeforeCommit
        let receipt ← receiptOf S c i report
        close S c s i main report receipt : Code C (Execution C)).play O files' b' = x →
      (run S promotion c).play O files b = x := by
    rintro x rfl
    refine (Prog.play_bind_ok hpass).trans ?_
    refine (Prog.play_bind_ok (Journal.play_read_absent hcase)).trans ?_
    exact (Prog.play_bind_ok hprepared).trans (Prog.play_bind_ok hreport)
  by_cases hop : report.operationId = c.request.promotionOperationId
  case neg =>
    refine iff_of_false ?_ fun h => h fun hop' => absurd hop' hop
    rw [hstart (Prog.play_bind_error (Prog.play_require_not hop))]
    rintro ⟨k, hk⟩
    exact unconflicting (by decide) k (Except.error.inj hk)
  have hrun : (run S promotion c).play O files b =
      (receiptOf S c i report >>= close S c s i c.request.mainBeforeCommit report).play O files' b' := by
    refine hstart ((Prog.play_bind_ok (Prog.play_require hop)).trans ?_)
    exact Prog.play_bind_ok (play_assertMain hf hmain)
  rw [hrun]
  cases hplay : (receiptOf S c i report).play O files' b' with
  | mk outcome files₂ b₂ =>
    cases outcome with
    | error e =>
      refine iff_of_false ?_ fun h => h fun _ => ?_
      · rintro ⟨k, hk⟩
        rw [Prog.play_bind_error hplay] at hk
        exact receiptOf_raises.play hplay k (Except.error.inj hk)
      · rintro ⟨j, r, hj, hr⟩
        cases hi'.symm.trans hj
        cases hplay.symm.trans hr
    | ok r =>
      obtain ⟨rfl, rfl, loaded, hloads, hr⟩ := play_receiptOf_inv hplay
      rw [Prog.play_bind_ok hplay, conflicts_close_iff hO (by rw [hkept _ rfl]; exact hreceipt)
        (by rw [hkept _ rfl]; exact hcase)]
      have hconfirms := confirms_iff hr hbody
      constructor
      · rintro ⟨hpending, hother⟩ hall
        rcases hconfirms.mp (hall hop ⟨i, r, hi', hplay⟩ loaded hloads) with h | h
        · exact hpending h
        · exact hother h
      · intro hnot
        have hno : ¬ Confirms c.request report loaded recorded := fun h =>
          hnot fun _ _ loaded' hloads' => hloads.unique hloads' ▸ h
        exact ⟨fun h => hno (hconfirms.mpr (.inl h)), fun h => hno (hconfirms.mpr (.inr h))⟩

/-- The run returned the recorded case with the records it was made of, and reports
a success exactly when the case is one. -/
def Faithful (c : RunCall C) (files : Files (Rec C)) (k : CaseResult C) (x : Play (Rec C) Exc (Execution C) Board) : Prop :=
  ∃ e, x.outcome = .ok e ∧ e.case = k ∧ files (.rollbackIntent c.request.operationId) = .bound e.intent ∧
    files (.rollbackReceipt c.request.operationId) = .bound e.receipt ∧
    files (.soak c.request.operationId) = .bound e.soak ∧ (e.report.outcome.success = true ↔ k.outcome.success = true)

theorem faithful_run_iff (hl : Linked (Supported S c) files) (hpass : Passes O S c files b) {k : CaseResult C}
    (hk : files (.caseResult c.request.operationId caseId) = .bound k) :
    Faithful c files k ((run S promotion c).play O files b) ↔ k.outcome.success = true := by
  obtain ⟨s, i, r, hrec⟩ := recorded_of_linked hl hk
  have hkey : Rec.key (C := C) (.caseResult c.request.operationId caseId) k = .caseResult c.request.operationId caseId := by
    change Key.caseResult k.operationId k.caseId = _
    rw [hrec.caseBody]
    rfl
  have hrun : (run S promotion c).play O files b = _ := (Prog.play_bind_ok hpass).trans
    ((Prog.play_bind_ok (Journal.play_read_bound hk hkey)).trans (play_replay hpass.fenced hrec))
  rw [hrun]
  constructor
  · rintro ⟨e, he, _, _, _, _, hsuccess⟩
    cases he
    exact hsuccess.mp rfl
  · exact fun hsuccess => ⟨_, rfl, rfl, hrec.intent, hrec.receipt, hrec.soak, iff_of_true rfl hsuccess⟩

end Rollback

namespace Sample

/-- The answers of `mergedAnswer`, with another verdict on the publication. -/
def drillAnswer (verified : Answer Bool) (b : Board) : (p : Port canon) → p.Answer
  | .verifyPublication _ _ => verified
  | p => mergedAnswer b p

theorem drillAnswer_served (verified : Answer Bool) (b : Board) (p : Port canon) :
    (board p (drillAnswer verified b p) b).isSome = true := by
  cases p with
  | verifyPublication => rfl
  | _ => exact mergedAnswer_served b _

def drillOracle (verified : Answer Bool) : Oracle (board (C := canon)) where
  answer := drillAnswer verified
  next b p := (board p (drillAnswer verified b p) b).get (drillAnswer_served verified b p)
  serves _ _ := (Option.some_get _).symm

theorem steady_drill (verified : Answer Bool) : Rollback.Steady (drillOracle verified) request where
  verified _ := rfl
  main _ := rfl
  soak _ := ⟨soak, rfl, rfl, rfl, rfl, rfl, rfl, rfl, rfl, rfl, rfl⟩

theorem passes_drill {verified : Answer Bool} {files : Files (Rec canon)} {b : Board} :
    Rollback.Passes (drillOracle verified) settings rollback files b :=
  Rollback.play_fences fenced_rollback (steady_drill verified)

/-- A move of a rollback drill. -/
inductive DrillOrder
  | start
  | crash (i : Nat)
  | step (i : Nat) (verified : Answer Bool)

def DrillOrder.move (w : Rollback.Drill canon) : DrillOrder → Move Unit (Port.Answer (C := canon))
  | .start => .start ()
  | .crash i => .crash i
  | .step i verified => .step i ⟨false, false, .written, drillAnswer verified w.state⟩

def obeyDrill (w : Rollback.Drill canon) (o : DrillOrder) : Except Unit (Rollback.Drill canon) :=
  serve board (fun _ => Rollback.run settings promote rollback) w (o.move w)

def drill (orders : List DrillOrder) : Rollback.Drill canon := result obeyDrill Rollback.Drill.fresh orders

theorem histories_drill {orders : List DrillOrder}
    (h : allowed obeyDrill (fun _ _ => true) Rollback.Drill.fresh orders = true) :
    Rollback.Histories settings promote rollback (drill orders) := by
  have hr := reaches_result h
  change Reaches obeyDrill _ _ (drill orders) at hr
  unfold Rollback.Histories
  generalize drill orders = w at hr
  induction hr with
  | init => exact .init
  | step _ _ he ih => exact .step ih trivial he

def drillSteps (i n : Nat) (verified : Answer Bool) : List DrillOrder := List.replicate n (.step i verified)

def firstRun (verified : Answer Bool) : Play (Rec canon) Exc (Rollback.Execution canon) Board :=
  (Rollback.run settings promote rollback).play (drillOracle verified) (fun _ => .absent) Board.empty

theorem exists_first_run (verified : Answer Bool) : ∃ w : Rollback.Drill canon,
    Rollback.Histories settings promote rollback w ∧ w.config.files = (firstRun verified).files := by
  obtain ⟨w, _, hreach, hf, _, _⟩ := Prog.play_reaches (O := drillOracle verified)
    (w := ⟨⟨fun _ => .absent, [⟨(), .running (Rollback.run settings promote rollback), []⟩]⟩, Board.empty⟩) (i := 0) rfl
  refine ⟨w, ?_, hf⟩
  have hstart : Rollback.Histories settings promote rollback
      ⟨⟨fun _ => .absent, [⟨(), .running (Rollback.run settings promote rollback), []⟩]⟩, Board.empty⟩ :=
    .step (o := .start ()) .init trivial (serve_ok.mpr ⟨rfl, rfl⟩)
  exact Reaches.trans hstart (hreach.mono fun _ _ _ => trivial)

def caseOutcome (files : Files (Rec canon)) : Option CaseOutcome :=
  match files (.caseResult 21 7) with
  | .bound k => some k.outcome
  | _ => none

theorem exists_case {files : Files (Rec canon)} {outcome : CaseOutcome} (h : caseOutcome files = some outcome) :
    ∃ k, files (.caseResult 21 7) = .bound k ∧ k.outcome = outcome := by
  unfold caseOutcome at h
  split at h
  · next k hk => exact ⟨k, hk, Option.some.inj h⟩
  · cases h

/-- A drill whose publication was rejected, crashed between its receipt and its
case. -/
def unclosed : List DrillOrder := .start :: drillSteps 0 21 (.returned false) ++ [.crash 0]

/-- The run failed because its receipt differs from the recorded one. -/
def conflicting (x : Play (Rec canon) Exc (Rollback.Execution canon) Board) : Bool :=
  match x.outcome with
  | .error (.error m) => m = "conflicting rollback-receipt record"
  | _ => false

theorem conflicts_of_conflicting {x : Play (Rec canon) Exc (Rollback.Execution canon) Board} (h : conflicting x = true) :
    Rollback.Conflicts x := by
  unfold conflicting at h
  split at h
  · next m hm =>
    refine ⟨.rollbackReceipt 21, ?_⟩
    rw [hm, of_decide_eq_true h]
    rfl
  · cases h

/-- The receipt of the drill is on record, and its case is not. -/
def lacksCase (files : Files (Rec canon)) : Bool :=
  match files (.rollbackReceipt 21), files (.caseResult 21 7) with
  | .bound _, .absent => true
  | _, _ => false

theorem exists_receipt_of_lacksCase {files : Files (Rec canon)} (h : lacksCase files = true) :
    (∃ r, files (.rollbackReceipt rollback.request.operationId) = .bound r) ∧
      files (.caseResult rollback.request.operationId Rollback.caseId) = .absent := by
  unfold lacksCase at h
  split at h
  · next r hr hk => exact ⟨⟨r, hr⟩, hk⟩
  · cases h

set_option maxRecDepth 8000 in
/-- The three drills, evaluated together. -/
theorem drills_conclude :
    caseOutcome (firstRun (.returned true)).files = some .alreadyApplied ∧
      caseOutcome (firstRun (.returned false)).files = some .rejected ∧
      allowed obeyDrill (fun _ _ => true) Rollback.Drill.fresh unclosed = true ∧
      lacksCase (drill unclosed).config.files = true ∧
      conflicting ((Rollback.run settings promote rollback).play (drillOracle (.raised "verifier unavailable"))
        (drill unclosed).config.files (drill unclosed).state) = true := by decide +kernel

end Sample

open Rollback in
/-- In every history of `run` calls with the same arguments: a later run that passes
its fences replays the recorded case faithfully exactly when the case is a success;
and a run that finds a receipt without its case has no conflict exactly when the
report it gets, if a receipt can be made of it at all, stands for the same receipt
or asks for reconciliation. -/
theorem rollback_replays_faithfully {S : Settings} {c : RunCall C} {w : Drill C} (hw : Histories S promote c w)
    (hpass : Passes O S c w.config.files w.state) :
    (∀ k, w.config.files (.caseResult c.request.operationId caseId) = .bound k →
      (Faithful c w.config.files k ((run S promote c).play O w.config.files w.state) ↔ k.outcome.success = true)) ∧
    ∀ (recorded : RollbackReceipt C) (report : Report) (files' : Files (Rec C)) (b' : Board),
      w.config.files (.rollbackReceipt c.request.operationId) = .bound recorded →
      w.config.files (.caseResult c.request.operationId caseId) = .absent → Stored O →
      (∀ b, O.answer b .mainHead = .returned c.request.mainBeforeCommit) →
      (promote (c.promoteCall S)).play O w.config.files w.state = ⟨.ok report, files', b'⟩ →
      (¬ Conflicts ((run S promote c).play O w.config.files w.state) ↔
        (report.operationId = c.request.promotionOperationId → Usable O S c files' b' report →
          ∀ loaded, Loads files' c.request.promotionOperationId loaded → Confirms c.request report loaded recorded)) := by
  have hdoes : ∀ call, (promote call : Code C Report).Does Promoting := fun _ => promote_promoting
  have hl := hw.linked hdoes
  refine ⟨fun k hk => faithful_run_iff hl hpass hk, fun recorded report files' b' hreceipt hcase hO hmain hreport => ?_⟩
  rw [conflicts_run_iff hdoes hl hpass hO hmain hreceipt hcase hreport]
  exact Classical.not_not

open Rollback in
theorem rollback_replays_faithfully_closed :
    ∃ (w : Drill Sample.canon) (k : CaseResult Sample.canon), Histories Sample.settings promote Sample.rollback w ∧
      w.config.files (.caseResult 21 7) = .bound k ∧ k.outcome = .alreadyApplied ∧
      Faithful Sample.rollback w.config.files k ((run Sample.settings promote Sample.rollback).play
        (Sample.drillOracle (.returned true)) w.config.files w.state) := by
  obtain ⟨w, hw, hf⟩ := Sample.exists_first_run (.returned true)
  obtain ⟨k, hk, hout⟩ := Sample.exists_case Sample.drills_conclude.1
  rw [← hf] at hk
  have hpass : Passes (Sample.drillOracle (.returned true)) Sample.settings Sample.rollback w.config.files w.state :=
    Sample.passes_drill
  refine ⟨w, k, hw, hk, hout, ((rollback_replays_faithfully hw hpass).1 k hk).mpr ?_⟩
  rw [hout]
  rfl

open Rollback in
/-- A rejected case is replayed as a success; and after a crash before the case, a
verifier that cannot be asked makes the next run fail with a conflict. -/
theorem rollback_replay_unfaithful :
    (¬ ∀ (w : Drill Sample.canon) (O : Oracle (board (C := Sample.canon))) (k : CaseResult Sample.canon),
      Histories Sample.settings promote Sample.rollback w →
      Passes O Sample.settings Sample.rollback w.config.files w.state →
      w.config.files (.caseResult Sample.rollback.request.operationId caseId) = .bound k →
      Faithful Sample.rollback w.config.files k
        ((run Sample.settings promote Sample.rollback).play O w.config.files w.state)) ∧
    ¬ ∀ (w : Drill Sample.canon) (O : Oracle (board (C := Sample.canon))) (r : RollbackReceipt Sample.canon),
      Histories Sample.settings promote Sample.rollback w →
      Passes O Sample.settings Sample.rollback w.config.files w.state →
      w.config.files (.rollbackReceipt Sample.rollback.request.operationId) = .bound r →
      w.config.files (.caseResult Sample.rollback.request.operationId caseId) = .absent →
      ¬ Conflicts ((run Sample.settings promote Sample.rollback).play O w.config.files w.state) := by
  constructor
  · intro hall
    obtain ⟨w, hw, hf⟩ := Sample.exists_first_run (.returned false)
    obtain ⟨k, hk, hout⟩ := Sample.exists_case Sample.drills_conclude.2.1
    rw [← hf] at hk
    have hpass : Passes (Sample.drillOracle (.returned true)) Sample.settings Sample.rollback w.config.files w.state :=
      Sample.passes_drill
    have hdoes : ∀ call, (promote call : Code Sample.canon Report).Does Promoting := fun _ => promote_promoting
    have hsuccess := (faithful_run_iff (hw.linked hdoes) hpass hk).mp (hall w _ k hw hpass hk)
    rw [hout] at hsuccess
    cases hsuccess
  · intro hall
    obtain ⟨-, -, hallowed, hlacks, hconflict⟩ := Sample.drills_conclude
    obtain ⟨⟨r, hr⟩, hk⟩ := Sample.exists_receipt_of_lacksCase hlacks
    exact hall (Sample.drill Sample.unclosed) (Sample.drillOracle (.raised "verifier unavailable")) r
      (Sample.histories_drill hallowed) Sample.passes_drill hr hk (Sample.conflicts_of_conflicting hconflict)

end AvoCorrelate.Promotion
