import AvoCorrelate.Candidates
/-!
# The lineage as a chain

A run keeps a single lineage, so each admitted candidate should descend from the
champion it replaces. `stage_candidate` checks that a candidate descends from the
champion of the moment it is staged; `commit_admission` compares the champion
with the one the decision names, and never looks at the parents again.
-/
open AvoLib

namespace AvoCorrelate

def CandidateRow.parents (c : CandidateRow) : List String :=
  match c.manifest with
  | .seed _ => []
  | .candidate m => m.parentCandidateIds

/-- The candidate of each lineage entry is a parent of the next one's. -/
def Chained (db : Db) : Prop :=
  ∀ e ∈ db.lineage, ∀ e' ∈ db.lineage, e'.runId = e.runId → e'.sequence = e.sequence + 1 →
    ∃ c, db.candidates.get? e'.candidateId = some c ∧ e.candidateId ∈ c.parents

/-- A new admission is of a candidate whose parents include the champion it replaces. -/
def descends (db : Db) : Op → Bool
  | .commitAdmission runId decision _ _ =>
    (db.admissions.get? decision.admissionId).isSome || decision.outcome ≠ .admits ||
      (db.runs.get? runId).all fun run => (db.candidates.get? decision.candidateId).all fun c =>
        run.championId.any fun champion => champion ∈ c.parents
  | _ => true

variable {db db' : Db} {e : LineageRow} {l : List LineageRow} {op : Op}

theorem mem_lineageOf {k : String} : e ∈ lineageOf db k ↔ e ∈ db.lineage ∧ e.runId = k := by
  simp [lineageOf, Table.mem_def]

theorem sequence_lt (h : l.map (·.sequence) = List.range l.length) (he : e ∈ l) : e.sequence < l.length := by
  have : e.sequence ∈ l.map (·.sequence) := List.mem_map.2 ⟨e, he, rfl⟩
  rw [h] at this
  exact List.mem_range.1 this

theorem getLast_of_sequence (h : l.map (·.sequence) = List.range l.length) (he : e ∈ l) (hs : e.sequence + 1 = l.length) :
    l.getLast? = some e := by
  obtain ⟨i, hi, rfl⟩ := List.mem_iff_getElem.1 he
  have hseq : l[i].sequence = i := by
    have h1 : (l.map (·.sequence))[i]? = some l[i].sequence := by simp [hi]
    rw [h] at h1
    simpa [hi] using h1.symm
  rw [List.getLast?_eq_getElem?, ← hs, hseq]
  simp [hi]

theorem Chained.keep (h : Chained db) (hstep : CandidateStep db op db') (hl : db'.lineage = db.lineage) :
    Chained db' := by
  intro e he e' he' hk hs
  rw [hl] at he he'
  obtain ⟨c, hc, hp⟩ := h e he e' he' hk hs
  obtain ⟨c', hc', hm, -⟩ := hstep.keeps hc
  exact ⟨c', hc', by rw [CandidateRow.parents, hm]; exact hp⟩

theorem chained_extend {run : RunRow} {c : CandidateRow} {entry : LineageRow} {champion : String} (hj : JournalInv db)
    (hch : Chained db) (hstep : CandidateStep db op db') (hrun : db.runs.get? run.runId = some run)
    (hchamp : run.championId = some champion) (hget : db.candidates.get? c.candidateId = some c)
    (hentry : entry.runId = run.runId) (hec : entry.candidateId = c.candidateId)
    (hseq : entry.sequence = EvidenceService.nextLineage db run.runId)
    (hl : db.lineage.insert? entry = some db'.lineage) : Chained db' ↔ champion ∈ c.parents := by
  obtain ⟨-, -, hnum, last, hlast, hlc⟩ := hj.integrity run (Table.get?_mem hrun)
  rw [nextLineage_eq hnum] at hseq
  have hlc : champion = last.candidateId := Option.some.inj (hchamp.symm.trans hlc)
  have hmem := mem_lineageOf.1 (List.mem_of_getLast? hlast)
  obtain ⟨c', hc', hm, -⟩ := hstep.keeps hget
  have hparents : c'.parents = c.parents := by rw [CandidateRow.parents, hm]; rfl
  constructor
  · -- The last entry and the new one are consecutive.
    intro h
    have hlast_seq : entry.sequence = last.sequence + 1 := by
      have hne : lineageOf db run.runId ≠ [] := by rintro hn; rw [hn] at hlast; cases hlast
      have hn : last.sequence + 1 = (lineageOf db run.runId).length := by
        have h1 : ((lineageOf db run.runId).map (·.sequence)).getLast? = some last.sequence := by
          rw [List.getLast?_map, hlast]
          rfl
        rw [hnum, List.getLast?_range] at h1
        have hpos : (lineageOf db run.runId).length ≠ 0 := fun h0 => hne (List.length_eq_zero_iff.1 h0)
        simp only [hpos, if_false, Option.some.injEq] at h1
        omega
      rw [hseq, hn]
    obtain ⟨x, hx, hp⟩ := h last ((Table.mem_insert hl).2 (.inl hmem.1)) entry ((Table.mem_insert hl).2 (.inr rfl))
      (hentry.trans hmem.2.symm) hlast_seq
    rw [hec, hc'] at hx
    cases hx
    rw [hlc, ← hparents]
    exact hp
  · intro hp e he e' he' hk hs
    rcases (Table.mem_insert hl).1 he with he | rfl
    · rcases (Table.mem_insert hl).1 he' with he' | rfl
      · obtain ⟨x, hx, hxp⟩ := hch e he e' he' hk hs
        obtain ⟨x', hx', hxm, -⟩ := hstep.keeps hx
        exact ⟨x', hx', by rw [CandidateRow.parents, hxm]; exact hxp⟩
      · -- The entry before the new one is the last, whose candidate is the champion.
        have hme : e ∈ lineageOf db run.runId := mem_lineageOf.2 ⟨he, hk.symm.trans hentry⟩
        have hle := getLast_of_sequence hnum hme (hs.symm.trans hseq)
        rw [hlast] at hle
        cases hle
        refine ⟨c', by rw [hec]; exact hc', ?_⟩
        rw [hparents, ← hlc]
        exact hp
    · exfalso
      rcases (Table.mem_insert hl).1 he' with he' | rfl
      · have := sequence_lt hnum (mem_lineageOf.2 ⟨he', hk.trans hentry⟩)
        omega
      · omega

theorem chained_iff {E : Env} (hj : JournalInv db) (hch : Chained db) (h : exec E db op = .ok db') :
    Chained db' ↔ descends db op = true := by
  have hstep := exec_candidates h
  cases op
  case commitAdmission runId decision lineageId ids =>
    simp only [exec, map_ok, Prod.exists, exists_and_right, exists_eq_right] at h
    obtain ⟨_, h⟩ := h
    obtain ⟨rfl, hsome⟩ | ⟨run, c, _, ads, cs, hnew, hr, hget, -, -, hchamp, -, -,
      ⟨ho, rfl⟩ | ⟨ho, -, _, _, _, _, _, rfl, -, hlin, -⟩⟩ := EvidenceService.commitAdmission_ok h
    · exact iff_of_true hch (by simp [descends, hsome])
    · exact iff_of_true (hch.keep hstep rfl) (by simp [descends, ho])
    · rw [chained_extend hj hch hstep (Table.get?_self hr) hchamp (Table.get?_self hget) rfl rfl rfl hlin]
      simp [descends, hnew, ho, hr, hget, hchamp]
  all_goals
    refine iff_of_true ?_ rfl
    cases id hstep with
    | same _ _ hl _ => exact hch.keep hstep hl
    | staged _ _ hl _ => exact hch.keep hstep hl
    | evaluated _ _ _ _ _ hl _ => exact hch.keep hstep hl
    | blocked _ _ _ _ hl _ => exact hch.keep hstep hl
    | decided hop _ _ _ _ _ _ _ => cases hop
    | @seeded c entry m hm hentry hfresh hc ha hl hr =>
      -- The seed of a new run: no entry carries the run's identifier yet.
      have hnone : ∀ e ∈ db.lineage, e.runId ≠ entry.runId := by
        intro e he hk
        obtain ⟨r, hr', hrk⟩ := hj.rooted.2 e he
        exact hfresh r hr' (hrk.trans hk)
      intro e he e' he' hk hs
      rcases (Table.mem_insert hl).1 he with he | rfl
      · rcases (Table.mem_insert hl).1 he' with he' | rfl
        · obtain ⟨x, hx, hxp⟩ := hch e he e' he' hk hs
          obtain ⟨x', hx', hxm, -⟩ := hstep.keeps hx
          exact ⟨x', hx', by rw [CandidateRow.parents, hxm]; exact hxp⟩
        · exact absurd hk.symm (hnone e he)
      · rcases (Table.mem_insert hl).1 he' with he' | rfl
        · exact absurd hk (hnone e' he')
        · omega

/-- Single lineage: in every run of calls whose admissions descend from the
champion they replace, the lineage of every run is a chain; and the first
admission that does not descend breaks it. -/
theorem single_lineage (E : Env) :
    (∀ db, ReachableWhen E (fun db op => descends db op = true) db → Chained db) ∧
    ∀ db op db', Reachable E db → Chained db → exec E db op = .ok db' → (Chained db' ↔ descends db op = true) := by
  refine ⟨fun db h => ?_, fun db op db' hr hch he => chained_iff (reachable_journal hr) hch he⟩
  have hinit : Chained Db.initial := fun _ he => absurd he (Table.not_mem_empty _)
  have hboth : JournalInv db ∧ Chained db := by
    refine Reaches.inv (fun d => JournalInv d ∧ Chained d) ⟨initial_journal, hinit⟩ ?_ h
    rintro d op d' ⟨hj, hch⟩ hd he
    exact ⟨(exec_journal he).inv hj, (chained_iff hj hch he).2 hd⟩
  exact hboth.2

/-- Two candidates staged from the seed, the first one admitted. -/
def Sample.siblings : List Op :=
  Sample.prepared ++ [Sample.staged "run" "a" ["seed-run"], Sample.staged "run" "b" ["seed-run"],
    Sample.evaluated "a" "eval-a", Sample.evaluated "b" "eval-b",
    Sample.decided "run" "a" "seed-run" "eval-a" "admit-a" .admits]

theorem single_lineage_siblings :
    (lineageOf (after Sample.env Sample.siblings) "run").map (·.candidateId) = ["seed-run", "a"] ∧
      Chained (after Sample.env Sample.siblings) :=
  ⟨by decide, (single_lineage Sample.env).1 _ (reachableWhen_after (by decide))⟩

/-- The second one, admitted next, does not descend from the first. -/
theorem sibling_breaks_chain : ¬ ∀ E db, Reachable E db → Chained db := by
  intro h
  let ops : List Op := Sample.siblings ++ [Sample.decided "run" "b" "a" "eval-b" "admit-b" .admits]
  have hentries : ∃ e ∈ (after Sample.env ops).lineage.rows, ∃ e' ∈ (after Sample.env ops).lineage.rows,
      e'.runId = e.runId ∧ e'.sequence = e.sequence + 1 ∧
      ((after Sample.env ops).candidates.get? e'.candidateId).all (fun c => e.candidateId ∉ c.parents) = true := by
    decide
  obtain ⟨e, he, e', he', hk, hs, hall⟩ := hentries
  obtain ⟨c, hc, hp⟩ := h Sample.env (after Sample.env ops) (reachable_after (by decide)) e he e' he' hk hs
  rw [hc] at hall
  simp [hp] at hall

end AvoCorrelate
