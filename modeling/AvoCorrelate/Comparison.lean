import AvoCorrelate.Contracts
import AvoCorrelate.Lib.Decimals
import AvoCorrelate.Lib.Json
import AvoCorrelate.Lib.Transactions
import Mathlib.Data.Finset.Basic
/-!
# Comparing two evaluations

Reports of evaluators are parsed, and a candidate's is compared with the incumbent's by the
confidence bounds of one metric. The bounds are as the report has them: nothing relates
them to the aggregate of the metric, and the comparison does not look at one to judge by
the other. Where each aggregate is inside its own bounds, what the bounds say of two
evaluations holds of their aggregates (`comparison_consistent`), in the rounded arithmetic
in which the bounds are compared.
-/
open AvoLib

namespace AvoCorrelate.Comparison

/-! ## Records -/

structure Metrics (V : Type) where
  entries : List (String × V)
  distinct : (entries.map Prod.fst).Nodup
  deriving DecidableEq

def Metrics.get? {V : Type} (m : Metrics V) (metric : String) : Option V := m.entries.lookup metric

def Metrics.keys {V : Type} (m : Metrics V) : Finset String := (m.entries.map Prod.fst).toFinset

variable {metric : String} {L : Library} {maxBytes : Nat} {declaredMetrics : Finset String}
  {record : EvaluationRecord} {direction : Direction} {a b s effect : Decimal}

theorem Metrics.get?_isSome {V : Type} {m : Metrics V} (h : metric ∈ m.keys) : ∃ v, m.get? metric = some v := by
  simp only [Metrics.keys, List.mem_toFinset, List.mem_map] at h
  obtain ⟨⟨key, v⟩, hmem, rfl⟩ := h
  cases hl : m.entries.lookup key with
  | some v => exact ⟨v, hl⟩
  | none =>
    have hne := List.lookup_eq_none_iff.mp hl (key, v) hmem
    simp at hne

structure MeasuredTrial extends TrialRecord where
  metrics : Metrics Decimal
  deriving DecidableEq

structure UncertaintyRecord where
  lower : Decimal
  upper : Decimal
  deriving DecidableEq

/-- What parsing and comparing read of an `EvaluationRecord`. -/
structure EvaluationRecord where
  hardwareClass : String
  trialRecords : List MeasuredTrial
  aggregateMetrics : Metrics Decimal
  uncertainty : Metrics UncertaintyRecord
  deriving DecidableEq

inductive Direction
  | maximize | minimize
  deriving DecidableEq

structure ComparisonRecord where
  metric : String
  direction : Direction
  incumbentValue : Decimal
  candidateValue : Decimal
  minimumEffect : Decimal
  conclusion : Conclusion
  nonEmpty : metric ≠ ""
  deriving DecidableEq

inductive Exc
  | invalidReport (message : String)
  /-- `metric declaration mismatch: expected …, got …` -/
  | metricMismatch (expected actual : Finset String)
  | comparisonInput (message : String)
  | overflow
  | validation
  | other (message : String)
  deriving DecidableEq

/-! ## Parsing -/

/-- What the scanner of `json.loads` hands to its hooks. -/
inductive Scanned
  | null
  | bool (b : Bool)
  | integer (n : Int)
  | decimal (d : Decimal)
  | constant (text : String)
  | string (s : String)
  | array (items : List Scanned)
  | object (pairs : List (String × Scanned))

/-- A document whose objects have distinct keys. -/
inductive Document
  | null
  | bool (b : Bool)
  | integer (n : Int)
  | decimal (d : Decimal)
  | string (s : String)
  | array (items : List Document)
  | object (members : List (String × Document))

/-- `_reject_duplicate_keys`, over the pairs that are still to come. -/
def rejectDuplicateKeys : List String → List String → Except Exc Unit
  | _, [] => .ok ()
  | seen, key :: keys =>
    if key ∈ seen then .error (.invalidReport ("duplicate JSON key: " ++ key))
    else rejectDuplicateKeys (seen ++ [key]) keys

mutual

/-- The hooks of `json.loads`. A number is a finite decimal, so that `_reject_non_finite`
finds nothing afterwards. -/
def hooked : Scanned → Except Exc Document
  | .null => .ok .null
  | .bool b => .ok (.bool b)
  | .integer n => .ok (.integer n)
  | .decimal d => .ok (.decimal d)
  | .constant text => .error (.invalidReport ("non-finite JSON number: " ++ text))
  | .string s => .ok (.string s)
  | .array items => do
    let items ← hookedItems items
    return .array items
  | .object pairs => do
    let members ← hookedPairs pairs
    rejectDuplicateKeys [] (members.map Prod.fst)
    return .object members

def hookedItems : List Scanned → Except Exc (List Document)
  | [] => .ok []
  | item :: items => do
    let item ← hooked item
    let items ← hookedItems items
    return item :: items

def hookedPairs : List (String × Scanned) → Except Exc (List (String × Document))
  | [] => .ok []
  | (key, value) :: pairs => do
    let value ← hooked value
    let members ← hookedPairs pairs
    return (key, value) :: members

end

/-- The scanner of `json.loads`, the validation of a document as an `EvaluationRecord`, and
how the text of a metric's name is stripped. -/
structure Library where
  scan : List UInt8 → Except Exc Scanned
  validate : Document → Except String EvaluationRecord
  strip : String → String

def invalidJson : Exc → Exc
  | .invalidReport message => .invalidReport ("invalid evaluator JSON: " ++ message)
  | e => e

def parseEvaluationReport (L : Library) (payload : List UInt8) (maxBytes : Nat) (declaredMetrics : Finset String) :
    Except Exc EvaluationRecord := do
  require (payload.length ≤ maxBytes) (.invalidReport "evaluator report exceeds byte limit")
  let document ← (L.scan payload >>= hooked).mapError invalidJson
  let record ← (L.validate document).mapError fun message => .invalidReport ("report schema validation failed: " ++ message)
  require (record.aggregateMetrics.keys = declaredMetrics)
    (.metricMismatch declaredMetrics record.aggregateMetrics.keys)
  require (∀ trial ∈ record.trialRecords, trial.metrics.keys = declaredMetrics)
    (.invalidReport "trial metrics do not match declared metrics")
  require (record.uncertainty.keys = declaredMetrics)
    (.invalidReport "uncertainty metrics do not match declared metrics")
  return record

/-! ## Comparing -/

/-- The decimal context that a thread begins with. -/
def defaultContext : Context where
  precision := 28
  emin := -999999
  emax := 999999
  positive := by decide

def add (a b : Decimal) : Except Exc Decimal :=
  match defaultContext.add a b with
  | some sum => .ok sum
  | none => .error .overflow

def sub (a b : Decimal) : Except Exc Decimal :=
  match defaultContext.sub a b with
  | some difference => .ok difference
  | none => .error .overflow

def measured (record : EvaluationRecord) (metric : String) : Except Exc (Decimal × UncertaintyRecord) :=
  match record.aggregateMetrics.get? metric, record.uncertainty.get? metric with
  | some value, some interval => .ok (value, interval)
  | _, _ => .error (.comparisonInput ("metric lacks aggregate or uncertainty: " ++ metric))

/-- Whether the bounds are separated, and whether the values are. -/
def judged (direction : Direction) (incumbent candidate : Decimal × UncertaintyRecord) (minimumEffect : Decimal) :
    Except Exc (Bool × Bool) :=
  match direction with
  | .maximize => do
    let bound ← add incumbent.2.upper minimumEffect
    let point ← add incumbent.1 minimumEffect
    return (bound ≤ candidate.2.lower, point ≤ candidate.1)
  | .minimize => do
    let bound ← sub incumbent.2.lower minimumEffect
    let point ← sub incumbent.1 minimumEffect
    return (candidate.2.upper ≤ bound, candidate.1 ≤ point)

def concluded : Bool × Bool → Conclusion
  | (true, _) => .improved
  | (false, true) => .withinNoise
  | (false, false) => .notImproved

def compareEvaluations (L : Library) (incumbent candidate : EvaluationRecord) (metric : String) (direction : Direction)
    (minimumEffect : Decimal) : Except Exc ComparisonRecord := do
  require (0 ≤ minimumEffect.value) (.comparisonInput "minimum_effect cannot be negative")
  require (incumbent.hardwareClass = candidate.hardwareClass)
    (.comparisonInput "paired evaluations require the same hardware class")
  let incumbentTrials : List TrialRecord := incumbent.trialRecords.map (·.toTrialRecord)
  let candidateTrials : List TrialRecord := candidate.trialRecords.map (·.toTrialRecord)
  require (incumbentTrials ≠ [] ∧ incumbentTrials = candidateTrials)
    (.comparisonInput "paired evaluations require identical trial indices and seeds")
  let measuredIncumbent ← measured incumbent metric
  let measuredCandidate ← measured candidate metric
  let judgement ← judged direction measuredIncumbent measuredCandidate minimumEffect
  if nonEmpty : L.strip metric ≠ "" then
    .ok { metric := L.strip metric, direction, incumbentValue := measuredIncumbent.1,
             candidateValue := measuredCandidate.1, minimumEffect, conclusion := concluded judgement, nonEmpty }
  else .error .validation

/-! ## What the reports promise -/

theorem parseEvaluationReport_ok {payload : List UInt8}
    (h : parseEvaluationReport L payload maxBytes declaredMetrics = .ok record) :
    record.aggregateMetrics.keys = declaredMetrics ∧ record.uncertainty.keys = declaredMetrics ∧
      ∀ trial ∈ record.trialRecords, trial.metrics.keys = declaredMetrics := by
  simp only [parseEvaluationReport, bind_ok, require_ok, exists_const, pure_ok] at h
  obtain ⟨-, document, -, record', -, haggregate, htrials, huncertainty, rfl⟩ := h
  exact ⟨haggregate, huncertainty, htrials⟩

theorem measured_of_accepted {payload : List UInt8}
    (h : parseEvaluationReport L payload maxBytes declaredMetrics = .ok record) (hm : metric ∈ declaredMetrics) :
    ∃ m, measured record metric = .ok m := by
  obtain ⟨haggregate, huncertainty, -⟩ := parseEvaluationReport_ok h
  obtain ⟨value, hvalue⟩ := Metrics.get?_isSome (haggregate ▸ hm)
  obtain ⟨interval, hinterval⟩ := Metrics.get?_isSome (huncertainty ▸ hm)
  exact ⟨(value, interval), by simp [measured, hvalue, hinterval]⟩

/-! ## Bounds and values -/

/-- The incumbent's value or bound with the effect put on it. -/
def shifted : Direction → Decimal → Decimal → Except Exc Decimal
  | .maximize => add
  | .minimize => sub

/-- The bound that looks to the better side, and the one that looks to the worse. -/
def UncertaintyRecord.better (interval : UncertaintyRecord) : Direction → Decimal
  | .maximize => interval.upper
  | .minimize => interval.lower

def UncertaintyRecord.worse (interval : UncertaintyRecord) : Direction → Decimal
  | .maximize => interval.lower
  | .minimize => interval.upper

/-- At least as good. -/
def Direction.Reaches : Direction → Decimal → Decimal → Prop
  | .maximize, bound, value => bound ≤ value
  | .minimize, bound, value => value ≤ bound

instance {direction : Direction} {bound value : Decimal} : Decidable (direction.Reaches bound value) := by
  cases direction
  · exact inferInstanceAs (Decidable (bound ≤ value))
  · exact inferInstanceAs (Decidable (value ≤ bound))

theorem Direction.Reaches.trans {c : Decimal} (hab : direction.Reaches a b) (hbc : direction.Reaches b c) :
    direction.Reaches a c := by
  cases direction with
  | maximize => exact (le_trans hab hbc : a ≤ c)
  | minimize => exact (le_trans hbc hab : c ≤ a)

/-- The value of the candidate is better than the incumbent's by the effect, as numbers. -/
def Direction.Improves (direction : Direction) (incumbent candidate effect : Decimal) : Prop :=
  match direction with
  | .maximize => incumbent.value + effect.value ≤ candidate.value
  | .minimize => candidate.value ≤ incumbent.value - effect.value

/-- The same in the arithmetic of the comparison. -/
def PointImproved (direction : Direction) (incumbent candidate effect : Decimal) : Prop :=
  ∃ point, shifted direction incumbent effect = .ok point ∧ direction.Reaches point candidate

/-- The aggregates do not lie beyond the bounds by which they are compared. -/
def Bounded (direction : Direction) (incumbent candidate : Decimal × UncertaintyRecord) : Prop :=
  direction.Reaches incumbent.1 (incumbent.2.better direction) ∧ direction.Reaches (candidate.2.worse direction) candidate.1

/-- The effect on the incumbent's bound is not rounded. -/
def Exact (direction : Direction) (bound effect : Decimal) : Prop :=
  match direction with
  | .maximize => (defaultContext.nearest (bound.value + effect.value)).value = bound.value + effect.value
  | .minimize => (defaultContext.nearest (bound.value - effect.value)).value = bound.value - effect.value

theorem judged_eq (direction : Direction) (incumbent candidate : Decimal × UncertaintyRecord) (effect : Decimal) :
    judged direction incumbent candidate effect = do
      let bound ← shifted direction (incumbent.2.better direction) effect
      let point ← shifted direction incumbent.1 effect
      return (direction.Reaches bound (candidate.2.worse direction), direction.Reaches point candidate.1) := by
  cases direction <;> rfl

theorem round_ok {c : Context} {x : ℚ} {d : Decimal} (h : c.round x = some d) : d = c.nearest x := by
  unfold Context.round at h
  split at h
  · cases h
  · cases h
    rfl

theorem add_ok (h : add a b = .ok s) : s = defaultContext.nearest (a.value + b.value) := by
  unfold add at h
  split at h
  · next sum hsum =>
    cases h
    exact round_ok hsum
  · cases h

theorem sub_ok (h : sub a b = .ok s) : s = defaultContext.nearest (a.value - b.value) := by
  unfold sub at h
  split at h
  · next difference hdifference =>
    cases h
    exact round_ok hdifference
  · cases h

theorem shifted_reaches {a' b' : Decimal} (ha : shifted direction a effect = .ok a')
    (hb : shifted direction b effect = .ok b') (h : direction.Reaches a b) : direction.Reaches a' b' := by
  cases direction with
  | maximize =>
    obtain rfl := add_ok ha
    obtain rfl := add_ok hb
    have hle : a.value ≤ b.value := h
    exact defaultContext.nearest_mono (by linarith)
  | minimize =>
    obtain rfl := sub_ok ha
    obtain rfl := sub_ok hb
    have hle : b.value ≤ a.value := h
    exact defaultContext.nearest_mono (by linarith)

theorem improves_of_exact {incumbent candidate : Decimal × UncertaintyRecord} {bound : Decimal}
    (hbounded : Bounded direction incumbent candidate)
    (hbound : shifted direction (incumbent.2.better direction) effect = .ok bound)
    (hseparated : direction.Reaches bound (candidate.2.worse direction))
    (hexact : Exact direction (incumbent.2.better direction) effect) :
    direction.Improves incumbent.1 candidate.1 effect := by
  obtain ⟨hincumbent, hcandidate⟩ := hbounded
  have hreached := hseparated.trans hcandidate
  cases direction with
  | maximize =>
    obtain rfl := add_ok hbound
    have hreached : (defaultContext.nearest _).value ≤ candidate.1.value := hreached
    have hincumbent : incumbent.1.value ≤ (incumbent.2.better .maximize).value := hincumbent
    rw [show (defaultContext.nearest _).value = _ from hexact] at hreached
    exact (by linarith : incumbent.1.value + effect.value ≤ candidate.1.value)
  | minimize =>
    obtain rfl := sub_ok hbound
    have hreached : candidate.1.value ≤ (defaultContext.nearest _).value := hreached
    have hincumbent : (incumbent.2.better .minimize).value ≤ incumbent.1.value := hincumbent
    rw [show (defaultContext.nearest _).value = _ from hexact] at hreached
    exact (by linarith : candidate.1.value ≤ incumbent.1.value - effect.value)

/-! ## Conclusions -/

theorem compareEvaluations_ok {incumbent candidate : EvaluationRecord} {record : ComparisonRecord}
    (h : compareEvaluations L incumbent candidate metric direction effect = .ok record) :
    ∃ i c judgement, measured incumbent metric = .ok i ∧ measured candidate metric = .ok c ∧
      judged direction i c effect = .ok judgement ∧ record.incumbentValue = i.1 ∧ record.candidateValue = c.1 ∧
      record.conclusion = concluded judgement := by
  simp only [compareEvaluations, bind_ok, require_ok, exists_const] at h
  obtain ⟨-, -, -, i, hi, c, hc, judgement, hjudged, h⟩ := h
  split at h
  · cases h
    exact ⟨i, c, judgement, hi, hc, hjudged, rfl, rfl, rfl⟩
  · cases h

theorem judged_ok {i c : Decimal × UncertaintyRecord} {judgement : Bool × Bool}
    (h : judged direction i c effect = .ok judgement) :
    ∃ bound point, shifted direction (i.2.better direction) effect = .ok bound ∧ shifted direction i.1 effect = .ok point ∧
      judgement = (decide (direction.Reaches bound (c.2.worse direction)), decide (direction.Reaches point c.1)) := by
  simp only [judged_eq, bind_ok, pure_ok] at h
  obtain ⟨bound, hbound, point, hpoint, rfl⟩ := h
  exact ⟨bound, point, hbound, hpoint, rfl⟩

/-- A metric that the reports declare is measured in both, and where neither aggregate
lies beyond the bound it is compared by, the conclusion agrees with the aggregates: an
improvement is one of the values, by the effect, and without one of the values nothing is
improved or within the noise. -/
theorem comparison_consistent {L : Library} {payload payload' : List UInt8} {maxBytes maxBytes' : Nat}
    {declaredMetrics declaredMetrics' : Finset String} {incumbent candidate : EvaluationRecord}
    (hincumbent : parseEvaluationReport L payload maxBytes declaredMetrics = .ok incumbent)
    (hcandidate : parseEvaluationReport L payload' maxBytes' declaredMetrics' = .ok candidate) {metric : String}
    (hm : metric ∈ declaredMetrics) (hm' : metric ∈ declaredMetrics') (direction : Direction) (effect : Decimal) :
    ∃ i c, measured incumbent metric = .ok i ∧ measured candidate metric = .ok c ∧
      ∀ record, compareEvaluations L incumbent candidate metric direction effect = .ok record →
        record.incumbentValue = i.1 ∧ record.candidateValue = c.1 ∧
        (Bounded direction i c →
          (record.conclusion = .improved → PointImproved direction i.1 c.1 effect) ∧
          (record.conclusion = .notImproved ↔ ¬ PointImproved direction i.1 c.1 effect) ∧
          (record.conclusion = .improved → Exact direction (i.2.better direction) effect →
            direction.Improves i.1 c.1 effect)) := by
  obtain ⟨i, hi⟩ := measured_of_accepted hincumbent hm
  obtain ⟨c, hc⟩ := measured_of_accepted hcandidate hm'
  refine ⟨i, c, hi, hc, fun record h => ?_⟩
  obtain ⟨i', c', judgement, hi', hc', hjudged, hvalue, hvalue', hconclusion⟩ := compareEvaluations_ok h
  obtain rfl : i = i' := Except.ok.inj (hi.symm.trans hi')
  obtain rfl : c = c' := Except.ok.inj (hc.symm.trans hc')
  obtain ⟨bound, point, hbound, hpoint, rfl⟩ := judged_ok hjudged
  refine ⟨hvalue, hvalue', fun hbounded => ?_⟩
  have hpointImproved : PointImproved direction i.1 c.1 effect ↔ direction.Reaches point c.1 := by
    constructor
    · rintro ⟨point', hpoint', hreaches⟩
      obtain rfl : point' = point := Except.ok.inj (hpoint'.symm.trans hpoint)
      exact hreaches
    · exact fun hreaches => ⟨point, hpoint, hreaches⟩
  have hsound : direction.Reaches bound (c.2.worse direction) → direction.Reaches point c.1 := fun hseparated =>
    (shifted_reaches hpoint hbound hbounded.1).trans (hseparated.trans hbounded.2)
  rw [hpointImproved, hconclusion]
  by_cases hseparated : direction.Reaches bound (c.2.worse direction)
  · have hreaches := hsound hseparated
    simp only [hseparated, hreaches, concluded, decide_true]
    exact ⟨fun _ => trivial, by simp, fun _ hexact => improves_of_exact hbounded hbound hseparated hexact⟩
  · by_cases hreaches : direction.Reaches point c.1
    · simp [hseparated, hreaches, concluded]
    · simp [hseparated, hreaches, concluded]

theorem shifted_effect {effect' : Decimal} (hx : shifted direction a effect = .ok x) (hy : shifted direction a effect' = .ok y)
    (hle : effect ≤ effect') : direction.Reaches x y := by
  have hvalue : effect.value ≤ effect'.value := hle
  cases direction with
  | maximize =>
    obtain rfl := add_ok hx
    obtain rfl := add_ok hy
    exact defaultContext.nearest_mono (by linarith)
  | minimize =>
    obtain rfl := sub_ok hx
    obtain rfl := sub_ok hy
    exact defaultContext.nearest_mono (by linarith)

/-- Asking for a larger effect makes nothing an improvement, and saves nothing from being
none, however the sums are rounded. -/
theorem larger_effect_stricter {incumbent candidate : EvaluationRecord} {effect' : Decimal} {record record' : ComparisonRecord}
    (h : compareEvaluations L incumbent candidate metric direction effect = .ok record)
    (h' : compareEvaluations L incumbent candidate metric direction effect' = .ok record') (hle : effect ≤ effect') :
    (record'.conclusion = .improved → record.conclusion = .improved) ∧
      (record.conclusion = .notImproved → record'.conclusion = .notImproved) := by
  obtain ⟨i, c, judgement, hi, hc, hjudged, -, -, hconclusion⟩ := compareEvaluations_ok h
  obtain ⟨i', c', judgement', hi', hc', hjudged', -, -, hconclusion'⟩ := compareEvaluations_ok h'
  obtain rfl : i = i' := Except.ok.inj (hi.symm.trans hi')
  obtain rfl : c = c' := Except.ok.inj (hc.symm.trans hc')
  obtain ⟨bound, point, hbound, hpoint, rfl⟩ := judged_ok hjudged
  obtain ⟨bound', point', hbound', hpoint', rfl⟩ := judged_ok hjudged'
  have hseparated := (shifted_effect hbound hbound' hle).trans (c := c.2.worse direction)
  have hreached := (shifted_effect hpoint hpoint' hle).trans (c := c.1)
  rw [hconclusion, hconclusion']
  by_cases hs : direction.Reaches bound' (c.2.worse direction)
  · simp [hs, hseparated hs, concluded]
  · by_cases hr : direction.Reaches point' c.1
    · by_cases hs' : direction.Reaches bound (c.2.worse direction) <;> simp [hs, hs', hr, hreached hr, concluded]
    · simp [hs, hr, concluded]

/-! ## Bounds that say something else -/

namespace Sample

def metrics {V : Type} (v : V) : Metrics V where
  entries := [("score", v)]
  distinct := by simp

def evaluation (value lower upper : Int) : EvaluationRecord where
  hardwareClass := "worker"
  trialRecords := [{ trialIndex := 0, seed := 1, metrics := metrics ⟨value, 0⟩ }]
  aggregateMetrics := metrics ⟨value, 0⟩
  uncertainty := metrics { lower := ⟨lower, 0⟩, upper := ⟨upper, 0⟩ }

def digest (c : String) : Scanned := .string ("sha256:" ++ String.join (List.replicate 64 c))

def score (v : Scanned) : Scanned := .object [("score", v)]

/-- The report of such an evaluation. -/
def report (candidateId value lower upper : String) : Scanned := .object [
  ("evaluation_id", .string ("evaluation-" ++ candidateId)), ("candidate_id", .string candidateId),
  ("evaluator_ref", .object [("component_id", .string "evaluator"), ("component_version", .string "1"),
    ("package_digest", digest "a"), ("capability_manifest_digest", digest "b")]),
  ("evaluator_tier", .string "admission"), ("evaluator_profile_digest", digest "c"),
  ("execution_image_digest", digest "d"), ("hardware_class", .string "worker"),
  ("input_artifact_digests", .array []),
  ("trial_records", .array [.object [("trial_index", .integer 0), ("seed", .integer 1),
    ("metrics", score (.string value)), ("workload_time_ms", .string "1"), ("sandbox_setup_time_ms", .string "0"),
    ("queue_time_ms", .string "0"), ("host_overhead_time_ms", .string "0")]]),
  ("aggregate_metrics", score (.string value)),
  ("uncertainty", score (.object [("method", .string "paired-bootstrap"), ("lower", .string lower),
    ("upper", .string upper), ("confidence_level", .string "0.95")])),
  ("constraints", .array []), ("outcome", .string "passed"), ("evidence_artifacts", .array []),
  ("started_at", .string "2026-01-01T00:00:00Z"), ("completed_at", .string "2026-01-01T00:00:00Z")]

mutual

def text : Scanned → List Char
  | .null => "null".toList
  | .bool b => (toString b).toList
  | .integer n => (toString n).toList
  | .decimal d => (toString d.coefficient).toList ++ 'e' :: (toString d.exponent).toList
  | .constant text => text.toList
  | .string s => Json.quoted s.toList
  | .array items => '[' :: itemsText items
  | .object pairs => '{' :: pairsText pairs

def itemsText : List Scanned → List Char
  | [] => [']']
  | [item] => text item ++ [']']
  | item :: items => text item ++ ',' :: itemsText items

def pairsText : List (String × Scanned) → List Char
  | [] => ['}']
  | [(key, value)] => Json.quoted key.toList ++ ':' :: text value ++ ['}']
  | (key, value) :: pairs => Json.quoted key.toList ++ ':' :: text value ++ ',' :: pairsText pairs

end

def payload (report : Scanned) : List UInt8 := (text report).map fun c => UInt8.ofNat c.toNat

/-- What the parser's libraries make of the reports of one incumbent and one candidate. -/
def library (incumbentReport candidateReport : Scanned) (incumbent candidate : EvaluationRecord) : Library where
  scan bytes := if bytes = payload incumbentReport then .ok incumbentReport else .ok candidateReport
  validate
    | .object members =>
      match members.lookup "candidate_id" with
      | some (.string "incumbent") => .ok incumbent
      | _ => .ok candidate
    | _ => .error "Input should be an object"
  strip metric := metric

/-- The candidate's aggregate is 0, and its bounds are 20 and 30. -/
def incumbentReport : Scanned := report "incumbent" "10" "9" "11"

def candidateReport : Scanned := report "candidate" "0" "20" "30"

def detached : Library := library incumbentReport candidateReport (evaluation 10 9 11) (evaluation 0 20 30)

/-- Both evaluations are 1, without any uncertainty. -/
def equalReport (candidateId : String) : Scanned := report candidateId "1" "1" "1"

def equal : Library := library (equalReport "incumbent") (equalReport "candidate") (evaluation 1 1 1) (evaluation 1 1 1)

set_option maxRecDepth 8000 in
/-- The four reports, parsed together. -/
theorem reports_parse :
    parseEvaluationReport detached (payload incumbentReport) 10000 {"score"} = .ok (evaluation 10 9 11) ∧
      parseEvaluationReport detached (payload candidateReport) 10000 {"score"} = .ok (evaluation 0 20 30) ∧
      parseEvaluationReport equal (payload (equalReport "incumbent")) 10000 {"score"} = .ok (evaluation 1 1 1) ∧
      parseEvaluationReport equal (payload (equalReport "candidate")) 10000 {"score"} = .ok (evaluation 1 1 1) := by
  decide +kernel

theorem add_of_context {a b s : Decimal} (h : defaultContext.add a b = some s) : add a b = .ok s := by
  delta add
  simp only [h]

@[simp] theorem value_whole (n : Int) : (⟨n, 0⟩ : Decimal).value = n := by
  simp [Decimal.value]

theorem thousand_lt : (1000 : ℚ) < 10 ^ (defaultContext.emax + 1) := by
  calc (1000 : ℚ) = 10 ^ (3 : Int) := by norm_num
    _ < 10 ^ (defaultContext.emax + 1) := zpow_lt_zpow_right₀ (by norm_num) (by decide)

theorem add_whole {a b : Int} (h : |a + b| < 1000) : ∃ s, add ⟨a, 0⟩ ⟨b, 0⟩ = .ok s ∧ s.value = a + b := by
  have hvalue : (defaultContext.nearest ((a : ℚ) + b)).value = a + b := by
    have hexact := defaultContext.nearest_exact (n := a + b) (m := 0) (h.trans (by decide)) (by decide)
    simpa using hexact
  have hround : defaultContext.add ⟨a, 0⟩ ⟨b, 0⟩ = some (defaultContext.nearest ((a : ℚ) + b)) := by
    rw [Context.add, value_whole, value_whole]
    refine Context.round_of_lt ?_
    rw [hvalue]
    exact lt_trans (by exact_mod_cast h) thousand_lt
  exact ⟨_, add_of_context hround, hvalue⟩

/-- An effect of the fortieth place is lost beside one. -/
def small : Decimal := ⟨1, -40⟩

theorem log_small : Int.log 10 |(1 : ℚ) + small.value| = 0 := by
  have hsmall : small.value = 1 / 10 ^ 40 := by norm_num [small, Decimal.value]
  rw [hsmall, abs_of_pos (by norm_num)]
  apply le_antisymm
  · have hlt : (1 : ℚ) + 1 / 10 ^ 40 < ((10 : Nat) : ℚ) ^ (1 : Int) := by norm_num
    exact Int.lt_add_one_iff.mp ((Int.lt_zpow_iff_log_lt (by norm_num) (by norm_num)).mp hlt)
  · have hle : ((10 : Nat) : ℚ) ^ (0 : Int) ≤ 1 + 1 / 10 ^ 40 := by norm_num
    exact (Int.zpow_le_iff_le_log (by norm_num) (by norm_num)).mp hle

theorem nearest_small : (defaultContext.nearest (1 + small.value)).value = 1 := by
  have he : defaultContext.exponent (1 + small.value) = -27 := by
    rw [Context.exponent, log_small]
    decide
  have hround : halfEven ((1 + small.value) / 10 ^ (-27 : Int)) = 10 ^ 27 := by
    have hsum : (1 + small.value) / 10 ^ (-27 : Int) = 10 ^ 27 + 1 / 10 ^ 13 := by norm_num [small, Decimal.value]
    have hfloor : ⌊(10 : ℚ) ^ 27 + 1 / 10 ^ 13⌋ = 10 ^ 27 := by
      rw [Int.floor_eq_iff]
      norm_num
    rw [hsum, halfEven, hfloor]
    norm_num
  change (halfEven ((1 + small.value) / 10 ^ defaultContext.exponent (1 + small.value)) : ℚ)
    * 10 ^ defaultContext.exponent (1 + small.value) = 1
  rw [he, hround]
  norm_num

theorem add_small : ∃ s, add ⟨1, 0⟩ small = .ok s ∧ s.value = 1 := by
  have hround : defaultContext.add ⟨1, 0⟩ small = some (defaultContext.nearest (1 + small.value)) := by
    rw [Context.add, value_whole, Int.cast_one]
    refine Context.round_of_lt ?_
    rw [nearest_small, abs_one]
    exact lt_trans (by norm_num) thousand_lt
  exact ⟨_, add_of_context hround, nearest_small⟩

theorem compare_score {L : Library} (hstrip : L.strip "score" = "score") {v l u v' l' u' : Int} {effect : Decimal}
    (heffect : 0 ≤ effect.value) {judgement : Bool × Bool}
    (hjudged : judged .maximize (⟨v, 0⟩, ⟨⟨l, 0⟩, ⟨u, 0⟩⟩) (⟨v', 0⟩, ⟨⟨l', 0⟩, ⟨u', 0⟩⟩) effect = .ok judgement) :
    ∃ record, compareEvaluations L (evaluation v l u) (evaluation v' l' u') "score" .maximize effect = .ok record ∧
      record.incumbentValue = ⟨v, 0⟩ ∧ record.candidateValue = ⟨v', 0⟩ ∧ record.conclusion = concluded judgement := by
  have hmeasured : ∀ v l u : Int, measured (evaluation v l u) "score" = .ok (⟨v, 0⟩, ⟨⟨l, 0⟩, ⟨u, 0⟩⟩) := by
    intro v l u
    simp [measured, evaluation, metrics, Metrics.get?]
  refine ⟨⟨L.strip "score", .maximize, ⟨v, 0⟩, ⟨v', 0⟩, effect, concluded judgement, by simp [hstrip]⟩, ?_, rfl, rfl, rfl⟩
  simp only [compareEvaluations, bind_ok, require_ok, exists_const]
  refine ⟨heffect, rfl, ⟨List.cons_ne_nil _ _, rfl⟩, _, hmeasured v l u, _, hmeasured v' l' u', judgement, hjudged, ?_⟩
  rw [dif_pos (by simp [hstrip])]

end Sample

theorem larger_effect_stricter_one : ∃ record record',
    compareEvaluations Sample.detached (Sample.evaluation 10 9 11) (Sample.evaluation 0 20 30) "score" .maximize ⟨0, 0⟩
        = .ok record ∧
      compareEvaluations Sample.detached (Sample.evaluation 10 9 11) (Sample.evaluation 0 20 30) "score" .maximize ⟨1, 0⟩
        = .ok record' ∧
      (record'.conclusion = .improved → record.conclusion = .improved) := by
  have hrecord : ∀ n : Nat, n < 2 → ∃ record, compareEvaluations Sample.detached (Sample.evaluation 10 9 11)
      (Sample.evaluation 0 20 30) "score" .maximize ⟨n, 0⟩ = .ok record := by
    intro n hn
    obtain ⟨bound, hbound, -⟩ := Sample.add_whole (a := 11) (b := n) (abs_lt.mpr (by omega))
    obtain ⟨point, hpoint, -⟩ := Sample.add_whole (a := 10) (b := n) (abs_lt.mpr (by omega))
    have hjudged : judged .maximize (⟨10, 0⟩, ⟨⟨9, 0⟩, ⟨11, 0⟩⟩) (⟨0, 0⟩, ⟨⟨20, 0⟩, ⟨30, 0⟩⟩) ⟨n, 0⟩
        = .ok (decide (bound ≤ (⟨20, 0⟩ : Decimal)), decide (point ≤ (⟨0, 0⟩ : Decimal))) := by
      simp [judged, hbound, hpoint]
    obtain ⟨record, hrecord, -⟩ := Sample.compare_score (L := Sample.detached) rfl (by simp) hjudged
    exact ⟨record, hrecord⟩
  obtain ⟨record, h⟩ := hrecord 0 (by decide)
  obtain ⟨record', h'⟩ := hrecord 1 (by decide)
  exact ⟨record, record', h, h', (larger_effect_stricter h h' (by rw [Decimal.le_def]; norm_num [Decimal.value])).1⟩

/-- The reports of two equal evaluations are consistent with any conclusion about them. -/
theorem comparison_consistent_equal :
    ∃ i c, measured (Sample.evaluation 1 1 1) "score" = .ok i ∧ measured (Sample.evaluation 1 1 1) "score" = .ok c ∧
      ∀ record, compareEvaluations Sample.equal (Sample.evaluation 1 1 1) (Sample.evaluation 1 1 1) "score" .maximize
          Sample.small = .ok record →
        record.incumbentValue = i.1 ∧ record.candidateValue = c.1 ∧
        (Bounded .maximize i c →
          (record.conclusion = .improved → PointImproved .maximize i.1 c.1 Sample.small) ∧
          (record.conclusion = .notImproved ↔ ¬ PointImproved .maximize i.1 c.1 Sample.small) ∧
          (record.conclusion = .improved → Exact .maximize (i.2.better .maximize) Sample.small →
            Direction.maximize.Improves i.1 c.1 Sample.small)) :=
  comparison_consistent Sample.reports_parse.2.2.1 Sample.reports_parse.2.2.2 (Finset.mem_singleton_self _)
    (Finset.mem_singleton_self _) .maximize Sample.small

/-- A candidate of value 0 with bounds 20 and 30 improves an incumbent of value 10; and one
that equals the incumbent improves it by an effect that is lost in the sum. -/
theorem improved_without_improvement :
    (parseEvaluationReport Sample.detached (Sample.payload Sample.incumbentReport) 10000 {"score"}
        = .ok (Sample.evaluation 10 9 11) ∧
      parseEvaluationReport Sample.detached (Sample.payload Sample.candidateReport) 10000 {"score"}
        = .ok (Sample.evaluation 0 20 30) ∧
      ∃ record, compareEvaluations Sample.detached (Sample.evaluation 10 9 11) (Sample.evaluation 0 20 30) "score" .maximize
          ⟨1, 0⟩ = .ok record ∧ record.conclusion = .improved ∧
        ¬ Direction.maximize.Improves record.incumbentValue record.candidateValue ⟨1, 0⟩) ∧
    (parseEvaluationReport Sample.equal (Sample.payload (Sample.equalReport "incumbent")) 10000 {"score"}
        = .ok (Sample.evaluation 1 1 1) ∧
      parseEvaluationReport Sample.equal (Sample.payload (Sample.equalReport "candidate")) 10000 {"score"}
        = .ok (Sample.evaluation 1 1 1) ∧
      ∃ record, compareEvaluations Sample.equal (Sample.evaluation 1 1 1) (Sample.evaluation 1 1 1) "score" .maximize
          Sample.small = .ok record ∧ record.conclusion = .improved ∧
        ¬ Direction.maximize.Improves record.incumbentValue record.candidateValue Sample.small) := by
  obtain ⟨hincumbent, hcandidate, hequal, hequal'⟩ := Sample.reports_parse
  refine ⟨⟨hincumbent, hcandidate, ?_⟩, ⟨hequal, hequal', ?_⟩⟩
  · obtain ⟨bound, hbound, hvalue⟩ := Sample.add_whole (a := 11) (b := 1) (by decide)
    obtain ⟨point, hpoint, hvalue'⟩ := Sample.add_whole (a := 10) (b := 1) (by decide)
    have hle : bound ≤ (⟨20, 0⟩ : Decimal) := by
      rw [Decimal.le_def, hvalue]
      norm_num
    have hjudged : judged .maximize (⟨10, 0⟩, ⟨⟨9, 0⟩, ⟨11, 0⟩⟩) (⟨0, 0⟩, ⟨⟨20, 0⟩, ⟨30, 0⟩⟩) ⟨1, 0⟩
        = .ok (true, decide (point ≤ (⟨0, 0⟩ : Decimal))) := by
      simp [judged, hbound, hpoint, hle]
    obtain ⟨record, hrecord, hincumbent, hcandidate, hconclusion⟩ :=
      Sample.compare_score (L := Sample.detached) rfl (by norm_num) hjudged
    refine ⟨record, hrecord, hconclusion, ?_⟩
    rw [hincumbent, hcandidate]
    norm_num [Direction.Improves]
  · obtain ⟨bound, hbound, hvalue⟩ := Sample.add_small
    have hle : bound ≤ (⟨1, 0⟩ : Decimal) := by
      rw [Decimal.le_def, hvalue]
      norm_num
    have hjudged : judged .maximize (⟨1, 0⟩, ⟨⟨1, 0⟩, ⟨1, 0⟩⟩) (⟨1, 0⟩, ⟨⟨1, 0⟩, ⟨1, 0⟩⟩) Sample.small
        = .ok (true, true) := by
      simp [judged, hbound, hle]
    have hsmall : 0 < Sample.small.value := by norm_num [Sample.small, Decimal.value]
    obtain ⟨record, hrecord, hincumbent, hcandidate, hconclusion⟩ :=
      Sample.compare_score (L := Sample.equal) rfl hsmall.le hjudged
    refine ⟨record, hrecord, hconclusion, ?_⟩
    rw [hincumbent, hcandidate]
    simp only [Direction.Improves]
    linarith

end AvoCorrelate.Comparison
