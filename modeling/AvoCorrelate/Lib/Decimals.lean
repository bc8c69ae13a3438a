import Mathlib.Data.Int.Log
import Mathlib.Data.Rat.Floor
import Mathlib.Tactic.Linarith
import Mathlib.Tactic.FieldSimp
import Mathlib.Tactic.Positivity
/-!
# Decimal arithmetic with a fixed precision

A decimal is an integer times a power of ten. The result of an operation is rounded to a
context: at most `precision` digits, to the nearest and half to even, gradually down to
nothing and an error beyond the largest exponent. Rounding keeps the order
(`Context.nearest_mono`) and leaves alone what has few enough digits
(`Context.nearest_exact`).
-/
namespace AvoLib

structure Decimal where
  coefficient : Int
  exponent : Int
  deriving DecidableEq

def Decimal.value (d : Decimal) : ℚ := d.coefficient * 10 ^ d.exponent

/-- Decimals are compared as numbers. -/
instance : Preorder Decimal := Preorder.lift Decimal.value

instance : DecidableLE Decimal := fun a b => inferInstanceAs (Decidable (a.value ≤ b.value))

theorem Decimal.le_def {a b : Decimal} : a ≤ b ↔ a.value ≤ b.value := Iff.rfl

/-! ## The nearest integer -/

/-- The nearest integer, and the even one of two. -/
def halfEven (x : ℚ) : Int :=
  if x - ⌊x⌋ < 1 / 2 ∨ (x - ⌊x⌋ = 1 / 2 ∧ ⌊x⌋ % 2 = 0) then ⌊x⌋ else ⌊x⌋ + 1

theorem floor_le_halfEven (x : ℚ) : ⌊x⌋ ≤ halfEven x := by
  unfold halfEven
  split
  · exact le_refl _
  · exact (lt_add_one _).le

theorem halfEven_le_floor_succ (x : ℚ) : halfEven x ≤ ⌊x⌋ + 1 := by
  unfold halfEven
  split
  · exact (lt_add_one _).le
  · exact le_refl _

@[simp] theorem halfEven_intCast (n : Int) : halfEven n = n := by
  simp [halfEven]

variable {x y : ℚ} {m : Int}

theorem halfEven_mono (h : x ≤ y) : halfEven x ≤ halfEven y := by
  rcases (Int.floor_mono h).lt_or_eq with hlt | heq
  · calc halfEven x ≤ ⌊x⌋ + 1 := halfEven_le_floor_succ x
      _ ≤ ⌊y⌋ := hlt
      _ ≤ halfEven y := floor_le_halfEven y
  · unfold halfEven
    rw [heq]
    split
    · split
      · exact le_refl _
      · exact (lt_add_one _).le
    · next hx =>
      -- what is left of `y` is not less
      have hy : ¬ (y - ⌊y⌋ < 1 / 2 ∨ (y - ⌊y⌋ = 1 / 2 ∧ ⌊y⌋ % 2 = 0)) := by
        rintro (hy | ⟨hy, heven⟩)
        · exact hx (.inl (by linarith))
        · rcases lt_or_eq_of_le (show x - ⌊y⌋ ≤ 1 / 2 by linarith) with hlt | heq'
          · exact hx (.inl hlt)
          · exact hx (.inr ⟨heq', heven⟩)
      rw [if_neg hy]

theorem halfEven_neg (x : ℚ) : halfEven (-x) = - halfEven x := by
  by_cases hint : x = ⌊x⌋
  · rw [hint, ← Int.cast_neg, halfEven_intCast, halfEven_intCast]
  · have hfloor : ⌊-x⌋ = - ⌊x⌋ - 1 := by
      rw [Int.floor_neg]
      have hceil : ⌈x⌉ = ⌊x⌋ + 1 := by
        rw [Int.ceil_eq_iff]
        have hlt : (⌊x⌋ : ℚ) < x := lt_of_le_of_ne (Int.floor_le x) (Ne.symm hint)
        have hle := (Int.lt_floor_add_one x).le
        push_cast
        exact ⟨by linarith, hle⟩
      omega
    unfold halfEven
    rw [hfloor]
    push_cast
    by_cases hlt : x - ⌊x⌋ < 1 / 2
    · have h1 : ¬ (-x - (-(⌊x⌋ : ℚ) - 1) < 1 / 2 ∨ (-x - (-(⌊x⌋ : ℚ) - 1) = 1 / 2 ∧ (-⌊x⌋ - 1) % 2 = 0)) := by
        rintro (h | ⟨h, -⟩) <;> linarith
      rw [if_neg h1, if_pos (.inl hlt)]
      omega
    · by_cases heq : x - ⌊x⌋ = 1 / 2
      · have hhalf : -x - (-(⌊x⌋ : ℚ) - 1) = 1 / 2 := by linarith
        simp only [hhalf, heq, lt_irrefl, true_and, false_or]
        split <;> split <;> omega
      · have hgt : 1 / 2 < x - ⌊x⌋ := lt_of_le_of_ne (not_lt.mp hlt) (Ne.symm heq)
        have h1 : -x - (-(⌊x⌋ : ℚ) - 1) < 1 / 2 := by linarith
        have h2 : ¬ (x - ⌊x⌋ < 1 / 2 ∨ (x - ⌊x⌋ = 1 / 2 ∧ ⌊x⌋ % 2 = 0)) := by
          rintro (h | ⟨h, -⟩)
          · exact hlt h
          · exact heq h
        rw [if_pos (.inl h1), if_neg h2]
        omega

/-! ## Rounding to a context -/

structure Context where
  precision : Nat
  emin : Int
  emax : Int
  positive : 0 < precision

/-- The exponent of the last digit at the smallest. -/
def Context.etiny (c : Context) : Int := c.emin - (c.precision - 1)

/-- The exponent of the last digit of a result. -/
def Context.exponent (c : Context) (x : ℚ) : Int := max (Int.log 10 |x| + 1 - c.precision) c.etiny

def Context.nearest (c : Context) (x : ℚ) : Decimal where
  coefficient := halfEven (x / 10 ^ c.exponent x)
  exponent := c.exponent x

/-- The result of an operation, or none when it overflows. -/
def Context.round (c : Context) (x : ℚ) : Option Decimal :=
  if 10 ^ (c.emax + 1) ≤ |(c.nearest x).value| then none else some (c.nearest x)

def Context.add (c : Context) (a b : Decimal) : Option Decimal := c.round (a.value + b.value)

def Context.sub (c : Context) (a b : Decimal) : Option Decimal := c.round (a.value - b.value)

theorem ten_zpow_pos (e : Int) : (0 : ℚ) < 10 ^ e := zpow_pos (by norm_num) e

theorem zpow_div_eq_intCast {e : Int} (h : e ≤ m) : (10 : ℚ) ^ m / 10 ^ e = ((10 ^ (m - e).toNat : Int) : ℚ) := by
  rw [← zpow_sub₀ (by norm_num)]
  obtain ⟨k, hk⟩ := Int.eq_ofNat_of_zero_le (Int.sub_nonneg_of_le h)
  rw [hk]
  simp

theorem Context.nearest_neg (c : Context) (x : ℚ) : (c.nearest (-x)).value = - (c.nearest x).value := by
  simp only [Decimal.value, Context.nearest, Context.exponent, abs_neg, neg_div, halfEven_neg, Int.cast_neg, neg_mul]

theorem Context.nearest_le (c : Context) (hm : c.exponent x ≤ m) (hx : x ≤ 10 ^ m) : (c.nearest x).value ≤ 10 ^ m := by
  have hpos := ten_zpow_pos (c.exponent x)
  have hround : halfEven (x / 10 ^ c.exponent x) ≤ 10 ^ (m - c.exponent x).toNat := by
    rw [← halfEven_intCast (10 ^ _), ← zpow_div_eq_intCast hm]
    exact halfEven_mono (by gcongr)
  calc (c.nearest x).value = (halfEven (x / 10 ^ c.exponent x) : ℚ) * 10 ^ c.exponent x := rfl
    _ ≤ ((10 ^ (m - c.exponent x).toNat : Int) : ℚ) * 10 ^ c.exponent x := by gcongr
    _ = 10 ^ m := by rw [← zpow_div_eq_intCast hm, div_mul_cancel₀ _ hpos.ne']

theorem Context.le_nearest (c : Context) (hm : c.exponent x ≤ m) (hx : 10 ^ m ≤ x) : 10 ^ m ≤ (c.nearest x).value := by
  have hpos := ten_zpow_pos (c.exponent x)
  have hround : 10 ^ (m - c.exponent x).toNat ≤ halfEven (x / 10 ^ c.exponent x) := by
    rw [← halfEven_intCast (10 ^ _), ← zpow_div_eq_intCast hm]
    exact halfEven_mono (by gcongr)
  calc (10 : ℚ) ^ m = ((10 ^ (m - c.exponent x).toNat : Int) : ℚ) * 10 ^ c.exponent x := by
        rw [← zpow_div_eq_intCast hm, div_mul_cancel₀ _ hpos.ne']
    _ ≤ (halfEven (x / 10 ^ c.exponent x) : ℚ) * 10 ^ c.exponent x := by gcongr
    _ = (c.nearest x).value := rfl

theorem Context.nearest_nonneg (c : Context) (hx : 0 ≤ x) : 0 ≤ (c.nearest x).value := by
  have hpos := ten_zpow_pos (c.exponent x)
  have hround : (0 : Int) ≤ halfEven (x / 10 ^ c.exponent x) := by
    rw [← halfEven_intCast 0]
    exact halfEven_mono (by simp only [Int.cast_zero]; positivity)
  exact mul_nonneg (by exact_mod_cast hround) hpos.le

theorem Context.nearest_mono_pos (c : Context) (hx : 0 < x) (h : x ≤ y) :
    (c.nearest x).value ≤ (c.nearest y).value := by
  have hlog : Int.log 10 x ≤ Int.log 10 y := Int.log_mono_right hx h
  have hex : c.exponent x = max (Int.log 10 x + 1 - c.precision) c.etiny := by rw [Context.exponent, abs_of_pos hx]
  have hey : c.exponent y = max (Int.log 10 y + 1 - c.precision) c.etiny := by
    rw [Context.exponent, abs_of_pos (hx.trans_le h)]
  have hp := c.positive
  by_cases he : c.exponent x = c.exponent y
  · have hpos := ten_zpow_pos (c.exponent y)
    have hround : halfEven (x / 10 ^ c.exponent y) ≤ halfEven (y / 10 ^ c.exponent y) := halfEven_mono (by gcongr)
    simp only [Decimal.value, Context.nearest, he]
    gcongr
  · -- the power of ten that begins `y` lies between
    have hbetween : Int.log 10 x + 1 ≤ Int.log 10 y := by
      by_contra hn
      exact he (by rw [hex, hey, show Int.log 10 x = Int.log 10 y by omega])
    have hleft : c.exponent x ≤ Int.log 10 y := by omega
    have hright : c.exponent y ≤ Int.log 10 y := by omega
    calc (c.nearest x).value ≤ 10 ^ Int.log 10 y := by
          refine c.nearest_le hleft ?_
          calc x ≤ ((10 : Nat) : ℚ) ^ (Int.log 10 x + 1) := (Int.lt_zpow_succ_log_self (by norm_num) x).le
            _ ≤ 10 ^ Int.log 10 y := by
              rw [Nat.cast_ofNat]
              exact zpow_le_zpow_right₀ (by norm_num) hbetween
      _ ≤ (c.nearest y).value := by
          refine c.le_nearest hright ?_
          have hself := Int.zpow_log_le_self (b := 10) (by norm_num) (hx.trans_le h)
          rwa [Nat.cast_ofNat] at hself

theorem Context.nearest_mono (c : Context) (h : x ≤ y) : (c.nearest x).value ≤ (c.nearest y).value := by
  rcases lt_or_ge 0 x with hx | hx
  · exact c.nearest_mono_pos hx h
  · have hxneg : (c.nearest x).value ≤ 0 := by
      have hneg := c.nearest_nonneg (neg_nonneg.mpr hx)
      rw [c.nearest_neg] at hneg
      linarith
    rcases lt_or_ge y 0 with hy | hy
    · have hneg := c.nearest_mono_pos (neg_pos.mpr hy) (neg_le_neg h)
      rw [c.nearest_neg, c.nearest_neg] at hneg
      linarith
    · exact hxneg.trans (c.nearest_nonneg hy)

theorem Context.nearest_exact (c : Context) {n : Int} (hn : |n| < 10 ^ c.precision) (hm : c.etiny ≤ m) :
    (c.nearest (n * 10 ^ m)).value = n * 10 ^ m := by
  by_cases hzero : n = 0
  · simp [hzero, Context.nearest, Decimal.value, halfEven]
  · have hpos : (0 : ℚ) < |(n : ℚ) * 10 ^ m| := by
      have hm := ten_zpow_pos m
      have hn : (n : ℚ) ≠ 0 := by exact_mod_cast hzero
      positivity
    have hlog : Int.log 10 |(n : ℚ) * 10 ^ m| < c.precision + m := by
      rw [← Int.lt_zpow_iff_log_lt (by norm_num) hpos, abs_mul, abs_of_pos (ten_zpow_pos m), Nat.cast_ofNat,
        zpow_add₀ (by norm_num)]
      have hn' : |(n : ℚ)| < 10 ^ (c.precision : Int) := by
        rw [zpow_natCast]
        exact_mod_cast hn
      exact mul_lt_mul_of_pos_right hn' (ten_zpow_pos m)
    have he : c.exponent (n * 10 ^ m) ≤ m := by
      unfold Context.exponent
      omega
    have hpe := ten_zpow_pos (c.exponent (n * 10 ^ m))
    have hint : (n : ℚ) * 10 ^ m / 10 ^ c.exponent (n * 10 ^ m)
        = ((n * 10 ^ (m - c.exponent (n * 10 ^ m)).toNat : Int) : ℚ) := by
      rw [mul_div_assoc, zpow_div_eq_intCast he]
      push_cast
      rfl
    calc (c.nearest (n * 10 ^ m)).value
        = (halfEven ((n : ℚ) * 10 ^ m / 10 ^ c.exponent (n * 10 ^ m)) : ℚ) * 10 ^ c.exponent (n * 10 ^ m) := rfl
      _ = (n : ℚ) * 10 ^ m / 10 ^ c.exponent (n * 10 ^ m) * 10 ^ c.exponent (n * 10 ^ m) := by
          rw [hint, halfEven_intCast]
      _ = n * 10 ^ m := div_mul_cancel₀ _ hpe.ne'

theorem Context.round_of_lt {c : Context} (h : |(c.nearest x).value| < 10 ^ (c.emax + 1)) :
    c.round x = some (c.nearest x) :=
  if_neg (not_le.mpr h)

end AvoLib
