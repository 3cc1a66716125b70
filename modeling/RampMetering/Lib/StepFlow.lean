import RampMetering.Lib.Prorate
import Mathlib.MeasureTheory.Integral.IntervalIntegral.Basic
import Mathlib.Data.Rat.Cast.Order

/-! Flows that are constant between given times. Samples that lie a nominal interval apart
are what such a flow brings in: the amount counted since a time is its integral from then on. -/

namespace RampMetering.StepFlow
open MeasureTheory Set Prorate

/-- The flow with `rate 0` up to `time 0`, `rate (i + 1)` from `time i` to `time (i + 1)` and
the last rate from then on. -/
noncomputable def stepFlow (time rate : ℕ → ℝ) : ℕ → ℝ → ℝ
  | 0, _ => rate 0
  | n + 1, x => if x ≤ time n then stepFlow time rate n x else rate (n + 1)

section flow

variable {time rate : ℕ → ℝ}

theorem stepFlow_before (ordered : Monotone time) (n : ℕ) {x : ℝ} (before : x ≤ time 0) :
    stepFlow time rate n x = rate 0 := by
  induction n with
  | zero => rfl
  | succ n ih => rw [stepFlow, if_pos (before.trans (ordered n.zero_le)), ih]

theorem stepFlow_after {n : ℕ} {x : ℝ} (after : time n < x) :
    stepFlow time rate (n + 1) x = rate (n + 1) := by
  rw [stepFlow, if_neg (not_le.mpr after)]

theorem stepFlow_between (ordered : Monotone time) {i n : ℕ} (below : i < n) {x : ℝ}
    (after : time i < x) (upto : x ≤ time (i + 1)) : stepFlow time rate n x = rate (i + 1) := by
  induction n, below using Nat.le_induction with
  | base => exact stepFlow_after after
  | succ n below ih => rw [stepFlow, if_pos (upto.trans (ordered below)), ih]

end flow

section piece

variable {flow : ℝ → ℝ} {a b c : ℝ}

theorem integrable_of_level (before : a ≤ b) (level : ∀ x, a < x → x ≤ b → flow x = c) :
    IntervalIntegrable flow volume a b := by
  refine (intervalIntegrable_congr fun x inside => ?_).mpr
    (intervalIntegrable_const (c := c))
  rw [uIoc_of_le before] at inside
  exact level x inside.1 inside.2

theorem integral_of_level (before : a ≤ b) (level : ∀ x, a < x → x ≤ b → flow x = c) :
    ∫ x in a..b, flow x = (b - a) * c := by
  have same : ∫ x in a..b, flow x = ∫ _ in a..b, c := by
    refine intervalIntegral.integral_congr_ae (Filter.Eventually.of_forall fun x inside => ?_)
    rw [uIoc_of_le before] at inside
    exact level x inside.1 inside.2
  rw [same, intervalIntegral.integral_const, smul_eq_mul]

end piece

section amount

variable {interval tol t : ℝ} {time vol : ℕ → ℝ} {flow : ℝ → ℝ} {n : ℕ}

structure Brings (interval : ℝ) (time vol : ℕ → ℝ) (n : ℕ) (flow : ℝ → ℝ) : Prop where
  oldest : ∀ x ≤ time 0, flow x = vol 0 / interval
  newer : ∀ i < n, ∀ x, time i < x → x ≤ time (i + 1) → flow x = vol (i + 1) / interval

theorem Brings.older (brings : Brings interval time vol (n + 1) flow) :
    Brings interval time vol n flow :=
  ⟨brings.oldest, fun i below => brings.newer i (by omega)⟩

theorem share_eq_integral (i : ℕ) (reach : t ≤ time i)
    (level : ∀ x, t < x → x ≤ time i → flow x = vol i / interval) :
    share interval time vol t i = ∫ x in t..time i, flow x := by
  rw [integral_of_level reach level, share, max_eq_right (sub_nonneg.mpr reach),
    div_mul_eq_mul_div, mul_div_assoc]

theorem amount_eq_integral (long : 0 < interval) (tolerant : 0 ≤ tol)
    (even : ∀ i < n, time (i + 1) - time i = interval)
    (clear : ∀ i ≤ n, t - tol ≤ time i → t ≤ time i)
    (brings : Brings interval time vol n flow) (reach : t ≤ time n) :
    IntervalIntegrable flow volume t (time n) ∧
      amount interval tol time vol t n = ∫ x in t..time n, flow x := by
  induction n with
  | zero =>
    have level : ∀ x, t < x → x ≤ time 0 → flow x = vol 0 / interval :=
      fun x _ upto => brings.oldest x upto
    refine ⟨integrable_of_level reach level, ?_⟩
    rw [amount, if_pos ((sub_le_self t tolerant).trans reach)]
    exact share_eq_integral 0 reach level
  | succ n ih =>
    have gap := even n (by omega)
    have level := brings.newer n (by omega)
    rw [amount, if_pos ((sub_le_self t tolerant).trans reach)]
    by_cases whole : t ≤ time n
    · -- the window starts before the interval of this sample
      obtain ⟨integrable, counted⟩ := ih (fun i below => even i (by omega))
        (fun i below => clear i (by omega)) brings.older whole
      have next : time n ≤ time (n + 1) := by linarith
      have piece := integrable_of_level next level
      refine ⟨integrable.trans piece, ?_⟩
      rw [if_pos ((sub_le_self t tolerant).trans whole), counted,
        ← intervalIntegral.integral_add_adjacent_intervals integrable piece,
        integral_of_level next level, gap, mul_div_cancel₀ _ long.ne', add_comm]
    · -- it starts within that interval
      have started : ∀ x, t < x → x ≤ time (n + 1) → flow x = vol (n + 1) / interval :=
        fun x after => level x ((not_le.mp whole).trans after)
      have outside : ¬t - tol ≤ time n := fun inside => whole (clear n (by omega) inside)
      refine ⟨integrable_of_level reach started, ?_⟩
      rw [if_neg outside, amount_of_outside outside, add_zero]
      exact share_eq_integral (n + 1) reach started

end amount

theorem cast_amount (interval tol t : ℚ) (time vol : ℕ → ℚ) (n : ℕ) :
    ((amount interval tol time vol t n : ℚ) : ℝ) =
      amount (interval : ℝ) tol (fun i => (time i : ℝ)) (fun i => (vol i : ℝ)) t n := by
  have early : ∀ i, ((t : ℝ) - tol ≤ time i) ↔ t - tol ≤ time i := by
    intro i
    rw [← Rat.cast_sub, Rat.cast_le]
  induction n with
  | zero =>
    simp only [amount, share, early]
    split_ifs <;> push_cast <;> rfl
  | succ n ih =>
    simp only [amount, share, early, ← ih]
    split_ifs <;> push_cast <;> rfl

end RampMetering.StepFlow
