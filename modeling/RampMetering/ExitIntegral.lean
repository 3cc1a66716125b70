import RampMetering.ExitVolume
import RampMetering.Lib.StepFlow

/-! The ramp exit volume as the integral of a flow. With samples `RAMP_DATA_INTERVAL` apart
each row stands for the interval that ends at its time; the loop counts what flows in the window
when each row's vehicles leave evenly over its interval. -/

namespace RampMetering
open MeasureTheory Prorate StepFlow

def EvenlySpaced (r : RampVariables) : Prop :=
  ∀ p : Fin 5, r.dataTime p.succ - r.dataTime p.castSucc = rampDataInterval

/-- `flow` is the flow off the ramp: that of each row during its interval, that of the newest row
after it and that of the oldest row before its interval. -/
structure ExitFlow (r : RampVariables) (flow : ℝ → ℝ) : Prop where
  during : ∀ i (x : ℝ), r.dataTime i - rampDataInterval < x → x ≤ r.dataTime i →
    flow x = totalPassageVol r i / rampDataInterval
  after : ∀ x : ℝ, r.dataTime newest < x → flow x = totalPassageVol r newest / rampDataInterval
  before : ∀ x : ℝ, x ≤ r.dataTime 0 - rampDataInterval →
    flow x = totalPassageVol r 0 / rampDataInterval

noncomputable def exitFlow (r : RampVariables) : ℝ → ℝ :=
  stepFlow (fun i => sampleTime r i) (fun i => sampleVol r i / rampDataInterval)
    (numberRampData - 1)

section even

variable {r : RampVariables} (even : EvenlySpaced r)

include even

theorem sampleTime_succ {i : ℕ} (below : i < numberRampData - 1) :
    sampleTime r (i + 1) - sampleTime r i = rampDataInterval := by
  have room : i + 1 < numberRampData := Nat.add_lt_of_lt_sub below
  rw [sampleTime, sampleTime, exitRow_eq room, exitRow_eq (Nat.lt_of_succ_lt room)]
  exact even ⟨i, below⟩

theorem sampleTime_ordered : Monotone (sampleTime r) := by
  refine monotone_nat_of_le_succ fun i => ?_
  rcases lt_or_ge i (numberRampData - 1) with below | above
  · have gap := sampleTime_succ even below
    linarith [rampDataInterval_pos]
  · have same : exitRow (i + 1) = exitRow i :=
      Fin.ext ((min_eq_right (Nat.le_succ_of_le above)).trans (min_eq_right above).symm)
    rw [sampleTime, sampleTime, same]

theorem dataTime_le_newest (i : Fin numberRampData) : r.dataTime i ≤ r.dataTime newest := by
  have ordered := sampleTime_ordered even (Nat.le_of_lt_succ i.isLt)
  rw [sampleTime, sampleTime, exitRow_eq i.isLt] at ordered
  exact ordered

theorem sampleTime_gap {i : ℕ} (below : i < numberRampData - 1) :
    (sampleTime r (i + 1) : ℝ) - sampleTime r i = rampDataInterval := by
  rw [← Rat.cast_sub, sampleTime_succ even below]

theorem exitFlow_exitFlow : ExitFlow r (exitFlow r) := by
  have ordered : Monotone fun i => (sampleTime r i : ℝ) :=
    fun i j before => Rat.cast_le.mpr (sampleTime_ordered even before)
  have long : (0 : ℝ) < rampDataInterval := Rat.cast_pos.mpr rampDataInterval_pos
  constructor
  · rintro ⟨i, hi⟩ x after upto
    cases i with
    | zero => exact stepFlow_before ordered (numberRampData - 1) upto
    | succ i =>
      have below : i < numberRampData - 1 := Nat.lt_sub_of_add_lt hi
      have gap := sampleTime_gap even below
      have row : exitRow (i + 1) = ⟨i + 1, hi⟩ := exitRow_eq hi
      rw [exitFlow, stepFlow_between ordered below]
      · rw [sampleVol, row]
      · rw [sampleTime, row] at gap
        linarith
      · rwa [sampleTime, row]
  · intro x after
    have earlier := sampleTime_ordered even (Nat.le_succ (numberRampData - 2))
    exact stepFlow_after ((Rat.cast_le.mpr earlier).trans_lt after)
  · intro x early
    exact stepFlow_before ordered (numberRampData - 1) (early.trans (sub_le_self _ long.le))

theorem ExitFlow.brings {flow : ℝ → ℝ} (exit : ExitFlow r flow) :
    Brings rampDataInterval (fun i => (sampleTime r i : ℝ)) (fun i => (sampleVol r i : ℝ))
      (numberRampData - 1) flow := by
  constructor
  · intro x upto
    rcases le_or_gt x (r.dataTime 0 - rampDataInterval) with early | inside
    · exact exit.before x early
    · exact exit.during 0 x inside upto
  · intro i below x after upto
    have room : i + 1 < numberRampData := Nat.add_lt_of_lt_sub below
    have gap := sampleTime_gap even below
    rw [sampleTime, exitRow_eq room] at gap upto
    rw [sampleVol, exitRow_eq room]
    refine exit.during ⟨i + 1, room⟩ x ?_ upto
    linarith

variable {t1 t2 : ℚ} (nonneg : ∀ i lane, 0 ≤ r.passageVol i lane)
  (start : t1 ≤ r.dataTime newest) (stop : r.dataTime newest ≤ t2)
  (clear : ∀ i, ¬(t1 - eps ≤ r.dataTime i ∧ r.dataTime i < t1))

include nonneg start stop clear

theorem getRampExitVol_of_exitFlow {flow : ℝ → ℝ} (exit : ExitFlow r flow) :
    (getRampExitVol r t1 t2 : ℝ) = rampExitFlowAdjustFactor * ∫ x in (t1 : ℝ)..t2, flow x := by
  have reach : (t1 : ℝ) ≤ sampleTime r (numberRampData - 1) := Rat.cast_le.mpr start
  have last : ((sampleTime r (numberRampData - 1) : ℚ) : ℝ) ≤ t2 := Rat.cast_le.mpr stop
  have rows : ∀ i ≤ numberRampData - 1,
      (t1 : ℝ) - eps ≤ sampleTime r i → (t1 : ℝ) ≤ sampleTime r i := by
    intro i _ inside
    have inside : t1 - eps ≤ sampleTime r i := by exact_mod_cast inside
    exact Rat.cast_le.mpr (not_lt.mp fun past => clear (exitRow i) ⟨inside, past⟩)
  have level : ∀ x : ℝ, sampleTime r (numberRampData - 1) < x → x ≤ t2 →
      flow x = totalPassageVol r newest / rampDataInterval := fun x past _ => exit.after x past
  obtain ⟨integrable, counted⟩ := amount_eq_integral (Rat.cast_pos.mpr rampDataInterval_pos)
    (Rat.cast_nonneg.mpr eps_nonneg) (fun i below => sampleTime_gap even below) rows
    (exit.brings even) reach
  have tail : (afterNewest r t1 t2 : ℝ) =
      ∫ x in (sampleTime r (numberRampData - 1) : ℝ)..t2, flow x := by
    rw [integral_of_level last level, afterNewest, if_pos ((sub_le_self t1 eps_nonneg).trans start),
      max_eq_right (sub_nonneg.mpr stop)]
    push_cast
    exact div_mul_eq_mul_div _ _ _ |>.trans (mul_div_assoc _ _ _)
  rw [getRampExitVol_eq (fun i => (dataTime_le_newest even i).trans stop) nonneg]
  push_cast
  rw [cast_amount, counted, tail, mul_comm, add_comm,
    intervalIntegral.integral_add_adjacent_intervals integrable (integrable_of_level last level)]

theorem getRampExitVol_eq_integral :
    ExitFlow r (exitFlow r) ∧ (getRampExitVol r t1 t2 : ℝ) =
      rampExitFlowAdjustFactor * ∫ x in (t1 : ℝ)..t2, exitFlow r x := by
  refine ⟨exitFlow_exitFlow even, ?_⟩
  exact getRampExitVol_of_exitFlow even nonneg start stop clear (exitFlow_exitFlow even)

end even

theorem even_samples_integral :
    ((92 / 100 * (85 / 3) : ℚ) : ℝ) = rampExitFlowAdjustFactor *
      ∫ x in ((175 : ℚ) : ℝ)..(260 : ℚ), exitFlow (tenEachAt fun i => 100 + 30 * (i : ℚ)) x := by
  have even : EvenlySpaced (tenEachAt fun i => 100 + 30 * (i : ℚ)) := by
    unfold EvenlySpaced
    decide +kernel
  have total : getRampExitVol (tenEachAt fun i => 100 + 30 * (i : ℚ)) 175 260 =
      92 / 100 * (85 / 3) := by
    decide +kernel
  have start : 175 ≤ (tenEachAt fun i => 100 + 30 * (i : ℚ)).dataTime newest := by decide +kernel
  have stop : (tenEachAt fun i => 100 + 30 * (i : ℚ)).dataTime newest ≤ 260 := by decide +kernel
  obtain ⟨-, integral⟩ := getRampExitVol_eq_integral even (by decide +kernel) start stop
    (by decide +kernel)
  rw [← integral, total]

end RampMetering
