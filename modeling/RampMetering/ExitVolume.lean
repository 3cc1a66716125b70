import RampMetering.Lib.Prorate
import RampMetering.Alinea
import RampMetering.MaxGreen
import Mathlib.Tactic.Ring

/-! The ramp exit volume as an amount counted since the start of the window. A sample is taken
to stand for `RAMP_DATA_INTERVAL` seconds whatever the time to the one before it, so a window
that reaches further back may count less where samples lie further apart. -/

namespace RampMetering
open Prorate

def exitRow (n : ℕ) : Fin numberRampData := ⟨min n 5, (min_le_right n 5).trans_lt (by decide)⟩

def sampleTime (r : RampVariables) (n : ℕ) : ℚ := r.dataTime (exitRow n)

def sampleVol (r : RampVariables) (n : ℕ) : ℚ := totalPassageVol r (exitRow n)

theorem exitRow_eq {n : ℕ} (hn : n < numberRampData) : exitRow n = ⟨n, hn⟩ :=
  Fin.ext (min_eq_left (Nat.le_of_lt_succ hn))

section exit

variable {r : RampVariables} {t1 t2 : ℚ}

theorem sampleTime_monotone (ordered : Monotone r.dataTime) : Monotone (sampleTime r) := by
  intro m n before
  refine ordered (Fin.mk_le_mk.mpr ?_)
  exact min_le_min_right 5 before

theorem sampleVol_nonneg (nonneg : ∀ i lane, 0 ≤ r.passageVol i lane) (n : ℕ) :
    0 ≤ sampleVol r n := by
  unfold sampleVol totalPassageVol
  exact_mod_cast add_nonneg (add_nonneg (nonneg _ 0) (nonneg _ 1)) (nonneg _ 2)

def afterNewest (r : RampVariables) (t1 t2 : ℚ) : ℚ :=
  if t1 - eps ≤ r.dataTime newest then
    max 0 (t2 - r.dataTime newest) / rampDataInterval * totalPassageVol r newest
  else 0

/-- With no sample after the window the loop counts since `t1`, from its row on. -/
theorem rampExitLoop_eq (stop : ∀ i, r.dataTime i ≤ t2) (nonneg : ∀ n, 0 ≤ sampleVol r n) (i : ℕ)
    (hi : i < numberRampData) (c : ℚ) :
    rampExitLoop r t1 t2 i hi c =
      c + (if i = numberRampData - 1 then afterNewest r t1 t2 else 0) +
        amount rampDataInterval eps (sampleTime r) (sampleVol r) t1 i := by
  have early : ∀ i, r.dataTime i ≤ t2 + eps := fun i =>
    (stop i).trans (le_add_of_nonneg_right eps_nonneg)
  induction i generalizing c with
  | zero =>
    have other : 0 ≠ numberRampData - 1 := by decide
    rw [rampExitLoop, amount, share, sampleTime, sampleVol, exitRow_eq hi]
    simp only [early, true_and, ge_iff_le, if_neg other]
    split_ifs <;> ring
  | succ i ih =>
    have below : i < numberRampData := by omega
    have other : i ≠ numberRampData - 1 := by omega
    have whole := nonneg (i + 1)
    rw [sampleVol, exitRow_eq hi] at whole
    rw [rampExitLoop, amount, share]
    simp only [sampleTime, sampleVol, exitRow_eq hi, exitRow_eq below, early, true_and,
      ge_iff_le, max_eq_right whole, ih below, if_neg other]
    -- only the newest row counts the time after it
    by_cases last : i + 1 = numberRampData - 1
    · have row : (⟨i + 1, hi⟩ : Fin numberRampData) = newest := Fin.ext last
      rw [row, if_pos last, if_pos last, afterNewest]
      split_ifs <;> ring
    · rw [if_neg last, if_neg last]
      split_ifs <;> ring

theorem getRampExitVol_eq (stop : ∀ i, r.dataTime i ≤ t2)
    (nonneg : ∀ i lane, 0 ≤ r.passageVol i lane) :
    getRampExitVol r t1 t2 =
      (afterNewest r t1 t2 +
        amount rampDataInterval eps (sampleTime r) (sampleVol r) t1 (numberRampData - 1)) *
        rampExitFlowAdjustFactor := by
  rw [getRampExitVol, rampExitLoop_eq stop (sampleVol_nonneg nonneg), if_pos rfl, zero_add]

theorem afterNewest_antitone (nonneg : ∀ i lane, 0 ≤ r.passageVol i lane) {t1' : ℚ}
    (wider : t1' ≤ t1) : afterNewest r t1 t2 ≤ afterNewest r t1' t2 := by
  have vol : 0 ≤ totalPassageVol r newest := sampleVol_nonneg nonneg (numberRampData - 1)
  have counted : 0 ≤ max 0 (t2 - r.dataTime newest) / rampDataInterval *
      totalPassageVol r newest :=
    mul_nonneg (div_nonneg (le_max_left _ _) rampDataInterval_pos.le) vol
  unfold afterNewest
  split_ifs with inside inside'
  · exact le_rfl
  · exact absurd ((sub_le_sub_right wider eps).trans inside) inside'
  · exact counted
  · exact le_rfl

/-- A wider window counts no less, in whatever way it is widened, exactly when no sample is worth
more over the gap before it, at its own rate, than what comes in at the end of that gap. -/
theorem getRampExitVol_widening_iff (ordered : Monotone r.dataTime)
    (nonneg : ∀ i lane, 0 ≤ r.passageVol i lane) (stop : r.dataTime newest ≤ t2) :
    (∀ t1' t1, t1' ≤ t1 → t1 ≤ t2 → getRampExitVol r t1 t2 ≤ getRampExitVol r t1' t2) ↔
      ∀ i < numberRampData - 1,
        NoExcess rampDataInterval eps (sampleTime r) (sampleVol r) i := by
  have before : ∀ i, r.dataTime i ≤ t2 := fun i => (ordered (Fin.le_last i)).trans stop
  have closed : ∀ t, getRampExitVol r t t2 = (afterNewest r t t2 +
      amount rampDataInterval eps (sampleTime r) (sampleVol r) t (numberRampData - 1)) *
      rampExitFlowAdjustFactor := fun t => getRampExitVol_eq before nonneg
  have vols := sampleVol_nonneg nonneg
  constructor
  · intro law i below
    refine noExcess_of_antitone rampDataInterval_pos vols (sampleTime_monotone ordered) eps_nonneg
      ?_ below
    intro t' t earlier reach
    have inside : t - eps ≤ r.dataTime newest := (sub_le_self t eps_nonneg).trans reach
    have same : afterNewest r t' t2 = afterNewest r t t2 := by
      rw [afterNewest, afterNewest, if_pos inside,
        if_pos ((sub_le_sub_right earlier eps).trans inside)]
    have kept := law t' t earlier (reach.trans stop)
    rw [closed, closed, same] at kept
    exact le_of_add_le_add_left (le_of_mul_le_mul_right kept rampExitFlowAdjustFactor_pos)
  · intro noExcess t1' t1 wider _
    rw [closed, closed]
    refine mul_le_mul_of_nonneg_right (add_le_add ?_ ?_) rampExitFlowAdjustFactor_pos.le
    · exact afterNewest_antitone nonneg wider
    · exact amount_antitone rampDataInterval_pos vols noExcess wider

end exit

def tenEachAt (time : History ℚ) : RampVariables :=
  { staticRamp with
    dataTime := time
    passageVol := fun _ lane => if lane = 1 then 10 else 0 }

theorem even_samples_widening :
    getRampExitVol (tenEachAt fun i => 100 + 30 * (i : ℚ)) 175 260 ≤
      getRampExitVol (tenEachAt fun i => 100 + 30 * (i : ℚ)) 172 260 := by
  have ordered : Monotone (tenEachAt fun i => 100 + 30 * (i : ℚ)).dataTime := by
    intro i j before
    have later : (i : ℚ) ≤ (j : ℚ) := Nat.cast_le.mpr before
    change 100 + 30 * (i : ℚ) ≤ 100 + 30 * (j : ℚ)
    linarith
  have before : (tenEachAt fun i => 100 + 30 * (i : ℚ)).dataTime newest ≤ 260 := by
    decide +kernel
  refine (getRampExitVol_widening_iff ordered (by decide +kernel) before).mpr
    (fun i below => ?_) 172 175 (by norm_num) (by norm_num)
  unfold NoExcess
  revert below i
  decide +kernel

/-- The sample of the minute before 280 came late: a window from the sample before it counts ten
vehicles, one a second shorter nearly twenty. -/
theorem late_sample_narrower_counts_more :
    ¬∀ (r : RampVariables) (t1' t1 t2 : ℚ), Monotone r.dataTime →
      (∀ i lane, 0 ≤ r.passageVol i lane) → t1' ≤ t1 → t1 ≤ t2 → r.dataTime newest ≤ t2 →
      getRampExitVol r t1 t2 ≤ getRampExitVol r t1' t2 := by
  intro law
  have kept := law (tenEachAt ![100, 130, 160, 190, 220, 280]) 220 221 280 (by decide +kernel)
    (by decide +kernel) (by norm_num) (by norm_num) (by decide +kernel)
  exact absurd kept (by decide +kernel)

end RampMetering
