import RampMetering.MaxGreen
import Mathlib.Algebra.BigOperators.Intervals
import Mathlib.Algebra.Order.BigOperators.Group.Finset
import Mathlib.Algebra.Order.Field.Basic

/-! The green-time occupancy. The loop of `get_detector_green_occ` jumps from one green segment
to the next and closes a segment in two places; over all segments it has counted every row whose
signal is not red once, in the sum as in the divisor. -/

namespace RampMetering

/-- The rows of the cycle whose signal is green or yellow. -/
def greenRows (data : Matrix) (maxRow : ℤ) (sigCol : Fin maxcol) : Finset ℕ :=
  (Finset.range (maxRow + 1).toNat).filter fun i => data i sigCol ≠ 0

theorem getDetectorOccCount_eq (data : Matrix) (firstRow : ℕ) (lastRow : ℤ)
    (detCol : Fin maxcol) :
    getDetectorOccCount data firstRow lastRow detCol =
      ∑ i ∈ Finset.Ico firstRow (lastRow + 1).toNat, data i detCol := by
  have counted : ∀ n, (List.range' firstRow n).foldl (fun count i => count + data i detCol) 0 =
      ∑ i ∈ Finset.Ico firstRow (firstRow + n), data i detCol := by
    intro n
    induction n with
    | zero => simp
    | succ n ih =>
      rw [List.range'_1_concat, List.foldl_append, ih, ← Nat.add_assoc,
        Finset.sum_Ico_succ_top (Nat.le_add_right _ _)]
      rfl
  rw [getDetectorOccCount, rows, counted]
  by_cases some : firstRow ≤ (lastRow + 1).toNat
  · rw [show firstRow + (lastRow + 1 - firstRow).toNat = (lastRow + 1).toNat by omega]
  · rw [Finset.Ico_eq_empty_of_le (by omega), Finset.Ico_eq_empty_of_le (by omega)]

section loop

variable {data : Matrix} {maxRow : ℤ} {sigCol : Fin maxcol} (f : ℕ → ℤ)

def greenSum (data : Matrix) (maxRow : ℤ) (sigCol : Fin maxcol) (f : ℕ → ℤ) (i : ℕ) : ℤ :=
  ∑ k ∈ Finset.Ico i (maxRow + 1).toNat, if data k sigCol ≠ 0 then f k else 0

theorem greenSum_zero :
    greenSum data maxRow sigCol f 0 = ∑ i ∈ greenRows data maxRow sigCol, f i := by
  rw [greenSum, greenRows, Finset.sum_filter, Finset.range_eq_Ico]

theorem greenSum_outside {i : ℕ} (outside : ¬(i : ℤ) ≤ maxRow) :
    greenSum data maxRow sigCol f i = 0 := by
  rw [greenSum, Finset.Ico_eq_empty_of_le (by omega), Finset.sum_empty]

theorem greenSum_red {i : ℕ} (inside : (i : ℤ) ≤ maxRow) (red : data i sigCol = 0) :
    greenSum data maxRow sigCol f i = greenSum data maxRow sigCol f (i + 1) := by
  rw [greenSum, Finset.sum_eq_sum_Ico_succ_bot (by omega), if_neg (by simpa using red), zero_add]
  rfl

theorem greenSum_segment {i j : ℕ} (ordered : i ≤ j) (inside : (j : ℤ) ≤ maxRow + 1)
    (green : ∀ k, i ≤ k → k < j → data k sigCol ≠ 0) :
    greenSum data maxRow sigCol f i =
      (∑ k ∈ Finset.Ico i j, f k) + greenSum data maxRow sigCol f j := by
  have segment : ∑ k ∈ Finset.Ico i j, f k =
      ∑ k ∈ Finset.Ico i j, if data k sigCol ≠ 0 then f k else 0 := by
    refine Finset.sum_congr rfl fun k member => ?_
    obtain ⟨low, high⟩ := Finset.mem_Ico.mp member
    rw [if_pos (green k low high)]
  rw [segment, greenSum, greenSum, Finset.sum_Ico_consecutive _ ordered (by omega)]

theorem greenOccLoop_eq (signal : SignalColumn data maxRow sigCol) (detCol : Fin maxcol) (i : ℕ)
    (occCount greenCount : ℤ) :
    greenOccLoop data maxRow detCol sigCol i occCount greenCount =
      (occCount + greenSum data maxRow sigCol (fun k => data k detCol) i,
        greenCount + greenSum data maxRow sigCol (fun _ => 1) i) := by
  induction i, occCount, greenCount using greenOccLoop.induct data maxRow detCol sigCol with
  | case1 i occCount greenCount inside red ih =>
    rw [greenOccLoop_red _ _ inside red, ih, greenSum_red _ inside red, greenSum_red _ inside red]
  | case2 i occCount greenCount inside green terminate found ih =>
    obtain ⟨-, ⟨later, below⟩, before⟩ := rows_find_eq_some.mp found
    have segment : ∀ k, i ≤ k → k < terminate → data k sigCol ≠ 0 := by
      simpa using before
    rw [greenOccLoop_green _ _ inside green found, ih,
      greenSum_segment _ later (by omega) segment, greenSum_segment _ later (by omega) segment,
      getDetectorOccCount_eq, show ((terminate : ℤ) - 1 + 1).toNat = terminate by omega,
      Finset.sum_const, Nat.card_Ico, nsmul_one, Int.natCast_sub later]
    refine Prod.ext ?_ ?_
    · exact add_assoc _ _ _
    · simp only
      omega
  | case3 i occCount greenCount inside green found last =>
    have segment : ∀ k, i ≤ k → k < (maxRow + 1).toNat → data k sigCol ≠ 0 := by
      intro k low high
      simpa using rows_find_eq_none.mp found k low (by omega)
    rw [greenOccLoop_last _ _ inside green found, if_pos last,
      greenSum_segment _ (by omega) (by omega) segment,
      greenSum_segment _ (by omega) (by omega) segment, greenSum_outside _ (by omega),
      greenSum_outside _ (by omega), getDetectorOccCount_eq, Finset.sum_const, Nat.card_Ico,
      nsmul_one, add_zero, add_zero, Int.natCast_sub (by omega)]
    refine Prod.ext rfl ?_
    simp only
    omega
  | case4 i occCount greenCount inside green found last =>
    -- the row at the end is green, so it holds 1 or 2
    have end_green : data maxRow.toNat sigCol ≠ 0 := by
      simpa using rows_find_eq_none.mp found maxRow.toNat (by omega) (by omega)
    exact absurd ((signal maxRow.toNat (by omega)).resolve_left end_green) last
  | case5 i occCount greenCount outside =>
    rw [greenOccLoop_outside _ _ outside, greenSum_outside _ outside, greenSum_outside _ outside,
      add_zero, add_zero]

end loop

section value

variable {data : Matrix} {maxRow : ℤ} {detCol sigCol : Fin maxcol} (f : Rounding)

theorem getDetectorGreenOcc_eq (signal : SignalColumn data maxRow sigCol) :
    getDetectorGreenOcc f data maxRow detCol sigCol =
      f.round (((∑ i ∈ greenRows data maxRow sigCol, data i detCol : ℤ) : ℚ) /
        max ((greenRows data maxRow sigCol).card : ℚ) 1) := by
  rw [getDetectorGreenOcc, greenOccLoop_eq signal, greenSum_zero, greenSum_zero,
    Finset.sum_const, nsmul_one]
  simp

theorem mem_greenRows {i : ℕ} :
    i ∈ greenRows data maxRow sigCol ↔ (i : ℤ) ≤ maxRow ∧ data i sigCol ≠ 0 := by
  rw [greenRows, Finset.mem_filter, Finset.mem_range]
  exact and_congr_left' (by omega)

variable (sigCol) in
theorem occupied_within (detector : DetectorColumn data maxRow detCol) :
    0 ≤ ∑ i ∈ greenRows data maxRow sigCol, data i detCol ∧
      ∑ i ∈ greenRows data maxRow sigCol, data i detCol ≤ (greenRows data maxRow sigCol).card := by
  have bit : ∀ i ∈ greenRows data maxRow sigCol, 0 ≤ data i detCol ∧ data i detCol ≤ 1 := by
    intro i member
    have value := detector i (mem_greenRows.mp member).1
    omega
  refine ⟨Finset.sum_nonneg fun i member => (bit i member).1, ?_⟩
  simpa using Finset.sum_le_sum fun i member => (bit i member).2

theorem getDetectorGreenOcc_within (signal : SignalColumn data maxRow sigCol)
    (detector : DetectorColumn data maxRow detCol) :
    0 ≤ getDetectorGreenOcc f data maxRow detCol sigCol ∧
      getDetectorGreenOcc f data maxRow detCol sigCol ≤ 1 := by
  obtain ⟨low, high⟩ := occupied_within sigCol detector
  rw [getDetectorGreenOcc_eq f signal]
  have positive : (0 : ℚ) < max ((greenRows data maxRow sigCol).card : ℚ) 1 :=
    zero_lt_one.trans_le (le_max_right _ _)
  refine ⟨f.round_nonneg (div_nonneg (by exact_mod_cast low) positive.le), f.round_le_one ?_⟩
  rw [div_le_one positive]
  exact (by exact_mod_cast high : _ ≤ ((greenRows data maxRow sigCol).card : ℚ)).trans
    (le_max_left _ _)

theorem one_le_greenRows {i : ℕ} (member : i ∈ rows 0 maxRow) (green : data i sigCol = 1) :
    1 ≤ (greenRows data maxRow sigCol).card :=
  Finset.card_pos.mpr ⟨i, mem_greenRows.mpr ⟨(mem_rows.mp member).2, by omega⟩⟩

/-- Data that passes the health check has a green row of either phase. -/
theorem greenRows_of_healthy (healthy : checkRealtimeDataHealth data maxRow = 0) :
    1 ≤ (greenRows data maxRow phase5Signal).card ∧
      1 ≤ (greenRows data maxRow phase8Signal).card := by
  unfold checkRealtimeDataHealth at healthy
  split_ifs at healthy with _ _ signal8 signal5
  simp only [checkPhase5Signal, checkPhase8Signal, Bool.not_eq_true', Bool.not_eq_false,
    List.any_eq_true, decide_eq_true_eq] at signal5 signal8
  obtain ⟨i, member, green⟩ := signal5
  obtain ⟨j, member', green'⟩ := signal8
  exact ⟨one_le_greenRows member green, one_le_greenRows member' green'⟩

/-- Without the guard: the share of the green rows in which the detector is occupied. -/
def greenOccupancy (data : Matrix) (maxRow : ℤ) (detCol sigCol : Fin maxcol) : ℚ :=
  ((∑ i ∈ greenRows data maxRow sigCol, data i detCol : ℤ) : ℚ) /
    ((greenRows data maxRow sigCol).card : ℚ)

theorem getDetectorGreenOcc_of_green (signal : SignalColumn data maxRow sigCol)
    (some : 1 ≤ (greenRows data maxRow sigCol).card) :
    getDetectorGreenOcc f data maxRow detCol sigCol =
      f.round (greenOccupancy data maxRow detCol sigCol) := by
  rw [getDetectorGreenOcc_eq f signal, max_eq_left (by exact_mod_cast some)]
  rfl

end value

structure OccColumns (s : SignalVariables) : Prop where
  signal5 : SignalColumn s.realtimeData s.dataRow phase5Signal
  signal8 : SignalColumn s.realtimeData s.dataRow phase8Signal
  approach1 : DetectorColumn s.realtimeData s.dataRow phase5Approach1
  approach2 : DetectorColumn s.realtimeData s.dataRow phase5Approach2
  approach8 : DetectorColumn s.realtimeData s.dataRow phase8Approach

theorem OccColumns.occupancies_within {s : SignalVariables} (columns : OccColumns s)
    (sound : checkRealtimeDataHealth s.realtimeData s.dataRow = 0) (f : Rounding)
    (currentTime : ℚ) :
    (0 ≤ (getIntersectionMeasurement f s currentTime).1.ltOcc ∧
        (getIntersectionMeasurement f s currentTime).1.ltOcc ≤ 1) ∧
      0 ≤ (getIntersectionMeasurement f s currentTime).1.rtOcc ∧
        (getIntersectionMeasurement f s currentTime).1.rtOcc ≤ 1 := by
  rw [getIntersectionMeasurement, if_neg (by simp [sound])]
  exact ⟨f.mean_within (getDetectorGreenOcc_within f columns.signal5 columns.approach1)
      (getDetectorGreenOcc_within f columns.signal5 columns.approach2),
    getDetectorGreenOcc_within f columns.signal8 columns.approach8⟩

/-- Every row that is not red counts once, and the occupancy of a cycle that passes the health
check needs no guard: it is the occupied share of its green time. However the shares are rounded
they stay between 0 and 1. -/
theorem green_occupancies_exact :
    (∀ (data : Matrix) (maxRow : ℤ) (detCol sigCol : Fin maxcol),
      SignalColumn data maxRow sigCol → DetectorColumn data maxRow detCol →
        getDetectorGreenOcc .exact data maxRow detCol sigCol =
            ((∑ i ∈ greenRows data maxRow sigCol, data i detCol : ℤ) : ℚ) /
              max ((greenRows data maxRow sigCol).card : ℚ) 1 ∧
          ∀ f, 0 ≤ getDetectorGreenOcc f data maxRow detCol sigCol ∧
            getDetectorGreenOcc f data maxRow detCol sigCol ≤ 1) ∧
    ∀ (s : SignalVariables) (currentTime : ℚ), OccColumns s →
      checkRealtimeDataHealth s.realtimeData s.dataRow = 0 →
        (1 ≤ (greenRows s.realtimeData s.dataRow phase5Signal).card ∧
          1 ≤ (greenRows s.realtimeData s.dataRow phase8Signal).card) ∧
        (getIntersectionMeasurement .exact s currentTime).1.ltOcc =
            (greenOccupancy s.realtimeData s.dataRow phase5Approach1 phase5Signal +
              greenOccupancy s.realtimeData s.dataRow phase5Approach2 phase5Signal) / 2 ∧
        (getIntersectionMeasurement .exact s currentTime).1.rtOcc =
            greenOccupancy s.realtimeData s.dataRow phase8Approach phase8Signal ∧
        ∀ f, (0 ≤ (getIntersectionMeasurement f s currentTime).1.ltOcc ∧
            (getIntersectionMeasurement f s currentTime).1.ltOcc ≤ 1) ∧
          0 ≤ (getIntersectionMeasurement f s currentTime).1.rtOcc ∧
            (getIntersectionMeasurement f s currentTime).1.rtOcc ≤ 1 := by
  refine ⟨fun data maxRow detCol sigCol signal detector =>
    ⟨getDetectorGreenOcc_eq .exact signal, fun f => getDetectorGreenOcc_within f signal detector⟩,
    ?_⟩
  intro s currentTime columns healthy
  obtain ⟨some5, some8⟩ := greenRows_of_healthy healthy
  refine ⟨⟨some5, some8⟩, ?_, ?_, fun f => columns.occupancies_within healthy f currentTime⟩
  · rw [getIntersectionMeasurement, if_neg (by simp [healthy])]
    dsimp only
    rw [getDetectorGreenOcc_of_green .exact columns.signal5 some5,
      getDetectorGreenOcc_of_green .exact columns.signal5 some5]
    rfl
  · rw [getIntersectionMeasurement, if_neg (by simp [healthy])]
    exact getDetectorGreenOcc_of_green .exact columns.signal8 some8

def lateGreen : SignalVariables :=
  { staticSignal with
    realtimeData := fun i =>
      if i = 0 then ![0, 1, 1, 1, 0, 1, 1, 0, 0, 0]
      else if i = 1 then ![1, 0, 0, 0, 1, 0, 0, 0, 0, 0]
      else ![2, 1, 1, 1, 1, 1, 1, 0, 0, 0]
    dataRow := 2 }

theorem lateGreen_columns : OccColumns lateGreen := by
  have rows : ∀ i : ℕ, (i : ℤ) ≤ lateGreen.dataRow → i = 0 ∨ i = 1 ∨ i = 2 := by
    intro i inside
    change (i : ℤ) ≤ 2 at inside
    omega
  constructor
  all_goals
    intro i inside
    rcases rows i inside with rfl | rfl | rfl <;> decide

theorem lateGreen_half_occupied :
    (getIntersectionMeasurement .exact lateGreen 0).1.ltOcc = 1 / 2 ∧
      (getIntersectionMeasurement .exact lateGreen 0).1.rtOcc = 1 / 2 := by
  obtain ⟨-, left, right, -⟩ :=
    green_occupancies_exact.2 lateGreen 0 lateGreen_columns (by decide +kernel)
  rw [left, right]
  exact ⟨by decide +kernel, by decide +kernel⟩

end RampMetering
