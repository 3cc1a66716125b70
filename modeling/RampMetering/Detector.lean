import RampMetering.Variables
import Mathlib.Data.List.Find
import Mathlib.Data.Rat.Floor

/-! The loops of `control_compute.c` over the rows of a detector matrix: occupancy counts,
green-time occupancy, vehicle counts, and the health checks of a cycle's data.
A `for` over rows is a fold over `rows`; the two `while` loops whose index jumps are
recursive functions that end because the index grows. -/

namespace RampMetering

def rows (first : ℕ) (last : ℤ) : List ℕ := List.range' first (last + 1 - first).toNat

theorem mem_rows {first i : ℕ} {last : ℤ} : i ∈ rows first last ↔ first ≤ i ∧ (i : ℤ) ≤ last := by
  rw [rows, List.mem_range'_1]
  omega

theorem rows_append {first j : ℕ} {last : ℤ} (low : first ≤ j) (high : (j : ℤ) ≤ last + 1) :
    rows first last = rows first (j - 1) ++ rows j last := by
  have part : ((j : ℤ) - 1 + 1 - first).toNat = j - first := by omega
  have whole : (last + 1 - first).toNat = (j - first) + (last + 1 - j).toNat := by omega
  have between : first + (j - first) = j := by omega
  rw [rows, rows, rows, part, whole, ← List.range'_append_1, between]

theorem rows_cons {j : ℕ} {last : ℤ} (inside : (j : ℤ) ≤ last) :
    rows j last = j :: rows (j + 1) last := by
  have count : (last + 1 - j).toNat = (last + 1 - (j + 1 : ℕ)).toNat + 1 := by omega
  rw [rows, rows, count, List.range'_succ]

theorem rows_length (first : ℕ) (last : ℤ) :
    (rows first last).length = (last + 1 - first).toNat := List.length_range'

def matrixOf (rs : List Row) : Matrix := fun i => rs.getD i fun _ => 0

theorem map_matrixOf (rs : List Row) : (rows 0 (rs.length - 1)).map (matrixOf rs) = rs := by
  refine List.ext_getElem (by simp [rows_length]) fun n h₁ h₂ => ?_
  simp only [rows, List.getElem_map, List.getElem_range', matrixOf]
  simp [h₂]

theorem rows_find_eq_some {first j : ℕ} {last : ℤ} {p : ℕ → Bool} :
    (rows first last).find? p = some j ↔
      p j ∧ (first ≤ j ∧ (j : ℤ) ≤ last) ∧ ∀ k, first ≤ k → k < j → p k = false := by
  rw [rows, List.find?_range'_eq_some, ← rows, mem_rows]
  simp

theorem rows_find_eq_none {first : ℕ} {last : ℤ} {p : ℕ → Bool} :
    (rows first last).find? p = none ↔ ∀ k, first ≤ k → (k : ℤ) ≤ last → p k = false := by
  rw [List.find?_eq_none]
  simp [mem_rows]

def getDetectorOccCount (data : Matrix) (firstRow : ℕ) (lastRow : ℤ) (detCol : Fin maxcol) : ℤ :=
  (rows firstRow lastRow).foldl (fun count i => count + data i detCol) 0

/-- The outer loop of `get_detector_green_occ`, with its counters `occ_count` and
`green_count`. The inner loop looks for the first row from `i` on that is not green. -/
def greenOccLoop (data : Matrix) (maxRow : ℤ) (detCol sigCol : Fin maxcol)
    (i : ℕ) (occCount greenCount : ℤ) : ℤ × ℤ :=
  if (i : ℤ) ≤ maxRow then
    if green : data i sigCol = 0 then
      greenOccLoop data maxRow detCol sigCol (i + 1) occCount greenCount
    else
      match found : (rows i maxRow).find? fun j => data j sigCol = 0 with
      | some terminate =>
        greenOccLoop data maxRow detCol sigCol terminate
          (occCount + getDetectorOccCount data i (terminate - 1) detCol)
          (greenCount + terminate - i)
      | none =>
        -- the inner loop ran off the end, so the outer one stops here too
        if data maxRow.toNat sigCol = 1 ∨ data maxRow.toNat sigCol = 2 then
          (occCount + getDetectorOccCount data i maxRow detCol, greenCount + maxRow - i + 1)
        else (occCount, greenCount)
  else (occCount, greenCount)
termination_by (maxRow + 1 - i).toNat
decreasing_by
  · omega
  · have member := mem_rows.mp (List.mem_of_find?_eq_some found)
    have red : data terminate sigCol = 0 := by simpa using List.find?_some found
    have later : i ≠ terminate := by
      rintro rfl
      exact green red
    omega

def getDetectorGreenOcc (f : Rounding) (data : Matrix) (maxRow : ℤ)
    (detCol sigCol : Fin maxcol) : ℚ :=
  let counts := greenOccLoop data maxRow detCol sigCol 0 0 0
  f.round ((counts.1 : ℚ) / max (counts.2 : ℚ) 1)

def checkPhase5Signal (data : Matrix) (maxRow : ℤ) : Bool :=
  !(rows 0 maxRow).any fun i => data i phase5Signal = 1

def checkPhase8Signal (data : Matrix) (maxRow : ℤ) : Bool :=
  !(rows 0 maxRow).any fun i => data i phase8Signal = 1

def checkPhase8Detector (data : Matrix) (maxRow : ℤ) : Bool :=
  let stopbarCount := getDetectorOccCount data 0 maxRow phase8Stopbar
  let approachCount := getDetectorOccCount data 0 maxRow phase8Approach
  decide ((stopbarCount = 0 ∧ approachCount ≠ 0) ∨ (stopbarCount ≠ 0 ∧ approachCount = 0))

def checkPhase5Detector (data : Matrix) (maxRow : ℤ) : Bool :=
  let stopbarCount := getDetectorOccCount data 0 maxRow phase5Stopbar
  let approachCount1 := getDetectorOccCount data 0 maxRow phase5Approach1
  let approachCount2 := getDetectorOccCount data 0 maxRow phase5Approach2
  decide ((stopbarCount = 0 ∧ approachCount1 + approachCount2 ≠ 0) ∨
    (stopbarCount ≠ 0 ∧ approachCount1 + approachCount2 = 0))

def checkRealtimeDataHealth (data : Matrix) (maxRow : ℤ) : ℕ :=
  if checkPhase8Detector data maxRow then 1
  else if checkPhase5Detector data maxRow then 2
  else if checkPhase8Signal data maxRow then 3
  else if checkPhase5Signal data maxRow then 4
  else 0

def getStepsofgreen (data : Matrix) (currentRow : ℕ) (maxRow : ℤ) (sigCol : Fin maxcol) : ℤ :=
  (rows currentRow maxRow).foldl (fun count i => if data i sigCol = 1 then count + 1 else count) 0

/-- C's `round`, half away from zero. -/
def roundAway (x : ℚ) : ℤ := if 0 ≤ x then ⌊x + 1 / 2⌋ else ⌈x - 1 / 2⌉

/-- The outer loop of `get_detector_counts`: find the next occupied row, then the first
unoccupied one after it. -/
def detectorCountsLoop (data : Matrix) (maxRow : ℤ) (sigCol detCol : Fin maxcol)
    (currentRow : ℕ) (counts : ℚ) : ℚ :=
  match _occupied : (rows currentRow maxRow).find? fun i => data i detCol = 1 with
  | none => counts
  | some start =>
    match closed : (rows start maxRow).find? fun i => data i detCol = 0 with
    | some zeroInd =>
      let length : ℤ := zeroInd - start
      let counts :=
        if length < maxSteps then counts + 1
        else if (getStepsofgreen data start (zeroInd - 1) sigCol : ℚ) > 1 / 2 * length ∧
            data start sigCol = 1 then
          counts + roundAway (length / maxSteps)
        else counts + 1
      detectorCountsLoop data maxRow sigCol detCol zeroInd counts
    | none =>
      let length : ℤ := maxRow - start + 1
      if length < maxSteps then counts + 1
      else if (getStepsofgreen data start maxRow sigCol : ℚ) > 1 / 2 * length then
        counts + roundAway (length / maxSteps)
      else counts + 1
termination_by (maxRow + 1 - currentRow).toNat
decreasing_by
  have first := mem_rows.mp (List.mem_of_find?_eq_some _occupied)
  have second := mem_rows.mp (List.mem_of_find?_eq_some closed)
  have one : data start detCol = 1 := by simpa using List.find?_some _occupied
  have zero : data zeroInd detCol = 0 := by simpa using List.find?_some closed
  have later : start ≠ zeroInd := by
    rintro rfl
    omega
  omega

def getDetectorCounts (data : Matrix) (maxRow : ℤ) (sigCol detCol : Fin maxcol) : ℚ :=
  detectorCountsLoop data maxRow sigCol detCol 0 0

def SignalColumn (data : Matrix) (maxRow : ℤ) (col : Fin maxcol) : Prop :=
  ∀ i : ℕ, (i : ℤ) ≤ maxRow → data i col = 0 ∨ data i col = 1 ∨ data i col = 2

def DetectorColumn (data : Matrix) (maxRow : ℤ) (col : Fin maxcol) : Prop :=
  ∀ i : ℕ, (i : ℤ) ≤ maxRow → data i col = 0 ∨ data i col = 1

/-! A loop over the rows of a cycle reads these rows and no others. -/

section equations

variable {data : Matrix} {maxRow : ℤ} {detCol sigCol : Fin maxcol} {i : ℕ}
  (occCount greenCount : ℤ)

theorem greenOccLoop_red (inside : (i : ℤ) ≤ maxRow) (red : data i sigCol = 0) :
    greenOccLoop data maxRow detCol sigCol i occCount greenCount =
      greenOccLoop data maxRow detCol sigCol (i + 1) occCount greenCount := by
  rw [greenOccLoop, if_pos inside, dif_pos red]

theorem greenOccLoop_green (inside : (i : ℤ) ≤ maxRow) (green : data i sigCol ≠ 0)
    {terminate : ℕ}
    (found : (rows i maxRow).find? (fun j => data j sigCol = 0) = some terminate) :
    greenOccLoop data maxRow detCol sigCol i occCount greenCount =
      greenOccLoop data maxRow detCol sigCol terminate
        (occCount + getDetectorOccCount data i (terminate - 1) detCol)
        (greenCount + terminate - i) := by
  rw [greenOccLoop, if_pos inside, dif_neg green]
  split
  · rename_i found'
    obtain rfl := Option.some.inj (found.symm.trans found')
    rfl
  · rename_i found'
    exact absurd (found.symm.trans found') (by simp)

theorem greenOccLoop_last (inside : (i : ℤ) ≤ maxRow) (green : data i sigCol ≠ 0)
    (found : (rows i maxRow).find? (fun j => data j sigCol = 0) = none) :
    greenOccLoop data maxRow detCol sigCol i occCount greenCount =
      if data maxRow.toNat sigCol = 1 ∨ data maxRow.toNat sigCol = 2 then
        (occCount + getDetectorOccCount data i maxRow detCol, greenCount + maxRow - i + 1)
      else (occCount, greenCount) := by
  rw [greenOccLoop, if_pos inside, dif_neg green]
  split
  · rename_i found'
    exact absurd (found.symm.trans found') (by simp)
  · rfl

theorem greenOccLoop_outside (outside : ¬(i : ℤ) ≤ maxRow) :
    greenOccLoop data maxRow detCol sigCol i occCount greenCount = (occCount, greenCount) := by
  rw [greenOccLoop, if_neg outside]

end equations

def AgreeTo (data data' : Matrix) (maxRow : ℤ) : Prop :=
  ∀ i : ℕ, (i : ℤ) ≤ maxRow → data i = data' i

section agree

variable {data data' : Matrix} {maxRow : ℤ} (agree : AgreeTo data data' maxRow)

include agree

theorem getDetectorOccCount_congr (firstRow : ℕ) {lastRow : ℤ} (below : lastRow ≤ maxRow)
    (detCol : Fin maxcol) :
    getDetectorOccCount data firstRow lastRow detCol =
      getDetectorOccCount data' firstRow lastRow detCol := by
  refine List.foldl_ext _ _ _ fun count i member => ?_
  rw [agree i (by have := mem_rows.mp member; omega)]

theorem find_congr (i : ℕ) (sigCol : Fin maxcol) :
    (rows i maxRow).find? (fun j => data j sigCol = 0) =
      (rows i maxRow).find? fun j => data' j sigCol = 0 := by
  refine List.find?_congr fun j member => ?_
  rw [agree j (mem_rows.mp member).2]

theorem greenOccLoop_last_congr {detCol sigCol : Fin maxcol} {i : ℕ} {occCount greenCount : ℤ}
    (inside : (i : ℤ) ≤ maxRow) (green : data i sigCol ≠ 0)
    (found : (rows i maxRow).find? (fun j => data j sigCol = 0) = none) :
    greenOccLoop data maxRow detCol sigCol i occCount greenCount =
      greenOccLoop data' maxRow detCol sigCol i occCount greenCount := by
  have green' : data' i sigCol ≠ 0 := agree i inside ▸ green
  have last : data maxRow.toNat = data' maxRow.toNat := agree _ (by omega)
  rw [greenOccLoop_last _ _ inside green found,
    greenOccLoop_last _ _ inside green' ((find_congr agree i sigCol).symm.trans found), last,
    getDetectorOccCount_congr agree i le_rfl]

theorem greenOccLoop_congr (detCol sigCol : Fin maxcol) (i : ℕ) (occCount greenCount : ℤ) :
    greenOccLoop data maxRow detCol sigCol i occCount greenCount =
      greenOccLoop data' maxRow detCol sigCol i occCount greenCount := by
  induction i, occCount, greenCount using greenOccLoop.induct data maxRow detCol sigCol with
  | case1 i occCount greenCount inside red ih =>
    have red' : data' i sigCol = 0 := (congrFun (agree i inside) sigCol).symm.trans red
    rw [greenOccLoop_red _ _ inside red, greenOccLoop_red _ _ inside red', ih]
  | case2 i occCount greenCount inside green terminate found ih =>
    have green' : data' i sigCol ≠ 0 := agree i inside ▸ green
    have below : (terminate : ℤ) - 1 ≤ maxRow := by
      have := (mem_rows.mp (List.mem_of_find?_eq_some found)).2
      omega
    rw [greenOccLoop_green _ _ inside green found,
      greenOccLoop_green _ _ inside green' ((find_congr agree i sigCol).symm.trans found), ih,
      getDetectorOccCount_congr agree i below]
  | case3 i occCount greenCount inside green found last =>
    exact greenOccLoop_last_congr agree inside green found
  | case4 i occCount greenCount inside green found last =>
    exact greenOccLoop_last_congr agree inside green found
  | case5 i occCount greenCount outside =>
    rw [greenOccLoop_outside _ _ outside, greenOccLoop_outside _ _ outside]

theorem getDetectorGreenOcc_congr (f : Rounding) (detCol sigCol : Fin maxcol) :
    getDetectorGreenOcc f data maxRow detCol sigCol =
      getDetectorGreenOcc f data' maxRow detCol sigCol := by
  rw [getDetectorGreenOcc, getDetectorGreenOcc, greenOccLoop_congr agree]

theorem checkRealtimeDataHealth_congr :
    checkRealtimeDataHealth data maxRow = checkRealtimeDataHealth data' maxRow := by
  have signal : ∀ col, (rows 0 maxRow).any (fun i => data i col = 1) =
      (rows 0 maxRow).any fun i => data' i col = 1 := by
    intro col
    simp only [List.any_eq]
    refine decide_eq_decide.mpr (exists_congr fun i => and_congr_right fun member => ?_)
    rw [agree i (mem_rows.mp member).2]
  have counts := getDetectorOccCount_congr agree 0 le_rfl
  have detector8 : checkPhase8Detector data maxRow = checkPhase8Detector data' maxRow := by
    rw [checkPhase8Detector, checkPhase8Detector, counts, counts]
  have detector5 : checkPhase5Detector data maxRow = checkPhase5Detector data' maxRow := by
    rw [checkPhase5Detector, checkPhase5Detector, counts, counts, counts]
  have signal8 : checkPhase8Signal data maxRow = checkPhase8Signal data' maxRow :=
    congrArg (!·) (signal phase8Signal)
  have signal5 : checkPhase5Signal data maxRow = checkPhase5Signal data' maxRow :=
    congrArg (!·) (signal phase5Signal)
  rw [checkRealtimeDataHealth, checkRealtimeDataHealth, detector8, detector5, signal8, signal5]

end agree

end RampMetering
