import RampMetering.Lib.Segments
import RampMetering.Detector
import Mathlib.Algebra.Order.Field.Basic

/-! Vehicle counts. `get_detector_counts` cuts the rows of a cycle into pulses, maximal runs of
occupied rows, and weighs each by itself. A pulse that an unoccupied row closes and the one that
reaches the end of the data are weighed by two branches, and these do not agree. -/

namespace RampMetering
open Segments

section pulse

variable (sigCol : Fin maxcol) (pulse : List Row)

def stepsOfGreen : ℤ := pulse.countP fun row => row sigCol = 1

def mostlyGreen : Bool := (pulse.length : ℤ) < 2 * stepsOfGreen sigCol pulse

def startsGreen : Bool := pulse.head?.any fun row => row sigCol = 1

def vehiclesByLength : ℤ := roundAway (((pulse.length : ℤ) : ℚ) / maxSteps)

def closedCount : ℤ :=
  if pulse = [] then 0
  else if (pulse.length : ℤ) < maxSteps then 1
  else if mostlyGreen sigCol pulse && startsGreen sigCol pulse then vehiclesByLength pulse
  else 1

def openCount : ℤ :=
  if pulse = [] then 0
  else if (pulse.length : ℤ) < maxSteps then 1
  else if mostlyGreen sigCol pulse then vehiclesByLength pulse
  else 1

end pulse

section loop

variable {data : Matrix} {maxRow : ℤ} {sigCol detCol : Fin maxcol}

theorem getStepsofgreen_eq (first : ℕ) (last : ℤ) :
    getStepsofgreen data first last sigCol =
      stepsOfGreen sigCol ((rows first last).map data) := by
  have counted : ∀ (is : List ℕ) (count : ℤ),
      is.foldl (fun count i => if data i sigCol = 1 then count + 1 else count) count =
        count + stepsOfGreen sigCol (is.map data) := by
    intro is
    induction is with
    | nil =>
      intro count
      simp [stepsOfGreen]
    | cons i is ih =>
      intro count
      rw [List.foldl_cons, ih, stepsOfGreen, stepsOfGreen, List.map_cons]
      by_cases green : data i sigCol = 1
      · rw [if_pos green, List.countP_cons_of_pos (by simpa using green), Nat.cast_succ]
        ring
      · rw [if_neg green, List.countP_cons_of_neg (by simpa using green)]
  rw [getStepsofgreen, counted, zero_add]

variable (data sigCol) in
theorem mostlyGreen_iff {first : ℕ} {last : ℤ} (ordered : (first : ℤ) ≤ last + 1) :
    (getStepsofgreen data first last sigCol : ℚ) > 1 / 2 * ((last - first + 1 : ℤ) : ℚ) ↔
      mostlyGreen sigCol ((rows first last).map data) = true := by
  rw [mostlyGreen, decide_eq_true_iff, List.length_map, rows_length, ← getStepsofgreen_eq,
    Int.toNat_of_nonneg (by omega), ← Int.cast_lt (R := ℚ)]
  push_cast
  constructor
  · intro more
    linarith
  · intro more
    linarith

theorem pulse_eq_cons {first : ℕ} {last : ℤ} (ordered : (first : ℤ) ≤ last) :
    (rows first last).map data = data first :: (rows (first + 1) last).map data := by
  rw [rows_cons ordered, List.map_cons]

variable (data sigCol) in
theorem startsGreen_iff {first : ℕ} {last : ℤ} (ordered : (first : ℤ) ≤ last) :
    data first sigCol = 1 ↔ startsGreen sigCol ((rows first last).map data) = true := by
  rw [pulse_eq_cons ordered, startsGreen]
  simp

variable (data) in
theorem pulse_length {first : ℕ} {last : ℤ} (ordered : (first : ℤ) ≤ last + 1) :
    (((rows first last).map data).length : ℤ) = last - first + 1 := by
  rw [List.length_map, rows_length]
  omega

theorem detectorCountsLoop_none {currentRow : ℕ} (counts : ℚ)
    (occupied : (rows currentRow maxRow).find? (fun i => data i detCol = 1) = none) :
    detectorCountsLoop data maxRow sigCol detCol currentRow counts = counts := by
  rw [detectorCountsLoop]
  split
  · rfl
  · rename_i found
    exact absurd (occupied.symm.trans found) (by simp)

theorem detectorCountsLoop_closed {currentRow start zeroInd : ℕ} (counts : ℚ)
    (occupied : (rows currentRow maxRow).find? (fun i => data i detCol = 1) = some start)
    (closed : (rows start maxRow).find? (fun i => data i detCol = 0) = some zeroInd)
    (some : start < zeroInd) :
    detectorCountsLoop data maxRow sigCol detCol currentRow counts =
      detectorCountsLoop data maxRow sigCol detCol zeroInd
        (counts + closedCount sigCol ((rows start (zeroInd - 1)).map data)) := by
  have length := pulse_length data (show (start : ℤ) ≤ (zeroInd : ℤ) - 1 + 1 by omega)
  have green := mostlyGreen_iff data sigCol
    (show (start : ℤ) ≤ (zeroInd : ℤ) - 1 + 1 by omega)
  have starts := startsGreen_iff data sigCol
    (show (start : ℤ) ≤ (zeroInd : ℤ) - 1 by omega)
  have filled : (rows start (zeroInd - 1)).map data ≠ [] := by
    rw [pulse_eq_cons (by omega)]
    simp
  rw [show (zeroInd : ℤ) - 1 - start + 1 = zeroInd - start by ring] at length green
  rw [detectorCountsLoop]
  split
  · rename_i found
    exact absurd (occupied.symm.trans found) (by simp)
  · rename_i found
    obtain rfl := Option.some.inj (occupied.symm.trans found)
    split
    · rename_i found'
      obtain rfl := Option.some.inj (closed.symm.trans found')
      rw [closedCount, if_neg filled, vehiclesByLength, length]
      simp only [green, starts, Bool.and_eq_true]
      split_ifs <;> simp
    · rename_i found'
      exact absurd (closed.symm.trans found') (by simp)

theorem detectorCountsLoop_open {currentRow start : ℕ} (counts : ℚ)
    (occupied : (rows currentRow maxRow).find? (fun i => data i detCol = 1) = some start)
    (closed : (rows start maxRow).find? (fun i => data i detCol = 0) = none) :
    detectorCountsLoop data maxRow sigCol detCol currentRow counts =
      counts + openCount sigCol ((rows start maxRow).map data) := by
  have inside := (rows_find_eq_some.mp occupied).2.1.2
  have length := pulse_length data (show (start : ℤ) ≤ maxRow + 1 by omega)
  have green := mostlyGreen_iff data sigCol
    (show (start : ℤ) ≤ maxRow + 1 by omega)
  have filled : (rows start maxRow).map data ≠ [] := by
    rw [pulse_eq_cons inside]
    simp
  rw [detectorCountsLoop]
  split
  · rename_i found
    exact absurd (occupied.symm.trans found) (by simp)
  · rename_i found
    obtain rfl := Option.some.inj (occupied.symm.trans found)
    split
    · rename_i found'
      exact absurd (closed.symm.trans found') (by simp)
    · rw [openCount, if_neg filled, vehiclesByLength, length]
      simp only [green]
      split_ifs <;> simp

end loop

def unoccupied (detCol : Fin maxcol) (row : Row) : Bool := row detCol = 0

/-- What the pulses of some rows count for, the last of them open. -/
def vehicles (sigCol detCol : Fin maxcol) (rs : List Row) : ℤ :=
  total (unoccupied detCol) (closedCount sigCol) (openCount sigCol) rs

section vehicles

variable {sigCol detCol : Fin maxcol} {pulse : List Row}

variable (sigCol) in
theorem vehicles_skip {zs : List Row} (free : ∀ z ∈ zs, unoccupied detCol z = true)
    (rs : List Row) : vehicles sigCol detCol (zs ++ rs) = vehicles sigCol detCol rs :=
  total_skip _ _ rfl free rs

theorem vehicles_open (filled : ∀ row ∈ pulse, unoccupied detCol row = false) :
    vehicles sigCol detCol pulse = openCount sigCol pulse :=
  total_of_forall _ _ filled

theorem vehicles_closed (filled : ∀ row ∈ pulse, unoccupied detCol row = false) {z : Row}
    (free : unoccupied detCol z = true) (rs : List Row) :
    vehicles sigCol detCol (pulse ++ z :: rs) =
      closedCount sigCol pulse + vehicles sigCol detCol (z :: rs) := by
  have alone : ∀ row ∈ [z], unoccupied detCol row = true := by simpa using free
  have skip := vehicles_skip sigCol alone rs
  rw [vehicles, total_append_cons _ _ _ _ free, total_of_forall _ _ filled,
    ← List.singleton_append, skip]
  rfl

end vehicles

section counts

variable {data : Matrix} {maxRow : ℤ} {sigCol detCol : Fin maxcol}

theorem unoccupied_rows {first : ℕ} {last : ℤ}
    (free : ∀ k, first ≤ k → (k : ℤ) ≤ last → data k detCol = 0) :
    ∀ row ∈ (rows first last).map data, unoccupied detCol row = true := by
  intro row member
  obtain ⟨k, index, rfl⟩ := List.mem_map.mp member
  obtain ⟨low, high⟩ := mem_rows.mp index
  exact decide_eq_true (free k low high)

theorem occupied_rows {first : ℕ} {last : ℤ}
    (filled : ∀ k, first ≤ k → (k : ℤ) ≤ last → data k detCol ≠ 0) :
    ∀ row ∈ (rows first last).map data, unoccupied detCol row = false := by
  intro row member
  obtain ⟨k, index, rfl⟩ := List.mem_map.mp member
  obtain ⟨low, high⟩ := mem_rows.mp index
  exact decide_eq_false (filled k low high)

theorem detectorCountsLoop_eq
    (detector : DetectorColumn data maxRow detCol)
    (currentRow : ℕ) (counts : ℚ) :
    detectorCountsLoop data maxRow sigCol detCol currentRow counts =
      counts + vehicles sigCol detCol ((rows currentRow maxRow).map data) := by
  -- on the rows left; a pulse that ends leaves those from the row that closes it on
  induction h : (maxRow + 1 - currentRow).toNat using Nat.strong_induction_on
    generalizing currentRow counts with
  | _ n ih =>
    cases occupied : (rows currentRow maxRow).find? fun i => data i detCol = 1 with
    | none =>
      have free : ∀ k, currentRow ≤ k → (k : ℤ) ≤ maxRow → data k detCol = 0 :=
        fun k low high => (detector k high).resolve_right
          (by simpa using rows_find_eq_none.mp occupied k low high)
      have none := vehicles_skip sigCol (unoccupied_rows free) []
      rw [List.append_nil] at none
      rw [detectorCountsLoop_none counts occupied, none, vehicles_open (by simp)]
      simp [openCount]
    | some start =>
      obtain ⟨-, ⟨low, high⟩, before⟩ := rows_find_eq_some.mp occupied
      have free : ∀ k, currentRow ≤ k → (k : ℤ) ≤ (start : ℤ) - 1 → data k detCol = 0 :=
        fun k low' high' => (detector k (by omega)).resolve_right
          (by simpa using before k low' (by omega))
      rw [rows_append low (by omega), List.map_append, vehicles_skip sigCol (unoccupied_rows free)]
      cases closed : (rows start maxRow).find? fun i => data i detCol = 0 with
      | none =>
        have filled : ∀ k, start ≤ k → (k : ℤ) ≤ maxRow → data k detCol ≠ 0 :=
          fun k low' high' => by simpa using rows_find_eq_none.mp closed k low' high'
        rw [detectorCountsLoop_open counts occupied closed, vehicles_open (occupied_rows filled)]
      | some zeroInd =>
        obtain ⟨zero, ⟨later, inside⟩, before'⟩ := rows_find_eq_some.mp closed
        have filled : ∀ k, start ≤ k → (k : ℤ) ≤ (zeroInd : ℤ) - 1 → data k detCol ≠ 0 :=
          fun k low' high' => by simpa using before' k low' (by omega)
        have apart : start ≠ zeroInd := by
          rintro rfl
          have one := (rows_find_eq_some.mp occupied).1
          exact absurd ((of_decide_eq_true zero).symm.trans (of_decide_eq_true one)) zero_ne_one
        have cut : rows start maxRow = rows start (zeroInd - 1) ++ rows zeroInd maxRow :=
          rows_append later (by omega)
        rw [detectorCountsLoop_closed counts occupied closed (by omega),
          ih _ (by omega) zeroInd _ rfl, cut, List.map_append, rows_cons inside, List.map_cons,
          vehicles_closed (occupied_rows filled) zero]
        push_cast
        ring

theorem getDetectorCounts_eq (detector : DetectorColumn data maxRow detCol) :
    getDetectorCounts data maxRow sigCol detCol =
      vehicles sigCol detCol ((rows 0 maxRow).map data) := by
  rw [getDetectorCounts, detectorCountsLoop_eq detector, zero_add]

end counts

section bounds

variable (sigCol : Fin maxcol)

theorem vehiclesByLength_eq_floor (pulse : List Row) :
    vehiclesByLength pulse = ⌊((pulse.length : ℤ) : ℚ) / 100 + 1 / 2⌋ := by
  have nonneg : (0 : ℚ) ≤ ((pulse.length : ℤ) : ℚ) / maxSteps := by
    unfold maxSteps
    positivity
  rw [vehiclesByLength, roundAway, if_pos nonneg]
  rfl

theorem closedCount_cases {pulse : List Row} (some : pulse ≠ []) :
    closedCount sigCol pulse = 1 ∨
      maxSteps ≤ pulse.length ∧ closedCount sigCol pulse = vehiclesByLength pulse := by
  rw [closedCount, if_neg some]
  split_ifs with short green
  · exact Or.inl rfl
  · exact Or.inr ⟨not_lt.mp short, rfl⟩
  · exact Or.inl rfl

theorem openCount_cases {pulse : List Row} (some : pulse ≠ []) :
    openCount sigCol pulse = 1 ∨
      maxSteps ≤ pulse.length ∧ openCount sigCol pulse = vehiclesByLength pulse := by
  rw [openCount, if_neg some]
  split_ifs with short green
  · exact Or.inl rfl
  · exact Or.inr ⟨not_lt.mp short, rfl⟩
  · exact Or.inl rfl

theorem one_le_vehiclesByLength {pulse : List Row} (long : maxSteps ≤ pulse.length) :
    1 ≤ vehiclesByLength pulse := by
  have steps : ((100 : ℤ) : ℚ) ≤ ((pulse.length : ℤ) : ℚ) := Int.cast_le.mpr long
  rw [vehiclesByLength_eq_floor, Int.le_floor]
  push_cast at steps ⊢
  linarith

def atLeast (pulse : List Row) : ℤ := if pulse = [] then 0 else 1

def atMost (pulse : List Row) : ℤ := if pulse = [] then 0 else max 1 (vehiclesByLength pulse)

theorem within_of_cases {count : ℤ} {pulse : List Row} (empty : pulse = [] → count = 0)
    (cases : pulse ≠ [] →
      count = 1 ∨ maxSteps ≤ pulse.length ∧ count = vehiclesByLength pulse) :
    atLeast pulse ≤ count ∧ count ≤ atMost pulse := by
  unfold atLeast atMost
  by_cases none : pulse = []
  · rw [if_pos none, if_pos none, empty none]
    exact ⟨le_rfl, le_rfl⟩
  · rw [if_neg none, if_neg none]
    rcases cases none with rfl | ⟨long, rfl⟩
    · exact ⟨le_rfl, le_max_left _ _⟩
    · exact ⟨one_le_vehiclesByLength long, le_max_right _ _⟩

theorem le_atLeast_of_cases {count : ℤ} {pulse : List Row} (empty : pulse = [] → count = 0)
    (cases : pulse ≠ [] →
      count = 1 ∨ maxSteps ≤ pulse.length ∧ count = vehiclesByLength pulse)
    (short : pulse ≠ [] → (pulse.length : ℤ) < maxSteps) : count ≤ atLeast pulse := by
  unfold atLeast
  by_cases none : pulse = []
  · rw [if_pos none, empty none]
  · rw [if_neg none]
    rcases cases none with rfl | ⟨long, -⟩
    · exact le_rfl
    · exact absurd long (not_le.mpr (short none))

theorem closedCount_within (pulse : List Row) :
    atLeast pulse ≤ closedCount sigCol pulse ∧ closedCount sigCol pulse ≤ atMost pulse :=
  within_of_cases (fun none => if_pos none) (closedCount_cases sigCol)

theorem openCount_within (pulse : List Row) :
    atLeast pulse ≤ openCount sigCol pulse ∧ openCount sigCol pulse ≤ atMost pulse :=
  within_of_cases (fun none => if_pos none) (openCount_cases sigCol)

end bounds

/-- The maximal runs of occupied rows. -/
def pulses (detCol : Fin maxcol) (rs : List Row) : List (List Row) := runs (unoccupied detCol) rs

theorem mem_pulses_iff {detCol : Fin maxcol} {rs pulse : List Row} :
    pulse ∈ pulses detCol rs ↔
      pulse ≠ [] ∧ (∀ row ∈ pulse, row detCol ≠ 0) ∧ Bounded (unoccupied detCol) rs pulse := by
  rw [pulses, mem_runs_iff]
  simp [unoccupied]

section pulses

variable {detCol : Fin maxcol} {rs : List Row}

theorem total_atLeast :
    total (unoccupied detCol) atLeast atLeast rs = (pulses detCol rs).length := by
  have ones : (pulses detCol rs).map atLeast = (pulses detCol rs).map fun _ => 1 :=
    List.map_congr_left fun pulse member => if_neg (mem_pulses_iff.mp member).1
  rw [total_same, sum_runs _ rfl]
  change ((pulses detCol rs).map atLeast).sum = _
  rw [ones]
  simp

theorem total_atMost :
    total (unoccupied detCol) atMost atMost rs =
      ((pulses detCol rs).map fun pulse => max 1 (vehiclesByLength pulse)).sum := by
  have some : (pulses detCol rs).map atMost =
      (pulses detCol rs).map fun pulse => max 1 (vehiclesByLength pulse) :=
    List.map_congr_left fun pulse member => if_neg (mem_pulses_iff.mp member).1
  rw [total_same, sum_runs _ rfl]
  exact congrArg List.sum some

theorem vehicles_within (sigCol : Fin maxcol) :
    ((pulses detCol rs).length : ℤ) ≤ vehicles sigCol detCol rs ∧
      vehicles sigCol detCol rs ≤
        ((pulses detCol rs).map fun pulse => max 1 (vehiclesByLength pulse)).sum := by
  rw [← total_atLeast, ← total_atMost]
  exact ⟨total_le_total (fun pulse _ => (closedCount_within sigCol pulse).1)
      fun pulse _ => (openCount_within sigCol pulse).1,
    total_le_total (fun pulse _ => (closedCount_within sigCol pulse).2)
      fun pulse _ => (openCount_within sigCol pulse).2⟩

theorem vehicles_of_short (sigCol : Fin maxcol)
    (short : ∀ pulse ∈ pulses detCol rs, (pulse.length : ℤ) < maxSteps) :
    vehicles sigCol detCol rs = (pulses detCol rs).length := by
  refine le_antisymm ?_ (vehicles_within sigCol).1
  have one : ∀ pulse ∈ rs.splitOnP (unoccupied detCol), pulse ≠ [] →
      (pulse.length : ℤ) < maxSteps := by
    intro pulse member some
    exact short pulse (List.mem_filter.mpr ⟨member, by simpa using some⟩)
  rw [← total_atLeast]
  exact total_le_total
    (fun pulse member =>
      le_atLeast_of_cases (fun none => if_pos none) (closedCount_cases sigCol) (one pulse member))
    fun pulse member =>
      le_atLeast_of_cases (fun none => if_pos none) (openCount_cases sigCol) (one pulse member)

end pulses

/-- Every pulse is counted, and none for more than it has time for; a short one counts once. -/
theorem getDetectorCounts_within (data : Matrix) (maxRow : ℤ) (sigCol detCol : Fin maxcol)
    (detector : DetectorColumn data maxRow detCol) :
    let ps := pulses detCol ((rows 0 maxRow).map data)
    ∃ n : ℤ, getDetectorCounts data maxRow sigCol detCol = n ∧
      (ps.length ≤ n ∧
        n ≤ (ps.map fun pulse => max 1 (roundAway (((pulse.length : ℤ) : ℚ) / maxSteps))).sum) ∧
      ((∀ pulse ∈ ps, (pulse.length : ℤ) < maxSteps) → n = ps.length) :=
  ⟨_, getDetectorCounts_eq detector, vehicles_within sigCol, vehicles_of_short sigCol⟩

def twoPulses : Matrix := fun i _ => if i = 1 then 0 else 1

theorem twoPulses_column : DetectorColumn twoPulses 2 1 := by
  intro i _
  unfold twoPulses
  split_ifs
  · exact Or.inl rfl
  · exact Or.inr rfl

theorem getDetectorCounts_twoPulses : getDetectorCounts twoPulses 2 0 1 = 2 := by
  have lengths : (pulses 1 ((rows 0 2).map twoPulses)).map List.length = [1, 1] := by decide
  have two : (pulses 1 ((rows 0 2).map twoPulses)).length = 2 := by decide
  obtain ⟨n, counted, -, short⟩ := getDetectorCounts_within twoPulses 2 0 1 twoPulses_column
  have exact := short fun pulse member => by
    have length : pulse.length ∈ [1, 1] := lengths ▸ List.mem_map_of_mem member
    simp only [List.mem_cons, List.not_mem_nil, or_false, or_self] at length
    rw [length]
    decide
  rw [counted, exact, two]
  rfl

def countsOf (sigCol detCol : Fin maxcol) (rs : List Row) : ℚ :=
  getDetectorCounts (matrixOf rs) (rs.length - 1) sigCol detCol

section cut

variable {sigCol detCol : Fin maxcol}

theorem countsOf_eq {rs : List Row} (detector : ∀ row ∈ rs, row detCol = 0 ∨ row detCol = 1) :
    countsOf sigCol detCol rs = vehicles sigCol detCol rs := by
  have column : ∀ i : ℕ, (i : ℤ) ≤ (rs.length : ℤ) - 1 →
      matrixOf rs i detCol = 0 ∨ matrixOf rs i detCol = 1 := by
    intro i inside
    have bound : i < rs.length := by omega
    have member := detector rs[i] (List.getElem_mem bound)
    simpa [matrixOf, bound] using member
  rw [countsOf, getDetectorCounts_eq column, map_matrixOf]

theorem vehicles_append_iff (A B : List Row) {z : Row} (free : unoccupied detCol z = true) :
    vehicles sigCol detCol (A ++ z :: B) = vehicles sigCol detCol A + vehicles sigCol detCol B ↔
      closedCount sigCol (openRun (unoccupied detCol) A) =
        openCount sigCol (openRun (unoccupied detCol) A) := by
  rw [vehicles, vehicles, vehicles, total_append_cons _ _ _ _ free, add_left_inj, total, total,
    add_right_inj]

/-- The two branches differ on a pulse with time for two vehicles that is green for the most
part but not at its start. -/
theorem closedCount_eq_openCount_iff (pulse : List Row) :
    closedCount sigCol pulse = openCount sigCol pulse ↔
      ¬(3 * maxSteps ≤ 2 * pulse.length ∧ mostlyGreen sigCol pulse = true ∧
        startsGreen sigCol pulse = false) := by
  unfold closedCount openCount
  by_cases none : pulse = []
  · simp [none, maxSteps]
  by_cases short : (pulse.length : ℤ) < maxSteps
  · have few : ¬3 * maxSteps ≤ 2 * (pulse.length : ℤ) := by
      unfold maxSteps at *
      omega
    simp [none, short, few]
  have one : vehiclesByLength pulse = 1 ↔ ¬3 * maxSteps ≤ 2 * (pulse.length : ℤ) := by
    have steps : maxSteps = 100 := rfl
    rw [vehiclesByLength_eq_floor, Int.floor_eq_iff, steps]
    constructor
    · rintro ⟨-, high⟩ long
      have more : ((3 * 100 : ℤ) : ℚ) ≤ ((2 * pulse.length : ℤ) : ℚ) := Int.cast_le.mpr long
      push_cast at more high
      linarith
    · intro few
      have less : ((2 * pulse.length : ℤ) : ℚ) < ((3 * 100 : ℤ) : ℚ) :=
        Int.cast_lt.mpr (not_le.mp few)
      have long : ((100 : ℤ) : ℚ) ≤ ((pulse.length : ℤ) : ℚ) := Int.cast_le.mpr (not_lt.mp short)
      push_cast at less long ⊢
      exact ⟨by linarith, by linarith⟩
  rw [if_neg none, if_neg none, if_neg short, if_neg short]
  cases mostlyGreen sigCol pulse
  · simp
  · cases startsGreen sigCol pulse
    · simpa [eq_comm] using one
    · simp

end cut

/-- Counting the rows before and after an unoccupied one apart makes no difference exactly when
the pulse it closes does not have time for two vehicles, or is not green for the most part, or
starts in green. -/
theorem countsOf_append_iff (sigCol detCol : Fin maxcol) (A B : List Row) (z : Row)
    (detector : ∀ row ∈ A ++ B, row detCol = 0 ∨ row detCol = 1) (zero : z detCol = 0) :
    countsOf sigCol detCol (A ++ z :: B) =
        countsOf sigCol detCol A + countsOf sigCol detCol B ↔
      ¬(3 * maxSteps ≤ 2 * (openRun (unoccupied detCol) A).length ∧
        mostlyGreen sigCol (openRun (unoccupied detCol) A) = true ∧
        startsGreen sigCol (openRun (unoccupied detCol) A) = false) := by
  have free : unoccupied detCol z = true := decide_eq_true zero
  have whole : ∀ row ∈ A ++ z :: B, row detCol = 0 ∨ row detCol = 1 := by
    intro row member
    rcases List.mem_append.mp member with left | right
    · exact detector row (List.mem_append_left _ left)
    · rcases List.mem_cons.mp right with rfl | right
      · exact Or.inl zero
      · exact detector row (List.mem_append_right _ right)
  rw [← closedCount_eq_openCount_iff, ← vehicles_append_iff A B free, countsOf_eq whole,
    countsOf_eq fun row left => detector row (List.mem_append_left _ left),
    countsOf_eq fun row right => detector row (List.mem_append_right _ right), ← Int.cast_add,
    Int.cast_inj]

def occupiedRow (signal : ℤ) : Row := ![signal, 1, 0, 0, 0, 0, 0, 0, 0, 0]

theorem countsOf_append_short_pulse :
    countsOf phase5Signal phase5Approach1 ([occupiedRow 1] ++ 0 :: [occupiedRow 0]) =
      countsOf phase5Signal phase5Approach1 [occupiedRow 1] +
        countsOf phase5Signal phase5Approach1 [occupiedRow 0] :=
  (countsOf_append_iff phase5Signal phase5Approach1 [occupiedRow 1] [occupiedRow 0] 0
    (by decide) rfl).mpr (by decide)

/-- Vehicles that wait at red and leave in green, seven and a half seconds in all. -/
def waitAtRed : List Row := occupiedRow 0 :: List.replicate 149 (occupiedRow 1)

/-- Still open at the barrier they are two, closed by one more row they are one. -/
theorem open_pulse_counts_twice :
    countsOf phase5Signal phase5Approach1 waitAtRed = 2 ∧
      countsOf phase5Signal phase5Approach1 (waitAtRed ++ 0 :: []) = 1 ∧
      countsOf phase5Signal phase5Approach1 [] = 0 := by
  have filled : ∀ row ∈ waitAtRed, unoccupied phase5Approach1 row = false := by decide +kernel
  have free : unoccupied phase5Approach1 0 = true := rfl
  have empty : vehicles phase5Signal phase5Approach1 [0] = 0 := by decide +kernel
  have opened : openCount phase5Signal waitAtRed = 2 := by decide +kernel
  have closed : closedCount phase5Signal waitAtRed = 1 := by decide +kernel
  refine ⟨?_, ?_, ?_⟩
  · rw [countsOf_eq (by decide +kernel), vehicles_open filled, opened]
    rfl
  · rw [countsOf_eq (by decide +kernel), vehicles_closed filled free, empty, closed]
    rfl
  · rw [countsOf_eq (by simp), vehicles_open (by simp)]
    rfl

end RampMetering
