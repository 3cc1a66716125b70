import RampMetering.QueueActivation
import RampMetering.RampRange
import RampMetering.Repoll

/-! The mainline averages under polling. A tick is much shorter than the interval of the ramp
statistics, so nearly every tick reads a sample again, and a reading that stands still counts as
stuck. Over a run what is left of the stuck test is this: an average moves only on the tick
on which the reading of a detector jumps by more than the threshold. -/

namespace RampMetering
open Register

theorem stuck_iff {dataTime x : History ℚ} {threshold : ℚ}
    (timed : ∀ p : Fin 5, eps ≤ dataTime p.succ) (room : ∀ i, 0 ≤ threshold * x i) {c : Fin 5}
    (seldom : ∀ p, p ≠ c → x p.succ = x p.castSucc) :
    Stuck dataTime x threshold ↔
      ¬threshold * x (Fin.last 4).castSucc < |x newest - x (Fin.last 4).castSucc| := by
  have newestPair : Unchanged dataTime x threshold (Fin.last 4) ↔
      ¬threshold * x (Fin.last 4).castSucc < |x newest - x (Fin.last 4).castSucc| := by
    rw [not_lt]
    exact and_iff_right (timed _)
  have others : ∀ p, p ≠ c → Unchanged dataTime x threshold p := by
    intro p other
    refine ⟨timed p, ?_⟩
    rw [seldom p other, sub_self, abs_zero]
    exact room _
  have many : 5 / 2 < unchangedCount dataTime x threshold := by
    have most : (Finset.univ.erase c).card ≤ unchangedCount dataTime x threshold := by
      refine Finset.card_le_card fun p member => ?_
      exact Finset.mem_filter.mpr ⟨Finset.mem_univ p, others p (Finset.ne_of_mem_erase member)⟩
    rw [Finset.card_erase_of_mem (Finset.mem_univ c), Finset.card_univ, Fintype.card_fin] at most
    omega
  rw [Stuck, newestPair]
  exact and_iff_right many

structure SameReadings (x y : RampRow) : Prop where
  mainlineLeadOcc : x.mainlineLeadOcc = y.mainlineLeadOcc
  mainlineTrailOcc : x.mainlineTrailOcc = y.mainlineTrailOcc
  mainlineLeadVol : x.mainlineLeadVol = y.mainlineLeadVol
  mainlineTrailVol : x.mainlineTrailVol = y.mainlineTrailVol

instance (x y : RampRow) : Decidable (SameReadings x y) :=
  decidable_of_iff (x.mainlineLeadOcc = y.mainlineLeadOcc ∧
      x.mainlineTrailOcc = y.mainlineTrailOcc ∧ x.mainlineLeadVol = y.mainlineLeadVol ∧
      x.mainlineTrailVol = y.mainlineTrailVol)
    ⟨fun ⟨leadOcc, trailOcc, leadVol, trailVol⟩ => ⟨leadOcc, trailOcc, leadVol, trailVol⟩,
      fun same => ⟨same.mainlineLeadOcc, same.mainlineTrailOcc, same.mainlineLeadVol,
        same.mainlineTrailVol⟩⟩

/-- The readings change at most at every fifth call before call `n`. -/
def Paced (recs : ℕ → Records) (n : ℕ) : Prop :=
  ∀ i j, i < j → j < n → ¬SameReadings (heldRow recs (i + 1)) (heldRow recs i) →
    ¬SameReadings (heldRow recs (j + 1)) (heldRow recs j) → i + 5 ≤ j

/-- The rows that call `k` finds and leaves carry a time of day past its start. -/
def Timed (recs : ℕ → Records) (k : ℕ) : Prop :=
  ∀ i, k < i + 5 → i ≤ k → eps ≤ (heldRow recs (i + 1)).dataTime

/-- Call `k` changes a reading by more than the threshold. -/
def Jumps (reading : RampRow → ℚ) (threshold : ℚ) (recs : ℕ → Records) (k : ℕ) : Prop :=
  threshold * reading (heldRow recs k) < |reading (heldRow recs (k + 1)) - reading (heldRow recs k)|

instance (reading : RampRow → ℚ) (threshold : ℚ) (recs : ℕ → Records) (k : ℕ) :
    Decidable (Jumps reading threshold recs k) :=
  inferInstanceAs (Decidable (_ < _))

theorem Paced.of_le {recs : ℕ → Records} {m n : ℕ} (paced : Paced recs n) (hmn : m ≤ n) :
    Paced recs m :=
  fun i j hij hj => paced i j hij (hj.trans_le hmn)

theorem Paced.seldom {recs : ℕ → Records} {n m : ℕ} (paced : Paced recs n) (inside : m + 5 ≤ n) :
    ∃ c : Fin 5, ∀ p : Fin 5, p ≠ c →
      SameReadings (heldRow recs (m + p + 1)) (heldRow recs (m + p)) := by
  by_cases some : ∃ c : Fin 5, ¬SameReadings (heldRow recs (m + c + 1)) (heldRow recs (m + c))
  · obtain ⟨c, changed⟩ := some
    refine ⟨c, fun p other => ?_⟩
    by_contra changed'
    rcases lt_or_gt_of_ne other with before | after
    · have apart := paced (m + p) (m + c) (by omega) (by omega) changed' changed
      omega
    · have apart := paced (m + c) (m + p) (by omega) (by omega) changed changed'
      omega
  · refine ⟨0, fun p _ => ?_⟩
    by_contra changed
    exact some ⟨p, changed⟩

theorem rowInRange_heldRow (recs : ℕ → Records) (k : ℕ) : RowInRange (heldRow recs k) := by
  induction k with
  | zero => exact rowInRange_zeroRow
  | succ k ih =>
    rw [heldRow]
    split_ifs with accepted
    · exact rowInRange_rowOf accepted
    · exact ih

section verdict

variable {recs : ℕ → Records} {k : ℕ} (settled : 4 ≤ k) (paced : Paced recs (k + 1))
  (timed : Timed recs k)

include settled paced timed

theorem rowHealth_readsAt (r : RampVariables) (status : RampRow → ℤ) (required : ℤ)
    (reading : RampRow → ℚ) (threshold : ℚ)
    (room : ∀ row, RowInRange row → 0 ≤ threshold * reading row)
    (made : ∀ x y, SameReadings x y → reading x = reading y) :
    rowHealth status required reading threshold (rampRows (readsAt r recs (k + 1))) =
      decide (status (heldRow recs (k + 1)) = required ∧ Jumps reading threshold recs k) := by
  obtain ⟨m, rfl⟩ : ∃ m, k = m + 4 := ⟨k - 4, by omega⟩
  have row : ∀ i : Fin numberRampData,
      rampRows (readsAt r recs (m + 4 + 1)) i = heldRow recs (m + i) := by
    intro i
    rw [rampRows_readsAt_heldRow]
    refine congrArg (heldRow recs) ?_
    have inside := i.isLt
    unfold numberRampData at inside
    omega
  obtain ⟨c, seldom⟩ : ∃ c : Fin 5, ∀ p : Fin 5, p ≠ c →
      SameReadings (heldRow recs (m + p + 1)) (heldRow recs (m + p)) := paced.seldom (by omega)
  have times : ∀ p : Fin 5,
      eps ≤ (rampRows (readsAt r recs (m + 4 + 1)) p.succ).dataTime := by
    intro p
    rw [row]
    exact timed (m + p) (by omega) (by omega)
  have readings : ∀ p : Fin 5, p ≠ c →
      reading (rampRows (readsAt r recs (m + 4 + 1)) p.succ) =
        reading (rampRows (readsAt r recs (m + 4 + 1)) p.castSucc) := by
    intro p other
    rw [row, row]
    exact made _ _ (seldom p other)
  have verdict := stuck_iff times (fun i => room _ (row i ▸ rowInRange_heldRow recs _)) readings
  have now : rampRows (readsAt r recs (m + 4 + 1)) newest = heldRow recs (m + 4 + 1) := row newest
  have last : rampRows (readsAt r recs (m + 4 + 1)) (Fin.last 4).castSucc =
      heldRow recs (m + 4) := row (Fin.last 4).castSucc
  rw [now, last] at verdict
  rw [rowHealth, checkHealth_eq, now]
  refine decide_eq_decide.mpr (and_congr_right fun _ => ?_)
  exact (not_congr verdict).trans not_not

end verdict

def LeadOccJumps (lane : Fin numberLane) (recs : ℕ → Records) (k : ℕ) : Prop :=
  Jumps (fun row => row.mainlineLeadOcc lane) thresholdOccHealth recs k

def TrailOccJumps (lane : Fin numberLane) (recs : ℕ → Records) (k : ℕ) : Prop :=
  Jumps (fun row => row.mainlineTrailOcc lane) thresholdOccHealth recs k

def LeadVolJumps (lane : Fin numberLane) (recs : ℕ → Records) (k : ℕ) : Prop :=
  Jumps (fun row => row.mainlineLeadVol lane) thresholdVolHealth recs k

def TrailVolJumps (lane : Fin numberLane) (recs : ℕ → Records) (k : ℕ) : Prop :=
  Jumps (fun row => row.mainlineTrailVol lane) thresholdVolHealth recs k

instance (lane : Fin numberLane) (recs : ℕ → Records) (k : ℕ) :
    Decidable (LeadOccJumps lane recs k) := inferInstanceAs (Decidable (Jumps _ _ recs k))

instance (lane : Fin numberLane) (recs : ℕ → Records) (k : ℕ) :
    Decidable (TrailOccJumps lane recs k) := inferInstanceAs (Decidable (Jumps _ _ recs k))

instance (lane : Fin numberLane) (recs : ℕ → Records) (k : ℕ) :
    Decidable (LeadVolJumps lane recs k) := inferInstanceAs (Decidable (Jumps _ _ recs k))

instance (lane : Fin numberLane) (recs : ℕ → Records) (k : ℕ) :
    Decidable (TrailVolJumps lane recs k) := inferInstanceAs (Decidable (Jumps _ _ recs k))

/-- A call that is handed the held row again makes no reading jump. -/
theorem not_jumps_of_held {recs : ℕ → Records} {k : ℕ} {reading : RampRow → ℚ} {threshold : ℚ}
    (held : heldRow recs (k + 1) = heldRow recs k)
    (room : ∀ row, RowInRange row → 0 ≤ threshold * reading row) :
    ¬Jumps reading threshold recs k := by
  rw [Jumps, held, sub_self, abs_zero, not_lt]
  exact room _ (rowInRange_heldRow recs k)

section room

variable {row : RampRow} (inRange : RowInRange row) (lane : Fin numberLane)

include inRange

theorem leadOcc_room : 0 ≤ thresholdOccHealth * row.mainlineLeadOcc lane :=
  mul_nonneg (by norm_num [thresholdOccHealth]) (inRange.mainlineLeadOcc lane)

theorem trailOcc_room : 0 ≤ thresholdOccHealth * row.mainlineTrailOcc lane :=
  mul_nonneg (by norm_num [thresholdOccHealth]) (inRange.mainlineTrailOcc lane)

theorem leadVol_room : 0 ≤ thresholdVolHealth * (row.mainlineLeadVol lane : ℚ) :=
  mul_nonneg (by norm_num [thresholdVolHealth]) (Int.cast_nonneg (inRange.mainlineLeadVol lane).1)

theorem trailVol_room : 0 ≤ thresholdVolHealth * (row.mainlineTrailVol lane : ℚ) :=
  mul_nonneg (by norm_num [thresholdVolHealth]) (Int.cast_nonneg (inRange.mainlineTrailVol lane).1)

end room

def occupancyAfter (lead trail : Bool) (row : RampRow) (lane : Fin numberLane) (kept : ℚ) : ℚ :=
  select lead trail (1 / 2 * (row.mainlineLeadOcc lane + row.mainlineTrailOcc lane))
    (row.mainlineLeadOcc lane) (row.mainlineTrailOcc lane) kept

def volumeAfter (lead trail : Bool) (row : RampRow) (lane : Fin numberLane) (kept : ℤ) : ℤ :=
  select lead trail ((row.mainlineLeadVol lane + row.mainlineTrailVol lane).tdiv 2)
    (row.mainlineLeadVol lane) (row.mainlineTrailVol lane) kept

def leadOccHealth (lane : Fin numberLane) (rows : History RampRow) : Bool :=
  rowHealth (fun row => row.mainlineLeadStatus lane) mainlineDetectorWorking
    (fun row => row.mainlineLeadOcc lane) thresholdOccHealth rows

def trailOccHealth (lane : Fin numberLane) (rows : History RampRow) : Bool :=
  rowHealth (fun row => row.mainlineTrailStatus lane) mainlineDetectorDisable
    (fun row => row.mainlineTrailOcc lane) thresholdOccHealth rows

def leadVolHealth (lane : Fin numberLane) (rows : History RampRow) : Bool :=
  rowHealth (fun row => row.mainlineLeadStatus lane) mainlineDetectorWorking
    (fun row => row.mainlineLeadVol lane) thresholdVolHealth rows

def trailVolHealth (lane : Fin numberLane) (rows : History RampRow) : Bool :=
  rowHealth (fun row => row.mainlineTrailStatus lane) mainlineDetectorDisable
    (fun row => row.mainlineTrailVol lane) thresholdVolHealth rows

theorem averages_after (r : RampVariables) (lane : Fin numberLane) :
    (averages r).mainlineAvgOccupancy lane =
        occupancyAfter (leadOccHealth lane (rampRows r)) (trailOccHealth lane (rampRows r))
          (rampRows r newest) lane (r.mainlineAvgOccupancy lane) ∧
      (averages r).mainlineAvgVolume lane =
        volumeAfter (leadVolHealth lane (rampRows r)) (trailVolHealth lane (rampRows r))
          (rampRows r newest) lane (r.mainlineAvgVolume lane) :=
  ⟨rfl, rfl⟩

theorem averages_accepted {rec : Records} (accepted : accepts rec = true) (r : RampVariables)
    (lane : Fin numberLane) {rows : History RampRow}
    (left : rampRows (readRampData (decode rec) r).1 = rows) :
    (readRampData (decode rec) r).1.mainlineAvgOccupancy lane =
        occupancyAfter (leadOccHealth lane rows) (trailOccHealth lane rows) (rows newest) lane
          (r.mainlineAvgOccupancy lane) ∧
      (readRampData (decode rec) r).1.mainlineAvgVolume lane =
        volumeAfter (leadVolHealth lane rows) (trailVolHealth lane rows) (rows newest) lane
          (r.mainlineAvgVolume lane) := by
  subst left
  rw [readRampData_accepted accepted]
  exact averages_after (withRows r (push (rampRows r) (rowOf rec))) lane

def FollowsJumps (recs : ℕ → Records) (k : ℕ) (lane : Fin numberLane) (r r' : RampVariables) :
    Prop :=
  let row := heldRow recs (k + 1)
  r'.mainlineAvgOccupancy lane =
      occupancyAfter
        (decide (row.mainlineLeadStatus lane = mainlineDetectorWorking ∧ LeadOccJumps lane recs k))
        (decide
          (row.mainlineTrailStatus lane = mainlineDetectorDisable ∧ TrailOccJumps lane recs k))
        row lane (r.mainlineAvgOccupancy lane) ∧
    r'.mainlineAvgVolume lane =
      volumeAfter
        (decide (row.mainlineLeadStatus lane = mainlineDetectorWorking ∧ LeadVolJumps lane recs k))
        (decide
          (row.mainlineTrailStatus lane = mainlineDetectorDisable ∧ TrailVolJumps lane recs k))
        row lane (r.mainlineAvgVolume lane)

def NoJump (recs : ℕ → Records) (k : ℕ) (lane : Fin numberLane) : Prop :=
  ¬LeadOccJumps lane recs k ∧ ¬TrailOccJumps lane recs k ∧ ¬LeadVolJumps lane recs k ∧
    ¬TrailVolJumps lane recs k

theorem noJump_of_held {recs : ℕ → Records} {k : ℕ} (held : heldRow recs (k + 1) = heldRow recs k)
    (lane : Fin numberLane) : NoJump recs k lane :=
  ⟨not_jumps_of_held held fun _ inRange => leadOcc_room inRange lane,
    not_jumps_of_held held fun _ inRange => trailOcc_room inRange lane,
    not_jumps_of_held held fun _ inRange => leadVol_room inRange lane,
    not_jumps_of_held held fun _ inRange => trailVol_room inRange lane⟩

theorem followsJumps_iff_of_noJump {recs : ℕ → Records} {k : ℕ} {lane : Fin numberLane}
    {r r' : RampVariables} (none : NoJump recs k lane) :
    FollowsJumps recs k lane r r' ↔
      r'.mainlineAvgOccupancy lane = r.mainlineAvgOccupancy lane ∧
        r'.mainlineAvgVolume lane = r.mainlineAvgVolume lane := by
  obtain ⟨leadOcc, trailOcc, leadVol, trailVol⟩ := none
  simp only [FollowsJumps, leadOcc, trailOcc, leadVol, trailVol, and_false, decide_false]
  rfl

theorem followsJumps_rejected {recs : ℕ → Records} {k : ℕ} (rejected : accepts (recs k) = false)
    (r : RampVariables) (lane : Fin numberLane) :
    FollowsJumps recs k lane r (readRampData (decode (recs k)) r).1 := by
  have held : heldRow recs (k + 1) = heldRow recs k := by
    rw [heldRow, if_neg]
    rw [rejected]
    exact Bool.false_ne_true
  rw [followsJumps_iff_of_noJump (noJump_of_held held lane), readRampData_rejected rejected]
  exact ⟨rfl, rfl⟩

section accepted

variable {recs : ℕ → Records} {k : ℕ} (settled : 4 ≤ k) (paced : Paced recs (k + 1))
  (timed : Timed recs k) (lane : Fin numberLane)

include settled paced timed

theorem healths_readsAt :
    let row := heldRow recs (k + 1)
    let rows := rampRows (readsAt staticRamp recs (k + 1))
    (leadOccHealth lane rows =
        decide (row.mainlineLeadStatus lane = mainlineDetectorWorking ∧
          LeadOccJumps lane recs k) ∧
      trailOccHealth lane rows =
        decide (row.mainlineTrailStatus lane = mainlineDetectorDisable ∧
          TrailOccJumps lane recs k)) ∧
    leadVolHealth lane rows =
        decide (row.mainlineLeadStatus lane = mainlineDetectorWorking ∧
          LeadVolJumps lane recs k) ∧
      trailVolHealth lane rows =
        decide (row.mainlineTrailStatus lane = mainlineDetectorDisable ∧
          TrailVolJumps lane recs k) := by
  refine ⟨⟨?_, ?_⟩, ?_, ?_⟩
  · exact rowHealth_readsAt settled paced timed staticRamp _ _ _ _
      (fun _ inRange => leadOcc_room inRange lane)
      fun _ _ same => congrFun same.mainlineLeadOcc lane
  · exact rowHealth_readsAt settled paced timed staticRamp _ _ _ _
      (fun _ inRange => trailOcc_room inRange lane)
      fun _ _ same => congrFun same.mainlineTrailOcc lane
  · exact rowHealth_readsAt settled paced timed staticRamp _ _ _ _
      (fun _ inRange => leadVol_room inRange lane)
      fun _ _ same => congrArg _ (congrFun same.mainlineLeadVol lane)
  · exact rowHealth_readsAt settled paced timed staticRamp _ _ _ _
      (fun _ inRange => trailVol_room inRange lane)
      fun _ _ same => congrArg _ (congrFun same.mainlineTrailVol lane)

theorem followsJumps_accepted (accepted : accepts (recs k) = true) {r : RampVariables}
    (rows : rampRows (readRampData (decode (recs k)) r).1 =
      rampRows (readsAt staticRamp recs (k + 1))) :
    FollowsJumps recs k lane r (readRampData (decode (recs k)) r).1 := by
  have after := averages_accepted accepted r lane rows
  have now : rampRows (readsAt staticRamp recs (k + 1)) newest = heldRow recs (k + 1) :=
    rampRows_readsAt_heldRow staticRamp recs (k + 1) newest
  obtain ⟨⟨leadOcc, trailOcc⟩, leadVol, trailVol⟩ := healths_readsAt settled paced timed lane
  rw [leadOcc, trailOcc, leadVol, trailVol, now] at after
  exact after

end accepted

section run

variable (p : Platform) (t : Tuning) (maxGreen1 : ℤ) (u : DbUrmsStatus) (ins : ℕ → Input)

theorem averages_daemonAt_succ (k : ℕ) (lane : Fin numberLane) :
    (daemonAt p t (start maxGreen1 u) ins (k + 1)).ramp.mainlineAvgOccupancy lane =
        (readRampData (decode (ins k).records)
          (daemonAt p t (start maxGreen1 u) ins k).ramp).1.mainlineAvgOccupancy lane ∧
      (daemonAt p t (start maxGreen1 u) ins (k + 1)).ramp.mainlineAvgVolume lane =
        (readRampData (decode (ins k).records)
          (daemonAt p t (start maxGreen1 u) ins k).ramp).1.mainlineAvgVolume lane := by
  rw [daemonAt_succ, next_rampTick, rampTick, testRamp]
  dsimp only
  split_ifs
  · exact ⟨rfl, rfl⟩
  · exact ⟨rfl, rfl⟩

theorem rows_readRampData (k : ℕ) :
    rampRows (readRampData (decode (ins k).records)
        (daemonAt p t (start maxGreen1 u) ins k).ramp).1 =
      rampRows (readsAt staticRamp (recordsOf ins) (k + 1)) := by
  have polled := rampRows_rampTick (daemonAt p t (start maxGreen1 u) ins k).ramp
    (rampInputOf (daemonAt p t (start maxGreen1 u) ins k) (ins k))
  rw [← next_rampTick p t] at polled
  exact polled.symm.trans (rampRows_daemonAt p t maxGreen1 u ins (k + 1))

theorem averages_jump {k : ℕ} (settled : 4 ≤ k) (paced : Paced (recordsOf ins) (k + 1))
    (timed : Timed (recordsOf ins) k) (lane : Fin numberLane) :
    FollowsJumps (recordsOf ins) k lane (daemonAt p t (start maxGreen1 u) ins k).ramp
      (daemonAt p t (start maxGreen1 u) ins (k + 1)).ramp := by
  have written := averages_daemonAt_succ p t maxGreen1 u ins k lane
  rw [FollowsJumps, written.1, written.2]
  cases verdict : accepts (recordsOf ins k)
  · exact followsJumps_rejected verdict _ lane
  · exact followsJumps_accepted settled paced timed lane verdict
      (rows_readRampData p t maxGreen1 u ins k)

/-- In a paced run the averages follow the jumps of the readings and nothing else; on ticks on
which no detector of a lane jumps they stand still, however far the readings drift from them. -/
theorem averages_follow_jumps {j k : ℕ} (settled : 4 ≤ j) (hjk : j ≤ k)
    (paced : Paced (recordsOf ins) k) (timed : ∀ i, j ≤ i → i < k → Timed (recordsOf ins) i)
    (lane : Fin numberLane) :
    let ramp := fun i => (daemonAt p t (start maxGreen1 u) ins i).ramp
    (∀ i, j ≤ i → i < k → FollowsJumps (recordsOf ins) i lane (ramp i) (ramp (i + 1))) ∧
      ((∀ i, j ≤ i → i < k → NoJump (recordsOf ins) i lane) →
        (ramp k).mainlineAvgOccupancy lane = (ramp j).mainlineAvgOccupancy lane ∧
          (ramp k).mainlineAvgVolume lane = (ramp j).mainlineAvgVolume lane) := by
  intro ramp
  have step : ∀ i, j ≤ i → i < k →
      FollowsJumps (recordsOf ins) i lane (ramp i) (ramp (i + 1)) := fun i hji hik =>
    averages_jump p t maxGreen1 u ins (settled.trans hji) (paced.of_le hik) (timed i hji hik) lane
  refine ⟨step, fun none => ?_⟩
  clear paced timed
  induction k, hjk using Nat.le_induction with
  | base => exact ⟨rfl, rfl⟩
  | succ k hjk ih =>
    have before := ih (fun i hji hik => step i hji (by omega))
      fun i hji hik => none i hji (by omega)
    have now := (followsJumps_iff_of_noJump (none k hjk (Nat.lt_succ_self k))).mp
      (step k hjk (Nat.lt_succ_self k))
    exact ⟨now.1.trans before.1, now.2.trans before.2⟩

end run

def driftingInput (k : ℕ) : Input :=
  { quietInput with
    records.phaseStatus.ts := ⟨16, 0, 0, 0⟩
    records.urmsDatafile.mainlineLeadOcc := fun _ => 20 + (k / 5 : ℕ) / 2
    records.dbUrmsStatus.mainlineStat := fun _ => ⟨2, 0, 2, 0⟩ }

theorem drift_unseen :
    (daemonAt straying {} (start 25 zeroRecords.dbUrmsStatus) driftingInput
        24).ramp.mainlineAvgOccupancy 1 =
      (daemonAt straying {} (start 25 zeroRecords.dbUrmsStatus) driftingInput
        4).ramp.mainlineAvgOccupancy 1 := by
  have paced : Paced (recordsOf driftingInput) 24 := by
    have seldom : ∀ j < 24, ∀ i < j, ¬SameReadings (heldRow (recordsOf driftingInput) (i + 1))
        (heldRow (recordsOf driftingInput) i) →
        ¬SameReadings (heldRow (recordsOf driftingInput) (j + 1))
          (heldRow (recordsOf driftingInput) j) → i + 5 ≤ j := by
      decide +kernel
    exact fun i j hij hj => seldom j hj i hij
  have timed : ∀ i < 24, Timed (recordsOf driftingInput) i := by
    have late : ∀ i < 24, eps ≤ (heldRow (recordsOf driftingInput) (i + 1)).dataTime := by
      decide +kernel
    exact fun i hi m _ hmi => late m (by omega)
  have none : ∀ i < 24, 4 ≤ i → NoJump (recordsOf driftingInput) i 1 := by
    unfold NoJump
    decide +kernel
  have follow := averages_follow_jumps straying {} 25 zeroRecords.dbUrmsStatus driftingInput
    le_rfl (by decide) paced (fun i _ hi => timed i hi) 1
  exact (follow.2 fun i hji hi => none i hi hji).1

end RampMetering
