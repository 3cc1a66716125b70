import RampMetering.Averages
import RampMetering.MaxGreen
import Mathlib.Algebra.BigOperators.Fin
import Mathlib.Algebra.Order.BigOperators.Group.Finset

/-! Reading one sample several times. `test()` calls `read_ramp_data` on every tick, while the
statistics change every `RAMP_DATA_INTERVAL` seconds. A repeated sample pushes real rows out:
the stuck test counts the copies as readings that did not change, and the exit volume adds the
passage volume of each of them. -/

namespace RampMetering
open Register

theorem rampExitLoop_congr {r r' : RampVariables} (times : r.dataTime = r'.dataTime)
    (vols : totalPassageVol r = totalPassageVol r') (t1 t2 : ℚ) (i : ℕ)
    (hi : i < numberRampData) (c : ℚ) :
    rampExitLoop r t1 t2 i hi c = rampExitLoop r' t1 t2 i hi c := by
  induction i generalizing c with
  | zero =>
    rw [rampExitLoop, rampExitLoop]
    simp only [times, vols]
  | succ i ih =>
    rw [rampExitLoop, rampExitLoop]
    simp only [times, vols, ih]

theorem rampExitLoop_zero {r : RampVariables} (zero : ∀ i, totalPassageVol r i = 0) (t1 t2 : ℚ)
    (i : ℕ) (hi : i < numberRampData) (c : ℚ) : rampExitLoop r t1 t2 i hi c = c := by
  induction i generalizing c with
  | zero =>
    rw [rampExitLoop]
    simp [zero]
  | succ i ih =>
    rw [rampExitLoop]
    simp [zero, ih]

def AllInside (r : RampVariables) (t1 t2 : ℚ) : Prop :=
  ∀ i, r.dataTime i ≤ t2 + eps ∧ t1 - eps ≤ r.dataTime i

theorem rampExitLoop_inside {r : RampVariables} {t1 t2 : ℚ} (inside : AllInside r t1 t2) (i : ℕ)
    (hi : i < numberRampData) (c : ℚ) :
    rampExitLoop r t1 t2 i hi c =
      c + (if i = numberRampData - 1 then
          max 0 (t2 - r.dataTime ⟨i, hi⟩) / rampDataInterval * totalPassageVol r ⟨i, hi⟩ else 0) +
        (∑ j : Fin i, max 0 (totalPassageVol r ⟨j + 1, by omega⟩)) +
        max 0 (r.dataTime 0 - t1) / rampDataInterval * totalPassageVol r 0 := by
  induction i generalizing c with
  | zero =>
    have oldest := inside 0
    rw [rampExitLoop]
    simp [oldest, numberRampData]
  | succ i ih =>
    have older : i ≠ numberRampData - 1 := by
      simp only [numberRampData] at hi ⊢
      omega
    rw [rampExitLoop]
    simp only [ge_iff_le, inside ⟨i + 1, hi⟩, inside ⟨i, by omega⟩, and_self, if_true, ih, older,
      if_false, Fin.sum_univ_castSucc, Fin.val_castSucc, Fin.val_last]
    split_ifs
    · ring
    · ring

def rowVol (row : RampRow) : ℚ := ((row.passageVol 0 + row.passageVol 1 + row.passageVol 2 : ℤ) : ℚ)

theorem totalPassageVol_eq (r : RampVariables) (i : Fin numberRampData) :
    totalPassageVol r i = rowVol (rampRows r i) := rfl

/-- Over a window around all rows the newest and the oldest row count by their distance from
its ends, and the rows after the oldest count whole. -/
theorem getRampExitVol_around {r : RampVariables} {t1 t2 : ℚ} (start : ∀ i, t1 ≤ r.dataTime i)
    (stop : ∀ i, r.dataTime i ≤ t2) :
    getRampExitVol r t1 t2 =
      ((t2 - r.dataTime newest) / rampDataInterval * totalPassageVol r newest +
        (∑ j : Fin 5, max 0 (totalPassageVol r j.succ)) +
        (r.dataTime 0 - t1) / rampDataInterval * totalPassageVol r 0) *
          rampExitFlowAdjustFactor := by
  have margin := eps_nonneg
  have inside : AllInside r t1 t2 := fun i => ⟨by linarith [stop i], by linarith [start i]⟩
  have newer : max 0 (t2 - r.dataTime newest) = t2 - r.dataTime newest :=
    max_eq_right (sub_nonneg.mpr (stop newest))
  have older : max 0 (r.dataTime 0 - t1) = r.dataTime 0 - t1 :=
    max_eq_right (sub_nonneg.mpr (start 0))
  have closed := rampExitLoop_inside inside (numberRampData - 1) (by decide) 0
  rw [if_pos rfl, older] at closed
  rw [getRampExitVol, closed]
  have last : (⟨numberRampData - 1, by decide⟩ : Fin numberRampData) = newest := rfl
  rw [last, newer, zero_add]
  rfl

theorem oldest_of_exit (r r' : RampVariables) (now : r'.dataTime newest = r.dataTime newest)
    (vol : totalPassageVol r' newest = totalPassageVol r newest)
    (same : ∀ t1 t2, t1 ≤ t2 → r.dataTime newest ≤ t2 →
      getRampExitVol r' t1 t2 = getRampExitVol r t1 t2) :
    totalPassageVol r' 0 = totalPassageVol r 0 ∧
      (∑ j : Fin 5, max 0 (totalPassageVol r' j.succ)) +
          r'.dataTime 0 / rampDataInterval * totalPassageVol r' 0 =
        (∑ j : Fin 5, max 0 (totalPassageVol r j.succ)) +
          r.dataTime 0 / rampDataInterval * totalPassageVol r 0 := by
  obtain ⟨bound, bounds⟩ : ∃ bound : ℚ, ∀ i, |r.dataTime i| ≤ bound ∧ |r'.dataTime i| ≤ bound := by
    refine ⟨∑ i, (|r.dataTime i| + |r'.dataTime i|), fun i => ?_⟩
    have part := Finset.single_le_sum
      (fun i _ => add_nonneg (abs_nonneg (r.dataTime i)) (abs_nonneg (r'.dataTime i)))
      (Finset.mem_univ i)
    exact ⟨by linarith [abs_nonneg (r'.dataTime i)], by linarith [abs_nonneg (r.dataTime i)]⟩
  have factor := rampExitFlowAdjustFactor_pos.ne'
  have window : ∀ t1 ≤ -bound,
      (bound - r.dataTime newest) / rampDataInterval * totalPassageVol r newest +
          (∑ j : Fin 5, max 0 (totalPassageVol r' j.succ)) +
          (r'.dataTime 0 - t1) / rampDataInterval * totalPassageVol r' 0 =
        (bound - r.dataTime newest) / rampDataInterval * totalPassageVol r newest +
          (∑ j : Fin 5, max 0 (totalPassageVol r j.succ)) +
          (r.dataTime 0 - t1) / rampDataInterval * totalPassageVol r 0 := by
    intro t1 early
    have nonneg : 0 ≤ bound := (abs_nonneg _).trans (bounds newest).1
    have low : ∀ i, t1 ≤ r.dataTime i ∧ t1 ≤ r'.dataTime i := fun i =>
      ⟨early.trans (abs_le.mp (bounds i).1).1, early.trans (abs_le.mp (bounds i).2).1⟩
    have high : ∀ i, r.dataTime i ≤ bound ∧ r'.dataTime i ≤ bound := fun i =>
      ⟨(abs_le.mp (bounds i).1).2, (abs_le.mp (bounds i).2).2⟩
    have volumes := same t1 bound (by linarith) (high newest).1
    rw [getRampExitVol_around (fun i => (low i).1) (fun i => (high i).1),
      getRampExitVol_around (fun i => (low i).2) (fun i => (high i).2), now, vol] at volumes
    exact mul_right_cancel₀ factor volumes
  have near := window (-bound) le_rfl
  have far := window (-bound - 30) (by linarith)
  simp only [rampDataInterval] at near far ⊢
  have oldest : totalPassageVol r' 0 = totalPassageVol r 0 := by linarith
  rw [oldest] at near ⊢
  exact ⟨rfl, by linarith⟩

def poll (rec : Records) (r : RampVariables) : RampVariables := (readRampData (decode rec) r).1

/-- The history in which the sample stands `k` times. -/
def repeated (rec : Records) (r : RampVariables) (k : ℕ) : RampVariables :=
  withRows r ((fun x => push x (rowOf rec))^[k] (rampRows r))

theorem rampRows_repeated (rec : Records) (r : RampVariables) (k : ℕ) (i : Fin numberRampData) :
    rampRows (repeated rec r (k + 1)) i =
      if h : i + k < 6 then rampRows (repeated rec r 1) ⟨i + k, h⟩ else rowOf rec := by
  rw [repeated, rampRows_withRows, Function.iterate_succ_apply]
  exact iterate_push_apply _ _ k i

theorem newest_repeated (rec : Records) (r : RampVariables) (k : ℕ) :
    rampRows (repeated rec r (k + 1)) newest = rowOf rec := by
  rw [repeated, rampRows_withRows, Function.iterate_succ_apply']
  exact push_last _ _

section poll

variable {rec : Records} (accepted : accepts rec = true) (r : RampVariables)

include accepted

theorem rampRows_poll_iterate (k : ℕ) :
    rampRows ((poll rec)^[k] r) = rampRows (repeated rec r k) := by
  induction k with
  | zero => rfl
  | succ k ih =>
    have once := rampRows_readRampData rec ((poll rec)^[k] r)
    rw [ih, if_pos accepted] at once
    rw [Function.iterate_succ_apply']
    refine once.trans ?_
    simp only [repeated, rampRows_withRows, Function.iterate_succ_apply']

theorem rampRows_poll_succ (k : ℕ) (i : Fin numberRampData) :
    rampRows ((poll rec)^[k + 1] r) i =
      if h : i + k < 6 then rampRows (repeated rec r 1) ⟨i + k, h⟩ else rowOf rec := by
  rw [rampRows_poll_iterate accepted, rampRows_repeated]

theorem newest_poll_succ (k : ℕ) : rampRows ((poll rec)^[k + 1] r) newest = rowOf rec := by
  rw [rampRows_poll_iterate accepted, newest_repeated]

theorem oldest_poll_succ (i : Fin numberRampData) :
    rampRows ((poll rec)^[i + 1] r) 0 = rampRows (repeated rec r 1) i := by
  rw [rampRows_poll_succ accepted, dif_pos (by simp)]
  simp

theorem poll_succ_mem (k : ℕ) (i : Fin numberRampData) :
    ∃ j, rampRows ((poll rec)^[k + 1] r) i = rampRows (repeated rec r 1) j := by
  rw [rampRows_poll_succ accepted]
  split_ifs with inside
  · exact ⟨⟨i + k, inside⟩, rfl⟩
  · exact ⟨newest, (newest_repeated rec r 0).symm⟩

theorem vols_poll_succ (vols : ∀ i, rowVol (rampRows (repeated rec r 1) i) = rowVol (rowOf rec))
    (k : ℕ) (i : Fin numberRampData) :
    totalPassageVol ((poll rec)^[k + 1] r) i = rowVol (rowOf rec) := by
  obtain ⟨j, row⟩ := poll_succ_mem accepted r k i
  rw [totalPassageVol_eq, row, vols]

end poll

/-- After one call the six rows have one passage volume, and unless it is zero one time. -/
def ExitSteady (rec : Records) (r : RampVariables) : Prop :=
  ∀ i, rowVol (rampRows (repeated rec r 1) i) = rowVol (rowOf rec) ∧
    (rowVol (rowOf rec) ≠ 0 →
      (rampRows (repeated rec r 1) i).dataTime = getDataTime (decode rec))

theorem exitSteady_of_same {rec : Records} (accepted : accepts rec = true) (r : RampVariables)
    (same : ∀ k ≥ 1, ∀ t1 t2, t1 ≤ t2 → getDataTime (decode rec) ≤ t2 →
      getRampExitVol ((poll rec)^[k] r) t1 t2 = getRampExitVol (poll rec r) t1 t2) :
    ExitSteady rec r := by
  have now := newest_repeated rec r 0
  have time : ((poll rec)^[1] r).dataTime newest = getDataTime (decode rec) :=
    congrArg RampRow.dataTime (newest_poll_succ accepted r 0)
  have alike : ∀ k, rampRows ((poll rec)^[k + 1] r) newest = rampRows ((poll rec)^[1] r) newest :=
    fun k => (newest_poll_succ accepted r k).trans (newest_poll_succ accepted r 0).symm
  have parts := fun k : ℕ => oldest_of_exit ((poll rec)^[1] r) ((poll rec)^[k + 1] r)
    (congrArg RampRow.dataTime (alike k)) (congrArg rowVol (alike k))
    (fun t1 t2 ordered late => same (k + 1) (by omega) t1 t2 ordered (time.symm.trans_le late))
  have first : ∀ i, rowVol (rampRows (repeated rec r 1) i) =
      rowVol (rampRows (repeated rec r 1) 0) := by
    intro i
    rw [← oldest_poll_succ accepted r i, ← oldest_poll_succ accepted r 0]
    exact (parts i).1
  have vols : ∀ i, rowVol (rampRows (repeated rec r 1) i) = rowVol (rowOf rec) := by
    intro i
    rw [first i, ← first newest, now]
  have rows := vols_poll_succ accepted r vols
  have times : ∀ i : Fin numberRampData, rowVol (rowOf rec) ≠ 0 →
      (rampRows (repeated rec r 1) i).dataTime = (rampRows (repeated rec r 1) 0).dataTime := by
    intro i some
    have moved := (parts i).2
    simp only [rows, add_right_inj] at moved
    have unit := rampDataInterval_pos.ne'
    rw [← oldest_poll_succ accepted r i, ← oldest_poll_succ accepted r 0]
    exact (div_left_inj' unit).mp (mul_right_cancel₀ some moved)
  refine fun i => ⟨vols i, fun some => ?_⟩
  rw [times i some, ← times newest some, now]
  rfl

theorem ExitSteady.same {rec : Records} {r : RampVariables} (steady : ExitSteady rec r)
    (accepted : accepts rec = true) (k : ℕ) (t1 t2 : ℚ) :
    getRampExitVol ((poll rec)^[k + 1] r) t1 t2 = getRampExitVol (poll rec r) t1 t2 := by
  have rows := vols_poll_succ accepted r fun i => (steady i).1
  have once : ∀ i, totalPassageVol (poll rec r) i = rowVol (rowOf rec) := rows 0
  unfold getRampExitVol
  by_cases none : rowVol (rowOf rec) = 0
  · rw [rampExitLoop_zero (fun i => (rows k i).trans none),
      rampExitLoop_zero (fun i => (once i).trans none)]
  · have times : ∀ k, ((poll rec)^[k + 1] r).dataTime = fun _ => getDataTime (decode rec) := by
      intro k
      funext i
      obtain ⟨j, row⟩ := poll_succ_mem accepted r k i
      exact (congrArg RampRow.dataTime row).trans ((steady j).2 none)
    have alike := rampExitLoop_congr ((times k).trans (times 0).symm)
      (funext fun i => (rows k i).trans (rows 0 i).symm) t1 t2 (numberRampData - 1)
      (by decide) 0
    exact congrArg (· * rampExitFlowAdjustFactor) alike

theorem exit_steady_iff {rec : Records} (accepted : accepts rec = true) (r : RampVariables) :
    (∀ k ≥ 1, ∀ t1 t2, t1 ≤ t2 → getDataTime (decode rec) ≤ t2 →
        getRampExitVol ((poll rec)^[k] r) t1 t2 = getRampExitVol (poll rec r) t1 t2) ↔
      ExitSteady rec r := by
  constructor
  · exact exitSteady_of_same accepted r
  · intro steady k positive t1 t2 _ _
    obtain ⟨k, rfl⟩ : ∃ n, k = n + 1 := ⟨k - 1, by omega⟩
    exact steady.same accepted k t1 t2

/-- A detector that is stuck stays stuck when its newest reading is read again. -/
theorem stuck_push {dataTime x : History ℚ} {threshold : ℚ} (room : 0 ≤ threshold * x newest)
    (stuck : Stuck dataTime x threshold) :
    Stuck (push dataTime (dataTime newest)) (push x (x newest)) threshold := by
  obtain ⟨many, late, -⟩ := stuck
  have last : Unchanged (push dataTime (dataTime newest)) (push x (x newest)) threshold
      (Fin.last 4) := by
    refine ⟨?_, ?_⟩
    · rw [Fin.succ_last, push_last]
      exact late
    · rw [Fin.succ_last, push_last, push_castSucc, Fin.succ_last]
      change |x newest - x newest| ≤ threshold * x newest
      simpa using room
  have older : ∀ p : Fin 4,
      Unchanged (push dataTime (dataTime newest)) (push x (x newest)) threshold p.castSucc ↔
        Unchanged dataTime x threshold p.succ := by
    intro p
    rw [Unchanged, Unchanged, Fin.succ_castSucc, push_castSucc, push_castSucc, push_castSucc,
      Fin.succ_castSucc]
  refine ⟨many.trans_le ?_, last⟩
  calc unchangedCount dataTime x threshold
      = (if Unchanged dataTime x threshold 0 then 1 else 0) +
          ∑ p : Fin 4, if Unchanged dataTime x threshold p.succ then 1 else 0 := by
        rw [unchangedCount, Finset.card_filter, Fin.sum_univ_succ]
    _ ≤ (∑ p : Fin 4, if Unchanged dataTime x threshold p.succ then 1 else 0) + 1 := by
        split_ifs
        · omega
        · omega
    _ = unchangedCount (push dataTime (dataTime newest)) (push x (x newest)) threshold := by
        symm
        rw [unchangedCount, Finset.card_filter, Fin.sum_univ_castSucc, if_pos last]
        simp only [older]

def unchangedSince (dataTime x : History ℚ) (threshold : ℚ) (k : ℕ) : ℕ :=
  (Finset.univ.filter fun p : Fin 5 => k ≤ p ∧ Unchanged dataTime x threshold p).card

/-- The call at which a detector that passed the first one is found stuck, from the six rows
the first one left. -/
def stuckCall (dataTime x : History ℚ) (threshold : ℚ) : ℕ :=
  if 2 ≤ unchangedSince dataTime x threshold 1 then 2
  else if 1 ≤ unchangedSince dataTime x threshold 2 then 3
  else 4

theorem stuckCall_bounds (dataTime x : History ℚ) (threshold : ℚ) :
    2 ≤ stuckCall dataTime x threshold ∧ stuckCall dataTime x threshold ≤ 4 := by
  unfold stuckCall
  split_ifs
  · omega
  · omega
  · omega

/-- The pairs after `k` more copies of the newest reading: those of before moved back, and pairs
of copies, which count if the reading is timed. -/
theorem stuck_copies {dataTime x dataTime' x' : History ℚ} {threshold : ℚ} {timed : Prop}
    [Decidable timed] {k : ℕ} (more : 1 ≤ k)
    (pairs : ∀ p : Fin 5, Unchanged dataTime' x' threshold p ↔
      if h : p + k < 5 then Unchanged dataTime x threshold ⟨p + k, h⟩ else timed) :
    Stuck dataTime' x' threshold ↔ timed ∧ stuckCall dataTime x threshold ≤ k + 1 := by
  have last : Unchanged dataTime' x' threshold (Fin.last 4) ↔ timed := by
    rw [pairs, dif_neg (by simp; omega)]
  rw [Stuck, last, and_comm]
  refine and_congr_right fun counts => ?_
  have counted (j : ℕ) : unchangedSince dataTime x threshold j =
      ∑ p : Fin 5, if j ≤ p ∧ Unchanged dataTime x threshold p then 1 else 0 :=
    Finset.card_filter _ _
  rw [unchangedCount, Finset.card_filter, stuckCall, counted, counted]
  simp only [pairs, Fin.sum_univ_five]
  -- one pair of copies, two, or three, which are enough by themselves
  rcases (by omega : k = 1 ∨ k = 2 ∨ 3 ≤ k) with rfl | rfl | many
  · simp [counts]
    grind
  · simp [counts]
    grind
  · have copies : ¬2 + k < 5 ∧ ¬3 + k < 5 ∧ ¬4 + k < 5 := by omega
    simp [counts, copies]
    grind

def SelectSteady {α : Type} (leadHealth trailHealth : ℕ → Bool) (both lead trail : α) : Prop :=
  leadHealth 1 = true → trailHealth 1 = true → ∀ k ≥ 1,
    (leadHealth k = true → trailHealth k = false → both = lead) ∧
      (leadHealth k = false → trailHealth k = true → both = trail)

theorem select_steady_iff {α : Type} {leadHealth trailHealth : ℕ → Bool} {both lead trail : α}
    (average : ℕ → α)
    (step : ∀ k, average (k + 1) =
      select (leadHealth (k + 1)) (trailHealth (k + 1)) both lead trail (average k))
    (leadFalls : ∀ k ≥ 1, leadHealth (k + 1) = true → leadHealth k = true)
    (trailFalls : ∀ k ≥ 1, trailHealth (k + 1) = true → trailHealth k = true) :
    (∀ k ≥ 1, average k = average 1) ↔ SelectSteady leadHealth trailHealth both lead trail := by
  have leadFirst : ∀ k ≥ 1, leadHealth k = true → leadHealth 1 = true := by
    intro k positive
    induction k, positive using Nat.le_induction with
    | base => exact id
    | succ k positive ih => exact fun healthy => ih (leadFalls k positive healthy)
  have trailFirst : ∀ k ≥ 1, trailHealth k = true → trailHealth 1 = true := by
    intro k positive
    induction k, positive using Nat.le_induction with
    | base => exact id
    | succ k positive ih => exact fun healthy => ih (trailFalls k positive healthy)
  have first := step 0
  rw [zero_add] at first
  constructor
  · intro same leadOne trailOne k positive
    obtain ⟨k, rfl⟩ : ∃ n, k = n + 1 := ⟨k - 1, by omega⟩
    have now := (step k).symm.trans (same (k + 1) positive)
    rw [first, leadOne, trailOne] at now
    refine ⟨fun leadNow trailNow => ?_, fun leadNow trailNow => ?_⟩
    · rw [leadNow, trailNow] at now
      exact now.symm
    · rw [leadNow, trailNow] at now
      exact now.symm
  · intro steady k positive
    induction k, positive using Nat.le_induction with
    | base => rfl
    | succ k positive ih =>
      have later : k + 1 ≥ 1 := by omega
      rw [step, ih, first]
      cases leadNow : leadHealth (k + 1)
      · cases trailNow : trailHealth (k + 1)
        · rfl
        · have trailOne := trailFirst (k + 1) later trailNow
          cases leadOne : leadHealth 1
          · rw [trailOne]
            rfl
          · rw [trailOne]
            exact ((steady leadOne trailOne (k + 1) later).2 leadNow trailNow).symm
      · have leadOne := leadFirst (k + 1) later leadNow
        rw [leadOne]
        cases trailNow : trailHealth (k + 1)
        · cases trailOne : trailHealth 1
          · rfl
          · exact ((steady leadOne trailOne (k + 1) later).1 leadNow trailNow).symm
        · rw [trailFirst (k + 1) later trailNow]
          rfl

def rowHealth (status : RampRow → ℤ) (required : ℤ) (reading : RampRow → ℚ) (threshold : ℚ)
    (rows : History RampRow) : Bool :=
  checkHealth (status (rows newest)) required (fun i => (rows i).dataTime)
    (fun i => reading (rows i)) threshold

theorem rowHealth_push {status : RampRow → ℤ} {required : ℤ} {reading : RampRow → ℚ}
    {threshold : ℚ} {rows : History RampRow} {row : RampRow} (now : rows newest = row)
    (room : 0 ≤ threshold * reading row)
    (healthy : rowHealth status required reading threshold (push rows row) = true) :
    rowHealth status required reading threshold rows = true := by
  subst now
  rw [rowHealth, checkHealth_eq, decide_eq_true_iff] at healthy ⊢
  obtain ⟨working, moving⟩ := healthy
  have newer : push rows (rows newest) newest = rows newest := push_last _ _
  rw [newer] at working
  refine ⟨working, fun stuck => moving ?_⟩
  have held := stuck_push room stuck
  rw [push_comp RampRow.dataTime, push_comp reading] at held
  exact held

theorem rowHealth_repeated {rec : Records} {r : RampVariables} (status : RampRow → ℤ)
    {required : ℤ} (reading : RampRow → ℚ) {threshold : ℚ}
    (room : 0 ≤ threshold * reading (rowOf rec)) :
    ∀ k ≥ 1, rowHealth status required reading threshold
        (rampRows (repeated rec r (k + 1))) = true →
      rowHealth status required reading threshold (rampRows (repeated rec r k)) = true := by
  intro k positive healthy
  rw [repeated, rampRows_withRows, Function.iterate_succ_apply'] at healthy
  refine rowHealth_push ?_ room healthy
  obtain ⟨k, rfl⟩ : ∃ n, k = n + 1 := ⟨k - 1, by omega⟩
  exact newest_repeated rec r k

section calls

variable {rec : Records} {r : RampVariables} (status : RampRow → ℤ) {required : ℤ}
  (reading : RampRow → ℚ) {threshold : ℚ} (room : 0 ≤ threshold * reading (rowOf rec))

def rowCall (reading : RampRow → ℚ) (threshold : ℚ) (rows : History RampRow) : ℕ :=
  stuckCall (fun i => (rows i).dataTime) (fun i => reading (rows i)) threshold

include room

theorem unchanged_repeated (k : ℕ) (p : Fin 5) :
    Unchanged (fun i => (rampRows (repeated rec r (k + 1)) i).dataTime)
        (fun i => reading (rampRows (repeated rec r (k + 1)) i)) threshold p ↔
      if h : p + k < 5 then
        Unchanged (fun i => (rampRows (repeated rec r 1) i).dataTime)
          (fun i => reading (rampRows (repeated rec r 1) i)) threshold ⟨p + k, h⟩
      else eps ≤ getDataTime (decode rec) := by
  have older (i : Fin 6) (h : i + k < 6) :
      rampRows (repeated rec r (k + 1)) i = rampRows (repeated rec r 1) ⟨i + k, h⟩ := by
    rw [rampRows_repeated, dif_pos h]
  have copy (i : Fin 6) (h : 5 ≤ i + k) : rampRows (repeated rec r (k + 1)) i = rowOf rec := by
    rw [rampRows_repeated]
    split_ifs with inside
    · have last : (⟨i + k, inside⟩ : Fin 6) = newest := Fin.ext (by simp [newest]; omega)
      rw [last, newest_repeated]
    · rfl
  split_ifs with inside
  · have newer : (p.succ : ℕ) + k < 6 := by rw [Fin.val_succ]; omega
    have index : (⟨p.succ + k, newer⟩ : Fin 6) = (⟨p + k, inside⟩ : Fin 5).succ :=
      Fin.ext (by simp; omega)
    rw [Unchanged, older p.succ newer, older p.castSucc (by simp; omega), index]
    rfl
  · rw [Unchanged, copy p.succ (by simp; omega), copy p.castSucc (by simp; omega)]
    have time : (rowOf rec).dataTime = getDataTime (decode rec) := rfl
    simp [time, room]

theorem rowHealth_later (once : rowHealth status required reading threshold
      (rampRows (repeated rec r 1)) = true) {k : ℕ} (more : 2 ≤ k) :
    rowHealth status required reading threshold (rampRows (repeated rec r k)) =
      !decide (eps ≤ getDataTime (decode rec) ∧
        rowCall reading threshold (rampRows (repeated rec r 1)) ≤ k) := by
  obtain ⟨k, rfl⟩ : ∃ n, k = n + 1 := ⟨k - 1, by omega⟩
  have stuck := stuck_copies (by omega) (unchanged_repeated reading room k (r := r))
  rw [rowHealth, checkHealth_eq, decide_eq_true_iff] at once
  have working := once.1
  rw [newest_repeated] at working
  rw [rowHealth, checkHealth_eq, newest_repeated, ← decide_not, decide_eq_decide, rowCall, ← stuck]
  exact and_iff_right working

end calls

/-- Of two detectors that pass the first call, one may be found stuck before the other. The
other then reads what the mean of both was. -/
def LeftAlone {α : Type} (timed : Prop) (leadHealth trailHealth : Bool)
    (leadCall trailCall : ℕ) (both lead trail : α) : Prop :=
  leadHealth = true → trailHealth = true → timed →
    (trailCall < leadCall → both = lead) ∧ (leadCall < trailCall → both = trail)

instance {α : Type} [DecidableEq α] (timed : Prop) [Decidable timed] (leadHealth trailHealth : Bool)
    (leadCall trailCall : ℕ) (both lead trail : α) :
    Decidable (LeftAlone timed leadHealth trailHealth leadCall trailCall both lead trail) :=
  inferInstanceAs (Decidable (leadHealth = true → trailHealth = true → timed →
    (trailCall < leadCall → both = lead) ∧ (leadCall < trailCall → both = trail)))

theorem selectSteady_iff_leftAlone {α : Type} {timed : Prop} [Decidable timed]
    {leadHealth trailHealth : ℕ → Bool} {leadCall trailCall : ℕ} {both lead trail : α}
    (later : 2 ≤ leadCall ∧ 2 ≤ trailCall)
    (leads : leadHealth 1 = true → ∀ k ≥ 2, leadHealth k = !decide (timed ∧ leadCall ≤ k))
    (trails : trailHealth 1 = true → ∀ k ≥ 2, trailHealth k = !decide (timed ∧ trailCall ≤ k)) :
    SelectSteady leadHealth trailHealth both lead trail ↔
      LeftAlone timed (leadHealth 1) (trailHealth 1) leadCall trailCall both lead trail := by
  constructor
  · intro steady leadOne trailOne timing
    refine ⟨fun before => ?_, fun before => ?_⟩
    · refine (steady leadOne trailOne trailCall (by omega)).1 ?_ ?_
      · rw [leads leadOne trailCall later.2]
        simp [before]
      · rw [trails trailOne trailCall later.2]
        simp [timing]
    · refine (steady leadOne trailOne leadCall (by omega)).2 ?_ ?_
      · rw [leads leadOne leadCall later.1]
        simp [timing]
      · rw [trails trailOne leadCall later.1]
        simp [before]
  · intro alone leadOne trailOne k positive
    rcases (by omega : k = 1 ∨ 2 ≤ k) with rfl | more
    · simp [leadOne, trailOne]
    · rw [leads leadOne k more, trails trailOne k more]
      simp only [Bool.not_eq_true', decide_eq_false_iff_not, Bool.not_eq_false',
        decide_eq_true_iff]
      refine ⟨fun leadNow trailNow => ?_, fun leadNow trailNow => ?_⟩
      · refine (alone leadOne trailOne trailNow.1).1 ?_
        have after : ¬leadCall ≤ k := fun le => leadNow ⟨trailNow.1, le⟩
        omega
      · refine (alone leadOne trailOne leadNow.1).2 ?_
        have after : ¬trailCall ≤ k := fun le => trailNow ⟨leadNow.1, le⟩
        omega

section poll

variable {rec : Records} (accepted : accepts rec = true) (r : RampVariables)
  (lane : Fin numberLane)

include accepted

theorem poll_succ_eq (k : ℕ) :
    (poll rec)^[k + 1] r =
      averages (withRows ((poll rec)^[k] r) (rampRows (repeated rec r (k + 1)))) := by
  rw [Function.iterate_succ_apply', poll, readRampData_accepted accepted,
    rampRows_poll_iterate accepted, repeated, repeated, rampRows_withRows, rampRows_withRows,
    Function.iterate_succ_apply']

theorem poll_succ_occupancy (k : ℕ) :
    ((poll rec)^[k + 1] r).mainlineAvgOccupancy lane =
      select (checkMainlineOccHealthLead (repeated rec r (k + 1)) lane)
        (checkMainlineOccHealthTrail (repeated rec r (k + 1)) lane)
        (1 / 2 * ((rowOf rec).mainlineLeadOcc lane + (rowOf rec).mainlineTrailOcc lane))
        ((rowOf rec).mainlineLeadOcc lane) ((rowOf rec).mainlineTrailOcc lane)
        (((poll rec)^[k] r).mainlineAvgOccupancy lane) := by
  rw [poll_succ_eq accepted, averages_occupancy, ← newest_poll_succ accepted r k,
    rampRows_poll_iterate accepted]
  rfl

theorem poll_succ_volume (k : ℕ) :
    ((poll rec)^[k + 1] r).mainlineAvgVolume lane =
      select (checkMainlineVolHealthLead (repeated rec r (k + 1)) lane)
        (checkMainlineVolHealthTrail (repeated rec r (k + 1)) lane)
        (((rowOf rec).mainlineLeadVol lane + (rowOf rec).mainlineTrailVol lane).tdiv 2)
        ((rowOf rec).mainlineLeadVol lane) ((rowOf rec).mainlineTrailVol lane)
        (((poll rec)^[k] r).mainlineAvgVolume lane) := by
  rw [poll_succ_eq accepted, averages_volume, ← newest_poll_succ accepted r k,
    rampRows_poll_iterate accepted]
  rfl

omit accepted

def OccSteady (rec : Records) (r : RampVariables) (lane : Fin numberLane) : Prop :=
  let rows := rampRows (repeated rec r 1)
  LeftAlone (eps ≤ getDataTime (decode rec))
    (checkMainlineOccHealthLead (repeated rec r 1) lane)
    (checkMainlineOccHealthTrail (repeated rec r 1) lane)
    (rowCall (fun x => x.mainlineLeadOcc lane) thresholdOccHealth rows)
    (rowCall (fun x => x.mainlineTrailOcc lane) thresholdOccHealth rows)
    (1 / 2 * ((rowOf rec).mainlineLeadOcc lane + (rowOf rec).mainlineTrailOcc lane))
    ((rowOf rec).mainlineLeadOcc lane) ((rowOf rec).mainlineTrailOcc lane)

def VolSteady (rec : Records) (r : RampVariables) (lane : Fin numberLane) : Prop :=
  let rows := rampRows (repeated rec r 1)
  LeftAlone (eps ≤ getDataTime (decode rec))
    (checkMainlineVolHealthLead (repeated rec r 1) lane)
    (checkMainlineVolHealthTrail (repeated rec r 1) lane)
    (rowCall (fun x => x.mainlineLeadVol lane) thresholdVolHealth rows)
    (rowCall (fun x => x.mainlineTrailVol lane) thresholdVolHealth rows)
    (((rowOf rec).mainlineLeadVol lane + (rowOf rec).mainlineTrailVol lane).tdiv 2)
    ((rowOf rec).mainlineLeadVol lane) ((rowOf rec).mainlineTrailVol lane)

instance (rec : Records) (r : RampVariables) (lane : Fin numberLane) :
    Decidable (OccSteady rec r lane) := inferInstanceAs (Decidable (LeftAlone _ _ _ _ _ _ _ _))

instance (rec : Records) (r : RampVariables) (lane : Fin numberLane) :
    Decidable (VolSteady rec r lane) := inferInstanceAs (Decidable (LeftAlone _ _ _ _ _ _ _ _))

theorem lane_steady_iff {α : Type} (leadStatus trailStatus : RampRow → ℤ) {required required' : ℤ}
    (leadReading trailReading : RampRow → ℚ) {threshold : ℚ} {both lead trail : α}
    (leadRoom : 0 ≤ threshold * leadReading (rowOf rec))
    (trailRoom : 0 ≤ threshold * trailReading (rowOf rec)) (average : ℕ → α)
    (step : ∀ k, average (k + 1) =
      select (rowHealth leadStatus required leadReading threshold
          (rampRows (repeated rec r (k + 1))))
        (rowHealth trailStatus required' trailReading threshold
          (rampRows (repeated rec r (k + 1)))) both lead trail (average k)) :
    let rows := rampRows (repeated rec r 1)
    (∀ k ≥ 1, average k = average 1) ↔
      LeftAlone (eps ≤ getDataTime (decode rec))
        (rowHealth leadStatus required leadReading threshold rows)
        (rowHealth trailStatus required' trailReading threshold rows)
        (rowCall leadReading threshold rows) (rowCall trailReading threshold rows)
        both lead trail :=
  (select_steady_iff average step (rowHealth_repeated leadStatus leadReading leadRoom)
    (rowHealth_repeated trailStatus trailReading trailRoom)).trans
    (selectSteady_iff_leftAlone ⟨(stuckCall_bounds _ _ _).1, (stuckCall_bounds _ _ _).1⟩
      (fun once _ more => rowHealth_later leadStatus leadReading leadRoom once more)
      fun once _ more => rowHealth_later trailStatus trailReading trailRoom once more)

include accepted

theorem occ_steady_iff :
    (∀ k ≥ 1, ((poll rec)^[k] r).mainlineAvgOccupancy lane =
        (poll rec r).mainlineAvgOccupancy lane) ↔ OccSteady rec r lane := by
  have row := rowInRange_rowOf accepted
  have threshold : 0 ≤ thresholdOccHealth := by norm_num [thresholdOccHealth]
  exact lane_steady_iff r (fun x => x.mainlineLeadStatus lane) (fun x => x.mainlineTrailStatus lane)
    (fun x => x.mainlineLeadOcc lane) (fun x => x.mainlineTrailOcc lane)
    (mul_nonneg threshold (row.mainlineLeadOcc lane))
    (mul_nonneg threshold (row.mainlineTrailOcc lane))
    (fun k => ((poll rec)^[k] r).mainlineAvgOccupancy lane) (poll_succ_occupancy accepted r lane)

theorem vol_steady_iff :
    (∀ k ≥ 1, ((poll rec)^[k] r).mainlineAvgVolume lane =
        (poll rec r).mainlineAvgVolume lane) ↔ VolSteady rec r lane := by
  have row := rowInRange_rowOf accepted
  have threshold : 0 ≤ thresholdVolHealth := by norm_num [thresholdVolHealth]
  exact lane_steady_iff r (fun x => x.mainlineLeadStatus lane) (fun x => x.mainlineTrailStatus lane)
    (fun x => x.mainlineLeadVol lane) (fun x => x.mainlineTrailVol lane)
    (mul_nonneg threshold (Int.cast_nonneg (row.mainlineLeadVol lane).1))
    (mul_nonneg threshold (Int.cast_nonneg (row.mainlineTrailVol lane).1))
    (fun k => ((poll rec)^[k] r).mainlineAvgVolume lane) (poll_succ_volume accepted r lane)

end poll

/-- Calling again on the same globals changes neither the averages nor an exit volume exactly
when the first call leaves one passage volume and time in all rows, and in no lane one of two
detectors in use is left alone with a reading that is not the mean of both. -/
theorem poll_idempotent_iff {rec : Records} (accepted : accepts rec = true) (r : RampVariables) :
    (∀ k ≥ 1,
        ((poll rec)^[k] r).mainlineAvgOccupancy = (poll rec r).mainlineAvgOccupancy ∧
        ((poll rec)^[k] r).mainlineAvgVolume = (poll rec r).mainlineAvgVolume ∧
        ∀ t1 t2, t1 ≤ t2 → getDataTime (decode rec) ≤ t2 →
          getRampExitVol ((poll rec)^[k] r) t1 t2 = getRampExitVol (poll rec r) t1 t2) ↔
      ExitSteady rec r ∧ ∀ lane, OccSteady rec r lane ∧ VolSteady rec r lane := by
  simp only [← exit_steady_iff accepted r, ← occ_steady_iff accepted r, ← vol_steady_iff accepted r]
  constructor
  · intro same
    exact ⟨fun k positive => (same k positive).2.2, fun lane =>
      ⟨fun k positive => congrFun (same k positive).1 lane,
        fun k positive => congrFun (same k positive).2.1 lane⟩⟩
  · rintro ⟨exit, lanes⟩ k positive
    exact ⟨funext fun lane => (lanes lane).1 k positive,
      funext fun lane => (lanes lane).2 k positive, exit k positive⟩

def tenOut : Records :=
  { zeroRecords with
    phaseStatus.ts := ⟨16, 0, 0, 0⟩
    dbUrmsStatus.meteredLaneStat := fun lane =>
      { demandVol := 0, passageVol := if lane = 1 then 10 else 0, meteredLaneRateMsb := 0
        meteredLaneRateLsb := 0 } }

def withOccupancies (lead trail : ℚ) : Records :=
  { tenOut with
    dbUrmsStatus.mainlineStat := fun _ => ⟨2, 0, 1, 0⟩
    urmsDatafile.mainlineLeadOcc := fun _ => lead
    urmsDatafile.mainlineTrailOcc := fun _ => trail }

def standingTrail : RampVariables :=
  [1, 2, 4, 6, 8].foldl (fun r lead => poll (withOccupancies lead 9) r) staticRamp

/-- The trail detector moves to the reading of the lead detector. The copies of this sample make
it drop out first, and the lead detector later. -/
theorem met_readings_idempotent :
    let once := poll (withOccupancies 10 10) standingTrail
    let again := (poll (withOccupancies 10 10))^[5] standingTrail
    once.mainlineAvgOccupancy 1 = 10 ∧ again.mainlineAvgOccupancy = once.mainlineAvgOccupancy ∧
      getRampExitVol once 57570 57600 = 60 * rampExitFlowAdjustFactor ∧
      getRampExitVol again 57570 57600 = getRampExitVol once 57570 57600 := by
  have level : ExitSteady (withOccupancies 10 10) standingTrail := by
    unfold ExitSteady
    decide +kernel
  have lanes : ∀ lane, OccSteady (withOccupancies 10 10) standingTrail lane ∧
      VolSteady (withOccupancies 10 10) standingTrail lane := by
    decide +kernel
  have steady := (poll_idempotent_iff (by decide +kernel) standingTrail).mpr ⟨level, lanes⟩
  obtain ⟨occ, -, exit⟩ := steady 5 (by decide)
  refine ⟨by decide +kernel, occ, by decide +kernel, ?_⟩
  exact exit 57570 57600 (by decide +kernel) (by decide +kernel)

/-- One sample with ten vehicles out, read twice: twenty vehicles left. -/
theorem repeated_sample_counts_twice :
    accepts tenOut = true ∧ getDataTime (decode tenOut) = 57600 ∧
    getRampExitVol (poll tenOut (initRampData staticRamp)) 57570 57600 =
      10 * rampExitFlowAdjustFactor ∧
    getRampExitVol ((poll tenOut)^[2] (initRampData staticRamp)) 57570 57600 =
      20 * rampExitFlowAdjustFactor := by
  decide +kernel

end RampMetering
