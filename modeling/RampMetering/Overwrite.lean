import RampMetering.Release

/-! What an overwrite release must be earned by. The exceedances that count are those of the
activated calls since `cycle_passed` was last put to 0; `RT_exceed_num` stands for their
number as long as no call that finds the control not activated meets it above 0, because
that branch alone puts the other counters back and leaves this one. -/

namespace RampMetering
open Window

def exceeds (t : Tuning) (s : SignalVariables) (m : Measurement) : Bool :=
  decide (callBranch t s m ≠ .notActivated ∧ m.rtOcc > rtReleaseOccThreshold)

def resets (t : Tuning) (s : SignalVariables) (m : Measurement) : Bool :=
  decide (callBranch t s m = .notActivated ∨
    (callBranch t s m = .regularRelease ∧ s.regularRemainCycle = 1))

def counted (s : SignalVariables) (m : Measurement) : ℤ := countExceed (measure s m)

theorem counted_eq {t : Tuning} {s : SignalVariables} {m : Measurement}
    (activated : callBranch t s m ≠ .notActivated) :
    counted s m = s.rtExceedNum + (exceeds t s m).toNat := by
  have seen : counted s m =
      if m.rtOcc > rtReleaseOccThreshold then s.rtExceedNum + 1 else s.rtExceedNum := rfl
  rw [seen, exceeds]
  by_cases above : m.rtOcc > rtReleaseOccThreshold
  · simp [activated, above]
  · simp [above]

theorem call_rtExceedNum (t : Tuning) (s : SignalVariables) (m : Measurement) :
    (call t s m).rtExceedNum =
      if callBranch t s m = .notActivated ∨ callBranch t s m = .overwriteRelease then
        s.rtExceedNum
      else if resets t s m then 0
      else counted s m := by
  obtain ⟨q, step⟩ := call_step t s m
  unfold resets
  generalize callBranch t s m = b at step ⊢
  generalize call t s m = s' at step ⊢
  cases step with
  | notActivated => simp [notActivated, measure]
  | overwrite => simp [measure]
  | overwriteEnd => simp [measure]
  | regular overwriting reg more =>
    simp only [measure] at more
    simp [measure, more, counted, countExceed]
  | extend overwriting reg last =>
    simp only [measure] at last
    simp [last]
  | regularEnd overwriting reg last =>
    simp only [measure] at last
    simp [last]
  | wait => simp [counted, countExceed, measure]
  | release => simp [counted, countExceed, measure]

theorem call_sets_overwriteRelease {t : Tuning} {s : SignalVariables} {m : Measurement}
    (off : s.overwriteRelease = false) (on : (call t s m).overwriteRelease = true) :
    callBranch t s m = .regularRelease ∧ t.cycleToActivateOverwrite ≤ counted s m := by
  obtain ⟨q, step⟩ := call_step t s m
  generalize callBranch t s m = b at step ⊢
  generalize call t s m = s' at step on
  cases step with
  | extend overwriting reg last enough => exact ⟨rfl, enough⟩
  | notActivated => cases on
  | overwrite overwriting => exact absurd overwriting (by simp [measure, off])
  | _ => simp [measure, off] at on

section run

variable (t : Tuning) (s : SignalVariables) (ms : ℕ → Measurement)

def exceedsAt (k : ℕ) : Bool := exceeds t (callsAt t s ms k) (ms k)

def resetsAt (k : ℕ) : Bool := resets t (callsAt t s ms k) (ms k)

/-- The exceedances since the last reset before call `k`, call `k` included. -/
def exceedances (k : ℕ) : ℕ := (window (resetsAt t s ms) k).countP (exceedsAt t s ms)

def exceedancesBefore (k : ℕ) : ℕ := (pending (resetsAt t s ms) k).countP (exceedsAt t s ms)

theorem exceedances_eq (k : ℕ) :
    exceedances t s ms k = exceedancesBefore t s ms k + (exceedsAt t s ms k).toNat := by
  rw [exceedances, exceedancesBefore, window, List.countP_append]
  cases h : exceedsAt t s ms k <;> simp [h]

theorem exceedancesBefore_succ (k : ℕ) :
    exceedancesBefore t s ms (k + 1) =
      if resetsAt t s ms k then 0 else exceedances t s ms k := by
  rw [exceedancesBefore, pending_succ, exceedances]
  split <;> rfl

theorem callsAt_succ_rtExceedNum (k : ℕ) :
    (callsAt t s ms (k + 1)).rtExceedNum =
      if branchAt t s ms k = .notActivated ∨ branchAt t s ms k = .overwriteRelease then
        (callsAt t s ms k).rtExceedNum
      else if resetsAt t s ms k then 0
      else counted (callsAt t s ms k) (ms k) :=
  call_rtExceedNum t (callsAt t s ms k) (ms k)

def ClearedAt (k : ℕ) : Prop :=
  branchAt t s ms k = .notActivated → (callsAt t s ms k).rtExceedNum = 0

instance (k : ℕ) : Decidable (ClearedAt t s ms k) :=
  inferInstanceAs (Decidable
    (branchAt t s ms k = .notActivated → (callsAt t s ms k).rtExceedNum = 0))

theorem rtExceedNum_le (zero : s.rtExceedNum = 0) (k : ℕ)
    (cleared : ∀ j < k, ClearedAt t s ms j) :
    (callsAt t s ms k).rtExceedNum ≤ exceedancesBefore t s ms k := by
  induction k with
  | zero => exact zero.le
  | succ k ih =>
    have before := ih fun j hj => cleared j (by omega)
    have clear := cleared k (by omega)
    have now := exceedances_eq t s ms k
    rw [callsAt_succ_rtExceedNum, exceedancesBefore_succ]
    -- the only branch that empties the window and keeps the counter
    by_cases idle : branchAt t s ms k = .notActivated
    · have reset : resetsAt t s ms k = true := decide_eq_true (Or.inl idle)
      rw [if_pos (Or.inl idle), if_pos reset, clear idle]
      exact le_rfl
    by_cases overwriting : branchAt t s ms k = .overwriteRelease
    · have going : resetsAt t s ms k = false :=
        decide_eq_false fun h => h.elim idle fun h => by cases overwriting.symm.trans h.1
      rw [if_pos (Or.inr overwriting), going, if_neg (by simp)]
      omega
    rw [if_neg (not_or.mpr ⟨idle, overwriting⟩)]
    split
    · exact le_rfl
    · rw [counted_eq idle]
      change _ + ((exceedsAt t s ms k).toNat : ℤ) ≤ _
      omega

theorem rtExceedNum_nonneg (zero : s.rtExceedNum = 0) (k : ℕ) :
    0 ≤ (callsAt t s ms k).rtExceedNum := by
  induction k with
  | zero => exact zero.ge
  | succ k ih =>
    rw [callsAt_succ_rtExceedNum]
    split_ifs with kept reset
    · exact ih
    · exact le_rfl
    · rw [counted_eq fun idle => kept (Or.inl idle)]
      omega

theorem rtExceedNum_le_iff (zero : s.rtExceedNum = 0) (n : ℕ) :
    (∀ k ≤ n, (callsAt t s ms k).rtExceedNum ≤ exceedancesBefore t s ms k) ↔
      ∀ j < n, ClearedAt t s ms j := by
  constructor
  · intro bounded j hj idle
    have after := bounded (j + 1) hj
    have reset : resetsAt t s ms j = true := decide_eq_true (Or.inl idle)
    rw [exceedancesBefore_succ, if_pos reset, callsAt_succ_rtExceedNum,
      if_pos (Or.inl idle)] at after
    exact le_antisymm after (rtExceedNum_nonneg t s ms zero j)
  · exact fun cleared k hk => rtExceedNum_le t s ms zero k fun j hj => cleared j (by omega)

/-- Where every non-activated call has found the counter at 0, a release is extended only
on enough exceedances since the last reset, and nothing older is compared. -/
theorem overwrite_earned (t : Tuning) (maxGreen1 : ℤ) (ms : ℕ → Measurement) (n : ℕ)
    (cleared : ∀ j < n, ClearedAt t (foundSignal maxGreen1) ms j) (k : ℕ) (hk : k ≤ n) :
    ((callsAt t (foundSignal maxGreen1) ms k).overwriteRelease = false →
      (callsAt t (foundSignal maxGreen1) ms (k + 1)).overwriteRelease = true →
      t.cycleToActivateOverwrite ≤ exceedances t (foundSignal maxGreen1) ms k) ∧
    (branchAt t (foundSignal maxGreen1) ms k = .regularRelease →
      counted (callsAt t (foundSignal maxGreen1) ms k) (ms k) ≤
        exceedances t (foundSignal maxGreen1) ms k) := by
  have real : branchAt t (foundSignal maxGreen1) ms k = .regularRelease →
      counted (callsAt t (foundSignal maxGreen1) ms k) (ms k) ≤
        exceedances t (foundSignal maxGreen1) ms k := by
    intro release
    have before := rtExceedNum_le t (foundSignal maxGreen1) ms rfl k
      fun j hj => cleared j (by omega)
    have activated : branchAt t (foundSignal maxGreen1) ms k ≠ .notActivated := by
      simp [release]
    rw [counted_eq activated, exceedances_eq]
    push_cast
    exact add_le_add_left before _
  refine ⟨fun off on => ?_, real⟩
  obtain ⟨release, enough⟩ := call_sets_overwriteRelease off on
  exact enough.trans (real release)

end run

theorem overwrite_earned_four_exceedances :
    (3 : ℤ) ≤ exceedances {} (foundSignal 25) (fun _ => occupied (1 / 2) (1 / 2)) 3 :=
  (overwrite_earned {} 25 (fun _ => occupied (1 / 2) (1 / 2)) 3 (by decide +kernel) 3
    le_rfl).1 (by decide +kernel) (by decide +kernel)

/-- Two exceedances, a cycle without activation, three quiet cycles, one exceedance. -/
def interrupted (k : ℕ) : Measurement :=
  if k = 2 then occupied 0 0
  else if 3 ≤ k ∧ k ≤ 5 then occupied (1 / 2) 0
  else occupied (1 / 2) (1 / 2)

/-- The release at call 6 is extended on a single exceedance since the reset at call 2. -/
theorem overwrite_on_old_exceedances :
    (callsAt {} (foundSignal 25) interrupted 6).overwriteRelease = false ∧
    (callsAt {} (foundSignal 25) interrupted 7).overwriteRelease = true ∧
    exceedances {} (foundSignal 25) interrupted 6 = 1 := by
  decide +kernel

end RampMetering
