import RampMetering.QueueBalance
import RampMetering.SentGreen
import RampMetering.SignalRange

/-! The green that the daemon finds at start-up. Nothing checks it, and the regulation looks at
one bound a step; still every healthy barrier outside a release brings a green beyond the bounds
closer by a whole step, and the releases end. So any green is brought back, in a number of
healthy barriers known beforehand. -/

namespace RampMetering
open Window

def excess (green : ℤ) : ℤ :=
  max 0 (max (green - maxGreenUpperbound) (maxGreenLowerbound - green))

theorem excess_le_iff {green d : ℤ} :
    excess green ≤ d ↔
      0 ≤ d ∧ green - maxGreenUpperbound ≤ d ∧ maxGreenLowerbound - green ≤ d := by
  rw [excess, max_le_iff, max_le_iff]

theorem withinGreen_of_excess {green : ℤ} (h : excess green ≤ 0) : WithinGreen green := by
  obtain ⟨-, above, below⟩ := excess_le_iff.mp h
  exact ⟨sub_nonpos.mp below, sub_nonpos.mp above⟩

theorem excess_upperbound : excess maxGreenUpperbound = 0 := by decide

theorem excess_regulatedGreen_le (s : SignalVariables) :
    excess (regulatedGreen s) ≤ max 0 (excess s.oldMaxGreen - maxGreenChange) := by
  unfold regulatedGreen excess maxGreenChange maxGreenUpperbound maxGreenLowerbound
  split_ifs
  · omega
  · omega

def Branch.Adjusts (b : Branch) : Prop := b = .notActivated ∨ b = .normalCycle

section call

variable {t : Tuning} {s s' : SignalVariables} {b : Branch}

theorem CallStep.adjusts (step : CallStep t s b s') (adjusts : b.Adjusts) :
    excess s'.newMaxGreen ≤ max 0 (excess s.oldMaxGreen - maxGreenChange) ∧
      excess s'.oldMaxGreen ≤ max 0 (excess s.oldMaxGreen - maxGreenChange) := by
  have regulated := excess_regulatedGreen_le s
  have upper : excess maxGreenUpperbound ≤ max 0 (excess s.oldMaxGreen - maxGreenChange) :=
    excess_upperbound.trans_le (le_max_left _ _)
  cases step with
  | notActivated => exact ⟨upper, upper⟩
  | wait => exact ⟨regulated, regulated⟩
  | release => exact ⟨regulated, regulated⟩
  | overwrite => simp [Branch.Adjusts] at adjusts
  | overwriteEnd => simp [Branch.Adjusts] at adjusts
  | regular => simp [Branch.Adjusts] at adjusts
  | extend => simp [Branch.Adjusts] at adjusts
  | regularEnd => simp [Branch.Adjusts] at adjusts

theorem CallStep.released (step : CallStep t s b s') (released : ¬b.Adjusts) :
    s'.newMaxGreen = maxGreenUpperbound ∧ s'.oldMaxGreen = s.oldMaxGreen := by
  cases step with
  | notActivated => simp [Branch.Adjusts] at released
  | wait => simp [Branch.Adjusts] at released
  | release => simp [Branch.Adjusts] at released
  | _ => exact ⟨rfl, rfl⟩

end call

/-- What a state may still be beyond the bounds after `n` healthy barriers, when the green
found was `d` beyond them: `m` of them adjusted the green, the others were spent in releases. -/
def Recovering (t : Tuning) (d : ℤ) (n : ℤ) (s : SignalVariables) : Prop :=
  ∃ (ph : Phase t) (m : ℤ), ph.Shows s ∧ 0 ≤ m ∧
    n ≤ (t.regularCycle + t.overwriteCycle + 1) * m + (t.regularCycle + t.overwriteCycle) -
      ph.releasedLeft ∧
    excess s.newMaxGreen ≤ max 0 (d - maxGreenChange * m) ∧
    excess s.oldMaxGreen ≤ max 0 (d - maxGreenChange * m)

theorem Phase.releasedLeft_nonneg {t : Tuning} (hW : 0 < t.overwriteCycle) (ph : Phase t) :
    0 ≤ ph.releasedLeft := by
  cases ph with
  | waiting => exact le_rfl
  | regular n pos =>
    simp only [Phase.releasedLeft]
    omega
  | overwrite n pos =>
    simp only [Phase.releasedLeft]
    omega

section recovering

variable {t : Tuning} {d n : ℤ} {s : SignalVariables}

theorem Recovering.excess_le (h : Recovering t d n s) (hR : 0 < t.regularCycle)
    (hW : 0 < t.overwriteCycle) :
    excess s.newMaxGreen ≤
      max 0 (d - maxGreenChange * (n / (t.regularCycle + t.overwriteCycle + 1))) := by
  obtain ⟨ph, m, -, -, count, new, -⟩ := h
  have left := Phase.releasedLeft_nonneg hW ph
  have enough : n / (t.regularCycle + t.overwriteCycle + 1) < m + 1 := by
    apply Int.ediv_lt_of_lt_mul
    · omega
    · linarith
  refine new.trans (max_le_max_left 0 (sub_le_sub_left ?_ d))
  exact mul_le_mul_of_nonneg_left (Int.lt_add_one_iff.mp enough) (by decide)

theorem Recovering.of_same {s' : SignalVariables} (h : Recovering t d n s')
    (reg : s.regularRelease = s'.regularRelease)
    (overwriting : s.overwriteRelease = s'.overwriteRelease)
    (remain : s.regularRemainCycle = s'.regularRemainCycle)
    (left : s.overwriteRemainCycle = s'.overwriteRemainCycle)
    (passed : s.cyclePassed = s'.cyclePassed) (new : s.newMaxGreen = s'.newMaxGreen)
    (old : s.oldMaxGreen = s'.oldMaxGreen) : Recovering t d n s := by
  obtain ⟨ph, m, shows, nonneg, count, sent, kept⟩ := h
  refine ⟨ph, m, ?_, nonneg, count, new ▸ sent, old ▸ kept⟩
  cases ph with
  | waiting => simpa only [Phase.Shows, reg, overwriting, remain, left, passed] using shows
  | regular => simpa only [Phase.Shows, reg, overwriting, remain, left, passed] using shows
  | overwrite => simpa only [Phase.Shows, reg, overwriting, remain, left, passed] using shows

theorem Recovering.of_recorded {s' : SignalVariables} {b : BarrierTick}
    (same : recorded s b = recorded s' b) (h : Recovering t d n s') : Recovering t d n s :=
  h.of_same (congrArg SignalVariables.regularRelease same :)
    (congrArg SignalVariables.overwriteRelease same :)
    (congrArg SignalVariables.regularRemainCycle same :)
    (congrArg SignalVariables.overwriteRemainCycle same :)
    (congrArg SignalVariables.cyclePassed same :) (congrArg SignalVariables.newMaxGreen same :)
    (congrArg SignalVariables.oldMaxGreen same :)

variable (hK : 0 < t.cycleToRelease) (hR : 0 < t.regularCycle) (hW : 0 < t.overwriteCycle)

include hK hR hW

/-- A call that adjusts may be followed by a whole release; one that does not has used up a
part of it. -/
theorem Recovering.call (h : Recovering t d n s) (m : Measurement) :
    Recovering t d (n + 1) (call t s m) := by
  obtain ⟨ph, k, shows, nonneg, count, new, old⟩ := h
  obtain ⟨ph', move, shows'⟩ := shows.call hK hR hW m
  obtain ⟨q, step⟩ := call_step t s m
  have left := Phase.releasedLeft_nonneg hW ph
  have left' := Phase.releasedLeft_le hR hW ph'
  by_cases adjusts : (callBranch t s m).Adjusts
  · obtain ⟨new', old'⟩ := step.adjusts adjusts
    have closer : max 0 (excess s.oldMaxGreen - maxGreenChange) ≤
        max 0 (d - maxGreenChange * (k + 1)) := by
      unfold maxGreenChange at old ⊢
      omega
    exact ⟨ph', k + 1, shows', by omega, by linarith, new'.trans closer, old'.trans closer⟩
  · obtain ⟨new', old'⟩ := step.released adjusts
    have used := move.releasedLeft hW (by
      generalize callBranch t s m = b at adjusts
      cases b with
      | notActivated => exact absurd (Or.inl rfl) adjusts
      | normalCycle => exact absurd (Or.inr rfl) adjusts
      | regularRelease => exact Or.inl rfl
      | overwriteRelease => exact Or.inr rfl)
    refine ⟨ph', k, shows', nonneg, by omega, ?_, ?_⟩
    · rw [new', excess_upperbound]
      exact le_max_left _ _
    · rw [old']
      exact old

theorem Recovering.barrierTick (h : Recovering t d n s) (b : BarrierTick) :
    Recovering t d (if healthy b then n + 1 else n) (barrierTick t s b) := by
  cases through : healthy b
  · rw [barrierTick_eq, through, if_neg (by simp), if_neg (by simp)]
    exact h.of_same rfl rfl rfl rfl rfl rfl rfl
  · rw [barrierTick_call t s b through, if_pos rfl]
    exact (h.call hK hR hW (measurementOf t.rounding s b)).of_same rfl rfl rfl rfl rfl rfl rfl

end recovering

section run

variable (p : Platform) {t : Tuning} (maxGreen1 : ℤ) (u : DbUrmsStatus) (ins : ℕ → Input)

def healthyBarriers (ins : ℕ → Input) (k : ℕ) : ℕ := (List.range k).countP (healthyAt ins)

theorem healthyBarriers_succ (k : ℕ) :
    healthyBarriers ins (k + 1) = healthyBarriers ins k + if healthyAt ins k then 1 else 0 := by
  rw [healthyBarriers, List.range_succ, List.countP_append, List.countP_singleton]
  rfl

variable (hK : 0 < t.cycleToRelease) (hR : 0 < t.regularCycle) (hW : 0 < t.overwriteCycle)

include hK hR hW

theorem recovering_daemonAt (k : ℕ)
    (fits : ∀ j < k, (window (isEdge (barrierLevel ins)) j).length ≤ maxrow) :
    Recovering t (excess maxGreen1) (healthyBarriers ins k)
      (daemonAt p t (start maxGreen1 u) ins k).signal := by
  induction k with
  | zero =>
    have found : excess maxGreen1 ≤ max 0 (excess maxGreen1 - maxGreenChange * 0) := by
      rw [mul_zero, sub_zero]
      exact le_max_right _ _
    have none : ((healthyBarriers ins 0 : ℕ) : ℤ) = 0 := rfl
    refine ⟨.waiting 0 le_rfl hK, 0, ⟨rfl, rfl, rfl, rfl, rfl⟩, le_rfl, ?_, found, found⟩
    rw [none, Phase.releasedLeft]
    linarith
  | succ k ih =>
    have before := ih fun j hj => fits j (by omega)
    have room := fits k (Nat.lt_succ_self k)
    rw [healthyBarriers_succ, healthyAt_eq p t maxGreen1 u ins room]
    cases edge : isEdge (barrierLevel ins) k
    · rw [signal_of_noEdge p t maxGreen1 u ins edge]
      exact before.of_recorded
        (recorded_sampledAt p t maxGreen1 u ins room (metAt p t maxGreen1 u ins k))
    · rw [signal_of_edge p t maxGreen1 u ins room edge, Bool.true_and]
      have after := before.barrierTick hK hR hW (metAt p t maxGreen1 u ins k)
      cases through : healthy (metAt p t maxGreen1 u ins k)
      · rw [through] at after
        exact after
      · rw [through] at after
        push_cast
        exact after

/-- Whatever green is found at start-up, the one sent at any barrier is closer to the bounds by a
step for every release length of healthy barriers; after as many as the found green needs, every
green sent is within the bounds. -/
theorem boot_green_recovers {k : ℕ} {o : Output} {green : ℤ}
    (fits : ∀ j ≤ k, (window (isEdge (barrierLevel ins)) j).length ≤ maxrow)
    (taken : outputAt p t (start maxGreen1 u) ins k = some o) (sent : o.sentMaxGreen = some green) :
    excess green ≤ max 0 (excess maxGreen1 - maxGreenChange *
        (healthyBarriers ins (k + 1) / (t.regularCycle + t.overwriteCycle + 1))) ∧
      (excess maxGreen1 ≤ maxGreenChange *
          (healthyBarriers ins (k + 1) / (t.regularCycle + t.overwriteCycle + 1)) →
        WithinGreen green) := by
  obtain ⟨-, rfl⟩ := outputAt_start_eq_some.mp taken
  have after := recovering_daemonAt p maxGreen1 u ins hK hR hW (k + 1) fun j hj =>
    fits j (Nat.le_of_lt_succ hj)
  rw [output_sentMaxGreen] at sent
  split at sent
  · obtain rfl := Option.some.inj sent
    have bound := after.excess_le hR hW
    refine ⟨bound, fun enough => withinGreen_of_excess ?_⟩
    rwa [max_eq_left (sub_nonpos.mpr enough)] at bound
  · cases sent

end run

theorem zero_green_recovers :
    let t : Tuning := {}
    ∃ o green, outputAt straying t (start 0 zeroRecords.dbUrmsStatus) darkCycle 4 = some o ∧
      o.sentMaxGreen = some green ∧
      (excess green ≤ max 0 (excess 0 - maxGreenChange *
          (healthyBarriers darkCycle 5 / (t.regularCycle + t.overwriteCycle + 1))) ∧
        (excess 0 ≤ maxGreenChange *
            (healthyBarriers darkCycle 5 / (t.regularCycle + t.overwriteCycle + 1)) →
          WithinGreen green)) := by
  intro t
  have taken : Taken darkCycle 4 := by decide
  have edge : signalEdge (daemonAt straying t (start 0 zeroRecords.dbUrmsStatus) darkCycle 4)
      (darkCycle 4) = true := by
    rw [signalEdge_run]
    decide
  have sent := output_sentMaxGreen straying t
    (daemonAt straying t (start 0 zeroRecords.dbUrmsStatus) darkCycle 4) (darkCycle 4)
  rw [if_pos edge] at sent
  refine ⟨_, _, outputAt_start_eq_some.mpr ⟨taken, rfl⟩, sent, ?_⟩
  exact boot_green_recovers straying 0 zeroRecords.dbUrmsStatus darkCycle (by decide) (by decide)
    (by decide) (by decide +kernel) (outputAt_start_eq_some.mpr ⟨taken, rfl⟩) sent

end RampMetering
