import RampMetering.BarrierRun

/-! The maximum greens sent at barriers. The automaton regulates `old_max_green` by a clamp
on one side only, so a green outside the bounds is not brought back by every step: what is
sent stays inside exactly when it starts there, or the first barrier already repairs it. -/

namespace RampMetering

def WithinGreen (x : ℤ) : Prop := maxGreenLowerbound ≤ x ∧ x ≤ maxGreenUpperbound

instance (x : ℤ) : Decidable (WithinGreen x) :=
  inferInstanceAs (Decidable (maxGreenLowerbound ≤ x ∧ x ≤ maxGreenUpperbound))

def GreensWithin (s : SignalVariables) : Prop :=
  WithinGreen s.newMaxGreen ∧ WithinGreen s.oldMaxGreen

theorem withinGreen_upperbound : WithinGreen maxGreenUpperbound := by decide

theorem regulatedGreen_within_iff (s : SignalVariables) :
    WithinGreen (regulatedGreen s) ↔
      (needReduceMaxGreen s = true ∧ s.oldMaxGreen - maxGreenChange ≤ maxGreenUpperbound) ∨
      (needReduceMaxGreen s = false ∧ maxGreenLowerbound ≤ s.oldMaxGreen + maxGreenChange) := by
  unfold WithinGreen regulatedGreen maxGreenChange maxGreenUpperbound maxGreenLowerbound
  cases needReduceMaxGreen s
  · simp
  · simp

theorem WithinGreen.regulatedGreen {s : SignalVariables} (h : WithinGreen s.oldMaxGreen) :
    WithinGreen (RampMetering.regulatedGreen s) := by
  rw [regulatedGreen_within_iff]
  unfold WithinGreen maxGreenUpperbound maxGreenLowerbound at h
  unfold maxGreenChange maxGreenUpperbound maxGreenLowerbound
  cases needReduceMaxGreen s
  · exact Or.inr ⟨rfl, by omega⟩
  · exact Or.inl ⟨rfl, by omega⟩

theorem GreensWithin.getNewMaxGreenPhase3 {s : SignalVariables} (h : GreensWithin s)
    (t : Tuning) (r : RampVariables) : GreensWithin (getNewMaxGreenPhase3 t s r) := by
  obtain ⟨q, step⟩ := getNewMaxGreenPhase3_step t s r
  generalize branch t s r = b at step
  generalize RampMetering.getNewMaxGreenPhase3 t s r = s' at step ⊢
  have regulated := h.2.regulatedGreen (s := { s with rampQueue := q })
  cases step with
  | notActivated => exact ⟨withinGreen_upperbound, withinGreen_upperbound⟩
  | wait => exact ⟨regulated, regulated⟩
  | release => exact ⟨regulated, regulated⟩
  | _ => exact ⟨withinGreen_upperbound, h.2⟩

theorem measured_greens (f : Rounding) (s : SignalVariables) (b : BarrierTick) :
    (measured f s b).newMaxGreen = s.newMaxGreen ∧
      (measured f s b).oldMaxGreen = s.oldMaxGreen := by
  unfold measured getIntersectionMeasurement
  split_ifs <;> exact ⟨rfl, rfl⟩

theorem barrierTick_greens (t : Tuning) (s : SignalVariables) (b : BarrierTick) :
    (barrierTick t s b).newMaxGreen =
      (if healthy b then getNewMaxGreenPhase3 t (measured t.rounding s b) b.ramp
        else s).newMaxGreen ∧
    (barrierTick t s b).oldMaxGreen =
      (if healthy b then getNewMaxGreenPhase3 t (measured t.rounding s b) b.ramp
        else s).oldMaxGreen := by
  rw [barrierTick_eq]
  split <;> exact ⟨rfl, rfl⟩

theorem GreensWithin.barrierTick {s : SignalVariables} (h : GreensWithin s) (t : Tuning)
    (b : BarrierTick) : GreensWithin (barrierTick t s b) := by
  obtain ⟨sent, kept⟩ := barrierTick_greens t s b
  obtain ⟨new, old⟩ := measured_greens t.rounding s b
  rw [GreensWithin, sent, kept]
  cases healthy b
  · exact h
  · have same : GreensWithin (measured t.rounding s b) := by rwa [GreensWithin, new, old]
    exact same.getNewMaxGreenPhase3 t b.ramp

/-- A first barrier after which the green is within bounds whatever it was regulated from:
it finds the control not activated, or steps from a green near enough to the bounds. -/
def FirstBarrierRepairs (t : Tuning) (maxGreen1 : ℤ) (b : BarrierTick) : Prop :=
  healthy b = true ∧
    ((isActivation t (measured t.rounding (startSignal maxGreen1) b) b.ramp).2 = false ∨
      (needReduceMaxGreen (measured t.rounding (startSignal maxGreen1) b) = true ∧
        maxGreen1 - maxGreenChange ≤ maxGreenUpperbound) ∨
      (needReduceMaxGreen (measured t.rounding (startSignal maxGreen1) b) = false ∧
        maxGreenLowerbound ≤ maxGreen1 + maxGreenChange))

theorem first_step (t : Tuning) (maxGreen1 : ℤ) (b : BarrierTick) :
    let s := measured t.rounding (startSignal maxGreen1) b
    (getNewMaxGreenPhase3 t s b.ramp).newMaxGreen =
        (if (isActivation t s b.ramp).2 then regulatedGreen s else maxGreenUpperbound) ∧
      (getNewMaxGreenPhase3 t s b.ramp).oldMaxGreen =
        (getNewMaxGreenPhase3 t s b.ramp).newMaxGreen := by
  intro s
  -- at start-up no release is on, so the first call regulates or is not activated
  have free : s.overwriteRelease = false ∧ s.regularRelease = false := by
    simp only [s, measured, getIntersectionMeasurement]
    split_ifs <;> exact ⟨rfl, rfl⟩
  obtain ⟨q, step⟩ := getNewMaxGreenPhase3_step t s b.ramp
  have off := branch_eq_notActivated_iff t s b.ramp
  generalize branch t s b.ramp = c at step off
  generalize getNewMaxGreenPhase3 t s b.ramp = s' at step ⊢
  cases step with
  | notActivated =>
    rw [off.mp rfl]
    exact ⟨rfl, rfl⟩
  | wait =>
    rw [if_pos (by simpa using off)]
    exact ⟨rfl, rfl⟩
  | release =>
    rw [if_pos (by simpa using off)]
    exact ⟨rfl, rfl⟩
  | overwrite overwriting => exact absurd overwriting (by simp [free.1])
  | overwriteEnd overwriting => exact absurd overwriting (by simp [free.1])
  | regular _ reg => exact absurd reg (by simp [free.2])
  | extend _ reg => exact absurd reg (by simp [free.2])
  | regularEnd _ reg => exact absurd reg (by simp [free.2])

theorem first_within_iff (t : Tuning) (maxGreen1 : ℤ) (b : BarrierTick)
    (through : healthy b = true) :
    WithinGreen (barrierTick t (startSignal maxGreen1) b).newMaxGreen ↔
      FirstBarrierRepairs t maxGreen1 b := by
  have old : (measured t.rounding (startSignal maxGreen1) b).oldMaxGreen = maxGreen1 :=
    (measured_greens _ _ b).2
  rw [(barrierTick_greens t _ b).1, through, if_pos rfl, (first_step t maxGreen1 b).1,
    FirstBarrierRepairs, through]
  cases (isActivation t (measured t.rounding (startSignal maxGreen1) b) b.ramp).2
  · simpa using withinGreen_upperbound
  · rw [if_pos rfl, regulatedGreen_within_iff, old]
    simp

theorem first_greensWithin {t : Tuning} {maxGreen1 : ℤ} {b : BarrierTick}
    (repairs : FirstBarrierRepairs t maxGreen1 b) :
    GreensWithin (barrierTick t (startSignal maxGreen1) b) := by
  have within := (first_within_iff t maxGreen1 b repairs.1).mpr repairs
  refine ⟨within, ?_⟩
  obtain ⟨sent, kept⟩ := barrierTick_greens t (startSignal maxGreen1) b
  rw [repairs.1, if_pos rfl] at sent kept
  rw [kept, (first_step t maxGreen1 b).2, ← sent]
  exact within

theorem greensWithin_from (t : Tuning) (maxGreen1 : ℤ) (bs : ℕ → BarrierTick) {i : ℕ}
    (base : GreensWithin (barriersAt t maxGreen1 bs i)) (k : ℕ) (hik : i ≤ k) :
    GreensWithin (barriersAt t maxGreen1 bs k) :=
  Run.run_invariant_from (fun _ s => GreensWithin s) i k base
    (fun j _ _ h => h.barrierTick t (bs j)) k hik le_rfl

/-- Every green sent in a run of `n` barriers is within the bounds exactly when the green
found at start-up is, or the first barrier repairs it. -/
theorem sentAt_within_iff (t : Tuning) (maxGreen1 : ℤ) (bs : ℕ → BarrierTick) (n : ℕ) :
    (∀ k < n, WithinGreen (sentAt t maxGreen1 bs k)) ↔
      n = 0 ∨ WithinGreen maxGreen1 ∨ FirstBarrierRepairs t maxGreen1 (bs 0) := by
  constructor
  · intro all
    rcases Nat.eq_zero_or_pos n with none | some
    · exact Or.inl none
    have first := all 0 some
    cases through : healthy (bs 0)
    · have sent : sentAt t maxGreen1 bs 0 = maxGreen1 := by
        change (barrierTick t (startSignal maxGreen1) (bs 0)).newMaxGreen = _
        rw [(barrierTick_greens t _ _).1, through]
        rfl
      exact Or.inr (Or.inl (sent ▸ first))
    · exact Or.inr (Or.inr ((first_within_iff t maxGreen1 (bs 0) through).mp first))
  · rintro (rfl | within | repairs) k hk
    · exact absurd hk (Nat.not_lt_zero k)
    · exact (greensWithin_from t maxGreen1 bs (i := 0) ⟨within, within⟩ (k + 1)
        (Nat.zero_le _)).1
    · exact (greensWithin_from t maxGreen1 bs (i := 1) (first_greensWithin repairs) (k + 1)
        (by omega)).1

theorem sentMaxGreen_within {p : Platform} {t : Tuning} {maxGreen1 : ℤ} {u : DbUrmsStatus}
    {ins : ℕ → Input} {k : ℕ} {o : Output} {x : ℤ} (within : WithinGreen maxGreen1)
    (fits : ∀ j ≤ k, (Window.window (Window.isEdge (barrierLevel ins)) j).length ≤ maxrow)
    (taken : outputAt p t (start maxGreen1 u) ins k = some o) (sent : o.sentMaxGreen = some x) :
    WithinGreen x := by
  obtain ⟨-, rfl⟩ := outputAt_start_eq_some.mp taken
  rw [sentMaxGreen_eq p t maxGreen1 u ins k fits] at sent
  split at sent
  · obtain rfl := Option.some.inj sent
    exact (greensWithin_from t maxGreen1 _ (i := 0) ⟨within, within⟩ _ (Nat.zero_le _)).1
  · cases sent

def silentBarrier : BarrierTick where
  clock := quietInput.clock
  ramp := staticRamp
  realtimeData := fun _ _ => 0
  dataRow := 0

/-- The 0 that `clt_vars` creates is sent at the first barrier if that barrier is unhealthy. -/
theorem silent_barrier_sends_zero :
    sentAt {} 0 (fun _ => silentBarrier) 0 = 0 ∧
      ¬WithinGreen (sentAt {} 0 (fun _ => silentBarrier) 0) := by
  decide +kernel

end RampMetering
