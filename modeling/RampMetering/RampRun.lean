import RampMetering.MeterRate

/-! Runs of the ramp part of `test()`. A tick reads the history, and computes a rate when the
flag is up and the sample accepted. Both are decided on their own, the flag by an edge of
`computation_finished`, so an edge that meets a rejected sample is used up without a rate. -/

namespace RampMetering
open Register Window

structure RampInput where
  records : Records
  clock : Clock
  rampFlag : Bool

def rampTick (r : RampVariables) (i : RampInput) : RampVariables :=
  (testRamp (decode i.records) i.clock i.rampFlag r).1

theorem rampRows_rampTick (r : RampVariables) (i : RampInput) :
    rampRows (rampTick r i) = rampRows (readRampData (decode i.records) r).1 := by
  unfold rampTick testRamp
  dsimp only
  split_ifs
  · rfl
  · rfl

section daemon

variable (p : Platform) (t : Tuning) (maxGreen1 : ℤ) (u : DbUrmsStatus) (ins : ℕ → Input)

def rampInputOf (σ : Daemon) (i : Input) : RampInput := ⟨i.records, i.clock, rampEdge σ i⟩

theorem next_rampTick (σ : Daemon) (i : Input) :
    (next p t σ i).ramp = rampTick σ.ramp (rampInputOf σ i) := by
  rw [next_ramp]
  rfl

theorem rampRows_daemonAt (k : ℕ) :
    rampRows (daemonAt p t (start maxGreen1 u) ins k).ramp =
      rampRows (readsAt staticRamp (fun k => (ins k).records) k) := by
  refine Run.run_related (fun (σ : Daemon) r => rampRows σ.ramp = rampRows r) rfl k ?_
  intro j _ σ r same
  rw [next_rampTick, rampRows_rampTick, rampRows_readRampData, rampRows_readRampData, same]
  rfl

theorem computesRate_run (k : ℕ) :
    computesRate (daemonAt p t (start maxGreen1 u) ins k) (ins k) =
      (accepts (ins k).records && isEdge (rampLevel ins) k) := by
  rw [computesRate, rampEdge_run, tickGlobals, readRampData_setGlobals, readRampData_returns]

/-- The ramp data once tick `k` has read its sample. -/
def readRampAt (k : ℕ) : RampVariables :=
  (readRampData (tickGlobals (daemonAt p t (start maxGreen1 u) ins k) (ins k))
    (daemonAt p t (start maxGreen1 u) ins k).ramp).1

/-- Tick `k` computes a rate, and leaves what `get_ALINEA_rate` made of the sample just read. -/
def EvaluatesAt (k : ℕ) : Prop :=
  ∃ o, outputAt p t (start maxGreen1 u) ins k = some o ∧ o.rateComputed = true ∧
    (daemonAt p t (start maxGreen1 u) ins (k + 1)).ramp =
      let rate := getALINEARate (readRampAt p t maxGreen1 u ins k) (ins k).clock.alineaFirst
        (ins k).clock.alineaSecond
      { rate.1 with newMeterRate := rate.2 }

theorem ramp_daemonAt_succ (k : ℕ) :
    (daemonAt p t (start maxGreen1 u) ins (k + 1)).ramp =
      if computesRate (daemonAt p t (start maxGreen1 u) ins k) (ins k) then
        let rate := getALINEARate (readRampAt p t maxGreen1 u ins k) (ins k).clock.alineaFirst
          (ins k).clock.alineaSecond
        { rate.1 with newMeterRate := rate.2 }
      else readRampAt p t maxGreen1 u ins k := by
  rw [daemonAt_succ, next_ramp, testRamp]
  exact apply_ite Prod.fst _ _ _

theorem evaluatesAt_iff {k : ℕ} (taken : Taken ins k) :
    EvaluatesAt p t maxGreen1 u ins k ↔
      accepts (ins k).records = true ∧ isEdge (rampLevel ins) k = true := by
  rw [← Bool.and_eq_true, ← computesRate_run p t maxGreen1 u ins k]
  constructor
  · rintro ⟨o, ho, computed, -⟩
    obtain ⟨-, rfl⟩ := outputAt_start_eq_some.mp ho
    rwa [output_rateComputed] at computed
  · intro computes
    refine ⟨_, outputAt_start_eq_some.mpr ⟨taken, rfl⟩,
      (output_rateComputed _ _ _ _).trans computes, ?_⟩
    rw [ramp_daemonAt_succ, if_pos computes]

theorem readRampData_prevOccOut (g : Globals) (r : RampVariables) :
    (readRampData g r).1.prevOccOut = r.prevOccOut := by
  unfold readRampData
  split_ifs
  · rfl
  · dsimp only
    split_ifs
    · rfl
    · rfl

theorem rate_kept {k : ℕ} (taken : Taken ins k) (not : ¬EvaluatesAt p t maxGreen1 u ins k) :
    (daemonAt p t (start maxGreen1 u) ins (k + 1)).ramp.newMeterRate =
        (daemonAt p t (start maxGreen1 u) ins k).ramp.newMeterRate ∧
      (daemonAt p t (start maxGreen1 u) ins (k + 1)).ramp.prevOccOut =
        (daemonAt p t (start maxGreen1 u) ins k).ramp.prevOccOut := by
  rw [evaluatesAt_iff p t maxGreen1 u ins taken, ← Bool.and_eq_true,
    ← computesRate_run p t maxGreen1 u ins k] at not
  rw [ramp_daemonAt_succ, if_neg not]
  exact ⟨readRampData_newMeterRate _ _, readRampData_prevOccOut _ _⟩

/-- Between two consecutive edges a rate is computed once, unless the sample of the first one
is rejected and a later one is not. No other tick changes what a computation changes. -/
theorem evaluates_once_iff (e₁ e₂ : ℕ) (ordered : e₁ < e₂)
    (first : isEdge (rampLevel ins) e₁ = true) (_second : isEdge (rampLevel ins) e₂ = true)
    (consecutive : ∀ k, e₁ < k → k < e₂ → isEdge (rampLevel ins) k = false)
    (taken : Taken ins e₂) :
    (((∃ k, (e₁ ≤ k ∧ k < e₂) ∧ accepts (ins k).records = true) →
        ∃! k, (e₁ ≤ k ∧ k < e₂) ∧ EvaluatesAt p t maxGreen1 u ins k) ↔
      accepts (ins e₁).records = true ∨
        ∀ k, e₁ ≤ k → k < e₂ → accepts (ins k).records = false) ∧
    ∀ k, e₁ ≤ k → k < e₂ → ¬EvaluatesAt p t maxGreen1 u ins k →
      (daemonAt p t (start maxGreen1 u) ins (k + 1)).ramp.newMeterRate =
          (daemonAt p t (start maxGreen1 u) ins k).ramp.newMeterRate ∧
        (daemonAt p t (start maxGreen1 u) ins (k + 1)).ramp.prevOccOut =
          (daemonAt p t (start maxGreen1 u) ins k).ramp.prevOccOut := by
  refine ⟨?_, fun k _ hke not => rate_kept p t maxGreen1 u ins (taken.of_le hke.le) not⟩
  have only : ∀ k, (e₁ ≤ k ∧ k < e₂) ∧ EvaluatesAt p t maxGreen1 u ins k →
      k = e₁ ∧ accepts (ins e₁).records = true := by
    rintro k ⟨⟨hk, hke⟩, evaluates⟩
    obtain ⟨accepted, edge⟩ :=
      (evaluatesAt_iff p t maxGreen1 u ins (taken.of_le hke.le)).mp evaluates
    rcases hk.lt_or_eq with later | rfl
    · rw [consecutive k later hke] at edge
      cases edge
    · exact ⟨rfl, accepted⟩
  constructor
  · intro once
    by_cases some : ∃ k, (e₁ ≤ k ∧ k < e₂) ∧ accepts (ins k).records = true
    · obtain ⟨k, evaluated, -⟩ := once some
      exact Or.inl (only k evaluated).2
    · refine Or.inr fun k hk hke => ?_
      by_contra accepted
      exact some ⟨k, ⟨hk, hke⟩, by simpa using accepted⟩
  · rintro (accepted | none) ⟨k, ⟨hk, hke⟩, some⟩
    · have evaluated : EvaluatesAt p t maxGreen1 u ins e₁ :=
        (evaluatesAt_iff p t maxGreen1 u ins (taken.of_le ordered.le)).mpr ⟨accepted, first⟩
      exact ⟨e₁, ⟨⟨le_rfl, ordered⟩, evaluated⟩, fun j hj => (only j hj).1⟩
    · rw [none k hk hke] at some
      cases some

end daemon

def finishedInput : Input := { quietInput with records.dbUrmsStatus.computationFinished := 1 }

def everyOtherTick (k : ℕ) : Input := if k = 1 then quietInput else finishedInput

theorem evaluates_once_every_other_tick :
    ∃! k, (0 ≤ k ∧ k < 2) ∧
      EvaluatesAt straying {} 25 zeroRecords.dbUrmsStatus everyOtherTick k :=
  (evaluates_once_iff straying {} 25 zeroRecords.dbUrmsStatus everyOtherTick 0 2 (by decide)
    (by decide) (by decide)
    (fun k after before => by
      obtain rfl : k = 1 := by omega
      decide)
    (by decide)).1.mpr (Or.inl (by decide)) ⟨0, by decide, by decide⟩

/-- The edge comes with a sample whose queue loop reads negative; the next one is good. -/
def goodSampleLate (k : ℕ) : Input :=
  if k = 0 then { finishedInput with records.urmsDatafile.queueOcc := fun _ => -1 }
  else if k = 2 then quietInput
  else finishedInput

theorem late_sample_loses_update :
    isEdge (rampLevel goodSampleLate) 0 = true ∧ isEdge (rampLevel goodSampleLate) 3 = true ∧
    (∀ k, 0 < k → k < 3 → isEdge (rampLevel goodSampleLate) k = false) ∧
    accepts (goodSampleLate 1).records = true ∧
    ∀ k < 3, ¬EvaluatesAt straying {} 25 zeroRecords.dbUrmsStatus goodSampleLate k := by
  have edges : ∀ k < 3, isEdge (rampLevel goodSampleLate) k = decide (k = 0) := by decide
  refine ⟨by decide, by decide, fun k later hk => ?_, by decide, fun k hk evaluates => ?_⟩
  · rw [edges k hk]
    exact decide_eq_false (by omega)
  · have taken : Taken goodSampleLate k :=
      (show Taken goodSampleLate 3 by decide).of_le (by omega)
    obtain ⟨accepted, edge⟩ := (evaluatesAt_iff _ _ _ _ _ taken).mp evaluates
    rw [edges k hk] at edge
    obtain rfl : k = 0 := of_decide_eq_true edge
    exact absurd accepted (by decide)

end RampMetering
