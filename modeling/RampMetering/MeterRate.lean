import RampMetering.HandOver
import RampMetering.RampHistory

/-! The metering rate, from the reported one to the command. `set_globals` keeps the low
byte of a rate only, so the rate `get_ALINEA_rate` corrects never reaches the floor, and
what it answers is the floor. The command takes the smaller of that and the raw HOV rate. -/

namespace RampMetering

theorem getNewRampData_meterRate (g : Globals) (r : RampVariables) :
    (getNewRampData g r).meterRate newest = getRateMetered g :=
  store_newest r.meterRate _

theorem averages_meterRate (r : RampVariables) :
    (getMainlineAverageVolume (getMainlineAverageOccupancy r)).meterRate = r.meterRate := rfl

theorem averages_newMeterRate (r : RampVariables) :
    (getMainlineAverageVolume (getMainlineAverageOccupancy r)).newMeterRate = r.newMeterRate := rfl

theorem readRampData_meterRate (g : Globals) (p : PhaseStatus) (st : LongStatus8)
    (u : DbUrmsStatus) (d : UrmsDatafile) (r : RampVariables)
    (accepted : (readRampData (setGlobals g p st u d) r).2 = true) (lane : Fin numberLane) :
    (readRampData (setGlobals g p st u d) r).1.meterRate newest lane =
      maskShort (d.meteringRate lane) := by
  have values : isValueNegative (setGlobals g p st u d) = false := by
    by_contra negative
    rw [readRampData, if_pos (by simpa using negative)] at accepted
    cases accepted
  rw [readRampData, if_neg (by simp [values])]
  simp only [checkNewRampData_of_setGlobals g p st u d _ values, Bool.false_eq_true, if_false,
    averages_meterRate, getNewRampData_meterRate]
  rfl

theorem readRampData_newMeterRate (g : Globals) (r : RampVariables) :
    (readRampData g r).1.newMeterRate = r.newMeterRate := by
  unfold readRampData
  split_ifs
  · rfl
  · simp only [averages_newMeterRate]
    split_ifs <;> rfl

theorem testRamp_newMeterRate (g : Globals) (c : Clock) (rampFlag : Bool) (r : RampVariables) :
    (testRamp g c rampFlag r).1.newMeterRate =
      if (readRampData g r).2 && rampFlag then
        (getALINEARate (readRampData g r).1 c.alineaFirst c.alineaSecond).2
      else r.newMeterRate := by
  rw [← readRampData_newMeterRate g r, testRamp]
  exact apply_ite (fun x : RampVariables × Bool => x.1.newMeterRate) _ _ _

theorem testRamp_evaluated (g : Globals) (c : Clock) (rampFlag : Bool) (r : RampVariables) :
    (testRamp g c rampFlag r).2 = ((readRampData g r).2 && rampFlag) := by
  rw [testRamp]
  cases (readRampData g r).2 && rampFlag
  · rfl
  · rfl

theorem currentRate_within {r : RampVariables} {d : UrmsDatafile}
    (masked : ∀ lane, r.meterRate newest lane = maskShort (d.meteringRate lane)) :
    0 ≤ currentRate r ∧ currentRate r ≤ 255 := by
  have nonneg : ∀ lane, (0 : ℚ) ≤ maskShort (d.meteringRate lane) := fun _ =>
    Int.cast_nonneg (maskShort_nonneg _)
  have le : ∀ lane, (maskShort (d.meteringRate lane) : ℚ) ≤ 255 := fun lane => by
    exact_mod_cast maskShort_le (d.meteringRate lane)
  rw [currentRate, masked, masked]
  have first := le 1
  have second := le 2
  constructor
  · linarith [nonneg 1, nonneg 2]
  · linarith

theorem getALINEARate_eq_floorAt {r : RampVariables} {d : UrmsDatafile}
    (masked : ∀ lane, r.meterRate newest lane = maskShort (d.meteringRate lane))
    (firstTime secondTime : ℚ) :
    (getALINEARate r firstTime secondTime).2 = floorAt firstTime secondTime := by
  obtain ⟨nonneg, le⟩ := currentRate_within masked
  have floor := floorAt_within firstTime secondTime
  have limited := (limitChange_within nonneg
    (currentRate r + alineaKr * (occCritical - occOut r))).2
  have below : currentRate r * (1 + rampMeterChangeThreshold) ≤ meterLowerBound3 := by
    unfold rampMeterChangeThreshold meterLowerBound3
    linarith
  rw [getALINEARate_eq, max_eq_left (limited.trans (below.trans floor.1)),
    min_eq_right floor.2]

section tick

variable {p : Platform} {t : Tuning} {σ : Daemon} {i : Input}

theorem next_newMeterRate (flag : rampEdge σ i = true)
    (accepted : (readRampData (tickGlobals σ i) σ.ramp).2 = true) :
    (next p t σ i).ramp.newMeterRate = floorAt i.clock.alineaFirst i.clock.alineaSecond := by
  rw [next_ramp, testRamp_newMeterRate, flag, accepted]
  exact getALINEARate_eq_floorAt
    (readRampData_meterRate σ.globals _ _ _ i.records.urmsDatafile σ.ramp accepted) _ _

end tick

def reportedRate (i : Input) : ℚ :=
  (((i.records.urmsDatafile.meteringRate 1).toInt : ℚ) +
    (i.records.urmsDatafile.meteringRate 2).toInt) / 2

def lastReading (c : Clock) : ℚ :=
  if c.alineaFirst < plantime1 then c.alineaFirst else c.alineaSecond

def meterFloor (time : ℚ) : ℚ :=
  if time < plantime1 then meterLowerBound1
  else if time < plantime2 then meterLowerBound2
  else meterLowerBound3

def WithinSlew (floor reported rate : ℚ) : Prop :=
  min alineaUpperBound (max floor ((1 - rampMeterChangeThreshold) * reported)) ≤ rate ∧
    rate ≤ min alineaUpperBound (max floor ((1 + rampMeterChangeThreshold) * reported))

/-- The floor is applied by comparing two readings of the clock; midnight may lie between. -/
theorem floorAt_eq (c : Clock) :
    floorAt c.alineaFirst c.alineaSecond =
      if plantime1 ≤ c.alineaFirst ∧ c.alineaSecond < plantime1 then meterLowerBound2
      else meterFloor (lastReading c) := by
  have order : plantime1 < plantime2 := by
    unfold plantime1 plantime2
    norm_num
  unfold floorAt meterFloor lastReading
  by_cases early : c.alineaFirst < plantime1
  · rw [if_pos early, if_neg (by simp [early]), if_pos early, if_pos early]
  · rw [if_neg early, if_neg early]
    by_cases back : c.alineaSecond < plantime1
    · rw [if_pos (back.trans order), if_pos ⟨not_lt.mp early, back⟩]
    · have forth : ¬(plantime1 ≤ c.alineaFirst ∧ c.alineaSecond < plantime1) :=
        fun h => back h.2
      rw [if_neg forth, if_neg back]

theorem meterFloor_within (time : ℚ) :
    meterLowerBound3 ≤ meterFloor time ∧ meterFloor time < alineaUpperBound := by
  unfold meterFloor meterLowerBound1 meterLowerBound2 meterLowerBound3 alineaUpperBound
  split_ifs <;> norm_num

theorem withinSlew_floor_iff {floor : ℚ} (below : floor < alineaUpperBound) (reported : ℚ) :
    WithinSlew floor reported floor ↔ (1 - rampMeterChangeThreshold) * reported ≤ floor := by
  unfold WithinSlew
  constructor
  · rintro ⟨lower, -⟩
    rcases min_le_iff.mp lower with cap | slew
    · exact absurd cap (not_le.mpr below)
    · exact (max_le_iff.mp slew).2
  · intro slew
    rw [max_eq_left slew]
    exact ⟨min_le_right _ _, le_min below.le (le_max_left _ _)⟩

/-- A rate computed under `set_globals` is within the slew limit of the reported rate
exactly when the floor alone already is, and midnight has not passed in between. -/
theorem newMeterRate_withinSlew_iff (p : Platform) (t : Tuning) (σ : Daemon) (i : Input)
    (flag : rampEdge σ i = true)
    (accepted : (readRampData (tickGlobals σ i) σ.ramp).2 = true) :
    WithinSlew (meterFloor (lastReading i.clock)) (reportedRate i)
        (next p t σ i).ramp.newMeterRate ↔
      (1 - rampMeterChangeThreshold) * reportedRate i ≤ meterFloor (lastReading i.clock) ∧
        ¬(plantime1 ≤ i.clock.alineaFirst ∧ i.clock.alineaSecond < plantime1) := by
  rw [next_newMeterRate flag accepted, floorAt_eq]
  by_cases back : plantime1 ≤ i.clock.alineaFirst ∧ i.clock.alineaSecond < plantime1
  · rw [if_pos back]
    have last : meterFloor (lastReading i.clock) = meterLowerBound1 := by
      rw [lastReading, if_neg (not_lt.mpr back.1), meterFloor, if_pos back.2]
    refine iff_of_false ?_ fun h => h.2 back
    rintro ⟨lower, -⟩
    rw [last] at lower
    -- the floor applied is the one of `PLANTIME2`, the one asked for is higher
    have least : meterLowerBound1 ≤
        min alineaUpperBound
          (max meterLowerBound1 ((1 - rampMeterChangeThreshold) * reportedRate i)) :=
      le_min (by decide +kernel) (le_max_left _ _)
    exact absurd (least.trans lower) (by decide +kernel)
  · rw [if_neg back, withinSlew_floor_iff (meterFloor_within _).2]
    simp [back]

def reporting (rate : Short) (time : ℚ) : Input :=
  { quietInput with
    records.urmsDatafile.meteringRate := fun _ => rate
    records.dbUrmsStatus.computationFinished := 1
    clock := ⟨time, time, time, time, time⟩ }

theorem newMeterRate_withinSlew_reporting_200 :
    WithinSlew (meterFloor (lastReading (reporting 200 43200).clock))
      (reportedRate (reporting 200 43200))
      (next straying {} (start 25 zeroRecords.dbUrmsStatus)
        (reporting 200 43200)).ramp.newMeterRate :=
  (newMeterRate_withinSlew_iff straying {} (start 25 zeroRecords.dbUrmsStatus)
    (reporting 200 43200) (by decide) (by decide +kernel)).mpr (by decide +kernel)

/-- At six in the evening a reported 900 is computed down to 600, a third of it. -/
theorem reported_900_computed_600 :
    (next straying {} (start 25 zeroRecords.dbUrmsStatus)
        (reporting 900 64800)).ramp.newMeterRate = 600 ∧
      ¬WithinSlew (meterFloor (lastReading (reporting 900 64800).clock))
        (reportedRate (reporting 900 64800)) 600 := by
  constructor
  · rw [next_newMeterRate (by decide) (by decide +kernel)]
    decide +kernel
  · rw [WithinSlew]
    decide +kernel

def hovRate (i : Input) : ℚ := ((i.records.urmsDatafile.meteringRate 0).toInt : ℚ)

theorem fixedRateCommand_rates (p : Platform) (i : Input) (rate : ℚ) (d : DbUrms) :
    (fixedRateCommand p i.records.dbUrmsStatus i.records.urmsDatafile rate d).lane2ReleaseRate =
        min (hovRate i) rate ∧
      (fixedRateCommand p i.records.dbUrmsStatus i.records.urmsDatafile rate d).lane3ReleaseRate =
        min (hovRate i) rate := by
  have smaller : (if hovRate i < rate then hovRate i else rate) = min (hovRate i) rate := by
    split_ifs with less
    · exact (min_eq_left less.le).symm
    · exact (min_eq_right (not_lt.mp less)).symm
  exact ⟨smaller, smaller⟩

section run

variable (p : Platform) (t : Tuning) (σ : Daemon) (i : Input)

def computesRate : Bool := (readRampData (tickGlobals σ i) σ.ramp).2 && rampEdge σ i

theorem output_rateComputed : (output p t σ i).rateComputed = computesRate σ i := by
  simp only [output, tick, computesRate, tickGlobals, rampEdge, testRamp_evaluated]

theorem output_newMeterRate :
    (output p t σ i).dbRampData.newMeterRate = (next p t σ i).ramp.newMeterRate := by
  simp only [output, next, tick, publishRamp]

theorem next_newMeterRate_cases :
    (computesRate σ i = true ∧ meterLowerBound3 ≤ (next p t σ i).ramp.newMeterRate ∧
      (next p t σ i).ramp.newMeterRate ≤ alineaUpperBound) ∨
    (computesRate σ i = false ∧ (next p t σ i).ramp.newMeterRate = σ.ramp.newMeterRate) := by
  rw [next_ramp, testRamp_newMeterRate, ← computesRate]
  cases computesRate σ i
  · exact Or.inr ⟨rfl, rfl⟩
  · rw [if_pos rfl]
    exact Or.inl ⟨rfl, getALINEARate_within _ _ _⟩

theorem newMeterRate_le (maxGreen1 : ℤ) (u : DbUrmsStatus) (ins : ℕ → Input) (k : ℕ) :
    (daemonAt p t (start maxGreen1 u) ins k).ramp.newMeterRate ≤ alineaUpperBound := by
  refine Run.run_invariant (fun _ (σ : Daemon) => σ.ramp.newMeterRate ≤ alineaUpperBound) ?_ ?_ k
  · change (0 : ℚ) ≤ 900
    norm_num
  · intro k σ le
    rcases next_newMeterRate_cases p t σ (ins k) with ⟨-, -, within⟩ | ⟨-, kept⟩
    · exact within
    · rw [kept]
      exact le

theorem le_newMeterRate (ins : ℕ → Input) {j : ℕ}
    (computed : computesRate (daemonAt p t σ ins j) (ins j) = true) (k : ℕ) (hjk : j + 1 ≤ k) :
    meterLowerBound3 ≤ (daemonAt p t σ ins k).ramp.newMeterRate := by
  induction k, hjk using Nat.le_induction with
  | base =>
    rcases next_newMeterRate_cases p t (daemonAt p t σ ins j) (ins j) with
      ⟨-, within, -⟩ | ⟨not, -⟩
    · exact within
    · rw [computed] at not
      cases not
  | succ k hjk ih =>
    rcases next_newMeterRate_cases p t (daemonAt p t σ ins k) (ins k) with
      ⟨-, within, -⟩ | ⟨-, kept⟩
    · exact within
    · rw [daemonAt_succ, kept]
      exact ih

theorem command_of_fixed {p : Platform} {t : Tuning} {σ : Daemon} {i : Input} {c : DbUrms}
    (written : (output p t σ i).command = some c) (fixed : IsFixedRate p c) :
    c = fixedRateCommand p i.records.dbUrmsStatus i.records.urmsDatafile
      (next p t σ i).ramp.newMeterRate σ.dbUrms := by
  cases exit : exits σ i
  · have step := tick_meterStep (p := p) (t := t) exit
    rw [written] at step
    generalize σ.myflag = before at step
    generalize (next p t σ i).myflag = after at step
    cases step with
    | restInGreen => exact absurd fixed (restInGreenCommand_not_fixedRate _ _ _ _)
    | fixedRate => rfl
  · rw [(tick_exit exit).2] at written
    cases written

end run

/-- Every fixed-rate command carries for lanes 2 and 3 the smaller of the HOV rate and
`new_meter_rate`, which never exceeds the cap and, once computed, keeps to the last floor. -/
theorem fixedRate_rates (p : Platform) (t : Tuning) (maxGreen1 : ℤ) (u : DbUrmsStatus)
    (ins : ℕ → Input) (k : ℕ) (o : Output) (c : DbUrms)
    (taken : outputAt p t (start maxGreen1 u) ins k = some o) (written : o.command = some c)
    (fixed : IsFixedRate p c) :
    c.lane2ReleaseRate = min (hovRate (ins k)) o.dbRampData.newMeterRate ∧
    c.lane3ReleaseRate = min (hovRate (ins k)) o.dbRampData.newMeterRate ∧
    o.dbRampData.newMeterRate ≤ alineaUpperBound ∧
    ((∃ j ≤ k, ∃ o', outputAt p t (start maxGreen1 u) ins j = some o' ∧
        o'.rateComputed = true) →
      meterLowerBound3 ≤ o.dbRampData.newMeterRate) := by
  obtain ⟨live, rfl⟩ := outputAt_eq_some.mp taken
  rw [output_newMeterRate, ← daemonAt_succ]
  obtain rfl := command_of_fixed written fixed
  obtain ⟨lane2, lane3⟩ := fixedRateCommand_rates p (ins k) _ _
  refine ⟨lane2, lane3, newMeterRate_le p t maxGreen1 u ins (k + 1), ?_⟩
  rintro ⟨j, hjk, o', taken', computed⟩
  obtain ⟨-, rfl⟩ := outputAt_eq_some.mp taken'
  rw [output_rateComputed] at computed
  exact le_newMeterRate p t _ ins computed (k + 1) (by omega)

def hovReporting (rate : Short) : Input :=
  { afternoon 2 1 with records.urmsDatafile.meteringRate := fun _ => rate }

theorem fixedRate_rates_hov_800 :
    meterLowerBound3 ≤ (output straying {} (daemonAt straying {}
      (start 25 zeroRecords.dbUrmsStatus) (fun _ => hovReporting 800) 0)
      (hovReporting 800)).dbRampData.newMeterRate :=
  (fixedRate_rates straying {} 25 zeroRecords.dbUrmsStatus (fun _ => hovReporting 800) 0 _ _
    (outputAt_start_eq_some.mpr ⟨by decide, rfl⟩) rfl ⟨rfl, rfl⟩).2.2.2
    ⟨0, le_rfl, _, outputAt_start_eq_some.mpr ⟨by decide, rfl⟩, by decide +kernel⟩

/-- The HOV lane reports 240; lanes 2 and 3 are commanded 240, although 720 was computed. -/
theorem hov_240_commanded :
    ∃ o c, outputAt straying {} (start 25 zeroRecords.dbUrmsStatus)
        (fun _ => hovReporting 240) 0 = some o ∧ o.command = some c ∧ IsFixedRate straying c ∧
      o.rateComputed = true ∧ c.lane2ReleaseRate = 240 ∧ c.lane3ReleaseRate = 240 ∧
      ¬(meterLowerBound3 ≤ c.lane2ReleaseRate) := by
  refine ⟨_, _, outputAt_start_eq_some.mpr ⟨by decide, rfl⟩, rfl, ⟨rfl, rfl⟩, ?_⟩
  decide +kernel

end RampMetering
