import RampMetering.DaemonRun

/-! The commands written to the ramp meter. `myflag` remembers that lanes 2 and 3 were put
to rest in green; `MeterStep` lists all a pass through the timed part can do with it. -/

namespace RampMetering

def hovLevel (i : Input) : Byte := i.records.dbUrmsStatus.planBaseLvl 0

inductive MeterStep (p : Platform) (i : Input) (rampFlag : Bool) (rate : ℚ) (dbUrms : DbUrms) :
    Bool → Bool → Option DbUrms → Prop
  | outside (myflag : Bool) (window : inControlWindow i = false) :
      MeterStep p i rampFlag rate dbUrms myflag myflag none
  | restInGreen (window : inControlWindow i = true) (level : hovLevel i = 0) :
      MeterStep p i rampFlag rate dbUrms false true
        (some (restInGreenCommand p i.records.dbUrmsStatus rate dbUrms))
  | resting (window : inControlWindow i = true) (level : hovLevel i = 1 ∨ hovLevel i = 0) :
      MeterStep p i rampFlag rate dbUrms true true none
  | fixedRate (myflag : Bool) (window : inControlWindow i = true) (level : hovLevel i ≠ 0)
      (released : myflag = true → hovLevel i ≠ 1) (flag : rampFlag = true) :
      MeterStep p i rampFlag rate dbUrms myflag false
        (some (fixedRateCommand p i.records.dbUrmsStatus i.records.urmsDatafile rate dbUrms))
  | waiting (myflag : Bool) (window : inControlWindow i = true) (level : hovLevel i ≠ 0)
      (released : myflag = true → hovLevel i ≠ 1) (flag : rampFlag = false) :
      MeterStep p i rampFlag rate dbUrms myflag myflag none

theorem controlMeter_step (p : Platform) (i : Input) (rampFlag : Bool) (rate : ℚ)
    (myflag : Bool) (dbUrms : DbUrms) :
    MeterStep p i rampFlag rate dbUrms myflag
      (controlMeter p i rampFlag rate myflag dbUrms).1
      (controlMeter p i rampFlag rate myflag dbUrms).2.2 := by
  unfold controlMeter
  cases window : inControlWindow i
  · exact .outside myflag window
  by_cases zero : hovLevel i = 0
  · cases myflag
    · rw [if_pos rfl, if_pos ⟨zero, rfl⟩]
      exact .restInGreen window zero
    · rw [if_pos rfl, if_neg (by simp), if_pos ⟨Or.inr zero, rfl⟩]
      exact .resting window (Or.inr zero)
  -- level 1 holds the lanes only if they were put to rest before
  by_cases held : hovLevel i = 1 ∧ myflag = true
  · obtain ⟨one, rfl⟩ := held
    rw [if_pos rfl, if_neg (by simp), if_pos ⟨Or.inl one, rfl⟩]
    exact .resting window (Or.inl one)
  · have released : myflag = true → hovLevel i ≠ 1 := fun h one => held ⟨one, h⟩
    rw [if_pos rfl, if_neg (fun h => zero h.1),
      if_neg (fun h => h.1.elim (fun one => released h.2 one) zero)]
    cases flag : rampFlag
    · exact .waiting myflag window zero released rfl
    · exact .fixedRate myflag window zero released rfl

def IsRestInGreen (c : DbUrms) : Prop := c.lane2Action = 2 ∧ c.lane3Action = 2

def IsFixedRate (p : Platform) (c : DbUrms) : Prop :=
  c.lane2Action = p.urmsActionFixedRate ∧ c.lane3Action = p.urmsActionFixedRate

theorem restInGreenCommand_not_fixedRate (p : Platform) (u : DbUrmsStatus) (rate : ℚ)
    (d : DbUrms) : ¬IsFixedRate p (restInGreenCommand p u rate d) :=
  fun h => p.fixedRate_ne h.1.symm

theorem fixedRateCommand_isFixedRate (p : Platform) (u : DbUrmsStatus) (f : UrmsDatafile)
    (rate : ℚ) (d : DbUrms) : IsFixedRate p (fixedRateCommand p u f rate d) := ⟨rfl, rfl⟩

theorem fixedRateCommand_not_restInGreen (p : Platform) (u : DbUrmsStatus) (f : UrmsDatafile)
    (rate : ℚ) (d : DbUrms) : ¬IsRestInGreen (fixedRateCommand p u f rate d) :=
  fun h => p.fixedRate_ne h.1

section step

variable {p : Platform} {t : Tuning} {σ : Daemon} {i : Input}

theorem tick_meterStep (stays : exits σ i = false) :
    MeterStep p i (rampEdge σ i) (next p t σ i).ramp.newMeterRate σ.dbUrms σ.myflag
      (next p t σ i).myflag (output p t σ i).command := by
  rw [next_myflag, output_command, stays, if_neg (by simp), if_neg (by simp)]
  exact controlMeter_step _ _ _ _ _ _

theorem tick_exit (exit : exits σ i = true) :
    (next p t σ i).myflag = σ.myflag ∧ (output p t σ i).command = none := by
  rw [next_myflag, output_command, if_pos exit, if_pos exit]
  exact ⟨rfl, rfl⟩

theorem myflag_of_rest {c : DbUrms} (written : (output p t σ i).command = some c)
    (rest : IsRestInGreen c) : σ.myflag = false ∧ (next p t σ i).myflag = true := by
  cases exit : exits σ i
  · have step := tick_meterStep (p := p) (t := t) exit
    rw [written] at step
    generalize σ.myflag = before at step ⊢
    generalize (next p t σ i).myflag = after at step ⊢
    cases step with
    | restInGreen => exact ⟨rfl, rfl⟩
    | fixedRate => exact absurd rest (fixedRateCommand_not_restInGreen _ _ _ _ _)
  · rw [(tick_exit exit).2] at written
    cases written

theorem level_of_fixed {c : DbUrms} (written : (output p t σ i).command = some c)
    (fixed : IsFixedRate p c) (held : σ.myflag = true) : hovLevel i ≠ 0 ∧ hovLevel i ≠ 1 := by
  cases exit : exits σ i
  · have step := tick_meterStep (p := p) (t := t) exit
    rw [written, held] at step
    generalize (next p t σ i).myflag = after at step
    cases step with
    | fixedRate _ _ level released => exact ⟨level, released rfl⟩
  · rw [(tick_exit exit).2] at written
    cases written

/-- Only a fixed-rate command lets go of lanes put to rest, and only off levels 0 and 1. -/
theorem myflag_kept (held : σ.myflag = true) :
    (next p t σ i).myflag = true ∨
      (hovLevel i ≠ 0 ∧ hovLevel i ≠ 1 ∧
        ∃ c, (output p t σ i).command = some c ∧ IsFixedRate p c) := by
  cases exit : exits σ i
  · have step := tick_meterStep (p := p) (t := t) exit
    rw [held] at step
    generalize (next p t σ i).myflag = after at step ⊢
    generalize command : (output p t σ i).command = written at step
    cases step with
    | outside => exact Or.inl rfl
    | resting => exact Or.inl rfl
    | waiting => exact Or.inl rfl
    | fixedRate _ _ level released =>
      exact Or.inr ⟨level, released rfl, _, rfl, fixedRateCommand_isFixedRate _ _ _ _ _⟩
  · exact Or.inl ((tick_exit exit).1.trans held)

end step

section run

variable (p : Platform) (t : Tuning) (σ : Daemon) (ins : ℕ → Input)

def RestAt (k : ℕ) : Prop :=
  ∃ o c, outputAt p t σ ins k = some o ∧ o.command = some c ∧ IsRestInGreen c

def FixedAt (k : ℕ) : Prop :=
  ∃ o c, outputAt p t σ ins k = some o ∧ o.command = some c ∧ IsFixedRate p c

variable {p t σ ins} {i j : ℕ}

theorem RestAt.myflag (h : RestAt p t σ ins i) :
    (daemonAt p t σ ins i).myflag = false ∧ (daemonAt p t σ ins (i + 1)).myflag = true := by
  obtain ⟨o, c, taken, written, rest⟩ := h
  obtain ⟨-, rfl⟩ := outputAt_eq_some.mp taken
  exact myflag_of_rest written rest

/-- After resting in green and up to tick `j`, either the lanes are still held or a
fixed-rate command was written at a level that is neither 0 nor 1. -/
theorem held_or_released (rest : RestAt p t σ ins i)
    (live : Run.Live (next p t) exits σ ins j) (k : ℕ) (hik : i + 1 ≤ k) (hkj : k ≤ j) :
    (daemonAt p t σ ins k).myflag = true ∨
      ∃ l, i < l ∧ l < k ∧ FixedAt p t σ ins l ∧ hovLevel (ins l) ≠ 0 ∧ hovLevel (ins l) ≠ 1 := by
  induction k, hik using Nat.le_induction with
  | base => exact Or.inl rest.myflag.2
  | succ k hik ih =>
    rcases ih (by omega) with held | ⟨l, hil, hlk, released⟩
    · rcases myflag_kept (p := p) (t := t) (i := ins k) held with
        kept | ⟨zero, one, c, written, fixed⟩
      · exact Or.inl kept
      · have taken := outputAt_eq_some.mpr ⟨live.of_le (Nat.le_of_succ_le hkj), rfl⟩
        exact Or.inr ⟨k, by omega, by omega, ⟨_, c, taken, written, fixed⟩, zero, one⟩
    · exact Or.inr ⟨l, hil, by omega, released⟩

/-- The hand-over protocol: a fixed-rate command separates two rest-in-green commands, and
comes only once the HOV level has left 0 and 1. -/
theorem handOver_protocol (p : Platform) (t : Tuning) (maxGreen1 : ℤ) (u : DbUrmsStatus)
    (ins : ℕ → Input) (i j : ℕ) (hij : i < j)
    (rest : RestAt p t (start maxGreen1 u) ins i) :
    (RestAt p t (start maxGreen1 u) ins j →
      ∃ k, i < k ∧ k < j ∧ FixedAt p t (start maxGreen1 u) ins k) ∧
    (FixedAt p t (start maxGreen1 u) ins j →
      ∃ k, i < k ∧ k ≤ j ∧ hovLevel (ins k) ≠ 0 ∧ hovLevel (ins k) ≠ 1) := by
  constructor
  · intro again
    obtain ⟨o, c, taken, written, isRest⟩ := id again
    have live := (outputAt_eq_some.mp taken).1
    rcases held_or_released rest live j hij le_rfl with held | ⟨k, hik, hkj, fixed, -⟩
    · rw [again.myflag.1] at held
      cases held
    · exact ⟨k, hik, hkj, fixed⟩
  · rintro ⟨o, c, taken, written, fixed⟩
    obtain ⟨live, rfl⟩ := outputAt_eq_some.mp taken
    rcases held_or_released rest live j hij le_rfl with held | ⟨k, hik, hkj, -, level⟩
    · exact ⟨j, hij, le_rfl, level_of_fixed written fixed held⟩
    · exact ⟨k, hik, hkj.le, level⟩

end run

def afternoon (level computationFinished : Byte) : Input :=
  { quietInput with
    tmWday := 1
    records.dbUrmsStatus.hour := 16
    records.dbUrmsStatus.planBaseLvl := fun _ => level
    records.dbUrmsStatus.computationFinished := computationFinished }

def levelsZeroTwoZero (k : ℕ) : Input :=
  if k = 1 then afternoon 2 1 else afternoon 0 0

theorem handOver_protocol_levels_zero_two_zero :
    ∃ k, 0 < k ∧ k < 2 ∧
      FixedAt straying {} (start 25 zeroRecords.dbUrmsStatus) levelsZeroTwoZero k :=
  (handOver_protocol straying {} 25 zeroRecords.dbUrmsStatus levelsZeroTwoZero 0 2 (by decide)
    ⟨_, _, outputAt_start_eq_some.mpr ⟨by decide, rfl⟩, rfl, rfl, rfl⟩).1
    ⟨_, _, outputAt_start_eq_some.mpr ⟨by decide, rfl⟩, rfl, rfl, rfl⟩

end RampMetering
