import RampMetering.GreenRecovery
import RampMetering.MeterRate
import RampMetering.TimingWriteBack

/-! What the two controllers find in the database, in any order of the calls of all programs: the
maximum green of phase 3 and the command to the ramp meter. Nothing checks either where it is
written; what the ticks send carries the bounds. -/

namespace RampMetering
open Window

variable {Others : Type}

section green

variable (p : Platform) {t : Tuning} (hK : 0 < t.cycleToRelease) (hR : 0 < t.regularCycle)
  (hW : 0 < t.overwriteCycle)

theorem excess_nonneg (green : ℤ) : 0 ≤ excess green := le_max_left _ _

def Fits (a : Algo Others) : Prop :=
  ∀ j ≤ a.passes.length, (window (isEdge (barrierLevel (passInputs a))) j).length ≤ maxrow

def Found (d : ℤ) (a : Algo Others) : Prop :=
  match a.pc with
  | .startTiming => True
  | .startPhase7Timing | .startUrmsStatus => excess a.daemon.signal.newMaxGreen ≤ d
  | _ => ∃ maxGreen1 dbUrmsStatus, a.origin = start maxGreen1 dbUrmsStatus ∧ excess maxGreen1 ≤ d

theorem found_algoStep {d : ℤ} (x : Ambient) {a : Algo Others} {db : Database Others}
    (inDb : excess db.phase3Timing.maxGreen1 ≤ d) (found : Found d a) :
    Found d (algoStep p t x a db).1 := by
  obtain ⟨pc, daemon, input, signalFlag, rampFlag, phaseTiming, origin, passes, ramps, signals⟩ := a
  cases pc with
  | startTiming => exact inDb
  | startUrmsStatus => exact ⟨_, _, rfl, found⟩
  | writeSignalData => cases signalFlag <;> exact found
  | setMaxGreen =>
    obtain ⟨clock, tmWday, fails⟩ := x
    cases fails <;> exact found
  | _ => exact found

theorem tested_signal (σ : Daemon) (i : Input) :
    (tested p t σ i).signal = (next p t σ i).signal := by
  cases exit : exits σ i
  · rw [next_of_not_exits p t σ i exit]
  · rw [next_of_exits p t σ i exit]

include hK hR hW

theorem excess_newMaxGreen_le (maxGreen1 : ℤ) (u : DbUrmsStatus) (ins : ℕ → Input) (k : ℕ)
    (fits : ∀ j < k, (window (isEdge (barrierLevel ins)) j).length ≤ maxrow) :
    excess (daemonAt p t (start maxGreen1 u) ins k).signal.newMaxGreen ≤ excess maxGreen1 := by
  have bound := (recovering_daemonAt p maxGreen1 u ins hK hR hW k fits).excess_le hR hW
  have steps : 0 ≤ maxGreenChange *
      ((healthyBarriers ins k : ℤ) / (t.regularCycle + t.overwriteCycle + 1)) := by
    apply Int.mul_nonneg (by decide)
    exact Int.ediv_nonneg (Int.natCast_nonneg _) (by omega)
  exact bound.trans (max_le (excess_nonneg maxGreen1) (Int.sub_le_self _ steps))

theorem excess_writeTiming {d : ℤ} {db₀ : Database Others} {a : Algo Others}
    {db : Database Others} (algo : AlgoInvariant p t db₀ a db) (found : Found d a)
    (fits : Fits a) (top : a.pc = .writeTiming) : excess a.daemon.signal.newMaxGreen ≤ d := by
  have stage := algo.stage
  rw [Stage, top] at stage
  rw [Found, top] at found
  obtain ⟨⟨daemon, -⟩, -⟩ := stage
  obtain ⟨maxGreen1, u, origin, bound⟩ := found
  have sent : a.daemon.signal =
      (daemonAt p t (start maxGreen1 u) (passInputs a) (a.passes.length + 1)).signal := by
    rw [daemon, tested_signal, passed_eq, origin, daemonAt_succ, passInputs,
      List.getD_eq_default _ _ le_rfl]
  rw [sent]
  refine (excess_newMaxGreen_le p hK hR hW maxGreen1 u (passInputs a) _ fun j hj => ?_).trans bound
  exact fits j (Nat.le_of_lt_succ hj)

theorem green_systemStep {d : ℤ} {db₀ : Database Others} {s : System Others} (e : Event Others)
    (algo : AlgoInvariant p t db₀ s.algo s.db) (fits : Fits s.algo)
    (feed : ∀ x, e = .feed (.phase3Timing x) → excess x.maxGreen1 ≤ d)
    (now : excess s.db.phase3Timing.maxGreen1 ≤ d ∧ Found d s.algo) :
    excess (systemStep p t s e).db.phase3Timing.maxGreen1 ≤ d ∧
      Found d (systemStep p t s e).algo := by
  obtain ⟨inDb, found⟩ := now
  rcases e with x | - | x
  · refine ⟨?_, found_algoStep p x inDb found⟩
    have timing := algoStep_phase3Timing p t x s.algo s.db
    change excess (algoStep p t x s.algo s.db).2.phase3Timing.maxGreen1 ≤ d
    rw [timing]
    split_ifs with top
    · exact excess_writeTiming p hK hR hW algo found fits top
    · exact inDb
  · exact ⟨inDb, found⟩
  · cases x with
    | phase3Timing x => exact ⟨feed x rfl, found⟩
    | _ => exact ⟨inDb, found⟩

theorem green_run {db₀ : Database Others} {s : System Others} {events : ℕ → Event Others} {d : ℤ}
    (zero : excess s.db.phase3Timing.maxGreen1 ≤ d ∧ Found d s.algo) (n : ℕ)
    (algo : ∀ k, AlgoInvariant p t db₀ (systemAt p t s events k).algo (systemAt p t s events k).db)
    (feeds : ∀ k < n, ∀ x, events k = .feed (.phase3Timing x) → excess x.maxGreen1 ≤ d)
    (fits : ∀ k < n, Fits (systemAt p t s events k).algo) :
    excess (systemAt p t s events n).db.phase3Timing.maxGreen1 ≤ d ∧
      Found d (systemAt p t s events n).algo := by
  refine Run.run_invariant_from
    (fun _ (s : System Others) => excess s.db.phase3Timing.maxGreen1 ≤ d ∧ Found d s.algo) 0 n
    zero ?_ n (Nat.zero_le n) le_rfl
  intro k _ hk now
  exact green_systemStep p hK hR hW (events k) (algo k) (fits k hk) (feeds k hk) now

/-- In any order of the calls, the maximum green in the database lies no further beyond the bounds
than the one found there and those other programs have written. -/
theorem phase3_green_bounded {db : Database Others} {daemon : Daemon} {input : Input}
    {phaseTiming : PhaseTiming Others} {buffers : LogBuffers} {events : ℕ → Event Others} {d : ℤ}
    {n : ℕ} (found : excess db.phase3Timing.maxGreen1 ≤ d)
    (feeds : ∀ k < n, ∀ x, events k = .feed (.phase3Timing x) → excess x.maxGreen1 ≤ d)
    (fits : ∀ k < n,
      Fits (systemAt p t (boot db daemon input phaseTiming buffers) events k).algo) :
    excess (systemAt p t (boot db daemon input phaseTiming buffers) events
      n).db.phase3Timing.maxGreen1 ≤ d := by
  have algo : ∀ k, AlgoInvariant p t db
      (systemAt p t (boot db daemon input phaseTiming buffers) events k).algo
      (systemAt p t (boot db daemon input phaseTiming buffers) events k).db := fun k =>
    programInvariant_systemAt p t db daemon input phaseTiming buffers events k .acRmAlgo
  have zero : excess (boot db daemon input phaseTiming buffers).db.phase3Timing.maxGreen1 ≤ d ∧
      Found d (boot db daemon input phaseTiming buffers).algo := ⟨found, trivial⟩
  exact (green_run p hK hR hW zero n algo feeds fits).1

end green

instance (a : Algo Others) : Decidable (Fits a) :=
  inferInstanceAs (Decidable (∀ j ≤ a.passes.length,
    (window (isEdge (barrierLevel (passInputs a))) j).length ≤ maxrow))

def retimed (k : ℕ) : Event Unit :=
  if k = 5 then .feed (.phase3Timing ⟨20, ()⟩) else .algo ⟨quietInput.clock, 0, false⟩

theorem retimed_within :
    excess (systemAt straying {} (boot atBarrierDatabase
      (start 25 zeroRecords.dbUrmsStatus) quietInput ⟨25, ()⟩
      ⟨zeroRecords, publishSignal staticSignal, publishRamp staticRamp⟩) retimed
        14).db.phase3Timing.maxGreen1 ≤ 0 := by
  refine phase3_green_bounded straying (by decide) (by decide) (by decide) (by decide) ?_ ?_
  · intro k _ x written
    rw [retimed] at written
    split_ifs at written
    cases written
    decide
  · decide +kernel

structure Commanded (p : Platform) (c : DbUrms) : Prop where
  lane1 : c.lane1Action = p.urmsActionSkip
  actions : IsRestInGreen c ∨ IsFixedRate p c
  plans : IsFixedRate p c → c.lane2Plan = 2 ∧ c.lane3Plan = 1
  rates : c.lane2ReleaseRate = c.lane3ReleaseRate
  le : c.lane2ReleaseRate ≤ alineaUpperBound
  resting : IsRestInGreen c → 0 ≤ c.lane2ReleaseRate

section command

variable (p : Platform) (t : Tuning)

theorem commanded_of_meterStep {i : Input} {rampFlag before after : Bool} {rate : ℚ}
    {dbUrms c : DbUrms} (step : MeterStep p i rampFlag rate dbUrms before after (some c))
    (nonneg : 0 ≤ rate) (le : rate ≤ alineaUpperBound) : Commanded p c := by
  cases step with
  | restInGreen =>
    exact
      { lane1 := rfl
        actions := Or.inl ⟨rfl, rfl⟩
        plans := fun fixed => absurd fixed (restInGreenCommand_not_fixedRate _ _ _ _)
        rates := rfl
        le
        resting := fun _ => nonneg }
  | fixedRate =>
    obtain ⟨lane2, lane3⟩ := fixedRateCommand_rates p i rate dbUrms
    exact
      { lane1 := rfl
        actions := Or.inr ⟨rfl, rfl⟩
        plans := fun _ => ⟨rfl, rfl⟩
        rates := lane2.trans lane3.symm
        le := lane2.trans_le ((min_le_right _ _).trans le)
        resting := fun rest => absurd rest (fixedRateCommand_not_restInGreen _ _ _ _ _) }

theorem newMeterRate_nonneg (maxGreen1 : ℤ) (u : DbUrmsStatus) (ins : ℕ → Input) (k : ℕ) :
    0 ≤ (daemonAt p t (start maxGreen1 u) ins k).ramp.newMeterRate := by
  refine Run.run_invariant (fun _ (σ : Daemon) => 0 ≤ σ.ramp.newMeterRate) le_rfl ?_ k
  intro k σ nonneg
  rcases next_newMeterRate_cases p t σ (ins k) with ⟨-, floor, -⟩ | ⟨-, kept⟩
  · have positive : (0 : ℚ) ≤ meterLowerBound3 := by
      rw [meterLowerBound3]
      norm_num
    exact positive.trans floor
  · rw [kept]
    exact nonneg

theorem commanded_output (maxGreen1 : ℤ) (u : DbUrmsStatus) (ins : ℕ → Input) (k : ℕ) {c : DbUrms}
    (written : (output p t (daemonAt p t (start maxGreen1 u) ins k) (ins k)).command = some c) :
    Commanded p c := by
  cases exit : exits (daemonAt p t (start maxGreen1 u) ins k) (ins k)
  · have step := tick_meterStep (p := p) (t := t) exit
    rw [written, ← daemonAt_succ] at step
    exact commanded_of_meterStep p step (newMeterRate_nonneg p t maxGreen1 u ins (k + 1))
      (newMeterRate_le p t maxGreen1 u ins (k + 1))
  · rw [(tick_exit exit).2] at written
    cases written

theorem foldl_commandOver (P : DbUrms → Prop) {old : DbUrms} (first : P old) {os : List Output}
    (each : ∀ o ∈ os, ∀ c, o.command = some c → P c) : P (os.foldl commandOver old) := by
  induction os generalizing old with
  | nil => exact first
  | cons o os ih =>
    refine ih ?_ fun o' ho' => each o' (List.mem_cons_of_mem o ho')
    cases command : o.command with
    | none =>
      rw [commandOver, command]
      exact first
    | some c =>
      rw [commandOver, command]
      exact each o List.mem_cons_self c command

theorem AlgoInvariant.origin_of_pass {db₀ : Database Others} {a : Algo Others}
    {db : Database Others} (h : AlgoInvariant p t db₀ a db) {j : ℕ} (hj : j < a.passes.length) :
    ∃ maxGreen1 u, a.origin = start maxGreen1 u := by
  have stage := h.stage
  have started := h.started
  obtain ⟨pc, daemon, input, signalFlag, rampFlag, phaseTiming, origin, passes, ramps, signals⟩ := a
  cases pc with
  | startTiming =>
    have none : passes = [] := stage
    subst none
    exact absurd hj (Nat.not_lt_zero j)
  | startPhase7Timing =>
    have none : passes = [] := stage
    subst none
    exact absurd hj (Nat.not_lt_zero j)
  | startUrmsStatus =>
    have none : passes = [] := stage
    subst none
    exact absurd hj (Nat.not_lt_zero j)
  | _ => exact started

theorem commanded_outputs {db₀ : Database Others} {a : Algo Others} {db : Database Others}
    (h : AlgoInvariant p t db₀ a db) :
    ∀ o ∈ outputs p t a.origin a.passes, ∀ c, o.command = some c → Commanded p c := by
  intro o ho c written
  obtain ⟨j, hj, rfl⟩ := List.getElem_of_mem ho
  have inside : j < a.passes.length := by rwa [outputs_length] at hj
  obtain ⟨maxGreen1, u, origin⟩ := h.origin_of_pass p t inside
  have out := outputs_getElem? p t a.origin a.passes a.input j inside
  rw [List.getElem?_eq_getElem hj, Option.some.injEq] at out
  rw [out, origin] at written
  exact commanded_output p t maxGreen1 u _ j written

/-- In any order of the calls, the command in the database is the one found there or one that
leaves lane 1 alone and does the same with lanes 2 and 3. -/
theorem meter_command_run (db : Database Others) (daemon : Daemon) (input : Input)
    (phaseTiming : PhaseTiming Others) (buffers : LogBuffers) (events : ℕ → Event Others) (k : ℕ) :
    let s := systemAt p t (boot db daemon input phaseTiming buffers) events k
    s.db.dbUrms = db.dbUrms ∨ Commanded p s.db.dbUrms := by
  intro s
  have algo : AlgoInvariant p t db s.algo s.db :=
    programInvariant_systemAt p t db daemon input phaseTiming buffers events k .acRmAlgo
  rw [algo.dbUrms]
  refine foldl_commandOver (fun c => c = db.dbUrms ∨ Commanded p c) (Or.inl rfl) ?_
  intro o ho c written
  exact Or.inr (commanded_outputs p t algo o ho c written)

end command

end RampMetering
