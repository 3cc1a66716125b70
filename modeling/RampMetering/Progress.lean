import RampMetering.Actuators
import RampMetering.FlagPulses

/-! How far `ac_rm_algo` gets. A pass makes seven calls, three more at a barrier and one more for a
command to the meter; so the number of calls says how many passes are through, and a program
that keeps being scheduled keeps ticking, whatever the others do between its calls. -/

namespace RampMetering

variable {Others : Type}

/-- The calls of the pass under way, and those of the start. The pass that exits lacks its last. -/
def position (a : Algo Others) : ℕ :=
  match a.pc with
  | .startTiming => 0
  | .startPhase7Timing => 1
  | .startUrmsStatus => 2
  | .readStatus => 3
  | .readShortStatus => 4
  | .readPhaseStatus => 5
  | .readUrmsDatafile => 6
  | .readUrmsStatus => 7
  | .writeRampData => 8
  | .writeSignalData => 9
  | .readTiming => 10
  | .setMaxGreen => 11
  | .writeTiming => 12
  | .control => if a.signalFlag then 13 else 10
  | .exited => 2

theorem position_le (a : Algo Others) : position a ≤ 13 := by
  obtain ⟨pc, daemon, input, signalFlag, rampFlag, phaseTiming, origin, passes, ramps, signals⟩ := a
  cases pc with
  | control => cases signalFlag <;> simp [position]
  | _ => simp [position]

/-- Whether the program calls in its turn: `control` only if it has a command. -/
def makesCall (p : Platform) (x : Ambient) (a : Algo Others) : Bool :=
  match a.pc with
  | .control =>
    (controlMeter p { a.input with tmWday := x.tmWday } a.rampFlag a.daemon.ramp.newMeterRate
      a.daemon.myflag a.daemon.dbUrms).2.2.isSome
  | .exited => false
  | _ => true

def algoTurns (events : ℕ → Event Others) (k : ℕ) : ℕ :=
  (List.range k).countP fun j => (events j).program = .acRmAlgo

theorem algoTurns_succ (events : ℕ → Event Others) (k : ℕ) :
    algoTurns events (k + 1) =
      algoTurns events k + if (events k).program = .acRmAlgo then 1 else 0 := by
  rw [algoTurns, List.range_succ, List.countP_append, List.countP_singleton]
  simp only [decide_eq_true_eq]
  rfl

theorem exists_le_algoTurns {events : ℕ → Event Others}
    (fair : ∀ m, ∃ k ≥ m, (events k).program = .acRmAlgo) (n : ℕ) :
    ∃ k, n ≤ algoTurns events k := by
  induction n with
  | zero => exact ⟨0, Nat.zero_le _⟩
  | succ n ih =>
    obtain ⟨m, enough⟩ := ih
    obtain ⟨k, later, turn⟩ := fair m
    have more : algoTurns events m ≤ algoTurns events k :=
      List.Sublist.countP_le (List.range_sublist.mpr later)
    refine ⟨k + 1, ?_⟩
    rw [algoTurns_succ, if_pos turn]
    exact Nat.succ_le_succ (enough.trans more)

section passes

variable (p : Platform) (t : Tuning)

def calls (s : System Others) (events : ℕ → Event Others) : ℕ → ℕ
  | 0 => 0
  | k + 1 => calls s events k +
      match events k with
      | .algo x => (makesCall p x (systemAt p t s events k).algo).toNat
      | _ => 0

def commands (σ : Daemon) (is : List Input) : ℕ :=
  (outputs p t σ is).countP fun o => o.command.isSome

theorem commands_concat (σ : Daemon) (is : List Input) (i : Input) :
    commands p t σ (is ++ [i]) =
      commands p t σ is + (output p t (is.foldl (next p t) σ) i).command.isSome.toNat := by
  rw [commands, outputs_concat, List.countP_append, List.countP_singleton]
  cases (output p t (is.foldl (next p t) σ) i).command.isSome
  · rfl
  · rfl

def callsBehind (a : Algo Others) : ℕ :=
  7 * a.passes.length + 3 * edges p t .barrier a.origin a.passes +
    commands p t a.origin a.passes + position a

structure Accounted (a : Algo Others) (made turns : ℕ) : Prop where
  barrier : a.pc = .writeTiming → a.signalFlag = true
  calls : callsBehind p t a = made
  turns : a.pc ≠ .exited → turns + commands p t a.origin a.passes = made + a.passes.length

theorem callsBehind_concat {σ : Daemon} {is : List Input} {i : Input} {flag command : Bool}
    (edge : flag = signalEdge (is.foldl (next p t) σ) i)
    (written : (output p t (is.foldl (next p t) σ) i).command.isSome = command) :
    7 * (is ++ [i]).length + 3 * edges p t .barrier σ (is ++ [i]) + commands p t σ (is ++ [i]) =
      7 * is.length + 3 * edges p t .barrier σ is + commands p t σ is +
        (7 + 3 * flag.toNat + command.toNat) := by
  have edges := edges_concat p t .barrier σ is i
  have toNat : (Flag.barrier.edge (is.foldl (next p t) σ) i).toNat = flag.toNat :=
    congrArg Bool.toNat edge.symm
  rw [commands_concat, written, List.length_append, List.length_singleton]
  omega

variable {p t} {db₀ : Database Others} {a : Algo Others} {db : Database Others} {made turns : ℕ}

theorem Accounted.setMaxGreen (x : Ambient) (algo : AlgoInvariant p t db₀ a db)
    (h : Accounted p t a made turns) (pc : a.pc = .setMaxGreen) :
    Accounted p t (algoStep p t x a db).1 (made + 1) (turns + 1) := by
  have stage := algo.stage
  obtain ⟨-, rfl, turned⟩ := h
  obtain ⟨_, daemon, input, signalFlag, rampFlag, phaseTiming, origin, passes, ramps, signals⟩ := a
  subst pc
  obtain ⟨⟨-, signalEq, -⟩, flag⟩ := stage
  change signalFlag = signalEdge (passes.foldl (next p t) origin) input at signalEq
  change signalFlag = true at flag
  subst flag
  obtain ⟨clock, tmWday, fails⟩ := x
  cases fails
  · refine ⟨fun _ => rfl, rfl, fun _ => ?_⟩
    have counted := congrArg (· + 1) (turned (by simp))
    exact (Nat.add_right_comm _ _ _).trans (counted.trans (Nat.add_right_comm _ _ _))
  · let i := { input with setMaxGreenFails := true }
    have exit : exits (passes.foldl (next p t) origin) i = true := by
      change (signalEdge _ input && true) = true
      rw [← signalEq, Bool.and_true]
    have silent : (output p t (passes.foldl (next p t) origin) i).command.isSome = false := by
      rw [output_command, exit, if_pos rfl]
      rfl
    have ended := callsBehind_concat p t (i := i) signalEq silent
    exact ⟨fun pc => absurd pc (by simp [algoStep]), congrArg (· + 2) ended,
      fun pc => absurd rfl pc⟩

theorem Accounted.control (x : Ambient) (algo : AlgoInvariant p t db₀ a db)
    (h : Accounted p t a made turns) (pc : a.pc = .control) :
    Accounted p t (algoStep p t x a db).1 (made + (makesCall p x a).toNat) (turns + 1) := by
  have stage := algo.stage
  obtain ⟨-, rfl, turned⟩ := h
  obtain ⟨_, daemon, input, signalFlag, rampFlag, phaseTiming, origin, passes, ramps, signals⟩ := a
  subst pc
  obtain ⟨⟨here, signalEq, rampEq⟩, stay⟩ := stage
  change daemon = tested p t (passes.foldl (next p t) origin) input at here
  change signalFlag = signalEdge (passes.foldl (next p t) origin) input at signalEq
  change rampFlag = rampEdge (passes.foldl (next p t) origin) input at rampEq
  let i := { input with tmWday := x.tmWday }
  have written : (output p t (passes.foldl (next p t) origin) i).command.isSome =
      makesCall p x ⟨.control, daemon, input, signalFlag, rampFlag, phaseTiming, origin, passes,
        ramps, signals⟩ := by
    subst here rampEq
    exact congrArg Option.isSome
      (output_command_of_not_exits p t (passes.foldl (next p t) origin) i stay)
  have ended := callsBehind_concat p t (i := i) signalEq written
  have sent := commands_concat p t origin passes i
  have counted : turns + commands p t origin passes =
      7 * passes.length + 3 * edges p t .barrier origin passes + commands p t origin passes +
        (if signalFlag then 13 else 10) + passes.length := turned (by simp)
  rw [written] at sent
  generalize makesCall p x _ = call at ended sent ⊢
  have place : (if signalFlag then 13 else 10) = 3 + (7 + 3 * signalFlag.toNat) := by
    cases signalFlag <;> rfl
  rw [place] at counted
  refine ⟨fun pc => absurd pc (by simp [algoStep]), ?_, fun _ => ?_⟩
  · change 7 * (passes ++ [i]).length + 3 * edges p t .barrier origin (passes ++ [i]) +
      commands p t origin (passes ++ [i]) + 3 = 7 * passes.length +
        3 * edges p t .barrier origin passes + commands p t origin passes +
          (if signalFlag then 13 else 10) + call.toNat
    rw [ended, place]
    omega
  · change turns + 1 + commands p t origin (passes ++ [i]) = 7 * passes.length +
        3 * edges p t .barrier origin passes + commands p t origin passes +
          (if signalFlag then 13 else 10) + call.toNat + (passes ++ [i]).length
    rw [sent, place, List.length_append, List.length_singleton]
    omega

variable (p t)

theorem accounted_algoStep (x : Ambient) (algo : AlgoInvariant p t db₀ a db)
    (h : Accounted p t a made turns) :
    Accounted p t (algoStep p t x a db).1 (made + (makesCall p x a).toNat) (turns + 1) := by
  have stage := algo.stage
  have whole := h
  obtain ⟨barrier, rfl, turned⟩ := h
  -- a call inside the pass
  have inside : a.pc ≠ .exited → turns + 1 + commands p t a.origin a.passes =
      callsBehind p t a + 1 + a.passes.length := fun runs => by
    have counted := turned runs
    omega
  obtain ⟨pc, daemon, input, signalFlag, rampFlag, phaseTiming, origin, passes, ramps, signals⟩ := a
  cases pc with
  | startUrmsStatus =>
    have none : passes = [] := stage
    subst none
    exact ⟨by simp [algoStep], rfl, fun _ => inside (by simp)⟩
  | writeSignalData =>
    cases signalFlag <;> exact ⟨by simp [algoStep], rfl, fun _ => inside (by simp)⟩
  | setMaxGreen => exact whole.setMaxGreen x algo rfl
  | writeTiming =>
    have flag : signalFlag = true := barrier rfl
    subst flag
    exact ⟨by simp [algoStep], rfl, fun _ => inside (by simp)⟩
  | control => exact whole.control x algo rfl
  | exited => exact ⟨by simp [algoStep], rfl, fun pc => absurd rfl pc⟩
  | _ => exact ⟨by simp [algoStep], rfl, fun _ => inside (by simp)⟩

theorem edges_le (f : Flag) (σ : Daemon) (is : List Input) : edges p t f σ is ≤ is.length := by
  induction is generalizing σ with
  | nil => exact le_rfl
  | cons i is ih =>
    have rest := ih (next p t σ i)
    have one := Bool.toNat_le (f.edge σ i)
    rw [edges, List.length_cons]
    omega

theorem runs_algoStep (x : Ambient) (sets : x.setMaxGreenFails = false) (runs : a.pc ≠ .exited) :
    (algoStep p t x a db).1.pc ≠ .exited := by
  obtain ⟨pc, daemon, input, signalFlag, rampFlag, phaseTiming, origin, passes, ramps, signals⟩ := a
  cases pc with
  | writeSignalData => cases signalFlag <;> simp [algoStep]
  | setMaxGreen => simp [algoStep, sets]
  | exited => exact absurd rfl runs
  | _ => simp [algoStep]

section run

variable (daemon : Daemon) (input : Input) (phaseTiming : PhaseTiming Others)
  (buffers : LogBuffers) (events : ℕ → Event Others)

theorem accounted_systemAt (db : Database Others) (k : ℕ) :
    Accounted p t (systemAt p t (boot db daemon input phaseTiming buffers) events k).algo
      (calls p t (boot db daemon input phaseTiming buffers) events k) (algoTurns events k) := by
  induction k with
  | zero => exact ⟨by simp [systemAt, boot], rfl, fun _ => rfl⟩
  | succ k ih =>
    have algo : AlgoInvariant p t db
        (systemAt p t (boot db daemon input phaseTiming buffers) events k).algo
        (systemAt p t (boot db daemon input phaseTiming buffers) events k).db :=
      programInvariant_systemAt p t db daemon input phaseTiming buffers events k .acRmAlgo
    have step : systemAt p t (boot db daemon input phaseTiming buffers) events (k + 1) =
        systemStep p t (systemAt p t (boot db daemon input phaseTiming buffers) events k)
          (events k) := rfl
    rw [step, algoTurns_succ, calls]
    cases event : events k with
    | algo x =>
      rw [if_pos (by simp [Event.program])]
      exact accounted_algoStep p t x algo ih
    | wrfiles =>
      rw [if_neg (by simp [Event.program])]
      exact ih
    | feed x =>
      rw [if_neg (by simp [Event.program])]
      exact ih

theorem runs_systemAt (db : Database Others)
    (sets : ∀ j x, events j = .algo x → x.setMaxGreenFails = false) (k : ℕ) :
    (systemAt p t (boot db daemon input phaseTiming buffers) events k).algo.pc ≠ .exited := by
  refine Run.run_invariant (fun _ (s : System Others) => s.algo.pc ≠ .exited) (by simp [boot]) ?_ k
  intro j s runs
  cases event : events j with
  | algo x => exact runs_algoStep p t x (sets j x event) runs
  | wrfiles => exact runs
  | feed x => exact runs

/-- In any order of the calls of all programs, those of `ac_rm_algo` are seven for every pass, three
more for every green sent, one for every command written, and those of its start and of the pass
under way. While the maximum green can be set, a program that is scheduled again and again takes
any number of passes. -/
theorem passes_keep_coming (db : Database Others) :
    let s := boot db daemon input phaseTiming buffers
    let a := fun k => (systemAt p t s events k).algo
    (∀ k, calls p t s events k = 7 * (a k).passes.length +
        3 * ((outputs p t (a k).origin (a k).passes).countP fun o => o.sentMaxGreen.isSome) +
        ((outputs p t (a k).origin (a k).passes).countP fun o => o.command.isSome) +
        position (a k)) ∧
      ((∀ j x, events j = .algo x → x.setMaxGreenFails = false) →
        (∀ m, ∃ k ≥ m, (events k).program = .acRmAlgo) → ∀ n, ∃ k, n ≤ (a k).passes.length) := by
  intro s a
  have counted : ∀ k, Accounted p t (a k) (calls p t s events k) (algoTurns events k) :=
    accounted_systemAt p t daemon input phaseTiming buffers events db
  refine ⟨fun k => ?_, fun sets fair n => ?_⟩
  · rw [← (counted k).calls, callsBehind, edges_barrier]
    rfl
  · obtain ⟨k, enough⟩ := exists_le_algoTurns fair (11 * n + 13)
    refine ⟨k, ?_⟩
    have turns := (counted k).turns
      (runs_systemAt p t daemon input phaseTiming buffers events db sets k)
    rw [← (counted k).calls, callsBehind] at turns
    have few := edges_le p t .barrier (a k).origin (a k).passes
    have within := position_le (a k)
    omega

end run

end passes

theorem quiet_passes :
    ∃ k, 100 ≤ (systemAt straying {} (boot atBarrierDatabase (start 25 zeroRecords.dbUrmsStatus)
      quietInput ⟨25, ()⟩ ⟨zeroRecords, publishSignal staticSignal, publishRamp staticRamp⟩)
      (fun _ => .algo ⟨quietInput.clock, 0, false⟩) k).algo.passes.length := by
  refine (passes_keep_coming straying {} (start 25 zeroRecords.dbUrmsStatus) quietInput ⟨25, ()⟩
    ⟨zeroRecords, publishSignal staticSignal, publishRamp staticRamp⟩
    (fun _ => .algo ⟨quietInput.clock, 0, false⟩) atBarrierDatabase).2 ?_
    (fun m => ⟨m, le_rfl, rfl⟩) 100
  intro j x same
  cases same
  rfl

end RampMetering
