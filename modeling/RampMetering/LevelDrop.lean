import RampMetering.HandOver

/-! When the HOV level drops to 0. `myflag` stands for lanes that rest in green, but `main` sets
it at start-up from the level alone, before any command. From a level that is not 0 the first
drop writes nothing, unless a fixed-rate command came in between. -/

namespace RampMetering
open Window

/-- Tick `k` asks for rest in green: level 0 in the control window, and `main` reaches the
timed part. -/
def AsksRest (ins : ℕ → Input) (k : ℕ) : Prop :=
  inControlWindow (ins k) = true ∧ hovLevel (ins k) = 0 ∧
    (isEdge (barrierLevel ins) k && (ins k).setMaxGreenFails) = false

def Releases (ins : ℕ → Input) (k : ℕ) : Prop :=
  inControlWindow (ins k) = true ∧ hovLevel (ins k) ≠ 0 ∧ hovLevel (ins k) ≠ 1 ∧
    isEdge (rampLevel ins) k = true

/-- `myflag` no longer has the value that a start at a level other than 0 gave it. -/
def Armed (u : DbUrmsStatus) (ins : ℕ → Input) (k : ℕ) : Prop :=
  u.planBaseLvl 0 = 0 ∨ ∃ l < k, Releases ins l

def Rested (u : DbUrmsStatus) (ins : ℕ → Input) (k : ℕ) : Prop :=
  ∃ r < k, AsksRest ins r ∧ Armed u ins r ∧ ∀ l, r < l → l < k → ¬Releases ins l

section inputs

variable {u : DbUrmsStatus} {ins : ℕ → Input} {k : ℕ}

theorem Armed.mono {j : ℕ} (armed : Armed u ins j) (hjk : j ≤ k) : Armed u ins k := by
  rcases armed with zero | ⟨l, hl, releases⟩
  · exact Or.inl zero
  · exact Or.inr ⟨l, by omega, releases⟩

theorem Armed.of_succ (armed : Armed u ins (k + 1)) (quiet : ¬Releases ins k) :
    Armed u ins k := by
  rcases armed with zero | ⟨l, hl, releases⟩
  · exact Or.inl zero
  · rcases Nat.lt_succ_iff_lt_or_eq.mp hl with before | rfl
    · exact Or.inr ⟨l, before, releases⟩
    · exact absurd releases quiet

theorem rested_of_asksRest (asks : AsksRest ins k) (armed : Armed u ins k) :
    Rested u ins (k + 1) :=
  ⟨k, by omega, asks, armed, fun l after before => absurd before (by omega)⟩

theorem Rested.succ (rested : Rested u ins k) (quiet : ¬Releases ins k) :
    Rested u ins (k + 1) := by
  obtain ⟨r, hr, asks, armed, kept⟩ := rested
  refine ⟨r, by omega, asks, armed, fun l after before => ?_⟩
  rcases Nat.lt_succ_iff_lt_or_eq.mp before with earlier | rfl
  · exact kept l after earlier
  · exact quiet

theorem Rested.cases_succ (rested : Rested u ins (k + 1)) :
    (AsksRest ins k ∧ Armed u ins k) ∨ (Rested u ins k ∧ ¬Releases ins k) := by
  obtain ⟨r, hr, asks, armed, kept⟩ := rested
  rcases Nat.lt_succ_iff_lt_or_eq.mp hr with before | rfl
  · exact Or.inr ⟨⟨r, before, asks, armed, fun l after earlier => kept l after (by omega)⟩,
      kept k before (by omega)⟩
  · exact Or.inl ⟨asks, armed⟩

end inputs

/-- What `myflag` and the last command say of the inputs before tick `k`. -/
inductive Memory (p : Platform) (u : DbUrmsStatus) (ins : ℕ → Input) (k : ℕ) :
    Bool → Option DbUrms → Prop
  | fresh (zero : u.planBaseLvl 0 = 0) (quiet : ∀ r < k, ¬AsksRest ins r) :
      Memory p u ins k false none
  | held (unarmed : ¬Armed u ins k) : Memory p u ins k true none
  | resting (c : DbUrms) (rest : IsRestInGreen c) (rested : Rested u ins k) :
      Memory p u ins k true (some c)
  | metering (c : DbUrms) (fixed : IsFixedRate p c) (armed : Armed u ins k)
      (moved : ¬Rested u ins k) : Memory p u ins k false (some c)

section step

variable {p : Platform} {u : DbUrmsStatus} {ins : ℕ → Input} {k : ℕ} {myflag : Bool}
  {last : Option DbUrms}

theorem Memory.idle (before : Memory p u ins k myflag last) (noRest : ¬AsksRest ins k)
    (quiet : ¬Releases ins k) : Memory p u ins (k + 1) myflag last := by
  cases before with
  | fresh zero never =>
    refine .fresh zero fun r hr => ?_
    rcases Nat.lt_succ_iff_lt_or_eq.mp hr with earlier | rfl
    · exact never r earlier
    · exact noRest
  | held unarmed => exact .held fun armed => unarmed (armed.of_succ quiet)
  | resting c rest rested => exact .resting c rest (rested.succ quiet)
  | metering c fixed armed moved =>
    refine .metering c fixed (armed.mono (Nat.le_succ k)) fun rested => ?_
    rcases rested.cases_succ with ⟨asks, -⟩ | ⟨earlier, -⟩
    · exact noRest asks
    · exact moved earlier

theorem Memory.notRested (before : Memory p u ins k false last) : ¬Rested u ins k := by
  cases before with
  | fresh zero never =>
    rintro ⟨r, hr, asks, -⟩
    exact never r hr asks
  | metering c fixed armed moved => exact moved

theorem Memory.armed (before : Memory p u ins k false last) : Armed u ins k := by
  cases before with
  | fresh zero never => exact Or.inl zero
  | metering c fixed armed moved => exact armed

theorem Memory.step {myflag' : Bool} {rate : ℚ} {dbUrms : DbUrms} {command : Option DbUrms}
    (stays : (isEdge (barrierLevel ins) k && (ins k).setMaxGreenFails) = false)
    (before : Memory p u ins k myflag last)
    (step : MeterStep p (ins k) (isEdge (rampLevel ins) k) rate dbUrms myflag myflag' command) :
    Memory p u ins (k + 1) myflag' (command.or last) := by
  cases step with
  | outside _ window =>
    refine before.idle (fun asks => ?_) (fun releases => ?_)
    · exact absurd (window.symm.trans asks.1) (by decide)
    · exact absurd (window.symm.trans releases.1) (by decide)
  | restInGreen window level =>
    exact .resting _ ⟨rfl, rfl⟩ (rested_of_asksRest ⟨window, level, stays⟩ before.armed)
  | resting window level =>
    have quiet : ¬Releases ins k := fun releases =>
      level.elim releases.2.2.1 releases.2.1
    cases before with
    | held unarmed => exact .held fun armed => unarmed (armed.of_succ quiet)
    | resting c rest rested => exact .resting c rest (rested.succ quiet)
  | fixedRate _ window level released flag =>
    have noRest : ¬AsksRest ins k := fun asks => level asks.2.1
    refine .metering _ (fixedRateCommand_isFixedRate _ _ _ _ _) ?_ fun rested => ?_
    · -- at level 1 the lanes are released only if `myflag` was down already
      by_cases one : hovLevel (ins k) = 1
      · cases myflag
        · exact before.armed.mono (Nat.le_succ k)
        · exact absurd one (released rfl)
      · exact Or.inr ⟨k, by omega, window, level, one, flag⟩
    · rcases rested.cases_succ with ⟨asks, -⟩ | ⟨earlier, quiet⟩
      · exact noRest asks
      · cases myflag
        · exact before.notRested earlier
        · exact quiet ⟨window, level, released rfl, flag⟩
  | waiting _ window level released flag =>
    refine before.idle (fun asks => level asks.2.1) (fun releases => ?_)
    exact absurd (flag.symm.trans releases.2.2.2) (by decide)

theorem Memory.rest_iff (memory : Memory p u ins k myflag last) :
    (∃ c, last = some c ∧ IsRestInGreen c) ↔ Rested u ins k := by
  constructor
  · rintro ⟨c, rfl, rest⟩
    cases memory with
    | resting _ _ rested => exact rested
    | metering _ fixed _ _ => exact absurd (fixed.1.symm.trans rest.1) p.fixedRate_ne
  · intro rested
    cases memory with
    | fresh zero never => exact absurd rested (Memory.fresh (p := p) zero never).notRested
    | held unarmed =>
      obtain ⟨r, hr, -, armed, -⟩ := rested
      exact absurd (armed.mono hr.le) unarmed
    | resting c rest _ => exact ⟨c, rfl, rest⟩
    | metering c fixed armed moved => exact absurd rested moved

end step

section run

variable (p : Platform) (t : Tuning) (maxGreen1 : ℤ) (u : DbUrmsStatus) (ins : ℕ → Input)

def lastCommand (σ : Daemon) : ℕ → Option DbUrms
  | 0 => none
  | k + 1 => ((outputAt p t σ ins k).bind Output.command).or (lastCommand σ k)

theorem lastCommand_succ {k : ℕ} (taken : Taken ins k) :
    lastCommand p t ins (start maxGreen1 u) (k + 1) =
      (output p t (daemonAt p t (start maxGreen1 u) ins k) (ins k)).command.or
        (lastCommand p t ins (start maxGreen1 u) k) := by
  rw [lastCommand, outputAt_start_eq_some.mpr ⟨taken, rfl⟩]
  rfl

theorem memory_run (k : ℕ) (taken : Taken ins k) :
    Memory p u ins k (daemonAt p t (start maxGreen1 u) ins k).myflag
      (lastCommand p t ins (start maxGreen1 u) k) := by
  induction k with
  | zero =>
    change Memory p u ins 0 (if u.planBaseLvl 0 = 0 then false else true) none
    split_ifs with zero
    · exact .fresh zero fun r hr => absurd hr (by omega)
    · refine .held fun armed => ?_
      rcases armed with level | ⟨l, hl, -⟩
      · exact zero level
      · exact absurd hl (by omega)
  | succ k ih =>
    have before := taken.of_le (Nat.le_succ k)
    have stays := taken k (Nat.lt_succ_self k)
    have running : exits (daemonAt p t (start maxGreen1 u) ins k) (ins k) = false := by
      rw [← stays, ← signalEdge_run p t maxGreen1 u ins k]
      rfl
    have step := tick_meterStep (p := p) (t := t) running
    rw [rampEdge_run] at step
    rw [lastCommand_succ p t maxGreen1 u ins before]
    exact (ih before).step stays step

def Drops (ins : ℕ → Input) (i j : ℕ) : Prop :=
  i < j ∧ (inControlWindow (ins i) = true ∧ hovLevel (ins i) ≠ 0) ∧
    inControlWindow (ins j) = true ∧ hovLevel (ins j) = 0

/-- After a drop lanes 2 and 3 rest in green exactly if `main` started at level 0 or a ramp
flag came at a level above 1 before; if `main` returns within the tick of the drop, exactly
if they rested before it. -/
theorem drop_rests_iff {i j : ℕ} (drop : Drops ins i j) (taken : Taken ins j) :
    (Taken ins (j + 1) →
      ((∃ c, lastCommand p t ins (start maxGreen1 u) (j + 1) = some c ∧ IsRestInGreen c) ↔
        u.planBaseLvl 0 = 0 ∨ ∃ l < j, Releases ins l)) ∧
    (¬Taken ins (j + 1) →
      ((∃ c, lastCommand p t ins (start maxGreen1 u) (j + 1) = some c ∧ IsRestInGreen c) ↔
        Rested u ins j)) := by
  obtain ⟨-, -, window, level⟩ := drop
  constructor
  · intro completed
    have asks : AsksRest ins j := ⟨window, level, completed j (Nat.lt_succ_self j)⟩
    rw [(memory_run p t maxGreen1 u ins (j + 1) completed).rest_iff]
    constructor
    · intro rested
      rcases rested.cases_succ with ⟨-, armed⟩ | ⟨⟨r, hr, -, armed, -⟩, -⟩
      · exact armed
      · exact armed.mono hr.le
    · exact rested_of_asksRest asks
  · intro stopped
    have exit : exits (daemonAt p t (start maxGreen1 u) ins j) (ins j) = true := by
      by_contra stays
      refine stopped ((live_iff_taken p t maxGreen1 u ins (j + 1)).mp fun k hk => ?_)
      rcases Nat.lt_succ_iff_lt_or_eq.mp hk with before | rfl
      · exact (live_iff_taken p t maxGreen1 u ins j).mpr taken k before
      · exact (Bool.not_eq_true _).mp stays
    rw [lastCommand_succ p t maxGreen1 u ins taken, (tick_exit exit).2, Option.none_or]
    exact (memory_run p t maxGreen1 u ins j taken).rest_iff

end run

def oneThenZero (k : ℕ) : Input := afternoon (if k = 0 then 1 else 0) 0

def startedAtOne : DbUrmsStatus := { zeroRecords.dbUrmsStatus with planBaseLvl := fun _ => 1 }

theorem drop_rests_after_start_at_zero :
    ∃ c, lastCommand straying {} oneThenZero (start 25 zeroRecords.dbUrmsStatus) 2 = some c ∧
      IsRestInGreen c :=
  ((drop_rests_iff straying {} 25 zeroRecords.dbUrmsStatus oneThenZero (i := 0)
    ⟨by decide, ⟨by decide, by decide⟩, by decide, by decide⟩ (by decide)).1 (by decide)).mpr
    (Or.inl rfl)

/-- Started at level 1, with no ramp flag before the level drops: nothing is written. -/
theorem first_drop_from_one_silent :
    Drops oneThenZero 0 1 ∧ Taken oneThenZero 2 ∧
    lastCommand straying {} oneThenZero (start 25 startedAtOne) 2 = none :=
  ⟨⟨by decide, ⟨by decide, by decide⟩, by decide, by decide⟩, by decide, rfl⟩

end RampMetering
