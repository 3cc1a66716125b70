import RampMetering.Interleaving

/-! `DB_PHASE_3_TIMING_VAR` at a barrier. The main loop reads the record, sets the maximum green
and writes its copy back with the new maximum. A record another program wrote in between is
lost with it, unless it differs in the maximum alone. -/

namespace RampMetering
open Interleave

variable {Others : Type}

def timingEffect (s : System Others) : Event Others → Effect (PhaseTiming Others)
  | .algo _ =>
    if s.algo.pc = .writeTiming then
      .writeBack fun timing => { timing with maxGreen1 := s.algo.daemon.signal.newMaxGreen }
    else .keep
  | .wrfiles => .keep
  | .feed (.phase3Timing x) => .write x
  | .feed _ => .keep

theorem algoStep_phase3Timing (p : Platform) (t : Tuning) (x : Ambient) (a : Algo Others)
    (db : Database Others) : (algoStep p t x a db).2.phase3Timing =
      if a.pc = .writeTiming then { a.phaseTiming with maxGreen1 := a.daemon.signal.newMaxGreen }
      else db.phase3Timing := by
  obtain ⟨pc, daemon, input, signalFlag, rampFlag, phaseTiming, origin, passes, ramps, signals⟩ := a
  cases pc with
  | setMaxGreen =>
    obtain ⟨clock, tmWday, fails⟩ := x
    cases fails <;> rfl
  | _ => rfl

theorem timingEffect_acts (p : Platform) (t : Tuning) (s : System Others) (e : Event Others) :
    (systemStep p t s e).db.phase3Timing =
      (timingEffect s e).apply s.algo.phaseTiming s.db.phase3Timing := by
  rcases e with x | - | x
  · refine (algoStep_phase3Timing p t x s.algo s.db).trans ?_
    unfold timingEffect
    split_ifs
    · rfl
    · rfl
  · rfl
  · cases x <;> rfl

section run

variable (p : Platform) (t : Tuning) (s : System Others) (events : ℕ → Event Others)

/-- The record if the maximum green were set in it by one atomic change. -/
def timingAtomically : ℕ → PhaseTiming Others :=
  atomically (systemStep p t) s events (fun s => s.db.phase3Timing) timingEffect

def WritesBack (k : ℕ) : Prop :=
  (systemAt p t s events k).algo.pc = .writeTiming ∧ (events k).program = .acRmAlgo

/-- The pass is between reading the record and writing it back. -/
def HoldsTiming (s : System Others) : Prop :=
  s.algo.pc = .setMaxGreen ∨ s.algo.pc = .writeTiming

/-- Nobody writes the record while a pass holds a copy of it. -/
def TimingQuiet (n : ℕ) : Prop :=
  ∀ k < n, HoldsTiming (systemAt p t s events k) → ∀ x, events k ≠ .feed (.phase3Timing x)

theorem undisturbed_iff (k : ℕ) :
    Undisturbed (systemStep p t) s events (fun s => s.db.phase3Timing)
        (fun s => s.algo.phaseTiming) timingEffect k ↔
      (WritesBack p t s events k →
        (systemAt p t s events k).algo.phaseTiming.others =
          (systemAt p t s events k).db.phase3Timing.others) := by
  change (∀ f, timingEffect (systemAt p t s events k) (events k) = .writeBack f →
    f (systemAt p t s events k).algo.phaseTiming = f (systemAt p t s events k).db.phase3Timing) ↔ _
  unfold WritesBack
  generalize systemAt p t s events k = now
  rcases events k with x | - | x
  · by_cases writes : now.algo.pc = .writeTiming
    · simp [timingEffect, writes, Event.program]
    · simp [timingEffect, writes]
  · simp [timingEffect, Event.program]
  · cases x <;> simp [timingEffect, Event.program]

theorem copy_step (now : System Others) (e : Event Others)
    (silent : HoldsTiming now → ∀ x, e ≠ .feed (.phase3Timing x))
    (same : HoldsTiming now → now.algo.phaseTiming = now.db.phase3Timing)
    (holds : HoldsTiming (systemStep p t now e)) :
    (systemStep p t now e).algo.phaseTiming = (systemStep p t now e).db.phase3Timing := by
  rcases e with x | - | x
  · obtain ⟨⟨pc, daemon, input, signalFlag, rampFlag, timing, origin, passes, ramps, signals⟩, w,
      db⟩ :=
      now
    cases pc with
    | readTiming => rfl
    | setMaxGreen =>
      obtain ⟨clock, tmWday, fails⟩ := x
      cases fails
      · exact same (.inl rfl)
      · rcases holds with holds | holds <;> cases holds
    | writeSignalData => cases signalFlag <;> rcases holds with holds | holds <;> cases holds
    | _ => rcases holds with holds | holds <;> cases holds
  · exact same holds
  · cases x with
    | phase3Timing x => exact absurd rfl (silent holds x)
    | _ => exact same holds

theorem copy_of_quiet {n : ℕ} (fresh : ¬ HoldsTiming s) (quiet : TimingQuiet p t s events n) (k : ℕ)
    (hk : k ≤ n) : HoldsTiming (systemAt p t s events k) →
      (systemAt p t s events k).algo.phaseTiming = (systemAt p t s events k).db.phase3Timing := by
  refine Run.run_invariant_from
    (fun _ (s : System Others) => HoldsTiming s → s.algo.phaseTiming = s.db.phase3Timing) 0 n
    (fun holds => absurd holds fresh) ?_ k (Nat.zero_le k) hk
  intro j _ hj same
  exact copy_step p t _ (events j) (quiet j hj) same

end run

/-- The record is the one atomic changes would give exactly as long as no write-back finds the
members that it only carries different from its copy; a record that is left alone between
the read and the write-back is enough. -/
theorem timing_writeBack (p : Platform) (t : Tuning) (db : Database Others) (daemon : Daemon)
    (input : Input) (phaseTiming : PhaseTiming Others) (buffers : LogBuffers)
    (events : ℕ → Event Others) (n : ℕ) :
    let s := boot db daemon input phaseTiming buffers
    ((∀ k ≤ n, (systemAt p t s events k).db.phase3Timing = timingAtomically p t s events k) ↔
      ∀ k < n, WritesBack p t s events k →
        (systemAt p t s events k).algo.phaseTiming.others =
          (systemAt p t s events k).db.phase3Timing.others) ∧
    (TimingQuiet p t s events n →
      ∀ k ≤ n, (systemAt p t s events k).db.phase3Timing = timingAtomically p t s events k) := by
  intro s
  have exactly := (value_eq_atomically_iff (systemStep p t) s events (fun s => s.db.phase3Timing)
    (fun s => s.algo.phaseTiming) timingEffect
    (fun k => timingEffect_acts p t (systemAt p t s events k) (events k)) n).trans
    (forall₂_congr fun k _ => undisturbed_iff p t s events k)
  have fresh : ¬ HoldsTiming s := by
    intro holds
    rcases holds with holds | holds <;> cases holds
  refine ⟨exactly, fun quiet => exactly.mpr fun k hk writes => ?_⟩
  rw [copy_of_quiet p t s events fresh quiet k hk.le (.inr writes.1)]

end RampMetering
