import RampMetering.Interleaving
import RampMetering.Lib.Polling

/-! The two flags the main loop polls, `barrier_flag` of the phase status and
`computation_finished` of the meter status, in any order of the calls. Every raise of a flag
gives one pass with an edge, waits in the database, or was written over unread. -/

namespace RampMetering
open Polling

variable {Others : Type}

inductive Flag
  | barrier
  | computationFinished

namespace Flag

def level (f : Flag) (phaseStatus : PhaseStatus) (dbUrmsStatus : DbUrmsStatus) : Bool :=
  match f with
  | .barrier => decide (phaseStatus.barrierFlag ≠ 0)
  | .computationFinished => decide (dbUrmsStatus.computationFinished ≠ 0)

def inDb (f : Flag) (db : Database Others) : Bool := f.level db.phaseStatus db.dbUrmsStatus

def inInput (f : Flag) (i : Input) : Bool :=
  f.level i.records.phaseStatus i.records.dbUrmsStatus

def sav : Flag → Daemon → Bool
  | .barrier => Daemon.signalFlagSav
  | .computationFinished => Daemon.rampFlagSav

def edge : Flag → Daemon → Input → Bool
  | .barrier => signalEdge
  | .computationFinished => rampEdge

theorem edge_eq (f : Flag) (σ : Daemon) (i : Input) : f.edge σ i = (f.inInput i && !f.sav σ) := by
  cases f with
  | barrier => exact congrArg Prod.fst (detectEdge_eq _ _)
  | computationFinished => exact congrArg Prod.fst (detectEdge_eq _ _)

def ofPass : Flag → Algo Others → Bool
  | .barrier => Algo.signalFlag
  | .computationFinished => Algo.rampFlag

def readAt : Flag → AlgoPc
  | .barrier => .readPhaseStatus
  | .computationFinished => .readUrmsStatus

def isRead : Flag → AlgoPc → Bool
  | .barrier, .readUrmsDatafile => true
  | .barrier, .readUrmsStatus => true
  | _, .writeRampData => true
  | _, _ => false

def lastRead (f : Flag) (a : Algo Others) : Bool :=
  match a.pc with
  | .startTiming | .startPhase7Timing | .startUrmsStatus => false
  | _ => if f.isRead a.pc then f.inInput a.input else f.sav a.daemon

def pending (f : Flag) (a : Algo Others) : Bool :=
  match a.pc with
  | .writeSignalData | .readTiming | .setMaxGreen | .writeTiming | .control => f.ofPass a
  | _ => if f.isRead a.pc then f.edge a.daemon a.input else false

def reads (f : Flag) (s : System Others) : Event Others → Bool
  | .algo _ => decide (s.algo.pc = f.readAt)
  | _ => false

end Flag

section passes

variable (p : Platform) (t : Tuning) (f : Flag)

def edges (σ : Daemon) : List Input → ℕ
  | [] => 0
  | i :: is => (f.edge σ i).toNat + edges (next p t σ i) is

theorem edges_concat (σ : Daemon) (is : List Input) (i : Input) :
    edges p t f σ (is ++ [i]) =
      edges p t f σ is + (f.edge (is.foldl (next p t) σ) i).toNat := by
  induction is generalizing σ with
  | nil => exact (Nat.zero_add _).symm
  | cons j js ih =>
    rw [List.cons_append, edges, edges, ih, Nat.add_assoc]
    rfl

theorem edges_end {σ : Daemon} {is : List Input} {i : Input} {flag : Bool}
    (h : flag = f.edge (is.foldl (next p t) σ) i) :
    edges p t f σ is + flag.toNat = edges p t f σ (is ++ [i]) + 0 := by
  rw [edges_concat, h, Nat.add_zero]

/-- At a barrier the tick measures and sends: the edges are the greens sent. -/
theorem edges_barrier (σ : Daemon) (is : List Input) :
    edges p t .barrier σ is = (outputs p t σ is).countP fun o => o.sentMaxGreen.isSome := by
  induction is generalizing σ with
  | nil => rfl
  | cons i is ih =>
    have sent : (output p t σ i).sentMaxGreen.isSome = signalEdge σ i := by
      rw [output_sentMaxGreen]
      cases signalEdge σ i <;> rfl
    rw [edges, outputs, List.countP_cons, ih, sent, Nat.add_comm]
    cases edge : signalEdge σ i <;> simp [Flag.edge, edge]

/-- What the poller of `Polling` knows and has seen, in the variables of the program. -/
structure Polled (a : Algo Others) (last : Bool) (seen : ℕ) : Prop where
  lastRead : f.lastRead a = last
  seen : seen = edges p t f a.origin a.passes + (f.pending a).toNat

theorem seen_read (σ : Daemon) (i : Input) {seen n : ℕ} (count : seen = n + 0) :
    seen + (f.inInput i && !f.sav σ).toNat = n + (f.edge σ i).toNat := by
  rw [count, Nat.add_zero, Flag.edge_eq]

theorem polled_algoStep (x : Ambient) {db₀ : Database Others} {a : Algo Others}
    {db : Database Others} (algo : AlgoInvariant p t db₀ a db) {last : Bool} {seen : ℕ}
    (h : Polled p t f a last seen) :
    Polled p t f (algoStep p t x a db).1
      (if a.pc = f.readAt then f.inDb db else last)
      (seen + (decide (a.pc = f.readAt) && f.inDb db && !last).toNat) := by
  obtain ⟨lastRead, count⟩ := h
  have stage := algo.stage
  obtain ⟨pc, daemon, input, signalFlag, rampFlag, phaseTiming, origin, passes, ramps, signals⟩ := a
  cases pc with
  | startTiming => cases f <;> exact ⟨lastRead, count⟩
  | startPhase7Timing => cases f <;> exact ⟨lastRead, count⟩
  | startUrmsStatus =>
    have none : passes = [] := stage
    subst none
    cases f <;> exact ⟨lastRead, count⟩
  | readStatus => cases f <;> exact ⟨lastRead, count⟩
  | readShortStatus => cases f <;> exact ⟨lastRead, count⟩
  | readPhaseStatus =>
    cases f with
    | barrier =>
      subst lastRead
      exact ⟨rfl, seen_read .barrier daemon { input with records.phaseStatus := db.phaseStatus }
        count⟩
    | computationFinished => exact ⟨lastRead, count⟩
  | readUrmsDatafile => cases f <;> exact ⟨lastRead, count⟩
  | readUrmsStatus =>
    cases f with
    | barrier => exact ⟨lastRead, count⟩
    | computationFinished =>
      subst lastRead
      exact ⟨rfl, seen_read .computationFinished daemon
        { input with records.dbUrmsStatus := db.dbUrmsStatus } count⟩
  | writeRampData =>
    cases f <;> exact ⟨(congrArg Prod.snd (detectEdge_eq _ _)).trans lastRead, count⟩
  | writeSignalData => cases f <;> cases signalFlag <;> exact ⟨lastRead, count⟩
  | readTiming => cases f <;> exact ⟨lastRead, count⟩
  | setMaxGreen =>
    obtain ⟨⟨-, signalEq, rampEq⟩, -⟩ := stage
    obtain ⟨clock, tmWday, fails⟩ := x
    cases fails
    · cases f <;> exact ⟨lastRead, count⟩
    · cases f with
      | barrier => exact ⟨lastRead, count.trans (edges_end p t .barrier signalEq)⟩
      | computationFinished =>
        exact ⟨lastRead, count.trans (edges_end p t .computationFinished rampEq)⟩
  | writeTiming => cases f <;> exact ⟨lastRead, count⟩
  | control =>
    obtain ⟨⟨-, signalEq, rampEq⟩, -⟩ := stage
    cases f with
    | barrier => exact ⟨lastRead, count.trans (edges_end p t .barrier signalEq)⟩
    | computationFinished =>
      exact ⟨lastRead, count.trans (edges_end p t .computationFinished rampEq)⟩
  | exited => cases f <;> exact ⟨lastRead, count⟩

theorem polled_systemStep {db₀ : Database Others} {s : System Others} (e : Event Others)
    (algo : AlgoInvariant p t db₀ s.algo s.db) {last : Bool} {seen : ℕ}
    (h : Polled p t f s.algo last seen) :
    Polled p t f (systemStep p t s e).algo (if f.reads s e then f.inDb s.db else last)
      (seen + (f.reads s e && f.inDb s.db && !last).toNat) := by
  rcases e with x | - | x
  · have step := polled_algoStep p t f x algo h
    simp only [Flag.reads, decide_eq_true_eq]
    exact step
  · exact h
  · exact h

theorem inDb_of_reads {s : System Others} {e : Event Others} (read : f.reads s e = true) :
    f.inDb (systemStep p t s e).db = f.inDb s.db := by
  rcases e with x | - | x
  · have here : s.algo.pc = f.readAt := of_decide_eq_true read
    obtain ⟨⟨pc, daemon, input, signalFlag, rampFlag, phaseTiming, origin, passes, ramps, signals⟩,
      w, db⟩ := s
    change pc = f.readAt at here
    subst here
    cases f <;> rfl
  · exact absurd read (by simp [Flag.reads])
  · exact absurd read (by simp [Flag.reads])

end passes

/-- In any order of the calls, how often a flag has been raised in the database (an initial raised
flag counted) is how often a pass had its edge, with the pass under way, and the raise that
waits to be read, and the changes of a flag that had not been read. The edges of
the barrier flag are the greens sent. -/
theorem flag_pulses (p : Platform) (t : Tuning) (f : Flag) (db : Database Others) (daemon : Daemon)
    (input : Input) (phaseTiming : PhaseTiming Others) (buffers : LogBuffers)
    (events : ℕ → Event Others) (k : ℕ) :
    let s := systemAt p t (boot db daemon input phaseTiming buffers) events
    let level := fun j => f.inDb (s j).db
    let reads := fun j => f.reads (s j) (events j)
    (level 0).toNat + times (raisedAt level) k =
      edges p t f (s k).algo.origin (s k).algo.passes + (f.pending (s k).algo).toNat +
        (waitingAt level reads k).toNat + times (missedAt level reads) k ∧
    edges p t .barrier (s k).algo.origin (s k).algo.passes =
      (outputs p t (s k).algo.origin (s k).algo.passes).countP fun o => o.sentMaxGreen.isSome := by
  intro s level reads
  have polled : ∀ j,
      Polled p t f (s j).algo (known level reads j) (times (seenAt level reads) j) := by
    intro j
    induction j with
    | zero => cases f <;> exact ⟨rfl, rfl⟩
    | succ j ih =>
      have algo : AlgoInvariant p t db (s j).algo (s j).db :=
        programInvariant_systemAt p t db daemon input phaseTiming buffers events j .acRmAlgo
      rw [times_succ]
      exact polled_systemStep p t f (events j) algo ih
  refine ⟨?_, edges_barrier p t _ _⟩
  rw [raised_eq level reads (fun j => inDb_of_reads p t f) k, (polled k).seen]

end RampMetering
