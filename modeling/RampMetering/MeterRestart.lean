import RampMetering.DeadBand
import RampMetering.Separation

/-! A program that is stopped and started again. What the meter side carries from tick to tick
is the history, the averages, the occupancy of the last evaluation, the rate and `myflag`. All
of it is made anew from what later ticks read, so a restart shows for a while only; and the
commands come right before the published data, since the rate forgets at the next evaluation. -/

namespace RampMetering
open Register Window

def later (ins : ℕ → Input) (j k : ℕ) : Input := ins (j + k)

def rowsHeld (recs : ℕ → Records) (k : ℕ) : History RampRow := fun i => heldRow recs (k - (5 - i))

def ReadsOccupancy (recs : ℕ → Records) (lane : Fin numberLane) (k : ℕ) : Prop :=
  accepts (recs k) = true ∧ (leadOccHealth lane (rowsHeld recs (k + 1)) = true ∨
    trailOccHealth lane (rowsHeld recs (k + 1)) = true)

def ReadsVolume (recs : ℕ → Records) (lane : Fin numberLane) (k : ℕ) : Prop :=
  accepts (recs k) = true ∧ (leadVolHealth lane (rowsHeld recs (k + 1)) = true ∨
    trailVolHealth lane (rowsHeld recs (k + 1)) = true)

/-- Every average was made anew up to call `e`, from six rows that start with an accepted one. -/
def Refreshed (recs : ℕ → Records) (e : ℕ) : Prop :=
  ∃ a, accepts (recs a) = true ∧ ∀ lane,
    (∃ b, a + 5 ≤ b ∧ b ≤ e ∧ ReadsOccupancy recs lane b) ∧
      ∃ b, a + 5 ≤ b ∧ b ≤ e ∧ ReadsVolume recs lane b

/-- Tick `k` computes a rate. On the first tick after a start a level counts as an edge. -/
def Recomputes (ins : ℕ → Input) (k : ℕ) : Prop :=
  0 < k ∧ accepts (ins k).records = true ∧ isEdge (rampLevel ins) k = true

/-- Tick `k` decides `myflag` whatever it was. -/
def Settles (ins : ℕ → Input) (k : ℕ) : Prop :=
  inControlWindow (ins k) = true ∧
    (hovLevel (ins k) = 0 ∨ hovLevel (ins k) ≠ 1 ∧ 0 < k ∧ isEdge (rampLevel ins) k = true)

theorem isEdge_later (level : (ℕ → Input) → ℕ → Bool)
    (pointwise : ∀ ins j k, level (later ins j) k = level ins (j + k)) (ins : ℕ → Input) (j : ℕ)
    {k : ℕ} (positive : 0 < k) :
    isEdge (level (later ins j)) k = isEdge (level ins) (j + k) := by
  cases k with
  | zero => exact absurd positive (lt_irrefl 0)
  | succ k =>
    rw [isEdge, pointwise, pointwise]
    rfl

theorem rampLevel_later (ins : ℕ → Input) (j : ℕ) {k : ℕ} (positive : 0 < k) :
    isEdge (rampLevel (later ins j)) k = isEdge (rampLevel ins) (j + k) :=
  isEdge_later rampLevel (fun _ _ _ => rfl) ins j positive

theorem barrierLevel_later (ins : ℕ → Input) (j : ℕ) {k : ℕ} (positive : 0 < k) :
    isEdge (barrierLevel (later ins j)) k = isEdge (barrierLevel ins) (j + k) :=
  isEdge_later barrierLevel (fun _ _ _ => rfl) ins j positive

theorem heldRow_later (ins : ℕ → Input) (j : ℕ) {a k : ℕ}
    (accepted : accepts (recordsOf (later ins j) a) = true) (hak : a < k) :
    heldRow (recordsOf ins) (j + k) = heldRow (recordsOf (later ins j)) k := by
  induction k, hak using Nat.le_induction with
  | base =>
    have accepted' : accepts (recordsOf ins (j + a)) = true := accepted
    rw [Nat.succ_eq_add_one, ← Nat.add_assoc, heldRow, heldRow, if_pos accepted, if_pos accepted']
    rfl
  | succ k hak ih =>
    rw [← Nat.add_assoc, heldRow, heldRow, ih]
    rfl

theorem rowsHeld_later (ins : ℕ → Input) (j : ℕ) {a k : ℕ}
    (accepted : accepts (recordsOf (later ins j) a) = true) (hak : a + 6 ≤ k) :
    rowsHeld (recordsOf ins) (j + k) = rowsHeld (recordsOf (later ins j)) k := by
  funext i
  have place : j + k - (5 - i) = j + (k - (5 - i)) := by omega
  rw [rowsHeld, rowsHeld, place]
  exact heldRow_later ins j accepted (by omega)

theorem occupancyAfter_forgets {lead trail : Bool} (reads : lead = true ∨ trail = true)
    (row : RampRow) (lane : Fin numberLane) (kept kept' : ℚ) :
    occupancyAfter lead trail row lane kept = occupancyAfter lead trail row lane kept' := by
  cases lead <;> cases trail <;> first | rfl | simp at reads

theorem volumeAfter_forgets {lead trail : Bool} (reads : lead = true ∨ trail = true)
    (row : RampRow) (lane : Fin numberLane) (kept kept' : ℤ) :
    volumeAfter lead trail row lane kept = volumeAfter lead trail row lane kept' := by
  cases lead <;> cases trail <;> first | rfl | simp at reads

/-- Here `ALINEA_GAMMA` is 1: the occupancy of the last evaluation has no weight. -/
theorem occOut_forgets {r r' : RampVariables} (rows : rampRows r = rampRows r')
    (occupancy : r.mainlineAvgOccupancy = r'.mainlineAvgOccupancy)
    (volume : r.mainlineAvgVolume = r'.mainlineAvgVolume) : occOut r = occOut r' := by
  have passage : r.passageVol newest = r'.passageVol newest :=
    congrArg (fun rows => (rows newest).passageVol) rows
  have occ : occIn r = occIn r' := by rw [occIn, occIn, occupancy]
  have flow : flowIn r = flowIn r' := by rw [flowIn, flowIn, volume]
  have ramp : flowRamp r = flowRamp r' := by rw [flowRamp, flowRamp, passage]
  have gamma : 1 - alineaGamma = 0 := sub_self 1
  rw [occOut, occOut, occ, flow, ramp, gamma, zero_mul, zero_mul]

theorem rampVariables_eq {r r' : RampVariables} (rows : rampRows r = rampRows r')
    (update : r.prevUpdateData = r'.prevUpdateData)
    (occupancy : r.mainlineAvgOccupancy = r'.mainlineAvgOccupancy)
    (volume : r.mainlineAvgVolume = r'.mainlineAvgVolume) (out : r.prevOccOut = r'.prevOccOut)
    (rate : r.newMeterRate = r'.newMeterRate) : r = r' := by
  rw [← withRows_rampRows r, ← withRows_rampRows r', rows]
  simp only [withRows, update, occupancy, volume, out, rate]

theorem computesRate_eq (σ : Daemon) (i : Input) :
    computesRate σ i = (accepts i.records && rampEdge σ i) := by
  rw [computesRate, tickGlobals, readRampData_setGlobals, readRampData_returns]

theorem next_prevOccOut (p : Platform) (t : Tuning) {σ : Daemon} {i : Input}
    (computes : computesRate σ i = true) :
    (next p t σ i).ramp.prevOccOut = occOut (readRampData (decode i.records) σ.ramp).1 := by
  have both : ((readRampData (tickGlobals σ i) σ.ramp).2 && rampEdge σ i) = true := computes
  rw [next_ramp, testRamp]
  dsimp only
  rw [if_pos both]
  rfl

theorem next_newMeterRate_of_computes (p : Platform) (t : Tuning) {σ : Daemon} {i : Input}
    (computes : computesRate σ i = true) :
    (next p t σ i).ramp.newMeterRate = floorAt i.clock.alineaFirst i.clock.alineaSecond := by
  obtain ⟨accepted, edge⟩ := Bool.and_eq_true_iff.mp computes
  exact next_newMeterRate edge accepted

theorem readRampData_prevUpdateData (rec : Records) (r : RampVariables) :
    (readRampData (decode rec) r).1.prevUpdateData = r.prevUpdateData := by
  cases accepted : accepts rec
  · rw [readRampData_rejected accepted]
    rfl
  · rw [readRampData_accepted accepted]
    rfl

theorem next_prevUpdateData (p : Platform) (t : Tuning) (σ : Daemon) (i : Input) :
    (next p t σ i).ramp.prevUpdateData = σ.ramp.prevUpdateData := by
  refine Eq.trans ?_ (readRampData_prevUpdateData i.records σ.ramp)
  rw [next_rampTick, rampTick, testRamp]
  dsimp only
  split_ifs
  · rfl
  · rfl

section control

variable (p : Platform) (i : Input) (rampFlag : Bool)

theorem controlMeter_myflag (rate rate' : ℚ) (myflag : Bool) (dbUrms dbUrms' : DbUrms) :
    (controlMeter p i rampFlag rate myflag dbUrms).1 =
      (controlMeter p i rampFlag rate' myflag dbUrms').1 := by
  unfold controlMeter
  dsimp only
  split_ifs <;> rfl

theorem controlMeter_command (rate : ℚ) (myflag : Bool) (dbUrms dbUrms' : DbUrms) :
    (controlMeter p i rampFlag rate myflag dbUrms).2.2 =
      (controlMeter p i rampFlag rate myflag dbUrms').2.2 := by
  unfold controlMeter
  dsimp only
  split_ifs <;> rfl

theorem controlMeter_settles (window : inControlWindow i = true)
    (settles : hovLevel i = 0 ∨ hovLevel i ≠ 1 ∧ rampFlag = true) (rate : ℚ) (myflag : Bool)
    (dbUrms : DbUrms) :
    (controlMeter p i rampFlag rate myflag dbUrms).1 = decide (hovLevel i = 0) := by
  have step := controlMeter_step p i rampFlag rate myflag dbUrms
  generalize (controlMeter p i rampFlag rate myflag dbUrms).1 = after at step ⊢
  generalize (controlMeter p i rampFlag rate myflag dbUrms).2.2 = written at step
  cases step with
  | outside _ closed =>
    rw [window] at closed
    cases closed
  | restInGreen _ zero => exact (decide_eq_true zero).symm
  | resting _ level =>
    apply (decide_eq_true _).symm
    rcases settles with zero | ⟨other, -⟩
    · exact zero
    · exact level.resolve_left other
  | fixedRate _ _ level => exact (decide_eq_false level).symm
  | waiting _ _ level _ none =>
    rcases settles with zero | ⟨-, flag⟩
    · exact absurd zero level
    · rw [none] at flag
      cases flag

end control

section run

variable (p : Platform) (t t' : Tuning) (maxGreen1 maxGreen1' : ℤ) (u u' : DbUrmsStatus)
  (ins : ℕ → Input) (j : ℕ)

/-- How the two stand to each other before tick `k` after the restart. -/
def Across (R : Daemon → Daemon → Prop) (k : ℕ) : Prop :=
  R (daemonAt p t (start maxGreen1 u) ins (j + k))
    (daemonAt p t' (start maxGreen1' u') (later ins j) k)

def sameRate (σ σ' : Daemon) : Prop := σ.ramp.newMeterRate = σ'.ramp.newMeterRate

def sameMyflag (σ σ' : Daemon) : Prop := σ.myflag = σ'.myflag

def sameRampState (σ σ' : Daemon) : Prop := σ.ramp = σ'.ramp

variable {k : ℕ}

theorem rampRows_rowsHeld (k : ℕ) :
    rampRows (daemonAt p t (start maxGreen1 u) ins k).ramp = rowsHeld (recordsOf ins) k := by
  rw [rampRows_daemonAt]
  exact funext (rampRows_readsAt_heldRow staticRamp (recordsOf ins) k)

theorem rampEdge_across (positive : 0 < k) :
    rampEdge (daemonAt p t (start maxGreen1 u) ins (j + k)) (ins (j + k)) =
      rampEdge (daemonAt p t' (start maxGreen1' u') (later ins j) k) (later ins j k) := by
  rw [rampEdge_run, rampEdge_run, rampLevel_later ins j positive]

theorem computesRate_across (positive : 0 < k) :
    computesRate (daemonAt p t (start maxGreen1 u) ins (j + k)) (ins (j + k)) =
      computesRate (daemonAt p t' (start maxGreen1' u') (later ins j) k) (later ins j k) := by
  rw [computesRate_eq, computesRate_eq,
    rampEdge_across p t t' maxGreen1 maxGreen1' u u' ins j positive]
  rfl

theorem exits_across (positive : 0 < k) :
    exits (daemonAt p t (start maxGreen1 u) ins (j + k)) (ins (j + k)) =
      exits (daemonAt p t' (start maxGreen1' u') (later ins j) k) (later ins j k) := by
  have edge : signalEdge (daemonAt p t (start maxGreen1 u) ins (j + k)) (ins (j + k)) =
      signalEdge (daemonAt p t' (start maxGreen1' u') (later ins j) k) (later ins j k) := by
    rw [signalEdge_run, signalEdge_run, barrierLevel_later ins j positive]
  exact congrArg (· && (ins (j + k)).setMaxGreenFails) edge

theorem Recomputes.computesRate {e : ℕ} (recomputes : Recomputes (later ins j) e) :
    computesRate (daemonAt p t' (start maxGreen1' u') (later ins j) e) (later ins j e) = true := by
  obtain ⟨-, accepted, edge⟩ := recomputes
  rw [computesRate_run, accepted, edge, Bool.true_and]

theorem averages_rowsHeld (ins : ℕ → Input) (k : ℕ) (lane : Fin numberLane) :
    (daemonAt p t (start maxGreen1 u) ins (k + 1)).ramp.mainlineAvgOccupancy lane =
        (if accepts (recordsOf ins k) then
          occupancyAfter (leadOccHealth lane (rowsHeld (recordsOf ins) (k + 1)))
            (trailOccHealth lane (rowsHeld (recordsOf ins) (k + 1)))
            (rowsHeld (recordsOf ins) (k + 1) newest) lane
            ((daemonAt p t (start maxGreen1 u) ins k).ramp.mainlineAvgOccupancy lane)
        else (daemonAt p t (start maxGreen1 u) ins k).ramp.mainlineAvgOccupancy lane) ∧
      (daemonAt p t (start maxGreen1 u) ins (k + 1)).ramp.mainlineAvgVolume lane =
        if accepts (recordsOf ins k) then
          volumeAfter (leadVolHealth lane (rowsHeld (recordsOf ins) (k + 1)))
            (trailVolHealth lane (rowsHeld (recordsOf ins) (k + 1)))
            (rowsHeld (recordsOf ins) (k + 1) newest) lane
            ((daemonAt p t (start maxGreen1 u) ins k).ramp.mainlineAvgVolume lane)
        else (daemonAt p t (start maxGreen1 u) ins k).ramp.mainlineAvgVolume lane := by
  obtain ⟨occupancy, volume⟩ := averages_daemonAt_succ p t maxGreen1 u ins k lane
  rw [occupancy, volume]
  cases accepted : accepts (recordsOf ins k)
  · have kept := readRampData_rejected accepted (daemonAt p t (start maxGreen1 u) ins k).ramp
    change (readRampData (decode (recordsOf ins k)) _).1.mainlineAvgOccupancy lane = _ ∧
      (readRampData (decode (recordsOf ins k)) _).1.mainlineAvgVolume lane = _
    rw [kept]
    exact ⟨rfl, rfl⟩
  · have rows := rows_readRampData p t maxGreen1 u ins k
    rw [funext (rampRows_readsAt_heldRow staticRamp (recordsOf ins) (k + 1))] at rows
    exact averages_accepted accepted _ lane rows

theorem average_across {α : Type} (read : Daemon → α) (after : History RampRow → α → α)
    (step : ∀ (t : Tuning) (maxGreen1 : ℤ) (u : DbUrmsStatus) (ins : ℕ → Input) (k : ℕ),
      read (daemonAt p t (start maxGreen1 u) ins (k + 1)) =
        if accepts (recordsOf ins k) then
          after (rowsHeld (recordsOf ins) (k + 1)) (read (daemonAt p t (start maxGreen1 u) ins k))
        else read (daemonAt p t (start maxGreen1 u) ins k))
    {a b : ℕ} (settled : accepts (recordsOf (later ins j) a) = true) (hab : a + 5 ≤ b)
    (accepted : accepts (recordsOf (later ins j) b) = true)
    (forgets : ∀ x y, after (rowsHeld (recordsOf (later ins j)) (b + 1)) x =
      after (rowsHeld (recordsOf (later ins j)) (b + 1)) y) (hbk : b < k) :
    Across p t t' maxGreen1 maxGreen1' u u' ins j (fun σ σ' => read σ = read σ') k := by
  have rows : ∀ i, b ≤ i → rowsHeld (recordsOf ins) (j + i + 1) =
      rowsHeld (recordsOf (later ins j)) (i + 1) := by
    intro i hbi
    rw [Nat.add_assoc]
    exact rowsHeld_later ins j settled (by omega)
  have same : ∀ i, accepts (recordsOf ins (j + i)) = accepts (recordsOf (later ins j) i) :=
    fun _ => rfl
  rw [Across]
  induction k, hbk using Nat.le_induction with
  | base =>
    rw [Nat.succ_eq_add_one, ← Nat.add_assoc, step, step, same, accepted, if_pos rfl, if_pos rfl,
      rows b le_rfl]
    exact forgets _ _
  | succ k hbk ih => rw [← Nat.add_assoc, step, step, same, rows k (by omega), ih]

theorem occupancy_across {a b : ℕ} (settled : accepts (recordsOf (later ins j) a) = true)
    (hab : a + 5 ≤ b) {lane : Fin numberLane}
    (reads : ReadsOccupancy (recordsOf (later ins j)) lane b) (hbk : b < k) :
    Across p t t' maxGreen1 maxGreen1' u u' ins j
      (fun σ σ' => σ.ramp.mainlineAvgOccupancy lane = σ'.ramp.mainlineAvgOccupancy lane) k :=
  average_across p t t' maxGreen1 maxGreen1' u u' ins j
    (fun σ => σ.ramp.mainlineAvgOccupancy lane)
    (fun rows kept => occupancyAfter (leadOccHealth lane rows) (trailOccHealth lane rows)
      (rows newest) lane kept)
    (fun t maxGreen1 u ins k => (averages_rowsHeld p t maxGreen1 u ins k lane).1)
    settled hab reads.1 (fun _ _ => occupancyAfter_forgets reads.2 _ _ _ _) hbk

theorem volume_across {a b : ℕ} (settled : accepts (recordsOf (later ins j) a) = true)
    (hab : a + 5 ≤ b) {lane : Fin numberLane}
    (reads : ReadsVolume (recordsOf (later ins j)) lane b) (hbk : b < k) :
    Across p t t' maxGreen1 maxGreen1' u u' ins j
      (fun σ σ' => σ.ramp.mainlineAvgVolume lane = σ'.ramp.mainlineAvgVolume lane) k :=
  average_across p t t' maxGreen1 maxGreen1' u u' ins j
    (fun σ => σ.ramp.mainlineAvgVolume lane)
    (fun rows kept => volumeAfter (leadVolHealth lane rows) (trailVolHealth lane rows)
      (rows newest) lane kept)
    (fun t maxGreen1 u ins k => (averages_rowsHeld p t maxGreen1 u ins k lane).2)
    settled hab reads.1 (fun _ _ => volumeAfter_forgets reads.2 _ _ _ _) hbk

theorem rate_across {e : ℕ} (recomputes : Recomputes (later ins j) e) (hek : e < k) :
    Across p t t' maxGreen1 maxGreen1' u u' ins j sameRate k := by
  have computed := Recomputes.computesRate p t' maxGreen1' u' ins j recomputes
  have positive := recomputes.1
  have step : ∀ i, 0 < i →
      computesRate (daemonAt p t' (start maxGreen1' u') (later ins j) i) (later ins j i) = true →
      Across p t t' maxGreen1 maxGreen1' u u' ins j sameRate (i + 1) := by
    intro i positive computes
    have computes' := (computesRate_across p t t' maxGreen1 maxGreen1' u u' ins j positive).trans
      computes
    exact (next_newMeterRate_of_computes p t computes').trans
      (next_newMeterRate_of_computes p t' computes).symm
  induction k, hek using Nat.le_induction with
  | base => exact step e positive computed
  | succ k hek ih =>
    have positive' : 0 < k := by omega
    have both := computesRate_across p t t' maxGreen1 maxGreen1' u u' ins j positive'
    rcases next_newMeterRate_cases p t' (daemonAt p t' (start maxGreen1' u') (later ins j) k)
      (later ins j k) with ⟨computes, -, -⟩ | ⟨idle, kept⟩
    · exact step k positive' computes
    · rcases next_newMeterRate_cases p t (daemonAt p t (start maxGreen1 u) ins (j + k))
        (ins (j + k)) with ⟨computes, -, -⟩ | ⟨-, kept'⟩
      · rw [both, idle] at computes
        cases computes
      · exact kept'.trans (ih.trans kept.symm)

theorem prevUpdateData_daemonAt (k : ℕ) :
    (daemonAt p t (start maxGreen1 u) ins k).ramp.prevUpdateData = 0 :=
  Run.run_invariant (fun _ (σ : Daemon) => σ.ramp.prevUpdateData = 0) rfl
    (fun k σ zero => (next_prevUpdateData p t σ (ins k)).trans zero) k

theorem prevOccOut_daemonAt_succ (k : ℕ)
    (computes : computesRate (daemonAt p t (start maxGreen1 u) ins k) (ins k) = true) :
    (daemonAt p t (start maxGreen1 u) ins (k + 1)).ramp.prevOccOut =
      occOut (readRampData (decode (ins k).records)
        (daemonAt p t (start maxGreen1 u) ins k).ramp).1 :=
  next_prevOccOut p t computes

section refreshed

variable {e : ℕ} (refreshed : Refreshed (recordsOf (later ins j)) e)

include refreshed

theorem averages_across :
    (∀ lane, Across p t t' maxGreen1 maxGreen1' u u' ins j
        (fun σ σ' => σ.ramp.mainlineAvgOccupancy lane = σ'.ramp.mainlineAvgOccupancy lane)
        (e + 1)) ∧
      ∀ lane, Across p t t' maxGreen1 maxGreen1' u u' ins j
        (fun σ σ' => σ.ramp.mainlineAvgVolume lane = σ'.ramp.mainlineAvgVolume lane) (e + 1) := by
  obtain ⟨a, settled, lanes⟩ := refreshed
  constructor
  · intro lane
    obtain ⟨⟨b, hab, hbe, reads⟩, -⟩ := lanes lane
    exact occupancy_across p t t' maxGreen1 maxGreen1' u u' ins j settled hab reads (by omega)
  · intro lane
    obtain ⟨-, b, hab, hbe, reads⟩ := lanes lane
    exact volume_across p t t' maxGreen1 maxGreen1' u u' ins j settled hab reads (by omega)

theorem rowsHeld_refreshed :
    rowsHeld (recordsOf ins) (j + (e + 1)) = rowsHeld (recordsOf (later ins j)) (e + 1) := by
  obtain ⟨a, settled, lanes⟩ := refreshed
  obtain ⟨⟨b, hab, hbe, -⟩, -⟩ := lanes 0
  exact rowsHeld_later ins j settled (by omega)

theorem prevOccOut_across (recomputes : Recomputes (later ins j) e) :
    Across p t t' maxGreen1 maxGreen1' u u' ins j
      (fun σ σ' => σ.ramp.prevOccOut = σ'.ramp.prevOccOut) (e + 1) := by
  have computes := Recomputes.computesRate p t' maxGreen1' u' ins j recomputes
  have computes' := (computesRate_across p t t' maxGreen1 maxGreen1' u u' ins j
    recomputes.1).trans computes
  obtain ⟨occupancy, volume⟩ := averages_across p t t' maxGreen1 maxGreen1' u u' ins j refreshed
  refine (prevOccOut_daemonAt_succ p t maxGreen1 u ins (j + e) computes').trans
    (Eq.trans ?_ (prevOccOut_daemonAt_succ p t' maxGreen1' u' (later ins j) e computes).symm)
  apply occOut_forgets
  · rw [rows_readRampData, rows_readRampData,
      funext (rampRows_readsAt_heldRow staticRamp (recordsOf ins) (j + e + 1)),
      funext (rampRows_readsAt_heldRow staticRamp (recordsOf (later ins j)) (e + 1))]
    exact rowsHeld_refreshed ins j refreshed
  · funext lane
    rw [← (averages_daemonAt_succ p t maxGreen1 u ins (j + e) lane).1,
      ← (averages_daemonAt_succ p t' maxGreen1' u' (later ins j) e lane).1]
    exact occupancy lane
  · funext lane
    rw [← (averages_daemonAt_succ p t maxGreen1 u ins (j + e) lane).2,
      ← (averages_daemonAt_succ p t' maxGreen1' u' (later ins j) e lane).2]
    exact volume lane

theorem ramp_at_evaluation (recomputes : Recomputes (later ins j) e) :
    Across p t t' maxGreen1 maxGreen1' u u' ins j sameRampState (e + 1) := by
  obtain ⟨occupancy, volume⟩ := averages_across p t t' maxGreen1 maxGreen1' u u' ins j refreshed
  refine rampVariables_eq ?_ ?_ (funext occupancy) (funext volume)
    (prevOccOut_across p t t' maxGreen1 maxGreen1' u u' ins j refreshed recomputes)
    (rate_across p t t' maxGreen1 maxGreen1' u u' ins j recomputes (Nat.lt_succ_self e))
  · rw [rampRows_rowsHeld, rampRows_rowsHeld]
    exact rowsHeld_refreshed ins j refreshed
  · rw [prevUpdateData_daemonAt, prevUpdateData_daemonAt]

end refreshed

theorem ramp_across {e : ℕ} (recomputes : Recomputes (later ins j) e)
    (refreshed : Refreshed (recordsOf (later ins j)) e) (hek : e < k) :
    Across p t t' maxGreen1 maxGreen1' u u' ins j sameRampState k := by
  induction k, hek using Nat.le_induction with
  | base => exact ramp_at_evaluation p t t' maxGreen1 maxGreen1' u u' ins j refreshed recomputes
  | succ k hek ih =>
    have edge := rampEdge_across p t t' maxGreen1 maxGreen1' u u' ins j
      (show 0 < k by omega)
    rw [Across, sameRampState] at ih ⊢
    rw [daemonAt_succ, ← Nat.add_assoc, daemonAt_succ, next_rampTick, next_rampTick, rampInputOf,
      rampInputOf, ih, edge]
    rfl

theorem myflag_daemonAt_succ (σ : Daemon) (ins : ℕ → Input) (k : ℕ)
    (live : Run.Live (next p t) exits σ ins (k + 1)) :
    (daemonAt p t σ ins (k + 1)).myflag =
      (controlMeter p (ins k) (rampEdge (daemonAt p t σ ins k) (ins k))
        (daemonAt p t σ ins (k + 1)).ramp.newMeterRate (daemonAt p t σ ins k).myflag
        (daemonAt p t σ ins k).dbUrms).1 := by
  have stay : exits (daemonAt p t σ ins k) (ins k) = false := live k (Nat.lt_succ_self k)
  rw [daemonAt_succ, next_myflag, stay, if_neg (by simp)]

theorem myflag_of_settles {s : ℕ} (settles : Settles (later ins j) s)
    (live : Run.Live (next p t) exits (start maxGreen1 u) ins (j + (s + 1))) :
    (daemonAt p t (start maxGreen1 u) ins (j + (s + 1))).myflag =
      decide (hovLevel (later ins j s) = 0) := by
  obtain ⟨window, level⟩ := settles
  refine (myflag_daemonAt_succ p t _ ins (j + s) live).trans ?_
  refine controlMeter_settles p (later ins j s) _ window ?_ _ _ _
  rcases level with zero | ⟨other, positive, edge⟩
  · exact Or.inl zero
  · rw [rampLevel_later ins j positive] at edge
    exact Or.inr ⟨other, (rampEdge_run p t maxGreen1 u ins (j + s)).trans edge⟩

theorem myflag_across {s : ℕ} (settles : Settles (later ins j) s) (hsk : s < k)
    (live : Run.Live (next p t) exits (start maxGreen1 u) ins (j + k))
    (live' : Run.Live (next p t') exits (start maxGreen1' u') (later ins j) k) :
    Across p t t' maxGreen1 maxGreen1' u u' ins j sameMyflag k := by
  induction k, hsk using Nat.le_induction with
  | base =>
    have same : later (later ins j) 0 = later ins j := by
      funext i
      exact congrArg (later ins j) (Nat.zero_add i)
    refine (myflag_of_settles p t maxGreen1 u ins j settles live).trans (Eq.symm ?_)
    have again := myflag_of_settles p t' maxGreen1' u' (later ins j) 0 (s := s)
      (by rwa [same]) (by rwa [Nat.zero_add])
    rwa [Nat.zero_add, same] at again
  | succ k hsk ih =>
    have before := ih (live.of_le (by omega)) (live'.of_le (by omega))
    have edge := rampEdge_across p t t' maxGreen1 maxGreen1' u u' ins j (show 0 < k by omega)
    rw [Across, sameMyflag] at before ⊢
    rw [myflag_daemonAt_succ p t' _ _ k live', ← edge, ← before]
    exact (myflag_daemonAt_succ p t _ ins (j + k) live).trans
      (controlMeter_myflag p (ins (j + k)) _ _ _ _ _ _)

end run

/-- Readings of the lead detectors that jump at every tick, and a rate asked for at every other. -/
def waveringInput (k : ℕ) : Input :=
  let odd := k % 2 = 1
  { afternoon 0 (if odd then 1 else 0) with
    records.urmsDatafile.mainlineLeadOcc := fun _ => if odd then 20 else 10
    records.dbUrmsStatus.mainlineStat := fun _ => ⟨2, if odd then 20 else 10, 0, 0⟩ }

end RampMetering
