import RampMetering.Variables

/-! What a tick reads from the database, the global variables `set_globals` decodes it into,
and the getters of `interface.c`. A byte of a record is its content, so `0xFF & x` of a
`char` field is the value of the byte whatever the sign of `char`; `metering_rate` is a
signed 16-bit word. Only record members some modelled function reads are kept. -/

namespace RampMetering

abbrev Byte := BitVec 8
abbrev Short := BitVec 16

structure Timestamp where
  hour : ℕ
  min : ℕ
  sec : ℕ
  millisec : ℕ

structure PhaseStatus where
  ts : Timestamp
  greens : Byte
  yellows : Byte
  reds : Byte
  barrierFlag : Byte

structure LongStatus8 where
  masterClock : Byte
  seqNumber : Byte
  status : Byte
  pattern : Byte
  activePhase : Byte
  phaseCall : Byte
  pedCall : Byte
  interval : Byte
  greenYellowOverlap : Byte
  presence1 : Byte
  presence2 : Byte
  presence3 : Byte
  presence4 : Byte

structure MainlineStat where
  leadStat : Byte
  leadVol : Byte
  trailStat : Byte
  trailVol : Byte

/-- `meteredLaneRateMsb` is the promoted value of the byte; the code casts only the other. -/
structure MeteredLaneStat where
  demandVol : Byte
  passageVol : Byte
  meteredLaneRateMsb : ℤ
  meteredLaneRateLsb : Byte

structure QueueStat where
  vol : Byte

structure DbUrmsStatus where
  mainlineStat : Lanes MainlineStat
  meteredLaneStat : Lanes MeteredLaneStat
  queueStat : Lanes QueueStat
  cmdSrc : Lanes Byte
  action : Lanes Byte
  plan : Lanes Byte
  planBaseLvl : Lanes Byte
  computationFinished : Byte
  hour : Byte

structure UrmsDatafile where
  mainlineLeadOcc : Lanes ℚ
  mainlineTrailOcc : Lanes ℚ
  queueOcc : Lanes ℚ
  meteringRate : Lanes Short

structure Records where
  phaseStatus : PhaseStatus
  status : LongStatus8
  dbUrmsStatus : DbUrmsStatus
  urmsDatafile : UrmsDatafile

def zeroRecords : Records where
  phaseStatus := { ts := ⟨0, 0, 0, 0⟩, greens := 0, yellows := 0, reds := 0, barrierFlag := 0 }
  status := ⟨0, 0, 0, 0, 0, 0, 0, 0, 0, 0, 0, 0, 0⟩
  dbUrmsStatus :=
    { mainlineStat := fun _ => ⟨0, 0, 0, 0⟩
      meteredLaneStat := fun _ => ⟨0, 0, 0, 0⟩
      queueStat := fun _ => ⟨0⟩
      cmdSrc := fun _ => 0
      action := fun _ => 0
      plan := fun _ => 0
      planBaseLvl := fun _ => 0
      computationFinished := 0
      hour := 0 }
  urmsDatafile :=
    { mainlineLeadOcc := fun _ => 0
      mainlineTrailOcc := fun _ => 0
      queueOcc := fun _ => 0
      meteringRate := fun _ => 0 }

/-- Lane `i` of a field is the source's variable with suffix `_i`; `redundantA` is `a1..a8`,
`redundantB i` is `b1_i..b3_i`. -/
structure Globals where
  hr : ℚ := 0
  min : ℚ := 0
  sec : ℚ := 0
  c1 : Char := '\x00'
  c2 : Char := '\x00'
  redundantA : Fin 8 → ℤ := fun _ => 0
  redundantB : Lanes (Fin 3 → ℤ) := fun _ _ => 0
  greenYellowOverlap : ℤ := 0
  presence1 : ℤ := 0
  presence2 : ℤ := 0
  presence3 : ℤ := 0
  presence4 : ℤ := 0
  greens : ℤ := 0
  yellows : ℤ := 0
  reds : ℤ := 0
  leadStat : Lanes ℤ := fun _ => 0
  leadVol : Lanes ℤ := fun _ => 0
  leadOcc : Lanes ℚ := fun _ => 0
  trailStat : Lanes ℤ := fun _ => 0
  trailVol : Lanes ℤ := fun _ => 0
  trailOcc : Lanes ℚ := fun _ => 0
  demandVol : Lanes ℤ := fun _ => 0
  passageVol : Lanes ℤ := fun _ => 0
  queueOcc : Lanes ℚ := fun _ => 0
  queueVol : Lanes ℤ := fun _ => 0
  rate : Lanes ℤ := fun _ => 0

def maskByte (x : Byte) : ℤ := ((0xFF#8 &&& x).toNat : ℤ)

def maskShort (x : Short) : ℤ := ((0xFF#16 &&& x).toNat : ℤ)

theorem maskByte_eq (x : Byte) : maskByte x = x.toNat := by
  have all : (0xFF#8 : Byte) = BitVec.allOnes 8 := by decide
  rw [maskByte, all, BitVec.allOnes_and]

theorem maskShort_eq (x : Short) : maskShort x = (x.toNat % 256 : ℕ) := by
  have low : (0xFF#16 : Short).toNat = 2 ^ 8 - 1 := by decide
  rw [maskShort, BitVec.toNat_and, low, Nat.and_comm, Nat.and_two_pow_sub_one_eq_mod]

theorem maskByte_nonneg (x : Byte) : 0 ≤ maskByte x := Int.natCast_nonneg _

theorem maskShort_nonneg (x : Short) : 0 ≤ maskShort x := Int.natCast_nonneg _

theorem maskShort_le (x : Short) : maskShort x ≤ 255 := by
  rw [maskShort_eq]
  omega

def setGlobals (g : Globals) (phaseStatus : PhaseStatus) (status : LongStatus8)
    (dbUrmsStatus : DbUrmsStatus) (urmsDatafile : UrmsDatafile) : Globals :=
  { g with
    hr := phaseStatus.ts.hour
    sec := phaseStatus.ts.sec
    min := phaseStatus.ts.min
    greens := maskByte phaseStatus.greens
    yellows := maskByte phaseStatus.yellows
    reds := maskByte phaseStatus.reds
    greenYellowOverlap := maskByte status.greenYellowOverlap
    presence1 := maskByte status.presence1
    presence2 := maskByte status.presence2
    presence3 := maskByte status.presence3
    presence4 := maskByte status.presence4
    leadStat := fun i => maskByte (dbUrmsStatus.mainlineStat i).leadStat
    leadVol := fun i => maskByte (dbUrmsStatus.mainlineStat i).leadVol
    leadOcc := urmsDatafile.mainlineLeadOcc
    trailStat := fun i => maskByte (dbUrmsStatus.mainlineStat i).trailStat
    trailVol := fun i => maskByte (dbUrmsStatus.mainlineStat i).trailVol
    trailOcc := urmsDatafile.mainlineTrailOcc
    demandVol := fun i => maskByte (dbUrmsStatus.meteredLaneStat i).demandVol
    passageVol := fun i => maskByte (dbUrmsStatus.meteredLaneStat i).passageVol
    queueOcc := urmsDatafile.queueOcc
    queueVol := fun i => maskByte (dbUrmsStatus.queueStat i).vol
    rate := fun i => maskShort (urmsDatafile.meteringRate i) }

/-! Lane `j` of a getter is the source's function numbered `j + 1`. -/

def getOccMainLead (g : Globals) (lane : Fin numberLane) : ℚ := g.leadOcc lane
def getOccMainTrail (g : Globals) (lane : Fin numberLane) : ℚ := g.trailOcc lane
def getVolMainLead (g : Globals) (lane : Fin numberLane) : ℤ := g.leadVol lane
def getVolMainTrail (g : Globals) (lane : Fin numberLane) : ℤ := g.trailVol lane
def getStatusMainLead (g : Globals) (lane : Fin numberLane) : ℤ := g.leadStat lane
def getStatusMainTrail (g : Globals) (lane : Fin numberLane) : ℤ := g.trailStat lane
def getOccMeteredQueue (g : Globals) (lane : Fin numberLane) : ℚ := g.queueOcc lane
def getVolMeteredQueue (g : Globals) (lane : Fin numberLane) : ℤ := g.queueVol lane
def getVolMeteredPassage (g : Globals) (lane : Fin numberLane) : ℤ := g.passageVol lane
def getVolMeteredDemand (g : Globals) (lane : Fin numberLane) : ℤ := g.demandVol lane
def getRateMetered (g : Globals) (lane : Fin numberLane) : ℚ := g.rate lane

def getDataTime (g : Globals) : ℚ := g.hr * 3600 + g.min * 60 + g.sec

def bitOf (x : ℤ) (n : ℕ) : ℤ := (x >>> n).tmod 2

def phaseSignalStatus (g : Globals) (n : ℕ) : ℤ :=
  if bitOf g.greens n ≠ 0 then 1 else if bitOf g.yellows n ≠ 0 then 2 else 0

def getPhase5SignalStatus (g : Globals) : ℤ := phaseSignalStatus g 4
def getPhase6SignalStatus (g : Globals) : ℤ := phaseSignalStatus g 5
def getPhase7SignalStatus (g : Globals) : ℤ := phaseSignalStatus g 6
def getPhase3SignalStatus (g : Globals) : ℤ := phaseSignalStatus g 2

/-- Phase 8 has no yellow: the overlap byte carries one bit for both. -/
def getPhase8SignalStatus (g : Globals) : ℤ :=
  if bitOf g.greenYellowOverlap 1 ≠ 0 then 1 else 0

def getPhase5Approach1Status (g : Globals) : ℤ := bitOf g.presence3 0
def getPhase5Approach2Status (g : Globals) : ℤ := bitOf g.presence3 2
def getPhase5StopbarStatus (g : Globals) : ℤ := bitOf g.presence2 4
def getPhase8ApproachStatus (g : Globals) : ℤ := bitOf g.presence1 1
def getPhase8StopbarStatus (g : Globals) : ℤ := bitOf g.presence3 5

def sample (g : Globals) : Row :=
  ![getPhase5SignalStatus g, getPhase5Approach1Status g, getPhase5Approach2Status g,
    getPhase5StopbarStatus g, getPhase8SignalStatus g, getPhase8ApproachStatus g,
    getPhase8StopbarStatus g, getPhase6SignalStatus g, getPhase7SignalStatus g,
    getPhase3SignalStatus g]

theorem sample_setGlobals (g g' : Globals) (p : PhaseStatus) (st : LongStatus8)
    (u : DbUrmsStatus) (d : UrmsDatafile) :
    sample (setGlobals g p st u d) = sample (setGlobals g' p st u d) := rfl

end RampMetering
