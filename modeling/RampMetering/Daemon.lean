import RampMetering.Lib.Run
import RampMetering.MaxGreen
import RampMetering.ReadData

/-! The daemon of `ac_rm_algo.c`: `test()` and one pass of the main loop.
A tick reads its four records, the clock and the weekday from outside; beside the next
state it answers what it published, sent and commanded. Printing is left out. -/

namespace RampMetering

/-- What the build leaves open: the action codes of `urms.h`, which is not part of the
repository (the code writes its own 2 for rest in green), and what a store outside
`realtime_data`, to which C gives no meaning, leaves in `signal_data`. -/
structure Platform where
  urmsActionSkip : ℤ
  urmsActionRestInGreen : ℤ
  urmsActionFixedRate : ℤ
  fixedRate_ne : urmsActionFixedRate ≠ 2
  overrun : SignalVariables → Row → SignalVariables

/-- On this platform a store outside the array destroys the row index for good. -/
def straying : Platform where
  urmsActionSkip := 5
  urmsActionRestInGreen := 2
  urmsActionFixedRate := 3
  fixedRate_ne := by decide
  overrun := fun s _ => { s with dataRow := -5 }

/-- The readings of the clock a tick may make, in seconds: two in `get_ALINEA_rate`, one in
`get_intersection_measurement`, two about the queue reset. -/
structure Clock where
  alineaFirst : ℚ
  alineaSecond : ℚ
  barrier : ℚ
  queueReset : ℚ
  queueResetStamp : ℚ

/-- What one tick reads. `tmWday` is the weekday of the local time, and `setMaxGreenFails`
says that `db_set_phase3_max_green1` would return nonzero. -/
structure Input where
  records : Records
  clock : Clock
  tmWday : ℕ
  setMaxGreenFails : Bool

def quietInput : Input where
  records := zeroRecords
  clock := ⟨0, 0, 0, 0, 0⟩
  tmWday := 0
  setMaxGreenFails := false

structure DbUrms where
  lane1Action : ℤ := 0
  lane1ReleaseRate : ℤ := 0
  lane1Plan : Byte := 0
  lane2Action : ℤ := 0
  lane2ReleaseRate : ℚ := 0
  lane2Plan : Byte := 0
  lane3Action : ℤ := 0
  lane3ReleaseRate : ℚ := 0
  lane3Plan : Byte := 0

structure DbRampData where
  mainlineLeadOcc : Lanes ℚ
  mainlineTrailOcc : Lanes ℚ
  queueOcc : Lanes ℚ
  meterRate : Lanes ℚ
  dataTime : ℚ
  prevUpdateData : ℚ
  prevOccOut : ℚ
  newMeterRate : ℚ
  mainlineAvgOccupancy : Lanes ℚ
  mainlineAvgVolume : Lanes ℤ
  mainlineLeadStatus : Lanes ℤ
  mainlineTrailStatus : Lanes ℤ
  mainlineLeadVol : Lanes ℤ
  mainlineTrailVol : Lanes ℤ
  passageVol : Lanes ℤ
  demandVol : Lanes ℤ
  queueVol : Lanes ℤ

structure DbSignalData where
  ltOcc : ℚ
  oldLtOcc : ℚ
  rtOcc : ℚ
  rampQueue : ℚ
  oldRampQueue : ℚ
  rtExceedNum : ℤ
  newMaxGreen : ℤ
  oldMaxGreen : ℤ
  lastSentMaxGreen : ℤ
  dataRow : ℤ
  regularRemainCycle : ℤ
  overwriteRemainCycle : ℤ
  cyclePassed : ℤ
  prevCycleTerminateTime : ℚ
  currentCycleTerminateTime : ℚ
  prevQueueResetTime : ℚ
  regularRelease : Bool
  overwriteRelease : Bool
  realtimeData : Fin maxcol → Option ℤ

def castU8 (x : ℤ) : ℤ := x % 256
def castU16 (x : ℤ) : ℤ := x % 65536

def publishRamp (r : RampVariables) : DbRampData where
  mainlineLeadOcc := r.mainlineLeadOcc newest
  mainlineTrailOcc := r.mainlineTrailOcc newest
  queueOcc := r.queueOcc newest
  meterRate := r.meterRate newest
  dataTime := r.dataTime newest
  prevUpdateData := r.prevUpdateData
  prevOccOut := r.prevOccOut
  newMeterRate := r.newMeterRate
  mainlineAvgOccupancy := r.mainlineAvgOccupancy
  mainlineAvgVolume := fun lane => castU16 (r.mainlineAvgVolume lane)
  mainlineLeadStatus := fun lane => castU8 (r.mainlineLeadStatus newest lane)
  mainlineTrailStatus := fun lane => castU8 (r.mainlineTrailStatus newest lane)
  mainlineLeadVol := fun lane => castU8 (r.mainlineLeadVol newest lane)
  mainlineTrailVol := fun lane => castU8 (r.mainlineTrailVol newest lane)
  passageVol := fun lane => castU8 (r.passageVol newest lane)
  demandVol := fun lane => castU8 (r.demandVol newest lane)
  queueVol := fun lane => castU8 (r.queueVol newest lane)

def readCell (s : SignalVariables) (row : ℤ) (col : Fin maxcol) : Option ℤ :=
  if 0 ≤ row ∧ row < maxrow then some (s.realtimeData row.toNat col) else none

def publishSignal (s : SignalVariables) : DbSignalData where
  ltOcc := s.ltOcc
  oldLtOcc := s.oldLtOcc
  rtOcc := s.rtOcc
  rampQueue := s.rampQueue
  oldRampQueue := s.oldRampQueue
  rtExceedNum := s.rtExceedNum
  newMaxGreen := s.newMaxGreen
  oldMaxGreen := s.oldMaxGreen
  lastSentMaxGreen := s.lastSentMaxGreen
  dataRow := s.dataRow
  regularRemainCycle := s.regularRemainCycle
  overwriteRemainCycle := s.overwriteRemainCycle
  cyclePassed := s.cyclePassed
  prevCycleTerminateTime := s.prevCycleTerminateTime
  currentCycleTerminateTime := s.currentCycleTerminateTime
  prevQueueResetTime := s.prevQueueResetTime
  regularRelease := s.regularRelease
  overwriteRelease := s.overwriteRelease
  realtimeData := readCell s s.dataRow

/-- The ramp part of `test()`, and whether it called `get_ALINEA_rate`. -/
def testRamp (g : Globals) (clock : Clock) (rampFlag : Bool) (r : RampVariables) :
    RampVariables × Bool :=
  let read := readRampData g r
  if read.2 && rampFlag then
    let rate := getALINEARate read.1 clock.alineaFirst clock.alineaSecond
    ({ rate.1 with newMeterRate := rate.2 }, true)
  else (read.1, false)

def keptRows (s : SignalVariables) : List Row := (rows 0 s.dataRow).map s.realtimeData

/-- The barrier part of `test()`, and the rows `get_intersection_measurement` received. -/
def atBarrier (t : Tuning) (clock : Clock) (r : RampVariables) (s : SignalVariables) :
    SignalVariables × List Row :=
  let received := keptRows s
  let (s, healthy) := getIntersectionMeasurement t.rounding s clock.barrier
  let s :=
    if healthy then
      let s := getNewMaxGreenPhase3 t s r
      if s.newMaxGreen ≠ s.lastSentMaxGreen then { s with lastSentMaxGreen := s.newMaxGreen }
      else s
    else s
  -- whatever the health check said, the next cycle starts at row 0
  ({ s with dataRow := -1 }, received)

def resetRampQueue (s : SignalVariables) : SignalVariables := { s with rampQueue := 0 }

def resetQueueWhenDue (t : Tuning) (clock : Clock) (s : SignalVariables) : SignalVariables :=
  if queueReset ∧ clock.queueReset - s.prevQueueResetTime ≥ queueResetInterval ∧
      t.methodForRampQueue = 1 then
    { resetRampQueue s with prevQueueResetTime := clock.queueResetStamp }
  else s

def testSignal (t : Tuning) (clock : Clock) (signalFlag : Bool) (r : RampVariables)
    (s : SignalVariables) : SignalVariables × Option (List Row) :=
  if signalFlag then
    let barrier := atBarrier t clock r s
    (resetQueueWhenDue t clock barrier.1, some barrier.2)
  else (resetQueueWhenDue t clock s, none)

structure Daemon where
  globals : Globals
  signal : SignalVariables
  ramp : RampVariables
  signalFlagSav : Bool
  rampFlagSav : Bool
  myflag : Bool
  dbUrms : DbUrms

def start (maxGreen1 : ℤ) (dbUrmsStatus : DbUrmsStatus) : Daemon where
  globals := {}
  signal := startSignal maxGreen1
  ramp := initRampData staticRamp
  signalFlagSav := false
  rampFlagSav := false
  myflag := if dbUrmsStatus.planBaseLvl 0 = 0 then false else true
  dbUrms := {}

def detectEdge (level : Byte) (sav : Bool) : Bool × Bool :=
  if level ≠ 0 ∧ sav = false then (true, true)
  else if level ≠ 0 ∧ sav = true then (false, sav)
  else (false, false)

def inControlWindow (i : Input) : Bool :=
  decide (i.tmWday % 6 ≠ 0 ∧ 15 ≤ i.records.dbUrmsStatus.hour.toNat ∧
    i.records.dbUrmsStatus.hour.toNat < 19)

def lane1Rate (u : DbUrmsStatus) : ℤ :=
  (u.meteredLaneStat 0).meteredLaneRateMsb * 256 + (u.meteredLaneStat 0).meteredLaneRateLsb.toNat

def restInGreenCommand (p : Platform) (u : DbUrmsStatus) (newMeterRate : ℚ)
    (dbUrms : DbUrms) : DbUrms :=
  let dbUrms :=
    { dbUrms with
      lane1Action := p.urmsActionSkip
      lane1ReleaseRate := lane1Rate u
      lane1Plan := u.plan 0
      lane2ReleaseRate := newMeterRate
      lane3ReleaseRate := newMeterRate
      lane2Action := p.urmsActionRestInGreen
      lane3Action := p.urmsActionRestInGreen }
  -- the source assigns both actions a second time, as the number 2
  { dbUrms with lane2Action := 2, lane3Action := 2, lane2Plan := u.plan 1, lane3Plan := u.plan 2 }

def fixedRateCommand (p : Platform) (u : DbUrmsStatus) (d : UrmsDatafile) (newMeterRate : ℚ)
    (dbUrms : DbUrms) : DbUrms :=
  let rate : ℚ :=
    if ((d.meteringRate 0).toInt : ℚ) < newMeterRate then (d.meteringRate 0).toInt
    else newMeterRate
  { dbUrms with
    lane1Action := p.urmsActionSkip
    lane1ReleaseRate := lane1Rate u
    lane1Plan := u.plan 0
    lane2Plan := 2
    lane3Plan := 1
    lane2ReleaseRate := rate
    lane3ReleaseRate := rate
    lane2Action := p.urmsActionFixedRate
    lane3Action := p.urmsActionFixedRate }

def controlMeter (p : Platform) (i : Input) (rampFlag : Bool) (newMeterRate : ℚ)
    (myflag : Bool) (dbUrms : DbUrms) : Bool × DbUrms × Option DbUrms :=
  let u := i.records.dbUrmsStatus
  if inControlWindow i then
    if u.planBaseLvl 0 = 0 ∧ myflag = false then
      let command := restInGreenCommand p u newMeterRate dbUrms
      (true, command, some command)
    else if (u.planBaseLvl 0 = 1 ∨ u.planBaseLvl 0 = 0) ∧ myflag = true then
      -- lanes 2 and 3 rest in green already, and nothing is written
      (myflag, dbUrms, none)
    else if rampFlag then
      let command := fixedRateCommand p u i.records.urmsDatafile newMeterRate dbUrms
      (false, command, some command)
    else (myflag, dbUrms, none)
  else (myflag, dbUrms, none)

/-- What a tick shows to the outside, and what it passed between its parts: the index
`read_real_time_data` stored at and the ten values stored, the rows the measurement was
entered with, whether a rate was computed. -/
structure Output where
  writtenRow : ℤ
  sampled : Row
  measured : Option (List Row)
  rateComputed : Bool
  dbRampData : DbRampData
  dbSignalData : DbSignalData
  publishedRow : ℤ
  sentMaxGreen : Option ℤ
  command : Option DbUrms

/-- One pass of the main loop. When the new maximum green cannot be set, `main` returns
before the timed part. -/
def tick (p : Platform) (t : Tuning) (σ : Daemon) (i : Input) : Daemon × Output :=
  let records := i.records
  let globals :=
    setGlobals σ.globals records.phaseStatus records.status records.dbUrmsStatus
      records.urmsDatafile
  let signalFlag := detectEdge records.phaseStatus.barrierFlag σ.signalFlagSav
  let rampFlag := detectEdge records.dbUrmsStatus.computationFinished σ.rampFlagSav
  let ramp := testRamp globals i.clock rampFlag.1 σ.ramp
  let sampledSignal := readRealTimeData p.overrun globals σ.signal
  let signal := testSignal t i.clock signalFlag.1 ramp.1 sampledSignal
  let control :=
    if signalFlag.1 && i.setMaxGreenFails then (σ.myflag, σ.dbUrms, none)
    else controlMeter p i rampFlag.1 ramp.1.newMeterRate σ.myflag σ.dbUrms
  ({ globals
     signal := signal.1
     ramp := ramp.1
     signalFlagSav := signalFlag.2
     rampFlagSav := rampFlag.2
     myflag := control.1
     dbUrms := control.2.1 },
   { writtenRow := σ.signal.dataRow + 1
     sampled := sample globals
     measured := signal.2
     rateComputed := ramp.2
     dbRampData := publishRamp ramp.1
     dbSignalData := publishSignal signal.1
     publishedRow := signal.1.dataRow
     sentMaxGreen := if signalFlag.1 then some signal.1.newMaxGreen else none
     command := control.2.2 })

def next (p : Platform) (t : Tuning) (σ : Daemon) (i : Input) : Daemon := (tick p t σ i).1

def output (p : Platform) (t : Tuning) (σ : Daemon) (i : Input) : Output := (tick p t σ i).2

def exits (σ : Daemon) (i : Input) : Bool :=
  (detectEdge i.records.phaseStatus.barrierFlag σ.signalFlagSav).1 && i.setMaxGreenFails

def daemonAt (p : Platform) (t : Tuning) (σ : Daemon) (ins : ℕ → Input) (k : ℕ) : Daemon :=
  Run.run (next p t) σ ins k

def outputAt (p : Platform) (t : Tuning) (σ : Daemon) (ins : ℕ → Input) (k : ℕ) :
    Option Output :=
  Run.answer (next p t) exits (output p t) σ ins k

end RampMetering
