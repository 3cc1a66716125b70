import RampMetering.Lib.Scanf
import RampMetering.Globals

/-! The log line and its replay. `file_spec` says how the records are printed, `get_new_data`
how a line is read back into the global variables; both lists are kept by hand, as is
`set_globals`, which decodes the same records live. They agree column by column; what
differs is the width `set_globals` gives the metering rates. -/

namespace RampMetering
open Text

/-- The conversions of `file_spec`. It prints a `char` as the byte it is and a rate as
16 bits; a column of its own carries the time stamp. -/
def hhu (x : Byte) : Printed := .unsigned 10 1 x.toNat
def hhu3 (x : Byte) : Printed := .unsigned 10 3 x.toNat
def hhx (x : Byte) : Printed := .unsigned 16 1 x.toNat
def hu (x : Short) : Printed := .unsigned 10 1 x.toNat

def timestampColumn (ts : Timestamp) : List Char :=
  printUnsigned 10 2 ts.hour ++ ':' :: (printUnsigned 10 2 ts.min ++ ':' ::
    (printUnsigned 10 2 ts.sec ++ '.' :: (printUnsigned 10 3 ts.millisec ++ [' '])))

def fileSpec (r : Records) : List Printed :=
  let status := r.status
  let phaseStatus := r.phaseStatus
  let dbUrmsStatus := r.dbUrmsStatus
  let urmsDatafile := r.urmsDatafile
  [hhu3 status.masterClock,
    hhu3 status.seqNumber,
    hhx status.status,
    hhx status.pattern,
    hhx status.activePhase,
    hhx status.phaseCall,
    hhx status.pedCall,
    hhx status.interval,
    hhx status.greenYellowOverlap,
    hhx status.presence1,
    hhx status.presence2,
    hhx status.presence3,
    hhx status.presence4,
    hhx phaseStatus.greens,
    hhx phaseStatus.yellows,
    hhx phaseStatus.reds,
    hhu (dbUrmsStatus.mainlineStat 0).leadStat,
    hhu (dbUrmsStatus.mainlineStat 0).leadVol,
    .fixed 3 (urmsDatafile.mainlineLeadOcc 0),
    hhu (dbUrmsStatus.mainlineStat 0).trailStat,
    hhu (dbUrmsStatus.mainlineStat 0).trailVol,
    .fixed 3 (urmsDatafile.mainlineTrailOcc 0),
    hhu (dbUrmsStatus.mainlineStat 1).leadStat,
    hhu (dbUrmsStatus.mainlineStat 1).leadVol,
    .fixed 3 (urmsDatafile.mainlineLeadOcc 1),
    hhu (dbUrmsStatus.mainlineStat 1).trailStat,
    hhu (dbUrmsStatus.mainlineStat 1).trailVol,
    .fixed 3 (urmsDatafile.mainlineTrailOcc 1),
    hhu (dbUrmsStatus.mainlineStat 2).leadStat,
    hhu (dbUrmsStatus.mainlineStat 2).leadVol,
    hhu (dbUrmsStatus.mainlineStat 2).trailStat,
    .fixed 3 (urmsDatafile.mainlineLeadOcc 2),
    hhu (dbUrmsStatus.mainlineStat 2).trailVol,
    .fixed 3 (urmsDatafile.mainlineTrailOcc 2),
    hhu (dbUrmsStatus.meteredLaneStat 0).demandVol,
    hhu (dbUrmsStatus.meteredLaneStat 0).passageVol,
    .fixed 3 (urmsDatafile.queueOcc 0),
    hhu (dbUrmsStatus.queueStat 0).vol,
    hu (urmsDatafile.meteringRate 0),
    hhu (dbUrmsStatus.cmdSrc 0),
    hhu (dbUrmsStatus.action 0),
    hhu (dbUrmsStatus.plan 0),
    hhu (dbUrmsStatus.meteredLaneStat 1).demandVol,
    hhu (dbUrmsStatus.meteredLaneStat 1).passageVol,
    .fixed 3 (urmsDatafile.queueOcc 1),
    hhu (dbUrmsStatus.queueStat 1).vol,
    hu (urmsDatafile.meteringRate 1),
    hhu (dbUrmsStatus.cmdSrc 1),
    hhu (dbUrmsStatus.action 1),
    hhu (dbUrmsStatus.plan 1),
    hhu (dbUrmsStatus.meteredLaneStat 2).demandVol,
    hhu (dbUrmsStatus.meteredLaneStat 2).passageVol,
    .fixed 3 (urmsDatafile.queueOcc 2),
    hhu (dbUrmsStatus.queueStat 2).vol,
    hu (urmsDatafile.meteringRate 2),
    hhu (dbUrmsStatus.cmdSrc 2),
    hhu (dbUrmsStatus.action 2),
    hhu (dbUrmsStatus.plan 2)]

def logLine (ts : Timestamp) (r : Records) : List Char := timestampColumn ts ++ line (fileSpec r)

def toHhu : Directive := .unsigned 10 8
def toHhx : Directive := .unsigned 16 8
def toHu : Directive := .unsigned 10 16

def getNewDataFormat : List Directive :=
  [.float, .char, .float, .char, .float, toHhu, toHhu, toHhx, toHhx, toHhx, toHhx, toHhx, toHhx,
    toHhx, toHhx, toHhx, toHhx, toHhx, toHhx, toHhx, toHhx,
    .space, toHhu, toHhu, .float, toHhu, toHhu, .float,
    .space, toHhu, toHhu, .float, toHhu, toHhu, .float,
    .space, toHhu, toHhu, toHhu, .float, toHhu, .float,
    .space, toHhu, toHhu, .float, toHhu, toHu, toHhu, toHhu, toHhu,
    .space, toHhu, toHhu, .float, toHhu, toHu, toHhu, toHhu, toHhu,
    .space, toHhu, toHhu, .float, toHhu, toHu, toHhu, toHhu, toHhu]

def laneInt (get : Globals → Lanes ℤ) (set : Globals → Lanes ℤ → Globals)
    (lane : Fin numberLane) : Target Globals :=
  .int (fun g => get g lane) fun g v => set g (Function.update (get g) lane v)

def laneFloat (get : Globals → Lanes ℚ) (set : Globals → Lanes ℚ → Globals)
    (lane : Fin numberLane) : Target Globals :=
  .float fun g v => set g (Function.update (get g) lane v)

def toLeadStat := laneInt Globals.leadStat fun g x => { g with leadStat := x }
def toLeadVol := laneInt Globals.leadVol fun g x => { g with leadVol := x }
def toLeadOcc := laneFloat Globals.leadOcc fun g x => { g with leadOcc := x }
def toTrailStat := laneInt Globals.trailStat fun g x => { g with trailStat := x }
def toTrailVol := laneInt Globals.trailVol fun g x => { g with trailVol := x }
def toTrailOcc := laneFloat Globals.trailOcc fun g x => { g with trailOcc := x }
def toDemandVol := laneInt Globals.demandVol fun g x => { g with demandVol := x }
def toPassageVol := laneInt Globals.passageVol fun g x => { g with passageVol := x }
def toQueueOcc := laneFloat Globals.queueOcc fun g x => { g with queueOcc := x }
def toQueueVol := laneInt Globals.queueVol fun g x => { g with queueVol := x }
def toRate := laneInt Globals.rate fun g x => { g with rate := x }

def toRedundantA (i : Fin 8) : Target Globals :=
  .int (fun g => g.redundantA i) fun g v =>
    { g with redundantA := Function.update g.redundantA i v }

def toRedundantB (i : Fin 3) (lane : Fin numberLane) : Target Globals :=
  .int (fun g => g.redundantB lane i) fun g v =>
    { g with redundantB :=
        Function.update g.redundantB lane (Function.update (g.redundantB lane) i v) }

def getNewDataArguments : List (Target Globals) :=
  [.float fun g v => { g with hr := v },
    .char fun g v => { g with c1 := v },
    .float fun g v => { g with min := v },
    .char fun g v => { g with c2 := v },
    .float fun g v => { g with sec := v },
    toRedundantA 0, toRedundantA 1, toRedundantA 2, toRedundantA 3,
    toRedundantA 4, toRedundantA 5, toRedundantA 6, toRedundantA 7,
    .int Globals.greenYellowOverlap fun g v => { g with greenYellowOverlap := v },
    .int Globals.presence1 fun g v => { g with presence1 := v },
    .int Globals.presence2 fun g v => { g with presence2 := v },
    .int Globals.presence3 fun g v => { g with presence3 := v },
    .int Globals.presence4 fun g v => { g with presence4 := v },
    .int Globals.greens fun g v => { g with greens := v },
    .int Globals.yellows fun g v => { g with yellows := v },
    .int Globals.reds fun g v => { g with reds := v },
    toLeadStat 0, toLeadVol 0, toLeadOcc 0, toTrailStat 0, toTrailVol 0, toTrailOcc 0,
    toLeadStat 1, toLeadVol 1, toLeadOcc 1, toTrailStat 1, toTrailVol 1, toTrailOcc 1,
    toLeadStat 2, toLeadVol 2, toTrailStat 2, toLeadOcc 2, toTrailVol 2, toTrailOcc 2,
    toDemandVol 0, toPassageVol 0, toQueueOcc 0, toQueueVol 0, toRate 0,
    toRedundantB 0 0, toRedundantB 1 0, toRedundantB 2 0,
    toDemandVol 1, toPassageVol 1, toQueueOcc 1, toQueueVol 1, toRate 1,
    toRedundantB 0 1, toRedundantB 1 1, toRedundantB 2 1,
    toDemandVol 2, toPassageVol 2, toQueueOcc 2, toQueueVol 2, toRate 2,
    toRedundantB 0 2, toRedundantB 1 2, toRedundantB 2 2]

/-- The globals after the call; what follows the `sscanf` changes nothing. -/
def getNewData (long : LongWidth) (str : List Char) (g : Globals) : Globals :=
  storeAll getNewDataArguments (sscanf long getNewDataFormat str) g

def columnDirectives : List Directive := (getNewDataFormat.drop 5).filter Directive.converts

theorem fileSpec_fits (r : Records) : fitAll (fileSpec r) columnDirectives = true := rfl

def timestampValues (ts : Timestamp) : List Value :=
  [.float ts.hour, .char ':', .float ts.min, .char ':',
    .float (((ts.sec * 10 ^ (digitsOf 10 3 ts.millisec).length + ts.millisec : ℕ) : ℚ) /
      10 ^ (digitsOf 10 3 ts.millisec).length)]

theorem sscanf_logLine (long : LongWidth) (ts : Timestamp) (r : Records) (rest : List Char) :
    sscanf long getNewDataFormat (logLine ts r ++ rest) =
      timestampValues ts ++ List.zipWith (Printed.readAs long) (fileSpec r) columnDirectives := by
  have lead : spacesLead getNewDataFormat = true := rfl
  have format : getNewDataFormat.filter Directive.converts =
      .float :: .char :: .float :: .char :: .float :: columnDirectives := rfl
  rw [← sscanf_filter_converts long lead, format]
  simp only [logLine, timestampColumn, List.append_assoc, List.cons_append, List.nil_append]
  rw [sscanf_float_char long two_pos _ (delimited_cons (.inr rfl) _),
    sscanf_float_char long two_pos _ (delimited_cons (.inr rfl) _),
    sscanf_float_point long two_pos _ _ _ _ (delimited_space _),
    sscanf_line long (fileSpec_fits r)]
  rfl

def replayed (long : LongWidth) (ts : Timestamp) (r : Records) (rest : List Char) : Globals :=
  getNewData long (logLine ts r ++ rest) {}

def live (g : Globals) (r : Records) : Globals :=
  setGlobals g r.phaseStatus r.status r.dbUrmsStatus r.urmsDatafile

theorem replayed_eq (long : LongWidth) (ts : Timestamp) (r : Records) (rest : List Char) :
    replayed long ts r rest = storeAll getNewDataArguments
      (timestampValues ts ++ List.zipWith (Printed.readAs long) (fileSpec r) columnDirectives)
      {} := by
  rw [replayed, getNewData, sscanf_logLine]

/-- The globals that matter, equal but for the printed places of the occupancies. -/
structure Agrees (g g' : Globals) : Prop where
  greenYellowOverlap : g.greenYellowOverlap = g'.greenYellowOverlap
  presence1 : g.presence1 = g'.presence1
  presence2 : g.presence2 = g'.presence2
  presence3 : g.presence3 = g'.presence3
  presence4 : g.presence4 = g'.presence4
  greens : g.greens = g'.greens
  yellows : g.yellows = g'.yellows
  reds : g.reds = g'.reds
  leadStat : ∀ lane, g.leadStat lane = g'.leadStat lane
  leadVol : ∀ lane, g.leadVol lane = g'.leadVol lane
  trailStat : ∀ lane, g.trailStat lane = g'.trailStat lane
  trailVol : ∀ lane, g.trailVol lane = g'.trailVol lane
  demandVol : ∀ lane, g.demandVol lane = g'.demandVol lane
  passageVol : ∀ lane, g.passageVol lane = g'.passageVol lane
  queueVol : ∀ lane, g.queueVol lane = g'.queueVol lane
  rate : ∀ lane, g.rate lane = g'.rate lane
  leadOcc : ∀ lane, |g.leadOcc lane - g'.leadOcc lane| ≤ 1 / 2000
  trailOcc : ∀ lane, |g.trailOcc lane - g'.trailOcc lane| ≤ 1 / 2000
  queueOcc : ∀ lane, |g.queueOcc lane - g'.queueOcc lane| ≤ 1 / 2000

theorem forall_lane {P : Fin numberLane → Prop} (zero : P 0) (one : P 1) (two : P 2) :
    ∀ lane, P lane
  | 0 => zero
  | 1 => one
  | 2 => two

theorem convert_byte (long : LongWidth) (x : Byte) : long.convert false x.toNat = x.toNat :=
  long.convert_of_lt (x.isLt.trans (by decide))

theorem lowBits_byte (long : LongWidth) (x : Byte) :
    lowBits 8 0 (long.convert false x.toNat) = maskByte x := by
  rw [convert_byte, maskByte_eq, lowBits_zero x.isLt]

theorem lowBits_short (long : LongWidth) (x : Short) :
    lowBits 16 0 (long.convert false x.toNat) = x.toNat := by
  rw [long.convert_of_lt (x.isLt.trans (by decide)), lowBits_zero x.isLt]

theorem maskShort_eq_iff (x : Short) :
    (x.toNat : ℤ) = maskShort x ↔ 0 ≤ x.toInt ∧ x.toInt ≤ 255 := by
  have lt := x.isLt
  rw [maskShort_eq, BitVec.toInt_eq_toNat_cond]
  split <;> omega

theorem abs_rounded_three_le (q : ℚ) : |rounded 3 q - q| ≤ 1 / 2000 := by
  have near := abs_rounded_sub_le 3 q
  norm_num at near
  exact near

section replay

variable (long : LongWidth) (ts : Timestamp) (r : Records) (rest : List Char) (g : Globals)

theorem replayed_rate (lane : Fin numberLane) :
    (replayed long ts r rest).rate lane = (r.urmsDatafile.meteringRate lane).toNat := by
  rw [← lowBits_short long, replayed_eq]
  revert lane
  exact forall_lane rfl rfl rfl

theorem replayed_agrees_of_rate
    (rate : ∀ lane, (replayed long ts r rest).rate lane = (live g r).rate lane) :
    Agrees (replayed long ts r rest) (live g r) := by
  rw [replayed_eq] at rate ⊢
  exact
    { greenYellowOverlap := lowBits_byte long _
      presence1 := lowBits_byte long _
      presence2 := lowBits_byte long _
      presence3 := lowBits_byte long _
      presence4 := lowBits_byte long _
      greens := lowBits_byte long _
      yellows := lowBits_byte long _
      reds := lowBits_byte long _
      leadStat := forall_lane (lowBits_byte long _) (lowBits_byte long _) (lowBits_byte long _)
      leadVol := forall_lane (lowBits_byte long _) (lowBits_byte long _) (lowBits_byte long _)
      trailStat := forall_lane (lowBits_byte long _) (lowBits_byte long _) (lowBits_byte long _)
      trailVol := forall_lane (lowBits_byte long _) (lowBits_byte long _) (lowBits_byte long _)
      demandVol := forall_lane (lowBits_byte long _) (lowBits_byte long _) (lowBits_byte long _)
      passageVol := forall_lane (lowBits_byte long _) (lowBits_byte long _) (lowBits_byte long _)
      queueVol := forall_lane (lowBits_byte long _) (lowBits_byte long _) (lowBits_byte long _)
      rate
      leadOcc := forall_lane (abs_rounded_three_le _) (abs_rounded_three_le _)
        (abs_rounded_three_le _)
      trailOcc := forall_lane (abs_rounded_three_le _) (abs_rounded_three_le _)
        (abs_rounded_three_le _)
      queueOcc := forall_lane (abs_rounded_three_le _) (abs_rounded_three_le _)
        (abs_rounded_three_le _) }

/-- A replayed line leaves what the live decoder leaves, the occupancies to their printed
places, exactly when every metering rate fits the byte `set_globals` masks it to. -/
theorem replay_agrees_iff :
    Agrees (replayed long ts r rest) (live g r) ↔
      ∀ lane, 0 ≤ (r.urmsDatafile.meteringRate lane).toInt ∧
        (r.urmsDatafile.meteringRate lane).toInt ≤ 255 := by
  constructor
  · intro agrees lane
    have rate := agrees.rate lane
    rw [replayed_rate] at rate
    exact (maskShort_eq_iff _).mp rate
  · intro fits
    refine replayed_agrees_of_rate long ts r rest g fun lane => ?_
    rw [replayed_rate]
    exact (maskShort_eq_iff _).mpr (fits lane)

end replay

def allAt900 : Records := { zeroRecords with urmsDatafile.meteringRate := fun _ => 900 }

def long64 : LongWidth := ⟨64, by decide⟩

/-- The replay reads the 900 the line carries; the live decoder makes 132 of it. -/
theorem replayed_900_live_132 :
    (replayed long64 ⟨8, 30, 0, 0⟩ allAt900 []).rate 1 = 900 ∧
      (live {} allAt900).rate 1 = 132 ∧
      ¬Agrees (replayed long64 ⟨8, 30, 0, 0⟩ allAt900 []) (live {} allAt900) := by
  have read : (replayed long64 ⟨8, 30, 0, 0⟩ allAt900 []).rate 1 = 900 := by
    rw [replayed_rate]
    rfl
  have masked : (live {} allAt900).rate 1 = 132 := rfl
  refine ⟨read, masked, fun agrees => ?_⟩
  have same := agrees.rate 1
  rw [read, masked] at same
  exact absurd same (by decide)

end RampMetering
