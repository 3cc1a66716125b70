import RampMetering.Lib.Register
import RampMetering.Lib.Run
import RampMetering.ReadData

/-! The ramp history row by row. The twelve arrays of `ramp_variables` are one shift register
of rows; `read_ramp_data` pushes the row of an accepted sample, and pushes the newest row a
second time when it rejects one, because it shifts before it looks. -/

namespace RampMetering
open Register

@[ext] structure RampRow where
  mainlineLeadStatus : Lanes ℤ
  mainlineTrailStatus : Lanes ℤ
  mainlineLeadVol : Lanes ℤ
  mainlineTrailVol : Lanes ℤ
  mainlineLeadOcc : Lanes ℚ
  mainlineTrailOcc : Lanes ℚ
  passageVol : Lanes ℤ
  demandVol : Lanes ℤ
  queueVol : Lanes ℤ
  queueOcc : Lanes ℚ
  meterRate : Lanes ℚ
  dataTime : ℚ

def zeroRow : RampRow :=
  ⟨fun _ => 0, fun _ => 0, fun _ => 0, fun _ => 0, fun _ => 0, fun _ => 0, fun _ => 0,
    fun _ => 0, fun _ => 0, fun _ => 0, fun _ => 0, 0⟩

def rampRows (r : RampVariables) : History RampRow := fun i =>
  { mainlineLeadStatus := r.mainlineLeadStatus i
    mainlineTrailStatus := r.mainlineTrailStatus i
    mainlineLeadVol := r.mainlineLeadVol i
    mainlineTrailVol := r.mainlineTrailVol i
    mainlineLeadOcc := r.mainlineLeadOcc i
    mainlineTrailOcc := r.mainlineTrailOcc i
    passageVol := r.passageVol i
    demandVol := r.demandVol i
    queueVol := r.queueVol i
    queueOcc := r.queueOcc i
    meterRate := r.meterRate i
    dataTime := r.dataTime i }

def withRows (r : RampVariables) (x : History RampRow) : RampVariables :=
  { r with
    mainlineLeadStatus := fun i => (x i).mainlineLeadStatus
    mainlineTrailStatus := fun i => (x i).mainlineTrailStatus
    mainlineLeadVol := fun i => (x i).mainlineLeadVol
    mainlineTrailVol := fun i => (x i).mainlineTrailVol
    mainlineLeadOcc := fun i => (x i).mainlineLeadOcc
    mainlineTrailOcc := fun i => (x i).mainlineTrailOcc
    passageVol := fun i => (x i).passageVol
    demandVol := fun i => (x i).demandVol
    queueVol := fun i => (x i).queueVol
    queueOcc := fun i => (x i).queueOcc
    meterRate := fun i => (x i).meterRate
    dataTime := fun i => (x i).dataTime }

@[simp] theorem rampRows_withRows (r : RampVariables) (x : History RampRow) :
    rampRows (withRows r x) = x := rfl

@[simp] theorem withRows_rampRows (r : RampVariables) : withRows r (rampRows r) = r := rfl

def sampleRow (g : Globals) : RampRow where
  mainlineLeadStatus := getStatusMainLead g
  mainlineTrailStatus := getStatusMainTrail g
  mainlineLeadVol := getVolMainLead g
  mainlineTrailVol := getVolMainTrail g
  mainlineLeadOcc := getOccMainLead g
  mainlineTrailOcc := getOccMainTrail g
  passageVol := getVolMeteredPassage g
  demandVol := getVolMeteredDemand g
  queueVol := getVolMeteredQueue g
  queueOcc := getOccMeteredQueue g
  meterRate := getRateMetered g
  dataTime := getDataTime g

theorem store_forward {α : Type} (x : History α) (v : α) : store (forward x) v = push x v := by
  funext i
  refine Fin.lastCases ?_ (fun i => ?_) i
  · rw [push_last]
    exact store_newest _ _
  · rw [push_castSucc]
    have older : i.castSucc ≠ newest := (Fin.castSucc_lt_last i).ne
    exact (Function.update_of_ne older v (forward x)).trans (dif_pos i.isLt)

theorem forward_eq_push {α : Type} (x : History α) : forward x = push x (x newest) := by
  have same : store (forward x) (x newest) = forward x := Function.update_eq_self newest _
  rw [← store_forward, same]

theorem moveRampDataForward_eq (r : RampVariables) :
    moveRampDataForward r = withRows r (push (rampRows r) (rampRows r newest)) := by
  have shift : ∀ {α : Type} (f : RampRow → α),
      forward (fun i => f (rampRows r i)) =
        fun i => f (push (rampRows r) (rampRows r newest) i) := fun f => by
    rw [forward_eq_push, ← push_comp f]
  simp only [moveRampDataForward, withRows, ← shift]
  rfl

theorem getNewRampData_eq (g : Globals) (r : RampVariables) :
    getNewRampData g (moveRampDataForward r) =
      withRows r (push (rampRows r) (sampleRow g)) := by
  have shift : ∀ {α : Type} (f : RampRow → α),
      store (forward (fun i => f (rampRows r i))) (f (sampleRow g)) =
        fun i => f (push (rampRows r) (sampleRow g) i) := fun f => by
    rw [store_forward, ← push_comp f]
  simp only [getNewRampData, moveRampDataForward, withRows, ← shift]
  rfl

theorem anyNegative_eq_false {α : Type} [LinearOrder α] [Zero α] {x : Lanes α}
    (nonneg : ∀ lane, 0 ≤ x lane) : anyNegative x = false := by
  simp [anyNegative, nonneg]

theorem nonneg_of_anyNegative {α : Type} [LinearOrder α] [Zero α] {x : Lanes α}
    (accepted : anyNegative x = false) : ∀ lane, 0 ≤ x lane := by
  simp only [anyNegative, decide_eq_false_iff_not, not_or, not_lt] at accepted
  obtain ⟨hov, middle, right⟩ := accepted
  intro lane
  match lane with
  | 0 => exact hov
  | 1 => exact middle
  | 2 => exact right

/-- Readings that pass the first check pass the second: it looks at nothing more than
statuses and metering rates, and these are masked. -/
theorem checkNewRampData_of_setGlobals (g : Globals) (p : PhaseStatus) (st : LongStatus8)
    (u : DbUrmsStatus) (d : UrmsDatafile) (r : RampVariables)
    (values : isValueNegative (setGlobals g p st u d) = false) :
    checkNewRampData (getNewRampData (setGlobals g p st u d) r) = false := by
  simp only [isValueNegative, Bool.or_eq_false_iff] at values
  obtain ⟨⟨⟨⟨⟨⟨⟨leadOcc, trailOcc⟩, leadVol⟩, trailVol⟩, queueVol⟩, queueOcc⟩, passageVol⟩,
    demandVol⟩ := values
  have leadStatus : anyNegative (getStatusMainLead (setGlobals g p st u d)) = false :=
    anyNegative_eq_false fun _ => maskByte_nonneg _
  have trailStatus : anyNegative (getStatusMainTrail (setGlobals g p st u d)) = false :=
    anyNegative_eq_false fun _ => maskByte_nonneg _
  have rate : anyNegative (getRateMetered (setGlobals g p st u d)) = false :=
    anyNegative_eq_false fun _ => Int.cast_nonneg (maskShort_nonneg _)
  simp only [checkNewRampData, getNewRampData, store_newest, leadOcc, trailOcc, leadVol, trailVol,
    queueVol, queueOcc, passageVol, demandVol, leadStatus, trailStatus, rate, Bool.or_false]

/-- The globals `set_globals` makes of the records of a tick. -/
def decode (rec : Records) : Globals :=
  setGlobals {} rec.phaseStatus rec.status rec.dbUrmsStatus rec.urmsDatafile

def accepts (rec : Records) : Bool := !isValueNegative (decode rec)

def rowOf (rec : Records) : RampRow := sampleRow (decode rec)

def IsByte (x : ℤ) : Prop := 0 ≤ x ∧ x ≤ 255

theorem isByte_zero : IsByte 0 := ⟨le_rfl, by norm_num⟩

theorem isByte_maskByte (x : Byte) : IsByte (maskByte x) := by
  refine ⟨maskByte_nonneg x, ?_⟩
  have below := x.isLt
  rw [maskByte_eq]
  omega

/-- What `set_globals` masks fits a byte, and nothing the first check looks at is negative. -/
structure RowInRange (x : RampRow) : Prop where
  mainlineLeadStatus : ∀ lane, IsByte (x.mainlineLeadStatus lane)
  mainlineTrailStatus : ∀ lane, IsByte (x.mainlineTrailStatus lane)
  mainlineLeadVol : ∀ lane, IsByte (x.mainlineLeadVol lane)
  mainlineTrailVol : ∀ lane, IsByte (x.mainlineTrailVol lane)
  passageVol : ∀ lane, IsByte (x.passageVol lane)
  demandVol : ∀ lane, IsByte (x.demandVol lane)
  queueVol : ∀ lane, IsByte (x.queueVol lane)
  mainlineLeadOcc : ∀ lane, 0 ≤ x.mainlineLeadOcc lane
  mainlineTrailOcc : ∀ lane, 0 ≤ x.mainlineTrailOcc lane
  queueOcc : ∀ lane, 0 ≤ x.queueOcc lane
  meterRate : ∀ lane, 0 ≤ x.meterRate lane

theorem rowInRange_zeroRow : RowInRange zeroRow where
  mainlineLeadStatus _ := isByte_zero
  mainlineTrailStatus _ := isByte_zero
  mainlineLeadVol _ := isByte_zero
  mainlineTrailVol _ := isByte_zero
  passageVol _ := isByte_zero
  demandVol _ := isByte_zero
  queueVol _ := isByte_zero
  mainlineLeadOcc _ := le_rfl
  mainlineTrailOcc _ := le_rfl
  queueOcc _ := le_rfl
  meterRate _ := le_rfl

theorem rowInRange_rowOf {rec : Records} (accepted : accepts rec = true) :
    RowInRange (rowOf rec) := by
  have values : isValueNegative (decode rec) = false := by simpa [accepts] using accepted
  simp only [isValueNegative, Bool.or_eq_false_iff] at values
  obtain ⟨⟨⟨⟨⟨⟨⟨leadOcc, trailOcc⟩, -⟩, -⟩, -⟩, queueOcc⟩, -⟩, -⟩ := values
  exact
    { mainlineLeadStatus := fun _ => isByte_maskByte _
      mainlineTrailStatus := fun _ => isByte_maskByte _
      mainlineLeadVol := fun _ => isByte_maskByte _
      mainlineTrailVol := fun _ => isByte_maskByte _
      passageVol := fun _ => isByte_maskByte _
      demandVol := fun _ => isByte_maskByte _
      queueVol := fun _ => isByte_maskByte _
      mainlineLeadOcc := nonneg_of_anyNegative leadOcc
      mainlineTrailOcc := nonneg_of_anyNegative trailOcc
      queueOcc := nonneg_of_anyNegative queueOcc
      meterRate := fun _ => Int.cast_nonneg (maskShort_nonneg _) }

theorem readRampData_setGlobals (g : Globals) (rec : Records) (r : RampVariables) :
    readRampData (setGlobals g rec.phaseStatus rec.status rec.dbUrmsStatus rec.urmsDatafile) r =
      readRampData (decode rec) r := rfl

theorem readRampData_returns (rec : Records) (r : RampVariables) :
    (readRampData (decode rec) r).2 = accepts rec := by
  unfold readRampData accepts
  cases isValueNegative (decode rec)
  · rfl
  · rfl

theorem readRampData_rejected {rec : Records} (rejected : accepts rec = false)
    (r : RampVariables) :
    (readRampData (decode rec) r).1 = withRows r (push (rampRows r) (rampRows r newest)) := by
  have negative : isValueNegative (decode rec) = true := by simpa [accepts] using rejected
  rw [readRampData, if_pos negative, moveRampDataForward_eq]

def averages (r : RampVariables) : RampVariables :=
  getMainlineAverageVolume (getMainlineAverageOccupancy r)

@[simp] theorem rampRows_averages (r : RampVariables) : rampRows (averages r) = rampRows r := rfl

theorem readRampData_accepted {rec : Records} (accepted : accepts rec = true)
    (r : RampVariables) :
    (readRampData (decode rec) r).1 =
      averages (withRows r (push (rampRows r) (rowOf rec))) := by
  have values : isValueNegative (decode rec) = false := by simpa [accepts] using accepted
  have checked : checkNewRampData (getNewRampData (decode rec) (moveRampDataForward r)) = false :=
    checkNewRampData_of_setGlobals {} _ _ _ _ _ values
  rw [getNewRampData_eq] at checked
  rw [readRampData, if_neg (by simp [values])]
  simp only [getNewRampData_eq, checked, Bool.false_eq_true, if_false]
  rfl

theorem rampRows_readRampData (rec : Records) (r : RampVariables) :
    rampRows (readRampData (decode rec) r).1 =
      push (rampRows r) (if accepts rec then rowOf rec else rampRows r newest) := by
  cases verdict : accepts rec
  · rw [readRampData_rejected verdict]
    rfl
  · rw [readRampData_accepted verdict]
    rfl

def readsAt (r : RampVariables) (recs : ℕ → Records) (k : ℕ) : RampVariables :=
  Run.run (fun r rec => (readRampData (decode rec) r).1) (initRampData r) recs k

def acceptedRows (recs : ℕ → Records) (k : ℕ) : List RampRow :=
  ((List.range k).filter fun j => accepts (recs j)).map fun j => rowOf (recs j)

def lastSix (recs : ℕ → Records) (k : ℕ) : History RampRow :=
  latest 5 zeroRow (acceptedRows recs k)

theorem acceptedRows_succ (recs : ℕ → Records) (k : ℕ) :
    acceptedRows recs (k + 1) =
      if accepts (recs k) then acceptedRows recs k ++ [rowOf (recs k)]
      else acceptedRows recs k := by
  unfold acceptedRows
  cases verdict : accepts (recs k)
  · simp [List.range_succ, verdict]
  · simp [List.range_succ, verdict]

/-- The row of the last sample accepted before call `k`. -/
def heldRow (recs : ℕ → Records) : ℕ → RampRow
  | 0 => zeroRow
  | k + 1 => if accepts (recs k) then rowOf (recs k) else heldRow recs k

section run

variable (r : RampVariables) (recs : ℕ → Records)

theorem rampRows_readsAt_succ (k : ℕ) :
    rampRows (readsAt r recs (k + 1)) =
      push (rampRows (readsAt r recs k))
        (if accepts (recs k) then rowOf (recs k) else rampRows (readsAt r recs k) newest) :=
  rampRows_readRampData (recs k) (readsAt r recs k)

theorem rampRows_readsAt_heldRow (k : ℕ) (i : Fin numberRampData) :
    rampRows (readsAt r recs k) i = heldRow recs (k - (5 - i)) := by
  induction k generalizing i with
  | zero =>
    rw [Nat.zero_sub]
    rfl
  | succ k ih =>
    rw [rampRows_readsAt_succ]
    refine Fin.lastCases ?_ (fun i => ?_) i
    · rw [push_last, ih]
      rfl
    · rw [push_castSucc, ih]
      refine congrArg (heldRow recs) ?_
      simp only [Fin.val_succ, Fin.val_castSucc]
      omega

theorem rampRows_readsAt (k : ℕ)
    (level : ∀ j < k, accepts (recs j) = false → ∀ i, lastSix recs j i = lastSix recs j newest) :
    rampRows (readsAt r recs k) = lastSix recs k := by
  induction k with
  | zero => rfl
  | succ k ih =>
    have before := ih fun j hj => level j (by omega)
    rw [rampRows_readsAt_succ, before]
    change _ = latest 5 zeroRow (acceptedRows recs (k + 1))
    rw [acceptedRows_succ]
    cases verdict : accepts (recs k)
    · exact (push_eq_self_iff _ _).mpr (level k (by omega) verdict)
    · exact (latest_concat zeroRow _ _).symm

/-- A rejected call leaves everything as it was, and the rows are the last six accepted
samples, exactly in the runs whose rejected calls find six equal rows. -/
theorem readsAt_keep_iff (n : ℕ) :
    ((∀ k < n, (readRampData (decode (recs k)) (readsAt r recs k)).2 = false →
        readsAt r recs (k + 1) = readsAt r recs k) ∧
      ∀ k ≤ n, rampRows (readsAt r recs k) = lastSix recs k) ↔
    ∀ k < n, accepts (recs k) = false → ∀ i, lastSix recs k i = lastSix recs k newest := by
  constructor
  · rintro ⟨kept, rows⟩ k hk rejected
    have same := kept k hk ((readRampData_returns _ _).trans rejected)
    have pushed := rampRows_readsAt_succ r recs k
    rw [same, rejected, if_neg (by simp), rows k hk.le] at pushed
    exact (push_eq_self_iff _ _).mp pushed.symm
  · intro level
    refine ⟨fun k hk rejected => ?_, fun k hk =>
      rampRows_readsAt r recs k fun j hj => level j (by omega)⟩
    rw [readRampData_returns] at rejected
    have rows := rampRows_readsAt r recs k fun j hj => level j (by omega)
    have still : push (rampRows (readsAt r recs k)) (rampRows (readsAt r recs k) newest) =
        rampRows (readsAt r recs k) := by
      rw [rows]
      exact (push_eq_self_iff _ _).mpr (level k hk rejected)
    have moved := readRampData_rejected rejected (readsAt r recs k)
    rw [still] at moved
    exact moved

end run

def fourOClock : Records := { zeroRecords with phaseStatus.ts := ⟨16, 0, 0, 0⟩ }

def failedQueueLoop : Records := { zeroRecords with urmsDatafile.queueOcc := fun _ => -1 }

/-- An accepted sample and a rejected one: the rejected call returns 1, and the accepted
sample is in the history twice. -/
theorem rejected_sample_repeats_row :
    (readRampData (decode failedQueueLoop)
        (readsAt staticRamp (fun k => if k = 0 then fourOClock else failedQueueLoop) 1)).2 = false ∧
    readsAt staticRamp (fun k => if k = 0 then fourOClock else failedQueueLoop) 2 ≠
      readsAt staticRamp (fun k => if k = 0 then fourOClock else failedQueueLoop) 1 ∧
    rampRows (readsAt staticRamp (fun k => if k = 0 then fourOClock else failedQueueLoop) 2) ≠
      lastSix (fun k => if k = 0 then fourOClock else failedQueueLoop) 2 := by
  refine ⟨by decide, fun same => ?_, fun same => ?_⟩
  · exact absurd (congrFun (congrArg RampVariables.dataTime same) 4) (by decide +kernel)
  · exact absurd (congrArg RampRow.dataTime (congrFun same 4)) (by decide +kernel)

end RampMetering
