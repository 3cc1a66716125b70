import RampMetering.QueueBalance
import RampMetering.RampRun

/-! The activation by the occupancy of the ramp queue. The check reads row `NUMBER_RAMP_DATA`
of `queue_occ`, one past its newest row: what lies there is the oldest metering rate, so the
answer is about a rate of five calls before and not about the queue. -/

namespace RampMetering
open Window

theorem iff_iff_right (a b c : Prop) : ((a ↔ c) ↔ (b ↔ c)) ↔ (a ↔ b) := by
  by_cases hc : c
  · simp only [hc, iff_true]
  · simp only [hc, iff_false, not_iff_not]

theorem checkActivationViaQueueOcc_eq (r : RampVariables) :
    checkActivationViaQueueOcc r =
      decide (queueOccThresholdToActivateIntersection < r.meterRate 0 1) := by
  have past : queueOccAt r (Fin.natAdd numberRampData 0) 1 = r.meterRate 0 1 :=
    Fin.addCases_right 0
  exact congrArg (fun occ : ℚ => decide (occ > queueOccThresholdToActivateIntersection)) past

theorem checkActivationViaQueueOcc_blind (r : RampVariables) (occ : History (Lanes ℚ)) :
    checkActivationViaQueueOcc { r with queueOcc := occ } = checkActivationViaQueueOcc r := by
  rw [checkActivationViaQueueOcc_eq, checkActivationViaQueueOcc_eq]

theorem checkActivationViaQueueOcc_turned (r : RampVariables) :
    ∃ rate, checkActivationViaQueueOcc { r with meterRate := rate } ≠
      checkActivationViaQueueOcc r := by
  refine ⟨fun _ _ => if checkActivationViaQueueOcc r then 0
    else queueOccThresholdToActivateIntersection + 1, ?_⟩
  rw [checkActivationViaQueueOcc_eq]
  cases checkActivationViaQueueOcc r
  · simp
  · simp [queueOccThresholdToActivateIntersection]

def recordsOf (ins : ℕ → Input) (k : ℕ) : Records := (ins k).records

def newestQueueOcc (ins : ℕ → Input) (k : ℕ) : ℚ := (heldRow (recordsOf ins) (k + 1)).queueOcc 1

def oldestMeterRate (ins : ℕ → Input) (k : ℕ) : ℚ := (heldRow (recordsOf ins) (k - 4)).meterRate 1

def SameSide (ins : ℕ → Input) (k : ℕ) : Prop :=
  queueOccThresholdToActivateIntersection < oldestMeterRate ins k ↔
    queueOccThresholdToActivateIntersection < newestQueueOcc ins k

section run

variable (p : Platform) (t : Tuning) (maxGreen1 : ℤ) (u : DbUrmsStatus) (ins : ℕ → Input)

/-- What `IS_activation` answers at a barrier that tick `k` lets through. -/
def activationAt (k : ℕ) : Bool :=
  (isActivation t (measuredAt p t maxGreen1 u ins k) (metAt p t maxGreen1 u ins k).ramp).2

theorem rampRows_metAt (k : ℕ) (i : Fin numberRampData) :
    rampRows (metAt p t maxGreen1 u ins k).ramp i = heldRow (recordsOf ins) (k + 1 - (5 - i)) := by
  rw [metAt, rampRows_daemonAt]
  exact rampRows_readsAt_heldRow _ _ _ _

theorem queueOcc_metAt (k : ℕ) :
    (metAt p t maxGreen1 u ins k).ramp.queueOcc newest 1 = newestQueueOcc ins k :=
  congrFun (congrArg RampRow.queueOcc (rampRows_metAt p t maxGreen1 u ins k newest)) 1

theorem meterRate_metAt (k : ℕ) :
    (metAt p t maxGreen1 u ins k).ramp.meterRate 0 1 = oldestMeterRate ins k := by
  have oldest := rampRows_metAt p t maxGreen1 u ins k 0
  have calls : k + 1 - (5 - ((0 : Fin numberRampData) : ℕ)) = k - 4 := Nat.succ_sub_succ k 4
  rw [calls] at oldest
  exact congrFun (congrArg RampRow.meterRate oldest) 1

variable {t}

theorem activationAt_eq (method : t.methodForRampQueue = 2) (k : ℕ) :
    activationAt p t maxGreen1 u ins k =
      checkActivationViaQueueOcc (metAt p t maxGreen1 u ins k).ramp := by
  rw [activationAt, isActivation, method]
  rfl

theorem activationAt_iff (method : t.methodForRampQueue = 2) (k : ℕ) :
    activationAt p t maxGreen1 u ins k = true ↔
      queueOccThresholdToActivateIntersection < oldestMeterRate ins k := by
  rw [activationAt_eq p maxGreen1 u ins method, checkActivationViaQueueOcc_eq, meterRate_metAt,
    decide_eq_true_iff]

theorem sentMaxGreen_of_inactive {k : ℕ}
    (fits : (window (isEdge (barrierLevel ins)) k).length ≤ maxrow)
    (edge : isEdge (barrierLevel ins) k = true)
    (through : healthy (metAt p t maxGreen1 u ins k) = true)
    (inactive : activationAt p t maxGreen1 u ins k = false) :
    (output p t (daemonAt p t (start maxGreen1 u) ins k) (ins k)).sentMaxGreen =
      some maxGreenUpperbound := by
  rw [activationAt, measuredAt_eq p t maxGreen1 u ins fits] at inactive
  rw [output_sentMaxGreen, signalEdge_run, edge, if_pos rfl, ← daemonAt_succ,
    signal_of_edge p t maxGreen1 u ins fits edge, barrierTick_eq, through, if_pos rfl]
  refine congrArg some ?_
  simp only [getNewMaxGreenPhase3, inactive, Bool.not_false, if_true, notActivated]

/-- At a barrier the check answers for the newest queue occupancy exactly when the oldest rate
lies on its side of the threshold. No row of the occupancies decides, a rate may always; two runs
with one newest occupancy are answered alike exactly when both are answered right or neither. -/
theorem queue_activation_iff (method : t.methodForRampQueue = 2) (k : ℕ) :
    ((activationAt p t maxGreen1 u ins k = true ↔
        queueOccThresholdToActivateIntersection <
          (metAt p t maxGreen1 u ins k).ramp.queueOcc newest 1) ↔ SameSide ins k) ∧
    ((∀ occ, checkActivationViaQueueOcc
        { (metAt p t maxGreen1 u ins k).ramp with queueOcc := occ } =
          activationAt p t maxGreen1 u ins k) ∧
      ∃ rate, checkActivationViaQueueOcc
        { (metAt p t maxGreen1 u ins k).ramp with meterRate := rate } ≠
          activationAt p t maxGreen1 u ins k) ∧
    ∀ (maxGreen1' : ℤ) (u' : DbUrmsStatus) (ins' : ℕ → Input) (k' : ℕ),
      (metAt p t maxGreen1 u ins k).ramp.queueOcc newest 1 =
        (metAt p t maxGreen1' u' ins' k').ramp.queueOcc newest 1 →
      (activationAt p t maxGreen1 u ins k = activationAt p t maxGreen1' u' ins' k' ↔
        (SameSide ins k ↔ SameSide ins' k')) := by
  have answer := activationAt_iff p maxGreen1 u ins method k
  have checked := activationAt_eq p maxGreen1 u ins method k
  refine ⟨?_, ⟨?_, ?_⟩, ?_⟩
  · rw [answer, queueOcc_metAt]
    exact Iff.rfl
  · intro occ
    rw [checked, checkActivationViaQueueOcc_blind]
  · rw [checked]
    exact checkActivationViaQueueOcc_turned _
  · intro maxGreen1' u' ins' k' agree
    rw [queueOcc_metAt, queueOcc_metAt] at agree
    rw [Bool.eq_iff_iff, answer, activationAt_iff p maxGreen1' u' ins' method k', SameSide,
      SameSide, agree]
    exact (iff_iff_right _ _ _).symm

end run

def byQueueOcc : Tuning := { methodForRampQueue := 2 }

def queueReads (occ : ℚ) (k : ℕ) : Input :=
  { quietInput with
    records.urmsDatafile.queueOcc := fun _ => occ
    records.phaseStatus.barrierFlag := if k = 6 then 1 else 0
    records.phaseStatus.greens := 16
    records.status.greenYellowOverlap := 2 }

def meteredQueue (k : ℕ) : Input :=
  { queueReads 50 k with records.urmsDatafile.meteringRate := fun _ => 100 }

theorem meteredQueue_activated :
    isEdge (barrierLevel meteredQueue) 6 = true ∧
      activationAt straying byQueueOcc 25 zeroRecords.dbUrmsStatus meteredQueue 6 = true := by
  refine ⟨by decide, (queue_activation_iff straying 25 zeroRecords.dbUrmsStatus meteredQueue rfl
    6).1.mpr ?_ |>.mpr ?_⟩
  · unfold SameSide
    decide +kernel
  · rw [queueOcc_metAt]
    decide +kernel

/-- Half the time a car stands on the queue loop, in all six rows; the rates are 0, and the
barrier sends the upper bound. -/
theorem long_queue_not_activated :
    isEdge (barrierLevel (queueReads 50)) 6 = true ∧
    healthy (metAt straying byQueueOcc 25 zeroRecords.dbUrmsStatus (queueReads 50) 6) = true ∧
    queueOccThresholdToActivateIntersection <
      (metAt straying byQueueOcc 25 zeroRecords.dbUrmsStatus (queueReads 50)
        6).ramp.queueOcc newest 1 ∧
    activationAt straying byQueueOcc 25 zeroRecords.dbUrmsStatus (queueReads 50) 6 = false ∧
    (output straying byQueueOcc (daemonAt straying byQueueOcc (start 25 zeroRecords.dbUrmsStatus)
      (queueReads 50) 6) (queueReads 50 6)).sentMaxGreen = some maxGreenUpperbound := by
  have fits : (window (isEdge (barrierLevel (queueReads 50))) 6).length ≤ maxrow := by
    decide +kernel
  have through : healthyAt (queueReads 50) 6 = true := by decide +kernel
  rw [healthyAt_eq straying byQueueOcc 25 zeroRecords.dbUrmsStatus (queueReads 50) fits,
    Bool.and_eq_true] at through
  have inactive : activationAt straying byQueueOcc 25 zeroRecords.dbUrmsStatus (queueReads 50) 6 =
      false := by
    rw [← Bool.not_eq_true, activationAt_iff straying 25 zeroRecords.dbUrmsStatus _ rfl]
    decide +kernel
  refine ⟨through.1, through.2, ?_, inactive, ?_⟩
  · rw [queueOcc_metAt]
    decide +kernel
  · exact sentMaxGreen_of_inactive straying 25 zeroRecords.dbUrmsStatus (queueReads 50) fits
      through.1 through.2 inactive

end RampMetering
