import RampMetering.RampHistory
import Mathlib.Data.Fintype.Card
import Mathlib.Tactic.Linarith
import Mathlib.Tactic.Ring

/-! The mainline averages. What they are meant to be is one rule for both detectors of a lane:
the mean over those that report `MAINLINE_DETECTOR_WORKING` and are not stuck. The lead checks
follow it; the trail checks ask for `MAINLINE_DETECTOR_DISABLE` instead. -/

namespace RampMetering

def Unchanged (dataTime x : History ℚ) (threshold : ℚ) (p : Fin 5) : Prop :=
  eps ≤ dataTime p.succ ∧ |x p.succ - x p.castSucc| ≤ threshold * x p.castSucc

instance (dataTime x : History ℚ) (threshold : ℚ) :
    DecidablePred (Unchanged dataTime x threshold) := fun p =>
  inferInstanceAs (Decidable
    (eps ≤ dataTime p.succ ∧ |x p.succ - x p.castSucc| ≤ threshold * x p.castSucc))

def unchangedCount (dataTime x : History ℚ) (threshold : ℚ) : ℕ :=
  (Finset.univ.filter (Unchanged dataTime x threshold)).card

def Stuck (dataTime x : History ℚ) (threshold : ℚ) : Prop :=
  5 / 2 < unchangedCount dataTime x threshold ∧ Unchanged dataTime x threshold (Fin.last 4)

instance (dataTime x : History ℚ) (threshold : ℚ) : Decidable (Stuck dataTime x threshold) :=
  inferInstanceAs (Decidable
    (5 / 2 < unchangedCount dataTime x threshold ∧ Unchanged dataTime x threshold (Fin.last 4)))

def usable {α : Type} (status : ℤ) (stuck : Prop) [Decidable stuck] (reading : α) : List α :=
  if status = mainlineDetectorWorking ∧ ¬stuck then [reading] else []

def meanOccupancy (kept : ℚ) (readings : List ℚ) : ℚ :=
  if readings = [] then kept else readings.sum / readings.length

def meanVolume (kept : ℤ) (readings : List ℤ) : ℤ :=
  if readings = [] then kept else readings.sum.tdiv readings.length

def occStuckLead (r : RampVariables) (lane : Fin numberLane) : Prop :=
  Stuck r.dataTime (fun i => r.mainlineLeadOcc i lane) thresholdOccHealth

def occStuckTrail (r : RampVariables) (lane : Fin numberLane) : Prop :=
  Stuck r.dataTime (fun i => r.mainlineTrailOcc i lane) thresholdOccHealth

def volStuckLead (r : RampVariables) (lane : Fin numberLane) : Prop :=
  Stuck r.dataTime (fun i => r.mainlineLeadVol i lane) thresholdVolHealth

def volStuckTrail (r : RampVariables) (lane : Fin numberLane) : Prop :=
  Stuck r.dataTime (fun i => r.mainlineTrailVol i lane) thresholdVolHealth

instance (r : RampVariables) (lane : Fin numberLane) : Decidable (occStuckLead r lane) :=
  inferInstanceAs (Decidable (Stuck _ _ _))

instance (r : RampVariables) (lane : Fin numberLane) : Decidable (occStuckTrail r lane) :=
  inferInstanceAs (Decidable (Stuck _ _ _))

instance (r : RampVariables) (lane : Fin numberLane) : Decidable (volStuckLead r lane) :=
  inferInstanceAs (Decidable (Stuck _ _ _))

instance (r : RampVariables) (lane : Fin numberLane) : Decidable (volStuckTrail r lane) :=
  inferInstanceAs (Decidable (Stuck _ _ _))

def ruleOccupancy (r : RampVariables) (lane : Fin numberLane) : ℚ :=
  meanOccupancy (r.mainlineAvgOccupancy lane)
    (usable (r.mainlineLeadStatus newest lane) (occStuckLead r lane)
        (r.mainlineLeadOcc newest lane) ++
      usable (r.mainlineTrailStatus newest lane) (occStuckTrail r lane)
        (r.mainlineTrailOcc newest lane))

def ruleVolume (r : RampVariables) (lane : Fin numberLane) : ℤ :=
  meanVolume (r.mainlineAvgVolume lane)
    (usable (r.mainlineLeadStatus newest lane) (volStuckLead r lane)
        (r.mainlineLeadVol newest lane) ++
      usable (r.mainlineTrailStatus newest lane) (volStuckTrail r lane)
        (r.mainlineTrailVol newest lane))

theorem steadyPair_eq (dataTime x : History ℚ) (threshold : ℚ) (p : Fin 5) :
    steadyPair dataTime x threshold p = decide (Unchanged dataTime x threshold p) := by
  rw [Bool.eq_iff_iff, decide_eq_true_iff]
  simp [steadyPair, Unchanged]

theorem checkHealth_eq (status required : ℤ) (dataTime x : History ℚ) (threshold : ℚ) :
    checkHealth status required dataTime x threshold =
      decide (status = required ∧ ¬Stuck dataTime x threshold) := by
  have count : (List.finRange 5).countP (steadyPair dataTime x threshold) =
      unchangedCount dataTime x threshold := by
    rw [funext (steadyPair_eq dataTime x threshold), List.countP_eq_length_filter]
    rfl
  have last : steadyPair dataTime x threshold 4 =
      decide (Unchanged dataTime x threshold (Fin.last 4)) := steadyPair_eq _ _ _ _
  rw [checkHealth]
  by_cases working : status = required
  · simp [working, count, last, Stuck]
  · simp [working]

def select {α : Type} (leadHealth trailHealth : Bool) (both lead trail kept : α) : α :=
  if leadHealth && trailHealth then both
  else if leadHealth then lead
  else if trailHealth then trail
  else kept

section lane

variable (r : RampVariables) (lane : Fin numberLane)

theorem averages_occupancy :
    (averages r).mainlineAvgOccupancy lane =
      select (checkMainlineOccHealthLead r lane) (checkMainlineOccHealthTrail r lane)
        (1 / 2 * (r.mainlineLeadOcc newest lane + r.mainlineTrailOcc newest lane))
        (r.mainlineLeadOcc newest lane) (r.mainlineTrailOcc newest lane)
        (r.mainlineAvgOccupancy lane) := rfl

theorem averages_volume :
    (averages r).mainlineAvgVolume lane =
      select (checkMainlineVolHealthLead r lane) (checkMainlineVolHealthTrail r lane)
        ((r.mainlineLeadVol newest lane + r.mainlineTrailVol newest lane).tdiv 2)
        (r.mainlineLeadVol newest lane) (r.mainlineTrailVol newest lane)
        (r.mainlineAvgVolume lane) := rfl

end lane

/-- Any mean of the usable readings is such a selection. -/
theorem mean_usable {α : Type} (mean : α → List α → α) {kept : α} (none : mean kept [] = kept)
    (one : ∀ x, mean kept [x] = x) (s s' : ℤ) (stuck stuck' : Prop) [Decidable stuck]
    [Decidable stuck'] (lead trail : α) :
    mean kept (usable s stuck lead ++ usable s' stuck' trail) =
      select (decide (s = mainlineDetectorWorking ∧ ¬stuck))
        (decide (s' = mainlineDetectorWorking ∧ ¬stuck')) (mean kept [lead, trail]) lead trail
        kept := by
  unfold usable select
  by_cases first : s = mainlineDetectorWorking ∧ ¬stuck
  · by_cases second : s' = mainlineDetectorWorking ∧ ¬stuck'
    · simp [first, second]
    · simp [first, second, one]
  · by_cases second : s' = mainlineDetectorWorking ∧ ¬stuck'
    · simp [first, second, one]
    · simp [first, second, none]

theorem meanOccupancy_two (kept lead trail : ℚ) :
    meanOccupancy kept [lead, trail] = 1 / 2 * (lead + trail) := by
  simp [meanOccupancy]
  ring

theorem meanVolume_two (kept lead trail : ℤ) :
    meanVolume kept [lead, trail] = (lead + trail).tdiv 2 := by
  simp [meanVolume]

/-- The trail check looks at the other status, so the selection follows the rule exactly when
the trail detector is out by both statuses, is stuck, or changes nothing by its reading. -/
theorem select_trail_iff {α : Type} (leadUsable : Prop) [Decidable leadUsable] (status : ℤ)
    (stuck : Prop) [Decidable stuck] (both lead trail kept : α) :
    select (decide leadUsable) (decide (status = mainlineDetectorDisable ∧ ¬stuck)) both lead
          trail kept =
        select (decide leadUsable) (decide (status = mainlineDetectorWorking ∧ ¬stuck)) both lead
          trail kept ↔
      (status ≠ mainlineDetectorWorking ∧ status ≠ mainlineDetectorDisable) ∨ stuck ∨
        ((leadUsable → both = lead) ∧ (¬leadUsable → trail = kept)) := by
  unfold select mainlineDetectorDisable mainlineDetectorWorking
  by_cases held : stuck
  · simp [held]
  by_cases working : status = 2
  · by_cases use : leadUsable
    · simp [held, working, use, eq_comm]
    · simp [held, working, use, eq_comm]
  by_cases disabled : status = 1
  · by_cases use : leadUsable
    · simp [held, disabled, use]
    · simp [held, disabled, use]
  · simp [working, disabled]

section lane

variable (r : RampVariables) (lane : Fin numberLane)

def LeadOccUsable : Prop :=
  r.mainlineLeadStatus newest lane = mainlineDetectorWorking ∧ ¬occStuckLead r lane

def LeadVolUsable : Prop :=
  r.mainlineLeadStatus newest lane = mainlineDetectorWorking ∧ ¬volStuckLead r lane

def TrailOccMute : Prop :=
  (LeadOccUsable r lane →
    1 / 2 * (r.mainlineLeadOcc newest lane + r.mainlineTrailOcc newest lane) =
      r.mainlineLeadOcc newest lane) ∧
  (¬LeadOccUsable r lane → r.mainlineTrailOcc newest lane = r.mainlineAvgOccupancy lane)

def TrailVolMute : Prop :=
  (LeadVolUsable r lane →
    (r.mainlineLeadVol newest lane + r.mainlineTrailVol newest lane).tdiv 2 =
      r.mainlineLeadVol newest lane) ∧
  (¬LeadVolUsable r lane → r.mainlineTrailVol newest lane = r.mainlineAvgVolume lane)

def TrailOut : Prop :=
  r.mainlineTrailStatus newest lane ≠ mainlineDetectorWorking ∧
    r.mainlineTrailStatus newest lane ≠ mainlineDetectorDisable

theorem occupancy_rule_iff :
    (averages r).mainlineAvgOccupancy lane = ruleOccupancy r lane ↔
      TrailOut r lane ∨ occStuckTrail r lane ∨ TrailOccMute r lane := by
  have lead : checkMainlineOccHealthLead r lane = decide
      (r.mainlineLeadStatus newest lane = mainlineDetectorWorking ∧ ¬occStuckLead r lane) :=
    checkHealth_eq _ _ _ _ _
  have trail : checkMainlineOccHealthTrail r lane = decide
      (r.mainlineTrailStatus newest lane = mainlineDetectorDisable ∧ ¬occStuckTrail r lane) :=
    checkHealth_eq _ _ _ _ _
  rw [averages_occupancy, lead, trail, ruleOccupancy,
    mean_usable meanOccupancy rfl (by simp [meanOccupancy]), meanOccupancy_two, select_trail_iff]
  rfl

theorem volume_rule_iff :
    (averages r).mainlineAvgVolume lane = ruleVolume r lane ↔
      TrailOut r lane ∨ volStuckTrail r lane ∨ TrailVolMute r lane := by
  have lead : checkMainlineVolHealthLead r lane = decide
      (r.mainlineLeadStatus newest lane = mainlineDetectorWorking ∧ ¬volStuckLead r lane) :=
    checkHealth_eq _ _ _ _ _
  have trail : checkMainlineVolHealthTrail r lane = decide
      (r.mainlineTrailStatus newest lane = mainlineDetectorDisable ∧ ¬volStuckTrail r lane) :=
    checkHealth_eq _ _ _ _ _
  rw [averages_volume, lead, trail, ruleVolume, mean_usable meanVolume rfl (by simp [meanVolume]),
    meanVolume_two, select_trail_iff]
  rfl

/-- Both averages follow the rule exactly when the trail detector is out by both statuses, or
is, for each of them, stuck or without effect. -/
theorem averages_rule_iff :
    ((getMainlineAverageOccupancy r).mainlineAvgOccupancy lane = ruleOccupancy r lane ∧
        (getMainlineAverageVolume r).mainlineAvgVolume lane = ruleVolume r lane) ↔
      TrailOut r lane ∨
        ((occStuckTrail r lane ∨ TrailOccMute r lane) ∧
          (volStuckTrail r lane ∨ TrailVolMute r lane)) := by
  rw [or_and_left, ← occupancy_rule_iff, ← volume_rule_iff]
  rfl

def swapDetectors : RampVariables :=
  { r with
    mainlineLeadStatus := r.mainlineTrailStatus
    mainlineTrailStatus := r.mainlineLeadStatus
    mainlineLeadVol := r.mainlineTrailVol
    mainlineTrailVol := r.mainlineLeadVol
    mainlineLeadOcc := r.mainlineTrailOcc
    mainlineTrailOcc := r.mainlineLeadOcc }

theorem rule_swapDetectors :
    ruleOccupancy (swapDetectors r) lane = ruleOccupancy r lane ∧
      ruleVolume (swapDetectors r) lane = ruleVolume r lane := by
  have occ : ∀ (kept : ℚ) (xs ys : List ℚ),
      meanOccupancy kept (xs ++ ys) = meanOccupancy kept (ys ++ xs) := by
    intro kept xs ys
    simp [meanOccupancy, add_comm, and_comm]
  have vol : ∀ (kept : ℤ) (xs ys : List ℤ),
      meanVolume kept (xs ++ ys) = meanVolume kept (ys ++ xs) := by
    intro kept xs ys
    simp [meanVolume, add_comm, and_comm]
  exact ⟨occ _ _ _, vol _ _ _⟩

end lane

def bothWorking : RampVariables :=
  { staticRamp with
    mainlineLeadStatus := fun _ _ => 2
    mainlineTrailStatus := fun _ _ => 2
    mainlineLeadOcc := fun _ _ => 10
    mainlineTrailOcc := fun _ _ => 20 }

/-- Two working detectors: only the lead one is averaged, and exchanging them shows. -/
theorem working_trail_left_out :
    (getMainlineAverageOccupancy bothWorking).mainlineAvgOccupancy 1 = 10 ∧
    ruleOccupancy bothWorking 1 = 15 ∧
    (getMainlineAverageOccupancy (swapDetectors bothWorking)).mainlineAvgOccupancy 1 = 20 := by
  decide +kernel

end RampMetering
