import RampMetering.Lib.Stutter
import RampMetering.Release

/-! The green regulation under the releases. `old_max_green` walks one step in every call of
neither release and rests in the others, so the regulated greens are those of a walk that
knows of no releases. -/

namespace RampMetering
open Stutter

def walk (green : ℤ) (ltOcc : ℚ) : ℤ :=
  if ltOcc > ltOccThreshold then max (green - maxGreenChange) maxGreenLowerbound
  else min (green + maxGreenChange) maxGreenUpperbound

theorem walk_within {green : ℤ}
    (within : maxGreenLowerbound ≤ green ∧ green ≤ maxGreenUpperbound) (ltOcc : ℚ) :
    (maxGreenLowerbound ≤ walk green ltOcc ∧ walk green ltOcc ≤ maxGreenUpperbound) ∧
      |walk green ltOcc - green| ≤ maxGreenChange := by
  unfold maxGreenLowerbound maxGreenUpperbound at *
  unfold walk maxGreenChange
  rw [abs_le]
  split_ifs
  · simp only [maxGreenLowerbound]
    omega
  · simp only [maxGreenUpperbound]
    omega

def regulates (t : Tuning) (s : SignalVariables) (m : Measurement) : Bool :=
  decide (callBranch t s m = .normalCycle)

section call

variable {t : Tuning} {s : SignalVariables} {m : Measurement}

theorem call_regulated (normal : callBranch t s m = .normalCycle) :
    (call t s m).newMaxGreen = walk s.oldMaxGreen m.ltOcc ∧
      (call t s m).oldMaxGreen = walk s.oldMaxGreen m.ltOcc := by
  have regulated : ∀ q, regulatedGreen { measure s m with rampQueue := q } =
      walk s.oldMaxGreen m.ltOcc := by
    intro q
    simp [regulatedGreen, needReduceMaxGreen, walk, measure]
  obtain ⟨q, step⟩ := call_step t s m
  rw [normal] at step
  generalize call t s m = s' at step ⊢
  cases step with
  | wait => exact ⟨regulated q, regulated q⟩
  | release => exact ⟨regulated q, regulated q⟩

theorem call_released (activated : callBranch t s m ≠ .notActivated)
    (released : callBranch t s m ≠ .normalCycle) :
    (call t s m).oldMaxGreen = s.oldMaxGreen := by
  obtain ⟨q, step⟩ := call_step t s m
  generalize callBranch t s m = b at step activated released
  generalize call t s m = s' at step ⊢
  cases step with
  | notActivated => exact absurd rfl activated
  | wait => exact absurd rfl released
  | release => exact absurd rfl released
  | _ => rfl

end call

section calls

variable (t : Tuning) (s : SignalVariables) (ms : ℕ → Measurement)

def calledAt (k : ℕ) : SignalVariables := Run.run (call t) s ms k

/-- The greens of the calls before `n` that are in neither release, in order. -/
def regulatedGreens (n : ℕ) : List ℤ :=
  (visited (call t) (regulates t) s ms n).map SignalVariables.newMaxGreen

def regulatingOccs (n : ℕ) : List ℚ :=
  driven (call t) (regulates t) Measurement.ltOcc s ms n

theorem regulatedGreens_eq (n : ℕ)
    (activated : ∀ k < n, callBranch t (calledAt t s ms k) (ms k) ≠ .notActivated) :
    regulatedGreens t s ms n = iterates walk s.oldMaxGreen (regulatingOccs t s ms n) := by
  have related := (simulation (call t) (regulates t) Measurement.ltOcc s ms walk
    (fun (s : SignalVariables) green => s.oldMaxGreen = green)
    (rfl : s.oldMaxGreen = s.oldMaxGreen) n
    (fun k hk rests b held =>
      (call_released (activated k hk) (of_decide_eq_false rests)).trans held)
    (fun k hk regulated b held => by
      rw [← held]
      exact (call_regulated (of_decide_eq_true regulated)).2)).2
  have shown : regulatedGreens t s ms n =
      (visited (call t) (regulates t) s ms n).map SignalVariables.oldMaxGreen := by
    rw [regulatedGreens, visited, List.map_map, List.map_map]
    refine List.map_congr_left fun k member => ?_
    have regulated := of_decide_eq_true (List.mem_filter.mp member).2
    exact (call_regulated regulated).1.trans (call_regulated regulated).2.symm
  rw [shown, regulatingOccs, ← List.forall₂_eq_eq_eq, List.forall₂_map_left_iff]
  exact related

/-- The regulated greens are the walk from `old_max_green`, driven by the occupancies of their
own calls, whatever releases come in between; they stay in the bounds, and each is near the
one before it. -/
theorem releases_transparent
    (within : maxGreenLowerbound ≤ s.oldMaxGreen ∧ s.oldMaxGreen ≤ maxGreenUpperbound) (n : ℕ)
    (activated : ∀ k < n, callBranch t (calledAt t s ms k) (ms k) ≠ .notActivated) :
    regulatedGreens t s ms n = iterates walk s.oldMaxGreen (regulatingOccs t s ms n) ∧
    (∀ k < n, callBranch t (calledAt t s ms k) (ms k) ≠ .normalCycle →
      (calledAt t s ms (k + 1)).newMaxGreen = maxGreenUpperbound) ∧
    (∀ green ∈ regulatedGreens t s ms n,
      maxGreenLowerbound ≤ green ∧ green ≤ maxGreenUpperbound) ∧
    List.IsChain (fun green green' => |green' - green| ≤ maxGreenChange)
      (s.oldMaxGreen :: regulatedGreens t s ms n) := by
  have greens := regulatedGreens_eq t s ms n activated
  have chain := iterates_chain walk
    (fun green => maxGreenLowerbound ≤ green ∧ green ≤ maxGreenUpperbound)
    (fun green green' => |green' - green| ≤ maxGreenChange)
    (fun _ ltOcc inside => (walk_within inside ltOcc).1)
    (fun _ ltOcc inside => (walk_within inside ltOcc).2) within (regulatingOccs t s ms n)
  refine ⟨greens, fun k _ released => call_newMaxGreen released, ?_, ?_⟩
  · rw [greens]
    exact chain.1
  · rw [greens]
    exact chain.2

end calls

def greenAt28 : SignalVariables := { staticSignal with oldMaxGreen := 28 }

theorem occupied_activated (s : SignalVariables) :
    callBranch {} s (occupied (1 / 2) 0) ≠ .notActivated := by
  rw [Ne, callBranch, branch_eq_notActivated_iff]
  norm_num [isActivation, checkActivationViaIntersectionOcc, measure, occupied,
    leftOccThresholdToActivateIntersection]

theorem releases_transparent_busy_left :
    iterates walk 28 (regulatingOccs {} greenAt28 (fun _ => occupied (1 / 2) 0) 5) =
        regulatedGreens {} greenAt28 (fun _ => occupied (1 / 2) 0) 5 ∧
      (calledAt {} greenAt28 (fun _ => occupied (1 / 2) 0) 4).newMaxGreen = 30 := by
  have transparent := releases_transparent {} greenAt28 (fun _ => occupied (1 / 2) 0) (by decide) 5
    (fun _ _ => occupied_activated _)
  exact ⟨transparent.1.symm, transparent.2.1 3 (by decide) (by decide +kernel)⟩

end RampMetering
