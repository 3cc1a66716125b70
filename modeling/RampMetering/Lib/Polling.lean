import Mathlib.Algebra.BigOperators.Group.Finset.Basic

/-! A flag that others raise and clear while one program polls it and acts when it reads a raised
flag after a cleared one. `level k` is the flag before step `k`, and `reads k` says that step `k`
is a read. Every raise is acted on once, still waits to be read, or was missed: the flag
was written over, one way or the other, before the program had read it. -/

namespace RampMetering.Polling

variable (level reads : ℕ → Bool)

def known : ℕ → Bool
  | 0 => false
  | k + 1 => if reads k then level k else known k

def raisedAt (k : ℕ) : Bool := !level k && level (k + 1)

def seenAt (k : ℕ) : Bool := reads k && level k && !known level reads k

def missedAt (k : ℕ) : Bool := (level (k + 1) != level k) && (known level reads k != level k)

def waitingAt (k : ℕ) : Bool := level k && !known level reads k

def times (event : ℕ → Bool) (k : ℕ) : ℕ := ∑ j ∈ Finset.range k, (event j).toNat

@[simp] theorem times_zero (event : ℕ → Bool) : times event 0 = 0 := rfl

theorem times_succ (event : ℕ → Bool) (k : ℕ) :
    times event (k + 1) = times event k + (event k).toNat := Finset.sum_range_succ _ _

theorem step_balance (now after read last : Bool) (readOnly : read = true → after = now) :
    (!now && after).toNat + (now && !last).toNat =
      (read && now && !last).toNat + (after && !(if read then now else last)).toNat +
        ((after != now) && (last != now)).toNat := by
  revert now after read last
  decide

/-- No raise is lost and none is counted twice. -/
theorem raised_eq (readOnly : ∀ k, reads k = true → level (k + 1) = level k) (k : ℕ) :
    (level 0).toNat + times (raisedAt level) k =
      times (seenAt level reads) k + (waitingAt level reads k).toNat +
        times (missedAt level reads) k := by
  induction k with
  | zero => simp [waitingAt, known]
  | succ k ih =>
    have balance := step_balance _ _ _ (known level reads k) (readOnly k)
    rw [times_succ, times_succ, times_succ]
    simp only [waitingAt, raisedAt, seenAt, missedAt, known] at ih balance ⊢
    omega

end RampMetering.Polling
