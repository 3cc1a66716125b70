import Mathlib.Order.Basic
import Mathlib.Order.Nat
import Mathlib.Tactic.ByContra

/-! Runs of a machine that reads one input a step and may stop.
A run is given by its inputs `ins 0, ins 1, ...`; a finite run is a prefix of one.
`run` says which state each step starts from, `Live` which steps are taken at all:
the step that stops the machine is still taken, the ones after it are not. -/

namespace RampMetering.Run

variable {σ ι : Type*}

def run (step : σ → ι → σ) (init : σ) (ins : ℕ → ι) : ℕ → σ
  | 0 => init
  | k + 1 => step (run step init ins k) (ins k)

@[simp] theorem run_zero (step : σ → ι → σ) (init : σ) (ins : ℕ → ι) :
    run step init ins 0 = init := rfl

@[simp] theorem run_succ (step : σ → ι → σ) (init : σ) (ins : ℕ → ι) (k : ℕ) :
    run step init ins (k + 1) = step (run step init ins k) (ins k) := rfl

/-- Step `k` is taken: no earlier step stopped the machine. -/
def Live (step : σ → ι → σ) (stops : σ → ι → Bool) (init : σ) (ins : ℕ → ι) (k : ℕ) : Prop :=
  ∀ j < k, stops (run step init ins j) (ins j) = false

instance (step : σ → ι → σ) (stops : σ → ι → Bool) (init : σ) (ins : ℕ → ι) (k : ℕ) :
    Decidable (Live step stops init ins k) :=
  inferInstanceAs (Decidable (∀ j < k, stops (run step init ins j) (ins j) = false))

theorem Live.of_le {step : σ → ι → σ} {stops : σ → ι → Bool} {init : σ} {ins : ℕ → ι} {j k : ℕ}
    (h : Live step stops init ins k) (hjk : j ≤ k) : Live step stops init ins j :=
  fun i hi => h i (lt_of_lt_of_le hi hjk)

def answer {ο : Type*} (step : σ → ι → σ) (stops : σ → ι → Bool) (out : σ → ι → ο)
    (init : σ) (ins : ℕ → ι) (k : ℕ) : Option ο :=
  if Live step stops init ins k then some (out (run step init ins k) (ins k)) else none

theorem answer_eq_some {ο : Type*} {step : σ → ι → σ} {stops : σ → ι → Bool} {out : σ → ι → ο}
    {init : σ} {ins : ℕ → ι} {k : ℕ} {o : ο} :
    answer step stops out init ins k = some o ↔
      Live step stops init ins k ∧ out (run step init ins k) (ins k) = o := by
  unfold answer
  split <;> simp [*]

/-- What every step keeps, every state of the run has. The property may speak of
the number of the step, hence of all inputs before it. -/
theorem run_invariant {step : σ → ι → σ} {init : σ} {ins : ℕ → ι} (P : ℕ → σ → Prop)
    (zero : P 0 init) (succ : ∀ k s, P k s → P (k + 1) (step s (ins k))) (k : ℕ) :
    P k (run step init ins k) := by
  induction k with
  | zero => exact zero
  | succ k ih => exact succ k _ ih

theorem run_invariant_from {step : σ → ι → σ} {init : σ} {ins : ℕ → ι} (P : ℕ → σ → Prop)
    (i n : ℕ) (base : P i (run step init ins i))
    (succ : ∀ k, i ≤ k → k < n → P k (run step init ins k) →
      P (k + 1) (step (run step init ins k) (ins k)))
    (k : ℕ) (hik : i ≤ k) (hkn : k ≤ n) : P k (run step init ins k) := by
  induction k, hik using Nat.le_induction with
  | base => exact base
  | succ k hik ih => exact succ k hik (by omega) (ih (by omega))

theorem run_related {σ' ι' : Type*} {step : σ → ι → σ} {step' : σ' → ι' → σ'} {init : σ}
    {init' : σ'} {ins : ℕ → ι} {ins' : ℕ → ι'} (R : σ → σ' → Prop) (zero : R init init') (k : ℕ)
    (succ : ∀ j < k, ∀ s s', R s s' → R (step s (ins j)) (step' s' (ins' j))) :
    R (run step init ins k) (run step' init' ins' k) := by
  induction k with
  | zero => exact zero
  | succ k ih => exact succ k (Nat.lt_succ_self k) _ _ (ih fun j hj => succ j (by omega))

/-- Steps that spend a bounded resource cannot follow each other for ever: among any
`bound + 1` consecutive steps there is one that does not spend. -/
theorem exists_not_spending (step : σ → ι → σ) (init : σ) (ins : ℕ → ι)
    (resource : σ → ℤ) (bound : ℤ) (spends : σ → ι → Prop)
    (le_bound : ∀ k, resource (run step init ins k) ≤ bound)
    (spend : ∀ k, spends (run step init ins k) (ins k) →
      1 ≤ resource (run step init ins k) ∧
        resource (run step init ins (k + 1)) ≤ resource (run step init ins k) - 1) (k : ℕ) :
    ∃ j, k ≤ j ∧ (j : ℤ) ≤ k + max bound 0 ∧ ¬ spends (run step init ins j) (ins j) := by
  by_contra! all
  have spent : ∀ n : ℕ, (n : ℤ) ≤ max bound 0 + 1 →
      resource (run step init ins (k + n)) ≤ bound - n := by
    intro n
    induction n with
    | zero => simpa using fun _ => le_bound k
    | succ n ih =>
      intro hn
      have before := ih (by omega)
      have once := spend (k + n) (all (k + n) (by omega) (by omega))
      rw [← Nat.add_assoc]
      omega
  have least := (spend (k + (max bound 0).toNat)
    (all _ (by omega) (by omega))).1
  have most := spent (max bound 0).toNat (by omega)
  omega

end RampMetering.Run
