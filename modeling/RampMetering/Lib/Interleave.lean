import RampMetering.Lib.Run

/-! Processes that take turns on one shared state; `who` tells whose step a step is.
The rely-guarantee rule gives every process its invariant over all orders of steps. A register
that is copied, changed and written back behaves as if it were changed in place exactly while
no write-back tells the copy from what stands in the register. -/

namespace RampMetering.Interleave
open Run

variable {σ ε ι V : Type*}

section relyGuarantee

/-- A process keeps its invariant in its own steps and promises what they do to the state;
what the others promise is all that an invariant has to survive. -/
structure RelyGuarantee (step : σ → ε → σ) (who : ε → ι) (inv : ι → σ → Prop)
    (guar : ι → σ → σ → Prop) : Prop where
  keeps : ∀ s e, (∀ i, inv i s) → inv (who e) (step s e)
  guarantees : ∀ s e, (∀ i, inv i s) → guar (who e) s (step s e)
  relies : ∀ i j, i ≠ j → ∀ s s', (∀ i, inv i s) → guar j s s' → inv i s'

variable {step : σ → ε → σ} {who : ε → ι} {inv : ι → σ → Prop} {guar : ι → σ → σ → Prop}

theorem RelyGuarantee.invariant_step (h : RelyGuarantee step who inv guar) {s : σ} {e : ε}
    (now : ∀ i, inv i s) (i : ι) : inv i (step s e) := by
  by_cases mine : i = who e
  · subst mine
    exact h.keeps s e now
  · exact h.relies i (who e) mine s _ now (h.guarantees s e now)

theorem RelyGuarantee.invariant_run (h : RelyGuarantee step who inv guar) {init : σ} {ins : ℕ → ε}
    (zero : ∀ i, inv i init) (k : ℕ) : ∀ i, inv i (run step init ins k) := by
  induction k with
  | zero => exact zero
  | succ k ih => exact fun i => h.invariant_step ih i

end relyGuarantee

section writeBack

inductive Effect (V : Type*)
  | keep
  | write (v : V)
  | writeBack (f : V → V)

def Effect.apply (copy current : V) : Effect V → V
  | .keep => current
  | .write v => v
  | .writeBack f => f copy

variable (step : σ → ε → σ) (init : σ) (ins : ℕ → ε) (value copy : σ → V)
  (effect : σ → ε → Effect V)

/-- The register if each write-back were one atomic change of what stands there. -/
def atomically : ℕ → V
  | 0 => value init
  | k + 1 => (effect (run step init ins k) (ins k)).apply (atomically k) (atomically k)

def Undisturbed (k : ℕ) : Prop :=
  ∀ f, effect (run step init ins k) (ins k) = .writeBack f →
    f (copy (run step init ins k)) = f (value (run step init ins k))

theorem value_eq_atomically_iff
    (acts : ∀ k, value (run step init ins (k + 1)) =
      (effect (run step init ins k) (ins k)).apply (copy (run step init ins k))
        (value (run step init ins k))) (n : ℕ) :
    (∀ k ≤ n, value (run step init ins k) = atomically step init ins value effect k) ↔
      ∀ k < n, Undisturbed step init ins value copy effect k := by
  induction n with
  | zero =>
    constructor
    · intro _ k hk
      omega
    · intro _ k hk
      rw [Nat.le_zero.mp hk]
      rfl
  | succ n ih =>
    constructor
    · intro same k hk
      rcases Nat.lt_succ_iff_lt_or_eq.mp hk with earlier | rfl
      · exact ih.mp (fun j hj => same j (by omega)) k earlier
      · intro f back
        have before := same k (by omega)
        have after := same (k + 1) le_rfl
        rw [acts, atomically, back, ← before] at after
        exact after
    · intro undisturbed k hk
      have earlier := ih.mpr fun j hj => undisturbed j (by omega)
      rcases Nat.le_succ_iff.mp hk with small | rfl
      · exact earlier k small
      · rw [acts, atomically, ← earlier n le_rfl]
        cases action : effect (run step init ins n) (ins n) with
        | keep => rfl
        | write v => rfl
        | writeBack f => exact undisturbed n (Nat.lt_succ_self n) f action

end writeBack

end RampMetering.Interleave
