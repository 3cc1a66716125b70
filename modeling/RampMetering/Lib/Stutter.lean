import RampMetering.Lib.Run
import Mathlib.Data.List.Forall2

/-! Runs with steps that change nothing an observer keeps. `moves` tells the other steps;
the states they reach are, one by one, those of a walk driven by the inputs of the moving
steps alone, as if the steps between them had not been taken. -/

namespace RampMetering.Stutter
open Run

variable {σ ι κ τ : Type*}

section walk

variable (walk : τ → κ → τ)

def iterates (a : τ) : List κ → List τ
  | [] => []
  | x :: xs => walk a x :: iterates (walk a x) xs

theorem iterates_concat (a : τ) (xs : List κ) (x : κ) :
    iterates walk a (xs ++ [x]) = iterates walk a xs ++ [walk (xs.foldl walk a) x] := by
  induction xs generalizing a with
  | nil => rfl
  | cons y xs ih => exact congrArg (walk a y :: ·) (ih (walk a y))

theorem iterates_chain (P : τ → Prop) (near : τ → τ → Prop)
    (keeps : ∀ a x, P a → P (walk a x)) (close : ∀ a x, P a → near a (walk a x)) {a : τ}
    (start : P a) (xs : List κ) :
    (∀ b ∈ iterates walk a xs, P b) ∧ List.IsChain near (a :: iterates walk a xs) := by
  induction xs generalizing a with
  | nil => exact ⟨by simp [iterates], List.IsChain.singleton a⟩
  | cons x xs ih =>
    obtain ⟨kept, chain⟩ := ih (keeps a x start)
    refine ⟨fun b hb => ?_, List.isChain_cons_cons.mpr ⟨close a x start, chain⟩⟩
    rcases List.mem_cons.mp hb with rfl | later
    · exact keeps a x start
    · exact kept b later

end walk

variable (step : σ → ι → σ) (moves : σ → ι → Bool) (drive : ι → κ) (init : σ) (ins : ℕ → ι)

def moving (n : ℕ) : List ℕ :=
  (List.range n).filter fun k => moves (run step init ins k) (ins k)

def visited (n : ℕ) : List σ :=
  (moving step moves init ins n).map fun k => run step init ins (k + 1)

def driven (n : ℕ) : List κ := (moving step moves init ins n).map fun k => drive (ins k)

theorem moving_succ (n : ℕ) :
    moving step moves init ins (n + 1) =
      moving step moves init ins n ++
        if moves (run step init ins n) (ins n) then [n] else [] := by
  rw [moving, List.range_succ, List.filter_append]
  cases moved : moves (run step init ins n) (ins n)
  · simp [moving, moved]
  · simp [moving, moved]

/-- Steps that do not move keep the relation to the walk, and the others take its next step. -/
theorem simulation (walk : τ → κ → τ) {a : τ} (R : σ → τ → Prop) (zero : R init a) (n : ℕ)
    (still : ∀ k < n, moves (run step init ins k) (ins k) = false → ∀ b,
      R (run step init ins k) b → R (run step init ins (k + 1)) b)
    (move : ∀ k < n, moves (run step init ins k) (ins k) = true → ∀ b,
      R (run step init ins k) b → R (run step init ins (k + 1)) (walk b (drive (ins k)))) :
    R (run step init ins n) ((driven step moves drive init ins n).foldl walk a) ∧
      List.Forall₂ R (visited step moves init ins n)
        (iterates walk a (driven step moves drive init ins n)) := by
  induction n with
  | zero => exact ⟨zero, List.Forall₂.nil⟩
  | succ n ih =>
    obtain ⟨now, all⟩ := ih (fun k hk => still k (by omega)) (fun k hk => move k (by omega))
    have last := moving_succ step moves init ins n
    cases moved : moves (run step init ins n) (ins n)
    · rw [moved, if_neg (by simp), List.append_nil] at last
      rw [driven, visited, last]
      exact ⟨still n (Nat.lt_succ_self n) moved _ now, all⟩
    · rw [moved, if_pos rfl] at last
      have next := move n (Nat.lt_succ_self n) moved _ now
      rw [driven, visited, last, List.map_append, List.map_append]
      refine ⟨?_, ?_⟩
      · rw [List.foldl_append]
        exact next
      · simp only [List.map_cons, List.map_nil]
        rw [iterates_concat]
        exact List.rel_append all (List.Forall₂.cons next List.Forall₂.nil)

end RampMetering.Stutter
