import Mathlib.Data.Fin.Tuple.Basic

/-! Shift registers: the last `n + 1` values of a stream, oldest first. A push drops the
oldest value. `latest` says what a register holds after a list of pushes: the values from
the end of the list, and a default where the list is too short. -/

namespace RampMetering.Register

variable {α β : Type*} {n : ℕ}

def push (x : Fin (n + 1) → α) (v : α) : Fin (n + 1) → α := Fin.snoc (Fin.tail x) v

@[simp] theorem push_last (x : Fin (n + 1) → α) (v : α) : push x v (Fin.last n) = v := by
  simp [push]

@[simp] theorem push_castSucc (x : Fin (n + 1) → α) (v : α) (i : Fin n) :
    push x v i.castSucc = x i.succ := by
  simp [push, Fin.tail]

theorem push_comp (f : α → β) (x : Fin (n + 1) → α) (v : α) :
    push (fun i => f (x i)) (f v) = fun i => f (push x v i) := by
  funext i
  refine Fin.lastCases ?_ (fun i => ?_) i
  · simp
  · simp

theorem push_eq_self_iff (x : Fin (n + 1) → α) (v : α) : push x v = x ↔ ∀ i, x i = v := by
  constructor
  · intro same i
    induction i using Fin.reverseInduction with
    | last => rw [← same, push_last]
    | cast i ih => rw [← same, push_castSucc, ih]
  · intro all
    funext i
    refine Fin.lastCases ?_ (fun i => ?_) i
    · rw [push_last, all]
    · rw [push_castSucc, all, all]

def latest (n : ℕ) (d : α) (xs : List α) : Fin (n + 1) → α :=
  fun i => (xs.reverse[n - i]?).getD d

@[simp] theorem latest_nil (d : α) : latest n d [] = fun _ => d := rfl

theorem latest_concat (d : α) (xs : List α) (v : α) :
    latest n d (xs ++ [v]) = push (latest n d xs) v := by
  funext i
  refine Fin.lastCases ?_ (fun i => ?_) i
  · simp [latest]
  · have index : n - i = n - (i + 1) + 1 := by omega
    simp [latest, index]

theorem iterate_push_apply (x : Fin (n + 1) → α) (v : α) (k : ℕ) (i : Fin (n + 1)) :
    (fun y => push y v)^[k] x i = if h : i + k < n + 1 then x ⟨i + k, h⟩ else v := by
  induction k generalizing i with
  | zero =>
    have inside : (i : ℕ) + 0 < n + 1 := i.isLt
    rw [dif_pos inside]
    rfl
  | succ k ih =>
    rw [Function.iterate_succ_apply']
    refine Fin.lastCases ?_ (fun i => ?_) i
    · simp
    · rw [push_castSucc, ih]
      have shift : ((i.succ : Fin (n + 1)) : ℕ) + k = i.castSucc + (k + 1) := by
        simp
        omega
      simp only [shift]

end RampMetering.Register
