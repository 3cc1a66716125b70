import Mathlib.Algebra.BigOperators.Group.List.Basic
import Mathlib.Algebra.Order.Group.Lattice
import Mathlib.Algebra.Order.Group.MinMax
import Mathlib.Data.List.Induction

/-! Walks kept between two walls. A step adds its increment and stops at the walls; after any
number of steps the end is the start moved by the sum of the increments and held between
the ends of the two walks that set out from the walls. So a start is forgotten as
soon as these two have met. -/

namespace RampMetering.Reflect

section clamp

variable {α : Type*} [LinearOrder α] {lo hi : α}

def clamp (lo hi x : α) : α := min hi (max x lo)

theorem clamp_mono {x y : α} (h : x ≤ y) : clamp lo hi x ≤ clamp lo hi y :=
  min_le_min_left _ (max_le_max_right _ h)

theorem le_clamp (walls : lo ≤ hi) (x : α) : lo ≤ clamp lo hi x :=
  le_min walls (le_max_right _ _)

theorem clamp_le (x : α) : clamp lo hi x ≤ hi := min_le_left _ _

theorem clamp_of_mem {x : α} (low : lo ≤ x) (high : x ≤ hi) : clamp lo hi x = x := by
  rw [clamp, max_eq_left low, min_eq_right high]

theorem clamp_min (x y : α) : clamp lo hi (min x y) = min (clamp lo hi x) (clamp lo hi y) :=
  Monotone.map_min fun _ _ => clamp_mono

theorem clamp_max (x y : α) : clamp lo hi (max x y) = max (clamp lo hi x) (clamp lo hi y) :=
  Monotone.map_max fun _ _ => clamp_mono

theorem clamp_between (walls : lo ≤ hi) (a b x : α) :
    min (clamp lo hi a) (max (clamp lo hi x) (clamp lo hi b)) =
      min (clamp lo hi a) (max x (clamp lo hi b)) := by
  rcases le_total x lo with low | low
  · have wall : clamp lo hi x ≤ clamp lo hi b := by
      rw [clamp, max_eq_right low, min_eq_right walls]
      exact le_clamp walls b
    rw [max_eq_right wall, max_eq_right (low.trans (le_clamp walls b))]
  · rcases le_total x hi with high | high
    · rw [clamp_of_mem low high]
    · have wall : clamp lo hi x = hi := by rw [clamp, max_eq_left low, min_eq_left high]
      rw [wall, min_eq_left ((clamp_le a).trans (le_max_left _ _)),
        min_eq_left ((clamp_le a).trans (high.trans (le_max_left _ _)))]

end clamp

variable {α : Type*} [AddCommGroup α] [LinearOrder α] [IsOrderedAddMonoid α] {lo hi : α}

def reflect (lo hi q x : α) : α := clamp lo hi (q + x)

def reflectAll (lo hi q : α) (xs : List α) : α := xs.foldl (reflect lo hi) q

omit [IsOrderedAddMonoid α] in
theorem reflectAll_concat (q x : α) (xs : List α) :
    reflectAll lo hi q (xs ++ [x]) = clamp lo hi (reflectAll lo hi q xs + x) :=
  List.foldl_concat _ _ _ _

theorem reflectAll_mono {q q' : α} (h : q ≤ q') (xs : List α) :
    reflectAll lo hi q xs ≤ reflectAll lo hi q' xs := by
  induction xs generalizing q q' with
  | nil => exact h
  | cons x xs ih => exact ih (clamp_mono (add_le_add_left h x))

omit [IsOrderedAddMonoid α] in
theorem reflectAll_mem (walls : lo ≤ hi) {q : α} (low : lo ≤ q) (high : q ≤ hi) (xs : List α) :
    lo ≤ reflectAll lo hi q xs ∧ reflectAll lo hi q xs ≤ hi := by
  induction xs generalizing q with
  | nil => exact ⟨low, high⟩
  | cons x xs ih => exact ih (le_clamp walls _) (clamp_le _)

theorem reflectAll_clamp (walls : lo ≤ hi) (y : α) (xs : List α) :
    reflectAll lo hi (clamp lo hi y) xs =
      min (reflectAll lo hi hi xs) (max (y + xs.sum) (reflectAll lo hi lo xs)) := by
  induction xs using List.reverseRecOn with
  | nil => rw [List.sum_nil, add_zero]; rfl
  | append_singleton xs x ih =>
    rw [reflectAll_concat, reflectAll_concat, reflectAll_concat, ih, ← min_add_add_right,
      ← max_add_add_right, clamp_min, clamp_max, clamp_between walls, List.sum_append,
      List.sum_singleton, add_assoc]

/-- The end of a walk in closed form. -/
theorem reflectAll_eq {q : α} (low : lo ≤ q) (high : q ≤ hi) (xs : List α) :
    reflectAll lo hi q xs =
      min (reflectAll lo hi hi xs) (max (q + xs.sum) (reflectAll lo hi lo xs)) := by
  have closed := reflectAll_clamp (low.trans high) q xs
  rwa [clamp_of_mem low high] at closed

theorem abs_reflectAll_sub_le (q q' : α) (xs : List α) :
    |reflectAll lo hi q xs - reflectAll lo hi q' xs| ≤ |q - q'| := by
  induction xs generalizing q q' with
  | nil => exact le_rfl
  | cons x xs ih =>
    refine (ih _ _).trans ?_
    unfold reflect clamp
    rw [min_comm hi, min_comm hi]
    refine (abs_inf_sub_inf_le_abs _ _ hi).trans ((abs_sup_sub_sup_le_abs _ _ lo).trans_eq ?_)
    rw [add_sub_add_right_eq_sub]

theorem reflectAll_eq_of_meet {q q' : α} {xs : List α}
    (meet : reflectAll lo hi lo xs = reflectAll lo hi hi xs) (low : lo ≤ q) (high : q ≤ hi)
    (low' : lo ≤ q') (high' : q' ≤ hi) :
    reflectAll lo hi q xs = reflectAll lo hi q' xs := by
  have top : reflectAll lo hi q xs = reflectAll lo hi lo xs :=
    le_antisymm ((reflectAll_mono high xs).trans_eq meet.symm) (reflectAll_mono low xs)
  have top' : reflectAll lo hi q' xs = reflectAll lo hi lo xs :=
    le_antisymm ((reflectAll_mono high' xs).trans_eq meet.symm) (reflectAll_mono low' xs)
  exact top.trans top'.symm

/-- A stretch that by itself carries from one wall to the other leaves nothing of its start. -/
theorem reflectAll_eq_of_crossing {q q' : α} {xs : List α} (crossing : hi - lo ≤ |xs.sum|)
    (low : lo ≤ q) (high : q ≤ hi) (low' : lo ≤ q') (high' : q' ≤ hi) :
    reflectAll lo hi q xs = reflectAll lo hi q' xs := by
  have walls := low.trans high
  have bottom := (reflectAll_mem walls le_rfl walls xs).1
  have top := (reflectAll_mem walls walls le_rfl xs).2
  refine reflectAll_eq_of_meet ?_ low high low' high'
  rcases abs_cases xs.sum with ⟨up, -⟩ | ⟨down, -⟩
  · have crossed : hi ≤ lo + xs.sum := sub_le_iff_le_add'.mp (crossing.trans_eq up)
    rw [reflectAll_eq le_rfl walls]
    exact min_eq_left (le_max_of_le_left (top.trans crossed))
  · have crossed : hi + xs.sum ≤ lo := by
      have back := le_neg.mp (crossing.trans_eq down)
      rw [neg_sub] at back
      exact le_sub_iff_add_le'.mp back
    rw [reflectAll_eq walls le_rfl xs, max_eq_right (crossed.trans bottom)]
    exact (min_eq_right (reflectAll_mono walls xs)).symm

end RampMetering.Reflect
