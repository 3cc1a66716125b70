import Mathlib.Algebra.BigOperators.Group.List.Basic
import Mathlib.Algebra.Order.BigOperators.Group.List
import Mathlib.Algebra.Order.Ring.Int
import Mathlib.Data.List.DropRight

/-! Runs of a list between its separators, and sums over them in which the run that reaches the
end of the list may weigh differently: it is still open, the others were closed by a separator. -/

namespace RampMetering.Segments

variable {α M : Type*} (sep : α → Bool)

def openRun (l : List α) : List α := l.rtakeWhile fun x => !sep x

def runs (l : List α) : List (List α) := (l.splitOnP sep).filter fun w => !w.isEmpty

def total [AddCommMonoid M] (closed opened : List α → M) (l : List α) : M :=
  ((l.splitOnP sep).dropLast.map closed).sum + opened (openRun sep l)

variable {sep}

theorem openRun_of_forall {l : List α} (inside : ∀ x ∈ l, sep x = false) : openRun sep l = l := by
  rw [openRun, List.rtakeWhile_eq_self_iff]
  simpa using inside

theorem openRun_append_cons (xs ys : List α) {z : α} (hz : sep z = true) :
    openRun sep (xs ++ z :: ys) = openRun sep ys := by
  induction ys using List.reverseRecOn with
  | nil =>
    rw [openRun, List.rtakeWhile_concat_neg _ _ _ (by simp [hz])]
    rfl
  | append_singleton ys y ih =>
    rw [openRun] at ih
    rw [openRun, openRun, ← List.cons_append, ← List.append_assoc, List.rtakeWhile_concat,
      List.rtakeWhile_concat, ih, openRun]

theorem not_sep_of_mem_openRun {l : List α} {x : α} (member : x ∈ openRun sep l) :
    sep x = false := by
  simpa using List.mem_rtakeWhile_imp member

theorem exists_last_sep {l : List α} {z : α} (member : z ∈ l) (hz : sep z = true) :
    ∃ xs y, sep y = true ∧ l = xs ++ y :: openRun sep l := by
  have whole : l.rdropWhile (fun x => !sep x) ++ openRun sep l = l :=
    List.rdropWhile_append_rtakeWhile
  have some : l.rdropWhile (fun x => !sep x) ≠ [] := by
    intro none
    rw [none, List.nil_append] at whole
    rw [← whole] at member
    exact absurd (hz.symm.trans (not_sep_of_mem_openRun member)) (by simp)
  have last := List.rdropWhile_last_not (fun x => !sep x) l some
  refine ⟨(l.rdropWhile fun x => !sep x).dropLast, (l.rdropWhile fun x => !sep x).getLast some,
    by simpa using last, ?_⟩
  rw [← List.singleton_append, ← List.append_assoc, List.dropLast_append_getLast some, whole]

theorem splitOnP_last_sep {l : List α} {z : α} (member : z ∈ l) (hz : sep z = true) :
    ∃ xs y, sep y = true ∧ l = xs ++ y :: openRun sep l ∧
      l.splitOnP sep = xs.splitOnP sep ++ [openRun sep l] := by
  obtain ⟨xs, y, hy, cut⟩ := exists_last_sep member hz
  refine ⟨xs, y, hy, cut, ?_⟩
  conv_lhs => rw [cut]
  rw [List.splitOnP_append_cons xs _ hy,
    List.splitOnP_eq_singleton fun x => not_sep_of_mem_openRun]

theorem splitOnP_eq_concat (l : List α) :
    l.splitOnP sep = (l.splitOnP sep).dropLast ++ [openRun sep l] := by
  by_cases inside : ∀ x ∈ l, sep x = false
  · rw [openRun_of_forall inside, List.splitOnP_eq_singleton inside]
    rfl
  · push Not at inside
    obtain ⟨z, member, hz⟩ := inside
    obtain ⟨xs, y, -, -, split⟩ := splitOnP_last_sep member (by simpa using hz)
    rw [split, List.dropLast_concat]

theorem openRun_mem_splitOnP (l : List α) : openRun sep l ∈ l.splitOnP sep := by
  rw [splitOnP_eq_concat]
  simp

/-- `w` lies in `l` between separators or ends of the list. -/
def Bounded (sep : α → Bool) (l w : List α) : Prop :=
  ∃ before after, l = before ++ (w ++ after) ∧ (∀ x ∈ before.getLast?, sep x = true) ∧
    ∀ x ∈ after.head?, sep x = true

theorem bounded_of_mem_splitOnP {l w : List α} (member : w ∈ l.splitOnP sep) :
    (∀ x ∈ w, sep x = false) ∧ Bounded sep l w := by
  by_cases inside : ∀ x ∈ l, sep x = false
  · rw [List.splitOnP_eq_singleton inside, List.mem_singleton] at member
    subst member
    exact ⟨inside, [], [], by simp⟩
  · push Not at inside
    obtain ⟨z, hz, sepz⟩ := inside
    obtain ⟨xs, y, hy, cut, split⟩ := splitOnP_last_sep hz (by simpa using sepz)
    rw [split, List.mem_append, List.mem_singleton] at member
    rcases member with earlier | rfl
    · have shorter : xs.length < l.length := by
        rw [cut, List.length_append, List.length_cons]
        omega
      obtain ⟨clean, before, after, whole, left, right⟩ := bounded_of_mem_splitOnP earlier
      refine ⟨clean, before, after ++ y :: openRun sep l, ?_, left, ?_⟩
      · rw [← List.append_assoc w, ← List.append_assoc, ← whole]
        exact cut
      · cases after with
        | nil => simpa using hy
        | cons x after => simpa using right
    · refine ⟨fun x => not_sep_of_mem_openRun, xs ++ [y], [], ?_, by simpa using hy, by simp⟩
      rw [List.append_nil, List.append_assoc]
      exact cut
termination_by l.length

theorem mem_splitOnP_of_bounded {l w : List α} (clean : ∀ x ∈ w, sep x = false)
    (bounded : Bounded sep l w) : w ∈ l.splitOnP sep := by
  obtain ⟨before, after, rfl, left, right⟩ := bounded
  have first : w ∈ (w ++ after).splitOnP sep := by
    cases after with
    | nil => simp [List.splitOnP_eq_singleton clean]
    | cons y after =>
      rw [List.splitOnP_append_cons_of_forall_mem clean y (by simpa using right)]
      exact List.mem_cons_self ..
  induction before using List.reverseRecOn with
  | nil => exact first
  | append_singleton before z _ =>
    rw [List.append_assoc, List.singleton_append,
      List.splitOnP_append_cons _ _ (by simpa using left)]
    exact List.mem_append_right _ first

theorem mem_runs_iff {l w : List α} :
    w ∈ runs sep l ↔ w ≠ [] ∧ (∀ x ∈ w, sep x = false) ∧ Bounded sep l w := by
  rw [runs, List.mem_filter]
  constructor
  · rintro ⟨member, some⟩
    exact ⟨by simpa using some, bounded_of_mem_splitOnP member⟩
  · rintro ⟨some, clean, bounded⟩
    exact ⟨mem_splitOnP_of_bounded clean bounded, by simpa using some⟩

section total

variable [AddCommMonoid M] (closed opened : List α → M)

theorem total_of_forall {l : List α} (inside : ∀ x ∈ l, sep x = false) :
    total sep closed opened l = opened l := by
  rw [total, List.splitOnP_eq_singleton inside, openRun_of_forall inside]
  exact zero_add _

theorem total_same (l : List α) :
    total sep closed closed l = ((l.splitOnP sep).map closed).sum := by
  conv_rhs => rw [splitOnP_eq_concat]
  rw [total, List.map_append, List.sum_append, List.map_singleton, List.sum_singleton]

theorem total_append_cons (xs ys : List α) {z : α} (hz : sep z = true) :
    total sep closed opened (xs ++ z :: ys) =
      total sep closed closed xs + total sep closed opened ys := by
  rw [total_same, total, List.splitOnP_append_cons _ _ hz, openRun_append_cons _ _ hz,
    List.dropLast_append_of_ne_nil (List.splitOnP_ne_nil _ _), List.map_append, List.sum_append,
    add_assoc]
  rfl

theorem total_skip (empty : closed [] = 0) {zs : List α} (all : ∀ z ∈ zs, sep z = true)
    (l : List α) : total sep closed opened (zs ++ l) = total sep closed opened l := by
  induction zs with
  | nil => rfl
  | cons z zs ih =>
    have first := total_append_cons closed opened [] (zs ++ l) (all z (List.mem_cons_self ..))
    rw [List.nil_append] at first
    rw [List.cons_append, first, total_of_forall closed closed (by simp), empty, zero_add,
      ih fun y hy => all y (List.mem_cons_of_mem _ hy)]

theorem sum_runs (f : List α → M) (empty : f [] = 0) (l : List α) :
    ((l.splitOnP sep).map f).sum = ((runs sep l).map f).sum := by
  unfold runs
  induction l.splitOnP sep with
  | nil => rfl
  | cons w ws ih =>
    cases w with
    | nil => simp [empty, ih]
    | cons x w => simp [ih]

end total

theorem total_le_total [AddCommMonoid M] [PartialOrder M] [IsOrderedAddMonoid M]
    {closed opened closed' opened' : List α → M} {l : List α}
    (closer : ∀ w ∈ l.splitOnP sep, closed w ≤ closed' w)
    (opener : ∀ w ∈ l.splitOnP sep, opened w ≤ opened' w) :
    total sep closed opened l ≤ total sep closed' opened' l :=
  add_le_add
    (List.sum_le_sum fun w hw => closer w (List.dropLast_subset _ hw))
    (opener _ (openRun_mem_splitOnP l))

end RampMetering.Segments
