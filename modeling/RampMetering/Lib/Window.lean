import Mathlib.Data.List.Basic
import Mathlib.Data.List.Range
import Mathlib.Order.Lattice

/-! The windows that marked steps cut a run into, and the rising edges of a sampled level.
`pending mark k` lists the steps before `k` since the last marked one, `window mark k` the
same with `k` itself. A marked step closes its window: it belongs to it and to no later one. -/

namespace RampMetering.Window

variable {mark : ℕ → Bool} {k : ℕ}

def pending (mark : ℕ → Bool) (k : ℕ) : List ℕ :=
  (List.range k).filter fun j => decide (∀ i < k, j ≤ i → mark i = false)

def window (mark : ℕ → Bool) (k : ℕ) : List ℕ := pending mark k ++ [k]

theorem mem_pending {j : ℕ} :
    j ∈ pending mark k ↔ j < k ∧ ∀ i < k, j ≤ i → mark i = false := by
  simp [pending]

@[simp] theorem pending_zero (mark : ℕ → Bool) : pending mark 0 = [] := rfl

@[simp] theorem window_zero (mark : ℕ → Bool) : window mark 0 = [0] := rfl

theorem pending_succ_of_mark (h : mark k = true) : pending mark (k + 1) = [] := by
  rw [List.eq_nil_iff_forall_not_mem]
  intro j hj
  have ⟨hjk, all⟩ := mem_pending.mp hj
  have := all k (by omega) (by omega)
  simp [h] at this

theorem pending_succ_of_not_mark (h : mark k = false) :
    pending mark (k + 1) = window mark k := by
  have same : ∀ j, (∀ i < k + 1, j ≤ i → mark i = false) ↔ ∀ i < k, j ≤ i → mark i = false := by
    intro j
    constructor
    · exact fun all i hi hj => all i (by omega) hj
    · intro all i hi hj
      rcases Nat.lt_succ_iff_lt_or_eq.mp hi with hi | rfl
      · exact all i hi hj
      · exact h
  have self : ∀ i < k, k ≤ i → mark i = false := by omega
  have last : [k].filter (fun j => decide (∀ i < k, j ≤ i → mark i = false)) = [k] := by
    rw [List.filter_eq_self]
    intro j hj
    obtain rfl := List.mem_singleton.mp hj
    exact decide_eq_true self
  simp only [pending, window, same, List.range_succ, List.filter_append, last]

theorem pending_succ (mark : ℕ → Bool) (k : ℕ) :
    pending mark (k + 1) = if mark k then [] else window mark k := by
  cases h : mark k
  · simpa using pending_succ_of_not_mark h
  · simpa using pending_succ_of_mark h

theorem pending_of_no_mark (h : ∀ i < k, mark i = false) : pending mark k = List.range k := by
  rw [pending, List.filter_eq_self]
  intro j _
  simpa using fun i hi _ => h i hi

@[simp] theorem window_length (mark : ℕ → Bool) (k : ℕ) :
    (window mark k).length = (pending mark k).length + 1 := by
  simp [window]

def windowStart (mark : ℕ → Bool) : ℕ → ℕ
  | 0 => 0
  | k + 1 => if mark k then k + 1 else windowStart mark k

theorem windowStart_le (mark : ℕ → Bool) (k : ℕ) : windowStart mark k ≤ k := by
  induction k with
  | zero => exact le_rfl
  | succ k ih =>
    rw [windowStart]
    split_ifs
    · exact le_rfl
    · omega

theorem mem_window_iff {j : ℕ} : j ∈ window mark k ↔ windowStart mark k ≤ j ∧ j ≤ k := by
  induction k with
  | zero => simp [windowStart]
  | succ k ih =>
    have start := windowStart_le mark k
    rw [window, pending_succ, windowStart]
    cases mark k
    · simp only [Bool.false_eq_true, if_false, List.mem_append, ih, List.mem_singleton]
      omega
    · simp only [if_true, List.nil_append, List.mem_singleton]
      omega

/-- A window is the set of steps stamped after `lo`, up to its own stamp, exactly when `lo`
separates its first step from the one before it and the next step has a later stamp. -/
theorem mem_window_iff_stamped {τ : Type*} [LinearOrder τ] {stamp : ℕ → τ} {n : ℕ}
    (mono : ∀ i j, i ≤ j → j < n → stamp i ≤ stamp j) (hk : k < n) (lo : τ) :
    (∀ j < n, j ∈ window mark k ↔ lo < stamp j ∧ stamp j ≤ stamp k) ↔
      (∀ e, e + 1 = windowStart mark k → stamp e ≤ lo) ∧ lo < stamp (windowStart mark k) ∧
        (k + 1 < n → stamp k < stamp (k + 1)) := by
  have start := windowStart_le mark k
  simp only [mem_window_iff]
  constructor
  · intro same
    have inside := (same k hk).mp ⟨start, le_rfl⟩
    refine ⟨fun e he => ?_, ((same _ (by omega)).mp ⟨le_rfl, start⟩).1, fun hn => ?_⟩
    · by_contra late
      have member := (same e (by omega)).mpr ⟨not_le.mp late, mono e k (by omega) hk⟩
      omega
    · by_contra level
      have member := (same (k + 1) hn).mpr
        ⟨inside.1.trans_le (mono k (k + 1) (by omega) hn), not_lt.mp level⟩
      omega
  · rintro ⟨before, first, after⟩ j hj
    constructor
    · rintro ⟨low, high⟩
      exact ⟨first.trans_le (mono _ j low hj), mono j k high hk⟩
    · rintro ⟨late, early⟩
      constructor
      · by_contra low
        obtain ⟨e, he⟩ : ∃ e, e + 1 = windowStart mark k := ⟨windowStart mark k - 1, by omega⟩
        exact absurd (mono j e (by omega) (by omega)) (not_le.mpr ((before e he).trans_lt late))
      · by_contra high
        have later := mono (k + 1) j (by omega) hj
        exact absurd (later.trans early) (not_le.mpr (after (by omega)))

theorem window_shift {mark' : ℕ → Bool} {j e : ℕ} (marked : mark' e = true)
    (same : ∀ i, e ≤ i → mark (j + i) = mark' i) (hek : e < k) :
    window mark (j + k) = (window mark' k).map (j + ·) := by
  induction k, hek using Nat.le_induction with
  | base =>
    have marked' : mark (j + e) = true := (same e le_rfl).trans marked
    rw [Nat.succ_eq_add_one, ← Nat.add_assoc, window, window, pending_succ_of_mark marked,
      pending_succ_of_mark marked']
    rfl
  | succ k hek ih =>
    rw [← Nat.add_assoc, window, window, pending_succ, pending_succ, same k (by omega), ih]
    cases mark' k
    · simp [Nat.add_assoc]
    · simp [Nat.add_assoc]

theorem window_length_shift_le {mark' : ℕ → Bool} {j : ℕ}
    (less : ∀ i, mark' i = false → mark (j + i) = false) (k : ℕ) :
    (window mark' k).length ≤ (window mark (j + k)).length := by
  rw [window_length, window_length]
  induction k with
  | zero => simp
  | succ k ih =>
    rw [← Nat.add_assoc, pending_succ, pending_succ]
    cases unmarked : mark' k
    · rw [less k unmarked, if_neg (by simp), if_neg (by simp), window_length, window_length]
      exact Nat.succ_le_succ ih
    · rw [if_pos rfl]
      exact Nat.succ_le_succ (Nat.zero_le _)

def isEdge (level : ℕ → Bool) : ℕ → Bool
  | 0 => level 0
  | k + 1 => level (k + 1) && !level k

end RampMetering.Window
