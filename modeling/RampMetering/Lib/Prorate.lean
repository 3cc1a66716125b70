import Mathlib.Algebra.Order.Field.Basic
import Mathlib.Order.Monotone.Basic
import Mathlib.Tactic.Linarith

/-! Amounts counted since a time `t` from samples that carry a time and a volume. A sample counts
whole when the sample before it is not older than `t`, up to a tolerance; the oldest one that is
not older counts by the time from `t` on, against a nominal interval. Where samples lie further
apart than that interval, the share may exceed the whole. -/

namespace RampMetering.Prorate

variable {K : Type*} [Field K] [LinearOrder K] [IsStrictOrderedRing K]

def share (interval : K) (time vol : ℕ → K) (t : K) (i : ℕ) : K :=
  max 0 (time i - t) / interval * vol i

/-- What the samples up to `i` count since `t`. -/
def amount (interval tol : K) (time vol : ℕ → K) (t : K) : ℕ → K
  | 0 => if t - tol ≤ time 0 then share interval time vol t 0 else 0
  | i + 1 =>
    if t - tol ≤ time (i + 1) then
      (if t - tol ≤ time i then vol (i + 1) else share interval time vol t (i + 1)) +
        amount interval tol time vol t i
    else 0

/-- The volumes of the samples that repeat the time of the one before, back from sample `i`. -/
def repeats (time vol : ℕ → K) : ℕ → K
  | 0 => 0
  | i + 1 => if time i = time (i + 1) then vol (i + 1) + repeats time vol i else 0

omit [IsStrictOrderedRing K] in
theorem amount_of_outside {interval tol : K} {time vol : ℕ → K} {t : K} {i : ℕ}
    (outside : ¬t - tol ≤ time i) : amount interval tol time vol t i = 0 := by
  cases i with
  | zero => rw [amount, if_neg outside]
  | succ i => rw [amount, if_neg outside]

section nonneg

variable {interval tol : K} {time vol : ℕ → K} (long : 0 < interval) (nonneg : ∀ i, 0 ≤ vol i)

include long nonneg

theorem share_nonneg (t : K) (i : ℕ) : 0 ≤ share interval time vol t i :=
  mul_nonneg (div_nonneg (le_max_left _ _) long.le) (nonneg i)

theorem share_antitone {t t' : K} (earlier : t' ≤ t) (i : ℕ) :
    share interval time vol t i ≤ share interval time vol t' i := by
  refine mul_le_mul_of_nonneg_right ?_ (nonneg i)
  exact div_le_div_of_nonneg_right (max_le_max_left _ (by linarith)) long.le

theorem amount_nonneg (t : K) (i : ℕ) : 0 ≤ amount interval tol time vol t i := by
  induction i with
  | zero =>
    rw [amount]
    split_ifs
    · exact share_nonneg long nonneg t 0
    · exact le_rfl
  | succ i ih =>
    rw [amount]
    split_ifs
    · exact add_nonneg (nonneg _) ih
    · exact add_nonneg (share_nonneg long nonneg t _) ih
    · exact le_rfl

omit long in
theorem repeats_nonneg (i : ℕ) : 0 ≤ repeats time vol i := by
  induction i with
  | zero => exact le_rfl
  | succ i ih =>
    rw [repeats]
    split_ifs
    · exact add_nonneg (nonneg _) ih
    · exact le_rfl

theorem repeats_le_amount {t : K} {i : ℕ} (inside : t - tol ≤ time i) :
    repeats time vol i ≤ amount interval tol time vol t i := by
  induction i with
  | zero => exact amount_nonneg long nonneg t 0
  | succ i ih =>
    rw [repeats]
    split_ifs with same
    · rw [amount, if_pos inside, if_pos (same ▸ inside)]
      exact add_le_add_right (ih (same ▸ inside)) _
    · exact amount_nonneg long nonneg t _

end nonneg

section law

variable {interval tol : K} {time vol : ℕ → K}

def NoExcess (interval tol : K) (time vol : ℕ → K) (i : ℕ) : Prop :=
  (time (i + 1) - time i - tol) / interval * vol (i + 1) ≤ vol (i + 1) + repeats time vol i

section whole

variable {t t' : K} {i : ℕ}

theorem share_lt (long : 0 < interval) (nonneg : ∀ i, 0 ≤ vol i)
    (outside : ¬t - tol ≤ time i) :
    share interval time vol t (i + 1) ≤
      max 0 ((time (i + 1) - time i - tol) / interval * vol (i + 1)) := by
  rw [share]
  rcases le_total (time (i + 1) - t) 0 with past | reach
  · rw [max_eq_left past, zero_div, zero_mul]
    exact le_max_left _ _
  · rw [max_eq_right reach]
    refine le_max_of_le_right (mul_le_mul_of_nonneg_right ?_ (nonneg _))
    exact div_le_div_of_nonneg_right (by linarith [not_le.mp outside]) long.le

theorem share_le_whole (long : 0 < interval) (nonneg : ∀ i, 0 ≤ vol i)
    (noExcess : NoExcess interval tol time vol i) (outside : ¬t - tol ≤ time i)
    (inside : t' - tol ≤ time i) :
    share interval time vol t (i + 1) ≤ vol (i + 1) + amount interval tol time vol t' i := by
  have together : repeats time vol i ≤ amount interval tol time vol t' i :=
    repeats_le_amount long nonneg inside
  refine (share_lt long nonneg outside).trans (max_le ?_ ?_)
  · exact add_nonneg (nonneg _) (amount_nonneg long nonneg t' i)
  · exact noExcess.trans (add_le_add_right together _)

end whole

variable (long : 0 < interval) (nonneg : ∀ i, 0 ≤ vol i)

include long nonneg

theorem amount_antitone {n : ℕ} (noExcess : ∀ i < n, NoExcess interval tol time vol i) {t t' : K}
    (earlier : t' ≤ t) :
    amount interval tol time vol t n ≤ amount interval tol time vol t' n := by
  induction n with
  | zero =>
    rw [amount, amount]
    split_ifs with inside inside'
    · exact share_antitone long nonneg earlier 0
    · exact absurd (by linarith) inside'
    · exact share_nonneg long nonneg t' 0
    · exact le_rfl
  | succ i ih =>
    have before := ih fun j hj => noExcess j (by omega)
    by_cases inside : t - tol ≤ time (i + 1)
    · have inside' : t' - tol ≤ time (i + 1) := by linarith
      rw [amount, amount, if_pos inside, if_pos inside']
      by_cases whole : t - tol ≤ time i
      · rw [if_pos whole, if_pos (by linarith)]
        exact add_le_add_right before _
      · rw [if_neg whole]
        by_cases whole' : t' - tol ≤ time i
        · rw [if_pos whole', amount_of_outside whole, add_zero]
          exact share_le_whole long nonneg (noExcess i (by omega)) whole whole'
        · rw [if_neg whole']
          exact add_le_add (share_antitone long nonneg earlier _) before
    · rw [amount, if_neg inside]
      exact amount_nonneg long nonneg t' _

omit long nonneg in
theorem amount_above (ordered : Monotone time) {i n : ℕ} (later : i ≤ n) {t t' : K}
    (inside : t - tol ≤ time i) (inside' : t' - tol ≤ time i) :
    amount interval tol time vol t n - amount interval tol time vol t i =
      amount interval tol time vol t' n - amount interval tol time vol t' i := by
  induction n, later using Nat.le_induction with
  | base => rw [sub_self, sub_self]
  | succ n later ih =>
    have reach := inside.trans (ordered later)
    have reach' := inside'.trans (ordered later)
    have next : time n ≤ time (n + 1) := ordered (Nat.le_succ n)
    rw [amount, amount, if_pos (reach.trans next), if_pos (reach'.trans next), if_pos reach,
      if_pos reach']
    linarith

omit long nonneg in
/-- At the moment when sample `i` comes in it brings its repeats and nothing else. -/
theorem amount_at (ordered : Monotone time) (tolerant : 0 ≤ tol) (i : ℕ) :
    amount interval tol time vol (time i + tol) i = repeats time vol i := by
  have bare : ∀ j ≤ i, share interval time vol (time i + tol) j = 0 := by
    intro j before
    have past : time j - (time i + tol) ≤ 0 := by linarith [ordered before]
    rw [share, max_eq_left past, zero_div, zero_mul]
  have reach : time i + tol - tol = time i := add_sub_cancel_right _ _
  induction i with
  | zero =>
    rw [amount, if_pos reach.le]
    exact bare 0 le_rfl
  | succ i ih =>
    rw [amount, if_pos reach.le, repeats, reach]
    by_cases same : time i = time (i + 1)
    · rw [if_pos same.ge, if_pos same, ← same]
      refine congrArg (vol (i + 1) + ·) (ih (fun j before => ?_) (add_sub_cancel_right _ _))
      rw [same]
      exact bare j (by omega)
    · have apart : ¬time (i + 1) ≤ time i := fun back =>
        same (le_antisymm (ordered (Nat.le_succ i)) back)
      rw [if_neg apart, if_neg same, bare (i + 1) le_rfl, zero_add]
      exact amount_of_outside (by rw [reach]; exact apart)

omit nonneg in
variable (time) in
theorem exists_share_eq {i : ℕ} {m : K} (positive : 0 ≤ m) (some : 0 < vol i) :
    ∃ t, time i - t = m / vol i * interval ∧ share interval time vol t i = m := by
  refine ⟨time i - m / vol i * interval, sub_sub_cancel _ _, ?_⟩
  have reach : 0 ≤ m / vol i * interval := mul_nonneg (div_nonneg positive some.le) long.le
  rw [share, sub_sub_cancel, max_eq_right reach, mul_div_cancel_right₀ _ long.ne',
    div_mul_cancel₀ _ some.ne']

theorem noExcess_of_antitone (ordered : Monotone time) (tolerant : 0 ≤ tol) {n : ℕ}
    (law : ∀ t' t, t' ≤ t → t ≤ time n →
      amount interval tol time vol t n ≤ amount interval tol time vol t' n)
    {i : ℕ} (below : i < n) : NoExcess interval tol time vol i := by
  by_contra excess
  rw [NoExcess, not_le] at excess
  obtain ⟨m, low, high⟩ := exists_between excess
  have positive : 0 < m :=
    (add_nonneg (nonneg _) (repeats_nonneg nonneg i)).trans_lt low
  have some : 0 < vol (i + 1) := by
    refine lt_of_le_of_ne (nonneg _) fun zero => ?_
    rw [← zero, mul_zero] at high
    exact absurd high (not_lt.mpr positive.le)
  obtain ⟨t, back, shared⟩ := exists_share_eq time long positive.le some
  have elapsed : 0 < time (i + 1) - t := back ▸ mul_pos (div_pos positive some) long
  have after : time i + tol < t := by
    rw [div_mul_eq_mul_div, lt_div_iff₀ long, ← div_lt_iff₀ some, mul_div_right_comm,
      ← back] at high
    linarith
  have next : time i ≤ time (i + 1) := ordered (Nat.le_succ i)
  have reach : t - tol ≤ time (i + 1) := by linarith
  have same : amount interval tol time vol t n - amount interval tol time vol t (i + 1) =
      amount interval tol time vol (time i + tol) n -
        amount interval tol time vol (time i + tol) (i + 1) :=
    amount_above ordered below reach (by linarith)
  have kept := law (time i + tol) t after.le (by linarith [ordered below])
  have alone : amount interval tol time vol t (i + 1) = m := by
    rw [amount, if_pos reach, if_neg (by linarith), amount_of_outside (by linarith), add_zero,
      shared]
  have whole : amount interval tol time vol (time i + tol) (i + 1) =
      vol (i + 1) + repeats time vol i := by
    rw [amount, if_pos (by linarith), if_pos (by linarith), amount_at ordered tolerant]
  linarith

end law

end RampMetering.Prorate
