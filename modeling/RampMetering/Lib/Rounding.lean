import Mathlib.Data.Int.Log
import Mathlib.Data.Rat.Floor
import Mathlib.Tactic.Linarith
import Mathlib.Tactic.NormNum

/-! Rounded arithmetic on the rationals. A `Rounding` never turns two values round and keeps 0 and
the powers of two: exact arithmetic is one, and so is rounding to the nearest value of a binary
floating-point format, ties to even. Exponents are not bounded above. -/

namespace RampMetering

structure Rounding where
  round : ℚ → ℚ
  monotone : Monotone round
  round_zero : round 0 = 0
  round_two_pow : ∀ k : ℕ, round (2 ^ k) = 2 ^ k

namespace Rounding

def exact : Rounding where
  round := id
  monotone := monotone_id
  round_zero := rfl
  round_two_pow := fun _ => rfl

@[simp] theorem exact_round (x : ℚ) : exact.round x = x := rfl

section unit

variable (f : Rounding) {x y : ℚ}

theorem round_nonneg (nonneg : 0 ≤ x) : 0 ≤ f.round x :=
  f.round_zero ▸ f.monotone nonneg

theorem round_le_two_pow {k : ℕ} (le : x ≤ 2 ^ k) : f.round x ≤ 2 ^ k :=
  f.round_two_pow k ▸ f.monotone le

theorem round_le_one (le : x ≤ 1) : f.round x ≤ 1 := f.round_le_two_pow (k := 0) le

theorem mean_within (hx : 0 ≤ x ∧ x ≤ 1) (hy : 0 ≤ y ∧ y ≤ 1) :
    0 ≤ f.round (f.round (x + y) / 2) ∧ f.round (f.round (x + y) / 2) ≤ 1 := by
  have low : 0 ≤ f.round (x + y) := f.round_nonneg (add_nonneg hx.1 hy.1)
  have high : f.round (x + y) ≤ 2 ^ 1 := f.round_le_two_pow (by linarith [hx.2, hy.2])
  exact ⟨f.round_nonneg (by linarith), f.round_le_one (by linarith)⟩

end unit

end Rounding

/-- The nearest integer, and between two the even one. -/
def nearestEven (x : ℚ) : ℤ :=
  if Int.fract x < 1 / 2 ∨ Int.fract x = 1 / 2 ∧ Even ⌊x⌋ then ⌊x⌋ else ⌊x⌋ + 1

theorem floor_le_nearestEven (x : ℚ) : ⌊x⌋ ≤ nearestEven x := by
  unfold nearestEven
  split
  · exact le_rfl
  · omega

theorem nearestEven_le_floor (x : ℚ) : nearestEven x ≤ ⌊x⌋ + 1 := by
  unfold nearestEven
  split
  · omega
  · exact le_rfl

@[simp] theorem nearestEven_intCast (n : ℤ) : nearestEven n = n := by
  rw [nearestEven, if_pos (Or.inl (by simp)), Int.floor_intCast]

theorem nearestEven_mono {x y : ℚ} (ordered : x ≤ y) : nearestEven x ≤ nearestEven y := by
  rcases (Int.floor_mono ordered).lt_or_eq with apart | same
  · exact (nearestEven_le_floor x).trans
      ((Int.add_one_le_of_lt apart).trans (floor_le_nearestEven y))
  · have fract : Int.fract x ≤ Int.fract y := by
      rw [Int.fract, Int.fract, same]
      linarith
    unfold nearestEven
    rw [same]
    split_ifs with up down down
    · exact le_rfl
    · omega
    · -- what is rounded down at `y` is rounded down at `x`
      refine absurd ?_ up
      rcases down with below | ⟨half, even⟩
      · exact Or.inl (fract.trans_lt below)
      · rcases (half ▸ fract).lt_or_eq with below | half'
        · exact Or.inl below
        · exact Or.inr ⟨half', even⟩
    · exact le_rfl

structure Format where
  digits : ℕ
  least : ℤ
  least_nonpos : least ≤ 0
  one_le_digits : 1 ≤ digits

namespace Format

variable (F : Format)

/-- The exponent of the last place in the binade of `x`. -/
def lastPlace (x : ℚ) : ℤ := max (Int.log 2 x - (F.digits - 1)) F.least

def roundAbs (x : ℚ) : ℚ := nearestEven (x / 2 ^ F.lastPlace x) * 2 ^ F.lastPlace x

def nearest (x : ℚ) : ℚ := if 0 ≤ x then F.roundAbs x else -F.roundAbs (-x)

theorem two_zpow_div (k e : ℤ) (fine : e ≤ k) :
    (2 : ℚ) ^ k / 2 ^ e = ((2 ^ (k - e).toNat : ℤ) : ℚ) := by
  rw [← zpow_sub₀ two_ne_zero, Int.cast_pow, ← zpow_natCast, Int.toNat_of_nonneg (by omega)]
  rfl

/-- A power of two on the grid of `x` is not crossed by rounding to that grid. -/
theorem roundAbs_le {x : ℚ} {k : ℤ} (fine : F.lastPlace x ≤ k) (le : x ≤ 2 ^ k) :
    F.roundAbs x ≤ 2 ^ k := by
  have positive : (0 : ℚ) < 2 ^ F.lastPlace x := zpow_pos two_pos _
  rw [roundAbs, ← le_div_iff₀ positive, two_zpow_div k _ fine, Int.cast_le,
    ← nearestEven_intCast (2 ^ (k - F.lastPlace x).toNat), ← two_zpow_div k _ fine]
  exact nearestEven_mono (div_le_div_of_nonneg_right le positive.le)

theorem le_roundAbs {x : ℚ} {k : ℤ} (fine : F.lastPlace x ≤ k) (le : 2 ^ k ≤ x) :
    2 ^ k ≤ F.roundAbs x := by
  have positive : (0 : ℚ) < 2 ^ F.lastPlace x := zpow_pos two_pos _
  rw [roundAbs, ← div_le_iff₀ positive, two_zpow_div k _ fine, Int.cast_le,
    ← nearestEven_intCast (2 ^ (k - F.lastPlace x).toNat), ← two_zpow_div k _ fine]
  exact nearestEven_mono (div_le_div_of_nonneg_right le positive.le)

theorem roundAbs_nonneg {x : ℚ} (nonneg : 0 ≤ x) : 0 ≤ F.roundAbs x := by
  have positive : (0 : ℚ) < 2 ^ F.lastPlace x := zpow_pos two_pos _
  refine mul_nonneg (Int.cast_nonneg ?_) positive.le
  rw [← nearestEven_intCast 0]
  exact nearestEven_mono (by simpa using div_nonneg nonneg positive.le)

theorem lastPlace_mono {x y : ℚ} (positive : 0 < x) (ordered : x ≤ y) :
    F.lastPlace x ≤ F.lastPlace y :=
  max_le_max_right _ (by linarith [Int.log_mono_right (b := 2) positive ordered])

theorem roundAbs_mono {x y : ℚ} (nonneg : 0 ≤ x) (ordered : x ≤ y) :
    F.roundAbs x ≤ F.roundAbs y := by
  rcases nonneg.lt_or_eq with positive | rfl
  · rcases (F.lastPlace_mono positive ordered).lt_or_eq with coarser | same
    -- the power of two at which the binade of `y` starts lies on both grids
    · have digits := F.one_le_digits
      have start : F.lastPlace y = Int.log 2 y - (F.digits - 1) := by
        unfold lastPlace at coarser ⊢
        omega
      have below : Int.log 2 x + 1 ≤ Int.log 2 y := by
        unfold lastPlace at coarser start
        omega
      have reach : x ≤ 2 ^ Int.log 2 y :=
        (Int.lt_zpow_succ_log_self one_lt_two x).le.trans
          (zpow_le_zpow_right₀ one_le_two below)
      exact (F.roundAbs_le (by omega) reach).trans
        (F.le_roundAbs (by omega) (Int.zpow_log_le_self one_lt_two (positive.trans_le ordered)))
    · have grid : (0 : ℚ) < 2 ^ F.lastPlace y := zpow_pos two_pos _
      rw [roundAbs, roundAbs, same]
      exact mul_le_mul_of_nonneg_right
        (Int.cast_le.mpr (nearestEven_mono (div_le_div_of_nonneg_right ordered grid.le))) grid.le
  · have zero : F.roundAbs 0 = 0 := by
      rw [roundAbs, zero_div, ← Int.cast_zero, nearestEven_intCast, Int.cast_zero, zero_mul]
    rw [zero]
    exact F.roundAbs_nonneg ordered

theorem nearest_mono : Monotone F.nearest := by
  intro x y ordered
  unfold nearest
  split_ifs with hx hy hy
  · exact F.roundAbs_mono hx ordered
  · exact absurd (hx.trans ordered) hy
  · have left := F.roundAbs_nonneg (x := -x) (by linarith)
    have right := F.roundAbs_nonneg hy
    linarith
  · have opposite := F.roundAbs_mono (x := -y) (y := -x) (by linarith) (by linarith)
    linarith

theorem nearest_two_pow (k : ℕ) : F.nearest (2 ^ k) = 2 ^ k := by
  have fine : F.lastPlace (2 ^ k) ≤ k := by
    have digits := F.one_le_digits
    have least := F.least_nonpos
    have log : Int.log 2 ((2 : ℚ) ^ k) = k := by
      have power := Int.log_zpow (R := ℚ) one_lt_two (k : ℤ)
      rwa [Nat.cast_ofNat, zpow_natCast] at power
    rw [lastPlace, log]
    omega
  have power : ((2 : ℚ) ^ k) = 2 ^ (k : ℤ) := (zpow_natCast 2 k).symm
  rw [nearest, if_pos (by positivity)]
  exact le_antisymm (power ▸ F.roundAbs_le fine power.le) (power ▸ F.le_roundAbs fine power.ge)

def rounding : Rounding where
  round := F.nearest
  monotone := F.nearest_mono
  round_zero := by
    rw [nearest, if_pos le_rfl, roundAbs, zero_div, ← Int.cast_zero, nearestEven_intCast,
      Int.cast_zero, zero_mul]
  round_two_pow := F.nearest_two_pow

end Format

def Format.single : Format where
  digits := 24
  least := -149
  least_nonpos := by decide
  one_le_digits := by decide

/-- Rounding to a C `float`. -/
def Rounding.single : Rounding := Format.single.rounding

/-- 3/20 lies between two floats, and the nearer one is the larger. -/
example : (3 : ℚ) / 20 < Rounding.single.round (3 / 20) := by decide +kernel

end RampMetering
