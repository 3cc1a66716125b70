import Mathlib.Algebra.Order.Ring.Rat
import Mathlib.Data.List.DropRight
import Mathlib.Data.Nat.Digits.Lemmas
import Mathlib.Data.Rat.Floor
import Mathlib.Tactic.FieldSimp

/-! What `printf` writes: unsigned numbers in a base, with a least number of digits, and
decimals with a fixed number of places, rounded to the nearest with ties to even. -/

namespace RampMetering.Text

def digitsOf (base precision n : ℕ) : List ℕ := (Nat.digitsAppend base precision n).reverse

def ofDigits (base : ℕ) (ds : List ℕ) : ℕ := Nat.ofDigits base ds.reverse

theorem ofDigits_digitsOf (base precision n : ℕ) :
    ofDigits base (digitsOf base precision n) = n := by
  rw [ofDigits, digitsOf, List.reverse_reverse, Nat.digitsAppend,
    Nat.ofDigits_append_replicate_zero, Nat.ofDigits_digits]

theorem ofDigits_append (base : ℕ) (ds es : List ℕ) :
    ofDigits base (ds ++ es) = ofDigits base ds * base ^ es.length + ofDigits base es := by
  rw [ofDigits, List.reverse_append, Nat.ofDigits_append, List.length_reverse, ofDigits, ofDigits]
  ring

theorem digitsOf_lt {base : ℕ} (one_lt : 1 < base) (precision n : ℕ) :
    ∀ d ∈ digitsOf base precision n, d < base := fun d hd =>
  Nat.lt_of_mem_digitsAppend one_lt precision d (List.mem_reverse.mp hd)

theorem digitsOf_length {base precision n : ℕ} (one_lt : 1 < base)
    (fits : n < base ^ precision) : (digitsOf base precision n).length = precision := by
  rw [digitsOf, List.length_reverse, Nat.length_digitsAppend one_lt precision fits]

theorem digitsOf_ne_nil {precision : ℕ} (pos : 0 < precision) (base n : ℕ) :
    digitsOf base precision n ≠ [] := by
  intro none
  have length := congrArg List.length none
  simp only [digitsOf, Nat.digitsAppend, List.length_reverse, List.length_append,
    List.length_replicate, List.length_nil] at length
  omega

def printUnsigned (base precision n : ℕ) : List Char :=
  (digitsOf base precision n).map Nat.digitChar

def roundHalfEven (x : ℚ) : ℤ :=
  if x - ⌊x⌋ < 1 / 2 then ⌊x⌋
  else if 1 / 2 < x - ⌊x⌋ then ⌊x⌋ + 1
  else if ⌊x⌋ % 2 = 0 then ⌊x⌋ else ⌊x⌋ + 1

theorem abs_roundHalfEven_sub_le (x : ℚ) : |(roundHalfEven x : ℚ) - x| ≤ 1 / 2 := by
  have lower := Int.floor_le x
  have upper := Int.lt_floor_add_one x
  rw [abs_le]
  unfold roundHalfEven
  split_ifs <;> push_cast <;> constructor <;> linarith

theorem roundHalfEven_nonneg {x : ℚ} (nonneg : 0 ≤ x) : 0 ≤ roundHalfEven x := by
  have floor := Int.floor_nonneg.mpr nonneg
  unfold roundHalfEven
  split_ifs <;> omega

def scaled (places : ℕ) (q : ℚ) : ℕ := (roundHalfEven (|q| * 10 ^ places)).toNat

def signText (q : ℚ) : List Char := if q < 0 then ['-'] else []

/-- `%.<places>f` with at least one place. -/
def printFixed (places : ℕ) (q : ℚ) : List Char :=
  signText q ++ printUnsigned 10 1 (scaled places q / 10 ^ places) ++
    '.' :: printUnsigned 10 places (scaled places q % 10 ^ places)

def applySign {α : Type*} [Neg α] (negative : Bool) (x : α) : α := if negative then -x else x

def rounded (places : ℕ) (q : ℚ) : ℚ :=
  applySign (decide (q < 0)) (scaled places q / 10 ^ places)

theorem abs_rounded_sub_le (places : ℕ) (q : ℚ) :
    |rounded places q - q| ≤ 1 / (2 * 10 ^ places) := by
  have pos : (0 : ℚ) < 10 ^ places := by positivity
  have near := abs_roundHalfEven_sub_le (|q| * 10 ^ places)
  have whole : ((scaled places q : ℕ) : ℚ) = (roundHalfEven (|q| * 10 ^ places) : ℚ) := by
    have nonneg := roundHalfEven_nonneg (x := |q| * 10 ^ places) (by positivity)
    exact congrArg (Int.cast (R := ℚ)) (Int.toNat_of_nonneg nonneg)
  have unsigned : |(scaled places q : ℚ) / 10 ^ places - abs q| ≤ 1 / (2 * 10 ^ places) := by
    rw [whole, div_sub' pos.ne', abs_div, abs_of_pos pos, div_le_div_iff₀ pos (by positivity),
      mul_comm (10 ^ places) (abs q)]
    linarith [mul_le_mul_of_nonneg_right near (mul_pos two_pos pos).le]
  unfold rounded applySign
  by_cases negative : q < 0
  · rw [abs_of_neg negative] at unsigned
    rw [if_pos (decide_eq_true negative), ← abs_neg]
    convert unsigned using 2
    ring
  · rw [abs_of_nonneg (not_lt.mp negative)] at unsigned
    rwa [if_neg (by simpa using negative)]

end RampMetering.Text
