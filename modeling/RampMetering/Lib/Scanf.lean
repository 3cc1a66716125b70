import RampMetering.Lib.Printf
import Mathlib.Data.List.DropRight

/-! What `sscanf` reads back. The input of a number is its longest prefix in the notation of
`strtoul` or `strtod`: an optional sign, then digits of the base, or digits around at most one
decimal point and an exponent (hexadecimal floats, infinities and what is not a number are left
out). A line printed column by column is scanned back by directives that fit its columns. -/

namespace RampMetering.Text

def digitValue (base : ℕ) (c : Char) : Option ℕ :=
  let v :=
    if '0'.toNat ≤ c.toNat ∧ c.toNat ≤ '9'.toNat then c.toNat - '0'.toNat
    else if 'a'.toNat ≤ c.toNat ∧ c.toNat ≤ 'f'.toNat then c.toNat - 'a'.toNat + 10
    else if 'A'.toNat ≤ c.toNat ∧ c.toNat ≤ 'F'.toNat then c.toNat - 'A'.toNat + 10
    else base
  if v < base then some v else none

theorem digitValue_digitChar {base d : ℕ} (le : base ≤ 16) (lt : d < base) :
    digitValue base d.digitChar = some d := by
  have all : ∀ b ≤ 16, ∀ d < b, digitValue b d.digitChar = some d := by decide +kernel
  exact all base le d lt

def isSpace (c : Char) : Bool := c = ' ' || ('\t'.toNat ≤ c.toNat && c.toNat ≤ '\r'.toNat)

def skipSpaces (s : List Char) : List Char := s.dropWhile isSpace

@[simp] theorem skipSpaces_space (s : List Char) : skipSpaces (' ' :: s) = skipSpaces s := rfl

theorem skipSpaces_skipSpaces (s : List Char) : skipSpaces (skipSpaces s) = skipSpaces s :=
  List.dropWhile_idempotent ..

theorem digitChar_ne {d : ℕ} (lt : d < 16) :
    isSpace d.digitChar = false ∧ d.digitChar ≠ '-' ∧ d.digitChar ≠ '+' := by
  have all : ∀ d < 16, isSpace d.digitChar = false ∧ d.digitChar ≠ '-' ∧ d.digitChar ≠ '+' := by
    decide +kernel
  exact all d lt

def spanDigits (base : ℕ) : List Char → List ℕ × List Char
  | [] => ([], [])
  | c :: s =>
    match digitValue base c with
    | some d => (d :: (spanDigits base s).1, (spanDigits base s).2)
    | none => ([], c :: s)

def NoDigit (base : ℕ) (s : List Char) : Prop := ∀ c ∈ s.head?, digitValue base c = none

theorem spanDigits_of_noDigit {base : ℕ} {s : List Char} (h : NoDigit base s) :
    spanDigits base s = ([], s) := by
  cases s with
  | nil => rfl
  | cons c s => simp [spanDigits, h c rfl]

theorem spanDigits_digits {base : ℕ} (le : base ≤ 16) {ds : List ℕ} (lt : ∀ d ∈ ds, d < base)
    {rest : List Char} (stop : NoDigit base rest) :
    spanDigits base (ds.map Nat.digitChar ++ rest) = (ds, rest) := by
  induction ds with
  | nil => exact spanDigits_of_noDigit stop
  | cons d ds ih =>
    have tail := ih fun e he => lt e (List.mem_cons_of_mem d he)
    rw [List.map_cons, List.cons_append, spanDigits,
      digitValue_digitChar le (lt d List.mem_cons_self), tail]

def readSign : List Char → Bool × List Char
  | '-' :: s => (true, s)
  | '+' :: s => (false, s)
  | s => (false, s)

def skipBasePrefix (base : ℕ) (s : List Char) : List Char :=
  match s with
  | '0' :: x :: rest => if base = 16 ∧ (x = 'x' ∨ x = 'X') then rest else s
  | _ => s

/-- The width of `unsigned long`, the type an integer is converted through. -/
structure LongWidth where
  bits : ℕ
  least : 32 ≤ bits

/-- `strtoul` negates a number with a sign, and gives the largest for one out of range. -/
def LongWidth.convert (long : LongWidth) (negative : Bool) (n : ℕ) : ℤ :=
  if n < 2 ^ long.bits then applySign negative n else 2 ^ long.bits - 1

theorem LongWidth.convert_of_lt (long : LongWidth) {n : ℕ} (lt : n < 2 ^ 32) :
    long.convert false n = n := by
  have wide : 2 ^ 32 ≤ 2 ^ long.bits := Nat.pow_le_pow_right two_pos long.least
  rw [convert, if_pos (lt.trans_le wide)]
  rfl

def readUnsigned (long : LongWidth) (base : ℕ) (s : List Char) : Option (ℤ × List Char) :=
  let signed := readSign s
  let digits := spanDigits base (skipBasePrefix base signed.2)
  if digits.1 = [] then none
  else some (long.convert signed.1 (ofDigits base digits.1), digits.2)

def readPlaces : List Char → List ℕ × List Char
  | '.' :: s => spanDigits 10 s
  | s => ([], s)

/-- An exponent without digits matches nothing, and neither does the number before it. -/
def readExponent : List Char → Option (ℤ × List Char)
  | [] => some (0, [])
  | c :: s =>
    if c = 'e' ∨ c = 'E' then
      let signed := readSign s
      let digits := spanDigits 10 signed.2
      if digits.1 = [] then none
      else some (applySign signed.1 (ofDigits 10 digits.1), digits.2)
    else some (0, c :: s)

def readDecimal (s : List Char) : Option (ℚ × List Char) :=
  let whole := spanDigits 10 s
  let places := readPlaces whole.2
  if whole.1 = [] ∧ places.1 = [] then none
  else (readExponent places.2).map fun exponent =>
    ((ofDigits 10 (whole.1 ++ places.1) : ℚ) / 10 ^ places.1.length * 10 ^ exponent.1,
      exponent.2)

def readFloat (s : List Char) : Option (ℚ × List Char) :=
  let signed := readSign s
  (readDecimal signed.2).map fun read => (applySign signed.1 read.1, read.2)

def Delimited (s : List Char) : Prop := ∀ c ∈ s.head?, c = ' ' ∨ c = ':'

theorem delimited_cons {c : Char} (delimits : c = ' ' ∨ c = ':') (s : List Char) :
    Delimited (c :: s) := by
  intro d head
  obtain rfl : c = d := by simpa using head
  exact delimits

theorem delimited_space (s : List Char) : Delimited (' ' :: s) := delimited_cons (.inl rfl) s

theorem Delimited.noDigit {s : List Char} (h : Delimited s) (base : ℕ) : NoDigit base s := by
  intro c head
  rcases h c head with rfl | rfl
  · simp [digitValue]
  · simp [digitValue]

theorem Delimited.readPlaces {s : List Char} (h : Delimited s) : readPlaces s = ([], s) := by
  unfold Text.readPlaces
  split
  · rename_i rest
    rcases h '.' rfl with same | same
    · exact absurd same (by decide)
    · exact absurd same (by decide)
  · rfl

theorem Delimited.readExponent {s : List Char} (h : Delimited s) :
    readExponent s = some (0, s) := by
  cases s with
  | nil => rfl
  | cons c s =>
    rw [Text.readExponent, if_neg]
    rcases h c rfl with rfl | rfl
    · decide
    · decide

theorem digitChar_ne_letter {d : ℕ} (lt : d < 16) :
    d.digitChar ≠ 'x' ∧ d.digitChar ≠ 'X' := by
  have all : ∀ d < 16, d.digitChar ≠ 'x' ∧ d.digitChar ≠ 'X' := by decide +kernel
  exact all d lt

theorem skipBasePrefix_of_ne (base : ℕ) (c : Char) {s : List Char}
    (h : ∀ x ∈ s.head?, x ≠ 'x' ∧ x ≠ 'X') : skipBasePrefix base (c :: s) = c :: s := by
  unfold skipBasePrefix
  split
  · rename_i x rest same
    obtain rfl := (List.cons.inj same).2
    obtain ⟨lower, upper⟩ := h x rfl
    rw [if_neg (by simp [lower, upper])]
  · rfl

section digits

variable {base : ℕ} {ds : List ℕ}

theorem digits_head (le : base ≤ 16) (lt : ∀ d ∈ ds, d < base) (some : ds ≠ [])
    (rest : List Char) :
    skipSpaces (ds.map Nat.digitChar ++ rest) = ds.map Nat.digitChar ++ rest ∧
      readSign (ds.map Nat.digitChar ++ rest) = (false, ds.map Nat.digitChar ++ rest) := by
  cases ds with
  | nil => exact absurd rfl some
  | cons d ds =>
    obtain ⟨space, minus, plus⟩ := digitChar_ne (lt_of_lt_of_le (lt d List.mem_cons_self) le)
    rw [List.map_cons, List.cons_append]
    refine ⟨by rw [skipSpaces, List.dropWhile_cons_of_neg (by simp [space])], ?_⟩
    unfold readSign
    split
    · rename_i same
      exact absurd (List.cons.inj same).1 minus
    · rename_i same
      exact absurd (List.cons.inj same).1 plus
    · rfl

theorem skipBasePrefix_digits (le : base ≤ 16) (lt : ∀ d ∈ ds, d < base) (some : ds ≠ [])
    {rest : List Char} (stop : Delimited rest) :
    skipBasePrefix base (ds.map Nat.digitChar ++ rest) = ds.map Nat.digitChar ++ rest := by
  cases ds with
  | nil => exact absurd rfl some
  | cons d ds =>
    rw [List.map_cons, List.cons_append]
    apply skipBasePrefix_of_ne
    intro x head
    cases ds with
    | nil =>
      rcases stop x head with rfl | rfl
      · decide
      · decide
    | cons e ds =>
      obtain rfl : e.digitChar = x := by simpa using head
      have below := lt e (List.mem_cons_of_mem d List.mem_cons_self)
      exact digitChar_ne_letter (below.trans_le le)

end digits

theorem readUnsigned_printUnsigned (long : LongWidth) {base precision : ℕ} (one_lt : 1 < base)
    (le : base ≤ 16) (pos : 0 < precision) (n : ℕ) {rest : List Char} (stop : Delimited rest) :
    readUnsigned long base (printUnsigned base precision n ++ rest) =
      some (long.convert false n, rest) := by
  have lt := digitsOf_lt one_lt precision n
  have digits := digitsOf_ne_nil pos base n
  rw [readUnsigned, printUnsigned, (digits_head le lt digits rest).2,
    skipBasePrefix_digits le lt digits stop, spanDigits_digits le lt (stop.noDigit base)]
  simp only [if_neg digits, ofDigits_digitsOf]

theorem noDigit_point (base : ℕ) (s : List Char) : NoDigit base ('.' :: s) := by
  intro d head
  obtain rfl : '.' = d := by simpa using head
  simp [digitValue]

theorem readDecimal_printUnsigned {precision : ℕ} (pos : 0 < precision) (n : ℕ)
    {rest : List Char} (stop : Delimited rest) :
    readDecimal (printUnsigned 10 precision n ++ rest) = some ((n : ℚ), rest) := by
  have digits := digitsOf_ne_nil pos 10 n
  have whole : spanDigits 10 (printUnsigned 10 precision n ++ rest) = (_, _) :=
    spanDigits_digits (by decide) (digitsOf_lt (by decide) _ _) (stop.noDigit 10)
  simp [readDecimal, whole, stop.readPlaces, stop.readExponent, digits, ofDigits_digitsOf]

theorem readDecimal_point {precision : ℕ} (pos : 0 < precision) (n places m : ℕ)
    {rest : List Char} (stop : Delimited rest) :
    readDecimal (printUnsigned 10 precision n ++ '.' :: (printUnsigned 10 places m ++ rest)) =
      some (((n * 10 ^ (digitsOf 10 places m).length + m : ℕ) : ℚ) /
        10 ^ (digitsOf 10 places m).length, rest) := by
  have digits := digitsOf_ne_nil pos 10 n
  have whole : spanDigits 10 (printUnsigned 10 precision n ++
      '.' :: (printUnsigned 10 places m ++ rest)) = (_, _) :=
    spanDigits_digits (by decide) (digitsOf_lt (by decide) _ _) (noDigit_point 10 _)
  have after : readPlaces ('.' :: (printUnsigned 10 places m ++ rest)) = (_, _) :=
    spanDigits_digits (by decide) (digitsOf_lt (by decide) _ _) (stop.noDigit 10)
  simp only [readDecimal, whole, after, digits, false_and, if_false, stop.readExponent,
    Option.map_some, zpow_zero, mul_one, ofDigits_append, ofDigits_digitsOf]

theorem printFixed_head (places : ℕ) (q : ℚ) (rest : List Char) :
    skipSpaces (printFixed places q ++ rest) = printFixed places q ++ rest ∧
      readSign (printFixed places q ++ rest) =
        (decide (q < 0), printUnsigned 10 1 (scaled places q / 10 ^ places) ++
          '.' :: (printUnsigned 10 places (scaled places q % 10 ^ places) ++ rest)) := by
  have lt := digitsOf_lt (by decide : 1 < 10) 1 (scaled places q / 10 ^ places)
  have digits := digitsOf_ne_nil one_pos 10 (scaled places q / 10 ^ places)
  simp only [printFixed, List.append_assoc, List.cons_append]
  by_cases negative : q < 0
  · rw [signText, if_pos negative, decide_eq_true negative]
    exact ⟨rfl, rfl⟩
  · rw [signText, if_neg negative, decide_eq_false negative]
    exact digits_head (by decide) lt digits _

theorem readFloat_printFixed (places : ℕ) (q : ℚ) {rest : List Char} (stop : Delimited rest) :
    readFloat (printFixed places q ++ rest) = some (rounded places q, rest) := by
  have pos : 0 < 10 ^ places := by positivity
  have length := digitsOf_length (by decide : 1 < 10) (Nat.mod_lt (scaled places q) pos)
  rw [readFloat, (printFixed_head places q rest).2]
  simp only [readDecimal_point one_pos _ _ _ stop, Option.map_some, length, Nat.div_add_mod',
    rounded]

/-- The conversions of a format. White space in it is a directive of its own; `bits` is the
width its length modifier gives the destination. -/
inductive Directive where
  | float
  | char
  | unsigned (base bits : ℕ)
  | space

inductive Value where
  | float (q : ℚ)
  | char (c : Char)
  | unsigned (bits : ℕ) (n : ℤ)

def sscanf (long : LongWidth) : List Directive → List Char → List Value
  | [], _ => []
  | .space :: ds, s => sscanf long ds (skipSpaces s)
  | .char :: ds, s =>
    match s with
    | [] => []
    | c :: rest => .char c :: sscanf long ds rest
  | .float :: ds, s =>
    match readFloat (skipSpaces s) with
    | some (q, rest) => .float q :: sscanf long ds rest
    | none => []
  | .unsigned base bits :: ds, s =>
    match readUnsigned long base (skipSpaces s) with
    | some (n, rest) => .unsigned bits n :: sscanf long ds rest
    | none => []

theorem sscanf_space_unsigned (long : LongWidth) (base bits : ℕ) (ds : List Directive)
    (s : List Char) :
    sscanf long (.space :: .unsigned base bits :: ds) s =
      sscanf long (.unsigned base bits :: ds) s := by
  simp only [sscanf, skipSpaces_skipSpaces]

theorem sscanf_space_float (long : LongWidth) (ds : List Directive) (s : List Char) :
    sscanf long (.space :: .float :: ds) s = sscanf long (.float :: ds) s := by
  simp only [sscanf, skipSpaces_skipSpaces]

def spacesLead : List Directive → Bool
  | [] => true
  | .space :: .unsigned _ _ :: ds => spacesLead ds
  | .space :: .float :: ds => spacesLead ds
  | .space :: _ => false
  | _ :: ds => spacesLead ds

def Directive.converts : Directive → Bool
  | .space => false
  | _ => true

theorem sscanf_filter_converts (long : LongWidth) {ds : List Directive}
    (lead : spacesLead ds = true) (s : List Char) :
    sscanf long (ds.filter Directive.converts) s = sscanf long ds s := by
  induction ds using spacesLead.induct generalizing s with
  | case1 => rfl
  | case2 base bits ds ih =>
    have tail := ih lead
    rw [sscanf_space_unsigned]
    simp only [List.filter, Directive.converts, sscanf, tail]
  | case3 ds ih =>
    have tail := ih lead
    rw [sscanf_space_float]
    simp only [List.filter, Directive.converts, sscanf, tail]
  | case4 => simp [spacesLead] at lead
  | case5 d ds _ _ no_space ih =>
    have tail := ih (by simpa [spacesLead] using lead)
    cases d with
    | space => exact absurd rfl no_space
    | _ => simp only [List.filter, Directive.converts, sscanf, tail]

section float

variable (long : LongWidth) {precision : ℕ}

theorem sscanf_float_char (pos : 0 < precision) (n : ℕ) {c : Char} {rest : List Char}
    (stop : Delimited (c :: rest)) (ds : List Directive) :
    sscanf long (.float :: .char :: ds) (printUnsigned 10 precision n ++ c :: rest) =
      .float n :: .char c :: sscanf long ds rest := by
  obtain ⟨space, sign⟩ := digits_head (by decide) (digitsOf_lt (by decide : 1 < 10) precision n)
    (digitsOf_ne_nil pos 10 n) (c :: rest)
  rw [← printUnsigned] at space sign
  simp only [sscanf, space, readFloat, sign, readDecimal_printUnsigned pos n stop,
    Option.map_some, applySign, Bool.false_eq_true, if_false]

theorem sscanf_float_point (pos : 0 < precision) (n places m : ℕ) (ds : List Directive)
    {rest : List Char} (stop : Delimited rest) :
    sscanf long (.float :: ds)
        (printUnsigned 10 precision n ++ '.' :: (printUnsigned 10 places m ++ rest)) =
      .float (((n * 10 ^ (digitsOf 10 places m).length + m : ℕ) : ℚ) /
        10 ^ (digitsOf 10 places m).length) :: sscanf long ds rest := by
  obtain ⟨space, sign⟩ := digits_head (by decide) (digitsOf_lt (by decide : 1 < 10) precision n)
    (digitsOf_ne_nil pos 10 n) ('.' :: (printUnsigned 10 places m ++ rest))
  rw [← printUnsigned] at space sign
  simp only [sscanf, space, readFloat, sign, readDecimal_point pos n places m stop,
    Option.map_some, applySign, Bool.false_eq_true, if_false]

end float

/-- Storing `bits` bits at the address of an integer keeps its higher ones: the low byte
comes first in memory. -/
def lowBits (bits : ℕ) (old n : ℤ) : ℤ := old - old % 2 ^ bits + n % 2 ^ bits

theorem lowBits_zero {bits n : ℕ} (fits : n < 2 ^ bits) : lowBits bits 0 n = n := by
  have fits' : (n : ℤ) < 2 ^ bits := by exact_mod_cast fits
  rw [lowBits, Int.zero_emod, Int.emod_eq_of_lt (Int.natCast_nonneg n) fits']
  omega

inductive Target (γ : Type*) where
  | float (set : γ → ℚ → γ)
  | char (set : γ → Char → γ)
  | int (get : γ → ℤ) (set : γ → ℤ → γ)

def Target.store {γ : Type*} : Target γ → Value → γ → γ
  | .float set, .float q, g => set g q
  | .char set, .char c, g => set g c
  | .int get set, .unsigned bits n, g => set g (lowBits bits (get g) n)
  | _, _, g => g

def storeAll {γ : Type*} : List (Target γ) → List Value → γ → γ
  | target :: targets, v :: vs, g => storeAll targets vs (target.store v g)
  | _, _, g => g

inductive Printed where
  | unsigned (base precision n : ℕ)
  | fixed (places : ℕ) (q : ℚ)

def Printed.text : Printed → List Char
  | .unsigned base precision n => printUnsigned base precision n
  | .fixed places q => printFixed places q

def line (cols : List Printed) : List Char := cols.flatMap fun col => col.text ++ [' ']

def Printed.fits : Printed → Directive → Bool
  | .unsigned base precision _, .unsigned base' _ =>
    base = base' && 1 < base && base ≤ 16 && 0 < precision
  | .fixed _ _, .float => true
  | _, _ => false

def Printed.readAs (long : LongWidth) : Printed → Directive → Value
  | .unsigned _ _ n, .unsigned _ bits => .unsigned bits (long.convert false n)
  | .unsigned _ _ n, _ => .float n
  | .fixed places q, _ => .float (rounded places q)

def fitAll : List Printed → List Directive → Bool
  | [], [] => true
  | col :: cols, d :: ds => col.fits d && fitAll cols ds
  | _, _ => false

theorem sscanf_column (long : LongWidth) {col : Printed} {d : Directive} (fits : col.fits d = true)
    (ds : List Directive) (rest : List Char) :
    sscanf long (d :: ds) (' ' :: (col.text ++ ' ' :: rest)) =
      col.readAs long d :: sscanf long ds (' ' :: rest) := by
  cases col with
  | unsigned base precision n =>
    cases d with
    | unsigned base' bits =>
      simp only [Printed.fits, Bool.and_eq_true, decide_eq_true_eq] at fits
      obtain ⟨⟨⟨rfl, one_lt⟩, le⟩, pos⟩ := fits
      have head := (digits_head le (digitsOf_lt one_lt precision n) (digitsOf_ne_nil pos base n)
        (' ' :: rest)).1
      rw [← printUnsigned] at head
      simp only [sscanf, Printed.text, skipSpaces_space, head,
        readUnsigned_printUnsigned long one_lt le pos n (delimited_space rest), Printed.readAs]
    | _ => cases fits
  | fixed places q =>
    cases d with
    | float =>
      simp only [sscanf, Printed.text, skipSpaces_space, (printFixed_head places q _).1,
        readFloat_printFixed places q (delimited_space rest), Printed.readAs]
    | _ => cases fits

theorem sscanf_line (long : LongWidth) {cols : List Printed} {ds : List Directive}
    (fits : fitAll cols ds = true) (rest : List Char) :
    sscanf long ds (' ' :: (line cols ++ rest)) =
      List.zipWith (Printed.readAs long) cols ds := by
  induction cols generalizing ds with
  | nil =>
    cases ds with
    | nil => rfl
    | cons d ds => cases fits
  | cons col cols ih =>
    cases ds with
    | nil => cases fits
    | cons d ds =>
      rw [fitAll, Bool.and_eq_true] at fits
      have next := ih fits.2
      rw [line, List.flatMap_cons, ← line, List.append_assoc, List.append_assoc,
        List.singleton_append, sscanf_column long fits.1, next, List.zipWith_cons_cons]

end RampMetering.Text
