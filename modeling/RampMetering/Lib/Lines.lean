import RampMetering.Lib.Scanf

/-! Reading a text by lines into a buffer, as `fgets` does: a call stores what is left of the line
with its newline, or as much of it as there is room for. No character is lost or read twice,
and lines that fit come out as they were written. -/

namespace RampMetering.Text

/-- One call with room for `room` characters: what it stores, and what it leaves of the text. -/
def takeLine : ℕ → List Char → List Char × List Char
  | 0, text => ([], text)
  | _ + 1, [] => ([], [])
  | room + 1, c :: text =>
    if c = '\n' then ([c], text) else (c :: (takeLine room text).1, (takeLine room text).2)

theorem takeLine_append (room : ℕ) (text : List Char) :
    (takeLine room text).1 ++ (takeLine room text).2 = text := by
  induction room generalizing text with
  | zero => rfl
  | succ room ih =>
    cases text with
    | nil => rfl
    | cons c text =>
      rw [takeLine]
      split_ifs
      · rfl
      · exact congrArg (c :: ·) (ih text)

theorem takeLine_shorter (room : ℕ) (c : Char) (text : List Char) :
    (takeLine (room + 1) (c :: text)).2.length < (c :: text).length := by
  have whole := congrArg List.length (takeLine_append (room + 1) (c :: text))
  have some : (takeLine (room + 1) (c :: text)).1 ≠ [] := by
    rw [takeLine]
    split_ifs
    · exact List.cons_ne_nil _ _
    · exact List.cons_ne_nil _ _
  have pos := List.length_pos_of_ne_nil some
  rw [List.length_append] at whole
  omega

def linesOf (room : ℕ) : List Char → List (List Char)
  | [] => []
  | c :: text =>
    (takeLine (room + 1) (c :: text)).1 :: linesOf room (takeLine (room + 1) (c :: text)).2
termination_by text => text.length
decreasing_by exact takeLine_shorter room c text

@[simp] theorem linesOf_nil (room : ℕ) : linesOf room [] = [] := by
  rw [linesOf]

theorem linesOf_cons (room : ℕ) (c : Char) (text : List Char) :
    linesOf room (c :: text) =
      (takeLine (room + 1) (c :: text)).1 :: linesOf room (takeLine (room + 1) (c :: text)).2 := by
  rw [linesOf]

def FitsLine (room : ℕ) (body : List Char) : Prop := '\n' ∉ body ∧ body.length ≤ room

theorem takeLine_of_fits {room : ℕ} {body : List Char} (fits : FitsLine room body)
    (rest : List Char) :
    takeLine (room + 1) (body ++ '\n' :: rest) = (body ++ ['\n'], rest) := by
  induction body generalizing room with
  | nil => rfl
  | cons c body ih =>
    obtain ⟨plain, short⟩ := fits
    rw [List.mem_cons, not_or] at plain
    obtain ⟨room, rfl⟩ : ∃ n, room = n + 1 :=
      ⟨room - 1, by rw [List.length_cons] at short; omega⟩
    have tail := ih ⟨plain.2, Nat.le_of_succ_le_succ short⟩
    rw [List.cons_append, takeLine, if_neg (Ne.symm plain.1), tail]
    rfl

theorem linesOf_of_fits {room : ℕ} {bodies : List (List Char)}
    (fits : ∀ body ∈ bodies, FitsLine room body) :
    linesOf room (bodies.flatMap (· ++ ['\n'])) = bodies.map (· ++ ['\n']) := by
  induction bodies with
  | nil => exact linesOf_nil room
  | cons body bodies ih =>
    have first := takeLine_of_fits (fits body List.mem_cons_self)
      (bodies.flatMap (· ++ ['\n']))
    have others := ih fun body member => fits body (List.mem_cons_of_mem _ member)
    have text : (body :: bodies).flatMap (· ++ ['\n']) =
        body ++ '\n' :: bodies.flatMap (· ++ ['\n']) := by
      rw [List.flatMap_cons, List.append_assoc, List.singleton_append]
    rw [text, List.map_cons, ← others]
    cases whole : body ++ '\n' :: bodies.flatMap (· ++ ['\n']) with
    | nil => simp at whole
    | cons c text =>
      rw [whole] at first
      rw [linesOf_cons, first]

theorem digitChar_ne_newline : ∀ d < 16, Nat.digitChar d ≠ '\n' := by decide

theorem newline_notMem_printUnsigned {base : ℕ} (one_lt : 1 < base) (le : base ≤ 16)
    (precision n : ℕ) : '\n' ∉ printUnsigned base precision n := by
  intro member
  obtain ⟨d, digit, newline⟩ := List.mem_map.mp member
  have below := (digitsOf_lt one_lt precision n d digit).trans_le le
  exact digitChar_ne_newline d below newline

theorem newline_notMem_printFixed (places : ℕ) (q : ℚ) : '\n' ∉ printFixed places q := by
  have digits := @newline_notMem_printUnsigned 10 (by decide) (by decide)
  unfold printFixed signText
  split_ifs
  · simp [digits]
  · simp [digits]

theorem newline_notMem_line {cols : List Printed} {ds : List Directive}
    (fits : fitAll cols ds = true) : '\n' ∉ line cols := by
  induction cols generalizing ds with
  | nil => simp [line]
  | cons col cols ih =>
    cases ds with
    | nil => cases fits
    | cons d ds =>
      rw [fitAll, Bool.and_eq_true] at fits
      have others := ih fits.2
      have first : '\n' ∉ col.text := by
        cases col with
        | unsigned base precision n =>
          cases d with
          | unsigned base' bits =>
            have bounds := fits.1
            simp only [Printed.fits, Bool.and_eq_true, decide_eq_true_eq] at bounds
            exact newline_notMem_printUnsigned bounds.1.1.2 bounds.1.2 precision n
          | _ => cases fits.1
        | fixed places q => exact newline_notMem_printFixed places q
      rw [line, List.flatMap_cons, ← line]
      simp [first, others]

end RampMetering.Text
