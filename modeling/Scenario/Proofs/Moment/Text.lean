import Scenario.Moment.Format
import Scenario.Proofs.Failure

/-!
# Moments read back

A moment is read back from its text.  Every field but a year with a sign is
written with just as many digits as may be read for it, so its number ends
there, whatever follows; a year with a sign ends at the dash behind it.
-/

namespace Scenario.Moment

/-! ## Numbers -/

theorem numeral_eq_ofDigitChars (digits : List Char) :
    numeral digits = Nat.ofDigitChars 10 digits 0 := by
  simp only [numeral, Nat.ofDigitChars_eq_foldl, Nat.mul_comm]

/-- Zeros in front do not count. -/
@[simp]
theorem numeral_padded (width number : Nat) :
    numeral (padded width number) = number := by
  rw [numeral_eq_ofDigitChars, padded, Nat.ofDigitChars_append,
    Nat.ofDigitChars_replicate_zero, Nat.mul_zero,
    Nat.ofDigitChars_ten_toDigits]

theorem isDigit_of_mem_padded
    {width number : Nat}
    {character : Char}
    (member : character ∈ padded width number) :
    character.isDigit = true := by
  rw [padded, List.mem_append] at member
  rcases member with zero | digit
  · rw [List.eq_of_mem_replicate zero]
    rfl
  · exact Nat.isDigit_of_mem_toDigits (by decide) (by decide) digit

theorem padded_ne_nil (width number : Nat) : padded width number ≠ [] := by
  simp [padded]

/-- A text that begins with a padded number begins with a digit. -/
theorem isDigit_of_padded_append_eq
    {width number : Nat}
    {first : Char}
    {rest others : List Char}
    (text : padded width number ++ rest = first :: others) :
    first.isDigit = true := by
  rcases List.exists_cons_of_ne_nil (padded_ne_nil width number) with
    ⟨digit, more, digits⟩
  have member : digit ∈ padded width number := by
    rw [digits]
    exact .head more
  rw [digits, List.cons_append, List.cons.injEq] at text
  rw [← text.1]
  exact isDigit_of_mem_padded member

theorem length_padded
    {width number : Nat}
    (fits : (Nat.toDigits 10 number).length ≤ width) :
    (padded width number).length = width := by
  rw [padded, List.length_append, List.length_replicate]
  exact Nat.sub_add_cancel fits

/-- A number ends where the digits end that may be read for it, or where the
text goes on with something else. -/
theorem readNumber_append
    {limit : Nat}
    {digits rest : List Char}
    (begun : digits ≠ [])
    (areDigits : ∀ character ∈ digits, character.isDigit = true)
    (ends :
      digits.length = limit ∨
        digits.length ≤ limit ∧
          ∀ character ∈ rest.head?, character.isDigit = false) :
    readNumber limit (digits ++ rest) = .ok (numeral digits, rest) := by
  have short : digits.length ≤ limit := by omega
  have behind :
      (rest.take (limit - digits.length)).takeWhile Char.isDigit = [] := by
    rcases ends with full | ⟨-, foreign⟩
    · rw [full, Nat.sub_self]
      rfl
    · cases rest with
      | nil => rw [List.take_nil, List.takeWhile_nil]
      | cons character rest =>
        cases limit - digits.length with
        | zero => rfl
        | succ count =>
          rw [List.take_succ_cons, List.takeWhile_cons,
            foreign character rfl, if_neg Bool.false_ne_true]
  have taken :
      ((digits ++ rest).take limit).takeWhile Char.isDigit = digits := by
    rw [List.take_append, List.take_of_length_le short,
      List.takeWhile_append_of_pos areDigits, behind, List.append_nil]
  unfold readNumber
  split
  · rename_i empty
    exact (begun (List.append_eq_nil_iff.mp empty).1).elim
  · rw [taken]
    split
    · exact (begun rfl).elim
    · rw [List.drop_left]

/-! ## Fields -/

/-- Digits are visible. -/
theorem isBlank_of_isDigit
    {digit : Char}
    (isDigit : digit.isDigit = true) :
    Text.isBlank digit = false := by
  have bounds : 48 ≤ digit.toNat ∧ digit.toNat ≤ 57 :=
    Char.isDigit_iff_toNat.mp isDigit
  simp only [Text.isBlank, Text.blankRanges, List.any_cons, List.any_nil,
    Bool.or_false, Bool.or_eq_false_iff, Bool.and_eq_false_iff,
    decide_eq_false_iff_not]
  omega

theorem trimStart_padded_append (width number : Nat) (rest : List Char) :
    Text.trimStart (padded width number ++ rest) =
      padded width number ++ rest := by
  rcases List.exists_cons_of_ne_nil (padded_ne_nil width number) with
    ⟨first, others, digits⟩
  have begins : padded width number ++ rest = first :: (others ++ rest) := by
    rw [digits, List.cons_append]
  have isDigit := isDigit_of_padded_append_eq begins
  rw [begins, Text.trimStart_of_not_isBlank (isBlank_of_isDigit isDigit)]

theorem readField_padded
    {least greatest number : Nat}
    (lower : least ≤ number)
    (upper : number ≤ greatest)
    (small : number < 100)
    (rest : List Char) :
    readField least greatest (padded 2 number ++ rest) =
      .ok (number, rest) := by
  have length : (padded 2 number).length = 2 :=
    length_padded (Nat.length_toDigits_le_iff (by decide) (by decide) |>.mpr
      small)
  have read : readNumber 2 (padded 2 number ++ rest) = .ok (number, rest) := by
    rw [readNumber_append (padded_ne_nil 2 number)
      (fun _ => isDigit_of_mem_padded) (Or.inl length), numeral_padded]
  rw [readField, trimStart_padded_append, read]
  exact if_pos ⟨lower, upper⟩

/-! ## Years -/

/-- The digits of a year behind a sign end at the dash behind them. -/
theorem readNumber_padded_dash (number : Nat) (rest : List Char) :
    let digits := padded 4 number ++ '-' :: rest
    readNumber digits.length digits = .ok (number, '-' :: rest) := by
  intro digits
  have ends :
      (padded 4 number).length ≤ digits.length ∧
        ∀ character ∈ ('-' :: rest).head?, character.isDigit = false := by
    refine ⟨?_, ?_⟩
    · rw [List.length_append]
      exact Nat.le_add_right _ _
    · intro character first
      cases first
      rfl
  rw [readNumber_append (padded_ne_nil 4 number)
    (fun _ => isDigit_of_mem_padded) (Or.inr ends), numeral_padded]

/-- A text that begins with a digit has no sign. -/
theorem readSigned_padded
    {number : Nat}
    (small : number < 10000)
    (rest : List Char) :
    readSigned (padded 4 number ++ rest) = .ok ((number : Int), rest) := by
  have length : (padded 4 number).length = 4 :=
    length_padded (Nat.length_toDigits_le_iff (by decide) (by decide) |>.mpr
      small)
  have read : readNumber 4 (padded 4 number ++ rest) = .ok (number, rest) := by
    rw [readNumber_append (padded_ne_nil 4 number)
      (fun _ => isDigit_of_mem_padded) (Or.inl length), numeral_padded]
  unfold readSigned
  split
  · rename_i text
    cases isDigit_of_padded_append_eq text
  · rename_i text
    cases isDigit_of_padded_append_eq text
  · rw [read]
    rfl

theorem readSigned_yearText (year : Int) (rest : List Char) :
    readSigned (yearText year ++ '-' :: rest) = .ok (year, '-' :: rest) := by
  unfold yearText
  split
  · rename_i negative
    rw [List.cons_append, readSigned, readNumber_padded_dash]
    change Except.ok (-(year.natAbs : Int), '-' :: rest) = _
    have absolute : -(year.natAbs : Int) = year := by omega
    rw [absolute]
  · rename_i nonnegative
    have absolute : (year.natAbs : Int) = year := by omega
    split
    · rw [List.cons_append, readSigned, readNumber_padded_dash]
      change Except.ok ((year.natAbs : Int), '-' :: rest) = _
      rw [absolute]
    · rw [readSigned_padded (by omega), absolute]

theorem trimStart_yearText_append (year : Int) (rest : List Char) :
    Text.trimStart (yearText year ++ rest) = yearText year ++ rest := by
  unfold yearText
  split
  · rfl
  · split
    · rfl
    · exact trimStart_padded_append 4 year.natAbs rest

theorem readYear_yearText
    {year : Int}
    (fits : -0x80000000 ≤ year ∧ year < 0x80000000)
    (rest : List Char) :
    readYear (yearText year ++ '-' :: rest) = .ok (year, '-' :: rest) := by
  rw [readYear, trimStart_yearText_append, readSigned_yearText]
  exact if_pos fits

/-! ## Moments -/

theorem day_le (moment : Moment) : moment.day ≤ 31 := by
  have bounds := moment.day_mem
  unfold Calendar.daysInMonth at bounds
  split at bounds <;> grind

/-- One blank stands between date and time. -/
theorem trimStart_space_padded (number : Nat) (rest : List Char) :
    Text.trimStart (' ' :: (padded 2 number ++ rest)) =
      padded 2 number ++ rest :=
  trimStart_padded_append 2 number rest

theorem readMark_cons (mark : Char) (rest : List Char) :
    readMark mark (mark :: rest) = .ok rest :=
  if_pos rfl

theorem readChars_chars (moment : Moment) :
    readChars moment.chars = .ok moment := by
  have year := moment.year_mem
  have month := moment.month_mem
  have day := moment.day_mem
  have lastDay := moment.day_le
  have hour := moment.hour_lt
  have minute := moment.minute_lt
  have second := moment.second_le
  simp only [Calendar.firstYear, Calendar.lastYear] at year
  have lastField := readField_padded (Nat.zero_le _) second (by omega) []
  rw [List.append_nil] at lastField
  simp only [chars, fieldChars, List.append_assoc, List.cons_append]
  -- The fields are read in order, each in front of the mark behind it.
  refine bind_eq_ok_iff.mpr ⟨_, readYear_yearText (by omega) _, ?_⟩
  refine bind_eq_ok_iff.mpr ⟨_, readMark_cons _ _, ?_⟩
  refine bind_eq_ok_iff.mpr
    ⟨_, readField_padded month.1 month.2 (by omega) _, ?_⟩
  refine bind_eq_ok_iff.mpr ⟨_, readMark_cons _ _, ?_⟩
  refine bind_eq_ok_iff.mpr
    ⟨_, readField_padded day.1 lastDay (by omega) _, ?_⟩
  dsimp only
  rw [trimStart_space_padded]
  refine bind_eq_ok_iff.mpr
    ⟨_, readField_padded (Nat.zero_le _) (by omega) (by omega) _, ?_⟩
  refine bind_eq_ok_iff.mpr ⟨_, readMark_cons _ _, ?_⟩
  refine bind_eq_ok_iff.mpr
    ⟨_, readField_padded (Nat.zero_le _) (by omega) (by omega) _, ?_⟩
  refine bind_eq_ok_iff.mpr ⟨_, readMark_cons _ _, ?_⟩
  refine bind_eq_ok_iff.mpr ⟨_, lastField, ?_⟩
  dsimp only
  rw [List.isEmpty_nil, if_pos rfl, ofFields?_fields]
  rfl

/-- Reading undoes writing. -/
@[simp]
theorem ofText_text (moment : Moment) : ofText moment.text = .ok moment := by
  rw [ofText, text, String.toList_ofList, readChars_chars]

end Scenario.Moment
