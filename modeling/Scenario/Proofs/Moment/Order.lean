import Mathlib
import Scenario.Proofs.Moment.Text

/-!
# The order of moments and of their texts

Moments are compared field by field, so of two different ones one is before the
other.  The texts of years with four digits give every field a width of its
own, so they are ordered character by character as the moments are.
-/

namespace Scenario.Moment

/-! ## Moments -/

theorem eq_of_fields_eq
    {one other : Moment}
    (same : one.fields = other.fields) :
    one = other := by
  cases one
  cases other
  simp only [fields, List.cons.injEq, Int.natCast_inj, and_true] at same
  rcases same with ⟨rfl, rfl, rfl, rfl, rfl, rfl⟩
  rfl

/-- Two moments are the same if none of them is before the other. -/
theorem eq_iff_not_lt {one other : Moment} :
    one = other ↔ ¬other < one ∧ ¬one < other := by
  constructor
  · rintro rfl
    exact ⟨List.lt_irrefl one.fields, List.lt_irrefl one.fields⟩
  · rintro ⟨notAfter, notBefore⟩
    exact eq_of_fields_eq
      (List.le_antisymm (List.not_lt.mp notAfter) (List.not_lt.mp notBefore))

/-- Two moments are the same if they are written alike. -/
theorem text_eq_text_iff {one other : Moment} :
    one.text = other.text ↔ one = other := by
  constructor
  · intro same
    have read := ofText_text one
    rw [same, ofText_text] at read
    exact (Except.ok.inj read).symm
  · rintro rfl
    rfl

/-! ## Digits -/

/-- A digit is as far behind the zero as it counts. -/
theorem toNat_of_isDigit {digit : Char} (isDigit : digit.isDigit = true) :
    digit.toNat = '0'.toNat + (digit.toNat - '0'.toNat) ∧
      digit.toNat - '0'.toNat ≤ 9 := by
  have bounds : 48 ≤ digit.toNat ∧ digit.toNat ≤ 57 :=
    Char.isDigit_iff_toNat.mp isDigit
  have zero : '0'.toNat = 48 := rfl
  omega

theorem numeral_cons (digit : Char) (digits : List Char) :
    numeral (digit :: digits) =
      10 ^ digits.length * (digit.toNat - '0'.toNat) + numeral digits := by
  rw [numeral_eq_ofDigitChars, numeral_eq_ofDigitChars, Nat.ofDigitChars_cons,
    Nat.mul_zero, Nat.zero_add, Nat.ofDigitChars_eq_ofDigitChars_zero]

theorem numeral_lt
    {digits : List Char}
    (areDigits : ∀ digit ∈ digits, digit.isDigit = true) :
    numeral digits < 10 ^ digits.length := by
  induction digits with
  | nil => exact Nat.one_pos
  | cons digit digits induction =>
    rw [List.forall_mem_cons] at areDigits
    have first := Nat.mul_le_mul_left (10 ^ digits.length)
      (toNat_of_isDigit areDigits.1).2
    have rest := induction areDigits.2
    rw [numeral_cons, List.length_cons, Nat.pow_succ]
    omega

/-- What stands in front decides, unless it is the same. -/
theorem mul_add_lt_mul_add_iff
    {bound first second rest others : Nat}
    (lower : rest < bound)
    (upper : others < bound) :
    bound * first + rest < bound * second + others ↔
      first < second ∨ first = second ∧ rest < others := by
  rcases Nat.lt_trichotomy first second with less | rfl | greater
  · have apart := Nat.mul_le_mul_left bound (Nat.succ_le_of_lt less)
    rw [Nat.mul_succ] at apart
    omega
  · omega
  · have apart := Nat.mul_le_mul_left bound (Nat.succ_le_of_lt greater)
    rw [Nat.mul_succ] at apart
    omega

/-- Of two numbers with as many digits, the greater one has the greater digit
where they first differ. -/
theorem numeral_lt_numeral_iff
    {digits others : List Char}
    (length : digits.length = others.length)
    (areDigits : ∀ digit ∈ digits, digit.isDigit = true)
    (othersAreDigits : ∀ digit ∈ others, digit.isDigit = true) :
    numeral digits < numeral others ↔ digits < others := by
  induction digits generalizing others with
  | nil =>
    rw [List.length_eq_zero_iff.mp length.symm]
    decide
  | cons digit digits induction =>
    cases others with
    | nil => cases length
    | cons other others =>
      rw [List.forall_mem_cons] at areDigits othersAreDigits
      have same : digits.length = others.length := Nat.succ.inj length
      have behind := induction same areDigits.2 othersAreDigits.2
      have value := (toNat_of_isDigit areDigits.1).1
      have otherValue := (toNat_of_isDigit othersAreDigits.1).1
      have less :
          digit < other ↔
            digit.toNat - '0'.toNat < other.toNat - '0'.toNat := by
        change digit.toNat < other.toNat ↔ _
        omega
      have equal :
          digit = other ↔
            digit.toNat - '0'.toNat = other.toNat - '0'.toNat := by
        rw [← Char.toNat_inj]
        omega
      have bound := numeral_lt areDigits.2
      rw [same] at bound
      rw [numeral_cons, numeral_cons, same, List.cons_lt_cons_iff, ← behind,
        less, equal]
      exact mul_add_lt_mul_add_iff bound (numeral_lt othersAreDigits.2)

/-! ## Fields of a text -/

/-- Texts in which a part of the same length stands in front are ordered by
this part first. -/
theorem append_lt_append_iff
    {front others back rest : List Char}
    (length : front.length = others.length) :
    front ++ back < others ++ rest ↔
      front < others ∨ front = others ∧ back < rest := by
  induction front generalizing others with
  | nil =>
    rw [List.length_eq_zero_iff.mp length.symm]
    simp
  | cons first front induction =>
    cases others with
    | nil => cases length
    | cons other others =>
      rw [List.cons_append, List.cons_append, List.cons_lt_cons_iff,
        List.cons_lt_cons_iff, induction (Nat.succ.inj length),
        List.cons.injEq, and_or_left, or_assoc, and_assoc]

theorem length_padded_of_lt
    {width number : Nat}
    (positive : 0 < width)
    (fits : number < 10 ^ width) :
    (padded width number).length = width :=
  length_padded (Nat.length_toDigits_le_iff (by decide) positive |>.mpr fits)

/-- Numbers are ordered as they are written with one width. -/
theorem padded_lt_padded_iff
    {width number other : Nat}
    (positive : 0 < width)
    (fits : number < 10 ^ width)
    (otherFits : other < 10 ^ width) :
    padded width number < padded width other ↔ number < other := by
  have length :
      (padded width number).length = (padded width other).length := by
    rw [length_padded_of_lt positive fits,
      length_padded_of_lt positive otherFits]
  rw [← numeral_lt_numeral_iff length (fun _ => isDigit_of_mem_padded)
    (fun _ => isDigit_of_mem_padded), numeral_padded, numeral_padded]

/-- Texts that begin with numbers of one width are ordered by these numbers
first. -/
theorem padded_append_lt_iff
    {width number other : Nat}
    (positive : 0 < width)
    (fits : number < 10 ^ width)
    (otherFits : other < 10 ^ width)
    (rest others : List Char) :
    padded width number ++ rest < padded width other ++ others ↔
      number < other ∨ number = other ∧ rest < others := by
  have length :
      (padded width number).length = (padded width other).length := by
    rw [length_padded_of_lt positive fits,
      length_padded_of_lt positive otherFits]
  have equal : padded width number = padded width other ↔ number = other := by
    constructor
    · intro same
      rw [← numeral_padded width number, same, numeral_padded]
    · rintro rfl
      rfl
  rw [append_lt_append_iff length,
    padded_lt_padded_iff positive fits otherFits, equal]

/-- A mark in front of both fields does not matter. -/
theorem cons_padded_append_lt_iff
    {number other : Nat}
    (fits : number < 10 ^ 2)
    (otherFits : other < 10 ^ 2)
    (mark : Char)
    (rest others : List Char) :
    mark :: (padded 2 number ++ rest) < mark :: (padded 2 other ++ others) ↔
      number < other ∨ number = other ∧ rest < others := by
  rw [← padded_append_lt_iff (by decide) fits otherFits rest others]
  simp

/-! ## Texts with four digits for the year -/

/-- Every field but the year is written with two digits. -/
theorem fields_lt (moment : Moment) :
    moment.month < 10 ^ 2 ∧
      moment.day < 10 ^ 2 ∧
      moment.hour < 10 ^ 2 ∧
      moment.minute < 10 ^ 2 ∧
      moment.second < 10 ^ 2 := by
  have month := moment.month_mem
  have day := moment.day_le
  have hour := moment.hour_lt
  have minute := moment.minute_lt
  have second := moment.second_le
  omega

/-- The year has at most four digits, and so no sign. -/
def HasPlainYear (moment : Moment) : Prop :=
  0 ≤ moment.year ∧ moment.year ≤ 9999

instance (moment : Moment) : Decidable moment.HasPlainYear :=
  inferInstanceAs (Decidable (_ ∧ _))

namespace HasPlainYear

section

variable
    {moment : Moment}
    (plain : moment.HasPlainYear)

include plain

theorem natAbs_lt : moment.year.natAbs < 10 ^ 4 := by
  rcases plain with ⟨lower, upper⟩
  omega

theorem yearText_eq : yearText moment.year = padded 4 moment.year.natAbs := by
  rcases plain with ⟨lower, upper⟩
  rw [yearText, if_neg (by omega), if_neg (by omega)]

theorem length_text : moment.text.length = 19 := by
  rcases moment.fields_lt with ⟨month, day, hour, minute, second⟩
  have two {number : Nat} (fits : number < 10 ^ 2) :
      (padded 2 number).length = 2 :=
    length_padded_of_lt (by decide) fits
  rw [text, String.length_ofList, chars, fieldChars, plain.yearText_eq]
  simp only [List.length_append, List.length_cons]
  rw [length_padded_of_lt (by decide) plain.natAbs_lt, two month, two day,
    two hour, two minute, two second]

end

/-- The texts of two moments are ordered as the moments are. -/
theorem text_lt_text_iff
    {one other : Moment}
    (plain : one.HasPlainYear)
    (otherPlain : other.HasPlainYear) :
    one.text < other.text ↔ one < other := by
  rcases one.fields_lt with ⟨month, day, hour, minute, second⟩
  rcases other.fields_lt with
    ⟨otherMonth, otherDay, otherHour, otherMinute, otherSecond⟩
  have year :
      (one.year.natAbs : Int) = one.year ∧
        (other.year.natAbs : Int) = other.year :=
    ⟨Int.natAbs_of_nonneg plain.1, Int.natAbs_of_nonneg otherPlain.1⟩
  have order : one < other ↔ one.fields < other.fields := Iff.rfl
  rw [order, fields, fields, ← year.1, ← year.2, String.lt_iff, text, text,
    String.toList_ofList, String.toList_ofList, chars, chars, fieldChars,
    fieldChars, plain.yearText_eq, otherPlain.yearText_eq]
  simp only [List.append_assoc, List.cons_append]
  -- Field by field, the texts are compared as the fields are.
  rw [padded_append_lt_iff (by decide) plain.natAbs_lt otherPlain.natAbs_lt,
    cons_padded_append_lt_iff month otherMonth,
    cons_padded_append_lt_iff day otherDay,
    cons_padded_append_lt_iff hour otherHour,
    cons_padded_append_lt_iff minute otherMinute,
    List.cons_lt_cons_iff, padded_lt_padded_iff (by decide) second otherSecond]
  simp only [Char.lt_irrefl, List.cons_lt_cons_iff, List.not_lt_nil,
    Int.ofNat_lt, Int.natCast_inj, true_and, and_false, false_or, or_false]

end HasPlainYear

end Scenario.Moment
