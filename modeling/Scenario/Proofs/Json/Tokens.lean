import Scenario.Json.Parser
import Scenario.Json.Printer

/-!
# Reading back strings and integers

A string is read back from its quoted text, and an integer of at most 64 bits
from its digits.  A string ends with its quote, whatever follows it.  A number
has no end of its own: it is read back only in front of a text that does not
go on with it.
-/

namespace Scenario.Json

/-! ## Strings -/

theorem hexUnit?_hexChar {unit : Nat} (control : unit < 32) :
    hexUnit? '0' '0' (Text.hexChar (unit / 16)) (Text.hexChar (unit % 16)) =
      some unit := by
  have zero : Text.hexDigit? '0' = some 0 := rfl
  have high : Text.hexDigit? (Text.hexChar (unit / 16)) = some (unit / 16) :=
    Text.hexDigit?_hexChar (by omega)
  have low : Text.hexDigit? (Text.hexChar (unit % 16)) = some (unit % 16) :=
    Text.hexDigit?_hexChar (by omega)
  simp only [hexUnit?, zero, high, low, Option.bind_eq_bind, Option.bind_some,
    Option.pure_def, Option.some_inj]
  omega

/-- A control character is read back from its `\u` escape. -/
theorem readString_control
    (done : List Char)
    {character : Char}
    (control : character < ' ')
    (rest : List Char) :
    readString done
        (['\\', 'u', '0', '0', Text.hexChar (character.toNat / 16),
          Text.hexChar (character.toNat % 16)] ++ rest) =
      readString (character :: done) rest := by
  have small : character.toNat < 32 := control
  have notTrailing : isTrailingSurrogate character.toNat = false := by
    simp only [isTrailingSurrogate, Bool.and_eq_false_iff,
      decide_eq_false_iff_not]
    omega
  have notLeading : isLeadingSurrogate character.toNat = false := by
    simp only [isLeadingSurrogate, Bool.and_eq_false_iff,
      decide_eq_false_iff_not]
    omega
  simp [readString, hexUnit?_hexChar small, notTrailing, notLeading]

/-- A character is read back from the way it is written. -/
theorem readString_escape
    (done : List Char)
    (character : Char)
    (rest : List Char) :
    readString done (escape character ++ rest) =
      readString (character :: done) rest := by
  unfold escape
  split
  · rfl
  · rfl
  · rfl
  · rfl
  · rfl
  · rfl
  · rfl
  · split
    · rename_i control
      exact readString_control done control rest
    · -- The character stands for itself, so it starts no escape.
      rename_i notQuote notBackslash _ _ _ _ _ printable
      rw [List.singleton_append, readString]
      · rw [if_neg printable]
      · exact notQuote
      all_goals simp_all

theorem readString_flatMap_escape (done text rest : List Char) :
    readString done (text.flatMap escape ++ '"' :: rest) =
      .ok (String.ofList (done.reverse ++ text), rest) := by
  induction text generalizing done with
  | nil =>
    rw [List.append_nil]
    rfl
  | cons character text induction =>
    rw [List.flatMap_cons, List.append_assoc, readString_escape, induction,
      List.reverse_cons, List.append_assoc, List.singleton_append]

/-- A string is read back from behind its opening quote. -/
theorem readString_quote (text : String) (rest : List Char) :
    readString [] (text.toList.flatMap escape ++ '"' :: rest) =
      .ok (text, rest) := by
  rw [readString_flatMap_escape, List.reverse_nil, List.nil_append,
    String.ofList_toList]

/-! ## Integers -/

/-- No number that a text stands behind goes on with it. -/
def EndsNumber (rest : List Char) : Prop :=
  ∀ character ∈ rest.head?,
    character.isDigit = false ∧
      character ≠ '.' ∧ character ≠ 'e' ∧ character ≠ 'E'

theorem endsNumber_nil : EndsNumber [] := by
  intro character impossible
  cases impossible

theorem endsNumber_cons
    {character : Char}
    (foreign :
      character.isDigit = false ∧
        character ≠ '.' ∧ character ≠ 'e' ∧ character ≠ 'E')
    (rest : List Char) :
    EndsNumber (character :: rest) := by
  intro first isFirst
  cases isFirst
  exact foreign

theorem digitValue_digitChar {digit : Nat} (single : digit < 10) :
    digitValue digit.digitChar = digit := by
  unfold digitValue
  rw [Nat.toNat_digitChar_of_lt_ten single]
  exact Nat.add_sub_cancel_left 48 digit

/-- Read one digit more, if the significand has room for it. -/
theorem read_digitChar
    {significand kept digit : Nat}
    (single : digit < 10)
    (small : significand * 10 + digit < 0x10000000000000000)
    (rest : List Char) :
    Digits.read { significand, kept } (digit.digitChar :: rest) =
      Digits.read
        { significand := significand * 10 + digit, kept := kept + 1 }
        rest := by
  have isDigit : digit.digitChar.isDigit = true := by
    rw [Nat.isDigit_digitChar, decide_eq_true single]
  rw [Digits.read, if_pos isDigit, digitValue_digitChar single, Digits.push,
    if_pos ⟨rfl, small⟩]

/-- The digits of a number fold into the number. -/
theorem read_digitChars
    {number : Nat}
    (small : number < 0x10000000000000000)
    (rest : List Char) :
    Digits.read {} (Decimal.digitChars number ++ rest) =
      Digits.read
        { significand := number, kept := (Decimal.digitChars number).length }
        rest := by
  -- The last digit comes behind the digits of a tenth of the number.
  induction number using Nat.strongRecOn generalizing rest with
  | ind number induction =>
    unfold Decimal.digitChars at induction ⊢
    rcases Nat.lt_or_ge number 10 with single | long
    · rw [Nat.toDigits_of_lt_base single, List.singleton_append,
        read_digitChar single (by omega), Nat.zero_mul, Nat.zero_add]
      rfl
    · have tenth : number / 10 < number := by omega
      have last : number % 10 < 10 := Nat.mod_lt _ (by decide)
      have whole : number / 10 * 10 + number % 10 = number :=
        Nat.div_add_mod' number 10
      rw [Nat.toDigits_of_base_le (by decide) long, List.append_assoc,
        List.singleton_append, induction _ tenth (by omega),
        read_digitChar last (by omega), whole, List.length_append]
      rfl

theorem read_of_endsNumber
    (digits : Digits)
    {rest : List Char}
    (ends : EndsNumber rest) :
    digits.read rest = (digits, rest) := by
  cases rest with
  | nil => rfl
  | cons character rest =>
    have foreign := (ends character rfl).1
    rw [Digits.read, foreign]
    rfl

theorem readAfterWhole_of_endsNumber
    (negative : Bool)
    (whole : Digits)
    {rest : List Char}
    (ends : EndsNumber rest) :
    readAfterWhole negative whole rest = finishInteger negative whole rest := by
  unfold readAfterWhole
  split
  · exact absurd rfl (ends _ rfl).2.1
  · exact absurd rfl (ends _ rfl).2.2.1
  · exact absurd rfl (ends _ rfl).2.2.2
  · rfl

/-- Only zero is written with a zero in front. -/
theorem eq_zero_of_head?_digitChars
    {number : Nat}
    (zero : (Decimal.digitChars number).head? = some '0') :
    number = 0 := by
  induction number using Nat.strongRecOn with
  | ind number induction =>
    unfold Decimal.digitChars at induction zero
    rcases Nat.lt_or_ge number 10 with single | long
    · rw [Nat.toDigits_of_lt_base single, List.head?_cons,
        Option.some_inj] at zero
      have code := Nat.toNat_digitChar_of_lt_ten single
      rw [zero] at code
      change 48 = 48 + number at code
      omega
    · have begun : (Nat.toDigits 10 (number / 10)).head?.isSome := by
        rw [List.isSome_head?]
        exact Nat.toDigits_ne_nil
      rw [Nat.toDigits_of_base_le (by decide) long, List.head?_append,
        Option.or_of_isSome begun] at zero
      have tenth := induction (number / 10) (by omega) zero
      omega

/-- The digits of a number begin with a digit. -/
theorem digitChars_eq_cons (number : Nat) :
    ∃ first others,
      Decimal.digitChars number = first :: others ∧ first.isDigit = true := by
  rcases List.exists_cons_of_ne_nil
      (Nat.toDigits_ne_nil : Nat.toDigits 10 number ≠ []) with
    ⟨first, others, digits⟩
  refine ⟨first, others, digits, ?_⟩
  apply Nat.isDigit_of_mem_toDigits (b := 10) (n := number)
    (by decide) (by decide)
  rw [digits]
  exact List.mem_cons_self

/-- The digits of a number are its whole part. -/
theorem readNumber_digitChars
    (negative : Bool)
    {number : Nat}
    (small : number < 0x10000000000000000)
    {rest : List Char}
    (ends : EndsNumber rest) :
    ∃ kept,
      readNumber negative (Decimal.digitChars number ++ rest) =
        finishInteger negative { significand := number, kept } rest := by
  have read :
      Digits.read {} (Decimal.digitChars number ++ rest) =
        ({ significand := number,
            kept := (Decimal.digitChars number).length },
          rest) :=
    (read_digitChars small rest).trans (read_of_endsNumber _ ends)
  rcases digitChars_eq_cons number with ⟨first, others, digits, isDigit⟩
  unfold readNumber
  rw [digits, List.cons_append] at read ⊢
  split
  · rename_i nothing
    cases nothing
  · -- A zero in front is all that there is of the number.
    rename_i digit behind zero
    have alone : number = 0 := by
      apply eq_zero_of_head?_digitChars
      rw [digits, (List.cons.inj zero).1]
      rfl
    subst alone
    cases digits
    cases zero
    rw [(ends digit rfl).1, if_neg Bool.false_ne_true,
      readAfterWhole_of_endsNumber negative {} ends]
    exact ⟨0, rfl⟩
  · rename_i character behind _ whole
    cases whole
    rw [if_pos isDigit, read]
    exact ⟨_, readAfterWhole_of_endsNumber negative _ ends⟩

/-- The number is an integer that a signed or an unsigned word of 64 bits can
hold. -/
def Number.IsWord : Number → Prop
  | .integer value =>
    -0x8000000000000000 ≤ value ∧ value < 0x10000000000000000
  | .float _ => False

theorem readNumber_of_nonneg
    {value : Int}
    (word : (Number.integer value).IsWord)
    (nonneg : 0 ≤ value)
    {rest : List Char}
    (ends : EndsNumber rest) :
    readNumber false (Decimal.digitChars value.natAbs ++ rest) =
      .ok (.integer value, rest) := by
  have small : value.natAbs < 0x10000000000000000 := by
    have := word.2
    omega
  rcases readNumber_digitChars false small ends with ⟨kept, read⟩
  have whole : (value.natAbs : Int) = value := Int.natAbs_of_nonneg nonneg
  rw [read, finishInteger, if_neg (by simp), if_pos Bool.not_false]
  dsimp only
  rw [whole]

theorem readNumber_of_neg
    {value : Int}
    (word : (Number.integer value).IsWord)
    (negative : value < 0)
    {rest : List Char}
    (ends : EndsNumber rest) :
    readNumber true (Decimal.digitChars value.natAbs ++ rest) =
      .ok (.integer value, rest) := by
  have small : value.natAbs ≤ 0x8000000000000000 := by
    have := word.1
    omega
  have room : value.natAbs < 0x10000000000000000 := by omega
  rcases readNumber_digitChars true room ends with ⟨kept, read⟩
  have fits :
      ¬(value.natAbs = 0 ∨ 0x8000000000000000 < value.natAbs) := by
    omega
  have whole : -(value.natAbs : Int) = value := by omega
  rw [read, finishInteger, if_neg (by simp), if_neg (by simp), if_neg fits]
  dsimp only
  rw [whole]

end Scenario.Json
