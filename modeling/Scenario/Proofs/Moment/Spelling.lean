import Scenario.Proofs.Moment.Text

/-!
# How moments may be spelled

A text is read as a moment exactly if it spells the moment.  White space may
stand in front of every number, and zeros in front of a number may be left out.
A year has at most four digits, or a sign and any number of digits; all other
fields have one digit or two.  Date and time may stand without white space
between them if the day has two digits.
-/

namespace Scenario.Moment

/-! ## Spellings -/

/-- Digits spell a number. -/
structure SpellsNumber (digits : List Char) (number : Nat) : Prop where
  begun : digits ≠ []
  areDigits : ∀ digit ∈ digits, digit.isDigit = true
  numeral_eq : numeral digits = number

/-- Digits spell a year, with a sign or without. -/
inductive SpellsYear : List Char → Int → Prop where
  | negative {digits number}
      (spells : SpellsNumber digits number) :
    SpellsYear ('-' :: digits) (-(number : Int))
  | positive {digits number}
      (spells : SpellsNumber digits number) :
    SpellsYear ('+' :: digits) number
  | unsigned {digits number}
      (spells : SpellsNumber digits number)
      (length_le : digits.length ≤ 4) :
    SpellsYear digits number

/-- A text is white space. -/
def IsGap (text : List Char) : Prop :=
  ∀ character ∈ text, Text.isBlank character = true

/-- A field behind the year, as it may be spelled. -/
structure Field where
  /-- What stands in front of the digits. -/
  gap : List Char := []
  digits : List Char
deriving DecidableEq, Repr

namespace Field

def chars (field : Field) : List Char :=
  field.gap ++ field.digits

/-- The field spells a number with at most two digits. -/
structure Spells (field : Field) (number : Nat) : Prop
    extends SpellsNumber field.digits number where
  isGap : IsGap field.gap
  length_le : field.digits.length ≤ 2

end Field

/-- A moment, as it may be spelled. -/
structure Spelling where
  /-- What stands in front of the year. -/
  gap : List Char := []
  year : List Char
  month : Field
  day : Field
  hour : Field
  minute : Field
  second : Field
deriving DecidableEq, Repr

namespace Spelling

def chars (spelling : Spelling) : List Char :=
  spelling.gap ++ spelling.year ++ '-' :: spelling.month.chars ++
    '-' :: spelling.day.chars ++ spelling.hour.chars ++
    ':' :: spelling.minute.chars ++ ':' :: spelling.second.chars

/-- The spelling spells a moment. -/
structure Spells (spelling : Spelling) (moment : Moment) : Prop where
  isGap : IsGap spelling.gap
  year : SpellsYear spelling.year moment.year
  month : spelling.month.Spells moment.month
  day : spelling.day.Spells moment.day
  hour : spelling.hour.Spells moment.hour
  minute : spelling.minute.Spells moment.minute
  second : spelling.second.Spells moment.second
  /-- The hour is not taken for a digit of the day. -/
  apart : spelling.hour.gap = [] → spelling.day.digits.length = 2

end Spelling

/-! ## Numbers -/

/-- A number of at most so many digits ends in front of a text. -/
def EndsBefore (limit : Nat) (digits rest : List Char) : Prop :=
  digits.length = limit ∨
    digits.length ≤ limit ∧
      ∀ character ∈ rest.head?, character.isDigit = false

theorem EndsBefore.length_le
    {limit : Nat}
    {digits rest : List Char}
    (ends : EndsBefore limit digits rest) :
    digits.length ≤ limit := by
  rcases ends with full | ⟨short, -⟩
  · exact Nat.le_of_eq full
  · exact short

theorem endsBefore_nil
    {limit : Nat}
    {digits : List Char}
    (length_le : digits.length ≤ limit) :
    EndsBefore limit digits [] :=
  .inr ⟨length_le, fun _ absent => nomatch absent⟩

theorem endsBefore_cons
    {limit : Nat}
    {digits : List Char}
    (length_le : digits.length ≤ limit)
    {mark : Char}
    (foreign : mark.isDigit = false)
    (rest : List Char) :
    EndsBefore limit digits (mark :: rest) := by
  refine .inr ⟨length_le, ?_⟩
  rintro first ⟨⟩
  exact foreign

/-- The digits in front of a text, up to the limit, end before the rest. -/
theorem endsBefore_takeWhile (limit : Nat) (text : List Char) :
    let digits := (text.take limit).takeWhile Char.isDigit
    text = digits ++ text.drop digits.length ∧
      EndsBefore limit digits (text.drop digits.length) := by
  induction limit generalizing text with
  | zero => exact ⟨rfl, .inl rfl⟩
  | succ limit induction =>
    cases text with
    | nil => exact ⟨rfl, endsBefore_nil (Nat.zero_le _)⟩
    | cons character text =>
      rw [List.take_succ_cons, List.takeWhile_cons]
      cases isDigit : character.isDigit with
      | false => exact ⟨rfl, endsBefore_cons (Nat.zero_le _) isDigit text⟩
      | true =>
        rcases induction text with ⟨cut, ends⟩
        refine ⟨congrArg (List.cons character) cut, ?_⟩
        rcases ends with full | ⟨short, foreign⟩
        · exact .inl (congrArg Nat.succ full)
        · exact .inr ⟨Nat.succ_le_succ short, foreign⟩

/-- The digits that are read for a number are as many as there are, up to the
limit. -/
theorem exists_digits_of_readNumber
    {limit number : Nat}
    {text rest : List Char}
    (read : readNumber limit text = .ok (number, rest)) :
    ∃ digits,
      text = digits ++ rest ∧
        SpellsNumber digits number ∧
        EndsBefore limit digits rest := by
  rcases endsBefore_takeWhile limit text with ⟨cut, ends⟩
  have areDigits :
      ∀ digit ∈ (text.take limit).takeWhile Char.isDigit,
        digit.isDigit = true :=
    List.all_eq_true.mp List.all_takeWhile
  unfold readNumber at read
  split at read
  · cases read
  · split at read
    · cases read
    · next begun =>
      cases read
      exact ⟨_, cut, ⟨begun, areDigits, rfl⟩, ends⟩

theorem readNumber_of_spells
    {limit number : Nat}
    {digits : List Char}
    (spells : SpellsNumber digits number)
    {rest : List Char}
    (ends : EndsBefore limit digits rest) :
    readNumber limit (digits ++ rest) = .ok (number, rest) := by
  rw [readNumber_append spells.begun spells.areDigits ends, spells.numeral_eq]

/-! ## White space -/

theorem trimStart_gap_append
    {gap : List Char}
    (isGap : IsGap gap)
    (rest : List Char) :
    Text.trimStart (gap ++ rest) = Text.trimStart rest :=
  List.dropWhile_append_of_pos isGap

/-- Every text is white space and what is left of it without. -/
theorem exists_gap (text : List Char) :
    ∃ gap, IsGap gap ∧ text = gap ++ Text.trimStart text :=
  ⟨text.takeWhile Text.isBlank, List.all_eq_true.mp List.all_takeWhile,
    List.takeWhile_append_dropWhile.symm⟩

theorem trimStart_digits_append
    {digits : List Char}
    {number : Nat}
    (spells : SpellsNumber digits number)
    (rest : List Char) :
    Text.trimStart (digits ++ rest) = digits ++ rest := by
  rcases List.exists_cons_of_ne_nil spells.begun with ⟨first, others, rfl⟩
  have isDigit := spells.areDigits first (.head others)
  exact Text.trimStart_of_not_isBlank (isBlank_of_isDigit isDigit) _

/-! ## Fields -/

theorem exists_field_of_readField
    {least greatest number : Nat}
    {text rest : List Char}
    (read : readField least greatest text = .ok (number, rest)) :
    ∃ field : Field,
      text = field.chars ++ rest ∧
        field.Spells number ∧
        EndsBefore 2 field.digits rest := by
  rw [readField, bind_eq_ok_iff] at read
  rcases read with ⟨⟨found, left⟩, read, bounded⟩
  dsimp only at bounded
  split at bounded
  · cases bounded
    rcases exists_gap text with ⟨gap, isGap, cut⟩
    rcases exists_digits_of_readNumber read with ⟨digits, trimmed, spells, ends⟩
    refine ⟨{ gap, digits }, ?_,
      { toSpellsNumber := spells, isGap, length_le := ends.length_le }, ends⟩
    rw [Field.chars, List.append_assoc, ← trimmed]
    exact cut
  · cases bounded

theorem readField_of_spells
    {least greatest number : Nat}
    {field : Field}
    (spells : field.Spells number)
    (lower : least ≤ number)
    (upper : number ≤ greatest)
    {rest : List Char}
    (ends : EndsBefore 2 field.digits rest) :
    readField least greatest (field.chars ++ rest) = .ok (number, rest) := by
  rw [readField, Field.chars, List.append_assoc,
    trimStart_gap_append spells.isGap,
    trimStart_digits_append spells.toSpellsNumber,
    readNumber_of_spells spells.toSpellsNumber ends]
  exact if_pos ⟨lower, upper⟩

/-! ## Years -/

theorem exists_year_of_readSigned
    {year : Int}
    {text rest : List Char}
    (read : readSigned text = .ok (year, rest)) :
    ∃ digits, text = digits ++ rest ∧ SpellsYear digits year := by
  unfold readSigned at read
  split at read
  · rw [bind_eq_ok_iff] at read
    rcases read with ⟨⟨number, left⟩, read, ⟨⟩⟩
    rcases exists_digits_of_readNumber read with ⟨digits, cut, spells, -⟩
    exact ⟨'-' :: digits, congrArg _ cut, .negative spells⟩
  · rw [bind_eq_ok_iff] at read
    rcases read with ⟨⟨number, left⟩, read, ⟨⟩⟩
    rcases exists_digits_of_readNumber read with ⟨digits, cut, spells, -⟩
    exact ⟨'+' :: digits, congrArg _ cut, .positive spells⟩
  · rw [bind_eq_ok_iff] at read
    rcases read with ⟨⟨number, left⟩, read, ⟨⟩⟩
    rcases exists_digits_of_readNumber read with ⟨digits, cut, spells, ends⟩
    exact ⟨digits, cut, .unsigned spells ends.length_le⟩

theorem exists_year_of_readYear
    {year : Int}
    {text rest : List Char}
    (read : readYear text = .ok (year, rest)) :
    ∃ gap digits,
      text = gap ++ digits ++ rest ∧ IsGap gap ∧ SpellsYear digits year := by
  rw [readYear, bind_eq_ok_iff] at read
  rcases read with ⟨⟨found, left⟩, read, bounded⟩
  dsimp only at bounded
  split at bounded
  · cases bounded
    rcases exists_gap text with ⟨gap, isGap, cut⟩
    rcases exists_year_of_readSigned read with ⟨digits, trimmed, spells⟩
    refine ⟨gap, digits, ?_, isGap, spells⟩
    rw [List.append_assoc, ← trimmed]
    exact cut
  · cases bounded

/-- A year is read up to the dash behind it. -/
theorem readSigned_of_spells
    {year : Int}
    {digits : List Char}
    (spells : SpellsYear digits year)
    (rest : List Char) :
    readSigned (digits ++ '-' :: rest) = .ok (year, '-' :: rest) := by
  have ends {limit : Nat} {digits : List Char} (le : digits.length ≤ limit) :
      EndsBefore limit digits ('-' :: rest) :=
    endsBefore_cons le rfl rest
  have long (digits : List Char) :
      digits.length ≤ (digits ++ '-' :: rest).length := by
    rw [List.length_append]
    exact Nat.le_add_right _ _
  cases spells with
  | @negative digits number spells =>
    rw [List.cons_append, readSigned,
      readNumber_of_spells spells (ends (long digits))]
    rfl
  | @positive digits number spells =>
    rw [List.cons_append, readSigned,
      readNumber_of_spells spells (ends (long digits))]
    rfl
  | @unsigned _ number spells length_le =>
    rcases List.exists_cons_of_ne_nil spells.begun with ⟨first, others, rfl⟩
    have isDigit := spells.areDigits first (.head others)
    have read := readNumber_of_spells spells (ends length_le)
    rw [List.cons_append] at read ⊢
    unfold readSigned
    split
    · next text =>
      cases text
      cases isDigit
    · next text =>
      cases text
      cases isDigit
    · rw [read]
      rfl

/-- No year begins with white space. -/
theorem trimStart_year_append
    {year : Int}
    {digits : List Char}
    (spells : SpellsYear digits year)
    (rest : List Char) :
    Text.trimStart (digits ++ rest) = digits ++ rest := by
  cases spells with
  | negative => rfl
  | positive => rfl
  | unsigned spells => exact trimStart_digits_append spells rest

theorem readYear_of_spells
    {gap digits : List Char}
    {year : Int}
    (isGap : IsGap gap)
    (spells : SpellsYear digits year)
    (fits : -0x80000000 ≤ year ∧ year < 0x80000000)
    (rest : List Char) :
    readYear (gap ++ (digits ++ '-' :: rest)) = .ok (year, '-' :: rest) := by
  rw [readYear, trimStart_gap_append isGap, trimStart_year_append spells,
    readSigned_of_spells spells]
  exact if_pos fits

/-! ## Moments -/

theorem readMark_eq_ok_iff
    {mark : Char}
    {text rest : List Char} :
    readMark mark text = .ok rest ↔ text = mark :: rest := by
  cases text with
  | nil => simp [readMark]
  | cons character text =>
    by_cases same : character = mark
    · simp [readMark, same]
    · simp [readMark, same]

/-- White space that has been dropped in front of a field is not missed. -/
@[simp]
theorem readField_trimStart (least greatest : Nat) (text : List Char) :
    readField least greatest (Text.trimStart text) =
      readField least greatest text := by
  rw [readField, readField, Text.trimStart_trimStart]

/-- An hour that stands directly behind the day begins with a digit. -/
theorem Field.Spells.endsBefore_iff
    {field : Field}
    {number : Nat}
    (spells : field.Spells number)
    {digits : List Char}
    (short : digits.length ≤ 2)
    (rest : List Char) :
    EndsBefore 2 digits (field.chars ++ rest) ↔
      (field.gap = [] → digits.length = 2) := by
  rcases field with ⟨_ | ⟨blank, gap⟩, fieldDigits⟩
  · constructor
    · rintro (full | ⟨-, foreign⟩) -
      · exact full
      · rcases List.exists_cons_of_ne_nil spells.begun with
          ⟨first, others, rfl⟩
        have isDigit := spells.areDigits first (.head others)
        cases isDigit.symm.trans (foreign first rfl)
    · intro full
      exact .inl (full rfl)
  · refine ⟨nofun, fun _ => endsBefore_cons short ?_ _⟩
    have isBlank : Text.isBlank blank = true :=
      spells.isGap blank (.head gap)
    cases isDigit : blank.isDigit with
    | false => rfl
    | true => cases isBlank.symm.trans (isBlank_of_isDigit isDigit)

/-- What is read as a moment spells it. -/
theorem exists_spelling_of_readChars
    {text : List Char}
    {moment : Moment}
    (read : readChars text = .ok moment) :
    ∃ spelling : Spelling, spelling.chars = text ∧ spelling.Spells moment := by
  simp only [readChars, bind_eq_ok_iff, readMark_eq_ok_iff,
    readField_trimStart] at read
  rcases read with
    ⟨⟨year, _⟩, readYear, behindYear, rfl, ⟨month, _⟩, readMonth, behindMonth,
      rfl, ⟨day, behindDay⟩, readDay, ⟨hour, _⟩, readHour, behindHour, rfl,
      ⟨minute, _⟩, readMinute, behindMinute, rfl, ⟨second, behind⟩, readSecond,
      read⟩
  dsimp only at readYear readMonth readDay readHour readMinute readSecond read
  split at read
  · next ended =>
    split at read
    · next found =>
      cases read
      rcases fields_of_ofFields? found with ⟨rfl, rfl, rfl, rfl, rfl, rfl⟩
      rw [List.isEmpty_iff.mp ended] at readSecond
      rcases exists_year_of_readYear readYear with
        ⟨gap, year, rfl, isGap, spellsYear⟩
      rcases exists_field_of_readField readMonth with
        ⟨month, rfl, spellsMonth, -⟩
      rcases exists_field_of_readField readDay with
        ⟨day, rfl, spellsDay, endsDay⟩
      rcases exists_field_of_readField readHour with
        ⟨hour, rfl, spellsHour, -⟩
      rcases exists_field_of_readField readMinute with
        ⟨minute, rfl, spellsMinute, -⟩
      rcases exists_field_of_readField readSecond with
        ⟨second, rfl, spellsSecond, -⟩
      refine ⟨{ gap, year, month, day, hour, minute, second }, ?_, {
        isGap
        year := spellsYear
        month := spellsMonth
        day := spellsDay
        hour := spellsHour
        minute := spellsMinute
        second := spellsSecond
        apart := (spellsHour.endsBefore_iff spellsDay.length_le _).mp endsDay
        }⟩
      simp [Spelling.chars]
    · cases read
  · cases read

/-- A spelling of a moment is read as the moment. -/
theorem readChars_of_spells
    {spelling : Spelling}
    {moment : Moment}
    (spells : spelling.Spells moment) :
    readChars spelling.chars = .ok moment := by
  have year := moment.year_mem
  have month := moment.month_mem
  have day := moment.day_mem
  have lastDay := moment.day_le
  have hour := moment.hour_lt
  have minute := moment.minute_lt
  simp only [Calendar.firstYear, Calendar.lastYear] at year
  have marked {digits rest : List Char} {mark : Char}
      (length_le : digits.length ≤ 2) (foreign : mark.isDigit = false) :
      EndsBefore 2 digits (mark :: rest) :=
    endsBefore_cons length_le foreign rest
  have endsDay :=
    (spells.hour.endsBefore_iff spells.day.length_le
      (':' :: spelling.minute.chars ++ ':' :: spelling.second.chars)).mpr
      spells.apart
  have readSecond := readField_of_spells spells.second (Nat.zero_le _)
    moment.second_le (endsBefore_nil spells.second.length_le)
  rw [List.append_nil] at readSecond
  simp only [Spelling.chars, List.append_assoc, List.cons_append] at endsDay ⊢
  refine bind_eq_ok_iff.mpr
    ⟨_, readYear_of_spells spells.isGap spells.year (by omega) _, ?_⟩
  refine bind_eq_ok_iff.mpr ⟨_, readMark_cons _ _, ?_⟩
  refine bind_eq_ok_iff.mpr
    ⟨_, readField_of_spells spells.month month.1 month.2
      (marked spells.month.length_le rfl), ?_⟩
  refine bind_eq_ok_iff.mpr ⟨_, readMark_cons _ _, ?_⟩
  refine bind_eq_ok_iff.mpr
    ⟨_, readField_of_spells spells.day day.1 lastDay endsDay, ?_⟩
  dsimp only
  rw [readField_trimStart]
  refine bind_eq_ok_iff.mpr
    ⟨_, readField_of_spells spells.hour (Nat.zero_le _) (by omega)
      (marked spells.hour.length_le rfl), ?_⟩
  refine bind_eq_ok_iff.mpr ⟨_, readMark_cons _ _, ?_⟩
  refine bind_eq_ok_iff.mpr
    ⟨_, readField_of_spells spells.minute (Nat.zero_le _) (by omega)
      (marked spells.minute.length_le rfl), ?_⟩
  refine bind_eq_ok_iff.mpr ⟨_, readMark_cons _ _, ?_⟩
  refine bind_eq_ok_iff.mpr ⟨_, readSecond, ?_⟩
  dsimp only
  rw [List.isEmpty_nil, if_pos rfl, ofFields?_fields]
  rfl

/-- A text is read as a moment exactly if it spells the moment. -/
theorem ofText_eq_ok_iff_exists_spelling {text : String} {moment : Moment} :
    ofText text = .ok moment ↔
      ∃ spelling : Spelling,
        spelling.chars = text.toList ∧ spelling.Spells moment := by
  constructor
  · exact exists_spelling_of_readChars
  · rintro ⟨spelling, chars, spells⟩
    rw [ofText, ← chars]
    exact readChars_of_spells spells

end Scenario.Moment
