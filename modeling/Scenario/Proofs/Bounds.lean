import Mathlib
import Scenario.Proofs.Condition
import Scenario.Proofs.Moment.Order
import Scenario.Proofs.Moment.Spelling

/-!
# The bounds of a condition

A condition reads its two bounds as moments, however these are spelled.  A
change time is written in a way that is read back as the same moment, and so is
every moment of the calendar.  Two bounds are written alike exactly if none of
them is later than the other, so a condition does not hold either way round.
If both years have four digits, the later bound is the one whose text is the
greater one, character by character.
-/

namespace Scenario.BuiltIn

/-- A text written anew: the text of the moment that it is read as. -/
def rewritten (value : String) : Except ActionError String :=
  (momentOf value).map Moment.text

theorem momentOf_eq_ok_iff {value : String} {moment : Moment} :
    momentOf value = .ok moment ↔
      ∃ spelling : Moment.Spelling,
        spelling.chars = value.toList ∧ spelling.Spells moment := by
  rw [momentOf, mapError_eq_ok_iff, Moment.ofText_eq_ok_iff_exists_spelling]

theorem rewritten_eq_ok_iff {value text : String} :
    rewritten value = .ok text ↔
      ∃ moment, momentOf value = .ok moment ∧ moment.text = text := by
  rw [rewritten]
  cases momentOf value <;> simp [Except.map]

/-- A text is written anew once: then it stays as it is. -/
theorem rewritten_of_rewritten
    {value text : String}
    (written : rewritten value = .ok text) :
    momentOf text = momentOf value ∧ rewritten text = .ok text := by
  rcases rewritten_eq_ok_iff.mp written with ⟨moment, read, rfl⟩
  refine ⟨(momentOf_text moment).trans read.symm, ?_⟩
  exact rewritten_eq_ok_iff.mpr ⟨moment, momentOf_text moment, rfl⟩

/-- Two bounds that are moments decide a condition. -/
theorem conditionResult_of_moments
    {first second : String}
    {lower upper : Moment}
    (read : momentOf first = .ok lower)
    (otherRead : momentOf second = .ok upper)
    {carried : List String}
    (given : carried ≠ []) :
    conditionResult (first :: second :: carried) =
      if upper < lower then .ok (carried.getLast given)
      else .error .falseCondition := by
  rcases List.exists_cons_of_ne_nil given with ⟨third, rest, rfl⟩
  rw [conditionResult_eq_verdictOn first second third
    (List.getLast?_eq_some_getLast given), read, otherRead]
  rfl

theorem conditionResult_ne_ok_iff
    {first second : String}
    {lower upper : Moment}
    (read : momentOf first = .ok lower)
    (otherRead : momentOf second = .ok upper)
    (third : String) :
    (∀ result, conditionResult [first, second, third] ≠ .ok result) ↔
      ¬upper < lower := by
  rw [conditionResult_of_moments read otherRead (List.cons_ne_nil third [])]
  split <;> simp_all

/-- Two bounds are written alike exactly if none of them is later than the
other. -/
theorem rewritten_eq_iff
    {first second text otherText : String}
    (written : rewritten first = .ok text)
    (otherWritten : rewritten second = .ok otherText)
    (third : String) :
    let forth := conditionResult [first, second, third]
    let back := conditionResult [second, first, third]
    (text = otherText ↔
        (∀ result, forth ≠ .ok result) ∧ ∀ result, back ≠ .ok result) ∧
      (text = otherText →
        forth = .error .falseCondition ∧ back = .error .falseCondition) := by
  intro forth back
  rcases rewritten_eq_ok_iff.mp written with ⟨lower, read, rfl⟩
  rcases rewritten_eq_ok_iff.mp otherWritten with ⟨upper, otherRead, rfl⟩
  dsimp only [forth, back]
  rw [conditionResult_ne_ok_iff read otherRead,
    conditionResult_ne_ok_iff otherRead read, Moment.text_eq_text_iff,
    Moment.eq_iff_not_lt]
  refine ⟨Iff.rfl, ?_⟩
  rintro ⟨notAfter, notBefore⟩
  rw [conditionResult_of_moments read otherRead (List.cons_ne_nil third []),
    conditionResult_of_moments otherRead read (List.cons_ne_nil third []),
    if_neg notAfter, if_neg notBefore]
  exact ⟨rfl, rfl⟩

/-- Every moment is read back from its text, and so is every change time whose
local time the calendar has.  A text is read as a moment exactly if it spells it.  Written anew
it is read as the same moment, and is not changed any more.  Two bounds are
written alike exactly if none of them is later than the other. -/
theorem moments_read_back :
    (∀ moment : Moment, momentOf moment.text = .ok moment) ∧
      (∀ (host : Host) (path stamp : String),
        changeTimeOn host [path] = .ok stamp →
          ∃ status,
            host.fileStatus? path = some status ∧
              ∀ moment,
                Moment.ofSeconds? (status.changed + status.offset) =
                    some moment →
                  host.changeMoment? path = some moment ∧
                    momentOf stamp = .ok moment) ∧
      (∀ (value : String) (moment : Moment),
        momentOf value = .ok moment ↔
          ∃ spelling : Moment.Spelling,
            spelling.chars = value.toList ∧ spelling.Spells moment) ∧
      (∀ value text,
        rewritten value = .ok text →
          momentOf text = momentOf value ∧ rewritten text = .ok text) ∧
      ∀ first second text otherText,
        rewritten first = .ok text →
          rewritten second = .ok otherText →
            ∀ third,
              let forth := conditionResult [first, second, third]
              let back := conditionResult [second, first, third]
              (text = otherText ↔
                  (∀ result, forth ≠ .ok result) ∧
                    ∀ result, back ≠ .ok result) ∧
                (text = otherText →
                  forth = .error .falseCondition ∧
                    back = .error .falseCondition) := by
  refine ⟨momentOf_text, ?_, fun _ _ => momentOf_eq_ok_iff,
    fun _ _ => rewritten_of_rewritten,
    fun _ _ _ _ written otherWritten => rewritten_eq_iff written otherWritten⟩
  intro host path stamp told
  rw [changeTimeOn_eq_ok_iff, Host.changeStamp?,
    Option.bind_eq_some_iff] at told
  rcases told with ⟨status, named, told⟩
  refine ⟨status, named, fun moment localTime => ⟨?_, ?_⟩⟩
  · rw [FileStatus.stamp?, Option.map_eq_some_iff] at told
    rcases told with ⟨universal, inCalendar, -⟩
    rw [Host.changeMoment?, named, Option.bind_some, FileStatus.moment?,
      inCalendar, Option.bind_some, localTime]
  · rw [FileStatus.eq_of_stamp? told, Moment.textOfSeconds_eq_text localTime,
      momentOf_text]

/-- A leap second on a leap day, in two spellings. -/
theorem moments_read_back_leap_second :
    let first := " +2024-2-29\t9:5:60"
    let second := "2024-02-2909:05: 60"
    let text := "2024-02-29 09:05:60"
    rewritten first = .ok text ∧
      rewritten second = .ok text ∧
      rewritten text = .ok text ∧
      conditionResult [first, second, "a.txt"] = .error .falseCondition ∧
      conditionResult [second, first, "a.txt"] = .error .falseCondition := by
  intro first second text
  have written : rewritten first = .ok text := by cbv
  have otherWritten : rewritten second = .ok text := by cbv
  rcases moments_read_back with ⟨-, -, -, settled, alike⟩
  exact ⟨written, otherWritten, (settled first text written).2,
    (alike first second text text written otherWritten "a.txt").2 rfl⟩

/-- A condition on the texts of two moments with four digits for the year holds
exactly if the first text is the greater one, character by character.  It then
gives the last of the texts that it is handed. -/
theorem conditionResult_of_plain_years
    (first second : Moment)
    (plain : first.HasPlainYear)
    (otherPlain : second.HasPlainYear)
    (carried : List String)
    (given : carried ≠ []) :
    first.text.length = 19 ∧
      second.text.length = 19 ∧
      conditionResult (first.text :: second.text :: carried) =
        if second.text < first.text then .ok (carried.getLast given)
        else .error .falseCondition := by
  refine ⟨plain.length_text, otherPlain.length_text, ?_⟩
  rw [conditionResult_of_moments (momentOf_text first) (momentOf_text second)
    given]
  simp only [otherPlain.text_lt_text_iff plain]

/-- A leap second at the end of a year is before the first second of the next
one. -/
theorem conditionResult_of_plain_years_leap_second :
    let leap : Moment := {
      year := 2016, month := 12, day := 31, hour := 23, minute := 59
      second := 60
      year_mem := by decide
      day_mem := by decide
      hour_lt := by decide
      minute_lt := by decide
      second_le := by decide }
    let behind : Moment := {
      year := 2017, month := 1, day := 1, hour := 0, minute := 0, second := 0
      year_mem := by decide
      day_mem := by decide
      hour_lt := by decide
      minute_lt := by decide
      second_le := by decide }
    leap.HasPlainYear ∧
      behind.HasPlainYear ∧
      conditionResult [behind.text, leap.text, "x", "a.txt"] = .ok "a.txt" ∧
      conditionResult [leap.text, behind.text, "x", "a.txt"] =
        .error .falseCondition := by
  intro leap behind
  have plain : leap.HasPlainYear := by decide
  have behindPlain : behind.HasPlainYear := by decide
  have less : leap.text < behind.text :=
    (plain.text_lt_text_iff behindPlain).mpr (by decide)
  have notLess : ¬behind.text < leap.text :=
    (not_congr (behindPlain.text_lt_text_iff plain)).mpr (by decide)
  have given : ["x", "a.txt"] ≠ [] := by decide
  refine ⟨plain, behindPlain, ?_, ?_⟩
  · exact (conditionResult_of_plain_years behind leap behindPlain plain _
      given).2.2.trans (if_pos less)
  · exact (conditionResult_of_plain_years leap behind plain behindPlain _
      given).2.2.trans (if_neg notLess)

end Scenario.BuiltIn
