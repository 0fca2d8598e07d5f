/-!
# Programs that may fail

A program of several steps gives a result if all of its steps do, and a list is
read if all of its items are.
-/

namespace Scenario

theorem bind_eq_ok_iff
    {ε α β : Type}
    {first : Except ε α}
    {next : α → Except ε β}
    {result : β} :
    first >>= next = .ok result ↔
      ∃ value, first = .ok value ∧ next value = .ok result := by
  cases first with
  | error error => simp [bind, Except.bind]
  | ok value => simp [bind, Except.bind]

theorem bind_eq_error_iff
    {ε α β : Type}
    {first : Except ε α}
    {next : α → Except ε β}
    {error : ε} :
    first >>= next = .error error ↔
      first = .error error ∨
        ∃ value, first = .ok value ∧ next value = .error error := by
  cases first with
  | error error => simp [bind, Except.bind]
  | ok value => simp [bind, Except.bind]

@[simp]
theorem mapError_ok
    {ε ε' α : Type}
    (translate : ε → ε')
    (value : α) :
    (Except.ok value).mapError translate = .ok value :=
  rfl

@[simp]
theorem mapError_error
    {ε ε' α : Type}
    (translate : ε → ε')
    (error : ε) :
    (Except.error error : Except ε α).mapError translate =
      .error (translate error) :=
  rfl

theorem mapError_eq_ok_iff
    {ε ε' α : Type}
    {translate : ε → ε'}
    {outcome : Except ε α}
    {result : α} :
    outcome.mapError translate = .ok result ↔ outcome = .ok result := by
  cases outcome <;> simp

section

variable
    {ε α β : Type}
    {read : α → Except ε β}
    {items : List α}
    {results : List β}

/-- Every item of a list that is read gives a result. -/
theorem exists_result_of_mapM
    (all : items.mapM read = .ok results)
    {item : α}
    (member : item ∈ items) :
    ∃ result ∈ results, read item = .ok result := by
  induction items generalizing results with
  | nil => cases member
  | cons first items induction =>
    rw [List.mapM_cons, bind_eq_ok_iff] at all
    rcases all with ⟨value, here, all⟩
    rw [bind_eq_ok_iff] at all
    rcases all with ⟨values, behind, ⟨⟩⟩
    rcases List.mem_cons.mp member with rfl | member
    · exact ⟨value, .head _, here⟩
    · rcases induction behind member with ⟨result, found, same⟩
      exact ⟨result, .tail _ found, same⟩

/-- Every result comes from an item of the list that is read. -/
theorem exists_item_of_mapM
    (all : items.mapM read = .ok results)
    {result : β}
    (member : result ∈ results) :
    ∃ item ∈ items, read item = .ok result := by
  induction items generalizing results with
  | nil =>
    cases all
    cases member
  | cons first items induction =>
    rw [List.mapM_cons, bind_eq_ok_iff] at all
    rcases all with ⟨value, here, all⟩
    rw [bind_eq_ok_iff] at all
    rcases all with ⟨values, behind, ⟨⟩⟩
    rcases List.mem_cons.mp member with rfl | member
    · exact ⟨first, .head _, here⟩
    · rcases induction behind member with ⟨item, found, same⟩
      exact ⟨item, .tail _ found, same⟩

/-- What is read of each item by itself is read of all of them. -/
theorem mapM_map_eq_ok
    {write : β → α}
    (each : ∀ result ∈ results, read (write result) = .ok result) :
    (results.map write).mapM read = .ok results := by
  induction results with
  | nil => rfl
  | cons first results induction =>
    rw [List.map_cons, List.mapM_cons, each first (.head _),
      induction fun result member => each result (.tail _ member)]
    rfl

end

/-- A fold that fails does so at one of its items. -/
theorem exists_item_of_foldlM
    {ε α β : Type}
    {step : β → α → Except ε β}
    {items : List α}
    {start : β}
    {error : ε}
    (fails : items.foldlM step start = .error error) :
    ∃ before, ∃ item ∈ items, step before item = .error error := by
  induction items generalizing start with
  | nil => cases fails
  | cons first items induction =>
    rw [List.foldlM_cons, bind_eq_error_iff] at fails
    rcases fails with here | ⟨after, -, behind⟩
    · exact ⟨start, first, .head _, here⟩
    · rcases induction behind with ⟨before, item, member, fails⟩
      exact ⟨before, item, .tail _ member, fails⟩

end Scenario
