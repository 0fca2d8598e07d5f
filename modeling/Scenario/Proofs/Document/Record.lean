import Scenario.Document.Decode
import Scenario.Proofs.Failure
import Scenario.Proofs.Json.Ordered

/-!
# Reading records

A record is written as an object or as an array, and its fields are read one
by one.  Each field has a slot of its own among what has been read.  If no name
stands twice, what the slot holds in the end is what the field of its name
gives, whatever the order of the fields; a slot whose field is not there stays
as it was.
-/

namespace Scenario

open Json (Value)

/-! ## Members -/

/-- The fields of a record, in either form in which it is written. -/
def Record.members (kind : Record) : Value → List (String × Value)
  | .object fields => fields
  | .array items => kind.fields.zip items
  | _ => []

theorem map_fst_zip_sublist {α β : Type} (names : List α) (items : List β) :
    ((names.zip items).map Prod.fst).Sublist names := by
  induction names generalizing items with
  | nil => exact .slnil
  | cons name names induction =>
    cases items with
    | nil => exact List.nil_sublist _
    | cons item items => exact (induction items).cons_cons name

/-- A record that is in order has no field twice. -/
theorem Record.nodup_members
    (kind : Record)
    {value : Value}
    (ordered : value.Ordered) :
    ((kind.members value).map Prod.fst).Nodup := by
  cases ordered with
  | object ascending inside => exact ascending.nodup
  | @array items inside =>
    have listed : kind.fields.Nodup := by
      cases kind <;> decide
    exact listed.sublist (map_fst_zip_sublist kind.fields items)
  | null => exact List.nodup_nil
  | bool value => exact List.nodup_nil
  | number value => exact List.nodup_nil
  | string text => exact List.nodup_nil

/-- Every field of a record that is in order is in order. -/
theorem Record.ordered_of_mem_members
    (kind : Record)
    {value : Value}
    (ordered : value.Ordered)
    {field : String × Value}
    (member : field ∈ kind.members value) :
    field.2.Ordered := by
  cases ordered with
  | object ascending inside => exact inside field member
  | @array items inside => exact inside _ (List.of_mem_zip member).2
  | null => cases member
  | bool value => cases member
  | number value => cases member
  | string text => cases member

namespace Decode

/-- A record is read field by field. -/
theorem foldlM_members
    {α : Type}
    {kind : Record}
    {field : α → String × Value → Decoded α}
    {start result : α}
    {value : Value}
    (read : record kind field start value = .ok result) :
    (kind.members value).foldlM field start = .ok result := by
  cases value with
  | object fields => exact read
  | array items =>
    rw [record, bind_eq_ok_iff] at read
    rcases read with ⟨collected, read, rest⟩
    split at rest
    · cases rest
    · split at rest
      · cases rest
      · cases rest
        exact read
  | null => cases read
  | bool value => cases read
  | number value => cases read
  | string text => cases read

theorem required_eq_ok_iff
    {α : Type}
    (name : String)
    (found? : Option α)
    (value : α) :
    required name found? = .ok value ↔ found? = some value := by
  cases found? <;> simp [required]

/-- What is read as a list is a list, and is read item by item. -/
theorem exists_items_of_list
    {α : Type}
    {item : Value → Decoded α}
    {value : Value}
    {results : List α}
    (read : list item value = .ok results) :
    ∃ items, value = .array items ∧ items.mapM item = .ok results := by
  cases value with
  | array items => exact ⟨items, rfl, read⟩
  | null => cases read
  | bool value => cases read
  | number value => cases read
  | string text => cases read
  | object fields => cases read

/-! ## Slots -/

/-- Reading a field of the given name sets a slot, and reading any other field
leaves the slot alone. -/
structure Sets
    {α β : Type}
    (field : α → String × Value → Decoded α)
    (slot : α → β)
    (name : String)
    (item : Value → Decoded β) : Prop where
  here :
    ∀ before value after,
      field before (name, value) = .ok after → item value = .ok (slot after)
  elsewhere :
    ∀ before other value after,
      other ≠ name →
        field before (other, value) = .ok after → slot after = slot before

/-- In the end a slot holds what the field of its name gives. -/
theorem Sets.foldlM
    {α β : Type}
    {field : α → String × Value → Decoded α}
    {slot : α → β}
    {name : String}
    {item : Value → Decoded β}
    (sets : Sets field slot name item)
    {fields : List (String × Value)}
    (nodup : (fields.map Prod.fst).Nodup)
    {start result : α}
    (read : fields.foldlM field start = .ok result) :
    match fields.lookup name with
    | none => slot result = slot start
    | some value => item value = .ok (slot result) := by
  induction fields generalizing start with
  | nil =>
    cases read
    rfl
  | cons first fields induction =>
    rcases first with ⟨other, value⟩
    rw [List.foldlM_cons, bind_eq_ok_iff] at read
    rcases read with ⟨after, first, behind⟩
    rw [List.map_cons, List.nodup_cons] at nodup
    have later := induction nodup.2 behind
    by_cases same : other = name
    · -- No field behind this one has its name.
      subst same
      have missing : fields.lookup other = none := by
        rw [List.lookup_eq_none_iff]
        intro field member
        rw [bne_iff_ne]
        rintro rfl
        exact nodup.1 (List.mem_map.mpr ⟨field, member, rfl⟩)
      rw [missing] at later
      rw [List.lookup_cons_self]
      dsimp only at later ⊢
      rw [later]
      exact sets.here _ _ _ first
    · rw [Json.lookup_cons_of_ne (Ne.symm same),
        ← sets.elsewhere _ _ _ _ same first]
      exact later

end Decode

end Scenario
