import Scenario.Json.Parser

/-!
# What a reader leaves

In every value that is read from a text, the fields of an object stand in the
order of their names.  So each name stands once, and looking a field up finds
the only one there is.
-/

namespace Scenario.Json

/-! ## Fields in order -/

/-- The names of the fields ascend. -/
def Ascending (fields : List (String × Value)) : Prop :=
  fields.Pairwise fun earlier later => earlier.1 < later.1

theorem Ascending.nodup
    {fields : List (String × Value)}
    (ascending : Ascending fields) :
    (fields.map Prod.fst).Nodup := by
  rw [List.Nodup, List.pairwise_map]
  apply List.Pairwise.imp _ ascending
  intro earlier later before same
  rw [same] at before
  exact String.lt_irrefl _ before

@[simp]
theorem insertField_nil (name : String) (value : Value) :
    insertField name value [] = [(name, value)] :=
  rfl

theorem insertField_cons_of_lt
    {name other : String}
    (before : name < other)
    (value present : Value)
    (fields : List (String × Value)) :
    insertField name value ((other, present) :: fields) =
      (name, value) :: (other, present) :: fields := by
  rw [insertField, if_pos before]

theorem insertField_cons_of_not_lt
    {name other : String}
    (notBefore : ¬name < other)
    (different : name ≠ other)
    (value present : Value)
    (fields : List (String × Value)) :
    insertField name value ((other, present) :: fields) =
      (other, present) :: insertField name value fields := by
  rw [insertField, if_neg notBefore, if_neg different]

theorem mem_insertField
    {name : String}
    {value : Value}
    {fields : List (String × Value)}
    {field : String × Value}
    (member : field ∈ insertField name value fields) :
    field = (name, value) ∨ field ∈ fields := by
  induction fields with
  | nil => exact Or.inl (List.mem_singleton.mp member)
  | cons first fields induction =>
    rw [insertField] at member
    split at member
    · exact List.mem_cons.mp member
    · split at member
      · rcases List.mem_cons.mp member with here | behind
        · exact Or.inl here
        · exact Or.inr (.tail _ behind)
      · rcases List.mem_cons.mp member with here | behind
        · exact Or.inr (here ▸ .head _)
        · rcases induction behind with put | there
          · exact Or.inl put
          · exact Or.inr (.tail _ there)

/-- A field is put where its name belongs. -/
theorem Ascending.insertField
    {fields : List (String × Value)}
    (ascending : Ascending fields)
    (name : String)
    (value : Value) :
    Ascending (insertField name value fields) := by
  induction fields with
  | nil => exact List.pairwise_singleton _ _
  | cons first fields induction =>
    rcases List.pairwise_cons.mp ascending with ⟨least, behind⟩
    rw [Json.insertField]
    split
    · rename_i before
      refine List.pairwise_cons.mpr ⟨?_, ascending⟩
      intro later member
      rcases List.mem_cons.mp member with rfl | member
      · exact before
      · exact String.lt_trans before (least later member)
    · rename_i notBefore
      split
      · rename_i same
        refine List.pairwise_cons.mpr ⟨?_, behind⟩
        intro later member
        rw [same]
        exact least later member
      · rename_i different
        refine List.pairwise_cons.mpr ⟨?_, induction behind⟩
        intro later member
        rcases mem_insertField member with rfl | member
        · exact Std.lt_of_le_of_ne (String.not_lt.mp notBefore)
            (Ne.symm different)
        · exact least later member

theorem lookup_cons_of_ne
    {name asked : String}
    (different : asked ≠ name)
    (value : Value)
    (fields : List (String × Value)) :
    ((name, value) :: fields).lookup asked = fields.lookup asked := by
  rw [List.lookup_cons, beq_eq_false_iff_ne.mpr different]

/-- No name up to that of a field is found behind it. -/
theorem Ascending.lookup_behind
    {name asked : String}
    {value : Value}
    {fields : List (String × Value)}
    (ascending : Ascending ((name, value) :: fields))
    (passed : asked ≤ name) :
    fields.lookup asked = none := by
  rw [List.lookup_eq_none_iff]
  intro field member
  rw [bne_iff_ne]
  rintro rfl
  have before := (List.pairwise_cons.mp ascending).1 field member
  exact String.not_lt.mpr passed before

/-- Where the fields of a name are taken out, all others are found as
before. -/
theorem lookup_filter_ne
    (name asked : String)
    (fields : List (String × Value)) :
    (fields.filter fun field => field.1 != name).lookup asked =
      if asked = name then none else fields.lookup asked := by
  induction fields with
  | nil => simp
  | cons first fields induction =>
    rcases first with ⟨other, value⟩
    by_cases removed : other = name
    · subst removed
      rw [List.filter_cons_of_neg (by simp), induction]
      split
      · rfl
      · rename_i different
        rw [lookup_cons_of_ne different]
    · rw [List.filter_cons_of_pos (by simpa using removed)]
      by_cases here : asked = other
      · subst here
        rw [if_neg removed, List.lookup_cons_self, List.lookup_cons_self]
      · rw [lookup_cons_of_ne here, lookup_cons_of_ne here, induction]

/-- The field that has been put in is found under its name, and all others as
before. -/
theorem lookup_insertField
    (name asked : String)
    (value : Value)
    (fields : List (String × Value)) :
    (insertField name value fields).lookup asked =
      if asked = name then some value else fields.lookup asked := by
  by_cases same : asked = name
  · subst same
    rw [if_pos rfl]
    induction fields with
    | nil => exact List.lookup_cons_self
    | cons first fields induction =>
      rw [Json.insertField]
      split
      · exact List.lookup_cons_self
      · split
        · exact List.lookup_cons_self
        · rename_i different
          exact (lookup_cons_of_ne different _ _).trans induction
  · rw [if_neg same]
    induction fields with
    | nil => exact lookup_cons_of_ne same value []
    | cons first fields induction =>
      rcases first with ⟨there, other⟩
      rw [Json.insertField]
      split
      · exact lookup_cons_of_ne same _ _
      · split
        · rename_i replaced
          cases replaced
          rw [lookup_cons_of_ne same, lookup_cons_of_ne same]
        · rw [List.lookup_cons, List.lookup_cons, induction]

/-- In every object of the value the names of the fields ascend. -/
inductive Value.Ordered : Value → Prop where
  | null : Ordered null
  | bool (value : Bool) : Ordered (bool value)
  | number (value : Number) : Ordered (number value)
  | string (text : String) : Ordered (string text)
  | array {items}
      (inside : ∀ item ∈ items, Ordered item) :
      Ordered (array items)
  | object {fields}
      (ascending : Ascending fields)
      (inside : ∀ field ∈ fields, Ordered field.2) :
      Ordered (object fields)

/-- The fields are those of an object in order. -/
def OrderedFields (fields : List (String × Value)) : Prop :=
  (Value.object fields).Ordered

theorem orderedFields_nil : OrderedFields [] :=
  .object .nil (fun _ impossible => nomatch impossible)

theorem OrderedFields.insertField
    {fields : List (String × Value)}
    (ordered : OrderedFields fields)
    (name : String)
    {value : Value}
    (inside : value.Ordered) :
    OrderedFields (insertField name value fields) := by
  cases ordered with
  | object ascending others =>
    refine .object (ascending.insertField name value) ?_
    intro field member
    rcases mem_insertField member with rfl | member
    · exact inside
    · exact others field member

/-! ## Readers -/

/-- Whatever the reader gives has a property. -/
def Yields {α : Type} (holds : α → Prop) (read : Read α) : Prop :=
  ∀ value rest, read = .ok (value, rest) → holds value

section

variable {α β : Type} {holds : α → Prop} {wanted : β → Prop}

theorem yields_ok {value : α} (held : holds value) (rest : List Char) :
    Yields holds (.ok (value, rest)) := by
  intro value rest read
  cases read
  exact held

theorem yields_error (stopped : Stop) : Yields holds (.error stopped) := by
  intro value rest read
  cases read

theorem yields_stop (fault : Fault) (unread : List Char) :
    Yields holds (stop fault unread) :=
  yields_error _

theorem Yields.andThen
    {first : Read α}
    (yields : Yields holds first)
    {next : α → List Char → Read β}
    (later : ∀ value rest, holds value → Yields wanted (next value rest)) :
    Yields wanted (andThen first next) := by
  rcases first with stopped | ⟨value, rest⟩
  · exact yields_error stopped
  · exact later value rest (yields value rest rfl)

theorem yields_andThen
    (first : Read α)
    {next : α → List Char → Read β}
    (later : ∀ value rest, Yields wanted (next value rest)) :
    Yields wanted (andThen first next) := by
  rcases first with stopped | ⟨value, rest⟩
  · exact yields_error stopped
  · exact later value rest

theorem yields_readLiteral
    {value : α}
    (held : holds value)
    (literal text : List Char) :
    Yields holds (readLiteral value literal text) := by
  fun_induction readLiteral value literal text with
  | case1 text => exact yields_ok held text
  | case2 => exact yields_stop _ _
  | case3 literal character rest induction => exact induction
  | case4 => exact yields_stop _ _

end

section

variable
    {item : List Char → Read Value}
    (inner : ∀ text, Yields Value.Ordered (item text))

include inner

theorem yields_readMoreItems
    (rounds : Nat)
    {done : List Value}
    (before : ∀ value ∈ done, value.Ordered)
    (text : List Char) :
    Yields Value.Ordered (readMoreItems item rounds done text) := by
  induction rounds generalizing done text with
  | zero => exact yields_stop _ _
  | succ rounds induction =>
    rw [readMoreItems]
    split
    · exact yields_stop _ _
    · apply yields_ok
      exact .array fun value member => before value (List.mem_reverse.mp member)
    · split
      · exact yields_stop _ _
      · exact yields_stop _ _
      · refine (inner _).andThen fun value rest ordered => ?_
        refine induction (fun other member => ?_) rest
        rcases List.mem_cons.mp member with rfl | member
        · exact ordered
        · exact before other member
    · exact yields_stop _ _

theorem yields_readItems (text : List Char) :
    Yields Value.Ordered (readItems item text) := by
  unfold readItems
  split
  · exact yields_stop _ _
  · exact yields_ok (.array fun _ impossible => nomatch impossible) _
  · refine (inner _).andThen fun value rest ordered => ?_
    refine yields_readMoreItems inner _ (fun other member => ?_) rest
    rw [List.mem_singleton.mp member]
    exact ordered

theorem yields_readField
    {done : List (String × Value)}
    (before : OrderedFields done)
    (text : List Char) :
    Yields OrderedFields (readField item done text) := by
  unfold readField
  split
  · refine yields_andThen _ fun name rest => ?_
    split
    · exact yields_stop _ _
    · refine (inner _).andThen fun value rest ordered => ?_
      exact yields_ok (before.insertField name ordered) rest
    · exact yields_stop _ _
  · exact yields_stop _ _

theorem yields_readMoreFields
    (rounds : Nat)
    {done : List (String × Value)}
    (before : OrderedFields done)
    (text : List Char) :
    Yields Value.Ordered (readMoreFields item rounds done text) := by
  induction rounds generalizing done text with
  | zero => exact yields_stop _ _
  | succ rounds induction =>
    rw [readMoreFields]
    split
    · exact yields_stop _ _
    · refine yields_ok ?_ _
      exact before
    · split
      · exact yields_stop _ _
      · exact yields_stop _ _
      · refine (yields_readField inner before _).andThen ?_
        intro fields rest ordered
        exact induction ordered rest
    · exact yields_stop _ _

theorem yields_readFields (text : List Char) :
    Yields Value.Ordered (readFields item text) := by
  unfold readFields
  split
  · exact yields_stop _ _
  · refine yields_ok ?_ _
    exact orderedFields_nil
  · refine (yields_readField inner orderedFields_nil _).andThen ?_
    intro fields rest ordered
    exact yields_readMoreFields inner _ ordered rest

end

/-- A value is in order if what is read inside it is. -/
theorem yields_readNode
    {inner? : Option (List Char → Read Value)}
    (inner :
      ∀ item, inner? = some item → ∀ text, Yields Value.Ordered (item text))
    (text : List Char) :
    Yields Value.Ordered (readNode inner? text) := by
  unfold readNode
  split
  · exact yields_stop _ _
  · exact yields_readLiteral .null _ _
  · exact yields_readLiteral (.bool true) _ _
  · exact yields_readLiteral (.bool false) _ _
  · exact yields_andThen _ fun number rest => yields_ok (.number number) rest
  · exact yields_andThen _ fun string rest => yields_ok (.string string) rest
  · split
    · exact yields_stop _ _
    · exact yields_readItems (inner _ rfl) _
  · split
    · exact yields_stop _ _
    · exact yields_readFields (inner _ rfl) _
  · split
    · exact yields_andThen _ fun number rest => yields_ok (.number number) rest
    · exact yields_stop _ _

theorem yields_readValue (room : Nat) (text : List Char) :
    Yields Value.Ordered (readValue room text) := by
  induction room generalizing text with
  | zero =>
    apply yields_readNode
    intro item impossible
    cases impossible
  | succ room induction =>
    apply yields_readNode
    rintro item ⟨⟩
    exact induction

/-- Every value that is read from a text has the fields of its objects in
order. -/
theorem ordered_of_parse_eq_ok
    {text : String}
    {value : Value}
    (parsed : parse text = .ok value) :
    value.Ordered := by
  have ordered := yields_readValue nestingLimit text.toList
  unfold parse readAll at parsed
  split at parsed
  · cases parsed
  · rename_i read
    split at parsed
    · cases parsed
      exact ordered _ _ read
    · cases parsed

end Scenario.Json
