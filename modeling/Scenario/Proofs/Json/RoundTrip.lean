import Scenario.Proofs.Json.Ordered
import Scenario.Proofs.Json.Tokens

/-!
# Reading back values

A value is read back from the text that is written for it, if it holds no
floats, its integers fit words of 64 bits, and not too many of its lists and
objects lie inside one another.  What is read is the value with the fields of
each object in the order of their names.  Where several fields of an object
have one name, the last of them is read.
-/

namespace Scenario.Json

namespace Value

mutual

/-- The value with the fields of its objects as a reader leaves them. -/
def inOrder : Value → Value
  | null => null
  | bool value => bool value
  | number value => number value
  | string text => string text
  | array items => array (itemsInOrder items)
  | object fields => object (fieldsInOrder [] fields)

/-- The items of a list, each as a reader leaves it. -/
def itemsInOrder : List Value → List Value
  | [] => []
  | item :: items => item.inOrder :: itemsInOrder items

/-- Fields put one by one among those that are there already. -/
def fieldsInOrder (done : List (String × Value)) :
    List (String × Value) → List (String × Value)
  | [] => done
  | (name, value) :: fields =>
    fieldsInOrder (insertField name value.inOrder done) fields

end

theorem itemsInOrder_eq_map (items : List Value) :
    itemsInOrder items = items.map inOrder := by
  induction items with
  | nil => rfl
  | cons item items induction => rw [itemsInOrder, induction, List.map_cons]

/-- The value can be read back from its text with room for so many lists and
objects inside one another. -/
inductive ReadableIn : Nat → Value → Prop where
  | null {room} : ReadableIn room null
  | bool {room} (value : Bool) : ReadableIn room (bool value)
  | number {room value} (word : value.IsWord) : ReadableIn room (number value)
  | string {room} (text : String) : ReadableIn room (string text)
  | array {room items}
      (inside : ∀ item ∈ items, ReadableIn room item) :
      ReadableIn (room + 1) (array items)
  | object {room fields}
      (inside : ∀ field ∈ fields, ReadableIn room field.2) :
      ReadableIn (room + 1) (object fields)

end Value

open Value (ReadableIn inOrder itemsInOrder fieldsInOrder)

/-- The value is read back wherever it is written, with room for so many lists
and objects inside one another. -/
def ReadsBack (room : Nat) (value : Value) : Prop :=
  ∀ depth rest, EndsNumber rest →
    readValue room (printValue depth value ++ rest) =
      .ok (value.inOrder, rest)

/-! ## Blanks -/

theorem skipBlanks_of_not_isBlank
    {character : Char}
    (solid : isBlank character = false)
    (text : List Char) :
    skipBlanks (character :: text) = character :: text := by
  rw [skipBlanks, List.dropWhile_cons, solid]
  rfl

@[simp]
theorem skipBlanks_newLine (depth : Nat) (text : List Char) :
    skipBlanks (newLine depth ++ text) = skipBlanks text := by
  have blanks : ∀ character ∈ newLine depth, isBlank character = true := by
    intro character member
    rcases List.mem_cons.mp member with rfl | member
    · rfl
    · rw [List.eq_of_mem_replicate member]
      rfl
  exact List.dropWhile_append_of_pos blanks

theorem skipBlanks_newLine_cons
    {character : Char}
    (solid : isBlank character = false)
    (depth : Nat)
    (text : List Char) :
    skipBlanks (newLine depth ++ character :: text) = character :: text := by
  rw [skipBlanks_newLine, skipBlanks_of_not_isBlank solid]

/-- Blanks in front of a value are skipped. -/
theorem readValue_of_skipBlanks_eq
    (room : Nat)
    {text other : List Char}
    (same : skipBlanks text = skipBlanks other) :
    readValue room text = readValue room other := by
  cases room with
  | zero => rw [readValue, readNode, readNode, same]
  | succ room => rw [readValue, readNode, readNode, same]

theorem readValue_space (room : Nat) (text : List Char) :
    readValue room (' ' :: text) = readValue room text :=
  readValue_of_skipBlanks_eq room rfl

/-! ## Beginnings and ends -/

theorem endsNumber_newLine (depth : Nat) (text : List Char) :
    EndsNumber (newLine depth ++ text) :=
  endsNumber_cons (by decide) _

theorem not_isBlank_of_isDigit
    {character : Char}
    (isDigit : character.isDigit = true) :
    isBlank character = false := by
  unfold isBlank
  simp only [Bool.or_eq_false_iff, beq_eq_false_iff_ne]
  refine ⟨⟨⟨?_, ?_⟩, ?_⟩, ?_⟩ <;>
    · rintro rfl
      cases isDigit

/-- What is written for a value begins with a character that is no blank, and
does not close a list. -/
theorem printValue_eq_cons
    {room : Nat}
    {value : Value}
    (readable : value.ReadableIn room)
    (depth : Nat) :
    ∃ first others,
      printValue depth value = first :: others ∧
        isBlank first = false ∧ first ≠ ']' := by
  cases readable with
  | null => exact ⟨_, _, rfl, rfl, by decide⟩
  | bool value => cases value <;> exact ⟨_, _, rfl, rfl, by decide⟩
  | @number _ number word =>
    cases number with
    | float value => exact word.elim
    | integer value =>
      rw [printValue, numberText]
      split
      · exact ⟨_, _, rfl, rfl, by decide⟩
      · rcases digitChars_eq_cons value.natAbs with
          ⟨first, others, digits, isDigit⟩
        refine ⟨first, others, digits, not_isBlank_of_isDigit isDigit, ?_⟩
        rintro rfl
        cases isDigit
  | string text => exact ⟨_, _, rfl, rfl, by decide⟩
  | @array _ items inside =>
    cases items <;> exact ⟨_, _, rfl, rfl, by decide⟩
  | @object _ fields inside =>
    cases fields <;> exact ⟨_, _, rfl, rfl, by decide⟩

/-! ## First characters -/

section

variable
    (inner? : Option (List Char → Read Value))
    (item : List Char → Read Value)
    (text : List Char)

theorem readNode_minus :
    readNode inner? ('-' :: text) =
      andThen (readNumber true text) fun number rest =>
        .ok (.number number, rest) :=
  rfl

theorem readNode_quote :
    readNode inner? ('"' :: text) =
      andThen (readString [] text) fun string rest =>
        .ok (.string string, rest) :=
  rfl

theorem readNode_bracket :
    readNode (some item) ('[' :: text) = readItems item text :=
  rfl

theorem readNode_brace :
    readNode (some item) ('\x7b' :: text) = readFields item text :=
  rfl

end

theorem readNode_digit
    (inner? : Option (List Char → Read Value))
    {first : Char}
    (isDigit : first.isDigit = true)
    (text : List Char) :
    readNode inner? (first :: text) =
      andThen (readNumber false (first :: text)) fun number rest =>
        .ok (.number number, rest) := by
  unfold readNode
  rw [skipBlanks_of_not_isBlank (not_isBlank_of_isDigit isDigit)]
  split
  all_goals
    rename_i whole
    cases whole
  any_goals cases isDigit
  rw [if_pos isDigit]

theorem readNode_number
    (inner? : Option (List Char → Read Value))
    {number : Number}
    (word : number.IsWord)
    {rest : List Char}
    (ends : EndsNumber rest) :
    readNode inner? (numberText number ++ rest) =
      .ok (.number number, rest) := by
  cases number with
  | float value => exact word.elim
  | integer value =>
    rw [numberText]
    split
    · rename_i negative
      have read := readNumber_of_neg word negative ends
      rw [List.cons_append, readNode_minus, read, andThen_ok]
    · rename_i nonneg
      have read := readNumber_of_nonneg word (Int.not_lt.mp nonneg) ends
      rcases digitChars_eq_cons value.natAbs with
        ⟨first, others, digits, isDigit⟩
      rw [digits, List.cons_append] at read ⊢
      rw [readNode_digit inner? isDigit, read, andThen_ok]

/-! ## Lists -/

theorem readMoreItems_bracket
    (item : List Char → Read Value)
    (rounds : Nat)
    (done : List Value)
    {text rest : List Char}
    (closes : skipBlanks text = ']' :: rest) :
    readMoreItems item (rounds + 1) done text =
      .ok (.array done.reverse, rest) := by
  rw [readMoreItems, closes]
  rfl

theorem readMoreItems_comma
    (item : List Char → Read Value)
    (rounds : Nat)
    (done : List Value)
    {first : Char}
    {text others : List Char}
    (begins : skipBlanks text = first :: others)
    (goesOn : first ≠ ']') :
    readMoreItems item (rounds + 1) done (',' :: text) =
      andThen (item (first :: others)) fun value rest =>
        readMoreItems item rounds (value :: done) rest := by
  have comma : skipBlanks (',' :: text) = ',' :: text := rfl
  rw [readMoreItems, comma]
  simp only [begins]
  split
  · simp_all
  · simp_all
  · rfl

theorem endsNumber_printItems
    (depth : Nat)
    (items : List Value)
    {rest : List Char}
    (ends : EndsNumber rest) :
    EndsNumber (printItems depth items ++ rest) := by
  cases items with
  | nil => exact ends
  | cons item items =>
    rw [printItems, List.cons_append]
    exact endsNumber_cons (by decide) _

/-- The items of a list are read behind the first one, if enough rounds are
left. -/
theorem readMoreItems_printItems
    {room depth : Nat}
    {items : List Value}
    (readable : ∀ item ∈ items, item.ReadableIn room)
    (read : ∀ item ∈ items, ReadsBack room item)
    (done : List Value)
    {rounds : Nat}
    (enough : items.length < rounds)
    (outer : Nat)
    (rest : List Char) :
    readMoreItems (readValue room) rounds done
        (printItems depth items ++ (newLine outer ++ ']' :: rest)) =
      .ok (.array (done.reverse ++ items.map inOrder), rest) := by
  induction items generalizing done rounds with
  | nil =>
    cases rounds with
    | zero => cases enough
    | succ rounds =>
      rw [printItems, List.nil_append, List.map_nil, List.append_nil]
      exact readMoreItems_bracket _ _ _ (skipBlanks_newLine _ _)
  | cons item items induction =>
    cases rounds with
    | zero => cases enough
    | succ rounds =>
      have first := readable item List.mem_cons_self
      have behind :=
        endsNumber_printItems depth items
          (endsNumber_newLine outer (']' :: rest))
      rcases printValue_eq_cons first depth with
        ⟨character, others, printed, solid, goesOn⟩
      have here := read item List.mem_cons_self depth _ behind
      rw [printed, List.cons_append] at here
      rw [printItems, List.cons_append, List.append_assoc, List.append_assoc,
        printed, List.cons_append]
      rw [readMoreItems_comma _ _ _ (skipBlanks_newLine_cons solid _ _) goesOn,
        here, andThen_ok,
        induction (fun item member => readable item (.tail _ member))
          (fun item member => read item (.tail _ member)) _
          (Nat.lt_of_succ_lt_succ enough),
        List.reverse_cons, List.append_assoc, List.singleton_append,
        List.map_cons]

theorem length_le_length_printItems (depth : Nat) (items : List Value) :
    items.length ≤ (printItems depth items).length := by
  induction items with
  | nil => exact Nat.le_refl 0
  | cons item items induction =>
    simp only [printItems, List.length_cons, List.length_append]
    omega

theorem readItems_of_begins
    (item : List Char → Read Value)
    {first : Char}
    {text others : List Char}
    (begins : skipBlanks text = first :: others)
    (goesOn : first ≠ ']') :
    readItems item text =
      andThen (item (first :: others)) fun value rest =>
        readMoreItems item (rest.length + 1) [value] rest := by
  rw [readItems, begins]
  split
  · simp_all
  · simp_all
  · rfl

/-- A list is read back if its items are. -/
theorem readNode_printValue_array
    {room depth : Nat}
    {items : List Value}
    (readable : ∀ item ∈ items, item.ReadableIn room)
    (read : ∀ item ∈ items, ReadsBack room item)
    (rest : List Char) :
    readNode (some (readValue room)) (printValue depth (.array items) ++ rest) =
      .ok (.array (items.map inOrder), rest) := by
  cases items with
  | nil => rfl
  | cons first items =>
    have isReadable := readable first List.mem_cons_self
    have behind :=
      endsNumber_printItems (depth + 1) items
        (endsNumber_newLine depth (']' :: rest))
    have enough :
        items.length <
          (printItems (depth + 1) items ++
            (newLine depth ++ ']' :: rest)).length + 1 := by
      have counted := length_le_length_printItems (depth + 1) items
      rw [List.length_append]
      omega
    have readFirst := read first List.mem_cons_self (depth + 1) _ behind
    rcases printValue_eq_cons isReadable (depth + 1) with
      ⟨character, others, printed, solid, goesOn⟩
    rw [printed, List.cons_append] at readFirst
    simp only [printValue, List.cons_append, List.append_assoc, printed,
      List.nil_append]
    rw [readNode_bracket,
      readItems_of_begins _ (skipBlanks_newLine_cons solid _ _) goesOn,
      readFirst, andThen_ok,
      readMoreItems_printItems
        (fun item member => readable item (.tail _ member))
        (fun item member => read item (.tail _ member)) _ enough]
    rfl

/-! ## Objects -/

theorem quote_append (text : String) (rest : List Char) :
    quote text ++ rest =
      '"' :: (text.toList.flatMap escape ++ '"' :: rest) := by
  rw [quote, List.cons_append, List.append_assoc, List.singleton_append]

/-- A field is read back if its value is. -/
theorem readField_quote
    {room : Nat}
    {value : Value}
    (read : ReadsBack room value)
    (depth : Nat)
    (name : String)
    (done : List (String × Value))
    {rest : List Char}
    (ends : EndsNumber rest) :
    readField (readValue room) done
        (quote name ++ (':' :: ' ' :: (printValue depth value ++ rest))) =
      .ok (insertField name value.inOrder done, rest) := by
  have colon (text : List Char) : skipBlanks (':' :: text) = ':' :: text := rfl
  rw [quote_append, readField, readString_quote, andThen_ok, colon]
  simp only [readValue_space, read depth rest ends, andThen_ok]

theorem readMoreFields_brace
    (item : List Char → Read Value)
    (rounds : Nat)
    (done : List (String × Value))
    {text rest : List Char}
    (closes : skipBlanks text = '\x7d' :: rest) :
    readMoreFields item (rounds + 1) done text =
      .ok (.object done, rest) := by
  rw [readMoreFields, closes]
  rfl

theorem readMoreFields_comma
    (item : List Char → Read Value)
    (rounds : Nat)
    (done : List (String × Value))
    {text others : List Char}
    (begins : skipBlanks text = '"' :: others) :
    readMoreFields item (rounds + 1) done (',' :: text) =
      andThen (readField item done ('"' :: others)) fun done rest =>
        readMoreFields item rounds done rest := by
  have comma : skipBlanks (',' :: text) = ',' :: text := rfl
  rw [readMoreFields, comma]
  simp only [begins]
  rfl

theorem skipBlanks_newLine_quote
    (depth : Nat)
    (name : String)
    (rest : List Char) :
    skipBlanks (newLine depth ++ (quote name ++ rest)) =
      '"' :: (name.toList.flatMap escape ++ '"' :: rest) := by
  rw [skipBlanks_newLine, quote_append, skipBlanks_of_not_isBlank rfl]

theorem endsNumber_printFields
    (depth : Nat)
    (fields : List (String × Value))
    {rest : List Char}
    (ends : EndsNumber rest) :
    EndsNumber (printFields depth fields ++ rest) := by
  cases fields with
  | nil => exact ends
  | cons field fields =>
    rw [printFields, List.cons_append]
    exact endsNumber_cons (by decide) _

theorem length_le_length_printFields
    (depth : Nat)
    (fields : List (String × Value)) :
    fields.length ≤ (printFields depth fields).length := by
  induction fields with
  | nil => exact Nat.le_refl 0
  | cons field fields induction =>
    simp only [printFields, List.length_cons, List.length_append]
    omega

/-- The fields of an object are read behind the first one, if enough rounds
are left. -/
theorem readMoreFields_printFields
    {room depth : Nat}
    {fields : List (String × Value)}
    (read : ∀ field ∈ fields, ReadsBack room field.2)
    (done : List (String × Value))
    {rounds : Nat}
    (enough : fields.length < rounds)
    (outer : Nat)
    (rest : List Char) :
    readMoreFields (readValue room) rounds done
        (printFields depth fields ++ (newLine outer ++ '\x7d' :: rest)) =
      .ok (.object (fieldsInOrder done fields), rest) := by
  induction fields generalizing done rounds with
  | nil =>
    cases rounds with
    | zero => cases enough
    | succ rounds =>
      exact readMoreFields_brace _ _ _ (skipBlanks_newLine _ _)
  | cons field fields induction =>
    cases rounds with
    | zero => cases enough
    | succ rounds =>
      rcases field with ⟨name, value⟩
      have behind :=
        endsNumber_printFields depth fields
          (endsNumber_newLine outer ('\x7d' :: rest))
      have first :=
        readField_quote (read _ List.mem_cons_self) depth name done behind
      simp only [printFields, List.cons_append, List.append_assoc,
        List.nil_append]
      rw [readMoreFields_comma _ _ _ (skipBlanks_newLine_quote _ _ _),
        ← quote_append, first, andThen_ok,
        induction (fun field member => read field (.tail _ member)) _
          (Nat.lt_of_succ_lt_succ enough),
        fieldsInOrder]

theorem readFields_of_begins
    (item : List Char → Read Value)
    {text others : List Char}
    (begins : skipBlanks text = '"' :: others) :
    readFields item text =
      andThen (readField item [] ('"' :: others)) fun done rest =>
        readMoreFields item (rest.length + 1) done rest := by
  rw [readFields, begins]
  rfl

/-- An object is read back if the values of its fields are. -/
theorem readNode_printValue_object
    {room : Nat}
    {fields : List (String × Value)}
    (read : ∀ field ∈ fields, ReadsBack room field.2)
    (depth : Nat)
    (rest : List Char) :
    readNode (some (readValue room))
        (printValue depth (.object fields) ++ rest) =
      .ok (.object (fieldsInOrder [] fields), rest) := by
  cases fields with
  | nil => rfl
  | cons field fields =>
    rcases field with ⟨name, value⟩
    have behind :=
      endsNumber_printFields (depth + 1) fields
        (endsNumber_newLine depth ('\x7d' :: rest))
    have enough :
        fields.length <
          (printFields (depth + 1) fields ++
            (newLine depth ++ '\x7d' :: rest)).length + 1 := by
      have counted := length_le_length_printFields (depth + 1) fields
      rw [List.length_append]
      omega
    have first :=
      readField_quote (read _ List.mem_cons_self) (depth + 1) name [] behind
    simp only [printValue, List.cons_append, List.append_assoc,
      List.nil_append]
    rw [readNode_brace, readFields_of_begins _ (skipBlanks_newLine_quote _ _ _),
      ← quote_append, first, andThen_ok,
      readMoreFields_printFields
        (fun field member => read field (.tail _ member)) _ enough,
      fieldsInOrder]

/-! ## Values -/

theorem readNode_string
    (inner? : Option (List Char → Read Value))
    (text : String)
    (rest : List Char) :
    readNode inner? (quote text ++ rest) = .ok (.string text, rest) := by
  rw [quote_append, readNode_quote, readString_quote, andThen_ok]

/-- A reader of values does with a value that is no list and no object what it
does with no room left. -/
theorem readsBack_of_readNode
    {value : Value}
    (read :
      ∀ inner? depth rest, EndsNumber rest →
        readNode inner? (printValue depth value ++ rest) =
          .ok (value.inOrder, rest))
    (room : Nat) :
    ReadsBack room value := by
  intro depth rest ends
  cases room with
  | zero => exact read none depth rest ends
  | succ room => exact read _ depth rest ends

/-- Every readable value is read back, with its fields in order. -/
theorem readsBack_of_readableIn
    {room : Nat}
    {value : Value}
    (readable : value.ReadableIn room) :
    ReadsBack room value := by
  -- Lists and objects are read with one less room inside.
  induction readable with
  | null => exact readsBack_of_readNode (fun _ _ _ _ => rfl) _
  | bool value =>
    cases value <;> exact readsBack_of_readNode (fun _ _ _ _ => rfl) _
  | number word =>
    apply readsBack_of_readNode
    intro inner? depth rest ends
    exact readNode_number inner? word ends
  | string text =>
    apply readsBack_of_readNode
    intro inner? depth rest ends
    exact readNode_string inner? text rest
  | array inside induction =>
    intro depth rest ends
    rw [inOrder, Value.itemsInOrder_eq_map]
    exact readNode_printValue_array inside induction rest
  | object inside induction =>
    intro depth rest ends
    exact readNode_printValue_object induction depth rest

/-- Reading the text of a readable value gives the value, with its fields in
order. -/
theorem parse_print
    {value : Value}
    (readable : value.ReadableIn nestingLimit) :
    parse (print value) = .ok value.inOrder := by
  have read := readsBack_of_readableIn readable 0 [] endsNumber_nil
  rw [List.append_nil] at read
  rw [parse, print, String.toList_ofList, readAll, read]
  rfl

/-! ## Fields of one name -/

theorem lookup_fieldsInOrder
    (name : String)
    (done fields : List (String × Value)) :
    (fieldsInOrder done fields).lookup name =
      ((fields.reverse.lookup name).map inOrder).or (done.lookup name) := by
  induction fields generalizing done with
  | nil => rfl
  | cons field fields induction =>
    rcases field with ⟨other, value⟩
    rw [fieldsInOrder, induction, List.reverse_cons, List.lookup_append,
      lookup_insertField]
    by_cases same : name = other
    · subst same
      cases fields.reverse.lookup name <;> simp
    · cases fields.reverse.lookup name <;>
        simp [lookup_cons_of_ne same, same]

/-- Of several fields with one name, the last is the one that is read. -/
theorem field?_inOrder (name : String) (fields : List (String × Value)) :
    (Value.object fields).inOrder.field? name =
      (fields.reverse.lookup name).map inOrder := by
  rw [inOrder, Value.field?, lookup_fieldsInOrder, List.lookup_nil,
    Option.or_none]

end Scenario.Json
