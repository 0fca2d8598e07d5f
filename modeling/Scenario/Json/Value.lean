/-!
# JSON values

The fields of an object are kept as a list of pairs.  A value that has been
read from text holds each name once, and its names are in ascending order; a
value that is about to be written keeps the order in which it was put
together.
-/

namespace Scenario.Json

/-- A number is an integer of at most 64 bits, or else a float. -/
inductive Number where
  | integer (value : Int)
  | float (value : Float)
deriving Repr

/-- A JSON value. -/
inductive Value where
  | null
  | bool (value : Bool)
  | number (value : Number)
  | string (value : String)
  | array (items : List Value)
  | object (fields : List (String × Value))
deriving Repr

/-- Put a field into fields that are in ascending order of their names.  A
field of the same name is replaced. -/
def insertField
    (name : String)
    (value : Value) :
    List (String × Value) → List (String × Value)
  | [] => [(name, value)]
  | field :: fields =>
    if name < field.1 then
      (name, value) :: field :: fields
    else if name = field.1 then
      (name, value) :: fields
    else
      field :: insertField name value fields

namespace Value

/-- The value of a field of an object. -/
def field? (value : Value) (name : String) : Option Value :=
  match value with
  | object fields => fields.lookup name
  | _ => none

/-- The items of an array. -/
def items? : Value → Option (List Value)
  | array items => some items
  | _ => none

/-- The text of a string. -/
def text? : Value → Option String
  | string text => some text
  | _ => none

end Value

end Scenario.Json
