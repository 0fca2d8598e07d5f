import Scenario.Decimal.Shortest

/-!
# How a float is written

A float is written with the fewest digits that identify it.  It is written
positionally when its leading digit stands for a power of ten between
`10 ^ -5` and `10 ^ 15`, and then always shows a digit after the point.
Beyond that range it is written with one digit before the point and a signed
exponent without leading zeros, as in `1e+100` and `1.5e-7`.
-/

namespace Scenario.Decimal

/-- The decimal digits of a natural number. -/
def digitChars (number : Nat) : List Char :=
  Nat.toDigits 10 number

/-- The decisions of a style of writing floats. -/
structure FloatStyle where
  /-- The least power of ten that is written positionally. -/
  positionalFrom : Int
  /-- The greatest power of ten that is written positionally. -/
  positionalTo : Int
  exponentMark : Char
  positiveExponentSign : List Char

/-- How floats are written in messages. -/
def messageStyle : FloatStyle where
  positionalFrom := -5
  positionalTo := 15
  exponentMark := 'e'
  positiveExponentSign := ['+']

namespace FloatStyle

/-- Write digits whose first one stands for `10 ^ power` around a point. -/
def positional (digits : List Char) (power : Int) : List Char :=
  if power < 0 then
    ['0', '.'] ++ List.replicate (-power - 1).toNat '0' ++ digits
  else
    let whole := power.toNat + 1
    let padded := digits ++ List.replicate (whole - digits.length) '0'
    let fraction := padded.drop whole
    padded.take whole ++ '.' :: (if fraction.isEmpty then ['0'] else fraction)

/-- Write digits whose first one stands for `10 ^ power` with an exponent. -/
def scientific
    (style : FloatStyle)
    (digits : List Char)
    (power : Int) :
    List Char :=
  let mantissa :=
    match digits with
    | lead :: next :: rest => lead :: '.' :: next :: rest
    | short => short
  let sign := if power < 0 then ['-'] else style.positiveExponentSign
  mantissa ++ style.exponentMark :: (sign ++ digitChars power.natAbs)

/-- Write a positive decimal. -/
def decimalText (style : FloatStyle) (decimal : Numeral) : List Char :=
  let digits := digitChars decimal.digits
  let power := decimal.exponent + (digits.length : Int) - 1
  if style.positionalFrom ≤ power ∧ power ≤ style.positionalTo then
    positional digits power
  else
    style.scientific digits power

/-- Write a finite float; zero keeps its sign. -/
def text (style : FloatStyle) (value : Float) : String :=
  let sign := if value.toBits >>> 63 == 1 then ['-'] else []
  let magnitude := Binary.ofFloat value
  let body :=
    if magnitude.significand = 0 then
      ['0', '.', '0']
    else
      style.decimalText magnitude.shortest
  String.ofList (sign ++ body)

end FloatStyle

end Scenario.Decimal
