/-!
# The fewest digits that identify a binary value

A binary floating-point value stands for all the real numbers that round to
it.  Those numbers form an interval, from halfway to the neighbour below to
halfway to the neighbour above, and its ends belong to it exactly when the
significand is even.  `Binary.shortest` selects, among the decimals of that
interval, one with the fewest digits, and of those the nearest to the value.

All comparisons are between natural numbers, so nothing is lost to rounding.
-/

namespace Scenario.Decimal

/-- A positive finite value `significand * 2 ^ exponent`. -/
structure Binary where
  significand : Nat
  exponent : Int
  /-- The neighbour below is only half as far away as the neighbour above. -/
  narrowBelow : Bool
deriving DecidableEq, Repr

/-- A decimal `digits * 10 ^ exponent`. -/
structure Numeral where
  digits : Nat
  exponent : Int
deriving DecidableEq, Repr

/-- The absolute value that a finite double stands for. -/
def Binary.ofFloat (value : Float) : Binary :=
  let bits := value.toBits
  let stored := ((bits >>> 52) &&& 0x7FF).toNat
  let fraction := (bits &&& 0xFFFFFFFFFFFFF).toNat
  if stored = 0 then
    ⟨fraction, -1074, false⟩
  else
    ⟨0x10000000000000 + fraction, (stored : Int) - 1075,
      fraction == 0 && 1 < stored⟩

/-- Compare `left * 10 ^ power` with `right * 2 ^ exponent`. -/
def compareScaled
    (left : Nat)
    (power : Int)
    (right : Nat)
    (exponent : Int) :
    Ordering :=
  compare
    (left * Nat.pow 10 power.toNat * Nat.pow 2 (-exponent).toNat)
    (right * Nat.pow 2 exponent.toNat * Nat.pow 10 (-power).toNat)

namespace Binary

/-- The decimal lies in the interval of the numbers that round to the value.
The ends are written in quarters of the distance to the neighbour above. -/
def identifiedBy (value : Binary) (decimal : Numeral) : Bool :=
  let lower := 4 * value.significand - (if value.narrowBelow then 1 else 2)
  let upper := 4 * value.significand + 2
  let quarter := value.exponent - 2
  let closed := value.significand % 2 == 0
  let fromLower := compareScaled decimal.digits decimal.exponent lower quarter
  let fromUpper := compareScaled decimal.digits decimal.exponent upper quarter
  (fromLower == .gt || closed && fromLower == .eq) &&
    (fromUpper == .lt || closed && fromUpper == .eq)

/-- The number of multiples of `10 ^ power` that fit into the value. -/
def floorAt (value : Binary) (power : Int) : Nat :=
  value.significand * Nat.pow 2 value.exponent.toNat *
      Nat.pow 10 (-power).toNat /
    (Nat.pow 2 (-value.exponent).toNat * Nat.pow 10 power.toNat)

/-- The multiple of `10 ^ power` that identifies the value, if one does.  Only
the two nearest ones need to be tried; of two the nearer is taken, and of two
that are equally near the even one. -/
def onGrid (value : Binary) (power : Int) : Option Numeral :=
  let below : Numeral := ⟨value.floorAt power, power⟩
  let above : Numeral := ⟨below.digits + 1, power⟩
  match value.identifiedBy below, value.identifiedBy above with
  | false, false => none
  | true, false => some below
  | false, true => some above
  | true, true =>
    match compareScaled (below.digits + above.digits) power
        (2 * value.significand) value.exponent with
    | .gt => some below
    | .lt => some above
    | .eq => some (if below.digits % 2 == 0 then below else above)

/-- The least power of ten above the value, found by counting up from
`start` for at most `attempts` steps. -/
def scaleFrom (value : Binary) (start : Int) : Nat → Int
  | 0 => start
  | attempts + 1 =>
    if compareScaled 1 start value.significand value.exponent == .gt then
      start
    else
      value.scaleFrom (start + 1) attempts

/-- The least power of ten above the value.  The estimate from the binary
logarithm is at most a few steps too low. -/
def scale (value : Binary) : Int :=
  let logarithm := (value.significand.log2 : Int) + value.exponent
  value.scaleFrom (Int.fdiv (logarithm * 30103) 100000 - 1) 4

end Binary

/-- Drop zeros at the end of the digits, at most `count` of them. -/
def Numeral.stripZeros (decimal : Numeral) : Nat → Numeral
  | 0 => decimal
  | count + 1 =>
    if decimal.digits ≠ 0 ∧ decimal.digits % 10 = 0 then
      Numeral.stripZeros ⟨decimal.digits / 10, decimal.exponent + 1⟩ count
    else
      decimal

/-- The decimal with the fewest digits that identifies the value.  Seventeen
digits always suffice; were none of them enough, all digits are kept. -/
def Binary.shortest (value : Binary) : Numeral :=
  let top := value.scale
  let candidates := (List.range 17).map fun count : Nat => top - 1 - Int.ofNat count
  match candidates.findSome? value.onGrid with
  | some decimal => decimal.stripZeros 17
  | none =>
    ⟨value.significand * Nat.pow 2 value.exponent.toNat *
        Nat.pow 5 (-value.exponent).toNat,
      min value.exponent 0⟩

end Scenario.Decimal
