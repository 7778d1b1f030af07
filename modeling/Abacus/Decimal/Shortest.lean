import Abacus.Decimal

/-! The decimal of fewest digits that reads back as a given double, and among those the nearest.

A double is the nearest one to every real of an interval around its value. The two ends of the
interval belong to it when the significand is even. For one digit, two digits and so on, the two
multiples of the digit's place around the value are tried: if any multiple of that place lies in
the interval, one of these two does. -/

namespace Abacus.Decimal

/-- The reals that round to a double, in quarters of one unit of its exact decimal. -/
structure Interval where
  low : Nat
  high : Nat
  closed : Bool

def Interval.holds (interval : Interval) (point : Nat) : Bool :=
  if interval.closed then interval.low ≤ point && point ≤ interval.high
  else interval.low < point && point < interval.high

/-- The interval of `significand * 2 ^ exponent`. Half a step lies on either side, but a quarter
below a power of two, where the steps get smaller, unless they are the smallest already. -/
def interval (significand : Nat) (exponent : Int) : Interval :=
  let centre := (ofBinary significand exponent).coefficient
  let step := (ofBinary 1 exponent).coefficient
  let narrow := significand = Nat.pow 2 52 ∧ -1074 < exponent
  { low := 4 * centre - (if narrow then step else 2 * step)
    high := 4 * centre + 2 * step
    closed := significand % 2 == 0 }

/-- The multiple of `grid` next to `centre` that lies in the interval: of two the nearer, of two
equally near the one with an even multiplier. -/
def onGrid (interval : Interval) (centre grid : Nat) : Option Nat :=
  let below := centre / grid
  let above := below + 1
  match interval.holds (4 * (below * grid)), interval.holds (4 * (above * grid)) with
  | false, false => none
  | true, false => some below
  | false, true => some above
  | true, true =>
    let down := centre - below * grid
    let up := above * grid - centre
    some (if down < up ∨ down = up ∧ below % 2 = 0 then below else above)

/-- The shortest decimal that rounds to `significand * 2 ^ exponent`; seventeen digits always
suffice. -/
def shortest (significand : Nat) (exponent : Int) : Decimal :=
  let exact := ofBinary significand exponent
  let length := (Nat.toDigits 10 exact.coefficient).length
  let around := interval significand exponent
  let found := (List.range 17).findSome? fun digits =>
    let place := length - (digits + 1)
    (onGrid around exact.coefficient (Nat.pow 10 place)).map fun multiplier =>
      (⟨multiplier, exact.exponent + place⟩ : Decimal)
  (found.getD exact).stripped

end Abacus.Decimal
