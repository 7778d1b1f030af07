import Abacus.Decimal

/-! The remainder with the sign of the divisor. The remainder of two doubles is a double again, so
it is computed on whole multiples of the smaller of the two last places, without rounding. -/

namespace Abacus.Double

/-- The double `significand * 2 ^ exponent`, negated or not. -/
def toFloat (negative : Bool) (significand : Nat) (exponent : Int) : Float :=
  let magnitude := (Decimal.ofBinary significand exponent).toFloat
  if negative then -magnitude else magnitude

/-- The remainder of a division whose quotient is cut towards zero. It has the sign of the
dividend, and is the dividend itself if the divisor is infinite. -/
def remainder (dividend divisor : Float) : Float :=
  match ofFloat dividend, ofFloat divisor with
  | .finite negative significand exponent, .finite _ otherSignificand otherExponent =>
    if otherSignificand = 0 then undefined
    else
      let place := min exponent otherExponent
      let scaled := significand * Nat.pow 2 (exponent - place).toNat
      let otherScaled := otherSignificand * Nat.pow 2 (otherExponent - place).toNat
      toFloat negative (scaled % otherScaled) place
  | .finite _ _ _, .infinite _ => dividend
  | _, _ => undefined

/-- The remainder of a division whose quotient is rounded down: it has the sign of the divisor,
also when it is zero. -/
def modulo (dividend divisor : Float) : Float :=
  if divisor == 0 then undefined
  else
    let rest := remainder dividend divisor
    if rest == 0 then (if divisor < 0 then -0.0 else 0.0)
    else if (rest < 0) != (divisor < 0) then rest + divisor
    else rest

end Abacus.Double
