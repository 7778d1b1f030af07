import Abacus.Double

/-! Decimal numbers: a whole coefficient times a power of ten, and the double nearest to one. -/

namespace Abacus

/-- The number `coefficient * 10 ^ exponent`. -/
structure Decimal where
  coefficient : Nat
  exponent : Int
  deriving DecidableEq

namespace Decimal

/-- The exact value of `significand * 2 ^ exponent`: a negative power of two is a power of five
with the decimal point moved. -/
def ofBinary (significand : Nat) : Int → Decimal
  | .ofNat power => ⟨significand * Nat.pow 2 power, 0⟩
  | .negSucc power => ⟨significand * Nat.pow 5 (power + 1), .negSucc power⟩

/-- The nearest double, of two the one with an even last bit. Beyond `10 ^ 400` every magnitude is
infinite and below `10 ^ (-400)` every one is zero, whatever the digits. -/
def toFloat (number : Decimal) : Float :=
  if number.coefficient = 0 ∨ number.exponent + number.coefficient.log2 < -400 then 0
  else if 400 < number.exponent then Double.infinity
  else Float.ofScientific number.coefficient (number.exponent < 0) number.exponent.natAbs

/-- The same number without zeros at the end of its coefficient. -/
def stripped (number : Decimal) : Decimal :=
  let digits := Nat.toDigits 10 number.coefficient
  let kept := (digits.reverse.dropWhile (· == '0')).length
  let dropped := digits.length - kept
  ⟨number.coefficient / Nat.pow 10 dropped, number.exponent + dropped⟩

end Decimal
end Abacus
