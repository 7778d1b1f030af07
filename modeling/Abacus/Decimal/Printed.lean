import Abacus.Decimal.Shortest
import Abacus.Text

/-! The text of a double: the shortest digits that read back, in positional notation for exponents
from -4 to 15 and in exponent notation otherwise. -/

namespace Abacus.Decimal

/-- How numbers are written. -/
structure Style where
  /-- The least exponent of ten written in positional notation. -/
  leastPositional : Int
  /-- The greatest exponent of ten written in positional notation. -/
  greatestPositional : Int
  /-- The least number of digits of a written exponent. -/
  exponentWidth : Nat

/-- Results are positional for exponents from -4 to 15; other exponents have two digits or more. -/
def resultStyle : Style := ⟨-4, 15, 2⟩

/-- Digits with the point after the first `whole` of them, with zeros where digits are missing; a
digit always stands on each side of the point. -/
def positional (digits : Text) : Int → Text
  | .ofNat whole =>
    let padded := digits ++ List.replicate (whole - digits.length) '0'
    let before := padded.take whole
    let after := padded.drop whole
    (if before = [] then ['0'] else before) ++ '.' :: (if after = [] then ['0'] else after)
  | .negSucc zeros => '0' :: '.' :: List.replicate (zeros + 1) '0' ++ digits

/-- Digits with the point after the first of them, if there are more, and the exponent of ten. -/
def scientific (width : Nat) (digits : Text) (exponent : Int) : Text :=
  let power := Text.ofNat exponent.natAbs
  let mantissa := match digits with
    | [] => []
    | [digit] => [digit]
    | digit :: others => digit :: '.' :: others
  mantissa ++ 'e' :: (if exponent < 0 then '-' else '+') ::
    List.replicate (width - power.length) '0' ++ power

/-- A positive decimal without zeros at its end, or zero. -/
def printed (style : Style) (number : Decimal) : Text :=
  let digits := Text.ofNat number.coefficient
  let exponent := number.exponent + digits.length - 1
  if style.leastPositional ≤ exponent ∧ exponent ≤ style.greatestPositional then
    positional digits (exponent + 1)
  else scientific style.exponentWidth digits exponent

example : printed resultStyle (shortest 7205759403792794 (-56)) = "0.1".toList := by
  decide +kernel

example : printed resultStyle (shortest 5000000000000000 1) = "1e+16".toList := by
  decide +kernel

/-- The least double is written with one digit: of the many that read back, the nearest. -/
example : printed resultStyle (shortest 1 (-1074)) = "5e-324".toList := by
  decide +kernel

/-- The text of a double; a zero keeps its sign. -/
def ofFloat (number : Float) : Text :=
  match Double.ofFloat number with
  | .nan => "nan".toList
  | .infinite negative => sign negative ++ "inf".toList
  | .finite negative 0 _ => sign negative ++ "0.0".toList
  | .finite negative significand exponent =>
    sign negative ++ printed resultStyle (shortest significand exponent)
where
  sign (negative : Bool) : Text := if negative then ['-'] else []

end Abacus.Decimal
