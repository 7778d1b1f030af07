/-! The parts of a double: its sign, and its magnitude as a whole number times a power of two. -/

namespace Abacus

/-- What a double stands for. -/
inductive Double where
  | nan
  | infinite (negative : Bool)
  /-- The magnitude is `significand * 2 ^ exponent`. -/
  | finite (negative : Bool) (significand : Nat) (exponent : Int)
  deriving DecidableEq

namespace Double

/-- The parts written in the bits of a double: a sign, eleven bits of exponent, 52 of fraction. -/
def ofBits (bits : Nat) : Double :=
  let negative := bits / Nat.pow 2 63 == 1
  let fraction := bits % Nat.pow 2 52
  match bits / Nat.pow 2 52 % Nat.pow 2 11 with
  | 0 => finite negative fraction (-1074)
  | 2047 => if fraction = 0 then infinite negative else nan
  | exponent => finite negative (Nat.pow 2 52 + fraction) (exponent - 1075)

def ofFloat (number : Float) : Double :=
  ofBits number.toBits.toNat

/-- The double that is not a number. -/
def undefined : Float :=
  Float.ofBits 0x7FF8000000000000

/-- Positive infinity. -/
def infinity : Float :=
  Float.ofBits 0x7FF0000000000000

end Double
end Abacus
