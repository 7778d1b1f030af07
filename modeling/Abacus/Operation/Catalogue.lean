import Abacus.Operation
import Abacus.Operation.Remainder

/-! The catalogue of operations that a registry can be given by name. They follow the rules of
floating point arithmetic: a quotient by zero is infinite or no number, and an argument outside
the domain gives no number. -/

namespace Abacus

namespace Unary

private def pointwise (name : String) (rule : Float → Float) : Unary :=
  ⟨name.toList, .pointwise rule⟩

def identity : Unary := pointwise "pos" id
def negation : Unary := pointwise "neg" (- ·)
def sine : Unary := pointwise "sin" Float.sin
def cosine : Unary := pointwise "cos" Float.cos
def logarithm : Unary := pointwise "ln" Float.log
def exponential : Unary := pointwise "exp" Float.exp
def squareRoot : Unary := pointwise "sqrt" Float.sqrt
def magnitude : Unary := pointwise "abs" Float.abs
def seven : Unary := ⟨"seven".toList, .constant 7⟩

def catalogue : List Unary :=
  [identity, negation, sine, cosine, logarithm, exponential, squareRoot, magnitude, seven]

/-- The operation of a name. -/
def named? (name : Text) : Option Unary :=
  catalogue.find? (·.name == name)

end Unary

namespace Binary

private def pointwise (name : String) (rule : Float → Float → Float) : Binary :=
  ⟨name.toList, .pointwise rule⟩

def sum : Binary := pointwise "add" (· + ·)
def difference : Binary := pointwise "sub" (· - ·)
def product : Binary := pointwise "mul" (· * ·)
def quotient : Binary := pointwise "div" (· / ·)

/-- The power with one exponent for all bases. Five exponents have a rule that rounds once; the
root of negative infinity is no number and that of negative zero is negative zero. -/
def powerOf (base exponent : Float) : Float :=
  if exponent == -1 then 1 / base
  else if exponent == 0 then 1
  else if exponent == 0.5 then base.sqrt
  else if exponent == 1 then base
  else if exponent == 2 then base * base
  else base.pow exponent

def power : Binary := ⟨"power".toList, .byOperand powerOf Float.pow⟩

def modulo : Binary := pointwise "mod" Double.modulo
def first : Binary := pointwise "first" fun left _ => left
def second : Binary := pointwise "second" fun _ right => right

def catalogue : List Binary :=
  [sum, difference, product, quotient, power, modulo, first, second]

/-- The operation of a name. -/
def named? (name : Text) : Option Binary :=
  catalogue.find? (·.name == name)

end Binary
end Abacus
