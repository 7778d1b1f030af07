import Abacus.Decimal
import Abacus.Text
import Abacus.Unicode.Blank
import Abacus.Unicode.Numeral

/-! Reading numbers. A number is written in decimal digits of any script, with an optional sign,
point and exponent and single underscores between digits, or as one of the words `inf`, `infinity`
and `nan` in small or capital letters. Blanks around it do not count, the information separators
excepted. -/

namespace Abacus.Decimal

/-- The values of the digits at the start of a text and the rest of the text. A single underscore
between two digits is passed over; `inside` tells that a digit stands before. -/
def digitRun (inside : Bool) : Text → List Nat × Text
  | [] => ([], [])
  | char :: rest =>
    match Unicode.digitValue? char with
    | some value =>
      let (values, others) := digitRun true rest
      (value :: values, others)
    | none =>
      if inside ∧ char = '_' ∧ rest.head?.any Unicode.isDigit then digitRun true rest
      else ([], char :: rest)

/-- The number that digits stand for. -/
def ofDigits (digits : List Nat) : Nat :=
  digits.foldl (fun number digit => 10 * number + digit) 0

/-- A sign, if there is one: true for a minus. -/
def signed : Text → Bool × Text
  | '-' :: rest => (true, rest)
  | '+' :: rest => (false, rest)
  | text => (false, text)

/-- The exponent that ends a number: the letter E, a sign and digits, or nothing. -/
def readExponent? : Text → Option Int
  | [] => some 0
  | mark :: rest =>
    if mark = 'e' ∨ mark = 'E' then
      let (negative, rest) := signed rest
      match digitRun false rest with
      | ([], _) => none
      | (digits, []) => some (if negative then -ofDigits digits else ofDigits digits)
      | (_, _ :: _) => none
    else none

/-- A number without a sign. -/
def readMagnitude? (text : Text) : Option Decimal :=
  let (whole, rest) := digitRun false text
  let (fraction, rest) := match rest with
    | '.' :: more => digitRun false more
    | _ => ([], rest)
  if whole = [] ∧ fraction = [] then none
  else (readExponent? rest).map fun exponent =>
    ⟨ofDigits (whole ++ fraction), exponent - fraction.length⟩

example : readMagnitude? "1_0.5e-3".toList = some ⟨105, -4⟩ := by
  decide +kernel

example : readMagnitude? "1__0".toList = none := by
  decide +kernel

/-- A text in small letters, as far as the letters from A to Z go. -/
def lowered (text : Text) : Text :=
  text.map Char.toLower

/-- A number or one of the words, without a sign. -/
def readUnsigned? (text : Text) : Option Float :=
  let word := lowered text
  if word = "inf".toList ∨ word = "infinity".toList then some Double.infinity
  else if word = "nan".toList then some Double.undefined
  else (readMagnitude? text).map toFloat

/-- Blanks that may stand around a number. -/
def isMargin (char : Char) : Bool :=
  Unicode.isBlank char && !Unicode.isInformationSeparator char

/-- The double nearest to the number that a text denotes, if it denotes one. -/
def read? (text : Text) : Option Float :=
  let (negative, rest) := signed (text.trim isMargin)
  (readUnsigned? rest).map fun magnitude => if negative then -magnitude else magnitude

end Abacus.Decimal
