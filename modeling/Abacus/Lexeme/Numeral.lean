import Abacus.Text
import Abacus.Unicode.Numeral

/-! Number literals: digits, and behind them a point and any further digits. -/

namespace Abacus.Text

/-- The longest number literal that a text starts with, empty if it starts with no digit, and the
rest of the text. -/
def numeral (text : Text) : Text × Text :=
  match text.takeWhile Unicode.isDigit, text.dropWhile Unicode.isDigit with
  | [], _ => ([], text)
  | digits, '.' :: rest =>
    (digits ++ '.' :: rest.takeWhile Unicode.isDigit, rest.dropWhile Unicode.isDigit)
  | digits, rest => (digits, rest)

/-- The text is a number literal. -/
def isNumeral (text : Text) : Bool :=
  !text.numeral.1.isEmpty && text.numeral.2.isEmpty

@[simp]
theorem isNumeral_nil : isNumeral [] = false := rfl

theorem numeral_append (text : Text) : text.numeral.1 ++ text.numeral.2 = text := by
  have parts := List.takeWhile_append_dropWhile (p := Unicode.isDigit) (l := text)
  unfold numeral
  split
  · rfl
  · rename_i rest dropped _
    rw [dropped] at parts
    simpa using parts
  · exact parts

end Abacus.Text
