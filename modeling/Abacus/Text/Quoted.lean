import Abacus.Unicode.Printable
import Abacus.Text

/-! Quoted texts, as messages show them: between apostrophes, or between double quotes when the text
holds an apostrophe and no double quote. The quote around the text, the backslash, line ends and
tabs are escaped by a backslash, other unprintable characters by their code point. -/

namespace Abacus.Text

/-- The quote around a text. -/
def quoteFor (text : Text) : Char :=
  if text.contains '\'' && !text.contains '"' then '"' else '\''

/-- The code point of a character in the least of three widths. -/
def codeEscape (char : Char) : Text :=
  let code := char.toNat
  if code < 0x100 then '\\' :: 'x' :: hexadecimal 2 code
  else if code < 0x10000 then '\\' :: 'u' :: hexadecimal 4 code
  else '\\' :: 'U' :: hexadecimal 8 code

/-- A character of a quoted text. -/
def escaped (quote char : Char) : Text :=
  if char = quote ∨ char = '\\' then ['\\', char]
  else if char = '\n' then ['\\', 'n']
  else if char = '\r' then ['\\', 'r']
  else if char = '\t' then ['\\', 't']
  else if Unicode.isPrintable char then [char]
  else codeEscape char

/-- A text between quotes. -/
def quoted (text : Text) : Text :=
  let quote := quoteFor text
  quote :: text.flatMap (escaped quote) ++ [quote]

example : quoted "it's".toList = "\"it's\"".toList := by
  decide +kernel

example : quoted ['\n', '\u200b'] = "'\\n\\u200b'".toList := by
  decide +kernel

/-- Quoted texts in square brackets. -/
def quotedList (texts : List Text) : Text :=
  '[' :: joined [',', ' '] (texts.map quoted) ++ [']']

end Abacus.Text
