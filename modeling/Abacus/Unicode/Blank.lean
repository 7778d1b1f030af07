import Abacus.Unicode.Span

/-! Blanks: spaces, line ends and the separators among the control characters. -/

namespace Abacus.Unicode

/-- The code points of the blanks. -/
def blankSpans : List Span :=
  [(0x9, 0xD), (0x1C, 0x20), (0x85, 0x85), (0xA0, 0xA0), (0x1680, 0x1680), (0x2000, 0x200A),
   (0x2028, 0x2029), (0x202F, 0x202F), (0x205F, 0x205F), (0x3000, 0x3000)]

/-- Characters that count as space around a number or a name. -/
def isBlank (char : Char) : Bool :=
  covers blankSpans char.toNat

/-- The four control characters that separate units of information. -/
def isInformationSeparator (char : Char) : Bool :=
  covers [(0x1C, 0x1F)] char.toNat

end Abacus.Unicode
