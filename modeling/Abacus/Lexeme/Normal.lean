import Abacus.Registry.Symbol

/-! The normal form of a source text, in which it is read: points for commas, no spaces, tabs or
line ends, and capital letters only. Layout goes wherever it stands, also inside a number. -/

namespace Abacus

/-- The decimal point for each character that stands for it. -/
def withPoint (char : Char) : Char :=
  if Text.isPoint char then '.' else char

/-- The four characters that only lay a text out. -/
def isLayout (char : Char) : Bool :=
  char == ' ' || char == '\t' || char == '\r' || char == '\n'

def Text.normalized (text : Text) : Text :=
  Unicode.upper ((text.map withPoint).filter (!isLayout ·))

@[simp]
theorem Text.normalized_nil : Text.normalized [] = [] := rfl

@[simp]
theorem Text.normalized_append (left right : Text) :
    Text.normalized (left ++ right) = left.normalized ++ right.normalized := by
  simp [Text.normalized]

end Abacus
