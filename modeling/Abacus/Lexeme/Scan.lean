import Abacus.Lexeme.Numeral
import Abacus.Registry

/-! The first lexeme of a text. A number literal is read as far as it goes. Anything else is read
character by character: a symbol ends at once, and a candidate that is an operand or a function, or
starts the name of one, is read on. When it can be read on no further, the candidate without its
last character has to be an operand or a function. -/

namespace Abacus

/-- Why a text cannot be cut into lexemes: what was read from a position on, up to and including
the character that cannot follow, or up to the end of the text. -/
inductive LexError where
  | unrecognized (candidate : Text) (position : Nat)
  | unterminated (candidate : Text) (position : Nat)
  deriving DecidableEq

namespace LexError

def position : LexError → Nat
  | unrecognized _ position => position
  | unterminated _ position => position

def message : LexError → Text
  | unrecognized candidate position =>
    "unrecognized symbol ".toList ++ candidate.quoted ++ " at position ".toList ++
      Text.ofNat position
  | unterminated candidate position =>
    "unterminated token ".toList ++ candidate.quoted ++ " at position ".toList ++
      Text.ofNat position

end LexError

namespace Registry

/-- The text is a number, a function or a variable. -/
def isWord (registry : Registry) (text : Text) : Bool :=
  text.isNumeral || registry.isFunction text || text.isVariable

theorem isWord_nil (registry : Registry) : registry.isWord [] = false := by
  simp [isWord, isFunction_nil, Text.isVariable, Variable.ofText?]

/-- The lexeme that starts with the characters taken so far, and the rest of the text. -/
def scan (registry : Registry) (position : Nat) (taken : Text) :
    Text → Except LexError (Text × Text)
  | [] =>
    if registry.isWord taken then .ok (taken, [])
    else .error (.unterminated taken position)
  | char :: rest =>
    let candidate := taken ++ [char]
    if registry.isSymbol candidate then .ok (candidate, rest)
    else if registry.isWord candidate || registry.startsFunction candidate then
      registry.scan position candidate rest
    else if registry.isWord taken then .ok (taken, char :: rest)
    else .error (.unrecognized candidate position)

/-- The first lexeme of a text, and the rest of the text. -/
def next (registry : Registry) (position : Nat) (text : Text) : Except LexError (Text × Text) :=
  if text.numeral.1.isEmpty then registry.scan position [] text else .ok text.numeral

theorem scan_append {registry : Registry} {position : Nat} {taken text lexeme rest : Text}
    (found : registry.scan position taken text = .ok (lexeme, rest)) :
    lexeme ++ rest = taken ++ text := by
  induction text generalizing taken with
  | nil =>
    unfold scan at found
    split at found <;> cases found
    rfl
  | cons char text ih =>
    unfold scan at found
    simp only at found
    split at found
    · cases found
      simp
    · split at found
      · simpa using ih found
      · split at found <;> cases found
        rfl

theorem scan_ne_nil {registry : Registry} {position : Nat} {taken text lexeme rest : Text}
    (found : registry.scan position taken text = .ok (lexeme, rest)) : lexeme ≠ [] := by
  induction text generalizing taken with
  | nil =>
    unfold scan at found
    split at found
    · rename_i word
      cases found
      rintro rfl
      simp [isWord_nil] at word
    · cases found
  | cons char text ih =>
    unfold scan at found
    simp only at found
    split at found
    · cases found
      simp
    · split at found
      · exact ih found
      · split at found
        · rename_i word
          cases found
          rintro rfl
          simp [isWord_nil] at word
        · cases found

/-- A lexeme and what follows it make up the text. -/
theorem next_append {registry : Registry} {position : Nat} {text lexeme rest : Text}
    (found : registry.next position text = .ok (lexeme, rest)) : lexeme ++ rest = text := by
  unfold next at found
  split at found
  · simpa using scan_append found
  · have whole := text.numeral_append
    cases split : text.numeral
    simp_all

theorem next_ne_nil {registry : Registry} {position : Nat} {text lexeme rest : Text}
    (found : registry.next position text = .ok (lexeme, rest)) : lexeme ≠ [] := by
  unfold next at found
  split at found
  · exact scan_ne_nil found
  · rename_i digits
    cases split : text.numeral
    simp_all

/-- What follows a lexeme is shorter than the text. -/
theorem next_shorter {registry : Registry} {position : Nat} {text lexeme rest : Text}
    (found : registry.next position text = .ok (lexeme, rest)) : rest.length < text.length := by
  have whole := congrArg List.length (next_append found)
  have read := List.length_pos_iff.mpr (next_ne_nil found)
  rw [List.length_append] at whole
  omega

end Registry
end Abacus
