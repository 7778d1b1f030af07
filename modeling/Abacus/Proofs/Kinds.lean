import Abacus.Proofs.Derivation
import Abacus.Proofs.Placement

/-! Kinds of texts. What can be a name, a number literal, a bracket or an operator is told by its
first character, whatever functions and operators a registry has. So the kinds are apart in every
registry that can be derived, and what ends a word is never part of one. -/

namespace Abacus

/-- What a text can be: the name of a function or a variable, a number literal, a bracket, or the
symbol of an operator. -/
inductive Kind where
  | name
  | numeral
  | bracket
  | operator
  deriving DecidableEq

/-- The only kind that a text with this first character can be of. -/
def Kind.opening (char : Char) : Kind :=
  if Unicode.isDigit char then .numeral
  else if Unicode.isLetter char then .name
  else if Text.isBracket [char] then .bracket
  else .operator

theorem Kind.opening_of_isDigit {char : Char} (digit : Unicode.isDigit char = true) :
    opening char = .numeral := by
  rw [opening, if_pos digit]

theorem Kind.opening_of_isLetter {char : Char} (letter : Unicode.isLetter char = true) :
    opening char = .name := by
  simp [opening, letter, Unicode.isDigit_eq_false_of_isLetter letter]

theorem Kind.opening_of_isOperatorSymbol {char : Char}
    (symbol : Text.isOperatorSymbol [char] = true) : opening char = .operator := by
  obtain ⟨letter, digit, -, bracket⟩ := Text.operator_char symbol
  simp [opening, letter, digit, bracket]

theorem Kind.opening_of_isBracket {char : Char} (bracket : Text.isBracket [char] = true) :
    opening char = .bracket := by
  simp only [Text.isBracket, Bool.or_eq_true, beq_iff_eq] at bracket
  rcases bracket with opens | closes
  · obtain rfl := List.singleton_inj.mp opens
    decide +kernel
  · obtain rfl := List.singleton_inj.mp closes
    decide +kernel

namespace Registry
variable {registry : Registry}

/-- The text is of the kind. -/
def isOf (registry : Registry) (text : Text) : Kind → Bool
  | .name => registry.isName text
  | .numeral => text.isNumeral
  | .bracket => text.isBracket
  | .operator => registry.isOperator text

theorem isOf_nil (kind : Kind) : registry.isOf [] kind = false := by
  cases kind with
  | name => exact isName_nil
  | numeral | bracket => rfl
  | operator =>
    rw [isOf, Bool.eq_false_iff]
    intro known
    obtain ⟨_, impossible, -⟩ :=
      Text.isOperatorSymbol_iff.mp (isOperatorSymbol_of_isOperator known)
    cases impossible

/-- The first character tells the kind. -/
theorem eq_opening_of_isOf {char : Char} {rest : Text} {kind : Kind}
    (known : registry.isOf (char :: rest) kind = true) : kind = Kind.opening char := by
  symm
  cases kind with
  | name => exact Kind.opening_of_isLetter (isLetter_of_isViable (isViable_of_isName known))
  | numeral => exact Kind.opening_of_isDigit (Text.isDigit_of_isNumeral known)
  | bracket =>
    have symbol : registry.isSymbol (char :: rest) = true := by
      rw [isSymbol_eq, show Text.isBracket (char :: rest) = true from known, Bool.or_true]
    obtain ⟨_, same, -⟩ := exists_char_of_isSymbol symbol
    obtain ⟨rfl, rfl⟩ := List.cons.inj same
    exact Kind.opening_of_isBracket known
  | operator =>
    have symbol := isOperatorSymbol_of_isOperator known
    obtain ⟨_, same, -⟩ := Text.isOperatorSymbol_iff.mp symbol
    obtain ⟨rfl, rfl⟩ := List.cons.inj same
    exact Kind.opening_of_isOperatorSymbol symbol

theorem kind_unique {text : Text} {first second : Kind} (one : registry.isOf text first = true)
    (other : registry.isOf text second = true) : first = second := by
  cases text with
  | nil =>
    rw [isOf_nil] at one
    cases one
  | cons char rest => rw [eq_opening_of_isOf one, eq_opening_of_isOf other]

/-- A symbol is a character of no word. -/
theorem exists_char_not_mem {symbol text : Text} (known : registry.isSymbol symbol = true)
    (word : registry.isWord text = true) : ∃ char, symbol = [char] ∧ char ∉ text := by
  obtain ⟨char, rfl, alphanumeric, point⟩ := exists_char_of_isSymbol known
  refine ⟨char, rfl, ?_⟩
  intro member
  by_cases numeral : text.isNumeral = true
  · rcases Text.digit_or_point numeral char member with digit | same
    · rw [Unicode.isAlphanumeric_of_isDigit digit] at alphanumeric
      cases alphanumeric
    · exact point same
  · have named : registry.isName text = true := by
      simpa [isWord, isName, Bool.eq_false_iff.mpr numeral] using word
    rw [isAlphanumeric_of_isViable (isViable_of_isName named) char member] at alphanumeric
    cases alphanumeric

/-- What can become the name of a function is no number and does not begin like one. -/
theorem digitless_of_startsFunction {start : Text} (starts : registry.startsFunction start = true) :
    (∀ char ∈ start.head?, Unicode.isDigit char = false) ∧ start.isNumeral = false := by
  cases start with
  | nil => exact ⟨by simp, rfl⟩
  | cons char rest =>
    have viable := isViable_iff.mpr (.inr ⟨List.cons_ne_nil char rest, starts⟩)
    have other := Unicode.isDigit_eq_false_of_isLetter (isLetter_of_isViable viable)
    refine ⟨?_, Text.isNumeral_eq_false other⟩
    intro first begins
    obtain rfl := Option.some.inj begins
    exact other

/-- In a registry that is derived in any number of steps, a text is of one kind at most, no operator
or bracket is a character of a name or a number literal, no start of a function name is a number
literal or begins like one, and the empty text is of no kind. -/
theorem derived_kinds_apart (registry : Registry) (steps : List Extension) :
    (∀ text first second, (registry.derived steps).isOf text first = true →
      (registry.derived steps).isOf text second = true → first = second) ∧
    (∀ symbol word, (registry.derived steps).isSymbol symbol = true →
      (registry.derived steps).isWord word = true → ∃ char, symbol = [char] ∧ char ∉ word) ∧
    (∀ start, (registry.derived steps).startsFunction start = true →
      (∀ char ∈ start.head?, Unicode.isDigit char = false) ∧ start.isNumeral = false) ∧
    ∀ kind, (registry.derived steps).isOf [] kind = false :=
  ⟨fun _ _ _ => kind_unique, fun _ _ => exists_char_not_mem,
    fun _ => digitless_of_startsFunction, isOf_nil⟩

end Registry
end Abacus
