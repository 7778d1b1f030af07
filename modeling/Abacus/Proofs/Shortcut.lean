import Abacus.Proofs.Viability

/-! The shortcut for number literals. A literal is read at once, as far as it goes, and the scanner
would read the same literal character by character: it goes on behind every start of a literal, each
of which is a literal again, and what begins with a digit starts no name, so that the scanner stops
where the literal ends. -/

namespace Abacus.Registry
variable {registry : Registry}

/-- Nothing that begins with a digit can become a name. -/
theorem isViable_eq_false_of_isDigit {digit : Char} (isDigit : Unicode.isDigit digit = true)
    (rest : Text) : registry.isViable (digit :: rest) = false := by
  rw [Bool.eq_false_iff]
  intro viable
  have letter := isLetter_of_isViable viable
  rw [Unicode.isDigit_eq_false_of_isLetter letter] at isDigit
  cases isDigit

theorem startsFunction_digit {digit : Char} (isDigit : Unicode.isDigit digit = true)
    (rest : Text) : registry.startsFunction (digit :: rest) = false := by
  have blocked := @isViable_eq_false_of_isDigit registry digit isDigit rest
  simp only [isViable, Bool.or_eq_false_iff] at blocked
  simpa using blocked.2

/-- What begins with a digit is a word only as a literal. -/
theorem isWord_digit {digit : Char} (isDigit : Unicode.isDigit digit = true) (rest : Text) :
    registry.isWord (digit :: rest) = Text.isNumeral (digit :: rest) := by
  have nameless : registry.isName (digit :: rest) = false := by
    rw [Bool.eq_false_iff]
    intro named
    have viable := isViable_of_isName named
    rw [isViable_eq_false_of_isDigit isDigit] at viable
    cases viable
  simp only [isName, Bool.or_eq_false_iff] at nameless
  simp [isWord, nameless]

/-- No literal is a symbol. -/
theorem isSymbol_eq_false_of_isDigit {digit : Char} (isDigit : Unicode.isDigit digit = true)
    (rest : Text) : registry.isSymbol (digit :: rest) = false := by
  rw [Bool.eq_false_iff]
  intro symbol
  obtain ⟨char, same, -⟩ := exists_char_of_isSymbol symbol
  obtain ⟨rfl, rfl⟩ := List.cons.inj same
  rw [isDigit_eq_false_of_isSymbol symbol] at isDigit
  cases isDigit

/-- The scanner goes on through a literal. -/
theorem goesOn_of_isNumeral {text : Text} (numeral : text.isNumeral = true) :
    registry.GoesOn text := by
  cases text with
  | nil => cases numeral
  | cons digit rest =>
    have isDigit := Text.isDigit_of_isNumeral numeral
    exact ⟨isSymbol_eq_false_of_isDigit isDigit rest, by simp [isWord_digit isDigit, numeral]⟩

/-- The scanner reads the longest literal and stops behind it. -/
theorem scan_numeral {position : Nat} {lexeme rest : Text}
    (longest : Longest Text.isNumeral (lexeme ++ rest) lexeme) :
    registry.scan position [] (lexeme ++ rest) = .ok (lexeme, rest) := by
  obtain ⟨numeral, stop⟩ := (longest_append_iff Text.startClosed_isNumeral).mp longest
  rw [scan_through Text.startClosed_isNumeral (fun _ _ => goesOn_of_isNumeral)
    (by simpa using numeral), List.nil_append]
  cases lexeme with
  | nil => cases numeral
  | cons digit lexeme =>
    have isDigit := Text.isDigit_of_isNumeral numeral
    have word : registry.isWord (digit :: lexeme) = true := by rw [isWord_digit isDigit, numeral]
    cases rest with
    | nil => rw [scan, if_pos word]
    | cons char rest =>
      have ends : Text.isNumeral (digit :: (lexeme ++ [char])) = false := stop char rfl
      rw [scan]
      simp only [List.cons_append, isSymbol_eq_false_of_isDigit isDigit, isWord_digit isDigit,
        startsFunction_digit isDigit, ends, numeral, Bool.or_self, Bool.false_eq_true, ↓reduceIte]

/-- The first lexeme of a text is the one that the scanner finds from the start, with or without the
shortcut for literals, and so is the error, with its position, if there is no lexeme. -/
theorem next_eq_scan (registry : Registry) (position : Nat) (text : Text) :
    registry.next position text = registry.scan position [] text := by
  unfold next
  split
  · rfl
  · rename_i nonempty
    have longest := Text.longest_numeral (by simpa using nonempty)
    have parts := text.numeral_append
    generalize text.numeral = split at longest parts
    subst parts
    exact (scan_numeral longest).symm

end Abacus.Registry
