import Abacus.Console.Assignment
import Abacus.Expression
import Abacus.Proofs.Arrangement
import Abacus.Proofs.Classification
import Abacus.Proofs.Normality

/-! Messages. No message breaks a line: texts that may hold anything are quoted, and what is shown
as it stands is a lexeme, which has no line ends. -/

namespace Abacus

namespace Text

theorem newline_not_mem_append {left right : Text} (first : '\n' ∉ left) (second : '\n' ∉ right) :
    '\n' ∉ left ++ right := by
  rw [List.mem_append, not_or]
  exact ⟨first, second⟩

theorem newline_not_mem_between {before text after : Text} (shown : '\n' ∉ text)
    (first : '\n' ∉ before) (last : '\n' ∉ after) : '\n' ∉ before ++ text ++ after :=
  newline_not_mem_append (newline_not_mem_append first shown) last

private theorem newline_ne_of_isDigit {char : Char} (digit : char.isDigit = true) :
    '\n' ≠ char := by
  rintro rfl
  cases digit

theorem newline_not_mem_ofNat (number : Nat) : '\n' ∉ ofNat number := by
  intro member
  exact newline_ne_of_isDigit (Nat.isDigit_of_mem_toDigits (by decide) (by decide) member) rfl

theorem newline_not_mem_ofInt (number : Int) : '\n' ∉ ofInt number := by
  cases number with
  | ofNat number => exact newline_not_mem_ofNat number
  | negSucc number => simpa [ofInt] using newline_not_mem_ofNat (number + 1)

private theorem newline_not_mem_hexadecimal (width number : Nat) :
    '\n' ∉ hexadecimal width number := by
  have digit : ∀ value < 16, '\n' ≠ Nat.digitChar value := by decide
  induction width generalizing number with
  | zero => simp [hexadecimal]
  | succ width ih =>
    rw [hexadecimal, List.mem_append, List.mem_singleton, not_or]
    exact ⟨ih _, digit _ (Nat.mod_lt number (by decide))⟩

private theorem newline_not_mem_codeEscape (char : Char) : '\n' ∉ codeEscape char := by
  unfold codeEscape
  simp only
  (repeat' split) <;> simp [newline_not_mem_hexadecimal]

/-- A line end is shown by its escape. -/
private theorem newline_not_mem_escaped {quote : Char} (other : '\n' ≠ quote) (char : Char) :
    '\n' ∉ escaped quote char := by
  unfold escaped
  (repeat' split) <;> grind [newline_not_mem_codeEscape]

theorem newline_not_mem_quoted (text : Text) : '\n' ∉ quoted text := by
  have other : '\n' ≠ quoteFor text := by
    unfold quoteFor
    split <;> decide
  simp [quoted, other, newline_not_mem_escaped other]

end Text

theorem Label.newline_not_mem_shown (label : Label) : '\n' ∉ label.shown := by
  cases label with
  | text name => exact name.newline_not_mem_quoted
  | integer value => exact Text.newline_not_mem_ofInt value
  | truth value => cases value <;> decide
  | nothing => decide

theorem ConversionError.newline_not_mem_message (error : ConversionError) :
    '\n' ∉ error.message := by
  cases error with
  | malformed value =>
    cases value with
    | text value => exact Text.newline_not_mem_append (by decide) value.newline_not_mem_quoted
    | element => decide
  | tooLarge => decide
  | missing | sequence =>
    exact Text.newline_not_mem_append (by decide) (Text.newline_not_mem_quoted _)

theorem StoreError.newline_not_mem_message (error : StoreError) : '\n' ∉ error.message := by
  cases error with
  | unknownName name =>
    exact Text.newline_not_mem_between name.newline_not_mem_shown (by decide) (by decide)
  | value error => exact error.newline_not_mem_message

theorem Console.AssignmentError.newline_not_mem_message (error : AssignmentError) :
    '\n' ∉ error.message := by
  cases error with
  | form text =>
    exact Text.newline_not_mem_between text.newline_not_mem_quoted (by decide) (by decide)
  | value text => exact Text.newline_not_mem_append (by decide) text.newline_not_mem_quoted
  | name error => exact error.newline_not_mem_message

theorem LexError.newline_not_mem_message (error : LexError) : '\n' ∉ error.message := by
  cases error with
  | unrecognized candidate position | unterminated candidate position =>
    apply Text.newline_not_mem_append _ (Text.newline_not_mem_ofNat position)
    exact Text.newline_not_mem_between candidate.newline_not_mem_quoted (by decide) (by decide)

namespace SyntaxError

/-- The lexeme that a message shows. -/
def lexeme? : SyntaxError → Option Text
  | operatorAfterOperand lexeme | notUnary lexeme | unknownLexeme lexeme
  | unexpectedTerm lexeme => some lexeme
  | empty | unmatchedClosing | unmatchedOpening | incomplete | missingOperator => none

theorem newline_not_mem_message {error : SyntaxError}
    (plain : ∀ lexeme ∈ error.lexeme?, '\n' ∉ lexeme) : '\n' ∉ error.message := by
  cases error with
  | operatorAfterOperand lexeme | notUnary lexeme =>
    apply Text.newline_not_mem_append _ (by decide)
    exact Text.newline_not_mem_between (plain lexeme rfl) (by decide) (by decide)
  | unknownLexeme lexeme | unexpectedTerm lexeme =>
    exact Text.newline_not_mem_between (plain lexeme rfl) (by decide) (by decide)
  | empty | unmatchedClosing | unmatchedOpening | incomplete | missingOperator => decide

end SyntaxError

namespace Registry
variable {registry : Registry}

theorem lexeme?_of_role {previous : Option Role} {lexeme : Text} {error : SyntaxError}
    (found : registry.role previous lexeme = .error error) : error.lexeme? = some lexeme := by
  unfold Registry.role operatorRole at found
  (repeat' split at found) <;> cases found <;> rfl

theorem mem_of_termsAfter_error {previous : Option Role} {lexemes : List Text}
    {error : SyntaxError} (found : registry.termsAfter previous lexemes = .error error) :
    ∀ lexeme ∈ error.lexeme?, lexeme ∈ lexemes := by
  induction lexemes generalizing previous with
  | nil => cases found
  | cons first lexemes ih =>
    rcases Outcome.bind_eq_error_iff.mp found with here | ⟨role, -, rest⟩
    · simp [lexeme?_of_role here]
    · rcases Outcome.bind_eq_error_iff.mp rest with later | ⟨terms, -, impossible⟩
      · exact fun lexeme shown => List.mem_cons_of_mem first (ih later lexeme shown)
      · cases impossible

end Registry

namespace Program
variable {registry : Registry}

private theorem lexeme?_of_drained {stack : List Term} {error : SyntaxError}
    (found : drained stack = .error error) : error.lexeme? = none := by
  induction stack with
  | nil => cases found
  | cons top stack ih =>
    unfold drained at found
    split at found
    · cases found
      rfl
    · exact ih (Outcome.map_eq_error_iff.mp found)

theorem mem_of_arrangedFrom_error {stack terms : List Term} {error : SyntaxError}
    (found : arrangedFrom registry stack terms = .error error) :
    ∀ lexeme ∈ error.lexeme?, lexeme ∈ terms.map Term.text := by
  induction terms generalizing stack with
  | nil => simp [lexeme?_of_drained found]
  | cons term terms ih =>
    rcases moves_or_stuck registry stack term with ⟨out, left, moves⟩ | ⟨role, closing⟩ | role
    · rw [moves.arrangedFrom_cons] at found
      have later := Outcome.map_eq_error_iff.mp found
      exact fun lexeme shown => List.mem_cons_of_mem term.text (ih later lexeme shown)
    · simp only [arrangedFrom, role, closing, Except.error.injEq] at found
      subst found
      simp [SyntaxError.lexeme?]
    · simp only [arrangedFrom, role, Except.error.injEq] at found
      subst found
      simp [SyntaxError.lexeme?]

private theorem lexeme?_of_checked {program : List Term} {error : SyntaxError}
    (found : checked program = .error error) : error.lexeme? = none := by
  unfold checked at found
  split at found <;> cases found <;> rfl

theorem mem_of_arranged_error {terms : List Term} {error : SyntaxError}
    (found : arranged registry terms = .error error) :
    ∀ lexeme ∈ error.lexeme?, lexeme ∈ terms.map Term.text := by
  unfold arranged at found
  split at found
  · cases found
    simp [SyntaxError.lexeme?]
  · rcases Outcome.bind_eq_error_iff.mp found with arrangement | ⟨program, -, rest⟩
    · exact mem_of_arrangedFrom_error arrangement
    · rcases Outcome.bind_eq_error_iff.mp rest with check | ⟨_, -, impossible⟩
      · simp [lexeme?_of_checked check]
      · cases impossible

end Program

namespace Expression
variable {registry : Registry}

/-- A message shows no lexeme but one of the text. -/
theorem mem_of_compile_error {source : Text} {lexemes : List Text} {error : SyntaxError}
    (lexed : registry.lexemes source = .ok lexemes)
    (refused : compile registry source = .error (.grammatical error)) :
    ∀ lexeme ∈ error.lexeme?, lexeme ∈ lexemes := by
  simp only [compile, lexed] at refused
  obtain ⟨other, found, same⟩ := Outcome.mapError_eq_error_iff.mp refused
  cases same
  rcases Outcome.bind_eq_error_iff.mp found with unclassified | ⟨terms, classified, arranged⟩
  · exact Registry.mem_of_termsAfter_error unclassified
  · obtain ⟨-, rfl⟩ := Registry.assigned_of_terms classified
    exact Program.mem_of_arranged_error arranged

/-- A text is refused in one line, wherever it has lines itself. -/
theorem newline_not_mem_message {source : Text} {error : ParseError}
    (refused : parse registry source = .error error) : '\n' ∉ error.message := by
  have unread : compile registry source = .error error := Outcome.map_eq_error_iff.mp refused
  cases error with
  | lexical error => exact error.newline_not_mem_message
  | grammatical error =>
    cases lexed : registry.lexemes source with
    | error => simp [compile, lexed] at unread
    | ok lexemes =>
      apply SyntaxError.newline_not_mem_message
      intro lexeme shown member
      have inside : '\n' ∈ source.normalized := by
        rw [← Registry.flatten_of_lexemes lexed]
        exact List.mem_flatten.mpr ⟨lexeme, mem_of_compile_error lexed unread lexeme shown, member⟩
      cases (Text.settled_of_mem_normalized inside).visible

end Expression
end Abacus
