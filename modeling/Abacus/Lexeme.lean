import Abacus.Lexeme.Normal
import Abacus.Lexeme.Scan
import Abacus.Outcome

/-! The lexemes of a text: its normal form cut up from the left. -/

namespace Abacus.Registry

/-- The lexemes of a text that starts at a position of the whole. -/
def lexemesFrom (registry : Registry) (position : Nat) (text : Text) :
    Except LexError (List Text) :=
  if text.isEmpty then .ok []
  else
    match found : registry.next position text with
    | .error error => .error error
    | .ok (lexeme, rest) =>
      have := next_shorter found
      (registry.lexemesFrom (position + lexeme.length) rest).map (lexeme :: ·)
termination_by text.length

/-- The lexemes of a source text. -/
def lexemes (registry : Registry) (source : Text) : Except LexError (List Text) :=
  registry.lexemesFrom 0 source.normalized

@[simp]
theorem lexemesFrom_nil (registry : Registry) (position : Nat) :
    registry.lexemesFrom position [] = .ok [] := by
  rw [lexemesFrom]
  rfl

/-- The lexemes of a text make up the text. -/
theorem flatten_of_lexemesFrom {registry : Registry} {position : Nat} {text : Text}
    {lexemes : List Text} (found : registry.lexemesFrom position text = .ok lexemes) :
    lexemes.flatten = text := by
  fun_induction registry.lexemesFrom position text generalizing lexemes with
  | case1 position text empty =>
    cases found
    simp_all
  | case2 => cases found
  | case3 position text _ lexeme rest first _ ih =>
    obtain ⟨others, later, rfl⟩ := Outcome.map_eq_ok_iff.mp found
    simp [ih later, next_append first]

theorem flatten_of_lexemes {registry : Registry} {source : Text} {lexemes : List Text}
    (found : registry.lexemes source = .ok lexemes) : lexemes.flatten = source.normalized :=
  flatten_of_lexemesFrom found

end Abacus.Registry
