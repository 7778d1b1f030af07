import Abacus.Lexeme
import Abacus.Program.Arranged
import Abacus.Program.Value
import Abacus.Term.Classified

/-! Expressions: source texts that were read into programs. -/

namespace Abacus

/-- Why a source text is no expression. -/
inductive ParseError where
  | lexical (error : LexError)
  | grammatical (error : SyntaxError)
  deriving DecidableEq

def ParseError.message : ParseError → Text
  | lexical error => error.message
  | grammatical error => error.message

/-- A source text and the program that it stands for in a registry. -/
structure Expression where
  source : Text
  registry : Registry
  program : List Term

namespace Expression

/-- The program of a source text. -/
def compile (registry : Registry) (source : Text) : Except ParseError (List Term) :=
  match registry.lexemes source with
  | .error error => .error (.lexical error)
  | .ok lexemes =>
    (registry.terms lexemes >>= Program.arranged registry).mapError ParseError.grammatical

/-- What is left of a text that has terms is to arrange them. -/
theorem compile_eq {registry : Registry} {source : Text} {lexemes : List Text} {terms : List Term}
    (lexed : registry.lexemes source = .ok lexemes)
    (classified : registry.terms lexemes = .ok terms) :
    compile registry source =
      (Program.arranged registry terms).mapError ParseError.grammatical := by
  simp only [compile, lexed, classified, bind, Except.bind]

/-- What stands behind a program: its lexemes and its terms. -/
theorem exists_of_compile {registry : Registry} {source : Text} {program : List Term}
    (found : compile registry source = .ok program) :
    ∃ lexemes terms, registry.lexemes source = .ok lexemes ∧ registry.terms lexemes = .ok terms ∧
      Program.arranged registry terms = .ok program := by
  cases lexed : registry.lexemes source with
  | error => simp [compile, lexed] at found
  | ok lexemes =>
    cases classified : registry.terms lexemes with
    | error =>
      simp only [compile, lexed, classified, bind, Except.bind] at found
      cases found
    | ok terms =>
      rw [compile_eq lexed classified] at found
      cases arranged : Program.arranged registry terms with
      | error =>
        rw [arranged] at found
        cases found
      | ok other =>
        rw [arranged] at found
        cases found
        exact ⟨lexemes, terms, rfl, classified, arranged⟩

/-- The expression of a source text. -/
def parse (registry : Registry) (source : Text) : Except ParseError Expression :=
  (compile registry source).map fun program => ⟨source, registry, program⟩

/-- The value of an expression, given the numbers of the variables. -/
def value (expression : Expression) (store : Store) : Except RunError Float :=
  Program.value expression.registry expression.program store

/-- The program of an expression, written out. -/
def trace (expression : Expression) : Text :=
  Term.trace expression.program

/-- An expression as it is printed. -/
def shown (expression : Expression) : Text :=
  "ExpressionParser(".toList ++ expression.source.quoted ++ ", rpn=".toList ++
    expression.trace.quoted ++ [')']

end Expression
end Abacus
