import Abacus.Console
import Abacus.Proofs.Bindings
import Abacus.Proofs.Messages
import Abacus.Proofs.Substitution

/-! Transcripts of runs. A run always ends with an exit code. A source text is answered by its
program and its value, or by one line that reports an error, and the answers to the other lines of
an input are the same whatever it is. -/

namespace Abacus

/-- Where every binary operator is stronger than a bracket, what was accepted has a value. -/
theorem Expression.exists_value {registry : Registry}
    (strong : ∀ symbol ∈ registry.binary.keys, Priority.bracket < registry.priority symbol)
    {source : Text} {expression : Expression}
    (accepted : Expression.parse registry source = .ok expression) (store : Store) :
    ∃ number, expression.value store = .ok number := by
  obtain ⟨program, compiled, rfl⟩ := exists_of_parse accepted
  obtain ⟨lexemes, terms, -, classified, arranged⟩ := exists_of_compile compiled
  have assigned := (Registry.assigned_of_terms classified).1
  have above := Program.above_of_assigned strong assigned
  obtain ⟨perm, -, depth⟩ := Program.conserves_of_arranged above arranged
  exact Program.exists_value assigned perm depth store

theorem Registry.standard_strong : ∀ symbol ∈ Registry.standard.binary.keys,
    Priority.bracket < Registry.standard.priority symbol := by
  decide +kernel

namespace Console

/-- What is printed about a source text: its program, if it is to be traced, and its value, or the
line that says why it is no expression, and nothing before that line. -/
inductive Answers (store : Store) (traced : Bool) (source : Text) : Text → Prop where
  | value {expression : Expression} {number : Float}
    (accepted : Expression.parse .standard source = .ok expression)
    (value : expression.value store = .ok number) : Answers store traced source
      ((if traced then line expression.trace else []) ++ line (Decimal.ofFloat number))
  | error {error : ParseError} (refused : Expression.parse .standard source = .error error)
    (short : '\n' ∉ error.message) : Answers store traced source (errorLine error.message)

/-- The assignments that a store is made of again. -/
private abbrev assigned (store : Store) : List (Label × Datum) :=
  store.items.map fun item => (.text item.1, .number item.2)

private theorem single_of_accepted (store : Store) (traced : Bool) {source : Text}
    {expression : Expression} (accepted : Expression.parse .standard source = .ok expression) :
    ∃ answer, Answers store traced source answer ∧
      single (assigned store) traced source = ⟨answer, .ok ()⟩ := by
  obtain ⟨number, value⟩ := Expression.exists_value Registry.standard_strong accepted store
  refine ⟨_, .value accepted value, ?_⟩
  simp only [single, accepted, assigned, store.ofList_items, value]

private theorem single_of_refused (store : Store) (traced : Bool) {source : Text}
    {error : ParseError} (refused : Expression.parse .standard source = .error error) :
    Answers store traced source (errorLine error.message) ∧
      single (assigned store) traced source = ⟨[], .error (.parse error)⟩ := by
  refine ⟨.error refused (Expression.newline_not_mem_message refused), ?_⟩
  simp only [single, refused]

/-- A source text is answered in the same way whatever follows it, and so is what follows. -/
private theorem many_cons (store : Store) (traced : Bool) (source : Text) :
    ∃ answer failed, Answers store traced source answer ∧
      ∀ rest, many (assigned store) traced (source :: rest) =
        ⟨answer ++ line [] ++ (many (assigned store) traced rest).text,
          (many (assigned store) traced rest).ending.map (· + failed)⟩ := by
  cases parsed : Expression.parse .standard source with
  | ok expression =>
    obtain ⟨answer, answers, alone⟩ := single_of_accepted store traced parsed
    refine ⟨answer, 0, answers, fun rest => ?_⟩
    simp only [many, alone]
    cases (many (assigned store) traced rest).ending <;> rfl
  | error error =>
    obtain ⟨answers, alone⟩ := single_of_refused store traced parsed
    refine ⟨_, 1, answers, fun rest => ?_⟩
    simp only [many, alone, Failure.isExpression, Failure.message, ↓reduceIte, List.nil_append]

private theorem many_ends (store : Store) (traced : Bool) (sources : List Text) :
    ∃ failures, (many (assigned store) traced sources).ending = .ok failures := by
  induction sources with
  | nil => exact ⟨0, rfl⟩
  | cons source rest ih =>
    obtain ⟨answer, failed, -, same⟩ := many_cons store traced source
    obtain ⟨failures, ends⟩ := ih
    rw [same, ends]
    exact ⟨failures + failed, rfl⟩

/-- The transcript of several source texts is that of each alone. -/
private theorem many_text (store : Store) (traced : Bool) (sources : List Text) :
    (many (assigned store) traced sources).text =
      (sources.map fun source => (many (assigned store) traced [source]).text).flatten := by
  induction sources with
  | nil => rfl
  | cons source rest ih =>
    obtain ⟨answer, failed, -, same⟩ := many_cons store traced source
    rw [List.map_cons, List.flatten_cons, ← ih, same, same]
    simp [many]

/-- The source text of a line. -/
def sourceOf (piece : Text) : Text :=
  piece.trimRight fun char => char == '\r' || char == '\n'

/-- An input of one line has one source text. -/
theorem sources_line {piece : Text} (plain : '\n' ∉ piece) :
    sources (line piece) = [sourceOf piece] := by
  rw [sources, line, Text.lines_mark plain]
  rfl

section
variable {options : Options} {store : Store} (bound : bindings options.assignments = .ok store)
include bound

/-- An expression is answered alone. -/
private theorem run_expression {source : Text} (given : options.expression = some source)
    (input : Text) : ∃ answer code, run options input = ⟨answer, .ok code⟩ ∧
      Answers store options.traced source answer ∧ (code = 0 ∨ code = 1) ∧
      (code = 1 ↔ ∃ error, Expression.parse .standard source = .error error) := by
  cases parsed : Expression.parse .standard source with
  | ok expression =>
    obtain ⟨answer, answers, alone⟩ := single_of_accepted store options.traced parsed
    refine ⟨answer, 0, ?_, answers, by simp⟩
    simp only [run, bound, given, alone]
  | error error =>
    obtain ⟨answers, alone⟩ := single_of_refused store options.traced parsed
    refine ⟨_, 1, ?_, answers, by simp⟩
    simp only [run, bound, given, alone, Failure.isExpression, Failure.message, ↓reduceIte,
      List.nil_append]

private theorem run_input (given : options.expression = none) (input : Text) :
    run options input =
      ⟨(many (assigned store) options.traced (sources input)).text, .ok 0⟩ := by
  obtain ⟨failures, ends⟩ := many_ends store options.traced (sources input)
  simp only [run, bound, given, ends]
  rfl

/-- A line alone is answered, and an empty line follows the answer. -/
private theorem run_line (given : options.expression = none) {piece : Text}
    (plain : '\n' ∉ piece) :
    run options (line piece) =
        ⟨(many (assigned store) options.traced [sourceOf piece]).text, .ok 0⟩ ∧
      ∃ answer, Answers store options.traced (sourceOf piece) answer ∧
        run options (line piece) = ⟨answer ++ line [], .ok 0⟩ := by
  have alone := run_input bound given (line piece)
  rw [sources_line plain] at alone
  obtain ⟨answer, failed, answers, same⟩ := many_cons store options.traced (sourceOf piece)
  refine ⟨alone, answer, answers, ?_⟩
  rw [alone, same]
  simp [many]

end

/-- Whatever is asked for, a run ends with an exit code, which is 2 exactly if an assignment is
faulty; one line reports that, and neither the expression nor the input matters. Otherwise each
letter has the number of the last assignment to it. An expression is answered, and the exit code is
1 exactly if it is refused. Without an expression, each line of the input is answered as if it were
the only one, an empty line after each answer. -/
theorem run_answers (options : Options) (input : Text) :
    ∃ text code, run options input = ⟨text, .ok code⟩ ∧
      (code = 2 ↔ ∃ item ∈ options.assignments, Faulty item) ∧
      (code = 2 → ∃ message, '\n' ∉ message ∧ ∀ expression input,
        run { options with expression } input = ⟨errorLine message, .ok 2⟩) ∧
      (code ≠ 2 → ∃ store : Store,
        (∀ letter number, store.numbers.get? letter = some number ↔
          LastBinds options.assignments letter number) ∧
        match options.expression with
        | some source =>
          Answers store options.traced source text ∧ (code = 0 ∨ code = 1) ∧
          (code = 1 ↔ ∃ error, Expression.parse .standard source = .error error)
        | none =>
          code = 0 ∧ text =
            ((Text.lines '\n' input).map fun piece => (run options (line piece)).text).flatten ∧
          ∀ piece ∈ Text.lines '\n' input, ∃ answer,
            Answers store options.traced (sourceOf piece) answer ∧
            run options (line piece) = ⟨answer ++ line [], .ok 0⟩) := by
  rcases bindings_cases options.assignments with ⟨error, refused, faulty⟩ |
    ⟨store, bound, sound, last⟩
  · have reports : ∀ expression input, run { options with expression } input =
        ⟨errorLine error.message, .ok 2⟩ := by
      intro expression input
      simp only [run, refused]
      rfl
    refine ⟨_, 2, reports options.expression input, ?_, ?_, ?_⟩
    · simpa using faulty
    · exact fun _ => ⟨error.message, error.newline_not_mem_message, reports⟩
    · exact fun other => absurd rfl other
  · have unharmed : ¬ ∃ item ∈ options.assignments, Faulty item := by simpa using sound
    cases given : options.expression with
    | some source =>
      obtain ⟨answer, code, ran, answers, small, refused⟩ := run_expression bound given input
      have other : code ≠ 2 := by omega
      exact ⟨answer, code, ran, iff_of_false other unharmed, fun same => absurd same other,
        fun _ => ⟨store, last, answers, small, refused⟩⟩
    | none =>
      have lines (piece : Text) (member : piece ∈ Text.lines '\n' input) :=
        run_line bound given (Text.not_mem_of_mem_lines member)
      refine ⟨_, 0, run_input bound given input, iff_of_false (by decide) unharmed,
        fun same => absurd same (by decide), fun _ => ⟨store, last, rfl, ?_, ?_⟩⟩
      · rw [many_text, sources, List.map_map]
        refine congrArg List.flatten (List.map_congr_left fun piece member => ?_)
        rw [(lines piece member).1]
        rfl
      · exact fun piece member => (lines piece member).2

/-- An assignment to no letter keeps everything from being evaluated. -/
example : (run { Options.usual with assignments := ["x=1".toList, "XY=2".toList] }
    "2X".toList).text =
      "Error: Unknown variable name: 'XY' (expected a single letter A-Z)\n".toList := by
  decide +kernel

/-- Two lines that are no expressions. -/
example : (run Options.usual "2X\n3)".toList).text =
    "Error: missing operator\n\nError: unmatched closing bracket\n\n".toList := by
  decide +kernel

end Console
end Abacus
