import Abacus.Expression
import Abacus.Proofs.Classification
import Abacus.Proofs.Conservation
import Abacus.Proofs.Meaning
import Abacus.Proofs.Writing

/-! Expressions come to numbers. What was accepted has a value under every store, unless the
registry has an operator that is no stronger than a bracket. -/

namespace Abacus

/-- A term that plays a role, but not that of a bracket, acts and is defined. -/
theorem Registry.Plays.acts_defines {registry : Registry} {previous : Option Role} {term : Term}
    (plays : registry.Plays previous term.text term.role) (inner : term.role.isBracket = false) :
    term.role.acts = true ∧ registry.defines term = true := by
  obtain ⟨text, role⟩ := term
  cases plays with
  | function known | number known | letter known | unary _ known | binary _ known =>
    exact ⟨rfl, known⟩
  | opening | closing => cases inner

/-- A program that holds the terms of an expression without the brackets acts in each of them. -/
theorem Registry.Assigned.acts_defines {registry : Registry} {previous : Option Role}
    {terms program : List Term} (assigned : registry.Assigned previous terms)
    (perm : program.Perm (unbracketed terms)) :
    ∀ term ∈ program, term.role.acts = true ∧ registry.defines term = true := by
  intro term member
  have inside := perm.mem_iff.mp member
  obtain ⟨before, plays⟩ := assigned.exists_plays (List.mem_filter.mp inside).1
  exact plays.acts_defines (isBracket_of_mem_unbracketed inside)

/-- A program of terms without brackets comes to a number under every store. -/
theorem Program.exists_value {registry : Registry} {terms program : List Term}
    (assigned : registry.Assigned none terms) (perm : program.Perm (unbracketed terms))
    (depth : depth? program = some 1) (store : Store) :
    ∃ number, Program.value registry program store = .ok number := by
  have resolves : ∀ term ∈ program, store.machine.Resolves registry term := by
    intro term member
    obtain ⟨acts, defined⟩ := assigned.acts_defines perm term member
    exact Machine.resolves_of_defines acts defined store
  exact Machine.exists_run resolves depth

namespace Registry
variable {registry : Registry}

/-- An operator no stronger than a bracket sends the open bracket into the program. -/
theorem arranged_pair {symbol : Text} (weak : registry.priority symbol ≤ Priority.bracket) :
    Program.arranged registry (pair symbol) = .ok [⟨['1'], .number⟩, ⟨['('], .opening⟩,
      ⟨['2'], .number⟩, ⟨symbol, .binary⟩] := by
  have ends : Program.goesFirst registry ⟨symbol, .binary⟩ ⟨['('], .opening⟩ = true :=
    decide_eq_true weak
  apply Program.arranged_eq_ok_iff.mpr
  refine ⟨?_, rfl⟩
  simp only [pair, Program.arrangedFrom, List.takeWhile_cons_of_pos ends, List.takeWhile_nil,
    List.dropWhile_cons_of_pos ends, List.dropWhile_nil]
  rfl

/-- The operators of an expression can be written. -/
theorem writable_of_mem_terms {source : Text} {lexemes : List Text} {terms : List Term}
    (lexed : registry.lexemes source = .ok lexemes)
    (classified : registry.terms lexemes = .ok terms) {term : Term} (member : term ∈ terms)
    (role : term.role = .binary) :
    term.text ∈ registry.binary.keys ∧ Writable term.text := by
  obtain ⟨assigned, rfl⟩ := assigned_of_terms classified
  have binary := assigned.mem_binary member role
  obtain ⟨char, same, valid⟩ := exists_char_of_binary binary
  refine ⟨binary, ?_⟩
  have inside : char ∈ source.normalized := by
    rw [← flatten_of_lexemes lexed]
    exact List.mem_flatten.mpr ⟨term.text, List.mem_map_of_mem member, by simp [same]⟩
  rw [same]
  exact writable_of_mem_normalized inside

/-- Every expression of a registry has a program without brackets and comes to a number under every
store, exactly if every binary operator that can be written is stronger than a bracket. -/
theorem evaluable_iff (registry : Registry) :
    (∀ source expression, Expression.parse registry source = .ok expression →
      (∀ term ∈ expression.program, term.role.isBracket = false) ∧
      ∀ store, ∃ number, expression.value store = .ok number) ↔
    ∀ symbol ∈ registry.binary.keys, Writable symbol →
      Priority.bracket < registry.priority symbol := by
  constructor
  · intro evaluable symbol binary written
    apply Int.not_le.mp
    intro weak
    obtain ⟨source, normal⟩ := written
    have compiled : Expression.compile registry (['(', '1'] ++ source ++ ['2']) =
        .ok [⟨['1'], .number⟩, ⟨['('], .opening⟩, ⟨['2'], .number⟩, ⟨symbol, .binary⟩] := by
      rw [Expression.compile_eq (lexemes_pair binary normal) (terms_pair binary),
        arranged_pair weak]
      rfl
    obtain ⟨inner, -⟩ := evaluable _ _ (congrArg _ compiled)
    cases inner ⟨['('], .opening⟩ (by simp)
  · intro strong source expression accepted
    cases compiled : Expression.compile registry source with
    | error => simp [Expression.parse, compiled, Except.map] at accepted
    | ok program =>
      simp only [Expression.parse, compiled, Except.map, Except.ok.injEq] at accepted
      subst accepted
      obtain ⟨lexemes, terms, lexed, classified, arranged⟩ := Expression.exists_of_compile compiled
      have above : Program.Above registry terms := by
        intro term member role
        obtain ⟨binary, written⟩ := writable_of_mem_terms lexed classified member role
        exact strong term.text binary written
      obtain ⟨perm, -, depth⟩ := Program.conserves_of_arranged above arranged
      constructor
      · intro term member
        exact isBracket_of_mem_unbracketed (perm.mem_iff.mp member)
      · exact Program.exists_value (assigned_of_terms classified).1 perm depth

/-- With a percent sign weaker than a bracket, `(1%2` is accepted and has no value. -/
theorem value_weak_remainder :
    let program : List Term :=
      [⟨['1'], .number⟩, ⟨['('], .opening⟩, ⟨['2'], .number⟩, ⟨['%'], .binary⟩]
    let expression : Expression := ⟨['(', '1', '%', '2'], withRemainder (-1), program⟩
    Expression.parse expression.registry expression.source = .ok expression ∧
      expression.value Store.empty = .error (.machine (.unexpectedTerm ['('])) := by
  intro program expression
  constructor
  · have compiled : Expression.compile expression.registry expression.source = .ok program := by
      decide +kernel
    simp only [Expression.parse, compiled, Except.map]
    rfl
  · obtain ⟨number, read⟩ := @Datum.exists_readNumber ['1'] (by decide)
    simp [Expression.value, Program.value, Machine.run, Machine.steps, Machine.step,
      Machine.operand, read, expression, program, bind, Except.bind, pure, Except.pure]

end Registry
end Abacus
