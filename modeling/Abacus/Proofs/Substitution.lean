import Abacus.Proofs.Evaluation
import Abacus.Proofs.Nesting
import Abacus.Proofs.Postorder

/-! Substitution. An expression in brackets can be written for a variable of another expression. The
program of the whole is that of the other expression with the program of the first for the variable,
and so the value is that of the other expression where the variable has the value of the first. -/

namespace Abacus

namespace Tree

/-- The tree with another one in the place of an operand. -/
def grafted (tree : Tree) (operand : Term) (inner : Tree) : Tree :=
  match tree with
  | leaf other => if other = operand then inner else leaf other
  | unary operator argument => unary operator (argument.grafted operand inner)
  | binary operator left right =>
    binary operator (left.grafted operand inner) (right.grafted operand inner)

theorem wellFormed_grafted {tree inner : Tree} (operand : Term) (valid : tree.WellFormed)
    (innerValid : inner.WellFormed) : (tree.grafted operand inner).WellFormed := by
  induction tree with
  | leaf other =>
    by_cases same : other = operand
    · simpa [grafted, same] using innerValid
    · simpa [grafted, same] using valid
  | unary operator argument ih => exact ⟨valid.1, ih valid.2⟩
  | binary operator left right leftValid rightValid =>
    exact ⟨valid.1, leftValid valid.2.1, rightValid valid.2.2⟩

theorem program_grafted {tree : Tree} {operand : Term} (role : operand.role.isOperand = true)
    (valid : tree.WellFormed) (inner : Tree) :
    (tree.grafted operand inner).program = spliced operand inner.program tree.program := by
  induction tree with
  | leaf other =>
    by_cases same : other = operand
    · simp [grafted, same, program]
    · simp [grafted, same, program, spliced_cons_of_ne same]
  | unary operator argument ih =>
    have different : operator ≠ operand := by
      rintro rfl
      rcases valid.1 with other | other <;> cases other ▸ role
    simp [grafted, program, ih valid.2, spliced_cons_of_ne different]
  | binary operator left right leftProgram rightProgram =>
    obtain ⟨binary, leftValid, rightValid⟩ := valid
    have different : operator ≠ operand := by
      rintro rfl
      cases binary ▸ role
    simp [grafted, program, leftProgram leftValid, rightProgram rightValid,
      spliced_cons_of_ne different]

/-- A tree with another one for a variable means what it means where the variable has the number of
the other one. -/
theorem Means.grafted {registry : Registry} {store : Store} {letter : Variable} {inner tree : Tree}
    {number result : Float} (innerMeans : Means registry store inner number)
    (means : Means registry (store.bound letter number) tree result) :
    Means registry store (tree.grafted letter.term inner) result := by
  induction means with
  | @number text value read =>
    have other : (⟨text, .number⟩ : Term) ≠ letter.term := by simp [Variable.term]
    rw [Tree.grafted, if_neg other]
    exact .number read
  | letter other =>
    rw [Store.bound, Table.get?_put, Tree.grafted]
    by_cases same : other = letter
    · rw [if_pos same, Option.getD_some, same, if_pos (by rfl)]
      exact innerMeans
    · have different : (⟨other.name, .letter⟩ : Term) ≠ letter.term := by
        intro equal
        have names : other.name = letter.name := congrArg Term.text equal
        exact same (Variable.name_injective names)
      rw [if_neg same, if_neg different]
      exact .letter other
  | unary known inner ih => exact .unary known ih
  | function known inner ih => exact .function known ih
  | binary known inLeft inRight leftMeans rightMeans => exact .binary known leftMeans rightMeans

end Tree

namespace Program

/-- Every binary operator among classified terms is one of the registry. -/
theorem above_of_assigned {registry : Registry} {previous : Option Role} {terms : List Term}
    (strong : ∀ symbol ∈ registry.binary.keys, Priority.bracket < registry.priority symbol)
    (assigned : registry.Assigned previous terms) : Above registry terms :=
  fun term member role => strong term.text (assigned.mem_binary member role)

/-- A program that is accepted is that of a tree, and all its terms are defined. -/
theorem exists_tree {registry : Registry} {terms program : List Term}
    (above : Above registry terms) (assigned : registry.Assigned none terms)
    (found : arranged registry terms = .ok program) :
    ∃ tree : Tree, tree.WellFormed ∧ tree.program = program ∧
      ∀ term ∈ program, registry.defines term = true := by
  obtain ⟨perm, -, depth⟩ := conserves_of_arranged above found
  have plays := assigned.acts_defines perm
  obtain ⟨tree, valid, same⟩ :=
    Tree.exists_program (fun term member => (plays term member).1) depth
  exact ⟨tree, valid, same, fun term member => (plays term member).2⟩

end Program

namespace Expression
variable {registry : Registry}

theorem exists_of_parse {source : Text} {expression : Expression}
    (found : parse registry source = .ok expression) :
    ∃ program, compile registry source = .ok program ∧
      expression = ⟨source, registry, program⟩ := by
  obtain ⟨program, compiled, same⟩ := Outcome.map_eq_ok_iff.mp found
  exact ⟨program, compiled, same.symm⟩

theorem parse_of_compile {source : Text} {program : List Term}
    (found : compile registry source = .ok program) :
    parse registry source = .ok ⟨source, registry, program⟩ := by
  rw [parse, found]
  rfl

/-- What stands behind a program, where every binary operator is stronger than a bracket: lexemes,
terms and a tree. -/
private theorem exists_tree_of_compile
    (strong : ∀ symbol ∈ registry.binary.keys, Priority.bracket < registry.priority symbol)
    {source : Text} {program : List Term} (found : compile registry source = .ok program) :
    ∃ lexemes terms, registry.lexemes source = .ok lexemes ∧ registry.terms lexemes = .ok terms ∧
      Program.Above registry terms ∧ Program.arrangedFrom registry [] terms = .ok program ∧
      ∃ tree : Tree, tree.WellFormed ∧ tree.program = program ∧
        ∀ term ∈ program, registry.defines term = true := by
  obtain ⟨lexemes, terms, lexed, classified, arranged⟩ := exists_of_compile found
  have assigned := (Registry.assigned_of_terms classified).1
  have above := Program.above_of_assigned strong assigned
  obtain ⟨arrangement, -⟩ := Program.arranged_eq_ok_iff.mp arranged
  exact ⟨lexemes, terms, lexed, classified, above, arrangement,
    Program.exists_tree above assigned arranged⟩

/-- A text in brackets has the program of the text. -/
theorem compile_bracketed
    (strong : ∀ symbol ∈ registry.binary.keys, Priority.bracket < registry.priority symbol)
    {source : Text} {program : List Term} (found : compile registry source = .ok program) :
    compile registry source.bracketed = .ok program := by
  obtain ⟨lexemes, terms, lexed, classified, above, arrangement, tree, valid, rfl, -⟩ :=
    exists_tree_of_compile strong found
  have whole := Program.arrangedFrom_bracketed above arrangement [] []
  have alone : Program.arrangedFrom registry [] (Term.bracketed terms) = .ok tree.program := by
    simpa [Program.arrangedFrom, Program.drained, Except.map] using whole
  rw [compile_eq (Registry.lexemes_bracketed lexed) (Registry.terms_bracketed classified),
    Program.arranged_of_tree valid alone]
  rfl

/-- A text in brackets for a variable puts its program for the variable. -/
theorem compile_spliced
    (strong : ∀ symbol ∈ registry.binary.keys, Priority.bracket < registry.priority symbol)
    {letter : Variable} (free : registry.isFunction letter.name = false)
    {source inner : Text} {program innerProgram : List Term} {lexemes : List Text}
    (found : compile registry source = .ok program) (lexed : registry.lexemes source = .ok lexemes)
    (innerFound : compile registry inner = .ok innerProgram) :
    compile registry (spliced letter.name [inner.bracketed] lexemes).flatten =
      .ok (spliced letter.term innerProgram program) := by
  obtain ⟨others, terms, sameLexed, classified, -, arrangement, tree, valid, rfl, -⟩ :=
    exists_tree_of_compile strong found
  obtain ⟨innerLexemes, innerTerms, innerLexed, innerClassified, above, innerArrangement,
    innerTree, innerValid, rfl, -⟩ := exists_tree_of_compile strong innerFound
  obtain rfl : others = lexemes := by
    rw [lexed] at sameLexed
    exact (Except.ok.inj sameLexed).symm
  have operand : letter.term.role.isOperand = true := rfl
  have whole : Program.arrangedFrom registry []
      (spliced letter.term (Term.bracketed innerTerms) terms) =
      .ok (tree.grafted letter.term innerTree).program := by
    rw [Tree.program_grafted operand valid]
    exact Program.arrangedFrom_spliced operand above innerArrangement (by simp) arrangement
  rw [compile_eq (Registry.lexemes_spliced lexed innerLexed)
    (Registry.termsAfter_spliced free innerClassified classified),
    Program.arranged_of_tree (Tree.wellFormed_grafted letter.term valid innerValid) whole,
    Tree.program_grafted operand valid]
  rfl

/-- Substitution. Where every binary operator is stronger than a bracket, an expression in brackets
can be written for a variable of another one. Its program stands for the variable in the program,
and the value is that of the other expression where the variable is set to its value. -/
theorem parse_spliced
    (strong : ∀ symbol ∈ registry.binary.keys, Priority.bracket < registry.priority symbol)
    {letter : Variable} (free : registry.isFunction letter.name = false)
    {source inner : Text} {outer body : Expression} {lexemes : List Text}
    (accepted : parse registry source = .ok outer) (lexed : registry.lexemes source = .ok lexemes)
    (innerAccepted : parse registry inner = .ok body) :
    (∃ alone, parse registry inner.bracketed = .ok alone ∧ alone.program = body.program) ∧
    ∃ whole, parse registry (spliced letter.name [inner.bracketed] lexemes).flatten = .ok whole ∧
      whole.program = spliced letter.term body.program outer.program ∧
      ∀ store : Store, ∃ number updated result, body.value store = .ok number ∧
        store.set (.text letter.name) (.number number) = .ok updated ∧
        outer.value updated = .ok result ∧ whole.value store = .ok result := by
  obtain ⟨program, compiled, rfl⟩ := exists_of_parse accepted
  obtain ⟨innerProgram, innerCompiled, rfl⟩ := exists_of_parse innerAccepted
  obtain ⟨-, -, -, -, -, -, tree, valid, rfl, defined⟩ := exists_tree_of_compile strong compiled
  obtain ⟨-, -, -, -, -, -, innerTree, innerValid, rfl, innerDefined⟩ :=
    exists_tree_of_compile strong innerCompiled
  refine ⟨⟨_, parse_of_compile (compile_bracketed strong innerCompiled), rfl⟩,
    _, parse_of_compile (compile_spliced strong free compiled lexed innerCompiled), rfl, ?_⟩
  intro store
  obtain ⟨number, innerMeans⟩ := Tree.exists_means innerValid innerDefined store
  obtain ⟨result, means⟩ := Tree.exists_means valid defined (store.bound letter number)
  have grafted := innerMeans.grafted means
  have graftedValid := Tree.wellFormed_grafted letter.term valid innerValid
  refine ⟨number, _, result, ?_, store.set_name letter number, ?_, ?_⟩
  · exact (Tree.value_program innerValid registry store).trans innerMeans.value
  · exact (Tree.value_program valid registry _).trans means.value
  · rw [value, ← Tree.program_grafted rfl valid]
    exact (Tree.value_program graftedValid registry store).trans grafted.value

/-- `X + Y` for `X` in `2 * X - X`. -/
theorem parse_spliced_sum :
    let letter : Variable := ⟨'X', by decide⟩
    let sum : List Term := [⟨['X'], .letter⟩, ⟨['Y'], .letter⟩, ⟨['+'], .binary⟩]
    Registry.standard.isFunction letter.name = false ∧
    (∀ symbol ∈ Registry.standard.binary.keys,
      Priority.bracket < Registry.standard.priority symbol) ∧
    ∃ outer body whole, parse Registry.standard "2*x - x".toList = .ok outer ∧
      Registry.standard.lexemes "2*x - x".toList =
        .ok ["2".toList, "*".toList, "X".toList, "-".toList, "X".toList] ∧
      parse Registry.standard "x+y".toList = .ok body ∧
      parse Registry.standard "2*(x+y)-(x+y)".toList = .ok whole ∧
      whole.program =
        [⟨['2'], .number⟩] ++ sum ++ [⟨['*'], .binary⟩] ++ sum ++ [⟨['-'], .binary⟩] ∧
      ∀ store : Store, ∃ number updated result, body.value store = .ok number ∧
        store.set (.text letter.name) (.number number) = .ok updated ∧
        outer.value updated = .ok result ∧ whole.value store = .ok result := by
  intro letter sum
  have free : Registry.standard.isFunction letter.name = false := by decide +kernel
  have strong : ∀ symbol ∈ Registry.standard.binary.keys,
      Priority.bracket < Registry.standard.priority symbol := by decide +kernel
  have compiled : compile Registry.standard "2*x - x".toList = .ok [⟨['2'], .number⟩,
      letter.term, ⟨['*'], .binary⟩, letter.term, ⟨['-'], .binary⟩] := by decide +kernel
  have lexed : Registry.standard.lexemes "2*x - x".toList =
      .ok ["2".toList, "*".toList, "X".toList, "-".toList, "X".toList] := by decide +kernel
  have innerCompiled : compile Registry.standard "x+y".toList = .ok sum := by decide +kernel
  obtain ⟨-, whole, accepted, program, values⟩ := parse_spliced strong free
    (parse_of_compile compiled) lexed (parse_of_compile innerCompiled)
  exact ⟨free, strong, _, _, whole, parse_of_compile compiled, lexed,
    parse_of_compile innerCompiled, accepted, program, values⟩

end Expression
end Abacus
