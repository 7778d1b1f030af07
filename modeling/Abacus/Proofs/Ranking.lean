import Abacus.Proofs.Congruence
import Abacus.Proofs.Cutting
import Abacus.Proofs.Evaluation
import Abacus.Proofs.Substitution

/-! Ranks. Priorities are compared and nothing else, so that registries whose operators rank in the
same way, among themselves and among brackets, unary operators and functions, give every text the
same program or the same error, however far apart the priorities lie. -/

namespace Abacus

namespace Priority

/-- Two numbers compare in the same way as two others. -/
def Agree (left right otherLeft otherRight : Int) : Prop :=
  (left < right ↔ otherLeft < otherRight) ∧ (left = right ↔ otherLeft = otherRight) ∧
    (right < left ↔ otherRight < otherLeft)

instance (left right otherLeft otherRight : Int) :
    Decidable (Agree left right otherLeft otherRight) :=
  inferInstanceAs (Decidable (_ ∧ _ ∧ _))

theorem Agree.refl (left right : Int) : Agree left right left right :=
  ⟨Iff.rfl, Iff.rfl, Iff.rfl⟩

theorem Agree.swap {left right otherLeft otherRight : Int}
    (agree : Agree left right otherLeft otherRight) : Agree right left otherRight otherLeft :=
  ⟨agree.2.2, eq_comm.trans (agree.2.1.trans eq_comm), agree.1⟩

/-- The priorities that no registry changes. -/
def fixed : List Int := [bracket, unary, function]

end Priority

/-- Only the priority of a binary operator is a matter of the registry. -/
theorem Term.priority_cases (term : Term) :
    (term.role = .binary ∧ ∀ registry, term.priority registry = registry.priority term.text) ∨
      ∃ level ∈ Priority.fixed, ∀ registry, term.priority registry = level := by
  cases role : term.role with
  | binary => exact .inl ⟨rfl, fun registry => by simp only [priority, role]⟩
  | function =>
    exact .inr ⟨Priority.function, by simp [Priority.fixed], fun _ => by simp only [priority, role]⟩
  | unary =>
    exact .inr ⟨Priority.unary, by simp [Priority.fixed], fun _ => by simp only [priority, role]⟩
  | number | letter | opening | closing | unassigned =>
    exact .inr ⟨Priority.bracket, by simp [Priority.fixed], fun _ => by simp only [priority, role]⟩

namespace Registry
variable {first second : Registry}

/-- Two registries have the same functions and operators, with the same operations, and the binary
operators rank in the same way among each other and among the priorities that are fixed. -/
structure SameRanks (first second : Registry) : Prop where
  functions : ∀ name, first.functions.get? name = second.functions.get? name
  binary : ∀ symbol, first.binary.get? symbol = second.binary.get? symbol
  unary : ∀ symbol, first.unary.get? symbol = second.unary.get? symbol
  among : ∀ symbol ∈ first.binary.keys, ∀ other ∈ first.binary.keys,
    Priority.Agree (first.priority symbol) (first.priority other) (second.priority symbol)
      (second.priority other)
  level : ∀ symbol ∈ first.binary.keys, ∀ level ∈ Priority.fixed,
    Priority.Agree (first.priority symbol) level (second.priority symbol) level

namespace SameRanks

/-! The same lexemes -/

theorem contains_eq {Value : Type} {left right : Table Text Value}
    (same : ∀ key, left.get? key = right.get? key) (key : Text) :
    left.contains key = right.contains key := by
  rw [← Table.isSome_get?, same, Table.isSome_get?]

theorem isFunction (ranks : first.SameRanks second) (text : Text) :
    first.isFunction text = second.isFunction text :=
  contains_eq ranks.functions text

theorem isBinary (ranks : first.SameRanks second) (text : Text) :
    first.isBinary text = second.isBinary text :=
  contains_eq ranks.binary text

theorem isUnary (ranks : first.SameRanks second) (text : Text) :
    first.isUnary text = second.isUnary text :=
  contains_eq ranks.unary text

theorem startsFunction (ranks : first.SameRanks second) (text : Text) :
    first.startsFunction text = second.startsFunction text := by
  have names (name : Text) : name ∈ first.functions.keys ↔ name ∈ second.functions.keys := by
    rw [← Table.contains_iff, ← Table.contains_iff]
    exact Eq.congr_left (ranks.isFunction name)
  rw [Bool.eq_iff_iff]
  simp only [Registry.startsFunction, List.any_eq_true, names]

theorem isSymbol (ranks : first.SameRanks second) (text : Text) :
    first.isSymbol text = second.isSymbol text := by
  rw [Registry.isSymbol, Registry.isSymbol, ranks.isBinary, ranks.isUnary]

theorem isWord (ranks : first.SameRanks second) (text : Text) :
    first.isWord text = second.isWord text := by
  rw [Registry.isWord, Registry.isWord, ranks.isFunction]

theorem scan (ranks : first.SameRanks second) (position : Nat) (taken text : Text) :
    first.scan position taken text = second.scan position taken text := by
  induction text generalizing taken with
  | nil => rw [Registry.scan, Registry.scan, ranks.isWord]
  | cons char text ih =>
    simp only [Registry.scan]
    rw [ranks.isSymbol, ranks.isWord, ranks.isWord, ranks.startsFunction, ih]

theorem lexemesFrom (ranks : first.SameRanks second) (position : Nat) (text : Text) :
    first.lexemesFrom position text = second.lexemesFrom position text := by
  have next (position : Nat) (text : Text) :
      first.next position text = second.next position text := by
    simp only [Registry.next, ranks.scan]
  fun_induction first.lexemesFrom position text with
  | case1 position text empty =>
    rw [List.isEmpty_iff.mp empty, lexemesFrom_nil]
  | case2 position text nonempty error found =>
    rw [next] at found
    exact (lexemesFrom_blocked (by simpa using nonempty) found).symm
  | case3 position text _ lexeme rest found _ ih =>
    rw [next] at found
    rw [lexemesFrom_cons found, ih]

/-! The same terms -/

theorem terms (ranks : first.SameRanks second) (lexemes : List Text) :
    first.terms lexemes = second.terms lexemes := by
  apply termsAfter_eq
  intro lexeme _ previous
  simp only [role, operatorRole, ranks.isFunction, ranks.isBinary, ranks.isUnary]

/-! The same program -/

/-- The terms of a registry rank in the same way. -/
theorem agree (ranks : first.SameRanks second) {term other : Term}
    (known : term.role = .binary → term.text ∈ first.binary.keys)
    (otherKnown : other.role = .binary → other.text ∈ first.binary.keys) :
    Priority.Agree (term.priority first) (other.priority first) (term.priority second)
      (other.priority second) := by
  rcases term.priority_cases with ⟨role, own⟩ | ⟨level, fixed, own⟩
  · rcases other.priority_cases with ⟨otherRole, otherOwn⟩ | ⟨level, fixed, otherOwn⟩
    · rw [own, own, otherOwn, otherOwn]
      exact ranks.among _ (known role) _ (otherKnown otherRole)
    · rw [own, own, otherOwn, otherOwn]
      exact ranks.level _ (known role) level fixed
  · rcases other.priority_cases with ⟨otherRole, otherOwn⟩ | ⟨otherLevel, -, otherOwn⟩
    · rw [own, own, otherOwn, otherOwn]
      exact (ranks.level _ (otherKnown otherRole) level fixed).swap
    · rw [own, own, otherOwn, otherOwn]
      exact .refl level otherLevel

/-- The same terms go first. -/
theorem goesFirst (ranks : first.SameRanks second) {operator top : Term}
    (known : operator.role = .binary → operator.text ∈ first.binary.keys)
    (topKnown : top.role = .binary → top.text ∈ first.binary.keys) :
    Program.goesFirst first operator top = Program.goesFirst second operator top := by
  obtain ⟨less, -, greater⟩ := ranks.agree known topKnown
  unfold Program.goesFirst
  split
  · rw [decide_eq_decide, ← Int.not_lt, ← Int.not_lt]
    exact not_congr greater
  · exact decide_eq_decide.mpr less

theorem arranged (ranks : first.SameRanks second) {terms : List Term}
    (known : ∀ term ∈ terms, term.role = .binary → term.text ∈ first.binary.keys) :
    Program.arranged first terms = Program.arranged second terms :=
  Program.arranged_congr fun operator member top other =>
    ranks.goesFirst (known operator member) (known top other)

/-! The same value -/

theorem value (ranks : first.SameRanks second) (program : List Term) (store : Store) :
    Program.value first program store = Program.value second program store := by
  have steps : store.machine.steps first [] program = store.machine.steps second [] program := by
    apply store.machine.steps_congr
    · intro term _
      simp only [Machine.unaryOf, Machine.found, ranks.functions, ranks.unary]
    · intro term _
      simp only [Machine.binaryOf, Machine.found, ranks.binary]
  simp only [Program.value, Machine.run, steps]

end SameRanks
end Registry

namespace Expression
variable {first second : Registry}

/-- The outcome of every step is the same, whether it is an error or not. -/
theorem compile_same_ranks (ranks : first.SameRanks second) (source : Text) :
    compile first source = compile second source := by
  rw [compile, compile, Registry.lexemes, Registry.lexemes, ranks.lexemesFrom]
  cases second.lexemesFrom 0 source.normalized with
  | error error => rfl
  | ok lexemes =>
    cases classified : first.terms lexemes with
    | error error =>
      rw [ranks.terms] at classified
      simp only [classified, ranks.terms]
      rfl
    | ok terms =>
      have assigned := (Registry.assigned_of_terms classified).1
      have arranged := ranks.arranged fun term => assigned.mem_binary
      rw [ranks.terms] at classified
      simp only [classified, ranks.terms, bind, Except.bind, arranged]

/-- A text is an expression in both registries, with the same program and the same value under every
store, or it is refused in both with the same error. -/
theorem parse_same_ranks (ranks : first.SameRanks second) (source : Text) :
    (∃ expression other, parse first source = .ok expression ∧ parse second source = .ok other ∧
      other.program = expression.program ∧
      ∀ store, other.value store = expression.value store) ∨
    ∃ error, parse first source = .error error ∧ parse second source = .error error := by
  have same := compile_same_ranks ranks source
  cases compiled : compile first source with
  | ok program =>
    have otherCompiled := same.symm.trans compiled
    refine .inl ⟨_, _, parse_of_compile compiled, parse_of_compile otherCompiled, rfl, ?_⟩
    intro store
    exact (ranks.value program store).symm
  | error error =>
    refine .inr ⟨error, ?_, ?_⟩
    · rw [parse, compiled]
      rfl
    · rw [parse, ← same, compiled]
      rfl

/-- A percent sign between product and power in rank, be it close to the one or to the other. -/
theorem parse_same_ranks_remainder :
    let first := Registry.withRemainder 61
    let second := Registry.withRemainder 69
    let source : Text := "2*7%-4^2".toList
    first.SameRanks second ∧
    ∃ expression other, parse first source = .ok expression ∧ parse second source = .ok other ∧
      expression.trace = "2 7 4 '- 2 ^ % *".toList ∧ other.program = expression.program ∧
      ∀ store, other.value store = expression.value store := by
  intro first second source
  have ranks : first.SameRanks second := {
    functions := fun _ => rfl
    binary := fun _ => rfl
    unary := fun _ => rfl
    among := by decide +kernel
    level := by decide +kernel }
  have compiled : compile first source = .ok [⟨['2'], .number⟩, ⟨['7'], .number⟩,
      ⟨['4'], .number⟩, ⟨['-'], .unary⟩, ⟨['2'], .number⟩, ⟨['^'], .binary⟩, ⟨['%'], .binary⟩,
      ⟨['*'], .binary⟩] := by decide +kernel
  have accepted := parse_of_compile compiled
  refine ⟨ranks, ?_⟩
  rcases parse_same_ranks ranks source with
    ⟨expression, other, found, otherFound, program, values⟩ | ⟨error, refused, -⟩
  · rw [accepted, Except.ok.injEq] at found
    subst found
    have shown : Term.trace [⟨['2'], .number⟩, ⟨['7'], .number⟩, ⟨['4'], .number⟩,
      ⟨['-'], .unary⟩, ⟨['2'], .number⟩, ⟨['^'], .binary⟩, ⟨['%'], .binary⟩, ⟨['*'], .binary⟩] =
        "2 7 4 '- 2 ^ % *".toList := by decide +kernel
    exact ⟨_, other, accepted, otherFound, shown, program, values⟩
  · rw [accepted] at refused
    cases refused

end Expression
end Abacus
