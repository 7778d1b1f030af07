import Abacus.Proofs.Meaning
import Abacus.Registry.Standard

/-! How programs end. The depth of a program of defined terms, which is found without any numbers,
says whether the machine comes to a number, to several or to none, whatever is in the store. -/

namespace Abacus

/-- Different failures of the machine have different messages. -/
theorem MachineError.message_injective : Function.Injective message := by
  have begins (text : Text) : (unexpectedTerm text).message.head? = some 'u' := rfl
  have stack : underflow.message.head? = some 's' ∧ imbalance.message.head? = some 's' := ⟨rfl, rfl⟩
  intro error other same
  cases error with
  | underflow =>
    cases other with
    | underflow => rfl
    | imbalance => exact absurd same (by decide)
    | unexpectedTerm text =>
      rw [same, begins] at stack
      exact absurd stack.1 (by decide)
  | imbalance =>
    cases other with
    | underflow => exact absurd same (by decide)
    | imbalance => rfl
    | unexpectedTerm text =>
      rw [same, begins] at stack
      exact absurd stack.2 (by decide)
  | unexpectedTerm text =>
    cases other with
    | underflow =>
      rw [← same, begins] at stack
      exact absurd stack.1 (by decide)
    | imbalance =>
      rw [← same, begins] at stack
      exact absurd stack.2 (by decide)
    | unexpectedTerm more =>
      have texts : text = more := List.append_cancel_left (List.append_cancel_right same)
      rw [texts]

/-- The three ends of a run, each with the depths that lead to it. -/
theorem Machine.Ends.cases {Value : Type} {outcome : Except RunError Value} {depth : Option Nat}
    (ends : Ends outcome depth) :
    outcome = .error (.machine .underflow) ∧ (depth = none ∨ depth = some 0) ∨
    (∃ value, outcome = .ok value) ∧ depth = some 1 ∨
    outcome = .error (.machine .imbalance) ∧ ∃ more, depth = some (more + 2) := by
  match depth with
  | none => exact .inl ⟨ends, .inl rfl⟩
  | some 0 => exact .inl ⟨ends, .inr rfl⟩
  | some 1 => exact .inr (.inl ⟨ends, rfl⟩)
  | some (more + 2) => exact .inr (.inr ⟨ends, more, rfl⟩)

/-- A program of defined operands and operators underflows exactly if it has no depth or leaves
nothing, has an imbalance exactly if it leaves several values, and comes to a number exactly if it
leaves one. Its depth is the number of the values on the stack behind it. -/
theorem Program.value_ends_by_depth {registry : Registry} {program : List Term}
    (acts : ∀ term ∈ program, term.role.acts = true)
    (defined : ∀ term ∈ program, registry.defines term = true) (store : Store) :
    ((∃ error : MachineError, value registry program store = .error (.machine error) ∧
        error.message = "stack underflow".toList) ↔
      depth? program = none ∨ depth? program = some 0) ∧
    ((∃ error : MachineError, value registry program store = .error (.machine error) ∧
        error.message = "stack imbalance".toList) ↔
      ∃ depth, depth? program = some depth ∧ 1 < depth) ∧
    ((∃ number, value registry program store = .ok number) ↔ depth? program = some 1) ∧
    ∀ depth, depth? program = some depth → ∃ values : List Float,
      store.machine.steps registry [] program = .ok values ∧ values.length = depth := by
  have resolves : ∀ term ∈ program, store.machine.Resolves registry term :=
    fun term member => Machine.resolves_of_defines (acts term member) (defined term member) store
  have ends : Machine.Ends (value registry program store) (depth? program) :=
    Machine.run_ends resolves
  have comes : Machine.Comes (store.machine.steps registry [] program) (depth? program) :=
    Machine.steps_comes resolves []
  have underflow (error : MachineError) : error.message = "stack underflow".toList ↔
      error = .underflow := MachineError.message_injective.eq_iff' rfl
  have imbalance (error : MachineError) : error.message = "stack imbalance".toList ↔
      error = .imbalance := MachineError.message_injective.eq_iff' rfl
  simp only [underflow, imbalance, exists_eq_right]
  refine and_assoc.mp (and_assoc.mp ⟨?_, ?_⟩)
  · rcases ends.cases with ⟨outcome, none | zero⟩ | ⟨⟨number, outcome⟩, one⟩ |
      ⟨outcome, more, several⟩
    · simp [outcome, none]
    · simp [outcome, zero]
    · simp [outcome, one]
    · simp [outcome, several]
  · intro depth known
    rw [known] at comes
    exact comes

/-- An operator in front of its operands finds none, and operands without one are left over. -/
theorem Program.value_ends_without_operator :
    let operands : List Term := [⟨['X'], .letter⟩, ⟨['2'], .number⟩, ⟨['S', 'I', 'N'], .function⟩]
    let reversed : List Term := ⟨['-'], .binary⟩ :: operands
    ((∀ term ∈ reversed, term.role.acts = true) ∧
      (∀ term ∈ reversed, Registry.standard.defines term = true) ∧
      depth? reversed = none ∧ ∀ store, ∃ error : MachineError,
        value Registry.standard reversed store = .error (.machine error) ∧
        error.message = "stack underflow".toList) ∧
    (∀ term ∈ operands, term.role.acts = true) ∧
      (∀ term ∈ operands, Registry.standard.defines term = true) ∧
      depth? operands = some 2 ∧ ∀ store, ∃ error : MachineError,
        value Registry.standard operands store = .error (.machine error) ∧
        error.message = "stack imbalance".toList := by
  intro operands reversed
  have reversedActs : ∀ term ∈ reversed, term.role.acts = true := by decide
  have reversedDefined : ∀ term ∈ reversed, Registry.standard.defines term = true := by
    decide +kernel
  have acts : ∀ term ∈ operands, term.role.acts = true := by decide
  have defined : ∀ term ∈ operands, Registry.standard.defines term = true := by decide +kernel
  refine ⟨⟨reversedActs, reversedDefined, rfl, fun store => ?_⟩, acts, defined, rfl,
    fun store => ?_⟩
  · exact (value_ends_by_depth reversedActs reversedDefined store).1.mpr (.inl rfl)
  · exact (value_ends_by_depth acts defined store).2.1.mpr ⟨2, rfl, by decide⟩

end Abacus
