import Abacus.Operation
import Abacus.Registry.Priority
import Abacus.Registry.Symbol

/-! Drafts of a registry: any names and symbols, with or without an operation, and priorities. The
first fault of a draft is found in a fixed order: functions, symbols, operations of operators,
priorities. -/

namespace Abacus

/-- What a registry is to be made of; a missing operation stands for a value that cannot act. -/
structure Draft where
  functions : Table Text (Option Unary)
  binary : Table Text (Option Binary)
  unary : Table Text (Option Unary)
  priorities : Table Text Int

namespace Draft

/-- The name of a function is looked at before its operation. -/
def functionFault? : Text × Option Unary → Option RegistryError
  | (name, operation) =>
    if name.isFunctionName = false then some (.functionName name)
    else if operation.isNone then some (.functionAction name)
    else none

/-- The operation of an operator is missing. -/
def operatorFault? {Rule : Type} : Text × Option (Operation Rule) → Option RegistryError
  | (symbol, operation) => if operation.isNone then some (.operatorAction symbol) else none

/-- The symbols with a priority that are neither binary operators nor configured. -/
def unknownPriorities (draft : Draft) : List Text :=
  draft.priorities.keys.filter fun symbol =>
    !draft.binary.contains symbol && !Priority.configured.contains symbol

def priorityFault? (draft : Draft) : Option RegistryError :=
  match draft.unknownPriorities with
  | [] => none
  | symbols => some (.unknownPriorities (Text.sorted symbols))

/-- The symbols of all operators. -/
def symbols (draft : Draft) : List Text :=
  draft.binary.keys ++ draft.unary.keys

/-- The first fault of a draft. -/
def fault? (draft : Draft) : Option RegistryError :=
  draft.functions.entries.findSome? functionFault? <|>
  draft.symbols.findSome? Text.symbolFault? <|>
  draft.binary.entries.findSome? operatorFault? <|>
  draft.unary.entries.findSome? operatorFault? <|>
  draft.priorityFault?

theorem priorityFault?_eq_none_iff {draft : Draft} : draft.priorityFault? = none ↔
    ∀ symbol ∈ draft.priorities.keys,
      symbol ∈ draft.binary.keys ∨ symbol ∈ Priority.configured.keys := by
  unfold priorityFault?
  split
  · rename_i none_unknown
    simp only [unknownPriorities, List.filter_eq_nil_iff, Bool.and_eq_true, Bool.not_eq_true',
      Bool.eq_false_iff, Table.contains_iff, ne_eq] at none_unknown
    simp only [true_iff]
    intro symbol member
    have known := none_unknown symbol member
    by_cases present : symbol ∈ draft.binary.keys
    · exact .inl present
    · exact .inr (Decidable.not_not.mp fun absent => known ⟨present, absent⟩)
  · rename_i some_unknown
    simp only [reduceCtorEq, false_iff]
    intro known
    apply some_unknown
    simp only [unknownPriorities, List.filter_eq_nil_iff, Bool.and_eq_true, Bool.not_eq_true',
      Bool.eq_false_iff, Table.contains_iff, ne_eq]
    rintro symbol member ⟨absent, missing⟩
    exact (known symbol member).elim absent missing

/-- A draft without fault has a name, a symbol and an operation for everything, and no priority
of an operator that it does not know. -/
theorem fault?_eq_none_iff {draft : Draft} : draft.fault? = none ↔
    (∀ entry ∈ draft.functions.entries, entry.1.isFunctionName = true ∧ entry.2.isSome = true) ∧
    (∀ symbol ∈ draft.symbols, symbol.isOperatorSymbol = true) ∧
    (∀ entry ∈ draft.binary.entries, entry.2.isSome = true) ∧
    (∀ entry ∈ draft.unary.entries, entry.2.isSome = true) ∧
    (∀ symbol ∈ draft.priorities.keys,
      symbol ∈ draft.binary.keys ∨ symbol ∈ Priority.configured.keys) := by
  have functions (entry : Text × Option Unary) : functionFault? entry = none ↔
      entry.1.isFunctionName = true ∧ entry.2.isSome = true := by
    obtain ⟨name, _ | operation⟩ := entry <;> cases valid : name.isFunctionName <;>
      simp [functionFault?, valid]
  have operators {Rule : Type} (entry : Text × Option (Operation Rule)) :
      operatorFault? entry = none ↔ entry.2.isSome = true := by
    obtain ⟨symbol, _ | operation⟩ := entry <;> simp [operatorFault?]
  simp [fault?, List.findSome?_eq_none_iff, functions, operators, priorityFault?_eq_none_iff,
    Text.isOperatorSymbol]

end Draft
end Abacus
