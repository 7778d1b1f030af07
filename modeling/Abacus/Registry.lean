import Abacus.Registry.Draft
import Abacus.Variable

/-! Registries: the functions and operators that expressions are written in. A registry is made of a
draft without fault, and one registry is derived from another through a draft again. -/

namespace Abacus

/-- Functions by name, operators by symbol, and the priorities that differ from the usual ones. -/
structure Registry where
  functions : Table Text Unary
  binary : Table Text Binary
  unary : Table Text Unary
  overrides : Table Text Int
  names_valid : ∀ name ∈ functions.keys, name.isFunctionName = true
  symbols_valid : ∀ symbol ∈ binary.keys ++ unary.keys, symbol.isOperatorSymbol = true
  overrides_known : ∀ symbol ∈ overrides.keys,
    symbol ∈ binary.keys ∨ symbol ∈ Priority.configured.keys

namespace Registry

private theorem mem_keys_of_settled {Value : Type} {table : Table Text (Option Value)} {key : Text}
    (member : key ∈ table.settled.keys) : key ∈ table.keys := by
  obtain ⟨value, present⟩ := Table.mem_keys_settled.mp member
  exact List.mem_map.mpr ⟨_, present, rfl⟩

private theorem settled_of_mem_keys {Value : Type} {table : Table Text (Option Value)}
    (complete : ∀ entry ∈ table.entries, entry.2.isSome = true) {key : Text}
    (member : key ∈ table.keys) : key ∈ table.settled.keys := by
  obtain ⟨⟨_, value⟩, present, rfl⟩ := List.mem_map.mp member
  obtain ⟨value, rfl⟩ := Option.isSome_iff_exists.mp (complete _ present)
  exact Table.mem_keys_settled.mpr ⟨value, present⟩

/-- The registry of a draft, unless the draft has a fault. -/
def ofDraft (draft : Draft) : Except RegistryError Registry :=
  match clear : draft.fault? with
  | some fault => .error fault
  | none =>
    have valid := Draft.fault?_eq_none_iff.mp clear
    .ok {
      functions := draft.functions.settled
      binary := draft.binary.settled
      unary := draft.unary.settled
      overrides := draft.priorities
      names_valid := by
        intro name member
        obtain ⟨entry, present, rfl⟩ := List.mem_map.mp (mem_keys_of_settled member)
        exact (valid.1 entry present).1
      symbols_valid := by
        intro symbol member
        apply valid.2.1 symbol
        rcases List.mem_append.mp member with left | right
        · exact List.mem_append_left _ (mem_keys_of_settled left)
        · exact List.mem_append_right _ (mem_keys_of_settled right)
      overrides_known := fun symbol member =>
        (valid.2.2.2.2 symbol member).imp_left (settled_of_mem_keys valid.2.2.1) }

/-- A draft is refused for its first fault. -/
theorem ofDraft_eq_error_iff {draft : Draft} {error : RegistryError} :
    ofDraft draft = .error error ↔ draft.fault? = some error := by
  unfold ofDraft
  split
  · rename_i clear
    simp [clear]
  · rename_i clear
    simp [clear]

/-- A registry is made of what its draft has. -/
theorem parts_of_ofDraft {draft : Draft} {registry : Registry}
    (made : ofDraft draft = .ok registry) :
    registry.functions = draft.functions.settled ∧ registry.binary = draft.binary.settled ∧
      registry.unary = draft.unary.settled ∧ registry.overrides = draft.priorities := by
  unfold ofDraft at made
  split at made
  · cases made
  · cases made
    exact ⟨rfl, rfl, rfl, rfl⟩

/-- All priorities: the configured ones, then those of other operators. -/
def priorities (registry : Registry) : Table Text Int :=
  Priority.configured.update registry.overrides.entries

/-- The priorities that are not configured as they are. -/
def customized (registry : Registry) : Table Text Int :=
  registry.priorities.filter fun symbol value => Priority.configured.get? symbol != some value

/-- The draft that a registry can be made of again. -/
def draft (registry : Registry) : Draft where
  functions := registry.functions.map some
  binary := registry.binary.map some
  unary := registry.unary.map some
  priorities := registry.customized

/-- With a function added or replaced. -/
def withFunction (registry : Registry) (name : Text) (operation : Option Unary) :
    Except RegistryError Registry :=
  ofDraft { registry.draft with functions := registry.draft.functions.put name operation }

/-- With a unary operator added or replaced. -/
def withUnary (registry : Registry) (symbol : Text) (operation : Option Unary) :
    Except RegistryError Registry :=
  ofDraft { registry.draft with unary := registry.draft.unary.put symbol operation }

/-- With a binary operator added or replaced; its priority stays as it is if none is given. -/
def withBinary (registry : Registry) (symbol : Text) (operation : Option Binary)
    (priority : Option Int) : Except RegistryError Registry :=
  ofDraft { registry.draft with
    binary := registry.draft.binary.put symbol operation
    priorities := match priority with
      | none => registry.customized
      | some value => registry.customized.put symbol value }

/-- The priority of a binary operator. -/
def priority (registry : Registry) (symbol : Text) : Int :=
  (registry.priorities.get? symbol).getD Priority.common

def isFunction (registry : Registry) (text : Text) : Bool :=
  registry.functions.contains text

def isBinary (registry : Registry) (text : Text) : Bool :=
  registry.binary.contains text

def isUnary (registry : Registry) (text : Text) : Bool :=
  registry.unary.contains text

/-- Operators and brackets: the lexemes that end where they begin. -/
def isSymbol (registry : Registry) (text : Text) : Bool :=
  registry.isBinary text || registry.isUnary text || text.isBracket

/-- A function name starts with the text. -/
def startsFunction (registry : Registry) (text : Text) : Bool :=
  registry.functions.keys.any text.isPrefixOf

/-- A registry as it is printed. -/
def shown (registry : Registry) : Text :=
  let listed {Value : Type} (table : Table Text Value) := Text.quotedList (Text.sorted table.keys)
  "OperatorRegistry(functions=".toList ++ listed registry.functions ++
    ", binary=".toList ++ listed registry.binary ++
    ", unary=".toList ++ listed registry.unary ++ [')']

theorem isFunction_nil (registry : Registry) : registry.isFunction [] = false := by
  rw [Bool.eq_false_iff]
  intro present
  have valid := registry.names_valid [] (Table.contains_iff.mp present)
  simp at valid

end Registry
end Abacus
