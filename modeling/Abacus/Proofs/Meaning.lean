import Abacus.Program.Value
import Abacus.Proofs.Agreement
import Abacus.Proofs.Numerals
import Abacus.Proofs.Spelling

/-! Terms that mean something: number literals, variables, and the functions and operators of a
registry. The machine of a store has a value or an operation for each of them. -/

namespace Abacus

/-- The roles that do something to the stack of a machine. -/
def Role.acts : Role → Bool
  | number | letter | function | unary | binary => true
  | opening | closing | unassigned => false

/-- The text of a term is of the kind that its role asks for. -/
def Registry.defines (registry : Registry) (term : Term) : Bool :=
  match term.role with
  | .number => term.text.isNumeral
  | .letter => term.text.isVariable
  | .function => registry.isFunction term.text
  | .unary => registry.isUnary term.text
  | .binary => registry.isBinary term.text
  | .opening | .closing | .unassigned => true

/-- The label of a variable in capitals is its name. -/
theorem Variable.ofLabel?_text {text : Text} {letter : Variable}
    (found : Variable.ofText? text = some letter) :
    Variable.ofLabel? (.text text) = some letter := by
  have spelled : Unicode.upper text = text := by
    rw [← Variable.name_of_ofText? found]
    simp [Variable.name, Unicode.upper, Unicode.capital_of_variable letter.capital]
  rw [Variable.ofLabel?, Label.spelling, spelled, found]

theorem Store.get_name (store : Store) (letter : Variable) :
    store.get (.text letter.name) = .ok (store.read letter) := by
  have label := Variable.ofLabel?_text (Variable.ofText?_name letter)
  simp [Store.get, Variable.ofLabel, label, Except.map]

/-- The store with a number put in for a variable. -/
def Store.bound (store : Store) (letter : Variable) (number : Float) : Store :=
  ⟨store.numbers.put letter number⟩

theorem Store.read_bound (store : Store) (letter other : Variable) (number : Float) :
    (store.bound letter number).read other =
      if other = letter then number else store.read other := by
  rw [Store.read, Store.bound, Table.get?_put]
  split <;> rfl

theorem Store.set_name (store : Store) (letter : Variable) (number : Float) :
    store.set (.text letter.name) (.number number) = .ok (store.bound letter number) := by
  have label := Variable.ofLabel?_text (Variable.ofText?_name letter)
  simp [Store.set, Variable.ofLabel, label, Datum.toFloat, Except.mapError, bind, Except.bind]
  rfl

theorem Text.exists_variable {text : Text} (named : text.isVariable = true) :
    ∃ letter : Variable, letter.name = text := by
  obtain ⟨letter, found⟩ := Option.isSome_iff_exists.mp named
  exact ⟨letter, Variable.name_of_ofText? found⟩

namespace Machine

theorem found_eq_ok {Entry : Type} {table : Table Text Entry} {text : Text} {entry : Entry}
    (known : table.get? text = some entry) : found text table = .ok entry := by
  rw [found, known]

/-- A term that acts and is defined means something to the machine of a store. -/
theorem resolves_of_defines {registry : Registry} {term : Term} (acts : term.role.acts = true)
    (defined : registry.defines term = true) (store : Store) :
    store.machine.Resolves registry term := by
  obtain ⟨text, role⟩ := term
  cases role with
  | number =>
    obtain ⟨number, read⟩ := Datum.exists_readNumber defined
    exact ⟨number, by simp [operand, read, Store.machine]⟩
  | letter =>
    obtain ⟨letter, rfl⟩ := Text.exists_variable defined
    exact ⟨store.read letter, by simp [operand, store.get_name, Store.machine, Except.mapError]⟩
  | function | unary | binary =>
    obtain ⟨operation, known⟩ := Table.exists_get? defined
    exact ⟨operation, found_eq_ok known⟩
  | opening | closing | unassigned => cases acts

end Machine
end Abacus
