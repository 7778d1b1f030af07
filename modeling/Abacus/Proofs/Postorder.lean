import Abacus.Proofs.Meaning
import Abacus.Registry.Standard
import Abacus.Tree

/-! Postorder. A program that leaves one value is the postorder of a tree, and of no other: run on
trees instead of numbers, it builds that tree on its stack. On numbers it comes to what the tree
means. -/

namespace Abacus

namespace Tree

/-- The trees on a stack after a term. An operand is a tree of its own; a function or an operator
takes the trees of its arguments, the right one first. -/
def grown (stack : List Tree) (term : Term) : Option (List Tree) :=
  match term.role, stack with
  | .number, _ | .letter, _ => some (leaf term :: stack)
  | .unary, argument :: below | .function, argument :: below =>
    some (unary term argument :: below)
  | .binary, right :: left :: below => some (binary term left right :: below)
  | _, _ => none

/-- The trees on a stack after the terms of a program. -/
def forest (stack : List Tree) (program : List Term) : Option (List Tree) :=
  program.foldlM grown stack

/-- The programs of the trees on a stack, the one at the bottom first. -/
def spelled (stack : List Tree) : List Term :=
  stack.reverse.flatMap program

theorem spelled_cons (tree : Tree) (stack : List Tree) :
    spelled (tree :: stack) = spelled stack ++ tree.program := by
  simp [spelled]

theorem forest_cons (stack : List Tree) (term : Term) (program : List Term) :
    forest stack (term :: program) = (grown stack term).bind (forest · program) :=
  rfl

/-- As many trees as the depth says. -/
theorem length_grown (stack : List Tree) {term : Term} (acts : term.role.acts = true) :
    (grown stack term).map List.length = Program.depthAfter stack.length term := by
  cases role : term.role <;> simp [role, Role.acts] at acts
  all_goals match stack with
    | [] => simp [grown, Program.depthAfter, role]
    | [_] => simp [grown, Program.depthAfter, role]
    | _ :: _ :: _ => simp [grown, Program.depthAfter, role]

theorem length_forest (stack : List Tree) {program : List Term}
    (acts : ∀ term ∈ program, term.role.acts = true) :
    (forest stack program).map List.length = Program.depthFrom stack.length program := by
  induction program generalizing stack with
  | nil => rfl
  | cons term rest ih =>
    rw [forest_cons, Program.depthFrom, ← length_grown stack (acts term (by simp))]
    cases grown stack term with
    | none => rfl
    | some next => exact ih next fun other member => acts other (by simp [member])

/-- What a term does to a stack of trees: all stay well formed, and the term is spelled last. -/
theorem grown_spec {stack next : List Tree} {term : Term} (found : grown stack term = some next)
    (valid : ∀ tree ∈ stack, tree.WellFormed) :
    (∀ tree ∈ next, tree.WellFormed) ∧ spelled next = spelled stack ++ [term] := by
  unfold grown at found
  split at found <;> cases found <;>
    simp_all [WellFormed, Role.isOperand, spelled_cons, program]

theorem forest_spec {stack next : List Tree} {program : List Term}
    (found : forest stack program = some next) (valid : ∀ tree ∈ stack, tree.WellFormed) :
    (∀ tree ∈ next, tree.WellFormed) ∧ spelled next = spelled stack ++ program := by
  induction program generalizing stack with
  | nil =>
    cases found
    exact ⟨valid, by simp⟩
  | cons term rest ih =>
    obtain ⟨middle, first, later⟩ := Option.bind_eq_some_iff.mp found
    obtain ⟨middleValid, spelledFirst⟩ := grown_spec first valid
    obtain ⟨nextValid, spelledLater⟩ := ih later middleValid
    exact ⟨nextValid, by simp [spelledLater, spelledFirst]⟩

/-- The number that a tree stands for: that of its literal, that of its variable, which is no number
while none is set, or what the operation of its root gives for those of its arguments, the left one
first. -/
inductive Means (registry : Registry) (store : Store) : Tree → Float → Prop where
  | number {text : Text} {value : Float} (read : Datum.readNumber text = .ok value) :
    Means registry store (leaf ⟨text, .number⟩) value
  | letter (letter : Variable) :
    Means registry store (leaf ⟨letter.name, .letter⟩)
      ((store.numbers.get? letter).getD Double.undefined)
  | unary {text : Text} {operation : Unary} {argument : Tree} {value : Float}
    (known : registry.unary.get? text = some operation)
    (inner : Means registry store argument value) :
    Means registry store (unary ⟨text, .unary⟩ argument) (operation.apply value)
  | function {text : Text} {operation : Unary} {argument : Tree} {value : Float}
    (known : registry.functions.get? text = some operation)
    (inner : Means registry store argument value) :
    Means registry store (unary ⟨text, .function⟩ argument) (operation.apply value)
  | binary {text : Text} {operation : Binary} {left right : Tree} {first second : Float}
    (known : registry.binary.get? text = some operation)
    (inLeft : Means registry store left first) (inRight : Means registry store right second) :
    Means registry store (binary ⟨text, .binary⟩ left right) (operation.apply first second)

variable {registry : Registry} {store : Store}

theorem Means.value {tree : Tree} {number : Float} (means : Means registry store tree number) :
    tree.value store.machine registry = .ok number := by
  induction means with
  | number read => simp [Tree.value, Machine.operand, read, Store.machine]
  | letter letter =>
    simp [Tree.value, Machine.operand, store.get_name, Store.read, Store.machine, Except.mapError]
  | unary known inner ih | function known inner ih =>
    simp only [Tree.value, ih, Machine.unaryOf, Machine.found_eq_ok known]
    rfl
  | binary known inLeft inRight leftValue rightValue =>
    simp only [Tree.value, leftValue, rightValue, Machine.binaryOf, Machine.found_eq_ok known]
    rfl

theorem exists_means {tree : Tree} (valid : tree.WellFormed)
    (defined : ∀ term ∈ tree.program, registry.defines term = true) (store : Store) :
    ∃ number, Means registry store tree number := by
  induction tree with
  | leaf operand =>
    have known := defined operand (by simp [program])
    obtain ⟨text, role⟩ := operand
    rcases Role.isOperand_iff.mp valid with rfl | rfl
    · obtain ⟨number, read⟩ := Datum.exists_readNumber known
      exact ⟨number, .number read⟩
    · obtain ⟨letter, rfl⟩ := Text.exists_variable known
      exact ⟨_, .letter letter⟩
  | unary operator argument ih =>
    have known := defined operator (by simp [program])
    obtain ⟨number, inner⟩ := ih valid.2 fun term member => defined term (by simp [program, member])
    obtain ⟨text, role⟩ := operator
    rcases valid.1 with rfl | rfl
    · obtain ⟨operation, found⟩ := Table.exists_get? known
      exact ⟨_, .unary found inner⟩
    · obtain ⟨operation, found⟩ := Table.exists_get? known
      exact ⟨_, .function found inner⟩
  | binary operator left right leftMeans rightMeans =>
    have known := defined operator (by simp [program])
    obtain ⟨role, leftValid, rightValid⟩ := valid
    obtain ⟨first, inLeft⟩ := leftMeans leftValid fun term member =>
      defined term (by simp [program, member])
    obtain ⟨second, inRight⟩ := rightMeans rightValid fun term member =>
      defined term (by simp [program, member])
    obtain ⟨text, _⟩ := operator
    obtain rfl := role
    obtain ⟨operation, found⟩ := Table.exists_get? known
    exact ⟨_, .binary found inLeft inRight⟩

/-- A program of operands and operators with one value left is the program of a tree. -/
theorem exists_program {program : List Term} (acts : ∀ term ∈ program, term.role.acts = true)
    (depth : Program.depth? program = some 1) :
    ∃ tree : Tree, tree.WellFormed ∧ tree.program = program := by
  have size : (forest [] program).map List.length = some 1 := (length_forest [] acts).trans depth
  obtain ⟨stack, built, single⟩ := Option.map_eq_some_iff.mp size
  obtain ⟨tree, rfl⟩ := List.length_eq_one_iff.mp single
  obtain ⟨valid, spells⟩ := forest_spec built (by simp)
  exact ⟨tree, valid tree (by simp), by simpa [spelled] using spells⟩

/-- The value of the program of a tree is that of the tree. -/
theorem value_program {tree : Tree} (valid : tree.WellFormed) (registry : Registry)
    (store : Store) : Program.value registry tree.program store =
      tree.value store.machine registry := by
  rw [Program.value, Machine.run, steps_program _ _ valid]
  cases tree.value store.machine registry <;> rfl

end Tree

end Abacus
