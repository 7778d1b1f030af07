import Abacus.Text

/-! Variables are the letters from A to Z. -/

namespace Abacus

structure Variable where
  char : Char
  capital : 'A' ≤ char ∧ char ≤ 'Z'
  deriving DecidableEq

namespace Variable

def name (letter : Variable) : Text :=
  [letter.char]

/-- The variable that a text names: the text is a single capital letter. -/
def ofText? : Text → Option Variable
  | [char] => if capital : 'A' ≤ char ∧ char ≤ 'Z' then some ⟨char, capital⟩ else none
  | _ => none

@[simp]
theorem ofText?_name (letter : Variable) : ofText? letter.name = some letter := by
  simp [ofText?, name, letter.capital]

/-- Different variables have different names. -/
theorem name_injective : Function.Injective name := by
  intro letter other same
  have found := ofText?_name letter
  rw [same, ofText?_name] at found
  exact (Option.some.inj found).symm

theorem name_of_ofText? {text : Text} {letter : Variable} (found : ofText? text = some letter) :
    letter.name = text := by
  unfold ofText? at found
  split at found
  · split at found
    · cases found
      rfl
    · cases found
  · cases found

end Variable

/-- The text names a variable. -/
def Text.isVariable (text : Text) : Bool :=
  (Variable.ofText? text).isSome

end Abacus
