import Abacus.Program.Machine

/-! The number that a program comes to, given the numbers of the variables. -/

namespace Abacus

/-- The machine on single numbers. -/
def Store.machine (store : Store) : Machine Float where
  constant := id
  lookup name := (store.get (.text name)).mapError RunError.store
  unary := Unary.apply
  binary := Binary.apply

/-- The value of a program. -/
def Program.value (registry : Registry) (program : List Term) (store : Store) :
    Except RunError Float :=
  store.machine.run registry program

end Abacus
