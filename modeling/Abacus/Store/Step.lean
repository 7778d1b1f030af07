import Abacus.Store

/-! Steps on a store, made one after the other. Each gives an answer or is refused, and the next one
is made on the store that it leaves. -/

namespace Abacus.Store

/-- What can be asked of a store or done to it. -/
inductive Step where
  | set (name : Label) (value : Datum)
  | get (name : Label)
  | unset (name : Label)
  | contains (name : Label)
  | clear
  | size
  | items

inductive Answer where
  | done
  | number (value : Float)
  | truth (value : Bool)
  | count (value : Nat)
  | listing (items : List (Text × Float))

/-- The answer to a change of a store, and the store behind it: the old one if it is refused. -/
def changed (store : Store) : Except StoreError Store → Except StoreError Answer × Store
  | .ok next => (.ok .done, next)
  | .error error => (.error error, store)

/-- The answer to a step, and the store behind it. -/
def perform (store : Store) : Step → Except StoreError Answer × Store
  | .set name value => store.changed (store.set name value)
  | .get name => ((store.get name).map .number, store)
  | .unset name => store.changed (store.unset name)
  | .contains name => (.ok (.truth (store.contains name)), store)
  | .clear => (.ok .done, empty)
  | .size => (.ok (.count store.size), store)
  | .items => (.ok (.listing store.items), store)

/-- The store behind all of the steps. -/
def after (store : Store) (steps : List Step) : Store :=
  steps.foldl (fun store step => (store.perform step).2) store

/-- The answers to the steps, each on the store that those before it leave. -/
def answers (store : Store) : List Step → List (Except StoreError Answer)
  | [] => []
  | step :: rest => (store.perform step).1 :: (store.perform step).2.answers rest

end Abacus.Store
