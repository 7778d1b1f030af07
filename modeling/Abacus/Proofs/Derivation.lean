import Abacus.Registry

/-! Derivations. A registry derived in many steps is a log of the steps that were not refused: for
each key it has what was given last, in the order in which the keys came first, and each priority is
the last one given. A step is refused for a fault of its own only, whatever the registry holds. -/

namespace Abacus

/-- A table behind a history: each key has the value that was given for it last, or else that of the
table before; new keys come behind the old ones, in the order in which they were given first. -/
structure Table.Logs {Key Value : Type} [DecidableEq Key] (table before : Table Key Value)
    (given : List (Key × Value)) : Prop where
  values : ∀ key, table.get? key = (last? given key).or (before.get? key)
  order : table.keys =
    before.keys ++ ((given.map Prod.fst).filter (· ∉ before.keys)).eraseDups

theorem Table.logs_update {Key Value : Type} [DecidableEq Key] (table : Table Key Value)
    (given : List (Key × Value)) : (table.update given).Logs table given where
  values := get?_update table given
  order := keys_update table given

/-- A step from one registry to another: an operation is given for a name or a symbol, and maybe a
priority along with it. A missing operation stands for a value that cannot act. -/
inductive Extension where
  | function (name : Text) (operation : Option Unary)
  | binary (symbol : Text) (operation : Option Binary) (priority : Option Int)
  | unary (symbol : Text) (operation : Option Unary)

namespace Extension

/-- What keeps a step from being made, in any registry. -/
def fault? : Extension → Option RegistryError
  | function name operation => Draft.functionFault? (name, operation)
  | binary symbol operation _ => symbol.symbolFault? <|> Draft.operatorFault? (symbol, operation)
  | unary symbol operation => symbol.symbolFault? <|> Draft.operatorFault? (symbol, operation)

/-- No step is at fault for the priorities of others. -/
theorem fault?_ne_unknownPriorities (step : Extension) (symbols : List Text) :
    step.fault? ≠ some (.unknownPriorities symbols) := by
  have operator {Rule : Type} (symbol : Text) (operation : Option (Operation Rule)) :
      (symbol.symbolFault? <|> Draft.operatorFault? (symbol, operation)) ≠
        some (.unknownPriorities symbols) := by
    unfold Text.symbolFault? Draft.operatorFault?
    (repeat' split) <;> simp
  cases step with
  | function name operation =>
    change Draft.functionFault? (name, operation) ≠ _
    unfold Draft.functionFault?
    (repeat' split) <;> simp
  | binary symbol operation priority => exact operator symbol operation
  | unary symbol operation => exact operator symbol operation

/-- The function that a step gives. -/
def function? : Extension → Option (Text × Unary)
  | function name operation => operation.map (name, ·)
  | _ => none

/-- The binary operator that a step gives. -/
def binary? : Extension → Option (Text × Binary)
  | binary symbol operation _ => operation.map (symbol, ·)
  | _ => none

/-- The unary operator that a step gives. -/
def unary? : Extension → Option (Text × Unary)
  | unary symbol operation => operation.map (symbol, ·)
  | _ => none

/-- The priority that a step gives. -/
def priority? : Extension → Option (Text × Int)
  | binary symbol _ priority => priority.map (symbol, ·)
  | _ => none

/-- The draft with what the step gives. -/
def onto (draft : Draft) : Extension → Draft
  | function name operation => { draft with functions := draft.functions.put name operation }
  | binary symbol operation priority => { draft with
    binary := draft.binary.put symbol operation
    priorities := match priority with
      | none => draft.priorities
      | some value => draft.priorities.put symbol value }
  | unary symbol operation => { draft with unary := draft.unary.put symbol operation }

end Extension

namespace Registry

/-- The registry after a step, unless the step is refused. -/
def extended (registry : Registry) : Extension → Except RegistryError Registry
  | .function name operation => registry.withFunction name operation
  | .binary symbol operation priority => registry.withBinary symbol operation priority
  | .unary symbol operation => registry.withUnary symbol operation

/-- The registry after steps made one after the other. A step that is refused changes nothing. -/
def derived (registry : Registry) : List Extension → Registry
  | [] => registry
  | step :: rest =>
    match registry.extended step with
    | .ok next => next.derived rest
    | .error _ => registry.derived rest

theorem extended_eq (registry : Registry) (step : Extension) :
    registry.extended step = ofDraft (step.onto registry.draft) := by
  cases step <;> rfl

/-- Nothing that a registry has is at fault. -/
private theorem functions_clear (registry : Registry) :
    ∀ entry ∈ registry.draft.functions.entries, Draft.functionFault? entry = none := by
  intro entry member
  obtain ⟨⟨name, operation⟩, present, rfl⟩ := List.mem_map.mp member
  have valid := registry.names_valid name (List.mem_map_of_mem present)
  simp [Draft.functionFault?, valid]

private theorem operators_clear {Rule : Type} (table : Table Text (Operation Rule)) :
    ∀ entry ∈ (table.map some).entries, Draft.operatorFault? entry = none := by
  intro entry member
  obtain ⟨⟨symbol, operation⟩, -, rfl⟩ := List.mem_map.mp member
  rfl

private theorem symbols_clear (registry : Registry) {symbol : Text}
    (member : symbol ∈ registry.binary.keys ++ registry.unary.keys) :
    symbol.symbolFault? = none := by
  simpa [Text.isOperatorSymbol] using registry.symbols_valid symbol member

/-- Customized priorities are those of binary operators or configured ones. -/
private theorem customized_known (registry : Registry) {symbol : Text}
    (member : symbol ∈ registry.customized.keys) :
    symbol ∈ registry.binary.keys ∨ symbol ∈ Priority.configured.keys := by
  rcases Table.mem_keys_update.mp (Table.keys_filter _ _ member) with configured | overridden
  · exact .inr configured
  · exact registry.overrides_known symbol overridden

/-- A step gives no priority to an unknown operator. -/
private theorem priorityFault?_onto (registry : Registry) (step : Extension) :
    (step.onto registry.draft).priorityFault? = none := by
  have known : ∀ symbol ∈ registry.draft.priorities.keys,
      symbol ∈ registry.draft.binary.keys ∨ symbol ∈ Priority.configured.keys := by
    rw [draft, Table.keys_map]
    exact fun symbol member => registry.customized_known member
  apply Draft.priorityFault?_eq_none_iff.mpr
  cases step with
  | function name operation => exact known
  | unary symbol operation => exact known
  | binary symbol operation priority =>
    have kept : ∀ other ∈ registry.draft.priorities.keys,
        other ∈ (registry.draft.binary.put symbol operation).keys ∨
          other ∈ Priority.configured.keys := by
      intro other member
      exact (known other member).imp_left fun present => Table.mem_keys_put.mpr (.inr present)
    cases priority with
    | none => exact kept
    | some value =>
      intro other member
      rcases Table.mem_keys_put.mp member with same | present
      · exact .inl (Table.mem_keys_put.mpr (.inl same))
      · exact kept other present

/-- The first fault of a draft after a step is the fault of the step. -/
private theorem fault?_onto (registry : Registry) (step : Extension) :
    (step.onto registry.draft).fault? = step.fault? := by
  have priorities := registry.priorityFault?_onto step
  have functions := registry.functions_clear
  have binary : ∀ entry ∈ registry.draft.binary.entries, Draft.operatorFault? entry = none :=
    operators_clear registry.binary
  have unary : ∀ entry ∈ registry.draft.unary.entries, Draft.operatorFault? entry = none :=
    operators_clear registry.unary
  have left : ∀ symbol ∈ registry.draft.binary.keys, symbol.symbolFault? = none := by
    rw [draft, Table.keys_map]
    exact fun symbol member => registry.symbols_clear (List.mem_append_left _ member)
  have right : ∀ symbol ∈ registry.draft.unary.keys, symbol.symbolFault? = none := by
    rw [draft, Table.keys_map]
    exact fun symbol member => registry.symbols_clear (List.mem_append_right _ member)
  cases step with
  | function name operation =>
    have given := Table.findSome?_put functions name operation
    simp only [Draft.fault?, Draft.symbols, Extension.onto, Extension.fault?,
      List.findSome?_append, given] at priorities ⊢
    rw [List.findSome?_eq_none_iff.mpr left, List.findSome?_eq_none_iff.mpr right,
      List.findSome?_eq_none_iff.mpr binary, List.findSome?_eq_none_iff.mpr unary, priorities]
    simp
  | binary symbol operation priority =>
    have given := Table.findSome?_put binary symbol operation
    have symbols := Table.findSome?_keys_put left symbol operation
    simp only [Draft.fault?, Draft.symbols, Extension.onto, Extension.fault?,
      List.findSome?_append, given, symbols] at priorities ⊢
    rw [List.findSome?_eq_none_iff.mpr functions, List.findSome?_eq_none_iff.mpr right,
      List.findSome?_eq_none_iff.mpr unary, priorities]
    simp
  | unary symbol operation =>
    have given := Table.findSome?_put unary symbol operation
    have symbols := Table.findSome?_keys_put right symbol operation
    simp only [Draft.fault?, Draft.symbols, Extension.onto, Extension.fault?,
      List.findSome?_append, given, symbols] at priorities ⊢
    rw [List.findSome?_eq_none_iff.mpr functions, List.findSome?_eq_none_iff.mpr left,
      List.findSome?_eq_none_iff.mpr binary, priorities]
    simp

theorem extended_eq_error_iff {registry : Registry} {step : Extension} {error : RegistryError} :
    registry.extended step = .error error ↔ step.fault? = some error := by
  rw [extended_eq, ofDraft_eq_error_iff, fault?_onto]

/-- What a step makes of a registry: everything stays as it is but for what the step gives. -/
structure Follows (registry : Registry) (step : Extension) (next : Registry) : Prop where
  functions : next.functions = registry.functions.update step.function?.toList
  binary : next.binary = registry.binary.update step.binary?.toList
  unary : next.unary = registry.unary.update step.unary?.toList
  overrides : next.overrides = registry.customized.update step.priority?.toList

/-- A step that is not refused has an operation to put in. -/
private theorem operation_of_clear {Rule : Type} {symbol : Text}
    {operation : Option (Operation Rule)}
    (clear : (symbol.symbolFault? <|> Draft.operatorFault? (symbol, operation)) = none) :
    ∃ given, operation = some given := by
  cases operation with
  | none => simp [Draft.operatorFault?] at clear
  | some given => exact ⟨given, rfl⟩

theorem follows_of_extended {registry next : Registry} {step : Extension}
    (made : registry.extended step = .ok next) : registry.Follows step next := by
  have clear : step.fault? = none := by
    cases fault : step.fault? with
    | none => rfl
    | some error =>
      rw [extended_eq_error_iff.mpr fault] at made
      cases made
  rw [extended_eq] at made
  obtain ⟨functions, binary, unary, overrides⟩ := parts_of_ofDraft made
  have same {Value : Type} (table : Table Text Value) : (table.map some).settled = table :=
    table.settled_map_some
  have put {Value : Type} (table : Table Text Value) (key : Text) (value : Value) :
      ((table.map some).put key (some value)).settled = table.update [(key, value)] := by
    rw [Table.put_map, Table.settled_map_some]
    rfl
  cases step with
  | function name operation =>
    cases operation with
    | none =>
      simp only [Extension.fault?, Draft.functionFault?, Option.isNone_none, ↓reduceIte] at clear
      split at clear <;> cases clear
    | some given =>
      exact ⟨functions.trans (put ..), binary.trans (same _), unary.trans (same _), overrides⟩
  | binary symbol operation priority =>
    obtain ⟨given, rfl⟩ := operation_of_clear clear
    refine ⟨functions.trans (same _), binary.trans (put ..), unary.trans (same _), ?_⟩
    cases priority <;> exact overrides
  | unary symbol operation =>
    obtain ⟨given, rfl⟩ := operation_of_clear clear
    exact ⟨functions.trans (same _), binary.trans (same _), unary.trans (put ..), overrides⟩

theorem get?_priorities (registry : Registry) (symbol : Text) : registry.priorities.get? symbol =
    (registry.overrides.get? symbol).or (Priority.configured.get? symbol) := by
  rw [priorities, Table.get?_update, Table.last?_entries]

/-- What is dropped because it is configured comes back from the configuration. -/
theorem get?_customized_or (registry : Registry) (symbol : Text) :
    (registry.customized.get? symbol).or (Priority.configured.get? symbol) =
      registry.priorities.get? symbol := by
  rw [customized, Table.get?_filter]
  cases found : registry.priorities.get? symbol with
  | none =>
    rw [get?_priorities, Option.or_eq_none_iff] at found
    exact found.2
  | some value =>
    by_cases same : Priority.configured.get? symbol = some value
    · simp [same, Option.filter]
    · simp [same, Option.filter]

/-- A step changes the priority that it gives, and no other. -/
theorem Follows.get?_priorities {registry next : Registry} {step : Extension}
    (follows : registry.Follows step next) (symbol : Text) : next.priorities.get? symbol =
      (Table.last? step.priority?.toList symbol).or (registry.priorities.get? symbol) := by
  rw [Registry.get?_priorities, follows.overrides, Table.get?_update, Option.or_assoc,
    get?_customized_or]

end Registry

/-- The steps that are not refused. -/
def Extension.accepted (steps : List Extension) : List Extension :=
  steps.filter (·.fault?.isNone)

namespace Registry

/-- A registry behind a history of steps. -/
structure Behind (derived before : Registry) (steps : List Extension) : Prop where
  functions : derived.functions = before.functions.update (steps.filterMap Extension.function?)
  binary : derived.binary = before.binary.update (steps.filterMap Extension.binary?)
  unary : derived.unary = before.unary.update (steps.filterMap Extension.unary?)
  priorities : ∀ symbol, derived.priorities.get? symbol =
    (Table.last? (steps.filterMap Extension.priority?) symbol).or (before.priorities.get? symbol)

private theorem filterMap_cons_toList {Entry : Type} (give : Extension → Option Entry)
    (step : Extension) (steps : List Extension) :
    (step :: steps).filterMap give = (give step).toList ++ steps.filterMap give := by
  rw [List.filterMap_cons]
  cases give step <;> rfl

/-- A step in front of a history. -/
theorem Behind.cons {before next derived : Registry} {step : Extension} {steps : List Extension}
    (follows : before.Follows step next) (later : derived.Behind next steps) :
    derived.Behind before (step :: steps) where
  functions := by
    rw [later.functions, follows.functions, filterMap_cons_toList, Table.update_append]
  binary := by rw [later.binary, follows.binary, filterMap_cons_toList, Table.update_append]
  unary := by rw [later.unary, follows.unary, filterMap_cons_toList, Table.update_append]
  priorities := by
    intro symbol
    rw [later.priorities, follows.get?_priorities, filterMap_cons_toList, Table.last?_append,
      Option.or_assoc]

theorem derived_behind (registry : Registry) (steps : List Extension) :
    (registry.derived steps).Behind registry (Extension.accepted steps) := by
  induction steps generalizing registry with
  | nil => exact ⟨rfl, rfl, rfl, fun _ => rfl⟩
  | cons step rest ih =>
    rw [derived, Extension.accepted, List.filter_cons]
    cases made : registry.extended step with
    | ok next =>
      have clear : step.fault?.isNone = true := by
        rw [Option.isNone_iff_eq_none, Option.eq_none_iff_forall_ne_some]
        intro error fault
        rw [extended_eq_error_iff.mpr fault] at made
        cases made
      rw [if_pos clear]
      exact (ih next).cons (follows_of_extended made)
    | error error =>
      have fault : step.fault?.isNone = false := by simp [extended_eq_error_iff.mp made]
      rw [fault]
      exact ih registry

/-- Whatever steps went before, a step is refused exactly for a fault of its own, which is never an
unknown priority. Behind the steps that are not refused, each table has for each key what was given
last, with the keys in the order in which they came first, and each priority is the one given last,
or else that of the registry before. -/
theorem derived_faithful (registry : Registry) (steps : List Extension) :
    (∀ step error, (registry.derived steps).extended step = .error error ↔
      step.fault? = some error) ∧
    (∀ step symbols,
      (registry.derived steps).extended step ≠ .error (.unknownPriorities symbols)) ∧
    (registry.derived steps).functions.Logs registry.functions
      ((Extension.accepted steps).filterMap Extension.function?) ∧
    (registry.derived steps).binary.Logs registry.binary
      ((Extension.accepted steps).filterMap Extension.binary?) ∧
    (registry.derived steps).unary.Logs registry.unary
      ((Extension.accepted steps).filterMap Extension.unary?) ∧
    ∀ symbol, (registry.derived steps).priority symbol =
      (Table.last? ((Extension.accepted steps).filterMap Extension.priority?) symbol).getD
        (registry.priority symbol) := by
  have behind := registry.derived_behind steps
  refine ⟨fun step error => extended_eq_error_iff, ?_, ?_, ?_, ?_, ?_⟩
  · intro step symbols unknown
    exact step.fault?_ne_unknownPriorities symbols (extended_eq_error_iff.mp unknown)
  · rw [behind.functions]
    exact Table.logs_update ..
  · rw [behind.binary]
    exact Table.logs_update ..
  · rw [behind.unary]
    exact Table.logs_update ..
  · intro symbol
    rw [priority, behind.priorities, priority]
    cases Table.last? ((Extension.accepted steps).filterMap Extension.priority?) symbol <;> rfl

end Registry
end Abacus
