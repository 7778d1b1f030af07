import Abacus.Outcome
import Abacus.Proofs.Bindings
import Abacus.Proofs.Spelling
import Abacus.Store.Step
import Mathlib.Data.List.Induction
import Mathlib.Data.List.Nodup
import Mathlib.Data.List.Perm.Subperm

/-! Histories of a store. A store says of each variable what the last step with an effect on it did,
however the variable was spelled, and it lists the variables in the order in which they came in.
Refused steps have no effect. -/

namespace Abacus

namespace Label

/-- The label in capitals, under which a variable is looked up. -/
def capitalized (label : Label) : Label :=
  .text (Unicode.upper label.spelling)

theorem ofLabel?_capitalized (label : Label) :
    Variable.ofLabel? label.capitalized = Variable.ofLabel? label := by
  simp only [Variable.ofLabel?, capitalized, spelling, Unicode.upper_upper]

end Label

/-- The error with the name that it shows in capitals. -/
def StoreError.capitalized : StoreError → StoreError
  | unknownName name => unknownName name.capitalized
  | value error => value error

/-- There are no more than 26 variables. -/
theorem Variable.length_le {letters : List Variable} (distinct : letters.Nodup) :
    letters.length ≤ 26 := by
  have codes : (letters.map fun letter => letter.char.toNat).Nodup := by
    apply distinct.map
    intro letter other same
    cases letter
    cases other
    obtain rfl := Char.toNat_inj.mp same
    rfl
  have inside : (letters.map fun letter => letter.char.toNat) ⊆ List.range' 0x41 26 := by
    intro code member
    obtain ⟨letter, -, rfl⟩ := List.mem_map.mp member
    obtain ⟨low, high⟩ := Unicode.toNat_of_variable letter.capital
    exact List.mem_range'_1.mpr ⟨low, by omega⟩
  simpa using (List.subperm_of_subset codes inside).length_le

theorem Variable.ofLabel_capitalized (label : Label) :
    ofLabel label.capitalized = (ofLabel label).mapError StoreError.capitalized := by
  simp only [ofLabel, label.ofLabel?_capitalized]
  cases ofLabel? label <;> rfl

namespace Store

namespace Step

/-- The step with its name in capitals. -/
def capitalized : Step → Step
  | set name value => set name.capitalized value
  | get name => get name.capitalized
  | unset name => unset name.capitalized
  | contains name => contains name.capitalized
  | clear => clear
  | size => size
  | items => items

/-- What a step does to a variable: it gives it a number, it takes its number away, or it has no
effect on it. -/
def effect? (letter : Variable) : Step → Option (Option Float)
  | set name value =>
    if Variable.ofLabel? name = some letter then value.toFloat.toOption.map some else none
  | unset name => if Variable.ofLabel? name = some letter then some none else none
  | clear => some none
  | get _ | contains _ | size | items => none

end Step

/-- The last step with an effect on a variable gives it the number. -/
def LastGives (history : List Step) (letter : Variable) (number : Float) : Prop :=
  ∃ before step after, history = before ++ step :: after ∧
    step.effect? letter = some (some number) ∧ ∀ later ∈ after, later.effect? letter = none

/-- The variable came in at a place of the history: it had no number before, the step in that place
gave it one, and no later step took its number away. -/
def CameIn (history : List Step) (letter : Variable) (place : Nat) : Prop :=
  ∃ before step after, history = before ++ step :: after ∧ before.length = place ∧
    (∀ number, ¬ LastGives before letter number) ∧
    (∃ number, step.effect? letter = some (some number)) ∧
    ∀ later ∈ after, later.effect? letter ≠ some none

variable {store : Store} {history : List Step} {letter : Variable}

theorem set_of_ofLabel? (store : Store) {name : Label} {value : Datum} {number : Float}
    (named : Variable.ofLabel? name = some letter) (converted : value.toFloat = .ok number) :
    store.set name value = .ok (store.bound letter number) := by
  rw [set, Variable.ofLabel, named, converted]
  rfl

/-- What a step does to a store, said once: nothing, one variable given a number, one variable taken
out, or all of them. -/
theorem perform_cases (store : Store) (step : Step) :
    ((store.perform step).2 = store ∧ ∀ letter, step.effect? letter = none) ∨
    (∃ given number, (store.perform step).2 = store.bound given number ∧
      ∀ letter, step.effect? letter = if given = letter then some (some number) else none) ∨
    (∃ taken, (store.perform step).2 = ⟨store.numbers.erase taken⟩ ∧
      ∀ letter, step.effect? letter = if taken = letter then some none else none) ∨
    (store.perform step).2 = empty ∧ ∀ letter, step.effect? letter = some none := by
  cases step with
  | set name value =>
    cases converted : value.toFloat with
    | error error =>
      left
      simp [perform, set, converted, changed, Step.effect?, Except.mapError, Except.toOption, bind,
        Except.bind]
    | ok number =>
      cases named : Variable.ofLabel? name with
      | none =>
        left
        simp [perform, set, converted, named, Variable.ofLabel, changed, Step.effect?,
          Except.mapError, bind, Except.bind]
      | some given =>
        right; left
        refine ⟨given, number, ?_, ?_⟩
        · rw [perform, store.set_of_ofLabel? named converted]
          rfl
        · simp [Step.effect?, converted, named, Except.toOption]
  | unset name =>
    cases named : Variable.ofLabel? name with
    | none =>
      left
      simp [perform, unset, named, Variable.ofLabel, changed, Step.effect?, Except.map]
    | some taken =>
      right; right; left
      refine ⟨taken, ?_, ?_⟩
      · simp [perform, unset, named, Variable.ofLabel, changed, Except.map]
      · simp [Step.effect?, named]
  | clear => exact .inr (.inr (.inr ⟨rfl, fun _ => rfl⟩))
  | get | contains | size | items => exact .inl ⟨rfl, fun _ => rfl⟩

/-- A step changes the number of a variable by its effect on it and in no other way. -/
theorem get?_perform (store : Store) (step : Step) (letter : Variable) :
    (store.perform step).2.numbers.get? letter =
      (step.effect? letter).getD (store.numbers.get? letter) := by
  rcases store.perform_cases step with ⟨same, effect⟩ | ⟨given, number, next, effect⟩ |
    ⟨taken, next, effect⟩ | ⟨next, effect⟩
  · rw [same, effect, Option.getD_none]
  · rw [next, effect, bound, Table.get?_put]
    by_cases here : given = letter
    · simp [here]
    · simp [here, Ne.symm here]
  · rw [next, effect, Table.get?_erase]
    by_cases here : taken = letter
    · simp [here]
    · simp [here, Ne.symm here]
  · rw [next, effect]
    rfl

theorem after_append (store : Store) (first second : List Step) :
    store.after (first ++ second) = (store.after first).after second :=
  List.foldl_append

theorem after_concat (store : Store) (history : List Step) (step : Step) :
    store.after (history ++ [step]) = ((store.after history).perform step).2 :=
  store.after_append history [step]

/-- The last effect on a variable, searched from the end of the history. -/
theorem lastGives_iff {number : Float} : LastGives history letter number ↔
    history.reverse.findSome? (Step.effect? letter) = some (some number) := by
  rw [List.findSome?_eq_some_iff]
  constructor
  · intro last
    obtain ⟨before, step, after, rfl, gives, later⟩ := last
    refine ⟨after.reverse, step, before.reverse, by simp, gives, ?_⟩
    intro other member
    exact later other (List.mem_reverse.mp member)
  · intro found
    obtain ⟨after, step, before, parts, gives, later⟩ := found
    refine ⟨before.reverse, step, after.reverse, ?_, gives, ?_⟩
    · rw [← List.reverse_reverse history, parts]
      simp
    · intro other member
      exact later other (List.mem_reverse.mp member)

/-- A store behind a history has the number that the last effect on a variable gives. -/
theorem get?_after_eq_some_iff {number : Float} :
    (empty.after history).numbers.get? letter = some number ↔ LastGives history letter number := by
  rw [lastGives_iff, ← Option.join_eq_some_iff]
  apply Eq.congr_left
  induction history using List.reverseRecOn with
  | nil => rfl
  | append_singleton history step ih =>
    rw [after_concat, get?_perform, List.reverse_append, List.reverse_singleton,
      List.singleton_append, List.findSome?_cons, ih]
    cases step.effect? letter <;> rfl

theorem CameIn.lt_length {place : Nat} (came : CameIn history letter place) :
    place < history.length := by
  obtain ⟨before, step, after, rfl, rfl, -⟩ := came
  simp

/-- A variable that is not taken out keeps its place. -/
theorem CameIn.concat {place : Nat} (came : CameIn history letter place) {step : Step}
    (kept : step.effect? letter ≠ some none) : CameIn (history ++ [step]) letter place := by
  obtain ⟨before, first, after, rfl, length, absent, gives, later⟩ := came
  refine ⟨before, first, after ++ [step], by simp, length, absent, gives, ?_⟩
  intro other member
  rcases List.mem_append.mp member with earlier | last
  · exact later other earlier
  · obtain rfl := List.mem_singleton.mp last
    exact kept

theorem cameIn_last {number : Float} (absent : ∀ number, ¬ LastGives history letter number)
    {step : Step} (gives : step.effect? letter = some (some number)) :
    CameIn (history ++ [step]) letter history.length :=
  ⟨history, step, [], rfl, rfl, absent, ⟨number, gives⟩, by simp⟩

/-- The variables in the order in which they came in, each with its place. -/
structure InOrder (history : List Step) (placed : List (Variable × Nat)) : Prop where
  cameIn : ∀ entry ∈ placed, CameIn history entry.1 entry.2
  ascending : (placed.map Prod.snd).Pairwise (· < ·)

/-- A step that takes out no variable of the list leaves the others as they are. -/
theorem InOrder.filter {placed : List (Variable × Nat)} (order : InOrder history placed)
    {step : Step} (kept : Variable → Bool)
    (keeps : ∀ letter, kept letter = true → step.effect? letter ≠ some none) :
    InOrder (history ++ [step]) (placed.filter (kept ·.1)) where
  cameIn := by
    intro entry member
    obtain ⟨present, stays⟩ := List.mem_filter.mp member
    exact (order.cameIn entry present).concat (keeps entry.1 stays)
  ascending := order.ascending.sublist (List.filter_sublist.map Prod.snd)

theorem InOrder.kept {placed : List (Variable × Nat)} (order : InOrder history placed)
    {step : Step} (keeps : ∀ letter, step.effect? letter ≠ some none) :
    InOrder (history ++ [step]) placed := by
  have all := order.filter (fun _ => true) (fun letter _ => keeps letter)
  rwa [List.filter_true] at all

/-- A variable that comes in goes to the end. -/
theorem InOrder.concat {placed : List (Variable × Nat)} (order : InOrder history placed)
    {place : Nat} (came : CameIn history letter place)
    (last : ∀ entry ∈ placed, entry.2 < place) : InOrder history (placed ++ [(letter, place)]) where
  cameIn := by
    intro entry member
    rcases List.mem_append.mp member with earlier | new
    · exact order.cameIn entry earlier
    · obtain rfl := List.mem_singleton.mp new
      exact came
  ascending := by
    rw [List.map_append, List.pairwise_append]
    refine ⟨order.ascending, List.pairwise_singleton _ _, ?_⟩
    intro before earlier after new
    obtain ⟨entry, present, rfl⟩ := List.mem_map.mp earlier
    obtain rfl := List.mem_singleton.mp new
    exact last entry present

/-- A store lists its variables in the order in which they came in. -/
theorem exists_inOrder (history : List Step) : ∃ placed, InOrder history placed ∧
    (empty.after history).numbers.keys = placed.map Prod.fst := by
  induction history using List.reverseRecOn with
  | nil => exact ⟨[], ⟨by simp, .nil⟩, rfl⟩
  | append_singleton history step ih =>
    obtain ⟨placed, order, keys⟩ := ih
    rw [after_concat]
    rcases (empty.after history).perform_cases step with ⟨same, effect⟩ |
      ⟨given, number, next, effect⟩ | ⟨taken, next, effect⟩ | ⟨next, effect⟩
    · exact ⟨placed, order.kept (by simp [effect]), by rw [same, keys]⟩
    · have kept : InOrder (history ++ [step]) placed := by
        apply order.kept
        intro letter
        rw [effect]
        split <;> simp
      by_cases present : given ∈ (empty.after history).numbers.keys
      · exact ⟨placed, kept, by rw [next, bound, Table.keys_put, if_pos present, keys]⟩
      · have gives : step.effect? given = some (some number) := by rw [effect, if_pos rfl]
        refine ⟨placed ++ [(given, history.length)], kept.concat (cameIn_last ?_ gives) ?_, ?_⟩
        · intro before last
          have missing := Table.get?_eq_none_iff.mpr present
          rw [get?_after_eq_some_iff.mpr last] at missing
          cases missing
        · intro entry member
          exact (order.cameIn entry member).lt_length
        · rw [next, bound, Table.keys_put, if_neg present, keys, List.map_append]
          rfl
    · refine ⟨placed.filter (·.1 ≠ taken), order.filter (· ≠ taken) ?_, ?_⟩
      · intro letter other
        rw [effect, if_neg (Ne.symm (of_decide_eq_true other))]
        simp
      · rw [next, Table.keys_erase, keys, List.filter_map]
        rfl
    · exact ⟨[], ⟨by simp, .nil⟩, by rw [next]; rfl⟩

/-- What a store says behind a history, and the order in which it says it. -/
structure Records (store : Store) (history : List Step) : Prop where
  letters : (store.items.map Prod.fst).Nodup ∧ ∀ item ∈ store.items, item.1.isVariable = true
  size_le : store.size = store.items.length ∧ store.size ≤ 26
  contains_iff : ∀ name, store.contains name = true ↔
    ∃ letter number, Variable.ofLabel? name = some letter ∧ LastGives history letter number
  get_given : ∀ name letter number, Variable.ofLabel? name = some letter →
    LastGives history letter number → store.get name = .ok number
  get_absent : ∀ name letter, Variable.ofLabel? name = some letter →
    (∀ number, ¬ LastGives history letter number) → store.get name = .ok Double.undefined
  get_unknown : ∀ name, Variable.ofLabel? name = none → store.get name = .error (.unknownName name)
  mem_items_iff : ∀ letter number,
    (letter.name, number) ∈ store.items ↔ LastGives history letter number
  ordered : ∃ placed, InOrder history placed ∧
    store.items.map Prod.fst = placed.map fun entry => entry.1.name

theorem names_eq (store : Store) :
    store.items.map Prod.fst = store.numbers.keys.map Variable.name := by
  simp [items, Table.keys, Function.comp_def]

theorem mem_items {number : Float} :
    (letter.name, number) ∈ store.items ↔ store.numbers.get? letter = some number := by
  rw [Table.get?_eq_some_iff, items, List.mem_map]
  constructor
  · intro listed
    obtain ⟨⟨other, value⟩, present, same⟩ := listed
    obtain ⟨name, rfl⟩ := Prod.mk.inj same
    obtain rfl := Variable.name_injective name
    exact present
  · intro present
    exact ⟨_, present, rfl⟩

theorem get_of_ofLabel? {name : Label} (named : Variable.ofLabel? name = some letter) :
    store.get name = .ok ((store.numbers.get? letter).getD Double.undefined) := by
  rw [get, Variable.ofLabel, named]
  rfl

/-- The store behind a history, from the start. -/
theorem records_after (history : List Step) : (empty.after history).Records history where
  letters := by
    constructor
    · rw [names_eq]
      exact (empty.after history).numbers.distinct.map Variable.name_injective
    · intro item member
      obtain ⟨entry, -, rfl⟩ := List.mem_map.mp member
      rw [Text.isVariable, Variable.ofText?_name]
      rfl
  size_le := by
    constructor
    · rw [items, List.length_map]
      rfl
    · have bound := Variable.length_le (empty.after history).numbers.distinct
      rwa [List.length_map] at bound
  contains_iff := by
    intro name
    simp only [contains, Option.any_eq_true, ← Table.isSome_get?, Option.isSome_iff_exists,
      get?_after_eq_some_iff, exists_and_left]
  get_given := by
    intro name letter number named gives
    rw [get_of_ofLabel? named, get?_after_eq_some_iff.mpr gives, Option.getD_some]
  get_absent := by
    intro name letter named absent
    have missing : (empty.after history).numbers.get? letter = none := by
      rw [Option.eq_none_iff_forall_ne_some]
      intro number found
      exact absent number (get?_after_eq_some_iff.mp found)
    rw [get_of_ofLabel? named, missing, Option.getD_none]
  get_unknown := by
    intro name strange
    rw [get, Variable.ofLabel, strange]
    rfl
  mem_items_iff := by
    intro letter number
    rw [mem_items, get?_after_eq_some_iff]
  ordered := by
    obtain ⟨placed, order, keys⟩ := exists_inOrder history
    refine ⟨placed, order, ?_⟩
    rw [names_eq, keys, List.map_map]
    rfl

/-- Accepted assignments leave the store that they leave as steps. -/
theorem after_of_setAll {built : Store} {assignments : List (Label × Datum)}
    (accepted : store.setAll assignments = .ok built) :
    store.after (assignments.map fun entry => .set entry.1 entry.2) = built := by
  induction assignments generalizing store with
  | nil => exact Except.ok.inj accepted
  | cons entry rest ih =>
    obtain ⟨next, set, later⟩ := Outcome.bind_eq_ok_iff.mp accepted
    have first : (store.perform (.set entry.1 entry.2)).2 = next := by
      rw [perform, set]
      rfl
    rw [List.map_cons, after, List.foldl_cons, first]
    exact ih later

/-- A refused step leaves the store as it was. -/
theorem perform_of_error {step : Step} {error : StoreError}
    (refused : (store.perform step).1 = .error error) : (store.perform step).2 = store := by
  have kept (outcome : Except StoreError Store)
      (refused : (store.changed outcome).1 = .error error) :
      (store.changed outcome).2 = store := by
    cases outcome with
    | ok => cases refused
    | error => rfl
  cases step with
  | set name value => exact kept _ refused
  | unset name => exact kept _ refused
  | clear => cases refused
  | get | contains | size | items => rfl

theorem changed_mapError (store : Store) (change : StoreError → StoreError)
    (outcome : Except StoreError Store) : store.changed (outcome.mapError change) =
      ((store.changed outcome).1.mapError change, (store.changed outcome).2) := by
  cases outcome <;> rfl

/-- The case of a name counts for the error alone. -/
theorem perform_capitalized (store : Store) (step : Step) : store.perform step.capitalized =
    ((store.perform step).1.mapError StoreError.capitalized, (store.perform step).2) := by
  cases step with
  | set name value =>
    have same : store.set name.capitalized value =
        (store.set name value).mapError StoreError.capitalized := by
      rw [set, set, Variable.ofLabel_capitalized]
      cases value.toFloat with
      | error => rfl
      | ok => cases Variable.ofLabel name <;> rfl
    rw [Step.capitalized, perform, same, changed_mapError]
    rfl
  | get name =>
    rw [Step.capitalized, perform, get, Variable.ofLabel_capitalized, perform, get]
    cases Variable.ofLabel name <;> rfl
  | unset name =>
    have same : store.unset name.capitalized =
        (store.unset name).mapError StoreError.capitalized := by
      rw [unset, unset, Variable.ofLabel_capitalized]
      cases Variable.ofLabel name <;> rfl
    rw [Step.capitalized, perform, same, changed_mapError]
    rfl
  | contains name =>
    rw [Step.capitalized, perform, contains, Label.ofLabel?_capitalized]
    rfl
  | clear | size | items => rfl

theorem after_capitalized (store : Store) (steps : List Step) :
    store.after (steps.map Step.capitalized) = store.after steps := by
  simp only [after, List.foldl_map, perform_capitalized]

theorem answers_capitalized (store : Store) (steps : List Step) :
    store.answers (steps.map Step.capitalized) =
      (store.answers steps).map (·.mapError StoreError.capitalized) := by
  induction steps generalizing store with
  | nil => rfl
  | cons step rest ih =>
    rw [List.map_cons, answers, answers, List.map_cons, perform_capitalized, ih]

/-- A store that was built and then worked on, in any number of steps, some of them refused: it
records what was done to it, refused steps leave it alone, it is the store of its items, and the
case of the names shows in the errors only. -/
theorem after_records {assignments : List (Label × Datum)}
    (built : ofList assignments = .ok store) (steps : List Step) :
    (store.after steps).Records
      ((assignments.map fun entry => .set entry.1 entry.2) ++ steps) ∧
    (∀ step error, ((store.after steps).perform step).1 = .error error →
      ((store.after steps).perform step).2 = store.after steps) ∧
    ofList ((store.after steps).items.map fun item => (.text item.1, .number item.2)) =
      .ok (store.after steps) ∧
    ∀ others : List Step, others.map Step.capitalized = steps.map Step.capitalized →
      store.after others = store.after steps ∧
      (store.answers others).map (·.mapError StoreError.capitalized) =
        (store.answers steps).map (·.mapError StoreError.capitalized) := by
  refine ⟨?_, ?_, ofList_items _, ?_⟩
  · have whole : store.after steps =
        empty.after ((assignments.map fun entry => .set entry.1 entry.2) ++ steps) := by
      rw [after_append, after_of_setAll built]
    rw [whole]
    exact records_after _
  · intro step error refused
    exact perform_of_error refused
  · intro others respelled
    constructor
    · rw [← after_capitalized, respelled, after_capitalized]
    · rw [← answers_capitalized, respelled, answers_capitalized]

/-- A letter that is set anew behind its removal, beside a name of no letter. -/
theorem after_records_anew : ∃ store, ofList [(.text ['x'], .number 1)] = .ok store ∧
    (store.after [.unset (.text ['X']), .set (.text ['x', 'y']) (.number 2),
      .set (.text ['x']) (.number 3)]).get (.text ['X']) = .ok 3 := by
  let letter : Variable := ⟨'X', by decide⟩
  have small : Variable.ofLabel? (.text ['x']) = some letter := by decide +kernel
  have built : ofList [(.text ['x'], .number 1)] = .ok (empty.bound letter 1) := by
    rw [ofList, setAll, empty.set_of_ofLabel? small rfl]
    rfl
  refine ⟨_, built, ?_⟩
  have records := (after_records built [.unset (.text ['X']), .set (.text ['x', 'y']) (.number 2),
    .set (.text ['x']) (.number 3)]).1
  apply records.get_given (.text ['X']) letter 3 (by decide +kernel)
  refine ⟨[.set (.text ['x']) (.number 1), .unset (.text ['X']),
    .set (.text ['x', 'y']) (.number 2)], .set (.text ['x']) (.number 3), [], rfl, ?_, by simp⟩
  rw [Step.effect?, if_pos small]
  rfl

end Store
end Abacus
