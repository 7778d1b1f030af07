import Abacus.Console.Assignment
import Abacus.Outcome
import Abacus.Proofs.Meaning
import Abacus.Proofs.Normality
import Mathlib.Data.List.Forall2

/-! Bindings. A list of assignments is refused exactly if one of them is faulty; otherwise each
letter has the number of the last assignment to it, in whatever case its name is written. -/

namespace Abacus

namespace Text

theorem cut?_eq_none_iff {mark : Char} {text : Text} : cut? mark text = none ↔ mark ∉ text := by
  unfold cut?
  cases dropped : text.dropWhile (· != mark) with
  | nil =>
    simp only [true_iff]
    intro member
    simpa using List.dropWhile_eq_nil_iff.mp dropped mark member
  | cons head rest =>
    simp only [reduceCtorEq, false_iff, Decidable.not_not]
    have stopped := List.head?_dropWhile_not (fun char => char != mark) text
    rw [dropped] at stopped
    obtain rfl : head = mark := by simpa using stopped
    exact (List.dropWhile_suffix _).subset (dropped ▸ List.mem_cons_self)

/-- The mark that cuts a text is the first one. -/
theorem cut?_eq_some_iff {mark : Char} {text before after : Text} :
    cut? mark text = some (before, after) ↔ text = before ++ mark :: after ∧ mark ∉ before := by
  constructor
  · intro found
    refine ⟨(append_of_cut? found).symm, ?_⟩
    unfold cut? at found
    split at found
    · cases found
    · cases found
      intro member
      simpa using List.mem_takeWhile_imp member
  · rintro ⟨rfl, absent⟩
    have others : ∀ char ∈ before, (char != mark) = true := by
      intro char member
      rw [bne_iff_ne]
      rintro rfl
      exact absent member
    simp [cut?, List.dropWhile_append_of_pos others, List.takeWhile_append_of_pos others]

/-- A text is cut in one way only. -/
theorem eq_of_cut {mark : Char} {before after other more : Text} (first : mark ∉ before)
    (otherFirst : mark ∉ other) (same : before ++ mark :: after = other ++ mark :: more) :
    before = other ∧ after = more := by
  have cut : cut? mark (before ++ mark :: after) = some (other, more) :=
    cut?_eq_some_iff.mpr ⟨same, otherFirst⟩
  rw [cut?_eq_some_iff.mpr ⟨rfl, first⟩, Option.some.injEq, Prod.mk.injEq] at cut
  exact cut

theorem trim_eq_nil_iff {class? : Char → Bool} {text : Text} :
    text.trim class? = [] ↔ ∀ char ∈ text, class? char = true := by
  constructor
  · intro empty
    have inner : ∀ char ∈ text.dropWhile class?, class? char = true := by
      simpa [trim, List.dropWhile_eq_nil_iff] using empty
    have stopped := List.head?_dropWhile_not class? text
    cases dropped : text.dropWhile class? with
    | nil => exact List.dropWhile_eq_nil_iff.mp dropped
    | cons char rest =>
      rw [dropped] at inner stopped
      have other : class? char = false := by simpa using stopped
      rw [inner char (by simp)] at other
      cases other
  · intro all
    have none : text.dropWhile class? = [] := List.dropWhile_eq_nil_iff.mpr all
    simp [trim, none]

end Text

namespace Store

/-- Numbers for letters are always accepted. -/
theorem setAll_named (store : Store) (given : List (Variable × Float)) :
    store.setAll (given.map fun entry => (.text entry.1.name, .number entry.2)) =
      .ok ⟨store.numbers.update given⟩ := by
  induction given generalizing store with
  | nil => rfl
  | cons entry given ih =>
    rw [List.map_cons, setAll, store.set_name]
    exact ih (store.bound entry.1 entry.2)

theorem exists_variable_of_set {store updated : Store} {name : Label} {value : Datum}
    (found : store.set name value = .ok updated) :
    ∃ letter, Variable.ofLabel? name = some letter := by
  obtain ⟨number, -, rest⟩ := Outcome.bind_eq_ok_iff.mp found
  obtain ⟨letter, known, -⟩ := Outcome.bind_eq_ok_iff.mp rest
  unfold Variable.ofLabel at known
  split at known
  · exact ⟨_, ‹_›⟩
  · cases known

/-- What is accepted has letters for names. -/
theorem exists_variable_of_setAll {store updated : Store} {assignments : List (Label × Datum)}
    (found : store.setAll assignments = .ok updated) :
    ∀ entry ∈ assignments, ∃ letter, Variable.ofLabel? entry.1 = some letter := by
  induction assignments generalizing store with
  | nil => simp
  | cons first rest ih =>
    obtain ⟨next, set, others⟩ := Outcome.bind_eq_ok_iff.mp found
    intro entry member
    rcases List.mem_cons.mp member with rfl | later
    · exact exists_variable_of_set set
    · exact ih others entry later

/-- A store is that of its items. -/
theorem ofList_items (store : Store) :
    ofList (store.items.map fun item => (.text item.1, .number item.2)) = .ok store := by
  have named := setAll_named empty store.numbers.entries
  rw [ofList, items, List.map_map]
  refine named.trans (congrArg Except.ok ?_)
  exact congrArg Store.mk store.numbers.ofList_entries

end Store

namespace Console

/-- The number that is written, a comma for the point or not. -/
def written? (text : Text) : Option Float :=
  Decimal.read? ((text.trim Unicode.isBlank).map fun char => if char = ',' then '.' else char)

/-- An assignment of a number to a letter. -/
def Binds (item : Text) (letter : Variable) (number : Float) : Prop :=
  ∃ name value, item = name ++ '=' :: value ∧ '=' ∉ name ∧
    Unicode.upper (name.trim Unicode.isBlank) = letter.name ∧ written? value = some number

/-- What keeps a text from being an assignment to a letter. -/
inductive Faulty (item : Text) : Prop where
  | unmarked (absent : '=' ∉ item)
  | nameless {name value : Text} (parts : item = name ++ '=' :: value) (first : '=' ∉ name)
    (blank : ∀ char ∈ name, Unicode.isBlank char = true)
  | valueless {name value : Text} (parts : item = name ++ '=' :: value) (first : '=' ∉ name)
    (unreadable : written? value = none)
  | unlettered {name value : Text} (parts : item = name ++ '=' :: value) (first : '=' ∉ name)
    (other : ∀ letter : Variable, Unicode.upper (name.trim Unicode.isBlank) ≠ letter.name)

/-- The last of the assignments to a letter gives it the number. -/
inductive LastBinds : List Text → Variable → Float → Prop where
  | last {item : Text} {rest : List Text} {letter : Variable} {number : Float}
    (binds : Binds item letter number)
    (unbound : ∀ later ∈ rest, ∀ other, ¬ Binds later letter other) :
    LastBinds (item :: rest) letter number
  | before {item : Text} {rest : List Text} {letter : Variable} {number : Float}
    (later : LastBinds rest letter number) : LastBinds (item :: rest) letter number

/-- What is read off an assignment. -/
theorem readAssignment_eq_ok_iff {item name : Text} {number : Float} :
    readAssignment item = .ok (name, number) ↔
      ∃ left right, item = left ++ '=' :: right ∧ '=' ∉ left ∧
        left.trim Unicode.isBlank ≠ [] ∧ written? right = some number ∧
        name = Unicode.upper (left.trim Unicode.isBlank) := by
  cases cut : item.cut? '=' with
  | none =>
    have absent := Text.cut?_eq_none_iff.mp cut
    simp only [readAssignment, cut, reduceCtorEq, false_iff]
    rintro ⟨left, right, rfl, -⟩
    exact absent (by simp)
  | some parts =>
    obtain ⟨left, right⟩ := parts
    obtain ⟨rfl, first⟩ := Text.cut?_eq_some_iff.mp cut
    simp only [readAssignment, cut]
    constructor
    · intro read
      refine ⟨left, right, rfl, first, ?_⟩
      split at read
      · cases read
      · rename_i nonempty
        split at read
        · cases read
        · rename_i found
          cases read
          exact ⟨by simpa using nonempty, found, rfl⟩
    · rintro ⟨before, after, divided, otherFirst, nonempty, found, rfl⟩
      obtain ⟨rfl, rfl⟩ := Text.eq_of_cut first otherFirst divided
      rw [written?] at found
      simp [nonempty, found]

theorem binds_iff {item : Text} {letter : Variable} {number : Float} :
    Binds item letter number ↔ readAssignment item = .ok (letter.name, number) := by
  rw [readAssignment_eq_ok_iff]
  constructor
  · rintro ⟨name, value, parts, first, named, found⟩
    refine ⟨name, value, parts, first, ?_, found, named.symm⟩
    intro empty
    rw [empty] at named
    cases named
  · rintro ⟨name, value, parts, first, -, found, named⟩
    exact ⟨name, value, parts, first, named.symm, found⟩

/-- An assignment gives one number to one letter. -/
theorem Binds.binds_iff_eq {item : Text} {letter other : Variable} {number value : Float}
    (binds : Binds item letter number) :
    Binds item other value ↔ other = letter ∧ value = number := by
  rw [binds_iff, binds_iff.mp binds, Except.ok.injEq, Prod.mk.injEq,
    Variable.name_injective.eq_iff, eq_comm, eq_comm (a := number)]

theorem lastBinds_cons_iff {item : Text} {rest : List Text} {letter : Variable} {number : Float} :
    LastBinds (item :: rest) letter number ↔ LastBinds rest letter number ∨
      (∀ later ∈ rest, ∀ other, ¬ Binds later letter other) ∧ Binds item letter number := by
  constructor
  · intro last
    cases last with
    | last binds unbound => exact .inr ⟨unbound, binds⟩
    | before later => exact .inl later
  · rintro (later | ⟨unbound, binds⟩)
    · exact .before later
    · exact .last binds unbound

/-- An assignment is faulty exactly if it gives no number to a letter. -/
theorem faulty_iff {item : Text} : Faulty item ↔ ∀ letter number, ¬ Binds item letter number := by
  constructor
  · rintro faulty letter number ⟨name, value, rfl, first, named, found⟩
    cases faulty with
    | unmarked absent => exact absent (by simp)
    | nameless divided otherFirst blank =>
      obtain ⟨rfl, rfl⟩ := Text.eq_of_cut first otherFirst divided
      rw [Text.trim_eq_nil_iff.mpr blank] at named
      cases named
    | valueless divided otherFirst unreadable =>
      obtain ⟨rfl, rfl⟩ := Text.eq_of_cut first otherFirst divided
      rw [unreadable] at found
      cases found
    | unlettered divided otherFirst other =>
      obtain ⟨rfl, rfl⟩ := Text.eq_of_cut first otherFirst divided
      exact other letter named
  · intro unbound
    cases cut : item.cut? '=' with
    | none => exact .unmarked (Text.cut?_eq_none_iff.mp cut)
    | some parts =>
      obtain ⟨name, value⟩ := parts
      obtain ⟨divided, first⟩ := Text.cut?_eq_some_iff.mp cut
      cases found : written? value with
      | none => exact .valueless divided first found
      | some number =>
        refine .unlettered divided first ?_
        intro letter named
        exact unbound letter number ⟨name, value, divided, first, named, found⟩

theorem mapM_eq_ok_iff {Item Entry Error : Type} {read : Item → Except Error Entry}
    {items : List Item} {entries : List Entry} :
    items.mapM read = .ok entries ↔
      List.Forall₂ (fun item entry => read item = .ok entry) items entries := by
  induction items generalizing entries with
  | nil =>
    rw [List.mapM_nil, List.forall₂_nil_left_iff]
    exact ⟨fun same => (Except.ok.inj same).symm, fun same => congrArg Except.ok same.symm⟩
  | cons item items ih =>
    rw [List.mapM_cons, List.forall₂_cons_left_iff]
    cases first : read item with
    | error => simp [bind, Except.bind]
    | ok entry =>
      cases later : items.mapM read with
      | error => simp [later, ← ih, bind, Except.bind]
      | ok others =>
        simp [later, ← ih, bind, Except.bind, pure, Except.pure, eq_comm]

private theorem exists_of_mem_forall₂ {Item Entry : Type} {related : Item → Entry → Prop}
    {items : List Item} {entries : List Entry} (all : List.Forall₂ related items entries)
    {item : Item} (member : item ∈ items) : ∃ entry ∈ entries, related item entry := by
  induction all with
  | nil => cases member
  | @cons first entry items entries here later ih =>
    rcases List.mem_cons.mp member with rfl | inside
    · exact ⟨entry, by simp, here⟩
    · obtain ⟨other, known, relation⟩ := ih inside
      exact ⟨other, by simp [known], relation⟩

/-- The letters and numbers of assignments, one by one. -/
def Give (items : List Text) (given : List (Variable × Float)) : Prop :=
  List.Forall₂ (fun item entry => Binds item entry.1 entry.2) items given

theorem exists_give {items : List Text} (clear : ∀ item ∈ items, ¬ Faulty item) :
    ∃ given, Give items given := by
  induction items with
  | nil => exact ⟨[], .nil⟩
  | cons item items ih =>
    obtain ⟨given, give⟩ := ih fun other member => clear other (by simp [member])
    have sound := clear item (by simp)
    simp only [faulty_iff, not_forall, not_not] at sound
    obtain ⟨letter, number, here⟩ := sound
    exact ⟨(letter, number) :: given, .cons here give⟩

theorem Give.bindings_eq {items : List Text} {given : List (Variable × Float)}
    (give : Give items given) : bindings items = .ok ⟨Table.ofList given⟩ := by
  have read : items.mapM readAssignment = .ok (given.map fun entry => (entry.1.name, entry.2)) := by
    rw [mapM_eq_ok_iff, List.forall₂_map_right_iff]
    exact give.imp fun item entry => binds_iff.mp
  have stored := Store.ofList_items ⟨Table.ofList given⟩
  simp only [bindings, read, Table.ofList_rename Variable.name_injective, bind, Except.bind]
  exact congrArg (Except.mapError AssignmentError.name) stored

/-- Assignments that are accepted are assignments to letters. -/
theorem binds_of_bindings {items : List Text} {store : Store} (found : bindings items = .ok store) :
    ∀ item ∈ items, ∃ letter number, Binds item letter number := by
  obtain ⟨entries, read, rest⟩ := Outcome.bind_eq_ok_iff.mp found
  have stored := Outcome.mapError_eq_ok_iff.mp rest
  intro item member
  obtain ⟨⟨name, number⟩, inside, readItem⟩ :=
    exists_of_mem_forall₂ (mapM_eq_ok_iff.mp read) member
  -- Of several entries for the name, only the last is stored, but the name is there.
  have known : name ∈ (Table.ofList entries).keys :=
    Table.mem_keys_update.mpr (.inr (List.mem_map_of_mem inside))
  obtain ⟨⟨_, value⟩, present, rfl⟩ := List.mem_map.mp known
  obtain ⟨letter, label⟩ := Store.exists_variable_of_setAll stored _ (List.mem_map_of_mem present)
  obtain ⟨left, right, parts, first, -, found, rfl⟩ := readAssignment_eq_ok_iff.mp readItem
  rw [Variable.ofLabel?, Label.spelling, Unicode.upper_upper] at label
  exact ⟨letter, number, left, right, parts, first, (Variable.name_of_ofText? label).symm, found⟩

/-- A letter is not given exactly if no assignment is to it. -/
theorem Give.not_mem_iff {items : List Text} {given : List (Variable × Float)}
    (give : Give items given) {letter : Variable} :
    letter ∉ given.map Prod.fst ↔ ∀ item ∈ items, ∀ number, ¬ Binds item letter number := by
  induction give with
  | nil => simp
  | cons binds later ih =>
    rw [List.map_cons, List.mem_cons, not_or, ih, List.forall_mem_cons]
    simp [binds.binds_iff_eq]

theorem Give.last?_eq_some_iff {items : List Text} {given : List (Variable × Float)}
    (give : Give items given) {letter : Variable} {number : Float} :
    Table.last? given letter = some number ↔ LastBinds items letter number := by
  induction give generalizing number with
  | nil =>
    constructor
    · intro found
      cases found
    · intro last
      cases last
  | @cons item entry items given binds later ih =>
    have here : (if letter = entry.1 then some entry.2 else none) = some number ↔
        Binds item letter number := by
      rw [binds.binds_iff_eq]
      grind
    rw [Table.last?_cons, Option.or_eq_some_iff, ih, Table.last?_eq_none_iff,
      Give.not_mem_iff later, here, lastBinds_cons_iff]

/-- Assignments are accepted exactly if none is faulty, and the last one to a letter counts. -/
theorem bindings_cases (items : List Text) :
    (∃ error, bindings items = .error error ∧ ∃ item ∈ items, Faulty item) ∨
    ∃ store, bindings items = .ok store ∧ (∀ item ∈ items, ¬ Faulty item) ∧
      ∀ letter number, store.numbers.get? letter = some number ↔ LastBinds items letter number := by
  by_cases clear : ∀ item ∈ items, ¬ Faulty item
  · obtain ⟨given, give⟩ := exists_give clear
    refine .inr ⟨_, give.bindings_eq, clear, ?_⟩
    intro letter number
    rw [← give.last?_eq_some_iff, Table.ofList, Table.get?_update]
    simp [Table.get?, Table.empty]
  · simp only [not_forall, not_not] at clear
    obtain ⟨item, member, faulty⟩ := clear
    cases found : bindings items with
    | error error => exact .inl ⟨error, rfl, item, member, faulty⟩
    | ok store =>
      obtain ⟨letter, number, binds⟩ := binds_of_bindings found item member
      exact absurd binds (faulty_iff.mp faulty letter number)

end Console
end Abacus
