/-! Tables with keys in the order in which they were first put in. Putting a key that is present
keeps its place; a key that was erased and is put in again goes to the end. -/

namespace Abacus

/-- Distinct keys with a value each. -/
structure Table (Key Value : Type) where
  entries : List (Key × Value)
  distinct : (entries.map Prod.fst).Nodup

namespace Table
variable {Key Value Other : Type}

def keys (table : Table Key Value) : List Key :=
  table.entries.map Prod.fst

def size (table : Table Key Value) : Nat :=
  table.entries.length

/-- The table without entries. -/
def empty : Table Key Value := ⟨[], .nil⟩

theorem eq_of_entries {first second : Table Key Value} (same : first.entries = second.entries) :
    first = second := by
  cases first
  cases second
  cases same
  rfl

/-- The same keys with other values. -/
def map (change : Value → Other) (table : Table Key Value) : Table Key Other where
  entries := table.entries.map fun entry => (entry.1, change entry.2)
  distinct := by simpa [Function.comp_def] using table.distinct

@[simp]
theorem keys_map (change : Value → Other) (table : Table Key Value) :
    (table.map change).keys = table.keys := by
  simp [keys, map, Function.comp_def]

/-- The entries that have a value. -/
def settled (table : Table Key (Option Value)) : Table Key Value where
  entries := table.entries.filterMap fun entry => entry.2.map (entry.1, ·)
  distinct := by
    refine List.Nodup.sublist ?_ table.distinct
    induction table.entries with
    | nil => exact .slnil
    | cons entry entries ih =>
      obtain ⟨key, value | value⟩ := entry
      · exact ih.cons _
      · exact ih.cons_cons _

theorem mem_keys_settled {table : Table Key (Option Value)} {key : Key} :
    key ∈ table.settled.keys ↔ ∃ value, (key, some value) ∈ table.entries := by
  simp only [keys, settled, List.mem_map, List.mem_filterMap, Option.map_eq_some_iff]
  constructor
  · rintro ⟨_, ⟨⟨_, _⟩, member, value, rfl, rfl⟩, rfl⟩
    exact ⟨value, member⟩
  · rintro ⟨value, member⟩
    exact ⟨(key, value), ⟨(key, some value), member, value, rfl, rfl⟩, rfl⟩

@[simp]
theorem settled_map_some (table : Table Key Value) : (table.map some).settled = table := by
  apply eq_of_entries
  simp only [settled, map, List.filterMap_map]
  exact List.filterMap_some

/-- The entries that pass a test. -/
def filter (test : Key → Value → Bool) (table : Table Key Value) : Table Key Value where
  entries := table.entries.filter fun entry => test entry.1 entry.2
  distinct := table.distinct.sublist (List.filter_sublist.map _)

theorem keys_filter (test : Key → Value → Bool) (table : Table Key Value) :
    (table.filter test).keys ⊆ table.keys :=
  List.map_subset _ List.filter_sublist.subset

variable [DecidableEq Key]

def get? (table : Table Key Value) (key : Key) : Option Value :=
  table.entries.lookup key

def contains (table : Table Key Value) (key : Key) : Bool :=
  table.keys.contains key

private theorem lookup_entry (entry : Key × Value) (entries : List (Key × Value)) (key : Key) :
    (entry :: entries).lookup key = if key = entry.1 then some entry.2 else entries.lookup key := by
  rw [List.lookup_cons]
  by_cases same : key = entry.1
  · simp [same]
  · have differ : (key == entry.1) = false := by simpa using same
    simp [same, differ]

private theorem lookup_isSome (entries : List (Key × Value)) (key : Key) :
    (entries.lookup key).isSome = (entries.map Prod.fst).contains key := by
  induction entries with
  | nil => rfl
  | cons entry entries ih =>
    by_cases same : key = entry.1
    · simp [lookup_entry, same]
    · simp only [lookup_entry, if_neg same, ih]
      simp [same]

theorem isSome_get? (table : Table Key Value) (key : Key) :
    (table.get? key).isSome = table.contains key :=
  lookup_isSome table.entries key

theorem exists_get? {table : Table Key Value} {key : Key} (known : table.contains key = true) :
    ∃ value, table.get? key = some value := by
  rw [← isSome_get?] at known
  exact Option.isSome_iff_exists.mp known

theorem contains_iff {table : Table Key Value} {key : Key} :
    table.contains key = true ↔ key ∈ table.keys := by
  simp [contains]

theorem mem_of_lookup {entries : List (Key × Value)} {key : Key} {value : Value}
    (found : entries.lookup key = some value) : (key, value) ∈ entries := by
  induction entries with
  | nil => cases found
  | cons entry entries ih =>
    rw [lookup_entry] at found
    split at found
    · rename_i same
      cases found
      simp [same]
    · exact List.mem_cons_of_mem _ (ih found)

theorem mem_of_get? {table : Table Key Value} {key : Key} {value : Value}
    (found : table.get? key = some value) : (key, value) ∈ table.entries :=
  mem_of_lookup found

theorem get?_eq_none_iff {table : Table Key Value} {key : Key} :
    table.get? key = none ↔ key ∉ table.keys := by
  rw [← contains_iff, ← isSome_get?]
  cases table.get? key <;> simp

theorem get?_eq_some_iff {table : Table Key Value} {key : Key} {value : Value} :
    table.get? key = some value ↔ (key, value) ∈ table.entries := by
  refine ⟨mem_of_get?, fun member => ?_⟩
  obtain ⟨entries, distinct⟩ := table
  change entries.lookup key = some value
  replace member : (key, value) ∈ entries := member
  induction entries with
  | nil => cases member
  | cons entry entries ih =>
    obtain ⟨apart, distinct⟩ := List.nodup_cons.mp distinct
    rw [lookup_entry]
    rcases List.mem_cons.mp member with rfl | later
    · rw [if_pos rfl]
    · have other : key ≠ entry.1 := by
        rintro rfl
        exact apart (List.mem_map.mpr ⟨_, later, rfl⟩)
      rw [if_neg other]
      exact ih distinct later

/-- The entries with a new value for a key, in its old place or else at the end. -/
private def replaced (key : Key) (value : Value) : List (Key × Value) → List (Key × Value)
  | [] => [(key, value)]
  | entry :: entries =>
    if entry.1 = key then (key, value) :: entries else entry :: replaced key value entries

private theorem keys_replaced (key : Key) (value : Value) (entries : List (Key × Value)) :
    (replaced key value entries).map Prod.fst =
      if key ∈ entries.map Prod.fst then entries.map Prod.fst
      else entries.map Prod.fst ++ [key] := by
  induction entries with
  | nil => rfl
  | cons entry entries ih =>
    by_cases same : entry.1 = key
    · simp [replaced, same]
    · by_cases later : key ∈ entries.map Prod.fst
      · simp [replaced, same, ih, later]
      · simp [replaced, same, Ne.symm same, ih, later]

/-- The table with a key's value put in. -/
def put (table : Table Key Value) (key : Key) (value : Value) : Table Key Value where
  entries := replaced key value table.entries
  distinct := by
    rw [keys_replaced]
    split
    · exact table.distinct
    · rename_i absent
      exact List.nodup_append.mpr ⟨table.distinct, by simp, by
        rintro left member right (_ | ⟨_, ⟨⟩⟩) rfl
        exact absent member⟩

theorem keys_put (table : Table Key Value) (key : Key) (value : Value) :
    (table.put key value).keys =
      if key ∈ table.keys then table.keys else table.keys ++ [key] :=
  keys_replaced key value table.entries

theorem mem_keys_put {table : Table Key Value} {key other : Key} {value : Value} :
    other ∈ (table.put key value).keys ↔ other = key ∨ other ∈ table.keys := by
  rw [keys_put]
  split
  · rename_i present
    exact ⟨.inr, fun | .inl same => same ▸ present | .inr member => member⟩
  · simp [or_comm]

private theorem lookup_replaced (key other : Key) (value : Value) (entries : List (Key × Value)) :
    (replaced key value entries).lookup other =
      if other = key then some value else entries.lookup other := by
  induction entries with
  | nil => exact lookup_entry (key, value) [] other
  | cons entry entries ih =>
    by_cases here : entry.1 = key
    · by_cases same : other = key <;> simp [replaced, lookup_entry, here, same]
    · by_cases same : other = entry.1
      · simp [replaced, lookup_entry, same, here]
      · simp [replaced, lookup_entry, here, same, ih]

theorem get?_put (table : Table Key Value) (key other : Key) (value : Value) :
    (table.put key value).get? other = if other = key then some value else table.get? other :=
  lookup_replaced key other value table.entries

private theorem replaced_map (change : Value → Other) (key : Key) (value : Value)
    (entries : List (Key × Value)) :
    replaced key (change value) (entries.map fun entry => (entry.1, change entry.2)) =
      (replaced key value entries).map fun entry => (entry.1, change entry.2) := by
  induction entries with
  | nil => rfl
  | cons entry entries ih =>
    by_cases here : entry.1 = key
    · simp [replaced, here]
    · simp [replaced, here, ih]

theorem put_map (change : Value → Other) (table : Table Key Value) (key : Key) (value : Value) :
    (table.map change).put key (change value) = (table.put key value).map change := by
  simp only [put, map, replaced_map]

private theorem findSome?_replaced {search : Key × Value → Option Other}
    {entries : List (Key × Value)} (clear : ∀ entry ∈ entries, search entry = none) (key : Key)
    (value : Value) : (replaced key value entries).findSome? search = search (key, value) := by
  induction entries with
  | nil => simp [replaced]
  | cons entry entries ih =>
    have later : ∀ entry ∈ entries, search entry = none :=
      fun other member => clear other (by simp [member])
    by_cases here : entry.1 = key
    · rw [replaced, if_pos here, List.findSome?_cons, List.findSome?_eq_none_iff.mpr later]
      cases search (key, value) <;> rfl
    · rw [replaced, if_neg here, List.findSome?_cons, clear entry (by simp)]
      exact ih later

/-- Where nothing is found in a table, the only find is what is put in. -/
theorem findSome?_put {search : Key × Value → Option Other} {table : Table Key Value}
    (clear : ∀ entry ∈ table.entries, search entry = none) (key : Key) (value : Value) :
    (table.put key value).entries.findSome? search = search (key, value) :=
  findSome?_replaced clear key value

theorem findSome?_keys_put {search : Key → Option Other} {table : Table Key Value}
    (clear : ∀ key ∈ table.keys, search key = none) (key : Key) (value : Value) :
    (table.put key value).keys.findSome? search = search key := by
  rw [keys, List.findSome?_map]
  apply findSome?_put
  intro entry member
  exact clear entry.1 (List.mem_map_of_mem member)

/-- The table without a key. -/
def erase (table : Table Key Value) (key : Key) : Table Key Value where
  entries := table.entries.filter (·.1 ≠ key)
  distinct := table.distinct.sublist (List.filter_sublist.map _)

theorem keys_erase (table : Table Key Value) (key : Key) :
    (table.erase key).keys = table.keys.filter (· ≠ key) := by
  simp [keys, erase, List.filter_map, Function.comp_def]

private theorem lookup_filter (key other : Key) (entries : List (Key × Value)) :
    (entries.filter (·.1 ≠ key)).lookup other =
      if other = key then none else entries.lookup other := by
  induction entries with
  | nil => simp
  | cons entry entries ih =>
    by_cases here : entry.1 = key
    · rw [List.filter_cons_of_neg (by simpa using here), ih, lookup_entry]
      by_cases same : other = key <;> simp [same, here]
    · rw [List.filter_cons_of_pos (by simpa using here), lookup_entry, ih, lookup_entry]
      by_cases same : other = entry.1
      · simp [same, here]
      · simp [same]

theorem get?_erase (table : Table Key Value) (key other : Key) :
    (table.erase key).get? other = if other = key then none else table.get? other :=
  lookup_filter key other table.entries

theorem get?_filter (test : Key → Value → Bool) (table : Table Key Value) (key : Key) :
    (table.filter test).get? key = (table.get? key).filter (test key) := by
  apply Option.ext
  intro value
  rw [get?_eq_some_iff, Option.filter_eq_some_iff, get?_eq_some_iff, filter, List.mem_filter]

/-- The entries of a list put in one after the other. -/
def update (table : Table Key Value) (entries : List (Key × Value)) : Table Key Value :=
  entries.foldl (fun table entry => table.put entry.1 entry.2) table

/-- The last value that a list has for a key. -/
def last? (entries : List (Key × Value)) (key : Key) : Option Value :=
  entries.reverse.lookup key

theorem last?_append (left right : List (Key × Value)) (key : Key) :
    last? (left ++ right) key = (last? right key).or (last? left key) := by
  rw [last?, List.reverse_append, List.lookup_append, ← last?, ← last?]

theorem last?_cons (entry : Key × Value) (entries : List (Key × Value)) (key : Key) :
    last? (entry :: entries) key =
      (last? entries key).or (if key = entry.1 then some entry.2 else none) := by
  rw [← List.singleton_append, last?_append]
  exact congrArg _ (lookup_entry entry [] key)

theorem last?_eq_none_iff {entries : List (Key × Value)} {key : Key} :
    last? entries key = none ↔ key ∉ entries.map Prod.fst := by
  rw [last?, ← Option.not_isSome_iff_eq_none, lookup_isSome]
  simp

/-- Of several values for a key the last one counts. -/
theorem get?_update (table : Table Key Value) (entries : List (Key × Value)) (key : Key) :
    (table.update entries).get? key = (last? entries key).or (table.get? key) := by
  induction entries generalizing table with
  | nil => rfl
  | cons entry entries ih =>
    rw [update, List.foldl_cons, ← update, ih, get?_put, last?_cons, Option.or_assoc]
    split <;> rfl

theorem update_append (table : Table Key Value) (left right : List (Key × Value)) :
    table.update (left ++ right) = (table.update left).update right :=
  List.foldl_append

/-- Keys that were there keep their places, and new ones follow in the order in which they come
first. -/
theorem keys_update (table : Table Key Value) (entries : List (Key × Value)) :
    (table.update entries).keys =
      table.keys ++ ((entries.map Prod.fst).filter (· ∉ table.keys)).eraseDups := by
  induction entries generalizing table with
  | nil => simp [update]
  | cons entry entries ih =>
    rw [update, List.foldl_cons, ← update, ih, keys_put]
    by_cases present : entry.1 ∈ table.keys
    · simp [present]
    · have later (key : Key) : (!decide (key ∈ table.keys) && !decide (key = entry.1)) =
          (!key == entry.1 && !decide (key ∈ table.keys)) := by
        rw [Bool.and_comm, Bool.beq_eq_decide_eq]
      simp [present, List.eraseDups_cons, List.filter_filter, later]

theorem mem_keys_update {table : Table Key Value} {entries : List (Key × Value)} {key : Key} :
    key ∈ (table.update entries).keys ↔ key ∈ table.keys ∨ key ∈ entries.map Prod.fst := by
  rw [keys_update, List.mem_append, List.mem_eraseDups, List.mem_filter]
  by_cases present : key ∈ table.keys <;> simp [present]

theorem last?_entries (table : Table Key Value) (key : Key) :
    last? table.entries key = table.get? key := by
  have distinct : (table.entries.reverse.map Prod.fst).Nodup := by
    rw [List.map_reverse]
    exact (List.reverse_perm _).nodup_iff.mpr table.distinct
  let reversed : Table Key Value := ⟨table.entries.reverse, distinct⟩
  change reversed.get? key = table.get? key
  apply Option.ext
  intro value
  rw [get?_eq_some_iff, get?_eq_some_iff, List.mem_reverse]

/-- A table of the entries of a list: of equal keys the first place and the last value count. -/
def ofList (entries : List (Key × Value)) : Table Key Value :=
  empty.update entries

private theorem replaced_of_absent {key : Key} (value : Value) {entries : List (Key × Value)}
    (absent : key ∉ entries.map Prod.fst) :
    replaced key value entries = entries ++ [(key, value)] := by
  induction entries with
  | nil => rfl
  | cons entry entries ih =>
    have other : entry.1 ≠ key := fun same => absent (by simp [same])
    have later : key ∉ entries.map Prod.fst := fun member => absent (by simp [member])
    rw [replaced, if_neg other, ih later, List.cons_append]

/-- New entries with keys of their own go to the end as they are. -/
private theorem entries_update {table : Table Key Value} {entries : List (Key × Value)}
    (distinct : ((table.entries ++ entries).map Prod.fst).Nodup) :
    (table.update entries).entries = table.entries ++ entries := by
  induction entries generalizing table with
  | nil => simp [update]
  | cons entry entries ih =>
    have absent : entry.1 ∉ table.entries.map Prod.fst := by
      rw [List.map_append, List.nodup_append] at distinct
      intro member
      exact distinct.2.2 _ member _ (by simp) rfl
    have put : (table.put entry.1 entry.2).entries = table.entries ++ [entry] :=
      replaced_of_absent entry.2 absent
    rw [update, List.foldl_cons, ← update, ih (by simpa [put] using distinct), put]
    simp

/-- The same values under other keys. -/
def rename {Name : Type} (rename : Key → Name) (injective : Function.Injective rename)
    (table : Table Key Value) : Table Name Value where
  entries := table.entries.map fun entry => (rename entry.1, entry.2)
  distinct := by
    have apart := List.Pairwise.map (S := (· ≠ ·)) rename (fun _ _ => injective.ne) table.distinct
    simpa [List.Nodup, Function.comp_def] using apart

/-- A table is the table of its entries. -/
theorem ofList_entries (table : Table Key Value) : ofList table.entries = table := by
  apply eq_of_entries
  exact entries_update table.distinct

variable {Name : Type} [DecidableEq Name] {rename : Key → Name}

private theorem replaced_rename (injective : Function.Injective rename) (key : Key) (value : Value)
    (entries : List (Key × Value)) :
    replaced (rename key) value (entries.map fun entry => (rename entry.1, entry.2)) =
      (replaced key value entries).map fun entry => (rename entry.1, entry.2) := by
  induction entries with
  | nil => rfl
  | cons entry entries ih =>
    by_cases here : entry.1 = key
    · simp [replaced, here]
    · simp [replaced, here, injective.ne here, ih]

theorem update_rename (injective : Function.Injective rename) (table : Table Key Value)
    (entries : List (Key × Value)) :
    (table.rename rename injective).update (entries.map fun entry => (rename entry.1, entry.2)) =
      (table.update entries).rename rename injective := by
  induction entries generalizing table with
  | nil => rfl
  | cons entry entries ih =>
    have put : (table.rename rename injective).put (rename entry.1) entry.2 =
        (table.put entry.1 entry.2).rename rename injective :=
      eq_of_entries (replaced_rename injective entry.1 entry.2 table.entries)
    rw [List.map_cons, update, List.foldl_cons, ← update, put, ih]
    rfl

theorem ofList_rename (injective : Function.Injective rename) (entries : List (Key × Value)) :
    ofList (entries.map fun entry => (rename entry.1, entry.2)) =
      (ofList entries).rename rename injective :=
  update_rename injective empty entries

end Table
end Abacus
