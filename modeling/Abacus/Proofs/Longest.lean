import Abacus.Proofs.Numerals
import Abacus.Proofs.Spelling
import Mathlib.Data.List.Induction

/-! Longest starts. The start of a text that is a number literal, or that can still become a
function or a variable, is known to be the longest of its kind by the character behind it alone,
since every start of a literal or of a name is one again. -/

namespace Abacus

/-- The longest start of a text that is of a kind. -/
structure Longest (kind : Text → Bool) (text start : Text) : Prop where
  begins : start <+: text
  member : kind start = true
  longest : ∀ other, other <+: text → kind other = true → other.length ≤ start.length

theorem Longest.unique {kind : Text → Bool} {text start other : Text}
    (longest : Longest kind text start) (otherLongest : Longest kind text other) :
    start = other := by
  have shorter := otherLongest.longest start longest.begins longest.member
  have longer := longest.longest other otherLongest.begins otherLongest.member
  have within := List.prefix_of_prefix_length_le longest.begins otherLongest.begins shorter
  exact within.eq_of_length (Nat.le_antisymm shorter longer)

/-- Every start of a text of the kind is of the kind, unless it is empty. -/
def StartClosed (kind : Text → Bool) : Prop :=
  ∀ start more, start ≠ [] → kind (start ++ more) = true → kind start = true

/-- A start is the longest of its kind exactly if the next character does not prolong it. -/
theorem longest_append_iff {kind : Text → Bool} (closed : StartClosed kind) {start rest : Text} :
    Longest kind (start ++ rest) start ↔
      kind start = true ∧ ∀ char ∈ rest.head?, kind (start ++ [char]) = false := by
  constructor
  · rintro ⟨-, member, longest⟩
    refine ⟨member, ?_⟩
    intro char next
    rw [Bool.eq_false_iff]
    intro prolonged
    obtain ⟨others, rfl⟩ := List.head?_eq_some_iff.mp next
    have bound := longest (start ++ [char]) ⟨others, by simp⟩ prolonged
    rw [List.length_append, List.length_singleton] at bound
    omega
  · rintro ⟨member, stops⟩
    refine ⟨List.prefix_append .., member, ?_⟩
    intro other begins known
    apply Nat.le_of_not_lt
    intro longer
    obtain ⟨more, rfl⟩ := List.prefix_of_prefix_length_le (List.prefix_append start rest) begins
      (Nat.le_of_lt longer)
    cases more with
    | nil => simp at longer
    | cons char more =>
      obtain ⟨others, rest⟩ := (List.prefix_append_right_inj start).mp begins
      have prolonged := closed (start ++ [char]) more (by simp) (by simpa using known)
      rw [stops char (by simp [← rest])] at prolonged
      cases prolonged

/-- A start is still the longest where the same character follows, or one that ends it. -/
theorem Longest.follow {kind : Text → Bool} (closed : StartClosed kind) {start rest others : Text}
    (longest : Longest kind (start ++ rest) start)
    (follows : ∀ char ∈ others.head?, char ∈ rest.head? ∨ kind (start ++ [char]) = false) :
    Longest kind (start ++ others) start := by
  obtain ⟨member, stop⟩ := (longest_append_iff closed).mp longest
  apply (longest_append_iff closed).mpr
  refine ⟨member, ?_⟩
  intro char next
  rcases follows char next with same | ends
  · exact stop char same
  · exact ends

/-- Of a kind with the empty text, every text has a longest start. -/
theorem exists_longest {kind : Text → Bool} (empty : kind [] = true) (text : Text) :
    ∃ start, Longest kind text start := by
  induction text using List.reverseRecOn with
  | nil => exact ⟨[], List.nil_prefix, empty, fun other begins _ => begins.length_le⟩
  | append_singleton text char ih =>
    by_cases whole : kind (text ++ [char]) = true
    · exact ⟨text ++ [char], List.prefix_rfl, whole, fun other begins _ => begins.length_le⟩
    · obtain ⟨start, begins, member, longest⟩ := ih
      refine ⟨start, begins.trans (List.prefix_append ..), member, ?_⟩
      intro other otherBegins known
      rcases List.prefix_concat_iff.mp otherBegins with rfl | shorter
      · exact absurd known whole
      · exact longest other shorter known

namespace Text

theorem takeWhile_digits {digits rest : Text} (all : Digits digits) :
    (digits ++ rest).takeWhile Unicode.isDigit = digits ++ rest.takeWhile Unicode.isDigit :=
  List.takeWhile_append_of_pos all

/-- Number literals begin with a digit. -/
theorem isDigit_of_isNumeral {char : Char} {rest : Text}
    (numeral : isNumeral (char :: rest) = true) : Unicode.isDigit char = true := by
  by_contra other
  rw [isNumeral_eq_false (Bool.eq_false_iff.mpr other)] at numeral
  cases numeral

theorem numeral_ne_nil {digit : Char} {rest : Text} (isDigit : Unicode.isDigit digit = true) :
    (numeral (digit :: rest)).1 ≠ [] := by
  unfold numeral
  rw [List.takeWhile_cons_of_pos isDigit]
  split <;> simp_all

/-- Digits in front of what is neither a digit nor a point. -/
theorem numeral_whole {whole rest : Text} (nonempty : whole ≠ []) (digits : Digits whole)
    (stop : ∀ char ∈ rest.head?, Unicode.isDigit char = false ∧ char ≠ '.') :
    numeral (whole ++ rest) = (whole, rest) := by
  obtain ⟨digit, more, rfl⟩ := List.exists_cons_of_ne_nil nonempty
  unfold numeral
  rw [takeWhile_digits digits, List.dropWhile_append_of_pos digits]
  cases rest with
  | nil => simp
  | cons char rest =>
    obtain ⟨other, point⟩ := stop char rfl
    simp [other, point]

/-- Digits, a point and what follows. -/
theorem numeral_point {whole rest : Text} (nonempty : whole ≠ []) (digits : Digits whole) :
    numeral (whole ++ '.' :: rest) = (whole ++ '.' :: rest.takeWhile Unicode.isDigit,
      rest.dropWhile Unicode.isDigit) := by
  have point : Unicode.isDigit '.' = false := by decide
  obtain ⟨digit, more, rfl⟩ := List.exists_cons_of_ne_nil nonempty
  unfold numeral
  rw [takeWhile_digits digits, List.dropWhile_append_of_pos digits]
  simp [point]

theorem isNumeral_iff {text : Text} : text.isNumeral = true ↔
    ∃ whole, whole ≠ [] ∧ Digits whole ∧
      (text = whole ∨ ∃ fraction, Digits fraction ∧ text = whole ++ '.' :: fraction) := by
  constructor
  · exact exists_digits_of_isNumeral
  · rintro ⟨whole, nonempty, digits, rfl | ⟨fraction, fractionDigits, rfl⟩⟩
    · have read := @numeral_whole text [] nonempty digits (by simp)
      rw [List.append_nil] at read
      simp [isNumeral, read, nonempty]
    · have taken := List.takeWhile_eq_self_iff.mpr fractionDigits
      have dropped := List.dropWhile_eq_nil_iff.mpr fractionDigits
      simp [isNumeral, numeral_point nonempty digits, taken, dropped]

theorem startClosed_isNumeral : StartClosed isNumeral := by
  intro start more nonempty known
  obtain ⟨whole, wholeNonempty, digits, same⟩ := isNumeral_iff.mp known
  have within {between : Text} (parts : whole = start ++ between) : isNumeral start = true :=
    isNumeral_iff.mpr ⟨start, nonempty, fun char member => digits char (by simp [parts, member]),
      .inl rfl⟩
  rcases same with same | ⟨fraction, fractionDigits, same⟩
  · exact within same.symm
  · rcases List.append_eq_append_iff.mp same with ⟨between, parts, -⟩ | ⟨between, rfl, parts⟩
    · exact within parts
    · cases between with
      | nil => exact isNumeral_iff.mpr ⟨whole, wholeNonempty, digits, .inl (by simp)⟩
      | cons char between =>
        obtain ⟨rfl, rfl⟩ := List.cons.inj parts
        exact isNumeral_iff.mpr ⟨whole, wholeNonempty, digits, .inr ⟨between,
          fun char member => fractionDigits char (by simp [member]), rfl⟩⟩

/-- Digits are the longest literal in front of what is neither a digit nor a point. -/
theorem longest_whole {whole rest : Text} (nonempty : whole ≠ []) (digits : Digits whole)
    (stop : ∀ char ∈ rest.head?, Unicode.isDigit char = false ∧ char ≠ '.') :
    Longest isNumeral (whole ++ rest) whole := by
  apply (longest_append_iff startClosed_isNumeral).mpr
  refine ⟨isNumeral_iff.mpr ⟨whole, nonempty, digits, .inl rfl⟩, ?_⟩
  intro char next
  rw [Bool.eq_false_iff]
  intro prolonged
  obtain ⟨other, point⟩ := stop char next
  rcases digit_or_point prolonged char (by simp) with digit | same
  · rw [other] at digit
    cases digit
  · exact point same

/-- Behind the point of a literal, only digits are part of it. -/
theorem longest_point {whole fraction rest : Text} (nonempty : whole ≠ [])
    (digits : Digits whole) (fractionDigits : Digits fraction)
    (stop : ∀ char ∈ rest.head?, Unicode.isDigit char = false) :
    Longest isNumeral (whole ++ '.' :: fraction ++ rest) (whole ++ '.' :: fraction) := by
  apply (longest_append_iff startClosed_isNumeral).mpr
  refine ⟨isNumeral_iff.mpr ⟨whole, nonempty, digits, .inr ⟨fraction, fractionDigits, rfl⟩⟩, ?_⟩
  intro char next
  rw [List.append_assoc, List.cons_append, isNumeral, numeral_point nonempty digits,
    List.dropWhile_append_of_pos fractionDigits]
  simp [stop char next]

/-- The literal that is read first is the longest one. -/
theorem longest_numeral {text : Text} (nonempty : text.numeral.1 ≠ []) :
    Longest isNumeral text text.numeral.1 := by
  have stops (text : Text) : ∀ char ∈ (text.dropWhile Unicode.isDigit).head?,
      Unicode.isDigit char = false := by
    intro char next
    have other := List.head?_dropWhile_not Unicode.isDigit text
    rwa [next] at other
  have parts := List.takeWhile_append_dropWhile (p := Unicode.isDigit) (l := text)
  have digits : Digits (text.takeWhile Unicode.isDigit) := fun _ => List.mem_takeWhile_imp
  have first : text.takeWhile Unicode.isDigit ≠ [] := by
    intro none
    apply nonempty
    simp [numeral, none]
  have other := stops text
  generalize text.takeWhile Unicode.isDigit = whole at parts digits first
  generalize text.dropWhile Unicode.isDigit = rest at parts other
  subst parts
  by_cases point : rest.head? = some '.'
  · obtain ⟨more, rfl⟩ := List.head?_eq_some_iff.mp point
    have fraction : Digits (more.takeWhile Unicode.isDigit) := fun _ => List.mem_takeWhile_imp
    have longest := longest_point first digits fraction (stops more)
    rw [List.append_assoc, List.cons_append, List.takeWhile_append_dropWhile] at longest
    rw [numeral_point first digits]
    exact longest
  · have stop : ∀ char ∈ rest.head?, Unicode.isDigit char = false ∧ char ≠ '.' := by
      intro char next
      refine ⟨other char next, ?_⟩
      rintro rfl
      exact point next
    rw [numeral_whole first digits stop]
    exact longest_whole first digits stop

end Text
end Abacus
