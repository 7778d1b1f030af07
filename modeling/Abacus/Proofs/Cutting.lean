import Abacus.Lexeme
import Abacus.Proofs.Viability
import Abacus.Registry.Standard

/-! The lexemes of a text: each leads what is left of the normal form from it on, and what follows
a lexeme matters by its first character only. -/

namespace Abacus.Registry
variable {registry : Registry}

/-- Each lexeme leads what is left of the text from it on, down to the rest. -/
def Cut (registry : Registry) : List Text → Text → Prop
  | [], _ => True
  | lexeme :: lexemes, rest =>
    registry.Leads (lexeme ++ (lexemes.flatten ++ rest)) lexeme ∧ registry.Cut lexemes rest

theorem Leads.ne_nil {text lexeme : Text} (leads : registry.Leads text lexeme) : lexeme ≠ [] := by
  cases leads with
  | symbol => simp
  | number longest =>
    rintro rfl
    cases longest.member
  | word longest named =>
    rintro rfl
    rw [isName_nil] at named
    cases named

/-- A lexeme still leads where the same character follows it, or a symbol, or nothing. -/
theorem Leads.follow {lexeme rest others : Text} (leads : registry.Leads (lexeme ++ rest) lexeme)
    (follows : ∀ char ∈ others.head?, char ∈ rest.head? ∨ registry.isSymbol [char] = true) :
    registry.Leads (lexeme ++ others) lexeme := by
  cases leads with
  | symbol _ symbol => exact .symbol (List.prefix_append ..) symbol
  | number longest =>
    apply Leads.number
    apply longest.follow Text.startClosed_isNumeral
    exact fun char next => (follows char next).imp_right (isNumeral_symbol lexeme)
  | word longest named =>
    refine .word (longest.follow startClosed_isViable ?_) named
    exact fun char next => (follows char next).imp_right (isViable_symbol lexeme)

theorem Cut.follow {lexemes : List Text} {rest others : Text} (cut : registry.Cut lexemes rest)
    (follows : ∀ char ∈ others.head?, char ∈ rest.head? ∨ registry.isSymbol [char] = true) :
    registry.Cut lexemes others := by
  induction lexemes with
  | nil => trivial
  | cons lexeme lexemes ih =>
    obtain ⟨leads, cut⟩ := cut
    refine ⟨leads.follow ?_, ih cut⟩
    intro char next
    cases inner : lexemes.flatten with
    | nil =>
      rw [inner] at next
      exact follows char next
    | cons first text =>
      rw [inner] at next
      exact .inl next

theorem Cut.ne_nil {lexemes : List Text} {rest : Text} (cut : registry.Cut lexemes rest) :
    [] ∉ lexemes := by
  induction lexemes with
  | nil => simp
  | cons lexeme lexemes ih =>
    have nonempty := cut.1.ne_nil
    simp [nonempty.symm, ih cut.2]

/-- What is cut off is read, and then the rest. -/
theorem lexemesFrom_of_cut {lexemes : List Text} {rest : Text} (cut : registry.Cut lexemes rest)
    (position : Nat) : registry.lexemesFrom position (lexemes.flatten ++ rest) =
      (registry.lexemesFrom (position + lexemes.flatten.length) rest).map (lexemes ++ ·) := by
  induction lexemes generalizing position with
  | nil => cases read : registry.lexemesFrom position rest <;> simp [read, Except.map]
  | cons lexeme lexemes ih =>
    obtain ⟨leads, cut⟩ := cut
    rw [List.flatten_cons, List.append_assoc, lexemesFrom_cons (next_of_leads leads), ih cut,
      List.length_append, ← Nat.add_assoc]
    cases registry.lexemesFrom (position + lexeme.length + lexemes.flatten.length) rest <;> rfl

/-- The lexemes of a text make it up, and each leads what is left from it on. -/
theorem lexemesFrom_eq_ok_iff {position : Nat} {text : Text} {lexemes : List Text} :
    registry.lexemesFrom position text = .ok lexemes ↔
      lexemes.flatten = text ∧ registry.Cut lexemes [] := by
  constructor
  · intro found
    refine ⟨flatten_of_lexemesFrom found, ?_⟩
    fun_induction registry.lexemesFrom position text generalizing lexemes with
    | case1 =>
      cases found
      trivial
    | case2 => cases found
    | case3 position text _ lexeme rest first _ ih =>
      obtain ⟨others, later, rfl⟩ := Outcome.map_eq_ok_iff.mp found
      refine ⟨?_, ih later⟩
      rw [List.append_nil, flatten_of_lexemesFrom later, next_append first]
      exact leads_of_next first
  · rintro ⟨rfl, cut⟩
    have read := lexemesFrom_of_cut cut position
    simpa [Except.map] using read

theorem lexemesFrom_blocked {position : Nat} {text : Text} (nonempty : text ≠ [])
    {error : LexError} (found : registry.next position text = .error error) :
    registry.lexemesFrom position text = .error error := by
  rw [lexemesFrom]
  split
  · simp_all
  · split <;> simp_all

/-- A text is refused exactly if it is blocked behind some lexemes. -/
theorem lexemesFrom_eq_error_iff {position : Nat} {text : Text} {error : LexError} :
    registry.lexemesFrom position text = .error error ↔
      ∃ before start rest, before.flatten ++ (start ++ rest) = text ∧
        registry.Cut before (start ++ rest) ∧ registry.Blocks (start ++ rest) start ∧
        error = .found (position + before.flatten.length) start rest := by
  constructor
  · intro found
    fun_induction registry.lexemesFrom position text with
    | case1 => cases found
    | case2 position text nonempty other first =>
      cases found
      obtain ⟨start, rest, parts, blocks, same⟩ :=
        (next_eq_error_iff (by simpa using nonempty)).mp first
      subst parts
      exact ⟨[], start, rest, rfl, trivial, blocks, by simpa using same⟩
    | case3 position text _ lexeme later first _ ih =>
      have read := Outcome.map_eq_error_iff.mp found
      obtain ⟨before, start, rest, parts, cut, blocks, rfl⟩ := ih read
      have leads := leads_of_next first
      rw [← next_append first, ← parts] at leads ⊢
      refine ⟨lexeme :: before, start, rest, by simp, ⟨leads, cut⟩, blocks, ?_⟩
      rw [List.flatten_cons, List.length_append, Nat.add_assoc]
  · rintro ⟨before, start, rest, rfl, cut, blocks, rfl⟩
    rw [lexemesFrom_of_cut cut]
    obtain ⟨char, atFront, -⟩ := blocks.opening
    have nonempty : start ++ rest ≠ [] := by
      intro empty
      simp [empty] at atFront
    have first : registry.next (position + before.flatten.length) (start ++ rest) =
        .error (.found (position + before.flatten.length) start rest) :=
      (next_eq_error_iff nonempty).mpr ⟨start, rest, rfl, blocks, rfl⟩
    rw [lexemesFrom_blocked nonempty first]
    rfl

theorem lexemes_eq_ok_iff {source : Text} {lexemes : List Text} :
    registry.lexemes source = .ok lexemes ↔
      lexemes.flatten = source.normalized ∧ registry.Cut lexemes [] :=
  lexemesFrom_eq_ok_iff

/-- A start of a normal form is in normal form itself. -/
theorem lexemes_take_iff {source : Text} {position : Nat} {lexemes : List Text} :
    registry.lexemes (source.normalized.take position) = .ok lexemes ↔
      lexemes.flatten = source.normalized.take position ∧ registry.Cut lexemes [] := by
  rw [lexemes_eq_ok_iff, Text.normalized_of_subset (List.take_subset position source.normalized)]

/-- The lexemes of a text make up its normal form, and each of them is a symbol, the longest number
literal or the longest viable start of what is left from it on. A text is refused exactly if it is
blocked at a position, up to which it has lexemes, and the message shows what is blocked there. -/
theorem lexemes_longest (registry : Registry) (source : Text) :
    (∀ lexemes, registry.lexemes source = .ok lexemes ↔
      [] ∉ lexemes ∧ lexemes.flatten = source.normalized ∧ registry.Cut lexemes []) ∧
    (∀ error, registry.lexemes source = .error error ↔
      error.position < source.normalized.length ∧ ∃ before start rest,
        registry.lexemes (source.normalized.take error.position) = .ok before ∧
        source.normalized.drop error.position = start ++ rest ∧
        registry.Cut before (start ++ rest) ∧ registry.Blocks (start ++ rest) start ∧
        error = .found error.position start rest ∧
        error.message =
          (if rest = [] then "unterminated token ".toList else "unrecognized symbol ".toList) ++
            Text.quoted (start ++ rest.take 1) ++ " at position ".toList ++
            Text.ofNat error.position) := by
  constructor
  · intro lexemes
    rw [lexemes_eq_ok_iff]
    constructor
    · rintro ⟨whole, cut⟩
      exact ⟨cut.ne_nil, whole, cut⟩
    · rintro ⟨-, whole, cut⟩
      exact ⟨whole, cut⟩
  · intro error
    rw [Registry.lexemes, lexemesFrom_eq_error_iff]
    constructor
    · rintro ⟨before, start, rest, whole, cut, blocks, rfl⟩
      obtain ⟨char, atFront, -⟩ := blocks.opening
      obtain ⟨others, same⟩ := List.head?_eq_some_iff.mp atFront
      have taken : source.normalized.take before.flatten.length = before.flatten := by
        rw [← whole, List.take_left]
      have dropped : source.normalized.drop before.flatten.length = start ++ rest := by
        rw [← whole, List.drop_left]
      have length := congrArg List.length whole
      rw [same, List.length_append, List.length_cons] at length
      simp only [LexError.position_found, Nat.zero_add, LexError.message_found]
      refine ⟨by omega, before, start, rest, ?_, dropped, cut, blocks, rfl, rfl⟩
      exact lexemes_take_iff.mpr ⟨taken.symm, cut.follow (by simp)⟩
    · rintro ⟨inside, before, start, rest, earlier, later, cut, blocks, found, -⟩
      obtain ⟨taken, -⟩ := lexemes_take_iff.mp earlier
      have length : before.flatten.length = error.position := by
        rw [taken, List.length_take_of_le (Nat.le_of_lt inside)]
      refine ⟨before, start, rest, ?_, cut, blocks, ?_⟩
      · rw [taken, ← later, List.take_append_drop]
      · rw [Nat.zero_add, length]
        exact found

/-- A function starts with `SI`, and none with `SIX`. -/
example : Registry.standard.lexemes "2 six".toList = .error (.unrecognized "SIX".toList 1) := by
  decide +kernel

end Abacus.Registry
