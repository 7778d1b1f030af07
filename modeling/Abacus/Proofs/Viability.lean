import Abacus.Proofs.Longest
import Abacus.Proofs.Writing

/-! The first lexeme of a text: a symbol, the longest number literal, or the longest start that can
still become a function or a variable, if it is one. Otherwise the text is blocked. -/

namespace Abacus

/-- What is said of a text that is blocked at a position: all of it can still become a name, or its
next character keeps it from becoming one. -/
def LexError.found (position : Nat) (start : Text) : Text → LexError
  | [] => .unterminated start position
  | char :: _ => .unrecognized (start ++ [char]) position

theorem LexError.position_found (position : Nat) (start rest : Text) :
    (LexError.found position start rest).position = position := by
  cases rest <;> rfl

/-- The message shows what can still become a name, and one more character if there is one. -/
theorem LexError.message_found (position : Nat) (start rest : Text) :
    (LexError.found position start rest).message =
      (if rest = [] then "unterminated token ".toList else "unrecognized symbol ".toList) ++
        Text.quoted (start ++ rest.take 1) ++ " at position ".toList ++ Text.ofNat position := by
  cases rest with
  | nil =>
    rw [if_pos rfl, List.take_nil, List.append_nil]
    rfl
  | cons char rest =>
    rw [if_neg (List.cons_ne_nil char rest)]
    rfl

namespace Registry
variable {registry : Registry}

/-- The text is a variable, or it is not empty and starts the name of a function. -/
def isViable (registry : Registry) (text : Text) : Bool :=
  text.isVariable || !text.isEmpty && registry.startsFunction text

/-- The text is a function or a variable. -/
def isName (registry : Registry) (text : Text) : Bool :=
  registry.isFunction text || text.isVariable

/-- The text is viable or empty. -/
def isStart (registry : Registry) (text : Text) : Bool :=
  text.isEmpty || registry.isViable text

/-- A lexeme that a text leads with. -/
inductive Leads (registry : Registry) (text : Text) : Text → Prop
  | symbol {char : Char} (begins : [char] <+: text) (symbol : registry.isSymbol [char] = true) :
      Leads registry text [char]
  | number {lexeme : Text} (longest : Longest Text.isNumeral text lexeme) :
      Leads registry text lexeme
  | word {lexeme : Text} (longest : Longest registry.isViable text lexeme)
      (named : registry.isName lexeme = true) : Leads registry text lexeme

/-- A text that leads with no lexeme: there is a first character, which is neither a digit nor a
symbol, and the longest viable start is no name. -/
structure Blocks (registry : Registry) (text start : Text) : Prop where
  opening : ∃ char ∈ text.head?, Unicode.isDigit char = false ∧ registry.isSymbol [char] = false
  longest : Longest registry.isStart text start
  nameless : registry.isName start = false

theorem exists_name_of_startsFunction {text : Text} (starts : registry.startsFunction text = true) :
    ∃ name ∈ registry.functions.keys, text <+: name := by
  simpa [startsFunction] using starts

theorem isViable_iff {text : Text} : registry.isViable text = true ↔
    text.isVariable = true ∨ text ≠ [] ∧ registry.startsFunction text = true := by
  simp [isViable]

theorem startClosed_isViable : StartClosed registry.isViable := by
  intro start more nonempty viable
  rcases isViable_iff.mp viable with named | ⟨-, starts⟩
  · obtain ⟨letter, found⟩ := Option.isSome_iff_exists.mp named
    have single := congrArg List.length (Variable.name_of_ofText? found)
    have least := List.length_pos_iff.mpr nonempty
    simp only [Variable.name, List.length_singleton, List.length_append] at single
    obtain rfl : more = [] := List.length_eq_zero_iff.mp (by omega)
    simpa using viable
  · obtain ⟨name, known, begins⟩ := exists_name_of_startsFunction starts
    refine isViable_iff.mpr (.inr ⟨nonempty, ?_⟩)
    simp only [startsFunction, List.any_eq_true, List.isPrefixOf_iff_prefix]
    exact ⟨name, known, (List.prefix_append start more).trans begins⟩

theorem startClosed_isStart : StartClosed registry.isStart := by
  intro start more nonempty known
  have viable : registry.isViable (start ++ more) = true := by simpa [isStart, nonempty] using known
  simp [isStart, startClosed_isViable start more nonempty viable]

/-- Viable texts begin with a letter. -/
theorem isLetter_of_isViable {char : Char} {rest : Text}
    (viable : registry.isViable (char :: rest) = true) : Unicode.isLetter char = true := by
  rcases isViable_iff.mp viable with named | ⟨-, starts⟩
  · obtain ⟨letter, found⟩ := Option.isSome_iff_exists.mp named
    obtain ⟨rfl, -⟩ := List.cons.inj (Variable.name_of_ofText? found)
    exact Unicode.isLetter_of_variable letter.capital
  · obtain ⟨name, known, more, rfl⟩ := exists_name_of_startsFunction starts
    have valid := registry.names_valid _ known
    simp only [Text.isFunctionName, Bool.and_eq_true] at valid
    exact valid.1.2

/-- Viable texts are made of letters and numerals. -/
theorem isAlphanumeric_of_isViable {text : Text} (viable : registry.isViable text = true) :
    ∀ char ∈ text, Unicode.isAlphanumeric char = true := by
  rcases isViable_iff.mp viable with named | ⟨-, starts⟩
  · obtain ⟨letter, found⟩ := Option.isSome_iff_exists.mp named
    obtain rfl := Variable.name_of_ofText? found
    intro char member
    obtain rfl := List.mem_singleton.mp member
    exact Unicode.isAlphanumeric_of_isLetter (Unicode.isLetter_of_variable letter.capital)
  · obtain ⟨name, known, more, rfl⟩ := exists_name_of_startsFunction starts
    have valid := registry.names_valid _ known
    simp only [Text.isFunctionName, Bool.and_eq_true, List.all_eq_true] at valid
    exact fun char member => valid.2 char (List.mem_append_left more member)

/-- Symbols are single characters that stand in no number and in no name. -/
theorem exists_char_of_isSymbol {text : Text} (symbol : registry.isSymbol text = true) :
    ∃ char, text = [char] ∧ Unicode.isAlphanumeric char = false ∧ char ≠ '.' := by
  have operator (valid : text.isOperatorSymbol = true) :
      ∃ char, text = [char] ∧ Unicode.isAlphanumeric char = false ∧ char ≠ '.' := by
    obtain ⟨char, rfl, alphanumeric, -⟩ := Text.isOperatorSymbol_iff.mp valid
    exact ⟨char, rfl, alphanumeric, (Text.operator_char valid).2.2.1⟩
  simp only [isSymbol, isBinary, isUnary, Bool.or_eq_true, Table.contains_iff] at symbol
  rcases symbol with (binary | unary) | bracket
  · exact operator (registry.symbols_valid text (List.mem_append_left _ binary))
  · exact operator (registry.symbols_valid text (List.mem_append_right _ unary))
  · simp only [Text.isBracket, Bool.or_eq_true, beq_iff_eq] at bracket
    rcases bracket with rfl | rfl
    · exact ⟨'(', rfl, by decide +kernel, by decide⟩
    · exact ⟨')', rfl, by decide +kernel, by decide⟩

theorem isDigit_eq_false_of_isSymbol {char : Char} (symbol : registry.isSymbol [char] = true) :
    Unicode.isDigit char = false := by
  obtain ⟨char, same, alphanumeric, -⟩ := exists_char_of_isSymbol symbol
  obtain rfl := List.singleton_inj.mp same
  simp only [Unicode.isAlphanumeric, Bool.or_eq_false_iff] at alphanumeric
  exact alphanumeric.1.2

theorem startsFunction_of_isFunction {text : Text} (known : registry.isFunction text = true) :
    registry.startsFunction text = true := by
  simp only [startsFunction, List.any_eq_true, List.isPrefixOf_iff_prefix]
  exact ⟨text, Table.contains_iff.mp known, List.prefix_rfl⟩

/-- A candidate that starts with no digit is read on exactly while it is viable. -/
theorem goesOn_iff {char : Char} {rest : Text} (other : Unicode.isDigit char = false) :
    (registry.isWord (char :: rest) || registry.startsFunction (char :: rest)) =
      registry.isViable (char :: rest) := by
  cases known : registry.isFunction (char :: rest) with
  | true => simp [isViable, isWord, known, startsFunction_of_isFunction known]
  | false => simp [isViable, isWord, known, Text.isNumeral_eq_false other]

theorem isWord_of_isDigit_eq_false {char : Char} {rest : Text}
    (other : Unicode.isDigit char = false) :
    registry.isWord (char :: rest) = registry.isName (char :: rest) := by
  simp [isWord, isName, Text.isNumeral_eq_false other]

/-- No number literal holds a symbol. -/
theorem isNumeral_symbol {char : Char} (text : Text) (symbol : registry.isSymbol [char] = true) :
    Text.isNumeral (text ++ [char]) = false := by
  rw [Bool.eq_false_iff]
  intro numeral
  obtain ⟨single, same, -, point⟩ := exists_char_of_isSymbol symbol
  obtain rfl := List.singleton_inj.mp same
  rcases Text.digit_or_point numeral char (by simp) with digit | same
  · rw [isDigit_eq_false_of_isSymbol symbol] at digit
    cases digit
  · exact point same

/-- No viable text holds a symbol. -/
theorem isViable_symbol {char : Char} (text : Text) (symbol : registry.isSymbol [char] = true) :
    registry.isViable (text ++ [char]) = false := by
  rw [Bool.eq_false_iff]
  intro viable
  obtain ⟨single, same, other, -⟩ := exists_char_of_isSymbol symbol
  obtain rfl := List.singleton_inj.mp same
  rw [isAlphanumeric_of_isViable viable char (by simp)] at other
  cases other

theorem isSymbol_eq_false_of_isViable {text : Text} (viable : registry.isViable text = true) :
    registry.isSymbol text = false := by
  rw [Bool.eq_false_iff]
  intro symbol
  obtain ⟨char, rfl, -⟩ := exists_char_of_isSymbol symbol
  have other := isViable_symbol [] symbol
  rw [List.nil_append, viable] at other
  cases other

/-- The scanner reads on behind a text. -/
def GoesOn (registry : Registry) (text : Text) : Prop :=
  registry.isSymbol text = false ∧
    (registry.isWord text || registry.startsFunction text) = true

/-- The scanner reads through a text if it reads on behind each of its starts. -/
theorem scan_through {kind : Text → Bool} (closed : StartClosed kind)
    (goesOn : ∀ text, text ≠ [] → kind text = true → registry.GoesOn text) {position : Nat}
    {taken more rest : Text} (known : kind (taken ++ more) = true) :
    registry.scan position taken (more ++ rest) = registry.scan position (taken ++ more) rest := by
  induction more generalizing taken with
  | nil => simp
  | cons char more ih =>
    have parts : taken ++ char :: more = taken ++ [char] ++ more := by simp
    rw [parts] at known ⊢
    obtain ⟨alone, grows⟩ := goesOn (taken ++ [char]) (by simp) (closed _ more (by simp) known)
    rw [List.cons_append, scan]
    simp only [alone, grows, ↓reduceIte, Bool.false_eq_true]
    exact ih known

/-- The scanner goes on through what is viable. -/
theorem goesOn_of_isStart {text : Text} (nonempty : text ≠ [])
    (known : registry.isStart text = true) : registry.GoesOn text := by
  have viable : registry.isViable text = true := by simpa [isStart, nonempty] using known
  obtain ⟨first, others, rfl⟩ := List.exists_cons_of_ne_nil nonempty
  refine ⟨isSymbol_eq_false_of_isViable viable, ?_⟩
  rw [goesOn_iff (Unicode.isDigit_eq_false_of_isLetter (isLetter_of_isViable viable)), viable]

/-- What the scanner makes of the longest start that is viable or empty. -/
theorem scan_eq {position : Nat} {start rest : Text}
    (opening : ∃ char ∈ (start ++ rest).head?,
      Unicode.isDigit char = false ∧ registry.isSymbol [char] = false)
    (longest : Longest registry.isStart (start ++ rest) start) :
    registry.scan position [] (start ++ rest) =
      if registry.isName start = true then .ok (start, rest)
      else .error (.found position start rest) := by
  obtain ⟨known, stop⟩ := (longest_append_iff startClosed_isStart).mp longest
  obtain ⟨first, atFront, other, notSymbol⟩ := opening
  rw [scan_through startClosed_isStart (fun _ => goesOn_of_isStart) (by simpa using known),
    List.nil_append]
  have word : registry.isWord start = registry.isName start := by
    cases start with
    | nil => simp [isWord, isName]
    | cons char start =>
      obtain rfl : char = first := by simpa using atFront
      exact isWord_of_isDigit_eq_false other
  cases rest with
  | nil => rw [scan, word, LexError.found]
  | cons char rest =>
    have same : (start ++ [char]).head? = some first := by
      cases start <;> simpa using atFront
    obtain ⟨others, candidate⟩ := List.head?_eq_some_iff.mp same
    have notViable : registry.isViable (start ++ [char]) = false := by
      have ends := stop char rfl
      simp only [isStart, Bool.or_eq_false_iff] at ends
      exact ends.2
    -- A symbol is a single character, and the first one is none.
    have alone : registry.isSymbol (start ++ [char]) = false := by
      rw [Bool.eq_false_iff]
      intro symbol
      obtain ⟨single, same, -⟩ := exists_char_of_isSymbol symbol
      obtain ⟨rfl, rfl⟩ := List.cons.inj (same.symm.trans candidate)
      rw [candidate, notSymbol] at symbol
      cases symbol
    have stops : (registry.isWord (start ++ [char]) ||
        registry.startsFunction (start ++ [char])) = false := by
      rw [candidate] at notViable ⊢
      rw [goesOn_iff other, notViable]
    rw [scan]
    simp only [alone, stops, word, LexError.found, ↓reduceIte, Bool.false_eq_true]

/-- How the first lexeme is found, by the first character. -/
theorem next_cons (registry : Registry) (position : Nat) (char : Char) (text : Text) :
    (Unicode.isDigit char = true ∧
      registry.next position (char :: text) = .ok (Text.numeral (char :: text))) ∨
    (registry.isSymbol [char] = true ∧
      registry.next position (char :: text) = .ok ([char], text)) ∨
    (Unicode.isDigit char = false ∧ registry.isSymbol [char] = false ∧
      ∃ start rest, start ++ rest = char :: text ∧
        Longest registry.isStart (char :: text) start ∧
        registry.next position (char :: text) =
          if registry.isName start = true then .ok (start, rest)
          else .error (.found position start rest)) := by
  by_cases digit : Unicode.isDigit char = true
  · exact .inl ⟨digit, by simp [next, Text.numeral_ne_nil digit]⟩
  · rw [Bool.not_eq_true] at digit
    by_cases symbol : registry.isSymbol [char] = true
    · exact .inr (.inl ⟨symbol, next_symbol symbol digit position text⟩)
    · rw [Bool.not_eq_true] at symbol
      have startable : registry.isStart [] = true := rfl
      obtain ⟨start, longest⟩ := exists_longest startable (char :: text)
      obtain ⟨rest, parts⟩ := longest.begins
      refine .inr (.inr ⟨digit, symbol, start, rest, parts, longest, ?_⟩)
      rw [← parts] at longest
      have opening : ∃ char ∈ (start ++ rest).head?,
          Unicode.isDigit char = false ∧ registry.isSymbol [char] = false :=
        ⟨char, by simp [parts], digit, symbol⟩
      simp only [next, Text.numeral_other digit, List.isEmpty_nil, ↓reduceIte]
      rw [← parts, scan_eq opening longest]

theorem isName_nil : registry.isName [] = false := by
  simp [isName, isFunction_nil, Text.isVariable, Variable.ofText?]

theorem isViable_of_isName {text : Text} (named : registry.isName text = true) :
    registry.isViable text = true := by
  have nonempty : text ≠ [] := by
    rintro rfl
    rw [isName_nil] at named
    cases named
  rcases Bool.or_eq_true_iff.mp named with function | letter
  · exact isViable_iff.mpr (.inr ⟨nonempty, startsFunction_of_isFunction function⟩)
  · exact isViable_iff.mpr (.inl letter)

theorem longest_isStart_iff {text start : Text} (nonempty : start ≠ []) :
    Longest registry.isStart text start ↔ Longest registry.isViable text start := by
  constructor
  · rintro ⟨begins, member, longest⟩
    refine ⟨begins, by simpa [isStart, nonempty] using member, ?_⟩
    intro other otherBegins viable
    exact longest other otherBegins (by simp [isStart, viable])
  · rintro ⟨begins, member, longest⟩
    refine ⟨begins, by simp [isStart, member], ?_⟩
    intro other otherBegins known
    cases other with
    | nil => simp
    | cons char other => exact longest _ otherBegins (by simpa [isStart] using known)

/-- The longest number literal is read. -/
theorem next_numeral {position : Nat} {lexeme rest : Text}
    (longest : Longest Text.isNumeral (lexeme ++ rest) lexeme) :
    registry.next position (lexeme ++ rest) = .ok (lexeme, rest) := by
  cases lexeme with
  | nil => cases longest.member
  | cons char lexeme =>
    rw [List.cons_append] at longest ⊢
    have digit := Text.isDigit_of_isNumeral longest.member
    rcases registry.next_cons position char (lexeme ++ rest) with ⟨-, first⟩ |
      ⟨symbol, -⟩ | ⟨other, -⟩
    · have same := longest.unique (Text.longest_numeral (@Text.numeral_ne_nil char _ digit))
      have whole := Text.numeral_append (char :: (lexeme ++ rest))
      rw [← same, ← List.cons_append] at whole
      rw [first]
      exact congrArg Except.ok (Prod.ext same.symm (List.append_cancel_left whole))
    · rw [isDigit_eq_false_of_isSymbol symbol] at digit
      cases digit
    · rw [other] at digit
      cases digit

/-- The longest viable start is read if it is a name. -/
theorem next_name {position : Nat} {lexeme rest : Text}
    (longest : Longest registry.isViable (lexeme ++ rest) lexeme)
    (named : registry.isName lexeme = true) :
    registry.next position (lexeme ++ rest) = .ok (lexeme, rest) := by
  cases lexeme with
  | nil =>
    rw [isName_nil] at named
    cases named
  | cons char lexeme =>
    have farthest := (longest_isStart_iff (by simp)).mpr longest
    rcases registry.next_cons position char (lexeme ++ rest) with ⟨digit, -⟩ |
      ⟨symbol, -⟩ | ⟨-, -, start, others, parts, startLongest, first⟩
    · have letter := isLetter_of_isViable longest.member
      rw [Unicode.isDigit_eq_false_of_isLetter letter] at digit
      cases digit
    · have viable := startClosed_isViable [char] lexeme (by simp) longest.member
      rw [isSymbol_eq_false_of_isViable viable] at symbol
      cases symbol
    · obtain rfl := startLongest.unique farthest
      obtain rfl := List.append_cancel_left parts
      rw [List.cons_append, first, if_pos named]

/-- The lexeme that a text leads with is the one that is read. -/
theorem next_of_leads {position : Nat} {lexeme rest : Text}
    (leads : registry.Leads (lexeme ++ rest) lexeme) :
    registry.next position (lexeme ++ rest) = .ok (lexeme, rest) := by
  cases leads with
  | symbol begins symbol =>
    exact next_symbol symbol (isDigit_eq_false_of_isSymbol symbol) position rest
  | number longest => exact next_numeral longest
  | word longest named => exact next_name longest named

/-- A text leads with the lexeme that is read. -/
theorem leads_of_next {position : Nat} {text lexeme rest : Text}
    (found : registry.next position text = .ok (lexeme, rest)) : registry.Leads text lexeme := by
  cases text with
  | nil => simp [next, Text.numeral, scan, isWord_nil] at found
  | cons char text =>
    rcases registry.next_cons position char text with ⟨digit, first⟩ |
      ⟨symbol, first⟩ | ⟨-, -, start, others, -, longest, first⟩
    · rw [first, Except.ok.injEq] at found
      have longest := Text.longest_numeral (@Text.numeral_ne_nil char text digit)
      rw [found] at longest
      exact .number longest
    · rw [first] at found
      cases found
      exact .symbol (List.prefix_append [char] rest) symbol
    · rw [first] at found
      split at found
      · rename_i named
        cases found
        have nonempty : lexeme ≠ [] := by
          rintro rfl
          rw [isName_nil] at named
          cases named
        exact .word ((longest_isStart_iff nonempty).mp longest) named
      · cases found

/-- A text with a first character is blocked exactly if no lexeme is read. -/
theorem next_eq_error_iff {position : Nat} {text : Text} (nonempty : text ≠ []) {error : LexError} :
    registry.next position text = .error error ↔
      ∃ start rest, start ++ rest = text ∧ registry.Blocks text start ∧
        error = .found position start rest := by
  obtain ⟨char, text, rfl⟩ := List.exists_cons_of_ne_nil nonempty
  rcases registry.next_cons position char text with ⟨digit, first⟩ | ⟨symbol, first⟩ |
    ⟨other, notSymbol, start, rest, parts, longest, first⟩
  · rw [first]
    constructor
    · intro found
      cases found
    · rintro ⟨start, rest, -, ⟨⟨_, ⟨⟩, other, -⟩, -, -⟩, -⟩
      rw [digit] at other
      cases other
  · rw [first]
    constructor
    · intro found
      cases found
    · rintro ⟨start, rest, -, ⟨⟨_, ⟨⟩, -, notSymbol⟩, -, -⟩, -⟩
      rw [symbol] at notSymbol
      cases notSymbol
  · rw [first]
    constructor
    · intro found
      split at found
      · cases found
      · rename_i nameless
        cases found
        exact ⟨start, rest, parts, ⟨⟨char, rfl, other, notSymbol⟩, longest,
          Bool.eq_false_iff.mpr nameless⟩, rfl⟩
    · rintro ⟨otherStart, otherRest, otherParts, ⟨-, otherLongest, nameless⟩, rfl⟩
      obtain rfl := otherLongest.unique longest
      obtain rfl := List.append_cancel_left (otherParts.trans parts.symm)
      rw [if_neg (by simp [nameless])]

end Registry
end Abacus
