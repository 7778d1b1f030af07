/-! Texts are sequences of code points, so that lengths and positions count code points. -/

namespace Abacus

/-- A text, code point by code point. -/
abbrev Text := List Char

namespace Text

/-- Without the characters of a class at either end. -/
def trim (class? : Char → Bool) (text : Text) : Text :=
  ((text.dropWhile class?).reverse.dropWhile class?).reverse

/-- Without the characters of a class at the right end. -/
def trimRight (class? : Char → Bool) (text : Text) : Text :=
  (text.reverse.dropWhile class?).reverse

/-- The parts before and after the first occurrence of a character. -/
def cut? (mark : Char) (text : Text) : Option (Text × Text) :=
  match text.dropWhile (· != mark) with
  | [] => none
  | _ :: after => some (text.takeWhile (· != mark), after)

theorem append_of_cut? {mark : Char} {text before after : Text}
    (found : cut? mark text = some (before, after)) : before ++ mark :: after = text := by
  unfold cut? at found
  split at found
  · cases found
  · rename_i head rest dropped
    cases found
    have parts := List.takeWhile_append_dropWhile (p := (· != mark)) (l := text)
    have stopped := List.head?_dropWhile_not (fun char => char != mark) text
    rw [dropped] at parts stopped
    simp only [List.head?_cons, bne_eq_false_iff_eq] at stopped
    subst stopped
    exact parts

/-- The pieces of a text between the marks; a last piece that is empty does not count. -/
def lines (mark : Char) : Text → List Text
  | [] => []
  | char :: rest =>
    if char = mark then [] :: lines mark rest
    else match lines mark rest with
      | [] => [[char]]
      | line :: others => (char :: line) :: others

theorem lines_mark {mark : Char} {piece : Text} (absent : mark ∉ piece) (rest : Text) :
    lines mark (piece ++ mark :: rest) = piece :: lines mark rest := by
  induction piece with
  | nil => simp [lines]
  | cons char piece ih =>
    have other : char ≠ mark := fun same => absent (by simp [same])
    have later := ih fun member => absent (by simp [member])
    rw [List.cons_append, lines, if_neg other, later]

/-- No piece between marks holds one. -/
theorem not_mem_of_mem_lines {mark : Char} {text piece : Text} (member : piece ∈ lines mark text) :
    mark ∉ piece := by
  induction text generalizing piece with
  | nil => cases member
  | cons char rest ih =>
    unfold lines at member
    split at member
    · rcases List.mem_cons.mp member with rfl | later
      · simp
      · exact ih later
    · rename_i other
      split at member
      · obtain rfl := List.mem_singleton.mp member
        simpa using Ne.symm other
      · rename_i line others found
        rcases List.mem_cons.mp member with rfl | later
        · have plain : mark ∉ line := ih (by simp [found])
          simpa [Ne.symm other] using plain
        · exact ih (by simp [found, later])

/-- The pieces of a list of texts, the separator between each two. -/
def joined (separator : Text) (pieces : List Text) : Text :=
  separator.intercalate pieces

/-- A natural number in decimal digits. -/
def ofNat (number : Nat) : Text :=
  Nat.toDigits 10 number

/-- An integer in decimal digits, with a sign if it is negative. -/
def ofInt : Int → Text
  | .ofNat number => ofNat number
  | .negSucc number => '-' :: ofNat (number + 1)

/-- The last `width` hexadecimal digits of a number. -/
def hexadecimal : Nat → Nat → Text
  | 0, _ => []
  | width + 1, number =>
    hexadecimal width (number / 16) ++ [Nat.digitChar (number % 16)]

/-- The order of a dictionary, character by character in the order of code points. -/
def precedes : Text → Text → Bool
  | [], _ => true
  | _ :: _, [] => false
  | left :: lefts, right :: rights =>
    if left = right then precedes lefts rights else left.toNat < right.toNat

/-- Texts in ascending order. -/
def sorted (texts : List Text) : List Text :=
  texts.mergeSort precedes

end Text
end Abacus
