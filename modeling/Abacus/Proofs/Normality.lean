import Abacus.Lexeme.Normal
import Abacus.Table
import Mathlib.Data.List.Basic
import Mathlib.Data.List.TakeWhile

/-! Normal forms are normal: nothing that stands in the normal form of a text is changed when it is
brought into normal form again. -/

namespace Abacus

namespace Unicode

/-- The code points of the runs' capitals are those of characters, above all marks and layout. -/
private theorem capital_bounds : ∀ run ∈ caseRuns, run.first ≤ run.last ∧ 0x41 ≤ run.capital ∧
    (run.capital + (run.last - run.first) < 0xD800 ∨
      0xDFFF < run.capital ∧ run.capital + (run.last - run.first) < 0x110000) := by
  decide +kernel

/-- The code points from one to another hold no character of a run, or they are of the other parity
than the run, which is then one of every second character. -/
private def CaseRun.besides (low high : Nat) (single : Bool) (run : CaseRun) : Bool :=
  Nat.blt high run.first || Nat.blt run.last low ||
    (single && Nat.beq run.stride 2 && low % 2 != run.first % 2)

/-- The capitals of a run have no other capitals. -/
private theorem capitals_beside_runs : (caseRuns.all fun run => caseRuns.all <|
    CaseRun.besides run.capital (run.capital + (run.last - run.first))
      (Nat.beq run.stride 2 || Nat.beq run.first run.last)) = true := by
  decide +kernel

private theorem capitals_beside_expansions : (caseRuns.all fun run => expansions.all fun longer =>
    Nat.blt longer.1 run.capital ||
      Nat.blt (run.capital + (run.last - run.first)) longer.1) = true := by
  decide +kernel

/-- The characters of longer capitals have no other capitals, and are no marks or layout. -/
private theorem capital_expansions : ∀ code ∈ (expansions.flatMap Prod.snd).eraseDups,
    0x41 ≤ (Char.ofNat code).toNat ∧ capital (Char.ofNat code) = [Char.ofNat code] := by
  decide +kernel

private theorem toNat_ofNat {code : Nat}
    (valid : code < 0xD800 ∨ 0xDFFF < code ∧ code < 0x110000) : (Char.ofNat code).toNat = code := by
  rw [Char.ofNat, dif_pos valid]
  rfl

/-- A character with a capital in a run stands for that capital. -/
private theorem capital_of_run {run : CaseRun} {code : Nat} (member : run ∈ caseRuns)
    (holds : run.holds code = true) : 0x41 ≤ run.capital + (code - run.first) ∧
      (Char.ofNat (run.capital + (code - run.first))).toNat = run.capital + (code - run.first) ∧
      capital (Char.ofNat (run.capital + (code - run.first))) =
        [Char.ofNat (run.capital + (code - run.first))] := by
  obtain ⟨ordered, above, valid⟩ := capital_bounds run member
  simp only [CaseRun.holds, Bool.and_eq_true, decide_eq_true_eq, beq_iff_eq] at holds
  obtain ⟨⟨low, high⟩, step⟩ := holds
  have same : (Char.ofNat (run.capital + (code - run.first))).toNat =
      run.capital + (code - run.first) := toNat_ofNat (by omega)
  refine ⟨by omega, same, ?_⟩
  have short : expansions.lookup (run.capital + (code - run.first)) = none := by
    apply List.lookup_eq_none_iff.mpr
    intro longer present
    have beside := List.all_eq_true.mp
      (List.all_eq_true.mp capitals_beside_expansions run member) longer present
    simp only [Bool.or_eq_true, Nat.blt_eq] at beside
    rw [bne_iff_ne]
    omega
  have alone : caseRuns.find? (·.holds (run.capital + (code - run.first))) = none := by
    apply List.find?_eq_none.mpr
    intro other present
    have beside := List.all_eq_true.mp
      (List.all_eq_true.mp capitals_beside_runs run member) other present
    simp only [CaseRun.besides, Bool.or_eq_true, Bool.and_eq_true, Nat.blt_eq, Nat.beq_eq,
      bne_iff_ne] at beside
    simp only [CaseRun.holds, Bool.and_eq_true, decide_eq_true_eq, beq_iff_eq]
    rintro ⟨⟨otherLow, otherHigh⟩, otherStep⟩
    rcases beside with (before | after) | ⟨⟨single, two⟩, parity⟩
    · omega
    · omega
    · rw [two] at otherStep
      rcases single with two | only
      · rw [two] at step
        omega
      · omega
  simp only [capital, same, short, alone]

/-- A character of a capital is its own capital; it is a letter or the character itself. -/
theorem capital_of_mem_capital {char other : Char} (member : char ∈ capital other) :
    capital char = [char] ∧ (char = other ∨ 0x41 ≤ char.toNat) := by
  unfold capital at member
  split at member
  · rename_i codes longer
    obtain ⟨code, present, rfl⟩ := List.mem_map.mp member
    obtain ⟨above, fixed⟩ := capital_expansions code <| List.mem_eraseDups.mpr <|
      List.mem_flatMap.mpr ⟨_, Table.mem_of_lookup longer, present⟩
    exact ⟨fixed, .inr above⟩
  · rename_i short
    split at member
    · rename_i run found
      have holds : run.holds other.toNat = true := by simpa using List.find?_some found
      obtain ⟨above, same, fixed⟩ := capital_of_run (List.mem_of_find?_eq_some found) holds
      rw [List.mem_singleton.mp member]
      exact ⟨fixed, .inr (above.trans_eq same.symm)⟩
    · rename_i alone
      obtain rfl := List.mem_singleton.mp member
      exact ⟨by simp only [capital, short, alone], .inl rfl⟩

/-- Capitals are their own capitals. -/
theorem upper_upper (text : Text) : upper (upper text) = upper text := by
  have fixed (char : Char) : upper (capital char) = capital char := by
    have same : upper (capital char) = (capital char).flatMap fun other => [other] :=
      List.flatMap_congr fun other member => (capital_of_mem_capital member).1
    simpa using same
  calc
    upper (upper text) = text.flatMap fun char => upper (capital char) := List.flatMap_assoc
    _ = upper text := List.flatMap_congr fun char _ => fixed char

end Unicode

/-- A character that a normal form can hold: no comma, no layout, and its own capital. -/
structure Settled (char : Char) : Prop where
  point : withPoint char = char
  visible : isLayout char = false
  capital : Unicode.capital char = [char]

theorem withPoint_withPoint (char : Char) : withPoint (withPoint char) = withPoint char := by
  by_cases point : Text.isPoint char = true
  · simp [withPoint, point]
  · simp [withPoint, point]

namespace Text

theorem normalized_of_settled {text : Text} (settled : ∀ char ∈ text, Settled char) :
    text.normalized = text := by
  induction text with
  | nil => rfl
  | cons char text ih =>
    have rest := ih fun other member => settled other (by simp [member])
    obtain ⟨point, visible, capital⟩ := settled char (by simp)
    have alone : normalized [char] = [char] := by
      simp [normalized, point, visible, Unicode.upper, capital]
    rw [← List.singleton_append, normalized_append, alone, rest]

theorem settled_of_mem_normalized {source : Text} {char : Char}
    (member : char ∈ source.normalized) : Settled char := by
  obtain ⟨other, written, inside⟩ := List.mem_flatMap.mp member
  obtain ⟨mapped, visible⟩ := List.mem_filter.mp written
  obtain ⟨original, -, rfl⟩ := List.mem_map.mp mapped
  obtain ⟨fixed, rfl | above⟩ := Unicode.capital_of_mem_capital inside
  · exact ⟨withPoint_withPoint original, by simpa using visible, fixed⟩
  · -- A comma, a space or a line end stands before the letters.
    have other (mark : Char) (below : mark.toNat < 0x41) : char ≠ mark := by
      rintro rfl
      omega
    refine ⟨?_, ?_, fixed⟩
    · simp [withPoint, isPoint, other ',' (by decide), other '.' (by decide)]
    · simp [isLayout, other ' ' (by decide), other '\t' (by decide), other '\r' (by decide),
        other '\n' (by decide)]

/-- A piece of a normal form is its own normal form. -/
theorem normalized_of_subset {source text : Text} (inside : text ⊆ source.normalized) :
    text.normalized = text :=
  normalized_of_settled fun _ member => settled_of_mem_normalized (inside member)

end Text
end Abacus
