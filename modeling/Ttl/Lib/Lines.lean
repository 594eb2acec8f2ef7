import Mathlib.Data.List.Basic

/-!
# Lines that are ended

A text that is written line by line, and may stop within a line: the lines that are ended by a line feed, and what
stands behind the last of them.
-/

namespace Lines

/-- Lines, each with its line feed. -/
def unlines (lines : List (List Char)) : List Char := lines.flatMap fun line => line ++ ['\n']

/-- The lines that are ended. -/
def ended (text : List Char) : List (List Char) := (text.splitOn '\n').dropLast

/-- What stands behind the last line feed. -/
def unfinished (text : List Char) : List Char := ((text.splitOn '\n').getLast?).getD []

/-- A line and more. -/
theorem unlines_cons (line : List Char) (lines : List (List Char)) :
    unlines (line :: lines) = line ++ '\n' :: unlines lines := by
  rw [unlines, List.flatMap_cons, List.append_assoc, List.singleton_append, ← unlines]

/-- The parts of a text that stops within a line. -/
theorem splitOn_unlines {lines : List (List Char)} (h : ∀ line ∈ lines, '\n' ∉ line) {part : List Char}
    (hpart : '\n' ∉ part) : (unlines lines ++ part).splitOn '\n' = lines ++ [part] := by
  induction lines with
  | nil => exact List.splitOn_eq_singleton hpart
  | cons line lines ih =>
    obtain ⟨hline, h⟩ := List.forall_mem_cons.mp h
    rw [unlines_cons, List.append_assoc, List.cons_append, List.splitOn_append_cons_self,
      List.splitOn_eq_singleton hline, ih h, List.singleton_append, List.cons_append]

/-- The lines that were ended are those that are found, and the rest is what was not. -/
theorem ended_unlines {lines : List (List Char)} (h : ∀ line ∈ lines, '\n' ∉ line) {part : List Char}
    (hpart : '\n' ∉ part) : ended (unlines lines ++ part) = lines ∧ unfinished (unlines lines ++ part) = part := by
  have hsplit := splitOn_unlines h hpart
  constructor
  · rw [ended, hsplit, List.dropLast_concat]
  · rw [unfinished, hsplit, List.getLast?_concat, Option.getD_some]

/-- **A text that is cut** is some of its lines, and a part of the next one. -/
theorem exists_take_unlines {lines : List (List Char)} (h : ∀ line ∈ lines, '\n' ∉ line) (n : ℕ) :
    ∃ k part, (unlines lines).take n = unlines (lines.take k) ++ part ∧ '\n' ∉ part := by
  induction lines generalizing n with
  | nil => exact ⟨0, [], List.take_nil, List.not_mem_nil⟩
  | cons line lines ih =>
    obtain ⟨hline, h⟩ := List.forall_mem_cons.mp h
    rw [unlines_cons]
    rcases Nat.lt_or_ge line.length n with hlt | hle
    · -- The line is written with its line feed.
      obtain ⟨k, part, htake, hpart⟩ := ih h (n - line.length - 1)
      obtain ⟨m, hm⟩ : ∃ m, n - line.length = m + 1 := Nat.exists_eq_succ_of_ne_zero (by omega)
      refine ⟨k + 1, part, ?_, hpart⟩
      rw [hm, Nat.add_sub_cancel] at htake
      rw [List.take_append, List.take_of_length_le (Nat.le_of_lt hlt), hm, List.take_succ_cons, htake,
        List.take_succ_cons,
        unlines_cons, List.append_assoc, List.cons_append]
    · refine ⟨0, line.take n, ?_, fun hmem => hline (List.mem_of_mem_take hmem)⟩
      have hnone : n - line.length = 0 := Nat.sub_eq_zero_of_le hle
      rw [List.take_append, hnone, List.take_zero, List.append_nil]
      rfl

end Lines
