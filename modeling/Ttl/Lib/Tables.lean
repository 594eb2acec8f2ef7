import Ttl.Lib.Collections

/-!
# Tables

A table is a list of rows that have keys. `collect` makes a hash map of it, in which a row replaces the rows before it
that have the same key, so that the map holds a table's last row of each key (`lookup_collect`).
-/

namespace Tables

variable {α K V : Type*} {key : α → K} {value : α → V} {rows : List α} {row : α}

/-- A row of the table, after which none has the same key. -/
def IsLast (key : α → K) (rows : List α) (row : α) : Prop :=
  ∃ before after, rows = before ++ row :: after ∧ ∀ r ∈ after, key r ≠ key row

/-- A last row is a row. -/
theorem IsLast.mem (h : IsLast key rows row) : row ∈ rows := by
  obtain ⟨before, after, rfl, -⟩ := h
  exact List.mem_append_right _ List.mem_cons_self

/-- One row more is the last one of its key, and leaves those of the other keys. -/
theorem isLast_concat {r : α} : IsLast key (rows ++ [r]) row ↔ row = r ∨ IsLast key rows row ∧ key row ≠ key r := by
  constructor
  · rintro ⟨before, after, hrows, hafter⟩
    rcases List.eq_nil_or_concat' after with rfl | ⟨after, last, rfl⟩
    · -- The new row is the row itself.
      exact .inl (List.singleton_inj.mp (List.append_inj_right' hrows rfl)).symm
    · rw [← List.cons_append, ← List.append_assoc] at hrows
      obtain ⟨hfront, hlast⟩ := List.append_inj' hrows rfl
      obtain rfl := List.singleton_inj.mp hlast
      have hne := hafter r (List.mem_append_right _ (List.mem_singleton_self r))
      exact .inr ⟨⟨before, after, hfront, fun r' hr' => hafter r' (List.mem_append_left _ hr')⟩, hne.symm⟩
  · rintro (rfl | ⟨⟨before, after, rfl, hafter⟩, hne⟩)
    · exact ⟨rows, [], rfl, fun r hr => absurd hr List.not_mem_nil⟩
    · refine ⟨before, after ++ [r], by rw [List.append_assoc, List.cons_append], fun r' hr' => ?_⟩
      rcases List.mem_append.mp hr' with hmem | hmem
      · exact hafter r' hmem
      · rw [List.mem_singleton.mp hmem]
        exact hne.symm

variable [DecidableEq K]

/-- The map of the rows' values by the rows' keys. -/
def collect (key : α → K) (value : α → V) (rows : List α) : KeyMap K V :=
  rows.foldl (fun m r => m.insert (key r) (value r)) ∅

/-- **A table as a map:** under a key is the value of the last row that has it. -/
theorem lookup_collect {k : K} {v : V} :
    (collect key value rows).lookup k = some v ↔ ∃ row, IsLast key rows row ∧ key row = k ∧ value row = v := by
  induction rows using List.reverseRecOn with
  | nil =>
    refine iff_of_false (Option.some_ne_none v).symm ?_
    rintro ⟨row, hlast, -⟩
    exact absurd hlast.mem List.not_mem_nil
  | append_singleton rows r ih =>
    have hinsert : collect key value (rows ++ [r]) = (collect key value rows).insert (key r) (value r) := by
      rw [collect, List.foldl_append]
      rfl
    simp only [isLast_concat]
    rw [hinsert, KeyMap.lookup_insert]
    split_ifs with hk
    · constructor
      · intro hv
        exact ⟨r, .inl rfl, hk.symm, Option.some.inj hv⟩
      · rintro ⟨row, rfl | ⟨-, hne⟩, hkey, hvalue⟩
        · exact congrArg some hvalue
        · exact absurd (hkey.trans hk) hne
    · rw [ih]
      constructor
      · rintro ⟨row, hlast, hkey, hvalue⟩
        exact ⟨row, .inr ⟨hlast, fun h => hk (hkey.symm.trans h)⟩, hkey, hvalue⟩
      · rintro ⟨row, rfl | ⟨hlast, -⟩, hkey, hvalue⟩
        · exact absurd hkey.symm hk
        · exact ⟨row, hlast, hkey, hvalue⟩

end Tables
