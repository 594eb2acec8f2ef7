import Mathlib.Data.List.Basic

/-!
# An editor on a list

A list with a cursor between two of its elements, which is held as the elements before the cursor and those after it,
so that the cursor is always within the list. The five operations insert an element before the cursor, delete the one
before it or after it, and move over one. At an end that has no such element they do nothing.
-/

/-- A list with a cursor. -/
structure Zipper (α : Type*) where
  before : List α
  after : List α

/-- What is done at the cursor. -/
inductive Edit (α : Type*) where
  | insert (a : α)
  | backspace
  | delete
  | left
  | right

namespace Zipper

variable {α : Type*}

/-- The list. -/
def toList (z : Zipper α) : List α := z.before ++ z.after

/-- The number of elements before the cursor. -/
def cursor (z : Zipper α) : ℕ := z.before.length

/-- A list with the cursor at its end. -/
def atEnd (l : List α) : Zipper α := ⟨l, []⟩

/-- One operation. -/
def edit (z : Zipper α) : Edit α → Zipper α
  | .insert a => ⟨z.before ++ [a], z.after⟩
  | .backspace => ⟨z.before.dropLast, z.after⟩
  | .delete => ⟨z.before, z.after.tail⟩
  | .left =>
    match z.before.getLast? with
    | some a => ⟨z.before.dropLast, a :: z.after⟩
    | none => z
  | .right =>
    match z.after with
    | a :: rest => ⟨z.before ++ [a], rest⟩
    | [] => z

/-- Operations one after the other. -/
def editAll (z : Zipper α) (ops : List (Edit α)) : Zipper α := ops.foldl edit z

/-- Edits are done one after the other. -/
theorem editAll_cons (z : Zipper α) (op : Edit α) (ops : List (Edit α)) :
    z.editAll (op :: ops) = (z.edit op).editAll ops := rfl

example : ((atEnd [1, 2, 3]).editAll [.left, .left, .backspace, .insert 7, .delete]).toList = [7, 3] := rfl

/-- The cursor is before the first element, or after one. -/
theorem before_cases (z : Zipper α) : z.before = [] ∨ ∃ before a, z.before = before ++ [a] := by
  cases hlast : z.before.getLast? with
  | none => exact .inl (List.getLast?_eq_none_iff.mp hlast)
  | some a =>
    obtain ⟨before, hbefore⟩ := List.getLast?_eq_some_iff.mp hlast
    exact .inr ⟨before, a, hbefore⟩

end Zipper
