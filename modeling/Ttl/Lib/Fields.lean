import Mathlib.Data.List.Forall2
import Mathlib.Data.List.TakeWhile

/-!
# Records of fields

A record is a text of fields with a separator between them and blanks around them. Which characters separate and which
are blank are parameters, and a text is a list over any alphabet. `read_of_writes` reads the fields back from every text
that writes them.
-/

namespace Fields

variable {α : Type*} {p : α → Bool} {l before after : List α}

/-- The list without what is to be stripped at either end. -/
def strip (p : α → Bool) (l : List α) : List α := ((l.dropWhile p).reverse.dropWhile p).reverse

/-- A list that has nothing to be stripped at either end. -/
def Bare (p : α → Bool) (l : List α) : Prop := (∀ x ∈ l.head?, p x = false) ∧ ∀ x ∈ l.getLast?, p x = false

instance [DecidableEq α] : Decidable (Bare p l) := inferInstanceAs (Decidable (_ ∧ _))

/-- What is before a list that does not begin so is dropped, and of the list nothing. -/
theorem dropWhile_append_bare (hbefore : ∀ x ∈ before, p x = true) (hl : ∀ x ∈ l.head?, p x = false) (hne : l ≠ []) :
    (before ++ l).dropWhile p = l := by
  obtain ⟨x, l, rfl⟩ := List.exists_cons_of_ne_nil hne
  rw [List.dropWhile_append_of_pos hbefore, List.dropWhile_cons_of_neg (by rw [hl x rfl]; exact Bool.false_ne_true)]

/-- What is around a bare list is stripped. -/
theorem strip_append (hbefore : ∀ x ∈ before, p x = true) (hl : Bare p l) (hafter : ∀ x ∈ after, p x = true) :
    strip p (before ++ l ++ after) = l := by
  have hreverse : ∀ x ∈ after.reverse, p x = true := fun x hx => hafter x (List.mem_reverse.mp hx)
  unfold strip
  obtain rfl | hne := eq_or_ne l []
  · -- Where nothing is left, the first pass drops all.
    have hall : (before ++ [] ++ after).dropWhile p = [] := by
      rw [List.append_nil, List.dropWhile_eq_nil_iff]
      intro x hx
      exact (List.mem_append.mp hx).elim (hbefore x) (hafter x)
    rw [hall]
    rfl
  · have hhead : ∀ x ∈ (l ++ after).head?, p x = false := by
      rw [List.head?_append_of_ne_nil _ hne]
      exact hl.1
    rw [List.append_assoc, dropWhile_append_bare hbefore hhead (List.append_ne_nil_of_left_ne_nil hne _),
      List.reverse_append, dropWhile_append_bare hreverse (by rw [List.head?_reverse]; exact hl.2)
        (List.reverse_ne_nil_iff.mpr hne), List.reverse_reverse]

variable {sep : α} {text : List α} {fields : List (List α)}

/-- A field with blanks around it. -/
def Padded (blank : α → Bool) (piece field : List α) : Prop :=
  ∃ before after, piece = before ++ field ++ after ∧ (∀ x ∈ before, blank x = true) ∧ ∀ x ∈ after, blank x = true

/-- A text that writes the fields. -/
def Writes (sep : α) (blank : α → Bool) (text : List α) (fields : List (List α)) : Prop :=
  ∃ pieces, text = List.intercalate [sep] pieces ∧ List.Forall₂ (Padded blank) pieces fields

/-- A separator that is no blank and not in the field is not in the padded field. -/
theorem Padded.notMem {piece field : List α} (h : Padded p piece field) (hsep : p sep = false) (hplain : sep ∉ field) :
    sep ∉ piece := by
  obtain ⟨before, after, rfl, hbefore, hafter⟩ := h
  have hblank {l : List α} (hl : ∀ x ∈ l, p x = true) : sep ∉ l := fun hmem => by
    rw [hl sep hmem] at hsep
    cases hsep
  rw [List.mem_append, List.mem_append, not_or, not_or]
  exact ⟨⟨hblank hbefore, hplain⟩, hblank hafter⟩

/-- A separator that is no blank and in no field is in none of the padded fields. -/
theorem notMem_pieces {pieces : List (List α)} (hsep : p sep = false) (hpieces : List.Forall₂ (Padded p) pieces fields)
    (hplain : ∀ field ∈ fields, sep ∉ field) : ∀ piece ∈ pieces, sep ∉ piece := by
  induction hpieces with
  | nil => exact fun piece hpiece => absurd hpiece List.not_mem_nil
  | cons hpadded _ ih =>
    obtain ⟨hfirst, hrest⟩ := List.forall_mem_cons.mp hplain
    exact List.forall_mem_cons.mpr ⟨hpadded.notMem hsep hfirst, ih hrest⟩

/-- The fields of a record. -/
def read [DecidableEq α] (sep : α) (blank : α → Bool) (text : List α) : List (List α) :=
  (text.splitOn sep).map (strip blank)

/-- **Fields are read back** that neither hold the separator nor begin or end with a blank. -/
theorem read_of_writes [DecidableEq α] (hsep : p sep = false) (hwrites : Writes sep p text fields) (hne : fields ≠ [])
    (hbare : ∀ field ∈ fields, Bare p field) (hplain : ∀ field ∈ fields, sep ∉ field) :
    read sep p text = fields := by
  obtain ⟨pieces, rfl, hpieces⟩ := hwrites
  have hpiece := notMem_pieces hsep hpieces hplain
  have hpiecesne : pieces ≠ [] := fun hnil => hne (by rw [hnil] at hpieces; exact List.forall₂_nil_left_iff.mp hpieces)
  rw [read, List.splitOn_intercalate sep hpiece hpiecesne]
  clear hpiece hpiecesne hne
  induction hpieces with
  | nil => rfl
  | cons hpadded _ ih =>
    obtain ⟨before, after, rfl, hbefore, hafter⟩ := hpadded
    obtain ⟨hfirst, hrest⟩ := List.forall_mem_cons.mp hbare
    rw [List.map_cons, strip_append hbefore hfirst hafter, ih hrest (List.forall_mem_cons.mp hplain).2]

end Fields
