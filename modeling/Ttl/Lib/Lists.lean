import Mathlib.Data.List.Forall2
import Mathlib.Data.List.Perm.Basic
import Mathlib.Data.List.Nodup

/-!
# Lists in parts

A list that is grouped by a key (`flatMap_filter_perm`), two lists of which each is the other with some elements
removed and others added (`perm_of_changes`), what a `filterMap` keeps, the lengths of lists without duplicates, and
lists that are put together from parts, with a separator
between them (`intercalate_append`) or parts of one length (`flatMap_injective`).
-/

namespace Lists

variable {α β γ κ : Type*}

/-- What contributes nothing can be left out. -/
theorem flatMap_filter_ne_nil {f : α → List β} {p : α → Bool} (h : ∀ a, p a = false → f a = [])
    (l : List α) : (l.filter p).flatMap f = l.flatMap f := by
  induction l with
  | nil => rfl
  | cons a l ih =>
    rw [List.flatMap_cons, ← ih]
    cases hp : p a with
    | true => rw [List.filter_cons_of_pos hp, List.flatMap_cons]
    | false =>
      rw [List.filter_cons_of_neg (by rw [hp]; exact Bool.false_ne_true), h a hp]
      rfl

/-- Grouped by key, a list has the same elements. -/
theorem flatMap_filter_perm [DecidableEq κ] {key : α → κ} {keys : List κ} (hkeys : keys.Nodup)
    {l : List α} (h : ∀ a ∈ l, key a ∈ keys) : (keys.flatMap fun k => l.filter fun a => key a = k).Perm l := by
  induction keys generalizing l with
  | nil =>
    rw [List.eq_nil_iff_forall_not_mem.mpr fun a ha => List.not_mem_nil (h a ha)]
    exact List.Perm.refl _
  | cons k keys ih =>
    obtain ⟨hfresh, hkeys⟩ := List.nodup_cons.mp hkeys
    have hrest : ∀ k' ∈ keys, (l.filter fun a => key a = k') =
        (l.filter fun a => ! decide (key a = k)).filter fun a => key a = k' := by
      intro k' hk'
      rw [List.filter_filter]
      refine List.filter_congr fun a _ => ?_
      by_cases ha : key a = k'
      · have hne : key a ≠ k := fun hak => hfresh (hak ▸ ha ▸ hk')
        simp [ha, ha ▸ hne]
      · simp [ha]
    rw [List.flatMap_cons, List.flatMap_congr hrest]
    refine ((ih hkeys ?_).append_left _).trans (List.filter_append_perm (fun a => decide (key a = k)) l)
    intro a ha
    obtain ⟨ha, hne⟩ := List.mem_filter.mp ha
    refine (List.mem_cons.mp (h a ha)).resolve_left fun hak => ?_
    simp [hak] at hne

/-- A list is another one without what is removed and with what is added. -/
theorem perm_of_changes [DecidableEq α] {l l' removed added : List α} (hl : l.Nodup) (hl' : l'.Nodup)
    (hremoved : removed = l.filter fun a => a ∉ l') (hadded : added = l'.filter fun a => a ∉ l) :
    l'.Perm ((l.filter fun a => a ∉ removed) ++ added) := by
  have hkept : ∀ a, (a ∈ l.filter fun a => a ∉ removed) ↔ a ∈ l ∧ a ∈ l' := by
    intro a
    rw [List.mem_filter, hremoved, decide_eq_true_eq, List.mem_filter, decide_eq_true_eq, not_and, not_not]
    exact and_congr_right fun ha => ⟨fun h => h ha, fun h _ => h⟩
  have hnew : ∀ a, a ∈ added ↔ a ∈ l' ∧ a ∉ l := by
    intro a
    rw [hadded, List.mem_filter, decide_eq_true_eq]
  refine (List.perm_ext_iff_of_nodup hl' ?_).mpr fun a => ?_
  · have hdisjoint : ∀ a ∈ l.filter fun a => a ∉ removed, ∀ b ∈ added, a ≠ b := by
      rintro a ha b hb rfl
      exact ((hnew a).mp hb).2 ((hkept a).mp ha).1
    exact List.nodup_append.mpr ⟨hl.filter _, hadded ▸ hl'.filter _, hdisjoint⟩
  · rw [List.mem_append, hkept, hnew]
    by_cases ha : a ∈ l <;> simp [ha]

/-- What a `filterMap` makes of its elements has their marks, in their order. -/
theorem map_filterMap_sublist {f : α → Option β} {g : β → γ} {k : α → γ} (h : ∀ a b, f a = some b → g b = k a)
    (l : List α) : ((l.filterMap f).map g).Sublist (l.map k) := by
  induction l with
  | nil => exact List.Sublist.refl _
  | cons a l ih =>
    cases ha : f a with
    | none =>
      rw [List.filterMap_cons_none ha]
      exact ih.cons _
    | some b =>
      rw [List.filterMap_cons_some ha, List.map_cons, List.map_cons, h a b ha]
      exact ih.cons_cons _

/-- A list without duplicates is longer than one when two different elements are on it. -/
theorem one_lt_length_iff {l : List α} (h : l.Nodup) : 1 < l.length ↔ ∃ a ∈ l, ∃ b ∈ l, a ≠ b := by
  constructor
  · intro hlength
    obtain _ | ⟨a, _ | ⟨b, l⟩⟩ := l
    · cases hlength
    · exact absurd hlength (Nat.lt_irrefl 1)
    · have hne : a ≠ b := fun heq => (List.nodup_cons.mp h).1 (heq ▸ List.mem_cons_self)
      exact ⟨a, List.mem_cons_self, b, List.mem_cons_of_mem _ List.mem_cons_self, hne⟩
  · rintro ⟨a, ha, b, hb, hne⟩
    obtain _ | ⟨c, _ | ⟨d, l⟩⟩ := l
    · cases ha
    · exact absurd ((List.mem_singleton.mp ha).trans (List.mem_singleton.mp hb).symm) hne
    · exact Nat.succ_lt_succ (Nat.succ_pos _)

/-- Lists without duplicates that have the same elements are equally long. -/
theorem length_eq_of_nodup {l l' : List α} (h : l.Nodup) (h' : l'.Nodup) (hmem : ∀ a, a ∈ l ↔ a ∈ l') :
    l.length = l'.length := ((List.perm_ext_iff_of_nodup h h').mpr hmem).length_eq

/-- Parts may be joined in two steps. -/
theorem intercalate_append {sep : List α} {xs ys : List (List α)} (hxs : xs ≠ []) (hys : ys ≠ []) :
    List.intercalate sep (xs ++ ys) = List.intercalate sep xs ++ sep ++ List.intercalate sep ys := by
  obtain ⟨x, xs, rfl⟩ := List.exists_cons_of_ne_nil hxs
  clear hxs
  induction xs generalizing x with
  | nil => rw [List.singleton_append, List.intercalate_cons_of_ne_nil hys, List.intercalate_singleton]
  | cons y xs ih =>
    rw [List.cons_append, List.cons_append, List.intercalate_cons_cons, ← List.cons_append, ih,
      List.intercalate_cons_cons]
    simp only [List.append_assoc]

/-- A joined text is no longer than its parts and separators. -/
theorem length_intercalate_le {sep : List α} {parts : List (List α)} {n : ℕ} (h : ∀ part ∈ parts, part.length ≤ n) :
    (List.intercalate sep parts).length ≤ parts.length * (n + sep.length) := by
  induction parts with
  | nil => exact Nat.zero_le _
  | cons part parts ih =>
    obtain ⟨hpart, hparts⟩ := List.forall_mem_cons.mp h
    rw [List.length_cons, Nat.add_one_mul]
    by_cases hnil : parts = []
    · rw [hnil, List.intercalate_singleton]
      omega
    · rw [List.intercalate_cons_of_ne_nil hnil, List.length_append, List.length_append]
      have hrest := ih hparts
      omega

/-- Parts that are equally long can be told apart. -/
theorem flatMap_injective {f : α → List β} {n : ℕ} (hn : 0 < n) (hlength : ∀ a, (f a).length = n)
    (hf : Function.Injective f) : Function.Injective fun l : List α => l.flatMap f := by
  have hcons (a : α) (l : List α) : (a :: l).flatMap f ≠ [] := by
    rw [List.flatMap_cons]
    exact List.append_ne_nil_of_left_ne_nil (List.length_pos_iff.mp (by rw [hlength]; exact hn)) _
  intro l
  induction l with
  | nil =>
    intro l' h
    cases l' with
    | nil => rfl
    | cons b l' => exact absurd h.symm (hcons b l')
  | cons a l ih =>
    intro l' h
    cases l' with
    | nil => exact absurd h (hcons a l)
    | cons b l' =>
      obtain ⟨hfirst, hrest⟩ := List.append_inj h ((hlength a).trans (hlength b).symm)
      rw [hf hfirst, ih hrest]

end Lists
