import Mathlib.Algebra.Ring.Nat
import Mathlib.Data.List.AList
import Mathlib.Data.List.DropRight

/-!
# Hash maps and bounded windows

A hash map is an association list without duplicate keys (`AList` of Mathlib), whose order stands for
the map's iteration order. This module adds what a program's operations on a map need beyond Mathlib:
`modify`, `upsert`, `retain`, `mapValues`, the number of entries that satisfy a predicate and the sum of a
function over the values, with the laws of how each operation changes a lookup, such a number and such a sum.
`pushWindow` is a queue that keeps its newest elements, and `maxByKey` finds the last maximum in iteration
order. `findSome?_eq_bind_find?` splits a search for a value into the search for the element that has one,
and `findSome?_bind` joins a search with what is done with its answer. `min?_concat` and `min?_eq_min?_iff`
are about running minima.
-/

/-- Push `x` at the back of a queue that keeps its newest `cap` elements. -/
def pushWindow {α : Type*} (cap : ℕ) (l : List α) (x : α) : List α :=
  let l := l ++ [x]
  if cap < l.length then l.tail else l

/-- A queue that holds the newest elements of a list keeps to them. -/
theorem pushWindow_rtake {α : Type*} (cap : ℕ) (l : List α) (x : α) :
    pushWindow cap (l.rtake cap) x = (l ++ [x]).rtake cap := by
  have hlength : (l.rtake cap).length = min cap l.length := by
    rw [List.rtake, List.length_drop]
    omega
  cases cap with
  | zero => simp [pushWindow]
  | succ n =>
    rw [List.rtake_concat_succ]
    simp only [pushWindow, List.length_append, List.length_singleton, hlength]
    split_ifs with hfull
    · -- A full window loses its oldest element.
      have hle : n + 1 ≤ l.length := by omega
      have hne : l.rtake (n + 1) ≠ [] := by
        intro h
        rw [h] at hlength
        simp only [List.length_nil] at hlength
        omega
      rw [List.tail_append_of_ne_nil hne]
      unfold List.rtake
      rw [List.tail_drop]
      congr 2
      omega
    · -- One that is not full holds the whole list.
      have hle : l.length ≤ n := by omega
      unfold List.rtake
      rw [Nat.sub_eq_zero_of_le hle, Nat.sub_eq_zero_of_le (Nat.le_succ_of_le hle)]

/-- The element with the largest key, the last one among equals. -/
def maxByKey {α : Type*} (f : α → ℕ) : List α → Option α
  | [] => none
  | a :: l => some (l.foldl (fun best x => if f best ≤ f x then x else best) a)

/-- A search that ends at an answer ends at what the answer stands for. -/
theorem findSome?_bind {α β γ : Type*} {l : List α} {f : α → Option β} {g : β → Option γ}
    (h : ∀ a b, f a = some b → (g b).isSome) :
    (l.findSome? f).bind g = l.findSome? fun a => (f a).bind g := by
  induction l with
  | nil => rfl
  | cons a l ih =>
    rw [List.findSome?_cons, List.findSome?_cons]
    cases hf : f a with
    | none => exact ih
    | some b =>
      obtain ⟨c, hc⟩ := Option.isSome_iff_exists.mp (h a b hf)
      dsimp only
      rw [Option.bind_some, hc]

/-- The first value that `f` has on a list is that of the first element on which it has one. -/
theorem findSome?_eq_bind_find? {α β : Type*} (f : α → Option β) (l : List α) :
    l.findSome? f = (l.find? fun a => (f a).isSome).bind f := by
  induction l with
  | nil => rfl
  | cons a l ih =>
    cases h : f a with
    | none => simp [h, ih]
    | some b => simp [h]

section

variable {α : Type*} [Min α] [LE α] [Std.IsLinearOrder α] [Std.LawfulOrderMin α]

/-- The running minimum, after one more element. -/
theorem min?_concat [LT α] [DecidableLT α] [Std.LawfulOrderLT α] (l : List α) (a : α) :
    (l ++ [a]).min? = match l.min? with
      | none => some a
      | some m => if a < m then some a else some m := by
  cases h : l.min? with
  | none =>
    rw [List.min?_eq_none_iff.mp h]
    rfl
  | some m =>
    obtain ⟨hm, hle⟩ := List.min?_eq_some_iff.mp h
    dsimp only
    split_ifs with hlt
    · -- The new element is below the old minimum, and so below all others.
      refine List.min?_eq_some_iff.mpr ⟨by simp, fun b hb => ?_⟩
      rcases List.mem_append.mp hb with hb | hb
      · exact Std.le_trans (Std.le_of_lt hlt) (hle b hb)
      · rw [List.mem_singleton.mp hb]
        exact Std.le_refl _
    · refine List.min?_eq_some_iff.mpr ⟨List.mem_append_left _ hm, fun b hb => ?_⟩
      rcases List.mem_append.mp hb with hb | hb
      · exact hle b hb
      · rw [List.mem_singleton.mp hb]
        exact Std.not_lt.mp hlt

/-- Two lists have one minimum when each has an element below every element of the other. -/
theorem min?_eq_min?_iff {l m : List α} :
    l.min? = m.min? ↔ (∀ a ∈ l, ∃ b ∈ m, b ≤ a) ∧ ∀ b ∈ m, ∃ a ∈ l, a ≤ b := by
  have hbelow : ∀ {l m : List α}, l.min? = m.min? → ∀ a ∈ l, ∃ b ∈ m, b ≤ a := by
    intro l m h a ha
    cases hl : l.min? with
    | none =>
      rw [List.min?_eq_none_iff.mp hl] at ha
      cases ha
    | some c =>
      exact ⟨c, (List.min?_eq_some_iff.mp (h ▸ hl)).1, (List.min?_eq_some_iff.mp hl).2 a ha⟩
  refine ⟨fun h => ⟨hbelow h, hbelow h.symm⟩, fun ⟨h1, h2⟩ => ?_⟩
  cases hl : l.min? with
  | none =>
    cases hm : m.min? with
    | none => rfl
    | some d =>
      -- An empty list has nothing below an element.
      obtain ⟨a, ha, -⟩ := h2 d (List.min?_eq_some_iff.mp hm).1
      rw [List.min?_eq_none_iff.mp hl] at ha
      cases ha
  | some c =>
    obtain ⟨hc, hcle⟩ := List.min?_eq_some_iff.mp hl
    obtain ⟨b, hb, hbc⟩ := h1 c hc
    cases hm : m.min? with
    | none =>
      rw [List.min?_eq_none_iff.mp hm] at hb
      cases hb
    | some d =>
      obtain ⟨hd, hdle⟩ := List.min?_eq_some_iff.mp hm
      obtain ⟨a, ha, had⟩ := h2 d hd
      rw [Std.le_antisymm (Std.le_trans (hcle a ha) had) (Std.le_trans (hdle b hb) hbc)]

end

/-- A hash map from `K` to `V`. The order of the entries is the iteration order. -/
abbrev KeyMap (K V : Type*) := AList fun _ : K => V

namespace KeyMap

variable {K V : Type*} [DecidableEq K]

/-- Keep the entries that satisfy `p`. -/
def retain (m : KeyMap K V) (p : K → V → Bool) : KeyMap K V :=
  ⟨m.entries.filter fun e => p e.1 e.2, m.nodupKeys.sublist List.filter_sublist⟩

/-- Update the value at `k`, when there is one. -/
def modify (m : KeyMap K V) (k : K) (f : V → V) : KeyMap K V :=
  match m.lookup k with
  | some v => m.insert k (f v)
  | none => m

/-- Update the value at `k`, after inserting the default where there is none. -/
def upsert (m : KeyMap K V) (k : K) (default : V) (f : V → V) : KeyMap K V :=
  m.insert k (f ((m.lookup k).getD default))

/-- Update every value in place, which keeps the iteration order. -/
def mapValues (m : KeyMap K V) (f : K → V → V) : KeyMap K V :=
  ⟨m.entries.map fun e => ⟨e.1, f e.1 e.2⟩, by
    have hkeys : (m.entries.map fun e => (⟨e.1, f e.1 e.2⟩ : Sigma fun _ : K => V)).keys =
        m.entries.keys := by
      rw [List.keys, List.map_map]
      rfl
    rw [List.NodupKeys, hkeys]
    exact m.nodupKeys⟩

/-- The number of entries that satisfy `p`. -/
def count (m : KeyMap K V) (p : K → V → Bool) : ℕ := m.entries.countP fun e => p e.1 e.2

/-- The sum of `f` over the values. -/
def total (m : KeyMap K V) (f : V → ℕ) : ℕ := (m.entries.map fun e => f e.2).sum

/-- An insertion replaces what the map holds at its key and touches nothing else. -/
theorem lookup_insert (m : KeyMap K V) (k : K) (v : V) (k' : K) :
    (m.insert k v).lookup k' = if k' = k then some v else m.lookup k' := by
  split_ifs with h
  · subst h
    exact AList.lookup_insert m
  · exact AList.lookup_insert_ne h

/-- Changing a value changes what is looked up under its key, and under no other. -/
@[simp]
theorem lookup_modify (m : KeyMap K V) (k : K) (f : V → V) (k' : K) :
    (modify m k f).lookup k' = if k' = k then (m.lookup k).map f else m.lookup k' := by
  unfold modify
  cases hk : m.lookup k with
  | none =>
    split_ifs with h
    · subst h
      simp [hk]
    · rfl
  | some v =>
    split_ifs with h
    · subst h
      simp
    · exact AList.lookup_insert_ne h

/-- Modifying a value adds and drops no key. -/
theorem mem_modify (m : KeyMap K V) (k : K) (f : V → V) (k' : K) :
    k' ∈ modify m k f ↔ k' ∈ m := by
  rw [← AList.lookup_isSome, ← AList.lookup_isSome, lookup_modify]
  split_ifs with h
  · subst h
    simp
  · rfl

/-- An update with a default touches its key only. -/
@[simp]
theorem lookup_upsert (m : KeyMap K V) (k : K) (default : V) (f : V → V) (k' : K) :
    (upsert m k default f).lookup k' =
      if k' = k then some (f ((m.lookup k).getD default)) else m.lookup k' :=
  lookup_insert m k _ k'

/-- What `retain` keeps. -/
theorem lookup_retain_eq_some {m : KeyMap K V} {p : K → V → Bool} {k : K} {v : V} :
    (retain m p).lookup k = some v ↔ m.lookup k = some v ∧ p k v = true := by
  have h : ∀ m' : KeyMap K V, m'.lookup k = some v ↔ (⟨k, v⟩ : Sigma fun _ : K => V) ∈ m'.entries :=
    fun m' => AList.mem_lookup_iff
  rw [h, h]
  exact List.mem_filter

/-- A removal empties its key and touches nothing else. -/
theorem lookup_erase (m : KeyMap K V) (k k' : K) :
    (m.erase k).lookup k' = if k' = k then none else m.lookup k' := by
  split_ifs with h
  · subst h
    exact AList.lookup_erase _ m
  · exact AList.lookup_erase_ne h

/-- A key that is not there before an insertion adds the new entry to a count. -/
theorem count_insert {m : KeyMap K V} {k : K} (v : V) (p : K → V → Bool) (h : k ∉ m) :
    count (m.insert k v) p = count m p + if p k v then 1 else 0 := by
  unfold count
  rw [AList.entries_insert_of_notMem h, List.countP_cons]

/-- A removal splits the entries at the one that it takes out. -/
theorem exists_entries_erase {m : KeyMap K V} {k : K} {v : V} (h : m.lookup k = some v) :
    ∃ l₁ l₂, m.entries = l₁ ++ ⟨k, v⟩ :: l₂ ∧ (m.erase k).entries = l₁ ++ l₂ := by
  have hk : k ∈ m.entries.keys := AList.mem_keys.mp (AList.lookup_isSome.mp (by simp [h]))
  obtain ⟨b, l₁, l₂, -, hsplit, herase⟩ := List.exists_of_kerase hk
  have hmem : (⟨k, b⟩ : Sigma fun _ : K => V) ∈ m.entries := by simp [hsplit]
  have hlookup : m.lookup k = some b := AList.mem_lookup_iff.mpr hmem
  rw [h] at hlookup
  obtain rfl := Option.some.inj hlookup
  exact ⟨l₁, l₂, hsplit, herase⟩

/-- Removing the keys of a list empties them and touches nothing else. -/
theorem lookup_foldl_erase {α : Type*} (key : α → K) (removed : List α) (m : KeyMap K V) (k : K) :
    (removed.foldl (fun m a => m.erase (key a)) m).lookup k =
      if k ∈ removed.map key then none else m.lookup k := by
  induction removed generalizing m with
  | nil => rfl
  | cons a removed ih =>
    rw [List.foldl_cons, ih, lookup_erase, List.map_cons]
    by_cases hk : k ∈ removed.map key
    · rw [if_pos hk, if_pos (List.mem_cons_of_mem _ hk)]
    · by_cases ha : k = key a
      · rw [if_neg hk, if_pos ha, if_pos (ha ▸ List.mem_cons_self)]
      · have hnot : k ∉ key a :: removed.map key := List.not_mem_cons_of_ne_of_not_mem ha hk
        rw [if_neg hk, if_neg ha, if_neg hnot]

/-- Removing different present keys takes one entry for each. -/
theorem length_foldl_erase {α : Type*} {key : α → K} {removed : List α} {m : KeyMap K V}
    (hnodup : (removed.map key).Nodup) (hmem : ∀ a ∈ removed, (m.lookup (key a)).isSome) :
    (removed.foldl (fun m a => m.erase (key a)) m).entries.length + removed.length = m.entries.length := by
  induction removed generalizing m with
  | nil => rfl
  | cons a removed ih =>
    obtain ⟨hfresh, hnodup⟩ := List.nodup_cons.mp hnodup
    obtain ⟨ha, hmem⟩ := List.forall_mem_cons.mp hmem
    obtain ⟨v, hv⟩ := Option.isSome_iff_exists.mp ha
    obtain ⟨l₁, l₂, hsplit, herase⟩ := exists_entries_erase hv
    have hrest : ∀ b ∈ removed, ((m.erase (key a)).lookup (key b)).isSome := by
      intro b hb
      have hne : key b ≠ key a := fun heq => hfresh (heq ▸ List.mem_map_of_mem hb)
      rw [lookup_erase, if_neg hne]
      exact hmem b hb
    have hone : (m.erase (key a)).entries.length + 1 = m.entries.length := by
      rw [herase, hsplit, List.length_append, List.length_append, List.length_cons]
      omega
    have hall := ih hnodup hrest
    rw [List.foldl_cons, List.length_cons]
    omega

/-- Removing a present entry takes it out of a count. -/
theorem count_erase {m : KeyMap K V} {k : K} {v : V} (p : K → V → Bool) (h : m.lookup k = some v) :
    count (m.erase k) p + (if p k v then 1 else 0) = count m p := by
  obtain ⟨l₁, l₂, hsplit, herase⟩ := exists_entries_erase h
  unfold count
  rw [herase, hsplit, List.countP_append, List.countP_append, List.countP_cons]
  dsimp only
  omega

/-- Removing an absent key leaves a count alone. -/
theorem count_erase_of_notMem {m : KeyMap K V} {k : K} (p : K → V → Bool) (h : k ∉ m) :
    count (m.erase k) p = count m p := by
  show (List.kerase k m.entries).countP _ = _
  rw [List.kerase_of_notMem_keys h]
  rfl

/-- A removal takes the removed value out of a sum. -/
theorem total_erase (m : KeyMap K V) (k : K) (f : V → ℕ) :
    total (m.erase k) f + ((m.lookup k).map f).getD 0 = total m f := by
  cases h : m.lookup k with
  | none =>
    have hk : k ∉ m.entries.keys := fun hm => by
      have hsome := AList.lookup_isSome.mpr (AList.mem_keys.mpr hm)
      rw [h] at hsome
      cases hsome
    show ((List.kerase k m.entries).map _).sum + _ = _
    rw [List.kerase_of_notMem_keys hk]
    rfl
  | some v =>
    obtain ⟨l₁, l₂, hsplit, herase⟩ := exists_entries_erase h
    unfold total
    rw [herase, hsplit, List.map_append, List.map_append, List.map_cons, List.sum_append,
      List.sum_append, List.sum_cons]
    dsimp only [Option.map_some, Option.getD_some]
    omega

/-- A value is at most the sum. -/
theorem le_total {m : KeyMap K V} {k : K} {v : V} (f : V → ℕ) (h : m.lookup k = some v) :
    f v ≤ total m f := by
  have herase := total_erase m k f
  rw [h, Option.map_some, Option.getD_some] at herase
  omega

/-- An update with a default adds `c` to a sum when it adds `c` to its value. -/
theorem total_upsert {m : KeyMap K V} {k : K} {default : V} {g : V → V} {f : V → ℕ} {c : ℕ}
    (hdefault : f default = 0) (hg : ∀ v, f (g v) = f v + c) :
    total (upsert m k default g) f = total m f + c := by
  have herase := total_erase m k f
  show ((AList.insert k _ m).entries.map _).sum = _
  rw [AList.entries_insert, List.map_cons, List.sum_cons, hg]
  have hold : f ((m.lookup k).getD default) = ((m.lookup k).map f).getD 0 := by
    cases m.lookup k with
    | none => exact hdefault
    | some v => rfl
  rw [hold]
  have hsum : ((List.kerase k m.entries).map fun e => f e.2).sum = total (m.erase k) f := rfl
  omega

omit [DecidableEq K] in
/-- The entries that `retain` keeps and those that it drops are all the entries. -/
theorem count_retain_add (m : KeyMap K V) (p q : K → V → Bool) :
    count (retain m q) p + (m.entries.filter fun e => ! q e.1 e.2).countP (fun e => p e.1 e.2) =
      count m p := by
  show (m.entries.filter fun e => q e.1 e.2).countP _ + _ = m.entries.countP _
  rw [← List.countP_append]
  exact (List.filter_append_perm (fun e => q e.1 e.2) m.entries).countP_eq _

end KeyMap
