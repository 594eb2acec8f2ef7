import Mathlib.Data.List.Dedup
import Ttl.Lib.Collections
import Ttl.Lib.Lists

/-!
# The most frequent element

A hash map that counts what has occurred, and the search for its largest count. The search meets the entries in an
order that the map does not fix, an `IterOrder`. `Tallies` says that a map counts the elements of a list, and a leader
of a list is an element that no other one outnumbers. In every order the search finds a leader (`Tallies.isLeader`),
and every leader is found in some order (`Tallies.pick_last`). So what it finds depends on the order exactly when the
list is contested.
-/

namespace Plurality

section

variable {α : Type*}

/-- An order in which entries may be met. -/
structure IterOrder (α : Type*) where
  iter : List α → List α
  perm : ∀ l, (iter l).Perm l

namespace IterOrder

/-- The entries as they are. -/
def entries : IterOrder α where
  iter := id
  perm := fun l => List.Perm.refl l

/-- The entries from the last to the first. -/
def reverse : IterOrder α where
  iter := List.reverse
  perm := List.reverse_perm

/-- Some entries after all others. -/
def last (p : α → Bool) : IterOrder α where
  iter := fun l => l.filter (fun a => ! p a) ++ l.filter p
  perm := fun l => List.perm_append_comm.trans (List.filter_append_perm p l)

end IterOrder

/-! ## The largest key -/

variable {f : α → ℕ} {l : List α} {a : α}

/-- One element more is compared with the best of those before it, which it replaces where they are equal. -/
theorem maxByKey_concat_eq (l : List α) (a : α) :
    maxByKey f (l ++ [a]) = some ((maxByKey f l).elim a fun best => if f best ≤ f a then a else best) := by
  cases l with
  | nil => rfl
  | cons b l =>
    rw [List.cons_append, maxByKey, List.foldl_append]
    rfl

/-- What is found is there, and has the largest key. -/
theorem maxByKey_spec (h : maxByKey f l = some a) : a ∈ l ∧ ∀ b ∈ l, f b ≤ f a := by
  induction l using List.reverseRecOn generalizing a with
  | nil => cases h
  | append_singleton l c ih =>
    rw [maxByKey_concat_eq] at h
    cases hbest : maxByKey f l with
    | none =>
      have hnil : l = [] := by
        cases l with
        | nil => rfl
        | cons b l => cases hbest
      rw [hbest] at h
      obtain rfl := Option.some.inj h
      rw [hnil, List.nil_append]
      refine ⟨List.mem_singleton_self _, fun b hb => ?_⟩
      rw [List.mem_singleton.mp hb]
      exact Nat.le_refl _
    | some best =>
      obtain ⟨hmem, hmax⟩ := ih hbest
      rw [hbest] at h
      -- The later element wins where the keys are equal.
      have ha : (if f best ≤ f c then c else best) = a := Option.some.inj h
      split_ifs at ha with hle
      · subst ha
        refine ⟨List.mem_append_right _ (List.mem_singleton_self _), fun b hb => ?_⟩
        obtain hb | hb := List.mem_append.mp hb
        · exact (hmax b hb).trans hle
        · rw [List.mem_singleton.mp hb]
      · subst ha
        refine ⟨List.mem_append_left _ hmem, fun b hb => ?_⟩
        obtain hb | hb := List.mem_append.mp hb
        · exact hmax b hb
        · rw [List.mem_singleton.mp hb]
          exact Nat.le_of_not_le hle

/-- Nothing is found in an empty list only. -/
theorem maxByKey_eq_none_iff : maxByKey f l = none ↔ l = [] := by
  cases l with
  | nil => exact ⟨fun _ => rfl, fun _ => rfl⟩
  | cons a l => exact ⟨nofun, nofun⟩

/-- A largest key at the end is the one that is found. -/
theorem maxByKey_concat (h : ∀ b ∈ l, f b ≤ f a) : maxByKey f (l ++ [a]) = some a := by
  rw [maxByKey_concat_eq]
  cases hbest : maxByKey f l with
  | none => rfl
  | some best => rw [Option.elim, if_pos (h best (maxByKey_spec hbest).1)]

end

/-! ## Counts -/

section

variable {K V : Type*} [DecidableEq K]

/-- The map counts the elements of the list. -/
def Tallies (m : KeyMap K V) (f : V → ℕ) (l : List K) : Prop :=
  ∀ k, (m.lookup k).map f = if k ∈ l then some (l.count k) else none

/-- An element that no other one outnumbers. -/
def IsLeader (l : List K) (k : K) : Prop := k ∈ l ∧ ∀ k', l.count k' ≤ l.count k

/-- At most one element leads. -/
def Uncontested (l : List K) : Prop := ∀ k k', IsLeader l k → IsLeader l k' → k = k'

/-- The entry with the largest count, in an order. -/
def pick (order : IterOrder (Sigma fun _ : K => V)) (f : V → ℕ) (m : KeyMap K V) : Option (Sigma fun _ : K => V) :=
  maxByKey (fun e => f e.2) (order.iter m.entries)

variable {m : KeyMap K V} {f : V → ℕ} {l : List K} {k : K}

/-- Nothing is counted at the start. -/
theorem tallies_empty (f : V → ℕ) : Tallies (∅ : KeyMap K V) f [] := by
  intro k
  rw [AList.lookup_empty, if_neg List.not_mem_nil]
  rfl

/-- The count of an element. -/
theorem Tallies.getD (h : Tallies m f l) (k : K) : ((m.lookup k).map f).getD 0 = l.count k := by
  rw [h k]
  split_ifs with hk
  · rfl
  · exact (List.count_eq_zero.mpr hk).symm

/-- One more element. -/
theorem Tallies.upsert (h : Tallies m f l) (k : K) {default : V} {g : V → V} (hdefault : f default = 0)
    (hg : ∀ v, f (g v) = f v + 1) : Tallies (KeyMap.upsert m k default g) f (l ++ [k]) := by
  intro k'
  rw [KeyMap.lookup_upsert]
  by_cases hk : k' = k
  · have hold : f ((m.lookup k).getD default) = l.count k := by
      rw [← h.getD k]
      cases m.lookup k with
      | none => exact hdefault
      | some v => rfl
    have hmem : k ∈ l ++ [k] := List.mem_append_right _ (List.mem_singleton_self k)
    rw [hk, if_pos rfl, if_pos hmem, Option.map_some, hg, hold, List.count_append, List.count_singleton_self]
  · have hcount : (l ++ [k]).count k' = l.count k' := by
      rw [List.count_append, List.count_singleton, if_neg (by simpa using Ne.symm hk), Nat.add_zero]
    have hmem : k' ∈ l ++ [k] ↔ k' ∈ l := by
      rw [List.mem_append, List.mem_singleton, or_iff_left hk]
    rw [if_neg hk, h k', hcount]
    simp only [hmem]

/-- The entries are the elements with their counts. -/
theorem Tallies.mem_entries (h : Tallies m f l) {e : Sigma fun _ : K => V} (he : e ∈ m.entries) :
    e.1 ∈ l ∧ f e.2 = l.count e.1 := by
  have hlookup : m.lookup e.1 = some e.2 := AList.mem_lookup_iff.mpr he
  have hcount := h e.1
  rw [hlookup, Option.map_some] at hcount
  split_ifs at hcount with hmem
  exact ⟨hmem, Option.some.inj hcount⟩

/-- Every key that occurs has an entry, with the number of its occurrences. -/
theorem Tallies.exists_entry (h : Tallies m f l) (hk : k ∈ l) : ∃ e ∈ m.entries, e.1 = k ∧ f e.2 = l.count k := by
  have hcount := h k
  rw [if_pos hk] at hcount
  obtain ⟨v, hv, hf⟩ := Option.map_eq_some_iff.mp hcount
  exact ⟨⟨k, v⟩, AList.mem_lookup_iff.mp hv, rfl, hf⟩

variable {order : IterOrder (Sigma fun _ : K => V)}

/-- **In every order,** the entry that is found is one of a leader. -/
theorem Tallies.isLeader (h : Tallies m f l) {e : Sigma fun _ : K => V} (hpick : pick order f m = some e) :
    IsLeader l e.1 ∧ f e.2 = l.count e.1 := by
  obtain ⟨hmem, hmax⟩ := maxByKey_spec hpick
  obtain ⟨he, hcount⟩ := h.mem_entries ((order.perm _).mem_iff.mp hmem)
  refine ⟨⟨he, fun k => ?_⟩, hcount⟩
  by_cases hk : k ∈ l
  · obtain ⟨e', he', -, hcount'⟩ := h.exists_entry hk
    have hle := hmax e' ((order.perm _).mem_iff.mpr he')
    rwa [hcount, hcount'] at hle
  · rw [List.count_eq_zero.mpr hk]
    exact Nat.zero_le _

/-- An entry is found as soon as something has been counted. -/
theorem Tallies.pick_eq_none_iff (h : Tallies m f l) : pick order f m = none ↔ l = [] := by
  have hentries : pick order f m = none ↔ m.entries = [] := by
    rw [pick, maxByKey_eq_none_iff]
    constructor
    · intro hnil
      have hperm := order.perm m.entries
      rw [hnil] at hperm
      exact hperm.symm.eq_nil
    · intro hnil
      have hperm := order.perm m.entries
      rw [hnil] at hperm ⊢
      exact hperm.eq_nil
  rw [hentries]
  constructor
  · intro hnil
    cases l with
    | nil => rfl
    | cons k l =>
      obtain ⟨e, he, -⟩ := h.exists_entry List.mem_cons_self
      rw [hnil] at he
      cases he
  · rintro rfl
    cases hm : m.entries with
    | nil => rfl
    | cons e entries =>
      obtain ⟨hmem, -⟩ := h.mem_entries (hm ▸ List.mem_cons_self : e ∈ m.entries)
      cases hmem

/-- **Every leader** is found, in an order that meets it last. -/
theorem Tallies.pick_last (h : Tallies m f l) (hk : IsLeader l k) :
    (pick (IterOrder.last fun e => decide (e.1 = k)) f m).map (fun e => e.1) = some k := by
  obtain ⟨e, he, hkey, -⟩ := h.exists_entry hk.1
  have hmem : e ∈ m.entries.filter fun e => decide (e.1 = k) := List.mem_filter.mpr ⟨he, decide_eq_true hkey⟩
  obtain ⟨init, a, hinit⟩ := List.eq_nil_or_concat' (m.entries.filter fun e => decide (e.1 = k)) |>.resolve_left
    (List.ne_nil_of_mem hmem)
  have ha : a ∈ m.entries.filter fun e => decide (e.1 = k) := by
    rw [hinit]
    exact List.mem_append_right _ (List.mem_singleton_self a)
  obtain ⟨ha, hakey⟩ := List.mem_filter.mp ha
  have hacount := (h.mem_entries ha).2
  rw [of_decide_eq_true hakey] at hacount
  -- All other entries come before one with the key, and none has a larger count.
  have hmax : ∀ b ∈ (m.entries.filter fun e => ! decide (e.1 = k)) ++ init, f b.2 ≤ f a.2 := by
    intro b hb
    have hb' : b ∈ m.entries := by
      obtain hb | hb := List.mem_append.mp hb
      · exact List.mem_of_mem_filter hb
      · refine List.mem_of_mem_filter (p := fun e => decide (e.1 = k)) ?_
        rw [hinit]
        exact List.mem_append_left _ hb
    rw [(h.mem_entries hb').2, hacount]
    exact hk.2 b.1
  have hiter : (IterOrder.last fun e : Sigma fun _ : K => V => decide (e.1 = k)).iter m.entries =
      (m.entries.filter fun e => ! decide (e.1 = k)) ++ init ++ [a] := by
    rw [List.append_assoc, ← hinit]
    rfl
  rw [pick, hiter, maxByKey_concat hmax, Option.map_some, of_decide_eq_true hakey]

/-- **The order decides** exactly when the list is contested: of searches that each are in some order, and among them
one in every order, all have one answer if and only if at most one element leads. -/
theorem forall_eq_iff_uncontested {ι : Type*} {answer : ι → Option K}
    (hpick : ∀ i, ∃ order, ∃ m : KeyMap K V, Tallies m f l ∧ answer i = (pick order f m).map fun e => e.1)
    (hall : ∀ order, ∃ i, ∃ m : KeyMap K V, Tallies m f l ∧ answer i = (pick order f m).map fun e => e.1) :
    (∀ i j, answer i = answer j) ↔ Uncontested l := by
  constructor
  · intro hsame k k' hk hk'
    obtain ⟨i, m, hm, hi⟩ := hall (IterOrder.last fun e => decide (e.1 = k))
    obtain ⟨j, m', hm', hj⟩ := hall (IterOrder.last fun e => decide (e.1 = k'))
    rw [hm.pick_last hk] at hi
    rw [hm'.pick_last hk'] at hj
    exact Option.some.inj (hi.symm.trans ((hsame i j).trans hj))
  · intro huncontested i j
    obtain ⟨order, m, hm, hi⟩ := hpick i
    obtain ⟨order', m', hm', hj⟩ := hpick j
    rw [hi, hj]
    cases hfound : pick order f m with
    | none => rw [hm'.pick_eq_none_iff.mpr (hm.pick_eq_none_iff.mp hfound)]
    | some e =>
      cases hfound' : pick order' f m' with
      | none =>
        rw [hm.pick_eq_none_iff.mpr (hm'.pick_eq_none_iff.mp hfound')] at hfound
        cases hfound
      | some e' =>
        rw [Option.map_some, Option.map_some, huncontested _ _ (hm.isLeader hfound).1 (hm'.isLeader hfound').1]

/-- There is an entry for each element. -/
theorem Tallies.length_entries (h : Tallies m f l) : m.entries.length = l.dedup.length := by
  have hkeys : m.keys.length = m.entries.length := List.length_map _
  rw [← hkeys]
  refine Lists.length_eq_of_nodup m.nodupKeys l.nodup_dedup fun k => ?_
  rw [List.mem_dedup]
  constructor
  · intro hk
    obtain ⟨e, he, rfl⟩ := List.mem_map.mp hk
    exact (h.mem_entries he).1
  · intro hk
    obtain ⟨e, he, rfl, -⟩ := h.exists_entry hk
    exact List.mem_map_of_mem he

/-- The largest count is that of a leader. -/
theorem Tallies.max?_eq (h : Tallies m f l) (hk : IsLeader l k) :
    (m.entries.map fun e => f e.2).max? = some (l.count k) := by
  refine List.max?_eq_some_iff.mpr ⟨?_, fun n hn => ?_⟩
  · obtain ⟨e, he, -, hcount⟩ := h.exists_entry hk.1
    exact List.mem_map.mpr ⟨e, he, hcount⟩
  · obtain ⟨e, he, rfl⟩ := List.mem_map.mp hn
    rw [(h.mem_entries he).2]
    exact hk.2 e.1

/-- Where something has been counted, there is a leader. -/
theorem Tallies.exists_leader (h : Tallies m f l) (hl : l ≠ []) : ∃ k, IsLeader l k := by
  cases hpick : pick .entries f m with
  | none => exact absurd (h.pick_eq_none_iff.mp hpick) hl
  | some e => exact ⟨e.1, (h.isLeader hpick).1⟩

end

end Plurality
