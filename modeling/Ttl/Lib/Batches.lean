import Mathlib.Data.List.Perm.Subperm
import Mathlib.Data.List.TakeWhile
import Mathlib.Logic.Function.Iterate

/-!
# Work in bounded batches

A worker takes the first `cap` distinct elements of a waiting list at each tick. Those that it settles leave
the list, and the others keep their places. `collect` is the loop that takes them, `drain` what a tick leaves,
and `Served` the condition under which every element that can be settled is settled in the end:
fewer than `cap` elements that cannot are ahead of it. `drained_iff` proves the condition exact.
-/

namespace Batches

variable {α : Type*} [DecidableEq α] {cap : ℕ} {settles : α → Bool} {l : List α} {a : α}

/-- The loop that collects distinct elements after those of `batch`, until there are `cap`. -/
def collect (cap : ℕ) : List α → List α → List α
  | batch, [] => batch
  | batch, a :: l =>
    if a ∈ batch then collect cap batch l
    else if cap ≤ (batch ++ [a]).length then batch ++ [a]
    else collect cap (batch ++ [a]) l

/-- What still waits after a tick. -/
def drain (cap : ℕ) (settles : α → Bool) (l : List α) : List α :=
  l.filter fun a => ! (settles a && decide (a ∈ l.take cap))

/-- The number of elements ahead of `a` that are never settled. -/
def blocking (settles : α → Bool) (l : List α) (a : α) : ℕ :=
  (l.takeWhile (· ≠ a)).countP fun b => ! settles b

/-- Fewer than `cap` elements that are never settled are ahead of each other one. -/
def Served (cap : ℕ) (settles : α → Bool) (l : List α) : Prop :=
  ∀ a ∈ l, settles a = true → blocking settles l a < cap

instance : Decidable (Served cap settles l) := inferInstanceAs (Decidable (∀ a ∈ l, _))

/-! ## The batch -/

/-- Dropping repetitions and filtering commute. -/
theorem filter_eraseDups (p : α → Bool) (l : List α) : l.eraseDups.filter p = (l.filter p).eraseDups := by
  match l with
  | [] => rfl
  | a :: l =>
    have hlt : (l.filter fun b => ! b == a).length < l.length + 1 :=
      Nat.lt_succ_of_le (List.length_filter_le _ _)
    have ih := filter_eraseDups p (l.filter fun b => ! b == a)
    have hcomm : (l.filter fun b => ! b == a).filter p = (l.filter p).filter fun b => ! b == a := by
      rw [List.filter_filter, List.filter_filter]
      simp only [Bool.and_comm]
    rw [List.eraseDups_cons, List.filter_cons, List.filter_cons, ih, hcomm]
    split_ifs with ha
    · rw [List.eraseDups_cons]
    · -- An element that is filtered out was not among the others.
      rw [List.filter_eq_self.mpr]
      intro b hb
      have hpb := (List.mem_filter.mp hb).2
      rw [Bool.not_eq_true', beq_eq_false_iff_ne]
      rintro rfl
      exact ha hpb
termination_by l.length

/-- Without repetitions a list has none. -/
theorem nodup_eraseDups (l : List α) : l.eraseDups.Nodup := by
  match l with
  | [] => exact List.nodup_nil
  | a :: l =>
    have hlt : (l.filter fun b => ! b == a).length < l.length + 1 :=
      Nat.lt_succ_of_le (List.length_filter_le _ _)
    rw [List.eraseDups_cons, List.nodup_cons, List.mem_eraseDups, List.mem_filter]
    exact ⟨fun h => by simp at h, nodup_eraseDups _⟩
termination_by l.length

/-- A last element is new or a duplicate. -/
theorem eraseDups_concat (l : List α) (a : α) :
    (l ++ [a]).eraseDups = if a ∈ l then l.eraseDups else l.eraseDups ++ [a] := by
  have hrest : ([a] : List α).removeAll l = if a ∈ l then [] else [a] := by
    rw [List.removeAll]
    by_cases ha : a ∈ l <;> simp [ha]
  rw [List.eraseDups_append, hrest]
  split_ifs
  · rw [List.eraseDups_nil, List.append_nil]
  · rw [List.eraseDups_cons, List.filter_nil, List.eraseDups_nil]

/-- The loop collects the first elements, each once. -/
theorem collect_eq_take (batch l : List α) (h : batch.length < cap) :
    collect cap batch l = (batch ++ (l.filter fun a => decide (a ∉ batch)).eraseDups).take cap := by
  induction l generalizing batch with
  | nil =>
    rw [collect, List.filter_nil, List.eraseDups_nil, List.append_nil, List.take_of_length_le h.le]
  | cons a l ih =>
    unfold collect
    split_ifs with ha hfull
    · rw [ih batch h, List.filter_cons, if_neg (by rw [decide_eq_true_iff, not_not]; exact ha)]
    · -- The batch is full with `a`.
      have hlength : (batch ++ [a]).length = cap := by
        rw [List.length_append, List.length_singleton] at hfull ⊢
        omega
      symm
      rw [List.filter_cons, if_pos (decide_eq_true ha), List.eraseDups_cons, List.append_cons,
        List.take_append_of_le_length hlength.ge, List.take_of_length_le hlength.le]
    · have hrest : (l.filter fun b => decide (b ∉ batch ++ [a])) =
          (l.filter fun b => decide (b ∉ batch)).filter fun b => ! b == a := by
        rw [List.filter_filter]
        congr 1
        funext b
        rw [Bool.eq_iff_iff, decide_eq_true_iff, Bool.and_eq_true, Bool.not_eq_true', beq_eq_false_iff_ne,
          decide_eq_true_iff, List.mem_append, List.mem_singleton, not_or, and_comm]
      symm
      rw [List.filter_cons, if_pos (decide_eq_true ha), List.eraseDups_cons, List.append_cons,
        ih (batch ++ [a]) (Nat.not_le.mp hfull), hrest]

/-- The batch of a tick is the beginning of what waits. -/
theorem collect_nil (l : List α) (h : 0 < cap) : collect cap [] l = l.eraseDups.take cap := by
  rw [collect_eq_take [] l h, List.nil_append, List.filter_eq_self.mpr]
  intro a _
  exact decide_eq_true List.not_mem_nil

/-- An element is in the batch when its first place is. -/
theorem mem_take_iff (h : a ∈ l) (n : ℕ) : a ∈ l.take n ↔ (l.takeWhile (· ≠ a)).length < n := by
  induction l generalizing n with
  | nil => exact absurd h List.not_mem_nil
  | cons b l ih =>
    cases n with
    | zero => exact iff_of_false List.not_mem_nil (Nat.not_lt_zero _)
    | succ n =>
      rw [List.take_succ_cons, List.takeWhile_cons]
      by_cases hb : b = a
      · subst hb
        rw [if_neg (by simp)]
        exact iff_of_true List.mem_cons_self (Nat.zero_lt_succ n)
      · have hmem : a ∈ l := (List.mem_cons.mp h).resolve_left (Ne.symm hb)
        rw [if_pos (decide_eq_true hb), List.length_cons, Nat.succ_lt_succ_iff, ← ih hmem n,
          List.mem_cons]
        exact or_iff_right (Ne.symm hb)

/-! ## One tick -/

/-- Dropping elements that can be settled leaves what is ahead of another one that blocks it. -/
theorem blocking_filter {p : α → Bool} (hp : ∀ b, settles b = false → p b = true) (ha : p a = true) :
    blocking settles (l.filter p) a = blocking settles l a := by
  unfold blocking
  induction l with
  | nil => rfl
  | cons b l ih =>
    rw [List.filter_cons, List.takeWhile_cons]
    by_cases hba : b = a
    · subst hba
      rw [if_pos ha, List.takeWhile_cons, if_neg (by simp), if_neg (by simp)]
    · rw [if_pos (decide_eq_true hba), List.countP_cons]
      split_ifs with hpb hb hb
      · rw [List.takeWhile_cons, if_pos (decide_eq_true hba), List.countP_cons, if_pos hb, ih]
      · rw [List.takeWhile_cons, if_pos (decide_eq_true hba), List.countP_cons, if_neg hb, ih]
      · -- What is dropped can be settled.
        rw [hp b (by simpa using hb)] at hpb
        exact absurd rfl hpb
      · exact ih

/-- A drain leaves what it does not settle, and what lies behind the cap. -/
theorem mem_drain : a ∈ drain cap settles l ↔ a ∈ l ∧ (settles a = true → a ∉ l.take cap) := by
  rw [drain, List.mem_filter, Bool.not_eq_true', Bool.and_eq_false_imp]
  exact and_congr_right fun _ => imp_congr_right fun _ => decide_eq_false_iff_not

/-- What is ahead of an element that still waits blocks it as before. -/
theorem blocking_drain (h : a ∈ drain cap settles l) :
    blocking settles (drain cap settles l) a = blocking settles l a := by
  refine blocking_filter (fun b hb => ?_) (List.mem_filter.mp h).2
  rw [hb, Bool.false_and, Bool.not_false]

/-- A tick keeps the condition. -/
theorem served_drain : Served cap settles l → Served cap settles (drain cap settles l) := by
  intro h a ha hsettles
  rw [blocking_drain ha]
  exact h a (mem_drain.mp ha).1 hsettles

/-- What is blocked by `cap` elements is not in the batch, and stays blocked. -/
theorem mem_drain_of_blocked (h : a ∈ l) (hblocked : cap ≤ blocking settles l a) :
    a ∈ drain cap settles l := by
  refine mem_drain.mpr ⟨h, fun _ htake => ?_⟩
  have hlt := (mem_take_iff h cap).mp htake
  have hle : blocking settles l a ≤ (l.takeWhile (· ≠ a)).length := List.countP_le_length
  omega

/-- While something can be settled and nothing is blocked, a tick settles the first such element. -/
theorem countP_drain_lt (h : Served cap settles l) (ha : a ∈ l) (hsettles : settles a = true) :
    (drain cap settles l).countP settles < l.countP settles := by
  obtain ⟨b, hb⟩ := Option.isSome_iff_exists.mp (List.find?_isSome.mpr ⟨a, ha, hsettles⟩)
  obtain ⟨hbsettles, ahead, rest, hsplit, hahead⟩ := List.find?_eq_some_iff_append.mp hb
  have hmem : b ∈ l := List.mem_of_find?_eq_some hb
  -- Everything ahead of the first one blocks it.
  have htakeWhile : l.takeWhile (· ≠ b) = ahead := by
    rw [hsplit, List.takeWhile_append_of_pos, List.takeWhile_cons, if_neg (by simp), List.append_nil]
    intro c hc
    refine decide_eq_true fun hcb => ?_
    have hnot := hahead c hc
    rw [hcb, hbsettles] at hnot
    exact absurd hnot (by decide)
  have hblocking : blocking settles l b = ahead.length := by
    rw [blocking, htakeWhile]
    exact List.countP_eq_length.mpr hahead
  have htake : b ∈ l.take cap := by
    rw [mem_take_iff hmem, htakeWhile, ← hblocking]
    exact h b hmem hbsettles
  have hnot : b ∉ drain cap settles l := fun hdrain => (mem_drain.mp hdrain).2 hbsettles htake
  have hsub : (drain cap settles l).Sublist l := List.filter_sublist
  rw [List.countP_eq_length_filter, List.countP_eq_length_filter]
  refine lt_of_le_of_ne (hsub.filter settles).length_le fun heq => hnot ?_
  have hsame := (hsub.filter settles).eq_of_length heq
  have hfilter : b ∈ l.filter settles := List.mem_filter.mpr ⟨hmem, hbsettles⟩
  rw [← hsame] at hfilter
  exact (List.mem_filter.mp hfilter).1

/-! ## Many ticks -/

/-- As many ticks as elements that can be settled settle them all. -/
theorem countP_iterate_drain (h : Served cap settles l) (k : ℕ) (hk : l.countP settles ≤ k) :
    ((drain cap settles)^[k] l).countP settles = 0 := by
  induction k generalizing l with
  | zero => exact Nat.le_zero.mp hk
  | succ k ih =>
    rw [Function.iterate_succ_apply]
    refine ih (served_drain h) ?_
    by_cases hnone : l.countP settles = 0
    · have hsub : (drain cap settles l).Sublist l := List.filter_sublist
      exact (hsub.countP_le).trans (by omega)
    · obtain ⟨a, ha, hsettles⟩ := List.countP_pos_iff.mp (Nat.pos_of_ne_zero hnone)
      have hlt := countP_drain_lt h ha hsettles
      omega

/-- What is blocked waits forever. -/
theorem mem_iterate_drain_of_blocked (h : a ∈ l) (hblocked : cap ≤ blocking settles l a) (k : ℕ) :
    a ∈ (drain cap settles)^[k] l := by
  induction k generalizing l with
  | zero => exact h
  | succ k ih =>
    have hmem := mem_drain_of_blocked h hblocked
    rw [Function.iterate_succ_apply]
    exact ih hmem (by rwa [blocking_drain hmem])

/-- Everything that can be settled is settled exactly when the condition holds, and then after as many ticks
as elements wait. -/
theorem drained_iff {n : ℕ} (hn : l.length ≤ n) :
    ((∀ a ∈ (drain cap settles)^[n] l, settles a = false) ↔ Served cap settles l) ∧
    ((∃ k, ∀ a ∈ (drain cap settles)^[k] l, settles a = false) ↔ Served cap settles l) := by
  have hserved : Served cap settles l → ∀ a ∈ (drain cap settles)^[n] l, settles a = false := by
    intro h a ha
    have hzero := countP_iterate_drain h n (List.countP_le_length.trans hn)
    exact Bool.eq_false_iff.mpr (List.countP_eq_zero.mp hzero a ha)
  have hdrained : ∀ k, (∀ a ∈ (drain cap settles)^[k] l, settles a = false) →
      Served cap settles l := by
    intro k hk a ha hsettles
    by_contra hblocked
    have hfalse := hk a (mem_iterate_drain_of_blocked ha (Nat.not_lt.mp hblocked) k)
    rw [hsettles] at hfalse
    cases hfalse
  exact ⟨⟨hdrained n, hserved⟩, ⟨fun ⟨k, hk⟩ => hdrained k hk, fun h => ⟨n, hserved h⟩⟩⟩

end Batches
