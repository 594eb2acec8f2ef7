import Ttl.Lib.Collections

/-!
# Requests that are answered in order

One party asks, and another answers the requests in their order, each on the slot that bears the request's number. An
`Exchange` is the two logs of such a protocol. `waiting` is the queue that it stands for, and `Slots` says that a map
holds the answers by their numbers.
-/

/-- What was asked, and what was answered, each in its order. No answer is ahead of its request. -/
structure Exchange (ρ α : Type*) where
  asked : List ρ
  answered : List α
  le : answered.length ≤ asked.length

namespace Exchange

variable {ρ α : Type*}

/-- Nothing was asked. -/
def empty : Exchange ρ α := ⟨[], [], le_rfl⟩

/-- One more request. -/
def ask (x : Exchange ρ α) (r : ρ) : Exchange ρ α where
  asked := x.asked ++ [r]
  answered := x.answered
  le := by
    rw [List.length_append]
    exact x.le.trans (Nat.le_add_right _ _)

/-- The answer to the first request that waits, when one does. -/
def answer (x : Exchange ρ α) (a : α) : Exchange ρ α :=
  if h : x.answered.length < x.asked.length then
    { asked := x.asked, answered := x.answered ++ [a], le := by rw [List.length_append]; exact h }
  else x

/-- The requests that wait, with their numbers. -/
def waiting (x : Exchange ρ α) : List (ρ × ℕ) := x.asked.zipIdx.drop x.answered.length

/-- Nothing waits at the start. -/
@[simp]
theorem waiting_empty : (empty : Exchange ρ α).waiting = [] := rfl

/-- A new request waits behind the others. -/
theorem waiting_ask (x : Exchange ρ α) (r : ρ) : (x.ask r).waiting = x.waiting ++ [(r, x.asked.length)] := by
  have hle : x.answered.length ≤ x.asked.zipIdx.length := by
    rw [List.length_zipIdx]
    exact x.le
  rw [waiting, ask, List.zipIdx_append, List.drop_append_of_le_length hle, Nat.zero_add]
  rfl

/-- The first request that waits is the one that the next answer is for. -/
theorem of_waiting_eq_cons {x : Exchange ρ α} {r : ρ} {i : ℕ} {rest : List (ρ × ℕ)} (h : x.waiting = (r, i) :: rest) :
    i = x.answered.length ∧ x.asked[i]? = some r ∧ x.answered.length < x.asked.length := by
  have hhead : x.asked.zipIdx[x.answered.length]? = some (r, i) := by
    rw [← List.head?_drop, ← waiting, h]
    rfl
  rw [List.getElem?_zipIdx, Option.map_eq_some_iff] at hhead
  obtain ⟨r', hr', hpair⟩ := hhead
  obtain ⟨rfl, hi⟩ := Prod.mk.inj hpair
  obtain rfl : x.answered.length = i := by
    rw [← hi, Nat.zero_add]
  exact ⟨rfl, hr', (List.getElem?_eq_some_iff.mp hr').1⟩

/-- The other requests wait on. -/
theorem waiting_answer {x : Exchange ρ α} {r : ρ × ℕ} {rest : List (ρ × ℕ)} (h : x.waiting = r :: rest) (a : α) :
    (x.answer a).waiting = rest := by
  have hlt := (of_waiting_eq_cons h).2.2
  have htail : x.asked.zipIdx.drop (x.answered.length + 1) = x.waiting.tail := List.tail_drop.symm
  rw [answer, dif_pos hlt, waiting]
  dsimp only
  rw [List.length_append, List.length_singleton, htail, h]
  rfl

/-- An answer is the last one that was given. -/
theorem answered_answer {x : Exchange ρ α} {r : ρ × ℕ} {rest : List (ρ × ℕ)} (h : x.waiting = r :: rest) (a : α) :
    (x.answer a).answered = x.answered ++ [a] := by
  rw [answer, dif_pos (of_waiting_eq_cons h).2.2]

/-- An answer asks nothing. -/
theorem asked_answer (x : Exchange ρ α) (a : α) : (x.answer a).asked = x.asked := by
  unfold answer
  split_ifs <;> rfl

/-- When nothing waits, everything is answered. -/
theorem waiting_eq_nil_iff {x : Exchange ρ α} : x.waiting = [] ↔ x.answered.length = x.asked.length := by
  rw [waiting, List.drop_eq_nil_iff, List.length_zipIdx]
  exact ⟨fun h => le_antisymm x.le h, fun h => h.ge⟩

/-- A map that holds the answers by their numbers. -/
def Slots (m : KeyMap ℕ α) (answers : List α) : Prop := ∀ c, m.lookup c = answers[c]?

/-- No slot is filled at the start. -/
theorem slots_empty : Slots (∅ : KeyMap ℕ α) [] := fun _ => rfl

/-- One more answer goes to the next slot. -/
theorem Slots.insert {m : KeyMap ℕ α} {answers : List α} (h : Slots m answers) (a : α) :
    Slots (m.insert answers.length a) (answers ++ [a]) := by
  intro c
  rw [KeyMap.lookup_insert, h c]
  split_ifs with hc
  · rw [hc, List.getElem?_concat_length]
  · rcases lt_or_gt_of_ne hc with hlt | hgt
    · rw [List.getElem?_append_left hlt]
    · have hlen : (answers ++ [a]).length ≤ c := by
        rw [List.length_append]
        exact hgt
      rw [List.getElem?_eq_none hlen, List.getElem?_eq_none hgt.le]

end Exchange
