import Mathlib.Data.List.Basic

/-!
# Logs

A log is a list of events, the newest last. `EachAfter` is a condition on every event and the log before it, and
`latest` is the last value that a log tells.
-/

namespace Logs

variable {ε α : Type*}

/-- Every event meets `P` with the log before it. -/
def EachAfter (P : List ε → ε → Prop) (log : List ε) : Prop :=
  ∀ before e after, log = before ++ e :: after → P before e

variable {P : List ε → ε → Prop} {log : List ε} {e : ε}

/-- Nothing is asked of no events. -/
theorem eachAfter_nil : EachAfter P [] := by
  intro before e after h
  have hlength := congrArg List.length h
  simp at hlength

/-- The newest event only adds its own condition. -/
theorem EachAfter.concat (h : EachAfter P log) (he : P log e) : EachAfter P (log ++ [e]) := by
  intro before e' after hsplit
  rcases List.eq_nil_or_concat after with rfl | ⟨after', last, rfl⟩
  · obtain ⟨rfl, hlast⟩ := List.append_inj' hsplit rfl
    obtain rfl : e = e' := List.singleton_inj.mp hlast
    exact he
  · have hsplit' : log ++ [e] = (before ++ e' :: after') ++ [last] := by
      rw [hsplit, List.concat_eq_append, List.append_assoc, List.cons_append]
    exact h before e' after' (List.append_inj' hsplit' rfl).1

/-- The last value that the events tell. -/
def latest (f : ε → Option α) (log : List ε) : Option α := (log.filterMap f).getLast?

variable {f : ε → Option α} {a : α}

/-- Before any event there is no value. -/
@[simp]
theorem latest_nil : latest f [] = none := rfl

/-- An event that tells nothing changes nothing. -/
theorem latest_concat_of_none (h : f e = none) : latest f (log ++ [e]) = latest f log := by
  rw [latest, List.filterMap_append, List.filterMap_cons_none h, List.filterMap_nil, List.append_nil, latest]

/-- An event that tells a value makes it the latest one. -/
theorem latest_concat_of_some (h : f e = some a) : latest f (log ++ [e]) = some a := by
  rw [latest, List.filterMap_append, List.filterMap_cons_some h, List.filterMap_nil, List.getLast?_concat]

/-- The latest value is one of those told. -/
theorem exists_of_latest (h : latest f log = some a) : ∃ e ∈ log, f e = some a :=
  List.mem_filterMap.mp (List.mem_of_getLast? h)

end Logs
