import Mathlib.Data.Bool.AllAny
import Ttl.Lib.Streaming
import Ttl.State.Primary

/-!
# Asymmetric routes

`AsymmetryInfo` of `src/state/session.rs` and `has_asymmetry`: from the TTLs of the responses at a hop the code
estimates how many routers each has passed on its way back, and compares this with the hop's own TTL. What is kept are
the statistics of the whole list of responses, and where the estimates are right the hop is marked exactly when more
than half of the responses, of five at least, have come back by a path that is three hops longer or shorter.
-/

namespace Ttl

open Streaming

/-! ## The estimate -/

/-- The estimate of the hops back, in numbers. -/
theorem toNat_estimateReturnHops (response_ttl : UInt8) :
    (estimateReturnHops response_ttl).toNat =
      if response_ttl.toNat ≤ 64 then 64 - response_ttl.toNat
      else if response_ttl.toNat ≤ 128 then 128 - response_ttl.toNat else 255 - response_ttl.toNat := by
  have hsub (initial : UInt8) (hle : response_ttl ≤ initial) :
      (if response_ttl ≤ initial then initial - response_ttl else 0).toNat = initial.toNat - response_ttl.toNat := by
    rw [if_pos hle, UInt8.toNat_sub_of_le _ _ hle]
  have h64 : response_ttl ≤ 64 ↔ response_ttl.toNat ≤ 64 := UInt8.le_iff_toNat_le
  have h128 : response_ttl ≤ 128 ↔ response_ttl.toNat ≤ 128 := UInt8.le_iff_toNat_le
  have h255 : response_ttl ≤ 255 := UInt8.le_iff_toNat_le.mpr (Nat.le_of_lt_succ response_ttl.toNat_lt)
  unfold estimateReturnHops
  dsimp only
  simp only [← h64, ← h128]
  by_cases hle64 : response_ttl ≤ 64
  · rw [if_pos hle64, List.find?_cons_of_pos (by simpa using hle64)]
    exact hsub 64 hle64
  rw [if_neg hle64, List.find?_cons_of_neg (by simpa using hle64)]
  by_cases hle128 : response_ttl ≤ 128
  · rw [if_pos hle128, List.find?_cons_of_pos (by simpa using hle128)]
    exact hsub 128 hle128
  · rw [if_neg hle128, List.find?_cons_of_neg (by simpa using hle128), List.find?_cons_of_pos (by simpa using h255)]
    exact hsub 255 h255

/-- A response that left with a usual TTL and has passed so many routers that the next smaller one is not reached. -/
def Estimable (initial routers : UInt8) : Prop :=
  initial = 64 ∧ routers ≤ 64 ∨ initial = 128 ∧ routers < 64 ∨ initial = 255 ∧ routers < 127

instance (initial routers : UInt8) : Decidable (Estimable initial routers) := by
  unfold Estimable
  infer_instance

/-- Of the responses that left with a usual TTL the estimate is right for these and no others. -/
theorem estimateReturnHops_eq_iff {initial routers : UInt8} (husual : initial = 64 ∨ initial = 128 ∨ initial = 255)
    (hle : routers ≤ initial) : estimateReturnHops (initial - routers) = routers ↔ Estimable initial routers := by
  have hlt : routers ≤ 64 ↔ routers.toNat ≤ 64 := UInt8.le_iff_toNat_le
  have hlt64 : routers < 64 ↔ routers.toNat < 64 := UInt8.lt_iff_toNat_lt
  have hlt127 : routers < 127 ↔ routers.toNat < 127 := UInt8.lt_iff_toNat_lt
  have hle := UInt8.le_iff_toNat_le.mp hle
  rw [← UInt8.toNat_inj, toNat_estimateReturnHops, UInt8.toNat_sub_of_le _ _ (UInt8.le_iff_toNat_le.mpr hle)]
  unfold Estimable
  rw [hlt, hlt64, hlt127]
  rcases husual with rfl | rfl | rfl
  · have h64 : (64 : UInt8).toNat = 64 := rfl
    rw [h64] at hle ⊢
    split_ifs <;> simp <;> omega
  · have h128 : (128 : UInt8).toNat = 128 := rfl
    rw [h128] at hle ⊢
    split_ifs <;> simp <;> omega
  · have h255 : (255 : UInt8).toNat = 255 := rfl
    rw [h255] at hle ⊢
    split_ifs <;> simp <;> omega

/-- The estimate is the number of routers, where the initial TTL can be told. -/
theorem Estimable.estimate {initial routers : UInt8} (h : Estimable initial routers) :
    estimateReturnHops (initial - routers) = routers := by
  have husual : initial = 64 ∨ initial = 128 ∨ initial = 255 := by
    rcases h with ⟨hinitial, -⟩ | ⟨hinitial, -⟩ | ⟨hinitial, -⟩
    · exact .inl hinitial
    · exact .inr (.inl hinitial)
    · exact .inr (.inr hinitial)
  have hle : routers ≤ initial := by
    rcases h with ⟨rfl, hle⟩ | ⟨rfl, hlt⟩ | ⟨rfl, hlt⟩
    · exact hle
    · exact UInt8.le_trans (UInt8.le_of_lt hlt) (by decide)
    · exact UInt8.le_trans (UInt8.le_of_lt hlt) (by decide)
  exact (estimateReturnHops_eq_iff husual hle).mpr h

/-! ## One response after the other -/

namespace AsymmetryInfo

/-- How far the two paths differ, in hops. -/
def hopDifference (forward_ttl return_hops : UInt8) : ℤ := |(return_hops.toNat : ℤ) - forward_ttl.toNat|

/-- The differences as they are estimated from the TTLs of the responses. -/
def hopDifferences (forward_ttl : UInt8) (response_ttls : List UInt8) : List ℚ :=
  response_ttls.map fun response_ttl => (hopDifference forward_ttl (estimateReturnHops response_ttl) : ℚ)

/-- The responses whose paths differ as far as the threshold. -/
def asymmetric (forward_ttl : UInt8) (response_ttls : List UInt8) : ℕ :=
  response_ttls.countP fun response_ttl =>
    asymmetryThreshold ≤ hopDifference forward_ttl (estimateReturnHops response_ttl)

/-- The statistics of the given responses. Both averages are the mean of the differences, and the variance is that of a
sample. -/
structure Summarises (a : AsymmetryInfo) (forward_ttl : UInt8) (response_ttls : List UInt8) : Prop where
  asymmetric_samples : a.asymmetric_samples = asymmetric forward_ttl response_ttls
  total : a.asymmetric_samples + a.symmetric_samples = response_ttls.length
  mean_diff : a.mean_diff = mean (hopDifferences forward_ttl response_ttls)
  avg_hop_difference : a.avg_hop_difference = mean (hopDifferences forward_ttl response_ttls)
  m2 : a.m2 = squaredDeviations (hopDifferences forward_ttl response_ttls)
  variance : a.variance = squaredDeviations (hopDifferences forward_ttl response_ttls) / ((response_ttls.length : ℚ) - 1)
  confidence : a.confidence =
    if minSamples ≤ response_ttls.length then (asymmetric forward_ttl response_ttls : ℚ) / response_ttls.length else 0
  suspected : a.suspected = true ↔
    minSamples ≤ response_ttls.length ∧ response_ttls.length < 2 * asymmetric forward_ttl response_ttls
  last_return_hops : a.last_return_hops = response_ttls.getLast?.map estimateReturnHops

/-- Before any response there is nothing to summarise. -/
theorem summarises_default (forward_ttl : UInt8) : default.Summarises forward_ttl [] where
  asymmetric_samples := rfl
  total := rfl
  mean_diff := mean_nil.symm
  avg_hop_difference := mean_nil.symm
  m2 := rfl
  variance := by simp [default, hopDifferences, squaredDeviations]
  confidence := rfl
  suspected := by simp [default, minSamples]
  last_return_hops := rfl

section

variable {a : AsymmetryInfo} {forward_ttl : UInt8} {response_ttls : List UInt8}

/-- There is a difference for each response. -/
theorem length_hopDifferences (forward_ttl : UInt8) (response_ttls : List UInt8) :
    (hopDifferences forward_ttl response_ttls).length = response_ttls.length := List.length_map _

/-- The difference of one more response. -/
theorem hopDifferences_concat (forward_ttl : UInt8) (response_ttls : List UInt8) (response_ttl : UInt8) :
    hopDifferences forward_ttl (response_ttls ++ [response_ttl]) = hopDifferences forward_ttl response_ttls ++
      [(hopDifference forward_ttl (estimateReturnHops response_ttl) : ℚ)] := List.map_append

/-- The responses are as many as the samples of both kinds. -/
theorem Summarises.cast_total (h : a.Summarises forward_ttl response_ttls) :
    ((a.asymmetric_samples + a.symmetric_samples : ℕ) : ℚ) = response_ttls.length := by rw [h.total]

/-- One more response is counted when it differs as far as the threshold. -/
theorem Summarises.asymmetric_recordResponse (h : a.Summarises forward_ttl response_ttls) (response_ttl : UInt8) :
    (a.recordResponse forward_ttl response_ttl).asymmetric_samples =
      asymmetric forward_ttl (response_ttls ++ [response_ttl]) := by
  have hcount : asymmetric forward_ttl (response_ttls ++ [response_ttl]) =
      if asymmetryThreshold ≤ hopDifference forward_ttl (estimateReturnHops response_ttl) then
        a.asymmetric_samples + 1 else a.asymmetric_samples := by
    rw [asymmetric, List.countP_append, List.countP_singleton, ← asymmetric, ← h.asymmetric_samples]
    simp only [decide_eq_true_eq]
    split_ifs <;> rfl
  exact hcount.symm

/-- The mean moves towards the difference of one more response. -/
theorem Summarises.mean_recordResponse (h : a.Summarises forward_ttl response_ttls) (response_ttl : UInt8) :
    a.mean_diff + ((hopDifference forward_ttl (estimateReturnHops response_ttl) : ℚ) - a.mean_diff) /
      (response_ttls.length + 1) = mean (hopDifferences forward_ttl (response_ttls ++ [response_ttl])) := by
  rw [hopDifferences_concat, mean_concat, length_hopDifferences, h.mean_diff]
  push_cast
  rfl

/-- The other average moves with it. -/
theorem Summarises.avg_recordResponse (h : a.Summarises forward_ttl response_ttls) (response_ttl : UInt8) :
    (a.recordResponse forward_ttl response_ttl).avg_hop_difference =
      mean (hopDifferences forward_ttl (response_ttls ++ [response_ttl])) := by
  have hpos : (response_ttls.length : ℚ) + 1 ≠ 0 := Nat.cast_add_one_ne_zero _
  have hsame : a.avg_hop_difference = a.mean_diff := by rw [h.avg_hop_difference, h.mean_diff]
  calc (a.recordResponse forward_ttl response_ttl).avg_hop_difference
      = (a.mean_diff * response_ttls.length + (hopDifference forward_ttl (estimateReturnHops response_ttl) : ℚ)) /
          (response_ttls.length + 1) := by
        rw [← hsame, ← h.cast_total]
        rfl
    _ = a.mean_diff + ((hopDifference forward_ttl (estimateReturnHops response_ttl) : ℚ) - a.mean_diff) /
          (response_ttls.length + 1) := by
        field_simp
        ring
    _ = mean (hopDifferences forward_ttl (response_ttls ++ [response_ttl])) := h.mean_recordResponse response_ttl

/-- The squared deviations grow by those of one more response. -/
theorem Summarises.m2_recordResponse (h : a.Summarises forward_ttl response_ttls) (response_ttl : UInt8) :
    (a.recordResponse forward_ttl response_ttl).m2 =
      squaredDeviations (hopDifferences forward_ttl (response_ttls ++ [response_ttl])) := by
  have hconcat := hopDifferences_concat forward_ttl response_ttls response_ttl
  rw [hconcat, squaredDeviations_concat, ← hconcat, ← h.mean_recordResponse, ← h.m2, ← h.mean_diff, ← h.cast_total]
  rfl

/-- The variance is that of a sample with one more response. -/
theorem Summarises.variance_recordResponse (h : a.Summarises forward_ttl response_ttls) (response_ttl : UInt8) :
    (a.recordResponse forward_ttl response_ttl).variance =
      squaredDeviations (hopDifferences forward_ttl (response_ttls ++ [response_ttl])) /
        (((response_ttls ++ [response_ttl]).length : ℚ) - 1) := by
  have hvariance : (a.recordResponse forward_ttl response_ttl).variance =
      if (1 : ℚ) < response_ttls.length + 1 then
        (a.recordResponse forward_ttl response_ttl).m2 / (response_ttls.length + 1 - 1) else 0 := by
    rw [← h.cast_total]
    rfl
  rw [hvariance, h.m2_recordResponse, List.length_append, List.length_singleton, Nat.cast_add_one]
  split_ifs with hone
  · rfl
  · -- One response alone has no variance, as nothing divided by zero is zero.
    have hzero : (response_ttls.length : ℚ) + 1 - 1 = 0 := by
      rw [add_sub_cancel_right]
      exact le_antisymm (by simpa using hone) (Nat.cast_nonneg _)
    rw [hzero, div_zero]

/-- The confidence with one more response. -/
theorem Summarises.confidence_recordResponse (h : a.Summarises forward_ttl response_ttls) (response_ttl : UInt8) :
    (a.recordResponse forward_ttl response_ttl).confidence =
      if minSamples ≤ (response_ttls ++ [response_ttl]).length then
        (asymmetric forward_ttl (response_ttls ++ [response_ttl]) : ℚ) / (response_ttls ++ [response_ttl]).length
      else 0 := by
  -- Before the fifth response there has been no confidence either.
  have hnone : ¬ minSamples ≤ response_ttls.length + 1 → a.confidence = 0 := by
    intro hfew
    rw [h.confidence, if_neg fun hmany => hfew (Nat.le_succ_of_le hmany)]
  have hstep : (a.recordResponse forward_ttl response_ttl).confidence =
      if minSamples ≤ a.asymmetric_samples + a.symmetric_samples + 1 then
        ((a.recordResponse forward_ttl response_ttl).asymmetric_samples : ℚ) /
          ((a.asymmetric_samples + a.symmetric_samples : ℕ) + 1)
      else a.confidence := rfl
  rw [hstep, h.asymmetric_recordResponse, h.cast_total, h.total, List.length_append, List.length_singleton,
    Nat.cast_add_one]
  split_ifs with hmany
  · rfl
  · exact hnone hmany

/-- The suspicion with one more response. -/
theorem Summarises.suspected_recordResponse (h : a.Summarises forward_ttl response_ttls) (response_ttl : UInt8) :
    (a.recordResponse forward_ttl response_ttl).suspected = true ↔
      minSamples ≤ (response_ttls ++ [response_ttl]).length ∧
        (response_ttls ++ [response_ttl]).length < 2 * asymmetric forward_ttl (response_ttls ++ [response_ttl]) := by
  have hlength : (response_ttls ++ [response_ttl]).length = response_ttls.length + 1 := by
    rw [List.length_append, List.length_singleton]
  have hsuspected : (a.recordResponse forward_ttl response_ttl).suspected =
      if minSamples ≤ (response_ttls ++ [response_ttl]).length then
        decide ((a.recordResponse forward_ttl response_ttl).confidence > 1 / 2) else a.suspected := by
    rw [hlength, ← h.total]
    rfl
  rw [hsuspected]
  split_ifs with hmany
  · rw [decide_eq_true_iff, h.confidence_recordResponse, if_pos hmany, gt_iff_lt, hlength, Nat.cast_add_one,
      div_lt_div_iff₀ zero_lt_two (Nat.cast_add_one_pos _)]
    have hcast : 1 * ((response_ttls.length : ℚ) + 1) <
        (asymmetric forward_ttl (response_ttls ++ [response_ttl]) : ℚ) * 2 ↔
        response_ttls.length + 1 < 2 * asymmetric forward_ttl (response_ttls ++ [response_ttl]) := by
      rw [one_mul, mul_comm]
      exact_mod_cast Iff.rfl
    rw [hcast]
    exact ⟨fun hlt => ⟨hlength ▸ hmany, hlt⟩, And.right⟩
  · have hfew : ¬ minSamples ≤ response_ttls.length := by
      rw [hlength] at hmany
      omega
    rw [h.suspected]
    exact ⟨fun hboth => absurd hboth.1 hfew, fun hboth => absurd hboth.1 hmany⟩

/-- One more response keeps the statistics those of the responses. -/
theorem Summarises.recordResponse (h : a.Summarises forward_ttl response_ttls) (response_ttl : UInt8) :
    (a.recordResponse forward_ttl response_ttl).Summarises forward_ttl (response_ttls ++ [response_ttl]) where
  asymmetric_samples := h.asymmetric_recordResponse response_ttl
  total := by
    rw [List.length_append, List.length_singleton, ← h.total]
    unfold AsymmetryInfo.recordResponse
    dsimp only [hopDifference]
    split_ifs <;> omega
  mean_diff := by
    rw [← h.mean_recordResponse, ← h.cast_total]
    rfl
  avg_hop_difference := h.avg_recordResponse response_ttl
  m2 := h.m2_recordResponse response_ttl
  variance := h.variance_recordResponse response_ttl
  confidence := h.confidence_recordResponse response_ttl
  suspected := h.suspected_recordResponse response_ttl
  last_return_hops := by
    rw [List.getLast?_concat]
    rfl

end

end AsymmetryInfo

/-! ## Runs -/

/-- The TTL that a response arrived with. -/
def HopEvent.responseTtl? : HopEvent → Option UInt8
  | responseTtl response_ttl => some response_ttl
  | _ => none

namespace Hop

/-- `has_asymmetry`. -/
def hasAsymmetry (h : Hop) : Bool := h.asymmetry.any AsymmetryInfo.suspected

/-- The TTLs that the responses arrived with. -/
def responseTtls (events : List HopEvent) : List UInt8 := events.filterMap HopEvent.responseTtl?

section

variable (flaps : Bool) (ttl : UInt8) (orders : ℕ → HopOrder)

/-- Nothing else that is recorded is about the paths' lengths, and nothing at all about the hop's own TTL. -/
theorem recordIn_of_not_responseTtl (order : HopOrder) (h : Hop) (e : HopEvent) :
    (h.recordIn flaps order e).ttl = h.ttl ∧
      (e.responseTtl? = none → (h.recordIn flaps order e).asymmetry = h.asymmetry) := by
  cases e with
  | response ip rtt mpls_labels interface_info =>
    cases flaps with
    | false => exact ⟨rfl, fun _ => rfl⟩
    | true =>
      obtain ⟨tracked, changes, heq⟩ :=
        recordResponseDetectingFlaps_frame order h ip rtt mpls_labels interface_info
      rw [recordIn, if_pos rfl, heq]
      exact ⟨rfl, fun _ => rfl⟩
  | natCheck original returned =>
    obtain ⟨nat_info, hnat⟩ := h.recordNatCheck_eq original returned
    rw [recordIn, hnat]
    exact ⟨rfl, fun _ => rfl⟩
  | responseTtl response_ttl => exact ⟨rfl, fun hnone => absurd hnone (Option.some_ne_none response_ttl)⟩
  | _ => exact ⟨rfl, fun _ => rfl⟩

/-- A hop keeps its TTL. -/
theorem ttl_run (events : List HopEvent) : (run flaps ttl orders events).ttl = ttl := by
  induction events using List.reverseRecOn with
  | nil => rfl
  | append_singleton events e ih => rw [run_concat, (recordIn_of_not_responseTtl flaps _ _ e).1, ih]

/-- The TTLs of responses, with one event more. -/
theorem responseTtls_concat (events : List HopEvent) (e : HopEvent) :
    responseTtls (events ++ [e]) = responseTtls events ++ e.responseTtl?.toList := by
  rw [responseTtls, List.filterMap_append, ← responseTtls]
  cases he : e.responseTtl? with
  | none => rw [List.filterMap_cons_none he]; rfl
  | some response_ttl => rw [List.filterMap_cons_some he]; rfl

/-- An event with a TTL is one that records it. -/
theorem exists_responseTtl {e : HopEvent} (he : e.responseTtl? ≠ none) :
    ∃ response_ttl, e = .responseTtl response_ttl := by
  cases e with
  | responseTtl response_ttl => exact ⟨response_ttl, rfl⟩
  | _ => exact absurd rfl he

/-- The statistics are kept from the first response on. -/
theorem asymmetry_eq_none_iff (events : List HopEvent) :
    (run flaps ttl orders events).asymmetry = none ↔ responseTtls events = [] := by
  induction events using List.reverseRecOn with
  | nil => exact ⟨fun _ => rfl, fun _ => rfl⟩
  | append_singleton events e ih =>
    rw [run_concat, responseTtls_concat]
    by_cases he : e.responseTtl? = none
    · rw [(recordIn_of_not_responseTtl flaps _ _ e).2 he, he, Option.toList_none, List.append_nil, ih]
    · obtain ⟨response_ttl, rfl⟩ := exists_responseTtl he
      exact iff_of_false (Option.some_ne_none _) (List.append_ne_nil_of_right_ne_nil _ (List.cons_ne_nil _ _))

/-- Whatever is recorded, the statistics are those of the responses that have arrived. -/
theorem summarises_run (events : List HopEvent) :
    ((run flaps ttl orders events).asymmetry.getD .default).Summarises ttl (responseTtls events) := by
  induction events using List.reverseRecOn with
  | nil => exact AsymmetryInfo.summarises_default ttl
  | append_singleton events e ih =>
    rw [run_concat, responseTtls_concat]
    by_cases he : e.responseTtl? = none
    · rw [(recordIn_of_not_responseTtl flaps _ _ e).2 he, he, Option.toList_none, List.append_nil]
      exact ih
    · obtain ⟨response_ttl, rfl⟩ := exists_responseTtl he
      have hrecorded := ih.recordResponse response_ttl
      have hstep : ((run flaps ttl orders events).recordIn flaps (orders events.length)
            (.responseTtl response_ttl)).asymmetry =
          some (((run flaps ttl orders events).asymmetry.getD .default).recordResponse
            (run flaps ttl orders events).ttl response_ttl) := rfl
      rw [hstep, Option.getD_some, ttl_run]
      exact hrecorded

/-- **The statistics of the paths' lengths** after any events: there are none before a response has arrived, and then
those of all responses that have. -/
theorem asymmetry_run (events : List HopEvent) :
    ((run flaps ttl orders events).asymmetry = none ↔ responseTtls events = []) ∧
      ∀ a, (run flaps ttl orders events).asymmetry = some a → a.Summarises ttl (responseTtls events) := by
  refine ⟨asymmetry_eq_none_iff flaps ttl orders events, fun a ha => ?_⟩
  have hsummarises := summarises_run flaps ttl orders events
  rwa [ha] at hsummarises

/-- **The verdict on a route:** where every response left its router with a usual TTL and the estimates can be right,
the hop is marked exactly when five responses or more have arrived and more than half of them have passed three routers
more, or three fewer, than the probe. -/
theorem hasAsymmetry_run (events : List HopEvent) (replies : List (UInt8 × UInt8))
    (harrived : responseTtls events = replies.map fun reply => reply.1 - reply.2)
    (hestimable : ∀ reply ∈ replies, Estimable reply.1 reply.2) :
    (run flaps ttl orders events).hasAsymmetry = true ↔
      5 ≤ replies.length ∧
        replies.length < 2 * replies.countP fun reply => 3 ≤ |(reply.2.toNat : ℤ) - ttl.toNat| := by
  have hcount : AsymmetryInfo.asymmetric ttl (responseTtls events) =
      replies.countP fun reply => 3 ≤ |(reply.2.toNat : ℤ) - ttl.toNat| := by
    rw [harrived, AsymmetryInfo.asymmetric, List.countP_map]
    refine List.countP_congr fun reply hreply => ?_
    rw [Function.comp_apply, (hestimable reply hreply).estimate]
    rfl
  have hlength : (responseTtls events).length = replies.length := by rw [harrived, List.length_map]
  have hverdict : (run flaps ttl orders events).hasAsymmetry =
      ((run flaps ttl orders events).asymmetry.getD .default).suspected := by
    unfold hasAsymmetry
    cases (run flaps ttl orders events).asymmetry with
    | none => rfl
    | some a => rfl
  rw [hverdict, (summarises_run flaps ttl orders events).suspected, hlength, hcount]
  rfl

end

/-- Five responses, of which three have come back by a path that is three hops longer. -/
theorem hasAsymmetry_run_sample :
    (run true 4 (fun _ => ⟨.entries, .entries⟩)
      [.responseTtl 60, .responseTtl 57, .responseTtl 248, .timeout, .responseTtl 251, .responseTtl 121]).hasAsymmetry =
        true :=
  (hasAsymmetry_run true 4 (fun _ => ⟨.entries, .entries⟩)
    [.responseTtl 60, .responseTtl 57, .responseTtl 248, .timeout, .responseTtl 251, .responseTtl 121]
    [(64, 4), (64, 7), (255, 7), (255, 4), (128, 7)] (by decide) (List.all_iff_forall_prop.mp (by decide))).mpr
    (by decide)

end Hop

end Ttl
