import Ttl.State.RateLimit

/-!
# Rate limits without a division by zero

The functions of `Ttl.State.RateLimit` with a division that fails on zero. Each is the function there, so that the
analysis never divides by zero.
-/

namespace Ttl

/-- A division that fails on zero. -/
def divide (a b : ℚ) : Option ℚ := if b = 0 then none else some (a / b)

/-- A quotient by what is not zero. -/
theorem divide_eq {a b : ℚ} (h : b ≠ 0) : divide a b = some (a / b) := if_neg h

/-- A quotient by a length or a counter that is not zero. -/
theorem divide_natCast {a : ℚ} {n : ℕ} (h : n ≠ 0) : divide a n = some (a / n) := divide_eq (Nat.cast_ne_zero.mpr h)

/-- `loss_pct`, checked. -/
def Hop.lossPctChecked (h : Hop) : Option ℚ :=
  let completed := h.received + h.timeouts
  if completed = 0 then some 0 else (divide h.timeouts completed).map (· * 100)

/-- `calculate_recent_loss`, checked. -/
def calculateRecentLossChecked (recent : List Bool) : Option ℚ :=
  if recent.isEmpty then some 0 else (divide (recent.count false) recent.length).map (· * 100)

/-- The loss of one flow, checked. -/
def FlowPathStats.lossPctChecked (s : FlowPathStats) : Option ℚ :=
  let completed := s.received + s.timeouts
  if 0 < completed then (divide s.timeouts completed).map (· * 100) else some 0

/-- `is_uniform_flow_loss`, checked. -/
def Hop.isUniformFlowLossChecked (h : Hop) : Option Bool :=
  if h.flow_paths.entries.length < 2 then some false
  else do
    let losses ← h.sampledFlows.mapM FlowPathStats.lossPctChecked
    if losses.length < 2 then return false
    else if losses.all fun l => l < 5 then return false
    else
      let mean ← divide losses.sum losses.length
      let squares : List ℚ := losses.map fun l => (l - mean)^2
      let variance ← divide squares.sum losses.length
      return decide (variance < 25)

/-- `is_stable_loss_ratio`, checked. -/
def isStableLossRatioChecked (recent : List Bool) : Option Bool :=
  if recent.length < 20 then some false
  else do
    let len := recent.length
    let seg1_len := len / 3
    let seg2_len := len / 3
    let seg3_len := len - seg1_len - seg2_len
    let first_loss ← divide ((recent.take seg1_len).count false) seg1_len
    let second_loss ← divide (((recent.drop seg1_len).take seg2_len).count false) seg2_len
    let third_loss ← divide ((recent.drop (seg1_len + seg2_len)).count false) seg3_len
    let max_diff := max (max |first_loss - second_loss| |second_loss - third_loss|) |first_loss - third_loss|
    return decide (max_diff < 1 / 10)

namespace Session

/-- `find_next_responding_hop_loss`, checked. -/
def findNextRespondingHopLossChecked (s : Session) (ttl : UInt8) : Option (Option ℚ) :=
  (ttlRange (ttl + 1) (UInt8.ofNat s.hops.length)).findSomeM? fun next_ttl =>
    match s.hop next_ttl with
    | none => some none
    | some hop =>
      if 0 < hop.received ∧ 5 ≤ hop.received + hop.timeouts then hop.lossPctChecked.map some else some none

/-- `detect_rate_limiting`, checked. -/
def detectRateLimitingChecked (s : Session) (ttl : UInt8) : Option (Option RateLimitInfo) :=
  match s.hop ttl with
  | none => some none
  | some hop =>
    let completed := hop.received + hop.timeouts
    if completed < 10 then some none
    else do
      let hop_loss ← hop.lossPctChecked
      if hop_loss < 5 then return none
      else
        let downstream_loss ← s.findNextRespondingHopLossChecked ttl
        match downstream_loss.filter fun dl => 15 < hop_loss ∧ dl < 5 with
        | some dl => return some (.isolated hop_loss dl)
        | none =>
          let is_uniform ←
            if 2 ≤ hop.flow_paths.entries.length then hop.isUniformFlowLossChecked else some false
          if is_uniform then return some (.uniform hop_loss downstream_loss)
          else
            let recent_loss ← calculateRecentLossChecked hop.recent_results
            let is_stable ← isStableLossRatioChecked hop.recent_results
            if is_stable ∧ 10 < recent_loss then return some (.stable hop_loss downstream_loss)
            else return none

/-- `hop_mut`, with what its caller does to the hop, checked. -/
def hopMutChecked (s : Session) (ttl : UInt8) (f : Hop → Option Hop) : Option Session :=
  match s.hop ttl with
  | none => some s
  | some hop => (f hop).map fun hop' => s.hopMut ttl fun _ => hop'

end Session

/-- What `analyze_rate_limiting` does to a hop with its results for it, checked. -/
def Hop.applyRateLimitChecked (info : Option RateLimitInfo) (downstream_loss : Option ℚ) (hop : Hop) : Option Hop :=
  match info with
  | some new_info => some { hop with rate_limit := some new_info }
  | none => hop.lossPctChecked.map fun hop_loss => hop.countNegativeCheck hop_loss downstream_loss

/-- `analyze_rate_limiting`, checked. -/
def Session.analyzeRateLimitingChecked (s : Session) : Option Session := do
  let results ← (ttls (UInt8.ofNat s.hops.length)).mapM fun ttl => do
    let downstream ← s.findNextRespondingHopLossChecked ttl
    let info ← s.detectRateLimitingChecked ttl
    return (ttl, info, downstream)
  results.foldlM (fun s r => s.hopMutChecked r.1 (Hop.applyRateLimitChecked r.2.1 r.2.2)) s

/-! ## No check fails -/

/-- The loss of a hop divides by no zero. -/
@[simp]
theorem Hop.lossPctChecked_eq (h : Hop) : h.lossPctChecked = some h.lossPct := by
  unfold lossPctChecked lossPct
  dsimp only
  split_ifs with hzero
  · rfl
  · rw [divide_natCast hzero, Option.map_some]

/-- The recent loss divides by no zero. -/
@[simp]
theorem calculateRecentLossChecked_eq (recent : List Bool) :
    calculateRecentLossChecked recent = some (calculateRecentLoss recent) := by
  unfold calculateRecentLossChecked calculateRecentLoss
  split_ifs with hempty
  · rfl
  · have hlength : recent.length ≠ 0 := fun h => hempty (List.isEmpty_iff_length_eq_zero.mpr h)
    rw [divide_natCast hlength, Option.map_some]

/-- The loss of a flow divides by no zero. -/
theorem FlowPathStats.lossPctChecked_eq (s : FlowPathStats) : s.lossPctChecked = some s.lossPct := by
  unfold lossPctChecked lossPct
  dsimp only
  split_ifs with hpos
  · rw [divide_natCast hpos.ne', Option.map_some]
  · rfl

/-- The comparison of the flows' losses divides by no zero. -/
@[simp]
theorem Hop.isUniformFlowLossChecked_eq (h : Hop) : h.isUniformFlowLossChecked = some h.isUniformFlowLoss := by
  have hlosses : h.sampledFlows.mapM FlowPathStats.lossPctChecked =
      some (h.sampledFlows.map FlowPathStats.lossPct) := by
    have hfun : FlowPathStats.lossPctChecked = fun s => pure s.lossPct :=
      funext FlowPathStats.lossPctChecked_eq
    rw [hfun, List.mapM_pure]
    rfl
  unfold isUniformFlowLossChecked isUniformFlowLoss
  rw [hlosses]
  dsimp only [Option.bind_eq_bind, Option.bind_some]
  generalize h.sampledFlows.map FlowPathStats.lossPct = losses
  by_cases hflows : h.flow_paths.entries.length < 2
  · rw [if_pos hflows, if_pos hflows]
  rw [if_neg hflows, if_neg hflows]
  by_cases htwo : losses.length < 2
  · rw [if_pos htwo, if_pos htwo]
    rfl
  rw [if_neg htwo, if_neg htwo]
  by_cases hall : losses.all fun l => l < 5
  · rw [if_pos hall, if_pos hall]
    rfl
  rw [if_neg hall, if_neg hall]
  have hlength : losses.length ≠ 0 := by omega
  simp only [divide_natCast hlength, Option.bind_some]
  rfl

/-- The test for a stable loss divides by no zero. -/
@[simp]
theorem isStableLossRatioChecked_eq (recent : List Bool) :
    isStableLossRatioChecked recent = some (isStableLossRatio recent) := by
  unfold isStableLossRatioChecked isStableLossRatio
  dsimp only [Option.bind_eq_bind]
  by_cases hshort : recent.length < 20
  · rw [if_pos hshort, if_pos hshort]
  · -- Each third of at least 20 results has some.
    have hfirst : recent.length / 3 ≠ 0 := by omega
    have hthird : recent.length - recent.length / 3 - recent.length / 3 ≠ 0 := by omega
    rw [if_neg hshort, if_neg hshort, divide_natCast hfirst, divide_natCast hfirst, divide_natCast hthird]
    rfl

namespace Session

/-- The loss of the next hop that responds divides by no zero. -/
@[simp]
theorem findNextRespondingHopLossChecked_eq (s : Session) (ttl : UInt8) :
    s.findNextRespondingHopLossChecked ttl = some (s.findNextRespondingHopLoss ttl) := by
  unfold findNextRespondingHopLossChecked findNextRespondingHopLoss
  rw [← Option.pure_def, ← List.findSomeM?_pure]
  congr 1
  funext next_ttl
  cases s.hop next_ttl with
  | none => rfl
  | some hop =>
    dsimp only [Option.bind_some]
    split_ifs
    · rw [Hop.lossPctChecked_eq]
      rfl
    · rfl

/-- The detection divides by no zero. -/
@[simp]
theorem detectRateLimitingChecked_eq (s : Session) (ttl : UInt8) :
    s.detectRateLimitingChecked ttl = some (s.detectRateLimiting ttl) := by
  unfold detectRateLimitingChecked detectRateLimiting
  cases s.hop ttl with
  | none => rfl
  | some hop =>
    dsimp only [Option.bind_some]
    simp only [Hop.lossPctChecked_eq, findNextRespondingHopLossChecked_eq, Hop.isUniformFlowLossChecked_eq,
      calculateRecentLossChecked_eq, isStableLossRatioChecked_eq, Option.bind_eq_bind, Option.bind_some]
    by_cases hcompleted : hop.received + hop.timeouts < 10
    · rw [if_pos hcompleted, if_pos hcompleted]
    rw [if_neg hcompleted, if_neg hcompleted]
    by_cases hloss : hop.lossPct < 5
    · rw [if_pos hloss, if_pos hloss]
      rfl
    rw [if_neg hloss, if_neg hloss]
    cases (s.findNextRespondingHopLoss ttl).filter fun dl => 15 < hop.lossPct ∧ dl < 5 with
    | some dl => rfl
    | none =>
      -- The flows are compared only where there are two.
      dsimp only
      by_cases hflows : 2 ≤ hop.flow_paths.entries.length
      · rw [if_pos hflows]
        cases hop.isUniformFlowLoss with
        | true =>
          rw [if_pos rfl, if_pos ⟨hflows, rfl⟩]
          rfl
        | false =>
          have hnot : ¬(2 ≤ hop.flow_paths.entries.length ∧ false = true) := fun h => Bool.false_ne_true h.2
          rw [if_neg Bool.false_ne_true, if_neg hnot, apply_ite some]
          rfl
      · have hnot : ¬(2 ≤ hop.flow_paths.entries.length ∧ hop.isUniformFlowLoss = true) := fun h => hflows h.1
        rw [if_neg hflows, if_neg Bool.false_ne_true, if_neg hnot, apply_ite some]
        rfl

end Session

/-- What the detection makes of the hop divides by no zero. -/
theorem Hop.applyRateLimitChecked_eq (info : Option RateLimitInfo) (downstream_loss : Option ℚ) (hop : Hop) :
    hop.applyRateLimitChecked info downstream_loss = some (hop.applyRateLimit info downstream_loss) := by
  cases info with
  | some new_info => rfl
  | none =>
    rw [applyRateLimitChecked, lossPctChecked_eq]
    rfl

namespace Session

/-- An update that does not fail. -/
theorem hopMutChecked_eq (s : Session) (ttl : UInt8) {f : Hop → Option Hop} {g : Hop → Hop}
    (h : ∀ hop, f hop = some (g hop)) : s.hopMutChecked ttl f = some (s.hopMut ttl g) := by
  unfold hopMutChecked
  have hlookup : s.hop ttl = if ttl = 0 then none else s.hops[ttl.toNat - 1]? := rfl
  cases hhop : s.hop ttl with
  | none =>
    rw [hhop] at hlookup
    dsimp only
    unfold hopMut
    split_ifs at hlookup ⊢ with hzero
    · rfl
    · rw [List.modify_eq_self (List.getElem?_eq_none_iff.mp hlookup.symm)]
  | some hop =>
    rw [hhop] at hlookup
    dsimp only
    rw [h, Option.map_some]
    unfold hopMut
    split_ifs at hlookup ⊢ with hzero
    congr 2
    refine List.ext_getElem? fun i => ?_
    rw [List.getElem?_modify, List.getElem?_modify]
    by_cases hi : ttl.toNat - 1 = i
    · subst hi
      rw [← hlookup]
      rfl
    · simp only [hi, if_false]

/-- **No analysis divides by zero.** -/
theorem analyzeRateLimitingChecked_eq (s : Session) : s.analyzeRateLimitingChecked = some s.analyzeRateLimiting := by
  unfold analyzeRateLimitingChecked analyzeRateLimiting
  simp only [findNextRespondingHopLossChecked_eq, detectRateLimitingChecked_eq, Option.bind_eq_bind, Option.bind_some,
    List.mapM_pure]
  rw [Option.pure_def, Option.bind_some]
  generalize (ttls (UInt8.ofNat s.hops.length)).map (fun ttl =>
    (ttl, s.detectRateLimiting ttl, s.findNextRespondingHopLoss ttl)) = results
  induction results generalizing s with
  | nil => rfl
  | cons r results ih =>
    rw [List.foldlM_cons, List.foldl_cons, hopMutChecked_eq s r.1 (Hop.applyRateLimitChecked_eq r.2.1 r.2.2),
      Option.bind_eq_bind, Option.bind_some]
    exact ih _

end Session

end Ttl
