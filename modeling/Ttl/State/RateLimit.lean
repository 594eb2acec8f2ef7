import Ttl.Lib.Text
import Ttl.Lib.Hysteresis
import Ttl.State.Stats
import Ttl.State.Tally

/-!
# Rate limits

`src/state/ratelimit.rs`: the three checks for a router that limits the rate of its ICMP responses
(`detectRateLimiting`), and the flag that a hop keeps between one analysis of the session and the next
(`analyzeRateLimiting`). An `f64` is a rational, and a standard deviation is compared by its square.

The second half writes the same functions with a division that fails on zero, and proves that it never does.
-/

namespace Ttl

/-- `calculate_recent_loss`. -/
def calculateRecentLoss (recent : List Bool) : ℚ :=
  if recent.isEmpty then 0 else (recent.count false : ℚ) / recent.length * 100

/-- The loss of one flow in `is_uniform_flow_loss`. -/
def FlowPathStats.lossPct (s : FlowPathStats) : ℚ :=
  let completed := s.received + s.timeouts
  if 0 < completed then (s.timeouts : ℚ) / completed * 100 else 0

/-- The flows with enough samples for `is_uniform_flow_loss`. -/
def Hop.sampledFlows (h : Hop) : List FlowPathStats :=
  (h.flow_paths.entries.map fun e => e.2).filter fun s => 5 ≤ s.sent

/-- `is_uniform_flow_loss`. -/
def Hop.isUniformFlowLoss (h : Hop) : Bool :=
  if h.flow_paths.entries.length < 2 then false
  else
    let losses := h.sampledFlows.map FlowPathStats.lossPct
    if losses.length < 2 then false
    else if losses.all fun l => l < 5 then false
    else
      let mean : ℚ := losses.sum / losses.length
      let squares : List ℚ := losses.map fun l => (l - mean)^2
      let variance : ℚ := squares.sum / losses.length
      -- The source compares the square root, the standard deviation, with 5.
      variance < 25

/-- `is_stable_loss_ratio`. -/
def isStableLossRatio (recent : List Bool) : Bool :=
  if recent.length < 20 then false
  else
    let len := recent.length
    let seg1_len := len / 3
    let seg2_len := len / 3
    let seg3_len := len - seg1_len - seg2_len
    let first_loss : ℚ := (recent.take seg1_len).count false / seg1_len
    let second_loss : ℚ := ((recent.drop seg1_len).take seg2_len).count false / seg2_len
    let third_loss : ℚ := (recent.drop (seg1_len + seg2_len)).count false / seg3_len
    let max_diff := max (max |first_loss - second_loss| |second_loss - third_loss|) |first_loss - third_loss|
    max_diff < 1 / 10

namespace RateLimitInfo

/-- What `detect_rate_limiting` returns when a check matches. -/
def matched (confidence : ℚ) (reason : String) (hop_loss : ℚ) (downstream_loss : Option ℚ) : RateLimitInfo where
  suspected := true
  confidence := confidence
  reason := some reason
  hop_loss := hop_loss
  downstream_loss := downstream_loss
  negative_checks := 0

/-- Loss at the hop, and little at the next one. -/
def isolated (hop_loss dl : ℚ) : RateLimitInfo :=
  matched (85 / 100)
    (String.ofList (Text.fixed 0 hop_loss) ++ "% loss here but " ++ String.ofList (Text.fixed 0 dl) ++
      "% downstream - packets aren't being dropped") hop_loss (some dl)

/-- The same loss on all flows. -/
def uniform : ℚ → Option ℚ → RateLimitInfo :=
  matched (75 / 100) "All flows showing equal loss (rate limit, not path issue)"

/-- The same loss over time. -/
def stable : ℚ → Option ℚ → RateLimitInfo := matched (6 / 10) "Stable loss ratio suggests rate limiting"

end RateLimitInfo

namespace Session

/-- A range of TTLs, both ends included. -/
def ttlRange (first last : UInt8) : List UInt8 :=
  (List.range (last.toNat + 1 - first.toNat)).map fun i => UInt8.ofNat (first.toNat + i)

/-- `find_next_responding_hop_loss`. -/
def findNextRespondingHopLoss (s : Session) (ttl : UInt8) : Option ℚ :=
  (ttlRange (ttl + 1) (UInt8.ofNat s.hops.length)).findSome? fun next_ttl =>
    (s.hop next_ttl).bind fun hop =>
      if 0 < hop.received ∧ 5 ≤ hop.received + hop.timeouts then some hop.lossPct else none

/-- `detect_rate_limiting`. -/
def detectRateLimiting (s : Session) (ttl : UInt8) : Option RateLimitInfo :=
  (s.hop ttl).bind fun hop =>
    let completed := hop.received + hop.timeouts
    if completed < 10 then none
    else
      let hop_loss := hop.lossPct
      if hop_loss < 5 then none
      else
        let downstream_loss := s.findNextRespondingHopLoss ttl
        match downstream_loss.filter fun dl => 15 < hop_loss ∧ dl < 5 with
        | some dl => some (.isolated hop_loss dl)
        | none =>
          if 2 ≤ hop.flow_paths.entries.length ∧ hop.isUniformFlowLoss then
            some (.uniform hop_loss downstream_loss)
          else
            let recent_loss := calculateRecentLoss hop.recent_results
            if isStableLossRatio hop.recent_results ∧ 10 < recent_loss then
              some (.stable hop_loss downstream_loss)
            else none

end Session

/-- What `analyze_rate_limiting` does to a hop for which no check matches. -/
def Hop.countNegativeCheck (hop_loss : ℚ) (downstream_loss : Option ℚ) (hop : Hop) : Hop :=
  let completed := hop.received + hop.timeouts
  let downstream_high := downstream_loss.any fun dl => 10 ≤ dl
  match hop.rate_limit with
  | none => hop
  | some existing =>
    let existing := { existing with negative_checks := min (existing.negative_checks + 1) 255 }
    let quick_clear := 2 ≤ existing.negative_checks ∧ 20 < completed ∧ (hop_loss < 5 ∨ downstream_high)
    let force_clear := 5 ≤ existing.negative_checks ∧ 20 < completed
    { hop with rate_limit := if quick_clear ∨ force_clear then none else some existing }

/-- What it does to a hop with its results for it. -/
def Hop.applyRateLimit (info : Option RateLimitInfo) (downstream_loss : Option ℚ) (hop : Hop) : Hop :=
  match info with
  | some new_info => { hop with rate_limit := some new_info }
  | none => hop.countNegativeCheck hop.lossPct downstream_loss

/-- `analyze_rate_limiting`: all results first, then the updates. -/
def Session.analyzeRateLimiting (s : Session) : Session :=
  let results := (ttls (UInt8.ofNat s.hops.length)).map fun ttl =>
    (ttl, s.detectRateLimiting ttl, s.findNextRespondingHopLoss ttl)
  results.foldl (fun s r => s.hopMut r.1 (Hop.applyRateLimit r.2.1 r.2.2)) s

/-! ## One analysis -/

/-- The hop without its flag. -/
def Hop.unflagged (h : Hop) : Hop := { h with rate_limit := none }

/-- A hop is its flag and the rest. -/
theorem Hop.ext_unflagged {h h' : Hop} (hrest : h.unflagged = h'.unflagged) (hflag : h.rate_limit = h'.rate_limit) :
    h = h' := by
  cases h
  cases h'
  cases hflag
  simp only [Hop.unflagged, Hop.mk.injEq] at hrest ⊢
  tauto

/-- What is suspected is no counter of the hop. -/
theorem Hop.unflagged_applyRateLimit (info : Option RateLimitInfo) (downstream_loss : Option ℚ) (h : Hop) :
    (h.applyRateLimit info downstream_loss).unflagged = h.unflagged := by
  cases info with
  | some new_info => rfl
  | none =>
    unfold Hop.applyRateLimit Hop.countNegativeCheck
    dsimp only
    split <;> rfl

namespace Session

/-- The session without its flags. -/
def unflagged (s : Session) : Session := { s with hops := s.hops.map Hop.unflagged }

/-- Forgetting what is suspected, hop by hop. -/
theorem hop_unflagged (s : Session) (ttl : UInt8) : s.unflagged.hop ttl = (s.hop ttl).map Hop.unflagged := by
  unfold hop unflagged
  split_ifs
  · rfl
  · exact List.getElem?_map

/-- No check reads a flag. -/
theorem findNextRespondingHopLoss_unflagged (s : Session) (ttl : UInt8) :
    s.unflagged.findNextRespondingHopLoss ttl = s.findNextRespondingHopLoss ttl := by
  have hlength : s.unflagged.hops.length = s.hops.length := List.length_map _
  unfold findNextRespondingHopLoss
  rw [hlength]
  congr 1
  funext next_ttl
  rw [hop_unflagged]
  cases s.hop next_ttl <;> rfl

/-- The detection does not look at what is suspected. -/
theorem detectRateLimiting_unflagged (s : Session) (ttl : UInt8) :
    s.unflagged.detectRateLimiting ttl = s.detectRateLimiting ttl := by
  unfold detectRateLimiting
  rw [hop_unflagged, findNextRespondingHopLoss_unflagged]
  cases s.hop ttl <;> rfl

/-- A round has no TTL twice. -/
theorem nodup_ttls (max : UInt8) : (ttls max).Nodup := by
  refine List.Nodup.map_on ?_ List.nodup_range
  intro i hi j hj h
  have hlt : max.toNat < 256 := max.toNat_lt
  rw [List.mem_range] at hi hj
  have heq := congrArg UInt8.toNat h
  rw [UInt8.toNat_ofNat', UInt8.toNat_ofNat', Nat.mod_eq_of_lt (by omega), Nat.mod_eq_of_lt (by omega)] at heq
  omega

/-- Updates at different TTLs do not meet. -/
theorem hop_foldl_hopMut {l : List UInt8} (hnodup : l.Nodup) (f : UInt8 → Hop → Hop) (s : Session) (k : UInt8) :
    (l.foldl (fun s ttl => s.hopMut ttl (f ttl)) s).hop k = if k ∈ l then (s.hop k).map (f k) else s.hop k := by
  induction l generalizing s with
  | nil => rfl
  | cons ttl l ih =>
    obtain ⟨hnot, hnodup⟩ := List.nodup_cons.mp hnodup
    rw [List.foldl_cons, ih hnodup, hop_hopMut]
    by_cases hk : k = ttl
    · subst hk
      rw [if_neg hnot, if_pos rfl, if_pos List.mem_cons_self]
    · have hmem : k ∈ ttl :: l ↔ k ∈ l := by rw [List.mem_cons, or_iff_right hk]
      rw [if_neg hk]
      exact if_congr hmem.symm rfl rfl

/-- **What an analysis does to each hop.** -/
theorem hop_analyzeRateLimiting {s : Session} (hlen : s.hops.length ≤ 255) (ttl : UInt8) :
    s.analyzeRateLimiting.hop ttl =
      (s.hop ttl).map (Hop.applyRateLimit (s.detectRateLimiting ttl) (s.findNextRespondingHopLoss ttl)) := by
  unfold analyzeRateLimiting
  rw [List.foldl_map, hop_foldl_hopMut (nodup_ttls _) fun ttl =>
    Hop.applyRateLimit (s.detectRateLimiting ttl) (s.findNextRespondingHopLoss ttl)]
  by_cases hmem : ttl ∈ ttls (UInt8.ofNat s.hops.length)
  · rw [if_pos hmem]
  · -- A TTL that is not analysed has no hop.
    have hnone : s.hop ttl = none := by
      rw [← Option.not_isSome_iff_eq_none, isSome_hop]
      rintro ⟨hne, hle⟩
      refine hmem (mem_ttls.mpr ⟨hne, ?_⟩)
      rw [UInt8.le_iff_toNat_le, UInt8.toNat_ofNat', Nat.mod_eq_of_lt (by omega)]
      exact hle
    rw [if_neg hmem, hnone]
    rfl

/-- An update of a hop keeps what it keeps of every hop. -/
theorem map_hopMut {α : Type*} (s : Session) (ttl : UInt8) {f : Hop → Hop} {g : Hop → α} (hf : ∀ h, g (f h) = g h) :
    (s.hopMut ttl f).hops.map g = s.hops.map g := by
  rw [hopMut_hops]
  split_ifs with h
  · rfl
  refine List.ext_getElem? fun i => ?_
  rw [List.getElem?_map, List.getElem?_map, List.getElem?_modify]
  cases s.hops[i]? with
  | none => rfl
  | some hop =>
    rw [Option.map_eq_map, Option.map_some, Option.map_some, Option.map_some]
    split_ifs
    · rw [hf]
    · rfl

/-- An analysis keeps all but the flags. -/
theorem unflagged_analyzeRateLimiting (s : Session) : s.analyzeRateLimiting.unflagged = s.unflagged := by
  unfold analyzeRateLimiting
  generalize (ttls (UInt8.ofNat s.hops.length)).map (fun ttl =>
    (ttl, s.detectRateLimiting ttl, s.findNextRespondingHopLoss ttl)) = results
  induction results generalizing s with
  | nil => rfl
  | cons r results ih =>
    have hstep : (s.hopMut r.1 (Hop.applyRateLimit r.2.1 r.2.2)).unflagged = s.unflagged := by
      unfold unflagged
      rw [map_hopMut _ _ fun h => Hop.unflagged_applyRateLimit _ _ h]
      rfl
    rw [List.foldl_cons, ih, hstep]

/-- Sessions that agree up to the flags, and in the flag at a TTL, agree there after an analysis. -/
theorem hop_analyzeRateLimiting_congr {s s' : Session} (hlen : s.hops.length ≤ 255)
    (hrest : s.unflagged = s'.unflagged) {ttl : UInt8}
    (hflag : (s.hop ttl).bind Hop.rate_limit = (s'.hop ttl).bind Hop.rate_limit) :
    s.analyzeRateLimiting.hop ttl = s'.analyzeRateLimiting.hop ttl := by
  have hlength : s.hops.length = s'.hops.length := by
    simpa [unflagged] using congrArg (fun s => s.hops.length) hrest
  have hhop : s.hop ttl = s'.hop ttl := by
    have hmap : (s.hop ttl).map Hop.unflagged = (s'.hop ttl).map Hop.unflagged := by
      rw [← hop_unflagged, ← hop_unflagged, hrest]
    cases h : s.hop ttl with
    | none =>
      rw [h, Option.map_none] at hmap
      rw [Option.map_eq_none_iff.mp hmap.symm]
    | some hop =>
      rw [h, Option.map_some] at hmap
      obtain ⟨hop', h', hrest'⟩ := Option.map_eq_some_iff.mp hmap.symm
      rw [h, h', Option.bind_some, Option.bind_some] at hflag
      rw [h', Hop.ext_unflagged hrest'.symm hflag]
  rw [hop_analyzeRateLimiting hlen, hop_analyzeRateLimiting (hlength ▸ hlen), hhop,
    ← detectRateLimiting_unflagged, ← findNextRespondingHopLoss_unflagged, hrest, detectRateLimiting_unflagged,
    findNextRespondingHopLoss_unflagged]

/-- A check matches only with enough probes and loss. -/
theorem detectRateLimiting_isSome {s : Session} {ttl : UInt8} (h : (s.detectRateLimiting ttl).isSome) :
    ∃ hop, s.hop ttl = some hop ∧ 10 ≤ hop.received + hop.timeouts ∧ 5 ≤ hop.lossPct := by
  unfold detectRateLimiting at h
  cases hhop : s.hop ttl with
  | none =>
    rw [hhop] at h
    cases h
  | some hop =>
    rw [hhop, Option.bind_some] at h
    dsimp only at h
    by_cases hcompleted : hop.received + hop.timeouts < 10
    · rw [if_pos hcompleted] at h
      cases h
    by_cases hloss : hop.lossPct < 5
    · rw [if_neg hcompleted, if_pos hloss] at h
      cases h
    exact ⟨hop, rfl, Nat.not_lt.mp hcompleted, not_lt.mp hloss⟩

/-- What is detected starts without negative checks. -/
theorem negative_checks_of_detectRateLimiting {s : Session} {ttl : UInt8} {info : RateLimitInfo}
    (h : s.detectRateLimiting ttl = some info) : info.negative_checks = 0 := by
  unfold detectRateLimiting at h
  obtain ⟨hop, -, h⟩ := Option.bind_eq_some_iff.mp h
  dsimp only at h
  split_ifs at h <;> split at h <;> cases h <;> rfl

/-! ## The flag as a hysteresis -/

/-- The flag of the hop of a TTL. -/
def rateLimit (s : Session) (ttl : UInt8) : Option RateLimitInfo := (s.hop ttl).bind Hop.rate_limit

/-- The detection matches for the hop. -/
def Matches (s : Session) (ttl : UInt8) : Prop := (s.detectRateLimiting ttl).isSome

/-- A flag of the given age is cleared. -/
def Expires (s : Session) (ttl : UInt8) (age : ℕ) : Prop :=
  ∃ hop ∈ s.hop ttl, 20 < hop.received + hop.timeouts ∧
    (5 ≤ age ∨ 2 ≤ age ∧ (hop.lossPct < 5 ∨ ∃ dl ∈ s.findNextRespondingHopLoss ttl, 10 ≤ dl))

instance (s : Session) (ttl : UInt8) : Decidable (s.Matches ttl) := inferInstanceAs (Decidable (_ = _))

instance (s : Session) (ttl : UInt8) (age : ℕ) : Decidable (s.Expires ttl age) :=
  inferInstanceAs (Decidable (∃ hop ∈ s.hop ttl, 20 < hop.received + hop.timeouts ∧
    (5 ≤ age ∨ 2 ≤ age ∧ (hop.lossPct < 5 ∨ ∃ dl ∈ s.findNextRespondingHopLoss ttl, 10 ≤ dl))))

/-- The flag's counter is the age, as far as a `u8` holds it. -/
def Aged (flag : Option RateLimitInfo) (level : Option ℕ) : Prop :=
  flag.map (fun info => min info.negative_checks 255) = level.map (min · 255)

/-- There is a flag where the level is not zero. -/
theorem Aged.isSome {flag : Option RateLimitInfo} {level : Option ℕ} (h : Aged flag level) :
    flag.isSome ↔ level.isSome := by
  have hsome := congrArg Option.isSome h
  rw [Option.isSome_map, Option.isSome_map] at hsome
  rw [hsome]

/-- Saturation does not matter for the clear: both thresholds are far below it. -/
theorem expires_succ_iff {s : Session} {ttl : UInt8} {hop : Hop} (hhop : s.hop ttl = some hop) {checks age : ℕ}
    (hage : min checks 255 = min age 255) :
    s.Expires ttl (age + 1) ↔
      (2 ≤ min (checks + 1) 255 ∧ 20 < hop.received + hop.timeouts ∧
          (hop.lossPct < 5 ∨ (s.findNextRespondingHopLoss ttl).any (fun dl => 10 ≤ dl)) ∨
        5 ≤ min (checks + 1) 255 ∧ 20 < hop.received + hop.timeouts) := by
  have htwo : 2 ≤ min (checks + 1) 255 ↔ 2 ≤ age + 1 := by omega
  have hfive : 5 ≤ min (checks + 1) 255 ↔ 5 ≤ age + 1 := by omega
  have hhigh : (∃ dl ∈ s.findNextRespondingHopLoss ttl, 10 ≤ dl) ↔
      (s.findNextRespondingHopLoss ttl).any (fun dl => 10 ≤ dl) = true := by
    cases s.findNextRespondingHopLoss ttl <;> simp
  rw [htwo, hfive, ← hhigh, Expires, hhop]
  constructor
  · rintro ⟨_, ⟨⟩, hcompleted, hage | ⟨hage, hlow⟩⟩
    · exact .inr ⟨hage, hcompleted⟩
    · exact .inl ⟨hage, hcompleted, hlow⟩
  · rintro (⟨hage, hcompleted, hlow⟩ | ⟨hage, hcompleted⟩)
    · exact ⟨hop, rfl, hcompleted, .inr ⟨hage, hlow⟩⟩
    · exact ⟨hop, rfl, hcompleted, .inl hage⟩

/-- A negative check makes a flag one older, or clears it. -/
theorem Aged.countNegativeCheck {s : Session} {ttl : UInt8} {hop : Hop} (hhop : s.hop ttl = some hop)
    {level : Option ℕ} (h : Aged hop.rate_limit level) :
    Aged (hop.countNegativeCheck hop.lossPct (s.findNextRespondingHopLoss ttl)).rate_limit
      (level.bind fun age => if s.Expires ttl (age + 1) then none else some (age + 1)) := by
  unfold Hop.countNegativeCheck
  cases hflag : hop.rate_limit with
  | none =>
    rw [hflag, Aged, Option.map_none] at h
    rw [Option.map_eq_none_iff.mp h.symm]
    exact congrArg _ hflag
  | some existing =>
    rw [hflag, Aged, Option.map_some] at h
    obtain ⟨age, rfl, hage⟩ := Option.map_eq_some_iff.mp h.symm
    have hexpires := expires_succ_iff hhop hage.symm
    rw [Option.bind_some, Aged]
    dsimp only
    by_cases hexp : s.Expires ttl (age + 1)
    · rw [if_pos hexp, if_pos (hexpires.mp hexp)]
      rfl
    · rw [if_neg hexp, if_neg fun hc => hexp (hexpires.mpr hc), Option.map_some, Option.map_some, Option.some.injEq]
      dsimp only
      omega

/-- An analysis is a check of the hysteresis. -/
theorem Aged.analyzeRateLimiting {s : Session} (hlen : s.hops.length ≤ 255) {ttl : UInt8} {level : Option ℕ}
    (h : Aged (s.rateLimit ttl) level) :
    Aged (s.analyzeRateLimiting.rateLimit ttl) (Hysteresis.next (s.Matches ttl) (s.Expires ttl) level) := by
  unfold rateLimit at h ⊢
  rw [hop_analyzeRateLimiting hlen, Hysteresis.next]
  cases hhop : s.hop ttl with
  | none =>
    -- Without a hop nothing is ever flagged.
    have hnot : ¬s.Matches ttl := by
      intro hm
      obtain ⟨hop, hsome, -⟩ := detectRateLimiting_isSome hm
      rw [hhop] at hsome
      cases hsome
    have hlevel : level = none := by
      rw [hhop, Option.bind_none, Aged, Option.map_none] at h
      exact Option.map_eq_none_iff.mp h.symm
    rw [if_neg hnot, hlevel]
    rfl
  | some hop =>
    rw [hhop, Option.bind_some] at h
    rw [Option.map_some, Option.bind_some]
    unfold Hop.applyRateLimit
    cases hinfo : s.detectRateLimiting ttl with
    | some info =>
      have hmatch : s.Matches ttl := by rw [Matches, hinfo]; rfl
      rw [if_pos hmatch, Aged, Option.map_some, Option.map_some, negative_checks_of_detectRateLimiting hinfo]
    | none =>
      have hnot : ¬s.Matches ttl := by rw [Matches, hinfo]; exact Bool.false_ne_true
      rw [if_neg hnot]
      exact Aged.countNegativeCheck hhop h

end Session

end Ttl
