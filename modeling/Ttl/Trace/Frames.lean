import Ttl.State.RateLimit
import Ttl.Trace.Aggregates

/-!
# What no operation touches

The TTLs of the hops, which stay those of a fresh session, and the flags of rate limits, which only their own analysis
and a reset change.
-/

namespace Ttl

namespace Hop

/-- What no recording changes: the TTL of a hop and its flag. -/
def marks (h : Hop) : UInt8 × Option RateLimitInfo := (h.ttl, h.rate_limit)

/-- A response keeps the marks of a hop. -/
theorem marks_recordResponseDetectingFlapsWithExtensions (h : Hop) (ip : IpAddr) (rtt : ℕ)
    (mpls_labels : Option (List MplsLabel)) (interface_info : Option (List IcmpInterfaceInfo)) :
    (h.recordResponseDetectingFlapsWithExtensions ip rtt mpls_labels interface_info).marks = h.marks := by
  have htrack : ∀ h : Hop, h.trackFlapPrimary.marks = h.marks := by
    intro h
    unfold trackFlapPrimary
    dsimp only
    split
    · rfl
    · split_ifs <;> rfl
  unfold recordResponseDetectingFlapsWithExtensions
  dsimp only
  split
  · split_ifs <;> exact htrack _
  · exact htrack _

/-- The check for NAT keeps the marks of a hop. -/
theorem marks_recordNatCheck (h : Hop) (original returned : Option UInt16) :
    (h.recordNatCheck original returned).marks = h.marks := by
  cases original <;> cases returned <;> rfl

/-- A response of a batch keeps the marks of a hop. -/
theorem marks_applyResponse (config : ReceiverConfig) (resp : BatchedResponse) (h : Hop) :
    (h.applyResponse config resp).marks = h.marks := by
  have hresponse : ∀ h : Hop, (if config.num_flows = 1 then
      h.recordResponseDetectingFlapsWithExtensions resp.responder resp.rtt resp.mpls_labels resp.interface_info
      else h.recordResponseWithExtensions resp.responder resp.rtt resp.mpls_labels
        resp.interface_info).marks = h.marks := by
    intro h
    split_ifs
    · exact h.marks_recordResponseDetectingFlapsWithExtensions _ _ _ _
    · rfl
  have hnat : ∀ h : Hop, ((h.recordFlowResponse resp.flow_id resp.responder).recordNatCheck
      resp.original_src_port resp.returned_src_port).marks = h.marks :=
    fun h => marks_recordNatCheck _ _ _
  -- The two TTLs that may come with the response are recorded elsewhere.
  refine Eq.trans ?_ ((hnat _).trans (hresponse h))
  unfold applyResponse
  cases resp.response_ttl <;> cases resp.quoted_ttl <;> dsimp only <;> (try split_ifs) <;> rfl

/-- A polled response keeps the marks of a hop. -/
theorem marks_applyPolled (resp : PolledResponse) (h : Hop) :
    (h.applyPolled resp).marks = h.marks := by
  have hresponse := h.marks_recordResponseDetectingFlapsWithExtensions resp.responder resp.rtt none none
  rw [← hresponse]
  unfold applyPolled
  cases resp.response_ttl <;> rfl

end Hop

namespace SessionOp

/-- A replayed response keeps the marks of a hop. -/
theorem marks_replayResponse (x : Session) (event : ProbeEvent) (addr : IpAddr) (rtt : ℕ) (h : Hop) :
    (x.replayResponse event addr rtt h).marks = h.marks := by
  unfold Session.replayResponse
  split_ifs
  · exact h.marks_recordResponseDetectingFlapsWithExtensions addr rtt none none
  · rfl

/-- Every operation on a session that is no reset keeps the marks of its hops. -/
theorem map_marks_apply (x : Session) {op : SessionOp} (hop : op.isReset = false) :
    (op.apply x).hops.map Hop.marks = x.hops.map Hop.marks := by
  cases op with
  | sent flow_id ttl => exact x.map_hopMut ttl fun h => rfl
  | response config now resp =>
    rw [apply, Session.applyResponse_eq]
    dsimp only
    split_ifs
    · rfl
    · exact x.map_hopMut _ fun h => h.marks_applyResponse config resp
  | timeout now record_events update_pmtud key probe =>
    rw [apply, Session.recordPendingTimeout_eq]
    dsimp only
    split_ifs
    · rfl
    · exact x.map_hopMut _ fun h => rfl
  | polled target resp =>
    rw [apply, Session.applyPolled_eq]
    dsimp only
    split_ifs
    · rfl
    · exact x.map_hopMut _ fun h => h.marks_applyPolled resp
  | replay event =>
    rw [apply, Session.applyReplayEvent]
    split_ifs with hnone
    · rfl
    cases event.outcome with
    | Reply addr rtt_us =>
      have hmap := x.map_hopMut event.ttl fun h =>
        marks_replayResponse x event addr (fromMicros rtt_us) h.recordSent
      dsimp only
      split_ifs <;> exact hmap
    | Timeout => exact x.map_hopMut _ fun h => rfl
    | LateReply addr rtt_us => exact x.map_hopMut _ fun h => marks_replayResponse x event addr _ h
  | reset now => cases hop
  | pmtudCheck config =>
    obtain ⟨pmtud, heq, -⟩ := Session.checkPmtudReady_eq config x
    rw [apply, heq]
  | _ => rfl

/-- **Only an analysis and a reset touch a flag.** -/
theorem map_rate_limit_apply (x : Session) {op : SessionOp} (hop : op.isReset = false) :
    (op.apply x).hops.map Hop.rate_limit = x.hops.map Hop.rate_limit := by
  have hmarks := congrArg (List.map Prod.snd) (map_marks_apply x hop)
  rwa [List.map_map, List.map_map] at hmarks

/-- **No operation touches a TTL.** -/
theorem map_ttl_apply (x : Session) (op : SessionOp) : (op.apply x).hops.map Hop.ttl = x.hops.map Hop.ttl := by
  cases hop : op.isReset with
  | true =>
    cases op with
    | reset now =>
      have hreset : Hop.ttl ∘ Hop.reset = Hop.ttl := rfl
      rw [apply, Session.resetStats, List.map_map, hreset]
    | _ => cases hop
  | false =>
    have hmarks := congrArg (List.map Prod.fst) (map_marks_apply x hop)
    rwa [List.map_map, List.map_map] at hmarks

/-- Operations keep the TTLs of the hops. -/
theorem map_ttl_foldl (ops : List SessionOp) (x : Session) :
    (ops.foldl apply x).hops.map Hop.ttl = x.hops.map Hop.ttl := by
  induction ops generalizing x with
  | nil => rfl
  | cons op ops ih => rw [List.foldl_cons, ih, map_ttl_apply]

/-- The hops of a session are those of the TTLs from 1 on, whatever was done to it. -/
theorem map_ttl_perform (target : IpAddr) (config : Config) (now : ℕ) (ops : List SessionOp) :
    (perform target config now ops).hops.map Hop.ttl = Session.ttls config.max_ttl := by
  have hnew : Hop.ttl ∘ Hop.new = id := rfl
  rw [perform, map_ttl_foldl, Session.new, List.map_map, hnew, List.map_id]

end SessionOp

end Ttl
