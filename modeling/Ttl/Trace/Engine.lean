import Ttl.Trace.Receiver

/-!
# The probe engine

The steps of `ProbeEngine` (`src/trace/engine.rs`) as functions: which probes a round sends, what a
sent probe does to the session, the path MTU probe between the rounds, and the poll of the send socket
for IPv6 Echo Replies. The engines of the three protocols and of the two address families differ in the
packets that they build and in these steps only by the protocol.
-/

namespace Ttl

/-- The probes of a round, in order: every flow, and for each flow every TTL up to the last. ICMP has
the single flow 0. -/
def probeOrder (config : Config) (max_probe_ttl : UInt8) : List (UInt8 × UInt8) :=
  let flows : List UInt8 :=
    match config.protocol with
    | .Icmp => [0]
    | _ => (List.range config.flows.toNat).map UInt8.ofNat
  flows.flatMap fun flow_id => (Session.ttls max_probe_ttl).map fun ttl => (flow_id, ttl)

/-- The source port of a flow: none for ICMP. -/
def sourcePort (config : Config) (flow_id : UInt8) : Option UInt16 :=
  match config.protocol with
  | .Icmp => none
  | _ => some (config.src_port_base + flow_id.toUInt16)

/-- `max_probe_ttl` of a round. -/
def Session.maxProbeTtl (s : Session) : UInt8 := s.dest_ttl.getD s.config.max_ttl

/-- What a sent normal probe adds to the session. -/
def Session.recordProbeSent (flow_id ttl : UInt8) (s : Session) : Session :=
  s.addSent.hopMut ttl fun h => h.recordSent.recordFlowSent flow_id

/-- `check_pmtud_ready`: the destination's TTL when a path MTU probe should be sent, which starts the
search when it waits for the destination. -/
def Session.checkPmtudReady (config : Config) (s : Session) : Session × Option UInt8 :=
  if config.pmtud then
    match s.dest_ttl, s.pmtud with
    | some dest_ttl, some pmtud =>
      match pmtud.phase with
      -- The destination is known now, so the search starts.
      | .WaitingForDestination => ({ s with pmtud := some pmtud.startSearch }, some dest_ttl)
      | .Searching => (s, some dest_ttl)
      | .Complete => (s, none)
    | _, _ => (s, none)
  else (s, none)

/-- `get_pmtud_probe_size`. -/
def Session.getPmtudProbeSize (s : Session) : Option ℕ :=
  s.pmtud.bind fun p => if p.phase = .Searching then some p.current_size else none

/-- The reaction of `send_pmtud_probe_icmp` and `send_pmtud_probe_icmp_hdrincl` to `EMSGSIZE`: the upper
bound is clamped below the probe's size. -/
def PmtudState.clampBelow (packet_size : ℕ) (p : PmtudState) : PmtudState :=
  PmtudState.advance { p with max_size := packet_size - 1, successes := 0, failures := 0 }

/-- The clamp, in the session. -/
@[simps]
def Session.clampPmtud (packet_size : ℕ) (s : Session) : Session :=
  { s with pmtud := s.pmtud.map (PmtudState.clampBelow packet_size) }

/-- An Echo Reply that the poll matched, until it is recorded. -/
structure PolledResponse where
  probe_id : ProbeId
  responder : IpAddr
  rtt : ℕ
  response_ttl : Option UInt8
  /-- Size of a PMTUD probe. -/
  packet_size : Option ℕ
deriving DecidableEq

/-- The lookup of `poll_ipv6_echo_reply`: the normal probe first, and then the PMTUD probe. -/
def pollMatch (pending : PendingMap) (target : IpAddr) (parsed : ParsedResponse) : Option PendingKey :=
  if parsed.response_type = .EchoReply then
    if ⟨parsed.probe_id, 0, target, false⟩ ∈ pending then some ⟨parsed.probe_id, 0, target, false⟩
    else if ⟨parsed.probe_id, 0, target, true⟩ ∈ pending then some ⟨parsed.probe_id, 0, target, true⟩
    else none
  else none

/-- What the poll keeps of a matched Echo Reply, at the time `now`. -/
def pollResponse (parsed : ParsedResponse) (response_ttl : Option UInt8) (probe : PendingProbe)
    (now : ℕ) : PolledResponse where
  probe_id := parsed.probe_id
  responder := parsed.responder
  rtt := now - probe.sent_at
  response_ttl := response_ttl
  packet_size := probe.packet_size

/-- The hop's part of a polled response to a normal probe. -/
def Hop.applyPolled (resp : PolledResponse) (h : Hop) : Hop :=
  let h := h.recordResponseDetectingFlaps resp.responder resp.rtt none
  let h := h.recordFlowResponse 0 resp.responder
  match resp.response_ttl with
  | some ttl => h.recordResponseTtl ttl
  | none => h

/-- What the poll does to the session of its `target`. -/
def Session.applyPolled (target : IpAddr) (resp : PolledResponse) (s : Session) : Session :=
  let s :=
    if resp.packet_size.isSome then s
    else s.hopMut resp.probe_id.ttl (Hop.applyPolled resp)
  -- The poll does not look at the response type again, which is an Echo Reply here.
  let s := if resp.responder = target then s.markDestination resp.probe_id.ttl else s
  s.onCurrentSize resp.packet_size PmtudState.recordSuccess

/-! ## What the steps do -/

/-- The poll removes a pending probe of its target, in flow 0, with the reply's `ProbeId`. -/
theorem pollMatch_spec {pending : PendingMap} {target : IpAddr} {parsed : ParsedResponse}
    {key : PendingKey} (h : pollMatch pending target parsed = some key) :
    key ∈ pending ∧ key = ⟨parsed.probe_id, 0, target, key.is_pmtud⟩ ∧
      parsed.response_type = .EchoReply := by
  unfold pollMatch at h
  split_ifs at h with h1 h2 h3
  · obtain rfl := Option.some.inj h
    exact ⟨h2, rfl, h1⟩
  · obtain rfl := Option.some.inj h
    exact ⟨h3, rfl, h1⟩

/-- The key of the entry that a polled response answers. -/
def PolledResponse.key (resp : PolledResponse) (target : IpAddr) : PendingKey :=
  ⟨resp.probe_id, 0, target, resp.packet_size.isSome⟩

/-- What the poll matched keeps its key. -/
theorem key_pollResponse {pending : PendingMap} {target : IpAddr} {parsed : ParsedResponse}
    {response_ttl : Option UInt8} {probe : PendingProbe} {now : ℕ} {key : PendingKey}
    (h : key.Agrees probe) (found : pollMatch pending target parsed = some key) :
    (pollResponse parsed response_ttl probe now).key target = key := by
  obtain ⟨-, hkey, -⟩ := pollMatch_spec found
  rw [hkey]
  simp only [PolledResponse.key, pollResponse, PendingKey.mk.injEq, true_and]
  exact h.class_iff.symm

namespace Session

/-- A sent probe, field by field. -/
theorem recordProbeSent_eq (flow_id ttl : UInt8) (s : Session) :
    s.recordProbeSent flow_id ttl =
      { s with
        total_sent := s.total_sent + 1
        hops := (s.hopMut ttl fun h => h.recordSent.recordFlowSent flow_id).hops } := rfl

/-- `check_pmtud_ready` changes the search only, and only to start it. -/
theorem checkPmtudReady_eq (config : Config) (s : Session) :
    ∃ pmtud, (s.checkPmtudReady config).1 = { s with pmtud := pmtud } ∧
      (pmtud = s.pmtud ∨ ∃ p, s.pmtud = some p ∧ p.phase = .WaitingForDestination ∧
        pmtud = some p.startSearch) := by
  unfold checkPmtudReady
  split
  · split
    · next p hd hp =>
      split
      · next hphase => exact ⟨_, rfl, Or.inr ⟨p, hp, hphase, rfl⟩⟩
      · exact ⟨_, rfl, Or.inl rfl⟩
      · exact ⟨_, rfl, Or.inl rfl⟩
    · exact ⟨_, rfl, Or.inl rfl⟩
  · exact ⟨_, rfl, Or.inl rfl⟩

/-- `check_pmtud_ready` hands out the destination's TTL. -/
theorem checkPmtudReady_dest_ttl {config : Config} {s : Session} {dest_ttl : UInt8}
    (h : (s.checkPmtudReady config).2 = some dest_ttl) : s.dest_ttl = some dest_ttl := by
  unfold checkPmtudReady at h
  split at h
  · split at h
    · next d p hd hp =>
      split at h <;> simp_all
    · cases h
  · cases h

/-- The poll's update, field by field. -/
theorem applyPolled_eq (target : IpAddr) (resp : PolledResponse) (s : Session) :
    s.applyPolled target resp =
      { s with
        hops := if resp.packet_size.isSome then s.hops
          else (s.hopMut resp.probe_id.ttl (Hop.applyPolled resp)).hops
        complete := if resp.responder = target then true else s.complete
        dest_ttl := if resp.responder = target then (s.markDestination resp.probe_id.ttl).dest_ttl
          else s.dest_ttl
        pmtud := (s.onCurrentSize resp.packet_size PmtudState.recordSuccess).pmtud } := by
  unfold applyPolled
  by_cases hp : resp.packet_size.isSome <;> by_cases ha : resp.responder = target <;>
    (simp only [hp, ha, if_true, if_false]
     rfl)

/-- A sent probe counts at the hop of its TTL. -/
theorem tally_recordProbeSent {flow_id ttl : UInt8} {s : Session} (h : (s.hop ttl).isSome)
    (k : UInt8) :
    (s.recordProbeSent flow_id ttl).tally k =
      if k = ttl then (s.tally k).addSent else s.tally k := by
  have hsent : ∀ h : Hop, (h.recordSent.recordFlowSent flow_id).tally = h.tally.addSent := by simp
  have hupd := @tally_hopMut s.addSent ttl _ Tally.addSent hsent h k
  simpa [recordProbeSent] using hupd

/-- The check of the path MTU search changes no hop. -/
@[simp]
theorem hop_checkPmtudReady (config : Config) (s : Session) (k : UInt8) :
    (s.checkPmtudReady config).1.hop k = s.hop k := by
  unfold checkPmtudReady
  split
  · split
    · split <;> rfl
    · rfl
  · rfl

/-- Clamping the search changes no hop. -/
@[simp]
theorem hop_clampPmtud (packet_size : ℕ) (s : Session) (k : UInt8) :
    (s.clampPmtud packet_size).hop k = s.hop k := rfl

/-- A polled response counts like a received one. -/
theorem tally_applyPolled {target : IpAddr} {resp : PolledResponse} {s : Session}
    (h : (s.hop resp.probe_id.ttl).isSome) (k : UInt8) :
    (s.applyPolled target resp).tally k =
      if resp.packet_size = none ∧ k = resp.probe_id.ttl then
        (s.tally k).addResponse resp.responder resp.rtt
      else s.tally k := by
  have hmark : ∀ s' : Session,
      (if resp.responder = target then s'.markDestination resp.probe_id.ttl else s').tally k =
        s'.tally k := by
    intro s'
    split_ifs <;> simp
  have hhop : ∀ h : Hop, (h.applyPolled resp).tally = h.tally.addResponse resp.responder resp.rtt := by
    intro h
    unfold Hop.applyPolled
    cases resp.response_ttl <;> simp
  simp only [applyPolled, tally_onCurrentSize, hmark]
  cases hp : resp.packet_size with
  | none =>
    have hupd := @tally_hopMut s _ _ (·.addResponse resp.responder resp.rtt) hhop h k
    simpa using hupd
  | some size => simp

end Session

end Ttl
