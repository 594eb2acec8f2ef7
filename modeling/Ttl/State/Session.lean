import Ttl.State.Hop
import Ttl.State.Pmtud
import Mathlib.Tactic.Simps.Basic

/-!
# Tracing sessions

`Session` of `src/state/session.rs`, which holds a target's hops, its discovered destination, its path
MTU search and the recorded events, with `applyReplayEvent`, the second interpreter of those events.
`Config` of `src/config.rs` is here as far as the prober and the receiver read it. `Auto` is not among
the protocols: it stands for one of the three, chosen before the first probe.
-/

namespace Ttl

/-- `ProbeProtocol`. -/
inductive ProbeProtocol where
  | Icmp
  | Udp
  | Tcp
deriving DecidableEq, Repr

/-- `Config`: the configuration of one target. -/
structure Config where
  /-- Rounds to probe, `none` for no limit. -/
  count : Option ℕ
  /-- Interval between rounds. -/
  interval : ℕ
  max_ttl : UInt8
  timeout : ℕ
  protocol : ProbeProtocol
  /-- Flows in effect, 1 in ICMP mode. -/
  flows : UInt8
  src_port_base : UInt16
  pmtud : Bool
  jumbo : Bool
deriving DecidableEq

/-- `ProbeOutcome`. -/
inductive ProbeOutcome where
  | Reply (addr : IpAddr) (rtt_us : ℕ)
  | Timeout
  /-- A reply after the probe's timeout was recorded. -/
  | LateReply (addr : IpAddr) (rtt_us : ℕ)
deriving DecidableEq

/-- `ProbeEvent`: what a replay reads. -/
structure ProbeEvent where
  /-- Milliseconds since the session's start. -/
  offset_ms : ℕ
  ttl : UInt8
  seq : UInt8
  flow_id : UInt8
  outcome : ProbeOutcome
deriving DecidableEq

/-- `Session`. -/
structure Session where
  /-- The target's resolved address. -/
  target : IpAddr
  /-- Start time, for the events' offsets. -/
  started_instant : ℕ
  /-- The hops, that of TTL 1 first. -/
  hops : List Hop
  config : Config
  /-- The destination was reached. -/
  complete : Bool
  /-- The smallest TTL that reached it. -/
  dest_ttl : Option UInt8
  total_sent : ℕ
  paused : Bool
  /-- The path MTU search, with `--pmtud`. -/
  pmtud : Option PmtudState
  /-- The recorded events. -/
  events : List ProbeEvent

namespace Session

/-- The TTLs `1..=max`. -/
def ttls (max : UInt8) : List UInt8 := (List.range max.toNat).map fun i => UInt8.ofNat (i + 1)

/-- `Session::new`, at the time `now`. -/
def new (target : IpAddr) (config : Config) (now : ℕ) : Session where
  target := target
  started_instant := now
  hops := (ttls config.max_ttl).map Hop.new
  config := config
  complete := false
  dest_ttl := none
  total_sent := 0
  paused := false
  pmtud := if config.pmtud then some (PmtudState.new target.isIpv6 config.jumbo) else none
  events := []

/-- `hop`: the hop of a TTL, counted from 1. -/
def hop (s : Session) (ttl : UInt8) : Option Hop :=
  if ttl = 0 then none else s.hops[ttl.toNat - 1]?

/-- `hop_mut`, with what its caller does to the hop. -/
@[simps]
def hopMut (s : Session) (ttl : UInt8) (f : Hop → Hop) : Session :=
  { s with hops := if ttl = 0 then s.hops else s.hops.modify (ttl.toNat - 1) f }

/-- `offset_ms` at the time `now`. -/
def offsetMs (s : Session) (now : ℕ) : ℕ := (now - s.started_instant) / 10^6

/-- `record_event`. -/
@[simps]
def recordEvent (s : Session) (event : ProbeEvent) : Session :=
  { s with events := s.events ++ [event] }

/-- The destination answered at `ttl`. -/
@[simps]
def markDestination (s : Session) (ttl : UInt8) : Session :=
  { s with
    complete := true
    dest_ttl := match s.dest_ttl with
      | none => some ttl
      | some d => if ttl < d then some ttl else some d }

/-- `total_sent += 1`. -/
@[simps]
def addSent (s : Session) : Session := { s with total_sent := s.total_sent + 1 }

/-- An update of the search by an answer to a probe of `packet_size`. An answer to a probe of another
size than the one under test is ignored, as is every answer when no search goes on. -/
@[simps]
def onCurrentSize (s : Session) (packet_size : Option ℕ) (f : PmtudState → PmtudState) : Session :=
  { s with
    pmtud := s.pmtud.map fun p =>
      if p.phase = .Searching ∧ packet_size = some p.current_size then f p else p }

/-- `reset_stats`, at the time `now`. -/
def resetStats (s : Session) (now : ℕ) : Session :=
  { s with
    total_sent := 0
    complete := false
    dest_ttl := none
    started_instant := now
    pmtud := s.pmtud.map fun _ => PmtudState.new s.target.isIpv6 s.config.jumbo
    events := []
    hops := s.hops.map Hop.reset }

/-- The response to a replayed event, without extensions. -/
def replayResponse (s : Session) (event : ProbeEvent) (addr : IpAddr) (rtt : ℕ) (h : Hop) : Hop :=
  (if s.config.flows = 1 then h.recordResponseDetectingFlaps addr rtt none
    else h.recordResponseWithMpls addr rtt none).recordFlowResponse event.flow_id addr

/-- `apply_replay_event`: nothing at a TTL that has no hop. -/
def applyReplayEvent (s : Session) (event : ProbeEvent) : Session :=
  if (s.hop event.ttl).isNone then s
  else match event.outcome with
    | .Reply addr rtt_us =>
      let s := s.hopMut event.ttl fun h =>
        s.replayResponse event addr (fromMicros rtt_us) h.recordSent
      -- The event has no response type, so any reply from the target's address marks it.
      let s := if addr = s.target then s.markDestination event.ttl else s
      s.addSent
    | .Timeout =>
      (s.hopMut event.ttl fun h => (h.recordSent.recordTimeout).recordFlowTimeout event.flow_id).addSent
    -- A late reply belongs to a probe that its timeout event has counted as sent.
    | .LateReply addr rtt_us =>
      s.hopMut event.ttl (s.replayResponse event addr (fromMicros rtt_us))

end Session

end Ttl
