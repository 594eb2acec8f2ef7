import Ttl.Lib.Runs
import Ttl.Trace.Engine
import Mathlib.Logic.Function.Basic

/-!
# The tracer as a transition system

A run of the program: an engine for each target, a receiver for each address family, and the main
thread, over the shared maps of sessions and pending probes and the shared cancellation token. A step is
what one party does under one lock, so a run is any interleaving of the parties' lock acquisitions. The
network is not modelled: a socket may deliver any parsed packet at any time, which covers delay, loss,
duplication and reordering. Time is a clock that may advance between any two steps.

The `log` is history that no step reads. It says when a pending probe was registered and how it left
the pending map.

`step` is executable. `Step` is the same system as a relation, with one constructor for each action
(`step_eq_some`), and the invariants of the later modules are proved by cases on it.
-/

namespace Ttl

open Runs

/-- What a run is configured with. The flows in effect and the protocol are chosen for each address
family. -/
structure Env where
  base : Config
  flows : Bool → UInt8
  protocol : Bool → ProbeProtocol

/-- The configuration of a target's engine and session. -/
def Env.config (env : Env) (target : IpAddr) : Config :=
  { env.base with flows := env.flows target.isIpv6, protocol := env.protocol target.isIpv6 }

/-- The configuration of a family's receiver. -/
def Env.receiver (env : Env) (ipv6 : Bool) : ReceiverConfig :=
  ⟨env.base.timeout, env.base.src_port_base, env.flows ipv6⟩

/-- An ICMP run with the default interval, timeout and source port. -/
def Env.icmp (count : Option ℕ) (max_ttl : UInt8) (pmtud : Bool) : Env where
  base := ⟨count, 10^9, max_ttl, 3 * 10^9, .Icmp, 1, 50000, pmtud, false⟩
  flows := fun _ => 1
  protocol := fun _ => .Icmp

/-- Where an engine is in its loop. -/
inductive EnginePc where
  /-- At the `select!` between the token and the interval. -/
  | waiting
  /-- After the pause and count checks of a tick. -/
  | counted
  /-- Before the probe of each flow and TTL in `todo`. -/
  | probing (todo : List (UInt8 × UInt8))
  /-- A normal probe is registered and about to be sent. -/
  | registered (flow_id ttl : UInt8) (todo : List (UInt8 × UInt8))
  /-- After `check_pmtud_ready`. -/
  | pmtudReady (dest_ttl : UInt8)
  /-- After `get_pmtud_probe_size`. -/
  | pmtudSized (dest_ttl : UInt8) (packet_size : ℕ)
  /-- A PMTUD probe is registered and about to be sent. -/
  | pmtudRegistered (dest_ttl : UInt8) (packet_size : ℕ)
  /-- The send failed with `EMSGSIZE`, and the entry is removed. -/
  | pmtudTooBig (packet_size : ℕ)
  /-- At the end of a round, polling for IPv6 Echo Replies. -/
  | polling
  /-- An Echo Reply is matched and about to be recorded. -/
  | polled (resp : PolledResponse)
  | stopped
deriving DecidableEq

/-- The state of an engine. -/
structure Engine where
  pc : EnginePc
  seq : UInt8
  pmtud_seq : UInt8
  rounds_completed : ℕ
deriving DecidableEq

/-- Where a receiver is in its loop. -/
inductive ReceiverPhase where
  /-- Draining the socket. -/
  | draining
  /-- A reply matched nothing and is about to be recorded as late. -/
  | missed (parsed : ParsedResponse)
  /-- Applying the batch. -/
  | applying
  /-- After the cancellation check: the final flush, or a timeout sweep. -/
  | cleanup (flush : Bool)
  /-- Recording the probes that the flush or the sweep removed. -/
  | recording (timed_out : List (PendingKey × PendingProbe)) (flush : Bool)
  | stopped
deriving DecidableEq

/-- The state of a receiver. -/
structure Receiver where
  phase : ReceiverPhase
  batch : List BatchedResponse
deriving DecidableEq

/-- The entries that a receiver has removed as timed out and not yet recorded. -/
def Receiver.timedOut (r : Receiver) : List (PendingKey × PendingProbe) :=
  match r.phase with
  | .recording timed_out _ => timed_out
  | _ => []

/-- Where the main thread is, in batch mode. -/
inductive MainPc where
  /-- Joining the engines. -/
  | joining
  /-- In the settle window, since the given time. -/
  | settling (since : ℕ)
  | done
deriving DecidableEq

/-- An entry of the history. -/
inductive Occurrence where
  /-- The entry was inserted. -/
  | registered (key : PendingKey) (probe : PendingProbe)
  /-- The entry was removed because its send failed. -/
  | unsent (key : PendingKey)
  /-- The entry was matched by a reply that the receiver of a family got. -/
  | matched (ipv6 : Bool) (parsed : ParsedResponse) (key : PendingKey) (probe : PendingProbe)
  /-- The entry was matched by an Echo Reply that the poll got. -/
  | polled (parsed : ParsedResponse) (key : PendingKey) (probe : PendingProbe)
  /-- The entry was swept or flushed at the given time. -/
  | expired (key : PendingKey) (probe : PendingProbe) (flush : Bool) (time : ℕ)
deriving DecidableEq

/-- The state of a run. -/
structure Tracer where
  sessions : KeyMap IpAddr Session
  pending : PendingMap
  engines : IpAddr → Engine
  receivers : Bool → Receiver
  cancelled : Bool
  now : ℕ
  main : MainPc
  /-- History, which no step reads. -/
  log : List Occurrence

/-- The actions: of the engine of a target, of the receiver of a family, of the main thread, of the
user, and of time. -/
inductive Action where
  | tick (target : IpAddr)
  | stop (target : IpAddr)
  | beginRound (target : IpAddr)
  | register (target : IpAddr)
  /-- The next probe cannot be built, or its socket not be set up. -/
  | skip (target : IpAddr)
  | sendOk (target : IpAddr)
  | sendErr (target : IpAddr)
  | pmtudCheck (target : IpAddr)
  | pmtudSize (target : IpAddr)
  | pmtudRegister (target : IpAddr)
  /-- So it is with a path MTU probe. Of a flag that cannot be set, `handle_pmtud_df_error` only tells the
  user: it ends the search for IPv4 alone, whose engine writes the flag into the header itself. -/
  | pmtudAbort (target : IpAddr)
  | pmtudSendOk (target : IpAddr)
  | pmtudSendErr (target : IpAddr) (emsgsize : Bool)
  | pmtudClamp (target : IpAddr)
  | poll (target : IpAddr) (parsed : ParsedResponse) (response_ttl : Option UInt8)
  | pollApply (target : IpAddr)
  | endRound (target : IpAddr)
  | receive (ipv6 : Bool) (parsed : ParsedResponse) (response_ttl : Option UInt8)
      (targets : List IpAddr)
  | recordLate (ipv6 : Bool)
  | drained (ipv6 : Bool)
  | apply (ipv6 : Bool)
  | checkCancel (ipv6 : Bool)
  | expire (ipv6 : Bool)
  | recordTimeout (ipv6 : Bool)
  | recorded (ipv6 : Bool)
  | fail (ipv6 : Bool)
  | settle
  | settled
  | reset (target : IpAddr)
  | pause (target : IpAddr) (paused : Bool)
  | cancel
  | clock (elapsed : ℕ)
deriving DecidableEq

/-- The reply that an action takes from a socket. -/
def Action.reply : Action → Option ParsedResponse
  | .receive _ parsed _ _ | .poll _ parsed _ => some parsed
  | _ => none

namespace Tracer

/-- The start of a run over `targets`: a session and an engine for each, and a receiver for each family
among them. -/
def init (env : Env) (targets : List IpAddr) (now : ℕ) : Tracer where
  sessions := targets.foldl (fun m t => m.insert t (Session.new t (env.config t) now)) ∅
  pending := ∅
  engines := fun t => ⟨if t ∈ targets then .waiting else .stopped, 0, 0, 0⟩
  receivers := fun ipv6 =>
    ⟨if targets.any fun t => t.isIpv6 = ipv6 then .draining else .stopped, []⟩
  cancelled := false
  now := now
  main := .joining
  log := []

/-- Move an engine in its loop. -/
@[simps]
def setPc (s : Tracer) (target : IpAddr) (pc : EnginePc) : Tracer :=
  { s with engines := Function.update s.engines target { s.engines target with pc := pc } }

/-- Move a receiver in its loop. -/
@[simps]
def setReceiver (s : Tracer) (ipv6 : Bool) (r : Receiver) : Tracer :=
  { s with receivers := Function.update s.receivers ipv6 r }

/-- Update the session of a target under its lock. -/
@[simps]
def onSession (s : Tracer) (target : IpAddr) (f : Session → Session) : Tracer :=
  { s with sessions := KeyMap.modify s.sessions target f }

/-- Replace the pending map, and note why in the log. -/
@[simps]
def setPending (s : Tracer) (pending : PendingMap) (occurrences : List Occurrence) : Tracer :=
  { s with pending := pending, log := s.log ++ occurrences }

/-- The end of an engine's round. -/
@[simps]
def finishRound (s : Tracer) (target : IpAddr) : Tracer :=
  { s with
    engines := Function.update s.engines target
      { s.engines target with
        pc := .waiting
        seq := (s.engines target).seq + 1
        rounds_completed := (s.engines target).rounds_completed + 1 } }

/-- The receivers, after one of them has changed. -/
theorem receivers_setReceiver (s : Tracer) (b : Bool) (r : Receiver) (b' : Bool) :
    (s.setReceiver b r).receivers b' = if b' = b then r else s.receivers b' := by
  rw [setReceiver_receivers, Function.update_apply]

/-- The places of the engines, after one of them has moved. -/
theorem pc_setPc (s : Tracer) (t : IpAddr) (pc : EnginePc) (t' : IpAddr) :
    ((s.setPc t pc).engines t').pc = if t' = t then pc else (s.engines t').pc := by
  rw [setPc_engines, Function.update_apply]
  split_ifs <;> rfl

/-- The key of a normal probe of the current round. -/
def normalKey (s : Tracer) (target : IpAddr) (flow_id ttl : UInt8) : PendingKey :=
  ⟨⟨ttl, (s.engines target).seq⟩, flow_id, target, false⟩

/-- The key of the path MTU probe of the current round. -/
def pmtudKey (s : Tracer) (target : IpAddr) (dest_ttl : UInt8) : PendingKey :=
  ⟨⟨dest_ttl, (s.engines target).pmtud_seq⟩, 0, target, true⟩

/-- The entry of a normal probe. -/
def normalProbe (env : Env) (s : Tracer) (target : IpAddr) (flow_id : UInt8) : PendingProbe :=
  ⟨s.now, target, flow_id, sourcePort (env.config target) flow_id, none⟩

/-- The entry of a path MTU probe. -/
def pmtudProbe (s : Tracer) (target : IpAddr) (packet_size : ℕ) : PendingProbe :=
  ⟨s.now, target, 0, none, some packet_size⟩

/-- The probes that the sweep removes: those pending for more than the timeout. The flush removes
all. -/
def expires (env : Env) (s : Tracer) (ipv6 flush : Bool) (probe : PendingProbe) : Bool :=
  flush || (env.receiver ipv6).timeout < s.now - probe.sent_at

/-- The entries that the sweep or the flush removes. -/
def expiring (env : Env) (s : Tracer) (ipv6 flush : Bool) : List (PendingKey × PendingProbe) :=
  (s.pending.entries.filter fun e => expires env s ipv6 flush e.2).map fun e => (e.1, e.2)

/-- The pending map without them. -/
def surviving (env : Env) (s : Tracer) (ipv6 flush : Bool) : PendingMap :=
  KeyMap.retain s.pending fun _ probe => ! expires env s ipv6 flush probe

/-- One step, when the action is enabled. -/
def step (env : Env) (s : Tracer) : Action → Option Tracer
  | .tick t =>
    match (s.engines t).pc, s.sessions.lookup t with
    | .waiting, some session =>
      if session.paused then some s
      else
        match (env.config t).count with
        | some count =>
          if count ≤ (s.engines t).rounds_completed then
            -- The engine that completes its rounds cancels the token that all of them share.
            some { s.setPc t .stopped with cancelled := true }
          else some (s.setPc t .counted)
        | none => some (s.setPc t .counted)
    | _, _ => none
  | .stop t =>
    if (s.engines t).pc = .waiting ∧ s.cancelled then some (s.setPc t .stopped) else none
  | .beginRound t =>
    match (s.engines t).pc, s.sessions.lookup t with
    | .counted, some session =>
      some (s.setPc t (.probing (probeOrder (env.config t) session.maxProbeTtl)))
    | _, _ => none
  | .register t =>
    match (s.engines t).pc with
    | .probing ((flow_id, ttl) :: todo) =>
      let key := s.normalKey t flow_id ttl
      let probe := normalProbe env s t flow_id
      some ((s.setPending (s.pending.insert key probe) [.registered key probe]).setPc t
        (.registered flow_id ttl todo))
    | _ => none
  | .skip t =>
    match (s.engines t).pc with
    | .probing (_ :: todo) => some (s.setPc t (.probing todo))
    | _ => none
  | .sendOk t =>
    match (s.engines t).pc with
    | .registered flow_id ttl todo =>
      some ((s.onSession t (Session.recordProbeSent flow_id ttl)).setPc t (.probing todo))
    | _ => none
  | .sendErr t =>
    match (s.engines t).pc with
    | .registered flow_id ttl todo =>
      -- The entry is taken back, unless a reply or the sweep has taken it before.
      let key := s.normalKey t flow_id ttl
      some ((s.setPending (s.pending.erase key)
        (if key ∈ s.pending then [.unsent key] else [])).setPc t (.probing todo))
    | _ => none
  | .pmtudCheck t =>
    match (s.engines t).pc, s.sessions.lookup t with
    | .probing [], some session =>
      if (env.config t).protocol = .Icmp then
        some ((s.onSession t fun x => (x.checkPmtudReady (env.config t)).1).setPc t
          (match (session.checkPmtudReady (env.config t)).2 with
            | some dest_ttl => .pmtudReady dest_ttl
            | none => .polling))
      else some (s.setPc t .polling)
    | _, _ => none
  | .pmtudSize t =>
    match (s.engines t).pc, s.sessions.lookup t with
    | .pmtudReady dest_ttl, some session =>
      some (s.setPc t
        (match session.getPmtudProbeSize with
          | some size => .pmtudSized dest_ttl size
          | none => .polling))
    | _, _ => none
  | .pmtudRegister t =>
    match (s.engines t).pc with
    | .pmtudSized dest_ttl size =>
      let key := s.pmtudKey t dest_ttl
      let probe := s.pmtudProbe t size
      some ((s.setPending (s.pending.insert key probe) [.registered key probe]).setPc t
        (.pmtudRegistered dest_ttl size))
    | _ => none
  | .pmtudAbort t =>
    match (s.engines t).pc with
    | .pmtudSized _ _ => some (s.setPc t .polling)
    | _ => none
  | .pmtudSendOk t =>
    match (s.engines t).pc with
    | .pmtudRegistered _ _ =>
      -- A path MTU probe counts for the session and for no hop.
      let s := s.onSession t Session.addSent
      some { s with
        engines := Function.update s.engines t
          { s.engines t with pc := .polling, pmtud_seq := (s.engines t).pmtud_seq + 1 } }
    | _ => none
  | .pmtudSendErr t emsgsize =>
    match (s.engines t).pc with
    | .pmtudRegistered dest_ttl size =>
      let key := s.pmtudKey t dest_ttl
      some ((s.setPending (s.pending.erase key)
        (if key ∈ s.pending then [.unsent key] else [])).setPc t
          (if emsgsize then .pmtudTooBig size else .polling))
    | _ => none
  | .pmtudClamp t =>
    match (s.engines t).pc with
    | .pmtudTooBig size => some ((s.onSession t (Session.clampPmtud size)).setPc t .polling)
    | _ => none
  | .poll t parsed response_ttl =>
    if (s.engines t).pc = .polling ∧ t.isIpv6 ∧ (env.config t).protocol = .Icmp then
      match pollMatch s.pending t parsed with
      | some key =>
        (s.pending.lookup key).map fun probe =>
          (s.setPending (s.pending.erase key) [.polled parsed key probe]).setPc t
            (.polled (pollResponse parsed response_ttl probe s.now))
      -- What matches nothing is dropped, without a late reply event.
      | none => some s
    else none
  | .pollApply t =>
    match (s.engines t).pc with
    | .polled resp => some ((s.onSession t (Session.applyPolled t resp)).setPc t .polling)
    | _ => none
  | .endRound t =>
    if (s.engines t).pc = .polling then some (s.finishRound t) else none
  | .receive b parsed response_ttl targets =>
    if (s.receivers b).phase = .draining ∧ targets.Perm s.sessions.keys then
      match matchReply (env.receiver b) s.pending targets parsed with
      | some key =>
        (s.pending.lookup key).map fun probe =>
          (s.setPending (s.pending.erase key) [.matched b parsed key probe]).setReceiver b
            ⟨.draining, (s.receivers b).batch ++ [batchResponse parsed response_ttl probe s.now]⟩
      | none => some (s.setReceiver b ⟨.missed parsed, (s.receivers b).batch⟩)
    else none
  | .recordLate b =>
    match (s.receivers b).phase with
    | .missed parsed =>
      let s := s.setReceiver b ⟨.draining, (s.receivers b).batch⟩
      match parsed.original_dest with
      | some target =>
        some (s.onSession target fun x =>
          x.recordEvent (lateReplyEvent (env.receiver b) parsed (x.offsetMs s.now)))
      | none => some s
    | _ => none
  | .drained b =>
    if (s.receivers b).phase = .draining then
      some (s.setReceiver b ⟨.applying, (s.receivers b).batch⟩)
    else none
  | .apply b =>
    match s.receivers b with
    | ⟨.applying, resp :: batch⟩ =>
      some ((s.onSession resp.target (Session.applyResponse (env.receiver b) s.now resp)).setReceiver b
        ⟨.applying, batch⟩)
    | _ => none
  | .checkCancel b =>
    match s.receivers b with
    | ⟨.applying, []⟩ => some (s.setReceiver b ⟨.cleanup s.cancelled, []⟩)
    | _ => none
  | .expire b =>
    match (s.receivers b).phase with
    | .cleanup flush =>
      some ((s.setPending (surviving env s b flush)
        ((expiring env s b flush).map fun e => .expired e.1 e.2 flush s.now)).setReceiver b
          ⟨.recording (expiring env s b flush) flush, (s.receivers b).batch⟩)
    | _ => none
  | .recordTimeout b =>
    match (s.receivers b).phase with
    | .recording ((key, probe) :: timed_out) flush =>
      -- The flush records no event and leaves the search alone.
      some ((s.onSession key.target
        (Session.recordPendingTimeout s.now (! flush) (! flush) key probe)).setReceiver b
          ⟨.recording timed_out flush, (s.receivers b).batch⟩)
    | _ => none
  | .recorded b =>
    match (s.receivers b).phase with
    | .recording [] flush =>
      some (s.setReceiver b ⟨if flush then .stopped else .draining, (s.receivers b).batch⟩)
    | _ => none
  | .fail b =>
    -- The error count is reset by every packet, so the batch is empty when it reaches its limit.
    if s.receivers b = ⟨.draining, []⟩ then some (s.setReceiver b ⟨.stopped, []⟩) else none
  | .settle =>
    if s.main = .joining ∧ ∀ t ∈ s.sessions.keys, (s.engines t).pc = .stopped then
      some { s with main := .settling s.now }
    else none
  | .settled =>
    match s.main with
    | .settling since =>
      -- The settle window is the timeout and half a second more.
      if since + env.base.timeout + 500 * 10^6 ≤ s.now then
        some { s with main := .done, cancelled := true }
      else none
    | _ => none
  | .reset t => some (s.onSession t fun x => x.resetStats s.now)
  | .pause t paused => some (s.onSession t fun x => { x with paused := paused })
  | .cancel => some { s with cancelled := true }
  | .clock elapsed => some { s with now := s.now + elapsed }

-- Only an engine between two rounds stops.
example (env : Env) (s : Tracer) (t : IpAddr) (h : (s.engines t).pc ≠ .waiting) : step env s (.stop t) = none := by
  simp [step, h]

/-- The target of the concrete runs. -/
def sampleTarget : IpAddr := .V4 ⟨192, 0, 2, 1⟩

/-- A second target, beside it. -/
def otherTarget : IpAddr := .V4 ⟨192, 0, 2, 2⟩

/-- An Echo Reply from the first one to the first probe. -/
def sampleReply : ParsedResponse :=
  ⟨sampleTarget, ⟨1, 0⟩, .EchoReply, false, none, none, none, none, none, some sampleTarget⟩

end Tracer

end Ttl
