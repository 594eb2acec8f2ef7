import Ttl.State.Aggregate
import Ttl.State.Replay
import Ttl.Trace.Conservation

/-!
# Hop aggregates over every update

`SessionOp` lists what the engine, the receiver, the poll, the user and a replay do to a session. Any list
of them is folded over a fresh session. Every hop then counts what it received and what timed out as the
sums of its parts do, and its window holds the last of the outcomes in their order. What it counts as sent
is the sum over its flows when no probe was replayed at its TTL since the last reset, and only then
(`hop_aggregates`): a replay counts a probe as sent at the hop, and not in the flow.

The sessions of a run are among these, because each of its steps that updates a session is one of the
operations (`Update.exists_op`), and none of them is a replay (`hop_aggregates_run`).
-/

namespace Ttl

open Runs

/-- What is done to a session, a send with its flow's send in one step. -/
inductive SessionOp where
  /-- A normal probe is sent. -/
  | sent (flow_id ttl : UInt8)
  /-- The receiver applies a response. -/
  | response (config : ReceiverConfig) (now : ℕ) (resp : BatchedResponse)
  /-- A probe is recorded as timed out, by the sweep or by the final flush. -/
  | timeout (now : ℕ) (record_events update_pmtud : Bool) (key : PendingKey) (probe : PendingProbe)
  /-- The poll applies an Echo Reply. -/
  | polled (target : IpAddr) (resp : PolledResponse)
  /-- A recorded event is replayed. -/
  | replay (event : ProbeEvent)
  | reset (now : ℕ)
  /-- An event is recorded, as a late reply is. -/
  | record (event : ProbeEvent)
  | pause (paused : Bool)
  | pmtudCheck (config : Config)
  | pmtudSent
  | pmtudClamp (packet_size : ℕ)

/-- The outcome is that of a probe that the session has not counted as sent. -/
def ProbeOutcome.isProbe : ProbeOutcome → Bool
  | LateReply _ _ => false
  | _ => true

/-- The probe was answered. -/
def ProbeOutcome.isReply : ProbeOutcome → Bool
  | Timeout => false
  | _ => true

namespace SessionOp

/-- The session after the operation. -/
def apply (x : Session) : SessionOp → Session
  | sent flow_id ttl => x.recordProbeSent flow_id ttl
  | response config now resp => x.applyResponse config now resp
  | timeout now record_events update_pmtud key probe =>
    x.recordPendingTimeout now record_events update_pmtud key probe
  | polled target resp => x.applyPolled target resp
  | replay event => x.applyReplayEvent event
  | reset now => x.resetStats now
  | record event => x.recordEvent event
  | pause paused => { x with paused := paused }
  | pmtudCheck config => (x.checkPmtudReady config).1
  | pmtudSent => x.addSent
  | pmtudClamp packet_size => x.clampPmtud packet_size

/-- The outcome at the TTL `k`, `true` for a response. A path MTU probe has none. -/
def outcome (k : UInt8) : SessionOp → Option Bool
  | response _ _ resp => if resp.packet_size = none ∧ resp.probe_id.ttl = k then some true else none
  | polled _ resp => if resp.packet_size = none ∧ resp.probe_id.ttl = k then some true else none
  | timeout _ _ _ key _ => if key.is_pmtud = false ∧ key.probe_id.ttl = k then some false else none
  | replay event => if event.ttl = k then some event.outcome.isReply else none
  | _ => none

/-- The operation replays a probe at the TTL `k`, and not only a late reply. -/
def replaysProbe (k : UInt8) : SessionOp → Bool
  | replay event => event.ttl = k ∧ event.outcome.isProbe
  | _ => false

def isReset : SessionOp → Bool
  | reset _ => true
  | _ => false

def isReplay : SessionOp → Bool
  | replay _ => true
  | _ => false

/-- The operations since the last reset. -/
def sinceReset (ops : List SessionOp) : List SessionOp := ops.rtakeWhile fun op => ! op.isReset

/-- The outcomes at the TTL `k` since the last reset. -/
def outcomes (ops : List SessionOp) (k : UInt8) : List Bool := (sinceReset ops).filterMap (outcome k)

/-- The number of probes replayed at the TTL `k` since the last reset. -/
def replayed (ops : List SessionOp) (k : UInt8) : ℕ := (sinceReset ops).countP (replaysProbe k)

end SessionOp

/-! ## What each operation does to a hop -/

namespace Hop

/-- A sent probe is counted for the hop and its flow. -/
theorem aggregate_sent (flow_id : UInt8) (h : Hop) :
    (h.recordSent.recordFlowSent flow_id).aggregate = h.aggregate.addSent := by
  rw [aggregate_recordFlowSent, aggregate_recordSent]
  rfl

/-- A timeout is counted for the hop and its flow. -/
theorem aggregate_timeout (flow_id : UInt8) (h : Hop) :
    (h.recordTimeout.recordFlowTimeout flow_id).aggregate = h.aggregate.addTimeout := by
  rw [aggregate_recordFlowTimeout, aggregate_recordTimeout]
  rfl

/-- A response of a batch is counted for the hop and its flow. -/
theorem aggregate_applyResponse (config : ReceiverConfig) (resp : BatchedResponse) (h : Hop) :
    (h.applyResponse config resp).aggregate = h.aggregate.addResponse := by
  unfold applyResponse
  cases resp.response_ttl <;> cases resp.quoted_ttl <;> dsimp only <;> split_ifs <;> simp <;> rfl

/-- A polled response is counted for the hop and its flow. -/
theorem aggregate_applyPolled (resp : PolledResponse) (h : Hop) :
    (h.applyPolled resp).aggregate = h.aggregate.addResponse := by
  unfold applyPolled recordResponseDetectingFlaps
  cases resp.response_ttl <;> simp <;> rfl

end Hop

namespace Session

/-- A replayed response is counted for the hop and its flow. -/
theorem aggregate_replayResponse (x : Session) (event : ProbeEvent) (addr : IpAddr) (rtt : ℕ) (h : Hop) :
    (x.replayResponse event addr rtt h).aggregate = h.aggregate.addResponse := by
  unfold replayResponse Hop.recordResponseDetectingFlaps Hop.recordResponseWithMpls
  split_ifs <;> simp <;> rfl

variable {x : Session} {outcomes : UInt8 → List Bool} {replayed : UInt8 → ℕ} {op : SessionOp}

open SessionOp

/-- The outcomes with that of the operation. -/
def outcomesAfter (outcomes : UInt8 → List Bool) (op : SessionOp) (k : UInt8) : List Bool :=
  outcomes k ++ (op.outcome k).toList

/-- The number of replayed probes with that of the operation. -/
def replayedAfter (replayed : UInt8 → ℕ) (op : SessionOp) (k : UInt8) : ℕ :=
  replayed k + (op.replaysProbe k).toNat

/-- An operation that changes no hop and has no outcome. -/
theorem Aggregated.quiet (h : x.Aggregated outcomes replayed) (hops : (op.apply x).hops = x.hops)
    (quiet : ∀ k, op.outcome k = none ∧ op.replaysProbe k = false) :
    (op.apply x).Aggregated (outcomesAfter outcomes op) (replayedAfter replayed op) := by
  have houtcomes : outcomesAfter outcomes op = outcomes := by
    funext k
    rw [outcomesAfter, (quiet k).1, Option.toList_none, List.append_nil]
  have hreplayed : replayedAfter replayed op = replayed := by
    funext k
    rw [replayedAfter, (quiet k).2, Bool.toNat_false, Nat.add_zero]
  rw [houtcomes, hreplayed]
  exact h.congr hops

/-- An operation that updates the hop of one TTL and is about no other. -/
theorem Aggregated.single (h : x.Aggregated outcomes replayed) (ttl : UInt8) (f : Hop → Hop)
    (hops : (op.apply x).hops = (x.hopMut ttl f).hops)
    (hf : ∀ hop : Hop, hop.aggregate.Agrees (outcomes ttl) (replayed ttl) →
      (f hop).aggregate.Agrees (outcomesAfter outcomes op ttl) (replayedAfter replayed op ttl))
    (frame : ∀ k, k ≠ ttl → op.outcome k = none ∧ op.replaysProbe k = false) :
    (op.apply x).Aggregated (outcomesAfter outcomes op) (replayedAfter replayed op) := by
  refine Aggregated.congr (h.hopMut hf fun k hk => ?_) hops
  rw [outcomesAfter, replayedAfter, (frame k hk).1, (frame k hk).2]
  exact ⟨List.append_nil _, Nat.add_zero _⟩

/-- A replayed event, which is about the TTL that it names. -/
theorem Aggregated.replay (h : x.Aggregated outcomes replayed) (event : ProbeEvent) :
    ((SessionOp.replay event).apply x).Aggregated (outcomesAfter outcomes (.replay event))
      (replayedAfter replayed (.replay event)) := by
  have hframe : ∀ k, k ≠ event.ttl → (SessionOp.replay event).outcome k = none ∧
      (SessionOp.replay event).replaysProbe k = false := by
    intro k hk
    simp [outcome, replaysProbe, Ne.symm hk]
  by_cases hn : (x.hop event.ttl).isNone
  · -- There is no hop to count the event.
    have hsame : (SessionOp.replay event).apply x = x := by
      rw [SessionOp.apply, applyReplayEvent, if_pos hn]
    rw [hsame]
    refine h.of_no_hop (Option.isNone_iff_eq_none.mp hn) fun k hk => ?_
    rw [outcomesAfter, replayedAfter, (hframe k hk).1, (hframe k hk).2]
    exact ⟨List.append_nil _, Nat.add_zero _⟩
  obtain ⟨offset_ms, ttl, seq, flow_id, result⟩ := event
  cases result with
  | Reply addr rtt_us =>
    refine h.single ttl (fun hop => x.replayResponse ⟨offset_ms, ttl, seq, flow_id, .Reply addr rtt_us⟩
      addr (fromMicros rtt_us) hop.recordSent) ?_ ?_ hframe
    · rw [SessionOp.apply, applyReplayEvent, if_neg hn]
      dsimp only
      split_ifs <;> rfl
    · intro hop ha
      have hsent : hop.recordSent.aggregate = hop.aggregate.addReplayed := rfl
      rw [aggregate_replayResponse, hsent]
      simpa [outcomesAfter, replayedAfter, outcome, replaysProbe, ProbeOutcome.isReply,
        ProbeOutcome.isProbe] using ha.addReplayed.addResponse
  | Timeout =>
    refine h.single ttl (fun hop => hop.recordSent.recordTimeout.recordFlowTimeout flow_id) ?_ ?_ hframe
    · rw [SessionOp.apply, applyReplayEvent, if_neg hn]
      rfl
    · intro hop ha
      have hsent : hop.recordSent.aggregate = hop.aggregate.addReplayed := rfl
      rw [Hop.aggregate_timeout, hsent]
      simpa [outcomesAfter, replayedAfter, outcome, replaysProbe, ProbeOutcome.isReply,
        ProbeOutcome.isProbe] using ha.addReplayed.addTimeout
  | LateReply addr rtt_us =>
    refine h.single ttl (x.replayResponse ⟨offset_ms, ttl, seq, flow_id, .LateReply addr rtt_us⟩ addr
      (fromMicros rtt_us)) ?_ ?_ hframe
    · rw [SessionOp.apply, applyReplayEvent, if_neg hn]
    · intro hop ha
      rw [aggregate_replayResponse]
      simpa [outcomesAfter, replayedAfter, outcome, replaysProbe, ProbeOutcome.isReply,
        ProbeOutcome.isProbe] using ha.addResponse

/-- An operation other than a reset adds its outcome. -/
theorem Aggregated.apply (h : x.Aggregated outcomes replayed) (hreset : op.isReset = false) :
    (op.apply x).Aggregated (outcomesAfter outcomes op) (replayedAfter replayed op) := by
  cases op with
  | sent flow_id ttl =>
    refine h.single ttl (fun hop => hop.recordSent.recordFlowSent flow_id) rfl (fun hop ha => ?_)
      fun k hk => ⟨rfl, rfl⟩
    rw [Hop.aggregate_sent]
    simpa [outcomesAfter, replayedAfter, outcome, replaysProbe] using ha.addSent
  | response config now resp =>
    cases hp : resp.packet_size with
    | some size =>
      refine h.quiet ?_ fun k => ⟨by simp [outcome, hp], rfl⟩
      rw [SessionOp.apply, applyResponse_eq, hp]
      rfl
    | none =>
      refine h.single resp.probe_id.ttl (Hop.applyResponse config resp) ?_ (fun hop ha => ?_)
        fun k hk => ⟨by simp [outcome, Ne.symm hk], rfl⟩
      · rw [SessionOp.apply, applyResponse_eq, hp]
        rfl
      · rw [Hop.aggregate_applyResponse]
        simpa [outcomesAfter, replayedAfter, outcome, replaysProbe, hp] using ha.addResponse
  | timeout now record_events update_pmtud key probe =>
    cases hp : key.is_pmtud with
    | true =>
      refine h.quiet ?_ fun k => ⟨by simp [outcome, hp], rfl⟩
      rw [SessionOp.apply, recordPendingTimeout_eq, hp]
      rfl
    | false =>
      refine h.single key.probe_id.ttl
        (fun hop => hop.recordTimeout.recordFlowTimeout probe.flow_id) ?_ (fun hop ha => ?_)
        fun k hk => ⟨by simp [outcome, Ne.symm hk], rfl⟩
      · rw [SessionOp.apply, recordPendingTimeout_eq, hp]
        rfl
      · rw [Hop.aggregate_timeout]
        simpa [outcomesAfter, replayedAfter, outcome, replaysProbe, hp] using ha.addTimeout
  | polled target resp =>
    cases hp : resp.packet_size with
    | some size =>
      refine h.quiet ?_ fun k => ⟨by simp [outcome, hp], rfl⟩
      rw [SessionOp.apply, applyPolled_eq, hp]
      rfl
    | none =>
      refine h.single resp.probe_id.ttl (Hop.applyPolled resp) ?_ (fun hop ha => ?_)
        fun k hk => ⟨by simp [outcome, Ne.symm hk], rfl⟩
      · rw [SessionOp.apply, applyPolled_eq, hp]
        rfl
      · rw [Hop.aggregate_applyPolled]
        simpa [outcomesAfter, replayedAfter, outcome, replaysProbe, hp] using ha.addResponse
  | replay event => exact h.replay event
  | reset now => cases hreset
  | pmtudCheck config =>
    obtain ⟨pmtud, heq, -⟩ := checkPmtudReady_eq config x
    refine h.quiet ?_ fun k => ⟨rfl, rfl⟩
    rw [SessionOp.apply, heq]
  | _ => exact h.quiet rfl fun k => ⟨rfl, rfl⟩

end Session

/-! ## Every sequence of operations -/

namespace SessionOp

/-- The session after the operations, from a fresh one. -/
def perform (target : IpAddr) (config : Config) (now : ℕ) (ops : List SessionOp) : Session :=
  ops.foldl apply (Session.new target config now)

variable {target : IpAddr} {config : Config} {now : ℕ} {ops : List SessionOp} {op : SessionOp}

/-- One operation more is done last. -/
theorem perform_concat :
    perform target config now (ops ++ [op]) = op.apply (perform target config now ops) := by
  rw [perform, List.foldl_append]
  rfl

/-- A reset starts the record again, and every other operation is added to it. -/
theorem sinceReset_concat :
    sinceReset (ops ++ [op]) = if op.isReset then [] else sinceReset ops ++ [op] := by
  rw [sinceReset, List.rtakeWhile_concat]
  cases op.isReset <;> rfl

/-- The hops of a session agree with the operations since the last reset. -/
theorem aggregated_perform (target : IpAddr) (config : Config) (now : ℕ) (ops : List SessionOp) :
    (perform target config now ops).Aggregated (outcomes ops) (replayed ops) := by
  induction ops using List.reverseRecOn with
  | nil => exact Session.aggregated_new target config now
  | append_singleton ops op ih =>
    rw [perform_concat]
    cases hr : op.isReset with
    | true =>
      cases op with
      | reset now' =>
        have hsince : sinceReset (ops ++ [.reset now']) = [] := by rw [sinceReset_concat, hr]; rfl
        have houtcomes : outcomes (ops ++ [.reset now']) = fun _ => [] := by
          funext k
          rw [outcomes, hsince]
          rfl
        have hreplayed : replayed (ops ++ [.reset now']) = fun _ => 0 := by
          funext k
          rw [replayed, hsince]
          rfl
        rw [houtcomes, hreplayed]
        exact Session.aggregated_resetStats _ now'
      | _ => cases hr
    | false =>
      have hsince : sinceReset (ops ++ [op]) = sinceReset ops ++ [op] := by
        rw [sinceReset_concat, hr]
        rfl
      have houtcomes : outcomes (ops ++ [op]) = Session.outcomesAfter (outcomes ops) op := by
        funext k
        rw [outcomes, hsince, List.filterMap_append, Session.outcomesAfter, outcomes]
        cases h : op.outcome k <;> simp [h]
      have hreplayed : replayed (ops ++ [op]) = Session.replayedAfter (replayed ops) op := by
        funext k
        rw [replayed, hsince, List.countP_append, Session.replayedAfter, replayed]
        cases h : op.replaysProbe k <;> simp [h]
      rw [houtcomes, hreplayed]
      exact ih.apply hr

/-- In every session, whatever was done to it in whatever order, the counters of a hop are the sums of their
parts, and its window holds the last of its outcomes, exactly when no probe was replayed at its TTL since
the last reset. -/
theorem hop_aggregates (target : IpAddr) (config : Config) (now : ℕ) (ops : List SessionOp) {k : UInt8}
    {h : Hop} (hk : (perform target config now ops).hop k = some h) :
    h.aggregate.Consistent (outcomes ops k) ↔ ∀ op ∈ sinceReset ops, op.replaysProbe k = false := by
  rw [(aggregated_perform target config now ops k h hk).consistent_iff, replayed, List.countP_eq_zero]
  simp only [Bool.not_eq_true]

/-- The configuration of an ICMP run with two TTLs. -/
def sampleConfig : Config := (Env.icmp none 2 false).config Tracer.sampleTarget

/-- A probe that times out, a reset, and two probes of which one is replayed at another TTL. -/
def sampleOps : List SessionOp :=
  [.sent 0 1, .timeout 0 true true ⟨⟨1, 0⟩, 0, Tracer.sampleTarget, false⟩
      ⟨0, Tracer.sampleTarget, 0, none, none⟩, .reset 0, .sent 0 1,
    .polled Tracer.sampleTarget ⟨⟨1, 1⟩, Tracer.sampleTarget, 0, none, none⟩,
    .replay ⟨0, 2, 0, 0, .Timeout⟩]

/-- At the first TTL they agree: one probe was sent, and one answered. -/
theorem hop_aggregates_sample :
    ∃ h, (perform Tracer.sampleTarget sampleConfig 0 sampleOps).hop 1 = some h ∧ h.sent = 1 ∧
      h.aggregate.Consistent [true] :=
  ⟨_, rfl, rfl, (@hop_aggregates Tracer.sampleTarget sampleConfig 0 sampleOps 1 _ rfl).mpr (by decide)⟩

/-- A session that replays one reply counts one probe as sent, and none in its flow. -/
theorem hop_aggregates_fails_replayed :
    ∃ h, (perform Tracer.sampleTarget sampleConfig 0
        [.replay ⟨0, 1, 0, 0, .Reply Tracer.sampleTarget 20⟩]).hop 1 = some h ∧
      h.sent = 1 ∧ KeyMap.total h.flow_paths FlowPathStats.sent = 0 ∧
      ¬ h.aggregate.Consistent [true] :=
  ⟨_, rfl, rfl, rfl, fun h => Nat.one_ne_zero h.flow_sent⟩

end SessionOp

/-! ## The sessions of a run -/

namespace Tracer

variable {env : Env} {s s' : Tracer} {a : Action}

/-- What a step does to a session is one of the operations, and no replay. -/
theorem Update.exists_op {t : IpAddr} {f : Session → Session} (h : Update env s a t f) (x : Session) :
    ∃ op : SessionOp, op.isReplay = false ∧ f x = op.apply x := by
  cases h with
  | @sent _ flow_id ttl _ pc => exact ⟨.sent flow_id ttl, rfl, rfl⟩
  | pmtudCheck pc => exact ⟨.pmtudCheck (env.config t), rfl, rfl⟩
  | pmtudSent pc => exact ⟨.pmtudSent, rfl, rfl⟩
  | @clamp _ size pc => exact ⟨.pmtudClamp size, rfl, rfl⟩
  | @polled _ resp pc => exact ⟨.polled t resp, rfl, rfl⟩
  | @late b parsed _ phase dest => exact ⟨.record _, rfl, rfl⟩
  | @applied b resp _ phase head => exact ⟨.response (env.receiver b) s.now resp, rfl, rfl⟩
  | @timedOut b key probe _ flush phase => exact ⟨.timeout s.now (! flush) (! flush) key probe, rfl, rfl⟩
  | reset => exact ⟨.reset s.now, rfl, rfl⟩
  | @pause _ paused => exact ⟨.pause paused, rfl, rfl⟩

/-- Every session of a run is the result of operations on a fresh one, none of them a replay. -/
theorem exists_ops_run {targets : List IpAddr} {now : ℕ} {as : List Action}
    (h : run (step env) (init env targets now) as = some s) {t : IpAddr} {x : Session}
    (hx : s.sessions.lookup t = some x) :
    ∃ ops : List SessionOp, (∀ op ∈ ops, op.isReplay = false) ∧
      x = SessionOp.perform t (env.config t) now ops := by
  revert t x
  refine run_induction (fun _ s => ∀ {t : IpAddr} {x : Session}, s.sessions.lookup t = some x →
    ∃ ops : List SessionOp, (∀ op ∈ ops, op.isReplay = false) ∧
      x = SessionOp.perform t (env.config t) now ops) ?_ ?_ as s h
  · intro t x hx
    rw [lookup_init] at hx
    split_ifs at hx
    exact ⟨[], by simp, (Option.some.inj hx).symm⟩
  · intro as s a s' _ ih hstep t x' hx'
    obtain ⟨x, hx, rfl | ⟨f, hu, rfl⟩⟩ := (Step.of_step hstep).lookup_session hx'
    · exact ih hx
    · obtain ⟨ops, hops, rfl⟩ := ih hx
      obtain ⟨op, hop, heq⟩ := hu.exists_op (SessionOp.perform t (env.config t) now ops)
      refine ⟨ops ++ [op], ?_, by rw [heq, SessionOp.perform_concat]⟩
      intro op' hmem
      rcases List.mem_append.mp hmem with hmem | hmem
      · exact hops op' hmem
      · rw [List.mem_singleton.mp hmem]
        exact hop

/-- While the program traces, and does not replay, the aggregates of every hop are consistent. -/
theorem hop_aggregates_run {targets : List IpAddr} {now : ℕ} {as : List Action}
    (h : run (step env) (init env targets now) as = some s) {t : IpAddr} {x : Session} {k : UInt8}
    {hop : Hop} (hx : s.sessions.lookup t = some x) (hk : x.hop k = some hop) :
    ∃ ops : List SessionOp, (∀ op ∈ ops, op.isReplay = false) ∧
      x = SessionOp.perform t (env.config t) now ops ∧
      hop.aggregate.Consistent (SessionOp.outcomes ops k) := by
  obtain ⟨ops, hops, rfl⟩ := exists_ops_run h hx
  have hreplayed : SessionOp.replayed ops k = 0 := by
    refine List.countP_eq_zero.mpr fun op hmem => ?_
    have hop := hops op ((List.rtakeWhile_suffix _ _).subset hmem)
    cases op with
    | replay event => cases hop
    | _ => exact Bool.false_ne_true
  have hagrees := SessionOp.aggregated_perform t (env.config t) now ops k hop hk
  exact ⟨ops, hops, rfl, hagrees.consistent_iff.mpr hreplayed⟩

end Tracer

end Ttl
