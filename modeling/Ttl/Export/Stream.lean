import Ttl.Lib.Json
import Ttl.Lib.Lines
import Ttl.Lib.Runs
import Ttl.State.Addresses
import Ttl.Trace.Aggregates

/-!
# The stream of events

`--stream-json`: the lines of `src/export/stream.rs`, and the loop of `run_streaming_mode` (`src/main.rs`) that takes
the events out of the sessions every 100 ms, and once more when all tasks have ended. The tasks that record the events
run beside it, between any two of its steps, and any of its writes may fail, which ends the mode. How a record is
written as JSON is left to serde_json, which is a parameter. `stream_run` is about what a reader of the output gets: for
each target all events that were ever recorded, in their order, and then its summary, or a beginning of that after a
failure.
-/

namespace Ttl

open Json

/-! ## Lines -/

/-- `ProbeOutcome`, as its members: `type` and, of a reply, the responder and the round-trip time. -/
def ProbeOutcome.members : ProbeOutcome → Record
  | .Reply addr rtt_us =>
    [("type".toList, .str "reply".toList), ("addr".toList, .str addr.text), ("rtt_us".toList, .num rtt_us)]
  | .Timeout => [("type".toList, .str "timeout".toList)]
  | .LateReply addr rtt_us =>
    [("type".toList, .str "late_reply".toList), ("addr".toList, .str addr.text), ("rtt_us".toList, .num rtt_us)]

/-- `EventLine`, with the members of the event beside the target. -/
def eventLine (target : IpAddr) (event : ProbeEvent) : Record :=
  [("target".toList, .str target.text), ("offset_ms".toList, .num event.offset_ms),
    ("ttl".toList, .num event.ttl.toNat), ("seq".toList, .num event.seq.toNat),
    ("flow_id".toList, .num event.flow_id.toNat)] ++ event.outcome.members

/-- `SummaryLine`, of a session. -/
def summaryLine (target : IpAddr) (session : Session) : Record :=
  [("target".toList, .str target.text), ("type".toList, .str "summary".toList),
    ("complete".toList, .bool session.complete),
    ("dest_ttl".toList, match session.dest_ttl with
      | some ttl => .num ttl.toNat
      | none => .null),
    ("total_sent".toList, .num session.total_sent),
    ("hops_responding".toList, .num (session.hops.countP fun h => 0 < h.received))]

/-- A record of the stream. -/
def IsLine (r : Record) : Prop :=
  (∃ target event, r = eventLine target event) ∨ ∃ target session, r = summaryLine target session

/-- What the stream needs of `serde_json::to_writer` and of a reader at the other end: the compact form has no line
feed, and it reads back to what was written. -/
structure WritesJson (to_json : Record → List Char) (from_json : List Char → Option Record) : Prop where
  line : ∀ r, IsLine r → '\n' ∉ to_json r
  reads : ∀ r, IsLine r → from_json (to_json r) = some r

/-- A writer of the compact form, and a reader of it. -/
theorem writesJson_recordText : WritesJson recordText readRecord :=
  ⟨fun r _ => feed_notMem_record r, fun r _ => readRecord_text r⟩

/-- A record on a line of its own: `write_event_line` and `write_summary_line`. -/
def writeLine (to_json : Record → List Char) (r : Record) : List Char := to_json r ++ ['\n']

/-- The lines of the output that are ended, each read as a record. -/
def readStream (from_json : List Char → Option Record) (text : List Char) : Option (List Record) :=
  (Lines.ended text).mapM from_json

/-- The records of a target, as `select(.target == …)` finds them. -/
def ofTarget (target : IpAddr) (records : List Record) : List Record :=
  records.filter fun r => r.lookup "target".toList = some (.str target.text)

section

variable {to_json : Record → List Char} {from_json : List Char → Option Record}

/-- Records on their lines are the ended lines of their texts. -/
theorem flatMap_writeLine (to_json : Record → List Char) (records : List Record) :
    records.flatMap (writeLine to_json) = Lines.unlines (records.map to_json) := by
  rw [Lines.unlines, List.flatMap_map]
  rfl

/-- The texts of records of the stream have no line feed. -/
theorem WritesJson.feed_notMem (hjson : WritesJson to_json from_json) {records : List Record}
    (hlines : ∀ r ∈ records, IsLine r) : ∀ line ∈ records.map to_json, '\n' ∉ line := by
  intro line hline
  obtain ⟨r, hr, rfl⟩ := List.mem_map.mp hline
  exact hjson.line r (hlines r hr)

/-- What is written is read, up to a line that is not ended. -/
theorem readStream_writeLine (hjson : WritesJson to_json from_json) {records : List Record}
    (hlines : ∀ r ∈ records, IsLine r) {part : List Char} (hpart : '\n' ∉ part) :
    readStream from_json (records.flatMap (writeLine to_json) ++ part) = some records ∧
      Lines.unfinished (records.flatMap (writeLine to_json) ++ part) = part := by
  obtain ⟨hended, hunfinished⟩ := Lines.ended_unlines (hjson.feed_notMem hlines) hpart
  rw [flatMap_writeLine, readStream, hended]
  refine ⟨?_, hunfinished⟩
  clear hended hunfinished
  induction records with
  | nil => rfl
  | cons r records ih =>
    obtain ⟨hr, hrest⟩ := List.forall_mem_cons.mp hlines
    rw [List.map_cons, List.mapM_cons, hjson.reads r hr, Option.bind_eq_bind, Option.bind_some, ih hrest]
    rfl

end

/-- An event line bears its target. -/
theorem lookup_eventLine (target : IpAddr) (event : ProbeEvent) :
    (eventLine target event).lookup "target".toList = some (.str target.text) := rfl

/-- So does a summary. -/
theorem lookup_summaryLine (target : IpAddr) (session : Session) :
    (summaryLine target session).lookup "target".toList = some (.str target.text) := rfl

/-- The text of a target finds that target alone. -/
theorem target_eq_iff {r : Record} {t target : IpAddr} (h : r.lookup "target".toList = some (.str t.text)) :
    r.lookup "target".toList = some (.str target.text) ↔ t = target := by
  rw [h, Option.some.injEq, Scalar.str.injEq]
  exact IpAddr.text_injective.eq_iff

/-- An outcome can be told from its members. -/
theorem members_injective : Function.Injective ProbeOutcome.members := by
  intro x y h
  cases x <;> cases y <;> simp only [ProbeOutcome.members] at h
  case Reply.Reply addr rtt_us addr' rtt_us' =>
    simp only [List.cons.injEq, Prod.mk.injEq, Scalar.str.injEq, Scalar.num.injEq, true_and, and_true] at h
    rw [IpAddr.text_injective h.1, h.2]
  case Timeout.Timeout => rfl
  case LateReply.LateReply addr rtt_us addr' rtt_us' =>
    simp only [List.cons.injEq, Prod.mk.injEq, Scalar.str.injEq, Scalar.num.injEq, true_and, and_true] at h
    rw [IpAddr.text_injective h.1, h.2]
  all_goals
    have htype := congrArg List.head? h
    exact absurd htype (by simp)

/-- An event can be told from its line. -/
theorem eventLine_injective (target : IpAddr) : Function.Injective (eventLine target) := by
  intro x y h
  obtain ⟨hfields, hmembers⟩ := List.append_inj h rfl
  simp only [List.cons.injEq, Prod.mk.injEq, Scalar.num.injEq, true_and, and_true] at hfields
  obtain ⟨hoffset, httl, hseq, hflow⟩ := hfields
  obtain ⟨offset_ms, ttl, seq, flow_id, outcome⟩ := x
  dsimp only at hoffset httl hseq hflow hmembers
  rw [hoffset, UInt8.toNat_inj.mp httl, UInt8.toNat_inj.mp hseq, UInt8.toNat_inj.mp hflow, members_injective hmembers]

/-! ## The loop -/

/-- What a task does to a session: events are recorded behind those that are there. -/
structure Recording where
  apply : Session → Session
  grows : ∀ x, x.events <+: (apply x).events

/-- The events that are recorded. -/
def Recording.recorded (r : Recording) (x : Session) : List ProbeEvent := (r.apply x).events.drop x.events.length

/-- A recording adds its events behind those of the session. -/
theorem Recording.events_apply (r : Recording) (x : Session) : (r.apply x).events = x.events ++ r.recorded x := by
  obtain ⟨rest, hrest⟩ := r.grows x
  rw [recorded, ← hrest, List.drop_left]

/-- What an engine, a receiver or a replay does to a session is such a task. Only the reset of the UI is not. -/
theorem SessionOp.prefix_events (op : SessionOp) (h : op.isReset = false) (x : Session) :
    x.events <+: (op.apply x).events := by
  cases op with
  | sent flow_id ttl => exact List.prefix_rfl
  | response config now resp =>
    rw [apply, (x.applyResponse_frame config now resp).2.2.2.2]
    split_ifs
    · exact List.prefix_rfl
    · exact List.prefix_append _ _
  | timeout now record_events update_pmtud key probe =>
    rw [apply, (x.recordPendingTimeout_frame now record_events update_pmtud key probe).2.2.2.2]
    split_ifs
    · exact List.prefix_append _ _
    · exact List.prefix_rfl
  | polled target resp =>
    rw [apply, Session.applyPolled]
    dsimp only [Session.onCurrentSize]
    split_ifs <;> exact List.prefix_rfl
  | replay event =>
    rw [apply, Session.applyReplayEvent]
    split_ifs
    · exact List.prefix_rfl
    · split
      · dsimp only
        split_ifs <;> exact List.prefix_rfl
      · exact List.prefix_rfl
      · exact List.prefix_rfl
  | reset now => cases h
  | record event => exact List.prefix_append _ _
  | pause paused => exact List.prefix_rfl
  | pmtudCheck config =>
    rw [apply, Session.checkPmtudReady]
    split_ifs
    · split
      · split <;> exact List.prefix_rfl
      · exact List.prefix_rfl
    · exact List.prefix_rfl
  | pmtudSent => exact List.prefix_rfl
  | pmtudClamp packet_size => exact List.prefix_rfl

/-- An operation as a task. -/
def SessionOp.recording (op : SessionOp) (h : op.isReset = false) : Recording := ⟨op.apply, op.prefix_events h⟩

namespace Streaming

/-- Where `run_streaming_mode` is, with the targets that it has not come to. -/
inductive Place where
  | Waiting
  | Emitting (rest : List IpAddr)
  /-- All tasks are waited for. -/
  | Joining
  | Draining (rest : List IpAddr)
  | Summing (rest : List IpAddr)
  | Done
  /-- The mode has ended with an error. -/
  | Failed
deriving DecidableEq

/-- What a step of the mode or of a task is. -/
inductive Action where
  | record (ip : IpAddr) (r : Recording)
  | cancel
  /-- The last task has ended. -/
  | stop
  | tick
  /-- The loop is left. -/
  | leave
  /-- The next step inside `emit_stream_events`, of a join or of the summaries. -/
  | next
  /-- A write of that step fails after so many characters, or a flush or a joined task does. -/
  | fail (written : ℕ)

end Streaming

/-- The variables of `run_streaming_mode`, and its output. -/
structure Streaming where
  sessions : KeyMap IpAddr Session
  targets : List IpAddr
  output : List Char
  place : Streaming.Place
  cancelled : Bool
  stopped : Bool

namespace Streaming

variable (to_json : Record → List Char)

/-- `emit_stream_events`, for one target: its events are taken and written. -/
def emit (s : Streaming) (t : IpAddr) : Streaming :=
  match s.sessions.lookup t with
  | none => s
  | some x =>
    { s with
      sessions := KeyMap.modify s.sessions t fun x => { x with events := [] }
      output := s.output ++ x.events.flatMap fun e => writeLine to_json (eventLine t e) }

/-- The summary of a target. -/
def summarize (s : Streaming) (t : IpAddr) : Streaming :=
  match s.sessions.lookup t with
  | none => s
  | some x => { s with output := s.output ++ writeLine to_json (summaryLine t x) }

/-- The step from `s` to `s'` fails in its writes, after so many characters. What it took from the session is lost. -/
def failed (s s' : Streaming) (written : ℕ) : Streaming :=
  { s' with output := s'.output.take (s.output.length + written), place := .Failed }

/-- A step of the mode, where it is, or of a task, until the last one has ended. -/
def step (s : Streaming) : Action → Option Streaming
  | .record ip r =>
    if s.stopped then none else some { s with sessions := KeyMap.modify s.sessions ip r.apply }
  | .cancel => some { s with cancelled := true }
  | .stop => some { s with stopped := true }
  | .tick => if s.place = .Waiting then some { s with place := .Emitting s.targets } else none
  | .leave => if s.place = .Waiting ∧ s.cancelled then some { s with place := .Joining } else none
  | .next =>
    match s.place with
    | .Waiting => none
    | .Emitting [] => some { s with place := .Waiting }
    | .Emitting (t :: rest) => some { s.emit to_json t with place := .Emitting rest }
    | .Joining => if s.stopped then some { s with place := .Draining s.targets } else none
    | .Draining [] => some { s with place := .Summing s.targets }
    | .Draining (t :: rest) => some { s.emit to_json t with place := .Draining rest }
    | .Summing [] => some { s with place := .Done }
    | .Summing (t :: rest) => some { s.summarize to_json t with place := .Summing rest }
    | .Done => none
    | .Failed => none
  | .fail written =>
    match s.place with
    | .Waiting => none
    | .Emitting [] => some (s.failed s written)
    | .Emitting (t :: _) => some (s.failed (s.emit to_json t) written)
    | .Joining => some (s.failed s written)
    | .Draining [] => some (s.failed s written)
    | .Draining (t :: _) => some (s.failed (s.emit to_json t) written)
    | .Summing [] => some (s.failed s written)
    | .Summing (t :: _) => some (s.failed (s.summarize to_json t) written)
    | .Done => none
    | .Failed => none

/-- The events that are recorded, in their order. -/
def note (log : List (IpAddr × ProbeEvent)) (s : Streaming) : Action → List (IpAddr × ProbeEvent)
  | .record ip r =>
    match s.sessions.lookup ip with
    | some x => log ++ (r.recorded x).map fun e => (ip, e)
    | none => log
  | _ => log

/-- The events of a target. -/
def eventsOf (t : IpAddr) (log : List (IpAddr × ProbeEvent)) : List ProbeEvent :=
  (log.filter fun e => e.1 = t).map Prod.snd

/-- The events of a session that are not written yet. -/
def pending (s : Streaming) (t : IpAddr) : List ProbeEvent := ((s.sessions.lookup t).map Session.events).getD []

/-- The summary of a target, when it has a session. -/
def summaryOf (s : Streaming) (t : IpAddr) : List Record := ((s.sessions.lookup t).map (summaryLine t)).toList

/-- `run_streaming_mode` when it starts, with fresh sessions. -/
structure Starts (s : Streaming) : Prop where
  nodup : s.targets.Nodup
  fresh : ∀ t, s.pending t = []
  output : s.output = []
  place : s.place = .Waiting
  running : s.stopped = false

/-! ### What is in the output -/

/-- What the place says of the targets whose summary is written, `before`, and of those whose events are. -/
def Phase (s : Streaming) (before : List IpAddr) : Prop :=
  match s.place with
  | .Waiting => before = []
  | .Emitting _ => before = []
  | .Joining => before = []
  | .Draining rest => before = [] ∧ s.stopped = true ∧ ∀ t ∈ s.targets, t ∈ rest ∨ s.pending t = []
  | .Summing rest => before ++ rest = s.targets ∧ s.stopped = true ∧ ∀ t ∈ s.targets, s.pending t = []
  | .Done => before = s.targets ∧ s.stopped = true ∧ ∀ t ∈ s.targets, s.pending t = []
  | .Failed => False

/-- Each target's records with its events that are pending are its recorded events, with the summary of those before. -/
structure Flows (s : Streaming) (log : List (IpAddr × ProbeEvent)) (records : List Record) (before : List IpAddr) :
    Prop where
  nodup : s.targets.Nodup
  lines : ∀ r ∈ records, IsLine r
  output : s.output = records.flatMap (writeLine to_json)
  each : ∀ t, ofTarget t records ++ (s.pending t).map (eventLine t) =
    (eventsOf t log).map (eventLine t) ++ if t ∈ before then s.summaryOf t else []
  phase : s.Phase before

/-- After a failure: each target's records are a beginning of what they would have been, and the last line may stop
within. -/
structure Broken (s : Streaming) (log : List (IpAddr × ProbeEvent)) (records : List Record) (part : List Char) :
    Prop where
  place : s.place = .Failed
  lines : ∀ r ∈ records, IsLine r
  output : s.output = records.flatMap (writeLine to_json) ++ part
  part : '\n' ∉ part
  each : ∀ t, ofTarget t records <+:
    (eventsOf t log).map (eventLine t) ++ if s.stopped then s.summaryOf t else []

variable {to_json : Record → List Char} {from_json : List Char → Option Record}

variable {s : Streaming} {log : List (IpAddr × ProbeEvent)} {records : List Record} {before rest : List IpAddr}
  {t : IpAddr}

/-- The records of a target, of two parts. -/
theorem ofTarget_append (t : IpAddr) (records records' : List Record) :
    ofTarget t (records ++ records') = ofTarget t records ++ ofTarget t records' :=
  List.filter_append _ _

/-- The lines of events are records of their target only. -/
theorem ofTarget_events (t target : IpAddr) (events : List ProbeEvent) :
    ofTarget target (events.map (eventLine t)) = if t = target then events.map (eventLine t) else [] := by
  unfold ofTarget
  split_ifs with ht
  · refine List.filter_eq_self.mpr fun r hr => ?_
    obtain ⟨e, -, rfl⟩ := List.mem_map.mp hr
    exact decide_eq_true ((target_eq_iff (lookup_eventLine t e)).mpr ht)
  · refine List.filter_eq_nil_iff.mpr fun r hr => ?_
    obtain ⟨e, -, rfl⟩ := List.mem_map.mp hr
    exact fun h => ht ((target_eq_iff (lookup_eventLine t e)).mp (of_decide_eq_true h))

/-- The line of a summary is a record of its target only. -/
theorem ofTarget_summary (t target : IpAddr) (x : Session) :
    ofTarget target [summaryLine t x] = if t = target then [summaryLine t x] else [] := by
  unfold ofTarget
  split_ifs with ht
  · exact List.filter_eq_self.mpr fun r hr => decide_eq_true (by
      rw [List.mem_singleton.mp hr]
      exact (target_eq_iff (lookup_summaryLine t x)).mpr ht)
  · refine List.filter_eq_nil_iff.mpr fun r hr h => ht ?_
    rw [List.mem_singleton.mp hr] at h
    exact (target_eq_iff (lookup_summaryLine t x)).mp (of_decide_eq_true h)

/-- The events of a target go to its line of the log alone. -/
theorem eventsOf_append (t ip : IpAddr) (events : List ProbeEvent) :
    eventsOf t (log ++ events.map fun e => (ip, e)) = eventsOf t log ++ if ip = t then events else [] := by
  unfold eventsOf
  rw [List.filter_append, List.map_append, List.filter_map, List.map_map]
  congr 1
  split_ifs with hip
  · have hall : (events.filter ((fun e : IpAddr × ProbeEvent => decide (e.1 = t)) ∘ fun e => (ip, e))) = events :=
      List.filter_eq_self.mpr fun e _ => decide_eq_true hip
    rw [hall]
    exact List.map_id _
  · have hnone : (events.filter ((fun e : IpAddr × ProbeEvent => decide (e.1 = t)) ∘ fun e => (ip, e))) = [] :=
      List.filter_eq_nil_iff.mpr fun e _ h => hip (of_decide_eq_true h)
    rw [hnone]
    rfl

/-! ### One step -/

/-- Emitting the events of a target leaves it none, and the other targets theirs. -/
theorem pending_emit (to_json : Record → List Char) (s : Streaming) (t t' : IpAddr) :
    (s.emit to_json t).pending t' = if t' = t then [] else s.pending t' := by
  unfold emit pending
  cases hx : s.sessions.lookup t with
  | none =>
    split_ifs with ht
    · rw [ht, hx]
      rfl
    · rfl
  | some x =>
    dsimp only
    rw [KeyMap.lookup_modify, hx]
    split_ifs <;> rfl

/-- Emitting the events of a target writes their lines behind the output. -/
theorem output_emit (to_json : Record → List Char) (s : Streaming) (t : IpAddr) :
    (s.emit to_json t).output = s.output ++ ((s.pending t).map (eventLine t)).flatMap (writeLine to_json) := by
  unfold emit pending
  cases s.sessions.lookup t with
  | none =>
    dsimp only
    rw [Option.map_none, Option.getD_none, List.map_nil, List.flatMap_nil, List.append_nil]
  | some x =>
    dsimp only
    rw [Option.map_some, Option.getD_some, List.flatMap_map]

/-- Emitting events keeps the targets, and does not stop the recording tasks. -/
theorem frame_emit (to_json : Record → List Char) (s : Streaming) (t : IpAddr) :
    (s.emit to_json t).targets = s.targets ∧ (s.emit to_json t).stopped = s.stopped := by
  unfold emit
  cases s.sessions.lookup t <;> exact ⟨rfl, rfl⟩

/-- Events are written on their lines. -/
theorem isLine_events (t : IpAddr) (events : List ProbeEvent) : ∀ r ∈ events.map (eventLine t), IsLine r := by
  intro r hr
  obtain ⟨e, -, rfl⟩ := List.mem_map.mp hr
  exact .inl ⟨t, e, rfl⟩

/-- So are the summaries. -/
theorem isLine_summaryOf (s : Streaming) (t : IpAddr) : ∀ r ∈ s.summaryOf t, IsLine r := by
  intro r hr
  obtain ⟨x, -, rfl⟩ := Option.map_eq_some_iff.mp (Option.mem_toList.mp hr)
  exact .inr ⟨t, x, rfl⟩

/-- Records of the stream, with more of them. -/
theorem Flows.lines_append (h : s.Flows to_json log records before) {extra : List Record}
    (hextra : ∀ r ∈ extra, IsLine r) : ∀ r ∈ records ++ extra, IsLine r :=
  List.forall_mem_append.mpr ⟨h.lines, hextra⟩

/-- The events of a session that is emptied are those that are written. -/
theorem Flows.emit (h : s.Flows to_json log records []) (t : IpAddr) (place : Place)
    (hphase : Phase { s.emit to_json t with place := place } []) :
    Flows to_json { s.emit to_json t with place := place } log (records ++ (s.pending t).map (eventLine t)) [] := by
  constructor
  case nodup =>
    dsimp only
    rw [(s.frame_emit to_json t).1]
    exact h.nodup
  case lines => exact h.lines_append (isLine_events t _)
  case output =>
    dsimp only
    rw [output_emit, h.output, List.flatMap_append]
  case each =>
    intro t'
    have heach := h.each t'
    rw [if_neg List.not_mem_nil, List.append_nil] at heach ⊢
    have hpending : pending { s.emit to_json t with place := place } t' = if t' = t then [] else s.pending t' :=
      s.pending_emit to_json t t'
    rw [hpending, ofTarget_append, ofTarget_events, ← heach]
    by_cases ht : t = t'
    · rw [if_pos ht, if_pos ht.symm, ht, List.map_nil, List.append_nil]
    · rw [if_neg ht, if_neg (Ne.symm ht), List.append_nil]
  case phase => exact hphase

/-- Nothing is summarized while the tasks run. -/
theorem Phase.before_eq_nil (h : s.Phase before) (hrunning : s.stopped = false) : before = [] := by
  unfold Phase at h
  split at h
  · exact h
  · exact h
  · exact h
  · exact h.1
  · rw [h.2.1] at hrunning
    cases hrunning
  · rw [h.2.1] at hrunning
    cases hrunning
  · exact h.elim

/-- Recorded events are pending. -/
theorem Flows.record (h : s.Flows to_json log records before) (hrunning : s.stopped = false) (ip : IpAddr)
    (r : Recording) :
    Flows to_json { s with sessions := KeyMap.modify s.sessions ip r.apply } (note log s (.record ip r)) records
      before := by
  obtain rfl := h.phase.before_eq_nil hrunning
  have hpending : ∀ t, pending { s with sessions := KeyMap.modify s.sessions ip r.apply } t =
      s.pending t ++ if ip = t then ((s.sessions.lookup ip).map r.recorded).getD [] else [] := by
    intro t
    unfold pending
    dsimp only
    rw [KeyMap.lookup_modify]
    by_cases ht : t = ip
    · subst ht
      rw [if_pos rfl, if_pos rfl]
      cases s.sessions.lookup t with
      | none => rfl
      | some x => exact r.events_apply x
    · rw [if_neg ht, if_neg (Ne.symm ht), List.append_nil]
  have hlog : ∀ t, eventsOf t (note log s (.record ip r)) =
      eventsOf t log ++ if ip = t then ((s.sessions.lookup ip).map r.recorded).getD [] else [] := by
    intro t
    have hnote : note log s (.record ip r) =
        log ++ (((s.sessions.lookup ip).map r.recorded).getD []).map fun e => (ip, e) := by
      cases hx : s.sessions.lookup ip with
      | none =>
        simp only [note, hx]
        exact (List.append_nil log).symm
      | some x =>
        simp only [note, hx]
        rfl
    rw [hnote]
    exact eventsOf_append t ip _
  constructor
  case nodup => exact h.nodup
  case lines => exact h.lines
  case output => exact h.output
  case each =>
    intro t
    have heach := h.each t
    rw [if_neg List.not_mem_nil, List.append_nil] at heach ⊢
    rw [hpending, hlog, List.map_append, List.map_append, ← List.append_assoc, heach]
  case phase =>
    -- Past the join there is no task that could record.
    have hphase := h.phase
    unfold Phase at hphase ⊢
    dsimp only
    cases hplace : s.place with
    | Waiting => rfl
    | Emitting rest => rfl
    | Joining => rfl
    | Draining rest =>
      rw [hplace] at hphase
      rw [hphase.2.1] at hrunning
      cases hrunning
    | Summing rest =>
      rw [hplace] at hphase
      rw [hphase.2.1] at hrunning
      cases hrunning
    | Done =>
      rw [hplace] at hphase
      rw [hphase.2.1] at hrunning
      cases hrunning
    | Failed =>
      rw [hplace] at hphase
      exact hphase

/-- A step that only goes on. -/
theorem Flows.proceed (h : s.Flows to_json log records before) (place : Place) (cancelled stopped : Bool)
    (hphase : Phase { s with place := place, cancelled := cancelled, stopped := stopped } before) :
    Flows to_json { s with place := place, cancelled := cancelled, stopped := stopped } log records before :=
  ⟨h.nodup, h.lines, h.output, h.each, hphase⟩

/-- A summary is written behind the output. -/
theorem output_summarize (to_json : Record → List Char) (s : Streaming) (t : IpAddr) :
    (s.summarize to_json t).output = s.output ++ (s.summaryOf t).flatMap (writeLine to_json) := by
  unfold summarize summaryOf
  cases s.sessions.lookup t with
  | none =>
    rw [Option.map_none]
    exact (List.append_nil _).symm
  | some x =>
    rw [Option.map_some, Option.toList_some, List.flatMap_singleton]

/-- A summary keeps the targets and the sessions, and does not stop the recording tasks. -/
theorem frame_summarize (to_json : Record → List Char) (s : Streaming) (t : IpAddr) :
    (s.summarize to_json t).targets = s.targets ∧
    (s.summarize to_json t).sessions = s.sessions ∧ (s.summarize to_json t).stopped = s.stopped := by
  unfold summarize
  cases s.sessions.lookup t <;> exact ⟨rfl, rfl, rfl⟩

/-- A summary is a record of its target only. -/
theorem ofTarget_summaryOf (s : Streaming) (t target : IpAddr) :
    ofTarget target (s.summaryOf t) = if t = target then s.summaryOf t else [] := by
  unfold summaryOf
  cases s.sessions.lookup t with
  | none =>
    rw [Option.map_none, Option.toList_none, ite_self]
    rfl
  | some x => exact ofTarget_summary t target x

/-- The summary of the next target follows its events. -/
theorem Flows.summarize (h : s.Flows to_json log records before) (hplace : s.place = .Summing (t :: rest)) :
    Flows to_json { s.summarize to_json t with place := .Summing rest } log (records ++ s.summaryOf t)
      (before ++ [t]) := by
  obtain ⟨htargets, hsessions, hstop⟩ := s.frame_summarize to_json t
  have hphase := h.phase
  unfold Phase at hphase
  rw [hplace] at hphase
  obtain ⟨hsplit, hstopped, hdrained⟩ := hphase
  have hfresh : t ∉ before := by
    have hnodup := h.nodup
    rw [← hsplit] at hnodup
    exact fun hmem => (List.nodup_append.mp hnodup).2.2 t hmem t List.mem_cons_self rfl
  have hpending : ∀ t', pending { s.summarize to_json t with place := .Summing rest } t' = s.pending t' := by
    intro t'
    unfold pending
    rw [hsessions]
  have hsummary : ∀ t', summaryOf { s.summarize to_json t with place := .Summing rest } t' = s.summaryOf t' := by
    intro t'
    unfold summaryOf
    rw [hsessions]
  constructor
  case nodup =>
    dsimp only
    rw [htargets]
    exact h.nodup
  case lines => exact h.lines_append (s.isLine_summaryOf t)
  case output =>
    dsimp only
    rw [output_summarize, h.output, List.flatMap_append]
  case each =>
    intro t'
    have heach := h.each t'
    rw [hpending, hsummary, ofTarget_append, ofTarget_summaryOf]
    by_cases ht : t = t'
    · subst ht
      have hnone : s.pending t = [] := hdrained t (by rw [← hsplit]; exact List.mem_append_right _ List.mem_cons_self)
      rw [hnone, if_neg hfresh, List.map_nil, List.append_nil, List.append_nil] at heach
      rw [hnone, List.map_nil, List.append_nil, if_pos rfl, heach,
        if_pos (List.mem_append_right _ (List.mem_singleton_self t))]
    · have hmem : t' ∈ before ++ [t] ↔ t' ∈ before := by
        rw [List.mem_append, List.mem_singleton]
        exact or_iff_left (Ne.symm ht)
      rw [if_neg ht, List.append_nil, heach]
      simp only [hmem]
  case phase =>
    refine ⟨?_, hstop.trans hstopped, fun t' ht' => (hpending t').trans (hdrained t' (htargets ▸ ht'))⟩
    rw [List.append_assoc, List.singleton_append, hsplit]
    exact htargets.symm

/-- A failure in the step to `s'` leaves some of the lines of that step, and a part of the next one. -/
theorem Flows.failed (hjson : WritesJson to_json from_json) {s' : Streaming} {extra : List Record}
    (h : s'.Flows to_json log (records ++ extra) before) (houtput : s.output = records.flatMap (writeLine to_json))
    (written : ℕ) : ∃ records' part, (s.failed s' written).Broken to_json log records' part := by
  obtain ⟨hlines, hextra⟩ := List.forall_mem_append.mp h.lines
  obtain ⟨k, part, htake, hpart⟩ := Lines.exists_take_unlines (hjson.feed_notMem hextra) written
  refine ⟨records ++ extra.take k, part, ?_⟩
  constructor
  case place => rfl
  case lines => exact List.forall_mem_append.mpr ⟨hlines, fun r hr => hextra r (List.mem_of_mem_take hr)⟩
  case output =>
    have hcut : (s.failed s' written).output = s'.output.take (s.output.length + written) := rfl
    rw [hcut, h.output, List.flatMap_append, ← houtput, List.take_length_add_append, flatMap_writeLine _ extra, htake,
      ← List.map_take, ← flatMap_writeLine, List.flatMap_append, houtput, List.append_assoc]
  case part => exact hpart
  case each =>
    intro t
    have heach := h.each t
    have hbegin : ofTarget t (records ++ extra.take k) <+: ofTarget t (records ++ extra) :=
      ((List.prefix_append_right_inj records).mpr (List.take_prefix k extra)).filter _
    have hall : ofTarget t (records ++ extra) <+:
        (eventsOf t log).map (eventLine t) ++ if t ∈ before then s'.summaryOf t else [] := ⟨_, heach⟩
    refine (hbegin.trans hall).trans ?_
    have hframe : (s.failed s' written).stopped = s'.stopped ∧ (s.failed s' written).summaryOf t = s'.summaryOf t :=
      ⟨rfl, rfl⟩
    rw [hframe.1, hframe.2]
    cases hstopped : s'.stopped with
    | true =>
      rw [if_pos rfl, List.prefix_append_right_inj]
      split_ifs
      · exact List.prefix_rfl
      · exact List.nil_prefix
    | false =>
      -- No summary is written while a task runs.
      have hbefore := h.phase.before_eq_nil hstopped
      simp only [hbefore, List.not_mem_nil, Bool.false_eq_true, if_false, List.prefix_rfl]

/-- After a failure the tasks alone go on. -/
theorem Broken.step {part : List Char} (h : s.Broken to_json log records part) {a : Action} {s' : Streaming}
    (hstep : s.step to_json a = some s') : s'.Broken to_json (note log s a) records part := by
  have hplace := h.place
  cases a with
  | record ip r =>
    rw [Streaming.step] at hstep
    split_ifs at hstep with hstopped
    rw [← Option.some.inj hstep]
    refine ⟨h.place, h.lines, h.output, h.part, fun t => ?_⟩
    have heach := h.each t
    dsimp only
    rw [if_neg hstopped, List.append_nil] at heach ⊢
    have hgrows : eventsOf t log <+: eventsOf t (note log s (.record ip r)) := by
      have hlog : log <+: note log s (.record ip r) := by
        rw [note]
        cases s.sessions.lookup ip with
        | none => exact List.prefix_rfl
        | some x => exact List.prefix_append _ _
      exact (hlog.filter _).map _
    exact heach.trans (hgrows.map _)
  | cancel =>
    rw [← Option.some.inj hstep]
    exact ⟨h.place, h.lines, h.output, h.part, h.each⟩
  | stop =>
    rw [← Option.some.inj hstep]
    refine ⟨h.place, h.lines, h.output, h.part, fun t => (h.each t).trans ?_⟩
    have hsummary : (if s.stopped then s.summaryOf t else []) <+: s.summaryOf t := by
      split_ifs
      · exact List.prefix_rfl
      · exact List.nil_prefix
    exact (List.prefix_append_right_inj _).mpr hsummary
  | tick =>
    rw [Streaming.step, hplace] at hstep
    cases hstep
  | leave =>
    rw [Streaming.step, hplace] at hstep
    cases hstep
  | next =>
    rw [Streaming.step, hplace] at hstep
    cases hstep
  | fail written =>
    rw [Streaming.step, hplace] at hstep
    cases hstep

/-- The output is what it should be, or a beginning of it after a failure. -/
def Writes (to_json : Record → List Char) (s : Streaming) (log : List (IpAddr × ProbeEvent)) : Prop :=
  (∃ records before, s.Flows to_json log records before) ∨ ∃ records part, s.Broken to_json log records part

/-- The recording tasks may stop at any place of the loop. -/
theorem Flows.stop (h : s.Flows to_json log records before) :
    Flows to_json { s with stopped := true } log records before := by
  have hphase := h.phase
  refine h.proceed s.place s.cancelled true ?_
  unfold Phase at hphase ⊢
  dsimp only
  cases hplace : s.place <;> rw [hplace] at hphase <;> dsimp only at hphase ⊢
  case Draining rest => exact ⟨hphase.1, rfl, hphase.2.2⟩
  case Summing rest => exact ⟨hphase.1, rfl, hphase.2.2⟩
  case Done => exact ⟨hphase.1, rfl, hphase.2.2⟩
  all_goals exact hphase

/-- The last pass leaves no event of the targets that it has been through. -/
theorem Flows.drain (h : s.Flows to_json log records before) (hplace : s.place = .Draining (t :: rest)) :
    Flows to_json { s.emit to_json t with place := .Draining rest } log
      (records ++ (s.pending t).map (eventLine t)) [] := by
  have hphase := h.phase
  unfold Phase at hphase
  rw [hplace] at hphase
  obtain ⟨rfl, hstopped, hrest⟩ := hphase
  obtain ⟨htargets, hstop⟩ := s.frame_emit to_json t
  refine h.emit t _ ⟨rfl, hstop.trans hstopped, fun t' ht' => ?_⟩
  have hpending : pending { s.emit to_json t with place := .Draining rest } t' =
      if t' = t then [] else s.pending t' :=
    s.pending_emit to_json t t'
  rw [hpending]
  by_cases hsame : t' = t
  · exact .inr (if_pos hsame)
  · rw [if_neg hsame]
    have hleft : t' ∈ t :: rest ∨ s.pending t' = [] := hrest t' (htargets ▸ ht')
    exact hleft.imp_left fun hmem => (List.mem_cons.mp hmem).resolve_left hsame

/-- A step of the loop in which every write succeeds. -/
theorem Flows.next (h : s.Flows to_json log records before) {s' : Streaming}
    (hstep : s.step to_json .next = some s') : ∃ records' before', s'.Flows to_json log records' before' := by
  have hphase := h.phase
  unfold Phase at hphase
  rw [Streaming.step] at hstep
  cases hplace : s.place with
  | Waiting =>
    rw [hplace] at hstep
    cases hstep
  | Emitting rest =>
    rw [hplace] at hstep hphase
    obtain rfl : before = [] := hphase
    cases rest with
    | nil =>
      rw [← Option.some.inj hstep]
      exact ⟨records, [], h.proceed _ s.cancelled s.stopped rfl⟩
    | cons t rest =>
      rw [← Option.some.inj hstep]
      exact ⟨_, [], h.emit t _ rfl⟩
  | Joining =>
    rw [hplace] at hstep hphase
    dsimp only at hstep
    split_ifs at hstep with hstopped
    rw [← Option.some.inj hstep]
    exact ⟨records, before, h.proceed _ s.cancelled s.stopped ⟨hphase, hstopped, fun t ht => .inl ht⟩⟩
  | Draining rest =>
    rw [hplace] at hstep hphase
    cases rest with
    | nil =>
      obtain ⟨rfl, hstopped, hrest⟩ := hphase
      rw [← Option.some.inj hstep]
      have hdrained : ∀ t ∈ s.targets, s.pending t = [] :=
        fun t ht => (hrest t ht).resolve_left List.not_mem_nil
      exact ⟨records, [], h.proceed _ s.cancelled s.stopped ⟨rfl, hstopped, hdrained⟩⟩
    | cons t rest =>
      rw [← Option.some.inj hstep]
      exact ⟨_, [], h.drain hplace⟩
  | Summing rest =>
    rw [hplace] at hstep hphase
    obtain ⟨hsplit, hstopped, hdrained⟩ := hphase
    cases rest with
    | nil =>
      rw [← Option.some.inj hstep]
      rw [List.append_nil] at hsplit
      exact ⟨records, before, h.proceed _ s.cancelled s.stopped ⟨hsplit, hstopped, hdrained⟩⟩
    | cons t rest =>
      rw [← Option.some.inj hstep]
      exact ⟨_, _, h.summarize hplace⟩
  | Done =>
    rw [hplace] at hstep
    cases hstep
  | Failed =>
    rw [hplace] at hstep
    cases hstep

/-- A step of the loop with a write that fails: it cuts what the same step would have written. -/
theorem Flows.fail (hjson : WritesJson to_json from_json) (h : s.Flows to_json log records before) {written : ℕ}
    {s' : Streaming} (hstep : s.step to_json (.fail written) = some s') :
    ∃ records' part, s'.Broken to_json log records' part := by
  have hphase := h.phase
  unfold Phase at hphase
  have hnothing : ∃ records' part, (s.failed s written).Broken to_json log records' part := by
    rw [← List.append_nil records] at h
    exact Flows.failed hjson h (records.append_nil ▸ h.output) written
  rw [Streaming.step] at hstep
  cases hplace : s.place with
  | Waiting =>
    rw [hplace] at hstep
    cases hstep
  | Emitting rest =>
    rw [hplace] at hstep hphase
    obtain rfl : before = [] := hphase
    cases rest with
    | nil =>
      rw [← Option.some.inj hstep]
      exact hnothing
    | cons t rest =>
      rw [← Option.some.inj hstep]
      exact Flows.failed hjson (h.emit t (.Emitting rest) rfl) h.output written
  | Joining =>
    rw [hplace] at hstep
    rw [← Option.some.inj hstep]
    exact hnothing
  | Draining rest =>
    rw [hplace] at hstep hphase
    obtain ⟨rfl, -, -⟩ := hphase
    cases rest with
    | nil =>
      rw [← Option.some.inj hstep]
      exact hnothing
    | cons t rest =>
      rw [← Option.some.inj hstep]
      exact Flows.failed hjson (h.emit t (.Emitting rest) rfl) h.output written
  | Summing rest =>
    rw [hplace] at hstep
    cases rest with
    | nil =>
      rw [← Option.some.inj hstep]
      exact hnothing
    | cons t rest =>
      rw [← Option.some.inj hstep]
      exact Flows.failed hjson (h.summarize hplace) h.output written
  | Done =>
    rw [hplace] at hstep
    cases hstep
  | Failed =>
    rw [hplace] at hstep
    cases hstep

/-- Every step keeps the records and the recorded events together. -/
theorem Flows.step (hjson : WritesJson to_json from_json) (h : s.Flows to_json log records before) {a : Action}
    {s' : Streaming} (hstep : s.step to_json a = some s') : s'.Writes to_json (note log s a) := by
  have hphase := h.phase
  unfold Phase at hphase
  cases a with
  | record ip r =>
    rw [Streaming.step] at hstep
    split_ifs at hstep with hstopped
    rw [← Option.some.inj hstep]
    exact .inl ⟨records, before, h.record (Bool.eq_false_iff.mpr hstopped) ip r⟩
  | cancel =>
    rw [← Option.some.inj hstep]
    exact .inl ⟨records, before, h.proceed s.place true s.stopped h.phase⟩
  | stop =>
    rw [← Option.some.inj hstep]
    exact .inl ⟨records, before, h.stop⟩
  | tick =>
    rw [Streaming.step] at hstep
    split_ifs at hstep with hplace
    rw [← Option.some.inj hstep]
    rw [hplace] at hphase
    exact .inl ⟨records, before, h.proceed _ s.cancelled s.stopped hphase⟩
  | leave =>
    rw [Streaming.step] at hstep
    split_ifs at hstep with hplace
    rw [← Option.some.inj hstep]
    rw [hplace.1] at hphase
    exact .inl ⟨records, before, h.proceed _ s.cancelled s.stopped hphase⟩
  | next => exact .inl (h.next hstep)
  | fail written => exact .inr (h.fail hjson hstep)

/-- Nothing is written at the start. -/
theorem flows_of_starts (h : s.Starts) : s.Flows to_json [] [] [] := by
  constructor
  case nodup => exact h.nodup
  case lines => exact fun _ hr => absurd hr List.not_mem_nil
  case output => exact h.output
  case each =>
    intro t
    rw [h.fresh]
    rfl
  case phase =>
    unfold Phase
    rw [h.place]

/-- **What a reader gets**, in every interleaving of the stream with the tasks that record events, and whatever
fails: the ended lines of the output are one JSON object each, and those of a target are a beginning of its recorded
events in their order, with the summary of its session behind them, and all of this when the mode is done. So no event
is doubled or out of order, none is lost unless the mode fails, and every event can be told from its line. Unless the
mode has failed, every line is ended. -/
theorem stream_run (hjson : WritesJson to_json from_json) {s₀ : Streaming} (hstart : s₀.Starts) (actions : List Action)
    (hrun : Runs.run (Runs.recorded note (step to_json)) (s₀, []) actions = some (s, log)) :
    ∃ records, readStream from_json s.output = some records ∧
      (s.place ≠ .Failed → Lines.unfinished s.output = []) ∧ ∀ t,
        ofTarget t records <+: (eventsOf t log).map (eventLine t) ++ s.summaryOf t ∧
          (s.place = .Done → t ∈ s.targets →
            ofTarget t records = (eventsOf t log).map (eventLine t) ++ s.summaryOf t) ∧
          Function.Injective (eventLine t) := by
  have hwrites : s.Writes to_json log := by
    refine Runs.run_induction (fun _ x => x.1.Writes to_json x.2) (.inl ⟨[], [], flows_of_starts hstart⟩) ?_ actions
      (s, log) hrun
    intro _ x a x' _ hx hstep
    obtain ⟨hnext, hlog⟩ := Runs.recorded_eq_some.mp hstep
    rw [hlog]
    rcases hx with ⟨records, before, h⟩ | ⟨records, part, h⟩
    · exact h.step hjson hnext
    · exact .inr ⟨records, part, h.step hnext⟩
  rcases hwrites with ⟨records, before, h⟩ | ⟨records, part, h⟩
  · obtain ⟨hread, hended⟩ := readStream_writeLine hjson h.lines (List.not_mem_nil (a := '\n'))
    rw [List.append_nil, ← h.output] at hread hended
    refine ⟨records, hread, fun _ => hended, fun t => ⟨?_, ?_, eventLine_injective t⟩⟩
    · have heach := h.each t
      have hprefix : ofTarget t records <+:
          (eventsOf t log).map (eventLine t) ++ if t ∈ before then s.summaryOf t else [] := ⟨_, heach⟩
      split_ifs at hprefix
      · exact hprefix
      · rw [List.append_nil] at hprefix
        exact hprefix.trans (List.prefix_append _ _)
    · intro hdone ht
      have hphase := h.phase
      unfold Phase at hphase
      rw [hdone] at hphase
      obtain ⟨rfl, -, hdrained⟩ := hphase
      have heach := h.each t
      rw [hdrained t ht, if_pos ht] at heach
      rwa [List.map_nil, List.append_nil] at heach
  · obtain ⟨hread, -⟩ := readStream_writeLine hjson h.lines h.part
    rw [← h.output] at hread
    refine ⟨records, hread, fun hplace => absurd h.place hplace, fun t => ⟨?_, ?_, eventLine_injective t⟩⟩
    · refine (h.each t).trans ?_
      rw [List.prefix_append_right_inj]
      split_ifs
      · exact List.prefix_rfl
      · exact List.nil_prefix
    · intro hdone
      rw [h.place] at hdone
      cases hdone

/-- One target. -/
def sampleStream : Streaming where
  sessions := (∅ : KeyMap IpAddr Session).insert (.V4 ⟨192, 0, 2, 1⟩)
    (Session.new (.V4 ⟨192, 0, 2, 1⟩) SessionOp.sampleConfig 0)
  targets := [.V4 ⟨192, 0, 2, 1⟩]
  output := []
  place := .Waiting
  cancelled := false
  stopped := false

/-- It has written nothing. -/
theorem starts_sampleStream : sampleStream.Starts := by
  refine ⟨List.nodup_singleton _, fun t => ?_, rfl, rfl, rfl⟩
  unfold pending sampleStream
  dsimp only
  rw [KeyMap.lookup_insert]
  split_ifs <;> rfl

/-- The task that records a timeout. -/
def sampleTimeout (offset_ms : ℕ) : Action :=
  .record (.V4 ⟨192, 0, 2, 1⟩) (SessionOp.recording (.record ⟨offset_ms, 1, 0, 0, .Timeout⟩) rfl)

/-- Two events of which one is written by a tick and one by the last drain. -/
def sampleDone : List Action :=
  [sampleTimeout 5, .tick, .next, sampleTimeout 9, .next, .cancel, .leave, .stop, .next, .next, .next, .next, .next]

/-- Two events of which the second is cut after nine characters. -/
def sampleCut : List Action := [sampleTimeout 5, sampleTimeout 9, .tick, .fail 91]

/-- A writer of the compact form, with a run that is done and with one that fails. -/
theorem stream_run_sample :
    (∃ s log records, Runs.run (Runs.recorded note (step recordText)) (sampleStream, []) sampleDone = some (s, log) ∧
      s.place = .Done ∧ readStream readRecord s.output = some records ∧
      ofTarget (.V4 ⟨192, 0, 2, 1⟩) records =
        (eventsOf (.V4 ⟨192, 0, 2, 1⟩) log).map (eventLine (.V4 ⟨192, 0, 2, 1⟩)) ++
          s.summaryOf (.V4 ⟨192, 0, 2, 1⟩)) ∧
    ∃ s log records, Runs.run (Runs.recorded note (step recordText)) (sampleStream, []) sampleCut = some (s, log) ∧
      s.place = .Failed ∧ Lines.unfinished s.output = "\x7b\"target\"".toList ∧
      readStream readRecord s.output = some records ∧
      ofTarget (.V4 ⟨192, 0, 2, 1⟩) records <+:
        (eventsOf (.V4 ⟨192, 0, 2, 1⟩) log).map (eventLine (.V4 ⟨192, 0, 2, 1⟩)) ++
          s.summaryOf (.V4 ⟨192, 0, 2, 1⟩) := by
  constructor
  · obtain ⟨⟨s, log⟩, hrun, hdone, htargets⟩ :
        ∃ x, Runs.run (Runs.recorded note (step recordText)) (sampleStream, []) sampleDone = some x ∧
          x.1.place = .Done ∧ x.1.targets = [.V4 ⟨192, 0, 2, 1⟩] :=
      Runs.exists_run (fun x : Streaming × List (IpAddr × ProbeEvent) => x.1.place = .Done ∧
        x.1.targets = [.V4 ⟨192, 0, 2, 1⟩]) (by decide)
    obtain ⟨records, hread, -, hall⟩ := stream_run writesJson_recordText starts_sampleStream sampleDone hrun
    refine ⟨s, log, records, hrun, hdone, hread, (hall _).2.1 hdone ?_⟩
    rw [htargets]
    exact List.mem_singleton_self _
  · obtain ⟨⟨s, log⟩, hrun, hfailed, hpart⟩ :
        ∃ x, Runs.run (Runs.recorded note (step recordText)) (sampleStream, []) sampleCut = some x ∧
          x.1.place = .Failed ∧ Lines.unfinished x.1.output = "\x7b\"target\"".toList :=
      Runs.exists_run (fun x : Streaming × List (IpAddr × ProbeEvent) => x.1.place = .Failed ∧
        Lines.unfinished x.1.output = "\x7b\"target\"".toList) (by decide +kernel)
    obtain ⟨records, hread, -, hall⟩ := stream_run writesJson_recordText starts_sampleStream sampleCut hrun
    exact ⟨s, log, records, hrun, hfailed, hpart, hread, (hall _).1⟩

end Streaming

end Ttl
