import Ttl.State.Replay
import Ttl.Trace.Conservation

/-!
# Replay of a run

A session and its recorded events are two accounts of one run. The live session is updated by the
engine, the receiver and the flush; the replay knows the events alone. `Update.mirrored` says that each
update changes both in step, apart from the poll, which records no event, and from a reset.
`Swept` counts the timeouts that the replay knows: those that a sweep recorded, and not those of the
final flush.

`replay_fidelity` is what a replay of a finished run gives back. Its second part is about the
destination: the replay takes any reply from the target's address for its arrival, and the live session
an Echo Reply only. A reply to a path MTU probe records no event, and changes nothing, because such a
probe is sent at the TTL where the destination has been reached already (`Placed`).
-/

namespace Ttl

open Runs

/-- The entry was swept. -/
@[simp]
def Occurrence.isSwept : Occurrence → Bool
  | expired _ _ flush _ => ! flush
  | _ => false

/-- The entry was flushed. -/
@[simp]
def Occurrence.isFlushed : Occurrence → Bool
  | expired _ _ flush _ => flush
  | _ => false

/-- The entries that a receiver has swept and not yet recorded. -/
def Receiver.sweeping (r : Receiver) : List (PendingKey × PendingProbe) :=
  match r.phase with
  | .recording timed_out false => timed_out
  | _ => []

/-- The TTL of the path MTU probe that an engine is at. -/
def EnginePc.pmtudTtl : EnginePc → Option UInt8
  | .pmtudReady dest_ttl | .pmtudSized dest_ttl _ | .pmtudRegistered dest_ttl _ => some dest_ttl
  | _ => none

/-- The engine holds a normal probe that it is about to send, or a response that it is about to record. -/
def EnginePc.holdsProbe : EnginePc → Bool
  | .registered .. | .polled _ => true
  | _ => false

namespace Tracer

/-- What a step must meet for the events to tell of the target's probes: it conserves probes, and the
poll records no Echo Reply for the target. -/
def Records (t : IpAddr) (s : Tracer) (a : Action) : Prop := s.Conserves a ∧ a ≠ .pollApply t

instance (t : IpAddr) (s : Tracer) : DecidablePred (Records t s) := fun _ =>
  inferInstanceAs (Decidable (_ ∧ _))

section

variable {env : Env} {s s' : Tracer} {a : Action} {t : IpAddr}

/-- An update that is not of these two changes the replay like the session. -/
theorem Update.mirrored {f : Session → Session} {x : Session} (hu : Update env s a t f)
    (hs : Sound env s) (hx : x.Belongs (env.config t) t) (hm : x.Mirrored) (hreset : a ≠ .reset t)
    (hpoll : a ≠ .pollApply t) : (f x).Mirrored := by
  have hfull : x.hops.length = x.config.max_ttl.toNat := by rw [hx.length, hx.config_eq]
  cases hu with
  | @sent _ flow_id ttl todo pc =>
    have hc := hs.todo t ttl (by rw [pc]; exact List.mem_cons_self)
    have hhop := hx.isSome_hop hc.2.1 hc.2.2
    refine hm.congr rfl rfl rfl rfl (Session.length_hopMut _ _ _) fun k replayed late h => ?_
    rw [Session.tally_recordProbeSent hhop]
    split_ifs
    · exact h.liveSent
    · exact h
  | pmtudCheck pc =>
    obtain ⟨pmtud, heq, -⟩ := Session.checkPmtudReady_eq (env.config t) x
    dsimp only
    rw [heq]
    exact hm.congr rfl rfl rfl rfl rfl fun k replayed late h => h
  | pmtudSent pc => exact hm.congr rfl rfl rfl rfl rfl fun k replayed late h => h
  | clamp pc => exact hm.congr rfl rfl rfl rfl rfl fun k replayed late h => h
  | polled pc => exact absurd rfl hpoll
  | late phase dest =>
    refine hm.record _ rfl rfl rfl rfl rfl hfull (fun k _ => rfl) fun _ replayed late h => ?_
    exact h.lateReply _ _
  | @applied b resp batch phase head =>
    have hc := hs.batch b resp (by rw [head]; exact List.mem_cons_self)
    have htally := @Session.tally_applyResponse (env.receiver b) s.now resp x
      (hx.isSome_hop hc.2.1 hc.2.2)
    obtain ⟨htarget, hconfig, hstarted, hlength, hevents⟩ :=
      Session.applyResponse_frame (env.receiver b) s.now resp x
    cases hp : resp.packet_size with
    | some size =>
      -- A response to a path MTU probe is not recorded, and counts at no hop.
      rw [hp, Option.isSome_some, if_pos rfl] at hevents
      refine hm.congr hevents htarget hconfig hstarted hlength fun k replayed late h => ?_
      rw [htally, if_neg (by simp [hp])]
      exact h
    | none =>
      rw [hp, Option.isSome_none, if_neg Bool.false_ne_true] at hevents
      refine hm.record _ hevents htarget hconfig hstarted hlength hfull (fun k hk => ?_)
        fun _ replayed late h => ?_
      · rw [htally, if_neg fun hc => hk hc.2]
      · rw [htally, if_pos ⟨hp, rfl⟩]
        simpa [BatchedResponse.event, ProbeOutcome.lateAddr, ProbeOutcome.replay] using
          h.response resp.responder resp.rtt
  | @timedOut b key probe timed_out flush phase =>
    have hc := (hs.timedOut b (key, probe) (by simp [Receiver.timedOut, phase])).2
    have htally := @Session.tally_recordPendingTimeout s.now (! flush) (! flush) key probe x
      (hx.isSome_hop hc.2.1 hc.2.2)
    obtain ⟨htarget, hconfig, hstarted, hlength, hevents⟩ :=
      Session.recordPendingTimeout_frame s.now (! flush) (! flush) key probe x
    -- The flush counts the timeout of a normal probe without recording it.
    by_cases hrecord : (! key.is_pmtud && ! flush) = true
    · rw [if_pos hrecord] at hevents
      obtain ⟨hnormal, -⟩ : key.is_pmtud = false ∧ flush = false := by simpa using hrecord
      refine hm.record _ hevents htarget hconfig hstarted hlength hfull (fun k hk => ?_)
        fun _ replayed late h => ?_
      · rw [htally, if_neg fun hc => hk hc.2]
      · rw [htally, if_pos ⟨hnormal, rfl⟩]
        simpa [timeoutEvent, ProbeOutcome.lateAddr, ProbeOutcome.replay] using h.timeout
    · rw [if_neg hrecord] at hevents
      refine hm.congr hevents htarget hconfig hstarted hlength fun k replayed late h => ?_
      rw [htally]
      split_ifs
      · exact h.liveTimeout
      · exact h
  | reset => exact absurd rfl hreset
  | pause => exact hm.congr rfl rfl rfl rfl rfl fun k replayed late h => h

/-! ## The timeouts that a replay knows -/

/-- The timeouts of a session's replay at a TTL. -/
def replayTimeouts (s : Tracer) (t : IpAddr) (k : UInt8) : ℕ :=
  ((s.sessions.lookup t).map fun x => (x.replay.tally k).timeouts).getD 0

/-- The normal probes of a target and TTL that are swept and not yet recorded. -/
def sweepingAt (s : Tracer) (t : IpAddr) (k : UInt8) : ℕ :=
  s.overReceivers fun r => r.sweeping.countP fun e => e.1.normalAt t k

/-- The timeouts of the replay, and those about to be recorded, are the sweeps. -/
def Swept (s : Tracer) (t : IpAddr) (k : UInt8) : Prop :=
  s.replayTimeouts t k + s.sweepingAt t k = s.logged t k Occurrence.isSwept

/-- Only the record of a swept probe adds a timeout to the replay. -/
theorem Update.replayTimeouts {f : Session → Session} {x : Session} {k : UInt8}
    (hu : Update env s a t f) (hreset : a ≠ .reset t)
    (htimeout : ∀ b, a ≠ .recordTimeout b) :
    ((f x).replay.tally k).timeouts = (x.replay.tally k).timeouts := by
  -- An event that is no timeout leaves the timeouts of the replay alone.
  have hevent : ∀ {x' : Session} {e : ProbeEvent}, x'.replay = x.replay.applyReplayEvent e →
      e.outcome ≠ .Timeout → (x'.replay.tally k).timeouts = (x.replay.tally k).timeouts := by
    intro x' e hx' hne
    rw [hx', Session.tally_applyReplayEvent]
    split_ifs
    · cases ho : e.outcome with
      | Timeout => exact absurd ho hne
      | Reply => rfl
      | LateReply => rfl
    · rfl
  cases hu with
  | pmtudCheck pc =>
    obtain ⟨pmtud, heq, -⟩ := Session.checkPmtudReady_eq (env.config t) x
    dsimp only
    rw [heq]
    rfl
  | polled pc =>
    rw [Session.applyPolled_eq]
    rfl
  | late phase dest =>
    exact hevent (Session.replay_snoc rfl rfl rfl rfl) (by simp [lateReplyEvent])
  | @applied b resp batch phase head =>
    obtain ⟨htarget, hconfig, hstarted, -, hevents⟩ :=
      Session.applyResponse_frame (env.receiver b) s.now resp x
    split_ifs at hevents
    · rw [Session.replay_congr hevents htarget hconfig hstarted]
    · exact hevent (Session.replay_snoc hevents htarget hconfig hstarted)
        (by simp [BatchedResponse.event])
  | timedOut phase => exact absurd rfl (htimeout _)
  | reset => exact absurd rfl hreset
  | _ => rfl

/-- So a step leaves the timeouts of a replay alone, unless it records a timeout or resets. -/
theorem Step.replayTimeouts {k : UInt8} (h : Step env s a s') (hreset : a ≠ .reset t)
    (htimeout : ∀ b, a ≠ .recordTimeout b) : s'.replayTimeouts t k = s.replayTimeouts t k := by
  unfold Tracer.replayTimeouts
  rcases h.sessions with hs | ⟨t', f, hu, hs⟩
  · rw [hs]
  · rw [hs, KeyMap.lookup_modify]
    split_ifs with ht
    · subst ht
      cases s.sessions.lookup t with
      | none => rfl
      | some x => exact hu.replayTimeouts hreset htimeout
    · rfl

/-- A step that neither expires probes nor records one leaves the swept probes alone. -/
theorem Step.sweeping {b : Bool} (h : Step env s a s') (hexpire : ∀ b, a ≠ .expire b)
    (htimeout : ∀ b, a ≠ .recordTimeout b) :
    (s'.receivers b).sweeping = (s.receivers b).sweeping := by
  rcases h.receiver_cases b with he | hturn
  · rw [he]
  generalize s'.receivers b = r at hturn ⊢
  cases hturn with
  | receive phase perm found entry => simp [Receiver.sweeping, phase]
  | recordLate phase => simp [Receiver.sweeping, phase]
  | apply phase head => simp [Receiver.sweeping, phase]
  | expire phase => exact absurd rfl (hexpire _)
  | recordTimeout phase => exact absurd rfl (htimeout _)
  | shift shift =>
    -- Neither the old phase nor the new one holds a swept probe.
    cases shift with
    | @recorded flush phase => cases flush <;> simp [Receiver.sweeping, phase]
    | missed phase _ _ | forgotten phase _ | drained phase | checkCancel phase _ | fail phase _ =>
      simp [Receiver.sweeping, phase]

/-- A step that does not expire probes logs no sweep. -/
theorem Step.logged_swept {k : UInt8} (h : Step env s a s') (hexpire : ∀ b, a ≠ .expire b) :
    s'.logged t k Occurrence.isSwept = s.logged t k Occurrence.isSwept := by
  have happend : ∀ {os : List Occurrence}, (∀ o ∈ os, o.isSwept = false) →
      (s.log ++ os).countP (fun o => o.isSwept && o.key.normalAt t k) =
        s.log.countP fun o => o.isSwept && o.key.normalAt t k := by
    intro os hos
    rw [List.countP_append, Nat.add_eq_left, List.countP_eq_zero]
    intro o ho
    rw [hos o ho, Bool.false_and]
    exact Bool.false_ne_true
  cases h with
  | register pc => exact happend (by simp)
  | pmtudRegister pc => exact happend (by simp)
  | sendErr pc => exact happend (by split_ifs <;> simp)
  | pmtudSendErr pc => exact happend (by split_ifs <;> simp)
  | poll pc found entry => exact happend (by simp)
  | receive phase perm found entry => exact happend (by simp)
  | expire phase => exact absurd rfl (hexpire _)
  | _ => rfl

/-- What a receiver that begins to record sweeps: nothing when it flushes. -/
theorem sweeping_recording (l : List (PendingKey × PendingProbe)) (flush : Bool)
    (batch : List BatchedResponse) :
    Receiver.sweeping ⟨.recording l flush, batch⟩ = if flush then [] else l := by
  cases flush <;> rfl

/-- The sweep logs what it is going to record, and the flush logs no sweep. -/
theorem Swept.expire {k : UInt8} {b flush : Bool} (h : s.Swept t k)
    (phase : (s.receivers b).phase = .cleanup flush) :
    ((s.setPending (surviving env s b flush)
      ((expiring env s b flush).map fun e => .expired e.1 e.2 flush s.now)).setReceiver b
        ⟨.recording (expiring env s b flush) flush, (s.receivers b).batch⟩).Swept t k := by
  set s₁ := s.setPending (surviving env s b flush)
    ((expiring env s b flush).map fun e => .expired e.1 e.2 flush s.now) with hs₁
  have hsum := @overReceivers_setReceiver s₁ b
    ⟨.recording (expiring env s b flush) flush, (s.receivers b).batch⟩
    fun r => r.sweeping.countP fun e => e.1.normalAt t k
  -- Nothing is being recorded when the receiver comes to its cleanup.
  have hbefore : (s₁.receivers b).sweeping = [] := by
    show (s.receivers b).sweeping = []
    simp [Receiver.sweeping, phase]
  have hover : (s₁.overReceivers fun r => r.sweeping.countP fun e => e.1.normalAt t k) =
      s.overReceivers fun r => r.sweeping.countP fun e => e.1.normalAt t k := rfl
  have hlog : s₁.logged t k Occurrence.isSwept = s.logged t k Occurrence.isSwept +
      if flush then 0 else (expiring env s b flush).countP fun e => e.1.normalAt t k := by
    rw [hs₁, logged_setPending, List.countP_map]
    cases flush <;> simp [Function.comp_def]
  rw [hbefore, hover, sweeping_recording] at hsum
  unfold Swept sweepingAt at h ⊢
  rw [(account_setReceiver b _).2.2.2.2, hlog]
  show s.replayTimeouts t k + _ = _
  cases flush <;> simp only [if_true, if_false, Bool.false_eq_true, List.countP_nil] at hsum ⊢ <;> omega

/-- The record of a swept probe adds a timeout to the session's replay at its TTL. -/
theorem replayTimeouts_recordPendingTimeout {config : Config} {x : Session} {k : UInt8} {now : ℕ}
    {flush update : Bool} {key : PendingKey} {probe : PendingProbe}
    (hx : x.Belongs config key.target) (hhop : (x.hop key.probe_id.ttl).isSome) :
    ((x.recordPendingTimeout now (! flush) update key probe).replay.tally k).timeouts =
      (x.replay.tally k).timeouts + if ! flush && key.normalAt key.target k then 1 else 0 := by
  obtain ⟨htarget, hconfig, hstarted, -, hevents⟩ :=
    Session.recordPendingTimeout_frame now (! flush) update key probe x
  -- The replay has a hop at the probe's TTL, so it does not skip the event.
  have hreplayed : (x.replay.hop key.probe_id.ttl).isSome := by
    rw [Session.isSome_hop, (Session.replay_frame x).2, hx.config_eq, ← hx.length,
      ← Session.isSome_hop]
    exact hhop
  by_cases hrecord : (! key.is_pmtud && ! flush) = true
  · rw [if_pos hrecord] at hevents
    obtain ⟨hnormal, hsweep⟩ : key.is_pmtud = false ∧ flush = false := by simpa using hrecord
    rw [Session.replay_snoc hevents htarget hconfig hstarted, Session.tally_applyReplayEvent]
    by_cases hk : k = key.probe_id.ttl
    · subst hk
      rw [if_pos ⟨hreplayed, rfl⟩, if_pos (by simp [PendingKey.normalAt, hnormal, hsweep])]
      rfl
    · rw [if_neg fun hc => hk hc.2, if_neg (by simp [PendingKey.normalAt, Ne.symm hk])]
      rfl
  · rw [if_neg hrecord] at hevents
    rw [Session.replay_congr hevents htarget hconfig hstarted, if_neg]
    · rfl
    · intro hc
      refine hrecord ?_
      simp only [PendingKey.normalAt, Bool.and_eq_true, decide_eq_true_eq, Bool.not_eq_true'] at hc ⊢
      exact ⟨hc.2.1, hc.1⟩

/-- A swept probe that is recorded adds a timeout to the replay, and a flushed one does not. -/
theorem Swept.recordTimeout {k : UInt8} {b flush : Bool} {key : PendingKey} {probe : PendingProbe}
    {timed_out : List (PendingKey × PendingProbe)} (h : s.Swept t k) (hs : Sound env s)
    (phase : (s.receivers b).phase = .recording ((key, probe) :: timed_out) flush) :
    ((s.onSession key.target
      (Session.recordPendingTimeout s.now (! flush) (! flush) key probe)).setReceiver b
        ⟨.recording timed_out flush, (s.receivers b).batch⟩).Swept t k := by
  obtain ⟨-, hc⟩ := hs.timedOut b (key, probe) (by simp [Receiver.timedOut, phase])
  obtain ⟨x, hx, hhop⟩ := hs.hop hc
  have hbelongs := hs.sessions _ x hx
  set s₁ := s.onSession key.target
    (Session.recordPendingTimeout s.now (! flush) (! flush) key probe) with hs₁
  have hsum := @overReceivers_setReceiver s₁ b ⟨.recording timed_out flush, (s.receivers b).batch⟩
    fun r => r.sweeping.countP fun e => e.1.normalAt t k
  have hbefore : (s₁.receivers b).sweeping = if flush then [] else (key, probe) :: timed_out := by
    show (s.receivers b).sweeping = _
    rw [← sweeping_recording _ flush (s.receivers b).batch, ← phase]
  have hover : (s₁.overReceivers fun r => r.sweeping.countP fun e => e.1.normalAt t k) =
      s.overReceivers fun r => r.sweeping.countP fun e => e.1.normalAt t k := rfl
  have hreplay : s₁.replayTimeouts t k = s.replayTimeouts t k +
      if ! flush && key.normalAt t k then 1 else 0 := by
    unfold replayTimeouts
    rw [hs₁, onSession_sessions, KeyMap.lookup_modify]
    by_cases ht : t = key.target
    · subst ht
      rw [if_pos rfl, hx]
      exact replayTimeouts_recordPendingTimeout hbelongs hhop
    · rw [if_neg ht, if_neg (by simp [PendingKey.normalAt, Ne.symm ht])]
      rfl
  rw [hbefore, hover, sweeping_recording] at hsum
  unfold Swept sweepingAt at h ⊢
  rw [(account_setReceiver b _).2.2.2.2]
  show s₁.replayTimeouts t k + _ = s.logged t k _
  rw [hreplay]
  cases flush <;>
    simp only [if_true, if_false, Bool.false_eq_true, List.countP_nil, List.countP_cons, Bool.not_true,
      Bool.not_false, Bool.false_and, Bool.true_and] at hsum ⊢ <;> omega

/-- Every step but a reset keeps the timeouts of the replay those of the sweeps. -/
theorem Swept.step {k : UInt8} (h : s.Swept t k) (hs : Sound env s) (hreset : a ≠ .reset t)
    (hstep : Step env s a s') : s'.Swept t k := by
  -- Only these two actions touch a part of the equation.
  have hother : (∀ b, a ≠ .expire b) → (∀ b, a ≠ .recordTimeout b) → s'.Swept t k := by
    intro hexpire htimeout
    unfold Swept sweepingAt overReceivers at h ⊢
    dsimp only at h ⊢
    rw [hstep.replayTimeouts hreset htimeout, hstep.logged_swept hexpire,
      hstep.sweeping hexpire htimeout, hstep.sweeping hexpire htimeout]
    exact h
  by_cases hexpire : ∃ b, a = .expire b
  · obtain ⟨b, rfl⟩ := hexpire
    cases hstep with
    | expire phase => exact h.expire phase
    | move move => cases move
    | shift shift => cases shift
  by_cases htimeout : ∃ b, a = .recordTimeout b
  · obtain ⟨b, rfl⟩ := htimeout
    cases hstep with
    | recordTimeout phase => exact h.recordTimeout hs phase
    | move move => cases move
    | shift shift => cases shift
  exact hother (fun b hb => hexpire ⟨b, hb⟩) fun b hb => htimeout ⟨b, hb⟩

end

/-! ## The destination -/

/-- What a step must meet for the replay to agree on the destination: a reply from the target's address
is an Echo Reply. -/
def EchoesOnly (t : IpAddr) (_ : Tracer) : Action → Prop
  | .receive _ parsed _ _ => parsed.responder = t → parsed.response_type = .EchoReply
  | _ => True

instance (t : IpAddr) (s : Tracer) : DecidablePred (EchoesOnly t s) := fun a => by
  apply @Action.casesOn (fun a => Decidable (EchoesOnly t s a)) a <;> intros <;>
    dsimp only [EchoesOnly] <;> infer_instance

/-- Path MTU probes go no further than the destination, and the replay agrees on where it is. -/
structure Placed (s : Tracer) (t : IpAddr) : Prop where
  /-- The destination was reached at the TTL of the probe that the engine is at. -/
  engine : ∀ x d, s.sessions.lookup t = some x → (s.engines t).pc.pmtudTtl = some d → x.Reached d
  /-- So it was for a pending probe. -/
  pending : ∀ x key, s.sessions.lookup t = some x → key ∈ s.pending → key.target = t →
    key.is_pmtud = true → x.Reached key.probe_id.ttl
  /-- So it was for a response in a batch. -/
  batch : ∀ x b, ∀ resp ∈ (s.receivers b).batch, s.sessions.lookup t = some x → resp.target = t →
    resp.packet_size.isSome = true → x.Reached resp.probe_id.ttl
  /-- A response to a normal probe from the target's address is an Echo Reply. -/
  echo : ∀ b, ∀ resp ∈ (s.receivers b).batch, resp.packet_size = none → resp.responder = t →
    resp.response_type = .EchoReply
  /-- The replay agrees. -/
  mirrored : ∀ x, s.sessions.lookup t = some x → x.DestMirrored

section

variable {env : Env} {s s' : Tracer} {a : Action} {t : IpAddr}

/-- An engine comes to a path MTU probe at the destination's TTL. -/
theorem Step.pmtudTtl {d : UInt8} (h : Step env s a s') (hd : (s'.engines t).pc.pmtudTtl = some d) :
    (s.engines t).pc.pmtudTtl = some d ∨
      ∃ x, s.sessions.lookup t = some x ∧ x.dest_ttl = some d := by
  rcases h.engine_cases t with he | hadv
  · rw [he] at hd
    exact Or.inl hd
  generalize (s'.engines t).pc = pc' at hadv hd
  cases hadv with
  | move move =>
    cases move with
    | sized pc entry read =>
      rw [pc]
      exact Or.inl hd
    | _ => cases hd
  | @ready dest_ttl session pc entry dest =>
    obtain rfl := Option.some.inj hd
    exact Or.inr ⟨session, entry, dest⟩
  | pmtudRegister pc =>
    rw [pc]
    exact Or.inl hd
  | _ => cases hd

/-- An update that is no reset leaves the destination reached. -/
theorem Update.reached {f : Session → Session} {x : Session} {ttl : UInt8} (hu : Update env s a t f)
    (hreset : a ≠ .reset t) (h : x.Reached ttl) : (f x).Reached ttl := by
  cases hu with
  | pmtudCheck pc =>
    obtain ⟨pmtud, heq, -⟩ := Session.checkPmtudReady_eq (env.config t) x
    dsimp only
    rw [heq]
    exact h
  | @polled _ resp pc =>
    have hmark := @Session.Reached.markDestination x ttl resp.probe_id.ttl h
    rw [Session.applyPolled_eq]
    unfold Session.Reached at h hmark ⊢
    dsimp only
    split_ifs
    · exact hmark
    · exact h
  | @applied b resp batch phase head =>
    have hmark := @Session.Reached.markDestination x ttl resp.probe_id.ttl h
    rw [Session.applyResponse_eq]
    unfold Session.Reached at h hmark ⊢
    dsimp only
    split_ifs
    · exact hmark
    · exact h
  | timedOut phase =>
    rw [Session.recordPendingTimeout_eq]
    exact h
  | reset => exact absurd rfl hreset
  | _ => exact h

/-- The replay agrees on the destination after an update that is neither a reset nor by the poll. -/
theorem Update.destMirrored {f : Session → Session} {x : Session} (hu : Update env s a t f)
    (hs : Sound env s) (hx : s.sessions.lookup t = some x) (h : s.Placed t) (hreset : a ≠ .reset t)
    (hpoll : a ≠ .pollApply t) : (f x).DestMirrored := by
  have hm := h.mirrored x hx
  have hbelongs := hs.sessions t x hx
  have hfull : x.hops.length = x.config.max_ttl.toNat := by rw [hbelongs.length, hbelongs.config_eq]
  cases hu with
  | pmtudCheck pc =>
    obtain ⟨pmtud, heq, -⟩ := Session.checkPmtudReady_eq (env.config t) x
    dsimp only
    rw [heq]
    exact hm.congr rfl rfl rfl rfl rfl rfl
  | polled pc => exact absurd rfl hpoll
  | late phase dest =>
    exact hm.record _ rfl rfl rfl rfl hfull (fun h => by cases h) rfl rfl
  | @applied b resp batch phase head =>
    have hmem : resp ∈ (s.receivers b).batch := by rw [head]; exact List.mem_cons_self
    have hc := hs.batch b resp hmem
    have htarget := hbelongs.target
    cases hp : resp.packet_size with
    | some size =>
      -- The destination has been reached at the probe's TTL, so marking it again changes nothing.
      have hreached := h.batch x b resp hmem hx rfl (by rw [hp]; rfl)
      obtain ⟨hcomplete, hdest⟩ := hreached.markDestination_eq
      rw [Session.applyResponse_eq]
      refine hm.congr ?_ rfl rfl rfl ?_ ?_
      · simp [hp]
      · dsimp only
        split_ifs
        · exact hcomplete
        · rfl
      · dsimp only
        split_ifs
        · exact hdest
        · rfl
    | none =>
      -- The replay takes a reply from the target for its arrival, and so does the session, because
      -- it is an Echo Reply.
      have harrived : ((resp.event (x.offsetMs s.now)).arrived x.target : Bool) = resp.arrived := by
        have hecho := h.echo b resp hmem hp
        simp only [ProbeEvent.arrived, BatchedResponse.event, BatchedResponse.arrived, htarget,
          decide_eq_decide]
        exact ⟨fun ha => ⟨hecho ha, ha⟩, And.right⟩
      rw [Session.applyResponse_eq]
      refine hm.record (resp.event (x.offsetMs s.now)) ?_ rfl rfl rfl hfull
        (fun _ => hbelongs.isSome_hop hc.2.1 hc.2.2) ?_ ?_
      · simp [hp]
      · rw [harrived]
      · rw [harrived]
        rfl
  | @timedOut b key probe timed_out flush phase =>
    rw [Session.recordPendingTimeout_eq]
    by_cases hrecord : (! key.is_pmtud && ! flush) = true
    · exact hm.record (timeoutEvent key probe (x.offsetMs s.now)) (if_pos hrecord) rfl rfl rfl hfull
        (fun h => by cases h) rfl rfl
    · exact hm.congr (if_neg hrecord) rfl rfl rfl rfl rfl
  | reset => exact absurd rfl hreset
  | _ => exact hm.congr rfl rfl rfl rfl rfl rfl

/-- Every step but a reset and a poll keeps the replay in agreement on the destination, when its address only
sends Echo Replies. -/
theorem Placed.step (h : s.Placed t) (hs : Sound env s) (hreset : a ≠ .reset t)
    (hpoll : a ≠ .pollApply t) (hecho : EchoesOnly t s a) (hstep : Step env s a s') :
    s'.Placed t := by
  -- A destination that was reached before the step is reached after it.
  have hreached : ∀ {x' ttl}, s'.sessions.lookup t = some x' →
      (∀ x, s.sessions.lookup t = some x → x.Reached ttl) → x'.Reached ttl := by
    intro x' ttl hx' hall
    obtain ⟨x, hx, rfl | ⟨f, hu, rfl⟩⟩ := hstep.lookup_session hx'
    · exact hall _ hx
    · exact hu.reached hreset (hall x hx)
  refine ⟨fun x' d hx' hd => ?_, fun x' key hx' hmem htarget hpmtud => ?_,
    fun x' b resp hmem hx' htarget hsize => ?_, fun b resp hmem hsize hresponder => ?_,
    fun x' hx' => ?_⟩
  · rcases hstep.pmtudTtl hd with hd | ⟨x, hx, hd⟩
    · exact hreached hx' fun x hx => h.engine x d hx hd
    · -- `check_pmtud_ready` hands out the TTL where the destination was reached.
      refine hreached hx' fun y hy => ?_
      obtain rfl := Option.some.inj (hx.symm.trans hy)
      exact ⟨(h.mirrored x hx).done (by rw [hd]; rfl), d, hd, UInt8.le_refl _⟩
  · obtain ⟨probe, hl⟩ := Option.isSome_iff_exists.mp (AList.lookup_isSome.mpr hmem)
    rcases hstep.lookup_pending hl with hl | hr
    · have hold : key ∈ s.pending := AList.lookup_isSome.mp (by rw [hl]; rfl)
      exact hreached hx' fun x hx => h.pending x key hx hold htarget hpmtud
    · cases hr with
      | normal pc => cases hpmtud
      | @pmtud u d size pc =>
        -- The probe is registered at the TTL that its engine is at.
        obtain rfl : u = t := htarget
        exact hreached hx' fun x hx => h.engine x d hx (by rw [pc]; rfl)
  · rcases hstep.mem_batch hmem with hmem | ⟨parsed, _, _, key, probe, -, -, hfound, hl, rfl⟩
    · exact hreached hx' fun x hx => h.batch x b resp hmem hx htarget hsize
    · obtain ⟨hkey, hid⟩ := matchReply_spec hfound
      have hagrees := hs.keyed key probe hl
      refine hreached hx' fun x hx => ?_
      have hplaced := h.pending x key hx hkey (hagrees.target.symm.trans htarget)
        (hagrees.class_iff.trans hsize)
      rw [hid] at hplaced
      exact hplaced
  · rcases hstep.mem_batch hmem with hmem | ⟨parsed, _, _, key, probe, rfl, -, -, -, rfl⟩
    · exact h.echo b resp hmem hsize hresponder
    · exact hecho hresponder
  · obtain ⟨x, hx, rfl | ⟨f, hu, rfl⟩⟩ := hstep.lookup_session hx'
    · exact h.mirrored _ hx
    · exact hu.destMirrored hs hx h hreset hpoll

/-! ## The end of a run -/

/-- No normal probe of the target is left in flight. -/
structure Quiescent (s : Tracer) (t : IpAddr) : Prop where
  pending : ∀ key ∈ s.pending.keys, key.target = t → key.is_pmtud = true
  batch : ∀ b, ∀ resp ∈ (s.receivers b).batch, resp.target = t → resp.packet_size.isSome = true
  recording : ∀ b, ∀ e ∈ (s.receivers b).timedOut, e.1.target = t → e.1.is_pmtud = true
  engine : (s.engines t).pc.holdsProbe = false

instance (s : Tracer) (t : IpAddr) : Decidable (s.Quiescent t) :=
  decidable_of_iff
    ((∀ key ∈ s.pending.keys, key.target = t → key.is_pmtud = true) ∧
      (∀ b, ∀ resp ∈ (s.receivers b).batch, resp.target = t → resp.packet_size.isSome = true) ∧
      (∀ b, ∀ e ∈ (s.receivers b).timedOut, e.1.target = t → e.1.is_pmtud = true) ∧
      (s.engines t).pc.holdsProbe = false)
    ⟨fun ⟨h1, h2, h3, h4⟩ => ⟨h1, h2, h3, h4⟩, fun ⟨h1, h2, h3, h4⟩ => ⟨h1, h2, h3, h4⟩⟩

/-- What the account says of a target with no probe in flight. -/
theorem Quiescent.account {k : UInt8} (h : s.Quiescent t) (hacc : Account s t k) :
    (s.tally t k).sent = (s.tally t k).received + (s.tally t k).timeouts ∧
      (s.tally t k).timeouts = s.logged t k Occurrence.isExpired := by
  have hpending : s.pendingAt t k = 0 := by
    show s.pending.entries.countP _ = 0
    rw [List.countP_eq_zero]
    rintro ⟨key, probe⟩ hmem hn
    simp only [PendingKey.normalAt, decide_eq_true_eq] at hn
    have hkey : key ∈ s.pending.keys := List.mem_map_of_mem hmem
    simp [h.pending key hkey hn.2.1] at hn
  have hbatch : s.batchAt t k = 0 := by
    have hnone : ∀ b, (s.receivers b).batch.countP (·.normalAt t k) = 0 := by
      intro b
      rw [List.countP_eq_zero]
      intro resp hmem hn
      simp only [BatchedResponse.normalAt, decide_eq_true_eq] at hn
      have hsize := h.batch b resp hmem hn.2.1
      rw [hn.1] at hsize
      cases hsize
    exact congrArg₂ (· + ·) (hnone false) (hnone true)
  have hexpiring : s.expiringAt t k = 0 := by
    have hnone : ∀ b, ((s.receivers b).timedOut.countP fun e => e.1.normalAt t k) = 0 := by
      intro b
      rw [List.countP_eq_zero]
      intro e hmem hn
      simp only [PendingKey.normalAt, decide_eq_true_eq] at hn
      simp [h.recording b e hmem hn.2.1] at hn
    exact congrArg₂ (· + ·) (hnone false) (hnone true)
  have hengine : s.sendingAt t k = 0 ∧ s.polledAt t k = 0 := by
    have hpc := h.engine
    unfold sendingAt polledAt
    cases hc : (s.engines t).pc <;> rw [hc] at hpc <;> first | exact ⟨rfl, rfl⟩ | cases hpc
  obtain ⟨h1, h2, h3, h4⟩ := hacc
  omega

/-- Nothing is being swept where nothing is being recorded as timed out. -/
theorem Quiescent.sweepingAt {k : UInt8} (h : s.Quiescent t) : s.sweepingAt t k = 0 := by
  have hnone : ∀ b, ((s.receivers b).sweeping.countP fun e => e.1.normalAt t k) = 0 := by
    intro b
    rw [List.countP_eq_zero]
    intro e hmem hn
    have hrec : e ∈ (s.receivers b).timedOut := by
      unfold Receiver.sweeping at hmem
      unfold Receiver.timedOut
      split at hmem
      · next l hphase => rw [hphase]; exact hmem
      · cases hmem
    simp only [PendingKey.normalAt, decide_eq_true_eq] at hn
    simp [h.recording b e hrec hn.2.1] at hn
  exact congrArg₂ (· + ·) (hnone false) (hnone true)

/-- An expired entry was swept or flushed. -/
theorem logged_expired (s : Tracer) (t : IpAddr) (k : UInt8) :
    s.logged t k Occurrence.isExpired =
      s.logged t k Occurrence.isSwept + s.logged t k Occurrence.isFlushed := by
  unfold logged
  induction s.log with
  | nil => rfl
  | cons o log ih =>
    simp only [List.countP_cons, ih]
    cases o with
    | expired key probe flush time => cases flush <;> simp <;> omega
    | _ => simp

/-- The replay of a hop against the live hop, with the late replies recorded at it and the number of
its probes that were flushed. -/
structure HopReplay (late : List IpAddr) (flushed : ℕ) (live replayed : Hop) : Prop where
  sent : replayed.sent + flushed = live.sent
  timeouts : replayed.timeouts + flushed = live.timeouts
  received : replayed.received = live.received + late.length
  responder : ∀ a,
    (replayed.tally.responder a).received = (live.tally.responder a).received + late.count a
  rtt : ∀ a, a ∉ late → (live.tally.responder a).RoundsTo (replayed.tally.responder a)

/-- There are no timeouts at the start. -/
theorem swept_init {k : UInt8} (targets : List IpAddr) (now : ℕ) :
    (init env targets now).Swept t k := by
  have htimeouts : (init env targets now).replayTimeouts t k = 0 := by
    unfold replayTimeouts
    rw [lookup_init]
    split_ifs
    · exact congrArg Tally.timeouts (Session.tally_new t (env.config t) now k)
    · rfl
  have hsweeping : (init env targets now).sweepingAt t k = 0 := by
    simp only [sweepingAt, overReceivers, init, Receiver.sweeping]
    split_ifs <;> rfl
  unfold Swept
  rw [htimeouts, hsweeping]
  rfl

/-- No destination is marked at the start. -/
theorem placed_init (targets : List IpAddr) (now : ℕ) : (init env targets now).Placed t where
  engine := by
    intro x d _ hd
    simp only [init] at hd
    split_ifs at hd <;> cases hd
  pending := by intro x key _ h; cases h
  batch := by intro x b resp h; cases h
  echo := by intro b resp h; cases h
  mirrored := by
    intro x hx
    rw [lookup_init] at hx
    split_ifs at hx
    obtain rfl := Option.some.inj hx
    exact Session.destMirrored_new _ _ _

/-- The accounts of a run and of its replay. -/
theorem replay_run {targets : List IpAddr} {now : ℕ} {as : List Action}
    (h : run (Tracer.step env) (init env targets now) as = some s)
    (hc : StepsMeet (Tracer.step env) (Records t) (init env targets now) as) :
    Sound env s ∧ (∀ k, Account s t k) ∧ (∀ x, s.sessions.lookup t = some x → x.Mirrored) ∧
      ∀ k, s.Swept t k := by
  have hconserves := hc.imp fun s a (h : Records t s a) => h.1
  obtain ⟨hsound, hacc, -⟩ := account_run h hconserves
  refine ⟨hsound, hacc t, ?_⟩
  refine run_induction_of (fun _ s => (∀ x, s.sessions.lookup t = some x → x.Mirrored) ∧
    ∀ k, s.Swept t k) ⟨fun x hx => ?_, fun k => ?_⟩ ?_ as s h hc
  · rw [lookup_init] at hx
    split_ifs at hx
    obtain rfl := Option.some.inj hx
    exact Session.mirrored_new _ _ _
  · exact swept_init targets now
  · rintro as s a s' hrun ⟨hC, hpoll⟩ ⟨hm, hswept⟩ hstep
    have hs := sound_run hrun
    have hstep' := Step.of_step hstep
    have hreset : a ≠ .reset t := by
      rintro rfl
      exact hC
    refine ⟨fun x' hx' => ?_, fun k => (hswept k).step hs hreset hstep'⟩
    obtain ⟨x, hx, rfl | ⟨f, hu, rfl⟩⟩ := hstep'.lookup_session hx'
    · exact hm _ hx
    · exact hu.mirrored hs (hs.sessions t x hx) (hm x hx) hreset hpoll

/-- The destination of a run and of its replay. -/
theorem placed_run {targets : List IpAddr} {now : ℕ} {as : List Action}
    (h : run (Tracer.step env) (init env targets now) as = some s)
    (hc : StepsMeet (Tracer.step env) (Records t) (init env targets now) as)
    (he : StepsMeet (Tracer.step env) (EchoesOnly t) (init env targets now) as) : s.Placed t := by
  refine run_induction_of (fun _ s => s.Placed t) (placed_init targets now) ?_ as s h (hc.and he)
  rintro as s a s' hrun ⟨⟨hC, hpoll⟩, hecho⟩ ih hstep
  refine ih.step (sound_run hrun) ?_ hpoll hecho (.of_step hstep)
  rintro rfl
  exact hC

/-- At the end of a run, a replay of the recorded events gives back every hop's counters but for the
flushed probes, which it does not know, and the late replies, which it counts. It gives back the
destination as well, when replies from the target's address are Echo Replies. -/
theorem replay_fidelity {targets : List IpAddr} {now : ℕ} {as : List Action}
    (h : run (Tracer.step env) (init env targets now) as = some s)
    (hc : StepsMeet (Tracer.step env) (Records t) (init env targets now) as) (hq : s.Quiescent t)
    {x : Session} (hx : s.sessions.lookup t = some x) :
    (∀ k live, x.hop k = some live → ∃ replayed, x.replay.hop k = some replayed ∧
      HopReplay (x.late k) (s.logged t k Occurrence.isFlushed) live replayed) ∧
    (StepsMeet (Tracer.step env) (EchoesOnly t) (init env targets now) as →
      x.replay.complete = x.complete ∧ x.replay.dest_ttl = x.dest_ttl) := by
  obtain ⟨hsound, hacc, hmirrored, hswept⟩ := replay_run h hc
  have hbelongs := hsound.sessions t x hx
  refine ⟨fun k live hlive => ?_, fun he => ?_⟩
  · have hhop : (x.replay.hop k).isSome := by
      rw [Session.isSome_hop, (Session.replay_frame x).2, hbelongs.config_eq, ← hbelongs.length,
        ← Session.isSome_hop, hlive]
      rfl
    obtain ⟨replayed, hreplayed⟩ := Option.isSome_iff_exists.mp hhop
    obtain ⟨hlivesent, hlivetimeouts⟩ := hq.account (hacc k)
    have hs := hswept k
    have hexpired := logged_expired s t k
    -- The tallies of the session and of its replay, as those of the two hops.
    have hlivetally : s.tally t k = live.tally := by simp [tally, Session.tally, hx, hlive]
    have hsessiontally : x.tally k = live.tally := by simp [Session.tally, hlive]
    have hreplaytally : x.replay.tally k = replayed.tally := by simp [Session.tally, hreplayed]
    have hreplaytimeouts : s.replayTimeouts t k = replayed.timeouts := by
      simp [replayTimeouts, hx, hreplaytally, Hop.tally]
    have hreplay := hmirrored x hx k (by rw [hlive]; rfl)
    rw [hsessiontally, hreplaytally] at hreplay
    obtain ⟨hsent, hreceived, hresponder, hrtt⟩ := hreplay
    rw [hlivetally] at hlivesent hlivetimeouts
    unfold Swept at hs
    rw [hq.sweepingAt, hreplaytimeouts] at hs
    simp only [Hop.tally] at hsent hreceived hlivesent hlivetimeouts
    -- The live timeouts are swept or flushed, and the replayed ones are the swept ones.
    exact ⟨replayed, hreplayed, by omega, by omega, by omega, hresponder, hrtt⟩
  · have hdest := (placed_run h hc he).mirrored x hx
    exact ⟨hdest.complete, hdest.dest_ttl⟩

/-- The replay of a run in which the only probe is answered. -/
theorem replay_fidelity_answered :
    ∃ s x, run (Tracer.step (.icmp (some 1) 1 false)) (init (.icmp (some 1) 1 false) [sampleTarget] 0)
        answeredRound = some s ∧ s.sessions.lookup sampleTarget = some x ∧
      (∀ k live, x.hop k = some live → ∃ replayed, x.replay.hop k = some replayed ∧
        HopReplay (x.late k) (s.logged sampleTarget k Occurrence.isFlushed) live replayed) ∧
      x.replay.complete = x.complete ∧ x.replay.dest_ttl = x.dest_ttl := by
  obtain ⟨s, hs, hq, hx⟩ : ∃ s, run (Tracer.step (.icmp (some 1) 1 false))
      (init (.icmp (some 1) 1 false) [sampleTarget] 0) answeredRound = some s ∧
      s.Quiescent sampleTarget ∧ (s.sessions.lookup sampleTarget).isSome = true :=
    exists_run _ (by decide)
  obtain ⟨x, hx⟩ := Option.isSome_iff_exists.mp hx
  obtain ⟨hhops, hdest⟩ := replay_fidelity hs (by decide) hq hx
  exact ⟨s, x, hs, hx, hhops, hdest (by decide)⟩

/-- A round whose probe is swept, and answered after that. -/
def lateRound : List Action :=
  [.tick sampleTarget, .beginRound sampleTarget, .register sampleTarget, .sendOk sampleTarget,
    .clock (4 * 10^9), .drained false, .checkCancel false, .expire false, .recordTimeout false,
    .recorded false, .receive false sampleReply none [sampleTarget], .recordLate false]

/-- The replay counts the late reply, which the live session does not. -/
theorem replay_fidelity_fails_late_reply :
    (∃ s, run (Tracer.step (.icmp (some 1) 1 false)) (init (.icmp (some 1) 1 false) [sampleTarget] 0)
        lateRound = some s ∧ s.Quiescent sampleTarget ∧
      ((s.sessions.lookup sampleTarget).bind (·.hop 1)).map (·.received) = some 0 ∧
      ((s.sessions.lookup sampleTarget).bind (·.replay.hop 1)).map (·.received) = some 1) ∧
    StepsMeet (Tracer.step (.icmp (some 1) 1 false)) (Records sampleTarget)
      (init (.icmp (some 1) 1 false) [sampleTarget] 0) lateRound :=
  ⟨exists_run _ (by decide), by decide⟩

end

end Tracer

end Ttl
