import Ttl.State.Replay
import Ttl.Trace.Rounds

/-!
# The destination of a session

A session is complete when its target answered a probe, and then has the smallest TTL of the probes so
answered. The live session takes this from Echo Replies, and a replay from any recorded reply of the
target's address. `AppliedReply` is the history of the replies that were applied to a session since its
start or its reset, and `destination_detection` says when all three agree: the live session, its replay,
and the replies that show that the target was reached, which for UDP and TCP are errors of the target.
-/

namespace Ttl

open Runs

/-- A reply that was applied to a session, by the receiver or by the poll. -/
structure AppliedReply where
  /-- The TTL of the probe. -/
  ttl : UInt8
  responder : IpAddr
  response_type : IcmpResponseType
  /-- An event was recorded for it. -/
  recorded : Bool
deriving DecidableEq

namespace AppliedReply

/-- An Echo Reply of the target. -/
def echoes (t : IpAddr) (r : AppliedReply) : Bool := r.responder = t ∧ r.response_type = .EchoReply

/-- An Echo Reply or a Destination Unreachable of the target. -/
def reaches (t : IpAddr) (r : AppliedReply) : Bool :=
  r.responder = t && match r.response_type with
    | .EchoReply | .DestUnreachable _ => true
    | _ => false

/-- A reply of the target that a replay sees. -/
def replays (t : IpAddr) (r : AppliedReply) : Bool := r.responder = t ∧ r.recorded

/-- The TTLs of the probes whose replies satisfy `p`. -/
def ttlsOf (p : AppliedReply → Bool) (applied : List AppliedReply) : List UInt8 :=
  (applied.filter p).map AppliedReply.ttl

/-- What the receiver applies. -/
def ofBatched (resp : BatchedResponse) : AppliedReply :=
  ⟨resp.probe_id.ttl, resp.responder, resp.response_type, resp.packet_size.isNone⟩

/-- What the poll applies. -/
def ofPolled (resp : PolledResponse) : AppliedReply :=
  ⟨resp.probe_id.ttl, resp.responder, .EchoReply, false⟩

/-- The TTLs of the replies of a kind. -/
theorem mem_ttlsOf {p : AppliedReply → Bool} {applied : List AppliedReply} {ttl : UInt8} :
    ttl ∈ ttlsOf p applied ↔ ∃ r ∈ applied, p r = true ∧ r.ttl = ttl := by
  simp only [ttlsOf, List.mem_map, List.mem_filter, and_assoc]

/-- One reply more adds its TTL, when it is of the kind. -/
theorem ttlsOf_snoc (p : AppliedReply → Bool) (applied : List AppliedReply) (r : AppliedReply) :
    ttlsOf p (applied ++ [r]) = ttlsOf p applied ++ if p r then [r.ttl] else [] := by
  unfold ttlsOf
  rw [List.filter_append, List.map_append, List.filter_singleton]
  cases p r <;> rfl

end AppliedReply

open AppliedReply

namespace Session

/-- The destination of a session is that of the replies that satisfy `p`. -/
structure Marks (x : Session) (p : AppliedReply → Bool) (applied : List AppliedReply) : Prop where
  complete : x.complete = applied.any p
  dest_ttl : x.dest_ttl = (ttlsOf p applied).min?

variable {x y : Session} {p : AppliedReply → Bool} {applied : List AppliedReply}

/-- One more reply. -/
theorem Marks.snoc (h : x.Marks p applied) (r : AppliedReply)
    (complete : y.complete = if p r then true else x.complete)
    (dest_ttl : y.dest_ttl = if p r then (x.markDestination r.ttl).dest_ttl else x.dest_ttl) :
    y.Marks p (applied ++ [r]) := by
  constructor
  · rw [complete, h.complete, List.any_append, List.any_cons, List.any_nil, Bool.or_false]
    cases p r <;> simp
  · rw [dest_ttl, ttlsOf_snoc]
    split_ifs with hr
    · rw [min?_concat, ← h.dest_ttl, markDestination_dest_ttl]
      cases x.dest_ttl <;> rfl
    · rw [List.append_nil, h.dest_ttl]

/-- An update that leaves the destination alone. -/
theorem Marks.congr (h : x.Marks p applied) (complete : y.complete = x.complete)
    (dest_ttl : y.dest_ttl = x.dest_ttl) : y.Marks p applied :=
  ⟨complete.trans h.complete, dest_ttl.trans h.dest_ttl⟩

/-- A new session has marked nothing. -/
theorem marks_new (t : IpAddr) (config : Config) (now : ℕ) (p : AppliedReply → Bool) :
    (new t config now).Marks p [] := ⟨rfl, rfl⟩

/-- A session and its replay against the replies that were applied to it. -/
structure Traced (x : Session) (applied : List AppliedReply) : Prop where
  live : x.Marks (echoes x.target) applied
  replay : x.replay.Marks (replays x.target) applied

/-- An update that applies no reply, and records no event or one that does not mark the destination. -/
theorem Traced.congr (h : x.Traced applied) (target : y.target = x.target)
    (config : y.config = x.config) (started : y.started_instant = x.started_instant)
    (complete : y.complete = x.complete) (dest_ttl : y.dest_ttl = x.dest_ttl)
    (events : y.events = x.events ∨ ∃ e, y.events = x.events ++ [e] ∧ e.arrived x.target = false) :
    y.Traced applied := by
  refine ⟨target ▸ h.live.congr complete dest_ttl, ?_⟩
  rw [target]
  rcases events with hsame | ⟨e, hsnoc, harrived⟩
  · rw [replay_congr hsame target config started]
    exact h.replay
  · rw [replay_snoc hsnoc target config started]
    obtain ⟨hc, hd⟩ := applyReplayEvent_dest x.replay e
    have hnot : ¬ ((x.replay.hop e.ttl).isSome = true ∧ e.arrived x.replay.target = true) := by
      rw [(replay_frame x).1, harrived]
      exact fun h => Bool.false_ne_true h.2
    rw [if_neg hnot] at hc hd
    exact h.replay.congr hc hd

/-- The response of a normal or a path MTU probe is applied. -/
theorem Traced.applyResponse (h : x.Traced applied) {config : Config} (hx : x.Belongs config x.target)
    {resp : BatchedResponse} (target : resp.target = x.target) (hne : resp.probe_id.ttl ≠ 0)
    (hle : resp.probe_id.ttl ≤ config.max_ttl) (rc : ReceiverConfig) (now : ℕ) :
    (x.applyResponse rc now resp).Traced (applied ++ [ofBatched resp]) := by
  have harrived : resp.arrived = echoes x.target (ofBatched resp) := by
    unfold BatchedResponse.arrived echoes ofBatched
    rw [target, decide_eq_decide]
    exact and_comm
  obtain ⟨htarget, hconfig, hstarted, -, hevents⟩ := applyResponse_frame rc now resp x
  constructor
  · rw [htarget]
    refine h.live.snoc (ofBatched resp) ?_ ?_
    · rw [applyResponse_eq, harrived]
    · rw [applyResponse_eq, harrived]
      rfl
  · rw [htarget]
    cases hp : resp.packet_size with
    | some size =>
      -- The response of a path MTU probe is recorded nowhere.
      rw [hp] at hevents
      rw [replay_congr hevents htarget hconfig hstarted]
      have hnot : replays x.target (ofBatched resp) = false := by
        simp [replays, ofBatched, hp]
      refine h.replay.snoc (ofBatched resp) ?_ ?_ <;> rw [hnot] <;> rfl
    | none =>
      rw [hp] at hevents
      rw [replay_snoc hevents htarget hconfig hstarted]
      obtain ⟨hc, hd⟩ := applyReplayEvent_dest x.replay (resp.event (x.offsetMs now))
      have hhop : (x.replay.hop resp.probe_id.ttl).isSome = true := by
        rw [isSome_hop, (replay_frame x).2, hx.config_eq]
        exact ⟨hne, hle⟩
      have hiff : ((x.replay.hop (resp.event (x.offsetMs now)).ttl).isSome = true ∧
          (resp.event (x.offsetMs now)).arrived x.replay.target = true) ↔
          replays x.target (ofBatched resp) = true := by
        rw [(replay_frame x).1]
        simp [BatchedResponse.event, ProbeEvent.arrived, replays, ofBatched, hp, hhop]
      refine h.replay.snoc (ofBatched resp) ?_ ?_
      · rw [hc]
        exact if_congr hiff rfl rfl
      · rw [hd]
        exact if_congr hiff rfl rfl

/-- A polled Echo Reply is applied. -/
theorem Traced.applyPolled (h : x.Traced applied) (resp : PolledResponse) :
    (x.applyPolled x.target resp).Traced (applied ++ [ofPolled resp]) := by
  have hechoes : (echoes x.target (ofPolled resp) = true) ↔ resp.responder = x.target := by
    simp [echoes, ofPolled]
  have hreplay : (x.applyPolled x.target resp).replay = x.replay :=
    replay_congr (by rw [applyPolled_eq]) (by rw [applyPolled_eq]) (by rw [applyPolled_eq])
      (by rw [applyPolled_eq])
  constructor
  · rw [show (x.applyPolled x.target resp).target = x.target by rw [applyPolled_eq]]
    refine h.live.snoc (ofPolled resp) ?_ ?_
    · rw [applyPolled_eq]
      exact if_congr hechoes.symm rfl rfl
    · rw [applyPolled_eq]
      exact if_congr hechoes.symm rfl rfl
  · rw [show (x.applyPolled x.target resp).target = x.target by rw [applyPolled_eq], hreplay]
    have hnot : replays x.target (ofPolled resp) = false := by
      simp [replays, ofPolled]
    refine h.replay.snoc (ofPolled resp) ?_ ?_ <;> rw [hnot] <;> rfl

end Session

namespace Tracer

/-- The replies that were applied to the session of each target since its start or its reset. -/
def noteApplied (applied : IpAddr → List AppliedReply) (s : Tracer) :
    Action → IpAddr → List AppliedReply
  | .apply b =>
    match (s.receivers b).batch with
    | resp :: _ => Function.update applied resp.target (applied resp.target ++ [ofBatched resp])
    | [] => applied
  | .pollApply t =>
    match (s.engines t).pc with
    | .polled resp => Function.update applied t (applied t ++ [ofPolled resp])
    | _ => applied
  | .reset t => Function.update applied t []
  | _ => applied

section

variable {env : Env} {s s' : Tracer} {a : Action} {t : IpAddr} {applied : IpAddr → List AppliedReply}

/-- An apply of a receiver is that of the first response of its batch. -/
theorem Step.apply_inv {b : Bool} (h : Step env s (.apply b) s') :
    ∃ resp batch, (s.receivers b).batch = resp :: batch ∧
      s'.sessions = KeyMap.modify s.sessions resp.target
        (Session.applyResponse (env.receiver b) s.now resp) := by
  cases h with
  | apply phase head => exact ⟨_, _, head, rfl⟩
  | move move => cases move
  | shift shift => cases shift

/-- An apply of the poll is that of the response that it holds. -/
theorem Step.pollApply_inv (h : Step env s (.pollApply t) s') :
    ∃ resp, (s.engines t).pc = .polled resp ∧
      s'.sessions = KeyMap.modify s.sessions t (Session.applyPolled t resp) := by
  cases h with
  | pollApply pc => exact ⟨_, pc, rfl⟩
  | move move => cases move
  | shift shift => cases shift

/-- A reset clears the statistics of its session. -/
theorem Step.reset_inv (h : Step env s (.reset t) s') :
    s'.sessions = KeyMap.modify s.sessions t (·.resetStats s.now) := by
  cases h with
  | reset => rfl
  | move move => cases move
  | shift shift => cases shift

/-- The updates that apply no reply and do not reset. -/
theorem Update.traced {f : Session → Session} {x : Session} {l : List AppliedReply}
    (hu : Update env s a t f) (h : x.Traced l) (happly : ∀ b, a ≠ .apply b) (hpoll : a ≠ .pollApply t)
    (hreset : a ≠ .reset t) : (f x).Traced l := by
  cases hu with
  | applied phase head => exact absurd rfl (happly _)
  | polled pc => exact absurd rfl hpoll
  | reset => exact absurd rfl hreset
  | sent | pmtudSent | clamp | pause => exact h.congr rfl rfl rfl rfl rfl (Or.inl rfl)
  | pmtudCheck =>
    obtain ⟨pmtud, he, -⟩ := Session.checkPmtudReady_eq (env.config t) x
    dsimp only
    rw [he]
    exact h.congr rfl rfl rfl rfl rfl (Or.inl rfl)
  | late => exact h.congr rfl rfl rfl rfl rfl (Or.inr ⟨_, rfl, rfl⟩)
  | @timedOut b key probe timed_out flush phase =>
    rw [Session.recordPendingTimeout_eq]
    refine h.congr rfl rfl rfl rfl rfl ?_
    dsimp only
    split_ifs
    · exact Or.inr ⟨_, rfl, rfl⟩
    · exact Or.inl rfl

/-- A step keeps the history of the applied replies right. -/
theorem traced_step (hs : Sound env s) (hstep : Step env s a s')
    (h : ∀ t x, s.sessions.lookup t = some x → x.Traced (applied t)) :
    ∀ t x, s'.sessions.lookup t = some x → x.Traced (noteApplied applied s a t) := by
  intro t x' hx'
  by_cases happly : ∃ b, a = .apply b
  · obtain ⟨b, rfl⟩ := happly
    obtain ⟨resp, batch, head, hsessions⟩ := hstep.apply_inv
    rw [hsessions, KeyMap.lookup_modify] at hx'
    simp only [noteApplied, head]
    split_ifs at hx' with ht
    · subst ht
      obtain ⟨x, hx, rfl⟩ := Option.map_eq_some_iff.mp hx'
      have hbelongs := hs.sessions _ x hx
      obtain ⟨-, hne, hle⟩ := hs.batch b resp (by rw [head]; exact List.mem_cons_self)
      rw [Function.update_self]
      have htarget := hbelongs.target
      rw [← htarget] at hbelongs
      exact (h _ x hx).applyResponse hbelongs htarget.symm hne (htarget ▸ hle) _ _
    · rw [Function.update_of_ne ht]
      exact h t x' hx'
  by_cases hpoll : ∃ t', a = .pollApply t'
  · obtain ⟨t', rfl⟩ := hpoll
    obtain ⟨resp, pc, hsessions⟩ := hstep.pollApply_inv
    rw [hsessions, KeyMap.lookup_modify] at hx'
    simp only [noteApplied, pc]
    split_ifs at hx' with ht
    · subst ht
      obtain ⟨x, hx, rfl⟩ := Option.map_eq_some_iff.mp hx'
      rw [Function.update_self]
      have hpolled := (h t x hx).applyPolled resp
      rwa [(hs.sessions t x hx).target] at hpolled
    · rw [Function.update_of_ne ht]
      exact h t x' hx'
  by_cases hreset : ∃ t', a = .reset t'
  · obtain ⟨t', rfl⟩ := hreset
    rw [hstep.reset_inv, KeyMap.lookup_modify] at hx'
    simp only [noteApplied]
    split_ifs at hx' with ht
    · subst ht
      obtain ⟨x, hx, rfl⟩ := Option.map_eq_some_iff.mp hx'
      rw [Function.update_self]
      exact ⟨⟨rfl, rfl⟩, ⟨rfl, rfl⟩⟩
    · rw [Function.update_of_ne ht]
      exact h t x' hx'
  -- The other actions apply no reply.
  have hsame : noteApplied applied s a = applied := by
    cases a with
    | apply b => exact absurd ⟨b, rfl⟩ happly
    | pollApply t' => exact absurd ⟨t', rfl⟩ hpoll
    | reset t' => exact absurd ⟨t', rfl⟩ hreset
    | _ => rfl
  rw [hsame]
  obtain ⟨x, hx, rfl | ⟨f, hu, rfl⟩⟩ := hstep.lookup_session hx'
  · exact h t x' hx
  · exact hu.traced (h t x hx) (fun b hb => happly ⟨b, hb⟩) (fun hp => hpoll ⟨t, hp⟩)
      fun hr => hreset ⟨t, hr⟩

/-- The live session and its replay have found the destination by the replies that reached it. -/
structure Detects (x : Session) (applied : List AppliedReply) : Prop where
  complete : x.complete = true ↔ ∃ r ∈ applied, r.reaches x.target = true
  dest_ttl : x.dest_ttl = (ttlsOf (reaches x.target) applied).min?
  replay : x.replay.complete = x.complete ∧ x.replay.dest_ttl = x.dest_ttl

/-- No reply that reached the target, or that a replay takes for one, came at a smaller TTL than every
Echo Reply, and no Echo Reply at a smaller one than every recorded reply. -/
structure Echoed (t : IpAddr) (applied : List AppliedReply) : Prop where
  reached : ∀ r ∈ applied, r.reaches t = true → ∃ e ∈ applied, e.echoes t = true ∧ e.ttl ≤ r.ttl
  replayed : ∀ r ∈ applied, r.replays t = true → ∃ e ∈ applied, e.echoes t = true ∧ e.ttl ≤ r.ttl
  recorded : ∀ e ∈ applied, e.echoes t = true → ∃ r ∈ applied, r.replays t = true ∧ r.ttl ≤ e.ttl

/-- An Echo Reply of the target reached it. -/
theorem reaches_of_echoes {r : AppliedReply} (h : r.echoes t = true) : r.reaches t = true := by
  simp only [echoes, decide_eq_true_eq] at h
  simp [reaches, h.1, h.2]

/-- Two sets of replies have one smallest TTL when each has a reply up to every reply of the other. -/
theorem min_ttlsOf_eq_iff {p q : AppliedReply → Bool} {l : List AppliedReply} :
    (ttlsOf p l).min? = (ttlsOf q l).min? ↔
      (∀ r ∈ l, p r = true → ∃ e ∈ l, q e = true ∧ e.ttl ≤ r.ttl) ∧
        ∀ e ∈ l, q e = true → ∃ r ∈ l, p r = true ∧ r.ttl ≤ e.ttl := by
  have hiff : ∀ p q : AppliedReply → Bool,
      (∀ u ∈ ttlsOf p l, ∃ v ∈ ttlsOf q l, v ≤ u) ↔
        ∀ r ∈ l, p r = true → ∃ e ∈ l, q e = true ∧ e.ttl ≤ r.ttl := by
    intro p q
    constructor
    · intro h r hr hp
      obtain ⟨v, hv, hle⟩ := h r.ttl (mem_ttlsOf.mpr ⟨r, hr, hp, rfl⟩)
      obtain ⟨e, he, hq, rfl⟩ := mem_ttlsOf.mp hv
      exact ⟨e, he, hq, hle⟩
    · intro h u hu
      obtain ⟨r, hr, hp, rfl⟩ := mem_ttlsOf.mp hu
      obtain ⟨e, he, hq, hle⟩ := h r hr hp
      exact ⟨e.ttl, mem_ttlsOf.mpr ⟨e, he, hq, rfl⟩, hle⟩
  rw [min?_eq_min?_iff, hiff, hiff]

/-- Whatever the protocol, and however replies are batched and ordered, the session and its replay find
the destination by the replies that reached it exactly when Echo Replies came as early as these, and as
early as what the replay sees. -/
theorem destination_detection {targets : List IpAddr} {now : ℕ} {as : List Action}
    (h : run (recorded noteApplied (Tracer.step env)) (init env targets now, fun _ => []) as =
      some (s, applied)) {x : Session} (hx : s.sessions.lookup t = some x) :
    Detects x (applied t) ↔ Echoed t (applied t) := by
  have hinv : Sound env s ∧ ∀ t x, s.sessions.lookup t = some x → x.Traced (applied t) := by
    refine run_induction
      (fun _ x => Sound env x.1 ∧ ∀ t y, x.1.sessions.lookup t = some y → y.Traced (x.2 t)) ?_ ?_ as
      (s, applied) h
    · refine ⟨sound_init targets now, fun t y hy => ?_⟩
      rw [lookup_init] at hy
      split_ifs at hy
      obtain rfl := Option.some.inj hy
      exact ⟨Session.marks_new _ _ _ _, Session.marks_new _ _ _ _⟩
    · rintro as x a x' - ⟨hs, htraced⟩ hstep
      obtain ⟨hstep, hnote⟩ := recorded_eq_some.mp hstep
      rw [hnote]
      exact ⟨hs.step (.of_step hstep), traced_step hs (.of_step hstep) htraced⟩
  obtain ⟨hs, htraced⟩ := hinv
  obtain ⟨⟨hcomplete, hdest⟩, hrcomplete, hrdest⟩ := htraced t x hx
  have htarget : x.target = t := (hs.sessions t x hx).target
  rw [htarget] at hcomplete hdest hrcomplete hrdest
  constructor
  · rintro ⟨-, hreaches, -, hreplay⟩
    rw [htarget, hdest] at hreaches
    rw [hrdest, hdest] at hreplay
    obtain ⟨-, hreached⟩ := min_ttlsOf_eq_iff.mp hreaches
    obtain ⟨hreplayed, hrecorded⟩ := min_ttlsOf_eq_iff.mp hreplay
    exact ⟨hreached, hreplayed, hrecorded⟩
  · rintro ⟨hreached, hreplayed, hrecorded⟩
    have hany : ∀ p q : AppliedReply → Bool, (∀ r ∈ applied t, p r = true → ∃ e ∈ applied t,
        q e = true ∧ e.ttl ≤ r.ttl) → (applied t).any p = true → (applied t).any q = true := by
      intro p q hpq hp
      obtain ⟨r, hr, hp⟩ := List.any_eq_true.mp hp
      obtain ⟨e, he, hq, -⟩ := hpq r hr hp
      exact List.any_eq_true.mpr ⟨e, he, hq⟩
    refine ⟨?_, ?_, ?_, ?_⟩
    · rw [htarget, hcomplete, ← List.any_eq_true]
      refine ⟨fun he => ?_, hany _ _ hreached⟩
      obtain ⟨e, he, hecho⟩ := List.any_eq_true.mp he
      exact List.any_eq_true.mpr ⟨e, he, reaches_of_echoes hecho⟩
    · rw [htarget, hdest]
      refine min_ttlsOf_eq_iff.mpr ⟨fun e he hecho => ?_, hreached⟩
      exact ⟨e, he, reaches_of_echoes hecho, UInt8.le_refl _⟩
    · rw [hrcomplete, hcomplete, Bool.eq_iff_iff]
      exact ⟨hany _ _ hreplayed, hany _ _ hrecorded⟩
    · rw [hrdest, hdest]
      exact min_ttlsOf_eq_iff.mpr ⟨hreplayed, hrecorded⟩

/-- The round of a probe that the target answers with `reply`. -/
def answeredBy (reply : ParsedResponse) : List Action :=
  roundOf sampleTarget ++ [.receive false reply none [sampleTarget], .drained false, .apply false]

/-- An Echo Reply of the target is what the session and its replay take for its answer. -/
theorem destination_detection_echo :
    ∃ s x, run (recorded noteApplied (Tracer.step (.icmp (some 1) 1 false)))
        (init (.icmp (some 1) 1 false) [sampleTarget] 0, fun _ => []) (answeredBy sampleReply) =
        some s ∧ s.1.sessions.lookup sampleTarget = some x ∧ Detects x (s.2 sampleTarget) := by
  obtain ⟨s, hs, hx, happlied⟩ : ∃ s,
      run (recorded noteApplied (Tracer.step (.icmp (some 1) 1 false)))
        (init (.icmp (some 1) 1 false) [sampleTarget] 0, fun _ => []) (answeredBy sampleReply) =
        some s ∧ (s.1.sessions.lookup sampleTarget).isSome = true ∧
        s.2 sampleTarget = [⟨1, sampleTarget, .EchoReply, true⟩] := exists_run _ (by decide)
  obtain ⟨x, hx⟩ := Option.isSome_iff_exists.mp hx
  refine ⟨s, x, hs, hx, (destination_detection hs hx).mpr ?_⟩
  rw [happlied]
  exact ⟨by decide, by decide, by decide⟩

/-- A UDP run with the default interval, timeout and source port. -/
def udpEnv : Env where
  base := ⟨some 1, 10^9, 1, 3 * 10^9, .Udp, 1, 50000, false, false⟩
  flows := fun _ => 1
  protocol := fun _ => .Udp

/-- A Port Unreachable from the target, which is its answer to the first UDP probe. -/
def portUnreachable : ParsedResponse :=
  ⟨sampleTarget, ⟨1, 0⟩, .DestUnreachable 3, false, none, none, some 50000, none, some 1,
    some sampleTarget⟩

/-- Arguments that are accepted, for a UDP probe that the target answers: the session is not complete,
and its replay is. -/
theorem destination_detection_fails_udp :
    (∀ host, { sampleArgs with protocol := ['u', 'd', 'p'] }.validate host = .ok ()) ∧
    { sampleArgs with protocol := ['u', 'd', 'p'] }.config .Udp 1 = udpEnv.base ∧
    ∃ s, run (recorded noteApplied (Tracer.step udpEnv))
        (init udpEnv [sampleTarget] 0, fun _ => []) (answeredBy portUnreachable) = some s ∧
      s.2 sampleTarget = [⟨1, sampleTarget, .DestUnreachable 3, true⟩] ∧
      (s.1.sessions.lookup sampleTarget).any (fun x => x.complete = false ∧ x.dest_ttl = none ∧
        x.replay.complete = true ∧ x.replay.dest_ttl = some 1) = true := by
  refine ⟨fun host => ?_, by decide +kernel, exists_run _ (by decide)⟩
  with_unfolding_all rfl

end

end Tracer

end Ttl
