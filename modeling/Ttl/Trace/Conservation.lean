import Ttl.Trace.Sound

/-!
# Probe conservation

Where every probe is. `Account` relates the counters of a hop to the history: the probes counted as
sent, and the one about to be, are those registered and not taken back; the responses counted and those
in transit to the counter are the entries that replies matched; the timeouts counted and in transit are
the entries that expired; and the registered probes are those that left the pending map in one of these
ways, or are still in it.

The account is kept by every step that does not overwrite a live key, reset a session, or fail to send
a probe whose entry is gone already (`Conserves`). `hop_conservation` reads the equation between a
hop's counters off it. `lifecycle` says that an entry leaves the pending map once for each time that it
is registered.
-/

namespace Ttl

open Runs

/-- The key of a normal probe of the target `t` at the TTL `k`. -/
def PendingKey.normalAt (t : IpAddr) (k : UInt8) (key : PendingKey) : Bool :=
  ! key.is_pmtud ∧ key.target = t ∧ key.probe_id.ttl = k

/-- A response to a normal probe of the target `t` at the TTL `k`. -/
def BatchedResponse.normalAt (t : IpAddr) (k : UInt8) (resp : BatchedResponse) : Bool :=
  resp.packet_size = none ∧ resp.target = t ∧ resp.probe_id.ttl = k

namespace Occurrence

/-- The key that an occurrence is about. -/
@[simp]
def key : Occurrence → PendingKey
  | registered key _ | unsent key | matched _ _ key _ | polled _ key _ | expired key _ _ _ => key

/-- The entry was registered. -/
@[simp]
def isRegistered : Occurrence → Bool
  | registered .. => true
  | _ => false

/-- The entry was taken back. -/
@[simp]
def isUnsent : Occurrence → Bool
  | unsent _ => true
  | _ => false

/-- The entry was matched by a reply. -/
@[simp]
def isAnswered : Occurrence → Bool
  | matched .. | polled .. => true
  | _ => false

/-- The entry was swept or flushed. -/
@[simp]
def isExpired : Occurrence → Bool
  | expired .. => true
  | _ => false

/-- What an occurrence does to whether `key` is pending, `none` when it cannot happen to it. -/
def live (key : PendingKey) (pending : Bool) (o : Occurrence) : Option Bool :=
  if o.key ≠ key then some pending
  else if o.isRegistered = pending then none
  else some o.isRegistered

end Occurrence

/-- The life of a key in a history: registered, then removed for one of the reasons, then registered
again, and so on. `none` when the history has it otherwise, and else whether the key is pending at the
end. -/
def lifecycle (key : PendingKey) (log : List Occurrence) : Option Bool :=
  log.foldlM (Occurrence.live key) false

/-- A normal probe at the TTL `k` is registered and not yet counted as sent. -/
@[simp]
def EnginePc.sendingAt (k : UInt8) : EnginePc → ℕ
  | .registered _ ttl _ => if ttl = k then 1 else 0
  | _ => 0

/-- An Echo Reply to a normal probe at the TTL `k` is matched by the poll and not yet counted. -/
@[simp]
def EnginePc.polledAt (k : UInt8) : EnginePc → ℕ
  | .polled resp => if resp.packet_size = none ∧ resp.probe_id.ttl = k then 1 else 0
  | _ => 0

namespace Tracer

/-- The tally of a target at a TTL. -/
def tally (s : Tracer) (t : IpAddr) (k : UInt8) : Tally :=
  ((s.sessions.lookup t).map (·.tally k)).getD .zero

/-- The sum over the receivers. -/
def overReceivers (s : Tracer) (f : Receiver → ℕ) : ℕ := f (s.receivers false) + f (s.receivers true)

/-- The normal probes of a target and TTL that are pending. -/
def pendingAt (s : Tracer) (t : IpAddr) (k : UInt8) : ℕ :=
  KeyMap.count s.pending fun key _ => key.normalAt t k

/-- The responses to normal probes of a target and TTL that are in a batch. -/
def batchAt (s : Tracer) (t : IpAddr) (k : UInt8) : ℕ :=
  s.overReceivers fun r => r.batch.countP (·.normalAt t k)

/-- The normal probes of a target and TTL that are removed as timed out and not yet counted. -/
def expiringAt (s : Tracer) (t : IpAddr) (k : UInt8) : ℕ :=
  s.overReceivers fun r => r.timedOut.countP fun e => e.1.normalAt t k

/-- The normal probe of a target and TTL that is registered and not yet counted as sent. -/
def sendingAt (s : Tracer) (t : IpAddr) (k : UInt8) : ℕ := (s.engines t).pc.sendingAt k

/-- The polled response to a normal probe of a target and TTL that is not yet counted. -/
def polledAt (s : Tracer) (t : IpAddr) (k : UInt8) : ℕ := (s.engines t).pc.polledAt k

/-- The occurrences of a kind in the history, for normal probes of a target and TTL. -/
def logged (s : Tracer) (t : IpAddr) (k : UInt8) (kind : Occurrence → Bool) : ℕ :=
  s.log.countP fun o => kind o && o.key.normalAt t k

/-- What a step must not do for the counters to stay in balance: overwrite a live key, reset a session,
or fail to send a normal probe whose entry has been removed since its registration. -/
def Conserves (s : Tracer) : Action → Prop
  | .register t =>
    match (s.engines t).pc with
    | .probing ((flow_id, ttl) :: _) => s.normalKey t flow_id ttl ∉ s.pending
    | _ => True
  | .pmtudRegister t =>
    match (s.engines t).pc with
    | .pmtudSized dest_ttl _ => s.pmtudKey t dest_ttl ∉ s.pending
    | _ => True
  | .sendErr t =>
    match (s.engines t).pc with
    | .registered flow_id ttl _ => s.normalKey t flow_id ttl ∈ s.pending
    | _ => True
  | .reset _ => False
  | _ => True

instance (s : Tracer) : DecidablePred s.Conserves := fun a => by
  apply @Action.casesOn (fun a => Decidable (s.Conserves a)) a <;> intros <;>
    dsimp only [Conserves] <;> first | infer_instance | (split <;> infer_instance)

/-- What a step registers is not pending. -/
def Fresh (env : Env) (s : Tracer) (a : Action) : Prop :=
  ∀ key probe, Registers env s a key probe → key ∉ s.pending

/-- The counters of a target at a TTL against the history. -/
structure Account (s : Tracer) (t : IpAddr) (k : UInt8) : Prop where
  /-- Sent or about to be: registered and not taken back. -/
  sent : (s.tally t k).sent + s.sendingAt t k + s.logged t k Occurrence.isUnsent =
    s.logged t k Occurrence.isRegistered
  /-- Counted as received or about to be: matched. -/
  received : (s.tally t k).received + s.batchAt t k + s.polledAt t k =
    s.logged t k Occurrence.isAnswered
  /-- Counted as timed out or about to be: expired. -/
  timeouts : (s.tally t k).timeouts + s.expiringAt t k = s.logged t k Occurrence.isExpired
  /-- Registered: removed for one of the reasons, or pending. -/
  registered : s.logged t k Occurrence.isAnswered + s.logged t k Occurrence.isExpired +
    s.logged t k Occurrence.isUnsent + s.pendingAt t k = s.logged t k Occurrence.isRegistered

section

variable {env : Env} {s s' : Tracer} {a : Action} {t : IpAddr} {k : UInt8}

/-! ## How the parts of the account change -/

/-- A place of an engine changes only what that engine is sending and holding. -/
@[simp]
theorem account_setPc (t' : IpAddr) (pc : EnginePc) :
    (s.setPc t' pc).tally t k = s.tally t k ∧ (s.setPc t' pc).batchAt t k = s.batchAt t k ∧
      (s.setPc t' pc).expiringAt t k = s.expiringAt t k ∧
      (s.setPc t' pc).pendingAt t k = s.pendingAt t k ∧
      ∀ kind, (s.setPc t' pc).logged t k kind = s.logged t k kind :=
  ⟨rfl, rfl, rfl, rfl, fun _ => rfl⟩

/-- A receiver changes only its batch and what it has found expired. -/
@[simp]
theorem account_setReceiver (b : Bool) (r : Receiver) :
    (s.setReceiver b r).tally t k = s.tally t k ∧
      (s.setReceiver b r).sendingAt t k = s.sendingAt t k ∧
      (s.setReceiver b r).polledAt t k = s.polledAt t k ∧
      (s.setReceiver b r).pendingAt t k = s.pendingAt t k ∧
      ∀ kind, (s.setReceiver b r).logged t k kind = s.logged t k kind :=
  ⟨rfl, rfl, rfl, rfl, fun _ => rfl⟩

/-- The pending map changes only what is pending, with what is logged of it. -/
@[simp]
theorem account_setPending (pending : PendingMap) (os : List Occurrence) :
    (s.setPending pending os).tally t k = s.tally t k ∧
      (s.setPending pending os).sendingAt t k = s.sendingAt t k ∧
      (s.setPending pending os).polledAt t k = s.polledAt t k ∧
      (s.setPending pending os).batchAt t k = s.batchAt t k ∧
      (s.setPending pending os).expiringAt t k = s.expiringAt t k :=
  ⟨rfl, rfl, rfl, rfl, rfl⟩

/-- A session changes only its tallies. -/
@[simp]
theorem account_onSession (t' : IpAddr) (f : Session → Session) :
    (s.onSession t' f).sendingAt t k = s.sendingAt t k ∧
      (s.onSession t' f).polledAt t k = s.polledAt t k ∧
      (s.onSession t' f).batchAt t k = s.batchAt t k ∧
      (s.onSession t' f).expiringAt t k = s.expiringAt t k ∧
      (s.onSession t' f).pendingAt t k = s.pendingAt t k ∧
      ∀ kind, (s.onSession t' f).logged t k kind = s.logged t k kind :=
  ⟨rfl, rfl, rfl, rfl, rfl, fun _ => rfl⟩

/-- What an engine is sending, after it has moved. -/
@[simp]
theorem sendingAt_setPc (t' : IpAddr) (pc : EnginePc) :
    (s.setPc t' pc).sendingAt t k = if t = t' then pc.sendingAt k else s.sendingAt t k := by
  unfold sendingAt
  rw [pc_setPc]
  split_ifs <;> rfl

/-- What an engine has polled, after it has moved. -/
@[simp]
theorem polledAt_setPc (t' : IpAddr) (pc : EnginePc) :
    (s.setPc t' pc).polledAt t k = if t = t' then pc.polledAt k else s.polledAt t k := by
  unfold polledAt
  rw [pc_setPc]
  split_ifs <;> rfl

/-- A sum over the receivers, after one of them has changed. -/
theorem overReceivers_setReceiver (b : Bool) (r : Receiver) (f : Receiver → ℕ) :
    (s.setReceiver b r).overReceivers f + f (s.receivers b) = s.overReceivers f + f r := by
  unfold overReceivers
  cases b <;> simp <;> omega

/-- What is logged is added to the counts of the log. -/
@[simp]
theorem logged_setPending (kind : Occurrence → Bool) (pending : PendingMap) (os : List Occurrence) :
    (s.setPending pending os).logged t k kind =
      s.logged t k kind + os.countP fun o => kind o && o.key.normalAt t k := by
  simp [logged, List.countP_append]

/-- An update of a session, as an update of the tally. -/
theorem tally_onSession {t' : IpAddr} {f : Session → Session} {g : Tally → Tally} {p : Prop}
    [Decidable p] (hmem : t' ∈ s.sessions)
    (hf : ∀ x, s.sessions.lookup t' = some x →
      (f x).tally k = if p then g (x.tally k) else x.tally k) :
    (s.onSession t' f).tally t k = if t = t' ∧ p then g (s.tally t k) else s.tally t k := by
  obtain ⟨x, hx⟩ := Option.isSome_iff_exists.mp (AList.lookup_isSome.mpr hmem)
  unfold tally
  rw [onSession_sessions, KeyMap.lookup_modify]
  by_cases ht : t = t'
  · subst ht
    simp only [if_true, hx, Option.map_some, Option.getD_some, hf x hx, true_and]
  · simp [ht]

/-- An update of a session that leaves its tallies alone. -/
theorem tally_onSession_of_eq {t' : IpAddr} {f : Session → Session}
    (hf : ∀ x, (f x).tally k = x.tally k) : (s.onSession t' f).tally t k = s.tally t k := by
  unfold tally
  rw [onSession_sessions, KeyMap.lookup_modify]
  split_ifs with ht
  · subst ht
    cases s.sessions.lookup t <;> simp [hf]
  · rfl

/-- The account depends on its parts only. -/
theorem Account.congr (h : Account s t k) (tally : s'.tally t k = s.tally t k)
    (sending : s'.sendingAt t k = s.sendingAt t k) (polled : s'.polledAt t k = s.polledAt t k)
    (batch : s'.batchAt t k = s.batchAt t k) (expiring : s'.expiringAt t k = s.expiringAt t k)
    (pending : s'.pendingAt t k = s.pendingAt t k) (log : s'.log = s.log) : Account s' t k := by
  obtain ⟨h1, h2, h3, h4⟩ := h
  unfold logged at h1 h2 h3 h4
  constructor <;> unfold logged <;> rw [log]
  · rw [tally, sending, h1]
  · rw [tally, batch, polled, h2]
  · rw [tally, expiring, h3]
  · rw [pending, h4]

/-- An engine that moves between places where it holds no normal probe. -/
theorem Account.of_engine (h : Account s t k) (t' : IpAddr)
    (tally : s'.tally t k = s.tally t k) (receivers : s'.receivers = s.receivers)
    (pending : s'.pending = s.pending) (log : s'.log = s.log)
    (others : ∀ u, u ≠ t' → (s'.engines u).pc = (s.engines u).pc)
    (before : (s.engines t').pc.sendingAt k = 0 ∧ (s.engines t').pc.polledAt k = 0)
    (after : (s'.engines t').pc.sendingAt k = 0 ∧ (s'.engines t').pc.polledAt k = 0) :
    Account s' t k := by
  have hpc : s'.sendingAt t k = s.sendingAt t k ∧ s'.polledAt t k = s.polledAt t k := by
    unfold sendingAt polledAt
    by_cases ht : t = t'
    · subst ht
      rw [before.1, before.2, after.1, after.2]
      exact ⟨rfl, rfl⟩
    · rw [others t ht]
      exact ⟨rfl, rfl⟩
  refine h.congr tally hpc.1 hpc.2 ?_ ?_ ?_ log
  · unfold batchAt overReceivers
    rw [receivers]
  · unfold expiringAt overReceivers
    rw [receivers]
  · unfold pendingAt
    rw [pending]

/-- A receiver that moves between places where it holds the same responses and no expired probe. -/
theorem Account.of_receiver {b : Bool} {phase : ReceiverPhase} (h : Account s t k)
    (before : (s.receivers b).timedOut = [])
    (after : Receiver.timedOut ⟨phase, (s.receivers b).batch⟩ = []) :
    Account (s.setReceiver b ⟨phase, (s.receivers b).batch⟩) t k := by
  refine h.congr rfl rfl rfl ?_ ?_ rfl rfl
  · exact Nat.add_right_cancel (overReceivers_setReceiver b _ _)
  · have hsum := @overReceivers_setReceiver s b ⟨phase, (s.receivers b).batch⟩
      fun r => r.timedOut.countP fun e => e.1.normalAt t k
    rw [before, after] at hsum
    exact Nat.add_right_cancel hsum

/-- A normal probe is one of its target and TTL. -/
@[simp]
theorem normalAt_normalKey {t' : IpAddr} {flow_id ttl : UInt8} :
    (s.normalKey t' flow_id ttl).normalAt t k = decide (t = t' ∧ ttl = k) := by
  simp [normalKey, PendingKey.normalAt, eq_comm]

/-- A path MTU probe is no normal one. -/
@[simp]
theorem normalAt_pmtudKey {t' : IpAddr} {dest_ttl : UInt8} :
    (s.pmtudKey t' dest_ttl).normalAt t k = false := by
  simp [pmtudKey, PendingKey.normalAt]

/-! ## What the updates of a session count -/

/-- A probe that is counted as sent, at a TTL of the round, which has a hop. -/
theorem tally_recordProbeSent {t' : IpAddr} {flow_id ttl : UInt8} {todo : List (UInt8 × UInt8)}
    (hs : Sound env s) (pc : (s.engines t').pc = .registered flow_id ttl todo) :
    (s.onSession t' (Session.recordProbeSent flow_id ttl)).tally t k =
      if t = t' ∧ k = ttl then (s.tally t k).addSent else s.tally t k := by
  have hc : s.Covers env t' ttl := hs.todo t' ttl (by rw [pc]; exact List.mem_cons_self)
  exact tally_onSession hc.1 fun x hx =>
    Session.tally_recordProbeSent ((hs.sessions t' x hx).isSome_hop hc.2.1 hc.2.2) k

/-- A polled response that is counted. -/
theorem tally_applyPolled {t' : IpAddr} {resp : PolledResponse} (hs : Sound env s)
    (pc : (s.engines t').pc = .polled resp) :
    (s.onSession t' (Session.applyPolled t' resp)).tally t k =
      if t = t' ∧ resp.packet_size = none ∧ k = resp.probe_id.ttl then
        (s.tally t k).addResponse resp.responder resp.rtt
      else s.tally t k := by
  have hc := hs.polled t' resp pc
  exact tally_onSession (g := fun tally => tally.addResponse resp.responder resp.rtt) hc.1 fun x hx =>
    Session.tally_applyPolled ((hs.sessions t' x hx).isSome_hop hc.2.1 hc.2.2) k

/-- A response that is counted. -/
theorem tally_applyResponse {b : Bool} {resp : BatchedResponse} {batch : List BatchedResponse}
    (hs : Sound env s) (head : (s.receivers b).batch = resp :: batch) :
    (s.onSession resp.target (Session.applyResponse (env.receiver b) s.now resp)).tally t k =
      if t = resp.target ∧ resp.packet_size = none ∧ k = resp.probe_id.ttl then
        (s.tally t k).addResponse resp.responder resp.rtt
      else s.tally t k := by
  have hc := hs.batch b resp (by rw [head]; exact List.mem_cons_self)
  exact tally_onSession (g := fun tally => tally.addResponse resp.responder resp.rtt) hc.1 fun x hx =>
    Session.tally_applyResponse ((hs.sessions _ x hx).isSome_hop hc.2.1 hc.2.2) k

/-- A probe that is counted as timed out. -/
theorem tally_recordPendingTimeout {b flush : Bool} {key : PendingKey} {probe : PendingProbe}
    {timed_out : List (PendingKey × PendingProbe)} (hs : Sound env s)
    (phase : (s.receivers b).phase = .recording ((key, probe) :: timed_out) flush) :
    (s.onSession key.target
        (Session.recordPendingTimeout s.now (! flush) (! flush) key probe)).tally t k =
      if t = key.target ∧ key.is_pmtud = false ∧ k = key.probe_id.ttl then (s.tally t k).addTimeout
      else s.tally t k := by
  have hc := (hs.timedOut b (key, probe) (by simp [Receiver.timedOut, phase])).2
  exact tally_onSession hc.1 fun x hx =>
    Session.tally_recordPendingTimeout ((hs.sessions _ x hx).isSome_hop hc.2.1 hc.2.2) k

/-! ## The steps that move a probe -/

/-- What the account sees of an engine at a known place. -/
theorem sendingAt_of_pc {t' : IpAddr} {pc : EnginePc} (h : (s.engines t').pc = pc) :
    t = t' → s.sendingAt t k = pc.sendingAt k ∧ s.polledAt t k = pc.polledAt k := by
  rintro rfl
  unfold sendingAt polledAt
  rw [h]
  exact ⟨rfl, rfl⟩

/-- One more pending entry. -/
theorem pendingAt_insert {key : PendingKey} (probe : PendingProbe) (os : List Occurrence)
    (h : key ∉ s.pending) :
    (s.setPending (s.pending.insert key probe) os).pendingAt t k =
      s.pendingAt t k + if key.normalAt t k then 1 else 0 :=
  KeyMap.count_insert probe _ h

/-- One pending entry less. -/
theorem pendingAt_erase {key : PendingKey} (os : List Occurrence) (h : key ∈ s.pending) :
    (s.setPending (s.pending.erase key) os).pendingAt t k + (if key.normalAt t k then 1 else 0) =
      s.pendingAt t k := by
  obtain ⟨probe, hl⟩ := Option.isSome_iff_exists.mp (AList.lookup_isSome.mpr h)
  exact KeyMap.count_erase (fun key _ => key.normalAt t k) hl

/-- A registration keeps the account: the probe is pending, and being sent. -/
theorem Account.register {t' : IpAddr} {flow_id ttl : UInt8} {todo : List (UInt8 × UInt8)}
    (h : Account s t k) (pc : (s.engines t').pc = .probing ((flow_id, ttl) :: todo))
    (fresh : s.normalKey t' flow_id ttl ∉ s.pending) (probe : PendingProbe) :
    Account ((s.setPending (s.pending.insert (s.normalKey t' flow_id ttl) probe)
      [.registered (s.normalKey t' flow_id ttl) probe]).setPc t' (.registered flow_id ttl todo)) t k := by
  obtain ⟨h1, h2, h3, h4⟩ := h
  have hpc := @sendingAt_of_pc s t k _ _ pc
  constructor <;> simp [pendingAt_insert probe _ fresh] <;>
    by_cases ht : t = t' <;> simp [ht] at * <;> omega

/-- A send that fails keeps the account: the probe is no longer pending. -/
theorem Account.sendErr {t' : IpAddr} {flow_id ttl : UInt8} {todo : List (UInt8 × UInt8)}
    (h : Account s t k) (pc : (s.engines t').pc = .registered flow_id ttl todo)
    (found : s.normalKey t' flow_id ttl ∈ s.pending) :
    Account ((s.setPending (s.pending.erase (s.normalKey t' flow_id ttl))
      [.unsent (s.normalKey t' flow_id ttl)]).setPc t' (.probing todo)) t k := by
  obtain ⟨h1, h2, h3, h4⟩ := h
  have hpc := @sendingAt_of_pc s t k _ _ pc
  have hpend := @pendingAt_erase s t k _ [.unsent (s.normalKey t' flow_id ttl)] found
  -- The probe leaves the map and the engine, and is logged as unsent.
  constructor <;> simp <;> by_cases ht : t = t' <;> simp [ht] at * <;> omega

/-- A send keeps the account: the probe is counted as sent. -/
theorem Account.sendOk {t' : IpAddr} {flow_id ttl : UInt8} {todo : List (UInt8 × UInt8)}
    (h : Account s t k) (hs : Sound env s) (pc : (s.engines t').pc = .registered flow_id ttl todo) :
    Account ((s.onSession t' (Session.recordProbeSent flow_id ttl)).setPc t' (.probing todo)) t k := by
  obtain ⟨h1, h2, h3, h4⟩ := h
  have hpc := @sendingAt_of_pc s t k _ _ pc
  have htally := @tally_recordProbeSent env s t k t' flow_id ttl todo hs pc
  rcases eq_or_ne k ttl with rfl | hk
  · constructor <;> simp [htally] <;> by_cases ht : t = t' <;>
      simp [ht, Tally.addSent] at * <;> omega
  · constructor <;> simp [htally, hk] <;> by_cases ht : t = t' <;> simp [ht, hk.symm] at * <;> omega

/-- A PMTUD probe that is registered is none of the account's. -/
theorem Account.pmtudRegister {t' : IpAddr} {dest_ttl : UInt8} {size : ℕ}
    (h : Account s t k) (pc : (s.engines t').pc = .pmtudSized dest_ttl size)
    (fresh : s.pmtudKey t' dest_ttl ∉ s.pending) (probe : PendingProbe) :
    Account ((s.setPending (s.pending.insert (s.pmtudKey t' dest_ttl) probe)
      [.registered (s.pmtudKey t' dest_ttl) probe]).setPc t' (.pmtudRegistered dest_ttl size)) t k := by
  obtain ⟨h1, h2, h3, h4⟩ := h
  have hpc := @sendingAt_of_pc s t k _ _ pc
  constructor <;> simp [pendingAt_insert probe _ fresh] <;>
    by_cases ht : t = t' <;> simp [ht] at * <;> omega

/-- Nor is one that is taken back. -/
theorem Account.pmtudSendErr {t' : IpAddr} {dest_ttl : UInt8} {size : ℕ} {emsgsize : Bool}
    (h : Account s t k) (pc : (s.engines t').pc = .pmtudRegistered dest_ttl size) :
    Account ((s.setPending (s.pending.erase (s.pmtudKey t' dest_ttl))
      (if s.pmtudKey t' dest_ttl ∈ s.pending then [.unsent (s.pmtudKey t' dest_ttl)] else [])).setPc t'
        (if emsgsize then .pmtudTooBig size else .polling)) t k := by
  obtain ⟨h1, h2, h3, h4⟩ := h
  have hpc := @sendingAt_of_pc s t k _ _ pc
  have hpend : ∀ os, (s.setPending (s.pending.erase (s.pmtudKey t' dest_ttl)) os).pendingAt t k =
      s.pendingAt t k := by
    -- The key of a PMTUD probe is not counted, whether it was there or not.
    intro os
    by_cases hm : s.pmtudKey t' dest_ttl ∈ s.pending
    · simpa using pendingAt_erase os hm
    · exact KeyMap.count_erase_of_notMem _ hm
  by_cases hm : s.pmtudKey t' dest_ttl ∈ s.pending <;> cases emsgsize <;> constructor <;>
    simp [hpend, hm] <;> by_cases ht : t = t' <;> simp [ht] at * <;> omega

/-- What a match takes out of the pending map, in terms of the probe. -/
theorem normalAt_of_agrees {key : PendingKey} {probe : PendingProbe} (h : key.Agrees probe) :
    key.normalAt t k = decide (probe.packet_size = none ∧ t = probe.target ∧ key.probe_id.ttl = k) := by
  obtain ⟨htarget, -, hclass⟩ := h
  unfold PendingKey.normalAt
  rw [hclass, htarget]
  cases probe.packet_size <;> simp [eq_comm]

/-- A match of the poll keeps the account: the probe is no longer pending, and its response held. -/
theorem Account.poll {t' : IpAddr} {parsed : ParsedResponse} {response_ttl : Option UInt8}
    {key : PendingKey} {probe : PendingProbe} (h : Account s t k) (hs : Sound env s)
    (pc : (s.engines t').pc = .polling) (found : pollMatch s.pending t' parsed = some key)
    (entry : s.pending.lookup key = some probe) :
    Account ((s.setPending (s.pending.erase key) [.polled parsed key probe]).setPc t'
      (.polled (pollResponse parsed response_ttl probe s.now))) t k := by
  obtain ⟨h1, h2, h3, h4⟩ := h
  obtain ⟨hmem, hkey, -⟩ := pollMatch_spec found
  have hpc := @sendingAt_of_pc s t k _ _ pc
  have hpend := @pendingAt_erase s t k _ [.polled parsed key probe] hmem
  have hnormal := @normalAt_of_agrees t k key probe (hs.keyed key probe entry)
  -- The entry is one of the polling target's, and so is the response made of it.
  have htarget : probe.target = t' := by
    rw [(hs.keyed key probe entry).target, hkey]
  have hid : key.probe_id = parsed.probe_id := by rw [hkey]
  rw [htarget, hid] at hnormal
  rw [hnormal] at hpend
  constructor <;> simp [hnormal, pollResponse] <;> by_cases ht : t = t' <;>
    simp [ht] at * <;> omega

/-- The apply of the poll keeps the account: the response is counted as received. -/
theorem Account.pollApply {t' : IpAddr} {resp : PolledResponse} (h : Account s t k)
    (hs : Sound env s) (pc : (s.engines t').pc = .polled resp) :
    Account ((s.onSession t' (Session.applyPolled t' resp)).setPc t' .polling) t k := by
  obtain ⟨h1, h2, h3, h4⟩ := h
  have hpc := @sendingAt_of_pc s t k _ _ pc
  have htally := @tally_applyPolled env s t k t' resp hs pc
  by_cases ht : t = t'
  · subst ht
    obtain ⟨hsend, hpolled⟩ := hpc rfl
    simp only [EnginePc.sendingAt, EnginePc.polledAt] at hsend hpolled
    -- The response is counted at its TTL when it is not that of a PMTUD probe.
    by_cases hk : resp.packet_size = none ∧ k = resp.probe_id.ttl
    · rw [if_pos ⟨rfl, hk⟩] at htally
      rw [if_pos ⟨hk.1, hk.2.symm⟩] at hpolled
      constructor <;> simp [htally, Tally.addResponse] <;> omega
    · rw [if_neg fun h => hk h.2] at htally
      rw [if_neg fun h => hk ⟨h.1, h.2.symm⟩] at hpolled
      constructor <;> simp [htally] <;> omega
  · rw [if_neg fun h => ht h.1] at htally
    constructor <;> simp [htally, ht] <;> omega

/-- How the batches and the expired probes change when a receiver moves. -/
theorem account_setReceiver_sums (b : Bool) (r : Receiver) :
    ((s.setReceiver b r).batchAt t k + (s.receivers b).batch.countP (·.normalAt t k) =
        s.batchAt t k + r.batch.countP (·.normalAt t k)) ∧
      ((s.setReceiver b r).expiringAt t k +
          (s.receivers b).timedOut.countP (fun e => e.1.normalAt t k) =
        s.expiringAt t k + r.timedOut.countP fun e => e.1.normalAt t k) :=
  ⟨overReceivers_setReceiver b r _, overReceivers_setReceiver b r _⟩

/-- A match of a receiver keeps the account: the probe is no longer pending, and its response in the batch. -/
theorem Account.receive {b : Bool} {parsed : ParsedResponse} {response_ttl : Option UInt8}
    {targets : List IpAddr} {key : PendingKey} {probe : PendingProbe} (h : Account s t k)
    (hs : Sound env s) (phase : (s.receivers b).phase = .draining)
    (found : matchReply (env.receiver b) s.pending targets parsed = some key)
    (entry : s.pending.lookup key = some probe) :
    Account ((s.setPending (s.pending.erase key) [.matched b parsed key probe]).setReceiver b
      ⟨.draining, (s.receivers b).batch ++ [batchResponse parsed response_ttl probe s.now]⟩) t k := by
  obtain ⟨h1, h2, h3, h4⟩ := h
  obtain ⟨hmem, hid⟩ := matchReply_spec found
  have hpend := @pendingAt_erase s t k _ [.matched b parsed key probe] hmem
  -- The entry that leaves the map and the response that enters the batch are of the same probe.
  have hnormal : (batchResponse parsed response_ttl probe s.now).normalAt t k = key.normalAt t k := by
    rw [normalAt_of_agrees (hs.keyed key probe entry), hid]
    simp [BatchedResponse.normalAt, batchResponse, eq_comm]
  obtain ⟨hbatch, hexp⟩ := @account_setReceiver_sums
    (s.setPending (s.pending.erase key) [.matched b parsed key probe]) t k b
    ⟨.draining, (s.receivers b).batch ++ [batchResponse parsed response_ttl probe s.now]⟩
  simp [List.countP_append, hnormal, Receiver.timedOut, phase] at hbatch hexp
  constructor <;> simp [*] <;> omega

/-- The apply of a receiver keeps the account: the response is counted as received. -/
theorem Account.apply {b : Bool} {resp : BatchedResponse} {batch : List BatchedResponse}
    (h : Account s t k) (hs : Sound env s) (phase : (s.receivers b).phase = .applying)
    (head : (s.receivers b).batch = resp :: batch) :
    Account ((s.onSession resp.target
      (Session.applyResponse (env.receiver b) s.now resp)).setReceiver b ⟨.applying, batch⟩) t k := by
  obtain ⟨h1, h2, h3, h4⟩ := h
  have htally := @tally_applyResponse env s t k b resp batch hs head
  obtain ⟨hbatch, hexp⟩ := @account_setReceiver_sums
    (s.onSession resp.target (Session.applyResponse (env.receiver b) s.now resp)) t k b
    ⟨.applying, batch⟩
  simp [head, Receiver.timedOut, phase, List.countP_cons] at hbatch hexp
  -- The response leaves the batch, and is counted at the hop of its TTL.
  have hnormal : resp.normalAt t k =
      decide (t = resp.target ∧ resp.packet_size = none ∧ k = resp.probe_id.ttl) := by
    simp only [BatchedResponse.normalAt, decide_eq_decide]
    tauto
  rw [hnormal] at hbatch
  by_cases hk : t = resp.target ∧ resp.packet_size = none ∧ k = resp.probe_id.ttl
  · rw [if_pos hk] at htally
    rw [if_pos (decide_eq_true hk)] at hbatch
    constructor <;> simp [htally, Tally.addResponse] <;> omega
  · rw [if_neg hk] at htally
    rw [if_neg fun h => hk (of_decide_eq_true h)] at hbatch
    constructor <;> simp [htally] <;> omega

/-- A recorded timeout keeps the account: the probe is counted as timed out. -/
theorem Account.recordTimeout {b flush : Bool} {key : PendingKey} {probe : PendingProbe}
    {timed_out : List (PendingKey × PendingProbe)} (h : Account s t k) (hs : Sound env s)
    (phase : (s.receivers b).phase = .recording ((key, probe) :: timed_out) flush) :
    Account ((s.onSession key.target
      (Session.recordPendingTimeout s.now (! flush) (! flush) key probe)).setReceiver b
        ⟨.recording timed_out flush, (s.receivers b).batch⟩) t k := by
  obtain ⟨h1, h2, h3, h4⟩ := h
  have htally := @tally_recordPendingTimeout env s t k b flush key probe timed_out hs phase
  obtain ⟨hbatch, hexp⟩ := @account_setReceiver_sums
    (s.onSession key.target (Session.recordPendingTimeout s.now (! flush) (! flush) key probe)) t k b
    ⟨.recording timed_out flush, (s.receivers b).batch⟩
  simp [Receiver.timedOut, phase, List.countP_cons] at hbatch hexp
  -- The probe leaves the expired ones, and is counted at the hop of its TTL.
  have hnormal : key.normalAt t k =
      decide (t = key.target ∧ key.is_pmtud = false ∧ k = key.probe_id.ttl) := by
    simp only [PendingKey.normalAt, decide_eq_decide, Bool.not_eq_true']
    tauto
  rw [hnormal] at hexp
  by_cases hk : t = key.target ∧ key.is_pmtud = false ∧ k = key.probe_id.ttl
  · rw [if_pos hk] at htally
    rw [if_pos (decide_eq_true hk)] at hexp
    constructor <;> simp [htally, Tally.addTimeout] <;> omega
  · rw [if_neg hk] at htally
    rw [if_neg fun h => hk (of_decide_eq_true h)] at hexp
    constructor <;> simp [htally] <;> omega

/-- The expiry keeps the account: the expired probes go from the pending map to the receiver. -/
theorem Account.expire {b flush : Bool} (h : Account s t k)
    (phase : (s.receivers b).phase = .cleanup flush) :
    Account ((s.setPending (surviving env s b flush)
      ((expiring env s b flush).map fun e => .expired e.1 e.2 flush s.now)).setReceiver b
        ⟨.recording (expiring env s b flush) flush, (s.receivers b).batch⟩) t k := by
  obtain ⟨h1, h2, h3, h4⟩ := h
  -- The retained entries and the removed ones make up the map.
  have hpend := KeyMap.count_retain_add s.pending (fun key _ => key.normalAt t k)
    fun _ probe => ! expires env s b flush probe
  have hcount : (expiring env s b flush).countP (fun e => e.1.normalAt t k) =
      (s.pending.entries.filter fun e => ! ! expires env s b flush e.2).countP
        fun e => e.1.normalAt t k := by
    simp [expiring, List.countP_map, Function.comp_def]
  obtain ⟨hbatch, hexp⟩ := @account_setReceiver_sums
    (s.setPending (surviving env s b flush)
      ((expiring env s b flush).map fun e => .expired e.1 e.2 flush s.now)) t k b
    ⟨.recording (expiring env s b flush) flush, (s.receivers b).batch⟩
  simp [Receiver.timedOut, phase] at hbatch hexp
  have hsurv : ∀ os, (s.setPending (surviving env s b flush) os).pendingAt t k +
      (expiring env s b flush).countP (fun e => e.1.normalAt t k) = s.pendingAt t k := by
    intro os
    rw [hcount]
    exact hpend
  have hsurv' := hsurv ((expiring env s b flush).map fun e => .expired e.1 e.2 flush s.now)
  constructor <;> simp [List.countP_map, Function.comp_def] <;> omega

/-- An engine that only moves holds no normal probe before or after. -/
theorem Move.quiet {t' : IpAddr} {pc : EnginePc} (h : Move env s t' a pc) :
    ((s.engines t').pc.sendingAt k = 0 ∧ (s.engines t').pc.polledAt k = 0) ∧
      pc.sendingAt k = 0 ∧ pc.polledAt k = 0 := by
  cases h with
  | counted pc | stop pc _ | beginRound pc _ | skip pc | noPmtud pc | sized pc _ _ | unsized pc
  | pmtudAbort pc => exact ⟨by rw [pc]; exact ⟨rfl, rfl⟩, rfl, rfl⟩

/-- A step that conserves probes keeps the account. -/
theorem Account.step (h : Account s t k) (hs : Sound env s) (hc : s.Conserves a)
    (hstep : Step env s a s') : Account s' t k := by
  -- An engine that moves, with an update of its session that leaves the tallies alone.
  have hsetPc : ∀ {s₁ : Tracer} {t' pc}, s₁.tally t k = s.tally t k → s₁.receivers = s.receivers →
      s₁.pending = s.pending → s₁.log = s.log → s₁.engines = s.engines →
      ((s.engines t').pc.sendingAt k = 0 ∧ (s.engines t').pc.polledAt k = 0) →
      (pc.sendingAt k = 0 ∧ pc.polledAt k = 0) → Account (s₁.setPc t' pc) t k := by
    intro s₁ t' pc htally hrec hpend hlog heng hbefore hafter
    refine h.of_engine t' htally hrec hpend hlog (fun u hu => ?_) hbefore ?_
    · rw [pc_setPc, if_neg hu, heng]
    · rw [pc_setPc, if_pos rfl]
      exact hafter
  cases hstep with
  | paused => exact h
  | pollMiss => exact h
  | move move => exact hsetPc rfl rfl rfl rfl rfl move.quiet.1 move.quiet.2
  | @finish t' _ _ pc entry running limit done =>
    have hstop : Account (s.setPc t' .stopped) t k :=
      hsetPc rfl rfl rfl rfl rfl (by rw [pc]; exact ⟨rfl, rfl⟩) ⟨rfl, rfl⟩
    exact hstop.congr rfl rfl rfl rfl rfl rfl rfl
  | register pc =>
    simp only [Conserves, pc] at hc
    exact h.register pc hc _
  | sendOk pc => exact h.sendOk hs pc
  | sendErr pc =>
    simp only [Conserves, pc] at hc
    rw [if_pos hc]
    exact h.sendErr pc hc
  | pmtudCheck pc entry =>
    refine hsetPc (tally_onSession_of_eq fun x => ?_) rfl rfl rfl rfl
      (by rw [pc]; exact ⟨rfl, rfl⟩) (by split <;> exact ⟨rfl, rfl⟩)
    rw [Session.tally, Session.hop_checkPmtudReady]
    rfl
  | pmtudRegister pc =>
    simp only [Conserves, pc] at hc
    exact h.pmtudRegister pc hc _
  | @pmtudSendOk t' _ _ pc =>
    refine h.of_engine t' (tally_onSession_of_eq fun x => rfl) rfl rfl rfl (fun u hu => ?_)
      (by rw [pc]; exact ⟨rfl, rfl⟩) ?_
    · simp only [Function.update_of_ne hu]
    · simp
  | pmtudSendErr pc => exact h.pmtudSendErr pc
  | pmtudClamp pc =>
    exact hsetPc (tally_onSession_of_eq fun x => rfl) rfl rfl rfl rfl
      (by rw [pc]; exact ⟨rfl, rfl⟩) ⟨rfl, rfl⟩
  | poll pc found entry => exact h.poll hs pc found entry
  | pollApply pc => exact h.pollApply hs pc
  | @endRound t' pc =>
    refine h.of_engine t' rfl rfl rfl rfl (fun u hu => ?_) (by rw [pc]; exact ⟨rfl, rfl⟩) ?_
    · simp only [finishRound_engines, Function.update_of_ne hu]
    · simp
  | receive phase perm found entry => exact h.receive hs phase found entry
  | @shift b _ phase shift =>
    -- The batch stays, and neither the old phase nor the new one holds an expired probe.
    cases shift with
    | missed phase _ _ | forgotten phase _ | drained phase | checkCancel phase _ | fail phase _ =>
      exact h.of_receiver (by rw [Receiver.timedOut, phase]) rfl
    | @recorded flush phase =>
      exact h.of_receiver (by rw [Receiver.timedOut, phase]) (by cases flush <;> rfl)
  | @recordLate b _ target phase dest =>
    have hlate : Account (s.setReceiver b ⟨.draining, (s.receivers b).batch⟩) t k :=
      h.of_receiver (by rw [Receiver.timedOut, phase]) rfl
    exact hlate.congr (tally_onSession_of_eq fun x => rfl) rfl rfl rfl rfl rfl rfl
  | apply phase head => exact h.apply hs phase head
  | expire phase => exact h.expire phase
  | recordTimeout phase => exact h.recordTimeout hs phase
  | reset => exact hc.elim
  | pause => exact h.congr (tally_onSession_of_eq fun x => rfl) rfl rfl rfl rfl rfl rfl
  | settle _ _ | settled _ _ | cancel | clock => exact h.congr rfl rfl rfl rfl rfl rfl rfl

/-! ## The life of a key -/

/-- Occurrences that remove keys from the map, each once and while it is there. -/
theorem live_removals {key : PendingKey} :
    ∀ {os : List Occurrence} {pending : Bool}, (∀ o ∈ os, o.isRegistered = false) →
      (os.map Occurrence.key).Nodup → (key ∈ os.map Occurrence.key → pending = true) →
      os.foldlM (Occurrence.live key) pending =
        some (pending && decide (key ∉ os.map Occurrence.key)) := by
  intro os
  induction os with
  | nil => intro pending _ _ _; simp
  | cons o os ih =>
    intro pending hrem hnodup hlive
    rw [List.map_cons, List.nodup_cons] at hnodup
    have hrem' : ∀ o ∈ os, o.isRegistered = false := fun x hx => hrem x (List.mem_cons_of_mem _ hx)
    have ho := hrem o List.mem_cons_self
    rw [List.foldlM_cons]
    by_cases hk : o.key = key
    · -- The key is removed here, and no later occurrence is about it.
      have hnot : key ∉ os.map Occurrence.key := hk ▸ hnodup.1
      have hp : pending = true := hlive (by rw [List.map_cons, hk]; exact List.mem_cons_self)
      simp only [Occurrence.live, hk, ho, hp, ne_eq, not_true_eq_false, if_false]
      rw [Option.bind_eq_bind]
      simp only [Bool.false_eq_true, if_false, Option.bind_some]
      rw [ih hrem' hnodup.2 fun h => absurd h hnot, List.map_cons, hk]
      simp
    · simp only [Occurrence.live, ne_eq, hk, not_false_eq_true, if_true]
      rw [Option.bind_eq_bind, Option.bind_some,
        ih hrem' hnodup.2 fun h => hlive (List.mem_cons_of_mem _ h), List.map_cons]
      simp only [List.mem_cons, Ne.symm hk, false_or]

/-- The history has every key pending exactly when it is. -/
def Alive (s : Tracer) (key : PendingKey) : Prop :=
  lifecycle key s.log = some (decide (key ∈ s.pending))

/-- A step that removes entries and says so in the log. -/
theorem Alive.remove {key : PendingKey} {pending : PendingMap} {os : List Occurrence}
    (h : s.Alive key) (hrem : ∀ o ∈ os, o.isRegistered = false)
    (hnodup : (os.map Occurrence.key).Nodup)
    (hmem : key ∈ os.map Occurrence.key → key ∈ s.pending)
    (hpend : key ∈ pending ↔ key ∈ s.pending ∧ key ∉ os.map Occurrence.key) :
    (s.setPending pending os).Alive key := by
  unfold Alive lifecycle at h ⊢
  rw [setPending_log, List.foldlM_append, h, Option.bind_eq_bind, Option.bind_some,
    live_removals hrem hnodup fun hk => decide_eq_true (hmem hk)]
  simp [hpend]

/-- One entry is removed. -/
theorem Alive.erase {key key' : PendingKey} {o : Occurrence} (h : s.Alive key)
    (ho : o.isRegistered = false) (hkey : o.key = key') (hmem : key' ∈ s.pending) :
    (s.setPending (s.pending.erase key') [o]).Alive key := by
  refine h.remove (by simpa using ho) (by simp) ?_ ?_
  · rw [List.map_singleton, hkey, List.mem_singleton]
    rintro rfl
    exact hmem
  · rw [AList.mem_erase, List.map_singleton, hkey, List.mem_singleton]
    exact and_comm

/-- A removal that finds nothing. -/
theorem Alive.erase_absent {key key' : PendingKey} (h : s.Alive key) (hmem : key' ∉ s.pending) :
    (s.setPending (s.pending.erase key') []).Alive key := by
  refine h.remove (by simp) (by simp) (by simp) ?_
  rw [AList.mem_erase]
  simp only [List.map_nil, List.not_mem_nil, not_false_eq_true, and_true, and_iff_right_iff_imp]
  rintro hk rfl
  exact hmem hk

/-- A fresh entry is registered. -/
theorem Alive.insert {key key' : PendingKey} {probe : PendingProbe} (h : s.Alive key)
    (fresh : key' ∉ s.pending) :
    (s.setPending (s.pending.insert key' probe) [.registered key' probe]).Alive key := by
  unfold Alive lifecycle at h ⊢
  rw [setPending_log, List.foldlM_append, h, Option.bind_eq_bind, Option.bind_some]
  -- A registration is possible for a key that is not pending.
  by_cases hk : key' = key
  · subst hk
    simp [Occurrence.live, fresh]
  · simp [Occurrence.live, hk, Ne.symm hk]

/-- The sweep and the flush. -/
theorem Alive.expire {key : PendingKey} (h : s.Alive key) (b flush : Bool) :
    (s.setPending (surviving env s b flush)
      ((expiring env s b flush).map fun e => .expired e.1 e.2 flush s.now)).Alive key := by
  have hkeys : ((expiring env s b flush).map fun e =>
      Occurrence.expired e.1 e.2 flush s.now).map Occurrence.key =
        (KeyMap.retain s.pending fun _ probe => expires env s b flush probe).keys := by
    simp [expiring, KeyMap.retain, AList.keys, List.keys, Function.comp_def]
  have hin : key ∈ (KeyMap.retain s.pending fun _ probe => expires env s b flush probe).keys ↔
      ∃ probe, s.pending.lookup key = some probe ∧ expires env s b flush probe = true := by
    rw [← AList.mem_keys, ← AList.lookup_isSome, Option.isSome_iff_exists]
    exact exists_congr fun probe => KeyMap.lookup_retain_eq_some
  have hout : key ∈ surviving env s b flush ↔
      ∃ probe, s.pending.lookup key = some probe ∧ expires env s b flush probe = false := by
    rw [← AList.lookup_isSome, Option.isSome_iff_exists]
    refine exists_congr fun probe => ?_
    rw [surviving, KeyMap.lookup_retain_eq_some, Bool.not_eq_true']
  refine h.remove (fun o ho => ?_) ?_ ?_ ?_
  · obtain ⟨e, -, rfl⟩ := List.mem_map.mp ho
    rfl
  · rw [hkeys]
    exact AList.keys_nodup _
  · rw [hkeys, hin]
    rintro ⟨probe, hl, -⟩
    exact AList.lookup_isSome.mp (by rw [hl]; rfl)
  · -- A key stays when its probe does not expire, and it has only one probe.
    rw [hkeys, hin, hout]
    constructor
    · rintro ⟨probe, hl, he⟩
      refine ⟨AList.lookup_isSome.mp (by rw [hl]; rfl), ?_⟩
      rintro ⟨probe', hl', he'⟩
      rw [hl] at hl'
      obtain rfl := Option.some.inj hl'
      rw [he] at he'
      cases he'
    · rintro ⟨hm, hno⟩
      obtain ⟨probe, hl⟩ := Option.isSome_iff_exists.mp (AList.lookup_isSome.mpr hm)
      exact ⟨probe, hl, Bool.eq_false_iff.mpr fun he => hno ⟨probe, hl, he⟩⟩

/-- A step that conserves probes overwrites no live key. -/
theorem Conserves.fresh (hc : s.Conserves a) : Fresh env s a := by
  intro key probe hr
  cases hr with
  | normal pc => simpa only [Conserves, pc] using hc
  | pmtud pc => simpa only [Conserves, pc] using hc

/-- A step that overwrites no live key keeps the history right about every key. -/
theorem Alive.step {key : PendingKey} (h : s.Alive key) (hf : Fresh env s a)
    (hstep : Step env s a s') : s'.Alive key := by
  cases hstep with
  | register pc => exact h.insert (hf _ _ (.normal pc))
  | pmtudRegister pc => exact h.insert (hf _ _ (.pmtud pc))
  | @sendErr t flow_id ttl _ pc =>
    by_cases hm : s.normalKey t flow_id ttl ∈ s.pending
    · rw [if_pos hm]
      exact h.erase rfl rfl hm
    · rw [if_neg hm]
      exact h.erase_absent hm
  | @pmtudSendErr t dest_ttl _ _ pc =>
    by_cases hm : s.pmtudKey t dest_ttl ∈ s.pending
    · rw [if_pos hm]
      exact h.erase rfl rfl hm
    · rw [if_neg hm]
      exact h.erase_absent hm
  | poll pc found entry => exact h.erase rfl rfl (pollMatch_spec found).1
  | receive phase perm found entry => exact h.erase rfl rfl (matchReply_spec found).1
  | expire phase => exact h.expire _ _
  | _ => exact h

/-- The account of the start of a run. -/
theorem account_init (targets : List IpAddr) (now : ℕ) : Account (init env targets now) t k := by
  have htally : (init env targets now).tally t k = .zero := by
    unfold tally
    rw [lookup_init]
    split_ifs
    · exact Session.tally_new _ _ _ _
    · rfl
  have hpc : (init env targets now).sendingAt t k = 0 ∧ (init env targets now).polledAt t k = 0 := by
    simp only [sendingAt, polledAt, init]
    split_ifs <;> exact ⟨rfl, rfl⟩
  have hbatch : (init env targets now).batchAt t k = 0 := rfl
  have hexp : (init env targets now).expiringAt t k = 0 := by
    simp only [expiringAt, overReceivers, init, Receiver.timedOut]
    split_ifs <;> rfl
  constructor
  · rw [htally, hpc.1]
    rfl
  · rw [htally, hpc.2, hbatch]
    rfl
  · rw [htally, hexp]
    rfl
  · rfl

/-- The accounts and the lives of the keys in a run that conserves probes. -/
theorem account_run {targets : List IpAddr} {now : ℕ} {as : List Action}
    (h : run (Tracer.step env) (init env targets now) as = some s)
    (hc : StepsMeet (Tracer.step env) Conserves (init env targets now) as) :
    Sound env s ∧ (∀ t k, Account s t k) ∧ ∀ key, s.Alive key := by
  refine run_induction_of
    (fun _ s => Sound env s ∧ (∀ t k, Account s t k) ∧ ∀ key, s.Alive key) ?_ ?_ as s h hc
  · exact ⟨sound_init targets now, fun t k => account_init targets now, fun key => rfl⟩
  · rintro as s a s' - hC ⟨hs, hacc, halive⟩ hstep
    have hstep' := Step.of_step hstep
    exact ⟨hs.step hstep', fun t k => (hacc t k).step hs hC hstep',
      fun key => (halive key).step hC.fresh hstep'⟩

/-! ## The counters of the hops -/

/-- What the conservation of probes says of a state. -/
structure Balanced (s : Tracer) : Prop where
  /-- The probes counted as sent, and the one about to be, are those counted as answered or timed out,
  in transit to these counters, or pending. -/
  counters : ∀ t x k h, s.sessions.lookup t = some x → x.hop k = some h →
    h.sent + s.sendingAt t k = h.received + h.timeouts + s.pendingAt t k + s.batchAt t k +
      s.polledAt t k + s.expiringAt t k
  /-- Every pending key agrees with its probe. -/
  keyed : s.pending.WellKeyed
  /-- A response is counted for each entry that a reply matched. -/
  received : ∀ t x k h, s.sessions.lookup t = some x → x.hop k = some h →
    h.received + s.batchAt t k + s.polledAt t k = s.logged t k Occurrence.isAnswered
  /-- A timeout is counted for each entry that expired. -/
  timeouts : ∀ t x k h, s.sessions.lookup t = some x → x.hop k = some h →
    h.timeouts + s.expiringAt t k = s.logged t k Occurrence.isExpired
  /-- An entry is removed once: matched, expired or taken back, and only one of these. -/
  once : ∀ key, lifecycle key s.log = some (decide (key ∈ s.pending))

/-- Whatever the network and the schedule do, the counters of every hop stay in balance, as long as no
step overwrites a live key, resets a session, or fails to send a probe whose entry is gone. -/
theorem hop_conservation {targets : List IpAddr} {now : ℕ} {as : List Action}
    (h : run (Tracer.step env) (init env targets now) as = some s)
    (hc : StepsMeet (Tracer.step env) Conserves (init env targets now) as) : s.Balanced := by
  obtain ⟨hs, hacc, halive⟩ := account_run h hc
  have htally : ∀ {t x k hop}, s.sessions.lookup t = some x → x.hop k = some hop →
      s.tally t k = hop.tally := by
    intro t x k hop hx hh
    simp [tally, Session.tally, hx, hh]
  refine ⟨fun t x k hop hx hh => ?_, hs.keyed, fun t x k hop hx hh => ?_,
    fun t x k hop hx hh => ?_, halive⟩
  -- The balance is the sum of the four equations of the account.
  all_goals
    obtain ⟨h1, h2, h3, h4⟩ := hacc t k
    rw [htally hx hh] at h1 h2 h3
    simp only [Hop.tally] at h1 h2 h3
  · omega
  · exact h2
  · exact h3

/-- A round whose probe is answered, up to the record of the answer. -/
def answeredRound : List Action :=
  [.tick sampleTarget, .beginRound sampleTarget, .register sampleTarget, .sendOk sampleTarget,
    .clock 1000000, .receive false sampleReply none [sampleTarget], .drained false, .apply false]

/-- The counters of a run in which the only probe is answered. -/
theorem hop_conservation_answered :
    ∃ s, run (Tracer.step (.icmp (some 1) 1 false)) (init (.icmp (some 1) 1 false) [sampleTarget] 0)
      answeredRound = some s ∧ s.Balanced := by
  have hsome : (run (Tracer.step (.icmp (some 1) 1 false))
      (init (.icmp (some 1) 1 false) [sampleTarget] 0) answeredRound).isSome := by decide
  obtain ⟨s, hs⟩ := Option.isSome_iff_exists.mp hsome
  exact ⟨s, hs, hop_conservation hs (by decide)⟩

/-- A run in which a duplicate of an earlier reply takes the entry of a probe that is then not sent. -/
def answeredUnsent : List Action :=
  [.tick sampleTarget, .beginRound sampleTarget, .register sampleTarget,
    .receive false sampleReply none [sampleTarget], .sendErr sampleTarget, .drained false,
    .apply false]

/-- A probe that a reply matches before its send fails is counted as received and not as sent,
although no key is overwritten, no session reset and nothing swept or flushed. -/
theorem hop_conservation_fails_answered_unsent :
    (∃ s, run (Tracer.step (.icmp (some 1) 1 false))
        (init (.icmp (some 1) 1 false) [sampleTarget] 0) answeredUnsent = some s ∧
      (∀ o ∈ s.log, o.isExpired = false) ∧
      ((s.sessions.lookup sampleTarget).bind (·.hop 1)).any fun h =>
        h.sent + s.sendingAt sampleTarget 1 ≠
          h.received + h.timeouts + s.pendingAt sampleTarget 1 + s.batchAt sampleTarget 1) ∧
    StepsMeet (Tracer.step (.icmp (some 1) 1 false))
      (fun s a => a = .sendErr sampleTarget ∨ s.Conserves a)
      (init (.icmp (some 1) 1 false) [sampleTarget] 0) answeredUnsent := by
  refine ⟨exists_run _ ?_, ?_⟩ <;> decide

end

end Tracer

end Ttl
