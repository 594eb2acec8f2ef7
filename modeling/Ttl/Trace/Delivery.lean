import Ttl.Trace.Conservation
import Ttl.Trace.Provenance

/-!
# The probes that replies answer

A packet does not say which probe it answers, and the match has to guess. Here the actions of a run carry it
as a label, the `Origin` of the reply, which no step reads. `Traffic` is the history of what the engines
sent, and of the replies that were read, with the origin of each and the entry that it took. A run is
`Genuine` when its labels are those of a network that makes nothing up: the origin of a reply was sent
before.

`Traced` is the invariant on the history: every response on its way to a counter is that of a reply that was
read, and the probe that this reply answers was sent.
-/

namespace Ttl

open Runs

/-- The probe that a reply answers, `none` for a packet that answers no probe of the run. -/
abbrev Origin := Option (PendingKey × PendingProbe)

/-- A reply that was read from a socket. -/
structure Delivery where
  parsed : ParsedResponse
  origin : Origin
  time : ℕ
  /-- The entry that it took. -/
  taken : Option (PendingKey × PendingProbe)

/-- The history of a run's packets. -/
structure Traffic where
  /-- The probe that each engine has registered and is sending. -/
  sending : IpAddr → Option (PendingKey × PendingProbe)
  /-- The probes that were sent. -/
  sent : List (PendingKey × PendingProbe)
  /-- The replies that were read. -/
  read : List Delivery
  /-- The keys of the probes whose responses were counted. -/
  counted : List PendingKey

namespace Traffic

/-- The history at the start of a run. -/
def start : Traffic := ⟨fun _ => none, [], [], []⟩

/-- The probe was sent, or its send is under way. -/
def Sent (h : Traffic) (o : PendingKey × PendingProbe) : Prop :=
  o ∈ h.sent ∨ h.sending o.1.target = some o

instance (h : Traffic) (o : PendingKey × PendingProbe) : Decidable (h.Sent o) :=
  inferInstanceAs (Decidable (_ ∨ _))

end Traffic

/-- The engine whose send returns with the action, and whether the probe was sent. -/
def Action.sendEnds : Action → Option (IpAddr × Bool)
  | .sendOk t | .pmtudSendOk t => some (t, true)
  | .sendErr t | .pmtudSendErr t _ => some (t, false)
  | _ => none

namespace Tracer

/-- The entry of a key, with the key. -/
def entry (s : Tracer) (key : Option PendingKey) : Option (PendingKey × PendingProbe) :=
  key.bind fun key => (s.pending.lookup key).map (Prod.mk key)

/-- The reply that an action reads, with the entry that it takes. An ICMP error that the poll reads is not
one: every raw socket gets it, and the poll leaves it to the receiver. -/
def reads (env : Env) (s : Tracer) : Action → Option (ParsedResponse × Option (PendingKey × PendingProbe))
  | .receive b parsed _ targets =>
    some (parsed, s.entry (matchReply (env.receiver b) s.pending targets parsed))
  | .poll t parsed _ =>
    if parsed.response_type = .EchoReply then some (parsed, s.entry (pollMatch s.pending t parsed)) else none
  | _ => none

/-- The key of the response that an action counts. -/
def countedKey (s : Tracer) : Action → Option PendingKey
  | .apply b => (s.receivers b).batch.head?.map BatchedResponse.key
  | .pollApply t =>
    match (s.engines t).pc with
    | .polled resp => some (resp.key t)
    | _ => none
  | _ => none

/-- The probe that an action registers. -/
def registering (env : Env) (s : Tracer) : Action → Option (PendingKey × PendingProbe)
  | .register t =>
    match (s.engines t).pc with
    | .probing ((flow_id, ttl) :: _) => some (s.normalKey t flow_id ttl, normalProbe env s t flow_id)
    | _ => none
  | .pmtudRegister t =>
    match (s.engines t).pc with
    | .pmtudSized dest_ttl size => some (s.pmtudKey t dest_ttl, s.pmtudProbe t size)
    | _ => none
  | _ => none

/-- What engines are sending, after one of them has ended a send or begun one. -/
def updateSending {α : Type} (ended : Option (IpAddr × Bool)) (begun : Option (IpAddr × α))
    (sending : IpAddr → Option α) : IpAddr → Option α :=
  match ended, begun with
  | some (t, _), _ => Function.update sending t none
  | none, some (t, o) => Function.update sending t (some o)
  | none, none => sending

/-- The history after an action with its label. -/
def noteTraffic (env : Env) (h : Traffic) (s : Tracer) (l : Action × Origin) : Traffic where
  sending := updateSending l.1.sendEnds ((s.registering env l.1).map fun o => (o.1.target, o)) h.sending
  sent :=
    match l.1.sendEnds with
    | some (t, true) => (h.sending t).toList ++ h.sent
    | _ => h.sent
  read := ((s.reads env l.1).map fun r => ⟨r.1, l.2, s.now, r.2⟩).toList ++ h.read
  counted := (s.countedKey l.1).toList ++ h.counted

/-- The labels of a step are those of a network that makes nothing up: the probe that a reply answers was
sent, and a probe whose send fails has not been answered. -/
def Genuine (env : Env) (x : Tracer × Traffic) (l : Action × Origin) : Prop :=
  ((x.1.reads env l.1).isSome = true → ∀ o ∈ l.2, x.2.Sent o) ∧
    ∀ ended ∈ l.1.sendEnds, ended.2 = false →
      ∀ d ∈ x.2.read, ∀ o ∈ d.origin, x.2.sending ended.1 ≠ some o

instance (env : Env) (x : Tracer × Traffic) : DecidablePred (Genuine env x) := fun l =>
  inferInstanceAs (Decidable ((_ → ∀ o ∈ l.2, x.2.Sent o) ∧ ∀ ended ∈ l.1.sendEnds, _ → _))

/-- The entry of the first probe of the concrete runs. -/
def sampleEntry : PendingKey × PendingProbe :=
  (⟨⟨1, 0⟩, 0, sampleTarget, false⟩, ⟨0, sampleTarget, 0, none, none⟩)

/-- The key of the probe that an engine is sending. -/
def sendingKey (s : Tracer) (t : IpAddr) : Option PendingKey :=
  match (s.engines t).pc with
  | .registered flow_id ttl _ => some (s.normalKey t flow_id ttl)
  | .pmtudRegistered dest_ttl _ => some (s.pmtudKey t dest_ttl)
  | _ => none

section

variable {env : Env} {s s' : Tracer} {a : Action} {t : IpAddr}

/-! ## What an action reads and registers -/

/-- The registered probe, as a relation. -/
theorem registering_eq_some {o : PendingKey × PendingProbe} :
    s.registering env a = some o ↔ Registers env s a o.1 o.2 := by
  constructor
  · intro h
    unfold registering at h
    split at h
    · split at h
      · next pc =>
        obtain rfl := Option.some.inj h
        exact .normal pc
      · cases h
    · split at h
      · next pc =>
        obtain rfl := Option.some.inj h
        exact .pmtud pc
      · cases h
    · cases h
  · obtain ⟨key, probe⟩ := o
    intro h
    cases h with
    | normal pc =>
      simp only [registering, pc]
      rfl
    | pmtud pc =>
      simp only [registering, pc]
      rfl

/-- An entry is that of a key that is pending. -/
theorem entry_eq_some {key : Option PendingKey} {k : PendingKey} {probe : PendingProbe} :
    s.entry key = some (k, probe) ↔ key = some k ∧ s.pending.lookup k = some probe := by
  cases key with
  | none => simp [entry]
  | some key =>
    simp only [entry, Option.bind_some, Option.map_eq_some_iff, Prod.mk.injEq, Option.some.injEq]
    constructor
    · rintro ⟨q, hq, rfl, rfl⟩
      exact ⟨rfl, hq⟩
    · rintro ⟨rfl, hp⟩
      exact ⟨probe, hp, rfl, rfl⟩

/-- The entry that a read reply takes, as a relation. -/
theorem takes_iff {parsed : ParsedResponse} {key : PendingKey} {probe : PendingProbe} :
    Takes env s a parsed key probe ↔ s.reads env a = some (parsed, some (key, probe)) := by
  constructor
  · intro h
    cases h with
    | receive found entry =>
      have hentry := entry_eq_some.mpr ⟨found, entry⟩
      rw [reads, hentry]
    | poll found entry =>
      have hentry := entry_eq_some.mpr ⟨found, entry⟩
      rw [reads, if_pos (pollMatch_spec found).2.2, hentry]
  · intro h
    unfold reads at h
    split at h
    · obtain ⟨rfl, hentry⟩ := Prod.mk.inj (Option.some.inj h)
      obtain ⟨hfound, hentry⟩ := entry_eq_some.mp hentry
      exact .receive hfound hentry
    · split_ifs at h
      obtain ⟨rfl, hentry⟩ := Prod.mk.inj (Option.some.inj h)
      obtain ⟨hfound, hentry⟩ := entry_eq_some.mp hentry
      exact .poll hfound hentry
    · cases h

/-! ## What the engines are sending -/

/-- The map of what engines are sending, under a function of it. -/
theorem map_updateSending {α β : Type} (g : α → β) (ended : Option (IpAddr × Bool))
    (begun : Option (IpAddr × α)) (sending : IpAddr → Option α) (t : IpAddr) :
    (updateSending ended begun sending t).map g =
      updateSending ended (begun.map fun o => (o.1, g o.2)) (fun t => (sending t).map g) t := by
  unfold updateSending
  split
  · rw [Function.update_apply, Function.update_apply]
    split_ifs <;> rfl
  · rw [Option.map_some]
    dsimp only
    rw [Function.update_apply, Function.update_apply]
    split_ifs <;> rfl
  · rfl

/-- What an engine is sending it was sending before, or has begun to send. -/
theorem updateSending_cases {α : Type} {ended : Option (IpAddr × Bool)} {begun : Option (IpAddr × α)}
    {sending : IpAddr → Option α} {o : α} (h : updateSending ended begun sending t = some o) :
    sending t = some o ∨ begun = some (t, o) := by
  unfold updateSending at h
  split at h
  · rw [Function.update_apply] at h
    split_ifs at h
    exact Or.inl h
  · next t' o' =>
    rw [Function.update_apply] at h
    split_ifs at h with ht
    · obtain rfl := Option.some.inj h
      rw [ht]
      exact Or.inr rfl
    · exact Or.inl h
  · exact Or.inl h

/-- What an engine is sending is a matter of its own state. -/
theorem sendingKey_congr (h : s'.engines t = s.engines t) : s'.sendingKey t = s.sendingKey t := by
  unfold sendingKey normalKey pmtudKey
  rw [h]

/-- The key that an engine is sending is of its target. -/
theorem target_of_sendingKey {key : PendingKey} (h : s.sendingKey t = some key) : key.target = t := by
  unfold sendingKey at h
  split at h
  · obtain rfl := Option.some.inj h
    rfl
  · obtain rfl := Option.some.inj h
    rfl
  · cases h

/-- An engine that goes to another place without a registration or the end of a send is sending nothing. -/
theorem Advance.sendingKey (h : Advance env s t a (s'.engines t).pc) (hends : a.sendEnds = none)
    (hregister : s.registering env a = none) : s.sendingKey t = none ∧ s'.sendingKey t = none := by
  unfold Tracer.sendingKey
  generalize (s'.engines t).pc = pc' at h
  cases h with
  | move move =>
    cases move with
    | counted pc | stop pc _ | beginRound pc _ | skip pc | noPmtud pc | sized pc _ _ | unsized pc
    | pmtudAbort pc => simp only [pc, and_self]
  | finish pc | ready pc _ _ | notReady pc | pmtudClamp pc | poll pc _ _ | pollApply pc | endRound pc =>
    simp only [pc, and_self]
  | register pc => simp only [registering, pc, reduceCtorEq] at hregister
  | pmtudRegister pc => simp only [registering, pc, reduceCtorEq] at hregister
  | sendOk | sendErr | pmtudSendOk | tooBig | pmtudSendErr => cases hends

/-- A step that changes one engine changes what that one is sending. -/
theorem sendingKey_update {e : Engine} (he : s'.engines = Function.update s.engines t e) :
    s'.sendingKey = Function.update s.sendingKey t (s'.sendingKey t) := by
  funext t'
  rw [Function.update_apply]
  split_ifs with ht
  · rw [ht]
  · exact sendingKey_congr (by rw [he, Function.update_of_ne ht])

/-- What the engines are sending changes with the registrations and the ends of the sends. -/
theorem Step.sendingKey (h : Step env s a s') : s'.sendingKey =
    updateSending a.sendEnds ((s.registering env a).map fun o => (o.1.target, o.1)) s.sendingKey := by
  -- The other steps leave it alone.
  have hquiet : a.sendEnds = none → s.registering env a = none → s'.sendingKey =
      updateSending a.sendEnds ((s.registering env a).map fun o => (o.1.target, o.1)) s.sendingKey := by
    intro hends hregister
    rw [hends, hregister]
    funext t
    rcases h.engine_cases t with he | hadv
    · exact sendingKey_congr he
    · obtain ⟨hbefore, hafter⟩ := hadv.sendingKey hends hregister
      exact hafter.trans hbefore.symm
  cases h with
  | @register t flow_id ttl todo pc =>
    have hregister : s.registering env (.register t) =
        some (s.normalKey t flow_id ttl, normalProbe env s t flow_id) := by simp only [registering, pc]
    rw [hregister, sendingKey_update rfl]
    refine congrArg (Function.update _ t) ?_
    simp only [Tracer.sendingKey, normalKey, setPc_engines, setPending_engines, Function.update_self]
  | @pmtudRegister t dest_ttl size pc =>
    have hregister : s.registering env (.pmtudRegister t) =
        some (s.pmtudKey t dest_ttl, s.pmtudProbe t size) := by simp only [registering, pc]
    rw [hregister, sendingKey_update rfl]
    refine congrArg (Function.update _ t) ?_
    simp only [Tracer.sendingKey, pmtudKey, setPc_engines, setPending_engines, Function.update_self]
  | @sendOk t flow_id ttl todo pc =>
    rw [sendingKey_update rfl]
    refine congrArg (Function.update _ t) ?_
    simp only [Tracer.sendingKey, setPc_engines, Function.update_self]
  | @sendErr t flow_id ttl todo pc =>
    rw [sendingKey_update rfl]
    refine congrArg (Function.update _ t) ?_
    simp only [Tracer.sendingKey, setPc_engines, Function.update_self]
  | @pmtudSendOk t dest_ttl size pc =>
    rw [sendingKey_update rfl]
    refine congrArg (Function.update _ t) ?_
    simp only [Tracer.sendingKey, Function.update_self]
  | @pmtudSendErr t dest_ttl size emsgsize pc =>
    rw [sendingKey_update rfl]
    refine congrArg (Function.update _ t) ?_
    cases emsgsize <;> simp [Tracer.sendingKey]
  | move move => exact hquiet (by cases move <;> rfl) (by cases move <;> rfl)
  | shift shift => exact hquiet (by cases shift <;> rfl) (by cases shift <;> rfl)
  | _ => exact hquiet rfl rfl

/-- An engine that registers a probe is sending none. -/
theorem Registers.sendingKey {key : PendingKey} {probe : PendingProbe} (h : Registers env s a key probe) :
    s.sendingKey key.target = none := by
  cases h with
  | normal pc => simp only [Tracer.sendingKey, normalKey, pc]
  | pmtud pc => simp only [Tracer.sendingKey, pmtudKey, pc]

/-! ## The history of a genuine run -/

/-- Where the replies that were read, and their responses on the way to a counter, come from. -/
structure Traced (s : Tracer) (h : Traffic) : Prop where
  /-- The history knows what the engines are sending. -/
  sending : ∀ t, (h.sending t).map Prod.fst = s.sendingKey t
  /-- A probe that was sent was registered. -/
  registered : ∀ o, h.Sent o → .registered o.1 o.2 ∈ s.log
  /-- A path MTU probe has the flow 0. -/
  flow : ∀ key probe, .registered key probe ∈ s.log → key.is_pmtud = true → key.flow_id = 0
  /-- The probe that a reply answers was sent. -/
  origin : ∀ d ∈ h.read, ∀ o ∈ d.origin, h.Sent o
  /-- Every match was that of a reply that was read. -/
  matched : ∀ b parsed key probe, .matched b parsed key probe ∈ s.log →
    ∃ d ∈ h.read, d.parsed = parsed ∧ d.taken = some (key, probe)
  /-- So was every match of the poll. -/
  polled : ∀ parsed key probe, .polled parsed key probe ∈ s.log →
    ∃ d ∈ h.read, d.parsed = parsed ∧ d.taken = some (key, probe)
  /-- A response in a batch is that of a reply that was read. -/
  batch : ∀ b, ∀ resp ∈ (s.receivers b).batch, ∃ d ∈ h.read, ∃ response_ttl key probe,
    d.taken = some (key, probe) ∧ key.Agrees probe ∧
      resp = batchResponse d.parsed response_ttl probe d.time
  /-- So is a response that the poll holds. -/
  engine : ∀ t resp, (s.engines t).pc = .polled resp → ∃ d ∈ h.read, ∃ response_ttl key probe,
    d.taken = some (key, probe) ∧ key.Agrees probe ∧ key.target = t ∧
      d.parsed.response_type = .EchoReply ∧ resp = pollResponse d.parsed response_ttl probe d.time

variable {h : Traffic} {l : Action × Origin} {o : PendingKey × PendingProbe}

/-- A reply that an action reads is in the history after it. -/
theorem mem_read_note {parsed : ParsedResponse} {taken : Option (PendingKey × PendingProbe)}
    (hr : s.reads env l.1 = some (parsed, taken)) :
    (⟨parsed, l.2, s.now, taken⟩ : Delivery) ∈ (noteTraffic env h s l).read := by
  simp [noteTraffic, hr]

/-- The history of replies only grows. -/
theorem read_subset_note {d : Delivery} (hd : d ∈ h.read) : d ∈ (noteTraffic env h s l).read :=
  List.mem_append_right _ hd

/-- A reply in the history was there before the action, or the action reads it. -/
theorem read_note_cases {d : Delivery} (hd : d ∈ (noteTraffic env h s l).read) :
    d ∈ h.read ∨ s.reads env l.1 = some (d.parsed, d.taken) ∧ d.origin = l.2 ∧ d.time = s.now := by
  rcases List.mem_append.mp hd with hd | hd
  · obtain ⟨r, hr, rfl⟩ := Option.map_eq_some_iff.mp (Option.mem_toList.mp hd)
    exact Or.inr ⟨hr, rfl, rfl⟩
  · exact Or.inl hd

/-- An action that reads a reply ends no send. -/
theorem sendEnds_of_reads (hr : (s.reads env a).isSome = true) : a.sendEnds = none := by
  cases a with
  | receive | poll => rfl
  | _ => cases hr

/-- A probe that was sent was so before the action, or the action registers it. -/
theorem sent_note_cases (ht : Traced s h) (hm : (noteTraffic env h s l).Sent o) :
    h.Sent o ∨ Registers env s l.1 o.1 o.2 := by
  rcases hm with hm | hm
  · simp only [noteTraffic] at hm
    split at hm
    · next t _ =>
      rcases List.mem_append.mp hm with hm | hm
      · -- What the engine was sending is sent now.
        have hsending : h.sending t = some o := Option.mem_toList.mp hm
        have hkey := ht.sending t
        rw [hsending] at hkey
        rw [← target_of_sendingKey hkey.symm] at hsending
        exact Or.inl (Or.inr hsending)
      · exact Or.inl (Or.inl hm)
    · exact Or.inl (Or.inl hm)
  · rcases updateSending_cases hm with hm | hbegun
    · exact Or.inl (Or.inr hm)
    · obtain ⟨o', ho', hpair⟩ := Option.map_eq_some_iff.mp hbegun
      obtain ⟨-, rfl⟩ := Prod.mk.inj hpair
      exact Or.inr (registering_eq_some.mp ho')

/-- A probe that was sent, or is being sent, stays so unless its send fails. -/
theorem sent_note (hm : h.Sent o) (ht : Traced s h) : (noteTraffic env h s l).Sent o ∨
    l.1.sendEnds = some (o.1.target, false) ∧ h.sending o.1.target = some o := by
  rcases hm with hm | hm
  · refine Or.inl (Or.inl ?_)
    simp only [noteTraffic]
    split
    · exact List.mem_append_right _ hm
    · exact hm
  · cases hends : l.1.sendEnds with
    | none =>
      refine Or.inl (Or.inr ?_)
      simp only [noteTraffic, updateSending, hends]
      cases hregister : s.registering env l.1 with
      | none => exact hm
      | some o' =>
        -- The engine that registers is another one.
        have hnone := (registering_eq_some.mp hregister).sendingKey
        have hne : o.1.target ≠ o'.1.target := by
          intro he
          rw [← he, ← ht.sending, hm] at hnone
          cases hnone
        exact (Function.update_of_ne hne _ _).trans hm
    | some ended =>
      obtain ⟨t, ok⟩ := ended
      by_cases he : o.1.target = t
      · subst he
        cases ok with
        | false => exact Or.inr ⟨rfl, hm⟩
        | true =>
          refine Or.inl (Or.inl ?_)
          simp only [noteTraffic, hends]
          exact List.mem_append_left _ (Option.mem_toList.mpr hm)
      · refine Or.inl (Or.inr ?_)
        simp only [noteTraffic, updateSending, hends]
        exact (Function.update_of_ne he _ _).trans hm

/-- A genuine step keeps the history traced. -/
theorem Traced.step (ht : Traced s h) (hs : Sound env s) (hg : Genuine env (s, h) l)
    (hstep : Step env s l.1 s') : Traced s' (noteTraffic env h s l) where
  sending := by
    intro t
    have hkeys : (fun t => (h.sending t).map Prod.fst) = s.sendingKey := funext ht.sending
    rw [noteTraffic, map_updateSending, hkeys, hstep.sendingKey, Option.map_map]
    rfl
  registered := by
    intro o hm
    rcases sent_note_cases ht hm with hm | hr
    · exact hstep.log_subset (ht.registered o hm)
    · exact hstep.log_of_logs (.registered hr)
  flow := by
    intro key probe hm hpmtud
    obtain ⟨a, origin⟩ := l
    rcases hstep.mem_log hm with hm | ho
    · exact ht.flow key probe hm hpmtud
    · cases ho with
      | registered registers =>
        cases registers with
        | normal pc => cases hpmtud
        | pmtud pc => rfl
  origin := by
    intro d hd o ho
    rcases read_note_cases hd with hd | ⟨hreads, horigin, -⟩
    · refine (sent_note (ht.origin d hd o ho) ht).resolve_right ?_
      rintro ⟨hends, hsending⟩
      exact hg.2 _ hends rfl d hd o ho hsending
    · have hsome : (s.reads env l.1).isSome = true := by rw [hreads]; rfl
      have hsent : h.Sent o := hg.1 hsome o (horigin ▸ ho)
      refine (sent_note hsent ht).resolve_right ?_
      rintro ⟨hends, -⟩
      rw [sendEnds_of_reads hsome] at hends
      cases hends
  matched := by
    intro b parsed key probe hm
    rcases hstep.mem_log hm with hm | ho
    · obtain ⟨d, hd, hdelivery⟩ := ht.matched b parsed key probe hm
      exact ⟨d, read_subset_note hd, hdelivery⟩
    · obtain ⟨a, origin⟩ := l
      cases ho with
      | matched perm found entry =>
        exact ⟨_, mem_read_note (takes_iff.mp (.receive found entry)), rfl, rfl⟩
  polled := by
    intro parsed key probe hm
    rcases hstep.mem_log hm with hm | ho
    · obtain ⟨d, hd, hdelivery⟩ := ht.polled parsed key probe hm
      exact ⟨d, read_subset_note hd, hdelivery⟩
    · obtain ⟨a, origin⟩ := l
      cases ho with
      | polled found entry =>
        exact ⟨_, mem_read_note (takes_iff.mp (.poll found entry)), rfl, rfl⟩
  batch := by
    intro b resp hm
    rcases hstep.mem_batch hm with hm | ⟨parsed, rttl, targets, key, probe, ha, hperm, hfound, hl, rfl⟩
    · obtain ⟨d, hd, rest⟩ := ht.batch b resp hm
      exact ⟨d, read_subset_note hd, rest⟩
    · obtain ⟨a, origin⟩ := l
      subst ha
      exact ⟨_, mem_read_note (takes_iff.mp (.receive hfound hl)), rttl, key, probe, rfl,
        hs.keyed key probe hl, rfl⟩
  engine := by
    intro t resp hpc
    rcases hstep.pc_polled hpc with hpc | ⟨parsed, rttl, key, probe, ha, hfound, hl, rfl⟩
    · obtain ⟨d, hd, rest⟩ := ht.engine t resp hpc
      exact ⟨d, read_subset_note hd, rest⟩
    · obtain ⟨a, origin⟩ := l
      subst ha
      obtain ⟨-, hkey, hecho⟩ := pollMatch_spec hfound
      exact ⟨_, mem_read_note (takes_iff.mp (.poll hfound hl)), rttl, key, probe, rfl,
        hs.keyed key probe hl, by rw [hkey], hecho, rfl⟩

/-- Nothing has been sent at the start. -/
theorem traced_init (targets : List IpAddr) (now : ℕ) : Traced (init env targets now) .start where
  sending := by
    intro t
    simp only [Traffic.start, Tracer.sendingKey, init]
    split_ifs <;> rfl
  registered := by
    rintro o (hm | hm) <;> cases hm
  flow := by intro key probe hm; cases hm
  origin := by intro d hd; cases hd
  matched := by intro b parsed key probe hm; cases hm
  polled := by intro parsed key probe hm; cases hm
  batch := by intro b resp hm; cases hm
  engine := by
    intro t resp hpc
    simp only [init] at hpc
    split_ifs at hpc

end

end Tracer

end Ttl
