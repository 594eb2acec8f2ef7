import Ttl.Trace.Tracer

/-!
# The steps as a relation

`Step env s a s'` says that the action `a` takes `s` to `s'`, with one constructor for each kind of
effect: `Move` gathers the actions that only move an engine in its loop, and `Shift` those that only
move a receiver. The lemmas after it say, for each component of the state, where its contents can have
come from.
-/

namespace Ttl

namespace Tracer

/-- The actions that move the engine of a target in its loop and change nothing else. -/
inductive Move (env : Env) (s : Tracer) (t : IpAddr) : Action → EnginePc → Prop
  | counted (pc : (s.engines t).pc = .waiting) : Move env s t (.tick t) .counted
  | stop (pc : (s.engines t).pc = .waiting) (cancelled : s.cancelled = true) :
      Move env s t (.stop t) .stopped
  | beginRound {session} (pc : (s.engines t).pc = .counted)
      (entry : s.sessions.lookup t = some session) :
      Move env s t (.beginRound t) (.probing (probeOrder (env.config t) session.maxProbeTtl))
  | skip {p todo} (pc : (s.engines t).pc = .probing (p :: todo)) :
      Move env s t (.skip t) (.probing todo)
  | noPmtud (pc : (s.engines t).pc = .probing []) : Move env s t (.pmtudCheck t) .polling
  | sized {dest_ttl size session} (pc : (s.engines t).pc = .pmtudReady dest_ttl)
      (entry : s.sessions.lookup t = some session) (read : session.getPmtudProbeSize = some size) :
      Move env s t (.pmtudSize t) (.pmtudSized dest_ttl size)
  | unsized {dest_ttl} (pc : (s.engines t).pc = .pmtudReady dest_ttl) :
      Move env s t (.pmtudSize t) .polling
  | pmtudAbort {dest_ttl size} (pc : (s.engines t).pc = .pmtudSized dest_ttl size) :
      Move env s t (.pmtudAbort t) .polling

/-- The actions that move the receiver of a family in its loop and change nothing else. -/
inductive Shift (env : Env) (s : Tracer) (b : Bool) : Action → ReceiverPhase → Prop
  | missed {parsed response_ttl targets} (phase : (s.receivers b).phase = .draining)
      (perm : targets.Perm s.sessions.keys)
      (noMatch : matchReply (env.receiver b) s.pending targets parsed = none) :
      Shift env s b (.receive b parsed response_ttl targets) (.missed parsed)
  | forgotten {parsed} (phase : (s.receivers b).phase = .missed parsed)
      (dest : parsed.original_dest = none) : Shift env s b (.recordLate b) .draining
  | drained (phase : (s.receivers b).phase = .draining) : Shift env s b (.drained b) .applying
  | checkCancel (phase : (s.receivers b).phase = .applying) (empty : (s.receivers b).batch = []) :
      Shift env s b (.checkCancel b) (.cleanup s.cancelled)
  | recorded {flush} (phase : (s.receivers b).phase = .recording [] flush) :
      Shift env s b (.recorded b) (if flush then .stopped else .draining)
  | fail (phase : (s.receivers b).phase = .draining) (empty : (s.receivers b).batch = []) :
      Shift env s b (.fail b) .stopped

/-- One step of the tracer. -/
inductive Step (env : Env) (s : Tracer) : Action → Tracer → Prop
  /-- A tick of a paused engine. -/
  | paused {t} : Step env s (.tick t) s
  /-- A polled packet that matches nothing. -/
  | pollMiss {t parsed response_ttl} (noMatch : pollMatch s.pending t parsed = none) :
      Step env s (.poll t parsed response_ttl) s
  | move {t a pc} (move : Move env s t a pc) : Step env s a (s.setPc t pc)
  /-- The engine has completed its rounds, and cancels the shared token. -/
  | finish {t count session} (pc : (s.engines t).pc = .waiting)
      (entry : s.sessions.lookup t = some session) (running : session.paused = false)
      (limit : (env.config t).count = some count) (done : count ≤ (s.engines t).rounds_completed) :
      Step env s (.tick t) { s.setPc t .stopped with cancelled := true }
  | register {t flow_id ttl todo} (pc : (s.engines t).pc = .probing ((flow_id, ttl) :: todo)) :
      Step env s (.register t)
        ((s.setPending (s.pending.insert (s.normalKey t flow_id ttl) (normalProbe env s t flow_id))
          [.registered (s.normalKey t flow_id ttl) (normalProbe env s t flow_id)]).setPc t
            (.registered flow_id ttl todo))
  | sendOk {t flow_id ttl todo} (pc : (s.engines t).pc = .registered flow_id ttl todo) :
      Step env s (.sendOk t)
        ((s.onSession t (Session.recordProbeSent flow_id ttl)).setPc t (.probing todo))
  | sendErr {t flow_id ttl todo} (pc : (s.engines t).pc = .registered flow_id ttl todo) :
      Step env s (.sendErr t)
        ((s.setPending (s.pending.erase (s.normalKey t flow_id ttl))
          (if s.normalKey t flow_id ttl ∈ s.pending then [.unsent (s.normalKey t flow_id ttl)]
            else [])).setPc t (.probing todo))
  | pmtudCheck {t session} (pc : (s.engines t).pc = .probing [])
      (entry : s.sessions.lookup t = some session) :
      Step env s (.pmtudCheck t)
        ((s.onSession t fun x => (x.checkPmtudReady (env.config t)).1).setPc t
          (match (session.checkPmtudReady (env.config t)).2 with
            | some dest_ttl => .pmtudReady dest_ttl
            | none => .polling))
  | pmtudRegister {t dest_ttl size} (pc : (s.engines t).pc = .pmtudSized dest_ttl size) :
      Step env s (.pmtudRegister t)
        ((s.setPending (s.pending.insert (s.pmtudKey t dest_ttl) (s.pmtudProbe t size))
          [.registered (s.pmtudKey t dest_ttl) (s.pmtudProbe t size)]).setPc t
            (.pmtudRegistered dest_ttl size))
  | pmtudSendOk {t dest_ttl size} (pc : (s.engines t).pc = .pmtudRegistered dest_ttl size) :
      Step env s (.pmtudSendOk t)
        { s.onSession t Session.addSent with
          engines := Function.update s.engines t
            { s.engines t with pc := .polling, pmtud_seq := (s.engines t).pmtud_seq + 1 } }
  | pmtudSendErr {t dest_ttl size emsgsize}
      (pc : (s.engines t).pc = .pmtudRegistered dest_ttl size) :
      Step env s (.pmtudSendErr t emsgsize)
        ((s.setPending (s.pending.erase (s.pmtudKey t dest_ttl))
          (if s.pmtudKey t dest_ttl ∈ s.pending then [.unsent (s.pmtudKey t dest_ttl)]
            else [])).setPc t (if emsgsize then .pmtudTooBig size else .polling))
  | pmtudClamp {t size} (pc : (s.engines t).pc = .pmtudTooBig size) :
      Step env s (.pmtudClamp t) ((s.onSession t (Session.clampPmtud size)).setPc t .polling)
  | poll {t parsed response_ttl key probe} (pc : (s.engines t).pc = .polling)
      (found : pollMatch s.pending t parsed = some key)
      (entry : s.pending.lookup key = some probe) :
      Step env s (.poll t parsed response_ttl)
        ((s.setPending (s.pending.erase key) [.polled parsed key probe]).setPc t
          (.polled (pollResponse parsed response_ttl probe s.now)))
  | pollApply {t resp} (pc : (s.engines t).pc = .polled resp) :
      Step env s (.pollApply t) ((s.onSession t (Session.applyPolled t resp)).setPc t .polling)
  | endRound {t} (pc : (s.engines t).pc = .polling) : Step env s (.endRound t) (s.finishRound t)
  | receive {b parsed response_ttl targets key probe} (phase : (s.receivers b).phase = .draining)
      (perm : targets.Perm s.sessions.keys)
      (found : matchReply (env.receiver b) s.pending targets parsed = some key)
      (entry : s.pending.lookup key = some probe) :
      Step env s (.receive b parsed response_ttl targets)
        ((s.setPending (s.pending.erase key) [.matched b parsed key probe]).setReceiver b
          ⟨.draining, (s.receivers b).batch ++ [batchResponse parsed response_ttl probe s.now]⟩)
  | shift {b a phase} (shift : Shift env s b a phase) :
      Step env s a (s.setReceiver b ⟨phase, (s.receivers b).batch⟩)
  | recordLate {b parsed target} (phase : (s.receivers b).phase = .missed parsed)
      (dest : parsed.original_dest = some target) :
      Step env s (.recordLate b)
        ((s.onSession target fun x =>
          x.recordEvent (lateReplyEvent (env.receiver b) parsed (x.offsetMs s.now))).setReceiver b
            ⟨.draining, (s.receivers b).batch⟩)
  | apply {b resp batch} (phase : (s.receivers b).phase = .applying)
      (head : (s.receivers b).batch = resp :: batch) :
      Step env s (.apply b)
        ((s.onSession resp.target (Session.applyResponse (env.receiver b) s.now resp)).setReceiver b
          ⟨.applying, batch⟩)
  | expire {b flush} (phase : (s.receivers b).phase = .cleanup flush) :
      Step env s (.expire b)
        ((s.setPending (surviving env s b flush)
          ((expiring env s b flush).map fun e => .expired e.1 e.2 flush s.now)).setReceiver b
            ⟨.recording (expiring env s b flush) flush, (s.receivers b).batch⟩)
  | recordTimeout {b key probe timed_out flush}
      (phase : (s.receivers b).phase = .recording ((key, probe) :: timed_out) flush) :
      Step env s (.recordTimeout b)
        ((s.onSession key.target
          (Session.recordPendingTimeout s.now (! flush) (! flush) key probe)).setReceiver b
            ⟨.recording timed_out flush, (s.receivers b).batch⟩)
  | settle (joining : s.main = .joining)
      (stopped : ∀ t ∈ s.sessions.keys, (s.engines t).pc = .stopped) :
      Step env s .settle { s with main := .settling s.now }
  | settled {since} (settling : s.main = .settling since)
      (elapsed : since + env.base.timeout + 500 * 10^6 ≤ s.now) :
      Step env s .settled { s with main := .done, cancelled := true }
  | reset {t} : Step env s (.reset t) (s.onSession t fun x => x.resetStats s.now)
  | pause {t paused} : Step env s (.pause t paused) (s.onSession t fun x => { x with paused := paused })
  | cancel : Step env s .cancel { s with cancelled := true }
  | clock {elapsed} : Step env s (.clock elapsed) { s with now := s.now + elapsed }

/-! ## The executable steps -/

section

variable {env : Env} {s s' : Tracer} {t : IpAddr} {b : Bool} {parsed : ParsedResponse}
  {response_ttl : Option UInt8} {targets : List IpAddr}

/-- A paused engine only sleeps, and one that has completed its count cancels the token. -/
theorem Step.of_tick (h : step env s (.tick t) = some s') : Step env s (.tick t) s' := by
  simp only [step] at h
  split at h
  · next session hpc hsession =>
    split_ifs at h with hp
    · obtain rfl := Option.some.inj h
      exact .paused
    · split at h
      · next count hcount =>
        split_ifs at h with hdone
        · obtain rfl := Option.some.inj h
          exact .finish hpc hsession (Bool.eq_false_iff.mpr hp) hcount hdone
        · obtain rfl := Option.some.inj h
          exact .move (.counted hpc)
      · obtain rfl := Option.some.inj h
        exact .move (.counted hpc)
  · cases h

/-- What the check of the path MTU search does. -/
theorem Step.of_pmtudCheck (h : step env s (.pmtudCheck t) = some s') : Step env s (.pmtudCheck t) s' := by
  simp only [step] at h
  split at h
  · next session hpc hsession =>
    split_ifs at h
    · obtain rfl := Option.some.inj h
      exact .pmtudCheck hpc hsession
    · obtain rfl := Option.some.inj h
      exact .move (.noPmtud hpc)
  · cases h

/-- What the choice of a size does. -/
theorem Step.of_pmtudSize (h : step env s (.pmtudSize t) = some s') : Step env s (.pmtudSize t) s' := by
  simp only [step] at h
  split at h
  · next dest_ttl session hpc hsession =>
    obtain rfl := Option.some.inj h
    cases hsize : session.getPmtudProbeSize with
    | some size => exact .move (.sized hpc hsession hsize)
    | none => exact .move (.unsized hpc)
  · cases h

/-- A match of the poll removes the entry that it found. -/
theorem Step.of_poll (h : step env s (.poll t parsed response_ttl) = some s') :
    Step env s (.poll t parsed response_ttl) s' := by
  simp only [step] at h
  split_ifs at h with hg
  split at h
  · next key hkey =>
    obtain ⟨probe, hprobe, rfl⟩ := Option.map_eq_some_iff.mp h
    exact .poll hg.1 hkey hprobe
  · next hnone =>
    obtain rfl := Option.some.inj h
    exact .pollMiss hnone

/-- A match of the receiver removes the entry that it found. -/
theorem Step.of_receive (h : step env s (.receive b parsed response_ttl targets) = some s') :
    Step env s (.receive b parsed response_ttl targets) s' := by
  simp only [step] at h
  split_ifs at h with hg
  split at h
  · next key hkey =>
    obtain ⟨probe, hprobe, rfl⟩ := Option.map_eq_some_iff.mp h
    exact .receive hg.1 hg.2 hkey hprobe
  · next hnone =>
    obtain rfl := Option.some.inj h
    exact .shift (.missed hg.1 hg.2 hnone)

/-- What a late reply does. -/
theorem Step.of_recordLate (h : step env s (.recordLate b) = some s') : Step env s (.recordLate b) s' := by
  simp only [step] at h
  split at h
  · next parsed hphase =>
    split at h
    · next target hdest =>
      obtain rfl := Option.some.inj h
      exact .recordLate hphase hdest
    · next hdest =>
      obtain rfl := Option.some.inj h
      exact .shift (.forgotten hphase hdest)
  · cases h

/-- What the check for a cancellation does. -/
theorem Step.of_checkCancel (h : step env s (.checkCancel b) = some s') : Step env s (.checkCancel b) s' := by
  simp only [step] at h
  split at h
  · next hr =>
    obtain rfl := Option.some.inj h
    -- The batch is empty here, as the shift has it.
    have hshift : Step env s (.checkCancel b) _ := .shift (.checkCancel (by rw [hr]) (by rw [hr]))
    rwa [hr] at hshift
  · cases h

/-- What a failed receive does. -/
theorem Step.of_fail (h : step env s (.fail b) = some s') : Step env s (.fail b) s' := by
  simp only [step] at h
  split_ifs at h with hr
  obtain rfl := Option.some.inj h
  have hshift : Step env s (.fail b) _ := .shift (.fail (by rw [hr]) (by rw [hr]))
  rwa [hr] at hshift

/-- The executable steps are steps of the relation. -/
theorem Step.of_step {a : Action} (h : step env s a = some s') : Step env s a s' := by
  cases a with
  | tick t => exact .of_tick h
  | stop t =>
    simp only [step] at h
    split_ifs at h with hs
    obtain rfl := Option.some.inj h
    exact .move (.stop hs.1 hs.2)
  | beginRound t =>
    simp only [step] at h
    split at h
    · next session hpc hsession =>
      obtain rfl := Option.some.inj h
      exact .move (.beginRound hpc hsession)
    · cases h
  | register t =>
    simp only [step] at h
    split at h
    · next hpc =>
      obtain rfl := Option.some.inj h
      exact .register hpc
    · cases h
  | skip t =>
    simp only [step] at h
    split at h
    · next hpc =>
      obtain rfl := Option.some.inj h
      exact .move (.skip hpc)
    · cases h
  | sendOk t =>
    simp only [step] at h
    split at h
    · next hpc =>
      obtain rfl := Option.some.inj h
      exact .sendOk hpc
    · cases h
  | sendErr t =>
    simp only [step] at h
    split at h
    · next hpc =>
      obtain rfl := Option.some.inj h
      exact .sendErr hpc
    · cases h
  | pmtudCheck t => exact .of_pmtudCheck h
  | pmtudSize t => exact .of_pmtudSize h
  | pmtudRegister t =>
    simp only [step] at h
    split at h
    · next hpc =>
      obtain rfl := Option.some.inj h
      exact .pmtudRegister hpc
    · cases h
  | pmtudAbort t =>
    simp only [step] at h
    split at h
    · next hpc =>
      obtain rfl := Option.some.inj h
      exact .move (.pmtudAbort hpc)
    · cases h
  | pmtudSendOk t =>
    simp only [step] at h
    split at h
    · next hpc =>
      obtain rfl := Option.some.inj h
      exact .pmtudSendOk hpc
    · cases h
  | pmtudSendErr t emsgsize =>
    simp only [step] at h
    split at h
    · next hpc =>
      obtain rfl := Option.some.inj h
      exact .pmtudSendErr hpc
    · cases h
  | pmtudClamp t =>
    simp only [step] at h
    split at h
    · next hpc =>
      obtain rfl := Option.some.inj h
      exact .pmtudClamp hpc
    · cases h
  | poll t parsed response_ttl => exact .of_poll h
  | pollApply t =>
    simp only [step] at h
    split at h
    · next hpc =>
      obtain rfl := Option.some.inj h
      exact .pollApply hpc
    · cases h
  | endRound t =>
    simp only [step] at h
    split_ifs at h with hpc
    obtain rfl := Option.some.inj h
    exact .endRound hpc
  | receive b parsed response_ttl targets => exact .of_receive h
  | recordLate b => exact .of_recordLate h
  | drained b =>
    simp only [step] at h
    split_ifs at h with hphase
    obtain rfl := Option.some.inj h
    exact .shift (.drained hphase)
  | apply b =>
    simp only [step] at h
    split at h
    · next resp batch hr =>
      obtain rfl := Option.some.inj h
      exact .apply (by rw [hr]) (by rw [hr])
    · cases h
  | checkCancel b => exact .of_checkCancel h
  | expire b =>
    simp only [step] at h
    split at h
    · next hphase =>
      obtain rfl := Option.some.inj h
      exact .expire hphase
    · cases h
  | recordTimeout b =>
    simp only [step] at h
    split at h
    · next hphase =>
      obtain rfl := Option.some.inj h
      exact .recordTimeout hphase
    · cases h
  | recorded b =>
    simp only [step] at h
    split at h
    · next hphase =>
      obtain rfl := Option.some.inj h
      exact .shift (.recorded hphase)
    · cases h
  | fail b => exact .of_fail h
  | settle =>
    simp only [step] at h
    split_ifs at h with hg
    obtain rfl := Option.some.inj h
    exact .settle hg.1 hg.2
  | settled =>
    simp only [step] at h
    split at h
    · next hmain =>
      split_ifs at h with he
      obtain rfl := Option.some.inj h
      exact .settled hmain he
    · cases h
  | reset t =>
    obtain rfl := Option.some.inj h
    exact .reset
  | pause t paused =>
    obtain rfl := Option.some.inj h
    exact .pause
  | cancel =>
    obtain rfl := Option.some.inj h
    exact .cancel
  | clock elapsed =>
    obtain rfl := Option.some.inj h
    exact .clock

end

/-! ## Where the contents of a state come from -/

section

variable {env : Env} {s s' : Tracer} {a : Action}

/-- The actions that register a probe, with the entry that they insert. -/
inductive Registers (env : Env) (s : Tracer) : Action → PendingKey → PendingProbe → Prop
  | normal {t flow_id ttl todo} (pc : (s.engines t).pc = .probing ((flow_id, ttl) :: todo)) :
      Registers env s (.register t) (s.normalKey t flow_id ttl) (normalProbe env s t flow_id)
  | pmtud {t dest_ttl size} (pc : (s.engines t).pc = .pmtudSized dest_ttl size) :
      Registers env s (.pmtudRegister t) (s.pmtudKey t dest_ttl) (s.pmtudProbe t size)

/-- A registered key agrees with its probe, which carries the time of its registration. -/
theorem Registers.agrees {key : PendingKey} {probe : PendingProbe} (h : Registers env s a key probe) :
    key.Agrees probe ∧ probe.sent_at = s.now := by
  cases h with
  | normal pc => exact ⟨⟨rfl, rfl, rfl⟩, rfl⟩
  | pmtud pc => exact ⟨⟨rfl, rfl, rfl⟩, rfl⟩

/-- A registered probe is pending after the step. -/
theorem Registers.lookup {key : PendingKey} {probe : PendingProbe} (hr : Registers env s a key probe)
    (h : Step env s a s') : s'.pending.lookup key = some probe := by
  cases hr with
  | normal pc =>
    cases h with
    | register pc' =>
      cases pc.symm.trans pc'
      exact AList.lookup_insert _
    | move move => cases move
    | shift shift => cases shift
  | pmtud pc =>
    cases h with
    | pmtudRegister pc' =>
      cases pc.symm.trans pc'
      exact AList.lookup_insert _
    | move move => cases move
    | shift shift => cases shift

/-- The actions that read a reply for which there is an entry, with the entry that the reply takes. -/
inductive Takes (env : Env) (s : Tracer) : Action → ParsedResponse → PendingKey → PendingProbe → Prop
  | receive {b parsed response_ttl targets key probe}
      (found : matchReply (env.receiver b) s.pending targets parsed = some key)
      (entry : s.pending.lookup key = some probe) :
      Takes env s (.receive b parsed response_ttl targets) parsed key probe
  | poll {t parsed response_ttl key probe} (found : pollMatch s.pending t parsed = some key)
      (entry : s.pending.lookup key = some probe) : Takes env s (.poll t parsed response_ttl) parsed key probe

/-- An entry that a reply takes is pending, under the reply's `ProbeId`. -/
theorem Takes.spec {parsed : ParsedResponse} {key : PendingKey} {probe : PendingProbe}
    (h : Takes env s a parsed key probe) :
    s.pending.lookup key = some probe ∧ key.probe_id = parsed.probe_id := by
  cases h with
  | receive found entry => exact ⟨entry, (matchReply_spec found).2⟩
  | poll found entry => exact ⟨entry, by rw [(pollMatch_spec found).2.1]⟩

/-- An entry that an insertion leaves is the inserted one or was there before. -/
theorem lookup_insert_cases {m : PendingMap} {k key : PendingKey} {v probe : PendingProbe}
    (h : (m.insert k v).lookup key = some probe) :
    m.lookup key = some probe ∨ key = k ∧ probe = v := by
  rw [KeyMap.lookup_insert] at h
  split_ifs at h with hk
  · exact Or.inr ⟨hk, (Option.some.inj h).symm⟩
  · exact Or.inl h

/-- An entry that a removal leaves was there before. -/
theorem lookup_of_lookup_erase {m : PendingMap} {k key : PendingKey} {probe : PendingProbe}
    (h : (m.erase k).lookup key = some probe) : m.lookup key = some probe := by
  rw [KeyMap.lookup_erase] at h
  split_ifs at h
  exact h

/-- A pending entry was pending before the step, or the step registered it. -/
theorem Step.lookup_pending {key : PendingKey} {probe : PendingProbe} (h : Step env s a s')
    (hl : s'.pending.lookup key = some probe) :
    s.pending.lookup key = some probe ∨ Registers env s a key probe := by
  cases h with
  | register pc =>
    rcases lookup_insert_cases hl with h | ⟨rfl, rfl⟩
    · exact Or.inl h
    · exact Or.inr (.normal pc)
  | pmtudRegister pc =>
    rcases lookup_insert_cases hl with h | ⟨rfl, rfl⟩
    · exact Or.inl h
    · exact Or.inr (.pmtud pc)
  | sendErr pc => exact Or.inl (lookup_of_lookup_erase hl)
  | pmtudSendErr pc => exact Or.inl (lookup_of_lookup_erase hl)
  | poll pc found entry => exact Or.inl (lookup_of_lookup_erase hl)
  | receive phase perm found entry => exact Or.inl (lookup_of_lookup_erase hl)
  | expire phase => exact Or.inl (KeyMap.lookup_retain_eq_some.mp hl).1
  | _ => exact Or.inl hl

/-- The actions that update a session, with what they do to it. -/
inductive Update (env : Env) (s : Tracer) : Action → IpAddr → (Session → Session) → Prop
  | sent {t flow_id ttl todo} (pc : (s.engines t).pc = .registered flow_id ttl todo) :
      Update env s (.sendOk t) t (Session.recordProbeSent flow_id ttl)
  | pmtudCheck {t} (pc : (s.engines t).pc = .probing []) :
      Update env s (.pmtudCheck t) t fun x => (x.checkPmtudReady (env.config t)).1
  | pmtudSent {t dest_ttl size} (pc : (s.engines t).pc = .pmtudRegistered dest_ttl size) :
      Update env s (.pmtudSendOk t) t Session.addSent
  | clamp {t size} (pc : (s.engines t).pc = .pmtudTooBig size) :
      Update env s (.pmtudClamp t) t (Session.clampPmtud size)
  | polled {t resp} (pc : (s.engines t).pc = .polled resp) :
      Update env s (.pollApply t) t (Session.applyPolled t resp)
  | late {b parsed target} (phase : (s.receivers b).phase = .missed parsed)
      (dest : parsed.original_dest = some target) :
      Update env s (.recordLate b) target fun x =>
        x.recordEvent (lateReplyEvent (env.receiver b) parsed (x.offsetMs s.now))
  | applied {b resp batch} (phase : (s.receivers b).phase = .applying)
      (head : (s.receivers b).batch = resp :: batch) :
      Update env s (.apply b) resp.target (Session.applyResponse (env.receiver b) s.now resp)
  | timedOut {b key probe timed_out flush}
      (phase : (s.receivers b).phase = .recording ((key, probe) :: timed_out) flush) :
      Update env s (.recordTimeout b) key.target
        (Session.recordPendingTimeout s.now (! flush) (! flush) key probe)
  | reset {t} : Update env s (.reset t) t fun x => x.resetStats s.now
  | pause {t paused} : Update env s (.pause t paused) t fun x => { x with paused := paused }

/-- A step updates one session or none. -/
theorem Step.sessions (h : Step env s a s') :
    s'.sessions = s.sessions ∨
      ∃ t f, Update env s a t f ∧ s'.sessions = KeyMap.modify s.sessions t f := by
  cases h with
  | sendOk pc => exact Or.inr ⟨_, _, .sent pc, rfl⟩
  | pmtudCheck pc entry => exact Or.inr ⟨_, _, .pmtudCheck pc, rfl⟩
  | pmtudSendOk pc => exact Or.inr ⟨_, _, .pmtudSent pc, rfl⟩
  | pmtudClamp pc => exact Or.inr ⟨_, _, .clamp pc, rfl⟩
  | pollApply pc => exact Or.inr ⟨_, _, .polled pc, rfl⟩
  | recordLate phase dest => exact Or.inr ⟨_, _, .late phase dest, rfl⟩
  | apply phase head => exact Or.inr ⟨_, _, .applied phase head, rfl⟩
  | recordTimeout phase => exact Or.inr ⟨_, _, .timedOut phase, rfl⟩
  | reset => exact Or.inr ⟨_, _, .reset, rfl⟩
  | pause => exact Or.inr ⟨_, _, .pause, rfl⟩
  | _ => exact Or.inl rfl

/-- A session after a step is the session before it, updated or not. -/
theorem Step.lookup_session {t : IpAddr} {x' : Session} (h : Step env s a s')
    (hl : s'.sessions.lookup t = some x') :
    ∃ x, s.sessions.lookup t = some x ∧ (x' = x ∨ ∃ f, Update env s a t f ∧ x' = f x) := by
  rcases h.sessions with hs | ⟨t', f, hu, hs⟩
  · exact ⟨x', by rw [← hs]; exact hl, Or.inl rfl⟩
  · rw [hs, KeyMap.lookup_modify] at hl
    split_ifs at hl with ht
    · subst ht
      obtain ⟨x, hx, rfl⟩ := Option.map_eq_some_iff.mp hl
      exact ⟨x, hx, Or.inr ⟨f, hu, rfl⟩⟩
    · exact ⟨x', hl, Or.inl rfl⟩

/-- The actions that change a receiver, with what it becomes. -/
inductive Turn (env : Env) (s : Tracer) (b : Bool) : Action → Receiver → Prop
  | receive {parsed response_ttl targets key probe} (phase : (s.receivers b).phase = .draining)
      (perm : targets.Perm s.sessions.keys)
      (found : matchReply (env.receiver b) s.pending targets parsed = some key)
      (entry : s.pending.lookup key = some probe) :
      Turn env s b (.receive b parsed response_ttl targets)
        ⟨.draining, (s.receivers b).batch ++ [batchResponse parsed response_ttl probe s.now]⟩
  | shift {a phase} (shift : Shift env s b a phase) : Turn env s b a ⟨phase, (s.receivers b).batch⟩
  | recordLate {parsed} (phase : (s.receivers b).phase = .missed parsed) :
      Turn env s b (.recordLate b) ⟨.draining, (s.receivers b).batch⟩
  | apply {resp batch} (phase : (s.receivers b).phase = .applying)
      (head : (s.receivers b).batch = resp :: batch) : Turn env s b (.apply b) ⟨.applying, batch⟩
  | expire {flush} (phase : (s.receivers b).phase = .cleanup flush) :
      Turn env s b (.expire b) ⟨.recording (expiring env s b flush) flush, (s.receivers b).batch⟩
  | recordTimeout {key probe timed_out flush}
      (phase : (s.receivers b).phase = .recording ((key, probe) :: timed_out) flush) :
      Turn env s b (.recordTimeout b) ⟨.recording timed_out flush, (s.receivers b).batch⟩

/-- A step leaves a receiver alone or changes it in one of these ways. -/
theorem Step.receiver_cases (h : Step env s a s') (b : Bool) :
    s'.receivers b = s.receivers b ∨ Turn env s b a (s'.receivers b) := by
  -- Every step updates the receiver of one family at most.
  have hupdate : ∀ {b' : Bool} {r : Receiver}, s'.receivers = Function.update s.receivers b' r →
      Turn env s b' a r → s'.receivers b = s.receivers b ∨ Turn env s b a (s'.receivers b) := by
    intro b' r he hturn
    rw [he]
    by_cases hb : b = b'
    · subst hb
      rw [Function.update_self]
      exact Or.inr hturn
    · exact Or.inl (Function.update_of_ne hb _ _)
  cases h with
  | receive phase perm found entry => exact hupdate rfl (.receive phase perm found entry)
  | shift shift => exact hupdate rfl (.shift shift)
  | recordLate phase dest => exact hupdate rfl (.recordLate phase)
  | apply phase head => exact hupdate rfl (.apply phase head)
  | expire phase => exact hupdate rfl (.expire phase)
  | recordTimeout phase => exact hupdate rfl (.recordTimeout phase)
  | _ => exact Or.inl rfl

/-- A response in a receiver's batch was there before the step, or the step matched it. -/
theorem Step.mem_batch {b : Bool} {resp : BatchedResponse} (h : Step env s a s')
    (hm : resp ∈ (s'.receivers b).batch) :
    resp ∈ (s.receivers b).batch ∨
      ∃ parsed response_ttl targets key probe, a = .receive b parsed response_ttl targets ∧
        targets.Perm s.sessions.keys ∧
        matchReply (env.receiver b) s.pending targets parsed = some key ∧
        s.pending.lookup key = some probe ∧
        resp = batchResponse parsed response_ttl probe s.now := by
  rcases h.receiver_cases b with he | hturn
  · rw [he] at hm
    exact Or.inl hm
  generalize s'.receivers b = r at hturn hm
  cases hturn with
  | receive phase perm found entry =>
    rcases List.mem_append.mp hm with hm | hm
    · exact Or.inl hm
    · exact Or.inr ⟨_, _, _, _, _, rfl, perm, found, entry, List.mem_singleton.mp hm⟩
  | apply phase head =>
    -- What is left of the batch was in it.
    rw [head]
    exact Or.inl (List.mem_cons_of_mem _ hm)
  | _ => exact Or.inl hm

/-- An entry that a receiver has removed as timed out had been removed before the step, or the step
removed it. -/
theorem Step.mem_timedOut {b : Bool} {e : PendingKey × PendingProbe} (h : Step env s a s')
    (hm : e ∈ (s'.receivers b).timedOut) :
    e ∈ (s.receivers b).timedOut ∨
      ∃ flush, a = .expire b ∧ (s.receivers b).phase = .cleanup flush ∧
        s.pending.lookup e.1 = some e.2 ∧ expires env s b flush e.2 = true := by
  rcases h.receiver_cases b with he | hturn
  · rw [he] at hm
    exact Or.inl hm
  generalize s'.receivers b = r at hturn hm
  cases hturn with
  | @expire flush phase =>
    obtain ⟨⟨key, probe⟩, hmem, rfl⟩ := List.mem_map.mp hm
    obtain ⟨hmem, hex⟩ := List.mem_filter.mp hmem
    exact Or.inr ⟨flush, rfl, phase, AList.mem_lookup_iff.mpr hmem, hex⟩
  | recordTimeout phase =>
    simp only [Receiver.timedOut, phase]
    exact Or.inl (List.mem_cons_of_mem _ hm)
  | shift shift =>
    -- No shift leads into recording, where timed-out entries are held.
    cases shift with
    | @recorded flush phase => cases flush <;> cases hm
    | _ => cases hm
  | _ => cases hm

/-- The actions that take the engine of a target to another place in its loop, with the place. -/
inductive Advance (env : Env) (s : Tracer) (t : IpAddr) : Action → EnginePc → Prop
  | move {a pc} (move : Move env s t a pc) : Advance env s t a pc
  | finish (pc : (s.engines t).pc = .waiting) : Advance env s t (.tick t) .stopped
  | register {flow_id ttl todo} (pc : (s.engines t).pc = .probing ((flow_id, ttl) :: todo)) :
      Advance env s t (.register t) (.registered flow_id ttl todo)
  | sendOk {flow_id ttl todo} (pc : (s.engines t).pc = .registered flow_id ttl todo) :
      Advance env s t (.sendOk t) (.probing todo)
  | sendErr {flow_id ttl todo} (pc : (s.engines t).pc = .registered flow_id ttl todo) :
      Advance env s t (.sendErr t) (.probing todo)
  | ready {dest_ttl session} (pc : (s.engines t).pc = .probing [])
      (entry : s.sessions.lookup t = some session) (dest : session.dest_ttl = some dest_ttl) :
      Advance env s t (.pmtudCheck t) (.pmtudReady dest_ttl)
  | notReady (pc : (s.engines t).pc = .probing []) : Advance env s t (.pmtudCheck t) .polling
  | pmtudRegister {dest_ttl size} (pc : (s.engines t).pc = .pmtudSized dest_ttl size) :
      Advance env s t (.pmtudRegister t) (.pmtudRegistered dest_ttl size)
  | pmtudSendOk {dest_ttl size} (pc : (s.engines t).pc = .pmtudRegistered dest_ttl size) :
      Advance env s t (.pmtudSendOk t) .polling
  | tooBig {dest_ttl size} (pc : (s.engines t).pc = .pmtudRegistered dest_ttl size) :
      Advance env s t (.pmtudSendErr t true) (.pmtudTooBig size)
  | pmtudSendErr {dest_ttl size} (pc : (s.engines t).pc = .pmtudRegistered dest_ttl size) :
      Advance env s t (.pmtudSendErr t false) .polling
  | pmtudClamp {size} (pc : (s.engines t).pc = .pmtudTooBig size) :
      Advance env s t (.pmtudClamp t) .polling
  | poll {parsed response_ttl key probe} (pc : (s.engines t).pc = .polling)
      (found : pollMatch s.pending t parsed = some key)
      (entry : s.pending.lookup key = some probe) :
      Advance env s t (.poll t parsed response_ttl)
        (.polled (pollResponse parsed response_ttl probe s.now))
  | pollApply {resp} (pc : (s.engines t).pc = .polled resp) : Advance env s t (.pollApply t) .polling
  | endRound (pc : (s.engines t).pc = .polling) : Advance env s t (.endRound t) .waiting

/-- A step leaves an engine alone or takes it to another place. -/
theorem Step.engine_cases (h : Step env s a s') (t : IpAddr) :
    s'.engines t = s.engines t ∨ Advance env s t a (s'.engines t).pc := by
  -- Every step updates the engine of one target at most.
  have hupdate : ∀ {t' : IpAddr} {e : Engine}, s'.engines = Function.update s.engines t' e →
      Advance env s t' a e.pc → s'.engines t = s.engines t ∨ Advance env s t a (s'.engines t).pc := by
    intro t' e he hadv
    rw [he]
    by_cases ht : t = t'
    · subst ht
      rw [Function.update_self]
      exact Or.inr hadv
    · exact Or.inl (Function.update_of_ne ht _ _)
  cases h with
  | move move => exact hupdate rfl (.move move)
  | finish pc entry running limit done => exact hupdate rfl (.finish pc)
  | register pc => exact hupdate rfl (.register pc)
  | sendOk pc => exact hupdate rfl (.sendOk pc)
  | sendErr pc => exact hupdate rfl (.sendErr pc)
  | @pmtudCheck t' session pc entry =>
    refine hupdate rfl ?_
    dsimp only
    split
    · next dest_ttl hready => exact .ready pc entry (Session.checkPmtudReady_dest_ttl hready)
    · exact .notReady pc
  | pmtudRegister pc => exact hupdate rfl (.pmtudRegister pc)
  | pmtudSendOk pc => exact hupdate rfl (.pmtudSendOk pc)
  | @pmtudSendErr t' dest_ttl size emsgsize pc =>
    refine hupdate rfl ?_
    cases emsgsize with
    | true => exact .tooBig pc
    | false => exact .pmtudSendErr pc
  | pmtudClamp pc => exact hupdate rfl (.pmtudClamp pc)
  | poll pc found entry => exact hupdate rfl (.poll pc found entry)
  | pollApply pc => exact hupdate rfl (.pollApply pc)
  | endRound pc => exact hupdate rfl (.endRound pc)
  | _ => exact Or.inl rfl

/-- An engine counts a round, and takes the next sequence number, when the round ends. A path MTU probe
takes the next one of its own when it is sent. -/
theorem Step.counters (h : Step env s a s') (t : IpAddr) :
    (s'.engines t).rounds_completed =
        (s.engines t).rounds_completed + (if a = .endRound t then 1 else 0) ∧
      (s'.engines t).seq = (s.engines t).seq + (if a = .endRound t then 1 else 0) ∧
      (s'.engines t).pmtud_seq =
        (s.engines t).pmtud_seq + if a = .pmtudSendOk t then 1 else 0 := by
  -- The other steps leave the three alone.
  have hsame : a ≠ .endRound t → a ≠ .pmtudSendOk t →
      (s'.engines t).rounds_completed = (s.engines t).rounds_completed ∧
        (s'.engines t).seq = (s.engines t).seq ∧ (s'.engines t).pmtud_seq = (s.engines t).pmtud_seq →
      (s'.engines t).rounds_completed =
          (s.engines t).rounds_completed + (if a = .endRound t then 1 else 0) ∧
        (s'.engines t).seq = (s.engines t).seq + (if a = .endRound t then 1 else 0) ∧
        (s'.engines t).pmtud_seq =
          (s.engines t).pmtud_seq + if a = .pmtudSendOk t then 1 else 0 := by
    rintro hend hsent ⟨h1, h2, h3⟩
    rw [h1, h2, h3, if_neg hend, if_neg hend, if_neg hsent, Nat.add_zero, UInt8.add_zero,
      UInt8.add_zero]
    exact ⟨rfl, rfl, rfl⟩
  have hupdate : ∀ {t' : IpAddr} {pc : EnginePc}, s'.engines = (s.setPc t' pc).engines →
      (s'.engines t).rounds_completed = (s.engines t).rounds_completed ∧
        (s'.engines t).seq = (s.engines t).seq ∧
        (s'.engines t).pmtud_seq = (s.engines t).pmtud_seq := by
    intro t' pc he
    rw [he, setPc_engines, Function.update_apply]
    split_ifs with ht
    · rw [ht]
      exact ⟨rfl, rfl, rfl⟩
    · exact ⟨rfl, rfl, rfl⟩
  cases h with
  | @endRound t' pc =>
    by_cases ht : t = t'
    · subst ht
      simp [finishRound_engines]
    · have ht' : Action.endRound t' ≠ .endRound t := fun he => ht (Action.endRound.inj he).symm
      refine hsame ht' (by simp) ?_
      rw [finishRound_engines, Function.update_of_ne ht]
      exact ⟨rfl, rfl, rfl⟩
  | @pmtudSendOk t' _ _ pc =>
    by_cases ht : t = t'
    · subst ht
      simp
    · have ht' : Action.pmtudSendOk t' ≠ .pmtudSendOk t := fun he =>
        ht (Action.pmtudSendOk.inj he).symm
      refine hsame (by simp) ht' ?_
      simp only [Function.update_of_ne ht, and_self]
  | move move => exact hsame (by rintro rfl; cases move) (by rintro rfl; cases move) (hupdate rfl)
  | finish | register | sendOk | sendErr | pmtudCheck | pmtudRegister | pmtudSendErr | pmtudClamp | poll
  | pollApply => exact hsame (by simp) (by simp) (hupdate rfl)
  | shift shift =>
    exact hsame (by rintro rfl; cases shift) (by rintro rfl; cases shift) ⟨rfl, rfl, rfl⟩
  | _ => exact hsame (by simp) (by simp) ⟨rfl, rfl, rfl⟩

/-- A response that an engine has polled was polled before the step, or the step polled it. -/
theorem Step.pc_polled {t : IpAddr} {resp : PolledResponse} (h : Step env s a s')
    (hpc : (s'.engines t).pc = .polled resp) :
    (s.engines t).pc = .polled resp ∨
      ∃ parsed response_ttl key probe, a = .poll t parsed response_ttl ∧
        pollMatch s.pending t parsed = some key ∧ s.pending.lookup key = some probe ∧
        resp = pollResponse parsed response_ttl probe s.now := by
  rcases h.engine_cases t with he | hadv
  · rw [he] at hpc
    exact Or.inl hpc
  · rw [hpc] at hadv
    cases hadv with
    | move move => cases move
    | poll pc found entry => exact Or.inr ⟨_, _, _, _, rfl, found, entry, rfl⟩

end

end Tracer

end Ttl
