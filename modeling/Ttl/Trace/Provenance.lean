import Ttl.Trace.Sound

/-!
# Where a response comes from

Every response that is counted goes back to an entry of the history. `Logs` says what each action adds
to the log. `Provenance` is the invariant over it: a pending probe was registered, a matched entry was
registered under a key with the reply's `ProbeId`, and every response in a batch, or held by the poll,
is that of a logged match.
-/

namespace Ttl

open Runs

namespace Tracer

/-- What an action adds to the log. -/
inductive Logs (env : Env) (s : Tracer) : Action → Occurrence → Prop
  | registered {a key probe} (registers : Registers env s a key probe) :
      Logs env s a (.registered key probe)
  | unsent {t flow_id ttl todo} (pc : (s.engines t).pc = .registered flow_id ttl todo)
      (mem : s.normalKey t flow_id ttl ∈ s.pending) :
      Logs env s (.sendErr t) (.unsent (s.normalKey t flow_id ttl))
  | pmtudUnsent {t dest_ttl size emsgsize} (pc : (s.engines t).pc = .pmtudRegistered dest_ttl size)
      (mem : s.pmtudKey t dest_ttl ∈ s.pending) :
      Logs env s (.pmtudSendErr t emsgsize) (.unsent (s.pmtudKey t dest_ttl))
  | matched {b parsed response_ttl targets key probe} (perm : targets.Perm s.sessions.keys)
      (found : matchReply (env.receiver b) s.pending targets parsed = some key)
      (entry : s.pending.lookup key = some probe) :
      Logs env s (.receive b parsed response_ttl targets) (.matched b parsed key probe)
  | polled {t parsed response_ttl key probe} (found : pollMatch s.pending t parsed = some key)
      (entry : s.pending.lookup key = some probe) :
      Logs env s (.poll t parsed response_ttl) (.polled parsed key probe)
  | expired {b flush key probe} (phase : (s.receivers b).phase = .cleanup flush)
      (entry : s.pending.lookup key = some probe) (old : expires env s b flush probe = true) :
      Logs env s (.expire b) (.expired key probe flush s.now)

section

variable {env : Env} {s s' : Tracer} {a : Action}

/-- A logged occurrence was logged before the step, or the step logs it. -/
theorem Step.mem_log {o : Occurrence} (h : Step env s a s') (hm : o ∈ s'.log) :
    o ∈ s.log ∨ Logs env s a o := by
  have happend : ∀ {os : List Occurrence}, o ∈ s.log ++ os →
      (o ∈ os → Logs env s a o) → o ∈ s.log ∨ Logs env s a o :=
    fun hm hos => (List.mem_append.mp hm).imp id hos
  cases h with
  | register pc =>
    refine happend hm fun ho => ?_
    obtain rfl := List.mem_singleton.mp ho
    exact .registered (.normal pc)
  | pmtudRegister pc =>
    refine happend hm fun ho => ?_
    obtain rfl := List.mem_singleton.mp ho
    exact .registered (.pmtud pc)
  | sendErr pc =>
    refine happend hm fun ho => ?_
    split_ifs at ho with hmem
    · obtain rfl := List.mem_singleton.mp ho
      exact .unsent pc hmem
    · cases ho
  | pmtudSendErr pc =>
    refine happend hm fun ho => ?_
    split_ifs at ho with hmem
    · obtain rfl := List.mem_singleton.mp ho
      exact .pmtudUnsent pc hmem
    · cases ho
  | poll pc found entry =>
    refine happend hm fun ho => ?_
    obtain rfl := List.mem_singleton.mp ho
    exact .polled found entry
  | receive phase perm found entry =>
    refine happend hm fun ho => ?_
    obtain rfl := List.mem_singleton.mp ho
    exact .matched perm found entry
  | expire phase =>
    refine happend hm fun ho => ?_
    -- An expired entry is one that the map retains under the opposite test.
    obtain ⟨e, he, rfl⟩ := List.mem_map.mp ho
    obtain ⟨⟨key, probe⟩, hmem, rfl⟩ := List.mem_map.mp he
    obtain ⟨hmem, hold⟩ := List.mem_filter.mp hmem
    exact .expired phase (AList.mem_lookup_iff.mpr hmem) hold
  | _ => exact Or.inl hm

/-- The log only grows. -/
theorem Step.log_subset {o : Occurrence} (h : Step env s a s') (hm : o ∈ s.log) : o ∈ s'.log := by
  cases h with
  | register | pmtudRegister | sendErr | pmtudSendErr | poll | receive | expire =>
    exact List.mem_append_left _ hm
  | _ => exact hm

/-- What an action adds to the log is in the log after it. -/
theorem Step.log_of_logs {o : Occurrence} (h : Step env s a s') (ho : Logs env s a o) :
    o ∈ s'.log := by
  have hlast : ∀ {os : List Occurrence}, o ∈ os → o ∈ s.log ++ os := List.mem_append_right _
  -- The action determines the step, and the facts about the match determine the entry.
  cases ho with
  | registered registers =>
    cases registers with
    | normal pc =>
      cases h with
      | register pc' =>
        cases pc.symm.trans pc'
        exact hlast (List.mem_singleton_self _)
      | move move => cases move
      | shift shift => cases shift
    | pmtud pc =>
      cases h with
      | pmtudRegister pc' =>
        cases pc.symm.trans pc'
        exact hlast (List.mem_singleton_self _)
      | move move => cases move
      | shift shift => cases shift
  | unsent pc mem =>
    cases h with
    | sendErr pc' =>
      cases pc.symm.trans pc'
      refine hlast ?_
      rw [if_pos mem]
      exact List.mem_singleton_self _
    | move move => cases move
    | shift shift => cases shift
  | pmtudUnsent pc mem =>
    cases h with
    | pmtudSendErr pc' =>
      cases pc.symm.trans pc'
      refine hlast ?_
      rw [if_pos mem]
      exact List.mem_singleton_self _
    | move move => cases move
    | shift shift => cases shift
  | matched perm found entry =>
    cases h with
    | receive phase perm found' entry' =>
      cases found.symm.trans found'
      cases entry.symm.trans entry'
      exact hlast (List.mem_singleton_self _)
    | move move => cases move
    | shift shift =>
      cases shift with
      | missed phase perm noMatch => cases found.symm.trans noMatch
  | polled found entry =>
    cases h with
    | poll pc found' entry' =>
      cases found.symm.trans found'
      cases entry.symm.trans entry'
      exact hlast (List.mem_singleton_self _)
    | pollMiss noMatch => cases found.symm.trans noMatch
    | move move => cases move
    | shift shift => cases shift
  | @expired b flush key probe phase entry old =>
    cases h with
    | expire phase' =>
      cases phase.symm.trans phase'
      refine hlast (List.mem_map.mpr ⟨(key, probe), List.mem_map.mpr ⟨⟨key, probe⟩, ?_, rfl⟩, rfl⟩)
      exact List.mem_filter.mpr ⟨AList.mem_lookup_iff.mp entry, old⟩
    | move move => cases move
    | shift shift => cases shift

/-- Where the pending probes and the responses in transit come from. -/
structure Provenance (s : Tracer) : Prop where
  /-- A pending probe was registered. -/
  pending : ∀ key probe, s.pending.lookup key = some probe → .registered key probe ∈ s.log
  /-- A matched entry was registered, and its key agrees with the reply and with the probe. -/
  matched : ∀ b parsed key probe, .matched b parsed key probe ∈ s.log →
    .registered key probe ∈ s.log ∧ key.probe_id = parsed.probe_id ∧ key.Agrees probe
  /-- So was a polled one, and the poll takes Echo Replies only. -/
  polled : ∀ parsed key probe, .polled parsed key probe ∈ s.log →
    .registered key probe ∈ s.log ∧ key.probe_id = parsed.probe_id ∧ key.Agrees probe ∧
      parsed.response_type = .EchoReply
  /-- A response in a batch is that of a match. -/
  batch : ∀ b, ∀ resp ∈ (s.receivers b).batch, ∃ parsed response_ttl key probe now,
    .matched b parsed key probe ∈ s.log ∧ resp = batchResponse parsed response_ttl probe now
  /-- A polled response is that of a match of its engine's target. -/
  engine : ∀ t resp, (s.engines t).pc = .polled resp → ∃ parsed response_ttl key probe now,
    .polled parsed key probe ∈ s.log ∧ key.target = t ∧
      resp = pollResponse parsed response_ttl probe now

/-- Every step keeps the provenance of what is pending and held. -/
theorem Provenance.step (hp : s.Provenance) (hs : Sound env s) (h : Step env s a s') :
    s'.Provenance where
  pending := by
    intro key probe hl
    rcases h.lookup_pending hl with hl | hr
    · exact h.log_subset (hp.pending key probe hl)
    · exact h.log_of_logs (.registered hr)
  matched := by
    intro b parsed key probe hm
    rcases h.mem_log hm with hm | hlog
    · obtain ⟨hreg, hrest⟩ := hp.matched b parsed key probe hm
      exact ⟨h.log_subset hreg, hrest⟩
    · cases hlog with
      | matched perm found entry =>
        exact ⟨h.log_subset (hp.pending key probe entry), (matchReply_spec found).2,
          hs.keyed key probe entry⟩
  polled := by
    intro parsed key probe hm
    rcases h.mem_log hm with hm | hlog
    · obtain ⟨hreg, hrest⟩ := hp.polled parsed key probe hm
      exact ⟨h.log_subset hreg, hrest⟩
    · cases hlog with
      | polled found entry =>
        obtain ⟨-, hkey, hecho⟩ := pollMatch_spec found
        exact ⟨h.log_subset (hp.pending key probe entry), by rw [hkey],
          hs.keyed key probe entry, hecho⟩
  batch := by
    intro b resp hm
    rcases h.mem_batch hm with hm | ⟨parsed, rttl, targets, key, probe, rfl, hperm, hfound, hl, rfl⟩
    · obtain ⟨parsed, rttl, key, probe, now, hlog, hresp⟩ := hp.batch b resp hm
      exact ⟨parsed, rttl, key, probe, now, h.log_subset hlog, hresp⟩
    · exact ⟨parsed, rttl, key, probe, s.now, h.log_of_logs (.matched hperm hfound hl), rfl⟩
  engine := by
    intro t resp hpc
    rcases h.pc_polled hpc with hpc | ⟨parsed, rttl, key, probe, rfl, hfound, hl, rfl⟩
    · obtain ⟨parsed, rttl, key, probe, now, hlog, hresp⟩ := hp.engine t resp hpc
      exact ⟨parsed, rttl, key, probe, now, h.log_subset hlog, hresp⟩
    · refine ⟨parsed, rttl, key, probe, s.now, ?_, ?_, rfl⟩
      · exact h.log_of_logs (.polled hfound hl)
      · rw [(pollMatch_spec hfound).2.1]

/-- Nothing is, at the start. -/
theorem provenance_init (targets : List IpAddr) (now : ℕ) : (init env targets now).Provenance where
  pending := by intro key probe h; cases h
  matched := by intro b parsed key probe h; cases h
  polled := by intro parsed key probe h; cases h
  batch := by intro b resp h; cases h
  engine := by
    intro t resp h
    simp only [init] at h
    split_ifs at h

/-- Every reachable state has a provenance. -/
theorem provenance_run {targets : List IpAddr} {now : ℕ} {as : List Action}
    (h : run (step env) (init env targets now) as = some s) : Sound env s ∧ s.Provenance :=
  run_induction (fun _ s => Sound env s ∧ s.Provenance)
    ⟨sound_init targets now, provenance_init targets now⟩
    (fun _ _ _ _ _ ih hstep => ⟨ih.1.step (.of_step hstep), ih.2.step ih.1 (.of_step hstep)⟩) as s h

end

end Tracer

end Ttl
