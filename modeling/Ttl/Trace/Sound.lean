import Ttl.Trace.Step

/-!
# What holds of every reachable state

`Sound` is the structural invariant of a run: every session belongs to its target, every key agrees with
its probe wherever the two are held, and every TTL that an engine or a pending probe mentions has a hop
in its target's session. It holds in every reachable state, whatever the network, the user and the
schedule do (`sound_run`).
-/

namespace Ttl

open Runs

namespace Session

/-- A session is that of the target `t` with the given configuration. -/
structure Belongs (config : Config) (t : IpAddr) (x : Session) : Prop where
  target : x.target = t
  config_eq : x.config = config
  /-- One hop for each TTL up to the maximum. -/
  length : x.hops.length = config.max_ttl.toNat
  /-- The destination was reached within the maximum. -/
  dest : ∀ d, x.dest_ttl = some d → d ≠ 0 ∧ d ≤ config.max_ttl

variable {config : Config} {t : IpAddr} {x : Session}

/-- A new session belongs to its target. -/
theorem belongs_new (now : ℕ) : (new t config now).Belongs config t where
  target := rfl
  config_eq := rfl
  length := by simp [new, ttls]
  dest := by intro d h; cases h

/-- A TTL up to the maximum has a hop. -/
theorem Belongs.isSome_hop (h : x.Belongs config t) {ttl : UInt8} (hne : ttl ≠ 0)
    (hle : ttl ≤ config.max_ttl) : (x.hop ttl).isSome := by
  rw [Session.isSome_hop, h.length]
  exact ⟨hne, hle⟩

/-- The TTLs of a round are up to the maximum. -/
theorem Belongs.mem_ttls (h : x.Belongs config t) {ttl : UInt8} (hm : ttl ∈ ttls x.maxProbeTtl) :
    ttl ≠ 0 ∧ ttl ≤ config.max_ttl := by
  obtain ⟨hne, hle⟩ := Session.mem_ttls.mp hm
  refine ⟨hne, UInt8.le_trans hle ?_⟩
  unfold maxProbeTtl
  cases hd : x.dest_ttl with
  | none =>
    rw [Option.getD_none, h.config_eq]
    exact UInt8.le_refl _
  | some d => exact (h.dest d hd).2

/-- Marking a TTL up to the maximum as the destination's. -/
theorem Belongs.markDestination (h : x.Belongs config t) {ttl : UInt8} (hne : ttl ≠ 0)
    (hle : ttl ≤ config.max_ttl) {d : UInt8} (hd : (x.markDestination ttl).dest_ttl = some d) :
    d ≠ 0 ∧ d ≤ config.max_ttl := by
  rw [markDestination_dest_ttl] at hd
  split at hd
  · obtain rfl := Option.some.inj hd
    exact ⟨hne, hle⟩
  · next d' hd' =>
    split_ifs at hd
    · obtain rfl := Option.some.inj hd
      exact ⟨hne, hle⟩
    · obtain rfl := Option.some.inj hd
      exact h.dest _ hd'

/-- A session that keeps its hops, and whose destination stays or is marked within the maximum. -/
theorem Belongs.congr {x' : Session} (h : x.Belongs config t) {ttl : UInt8} (hne : ttl ≠ 0)
    (hle : ttl ≤ config.max_ttl) (target : x'.target = x.target) (config_eq : x'.config = x.config)
    (length : x'.hops.length = x.hops.length)
    (dest : x'.dest_ttl = x.dest_ttl ∨ x'.dest_ttl = (x.markDestination ttl).dest_ttl) :
    x'.Belongs config t := by
  refine ⟨target.trans h.target, config_eq.trans h.config_eq, length.trans h.length, fun d hd => ?_⟩
  rcases dest with hsame | hmark
  · rw [hsame] at hd
    exact h.dest d hd
  · rw [hmark] at hd
    exact h.markDestination hne hle hd

end Session

/-- The TTLs that an engine is going to use. -/
def EnginePc.ttls : EnginePc → List UInt8
  | .probing todo => todo.map Prod.snd
  | .registered _ ttl todo => ttl :: todo.map Prod.snd
  | .pmtudReady dest_ttl | .pmtudSized dest_ttl _ | .pmtudRegistered dest_ttl _ => [dest_ttl]
  | _ => []

namespace Tracer

/-- The target is traced, and the TTL has a hop in its session. -/
def Covers (env : Env) (s : Tracer) (t : IpAddr) (ttl : UInt8) : Prop :=
  t ∈ s.sessions ∧ ttl ≠ 0 ∧ ttl ≤ (env.config t).max_ttl

/-- The structural invariant. -/
structure Sound (env : Env) (s : Tracer) : Prop where
  /-- Every session belongs to its target. -/
  sessions : ∀ t x, s.sessions.lookup t = some x → x.Belongs (env.config t) t
  /-- Every pending key agrees with its probe. -/
  keyed : s.pending.WellKeyed
  /-- Every pending probe has a hop. -/
  pending : ∀ key ∈ s.pending, s.Covers env key.target key.probe_id.ttl
  /-- Every response in a batch has a hop. -/
  batch : ∀ b, ∀ resp ∈ (s.receivers b).batch, s.Covers env resp.target resp.probe_id.ttl
  /-- So has every probe that is being recorded as timed out, and its key agrees with it. -/
  timedOut : ∀ b, ∀ e ∈ (s.receivers b).timedOut,
    e.1.Agrees e.2 ∧ s.Covers env e.1.target e.1.probe_id.ttl
  /-- So has every polled response. -/
  polled : ∀ t resp, (s.engines t).pc = .polled resp → s.Covers env t resp.probe_id.ttl
  /-- So has every TTL that an engine is going to use. -/
  todo : ∀ t, ∀ ttl ∈ (s.engines t).pc.ttls, s.Covers env t ttl

section

variable {env : Env} {s s' : Tracer} {a : Action}

/-- No step adds or drops a session. -/
theorem Step.mem_sessions (h : Step env s a s') (t : IpAddr) : t ∈ s'.sessions ↔ t ∈ s.sessions := by
  rcases h.sessions with hs | ⟨t', f, -, hs⟩
  · rw [hs]
  · rw [hs, KeyMap.mem_modify]

/-- A TTL that has a hop in a target's session keeps it. -/
theorem Covers.step {t : IpAddr} {ttl : UInt8} (hc : s.Covers env t ttl) (h : Step env s a s') :
    s'.Covers env t ttl :=
  ⟨(h.mem_sessions t).mpr hc.1, hc.2⟩

/-- A covered TTL has a hop. -/
theorem Sound.hop {t : IpAddr} {ttl : UInt8} (hs : Sound env s) (hc : s.Covers env t ttl) :
    ∃ x, s.sessions.lookup t = some x ∧ (x.hop ttl).isSome := by
  obtain ⟨x, hx⟩ := Option.isSome_iff_exists.mp (AList.lookup_isSome.mpr hc.1)
  exact ⟨x, hx, (hs.sessions t x hx).isSome_hop hc.2.1 hc.2.2⟩

/-- A TTL in the loop of an engine was there before the step, or comes from the session, or is the
destination's. -/
theorem Step.mem_ttls {t : IpAddr} {ttl : UInt8} (h : Step env s a s')
    (hm : ttl ∈ (s'.engines t).pc.ttls) :
    ttl ∈ (s.engines t).pc.ttls ∨
      ∃ x, s.sessions.lookup t = some x ∧
        (ttl ∈ Session.ttls x.maxProbeTtl ∨ x.dest_ttl = some ttl) := by
  rcases h.engine_cases t with he | hadv
  · rw [he] at hm
    exact Or.inl hm
  generalize (s'.engines t).pc = pc' at hadv hm
  cases hadv with
  | move move =>
    cases move with
    | @beginRound session pc entry =>
      -- A round probes each TTL of the session once for each flow.
      refine Or.inr ⟨session, entry, Or.inl ?_⟩
      simp only [EnginePc.ttls, probeOrder, List.map_flatMap, List.mem_flatMap, List.map_map,
        List.mem_map] at hm
      obtain ⟨f, -, k, hk, rfl⟩ := hm
      exact hk
    | skip pc =>
      rw [pc]
      exact Or.inl (List.mem_cons_of_mem _ hm)
    | sized pc entry read =>
      rw [pc]
      exact Or.inl hm
    | _ => cases hm
  | register pc =>
    rw [pc]
    exact Or.inl hm
  | sendOk pc =>
    rw [pc]
    exact Or.inl (List.mem_cons_of_mem _ hm)
  | sendErr pc =>
    rw [pc]
    exact Or.inl (List.mem_cons_of_mem _ hm)
  | @ready dest_ttl session pc entry dest =>
    obtain rfl := List.mem_singleton.mp hm
    exact Or.inr ⟨session, entry, Or.inr dest⟩
  | pmtudRegister pc =>
    rw [pc]
    exact Or.inl hm
  | _ => cases hm

/-- An update leaves a session with its target. -/
theorem Update.belongs {t : IpAddr} {f : Session → Session} {x : Session} (hu : Update env s a t f)
    (hs : Sound env s) (hx : x.Belongs (env.config t) t) : (f x).Belongs (env.config t) t := by
  have ⟨htarget, hconfig, hlength, hdest⟩ := hx
  cases hu with
  | sent pc =>
    rw [Session.recordProbeSent_eq]
    exact ⟨htarget, hconfig, (Session.length_hopMut _ _ _).trans hlength, hdest⟩
  | pmtudCheck pc =>
    obtain ⟨pmtud, heq, -⟩ := Session.checkPmtudReady_eq (env.config t) x
    dsimp only
    rw [heq]
    exact ⟨htarget, hconfig, hlength, hdest⟩
  | pmtudSent pc => exact ⟨htarget, hconfig, hlength, hdest⟩
  | clamp pc => exact ⟨htarget, hconfig, hlength, hdest⟩
  | @polled _ resp pc =>
    -- The destination is marked at the TTL of the probe, which is up to the maximum.
    obtain ⟨-, hne, hle⟩ := hs.polled t resp pc
    rw [Session.applyPolled_eq]
    refine hx.congr hne hle rfl rfl ?_ ?_
    · dsimp only
      split_ifs
      · rfl
      · exact Session.length_hopMut _ _ _
    · dsimp only
      split_ifs
      · exact Or.inr rfl
      · exact Or.inl rfl
  | late phase dest => exact ⟨htarget, hconfig, hlength, hdest⟩
  | @applied b resp batch phase head =>
    obtain ⟨-, hne, hle⟩ := hs.batch b resp (by rw [head]; exact List.mem_cons_self)
    obtain ⟨htarget', hconfig', -, hlength', -⟩ :=
      Session.applyResponse_frame (env.receiver b) s.now resp x
    refine hx.congr hne hle htarget' hconfig' hlength' ?_
    rw [Session.applyResponse_eq]
    dsimp only
    split_ifs
    · exact Or.inr rfl
    · exact Or.inl rfl
  | @timedOut b key probe timed_out flush phase =>
    obtain ⟨htarget', hconfig', -, hlength', -⟩ :=
      Session.recordPendingTimeout_frame s.now (! flush) (! flush) key probe x
    refine ⟨htarget'.trans htarget, hconfig'.trans hconfig, hlength'.trans hlength, ?_⟩
    rw [Session.recordPendingTimeout_eq]
    exact hdest
  | reset =>
    -- A reset forgets the destination and keeps the hops.
    exact ⟨htarget, hconfig, by simpa [Session.resetStats] using hlength, fun d hd => by cases hd⟩
  | pause => exact ⟨htarget, hconfig, hlength, hdest⟩

/-- A registered probe has a hop: its TTL is one that its engine was going to use. -/
theorem Registers.covers {key : PendingKey} {probe : PendingProbe} (h : Registers env s a key probe)
    (hs : Sound env s) : s.Covers env key.target key.probe_id.ttl := by
  cases h with
  | @normal t _ ttl _ pc => exact hs.todo t ttl (by rw [pc]; exact List.mem_cons_self)
  | @pmtud t dest_ttl _ pc => exact hs.todo t dest_ttl (by rw [pc]; exact List.mem_cons_self)

/-- Every step keeps the invariant. -/
theorem Sound.step (hs : Sound env s) (h : Step env s a s') : Sound env s' where
  sessions := by
    intro t x' hx'
    obtain ⟨x, hx, rfl | ⟨f, hu, rfl⟩⟩ := h.lookup_session hx'
    · exact hs.sessions t x' hx
    · exact hu.belongs hs (hs.sessions t x hx)
  keyed := by
    intro key probe hl
    rcases h.lookup_pending hl with hl | hr
    · exact hs.keyed key probe hl
    · exact hr.agrees.1
  pending := by
    intro key hm
    obtain ⟨probe, hl⟩ := Option.isSome_iff_exists.mp (AList.lookup_isSome.mpr hm)
    rcases h.lookup_pending hl with hl | hr
    · exact (hs.pending key (AList.lookup_isSome.mp (by rw [hl]; rfl))).step h
    · exact (hr.covers hs).step h
  batch := by
    intro b resp hm
    rcases h.mem_batch hm with hm | ⟨parsed, _, _, key, probe, -, -, hmatch, hl, rfl⟩
    · exact (hs.batch b resp hm).step h
    · -- The response has the target and the TTL of the key that it matched.
      obtain ⟨hmem, hid⟩ := matchReply_spec hmatch
      have hc := hs.pending key hmem
      rw [hid, ← (hs.keyed key probe hl).target] at hc
      exact hc.step h
  timedOut := by
    intro b e hm
    rcases h.mem_timedOut hm with hm | ⟨_, -, -, hl, -⟩
    · exact ⟨(hs.timedOut b e hm).1, (hs.timedOut b e hm).2.step h⟩
    · exact ⟨hs.keyed _ _ hl, (hs.pending _ (AList.lookup_isSome.mp (by rw [hl]; rfl))).step h⟩
  polled := by
    intro t resp hpc
    rcases h.pc_polled hpc with hpc | ⟨parsed, _, key, probe, -, hmatch, hl, rfl⟩
    · exact (hs.polled t resp hpc).step h
    · obtain ⟨hmem, hkey, -⟩ := pollMatch_spec hmatch
      have hc := hs.pending key hmem
      rw [hkey] at hc
      exact hc.step h
  todo := by
    intro t ttl hm
    rcases h.mem_ttls hm with hm | ⟨x, hx, hm | hd⟩
    · exact (hs.todo t ttl hm).step h
    · have hmem : t ∈ s.sessions := AList.lookup_isSome.mp (by rw [hx]; rfl)
      exact Covers.step ⟨hmem, (hs.sessions t x hx).mem_ttls hm⟩ h
    · have hmem : t ∈ s.sessions := AList.lookup_isSome.mp (by rw [hx]; rfl)
      exact Covers.step ⟨hmem, (hs.sessions t x hx).dest ttl hd⟩ h

/-- The sessions of the start of a run. -/
theorem lookup_init {targets : List IpAddr} {now : ℕ} {t : IpAddr} :
    (init env targets now).sessions.lookup t =
      if t ∈ targets then some (Session.new t (env.config t) now) else none := by
  have hfold : ∀ (targets : List IpAddr) (m : KeyMap IpAddr Session),
      (targets.foldl (fun m t => m.insert t (Session.new t (env.config t) now)) m).lookup t =
        if t ∈ targets then some (Session.new t (env.config t) now) else m.lookup t := by
    intro targets
    induction targets with
    | nil => intro m; rfl
    | cons u targets ih =>
      intro m
      rw [List.foldl_cons, ih, KeyMap.lookup_insert]
      by_cases hu : t = u
      · simp [hu]
      · simp [hu]
  rw [init, hfold]
  rfl

/-- The invariant holds at the start. -/
theorem sound_init (targets : List IpAddr) (now : ℕ) : Sound env (init env targets now) where
  sessions := by
    intro t x hx
    rw [lookup_init] at hx
    split_ifs at hx
    obtain rfl := Option.some.inj hx
    exact Session.belongs_new now
  keyed := by intro key probe h; cases h
  pending := by intro key h; cases h
  batch := by intro b resp h; cases h
  timedOut := by
    intro b e h
    simp only [init, Receiver.timedOut] at h
    split_ifs at h <;> cases h
  polled := by
    intro t resp h
    simp only [init] at h
    split_ifs at h
  todo := by
    intro t ttl h
    simp only [init] at h
    split_ifs at h <;> cases h

/-- Every reachable state is sound. -/
theorem sound_run {targets : List IpAddr} {now : ℕ} {as : List Action}
    (h : run (step env) (init env targets now) as = some s) : Sound env s :=
  run_induction (fun _ s => Sound env s) (sound_init targets now)
    (fun _ _ _ _ _ ih hstep => ih.step (.of_step hstep)) as s h

end

end Tracer

end Ttl
