import Ttl.Trace.FiniteRuns

/-!
# The rounds of an engine

An engine with a count stops after that many rounds. The history of a run keeps the rounds that each
engine has begun, with the probes of each, and `Rounded` says that a round is over when every flow and
TTL of it has had its turn.

All engines share one cancellation token, and the engine that completes its rounds cancels it. The
others stop at their next wait, so `rounds_complete` asks that an engine completes only when every other
is in its last round or has completed it.
-/

namespace Ttl

open Runs

/-- The turn of a flow and a TTL in a round: the probe was registered, or could not be built. -/
structure Attempt where
  flow_id : UInt8
  ttl : UInt8
  registered : Bool
deriving DecidableEq

/-- A round of an engine: its last TTL, and the turns so far. -/
structure Round where
  max_ttl : UInt8
  attempts : List Attempt
deriving DecidableEq

/-- The flows and TTLs that have had their turn, in order. -/
def Round.probes (r : Round) : List (UInt8 × UInt8) := r.attempts.map fun a => (a.flow_id, a.ttl)

/-- The next flow and TTL has its turn in the newest round. -/
def attempt (registered : Bool) : EnginePc → List Round → List Round
  | .probing ((flow_id, ttl) :: _), r :: rounds =>
    { r with attempts := r.attempts ++ [⟨flow_id, ttl, registered⟩] } :: rounds
  | _, rounds => rounds

/-- What an engine has yet to probe in its round, `none` between rounds. -/
def EnginePc.remaining : EnginePc → Option (List (UInt8 × UInt8))
  | .waiting | .counted | .stopped => none
  | .probing todo | .registered _ _ todo => some todo
  | _ => some []

/-- The engine is in a round. -/
def EnginePc.inRound : EnginePc → Bool
  | .waiting | .stopped => false
  | _ => true

namespace Tracer

/-- The rounds of each engine, the newest first. -/
def noteRounds (rounds : IpAddr → List Round) (s : Tracer) : Action → IpAddr → List Round
  | .beginRound t =>
    Function.update rounds t
      (⟨((s.sessions.lookup t).map Session.maxProbeTtl).getD 0, []⟩ :: rounds t)
  | .register t => Function.update rounds t (attempt true (s.engines t).pc (rounds t))
  | .skip t => Function.update rounds t (attempt false (s.engines t).pc (rounds t))
  | _ => rounds

/-- The rounds that an engine has begun. -/
def begun (s : Tracer) (t : IpAddr) : ℕ :=
  (s.engines t).rounds_completed + if (s.engines t).pc.inRound then 1 else 0

/-- The next tick of the engine begins a round: it is not paused and has rounds to go. -/
def Begins (env : Env) (s : Tracer) (t : IpAddr) : Prop :=
  (s.engines t).pc = .waiting ∧ (s.sessions.lookup t).any (fun x => ! x.paused) = true ∧
    (env.config t).count.any (· ≤ (s.engines t).rounds_completed) = false

instance (env : Env) (s : Tracer) (t : IpAddr) : Decidable (s.Begins env t) :=
  inferInstanceAs (Decidable (_ ∧ _ ∧ _))

/-- The engine has completed its rounds or is in its last one. -/
def InLastRound (env : Env) (s : Tracer) (t : IpAddr) : Prop :=
  (env.config t).count.any (· ≤ s.begun t) = true

/-- What a step must meet for the engines to complete their counts: the user does not cancel, and an
engine completes only when every other is in its last round or has completed it. -/
def CompletesTogether (env : Env) (s : Tracer) : Action → Prop
  | .cancel => False
  | .tick t => s.Completes env t → ∀ t' ∈ s.sessions.keys, s.InLastRound env t'
  | _ => True

instance (env : Env) (s : Tracer) : DecidablePred (CompletesTogether env s) := fun a => by
  apply @Action.casesOn (fun a => Decidable (CompletesTogether env s a)) a <;> intros <;>
    dsimp only [CompletesTogether, Completes, InLastRound] <;> infer_instance

section

variable {env : Env} {s s' : Tracer} {a : Action} {t : IpAddr}

/-! ## What begins, goes on and ends a round -/

/-- An engine that completes begins no round. -/
theorem Completes.not_begins (h : s.Completes env t) : ¬ s.Begins env t := by
  rintro ⟨-, -, hgo⟩
  rw [h.2.2] at hgo
  cases hgo

/-- A tick does nothing, or completes the engine, or begins a round. -/
theorem tick_cases (h : step env s (.tick t) = some s') :
    (¬ s.Begins env t ∧ s' = s) ∨
      (s.Completes env t ∧ s' = { s.setPc t .stopped with cancelled := true }) ∨
      (s.Begins env t ∧ s' = s.setPc t .counted) := by
  simp only [step] at h
  split at h
  · next session hpc hsession =>
    split_ifs at h with hp
    · refine Or.inl ⟨?_, (Option.some.inj h).symm⟩
      rintro ⟨-, hrunning, -⟩
      rw [hsession, Option.any_some, hp] at hrunning
      cases hrunning
    have hrunning : (s.sessions.lookup t).any (fun x => ! x.paused) = true := by
      rw [hsession, Option.any_some, Bool.eq_false_iff.mpr hp]
      rfl
    split at h
    · next count hcount =>
      split_ifs at h with hdone
      · refine Or.inr (Or.inl ⟨⟨hpc, hrunning, ?_⟩, (Option.some.inj h).symm⟩)
        rw [hcount, Option.any_some]
        exact decide_eq_true hdone
      · refine Or.inr (Or.inr ⟨⟨hpc, hrunning, ?_⟩, (Option.some.inj h).symm⟩)
        rw [hcount, Option.any_some]
        exact decide_eq_false hdone
    · next hcount =>
      refine Or.inr (Or.inr ⟨⟨hpc, hrunning, ?_⟩, (Option.some.inj h).symm⟩)
      rw [hcount]
      rfl
  · cases h

/-- A round begins with the flows and TTLs that it probes. -/
theorem Step.beginRound_inv (h : Step env s (.beginRound t) s') :
    ∃ session, (s.engines t).pc = .counted ∧ s.sessions.lookup t = some session ∧
      s' = s.setPc t (.probing (probeOrder (env.config t) session.maxProbeTtl)) := by
  cases h with
  | move move =>
    cases move with
    | beginRound pc entry => exact ⟨_, pc, entry, rfl⟩
  | shift shift => cases shift

/-- A registration takes the next flow and TTL of the round. -/
theorem Step.register_inv (h : Step env s (.register t) s') :
    ∃ flow_id ttl todo, (s.engines t).pc = .probing ((flow_id, ttl) :: todo) ∧
      s'.engines = (s.setPc t (.registered flow_id ttl todo)).engines := by
  cases h with
  | register pc => exact ⟨_, _, _, pc, rfl⟩
  | move move => cases move
  | shift shift => cases shift

/-- A probe that is skipped takes the next flow and TTL of the round. -/
theorem Step.skip_inv (h : Step env s (.skip t) s') :
    ∃ flow_id ttl todo, (s.engines t).pc = .probing ((flow_id, ttl) :: todo) ∧
      s'.engines = (s.setPc t (.probing todo)).engines := by
  cases h with
  | move move =>
    cases move with
    | skip pc => exact ⟨_, _, _, pc, rfl⟩
  | shift shift => cases shift

/-- A round ends after its poll. -/
theorem Step.endRound_inv (h : Step env s (.endRound t) s') :
    (s.engines t).pc = .polling ∧ s' = s.finishRound t := by
  cases h with
  | endRound pc => exact ⟨pc, rfl⟩
  | move move => cases move
  | shift shift => cases shift

/-- What a step leaves of an engine's round: beside the begin and the end of the round and the turn of a
probe, everything. -/
theorem Step.remaining (h : Step env s a s') (hbegin : a ≠ .beginRound t)
    (hregister : a ≠ .register t) (hskip : a ≠ .skip t) (hend : a ≠ .endRound t) :
    (s'.engines t).pc.remaining = (s.engines t).pc.remaining := by
  rcases h.engine_cases t with he | hadv
  · rw [he]
  generalize (s'.engines t).pc = pc' at hadv
  cases hadv with
  | move move =>
    cases move with
    | beginRound => exact absurd rfl hbegin
    | skip => exact absurd rfl hskip
    | counted pc | stop pc _ | noPmtud pc | sized pc _ _ | unsized pc | pmtudAbort pc =>
      rw [pc]
      rfl
  | register => exact absurd rfl hregister
  | endRound => exact absurd rfl hend
  | finish pc | sendOk pc | sendErr pc | ready pc _ _ | notReady pc | pmtudRegister pc | pmtudSendOk pc
  | tooBig pc | pmtudSendErr pc | pmtudClamp pc | poll pc _ _ | pollApply pc =>
    rw [pc]
    rfl

/-! ## The rounds of the history -/

/-- The history has the rounds of an engine: all but the newest are over, and the turns of the newest with
those that remain are all of its flows and TTLs. -/
structure Rounded (env : Env) (s : Tracer) (rounds : IpAddr → List Round) (t : IpAddr) : Prop where
  length : (rounds t).length =
    (s.engines t).rounds_completed + if (s.engines t).pc.remaining.isSome then 1 else 0
  newest : ∀ r ∈ (rounds t).head?,
    r.probes ++ (s.engines t).pc.remaining.getD [] = probeOrder (env.config t) r.max_ttl
  earlier : ∀ r ∈ (rounds t).tail, r.probes = probeOrder (env.config t) r.max_ttl

/-- Between rounds, all of them are over. -/
theorem Rounded.full {rounds : IpAddr → List Round} (h : Rounded env s rounds t)
    (hr : (s.engines t).pc.remaining.getD [] = []) :
    ∀ r ∈ rounds t, r.probes = probeOrder (env.config t) r.max_ttl := by
  intro r hm
  have hnewest := h.newest
  have hearlier := h.earlier
  cases hrounds : rounds t with
  | nil =>
    rw [hrounds] at hm
    cases hm
  | cons newest rest =>
    rw [hrounds] at hm hnewest hearlier
    rcases List.mem_cons.mp hm with rfl | hm
    · have hprobes := hnewest r rfl
      rwa [hr, List.append_nil] at hprobes
    · exact hearlier r hm

/-- The rounds of an engine whose history and round stay. -/
theorem Rounded.congr {rounds rounds' : IpAddr → List Round} (h : Rounded env s rounds t)
    (same : rounds' t = rounds t)
    (completed : (s'.engines t).rounds_completed = (s.engines t).rounds_completed)
    (remaining : (s'.engines t).pc.remaining = (s.engines t).pc.remaining) :
    Rounded env s' rounds' t := by
  obtain ⟨h1, h2, h3⟩ := h
  constructor
  · rw [same, completed, remaining]
    exact h1
  · rw [same, remaining]
    exact h2
  · rw [same]
    exact h3

/-- The turn of the next flow and TTL. -/
theorem Rounded.attempt {rounds : IpAddr → List Round} {flow_id ttl : UInt8}
    {todo : List (UInt8 × UInt8)} (h : Rounded env s rounds t)
    (pc : (s.engines t).pc = .probing ((flow_id, ttl) :: todo))
    (completed : (s'.engines t).rounds_completed = (s.engines t).rounds_completed)
    (remaining : (s'.engines t).pc.remaining = some todo) (registered : Bool) :
    Rounded env s' (Function.update rounds t (attempt registered (s.engines t).pc (rounds t))) t := by
  obtain ⟨h1, h2, h3⟩ := h
  rw [pc] at h1 h2
  cases hrounds : rounds t with
  | nil =>
    -- A round has begun.
    rw [hrounds] at h1
    simp [EnginePc.remaining] at h1
  | cons r rest =>
    rw [hrounds] at h1 h2 h3
    have hprobes := h2 r rfl
    rw [pc]
    constructor
    · rw [Function.update_self, completed, remaining]
      exact h1
    · rw [Function.update_self, remaining]
      rintro r' hr'
      obtain rfl := Option.some.inj hr'
      simp only [EnginePc.remaining, Option.getD_some] at hprobes
      rw [Option.getD_some, ← hprobes]
      simp [Round.probes]
    · rw [Function.update_self]
      exact h3

/-- Every step keeps the rounds. -/
theorem Rounded.step {rounds : IpAddr → List Round} (h : Rounded env s rounds t)
    (hstep : Step env s a s') : Rounded env s' (noteRounds rounds s a) t := by
  have hcompleted := (hstep.counters t).1
  by_cases hbegin : a = .beginRound t
  · subst hbegin
    obtain ⟨session, pc, entry, rfl⟩ := hstep.beginRound_inv
    -- The engine was between rounds, and every flow and TTL remains.
    have hfull := h.full (by rw [pc]; rfl)
    have hlength := h.length
    rw [pc] at hlength
    constructor
    · simp only [noteRounds, Function.update_self, List.length_cons, setPc_engines]
      rw [hlength]
      rfl
    · intro r hr
      simp only [noteRounds, Function.update_self, List.head?_cons] at hr
      obtain rfl := Option.some.inj hr
      simp only [setPc_engines, Function.update_self, entry, Option.map_some, Option.getD_some]
      rfl
    · simp only [noteRounds, Function.update_self, List.tail_cons]
      exact hfull
  by_cases hregister : a = .register t
  · subst hregister
    obtain ⟨flow_id, ttl, todo, pc, he⟩ := hstep.register_inv
    rw [if_neg (by simp), Nat.add_zero] at hcompleted
    exact h.attempt pc hcompleted (by rw [he, setPc_engines, Function.update_self]; rfl) true
  by_cases hskip : a = .skip t
  · subst hskip
    obtain ⟨flow_id, ttl, todo, pc, he⟩ := hstep.skip_inv
    rw [if_neg (by simp), Nat.add_zero] at hcompleted
    exact h.attempt pc hcompleted (by rw [he, setPc_engines, Function.update_self]; rfl) false
  -- Of the other actions, only the end of the round is about it.
  have hsame : noteRounds rounds s a t = rounds t := by
    cases a with
    | beginRound t' | register t' | skip t' =>
      refine Function.update_of_ne ?_ _ _
      rintro rfl
      contradiction
    | _ => rfl
  by_cases hend : a = .endRound t
  · subst hend
    obtain ⟨pc, rfl⟩ := hstep.endRound_inv
    have hfull := h.full (by rw [pc]; rfl)
    have hlength := h.length
    rw [pc] at hlength
    have hremaining : ((s.finishRound t).engines t).pc.remaining = none := by
      rw [finishRound_engines, Function.update_self]
      rfl
    constructor
    · rw [hsame, hcompleted, hremaining, hlength, if_pos rfl]
      rfl
    · intro r hr
      rw [hsame] at hr
      rw [hremaining, Option.getD_none, List.append_nil]
      exact hfull r (List.mem_of_mem_head? hr)
    · intro r hr
      rw [hsame] at hr
      exact hfull r (List.mem_of_mem_tail hr)
  · rw [if_neg hend, Nat.add_zero] at hcompleted
    exact h.congr hsame hcompleted (hstep.remaining hbegin hregister hskip hend)

/-- There is no round at the start. -/
theorem rounded_init (targets : List IpAddr) (now : ℕ) :
    Rounded env (init env targets now) (fun _ => []) t where
  length := by
    have hpc : ((init env targets now).engines t).pc.remaining = none := by
      simp only [init]
      split_ifs <;> rfl
    rw [hpc]
    rfl
  newest := by intro r hr; cases hr
  earlier := by intro r hr; cases hr

/-! ## Completion -/

/-- The next tick of an engine begins a round only if it has rounds to go. -/
theorem Begins.lt (h : s.Begins env t) {count : ℕ} (hcount : (env.config t).count = some count) :
    (s.engines t).rounds_completed < count := by
  obtain ⟨-, -, hgo⟩ := h
  rw [hcount, Option.any_some] at hgo
  exact Nat.lt_of_not_le (of_decide_eq_false hgo)

/-- A step takes back no begun round, and begins one at a tick with rounds to go. -/
theorem begun_step (h : step env s a = some s') (t : IpAddr) :
    s'.begun t = s.begun t + if a = .tick t ∧ s.Begins env t then 1 else 0 := by
  have hstep := Step.of_step h
  have hcompleted := (hstep.counters t).1
  by_cases htick : a = .tick t
  · subst htick
    rw [if_neg (by simp), Nat.add_zero] at hcompleted
    unfold begun
    rw [hcompleted]
    rcases tick_cases h with ⟨hnot, rfl⟩ | ⟨hcomplete, rfl⟩ | ⟨hbegins, rfl⟩
    · simp [hnot]
    · simp [hcomplete.not_begins, hcomplete.1, EnginePc.inRound]
    · simp [hbegins, hbegins.1, EnginePc.inRound]
  rw [if_neg fun hb => htick hb.1, Nat.add_zero]
  unfold begun
  rw [hcompleted]
  rcases hstep.engine_cases t with he | hadv
  · -- An engine that ends a round goes elsewhere.
    rw [he, if_neg, Nat.add_zero]
    rintro rfl
    obtain ⟨pc, hs'⟩ := hstep.endRound_inv
    rw [hs', finishRound_engines, Function.update_self] at he
    have hpc := congrArg Engine.pc he
    rw [pc] at hpc
    cases hpc
  generalize (s'.engines t).pc = pc' at hadv
  cases hadv with
  | move move =>
    cases move with
    | counted => exact absurd rfl htick
    | stop pc _ | beginRound pc _ | skip pc | noPmtud pc | sized pc _ _ | unsized pc | pmtudAbort pc =>
      rw [pc]
      rfl
  | finish => exact absurd rfl htick
  | endRound pc =>
    rw [if_pos rfl, pc]
    rfl
  | register pc | sendOk pc | sendErr pc | ready pc _ _ | notReady pc | pmtudRegister pc | pmtudSendOk pc
  | tooBig pc | pmtudSendErr pc | pmtudClamp pc | poll pc _ _ | pollApply pc =>
    rw [pc]
    rfl

/-- Every step keeps an engine in its last round. -/
theorem InLastRound.step (hl : s.InLastRound env t) (h : step env s a = some s') :
    s'.InLastRound env t := by
  unfold InLastRound at hl ⊢
  obtain ⟨count, hcount, hle⟩ := (Option.any_eq_true _ _).mp hl
  rw [hcount, Option.any_some, decide_eq_true_eq]
  have hle := of_decide_eq_true hle
  rw [begun_step h t]
  exact hle.trans (Nat.le_add_right _ _)

/-- No engine begins more rounds than it has to. -/
theorem begun_le_step {count : ℕ} (hcount : (env.config t).count = some count)
    (hle : s.begun t ≤ count) (h : step env s a = some s') : s'.begun t ≤ count := by
  rw [begun_step h t]
  split_ifs with hb
  · -- The engine waits, so what it has begun is what it has completed.
    have hlt := hb.2.lt hcount
    unfold begun
    rw [hb.2.1]
    simp only [EnginePc.inRound, Bool.false_eq_true, if_false]
    omega
  · exact hle

/-- What holds in a run whose engines complete together. -/
structure Together (env : Env) (s : Tracer) : Prop where
  /-- No engine begins more rounds than it has to. -/
  most : ∀ t count, (env.config t).count = some count → s.begun t ≤ count
  /-- An engine stops after its last round only. -/
  stopped : ∀ t ∈ s.sessions, (s.engines t).pc = .stopped → s.InLastRound env t
  /-- The token is cancelled in the last round of every engine. -/
  cancelled : s.cancelled = true → ∀ t ∈ s.sessions, s.InLastRound env t
  /-- In the settle window the engines are stopped. -/
  settling : ∀ since, s.main = .settling since → ∀ t ∈ s.sessions, (s.engines t).pc = .stopped

/-- Every step that completes together keeps the engines together. -/
theorem Together.step (h : Together env s) (hc : CompletesTogether env s a)
    (hs : step env s a = some s') : Together env s' := by
  have hstep := Step.of_step hs
  constructor
  · intro t count hcount
    exact begun_le_step hcount (h.most t count hcount) hs
  · intro t ht hpc
    rw [hstep.mem_sessions] at ht
    rcases hstep.engine_cases t with he | hadv
    · rw [he] at hpc
      exact (h.stopped t ht hpc).step hs
    · rw [hpc] at hadv
      cases hadv with
      | move move =>
        cases move with
        | stop pc cancelled => exact (h.cancelled cancelled t ht).step hs
      | finish pc =>
        rcases tick_cases hs with ⟨-, rfl⟩ | ⟨hcomplete, -⟩ | ⟨-, rfl⟩
        · rw [pc] at hpc
          cases hpc
        · exact InLastRound.step (hc hcomplete t (AList.mem_keys.mp ht)) hs
        · simp at hpc
  · intro hcancelled t ht
    rw [hstep.mem_sessions] at ht
    refine InLastRound.step ?_ hs
    rcases hstep.cancelled_cases hcancelled with hold | rfl | ⟨t', rfl, hcomplete⟩ | ⟨since, hmain, -⟩
    · exact h.cancelled hold t ht
    · exact hc.elim
    · exact hc hcomplete t (AList.mem_keys.mp ht)
    · exact h.stopped t ht (h.settling since hmain t ht)
  · intro since hmain t ht
    rw [hstep.mem_sessions] at ht
    rcases hstep.main_settling hmain with hold | ⟨-, hall, -, hengines⟩
    · exact hstep.stopped (h.settling since hold t ht)
    · rw [hengines]
      exact hall t (AList.mem_keys.mp ht)

/-- No round has begun at the start. -/
theorem begun_init (targets : List IpAddr) (now : ℕ) : (init env targets now).begun t = 0 := by
  by_cases ht : t ∈ targets <;> simp [begun, init, ht, EnginePc.inRound]

/-- The engines are together then. -/
theorem together_init (targets : List IpAddr) (now : ℕ) : Together env (init env targets now) where
  most := by
    intro t count _
    rw [begun_init]
    exact Nat.zero_le _
  stopped := by
    intro t ht hpc
    rw [← AList.lookup_isSome, lookup_init] at ht
    simp only [init] at hpc
    split_ifs at ht hpc with hmem
    · cases ht
  cancelled := by intro h; cases h
  settling := by intro since h; cases h

/-- A step that does not skip a probe leaves every turn a registration. -/
theorem registered_step {rounds : IpAddr → List Round} (hskip : a ≠ .skip t)
    (h : ∀ r ∈ rounds t, ∀ x ∈ r.attempts, x.registered = true) :
    ∀ r ∈ noteRounds rounds s a t, ∀ x ∈ r.attempts, x.registered = true := by
  cases a with
  | beginRound t' =>
    intro r hr
    by_cases ht : t = t'
    · subst ht
      simp only [noteRounds, Function.update_self, List.mem_cons] at hr
      rcases hr with rfl | hr
      · intro x hx
        cases hx
      · exact h r hr
    · rw [noteRounds, Function.update_of_ne ht] at hr
      exact h r hr
  | register t' =>
    intro r hr x hx
    by_cases ht : t = t'
    · subst ht
      rw [noteRounds, Function.update_self] at hr
      unfold Ttl.attempt at hr
      split at hr
      · next rounds' hrounds =>
        rw [hrounds] at h
        rcases List.mem_cons.mp hr with rfl | hr
        · rcases List.mem_append.mp hx with hx | hx
          · exact h _ List.mem_cons_self x hx
          · rw [List.mem_singleton.mp hx]
        · exact h r (List.mem_cons_of_mem _ hr) x hx
      · exact h r hr x hx
    · rw [noteRounds, Function.update_of_ne ht] at hr
      exact h r hr x hx
  | skip t' =>
    intro r hr
    rw [noteRounds, Function.update_of_ne (by rintro rfl; exact hskip rfl)] at hr
    exact h r hr
  | _ => exact h

/-- A round of one probe. -/
def roundOf (t : IpAddr) : List Action :=
  [.tick t, .beginRound t, .register t, .sendOk t, .pmtudCheck t, .endRound t]

/-- The second engine is in its first round when the first completes its two. -/
def slowSecond : List Action :=
  roundOf sampleTarget ++ [.tick otherTarget, .beginRound otherTarget, .register otherTarget] ++
    roundOf sampleTarget ++ [.tick sampleTarget, .sendOk otherTarget, .pmtudCheck otherTarget,
      .endRound otherTarget, .stop otherTarget]

end

end Tracer

end Ttl
