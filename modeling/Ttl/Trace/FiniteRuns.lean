import Ttl.State.Args
import Ttl.Trace.Provenance

/-!
# The end of a finite run

A receiver records a pending probe as timed out in two ways: the sweep, when it has been pending for
more than the timeout, and the flush, whatever its age, once the shared token is cancelled. The main
thread cancels the token after a settle window of more than the timeout, but an engine that has
completed its rounds has cancelled it before that.

`Patient` is what the settle window is for. In the runs that the user does not cancel, and in which no
engine completes while a younger probe is pending or registers a probe after one has completed, every probe
recorded as timed out was pending for the timeout. What becomes of the replies that are read before that is
in `Ttl.Trace.Answered`.
-/

namespace Ttl

open Runs

/-- The probe has been pending for the timeout at the given time. -/
def PendingProbe.Overdue (env : Env) (time : ℕ) (probe : PendingProbe) : Prop :=
  probe.sent_at + env.base.timeout ≤ time

instance (env : Env) (time : ℕ) (probe : PendingProbe) : Decidable (probe.Overdue env time) :=
  inferInstanceAs (Decidable (_ ≤ _))

/-- A probe that is overdue stays so. -/
theorem PendingProbe.Overdue.mono {env : Env} {time time' : ℕ} {probe : PendingProbe}
    (h : probe.Overdue env time) (hle : time ≤ time') : probe.Overdue env time' :=
  Nat.le_trans h hle

namespace Tracer

/-- The next tick of the engine completes its run: it is not paused and has completed its rounds. -/
def Completes (env : Env) (s : Tracer) (t : IpAddr) : Prop :=
  (s.engines t).pc = .waiting ∧ (s.sessions.lookup t).any (fun x => ! x.paused) = true ∧
    (env.config t).count.any (· ≤ (s.engines t).rounds_completed) = true

/-- What a step must meet for the run to end in order: the user does not cancel, an engine completes
only when every pending probe is overdue, and none registers a probe after that. -/
def EndsInOrder (env : Env) (s : Tracer) : Action → Prop
  | .cancel => False
  | .tick t => s.Completes env t → ∀ e ∈ s.pending.entries, e.2.Overdue env s.now
  | .register _ | .pmtudRegister _ => s.cancelled = false
  | _ => True

instance (env : Env) (s : Tracer) : DecidablePred (EndsInOrder env s) := fun a => by
  apply @Action.casesOn (fun a => Decidable (EndsInOrder env s a)) a <;> intros <;>
    dsimp only [EndsInOrder, Completes] <;> infer_instance

/-- What holds in a run that ends in order. -/
structure Patient (env : Env) (s : Tracer) : Prop where
  /-- Pending probes were sent in the past. -/
  past : ∀ key probe, s.pending.lookup key = some probe → probe.sent_at ≤ s.now
  /-- Expired probes were overdue. -/
  expired : ∀ key probe flush time, .expired key probe flush time ∈ s.log →
    probe.Overdue env time ∧ time ≤ s.now
  /-- Those being recorded as timed out are among them. -/
  recording : ∀ b, ∀ e ∈ (s.receivers b).timedOut, ∃ flush time,
    .expired e.1 e.2 flush time ∈ s.log
  /-- Once the token is cancelled, every pending probe is overdue. -/
  cancelled : s.cancelled = true → ∀ key probe, s.pending.lookup key = some probe →
    probe.Overdue env s.now
  /-- A receiver flushes after that only. -/
  flush : ∀ b, (s.receivers b).phase = .cleanup true → s.cancelled = true
  /-- In the settle window the engines are stopped, and every pending probe was sent before it. -/
  settling : ∀ since, s.main = .settling since → (∀ t, (s.engines t).pc = .stopped) ∧
    ∀ key probe, s.pending.lookup key = some probe → probe.sent_at ≤ since
  /-- Only targets have engines. -/
  idle : ∀ t, t ∉ s.sessions → (s.engines t).pc = .stopped

section

variable {env : Env} {s s' : Tracer} {a : Action}

/-- The clock does not go back. -/
theorem Step.now_le (h : Step env s a s') : s.now ≤ s'.now := by
  cases h with
  | clock => exact Nat.le_add_right _ _
  | _ => exact Nat.le_refl _

/-- An engine that goes to another place is running. -/
theorem Advance.running {t : IpAddr} {pc : EnginePc} (h : Advance env s t a pc) :
    (s.engines t).pc ≠ .stopped := by
  cases h with
  | move move =>
    cases move with
    | counted pc | stop pc _ | beginRound pc _ | skip pc | noPmtud pc | sized pc _ _ | unsized pc
    | pmtudAbort pc => simp [pc]
  | finish pc | register pc | sendOk pc | sendErr pc | ready pc _ _ | notReady pc | pmtudRegister pc
  | pmtudSendOk pc | tooBig pc | pmtudSendErr pc | pmtudClamp pc | poll pc _ _ | pollApply pc
  | endRound pc => simp [pc]

/-- A stopped engine stays stopped. -/
theorem Step.stopped {t : IpAddr} (h : Step env s a s') (hs : (s.engines t).pc = .stopped) :
    (s'.engines t).pc = .stopped := by
  rcases h.engine_cases t with he | hadv
  · rw [he]
    exact hs
  · exact absurd hs hadv.running

/-- An engine that registers a probe is running. -/
theorem Registers.running {key : PendingKey} {probe : PendingProbe}
    (h : Registers env s a key probe) : ∃ t, (s.engines t).pc ≠ .stopped := by
  cases h with
  | @normal t _ _ _ pc => exact ⟨t, by rw [pc]; simp⟩
  | @pmtud t _ _ pc => exact ⟨t, by rw [pc]; simp⟩

/-- The registration of a probe leaves the token alone. -/
theorem Registers.cancelled {key : PendingKey} {probe : PendingProbe}
    (h : Registers env s a key probe) (hstep : Step env s a s') : s'.cancelled = s.cancelled := by
  cases h with
  | normal pc =>
    cases hstep with
    | register | move | shift => rfl
  | pmtud pc =>
    cases hstep with
    | pmtudRegister | move | shift => rfl

/-- The token is cancelled by the user, by an engine that completes, or after the settle window. -/
theorem Step.cancelled_cases (h : Step env s a s') (hc : s'.cancelled = true) :
    s.cancelled = true ∨ a = .cancel ∨ (∃ t, a = .tick t ∧ s.Completes env t) ∨
      ∃ since, s.main = .settling since ∧ since + env.base.timeout ≤ s.now := by
  cases h with
  | finish pc entry running limit done =>
    refine Or.inr (Or.inr (Or.inl ⟨_, rfl, pc, ?_, ?_⟩))
    · rw [entry, Option.any_some, running]
      rfl
    · rw [limit, Option.any_some]
      exact decide_eq_true done
  | settled settling elapsed =>
    exact Or.inr (Or.inr (Or.inr ⟨_, settling, by omega⟩))
  | cancel => exact Or.inr (Or.inl rfl)
  | _ => exact Or.inl hc

/-- The token stays cancelled. -/
theorem Step.cancelled_mono (h : Step env s a s') (hc : s.cancelled = true) : s'.cancelled = true := by
  cases h with
  | finish | settled | cancel => rfl
  | _ => exact hc

/-- A receiver is about to flush or to sweep when it has just read the token. -/
theorem Step.phase_cleanup {b flush : Bool} (h : Step env s a s')
    (hp : (s'.receivers b).phase = .cleanup flush) :
    (s.receivers b).phase = .cleanup flush ∨ flush = s.cancelled := by
  rcases h.receiver_cases b with he | hturn
  · rw [he] at hp
    exact Or.inl hp
  generalize s'.receivers b = r at hturn hp
  cases hturn with
  | shift shift =>
    cases shift with
    | checkCancel phase empty => exact Or.inr (ReceiverPhase.cleanup.inj hp).symm
    | @recorded flush' phase => cases flush' <;> cases hp
    | _ => cases hp
  | _ => cases hp

/-- The settle window begins when every engine has stopped. -/
theorem Step.main_settling {since : ℕ} (h : Step env s a s') (hm : s'.main = .settling since) :
    s.main = .settling since ∨
      since = s.now ∧ (∀ t ∈ s.sessions.keys, (s.engines t).pc = .stopped) ∧
        s'.pending = s.pending ∧ s'.engines = s.engines := by
  cases h with
  | settle joining stopped =>
    exact Or.inr ⟨(MainPc.settling.inj hm).symm, stopped, rfl, rfl⟩
  | settled settling elapsed => cases hm
  | _ => exact Or.inl hm

/-- A step that keeps the end of the run in order keeps `Patient`. -/
theorem Patient.step (h : Patient env s) (he : EndsInOrder env s a) (hstep : Step env s a s') :
    Patient env s' where
  past := by
    intro key probe hl
    refine le_trans ?_ hstep.now_le
    rcases hstep.lookup_pending hl with hl | hr
    · exact h.past key probe hl
    · exact hr.agrees.2.le
  expired := by
    intro key probe flush time hm
    rcases hstep.mem_log hm with hm | ho
    · obtain ⟨hover, hle⟩ := h.expired key probe flush time hm
      exact ⟨hover, hle.trans hstep.now_le⟩
    · cases ho with
      | @expired b _ _ _ phase entry old =>
        refine ⟨?_, hstep.now_le⟩
        cases flush with
        | true =>
          -- The flush takes every probe, and comes after the cancellation.
          exact h.cancelled (h.flush b phase) key probe entry
        | false =>
          -- The sweep takes probes that are older than the timeout.
          have hlt : env.base.timeout < s.now - probe.sent_at :=
            of_decide_eq_true (show decide (env.base.timeout < s.now - probe.sent_at) = true from old)
          have hpast := h.past key probe entry
          show probe.sent_at + env.base.timeout ≤ s.now
          omega
  recording := by
    intro b e hm
    rcases hstep.mem_timedOut hm with hm | ⟨flush, rfl, hphase, hl, hex⟩
    · obtain ⟨flush, time, hlog⟩ := h.recording b e hm
      exact ⟨flush, time, hstep.log_subset hlog⟩
    · exact ⟨flush, s.now, hstep.log_of_logs (.expired hphase hl hex)⟩
  cancelled := by
    intro hc key probe hl
    rcases hstep.lookup_pending hl with hl | hr
    · refine PendingProbe.Overdue.mono ?_ hstep.now_le
      rcases hstep.cancelled_cases hc with hc | rfl | ⟨t, rfl, hcomplete⟩ | ⟨since, hmain, hle⟩
      · exact h.cancelled hc key probe hl
      · exact he.elim
      · exact he hcomplete ⟨key, probe⟩ (AList.mem_lookup_iff.mp hl)
      · -- The settle window is longer than the timeout.
        have hsent := (h.settling since hmain).2 key probe hl
        show probe.sent_at + env.base.timeout ≤ s.now
        omega
    · -- No probe is registered once the token is cancelled.
      have hno : s.cancelled = false := by
        cases hr with
        | normal pc => exact he
        | pmtud pc => exact he
      rw [hr.cancelled hstep, hno] at hc
      cases hc
  flush := by
    intro b hp
    rcases hstep.phase_cleanup hp with hp | hflush
    · exact hstep.cancelled_mono (h.flush b hp)
    · exact hstep.cancelled_mono hflush.symm
  settling := by
    intro since hm
    rcases hstep.main_settling hm with hm | ⟨rfl, hstopped, hpending, hengines⟩
    · obtain ⟨hstopped, hsent⟩ := h.settling since hm
      refine ⟨fun t => hstep.stopped (hstopped t), fun key probe hl => ?_⟩
      rcases hstep.lookup_pending hl with hl | hr
      · exact hsent key probe hl
      · -- A stopped engine registers nothing.
        obtain ⟨t, hrunning⟩ := hr.running
        exact absurd (hstopped t) hrunning
    · -- The window begins now, and what is pending was sent before.
      refine ⟨fun t => ?_, fun key probe hl => h.past key probe (hpending ▸ hl)⟩
      rw [hengines]
      by_cases ht : t ∈ s.sessions
      · exact hstopped t (AList.mem_keys.mp ht)
      · exact h.idle t ht
  idle := by
    intro t ht
    exact hstep.stopped (h.idle t fun hmem => ht ((hstep.mem_sessions t).mpr hmem))

/-- Nothing is pending at the start. -/
theorem patient_init (targets : List IpAddr) (now : ℕ) : Patient env (init env targets now) where
  past := by intro key probe h; cases h
  expired := by intro key probe flush time h; cases h
  recording := by
    intro b e h
    simp only [init, Receiver.timedOut] at h
    split_ifs at h <;> cases h
  cancelled := by intro h; cases h
  flush := by
    intro b h
    simp only [init] at h
    split_ifs at h
  settling := by intro since h; cases h
  idle := by
    intro t ht
    simp only [init]
    refine if_neg fun hmem => ht (AList.lookup_isSome.mp ?_)
    rw [lookup_init, if_pos hmem]
    rfl

/-- The patience of a run that ends in order. -/
theorem patient_run {targets : List IpAddr} {now : ℕ} {as : List Action}
    (h : run (Tracer.step env) (init env targets now) as = some s)
    (he : StepsMeet (Tracer.step env) (EndsInOrder env) (init env targets now) as) : Patient env s :=
  run_induction_of (fun _ s => Patient env s) (patient_init targets now)
    (fun _ _ _ _ _ he ih hstep => ih.step he (.of_step hstep)) as s h he

/-- The default arguments, but one ICMP round of one hop. -/
def sampleArgs : Args where
  targets := [['1', '9', '2', '.', '0', '.', '2', '.', '1']]
  count := 1
  interval := .finite 1
  max_ttl := 1
  protocol := ['i', 'c', 'm', 'p']
  port := none
  port_fixed := false
  flows := 1
  src_port := 50000
  timeout := .finite 3
  ipv4 := false
  ipv6 := false
  no_tui := false
  json := false
  csv := false
  report := true
  stream_json := false
  daemon := false
  prometheus := none
  replay := none
  diff := none
  speed := .finite 10
  interface := none
  source_ip := none
  pmtud := false
  jumbo := false

end

end Tracer

end Ttl
