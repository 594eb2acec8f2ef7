import Ttl.Trace.Conservation
import Ttl.Trace.Rounds

/-!
# The reuse of sequence numbers

A sequence number has eight bits, so an engine takes it again 256 rounds later. `Pace` is the history of
when an engine began its newest round, when a receiver last swept the pending map, which probes were sent,
and the number of each before it is cut to eight bits. `Dated` says how old a probe is in terms of the
rounds since its own.

A probe may leave late in its round and its key be taken again early in another, so the two can be as
close as 255 intervals, and a probe may stay in the map for a read timeout beyond its own. `sequence_fresh`
has the bound that follows, under which no key is taken while it is in use. A reply has a bound of its own:
one that comes 255 intervals after its probe may find the key taken by a newer one, whatever the timeout.
-/

namespace Ttl

open Runs

/-- The time that a receiver waits for a packet, and so between two sweeps. -/
def readTimeout : ℕ := 100 * 10^6

/-- The path MTU probe of the round has yet to be sent. -/
def EnginePc.beforePmtud : EnginePc → Bool
  | .counted | .probing _ | .registered .. | .pmtudReady _ | .pmtudSized .. | .pmtudRegistered .. => true
  | _ => false

/-- The probe of an engine that is about to be sent, and those after it in the round. -/
def EnginePc.turns : EnginePc → List (UInt8 × UInt8)
  | .probing todo => todo
  | .registered flow_id ttl todo => (flow_id, ttl) :: todo
  | _ => []

/-- A probe that was sent. Its number is its sequence number before that is cut to eight bits: of a normal
probe the number of its round, and of a path MTU probe that of such probes sent before. -/
structure SentProbe where
  key : PendingKey
  time : ℕ
  number : ℕ

/-- The rounds that an engine has are at most 256, or fewer than 255 intervals have passed since the probe
was sent. -/
def SentProbe.Prompt (env : Env) (now : ℕ) (e : SentProbe) : Prop :=
  env.base.count.any (· ≤ 256) = true ∨ now < e.time + 255 * env.base.interval

instance (env : Env) (now : ℕ) (e : SentProbe) : Decidable (e.Prompt env now) :=
  inferInstanceAs (Decidable (_ ∨ _))

/-- The pace of a run. -/
structure Pace where
  /-- When the newest round of each engine began. -/
  started : IpAddr → Option ℕ
  /-- When a receiver last swept the map. -/
  swept : ℕ
  /-- The probes that were sent, with the time. -/
  sent : List SentProbe
  /-- The number of the probe that was last registered under a key. -/
  number : PendingKey → ℕ

namespace Pace

/-- The pace at the start of a run. -/
def start (now : ℕ) : Pace := ⟨fun _ => none, now, [], fun _ => 0⟩

/-- The path MTU probes of a target that were sent. -/
def pmtud_sent (p : Pace) (t : IpAddr) : ℕ :=
  p.sent.countP fun e => e.key.is_pmtud ∧ e.key.target = t

end Pace

namespace Tracer

/-- The probe that an engine has registered and is sending. -/
def sendingProbe (s : Tracer) (p : Pace) (t : IpAddr) : Option SentProbe :=
  match (s.engines t).pc with
  | .registered flow_id ttl _ => some ⟨s.normalKey t flow_id ttl, s.now, (s.engines t).rounds_completed⟩
  | .pmtudRegistered dest_ttl _ => some ⟨s.pmtudKey t dest_ttl, s.now, p.pmtud_sent t⟩
  | _ => none

/-- The pace after an action. -/
def notePace (env : Env) (p : Pace) (s : Tracer) : Action → Pace
  | .tick t =>
    if s.Begins env t then { p with started := Function.update p.started t (some s.now) } else p
  | .expire _ => { p with swept := s.now }
  | .register t =>
    match (s.engines t).pc with
    | .probing ((flow_id, ttl) :: _) =>
      { p with
        number := Function.update p.number (s.normalKey t flow_id ttl) (s.engines t).rounds_completed }
    | _ => p
  | .pmtudRegister t =>
    match (s.engines t).pc with
    | .pmtudSized dest_ttl _ =>
      { p with number := Function.update p.number (s.pmtudKey t dest_ttl) (p.pmtud_sent t) }
    | _ => p
  | .sendOk t | .pmtudSendOk t => { p with sent := (s.sendingProbe p t).toList ++ p.sent }
  | _ => p

/-- The pace that the claim on a run rests on: the rounds of an engine begin at least an interval apart,
and a receiver sweeps at least once in each read timeout while probes are registered. -/
def Paced (env : Env) (x : Tracer × Pace) : Action → Prop
  | .tick t => x.1.Begins env t → ∀ τ ∈ x.2.started t, τ + (env.config t).interval ≤ x.1.now
  | .register _ | .pmtudRegister _ => x.1.now ≤ x.2.swept + readTimeout
  | _ => True

instance (env : Env) (x : Tracer × Pace) : DecidablePred (Paced env x) := fun a => by
  apply @Action.casesOn (fun a => Decidable (Paced env x a)) a <;> intros <;>
    dsimp only [Paced] <;> infer_instance

/-- A time in the round `j` of an engine: the rounds begun since are an interval apart. -/
structure Aged (env : Env) (s : Tracer) (p : Pace) (t : IpAddr) (j time : ℕ) : Prop where
  begun : j < s.begun t
  past : time ≤ s.now
  since : ∀ n, j + n + 2 ≤ s.begun t → ∃ τ ∈ p.started t, time + n * env.base.interval ≤ τ

/-- The number of a key's probe, and its round. A normal key has the number of its round, and had its turn
in it. A path MTU key has the number of the path MTU probes sent before, of which there is one in a round at
most. -/
inductive Dated (env : Env) (s : Tracer) (p : Pace) (key : PendingKey) (time : ℕ) : ℕ → Prop
  | normal (j : ℕ) (normal : key.is_pmtud = false) (aged : Aged env s p key.target j time)
      (seq : key.probe_id.seq = UInt8.ofNat j)
      (turn : j + 1 = s.begun key.target → (s.engines key.target).pc ≠ .counted ∧
        (key.flow_id, key.probe_id.ttl) ∉ (s.engines key.target).pc.remaining.getD []) :
      Dated env s p key time j
  | pmtud (i j : ℕ) (pmtud : key.is_pmtud = true) (aged : Aged env s p key.target j time)
      (seq : key.probe_id.seq = UInt8.ofNat i) (lt : i < p.pmtud_sent key.target)
      (rounds : p.pmtud_sent key.target + (s.engines key.target).pc.beforePmtud.toNat + j ≤
        i + s.begun key.target) : Dated env s p key time i

/-- The key of the path MTU probe that is about to be sent. -/
structure Held (env : Env) (s : Tracer) (p : Pace) (key : PendingKey) (time : ℕ) : Prop where
  pc : ∃ dest_ttl size, (s.engines key.target).pc = .pmtudRegistered dest_ttl size ∧
    key = s.pmtudKey key.target dest_ttl
  aged : Aged env s p key.target (s.begun key.target - 1) time

/-- The invariant on sequence numbers and ages. -/
structure Sequenced (env : Env) (s : Tracer) (p : Pace) : Prop where
  seq : ∀ t, (s.engines t).seq = UInt8.ofNat (s.engines t).rounds_completed
  pmtud_seq : ∀ t, (s.engines t).pmtud_seq = UInt8.ofNat (p.pmtud_sent t)
  /-- A round probes no flow and TTL twice. -/
  turns : ∀ t, (s.engines t).pc.turns.Nodup
  most : ∀ t count, (env.config t).count = some count → s.begun t ≤ count
  started : ∀ t, ∀ τ ∈ p.started t, τ ≤ s.now
  swept : p.swept ≤ s.now
  /-- A pending probe was not overdue at the last sweep. -/
  young : ∀ key probe, s.pending.lookup key = some probe →
    p.swept ≤ probe.sent_at + env.base.timeout
  pending : ∀ key probe, s.pending.lookup key = some probe →
    Dated env s p key probe.sent_at (p.number key) ∨
      Held env s p key probe.sent_at ∧ p.number key = p.pmtud_sent key.target
  sent : ∀ e ∈ p.sent, Dated env s p e.key e.time e.number

section

variable {env : Env} {s s' : Tracer} {p : Pace} {a : Action} {t : IpAddr}

/-! ## The pace -/

/-- The newest round of an engine begins at a tick. -/
theorem notePace_started : (notePace env p s a).started t =
    if a = .tick t ∧ s.Begins env t then some s.now else p.started t := by
  cases a with
  | tick t' =>
    by_cases hb : s.Begins env t'
    · rw [notePace, if_pos hb]
      dsimp only
      rw [Function.update_apply]
      by_cases ht : t = t'
      · subst ht
        rw [if_pos rfl, if_pos ⟨rfl, hb⟩]
      · rw [if_neg ht, if_neg fun h => ht (Action.tick.inj h.1).symm]
    · rw [notePace, if_neg hb, if_neg]
      rintro ⟨he, hb'⟩
      rw [← Action.tick.inj he] at hb'
      exact hb hb'
  | register | pmtudRegister =>
    rw [if_neg (by simp), notePace]
    split <;> rfl
  | _ => rw [if_neg (by simp)]; rfl

/-- A sweep is noted when it happens. -/
theorem notePace_swept : (notePace env p s a).swept = p.swept ∨
    ((notePace env p s a).swept = s.now ∧ ∃ b, a = .expire b) := by
  cases a with
  | expire b => exact Or.inr ⟨rfl, b, rfl⟩
  | tick | register | pmtudRegister =>
    left
    rw [notePace]
    split <;> rfl
  | _ => exact Or.inl rfl

/-- A probe is noted as sent when its send returns. -/
theorem notePace_sent : (notePace env p s a).sent = p.sent ∨
    ∃ t, (a = .sendOk t ∨ a = .pmtudSendOk t) ∧
      (notePace env p s a).sent = (s.sendingProbe p t).toList ++ p.sent := by
  cases a with
  | sendOk t => exact Or.inr ⟨t, Or.inl rfl, rfl⟩
  | pmtudSendOk t => exact Or.inr ⟨t, Or.inr rfl, rfl⟩
  | tick | register | pmtudRegister =>
    left
    rw [notePace]
    split <;> rfl
  | _ => exact Or.inl rfl

/-- A registration notes the number of its probe. -/
theorem notePace_number_of_registers {key : PendingKey} {probe : PendingProbe}
    (h : Registers env s a key probe) : (notePace env p s a).number key =
      if key.is_pmtud then p.pmtud_sent key.target else (s.engines key.target).rounds_completed := by
  cases h with
  | normal pc =>
    rw [notePace, pc]
    exact Function.update_self ..
  | pmtud pc =>
    rw [notePace, pc]
    exact Function.update_self ..

/-- The number of a key stays until it is registered again. -/
theorem notePace_number {key : PendingKey} (h : ∀ probe, ¬ Registers env s a key probe) :
    (notePace env p s a).number key = p.number key := by
  cases a with
  | register t =>
    rw [notePace]
    split
    · next pc =>
      refine Function.update_of_ne ?_ _ _
      rintro rfl
      exact h _ (.normal pc)
    · rfl
  | pmtudRegister t =>
    rw [notePace]
    split
    · next pc =>
      refine Function.update_of_ne ?_ _ _
      rintro rfl
      exact h _ (.pmtud pc)
    · rfl
  | tick =>
    rw [notePace]
    split_ifs <;> rfl
  | _ => rfl

/-- The path MTU probes that were sent are those of `pmtudSendOk`. -/
theorem notePace_pmtud_sent (h : Step env s a s') :
    (notePace env p s a).pmtud_sent t = p.pmtud_sent t + if a = .pmtudSendOk t then 1 else 0 := by
  rcases @notePace_sent env s p a with hsame | ⟨t', ha, hsent⟩
  · rw [Pace.pmtud_sent, hsame, if_neg]
    · rfl
    rintro rfl
    cases h with
    | pmtudSendOk pc => simp [notePace, sendingProbe, pc] at hsame
    | move move => cases move
    | shift shift => cases shift
  · rw [Pace.pmtud_sent, hsent, List.countP_append, Nat.add_comm]
    refine congrArg (p.pmtud_sent t + ·) ?_
    -- An engine sends a normal probe or a path MTU probe by where it is.
    rcases ha with rfl | rfl
    · cases h with
      | sendOk pc => simp [sendingProbe, pc, normalKey]
      | move move => cases move
      | shift shift => cases shift
    · cases h with
      | pmtudSendOk pc => simp [sendingProbe, pc, pmtudKey, List.countP_cons]
      | move move => cases move
      | shift shift => cases shift

/-! ## The turns of a round -/

/-- A range of numbers that fit in 8 bits has none twice. -/
theorem nodup_map_ofNat {n k : ℕ} (h : n + k ≤ 256) :
    ((List.range n).map fun i => UInt8.ofNat (i + k)).Nodup := by
  refine List.Nodup.map_on ?_ List.nodup_range
  intro i hi j hj heq
  rw [List.mem_range] at hi hj
  have hto := congrArg UInt8.toNat heq
  rw [UInt8.toNat_ofNat', UInt8.toNat_ofNat'] at hto
  omega

/-- A round probes no flow and TTL twice. -/
theorem nodup_probeOrder (config : Config) (max_probe_ttl : UInt8) :
    (probeOrder config max_probe_ttl).Nodup := by
  have httls : (Session.ttls max_probe_ttl).Nodup := nodup_map_ofNat max_probe_ttl.toNat_lt
  refine List.Nodup.product ?_ httls
  cases config.protocol with
  | Icmp => exact List.nodup_singleton _
  | Udp | Tcp => exact nodup_map_ofNat (k := 0) config.flows.toNat_lt.le

/-- Every step keeps the turns of a round distinct. -/
theorem Step.turns (h : Step env s a s') (hn : (s.engines t).pc.turns.Nodup) :
    (s'.engines t).pc.turns.Nodup := by
  rcases h.engine_cases t with he | hadv
  · rw [he]
    exact hn
  generalize (s'.engines t).pc = pc' at hadv
  cases hadv with
  | move move =>
    cases move with
    | beginRound => exact nodup_probeOrder _ _
    | skip pc =>
      rw [pc] at hn
      exact (List.nodup_cons.mp hn).2
    | _ => exact List.nodup_nil
  | register pc =>
    rw [pc] at hn
    exact hn
  | sendOk pc | sendErr pc =>
    rw [pc] at hn
    exact (List.nodup_cons.mp hn).2
  | _ => exact List.nodup_nil

/-- What remains of a round remained before. -/
theorem Step.remaining_subset (h : Step env s a s') (hbegin : a ≠ .beginRound t)
    {q : UInt8 × UInt8} (hm : q ∈ (s'.engines t).pc.remaining.getD []) :
    q ∈ (s.engines t).pc.remaining.getD [] := by
  by_cases hregister : a = .register t
  · subst hregister
    obtain ⟨flow_id, ttl, todo, pc, he⟩ := h.register_inv
    rw [he, setPc_engines, Function.update_self] at hm
    rw [pc]
    exact List.mem_cons_of_mem _ hm
  by_cases hskip : a = .skip t
  · subst hskip
    obtain ⟨flow_id, ttl, todo, pc, he⟩ := h.skip_inv
    rw [he, setPc_engines, Function.update_self] at hm
    rw [pc]
    exact List.mem_cons_of_mem _ hm
  by_cases hend : a = .endRound t
  · subst hend
    obtain ⟨pc, rfl⟩ := h.endRound_inv
    rw [finishRound_engines, Function.update_self] at hm
    cases hm
  · rw [h.remaining hbegin hregister hskip hend] at hm
    exact hm

/-- A round has one path MTU probe at most: what an engine has sent and may yet send in its round grows
with the rounds. -/
theorem pmtud_sent_step (h : step env s a = some s') :
    (notePace env p s a).pmtud_sent t + (s'.engines t).pc.beforePmtud.toNat + s.begun t ≤
      p.pmtud_sent t + (s.engines t).pc.beforePmtud.toNat + s'.begun t := by
  have hstep := Step.of_step h
  rw [notePace_pmtud_sent hstep, begun_step h t]
  by_cases htick : a = .tick t
  · subst htick
    rw [if_neg (by simp)]
    rcases tick_cases h with ⟨hnot, rfl⟩ | ⟨hcomplete, rfl⟩ | ⟨hbegins, rfl⟩
    · omega
    · simp [EnginePc.beforePmtud]
      omega
    · simp [hbegins, hbegins.1, EnginePc.beforePmtud]
      omega
  have hnot : ¬ (a = .tick t ∧ s.Begins env t) := fun hb => htick hb.1
  rw [if_neg hnot]
  rcases hstep.engine_cases t with he | hadv
  · rw [he, if_neg]
    · omega
    -- An engine that sends its path MTU probe goes elsewhere.
    rintro rfl
    have hsent := (hstep.counters t).2.2
    rw [he, if_pos rfl] at hsent
    simp at hsent
  generalize (s'.engines t).pc = pc' at hadv
  cases hadv with
  | move move =>
    cases move with
    | counted => exact absurd rfl htick
    | stop pc _ | beginRound pc _ | skip pc | noPmtud pc | sized pc _ _ | unsized pc | pmtudAbort pc =>
      rw [if_neg (by simp), pc]
      simp [EnginePc.beforePmtud]
  | finish => exact absurd rfl htick
  | pmtudSendOk pc =>
    rw [if_pos rfl, pc]
    simp [EnginePc.beforePmtud]
  | register pc | sendOk pc | sendErr pc | ready pc _ _ | notReady pc | pmtudRegister pc
  | tooBig pc | pmtudSendErr pc | pmtudClamp pc | poll pc _ _ | pollApply pc | endRound pc =>
    rw [if_neg (by simp), pc]
    simp [EnginePc.beforePmtud]

/-! ## The age of a probe -/

/-- Every step of its pace keeps the age of a round. -/
theorem Aged.step {j time : ℕ} (h : Aged env s p t j time) (hp : Paced env (s, p) a)
    (hs : step env s a = some s') : Aged env s' (notePace env p s a) t j time where
  begun := by
    rw [begun_step hs t]
    exact h.begun.trans_le (Nat.le_add_right _ _)
  past := h.past.trans (Step.of_step hs).now_le
  since := by
    intro n hn
    rw [begun_step hs t] at hn
    rw [notePace_started]
    by_cases hb : a = .tick t ∧ s.Begins env t
    · rw [if_pos hb] at hn ⊢
      refine ⟨s.now, rfl, ?_⟩
      cases n with
      | zero =>
        rw [zero_mul]
        exact h.past
      | succ n =>
        -- The round before this one began an interval ago at least.
        obtain ⟨τ, hτ, hle⟩ := h.since n (by omega)
        obtain ⟨rfl, hbegins⟩ := hb
        have hpace : τ + env.base.interval ≤ s.now := hp hbegins τ hτ
        rw [Nat.succ_mul, ← Nat.add_assoc]
        exact (Nat.add_le_add_right hle _).trans hpace
    · rw [if_neg hb] at hn ⊢
      exact h.since n hn

/-- A probe of the newest round. -/
theorem Aged.newest (h : (s.engines t).pc.inRound = true) :
    s.begun t = (s.engines t).rounds_completed + 1 ∧
      Aged env s p t (s.engines t).rounds_completed s.now := by
  have hbegun : s.begun t = (s.engines t).rounds_completed + 1 := by
    unfold Tracer.begun
    rw [if_pos h]
  refine ⟨hbegun, ?_, le_rfl, fun n hn => ?_⟩ <;> omega

/-- The number of a probe does not change, and its round becomes older. -/
theorem Dated.step {key : PendingKey} {time n : ℕ} (h : Dated env s p key time n)
    (hp : Paced env (s, p) a) (hs : step env s a = some s') :
    Dated env s' (notePace env p s a) key time n := by
  have hstep := Step.of_step hs
  cases h with
  | normal normal aged seq turn =>
    refine .normal n normal (aged.step hp hs) seq fun hj => ?_
    have hbegun := aged.begun
    rw [begun_step hs] at hj
    split_ifs at hj with hb
    · -- Another round has begun.
      omega
    obtain ⟨hpc, hturn⟩ := turn hj
    have hbegin : a ≠ .beginRound key.target := by
      rintro rfl
      obtain ⟨_, pc, -⟩ := hstep.beginRound_inv
      exact hpc pc
    refine ⟨fun hcounted => ?_, fun hm => hturn (hstep.remaining_subset hbegin hm)⟩
    rcases hstep.engine_cases key.target with he | hadv
    · rw [he] at hcounted
      exact hpc hcounted
    rw [hcounted] at hadv
    cases hadv with
    | move move =>
      cases move with
      | counted pc =>
        rcases tick_cases hs with ⟨-, rfl⟩ | ⟨-, rfl⟩ | ⟨hbegins, -⟩
        · exact hpc hcounted
        · simp at hcounted
        · exact hb ⟨rfl, hbegins⟩
  | pmtud j pmtud aged seq lt rounds =>
    have hsent := notePace_pmtud_sent (p := p) (t := key.target) hstep
    have hbudget := pmtud_sent_step (p := p) (t := key.target) hs
    exact .pmtud n j pmtud (aged.step hp hs) seq (by omega) (by omega)

/-- The path MTU probe is sent. -/
theorem Held.sent {key : PendingKey} {time : ℕ} (h : Held env s p key time)
    (hseq : Sequenced env s p) (hp : Paced env (s, p) (.pmtudSendOk key.target))
    (hs : step env s (.pmtudSendOk key.target) = some s') :
    Dated env s' (notePace env p s (.pmtudSendOk key.target)) key time (p.pmtud_sent key.target) := by
  obtain ⟨⟨dest_ttl, size, hpc, hkey⟩, haged⟩ := h
  have hstep := Step.of_step hs
  have hsent := notePace_pmtud_sent (p := p) (t := key.target) hstep
  have hbegun := begun_step hs key.target
  rw [if_pos rfl] at hsent
  rw [if_neg (by simp), Nat.add_zero] at hbegun
  have hpc' : (s'.engines key.target).pc = .polling := by
    cases hstep with
    | pmtudSendOk => simp
    | move move => cases move
    | shift shift => cases shift
  refine .pmtud (p.pmtud_sent key.target) _ (by rw [hkey]; rfl) (haged.step hp hs) ?_ (by omega) ?_
  · rw [hkey]
    exact hseq.pmtud_seq _
  · have hpos := haged.begun
    rw [hsent, hbegun, hpc']
    simp only [EnginePc.beforePmtud, Bool.toNat_false]
    omega

/-- What the failed send of a path MTU probe takes out of the map. -/
theorem Step.pmtudSendErr_inv {emsgsize : Bool} (h : Step env s (.pmtudSendErr t emsgsize) s') :
    ∃ dest_ttl size, (s.engines t).pc = .pmtudRegistered dest_ttl size ∧
      s'.pending = s.pending.erase (s.pmtudKey t dest_ttl) := by
  cases h with
  | pmtudSendErr pc => exact ⟨_, _, pc, rfl⟩
  | move move => cases move
  | shift shift => cases shift

/-- A path MTU probe that is about to be sent is sent, or taken back, or still about to be. -/
theorem Held.step {key : PendingKey} {time : ℕ} (h : Held env s p key time)
    (hnumber : p.number key = p.pmtud_sent key.target)
    (hseq : Sequenced env s p) (hp : Paced env (s, p) a) (hs : step env s a = some s')
    (hm : key ∈ s'.pending) :
    Dated env s' (notePace env p s a) key time ((notePace env p s a).number key) ∨
      Held env s' (notePace env p s a) key time ∧
        (notePace env p s a).number key = (notePace env p s a).pmtud_sent key.target := by
  have hheld := h
  obtain ⟨⟨dest_ttl, size, hpc, hkey⟩, haged⟩ := h
  have hstep := Step.of_step hs
  -- The engine registers nothing while it sends.
  have hsame : (notePace env p s a).number key = p.number key := by
    refine notePace_number fun probe hr => ?_
    cases hr with
    | normal pc =>
      have hclass := congrArg PendingKey.is_pmtud hkey
      cases hclass
    | pmtud pc => cases hpc.symm.trans pc
  have herased : ∀ {emsgsize : Bool}, a = .pmtudSendErr key.target emsgsize → False := by
    rintro emsgsize rfl
    obtain ⟨dest_ttl', size', hpc', hpending⟩ := hstep.pmtudSendErr_inv
    obtain ⟨rfl, -⟩ := EnginePc.pmtudRegistered.inj (hpc.symm.trans hpc')
    rw [hpending, AList.mem_erase] at hm
    exact hm.1 hkey
  rcases hstep.engine_cases key.target with he | hadv
  · refine Or.inr ⟨⟨⟨dest_ttl, size, by rw [he, hpc], ?_⟩, ?_⟩, ?_⟩
    · rw [hkey]
      unfold pmtudKey at hkey ⊢
      rw [hkey] at he
      simp only at he ⊢
      rw [he]
    · have hbegun := begun_step hs key.target
      rw [if_neg, Nat.add_zero] at hbegun
      · rw [hbegun]
        exact haged.step hp hs
      · rintro ⟨-, hwaiting, -⟩
        rw [hpc] at hwaiting
        cases hwaiting
    · rw [hsame, hnumber, notePace_pmtud_sent hstep, if_neg]
      · rfl
      rintro rfl
      have hsent := (hstep.counters key.target).2.2
      rw [he, if_pos rfl] at hsent
      simp at hsent
  · generalize (s'.engines key.target).pc = pc' at hadv
    cases hadv with
    | pmtudSendOk =>
      left
      rw [hsame, hnumber]
      exact hheld.sent hseq hp hs
    | tooBig | pmtudSendErr => exact (herased rfl).elim
    | move move =>
      cases move with
      | counted pc | stop pc _ | beginRound pc _ | skip pc | noPmtud pc | sized pc _ _ | unsized pc
      | pmtudAbort pc => cases hpc.symm.trans pc
    | finish pc | register pc | sendOk pc | sendErr pc | ready pc _ _ | notReady pc | pmtudRegister pc
    | pmtudClamp pc | poll pc _ _ | pollApply pc | endRound pc => cases hpc.symm.trans pc

/-- A probe that is registered belongs to the newest round. -/
theorem Registers.dated {key : PendingKey} {probe : PendingProbe} (h : Registers env s a key probe)
    (hseq : Sequenced env s p) (hp : Paced env (s, p) a) (hs : step env s a = some s') :
    Dated env s' (notePace env p s a) key s.now ((notePace env p s a).number key) ∨
      Held env s' (notePace env p s a) key s.now ∧
        (notePace env p s a).number key = (notePace env p s a).pmtud_sent key.target := by
  have hstep := Step.of_step hs
  have hnumber := notePace_number_of_registers (p := p) h
  cases h with
  | @normal t flow_id ttl todo pc =>
    left
    obtain ⟨hbegun, haged⟩ := @Aged.newest env s p t (by rw [pc]; rfl)
    obtain ⟨flow_id', ttl', todo', pc', he⟩ := hstep.register_inv
    obtain ⟨hturn, rfl⟩ := List.cons.inj (EnginePc.probing.inj (pc.symm.trans pc'))
    obtain ⟨rfl, rfl⟩ := Prod.mk.inj hturn
    rw [hnumber]
    refine .normal _ rfl (haged.step hp hs) (hseq.seq t) fun _ => ?_
    have hnodup := hseq.turns t
    rw [pc] at hnodup
    simp only [normalKey, he, setPc_engines, Function.update_self, EnginePc.remaining,
      Option.getD_some]
    exact ⟨by simp, (List.nodup_cons.mp hnodup).1⟩
  | @pmtud t dest_ttl size pc =>
    right
    obtain ⟨hbegun, haged⟩ := @Aged.newest env s p t (by rw [pc]; rfl)
    have hbegun' := begun_step hs t
    rw [if_neg (by simp), Nat.add_zero, hbegun] at hbegun'
    have hcounters := hstep.counters t
    refine ⟨⟨⟨dest_ttl, size, ?_, ?_⟩, ?_⟩, ?_⟩
    · cases hstep with
      | pmtudRegister pc' =>
        cases pc.symm.trans pc'
        simp [pmtudKey]
      | move move => cases move
      | shift shift => cases shift
    · simp only [pmtudKey, hcounters.2.2]
      simp
    · show Aged env s' _ t (s'.begun t - 1) s.now
      rw [hbegun', Nat.add_sub_cancel]
      exact haged.step hp hs
    · have hclass : (s.pmtudKey t dest_ttl).is_pmtud = true := rfl
      rw [hnumber, if_pos hclass, notePace_pmtud_sent hstep, if_neg (by simp), Nat.add_zero]

/-- A probe that an engine is sending belongs to the newest round. -/
theorem dated_sendingProbe {e : SentProbe} (hseq : Sequenced env s p) (he : s.sendingProbe p t = some e)
    (ha : a = .sendOk t ∨ a = .pmtudSendOk t) (hp : Paced env (s, p) a) (hs : step env s a = some s') :
    Dated env s' (notePace env p s a) e.key e.time e.number := by
  unfold sendingProbe at he
  split at he
  · next flow_id ttl todo pc =>
    obtain rfl := Option.some.inj he
    obtain ⟨-, haged⟩ := @Aged.newest env s p t (by rw [pc]; rfl)
    have hnodup := hseq.turns t
    rw [pc] at hnodup
    have hdated : Dated env s p (s.normalKey t flow_id ttl) s.now (s.engines t).rounds_completed := by
      refine .normal _ rfl haged (hseq.seq t) fun _ => ?_
      simp only [normalKey, pc, EnginePc.remaining, Option.getD_some]
      exact ⟨by simp, (List.nodup_cons.mp hnodup).1⟩
    exact hdated.step hp hs
  · next dest_ttl size pc =>
    obtain rfl := Option.some.inj he
    obtain ⟨hbegun, haged⟩ := @Aged.newest env s p t (by rw [pc]; rfl)
    have hheld : Held env s p (s.pmtudKey t dest_ttl) s.now := by
      refine ⟨⟨dest_ttl, size, pc, rfl⟩, ?_⟩
      show Aged env s p t (s.begun t - 1) s.now
      rw [hbegun, Nat.add_sub_cancel]
      exact haged
    -- The engine sends a path MTU probe and no normal one.
    rcases ha with rfl | rfl
    · cases Step.of_step hs with
      | sendOk pc' => cases pc.symm.trans pc'
      | move move => cases move
      | shift shift => cases shift
    · exact hheld.sent hseq hp hs
  · cases he

/-- A probe that was sent belongs to its round. -/
theorem dated_sent {e : SentProbe} (hseq : Sequenced env s p) (hp : Paced env (s, p) a)
    (hs : step env s a = some s') (hm : e ∈ (notePace env p s a).sent) :
    Dated env s' (notePace env p s a) e.key e.time e.number := by
  rcases @notePace_sent env s p a with hsame | ⟨t, ha, hsent⟩
  · rw [hsame] at hm
    exact (hseq.sent e hm).step hp hs
  · rw [hsent] at hm
    rcases List.mem_append.mp hm with hm | hm
    · exact dated_sendingProbe hseq (Option.mem_toList.mp hm) ha hp hs
    · exact (hseq.sent e hm).step hp hs

/-- What is pending was not overdue at the last sweep: a sweep leaves no such entry. -/
theorem Sequenced.young_step (h : Sequenced env s p) (hstep : Step env s a s') {key : PendingKey}
    {probe : PendingProbe} (hl : s'.pending.lookup key = some probe) :
    (notePace env p s a).swept ≤ probe.sent_at + env.base.timeout := by
  rcases @notePace_swept env s p a with he | ⟨he, b, rfl⟩
  · rw [he]
    rcases hstep.lookup_pending hl with hl | hr
    · exact h.young key probe hl
    · rw [hr.agrees.2]
      exact h.swept.trans (Nat.le_add_right _ _)
  · -- What the sweep leaves is not overdue.
    rw [he]
    cases hstep with
    | @expire _ flush phase =>
      obtain ⟨-, hkeep⟩ := KeyMap.lookup_retain_eq_some.mp hl
      simp only [expires, Bool.not_eq_true', Bool.or_eq_false_iff, decide_eq_false_iff_not] at hkeep
      have hage : ¬ env.base.timeout < s.now - probe.sent_at := hkeep.2
      omega
    | move move => cases move
    | shift shift => cases shift

/-- What is pending belongs to its round, or is held by its engine. -/
theorem Sequenced.pending_step (h : Sequenced env s p) (hp : Paced env (s, p) a) (hs : step env s a = some s')
    {key : PendingKey} {probe : PendingProbe} (hl : s'.pending.lookup key = some probe) :
    Dated env s' (notePace env p s a) key probe.sent_at ((notePace env p s a).number key) ∨
      Held env s' (notePace env p s a) key probe.sent_at ∧
        (notePace env p s a).number key = (notePace env p s a).pmtud_sent key.target := by
  have hstep := Step.of_step hs
  by_cases hregisters : ∃ new, Registers env s a key new
  · obtain ⟨new, hr⟩ := hregisters
    obtain rfl : probe = new := Option.some.inj (hl.symm.trans (hr.lookup hstep))
    rw [hr.agrees.2]
    exact hr.dated h hp hs
  · push Not at hregisters
    have hold := (hstep.lookup_pending hl).resolve_right (hregisters probe)
    rcases h.pending key probe hold with hd | ⟨hheld, hnumber⟩
    · left
      rw [notePace_number hregisters]
      exact hd.step hp hs
    · exact hheld.step hnumber h hp hs (AList.lookup_isSome.mp (by rw [hl]; rfl))

/-- Every step of its pace keeps the numbers in sequence. -/
theorem Sequenced.step (h : Sequenced env s p) (hp : Paced env (s, p) a)
    (hs : step env s a = some s') : Sequenced env s' (notePace env p s a) where
  seq := by
    intro t
    obtain ⟨hrounds, hseq, -⟩ := (Step.of_step hs).counters t
    rw [hrounds, hseq, h.seq t]
    split_ifs <;> simp [UInt8.ofNat_add]
  pmtud_seq := by
    intro t
    have hstep := Step.of_step hs
    rw [(hstep.counters t).2.2, notePace_pmtud_sent hstep, h.pmtud_seq t]
    split_ifs <;> simp [UInt8.ofNat_add]
  turns t := (Step.of_step hs).turns (h.turns t)
  most t count hcount := begun_le_step hcount (h.most t count hcount) hs
  started := by
    intro t τ hτ
    have hnow := (Step.of_step hs).now_le
    rw [notePace_started] at hτ
    split_ifs at hτ with hb
    · obtain rfl := Option.some.inj hτ
      exact hnow
    · exact (h.started t τ hτ).trans hnow
  swept := by
    have hnow := (Step.of_step hs).now_le
    rcases @notePace_swept env s p a with he | ⟨he, -⟩
    · rw [he]
      exact h.swept.trans hnow
    · rw [he]
      exact hnow
  young _ _ hl := h.young_step (Step.of_step hs) hl
  pending _ _ hl := h.pending_step hp hs hl
  sent _ hm := dated_sent h hp hs hm

/-- No probe is numbered at the start. -/
theorem sequenced_init (targets : List IpAddr) (now : ℕ) :
    Sequenced env (init env targets now) (.start now) where
  seq := fun t => rfl
  pmtud_seq := fun t => rfl
  turns := by
    intro t
    simp only [init]
    split_ifs <;> exact List.nodup_nil
  most := by
    intro t count _
    rw [begun_init]
    exact Nat.zero_le _
  started := by intro t τ h; cases h
  swept := le_rfl
  young := by intro key probe h; cases h
  pending := by intro key probe h; cases h
  sent := by intro e h; cases h

/-! ## Taking a key again -/

/-- A sequence number comes back after 256 others. -/
theorem add_256_le {i j : ℕ} (h : UInt8.ofNat i = UInt8.ofNat j) (hlt : i < j) : i + 256 ≤ j := by
  have hto := congrArg UInt8.toNat h
  rw [UInt8.toNat_ofNat', UInt8.toNat_ofNat'] at hto
  omega

/-- The numbers of a target's probes of a class are below this. -/
def numbers (s : Tracer) (p : Pace) (t : IpAddr) (is_pmtud : Bool) : ℕ :=
  if is_pmtud then p.pmtud_sent t + (s.engines t).pc.beforePmtud.toNat else s.begun t

/-- The sequence number of a probe is its number, cut to eight bits. -/
theorem Dated.seq_eq {key : PendingKey} {time n : ℕ} (h : Dated env s p key time n) :
    key.probe_id.seq = UInt8.ofNat n := by
  cases h with
  | normal _ _ seq _ => exact seq
  | pmtud _ _ _ seq _ _ => exact seq

/-- A probe is among the numbered ones. -/
theorem Dated.lt_numbers {key : PendingKey} {time n : ℕ} (h : Dated env s p key time n) :
    n < s.numbers p key.target key.is_pmtud := by
  cases h with
  | normal normal aged _ _ =>
    rw [normal]
    exact aged.begun
  | pmtud _ pmtud _ _ lt _ =>
    rw [pmtud]
    exact lt.trans_le (Nat.le_add_right _ _)

/-- When 256 numbers have been given after a probe's, the rounds since its own are 255 and the newest. -/
theorem Dated.behind {key : PendingKey} {time n : ℕ} (h : Dated env s p key time n)
    (hn : n + 256 < s.numbers p key.target key.is_pmtud) :
    ∃ j, Aged env s p key.target j time ∧ j + 255 + 2 ≤ s.begun key.target := by
  cases h with
  | normal normal aged _ _ =>
    rw [normal] at hn
    have hbegun : n + 256 < s.begun key.target := hn
    exact ⟨n, aged, by omega⟩
  | pmtud j pmtud aged _ _ rounds =>
    rw [pmtud] at hn
    have hsent : n + 256 < p.pmtud_sent key.target + (s.engines key.target).pc.beforePmtud.toNat := hn
    exact ⟨j, aged, by omega⟩

/-- A pending probe has its number cut to eight bits, and is among the numbered ones. -/
theorem Sequenced.number (h : Sequenced env s p) {key : PendingKey} {probe : PendingProbe}
    (hl : s.pending.lookup key = some probe) :
    key.probe_id.seq = UInt8.ofNat (p.number key) ∧
      p.number key < s.numbers p key.target key.is_pmtud := by
  rcases h.pending key probe hl with hd | ⟨⟨⟨dest_ttl, size, hpc, hkey⟩, -⟩, hnumber⟩
  · exact ⟨hd.seq_eq, hd.lt_numbers⟩
  · have hclass : key.is_pmtud = true := by rw [hkey]; rfl
    have hseq : key.probe_id.seq = (s.engines key.target).pmtud_seq := by rw [hkey]; rfl
    refine ⟨by rw [hseq, hnumber, h.pmtud_seq], ?_⟩
    rw [hnumber, numbers, if_pos hclass, hpc]
    exact Nat.lt_succ_self _

/-- The probe that an engine is sending is the last one numbered. -/
theorem numbers_of_sendingProbe {e : SentProbe} (h : s.sendingProbe p t = some e) :
    e.number + 1 = s.numbers p e.key.target e.key.is_pmtud := by
  unfold sendingProbe at h
  split at h
  · next pc =>
    obtain rfl := Option.some.inj h
    show (s.engines t).rounds_completed + 1 = s.begun t
    rw [Tracer.begun, pc]
    rfl
  · next pc =>
    obtain rfl := Option.some.inj h
    simp only [numbers, pmtudKey, pc, if_true]
    rfl
  · cases h

/-- When a key is taken again, the rounds since the earlier probe's are 255 and the newest. -/
theorem Dated.again {key : PendingKey} {probe : PendingProbe} {time n : ℕ}
    (h : Dated env s p key time n) (hseq : Sequenced env s p) (hr : Registers env s a key probe) :
    ∃ j, Aged env s p key.target j time ∧ j + 255 + 2 ≤ s.begun key.target := by
  cases hr with
  | @normal t flow_id ttl todo pc =>
    obtain ⟨hbegun, -⟩ := @Aged.newest env s p t (by rw [pc]; rfl)
    have hkey : UInt8.ofNat (s.engines t).rounds_completed = UInt8.ofNat n :=
      (hseq.seq t).symm.trans h.seq_eq
    have hle : n < s.begun t := h.lt_numbers
    -- The flow and the TTL have their turn in this round only now.
    have hne : n + 1 ≠ s.begun t := by
      intro hn
      cases h with
      | normal _ _ _ turn =>
        have hturn := (turn hn).2
        simp only [normalKey, pc, EnginePc.remaining, Option.getD_some] at hturn
        exact hturn List.mem_cons_self
      | pmtud _ pmtud _ _ _ _ => cases pmtud
    have hfar := add_256_le hkey.symm (by omega)
    refine h.behind ?_
    show n + 256 < s.begun t
    omega
  | @pmtud t dest_ttl size pc =>
    have hkey : UInt8.ofNat (p.pmtud_sent t) = UInt8.ofNat n := (hseq.pmtud_seq t).symm.trans h.seq_eq
    have hlt : n < p.pmtud_sent t := by
      cases h with
      | normal normal _ _ _ => cases normal
      | pmtud _ _ _ _ lt _ => exact lt
    have hfar := add_256_le hkey.symm hlt
    refine h.behind ?_
    simp only [numbers, pmtudKey, pc, EnginePc.beforePmtud, Bool.toNat_true, if_true]
    omega

/-- An engine has few rounds, or its intervals leave a probe the time to leave the map before its
sequence number comes back. -/
def Roomy (env : Env) : Prop :=
  env.base.count.any (· ≤ 256) = true ∨ env.base.timeout + readTimeout < 255 * env.base.interval

instance (env : Env) : Decidable (Roomy env) := inferInstanceAs (Decidable (_ ∨ _))

/-- A round that is 255 and the newest before has been left behind for as many intervals, and only in a run
of more than 256 rounds. -/
theorem Aged.far {j time : ℕ} (h : Aged env s p t j time) (hseq : Sequenced env s p)
    (hfar : j + 255 + 2 ≤ s.begun t) :
    env.base.count.any (· ≤ 256) = false ∧ time + 255 * env.base.interval ≤ s.now := by
  constructor
  · rw [Bool.eq_false_iff]
    intro hcount
    -- The engine does not come so far.
    obtain ⟨count, hcount, hle⟩ := (Option.any_eq_true _ _).mp hcount
    have hmost := hseq.most t count hcount
    have hle := of_decide_eq_true hle
    omega
  · obtain ⟨τ, hτ, hle⟩ := h.since 255 hfar
    exact hle.trans (hseq.started t τ hτ)

/-- A key that is taken again was last taken for longer than a probe stays in the map. -/
theorem Dated.far {key : PendingKey} {probe : PendingProbe} {time n : ℕ}
    (h : Dated env s p key time n) (hseq : Sequenced env s p) (hroomy : Roomy env)
    (hr : Registers env s a key probe) : time + env.base.timeout + readTimeout < s.now := by
  obtain ⟨j, haged, hfar⟩ := h.again hseq hr
  obtain ⟨hcount, htime⟩ := haged.far hseq hfar
  have hshort := hroomy.resolve_left (by rw [hcount]; simp)
  omega

/-- A step of a paced run registers no key that is pending. -/
theorem Sequenced.fresh (h : Sequenced env s p) (hroomy : Roomy env) (hp : Paced env (s, p) a) :
    Fresh env s a := by
  intro key probe hr hm
  obtain ⟨old, hl⟩ := Option.isSome_iff_exists.mp (AList.lookup_isSome.mpr hm)
  have hswept : s.now ≤ p.swept + readTimeout := by
    cases hr with
    | normal pc => exact hp
    | pmtud pc => exact hp
  have hyoung := h.young key old hl
  rcases h.pending key old hl with hd | ⟨⟨⟨dest_ttl, size, hpc, hkey⟩, -⟩, -⟩
  · have hfar := hd.far h hroomy hr
    omega
  · -- The path MTU probe that is about to be sent is the engine's only one.
    cases hr with
    | normal pc =>
      have hclass := congrArg PendingKey.is_pmtud hkey
      cases hclass
    | pmtud pc => cases hpc.symm.trans pc

/-- Within 255 intervals of a probe, no newer one of its target and class with its sequence number is
pending. -/
theorem Sequenced.not_newer (h : Sequenced env s p) {e : SentProbe}
    (he : e ∈ p.sent ∨ ∃ t, s.sendingProbe p t = some e) (hprompt : e.Prompt env s.now) {key : PendingKey}
    {probe : PendingProbe} (hl : s.pending.lookup key = some probe)
    (hseq : e.key.probe_id.seq = key.probe_id.seq) (htarget : e.key.target = key.target)
    (hclass : e.key.is_pmtud = key.is_pmtud) : p.number key ≤ e.number := by
  obtain ⟨hnumber, hlt⟩ := h.number hl
  rw [← htarget, ← hclass] at hlt
  rcases he with he | ⟨t, he⟩
  · by_contra hnewer
    have hdated := h.sent e he
    have hwrapped : UInt8.ofNat e.number = UInt8.ofNat (p.number key) := by
      rw [← hnumber, ← hseq, hdated.seq_eq]
    have hapart := add_256_le hwrapped (by omega)
    obtain ⟨j, haged, hfar⟩ := hdated.behind (by omega)
    obtain ⟨hcount, htime⟩ := haged.far h hfar
    have hsoon := hprompt.resolve_left (by rw [hcount]; simp)
    omega
  · -- A probe that is being sent is the newest.
    have hnewest := numbers_of_sendingProbe he
    omega

/-- What a step must do in a run that keeps clear of the wrap: it registers no key that is pending, and none
of a probe that was sent within the timeout and a read timeout; and a reply takes no probe that is newer
than one that it may answer, of the same target and class and with the reply's `ProbeId`. -/
structure KeepsClear (env : Env) (x : Tracer × Pace) (a : Action) : Prop where
  absent : ∀ key probe, Registers env x.1 a key probe → key ∉ x.1.pending
  apart : ∀ key probe, Registers env x.1 a key probe →
    ∀ e ∈ x.2.sent, e.key = key → e.time + env.base.timeout + readTimeout < x.1.now
  own : ∀ parsed key probe, Takes env x.1 a parsed key probe →
    ∀ e, (e ∈ x.2.sent ∨ ∃ t, x.1.sendingProbe x.2 t = some e) → e.key.probe_id = parsed.probe_id →
      e.key.target = key.target → e.key.is_pmtud = key.is_pmtud → e.Prompt env x.1.now →
      x.2.number key ≤ e.number

/-- The steps of a paced run keep clear of the wrap. -/
theorem Sequenced.keepsClear (h : Sequenced env s p) (hroomy : Roomy env) (hp : Paced env (s, p) a) :
    KeepsClear env (s, p) a where
  absent := h.fresh hroomy hp
  apart := by
    rintro key probe hr e hm rfl
    exact (h.sent e hm).far h hroomy hr
  own := by
    intro parsed key probe htakes e he hid htarget hclass hprompt
    obtain ⟨hl, hkey⟩ := htakes.spec
    exact h.not_newer he hprompt hl (by rw [hid, hkey]) htarget hclass

/-- In a run whose rounds begin an interval apart and whose receivers sweep in every read timeout, no step
registers a key that is pending, or one of a probe that was sent within the timeout and a read timeout, when
the run is short or 255 intervals are longer than these; and no reply within 255 intervals of its probe takes
a newer one. So every key leaves the map once for each time that it is registered. -/
theorem sequence_fresh {targets : List IpAddr} {now : ℕ} {as : List Action} (hroomy : Roomy env)
    (hp : StepsMeet (recorded (notePace env) (Tracer.step env)) (Paced env)
      (init env targets now, .start now) as) :
    StepsMeet (recorded (notePace env) (Tracer.step env)) (KeepsClear env)
        (init env targets now, .start now) as ∧
      ∀ s, run (Tracer.step env) (init env targets now) as = some s →
        ∀ key, lifecycle key s.log = some (decide (key ∈ s.pending)) := by
  have hinit : Sequenced env (init env targets now) (.start now) ∧
      ∀ key, (init env targets now).Alive key := ⟨sequenced_init targets now, fun key => rfl⟩
  have hnext : ∀ (x : Tracer × Pace) a x',
      (Sequenced env x.1 x.2 ∧ ∀ key, x.1.Alive key) → Paced env x a →
      recorded (notePace env) (Tracer.step env) x a = some x' →
      Sequenced env x'.1 x'.2 ∧ ∀ key, x'.1.Alive key := by
    rintro ⟨s, p⟩ a ⟨s', p'⟩ ⟨hseq, halive⟩ hpaced hs
    obtain ⟨hs, rfl⟩ := recorded_eq_some.mp hs
    exact ⟨hseq.step hpaced hs,
      fun key => (halive key).step (hseq.fresh hroomy hpaced) (.of_step hs)⟩
  constructor
  · refine hp.of_invariant (fun x => Sequenced env x.1 x.2 ∧ ∀ key, x.1.Alive key) hnext ?_ hinit
    rintro ⟨s, p⟩ a ⟨hseq, -⟩ hpaced
    exact hseq.keepsClear hroomy hpaced
  · intro s hs
    obtain ⟨p', hrun⟩ : ∃ p', run (recorded (notePace env) (Tracer.step env))
        (init env targets now, .start now) as = some (s, p') := exists_run_recorded hs _
    exact (run_induction_of (fun _ x => Sequenced env x.1 x.2 ∧ ∀ key, x.1.Alive key) hinit
      (fun _ x a x' _ hC ih hstep => hnext x a x' ih hC hstep) as (s, p') hrun hp).2

/-- The default interval and timeout, in a run with a second round. -/
theorem sequence_fresh_defaults :
    StepsMeet (recorded (notePace (.icmp none 1 false)) (Tracer.step (.icmp none 1 false)))
        (KeepsClear (.icmp none 1 false)) (init (.icmp none 1 false) [sampleTarget] 0, .start 0)
        (answeredRound ++ [.pmtudCheck sampleTarget, .endRound sampleTarget, .clock (10^9),
          .checkCancel false, .expire false, .tick sampleTarget, .beginRound sampleTarget,
          .register sampleTarget]) ∧
      ∀ s, run (Tracer.step (.icmp none 1 false)) (init (.icmp none 1 false) [sampleTarget] 0)
          (answeredRound ++ [.pmtudCheck sampleTarget, .endRound sampleTarget, .clock (10^9),
            .checkCancel false, .expire false, .tick sampleTarget, .beginRound sampleTarget,
            .register sampleTarget]) = some s →
        ∀ key, lifecycle key s.log = some (decide (key ∈ s.pending)) :=
  sequence_fresh (by decide) (by decide)

/-- An interval of a 8192nd of a second, and a timeout of a 64th. -/
def reuseEnv : Env where
  base := ⟨some 257, 122070, 1, 15625000, .Icmp, 1, 50000, false, false⟩
  flows := fun _ => 1
  protocol := fun _ => .Icmp

/-- A round whose probe is not answered, and the interval after it. -/
def unansweredRound : List Action := roundOf sampleTarget ++ [.clock 122070]

/-- The key of the first probe. -/
def firstKey : PendingKey := ⟨⟨1, 0⟩, 0, sampleTarget, false⟩

/-- After `n` such rounds the first probe is still pending. -/
structure Unanswered (n : ℕ) (x : Tracer × Pace) : Prop where
  engine : x.1.engines sampleTarget = ⟨.waiting, UInt8.ofNat n, 0, n⟩
  session : ∃ session, x.1.sessions.lookup sampleTarget = some session ∧ session.paused = false ∧
    session.maxProbeTtl = 1
  time : x.1.now = n * 122070
  started : ∀ τ ∈ x.2.started sampleTarget, τ + 122070 ≤ x.1.now
  swept : x.2.swept = 0
  live : 0 < n → firstKey ∈ x.1.pending

/-- The begin of a round, up to the registration. -/
theorem Unanswered.begin {n : ℕ} {s : Tracer} {p : Pace} (h : Unanswered n (s, p)) (hn : n < 257) :
    run (recorded (notePace reuseEnv) (Tracer.step reuseEnv)) (s, p)
        [.tick sampleTarget, .beginRound sampleTarget] =
      some ((s.setPc sampleTarget .counted).setPc sampleTarget (.probing [(0, 1)]),
        { p with started := Function.update p.started sampleTarget (some s.now) }) ∧
      StepsMeet (recorded (notePace reuseEnv) (Tracer.step reuseEnv)) (Paced reuseEnv) (s, p)
        [.tick sampleTarget, .beginRound sampleTarget] := by
  obtain ⟨hengine, ⟨session, hsession, hpaused, hmax⟩, htime, hstarted, hswept, hlive⟩ := h
  dsimp only at hengine hsession htime hstarted hswept hlive
  have hle : ¬ 257 ≤ n := by omega
  have hbegins : s.Begins reuseEnv sampleTarget := by
    refine ⟨by rw [hengine], by rw [hsession, Option.any_some, hpaused]; rfl, ?_⟩
    rw [hengine]
    exact decide_eq_false hle
  have hcount : (reuseEnv.config sampleTarget).count = some 257 := rfl
  have horder : probeOrder (reuseEnv.config sampleTarget) 1 = [(0, 1)] := by decide
  obtain ⟨s1, hs1⟩ : ∃ s1, s1 = s.setPc sampleTarget .counted := ⟨_, rfl⟩
  have htick : Tracer.step reuseEnv s (.tick sampleTarget) = some s1 := by
    simp only [Tracer.step, hengine, hsession, hpaused, hcount, hle, Bool.false_eq_true, if_false, hs1]
  have hbegin : Tracer.step reuseEnv s1 (.beginRound sampleTarget) =
      some (s1.setPc sampleTarget (.probing [(0, 1)])) := by
    simp only [Tracer.step, hs1, setPc_sessions, hsession, setPc_engines, Function.update_self, hmax,
      horder]
  have hnote : notePace reuseEnv p s (.tick sampleTarget) =
      { p with started := Function.update p.started sampleTarget (some s.now) } := by
    rw [notePace, if_pos hbegins]
  rw [← hs1]
  constructor
  · simp only [run_cons, run_nil, recorded, htick, hbegin, Option.map_some, Option.bind_some, hnote]
    rfl
  · simp only [StepsMeet, recorded, htick, hbegin, Option.map_some, Paced, and_true]
    exact fun _ τ hτ => hstarted τ hτ

/-- A probe that leaves and is not answered, and the rest of its round. -/
def afterProbe (s : Tracer) : Tracer :=
  let key := s.normalKey sampleTarget 0 1
  let probe := normalProbe reuseEnv s sampleTarget 0
  let registered :=
    (s.setPending (s.pending.insert key probe) [.registered key probe]).setPc sampleTarget
      (.registered 0 1 [])
  let sent :=
    (registered.onSession sampleTarget (Session.recordProbeSent 0 1)).setPc sampleTarget (.probing [])
  let checked := (sent.onSession sampleTarget fun x =>
    (x.checkPmtudReady (reuseEnv.config sampleTarget)).1).setPc sampleTarget .polling
  let ended := checked.finishRound sampleTarget
  { ended with now := ended.now + 122070 }

/-- The pace after it. -/
def afterPace (s : Tracer) (p : Pace) : Pace :=
  { p with
    sent := ⟨s.normalKey sampleTarget 0 1, s.now, (s.engines sampleTarget).rounds_completed⟩ :: p.sent
    number := Function.update p.number (s.normalKey sampleTarget 0 1)
      (s.engines sampleTarget).rounds_completed }

/-- The rest of a round, from the registration on. -/
theorem run_afterProbe {s : Tracer} {p : Pace} {session : Session}
    (hpc : (s.engines sampleTarget).pc = .probing [(0, 1)])
    (hsession : s.sessions.lookup sampleTarget = some session) (hsoon : s.now ≤ p.swept + readTimeout) :
    run (recorded (notePace reuseEnv) (Tracer.step reuseEnv)) (s, p)
        [.register sampleTarget, .sendOk sampleTarget, .pmtudCheck sampleTarget, .endRound sampleTarget,
          .clock 122070] = some (afterProbe s, afterPace s p) ∧
      StepsMeet (recorded (notePace reuseEnv) (Tracer.step reuseEnv)) (Paced reuseEnv) (s, p)
        [.register sampleTarget, .sendOk sampleTarget, .pmtudCheck sampleTarget, .endRound sampleTarget,
          .clock 122070] := by
  -- The states on the way, each by the step before.
  obtain ⟨s1, hs1⟩ : ∃ s1, s1 = (s.setPending
      (s.pending.insert (s.normalKey sampleTarget 0 1) (normalProbe reuseEnv s sampleTarget 0))
      [.registered (s.normalKey sampleTarget 0 1) (normalProbe reuseEnv s sampleTarget 0)]).setPc
        sampleTarget (.registered 0 1 []) := ⟨_, rfl⟩
  have hregister : Tracer.step reuseEnv s (.register sampleTarget) = some s1 := by
    simp only [Tracer.step, hpc, hs1]
  have hpc1 : (s1.engines sampleTarget).pc = .registered 0 1 [] := by rw [hs1, pc_setPc, if_pos rfl]
  obtain ⟨s2, hs2⟩ : ∃ s2, s2 = (s1.onSession sampleTarget (Session.recordProbeSent 0 1)).setPc
      sampleTarget (.probing []) := ⟨_, rfl⟩
  have hsend : Tracer.step reuseEnv s1 (.sendOk sampleTarget) = some s2 := by
    simp only [Tracer.step, hpc1, hs2]
  have hsession2 : s2.sessions.lookup sampleTarget = some (session.recordProbeSent 0 1) := by
    simp only [hs2, hs1, setPc_sessions, onSession_sessions, setPending_sessions, KeyMap.lookup_modify,
      hsession, if_true, Option.map_some]
  obtain ⟨s3, hs3⟩ : ∃ s3, s3 = (s2.onSession sampleTarget fun x =>
      (x.checkPmtudReady (reuseEnv.config sampleTarget)).1).setPc sampleTarget .polling := ⟨_, rfl⟩
  have hcheck : Tracer.step reuseEnv s2 (.pmtudCheck sampleTarget) = some s3 := by
    have hpc2 : (s2.engines sampleTarget).pc = .probing [] := by rw [hs2, pc_setPc, if_pos rfl]
    simp only [Tracer.step, hpc2, hsession2, hs3]
    rfl
  have hend : Tracer.step reuseEnv s3 (.endRound sampleTarget) = some (s3.finishRound sampleTarget) := by
    have hpc3 : (s3.engines sampleTarget).pc = .polling := by rw [hs3, pc_setPc, if_pos rfl]
    simp only [Tracer.step, hpc3, if_true]
  have hclock (s : Tracer) :
      Tracer.step reuseEnv s (.clock 122070) = some { s with now := s.now + 122070 } := rfl
  obtain ⟨p1, hp1⟩ : ∃ p1, p1 = { p with
    number := Function.update p.number (s.normalKey sampleTarget 0 1)
      (s.engines sampleTarget).rounds_completed } := ⟨_, rfl⟩
  have hnumber : notePace reuseEnv p s (.register sampleTarget) = p1 := by
    simp only [notePace, hpc, hp1]
  have hnote : notePace reuseEnv p1 s1 (.sendOk sampleTarget) = afterPace s p := by
    have hsending : s1.sendingProbe p1 sampleTarget =
        some ⟨s.normalKey sampleTarget 0 1, s.now, (s.engines sampleTarget).rounds_completed⟩ := by
      simp only [sendingProbe, hpc1]
      simp only [hs1, normalKey, setPc_engines, Function.update_self, setPending_engines, setPc_now,
        setPending_now]
    rw [notePace, hsending, hp1]
    rfl
  have hafter : afterProbe s =
      { s3.finishRound sampleTarget with now := (s3.finishRound sampleTarget).now + 122070 } := by
    rw [hs3, hs2, hs1]
    rfl
  constructor
  · simp only [run_cons, run_nil, recorded, hregister, hsend, hcheck, hend, hclock, Option.map_some,
      Option.bind_some, hnumber, hnote]
    rw [hafter]
    rfl
  · simp only [StepsMeet, recorded, hregister, hsend, hcheck, hend, hclock, Option.map_some, Paced,
      and_true]
    exact hsoon

/-- An unanswered round. -/
theorem Unanswered.round {n : ℕ} {x : Tracer × Pace} (h : Unanswered n x) (hn : n < 257) :
    ∃ x', run (recorded (notePace reuseEnv) (Tracer.step reuseEnv)) x unansweredRound = some x' ∧
      Unanswered (n + 1) x' ∧
      StepsMeet (recorded (notePace reuseEnv) (Tracer.step reuseEnv)) (Paced reuseEnv) x
        unansweredRound := by
  obtain ⟨s, p⟩ := x
  obtain ⟨hrun, hmeet⟩ := h.begin hn
  obtain ⟨hengine, ⟨session, hsession, hpaused, hmax⟩, htime, hstarted, hswept, hlive⟩ := h
  dsimp only at hengine hsession htime hstarted hswept hlive
  obtain ⟨s', hs'⟩ : ∃ s', s' =
    (s.setPc sampleTarget .counted).setPc sampleTarget (.probing [(0, 1)]) := ⟨_, rfl⟩
  rw [← hs'] at hrun
  have hpc : (s'.engines sampleTarget).pc = .probing [(0, 1)] := by rw [hs', pc_setPc, if_pos rfl]
  have hsession' : s'.sessions.lookup sampleTarget = some session := by
    rw [hs', setPc_sessions, setPc_sessions, hsession]
  have hkey : s'.normalKey sampleTarget 0 1 = ⟨⟨1, UInt8.ofNat n⟩, 0, sampleTarget, false⟩ := by
    simp only [normalKey, hs', setPc_engines, Function.update_self, hengine]
  have hnow : s'.now = s.now := by rw [hs', setPc_now, setPc_now]
  have hsoon : s'.now ≤ p.swept + readTimeout := by
    rw [hnow, htime, hswept, readTimeout]
    omega
  obtain ⟨hrun', hmeet'⟩ := run_afterProbe (p := { p with
    started := Function.update p.started sampleTarget (some s.now) }) hpc hsession' hsoon
  have hround : unansweredRound = [.tick sampleTarget, .beginRound sampleTarget] ++
    [.register sampleTarget, .sendOk sampleTarget, .pmtudCheck sampleTarget, .endRound sampleTarget,
      .clock 122070] := rfl
  rw [hround]
  refine ⟨_, run_trans hrun hrun', ⟨?_, ?_, ?_, ?_, hswept, ?_⟩, hmeet.append hrun hmeet'⟩
  · simp only [afterProbe, hs', finishRound_engines, setPc_engines, onSession_engines,
      setPending_engines, Function.update_self, hengine]
    rw [UInt8.ofNat_add]
    rfl
  · refine ⟨session.recordProbeSent 0 1, ?_, hpaused, hmax⟩
    simp only [afterProbe, finishRound_sessions, setPc_sessions, onSession_sessions, setPending_sessions,
      KeyMap.lookup_modify, hsession', if_true, Option.map_some]
    rfl
  · show s'.now + 122070 = _
    rw [hnow, htime, Nat.succ_mul]
  · intro τ hτ
    have hstart : (Function.update p.started sampleTarget (some s.now)) sampleTarget = some s.now :=
      Function.update_self ..
    obtain rfl := Option.some.inj (hstart.symm.trans hτ)
    show _ ≤ s'.now + 122070
    rw [hnow]
  · intro _
    simp only [afterProbe, finishRound_pending, setPc_pending, onSession_pending, setPending_pending,
      AList.mem_insert, hkey]
    -- The first round registers the key, and later ones leave it.
    rcases Nat.eq_zero_or_pos n with rfl | hpos
    · exact Or.inl rfl
    · refine Or.inr ?_
      rw [hs']
      exact hlive hpos

/-- Up to round 257 no probe of the sample is answered. -/
theorem unanswered_rounds {n : ℕ} (hn : n ≤ 257) :
    ∃ x, run (recorded (notePace reuseEnv) (Tracer.step reuseEnv))
        (init reuseEnv [sampleTarget] 0, .start 0) (List.replicate n unansweredRound).flatten = some x ∧
      Unanswered n x ∧
      StepsMeet (recorded (notePace reuseEnv) (Tracer.step reuseEnv)) (Paced reuseEnv)
        (init reuseEnv [sampleTarget] 0, .start 0) (List.replicate n unansweredRound).flatten := by
  induction n with
  | zero =>
    refine ⟨_, rfl, ⟨rfl, ⟨_, rfl, rfl, rfl⟩, rfl, ?_, rfl, ?_⟩, trivial⟩
    · intro τ hτ
      cases hτ
    · intro h
      exact absurd h (Nat.lt_irrefl 0)
  | succ n ih =>
    obtain ⟨x, hrun, hx, hmeet⟩ := ih (by omega)
    obtain ⟨x', hrun', hx', hmeet'⟩ := hx.round (by omega)
    rw [List.replicate_succ', List.flatten_append, List.flatten_singleton]
    exact ⟨x', run_trans hrun hrun', hx', hmeet.append hrun hmeet'⟩

/-- Arguments that are accepted, for 257 rounds of one probe, all within the first read timeout: the last
round takes the key of the first one, which is still pending. -/
theorem sequence_fresh_fails_reuse :
    (∀ host, { sampleArgs with
        count := 257, interval := .finite (1 / 8192), timeout := .finite (1 / 64) }.validate host =
      .ok ()) ∧
    { sampleArgs with
      count := 257, interval := .finite (1 / 8192), timeout := .finite (1 / 64) }.config .Icmp 1 =
      reuseEnv.base ∧
    StepsMeet (recorded (notePace reuseEnv) (Tracer.step reuseEnv)) (Paced reuseEnv)
      (init reuseEnv [sampleTarget] 0, .start 0)
      ((List.replicate 256 unansweredRound).flatten ++
        [.tick sampleTarget, .beginRound sampleTarget]) ∧
    ∃ x, run (recorded (notePace reuseEnv) (Tracer.step reuseEnv))
        (init reuseEnv [sampleTarget] 0, .start 0)
        ((List.replicate 256 unansweredRound).flatten ++
          [.tick sampleTarget, .beginRound sampleTarget]) = some x ∧
      Paced reuseEnv x (.register sampleTarget) ∧
      (∃ probe, Registers reuseEnv x.1 (.register sampleTarget) firstKey probe) ∧
      firstKey ∈ x.1.pending := by
  obtain ⟨⟨s, p⟩, hrun, hx, hmeet⟩ := unanswered_rounds (show 256 ≤ 257 by omega)
  obtain ⟨hrun', hmeet'⟩ := hx.begin (by omega)
  have hkey : ((s.setPc sampleTarget .counted).setPc sampleTarget (.probing [(0, 1)])).normalKey
      sampleTarget 0 1 = firstKey := by
    have hengine : s.engines sampleTarget = ⟨.waiting, 0, 0, 256⟩ := hx.engine
    simp only [normalKey, setPc_engines, Function.update_self, hengine, firstKey]
  have hregisters : ∃ probe, Registers reuseEnv
      ((s.setPc sampleTarget .counted).setPc sampleTarget (.probing [(0, 1)]))
      (.register sampleTarget) firstKey probe := by
    rw [← hkey]
    exact ⟨_, .normal (by rw [pc_setPc, if_pos rfl])⟩
  refine ⟨fun host => ?_, by decide +kernel, hmeet.append hrun hmeet', _, run_trans hrun hrun', ?_,
    hregisters, ?_⟩
  · with_unfolding_all rfl
  · show s.now ≤ p.swept + readTimeout
    have htime : s.now = 256 * 122070 := hx.time
    have hswept : p.swept = 0 := hx.swept
    rw [htime, hswept, readTimeout]
    omega
  · exact hx.live (by omega)

end

end Tracer

end Ttl
