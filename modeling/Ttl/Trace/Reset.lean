import Ttl.Trace.Aggregates

/-!
# Resets with probes in flight

`reset_stats` clears a session, and knows nothing of the probes in flight, which the pending map, the
batches and the engine hold. The module follows every key: what is counted as answered or timed out since
the last reset, and what is in flight, against what is counted as sent since then and what is about to be.

The two sides stay in order as long as a reset finds nothing in flight that was counted as sent, a failed
send finds its entry still pending, and no outcome is counted before its probe is (`Clean`). Then every
outcome counted since a reset is that of a probe sent since that reset, and no hop counts more of them than
probes (`reset_accounting`).
-/

namespace Ttl

open Runs

/-- The probes that a receiver has taken from the pending map and not yet counted. -/
def Receiver.held (r : Receiver) : List PendingKey :=
  r.batch.map BatchedResponse.key ++ r.timedOut.map Prod.fst

/-- The probe that the poll of a target's engine has taken and not yet counted. -/
@[simp]
def EnginePc.held (target : IpAddr) : EnginePc → List PendingKey
  | .polled resp => [resp.key target]
  | _ => []

/-- The normal probe that a target's engine has registered and not yet counted as sent. -/
@[simp]
def EnginePc.sending (target : IpAddr) (seq : UInt8) : EnginePc → List PendingKey
  | .registered flow_id ttl _ => [⟨⟨ttl, seq⟩, flow_id, target, false⟩]
  | _ => []

namespace Tracer

/-- The probes in flight, with those that the engine of the target `t` holds. -/
def inFlight (s : Tracer) (t : IpAddr) : List PendingKey :=
  s.pending.keys ++ ((s.receivers false).held ++ (s.receivers true).held) ++ (s.engines t).pc.held t

/-- The normal probe of `t` that is registered and not yet counted as sent. -/
def sending (s : Tracer) (t : IpAddr) : List PendingKey :=
  (s.engines t).pc.sending t (s.engines t).seq

/-- The probe that an action counts as sent. -/
def sends (s : Tracer) : Action → List PendingKey
  | .sendOk t => s.sending t
  | _ => []

/-- The probe that an action counts as answered or timed out. -/
def counts (s : Tracer) : Action → List PendingKey
  | .apply b => (s.receivers b).batch.head?.toList.map BatchedResponse.key
  | .recordTimeout b => (s.receivers b).timedOut.head?.toList.map Prod.fst
  | .pollApply t => (s.engines t).pc.held t
  | _ => []

/-- What a step must not do: reset a session while a probe that it counts as sent is in flight, fail to
send a probe whose entry has been removed since its registration, or count the outcome of a probe that is
not yet counted as sent. -/
def Clean (s : Tracer) : Action → Prop
  | .reset t => ∀ key ∈ s.inFlight t, key.target = t → key.is_pmtud = false →
      (s.inFlight t).count key ≤ (s.sending t).count key
  | .sendErr t => ∀ key ∈ s.sending t, key ∈ s.pending
  | a => ∀ key ∈ s.counts a, key ∉ s.sending key.target

instance (s : Tracer) : DecidablePred s.Clean := fun a => by
  apply @Action.casesOn (fun a => Decidable (s.Clean a)) a <;> intros <;> dsimp only [Clean] <;>
    infer_instance

/-- The normal and path MTU probes counted since the last reset of their target: as sent, and as answered
or timed out. -/
structure Since where
  sent : List PendingKey
  counted : List PendingKey

/-- What an action counts, and a reset forgets. -/
def Since.note (h : Since) (s : Tracer) : Action → Since
  | .reset t => ⟨h.sent.filter (·.target ≠ t), h.counted.filter (·.target ≠ t)⟩
  | a => ⟨h.sent ++ s.sends a, h.counted ++ s.counts a⟩

section

variable {env : Env} {s s' : Tracer} {a : Action} {t : IpAddr} {key : PendingKey}

/-! ## How the probes in flight change -/

/-- The probes of a key in flight, by where they are. -/
theorem count_inFlight :
    (s.inFlight t).count key = s.pending.keys.count key +
      (s.overReceivers fun r => r.held.count key) + ((s.engines t).pc.held t).count key := by
  simp only [inFlight, overReceivers, List.count_append]

/-- A key that leaves the pending map was there once. -/
theorem count_keys_erase (m : PendingMap) (key' : PendingKey) (h : key' ∈ m) :
    m.keys.count key = (m.erase key').keys.count key + [key'].count key := by
  rw [AList.keys_erase, (List.perm_cons_erase (AList.mem_keys.mp h)).count_eq, ← List.singleton_append,
    List.count_append, Nat.add_comm]

/-- The expired and the surviving keys are all keys. -/
theorem count_keys_expire (b flush : Bool) :
    s.pending.keys.count key = (surviving env s b flush).keys.count key +
      ((expiring env s b flush).map Prod.fst).count key := by
  have hperm := List.filter_append_perm (fun e => ! expires env s b flush e.2) s.pending.entries
  have hmap := (hperm.map Sigma.fst).count_eq key
  rw [List.map_append, List.count_append] at hmap
  have hsurv : (surviving env s b flush).keys =
      (s.pending.entries.filter fun e => ! expires env s b flush e.2).map Sigma.fst := rfl
  have hexp : (expiring env s b flush).map Prod.fst =
      (s.pending.entries.filter fun e => ! ! expires env s b flush e.2).map Sigma.fst := by
    simp [expiring, Function.comp_def]
  rw [hsurv, hexp, hmap]
  rfl

/-- What a step makes of the probes of a key: none comes from nowhere, and one that is about to be counted
as sent is in flight, if it was and no outcome of it is counted. -/
structure Flow (s s' : Tracer) (a : Action) (key : PendingKey) : Prop where
  conserved : (s.counts a).count key + (s'.inFlight key.target).count key +
      (s.sending key.target).count key ≤
    (s.inFlight key.target).count key + (s.sends a).count key + (s'.sending key.target).count key
  kept : (s'.sending key.target).count key ≤ (s'.inFlight key.target).count key ∨
    (s'.sending key.target).count key ≤ (s.sending key.target).count key ∧
      (s.inFlight key.target).count key ≤ (s'.inFlight key.target).count key + (s.counts a).count key

/-- A step that counts nothing, and changes neither what is in flight nor what is about to be sent. -/
theorem Flow.quiet (counts : s.counts a = []) (sends : s.sends a = [])
    (flight : (s'.inFlight key.target).count key = (s.inFlight key.target).count key)
    (sending : (s'.sending key.target).count key = (s.sending key.target).count key) :
    Flow s s' a key := by
  constructor
  · rw [counts, sends, flight, sending, List.count_nil]
    omega
  · rw [counts, flight, sending, List.count_nil]
    exact Or.inr ⟨le_rfl, le_rfl⟩

/-- An engine that holds nothing and sends nothing, before and after. -/
theorem Flow.of_engine (t' : IpAddr) (counts : s.counts a = []) (sends : s.sends a = [])
    (receivers : s'.receivers = s.receivers) (pending : s'.pending = s.pending)
    (others : ∀ u, u ≠ t' → s'.engines u = s.engines u)
    (before : (s.engines t').pc.held t' = [] ∧ s.sending t' = [])
    (after : (s'.engines t').pc.held t' = [] ∧ s'.sending t' = []) : Flow s s' a key := by
  have hreceivers : (s'.overReceivers fun r => r.held.count key) =
      s.overReceivers fun r => r.held.count key := by rw [overReceivers, receivers]; rfl
  rcases eq_or_ne key.target t' with ht | ht
  · refine .quiet counts sends ?_ ?_
    · rw [count_inFlight, count_inFlight, hreceivers, pending, ht, before.1, after.1]
    · rw [ht, before.2, after.2]
  · have hengine := others key.target ht
    refine .quiet counts sends ?_ ?_
    · rw [count_inFlight, count_inFlight, hreceivers, pending, hengine]
    · rw [sending, hengine]
      rfl

/-- An engine that moves between places where it holds nothing and sends nothing. -/
theorem Move.idle {t' : IpAddr} {pc : EnginePc} (h : Move env s t' a pc) :
    (s.counts a = [] ∧ s.sends a = []) ∧ ((s.engines t').pc.held t' = [] ∧ s.sending t' = []) ∧
      pc.held t' = [] ∧ pc.sending t' (s.engines t').seq = [] := by
  cases h with
  | counted pc | stop pc _ | beginRound pc _ | skip pc | noPmtud pc | sized pc _ _ | unsized pc
  | pmtudAbort pc =>
    unfold sending
    rw [pc]
    exact ⟨⟨rfl, rfl⟩, ⟨rfl, rfl⟩, rfl, rfl⟩

/-- An engine that is set to another place where it holds nothing and sends nothing. -/
theorem Flow.setPc {s₁ : Tracer} {t' : IpAddr} {pc : EnginePc} (counts : s.counts a = [])
    (sends : s.sends a = []) (receivers : s₁.receivers = s.receivers) (pending : s₁.pending = s.pending)
    (engines : s₁.engines = s.engines)
    (before : (s.engines t').pc.held t' = [] ∧ s.sending t' = [])
    (after : pc.held t' = [] ∧ ∀ seq, pc.sending t' seq = []) : Flow s (s₁.setPc t' pc) a key := by
  refine .of_engine t' counts sends receivers pending (fun u hu => ?_) before ?_
  · rw [setPc_engines, Function.update_of_ne hu, engines]
  · unfold sending
    rw [pc_setPc, if_pos rfl]
    exact ⟨after.1, after.2 _⟩

/-- A receiver that moves and keeps what it holds. -/
theorem Flow.of_receiver {s₁ : Tracer} {b : Bool} {phase : ReceiverPhase} (counts : s.counts a = [])
    (sends : s.sends a = []) (receivers : s₁.receivers = s.receivers) (pending : s₁.pending = s.pending)
    (engines : s₁.engines = s.engines)
    (held : Receiver.held ⟨phase, (s.receivers b).batch⟩ = (s.receivers b).held) :
    Flow s (s₁.setReceiver b ⟨phase, (s.receivers b).batch⟩) a key := by
  refine .quiet counts sends ?_ ?_
  · have hsum := @overReceivers_setReceiver s₁ b ⟨phase, (s.receivers b).batch⟩
      fun r => r.held.count key
    have hsame : (s₁.overReceivers fun r => r.held.count key) =
        s.overReceivers fun r => r.held.count key := by rw [overReceivers, receivers]; rfl
    rw [receivers, held, hsame] at hsum
    rw [count_inFlight, count_inFlight, setReceiver_pending, pending, setReceiver_engines, engines]
    omega
  · unfold sending
    rw [setReceiver_engines, engines]

/-! ## The steps that move a probe -/

/-- What is in flight and what is about to be sent, of a state whose pending map and whose engine of one
target are known. -/
theorem flow_engine {s₁ : Tracer} {t' : IpAddr} {pc : EnginePc} (receivers : s₁.receivers = s.receivers)
    (engines : s₁.engines = s.engines) :
    ((s₁.setPc t' pc).inFlight key.target).count key = s₁.pending.keys.count key +
        (s.overReceivers fun r => r.held.count key) +
        (if key.target = t' then (pc.held t').count key
          else ((s.engines key.target).pc.held key.target).count key) ∧
      ((s₁.setPc t' pc).sending key.target).count key =
        if key.target = t' then (pc.sending t' (s.engines t').seq).count key
          else (s.sending key.target).count key := by
  have hreceivers : ((s₁.setPc t' pc).overReceivers fun r => r.held.count key) =
      s.overReceivers fun r => r.held.count key := by
    show (s₁.overReceivers fun r => r.held.count key) = _
    rw [overReceivers, receivers]
    rfl
  rw [count_inFlight, hreceivers]
  unfold sending
  rw [setPc_engines, engines, setPc_pending]
  by_cases ht : key.target = t'
  · rw [if_pos ht, if_pos ht, ht, Function.update_self]
    exact ⟨rfl, rfl⟩
  · rw [if_neg ht, if_neg ht, Function.update_of_ne ht]
    exact ⟨rfl, rfl⟩

/-- A target's engine at a known place. -/
theorem flow_of_pc {t' : IpAddr} {pc : EnginePc} (h : (s.engines t').pc = pc) :
    (s.engines t').pc.held t' = pc.held t' ∧ s.sending t' = pc.sending t' (s.engines t').seq := by
  unfold sending
  rw [h]
  exact ⟨rfl, rfl⟩

/-- A key that is put into the pending map is in it once. -/
theorem count_keys_insert (m : PendingMap) (key' : PendingKey) (probe : PendingProbe) :
    m.keys.count key ≤ (m.insert key' probe).keys.count key ∧
      (m.insert key' probe).keys.count key ≤ m.keys.count key + [key'].count key ∧
      [key'].count key ≤ (m.insert key' probe).keys.count key := by
  rw [AList.keys_insert, ← List.singleton_append, List.count_append]
  by_cases h : key' ∈ m
  · have herase := @count_keys_erase key m key' h
    rw [AList.keys_erase] at herase
    omega
  · rw [List.erase_of_not_mem h]
    omega

/-- The singleton of a key of another target counts nothing. -/
theorem count_of_target_ne {t' : IpAddr} {keys : List PendingKey} (h : ∀ key' ∈ keys, key'.target = t')
    (ht : key.target ≠ t') : keys.count key = 0 :=
  List.count_eq_zero.mpr fun hm => ht (h key hm)

/-- A step of the engine of `t'`, which changes the pending map under keys of `t'` only. -/
theorem Flow.engine {s₁ : Tracer} {t' : IpAddr} {pc : EnginePc} (receivers : s₁.receivers = s.receivers)
    (engines : s₁.engines = s.engines) (counts : ∀ key' ∈ s.counts a, key'.target = t')
    (sends : ∀ key' ∈ s.sends a, key'.target = t')
    (here : (s.counts a).count key + s₁.pending.keys.count key + (pc.held t').count key +
          (s.sending t').count key ≤
        s.pending.keys.count key + ((s.engines t').pc.held t').count key + (s.sends a).count key +
          (pc.sending t' (s.engines t').seq).count key ∧
      ((pc.sending t' (s.engines t').seq).count key ≤ s₁.pending.keys.count key ∨
        (pc.sending t' (s.engines t').seq).count key ≤ (s.sending t').count key ∧
          s.pending.keys.count key + ((s.engines t').pc.held t').count key ≤
            s₁.pending.keys.count key + (pc.held t').count key + (s.counts a).count key))
    (elsewhere : key.target ≠ t' → s₁.pending.keys.count key = s.pending.keys.count key) :
    Flow s (s₁.setPc t' pc) a key := by
  obtain ⟨hflight', hsending'⟩ := @flow_engine s key s₁ t' pc receivers engines
  by_cases ht : key.target = t'
  · obtain ⟨hconserved, hkept⟩ := here
    rw [if_pos ht] at hflight' hsending'
    rw [← ht] at hconserved hkept
    constructor <;> rw [hflight', hsending', count_inFlight, ← ht] <;> omega
  · rw [if_neg ht] at hflight' hsending'
    have hcounts := count_of_target_ne counts ht
    have hsends := count_of_target_ne sends ht
    have hpending := elsewhere ht
    constructor <;> rw [hflight', hsending', count_inFlight] <;> omega

/-- A registered probe is pending, and about to be counted as sent. -/
theorem Flow.register {t' : IpAddr} {flow_id ttl : UInt8} {todo : List (UInt8 × UInt8)}
    (pc : (s.engines t').pc = .probing ((flow_id, ttl) :: todo)) (probe : PendingProbe)
    (os : List Occurrence) :
    Flow s ((s.setPending (s.pending.insert (s.normalKey t' flow_id ttl) probe) os).setPc t'
      (.registered flow_id ttl todo)) (.register t') key := by
  obtain ⟨hheld, hsending⟩ := flow_of_pc pc
  have hkeys := @count_keys_insert key s.pending (s.normalKey t' flow_id ttl) probe
  have hnormal : EnginePc.sending t' (s.engines t').seq (.registered flow_id ttl todo) =
      [s.normalKey t' flow_id ttl] := rfl
  refine .engine rfl rfl (by simp [counts]) (by simp [sends]) ?_ fun ht => ?_
  · rw [hheld, hsending, hnormal, setPending_pending]
    simp [counts, sends] at *
    omega
  · have hzero : [s.normalKey t' flow_id ttl].count key = 0 :=
      @count_of_target_ne key t' _ (by simp [normalKey]) ht
    rw [setPending_pending]
    omega

/-- A sent probe is counted as sent. -/
theorem Flow.sendOk {t' : IpAddr} {flow_id ttl : UInt8} {todo : List (UInt8 × UInt8)}
    (pc : (s.engines t').pc = .registered flow_id ttl todo) (f : Session → Session) :
    Flow s ((s.onSession t' f).setPc t' (.probing todo)) (.sendOk t') key := by
  obtain ⟨hheld, hsending⟩ := flow_of_pc pc
  refine .engine rfl rfl (by simp [counts]) (by simp [sends, hsending]) ?_ fun _ => rfl
  rw [hheld, onSession_pending]
  simp [counts, sends]

/-- A probe whose send fails is no longer in flight. -/
theorem Flow.sendErr {t' : IpAddr} {flow_id ttl : UInt8} {todo : List (UInt8 × UInt8)}
    (pc : (s.engines t').pc = .registered flow_id ttl todo)
    (found : s.normalKey t' flow_id ttl ∈ s.pending) (os : List Occurrence) :
    Flow s ((s.setPending (s.pending.erase (s.normalKey t' flow_id ttl)) os).setPc t' (.probing todo))
      (.sendErr t') key := by
  obtain ⟨hheld, hsending⟩ := flow_of_pc pc
  have hkeys := @count_keys_erase key s.pending _ found
  have hnormal : EnginePc.sending t' (s.engines t').seq (.registered flow_id ttl todo) =
      [s.normalKey t' flow_id ttl] := rfl
  refine .engine rfl rfl (by simp [counts]) (by simp [sends]) ?_ fun ht => ?_
  · rw [hheld, hsending, hnormal, setPending_pending]
    simp [counts, sends] at *
    omega
  · have hzero : [s.normalKey t' flow_id ttl].count key = 0 :=
      @count_of_target_ne key t' _ (by simp [normalKey]) ht
    rw [setPending_pending]
    omega

/-- The key of a normal probe is not that of a path MTU probe. -/
theorem ne_pmtudKey (h : key.is_pmtud = false) (t' : IpAddr) (dest_ttl : UInt8) :
    key ≠ s.pmtudKey t' dest_ttl := by
  rintro rfl
  cases h

/-- The registration of a path MTU probe is none of a normal one. -/
theorem Flow.pmtudRegister {t' : IpAddr} {dest_ttl : UInt8} {size : ℕ} (hkey : key.is_pmtud = false)
    (pc : (s.engines t').pc = .pmtudSized dest_ttl size) (probe : PendingProbe) (os : List Occurrence) :
    Flow s ((s.setPending (s.pending.insert (s.pmtudKey t' dest_ttl) probe) os).setPc t'
      (.pmtudRegistered dest_ttl size)) (.pmtudRegister t') key := by
  obtain ⟨hheld, hsending⟩ := flow_of_pc pc
  have hkeys := @count_keys_insert key s.pending (s.pmtudKey t' dest_ttl) probe
  have hzero : [s.pmtudKey t' dest_ttl].count key = 0 :=
    List.count_eq_zero.mpr fun hm => ne_pmtudKey hkey t' dest_ttl (List.mem_singleton.mp hm)
  refine .engine rfl rfl (by simp [counts]) (by simp [sends]) ?_ fun _ => ?_
  · rw [hheld, hsending, setPending_pending]
    simp [counts, sends] at *
    omega
  · rw [setPending_pending]
    omega

/-- The failed send of a path MTU probe is none of a normal one. -/
theorem Flow.pmtudSendErr {t' : IpAddr} {dest_ttl : UInt8} {size : ℕ} {emsgsize : Bool}
    (hkey : key.is_pmtud = false) (pc : (s.engines t').pc = .pmtudRegistered dest_ttl size)
    (os : List Occurrence) :
    Flow s ((s.setPending (s.pending.erase (s.pmtudKey t' dest_ttl)) os).setPc t'
      (if emsgsize then .pmtudTooBig size else .polling)) (.pmtudSendErr t' emsgsize) key := by
  obtain ⟨hheld, hsending⟩ := flow_of_pc pc
  have hkeys : (s.pending.erase (s.pmtudKey t' dest_ttl)).keys.count key = s.pending.keys.count key := by
    rw [AList.keys_erase, List.count_erase_of_ne (ne_pmtudKey hkey t' dest_ttl)]
  refine .engine rfl rfl (by simp [counts]) (by simp [sends]) ?_ fun _ => hkeys
  rw [hheld, hsending, setPending_pending, hkeys]
  cases emsgsize <;> simp [counts, sends]

/-- What the poll matches goes from the pending map to the engine. -/
theorem Flow.poll {t' : IpAddr} {parsed : ParsedResponse} {response_ttl : Option UInt8}
    {key' : PendingKey} {probe : PendingProbe} (hs : Sound env s) (pc : (s.engines t').pc = .polling)
    (found : pollMatch s.pending t' parsed = some key') (entry : s.pending.lookup key' = some probe) :
    Flow s ((s.setPending (s.pending.erase key') [.polled parsed key' probe]).setPc t'
      (.polled (pollResponse parsed response_ttl probe s.now))) (.poll t' parsed response_ttl) key := by
  obtain ⟨hheld, hsending⟩ := flow_of_pc pc
  obtain ⟨hmem, heq, -⟩ := pollMatch_spec found
  have hkeys := @count_keys_erase key s.pending key' hmem
  -- The entry goes from the pending map to the engine.
  have hpolled : EnginePc.held t' (.polled (pollResponse parsed response_ttl probe s.now)) = [key'] := by
    rw [EnginePc.held, key_pollResponse (hs.keyed key' probe entry) found]
  refine .engine rfl rfl (by simp [counts]) (by simp [sends]) ?_ fun ht => ?_
  · rw [hheld, hsending, hpolled, setPending_pending]
    simp [counts, sends] at *
    omega
  · have htarget : key'.target = t' := by rw [heq]
    have hzero : [key'].count key = 0 := count_of_target_ne (by simpa using htarget) ht
    rw [setPending_pending]
    omega

/-- The apply of the poll counts the response that the engine holds. -/
theorem Flow.pollApply {t' : IpAddr} {resp : PolledResponse} (pc : (s.engines t').pc = .polled resp)
    (f : Session → Session) :
    Flow s ((s.onSession t' f).setPc t' .polling) (.pollApply t') key := by
  obtain ⟨hheld, hsending⟩ := flow_of_pc pc
  have hcounts : s.counts (.pollApply t') = [resp.key t'] := hheld
  refine .engine rfl rfl (by simp [hcounts, PolledResponse.key]) (by simp [sends]) ?_ fun _ => rfl
  rw [hsending, hheld, hcounts, onSession_pending]
  simp only [sends, EnginePc.held, EnginePc.sending, List.count_nil]
  omega

/-- A step of the receiver of a family, and of no engine. -/
theorem Flow.receiver {s₁ : Tracer} {b : Bool} {r : Receiver} (receivers : s₁.receivers = s.receivers)
    (engines : s₁.engines = s.engines) (sends : s.sends a = [])
    (balance : (s.counts a).count key + s₁.pending.keys.count key + r.held.count key =
      s.pending.keys.count key + (s.receivers b).held.count key) :
    Flow s (s₁.setReceiver b r) a key := by
  have hsum := @overReceivers_setReceiver s₁ b r fun r => r.held.count key
  have hsame : (s₁.overReceivers fun r => r.held.count key) =
      s.overReceivers fun r => r.held.count key := by rw [overReceivers, receivers]; rfl
  have hsending : (s₁.setReceiver b r).sending key.target = s.sending key.target := by
    unfold Tracer.sending
    rw [setReceiver_engines, engines]
  rw [hsame, receivers] at hsum
  constructor <;> rw [count_inFlight, count_inFlight, hsending, setReceiver_engines, engines,
    setReceiver_pending]
  · rw [sends, List.count_nil]
    omega
  · exact Or.inr ⟨le_rfl, by omega⟩

/-- What a reply matches goes from the pending map to the batch. -/
theorem Flow.receive {b : Bool} {parsed : ParsedResponse} {response_ttl : Option UInt8}
    {targets : List IpAddr} {key' : PendingKey} {probe : PendingProbe} (hs : Sound env s)
    (phase : (s.receivers b).phase = .draining)
    (found : matchReply (env.receiver b) s.pending targets parsed = some key')
    (entry : s.pending.lookup key' = some probe) :
    Flow s ((s.setPending (s.pending.erase key') [.matched b parsed key' probe]).setReceiver b
        ⟨.draining, (s.receivers b).batch ++ [batchResponse parsed response_ttl probe s.now]⟩)
      (.receive b parsed response_ttl targets) key := by
  obtain ⟨hmem, hid⟩ := matchReply_spec found
  have hkeys := @count_keys_erase key s.pending key' hmem
  have hresp := @key_batchResponse key' parsed response_ttl probe s.now (hs.keyed key' probe entry) hid
  refine .receiver rfl rfl rfl ?_
  -- The entry goes from the pending map to the batch.
  simp only [counts, Receiver.held, Receiver.timedOut, phase, List.map_append, List.map_cons,
    List.map_nil, hresp, List.count_append, List.count_nil, setPending_pending]
  omega

/-- The apply of a receiver counts the first response of its batch. -/
theorem Flow.apply {b : Bool} {resp : BatchedResponse} {batch : List BatchedResponse}
    (phase : (s.receivers b).phase = .applying) (head : (s.receivers b).batch = resp :: batch)
    (f : Session → Session) :
    Flow s ((s.onSession resp.target f).setReceiver b ⟨.applying, batch⟩) (.apply b) key := by
  refine .receiver rfl rfl rfl ?_
  simp only [counts, Receiver.held, Receiver.timedOut, phase, head, List.head?_cons,
    Option.toList_some, List.map_cons, List.map_nil, List.append_nil, onSession_pending]
  rw [← List.singleton_append (l := batch.map BatchedResponse.key), List.count_append]
  omega

/-- A recorded timeout is counted. -/
theorem Flow.recordTimeout {b flush : Bool} {key' : PendingKey} {probe : PendingProbe}
    {timed_out : List (PendingKey × PendingProbe)}
    (phase : (s.receivers b).phase = .recording ((key', probe) :: timed_out) flush)
    (f : Session → Session) :
    Flow s ((s.onSession key'.target f).setReceiver b
      ⟨.recording timed_out flush, (s.receivers b).batch⟩) (.recordTimeout b) key := by
  refine .receiver rfl rfl rfl ?_
  simp only [counts, Receiver.held, Receiver.timedOut, phase, List.head?_cons, Option.toList_some,
    List.map_cons, List.map_nil, List.count_append, onSession_pending]
  rw [← List.singleton_append (l := timed_out.map Prod.fst), List.count_append]
  omega

/-- The expired probes go from the pending map to the receiver. -/
theorem Flow.expire {b flush : Bool} (phase : (s.receivers b).phase = .cleanup flush)
    (os : List Occurrence) :
    Flow s ((s.setPending (surviving env s b flush) os).setReceiver b
      ⟨.recording (expiring env s b flush) flush, (s.receivers b).batch⟩) (.expire b) key := by
  have hkeys := @count_keys_expire env s key b flush
  refine .receiver rfl rfl rfl ?_
  simp only [counts, Receiver.held, Receiver.timedOut, phase, List.map_nil, List.append_nil,
    List.count_append, List.count_nil, setPending_pending]
  omega

/-- What every step other than a reset makes of a normal probe. -/
theorem Step.flow (h : Step env s a s') (hs : Sound env s) (hc : s.Clean a) (hkey : key.is_pmtud = false)
    (hreset : ∀ t, a ≠ .reset t) : Flow s s' a key := by
  have hnone : ∀ {a}, s.counts a = [] → s.sends a = [] → Flow s s a key :=
    fun hcounts hsends => .quiet hcounts hsends rfl rfl
  cases h with
  | paused => exact hnone rfl rfl
  | pollMiss noMatch => exact hnone rfl rfl
  | @move t' a pc move =>
    obtain ⟨⟨hcounts, hsends⟩, hbefore, hafter⟩ := move.idle
    refine .of_engine t' hcounts hsends rfl rfl (fun u hu => ?_) hbefore ?_
    · rw [setPc_engines, Function.update_of_ne hu]
    · unfold sending
      rw [setPc_engines, Function.update_self]
      exact hafter
  | @finish t' _ _ pc entry running limit done =>
    refine .of_engine t' rfl rfl rfl rfl (fun u hu => ?_) ?_ ?_
    · exact Function.update_of_ne hu _ _
    · exact (flow_of_pc pc).imp id id
    · simp [sending]
  | register pc => exact .register pc _ _
  | sendOk pc => exact .sendOk pc _
  | sendErr pc =>
    refine .sendErr pc (hc _ ?_) _
    rw [(flow_of_pc pc).2]
    exact List.mem_singleton_self _
  | @pmtudCheck t' session pc entry =>
    refine .setPc rfl rfl rfl rfl rfl ((flow_of_pc pc).imp id id) ?_
    split <;> exact ⟨rfl, fun _ => rfl⟩
  | pmtudRegister pc => exact .pmtudRegister hkey pc _ _
  | @pmtudSendOk t' dest_ttl size pc =>
    refine .of_engine t' rfl rfl rfl rfl (fun u hu => ?_) ((flow_of_pc pc).imp id id) ?_
    · exact Function.update_of_ne hu _ _
    · simp [sending]
  | pmtudSendErr pc => exact .pmtudSendErr hkey pc _
  | pmtudClamp pc =>
    exact .setPc rfl rfl rfl rfl rfl ((flow_of_pc pc).imp id id) ⟨rfl, fun _ => rfl⟩
  | poll pc found entry => exact .poll hs pc found entry
  | pollApply pc => exact .pollApply pc _
  | @endRound t' pc =>
    refine .of_engine t' rfl rfl rfl rfl (fun u hu => ?_) ((flow_of_pc pc).imp id id) ?_
    · exact Function.update_of_ne hu _ _
    · simp [sending]
  | receive phase perm found entry => exact .receive hs phase found entry
  | @shift b a phase shift =>
    -- A shift keeps the batch, and neither phase holds timed-out probes.
    have hheld : Receiver.held ⟨phase, (s.receivers b).batch⟩ = (s.receivers b).held := by
      cases shift with
      | missed phase _ _ | forgotten phase _ | drained phase | checkCancel phase _ | fail phase _ =>
        simp [Receiver.held, Receiver.timedOut, phase]
      | @recorded flush phase => cases flush <;> simp [Receiver.held, Receiver.timedOut, phase]
    have hnil : s.counts a = [] ∧ s.sends a = [] := by cases shift <;> exact ⟨rfl, rfl⟩
    exact .of_receiver hnil.1 hnil.2 rfl rfl rfl hheld
  | recordLate phase dest =>
    exact .of_receiver rfl rfl rfl rfl rfl (by simp [Receiver.held, Receiver.timedOut, phase])
  | apply phase head => exact .apply phase head _
  | expire phase => exact .expire phase _
  | recordTimeout phase => exact .recordTimeout phase _
  | reset => exact absurd rfl (hreset _)
  | settle _ _ | settled _ _ | pause | cancel | clock => exact .quiet rfl rfl rfl rfl

/-! ## What the hops count -/

/-- The counters of a hop move with the probes that a step counts. -/
structure Tallies (s s' : Tracer) (a : Action) (t : IpAddr) (k : UInt8) : Prop where
  sent : (s'.tally t k).sent = (s.tally t k).sent + (s.sends a).countP (·.normalAt t k)
  counted : (s'.tally t k).received + (s'.tally t k).timeouts =
    (s.tally t k).received + (s.tally t k).timeouts + (s.counts a).countP (·.normalAt t k)

/-- Every step but a reset and a poll keeps the replay in agreement on the destination, when its address only
sends Echo Replies. -/
theorem Tallies.quiet {k : UInt8} (counts : s.counts a = []) (sends : s.sends a = [])
    (tally : s'.tally t k = s.tally t k) : Tallies s s' a t k := by
  constructor
  · rw [tally, sends, List.countP_nil, Nat.add_zero]
  · rw [tally, counts, List.countP_nil, Nat.add_zero]

/-- An outcome that a step counts. -/
theorem Tallies.outcome {k : UInt8} (key : PendingKey) (g : Tally → Tally)
    (counts : s.counts a = [key]) (sends : s.sends a = [])
    (hg : ∀ tally : Tally, (g tally).sent = tally.sent ∧
      (g tally).received + (g tally).timeouts = tally.received + tally.timeouts + 1)
    (tally : s'.tally t k = if key.normalAt t k then g (s.tally t k) else s.tally t k) :
    Tallies s s' a t k := by
  cases hk : key.normalAt t k with
  | true =>
    rw [hk, if_pos rfl] at tally
    constructor
    · rw [tally, (hg _).1, sends, List.countP_nil, Nat.add_zero]
    · rw [tally, (hg _).2, counts, List.countP_singleton, if_pos hk]
  | false =>
    rw [hk, if_neg Bool.false_ne_true] at tally
    constructor
    · rw [tally, sends, List.countP_nil, Nat.add_zero]
    · rw [tally, counts, List.countP_singleton, if_neg (by simp [hk]), Nat.add_zero]

/-- An answer adds one to what is counted. -/
theorem counted_addResponse (ip : IpAddr) (rtt : ℕ) (tally : Tally) :
    (tally.addResponse ip rtt).sent = tally.sent ∧
      (tally.addResponse ip rtt).received + (tally.addResponse ip rtt).timeouts =
        tally.received + tally.timeouts + 1 :=
  ⟨rfl, by simp only [Tally.addResponse]; omega⟩

/-- What every step other than a reset counts. -/
theorem Step.tallies (h : Step env s a s') (hs : Sound env s) (hreset : ∀ t, a ≠ .reset t)
    (t : IpAddr) (k : UInt8) : Tallies s s' a t k := by
  cases h with
  | move move => exact .quiet move.idle.1.1 move.idle.1.2 rfl
  | shift shift =>
    have hnil : s.counts a = [] ∧ s.sends a = [] := by cases shift <;> exact ⟨rfl, rfl⟩
    exact .quiet hnil.1 hnil.2 rfl
  | @sendOk t' flow_id ttl todo pc =>
    have htally := @tally_recordProbeSent env s t k t' flow_id ttl todo hs pc
    have hsends : s.sends (.sendOk t') = [s.normalKey t' flow_id ttl] := (flow_of_pc pc).2
    have hnormal : (s.normalKey t' flow_id ttl).normalAt t k = true ↔ t = t' ∧ k = ttl := by
      rw [normalAt_normalKey, decide_eq_true_iff, @eq_comm _ k]
    constructor
    · rw [(account_setPc t' _).1, htally, hsends, List.countP_singleton]
      simp only [hnormal]
      split_ifs <;> rfl
    · rw [(account_setPc t' _).1, htally]
      split_ifs <;> rfl
  | @pollApply t' resp pc =>
    have htally := @tally_applyPolled env s t k t' resp hs pc
    have hnormal : (resp.key t').normalAt t k = true ↔
        t = t' ∧ resp.packet_size = none ∧ k = resp.probe_id.ttl := by
      simp only [PendingKey.normalAt, PolledResponse.key, decide_eq_true_iff, Bool.not_eq_true',
        Option.isSome_eq_false_iff, Option.isNone_iff_eq_none]
      tauto
    refine .outcome (resp.key t') (·.addResponse resp.responder resp.rtt) (flow_of_pc pc).1 rfl
      (counted_addResponse _ _) ?_
    rw [(account_setPc t' _).1, htally]
    simp only [hnormal]
  | @apply b resp batch phase head =>
    have htally := @tally_applyResponse env s t k b resp batch hs head
    have hnormal : resp.key.normalAt t k = true ↔
        t = resp.target ∧ resp.packet_size = none ∧ k = resp.probe_id.ttl := by
      simp only [PendingKey.normalAt, BatchedResponse.key, decide_eq_true_iff, Bool.not_eq_true',
        Option.isSome_eq_false_iff, Option.isNone_iff_eq_none]
      tauto
    refine .outcome resp.key (·.addResponse resp.responder resp.rtt) (by simp [counts, head]) rfl
      (counted_addResponse _ _) ?_
    rw [(account_setReceiver b _).1, htally]
    simp only [hnormal]
  | @recordTimeout b key probe timed_out flush phase =>
    have htally := @tally_recordPendingTimeout env s t k b flush key probe timed_out hs phase
    have hnormal : key.normalAt t k = true ↔
        t = key.target ∧ key.is_pmtud = false ∧ k = key.probe_id.ttl := by
      simp only [PendingKey.normalAt, decide_eq_true_iff, Bool.not_eq_true']
      tauto
    refine .outcome key Tally.addTimeout (by simp [counts, Receiver.timedOut, phase]) rfl
      (fun tally => ⟨rfl, rfl⟩) ?_
    rw [(account_setReceiver b _).1, htally]
    simp only [hnormal]
  | pmtudCheck pc entry =>
    refine .quiet rfl rfl (tally_onSession_of_eq fun x => ?_)
    rw [Session.tally, Session.hop_checkPmtudReady]
    rfl
  | pmtudSendOk pc => exact .quiet rfl rfl (tally_onSession_of_eq fun x => rfl)
  | pmtudClamp pc => exact .quiet rfl rfl (tally_onSession_of_eq fun x => rfl)
  | recordLate phase dest => exact .quiet rfl rfl (tally_onSession_of_eq fun x => rfl)
  | pause => exact .quiet rfl rfl (tally_onSession_of_eq fun x => rfl)
  | reset => exact absurd rfl (hreset _)
  | _ => exact .quiet rfl rfl rfl

/-- A reset clears the counters of its target, and no others. -/
theorem tally_reset (t' : IpAddr) (k : UInt8) :
    (s.onSession t' fun x => x.resetStats s.now).tally t k =
      if t = t' then .zero else s.tally t k := by
  unfold tally
  rw [onSession_sessions, KeyMap.lookup_modify]
  split_ifs with ht
  · subst ht
    cases s.sessions.lookup t <;> simp
  · rfl

/-- What a reset forgets of a list of keys. -/
theorem count_forget (keys : List PendingKey) (t' : IpAddr) :
    (keys.filter (·.target ≠ t')).count key = if key.target = t' then 0 else keys.count key := by
  split_ifs with ht
  · refine List.count_eq_zero.mpr fun hm => ?_
    exact of_decide_eq_true (List.mem_filter.mp hm).2 ht
  · exact List.count_filter (decide_eq_true ht)

/-- What a reset forgets of the counted keys. -/
theorem countP_forget (keys : List PendingKey) (t' : IpAddr) (k : UInt8) :
    (keys.filter (·.target ≠ t')).countP (·.normalAt t k) =
      if t = t' then 0 else keys.countP (·.normalAt t k) := by
  rw [List.countP_filter]
  split_ifs with ht
  · refine List.countP_eq_zero.mpr fun key _ => ?_
    simp only [PendingKey.normalAt, ht, Bool.and_eq_true, decide_eq_true_iff]
    rintro ⟨⟨-, htarget, -⟩, hne⟩
    exact hne htarget
  · refine List.countP_congr fun key _ => ?_
    simp only [PendingKey.normalAt, Bool.and_eq_true, decide_eq_true_iff]
    constructor
    · exact fun h => h.1
    · rintro ⟨hnormal, htarget, hk⟩
      exact ⟨⟨hnormal, htarget, hk⟩, htarget.trans_ne ht⟩

/-- What is counted since the last resets explains the counters, and the probes in flight. -/
structure Explains (s : Tracer) (h : Since) : Prop where
  sent : ∀ t k, (s.tally t k).sent = h.sent.countP (·.normalAt t k)
  counted : ∀ t k, (s.tally t k).received + (s.tally t k).timeouts = h.counted.countP (·.normalAt t k)
  /-- Counted, or in flight: sent, or about to be. -/
  flow : ∀ key : PendingKey, key.is_pmtud = false →
    h.counted.count key + (s.inFlight key.target).count key ≤
      h.sent.count key + (s.sending key.target).count key
  /-- What is about to be counted as sent is in flight. -/
  kept : ∀ key : PendingKey, key.is_pmtud = false →
    (s.sending key.target).count key ≤ (s.inFlight key.target).count key

/-- The start of a run. -/
theorem explains_init (targets : List IpAddr) (now : ℕ) :
    Explains (init env targets now) ⟨[], []⟩ := by
  have htally : ∀ t k, (init env targets now).tally t k = .zero := by
    intro t k
    unfold tally
    rw [lookup_init]
    split_ifs
    · exact Session.tally_new _ _ _ _
    · rfl
  have hnothing : ∀ t, (init env targets now).inFlight t = [] ∧ (init env targets now).sending t = [] := by
    intro t
    simp only [inFlight, sending, init, Receiver.held, Receiver.timedOut]
    split_ifs <;> exact ⟨rfl, rfl⟩
  constructor
  · intro t k
    rw [htally]
    rfl
  · intro t k
    rw [htally]
    rfl
  · intro key _
    rw [(hnothing key.target).1]
    exact Nat.zero_le _
  · intro key _
    rw [(hnothing key.target).2]
    exact Nat.zero_le _

/-- A clean step keeps the explanation. -/
theorem Explains.step {h : Since} (he : Explains s h) (hs : Sound env s) (hc : s.Clean a)
    (hstep : Step env s a s') : Explains s' (h.note s a) := by
  by_cases hreset : ∃ t, a = .reset t
  · obtain ⟨t', rfl⟩ := hreset
    cases hstep with
    | move move => cases move
    | shift shift => cases shift
    | reset =>
      constructor
      · intro t k
        rw [tally_reset, Since.note, countP_forget, ← he.sent]
        split_ifs <;> rfl
      · intro t k
        rw [tally_reset, Since.note, countP_forget, ← he.counted]
        split_ifs <;> rfl
      · intro key hkey
        rw [Since.note, count_forget, count_forget]
        split_ifs with ht
        · -- Nothing that is in flight was counted as sent.
          show 0 + (s.inFlight key.target).count key ≤ 0 + (s.sending key.target).count key
          by_cases hm : key ∈ s.inFlight key.target
          · have hle := hc key (ht ▸ hm) ht hkey
            rw [← ht] at hle
            omega
          · have hzero : (s.inFlight key.target).count key = 0 := List.count_eq_zero.mpr hm
            omega
        · exact he.flow key hkey
      · exact he.kept
  · have hreset' : ∀ t, a ≠ .reset t := fun t ht => hreset ⟨t, ht⟩
    have hnote : h.note s a = ⟨h.sent ++ s.sends a, h.counted ++ s.counts a⟩ := by
      cases a with
      | reset t => exact absurd rfl (hreset' t)
      | _ => rfl
    rw [hnote]
    constructor
    · intro t k
      rw [(hstep.tallies hs hreset' t k).sent, he.sent, List.countP_append]
    · intro t k
      rw [(hstep.tallies hs hreset' t k).counted, he.counted, List.countP_append]
    · intro key hkey
      have hflow := (hstep.flow hs hc hkey hreset').conserved
      have hbefore := he.flow key hkey
      rw [List.count_append, List.count_append]
      omega
    · intro key hkey
      have hbefore := he.kept key hkey
      rcases (hstep.flow hs hc hkey hreset').kept with hkept | ⟨hsending, hflight⟩
      · exact hkept
      · by_cases hcounts : key ∈ s.counts a
        · -- An outcome is counted of no probe that is about to be counted as sent.
          have hnot : key ∉ s.sending key.target := by
            cases a with
            | reset t => exact absurd rfl (hreset' t)
            | sendErr t => cases hcounts
            | _ => exact hc key hcounts
          have hzero : (s.sending key.target).count key = 0 := List.count_eq_zero.mpr hnot
          omega
        · have hzero : (s.counts a).count key = 0 := List.count_eq_zero.mpr hcounts
          omega

/-- What a user may read off a session, whatever was reset. -/
structure InOrder (s : Tracer) (h : Since) : Prop where
  /-- No hop counts more outcomes than probes. -/
  counters : ∀ t x k hop, s.sessions.lookup t = some x → x.hop k = some hop →
    hop.received + hop.timeouts ≤ hop.sent
  /-- No responder answered more probes than were sent. -/
  responders : ∀ t x k hop ip stats, s.sessions.lookup t = some x → x.hop k = some hop →
    hop.responders.lookup ip = some stats → stats.received ≤ hop.sent
  /-- Every outcome counted since a reset is that of a probe sent since that reset. -/
  since : ∀ key : PendingKey, key.is_pmtud = false → h.counted.count key ≤ h.sent.count key

/-- As many normal probes were sent as are counted, at every hop, when it is so for every key. -/
theorem countP_normalAt_le {l l' : List PendingKey} (k : UInt8)
    (h : ∀ key : PendingKey, key.is_pmtud = false → l.count key ≤ l'.count key) :
    l.countP (·.normalAt t k) ≤ l'.countP (·.normalAt t k) := by
  rw [List.countP_eq_length_filter, List.countP_eq_length_filter]
  refine (List.subperm_ext_iff.mpr fun key hm => ?_).length_le
  have hnormal := (List.mem_filter.mp hm).2
  rw [List.count_filter hnormal, List.count_filter hnormal]
  refine h key ?_
  simp only [PendingKey.normalAt, decide_eq_true_iff, Bool.not_eq_true'] at hnormal
  exact hnormal.1

/-- Whatever is in flight when a session is reset, its counters stay in order, in every state and not only
a quiescent one, as long as every step is clean. -/
theorem reset_accounting {targets : List IpAddr} {now : ℕ} {as : List Action} {since : Since}
    (h : run (recorded Since.note (Tracer.step env)) (init env targets now, ⟨[], []⟩) as =
      some (s, since))
    (hc : StepsMeet (Tracer.step env) Clean (init env targets now) as) : InOrder s since := by
  have hrun := run_of_recorded h
  have he : Sound env s ∧ Explains s since := by
    refine run_induction_of (fun _ (x : Tracer × Since) => Sound env x.1 ∧ Explains x.1 x.2)
      ⟨sound_init targets now, explains_init targets now⟩ ?_ as (s, since) h (hc.recorded _)
    rintro as ⟨s, h⟩ a ⟨s', h'⟩ - hclean ⟨hs, he⟩ hstep
    obtain ⟨hstep, rfl⟩ := recorded_eq_some.mp hstep
    exact ⟨hs.step (.of_step hstep), he.step hs hclean (.of_step hstep)⟩
  have hsince : ∀ key : PendingKey, key.is_pmtud = false →
      since.counted.count key ≤ since.sent.count key := by
    intro key hkey
    have hflow := he.2.flow key hkey
    have hkept := he.2.kept key hkey
    omega
  have hcounters : ∀ t x k hop, s.sessions.lookup t = some x → x.hop k = some hop →
      hop.received + hop.timeouts ≤ hop.sent := by
    intro t x k hop hx hk
    have htally : s.tally t k = hop.tally := by simp [tally, Session.tally, hx, hk]
    have hsent := he.2.sent t k
    have hcounted := he.2.counted t k
    have hle := @countP_normalAt_le t _ _ k hsince
    rw [htally] at hsent hcounted
    simp only [Hop.tally] at hsent hcounted
    omega
  refine ⟨hcounters, fun t x k hop ip stats hx hk hip => ?_, hsince⟩
  -- A responder's answers are among the hop's.
  obtain ⟨ops, -, rfl⟩ := exists_ops_run hrun hx
  have hagrees := (SessionOp.aggregated_perform t (env.config t) now ops k hop hk).responders
  have hresponder : stats.received ≤ hop.aggregate.responders :=
    KeyMap.le_total ResponderStats.received hip
  have hreceived : hop.aggregate.received = hop.received := rfl
  have hle := hcounters t _ k hop hx hk
  omega

/-- A round whose probe is answered, after which the session is reset, and a probe of which a reset while
it is being sent forgets nothing. -/
def cleanResets : List Action :=
  answeredRound ++
    [.checkCancel false, .expire false, .recorded false, .reset sampleTarget, .pmtudCheck sampleTarget,
      .endRound sampleTarget]

/-- Its counters are in order. -/
theorem reset_accounting_clean :
    ∃ s since, run (recorded Since.note (Tracer.step (.icmp (some 2) 1 false)))
      (init (.icmp (some 2) 1 false) [sampleTarget] 0, ⟨[], []⟩) cleanResets = some (s, since) ∧
      InOrder s since := by
  have hsome : (run (recorded Since.note (Tracer.step (.icmp (some 2) 1 false)))
      (init (.icmp (some 2) 1 false) [sampleTarget] 0, ⟨[], []⟩) cleanResets).isSome := by decide
  obtain ⟨⟨s, since⟩, hs⟩ := Option.isSome_iff_exists.mp hsome
  exact ⟨s, since, hs, reset_accounting hs (by decide)⟩

/-- A run in which the session is reset while its probe is in flight, and the probe answered after that. -/
def resetInFlight : List Action :=
  [.tick sampleTarget, .beginRound sampleTarget, .register sampleTarget, .sendOk sampleTarget,
    .reset sampleTarget, .receive false sampleReply none [sampleTarget], .drained false, .apply false]

/-- With nothing left in flight, the hop has received one answer and sent no probe. -/
theorem reset_accounting_fails_in_flight :
    ∃ s, run (Tracer.step (.icmp (some 1) 1 false)) (init (.icmp (some 1) 1 false) [sampleTarget] 0)
        resetInFlight = some s ∧
      s.inFlight sampleTarget = [] ∧
      ((s.sessions.lookup sampleTarget).bind (·.hop 1)).any fun h =>
        h.received = 1 ∧ h.timeouts = 0 ∧ h.sent = 0 ∧
          ((h.responders.lookup sampleTarget).any fun stats => stats.received = 1) :=
  exists_run _ (by decide)

end

end Tracer

end Ttl
