import Ttl.Trace.Delivery
import Ttl.Trace.FiniteRuns

/-!
# Replies that come in time

The other half of what the settle window is for: a reply that is read before its probe's timeout has the
probe counted as received. The reply must lead the match to its own probe for that. `LeadsTo` says when it
does (`matchReply_eq_some_iff`): its quoted source port, for one, must still name the probe's flow where
several flows are pending, which a NAT on the path may have changed.

`Kept` is the invariant: a probe that was sent is pending until its timeout, or it is answered. From there
`Counted` follows the response to the hop's counter: the entries of each key that replies took are those that
were counted, and those in transit to it.
-/

namespace Ttl

open Runs

/-- The reply's `ProbeId` and flow hint allow the key. -/
def ParsedResponse.Allows (config : ReceiverConfig) (parsed : ParsedResponse) (key : PendingKey) : Prop :=
  key.probe_id = parsed.probe_id ∧ ∀ f ∈ deriveFlowHint config parsed.src_port, key.flow_id = f

instance {config : ReceiverConfig} {parsed : ParsedResponse} {key : PendingKey} :
    Decidable (parsed.Allows config key) :=
  @instDecidableAnd _ _ inferInstance (Option.decidableForallMem (deriveFlowHint config parsed.src_port))

/-- The reply leads the receiver to the probe of a key. -/
structure ParsedResponse.LeadsTo (config : ReceiverConfig) (pending : PendingMap) (targets : List IpAddr)
    (parsed : ParsedResponse) (key : PendingKey) : Prop where
  allows : parsed.Allows config key
  /-- Its target is the first that has a candidate: the quoted destination, or the first in the session
  order where that has none. -/
  first : (parsed.candidates targets).find? (parsed.Finds config pending) = some key.target
  /-- No other probe of its target and class is allowed. -/
  sole : ∀ k ∈ pending.keys, parsed.Allows config k → k.target = key.target → k.is_pmtud = key.is_pmtud →
    k = key
  /-- It is of the reply's own class, or no probe of that class is allowed. -/
  own : key.is_pmtud = parsed.isPmtudResponse ∨ ∀ k ∈ pending.keys, parsed.Allows config k →
    k.target = key.target → k.is_pmtud ≠ parsed.isPmtudResponse

instance {config : ReceiverConfig} {pending : PendingMap} {targets : List IpAddr} {parsed : ParsedResponse}
    {key : PendingKey} : Decidable (parsed.LeadsTo config pending targets key) :=
  decidable_of_iff (parsed.Allows config key ∧
      (parsed.candidates targets).find? (parsed.Finds config pending) = some key.target ∧
      (∀ k ∈ pending.keys, parsed.Allows config k → k.target = key.target →
        k.is_pmtud = key.is_pmtud → k = key) ∧
      (key.is_pmtud = parsed.isPmtudResponse ∨ ∀ k ∈ pending.keys, parsed.Allows config k →
        k.target = key.target → k.is_pmtud ≠ parsed.isPmtudResponse))
    ⟨fun h => ⟨h.1, h.2.1, h.2.2.1, h.2.2.2⟩, fun h => ⟨h.allows, h.first, h.sole, h.own⟩⟩

/-- An Echo Reply leads the poll of a target to the probe of a key. -/
structure ParsedResponse.PolledLeadsTo (pending : PendingMap) (target : IpAddr) (parsed : ParsedResponse)
    (key : PendingKey) : Prop where
  key_eq : key = ⟨parsed.probe_id, 0, target, key.is_pmtud⟩
  /-- A path MTU probe is taken where the normal one is gone. -/
  normal : key.is_pmtud = true → ⟨parsed.probe_id, 0, target, false⟩ ∉ pending

instance {pending : PendingMap} {target : IpAddr} {parsed : ParsedResponse} {key : PendingKey} :
    Decidable (parsed.PolledLeadsTo pending target key) :=
  decidable_of_iff (key = ⟨parsed.probe_id, 0, target, key.is_pmtud⟩ ∧
      (key.is_pmtud = true → ⟨parsed.probe_id, 0, target, false⟩ ∉ pending))
    ⟨fun h => ⟨h.1, h.2⟩, fun h => ⟨h.key_eq, h.normal⟩⟩

section

variable {config : ReceiverConfig} {pending : PendingMap} {targets : List IpAddr}
  {parsed : ParsedResponse} {key : PendingKey} {target : IpAddr}

/-- What the lookup chooses, the reply allows. -/
theorem Chosen.allows (h : Chosen pending parsed.probe_id target parsed.isPmtudResponse
    (deriveFlowHint config parsed.src_port) key) : parsed.Allows config key :=
  ⟨h.spec.2.1, fun f hf => h.spec.2.2.2 f hf⟩

/-- A target has a candidate of a class when an allowed probe of the class is its only one. -/
theorem inClass_of_sole (hmem : key ∈ pending) (hallows : parsed.Allows config key)
    (hsole : ∀ k ∈ pending.keys, parsed.Allows config k → k.target = key.target →
      k.is_pmtud = key.is_pmtud → k = key) :
    InClass pending parsed.probe_id (deriveFlowHint config parsed.src_port) key.is_pmtud key.target := by
  obtain ⟨hid, hflow⟩ := hallows
  have hkey : (⟨parsed.probe_id, key.flow_id, key.target, key.is_pmtud⟩ : PendingKey) = key := by
    rw [← hid]
  cases hhint : deriveFlowHint config parsed.src_port with
  | some f =>
    rw [hhint] at hflow
    show (⟨parsed.probe_id, f, key.target, key.is_pmtud⟩ : PendingKey) ∈ pending
    rw [← hflow f rfl, hkey]
    exact hmem
  | none =>
    refine ⟨key.flow_id, hkey ▸ hmem, fun f hf => ?_⟩
    have hsame := hsole ⟨parsed.probe_id, f, key.target, key.is_pmtud⟩ (AList.mem_keys.mp hf)
      ⟨rfl, fun g hg => by rw [hhint] at hg; cases hg⟩ rfl rfl
    exact congrArg PendingKey.flow_id hsame

/-- A reply that leads to a pending probe takes it. -/
theorem ParsedResponse.LeadsTo.matchReply_eq (h : parsed.LeadsTo config pending targets key)
    (hmem : key ∈ pending) : matchReply config pending targets parsed = some key := by
  obtain ⟨taken, htaken, htarget⟩ := exists_matchReply h.first
  have hchosen := (chosen_of_matchReply htaken).2
  have hpending : taken ∈ pending.keys := AList.mem_keys.mp hchosen.spec.1
  rw [htaken]
  refine congrArg some (h.sole taken hpending hchosen.allows htarget ?_)
  by_contra hother
  rcases h.own with hown | hnone
  · -- The probe is itself a candidate of the reply's class, so the match keeps to that.
    have hin := inClass_of_sole hmem h.allows h.sole
    rw [hown, ← htarget] at hin
    exact hother ((hchosen.class_iff.mpr hin).trans hown.symm)
  · have hclass := hnone taken hpending hchosen.allows htarget
    have hkey := hnone key (AList.mem_keys.mp hmem) h.allows rfl
    exact hother ((Bool.eq_not_of_ne hclass).trans (Bool.eq_not_of_ne hkey).symm)

/-- The rule takes a probe only if no other of its class is allowed. -/
theorem Chosen.sole (h : Chosen pending parsed.probe_id target parsed.isPmtudResponse
    (deriveFlowHint config parsed.src_port) key) {k : PendingKey} (hk : k ∈ pending)
    (hallows : parsed.Allows config k) (htarget : k.target = key.target)
    (hclass : k.is_pmtud = key.is_pmtud) : k = key := by
  obtain ⟨hmem, hid, hkeytarget, hflow⟩ := h.spec
  have hflows : k.flow_id = key.flow_id → k = key := by
    intro he
    obtain ⟨p, f, t, c⟩ := k
    obtain ⟨p', f', t', c'⟩ := key
    obtain ⟨hp, -⟩ := hallows
    dsimp only at *
    rw [hp, hid, htarget, hclass, he]
  have hmem' : ∀ c, k.is_pmtud = c → (⟨parsed.probe_id, k.flow_id, target, c⟩ : PendingKey) ∈ pending := by
    rintro c rfl
    rw [← hallows.1, ← hkeytarget, ← htarget]
    exact hk
  -- With a hint both have its flow, and without one the class has a sole flow.
  refine hflows ?_
  generalize hhint : deriveFlowHint config parsed.src_port = hint at h
  cases h with
  | preferred mem => exact hallows.2 _ hhint
  | other absent mem => exact hallows.2 _ hhint
  | solePmtud response sole mem => exact sole.unique (hmem' true hclass) mem
  | soleNormal skip sole mem => exact sole.unique (hmem' false hclass) mem
  | loneP skip absent sole mem => exact sole.unique (hmem' true hclass) mem

/-- The rule takes a probe of the other class only if none of the reply's own is allowed. -/
theorem Chosen.own (h : Chosen pending parsed.probe_id target parsed.isPmtudResponse
    (deriveFlowHint config parsed.src_port) key) (hone : pending.OneFlow)
    (hother : key.is_pmtud ≠ parsed.isPmtudResponse) {k : PendingKey} (hk : k ∈ pending)
    (hallows : parsed.Allows config k) (htarget : k.target = key.target) :
    k.is_pmtud ≠ parsed.isPmtudResponse := by
  have hkeytarget := h.spec.2.2.1
  have hmem : ∀ c, k.is_pmtud = c → (⟨parsed.probe_id, k.flow_id, target, c⟩ : PendingKey) ∈ pending := by
    rintro c rfl
    rw [← hallows.1, ← hkeytarget, ← htarget]
    exact hk
  intro hclass
  generalize hhint : deriveFlowHint config parsed.src_port = hint at h
  cases h with
  | preferred mem => exact hother rfl
  | other absent mem =>
    have hflow := hallows.2 _ hhint
    refine absent ?_
    rw [← hflow]
    exact hmem _ hclass
  | solePmtud response sole mem => exact hother response.symm
  | soleNormal skip sole mem =>
    -- The path MTU probes have one flow, so one that is pending is the sole one.
    have hresponse : parsed.isPmtudResponse = true := by
      cases hown : parsed.isPmtudResponse with
      | true => rfl
      | false => exact absurd hown.symm hother
    have hpmtud := hmem true (hclass.trans hresponse)
    refine skip ⟨hresponse, k.flow_id, hpmtud, fun f hf => ?_⟩
    exact (hone _ hf rfl).trans (hone _ hpmtud rfl).symm
  | loneP skip absent sole mem =>
    have hresponse : parsed.isPmtudResponse = false := by
      cases hown : parsed.isPmtudResponse with
      | true => exact absurd hown.symm hother
      | false => rfl
    exact absent _ (hmem false (hclass.trans hresponse))

/-- The receiver takes the probe that the reply leads to, and no other. -/
theorem matchReply_eq_some_iff (hone : pending.OneFlow) :
    matchReply config pending targets parsed = some key ↔
      key ∈ pending ∧ parsed.LeadsTo config pending targets key := by
  constructor
  · intro h
    obtain ⟨hfirst, hchosen⟩ := chosen_of_matchReply h
    refine ⟨hchosen.spec.1, hchosen.allows, hfirst, ?_, ?_⟩
    · exact fun k hk => hchosen.sole (AList.mem_keys.mpr hk)
    · by_cases hclass : key.is_pmtud = parsed.isPmtudResponse
      · exact Or.inl hclass
      · exact Or.inr fun k hk => hchosen.own hone hclass (AList.mem_keys.mpr hk)
  · rintro ⟨hmem, hleads⟩
    exact hleads.matchReply_eq hmem

/-- The poll takes the probe that an Echo Reply leads to, and no other. -/
theorem pollMatch_eq_some_iff (hecho : parsed.response_type = .EchoReply) :
    pollMatch pending target parsed = some key ↔
      key ∈ pending ∧ parsed.PolledLeadsTo pending target key := by
  constructor
  · intro h
    obtain ⟨hmem, hkey, -⟩ := pollMatch_spec h
    refine ⟨hmem, hkey, fun hpmtud hnormal => ?_⟩
    rw [pollMatch, if_pos hecho, if_pos hnormal] at h
    obtain rfl := Option.some.inj h
    cases hpmtud
  · rintro ⟨hmem, hkey, hnormal⟩
    rw [pollMatch, if_pos hecho]
    cases hclass : key.is_pmtud with
    | false =>
      rw [hclass] at hkey
      rw [← hkey, if_pos hmem]
    | true =>
      rw [hclass] at hkey
      rw [if_neg (hnormal hclass), ← hkey, if_pos hmem]

/-- A reply that carries its probe's destination and flow leads to it, if it is of the probe's class. -/
theorem ParsedResponse.LeadsTo.of_intact (hmem : key ∈ pending) (hid : key.probe_id = parsed.probe_id)
    (hdest : parsed.original_dest = some key.target)
    (hflow : deriveFlowHint config parsed.src_port = some key.flow_id)
    (hclass : key.is_pmtud = parsed.isPmtudResponse) : parsed.LeadsTo config pending targets key where
  allows := ⟨hid, fun f hf => by rw [hflow] at hf; exact Option.some.inj hf⟩
  first := by
    have hfinds : parsed.Finds config pending key.target := by
      unfold ParsedResponse.Finds Answers
      rw [hflow]
      refine ⟨key.is_pmtud, ?_⟩
      rw [← hid]
      exact hmem
    rw [ParsedResponse.candidates, hdest, Option.toList_some, List.singleton_append, List.find?_cons,
      decide_eq_true hfinds]
  sole := by
    rintro ⟨p, f, t, c⟩ hk ⟨hp, hf⟩ rfl rfl
    have hf := hf key.flow_id hflow
    dsimp only at hp hf
    rw [hp, hf, ← hid]
  own := Or.inl hclass

end

namespace Tracer

/-! ## Answers -/

/-- What a step must meet for a reply that comes in time to find its probe: it leads to the probe while that
is pending and younger than the timeout, and no such probe is overwritten by another of its key. -/
def Leads (env : Env) (s : Tracer) : Action × Origin → Prop
  | (.receive b parsed _ targets, origin) => ∀ o ∈ origin, s.pending.lookup o.1 = some o.2 →
      ¬ o.2.Overdue env s.now → parsed.LeadsTo (env.receiver b) s.pending targets o.1
  | (.poll t parsed _, origin) => parsed.response_type = .EchoReply → ∀ o ∈ origin,
      s.pending.lookup o.1 = some o.2 → ¬ o.2.Overdue env s.now → parsed.PolledLeadsTo s.pending t o.1
  | (a, _) => ∀ o ∈ s.registering env a, ∀ old ∈ s.pending.lookup o.1, old.Overdue env s.now

instance (env : Env) (s : Tracer) : DecidablePred (Leads env s) := fun l => by
  obtain ⟨a, origin⟩ := l
  apply @Action.casesOn (fun a => Decidable (Leads env s (a, origin))) a <;> intros <;>
    dsimp only [Leads] <;> infer_instance

/-- The probe was answered: a reply took its entry, which is counted as received for it. -/
def Answered (s : Tracer) (o : PendingKey × PendingProbe) : Prop :=
  (∃ b parsed, .matched b parsed o.1 o.2 ∈ s.log) ∨ ∃ parsed, .polled parsed o.1 o.2 ∈ s.log

/-- Until its timeout a probe that was sent is pending or answered. -/
structure Kept (env : Env) (s : Tracer) (h : Traffic) : Prop where
  sent : ∀ o, h.Sent o → o.2.Overdue env s.now ∨ s.pending.lookup o.1 = some o.2 ∨ s.Answered o
  /-- A probe whose key is being sent again is not pending any more. -/
  again : ∀ t o, h.sending t = some o → ∀ o' ∈ h.sent, o'.1 = o.1 →
    o'.2.Overdue env s.now ∨ s.Answered o'
  /-- A probe whose reply was read before its timeout is answered. -/
  read : ∀ d ∈ h.read, ∀ o ∈ d.origin, o.2.Overdue env d.time ∨ s.Answered o

section

variable {env : Env} {s s' : Tracer} {a : Action} {h : Traffic} {l : Action × Origin}
  {o : PendingKey × PendingProbe}

/-- A probe that was answered stays so. -/
theorem Answered.step (ha : s.Answered o) (hstep : Step env s a s') : s'.Answered o := by
  rcases ha with ⟨b, parsed, hm⟩ | ⟨parsed, hm⟩
  · exact Or.inl ⟨b, parsed, hstep.log_subset hm⟩
  · exact Or.inr ⟨parsed, hstep.log_subset hm⟩

/-- A probe whose entry a reply takes is answered. -/
theorem Takes.answered {parsed : ParsedResponse} (ht : Takes env s a parsed o.1 o.2)
    (hstep : Step env s a s') : s'.Answered o := by
  obtain ⟨key, probe⟩ := o
  cases ht with
  | @receive b parsed response_ttl targets _ _ found entry =>
    cases hstep with
    | receive phase perm found' entry' =>
      cases found.symm.trans found'
      cases entry.symm.trans entry'
      exact Or.inl ⟨b, parsed, List.mem_append_right _ (List.mem_singleton_self _)⟩
    | shift shift =>
      cases shift with
      | missed phase perm noMatch => cases found.symm.trans noMatch
    | move move => cases move
  | @poll t parsed response_ttl _ _ found entry =>
    cases hstep with
    | poll pc found' entry' =>
      cases found.symm.trans found'
      cases entry.symm.trans entry'
      exact Or.inr ⟨parsed, List.mem_append_right _ (List.mem_singleton_self _)⟩
    | pollMiss noMatch => cases found.symm.trans noMatch
    | move move => cases move
    | shift shift => cases shift

/-- What becomes of a pending entry in a step: it stays, or its key is registered again, or a reply takes it,
or its send fails, or it is swept or flushed. -/
theorem Step.entry_cases {key : PendingKey} {probe : PendingProbe} (hstep : Step env s a s')
    (hl : s.pending.lookup key = some probe) :
    s'.pending.lookup key = some probe ∨ (∃ new, Registers env s a key new) ∨
      (∃ parsed, Takes env s a parsed key probe) ∨
      (∃ t, a.sendEnds = some (t, false) ∧ s.sendingKey t = some key) ∨
      ∃ b flush, a = .expire b ∧ (s.receivers b).phase = .cleanup flush ∧
        expires env s b flush probe = true := by
  have herase : ∀ {k : PendingKey}, key ≠ k → (s.pending.erase k).lookup key = some probe := by
    intro k hne
    rw [KeyMap.lookup_erase, if_neg hne]
    exact hl
  cases hstep with
  | @register t flow_id ttl todo pc =>
    by_cases hk : key = s.normalKey t flow_id ttl
    · subst hk
      exact Or.inr (Or.inl ⟨_, .normal pc⟩)
    · exact Or.inl ((AList.lookup_insert_ne hk).trans hl)
  | @pmtudRegister t dest_ttl size pc =>
    by_cases hk : key = s.pmtudKey t dest_ttl
    · subst hk
      exact Or.inr (Or.inl ⟨_, .pmtud pc⟩)
    · exact Or.inl ((AList.lookup_insert_ne hk).trans hl)
  | @sendErr t flow_id ttl todo pc =>
    by_cases hk : key = s.normalKey t flow_id ttl
    · refine Or.inr (Or.inr (Or.inr (Or.inl ⟨t, rfl, ?_⟩)))
      rw [hk]
      simp only [Tracer.sendingKey, pc]
    · exact Or.inl (herase hk)
  | @pmtudSendErr t dest_ttl size emsgsize pc =>
    by_cases hk : key = s.pmtudKey t dest_ttl
    · refine Or.inr (Or.inr (Or.inr (Or.inl ⟨t, rfl, ?_⟩)))
      rw [hk]
      simp only [Tracer.sendingKey, pc]
    · exact Or.inl (herase hk)
  | @poll t parsed response_ttl k _ pc found entry =>
    by_cases hk : key = k
    · subst hk
      cases hl.symm.trans entry
      exact Or.inr (Or.inr (Or.inl ⟨parsed, .poll found entry⟩))
    · exact Or.inl (herase hk)
  | @receive b parsed response_ttl targets k _ phase perm found entry =>
    by_cases hk : key = k
    · subst hk
      cases hl.symm.trans entry
      exact Or.inr (Or.inr (Or.inl ⟨parsed, .receive found entry⟩))
    · exact Or.inl (herase hk)
  | @expire b flush phase =>
    by_cases hex : expires env s b flush probe = true
    · exact Or.inr (Or.inr (Or.inr (Or.inr ⟨b, flush, rfl, phase, hex⟩)))
    · refine Or.inl (KeyMap.lookup_retain_eq_some.mpr ⟨hl, ?_⟩)
      simpa using hex
  | _ => exact Or.inl hl

/-- What a sweep or a flush takes is overdue. -/
theorem Patient.overdue_of_expires (hp : Patient env s) {b flush : Bool} {key : PendingKey}
    {probe : PendingProbe} (hl : s.pending.lookup key = some probe)
    (hphase : (s.receivers b).phase = .cleanup flush) (hex : expires env s b flush probe = true) :
    probe.Overdue env s.now := by
  cases flush with
  | true => exact hp.cancelled (hp.flush b hphase) key probe hl
  | false =>
    have hlt : env.base.timeout < s.now - probe.sent_at :=
      of_decide_eq_true (show decide (env.base.timeout < s.now - probe.sent_at) = true from hex)
    have hpast := hp.past key probe hl
    show probe.sent_at + env.base.timeout ≤ s.now
    omega

/-- A probe that is registered again under its key is overdue. -/
theorem Leads.overdue (hleads : Leads env s l) {key : PendingKey} {new old : PendingProbe}
    (hr : Registers env s l.1 key new) (hl : s.pending.lookup key = some old) : old.Overdue env s.now := by
  obtain ⟨a, origin⟩ := l
  have hregister := registering_eq_some.mpr (show Registers env s a (key, new).1 (key, new).2 from hr)
  cases hr with
  | normal pc => exact hleads _ hregister old hl
  | pmtud pc => exact hleads _ hregister old hl

/-- A reply that is read while its probe is pending and young takes it. -/
theorem Leads.takes (hleads : Leads env s l) {parsed : ParsedResponse}
    {taken : Option (PendingKey × PendingProbe)} (hreads : s.reads env l.1 = some (parsed, taken))
    (ho : o ∈ l.2) (hl : s.pending.lookup o.1 = some o.2) (hyoung : ¬ o.2.Overdue env s.now) :
    Takes env s l.1 parsed o.1 o.2 := by
  obtain ⟨a, origin⟩ := l
  have hmem : o.1 ∈ s.pending := AList.lookup_isSome.mp (by rw [hl]; rfl)
  cases a with
  | receive b parsed' response_ttl targets =>
    obtain ⟨rfl, -⟩ := Prod.mk.inj (Option.some.inj hreads)
    exact .receive ((hleads o ho hl hyoung).matchReply_eq hmem) hl
  | poll t parsed' response_ttl =>
    simp only [reads] at hreads
    split_ifs at hreads with hecho
    obtain ⟨rfl, -⟩ := Prod.mk.inj (Option.some.inj hreads)
    exact .poll ((pollMatch_eq_some_iff hecho).mpr ⟨hmem, hleads hecho o ho hl hyoung⟩) hl
  | _ => cases hreads

/-- After a step in which replies lead to their probes, a probe that was sent is overdue, pending or answered. -/
theorem Kept.sent_step (hk : Kept env s h) (hp : Patient env s) (ht : Traced s h) (hleads : Leads env s l)
    (hstep : Step env s l.1 s') {o : PendingKey × PendingProbe} (hm : (noteTraffic env h s l).Sent o) :
    o.2.Overdue env s'.now ∨ s'.pending.lookup o.1 = some o.2 ∨ s'.Answered o := by
  rcases sent_note_cases ht hm with hold | hr
  · rcases hk.sent o hold with hover | hl | hanswered
    · exact Or.inl (hover.mono hstep.now_le)
    · rcases hstep.entry_cases hl with hl | ⟨new, hr⟩ | ⟨parsed, htakes⟩ | ⟨t, hends, hkey⟩ |
        ⟨b, flush, -, hphase, hex⟩
      · exact Or.inr (Or.inl hl)
      · exact Or.inl ((hleads.overdue hr hl).mono hstep.now_le)
      · exact Or.inr (Or.inr (htakes.answered hstep))
      · -- The send of a later probe of the key fails; this one was sent before.
        have htarget := target_of_sendingKey hkey
        subst htarget
        have hsent : o ∈ h.sent := by
          rcases hm with hm | hm
          · simpa [noteTraffic, hends] using hm
          · simp [noteTraffic, updateSending, hends] at hm
        have hmap := ht.sending o.1.target
        rw [hkey] at hmap
        obtain ⟨o', ho', hsame⟩ := Option.map_eq_some_iff.mp hmap
        rcases hk.again _ o' ho' o hsent hsame.symm with hover | hanswered
        · exact Or.inl (hover.mono hstep.now_le)
        · exact Or.inr (Or.inr (hanswered.step hstep))
      · exact Or.inl ((hp.overdue_of_expires hl hphase hex).mono hstep.now_le)
    · exact Or.inr (Or.inr (hanswered.step hstep))
  · exact Or.inr (Or.inl (hr.lookup hstep))

/-- After such a step, a probe with the key of the probe that is being sent is overdue or answered. -/
theorem Kept.again_step (hk : Kept env s h) (ht : Traced s h) (hleads : Leads env s l) (hstep : Step env s l.1 s')
    {t : IpAddr} {o o' : PendingKey × PendingProbe} (hsending : (noteTraffic env h s l).sending t = some o)
    (hsent : o' ∈ (noteTraffic env h s l).sent) (hsame : o'.1 = o.1) :
    o'.2.Overdue env s'.now ∨ s'.Answered o' := by
  have hold : h.sending t = some o → o' ∈ h.sent → o'.2.Overdue env s'.now ∨ s'.Answered o' := by
    intro hsending hsent
    exact (hk.again t o hsending o' hsent hsame).imp (fun hover => hover.mono hstep.now_le)
      fun hanswered => hanswered.step hstep
  cases hends : l.1.sendEnds with
  | none =>
    have hsent : o' ∈ h.sent := by simpa [noteTraffic, hends] using hsent
    rcases updateSending_cases hsending with hsending | hbegun
    · exact hold hsending hsent
    · -- The key is registered again now.
      obtain ⟨new, hnew, hpair⟩ := Option.map_eq_some_iff.mp hbegun
      obtain ⟨-, rfl⟩ := Prod.mk.inj hpair
      have hr := registering_eq_some.mp hnew
      rcases hk.sent o' (Or.inl hsent) with hover | hl | hanswered
      · exact Or.inl (hover.mono hstep.now_le)
      · rw [hsame] at hl
        exact Or.inl ((hleads.overdue hr hl).mono hstep.now_le)
      · exact Or.inr (hanswered.step hstep)
  | some ended =>
    obtain ⟨t', ok⟩ := ended
    simp only [noteTraffic, updateSending, hends, Function.update_apply] at hsending
    split_ifs at hsending with ht'
    cases ok with
    | false => exact hold hsending (by simpa [noteTraffic, hends] using hsent)
    | true =>
      simp only [noteTraffic, hends] at hsent
      rcases List.mem_append.mp hsent with hsent | hsent
      · -- Each engine sends probes of its own target.
        have hkeys := ht.sending t
        have hkeys' := ht.sending t'
        rw [hsending] at hkeys
        rw [Option.mem_toList.mp hsent] at hkeys'
        have htarget := target_of_sendingKey hkeys.symm
        have htarget' := target_of_sendingKey hkeys'.symm
        exact absurd (by rw [← htarget, ← htarget', hsame]) ht'
      · exact hold hsending hsent

/-- A step in which replies lead to their probes keeps these. -/
theorem Kept.step (hk : Kept env s h) (hp : Patient env s) (ht : Traced s h) (hg : Genuine env (s, h) l)
    (hleads : Leads env s l) (hstep : Step env s l.1 s') : Kept env s' (noteTraffic env h s l) where
  sent _ hm := hk.sent_step hp ht hleads hstep hm
  again _ _ hsending _ hsent hsame := hk.again_step ht hleads hstep hsending hsent hsame
  read := by
    intro d hd o ho
    rcases read_note_cases hd with hd | ⟨hreads, horigin, htime⟩
    · exact (hk.read d hd o ho).imp id fun hanswered => hanswered.step hstep
    · rw [htime]
      have hlabel : o ∈ l.2 := horigin ▸ ho
      have hsent : h.Sent o := hg.1 (by rw [hreads]; rfl) o hlabel
      rcases hk.sent o hsent with hover | hl | hanswered
      · exact Or.inl hover
      · by_cases hover : o.2.Overdue env s.now
        · exact Or.inl hover
        · exact Or.inr ((hleads.takes hreads hlabel hl hover).answered hstep)
      · exact Or.inr (hanswered.step hstep)

end

end Tracer

/-! ## From the answer to the counter -/

/-- A reply took the entry of the key. -/
def Occurrence.answers (key : PendingKey) (o : Occurrence) : Bool := o.isAnswered && decide (o.key = key)

/-- The response that an engine holds is that of the key. -/
def EnginePc.heldCount (key : PendingKey) : EnginePc → ℕ
  | .polled resp => if resp.key key.target = key then 1 else 0
  | _ => 0

namespace Tracer

/-- The responses of a key that are in a batch, or held by the poll. -/
def inTransit (s : Tracer) (key : PendingKey) : ℕ :=
  s.overReceivers (fun r => r.batch.countP fun resp => resp.key = key) +
    (s.engines key.target).pc.heldCount key

/-- The key whose entry the reply that an action reads takes. -/
def takenKey (env : Env) (s : Tracer) (a : Action) : Option PendingKey :=
  (s.reads env a).bind fun r => r.2.map Prod.fst

section

variable {env : Env} {s s' : Tracer} {a : Action} {key : PendingKey}

/-- The key of an entry that is taken. -/
theorem takenKey_of_takes {parsed : ParsedResponse} {probe : PendingProbe}
    (h : Takes env s a parsed key probe) : s.takenKey env a = some key := by
  rw [takenKey, takes_iff.mp h]
  rfl

/-- A reply that matches nothing takes no entry. -/
theorem takenKey_missed {b : Bool} {parsed : ParsedResponse} {response_ttl : Option UInt8}
    {targets : List IpAddr} (h : matchReply (env.receiver b) s.pending targets parsed = none) :
    s.takenKey env (.receive b parsed response_ttl targets) = none := by
  simp only [takenKey, reads, h, entry, Option.bind_none, Option.bind_some, Option.map_none]

/-- Neither does one that the poll does not match. -/
theorem takenKey_pollMiss {t : IpAddr} {parsed : ParsedResponse} {response_ttl : Option UInt8}
    (h : pollMatch s.pending t parsed = none) : s.takenKey env (.poll t parsed response_ttl) = none := by
  simp only [takenKey, reads, h, entry, Option.bind_none]
  split_ifs <;> rfl

/-- An answer is logged for each entry that a reply takes. -/
theorem Step.answers (h : Step env s a s') : s'.log.countP (Occurrence.answers key) =
    s.log.countP (Occurrence.answers key) + if s.takenKey env a = some key then 1 else 0 := by
  -- The other occurrences are no answers.
  have hquiet : ∀ {os : List Occurrence}, s'.log = s.log ++ os → s.takenKey env a = none →
      (∀ o ∈ os, ¬ Occurrence.answers key o = true) → s'.log.countP (Occurrence.answers key) =
        s.log.countP (Occurrence.answers key) + if s.takenKey env a = some key then 1 else 0 := by
    intro os hlog hnone hos
    rw [hlog, hnone, List.countP_append, List.countP_eq_zero.mpr hos]
    rfl
  have hsame (hlog : s'.log = s.log) (hnone : s.takenKey env a = none) :=
    hquiet (hlog.trans (List.append_nil _).symm) hnone (by simp)
  cases h with
  | @receive b parsed response_ttl targets k probe phase perm found entry =>
    rw [takenKey_of_takes (.receive found entry)]
    by_cases hk : k = key <;> simp [List.countP_append, Occurrence.answers, hk]
  | @poll t parsed response_ttl k probe pc found entry =>
    rw [takenKey_of_takes (.poll found entry)]
    by_cases hk : k = key <;> simp [List.countP_append, Occurrence.answers, hk]
  | pollMiss noMatch => exact hsame rfl (takenKey_pollMiss noMatch)
  | shift shift =>
    cases shift with
    | missed phase perm noMatch => exact hsame rfl (takenKey_missed noMatch)
    | _ => exact hsame rfl rfl
  | move move => exact hsame rfl (by cases move <;> rfl)
  | expire phase =>
    refine hquiet rfl rfl fun o ho => ?_
    obtain ⟨e, -, rfl⟩ := List.mem_map.mp ho
    simp [Occurrence.answers]
  | sendErr pc | pmtudSendErr pc =>
    refine hquiet rfl rfl fun o ho => ?_
    split_ifs at ho
    · obtain rfl := List.mem_singleton.mp ho
      simp [Occurrence.answers]
    · cases ho
  | register pc | pmtudRegister pc =>
    refine hquiet rfl rfl fun o ho => ?_
    obtain rfl := List.mem_singleton.mp ho
    simp [Occurrence.answers]
  | _ => exact hsame rfl rfl

/-- A receiver whose batch changes. -/
theorem inTransit_setReceiver (b : Bool) (r : Receiver) : (s.setReceiver b r).inTransit key +
    (s.receivers b).batch.countP (fun resp => resp.key = key) =
      s.inTransit key + r.batch.countP fun resp => resp.key = key := by
  have hsum := @overReceivers_setReceiver s b r fun r => r.batch.countP fun resp => resp.key = key
  unfold inTransit
  rw [setReceiver_engines]
  omega

/-- An engine that takes or leaves a response of the poll. -/
theorem inTransit_setPc (t : IpAddr) (pc : EnginePc) : (s.setPc t pc).inTransit key +
    (if key.target = t then (s.engines t).pc.heldCount key else 0) =
      s.inTransit key + if key.target = t then pc.heldCount key else 0 := by
  unfold inTransit
  rw [pc_setPc]
  have hreceivers : (s.setPc t pc).overReceivers (fun r => r.batch.countP fun resp => resp.key = key) =
      s.overReceivers fun r => r.batch.countP fun resp => resp.key = key := rfl
  rw [hreceivers]
  split_ifs with ht
  · rw [ht]
    omega
  · rfl

/-- The response that an engine holds is in transit under its own key. -/
theorem heldCount_polled (t : IpAddr) (resp : PolledResponse) :
    (if key.target = t then (EnginePc.polled resp).heldCount key else 0) = if resp.key t = key then 1 else 0 := by
  by_cases ht : key.target = t
  · rw [if_pos ht, EnginePc.heldCount, ht]
  · have hne : resp.key t ≠ key := by
      rintro rfl
      exact ht rfl
    rw [if_neg ht, if_neg hne]

/-- An engine that moves between places where it holds no response. -/
theorem inTransit_move {s₁ : Tracer} {t : IpAddr} {pc : EnginePc} (hreceivers : s₁.receivers = s.receivers)
    (hengines : s₁.engines = s.engines) (hbefore : (s.engines t).pc.heldCount key = 0)
    (hafter : pc.heldCount key = 0) : (s₁.setPc t pc).inTransit key = s.inTransit key := by
  have hsum := @inTransit_setPc s₁ key t pc
  have hsame : s₁.inTransit key = s.inTransit key := by
    unfold Tracer.inTransit overReceivers
    rw [hreceivers, hengines]
  rw [hengines, hbefore, hafter, hsame] at hsum
  simpa using hsum

/-- A receiver that keeps its batch. -/
theorem inTransit_shift {s₁ : Tracer} {b : Bool} {phase : ReceiverPhase}
    (hsame : s₁.inTransit key = s.inTransit key) (hreceivers : s₁.receivers = s.receivers) :
    (s₁.setReceiver b ⟨phase, (s.receivers b).batch⟩).inTransit key = s.inTransit key := by
  have hsum := @inTransit_setReceiver s₁ key b ⟨phase, (s.receivers b).batch⟩
  rw [hreceivers, hsame] at hsum
  exact Nat.add_right_cancel hsum

/-- What an action counts leaves transit, and what its reply takes enters it. -/
theorem Step.inTransit (h : Step env s a s') (hs : Sound env s) :
    s'.inTransit key + (if s.countedKey a = some key then 1 else 0) =
      s.inTransit key + if s.takenKey env a = some key then 1 else 0 := by
  have hquiet : s'.inTransit key = s.inTransit key → s.countedKey a = none → s.takenKey env a = none →
      s'.inTransit key + (if s.countedKey a = some key then 1 else 0) =
        s.inTransit key + if s.takenKey env a = some key then 1 else 0 := by
    intro hsame hcounts htaken
    rw [hsame, hcounts, htaken]
  cases h with
  | @receive b parsed response_ttl targets k probe phase perm found entry =>
    have hkey : (batchResponse parsed response_ttl probe s.now).key = k :=
      key_batchResponse (hs.keyed k probe entry) (matchReply_spec found).2
    have hsum := @inTransit_setReceiver (s.setPending (s.pending.erase k) [.matched b parsed k probe]) key b
      ⟨.draining, (s.receivers b).batch ++ [batchResponse parsed response_ttl probe s.now]⟩
    have hsame : (s.setPending (s.pending.erase k) [.matched b parsed k probe]).inTransit key =
      s.inTransit key := rfl
    rw [takenKey_of_takes (.receive found entry)]
    rw [hsame, List.countP_append, List.countP_singleton, hkey] at hsum
    simp only [countedKey, reduceCtorEq, if_false, Nat.add_zero, Option.some.injEq]
    simp only [decide_eq_true_eq, setPending_receivers] at hsum
    omega
  | @apply b resp batch phase head =>
    have hsum := @inTransit_setReceiver (s.onSession resp.target
      (Session.applyResponse (env.receiver b) s.now resp)) key b ⟨.applying, batch⟩
    have hsame : (s.onSession resp.target
      (Session.applyResponse (env.receiver b) s.now resp)).inTransit key = s.inTransit key := rfl
    have hcounts : s.countedKey (.apply b) = some resp.key := by rw [countedKey, head]; rfl
    have htaken : s.takenKey env (.apply b) = none := rfl
    rw [hcounts, htaken]
    rw [hsame, onSession_receivers, head, List.countP_cons] at hsum
    simp only [reduceCtorEq, if_false, Nat.add_zero, Option.some.injEq]
    simp only [decide_eq_true_eq] at hsum
    omega
  | @poll t parsed response_ttl k probe pc found entry =>
    have hsum := @inTransit_setPc (s.setPending (s.pending.erase k) [.polled parsed k probe]) key t
      (.polled (pollResponse parsed response_ttl probe s.now))
    have hsame : (s.setPending (s.pending.erase k) [.polled parsed k probe]).inTransit key =
      s.inTransit key := rfl
    -- The response that the engine holds is that of the entry.
    have hkey : (pollResponse parsed response_ttl probe s.now).key t = k :=
      key_pollResponse (hs.keyed k probe entry) found
    have hbefore : (s.engines t).pc.heldCount key = 0 := by rw [pc]; rfl
    rw [takenKey_of_takes (.poll found entry)]
    rw [hsame, heldCount_polled, hkey, setPending_engines, hbefore, ite_self] at hsum
    simp only [countedKey, reduceCtorEq, if_false, Nat.add_zero, Option.some.injEq] at hsum ⊢
    exact hsum
  | @pollApply t resp pc =>
    have hsum := @inTransit_setPc (s.onSession t (Session.applyPolled t resp)) key t .polling
    have hsame : (s.onSession t (Session.applyPolled t resp)).inTransit key = s.inTransit key := rfl
    have hcounts : s.countedKey (.pollApply t) = some (resp.key t) := by simp only [countedKey, pc]
    have htaken : s.takenKey env (.pollApply t) = none := rfl
    rw [hsame, onSession_engines, pc, heldCount_polled] at hsum
    rw [hcounts, htaken]
    simp only [EnginePc.heldCount, ite_self, Nat.add_zero, Option.some.injEq, reduceCtorEq, if_false] at hsum ⊢
    exact hsum
  | paused => exact hquiet rfl rfl rfl
  | pollMiss noMatch => exact hquiet rfl rfl (takenKey_pollMiss noMatch)
  | @move t a pc move =>
    have hheld : (s.engines t).pc.heldCount key = 0 ∧ pc.heldCount key = 0 := by
      cases move with
      | counted pc | stop pc _ | beginRound pc _ | skip pc | noPmtud pc | sized pc _ _ | unsized pc
      | pmtudAbort pc => exact ⟨by rw [pc]; rfl, rfl⟩
    exact hquiet (inTransit_move rfl rfl hheld.1 hheld.2) (by cases move <;> rfl) (by cases move <;> rfl)
  | finish pc entry running limit done =>
    have hsame : (s.setPc _ .stopped).inTransit key = s.inTransit key :=
      inTransit_move rfl rfl (by rw [pc]; rfl) rfl
    exact hquiet hsame rfl rfl
  | register pc | sendOk pc | sendErr pc | pmtudRegister pc | pmtudClamp pc =>
    exact hquiet (inTransit_move rfl rfl (by rw [pc]; rfl) rfl) rfl rfl
  | pmtudCheck pc entry =>
    exact hquiet (inTransit_move rfl rfl (by rw [pc]; rfl) (by split <;> rfl)) rfl rfl
  | @pmtudSendErr t dest_ttl size emsgsize pc =>
    exact hquiet (inTransit_move rfl rfl (by rw [pc]; rfl) (by cases emsgsize <;> rfl)) rfl rfl
  | @pmtudSendOk t dest_ttl size pc =>
    have hsame : (s.setPc t .polling).inTransit key = s.inTransit key :=
      inTransit_move rfl rfl (by rw [pc]; rfl) rfl
    refine hquiet (Eq.trans ?_ hsame) rfl rfl
    simp only [Tracer.inTransit, setPc_engines, Function.update_apply]
    split_ifs <;> rfl
  | @endRound t pc =>
    have hsame : (s.setPc t .waiting).inTransit key = s.inTransit key :=
      inTransit_move rfl rfl (by rw [pc]; rfl) rfl
    refine hquiet (Eq.trans ?_ hsame) rfl rfl
    simp only [Tracer.inTransit, setPc_engines, finishRound_engines, Function.update_apply]
    split_ifs <;> rfl
  | shift shift =>
    cases shift with
    | missed phase perm noMatch => exact hquiet (inTransit_shift rfl rfl) rfl (takenKey_missed noMatch)
    | _ => exact hquiet (inTransit_shift rfl rfl) rfl rfl
  | recordLate phase dest => exact hquiet (inTransit_shift rfl rfl) rfl rfl
  | expire phase => exact hquiet (inTransit_shift rfl rfl) rfl rfl
  | recordTimeout phase => exact hquiet (inTransit_shift rfl rfl) rfl rfl
  | _ => exact hquiet rfl rfl rfl

/-- A response that is counted adds one to the received probes of its hop, when it is that of a normal
probe. -/
theorem Step.received (h : Step env s a s') (hs : Sound env s) (hcounts : s.countedKey a = some key)
    (t : IpAddr) (k : UInt8) :
    (s'.tally t k).received = (s.tally t k).received + if key.normalAt t k then 1 else 0 := by
  cases h with
  | @apply b resp batch phase head =>
    rw [countedKey, head] at hcounts
    obtain rfl := Option.some.inj hcounts
    have htally := @tally_applyResponse env s t k b resp batch hs head
    have hnormal : resp.key.normalAt t k =
        decide (t = resp.target ∧ resp.packet_size = none ∧ k = resp.probe_id.ttl) := by
      unfold PendingKey.normalAt BatchedResponse.key
      cases resp.packet_size <;> simp [eq_comm]
    show ((s.onSession resp.target
      (Session.applyResponse (env.receiver b) s.now resp)).tally t k).received = _
    rw [htally, hnormal]
    split_ifs with h1 h2 h2
    · rfl
    · exact absurd (decide_eq_true h1) h2
    · exact absurd (of_decide_eq_true h2) h1
    · rfl
  | @pollApply t' resp pc =>
    simp only [countedKey, pc, Option.some.injEq] at hcounts
    subst hcounts
    have htally := @tally_applyPolled env s t k t' resp hs pc
    have hnormal : (resp.key t').normalAt t k =
        decide (t = t' ∧ resp.packet_size = none ∧ k = resp.probe_id.ttl) := by
      unfold PendingKey.normalAt PolledResponse.key
      cases resp.packet_size <;> simp [eq_comm]
    show ((s.onSession t' (Session.applyPolled t' resp)).tally t k).received = _
    rw [htally, hnormal]
    split_ifs with h1 h2 h2
    · rfl
    · exact absurd (decide_eq_true h1) h2
    · exact absurd (of_decide_eq_true h2) h1
    · rfl
  | move move => cases move <;> cases hcounts
  | shift shift => cases shift <;> cases hcounts
  | _ => cases hcounts

/-- A receiver that sweeps, flushes or has stopped has applied its batch. -/
def Emptied (s : Tracer) : Prop :=
  ∀ b, (s.receivers b).phase ≠ .draining → (∀ parsed, (s.receivers b).phase ≠ .missed parsed) →
    (s.receivers b).phase ≠ .applying → (s.receivers b).batch = []

/-- A receiver goes on from its batch when that is empty. -/
theorem Emptied.step (he : s.Emptied) (h : Step env s a s') : s'.Emptied := by
  intro b hdraining hmissed happlying
  rcases h.receiver_cases b with hsame | hturn
  · rw [hsame] at hdraining hmissed happlying ⊢
    exact he b hdraining hmissed happlying
  have hold : ∀ {phase : ReceiverPhase}, (s.receivers b).phase = phase → phase ≠ .draining →
      (∀ parsed, phase ≠ .missed parsed) → phase ≠ .applying → (s.receivers b).batch = [] := by
    rintro _ rfl
    exact he b
  generalize s'.receivers b = r at *
  cases hturn with
  | receive => exact absurd rfl hdraining
  | recordLate => exact absurd rfl hdraining
  | apply => exact absurd rfl happlying
  | expire phase => exact hold phase (by simp) (by simp) (by simp)
  | recordTimeout phase => exact hold phase (by simp) (by simp) (by simp)
  | shift shift =>
    cases shift with
    | missed => exact absurd rfl (hmissed _)
    | forgotten => exact absurd rfl hdraining
    | drained => exact absurd rfl happlying
    | checkCancel phase empty => exact empty
    | recorded phase => exact hold phase (by simp) (by simp) (by simp)
    | fail phase empty => exact empty

/-- Where the receivers and the engines have stopped, nothing is in transit. -/
theorem Emptied.inTransit (he : s.Emptied) (hreceivers : ∀ b, (s.receivers b).phase = .stopped)
    (hengines : ∀ t, (s.engines t).pc = .stopped) (key : PendingKey) : s.inTransit key = 0 := by
  have hbatch : ∀ b, (s.receivers b).batch = [] := fun b =>
    he b (by rw [hreceivers]; simp) (by rw [hreceivers]; simp) (by rw [hreceivers]; simp)
  unfold Tracer.inTransit overReceivers
  simp only [hbatch, hengines, List.countP_nil]
  rfl

end

/-! ## Runs -/

/-- What a run in which replies lead to their probes keeps. -/
structure Punctual (env : Env) (s : Tracer) (h : Traffic) : Prop where
  sound : Sound env s
  patient : Patient env s
  traced : Traced s h
  kept : Kept env s h

/-- Each entry that replies took is counted, or in transit to its counter; and nothing is in transit when the
run has stopped. -/
structure Counted (env : Env) (s : Tracer) (h : Traffic) : Prop where
  sound : Sound env s
  emptied : s.Emptied
  counted : ∀ key, h.counted.count key + s.inTransit key = s.log.countP (Occurrence.answers key)

section

variable {env : Env} {s s' : Tracer} {h : Traffic} {l : Action × Origin} {targets : List IpAddr} {now : ℕ}
  {ls : List (Action × Origin)}

/-- Every step keeps the count of the responses. -/
theorem Counted.step (hc : Counted env s h) (hstep : Step env s l.1 s') :
    Counted env s' (noteTraffic env h s l) where
  sound := hc.sound.step hstep
  emptied := hc.emptied.step hstep
  counted := by
    intro key
    have htransit : s'.inTransit key + (if s.countedKey l.1 = some key then 1 else 0) =
        s.inTransit key + if s.takenKey env l.1 = some key then 1 else 0 := hstep.inTransit hc.sound
    have hanswers : s'.log.countP (Occurrence.answers key) =
        s.log.countP (Occurrence.answers key) + if s.takenKey env l.1 = some key then 1 else 0 := hstep.answers
    have hcounted := hc.counted key
    have hnote : (noteTraffic env h s l).counted.count key =
        h.counted.count key + if s.countedKey l.1 = some key then 1 else 0 := by
      simp only [noteTraffic, List.count_append]
      cases s.countedKey l.1 with
      | none => simp
      | some k => by_cases hk : k = key <;> simp [hk, Nat.add_comm]
    omega

/-- At the start there are none. -/
theorem counted_init : Counted env (init env targets now) .start where
  sound := sound_init targets now
  emptied := by
    intro b _ _ _
    rfl
  counted := by
    intro key
    have htransit : (init env targets now).inTransit key = 0 := by
      simp only [Tracer.inTransit, overReceivers, init, List.countP_nil]
      split_ifs <;> rfl
    rw [htransit]
    rfl

/-- The responses of a run, on their way to the counters. -/
theorem counted_run (hrun : run (recorded (noteTraffic env) (labelled (Tracer.step env)))
    (init env targets now, .start) ls = some (s, h)) : Counted env s h := by
  refine run_induction (fun _ x => Counted env x.1 x.2) counted_init ?_ ls (s, h) hrun
  rintro _ ⟨s, h⟩ l ⟨s', h'⟩ _ ih hstep
  obtain ⟨hs, rfl⟩ := recorded_eq_some.mp hstep
  exact ih.step (.of_step hs)

/-- The probes of a genuine run that ends in order, and in which replies lead to their probes. -/
theorem punctual_run (hrun : run (recorded (noteTraffic env) (labelled (Tracer.step env)))
      (init env targets now, .start) ls = some (s, h))
    (he : StepsMeet (Tracer.step env) (EndsInOrder env) (init env targets now) (ls.map Prod.fst))
    (hmeet : StepsMeet (recorded (noteTraffic env) (labelled (Tracer.step env)))
      (fun x l => Genuine env x l ∧ Leads env x.1 l) (init env targets now, .start) ls) :
    Punctual env s h := by
  have hinit : Punctual env (init env targets now) .start := by
    refine ⟨sound_init targets now, patient_init targets now, traced_init targets now, ?_, ?_, ?_⟩
    · rintro o (hm | hm) <;> cases hm
    · intro t o hm
      cases hm
    · intro d hd
      cases hd
  refine run_induction_of (fun _ x => Punctual env x.1 x.2) hinit ?_ ls (s, h) hrun
    ((he.labelled.recorded Traffic.start).and hmeet)
  rintro _ ⟨s, h⟩ l ⟨s', h'⟩ _ ⟨he, hg, hleads⟩ ih hstep
  obtain ⟨hs, rfl⟩ := recorded_eq_some.mp hstep
  have hstep := Step.of_step hs
  exact ⟨ih.sound.step hstep, ih.patient.step he hstep, ih.traced.step ih.sound hg hstep,
    ih.kept.step ih.patient ih.traced hg hleads hstep⟩

/-- A round of one hop, after which the engine completes at its next tick, after `elapsed`. -/
def oneRound (elapsed : ℕ) : List Action :=
  [.tick sampleTarget, .beginRound sampleTarget, .register sampleTarget, .sendOk sampleTarget,
    .pmtudCheck sampleTarget, .endRound sampleTarget, .clock elapsed, .tick sampleTarget,
    .drained false, .checkCancel false, .expire false]

/-- A round of two hops, of which the first answers, and whose engine completes after the timeout. -/
def oneAnswer : List (Action × Origin) :=
  ([.tick sampleTarget, .beginRound sampleTarget, .register sampleTarget, .sendOk sampleTarget,
    .register sampleTarget, .sendOk sampleTarget].map fun a => (a, none)) ++
  [(.receive false sampleReply none [sampleTarget], some sampleEntry)] ++
  ([.drained false, .apply false, .pmtudCheck sampleTarget, .endRound sampleTarget, .clock (4 * 10^9),
    .tick sampleTarget, .checkCancel false, .expire false].map fun a => (a, none))

end

end Tracer

end Ttl
