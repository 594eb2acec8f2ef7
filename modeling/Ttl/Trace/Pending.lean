import Ttl.Lib.Collections
import Ttl.State.Types
import Mathlib.Data.List.Nodup

/-!
# Pending probes

The map of pending probes that every engine and every receiver shares (`src/trace/pending.rs`), and the
receiver's lookup in it, `remove_pending_by_flow_hint` of `src/trace/receiver.rs`. The lookup is
modelled by the key whose entry it removes: it removes nothing else, and nothing when there is no such
key. `Answers` says for which targets it finds one, in terms of what the map holds.
-/

namespace Ttl

/-- `PendingKey`. -/
structure PendingKey where
  probe_id : ProbeId
  flow_id : UInt8
  target : IpAddr
  is_pmtud : Bool
deriving DecidableEq, Repr

/-- `PendingProbe`: a probe that awaits its response. -/
structure PendingProbe where
  sent_at : ℕ
  target : IpAddr
  flow_id : UInt8
  /-- Source port, for NAT detection. -/
  original_src_port : Option UInt16
  /-- Size of a PMTUD probe. -/
  packet_size : Option ℕ
deriving DecidableEq, Repr

/-- `PendingMap`. -/
abbrev PendingMap := KeyMap PendingKey PendingProbe

/-- A key agrees with its probe: the same target and flow, and `is_pmtud` exactly when there is a
packet size. -/
structure PendingKey.Agrees (key : PendingKey) (probe : PendingProbe) : Prop where
  target : probe.target = key.target
  flow : probe.flow_id = key.flow_id
  class_iff : key.is_pmtud = probe.packet_size.isSome

/-- Every key agrees with its probe. -/
def PendingMap.WellKeyed (pending : PendingMap) : Prop :=
  ∀ key probe, pending.lookup key = some probe → key.Agrees probe

/-- Path MTU probes have the flow 0. -/
def PendingMap.OneFlow (pending : PendingMap) : Prop :=
  ∀ key ∈ pending, key.is_pmtud = true → key.flow_id = 0

/-- The flows of the pending probes of one `ProbeId`, target and class. -/
def pendingFlows (pending : PendingMap) (probe_id : ProbeId) (target : IpAddr) (is_pmtud : Bool) :
    List UInt8 :=
  (pending.keys.filter fun k =>
    k.probe_id = probe_id ∧ k.target = target ∧ k.is_pmtud = is_pmtud).map PendingKey.flow_id

/-- `remove_pending_by_flow_hint`: the key that it removes. With a hint it takes that flow, in the
response's class or else in the other one. Without, it takes a sole candidate: a PMTUD probe for a
PMTUD response, or else a normal probe, or else a PMTUD probe where there is no normal one. -/
def removePendingByFlowHint (pending : PendingMap) (probe_id : ProbeId) (target : IpAddr)
    (flow_hint : Option UInt8) (is_pmtud_response : Bool) : Option PendingKey :=
  match flow_hint with
  | some flow_id =>
    if ⟨probe_id, flow_id, target, is_pmtud_response⟩ ∈ pending then
      some ⟨probe_id, flow_id, target, is_pmtud_response⟩
    -- The other class, where the reply's own is gone.
    else if ⟨probe_id, flow_id, target, ! is_pmtud_response⟩ ∈ pending then
      some ⟨probe_id, flow_id, target, ! is_pmtud_response⟩
    else none
  | none =>
    let normal_flows := pendingFlows pending probe_id target false
    let pmtud_flows := pendingFlows pending probe_id target true
    if is_pmtud_response ∧ pmtud_flows.length = 1 then
      pmtud_flows.head?.map (⟨probe_id, ·, target, true⟩)
    else if normal_flows.length = 1 then
      normal_flows.head?.map (⟨probe_id, ·, target, false⟩)
    else if normal_flows = [] ∧ pmtud_flows.length = 1 then
      pmtud_flows.head?.map (⟨probe_id, ·, target, true⟩)
    else none

/-- Exactly one flow of the given `ProbeId`, target and class is pending. -/
def SoleFlow (pending : PendingMap) (probe_id : ProbeId) (target : IpAddr) (is_pmtud : Bool) : Prop :=
  ∃! flow_id, ⟨probe_id, flow_id, target, is_pmtud⟩ ∈ pending

/-- No flow of the given `ProbeId`, target and class is pending. -/
def NoFlow (pending : PendingMap) (probe_id : ProbeId) (target : IpAddr) (is_pmtud : Bool) : Prop :=
  ∀ flow_id, ⟨probe_id, flow_id, target, is_pmtud⟩ ∉ pending

/-- The target has a candidate for a reply: with a flow hint, a probe of that flow in either class;
without, a sole probe of a class that the reply may take. -/
def Answers (pending : PendingMap) (probe_id : ProbeId) (flow_hint : Option UInt8)
    (is_pmtud_response : Bool) (target : IpAddr) : Prop :=
  match flow_hint with
  | some flow_id => ∃ is_pmtud, ⟨probe_id, flow_id, target, is_pmtud⟩ ∈ pending
  | none =>
    (is_pmtud_response = true ∧ SoleFlow pending probe_id target true) ∨
      SoleFlow pending probe_id target false ∨
      (NoFlow pending probe_id target false ∧ SoleFlow pending probe_id target true)

/-- The target has a candidate of the given class. -/
def InClass (pending : PendingMap) (probe_id : ProbeId) (flow_hint : Option UInt8) (is_pmtud : Bool)
    (target : IpAddr) : Prop :=
  match flow_hint with
  | some flow_id => ⟨probe_id, flow_id, target, is_pmtud⟩ ∈ pending
  | none => SoleFlow pending probe_id target is_pmtud

section

variable {pending : PendingMap} {probe_id : ProbeId} {target : IpAddr} {is_pmtud : Bool}

/-- A flow is pending when its key is. -/
theorem mem_pendingFlows {flow_id : UInt8} :
    flow_id ∈ pendingFlows pending probe_id target is_pmtud ↔
      ⟨probe_id, flow_id, target, is_pmtud⟩ ∈ pending := by
  simp only [pendingFlows, List.mem_map, List.mem_filter, decide_eq_true_eq, AList.mem_keys]
  constructor
  · rintro ⟨⟨p, f, t, b⟩, ⟨hmem, rfl, rfl, rfl⟩, rfl⟩
    exact hmem
  · intro h
    exact ⟨_, ⟨h, rfl, rfl, rfl⟩, rfl⟩

/-- A flow is listed once: the other parts of the key are fixed. -/
theorem nodup_pendingFlows : (pendingFlows pending probe_id target is_pmtud).Nodup := by
  refine List.Nodup.map_on ?_ (pending.keys_nodup.filter _)
  rintro ⟨p, f, t, b⟩ hx ⟨p', f', t', b'⟩ hy h
  simp only [List.mem_filter, decide_eq_true_eq] at hx hy
  obtain ⟨-, rfl, rfl, rfl⟩ := hx
  obtain ⟨-, rfl, rfl, rfl⟩ := hy
  dsimp only at h
  rw [h]

/-- No flow is pending when no key of the class is. -/
theorem pendingFlows_eq_nil :
    pendingFlows pending probe_id target is_pmtud = [] ↔ NoFlow pending probe_id target is_pmtud := by
  rw [List.eq_nil_iff_forall_not_mem]
  exact forall_congr' fun f => not_congr mem_pendingFlows

/-- The list of flows is a singleton when a flow is the only one. -/
theorem pendingFlows_eq_singleton {flow_id : UInt8} :
    pendingFlows pending probe_id target is_pmtud = [flow_id] ↔
      ⟨probe_id, flow_id, target, is_pmtud⟩ ∈ pending ∧
        ∀ f, ⟨probe_id, f, target, is_pmtud⟩ ∈ pending → f = flow_id := by
  simp only [← mem_pendingFlows]
  constructor
  · intro h
    simp [h]
  · rintro ⟨hmem, hall⟩
    -- A list without duplicates is a permutation of any other that has the same elements.
    have hnodup := @nodup_pendingFlows pending probe_id target is_pmtud
    have hperm : (pendingFlows pending probe_id target is_pmtud).Perm [flow_id] :=
      (List.perm_ext_iff_of_nodup hnodup (List.nodup_singleton _)).mpr fun f =>
        ⟨fun hf => by simp [hall f hf], fun hf => by rw [List.mem_singleton.mp hf]; exact hmem⟩
    exact List.perm_singleton.mp hperm

/-- One flow is pending when it is the only one of its class. -/
theorem length_pendingFlows_eq_one :
    (pendingFlows pending probe_id target is_pmtud).length = 1 ↔
      SoleFlow pending probe_id target is_pmtud := by
  rw [List.length_eq_one_iff]
  exact exists_congr fun _ => pendingFlows_eq_singleton

/-- What is taken from a list of one flow. -/
theorem head_pendingFlows {key : PendingKey}
    (h : (pendingFlows pending probe_id target is_pmtud).head?.map
      (⟨probe_id, ·, target, is_pmtud⟩) = some key) :
    ∃ f, key = ⟨probe_id, f, target, is_pmtud⟩ ∧ ⟨probe_id, f, target, is_pmtud⟩ ∈ pending := by
  obtain ⟨f, hf, rfl⟩ := Option.map_eq_some_iff.mp h
  exact ⟨f, rfl, mem_pendingFlows.mp (List.mem_of_mem_head? hf)⟩

end

/-- How the lookup chooses: by the hint and then the class, or by the class and then the sole flow. -/
inductive Chosen (pending : PendingMap) (probe_id : ProbeId) (target : IpAddr)
    (is_pmtud_response : Bool) : Option UInt8 → PendingKey → Prop
  /-- The hinted flow, in the response's class. -/
  | preferred {f} (mem : ⟨probe_id, f, target, is_pmtud_response⟩ ∈ pending) :
      Chosen pending probe_id target is_pmtud_response (some f)
        ⟨probe_id, f, target, is_pmtud_response⟩
  /-- The hinted flow, in the other class. -/
  | other {f} (absent : ⟨probe_id, f, target, is_pmtud_response⟩ ∉ pending)
      (mem : ⟨probe_id, f, target, ! is_pmtud_response⟩ ∈ pending) :
      Chosen pending probe_id target is_pmtud_response (some f)
        ⟨probe_id, f, target, ! is_pmtud_response⟩
  /-- The sole PMTUD probe, for a PMTUD response. -/
  | solePmtud {f} (response : is_pmtud_response = true)
      (sole : SoleFlow pending probe_id target true)
      (mem : ⟨probe_id, f, target, true⟩ ∈ pending) :
      Chosen pending probe_id target is_pmtud_response none ⟨probe_id, f, target, true⟩
  /-- The sole normal probe. -/
  | soleNormal {f} (skip : ¬ (is_pmtud_response = true ∧ SoleFlow pending probe_id target true))
      (sole : SoleFlow pending probe_id target false)
      (mem : ⟨probe_id, f, target, false⟩ ∈ pending) :
      Chosen pending probe_id target is_pmtud_response none ⟨probe_id, f, target, false⟩
  /-- The sole PMTUD probe, where no normal probe is pending. -/
  | loneP {f} (skip : ¬ (is_pmtud_response = true ∧ SoleFlow pending probe_id target true))
      (absent : NoFlow pending probe_id target false)
      (sole : SoleFlow pending probe_id target true)
      (mem : ⟨probe_id, f, target, true⟩ ∈ pending) :
      Chosen pending probe_id target is_pmtud_response none ⟨probe_id, f, target, true⟩

section

variable {pending : PendingMap} {probe_id : ProbeId} {target : IpAddr} {flow_hint : Option UInt8}
  {is_pmtud_response : Bool} {key : PendingKey}

/-- What the lookup removes, it chooses by the rule. -/
theorem chosen_of_removePendingByFlowHint
    (h : removePendingByFlowHint pending probe_id target flow_hint is_pmtud_response = some key) :
    Chosen pending probe_id target is_pmtud_response flow_hint key := by
  unfold removePendingByFlowHint at h
  cases flow_hint with
  | some f =>
    dsimp only at h
    split_ifs at h with h1 h2
    · obtain rfl := Option.some.inj h
      exact .preferred h1
    · obtain rfl := Option.some.inj h
      exact .other h1 h2
  | none =>
    dsimp only at h
    split_ifs at h with h1 h2 h3
    -- In each of the three cases that remove something, it is the head of a list of one flow.
    all_goals
      obtain ⟨f, rfl, hf⟩ := head_pendingFlows h
      simp only [length_pendingFlows_eq_one, pendingFlows_eq_nil] at *
    · exact .solePmtud h1.1 h1.2 hf
    · exact .soleNormal h1 h2 hf
    · exact .loneP h1 h3.1 h3.2 hf

/-- What the rule chooses is pending, for the given `ProbeId` and target, and for the hinted flow. -/
theorem Chosen.spec (h : Chosen pending probe_id target is_pmtud_response flow_hint key) :
    key ∈ pending ∧ key.probe_id = probe_id ∧ key.target = target ∧
      ∀ f, flow_hint = some f → key.flow_id = f := by
  cases h with
  | preferred mem => exact ⟨mem, rfl, rfl, fun _ h => Option.some.inj h⟩
  | other _ mem => exact ⟨mem, rfl, rfl, fun _ h => Option.some.inj h⟩
  | solePmtud _ _ mem => exact ⟨mem, rfl, rfl, fun _ h => by cases h⟩
  | soleNormal _ _ mem => exact ⟨mem, rfl, rfl, fun _ h => by cases h⟩
  | loneP _ _ _ mem => exact ⟨mem, rfl, rfl, fun _ h => by cases h⟩

/-- Where one flow of a class is pending, not none is. -/
theorem SoleFlow.not_noFlow {is_pmtud : Bool} (h : SoleFlow pending probe_id target is_pmtud) :
    ¬ NoFlow pending probe_id target is_pmtud := by
  obtain ⟨f, hf, -⟩ := h
  exact fun hno => hno f hf

/-- The rule keeps to the response's class exactly when the target has a candidate of it. -/
theorem Chosen.class_iff (h : Chosen pending probe_id target is_pmtud_response flow_hint key) :
    key.is_pmtud = is_pmtud_response ↔
      InClass pending probe_id flow_hint is_pmtud_response target := by
  cases h with
  | preferred mem => exact iff_of_true rfl mem
  | other absent _ => exact iff_of_false (Bool.not_ne_self _) absent
  | solePmtud response sole _ =>
    subst response
    exact iff_of_true rfl sole
  | soleNormal skip sole _ =>
    -- A PMTUD response comes here only when there is no sole PMTUD probe.
    cases is_pmtud_response with
    | false => exact iff_of_true rfl sole
    | true => exact iff_of_false (by simp) fun h => skip ⟨rfl, h⟩
  | loneP skip absent sole _ =>
    cases is_pmtud_response with
    | false => exact iff_of_false (by simp) fun h => h.not_noFlow absent
    | true => exact absurd ⟨rfl, sole⟩ skip

/-- A sole flow can be taken. -/
theorem isSome_head_pendingFlows {is_pmtud : Bool} (h : SoleFlow pending probe_id target is_pmtud)
    (g : UInt8 → PendingKey) :
    ((pendingFlows pending probe_id target is_pmtud).head?.map g).isSome := by
  obtain ⟨f, hf⟩ := List.length_eq_one_iff.mp (length_pendingFlows_eq_one.mpr h)
  simp [hf]

/-- The lookup removes something exactly when the target has a candidate. -/
theorem isSome_removePendingByFlowHint :
    (removePendingByFlowHint pending probe_id target flow_hint is_pmtud_response).isSome ↔
      Answers pending probe_id flow_hint is_pmtud_response target := by
  unfold removePendingByFlowHint Answers
  cases flow_hint with
  | some f =>
    dsimp only
    constructor
    · intro h
      split_ifs at h with h1 h2
      · exact ⟨_, h1⟩
      · exact ⟨_, h2⟩
      · cases h
    · -- The hinted flow is found in whichever class it is.
      rintro ⟨b, hb⟩
      obtain rfl | rfl := Bool.eq_or_eq_not b is_pmtud_response
      · rw [if_pos hb]
        rfl
      · rw [if_pos hb]
        split_ifs <;> rfl
  | none =>
    dsimp only
    split_ifs with h1 h2 h3
    all_goals simp only [length_pendingFlows_eq_one, pendingFlows_eq_nil] at *
    · exact iff_of_true (isSome_head_pendingFlows h1.2 _) (Or.inl h1)
    · exact iff_of_true (isSome_head_pendingFlows h2 _) (Or.inr (Or.inl h2))
    · exact iff_of_true (isSome_head_pendingFlows h3.2 _) (Or.inr (Or.inr h3))
    · refine iff_of_false (by simp) ?_
      rintro (h | h | h)
      · exact h1 h
      · exact h2 h
      · exact h3 h

instance : Decidable (Answers pending probe_id flow_hint is_pmtud_response target) :=
  decidable_of_iff _ isSome_removePendingByFlowHint

instance {is_pmtud : Bool} : Decidable (InClass pending probe_id flow_hint is_pmtud target) :=
  match flow_hint with
  | some flow_id => inferInstanceAs (Decidable (⟨probe_id, flow_id, target, is_pmtud⟩ ∈ pending))
  | none => decidable_of_iff _ length_pendingFlows_eq_one

end

end Ttl
