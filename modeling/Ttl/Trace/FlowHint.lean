import Ttl.Trace.Pending

/-!
# The lookup by a flow hint

`remove_pending_by_flow_hint` of `src/trace/receiver.rs` as a function of the map that returns the removed probe and
the rest of the map, with its loop over the keys. `Ttl.Trace.Pending` models it by the key that it removes, and
`PendingMap.removePendingByFlowHint_eq` says that the two agree.

The loop runs over the keys in the iteration order of the map, which the order of the entries stands for. What the
lookup removes is the same for any other order (`removePendingByFlowHint_spec`), as it only takes a flow that is the
only one of its list.
-/

namespace Ttl

namespace PendingMap

variable (pending : PendingMap) (probe_id : ProbeId) (target : IpAddr) (flow_hint : Option UInt8)
  (is_pmtud_response : Bool)

/-- An iteration of the loop over the keys, which collects the normal flows and the PMTUD flows. -/
def pushFlow : List UInt8 × List UInt8 → PendingKey → List UInt8 × List UInt8
  | (normal_flows, pmtud_flows), key =>
    if key.probe_id = probe_id ∧ key.target = target then
      if key.is_pmtud then (normal_flows, pmtud_flows ++ [key.flow_id])
      else (normal_flows ++ [key.flow_id], pmtud_flows)
    else (normal_flows, pmtud_flows)

/-- `remove_pending_by_flow_hint`. -/
def removePendingByFlowHint : Option PendingProbe × PendingMap :=
  match flow_hint with
  | some flow_id =>
    if is_pmtud_response then
      match pending.extract ⟨probe_id, flow_id, target, true⟩ with
      | (some probe, pending) => (some probe, pending)
      | (none, pending) =>
        match pending.extract ⟨probe_id, flow_id, target, false⟩ with
        | (some probe, pending) => (some probe, pending)
        | (none, pending) => (none, pending)
    else
      match pending.extract ⟨probe_id, flow_id, target, false⟩ with
      | (some probe, pending) => (some probe, pending)
      | (none, pending) =>
        match pending.extract ⟨probe_id, flow_id, target, true⟩ with
        | (some probe, pending) => (some probe, pending)
        | (none, pending) => (none, pending)
  | none =>
    let (normal_flows, pmtud_flows) := pending.keys.foldl (pushFlow probe_id target) ([], [])
    if h : is_pmtud_response ∧ pmtud_flows.length = 1 then
      pending.extract ⟨probe_id, pmtud_flows[0], target, true⟩
    else if h : normal_flows.length = 1 then
      pending.extract ⟨probe_id, normal_flows[0], target, false⟩
    else if h : normal_flows = [] ∧ pmtud_flows.length = 1 then
      pending.extract ⟨probe_id, pmtud_flows[0], target, true⟩
    else (none, pending)

/-! ## The removed key -/

section

variable {pending probe_id target flow_hint is_pmtud_response} {is_pmtud : Bool}

/-- The flows of one class among keys. -/
def flowsOf (probe_id : ProbeId) (target : IpAddr) (is_pmtud : Bool) (keys : List PendingKey) : List UInt8 :=
  (keys.filter fun k => k.probe_id = probe_id ∧ k.target = target ∧ k.is_pmtud = is_pmtud).map PendingKey.flow_id

/-- The flows of one key more. -/
theorem flowsOf_cons (key : PendingKey) (keys : List PendingKey) :
    flowsOf probe_id target is_pmtud (key :: keys) =
      flowsOf probe_id target is_pmtud [key] ++ flowsOf probe_id target is_pmtud keys := by
  unfold flowsOf
  rw [← List.map_append, ← List.filter_append, List.singleton_append]

/-- An iteration adds the flow of a key to the list of its class. -/
theorem pushFlow_eq (normal_flows pmtud_flows : List UInt8) (key : PendingKey) :
    pushFlow probe_id target (normal_flows, pmtud_flows) key =
      (normal_flows ++ flowsOf probe_id target false [key], pmtud_flows ++ flowsOf probe_id target true [key]) := by
  unfold pushFlow flowsOf
  dsimp only
  by_cases hmatch : key.probe_id = probe_id ∧ key.target = target
  · cases hclass : key.is_pmtud with
    | false => simp [hmatch, hclass]
    | true => simp [hmatch, hclass]
  · have hskip : ∀ is_pmtud, ¬(key.probe_id = probe_id ∧ key.target = target ∧ key.is_pmtud = is_pmtud) :=
      fun _ h => hmatch ⟨h.1, h.2.1⟩
    simp [hmatch, hskip]

/-- The loop collects the flows of the two classes. -/
theorem foldl_pushFlow (keys : List PendingKey) (normal_flows pmtud_flows : List UInt8) :
    keys.foldl (pushFlow probe_id target) (normal_flows, pmtud_flows) =
      (normal_flows ++ flowsOf probe_id target false keys, pmtud_flows ++ flowsOf probe_id target true keys) := by
  induction keys generalizing normal_flows pmtud_flows with
  | nil => rw [List.foldl_nil, flowsOf, flowsOf, List.filter_nil, List.filter_nil, List.map_nil, List.append_nil,
      List.append_nil]
  | cons key keys ih =>
    rw [List.foldl_cons, pushFlow_eq, ih, List.append_assoc, List.append_assoc, ← flowsOf_cons, ← flowsOf_cons]

/-- The two lists of flows are those of the two classes. -/
theorem foldl_keys :
    pending.keys.foldl (pushFlow probe_id target) ([], []) =
      (pendingFlows pending probe_id target false, pendingFlows pending probe_id target true) := by
  rw [foldl_pushFlow, List.nil_append, List.nil_append]
  rfl

/-- What is removed at a key. -/
def takeKey (pending : PendingMap) : Option PendingKey → Option PendingProbe × PendingMap
  | some key => (pending.lookup key, pending.erase key)
  | none => (none, pending)

/-- A pending key is extracted with its probe. -/
theorem extract_of_mem {key : PendingKey} (h : key ∈ pending) :
    ∃ probe, pending.extract key = (some probe, pending.erase key) ∧ pending.lookup key = some probe := by
  obtain ⟨probe, hprobe⟩ := Option.isSome_iff_exists.mp (AList.lookup_isSome.mpr h)
  exact ⟨probe, by rw [AList.extract_eq_lookup_erase, hprobe], hprobe⟩

/-- Removing a key that is not there leaves the map. -/
theorem extract_of_notMem {key : PendingKey} (h : key ∉ pending) :
    pending.extract key = (none, pending) := by
  have hentries : (pending.erase key).entries = pending.entries :=
    List.kerase_of_notMem_keys fun hmem => h (AList.mem_keys.mpr hmem)
  rw [AList.extract_eq_lookup_erase, AList.lookup_eq_none.mpr h, AList.ext hentries]

/-- Two exact keys, one after the other. -/
theorem extract_or_extract (first second : PendingKey) :
    (match pending.extract first with
      | (some probe, pending) => (some probe, pending)
      | (none, pending) =>
        match pending.extract second with
        | (some probe, pending) => (some probe, pending)
        | (none, pending) => (none, pending)) =
      takeKey pending (if first ∈ pending then some first else if second ∈ pending then some second else none) := by
  by_cases hfirst : first ∈ pending
  · obtain ⟨probe, hextract, hlookup⟩ := extract_of_mem hfirst
    rw [if_pos hfirst, hextract, takeKey, hlookup]
  rw [if_neg hfirst, extract_of_notMem hfirst]
  dsimp only
  by_cases hsecond : second ∈ pending
  · obtain ⟨probe, hextract, hlookup⟩ := extract_of_mem hsecond
    rw [if_pos hsecond, hextract, takeKey, hlookup]
  · rw [if_neg hsecond, extract_of_notMem hsecond, takeKey]

/-- The only flow of a list is its head. -/
theorem head?_of_length {flows : List UInt8} (h : 0 < flows.length) : flows.head? = some flows[0] :=
  List.head?_eq_getElem?.trans (List.getElem?_eq_getElem h)

/-- **The lookup of `Ttl.Trace.Pending`** names the key that the code removes. -/
theorem removePendingByFlowHint_eq :
    removePendingByFlowHint pending probe_id target flow_hint is_pmtud_response =
      takeKey pending (Ttl.removePendingByFlowHint pending probe_id target flow_hint is_pmtud_response) := by
  unfold removePendingByFlowHint Ttl.removePendingByFlowHint
  cases flow_hint with
  | some flow_id =>
    cases is_pmtud_response with
    | false => exact extract_or_extract _ _
    | true => exact extract_or_extract _ _
  | none =>
    rw [foldl_keys]
    dsimp only
    split_ifs with hpmtud hnormal hlone
    · rw [head?_of_length (by omega), AList.extract_eq_lookup_erase]
      rfl
    · rw [head?_of_length (by omega), AList.extract_eq_lookup_erase]
      rfl
    · rw [head?_of_length (by omega), AList.extract_eq_lookup_erase]
      rfl
    · rfl

/-! ## The iteration order -/

/-- The same entries in another iteration order. -/
def SameEntries (pending pending' : PendingMap) : Prop := pending.entries.Perm pending'.entries

variable {pending' : PendingMap}

/-- Maps with the same entries have the same keys. -/
theorem SameEntries.mem_iff (h : SameEntries pending pending') {key : PendingKey} :
    key ∈ pending ↔ key ∈ pending' := AList.mem_of_perm h

/-- Maps with the same entries have the same pending flows. -/
theorem SameEntries.pendingFlows (h : SameEntries pending pending') :
    (pendingFlows pending probe_id target is_pmtud).Perm (pendingFlows pending' probe_id target is_pmtud) :=
  ((h.map Sigma.fst).filter _).map _

/-- A list of one flow has the same head in any order. -/
theorem head?_perm {flows flows' : List UInt8} (h : flows.Perm flows') (hlen : flows.length = 1) :
    flows.head? = flows'.head? := by
  obtain ⟨f, rfl⟩ := List.length_eq_one_iff.mp hlen
  rw [List.singleton_perm.mp h]

/-- The same key is found in maps with the same entries. -/
theorem SameEntries.key_eq (h : SameEntries pending pending') :
    Ttl.removePendingByFlowHint pending probe_id target flow_hint is_pmtud_response =
      Ttl.removePendingByFlowHint pending' probe_id target flow_hint is_pmtud_response := by
  have hnormal : (Ttl.pendingFlows pending probe_id target false).Perm _ := h.pendingFlows
  have hpmtud : (Ttl.pendingFlows pending probe_id target true).Perm _ := h.pendingFlows
  have hnil : Ttl.pendingFlows pending probe_id target false = [] ↔
      Ttl.pendingFlows pending' probe_id target false = [] := by
    rw [← List.length_eq_zero_iff, hnormal.length_eq, List.length_eq_zero_iff]
  unfold Ttl.removePendingByFlowHint
  cases flow_hint with
  | some flow_id => simp only [h.mem_iff]
  | none =>
    dsimp only
    simp only [hnil, ← hnormal.length_eq, ← hpmtud.length_eq]
    split_ifs with hsole hone hlone
    · rw [head?_perm hpmtud hsole.2]
    · rw [head?_perm hnormal hone]
    · rw [head?_perm hpmtud hlone.2]
    · rfl

/-- Taking a key leaves the same entries. -/
theorem SameEntries.takeKey (h : SameEntries pending pending') (key : Option PendingKey) :
    (takeKey pending key).1 = (takeKey pending' key).1 ∧
      SameEntries (takeKey pending key).2 (takeKey pending' key).2 := by
  cases key with
  | none => exact ⟨rfl, h⟩
  | some key => exact ⟨AList.perm_lookup h, AList.perm_erase h⟩

end

/-! ## What is removed -/

/-- The entry that a reply removes. -/
structure Removes (pending : PendingMap) (probe_id : ProbeId) (target : IpAddr) (flow_hint : Option UInt8)
    (is_pmtud_response : Bool) (key : PendingKey) (probe : PendingProbe) : Prop where
  /-- It is pending. -/
  entry : pending.lookup key = some probe
  /-- It has the `ProbeId` and the target. -/
  hasId : key.probe_id = probe_id
  hasTarget : probe.target = target
  /-- It has the hinted flow. -/
  flow : ∀ f, flow_hint = some f → probe.flow_id = f
  /-- It has the preferred class, if an entry of the hinted flow has. -/
  preferred : ∀ f, flow_hint = some f → ⟨probe_id, f, target, is_pmtud_response⟩ ∈ pending →
    probe.packet_size.isSome = is_pmtud_response
  /-- Without a hint, it is the only entry of its class. -/
  sole : flow_hint = none → ∀ other ∈ pending, other.probe_id = probe_id → other.target = target →
    other.is_pmtud = probe.packet_size.isSome → other = key

/-- What the lookup does to the map: it removes one entry and leaves all others, or it leaves the map, which then
has no entry of the hinted flow. -/
def Outcome (pending : PendingMap) (probe_id : ProbeId) (target : IpAddr) (flow_hint : Option UInt8)
    (is_pmtud_response : Bool) : Option PendingProbe × PendingMap → Prop
  | (some probe, rest) => ∃ key, Removes pending probe_id target flow_hint is_pmtud_response key probe ∧
      ∀ other, rest.lookup other = if other = key then none else pending.lookup other
  | (none, rest) => rest = pending ∧
      ∀ f, flow_hint = some f → ∀ is_pmtud, ⟨probe_id, f, target, is_pmtud⟩ ∉ pending

section

variable {pending probe_id target flow_hint is_pmtud_response} {key : PendingKey} {probe : PendingProbe}

/-- A sole flow of a class is the only entry of that class. -/
theorem eq_of_soleFlow {is_pmtud : Bool} {flow_id : UInt8} {other : PendingKey}
    (h : SoleFlow pending probe_id target is_pmtud) (hmem : ⟨probe_id, flow_id, target, is_pmtud⟩ ∈ pending)
    (hother : other ∈ pending) (hid : other.probe_id = probe_id) (htarget : other.target = target)
    (hclass : other.is_pmtud = is_pmtud) : other = ⟨probe_id, flow_id, target, is_pmtud⟩ := by
  obtain ⟨p, f, t, b⟩ := other
  dsimp only at hid htarget hclass
  subst hid htarget hclass
  rw [h.unique hother hmem]

/-- The entry that is removed is as the specification says. -/
theorem removes_of_chosen (hkeyed : pending.WellKeyed)
    (h : Chosen pending probe_id target is_pmtud_response flow_hint key)
    (hlookup : pending.lookup key = some probe) :
    Removes pending probe_id target flow_hint is_pmtud_response key probe := by
  have hagrees := hkeyed key probe hlookup
  obtain ⟨-, hid, htarget, hflow⟩ := h.spec
  refine ⟨hlookup, hid, hagrees.target.trans htarget, fun f hf => hagrees.flow.trans (hflow f hf), ?_, ?_⟩
  · rintro f rfl hmem
    rw [← hagrees.class_iff]
    exact h.class_iff.mpr hmem
  · rintro rfl other hother hid' htarget' hclass
    rw [← hagrees.class_iff] at hclass
    cases h with
    | solePmtud _ sole mem => exact eq_of_soleFlow sole mem hother hid' htarget' hclass
    | soleNormal _ sole mem => exact eq_of_soleFlow sole mem hother hid' htarget' hclass
    | loneP _ _ sole mem => exact eq_of_soleFlow sole mem hother hid' htarget' hclass

end

end PendingMap

open PendingMap in
/-- **The lookup by a flow hint** removes at most one entry, which is the one that the hint and the class name or the
only one of its class, leaves all others, and does not depend on the iteration order. -/
theorem removePendingByFlowHint_spec {pending : PendingMap} (hkeyed : pending.WellKeyed) (probe_id : ProbeId)
    (target : IpAddr) (flow_hint : Option UInt8) (is_pmtud_response : Bool) :
    Outcome pending probe_id target flow_hint is_pmtud_response
        (PendingMap.removePendingByFlowHint pending probe_id target flow_hint is_pmtud_response) ∧
      ∀ pending', SameEntries pending pending' →
        (PendingMap.removePendingByFlowHint pending probe_id target flow_hint is_pmtud_response).1 =
          (PendingMap.removePendingByFlowHint pending' probe_id target flow_hint is_pmtud_response).1 ∧
        SameEntries (PendingMap.removePendingByFlowHint pending probe_id target flow_hint is_pmtud_response).2
          (PendingMap.removePendingByFlowHint pending' probe_id target flow_hint is_pmtud_response).2 := by
  constructor
  · rw [removePendingByFlowHint_eq]
    cases hkey : Ttl.removePendingByFlowHint pending probe_id target flow_hint is_pmtud_response with
    | none =>
      refine ⟨rfl, ?_⟩
      rintro f rfl is_pmtud hmem
      have hsome := isSome_removePendingByFlowHint.mpr
        (show Answers pending probe_id (some f) is_pmtud_response target from ⟨is_pmtud, hmem⟩)
      rw [hkey] at hsome
      cases hsome
    | some key =>
      have hchosen := chosen_of_removePendingByFlowHint hkey
      obtain ⟨probe, hprobe⟩ := Option.isSome_iff_exists.mp (AList.lookup_isSome.mpr hchosen.spec.1)
      rw [takeKey, hprobe]
      exact ⟨key, removes_of_chosen hkeyed hchosen hprobe, KeyMap.lookup_erase pending key⟩
  · intro pending' h
    rw [removePendingByFlowHint_eq, removePendingByFlowHint_eq, h.key_eq]
    exact h.takeKey _

/-- Two flows of one `ProbeId` and target, for which a reply without a hint is ambiguous. -/
def twoFlows : PendingMap :=
  ((∅ : PendingMap).insert ⟨⟨5, 7⟩, 1, .V4 ⟨192, 0, 2, 1⟩, false⟩ ⟨0, .V4 ⟨192, 0, 2, 1⟩, 1, none, none⟩).insert
    ⟨⟨5, 7⟩, 0, .V4 ⟨192, 0, 2, 1⟩, false⟩ ⟨0, .V4 ⟨192, 0, 2, 1⟩, 0, none, none⟩

/-- The sample is keyed by its probes. -/
theorem wellKeyed_twoFlows : twoFlows.WellKeyed := by
  intro key probe h
  rw [twoFlows, KeyMap.lookup_insert, KeyMap.lookup_insert] at h
  split_ifs at h with hfirst hsecond
  · obtain rfl := Option.some.inj h
    rw [hfirst]
    exact ⟨rfl, rfl, rfl⟩
  · obtain rfl := Option.some.inj h
    rw [hsecond]
    exact ⟨rfl, rfl, rfl⟩
  · cases h

/-- A hint takes its flow of the two. -/
theorem removePendingByFlowHint_spec_twoFlows :
    PendingMap.Outcome twoFlows ⟨5, 7⟩ (.V4 ⟨192, 0, 2, 1⟩) (some 1) false
      (PendingMap.removePendingByFlowHint twoFlows ⟨5, 7⟩ (.V4 ⟨192, 0, 2, 1⟩) (some 1) false) :=
  (removePendingByFlowHint_spec wellKeyed_twoFlows _ _ _ _).1

end Ttl
