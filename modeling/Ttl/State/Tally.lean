import Ttl.State.Session

/-!
# Tallies

What the counters of a hop say about its probes, without the windows and detectors around them: the
probes sent and timed out, and for each address the number of its responses with their extreme RTTs.
A tally has three operations, and every update of a `Hop` is one of them or leaves the tally alone
(the simp lemmas of the second section). `Session.tally` reads the tally of one TTL of a session.
-/

namespace Ttl

/-- The responses of one address: their number, and the smallest and largest RTT. -/
@[ext]
structure RttSummary where
  received : ℕ
  min_rtt : ℕ
  max_rtt : ℕ
deriving DecidableEq

namespace RttSummary

/-- No response. -/
def empty : RttSummary := ⟨0, durationMax, 0⟩

/-- One more response. -/
def add (s : RttSummary) (rtt : ℕ) : RttSummary :=
  ⟨s.received + 1, min rtt s.min_rtt, max rtt s.max_rtt⟩

end RttSummary

/-- What the probes of a hop came to. -/
@[ext]
structure Tally where
  /-- Probes sent. -/
  sent : ℕ
  /-- Responses received. -/
  received : ℕ
  /-- Probes timed out. -/
  timeouts : ℕ
  /-- The responses of each address. -/
  responder : IpAddr → RttSummary

namespace Tally

/-- No probe. -/
def zero : Tally := ⟨0, 0, 0, fun _ => .empty⟩

/-- A probe was sent. -/
def addSent (t : Tally) : Tally := { t with sent := t.sent + 1 }

/-- A response arrived. -/
def addResponse (t : Tally) (ip : IpAddr) (rtt : ℕ) : Tally :=
  { t with
    received := t.received + 1
    responder := fun a => if a = ip then (t.responder ip).add rtt else t.responder a }

/-- A probe timed out. -/
def addTimeout (t : Tally) : Tally := { t with timeouts := t.timeouts + 1 }

end Tally

/-! ## The tally of a hop -/

/-- The summary of a responder's statistics. -/
def ResponderStats.summary (s : ResponderStats) : RttSummary := ⟨s.received, s.min_rtt, s.max_rtt⟩

namespace Hop

/-- The tally of a hop. -/
def tally (h : Hop) : Tally where
  sent := h.sent
  received := h.received
  timeouts := h.timeouts
  responder := fun ip => ((h.responders.lookup ip).map ResponderStats.summary).getD .empty

/-- A new hop has tallied nothing. -/
@[simp]
theorem tally_new (ttl : UInt8) : (new ttl).tally = .zero := rfl

/-- A hop has tallied nothing after a reset. -/
@[simp]
theorem tally_reset (h : Hop) : h.reset.tally = .zero := rfl

/-- A probe is tallied as sent. -/
@[simp]
theorem tally_recordSent (h : Hop) : h.recordSent.tally = h.tally.addSent := rfl

/-- A timeout is tallied. -/
@[simp]
theorem tally_recordTimeout (h : Hop) : h.recordTimeout.tally = h.tally.addTimeout := rfl

/-- What a flow has sent changes no tally. -/
@[simp]
theorem tally_recordFlowSent (h : Hop) (f : UInt8) : (h.recordFlowSent f).tally = h.tally := rfl

/-- What a flow has received changes no tally. -/
@[simp]
theorem tally_recordFlowResponse (h : Hop) (f : UInt8) (ip : IpAddr) :
    (h.recordFlowResponse f ip).tally = h.tally := rfl

/-- The timeouts of a flow change no tally. -/
@[simp]
theorem tally_recordFlowTimeout (h : Hop) (f : UInt8) : (h.recordFlowTimeout f).tally = h.tally := rfl

/-- The check for NAT changes no tally. -/
@[simp]
theorem tally_recordNatCheck (h : Hop) (original returned : Option UInt16) :
    (h.recordNatCheck original returned).tally = h.tally := by
  unfold recordNatCheck
  split <;> rfl

/-- The TTL of a response changes no tally. -/
@[simp]
theorem tally_recordResponseTtl (h : Hop) (ttl : UInt8) :
    (h.recordResponseTtl ttl).tally = h.tally := rfl

/-- The check of a quoted TTL changes no tally. -/
@[simp]
theorem tally_recordTtlManipCheck (h : Hop) (ttl : UInt8) :
    (h.recordTtlManipCheck ttl).tally = h.tally := rfl

/-- A response is tallied for its responder. -/
@[simp]
theorem tally_recordResponseWithExtensions (h : Hop) (ip : IpAddr) (rtt : ℕ)
    (mpls_labels : Option (List MplsLabel)) (interface_info : Option (List IcmpInterfaceInfo)) :
    (h.recordResponseWithExtensions ip rtt mpls_labels interface_info).tally =
      h.tally.addResponse ip rtt := by
  ext a
  · rfl
  · rfl
  · rfl
  all_goals
    simp only [tally, recordResponseWithExtensions, updatePrimary, KeyMap.lookup_upsert,
      Tally.addResponse]
    by_cases h' : a = ip
    · -- The responder of the response, which may be new, counts it. The others stay.
      subst h'
      cases hl : h.responders.lookup a <;>
        simp [ResponderStats.summary, RttSummary.add, RttSummary.empty, ResponderStats.new]
    · simp [h']

/-- Following the primary responder changes no tally. -/
@[simp]
theorem tally_trackFlapPrimary (h : Hop) : h.trackFlapPrimary.tally = h.tally := by
  unfold trackFlapPrimary
  dsimp only
  split
  · rfl
  · split_ifs <;> rfl

/-- A response is tallied alike where flaps are detected. -/
@[simp]
theorem tally_recordResponseDetectingFlapsWithExtensions (h : Hop) (ip : IpAddr) (rtt : ℕ)
    (mpls_labels : Option (List MplsLabel)) (interface_info : Option (List IcmpInterfaceInfo)) :
    (h.recordResponseDetectingFlapsWithExtensions ip rtt mpls_labels interface_info).tally =
      h.tally.addResponse ip rtt := by
  have htrack := tally_trackFlapPrimary
    (h.recordResponseWithExtensions ip rtt mpls_labels interface_info)
  rw [tally_recordResponseWithExtensions] at htrack
  rw [← htrack]
  -- What follows the flap window only sets the primary responder and the route changes.
  unfold recordResponseDetectingFlapsWithExtensions
  dsimp only
  split
  · split_ifs <;> rfl
  · rfl

/-- A response with labels only is tallied for its responder. -/
@[simp]
theorem tally_recordResponseWithMpls (h : Hop) (ip : IpAddr) (rtt : ℕ)
    (mpls_labels : Option (List MplsLabel)) :
    (h.recordResponseWithMpls ip rtt mpls_labels).tally = h.tally.addResponse ip rtt :=
  tally_recordResponseWithExtensions h ip rtt mpls_labels none

/-- A response with labels only is tallied alike where flaps are detected. -/
@[simp]
theorem tally_recordResponseDetectingFlaps (h : Hop) (ip : IpAddr) (rtt : ℕ)
    (mpls_labels : Option (List MplsLabel)) :
    (h.recordResponseDetectingFlaps ip rtt mpls_labels).tally = h.tally.addResponse ip rtt :=
  tally_recordResponseDetectingFlapsWithExtensions h ip rtt mpls_labels none

end Hop

/-! ## The tallies of a session -/

namespace Session

/-- Different TTLs have different hops. -/
theorem toNat_pred_ne {a b : UInt8} (ha : a ≠ 0) (hb : b ≠ 0) (h : a ≠ b) :
    a.toNat - 1 ≠ b.toNat - 1 := by
  have ha' : a.toNat ≠ 0 := fun e => ha (UInt8.toNat_inj.mp e)
  have hb' : b.toNat ≠ 0 := fun e => hb (UInt8.toNat_inj.mp e)
  have h' : a.toNat ≠ b.toNat := fun e => h (UInt8.toNat_inj.mp e)
  omega

/-- The TTLs that have a hop. -/
theorem isSome_hop {s : Session} {ttl : UInt8} :
    (s.hop ttl).isSome ↔ ttl ≠ 0 ∧ ttl.toNat ≤ s.hops.length := by
  unfold hop
  split_ifs with h
  · simp [h]
  · have h' : ttl.toNat ≠ 0 := fun e => h (UInt8.toNat_inj.mp e)
    simp only [List.getElem?_eq_some_iff, Option.isSome_iff_exists, h, ne_eq, not_false_eq_true,
      true_and]
    constructor
    · rintro ⟨x, hlt, -⟩
      omega
    · intro hle
      exact ⟨_, by omega, rfl⟩

/-- Changing a hop adds none. -/
@[simp]
theorem length_hopMut (s : Session) (ttl : UInt8) (f : Hop → Hop) :
    (s.hopMut ttl f).hops.length = s.hops.length := by
  rw [hopMut_hops]
  split_ifs <;> simp

/-- The TTLs of a round start at 1. -/
theorem mem_ttls {max ttl : UInt8} : ttl ∈ ttls max ↔ ttl ≠ 0 ∧ ttl ≤ max := by
  have hlt : max.toNat < 256 := max.toNat_lt
  simp only [ttls, List.mem_map, List.mem_range]
  constructor
  · rintro ⟨i, hi, rfl⟩
    have hto : (UInt8.ofNat (i + 1)).toNat = i + 1 := by
      rw [UInt8.toNat_ofNat', Nat.mod_eq_of_lt (by omega)]
    refine ⟨fun e => ?_, ?_⟩
    · rw [e] at hto
      simp at hto
    · rw [UInt8.le_iff_toNat_le, hto]
      omega
  · rintro ⟨hne, hle⟩
    have hpos : ttl.toNat ≠ 0 := fun e => hne (UInt8.toNat_inj.mp e)
    rw [UInt8.le_iff_toNat_le] at hle
    refine ⟨ttl.toNat - 1, by omega, ?_⟩
    rw [Nat.sub_add_cancel (by omega), UInt8.ofNat_toNat]

/-- `hopMut` updates the hop of its TTL, when there is one, and no other. -/
@[simp]
theorem hop_hopMut (s : Session) (ttl : UInt8) (f : Hop → Hop) (k : UInt8) :
    (s.hopMut ttl f).hop k = if k = ttl then (s.hop k).map f else s.hop k := by
  unfold hop hopMut
  by_cases hk : k = 0
  · simp [hk]
  by_cases ht : ttl = 0
  · -- The TTL 0 has no hop, so there is nothing to update.
    subst ht
    simp [hk]
  by_cases h : k = ttl
  · subst h
    simp [hk]
  · have hne := toNat_pred_ne ht hk (Ne.symm h)
    simp only [hk, ht, h, if_false]
    exact List.getElem?_modify_ne f s.hops hne

section

variable (s : Session) (ttl k : UInt8)

/-- An event changes no hop. -/
@[simp]
theorem hop_recordEvent (event : ProbeEvent) : (s.recordEvent event).hop k = s.hop k := rfl

/-- Marking the destination changes no hop. -/
@[simp]
theorem hop_markDestination : (s.markDestination ttl).hop k = s.hop k := rfl

/-- The total of the sent probes changes no hop. -/
@[simp]
theorem hop_addSent : s.addSent.hop k = s.hop k := rfl

/-- The path MTU search changes no hop. -/
@[simp]
theorem hop_onCurrentSize (packet_size : Option ℕ) (f : PmtudState → PmtudState) :
    (s.onCurrentSize packet_size f).hop k = s.hop k := rfl

end

/-- The tally of the hop of a TTL, of no probe where there is no hop. -/
def tally (s : Session) (ttl : UInt8) : Tally := ((s.hop ttl).map Hop.tally).getD .zero

section

variable (s : Session) (ttl k : UInt8)

/-- An event changes no tally. -/
@[simp]
theorem tally_recordEvent (event : ProbeEvent) : (s.recordEvent event).tally k = s.tally k := rfl

/-- Marking the destination changes no tally. -/
@[simp]
theorem tally_markDestination : (s.markDestination ttl).tally k = s.tally k := rfl

/-- The total of the sent probes changes no tally. -/
@[simp]
theorem tally_addSent : s.addSent.tally k = s.tally k := rfl

/-- The path MTU search changes no tally. -/
@[simp]
theorem tally_onCurrentSize (packet_size : Option ℕ) (f : PmtudState → PmtudState) :
    (s.onCurrentSize packet_size f).tally k = s.tally k := rfl

end

/-- A fresh session has sent no probe. -/
@[simp]
theorem tally_new (target : IpAddr) (config : Config) (now : ℕ) (k : UInt8) :
    (new target config now).tally k = .zero := by
  simp only [tally, hop, new]
  split_ifs
  · rfl
  · rw [List.getElem?_map]
    cases (ttls config.max_ttl)[k.toNat - 1]? <;> rfl

/-- A reset session has sent no probe. -/
@[simp]
theorem tally_resetStats (s : Session) (now : ℕ) (k : UInt8) : (s.resetStats now).tally k = .zero := by
  simp only [tally, hop, resetStats]
  split_ifs
  · rfl
  · rw [List.getElem?_map]
    cases s.hops[k.toNat - 1]? <;> rfl

/-- An update of one hop whose effect on tallies is `g` acts as `g` on that TTL's tally. -/
theorem tally_hopMut {s : Session} {ttl : UInt8} {f : Hop → Hop} {g : Tally → Tally}
    (hf : ∀ h : Hop, (f h).tally = g h.tally) (hop : (s.hop ttl).isSome) (k : UInt8) :
    (s.hopMut ttl f).tally k = if k = ttl then g (s.tally k) else s.tally k := by
  unfold tally
  rw [hop_hopMut]
  split_ifs with h
  · subst h
    obtain ⟨x, hx⟩ := Option.isSome_iff_exists.mp hop
    simp [hx, hf]
  · rfl

end Session

end Ttl
