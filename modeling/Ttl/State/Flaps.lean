import Mathlib.Data.List.Chain
import Ttl.State.HopOrder

/-!
# Route flaps

What `record_response_detecting_flaps_with_extensions` is for, as a tracker over the sequence of responses alone: the
tracked primary responder moves to the one that has just answered when that is ahead of it by the margin. No responder
is ever more than one response ahead of the tracked one (`Close`), so that the one that has just answered is the only
one that can be ahead by two, and the search for the largest count finds it in every iteration order. So a hop follows
the tracker (`Follows.recordIn`), and keeps the newest changes of the tracker's history (`routeChanges_wellFormed`).
-/

namespace Ttl

open Plurality

/-- The tracked primary responder over a sequence of responses, with all of its changes. -/
structure FlapTracker where
  responses : List IpAddr
  tracked : Option IpAddr
  history : List RouteChange

namespace FlapTracker

/-- Nothing has answered. -/
def new : FlapTracker := ⟨[], none, []⟩

/-- One more response. -/
def respond (t : FlapTracker) (ip : IpAddr) : FlapTracker :=
  let responses := t.responses ++ [ip]
  match t.tracked with
  | none => ⟨responses, some ip, t.history⟩
  | some old =>
    if responses.count old + 2 ≤ responses.count ip then
      ⟨responses, some ip,
        if 5 ≤ responses.length then t.history ++ [⟨old, ip, responses.length⟩] else t.history⟩
    else ⟨responses, some old, t.history⟩

/-- The tracker after events. -/
def run (events : List HopEvent) : FlapTracker := (events.filterMap HopEvent.responder?).foldl respond new

/-- No responder is more than one response ahead of the tracked one. -/
def Close (t : FlapTracker) : Prop :=
  match t.tracked with
  | none => t.responses = []
  | some ip => ∀ ip', t.responses.count ip' ≤ t.responses.count ip + 1

/-- What holds of the history. -/
structure WellFormed (t : FlapTracker) : Prop where
  distinct : ∀ c ∈ t.history, c.from_ip ≠ c.to_ip
  chain : t.history.IsChain fun c c' => c.to_ip = c'.from_ip ∧ c.at_seq < c'.at_seq
  last : ∀ c ∈ t.history.getLast?, t.tracked = some c.to_ip ∧ 5 ≤ c.at_seq ∧ c.at_seq ≤ t.responses.length

section

variable {t : FlapTracker} {ip old : IpAddr}

/-- The first responder is tracked. -/
theorem respond_of_none (h : t.tracked = none) (ip : IpAddr) :
    t.respond ip = ⟨t.responses ++ [ip], some ip, t.history⟩ := by
  unfold respond
  rw [h]

/-- A responder that has two responses more than the tracked one takes its place, as a change where there are
five. -/
theorem respond_of_some (h : t.tracked = some old) (ip : IpAddr) :
    t.respond ip =
      if (t.responses ++ [ip]).count old + 2 ≤ (t.responses ++ [ip]).count ip then
        ⟨t.responses ++ [ip], some ip,
          if 5 ≤ (t.responses ++ [ip]).length then
            t.history ++ [⟨old, ip, (t.responses ++ [ip]).length⟩]
          else t.history⟩
      else ⟨t.responses ++ [ip], some old, t.history⟩ := by
  unfold respond
  rw [h]

/-- A response counts for its responder only. -/
theorem count_concat_of_ne {ip ip' : IpAddr} (h : ip' ≠ ip) (responses : List IpAddr) :
    (responses ++ [ip]).count ip' = responses.count ip' := by
  rw [List.count_append, List.count_singleton, if_neg (by simpa using Ne.symm h), Nat.add_zero]

/-- A response takes none away. -/
theorem count_le_count_concat (responses : List IpAddr) (ip ip' : IpAddr) :
    responses.count ip' ≤ (responses ++ [ip]).count ip' := by
  rw [List.count_append]
  exact Nat.le_add_right _ _

/-- Nobody but the one that has just answered is ahead of the tracked one by the margin. -/
theorem Close.count_lt (hclose : t.Close) (htracked : t.tracked = some old) (ip : IpAddr) {ip' : IpAddr}
    (h : ip' ≠ ip) : (t.responses ++ [ip]).count ip' < (t.responses ++ [ip]).count old + 2 := by
  unfold Close at hclose
  rw [htracked] at hclose
  have hle := hclose ip'
  have hold := count_le_count_concat t.responses ip old
  rw [count_concat_of_ne h]
  omega

/-- The tracked responder stays within two responses of the others. -/
theorem Close.respond (hclose : t.Close) (ip : IpAddr) : (t.respond ip).Close := by
  cases htracked : t.tracked with
  | none =>
    unfold Close at hclose
    rw [htracked] at hclose
    have hnil : t.responses = [] := hclose
    rw [respond_of_none htracked, hnil, Close]
    dsimp only
    intro ip'
    exact List.count_le_length.trans (Nat.le_add_left 1 _)
  | some old =>
    have hlt {ip' : IpAddr} (h : ip' ≠ ip) := hclose.count_lt htracked ip h
    rw [respond_of_some htracked]
    by_cases hahead : (t.responses ++ [ip]).count old + 2 ≤ (t.responses ++ [ip]).count ip
    · rw [if_pos hahead, Close]
      dsimp only
      intro ip'
      by_cases hip : ip' = ip
      · rw [hip]
        exact Nat.le_succ _
      · have hle := hlt hip
        omega
    · rw [if_neg hahead, Close]
      dsimp only
      intro ip'
      by_cases hip : ip' = ip
      · rw [hip]
        omega
      · have hle := hlt hip
        omega

/-- No history is well formed. -/
theorem wellFormed_new : new.WellFormed where
  distinct := nofun
  chain := .nil
  last := nofun

/-- A response keeps the history well formed. -/
theorem WellFormed.respond (h : t.WellFormed) (ip : IpAddr) : (t.respond ip).WellFormed := by
  have hlength : (t.responses ++ [ip]).length = t.responses.length + 1 := by
    rw [List.length_append, List.length_singleton]
  cases htracked : t.tracked with
  | none =>
    -- There is no history before the first primary responder.
    have hnil : t.history = [] := by
      cases hlast : t.history.getLast? with
      | none => exact List.getLast?_eq_none_iff.mp hlast
      | some c =>
        have hsome := (h.last c hlast).1
        rw [htracked] at hsome
        cases hsome
    rw [respond_of_none htracked, hnil]
    exact ⟨nofun, .nil, nofun⟩
  | some old =>
    rw [respond_of_some htracked]
    by_cases hahead : (t.responses ++ [ip]).count old + 2 ≤ (t.responses ++ [ip]).count ip
    · rw [if_pos hahead]
      by_cases hlong : 5 ≤ (t.responses ++ [ip]).length
      · have hne : old ≠ ip := by
          rintro rfl
          omega
        rw [if_pos hlong]
        refine ⟨fun c hc => ?_, List.isChain_append.mpr ⟨h.chain, .singleton _, fun c hc c' hc' => ?_⟩, fun c hc => ?_⟩
        · obtain hc | hc := List.mem_append.mp hc
          · exact h.distinct c hc
          · rw [List.mem_singleton.mp hc]
            exact hne
        · -- The last change has led to the responder that is left now.
          obtain ⟨hto, -, hseq⟩ := h.last c hc
          rw [htracked] at hto
          obtain rfl := Option.some.inj hc'
          exact ⟨(Option.some.inj hto).symm, Nat.lt_of_le_of_lt hseq (hlength ▸ Nat.lt_succ_self _)⟩
        · rw [List.getLast?_concat] at hc
          obtain rfl := Option.some.inj hc
          exact ⟨rfl, hlong, Nat.le_refl _⟩
      · -- A change that is too early is none, and none has come before it.
        have hnil : t.history = [] := by
          cases hlast : t.history.getLast? with
          | none => exact List.getLast?_eq_none_iff.mp hlast
          | some c =>
            have hseq := (h.last c hlast).2
            omega
        rw [if_neg hlong, hnil]
        exact ⟨nofun, .nil, nofun⟩
    · rw [if_neg hahead]
      refine ⟨h.distinct, h.chain, fun c hc => ?_⟩
      obtain ⟨hto, hlong, hseq⟩ := h.last c hc
      exact ⟨htracked ▸ hto, hlong, by rw [hlength]; omega⟩

end

end FlapTracker

/-! ## A hop follows the tracker -/

/-- The hop is in the state of the tracker, and keeps its newest changes. -/
structure Follows (h : Hop) (t : FlapTracker) : Prop where
  received : h.received = t.responses.length
  tallies : Tallies h.responders ResponderStats.received t.responses
  tracked : h.flap_tracking_primary = t.tracked
  changes : h.route_changes = t.history.rtake Hop.maxRouteChanges

section

variable {h : Hop} {t : FlapTracker} {ip : IpAddr}

/-- A new hop follows a new tracker. -/
theorem follows_new (ttl : UInt8) : Follows (Hop.new ttl) .new where
  received := rfl
  tallies := tallies_empty _
  tracked := rfl
  changes := rfl

/-- In every order, the tracked primary responder moves as the tracker's does. -/
theorem trackFlapPrimaryIn_eq (htallies : Tallies h.responders ResponderStats.received (t.responses ++ [ip]))
    (htracked : h.flap_tracking_primary = t.tracked) (hclose : t.Close) (order : HopOrder) :
    h.trackFlapPrimaryIn order = { h with flap_tracking_primary := (t.respond ip).tracked } := by
  have hself : ip ∈ t.responses ++ [ip] := List.mem_append_right _ (List.mem_singleton_self ip)
  cases hleader : h.leaderIn order with
  | none =>
    rw [htallies.pick_eq_none_iff.mp hleader] at hself
    cases hself
  | some e =>
    obtain ⟨⟨-, hmax⟩, hcount⟩ := htallies.isLeader hleader
    unfold Hop.trackFlapPrimaryIn
    rw [hleader]
    dsimp only
    cases hold : t.tracked with
    | none =>
      -- The first responder is the only one.
      have hnil : t.responses = [] := by
        unfold FlapTracker.Close at hclose
        rwa [hold] at hclose
      have hfirst : e.1 = ip := by
        have hmem := (htallies.isLeader hleader).1.1
        rwa [hnil, List.nil_append, List.mem_singleton] at hmem
      rw [FlapTracker.respond_of_none hold, if_pos (.inl (htracked.trans hold)), hfirst]
    | some old =>
      have hcurrent : ((h.flap_tracking_primary.bind h.responders.lookup).map (·.received)).getD 0 =
          (t.responses ++ [ip]).count old := by
        rw [htracked, hold, Option.bind_some]
        exact htallies.getD old
      have hsome : h.flap_tracking_primary ≠ none := by
        rw [htracked, hold]
        exact nofun
      rw [hcurrent, hcount, FlapTracker.respond_of_some hold, Hop.primaryChangeMargin]
      by_cases hahead : (t.responses ++ [ip]).count old + 2 ≤ (t.responses ++ [ip]).count ip
      · -- Nobody else is ahead, so that the leader is the one that has just answered.
        have hlead : e.1 = ip := by
          by_contra hne
          have hlt := hclose.count_lt hold ip hne
          have hle := hmax ip
          omega
        rw [if_pos (.inr (hahead.trans (hmax ip))), if_pos hahead, hlead]
      · have hbehind : ¬(t.responses ++ [ip]).count old + 2 ≤ (t.responses ++ [ip]).count e.1 := by
          by_cases hne : e.1 = ip
          · rwa [hne]
          · have hlt := hclose.count_lt hold ip hne
            omega
        rw [if_neg (not_or.mpr ⟨hsome, hbehind⟩), if_neg hahead, ← hold, ← htracked]

/-- **A response** moves the hop as it moves the tracker, in every order. -/
theorem Follows.respond (hfollows : Follows h t) (hclose : t.Close) (order : HopOrder) (ip : IpAddr) (rtt : ℕ)
    (mpls_labels : Option (List MplsLabel)) (interface_info : Option (List IcmpInterfaceInfo)) :
    Follows (h.recordResponseDetectingFlapsWithExtensionsIn order ip rtt mpls_labels interface_info)
      (t.respond ip) := by
  obtain ⟨h', hh'⟩ : ∃ h', h' = h.recordResponseWithExtensionsIn order ip rtt mpls_labels interface_info := ⟨_, rfl⟩
  have hreceived : h'.received = (t.responses ++ [ip]).length := by
    rw [hh', List.length_append, ← hfollows.received]
    rfl
  have htallies : Tallies h'.responders ResponderStats.received (t.responses ++ [ip]) := by
    rw [hh']
    exact tallies_recordStats hfollows.tallies ip rtt mpls_labels interface_info
  have htracked : h'.flap_tracking_primary = t.tracked := by
    rw [hh']
    exact hfollows.tracked
  have hchanges : h'.route_changes = t.history.rtake Hop.maxRouteChanges := by
    rw [hh']
    exact hfollows.changes
  have htrack := trackFlapPrimaryIn_eq htallies htracked hclose order
  unfold Hop.recordResponseDetectingFlapsWithExtensionsIn
  rw [← hh', htrack, hfollows.tracked]
  cases hold : t.tracked with
  | none =>
    rw [FlapTracker.respond_of_none hold]
    exact ⟨hreceived, htallies, rfl, hchanges⟩
  | some old =>
    rw [FlapTracker.respond_of_some hold]
    by_cases hahead : (t.responses ++ [ip]).count old + 2 ≤ (t.responses ++ [ip]).count ip
    · have hne : old ≠ ip := by
        rintro rfl
        omega
      rw [if_pos hahead]
      dsimp only
      rw [hreceived, Hop.minResponsesForFlap]
      by_cases hlong : 5 ≤ (t.responses ++ [ip]).length
      · rw [if_pos ⟨hlong, hne⟩, if_pos hlong]
        refine ⟨rfl, htallies, rfl, ?_⟩
        rw [hchanges, pushWindow_rtake]
      · rw [if_neg fun h => hlong h.1, if_neg hlong]
        exact ⟨rfl, htallies, rfl, hchanges⟩
    · rw [if_neg hahead]
      dsimp only
      rw [if_neg fun h => h.2 rfl]
      exact ⟨hreceived, htallies, rfl, hchanges⟩

/-- Nothing else that is recorded moves it. -/
theorem Follows.of_not_response (hfollows : Follows h t) {e : HopEvent} (he : e.responder? = none) (flaps : Bool)
    (order : HopOrder) : Follows (h.recordIn flaps order e) t := by
  have hsame := Hop.recordIn_of_not_response flaps order h he
  exact ⟨hsame.received.trans hfollows.received, hsame.responders ▸ hfollows.tallies,
    hsame.tracked.trans hfollows.tracked, hsame.route_changes.trans hfollows.changes⟩

end

namespace FlapTracker

/-- An event is a response or nothing to the tracker. -/
theorem run_concat (events : List HopEvent) (e : HopEvent) :
    run (events ++ [e]) = e.responder?.elim (run events) (run events).respond := by
  rw [run, List.filterMap_append, List.foldl_append, ← run]
  cases he : e.responder? with
  | none =>
    rw [List.filterMap_cons_none he]
    rfl
  | some ip =>
    rw [List.filterMap_cons_some he]
    rfl

end FlapTracker

/-- **Every run** follows the tracker, in whatever orders. -/
theorem follows_run (ttl : UInt8) (orders : ℕ → HopOrder) (events : List HopEvent) :
    Follows (Hop.run true ttl orders events) (.run events) ∧ (FlapTracker.run events).Close ∧
      (FlapTracker.run events).WellFormed := by
  induction events using List.reverseRecOn with
  | nil => exact ⟨follows_new ttl, rfl, FlapTracker.wellFormed_new⟩
  | append_singleton events e ih =>
    obtain ⟨hfollows, hclose, hformed⟩ := ih
    rw [Hop.run_concat, FlapTracker.run_concat]
    cases he : e.responder? with
    | none => exact ⟨hfollows.of_not_response he true _, hclose, hformed⟩
    | some ip =>
      cases e with
      | response ip' rtt mpls_labels interface_info =>
        obtain rfl := Option.some.inj he
        exact ⟨hfollows.respond hclose _ _ _ _ _, hclose.respond _, hformed.respond _⟩
      | _ => cases he

/-- **Route changes:** the tracked primary responder and the changes are the same whatever orders the map of
responders is iterated in. At most 50 changes are kept, the newest ones. Each is a change, starts from where the one
before it led, and has a later position, and the last one has led to the tracked primary responder. -/
theorem routeChanges_wellFormed (ttl : UInt8) (orders orders' : ℕ → HopOrder) (events : List HopEvent) :
    let hop := Hop.run true ttl orders events
    let hop' := Hop.run true ttl orders' events
    hop.flap_tracking_primary = hop'.flap_tracking_primary ∧
    hop.route_changes = hop'.route_changes ∧
    hop.route_changes.length ≤ 50 ∧
    hop.route_changes = (FlapTracker.run events).history.rtake 50 ∧
    (∀ c ∈ hop.route_changes, c.from_ip ≠ c.to_ip) ∧
    hop.route_changes.IsChain (fun c c' => c.to_ip = c'.from_ip ∧ c.at_seq < c'.at_seq) ∧
    ∀ c ∈ hop.route_changes.getLast?, hop.flap_tracking_primary = some c.to_ip := by
  obtain ⟨hfollows, -, hformed⟩ := follows_run ttl orders events
  obtain ⟨hfollows', -, -⟩ := follows_run ttl orders' events
  have hchanges := hfollows.changes
  have hsuffix : (FlapTracker.run events).history.rtake Hop.maxRouteChanges <:+ (FlapTracker.run events).history :=
    List.drop_suffix _ _
  dsimp only
  refine ⟨hfollows.tracked.trans hfollows'.tracked.symm, hchanges.trans hfollows'.changes.symm, ?_, hchanges, ?_, ?_, ?_⟩
  · rw [hchanges, List.rtake, List.length_drop, Hop.maxRouteChanges]
    omega
  · intro c hc
    rw [hchanges] at hc
    exact hformed.distinct c (hsuffix.mem hc)
  · rw [hchanges]
    exact hformed.chain.suffix hsuffix
  · intro c hc
    rw [hchanges, List.rtake, List.getLast?_drop] at hc
    split_ifs at hc
    · cases hc
    · rw [hfollows.tracked]
      exact (hformed.last c hc).1

end Ttl
