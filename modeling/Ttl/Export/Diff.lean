import Mathlib.Data.List.Sort
import Mathlib.Data.Option.NAry
import Ttl.Lib.Lists
import Ttl.State.Named
import Ttl.State.Stats
import Ttl.Trace.Aggregates

/-!
# The diff of two sessions

`diff_sessions` of `src/export/diff.rs`. The two sessions are compared hop by hop, each with its snapshot when it
answered. The other way round the diff is its mirror, up to the significance of an RTT shift, which is measured against
the session before.
-/

namespace Ttl

/-- The address as a number, those of version 4 before those of version 6: `IpAddr` is ordered by it. -/
def IpAddr.rank : IpAddr → ℕ
  | .V4 ⟨a, b, c, d⟩ => [a, b, c, d].foldl (fun n octet => n * 2^8 + octet.toNat) 0
  | .V6 ⟨s0, s1, s2, s3, s4, s5, s6, s7⟩ =>
    2^32 + [s0, s1, s2, s3, s4, s5, s6, s7].foldl (fun n segment => n * 2^16 + segment.toNat) 0

/-- `HopChange`. -/
inductive HopChange where
  /-- The same primary responder in both sessions. -/
  | Unchanged
  /-- Different primary responders. -/
  | PathChange
  /-- Only the session after has an answer. -/
  | Added
  /-- Only the session before has an answer. -/
  | Lost
deriving DecidableEq

/-- `HopSnapshot`. -/
structure HopSnapshot where
  primary : Option IpAddr
  hostname : Option (List Char)
  avg_rtt_ms : Option ℚ
  loss_pct : ℚ
  /-- All responders, sorted. -/
  responders : List IpAddr

/-- `from_hop`: nothing of a hop that did not answer. -/
def HopSnapshot.fromHop (hop : Hop) : Option HopSnapshot :=
  if hop.received = 0 then none
  else
    let primary_stats := hop.primaryStats
    some {
      primary := hop.primary
      hostname := primary_stats.bind ResponderStats.hostname
      avg_rtt_ms := primary_stats.map fun s => asSecsF64 s.avgRtt * 1000
      loss_pct := hop.lossPct
      responders := hop.responders.keys.mergeSort fun a b => a.rank ≤ b.rank }

/-- `HopDiff`. -/
structure HopDiff where
  ttl : UInt8
  change : HopChange
  before : Option HopSnapshot
  after : Option HopSnapshot
  avg_rtt_delta_ms : Option ℚ
  loss_delta_pct : Option ℚ
  rtt_significant : Bool
  responders_added : List IpAddr
  responders_removed : List IpAddr

/-- `SessionDiff`. -/
structure SessionDiff where
  before_file : List Char
  after_file : List Char
  target_before : List Char
  target_after : List Char
  started_before : ℤ
  started_after : ℤ
  complete_before : Bool
  complete_after : Bool
  dest_ttl_before : Option UInt8
  dest_ttl_after : Option UInt8
  hops : List HopDiff

/-- `rtt_shifts`. -/
def SessionDiff.rttShifts (d : SessionDiff) : ℕ := d.hops.countP HopDiff.rtt_significant

/-- `has_changes`. -/
def SessionDiff.hasChanges (d : SessionDiff) : Bool :=
  0 < d.rttShifts || d.hops.any fun h => h.change ≠ .Unchanged || h.responders_added ≠ [] || h.responders_removed ≠ []

/-- `change` of `diff_sessions`, `none` where both are silent. -/
def hopChange : Option HopSnapshot → Option HopSnapshot → Option HopChange
  | none, none => none
  | none, some _ => some .Added
  | some _, none => some .Lost
  | some b, some a => some (if b.primary = a.primary then .Unchanged else .PathChange)

/-- `avg_rtt_delta_ms` of `diff_sessions`. -/
def avgRttDelta : Option HopSnapshot → Option HopSnapshot → Option ℚ
  | some b, some a =>
    match b.avg_rtt_ms, a.avg_rtt_ms with
    | some rb, some ra => some (ra - rb)
    | _, _ => none
  | _, _ => none

/-- `loss_delta_pct` of `diff_sessions`. -/
def lossDelta : Option HopSnapshot → Option HopSnapshot → Option ℚ
  | some b, some a => some (a.loss_pct - b.loss_pct)
  | _, _ => none

/-- `rtt_significant` of `diff_sessions`: 5 ms and 20 % of the RTT before. -/
def rttSignificant (avg_rtt_delta_ms : Option ℚ) (before : Option HopSnapshot) : Bool :=
  match avg_rtt_delta_ms, before with
  | some delta, some b =>
    let base := b.avg_rtt_ms.getD 0
    5 ≤ |delta| ∧ base * (20 / 100) ≤ |delta|
  | _, _ => false

/-- `responders_added` and `responders_removed` of `diff_sessions`. -/
def responderChanges : Option HopSnapshot → Option HopSnapshot → List IpAddr × List IpAddr
  | some b, some a =>
    (a.responders.filter fun ip => ip ∉ b.responders, b.responders.filter fun ip => ip ∉ a.responders)
  | _, _ => ([], [])

/-- One turn of the loop of `diff_sessions`. -/
def diffHop (snap_before snap_after : Option HopSnapshot) (ttl : UInt8) : Option HopDiff :=
  (hopChange snap_before snap_after).map fun change =>
    let avg_rtt_delta_ms := avgRttDelta snap_before snap_after
    let responders := responderChanges snap_before snap_after
    { ttl := ttl
      change := change
      before := snap_before
      after := snap_after
      avg_rtt_delta_ms := avg_rtt_delta_ms
      loss_delta_pct := lossDelta snap_before snap_after
      rtt_significant := rttSignificant avg_rtt_delta_ms snap_before
      responders_added := responders.1
      responders_removed := responders.2 }

/-- The snapshot of the hop at an index. -/
def Session.snapshot (s : Session) (i : ℕ) : Option HopSnapshot := s.hops[i]?.bind HopSnapshot.fromHop

/-- `diff_sessions`. -/
def diffSessions (before after : NamedSession) (before_file after_file : List Char) : SessionDiff where
  before_file := before_file
  after_file := after_file
  target_before := before.displayName
  target_after := after.displayName
  started_before := before.started_at
  started_after := after.started_at
  complete_before := before.complete
  complete_after := after.complete
  dest_ttl_before := before.dest_ttl
  dest_ttl_after := after.dest_ttl
  hops := (List.range (max before.hops.length after.hops.length)).filterMap fun i =>
    diffHop (before.snapshot i) (after.snapshot i) (UInt8.ofNat (i + 1))

/-! ## The mirror -/

/-- The change the other way round. -/
def HopChange.mirror : HopChange → HopChange
  | Unchanged => Unchanged
  | PathChange => PathChange
  | Added => Lost
  | Lost => Added

/-- One hop, the other way round. -/
structure HopDiff.Mirror (h' h : HopDiff) : Prop where
  ttl : h'.ttl = h.ttl
  change : h'.change = h.change.mirror
  before : h'.before = h.after
  after : h'.after = h.before
  avg_rtt_delta_ms : h'.avg_rtt_delta_ms = h.avg_rtt_delta_ms.map fun d => -d
  loss_delta_pct : h'.loss_delta_pct = h.loss_delta_pct.map fun d => -d
  responders_added : h'.responders_added = h.responders_removed
  responders_removed : h'.responders_removed = h.responders_added

/-- A diff, the other way round. -/
structure SessionDiff.Mirror (d' d : SessionDiff) : Prop where
  before_file : d'.before_file = d.after_file
  after_file : d'.after_file = d.before_file
  target_before : d'.target_before = d.target_after
  target_after : d'.target_after = d.target_before
  started_before : d'.started_before = d.started_after
  started_after : d'.started_after = d.started_before
  complete_before : d'.complete_before = d.complete_after
  complete_after : d'.complete_after = d.complete_before
  dest_ttl_before : d'.dest_ttl_before = d.dest_ttl_after
  dest_ttl_after : d'.dest_ttl_after = d.dest_ttl_before
  hops : List.Forall₂ HopDiff.Mirror d'.hops d.hops

/-- Exchanging the sessions turns the change of a hop around. -/
theorem hopChange_mirror (before after : Option HopSnapshot) :
    hopChange after before = (hopChange before after).map HopChange.mirror := by
  cases before with
  | none => cases after <;> rfl
  | some b =>
    cases after with
    | none => rfl
    | some a =>
      rw [hopChange, hopChange, Option.map_some]
      by_cases hsame : b.primary = a.primary
      · rw [if_pos hsame, if_pos hsame.symm]
        rfl
      · rw [if_neg hsame, if_neg (Ne.symm hsame)]
        rfl

/-- Exchanging the sessions turns the sign of the difference of the average round-trip times. -/
theorem avgRttDelta_mirror (before after : Option HopSnapshot) :
    avgRttDelta after before = (avgRttDelta before after).map fun d => -d := by
  cases before with
  | none => cases after <;> rfl
  | some b =>
    cases after with
    | none => rfl
    | some a =>
      obtain ⟨-, -, before_rtt, -, -⟩ := b
      obtain ⟨-, -, after_rtt, -, -⟩ := a
      cases before_rtt with
      | none => cases after_rtt <;> rfl
      | some rb =>
        cases after_rtt with
        | none => rfl
        | some ra => exact congrArg some (neg_sub ra rb).symm

/-- Exchanging the sessions turns the sign of the difference of the losses. -/
theorem lossDelta_mirror (before after : Option HopSnapshot) :
    lossDelta after before = (lossDelta before after).map fun d => -d := by
  cases before with
  | none => cases after <;> rfl
  | some b =>
    cases after with
    | none => rfl
    | some a => exact congrArg some (neg_sub a.loss_pct b.loss_pct).symm

/-- Exchanging the sessions exchanges the responders that were added and removed. -/
theorem responderChanges_mirror (before after : Option HopSnapshot) :
    responderChanges after before = (responderChanges before after).swap := by
  cases before <;> cases after <;> rfl

/-- The difference of a hop is mirrored, and there is one in both directions or in none. -/
theorem diffHop_mirror (before after : Option HopSnapshot) (ttl : UInt8) :
    Option.Rel HopDiff.Mirror (diffHop after before ttl) (diffHop before after ttl) := by
  have hchange := hopChange_mirror before after
  have hresponders := responderChanges_mirror before after
  unfold diffHop
  rw [hchange]
  cases hopChange before after with
  | none => exact .none
  | some change =>
    refine .some ⟨rfl, rfl, rfl, rfl, avgRttDelta_mirror before after, lossDelta_mirror before after, ?_, ?_⟩
    · exact congrArg Prod.fst hresponders
    · exact congrArg Prod.snd hresponders

/-- The difference of the sessions is mirrored. -/
theorem diffSessions_mirror (a b : NamedSession) (a_file b_file : List Char) :
    (diffSessions b a b_file a_file).Mirror (diffSessions a b a_file b_file) := by
  refine ⟨rfl, rfl, rfl, rfl, rfl, rfl, rfl, rfl, rfl, rfl, ?_⟩
  have hrange : List.Forall₂ Eq (List.range (max b.hops.length a.hops.length))
      (List.range (max a.hops.length b.hops.length)) := by
    rw [max_comm]
    exact List.forall₂_refl _
  refine List.rel_filterMap ?_ hrange
  rintro i _ rfl
  exact diffHop_mirror _ _ _

/-! ## No change -/

/-- Nothing changed at the hop. -/
structure HopDiff.NoChange (h : HopDiff) : Prop where
  change : h.change = .Unchanged
  same : h.after = h.before
  avg_rtt_delta_ms : ∀ d ∈ h.avg_rtt_delta_ms, d = 0
  loss_delta_pct : h.loss_delta_pct = some 0
  rtt_significant : h.rtt_significant = false
  responders_added : h.responders_added = []
  responders_removed : h.responders_removed = []

/-- A hop does not differ from itself. -/
theorem diffHop_self {snap : Option HopSnapshot} {ttl : UInt8} {h : HopDiff} (hdiff : diffHop snap snap ttl = some h) :
    h.NoChange := by
  cases snap with
  | none => cases hdiff
  | some s =>
    have hnone : (s.responders.filter fun ip => ip ∉ s.responders) = [] := by
      rw [List.filter_eq_nil_iff]
      intro ip hip
      simpa using hip
    have hdelta : ∀ d ∈ avgRttDelta (some s) (some s), d = 0 := by
      obtain ⟨-, -, rtt, -, -⟩ := s
      cases rtt with
      | none => rintro d ⟨⟩
      | some r =>
        rintro d ⟨⟩
        exact sub_self r
    have hsignificant : rttSignificant (avgRttDelta (some s) (some s)) (some s) = false := by
      unfold rttSignificant
      cases hd : avgRttDelta (some s) (some s) with
      | none => rfl
      | some d =>
        have hzero : d = 0 := hdelta d (hd ▸ rfl)
        subst hzero
        -- A difference of zero is below 5 ms.
        refine decide_eq_false fun h => ?_
        rw [abs_zero] at h
        exact absurd h.1 (by decide)
    obtain rfl := Option.some.inj hdiff
    exact ⟨if_pos rfl, rfl, hdelta, congrArg some (sub_self _), hsignificant, hnone, hnone⟩

/-- No hop of a session differs from itself. -/
theorem diffSessions_self {a : NamedSession} {a_file b_file : List Char} {h : HopDiff}
    (hmem : h ∈ (diffSessions a a a_file b_file).hops) : h.NoChange := by
  obtain ⟨i, -, hdiff⟩ := List.mem_filterMap.mp hmem
  exact diffHop_self hdiff

/-- Without a change at a hop there is none at all. -/
theorem hasChanges_eq_false {d : SessionDiff} (h : ∀ hop ∈ d.hops, hop.NoChange) : d.hasChanges = false := by
  have hshifts : d.rttShifts = 0 := by
    rw [SessionDiff.rttShifts, List.countP_eq_zero]
    intro hop hmem
    rw [(h hop hmem).rtt_significant]
    exact Bool.false_ne_true
  rw [SessionDiff.hasChanges, hshifts, Bool.or_eq_false_iff]
  refine ⟨rfl, List.any_eq_false.mpr fun hop hmem => ?_⟩
  obtain ⟨hchange, -, -, -, -, hadded, hremoved⟩ := h hop hmem
  rw [hchange, hadded, hremoved]
  decide

/-! ## What is listed -/

/-- The hop at the TTL answered. -/
def Session.Answered (s : Session) (ttl : UInt8) : Prop := ∃ hop, s.hop ttl = some hop ∧ 0 < hop.received

/-- A hop has a snapshot when something was received. -/
theorem isSome_fromHop (hop : Hop) : (HopSnapshot.fromHop hop).isSome ↔ 0 < hop.received := by
  unfold HopSnapshot.fromHop
  by_cases h : hop.received = 0
  · rw [if_pos h, h]
    exact iff_of_false Bool.false_ne_true (lt_irrefl 0)
  · rw [if_neg h]
    exact iff_of_true rfl (Nat.pos_of_ne_zero h)

/-- The snapshot at an index is that of the hop with the TTL one above it. -/
theorem snapshot_ttl (s : Session) {ttl : UInt8} (h : ttl ≠ 0) :
    s.snapshot (ttl.toNat - 1) = (s.hop ttl).bind HopSnapshot.fromHop := by
  rw [Session.snapshot, Session.hop, if_neg h]

/-- A hop answered when it has a snapshot. -/
theorem answered_iff (s : Session) {ttl : UInt8} (h : ttl ≠ 0) :
    s.Answered ttl ↔ (s.snapshot (ttl.toNat - 1)).isSome := by
  rw [snapshot_ttl s h, Session.Answered]
  cases s.hop ttl with
  | none =>
    refine iff_of_false ?_ Bool.false_ne_true
    rintro ⟨hop, ⟨⟩, -⟩
  | some hop =>
    rw [Option.bind_some, isSome_fromHop]
    constructor
    · rintro ⟨_, ⟨⟩, hreceived⟩
      exact hreceived
    · exact fun hreceived => ⟨hop, rfl, hreceived⟩

/-- No hop has the TTL zero. -/
theorem not_answered_zero (s : Session) : ¬s.Answered 0 := by
  rintro ⟨hop, ⟨⟩, -⟩

/-- There is a difference where one of the two hops has a snapshot. -/
theorem isSome_diffHop (before after : Option HopSnapshot) (ttl : UInt8) :
    (diffHop before after ttl).isSome ↔ before.isSome ∨ after.isSome := by
  rw [diffHop, Option.isSome_map]
  cases before <;> cases after <;> simp [hopChange]

/-- What a diff lists, of sessions that have the TTLs up to 255. -/
structure SessionDiff.Sound (d : SessionDiff) (before after : Session) : Prop where
  ascending : (d.hops.map HopDiff.ttl).Pairwise (· < ·)
  listed : ∀ ttl, ttl ∈ d.hops.map HopDiff.ttl ↔ before.Answered ttl ∨ after.Answered ttl
  before : ∀ h ∈ d.hops, h.before = (before.hop h.ttl).bind HopSnapshot.fromHop
  after : ∀ h ∈ d.hops, h.after = (after.hop h.ttl).bind HopSnapshot.fromHop
  /-- The responders after are those before without the removed ones and with the added ones. -/
  responders : ∀ h ∈ d.hops, ∀ b ∈ h.before, ∀ a ∈ h.after,
    a.responders.Perm ((b.responders.filter fun ip => ip ∉ h.responders_removed) ++ h.responders_added)

/-- A snapshot names no responder twice. -/
theorem nodup_responders {s : Session} {i : ℕ} {snap : HopSnapshot} (h : snap ∈ s.snapshot i) :
    snap.responders.Nodup := by
  obtain ⟨hop, -, h⟩ := Option.bind_eq_some_iff.mp h
  unfold HopSnapshot.fromHop at h
  split_ifs at h
  obtain rfl := Option.some.inj h
  exact (List.mergeSort_perm _ _).nodup_iff.mpr hop.responders.keys_nodup

section

variable {a b : NamedSession} {a_file b_file : List Char}

/-- Where a hop of a diff comes from. -/
theorem of_mem_diffSessions (ha : a.hops.length ≤ 255) (hb : b.hops.length ≤ 255) {h : HopDiff}
    (hmem : h ∈ (diffSessions a b a_file b_file).hops) :
    h.ttl ≠ 0 ∧ diffHop (a.snapshot (h.ttl.toNat - 1)) (b.snapshot (h.ttl.toNat - 1)) h.ttl = some h := by
  obtain ⟨i, hi, hdiff⟩ := List.mem_filterMap.mp hmem
  rw [List.mem_range] at hi
  obtain ⟨change, -, hh⟩ := Option.map_eq_some_iff.mp hdiff
  have httl : h.ttl = UInt8.ofNat (i + 1) := hh ▸ rfl
  -- Among 255 hops no TTL wraps around.
  have hnat : h.ttl.toNat = i + 1 := by
    rw [httl, UInt8.toNat_ofNat', Nat.mod_eq_of_lt (by omega)]
  constructor
  · intro hzero
    rw [hzero] at hnat
    exact absurd hnat (Nat.succ_ne_zero i).symm
  · rw [hnat, Nat.add_sub_cancel, httl]
    exact hdiff

/-- The differences are listed by increasing TTL. -/
theorem ascending_diffSessions (ha : a.hops.length ≤ 255) (hb : b.hops.length ≤ 255) :
    ((diffSessions a b a_file b_file).hops.map HopDiff.ttl).Pairwise (· < ·) := by
  -- A hop that is left out does not change the order of the others.
  have hmarks : ((diffSessions a b a_file b_file).hops.map HopDiff.ttl).Sublist
      ((List.range (max a.hops.length b.hops.length)).map fun i => UInt8.ofNat (i + 1)) := by
    refine Lists.map_filterMap_sublist (fun i h hdiff => ?_) _
    obtain ⟨change, -, rfl⟩ := Option.map_eq_some_iff.mp hdiff
    rfl
  refine List.Pairwise.sublist hmarks (List.pairwise_map.mpr ?_)
  refine List.pairwise_lt_range.imp_of_mem fun {i j} hi hj hij => ?_
  rw [List.mem_range] at hi hj
  rw [UInt8.lt_iff_toNat_lt, UInt8.toNat_ofNat', UInt8.toNat_ofNat', Nat.mod_eq_of_lt (by omega),
    Nat.mod_eq_of_lt (by omega)]
  omega

/-- The differences are those of the TTLs that were answered in one of the sessions. -/
theorem listed_diffSessions (ha : a.hops.length ≤ 255) (hb : b.hops.length ≤ 255) (ttl : UInt8) :
    ttl ∈ (diffSessions a b a_file b_file).hops.map HopDiff.ttl ↔ a.Answered ttl ∨ b.Answered ttl := by
  constructor
  · intro hlisted
    obtain ⟨h, hmem, rfl⟩ := List.mem_map.mp hlisted
    obtain ⟨hne, hdiff⟩ := of_mem_diffSessions ha hb hmem
    rw [answered_iff _ hne, answered_iff _ hne, ← isSome_diffHop _ _ h.ttl, hdiff]
    rfl
  · intro hanswered
    by_cases hzero : ttl = 0
    · subst hzero
      exact absurd hanswered (not_or.mpr ⟨not_answered_zero _, not_answered_zero _⟩)
    have hlt : ttl.toNat - 1 < max a.hops.length b.hops.length := by
      have hbound : ∀ s : Session, s.Answered ttl → ttl.toNat - 1 < s.hops.length := by
        rintro s ⟨hop, hhop, -⟩
        rw [Session.hop, if_neg hzero] at hhop
        exact (List.getElem?_eq_some_iff.mp hhop).1
      obtain h | h := hanswered
      · exact lt_max_of_lt_left (hbound _ h)
      · exact lt_max_of_lt_right (hbound _ h)
    rw [answered_iff _ hzero, answered_iff _ hzero, ← isSome_diffHop _ _ ttl] at hanswered
    obtain ⟨h, hdiff⟩ := Option.isSome_iff_exists.mp hanswered
    have hpos : ttl.toNat ≠ 0 := fun h => hzero (UInt8.toNat_inj.mp h)
    have hindex : UInt8.ofNat (ttl.toNat - 1 + 1) = ttl := by
      rw [Nat.sub_add_cancel (Nat.pos_of_ne_zero hpos), UInt8.ofNat_toNat]
    obtain ⟨change, -, hh⟩ := Option.map_eq_some_iff.mp hdiff
    refine List.mem_map.mpr ⟨h, List.mem_filterMap.mpr ⟨ttl.toNat - 1, List.mem_range.mpr hlt, ?_⟩, hh ▸ rfl⟩
    rw [hindex]
    exact hdiff

/-- The difference of two sessions is as `Sound` says. -/
theorem diffSessions_sound (ha : a.hops.length ≤ 255) (hb : b.hops.length ≤ 255) :
    (diffSessions a b a_file b_file).Sound a.toSession b.toSession := by
  constructor
  case ascending => exact ascending_diffSessions ha hb
  case listed => exact listed_diffSessions ha hb
  case before =>
    intro h hmem
    obtain ⟨hne, hdiff⟩ := of_mem_diffSessions ha hb hmem
    obtain ⟨change, -, hh⟩ := Option.map_eq_some_iff.mp hdiff
    have hbefore : h.before = a.snapshot (h.ttl.toNat - 1) := congrArg HopDiff.before hh.symm
    rw [hbefore, snapshot_ttl _ hne]
  case after =>
    intro h hmem
    obtain ⟨hne, hdiff⟩ := of_mem_diffSessions ha hb hmem
    obtain ⟨change, -, hh⟩ := Option.map_eq_some_iff.mp hdiff
    have hafter : h.after = b.snapshot (h.ttl.toNat - 1) := congrArg HopDiff.after hh.symm
    rw [hafter, snapshot_ttl _ hne]
  case responders =>
    intro h hmem snap_before hbefore snap_after hafter
    obtain ⟨-, hdiff⟩ := of_mem_diffSessions ha hb hmem
    obtain ⟨change, -, hh⟩ := Option.map_eq_some_iff.mp hdiff
    have hsnap_before : a.snapshot (h.ttl.toNat - 1) = some snap_before :=
      (congrArg HopDiff.before hh).trans hbefore
    have hsnap_after : b.snapshot (h.ttl.toNat - 1) = some snap_after :=
      (congrArg HopDiff.after hh).trans hafter
    rw [hsnap_before, hsnap_after] at hh
    refine Lists.perm_of_changes (nodup_responders hsnap_before) (nodup_responders hsnap_after) ?_ ?_
    · exact congrArg HopDiff.responders_removed hh.symm
    · exact congrArg HopDiff.responders_added hh.symm

end

/-- A session of two TTLs in which the target answered at one of them. -/
def sampleNamed (ttl : UInt8) : NamedSession where
  toSession := SessionOp.perform Tracer.sampleTarget SessionOp.sampleConfig 0
    [.polled Tracer.sampleTarget ⟨⟨ttl, 0⟩, Tracer.sampleTarget, 0, none, none⟩]
  original := "sample".toList
  aliases := []
  started_at := 0

end Ttl
