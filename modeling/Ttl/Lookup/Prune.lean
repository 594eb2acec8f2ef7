import Ttl.Lookup.Cache

/-!
# What pruning keeps

`prune_cache` drops what is expired and, of the rest, the oldest entries beyond the cap. So no dropped entry that was
still good is newer than an entry that is kept, in whatever order equal times are sorted.
-/

namespace Ttl

section

variable {Entry : Type} {order : UnstableSort} {cache : KeyMap IpAddr Entry} {ttl : ℕ} {age_fn : Entry → ℕ}
  {is_expired : Entry → ℕ → Bool}

/-- The entries that are not expired. -/
def liveEntries (cache : KeyMap IpAddr Entry) (ttl : ℕ) (is_expired : Entry → ℕ → Bool) : KeyMap IpAddr Entry :=
  KeyMap.retain cache fun _ entry => ! is_expired entry ttl

/-- The live entries are those that have not expired. -/
theorem lookup_liveEntries {ip : IpAddr} {entry : Entry} :
    (liveEntries cache ttl is_expired).lookup ip = some entry ↔
      cache.lookup ip = some entry ∧ is_expired entry ttl = false := by
  rw [liveEntries, KeyMap.lookup_retain_eq_some, Bool.not_eq_true']

/-- A pruned cache. -/
structure Pruned (cache pruned : KeyMap IpAddr Entry) (ttl : ℕ) (age_fn : Entry → ℕ)
    (is_expired : Entry → ℕ → Bool) : Prop where
  live : ∀ ip entry, pruned.lookup ip = some entry → is_expired entry ttl = false
  unchanged : ∀ ip entry, pruned.lookup ip = some entry → cache.lookup ip = some entry
  length_le : pruned.entries.length ≤ enrichmentCacheCap
  /-- What is not expired stays when it fits. -/
  fits : KeyMap.count cache (fun _ entry => ! is_expired entry ttl) ≤ enrichmentCacheCap →
    ∀ ip entry, cache.lookup ip = some entry → is_expired entry ttl = false → pruned.lookup ip = some entry
  /-- Otherwise the cap is reached. -/
  full : enrichmentCacheCap < KeyMap.count cache (fun _ entry => ! is_expired entry ttl) →
    pruned.entries.length = enrichmentCacheCap
  /-- What is dropped without being expired is no newer than what is left. -/
  newest : ∀ ip entry, cache.lookup ip = some entry → is_expired entry ttl = false → pruned.lookup ip = none →
    ∀ ip' entry', pruned.lookup ip' = some entry' → age_fn entry ≤ age_fn entry'

/-- The live entries are as many as the cache counts. -/
theorem length_liveEntries :
    (liveEntries cache ttl is_expired).entries.length = KeyMap.count cache fun _ entry => ! is_expired entry ttl :=
  List.countP_eq_length_filter.symm

/-- A cache within the cap loses what is expired. -/
theorem pruned_liveEntries (h : (liveEntries cache ttl is_expired).entries.length ≤ enrichmentCacheCap) :
    Pruned cache (liveEntries cache ttl is_expired) ttl age_fn is_expired := by
  constructor
  case live => exact fun ip entry hentry => (lookup_liveEntries.mp hentry).2
  case unchanged => exact fun ip entry hentry => (lookup_liveEntries.mp hentry).1
  case length_le => exact h
  case fits => exact fun _ ip entry hentry hlive => lookup_liveEntries.mpr ⟨hentry, hlive⟩
  case full =>
    intro hover
    rw [← length_liveEntries] at hover
    exact absurd h (not_le.mpr hover)
  case newest =>
    intro ip entry hentry hlive hnone
    rw [lookup_liveEntries.mpr ⟨hentry, hlive⟩] at hnone
    cases hnone

/-- Times of the entries of a cache. -/
def agesOf (live : KeyMap IpAddr Entry) (age_fn : Entry → ℕ) : List (IpAddr × ℕ) :=
  live.entries.map fun e => (e.1, age_fn e.2)

/-- A live entry is listed with its age. -/
theorem mem_agesOf {live : KeyMap IpAddr Entry} {ip : IpAddr} {entry : Entry} (h : live.lookup ip = some entry) :
    (ip, age_fn entry) ∈ agesOf live age_fn :=
  List.mem_map_of_mem (f := fun e : Sigma fun _ : IpAddr => Entry => (e.1, age_fn e.2)) (AList.mem_lookup_iff.mp h)

/-- An address has one time. -/
theorem of_mem_agesOf {live : KeyMap IpAddr Entry} {a : IpAddr × ℕ} (h : a ∈ agesOf live age_fn) :
    ∃ entry, live.lookup a.1 = some entry ∧ a.2 = age_fn entry := by
  obtain ⟨e, he, rfl⟩ := List.mem_map.mp h
  exact ⟨e.2, AList.mem_lookup_iff.mpr he, rfl⟩

/-- No address is listed twice. -/
theorem nodup_agesOf (live : KeyMap IpAddr Entry) : ((agesOf live age_fn).map Prod.fst).Nodup := by
  rw [agesOf, List.map_map]
  exact live.nodupKeys

/-! ### Without the first ones -/

section

variable {live : KeyMap IpAddr Entry} {ages : List (IpAddr × ℕ)} {n : ℕ} {ip ip' : IpAddr} {entry entry' : Entry}

/-- A cache without the entries of the first `n` times. -/
def withoutFirst (live : KeyMap IpAddr Entry) (ages : List (IpAddr × ℕ)) (n : ℕ) : KeyMap IpAddr Entry :=
  (ages.take n).foldl (fun cache e => cache.erase e.1) live

/-- What is left are the entries that are not among the first ones. -/
theorem lookup_withoutFirst : (withoutFirst live ages n).lookup ip = some entry ↔
    ip ∉ (ages.take n).map Prod.fst ∧ live.lookup ip = some entry := by
  have hresult : (withoutFirst live ages n).lookup ip =
      if ip ∈ (ages.take n).map Prod.fst then none else live.lookup ip := KeyMap.lookup_foldl_erase Prod.fst _ live ip
  rw [hresult]
  split_ifs with hgone
  · exact ⟨nofun, fun h => absurd hgone h.1⟩
  · exact ⟨fun h => ⟨hgone, h⟩, fun h => h.2⟩

/-- As many entries are taken away as there are first ones. -/
theorem length_withoutFirst (hperm : ages.Perm (agesOf live age_fn)) (h : n ≤ live.entries.length) :
    (withoutFirst live ages n).entries.length = live.entries.length - n := by
  have hages : ages.length = live.entries.length := hperm.length_eq.trans (List.length_map _)
  -- No address goes twice, and all that go are there.
  have hnodup : ((ages.take n).map Prod.fst).Nodup := by
    have hall : (ages.map Prod.fst).Nodup := (hperm.map Prod.fst).nodup_iff.mpr (nodup_agesOf live)
    exact hall.sublist ((List.take_sublist _ _).map Prod.fst)
  have hmem : ∀ a ∈ ages.take n, (live.lookup a.1).isSome := by
    intro a ha
    obtain ⟨entry, hentry, -⟩ := of_mem_agesOf (hperm.mem_iff.mp (List.mem_of_mem_take ha))
    rw [hentry]
    rfl
  have hsum := KeyMap.length_foldl_erase hnodup hmem
  rw [List.length_take] at hsum
  unfold withoutFirst
  omega

/-- An entry that goes is no newer than one that stays. -/
theorem age_le_of_withoutFirst (hperm : ages.Perm (agesOf live age_fn)) (hsorted : ages.Pairwise fun a b => a.2 ≤ b.2)
    (hentry : live.lookup ip = some entry) (hgone : (withoutFirst live ages n).lookup ip = none)
    (hentry' : (withoutFirst live ages n).lookup ip' = some entry') : age_fn entry ≤ age_fn entry' := by
  obtain ⟨hstays, hlive'⟩ := lookup_withoutFirst.mp hentry'
  have htake : ip ∈ (ages.take n).map Prod.fst := by
    by_contra hnot
    rw [lookup_withoutFirst.mpr ⟨hnot, hentry⟩] at hgone
    cases hgone
  obtain ⟨a, ha, rfl⟩ := List.mem_map.mp htake
  have hage : a.2 = age_fn entry := by
    obtain ⟨e, he, hage⟩ := of_mem_agesOf (hperm.mem_iff.mp (List.mem_of_mem_take ha))
    rw [hentry, Option.some.injEq] at he
    rw [hage, he]
  have hdrop : (ip', age_fn entry') ∈ ages.drop n := by
    have hmem : (ip', age_fn entry') ∈ ages.take n ++ ages.drop n := by
      rw [List.take_append_drop]
      exact hperm.mem_iff.mpr (mem_agesOf hlive')
    exact (List.mem_append.mp hmem).resolve_left fun htake => hstays (List.mem_map_of_mem htake)
  -- What goes stands before what stays.
  rw [← List.take_append_drop n ages] at hsorted
  have hle := (List.pairwise_append.mp hsorted).2.2 a ha _ hdrop
  rwa [hage] at hle

end

/-- Of too many live entries the oldest go. -/
theorem pruned_withoutFirst (h : enrichmentCacheCap < (liveEntries cache ttl is_expired).entries.length) :
    Pruned cache
      (withoutFirst (liveEntries cache ttl is_expired) (order.sort (agesOf (liveEntries cache ttl is_expired) age_fn))
        ((liveEntries cache ttl is_expired).entries.length - enrichmentCacheCap))
      ttl age_fn is_expired := by
  have hperm := order.perm (agesOf (liveEntries cache ttl is_expired) age_fn)
  have hsorted := order.sorted (agesOf (liveEntries cache ttl is_expired) age_fn)
  have hlength := length_withoutFirst hperm (Nat.sub_le _ enrichmentCacheCap)
  rw [Nat.sub_sub_self h.le] at hlength
  constructor
  case live => exact fun ip entry hentry => (lookup_liveEntries.mp (lookup_withoutFirst.mp hentry).2).2
  case unchanged => exact fun ip entry hentry => (lookup_liveEntries.mp (lookup_withoutFirst.mp hentry).2).1
  case length_le => exact hlength.le
  case fits =>
    intro hfits
    rw [← length_liveEntries] at hfits
    exact absurd h (not_lt.mpr hfits)
  case full => exact fun _ => hlength
  case newest =>
    intro ip entry hentry hgood hnone ip' entry' hentry'
    exact age_le_of_withoutFirst hperm hsorted (lookup_liveEntries.mpr ⟨hentry, hgood⟩) hnone hentry'

/-- Whatever the cache, its order and its times, and however equal times are sorted: pruning leaves no expired entry
and at most as many as the cap, drops no other entry when all fit, and otherwise keeps the newest ones up to the cap. -/
theorem pruneCache_pruned (order : UnstableSort) (cache : KeyMap IpAddr Entry) (ttl : ℕ) (age_fn : Entry → ℕ)
    (is_expired : Entry → ℕ → Bool) :
    Pruned cache (pruneCache order cache ttl age_fn is_expired) ttl age_fn is_expired := by
  by_cases hover : enrichmentCacheCap < (liveEntries cache ttl is_expired).entries.length
  · have hprune : pruneCache order cache ttl age_fn is_expired =
        withoutFirst (liveEntries cache ttl is_expired)
          (order.sort (agesOf (liveEntries cache ttl is_expired) age_fn))
          ((liveEntries cache ttl is_expired).entries.length - enrichmentCacheCap) := if_pos hover
    rw [hprune]
    exact pruned_withoutFirst hover
  · have hprune : pruneCache order cache ttl age_fn is_expired = liveEntries cache ttl is_expired := if_neg hover
    rw [hprune]
    exact pruned_liveEntries (not_lt.mp hover)

end

end Ttl
