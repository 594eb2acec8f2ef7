import Mathlib.Data.List.Sort
import Ttl.Lib.Collections
import Ttl.State.Types

/-!
# What the lookups share

`sanitize_display` and `prune_cache` (`src/lookup/mod.rs`). A cache is a map from addresses to entries, and a
time is the number of nanoseconds of its `Instant`.
-/

namespace Ttl

/-- `char::is_control`: the general category Cc. -/
def isControl (c : Char) : Bool := c.toNat < 0x20 || (0x7F ≤ c.toNat && c.toNat < 0xA0)

/-- `sanitize_display`. -/
def sanitizeDisplay (s : List Char) : List Char := s.filter fun c => ! isControl c

/-- `ENRICHMENT_CACHE_CAP`. -/
def enrichmentCacheCap : ℕ := 10000

/-- `sort_unstable_by_key` of addresses by their time: in which order equal times come is not said. -/
structure UnstableSort where
  sort : List (IpAddr × ℕ) → List (IpAddr × ℕ)
  perm : ∀ ages, (sort ages).Perm ages
  sorted : ∀ ages, (sort ages).Pairwise fun a b => a.2 ≤ b.2

/-- A stable sort is one of them. -/
def UnstableSort.insertion : UnstableSort where
  sort := List.insertionSort fun a b => a.2 ≤ b.2
  perm := List.perm_insertionSort _
  sorted := by
    have : Std.Total fun a b : IpAddr × ℕ => a.2 ≤ b.2 := ⟨fun a b => Nat.le_total a.2 b.2⟩
    have : IsTrans (IpAddr × ℕ) fun a b => a.2 ≤ b.2 := ⟨fun _ _ _ => Nat.le_trans⟩
    exact List.pairwise_insertionSort _

/-- `prune_cache`: drop the expired entries, and then the oldest ones beyond the cap. -/
def pruneCache {Entry : Type} (order : UnstableSort) (cache : KeyMap IpAddr Entry) (ttl : ℕ)
    (age_fn : Entry → ℕ) (is_expired : Entry → ℕ → Bool) : KeyMap IpAddr Entry :=
  let live := KeyMap.retain cache fun _ entry => ! is_expired entry ttl
  if enrichmentCacheCap < live.entries.length then
    let ages := order.sort (live.entries.map fun e => (e.1, age_fn e.2))
    let excess := live.entries.length - enrichmentCacheCap
    (ages.take excess).foldl (fun cache e => cache.erase e.1) live
  else live

section

variable {Entry : Type} {order : UnstableSort} {cache : KeyMap IpAddr Entry} {ttl : ℕ}
  {age_fn : Entry → ℕ} {is_expired : Entry → ℕ → Bool} {ip : IpAddr} {entry : Entry}

/-- Removing keys changes no other entry. -/
theorem lookup_of_lookup_foldl_erase (removed : List (IpAddr × ℕ)) :
    (removed.foldl (fun cache e => cache.erase e.1) cache).lookup ip = some entry →
      cache.lookup ip = some entry := by
  intro h
  have hlookup := KeyMap.lookup_foldl_erase Prod.fst removed cache ip
  rw [h] at hlookup
  split_ifs at hlookup
  exact hlookup.symm

/-- An entry that is left was there before. -/
theorem lookup_of_lookup_pruneCache
    (h : (pruneCache order cache ttl age_fn is_expired).lookup ip = some entry) :
    cache.lookup ip = some entry := by
  have hlive : (KeyMap.retain cache fun _ entry => ! is_expired entry ttl).lookup ip = some entry := by
    unfold pruneCache at h
    dsimp only at h
    split_ifs at h
    · exact lookup_of_lookup_foldl_erase _ h
    · exact h
  exact (KeyMap.lookup_retain_eq_some.mp hlive).1

end

end Ttl
