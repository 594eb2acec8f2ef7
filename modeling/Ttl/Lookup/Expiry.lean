import Mathlib.Data.List.Dedup
import Mathlib.Data.List.Perm.Subperm
import Ttl.Lib.Logs
import Ttl.Lib.Runs
import Ttl.Lookup.Prune

/-!
# The caches of the lookups

`DnsLookup::reverse_lookup`, `AsnLookup::lookup` and `GeoLookup::lookup` (`src/lookup/{rdns,asn,geo}.rs`) are one
cache over what each of them asks: a lookup that finds an entry younger than `cache_ttl` returns it, and any other asks
outside, stores the answer and prunes. The cache is not locked while the answer is waited for, so that any number of
lookups are under way at once, of one address as well. `lookup_run` is over every interleaving of them.
-/

namespace Ttl

open Logs

/-- `CacheEntry`. An address without data has an entry as well. -/
structure CacheEntry (Info : Type) where
  info : Option Info
  cached_at : ℕ
deriving DecidableEq

/-- `DnsLookup`, `AsnLookup` or `GeoLookup`, with the time and with the lookups that wait for their answer. -/
structure CachedLookup (Info : Type) where
  cache : KeyMap IpAddr (CacheEntry Info)
  now : ℕ
  waiting : List IpAddr

/-- `cache_ttl`, an hour in nanoseconds. -/
def cacheTtl : ℕ := 3600 * 1000000000

/-- What happens to a lookup: time goes by, a worker calls it, or the answer to a call comes. -/
inductive LookupAction (Info : Type) where
  | elapse (nanos : ℕ)
  | call (ip : IpAddr)
  | answer (ip : IpAddr) (info : Option Info)

/-- What is seen of a lookup: a query goes out, is answered, and a call returns. -/
inductive LookupEvent (Info : Type) where
  | query (ip : IpAddr) (time : ℕ)
  | answered (ip : IpAddr) (time : ℕ) (info : Option Info)
  | returned (ip : IpAddr) (time : ℕ) (info : Option Info)

namespace CachedLookup

variable {Info : Type}

/-- `DnsLookup::new`, `AsnLookup::new` and `GeoLookup::new`, without what they ask. -/
def new : CachedLookup Info := ⟨∅, 0, []⟩

/-- The entry that answers a call at once. -/
def hit (c : CachedLookup Info) (ip : IpAddr) : Option (Option Info) :=
  match c.cache.lookup ip with
  | some entry => if c.now - entry.cached_at < cacheTtl then some entry.info else none
  | none => none

/-- `prune_cache` as the lookups call it. -/
def prune (order : UnstableSort) (cache : KeyMap IpAddr (CacheEntry Info)) (now : ℕ) :
    KeyMap IpAddr (CacheEntry Info) :=
  pruneCache order cache cacheTtl CacheEntry.cached_at fun e ttl => ttl ≤ now - e.cached_at

/-- `lookup`, in its two pieces: up to the query, and from its answer on. -/
def step (order : UnstableSort) (c : CachedLookup Info) : LookupAction Info → Option (CachedLookup Info)
  | .elapse nanos => some { c with now := c.now + nanos }
  | .call ip =>
    match c.hit ip with
    | some _ => some c
    | none => some { c with waiting := c.waiting ++ [ip] }
  | .answer ip info =>
    if ip ∈ c.waiting then
      some { c with
        cache := prune order (c.cache.insert ip ⟨info, c.now⟩) c.now
        waiting := c.waiting.erase ip }
    else none

/-- What is seen of a step. -/
def note (log : List (LookupEvent Info)) (c : CachedLookup Info) : LookupAction Info → List (LookupEvent Info)
  | .elapse _ => log
  | .call ip =>
    match c.hit ip with
    | some info => log ++ [.returned ip c.now info]
    | none => log ++ [.query ip c.now]
  | .answer ip info => log ++ [.answered ip c.now info] ++ [.returned ip c.now info]

end CachedLookup

namespace LookupEvent

variable {Info : Type}

/-- What an event tells of the address. -/
def answerFor (ip : IpAddr) : LookupEvent Info → Option (ℕ × Option Info)
  | .answered ip' time info => if ip' = ip then some (time, info) else none
  | _ => none

/-- The address that is answered. -/
def answeredIp : LookupEvent Info → Option IpAddr
  | .answered ip _ _ => some ip
  | _ => none

/-- What a call returns is the latest answer about its address, and that is younger than `cache_ttl`. -/
def Served (before : List (LookupEvent Info)) : LookupEvent Info → Prop
  | .returned ip time info =>
    ∃ t, latest (answerFor ip) before = some (t, info) ∧ t ≤ time ∧ time < t + cacheTtl
  | _ => True

/-- No query goes out about an address that was answered less than `cache_ttl` before. -/
def Needed (before : List (LookupEvent Info)) : LookupEvent Info → Prop
  | .query ip time => ∀ t info, latest (answerFor ip) before = some (t, info) → t + cacheTtl ≤ time
  | _ => True

end LookupEvent

namespace CachedLookup

variable {Info : Type} {order : UnstableSort} {c : CachedLookup Info} {log : List (LookupEvent Info)} {ip : IpAddr}
  {info : Option Info}

open LookupEvent

/-- Pruning a cache of the lookups. -/
theorem pruned_prune (order : UnstableSort) (cache : KeyMap IpAddr (CacheEntry Info)) (now : ℕ) :
    Pruned cache (prune order cache now) cacheTtl CacheEntry.cached_at fun e ttl => ttl ≤ now - e.cached_at := by
  let live := liveEntries cache cacheTtl fun e ttl => ttl ≤ now - e.cached_at
  by_cases hover : enrichmentCacheCap < live.entries.length
  · have hprune : prune order cache now = withoutFirst live (order.sort (agesOf live CacheEntry.cached_at))
        (live.entries.length - enrichmentCacheCap) := if_pos hover
    rw [hprune]
    exact pruned_withoutFirst hover
  · have hprune : prune order cache now = live := if_neg hover
    rw [hprune]
    exact pruned_liveEntries (not_lt.mp hover)

/-- A call is answered at once by an entry that is young enough. -/
theorem hit_eq_some : c.hit ip = some info ↔
    ∃ entry, c.cache.lookup ip = some entry ∧ c.now - entry.cached_at < cacheTtl ∧ entry.info = info := by
  unfold hit
  cases c.cache.lookup ip with
  | none => exact ⟨nofun, fun ⟨_, h, _⟩ => nomatch h⟩
  | some entry =>
    dsimp only
    split_ifs with hyoung
    · rw [Option.some.injEq]
      refine ⟨fun h => ⟨entry, rfl, hyoung, h⟩, ?_⟩
      rintro ⟨_, hentry, -, h⟩
      exact Option.some.inj hentry ▸ h
    · refine ⟨nofun, ?_⟩
      rintro ⟨_, hentry, hyoung', -⟩
      rw [← Option.some.inj hentry] at hyoung'
      exact absurd hyoung' hyoung

/-! ## What a log says of a cache -/

/-- An answer is the latest one about its address. -/
theorem latest_answered (ip : IpAddr) (t : ℕ) (info : Option Info) :
    latest (answerFor ip) (log ++ [.answered ip t info]) = some (t, info) :=
  latest_concat_of_some (if_pos rfl)

/-- An answer leaves the latest ones about the other addresses. -/
theorem latest_answered_of_ne {ip ip' : IpAddr} (h : ip ≠ ip') (t : ℕ) (info : Option Info) :
    latest (answerFor ip') (log ++ [.answered ip t info]) = latest (answerFor ip') log :=
  latest_concat_of_none (if_neg h)

/-- At most as many addresses as the cap were answered. -/
def Few (log : List (LookupEvent Info)) : Prop := (log.filterMap answeredIp).dedup.length ≤ enrichmentCacheCap

/-- Fewer answers are about no more addresses. -/
theorem Few.of_append {log' : List (LookupEvent Info)} (h : Few (log ++ log')) : Few log := by
  refine le_trans ?_ h
  have hsub : (log.filterMap answeredIp).dedup ⊆ ((log ++ log').filterMap answeredIp).dedup := by
    rw [List.filterMap_append]
    intro ip hip
    exact List.mem_dedup.mpr (List.mem_append_left _ (List.mem_dedup.mp hip))
  exact ((List.nodup_dedup _).subperm hsub).length_le

/-- Every entry is the latest answer about its address. -/
def Told (cache : KeyMap IpAddr (CacheEntry Info)) (log : List (LookupEvent Info)) : Prop :=
  ∀ ip entry, cache.lookup ip = some entry → latest (answerFor ip) log = some (entry.cached_at, entry.info)

/-- Every answer that is young enough is in the cache. -/
def Holds (cache : KeyMap IpAddr (CacheEntry Info)) (now : ℕ) (log : List (LookupEvent Info)) : Prop :=
  ∀ ip t info, latest (answerFor ip) log = some (t, info) → now < t + cacheTtl → cache.lookup ip = some ⟨info, t⟩

/-- A cache has no more entries than addresses were answered. -/
theorem Told.length_le {cache : KeyMap IpAddr (CacheEntry Info)} (h : Told cache log) :
    cache.entries.length ≤ (log.filterMap answeredIp).dedup.length := by
  have hsub : cache.keys ⊆ (log.filterMap answeredIp).dedup := by
    intro ip hip
    obtain ⟨entry, hentry⟩ := Option.isSome_iff_exists.mp (AList.lookup_isSome.mpr (AList.mem_keys.mpr hip))
    obtain ⟨e, he, htold⟩ := exists_of_latest (h ip entry hentry)
    have haddress : answeredIp e = some ip := by
      cases e with
      | answered ip' t info =>
        rw [answerFor] at htold
        split_ifs at htold with hip
        rw [answeredIp, hip]
      | query => cases htold
      | returned => cases htold
    exact List.mem_dedup.mpr (List.mem_filterMap.mpr ⟨e, he, haddress⟩)
  have hlength := (cache.keys_nodup.subperm hsub).length_le
  rwa [AList.keys, List.keys, List.length_map] at hlength

/-- An answer becomes the entry of its address. -/
theorem Told.insert {cache : KeyMap IpAddr (CacheEntry Info)} (h : Told cache log) (now : ℕ) :
    Told (cache.insert ip ⟨info, now⟩) (log ++ [.answered ip now info]) := by
  intro ip' entry hentry
  rw [KeyMap.lookup_insert] at hentry
  split_ifs at hentry with hip
  · rw [← Option.some.inj hentry, hip]
    exact latest_answered ip now info
  · rw [latest_answered_of_ne (Ne.symm hip)]
    exact h ip' entry hentry

/-- An answer that is stored holds. -/
theorem Holds.insert {cache : KeyMap IpAddr (CacheEntry Info)} {now : ℕ} (h : Holds cache now log) :
    Holds (cache.insert ip ⟨info, now⟩) now (log ++ [.answered ip now info]) := by
  intro ip' t info' hlatest hyoung
  rw [KeyMap.lookup_insert]
  split_ifs with hip
  · rw [hip, latest_answered] at hlatest
    obtain ⟨rfl, rfl⟩ := Prod.mk.inj (Option.some.inj hlatest)
    rfl
  · rw [latest_answered_of_ne (Ne.symm hip)] at hlatest
    exact h ip' t info' hlatest hyoung

/-- What the cache, the time and the log of a run have to do with each other. -/
structure Kept (c : CachedLookup Info) (log : List (LookupEvent Info)) : Prop where
  told : Told c.cache log
  past : ∀ ip t info, latest (answerFor ip) log = some (t, info) → t ≤ c.now
  length_le : c.cache.entries.length ≤ enrichmentCacheCap
  served : EachAfter Served log
  holds : Few log → Holds c.cache c.now log
  needed : Few log → EachAfter Needed log

/-- A new cache holds nothing, and nothing was answered. -/
theorem kept_new : Kept (new : CachedLookup Info) [] := by
  constructor
  case told => exact fun ip entry h => nomatch h
  case past => exact fun ip t info h => nomatch h
  case length_le => exact Nat.zero_le _
  case served => exact eachAfter_nil
  case holds => exact fun _ ip t info h => nomatch h
  case needed => exact fun _ => eachAfter_nil

/-- Time makes no entry younger. -/
theorem Kept.elapse (h : Kept c log) (nanos : ℕ) : Kept { c with now := c.now + nanos } log := by
  constructor
  case told => exact h.told
  case past => exact fun ip t info hlatest => (h.past ip t info hlatest).trans (Nat.le_add_right _ _)
  case length_le => exact h.length_le
  case served => exact h.served
  case holds =>
    intro hfew ip t info hlatest hyoung
    exact h.holds hfew ip t info hlatest (lt_of_le_of_lt (Nat.le_add_right _ _) hyoung)
  case needed => exact h.needed

/-- An event that is no answer leaves what the log says of the cache. -/
theorem Kept.concat (h : Kept c log) {e : LookupEvent Info} (he : ∀ ip, answerFor ip e = none)
    (hserved : Served log e) (hneeded : Few log → Needed log e) (waiting : List IpAddr) :
    Kept { c with waiting := waiting } (log ++ [e]) := by
  have hlatest : ∀ ip, latest (answerFor ip) (log ++ [e]) = latest (answerFor ip) log :=
    fun ip => latest_concat_of_none (he ip)
  constructor
  case told =>
    intro ip entry hentry
    rw [hlatest]
    exact h.told ip entry hentry
  case past =>
    intro ip t info hlog
    rw [hlatest] at hlog
    exact h.past ip t info hlog
  case length_le => exact h.length_le
  case served => exact h.served.concat hserved
  case holds =>
    intro hfew ip t info hlog hyoung
    rw [hlatest] at hlog
    exact h.holds hfew.of_append ip t info hlog hyoung
  case needed => exact fun hfew => (h.needed hfew.of_append).concat (hneeded hfew.of_append)

/-- A call returns the entry of its address when that is young, and asks only when no young answer is there. -/
theorem Kept.call (h : Kept c log) (ip : IpAddr) :
    ∀ c', step order c (.call ip) = some c' → Kept c' (note log c (.call ip)) := by
  intro c' hstep
  rw [step] at hstep
  rw [note]
  cases hhit : c.hit ip with
  | some info =>
    rw [hhit] at hstep
    obtain ⟨entry, hentry, hyoung, rfl⟩ := hit_eq_some.mp hhit
    have hlatest := h.told ip entry hentry
    have hpast := h.past ip _ _ hlatest
    rw [← Option.some.inj hstep]
    have hserved : Served log (.returned ip c.now entry.info) := ⟨_, hlatest, hpast, by omega⟩
    exact h.concat (fun _ => rfl) hserved (fun _ => trivial) c.waiting
  | none =>
    rw [hhit] at hstep
    rw [← Option.some.inj hstep]
    have hneeded : Few log → Needed log (.query ip c.now) := by
      intro hfew t info hlatest
      -- A young answer would have been in the cache, and returned.
      by_contra hyoung
      have hentry := h.holds hfew ip t info hlatest (not_le.mp hyoung)
      have hpast := h.past ip t info hlatest
      have hreturned : c.hit ip = some info := hit_eq_some.mpr ⟨_, hentry, by dsimp only; omega, rfl⟩
      rw [hhit] at hreturned
      cases hreturned
    have hserved : Served log (.query ip c.now) := trivial
    exact h.concat (fun _ => rfl) hserved hneeded _

/-- An answer is stored, and returned. -/
theorem Kept.answer (h : Kept c log) (ip : IpAddr) (info : Option Info) (waiting : List IpAddr) :
    Kept { c with cache := prune order (c.cache.insert ip ⟨info, c.now⟩) c.now, waiting := waiting }
      (log ++ [.answered ip c.now info] ++ [.returned ip c.now info]) := by
  have hpruned := pruned_prune order (c.cache.insert ip ⟨info, c.now⟩) c.now
  have htold : Told (c.cache.insert ip ⟨info, c.now⟩) (log ++ [.answered ip c.now info]) := h.told.insert c.now
  have hstored : Kept { c with cache := prune order (c.cache.insert ip ⟨info, c.now⟩) c.now }
      (log ++ [.answered ip c.now info]) := by
    constructor
    case told => exact fun ip' entry hentry => htold ip' entry (hpruned.unchanged ip' entry hentry)
    case past =>
      intro ip' t info' hlog
      by_cases hip : ip = ip'
      · rw [← hip, latest_answered] at hlog
        exact (Prod.mk.inj (Option.some.inj hlog)).1.ge
      · rw [latest_answered_of_ne hip] at hlog
        exact h.past ip' t info' hlog
    case length_le => exact hpruned.length_le
    case served => exact h.served.concat trivial
    case holds =>
      intro hfew ip' t info' hlog hyoung
      have hfits : KeyMap.count (c.cache.insert ip ⟨info, c.now⟩)
          (fun _ entry => ! decide (cacheTtl ≤ c.now - entry.cached_at)) ≤ enrichmentCacheCap :=
        List.countP_le_length.trans (htold.length_le.trans hfew)
      have hentry := (h.holds hfew.of_append).insert ip' t info' hlog hyoung
      have hyoung' : ¬ cacheTtl ≤ c.now - t := by
        change c.now < t + cacheTtl at hyoung
        have hpos : 0 < cacheTtl := by decide
        omega
      exact hpruned.fits hfits ip' ⟨info', t⟩ hentry (decide_eq_false hyoung')
    case needed => exact fun hfew => (h.needed hfew.of_append).concat trivial
  have hpos : 0 < cacheTtl := by decide
  have hserved : Served (log ++ [.answered ip c.now info]) (.returned ip c.now info) :=
    ⟨_, latest_answered ip c.now info, le_rfl, Nat.lt_add_of_pos_right hpos⟩
  exact hstored.concat (fun _ => rfl) hserved (fun _ => trivial) waiting

/-- Every step keeps the cache. -/
theorem Kept.step (h : Kept c log) {action : LookupAction Info} {c' : CachedLookup Info}
    (hstep : c.step order action = some c') : Kept c' (note log c action) := by
  cases action with
  | elapse nanos =>
    rw [← Option.some.inj hstep]
    exact h.elapse nanos
  | call ip => exact h.call ip c' hstep
  | answer ip info =>
    rw [CachedLookup.step] at hstep
    split_ifs at hstep
    rw [← Option.some.inj hstep]
    exact h.answer ip info _

/-- In every interleaving of the calls and of their answers, over any times and however equal times are sorted: what a
call returns is the latest answer about its address, less than an hour old; the cache stays within the cap; and while no
more addresses than the cap were answered, no query goes out about an address that was answered less than an hour
before. -/
theorem lookup_run (order : UnstableSort) (actions : List (LookupAction Info)) (c : CachedLookup Info)
    (log : List (LookupEvent Info)) (h : Runs.run (Runs.recorded note (step order)) (new, []) actions = some (c, log)) :
    EachAfter Served log ∧ c.cache.entries.length ≤ enrichmentCacheCap ∧
      ((log.filterMap answeredIp).dedup.length ≤ enrichmentCacheCap → EachAfter Needed log) := by
  have hkept : Kept c log := by
    refine Runs.run_induction (fun _ x => Kept x.1 x.2) kept_new ?_ actions (c, log) h
    intro _ x action x' _ hx hstep
    obtain ⟨hnext, hlog⟩ := Runs.recorded_eq_some.mp hstep
    rw [hlog]
    exact hx.step hnext
  exact ⟨hkept.served, hkept.length_le, hkept.needed⟩

/-- An address is asked about twice at once, then served from the cache, and asked about again after an hour. -/
def sampleLookups : List (LookupAction (List Char)) :=
  let ip := IpAddr.V4 ⟨10, 0, 0, 1⟩
  [.call ip, .call ip, .answer ip (some ['a']), .answer ip none, .elapse 5, .call ip, .elapse cacheTtl, .call ip]

/-- The run of the sample, with its eight events. -/
theorem lookup_run_sample : ∃ c log,
    Runs.run (Runs.recorded note (step .insertion)) (new, []) sampleLookups = some (c, log) ∧ log.length = 8 ∧
      EachAfter Served log ∧ EachAfter Needed log := by
  obtain ⟨⟨c, log⟩, hrun, hlength, hfew⟩ :
      ∃ x, Runs.run (Runs.recorded note (step .insertion)) (new, []) sampleLookups = some x ∧
        x.2.length = 8 ∧ (x.2.filterMap answeredIp).dedup.length ≤ enrichmentCacheCap :=
    Runs.exists_run _ (by decide)
  obtain ⟨hserved, -, hneeded⟩ := lookup_run .insertion sampleLookups c log hrun
  exact ⟨c, log, hrun, hlength, hserved, hneeded hfew⟩

end CachedLookup

end Ttl
