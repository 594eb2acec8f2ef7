import Ttl.Lib.Runs
import Ttl.Lookup.PrefixTable

/-!
# Lookups of exchanges beside refreshes

`IxLookup` (`src/lookup/ix.rs`): the prefix table and the cache of results, which have a lock each, the
`OnceCell` of the first load, and any number of calls of `lookup` and one refresh at a time between their
steps. Each step is one section under a lock, one access of the cell or of an atomic, or one decision. What a
load and a refresh fetch, whether they fail, and the clocks are up to the schedule.
-/

namespace Ttl

open Runs

/-- `OnceCell<()>`. One call at a time initialises it. -/
inductive OnceCell where
  | empty
  | initializing
  | filled
deriving DecidableEq

/-- Where a call of `lookup` is. -/
inductive CallPc where
  /-- Nothing is cached. -/
  | missed
  /-- The cell was empty. -/
  | unloaded
  /-- In `get_or_try_init`, for the permit. -/
  | waiting
  /-- In `load_data_inner`, with the permit. -/
  | loading
  /-- The table is populated, and the cell not yet filled. -/
  | populated
  /-- The data are loaded. -/
  | loaded
  /-- The table is read, and the result not yet cached. -/
  | storing (result : Option IxInfo)
  | returned (result : Option IxInfo)
deriving DecidableEq

/-- What a call has read or returned. -/
def CallPc.result : CallPc → Option (Option IxInfo)
  | .storing result | .returned result => some result
  | _ => none

/-- A call of `lookup`. -/
structure Call where
  ip : IpAddr
  pc : CallPc
deriving DecidableEq

/-- The call has returned. -/
def Call.isReturned : Call → Bool
  | ⟨_, .returned _⟩ => true
  | _ => false

/-- Where the refresh is. `refreshing` is set in all states but `idle`. -/
inductive RefreshPc where
  | idle
  | fetching
  /-- The table is replaced, and the cache not yet cleared. -/
  | replaced
  /-- The refresh has succeeded, and `refreshing` is not yet reset. -/
  | cleared
deriving DecidableEq

/-- `IpCacheEntry`. -/
structure IpCacheEntry where
  result : Option IxInfo
  cached_at : ℕ
deriving DecidableEq

/-- `IxLookup`, with its calls and the clocks: `now` is that of `Instant` in nanoseconds, and `unix` that of
`SystemTime` in seconds. -/
structure IxLookup where
  prefixes : PrefixTable
  load_once : OnceCell
  last_failure : ℕ
  ip_cache : KeyMap IpAddr IpCacheEntry
  refresh : RefreshPc
  calls : ℕ → Option Call
  now : ℕ
  unix : ℕ

/-- What the model does not fix: how networks are parsed and their host bits cleared, and how an unstable sort orders
equal times. -/
structure IxEnv where
  parse : List Char → Option IpNetwork
  network_addr : IpNetwork → IpAddr
  order : UnstableSort

namespace IxLookup

/-- The steps. A call has a number, and a load or a refresh the entries that it has fetched. -/
inductive Action where
  /-- A call begins, and reads the cache. -/
  | start (i : ℕ) (ip : IpAddr)
  | checkLoaded (i : ℕ)
  | checkBackoff (i : ℕ)
  /-- The permit of the cell. -/
  | acquire (i : ℕ)
  | populate (i : ℕ) (entries : List PrefixCacheEntry)
  | loadFail (i : ℕ)
  /-- The load succeeds, and fills the cell. -/
  | fill (i : ℕ)
  | readTable (i : ℕ)
  /-- The result is cached and returned. -/
  | store (i : ℕ)
  | refreshBegin
  | refreshFail
  | refreshReplace (entries : List PrefixCacheEntry)
  | refreshClear
  | refreshEnd
  /-- Time passes, and the system's time is set. -/
  | clock (elapsed unix : ℕ)

/-- `IxLookup::new`. -/
def new (now unix : ℕ) : IxLookup where
  prefixes := .new
  load_once := .empty
  last_failure := 0
  ip_cache := ∅
  refresh := .idle
  calls := fun _ => none
  now := now
  unix := unix

/-- `ip_cache_ttl`: one hour. -/
def ipCacheTtl : ℕ := 3600 * 10^9

/-- `LOAD_FAILURE_BACKOFF_SECS`. -/
def loadFailureBackoffSecs : ℕ := 300

/-- The result that the cache holds for an address. -/
def cached (s : IxLookup) (ip : IpAddr) : Option (Option IxInfo) :=
  (s.ip_cache.lookup ip).bind fun entry =>
    if s.now - entry.cached_at < ipCacheTtl then some entry.result else none

/-- The last load or refresh has failed less than the backoff ago. -/
def inBackoff (s : IxLookup) : Bool :=
  0 < s.last_failure && s.unix - s.last_failure < loadFailureBackoffSecs

/-- Move a call. -/
def setCall (s : IxLookup) (i : ℕ) (call : Call) : IxLookup :=
  { s with calls := Function.update s.calls i (some call) }

/-- The cache with one more result. -/
def cacheResult (env : IxEnv) (s : IxLookup) (ip : IpAddr) (result : Option IxInfo) :
    KeyMap IpAddr IpCacheEntry :=
  pruneCache env.order (s.ip_cache.insert ip ⟨result, s.now⟩) ipCacheTtl IpCacheEntry.cached_at
    fun entry ttl => ttl ≤ s.now - entry.cached_at

/-- One step, none where it is not enabled. -/
def step (env : IxEnv) (s : IxLookup) : Action → Option IxLookup
  | .start i ip =>
    match s.calls i with
    | some _ => none
    | none =>
      match s.cached ip with
      | some result => some (s.setCall i ⟨ip, .returned result⟩)
      | none => some (s.setCall i ⟨ip, .missed⟩)
  | .checkLoaded i =>
    match s.calls i with
    | some ⟨ip, .missed⟩ =>
      some (s.setCall i ⟨ip, if s.load_once = .filled then .loaded else .unloaded⟩)
    | _ => none
  | .checkBackoff i =>
    match s.calls i with
    | some ⟨ip, .unloaded⟩ => some (s.setCall i ⟨ip, if s.inBackoff then .returned none else .waiting⟩)
    | _ => none
  | .acquire i =>
    match s.calls i, s.load_once with
    | some ⟨ip, .waiting⟩, .filled => some (s.setCall i ⟨ip, .loaded⟩)
    | some ⟨ip, .waiting⟩, .empty => some { s.setCall i ⟨ip, .loading⟩ with load_once := .initializing }
    | _, _ => none
  | .populate i entries =>
    match s.calls i with
    | some ⟨ip, .loading⟩ =>
      some { s.setCall i ⟨ip, .populated⟩ with prefixes := populateFromCache env.parse env.network_addr entries }
    | _ => none
  | .loadFail i =>
    match s.calls i with
    | some ⟨ip, .loading⟩ =>
      -- The permit is given back, so that another call may load.
      some { s.setCall i ⟨ip, .returned none⟩ with load_once := .empty, last_failure := s.unix }
    | _ => none
  | .fill i =>
    match s.calls i with
    | some ⟨ip, .populated⟩ => some { s.setCall i ⟨ip, .loaded⟩ with load_once := .filled }
    | _ => none
  | .readTable i =>
    match s.calls i with
    | some ⟨ip, .loaded⟩ => some (s.setCall i ⟨ip, .storing (s.prefixes.lookup ip)⟩)
    | _ => none
  | .store i =>
    match s.calls i with
    | some ⟨ip, .storing result⟩ =>
      some { s.setCall i ⟨ip, .returned result⟩ with ip_cache := s.cacheResult env ip result }
    | _ => none
  | .refreshBegin => if s.refresh = .idle then some { s with refresh := .fetching } else none
  | .refreshFail =>
    if s.refresh = .fetching then some { s with refresh := .idle, last_failure := s.unix } else none
  | .refreshReplace entries =>
    if s.refresh = .fetching then
      some { s with refresh := .replaced, prefixes := populateFromCache env.parse env.network_addr entries }
    else none
  | .refreshClear =>
    if s.refresh = .replaced then some { s with refresh := .cleared, ip_cache := ∅ } else none
  | .refreshEnd => if s.refresh = .cleared then some { s with refresh := .idle } else none
  | .clock elapsed unix => some { s with now := s.now + elapsed, unix := unix }

/-- What the refreshes of a run promise. -/
structure Promises where
  /-- The table that the last refresh has installed. -/
  installed : Option PrefixTable
  /-- The table that a call must answer from: the one that was installed when the call began, while no refresh
  has been in progress since. -/
  due : ℕ → Option PrefixTable
  /-- A refresh has replaced the table since the call has read it. -/
  outdated : ℕ → Bool

/-- The refresh is not in progress. -/
def Quiet (s : IxLookup) : Prop := s.refresh = .idle ∨ s.refresh = .cleared

instance (s : IxLookup) : Decidable s.Quiet := inferInstanceAs (Decidable (_ ∨ _))

/-- What a step promises. -/
def Promises.note (env : IxEnv) (h : Promises) (s : IxLookup) : Action → Promises
  | .start i _ => { h with due := Function.update h.due i (if s.Quiet then h.installed else none) }
  | .refreshBegin => { h with due := fun i => if (s.calls i).any Call.isReturned then h.due i else none }
  | .refreshReplace entries =>
    { h with installed := some (populateFromCache env.parse env.network_addr entries), outdated := fun _ => true }
  | .readTable i => { h with outdated := Function.update h.outdated i false }
  | _ => h

/-- What a step must meet. A call that has read a table before a refresh replaced it caches its result before
that refresh clears the cache, and a load after a refresh installs a table with the same answers. A call that
must answer from the installed table is not turned away by the backoff, and its load does not fail. -/
def Orderly (env : IxEnv) (x : IxLookup × Promises) : Action → Prop
  | .store i => x.1.refresh ≠ .replaced → x.2.outdated i = false
  | .populate _ entries => ∀ table, x.2.installed = some table → ∀ ip,
      (populateFromCache env.parse env.network_addr entries).lookup ip = table.lookup ip
  | .checkBackoff i => x.1.inBackoff = true → x.2.due i = none
  | .loadFail i => x.2.due i = none
  | _ => True

/-! ## The steps as a relation -/

/-- The actions that move a call and change nothing else. -/
inductive Move (s : IxLookup) (i : ℕ) : Action → CallPc → CallPc → Prop
  | filled (cell : s.load_once = .filled) : Move s i (.checkLoaded i) .missed .loaded
  | unfilled (cell : s.load_once ≠ .filled) : Move s i (.checkLoaded i) .missed .unloaded
  | turnedAway (backoff : s.inBackoff = true) : Move s i (.checkBackoff i) .unloaded (.returned none)
  | wait (backoff : s.inBackoff = false) : Move s i (.checkBackoff i) .unloaded .waiting
  | join (cell : s.load_once = .filled) : Move s i (.acquire i) .waiting .loaded

/-- One step. -/
inductive Step (env : IxEnv) (s : IxLookup) : Action → IxLookup → Prop
  | hit {i ip result} (fresh : s.calls i = none) (entry : s.cached ip = some result) :
      Step env s (.start i ip) (s.setCall i ⟨ip, .returned result⟩)
  | miss {i ip} (fresh : s.calls i = none) (entry : s.cached ip = none) :
      Step env s (.start i ip) (s.setCall i ⟨ip, .missed⟩)
  | move {a i ip pc pc'} (call : s.calls i = some ⟨ip, pc⟩) (move : Move s i a pc pc') :
      Step env s a (s.setCall i ⟨ip, pc'⟩)
  | acquire {i ip} (call : s.calls i = some ⟨ip, .waiting⟩) (cell : s.load_once = .empty) :
      Step env s (.acquire i) { s.setCall i ⟨ip, .loading⟩ with load_once := .initializing }
  | populate {i ip entries} (call : s.calls i = some ⟨ip, .loading⟩) :
      Step env s (.populate i entries)
        { s.setCall i ⟨ip, .populated⟩ with prefixes := populateFromCache env.parse env.network_addr entries }
  | loadFail {i ip} (call : s.calls i = some ⟨ip, .loading⟩) :
      Step env s (.loadFail i)
        { s.setCall i ⟨ip, .returned none⟩ with load_once := .empty, last_failure := s.unix }
  | fill {i ip} (call : s.calls i = some ⟨ip, .populated⟩) :
      Step env s (.fill i) { s.setCall i ⟨ip, .loaded⟩ with load_once := .filled }
  | readTable {i ip} (call : s.calls i = some ⟨ip, .loaded⟩) :
      Step env s (.readTable i) (s.setCall i ⟨ip, .storing (s.prefixes.lookup ip)⟩)
  | store {i ip result} (call : s.calls i = some ⟨ip, .storing result⟩) :
      Step env s (.store i)
        { s.setCall i ⟨ip, .returned result⟩ with ip_cache := s.cacheResult env ip result }
  | refreshBegin (pc : s.refresh = .idle) : Step env s .refreshBegin { s with refresh := .fetching }
  | refreshFail (pc : s.refresh = .fetching) :
      Step env s .refreshFail { s with refresh := .idle, last_failure := s.unix }
  | refreshReplace {entries} (pc : s.refresh = .fetching) :
      Step env s (.refreshReplace entries)
        { s with refresh := .replaced, prefixes := populateFromCache env.parse env.network_addr entries }
  | refreshClear (pc : s.refresh = .replaced) :
      Step env s .refreshClear { s with refresh := .cleared, ip_cache := ∅ }
  | refreshEnd (pc : s.refresh = .cleared) : Step env s .refreshEnd { s with refresh := .idle }
  | clock {elapsed unix} :
      Step env s (.clock elapsed unix) { s with now := s.now + elapsed, unix := unix }

/-- What a step does. -/
theorem Step.of_step {env : IxEnv} {s s' : IxLookup} {a : Action} (h : step env s a = some s') :
    Step env s a s' := by
  cases a with
  | start i ip =>
    simp only [step] at h
    split at h
    · cases h
    · next fresh =>
      split at h
      · next result entry =>
        obtain rfl := Option.some.inj h
        exact .hit fresh entry
      · next entry =>
        obtain rfl := Option.some.inj h
        exact .miss fresh entry
  | checkLoaded i =>
    simp only [step] at h
    split at h
    · next ip call =>
      obtain rfl := Option.some.inj h
      split_ifs with cell
      · exact .move call (.filled cell)
      · exact .move call (.unfilled cell)
    · cases h
  | checkBackoff i =>
    simp only [step] at h
    split at h
    · next ip call =>
      obtain rfl := Option.some.inj h
      split_ifs with backoff
      · exact .move call (.turnedAway backoff)
      · exact .move call (.wait (Bool.eq_false_iff.mpr backoff))
    · cases h
  | acquire i =>
    simp only [step] at h
    split at h
    · next ip call cell =>
      obtain rfl := Option.some.inj h
      exact .move call (.join cell)
    · next ip call cell =>
      obtain rfl := Option.some.inj h
      exact .acquire call cell
    · cases h
  | populate i entries =>
    simp only [step] at h
    split at h
    · next ip call =>
      obtain rfl := Option.some.inj h
      exact .populate call
    · cases h
  | loadFail i =>
    simp only [step] at h
    split at h
    · next ip call =>
      obtain rfl := Option.some.inj h
      exact .loadFail call
    · cases h
  | fill i =>
    simp only [step] at h
    split at h
    · next ip call =>
      obtain rfl := Option.some.inj h
      exact .fill call
    · cases h
  | readTable i =>
    simp only [step] at h
    split at h
    · next ip call =>
      obtain rfl := Option.some.inj h
      exact .readTable call
    · cases h
  | store i =>
    simp only [step] at h
    split at h
    · next ip result call =>
      obtain rfl := Option.some.inj h
      exact .store call
    · cases h
  | refreshBegin =>
    simp only [step] at h
    split_ifs at h with pc
    obtain rfl := Option.some.inj h
    exact .refreshBegin pc
  | refreshFail =>
    simp only [step] at h
    split_ifs at h with pc
    obtain rfl := Option.some.inj h
    exact .refreshFail pc
  | refreshReplace entries =>
    simp only [step] at h
    split_ifs at h with pc
    obtain rfl := Option.some.inj h
    exact .refreshReplace pc
  | refreshClear =>
    simp only [step] at h
    split_ifs at h with pc
    obtain rfl := Option.some.inj h
    exact .refreshClear pc
  | refreshEnd =>
    simp only [step] at h
    split_ifs at h with pc
    obtain rfl := Option.some.inj h
    exact .refreshEnd pc
  | clock elapsed unix =>
    obtain rfl := Option.some.inj h
    exact .clock

/-! ## Coherence -/

/-- What holds between the state and what the refreshes promise. -/
structure Coherent (s : IxLookup) (h : Promises) : Prop where
  /-- The table answers as the installed one. -/
  table : ∀ installed, h.installed = some installed → ∀ ip, s.prefixes.lookup ip = installed.lookup ip
  /-- So does the cache, unless it is about to be cleared. -/
  cache : s.refresh ≠ .replaced → ∀ installed, h.installed = some installed →
    ∀ ip entry, s.ip_cache.lookup ip = some entry → entry.result = installed.lookup ip
  /-- A call that is on its way must answer from the installed table. -/
  current : ∀ i due call, h.due i = some due → s.calls i = some call → call.isReturned = false →
    s.Quiet ∧ h.installed = some due
  /-- What a call has read or returned is the answer. -/
  result : ∀ i due call result, h.due i = some due → s.calls i = some call →
    call.pc.result = some result → result = due.lookup call.ip
  /-- So is what a call has read from a table that no refresh has replaced since. -/
  read : ∀ i installed ip result, h.installed = some installed → s.calls i = some ⟨ip, .storing result⟩ →
    h.outdated i = false → result = installed.lookup ip

section

variable {env : IxEnv} {s s' : IxLookup} {h : Promises} {a : Action} {i : ℕ} {ip : IpAddr}
  {pc pc' : CallPc}

/-- The calls, after one of them has changed. -/
theorem calls_setCall (s : IxLookup) (i : ℕ) (call : Call) (j : ℕ) :
    (s.setCall i call).calls j = if j = i then some call else s.calls j :=
  Function.update_apply _ _ _ _

/-- No refresh is between its replacement of the table and its clear. -/
theorem Quiet.ne_replaced (hquiet : s.Quiet) : s.refresh ≠ .replaced := by
  obtain hpc | hpc := hquiet
  · rw [hpc]
    decide
  · rw [hpc]
    decide

/-- An empty cache is coherent with no table. -/
theorem Coherent.new (now unix : ℕ) :
    (IxLookup.new now unix).Coherent ⟨none, fun _ => none, fun _ => false⟩ where
  table := fun _ hinstalled => by cases hinstalled
  cache := fun _ _ hinstalled => by cases hinstalled
  current := fun _ _ _ hdue => by cases hdue
  result := fun _ _ _ _ hdue => by cases hdue
  read := fun _ _ _ _ hinstalled => by cases hinstalled

/-- A call moves on, but not to what it has read: what it returns then is the answer, if it must be. -/
theorem Coherent.setCall (inv : s.Coherent h) (call : s.calls i = some ⟨ip, pc⟩)
    (hopen : Call.isReturned ⟨ip, pc⟩ = false) (next : CallPc) (hnext : ∀ result, next ≠ .storing result)
    (hresult : ∀ due result, h.due i = some due → next.result = some result → result = due.lookup ip) :
    (s.setCall i ⟨ip, next⟩).Coherent h where
  table := inv.table
  cache := inv.cache
  current := by
    intro j due call' hdue hcall' hopen'
    rw [calls_setCall] at hcall'
    split_ifs at hcall' with hj
    · rw [hj] at hdue
      exact inv.current i due ⟨ip, pc⟩ hdue call hopen
    · exact inv.current j due call' hdue hcall' hopen'
  result := by
    intro j due call' result hdue hcall' hread
    rw [calls_setCall] at hcall'
    split_ifs at hcall' with hj
    · obtain rfl := Option.some.inj hcall'
      rw [hj] at hdue
      exact hresult due result hdue hread
    · exact inv.result j due call' result hdue hcall' hread
  read := by
    intro j installed ip' result hinstalled hcall' hcurrent
    rw [calls_setCall] at hcall'
    split_ifs at hcall' with hj
    · exact absurd (congrArg Call.pc (Option.some.inj hcall')) (hnext result)
    · exact inv.read j installed ip' result hinstalled hcall' hcurrent

/-- A call moves on and has no answer yet. -/
theorem Coherent.advance (inv : s.Coherent h) (call : s.calls i = some ⟨ip, pc⟩)
    (hopen : Call.isReturned ⟨ip, pc⟩ = false) (next : CallPc) (hnone : next.result = none) :
    (s.setCall i ⟨ip, next⟩).Coherent h := by
  refine inv.setCall call hopen next ?_ ?_
  · rintro result rfl
    cases hnone
  · intro due result _ hread
    rw [hnone] at hread
    cases hread

/-- A call begins, and must answer from the installed table unless a refresh is in progress. -/
theorem Coherent.start (inv : s.Coherent h) (hnext : ∀ result, pc ≠ .storing result)
    (hresult : ∀ installed result, s.Quiet → h.installed = some installed → pc.result = some result →
      result = installed.lookup ip) :
    (s.setCall i ⟨ip, pc⟩).Coherent (h.note env s (.start i ip)) where
  table := inv.table
  cache := inv.cache
  current := by
    intro j due call hdue hcall hopen
    rw [calls_setCall] at hcall
    simp only [Promises.note, Function.update_apply] at hdue
    split_ifs at hcall hdue with hj hquiet
    · exact ⟨hquiet, hdue⟩
    · exact inv.current j due call hdue hcall hopen
  result := by
    intro j due call result hdue hcall hread
    rw [calls_setCall] at hcall
    simp only [Promises.note, Function.update_apply] at hdue
    split_ifs at hcall hdue with hj hquiet
    · obtain rfl := Option.some.inj hcall
      exact hresult due result hquiet hdue hread
    · exact inv.result j due call result hdue hcall hread
  read := by
    intro j installed ip' result hinstalled hcall hcurrent
    rw [calls_setCall] at hcall
    split_ifs at hcall with hj
    · exact absurd (congrArg Call.pc (Option.some.inj hcall)) (hnext result)
    · exact inv.read j installed ip' result hinstalled hcall hcurrent

/-- A call reads the table. -/
theorem Coherent.readTable (inv : s.Coherent h) (call : s.calls i = some ⟨ip, .loaded⟩) :
    (s.setCall i ⟨ip, .storing (s.prefixes.lookup ip)⟩).Coherent (h.note env s (.readTable i)) where
  table := inv.table
  cache := inv.cache
  current := by
    intro j due call' hdue hcall' hopen
    rw [calls_setCall] at hcall'
    split_ifs at hcall' with hj
    · rw [hj] at hdue
      exact inv.current i due _ hdue call rfl
    · exact inv.current j due call' hdue hcall' hopen
  result := by
    intro j due call' result hdue hcall' hread
    rw [calls_setCall] at hcall'
    split_ifs at hcall' with hj
    · obtain rfl := Option.some.inj hcall'
      obtain rfl := Option.some.inj hread
      rw [hj] at hdue
      exact inv.table due (inv.current i due _ hdue call rfl).2 ip
    · exact inv.result j due call' result hdue hcall' hread
  read := by
    intro j installed ip' result hinstalled hcall' hcurrent
    rw [calls_setCall] at hcall'
    simp only [Promises.note, Function.update_apply] at hcurrent
    split_ifs at hcall' hcurrent with hj
    · simp only [Option.some.injEq, Call.mk.injEq, CallPc.storing.injEq] at hcall'
      obtain ⟨rfl, rfl⟩ := hcall'
      exact inv.table installed hinstalled ip
    · exact inv.read j installed ip' result hinstalled hcall' hcurrent

/-- The cache answers as the installed table when no refresh is in progress. -/
theorem Coherent.cached (inv : s.Coherent h) (hquiet : s.Quiet) {result : Option IxInfo}
    {installed : PrefixTable} (hinstalled : h.installed = some installed)
    (hcached : s.cached ip = some result) : result = installed.lookup ip := by
  obtain ⟨entry, hentry, hlive⟩ := Option.bind_eq_some_iff.mp hcached
  split_ifs at hlive
  obtain rfl := Option.some.inj hlive
  exact inv.cache hquiet.ne_replaced installed hinstalled ip entry hentry

/-- An entry of the cache with one more result is the new one, or was there. -/
theorem lookup_cacheResult {result : Option IxInfo} {ip' : IpAddr} {entry : IpCacheEntry}
    (hentry : (s.cacheResult env ip result).lookup ip' = some entry) :
    ip' = ip ∧ entry.result = result ∨ s.ip_cache.lookup ip' = some entry := by
  have hinsert := lookup_of_lookup_pruneCache hentry
  rw [KeyMap.lookup_insert] at hinsert
  split_ifs at hinsert with hip
  · obtain rfl := Option.some.inj hinsert
    exact .inl ⟨hip, rfl⟩
  · exact .inr hinsert

/-- Moves of a call. -/
theorem Coherent.move (inv : s.Coherent h) (call : s.calls i = some ⟨ip, pc⟩) (m : Move s i a pc pc')
    (orderly : Orderly env (s, h) a) : (s.setCall i ⟨ip, pc'⟩).Coherent (h.note env s a) := by
  cases m with
  | filled cell => exact inv.advance call rfl .loaded rfl
  | unfilled cell => exact inv.advance call rfl .unloaded rfl
  | turnedAway backoff =>
    refine inv.setCall call rfl (.returned none) nofun fun due result hdue _ => ?_
    rw [orderly backoff] at hdue
    cases hdue
  | wait backoff => exact inv.advance call rfl .waiting rfl
  | join cell => exact inv.advance call rfl .loaded rfl

/-- One step. -/
theorem Coherent.step (inv : s.Coherent h) (hstep : Step env s a s') (orderly : Orderly env (s, h) a) :
    s'.Coherent (h.note env s a) := by
  cases hstep with
  | hit fresh entry =>
    refine inv.start nofun fun installed result hquiet hinstalled hread => ?_
    obtain rfl := Option.some.inj hread
    exact inv.cached hquiet hinstalled entry
  | miss fresh entry => exact inv.start nofun fun _ _ _ _ hread => by cases hread
  | move call m => exact inv.move call m orderly
  | acquire call cell =>
    have hnext := inv.advance call rfl .loading rfl
    exact ⟨hnext.table, hnext.cache, hnext.current, hnext.result, hnext.read⟩
  | populate call =>
    have hnext := inv.advance call rfl .populated rfl
    exact ⟨orderly, hnext.cache, hnext.current, hnext.result, hnext.read⟩
  | @loadFail i ip call =>
    have hnotDue : h.due i = none := orderly
    have hnext := inv.setCall call rfl (.returned none) nofun fun due result hdue _ => by
      rw [hnotDue] at hdue
      cases hdue
    exact ⟨hnext.table, hnext.cache, hnext.current, hnext.result, hnext.read⟩
  | fill call =>
    have hnext := inv.advance call rfl .loaded rfl
    exact ⟨hnext.table, hnext.cache, hnext.current, hnext.result, hnext.read⟩
  | readTable call => exact inv.readTable call
  | @store i ip result call =>
    have hnext := inv.setCall call rfl (.returned result) nofun fun due result' hdue hread =>
      inv.result i due _ result' hdue call hread
    refine ⟨hnext.table, fun hreplaced installed hinstalled ip' entry hentry => ?_, hnext.current,
      hnext.result, hnext.read⟩
    obtain ⟨rfl, hnew⟩ | hold := lookup_cacheResult hentry
    · rw [hnew]
      exact inv.read i installed ip' result hinstalled call (orderly hreplaced)
    · exact inv.cache hreplaced installed hinstalled ip' entry hold
  | refreshBegin pc =>
    have hreplaced : s.refresh ≠ .replaced := Quiet.ne_replaced (.inl pc)
    refine ⟨inv.table, fun _ => inv.cache hreplaced, fun j due call hdue hcall hopen => ?_,
      fun j due call result hdue hcall hread => ?_, inv.read⟩
    · -- Only calls that have returned keep their promise.
      change s.calls j = some call at hcall
      simp only [Promises.note] at hdue
      rw [hcall, Option.any_some, hopen, if_neg Bool.false_ne_true] at hdue
      cases hdue
    · simp only [Promises.note] at hdue
      split_ifs at hdue
      exact inv.result j due call result hdue hcall hread
  | refreshFail pc =>
    have hreplaced : s.refresh ≠ .replaced := by
      rw [pc]
      decide
    refine ⟨inv.table, fun _ => inv.cache hreplaced, fun j due call hdue hcall hopen => ?_, inv.result,
      inv.read⟩
    exact ⟨.inl rfl, (inv.current j due call hdue hcall hopen).2⟩
  | refreshReplace pc =>
    refine ⟨fun installed hinstalled ip => ?_, fun hreplaced => absurd rfl hreplaced,
      fun j due call hdue hcall hopen => ?_, inv.result, fun j _ _ _ _ _ hcurrent => by cases hcurrent⟩
    · obtain rfl := Option.some.inj hinstalled
      rfl
    · -- No call is due while a refresh is in progress.
      obtain ⟨hidle | hcleared, -⟩ := inv.current j due call hdue hcall hopen
      · rw [pc] at hidle
        cases hidle
      · rw [pc] at hcleared
        cases hcleared
  | refreshClear pc =>
    refine ⟨inv.table, fun _ installed _ ip entry hentry => ?_, fun j due call hdue hcall hopen => ?_,
      inv.result, inv.read⟩
    · cases hentry
    · exact ⟨.inr rfl, (inv.current j due call hdue hcall hopen).2⟩
  | refreshEnd pc =>
    have hreplaced : s.refresh ≠ .replaced := Quiet.ne_replaced (.inr pc)
    refine ⟨inv.table, fun _ => inv.cache hreplaced, fun j due call hdue hcall hopen => ?_, inv.result,
      inv.read⟩
    exact ⟨.inl rfl, (inv.current j due call hdue hcall hopen).2⟩
  | clock => exact ⟨inv.table, inv.cache, inv.current, inv.result, inv.read⟩

/-! ## Runs -/

/-- The steps, with what the refreshes promise. -/
abbrev promising (env : IxEnv) : IxLookup × Promises → Action → Option (IxLookup × Promises) :=
  recorded (fun h s a => Promises.note env h s a) (IxLookup.step env)

/-- The beginning, where nothing is promised. -/
def init (now unix : ℕ) : IxLookup × Promises := (new now unix, ⟨none, fun _ => none, fun _ => false⟩)

/-- What holds in every state of an orderly run. -/
theorem coherent_run {now unix : ℕ} {as : List Action} {x : IxLookup × Promises}
    (hrun : run (promising env) (init now unix) as = some x)
    (horderly : StepsMeet (promising env) (Orderly env) (init now unix) as) : x.1.Coherent x.2 := by
  refine run_induction_of (fun _ x => x.1.Coherent x.2) (.new now unix) ?_ as x hrun horderly
  intro as x a y _ horderly inv hstep
  obtain ⟨hnext, hnote⟩ := recorded_eq_some.mp hstep
  rw [hnote]
  exact inv.step (.of_step hnext) horderly

/-- **Lookups answer from the installed table:** in an orderly run, whatever the interleaving, a call that
began after a refresh has completed returns the longest-prefix match of its address in the table which that
refresh installed, if no other refresh has been in progress before it returned. -/
theorem lookup_coherent {now unix : ℕ} {as : List Action} {x : IxLookup × Promises}
    (hrun : run (promising env) (init now unix) as = some x)
    (horderly : StepsMeet (promising env) (Orderly env) (init now unix) as)
    {table : PrefixTable} {result : Option IxInfo} (hdue : x.2.due i = some table)
    (hcall : x.1.calls i = some ⟨ip, .returned result⟩) : result = table.lookup ip :=
  (coherent_run hrun horderly).result i table _ result hdue hcall rfl

end

section

/-- The text of a network. -/
def sampleText : List Char := ['2', '0', '3', '.', '0', '.', '1', '1', '3', '.', '0', '/', '2', '4']

/-- An address in it. -/
def sampleAddress : IpAddr := .V4 ⟨203, 0, 113, 7⟩

/-- The parser, for this text. -/
def sampleEnv : IxEnv where
  parse := fun text => if text = sampleText then some (.V4 ⟨203, 0, 113, 0⟩ 24) else none
  network_addr := IpNetwork.addr
  order := .insertion

/-- The network under a name. -/
def sampleEntry (name : Char) : PrefixCacheEntry := ⟨sampleText, [name], none, none⟩

/-- The first call loads the data and returns, a refresh installs others, and the second call looks up the
same address. -/
def sampleRun : List Action :=
  [.start 0 sampleAddress, .checkLoaded 0, .checkBackoff 0, .acquire 0, .populate 0 [sampleEntry 'A'],
    .fill 0, .readTable 0, .store 0, .refreshBegin, .refreshReplace [sampleEntry 'B'], .refreshClear,
    .refreshEnd, .start 1 sampleAddress, .checkLoaded 1, .readTable 1, .store 1]

/-- The steps of the sample are orderly. -/
theorem sampleRun_orderly : StepsMeet (promising sampleEnv) (Orderly sampleEnv) (init 0 1000) sampleRun := by
  refine ⟨trivial, trivial, fun _ => rfl, trivial, fun table h => ?_, trivial, trivial,
    fun _ => rfl, trivial, trivial, trivial, trivial, trivial, trivial, trivial, fun _ => rfl, trivial⟩
  cases h

/-- The second call answers from the table of the refresh. -/
theorem lookup_coherent_sample : ∃ x : IxLookup × Promises, ∃ table result,
    run (promising sampleEnv) (init 0 1000) sampleRun = some x ∧ x.2.due 1 = some table ∧
      x.1.calls 1 = some ⟨sampleAddress, .returned result⟩ ∧ result = table.lookup sampleAddress :=
  ⟨_, _, _, rfl, rfl, rfl,
    @lookup_coherent sampleEnv 1 sampleAddress 0 1000 sampleRun _ rfl sampleRun_orderly _ _ rfl rfl⟩

/-- The refresh falls between the first call's read of the table and its store of the result. -/
def staleRun : List Action :=
  [.start 0 sampleAddress, .checkLoaded 0, .checkBackoff 0, .acquire 0, .populate 0 [sampleEntry 'A'],
    .fill 0, .readTable 0, .refreshBegin, .refreshReplace [sampleEntry 'B'], .refreshClear, .refreshEnd,
    .store 0, .start 1 sampleAddress]

/-- The first load fails, a refresh succeeds, and the second call comes within the backoff. -/
def backoffRun : List Action :=
  [.start 0 sampleAddress, .checkLoaded 0, .checkBackoff 0, .acquire 0, .loadFail 0, .refreshBegin,
    .refreshReplace [sampleEntry 'B'], .refreshClear, .refreshEnd, .start 1 sampleAddress, .checkLoaded 1,
    .checkBackoff 1]

/-- A call after a completed refresh, while none is in progress and nothing is loaded, returns the result of
the old table from the cache, or is turned away. -/
theorem lookup_coherent_fails_stale_store :
    (∃ x, run (promising sampleEnv) (init 0 1000) staleRun = some x ∧ x.1.refresh = .idle ∧
      (x.2.due 1).map (fun table => table.lookup sampleAddress) = some (some ⟨['B'], none, none⟩) ∧
      x.1.calls 1 = some ⟨sampleAddress, .returned (some ⟨['A'], none, none⟩)⟩) ∧
    ∃ x, run (promising sampleEnv) (init 0 1000) backoffRun = some x ∧ x.1.refresh = .idle ∧
      (x.2.due 1).map (fun table => table.lookup sampleAddress) = some (some ⟨['B'], none, none⟩) ∧
      x.1.calls 1 = some ⟨sampleAddress, .returned none⟩ :=
  ⟨exists_run _ (by decide), exists_run _ (by decide)⟩

end

end IxLookup

end Ttl
