import Ttl.Lib.Tables
import Ttl.Lookup.CacheFile
import Ttl.Lookup.LongestMatch

/-!
# Exchanges

`IxLookup::fetch_from_api` of `src/lookup/ix.rs` makes the entries of the cache from the three tables of PeeringDB:
exchanges, their LANs, and the networks of the LANs. `Joins` is the relation that the tables hold between networks and
exchanges. `lookup_fetched` says that a table of these entries answers with the exchange of the longest network that
contains an address, through all there is between: two hash maps, the text of the networks and the trie.
-/

namespace Ttl

/-- `PdbIx`. -/
structure PdbIx where
  id : UInt32
  name : List Char
  city : Option (List Char)
  country : Option (List Char)

/-- `PdbIxlan`. -/
structure PdbIxlan where
  id : UInt32
  ix_id : UInt32

/-- `PdbIxpfx`. -/
structure PdbIxpfx where
  ixlan_id : UInt32
  /-- `prefix`: the text of the network. -/
  network : List Char

/-- `IxCacheEntry`. -/
structure IxCacheEntry where
  name : List Char
  city : Option (List Char)
  country : Option (List Char)

/-- What the three endpoints answer. -/
structure PeeringDb where
  ix_data : List PdbIx
  ixlan_data : List PdbIxlan
  ixpfx_data : List PdbIxpfx

namespace PeeringDb

/-- `ixlan_to_ix`. -/
def ixlanToIx (db : PeeringDb) : KeyMap UInt32 UInt32 := Tables.collect (·.id) (·.ix_id) db.ixlan_data

/-- `ix_info`. -/
def ixInfo (db : PeeringDb) : KeyMap UInt32 IxCacheEntry :=
  Tables.collect (·.id) (fun ix => ⟨ix.name, ix.city, ix.country⟩) db.ix_data

/-- The entry of a network. A network has none if its LAN or its exchange is in no table. -/
def entry (db : PeeringDb) (pfx : PdbIxpfx) : Option PrefixCacheEntry := do
  let ix_id ← db.ixlanToIx.lookup pfx.ixlan_id
  let ix ← db.ixInfo.lookup ix_id
  some ⟨pfx.network, sanitizeDisplay ix.name, ix.city.map sanitizeDisplay, ix.country.map sanitizeDisplay⟩

/-- The cache that `fetch_from_api` makes. -/
def fetchFromApi (db : PeeringDb) (now : UInt64) : CacheFile.IxCache :=
  ⟨CacheFile.IxCache.VERSION, now, db.ixpfx_data.filterMap db.entry⟩

/-- An exchange as it is shown. -/
def shown (ix : PdbIx) : IxInfo :=
  ⟨sanitizeDisplay ix.name, ix.city.map sanitizeDisplay, ix.country.map sanitizeDisplay⟩

variable {parse : List Char → Option IpNetwork} {db : PeeringDb} {now : UInt64} {network : IpNetwork} {info : IxInfo}

/-- The network is one of a LAN of the exchange. A row counts if no later row of its table has the same key. -/
def Joins (parse : List Char → Option IpNetwork) (db : PeeringDb) (network : IpNetwork) (info : IxInfo) : Prop :=
  ∃ pfx ∈ db.ixpfx_data, ∃ lan ix, Tables.IsLast PdbIxlan.id db.ixlan_data lan ∧ lan.id = pfx.ixlan_id ∧
    Tables.IsLast PdbIx.id db.ix_data ix ∧ ix.id = lan.ix_id ∧ parse pfx.network = some network ∧ info = shown ix

/-- A sanitized name is not changed again. -/
theorem sanitizeDisplay_sanitizeDisplay (s : List Char) : sanitizeDisplay (sanitizeDisplay s) = sanitizeDisplay s := by
  simp only [sanitizeDisplay, List.filter_filter, Bool.and_self]

/-- The networks and exchanges of the entries. -/
def assigned (parse : List Char → Option IpNetwork) (prefixes : List PrefixCacheEntry) : List (IpNetwork × IxInfo) :=
  prefixes.filterMap fun p => (parse p.network).map fun network =>
    (network, ⟨sanitizeDisplay p.ix_name, p.ix_city.map sanitizeDisplay, p.ix_country.map sanitizeDisplay⟩)

/-- The table is that of the assigned networks. -/
theorem populateFromCache_eq (parse : List Char → Option IpNetwork) (network_addr : IpNetwork → IpAddr)
    (prefixes : List PrefixCacheEntry) :
    populateFromCache parse network_addr prefixes = PrefixTable.ofNetworks network_addr (assigned parse prefixes) := by
  unfold populateFromCache PrefixTable.ofNetworks assigned
  generalize PrefixTable.new = table
  induction prefixes generalizing table with
  | nil => rfl
  | cons p prefixes ih =>
    rw [List.foldl_cons, ih]
    cases hparse : parse p.network with
    | none => rw [List.filterMap_cons_none (by rw [hparse, Option.map_none])]
    | some network => rw [List.filterMap_cons_some (by rw [hparse, Option.map_some]), List.foldl_cons]

/-- An entry joins a prefix through the last row of its LAN to the last row of its exchange. -/
theorem entry_eq_some {pfx : PdbIxpfx} {p : PrefixCacheEntry} :
    db.entry pfx = some p ↔ ∃ lan ix, Tables.IsLast PdbIxlan.id db.ixlan_data lan ∧ lan.id = pfx.ixlan_id ∧
      Tables.IsLast PdbIx.id db.ix_data ix ∧ ix.id = lan.ix_id ∧
      ⟨pfx.network, (shown ix).name, (shown ix).city, (shown ix).country⟩ = p := by
  simp only [entry, Option.bind_eq_bind, Option.bind_eq_some_iff, ixlanToIx, ixInfo, Tables.lookup_collect,
    Option.some.injEq]
  constructor
  · rintro ⟨_, ⟨lan, hlan, hlanId, rfl⟩, _, ⟨ix, hix, hixId, rfl⟩, rfl⟩
    exact ⟨lan, ix, hlan, hlanId, hix, hixId, rfl⟩
  · rintro ⟨lan, ix, hlan, hlanId, hix, hixId, rfl⟩
    exact ⟨_, ⟨lan, hlan, hlanId, rfl⟩, _, ⟨ix, hix, hixId, rfl⟩, rfl⟩

/-- The entries hold the relation. -/
theorem mem_assigned :
    (network, info) ∈ assigned parse (db.fetchFromApi now).prefixes ↔ db.Joins parse network info := by
  have hshown (ix : PdbIx) : (⟨sanitizeDisplay (shown ix).name, (shown ix).city.map sanitizeDisplay,
      (shown ix).country.map sanitizeDisplay⟩ : IxInfo) = shown ix := by
    simp only [shown, Option.map_map, Function.comp_def, sanitizeDisplay_sanitizeDisplay]
  simp only [assigned, fetchFromApi, List.mem_filterMap, Option.map_eq_some_iff, Prod.mk.injEq]
  constructor
  · rintro ⟨p, ⟨pfx, hpfx, hentry⟩, _, hparse, rfl, rfl⟩
    obtain ⟨lan, ix, hlan, hlanId, hix, hixId, rfl⟩ := entry_eq_some.mp hentry
    exact ⟨pfx, hpfx, lan, ix, hlan, hlanId, hix, hixId, hparse, hshown ix⟩
  · rintro ⟨pfx, hpfx, lan, ix, hlan, hlanId, hix, hixId, hparse, rfl⟩
    exact ⟨_, ⟨pfx, hpfx, entry_eq_some.mpr ⟨lan, ix, hlan, hlanId, hix, hixId, rfl⟩⟩, network, hparse, rfl, hshown ix⟩

/-- No more networks are assigned than there are prefixes. -/
theorem length_assigned_le : (assigned parse (db.fetchFromApi now).prefixes).length ≤ db.ixpfx_data.length :=
  (List.length_filterMap_le _ _).trans (List.length_filterMap_le _ _)

/-- **Fetched tables:** an address is looked up among the networks of the exchanges' LANs. -/
theorem lookup_fetched (parse : List Char → Option IpNetwork) {network_addr : IpNetwork → IpAddr}
    (hnetwork : KeepsPrefix network_addr) (db : PeeringDb) (now : UInt64) (hsize : db.ixpfx_data.length < 2^25)
    (ip : IpAddr) :
    ((populateFromCache parse network_addr (db.fetchFromApi now).prefixes).lookup ip = none ↔
      ∀ network info, db.Joins parse network info → network.contains ip = false) ∧
    ∀ info, (populateFromCache parse network_addr (db.fetchFromApi now).prefixes).lookup ip = some info →
      ∃ network, db.Joins parse network info ∧ network.contains ip = true ∧
        ∀ other info', db.Joins parse other info' → other.contains ip = true → other.len ≤ network.len := by
  have hlookup : (populateFromCache parse network_addr (db.fetchFromApi now).prefixes).lookup ip =
      PrefixTable.longestMatch (assigned parse (db.fetchFromApi now).prefixes) ip := by
    rw [populateFromCache_eq]
    exact PrefixTable.lookup_eq_longestMatch hnetwork _ (length_assigned_le.trans_lt hsize) ip
  rw [hlookup]
  refine ⟨PrefixTable.longestMatch_eq_none_iff.trans ⟨fun h network info hjoins => ?_, fun h e he => ?_⟩,
    fun info hinfo => ?_⟩
  · exact h (network, info) (mem_assigned.mpr hjoins)
  · exact h e.1 e.2 (mem_assigned.mp he)
  · obtain ⟨network, hmem, hcontains, hlongest⟩ := PrefixTable.of_longestMatch_eq_some hinfo
    exact ⟨network, mem_assigned.mp hmem, hcontains, fun other info' hjoins =>
      hlongest (other, info') (mem_assigned.mpr hjoins)⟩

/-- Two exchanges, the second of which has a row twice, and three networks of which one has no LAN. -/
def sampleDb : PeeringDb where
  ix_data := [⟨1, ['A'], none, none⟩, ⟨2, ['B'], none, none⟩, ⟨2, ['C', '\x1b'], none, none⟩]
  ixlan_data := [⟨11, 1⟩, ⟨12, 2⟩]
  ixpfx_data := [⟨11, "10.0.0.0/9".toList⟩, ⟨12, "10.1.2.3/17".toList⟩, ⟨13, "10.1.2.0/25".toList⟩]

/-- A decimal number up to a bound. -/
def readNumber (bound : ℕ) (digits : List Char) : Option ℕ :=
  let n := Nat.ofDigitChars 10 digits 0
  if ! digits.isEmpty && digits.all Char.isDigit && n ≤ bound then some n else none

/-- IPv4 networks in the notation of an address and a length. -/
def sampleParse (text : List Char) : Option IpNetwork :=
  match text.splitOn '/' with
  | [addr, len] =>
    match (addr.splitOn '.').mapM (readNumber 255), readNumber 32 len with
    | some [a, b, c, d], some len =>
      if h : len < 33 then
        some (.V4 ⟨UInt8.ofNat a, UInt8.ofNat b, UInt8.ofNat c, UInt8.ofNat d⟩ ⟨len, h⟩)
      else none
    | _, _ => none
  | _ => none

/-- `IpNetwork::network` on the networks of the tables. -/
def sampleAddr (network : IpNetwork) : IpAddr :=
  if network = .V4 ⟨10, 1, 2, 3⟩ ⟨17, by decide⟩ then .V4 ⟨10, 1, 0, 0⟩ else network.addr

/-- It clears host bits alone. -/
theorem keepsPrefix_sampleAddr : KeepsPrefix sampleAddr := by
  intro network
  unfold sampleAddr
  split_ifs with hnetwork
  · rw [hnetwork]
    decide
  · rfl

/-- The exchange of the longer of two networks, and an address in none. -/
theorem lookup_fetched_sample :
    (∃ network, sampleDb.Joins sampleParse network ⟨['C'], none, none⟩ ∧ network.contains (.V4 ⟨10, 1, 2, 3⟩) = true ∧
      ∀ other info, sampleDb.Joins sampleParse other info → other.contains (.V4 ⟨10, 1, 2, 3⟩) = true →
        other.len ≤ network.len) ∧
      ∀ network info, sampleDb.Joins sampleParse network info → network.contains (.V4 ⟨11, 1, 2, 3⟩) = false := by
  have hsize : sampleDb.ixpfx_data.length < 2^25 := by decide
  exact ⟨(lookup_fetched sampleParse keepsPrefix_sampleAddr sampleDb 0 hsize _).2 _ (by decide +kernel),
    (lookup_fetched sampleParse keepsPrefix_sampleAddr sampleDb 0 hsize _).1.mp (by decide +kernel)⟩

end PeeringDb

end Ttl
