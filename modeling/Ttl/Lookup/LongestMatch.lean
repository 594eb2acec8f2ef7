import Ttl.Lookup.PrefixTrie

/-!
# The longest-prefix match

A `PrefixTable` against the networks inserted into it. Each of its tries maps a path to the first network
with that path (`Holds`), and an insertion into one family leaves the trie of the other alone
(`trie_insert`). So a lookup answers with the longest network that contains the address, the first one
inserted among equals (`Holds.lookup_eq`). Networks and nodes are numbered in 32 bits, and a table that has more
of either answers wrongly (`lookup_wraps`). A table of fewer than `2^25` networks has not, as none adds more than
128 nodes (`lookup_eq_longestMatch`).
-/

namespace Ttl

namespace IpNetwork

/-- The bits that an address of the network begins with. -/
def path (network : IpNetwork) : List Bool := bitPath (addrBits network.addr).1 network.len

/-- The network contains an address: it is of the same family, and begins with the same bits. -/
def contains (network : IpNetwork) (ip : IpAddr) : Bool :=
  network.addr.isIpv6 = ip.isIpv6 && network.path = bitPath (addrBits ip).1 network.len

/-- A prefix is no longer than an address of its family. -/
theorem len_le (network : IpNetwork) : network.len ≤ (addrBits network.addr).2 := by
  cases network with
  | V4 addr len => exact Nat.le_of_lt_succ len.isLt
  | V6 addr len => exact Nat.le_of_lt_succ len.isLt

end IpNetwork

/-- No address has more than 128 bits. -/
theorem addrBits_snd_le (ip : IpAddr) : (addrBits ip).2 ≤ 128 := by
  cases ip with
  | V4 addr => exact Nat.le_of_ble_eq_true rfl
  | V6 addr => exact Nat.le_refl _

/-- The bits of an address, by its family. -/
theorem addrBits_snd (ip : IpAddr) : (addrBits ip).2 = if ip.isIpv6 then 128 else 32 := by
  cases ip with
  | V4 addr => rfl
  | V6 addr => rfl

/-- The path of a prefix is as long as the prefix. -/
theorem length_bitPath (bits : BitVec 128) (len : ℕ) : (bitPath bits len).length = len := by
  rw [bitPath, List.length_map, List.length_range]

/-- What is needed of `IpNetwork::network`: it clears the host bits, and leaves those of the prefix. -/
def KeepsPrefix (network_addr : IpNetwork → IpAddr) : Prop :=
  ∀ network, bitPath (addrBits (network_addr network)).1 network.len = network.path

/-- The beginnings of a bit path. -/
theorem inits_bitPath (bits : BitVec 128) (len : ℕ) :
    (bitPath bits len).inits = (List.range (len + 1)).map (bitPath bits) := by
  induction len with
  | zero => rfl
  | succ len ih =>
    have hsnoc : bitPath bits (len + 1) = bitPath bits len ++ [bits.getLsbD (127 - len)] := by
      rw [bitPath, List.range_succ, List.map_append]
      rfl
    rw [List.range_succ, List.map_append, List.map_singleton, hsnoc, List.inits_append, ih]
    rfl

namespace PrefixTable

variable {network_addr : IpNetwork → IpAddr}

/-- The trie of a family. -/
def trie (table : PrefixTable) (v6 : Bool) : PrefixTrie := if v6 then table.v6 else table.v4

/-- The table of networks, inserted in order. -/
def ofNetworks (network_addr : IpNetwork → IpAddr) (entries : List (IpNetwork × IxInfo)) : PrefixTable :=
  entries.foldl (fun table e => table.insert network_addr e.1 e.2) .new

/-- The longest network that contains an address: from the longest length down, the first one of that
length. -/
def longestMatch (entries : List (IpNetwork × IxInfo)) (ip : IpAddr) : Option IxInfo :=
  (List.range ((addrBits ip).2 + 1)).reverse.findSome? fun len =>
    (entries.find? fun e => e.1.len = len && e.1.contains ip).map Prod.snd

/-- What a table holds after insertions. -/
structure Holds (table : PrefixTable) (entries : List (IpNetwork × IxInfo)) : Prop where
  infos : table.infos = entries.map Prod.snd
  wellFormed : ∀ v6, (table.trie v6).WellFormed
  size : ∀ v6, (table.trie v6).nodes.length ≤ 1 + 128 * entries.length
  bound : ∀ v6 path idx, (table.trie v6).infoAt path = some idx → idx.toNat < entries.length
  /-- A path holds the first network that begins with it. -/
  answer : ∀ v6 path, ((table.trie v6).infoAt path).bind (fun idx => table.infos[idx.toNat]?) =
    (entries.find? fun e => e.1.addr.isIpv6 = v6 && e.1.path = path).map Prod.snd

section

variable {table : PrefixTable} {entries : List (IpNetwork × IxInfo)}

/-- Both tries of a new table are empty. -/
theorem trie_new (v6 : Bool) : new.trie v6 = PrefixTrie.new := by
  cases v6 with
  | false => rfl
  | true => rfl

/-- A new table holds no entries. -/
theorem holds_new : new.Holds [] where
  infos := rfl
  wellFormed := by
    intro v6
    rw [trie_new]
    exact PrefixTrie.wellFormed_new
  size := by
    intro v6
    rw [trie_new]
    exact Nat.le_refl _
  bound := by
    intro v6 path idx h
    rw [trie_new, PrefixTrie.infoAt_new] at h
    cases h
  answer := by
    intro v6 path
    rw [trie_new, PrefixTrie.infoAt_new]
    rfl

/-- An insertion changes the trie of its family. -/
theorem trie_insert (network_addr : IpNetwork → IpAddr) (table : PrefixTable) (network : IpNetwork) (info : IxInfo)
    (v6 : Bool) :
    (table.insert network_addr network info).trie v6 =
      if network.addr.isIpv6 = v6 then
        (table.trie v6).insert (addrBits (network_addr network)).1 network.len
          table.infos.length.toUInt32
      else table.trie v6 := by
  cases network with
  | V4 addr len => cases v6 <;> rfl
  | V6 addr len => cases v6 <;> rfl

/-- An insertion adds its value behind the others. -/
theorem infos_insert (network_addr : IpNetwork → IpAddr) (table : PrefixTable) (network : IpNetwork) (info : IxInfo) :
    (table.insert network_addr network info).infos = table.infos ++ [info] := by
  cases network with
  | V4 addr len => rfl
  | V6 addr len => rfl

/-- An insertion makes at most 128 nodes in a trie. -/
theorem length_trie_insert (network_addr : IpNetwork → IpAddr) (table : PrefixTable) (network : IpNetwork)
    (info : IxInfo) (v6 : Bool) :
    (table.trie v6).nodes.length ≤ ((table.insert network_addr network info).trie v6).nodes.length ∧
      ((table.insert network_addr network info).trie v6).nodes.length ≤ (table.trie v6).nodes.length + 128 := by
  have hlen : network.len ≤ 128 := network.len_le.trans (addrBits_snd_le _)
  rw [trie_insert]
  split_ifs with hv6
  · obtain ⟨hle, hge⟩ := PrefixTrie.length_insert (table.trie v6)
      (addrBits (network_addr network)).1 network.len table.infos.length.toUInt32
    exact ⟨hle, hge.trans (by omega)⟩
  · exact ⟨Nat.le_refl _, Nat.le_add_right _ _⟩

/-- What an insertion does to the map of a family. -/
theorem Holds.trie_insert_spec (hnetwork : KeepsPrefix network_addr) (holds : table.Holds entries)
    (network : IpNetwork) (info : IxInfo) {v6 : Bool}
    (hnodes : ((table.insert network_addr network info).trie v6).nodes.length ≤ 2^32) :
    ((table.insert network_addr network info).trie v6).WellFormed ∧
    ∀ path, ((table.insert network_addr network info).trie v6).infoAt path =
      ((table.trie v6).infoAt path).or
        (if network.addr.isIpv6 = v6 ∧ network.path = path then some entries.length.toUInt32 else none) := by
  rw [trie_insert] at hnodes ⊢
  split_ifs at hnodes ⊢ with hv6
  · have hlength : table.infos.length = entries.length := by rw [holds.infos, List.length_map]
    obtain ⟨hwf, hinfo⟩ := PrefixTrie.insert_spec (holds.wellFormed v6)
      (addrBits (network_addr network)).1 network.len table.infos.length.toUInt32 hnodes
    refine ⟨hwf, fun path => ?_⟩
    rw [hinfo, hnetwork network, hlength]
    by_cases hpath : network.path = path
    · rw [if_pos hpath.symm, if_pos ⟨hv6, hpath⟩]
    · rw [if_neg (Ne.symm hpath), if_neg fun h => hpath h.2]
  · refine ⟨holds.wellFormed v6, fun path => ?_⟩
    rw [if_neg fun h => hv6 h.1, Option.or_none]

/-- One more network. -/
theorem Holds.insert (hnetwork : KeepsPrefix network_addr) (holds : table.Holds entries) (network : IpNetwork)
    (info : IxInfo)
    (hcount : entries.length < 2^32)
    (hnodes : ∀ v6, ((table.insert network_addr network info).trie v6).nodes.length ≤ 2^32) :
    (table.insert network_addr network info).Holds (entries ++ [(network, info)]) where
  infos := by rw [infos_insert, holds.infos, List.map_append, List.map_singleton]
  wellFormed := fun v6 => (holds.trie_insert_spec hnetwork network info (hnodes v6)).1
  size := by
    intro v6
    have hold := holds.size v6
    have hnew := (length_trie_insert network_addr table network info v6).2
    rw [List.length_append, List.length_singleton]
    omega
  bound := by
    intro v6 path idx h
    rw [(holds.trie_insert_spec hnetwork network info (hnodes v6)).2] at h
    rw [List.length_append, List.length_singleton]
    cases hold : (table.trie v6).infoAt path with
    | some idx' =>
      rw [hold, Option.some_or] at h
      obtain rfl := Option.some.inj h
      exact Nat.lt_succ_of_lt (holds.bound v6 path idx' hold)
    | none =>
      rw [hold, Option.none_or] at h
      split_ifs at h
      obtain rfl := Option.some.inj h
      exact Nat.lt_succ_of_le (Nat.mod_le _ _)
  answer := by
    intro v6 path
    have hlength : table.infos.length = entries.length := by rw [holds.infos, List.length_map]
    have hanswer := holds.answer v6 path
    rw [(holds.trie_insert_spec hnetwork network info (hnodes v6)).2, infos_insert, List.find?_append]
    cases hold : (table.trie v6).infoAt path with
    | some idx =>
      -- The first network with the path stays.
      have hlt := holds.bound v6 path idx hold
      rw [hold, Option.bind_some] at hanswer
      rw [Option.some_or, Option.bind_some, List.getElem?_append_left (hlength ▸ hlt), hanswer]
      obtain ⟨info', hget⟩ : ∃ info', table.infos[idx.toNat]? = some info' :=
        ⟨_, List.getElem?_eq_getElem (hlength ▸ hlt)⟩
      rw [hget] at hanswer
      obtain ⟨e, hfind, -⟩ := Option.map_eq_some_iff.mp hanswer.symm
      rw [hfind, Option.some_or]
    | none =>
      -- A path without a network: it is that of the new one, or stays without.
      rw [hold, Option.bind_none] at hanswer
      have hnone := Option.map_eq_none_iff.mp hanswer.symm
      have hindex : entries.length.toUInt32.toNat = entries.length := Nat.mod_eq_of_lt hcount
      rw [Option.none_or, hnone, Option.none_or]
      by_cases hpath : network.addr.isIpv6 = v6 ∧ network.path = path
      · have hnew : List.find? (fun e : IpNetwork × IxInfo => e.1.addr.isIpv6 = v6 && e.1.path = path)
            [(network, info)] = some (network, info) :=
          List.find?_cons_of_pos (by rw [decide_eq_true hpath.1, decide_eq_true hpath.2]; rfl)
        rw [if_pos hpath, hnew, Option.bind_some, hindex, ← hlength, List.getElem?_concat_length]
        rfl
      · rw [if_neg hpath, Option.bind_none, List.find?_cons_of_neg, List.find?_nil, Option.map_none]
        rw [Bool.and_eq_true, decide_eq_true_eq, decide_eq_true_eq]
        exact hpath

/-- The table of one network more. -/
theorem ofNetworks_concat (network_addr : IpNetwork → IpAddr) (entries : List (IpNetwork × IxInfo))
    (network : IpNetwork) (info : IxInfo) :
    ofNetworks network_addr (entries ++ [(network, info)]) =
      (ofNetworks network_addr entries).insert network_addr network info := by
  rw [ofNetworks, List.foldl_append]
  rfl

/-- A table of networks, as long as both are numbered in 32 bits. -/
theorem holds_ofNetworks (hnetwork : KeepsPrefix network_addr) (hcount : entries.length ≤ 2^32)
    (hnodes : ∀ v6, ((ofNetworks network_addr entries).trie v6).nodes.length ≤ 2^32) :
    (ofNetworks network_addr entries).Holds entries := by
  induction entries using List.reverseRecOn with
  | nil => exact holds_new
  | append_singleton entries e ih =>
    obtain ⟨network, info⟩ := e
    rw [List.length_append, List.length_singleton] at hcount
    simp only [ofNetworks_concat] at hnodes ⊢
    have hbefore : ∀ v6, ((ofNetworks network_addr entries).trie v6).nodes.length ≤ 2^32 := fun v6 =>
      (length_trie_insert network_addr _ network info v6).1.trans (hnodes v6)
    exact (ih (Nat.le_of_succ_le hcount) hbefore).insert hnetwork network info hcount hnodes

/-- Every network adds at most 128 nodes to a trie. -/
theorem length_ofNetworks_le (network_addr : IpNetwork → IpAddr) (entries : List (IpNetwork × IxInfo)) (v6 : Bool) :
    ((ofNetworks network_addr entries).trie v6).nodes.length ≤ 1 + 128 * entries.length := by
  induction entries using List.reverseRecOn with
  | nil => exact holds_new.size v6
  | append_singleton entries e ih =>
    obtain ⟨network, info⟩ := e
    have hnew := (length_trie_insert network_addr (ofNetworks network_addr entries) network info v6).2
    rw [ofNetworks_concat, List.length_append, List.length_singleton]
    omega

/-- Every index that a trie holds is one of an exchange. -/
theorem Holds.isSome_infos (holds : table.Holds entries) {v6 : Bool} {path : List Bool} {idx : UInt32}
    (h : (table.trie v6).infoAt path = some idx) : (table.infos[idx.toNat]?).isSome := by
  have hlt := holds.bound v6 path idx h
  rw [holds.infos, List.getElem?_map, List.getElem?_eq_getElem hlt]
  rfl

/-- A network of a length begins with the bits of an address if it contains the address. -/
theorem path_eq_iff (network : IpNetwork) (ip : IpAddr) (len : ℕ) :
    (network.addr.isIpv6 = ip.isIpv6 ∧ network.path = bitPath (addrBits ip).1 len) ↔
      network.len = len ∧ network.contains ip = true := by
  unfold IpNetwork.contains
  rw [Bool.and_eq_true, decide_eq_true_eq, decide_eq_true_eq]
  constructor
  · rintro ⟨hfamily, hpath⟩
    have hlen : network.len = len := by
      rw [← length_bitPath (addrBits network.addr).1 network.len, ← length_bitPath (addrBits ip).1 len,
        ← hpath, IpNetwork.path]
    rw [hlen]
    exact ⟨rfl, hfamily, hpath⟩
  · rintro ⟨rfl, hfamily, hpath⟩
    exact ⟨hfamily, hpath⟩

/-- A lookup in the trie of the address's family. -/
theorem lookup_eq_bind (table : PrefixTable) (ip : IpAddr) :
    table.lookup ip = ((table.trie ip.isIpv6).lookup (addrBits ip).1 (addrBits ip).2).bind
      fun idx => table.infos[idx.toNat]? := by
  cases ip with
  | V4 addr => rfl
  | V6 addr => rfl

/-- What a table answers. -/
theorem Holds.lookup_eq (holds : table.Holds entries) (ip : IpAddr) :
    table.lookup ip = longestMatch entries ip := by
  have hanswer (len : ℕ) :
      ((table.trie ip.isIpv6).infoAt (bitPath (addrBits ip).1 len)).bind
          (fun idx => table.infos[idx.toNat]?) =
        (entries.find? fun e => e.1.len = len && e.1.contains ip).map Prod.snd := by
    have hsame : (fun e : IpNetwork × IxInfo =>
          e.1.addr.isIpv6 = ip.isIpv6 && e.1.path = bitPath (addrBits ip).1 len) =
        fun e => e.1.len = len && e.1.contains ip := by
      funext e
      rw [Bool.eq_iff_iff, Bool.and_eq_true, Bool.and_eq_true, decide_eq_true_eq, decide_eq_true_eq,
        decide_eq_true_eq]
      exact path_eq_iff e.1 ip len
    rw [holds.answer, hsame]
  -- The walk stops at the longest path with an index, and this index always leads to an exchange.
  have hsome : ∀ len idx, ((table.trie ip.isIpv6).infoAt ∘ bitPath (addrBits ip).1) len = some idx →
      (table.infos[idx.toNat]?).isSome := fun _ _ h => holds.isSome_infos h
  rw [lookup_eq_bind, PrefixTrie.lookup_eq_findSome?, inits_bitPath, ← List.map_reverse, List.findSome?_map,
    findSome?_bind hsome, longestMatch]
  simp only [Function.comp_apply, hanswer]

/-- No network is found if none contains the address. -/
theorem longestMatch_eq_none_iff {entries : List (IpNetwork × IxInfo)} {ip : IpAddr} :
    longestMatch entries ip = none ↔ ∀ e ∈ entries, e.1.contains ip = false := by
  rw [longestMatch, List.findSome?_eq_none_iff]
  constructor
  · intro h e he
    rw [← Bool.not_eq_true]
    intro hcontains
    obtain ⟨hfamily, -⟩ := (path_eq_iff e.1 ip e.1.len).mpr ⟨rfl, hcontains⟩
    have hlen : e.1.len ≤ (addrBits ip).2 := by
      rw [addrBits_snd, ← hfamily, ← addrBits_snd]
      exact e.1.len_le
    have hmem : e.1.len ∈ (List.range ((addrBits ip).2 + 1)).reverse :=
      List.mem_reverse.mpr (List.mem_range.mpr (Nat.lt_succ_of_le hlen))
    have hnone := List.find?_eq_none.mp (Option.map_eq_none_iff.mp (h e.1.len hmem)) e he
    rw [hcontains, decide_eq_true rfl] at hnone
    exact hnone rfl
  · intro h len _
    rw [Option.map_eq_none_iff, List.find?_eq_none]
    intro e he
    rw [h e he, Bool.and_false]
    exact Bool.false_ne_true

/-- The network that is found contains the address, and no longer one does. -/
theorem of_longestMatch_eq_some {entries : List (IpNetwork × IxInfo)} {ip : IpAddr} {info : IxInfo}
    (h : longestMatch entries ip = some info) :
    ∃ network, (network, info) ∈ entries ∧ network.contains ip = true ∧
      ∀ e ∈ entries, e.1.contains ip = true → e.1.len ≤ network.len := by
  obtain ⟨longer, len, shorter, hsplit, hfound, hnone⟩ := List.findSome?_eq_some_iff.mp h
  obtain ⟨⟨network, _⟩, hfind, rfl⟩ := Option.map_eq_some_iff.mp hfound
  have hmatch := List.find?_some hfind
  rw [Bool.and_eq_true, decide_eq_true_eq] at hmatch
  obtain ⟨rfl, hcontains⟩ := hmatch
  refine ⟨network, List.mem_of_find?_eq_some hfind, hcontains, fun e he hecontains => ?_⟩
  -- Lengths are tried from the longest one down, and no network of a longer one contains the address.
  obtain ⟨hfamily, -⟩ := (path_eq_iff e.1 ip e.1.len).mpr ⟨rfl, hecontains⟩
  have hlen : e.1.len ≤ (addrBits ip).2 := by
    rw [addrBits_snd, ← hfamily, ← addrBits_snd]
    exact e.1.len_le
  have hmem : e.1.len ∈ longer ++ network.len :: shorter := by
    rw [← hsplit, List.mem_reverse, List.mem_range]
    exact Nat.lt_succ_of_le hlen
  have hdown : (longer ++ network.len :: shorter).Pairwise (· > ·) := by
    rw [← hsplit, List.pairwise_reverse]
    exact List.pairwise_lt_range
  rcases List.mem_append.mp hmem with hlonger | hrest
  · have hmissed := List.find?_eq_none.mp (Option.map_eq_none_iff.mp (hnone e.1.len hlonger)) e he
    rw [hecontains, decide_eq_true rfl] at hmissed
    exact absurd rfl hmissed
  · rcases List.mem_cons.mp hrest with heq | hshorter
    · exact heq.le
    · exact ((List.pairwise_cons.mp (List.pairwise_append.mp hdown).2.1).1 e.1.len hshorter).le

/-- A table of fewer than `2^25` networks answers with the longest one that contains the address. -/
theorem lookup_eq_longestMatch (hnetwork : KeepsPrefix network_addr) (entries : List (IpNetwork × IxInfo))
    (hsize : entries.length < 2^25)
    (ip : IpAddr) : (ofNetworks network_addr entries).lookup ip = longestMatch entries ip := by
  refine (holds_ofNetworks hnetwork (by omega) fun v6 => ?_).lookup_eq ip
  have hle := length_ofNetworks_le network_addr entries v6
  omega

/-! ## The families

An index in a node is always one of an exchange, also where it has wrapped, so that a lookup in one family does not
depend on what is inserted into the other. -/

/-- The indices in the nodes are in range. -/
def InRange (table : PrefixTable) : Prop :=
  ∀ v6 k idx, ((table.trie v6).node k).info = some idx → idx.toNat < table.infos.length

/-- An insertion keeps the indices in range. -/
theorem InRange.insert (network_addr : IpNetwork → IpAddr) (h : table.InRange) (network : IpNetwork) (info : IxInfo) :
    (table.insert network_addr network info).InRange := by
  intro v6 k idx hinfo
  rw [infos_insert, List.length_append, List.length_singleton]
  rw [trie_insert] at hinfo
  split_ifs at hinfo
  · obtain hold | rfl := PrefixTrie.info_insert _ _ _ _ hinfo
    · exact Nat.lt_succ_of_lt (h v6 k idx hold)
    · exact Nat.lt_succ_of_le (Nat.mod_le _ _)
  · exact Nat.lt_succ_of_lt (h v6 k idx hinfo)

/-- The indices of a table that was filled are in range. -/
theorem inRange_ofNetworks (network_addr : IpNetwork → IpAddr) (entries : List (IpNetwork × IxInfo)) :
    (ofNetworks network_addr entries).InRange := by
  induction entries using List.reverseRecOn with
  | nil =>
    intro v6 k idx hinfo
    rw [ofNetworks, List.foldl_nil, trie_new] at hinfo
    cases k with
    | zero => cases hinfo
    | succ k =>
      rw [PrefixTrie.node_of_length_le (Nat.le_add_left 1 k)] at hinfo
      cases hinfo
  | append_singleton entries e ih =>
    obtain ⟨network, info⟩ := e
    rw [ofNetworks_concat]
    exact ih.insert network_addr network info

/-- An insertion into one family leaves the lookups of the other. -/
theorem InRange.lookup_insert (h : table.InRange) {network : IpNetwork} {ip : IpAddr} (info : IxInfo)
    (hfamily : network.addr.isIpv6 ≠ ip.isIpv6) :
    (table.insert network_addr network info).lookup ip = table.lookup ip := by
  rw [lookup_eq_bind, lookup_eq_bind, trie_insert, if_neg hfamily, infos_insert]
  cases hfound : (table.trie ip.isIpv6).lookup (addrBits ip).1 (addrBits ip).2 with
  | none => rfl
  | some idx =>
    obtain ⟨k, hk⟩ := PrefixTrie.lookup_mem _ _ _ hfound
    rw [Option.bind_some, Option.bind_some, List.getElem?_append_left (h _ k idx hk)]

/-- **Longest-prefix match:** a table answers with the longest network that contains the address, and with none if
none contains it, as long as its networks and the nodes of its tries are numbered in 32 bits. The networks of the
other family have no part in it, however host bits are cleared. -/
theorem lookup_longest (network_addr : IpNetwork → IpAddr) (entries : List (IpNetwork × IxInfo)) (ip : IpAddr) :
    (KeepsPrefix network_addr → entries.length ≤ 2^32 →
      (∀ v6, ((ofNetworks network_addr entries).trie v6).nodes.length ≤ 2^32) →
        (ofNetworks network_addr entries).lookup ip = longestMatch entries ip ∧
        ((ofNetworks network_addr entries).lookup ip = none ↔ ∀ e ∈ entries, e.1.contains ip = false)) ∧
    ∀ network info, network.addr.isIpv6 ≠ ip.isIpv6 →
      (ofNetworks network_addr (entries ++ [(network, info)])).lookup ip =
        (ofNetworks network_addr entries).lookup ip := by
  refine ⟨fun hnetwork hcount hnodes => ?_, fun network info hfamily => ?_⟩
  · have heq := (holds_ofNetworks hnetwork hcount hnodes).lookup_eq ip
    rw [heq]
    exact ⟨rfl, longestMatch_eq_none_iff⟩
  · rw [ofNetworks_concat]
    exact (inRange_ofNetworks network_addr entries).lookup_insert info hfamily

/-- Networks of both families, the last of which has host bits. -/
def nested : List (IpNetwork × IxInfo) :=
  [(.V6 ⟨0, 0, 0, 0, 0, 0, 0, 0⟩ ⟨0, by decide⟩, ⟨['A'], none, none⟩),
    (.V4 ⟨10, 0, 0, 0⟩ ⟨8, by decide⟩, ⟨['B'], none, none⟩),
    (.V4 ⟨10, 1, 2, 3⟩ ⟨16, by decide⟩, ⟨['C'], none, none⟩)]

/-- `IpNetwork::network` on these. -/
def nestedAddr (network : IpNetwork) : IpAddr :=
  if network = .V4 ⟨10, 1, 2, 3⟩ ⟨16, by decide⟩ then .V4 ⟨10, 1, 0, 0⟩ else network.addr

/-- It clears host bits alone. -/
theorem keepsPrefix_nestedAddr : KeepsPrefix nestedAddr := by
  intro network
  unfold nestedAddr
  split_ifs with hnetwork
  · rw [hnetwork]
    decide
  · rfl

/-- The longest of two networks, an address in none of them, and one more network of the other family. -/
theorem lookup_longest_nested :
    (ofNetworks nestedAddr nested).lookup (.V4 ⟨10, 1, 9, 9⟩) = some ⟨['C'], none, none⟩ ∧
    (ofNetworks nestedAddr nested).lookup (.V4 ⟨11, 1, 9, 9⟩) = none ∧
    (ofNetworks nestedAddr (nested ++ [(.V6 ⟨0, 0, 0, 0, 0, 0, 0, 0⟩ 1, ⟨['D'], none, none⟩)])).lookup
        (.V4 ⟨10, 1, 9, 9⟩) = (ofNetworks nestedAddr nested).lookup (.V4 ⟨10, 1, 9, 9⟩) := by
  have hcount : nested.length ≤ 2^32 := by decide
  have hnodes : ∀ v6, ((ofNetworks nestedAddr nested).trie v6).nodes.length ≤ 2^32 := fun v6 =>
    (length_ofNetworks_le nestedAddr nested v6).trans (by decide)
  have hnone : ∀ e ∈ nested, e.1.contains (.V4 ⟨11, 1, 9, 9⟩) = false := by decide
  refine ⟨((lookup_longest nestedAddr nested _).1 keepsPrefix_nestedAddr hcount hnodes).1.trans (by decide),
    ((lookup_longest nestedAddr nested _).1 keepsPrefix_nestedAddr hcount hnodes).2.mpr hnone, ?_⟩
  exact (lookup_longest nestedAddr nested _).2 _ _ (by decide)

/-! ## Wrapped indices -/

/-- A table of a default route, inserted over and over. -/
theorem ofNetworks_replicate (info : IxInfo) (n : ℕ) :
    ofNetworks IpNetwork.addr (List.replicate (n + 1) (.V4 ⟨0, 0, 0, 0⟩ 0, info)) =
      ⟨⟨[⟨fun _ => none, some 0⟩]⟩, .new, List.replicate (n + 1) info⟩ := by
  induction n with
  | zero => rfl
  | succ n ih =>
    rw [List.replicate_succ', ofNetworks_concat, ih, List.replicate_succ' (n := n + 1)]
    rfl

/-- A network behind them takes the index of the first one when its own is a multiple of `2^32`. -/
theorem lookup_replicate (info info' : IxInfo) {n : ℕ} (h : (n + 1).toUInt32 = 0) :
    (ofNetworks IpNetwork.addr
      (List.replicate (n + 1) (.V4 ⟨0, 0, 0, 0⟩ 0, info) ++ [(.V4 ⟨128, 0, 0, 0⟩ 1, info')])).lookup
        (.V4 ⟨128, 0, 0, 1⟩) = some info := by
  rw [ofNetworks_concat, ofNetworks_replicate, insert]
  dsimp only
  rw [List.length_replicate, h]
  rfl

/-- The network behind them is the longest match. -/
theorem longestMatch_replicate (info info' : IxInfo) (n : ℕ) :
    longestMatch (List.replicate (n + 1) (.V4 ⟨0, 0, 0, 0⟩ 0, info) ++ [(.V4 ⟨128, 0, 0, 0⟩ 1, info')])
      (.V4 ⟨128, 0, 0, 1⟩) = some info' := by
  have hdefault : (IpNetwork.V4 ⟨0, 0, 0, 0⟩ 0).contains (.V4 ⟨128, 0, 0, 1⟩) = true := by decide
  have hhalf : (IpNetwork.V4 ⟨128, 0, 0, 0⟩ 1).contains (.V4 ⟨128, 0, 0, 1⟩) = true := by decide
  unfold longestMatch
  simp only [List.find?_append, List.find?_replicate_of_length_pos (Nat.zero_lt_succ n), List.find?_singleton,
    hdefault, hhalf, Bool.and_true]
  rfl

/-- The network after `2^32` others takes the index of the first one. Neither has host bits to clear. -/
theorem lookup_wraps :
    (ofNetworks IpNetwork.addr (List.replicate (4294967295 + 1) (.V4 ⟨0, 0, 0, 0⟩ 0, ⟨['A'], none, none⟩) ++
        [(.V4 ⟨128, 0, 0, 0⟩ 1, ⟨['B'], none, none⟩)])).lookup (.V4 ⟨128, 0, 0, 1⟩) ≠
      longestMatch (List.replicate (4294967295 + 1) (.V4 ⟨0, 0, 0, 0⟩ 0, ⟨['A'], none, none⟩) ++
        [(.V4 ⟨128, 0, 0, 0⟩ 1, ⟨['B'], none, none⟩)]) (.V4 ⟨128, 0, 0, 1⟩) := by
  have hwraps : (4294967295 + 1).toUInt32 = 0 := by decide
  rw [lookup_replicate _ _ hwraps, longestMatch_replicate]
  decide

end

end PrefixTable

end Ttl
