import Mathlib.Logic.Function.Basic
import Ttl.Lookup.Cache
import Ttl.State.Enrichment

/-!
# The prefix table

`PrefixTrie` and `PrefixTable` (`src/lookup/ix.rs`): a binary trie in a flat arena of nodes for each address
family, whose terminal nodes hold an index into the list of exchanges. Indices are `u32`, so that a child's
index is the number of its node modulo `2^32`. The text of a network is parsed, and its host bits are cleared, by
another crate, whose functions are parameters.
-/

namespace Ttl

/-- `IpNetwork`: an address and the length of its prefix. -/
inductive IpNetwork where
  | V4 (addr : Ipv4Addr) (len : Fin 33)
  | V6 (addr : Ipv6Addr) (len : Fin 129)
deriving DecidableEq

namespace IpNetwork

/-- The address. -/
def addr : IpNetwork → IpAddr
  | V4 addr _ => .V4 addr
  | V6 addr _ => .V6 addr

/-- The length of the prefix. -/
def len : IpNetwork → ℕ
  | V4 _ len => len
  | V6 _ len => len

end IpNetwork

/-- `TrieNode`. -/
structure TrieNode where
  children : Bool → Option UInt32
  info : Option UInt32

/-- `TrieNode::default`. -/
def TrieNode.default : TrieNode := ⟨fun _ => none, none⟩

/-- `PrefixTrie`: the arena of nodes, the root of which has the index 0. -/
structure PrefixTrie where
  nodes : List TrieNode

/-- `addr_bits`: the bits, left-aligned, and their number. -/
def addrBits : IpAddr → BitVec 128 × ℕ
  | .V4 ⟨a, b, c, d⟩ =>
    ((a.toBitVec ++ b.toBitVec ++ c.toBitVec ++ d.toBitVec).setWidth 128 <<< 96, 32)
  | .V6 ⟨s0, s1, s2, s3, s4, s5, s6, s7⟩ =>
    (s0.toBitVec ++ s1.toBitVec ++ s2.toBitVec ++ s3.toBitVec ++ s4.toBitVec ++ s5.toBitVec ++
      s6.toBitVec ++ s7.toBitVec, 128)

/-- The first `len` bits, from the most significant one: `(bits >> (127 - i)) & 1`. -/
def bitPath (bits : BitVec 128) (len : ℕ) : List Bool :=
  (List.range len).map fun i => bits.getLsbD (127 - i)

namespace PrefixTrie

/-- `PrefixTrie::new`. -/
def new : PrefixTrie := ⟨[TrieNode.default]⟩

/-- The node with an index. -/
def node (t : PrefixTrie) (i : ℕ) : TrieNode := t.nodes.getD i TrieNode.default

/-- The loop of `insert`: walk down from a node, with new nodes where there are none. It returns the index
of the last one. -/
def descend (t : PrefixTrie) (i : ℕ) : List Bool → PrefixTrie × ℕ
  | [] => (t, i)
  | bit :: bits =>
    match (t.node i).children bit with
    | some child => descend t child.toNat bits
    | none =>
      let child := t.nodes.length.toUInt32
      let nodes := (t.nodes ++ [TrieNode.default]).modify i fun node =>
        { node with children := Function.update node.children bit (some child) }
      descend ⟨nodes⟩ child.toNat bits

/-- `PrefixTrie::insert`: the first insertion of a prefix wins. -/
def insert (t : PrefixTrie) (bits : BitVec 128) (prefix_len : ℕ) (info_idx : UInt32) : PrefixTrie :=
  let (t, i) := t.descend 0 (bitPath bits prefix_len)
  if (t.node i).info.isNone then
    ⟨t.nodes.modify i fun node => { node with info := some info_idx }⟩
  else t

/-- The loop of `lookup`: the last index on the way down from a node. -/
def walk (t : PrefixTrie) (i : ℕ) (best : Option UInt32) : List Bool → Option UInt32
  | [] => best
  | bit :: bits =>
    match (t.node i).children bit with
    | some child => walk t child.toNat ((t.node child.toNat).info.or best) bits
    | none => best

/-- `PrefixTrie::lookup`. -/
def lookup (t : PrefixTrie) (bits : BitVec 128) (addr_len : ℕ) : Option UInt32 :=
  t.walk 0 (t.node 0).info (bitPath bits addr_len)

end PrefixTrie

/-- `PrefixTable`. -/
structure PrefixTable where
  v4 : PrefixTrie
  v6 : PrefixTrie
  infos : List IxInfo

namespace PrefixTable

/-- `PrefixTable::new`. -/
def new : PrefixTable := ⟨.new, .new, []⟩

/-- `PrefixTable::insert`, where `network_addr` is `IpNetwork::network`. -/
def insert (network_addr : IpNetwork → IpAddr) (table : PrefixTable) (network : IpNetwork) (info : IxInfo) :
    PrefixTable :=
  let info_idx := table.infos.length.toUInt32
  let infos := table.infos ++ [info]
  let (bits, _) := addrBits (network_addr network)
  match network with
  | .V4 _ len => { table with v4 := table.v4.insert bits len info_idx, infos := infos }
  | .V6 _ len => { table with v6 := table.v6.insert bits len info_idx, infos := infos }

/-- `PrefixTable::lookup`: the longest-prefix match of an address. -/
def lookup (table : PrefixTable) (ip : IpAddr) : Option IxInfo :=
  let (bits, addr_len) := addrBits ip
  let trie := match ip with
    | .V4 _ => table.v4
    | .V6 _ => table.v6
  (trie.lookup bits addr_len).bind fun idx => table.infos[idx.toNat]?

end PrefixTable

/-- `PrefixCacheEntry`. -/
structure PrefixCacheEntry where
  /-- `prefix`: the text of the network. -/
  network : List Char
  ix_name : List Char
  ix_city : Option (List Char)
  ix_country : Option (List Char)
deriving DecidableEq

/-- The table that `populate_from_cache` installs. A network that does not parse is skipped. -/
def populateFromCache (parse : List Char → Option IpNetwork) (network_addr : IpNetwork → IpAddr)
    (prefixes : List PrefixCacheEntry) : PrefixTable :=
  prefixes.foldl (fun table p =>
    match parse p.network with
    | some network =>
      table.insert network_addr network
        ⟨sanitizeDisplay p.ix_name, p.ix_city.map sanitizeDisplay, p.ix_country.map sanitizeDisplay⟩
    | none => table) .new

end Ttl
