import Mathlib.Data.List.Infix
import Ttl.Lookup.PrefixTable

/-!
# The prefix trie as a map

A `PrefixTrie` stands for a map from bit paths to indices (`infoAt`). Its nodes form a tree below the root
(`WellFormed`), so that a path leads to one node and a node has one path. An insertion adds its path, unless
it is there already (`insert_spec`), and a lookup finds the longest beginning of the address's bits that is
there (`lookup_eq_findSome?`). Both hold as long as the nodes of the trie can be numbered in 32 bits.
-/

namespace Ttl

namespace PrefixTrie

/-- The child of a node. -/
def child (t : PrefixTrie) (i : ℕ) (bit : Bool) : Option ℕ := ((t.node i).children bit).map UInt32.toNat

/-- The node at the end of a path. -/
def reach (t : PrefixTrie) : ℕ → List Bool → Option ℕ
  | i, [] => some i
  | i, bit :: bits => (t.child i bit).bind fun j => t.reach j bits

/-- What the trie holds at a path. -/
def infoAt (t : PrefixTrie) (path : List Bool) : Option UInt32 :=
  (t.reach 0 path).bind fun i => (t.node i).info

/-- The nodes form a tree below the root. -/
structure WellFormed (t : PrefixTrie) : Prop where
  root : 0 < t.nodes.length
  child_pos : ∀ i bit j, t.child i bit = some j → 0 < j
  child_lt : ∀ i bit j, t.child i bit = some j → j < t.nodes.length
  child_inj : ∀ i bit i' bit' j, t.child i bit = some j → t.child i' bit' = some j → i = i' ∧ bit = bit'

variable {t : PrefixTrie} {i j n : ℕ} {bit : Bool} {path : List Bool}

/-- There is no node behind the last one. -/
theorem node_of_length_le (h : t.nodes.length ≤ i) : t.node i = TrieNode.default :=
  List.getD_eq_default _ _ h

/-- A node behind the last one has no child. -/
theorem child_of_length_le (h : t.nodes.length ≤ i) (bit : Bool) : t.child i bit = none := by
  rw [child, node_of_length_le h]
  rfl

/-- A path of two pieces goes on from where the first ends. -/
theorem reach_append (t : PrefixTrie) (i : ℕ) (path rest : List Bool) :
    t.reach i (path ++ rest) = (t.reach i path).bind fun j => t.reach j rest := by
  induction path generalizing i with
  | nil => rfl
  | cons b path ih =>
    rw [List.cons_append, reach, reach]
    cases t.child i b with
    | none => rfl
    | some j => exact ih j

/-- A path of one bit leads to a child. -/
theorem reach_singleton (t : PrefixTrie) (i : ℕ) (bit : Bool) : t.reach i [bit] = t.child i bit := by
  rw [reach]
  cases t.child i bit with
  | none => rfl
  | some j => rfl

/-- A path of one bit more leads to a child of where it led. -/
theorem reach_snoc (t : PrefixTrie) (i : ℕ) (path : List Bool) (bit : Bool) :
    t.reach i (path ++ [bit]) = (t.reach i path).bind fun j => t.child j bit := by
  rw [reach_append]
  simp only [reach_singleton]

/-- A path goes on to a child of its node. -/
theorem reach_child (h : t.reach 0 path = some i) {c : UInt32} (hc : (t.node i).children bit = some c) :
    t.reach 0 (path ++ [bit]) = some c.toNat := by
  rw [reach_snoc, h, Option.bind_some, child, hc, Option.map_some]

/-- A path leads to a node. -/
theorem WellFormed.reach_lt (wf : t.WellFormed) (h : t.reach 0 path = some n) : n < t.nodes.length := by
  induction path using List.reverseRecOn with
  | nil =>
    obtain rfl := Option.some.inj h
    exact wf.root
  | append_singleton path bit _ =>
    rw [reach_snoc] at h
    obtain ⟨m, -, hchild⟩ := Option.bind_eq_some_iff.mp h
    exact wf.child_lt m bit n hchild

/-- Two paths lead to different nodes. -/
theorem WellFormed.reach_inj (wf : t.WellFormed) {path' : List Bool} (h : t.reach 0 path = some n)
    (h' : t.reach 0 path' = some n) : path = path' := by
  induction path using List.reverseRecOn generalizing n path' with
  | nil =>
    obtain rfl := Option.some.inj h
    cases path' using List.reverseRecOn with
    | nil => rfl
    | append_singleton path' bit' =>
      rw [reach_snoc] at h'
      obtain ⟨m, -, hchild⟩ := Option.bind_eq_some_iff.mp h'
      exact absurd (wf.child_pos m bit' 0 hchild) (Nat.lt_irrefl 0)
  | append_singleton path bit ih =>
    rw [reach_snoc] at h
    obtain ⟨m, hm, hchild⟩ := Option.bind_eq_some_iff.mp h
    cases path' using List.reverseRecOn with
    | nil =>
      obtain rfl := Option.some.inj h'
      exact absurd (wf.child_pos m bit 0 hchild) (Nat.lt_irrefl 0)
    | append_singleton path' bit' =>
      rw [reach_snoc] at h'
      obtain ⟨m', hm', hchild'⟩ := Option.bind_eq_some_iff.mp h'
      obtain ⟨rfl, rfl⟩ := wf.child_inj m bit m' bit' n hchild hchild'
      rw [ih hm hm']

/-! ## A new node -/

/-- The trie with a new node below another. -/
def grow (t : PrefixTrie) (i : ℕ) (bit : Bool) : PrefixTrie :=
  ⟨(t.nodes ++ [TrieNode.default]).modify i fun node =>
    { node with children := Function.update node.children bit (some t.nodes.length.toUInt32) }⟩

/-- Growing adds a node. -/
theorem length_grow : (t.grow i bit).nodes.length = t.nodes.length + 1 := by
  rw [grow, List.length_modify, List.length_append, List.length_singleton]

/-- The node that is added is empty, as one behind the last is. -/
theorem node_append_default (k : ℕ) :
    (PrefixTrie.mk (t.nodes ++ [TrieNode.default])).node k = t.node k := by
  unfold node
  rw [List.getD_eq_getElem?_getD, List.getD_eq_getElem?_getD]
  rcases Nat.lt_trichotomy k t.nodes.length with hk | hk | hk
  · rw [List.getElem?_append_left hk]
  · subst hk
    rw [List.getElem?_append_right (Nat.le_refl _), Nat.sub_self, List.getElem?_eq_none (Nat.le_refl _)]
    rfl
  · rw [List.getElem?_eq_none hk.le, List.getElem?_eq_none]
    rw [List.length_append, List.length_singleton]
    exact hk

/-- Changing a node leaves the others. -/
theorem node_modify {nodes : List TrieNode} (hi : i < nodes.length) (f : TrieNode → TrieNode) (k : ℕ) :
    (PrefixTrie.mk (nodes.modify i f)).node k =
      if k = i then f ((PrefixTrie.mk nodes).node k) else (PrefixTrie.mk nodes).node k := by
  unfold node
  rw [List.getD_eq_getElem?_getD, List.getD_eq_getElem?_getD, List.getElem?_modify]
  split_ifs with hik hki hki
  · rw [← hik, List.getElem?_eq_getElem hi]
    rfl
  · exact absurd hik.symm hki
  · exact absurd hki.symm hik
  · cases nodes[k]? with
    | none => rfl
    | some node => rfl

/-- A change that keeps the index of a node keeps all of them. -/
theorem info_modify (nodes : List TrieNode) (i : ℕ) {f : TrieNode → TrieNode}
    (hf : ∀ node, (f node).info = node.info) (k : ℕ) :
    ((PrefixTrie.mk (nodes.modify i f)).node k).info = ((PrefixTrie.mk nodes).node k).info := by
  unfold node
  rw [List.getD_eq_getElem?_getD, List.getD_eq_getElem?_getD, List.getElem?_modify]
  cases nodes[k]? with
  | none => split_ifs <;> rfl
  | some n =>
    split_ifs
    · exact hf n
    · rfl

/-- Growing keeps the indices. -/
theorem info_grow (k : ℕ) : ((t.grow i bit).node k).info = (t.node k).info := by
  have hmodify := info_modify (t.nodes ++ [TrieNode.default]) i
    (f := fun node => { node with children := Function.update node.children bit (some t.nodes.length.toUInt32) })
    (fun _ => rfl) k
  rw [node_append_default] at hmodify
  exact hmodify

/-- The only new edge leads to the new node. -/
theorem child_grow (hi : i < t.nodes.length) (hroom : t.nodes.length < 2^32) (k : ℕ) (b : Bool) :
    (t.grow i bit).child k b = if k = i ∧ b = bit then some t.nodes.length else t.child k b := by
  have hlt : i < (t.nodes ++ [TrieNode.default]).length := by
    rw [List.length_append]
    exact Nat.lt_add_right _ hi
  have hindex : t.nodes.length.toUInt32.toNat = t.nodes.length := Nat.mod_eq_of_lt hroom
  rw [child, grow, node_modify hlt, node_append_default, child]
  by_cases hk : k = i
  · rw [if_pos hk]
    dsimp only
    rw [Function.update_apply]
    by_cases hb : b = bit
    · rw [if_pos hb, if_pos ⟨hk, hb⟩, Option.map_some, hindex]
    · rw [if_neg hb, if_neg fun h => hb h.2]
  · rw [if_neg hk, if_neg fun h => hk h.1]

/-- Growing keeps the trie well formed, where there is room. -/
theorem WellFormed.grow (wf : t.WellFormed) (hi : i < t.nodes.length) (hroom : t.nodes.length < 2^32) :
    (t.grow i bit).WellFormed where
  root := by
    rw [length_grow]
    exact Nat.zero_lt_succ _
  child_pos := by
    intro k b j h
    rw [child_grow hi hroom] at h
    split_ifs at h
    · obtain rfl := Option.some.inj h
      exact wf.root
    · exact wf.child_pos k b j h
  child_lt := by
    intro k b j h
    rw [child_grow hi hroom] at h
    rw [length_grow]
    split_ifs at h
    · obtain rfl := Option.some.inj h
      exact Nat.lt_succ_self _
    · exact Nat.lt_succ_of_lt (wf.child_lt k b j h)
  child_inj := by
    intro k b k' b' j h h'
    rw [child_grow hi hroom] at h h'
    split_ifs at h h' with hnew hnew' hnew'
    · exact ⟨hnew.1.trans hnew'.1.symm, hnew.2.trans hnew'.2.symm⟩
    · -- An old child has a smaller index.
      obtain rfl := Option.some.inj h
      exact absurd (wf.child_lt k' b' _ h') (Nat.lt_irrefl _)
    · obtain rfl := Option.some.inj h'
      exact absurd (wf.child_lt k b _ h) (Nat.lt_irrefl _)
    · exact wf.child_inj k b k' b' j h h'

/-- Paths lead to where they led. -/
theorem reach_grow (hi : i < t.nodes.length) (hroom : t.nodes.length < 2^32) (hfree : t.child i bit = none)
    (h : t.reach 0 path = some n) : (t.grow i bit).reach 0 path = some n := by
  induction path using List.reverseRecOn generalizing n with
  | nil => exact h
  | append_singleton path b ih =>
    rw [reach_snoc] at h ⊢
    obtain ⟨m, hm, hchild⟩ := Option.bind_eq_some_iff.mp h
    rw [ih hm, Option.bind_some, child_grow hi hroom, if_neg, hchild]
    rintro ⟨rfl, rfl⟩
    rw [hfree] at hchild
    cases hchild

/-- A path that does not end at the new node was there before. -/
theorem reach_of_grow (hi : i < t.nodes.length) (hroom : t.nodes.length < 2^32)
    (h : (t.grow i bit).reach 0 path = some n) (hn : n ≠ t.nodes.length) : t.reach 0 path = some n := by
  induction path using List.reverseRecOn generalizing n with
  | nil => exact h
  | append_singleton path b ih =>
    rw [reach_snoc] at h ⊢
    obtain ⟨m, hm, hchild⟩ := Option.bind_eq_some_iff.mp h
    rw [child_grow hi hroom] at hchild
    split_ifs at hchild
    · exact absurd (Option.some.inj hchild).symm hn
    · have hold : m ≠ t.nodes.length := by
        rintro rfl
        rw [child_of_length_le (Nat.le_refl _)] at hchild
        cases hchild
      rw [ih hm hold]
      exact hchild

/-- A new node holds nothing. -/
theorem infoAt_grow (hi : i < t.nodes.length) (hroom : t.nodes.length < 2^32)
    (hfree : t.child i bit = none) (path : List Bool) : (t.grow i bit).infoAt path = t.infoAt path := by
  unfold infoAt
  cases hold : t.reach 0 path with
  | some n => rw [reach_grow hi hroom hfree hold, Option.bind_some, Option.bind_some, info_grow]
  | none =>
    cases hnew : (t.grow i bit).reach 0 path with
    | none => rfl
    | some n =>
      have hn : n = t.nodes.length := by
        by_contra hne
        rw [reach_of_grow hi hroom hnew hne] at hold
        cases hold
      rw [Option.bind_some, info_grow, hn, node_of_length_le (Nat.le_refl _)]
      rfl

/-! ## Insertion -/

/-- A descent follows a child that is there. -/
theorem descend_of_child {c : UInt32} (h : (t.node i).children bit = some c) (bits : List Bool) :
    t.descend i (bit :: bits) = t.descend c.toNat bits := by
  rw [descend, h]

/-- A descent grows a child that is not there. -/
theorem descend_of_no_child (h : (t.node i).children bit = none) (bits : List Bool) :
    t.descend i (bit :: bits) = (t.grow i bit).descend t.nodes.length.toUInt32.toNat bits := by
  rw [descend, h]
  rfl

/-- The walk of `insert` makes at most a node for each bit. -/
theorem length_descend (t : PrefixTrie) (i : ℕ) (bits : List Bool) :
    t.nodes.length ≤ (t.descend i bits).1.nodes.length ∧
      (t.descend i bits).1.nodes.length ≤ t.nodes.length + bits.length := by
  induction bits generalizing t i with
  | nil => exact ⟨Nat.le_refl _, Nat.le_refl _⟩
  | cons bit bits ih =>
    rw [List.length_cons]
    cases hc : (t.node i).children bit with
    | some c =>
      have hnext := ih t c.toNat
      rw [descend_of_child hc]
      omega
    | none =>
      have hnext := ih (t.grow i bit) t.nodes.length.toUInt32.toNat
      rw [length_grow] at hnext
      rw [descend_of_no_child hc]
      omega

/-- The walk of `insert` leads to the end of its path and changes nothing of what the trie holds. -/
theorem descend_spec (wf : t.WellFormed) {path : List Bool} (hreach : t.reach 0 path = some i)
    (bits : List Bool) (hroom : (t.descend i bits).1.nodes.length ≤ 2^32) :
    (t.descend i bits).1.WellFormed ∧
    (t.descend i bits).1.reach 0 (path ++ bits) = some (t.descend i bits).2 ∧
    ∀ q, (t.descend i bits).1.infoAt q = t.infoAt q := by
  induction bits generalizing t i path with
  | nil =>
    rw [List.append_nil]
    exact ⟨wf, hreach, fun _ => rfl⟩
  | cons bit bits ih =>
    have hi := wf.reach_lt hreach
    rw [List.append_cons path bit bits]
    cases hc : (t.node i).children bit with
    | some c =>
      rw [descend_of_child hc] at hroom ⊢
      exact ih wf (reach_child hreach hc) hroom
    | none =>
      have hfree : t.child i bit = none := by rw [child, hc, Option.map_none]
      rw [descend_of_no_child hc] at hroom ⊢
      have hle := (length_descend (t.grow i bit) t.nodes.length.toUInt32.toNat bits).1
      have hlen : (t.grow i bit).nodes.length = t.nodes.length + 1 := length_grow
      have hroom' : t.nodes.length < 2^32 := by omega
      have hindex : t.nodes.length.toUInt32.toNat = t.nodes.length := Nat.mod_eq_of_lt hroom'
      have hnext : (t.grow i bit).reach 0 (path ++ [bit]) = some t.nodes.length.toUInt32.toNat := by
        rw [reach_snoc, reach_grow hi hroom' hfree hreach, Option.bind_some, child_grow hi hroom',
          if_pos ⟨rfl, rfl⟩, hindex]
      obtain ⟨hwf, hend, hinfo⟩ := ih (wf.grow hi hroom') hnext hroom
      exact ⟨hwf, hend, fun q => (hinfo q).trans (infoAt_grow hi hroom' hfree q)⟩

/-- The trie with an index at a node. -/
def setInfo (t : PrefixTrie) (i : ℕ) (info : UInt32) : PrefixTrie :=
  ⟨t.nodes.modify i fun node => { node with info := some info }⟩

/-- An index at a node changes no child. -/
theorem child_setInfo (hi : i < t.nodes.length) (info : UInt32) (k : ℕ) (b : Bool) :
    (t.setInfo i info).child k b = t.child k b := by
  rw [child, setInfo, node_modify hi, child]
  split_ifs
  · rfl
  · rfl

/-- An index at a node leads all paths where they led. -/
theorem reach_setInfo (hi : i < t.nodes.length) (info : UInt32) (path : List Bool) :
    (t.setInfo i info).reach 0 path = t.reach 0 path := by
  induction path using List.reverseRecOn with
  | nil => rfl
  | append_singleton path b ih =>
    rw [reach_snoc, reach_snoc, ih]
    simp only [child_setInfo hi]

/-- An index at a node keeps the trie well formed. -/
theorem WellFormed.setInfo (wf : t.WellFormed) (hi : i < t.nodes.length) (info : UInt32) :
    (t.setInfo i info).WellFormed where
  root := by
    rw [PrefixTrie.setInfo, List.length_modify]
    exact wf.root
  child_pos := by
    intro k b j h
    rw [child_setInfo hi] at h
    exact wf.child_pos k b j h
  child_lt := by
    intro k b j h
    rw [child_setInfo hi] at h
    rw [PrefixTrie.setInfo, List.length_modify]
    exact wf.child_lt k b j h
  child_inj := by
    intro k b k' b' j h h'
    rw [child_setInfo hi] at h h'
    exact wf.child_inj k b k' b' j h h'

/-- An index at the end of a path is held at that path only. -/
theorem infoAt_setInfo (wf : t.WellFormed) (hreach : t.reach 0 path = some i) (info : UInt32)
    (q : List Bool) : (t.setInfo i info).infoAt q = if q = path then some info else t.infoAt q := by
  have hi := wf.reach_lt hreach
  rw [infoAt, reach_setInfo hi, infoAt]
  by_cases hq : q = path
  · rw [if_pos hq, hq, hreach, Option.bind_some, PrefixTrie.setInfo, node_modify hi, if_pos rfl]
  · rw [if_neg hq]
    cases hn : t.reach 0 q with
    | none => rfl
    | some n =>
      -- Another path leads to another node.
      have hne : n ≠ i := by
        rintro rfl
        exact hq (wf.reach_inj hn hreach)
      rw [Option.bind_some, Option.bind_some, PrefixTrie.setInfo, node_modify hi, if_neg hne]

/-- The nodes after an insertion are those of its walk. -/
theorem length_insert_eq (t : PrefixTrie) (bits : BitVec 128) (len : ℕ) (idx : UInt32) :
    (t.insert bits len idx).nodes.length = (t.descend 0 (bitPath bits len)).1.nodes.length := by
  unfold insert
  dsimp only
  split_ifs
  · rw [List.length_modify]
  · rfl

/-- An insertion adds at most a node for each bit. -/
theorem length_insert (t : PrefixTrie) (bits : BitVec 128) (len : ℕ) (idx : UInt32) :
    t.nodes.length ≤ (t.insert bits len idx).nodes.length ∧
      (t.insert bits len idx).nodes.length ≤ t.nodes.length + len := by
  have hlen : (bitPath bits len).length = len := by rw [bitPath, List.length_map, List.length_range]
  have hdescend := length_descend t 0 (bitPath bits len)
  rw [hlen] at hdescend
  rw [length_insert_eq]
  exact hdescend

/-- **Insertion:** it adds its path with its index, unless the path is there already. -/
theorem insert_spec (wf : t.WellFormed) (bits : BitVec 128) (len : ℕ) (idx : UInt32)
    (hroom : (t.insert bits len idx).nodes.length ≤ 2^32) :
    (t.insert bits len idx).WellFormed ∧
    ∀ q, (t.insert bits len idx).infoAt q =
      (t.infoAt q).or (if q = bitPath bits len then some idx else none) := by
  rw [length_insert_eq] at hroom
  obtain ⟨hwf, hend, hinfo⟩ := @descend_spec t 0 wf [] rfl (bitPath bits len) hroom
  rw [List.nil_append] at hend
  have hi := hwf.reach_lt hend
  have hat : (t.descend 0 (bitPath bits len)).1.infoAt (bitPath bits len) =
      ((t.descend 0 (bitPath bits len)).1.node (t.descend 0 (bitPath bits len)).2).info := by
    rw [infoAt, hend, Option.bind_some]
  rw [hinfo] at hat
  unfold insert
  dsimp only
  rw [← hat]
  split_ifs with hnone
  · rw [Option.isNone_iff_eq_none] at hnone
    refine ⟨hwf.setInfo hi idx, fun q => ?_⟩
    have hset := infoAt_setInfo hwf hend idx q
    rw [setInfo] at hset
    rw [hset]
    split_ifs with hq
    · rw [hq, hnone, Option.none_or]
    · rw [hinfo, Option.or_none]
  · refine ⟨hwf, fun q => ?_⟩
    rw [hinfo]
    split_ifs with hq
    · rw [hq]
      cases hsome : t.infoAt (bitPath bits len) with
      | none =>
        rw [hsome] at hnone
        exact absurd rfl hnone
      | some info => rfl
    · rw [Option.or_none]

/-! ## Lookup -/

/-- The first beginning of a path is the empty one. -/
theorem inits_eq (bits : List Bool) : bits.inits = [] :: bits.inits.tail := by
  cases bits with
  | nil => rfl
  | cons bit bits => rfl

/-- Nothing is held below a missing child. -/
theorem infoAt_of_no_child {path : List Bool} (hreach : t.reach 0 path = some i)
    (hchild : t.child i bit = none) (rest : List Bool) : t.infoAt (path ++ bit :: rest) = none := by
  rw [infoAt, reach_append, hreach, Option.bind_some, reach, hchild]
  rfl

/-- The walk of `lookup` finds the longest continuation of its path that the trie holds. -/
theorem walk_eq {path : List Bool} (hreach : t.reach 0 path = some i) (best : Option UInt32)
    (bits : List Bool) :
    t.walk i best bits =
      (bits.inits.tail.reverse.findSome? fun rest => t.infoAt (path ++ rest)).or best := by
  induction bits generalizing i path best with
  | nil => rfl
  | cons bit bits ih =>
    have htail : (bit :: bits).inits.tail.reverse =
        (bits.inits.tail.reverse.map fun rest => bit :: rest) ++ [[bit]] := by
      calc (bit :: bits).inits.tail.reverse
          = (bits.inits.map fun rest => bit :: rest).reverse := by rw [List.inits_cons, List.tail_cons]
        _ = (([] :: bits.inits.tail).map fun rest => bit :: rest).reverse := by rw [← inits_eq]
        _ = (bits.inits.tail.reverse.map fun rest => bit :: rest) ++ [[bit]] := by
          rw [List.map_cons, List.reverse_cons, List.map_reverse]
    rw [htail, List.findSome?_append, List.findSome?_map, walk]
    cases hc : (t.node i).children bit with
    | some c =>
      have hnext := reach_child hreach hc
      have hinfo : t.infoAt (path ++ [bit]) = (t.node c.toNat).info := by
        rw [infoAt, hnext, Option.bind_some]
      have hrest : (fun rest => t.infoAt (path ++ [bit] ++ rest)) =
          (fun rest => t.infoAt (path ++ rest)) ∘ fun rest => bit :: rest := by
        funext rest
        rw [Function.comp_apply, List.append_cons path bit rest]
      dsimp only
      rw [ih hnext, hrest, List.findSome?_singleton, hinfo, Option.or_assoc]
    | none =>
      have hchild : t.child i bit = none := by rw [child, hc, Option.map_none]
      have hbelow : bits.inits.tail.reverse.findSome?
          ((fun rest => t.infoAt (path ++ rest)) ∘ fun rest => bit :: rest) = none :=
        List.findSome?_eq_none_iff.mpr fun rest _ => infoAt_of_no_child hreach hchild rest
      have hhere : t.infoAt (path ++ [bit]) = none := infoAt_of_no_child hreach hchild []
      rw [hbelow, List.findSome?_singleton, hhere, Option.none_or, Option.none_or]

/-- **Lookup:** the index at the longest beginning of the address's bits that the trie holds. -/
theorem lookup_eq_findSome? (bits : BitVec 128) (len : ℕ) :
    t.lookup bits len = (bitPath bits len).inits.reverse.findSome? t.infoAt := by
  have hroot : t.infoAt [] = (t.node 0).info := rfl
  calc t.lookup bits len
      = ((bitPath bits len).inits.tail.reverse.findSome? fun rest => t.infoAt ([] ++ rest)).or
          (t.node 0).info := walk_eq rfl _ _
    _ = ((bitPath bits len).inits.tail.reverse ++ [[]]).findSome? t.infoAt := by
      rw [List.findSome?_append, List.findSome?_singleton, hroot]
      rfl
    _ = (bitPath bits len).inits.reverse.findSome? t.infoAt := by
      rw [← List.reverse_cons, ← inits_eq]

/-! ## The indices in the nodes -/

/-- The walk of `insert` writes no index. -/
theorem info_descend (t : PrefixTrie) (i : ℕ) (bits : List Bool) (k : ℕ) :
    ((t.descend i bits).1.node k).info = (t.node k).info := by
  induction bits generalizing t i with
  | nil => rfl
  | cons bit bits ih =>
    cases hc : (t.node i).children bit with
    | some c =>
      rw [descend_of_child hc]
      exact ih t c.toNat
    | none =>
      rw [descend_of_no_child hc, ih, info_grow]

/-- An index in a node after an insertion was there before, or is the one inserted. -/
theorem info_insert (t : PrefixTrie) (bits : BitVec 128) (len : ℕ) (idx : UInt32) {k : ℕ} {idx' : UInt32}
    (h : ((t.insert bits len idx).node k).info = some idx') : (t.node k).info = some idx' ∨ idx' = idx := by
  rw [← info_descend t 0 (bitPath bits len) k]
  unfold insert at h
  dsimp only at h
  split_ifs at h
  · unfold node at h ⊢
    rw [List.getD_eq_getElem?_getD, List.getElem?_modify] at h
    rw [List.getD_eq_getElem?_getD]
    cases hk : (t.descend 0 (bitPath bits len)).1.nodes[k]? with
    | none =>
      rw [hk] at h
      split_ifs at h <;> cases h
    | some n =>
      rw [hk] at h
      split_ifs at h
      · exact .inr (Option.some.inj h).symm
      · exact .inl h
  · exact .inl h

/-- A walk returns an index of the trie, or the one that it began with. -/
theorem walk_mem (t : PrefixTrie) (i : ℕ) (best : Option UInt32) (bits : List Bool) {idx : UInt32}
    (h : t.walk i best bits = some idx) : best = some idx ∨ ∃ k, (t.node k).info = some idx := by
  induction bits generalizing i best with
  | nil => exact .inl h
  | cons bit bits ih =>
    rw [walk] at h
    cases hc : (t.node i).children bit with
    | none =>
      rw [hc] at h
      exact .inl h
    | some c =>
      rw [hc] at h
      obtain hbest | hnode := ih c.toNat _ h
      · obtain hinfo | ⟨-, hold⟩ := Option.or_eq_some_iff.mp hbest
        · exact .inr ⟨c.toNat, hinfo⟩
        · exact .inl hold
      · exact .inr hnode

/-- A lookup returns an index in a node. -/
theorem lookup_mem (t : PrefixTrie) (bits : BitVec 128) (len : ℕ) {idx : UInt32}
    (h : t.lookup bits len = some idx) : ∃ k, (t.node k).info = some idx := by
  obtain hroot | hnode := t.walk_mem 0 _ _ h
  · exact ⟨0, hroot⟩
  · exact hnode

/-! ## A new trie -/

/-- A new trie holds nothing. -/
theorem infoAt_new (path : List Bool) : PrefixTrie.new.infoAt path = none := by
  cases path with
  | nil => rfl
  | cons bit path => rfl

/-- A new trie has no child. -/
theorem child_new (i : ℕ) (bit : Bool) : PrefixTrie.new.child i bit = none := by
  cases i with
  | zero => rfl
  | succ i => exact child_of_length_le (Nat.le_add_left 1 i) bit

/-- A new trie is well formed. -/
theorem wellFormed_new : PrefixTrie.new.WellFormed where
  root := Nat.zero_lt_one
  child_pos := by
    intro i bit j h
    rw [child_new] at h
    cases h
  child_lt := by
    intro i bit j h
    rw [child_new] at h
    cases h
  child_inj := by
    intro i bit i' bit' j h _
    rw [child_new] at h
    cases h

end PrefixTrie

end Ttl
