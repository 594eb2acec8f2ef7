import Ttl.Lib.Batches
import Ttl.Lib.Collections
import Ttl.State.Types

/-!
# Targets on the command line

`resolve_target`, `resolve_all_ips` and `resolve_targets` (`src/main.rs`), on what the resolver says of each target.
`resolve_targets` keeps the addresses in the order in which they are first seen, with the names that lead to them in a
hash map that it empties as it goes. `resolveTargets_spec` is what comes of it, in terms of the list of all names and
addresses alone: it takes no address out twice, so that its `unwrap` and its index never panic.
-/

namespace Ttl

/-- A target on the command line, with what the standard library makes of it. -/
structure HostArg where
  text : List Char
  /-- `parse::<IpAddr>`. -/
  parsed : Option IpAddr
  /-- `to_socket_addrs`, with the text of its error. -/
  addrs : Except (List Char) (List IpAddr)

/-- Why a target is not resolved. -/
inductive ResolveError where
  | lookup (msg : List Char)
  | noAddressesForHostname
  | noAddressesForHostnames
  /-- `No {} addresses found`, of a hostname. -/
  | noneForHostname (ipv6 : Bool)
  /-- `No {} addresses found for targets`. -/
  | noneForTargets (family : Option Bool)
  | panic
deriving DecidableEq

/-- A target of `ResolveResult`. -/
structure ResolvedTarget where
  ip : IpAddr
  primary : List Char
  aliases : List (List Char)
deriving DecidableEq

/-- `ResolveResult`. -/
structure ResolveResult where
  targets : List ResolvedTarget
  skipped_ipv4 : ℕ
  skipped_ipv6 : ℕ
deriving DecidableEq

namespace HostArg

/-- `to_socket_addrs`, which must find an address. -/
def socketAddrs (host : HostArg) : Except ResolveError (List IpAddr) :=
  match host.addrs with
  | .error msg => .error (.lookup msg)
  | .ok [] => .error .noAddressesForHostname
  | .ok addrs => .ok addrs

/-- `resolve_target`. An address is taken as it is, whichever family is forced. -/
def resolveTarget (host : HostArg) (force_ipv4 force_ipv6 : Bool) : Except ResolveError IpAddr :=
  match host.parsed with
  | some ip => .ok ip
  | none => do
    let addrs ← host.socketAddrs
    match addrs.filter fun ip => if force_ipv4 then ! ip.isIpv6 else if force_ipv6 then ip.isIpv6 else true with
    | [] => .error (.noneForHostname (! force_ipv4))
    | ip :: _ => .ok ip

/-- `resolve_all_ips`. -/
def resolveAllIps (host : HostArg) : Except ResolveError (List IpAddr) :=
  match host.parsed with
  | some ip => .ok [ip]
  | none => host.socketAddrs

/-- The addresses of a target in `resolve_targets`. -/
def ips (host : HostArg) (resolve_all force_ipv4 force_ipv6 : Bool) : Except ResolveError (List IpAddr) :=
  if resolve_all then host.resolveAllIps else (host.resolveTarget force_ipv4 force_ipv6).map fun ip => [ip]

end HostArg

namespace Resolve

/-- What the first loop of `resolve_targets` keeps. -/
structure Found where
  order : List IpAddr
  seen : List IpAddr
  ip_to_hostnames : KeyMap IpAddr (List (List Char))

/-- An address of a target. -/
def Found.add (found : Found) (target_str : List Char) (ip : IpAddr) : Found where
  order := if ip ∈ found.seen then found.order else found.order ++ [ip]
  seen := if ip ∈ found.seen then found.seen else ip :: found.seen
  ip_to_hostnames := KeyMap.upsert found.ip_to_hostnames ip [] fun names => names ++ [target_str]

/-- The first loop. -/
def collect (resolve_all force_ipv4 force_ipv6 : Bool) : Found → List HostArg → Except ResolveError Found
  | found, [] => .ok found
  | found, host :: hosts => do
    let ips ← host.ips resolve_all force_ipv4 force_ipv6
    collect resolve_all force_ipv4 force_ipv6 (ips.foldl (fun found ip => found.add host.text ip) found) hosts

/-- `filter_family`: the family to keep, none for both. -/
def filterFamily (resolve_all force_ipv4 force_ipv6 : Bool) (first : IpAddr) : Option Bool :=
  if resolve_all && ! force_ipv4 && ! force_ipv6 then none
  else if force_ipv6 then some true
  else if force_ipv4 then some false
  else some first.isIpv6

/-- The address is of a family to keep. -/
def keeps (family : Option Bool) (ip : IpAddr) : Bool :=
  match family with
  | none => true
  | some ipv6 => ip.isIpv6 == ipv6

/-- The second loop, which takes the names out of the map. -/
def select (family : Option Bool) :
    KeyMap IpAddr (List (List Char)) → ResolveResult → List IpAddr → Except ResolveError ResolveResult
  | _, result, [] => .ok result
  | names, result, ip :: order =>
    if keeps family ip then
      match names.lookup ip with
      -- `hostnames[0]`.
      | some (primary :: aliases) =>
        select family (names.erase ip) { result with targets := result.targets ++ [⟨ip, primary, aliases⟩] } order
      | some [] => .error .panic
      -- `unwrap`.
      | none => .error .panic
    else if ip.isIpv6 then select family names { result with skipped_ipv6 := result.skipped_ipv6 + 1 } order
    else select family names { result with skipped_ipv4 := result.skipped_ipv4 + 1 } order

/-- `resolve_targets`. -/
def resolveTargets (hosts : List HostArg) (resolve_all force_ipv4 force_ipv6 : Bool) :
    Except ResolveError ResolveResult :=
  match collect resolve_all force_ipv4 force_ipv6 ⟨[], [], ∅⟩ hosts with
  | .error e => .error e
  | .ok found =>
    match found.order with
    | [] => .error .noAddressesForHostnames
    | first :: _ =>
      let family := filterFamily resolve_all force_ipv4 force_ipv6 first
      match select family found.ip_to_hostnames ⟨[], 0, 0⟩ found.order with
      | .error e => .error e
      | .ok result => if result.targets = [] then .error (.noneForTargets family) else .ok result

/-! ## What is resolved -/

/-- Every name with each of its addresses, in order. -/
def named (resolve_all force_ipv4 force_ipv6 : Bool) :
    List HostArg → Except ResolveError (List (List Char × IpAddr))
  | [] => .ok []
  | host :: hosts => do
    let ips ← host.ips resolve_all force_ipv4 force_ipv6
    let rest ← named resolve_all force_ipv4 force_ipv6 hosts
    .ok (ips.map (fun ip => (host.text, ip)) ++ rest)

/-- The addresses, each where it comes first. -/
def addresses (pairs : List (List Char × IpAddr)) : List IpAddr := (pairs.map Prod.snd).eraseDups

/-- The names that lead to an address, in order. -/
def namesOf (pairs : List (List Char × IpAddr)) (ip : IpAddr) : List (List Char) :=
  (pairs.filter fun p => p.2 = ip).map Prod.fst

/-- The target of an address: the first name that leads to it, and the others. -/
def targetOf (pairs : List (List Char × IpAddr)) (ip : IpAddr) : ResolvedTarget :=
  ⟨ip, (namesOf pairs ip).headD [], (namesOf pairs ip).tail⟩

/-- What the second loop makes of the addresses. -/
def resultOf (family : Option Bool) (pairs : List (List Char × IpAddr)) (order : List IpAddr) : ResolveResult where
  targets := (order.filter (keeps family)).map (targetOf pairs)
  skipped_ipv4 := order.countP fun ip => ! keeps family ip && ! ip.isIpv6
  skipped_ipv6 := order.countP fun ip => ! keeps family ip && ip.isIpv6

/-! ## The first loop -/

/-- What was found is what the pairs so far lead to. -/
structure Found.Of (found : Found) (pairs : List (List Char × IpAddr)) : Prop where
  order : found.order = addresses pairs
  seen : ∀ ip, ip ∈ found.seen ↔ ip ∈ pairs.map Prod.snd
  names : ∀ ip, (found.ip_to_hostnames.lookup ip).getD [] = namesOf pairs ip

variable {found : Found} {pairs : List (List Char × IpAddr)}

/-- One more address. -/
theorem Found.Of.add (h : found.Of pairs) (target_str : List Char) (ip : IpAddr) :
    (found.add target_str ip).Of (pairs ++ [(target_str, ip)]) := by
  have hmap : (pairs ++ [(target_str, ip)]).map Prod.snd = pairs.map Prod.snd ++ [ip] := List.map_append
  constructor
  · rw [addresses, hmap, Batches.eraseDups_concat, ← addresses, ← h.order]
    exact if_congr (h.seen ip) rfl rfl
  · intro a
    rw [hmap, List.mem_append, List.mem_singleton, ← h.seen a, Found.add]
    dsimp only
    split_ifs with hseen
    · exact ⟨.inl, fun ha => ha.elim id fun heq => heq ▸ hseen⟩
    · rw [List.mem_cons, or_comm]
  · intro a
    rw [namesOf, List.filter_append, List.map_append, ← namesOf, ← h.names a, Found.add]
    dsimp only
    rw [KeyMap.lookup_upsert]
    by_cases ha : a = ip
    · have hlast : [(target_str, ip)].filter (fun p => decide (p.2 = a)) = [(target_str, ip)] := by simp [ha]
      rw [if_pos ha, hlast, ha]
      rfl
    · have hlast : [(target_str, ip)].filter (fun p => decide (p.2 = a)) = [] := by simp [Ne.symm ha]
      rw [if_neg ha, hlast, List.map_nil, List.append_nil]

/-- The addresses of one target. -/
theorem Found.Of.foldl (h : found.Of pairs) (target_str : List Char) (ips : List IpAddr) :
    (ips.foldl (fun found ip => found.add target_str ip) found).Of (pairs ++ ips.map fun ip => (target_str, ip)) := by
  induction ips generalizing found pairs with
  | nil =>
    rw [List.map_nil, List.append_nil]
    exact h
  | cons ip ips ih =>
    have hnext := ih (h.add target_str ip)
    rwa [List.append_assoc] at hnext

/-- Nothing is found before the first host. -/
theorem found_empty : Found.Of ⟨[], [], ∅⟩ [] := ⟨rfl, fun _ => Iff.rfl, fun _ => rfl⟩

/-- The first loop finds what the targets lead to, and fails where one of them does. -/
theorem collect_eq (resolve_all force_ipv4 force_ipv6 : Bool) (hosts : List HostArg) (h : found.Of pairs) :
    match named resolve_all force_ipv4 force_ipv6 hosts with
    | .error e => collect resolve_all force_ipv4 force_ipv6 found hosts = .error e
    | .ok more => ∃ found', collect resolve_all force_ipv4 force_ipv6 found hosts = .ok found' ∧
        found'.Of (pairs ++ more) := by
  induction hosts generalizing found pairs with
  | nil =>
    rw [named]
    refine ⟨found, rfl, ?_⟩
    rw [List.append_nil]
    exact h
  | cons host hosts ih =>
    rw [named, collect]
    cases host.ips resolve_all force_ipv4 force_ipv6 with
    | error e => rfl
    | ok ips =>
      have hnext := ih (h.foldl host.text ips)
      change match (named resolve_all force_ipv4 force_ipv6 hosts).bind fun rest =>
          .ok (ips.map (fun ip => (host.text, ip)) ++ rest) with
        | .error e => collect resolve_all force_ipv4 force_ipv6 _ hosts = .error e
        | .ok more => ∃ found', collect resolve_all force_ipv4 force_ipv6 _ hosts = .ok found' ∧
            found'.Of (pairs ++ more)
      cases hnamed : named resolve_all force_ipv4 force_ipv6 hosts with
      | error e =>
        rw [hnamed] at hnext
        exact hnext
      | ok rest =>
        rw [hnamed] at hnext
        obtain ⟨found', hfound, hof⟩ := hnext
        refine ⟨found', hfound, ?_⟩
        rwa [← List.append_assoc]

/-! ## The second loop -/

/-- The second loop finds the names of each address in the map, and takes them out for no later one. -/
theorem select_eq (family : Option Bool) (pairs : List (List Char × IpAddr)) {names : KeyMap IpAddr (List (List Char))}
    {order : List IpAddr} (hnodup : order.Nodup)
    (hnames : ∀ ip ∈ order, names.lookup ip = some (namesOf pairs ip) ∧ namesOf pairs ip ≠ []) (result : ResolveResult) :
    select family names result order = .ok
      { targets := result.targets ++ (resultOf family pairs order).targets
        skipped_ipv4 := result.skipped_ipv4 + (resultOf family pairs order).skipped_ipv4
        skipped_ipv6 := result.skipped_ipv6 + (resultOf family pairs order).skipped_ipv6 } := by
  induction order generalizing names result with
  | nil =>
    rw [select, resultOf, List.filter_nil, List.map_nil, List.append_nil, List.countP_nil]
    rfl
  | cons ip order ih =>
    obtain ⟨hfresh, hnodup⟩ := List.nodup_cons.mp hnodup
    obtain ⟨hlookup, hne⟩ := hnames ip List.mem_cons_self
    have hrest : ∀ a ∈ order, names.lookup a = some (namesOf pairs a) ∧ namesOf pairs a ≠ [] :=
      fun a ha => hnames a (List.mem_cons_of_mem ip ha)
    rw [select]
    cases hkeeps : keeps family ip with
    | true =>
      obtain ⟨primary, aliases, heq⟩ := List.exists_cons_of_ne_nil hne
      -- The names of the others are still in the map.
      have herased : ∀ a ∈ order, (names.erase ip).lookup a = some (namesOf pairs a) ∧ namesOf pairs a ≠ [] := by
        intro a ha
        rw [KeyMap.lookup_erase, if_neg fun hai : a = ip => hfresh (hai ▸ ha)]
        exact hrest a ha
      rw [if_pos rfl, hlookup, heq]
      dsimp only
      rw [ih hnodup herased]
      have htarget : targetOf pairs ip = ⟨ip, primary, aliases⟩ := by
        rw [targetOf, heq]
        rfl
      simp [resultOf, hkeeps, htarget]
    | false =>
      rw [if_neg Bool.false_ne_true]
      cases hfamily : ip.isIpv6 with
      | true =>
        rw [if_pos rfl, ih hnodup hrest]
        simp [resultOf, hkeeps, hfamily, Nat.add_assoc, Nat.add_comm]
      | false =>
        rw [if_neg Bool.false_ne_true, ih hnodup hrest]
        simp [resultOf, hkeeps, hfamily, Nat.add_assoc, Nat.add_comm]

/-! ## The result -/

/-- What the targets are resolved to: the first error of the resolver, or the addresses of the families to keep, each
once, where it comes first, with all the names that lead to it. -/
def resolved (hosts : List HostArg) (resolve_all force_ipv4 force_ipv6 : Bool) : Except ResolveError ResolveResult :=
  match named resolve_all force_ipv4 force_ipv6 hosts with
  | .error e => .error e
  | .ok pairs =>
    match addresses pairs with
    | [] => .error .noAddressesForHostnames
    | first :: rest =>
      let family := filterFamily resolve_all force_ipv4 force_ipv6 first
      if (first :: rest).filter (keeps family) = [] then .error (.noneForTargets family)
      else .ok (resultOf family pairs (first :: rest))

/-- Every address has a name. -/
theorem namesOf_ne_nil {ip : IpAddr} (hip : ip ∈ addresses pairs) : namesOf pairs ip ≠ [] := by
  rw [addresses, List.mem_eraseDups, List.mem_map] at hip
  obtain ⟨p, hp, rfl⟩ := hip
  have hmem : p ∈ pairs.filter fun q => q.2 = p.2 := List.mem_filter.mpr ⟨hp, decide_eq_true rfl⟩
  rw [namesOf, Ne, List.map_eq_nil_iff]
  exact List.ne_nil_of_mem hmem

/-- The map has the names of every address. -/
theorem Found.Of.lookup (h : found.Of pairs) {ip : IpAddr} (hip : ip ∈ addresses pairs) :
    found.ip_to_hostnames.lookup ip = some (namesOf pairs ip) ∧ namesOf pairs ip ≠ [] := by
  have hne := namesOf_ne_nil hip
  have hnames := h.names ip
  cases hlookup : found.ip_to_hostnames.lookup ip with
  | none =>
    rw [hlookup, Option.getD_none] at hnames
    exact absurd hnames.symm hne
  | some names =>
    rw [hlookup, Option.getD_some] at hnames
    exact ⟨congrArg some hnames, hne⟩

/-- The two loops compute the resolution. -/
theorem resolveTargets_eq (hosts : List HostArg) (resolve_all force_ipv4 force_ipv6 : Bool) :
    resolveTargets hosts resolve_all force_ipv4 force_ipv6 = resolved hosts resolve_all force_ipv4 force_ipv6 := by
  have hcollect := collect_eq resolve_all force_ipv4 force_ipv6 hosts found_empty
  rw [resolveTargets, resolved]
  cases hnamed : named resolve_all force_ipv4 force_ipv6 hosts with
  | error e =>
    rw [hnamed] at hcollect
    dsimp only at hcollect ⊢
    rw [hcollect]
  | ok pairs =>
    rw [hnamed] at hcollect
    obtain ⟨found, hfound, hof⟩ := hcollect
    rw [List.nil_append] at hof
    rw [hfound]
    dsimp only
    rw [hof.order]
    cases haddresses : addresses pairs with
    | nil => rfl
    | cons first rest =>
      have hnodup : (first :: rest).Nodup := by
        rw [← haddresses]
        exact Batches.nodup_eraseDups _
      have hnames : ∀ ip ∈ first :: rest,
          found.ip_to_hostnames.lookup ip = some (namesOf pairs ip) ∧ namesOf pairs ip ≠ [] :=
        fun ip hip => hof.lookup (haddresses ▸ hip)
      dsimp only
      rw [select_eq _ pairs hnodup hnames]
      simp [resultOf]

/-- No address is a target twice. -/
theorem nodup_resolveTargets {hosts : List HostArg} {resolve_all force_ipv4 force_ipv6 : Bool} {result : ResolveResult}
    (h : resolveTargets hosts resolve_all force_ipv4 force_ipv6 = .ok result) :
    (result.targets.map ResolvedTarget.ip).Nodup := by
  rw [resolveTargets_eq, resolved] at h
  split at h
  · cases h
  · next pairs _ =>
    split at h
    · cases h
    · next first rest haddresses =>
      dsimp only at h
      split_ifs at h
      cases h
      have hnodup : (addresses pairs).Nodup := Batches.nodup_eraseDups _
      rw [resultOf, List.map_map, ← haddresses]
      exact ((hnodup.filter _).map_on fun _ _ _ _ heq => heq)

/-- A resolver does not panic. -/
theorem socketAddrs_ne_panic (host : HostArg) : host.socketAddrs ≠ .error .panic := by
  unfold HostArg.socketAddrs
  split <;> exact nofun

/-- The resolution of a host does not panic. -/
theorem resolveTarget_ne_panic (host : HostArg) (force_ipv4 force_ipv6 : Bool) :
    host.resolveTarget force_ipv4 force_ipv6 ≠ .error .panic := by
  have hsocket := socketAddrs_ne_panic host
  unfold HostArg.resolveTarget
  cases host.parsed with
  | some ip => exact nofun
  | none =>
    dsimp only
    cases hresult : host.socketAddrs with
    | error e =>
      rw [hresult] at hsocket
      intro heq
      cases heq
      exact hsocket rfl
    | ok addrs =>
      change (match addrs.filter _ with
        | [] => Except.error (ResolveError.noneForHostname (! force_ipv4))
        | ip :: _ => Except.ok ip) ≠ _
      split <;> exact nofun

/-- A target is resolved without a panic. -/
theorem ips_ne_panic (host : HostArg) (resolve_all force_ipv4 force_ipv6 : Bool) :
    host.ips resolve_all force_ipv4 force_ipv6 ≠ .error .panic := by
  unfold HostArg.ips
  cases resolve_all with
  | true =>
    rw [if_pos rfl]
    unfold HostArg.resolveAllIps
    cases host.parsed with
    | some ip => exact nofun
    | none => exact socketAddrs_ne_panic host
  | false =>
    rw [if_neg Bool.false_ne_true]
    have htarget := resolveTarget_ne_panic host force_ipv4 force_ipv6
    cases hresult : host.resolveTarget force_ipv4 force_ipv6 with
    | error e =>
      rw [hresult] at htarget
      intro heq
      cases heq
      exact htarget rfl
    | ok ip => exact nofun

/-- All hosts are resolved without a panic. -/
theorem named_ne_panic (resolve_all force_ipv4 force_ipv6 : Bool) (hosts : List HostArg) :
    named resolve_all force_ipv4 force_ipv6 hosts ≠ .error .panic := by
  induction hosts with
  | nil => exact nofun
  | cons host hosts ih =>
    have hhost := ips_ne_panic host resolve_all force_ipv4 force_ipv6
    rw [named]
    cases hips : host.ips resolve_all force_ipv4 force_ipv6 with
    | error e =>
      intro heq
      rw [hips] at hhost
      cases heq
      exact hhost rfl
    | ok ips =>
      cases hnamed : named resolve_all force_ipv4 force_ipv6 hosts with
      | error e =>
        intro heq
        rw [hnamed] at ih
        cases heq
        exact ih rfl
      | ok rest => exact nofun

/-- What is kept and what is skipped are all the addresses. -/
theorem length_resultOf (family : Option Bool) (pairs : List (List Char × IpAddr)) (order : List IpAddr) :
    (resultOf family pairs order).targets.length + (resultOf family pairs order).skipped_ipv4 +
      (resultOf family pairs order).skipped_ipv6 = order.length := by
  rw [resultOf, List.length_map]
  dsimp only
  induction order with
  | nil => rfl
  | cons ip order ih =>
    rw [List.length_cons, ← ih, List.filter_cons, List.countP_cons, List.countP_cons]
    cases keeps family ip <;> cases ip.isIpv6 <;> simp <;> omega

/-- **Every address that is found is a target once, or skipped**: the targets are the addresses of the families to keep,
in the order in which they first come up, each with all the names that lead to it, the others are counted, and whatever
the resolver says, nothing panics. -/
theorem resolveTargets_spec (hosts : List HostArg) (resolve_all force_ipv4 force_ipv6 : Bool) :
    match resolveTargets hosts resolve_all force_ipv4 force_ipv6 with
    | .ok result => ∃ pairs first rest, named resolve_all force_ipv4 force_ipv6 hosts = .ok pairs ∧
        addresses pairs = first :: rest ∧ result.targets ≠ [] ∧
        result.targets.map ResolvedTarget.ip =
          (first :: rest).filter (keeps (filterFamily resolve_all force_ipv4 force_ipv6 first)) ∧
        (∀ target ∈ result.targets, target.primary :: target.aliases = namesOf pairs target.ip) ∧
        result.targets.length + result.skipped_ipv4 + result.skipped_ipv6 = (first :: rest).length
    | .error e => e ≠ .panic := by
  rw [resolveTargets_eq, resolved]
  cases hnamed : named resolve_all force_ipv4 force_ipv6 hosts with
  | error e => exact fun heq => named_ne_panic resolve_all force_ipv4 force_ipv6 hosts (heq ▸ hnamed)
  | ok pairs =>
    dsimp only
    cases haddresses : addresses pairs with
    | nil => exact nofun
    | cons first rest =>
      dsimp only
      split_ifs with hnone
      · exact nofun
      · refine ⟨pairs, first, rest, rfl, haddresses, ?_, ?_, fun target htarget => ?_, length_resultOf _ pairs _⟩
        · rw [resultOf, Ne, List.map_eq_nil_iff]
          exact hnone
        · rw [resultOf, List.map_map]
          exact List.map_id _
        · obtain ⟨ip, hip, rfl⟩ := List.mem_map.mp htarget
          have hmem : ip ∈ addresses pairs := haddresses ▸ (List.mem_filter.mp hip).1
          obtain ⟨name, names, hnames⟩ := List.exists_cons_of_ne_nil (namesOf_ne_nil hmem)
          rw [targetOf, hnames]
          rfl

end Resolve

end Ttl
