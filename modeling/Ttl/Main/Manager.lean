import Ttl.Main.Resolve
import Ttl.State.Addresses
import Ttl.State.Session
import Ttl.Tui.AddTarget

/-!
# Engines and receivers

What `main` starts for its targets and `run_target_manager` for those that are added later (`src/main.rs`): a session
and an engine for each, and a receiver for each family. The flows that an engine probes and a receiver expects come
from one attempt to open a socket for the family. `covered_run` says what holds after any sequence of requests: every
session has one engine, its family has one receiver, and all three have the same flows.
-/

namespace Ttl

/-- `InterfaceInfo`, as far as the families are checked against it. -/
structure InterfaceInfo where
  name : List Char
  ipv4 : Option Ipv4Addr
  ipv6 : Option Ipv6Addr

namespace Manager

/-- `Config`, as far as targets are started from it. -/
structure Base where
  flows : UInt8
  /-- None for `Auto`. -/
  protocol : Option ProbeProtocol
  source_ip : Option IpAddr
deriving DecidableEq

/-- A session, as far as it is set up here. -/
structure TargetSession where
  /-- `Target::original`. -/
  original : List Char
  aliases : List (List Char)
  /-- `config.flows`. -/
  flows : UInt8
deriving DecidableEq

/-- The flows in effect for the two families, once they are known. -/
structure FlowCache where
  v4 : Option UInt8
  v6 : Option UInt8
deriving DecidableEq

namespace FlowCache

/-- Those of a family. -/
def get (cache : FlowCache) (ipv6 : Bool) : Option UInt8 := if ipv6 then cache.v6 else cache.v4

/-- `*cached = Some(flows)`. -/
def set (cache : FlowCache) (ipv6 : Bool) (flows : UInt8) : FlowCache :=
  if ipv6 then { cache with v6 := some flows } else { cache with v4 := some flows }

end FlowCache

/-- `effective_flow_count_for_family`, where `socket` says whether a send socket for the family opens. -/
def effectiveFlowCountForFamily (config : Base) (socket : Bool) : UInt8 :=
  if config.flows ≤ 1 then config.flows
  else
    match config.protocol with
    | some .Icmp => 1
    | none => if socket then 1 else config.flows
    | some .Udp => config.flows
    | some .Tcp => config.flows

/-- `effective_flow_count_for_ip_cached`. The socket is tried where the cache is empty. -/
def effectiveFlowCountForIpCached (config : Base) (ip : IpAddr) (socket : Bool) (cache : FlowCache) :
    UInt8 × FlowCache :=
  match cache.get ip.isIpv6 with
  | some flows => (flows, cache)
  | none =>
    let flows := effectiveFlowCountForFamily config socket
    (flows, cache.set ip.isIpv6 flows)

/-! ## The start -/

/-- What `main` collects of the targets. -/
structure Startup where
  sessions : KeyMap IpAddr TargetSession
  targets : List IpAddr
  cache : FlowCache

/-- A target gets a session. -/
def Startup.addTarget (config : Base) (s : Startup) (target : ResolvedTarget) (socket : Bool) : Startup :=
  let (flows, cache) := effectiveFlowCountForIpCached config target.ip socket s.cache
  { sessions := s.sessions.insert target.ip ⟨target.primary, target.aliases, flows⟩
    targets := s.targets ++ [target.ip]
    cache := cache }

/-- The targets of `--resolve-all`. -/
def Startup.addAll (config : Base) (socket : IpAddr → Bool) (s : Startup) (targets : List ResolvedTarget) : Startup :=
  targets.foldl (fun s target => s.addTarget config target (socket target.ip)) s

/-- The targets one by one, without duplicates. -/
def Startup.addEach (config : Base) (socket : IpAddr → Bool) (force_ipv4 force_ipv6 : Bool) :
    Startup → List HostArg → Except ResolveError Startup
  | s, [] => .ok s
  | s, host :: hosts =>
    match host.resolveTarget force_ipv4 force_ipv6 with
    | .error e => .error e
    | .ok ip =>
      if (s.sessions.lookup ip).isSome then addEach config socket force_ipv4 force_ipv6 s hosts
      else addEach config socket force_ipv4 force_ipv6 (s.addTarget config ⟨ip, host.text, []⟩ (socket ip)) hosts

/-- Why nothing is started. -/
inductive StartError where
  | resolve (e : ResolveError)
  | noValidTargets
  | interfaceWithoutIpv6
  | interfaceWithoutIpv4
  | sourceIpWithBothFamilies
  | sourceIpOfOtherFamily

/-- A target of the family is there. -/
def hasFamily (targets : List IpAddr) (ipv6 : Bool) : Bool := targets.any fun t => t.isIpv6 == ipv6

/-- The checks of the interface and of the source address against the families. -/
def checkFamilies (config : Base) (interface : Option InterfaceInfo) (targets : List IpAddr) : Except StartError Unit :=
  let has_ipv4 := hasFamily targets false
  let has_ipv6 := hasFamily targets true
  let mixed := has_ipv4 && has_ipv6
  let ipv6 := ! has_ipv4 && has_ipv6
  if interface.any fun info => has_ipv6 && info.ipv6.isNone && ! mixed then .error .interfaceWithoutIpv6
  else if interface.any fun info => has_ipv4 && info.ipv4.isNone && ! mixed then .error .interfaceWithoutIpv4
  else
    match config.source_ip with
    | some source_ip =>
      if targets = [] then .ok ()
      else if mixed then .error .sourceIpWithBothFamilies
      else if source_ip.isIpv6 ≠ ipv6 then .error .sourceIpOfOtherFamily
      else .ok ()
    | none => .ok ()

/-- What is traced, and what the target manager knows. -/
structure Tracing where
  sessions : KeyMap IpAddr TargetSession
  /-- The engines that were spawned, with their flows. -/
  engines : List (IpAddr × UInt8)
  /-- The families of the receivers that were spawned, with their flows. -/
  receivers : List (Bool × UInt8)
  has_v4_receiver : Bool
  has_v6_receiver : Bool
  effective_flows : FlowCache

/-- `session_effective_flows_for_family`. -/
def sessionEffectiveFlowsForFamily (sessions : KeyMap IpAddr TargetSession) (targets : List IpAddr) (ipv6 : Bool)
    (default_flows : UInt8) : UInt8 :=
  (((targets.find? fun t => t.isIpv6 == ipv6).bind fun t => sessions.lookup t).map TargetSession.flows).getD
    default_flows

/-- `spawn_receivers`. -/
def spawnReceivers (config : Base) (s : Startup) : List (Bool × UInt8) :=
  let flows (ipv6 : Bool) := sessionEffectiveFlowsForFamily s.sessions s.targets ipv6 config.flows
  (if hasFamily s.targets false then [(false, flows false)] else []) ++
    if hasFamily s.targets true then [(true, flows true)] else []

/-- The engines of the targets. -/
def spawnEngines (s : Startup) : List (IpAddr × UInt8) :=
  s.targets.filterMap fun t => (s.sessions.lookup t).map fun session => (t, session.flows)

/-- `run_interactive_mode`, as far as it starts the tracing and its manager. -/
def Startup.run (config : Base) (s : Startup) : Tracing where
  sessions := s.sessions
  engines := spawnEngines s
  receivers := spawnReceivers config s
  has_v4_receiver := hasFamily s.targets false
  has_v6_receiver := hasFamily s.targets true
  effective_flows :=
    let flows (ipv6 : Bool) :=
      if hasFamily s.targets ipv6 then
        some (sessionEffectiveFlowsForFamily s.sessions s.targets ipv6 config.flows)
      else none
    ⟨flows false, flows true⟩

/-- What `main` is called with. -/
structure Call where
  config : Base
  interface : Option InterfaceInfo
  hosts : List HostArg
  resolve_all : Bool
  force_ipv4 : Bool
  force_ipv6 : Bool
  /-- A send socket opens when it is first tried for the family of the address. -/
  socket : IpAddr → Bool

/-- The targets of `main`. -/
def Call.startup (c : Call) : Except ResolveError Startup :=
  if c.resolve_all then
    (Resolve.resolveTargets c.hosts true c.force_ipv4 c.force_ipv6).map fun result =>
      Startup.addAll c.config c.socket ⟨∅, [], ⟨none, none⟩⟩ result.targets
  else Startup.addEach c.config c.socket c.force_ipv4 c.force_ipv6 ⟨∅, [], ⟨none, none⟩⟩ c.hosts

/-- `main`, up to the interactive mode. -/
def Call.start (c : Call) : Except StartError Tracing :=
  match c.startup with
  | .error e => .error (.resolve e)
  | .ok s =>
    if s.targets = [] ∧ c.hosts ≠ [] then .error .noValidTargets
    else
      match checkFamilies c.config c.interface s.targets with
      | .error e => .error e
      | .ok () => .ok (s.run c.config)

/-! ## The target manager -/

/-- The text of an error. -/
def errorText : ResolveError → List Char
  | .lookup msg => msg
  | .noAddressesForHostname => "No addresses found for hostname".toList
  | .noAddressesForHostnames => "No addresses found for hostnames".toList
  | .noneForHostname ipv6 => "No ".toList ++ (if ipv6 then "IPv6" else "IPv4").toList ++ " addresses found".toList
  | .noneForTargets family =>
    "No ".toList ++
      (match family with
        | some true => "IPv6"
        | some false => "IPv4"
        | none => "matching").toList ++
      " addresses found for targets".toList
  | .panic => "Resolver task failed".toList

/-- The family checks of the target manager. -/
def refusal (config : Base) (interface : Option InterfaceInfo) (ip : IpAddr) : Option (List Char) :=
  let ipv6 := ip.isIpv6
  let source : Option (List Char) :=
    match config.source_ip with
    | some source_ip =>
      if source_ip.isIpv6 ≠ ipv6 then
        some ("--source-ip ".toList ++ source_ip.text ++ " does not match target family".toList)
      else none
    | none => none
  match source with
  | some e => some e
  | none =>
    match interface with
    | some info =>
      if ipv6 ∧ info.ipv6.isNone then some ("Interface '".toList ++ info.name ++ "' has no IPv6 address".toList)
      else if ipv6 = false ∧ info.ipv4.isNone then
        some ("Interface '".toList ++ info.name ++ "' has no IPv4 address".toList)
      else none
    | none => none

/-- A request to add a target. -/
structure Request where
  host : HostArg
  /-- A send socket opens when it is tried now. -/
  socket : Bool

/-- The family has a receiver. -/
def Tracing.hasReceiver (s : Tracing) (ipv6 : Bool) : Bool := if ipv6 then s.has_v6_receiver else s.has_v4_receiver

/-- A session, a receiver where the family has none, and an engine. -/
def Tracing.addTarget (config : Base) (s : Tracing) (name : List Char) (ip : IpAddr) (socket : Bool) : Tracing :=
  let ipv6 := ip.isIpv6
  let (flows, cache) := effectiveFlowCountForIpCached config ip socket s.effective_flows
  { sessions := s.sessions.insert ip ⟨name, [], flows⟩
    engines := s.engines ++ [(ip, flows)]
    receivers := if s.hasReceiver ipv6 then s.receivers else s.receivers ++ [(ipv6, (cache.get ipv6).getD 1)]
    has_v4_receiver := s.has_v4_receiver || ! ipv6
    has_v6_receiver := s.has_v6_receiver || ipv6
    effective_flows := cache }

/-- A request of `run_target_manager`, with its reply. -/
def Tracing.handle (c : Call) (s : Tracing) (request : Request) : Tracing × Except (List Char) AddedTarget :=
  match request.host.resolveTarget c.force_ipv4 c.force_ipv6 with
  | .error e => (s, .error (errorText e))
  | .ok ip =>
    if (s.sessions.lookup ip).isSome then (s, .ok ⟨ip, request.host.text, true⟩)
    else
      match refusal c.config c.interface ip with
      | some e => (s, .error e)
      | none => (s.addTarget c.config request.host.text ip request.socket, .ok ⟨ip, request.host.text, false⟩)

/-- The requests, one after another. -/
def Tracing.handleAll (c : Call) (s : Tracing) (requests : List Request) : Tracing :=
  requests.foldl (fun s request => (s.handle c request).1) s

/-! ## Flows -/

/-- What is cached is that of its family. -/
@[simp]
theorem FlowCache.get_set (cache : FlowCache) (ipv6 : Bool) (flows : UInt8) (family : Bool) :
    (cache.set ipv6 flows).get family = if family = ipv6 then some flows else cache.get family := by
  cases ipv6 <;> cases family <;> rfl

variable {config : Base}

/-- What the cache knows stays, and it knows the flows of the target's family. -/
theorem effectiveFlowCountForIpCached_spec (config : Base) (ip : IpAddr) (socket : Bool) (cache : FlowCache) :
    (effectiveFlowCountForIpCached config ip socket cache).2.get ip.isIpv6 =
        some (effectiveFlowCountForIpCached config ip socket cache).1 ∧
      ∀ family flows, cache.get family = some flows →
        (effectiveFlowCountForIpCached config ip socket cache).2.get family = some flows := by
  unfold effectiveFlowCountForIpCached
  cases hcache : cache.get ip.isIpv6 with
  | some flows => exact ⟨hcache, fun _ _ h => h⟩
  | none =>
    dsimp only
    refine ⟨by rw [FlowCache.get_set, if_pos rfl], fun family flows h => ?_⟩
    have hne : family ≠ ip.isIpv6 := by
      rintro rfl
      rw [hcache] at h
      cases h
    rw [FlowCache.get_set, if_neg hne, h]

/-- A count that is asked for leaves that of the other family. -/
theorem effectiveFlowCountForIpCached_other (config : Base) (ip : IpAddr) (socket : Bool) (cache : FlowCache)
    {family : Bool} (h : family ≠ ip.isIpv6) :
    (effectiveFlowCountForIpCached config ip socket cache).2.get family = cache.get family := by
  unfold effectiveFlowCountForIpCached
  cases cache.get ip.isIpv6 with
  | some flows => rfl
  | none => exact (FlowCache.get_set _ _ _ _).trans (if_neg h)

/-! ## After the start -/

/-- The targets have sessions, each with the flows of its family. -/
structure Startup.Ready (s : Startup) : Prop where
  nodup : s.targets.Nodup
  mem : ∀ ip, (s.sessions.lookup ip).isSome ↔ ip ∈ s.targets
  flows : ∀ ip session, s.sessions.lookup ip = some session → s.cache.get ip.isIpv6 = some session.flows

/-- The start-up begins with no targets. -/
theorem ready_empty : Startup.Ready ⟨∅, [], ⟨none, none⟩⟩ :=
  ⟨List.nodup_nil, fun _ => ⟨nofun, nofun⟩, nofun⟩

/-- A new target. -/
theorem Startup.Ready.addTarget {s : Startup} (h : s.Ready) {target : ResolvedTarget} (hnew : target.ip ∉ s.targets)
    (socket : Bool) : (s.addTarget config target socket).Ready := by
  obtain ⟨hget, hkept⟩ := effectiveFlowCountForIpCached_spec config target.ip socket s.cache
  unfold Startup.addTarget
  generalize effectiveFlowCountForIpCached config target.ip socket s.cache = r at hget hkept
  obtain ⟨flows, cache⟩ := r
  constructor
  · exact List.nodup_append.mpr ⟨h.nodup, List.nodup_singleton _, fun a ha b hb heq =>
      hnew (List.mem_singleton.mp hb ▸ heq ▸ ha)⟩
  · intro ip
    dsimp only
    rw [KeyMap.lookup_insert, List.mem_append, List.mem_singleton, ← h.mem ip]
    split_ifs with hip
    · exact ⟨fun _ => .inr hip, fun _ => rfl⟩
    · exact ⟨.inl, fun ha => ha.resolve_right hip⟩
  · intro ip session hlookup
    dsimp only at hlookup ⊢
    rw [KeyMap.lookup_insert] at hlookup
    split_ifs at hlookup with hip
    · cases hlookup
      rw [hip]
      exact hget
    · exact hkept _ _ (h.flows ip session hlookup)

/-- Distinct new targets keep it ready. -/
theorem ready_addAll (socket : IpAddr → Bool) {s : Startup} (h : s.Ready) {targets : List ResolvedTarget}
    (hnodup : (targets.map ResolvedTarget.ip).Nodup) (hnew : ∀ target ∈ targets, target.ip ∉ s.targets) :
    (s.addAll config socket targets).Ready := by
  induction targets generalizing s with
  | nil => exact h
  | cons target targets ih =>
    rw [List.map_cons, List.nodup_cons] at hnodup
    refine ih (h.addTarget (hnew target List.mem_cons_self) (socket target.ip)) hnodup.2 fun t ht => ?_
    change t.ip ∉ s.targets ++ [target.ip]
    rw [List.mem_append, List.mem_singleton, not_or]
    refine ⟨hnew t (List.mem_cons_of_mem _ ht), fun heq => hnodup.1 ?_⟩
    rw [← heq]
    exact List.mem_map_of_mem ht

/-- The targets of each host keep the start-up ready. -/
theorem ready_addEach (socket : IpAddr → Bool) (force_ipv4 force_ipv6 : Bool) (hosts : List HostArg) {s t : Startup}
    (h : s.Ready) (hadd : s.addEach config socket force_ipv4 force_ipv6 hosts = .ok t) : t.Ready := by
  induction hosts generalizing s with
  | nil =>
    cases hadd
    exact h
  | cons host hosts ih =>
    rw [Startup.addEach] at hadd
    split at hadd
    · cases hadd
    · next ip _ =>
      split_ifs at hadd with hknown
      · exact ih h hadd
      · exact ih (h.addTarget (fun hmem => hknown ((h.mem ip).mpr hmem)) (socket ip)) hadd

/-- A start-up that succeeds is ready. -/
theorem ready_startup {c : Call} {s : Startup} (h : c.startup = .ok s) : s.Ready := by
  unfold Call.startup at h
  split_ifs at h
  · cases hresult : Resolve.resolveTargets c.hosts true c.force_ipv4 c.force_ipv6 with
    | error e =>
      rw [hresult] at h
      cases h
    | ok result =>
      rw [hresult] at h
      cases h
      exact ready_addAll c.socket ready_empty (Resolve.nodup_resolveTargets hresult) fun _ _ => List.not_mem_nil
  · exact ready_addEach c.socket c.force_ipv4 c.force_ipv6 c.hosts ready_empty h

/-! ## Every session is covered -/

/-- The start found targets of both families. -/
def Call.mixed (c : Call) : Bool :=
  match c.startup with
  | .ok s => hasFamily s.targets false && hasFamily s.targets true
  | .error _ => false

/-- The interface has an address of the family. -/
def InterfaceInfo.hasAddress (info : InterfaceInfo) (ipv6 : Bool) : Bool :=
  if ipv6 then info.ipv6.isSome else info.ipv4.isSome

/-- Every session has one engine, its family has one receiver, and the three have the same flows. The source address
and the interface fit the family, the interface unless the targets were mixed at the start. -/
structure Covered (c : Call) (s : Tracing) : Prop where
  engines : ∀ ip flows, (ip, flows) ∈ s.engines ↔
    ∃ session, s.sessions.lookup ip = some session ∧ session.flows = flows
  one_engine : (s.engines.map Prod.fst).Nodup
  receivers : ∀ ip session, s.sessions.lookup ip = some session → (ip.isIpv6, session.flows) ∈ s.receivers
  one_receiver : (s.receivers.map Prod.fst).Nodup
  used : ∀ r ∈ s.receivers, ∃ ip, (s.sessions.lookup ip).isSome ∧ ip.isIpv6 = r.1
  source : ∀ source_ip, c.config.source_ip = some source_ip → ∀ ip, (s.sessions.lookup ip).isSome →
    ip.isIpv6 = source_ip.isIpv6
  interface : ∀ info, c.interface = some info → c.mixed = false → ∀ ip, (s.sessions.lookup ip).isSome →
    InterfaceInfo.hasAddress info ip.isIpv6 = true

/-- What the manager knows of the receivers. -/
structure Known (s : Tracing) : Prop where
  has : ∀ family, s.hasReceiver family = true ↔ family ∈ s.receivers.map Prod.fst
  flows : ∀ family flows, s.effective_flows.get family = some flows ↔ (family, flows) ∈ s.receivers

variable {c : Call}

/-- A family is there when a target is of it. -/
theorem hasFamily_iff {targets : List IpAddr} {ipv6 : Bool} :
    hasFamily targets ipv6 = true ↔ ∃ t ∈ targets, t.isIpv6 = ipv6 := by
  rw [hasFamily, List.any_eq_true]
  simp only [beq_iff_eq]

/-- The flows of a family's first target are those of all. -/
theorem Startup.Ready.sessionEffectiveFlows {s : Startup} (h : s.Ready) {ip : IpAddr} {session : TargetSession}
    (hlookup : s.sessions.lookup ip = some session) (default_flows : UInt8) :
    sessionEffectiveFlowsForFamily s.sessions s.targets ip.isIpv6 default_flows = session.flows := by
  have hmem : ip ∈ s.targets := (h.mem ip).mp (Option.isSome_iff_exists.mpr ⟨session, hlookup⟩)
  obtain ⟨t, ht⟩ : ∃ t, s.targets.find? (fun t => t.isIpv6 == ip.isIpv6) = some t := by
    rw [← Option.isSome_iff_exists, List.find?_isSome]
    exact ⟨ip, hmem, beq_self_eq_true _⟩
  obtain ⟨first, hfirst⟩ := Option.isSome_iff_exists.mp ((h.mem t).mpr (List.mem_of_find?_eq_some ht))
  have hfamily : t.isIpv6 = ip.isIpv6 := by simpa using List.find?_some ht
  have hcache := h.flows t first hfirst
  rw [hfamily, h.flows ip session hlookup] at hcache
  rw [sessionEffectiveFlowsForFamily, ht, Option.bind_some, hfirst]
  exact (Option.some.inj hcache).symm

/-- A family with targets has a session. -/
theorem Startup.Ready.exists_session {s : Startup} (h : s.Ready) {ipv6 : Bool}
    (hfamily : hasFamily s.targets ipv6 = true) :
    ∃ ip session, s.sessions.lookup ip = some session ∧ ip.isIpv6 = ipv6 := by
  obtain ⟨ip, hip, heq⟩ := hasFamily_iff.mp hfamily
  obtain ⟨session, hsession⟩ := Option.isSome_iff_exists.mp ((h.mem ip).mpr hip)
  exact ⟨ip, session, hsession, heq⟩

/-- A receiver is spawned for each family of a target, with its number of flows. -/
theorem mem_spawnReceivers (s : Startup) (ipv6 : Bool) (flows : UInt8) :
    (ipv6, flows) ∈ spawnReceivers config s ↔ hasFamily s.targets ipv6 = true ∧
      flows = sessionEffectiveFlowsForFamily s.sessions s.targets ipv6 config.flows := by
  rw [spawnReceivers, List.mem_append]
  cases ipv6 <;> by_cases hv4 : hasFamily s.targets false <;> by_cases hv6 : hasFamily s.targets true <;>
    simp [hv4, hv6]

/-- There is one receiver for each family of a target, and none twice. -/
theorem map_spawnReceivers (s : Startup) : (spawnReceivers config s).map Prod.fst =
    (if hasFamily s.targets false then [false] else []) ++ if hasFamily s.targets true then [true] else [] := by
  rw [spawnReceivers, List.map_append]
  split_ifs <;> rfl

/-- The counts that are cached at the start are those of the sessions. -/
theorem known_run {s : Startup} : Known (s.run config) := by
  constructor
  · intro family
    have hmap : (s.run config).receivers.map Prod.fst = _ := map_spawnReceivers s
    rw [hmap]
    cases family <;> simp [Tracing.hasReceiver, Startup.run]
  · intro family flows
    have hmem := @mem_spawnReceivers config s family flows
    have hflows : (s.run config).effective_flows.get family =
        if hasFamily s.targets family then
          some (sessionEffectiveFlowsForFamily s.sessions s.targets family config.flows)
        else none := by
      cases family <;> rfl
    rw [hflows]
    refine Iff.trans ?_ hmem.symm
    split_ifs with hfamily
    · rw [Option.some.injEq, eq_comm]
      exact ⟨fun h => ⟨hfamily, h⟩, fun h => h.2⟩
    · exact ⟨nofun, fun h => absurd h.1 hfamily⟩

/-- Targets that pass the check have the family of the source address, and one that the interface has. -/
theorem checkFamilies_ok {targets : List IpAddr} {interface : Option InterfaceInfo}
    (h : checkFamilies config interface targets = .ok ()) :
    (∀ source_ip, config.source_ip = some source_ip → ∀ ip ∈ targets, ip.isIpv6 = source_ip.isIpv6) ∧
      ∀ info, interface = some info → (hasFamily targets false && hasFamily targets true) = false →
        ∀ ip ∈ targets, InterfaceInfo.hasAddress info ip.isIpv6 = true := by
  unfold checkFamilies at h
  dsimp only at h
  split at h
  · cases h
  · next hv6 =>
    split at h
    · cases h
    · next hv4 =>
      constructor
      · intro source_ip hsource ip hip
        have hfamily : hasFamily targets ip.isIpv6 = true := hasFamily_iff.mpr ⟨ip, hip, rfl⟩
        rw [hsource] at h
        dsimp only at h
        split_ifs at h with hnil hmixed hother
        · rw [hnil] at hip
          cases hip
        · -- Only one family is there, that of the target.
          rw [not_not] at hother
          rw [hother]
          cases hip : ip.isIpv6 <;> rw [hip] at hfamily <;> rw [hfamily] at hmixed ⊢ <;> simp_all
      · intro info hinterface hmixed ip hip
        have hfamily : hasFamily targets ip.isIpv6 = true := hasFamily_iff.mpr ⟨ip, hip, rfl⟩
        rw [hinterface, hmixed] at hv6 hv4
        unfold InterfaceInfo.hasAddress
        cases hip : ip.isIpv6 with
        | true =>
          rw [hip] at hfamily
          rw [hfamily] at hv6
          simpa [Option.isSome_iff_ne_none] using hv6
        | false =>
          rw [hip] at hfamily
          rw [hfamily] at hv4
          simpa [Option.isSome_iff_ne_none] using hv4

/-- An engine is spawned for each session, with its number of flows. -/
theorem mem_spawnEngines {s : Startup} (h : s.Ready) (ip : IpAddr) (flows : UInt8) :
    (ip, flows) ∈ spawnEngines s ↔ ∃ session, s.sessions.lookup ip = some session ∧ session.flows = flows := by
  rw [spawnEngines, List.mem_filterMap]
  constructor
  · rintro ⟨t, -, ht⟩
    obtain ⟨session, hsession, heq⟩ := Option.map_eq_some_iff.mp ht
    obtain ⟨rfl, rfl⟩ := Prod.mk.inj heq
    exact ⟨session, hsession, rfl⟩
  · rintro ⟨session, hsession, rfl⟩
    refine ⟨ip, (h.mem ip).mp (Option.isSome_iff_exists.mpr ⟨session, hsession⟩), ?_⟩
    rw [hsession]
    rfl

/-- Every target has a session, so each gets an engine. -/
theorem map_spawnEngines {s : Startup} (h : s.Ready) : (spawnEngines s).map Prod.fst = s.targets := by
  have hall : ∀ l : List IpAddr, (∀ t ∈ l, (s.sessions.lookup t).isSome) →
      (l.filterMap fun t => (s.sessions.lookup t).map fun session => (t, session.flows)).map Prod.fst = l := by
    intro l hl
    induction l with
    | nil => rfl
    | cons t l ih =>
      obtain ⟨session, hsession⟩ := Option.isSome_iff_exists.mp (hl t List.mem_cons_self)
      rw [List.filterMap_cons, hsession, Option.map_some, List.map_cons,
        ih fun a ha => hl a (List.mem_cons_of_mem t ha)]
  exact hall s.targets fun t ht => (h.mem t).mpr ht

/-- A start that succeeds covers its targets, and knows their flows. -/
theorem covered_start {s : Tracing} (h : c.start = .ok s) : Covered c s ∧ Known s := by
  unfold Call.start at h
  cases hstartup : c.startup with
  | error e =>
    rw [hstartup] at h
    cases h
  | ok st =>
    rw [hstartup] at h
    dsimp only at h
    split at h
    · cases h
    · cases hcheck : checkFamilies c.config c.interface st.targets with
      | error e =>
        rw [hcheck] at h
        cases h
      | ok u =>
        rw [hcheck] at h
        cases h
        have hready := ready_startup hstartup
        obtain ⟨hsource, hinterface⟩ := checkFamilies_ok hcheck
        refine ⟨⟨mem_spawnEngines hready, ?_, ?_, ?_, ?_, ?_, ?_⟩, known_run⟩
        · have hmap : ((st.run c.config).engines.map Prod.fst) = st.targets := map_spawnEngines hready
          rw [hmap]
          exact hready.nodup
        · intro ip session hlookup
          have hmem : ip ∈ st.targets := (hready.mem ip).mp (Option.isSome_iff_exists.mpr ⟨session, hlookup⟩)
          refine (mem_spawnReceivers st ip.isIpv6 session.flows).mpr ⟨hasFamily_iff.mpr ⟨ip, hmem, rfl⟩, ?_⟩
          exact (hready.sessionEffectiveFlows hlookup c.config.flows).symm
        · have hmap : ((st.run c.config).receivers.map Prod.fst) = _ := map_spawnReceivers st
          rw [hmap]
          split_ifs <;> decide
        · rintro ⟨ipv6, flows⟩ hr
          obtain ⟨hfamily, -⟩ := (mem_spawnReceivers st ipv6 flows).mp hr
          obtain ⟨ip, session, hlookup, heq⟩ := hready.exists_session hfamily
          exact ⟨ip, Option.isSome_iff_exists.mpr ⟨session, hlookup⟩, heq⟩
        · exact fun source_ip hsrc ip hip => hsource source_ip hsrc ip ((hready.mem ip).mp hip)
        · intro info hinfo hmixed ip hip
          rw [Call.mixed, hstartup] at hmixed
          exact hinterface info hinfo hmixed ip ((hready.mem ip).mp hip)

/-! ## Added targets -/

/-- A target that is not refused has the family of the source address, and one that the interface has. -/
theorem refusal_eq_none {interface : Option InterfaceInfo} {ip : IpAddr} (h : refusal config interface ip = none) :
    (∀ source_ip, config.source_ip = some source_ip → ip.isIpv6 = source_ip.isIpv6) ∧
      ∀ info, interface = some info → InterfaceInfo.hasAddress info ip.isIpv6 = true := by
  unfold refusal at h
  dsimp only at h
  split at h
  · cases h
  · next hsource =>
    constructor
    · intro source_ip hip
      rw [hip] at hsource
      dsimp only at hsource
      split_ifs at hsource with hother
      exact (not_not.mp hother).symm
    · intro info hinfo
      rw [hinfo] at h
      dsimp only at h
      split_ifs at h with hv6 hv4
      unfold InterfaceInfo.hasAddress
      cases hip : ip.isIpv6 with
      | true =>
        rw [if_pos rfl, Option.isSome_iff_ne_none]
        exact fun hnone => hv6 ⟨hip, Option.isNone_iff_eq_none.mpr hnone⟩
      | false =>
        rw [if_neg Bool.false_ne_true, Option.isSome_iff_ne_none]
        exact fun hnone => hv4 ⟨hip, Option.isNone_iff_eq_none.mpr hnone⟩

/-- A target that is added has a receiver of its family. -/
theorem hasReceiver_addTarget (s : Tracing) (name : List Char) (ip : IpAddr) (socket family : Bool) :
    (s.addTarget config name ip socket).hasReceiver family = (s.hasReceiver family || family == ip.isIpv6) := by
  unfold Tracing.addTarget Tracing.hasReceiver
  dsimp only
  cases family <;> cases ip.isIpv6 <;> rfl

/-- A new receiver expects the flows of the new engine. -/
theorem receivers_addTarget (s : Tracing) (name : List Char) (ip : IpAddr) (socket : Bool) :
    (s.addTarget config name ip socket).receivers = if s.hasReceiver ip.isIpv6 then s.receivers
      else s.receivers ++ [(ip.isIpv6, (effectiveFlowCountForIpCached config ip socket s.effective_flows).1)] := by
  have hget := (effectiveFlowCountForIpCached_spec config ip socket s.effective_flows).1
  rw [Tracing.addTarget]
  dsimp only
  rw [hget, Option.getD_some]

/-- The flows are those of the family's receiver, the one that is there or the new one. -/
theorem Known.addTarget {s : Tracing} (h : Known s) (name : List Char) (ip : IpAddr) (socket : Bool) :
    Known (s.addTarget config name ip socket) := by
  obtain ⟨hget, hkept⟩ := effectiveFlowCountForIpCached_spec config ip socket s.effective_flows
  have hreceivers := @receivers_addTarget config s name ip socket
  have hcache : (s.addTarget config name ip socket).effective_flows =
      (effectiveFlowCountForIpCached config ip socket s.effective_flows).2 := rfl
  constructor
  · intro family
    rw [hasReceiver_addTarget, hreceivers, Bool.or_eq_true, beq_iff_eq, h.has family]
    split_ifs with hhas
    · refine ⟨fun hor => hor.elim id fun heq => ?_, .inl⟩
      rw [heq]
      exact (h.has _).mp hhas
    · rw [List.map_append, List.mem_append, List.map_singleton, List.mem_singleton]
  · intro family n
    rw [hcache, hreceivers]
    by_cases hfamily : family = ip.isIpv6
    · rw [hfamily, hget, Option.some.injEq]
      split_ifs with hhas
      · obtain ⟨r, hr, hfst⟩ := List.mem_map.mp ((h.has ip.isIpv6).mp hhas)
        have hknown : s.effective_flows.get ip.isIpv6 = some r.2 := (h.flows _ _).mpr (hfst ▸ hr)
        have heq := Option.some.inj (hget.symm.trans (hkept _ _ hknown))
        rw [← h.flows, hknown, Option.some.injEq, heq]
      · have hnone : (ip.isIpv6, n) ∉ s.receivers := fun hmem => hhas ((h.has _).mpr (List.mem_map_of_mem hmem))
        rw [List.mem_append, List.mem_singleton, Prod.mk.injEq]
        exact ⟨fun heq => .inr ⟨rfl, heq.symm⟩, fun hor => (hor.resolve_left hnone).2.symm⟩
    · rw [effectiveFlowCountForIpCached_other config ip socket s.effective_flows hfamily, h.flows]
      split_ifs
      · rfl
      · rw [List.mem_append, List.mem_singleton, Prod.mk.injEq]
        exact ⟨.inl, fun hor => hor.resolve_right fun heq => hfamily heq.1⟩

/-- A new target is covered. -/
theorem Covered.addTarget {s : Tracing} (h : Covered c s) (hknown : Known s) {ip : IpAddr}
    (hnew : s.sessions.lookup ip = none) (hrefusal : refusal c.config c.interface ip = none) (name : List Char)
    (socket : Bool) : Covered c (s.addTarget c.config name ip socket) := by
  have hnext : Known (s.addTarget c.config name ip socket) := hknown.addTarget name ip socket
  obtain ⟨hget, hkept⟩ := effectiveFlowCountForIpCached_spec c.config ip socket s.effective_flows
  have hreceivers := @receivers_addTarget c.config s name ip socket
  obtain ⟨hsource, hinterface⟩ := refusal_eq_none hrefusal
  generalize hr : effectiveFlowCountForIpCached c.config ip socket s.effective_flows = r at hget hkept hreceivers
  have hlookup : ∀ a, (s.addTarget c.config name ip socket).sessions.lookup a =
      if a = ip then some ⟨name, [], r.1⟩ else s.sessions.lookup a := by
    intro a
    rw [← hr]
    exact KeyMap.lookup_insert _ _ _ _
  have hengines : (s.addTarget c.config name ip socket).engines = s.engines ++ [(ip, r.1)] := by
    rw [← hr]
    rfl
  have hisSome : ∀ a, ((s.addTarget c.config name ip socket).sessions.lookup a).isSome ↔
      a = ip ∨ (s.sessions.lookup a).isSome := by
    intro a
    rw [hlookup]
    split_ifs with ha
    · exact ⟨fun _ => .inl ha, fun _ => rfl⟩
    · exact ⟨.inr, fun hor => hor.resolve_left ha⟩
  have hno_engine : ∀ flows, (ip, flows) ∉ s.engines := by
    intro flows hmem
    obtain ⟨session, hsession, -⟩ := (h.engines ip flows).mp hmem
    rw [hnew] at hsession
    cases hsession
  constructor
  · intro a flows
    rw [hengines, List.mem_append, List.mem_singleton, Prod.mk.injEq, hlookup]
    split_ifs with ha
    · subst ha
      refine ⟨fun hor => ⟨_, rfl, (hor.resolve_left (hno_engine flows)).2.symm⟩, ?_⟩
      rintro ⟨session, hsession, rfl⟩
      cases hsession
      exact .inr ⟨rfl, rfl⟩
    · rw [h.engines]
      exact ⟨fun hor => hor.resolve_right fun heq => ha heq.1, .inl⟩
  · rw [hengines, List.map_append, List.nodup_append]
    refine ⟨h.one_engine, List.nodup_singleton _, fun a ha b hb heq => ?_⟩
    obtain ⟨⟨a', flows⟩, hmem, hfst⟩ := List.mem_map.mp ha
    rw [List.map_singleton, List.mem_singleton] at hb
    have hip : a' = ip := (show a' = a from hfst).trans (heq.trans hb)
    exact hno_engine flows (hip ▸ hmem)
  · intro a session hsession
    rw [hlookup] at hsession
    split_ifs at hsession with ha
    · cases hsession
      rw [ha, ← hnext.flows]
      exact (congrArg (fun x => x.2.get ip.isIpv6) hr).trans hget
    · have hmem := h.receivers a session hsession
      rw [hreceivers]
      split_ifs
      · exact hmem
      · exact List.mem_append_left _ hmem
  · rw [hreceivers]
    split_ifs with hhas
    · exact h.one_receiver
    · rw [List.map_append, List.nodup_append]
      refine ⟨h.one_receiver, List.nodup_singleton _, fun a ha b hb heq => hhas ?_⟩
      rw [List.map_singleton, List.mem_singleton] at hb
      have hfamily : a = ip.isIpv6 := heq.trans hb
      rw [hknown.has, ← hfamily]
      exact ha
  · intro receiver hmem
    rw [hreceivers] at hmem
    have hor : receiver ∈ s.receivers ∨ receiver.1 = ip.isIpv6 := by
      split_ifs at hmem
      · exact .inl hmem
      · refine (List.mem_append.mp hmem).imp_right fun hlast => ?_
        rw [List.mem_singleton.mp hlast]
    rcases hor with hold | hfamily
    · obtain ⟨a, ha, heq⟩ := h.used receiver hold
      exact ⟨a, (hisSome a).mpr (.inr ha), heq⟩
    · exact ⟨ip, (hisSome ip).mpr (.inl rfl), hfamily.symm⟩
  · intro source_ip hsrc a ha
    rcases (hisSome a).mp ha with rfl | hold
    · exact hsource source_ip hsrc
    · exact h.source source_ip hsrc a hold
  · intro info hinfo hmixed a ha
    rcases (hisSome a).mp ha with rfl | hold
    · exact hinterface info hinfo
    · exact h.interface info hinfo hmixed a hold

/-- A request keeps the targets covered and the flows known. -/
theorem covered_handle {s : Tracing} (h : Covered c s) (hknown : Known s) (request : Request) :
    Covered c (s.handle c request).1 ∧ Known (s.handle c request).1 := by
  unfold Tracing.handle
  split
  · exact ⟨h, hknown⟩
  · next ip _ =>
    split_ifs with hsession
    · exact ⟨h, hknown⟩
    · have hnew := Option.not_isSome_iff_eq_none.mp hsession
      cases hrefusal : refusal c.config c.interface ip with
      | some e => exact ⟨h, hknown⟩
      | none => exact ⟨h.addTarget hknown hnew hrefusal _ _, hknown.addTarget _ _ _⟩

/-- Any requests keep the targets covered and the flows known. -/
theorem covered_handleAll {s : Tracing} (h : Covered c s ∧ Known s) (requests : List Request) :
    Covered c (s.handleAll c requests) ∧ Known (s.handleAll c requests) := by
  induction requests generalizing s with
  | nil => exact h
  | cons request requests ih => exact ih (covered_handle h.1 h.2 request)

/-- **Engine, receiver and session agree on the flows**, and none of them is missing or there twice, after any start
and any sequence of requests; and what the manager keeps of each family, that it has a receiver and with how many
flows, is so. -/
theorem covered_run {s : Tracing} (h : c.start = .ok s) (requests : List Request) :
    Covered c (s.handleAll c requests) ∧ Known (s.handleAll c requests) :=
  covered_handleAll (covered_start h) requests

/-- A start with two families, and a third target that is added. -/
def sampleCall : Call where
  config := ⟨4, none, none⟩
  interface := none
  hosts := [⟨['a'], some (.V4 ⟨192, 0, 2, 1⟩), .ok []⟩, ⟨['b'], some (.V6 ⟨0x2001, 0xdb8, 0, 0, 0, 0, 0, 1⟩), .ok []⟩]
  resolve_all := false
  force_ipv4 := false
  force_ipv6 := false
  socket := fun ip => ! ip.isIpv6

/-- The sockets of the family do not open any more, which the new target does not notice. -/
theorem covered_run_sample : ∃ s, sampleCall.start = .ok s ∧
    (s.handleAll sampleCall [⟨⟨['c'], none, .ok [.V4 ⟨192, 0, 2, 3⟩]⟩, false⟩]).engines =
      [(.V4 ⟨192, 0, 2, 1⟩, 1), (.V6 ⟨0x2001, 0xdb8, 0, 0, 0, 0, 0, 1⟩, 4), (.V4 ⟨192, 0, 2, 3⟩, 1)] ∧
    (s.handleAll sampleCall [⟨⟨['c'], none, .ok [.V4 ⟨192, 0, 2, 3⟩]⟩, false⟩]).receivers = [(false, 1), (true, 4)] ∧
    Covered sampleCall (s.handleAll sampleCall [⟨⟨['c'], none, .ok [.V4 ⟨192, 0, 2, 3⟩]⟩, false⟩]) ∧
    Known (s.handleAll sampleCall [⟨⟨['c'], none, .ok [.V4 ⟨192, 0, 2, 3⟩]⟩, false⟩]) :=
  ⟨_, rfl, by decide, by decide, covered_run rfl _⟩

/-! ## The manager of the UI -/

/-- What the resolver says to the UI's manager. -/
def resolvedText (c : Call) (host : HostArg) : Except (List Char) IpAddr :=
  match host.resolveTarget c.force_ipv4 c.force_ipv6 with
  | .ok ip => .ok ip
  | .error e => .error (errorText e)

/-- What the family checks say to it. -/
def refusedText (c : Call) (host : HostArg) : Option (List Char) :=
  match host.resolveTarget c.force_ipv4 c.force_ipv6 with
  | .ok ip => refusal c.config c.interface ip
  | .error _ => none

/-- The manager of the UI's model answers as this one does, and has the same sessions afterwards when it had them
before. -/
theorem manage_handle (c : Call) (s : Tracing) (app : App)
    (hsame : ∀ ip, (app.sessions.lookup ip).isSome ↔ (s.sessions.lookup ip).isSome) (request : Request) (channel : ℕ)
    (config : Config) (now : ℕ) :
    let app' := app.manage ⟨request.host.text, channel⟩ (resolvedText c request.host) (refusedText c request.host)
      config now
    app'.replies = app.replies.insert channel (s.handle c request).2 ∧
      ∀ ip, (app'.sessions.lookup ip).isSome ↔ ((s.handle c request).1.sessions.lookup ip).isSome := by
  dsimp only
  unfold App.manage Tracing.handle resolvedText refusedText
  cases request.host.resolveTarget c.force_ipv4 c.force_ipv6 with
  | error e => exact ⟨rfl, hsame⟩
  | ok ip =>
    dsimp only
    by_cases hsession : (s.sessions.lookup ip).isSome
    · rw [if_pos hsession, if_pos ((hsame ip).mpr hsession)]
      exact ⟨rfl, hsame⟩
    · rw [if_neg hsession, if_neg fun happ => hsession ((hsame ip).mp happ)]
      cases refusal c.config c.interface ip with
      | some e => exact ⟨rfl, hsame⟩
      | none =>
        refine ⟨rfl, fun a => ?_⟩
        have hlookup : (s.addTarget c.config request.host.text ip request.socket).sessions.lookup a =
            if a = ip then some ⟨request.host.text, [], _⟩ else s.sessions.lookup a := KeyMap.lookup_insert _ _ _ _
        rw [hlookup]
        dsimp only
        rw [KeyMap.lookup_insert]
        split_ifs
        · exact ⟨fun _ => rfl, fun _ => rfl⟩
        · exact hsame a

end Manager

end Ttl
