import Ttl.Trace.FiniteRuns

/-!
# Ports of accepted arguments

The engines add the flow to the base source port, and the TTL to the base destination port, and
`derive_flow_hint` adds the number of flows to the base source port, all in `u16`. `Args::validate` bounds
the largest source port that a flow uses by 65535, which bounds the first two sums. The third is one more
than that port. `portsSafe_iff` states for which accepted arguments it fits as well.
-/

namespace Ttl

/-- Addition of two `u16`: none where it overflows. -/
def checkedAdd (a b : UInt16) : Option UInt16 :=
  if a.toNat + b.toNat < 2^16 then some (a + b) else none

/-- The sum of two ports is a port when it does not exceed the largest one. -/
theorem checkedAdd_isSome {a b : UInt16} :
    (checkedAdd a b).isSome = true ↔ a.toNat + b.toNat ≤ 65535 := by
  unfold checkedAdd
  split_ifs with h
  · exact iff_of_true rfl (by omega)
  · exact iff_of_false Bool.false_ne_true (by omega)

namespace Args

/-- `effective_flow_count_for_family`: ICMP has no ports, and therefore one flow. `icmp_socket` holds where
an ICMP socket can be created, which is when `Auto` becomes ICMP. -/
def effectiveFlows (args : Args) (icmp_socket : Bool) : UInt8 :=
  if args.flows ≤ 1 then args.flows
  else
    match args.probeProtocol with
    | some .Icmp => 1
    | none => if icmp_socket then 1 else args.flows
    | some _ => args.flows

/-- The protocols that `ProbeEngine::run` runs. Without an ICMP socket `Auto` becomes UDP or TCP. -/
def Runs (args : Args) (icmp_socket : Bool) (protocol : ProbeProtocol) : Prop :=
  match args.probeProtocol with
  | some fixed => protocol = fixed
  | none => protocol = .Icmp ↔ icmp_socket = true

/-- `port` of `Config::from`. -/
def configPort (args : Args) : Option UInt16 :=
  args.port.or
    (match args.probeProtocol with
    | some .Udp => some 33434
    | some .Tcp => some 80
    | _ => none)

/-- `base_port` of an engine. -/
def basePort (args : Args) (protocol : ProbeProtocol) : UInt16 :=
  args.configPort.getD (if protocol = .Tcp then 80 else 33434)

/-- `dst_port` of an engine for a TTL, none where the sum overflows. -/
def destinationPort (args : Args) (protocol : ProbeProtocol) (ttl : UInt8) : Option UInt16 :=
  if args.port_fixed then some (args.basePort protocol)
  else checkedAdd (args.basePort protocol) ttl.toUInt16

/-- The receiver's configuration, as `spawn_receivers` makes it. -/
def receiverConfig (args : Args) (icmp_socket : Bool) : ReceiverConfig where
  timeout := durationOf args.timeout
  src_port_base := args.src_port
  num_flows := args.effectiveFlows icmp_socket

/-- No sum of ports overflows, and the hints are those of the flows. -/
structure PortsSafe (args : Args) (icmp_socket : Bool) : Prop where
  /-- The source port of every flow. -/
  source : ∀ flow < args.effectiveFlows icmp_socket,
    (checkedAdd args.src_port flow.toUInt16).isSome = true
  /-- The destination port of every TTL. -/
  destination : ∀ protocol, args.Runs icmp_socket protocol → protocol ≠ .Icmp →
    ∀ ttl, 1 ≤ ttl → ttl ≤ args.max_ttl → (args.destinationPort protocol ttl).isSome = true
  /-- The end of the range, which is computed for every port that is not below its start. -/
  range : ∀ port, args.src_port ≤ port →
    (checkedAdd args.src_port (args.effectiveFlows icmp_socket).toUInt16).isSome = true
  /-- The source port of a flow gives that flow back. -/
  recovered : ∀ protocol, args.Runs icmp_socket protocol →
    ∀ flow < args.effectiveFlows icmp_socket,
    deriveFlowHint (args.receiverConfig icmp_socket)
      (sourcePort (args.config protocol (args.effectiveFlows icmp_socket)) flow) = some flow
  /-- A source port outside of the range gives no flow. -/
  outside : ∀ port : UInt16, (port.toNat < args.src_port.toNat ∨
      args.src_port.toNat + (args.effectiveFlows icmp_socket).toNat ≤ port.toNat) →
    deriveFlowHint (args.receiverConfig icmp_socket) (some port) = none

section

variable {args : Args} {host : Host} {icmp_socket : Bool} {protocol : ProbeProtocol}

/-! ## Flows in effect -/

/-- There are at most as many flows in effect as asked for. -/
theorem effectiveFlows_le (h : args.Bounded) (icmp_socket : Bool) :
    (args.effectiveFlows icmp_socket).toNat ≤ args.flows.toNat := by
  have hpos : 1 ≤ args.flows.toNat := by
    have := h.flows_pos
    rw [Ne, ← UInt8.toNat_inj] at this
    exact Nat.one_le_iff_ne_zero.mpr this
  unfold effectiveFlows
  by_cases hflows : args.flows ≤ 1
  · rw [if_pos hflows]
  · rw [if_neg hflows]
    split
    · exact hpos
    · split_ifs
      · exact hpos
      · exact Nat.le_refl _
    · exact Nat.le_refl _

/-- ICMP runs with one flow. -/
theorem effectiveFlows_of_runs_icmp (h : args.Bounded) (hruns : args.Runs icmp_socket .Icmp) :
    args.effectiveFlows icmp_socket = 1 := by
  unfold effectiveFlows
  by_cases hflows : args.flows ≤ 1
  · have hpos := h.flows_pos
    rw [Ne, ← UInt8.toNat_inj] at hpos
    rw [if_pos hflows, ← UInt8.toNat_inj]
    exact Nat.le_antisymm (UInt8.le_iff_toNat_le.mp hflows) (Nat.one_le_iff_ne_zero.mpr hpos)
  · rw [if_neg hflows]
    unfold Runs at hruns
    split at hruns
    · next fixed hfixed => rw [hfixed, ← hruns]
    · next hauto => rw [hauto, hruns.mp rfl, if_pos rfl]

/-! ## Sums that `validate` bounds -/

/-- Source ports fit. -/
theorem source_safe (h : args.Bounded) {flow : UInt8} (hflow : flow < args.effectiveFlows icmp_socket) :
    args.src_port.toNat + flow.toNat ≤ 65535 := by
  have hlt := UInt8.lt_iff_toNat_lt.mp hflow
  have hle := effectiveFlows_le h icmp_socket
  have hsource := h.source
  omega

/-- An engine with ports runs for the protocols that `validate` checks the destination port of. -/
theorem usesPort_of_runs (h : args.Bounded) (hruns : args.Runs icmp_socket protocol)
    (hicmp : protocol ≠ .Icmp) :
    args.protocolLower = ['u', 'd', 'p'] ∨ args.protocolLower = ['t', 'c', 'p'] ∨
      args.protocolLower = ['a', 'u', 't', 'o'] := by
  have hprotocol := h.protocol
  simp only [List.mem_cons, List.not_mem_nil, or_false] at hprotocol
  obtain hauto | hlower | hudp | htcp := hprotocol
  · exact .inr (.inr hauto)
  · have hfixed : args.probeProtocol = some .Icmp := by rw [probeProtocol, if_pos hlower]
    rw [Runs, hfixed] at hruns
    exact absurd hruns hicmp
  · exact .inl hudp
  · exact .inr (.inl htcp)

/-- Without `--port` the base port is one of the defaults. -/
theorem basePort_le_of_port_eq_none (hport : args.port = none) (protocol : ProbeProtocol) :
    (args.basePort protocol).toNat ≤ 33434 := by
  unfold basePort configPort
  rw [hport, Option.none_or]
  split
  · exact Nat.le_refl _
  · exact Nat.le_of_ble_eq_true rfl
  · rw [Option.getD_none]
    split_ifs
    · exact Nat.le_of_ble_eq_true rfl
    · exact Nat.le_refl _

/-- Destination ports fit: a default port does so for every TTL up to 64, and `validate` checks a port that
is given. -/
theorem destination_safe (h : args.Bounded) (hruns : args.Runs icmp_socket protocol)
    (hicmp : protocol ≠ .Icmp) {ttl : UInt8} (httl : ttl ≤ args.max_ttl) :
    (args.destinationPort protocol ttl).isSome = true := by
  have hle := UInt8.le_iff_toNat_le.mp httl
  have hmax := UInt8.le_iff_toNat_le.mp h.max_ttl
  unfold destinationPort
  split_ifs with hfixed
  · rfl
  · rw [checkedAdd_isSome, UInt8.toNat_toUInt16]
    cases hport : args.port with
    | none =>
      have hbase := basePort_le_of_port_eq_none hport protocol
      have h64 : (64 : UInt8).toNat = 64 := rfl
      omega
    | some port =>
      have hgiven : args.basePort protocol = port := by
        rw [basePort, configPort, hport, Option.some_or, Option.getD_some]
      have hchecked := h.destination (Bool.eq_false_iff.mpr hfixed)
        ((usesPort_of_runs h hruns hicmp).imp_right fun huses =>
          huses.imp_right fun hauto => ⟨hauto, by rw [hport, Option.isSome_some]⟩)
      rw [hport, Option.map_some, Option.getD_some] at hchecked
      rw [hgiven]
      omega

/-! ## The hint -/

/-- Inside and outside of the range, whose end is not to overflow. -/
theorem deriveFlowHint_range (config : ReceiverConfig)
    (hfits : config.src_port_base.toNat + config.num_flows.toNat ≤ 65535) :
    (∀ flow < config.num_flows,
      deriveFlowHint config (some (config.src_port_base + flow.toUInt16)) = some flow) ∧
    ∀ port : UInt16, (port.toNat < config.src_port_base.toNat ∨
      config.src_port_base.toNat + config.num_flows.toNat ≤ port.toNat) →
      deriveFlowHint config (some port) = none := by
  have hend : (config.src_port_base + config.num_flows.toUInt16).toNat =
      config.src_port_base.toNat + config.num_flows.toNat := by
    rw [UInt16.toNat_add, UInt8.toNat_toUInt16, Nat.mod_eq_of_lt (by omega)]
  constructor
  · intro flow hflow
    have hlt := UInt8.lt_iff_toNat_lt.mp hflow
    have hport : (config.src_port_base + flow.toUInt16).toNat =
        config.src_port_base.toNat + flow.toNat := by
      rw [UInt16.toNat_add, UInt8.toNat_toUInt16, Nat.mod_eq_of_lt (by omega)]
    have hback : (config.src_port_base + flow.toUInt16 - config.src_port_base).toUInt8 = flow := by
      rw [UInt16.add_comm, UInt16.add_sub_cancel]
      exact UInt8.toUInt8_toUInt16 flow
    rw [deriveFlowHint, if_pos, hback]
    rw [UInt16.le_iff_toNat_le, UInt16.lt_iff_toNat_lt, hport, hend]
    omega
  · intro port hout
    rw [deriveFlowHint, if_neg]
    rw [UInt16.le_iff_toNat_le, UInt16.lt_iff_toNat_lt, hend]
    omega

/-! ## Accepted arguments -/

/-- **Ports are safe when the end of the source port range fits:** for the arguments that `validate`
accepts, no sum of ports overflows and every flow is found again from its source port, exactly when the base
source port plus the number of flows in effect is at most 65535. `validate` lets it be 65536. -/
theorem portsSafe_iff (h : args.validate host = .ok ()) :
    args.PortsSafe icmp_socket ↔
      args.src_port.toNat + (args.effectiveFlows icmp_socket).toNat ≤ 65535 := by
  have hbounded := bounded_of_validate h
  constructor
  · intro hsafe
    have hrange := hsafe.range args.src_port UInt16.le_rfl
    rwa [checkedAdd_isSome, UInt8.toNat_toUInt16] at hrange
  · intro hfits
    obtain ⟨hinside, houtside⟩ :=
      deriveFlowHint_range (args.receiverConfig icmp_socket) hfits
    refine ⟨fun flow hflow => ?_, fun protocol hruns hicmp ttl _ httl => ?_, fun port _ => ?_,
      fun protocol hruns flow hflow => ?_, houtside⟩
    · rw [checkedAdd_isSome, UInt8.toNat_toUInt16]
      exact source_safe hbounded hflow
    · exact destination_safe hbounded hruns hicmp httl
    · rwa [checkedAdd_isSome, UInt8.toNat_toUInt16]
    · cases protocol with
      | Icmp =>
        -- Without ports the only flow is the hint.
        have hone := effectiveFlows_of_runs_icmp hbounded hruns
        have hzero : flow = 0 := by
          rw [hone, UInt8.lt_iff_toNat_lt] at hflow
          rw [← UInt8.toNat_inj]
          exact Nat.lt_one_iff.mp hflow
        rw [hzero]
        exact if_pos hone
      | Udp => exact hinside flow hflow
      | Tcp => exact hinside flow hflow

end

open Tracer (sampleArgs)

/-- The ports 50000 to 50015 of sixteen UDP flows. -/
theorem portsSafe_sample :
    { sampleArgs with protocol := ['u', 'd', 'p'], flows := 16 }.PortsSafe false :=
  (@portsSafe_iff _ ⟨fun _ => false, fun _ => false, fun _ => false, fun _ => false⟩ false
    (by with_unfolding_all rfl)).mpr (by decide)

/-- The sixteen flows on the ports 65520 to 65535, which `validate` accepts: the end of the range is 65536.
The sum panics, or without overflow checks it is zero and every reply loses its flow. -/
theorem portsSafe_fails_last_port :
    (∀ host, { sampleArgs with protocol := ['u', 'd', 'p'], flows := 16, src_port := 65520 }.validate host =
      .ok ()) ∧
    checkedAdd 65520 16 = none ∧
    (∀ flow < 16, sourcePort
        ({ sampleArgs with protocol := ['u', 'd', 'p'], flows := 16, src_port := 65520 }.config .Udp 16)
        flow = some (65520 + flow.toUInt16) ∧
      deriveFlowHint
        ({ sampleArgs with
          protocol := ['u', 'd', 'p'], flows := 16, src_port := 65520 }.receiverConfig false)
        (some (65520 + flow.toUInt16)) = none) ∧
    ¬ { sampleArgs with protocol := ['u', 'd', 'p'], flows := 16, src_port := 65520 }.PortsSafe false := by
  have haccepted : ∀ host,
      { sampleArgs with protocol := ['u', 'd', 'p'], flows := 16, src_port := 65520 }.validate host =
        .ok () := by
    intro host
    with_unfolding_all rfl
  refine ⟨haccepted, by decide, fun flow _ => ⟨rfl, ?_⟩, fun hsafe => ?_⟩
  · -- The end of the range is 0.
    exact if_neg fun hrange =>
      absurd hrange.2 (UInt16.not_lt.mpr (UInt16.le_iff_toNat_le.mpr (Nat.zero_le _)))
  · have hsum := hsafe.range 65520 UInt16.le_rfl
    exact absurd hsum (by decide)

end Args

end Ttl
