import Ttl.State.Session
import Mathlib.Data.Rat.Floor

/-!
# Command-line arguments

`Args` and its `validate` (`src/cli.rs`), and the part of `Config::from` that the prober and the
receiver read. A string is the list of its characters. What `validate` asks of the standard library and
of the system, whether a text parses as an address and the index of an interface, is a parameter
(`Host`). An error stands for its message.
-/

namespace Ttl

/-- An `f64`: a finite one is the rational that it stands for. -/
inductive Float64 where
  | finite (value : ℚ)
  | infinite (negative : Bool)
  | nan
deriving DecidableEq

/-- `<` of two `f64`, false where one is `NaN`. -/
def Float64.lt : Float64 → Float64 → Bool
  | .finite a, .finite b => a < b
  | .finite _, .infinite negative => ! negative
  | .infinite negative, .finite _ => negative
  | .infinite a, .infinite b => a && ! b
  | .nan, _ | _, .nan => false

/-- `>=` of two `f64`, false where one is `NaN`. -/
def Float64.ge : Float64 → Float64 → Bool
  | .nan, _ | _, .nan => false
  | a, b => ! a.lt b

/-- Multiplication by 256, which is exact: the overflow to infinity compares to a finite number like the
exact product. -/
def Float64.times256 : Float64 → Float64
  | .finite a => .finite (256 * a)
  | x => x

/-- `Duration::from_secs_f64` of a number of seconds: the nearest nanosecond, the even one of two. -/
def nanosOfSecs (secs : ℚ) : ℕ :=
  let n : ℕ := (secs * 10^9).floor.toNat
  let rest : ℚ := secs * 10^9 - n
  if rest < 1 / 2 then n else if 1 / 2 < rest then n + 1 else if n % 2 = 0 then n else n + 1

/-- `Args`, as far as `validate` and the prober's configuration read it. -/
structure Args where
  targets : List (List Char)
  /-- Rounds to probe, 0 for no limit. -/
  count : ℕ
  /-- Interval between rounds, in seconds. -/
  interval : Float64
  max_ttl : UInt8
  protocol : List Char
  port : Option UInt16
  port_fixed : Bool
  flows : UInt8
  src_port : UInt16
  /-- Timeout of a probe, in seconds. -/
  timeout : Float64
  ipv4 : Bool
  ipv6 : Bool
  no_tui : Bool
  json : Bool
  csv : Bool
  report : Bool
  stream_json : Bool
  daemon : Bool
  prometheus : Option (List Char)
  replay : Option (List Char)
  diff : Option (List (List Char))
  speed : Float64
  interface : Option (List Char)
  source_ip : Option (List Char)
  pmtud : Bool
  jumbo : Bool

/-- What `validate` asks of the standard library and of the system. -/
structure Host where
  /-- The text parses as a `SocketAddr`. -/
  parsesAsSocketAddr : List Char → Bool
  /-- The text parses as an `IpAddr`. -/
  parsesAsIpAddr : List Char → Bool
  /-- The text parses as a `u32`. -/
  parsesAsU32 : List Char → Bool
  /-- `if_nametoindex` knows the interface. -/
  knowsInterface : List Char → Bool

/-- Why arguments are rejected. -/
inductive ArgsError where
  | noTargets
  | batchWithoutCount
  | bothFamilies
  | unknownProtocol
  | durationNotPositive
  | durationTooLarge
  | maxTtlZero
  | maxTtlTooLarge
  | flowsZero
  | flowsTooLarge
  | sourcePortOverflow
  | destinationPortOverflow
  | timeoutTooLong
  | speedOutOfRange
  | invalidPrometheus
  | emptyInterface
  | interfaceTooLong
  | invalidSourceIp
  | unknownZone
  | pmtudInReplay
  | jumboInReplay
deriving DecidableEq

namespace Args

/-- `validate_duration_arg`. -/
def validateDurationArg : Float64 → Except ArgsError Unit
  | .finite value =>
    if value ≤ 0 then .error .durationNotPositive
    else if 2^64 ≤ value then .error .durationTooLarge
    else .ok ()
  | _ => .error .durationNotPositive

/-- `protocol`, in lower case. -/
def protocolLower (args : Args) : List Char := args.protocol.map Char.toLower

/-- `is_batch_mode`. -/
def isBatchMode (args : Args) : Bool := args.json || args.csv || args.report

/-- `is_headless`. -/
def isHeadless (args : Args) : Bool :=
  args.no_tui || args.stream_json || args.daemon || args.prometheus.isSome

/-- `prometheus_addr` succeeds: an address that starts with a colon is on all interfaces. -/
def prometheusParses (host : Host) (addr : List Char) : Bool :=
  host.parsesAsSocketAddr
    (if addr.head? = some ':' then ['0', '.', '0', '.', '0', '.', '0'] ++ addr else addr)

/-- `default_destination_port`. -/
def defaultDestinationPort (protocol : List Char) : ℕ :=
  if protocol = ['t', 'c', 'p'] then 80 else 33434

/-- An error where the condition holds. -/
def rejectIf (condition : Bool) (error : ArgsError) : Except ArgsError Unit :=
  if condition then .error error else .ok ()

/-- The check of `--source-ip` with its optional zone after `%`. -/
def validateSourceIp (host : Host) (raw : List Char) : Except ArgsError Unit := do
  let ip := raw.takeWhile (· ≠ '%')
  rejectIf (! host.parsesAsIpAddr ip) .invalidSourceIp
  match raw.dropWhile (· ≠ '%') with
  | _ :: zone => rejectIf (! host.parsesAsU32 zone && ! host.knowsInterface zone) .unknownZone
  | [] => .ok ()

/-- `validate`, on a platform where an interface can be bound. -/
def validate (host : Host) (args : Args) : Except ArgsError Unit := do
  -- A replay or a comparison needs no targets.
  let replay_or_diff := args.replay.isSome || args.diff.isSome
  rejectIf (! replay_or_diff && args.targets.isEmpty && (args.isBatchMode || args.isHeadless))
    .noTargets
  rejectIf (! replay_or_diff && args.isBatchMode && args.count = 0) .batchWithoutCount
  rejectIf (args.ipv4 && args.ipv6) .bothFamilies
  let protocol := args.protocolLower
  rejectIf (protocol ∉ [['a', 'u', 't', 'o'], ['i', 'c', 'm', 'p'], ['u', 'd', 'p'], ['t', 'c', 'p']])
    .unknownProtocol
  validateDurationArg args.interval
  validateDurationArg args.timeout
  rejectIf (args.max_ttl = 0) .maxTtlZero
  rejectIf (64 < args.max_ttl) .maxTtlTooLarge
  rejectIf (args.flows = 0) .flowsZero
  rejectIf (16 < args.flows) .flowsTooLarge
  rejectIf (65535 < args.src_port.toNat + (args.flows.toNat - 1)) .sourcePortOverflow
  -- Each TTL has its own destination port, unless the port is fixed.
  let uses_port := protocol = ['u', 'd', 'p'] || protocol = ['t', 'c', 'p'] ||
    (protocol = ['a', 'u', 't', 'o'] && args.port.isSome)
  let base := (args.port.map UInt16.toNat).getD (defaultDestinationPort protocol)
  rejectIf (uses_port && ! args.port_fixed && 65535 < base + args.max_ttl.toNat)
    .destinationPortOverflow
  rejectIf (args.timeout.ge args.interval.times256) .timeoutTooLong
  -- The literal 0.1 is the nearest `f64`.
  rejectIf (args.speed.lt (.finite (3602879701896397 / 2^55)) ||
    (Float64.finite 1000).lt args.speed) .speedOutOfRange
  rejectIf (args.prometheus.any fun addr => ! prometheusParses host addr) .invalidPrometheus
  rejectIf (args.interface.any fun iface => iface.isEmpty) .emptyInterface
  rejectIf (args.interface.any fun iface => 15 < (iface.map Char.utf8Size).sum) .interfaceTooLong
  match args.source_ip with
  | some raw => validateSourceIp host raw
  | none => .ok ()
  rejectIf (replay_or_diff && args.pmtud) .pmtudInReplay
  rejectIf (replay_or_diff && args.jumbo) .jumboInReplay

/-- A duration argument, which is finite once it is validated. -/
def durationOf : Float64 → ℕ
  | .finite value => nanosOfSecs value
  | _ => 0

/-- `Config::from`, with the protocol that `Auto` was resolved to and the flows in effect. -/
def config (args : Args) (protocol : ProbeProtocol) (flows : UInt8) : Config where
  count := if args.count = 0 then none else some args.count
  interval := durationOf args.interval
  max_ttl := args.max_ttl
  timeout := durationOf args.timeout
  protocol := protocol
  flows := flows
  src_port_base := args.src_port
  pmtud := args.pmtud
  jumbo := args.jumbo

/-- `ProbeProtocol` of the `protocol` argument, none for `Auto`. -/
def probeProtocol (args : Args) : Option ProbeProtocol :=
  if args.protocolLower = ['i', 'c', 'm', 'p'] then some .Icmp
  else if args.protocolLower = ['u', 'd', 'p'] then some .Udp
  else if args.protocolLower = ['t', 'c', 'p'] then some .Tcp
  else none

/-! ## What accepted arguments satisfy -/

/-- A check passes when its condition fails. -/
theorem rejectIf_eq_ok {condition : Bool} {error : ArgsError} :
    rejectIf condition error = .ok () ↔ condition = false := by
  cases condition <;> simp [rejectIf]

/-- Checks in turn. -/
theorem check_bind_eq_ok {x : Except ArgsError Unit} {f : Unit → Except ArgsError Unit} :
    (x >>= f) = .ok () ↔ x = .ok () ∧ f () = .ok () := by
  cases x with
  | error e => simp [bind, Except.bind]
  | ok u => simp [bind, Except.bind]

/-- The bounds on flows, TTLs and ports. -/
structure Bounded (args : Args) : Prop where
  max_ttl : args.max_ttl ≤ 64
  flows_pos : args.flows ≠ 0
  flows_le : args.flows ≤ 16
  source : args.src_port.toNat + (args.flows.toNat - 1) ≤ 65535
  destination : args.port_fixed = false →
    args.protocolLower = ['u', 'd', 'p'] ∨ args.protocolLower = ['t', 'c', 'p'] ∨
      args.protocolLower = ['a', 'u', 't', 'o'] ∧ args.port.isSome = true →
    (args.port.map UInt16.toNat).getD (defaultDestinationPort args.protocolLower) +
      args.max_ttl.toNat ≤ 65535
  protocol : args.protocolLower ∈
    [['a', 'u', 't', 'o'], ['i', 'c', 'm', 'p'], ['u', 'd', 'p'], ['t', 'c', 'p']]

/-- Accepted arguments are within the bounds. -/
theorem bounded_of_validate {args : Args} {host : Host} (h : args.validate host = .ok ()) :
    args.Bounded := by
  simp only [validate, check_bind_eq_ok, rejectIf_eq_ok] at h
  obtain ⟨-, -, -, hprotocol, -, -, -, hmax, hzero, hflows, hsource, hdestination, -⟩ := h
  refine ⟨?_, ?_, ?_, ?_, fun hfixed huses => ?_, ?_⟩
  · simpa [UInt8.not_lt] using hmax
  · simpa using hzero
  · simpa [UInt8.not_lt] using hflows
  · simpa using hsource
  · have huses' : (decide (args.protocolLower = ['u', 'd', 'p']) ||
        decide (args.protocolLower = ['t', 'c', 'p']) ||
          (decide (args.protocolLower = ['a', 'u', 't', 'o']) && args.port.isSome)) = true := by
      simpa [or_assoc] using huses
    rw [huses', hfixed] at hdestination
    simpa using hdestination
  · exact not_not.mp (of_decide_eq_false hprotocol)

end Args

end Ttl
