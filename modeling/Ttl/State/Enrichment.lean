import Ttl.Lib.Collections
import Ttl.State.Args

/-!
# What the lookups add to a responder

The fields of `ResponderStats` (`src/state/session.rs`) that the enrichment workers read and write. A
worker fills one of them, and a `Field` is the pair of its accessors.
-/

namespace Ttl

/-- `AsnInfo`. -/
structure AsnInfo where
  number : UInt32
  name : List Char
  /-- `prefix`, as the text of the answer. -/
  network : Option (List Char)
deriving DecidableEq

/-- `GeoInfo`. -/
structure GeoInfo where
  city : Option (List Char)
  region : Option (List Char)
  country : List Char
  latitude : Option Float64
  longitude : Option Float64
deriving DecidableEq

/-- `IxInfo`. -/
structure IxInfo where
  name : List Char
  city : Option (List Char)
  country : Option (List Char)
deriving DecidableEq

/-- `ResponderStats`, as far as the workers use it. -/
structure Enrichment where
  ip : IpAddr
  hostname : Option (List Char)
  asn : Option AsnInfo
  geo : Option GeoInfo
  ix : Option IxInfo
deriving DecidableEq

/-- `ResponderStats::new`. -/
def Enrichment.new (ip : IpAddr) : Enrichment := ⟨ip, none, none, none, none⟩

/-- A field that a worker fills. -/
structure Field (Info : Type) where
  get : Enrichment → Option Info
  set : Info → Enrichment → Enrichment
  get_set : ∀ info r, get (set info r) = some info
  ip_set : ∀ info r, (set info r).ip = r.ip

attribute [simp] Field.get_set Field.ip_set

namespace Field

/-- `hostname`. -/
def hostname : Field (List Char) :=
  ⟨Enrichment.hostname, fun info r => { r with hostname := some info }, fun _ _ => rfl, fun _ _ => rfl⟩

/-- `asn`. -/
def asn : Field AsnInfo :=
  ⟨Enrichment.asn, fun info r => { r with asn := some info }, fun _ _ => rfl, fun _ _ => rfl⟩

/-- `geo`. -/
def geo : Field GeoInfo :=
  ⟨Enrichment.geo, fun info r => { r with geo := some info }, fun _ _ => rfl, fun _ _ => rfl⟩

/-- `ix`. -/
def ix : Field IxInfo :=
  ⟨Enrichment.ix, fun info r => { r with ix := some info }, fun _ _ => rfl, fun _ _ => rfl⟩

end Field

/-- The `responders` of a hop in iteration order, each under its own address. -/
structure Responders where
  map : KeyMap IpAddr Enrichment
  keyed : ∀ e ∈ map.entries, e.2.ip = e.1

/-- The sessions in the order of their map, each with its hops. -/
abbrev Sessions := List (List Responders)

namespace Responders

/-- A hop that answered from one address. -/
def single (ip : IpAddr) : Responders where
  map := AList.singleton ip (Enrichment.new ip)
  keyed := by
    intro e he
    rw [List.mem_singleton.mp he]
    rfl

/-- The responders in the order of the map. -/
def values (hop : Responders) : List Enrichment := hop.map.entries.map fun e => e.2

/-- `get_mut` of an address, and the assignment to a field there. -/
def fill {Info : Type} (hop : Responders) (field : Field Info) (ip : IpAddr) (info : Info) : Responders where
  map := KeyMap.mapValues hop.map fun k r => if k = ip then field.set info r else r
  keyed := by
    intro e he
    obtain ⟨e', he', rfl⟩ := List.mem_map.mp he
    dsimp only
    split_ifs
    · rw [field.ip_set, hop.keyed e' he']
    · exact hop.keyed e' he'

/-- The assignment changes the responder with that address. -/
theorem values_fill {Info : Type} (hop : Responders) (field : Field Info) (ip : IpAddr) (info : Info) :
    (hop.fill field ip info).values =
      hop.values.map fun r => if r.ip = ip then field.set info r else r := by
  show (hop.map.entries.map fun e =>
    (⟨e.1, if e.1 = ip then field.set info e.2 else e.2⟩ : Sigma fun _ : IpAddr => Enrichment)).map _ = _
  rw [values, List.map_map, List.map_map]
  refine List.map_congr_left fun e he => ?_
  dsimp only [Function.comp_apply]
  rw [hop.keyed e he]

end Responders

/-- The responders of all sessions, in the order in which a worker visits them. -/
def Sessions.visited (sessions : Sessions) : List Enrichment :=
  sessions.flatMap fun hops => hops.flatMap Responders.values

/-- The distinct addresses of the responders. -/
def Sessions.addresses (sessions : Sessions) : List IpAddr :=
  (sessions.visited.map Enrichment.ip).eraseDups

end Ttl
