import Ttl.Lib.Batches
import Ttl.State.Enrichment

/-!
# The enrichment workers

`run_ix_worker`, `run_asn_worker`, `run_dns_worker` and `run_geo_worker` (`src/lookup`) are one loop over
different fields. A tick collects the first addresses without data, looks them up and stores the answers in
every session. An address without an answer stays without data, and is collected again at the next tick.
`progress_iff` states for which sessions every answer is stored in the end: those in which fewer unanswered
addresses than a batch holds are ahead of each answered one.
-/

namespace Ttl

open Batches

/-- A worker: the field that it fills, `MAX_CONCURRENT_LOOKUPS`, and what its lookup answers. -/
structure Worker where
  Info : Type
  field : Field Info
  cap : ℕ
  cap_pos : 0 < cap
  lookup : IpAddr → Option Info

/-- `run_ix_worker`. -/
def runIxWorker (lookup : IpAddr → Option IxInfo) : Worker := ⟨IxInfo, .ix, 10, by decide, lookup⟩

/-- `run_asn_worker`. -/
def runAsnWorker (lookup : IpAddr → Option AsnInfo) : Worker := ⟨AsnInfo, .asn, 10, by decide, lookup⟩

/-- `run_dns_worker`. -/
def runDnsWorker (lookup : IpAddr → Option (List Char)) : Worker :=
  ⟨List Char, .hostname, 10, by decide, lookup⟩

/-- `run_geo_worker`. -/
def runGeoWorker (lookup : IpAddr → Option GeoInfo) : Worker := ⟨GeoInfo, .geo, 20, by decide, lookup⟩

namespace Worker

/-- The addresses of the responders without data, in the order in which they are visited. -/
def lacking (w : Worker) (sessions : Sessions) : List IpAddr :=
  (sessions.visited.filter fun r => (w.field.get r).isNone).map Enrichment.ip

/-- The batch of a tick. -/
def batch (w : Worker) (sessions : Sessions) : List IpAddr := collect w.cap [] (w.lacking sessions)

/-- Store one result in all sessions. -/
def store (w : Worker) (sessions : Sessions) (result : IpAddr × Option w.Info) : Sessions :=
  match result.2 with
  | some info => sessions.map fun hops => hops.map fun hop => hop.fill w.field result.1 info
  | none => sessions

/-- A tick. -/
def tick (w : Worker) (sessions : Sessions) : Sessions :=
  ((w.batch sessions).map fun ip => (ip, w.lookup ip)).foldl w.store sessions

/-- The lookup of the address answers. -/
def answers (w : Worker) (ip : IpAddr) : Bool := (w.lookup ip).isSome

/-- Every responder whose lookup answers has its data. -/
def Done (w : Worker) (sessions : Sessions) : Prop :=
  ∀ r ∈ sessions.visited, w.answers r.ip = true → (w.field.get r).isSome = true

instance (w : Worker) : DecidablePred w.Done := fun sessions =>
  inferInstanceAs (Decidable (∀ r ∈ sessions.visited, _))

/-- The distinct addresses without data, in the order in which they are met. -/
def waiting (w : Worker) (sessions : Sessions) : List IpAddr := (w.lacking sessions).eraseDups

section

variable {w : Worker} {sessions : Sessions}

/-- What a result changes in a responder. -/
def fill (w : Worker) (r : Enrichment) (result : IpAddr × Option w.Info) : Enrichment :=
  match result.2 with
  | some info => if r.ip = result.1 then w.field.set info r else r
  | none => r

/-- A result changes no address. -/
@[simp]
theorem fill_ip (r : Enrichment) (result : IpAddr × Option w.Info) : (w.fill r result).ip = r.ip := by
  unfold fill
  split
  · split_ifs
    · exact w.field.ip_set _ _
    · rfl
  · rfl

/-- A result fills the field of the responders with its address, when it is an answer. -/
theorem isSome_get_fill (r : Enrichment) (ip : IpAddr) :
    (w.field.get (w.fill r (ip, w.lookup ip))).isSome =
      ((w.field.get r).isSome || (w.answers ip && r.ip == ip)) := by
  unfold fill answers
  cases h : w.lookup ip with
  | none => rw [Option.isSome_none, Bool.false_and, Bool.or_false]
  | some info =>
    dsimp only
    rw [Option.isSome_some, Bool.true_and]
    split_ifs with hip
    · rw [w.field.get_set, Option.isSome_some, beq_iff_eq.mpr hip, Bool.or_true]
    · rw [beq_eq_false_iff_ne.mpr hip, Bool.or_false]

/-- A stored result fills the records that are visited. -/
theorem visited_store (result : IpAddr × Option w.Info) :
    (w.store sessions result).visited = sessions.visited.map fun r => w.fill r result := by
  unfold store fill
  cases result.2 with
  | none => rw [List.map_id']
  | some info =>
    dsimp only
    unfold Sessions.visited
    rw [List.flatMap_map, List.map_flatMap]
    congr 1
    funext hops
    rw [List.flatMap_map, List.map_flatMap]
    congr 1
    funext hop
    exact hop.values_fill w.field result.1 info

/-- The results of a batch, for every responder. -/
theorem visited_foldl_store (results : List (IpAddr × Option w.Info)) :
    (results.foldl w.store sessions).visited =
      sessions.visited.map fun r => results.foldl w.fill r := by
  induction results generalizing sessions with
  | nil => exact (List.map_id' _).symm
  | cons result results ih =>
    rw [List.foldl_cons, ih, visited_store, List.map_map]
    rfl

/-- Any number of results change no address. -/
theorem foldl_fill_ip (results : List (IpAddr × Option w.Info)) (r : Enrichment) :
    (results.foldl w.fill r).ip = r.ip := by
  induction results generalizing r with
  | nil => rfl
  | cons result results ih => rw [List.foldl_cons, ih, fill_ip]

/-- After a batch the responders without data are those that had none and that the batch does not answer. -/
theorem isSome_get_foldl_fill (ips : List IpAddr) (r : Enrichment) :
    (w.field.get ((ips.map fun ip => (ip, w.lookup ip)).foldl w.fill r)).isSome =
      ((w.field.get r).isSome || (w.answers r.ip && decide (r.ip ∈ ips))) := by
  induction ips generalizing r with
  | nil => simp
  | cons ip ips ih =>
    rw [List.map_cons, List.foldl_cons, ih, isSome_get_fill, fill_ip, Bool.or_assoc]
    congr 1
    by_cases hip : r.ip = ip
    · rw [hip, beq_self_eq_true, Bool.and_true, decide_eq_true List.mem_cons_self, Bool.and_true]
      cases w.answers ip with
      | false => rfl
      | true => rfl
    · have hmem : decide (r.ip ∈ ip :: ips) = decide (r.ip ∈ ips) := by
        rw [decide_eq_decide, List.mem_cons]
        exact or_iff_right hip
      rw [beq_eq_false_iff_ne.mpr hip, Bool.and_false, Bool.false_or, hmem]

/-! ## Ticks on what waits -/

/-- A batch is the beginning of what waits. -/
theorem batch_eq_take : w.batch sessions = (w.waiting sessions).take w.cap :=
  collect_nil _ w.cap_pos

/-- A tick drops the answered addresses of the batch. -/
theorem lacking_tick :
    w.lacking (w.tick sessions) =
      (w.lacking sessions).filter fun ip => ! (w.answers ip && decide (ip ∈ w.batch sessions)) := by
  have hfilled : ∀ r : Enrichment,
      (w.field.get (((w.batch sessions).map fun ip => (ip, w.lookup ip)).foldl w.fill r)).isNone =
        ((w.field.get r).isNone && ! (w.answers r.ip && decide (r.ip ∈ w.batch sessions))) := by
    intro r
    rw [← Option.not_isSome, isSome_get_foldl_fill, Bool.not_or, Option.not_isSome]
  unfold lacking
  rw [tick, visited_foldl_store, List.filter_map, List.map_map, List.filter_map, List.filter_filter]
  simp only [Function.comp_def, hfilled, foldl_fill_ip, Bool.and_comm]

/-- A tick drains what waits. -/
theorem waiting_tick :
    w.waiting (w.tick sessions) = drain w.cap w.answers (w.waiting sessions) := by
  rw [waiting, lacking_tick, ← filter_eraseDups, batch_eq_take]
  rfl

/-- Any number of ticks drain it as often. -/
theorem waiting_iterate (k : ℕ) :
    w.waiting (w.tick^[k] sessions) = (drain w.cap w.answers)^[k] (w.waiting sessions) :=
  Function.Semiconj.iterate_right (f := w.waiting) (fun _ => waiting_tick) k sessions

/-- An address waits when a record of it is not filled. -/
theorem mem_waiting {ip : IpAddr} :
    ip ∈ w.waiting sessions ↔ ∃ r ∈ sessions.visited, (w.field.get r).isSome = false ∧ r.ip = ip := by
  rw [waiting, List.mem_eraseDups, lacking, List.mem_map]
  simp only [List.mem_filter, ← Option.not_isSome, Bool.not_eq_true', and_assoc]

/-- Nothing that waits has an answer. -/
theorem done_iff : w.Done sessions ↔ ∀ ip ∈ w.waiting sessions, w.answers ip = false := by
  constructor
  · intro h ip hip
    obtain ⟨r, hr, hget, rfl⟩ := mem_waiting.mp hip
    by_contra hanswers
    rw [h r hr (Bool.not_eq_false _ ▸ hanswers)] at hget
    cases hget
  · intro h r hr hanswers
    by_contra hget
    have hnone := h r.ip (mem_waiting.mpr ⟨r, hr, Bool.eq_false_iff.mpr hget, rfl⟩)
    rw [hanswers] at hnone
    cases hnone

/-- At most all addresses wait. -/
theorem length_waiting_le : (w.waiting sessions).length ≤ sessions.addresses.length := by
  refine (List.subperm_of_subset (nodup_eraseDups _) fun ip hip => ?_).length_le
  obtain ⟨r, hr, -, rfl⟩ := mem_waiting.mp hip
  rw [Sessions.addresses, List.mem_eraseDups]
  exact List.mem_map_of_mem hr

/-- **What the workers reach:** as many ticks as there are addresses give data to every responder whose lookup
answers, exactly when fewer unanswered addresses than a batch holds are ahead of each answered one among
those without data. Otherwise no number of ticks does. -/
theorem progress_iff (w : Worker) (sessions : Sessions) :
    (w.Done (w.tick^[sessions.addresses.length] sessions) ↔ Served w.cap w.answers (w.waiting sessions)) ∧
    ((∃ k, w.Done (w.tick^[k] sessions)) ↔ Served w.cap w.answers (w.waiting sessions)) := by
  simp only [done_iff, waiting_iterate]
  exact drained_iff length_waiting_le

end

section

/-- Ten private addresses. -/
def privateAddresses : List IpAddr :=
  [.V4 ⟨10, 0, 0, 1⟩, .V4 ⟨10, 0, 0, 2⟩, .V4 ⟨10, 0, 0, 3⟩, .V4 ⟨10, 0, 0, 4⟩, .V4 ⟨10, 0, 0, 5⟩,
    .V4 ⟨10, 0, 0, 6⟩, .V4 ⟨10, 0, 0, 7⟩, .V4 ⟨10, 0, 0, 8⟩, .V4 ⟨10, 0, 0, 9⟩, .V4 ⟨10, 0, 0, 10⟩]

/-- An address of an exchange. -/
def exchangeAddress : IpAddr := .V4 ⟨203, 0, 113, 7⟩

/-- The exchange is known, and no other. -/
def exchangeOnly (ip : IpAddr) : Option IxInfo :=
  if ip = exchangeAddress then some ⟨['X'], none, none⟩ else none

/-- Behind ten private hops the exchange is never looked up: the tick takes the same ten every time. -/
theorem progress_fails_private_hops :
    exchangeOnly exchangeAddress = some ⟨['X'], none, none⟩ ∧
    (∀ ip ∈ privateAddresses, exchangeOnly ip = none) ∧
    ∀ k, ¬ (runIxWorker exchangeOnly).Done
      ((runIxWorker exchangeOnly).tick^[k] [(privateAddresses ++ [exchangeAddress]).map Responders.single]) := by
  refine ⟨by decide, by decide, fun k => ?_⟩
  have hfixed :
      (runIxWorker exchangeOnly).tick [(privateAddresses ++ [exchangeAddress]).map Responders.single] =
        [(privateAddresses ++ [exchangeAddress]).map Responders.single] := by
    rfl
  rw [Function.iterate_fixed hfixed]
  decide

end

end Worker

end Ttl
