import Ttl.State.Pmtud

/-!
# Path MTU discovery against arbitrary reports

A router may report any MTU. A report below the upper bound ends the search with what it says, be it below the
protocol's minimum or below a size that two successes have confirmed, as the comment in `record_frag_needed` of
`src/state/session.rs` has it: the router is trusted directly. `discovered_mtu_bounds` says what holds whatever the
reports are: the result is at most the initial upper bound, and a search that no report ended keeps the lower bounds.

`Trial` runs the search with the sizes that two consecutive successes confirmed. They are read off the observations and
not off the counters of the search.
-/

namespace Ttl

namespace PmtudState

/-- A search and what it has been told. -/
structure Trial where
  state : PmtudState
  /-- The size of the last observation, when that was a success. -/
  last_success : Option ℕ
  /-- The sizes with two consecutive successes. -/
  confirmed : List ℕ
deriving DecidableEq

namespace Trial

/-- The start of a search. -/
def start (ipv6 jumbo : Bool) : Trial := ⟨(new ipv6 jumbo).startSearch, none, []⟩

/-- One observation. The receiver and the engine have none for a search that is over. -/
def observe (t : Trial) (o : Observation) : Trial :=
  if t.state.phase = .Searching then
    { state := t.state.observe o
      last_success := if o = .success then some t.state.current_size else none
      confirmed :=
        if o = .success ∧ t.last_success = some t.state.current_size then t.state.current_size :: t.confirmed
        else t.confirmed }
  else t

/-- A sequence of observations. -/
def run (ipv6 jumbo : Bool) (obs : List Observation) : Trial := obs.foldl observe (start ipv6 jumbo)

/-- A search that goes on, between the bounds `lo` and `hi` that it started with. -/
structure Ongoing (t : Trial) (lo hi : ℕ) : Prop where
  active : t.state.Active
  lo_le : lo ≤ t.state.min_size
  le_hi : t.state.max_size ≤ hi
  confirmed : ∀ size ∈ t.confirmed, size ≤ t.state.min_size
  /-- The counter and the last observation agree. -/
  counter : t.state.successes = 1 ↔ t.last_success = some t.state.current_size

/-- A search that is over, with a result that all bounds hold of. -/
structure Bounded (t : Trial) (lo hi : ℕ) : Prop where
  phase : t.state.phase = .Complete
  result : ∃ mtu, t.state.discovered_mtu = some mtu ∧ lo ≤ mtu ∧ mtu ≤ hi ∧ ∀ size ∈ t.confirmed, size ≤ mtu

/-- The observation is a report that ends the search. -/
def EndsWith (t : Trial) (o : Observation) (mtu : ℕ) : Prop :=
  o = .fragNeeded mtu ∧ t.state.phase = .Searching ∧ mtu < t.state.max_size

section

variable {t : Trial} {lo hi : ℕ} {o : Observation} {s' : PmtudState} {last : Option ℕ} {confirmed : List ℕ}

/-- What follows a narrowed range. -/
theorem of_next (hlo : lo ≤ s'.min_size) (hle : s'.min_size ≤ s'.max_size) (hhi : s'.max_size ≤ hi)
    (hconfirmed : ∀ size ∈ confirmed, size ≤ s'.min_size) (hlast : s'.Active → last ≠ some s'.current_size)
    (next : s'.Converged ∨ s'.Active ∧ s'.successes = 0 ∧ s'.failures = 0) :
    (Trial.mk s' last confirmed).Ongoing lo hi ∨ (Trial.mk s' last confirmed).Bounded lo hi := by
  obtain hconv | ⟨hactive, hzero, -⟩ := next
  · exact .inr ⟨hconv.phase, s'.min_size, hconv.mtu, hlo, hle.trans hhi, hconfirmed⟩
  · refine .inl ⟨hactive, hlo, hhi, hconfirmed, ?_⟩
    dsimp only
    rw [hzero]
    exact iff_of_false nofun (hlast hactive)

/-- An observation leaves the search going on, or ends it within all bounds, or is a report that ends it. -/
theorem Ongoing.observe (h : t.Ongoing lo hi) (o : Observation) :
    (t.observe o).Ongoing lo hi ∨ (t.observe o).Bounded lo hi ∨
      ∃ mtu, t.EndsWith o mtu ∧ (t.observe o).state.phase = .Complete ∧
        (t.observe o).state.discovered_mtu = some mtu := by
  obtain ⟨hactive, hlo, hhi, hconfirmed, hcounter⟩ := h
  have hcases := observe_cases hactive o
  unfold Trial.observe
  rw [if_pos hactive.phase]
  generalize t.state.observe o = s' at hcases
  have hlocur := hactive.lo
  have hcurhi := hactive.hi
  have hcount := hactive.count
  cases hcases with
  | counted kind fresh active range size =>
    -- Nothing is confirmed: a second success would have been counted as such.
    have hmin : s'.min_size = t.state.min_size := congrArg SearchRange.lo range
    have hmax : s'.max_size = t.state.max_size := congrArg SearchRange.hi range
    have hnew : ¬(o = .success ∧ t.last_success = some t.state.current_size) := fun ⟨ho, hl⟩ =>
      fresh (.inl ⟨ho, hcounter.mpr hl⟩)
    rw [if_neg hnew]
    refine .inl ⟨active, hmin ▸ hlo, hmax ▸ hhi, hmin ▸ hconfirmed, ?_⟩
    dsimp only
    have hcount' := active.count
    obtain ⟨rfl, hone⟩ | ⟨rfl, hone⟩ := kind
    · rw [if_pos rfl, size]
      exact iff_of_true hone rfl
    · rw [if_neg nofun]
      exact iff_of_false (by omega) nofun
  | raised second range next =>
    have hmin : s'.min_size = t.state.current_size := congrArg SearchRange.lo range
    have hmax : s'.max_size = t.state.max_size := congrArg SearchRange.hi range
    rw [if_pos rfl, if_pos ⟨rfl, hcounter.mp second⟩]
    have hall : ∀ size ∈ t.state.current_size :: t.confirmed, size ≤ s'.min_size := by
      intro size hsize
      obtain rfl | hold := List.mem_cons.mp hsize
      · exact hmin.ge
      · have hle := hconfirmed size hold
        omega
    have hlast : s'.Active → some t.state.current_size ≠ some s'.current_size := by
      intro hnext heq
      have hlo' := hnext.lo
      rw [← Option.some.inj heq] at hlo'
      omega
    refine (of_next ?_ ?_ ?_ hall hlast next).imp_right .inl
    · omega
    · omega
    · omega
  | lowered second range next =>
    have hmin : s'.min_size = t.state.min_size := congrArg SearchRange.lo range
    have hmax : s'.max_size = t.state.current_size - 1 := congrArg SearchRange.hi range
    rw [if_neg nofun, if_neg nofun]
    refine (of_next ?_ ?_ ?_ (hmin ▸ hconfirmed) (fun _ => Option.some_ne_none _ |>.symm) next).imp_right .inl
    · omega
    · omega
    · omega
  | reported below phase found max min =>
    exact .inr (.inr ⟨_, ⟨rfl, hactive.phase, below⟩, phase, found⟩)
  | noNews above range next =>
    have hmin : s'.min_size = t.state.min_size := congrArg SearchRange.lo range
    have hmax : s'.max_size = t.state.max_size := congrArg SearchRange.hi range
    rw [if_neg nofun, if_neg nofun]
    refine (of_next ?_ ?_ ?_ (hmin ▸ hconfirmed) (fun _ => Option.some_ne_none _ |>.symm) next).imp_right .inl
    · omega
    · omega
    · omega

end

/-! ## Runs -/

/-- The protocol's minimum. -/
def protocolMin (ipv6 : Bool) : ℕ := if ipv6 then 1280 else 68

/-- The local maximum. -/
def localMax (jumbo : Bool) : ℕ := if jumbo then 9216 else 1500

variable {ipv6 jumbo : Bool}

/-- A report among the observations has ended the search. -/
def EndedBy (ipv6 jumbo : Bool) (obs : List Observation) (mtu : ℕ) : Prop :=
  ∃ before after, obs = before ++ .fragNeeded mtu :: after ∧ (run ipv6 jumbo before).EndsWith (.fragNeeded mtu) mtu

/-- What has ended a search stays in the observations. -/
theorem EndedBy.concat {obs : List Observation} {mtu : ℕ} (h : EndedBy ipv6 jumbo obs mtu) (o : Observation) :
    EndedBy ipv6 jumbo (obs ++ [o]) mtu := by
  obtain ⟨before, after, rfl, hends⟩ := h
  exact ⟨before, after ++ [o], by rw [List.append_assoc, List.cons_append], hends⟩

/-- Where a run is: the search goes on, or is over within all bounds, or a report has ended it. -/
inductive Reached (ipv6 jumbo : Bool) (obs : List Observation) (t : Trial) : Prop
  | ongoing (h : t.Ongoing (protocolMin ipv6) (localMax jumbo))
  | bounded (h : t.Bounded (protocolMin ipv6) (localMax jumbo))
  | reported (mtu : ℕ) (phase : t.state.phase = .Complete) (found : t.state.discovered_mtu = some mtu)
      (le : mtu ≤ localMax jumbo) (ended : EndedBy ipv6 jumbo obs mtu)

/-- A search that starts goes on. -/
theorem ongoing_start : (start ipv6 jumbo).Ongoing (protocolMin ipv6) (localMax jumbo) where
  active := active_startSearch ipv6 jumbo
  lo_le := le_rfl
  le_hi := le_rfl
  confirmed := nofun
  counter := iff_of_false nofun nofun

/-- A search that is over takes no observation. -/
theorem observe_of_complete {t : Trial} (h : t.state.phase = .Complete) (o : Observation) : t.observe o = t := by
  rw [observe, if_neg (by rw [h]; exact nofun)]

/-- After any observations the search goes on, or one of them has ended it. -/
theorem reached_run (ipv6 jumbo : Bool) (obs : List Observation) : Reached ipv6 jumbo obs (run ipv6 jumbo obs) := by
  induction obs using List.reverseRecOn with
  | nil => exact .ongoing ongoing_start
  | append_singleton obs o ih =>
    have hrun : run ipv6 jumbo (obs ++ [o]) = (run ipv6 jumbo obs).observe o := by
      rw [run, List.foldl_append, List.foldl_cons, List.foldl_nil, run]
    cases ih with
    | ongoing h =>
      rw [hrun]
      obtain hgoes | hbounded | ⟨mtu, hends, hphase, hfound⟩ := h.observe o
      · exact .ongoing hgoes
      · exact .bounded hbounded
      · obtain ⟨rfl, hsearching, hbelow⟩ := hends
        exact .reported mtu hphase hfound (hbelow.le.trans h.le_hi) ⟨obs, [], rfl, rfl, hsearching, hbelow⟩
    | bounded h =>
      rw [hrun, observe_of_complete h.phase]
      exact .bounded h
    | reported mtu hphase hfound hle hended =>
      rw [hrun, observe_of_complete hphase]
      exact .reported mtu hphase hfound hle (hended.concat o)

end Trial

open Trial

/-- **The result of a search against arbitrary reports.** It is at most the initial upper bound, and it is what the
report said that ended the search, or else at least the protocol's minimum and each confirmed size. -/
theorem discovered_mtu_bounds (ipv6 jumbo : Bool) (obs : List Observation)
    (hcomplete : (run ipv6 jumbo obs).state.phase = .Complete) :
    ∃ mtu, (run ipv6 jumbo obs).state.discovered_mtu = some mtu ∧
      mtu ≤ (new ipv6 jumbo).max_size ∧
      (EndedBy ipv6 jumbo obs mtu ∨
        (new ipv6 jumbo).min_size ≤ mtu ∧ ∀ size ∈ (run ipv6 jumbo obs).confirmed, size ≤ mtu) := by
  cases reached_run ipv6 jumbo obs with
  | ongoing h =>
    have hphase := h.active.phase
    rw [hcomplete] at hphase
    cases hphase
  | bounded h =>
    obtain ⟨mtu, hfound, hlo, hhi, hconfirmed⟩ := h.result
    exact ⟨mtu, hfound, hhi, .inr ⟨hlo, hconfirmed⟩⟩
  | reported mtu hphase hfound hle hended => exact ⟨mtu, hfound, hle, .inl hended⟩

/-- A search whose first answers confirm a size ends at a report below it. -/
theorem discovered_mtu_bounds_report :
    ∃ mtu, (run false false [.failure, .failure, .success, .success, .fragNeeded 1000]).state.discovered_mtu = some mtu ∧
      mtu ≤ (new false false).max_size ∧
      (EndedBy false false [.failure, .failure, .success, .success, .fragNeeded 1000] mtu ∨
        (new false false).min_size ≤ mtu ∧
          ∀ size ∈ (run false false [.failure, .failure, .success, .success, .fragNeeded 1000]).confirmed, size ≤ mtu) :=
  discovered_mtu_bounds false false _ (by decide)

/-- A report can end the search below the protocol's minimum, and below a size that two successes confirmed. -/
theorem discovered_mtu_too_small :
    (run true false [.fragNeeded 0]).state.phase = .Complete ∧
      (run true false [.fragNeeded 0]).state.discovered_mtu = some 0 ∧
      0 < (new true false).min_size ∧
      (run false false [.failure, .failure, .success, .success, .fragNeeded 100]).state.phase = .Complete ∧
      (run false false [.failure, .failure, .success, .success, .fragNeeded 100]).state.discovered_mtu = some 100 ∧
      783 ∈ (run false false [.failure, .failure, .success, .success, .fragNeeded 100]).confirmed := by
  decide

end PmtudState

end Ttl
