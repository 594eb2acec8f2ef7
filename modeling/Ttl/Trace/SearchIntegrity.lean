import Ttl.Trace.Sound

/-!
# The path MTU search under interleaving

The engine reads the size to send under one lock, sends, and acts on a failed send under another, while
the receiver applies answers in between. `Touched` lists what any step can do to a search. The
receiver's updates are guarded against answers to another size than the one under test, and keep the
search in order. The engine's clamp after `EMSGSIZE` is not: `clampBelow_iff` says exactly when it
keeps the search in order, and in the runs whose clamps all do, every search is in order in every state
(`pmtud_integrity`).
-/

namespace Ttl

open Runs

namespace PmtudState

/-- The bounds are in order, and the size under test is between them while the search goes on. -/
structure Ordered (p : PmtudState) : Prop where
  bounds : p.min_size ≤ p.max_size
  current : p.phase = .Searching → p.min_size ≤ p.current_size ∧ p.current_size ≤ p.max_size

/-- A step of a search that is not reset: the upper bound does not rise, and a completed search stays
as it is. -/
structure Forward (p p' : PmtudState) : Prop where
  max : p'.max_size ≤ p.max_size
  complete : p.phase = .Complete → p'.phase = .Complete ∧ p'.discovered_mtu = p.discovered_mtu

/-- The clamp by a probe of `packet_size` leaves the bounds in order, does not raise the upper one, and
does not end a completed search again with another MTU. -/
def Clampable (p : PmtudState) (packet_size : ℕ) : Prop :=
  p.min_size ≤ packet_size - 1 ∧ packet_size - 1 ≤ p.max_size ∧
    (p.phase = .Complete → packet_size - 1 - p.min_size < 8 → p.discovered_mtu = some p.min_size)

instance (p : PmtudState) (packet_size : ℕ) : Decidable (p.Clampable packet_size) :=
  inferInstanceAs (Decidable (_ ∧ _ ∧ _))

/-- What holds of every search: the bounds are in order, a search that waits can start, and one that
goes on is active. -/
structure Integral (p : PmtudState) : Prop where
  bounds : p.min_size ≤ p.max_size
  waiting : p.phase = .WaitingForDestination → p.startSearch.Active
  searching : p.phase = .Searching → p.Active

/-- A new search is integral. -/
theorem integral_new (ipv6 jumbo : Bool) : (new ipv6 jumbo).Integral where
  bounds := by cases ipv6 <;> cases jumbo <;> decide
  waiting := fun _ => active_startSearch ipv6 jumbo
  searching := by intro h; cases h

/-- An integral search is in order. -/
theorem Integral.ordered {p : PmtudState} (h : p.Integral) : p.Ordered where
  bounds := h.bounds
  current := fun hp => ⟨(h.searching hp).lo.le, (h.searching hp).hi⟩

/-- An active search, or one that converged with its bounds in order, is integral. -/
theorem integral_of_next {p : PmtudState} (hle : p.min_size ≤ p.max_size)
    (h : p.Converged ∨ p.Active) : p.Integral := by
  refine ⟨hle, fun hp => ?_, fun hp => ?_⟩
  · rcases h with h | h
    · cases hp.symm.trans h.phase
    · cases hp.symm.trans h.phase
  · rcases h with h | h
    · cases hp.symm.trans h.phase
    · exact h

/-- An observation at the size under test keeps a search that goes on in order. -/
theorem Integral.observe {p : PmtudState} (h : p.Integral) (hp : p.phase = .Searching)
    (o : Observation) : (p.observe o).Integral ∧ p.Forward (p.observe o) := by
  have hactive := h.searching hp
  have hlo := hactive.lo
  have hhi := hactive.hi
  -- The search goes on, so only the upper bound is at stake.
  have hforward : ∀ {p' : PmtudState}, p'.max_size ≤ p.max_size → p.Forward p' := by
    intro p' hmax
    refine ⟨hmax, fun hc => ?_⟩
    cases hp.symm.trans hc
  cases observe_cases hactive o with
  | counted kind fresh active range size =>
    have hmax := congrArg SearchRange.hi range
    exact ⟨integral_of_next (active.lo.le.trans active.hi) (Or.inr active), hforward hmax.le⟩
  | raised second range next =>
    have hmin := congrArg SearchRange.lo range
    have hmax := congrArg SearchRange.hi range
    simp only [range_lo, range_hi, SearchRange.raise] at hmin hmax
    exact ⟨integral_of_next (by omega) (next.imp id And.left), hforward hmax.le⟩
  | lowered second range next =>
    have hmin := congrArg SearchRange.lo range
    have hmax := congrArg SearchRange.hi range
    simp only [range_lo, range_hi, SearchRange.lower] at hmin hmax
    exact ⟨integral_of_next (by omega) (next.imp id And.left), hforward (by omega)⟩
  | reported below phase found max min =>
    refine ⟨⟨by omega, fun hw => ?_, fun hs => ?_⟩, hforward (by omega)⟩
    · cases phase.symm.trans hw
    · cases phase.symm.trans hs
  | noNews above range next =>
    have hmin := congrArg SearchRange.lo range
    have hmax := congrArg SearchRange.hi range
    simp only [range_lo, range_hi] at hmin hmax
    exact ⟨integral_of_next (by omega) (next.imp id And.left), hforward hmax.le⟩

/-- Starting an integral search that waits keeps it integral, and is a step forward. -/
theorem Integral.startSearch {p : PmtudState} (h : p.Integral)
    (hp : p.phase = .WaitingForDestination) :
    p.startSearch.Integral ∧ p.Forward p.startSearch := by
  have hactive := h.waiting hp
  refine ⟨integral_of_next (hactive.lo.le.trans hactive.hi) (Or.inr hactive), le_rfl, fun hc => ?_⟩
  cases hp.symm.trans hc

/-- What the clamp leaves: the lower bound stays, the upper one is below the probe's size, and the
search converges or goes on with the midpoint, in the phase that it is in. -/
theorem clampBelow_spec (p : PmtudState) (packet_size : ℕ) :
    (p.clampBelow packet_size).min_size = p.min_size ∧
      (p.clampBelow packet_size).max_size = packet_size - 1 ∧
      ((p.clampBelow packet_size).phase =
          if packet_size - 1 - p.min_size < 8 then .Complete else p.phase) ∧
      (p.clampBelow packet_size).discovered_mtu =
        if packet_size - 1 - p.min_size < 8 then some p.min_size else p.discovered_mtu := by
  unfold clampBelow advance
  simp only [isConverged, decide_eq_true_eq]
  split_ifs <;> exact ⟨rfl, rfl, rfl, rfl⟩

/-- A clamp that the search allows keeps it integral. -/
theorem Integral.clampBelow {p : PmtudState} (h : p.Integral) {packet_size : ℕ}
    (hc : p.Clampable packet_size) :
    (p.clampBelow packet_size).Integral ∧ p.Forward (p.clampBelow packet_size) := by
  obtain ⟨hmin, hmax, hphase, hfound⟩ := clampBelow_spec p packet_size
  obtain ⟨hlow, hhigh, hdone⟩ := hc
  have hsmall : p.phase = .WaitingForDestination ∨ p.phase = .Searching → p.max_size ≤ 9216 := by
    rintro (hp | hp)
    · exact (h.waiting hp).small
    · exact (h.searching hp).small
  refine ⟨⟨by omega, fun hw => ?_, fun hs => ?_⟩, by omega, fun hcomplete => ?_⟩
  · -- A search that waits and does not converge starts above the lower bound.
    rw [hphase] at hw
    split_ifs at hw with hconv
    have hle := hsmall (Or.inl hw)
    refine ⟨rfl, ?_, le_rfl, ?_, ?_⟩
    · show (p.clampBelow packet_size).min_size < (p.clampBelow packet_size).max_size
      omega
    · show (p.clampBelow packet_size).max_size ≤ 9216
      omega
    · show (p.clampBelow packet_size).successes + (p.clampBelow packet_size).failures ≤ 1
      unfold PmtudState.clampBelow advance
      split_ifs <;> exact Nat.zero_le _
  · -- A search that goes on does so at the midpoint of the clamped range.
    have hgoing := hphase.symm.trans hs
    split_ifs at hgoing with hconv
    have hle := hsmall (Or.inr hgoing)
    have hnext : (p.clampBelow packet_size).Converged ∨ (p.clampBelow packet_size).Active ∧ _ :=
      @advance_spec { p with max_size := packet_size - 1, successes := 0, failures := 0 }
        hgoing hlow (by dsimp only; omega) rfl rfl
    rcases hnext with hnext | hnext
    · cases hs.symm.trans hnext.phase
    · exact hnext.1
  · -- A completed search is completed again only with the MTU that it has.
    rw [hphase, hfound]
    split_ifs with hconv
    · exact ⟨rfl, (hdone hcomplete hconv).symm⟩
    · exact ⟨hcomplete, rfl⟩

/-- The clamp keeps an integral search in order exactly when the search allows it. -/
theorem clampBelow_iff {p : PmtudState} (h : p.Integral) (packet_size : ℕ) :
    (p.clampBelow packet_size).Ordered ∧ p.Forward (p.clampBelow packet_size) ↔
      p.Clampable packet_size := by
  constructor
  · rintro ⟨hordered, hforward⟩
    obtain ⟨hmin, hmax, hphase, hfound⟩ := clampBelow_spec p packet_size
    have hbounds := hordered.bounds
    have hle := hforward.max
    refine ⟨by omega, by omega, fun hcomplete hconv => ?_⟩
    rw [← (hforward.complete hcomplete).2, hfound, if_pos hconv]
  · intro hc
    obtain ⟨hintegral, hforward⟩ := h.clampBelow hc
    exact ⟨hintegral.ordered, hforward⟩

end PmtudState

/-- The updates of a response and of a polled response touch the search only at the size under test. -/
theorem Session.onCurrentSize_cases {x : Session} {packet_size : Option ℕ}
    {f : PmtudState → PmtudState} {p' : PmtudState}
    (h : (x.onCurrentSize packet_size f).pmtud = some p') :
    ∃ p, x.pmtud = some p ∧ (p' = p ∨ p.phase = .Searching ∧ p' = f p) := by
  obtain ⟨p, hp, rfl⟩ := Option.map_eq_some_iff.mp h
  refine ⟨p, hp, ?_⟩
  split_ifs with hc
  · exact Or.inr ⟨hc.1, rfl⟩
  · exact Or.inl rfl

namespace Tracer

/-- The search of a target. -/
def search (s : Tracer) (t : IpAddr) : Option PmtudState :=
  (s.sessions.lookup t).bind (·.pmtud)

/-- What a step can do to the search of the target `t`. -/
inductive Touched (s : Tracer) (a : Action) (t : IpAddr) (p : PmtudState) : PmtudState → Prop
  | same : Touched s a t p p
  | started (phase : p.phase = .WaitingForDestination) : Touched s a t p p.startSearch
  | observed {o} (phase : p.phase = .Searching) : Touched s a t p (p.observe o)
  | clamped {size} (action : a = .pmtudClamp t) (pc : (s.engines t).pc = .pmtudTooBig size) :
      Touched s a t p (p.clampBelow size)
  | renewed {ipv6 jumbo} (action : a = .reset t) : Touched s a t p (PmtudState.new ipv6 jumbo)

section

variable {env : Env} {s s' : Tracer} {a : Action} {t : IpAddr}

/-- An update of a session touches its search in one of these ways. -/
theorem Update.pmtud {f : Session → Session} {x : Session} {p' : PmtudState}
    (hu : Update env s a t f) (h : (f x).pmtud = some p') :
    ∃ p, x.pmtud = some p ∧ Touched s a t p p' := by
  cases hu with
  | pmtudCheck pc =>
    obtain ⟨pmtud, heq, hcase⟩ := Session.checkPmtudReady_eq (env.config t) x
    dsimp only at h
    rw [heq] at h
    rcases hcase with rfl | ⟨p, hp, hphase, rfl⟩
    · exact ⟨p', h, .same⟩
    · obtain rfl := Option.some.inj h
      exact ⟨p, hp, .started hphase⟩
  | clamp pc =>
    obtain ⟨p, hp, rfl⟩ := Option.map_eq_some_iff.mp h
    exact ⟨p, hp, .clamped rfl pc⟩
  | polled pc =>
    rw [Session.applyPolled_eq] at h
    obtain ⟨p, hp, rfl | ⟨hphase, rfl⟩⟩ := Session.onCurrentSize_cases h
    · exact ⟨p', hp, .same⟩
    · exact ⟨p, hp, @Touched.observed _ _ _ _ .success hphase⟩
  | applied phase head =>
    rw [Session.applyResponse_eq] at h
    obtain ⟨p, hp, rfl | ⟨hphase, rfl⟩⟩ := Session.onCurrentSize_cases h
    · exact ⟨p', hp, .same⟩
    · exact ⟨p, hp, .observed hphase⟩
  | timedOut phase =>
    rw [Session.recordPendingTimeout_eq] at h
    dsimp only at h
    split_ifs at h
    · obtain ⟨p, hp, rfl | ⟨hphase, rfl⟩⟩ := Session.onCurrentSize_cases h
      · exact ⟨p', hp, .same⟩
      · exact ⟨p, hp, @Touched.observed _ _ _ _ .failure hphase⟩
    · exact ⟨p', h, .same⟩
  | reset =>
    obtain ⟨p, hp, rfl⟩ := Option.map_eq_some_iff.mp h
    exact ⟨p, hp, .renewed rfl⟩
  | _ => exact ⟨p', h, .same⟩

/-- So does a step. -/
theorem Step.search {p' : PmtudState} (h : Step env s a s') (hp : s'.search t = some p') :
    ∃ p, s.search t = some p ∧ Touched s a t p p' := by
  obtain ⟨x', hx', hp'⟩ := Option.bind_eq_some_iff.mp hp
  obtain ⟨x, hx, rfl | ⟨f, hu, rfl⟩⟩ := h.lookup_session hx'
  · exact ⟨p', Option.bind_eq_some_iff.mpr ⟨x', hx, hp'⟩, .same⟩
  · obtain ⟨p, hp, htouched⟩ := hu.pmtud hp'
    exact ⟨p, Option.bind_eq_some_iff.mpr ⟨x, hx, hp⟩, htouched⟩

end

/-- The search allows the clamp that an engine at `pc` is about to make. -/
def AllowsClamp (search : Option PmtudState) (pc : EnginePc) : Prop :=
  match pc with
  | .pmtudTooBig size => ∀ p ∈ search, p.Clampable size
  | _ => True

instance (search : Option PmtudState) : DecidablePred (AllowsClamp search) := fun pc => by
  apply @EnginePc.casesOn (fun pc => Decidable (AllowsClamp search pc)) pc <;> intros <;>
    dsimp only [AllowsClamp] <;> infer_instance

/-- What a step must meet for the searches to stay in order: the search allows the clamp. -/
def ClampsInOrder (s : Tracer) : Action → Prop
  | .pmtudClamp t => AllowsClamp (s.search t) (s.engines t).pc
  | _ => True

instance (s : Tracer) : DecidablePred s.ClampsInOrder := fun a => by
  apply @Action.casesOn (fun a => Decidable (s.ClampsInOrder a)) a <;> intros <;>
    dsimp only [ClampsInOrder] <;> infer_instance

/-- A step that does not reset the search of a target takes it forward. -/
def Forwards (env : Env) (s : Tracer) (a : Action) : Prop :=
  ∀ s', step env s a = some s' → ∀ t, a ≠ .reset t →
    ∀ p p', s.search t = some p → s'.search t = some p' → p.Forward p'

section

variable {env : Env} {s s' : Tracer} {a : Action}

/-- A step whose clamp the search allows keeps a search integral, and takes it forward if it does not
reset it. -/
theorem Touched.integral {t : IpAddr} {p p' : PmtudState} (ht : Touched s a t p p')
    (hp : p.Integral) (hsearch : s.search t = some p) (hc : s.ClampsInOrder a) :
    p'.Integral ∧ (a ≠ .reset t → p.Forward p') := by
  cases ht with
  | same => exact ⟨hp, fun _ => ⟨le_rfl, fun h => ⟨h, rfl⟩⟩⟩
  | started phase => exact (hp.startSearch phase).imp id fun h _ => h
  | observed phase => exact (hp.observe phase _).imp id fun h _ => h
  | clamped action pc =>
    -- The only update that is not guarded by the size under test.
    subst action
    simp only [ClampsInOrder, AllowsClamp, pc] at hc
    exact (hp.clampBelow (hc p hsearch)).imp id fun h _ => h
  | renewed action => exact ⟨PmtudState.integral_new _ _, fun h => absurd action h⟩

/-- Every search is integral. -/
def SearchesIntegral (s : Tracer) : Prop := ∀ t p, s.search t = some p → p.Integral

/-- At the start every search is new. -/
theorem searchesIntegral_init (targets : List IpAddr) (now : ℕ) :
    (init env targets now).SearchesIntegral := by
  intro t p hp
  obtain ⟨x, hx, hp⟩ := Option.bind_eq_some_iff.mp hp
  rw [lookup_init] at hx
  split_ifs at hx
  obtain rfl := Option.some.inj hx
  simp only [Session.new] at hp
  split_ifs at hp
  obtain rfl := Option.some.inj hp
  exact PmtudState.integral_new _ _

/-- Every step that clamps in order keeps the searches integral. -/
theorem SearchesIntegral.step (h : s.SearchesIntegral) (hc : s.ClampsInOrder a)
    (hstep : Step env s a s') : s'.SearchesIntegral := by
  intro t p' hp'
  obtain ⟨p, hp, ht⟩ := hstep.search hp'
  exact (ht.integral (h t p hp) hp hc).1

/-- Every step that clamps in order takes the searches forward. -/
theorem SearchesIntegral.forwards (h : s.SearchesIntegral) (hc : s.ClampsInOrder a) :
    Forwards env s a := by
  intro s' hstep t hreset p p' hp hp'
  obtain ⟨q, hq, ht⟩ := (Step.of_step hstep).search hp'
  obtain rfl := Option.some.inj (hp.symm.trans hq)
  exact (ht.integral (h t p hp) hp hc).2 hreset

/-- A clamp keeps a search in order exactly when the search allows it. In a run whose clamps the
searches allow, every search is in order in every state, and goes forward until it is reset. -/
theorem pmtud_integrity (env : Env) :
    (∀ (p : PmtudState) (packet_size : ℕ), p.Integral →
      ((p.clampBelow packet_size).Ordered ∧ p.Forward (p.clampBelow packet_size) ↔
        p.Clampable packet_size)) ∧
    ∀ targets now as s, run (Tracer.step env) (init env targets now) as = some s →
      StepsMeet (Tracer.step env) ClampsInOrder (init env targets now) as →
      (∀ t p, s.search t = some p → p.Ordered) ∧
        StepsMeet (Tracer.step env) (Forwards env) (init env targets now) as := by
  refine ⟨fun p packet_size h => PmtudState.clampBelow_iff h packet_size, ?_⟩
  intro targets now as s h hc
  have hintegral : s.SearchesIntegral :=
    run_induction_of (fun _ s => SearchesIntegral s) (searchesIntegral_init targets now)
      (fun _ _ _ _ _ hc ih hstep => ih.step hc (.of_step hstep)) as s h hc
  refine ⟨fun t p hp => (hintegral t p hp).ordered, ?_⟩
  exact StepsMeet.of_invariant SearchesIntegral (fun _ _ _ ih hc hstep => ih.step hc (.of_step hstep))
    (fun _ _ ih hc => ih.forwards hc) (searchesIntegral_init targets now) hc

/-- Fragmentation Needed for the first path MTU probe, with the MTU 1400. -/
def sampleReport : ParsedResponse :=
  ⟨sampleTarget, ⟨1, 0⟩, .DestUnreachable 4, false, none, none, none, some 1400, none,
    some sampleTarget⟩

/-- Up to the second path MTU probe, whose size is read and which is about to be sent. -/
def secondProbe : List Action :=
  [.tick sampleTarget, .beginRound sampleTarget, .register sampleTarget, .sendOk sampleTarget,
    .receive false sampleReply none [sampleTarget], .drained false, .apply false,
    .pmtudCheck sampleTarget, .pmtudSize sampleTarget, .pmtudRegister sampleTarget,
    .pmtudSendOk sampleTarget, .endRound sampleTarget, .checkCancel false, .expire false,
    .recorded false, .tick sampleTarget, .beginRound sampleTarget, .register sampleTarget,
    .sendOk sampleTarget, .pmtudCheck sampleTarget, .pmtudSize sampleTarget,
    .pmtudRegister sampleTarget]

/-- The failed send of the second probe and its clamp. -/
def failedSend : List Action := [.pmtudSendErr sampleTarget true, .pmtudClamp sampleTarget]

/-- The report on the first probe. -/
def report : List Action :=
  [.receive false sampleReport none [sampleTarget], .drained false, .apply false]

/-- A clamp of a search that goes on at the size of the failed probe, and the run of one. -/
theorem pmtud_integrity_clamped :
    ((PmtudState.new false false).startSearch.clampBelow 1500).Ordered ∧
    ∃ s, run (Tracer.step (.icmp none 1 true)) (init (.icmp none 1 true) [sampleTarget] 0)
      (secondProbe ++ failedSend) = some s ∧ ∀ t p, s.search t = some p → p.Ordered := by
  obtain ⟨hclamp, hruns⟩ := pmtud_integrity (.icmp none 1 true)
  constructor
  · refine ((hclamp _ 1500 ?_).mpr (by decide)).1
    exact ((PmtudState.integral_new false false).startSearch rfl).1
  · have hsome : (run (Tracer.step (.icmp none 1 true)) (init (.icmp none 1 true) [sampleTarget] 0)
      (secondProbe ++ failedSend)).isSome := by decide
    obtain ⟨s, hs⟩ := Option.isSome_iff_exists.mp hsome
    exact ⟨s, hs, (hruns _ _ _ s hs (by decide)).1⟩

/-- When the report on the first probe is applied before the second send fails, the search is complete
at 1400, and the clamp raises its upper bound to 1499. -/
theorem pmtud_integrity_fails_stale_clamp :
    (∃ s, run (Tracer.step (.icmp none 1 true)) (init (.icmp none 1 true) [sampleTarget] 0)
      (secondProbe ++ report) = some s ∧
      (s.search sampleTarget).map (fun p => (p.phase, p.max_size)) = some (.Complete, 1400)) ∧
    ∃ s, run (Tracer.step (.icmp none 1 true)) (init (.icmp none 1 true) [sampleTarget] 0)
      (secondProbe ++ report ++ failedSend) = some s ∧
      (s.search sampleTarget).map (fun p => (p.phase, p.max_size)) = some (.Complete, 1499) :=
  ⟨exists_run _ (by decide), exists_run _ (by decide)⟩

end

end Tracer

end Ttl
