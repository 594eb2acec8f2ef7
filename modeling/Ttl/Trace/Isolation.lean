import Ttl.Trace.Delivery

/-!
# Whose probe a reply takes

A reply carries a `ProbeId`, perhaps a source port and the destination that it is about, and the marker
of path MTU probes. Probes of different targets and of the two classes share `ProbeId`s, and the match
falls back from the destination to every traced target, and from the reply's class to the other one. So
a late or duplicated reply whose own entry is gone may take that of another probe.

`matchReply_target_iff` and `matchReply_class_iff` say exactly when the match keeps to the reply's
target and to its class, and `pollMatch_class_iff` is the same for the poll. The marker does not tell more
than the class, and an ICMP error has none, so whether a reply is evidence about the path MTU is a matter of
the probe that it answers: `matchReply_faithful_iff` and `pollMatch_faithful_iff` say exactly when the match
gives it no more than that. The runs whose steps all meet these conditions never credit a reply to another
target (`reply_target_isolation`), and take nothing but a reply to a path MTU probe of the target and size
for evidence about the path MTU (`pmtud_evidence_isolation`).
-/

namespace Ttl

open Runs

/-! ## The target of a reply -/

/-- The reply's destination `D` has a candidate, or no other target does. -/
def ParsedResponse.Clear (config : ReceiverConfig) (pending : PendingMap) (targets : List IpAddr)
    (parsed : ParsedResponse) (D : IpAddr) : Prop :=
  parsed.Finds config pending D ∨ ∀ T ∈ targets, T ≠ D → ¬ parsed.Finds config pending T

instance {config : ReceiverConfig} {pending : PendingMap} {targets : List IpAddr}
    {parsed : ParsedResponse} {D : IpAddr} : Decidable (parsed.Clear config pending targets D) :=
  inferInstanceAs (Decidable (_ ∨ _))

section

variable {config : ReceiverConfig} {pending : PendingMap} {targets : List IpAddr}
  {parsed : ParsedResponse} {D : IpAddr}

/-- A clear reply takes an entry of its destination. -/
theorem target_of_clear (hD : parsed.original_dest = some D)
    (hclear : parsed.Clear config pending targets D) {key : PendingKey}
    (h : matchReply config pending targets parsed = some key) : key.target = D := by
  have hfirst := (chosen_of_matchReply h).1
  rw [ParsedResponse.candidates, hD, Option.toList_some, List.singleton_append,
    List.find?_cons] at hfirst
  split at hfirst
  · exact (Option.some.inj hfirst).symm
  · -- The destination has no candidate, so by clearness no other target has one.
    next hfinds =>
    have hno := hclear.resolve_left (by simpa using hfinds)
    by_contra hne
    exact hno _ (List.mem_of_find?_eq_some hfirst) hne (by simpa using List.find?_some hfirst)

/-- The match keeps to the destination of a reply exactly when the reply is clear. -/
theorem matchReply_target_iff (keyed : pending.WellKeyed) (hD : parsed.original_dest = some D) :
    (∀ key probe, matchReply config pending targets parsed = some key →
      pending.lookup key = some probe → probe.target = D) ↔
      parsed.Clear config pending targets D := by
  constructor
  · intro hkeep
    by_contra hclear
    obtain ⟨hfinds, hsome⟩ := not_or.mp hclear
    push Not at hsome
    obtain ⟨T, hT, -, hTfinds⟩ := hsome
    -- The destination has no candidate, so the first target that has one is another.
    have hfirst : ((parsed.candidates targets).find? (parsed.Finds config pending)).isSome := by
      rw [List.find?_isSome]
      exact ⟨T, List.mem_append_right _ hT, by simpa using hTfinds⟩
    obtain ⟨U, hU⟩ := Option.isSome_iff_exists.mp hfirst
    have hUfinds : parsed.Finds config pending U := by simpa using List.find?_some hU
    obtain ⟨key, hkey, rfl⟩ := exists_matchReply hU
    obtain ⟨probe, hl⟩ :=
      Option.isSome_iff_exists.mp (AList.lookup_isSome.mpr (matchReply_spec hkey).1)
    have htarget := (keyed key probe hl).target.symm.trans (hkeep key probe hkey hl)
    rw [htarget] at hUfinds
    exact hfinds hUfinds
  · intro hclear key probe hkey hl
    rw [(keyed key probe hl).target]
    exact target_of_clear hD hclear hkey

end

/-! ## The class of a reply -/

/-- The first target that has a candidate for the reply has one of the reply's class. -/
def ParsedResponse.InOwnClass (config : ReceiverConfig) (pending : PendingMap)
    (targets : List IpAddr) (parsed : ParsedResponse) : Prop :=
  ∀ T ∈ (parsed.candidates targets).find? (parsed.Finds config pending),
    InClass pending parsed.probe_id (deriveFlowHint config parsed.src_port) parsed.isPmtudResponse T

instance {config : ReceiverConfig} {pending : PendingMap} {targets : List IpAddr}
    {parsed : ParsedResponse} : Decidable (parsed.InOwnClass config pending targets) := by
  unfold ParsedResponse.InOwnClass
  infer_instance

/-- The match keeps to the class of a reply exactly when its first candidate is of that class. -/
theorem matchReply_class_iff {config : ReceiverConfig} {pending : PendingMap}
    {targets : List IpAddr} {parsed : ParsedResponse} :
    (∀ key, matchReply config pending targets parsed = some key →
      key.is_pmtud = parsed.isPmtudResponse) ↔ parsed.InOwnClass config pending targets := by
  constructor
  · intro hkeep T hT
    obtain ⟨key, hkey, rfl⟩ := exists_matchReply hT
    exact (chosen_of_matchReply hkey).2.class_iff.mp (hkeep key hkey)
  · intro hown key hkey
    obtain ⟨hfirst, hchosen⟩ := chosen_of_matchReply hkey
    exact hchosen.class_iff.mpr (hown _ hfirst)

/-- For the poll, which tries the normal probe first: the reply is unmarked, and its normal probe is
pending or no path MTU probe is; or it is marked, and no normal probe is pending. -/
def ParsedResponse.PolledInOwnClass (pending : PendingMap) (target : IpAddr)
    (parsed : ParsedResponse) : Prop :=
  if parsed.is_pmtud then ⟨parsed.probe_id, 0, target, false⟩ ∉ pending
  else ⟨parsed.probe_id, 0, target, true⟩ ∈ pending → ⟨parsed.probe_id, 0, target, false⟩ ∈ pending

instance {pending : PendingMap} {target : IpAddr} {parsed : ParsedResponse} :
    Decidable (parsed.PolledInOwnClass pending target) := by
  unfold ParsedResponse.PolledInOwnClass
  infer_instance

/-- The poll keeps to the class of an Echo Reply exactly under this condition. -/
theorem pollMatch_class_iff {pending : PendingMap} {target : IpAddr} {parsed : ParsedResponse}
    (hecho : parsed.response_type = .EchoReply) :
    (∀ key, pollMatch pending target parsed = some key → key.is_pmtud = parsed.is_pmtud) ↔
      parsed.PolledInOwnClass pending target := by
  unfold pollMatch ParsedResponse.PolledInOwnClass
  rw [if_pos hecho]
  -- The poll tries the normal key first, and the path MTU key after it.
  by_cases hnormal : ⟨parsed.probe_id, 0, target, false⟩ ∈ pending <;>
    by_cases hpmtud : ⟨parsed.probe_id, 0, target, true⟩ ∈ pending <;>
      cases parsed.is_pmtud <;> simp [hnormal, hpmtud]

/-! ## What a reply is evidence of -/

/-- A reply to the probe `origin` may take an entry of this class, target and size: an Echo Reply one of the
class of its marker, every reply one of the class of the probe that it answers, and what counts as a success
that of a path MTU probe only if it answers one of the target and size. -/
structure ParsedResponse.Faithful (parsed : ParsedResponse) (origin : Origin) (is_pmtud : Bool)
    (target : IpAddr) (packet_size : Option ℕ) : Prop where
  marker : parsed.response_type = .EchoReply → is_pmtud = parsed.is_pmtud
  own_class : ∀ o ∈ origin, o.1.is_pmtud = is_pmtud
  evidence : is_pmtud = true → parsed.response_type.isFragNeeded = false →
    ∃ o ∈ origin, o.1.target = target ∧ o.2.packet_size = packet_size

instance {parsed : ParsedResponse} {origin : Origin} {is_pmtud : Bool} {target : IpAddr}
    {packet_size : Option ℕ} : Decidable (parsed.Faithful origin is_pmtud target packet_size) :=
  decidable_of_iff ((parsed.response_type = .EchoReply → is_pmtud = parsed.is_pmtud) ∧
      (∀ o ∈ origin, o.1.is_pmtud = is_pmtud) ∧
      (is_pmtud = true → parsed.response_type.isFragNeeded = false →
        ∃ o ∈ origin, o.1.target = target ∧ o.2.packet_size = packet_size))
    ⟨fun h => ⟨h.1, h.2.1, h.2.2⟩, fun h => ⟨h.marker, h.own_class, h.evidence⟩⟩

/-- The class of the candidate that a target has for a reply: the reply's own where it has one of that. -/
def ParsedResponse.candidateClass (config : ReceiverConfig) (pending : PendingMap)
    (parsed : ParsedResponse) (target : IpAddr) : Bool :=
  if InClass pending parsed.probe_id (deriveFlowHint config parsed.src_port) parsed.isPmtudResponse target
  then parsed.isPmtudResponse else ! parsed.isPmtudResponse

/-- The first target that has a candidate for the reply to `origin` has one that it may take. -/
def ParsedResponse.Attested (config : ReceiverConfig) (pending : PendingMap) (targets : List IpAddr)
    (parsed : ParsedResponse) (origin : Origin) : Prop :=
  ∀ T ∈ (parsed.candidates targets).find? (parsed.Finds config pending),
    parsed.Faithful origin (parsed.candidateClass config pending T) T
      ((pending.lookup ⟨parsed.probe_id, 0, T, true⟩).bind PendingProbe.packet_size)

instance {config : ReceiverConfig} {pending : PendingMap} {targets : List IpAddr}
    {parsed : ParsedResponse} {origin : Origin} : Decidable (parsed.Attested config pending targets origin) := by
  unfold ParsedResponse.Attested
  infer_instance

/-- For the poll: its normal probe is one that the Echo Reply may take, or where none is pending its path MTU
probe is. -/
def ParsedResponse.PolledAttested (pending : PendingMap) (target : IpAddr) (parsed : ParsedResponse)
    (origin : Origin) : Prop :=
  parsed.response_type = .EchoReply →
    if ⟨parsed.probe_id, 0, target, false⟩ ∈ pending then parsed.Faithful origin false target none
    else ∀ probe ∈ pending.lookup ⟨parsed.probe_id, 0, target, true⟩,
      parsed.Faithful origin true target probe.packet_size

instance {pending : PendingMap} {target : IpAddr} {parsed : ParsedResponse} {origin : Origin} :
    Decidable (parsed.PolledAttested pending target origin) := by
  unfold ParsedResponse.PolledAttested
  infer_instance

section

variable {pending : PendingMap} {parsed : ParsedResponse} {origin : Origin} {is_pmtud : Bool}
  {target : IpAddr}

/-- The size matters for path MTU probes only. -/
theorem ParsedResponse.Faithful.congr {size size' : Option ℕ}
    (h : parsed.Faithful origin is_pmtud target size) (hsize : is_pmtud = true → size = size') :
    parsed.Faithful origin is_pmtud target size' where
  marker := h.marker
  own_class := h.own_class
  evidence := by
    intro hpmtud hfrag
    rw [← hsize hpmtud]
    exact h.evidence hpmtud hfrag

/-- A match takes an entry of the class of its target's candidate. -/
theorem class_of_matchReply {config : ReceiverConfig} {targets : List IpAddr} {key : PendingKey}
    (h : matchReply config pending targets parsed = some key) :
    key.is_pmtud = parsed.candidateClass config pending key.target := by
  have hclass := (chosen_of_matchReply h).2.class_iff
  unfold ParsedResponse.candidateClass
  split_ifs with hin
  · exact hclass.mpr hin
  · exact Bool.eq_not_of_ne fun he => hin (hclass.mp he)

/-- The size of a path MTU probe is read under the flow 0. -/
theorem PendingMap.OneFlow.size {key : PendingKey} {probe : PendingProbe} (hflow : pending.OneFlow)
    (hl : pending.lookup key = some probe) (hid : key.probe_id = parsed.probe_id)
    (hpmtud : key.is_pmtud = true) :
    probe.packet_size =
      (pending.lookup ⟨parsed.probe_id, 0, key.target, true⟩).bind PendingProbe.packet_size := by
  have hmem : key ∈ pending := AList.lookup_isSome.mp (by rw [hl]; rfl)
  have hkey : key = ⟨parsed.probe_id, 0, key.target, true⟩ := by
    rw [← hid, ← hflow key hmem hpmtud, ← hpmtud]
  rw [← hkey, hl]
  rfl

/-- The receiver's match takes only what the reply may take exactly under this condition. -/
theorem matchReply_faithful_iff {config : ReceiverConfig} {targets : List IpAddr}
    (hflow : pending.OneFlow) :
    (∀ key probe, matchReply config pending targets parsed = some key → pending.lookup key = some probe →
      parsed.Faithful origin key.is_pmtud key.target probe.packet_size) ↔
      parsed.Attested config pending targets origin := by
  constructor
  · intro hkeep T hT
    obtain ⟨key, hkey, rfl⟩ := exists_matchReply hT
    obtain ⟨hmem, hid⟩ := matchReply_spec hkey
    obtain ⟨probe, hl⟩ := Option.isSome_iff_exists.mp (AList.lookup_isSome.mpr hmem)
    rw [← class_of_matchReply hkey]
    exact (hkeep key probe hkey hl).congr (hflow.size hl hid)
  · intro hattested key probe hkey hl
    have hid := (matchReply_spec hkey).2
    have hfaithful := hattested key.target (chosen_of_matchReply hkey).1
    rw [← class_of_matchReply hkey] at hfaithful
    exact hfaithful.congr fun hpmtud => (hflow.size hl hid hpmtud).symm

/-- So does the poll's. -/
theorem pollMatch_faithful_iff :
    (∀ key probe, pollMatch pending target parsed = some key → pending.lookup key = some probe →
      parsed.Faithful origin key.is_pmtud key.target probe.packet_size) ↔
      parsed.PolledAttested pending target origin := by
  unfold pollMatch ParsedResponse.PolledAttested
  by_cases hecho : parsed.response_type = .EchoReply
  · rw [if_pos hecho]
    by_cases hnormal : ⟨parsed.probe_id, 0, target, false⟩ ∈ pending
    · rw [if_pos hnormal, if_pos hnormal]
      obtain ⟨probe, hl⟩ := Option.isSome_iff_exists.mp (AList.lookup_isSome.mpr hnormal)
      constructor
      · intro hkeep _
        exact (hkeep _ probe rfl hl).congr fun h => by cases h
      · rintro hattested key probe' ⟨⟩ -
        exact (hattested hecho).congr fun h => by cases h
    · rw [if_neg hnormal, if_neg hnormal]
      constructor
      · intro hkeep _ probe hl
        have hmem : ⟨parsed.probe_id, 0, target, true⟩ ∈ pending :=
          AList.lookup_isSome.mp (by rw [Option.mem_def.mp hl]; rfl)
        exact hkeep _ probe (if_pos hmem) hl
      · intro hattested key probe hkey hl
        split_ifs at hkey
        obtain rfl := Option.some.inj hkey
        exact hattested hecho probe hl
  · rw [if_neg hecho]
    exact iff_of_true (fun key probe hkey => by cases hkey) fun he => absurd he hecho

end

namespace Tracer

/-! ## Replies of other targets -/

/-- The reply is about `t`, or about no traced target. -/
def About (s : Tracer) (parsed : ParsedResponse) (t : IpAddr) : Prop :=
  ∀ D ∈ parsed.original_dest, D ∈ s.sessions → D = t

instance {s : Tracer} {parsed : ParsedResponse} {t : IpAddr} : Decidable (s.About parsed t) :=
  inferInstanceAs (Decidable (∀ D ∈ parsed.original_dest, D ∈ s.sessions → D = t))

/-- What a step must meet for replies to stay with their targets: a received reply is clear, and the
poll gets no Echo Reply of another target for which a probe of its own is pending. -/
def Isolates (env : Env) (s : Tracer) : Action → Prop
  | .receive b parsed _ targets => ∀ D ∈ parsed.original_dest, D ∈ s.sessions →
      parsed.Clear (env.receiver b) s.pending targets D
  | .poll t parsed _ => s.About parsed t ∨ ∀ c, ⟨parsed.probe_id, 0, t, c⟩ ∉ s.pending
  | _ => True

instance (env : Env) (s : Tracer) : DecidablePred (Isolates env s) := fun a => by
  apply @Action.casesOn (fun a => Decidable (Isolates env s a)) a <;> intros <;>
    dsimp only [Isolates] <;> infer_instance

/-- A step that takes a reply about a traced target leaves the entries of the other targets alone. -/
def LeavesOthers (env : Env) (s : Tracer) (a : Action) : Prop :=
  ∀ s', step env s a = some s' → ∀ parsed, a.reply = some parsed →
    ∀ D, parsed.original_dest = some D → D ∈ s.sessions →
      ∀ key, key.target ≠ D → s'.pending.lookup key = s.pending.lookup key

/-- No reply about a traced target has been, or is going to be, credited to another. -/
structure Attributed (s : Tracer) : Prop where
  /-- Every match was about the target of the entry that it took. -/
  matched : ∀ b parsed key probe, .matched b parsed key probe ∈ s.log → s.About parsed key.target
  /-- So was every Echo Reply that the poll matched. -/
  polled : ∀ parsed key probe, .polled parsed key probe ∈ s.log → s.About parsed key.target
  /-- Every response in a batch goes to the session that its reply was about. -/
  batch : ∀ b, ∀ resp ∈ (s.receivers b).batch, ∃ parsed key probe,
    .matched b parsed key probe ∈ s.log ∧ resp.target = probe.target ∧ s.About parsed resp.target
  /-- So does every response that the poll holds. -/
  engine : ∀ t resp, (s.engines t).pc = .polled resp → ∃ parsed key probe,
    .polled parsed key probe ∈ s.log ∧ key.target = t ∧ s.About parsed t

section

variable {env : Env} {s s' : Tracer} {a : Action}

/-- A reply that is about a target stays so, as the targets do not change. -/
theorem About.step {parsed : ParsedResponse} {t : IpAddr} (h : s.About parsed t)
    (hstep : Step env s a s') : s'.About parsed t :=
  fun D hD hmem => h D hD ((hstep.mem_sessions D).mp hmem)

/-- A match in an isolating step is about the target of the entry that it takes. -/
theorem about_of_logs {o : Occurrence} (hi : Isolates env s a) (ho : Logs env s a o) :
    (∀ b parsed key probe, o = .matched b parsed key probe → s.About parsed key.target) ∧
      ∀ parsed key probe, o = .polled parsed key probe → s.About parsed key.target := by
  cases ho with
  | matched perm found entry =>
    refine ⟨?_, fun _ _ _ h => by cases h⟩
    rintro b parsed key probe ⟨⟩ D hD hmem
    exact (target_of_clear hD (hi D hD hmem) found).symm
  | polled found entry =>
    refine ⟨fun _ _ _ _ h => (by cases h), ?_⟩
    rintro parsed key probe ⟨⟩
    -- The poll found an entry of its target, so the second alternative fails.
    obtain ⟨hmem, hkey, -⟩ := pollMatch_spec found
    rw [hkey] at hmem ⊢
    exact hi.resolve_right fun hno => hno _ hmem
  | _ => exact ⟨fun _ _ _ _ h => (by cases h), fun _ _ _ h => by cases h⟩

/-- The log of a run whose steps isolate. -/
def LogAttributed (s : Tracer) : Prop :=
  (∀ b parsed key probe, .matched b parsed key probe ∈ s.log → s.About parsed key.target) ∧
    ∀ parsed key probe, .polled parsed key probe ∈ s.log → s.About parsed key.target

/-- Every step that isolates the targets keeps the log attributed. -/
theorem LogAttributed.step (h : s.LogAttributed) (hi : Isolates env s a) (hstep : Step env s a s') :
    s'.LogAttributed := by
  constructor
  · intro b parsed key probe hm
    rcases hstep.mem_log hm with hm | ho
    · exact (h.1 b parsed key probe hm).step hstep
    · exact ((about_of_logs hi ho).1 b parsed key probe rfl).step hstep
  · intro parsed key probe hm
    rcases hstep.mem_log hm with hm | ho
    · exact (h.2 parsed key probe hm).step hstep
    · exact ((about_of_logs hi ho).2 parsed key probe rfl).step hstep

/-- Where every response has a provenance, attribution is a matter of the log. -/
theorem LogAttributed.attributed (h : s.LogAttributed) (hp : s.Provenance) : s.Attributed where
  matched := h.1
  polled := h.2
  batch := by
    intro b resp hm
    obtain ⟨parsed, rttl, key, probe, now, hlog, rfl⟩ := hp.batch b resp hm
    have hagrees := (hp.matched b parsed key probe hlog).2.2
    refine ⟨parsed, key, probe, hlog, rfl, ?_⟩
    show s.About parsed probe.target
    rw [hagrees.target]
    exact h.1 b parsed key probe hlog
  engine := by
    intro t resp hpc
    obtain ⟨parsed, rttl, key, probe, now, hlog, rfl, rfl⟩ := hp.engine t resp hpc
    exact ⟨parsed, key, probe, hlog, rfl, h.2 parsed key probe hlog⟩

/-- An isolating step leaves the entries of other targets alone. -/
theorem Isolates.leavesOthers (hi : Isolates env s a) : LeavesOthers env s a := by
  intro s' hstep parsed hreply D hD hmem key hne
  -- Taking an entry of `D` leaves the other targets alone.
  have herase : ∀ {taken : PendingKey}, taken.target = D →
      (s.pending.erase taken).lookup key = s.pending.lookup key := by
    rintro taken rfl
    rw [KeyMap.lookup_erase, if_neg]
    rintro rfl
    exact hne rfl
  cases Step.of_step hstep with
  | receive phase perm found entry =>
    cases hreply
    exact herase (target_of_clear hD (hi D hD hmem) found)
  | poll pc found entry =>
    cases hreply
    obtain ⟨hin, hkey, -⟩ := pollMatch_spec found
    have habout := ((about_of_logs hi (.polled found entry)).2 _ _ _ rfl) D hD hmem
    exact herase habout.symm
  | pollMiss noMatch => rfl
  | move move => cases move <;> cases hreply
  | shift shift => cases shift <;> rfl
  | _ => cases hreply

/-- The attribution of replies in a run whose steps isolate. -/
theorem attributed_run {targets : List IpAddr} {now : ℕ} {as : List Action}
    (h : run (Tracer.step env) (init env targets now) as = some s)
    (hi : StepsMeet (Tracer.step env) (Isolates env) (init env targets now) as) : s.Attributed := by
  -- The log is an invariant of the isolating steps, and the responses follow from it.
  have hlog : s.LogAttributed := by
    refine run_induction_of (fun _ s => LogAttributed s) ?_ ?_ as s h hi
    · exact ⟨fun _ _ _ _ h => (by cases h), fun _ _ _ h => by cases h⟩
    · intro as s a s' _ hi ih hstep
      exact ih.step hi (.of_step hstep)
  exact hlog.attributed (provenance_run h).2

/-- The receiver's match takes nothing of another target than the reply's exactly when the reply is
clear. In a run whose steps all isolate, no reply is credited to another target than the one that it
is about, and none touches the entries of other targets. -/
theorem reply_target_isolation (env : Env) :
    (∀ config pending targets parsed D, PendingMap.WellKeyed pending → D ∈ targets →
      parsed.original_dest = some D →
      ((∀ key probe, matchReply config pending targets parsed = some key →
        pending.lookup key = some probe → probe.target = D) ↔
        parsed.Clear config pending targets D)) ∧
    ∀ targets now as s, run (Tracer.step env) (init env targets now) as = some s →
      StepsMeet (Tracer.step env) (Isolates env) (init env targets now) as →
      s.Attributed ∧ StepsMeet (Tracer.step env) (LeavesOthers env) (init env targets now) as := by
  refine ⟨fun config pending targets parsed D keyed _ hD => matchReply_target_iff keyed hD, ?_⟩
  intro targets now as s h hi
  exact ⟨attributed_run h hi, hi.imp fun s a => Isolates.leavesOthers⟩

/-- Two targets, whose first probes have one `ProbeId`. The reply of the first target comes twice. -/
def repliesTwice : List Action :=
  [.tick sampleTarget, .beginRound sampleTarget, .register sampleTarget, .sendOk sampleTarget,
    .tick otherTarget, .beginRound otherTarget, .register otherTarget, .sendOk otherTarget,
    .receive false sampleReply none [sampleTarget, otherTarget]]

/-- The match of a reply to the first target when its entry is there, and a run in which it is. -/
theorem reply_target_isolation_first :
    (∀ key probe, matchReply ⟨1, 50000, 1⟩
        ((∅ : PendingMap).insert ⟨⟨1, 0⟩, 0, sampleTarget, false⟩ ⟨0, sampleTarget, 0, none, none⟩)
        [sampleTarget, otherTarget] sampleReply = some key →
      ((∅ : PendingMap).insert ⟨⟨1, 0⟩, 0, sampleTarget, false⟩
        ⟨0, sampleTarget, 0, none, none⟩).lookup key = some probe → probe.target = sampleTarget) ∧
    ∃ s, run (Tracer.step (.icmp (some 1) 1 false))
      (init (.icmp (some 1) 1 false) [sampleTarget, otherTarget] 0) repliesTwice = some s ∧
      s.Attributed := by
  constructor
  · refine ((reply_target_isolation (.icmp (some 1) 1 false)).1 _ _ _ _ _ ?_ (by decide) rfl).mpr
      (by decide)
    intro key probe h
    rw [KeyMap.lookup_insert] at h
    split_ifs at h with hk
    · cases h
      subst hk
      exact ⟨rfl, rfl, rfl⟩
    · cases h
  · have hsome : (run (Tracer.step (.icmp (some 1) 1 false))
      (init (.icmp (some 1) 1 false) [sampleTarget, otherTarget] 0) repliesTwice).isSome := by decide
    obtain ⟨s, hs⟩ := Option.isSome_iff_exists.mp hsome
    refine ⟨s, hs, ((reply_target_isolation _).2 _ _ _ s hs ?_).1⟩
    decide

/-- When the reply to the first target comes again, its match takes the entry of the other target. -/
theorem reply_target_isolation_fails_duplicate :
    ∃ s, run (Tracer.step (.icmp (some 1) 1 false))
        (init (.icmp (some 1) 1 false) [sampleTarget, otherTarget] 0) repliesTwice = some s ∧
      s.pending.WellKeyed ∧ sampleTarget ∈ s.sessions.keys ∧
      sampleReply.original_dest = some sampleTarget ∧ sampleTarget ≠ otherTarget ∧
      ((matchReply ((Env.icmp (some 1) 1 false).receiver false) s.pending s.sessions.keys
        sampleReply).bind fun key => s.pending.lookup key).map (·.target) = some otherTarget := by
  obtain ⟨s, hs, hmem, htarget⟩ : ∃ s, run (Tracer.step (.icmp (some 1) 1 false))
      (init (.icmp (some 1) 1 false) [sampleTarget, otherTarget] 0) repliesTwice = some s ∧
      sampleTarget ∈ s.sessions.keys ∧
      ((matchReply ((Env.icmp (some 1) 1 false).receiver false) s.pending s.sessions.keys
        sampleReply).bind fun key => s.pending.lookup key).map (·.target) = some otherTarget :=
    exists_run _ (by decide)
  exact ⟨s, hs, (sound_run hs).keyed, hmem, rfl, by decide, htarget⟩

end

/-! ## Evidence about the path MTU -/

/-- What a step must meet for a reply to be evidence of no more than the probe that it answers. -/
def Attests (env : Env) (s : Tracer) : Action × Origin → Prop
  | (.receive b parsed _ targets, origin) => parsed.Attested (env.receiver b) s.pending targets origin
  | (.poll t parsed _, origin) => parsed.PolledAttested s.pending t origin
  | _ => True

instance (env : Env) (s : Tracer) : DecidablePred (Attests env s) := fun l => by
  obtain ⟨a, origin⟩ := l
  apply @Action.casesOn (fun a => Decidable (Attests env s (a, origin))) a <;> intros <;>
    dsimp only [Attests] <;> infer_instance

end Tracer

/-- A reply to a path MTU probe of the target and size was read, and that probe was sent. -/
def Traffic.Evidence (h : Traffic) (target : IpAddr) (size : ℕ) : Prop :=
  ∃ d ∈ h.read, ∃ o ∈ d.origin,
    h.Sent o ∧ o.1.is_pmtud = true ∧ o.1.target = target ∧ o.2.packet_size = some size

/-- The update of a session by a reply leaves the search alone when it answers a normal probe, and the hops
when it answers a path MTU probe; and so does that by an Echo Reply for its marker. -/
structure Delivery.KeepsClass (d : Delivery) (x y : Session) : Prop where
  origin : ∀ o ∈ d.origin,
    (o.1.is_pmtud = false → y.pmtud = x.pmtud) ∧ (o.1.is_pmtud = true → y.hops = x.hops)
  marker : d.parsed.response_type = .EchoReply →
    (d.parsed.is_pmtud = false → y.pmtud = x.pmtud) ∧ (d.parsed.is_pmtud = true → y.hops = x.hops)

namespace Tracer

/-- Replies have been evidence of no more than the probes that they answer. -/
structure Evidence (s : Tracer) (h : Traffic) : Prop where
  /-- Every probe that was sent was registered. -/
  registered : ∀ o, h.Sent o → .registered o.1 o.2 ∈ s.log
  /-- Every reply that took an entry took one that it may take. -/
  taken : ∀ d ∈ h.read, ∀ e ∈ d.taken,
    d.parsed.Faithful d.origin e.1.is_pmtud e.1.target e.2.packet_size
  /-- These are all the matches. -/
  matched : ∀ b parsed key probe, .matched b parsed key probe ∈ s.log →
    ∃ d ∈ h.read, d.parsed = parsed ∧ d.taken = some (key, probe)
  /-- And all those of the poll. -/
  polled : ∀ parsed key probe, .polled parsed key probe ∈ s.log →
    ∃ d ∈ h.read, d.parsed = parsed ∧ d.taken = some (key, probe)
  /-- A response in a batch that counts as a success at a size has evidence for it. -/
  success : ∀ b, ∀ resp ∈ (s.receivers b).batch, ∀ size, resp.packet_size = some size →
    resp.observation = .success → h.Evidence resp.target size
  /-- So has a response that the poll holds. -/
  polledSuccess : ∀ t resp, (s.engines t).pc = .polled resp → ∀ size, resp.packet_size = some size →
    h.Evidence t size
  /-- A response in a batch keeps to the class of its reply. -/
  batch : ∀ b, ∀ resp ∈ (s.receivers b).batch, ∃ d ∈ h.read,
    (∃ response_ttl key probe, d.taken = some (key, probe) ∧
      resp = batchResponse d.parsed response_ttl probe d.time) ∧
    ∀ config now (x : Session), d.KeepsClass x (x.applyResponse config now resp)
  /-- So does a response that the poll holds. -/
  engine : ∀ t resp, (s.engines t).pc = .polled resp → ∃ d ∈ h.read,
    (∃ response_ttl key probe, d.taken = some (key, probe) ∧
      resp = pollResponse d.parsed response_ttl probe d.time) ∧
    ∀ x : Session, d.KeepsClass x (x.applyPolled t resp)

section

variable {env : Env} {s s' : Tracer} {h : Traffic} {l : Action × Origin}

/-- Without a packet size, a response does not touch the search, and with one it does not touch the
hops. -/
theorem applyResponse_class (config : ReceiverConfig) (now : ℕ) (resp : BatchedResponse)
    (x : Session) :
    (resp.packet_size.isSome = false → (x.applyResponse config now resp).pmtud = x.pmtud) ∧
      (resp.packet_size.isSome = true → (x.applyResponse config now resp).hops = x.hops) := by
  rw [Session.applyResponse_eq]
  refine ⟨fun h => ?_, fun h => if_pos h⟩
  rw [Option.isSome_eq_false_iff, Option.isNone_iff_eq_none] at h
  cases hp : x.pmtud <;> simp [h, hp]

/-- The same for a polled response. -/
theorem applyPolled_class (t : IpAddr) (resp : PolledResponse) (x : Session) :
    (resp.packet_size.isSome = false → (x.applyPolled t resp).pmtud = x.pmtud) ∧
      (resp.packet_size.isSome = true → (x.applyPolled t resp).hops = x.hops) := by
  rw [Session.applyPolled_eq]
  refine ⟨fun h => ?_, fun h => if_pos h⟩
  rw [Option.isSome_eq_false_iff, Option.isNone_iff_eq_none] at h
  cases hp : x.pmtud <;> simp [h, hp]

/-- An update that keeps to the class of the entry keeps to that of the reply that may take it. -/
theorem keepsClass_of_faithful {d : Delivery} {x y : Session} {is_pmtud : Bool} {target : IpAddr}
    {packet_size : Option ℕ} (hf : d.parsed.Faithful d.origin is_pmtud target packet_size)
    (hxy : (is_pmtud = false → y.pmtud = x.pmtud) ∧ (is_pmtud = true → y.hops = x.hops)) :
    d.KeepsClass x y where
  origin := by
    intro o ho
    rw [hf.own_class o ho]
    exact hxy
  marker := by
    intro hecho
    rw [← hf.marker hecho]
    exact hxy

/-- A reply that may take the entry of a path MTU probe, and is no report, is evidence for its size. -/
theorem evidence_of_faithful {d : Delivery} {target : IpAddr} {size : ℕ} (ht : Traced s h)
    (hd : d ∈ h.read) (hf : d.parsed.Faithful d.origin true target (some size))
    (hfrag : d.parsed.response_type.isFragNeeded = false) : h.Evidence target size := by
  obtain ⟨o, ho, htarget, hsize⟩ := hf.evidence rfl hfrag
  exact ⟨d, hd, o, ho, ht.origin d hd o ho, hf.own_class o ho, htarget, hsize⟩

/-- A step that reads a reply gives it what it may take. -/
theorem Attests.taken (ha : Attests env s l) (hflow : s.pending.OneFlow) {parsed : ParsedResponse}
    {key : PendingKey} {probe : PendingProbe} (htakes : Takes env s l.1 parsed key probe) :
    parsed.Faithful l.2 key.is_pmtud key.target probe.packet_size := by
  obtain ⟨a, origin⟩ := l
  cases htakes with
  | receive found entry => exact (matchReply_faithful_iff hflow).mpr ha key probe found entry
  | poll found entry => exact pollMatch_faithful_iff.mpr ha key probe found entry

/-- Where every reply took what it may take, the evidence is a matter of the history. -/
theorem Traced.evidence (ht : Traced s h) (htaken : ∀ d ∈ h.read, ∀ e ∈ d.taken,
    d.parsed.Faithful d.origin e.1.is_pmtud e.1.target e.2.packet_size) : s.Evidence h where
  registered := ht.registered
  taken := htaken
  matched := ht.matched
  polled := ht.polled
  success := by
    intro b resp hm size hsize hsucc
    obtain ⟨d, hd, rttl, key, probe, hentry, hagrees, rfl⟩ := ht.batch b resp hm
    have hsize : probe.packet_size = some size := hsize
    have hf := htaken d hd _ hentry
    have hpmtud : key.is_pmtud = true := by rw [hagrees.class_iff, hsize]; rfl
    rw [hpmtud, hsize, ← hagrees.target] at hf
    -- A success is no report.
    have hfrag : d.parsed.response_type.isFragNeeded = false := by
      by_contra hf
      rw [Bool.not_eq_false] at hf
      rw [BatchedResponse.observation,
        if_pos (show (batchResponse d.parsed rttl probe d.time).response_type.isFragNeeded = true from hf)]
        at hsucc
      split at hsucc <;> cases hsucc
    exact evidence_of_faithful ht hd hf hfrag
  polledSuccess := by
    intro t resp hpc size hsize
    obtain ⟨d, hd, rttl, key, probe, hentry, hagrees, htarget, hecho, rfl⟩ := ht.engine t resp hpc
    have hsize : probe.packet_size = some size := hsize
    have hf := htaken d hd _ hentry
    have hpmtud : key.is_pmtud = true := by rw [hagrees.class_iff, hsize]; rfl
    rw [hpmtud, hsize, htarget] at hf
    exact evidence_of_faithful ht hd hf (by rw [hecho]; rfl)
  batch := by
    intro b resp hm
    obtain ⟨d, hd, rttl, key, probe, hentry, hagrees, rfl⟩ := ht.batch b resp hm
    refine ⟨d, hd, ⟨rttl, key, probe, hentry, rfl⟩, fun config now x => ?_⟩
    refine keepsClass_of_faithful (htaken d hd _ hentry) ?_
    rw [hagrees.class_iff]
    exact applyResponse_class config now (batchResponse d.parsed rttl probe d.time) x
  engine := by
    intro t resp hpc
    obtain ⟨d, hd, rttl, key, probe, hentry, hagrees, -, -, rfl⟩ := ht.engine t resp hpc
    refine ⟨d, hd, ⟨rttl, key, probe, hentry, rfl⟩, fun x => ?_⟩
    refine keepsClass_of_faithful (htaken d hd _ hentry) ?_
    rw [hagrees.class_iff]
    exact applyPolled_class t (pollResponse d.parsed rttl probe d.time) x

/-- What a run remembers of the entries that its replies took. -/
structure Attributes (env : Env) (s : Tracer) (h : Traffic) : Prop where
  sound : Sound env s
  provenance : s.Provenance
  traced : Traced s h
  taken : ∀ d ∈ h.read, ∀ e ∈ d.taken,
    d.parsed.Faithful d.origin e.1.is_pmtud e.1.target e.2.packet_size

/-- Every step whose reply attests keeps the evidence attributed. -/
theorem Attributes.step (hi : Attributes env s h) (hg : Genuine env (s, h) l) (ha : Attests env s l)
    (hstep : Step env s l.1 s') : Attributes env s' (noteTraffic env h s l) where
  sound := hi.sound.step hstep
  provenance := hi.provenance.step hi.sound hstep
  traced := hi.traced.step hi.sound hg hstep
  taken := by
    rintro d hd ⟨key, probe⟩ htaken
    rcases read_note_cases hd with hd | ⟨hreads, horigin, -⟩
    · exact hi.taken d hd _ htaken
    · rw [Option.mem_def.mp htaken] at hreads
      rw [horigin]
      refine ha.taken (fun key hmem hpmtud => ?_) (takes_iff.mpr hreads)
      obtain ⟨old, hl⟩ := Option.isSome_iff_exists.mp (AList.lookup_isSome.mpr hmem)
      exact hi.traced.flow key old (hi.provenance.pending key old hl) hpmtud

/-- The evidence in a genuine run whose replies are attested. -/
theorem evidence_run {targets : List IpAddr} {now : ℕ} {ls : List (Action × Origin)}
    (hrun : run (recorded (noteTraffic env) (labelled (Tracer.step env))) (init env targets now, .start) ls =
      some (s, h))
    (hmeet : StepsMeet (recorded (noteTraffic env) (labelled (Tracer.step env)))
      (fun x l => Genuine env x l ∧ Attests env x.1 l) (init env targets now, .start) ls) :
    s.Evidence h := by
  have hinit : Attributes env (init env targets now) .start := by
    refine ⟨sound_init targets now, provenance_init targets now, traced_init targets now, ?_⟩
    intro d hd
    cases hd
  have hinv : Attributes env s h := by
    refine run_induction_of (fun _ x => Attributes env x.1 x.2) hinit ?_ ls (s, h) hrun hmeet
    rintro _ ⟨s, h⟩ l ⟨s', h'⟩ _ ⟨hg, ha⟩ ih hstep
    obtain ⟨hs, rfl⟩ := recorded_eq_some.mp hstep
    exact ih.step hg ha (.of_step hs)
  exact hinv.traced.evidence hinv.taken

end

/-- The match of an Echo Reply, by the receiver or by the poll, keeps to the class of its marker exactly when
its first candidate is of that class, and gives any reply no more than it may take exactly when that
candidate is one that it may take. In a genuine run whose steps all meet this, nothing but a reply to a path
MTU probe of a target and size, which was sent, counts as a success for them; a reply to a normal probe, or
an unmarked Echo Reply, leaves every search alone, and a reply to a path MTU probe, or a marked one, every
hop. -/
theorem pmtud_evidence_isolation (env : Env) :
    (∀ config pending targets parsed, parsed.response_type = .EchoReply →
      ((∀ key, matchReply config pending targets parsed = some key →
        key.is_pmtud = parsed.is_pmtud) ↔ parsed.InOwnClass config pending targets)) ∧
    (∀ pending target parsed, parsed.response_type = .EchoReply →
      ((∀ key, pollMatch pending target parsed = some key → key.is_pmtud = parsed.is_pmtud) ↔
        parsed.PolledInOwnClass pending target)) ∧
    (∀ config pending targets parsed origin, PendingMap.OneFlow pending →
      ((∀ key probe, matchReply config pending targets parsed = some key →
        pending.lookup key = some probe →
        parsed.Faithful origin key.is_pmtud key.target probe.packet_size) ↔
        parsed.Attested config pending targets origin)) ∧
    (∀ pending target parsed origin,
      (∀ key probe, pollMatch pending target parsed = some key → pending.lookup key = some probe →
        parsed.Faithful origin key.is_pmtud key.target probe.packet_size) ↔
        parsed.PolledAttested pending target origin) ∧
    ∀ targets now ls s h,
      run (recorded (noteTraffic env) (labelled (Tracer.step env))) (init env targets now, .start) ls =
        some (s, h) →
      StepsMeet (recorded (noteTraffic env) (labelled (Tracer.step env)))
        (fun x l => Genuine env x l ∧ Attests env x.1 l) (init env targets now, .start) ls →
      s.Evidence h := by
  refine ⟨fun config pending targets parsed hecho => ?_,
    fun pending target parsed hecho => pollMatch_class_iff hecho,
    fun config pending targets parsed origin hflow => matchReply_faithful_iff hflow,
    fun pending target parsed origin => pollMatch_faithful_iff,
    fun targets now ls s h hrun hmeet => evidence_run hrun hmeet⟩
  have hclass : parsed.isPmtudResponse = parsed.is_pmtud := by
    simp [ParsedResponse.isPmtudResponse, hecho, IcmpResponseType.isFragNeeded]
  rw [← hclass]
  exact matchReply_class_iff

/-- A normal probe and a path MTU probe of one `ProbeId`, the first of which is answered. -/
def pmtudRound : List Action :=
  [.tick sampleTarget, .beginRound sampleTarget, .register sampleTarget, .sendOk sampleTarget,
    .receive false sampleReply none [sampleTarget], .drained false, .apply false,
    .pmtudCheck sampleTarget, .pmtudSize sampleTarget, .pmtudRegister sampleTarget,
    .pmtudSendOk sampleTarget, .checkCancel false, .expire false, .recorded false]

/-- The entry of the path MTU probe. -/
def pmtudEntry : PendingKey × PendingProbe :=
  (⟨⟨1, 0⟩, 0, sampleTarget, true⟩, ⟨0, sampleTarget, 0, none, some 1500⟩)

/-- The two probes, each answered by its own reply. -/
def answeredPmtud : List (Action × Origin) :=
  pmtudRound.map (fun a => (a, some sampleEntry)) ++
    [(.receive false { sampleReply with is_pmtud := true } none [sampleTarget], some pmtudEntry)]

/-- The match and the poll of an Echo Reply to a probe that is pending, and a run with such matches. -/
theorem pmtud_evidence_isolation_own :
    (∀ key, matchReply ⟨1, 50000, 1⟩ ((∅ : PendingMap).insert sampleEntry.1 sampleEntry.2)
        [sampleTarget] sampleReply = some key → key.is_pmtud = false) ∧
    (∀ key, pollMatch ((∅ : PendingMap).insert sampleEntry.1 sampleEntry.2)
        sampleTarget sampleReply = some key → key.is_pmtud = false) ∧
    (∀ key probe, matchReply ⟨1, 50000, 1⟩ ((∅ : PendingMap).insert pmtudEntry.1 pmtudEntry.2)
        [sampleTarget] { sampleReply with is_pmtud := true } = some key →
      ((∅ : PendingMap).insert pmtudEntry.1 pmtudEntry.2).lookup key = some probe →
      ParsedResponse.Faithful { sampleReply with is_pmtud := true } (some pmtudEntry) key.is_pmtud
        key.target probe.packet_size) ∧
    ∃ s h, run (recorded (noteTraffic (.icmp (some 1) 1 true))
        (labelled (Tracer.step (.icmp (some 1) 1 true))))
        (init (.icmp (some 1) 1 true) [sampleTarget] 0, .start) answeredPmtud = some (s, h) ∧
      s.Evidence h := by
  obtain ⟨hmatch, hpoll, hfaithful, -, hruns⟩ := pmtud_evidence_isolation (.icmp (some 1) 1 true)
  refine ⟨(hmatch _ _ _ _ rfl).mpr (by decide), (hpoll _ _ _ rfl).mpr (by decide),
    (hfaithful _ _ _ _ _ ?_).mpr (by decide), ?_⟩
  · intro key hmem _
    obtain rfl | hmem := AList.mem_insert _ |>.mp hmem
    · rfl
    · exact absurd hmem (AList.notMem_empty _)
  have hsome : (run (recorded (noteTraffic (.icmp (some 1) 1 true))
    (labelled (Tracer.step (.icmp (some 1) 1 true))))
    (init (.icmp (some 1) 1 true) [sampleTarget] 0, .start) answeredPmtud).isSome := by decide
  obtain ⟨⟨s, h⟩, hs⟩ := Option.isSome_iff_exists.mp hsome
  exact ⟨s, h, hs, hruns _ _ _ s h hs (by decide)⟩

/-- A duplicate of the reply to the normal probe takes the entry of the path MTU probe, and counts as a
success at its size, without any marked reply. -/
theorem pmtud_evidence_isolation_fails_duplicate :
    ∃ s, run (Tracer.step (.icmp (some 1) 1 true)) (init (.icmp (some 1) 1 true) [sampleTarget] 0)
        (pmtudRound ++ [.receive false sampleReply none [sampleTarget], .drained false, .apply false])
        = some s ∧
      sampleReply.response_type = .EchoReply ∧ sampleReply.is_pmtud = false ∧
      .matched false sampleReply ⟨⟨1, 0⟩, 0, sampleTarget, true⟩
        ⟨0, sampleTarget, 0, none, some 1500⟩ ∈ s.log ∧
      ((s.sessions.lookup sampleTarget).bind (·.pmtud)).map (·.successes) = some 1 :=
  exists_run _ (by decide)

end Tracer

end Ttl
