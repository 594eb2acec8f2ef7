import Ttl.Export.Metrics
import Ttl.Lib.Lists

/-!
# The metrics page is read back

Every push has a list of labels of which its text is the escaped form (`pushes_eq`), so that the page is the text of
families (`renderMetrics_eq`), and a scraper reads them. No two pushes have one metric and one set of labels: the
targets are the keys of the map, a hop has its own TTL, and at a hop every metric is pushed once.
-/

namespace Ttl

open Text Lines Exposition Lists

/-! ## The labels -/

/-- Labels by name. -/
abbrev Labels : Type := List (List Char × List Char)

/-- The labels of a target, unescaped. -/
def targetSet (target_ip : IpAddr) (session : NamedSession) : Labels :=
  [("target".toList, target_ip.text), ("host".toList, sanitizeDisplay session.original)]

/-- The labels of a hop, unescaped. -/
def hopSet (target : Labels) (hop : Hop) : Labels := target ++ [("ttl".toList, nat hop.ttl.toNat)]

/-- The labels of a hop's primary responder, unescaped. -/
def infoSet (hop_labels : Labels) (stats : ResponderStats) : Labels :=
  hop_labels ++ [("ip".toList, stats.ip.text), ("hostname".toList, sanitizeDisplay (stats.hostname.getD []))]

/-- A name for display has no line feed. -/
theorem feed_notMem_sanitizeDisplay (s : List Char) : '\n' ∉ sanitizeDisplay s := by
  intro h
  exact absurd (List.of_mem_filter h) (by decide)

/-- The two replacements are the escape, where there is no line feed. -/
theorem escapeLabel_eq (s : List Char) : escapeLabel s = escape (sanitizeDisplay s) := by
  unfold escapeLabel replaceChar escape
  have hfeed := feed_notMem_sanitizeDisplay s
  rw [List.flatMap_assoc]
  refine List.flatMap_congr fun c hc => ?_
  unfold escapeChar
  split_ifs with hslash hquote hline
  · rfl
  · subst hquote
    rfl
  · exact absurd (hline ▸ hc) hfeed
  · rw [List.flatMap_cons, if_neg hquote]
    rfl

/-- Nothing of an address is escaped. -/
theorem escape_text (addr : IpAddr) : escape addr.text = addr.text := by
  refine escape_of_plain fun c hc => ?_
  have hchar := IpAddr.of_mem_text hc
  refine ⟨?_, ?_, ?_⟩ <;> rintro rfl <;> exact absurd hchar (by decide)

/-- Nothing of a number is. -/
theorem escape_nat (n : ℕ) : escape (nat n) = nat n := by
  refine escape_of_plain fun c hc => ?_
  have hchar := isDigit_of_mem_nat hc
  refine ⟨?_, ?_, ?_⟩ <;> rintro rfl <;> exact absurd hchar (by decide)

/-- One label more is parted from those before it by a comma. -/
theorem labelsText_concat {labels : Labels} (h : labels ≠ []) (l : List Char × List Char) :
    labelsText (labels ++ [l]) = labelsText labels ++ ',' :: labelText l := by
  induction labels with
  | nil => exact absurd rfl h
  | cons first labels ih =>
    by_cases hlast : labels = []
    · subst hlast
      rw [List.singleton_append, labelsText_cons (List.cons_ne_nil _ _), labelsText_singleton,
        labelsText_singleton]
    · have hne : labels ++ [l] ≠ [] := List.append_ne_nil_of_left_ne_nil hlast _
      rw [List.cons_append, labelsText_cons hne, ih hlast, labelsText_cons hlast, List.append_assoc, List.cons_append]

/-- The text of a target's labels is what the source writes. -/
theorem labelsText_targetSet (target_ip : IpAddr) (session : NamedSession) :
    labelsText (targetSet target_ip session) = targetLabels target_ip session := by
  have hopen : "target=\"".toList = "target".toList ++ "=\"".toList := by decide
  have hnext : "\",host=\"".toList = '"' :: ',' :: ("host".toList ++ "=\"".toList) := by decide
  have hclose : "\"".toList = ['"'] := by decide
  have htext : targetLabels target_ip session = "target=\"".toList ++ target_ip.text ++ "\",host=\"".toList ++
      escapeLabel session.original ++ "\"".toList := rfl
  simp only [targetSet, labelsText_cons (List.cons_ne_nil _ _), labelsText_singleton, labelText, escape_text,
    escapeLabel_eq, htext, hopen, hnext, hclose, List.append_assoc, List.cons_append, List.nil_append]

/-- The text of a hop's labels is what the source writes. -/
theorem labelsText_hopSet {target : Labels} (h : target ≠ []) (hop : Hop) :
    labelsText (hopSet target hop) = hopLabels (labelsText target) hop := by
  have hnext : ",ttl=\"".toList = ',' :: ("ttl".toList ++ "=\"".toList) := by decide
  have hclose : "\"".toList = ['"'] := by decide
  rw [hopSet, labelsText_concat h, labelText, escape_nat, hopLabels, hnext, hclose]
  simp only [List.append_assoc, List.cons_append]

/-- The text of a responder's labels is what the source writes. -/
theorem labelsText_infoSet {hop_labels : Labels} (h : hop_labels ≠ []) (stats : ResponderStats) :
    labelsText (infoSet hop_labels stats) = infoLabels (labelsText hop_labels) stats := by
  have hip : ",ip=\"".toList = ',' :: ("ip".toList ++ "=\"".toList) := by decide
  have hnext : "\",hostname=\"".toList = '"' :: ',' :: ("hostname".toList ++ "=\"".toList) := by decide
  have hclose : "\"".toList = ['"'] := by decide
  have hne : hop_labels ++ [("ip".toList, stats.ip.text)] ≠ [] := List.append_ne_nil_of_left_ne_nil h _
  rw [infoSet, ← List.singleton_append, ← List.append_assoc, labelsText_concat hne, labelsText_concat h, labelText,
    labelText, escape_text, ← escapeLabel_eq, infoLabels, hip, hnext, hclose]
  simp only [List.append_assoc, List.cons_append, List.nil_append]

/-! ## The pushes -/

/-- A push with other labels. -/
def Push.map {L M : Type} (f : L → M) (p : Push L) : Push M := ⟨p.metric, f p.labels, p.value⟩

/-- The pushes of a hop, over the texts of labels and over the labels. -/
theorem map_hopPushes {L M : Type} (f : L → M) (hop : Hop) (hop_labels : L) (info_labels : ResponderStats → L) :
    (hopPushes hop hop_labels info_labels).map (Push.map f) =
      hopPushes hop (f hop_labels) fun stats => f (info_labels stats) := by
  unfold hopPushes
  split_ifs
  · rfl
  · cases hop.primaryStats <;> rfl

/-- The pushes of a session, over the texts of labels and over the labels. -/
theorem map_sessionPushes {L M : Type} (f : L → M) (session : Session) (target : L) (hop_labels : Hop → L)
    (info_labels : Hop → ResponderStats → L) :
    (sessionPushes session target hop_labels info_labels).map (Push.map f) =
      sessionPushes session (f target) (fun hop => f (hop_labels hop)) fun hop stats => f (info_labels hop stats) := by
  unfold sessionPushes targetPushes
  simp only [List.map_append, List.map_flatMap, map_hopPushes]
  cases session.dest_ttl <;> rfl

/-- What is pushed, with lists of labels. -/
def seriesOf (target_ip : IpAddr) (session : NamedSession) : List (Push Labels) :=
  let target := targetSet target_ip session
  sessionPushes session.toSession target (hopSet target) fun hop => infoSet (hopSet target hop)

/-- All that is pushed, with lists of labels. -/
def series (sessions : KeyMap IpAddr LiveSession) : List (Push Labels) :=
  sessions.entries.flatMap fun e => seriesOf e.1 e.2.toNamedSession

/-- The labels that are pushed are the texts of lists. -/
theorem pushes_eq (sessions : KeyMap IpAddr LiveSession) :
    pushes sessions = (series sessions).map (Push.map labelsText) := by
  unfold pushes series
  rw [List.map_flatMap]
  refine List.flatMap_congr fun e _ => ?_
  have hhop : ∀ hop, labelsText (hopSet (targetSet e.1 e.2.toNamedSession) hop) =
      hopLabels (targetLabels e.1 e.2.toNamedSession) hop := by
    intro hop
    have hne : targetSet e.1 e.2.toNamedSession ≠ [] := List.cons_ne_nil _ _
    rw [labelsText_hopSet hne, labelsText_targetSet]
  have hinfo : ∀ hop stats, labelsText (infoSet (hopSet (targetSet e.1 e.2.toNamedSession) hop) stats) =
      infoLabels (hopLabels (targetLabels e.1 e.2.toNamedSession) hop) stats := by
    intro hop stats
    have hne : hopSet (targetSet e.1 e.2.toNamedSession) hop ≠ [] := List.cons_ne_nil _ _
    rw [labelsText_infoSet hne, hhop]
  rw [seriesOf, map_sessionPushes, labelsText_targetSet]
  simp only [hhop, hinfo]

/-- The metrics of a hop. -/
def hopMetrics : List (List Char) := (metrics.take 10).map Metric.name

/-- The metrics of a target. -/
def targetMetrics : List (List Char) := (metrics.drop 10).map Metric.name

/-- The metrics of hops come first, and those of targets behind them. -/
theorem names_metrics : metrics.map Metric.name = hopMetrics ++ targetMetrics := by
  rw [hopMetrics, targetMetrics, ← List.map_append, List.take_append_drop]

/-- No two metrics have one name. -/
theorem nodup_names : (hopMetrics ++ targetMetrics).Nodup := by decide +kernel

/-- The headers of a metric can be read. -/
theorem readable_metrics : ∀ m ∈ metrics, isName m.name ∧ m.kind ∈ kinds ∧ '\n' ∉ m.help := by decide +kernel

section

variable {L : Type} {hop : Hop} {hop_labels : L} {info_labels : ResponderStats → L} {p : Push L}

/-- At a hop every metric is pushed once. -/
theorem metrics_hopPushes (hop : Hop) (hop_labels : L) (info_labels : ResponderStats → L) :
    ((hopPushes hop hop_labels info_labels).map Push.metric).Sublist hopMetrics := by
  have hmetrics : hopMetrics = hopMetrics.take 4 ++ hopMetrics.drop 4 := (List.take_append_drop 4 _).symm
  unfold hopPushes
  split_ifs
  · exact List.nil_sublist _
  · cases hop.primaryStats with
    | none =>
      rw [hmetrics]
      exact List.sublist_append_left _ _
    | some stats => exact List.Sublist.refl _

/-- What a push of a hop is. -/
theorem of_mem_hopPushes (h : p ∈ hopPushes hop hop_labels info_labels) :
    0 < hop.sent ∧ p.metric ∈ hopMetrics ∧
      (p.labels = hop_labels ∨ ∃ stats, hop.primaryStats = some stats ∧ p.labels = info_labels stats) := by
  have hmetric := (metrics_hopPushes hop hop_labels info_labels).subset (List.mem_map_of_mem h)
  unfold hopPushes at h
  split_ifs at h with hsent
  · cases h
  refine ⟨Nat.pos_of_ne_zero hsent, hmetric, ?_⟩
  cases hstats : hop.primaryStats with
  | none =>
    rw [hstats] at h
    simp only [List.append_nil, List.mem_cons, List.not_mem_nil, or_false] at h
    obtain rfl | rfl | rfl | rfl := h <;> exact .inl rfl
  | some stats =>
    rw [hstats] at h
    simp only [List.cons_append, List.nil_append, List.mem_cons, List.not_mem_nil, or_false] at h
    obtain rfl | rfl | rfl | rfl | rfl | rfl | rfl | rfl | rfl | rfl := h
    case inr.inr.inr.inr.inr.inr.inr.inr.inr => exact .inr ⟨stats, rfl, rfl⟩
    all_goals exact .inl rfl

end

/-- What is pushed for a hop of a target. -/
def hopPushesOf (target_ip : IpAddr) (session : NamedSession) (hop : Hop) : List (Push Labels) :=
  let target := targetSet target_ip session
  hopPushes hop (hopSet target hop) (infoSet (hopSet target hop))

/-- The series of a session are those of its hops, and of its target. -/
theorem seriesOf_eq (target_ip : IpAddr) (session : NamedSession) :
    seriesOf target_ip session = session.hops.flatMap (hopPushesOf target_ip session) ++
      targetPushes session.toSession (targetSet target_ip session) := rfl

/-- A target has its metrics in their order, each at most once. -/
theorem metrics_targetPushes (session : Session) (target : Labels) :
    ((targetPushes session target).map Push.metric).Sublist targetMetrics := by
  unfold targetPushes
  cases session.dest_ttl with
  | none =>
    have hboth : ["ttl_target_reachable".toList, "ttl_target_probes_total".toList].Sublist targetMetrics := by decide
    exact hboth
  | some dest_ttl => exact List.Sublist.refl _

/-- The labels of a target's pushes are the target's. -/
theorem labels_targetPushes {session : Session} {target : Labels} {p : Push Labels}
    (h : p ∈ targetPushes session target) : p.labels = target := by
  unfold targetPushes at h
  simp only [List.mem_append, List.mem_singleton] at h
  obtain (rfl | hpath) | rfl := h
  · rfl
  · split at hpath
    · rw [List.mem_singleton.mp hpath]
    · cases hpath
  · rfl

/-! ### Where a push comes from -/

/-- The names of labels, in their order. -/
def labelNames : List (List Char) :=
  ["target".toList, "host".toList, "ttl".toList, "ip".toList, "hostname".toList]

/-- The push names its target and has no label twice. -/
structure Push.Located (p : Push Labels) (target_ip : IpAddr) (session : NamedSession) : Prop where
  names : p.labels.map (·.1) <+: labelNames
  target : ("target".toList, target_ip.text) ∈ p.labels
  host : ("host".toList, sanitizeDisplay session.original) ∈ p.labels

/-- A push has no label twice. -/
theorem Push.Located.nodup {p : Push Labels} {target_ip : IpAddr} {session : NamedSession}
    (h : p.Located target_ip session) : (p.labels.map (·.1)).Nodup := by
  have hnodup : labelNames.Nodup := by decide
  exact hnodup.sublist h.names.sublist

section

variable {target_ip : IpAddr} {session : NamedSession} {hop : Hop} {p : Push Labels}

/-- The labels of a target come first. -/
theorem located_of_labels {rest : Labels} (hlabels : p.labels = targetSet target_ip session ++ rest)
    (hnames : (targetSet target_ip session ++ rest).map (·.1) <+: labelNames) : p.Located target_ip session := by
  refine ⟨?_, ?_, ?_⟩
  · rw [hlabels]
    exact hnames
  · rw [hlabels]
    exact List.mem_cons_self
  · rw [hlabels]
    exact List.mem_cons_of_mem _ List.mem_cons_self

/-- A push of a hop names its target and has the hop's TTL. -/
theorem located_of_mem_hopPushes (h : p ∈ hopPushesOf target_ip session hop) :
    p.Located target_ip session ∧ ("ttl".toList, nat hop.ttl.toNat) ∈ p.labels := by
  -- The third label is the TTL, whether the host name follows or not.
  have httl : ∀ rest : Labels, ("ttl".toList, nat hop.ttl.toNat) ∈
      targetSet target_ip session ++ ("ttl".toList, nat hop.ttl.toNat) :: rest :=
    fun rest => List.mem_append_right _ List.mem_cons_self
  obtain ⟨-, -, hlabels | ⟨stats, -, hlabels⟩⟩ := of_mem_hopPushes h
  · refine ⟨located_of_labels hlabels (List.prefix_append (labelNames.take 3) (labelNames.drop 3)), ?_⟩
    rw [hlabels]
    exact httl []
  · refine ⟨located_of_labels hlabels (List.prefix_refl labelNames), ?_⟩
    rw [hlabels]
    exact httl _

/-- The metric of a series is one of those listed. -/
theorem metric_mem_of_mem_seriesOf (h : p ∈ seriesOf target_ip session) : p.metric ∈ hopMetrics ++ targetMetrics := by
  rw [seriesOf_eq] at h
  rw [List.mem_append]
  obtain h | h := List.mem_append.mp h
  · obtain ⟨hop, -, h⟩ := List.mem_flatMap.mp h
    exact .inl (of_mem_hopPushes h).2.1
  · exact .inr ((metrics_targetPushes _ _).subset (List.mem_map_of_mem h))

/-- A series of a session names its target. -/
theorem located_of_mem_seriesOf (h : p ∈ seriesOf target_ip session) : p.Located target_ip session := by
  rw [seriesOf_eq] at h
  obtain h | h := List.mem_append.mp h
  · obtain ⟨hop, -, h⟩ := List.mem_flatMap.mp h
    exact (located_of_mem_hopPushes h).1
  · have hlabels := (labels_targetPushes h).trans (List.append_nil _).symm
    exact located_of_labels hlabels (List.prefix_append (labelNames.take 2) (labelNames.drop 2))

end

/-- A label has one value. -/
theorem Push.Located.value_unique {p : Push Labels} {target_ip : IpAddr} {session : NamedSession}
    (h : p.Located target_ip session) {name value value' : List Char} (hv : (name, value) ∈ p.labels)
    (hv' : (name, value') ∈ p.labels) : value = value' := by
  rw [mem_iff_lookup h.nodup] at hv hv'
  exact Option.some.inj (hv.symm.trans hv')

/-! ### No series twice -/

/-- The pushes are of different series. -/
def Push.Distinct (p q : Push Labels) : Prop := ¬(p.metric = q.metric ∧ p.labels ⊆ q.labels ∧ q.labels ⊆ p.labels)

/-- Pushes of different metrics are different series. -/
theorem distinct_of_metrics {l : List (Push Labels)} (h : (l.map Push.metric).Nodup) : l.Pairwise Push.Distinct :=
  (List.pairwise_map.mp h).imp fun hne hsame => hne hsame.1

/-- A session has no series twice. -/
theorem pairwise_seriesOf (target_ip : IpAddr) (session : LiveSession) :
    (seriesOf target_ip session.toNamedSession).Pairwise Push.Distinct := by
  obtain ⟨hhops, htargets, hdisjoint⟩ := List.nodup_append.mp nodup_names
  rw [seriesOf_eq]
  refine List.pairwise_append.mpr ⟨?_, distinct_of_metrics (htargets.sublist (metrics_targetPushes _ _)), ?_⟩
  · refine List.pairwise_flatMap.mpr ⟨fun hop _ => distinct_of_metrics (hhops.sublist (metrics_hopPushes _ _ _)), ?_⟩
    -- Different hops have different TTLs.
    refine (List.pairwise_map.mp session.nodup).imp fun {hop hop'} hne p hp q hq hsame => ?_
    obtain ⟨-, hpttl⟩ := located_of_mem_hopPushes hp
    obtain ⟨hqloc, hqttl⟩ := located_of_mem_hopPushes hq
    have htext := hqloc.value_unique (hsame.2.1 hpttl) hqttl
    exact hne (UInt8.toNat_inj.mp (nat_injective htext))
  · -- A hop and a target have no metric in common.
    intro p hp q hq hsame
    obtain ⟨hop, -, hp⟩ := List.mem_flatMap.mp hp
    have hpm := (of_mem_hopPushes hp).2.1
    have hqm := (metrics_targetPushes _ _).subset (List.mem_map_of_mem hq)
    exact hdisjoint _ hpm _ hqm hsame.1

/-- No series is pushed twice, in all sessions. -/
theorem pairwise_series (sessions : KeyMap IpAddr LiveSession) : (series sessions).Pairwise Push.Distinct := by
  refine List.pairwise_flatMap.mpr ⟨fun e _ => pairwise_seriesOf e.1 e.2, ?_⟩
  -- Different sessions have different targets.
  have hkeys : (sessions.entries.map fun e => e.1).Nodup := sessions.nodupKeys
  refine (List.pairwise_map.mp hkeys).imp fun {e e'} hne p hp q hq hsame => ?_
  have hploc := located_of_mem_seriesOf hp
  have hqloc := located_of_mem_seriesOf hq
  exact hne (IpAddr.text_injective (hqloc.value_unique (hsame.2.1 hploc.target) hqloc.target))

/-! ## The families -/

/-- A push as a sample. -/
def Push.sample (format : FloatText) (p : Push Labels) : Sample := ⟨p.metric, p.labels, format.text p.value⟩

/-- The samples of a metric. -/
def samplesOf (format : FloatText) (sessions : KeyMap IpAddr LiveSession) (m : Metric) : List Sample :=
  ((series sessions).filter fun p => p.metric = m.name).map (Push.sample format)

/-- The metric has a sample. -/
def hasSamples (format : FloatText) (sessions : KeyMap IpAddr LiveSession) (m : Metric) : Bool :=
  ! (samplesOf format sessions m).isEmpty

/-- The family of a metric. -/
def familyOf (format : FloatText) (sessions : KeyMap IpAddr LiveSession) (m : Metric) : Family :=
  ⟨m.name, m.kind, m.help, samplesOf format sessions m⟩

/-- The families of the page: those of the metrics that have a sample. -/
def families (format : FloatText) (sessions : KeyMap IpAddr LiveSession) : List Family :=
  (metrics.filter (hasSamples format sessions)).map (familyOf format sessions)

variable {format : FloatText} {sessions : KeyMap IpAddr LiveSession}

/-- A metric that is found in no line has no samples. -/
theorem hasSamples_eq_false {m : Metric} (h : hasSamples format sessions m = false) :
    samplesOf format sessions m = [] := by
  rwa [hasSamples, Bool.not_eq_false', List.isEmpty_iff] at h

/-- The text of a metric is the lines of its family, and nothing without samples. -/
theorem metricText_samplesOf (m : Metric) :
    metricText m ((samplesOf format sessions m).map Sample.text) =
      if hasSamples format sessions m then unlines (familyOf format sessions m).lines else [] := by
  have hheader : "\n# TYPE ".toList = '\n' :: "# TYPE ".toList := by decide
  cases hm : hasSamples format sessions m with
  | false =>
    rw [hasSamples_eq_false hm]
    rfl
  | true =>
    have hsome : (samplesOf format sessions m).map Sample.text ≠ [] := by
      intro hnone
      rw [hasSamples, List.map_eq_nil_iff.mp hnone] at hm
      cases hm
    have htext : ∀ lines, metricText m lines = if lines = [] then [] else
        "# HELP ".toList ++ m.name ++ [' '] ++ m.help ++ "\n# TYPE ".toList ++ m.name ++ [' '] ++ m.kind ++ ['\n'] ++
          lines.flatMap fun line => line ++ ['\n'] := fun _ => rfl
    rewrite [htext, if_neg hsome, if_pos rfl, hheader, unlines_lines]
    simp only [familyOf, unlines, List.append_assoc, List.cons_append, List.nil_append]

/-- **The page is the text of the families.** -/
theorem renderMetrics_eq : renderMetrics format sessions = Exposition.text (families format sessions) := by
  -- What is pushed for a metric is printed as its samples.
  have hlines : ∀ m : Metric, ((pushes sessions).filter fun p => p.metric = m.name).map (Push.line format) =
      (samplesOf format sessions m).map Sample.text := by
    intro m
    rw [pushes_eq, List.filter_map, List.map_map, samplesOf, List.map_map]
    rfl
  have htext : ∀ fs : List Family, Exposition.text fs = fs.flatMap fun f => unlines f.lines :=
    fun fs => List.flatMap_assoc
  have hgroup : ∀ m ∈ metrics, metricText m (((pushes sessions).filter fun p => p.metric = m.name).map
      (Push.line format)) = if hasSamples format sessions m then unlines (familyOf format sessions m).lines else [] := by
    intro m _
    rw [hlines, metricText_samplesOf]
  rw [htext, families, List.flatMap_map, renderMetrics, List.flatMap_congr hgroup]
  -- A metric without a sample prints nothing, not even its headers.
  have hnone : ∀ m, hasSamples format sessions m = false →
      (if hasSamples format sessions m then unlines (familyOf format sessions m).lines else []) = [] := by
    intro m hm
    rw [hm]
    rfl
  rw [← flatMap_filter_ne_nil hnone]
  refine List.flatMap_congr fun m hm => ?_
  rw [if_pos (List.mem_filter.mp hm).2]

/-! ## Reading the page -/

/-- A sample can be written and read. -/
theorem wellFormed_sample {p : Push Labels} (h : p ∈ series sessions) : (p.sample format).WellFormed := by
  obtain ⟨e, -, h⟩ := List.mem_flatMap.mp h
  have hloc := located_of_mem_seriesOf h
  have hlabels : ∀ n ∈ labelNames, isName n := by decide
  have hmetric := metric_mem_of_mem_seriesOf h
  rw [← names_metrics] at hmetric
  obtain ⟨m, hm, hname⟩ := List.mem_map.mp hmetric
  have hisname : isName p.metric := hname ▸ (readable_metrics m hm).1
  exact ⟨hisname, List.ne_nil_of_mem hloc.target,
    fun l hl => hlabels _ (hloc.names.subset (List.mem_map_of_mem hl)), hloc.nodup, format.number _⟩

/-- A family can be written and read. -/
theorem wellFormed_familyOf {m : Metric} (hm : m ∈ metrics) : (familyOf format sessions m).WellFormed := by
  obtain ⟨hname, hkind, hhelp⟩ := readable_metrics m hm
  refine ⟨hname, hkind, hhelp, fun s hs => ?_, ?_⟩
  · obtain ⟨p, hp, rfl⟩ := List.mem_map.mp hs
    obtain ⟨hp, hmetric⟩ := List.mem_filter.mp hp
    exact ⟨wellFormed_sample hp, of_decide_eq_true hmetric⟩
  · exact List.pairwise_map.mpr ((pairwise_series sessions).sublist List.filter_sublist)

/-- No two families have one name. -/
theorem names_families : ((families format sessions).map Family.name).Nodup := by
  have hnames : (metrics.map Metric.name).Nodup := names_metrics ▸ nodup_names
  rw [families, List.map_map]
  exact hnames.sublist (List.filter_sublist.map Metric.name)

/-- The page reads back to its families. -/
theorem read_renderMetrics : Exposition.read (renderMetrics format sessions) = some (families format sessions) := by
  rw [renderMetrics_eq]
  refine read_text (fun f hf => ?_) names_families
  obtain ⟨m, hm, rfl⟩ := List.mem_map.mp hf
  exact wellFormed_familyOf (List.mem_filter.mp hm).1

/-- All samples of the page are all pushes. -/
theorem samples_perm :
    ((families format sessions).flatMap Family.samples).Perm ((series sessions).map (Push.sample format)) := by
  have hkeys : (metrics.map Metric.name).Nodup := names_metrics ▸ nodup_names
  have hall : ∀ p ∈ series sessions, p.metric ∈ metrics.map Metric.name := by
    intro p hp
    obtain ⟨e, -, hp⟩ := List.mem_flatMap.mp hp
    rw [names_metrics]
    exact metric_mem_of_mem_seriesOf hp
  have hperm := (flatMap_filter_perm hkeys hall).map (Push.sample format)
  rw [List.map_flatMap, List.flatMap_map] at hperm
  have hnone : ∀ m, hasSamples format sessions m = false → (familyOf format sessions m).samples = [] :=
    fun m hm => hasSamples_eq_false hm
  rw [families, List.flatMap_map, flatMap_filter_ne_nil hnone]
  exact hperm

/-- Every series is one of a target, of a hop or of a hop's primary responder. -/
theorem origin_of_mem_series {p : Push Labels} (h : p ∈ series sessions) :
    ∃ e ∈ sessions.entries, p.labels = targetSet e.1 e.2.toNamedSession ∨
      ∃ hop ∈ e.2.hops, 0 < hop.sent ∧ (p.labels = hopSet (targetSet e.1 e.2.toNamedSession) hop ∨
        ∃ stats, hop.primaryStats = some stats ∧
          p.labels = infoSet (hopSet (targetSet e.1 e.2.toNamedSession) hop) stats) := by
  obtain ⟨e, he, h⟩ := List.mem_flatMap.mp h
  rw [seriesOf_eq] at h
  refine ⟨e, he, ?_⟩
  obtain h | h := List.mem_append.mp h
  · obtain ⟨hop, hhop, h⟩ := List.mem_flatMap.mp h
    obtain ⟨hsent, -, hlabels⟩ := of_mem_hopPushes h
    exact .inr ⟨hop, hhop, hsent, hlabels⟩
  · exact .inl (labels_targetPushes h)

/-- A push of a hop of a session is one of the series. -/
theorem mem_series_of_hop {e : (_ : IpAddr) × LiveSession} (he : e ∈ sessions.entries) {hop : Hop}
    (hhop : hop ∈ e.2.hops) {p : Push Labels} (h : p ∈ hopPushesOf e.1 e.2.toNamedSession hop) :
    p ∈ series sessions :=
  List.mem_flatMap.mpr ⟨e, he, List.mem_append_left _ (List.mem_flatMap.mpr ⟨hop, hhop, h⟩)⟩

/-- What a scraper has read from the page of `sessions`. -/
structure Scraped (format : FloatText) (sessions : KeyMap IpAddr LiveSession) (page : List Family) : Prop where
  /-- The headers are rows of `METRICS`, in its order and each at most once. -/
  headers : (page.map fun f => (⟨f.name, f.kind, f.help⟩ : Metric)).Sublist metrics
  /-- A family has samples, and all of them are its own. -/
  contiguous : ∀ f ∈ page, f.samples ≠ [] ∧ ∀ s ∈ f.samples, s.name = f.name
  /-- No two samples have one name and one set of labels. -/
  distinct : (page.flatMap Family.samples).Pairwise fun a b => ¬a.SameSeries b
  /-- The samples are what was pushed. -/
  complete : ((page.flatMap Family.samples).map some).Perm ((pushes sessions).map fun p => readSample (p.line format))
  /-- A sample names a session, and its host label is the session's. -/
  hosts : ∀ s ∈ page.flatMap Family.samples, ∃ e ∈ sessions.entries, ("target".toList, e.1.text) ∈ s.labels ∧
    ∀ host, ("host".toList, host) ∈ s.labels ↔ host = sanitizeDisplay e.2.original
  /-- A host name label is that of the primary responder of the hop that the sample names. -/
  hostnames : ∀ s ∈ page.flatMap Family.samples, ∀ hostname, ("hostname".toList, hostname) ∈ s.labels →
    ∃ e ∈ sessions.entries, ∃ hop ∈ e.2.hops, ∃ stats, hop.primaryStats = some stats ∧
      ("target".toList, e.1.text) ∈ s.labels ∧ ("ttl".toList, nat hop.ttl.toNat) ∈ s.labels ∧
      ("ip".toList, stats.ip.text) ∈ s.labels ∧ hostname = sanitizeDisplay (stats.hostname.getD [])
  /-- A hop that was probed has the host name of its primary responder on the page. -/
  info : ∀ e ∈ sessions.entries, ∀ hop ∈ e.2.hops, 0 < hop.sent → ∀ stats, hop.primaryStats = some stats →
    ∃ s ∈ page.flatMap Family.samples, s.name = "ttl_hop_info".toList ∧
      s.labels = [("target".toList, e.1.text), ("host".toList, sanitizeDisplay e.2.original),
        ("ttl".toList, nat hop.ttl.toNat), ("ip".toList, stats.ip.text),
        ("hostname".toList, sanitizeDisplay (stats.hostname.getD []))]
  /-- Series of a hop are there exactly when it was probed. -/
  per_hop : ∀ e ∈ sessions.entries, ∀ hop ∈ e.2.hops,
    (∃ s ∈ page.flatMap Family.samples, ("target".toList, e.1.text) ∈ s.labels ∧
      ("ttl".toList, nat hop.ttl.toNat) ∈ s.labels) ↔ 0 < hop.sent

/-- The samples of the page are those of the series. -/
theorem mem_samples {s : Sample} :
    s ∈ (families format sessions).flatMap Family.samples ↔ ∃ p ∈ series sessions, p.sample format = s := by
  rw [samples_perm.mem_iff, List.mem_map]

/-- The headers of the page are some of the metrics, in their order. -/
theorem sublist_headers :
    ((families format sessions).map fun f => (⟨f.name, f.kind, f.help⟩ : Metric)).Sublist metrics := by
  have hid : (families format sessions).map (fun f => (⟨f.name, f.kind, f.help⟩ : Metric)) =
      metrics.filter (hasSamples format sessions) := by
    rw [families, List.map_map]
    exact List.map_id' _
  rw [hid]
  exact List.filter_sublist

/-- A family has samples, and only its own. -/
theorem contiguous_families {f : Family} (h : f ∈ families format sessions) :
    f.samples ≠ [] ∧ ∀ s ∈ f.samples, s.name = f.name := by
  obtain ⟨m, hm, rfl⟩ := List.mem_map.mp h
  obtain ⟨hm, hsamples⟩ := List.mem_filter.mp hm
  refine ⟨?_, fun s hs => ((wellFormed_familyOf hm).samples s hs).2⟩
  intro hnone
  have hfalse : hasSamples format sessions m = false := by
    rw [hasSamples, Bool.not_eq_false', List.isEmpty_iff]
    exact hnone
  exact Bool.false_ne_true (hfalse.symm.trans hsamples)

/-- No two samples of the page are of one series. -/
theorem pairwise_samples :
    ((families format sessions).flatMap Family.samples).Pairwise fun a b => ¬a.SameSeries b := by
  have hsymm : ∀ {a b : Sample}, ¬a.SameSeries b → ¬b.SameSeries a := fun h hba => h ⟨hba.1.symm, hba.2.2, hba.2.1⟩
  rw [samples_perm.pairwise_iff hsymm]
  exact List.pairwise_map.mpr (pairwise_series sessions)

/-- The samples of the page are the lines that were pushed, in some order. -/
theorem complete_families : (((families format sessions).flatMap Family.samples).map some).Perm
    ((pushes sessions).map fun p => readSample (p.line format)) := by
  have hread : ((pushes sessions).map fun p => readSample (p.line format)) =
      ((series sessions).map (Push.sample format)).map some := by
    rw [pushes_eq, List.map_map, List.map_map]
    exact List.map_congr_left fun p hp => readSample_text (wellFormed_sample hp)
  rw [hread]
  exact samples_perm.map some

/-- A target has no label `ttl`. -/
theorem ttl_notMem_targetSet (target_ip : IpAddr) (session : NamedSession) (ttl : List Char) :
    ("ttl".toList, ttl) ∉ targetSet target_ip session := by
  have hnames : "ttl".toList ∉ labelNames.take 2 := by decide
  exact fun h => hnames (List.mem_map_of_mem (f := (·.1)) h)

/-- A hop has no label `hostname`. -/
theorem hostname_notMem_hopSet (target_ip : IpAddr) (session : NamedSession) (hop : Hop) (hostname : List Char) :
    ("hostname".toList, hostname) ∉ hopSet (targetSet target_ip session) hop := by
  have hnames : "hostname".toList ∉ labelNames.take 3 := by decide
  exact fun h => hnames (List.mem_map_of_mem (f := (·.1)) h)

/-- A series has the sanitized host of its target, and no other. -/
theorem hosts_series {p : Push Labels} (h : p ∈ series sessions) :
    ∃ e ∈ sessions.entries, ("target".toList, e.1.text) ∈ p.labels ∧
      ∀ host, ("host".toList, host) ∈ p.labels ↔ host = sanitizeDisplay e.2.original := by
  obtain ⟨e, he, h⟩ := List.mem_flatMap.mp h
  have hloc := located_of_mem_seriesOf h
  refine ⟨e, he, hloc.target, fun host => ⟨fun hhost => hloc.value_unique hhost hloc.host, ?_⟩⟩
  rintro rfl
  exact hloc.host

/-- A host name in a series is the sanitized one of the primary responder of a hop. -/
theorem hostnames_series {p : Push Labels} (h : p ∈ series sessions) {hostname : List Char}
    (hname : ("hostname".toList, hostname) ∈ p.labels) :
    ∃ e ∈ sessions.entries, ∃ hop ∈ e.2.hops, ∃ stats, hop.primaryStats = some stats ∧
      ("target".toList, e.1.text) ∈ p.labels ∧ ("ttl".toList, nat hop.ttl.toNat) ∈ p.labels ∧
      ("ip".toList, stats.ip.text) ∈ p.labels ∧ hostname = sanitizeDisplay (stats.hostname.getD []) := by
  obtain ⟨e, he, hlabels | ⟨hop, hhop, -, hlabels | ⟨stats, hstats, hlabels⟩⟩⟩ := origin_of_mem_series h
  · rw [hlabels] at hname
    exact absurd (List.mem_append_left _ hname) (hostname_notMem_hopSet e.1 e.2.toNamedSession (Hop.new 0) hostname)
  · rw [hlabels] at hname
    exact absurd hname (hostname_notMem_hopSet _ _ _ _)
  · have hset : p.labels = targetSet e.1 e.2.toNamedSession ++ [("ttl".toList, nat hop.ttl.toNat),
        ("ip".toList, stats.ip.text), ("hostname".toList, sanitizeDisplay (stats.hostname.getD []))] := hlabels
    refine ⟨e, he, hop, hhop, stats, hstats, ?_, ?_, ?_, ?_⟩
    · rw [hset]
      exact List.mem_cons_self
    · rw [hset]
      exact List.mem_append_right _ List.mem_cons_self
    · rw [hset]
      exact List.mem_append_right _ (List.mem_cons_of_mem _ List.mem_cons_self)
    · rw [hlabels, infoSet, List.mem_append] at hname
      have hnew := hname.resolve_left (hostname_notMem_hopSet _ _ _ _)
      have hip : "hostname".toList ≠ "ip".toList := by decide
      simpa [hip] using hnew

/-- A hop has series exactly when it was probed. -/
theorem perHop_series {e : (_ : IpAddr) × LiveSession} (he : e ∈ sessions.entries) {hop : Hop} (hhop : hop ∈ e.2.hops) :
    (∃ p ∈ series sessions, ("target".toList, e.1.text) ∈ p.labels ∧ ("ttl".toList, nat hop.ttl.toNat) ∈ p.labels) ↔
      0 < hop.sent := by
  constructor
  · rintro ⟨p, hp, htarget, httl⟩
    obtain ⟨e', he', hp⟩ := List.mem_flatMap.mp hp
    have hloc := located_of_mem_seriesOf hp
    -- The target label leads to the session, and the TTL label to the hop.
    have hkey : e'.1 = e.1 := IpAddr.text_injective (hloc.value_unique hloc.target htarget)
    have hentry : e' = e := sessions.nodupKeys.eq_of_fst_eq he' he hkey
    subst hentry
    rw [seriesOf_eq] at hp
    obtain hp | hp := List.mem_append.mp hp
    · obtain ⟨hop', hhop', hp⟩ := List.mem_flatMap.mp hp
      obtain ⟨-, httl'⟩ := located_of_mem_hopPushes hp
      have hsame : hop'.ttl = hop.ttl := UInt8.toNat_inj.mp (nat_injective (hloc.value_unique httl' httl))
      have heq := List.inj_on_of_nodup_map e'.2.nodup hhop' hhop hsame
      exact heq ▸ (of_mem_hopPushes hp).1
    · rw [labels_targetPushes hp] at httl
      exact absurd httl (ttl_notMem_targetSet _ _ _)
  · intro hsent
    have hmem : ⟨"ttl_probes_sent_total".toList, hopSet (targetSet e.1 e.2.toNamedSession) hop, hop.sent⟩ ∈
        hopPushesOf e.1 e.2.toNamedSession hop := by
      unfold hopPushesOf hopPushes
      rw [if_neg hsent.ne']
      exact List.mem_append_left _ List.mem_cons_self
    obtain ⟨hloc, httl⟩ := located_of_mem_hopPushes hmem
    exact ⟨_, mem_series_of_hop he hhop hmem, hloc.target, httl⟩

/-- A hop that was probed and has a primary responder has the series of its information. -/
theorem info_series {e : (_ : IpAddr) × LiveSession} (he : e ∈ sessions.entries) {hop : Hop} (hhop : hop ∈ e.2.hops)
    (hsent : 0 < hop.sent) {stats : ResponderStats} (hstats : hop.primaryStats = some stats) :
    ⟨"ttl_hop_info".toList, infoSet (hopSet (targetSet e.1 e.2.toNamedSession) hop) stats, 1⟩ ∈ series sessions := by
  refine mem_series_of_hop he hhop ?_
  unfold hopPushesOf hopPushes
  rw [if_neg hsent.ne', hstats]
  refine List.mem_append_right _ ?_
  simp only [List.mem_cons, true_or, or_true]

end Ttl
