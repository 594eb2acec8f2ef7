import Ttl.Lib.Exposition
import Ttl.Lookup.Cache
import Ttl.State.Addresses
import Ttl.State.Named
import Ttl.State.Stats
import Ttl.Trace.Frames

/-!
# The metrics page

`render_metrics` of `src/metrics.rs`. Every line is pushed under its metric and the lines are written metric by metric,
in the order of the table `METRICS`. How an `f64` is written is left to the standard library (`FloatText`): only that
the text is a number.
-/

namespace Ttl

open Text

/-- `Display` of an `f64`. -/
structure FloatText where
  text : ℚ → List Char
  number : ∀ x, Exposition.isNumber (text x)

/-- A row of `METRICS`: name, type and help. -/
structure Metric where
  name : List Char
  kind : List Char
  help : List Char
deriving DecidableEq

/-- `METRICS`. -/
def metrics : List Metric :=
  [⟨"ttl_probes_sent_total".toList, "counter".toList, "Probes sent to this hop".toList⟩,
    ⟨"ttl_responses_total".toList, "counter".toList, "Responses received from this hop".toList⟩,
    ⟨"ttl_timeouts_total".toList, "counter".toList, "Probes that timed out at this hop".toList⟩,
    ⟨"ttl_loss_ratio".toList, "gauge".toList, "Loss ratio at this hop (0-1, completed probes only)".toList⟩,
    ⟨"ttl_rtt_avg_seconds".toList, "gauge".toList, "Average RTT to this hop's primary responder".toList⟩,
    ⟨"ttl_rtt_min_seconds".toList, "gauge".toList, "Minimum RTT to this hop's primary responder".toList⟩,
    ⟨"ttl_rtt_max_seconds".toList, "gauge".toList, "Maximum RTT to this hop's primary responder".toList⟩,
    ⟨"ttl_rtt_stddev_seconds".toList, "gauge".toList,
      "RTT standard deviation for this hop's primary responder".toList⟩,
    ⟨"ttl_hop_responders".toList, "gauge".toList, "Distinct responder IPs seen at this hop (ECMP)".toList⟩,
    ⟨"ttl_hop_info".toList, "gauge".toList, "Primary responder identity for this hop (always 1)".toList⟩,
    ⟨"ttl_target_reachable".toList, "gauge".toList, "Whether the destination has responded (1) or not (0)".toList⟩,
    ⟨"ttl_path_hops".toList, "gauge".toList, "Hop count at which the destination responded".toList⟩,
    ⟨"ttl_target_probes_total".toList, "counter".toList,
      "Total completed probes across all hops for this target".toList⟩]

/-- `str::replace` of one character. -/
def replaceChar (c : Char) (by_text : List Char) (s : List Char) : List Char :=
  s.flatMap fun d => if d = c then by_text else [d]

/-- `escape_label`. -/
def escapeLabel (s : List Char) : List Char :=
  replaceChar '"' ['\\', '"'] (replaceChar '\\' ['\\', '\\'] (sanitizeDisplay s))

/-- What is pushed: a metric, labels and a value. The labels are a text here, and a list below. -/
structure Push (L : Type) where
  metric : List Char
  labels : L
  value : ℚ

/-- The line of a push. -/
def Push.line (format : FloatText) (p : Push (List Char)) : List Char :=
  p.metric ++ '{' :: (p.labels ++ '}' :: ' ' :: format.text p.value)

/-- Numbers with a fixed number of decimals. -/
def FloatText.fixed (decimals : ℕ) : FloatText := ⟨Text.fixed decimals, Exposition.isNumber_fixed decimals⟩

/-- A session whose hops have different TTLs. -/
structure LiveSession extends NamedSession where
  nodup : (hops.map Hop.ttl).Nodup

/-- `Session::new` numbers the hops, and whatever is done to the session they keep their TTLs. -/
def LiveSession.perform (target : IpAddr) (original : List Char) (aliases : List (List Char)) (started_at : ℤ)
    (config : Config) (now : ℕ) (ops : List SessionOp) : LiveSession where
  toSession := SessionOp.perform target config now ops
  original := original
  aliases := aliases
  started_at := started_at
  nodup := by
    rw [SessionOp.map_ttl_perform]
    exact Session.nodup_ttls _

section

variable {L : Type}

/-- What is pushed for a hop. -/
def hopPushes (hop : Hop) (hop_labels : L) (info_labels : ResponderStats → L) : List (Push L) :=
  if hop.sent = 0 then []
  else
    [⟨"ttl_probes_sent_total".toList, hop_labels, hop.sent⟩,
      ⟨"ttl_responses_total".toList, hop_labels, hop.received⟩,
      ⟨"ttl_timeouts_total".toList, hop_labels, hop.timeouts⟩,
      ⟨"ttl_loss_ratio".toList, hop_labels, hop.lossPct / 100⟩] ++
    match hop.primaryStats with
    | none => []
    | some stats =>
      [⟨"ttl_rtt_avg_seconds".toList, hop_labels, asSecsF64 stats.avgRtt⟩,
        ⟨"ttl_rtt_min_seconds".toList, hop_labels, asSecsF64 stats.min_rtt⟩,
        ⟨"ttl_rtt_max_seconds".toList, hop_labels, asSecsF64 stats.max_rtt⟩,
        ⟨"ttl_rtt_stddev_seconds".toList, hop_labels, asSecsF64 stats.stddev⟩,
        ⟨"ttl_hop_responders".toList, hop_labels, hop.responders.entries.length⟩,
        ⟨"ttl_hop_info".toList, info_labels stats, 1⟩]

/-- What is pushed for a target, after its hops. -/
def targetPushes (session : Session) (target : L) : List (Push L) :=
  [⟨"ttl_target_reachable".toList, target, if session.complete then 1 else 0⟩] ++
    (match session.dest_ttl with
    | some dest_ttl => [⟨"ttl_path_hops".toList, target, dest_ttl.toNat⟩]
    | none => []) ++
    [⟨"ttl_target_probes_total".toList, target, session.total_sent⟩]

/-- What is pushed for a session. -/
def sessionPushes (session : Session) (target : L) (hop_labels : Hop → L) (info_labels : Hop → ResponderStats → L) :
    List (Push L) :=
  (session.hops.flatMap fun hop => hopPushes hop (hop_labels hop) (info_labels hop)) ++ targetPushes session target

end

/-- The labels of a target. -/
def targetLabels (target_ip : IpAddr) (session : NamedSession) : List Char :=
  "target=\"".toList ++ target_ip.text ++ "\",host=\"".toList ++ escapeLabel session.original ++ "\"".toList

/-- The labels of a hop. -/
def hopLabels (target : List Char) (hop : Hop) : List Char :=
  target ++ ",ttl=\"".toList ++ nat hop.ttl.toNat ++ "\"".toList

/-- The labels of a hop's primary responder. -/
def infoLabels (hop_labels : List Char) (stats : ResponderStats) : List Char :=
  hop_labels ++ ",ip=\"".toList ++ stats.ip.text ++ "\",hostname=\"".toList ++
    escapeLabel (stats.hostname.getD []) ++ "\"".toList

/-- What is pushed for all sessions, in the order of the map. -/
def pushes (sessions : KeyMap IpAddr LiveSession) : List (Push (List Char)) :=
  sessions.entries.flatMap fun e =>
    let target := targetLabels e.1 e.2.toNamedSession
    sessionPushes e.2.toSession target (hopLabels target) fun hop => infoLabels (hopLabels target hop)

/-- The headers and the lines of a metric, when it has lines. -/
def metricText (m : Metric) (lines : List (List Char)) : List Char :=
  if lines = [] then []
  else
    "# HELP ".toList ++ m.name ++ [' '] ++ m.help ++ "\n# TYPE ".toList ++ m.name ++ [' '] ++ m.kind ++ ['\n'] ++
      lines.flatMap fun line => line ++ ['\n']

/-- `render_metrics`. -/
def renderMetrics (format : FloatText) (sessions : KeyMap IpAddr LiveSession) : List Char :=
  metrics.flatMap fun m =>
    metricText m (((pushes sessions).filter fun p => p.metric = m.name).map (Push.line format))

end Ttl
