import Ttl.Lib.Csv
import Ttl.State.Addresses
import Ttl.State.Session
import Ttl.State.Stats

/-!
# The CSV export

`export_csv` of `src/export/csv.rs`. Of the fields of a row the host name alone goes through the escape; the others
need none, since they are numbers, an address, a star or nothing.
-/

namespace Ttl

open Text

/-- The columns. -/
def csvHeader : List (List Char) :=
  ["ttl".toList, "ip".toList, "hostname".toList, "loss_pct".toList, "sent".toList, "recv".toList, "last_ms".toList,
    "avg_ms".toList, "min_ms".toList, "max_ms".toList, "stddev_ms".toList, "jitter_ms".toList,
    "jitter_avg_ms".toList, "jitter_max_ms".toList]

/-- `escape_csv`. -/
def escapeCsv (s : List Char) : List Char :=
  if s.contains ',' || s.contains '"' || s.contains '\n' || s.contains '\r' then
    '"' :: (s.flatMap fun c => if c = '"' then ['"', '"'] else [c]) ++ ['"']
  else s

/-- A duration in milliseconds, with two decimals. -/
def csvMillis (d : ℕ) : List Char := fixed 2 (asSecsF64 d * 1000)

/-- The address, the host name and the times of a hop: the last, average, smallest and largest RTT, its deviation and
the three jitters. -/
def csvStats (hop : Hop) : List Char × List Char × List (List Char) :=
  match hop.primaryStats with
  | some stats =>
    let hostname := stats.hostname.getD []
    if 0 < stats.received then
      (stats.ip.text, hostname,
        [(stats.last_rtt.map csvMillis).getD [], csvMillis stats.avgRtt, csvMillis stats.min_rtt,
          csvMillis stats.max_rtt, csvMillis stats.stddev, csvMillis stats.jitterDuration,
          csvMillis stats.jitterAvg, csvMillis stats.jitterMax])
    else (stats.ip.text, hostname, [[], [], [], [], [], [], [], []])
  | none => (['*'], [], [[], [], [], [], [], [], [], []])

/-- The row of a hop. -/
def csvRow (hop : Hop) : List (List Char) :=
  let (ip, hostname, times) := csvStats hop
  [nat hop.ttl.toNat, ip, escapeCsv hostname, fixed 1 hop.lossPct, nat hop.sent, nat hop.received] ++ times

/-- `export_csv`. -/
def exportCsv (session : Session) : List Char :=
  let max_ttl := session.dest_ttl.getD session.config.max_ttl
  Csv.recordText csvHeader ++
    session.hops.flatMap fun hop =>
      if hop.sent = 0 ∨ max_ttl < hop.ttl then [] else Csv.recordText (csvRow hop)

/-! ## The fields -/

/-- An escaped text is a CSV field of that text. -/
theorem writes_escapeCsv (s : List Char) : Csv.Writes (escapeCsv s) s := by
  unfold escapeCsv
  split_ifs with h
  · exact Csv.writes_quote s
  · -- A value without the four characters is plain.
    simp only [Bool.or_eq_true, List.contains_iff_mem, not_or] at h
    obtain ⟨⟨⟨hcomma, hquote⟩, hfeed⟩, hreturn⟩ := h
    refine Csv.writes_plain fun c hc => ?_
    have hne : ∀ {d}, d ∉ s → c ≠ d := fun hd heq => hd (heq ▸ hc)
    simp [Csv.isPlain, hne hcomma, hne hquote, hne hfeed, hne hreturn]

/-- The characters of numbers and addresses are plain. -/
theorem isPlain_of_char {c : Char} (h : c.isAlphanum ∨ c = '-' ∨ c = '.' ∨ c = ':') : Csv.isPlain c := by
  unfold Csv.isPlain
  simp only [Bool.and_eq_true, decide_eq_true_eq]
  refine ⟨⟨⟨?_, ?_⟩, ?_⟩, ?_⟩ <;> rintro rfl <;> exact absurd h (by decide)

/-- A number is written plainly. -/
theorem writes_nat (n : ℕ) : Csv.Writes (nat n) (nat n) := by
  refine Csv.writes_plain fun c hc => isPlain_of_char (.inl ?_)
  rw [Char.isAlphanum, isDigit_of_mem_nat hc, Bool.or_true]

/-- A decimal is written plainly. -/
theorem writes_fixed (decimals : ℕ) (x : ℚ) : Csv.Writes (fixed decimals x) (fixed decimals x) := by
  refine Csv.writes_plain fun c hc => isPlain_of_char ?_
  obtain hdigit | hsign | hpoint := of_mem_fixed hc
  · rw [Char.isAlphanum, hdigit, Bool.or_true]
    exact .inl rfl
  · exact .inr (.inl hsign)
  · exact .inr (.inr (.inl hpoint))

/-- An address is written plainly. -/
theorem writes_address (addr : IpAddr) : Csv.Writes addr.text addr.text := by
  refine Csv.writes_plain fun c hc => isPlain_of_char ?_
  obtain halnum | hpoint | hcolon := IpAddr.of_mem_text hc
  · exact .inl halnum
  · exact .inr (.inr (.inl hpoint))
  · exact .inr (.inr (.inr hcolon))

/-- An empty field is written plainly. -/
theorem writes_nil : Csv.Writes [] [] := Csv.writes_plain fun _ hc => absurd hc List.not_mem_nil

/-- A star is written plainly. -/
theorem writes_star : Csv.Writes ['*'] ['*'] := Csv.writes_plain fun _ hc => List.mem_singleton.mp hc ▸ rfl

/-- The values of a row: the host name as it is. -/
def csvValues (hop : Hop) : List (List Char) :=
  let (ip, hostname, times) := csvStats hop
  [nat hop.ttl.toNat, ip, hostname, fixed 1 hop.lossPct, nat hop.sent, nat hop.received] ++ times

/-- The address and the times need no escape, and the times are eight. -/
theorem writes_csvStats (hop : Hop) : Csv.Writes (csvStats hop).1 (csvStats hop).1 ∧
    List.Forall₂ Csv.Writes (csvStats hop).2.2 (csvStats hop).2.2 ∧ (csvStats hop).2.2.length = 8 := by
  have hnone : List.Forall₂ Csv.Writes [[], [], [], [], [], [], [], []] [[], [], [], [], [], [], [], []] :=
    List.forall₂_same.mpr fun text htext => by
      obtain rfl : text = [] := by simpa using htext
      exact writes_nil
  unfold csvStats
  cases hop.primaryStats with
  | none => exact ⟨writes_star, hnone, rfl⟩
  | some stats =>
    dsimp only
    split_ifs
    · have hlast : Csv.Writes ((stats.last_rtt.map csvMillis).getD []) ((stats.last_rtt.map csvMillis).getD []) := by
        cases stats.last_rtt with
        | none => exact writes_nil
        | some rtt => exact writes_fixed _ _
      refine ⟨writes_address _, .cons hlast (List.forall₂_same.mpr fun text htext => ?_), rfl⟩
      simp only [List.mem_cons, List.not_mem_nil, or_false] at htext
      obtain rfl | rfl | rfl | rfl | rfl | rfl | rfl := htext <;> exact writes_fixed _ _
    · exact ⟨writes_address _, hnone, rfl⟩

/-- The fields of a row are written as its values. -/
theorem writes_csvRow (hop : Hop) : List.Forall₂ Csv.Writes (csvRow hop) (csvValues hop) := by
  obtain ⟨hip, htimes, -⟩ := writes_csvStats hop
  refine .cons (writes_nat _) (.cons hip (.cons (writes_escapeCsv _) (.cons (writes_fixed _ _) ?_)))
  exact .cons (writes_nat _) (.cons (writes_nat _) htimes)

/-- The fields of the header are written plainly. -/
theorem writes_csvHeader : List.Forall₂ Csv.Writes csvHeader csvHeader := by
  have hplain : (csvHeader.all fun name => name.all Csv.isPlain) = true := by decide
  refine List.forall₂_same.mpr fun name hname => Csv.writes_plain ?_
  exact List.all_eq_true.mp (List.all_eq_true.mp hplain name hname)

/-! ## Reading the export -/

/-- The hops that are exported: those that were probed, up to the destination. -/
def Session.exported (session : Session) : List Hop :=
  session.hops.filter fun hop => 0 < hop.sent ∧ hop.ttl ≤ session.dest_ttl.getD session.config.max_ttl

/-- The field of a column. -/
def csvColumn (name : List Char) (record : List (List Char)) : Option (List Char) := (csvHeader.zip record).lookup name

/-- A record has the fields of a hop. -/
structure Recovers (record : List (List Char)) (hop : Hop) : Prop where
  length : record.length = csvHeader.length
  ttl : csvColumn "ttl".toList record = some (nat hop.ttl.toNat)
  /-- The address of the primary responder, or a star. -/
  ip : csvColumn "ip".toList record = some ((hop.primaryStats.map fun stats => stats.ip.text).getD ['*'])
  hostname : csvColumn "hostname".toList record = some ((hop.primaryStats.bind ResponderStats.hostname).getD [])
  sent : csvColumn "sent".toList record = some (nat hop.sent)
  recv : csvColumn "recv".toList record = some (nat hop.received)

/-- The address and the host name of a row are those of the primary responder, if there is one. -/
theorem csvStats_eq (hop : Hop) :
    (csvStats hop).1 = (hop.primaryStats.map fun stats => stats.ip.text).getD ['*'] ∧
      (csvStats hop).2.1 = (hop.primaryStats.bind ResponderStats.hostname).getD [] := by
  unfold csvStats
  cases hop.primaryStats with
  | none => exact ⟨rfl, rfl⟩
  | some stats =>
    -- Only the times depend on the responses.
    dsimp only
    split_ifs <;> exact ⟨rfl, rfl⟩

/-- The values of a row are those of its hop. -/
theorem recovers_csvValues (hop : Hop) : Recovers (csvValues hop) hop := by
  obtain ⟨hip, hhostname⟩ := csvStats_eq hop
  obtain ⟨-, -, hlength⟩ := writes_csvStats hop
  constructor
  case length =>
    have hvalues : (csvValues hop).length = 6 + (csvStats hop).2.2.length := by
      rw [csvValues, List.length_append]
      rfl
    rw [hvalues, hlength]
    rfl
  case ttl => rfl
  case ip => exact congrArg some hip
  case hostname => exact congrArg some hhostname
  case sent => rfl
  case recv => rfl

/-- The export is the text of records. -/
theorem exportCsv_eq (session : Session) :
    exportCsv session = (csvHeader :: session.exported.map csvRow).flatMap Csv.recordText := by
  have hrows : ∀ (max_ttl : UInt8) (hops : List Hop),
      (hops.flatMap fun hop => if hop.sent = 0 ∨ max_ttl < hop.ttl then [] else Csv.recordText (csvRow hop)) =
        (hops.filter fun hop => 0 < hop.sent ∧ hop.ttl ≤ max_ttl).flatMap fun hop => Csv.recordText (csvRow hop) := by
    intro max_ttl hops
    induction hops with
    | nil => rfl
    | cons hop hops ih =>
      rw [List.flatMap_cons, ih]
      -- The loop goes on to the next hop where the filter drops one.
      by_cases hskip : hop.sent = 0 ∨ max_ttl < hop.ttl
      · have hnot : ¬(0 < hop.sent ∧ hop.ttl ≤ max_ttl) := by
          rintro ⟨hsent, hle⟩
          exact hskip.elim hsent.ne' (UInt8.not_lt.mpr hle)
        rw [if_pos hskip, List.nil_append, List.filter_cons_of_neg (by simpa using hnot)]
      · obtain ⟨hsent, hle⟩ := not_or.mp hskip
        have hkeep : 0 < hop.sent ∧ hop.ttl ≤ max_ttl := ⟨Nat.pos_of_ne_zero hsent, UInt8.not_lt.mp hle⟩
        rw [if_neg hskip, List.filter_cons_of_pos (by simpa using hkeep), List.flatMap_cons]
  rw [List.flatMap_cons, List.flatMap_map, Session.exported, ← hrows, exportCsv]

/-- Whatever the host names are, a reader of comma-separated values finds the header in the export, and then one record
for each hop that was probed up to the destination, in the order of the hops and with the fields of its hop. -/
theorem exportCsv_read (session : Session) : ∃ records, Csv.read (exportCsv session) = some (csvHeader :: records) ∧
    List.Forall₂ Recovers records session.exported := by
  refine ⟨session.exported.map csvValues, ?_, ?_⟩
  · have hrows : List.Forall₂ (List.Forall₂ Csv.Writes) (session.exported.map csvRow)
        (session.exported.map csvValues) := by
      rw [List.forall₂_map_left_iff, List.forall₂_map_right_iff, List.forall₂_same]
      exact fun hop _ => writes_csvRow hop
    have hne : ∀ record ∈ csvHeader :: session.exported.map csvValues, record ≠ [] := by
      intro record hrecord
      obtain rfl | hrecord := List.mem_cons.mp hrecord
      · exact List.cons_ne_nil _ _
      · obtain ⟨hop, -, rfl⟩ := List.mem_map.mp hrecord
        exact List.cons_ne_nil _ _
    rw [exportCsv_eq]
    exact Csv.read_text (.cons writes_csvHeader hrows) hne
  · rw [List.forall₂_map_left_iff, List.forall₂_same]
    exact fun hop _ => recovers_csvValues hop

end Ttl
