import Mathlib.Data.Nat.Count
import Ttl.State.Hop

/-!
# The suspicion of TTL manipulation

`TtlManipInfo::record_sample` of `src/state/session.rs` over whole sequences of samples. What raises the suspicion and
what clears it is read off the samples (`Evidence`, `streak`), and the counters of the detector are related to them by
one invariant (`Tracks`). A clear forgets the anomalies and keeps the normal samples, so that the evidence is counted
from the last clear on, and the normal samples from the start.
-/

namespace Ttl

namespace TtlManipInfo

/-- A sample: the TTL of a probe, and the TTL that its answer quotes. -/
structure Sample where
  sent_ttl : UInt8
  quoted_ttl : UInt8
deriving DecidableEq

/-- A router quotes a TTL of 0 or 1. -/
def Sample.Anomalous (s : Sample) : Prop := 1 < s.quoted_ttl

/-- The TTL comes back as it was sent. -/
def Sample.NoDecrement (s : Sample) : Prop := s.quoted_ttl = s.sent_ttl ∧ 1 < s.sent_ttl

instance (s : Sample) : Decidable s.Anomalous := inferInstanceAs (Decidable (1 < s.quoted_ttl))

instance (s : Sample) : Decidable s.NoDecrement :=
  inferInstanceAs (Decidable (s.quoted_ttl = s.sent_ttl ∧ 1 < s.sent_ttl))

/-- There is enough evidence in the counters. -/
def Evidence (normal anomalous no_decrement : ℕ) : Prop :=
  5 ≤ normal + anomalous ∧ ((3 / 10 : ℚ) ≤ (anomalous : ℚ) / (normal + anomalous : ℕ) ∨ 0 < no_decrement)

/-! ## One sample -/

section

variable {t : TtlManipInfo} {s : Sample}

/-- A sample withdraws the suspicion: it is the tenth normal one in a row. -/
def Withdraws (t : TtlManipInfo) (s : Sample) : Prop :=
  t.suspected = true ∧ ¬s.Anomalous ∧ t.negative_checks = 9

/-- What the detector knows after a sample that withdraws nothing. -/
structure Counts (t t' : TtlManipInfo) (s : Sample) : Prop where
  anomalous : t'.anomalous_samples = t.anomalous_samples + if s.Anomalous then 1 else 0
  no_decrement : t'.no_decrement_samples = t.no_decrement_samples + if s.NoDecrement then 1 else 0
  negative : t'.negative_checks =
    if s.Anomalous then 0 else if t.suspected then t.negative_checks + 1 else t.negative_checks
  suspected : t'.suspected = true ↔
    t.suspected = true ∨ Evidence t'.normal_samples t'.anomalous_samples t'.no_decrement_samples

/-- The suspicion is withdrawn with all evidence. -/
structure Cleared (t' : TtlManipInfo) : Prop where
  suspected : t'.suspected = false
  anomalous : t'.anomalous_samples = 0
  no_decrement : t'.no_decrement_samples = 0
  negative : t'.negative_checks = 0

/-- A TTL that comes back as it was sent is anomalous too. -/
theorem Sample.NoDecrement.anomalous (h : s.NoDecrement) : s.Anomalous := by
  obtain ⟨hsame, hlt⟩ := h
  rw [Anomalous, hsame]
  exact hlt

/-- The counters after a sample, before the detection is updated. -/
def counted (t : TtlManipInfo) (s : Sample) : TtlManipInfo :=
  { t with
    last_quoted_ttl := some s.quoted_ttl
    normal_samples := t.normal_samples + if s.Anomalous then 0 else 1
    anomalous_samples := t.anomalous_samples + if s.Anomalous then 1 else 0
    no_decrement_samples := t.no_decrement_samples + if s.NoDecrement then 1 else 0
    negative_checks :=
      if s.Anomalous then 0 else if t.suspected then t.negative_checks + 1 else t.negative_checks }

/-- A sample is counted, and the detection updated, while there are fewer than ten negative checks. -/
theorem recordSample_eq (hlt : t.negative_checks < 10) (s : Sample) :
    t.recordSample s.sent_ttl s.quoted_ttl = (t.counted s).updateDetection := by
  have hmin : min (t.negative_checks + 1) 255 = t.negative_checks + 1 := by omega
  unfold recordSample counted
  dsimp only
  by_cases hanom : s.Anomalous
  · have hquoted : 1 < s.quoted_ttl := hanom
    rw [if_pos hquoted]
    by_cases hsame : s.NoDecrement
    · have hsent : s.quoted_ttl = s.sent_ttl ∧ 1 < s.sent_ttl := hsame
      simp only [hanom, hsame, hsent, and_self, if_true, Nat.add_zero]
    · have hsent : ¬(s.quoted_ttl = s.sent_ttl ∧ 1 < s.sent_ttl) := hsame
      simp only [hanom, hsame, hsent, if_true, if_false, Nat.add_zero]
  · -- A normal sample is none of the two, and the counter is far below the bound of its type.
    have hquoted : ¬1 < s.quoted_ttl := hanom
    have hsame : ¬s.NoDecrement := fun h => hanom h.anomalous
    have hsent : ¬(s.quoted_ttl = s.sent_ttl ∧ 1 < s.sent_ttl) := hsame
    simp only [hquoted, hanom, hsame, hsent, hmin, if_false, Nat.add_zero]

/-- What `update_detection` does to counters that are not due for a clear. -/
theorem updateDetection_of_lt (h : t.negative_checks < 10) :
    t.updateDetection.normal_samples = t.normal_samples ∧
      t.updateDetection.anomalous_samples = t.anomalous_samples ∧
      t.updateDetection.no_decrement_samples = t.no_decrement_samples ∧
      t.updateDetection.negative_checks = t.negative_checks ∧
      (t.updateDetection.suspected = true ↔
        t.suspected = true ∨ Evidence t.normal_samples t.anomalous_samples t.no_decrement_samples) := by
  unfold updateDetection Evidence
  dsimp only
  rw [if_neg (show ¬clearThreshold ≤ t.negative_checks from Nat.not_le.mpr h), minSamples, anomalyThreshold]
  by_cases htotal : 5 ≤ t.normal_samples + t.anomalous_samples
  · rw [if_pos htotal]
    by_cases hrate : (3 / 10 : ℚ) ≤ t.anomalous_samples / (t.normal_samples + t.anomalous_samples : ℕ) ∨
        0 < t.no_decrement_samples
    · rw [if_pos hrate]
      exact ⟨rfl, rfl, rfl, rfl, iff_of_true rfl (.inr ⟨htotal, hrate⟩)⟩
    · rw [if_neg hrate]
      exact ⟨rfl, rfl, rfl, rfl, (or_iff_left fun h => hrate h.2).symm⟩
  · rw [if_neg htotal]
    exact ⟨rfl, rfl, rfl, rfl, (or_iff_left fun h => htotal h.1).symm⟩

/-- What it does to counters that are. -/
theorem updateDetection_of_le (h : 10 ≤ t.negative_checks) :
    t.updateDetection =
      { t with
        suspected := false
        confidence := 0
        reason := none
        negative_checks := 0
        anomalous_samples := 0
        no_decrement_samples := 0 } := by
  unfold updateDetection
  dsimp only
  rw [if_pos (show clearThreshold ≤ t.negative_checks from h)]

/-- **What a sample does,** when the counter of normal ones is below its threshold: it withdraws the suspicion with all
evidence, or is counted. -/
theorem recordSample_spec (hlt : t.negative_checks < 10) (s : Sample) :
    (t.recordSample s.sent_ttl s.quoted_ttl).normal_samples =
        t.normal_samples + (if s.Anomalous then 0 else 1) ∧
      (t.Withdraws s ∧ Cleared (t.recordSample s.sent_ttl s.quoted_ttl) ∨
        ¬t.Withdraws s ∧ t.Counts (t.recordSample s.sent_ttl s.quoted_ttl) s) := by
  rw [recordSample_eq hlt]
  by_cases hdue : 10 ≤ (t.counted s).negative_checks
  · rw [updateDetection_of_le hdue]
    refine ⟨rfl, .inl ⟨?_, ⟨rfl, rfl, rfl, rfl⟩⟩⟩
    unfold counted at hdue
    dsimp only at hdue
    split_ifs at hdue with hanom hsuspected
    · exact absurd hdue (by decide)
    · exact ⟨hsuspected, hanom, by omega⟩
    · omega
  · obtain ⟨hnormal, hanomalous, hnodec, hnegative, hsuspected⟩ := updateDetection_of_lt (Nat.lt_of_not_le hdue)
    refine ⟨hnormal, .inr ⟨?_, hanomalous, hnodec, hnegative, ?_⟩⟩
    · rintro ⟨hsus, hanom, hnine⟩
      refine hdue ?_
      unfold counted
      dsimp only
      rw [if_neg hanom, if_pos hsus, hnine]
    · rw [hsuspected, hnormal, hanomalous, hnodec]
      rfl

end

/-! ## Sequences of samples -/

section

variable (samples : ℕ → Sample)

/-- The detector after the first `k` samples. -/
def after : ℕ → TtlManipInfo
  | 0 => default
  | k + 1 => (after k).recordSample (samples k).sent_ttl (samples k).quoted_ttl

/-- The sample `k` raises the suspicion. -/
def Raises (k : ℕ) : Prop := (after samples k).suspected = false ∧ (after samples (k + 1)).suspected = true

/-- The sample `k` clears the suspicion. -/
def Clears (k : ℕ) : Prop := (after samples k).suspected = true ∧ (after samples (k + 1)).suspected = false

instance (k : ℕ) : Decidable (Raises samples k) := inferInstanceAs (Decidable (_ ∧ _))

instance (k : ℕ) : Decidable (Clears samples k) := inferInstanceAs (Decidable (_ ∧ _))

/-- Before the sample `k`: the number of samples up to the last clear, or up to the start. -/
def lastClear : ℕ → ℕ
  | 0 => 0
  | k + 1 => if Clears samples k then k + 1 else lastClear k

/-- The normal samples among the first `k`. -/
def normals (k : ℕ) : ℕ := Nat.count (fun i => ¬(samples i).Anomalous) k

/-- The anomalous samples among the first `k`, from the sample `m` on. -/
def anomalies (m k : ℕ) : ℕ := Nat.count (fun i => m ≤ i ∧ (samples i).Anomalous) k

/-- The samples without a decrement among the first `k`, from the sample `m` on. -/
def noDecrements (m k : ℕ) : ℕ := Nat.count (fun i => m ≤ i ∧ (samples i).NoDecrement) k

/-- There is enough evidence in the first `k` samples, for what is counted from the sample `m` on. -/
def EvidenceSince (m k : ℕ) : Prop := Evidence (normals samples k) (anomalies samples m k) (noDecrements samples m k)

/-- The length of the row of normal samples, all recorded while suspected, that the first `k` samples end with. -/
def streak : ℕ → ℕ
  | 0 => 0
  | k + 1 => if (after samples k).suspected = true ∧ ¬(samples k).Anomalous then streak k + 1 else 0

/-- The counters of the detector and the samples. -/
structure Tracks (k : ℕ) : Prop where
  normal : (after samples k).normal_samples = normals samples k
  anomalous : (after samples k).anomalous_samples = anomalies samples (lastClear samples k) k
  no_decrement : (after samples k).no_decrement_samples = noDecrements samples (lastClear samples k) k
  negative : (after samples k).negative_checks = if (after samples k).suspected then streak samples k else 0
  negative_lt : (after samples k).negative_checks < 10
  suspected : (after samples k).suspected = true ↔
    ∃ j, lastClear samples k ≤ j ∧ j < k ∧ EvidenceSince samples (lastClear samples k) (j + 1)

/-- The tracker follows no samples at the start. -/
theorem tracks_zero : Tracks samples 0 where
  normal := rfl
  anomalous := rfl
  no_decrement := rfl
  negative := rfl
  negative_lt := Nat.zero_lt_succ 9
  suspected := iff_of_false Bool.false_ne_true fun ⟨_, _, hlt, _⟩ => Nat.not_lt_zero _ hlt

variable {samples}

/-- The last clear is among the samples. -/
theorem lastClear_le (k : ℕ) : lastClear samples k ≤ k := by
  induction k with
  | zero => exact Nat.le_refl 0
  | succ k ih =>
    rw [lastClear]
    split_ifs
    · exact Nat.le_refl _
    · exact Nat.le_succ_of_le ih

/-- Where nothing is suspected, nothing is cleared. -/
theorem lastClear_of_not_suspected {k : ℕ} (h : (after samples k).suspected = false) :
    lastClear samples (k + 1) = lastClear samples k := by
  rw [lastClear, if_neg]
  rintro ⟨hs, -⟩
  rw [h] at hs
  cases hs

/-- Nothing is counted from the end on. -/
theorem count_from_end (p : ℕ → Prop) [DecidablePred p] (k : ℕ) : Nat.count (fun i => k ≤ i ∧ p i) k = 0 := by
  refine Nat.count_of_forall_not ?_
  intro i hi h
  omega

/-- One more sample is counted, if the count has begun. -/
theorem count_from_succ (p : ℕ → Prop) [DecidablePred p] {m k : ℕ} (h : m ≤ k) :
    Nat.count (fun i => m ≤ i ∧ p i) (k + 1) = Nat.count (fun i => m ≤ i ∧ p i) k + if p k then 1 else 0 := by
  rw [Nat.count_succ]
  simp only [h, true_and]

/-- A sample is normal, or anomalous. -/
theorem normals_succ (k : ℕ) :
    normals samples (k + 1) = normals samples k + if (samples k).Anomalous then 0 else 1 := by
  rw [normals, Nat.count_succ, ← normals]
  by_cases h : (samples k).Anomalous
  · rw [if_neg (not_not_intro h), if_pos h]
  · rw [if_pos h, if_neg h]

/-- A sample clears the suspicion exactly when it withdraws it. -/
theorem clears_iff_withdraws {k : ℕ} (h : Tracks samples k) :
    Clears samples k ↔ (after samples k).Withdraws (samples k) := by
  obtain ⟨-, hcase⟩ := recordSample_spec h.negative_lt (samples k)
  constructor
  · rintro ⟨hbefore, hafter⟩
    obtain ⟨hw, -⟩ | ⟨-, hcounts⟩ := hcase
    · exact hw
    · have hstays := hcounts.suspected.mpr (.inl hbefore)
      rw [after] at hafter
      rw [hafter] at hstays
      cases hstays
  · intro hw
    obtain ⟨-, hcleared⟩ | ⟨hnot, -⟩ := hcase
    · exact ⟨hw.1, hcleared.suspected⟩
    · exact absurd hw hnot

/-- A clear starts the counts of evidence anew. -/
theorem Tracks.of_cleared {k : ℕ} (hnormal : (after samples (k + 1)).normal_samples = normals samples (k + 1))
    (hclears : Clears samples k) (hcleared : Cleared (after samples (k + 1))) : Tracks samples (k + 1) := by
  have hlast : lastClear samples (k + 1) = k + 1 := by rw [lastClear, if_pos hclears]
  have hsuspected : (after samples (k + 1)).suspected = false := hcleared.suspected
  refine ⟨hnormal, ?_, ?_, ?_, ?_, ?_⟩
  · rw [hlast, anomalies, count_from_end]
    exact hcleared.anomalous
  · rw [hlast, noDecrements, count_from_end]
    exact hcleared.no_decrement
  · rw [hsuspected]
    exact hcleared.negative
  · exact hcleared.negative.trans_lt (by decide)
  · rw [hsuspected, hlast]
    refine iff_of_false Bool.false_ne_true ?_
    rintro ⟨j, hle, hlt, -⟩
    omega

/-- The negative checks are the row that goes on, as long as the suspicion stands. -/
theorem Tracks.negative_of_counts {k : ℕ} (h : Tracks samples k)
    (hcounts : (after samples k).Counts (after samples (k + 1)) (samples k)) :
    (after samples (k + 1)).negative_checks =
      if (after samples (k + 1)).suspected then streak samples (k + 1) else 0 := by
  have hold := h.negative
  rw [hcounts.negative]
  by_cases hanom : (samples k).Anomalous
  · have hrow : streak samples (k + 1) = 0 := if_neg fun hs => hs.2 hanom
    rw [if_pos hanom, hrow, ite_self]
  by_cases hbefore : (after samples k).suspected = true
  · have hrow : streak samples (k + 1) = streak samples k + 1 := if_pos ⟨hbefore, hanom⟩
    rw [if_pos hbefore] at hold
    rw [if_neg hanom, if_pos hbefore, if_pos (hcounts.suspected.mpr (.inl hbefore)), hrow, hold]
  · have hrow : streak samples (k + 1) = 0 := if_neg fun hs => hbefore hs.1
    rw [if_neg hbefore] at hold
    rw [if_neg hanom, if_neg hbefore, hrow, ite_self, hold]

/-- Without a clear the counts go on. -/
theorem Tracks.of_counts {k : ℕ} (h : Tracks samples k)
    (hnormal : (after samples (k + 1)).normal_samples = normals samples (k + 1))
    (hnot : ¬(after samples k).Withdraws (samples k))
    (hcounts : (after samples k).Counts (after samples (k + 1)) (samples k)) : Tracks samples (k + 1) := by
  have hle := @lastClear_le samples k
  have hlast : lastClear samples (k + 1) = lastClear samples k := by
    rw [lastClear, if_neg fun hc => hnot ((clears_iff_withdraws h).mp hc)]
  -- The sample adds to the counts since the last clear.
  have hanomalous : (after samples (k + 1)).anomalous_samples = anomalies samples (lastClear samples k) (k + 1) := by
    rw [anomalies, count_from_succ _ hle, ← anomalies, ← h.anomalous]
    exact hcounts.anomalous
  have hnodec : (after samples (k + 1)).no_decrement_samples = noDecrements samples (lastClear samples k) (k + 1) := by
    rw [noDecrements, count_from_succ _ hle, ← noDecrements, ← h.no_decrement]
    exact hcounts.no_decrement
  have hsuspected : (after samples (k + 1)).suspected = true ↔
      (after samples k).suspected = true ∨ EvidenceSince samples (lastClear samples k) (k + 1) := by
    rw [EvidenceSince, ← hnormal, ← hanomalous, ← hnodec]
    exact hcounts.suspected
  refine ⟨hnormal, hlast ▸ hanomalous, hlast ▸ hnodec, h.negative_of_counts hcounts, ?_, ?_⟩
  · have hlt := h.negative_lt
    rw [hcounts.negative]
    split_ifs with hanom hbefore
    · exact Nat.zero_lt_succ 9
    · -- After nine checks this one would have cleared the suspicion.
      have hnine : (after samples k).negative_checks ≠ 9 := fun hnine => hnot ⟨hbefore, hanom, hnine⟩
      omega
    · exact hlt
  · rw [hlast, hsuspected, h.suspected]
    constructor
    · rintro (⟨j, hj, hlt, he⟩ | he)
      · exact ⟨j, hj, Nat.lt_succ_of_lt hlt, he⟩
      · exact ⟨k, hle, Nat.lt_succ_self k, he⟩
    · rintro ⟨j, hj, hlt, he⟩
      obtain hlt | rfl := Nat.lt_succ_iff_lt_or_eq.mp hlt
      · exact .inl ⟨j, hj, hlt, he⟩
      · exact .inr he

/-- The tracker follows one sample more. -/
theorem Tracks.step {k : ℕ} (h : Tracks samples k) : Tracks samples (k + 1) := by
  obtain ⟨hnormal, hcase⟩ := recordSample_spec h.negative_lt (samples k)
  have hnormal' : (after samples (k + 1)).normal_samples = normals samples (k + 1) := by
    rw [normals_succ, ← h.normal]
    exact hnormal
  obtain ⟨hw, hcleared⟩ | ⟨hnot, hcounts⟩ := hcase
  · exact .of_cleared hnormal' ((clears_iff_withdraws h).mpr hw) hcleared
  · exact h.of_counts hnormal' hnot hcounts

/-- The tracker follows all samples. -/
theorem tracks (k : ℕ) : Tracks samples k := by
  induction k with
  | zero => exact tracks_zero samples
  | succ k ih => exact ih.step

/-- **The hysteresis of the suspicion.** It is raised by the first sample since the start or the last clear with which
there is enough evidence, and cleared by the tenth normal sample in a row that is recorded while it stands. The sample
that clears it leaves it cleared, whatever evidence there was. -/
theorem suspicion_hysteresis (samples : ℕ → Sample) (k : ℕ) :
    (Raises samples k ↔
      EvidenceSince samples (lastClear samples k) (k + 1) ∧
        ∀ j, lastClear samples k ≤ j → j < k → ¬EvidenceSince samples (lastClear samples k) (j + 1)) ∧
    (Clears samples k ↔ streak samples (k + 1) = 10) := by
  have htracks := @tracks samples k
  have hnext := @tracks samples (k + 1)
  have hle := @lastClear_le samples k
  have hclears := clears_iff_withdraws htracks
  constructor
  · constructor
    · rintro ⟨hbefore, hafter⟩
      have hlast := lastClear_of_not_suspected hbefore
      have hnone : ∀ j, lastClear samples k ≤ j → j < k → ¬EvidenceSince samples (lastClear samples k) (j + 1) := by
        intro j hj hlt he
        have hs := htracks.suspected.mpr ⟨j, hj, hlt, he⟩
        rw [hbefore] at hs
        cases hs
      obtain ⟨j, hj, hlt, he⟩ := hnext.suspected.mp hafter
      rw [hlast] at hj he
      obtain hlt | rfl := Nat.lt_succ_iff_lt_or_eq.mp hlt
      · exact absurd he (hnone j hj hlt)
      · exact ⟨he, hnone⟩
    · rintro ⟨he, hnone⟩
      have hbefore : (after samples k).suspected = false := by
        rw [← Bool.not_eq_true, htracks.suspected]
        rintro ⟨j, hj, hlt, hevidence⟩
        exact hnone j hj hlt hevidence
      have hlast := lastClear_of_not_suspected hbefore
      refine ⟨hbefore, hnext.suspected.mpr ⟨k, ?_, Nat.lt_succ_self k, ?_⟩⟩
      · rw [hlast]
        exact hle
      · rw [hlast]
        exact he
  · rw [hclears, streak]
    have hnegative := htracks.negative
    constructor
    · rintro ⟨hsuspected, hnormal, hnine⟩
      rw [if_pos hsuspected, hnine] at hnegative
      rw [if_pos ⟨hsuspected, hnormal⟩, ← hnegative]
    · intro hten
      split_ifs at hten with hrow
      rw [if_pos hrow.1] at hnegative
      exact ⟨hrow.1, hrow.2, by omega⟩

end

end TtlManipInfo

end Ttl
