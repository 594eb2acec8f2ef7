import Mathlib.Data.List.Basic
import Mathlib.Data.List.Nodup
import Mathlib.Data.List.TakeWhile
import Mathlib.Algebra.Order.Field.Rat
import Mathlib.Algebra.Order.Group.Unbundled.Abs
import Mathlib.Tactic.Cases
import Ttl.Lib.Lines
import Ttl.Lib.Text

/-!
# A text format for metrics

The text exposition format of a metrics scraper. A family of samples is introduced by its HELP and its TYPE line, and
followed by the lines of its samples. A label value stands in quotes, with a backslash before a backslash, a quote and
an `n` for a line feed. `read` accepts no blanks, comments or timestamps that the format would let pass, and rejects a
text in which a family is not contiguous, or in which two samples have one name and one set of labels.

`read_text` is the round trip: a text that is printed is read as what was printed.
-/

namespace Exposition

open Lines

/-- A sample, with its labels unescaped and the text of its value. -/
structure Sample where
  name : List Char
  labels : List (List Char × List Char)
  value : List Char
deriving DecidableEq

/-- A family of samples. -/
structure Family where
  name : List Char
  kind : List Char
  help : List Char
  samples : List Sample
deriving DecidableEq

/-- The samples have one name and one set of labels. -/
def Sample.SameSeries (a b : Sample) : Prop := a.name = b.name ∧ a.labels ⊆ b.labels ∧ b.labels ⊆ a.labels

instance (a b : Sample) : Decidable (a.SameSeries b) :=
  inferInstanceAs (Decidable (a.name = b.name ∧ a.labels ⊆ b.labels ∧ b.labels ⊆ a.labels))

/-- Among labels with different names, one is found by its name. -/
theorem mem_iff_lookup {labels : List (List Char × List Char)} (h : (labels.map (·.1)).Nodup)
    {name value : List Char} : (name, value) ∈ labels ↔ labels.lookup name = some value := by
  induction labels with
  | nil => exact iff_of_false List.not_mem_nil (Option.some_ne_none value).symm
  | cons l labels ih =>
    obtain ⟨n, v⟩ := l
    obtain ⟨hfresh, hrest⟩ := List.nodup_cons.mp h
    rw [List.mem_cons, List.lookup_cons, ih hrest]
    by_cases hname : name = n
    · subst hname
      have hnone : labels.lookup name ≠ some value :=
        fun heq => hfresh (List.mem_map.mpr ⟨(name, value), (ih hrest).mpr heq, rfl⟩)
      simp [hnone, eq_comm]
    · have hbeq : (name == n) = false := beq_false_of_ne hname
      simp [hname, hbeq]

/-! ## Printing -/

/-- A character of a label value. -/
def escapeChar (c : Char) : List Char :=
  if c = '\\' then ['\\', '\\'] else if c = '"' then ['\\', '"'] else if c = '\n' then ['\\', 'n'] else [c]

/-- A label value. -/
def escape (value : List Char) : List Char := value.flatMap escapeChar

/-- A label. -/
def labelText (l : List Char × List Char) : List Char := l.1 ++ "=\"".toList ++ escape l.2 ++ ['"']

/-- The labels of a sample. -/
def labelsText (labels : List (List Char × List Char)) : List Char := List.intercalate [','] (labels.map labelText)

/-- The line of a sample, which has labels. -/
def Sample.text (s : Sample) : List Char := s.name ++ '{' :: (labelsText s.labels ++ '}' :: ' ' :: s.value)

/-- The HELP line. -/
def Family.helpText (f : Family) : List Char := "# HELP ".toList ++ (f.name ++ ' ' :: f.help)

/-- The TYPE line. -/
def Family.typeText (f : Family) : List Char := "# TYPE ".toList ++ (f.name ++ ' ' :: f.kind)

/-- The lines of a family. -/
def Family.lines (f : Family) : List (List Char) := f.helpText :: f.typeText :: f.samples.map Sample.text

/-- The text of a family: its two lines, and those of its samples. -/
theorem unlines_lines (f : Family) :
    unlines f.lines = "# HELP ".toList ++ (f.name ++ ' ' :: (f.help ++ '\n' :: ("# TYPE ".toList ++ (f.name ++ ' ' ::
      (f.kind ++ '\n' :: unlines (f.samples.map Sample.text)))))) := by
  have hhelp : f.helpText = "# HELP ".toList ++ (f.name ++ ' ' :: f.help) := rfl
  have htype : f.typeText = "# TYPE ".toList ++ (f.name ++ ' ' :: f.kind) := rfl
  rewrite [Family.lines, unlines_cons, unlines_cons, hhelp, htype]
  simp only [List.append_assoc, List.cons_append]

/-- The text of families. -/
def text (families : List Family) : List Char := unlines (families.flatMap Family.lines)

/-! ## Reading -/

/-- A character of a name. -/
def isNameChar (c : Char) : Bool := c.isAlphanum || c = '_' || c = ':'

/-- A name does not begin with a digit. -/
def isName (name : List Char) : Bool :=
  name.all isNameChar && match name with
  | [] => false
  | c :: _ => ! c.isDigit

/-- A number: digits, and perhaps a sign before them and a point and digits after them. -/
def isNumber (value : List Char) : Bool :=
  let digits := if value.head? = some '-' then value.tail else value
  let whole := digits.takeWhile Char.isDigit
  match digits.dropWhile Char.isDigit with
  | [] => whole ≠ []
  | c :: fraction => whole ≠ [] && c = '.' && fraction ≠ [] && fraction.all Char.isDigit

/-- A number with a fixed number of decimals. -/
theorem isNumber_fixed (decimals : ℕ) (x : ℚ) : isNumber (Text.fixed decimals x) := by
  have habs : ∀ y, ∃ n rest, Text.fixedAbs decimals y = Text.nat n ++ rest ∧
      (rest = [] ∨ ∃ m, rest = '.' :: Text.padded decimals m) := by
    intro y
    unfold Text.fixedAbs
    dsimp only
    split_ifs
    · exact ⟨_, [], (List.append_nil _).symm, .inl rfl⟩
    · exact ⟨_, _, rfl, .inr ⟨_, rfl⟩⟩
  have hdigits : ∀ n, ∀ c ∈ Text.nat n, c.isDigit := fun n c hc => Text.isDigit_of_mem_nat hc
  have hunsigned : ∀ y, (Text.fixedAbs decimals y).head? ≠ some '-' := by
    intro y hhead
    obtain ⟨n, rest, hy, -⟩ := habs y
    obtain ⟨d, ds, hn⟩ := List.exists_cons_of_ne_nil (Text.nat_ne_nil n)
    rw [hy, hn, List.cons_append, List.head?_cons, Option.some.injEq] at hhead
    have hd := hdigits n d (hn ▸ List.mem_cons_self)
    rw [hhead] at hd
    exact absurd hd (by decide)
  have hsign : (if (Text.fixed decimals x).head? = some '-' then (Text.fixed decimals x).tail
      else Text.fixed decimals x) = Text.fixedAbs decimals |x| := by
    unfold Text.fixed
    by_cases hx : x < 0
    · rw [if_pos hx, abs_of_neg hx]
      rfl
    · rw [if_neg hx, if_neg (hunsigned x), abs_of_nonneg (not_lt.mp hx)]
  unfold isNumber
  dsimp only
  rw [hsign]
  obtain ⟨n, rest, hx, rfl | ⟨m, rfl⟩⟩ := habs |x|
  · rw [hx, List.takeWhile_append_of_pos (hdigits n), List.dropWhile_append_of_pos (hdigits n)]
    simpa using Text.nat_ne_nil n
  · rw [hx, List.takeWhile_append_of_pos (hdigits n), List.dropWhile_append_of_pos (hdigits n)]
    have hm : ∀ c ∈ Text.padded decimals m, c.isDigit := fun c hc => Text.isDigit_of_mem_padded hc
    have hpoint : ('.' :: Text.padded decimals m).dropWhile Char.isDigit = '.' :: Text.padded decimals m :=
      List.dropWhile_cons_of_neg (by decide)
    rw [hpoint]
    simpa [Text.nat_ne_nil, Text.padded_ne_nil] using hm

/-- The types of metrics. -/
def kinds : List (List Char) :=
  ["counter".toList, "gauge".toList, "histogram".toList, "summary".toList, "untyped".toList]

/-- A label value up to its closing quote, and what follows. -/
def readQuoted : List Char → Option (List Char × List Char)
  | [] => none
  | '"' :: rest => some ([], rest)
  | '\\' :: '\\' :: rest => (readQuoted rest).map fun r => ('\\' :: r.1, r.2)
  | '\\' :: '"' :: rest => (readQuoted rest).map fun r => ('"' :: r.1, r.2)
  | '\\' :: 'n' :: rest => (readQuoted rest).map fun r => ('\n' :: r.1, r.2)
  | '\\' :: _ => none
  | c :: rest => (readQuoted rest).map fun r => (c :: r.1, r.2)

/-- Labels up to the closing brace, and what follows. -/
def readLabels : ℕ → List Char → Option (List (List Char × List Char) × List Char)
  | 0, _ => none
  | fuel + 1, line =>
    let name := line.takeWhile isNameChar
    match line.dropWhile isNameChar with
    | '=' :: '"' :: rest => do
      let (value, rest) ← readQuoted rest
      match rest with
      | ',' :: rest =>
        let (labels, rest) ← readLabels fuel rest
        return ((name, value) :: labels, rest)
      | '}' :: rest => return ([(name, value)], rest)
      | _ => none
    | _ => none

/-- A line of a sample. -/
def readSample (line : List Char) : Option Sample :=
  let name := line.takeWhile isNameChar
  match line.dropWhile isNameChar with
  | '{' :: rest => do
    let (labels, rest) ← readLabels rest.length rest
    match rest with
    | ' ' :: value =>
      if isName name ∧ (∀ l ∈ labels, isName l.1) ∧ (labels.map (·.1)).Nodup ∧ isNumber value then
        return ⟨name, labels, value⟩
      else none
    | _ => none
  | _ => none

/-- A line. -/
inductive Line where
  | help (name text : List Char)
  | type (name kind : List Char)
  | sample (s : Sample)

/-- A name, and what follows after a blank. -/
def readName (line : List Char) : Option (List Char × List Char) :=
  match line.dropWhile isNameChar with
  | ' ' :: rest => some (line.takeWhile isNameChar, rest)
  | _ => none

/-- What a line says. -/
def readLine (line : List Char) : Option Line :=
  if line.take 7 = "# HELP ".toList then (readName (line.drop 7)).map fun r => .help r.1 r.2
  else if line.take 7 = "# TYPE ".toList then (readName (line.drop 7)).map fun r => .type r.1 r.2
  else (readSample line).map .sample

/-- The samples before the next header, and the families from it on. -/
def readFamilies : List Line → Option (List Sample × List Family)
  | [] => some ([], [])
  | .sample s :: lines => (readFamilies lines).map fun r => (s :: r.1, r.2)
  | .help name help :: .type name' kind :: lines => do
    let (samples, families) ← readFamilies lines
    if name' = name ∧ isName name ∧ kinds.contains kind ∧ (∀ s ∈ samples, s.name = name) ∧
        (∀ f ∈ families, f.name ≠ name) ∧ samples.Pairwise (fun a b => ¬a.SameSeries b) then
      return ([], ⟨name, kind, help, samples⟩ :: families)
    else none
  | _ => none

/-- The lines of a text, each of which ends with a line feed. -/
def readLines (text : List Char) : Option (List (List Char)) :=
  let parts := text.splitOn '\n'
  if parts.getLast? = some [] then some parts.dropLast else none

/-- The families of a text. -/
def read (text : List Char) : Option (List Family) := do
  let lines ← readLines text
  let lines ← lines.mapM readLine
  let (samples, families) ← readFamilies lines
  if samples = [] then return families else none

example : read "# HELP up Whether it runs\n# TYPE up gauge\nup\x7bhost=\"a\\\"b\"\x7d 1\n".toList =
    some [⟨"up".toList, "gauge".toList, "Whether it runs".toList,
      [⟨"up".toList, [("host".toList, "a\"b".toList)], "1".toList⟩]⟩] := by
  decide +kernel

/-! ## The round trip -/

/-- A sample that can be printed. -/
structure Sample.WellFormed (s : Sample) : Prop where
  name : isName s.name
  labels : s.labels ≠ []
  label_names : ∀ l ∈ s.labels, isName l.1
  nodup : (s.labels.map (·.1)).Nodup
  value : isNumber s.value

/-- A family that can be printed. -/
structure Family.WellFormed (f : Family) : Prop where
  name : isName f.name
  kind : f.kind ∈ kinds
  help : '\n' ∉ f.help
  samples : ∀ s ∈ f.samples, s.WellFormed ∧ s.name = f.name
  distinct : f.samples.Pairwise fun a b => ¬a.SameSeries b

/-- Every character of a name may stand in one. -/
theorem isNameChar_of_mem {name : List Char} (h : isName name) {c : Char} (hc : c ∈ name) : isNameChar c := by
  unfold isName at h
  rw [Bool.and_eq_true, List.all_eq_true] at h
  exact h.1 c hc

/-- A name ends at the first character that is none of a name. -/
theorem span_name {name : List Char} (h : isName name) {c : Char} (hc : isNameChar c = false) (rest : List Char) :
    (name ++ c :: rest).takeWhile isNameChar = name ∧ (name ++ c :: rest).dropWhile isNameChar = c :: rest := by
  have hall : ∀ d ∈ name, isNameChar d := fun d hd => isNameChar_of_mem h hd
  constructor
  · rw [List.takeWhile_append_of_pos hall, List.takeWhile_cons_of_neg (by rw [hc]; exact Bool.false_ne_true),
      List.append_nil]
  · rw [List.dropWhile_append_of_pos hall, List.dropWhile_cons_of_neg (by rw [hc]; exact Bool.false_ne_true)]

/-- An escaped value ends at the first quote that is not escaped. -/
theorem readQuoted_escape (value rest : List Char) : readQuoted (escape value ++ '"' :: rest) = some (value, rest) := by
  induction value with
  | nil => rfl
  | cons c value ih =>
    unfold escape at ih ⊢
    rw [List.flatMap_cons, List.append_assoc]
    by_cases hslash : c = '\\'
    · subst hslash
      exact congrArg (Option.map fun r => ('\\' :: r.1, r.2)) ih
    by_cases hquote : c = '"'
    · subst hquote
      exact congrArg (Option.map fun r => ('"' :: r.1, r.2)) ih
    by_cases hfeed : c = '\n'
    · subst hfeed
      exact congrArg (Option.map fun r => ('\n' :: r.1, r.2)) ih
    rw [escapeChar, if_neg hslash, if_neg hquote, if_neg hfeed, List.singleton_append]
    simp [readQuoted, hslash, ih]

/-- A value without special characters stands for itself. -/
theorem escape_of_plain {value : List Char} (h : ∀ c ∈ value, c ≠ '\\' ∧ c ≠ '"' ∧ c ≠ '\n') :
    escape value = value := by
  have hchars : value.flatMap escapeChar = value.flatMap fun c => [c] := by
    refine List.flatMap_congr fun c hc => ?_
    obtain ⟨hslash, hquote, hfeed⟩ := h c hc
    rw [escapeChar, if_neg hslash, if_neg hquote, if_neg hfeed]
  rw [escape, hchars, List.flatMap_singleton']

/-- One label has no comma. -/
theorem labelsText_singleton (l : List Char × List Char) : labelsText [l] = labelText l := by
  rw [labelsText, List.map_singleton, List.intercalate_singleton]

/-- A label is parted from those behind it by a comma. -/
theorem labelsText_cons {l : List Char × List Char} {labels : List (List Char × List Char)} (h : labels ≠ []) :
    labelsText (l :: labels) = labelText l ++ ',' :: labelsText labels := by
  cases labels with
  | nil => exact absurd rfl h
  | cons next labels =>
    unfold labelsText
    rw [List.map_cons, List.map_cons, List.intercalate_cons_cons, List.append_assoc, List.singleton_append]

/-- The labels of a sample read back, up to the closing brace. -/
theorem readLabels_labelsText {labels : List (List Char × List Char)} (hne : labels ≠ [])
    (hnames : ∀ l ∈ labels, isName l.1) {fuel : ℕ} (hfuel : labels.length ≤ fuel) (rest : List Char) :
    readLabels fuel (labelsText labels ++ '}' :: rest) = some (labels, rest) := by
  induction labels generalizing fuel with
  | nil => exact absurd rfl hne
  | cons l labels ih =>
    obtain ⟨name, value⟩ := l
    obtain ⟨hname, hnames⟩ := List.forall_mem_cons.mp hnames
    cases fuel with
    | zero => exact absurd hfuel (Nat.not_succ_le_zero _)
    | succ fuel =>
      have hlabel : ∀ rest, labelText (name, value) ++ rest = name ++ '=' :: '"' :: (escape value ++ '"' :: rest) := by
        intro rest
        simp [labelText]
      by_cases hlast : labels = []
      · subst hlast
        have htext : labelsText [(name, value)] = labelText (name, value) := by
          rw [labelsText, List.map_cons, List.map_nil, List.intercalate_singleton]
        obtain ⟨htake, hdrop⟩ := span_name (c := '=') hname rfl ('"' :: (escape value ++ '"' :: '}' :: rest))
        rw [htext, hlabel, readLabels, htake, hdrop]
        simp only [readQuoted_escape, Option.bind_eq_bind, Option.bind_some]
        rfl
      · obtain ⟨htake, hdrop⟩ :=
          span_name (c := '=') hname rfl ('"' :: (escape value ++ '"' :: ',' :: (labelsText labels ++ '}' :: rest)))
        rw [labelsText_cons hlast, List.append_assoc, List.cons_append, hlabel, readLabels, htake, hdrop]
        simp only [readQuoted_escape, Option.bind_eq_bind, Option.bind_some,
          ih hlast hnames (Nat.le_of_succ_le_succ hfuel)]
        rfl

/-- Every label has a character. -/
theorem length_le_labelsText (labels : List (List Char × List Char)) : labels.length ≤ (labelsText labels).length := by
  induction labels with
  | nil => exact Nat.zero_le _
  | cons l labels ih =>
    have hlabel : 0 < (labelText l).length := by simp [labelText]
    by_cases hlast : labels = []
    · subst hlast
      rw [labelsText, List.map_cons, List.map_nil, List.intercalate_singleton]
      exact hlabel
    · rw [labelsText_cons hlast, List.length_append, List.length_cons, List.length_cons]
      omega

/-- A sample reads back from its text. -/
theorem readSample_text {s : Sample} (h : s.WellFormed) : readSample s.text = some s := by
  have hfuel : s.labels.length ≤ (labelsText s.labels ++ '}' :: ' ' :: s.value).length := by
    rw [List.length_append]
    exact (length_le_labelsText s.labels).trans (Nat.le_add_right _ _)
  obtain ⟨htake, hdrop⟩ := span_name (c := '{') h.name rfl (labelsText s.labels ++ '}' :: ' ' :: s.value)
  rw [Sample.text, readSample, htake, hdrop]
  simp only [readLabels_labelsText h.labels h.label_names hfuel, Option.bind_eq_bind, Option.bind_some]
  rw [if_pos ⟨h.name, h.label_names, h.nodup, h.value⟩]
  rfl

/-- The line of a sample is read as that sample. -/
theorem readLine_text {s : Sample} (h : s.WellFormed) : readLine s.text = some (.sample s) := by
  obtain ⟨c, rest, htext, hc⟩ : ∃ c rest, s.text = c :: rest ∧ c ≠ '#' := by
    have hname := h.name
    cases hs : s.name with
    | nil =>
      rw [hs] at hname
      exact absurd hname (by decide)
    | cons c name =>
      refine ⟨c, name ++ '{' :: (labelsText s.labels ++ '}' :: ' ' :: s.value), ?_, ?_⟩
      · rw [Sample.text, hs]
        rfl
      · rintro rfl
        have hchar := isNameChar_of_mem (hs ▸ hname) List.mem_cons_self
        exact absurd hchar (by decide)
  have hline : readLine s.text = (readSample s.text).map .sample := by
    have hcomment : ∀ comment : List Char, comment.head? = some '#' → s.text.take 7 ≠ comment := by
      rintro comment hhead rfl
      rw [htext, List.take_succ_cons, List.head?_cons, Option.some.injEq] at hhead
      exact hc hhead
    rw [readLine, if_neg (hcomment _ rfl), if_neg (hcomment _ rfl)]
  rw [hline, readSample_text h, Option.map_some]

/-- A name reads back, up to the blank behind it. -/
theorem readName_append {name : List Char} (h : isName name) (rest : List Char) :
    readName (name ++ ' ' :: rest) = some (name, rest) := by
  obtain ⟨htake, hdrop⟩ := span_name (c := ' ') h rfl rest
  rw [readName, htake, hdrop]
  rfl

/-- The help line of a family reads back. -/
theorem readLine_helpText {f : Family} (h : f.WellFormed) : readLine f.helpText = some (.help f.name f.help) := by
  have htake : f.helpText.take 7 = "# HELP ".toList := List.take_left' rfl
  have hdrop : f.helpText.drop 7 = f.name ++ ' ' :: f.help := List.drop_left' rfl
  rw [readLine, if_pos htake, hdrop, readName_append h.name, Option.map_some]

/-- The type line of a family reads back. -/
theorem readLine_typeText {f : Family} (h : f.WellFormed) : readLine f.typeText = some (.type f.name f.kind) := by
  have htake : f.typeText.take 7 = "# TYPE ".toList := List.take_left' rfl
  have hdrop : f.typeText.drop 7 = f.name ++ ' ' :: f.kind := List.drop_left' rfl
  have hnot : f.typeText.take 7 ≠ "# HELP ".toList := by
    rw [htake]
    decide
  rw [readLine, if_neg hnot, if_pos htake, hdrop, readName_append h.name, Option.map_some]

/-- The lines of a family, as they are read. -/
def Family.read (f : Family) : List Line := .help f.name f.help :: .type f.name f.kind :: f.samples.map .sample

/-- The lines of a family read back one by one. -/
theorem mapM_readLine_lines {f : Family} (h : f.WellFormed) : f.lines.mapM readLine = some f.read := by
  have hsamples : (f.samples.map Sample.text).mapM readLine = some (f.samples.map .sample) := by
    have hall := h.samples
    generalize f.samples = samples at hall ⊢
    induction samples with
    | nil => rfl
    | cons s samples ih =>
      obtain ⟨hs, hall⟩ := List.forall_mem_cons.mp hall
      rw [List.map_cons, List.mapM_cons, readLine_text hs.1, ih hall]
      rfl
  rw [Family.lines, List.mapM_cons, readLine_helpText h, List.mapM_cons, readLine_typeText h, hsamples]
  rfl

/-- Samples are collected up to the next header. -/
theorem readFamilies_samples (samples : List Sample) {lines : List Line} {families : List Family}
    (h : readFamilies lines = some ([], families)) :
    readFamilies (samples.map .sample ++ lines) = some (samples, families) := by
  induction samples with
  | nil => exact h
  | cons s samples ih =>
    rw [List.map_cons, List.cons_append, readFamilies, ih]
    rfl

/-- The lines of families of distinct names are grouped into these families again. -/
theorem readFamilies_read {families : List Family} (h : ∀ f ∈ families, f.WellFormed)
    (hnames : (families.map Family.name).Nodup) :
    readFamilies (families.flatMap Family.read) = some ([], families) := by
  induction families with
  | nil => rfl
  | cons f families ih =>
    obtain ⟨hf, h⟩ := List.forall_mem_cons.mp h
    obtain ⟨hfresh, hnames⟩ := List.nodup_cons.mp hnames
    have hother : ∀ g ∈ families, g.name ≠ f.name :=
      fun g hg heq => hfresh (heq ▸ List.mem_map_of_mem hg)
    have hsame : ∀ s ∈ f.samples, s.name = f.name := fun s hs => (hf.samples s hs).2
    rw [List.flatMap_cons, Family.read, List.cons_append, List.cons_append, readFamilies,
      readFamilies_samples f.samples (ih h hnames)]
    dsimp only [Option.bind_eq_bind, Option.bind_some]
    rw [if_pos ⟨rfl, hf.name, List.contains_iff_mem.mpr hf.kind, hsame, hother, hf.distinct⟩]
    rfl

/-! ### No line feed in a line -/

/-- A name has no line feed. -/
theorem feed_notMem_name {name : List Char} (h : isName name) : '\n' ∉ name :=
  fun hc => absurd (isNameChar_of_mem h hc) (by decide)

/-- An escaped value has no line feed. -/
theorem feed_notMem_escape (value : List Char) : '\n' ∉ escape value := by
  intro h
  obtain ⟨c, -, hc⟩ := List.mem_flatMap.mp h
  unfold escapeChar at hc
  split_ifs at hc with hslash hquote hfeed
  · exact absurd hc (by decide)
  · exact absurd hc (by decide)
  · exact absurd hc (by decide)
  · exact hfeed (List.mem_singleton.mp hc).symm

/-- The characters of a number. -/
theorem of_mem_number {value : List Char} (h : isNumber value) {c : Char} (hc : c ∈ value) :
    c.isDigit ∨ c = '-' ∨ c = '.' := by
  unfold isNumber at h
  dsimp only at h
  generalize hdigits : (if value.head? = some '-' then value.tail else value) = digits at h
  have hmem : c = '-' ∨ c ∈ digits := by
    rw [← hdigits]
    split_ifs with hsign
    · obtain ⟨d, rest, rfl⟩ := List.exists_cons_of_ne_nil (List.ne_nil_of_mem hc)
      rw [List.head?_cons, Option.some.injEq] at hsign
      exact (List.mem_cons.mp hc).imp (·.trans hsign) id
    · exact .inr hc
  obtain hsign | hmem := hmem
  · exact .inr (.inl hsign)
  rw [← List.takeWhile_append_dropWhile (p := Char.isDigit) (l := digits)] at hmem
  obtain hwhole | hrest := List.mem_append.mp hmem
  · exact .inl (List.mem_takeWhile_imp hwhole)
  · cases hdrop : digits.dropWhile Char.isDigit with
    | nil =>
      rw [hdrop] at hrest
      cases hrest
    | cons d fraction =>
      rw [hdrop] at h hrest
      simp only [Bool.and_eq_true, decide_eq_true_eq, List.all_eq_true] at h
      obtain rfl | hfraction := List.mem_cons.mp hrest
      · exact .inr (.inr h.1.1.2)
      · exact .inl (h.2 c hfraction)

/-- The line of a sample has no line feed. -/
theorem feed_notMem_sample {s : Sample} (h : s.WellFormed) : '\n' ∉ s.text := by
  have hlabels : '\n' ∉ labelsText s.labels := by
    intro hmem
    obtain hc | ⟨part, hpart, hc⟩ := Text.mem_intercalate hmem
    · exact absurd hc (by decide)
    · obtain ⟨l, hl, rfl⟩ := List.mem_map.mp hpart
      unfold labelText at hc
      simp only [List.mem_append] at hc
      obtain ((hc | hc) | hc) | hc := hc
      · exact feed_notMem_name (h.label_names l hl) hc
      · exact absurd hc (by decide)
      · exact feed_notMem_escape _ hc
      · exact absurd hc (by decide)
  unfold Sample.text
  simp only [List.mem_append, List.mem_cons, not_or]
  refine ⟨feed_notMem_name h.name, by decide, hlabels, by decide, by decide, fun hc => ?_⟩
  exact absurd (of_mem_number h.value hc) (by decide)

/-- No line of a family has one. -/
theorem feed_notMem_lines {f : Family} (h : f.WellFormed) {line : List Char} (hline : line ∈ f.lines) :
    '\n' ∉ line := by
  have hkind : ∀ kind ∈ kinds, '\n' ∉ kind := by decide
  unfold Family.lines at hline
  obtain rfl | hline := List.mem_cons.mp hline
  · unfold Family.helpText
    simp only [List.mem_append, List.mem_cons, not_or]
    exact ⟨by decide, feed_notMem_name h.name, by decide, h.help⟩
  obtain rfl | hline := List.mem_cons.mp hline
  · unfold Family.typeText
    simp only [List.mem_append, List.mem_cons, not_or]
    exact ⟨by decide, feed_notMem_name h.name, by decide, hkind _ h.kind⟩
  obtain ⟨s, hs, rfl⟩ := List.mem_map.mp hline
  exact feed_notMem_sample (h.samples s hs).1

/-- Lines that are printed are read. -/
theorem readLines_unlines {lines : List (List Char)} (h : ∀ line ∈ lines, '\n' ∉ line) :
    readLines (unlines lines) = some lines := by
  have hsplit : (unlines lines).splitOn '\n' = lines ++ [[]] := by
    have hparts := splitOn_unlines h (List.not_mem_nil (a := '\n'))
    rwa [List.append_nil] at hparts
  unfold readLines
  dsimp only
  rw [hsplit, List.getLast?_concat, if_pos rfl, List.dropLast_concat]

/-- **The round trip.** What is printed is read. -/
theorem read_text {families : List Family} (h : ∀ f ∈ families, f.WellFormed)
    (hnames : (families.map Family.name).Nodup) : read (text families) = some families := by
  have hlines : readLines (text families) = some (families.flatMap Family.lines) := by
    refine readLines_unlines fun line hline => ?_
    obtain ⟨f, hf, hline⟩ := List.mem_flatMap.mp hline
    exact feed_notMem_lines (h f hf) hline
  have hread : (families.flatMap Family.lines).mapM readLine = some (families.flatMap Family.read) := by
    clear hlines hnames
    induction families with
    | nil => rfl
    | cons f families ih =>
      obtain ⟨hf, h⟩ := List.forall_mem_cons.mp h
      rw [List.flatMap_cons, List.mapM_append, mapM_readLine_lines hf, ih h]
      rfl
  simp only [read, hlines, hread, readFamilies_read h hnames, Option.bind_eq_bind, Option.bind_some]
  rfl

end Exposition
