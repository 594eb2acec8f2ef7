import Ttl.Lookup.CacheFile

/-!
# The file of the exchanges as a register

No load reads a file that is written, so that it reads the whole text of one call of `save_cache`. Where a renaming
replaces what the new name denotes, as everywhere but on Windows, the file is a register: each save that succeeds writes
it at one moment, each load reads it at one moment, and a call that fails or is cut off does nothing to it.
-/

namespace Ttl.CacheFile

open Runs

variable {windows : Bool} {serde : Serde} {files₀ : Files} {s t : Store} {h : Register}

/-! ## No file that is read is written -/

/-- The text is that of a save, or was there at the start. -/
def Whole (files₀ : Files) (h : Register) (text : List UInt8) : Prop :=
  text ∈ h.texts ∨ ∃ n : Name, n.Published ∧ files₀.text n = some text

/-- A text that is whole stays so. -/
theorem Whole.note {text : List UInt8} (hwhole : Whole files₀ h text) (s : Store) (a : Action) :
    Whole files₀ (h.note serde s a) text := hwhole.imp_left fun hmem => texts_note h s a hmem

/-- The file that a load reads: no temporary name denotes it, and the load has read a beginning of it. -/
structure Reads (files₀ : Files) (h : Register) (files : Files) (i : ℕ) (text : List UInt8) : Prop where
  below : i < files.next
  named : files.Within i {n | n.Published}
  whole : Whole files₀ h (files.contents i)
  beginning : text <+: files.contents i

/-- What is known of a load. -/
def LoadPc.Sound (parse : List UInt8 → Option IxCache) (files₀ : Files) (h : Register) (files : Files) : LoadPc → Prop
  | .opening => True
  | .reading i text => Reads files₀ h files i text
  | .returned result =>
    result = .error .notFound ∨ result = .error .io ∨ ∃ text, Whole files₀ h text ∧ result = loaded parse text

/-- Every call holds its own file, no load reads it, and the names of whole caches denote whole caches. -/
structure Stored (serde : Serde) (files₀ : Files) (s : Store) (h : Register) : Prop where
  files : s.files.WellFormed
  published : ∀ (n : Name) text, n.Published → s.files.text n = some text → Whole files₀ h text
  held : ∀ id c i rest, s.saves id = some c → c.pc.holding = some (i, rest) → c.Holds s.files i rest
  alone : ∀ id id' c c' i rest rest', s.saves id = some c → s.saves id' = some c' → c.pc.holding = some (i, rest) →
    c'.pc.holding = some (i, rest') → id = id'
  unread : ∀ id id' c l i rest text, s.saves id = some c → s.loads id' = some l → c.pc.holding = some (i, rest) →
    l.pc ≠ .reading i text
  loads : ∀ id l, s.loads id = some l → l.pc.Sound serde.parse files₀ h s.files

/-- The files of the start are stored. -/
theorem stored_start (hwf : files₀.WellFormed) : Stored serde files₀ (.start files₀) (.start files₀) where
  files := hwf
  published n _ hn htext := .inr ⟨n, hn, htext⟩
  held _ _ _ _ h := nomatch h
  alone _ _ _ _ _ _ _ h := nomatch h
  unread _ _ _ _ _ _ _ h := nomatch h
  loads _ _ h := nomatch h

section

variable {id id' i n : ℕ} {c c' : Save} {l : Load} {rest text : List UInt8}

/-- The file of another call is out of reach. -/
theorem Stored.not_owns_save (hs : Stored serde files₀ s h) (hn : Numbered n s h) (hc : s.saves id = some c)
    (hc' : s.saves id' = some c') (hne : id' ≠ id) (hheld : c'.pc.holding = some (i, rest)) : ¬ c.Owns s.files i := by
  have hholds := hs.held id' c' i rest hc' hheld
  rintro (⟨rest', hown⟩ | htemp | hnext)
  · exact hne (hs.alone id' id c' c i rest rest' hc' hc hheld hown)
  · exact hne (hn.apart id' id c' c hc' hc (hholds.named c.temp htemp).symm)
  · exact absurd hholds.below (not_lt.mpr hnext)

/-- So is a file that a load reads. -/
theorem Stored.not_owns_load (hs : Stored serde files₀ s h) (hc : s.saves id = some c) (hl : s.loads id' = some l)
    (hreading : l.pc = .reading i text) : ¬ c.Owns s.files i := by
  have hsound := hs.loads id' l hl
  rw [hreading] at hsound
  rintro (⟨rest, hown⟩ | htemp | hnext)
  · exact hs.unread id id' c l i rest text hc hl hown hreading
  · exact temp_not_published c (hsound.named c.temp htemp)
  · exact absurd hsound.below (not_lt.mpr hnext)

/-- So is a file with the name of a whole cache. -/
theorem Stored.not_owns_published (hs : Stored serde files₀ s h) (hc : s.saves id = some c) {m : Name}
    (hm : m.Published) (hnames : s.files.names m = some i) : ¬ c.Owns s.files i := by
  rintro (⟨rest, hown⟩ | htemp | hnext)
  · obtain rfl : m = c.temp := (hs.held id c i rest hc hown).named m hnames
    exact temp_not_published c hm
  · obtain rfl : m = c.temp := hs.files.injective m c.temp i hnames htemp
    exact temp_not_published c hm
  · exact absurd (hs.files.below m i hnames) (not_lt.mpr hnext)

/-- A load stays sound as the register grows. -/
theorem LoadPc.Sound.note {parse : List UInt8 → Option IxCache} {files : Files} {pc : LoadPc}
    (hsound : pc.Sound parse files₀ h files) (s : Store) (a : Action) :
    pc.Sound parse files₀ (h.note serde s a) files := by
  cases pc with
  | opening => trivial
  | reading i text => exact ⟨hsound.below, hsound.named, hsound.whole.note s a, hsound.beginning⟩
  | returned result =>
    rcases hsound with hresult | hresult | ⟨text, hwhole, hresult⟩
    · exact .inl hresult
    · exact .inr (.inl hresult)
    · exact .inr (.inr ⟨text, hwhole.note s a, hresult⟩)

/-- Calls may begin and end. -/
theorem Stored.congr (hs : Stored serde files₀ s h) (a : Action) (hfiles : t.files = s.files)
    (hsaves : ∀ id c, t.saves id = some c → c.pc.holding = none ∨ s.saves id = some c)
    (hloads : ∀ id l, t.loads id = some l → l.pc = .opening ∨ s.loads id = some l) :
    Stored serde files₀ t (h.note serde s a) := by
  have hheld (id : ℕ) (c : Save) (i : ℕ) (rest : List UInt8) (hc : t.saves id = some c)
      (hholding : c.pc.holding = some (i, rest)) : s.saves id = some c := by
    refine (hsaves id c hc).resolve_left fun hnone => ?_
    rw [hholding] at hnone
    cases hnone
  constructor
  · rw [hfiles]
    exact hs.files
  · rw [hfiles]
    exact fun n text hn htext => (hs.published n text hn htext).note s a
  · rw [hfiles]
    exact fun id c i rest hc hholding => hs.held id c i rest (hheld id c i rest hc hholding) hholding
  · intro id id' c c' i rest rest' hc hc' hholding hholding'
    exact hs.alone id id' c c' i rest rest' (hheld id c i rest hc hholding) (hheld id' c' i rest' hc' hholding') hholding
      hholding'
  · intro id id' c l i rest text hc hl hholding hreading
    rcases hloads id' l hl with hopening | hl
    · rw [hreading] at hopening
      cases hopening
    · exact hs.unread id id' c l i rest text (hheld id c i rest hc hholding) hl hholding hreading
  · intro id l hl
    rw [hfiles]
    rcases hloads id l hl with hopening | hl
    · rw [hopening]
      trivial
    · exact (hs.loads id l hl).note s a

/-- What another call or a load holds is as it was after a step of a save. -/
theorem Save.Holds.change {files files' : Files} {pc : SavePc} (hholds : c'.Holds files i rest)
    (hchange : c.Change files files' pc) (hwf : files.WellFormed) (howns : ¬ c.Owns files i) (htemp : c'.temp ≠ c.temp) :
    c'.Holds files' i rest := by
  obtain ⟨hbelow, hnamed, honly, hwritten⟩ := hholds
  refine ⟨hbelow.trans_le (hchange.next_le hwf), fun n hn => ?_, fun j hj => ?_, ?_⟩
  · rcases hchange.names hwf howns hn with hn | ⟨-, m, hm, hmi⟩
    · exact hnamed n hn
    · obtain rfl : m = c'.temp := hnamed m hmi
      exact absurd hm (temp_not_published c')
  · exact honly j (hchange.temps hwf htemp (temp_not_published c') hj)
  · rw [hchange.contents hwf howns, hwritten]

/-- A text that is read stays under its file, unless a save owns that. -/
theorem Reads.change {files files' : Files} {pc : SavePc} (hreads : Reads files₀ h files i text)
    (hchange : c.Change files files' pc) (hwf : files.WellFormed) (howns : ¬ c.Owns files i) :
    Reads files₀ h files' i text := by
  obtain ⟨hbelow, hnamed, hwhole, hbeginning⟩ := hreads
  have hcontents := hchange.contents hwf howns
  refine ⟨hbelow.trans_le (hchange.next_le hwf), fun n hn => ?_, ?_, ?_⟩
  · rcases hchange.names hwf howns hn with hn | ⟨hn, -⟩
    · exact hnamed n hn
    · exact hn
  · rw [hcontents]
    exact hwhole
  · rw [hcontents]
    exact hbeginning

/-- One step of a save. -/
theorem Stored.saving (hs : Stored serde files₀ s h) (hn : Numbered n s h) (hc : s.saves id = some c) {files' : Files}
    {pc : SavePc} (hchange : c.Change s.files files' pc) (a : Action) :
    Stored serde files₀ { s with files := files', saves := Function.update s.saves id (some { c with pc := pc }) }
      (h.note serde s a) := by
  have hown := fun i rest => hs.held id c i rest hc
  -- A call after the step is the one that has moved, or another one.
  have hcases (id' : ℕ) (c' : Save) (hc' : Function.update s.saves id (some { c with pc := pc }) id' = some c') :
      id' = id ∧ { c with pc := pc } = c' ∨ id' ≠ id ∧ s.saves id' = some c' := by
    rw [Function.update_apply] at hc'
    split_ifs at hc' with hid
    · exact .inl ⟨hid, Option.some.inj hc'⟩
    · exact .inr ⟨hid, hc'⟩
  constructor
  · exact hchange.wellFormed hs.files
  · intro m text hm htext
    obtain ⟨j, hj, rfl⟩ := Option.map_eq_some_iff.mp htext
    rcases hchange.published hs.files hown hm hj with ⟨m', hm', hnames⟩ | hwritten
    · dsimp only
      rw [hchange.contents hs.files (hs.not_owns_published hc hm' hnames)]
      exact (hs.published m' _ hm' (Option.map_eq_some_iff.mpr ⟨j, hnames, rfl⟩)).note s a
    · dsimp only
      rw [hwritten]
      exact .inl (texts_note h s a (hn.text id c hc))
  · intro id' c' i rest hc' hholding
    rcases hcases id' c' hc' with ⟨-, rfl⟩ | ⟨hne, hold⟩
    · obtain ⟨hbelow, hnamed, honly, hwritten⟩ := hchange.holds hs.files hown hholding
      exact ⟨hbelow, hnamed, honly, hwritten⟩
    · have htemp : c'.temp ≠ c.temp := fun htemp => hne (hn.apart id' id c' c hold hc htemp)
      exact (hs.held id' c' i rest hold hholding).change hchange hs.files (hs.not_owns_save hn hc hold hne hholding) htemp
  · intro id₁ id₂ c₁ c₂ i rest₁ rest₂ hc₁ hc₂ hholding₁ hholding₂
    rcases hcases id₁ c₁ hc₁ with ⟨hid₁, rfl⟩ | ⟨hne₁, hold₁⟩ <;> rcases hcases id₂ c₂ hc₂ with ⟨hid₂, rfl⟩ | ⟨hne₂, hold₂⟩
    · rw [hid₁, hid₂]
    · exact absurd (hchange.owns hs.files hholding₁) (hs.not_owns_save hn hc hold₂ hne₂ hholding₂)
    · exact absurd (hchange.owns hs.files hholding₂) (hs.not_owns_save hn hc hold₁ hne₁ hholding₁)
    · exact hs.alone id₁ id₂ c₁ c₂ i rest₁ rest₂ hold₁ hold₂ hholding₁ hholding₂
  · intro id₁ id₂ c₁ l i rest text hc₁ hl hholding hreading
    rcases hcases id₁ c₁ hc₁ with ⟨-, rfl⟩ | ⟨-, hold⟩
    · exact hs.not_owns_load hc hl hreading (hchange.owns hs.files hholding)
    · exact hs.unread id₁ id₂ c₁ l i rest text hold hl hholding hreading
  · intro id' l hl
    have hsound := hs.loads id' l hl
    cases hpc : l.pc with
    | opening => trivial
    | reading i text =>
      rw [hpc] at hsound
      obtain ⟨hbelow, hnamed, hwhole, hbeginning⟩ :=
        Reads.change hsound hchange hs.files (hs.not_owns_load hc hl hpc)
      exact ⟨hbelow, hnamed, hwhole.note s a, hbeginning⟩
    | returned result =>
      rw [hpc] at hsound
      have hreturned : (LoadPc.returned result).Sound serde.parse files₀ h files' := hsound
      exact hreturned.note s a

/-- One step of a load. -/
theorem Load.sound_step (hs : Stored serde files₀ s h) (hl : s.loads id = some l) {outcome : Outcome} {pc : LoadPc}
    (hstep : l.step serde.parse s.files outcome = some pc) :
    pc.Sound serde.parse files₀ h s.files ∧ ∀ i text, pc = .reading i text →
      (∃ text', l.pc = .reading i text') ∨ s.files.names .cache = some i := by
  have hsound := hs.loads id l hl
  obtain ⟨pid, at_pc⟩ := l
  cases outcome with
  | alreadyExists => cases hstep
  | fails =>
    cases at_pc with
    | returned result => cases hstep
    | opening | reading =>
      cases hstep
      exact ⟨.inr (.inl rfl), nofun⟩
  | ok count =>
    cases at_pc with
    | returned result => cases hstep
    | opening =>
      simp only [Load.step] at hstep
      split at hstep
      · next i hnames =>
        cases hstep
        refine ⟨⟨hs.files.below _ _ hnames, fun n hn => ?_, ?_, List.nil_prefix⟩, fun j text hpc => ?_⟩
        · obtain rfl : n = .cache := hs.files.injective n .cache i hn hnames
          trivial
        · exact hs.published .cache _ trivial (Option.map_eq_some_iff.mpr ⟨i, hnames, rfl⟩)
        · cases hpc
          exact .inr hnames
      · cases hstep
        exact ⟨.inl rfl, nofun⟩
    | reading i read =>
      obtain ⟨hbelow, hnamed, hwhole, hbeginning⟩ := hsound
      obtain ⟨left, hleft⟩ := hbeginning
      have hdrop : (s.files.contents i).drop read.length = left := by
        rw [← hleft, List.drop_left]
      simp only [Load.step] at hstep
      rw [hdrop] at hstep
      split_ifs at hstep with hend hcount
      · -- The end of the file: all of it is read.
        cases hstep
        rw [hend, List.append_nil] at hleft
        exact ⟨.inr (.inr ⟨read, hleft ▸ hwhole, rfl⟩), nofun⟩
      · cases hstep
        refine ⟨⟨hbelow, hnamed, hwhole, ?_⟩, fun j text hpc => ?_⟩
        · exact ⟨left.drop count, by rw [List.append_assoc, List.take_append_drop, hleft]⟩
        · cases hpc
          exact .inl ⟨read, rfl⟩

/-- The state after a step of a load. -/
theorem Stored.loading (hs : Stored serde files₀ s h) (hl : s.loads id = some l) {outcome : Outcome} {pc : LoadPc}
    (hstep : l.step serde.parse s.files outcome = some pc) (a : Action) :
    Stored serde files₀ { s with loads := Function.update s.loads id (some { l with pc := pc }) }
      (h.note serde s a) := by
  obtain ⟨hsound, hfile⟩ := Load.sound_step hs hl hstep
  have hcases (id' : ℕ) (l' : Load) (hl' : Function.update s.loads id (some { l with pc := pc }) id' = some l') :
      id' = id ∧ { l with pc := pc } = l' ∨ s.loads id' = some l' := by
    rw [Function.update_apply] at hl'
    split_ifs at hl' with hid
    · exact .inl ⟨hid, Option.some.inj hl'⟩
    · exact .inr hl'
  constructor
  · exact hs.files
  · exact fun n text hn htext => (hs.published n text hn htext).note s a
  · exact hs.held
  · exact hs.alone
  · intro id₁ id₂ c l' i rest text hc hl' hholding hreading
    rcases hcases id₂ l' hl' with ⟨-, rfl⟩ | hold
    · rcases hfile i text hreading with ⟨text', hbefore⟩ | hnames
      · exact hs.unread id₁ id c l i rest text' hc hl hholding hbefore
      · exact hs.not_owns_published (m := .cache) hc trivial hnames (.inl ⟨rest, hholding⟩)
    · exact hs.unread id₁ id₂ c l' i rest text hc hold hholding hreading
  · intro id' l' hl'
    rcases hcases id' l' hl' with ⟨-, rfl⟩ | hold
    · exact hsound.note s a
    · exact (hs.loads id' l' hold).note s a

/-- Someone removes a file. -/
theorem Stored.remove (hs : Stored serde files₀ s h) (name : Name) (a : Action) :
    Stored serde files₀ { s with files := s.files.remove name } (h.note serde s a) := by
  constructor
  · exact hs.files.remove name
  · intro m text hm htext
    obtain ⟨j, hj, rfl⟩ := Option.map_eq_some_iff.mp htext
    exact (hs.published m _ hm (Option.map_eq_some_iff.mpr ⟨j, FileSystem.of_names_remove hj, rfl⟩)).note s a
  · intro id c i rest hc hholding
    obtain ⟨hbelow, hnamed, honly, hwritten⟩ := hs.held id c i rest hc hholding
    exact ⟨hbelow, hnamed.remove name, fun j hj => honly j (FileSystem.of_names_remove hj), hwritten⟩
  · exact hs.alone
  · exact hs.unread
  · intro id l hl
    have hsound := hs.loads id l hl
    cases hpc : l.pc with
    | opening => trivial
    | reading i text =>
      rw [hpc] at hsound
      obtain ⟨hbelow, hnamed, hwhole, hbeginning⟩ := hsound
      exact ⟨hbelow, hnamed.remove name, hwhole.note s a, hbeginning⟩
    | returned result =>
      rw [hpc] at hsound
      have hreturned : (LoadPc.returned result).Sound serde.parse files₀ h (s.files.remove name) := hsound
      exact hreturned.note s a

/-- Every step keeps the files stored. -/
theorem stored_step {a : Action} (hs : Stored serde files₀ s h) (hn : Numbered n s h)
    (hstep : s.step windows serde a = some t) : Stored serde files₀ t (h.note serde s a) := by
  cases a with
  | start pid =>
    simp only [Store.step] at hstep
    split at hstep
    · cases hstep
      exact hs.congr _ rfl (fun _ _ hc => .inr hc) fun _ _ hl => .inr hl
    · cases hstep
  | exit pid =>
    cases hstep
    exact hs.congr _ rfl (fun _ _ hc => .inr (Option.filter_eq_some_iff.mp hc).1)
      fun _ _ hl => .inr (Option.filter_eq_some_iff.mp hl).1
  | save id pid cache =>
    simp only [Store.step] at hstep
    split at hstep
    · cases hstep
      refine hs.congr _ rfl (fun id' c hc => ?_) fun _ _ hl => .inr hl
      dsimp only at hc
      rw [Function.update_apply] at hc
      split_ifs at hc
      · cases hc
        exact .inl rfl
      · exact .inr hc
    · cases hstep
  | saving id outcome =>
    obtain ⟨c, hc, hstep⟩ := Option.bind_eq_some_iff.mp hstep
    obtain ⟨⟨files', pc⟩, hr, rfl⟩ := Option.map_eq_some_iff.mp hstep
    exact hs.saving hn hc (.of_step hr) _
  | load id pid =>
    simp only [Store.step] at hstep
    split at hstep
    · cases hstep
      refine hs.congr _ rfl (fun _ _ hc => .inr hc) fun id' l hl => ?_
      dsimp only at hl
      rw [Function.update_apply] at hl
      split_ifs at hl
      · cases hl
        exact .inl rfl
      · exact .inr hl
    · cases hstep
  | loading id outcome =>
    obtain ⟨l, hl, hstep⟩ := Option.bind_eq_some_iff.mp hstep
    obtain ⟨pc, hpc, rfl⟩ := Option.map_eq_some_iff.mp hstep
    exact hs.loading hl hpc _
  | remove name =>
    cases hstep
    exact hs.remove name _

end

/-- The calls are numbered and their files are their own in every run that is not endless. -/
theorem stored_run (hwf : files₀.WellFormed) {actions : List Action} (hlength : actions.length < 2^64)
    (hrun : run (recorded (Register.note serde) (Store.step windows serde)) (.start files₀, .start files₀) actions =
      some (s, h)) : Numbered actions.length s h ∧ Stored serde files₀ s h := by
  have hinv := run_induction
    (fun as x => as.length < 2^64 → Numbered as.length x.1 x.2 ∧ Stored serde files₀ x.1 x.2)
    (fun _ => ⟨numbered_start files₀, stored_start hwf⟩) ?_ actions (s, h) hrun
  · exact hinv hlength
  · intro as x a y _ ih hstep hlen
    rw [List.length_append, List.length_singleton] at hlen
    obtain ⟨hn, hs⟩ := ih ((Nat.lt_succ_self _).trans hlen)
    obtain ⟨hnext, hnote⟩ := recorded_eq_some.mp hstep
    rw [hnote, List.length_append, List.length_singleton]
    exact ⟨numbered_step hn hlen hnext, stored_step hs hn hnext⟩

/-- **No load reads a torn cache**, whichever calls run beside it, fail or are cut off, and however the system renames: it
returns what the text of one call of `save_cache` stands for, or one that was there at the start, or an error of the
system. -/
theorem load_whole (hwf : files₀.WellFormed) {actions : List Action} (hlength : actions.length < 2^64)
    (hrun : run (recorded (Register.note serde) (Store.step windows serde)) (.start files₀, .start files₀) actions =
      some (s, h)) {id pid : ℕ} {result : Except LoadError IxCache} (hload : s.loads id = some ⟨pid, .returned result⟩) :
    result = .error .notFound ∨ result = .error .io ∨ ∃ text, Whole files₀ h text ∧ result = loaded serde.parse text :=
  (stored_run hwf hlength hrun).2.loads id _ hload

/-- A cache with no exchanges. -/
def sampleCache (fetched_at : UInt64) : IxCache := ⟨IxCache.VERSION, fetched_at, []⟩

/-- The text of a cache with no exchanges. -/
def sampleRender (cache : IxCache) : List UInt8 :=
  ("\x7b\n  \"version\": ".toList ++ Text.nat cache.version.toNat ++ ",\n  \"fetched_at\": ".toList ++
    Text.nat cache.fetched_at.toNat ++ ",\n  \"prefixes\": []\n\x7d".toList).map fun c => c.toNat.toUInt8

/-- Two caches that are written and read. -/
def sampleSerde : Serde where
  render := sampleRender
  parse := fun text => [sampleCache 5, sampleCache 6].find? fun cache => sampleRender cache = text

/-- A directory with one cache. -/
def sampleFiles : Files where
  names := fun n => if n = .cache then some 0 else none
  contents := fun _ => sampleRender (sampleCache 5)
  next := 1

/-- The sample files are well formed. -/
theorem wellFormed_sampleFiles : sampleFiles.WellFormed := by
  have hnames (n : Name) (i : ℕ) (h : sampleFiles.names n = some i) : n = .cache ∧ i = 0 := by
    obtain ⟨hn, hi⟩ := Option.ite_none_right_eq_some.mp h
    exact ⟨hn, (Option.some.inj hi).symm⟩
  constructor
  · intro n m i hn hm
    rw [(hnames n i hn).1, (hnames m i hm).1]
  · intro n i hn
    rw [(hnames n i hn).2]
    exact Nat.one_pos

/-- A renaming that finds the cache in its way and then fails, with a load before the backup is back and one after. -/
def sampleRestored : List Action :=
  [.start 1, .save 0 1 (sampleCache 6), .saving 0 (.ok 0), .saving 0 (.ok 55), .saving 0 .alreadyExists,
    .saving 0 (.ok 0), .saving 0 (.ok 0), .load 0 1, .loading 0 (.ok 0), .saving 0 .fails, .saving 0 (.ok 0), .load 1 1,
    .loading 1 (.ok 0), .saving 0 (.ok 0), .loading 1 (.ok 55), .loading 1 (.ok 0)]

/-- The first load finds no file, and the second one the whole cache. -/
theorem load_whole_sample : ∃ s h,
    run (recorded (Register.note sampleSerde) (Store.step true sampleSerde)) (.start sampleFiles, .start sampleFiles)
        sampleRestored = some (s, h) ∧
      s.loads 0 = some ⟨1, .returned (.error .notFound)⟩ ∧
      ∃ text, Whole sampleFiles h text ∧ .ok (sampleCache 5) = loaded sampleSerde.parse text := by
  obtain ⟨⟨s, h⟩, hrun, hlost, hload⟩ : ∃ x : Store × Register,
      run (recorded (Register.note sampleSerde) (Store.step true sampleSerde)) (.start sampleFiles, .start sampleFiles)
          sampleRestored = some x ∧
        x.1.loads 0 = some ⟨1, .returned (.error .notFound)⟩ ∧
        x.1.loads 1 = some ⟨1, .returned (.ok (sampleCache 5))⟩ :=
    exists_run (fun x : Store × Register => x.1.loads 0 = some ⟨1, .returned (.error .notFound)⟩ ∧
      x.1.loads 1 = some ⟨1, .returned (.ok (sampleCache 5))⟩) (by decide +kernel)
  refine ⟨s, h, hrun, hlost, ?_⟩
  rcases load_whole wellFormed_sampleFiles (by decide) hrun hload with hresult | hresult | hwhole
  · cases hresult
  · cases hresult
  · exact hwhole

/-! ## A renaming that replaces makes the file a register -/

/-- Where a call can be on a system that replaces the file. -/
def SavePc.Plain : SavePc → Prop
  | .clearing _ | .backingUp _ | .replacing _ | .restoring _ | .cleaning => False
  | _ => True

/-- What a load answers that finds the value in the register. -/
def answer (parse : List UInt8 → Option IxCache) : Option (List UInt8) → Except LoadError IxCache
  | none => .error .notFound
  | some text => loaded parse text

/-- The file has the register's value, and each load the one of the moment when it has opened the file. -/
structure Atomic (serde : Serde) (s : Store) (h : Register) : Prop where
  plain : ∀ id c, s.saves id = some c → c.pc.Plain
  value : s.files.text .cache = h.value
  reading : ∀ id l i text, s.loads id = some l → l.pc = .reading i text → h.seen id = some (s.files.contents i)
  returned : ∀ id l result, s.loads id = some l → l.pc = .returned result →
    result = .error .io ∨ result = answer serde.parse (h.seen id)

/-- No load has begun at the start. -/
theorem atomic_start (files : Files) : Atomic serde (.start files) (.start files) where
  plain _ _ h := nomatch h
  value := rfl
  reading _ _ _ _ h := nomatch h
  returned _ _ _ h := nomatch h

section

variable {id i n : ℕ} {c : Save} {l : Load} {a : Action}

/-- A step of a save installs its file, or leaves the name of the cache alone. -/
theorem Save.step_plain {files files' : Files} {outcome : Outcome} {pc : SavePc} (hplain : c.pc.Plain)
    (hstep : c.step false files outcome = some (files', pc)) :
    pc.Plain ∧ ((∃ count file, outcome = .ok count ∧ c.pc = .installing file ∧ (files.names c.temp).isSome ∧
        files' = files.rename c.temp .cache) ∨
      (∀ count file, outcome = .ok count → c.pc ≠ .installing file) ∧ files'.names .cache = files.names .cache) := by
  have hwrite (file : ℕ) (rest : List UInt8) : (SavePc.write file rest).Plain := by
    unfold SavePc.write
    split_ifs <;> trivial
  obtain ⟨pid, nonce, text, at_pc⟩ := c
  cases outcome with
  | ok count =>
    cases at_pc <;> simp only [Save.step, Option.ite_none_right_eq_some, Option.some.injEq, Prod.mk.injEq,
      reduceCtorEq] at hstep
    case clearing | backingUp | replacing | restoring | cleaning => exact hplain.elim
    case creating =>
      obtain ⟨rfl, rfl⟩ := hstep
      exact ⟨hwrite _ _, .inr ⟨by simp, FileSystem.names_create_of_ne Name.noConfusion⟩⟩
    case writing file rest =>
      obtain ⟨-, rfl, rfl⟩ := hstep
      exact ⟨hwrite _ _, .inr ⟨by simp, rfl⟩⟩
    case installing file =>
      obtain ⟨hbound, rfl, rfl⟩ := hstep
      exact ⟨trivial, .inl ⟨count, file, rfl, rfl, hbound, rfl⟩⟩
    case discarding file =>
      obtain ⟨rfl, rfl⟩ := hstep
      refine ⟨trivial, .inr ⟨by simp, ?_⟩⟩
      rw [FileSystem.names_remove, if_neg Name.noConfusion]
  | alreadyExists =>
    cases at_pc <;> simp only [Save.step, Option.ite_none_right_eq_some, Option.some.injEq, Prod.mk.injEq,
      reduceCtorEq] at hstep
    case backingUp | replacing | restoring => exact hplain.elim
    case installing file =>
      obtain ⟨-, rfl, rfl⟩ := hstep
      exact ⟨trivial, .inr ⟨by simp, rfl⟩⟩
  | fails =>
    cases at_pc <;> simp only [Save.step, Option.some.injEq, Prod.mk.injEq, reduceCtorEq] at hstep
    case clearing | backingUp | replacing | restoring | cleaning => exact hplain.elim
    all_goals
      obtain ⟨rfl, rfl⟩ := hstep
      exact ⟨trivial, .inr ⟨by simp, rfl⟩⟩

/-- Calls may begin and end. -/
theorem Atomic.congr {h' : Register} (ha : Atomic serde s h) (hfiles : t.files = s.files) (hvalue : h'.value = h.value)
    (hseen : h'.seen = h.seen) (hsaves : ∀ id c, t.saves id = some c → c.pc.Plain ∨ s.saves id = some c)
    (hloads : ∀ id l, t.loads id = some l → l.pc = .opening ∨ s.loads id = some l) : Atomic serde t h' := by
  constructor
  · exact fun id c hc => (hsaves id c hc).elim (fun hplain => hplain) (ha.plain id c)
  · rw [hfiles, hvalue]
    exact ha.value
  · intro id l i text hl hpc
    rw [hfiles, hseen]
    rcases hloads id l hl with hopening | hl
    · rw [hpc] at hopening
      cases hopening
    · exact ha.reading id l i text hl hpc
  · intro id l result hl hpc
    rw [hseen]
    rcases hloads id l hl with hopening | hl
    · rw [hpc] at hopening
      cases hopening
    · exact ha.returned id l result hl hpc

/-- What a step of a save writes to the register. -/
theorem note_saving (hc : s.saves id = some c) (outcome : Outcome) :
    (∃ count file, outcome = .ok count ∧ c.pc = .installing file ∧
        h.note serde s (.saving id outcome) = { h with value := some c.text }) ∨
      (∀ count file, outcome = .ok count → c.pc ≠ .installing file) ∧ h.note serde s (.saving id outcome) = h := by
  obtain ⟨pid, nonce, text, at_pc⟩ := c
  cases outcome with
  | ok count =>
    cases at_pc
    case installing file => exact .inl ⟨count, file, rfl, rfl, by simp only [Register.note, hc]⟩
    all_goals exact .inr ⟨nofun, by simp only [Register.note, hc]⟩
  | alreadyExists | fails => exact .inr ⟨nofun, rfl⟩

/-- One step of a save. -/
theorem Atomic.saving (ha : Atomic serde s h) (hs : Stored serde files₀ s h) (hc : s.saves id = some c)
    {files' : Files} {outcome : Outcome} {pc : SavePc} (hstep : c.step false s.files outcome = some (files', pc)) :
    Atomic serde { s with files := files', saves := Function.update s.saves id (some { c with pc := pc }) }
      (h.note serde s (.saving id outcome)) := by
  have hchange : c.Change s.files files' pc := .of_step hstep
  obtain ⟨hplain, hfiles⟩ := Save.step_plain (ha.plain id c hc) hstep
  have hseen : (h.note serde s (.saving id outcome)).seen = h.seen := by
    rcases note_saving hc outcome with ⟨_, _, _, _, hnote⟩ | ⟨_, hnote⟩ <;> rw [hnote]
  have hcontents (id' : ℕ) (l : Load) (i : ℕ) (text : List UInt8) (hl : s.loads id' = some l)
      (hpc : l.pc = .reading i text) : files'.contents i = s.files.contents i :=
    hchange.contents hs.files (hs.not_owns_load hc hl hpc)
  constructor
  · intro id' c' hc'
    dsimp only at hc'
    rw [Function.update_apply] at hc'
    split_ifs at hc'
    · cases hc'
      exact hplain
    · exact ha.plain id' c' hc'
  · rcases note_saving hc outcome with ⟨count, file, houtcome, hpc, hnote⟩ | ⟨hnot, hnote⟩
    · -- The renaming writes the call's text.
      rw [hnote]
      rcases hfiles with ⟨_, _, _, _, hbound, rfl⟩ | ⟨hnot, -⟩
      · obtain ⟨j, hj⟩ := Option.isSome_iff_exists.mp hbound
        have hheld : c.pc.holding = some (file, []) := by
          rw [hpc]
          rfl
        obtain ⟨-, -, honly, hwritten⟩ := hs.held id c file [] hc hheld
        have hname : (s.files.rename c.temp .cache).names .cache = some file := by
          rw [FileSystem.names_rename, if_pos rfl, hj, honly j hj]
        rw [List.append_nil] at hwritten
        exact Option.map_eq_some_iff.mpr ⟨file, hname, hwritten⟩
      · exact absurd hpc (hnot count file houtcome)
    · rw [hnote, ← ha.value]
      rcases hfiles with ⟨count, file, houtcome, hpc, -, -⟩ | ⟨-, hnames⟩
      · exact absurd hpc (hnot count file houtcome)
      · dsimp only [FileSystem.text]
        rw [hnames]
        cases hcache : s.files.names .cache with
        | none => rfl
        | some j =>
          have hsame := hchange.contents hs.files (hs.not_owns_published hc (m := .cache) trivial hcache)
          exact congrArg some hsame
  · intro id' l i text hl hpc
    dsimp only
    rw [hseen, hcontents id' l i text hl hpc]
    exact ha.reading id' l i text hl hpc
  · intro id' l result hl hpc
    rw [hseen]
    exact ha.returned id' l result hl hpc

/-- One step of a load, and what it has read of the register. -/
theorem Atomic.loading (ha : Atomic serde s h) (hs : Stored serde files₀ s h) (hl : s.loads id = some l)
    {outcome : Outcome} {pc : LoadPc} (hstep : l.step serde.parse s.files outcome = some pc) :
    Atomic serde { s with loads := Function.update s.loads id (some { l with pc := pc }) }
      (h.note serde s (.loading id outcome)) := by
  -- The other loads, and what they have read, stay. That of the call follows from the place where it is.
  obtain ⟨hvalue, hothers, hreading, hreturned⟩ :
      (h.note serde s (.loading id outcome)).value = h.value ∧
      (∀ id', id' ≠ id → (h.note serde s (.loading id outcome)).seen id' = h.seen id') ∧
      (∀ i text, pc = .reading i text →
        (h.note serde s (.loading id outcome)).seen id = some (s.files.contents i)) ∧
      ∀ result, pc = .returned result →
        result = .error .io ∨ result = answer serde.parse ((h.note serde s (.loading id outcome)).seen id) := by
    have hseen := ha.reading id l
    have hsound := hs.loads id l hl
    obtain ⟨pid, at_pc⟩ := l
    cases outcome with
    | alreadyExists => cases hstep
    | fails =>
      cases at_pc with
      | returned result => cases hstep
      | opening | reading =>
        cases hstep
        exact ⟨rfl, fun _ _ => rfl, nofun, fun result hresult => .inl (LoadPc.returned.inj hresult).symm⟩
    | ok count =>
      cases at_pc with
      | returned result => cases hstep
      | opening =>
        have hnote : h.note serde s (.loading id (.ok count)) =
            { h with seen := Function.update h.seen id h.value } := by
          simp only [Register.note, hl]
        rw [hnote]
        refine ⟨rfl, fun id' hne => Function.update_of_ne hne _ _, fun i text hpc => ?_, fun result hpc => ?_⟩ <;>
          dsimp only <;> rw [Function.update_self, ← ha.value, FileSystem.text]
        · simp only [Load.step] at hstep
          split at hstep
          · next j hnames =>
            cases hstep
            cases hpc
            rw [hnames]
            rfl
          · cases hstep
            cases hpc
        · simp only [Load.step] at hstep
          split at hstep
          · cases hstep
            cases hpc
          · next hnames =>
            cases hstep
            cases hpc
            rw [hnames]
            exact .inr rfl
      | reading i read =>
        have hnote : h.note serde s (.loading id (.ok count)) = h := by
          simp only [Register.note, hl]
        rw [hnote]
        obtain ⟨-, -, -, left, hleft⟩ := hsound
        have hdrop : (s.files.contents i).drop read.length = left := by
          rw [← hleft, List.drop_left]
        simp only [Load.step] at hstep
        rw [hdrop] at hstep
        refine ⟨rfl, fun _ _ => rfl, fun j text hpc => ?_, fun result hpc => ?_⟩
        · split_ifs at hstep <;> cases hstep <;> cases hpc
          exact hseen i read hl rfl
        · split_ifs at hstep with hend hcount <;> cases hstep <;> cases hpc
          rw [hend, List.append_nil] at hleft
          rw [hseen i read hl rfl, ← hleft]
          exact .inr rfl
  constructor
  · exact ha.plain
  · rw [hvalue]
    exact ha.value
  · intro id' l' i text hl' hpc
    dsimp only at hl' ⊢
    rw [Function.update_apply] at hl'
    split_ifs at hl' with hid
    · cases hl'
      rw [hid]
      exact hreading i text hpc
    · rw [hothers id' hid]
      exact ha.reading id' l' i text hl' hpc
  · intro id' l' result hl' hpc
    dsimp only at hl'
    rw [Function.update_apply] at hl'
    split_ifs at hl' with hid
    · cases hl'
      rw [hid]
      exact hreturned result hpc
    · rw [hothers id' hid]
      exact ha.returned id' l' result hl' hpc

/-- Every step keeps the loads atomic. -/
theorem atomic_step (ha : Atomic serde s h) (hs : Stored serde files₀ s h) (hstep : s.step false serde a = some t) :
    Atomic serde t (h.note serde s a) := by
  cases a with
  | start pid =>
    simp only [Store.step] at hstep
    split at hstep
    · cases hstep
      exact ha.congr rfl rfl rfl (fun _ _ hc => .inr hc) fun _ _ hl => .inr hl
    · cases hstep
  | exit pid =>
    cases hstep
    exact ha.congr rfl rfl rfl (fun _ _ hc => .inr (Option.filter_eq_some_iff.mp hc).1)
      fun _ _ hl => .inr (Option.filter_eq_some_iff.mp hl).1
  | save id pid cache =>
    simp only [Store.step] at hstep
    split at hstep
    · cases hstep
      refine ha.congr rfl rfl rfl (fun id' c hc => ?_) fun _ _ hl => .inr hl
      dsimp only at hc
      rw [Function.update_apply] at hc
      split_ifs at hc
      · cases hc
        exact .inl trivial
      · exact .inr hc
    · cases hstep
  | saving id outcome =>
    obtain ⟨c, hc, hstep⟩ := Option.bind_eq_some_iff.mp hstep
    obtain ⟨⟨files', pc⟩, hr, rfl⟩ := Option.map_eq_some_iff.mp hstep
    exact ha.saving hs hc hr
  | load id pid =>
    simp only [Store.step] at hstep
    split at hstep
    · cases hstep
      refine ha.congr rfl rfl rfl (fun _ _ hc => .inr hc) fun id' l hl => ?_
      dsimp only at hl
      rw [Function.update_apply] at hl
      split_ifs at hl
      · cases hl
        exact .inl rfl
      · exact .inr hl
    · cases hstep
  | loading id outcome =>
    obtain ⟨l, hl, hstep⟩ := Option.bind_eq_some_iff.mp hstep
    obtain ⟨pc, hpc, rfl⟩ := Option.map_eq_some_iff.mp hstep
    exact ha.loading hs hl hpc
  | remove name =>
    cases hstep
    obtain ⟨hseen, hvalue⟩ : (h.note serde s (.remove name)).seen = h.seen ∧
        (s.files.remove name).text .cache = (h.note serde s (.remove name)).value := by
      cases name with
      | cache =>
        refine ⟨rfl, ?_⟩
        rw [FileSystem.text, FileSystem.names_remove, if_pos rfl]
        rfl
      | temp | backup =>
        refine ⟨rfl, ?_⟩
        rw [FileSystem.text, FileSystem.names_remove, if_neg Name.noConfusion]
        exact ha.value
    refine ⟨ha.plain, hvalue, fun id l i text hl hpc => ?_, fun id l result hl hpc => ?_⟩
    · rw [hseen]
      exact ha.reading id l i text hl hpc
    · rw [hseen]
      exact ha.returned id l result hl hpc

end

/-- **Where a renaming replaces, the file is a register**, whichever calls run beside each other, fail or are cut off: it
always has the text that was written last, and a load returns the one that it has had at the moment of its opening. -/
theorem load_atomic (hwf : files₀.WellFormed) {actions : List Action} (hlength : actions.length < 2^64)
    (hrun : run (recorded (Register.note serde) (Store.step false serde)) (.start files₀, .start files₀) actions =
      some (s, h)) :
    s.files.text .cache = h.value ∧ ∀ id pid result, s.loads id = some ⟨pid, .returned result⟩ →
      result = .error .io ∨ result = answer serde.parse (h.seen id) := by
  have hinv := run_induction (fun as x => as.length < 2^64 → Atomic serde x.1 x.2) (fun _ => atomic_start files₀) ?_
    actions (s, h) hrun
  · have ha := hinv hlength
    exact ⟨ha.value, fun id pid result hl => ha.returned id _ result hl rfl⟩
  · intro as x a y hx ih hstep hlen
    rw [List.length_append, List.length_singleton] at hlen
    have hshort : as.length < 2^64 := (Nat.lt_succ_self _).trans hlen
    obtain ⟨hnext, hnote⟩ := recorded_eq_some.mp hstep
    rw [hnote]
    exact atomic_step (ih hshort) (stored_run hwf hshort hx).2 hnext

/-- A load that a save overtakes, after another process has ended in the middle of its own save. -/
def sampleOvertaken : List Action :=
  [.start 1, .start 2, .save 0 1 (sampleCache 6), .saving 0 (.ok 0), .saving 0 (.ok 10), .load 0 2, .loading 0 (.ok 0),
    .exit 1, .save 1 2 (sampleCache 6), .saving 1 (.ok 0), .saving 1 (.ok 55), .saving 1 (.ok 0), .loading 0 (.ok 20),
    .loading 0 (.ok 35), .start 1, .save 0 1 (sampleCache 5), .saving 0 (.ok 0), .load 1 2, .loading 1 (.ok 0),
    .loading 1 (.ok 55), .loading 0 (.ok 0), .loading 1 (.ok 0)]

/-- Each load returns the cache that was there when it has opened the file. -/
theorem load_atomic_sample : ∃ s h,
    run (recorded (Register.note sampleSerde) (Store.step false sampleSerde)) (.start sampleFiles, .start sampleFiles)
        sampleOvertaken = some (s, h) ∧
      s.loads 0 = some ⟨2, .returned (.ok (sampleCache 5))⟩ ∧ s.loads 1 = some ⟨2, .returned (.ok (sampleCache 6))⟩ ∧
      s.files.text .cache = h.value ∧ .ok (sampleCache 5) = answer sampleSerde.parse (h.seen 0) := by
  obtain ⟨⟨s, h⟩, hrun, hfirst, hsecond⟩ : ∃ x : Store × Register,
      run (recorded (Register.note sampleSerde) (Store.step false sampleSerde)) (.start sampleFiles, .start sampleFiles)
          sampleOvertaken = some x ∧
        x.1.loads 0 = some ⟨2, .returned (.ok (sampleCache 5))⟩ ∧
        x.1.loads 1 = some ⟨2, .returned (.ok (sampleCache 6))⟩ :=
    exists_run (fun x : Store × Register => x.1.loads 0 = some ⟨2, .returned (.ok (sampleCache 5))⟩ ∧
      x.1.loads 1 = some ⟨2, .returned (.ok (sampleCache 6))⟩) (by decide +kernel)
  obtain ⟨hvalue, hanswer⟩ := load_atomic wellFormed_sampleFiles (by decide) hrun
  exact ⟨s, h, hrun, hfirst, hsecond, hvalue, (hanswer 0 2 _ hfirst).resolve_left nofun⟩

end Ttl.CacheFile
