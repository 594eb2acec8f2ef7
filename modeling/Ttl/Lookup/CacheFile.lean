import Mathlib.Data.List.Infix
import Ttl.Lib.Files
import Ttl.Lib.Runs
import Ttl.Lib.Text
import Ttl.Lookup.PrefixTable

/-!
# The file of the exchanges

`load_cache`, `save_cache` and `rename_cache_file` (`src/lookup/ix.rs`), called by any number of tasks in any number of
processes that share one cache directory. Each step is one call of the system, and what the system answers is up to the
schedule: how many bytes it writes or reads, and whether it fails. A process may end after every step, with nothing
cleaned up, and any file of the directory may be removed by others. The processes that run have different numbers. The
texts of caches and how they are parsed are those of another crate, which is a parameter.
-/

namespace Ttl.CacheFile

open Runs

/-- `IxCache`. -/
structure IxCache where
  version : UInt32
  fetched_at : UInt64
  prefixes : List PrefixCacheEntry
deriving DecidableEq

/-- `IxCache::VERSION`. -/
def IxCache.VERSION : UInt32 := 1

/-- The files of the cache directory. -/
inductive Name where
  /-- `cache_path`. -/
  | cache
  /-- The temporary file of a call. -/
  | temp (pid nonce : ℕ)
  /-- The backup of a process. -/
  | backup (pid : ℕ)
deriving DecidableEq

/-- Their names. -/
def Name.fileName : Name → List Char
  | .cache => "ix_cache.json".toList
  | .temp pid nonce => ".peeringdb_cache.".toList ++ (Text.nat pid ++ '.' :: (Text.nat nonce ++ ".tmp".toList))
  | .backup pid => '.' :: ("ix_cache.json".toList ++ '.' :: (Text.nat pid ++ ".bak".toList))

/-- The names of different files are different. -/
theorem fileName_injective : Function.Injective Name.fileName := by
  intro a b h
  cases a with
  | cache =>
    cases b with
    | cache => rfl
    | temp => exact absurd (List.head_eq_of_cons_eq h) (by decide)
    | backup => exact absurd (List.head_eq_of_cons_eq h) (by decide)
  | temp pid nonce =>
    cases b with
    | cache => exact absurd (List.head_eq_of_cons_eq h) (by decide)
    | temp pid' nonce' =>
      obtain ⟨rfl, hrest⟩ := Text.nat_append_inj rfl rfl (List.append_cancel_left h)
      obtain ⟨rfl, -⟩ := Text.nat_append_inj rfl rfl hrest
      rfl
    | backup => exact absurd (List.head_eq_of_cons_eq (List.tail_eq_of_cons_eq h)) (by decide)
  | backup pid =>
    cases b with
    | cache => exact absurd (List.head_eq_of_cons_eq h) (by decide)
    | temp => exact absurd (List.head_eq_of_cons_eq (List.tail_eq_of_cons_eq h)) (by decide)
    | backup pid' =>
      have hrest := List.tail_eq_of_cons_eq (List.append_cancel_left (List.tail_eq_of_cons_eq h))
      obtain ⟨rfl, -⟩ := Text.nat_append_inj rfl rfl hrest
      rfl

/-- The files that hold a whole cache: all but the temporary ones. -/
def Name.Published : Name → Prop
  | .temp _ _ => False
  | _ => True

/-- The directory. -/
abbrev Files : Type := FileSystem Name UInt8

/-- What the system answers: that it is done, with so many bytes read or written, that the file exists, or an error. -/
inductive Outcome where
  | ok (count : ℕ)
  | alreadyExists
  | fails
deriving DecidableEq

/-- Where a call of `save_cache` is, and the file that it has created. -/
inductive SavePc where
  | creating
  /-- In `write_all`, with the bytes that are left. -/
  | writing (file : ℕ) (rest : List UInt8)
  /-- `rename(temp, dest)`. -/
  | installing (file : ℕ)
  /-- `remove_file(&backup)`. -/
  | clearing (file : ℕ)
  /-- `rename(dest, &backup)`. -/
  | backingUp (file : ℕ)
  /-- `rename(temp, dest)` once more. -/
  | replacing (file : ℕ)
  /-- `rename(&backup, dest)`. -/
  | restoring (file : ℕ)
  | cleaning
  /-- The renaming has failed, and the temporary file is to be removed. -/
  | discarding (file : ℕ)
  | returned (ok : Bool)
deriving DecidableEq

/-- A call of `save_cache` with its process, its `nonce` and the text of the cache. -/
structure Save where
  pid : ℕ
  nonce : ℕ
  text : List UInt8
  pc : SavePc
deriving DecidableEq

/-- Its temporary file. -/
def Save.temp (c : Save) : Name := .temp c.pid c.nonce

/-- The bytes from `rest` on are to be written. -/
def SavePc.write (file : ℕ) (rest : List UInt8) : SavePc := if rest = [] then .installing file else .writing file rest

/-- One step of `save_cache` with `rename_cache_file`, none when the system does not answer so. -/
def Save.step (windows : Bool) (files : Files) (c : Save) : Outcome → Option (Files × SavePc)
  | .ok count =>
    match c.pc with
    | .creating => some ((files.create c.temp).1, .write (files.create c.temp).2 c.text)
    | .writing file rest =>
      if 0 < count ∧ count ≤ rest.length then
        some (files.append file (rest.take count), .write file (rest.drop count))
      else none
    | .installing _ => if (files.names c.temp).isSome then some (files.rename c.temp .cache, .returned true) else none
    -- A backup that is not found will do.
    | .clearing file => some (files.remove (.backup c.pid), .backingUp file)
    | .backingUp file =>
      if (files.names .cache).isSome then some (files.rename .cache (.backup c.pid), .replacing file) else none
    | .replacing _ => if (files.names c.temp).isSome then some (files.rename c.temp .cache, .cleaning) else none
    | .restoring file =>
      if (files.names (.backup c.pid)).isSome then some (files.rename (.backup c.pid) .cache, .discarding file) else none
    | .cleaning => some (files.remove (.backup c.pid), .returned true)
    | .discarding _ => some (files.remove c.temp, .returned false)
    | .returned _ => none
  | .alreadyExists =>
    match c.pc with
    | .installing file => if (files.names .cache).isSome then
        some (files, if windows then .clearing file else .discarding file) else none
    | .backingUp file => some (files, .discarding file)
    | .replacing file => some (files, .restoring file)
    | .restoring file => some (files, .discarding file)
    | _ => none
  | .fails =>
    match c.pc with
    -- `fs::write` leaves what it has written.
    | .creating | .writing _ _ => some (files, .returned false)
    | .installing file | .clearing file | .backingUp file | .restoring file => some (files, .discarding file)
    | .replacing file => some (files, .restoring file)
    | .cleaning => some (files, .returned true)
    | .discarding _ => some (files, .returned false)
    | .returned _ => none

/-- Why a load gives no cache: the file is not found, cannot be read or does not parse, or the version is another. -/
inductive LoadError where
  | notFound
  | io
  | parse
  | version
deriving DecidableEq

/-- The cache that a text stands for. -/
def loaded (parse : List UInt8 → Option IxCache) (text : List UInt8) : Except LoadError IxCache :=
  match parse text with
  | none => .error .parse
  | some cache => if cache.version ≠ IxCache.VERSION then .error .version else .ok cache

/-- Where a call of `load_cache` is. -/
inductive LoadPc where
  | opening
  /-- In `read_to_string`, with what is read. -/
  | reading (file : ℕ) (text : List UInt8)
  | returned (result : Except LoadError IxCache)
deriving DecidableEq

/-- A call of `load_cache` with its process. -/
structure Load where
  pid : ℕ
  pc : LoadPc
deriving DecidableEq

/-- One step of `load_cache`. -/
def Load.step (parse : List UInt8 → Option IxCache) (files : Files) (c : Load) : Outcome → Option LoadPc
  | .ok count =>
    match c.pc with
    | .opening =>
      match files.names .cache with
      | some file => some (.reading file [])
      | none => some (.returned (.error .notFound))
    | .reading file text =>
      let rest := (files.contents file).drop text.length
      if rest = [] then some (.returned (loaded parse text))
      else if 0 < count ∧ count ≤ rest.length then some (.reading file (text ++ rest.take count))
      else none
    | .returned _ => none
  | .alreadyExists => none
  | .fails =>
    match c.pc with
    | .opening | .reading _ _ => some (.returned (.error .io))
    | .returned _ => none

/-- The directory with the processes that use it, each with its `CACHE_TEMP_COUNTER`, and their calls. -/
structure Store where
  files : Files
  processes : ℕ → Option ℕ
  saves : ℕ → Option Save
  loads : ℕ → Option Load

/-- How caches are written and read. -/
structure Serde where
  render : IxCache → List UInt8
  parse : List UInt8 → Option IxCache

/-- The steps. A call has a number. -/
inductive Action where
  | start (pid : ℕ)
  /-- The process ends, wherever its calls are. -/
  | exit (pid : ℕ)
  | save (id pid : ℕ) (cache : IxCache)
  | saving (id : ℕ) (outcome : Outcome)
  | load (id pid : ℕ)
  | loading (id : ℕ) (outcome : Outcome)
  /-- Someone else removes a file. -/
  | remove (name : Name)

namespace Store

/-- One step, none where it is not enabled. -/
def step (windows : Bool) (serde : Serde) (s : Store) : Action → Option Store
  | .start pid =>
    match s.processes pid with
    | none => some { s with processes := Function.update s.processes pid (some 0) }
    | some _ => none
  | .exit pid =>
    some { s with
      processes := Function.update s.processes pid none
      saves := fun id => (s.saves id).filter fun c => c.pid ≠ pid
      loads := fun id => (s.loads id).filter fun c => c.pid ≠ pid }
  | .save id pid cache =>
    match s.processes pid, s.saves id with
    | some nonce, none =>
      some { s with
        processes := Function.update s.processes pid (some ((nonce + 1) % 2^64))
        saves := Function.update s.saves id (some ⟨pid, nonce, serde.render cache, .creating⟩) }
    | _, _ => none
  | .saving id outcome =>
    (s.saves id).bind fun c =>
      (c.step windows s.files outcome).map fun r =>
        { s with files := r.1, saves := Function.update s.saves id (some { c with pc := r.2 }) }
  | .load id pid =>
    match s.processes pid, s.loads id with
    | some _, none => some { s with loads := Function.update s.loads id (some ⟨pid, .opening⟩) }
    | _, _ => none
  | .loading id outcome =>
    (s.loads id).bind fun c =>
      (c.step serde.parse s.files outcome).map fun pc =>
        { s with loads := Function.update s.loads id (some { c with pc := pc }) }
  | .remove name => some { s with files := s.files.remove name }

/-- The directory before any process runs. It may hold what earlier ones have left. -/
def start (files : Files) : Store := ⟨files, fun _ => none, fun _ => none, fun _ => none⟩

end Store

/-- What the file is for: a register that the saves write, each at once, and the loads read, each at once. -/
structure Register where
  /-- The texts of the saves so far. -/
  texts : List (List UInt8)
  value : Option (List UInt8)
  /-- The value at the moment of each load. -/
  seen : ℕ → Option (List UInt8)

/-- A save writes the register when it renames its file, and a load reads it when it opens the file. -/
def Register.note (serde : Serde) (h : Register) (s : Store) : Action → Register
  | .save _ _ cache => { h with texts := h.texts ++ [serde.render cache] }
  | .saving id (.ok _) =>
    match s.saves id with
    | some ⟨_, _, text, .installing _⟩ => { h with value := some text }
    | _ => h
  | .loading id (.ok _) =>
    match s.loads id with
    | some ⟨_, .opening⟩ => { h with seen := Function.update h.seen id h.value }
    | _ => h
  | .remove .cache => { h with value := none }
  | _ => h

/-- The register at the start. -/
def Register.start (files : Files) : Register := ⟨[], files.text .cache, fun _ => none⟩

/-! ## What a step of a save can do -/

/-- The file that a call has created and not renamed, and the bytes that are not yet written. -/
def SavePc.holding : SavePc → Option (ℕ × List UInt8)
  | .writing file rest => some (file, rest)
  | .installing file | .clearing file | .backingUp file | .replacing file | .restoring file | .discarding file =>
    some (file, [])
  | .creating | .cleaning | .returned _ => none

/-- A save that is writing holds its file and the rest of its bytes. -/
@[simp]
theorem holding_write (file : ℕ) (rest : List UInt8) : (SavePc.write file rest).holding = some (file, rest) := by
  unfold SavePc.write
  split_ifs with h
  · rw [h]
    rfl
  · rfl

/-- The file is the call's own: only its temporary name may denote it, and denotes no other. With the bytes that are
left it holds the call's text. -/
structure Save.Holds (files : Files) (c : Save) (i : ℕ) (rest : List UInt8) : Prop where
  below : i < files.next
  named : files.Within i {c.temp}
  only : ∀ j, files.names c.temp = some j → j = i
  written : files.contents i ++ rest = c.text

/-- The files that a step of the call may change or make. -/
def Save.Owns (files : Files) (c : Save) (j : ℕ) : Prop :=
  (∃ rest, c.pc.holding = some (j, rest)) ∨ files.names c.temp = some j ∨ files.next ≤ j

/-- The steps of a save, by what they do to the directory. -/
inductive Save.Change (files : Files) (c : Save) : Files → SavePc → Prop
  | create : Change files c (files.create c.temp).1 (.write (files.create c.temp).2 c.text)
  | write {file count : ℕ} {rest : List UInt8} (hpc : c.pc.holding = some (file, rest)) :
    Change files c (files.append file (rest.take count)) (.write file (rest.drop count))
  /-- The temporary file becomes the cache. -/
  | install {file : ℕ} {pc : SavePc} (hpc : c.pc.holding = some (file, [])) (hnext : pc.holding = none) :
    Change files c (files.rename c.temp .cache) pc
  /-- The cache becomes the backup, or the backup the cache. -/
  | move {n m : Name} {pc : SavePc} (hn : n.Published) (hm : m.Published) (hnext : pc.holding = c.pc.holding) :
    Change files c (files.rename n m) pc
  | remove {n : Name} {pc : SavePc} (hnext : pc.holding = c.pc.holding ∨ pc.holding = none) :
    Change files c (files.remove n) pc
  | stay {pc : SavePc} (hnext : pc.holding = c.pc.holding ∨ pc.holding = none) : Change files c files pc

/-- What a step of a save does to the files. -/
theorem Save.Change.of_step {windows : Bool} {files files' : Files} {c : Save} {outcome : Outcome} {pc : SavePc}
    (h : c.step windows files outcome = some (files', pc)) : c.Change files files' pc := by
  obtain ⟨pid, nonce, text, at_pc⟩ := c
  cases outcome with
  | ok count =>
    cases at_pc <;> simp only [Save.step, Option.ite_none_right_eq_some, Option.some.injEq, Prod.mk.injEq,
      reduceCtorEq] at h
    case creating =>
      obtain ⟨rfl, rfl⟩ := h
      exact .create
    case writing file rest =>
      obtain ⟨-, rfl, rfl⟩ := h
      exact .write rfl
    case installing file =>
      obtain ⟨-, rfl, rfl⟩ := h
      exact @Change.install _ _ file _ rfl rfl
    case clearing file =>
      obtain ⟨rfl, rfl⟩ := h
      exact .remove (.inl rfl)
    case backingUp file =>
      obtain ⟨-, rfl, rfl⟩ := h
      exact .move trivial trivial rfl
    case replacing file =>
      obtain ⟨-, rfl, rfl⟩ := h
      exact @Change.install _ _ file _ rfl rfl
    case restoring file =>
      obtain ⟨-, rfl, rfl⟩ := h
      exact .move trivial trivial rfl
    case cleaning =>
      obtain ⟨rfl, rfl⟩ := h
      exact .remove (.inl rfl)
    case discarding file =>
      obtain ⟨rfl, rfl⟩ := h
      exact .remove (.inr rfl)
  | alreadyExists =>
    cases at_pc <;> simp only [Save.step, Option.ite_none_right_eq_some, Option.some.injEq, Prod.mk.injEq,
      reduceCtorEq] at h
    case installing file =>
      obtain ⟨-, rfl, rfl⟩ := h
      refine .stay (.inl ?_)
      split_ifs <;> rfl
    all_goals
      obtain ⟨rfl, rfl⟩ := h
      exact .stay (.inl rfl)
  | fails =>
    cases at_pc <;> simp only [Save.step, Option.some.injEq, Prod.mk.injEq, reduceCtorEq] at h <;>
      obtain ⟨rfl, rfl⟩ := h
    case creating | writing | cleaning | discarding => exact .stay (.inr rfl)
    all_goals exact .stay (.inl rfl)

section

variable {files files' : Files} {c : Save} {pc : SavePc} {i j : ℕ} {rest : List UInt8} {n : Name}

/-- A temporary name is not published. -/
theorem temp_not_published (c : Save) : ¬ c.temp.Published := id

/-- A step of a save keeps the files well formed. -/
theorem Save.Change.wellFormed (h : c.Change files files' pc) (hwf : files.WellFormed) : files'.WellFormed := by
  cases h with
  | create => exact (hwf.create c.temp).wellFormed
  | write => exact hwf.append _ _
  | install => exact hwf.rename _ _
  | move => exact hwf.rename _ _
  | remove => exact hwf.remove _
  | stay => exact hwf

/-- A step of a save takes no file away. -/
theorem Save.Change.next_le (h : c.Change files files' pc) (hwf : files.WellFormed) : files.next ≤ files'.next := by
  cases h with
  | create => exact (hwf.create c.temp).next
  | _ => exact le_rfl

/-- The bytes of the other files stay. -/
theorem Save.Change.contents (h : c.Change files files' pc) (hwf : files.WellFormed) (hj : ¬ c.Owns files j) :
    files'.contents j = files.contents j := by
  cases h with
  | create =>
    have hcreated := hwf.create c.temp
    refine hcreated.contents j ?_
    rintro rfl
    exact hj (.inr (hcreated.file.imp id Eq.ge))
  | write hpc =>
    refine FileSystem.contents_append_of_ne ?_ _
    rintro rfl
    exact hj (.inl ⟨_, hpc⟩)
  | _ => rfl

/-- The other files keep their names, or move from one name of a whole cache to another. -/
theorem Save.Change.names (h : c.Change files files' pc) (hwf : files.WellFormed) (hj : ¬ c.Owns files j)
    (hn : files'.names n = some j) :
    files.names n = some j ∨ n.Published ∧ ∃ m, m.Published ∧ files.names m = some j := by
  cases h with
  | create =>
    have hcreated := hwf.create c.temp
    refine .inl ((hcreated.names n j ?_).mp hn)
    rintro rfl
    exact hj (.inr (hcreated.file.imp id Eq.ge))
  | write => exact .inl hn
  | install =>
    rcases FileSystem.of_names_rename hn with ⟨-, htemp⟩ | ⟨-, hn⟩
    · exact absurd (.inr (.inl htemp)) hj
    · exact .inl hn
  | move hfrom hto =>
    rcases FileSystem.of_names_rename hn with ⟨rfl, hm⟩ | ⟨-, hn⟩
    · exact .inr ⟨hto, _, hfrom, hm⟩
    · exact .inl hn
  | remove => exact .inl (FileSystem.of_names_remove hn)
  | stay => exact .inl hn

/-- Nothing is bound to the temporary names of other calls. -/
theorem Save.Change.temps (h : c.Change files files' pc) (hwf : files.WellFormed) (hne : n ≠ c.temp)
    (hn : ¬ n.Published) (hnames : files'.names n = some j) : files.names n = some j := by
  cases h with
  | create =>
    have hcreated := hwf.create c.temp
    refine (hcreated.names n j ?_).mp hnames
    rintro rfl
    exact hne (hcreated.named n hnames)
  | write => exact hnames
  | install =>
    rcases FileSystem.of_names_rename hnames with ⟨rfl, -⟩ | ⟨-, hnames⟩
    · exact absurd trivial hn
    · exact hnames
  | move _ hto =>
    rcases FileSystem.of_names_rename hnames with ⟨rfl, -⟩ | ⟨-, hnames⟩
    · exact absurd hto hn
    · exact hnames
  | remove => exact FileSystem.of_names_remove hnames
  | stay => exact hnames

/-- What the call holds after the step was in its reach before. -/
theorem Save.Change.owns (h : c.Change files files' pc) (hwf : files.WellFormed) (hpc : pc.holding = some (i, rest)) :
    c.Owns files i := by
  have hsame (hnext : pc.holding = c.pc.holding ∨ pc.holding = none) : c.Owns files i := by
    rcases hnext with hnext | hnext
    · exact .inl ⟨rest, hnext.symm.trans hpc⟩
    · rw [hpc] at hnext
      cases hnext
  cases h with
  | create =>
    rw [holding_write, Option.some.injEq, Prod.mk.injEq] at hpc
    rw [← hpc.1]
    exact .inr ((hwf.create c.temp).file.imp id Eq.ge)
  | write hheld =>
    rw [holding_write, Option.some.injEq, Prod.mk.injEq] at hpc
    rw [← hpc.1]
    exact .inl ⟨_, hheld⟩
  | install _ hnext => exact hsame (.inr hnext)
  | move _ _ hnext => exact hsame (.inl hnext)
  | remove hnext => exact hsame hnext
  | stay hnext => exact hsame hnext

/-- A call keeps what it holds. -/
theorem Save.Change.holds (h : c.Change files files' pc) (hwf : files.WellFormed)
    (hown : ∀ i rest, c.pc.holding = some (i, rest) → c.Holds files i rest) (hpc : pc.holding = some (i, rest)) :
    c.Holds files' i rest := by
  have hsame (hnext : pc.holding = c.pc.holding ∨ pc.holding = none) : c.Holds files i rest := by
    rcases hnext with hnext | hnext
    · exact hown i rest (hnext.symm.trans hpc)
    · rw [hpc] at hnext
      cases hnext
  cases h with
  | create =>
    rw [holding_write, Option.some.injEq, Prod.mk.injEq] at hpc
    obtain ⟨rfl, rfl⟩ := hpc
    have hcreated := hwf.create c.temp
    refine ⟨hcreated.below, hcreated.named, fun j hj => ?_, ?_⟩
    · exact Option.some.inj (hj.symm.trans hcreated.bound)
    · rw [hcreated.empty, List.nil_append]
  | write hheld =>
    rw [holding_write, Option.some.injEq, Prod.mk.injEq] at hpc
    obtain ⟨rfl, rfl⟩ := hpc
    obtain ⟨hbelow, hnamed, honly, hwritten⟩ := hown _ _ hheld
    refine ⟨hbelow, hnamed, honly, ?_⟩
    rw [FileSystem.contents_append, List.append_assoc, List.take_append_drop, hwritten]
  | install _ hnext =>
    rw [hpc] at hnext
    cases hnext
  | move hfrom hto hnext =>
    obtain ⟨hbelow, hnamed, honly, hwritten⟩ := hsame (.inl hnext)
    refine ⟨hbelow, hnamed.rename fun hn => ?_, fun j hj => ?_, hwritten⟩
    · obtain rfl : _ = c.temp := hnamed _ hn
      exact absurd hfrom (temp_not_published c)
    · rcases FileSystem.of_names_rename hj with ⟨rfl, -⟩ | ⟨-, hj⟩
      · exact absurd hto (temp_not_published c)
      · exact honly j hj
  | remove hnext =>
    obtain ⟨hbelow, hnamed, honly, hwritten⟩ := hsame hnext
    exact ⟨hbelow, hnamed.remove _, fun j hj => honly j (FileSystem.of_names_remove hj), hwritten⟩
  | stay hnext => exact hsame hnext

/-- What has the name of a whole cache after the step had one before, or is the call's whole text. -/
theorem Save.Change.published (h : c.Change files files' pc) (hwf : files.WellFormed)
    (hown : ∀ i rest, c.pc.holding = some (i, rest) → c.Holds files i rest) (hn : n.Published)
    (hnames : files'.names n = some j) :
    (∃ m, m.Published ∧ files.names m = some j) ∨ files'.contents j = c.text := by
  cases h with
  | create =>
    have hcreated := hwf.create c.temp
    refine .inl ⟨n, hn, (hcreated.names n j ?_).mp hnames⟩
    rintro rfl
    obtain rfl : n = c.temp := hcreated.named n hnames
    exact temp_not_published c hn
  | write => exact .inl ⟨n, hn, hnames⟩
  | install hpc =>
    rcases FileSystem.of_names_rename hnames with ⟨-, htemp⟩ | ⟨-, hnames⟩
    · obtain ⟨-, -, honly, hwritten⟩ := hown _ _ hpc
      rw [List.append_nil] at hwritten
      rw [honly j htemp]
      exact .inr hwritten
    · exact .inl ⟨n, hn, hnames⟩
  | move hfrom =>
    rcases FileSystem.of_names_rename hnames with ⟨-, hm⟩ | ⟨-, hnames⟩
    · exact .inl ⟨_, hfrom, hm⟩
    · exact .inl ⟨n, hn, hnames⟩
  | remove => exact .inl ⟨n, hn, FileSystem.of_names_remove hnames⟩
  | stay => exact .inl ⟨n, hn, hnames⟩

end

/-! ## The calls of a run have different temporary files -/

variable {windows : Bool} {serde : Serde} {files₀ : Files} {s t : Store} {h : Register}

/-- The calls are numbered, a process at a time, and there are `n` at most. -/
structure Numbered (n : ℕ) (s : Store) (h : Register) : Prop where
  count : ∀ pid k, s.processes pid = some k → k ≤ n
  nonce : ∀ id c, s.saves id = some c → ∃ k, s.processes c.pid = some k ∧ c.nonce < k
  apart : ∀ id id' c c', s.saves id = some c → s.saves id' = some c' → c.temp = c'.temp → id = id'
  text : ∀ id c, s.saves id = some c → c.text ∈ h.texts

/-- Nothing is numbered at the start. -/
theorem numbered_start (files : Files) : Numbered 0 (.start files) (.start files) where
  count _ _ h := nomatch h
  nonce _ _ h := nomatch h
  apart _ _ _ _ h := nomatch h
  text _ _ h := nomatch h

/-- A step that leaves the processes alone, and of the calls changes only where one is. -/
theorem Numbered.moved {n : ℕ} (hs : Numbered n s h) (hprocesses : t.processes = s.processes)
    (hsaves : ∀ id c, t.saves id = some c → ∃ pc, s.saves id = some { c with pc := pc }) {h' : Register}
    (htexts : h.texts ⊆ h'.texts) : Numbered (n + 1) t h' := by
  constructor
  · intro pid k hk
    rw [hprocesses] at hk
    exact (hs.count pid k hk).trans (Nat.le_succ n)
  · intro id c hc
    obtain ⟨pc, hc⟩ := hsaves id c hc
    have hnonce := hs.nonce id _ hc
    rw [hprocesses]
    exact hnonce
  · intro id id' c c' hc hc' htemp
    obtain ⟨pc, hc⟩ := hsaves id c hc
    obtain ⟨pc', hc'⟩ := hsaves id' c' hc'
    exact hs.apart id id' _ _ hc hc' htemp
  · intro id c hc
    obtain ⟨pc, hc⟩ := hsaves id c hc
    have htext := hs.text id _ hc
    exact htexts htext

/-- What was saved once stays in the register. -/
theorem texts_note (h : Register) (s : Store) (a : Action) : h.texts ⊆ (h.note serde s a).texts := by
  unfold Register.note
  split
  · exact List.subset_append_left _ _
  · split <;> exact List.Subset.refl _
  · split <;> exact List.Subset.refl _
  · exact List.Subset.refl _
  · exact List.Subset.refl _

/-- A process starts. -/
theorem Numbered.start {n pid : ℕ} (hs : Numbered n s h) (hnone : s.processes pid = none) :
    Numbered (n + 1) { s with processes := Function.update s.processes pid (some 0) } h := by
  constructor
  · intro pid' k hk
    dsimp only at hk
    rw [Function.update_apply] at hk
    split_ifs at hk
    · cases hk
      exact Nat.zero_le _
    · exact (hs.count pid' k hk).trans (Nat.le_succ n)
  · intro id c hc
    obtain ⟨k, hk, hlt⟩ := hs.nonce id c hc
    refine ⟨k, (Function.update_of_ne ?_ _ _).trans hk, hlt⟩
    rintro heq
    rw [heq, hnone] at hk
    cases hk
  · exact hs.apart
  · exact hs.text

/-- A process ends, and its calls with it. -/
theorem Numbered.exit {n : ℕ} (hs : Numbered n s h) (pid : ℕ) (loads : ℕ → Option Load) :
    Numbered (n + 1) { s with
      processes := Function.update s.processes pid none
      saves := fun id => (s.saves id).filter fun c => c.pid ≠ pid
      loads := loads } h := by
  have hkept (id : ℕ) (c : Save) (hc : (s.saves id).filter (fun c => c.pid ≠ pid) = some c) :
      s.saves id = some c ∧ c.pid ≠ pid := by
    obtain ⟨hc, hpid⟩ := Option.filter_eq_some_iff.mp hc
    exact ⟨hc, of_decide_eq_true hpid⟩
  constructor
  · intro pid' k hk
    dsimp only at hk
    rw [Function.update_apply] at hk
    split_ifs at hk
    exact (hs.count pid' k hk).trans (Nat.le_succ n)
  · intro id c hc
    obtain ⟨hc, hpid⟩ := hkept id c hc
    obtain ⟨k, hk, hlt⟩ := hs.nonce id c hc
    exact ⟨k, (Function.update_of_ne hpid _ _).trans hk, hlt⟩
  · exact fun id id' c c' hc hc' => hs.apart id id' c c' (hkept id c hc).1 (hkept id' c' hc').1
  · exact fun id c hc => hs.text id c (hkept id c hc).1

/-- A call of `save_cache` begins. It has the next number of its process. -/
theorem Numbered.save {n id pid nonce : ℕ} {text : List UInt8} (hs : Numbered n s h) (hn : n + 1 < 2^64)
    (hnonce : s.processes pid = some nonce) :
    Numbered (n + 1) { s with
      processes := Function.update s.processes pid (some ((nonce + 1) % 2^64))
      saves := Function.update s.saves id (some ⟨pid, nonce, text, .creating⟩) }
      { h with texts := h.texts ++ [text] } := by
  have hle : nonce ≤ n := hs.count pid nonce hnonce
  have hwrap : (nonce + 1) % 2^64 = nonce + 1 := Nat.mod_eq_of_lt ((Nat.succ_le_succ hle).trans_lt hn)
  have hnew (id' : ℕ) (c : Save) (hc : s.saves id' = some c) : c.temp ≠ .temp pid nonce := by
    intro htemp
    obtain ⟨hpid, rfl⟩ := Name.temp.inj htemp
    obtain ⟨k, hk, hlt⟩ := hs.nonce id' c hc
    rw [hpid, hnonce] at hk
    cases hk
    exact lt_irrefl _ hlt
  have hcases (id' : ℕ) (c : Save) (hc : Function.update s.saves id (some ⟨pid, nonce, text, .creating⟩) id' = some c) :
      id' = id ∧ ⟨pid, nonce, text, .creating⟩ = c ∨ s.saves id' = some c := by
    rw [Function.update_apply] at hc
    split_ifs at hc with hid
    · exact .inl ⟨hid, Option.some.inj hc⟩
    · exact .inr hc
  constructor
  · intro pid' k hk
    dsimp only at hk
    rw [Function.update_apply, hwrap] at hk
    split_ifs at hk
    · cases hk
      exact Nat.succ_le_succ hle
    · exact (hs.count pid' k hk).trans (Nat.le_succ n)
  · intro id' c hc
    dsimp only
    rw [hwrap]
    rcases hcases id' c hc with ⟨-, rfl⟩ | hc
    · exact ⟨nonce + 1, Function.update_self _ _ _, Nat.lt_succ_self _⟩
    · obtain ⟨k, hk, hlt⟩ := hs.nonce id' c hc
      rw [Function.update_apply]
      split_ifs with hpid
      · rw [hpid, hnonce] at hk
        cases hk
        exact ⟨nonce + 1, rfl, hlt.trans (Nat.lt_succ_self _)⟩
      · exact ⟨k, hk, hlt⟩
  · intro id₁ id₂ c₁ c₂ hc₁ hc₂ htemp
    rcases hcases id₁ c₁ hc₁ with ⟨hid₁, rfl⟩ | hold₁ <;> rcases hcases id₂ c₂ hc₂ with ⟨hid₂, rfl⟩ | hold₂
    · rw [hid₁, hid₂]
    · exact absurd htemp.symm (hnew id₂ c₂ hold₂)
    · exact absurd htemp (hnew id₁ c₁ hold₁)
    · exact hs.apart id₁ id₂ c₁ c₂ hold₁ hold₂ htemp
  · intro id' c hc
    rcases hcases id' c hc with ⟨-, rfl⟩ | hc
    · exact List.mem_append_right _ (List.mem_singleton_self _)
    · exact List.mem_append_left _ (hs.text id' c hc)

/-- Every step numbers at most one save more. -/
theorem numbered_step {n : ℕ} {a : Action} (hs : Numbered n s h) (hn : n + 1 < 2^64)
    (hstep : s.step windows serde a = some t) : Numbered (n + 1) t (h.note serde s a) := by
  have htexts : h.texts ⊆ (h.note serde s a).texts := texts_note h s a
  cases a with
  | start pid =>
    simp only [Store.step] at hstep
    split at hstep
    · next hnone =>
      cases hstep
      exact hs.start hnone
    · cases hstep
  | exit pid =>
    cases hstep
    exact hs.exit pid _
  | save id pid cache =>
    simp only [Store.step] at hstep
    split at hstep
    · next nonce hnonce _ =>
      cases hstep
      exact hs.save hn hnonce
    · cases hstep
  | saving id outcome =>
    obtain ⟨c, hc, hstep⟩ := Option.bind_eq_some_iff.mp hstep
    obtain ⟨r, -, rfl⟩ := Option.map_eq_some_iff.mp hstep
    let s' : Store := { s with files := r.1, saves := Function.update s.saves id (some { c with pc := r.2 }) }
    refine hs.moved (t := s') rfl (fun id' c' hc' => ?_) htexts
    change Function.update s.saves id _ id' = some c' at hc'
    rw [Function.update_apply] at hc'
    split_ifs at hc' with hid
    · cases hc'
      exact ⟨c.pc, hid ▸ hc⟩
    · exact ⟨c'.pc, hc'⟩
  | load id pid =>
    simp only [Store.step] at hstep
    split at hstep
    · obtain ⟨hprocesses, hsaves⟩ : t.processes = s.processes ∧ t.saves = s.saves := by
        cases hstep
        exact ⟨rfl, rfl⟩
      exact hs.moved hprocesses (fun _ c hc => ⟨c.pc, hsaves ▸ hc⟩) htexts
    · cases hstep
  | loading id outcome =>
    obtain ⟨hprocesses, hsaves⟩ : t.processes = s.processes ∧ t.saves = s.saves := by
      obtain ⟨l, -, hstep⟩ := Option.bind_eq_some_iff.mp hstep
      obtain ⟨pc, -, rfl⟩ := Option.map_eq_some_iff.mp hstep
      exact ⟨rfl, rfl⟩
    exact hs.moved hprocesses (fun _ c hc => ⟨c.pc, hsaves ▸ hc⟩) htexts
  | remove name =>
    obtain ⟨hprocesses, hsaves⟩ : t.processes = s.processes ∧ t.saves = s.saves := by
      cases hstep
      exact ⟨rfl, rfl⟩
    exact hs.moved hprocesses (fun _ c hc => ⟨c.pc, hsaves ▸ hc⟩) htexts

end Ttl.CacheFile
