import Mathlib.Logic.Function.Basic
import Mathlib.Data.Set.Basic

/-!
# Files and their names

A file system binds names to files. A file keeps its bytes when its name is bound to another one or to none, for whoever
has opened it. `Within` says which names may denote a file, and is what the operations on names are reasoned about with:
a file that only one name may denote is out of reach for everyone who does not know that name.
-/

/-- The files that the names denote, their bytes, and the number of the next file. -/
structure FileSystem (ν β : Type*) where
  names : ν → Option ℕ
  contents : ℕ → List β
  next : ℕ

namespace FileSystem

variable {ν β : Type*}

/-- The bytes under a name. -/
def text (fs : FileSystem ν β) (n : ν) : Option (List β) := (fs.names n).map fs.contents

/-- More bytes at the end of a file. -/
def append (fs : FileSystem ν β) (i : ℕ) (bytes : List β) : FileSystem ν β :=
  { fs with contents := Function.update fs.contents i (fs.contents i ++ bytes) }

/-- No file has two names, and the next file has none. -/
structure WellFormed (fs : FileSystem ν β) : Prop where
  injective : ∀ n m i, fs.names n = some i → fs.names m = some i → n = m
  below : ∀ n i, fs.names n = some i → i < fs.next

/-- Only names of `S` denote the file. -/
def Within (fs : FileSystem ν β) (i : ℕ) (S : Set ν) : Prop := ∀ n, fs.names n = some i → n ∈ S

variable {fs : FileSystem ν β} {n m : ν} {i j : ℕ} {S : Set ν}

/-- Writing to a file leaves the other files. -/
theorem contents_append_of_ne (h : j ≠ i) (bytes : List β) : (fs.append i bytes).contents j = fs.contents j :=
  Function.update_of_ne h _ _

/-- What is written stands behind what the file had. -/
@[simp]
theorem contents_append (fs : FileSystem ν β) (i : ℕ) (bytes : List β) :
    (fs.append i bytes).contents i = fs.contents i ++ bytes := Function.update_self _ _ _

/-- Writing keeps the names. -/
theorem WellFormed.append (h : fs.WellFormed) (i : ℕ) (bytes : List β) : (fs.append i bytes).WellFormed :=
  ⟨h.injective, h.below⟩

variable [DecidableEq ν]

/-- Open a name to write: its file is emptied, and is a new one when it denotes none. -/
def create (fs : FileSystem ν β) (n : ν) : FileSystem ν β × ℕ :=
  match fs.names n with
  | some i => ({ fs with contents := Function.update fs.contents i [] }, i)
  | none =>
    ({ names := Function.update fs.names n (some fs.next)
       contents := Function.update fs.contents fs.next []
       next := fs.next + 1 }, fs.next)

/-- Unbind a name. -/
def remove (fs : FileSystem ν β) (n : ν) : FileSystem ν β :=
  { fs with names := Function.update fs.names n none }

/-- Bind the name `m` to what `n` denotes, in place of what it denotes itself, and unbind `n`. -/
def rename (fs : FileSystem ν β) (n m : ν) : FileSystem ν β :=
  { fs with names := Function.update (Function.update fs.names n none) m (fs.names n) }

/-- A name that is removed denotes nothing. -/
theorem names_remove (fs : FileSystem ν β) (n m : ν) :
    (fs.remove n).names m = if m = n then none else fs.names m := Function.update_apply _ _ _ _

/-- A rename gives the file its new name, in the place of what had that name, and takes the old one. -/
theorem names_rename (fs : FileSystem ν β) (n m k : ν) :
    (fs.rename n m).names k = if k = m then fs.names n else if k = n then none else fs.names k := by
  rw [rename]
  dsimp only
  rw [Function.update_apply, Function.update_apply]

/-- The other names denote what they did. -/
theorem names_create_of_ne (h : m ≠ n) : (fs.create n).1.names m = fs.names m := by
  unfold create
  split
  · rfl
  · exact Function.update_of_ne h _ _

/-- A name that goes takes nothing with it but what it denotes. -/
theorem of_names_remove (h : (fs.remove n).names m = some i) : fs.names m = some i := by
  rw [names_remove] at h
  split_ifs at h
  exact h

/-- After a renaming a file has its old name, or the new one in place of the old. -/
theorem of_names_rename {k : ν} (h : (fs.rename n m).names k = some i) :
    k = m ∧ fs.names n = some i ∨ k ≠ n ∧ fs.names k = some i := by
  rw [names_rename] at h
  split_ifs at h with hm hn
  · exact .inl ⟨hm, h⟩
  · exact .inr ⟨hn, h⟩

/-- Removing a name keeps the file system well formed. -/
theorem WellFormed.remove (h : fs.WellFormed) (n : ν) : (fs.remove n).WellFormed :=
  ⟨fun _ _ i hn hm => h.injective _ _ i (of_names_remove hn) (of_names_remove hm),
    fun _ i hn => h.below _ i (of_names_remove hn)⟩

/-- A rename keeps the file system well formed. -/
theorem WellFormed.rename (h : fs.WellFormed) (n m : ν) : (fs.rename n m).WellFormed := by
  constructor
  · intro k l i hk hl
    rcases of_names_rename hk with ⟨rfl, hn⟩ | ⟨hne, hk'⟩ <;> rcases of_names_rename hl with ⟨rfl, hn'⟩ | ⟨hne', hl'⟩
    · rfl
    · exact absurd (h.injective _ _ i hl' hn) hne'
    · exact absurd (h.injective _ _ i hk' hn') hne
    · exact h.injective _ _ i hk' hl'
  · intro k i hk
    rcases of_names_rename hk with ⟨-, hn⟩ | ⟨-, hk⟩
    · exact h.below _ i hn
    · exact h.below _ i hk

/-- Removing a name adds none to a file. -/
theorem Within.remove (h : fs.Within i S) (n : ν) : (fs.remove n).Within i S := fun k hk => h k (of_names_remove hk)

/-- A rename adds no name to a file, unless it is the one that is renamed. -/
theorem Within.rename (h : fs.Within i S) (hto : fs.names n = some i → m ∈ S) : (fs.rename n m).Within i S := by
  intro k hk
  rcases of_names_rename hk with ⟨rfl, hn⟩ | ⟨-, hk⟩
  · exact hto hn
  · exact h k hk

/-- What it is to open a name to write. -/
structure Created (fs : FileSystem ν β) (n : ν) (fs' : FileSystem ν β) (i : ℕ) : Prop where
  wellFormed : fs'.WellFormed
  below : i < fs'.next
  next : fs.next ≤ fs'.next
  /-- The file is empty, and only the name denotes it. -/
  empty : fs'.contents i = []
  named : fs'.Within i {n}
  bound : fs'.names n = some i
  /-- It was the name's, or is new. -/
  file : fs.names n = some i ∨ i = fs.next
  /-- The others keep their names and their bytes. -/
  names : ∀ m j, j ≠ i → (fs'.names m = some j ↔ fs.names m = some j)
  contents : ∀ j, j ≠ i → fs'.contents j = fs.contents j

/-- Opening a name to write is as `Created` says. -/
theorem WellFormed.create (h : fs.WellFormed) (n : ν) : Created fs n (fs.create n).1 (fs.create n).2 := by
  unfold FileSystem.create
  split
  · next i hn =>
    exact ⟨⟨h.injective, h.below⟩, h.below n i hn, le_rfl, Function.update_self _ _ _,
      fun m hm => h.injective m n i hm hn, hn, .inl hn, fun _ _ _ => Iff.rfl, fun j hj => Function.update_of_ne hj _ _⟩
  · next hn =>
    have hnames (m : ν) (j : ℕ) (hm : Function.update fs.names n (some fs.next) m = some j) :
        m = n ∧ j = fs.next ∨ m ≠ n ∧ fs.names m = some j := by
      rw [Function.update_apply] at hm
      split_ifs at hm with heq
      · exact .inl ⟨heq, (Option.some.inj hm).symm⟩
      · exact .inr ⟨heq, hm⟩
    have hnew (m : ν) : fs.names m ≠ some fs.next := fun hm => absurd (h.below m _ hm) (lt_irrefl _)
    constructor
    · constructor
      · intro k l j hk hl
        rcases hnames k j hk with ⟨hk', rfl⟩ | ⟨-, hk'⟩ <;> rcases hnames l _ hl with ⟨hl', hj⟩ | ⟨-, hl'⟩
        · rw [hk', hl']
        · exact absurd hl' (hnew l)
        · exact absurd (hj ▸ hk') (hnew k)
        · exact h.injective k l _ hk' hl'
      · intro k j hk
        rcases hnames k j hk with ⟨-, rfl⟩ | ⟨-, hk⟩
        · exact Nat.lt_succ_self _
        · exact (h.below k j hk).trans (Nat.lt_succ_self _)
    · exact Nat.lt_succ_self _
    · exact Nat.le_succ _
    · exact Function.update_self _ _ _
    · intro m hm
      rcases hnames m _ hm with ⟨rfl, -⟩ | ⟨-, hm⟩
      · exact rfl
      · exact absurd hm (hnew m)
    · exact Function.update_self _ _ _
    · exact .inr rfl
    · intro m j hj
      refine ⟨fun hm => ?_, fun hm => ?_⟩
      · rcases hnames m j hm with ⟨-, rfl⟩ | ⟨-, hm⟩
        · exact absurd rfl hj
        · exact hm
      · have hne : m ≠ n := by
          rintro rfl
          rw [hn] at hm
          cases hm
        exact (Function.update_of_ne hne _ _).trans hm
    · exact fun j hj => Function.update_of_ne hj _ _

end FileSystem
