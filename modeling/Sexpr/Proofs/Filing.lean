import Sexpr.Files

/-!
# Files that were written

An entry that is put among others by its key changes what is found under that key only
(`lookup_put`). Writing puts one file at the place that a path leads to, and that place is no
directory (`Files.write_eq_ok_iff`). So no directory comes or goes: every path leads where it led
before (`Files.locate_put`). The file is read back (`Files.read_write`), and a path that could be
written can be written still (`Files.Writable.of_write`).
-/

namespace Sexpr

theorem Except.bind_eq_ok_iff {ε α β : Type} {first : Except ε α} {next : α → Except ε β}
    {result : β} :
    first >>= next = .ok result ↔ ∃ value, first = .ok value ∧ next value = .ok result := by
  cases first with
  | error fault => simp only [bind, Except.bind, reduceCtorEq, false_and, exists_false]
  | ok value => simp only [bind, Except.bind, Except.ok.injEq, exists_eq_left']

/-! ## Entries by key -/

section Lookup

variable {κ ν : Type} [BEq κ] [LawfulBEq κ]

theorem lookup_eq_none_iff_any (key : κ) (entries : List (κ × ν)) :
    entries.lookup key = none ↔ entries.any (·.1 == key) = false := by
  rw [List.lookup_eq_none_iff, List.any_eq_false]
  refine forall₂_congr fun old _ => ?_
  rw [bne_iff_ne, beq_iff_eq, ne_comm]

theorem lookup_replace (key other : κ) (value : ν) (entries : List (κ × ν)) :
    (entries.map fun old => if old.1 == key then (key, value) else old).lookup other =
      if other == key then (entries.lookup other).map fun _ => value
      else entries.lookup other := by
  induction entries with
  | nil => simp only [List.map_nil, List.lookup_nil, Option.map_none, ite_self]
  | cons old rest ih =>
    rw [List.map_cons, List.lookup_cons, List.lookup_cons, ih]
    by_cases ho : old.1 = key
    · subst ho
      cases hk : other == old.1 <;> simp [hk]
    · rw [if_neg (by simpa using ho)]
      cases hk : other == old.1
      · rfl
      · have hn : (other == key) = false := by
          rw [eq_of_beq hk]
          simpa using ho
        rw [hn]
        rfl

/-- An entry that is put in place of those of its key, or behind all others, is found by its key and
changes nothing for the other keys. -/
theorem lookup_put (key other : κ) (value : ν) (entries : List (κ × ν)) :
    (if entries.any (·.1 == key) then
        entries.map fun old => if old.1 == key then (key, value) else old
      else entries ++ [(key, value)]).lookup other =
      if other == key then some value else entries.lookup other := by
  split
  · rename_i ha
    rw [lookup_replace]
    split
    · rename_i hk
      have hl : entries.lookup other ≠ none := by
        rw [ne_eq, lookup_eq_none_iff_any, eq_of_beq hk, ha]
        exact Bool.noConfusion
      obtain ⟨old, ho⟩ := Option.ne_none_iff_exists'.mp hl
      rw [ho, Option.map_some]
    · rfl
  · rename_i ha
    rw [List.lookup_append, List.lookup_cons, List.lookup_nil]
    cases hk : other == key
    · exact Option.or_none
    · have hl : entries.lookup other = none := by
        rw [lookup_eq_none_iff_any, eq_of_beq hk]
        exact Bool.eq_false_iff.mpr ha
      rw [hl, Option.none_or]
      rfl

end Lookup

namespace Files

/-! ## One entry put -/

@[simp] theorem base_put (files : Files) (names : List String) (entry : FileEntry) :
    (files.put names entry).base = files.base := by
  rw [put]
  split <;> rfl

@[simp] theorem start_put (files : Files) (names : List String) (entry : FileEntry)
    (path : String) : (files.put names entry).start path = files.start path := by
  rw [start, start, base_put]

theorem entry?_eq_lookup (files : Files) {names : List String} (h : names ≠ []) :
    files.entry? names = files.entries.lookup names :=
  if_neg (by simpa using h)

theorem entries_put (files : Files) (names : List String) (entry : FileEntry) :
    (files.put names entry).entries =
      if files.entries.any (·.1 == names) then
        files.entries.map fun old => if old.1 == names then (names, entry) else old
      else files.entries ++ [(names, entry)] := by
  rw [put]
  split <;> rfl

theorem entry?_put_self (files : Files) {names : List String} (hn : names ≠ [])
    (entry : FileEntry) : entry? (files.put names entry) names = some entry := by
  rw [entry?_eq_lookup _ hn, entries_put, lookup_put, if_pos BEq.rfl]

theorem entry?_put_of_ne (files : Files) {names other : List String} (h : other ≠ names)
    (entry : FileEntry) : entry? (files.put names entry) other = files.entry? other := by
  by_cases hn : other = []
  · subst hn
    rfl
  · rw [entry?_eq_lookup _ hn, entry?_eq_lookup _ hn, entries_put, lookup_put,
      if_neg (by simpa using h)]

/-! ## Paths lead where they led before -/

section Put

variable {files : Files} {target : List String} (ht : files.entry? target ≠ some .directory)
  (bytes : List UInt8)

include ht

/-- A directory is still there after a file was put where none is. -/
theorem directory_put {names : List String} (h : files.entry? names = some .directory) :
    entry? (files.put target (.file bytes)) names = some .directory := by
  have hne : names ≠ target := by
    rintro rfl
    exact ht h
  rw [entry?_put_of_ne files hne, h]

theorem descend_put {names : List String} :
    ∀ {directory reached : List String}, files.descend directory names = .ok reached →
      (files.put target (.file bytes)).descend directory names = .ok reached := by
  induction names with
  | nil => intro directory reached h; exact h
  | cons name rest ih =>
    intro directory reached h
    rw [descend] at h ⊢
    split at h
    · rw [if_pos ‹_›]
      exact ih h
    · rw [if_neg ‹_›]
      split at h
      · rw [if_pos ‹_›]
        exact ih h
      · rw [if_neg ‹_›]
        split at h
        · cases h
        · rw [if_neg ‹_›]
          split at h
          · cases h
          · cases h
          · rename_i he
            rw [directory_put ht bytes he]
            exact ih h

theorem locate_put {path : String} {place : List String × Option String × Bool}
    (h : files.locate path = .ok place) :
    (files.put target (.file bytes)).locate path = .ok place := by
  rw [locate] at h ⊢
  split at h
  · cases h
  rw [if_neg ‹_›]
  split at h
  · cases h
  rw [if_neg ‹_›]
  split at h
  · cases h
  rw [if_neg ‹_›, start_put]
  generalize cut path = names at h ⊢
  obtain ⟨before, last, slashed⟩ := names
  obtain ⟨directory, hd, hp⟩ := Except.bind_eq_ok_iff.mp h
  refine Except.bind_eq_ok_iff.mpr ⟨directory, descend_put ht bytes hd, ?_⟩
  split at hp
  · rw [if_pos ‹_›]
    obtain ⟨reached, hr, hq⟩ := Except.bind_eq_ok_iff.mp hp
    exact Except.bind_eq_ok_iff.mpr ⟨reached, descend_put ht bytes hr, hq⟩
  · rw [if_neg ‹_›]
    exact hp

end Put

/-! ## Reading and writing -/

/-- The place of a file that a path leads to. -/
def Leads (files : Files) (path : String) (names : List String) : Prop :=
  ∃ directory name, files.locate path = .ok (directory, some name, false) ∧
    names = directory ++ [name]

theorem Leads.ne_nil {files : Files} {path : String} {names : List String}
    (h : files.Leads path names) : names ≠ [] := by
  obtain ⟨directory, name, -, rfl⟩ := h
  simp

theorem write_eq_ok_iff {files written : Files} {path : String} {bytes : List UInt8} :
    files.write path bytes = .ok written ↔
      ∃ names, files.Leads path names ∧ files.entry? names ≠ some .directory ∧
        written = files.put names (.file bytes) := by
  rw [write, Except.bind_eq_ok_iff]
  constructor
  · rintro ⟨⟨directory, name, slashed⟩, hl, h⟩
    cases name with
    | none => cases h
    | some name =>
      dsimp only at h
      split at h
      · cases h
      · rename_i hs
        obtain rfl : slashed = false := by simpa using hs
        split at h
        · cases h
        · rename_i hn
          exact ⟨directory ++ [name], ⟨directory, name, hl, rfl⟩, hn, (Except.ok.inj h).symm⟩
  · rintro ⟨names, ⟨directory, name, hl, rfl⟩, hn, rfl⟩
    refine ⟨_, hl, ?_⟩
    simp only [Bool.false_eq_true, if_false]

theorem read_of_leads {files : Files} {path : String} {names : List String} {bytes : List UInt8}
    (h : files.Leads path names) (he : files.entry? names = some (.file bytes)) :
    files.read path = .ok bytes := by
  obtain ⟨directory, name, hl, rfl⟩ := h
  rw [read, Except.bind_eq_ok_iff]
  refine ⟨_, hl, ?_⟩
  simp only [he, Bool.false_eq_true, if_false]

/-- Something can be written to a path. -/
def Writable (files : Files) (path : String) : Prop :=
  ∀ bytes, ∃ written, files.write path bytes = .ok written

theorem writable_iff {files : Files} {path : String} :
    files.Writable path ↔
      ∃ names, files.Leads path names ∧ files.entry? names ≠ some .directory := by
  constructor
  · intro h
    obtain ⟨written, hw⟩ := h []
    obtain ⟨names, hl, hn, -⟩ := write_eq_ok_iff.mp hw
    exact ⟨names, hl, hn⟩
  · rintro ⟨names, hl, hn⟩ bytes
    exact ⟨_, write_eq_ok_iff.mpr ⟨names, hl, hn, rfl⟩⟩

theorem Writable.ne_empty {files : Files} {path : String} (h : files.Writable path) :
    path ≠ "" := by
  rintro rfl
  obtain ⟨written, hw⟩ := h []
  cases hw

/-- What was written is read back. -/
theorem read_write {files written : Files} {path : String} {bytes : List UInt8}
    (h : files.write path bytes = .ok written) : written.read path = .ok bytes := by
  obtain ⟨names, hl, hn, rfl⟩ := write_eq_ok_iff.mp h
  have he := entry?_put_self files hl.ne_nil (.file bytes)
  obtain ⟨directory, name, hp, rfl⟩ := hl
  exact read_of_leads ⟨directory, name, locate_put hn bytes hp, rfl⟩ he

/-- Writing one path leaves others open to writing. -/
theorem Writable.of_write {files written : Files} {path other : String} {bytes : List UInt8}
    (ho : files.Writable other) (h : files.write path bytes = .ok written) :
    written.Writable other := by
  obtain ⟨target, -, ht, rfl⟩ := write_eq_ok_iff.mp h
  obtain ⟨names, ⟨directory, name, hp, rfl⟩, hn⟩ := writable_iff.mp ho
  refine writable_iff.mpr ⟨_, ⟨directory, name, locate_put ht bytes hp, rfl⟩, ?_⟩
  -- The two paths may lead to one file, which is then replaced once more.
  by_cases he : directory ++ [name] = target
  · rw [← he, entry?_put_self files (by simp) (.file bytes)]
    simp
  · rw [entry?_put_of_ne files he]
    exact hn

end Files

end Sexpr
