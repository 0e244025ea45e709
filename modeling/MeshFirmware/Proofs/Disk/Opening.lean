import MeshFirmware.Disk

/-!
# Opening a file a second time

A path that has been opened for writing leads to that file from then on, also if the file has just been made
(`opens_of_openFile`), as long as the entries of the disk stay what they are (`Opens.congr`). Nothing that a process
does with such a file makes it one that cannot be locked (`Lockable`).
-/

namespace MeshFirmware.Disk

/-- The path is one of a file, and it leads to the file with this number. -/
def Opens (d : Disk) (path : String) (id : Nat) : Prop :=
  (endsWithSlash path || (names path).getLast?.any isDots) = false ∧ ∃ place, d.find path = .ok (place, some (.file id))

/-- The path leads to the file with this number, and files can be locked. -/
structure Lockable (d : Disk) (path : String) (id : Nat) : Prop where
  opens : d.Opens path id
  possible : d.lockProblem = none

/-- Somebody holds a lock on the file that the path leads to. -/
def Held (d : Disk) (path : String) : Prop := ∃ id ∈ d.locked, d.Opens path id

section
variable {d d' : Disk} {path : String} {id : Nat} {place here : Place}

theorem Opens.openFile_eq (h : d.Opens path id) : d.openFile path = (.ok id, d) := by
  obtain ⟨hname, place, hfind⟩ := h
  rw [openFile, if_neg (by simp [hname]), hfind]

/-! ## Entries -/

theorem entry?_congr (h : d.entries = d'.entries) (place : Place) : d.entry? place = d'.entry? place := by
  unfold entry?
  rw [h]

theorem walk_congr (h : d.entries = d'.entries) (here : Place) (ns : List String) :
    d.walk here ns = d'.walk here ns := by
  induction ns generalizing here with
  | nil => rfl
  | cons name rest ih =>
    have hdir : d.notDirectory? here = d'.notDirectory? here := by
      rw [notDirectory?, notDirectory?, entry?_congr h]
    rw [walk, walk, hdir, ih]

theorem find_congr (h : d.entries = d'.entries) (path : String) : d.find path = d'.find path := by
  simp only [find, walk_congr h, entry?_congr h]

/-- Where a path leads depends on nothing but the entries. -/
theorem Opens.congr (h : d.Opens path id) (hentries : d.entries = d'.entries) : d'.Opens path id := by
  rwa [Opens, ← find_congr hentries]

theorem Opens.lock (h : d.Opens path id) (id' : Nat) : (d.lock id').Opens path id := h.congr rfl

theorem Opens.unlock (h : d.Opens path id) (id' : Nat) : (d.unlock id').Opens path id := h.congr rfl

theorem Opens.touch (h : d.Opens path id) (id' : Nat) : (d.touch id').Opens path id := h.congr rfl

/-- A path leads to one file. -/
theorem Opens.unique {id' : Nat} (h : d.Opens path id) (h' : d.Opens path id') : id = id' := by
  have hsame := h.openFile_eq.symm.trans h'.openFile_eq
  exact Except.ok.inj (Prod.mk.inj hsame).1

/-! ## A new file -/

theorem entry?_putFile_of_some {x : DiskEntry} (h : d.entry? here = some x) (place : Place) (content : Bytes) :
    Disk.entry? (d.putFile place content) here = some x := by
  unfold entry? at h ⊢
  split
  next hroot => rwa [if_pos hroot] at h
  next hroot =>
    rw [if_neg hroot] at h
    rw [putFile, List.lookup_append, h, Option.some_or]

theorem entry?_putFile_self (h : d.entry? place = none) (content : Bytes) :
    Disk.entry? (d.putFile place content) place = some (.file d.contents.length) := by
  unfold entry? at h ⊢
  split
  next hroot => simp [hroot] at h
  next hroot =>
    rw [if_neg hroot] at h
    simp [putFile, List.lookup_append, h]

theorem entry?_of_notDirectory? (h : d.notDirectory? here = none) : d.entry? here = some .directory := by
  unfold notDirectory? at h
  split at h
  · cases h
  · cases h
  next hentry => exact hentry

/-- All directories on the way are still there. -/
theorem walk_putFile {ns : List String} {target : Place} (h : d.walk here ns = .ok target) (place : Place)
    (content : Bytes) : (d.putFile place content).walk here ns = .ok target := by
  induction ns generalizing here with
  | nil => exact h
  | cons name rest ih =>
    rw [walk] at h
    cases hdir : d.notDirectory? here with
    | some e =>
      rw [hdir] at h
      cases h
    | none =>
      have hentry := entry?_putFile_of_some (entry?_of_notDirectory? hdir) place content
      rw [hdir] at h
      dsimp only at h
      split at h
      · cases h
      next hname => rw [walk, notDirectory?, hentry, if_neg hname, ih h]

theorem find_eq_ok_none (h : d.find path = .ok (place, none)) :
    refusal? path = none ∧ d.walk [] (names path) = .ok place ∧ d.entry? place = none := by
  unfold find at h
  split at h
  · cases h
  next hrefusal =>
    split at h
    · cases h
    next target hwalk =>
      split at h
      · split at h <;> cases h
      next =>
        obtain ⟨rfl, hentry⟩ := Prod.mk.inj (Except.ok.inj h)
        exact ⟨hrefusal, hwalk, hentry⟩

theorem opens_putFile (hname : (endsWithSlash path || (names path).getLast?.any isDots) = false)
    (h : d.find path = .ok (place, none)) (content : Bytes) :
    (d.putFile place content).Opens path d.contents.length := by
  obtain ⟨hrefusal, hwalk, hentry⟩ := find_eq_ok_none h
  have hslash : endsWithSlash path = false := (Bool.or_eq_false_iff.mp hname).1
  refine ⟨hname, place, ?_⟩
  rw [find, hrefusal]
  dsimp only
  rw [walk_putFile hwalk place content]
  dsimp only
  rw [entry?_putFile_self hentry content]
  simp [hslash]

/-- A path that has been opened leads to the file that has been opened. -/
theorem opens_of_openFile (h : d.openFile path = (.ok id, d')) : d'.Opens path id := by
  unfold openFile at h
  split at h
  · cases h
  next hname =>
    have hname : (endsWithSlash path || (names path).getLast?.any isDots) = false := by simpa using hname
    split at h
    · cases h
    · cases h
    next place id' hfind =>
      obtain ⟨hid, rfl⟩ := Prod.mk.inj h
      obtain rfl := Except.ok.inj hid
      exact ⟨hname, place, hfind⟩
    next place hfind =>
      obtain ⟨hid, rfl⟩ := Prod.mk.inj h
      obtain rfl := Except.ok.inj hid
      exact opens_putFile hname hfind []

/-- Opening a file locks none. -/
theorem openFile_locked (d : Disk) (path : String) : (d.openFile path).2.locked = d.locked := by
  unfold openFile
  split
  · rfl
  · split <;> rfl

/-! ## Files that can be locked -/

theorem Lockable.lock (h : d.Lockable path id) (id' : Nat) : (d.lock id').Lockable path id :=
  ⟨h.opens.lock id', h.possible⟩

theorem Lockable.unlock (h : d.Lockable path id) (id' : Nat) : (d.unlock id').Lockable path id :=
  ⟨h.opens.unlock id', h.possible⟩

theorem Lockable.touch (h : d.Lockable path id) (id' : Nat) : (d.touch id').Lockable path id :=
  ⟨h.opens.touch id', h.possible⟩

end

end MeshFirmware.Disk
