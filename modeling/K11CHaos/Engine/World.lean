import K11CHaos.Engine.Device

/-!
# The base directory, and a world without faults

`Files` is the content of the base directory. `Files.Step` is what a file operation does to it: it may
fail at any point, an append may leave any prefix behind, and an error may be reported for a rename that
took place. A `World` is a disk with a base directory; `World.Step` is a faithful device next to them.

`World.exact` is the world in which nothing fails: every question inside the device is answered in full and
every file operation that can succeed does. Its answers are steps of a faithful world (`exact_step`).
-/

namespace K11CHaos.Engine

open Prog

/-- The files of the base directory, directories among them as empty files. -/
abbrev Files := Path → Option Bytes

namespace Files

/-- Store a file. -/
def set (f : Files) (p : Path) (b : Bytes) : Files :=
  fun q => if q = p then some b else f q

/-- Remove a file. -/
def unset (f : Files) (p : Path) : Files :=
  fun q => if q = p then none else f q

/-- Give a file a new name; one that has that name is replaced. -/
def move (f : Files) (p q : Path) (b : Bytes) : Files :=
  (f.unset p).set q b

/-- Give the directory of an unfinished backup its final name. -/
def moveBackup (f : Files) (id : String) : Files
  | .backupPartial i file => if i = id then none else f (.backupPartial i file)
  | .backup i file =>
    if i = id then (f (.backup id file)).or (f (.backupPartial id file)) else f (.backup i file)
  | p => f p

/-- Read the files, as the sources of an operation see them. -/
def store (f : Files) : Store := fun p =>
  match f p with
  | some b => .ok b
  | none => .error "File not found"

/-- The path that was written. -/
@[simp] lemma set_same {f : Files} {p : Path} {b : Bytes} : f.set p b p = some b :=
  if_pos rfl

/-- The paths that were not written. -/
lemma set_other {f : Files} {p q : Path} {b : Bytes} (h : q ≠ p) : f.set p b q = f q :=
  if_neg h

/-- The path that was removed. -/
@[simp] lemma unset_same {f : Files} {p : Path} : f.unset p p = none :=
  if_pos rfl

/-- The paths that were not removed. -/
lemma unset_other {f : Files} {p q : Path} (h : q ≠ p) : f.unset p q = f q :=
  if_neg h

/-- The paths that a rename leaves alone. -/
lemma move_other {f : Files} {p q r : Path} {b : Bytes} (h : r ≠ p) (h' : r ≠ q) :
    f.move p q b r = f r := by
  rw [move, set_other h', unset_other h]

/-- A store gives the files that are there. -/
lemma store_ok {f : Files} {p : Path} {b : Bytes} : f.store p = .ok b ↔ f p = some b := by
  unfold store
  cases f p with
  | none => exact ⟨nofun, nofun⟩
  | some c => exact ⟨fun h => by cases h; rfl, fun h => by cases h; rfl⟩

/-- What a file operation does to the files. -/
def Step (f : Files) (e : Ev) (f' : Files) : Prop :=
  match e with
  | ⟨.sources, .ok st⟩ => f' = f ∧ ∀ p b, st p = .ok b → f p = some b
  | ⟨.present p, .ok v⟩ => f' = f ∧ v = (f p).isSome
  | ⟨.load p, .ok b⟩ => f' = f ∧ f p = some b
  | ⟨.makeDir p, .ok true⟩ | ⟨.create p, .ok true⟩ => f p = none ∧ f' = f.set p []
  | ⟨.makeDir p, .ok false⟩ | ⟨.create p, .ok false⟩ => f p ≠ none ∧ f' = f
  | ⟨.makeDir p, .error _⟩ | ⟨.create p, .error _⟩ => f' = f ∨ f p = none ∧ f' = f.set p []
  | ⟨.append p b, .ok _⟩ => ∃ c, f p = some c ∧ f' = f.set p (c ++ b)
  | ⟨.append p b, .error _⟩ => f' = f ∨ ∃ c k, f p = some c ∧ f' = f.set p (c ++ b.take k)
  | ⟨.rename p q, .ok _⟩ => ∃ c, f p = some c ∧ f' = f.move p q c
  | ⟨.rename p q, .error _⟩ => f' = f ∨ ∃ c, f p = some c ∧ f' = f.move p q c
  | ⟨.renameBackup id, .ok _⟩ => f (.backup id "") = none ∧ f' = f.moveBackup id
  | ⟨.renameBackup id, .error _⟩ => f' = f ∨ f (.backup id "") = none ∧ f' = f.moveBackup id
  | ⟨.remove p, .ok _⟩ => f' = f.unset p
  | ⟨.remove p, .error _⟩ => f' = f ∨ f' = f.unset p
  | _ => f' = f

end Files

/-- A disk and a base directory. -/
structure World where
  disk : Disk
  files : Files

namespace World

/-- The steps of a faithful device next to a base directory. -/
def Step (who : Identity) (caps : Vector UInt8 8) (w : World) (e : Ev) (w' : World) : Prop :=
  Faithful who caps w.disk e w'.disk ∧ w.files.Step e w'.files

/-- What stays the same while a world runs: the device and the clock. -/
structure Host where
  who : Identity
  caps : Vector UInt8 8
  stamp : String

/-- The answer to a question outside the device or the directory. -/
def refused (detail : String) : Failure :=
  fail "USB_IO" detail

/-- An access inside the disk of a host. -/
def Host.holds (host : Host) (lba : UInt32) (len : Nat) : Prop :=
  512 * lba.toNat + len ≤ 512 * host.who.sectors.toNat

instance (host : Host) (lba : UInt32) (len : Nat) : Decidable (host.holds lba len) :=
  inferInstanceAs (Decidable (_ ≤ _))

/-- The answers of a world without faults. The vendor tool is not part of it. -/
def exact (host : Host) (w : World) : (o : Op) → o.Ans × World
  | .identity => (.ok host.who, w)
  | .capability => (.ok host.caps, w)
  | .read lba len =>
    if host.holds lba len then
      (.ok (UInt32.ofNat len, ⟨readAt w.disk (512 * lba.toNat) len, length_readAt⟩), w)
    else (.error (refused "Read outside the device"), w)
  | .write lba b =>
    if host.holds lba b.length then
      (.ok (UInt32.ofNat b.length), { w with disk := writeAt w.disk (512 * lba.toNat) b })
    else (.error (refused "Write outside the device"), w)
  | .gate => (.ok (), w)
  | .sources => (.ok w.files.store, w)
  | .reader => (.ok (), w)
  | .stream b => (.ok ⟨b, rfl⟩, w)
  | .stamp => (.ok host.stamp, w)
  | .present p => (.ok (w.files p).isSome, w)
  | .load p =>
    match w.files p with
    | some b => (.ok b, w)
    | none => (.error (refused "File not found"), w)
  | .makeDir p | .create p =>
    match w.files p with
    | some _ => (.ok false, w)
    | none => (.ok true, { w with files := w.files.set p [] })
  | .append p b =>
    match w.files p with
    | some c => (.ok (), { w with files := w.files.set p (c ++ b) })
    | none => (.error (refused "File not found"), w)
  | .rename p q =>
    match w.files p with
    | some c => (.ok (), { w with files := w.files.move p q c })
    | none => (.error (refused "File not found"), w)
  | .renameBackup id =>
    match w.files (.backup id "") with
    | some _ => (.error (refused "Directory exists"), w)
    | none => (.ok (), { w with files := w.files.moveBackup id })
  | .remove p => (.ok (), { w with files := w.files.unset p })
  | .note _ _ => (.ok (), w)
  | .attach _ => (.ok (), w)
  | .tool _ => (.error (refused "No vendor tool"), w)

section Answers

variable {host : Host} {w : World} {lba : UInt32} {len : Nat} {b c : Bytes} {p q : Path}

/-- A read of the eMMC. -/
lemma exact_read (h : host.holds lba len) :
    w.exact host (.read lba len) =
      (.ok (UInt32.ofNat len, ⟨readAt w.disk (512 * lba.toNat) len, length_readAt⟩), w) :=
  if_pos h

/-- A write to the eMMC. -/
lemma exact_write (h : host.holds lba b.length) :
    w.exact host (.write lba b) =
      (.ok (UInt32.ofNat b.length), ⟨writeAt w.disk (512 * lba.toNat) b, w.files⟩) :=
  if_pos h

/-- A file that is there. -/
lemma exact_load (h : w.files p = some b) : w.exact host (.load p) = (.ok b, w) := by
  simp only [exact, h]

/-- A new directory. -/
lemma exact_makeDir (h : w.files p = none) :
    w.exact host (.makeDir p) = (.ok true, ⟨w.disk, w.files.set p []⟩) := by
  simp only [exact, h]

/-- A directory that is there already. -/
lemma exact_makeDir_there (h : w.files p = some b) :
    w.exact host (.makeDir p) = (.ok false, w) := by
  simp only [exact, h]

/-- A new file. -/
lemma exact_create (h : w.files p = none) :
    w.exact host (.create p) = (.ok true, ⟨w.disk, w.files.set p []⟩) := by
  simp only [exact, h]

/-- A file that is there already. -/
lemma exact_create_there (h : w.files p = some b) :
    w.exact host (.create p) = (.ok false, w) := by
  simp only [exact, h]

/-- More bytes for a file. -/
lemma exact_append (h : w.files p = some c) :
    w.exact host (.append p b) = (.ok (), ⟨w.disk, w.files.set p (c ++ b)⟩) := by
  simp only [exact, h]

/-- A file under another name. -/
lemma exact_rename (h : w.files p = some c) :
    w.exact host (.rename p q) = (.ok (), ⟨w.disk, w.files.move p q c⟩) := by
  simp only [exact, h]

end Answers

/-- The answers of a world without faults are steps of a faithful one. -/
lemma exact_step (host : Host) (w : World) (o : Op) :
    w.Step host.who host.caps ⟨o, (w.exact host o).1⟩ (w.exact host o).2 := by
  cases o with
  | read lba len =>
    by_cases h : host.holds lba len
    · rw [exact_read h]
      exact ⟨⟨rfl, fun _ => rfl⟩, rfl⟩
    · rw [show w.exact host (.read lba len) = _ from if_neg h]
      exact ⟨rfl, rfl⟩
  | write lba b =>
    by_cases h : host.holds lba b.length
    · rw [exact_write h]
      refine ⟨⟨fun _ => rfl, fun x hx => writeAt_outside ?_⟩, rfl⟩
      simp only [Inside] at hx
      omega
    · rw [show w.exact host (.write lba b) = _ from if_neg h]
      exact ⟨fun _ _ => rfl, rfl⟩
  | load p =>
    cases h : w.files p with
    | none => simp only [exact, h]; exact ⟨rfl, rfl⟩
    | some b => rw [exact_load h]; exact ⟨rfl, rfl, h⟩
  | makeDir p =>
    cases h : w.files p with
    | none => rw [exact_makeDir h]; exact ⟨rfl, h, rfl⟩
    | some b => rw [exact_makeDir_there h]; exact ⟨rfl, by rw [h]; exact Option.some_ne_none b, rfl⟩
  | create p =>
    cases h : w.files p with
    | none => rw [exact_create h]; exact ⟨rfl, h, rfl⟩
    | some b => rw [exact_create_there h]; exact ⟨rfl, by rw [h]; exact Option.some_ne_none b, rfl⟩
  | append p b =>
    cases h : w.files p with
    | none => simp only [exact, h]; exact ⟨rfl, .inl rfl⟩
    | some c => rw [exact_append h]; exact ⟨rfl, c, h, rfl⟩
  | rename p q =>
    cases h : w.files p with
    | none => simp only [exact, h]; exact ⟨rfl, .inl rfl⟩
    | some c => rw [exact_rename h]; exact ⟨rfl, c, h, rfl⟩
  | renameBackup id =>
    cases h : w.files (.backup id "") with
    | none => simp only [exact, h]; exact ⟨rfl, h, rfl⟩
    | some c => simp only [exact, h]; exact ⟨rfl, .inl rfl⟩
  | sources => exact ⟨rfl, rfl, fun p b h => Files.store_ok.mp h⟩
  | present p => exact ⟨rfl, rfl, rfl⟩
  | identity => exact ⟨⟨rfl, rfl⟩, rfl⟩
  | capability => exact ⟨⟨rfl, rfl⟩, rfl⟩
  | stream b => exact ⟨⟨rfl, rfl⟩, rfl⟩
  | tool image => exact ⟨trivial, rfl⟩
  | _ => exact ⟨rfl, rfl⟩

/-- A run in a world without faults is one in a faithful world. -/
lemma exact_path {host : Host} {w w' : World} {t}
    (p : Lts.Path (Answers (exact host)) w t w') :
    Lts.Path (World.Step host.who host.caps) w t w' :=
  p.mono fun w e w' st => by
    have := w.exact_step host e.1
    rw [st] at this
    exact this

/-- The disk of a run in a faithful world. -/
lemma path_disk {who caps} {w w' : World} {t} (p : Lts.Path (World.Step who caps) w t w') :
    Lts.Path (Faithful who caps) w.disk t w'.disk := by
  induction p with
  | nil => exact .nil
  | cons st _ ih => exact .cons st.1 ih

/-- The files of a run in a faithful world. -/
lemma path_files {who caps} {w w' : World} {t} (p : Lts.Path (World.Step who caps) w t w') :
    Lts.Path Files.Step w.files t w'.files := by
  induction p with
  | nil => exact .nil
  | cons st _ ih => exact .cons st.2 ih

/-- A program's outcome in a world without faults is that of a run in a faithful world. -/
lemma exact_runs {α : Type} {host : Host} {w : World} {m : Eng α} {r w'}
    (h : run (exact host) m w = (r, w')) :
    ∃ t, Runs m t r ∧ Lts.Path (World.Step host.who host.caps) w t w' := by
  obtain ⟨t, hr, p⟩ := run_runs m w
  rw [h] at hr p
  exact ⟨t, hr, exact_path p⟩

end World

end K11CHaos.Engine
