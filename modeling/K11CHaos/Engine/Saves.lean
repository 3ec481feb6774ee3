import K11CHaos.Engine.Execute
import K11CHaos.Engine.World

/-!
# What a backup touches

Taking a backup looks at the device and changes nothing but files of backups (`Op.Saves`), and a
transaction changes no file of a plan behind its claim (`Op.Spares`). One lemma for each function, along its
own steps.
-/

namespace K11CHaos.Engine

open Prog

/-- Files of backups. -/
def Path.Backup : Path → Prop
  | .archive _ | .archivePartial _ | .backup _ _ | .backupPartial _ _ => True
  | _ => False

/-- The two files of a plan. -/
def Path.Planned : Path → Prop
  | .plan _ _ | .used _ _ => True
  | _ => False

/-- Questions that change nothing but files of backups. -/
def Op.Saves : Op → Prop
  | .makeDir p | .create p | .append p _ | .remove p => p.Backup
  | .rename p q => p.Backup ∧ q.Backup
  | .write _ _ | .tool _ => False
  | _ => True

/-- Questions that change no file of a plan. -/
def Op.Spares : Op → Prop
  | .makeDir p | .create p | .append p _ | .remove p => ¬ p.Planned
  | .rename p q => ¬ p.Planned ∧ ¬ q.Planned
  | _ => True

/-- A backup is not a planned file. -/
lemma Path.Backup.spared {p : Path} (h : p.Backup) : ¬ p.Planned := by
  cases p with
  | plan dir id => exact h.elim
  | used dir id => exact h.elim
  | _ => exact not_false

/-- Observing saves nothing. -/
lemma Op.Observes.saves {o : Op} (h : o.Observes) : o.Saves := by
  cases o with
  | identity => trivial
  | capability => trivial
  | read lba len => trivial
  | gate => trivial
  | sources => trivial
  | reader => trivial
  | stream block => trivial
  | stamp => trivial
  | present path => trivial
  | load path => trivial
  | _ => exact h.elim

/-- Saving into backups leaves the planned files alone. -/
lemma Op.Saves.spares {o : Op} (h : o.Saves) : o.Spares := by
  cases o with
  | makeDir p => exact Path.Backup.spared h
  | create p => exact Path.Backup.spared h
  | append p b => exact Path.Backup.spared h
  | remove p => exact Path.Backup.spared h
  | rename p q => exact ⟨h.1.spared, h.2.spared⟩
  | _ => trivial

/-- Observing leaves the planned files alone. -/
lemma Op.Observes.spares {o : Op} (h : o.Observes) : o.Spares :=
  h.saves.spares

/-- A new file of a backup. -/
lemma createNew_saves {code} {p : Path} (h : p.Backup) : (createNew code p).Only Op.Saves :=
  .bind (only_askAs.mpr h) fun _ => only_check

/-- A new file of a backup, with its bytes. -/
lemma saveNew_saves {code} {p : Path} {b} (h : p.Backup) :
    (Workflow.saveNew code p b).Only Op.Saves :=
  .bind (createNew_saves h) fun _ => only_askAs.mpr h

/-- The question whether the loader reads everything. -/
lemma requireFullRead_saves : requireFullRead.Only Op.Saves :=
  requireFullRead_observes.mono fun _ h => h.saves

/-- One read of the device. -/
lemma readExact_saves {lba len} : (readExact lba len).Only Op.Saves :=
  readExact_observes.mono fun _ h => h.saves

namespace Archive

/-- The name of a new archive is a path of backups. -/
lemma reserve_saves {kind} : (reserve kind).Only Op.Saves := by
  refine .bind (only_askAs.mpr trivial) fun _ => .bind (only_ask.mpr trivial) fun stamp => ?_
  generalize List.range 10000 = ns
  induction ns with
  | nil => exact only_reject
  | cons n ns ih =>
    refine .bind (only_ask.mpr trivial) fun there => ?_
    split_ifs
    · exact ih
    · refine .bind (only_askAs.mpr trivial) fun made => ?_
      split_ifs
      · exact only_pure
      · exact ih

/-- Reading both copies of the GPT changes no file. -/
lemma headers_observes {identity} : (headers identity).Only Op.Observes :=
  .bind only_check fun _ => .bind readExact_observes fun _ => .bind readExact_observes fun _ =>
    .bind only_check fun _ => .bind only_check fun _ => only_pure

/-- Reading the ranges changes no file. -/
lemma readRanges_observes {rs} : (readRanges rs).Only Op.Observes := by
  induction rs with
  | nil => exact only_pure
  | cons r rs ih => exact .bind readBlocks_observes fun _ => .bind ih fun _ => only_pure

/-- Comparing the ranges changes no file. -/
lemma compareDevice_observes {rs} : (compareDevice rs).Only Op.Observes := by
  induction rs with
  | nil => exact only_pure
  | cons r rs ih => exact .bind readDigest_observes fun _ => .bind only_check fun _ => ih

/-- The footer of a backup. -/
lemma appendFooter_saves {p : Path} {m} (h : p.Backup) : (appendFooter p m).Only Op.Saves := by
  refine .bind only_check fun _ => .bind (only_askAs.mpr h) fun _ => ?_
  refine .bind (only_askAs.mpr h) fun _ => .bind (only_askAs.mpr h) fun _ => ?_
  exact .bind only_check fun _ => only_askAs.mpr h

/-- The report comes after the archive is in place, and reads only. -/
lemma report_saves {id} : (report id).Only Op.Saves :=
  .bind (only_askAs.mpr trivial) fun _ => only_pure

/-- A backup is written under its own name and renamed. -/
lemma createBody_saves {X id kind identity caps primary tail rs} :
    (createBody X id kind identity caps primary tail rs).Only Op.Saves := by
  refine .bind (readRanges_observes.mono fun _ h => h.saves) fun _ => ?_
  refine .bind (only_askAs.mpr trivial) fun _ => .bind (only_ask.mpr trivial) fun _ => ?_
  refine .bind (compareDevice_observes.mono fun _ h => h.saves) fun _ => ?_
  refine .bind (only_ask.mpr trivial) fun _ => .bind only_check fun _ => ?_
  refine .bind requireFullRead_saves fun _ => .bind (appendFooter_saves trivial) fun _ => ?_
  refine .bind (only_askAs.mpr trivial) fun _ => .bind only_check fun _ => .bind only_check fun _ => ?_
  exact .bind (only_askAs.mpr ⟨trivial, trivial⟩) fun _ => .bind report_saves fun _ => only_pure

/-- A compressed backup. -/
lemma create_saves {X kind} : (create X kind).Only Op.Saves := by
  refine .bind (only_ask.mpr trivial) fun _ => .bind only_check fun _ => ?_
  refine .bind requireFullRead_saves fun _ => ?_
  refine .bind (headers_observes.mono fun _ h => h.saves) fun _ => .bind only_check fun _ => ?_
  refine .bind reserve_saves fun _ => .bind (only_askAs.mpr trivial) fun _ => ?_
  exact .bind createBody_saves.attempt fun _ => .bind only_check fun _ => only_pure

end Archive

namespace Workflow

/-- A new directory below the backups. -/
lemma newDirectory_saves : newDirectory.Only Op.Saves := by
  refine .bind (only_askAs.mpr trivial) fun _ => .bind (only_ask.mpr trivial) fun stamp => ?_
  generalize List.range 100 = ns
  induction ns with
  | nil => exact only_reject
  | cons n ns ih =>
    refine .bind (only_askAs.mpr trivial) fun made => ?_
    split_ifs
    · exact only_pure
    · exact ih

/-- The blocks of one part go into its file. -/
lemma copyBlocks_saves {p : Path} {lba bs} (h : p.Backup) : (copyBlocks p lba bs).Only Op.Saves := by
  induction bs with
  | nil => exact only_pure
  | cons x bs ih =>
    exact .bind readExact_saves fun _ => .bind (only_askAs.mpr h) fun _ =>
      .bind ih fun _ => only_pure

/-- The parts go into the files of the directory. -/
lemma copyParts_saves {id ps} : (copyParts id ps).Only Op.Saves := by
  induction ps with
  | nil => exact only_pure
  | cons p ps ih =>
    exact .bind (createNew_saves trivial) fun _ => .bind (copyBlocks_saves trivial) fun _ =>
      .bind ih fun _ => only_pure

/-- Reading the parts again changes no file. -/
lemma rereadParts_observes {ps} : (rereadParts ps).Only Op.Observes := by
  induction ps with
  | nil => exact only_pure
  | cons p ps ih => exact .bind readBlocks_observes fun _ => .bind only_check fun _ => ih

/-- Verifying the saved files changes none. -/
lemma verifySaved_observes {id ps} : (verifySaved id ps).Only Op.Observes := by
  induction ps with
  | nil => exact only_pure
  | cons p ps ih => exact .bind (only_askAs.mpr trivial) fun _ => .bind only_check fun _ => ih

/-- A backup directory is filled and then renamed. -/
lemma backupBody_saves {X id device identity caps ps} :
    (backupBody X id device identity caps ps).Only Op.Saves := by
  refine .bind copyParts_saves fun _ => ?_
  refine .bind (rereadParts_observes.mono fun _ h => h.saves) fun _ => ?_
  refine .bind (verifySaved_observes.mono fun _ h => h.saves) fun _ => ?_
  refine .bind (only_ask.mpr trivial) fun _ => .bind only_check fun _ => ?_
  refine .bind (only_askAs.mpr trivial) fun _ => .bind (only_askAs.mpr trivial) fun _ => ?_
  refine .bind only_check fun _ => .bind only_check fun _ => .bind requireFullRead_saves fun _ => ?_
  refine .bind (saveNew_saves trivial) fun _ => .bind (saveNew_saves trivial) fun _ => ?_
  exact .bind (only_askAs.mpr trivial) fun _ => only_askAs.mpr trivial

/-- A backup of the boot area. -/
lemma backup_saves {X device} : (backup X device).Only Op.Saves := by
  refine .bind only_check fun _ => .bind (only_ask.mpr trivial) fun _ => .bind only_check fun _ => ?_
  refine .bind requireFullRead_saves fun _ => .bind only_check fun _ => ?_
  refine .bind newDirectory_saves fun _ => .bind (saveNew_saves trivial) fun _ => ?_
  exact .bind backupBody_saves.attempt fun _ => .bind only_check fun _ => only_pure

end Workflow

namespace Flash

/-- The backup of an execution writes backups only. -/
lemma recoveryBackup_saves {X device op identity current recovery} :
    (recoveryBackup X device op identity current recovery).Only Op.Saves := by
  cases recovery with
  | legacy =>
    exact .bind Workflow.backup_saves fun _ => .bind (only_ask.mpr trivial) fun _ =>
      .bind only_check fun _ => .bind only_check fun _ => only_pure
  | backed id =>
    unfold recoveryBackup
    dsimp only
    split_ifs
    · exact .bind Archive.create_saves fun _ => only_pure
    · exact .bind Archive.create_saves fun _ => only_pure
    · exact .bind only_check fun _ => .bind (only_ask.mpr trivial) fun _ =>
        .bind only_check fun _ => .bind only_check fun _ => only_pure
  | directRestore => exact only_pure
  | skipBackup => exact only_pure

/-- The revision of the source is read. -/
lemma revisionOf_observes {X op source} : (revisionOf X op source).Only Op.Observes := by
  unfold revisionOf
  split
  · exact .bind (only_ask.mpr trivial) fun _ => .bind only_check fun _ => only_pure
  · exact only_pure
  · exact only_pure

/-- The next block of a stream leaves the plans alone. -/
lemma nextBlock_spares {src : Source} {n} : (nextBlock src n).Only Op.Spares := by
  unfold nextBlock
  split_ifs
  · exact only_reject
  · exact only_pure
  · exact .bind (only_askAs.mpr trivial) fun _ => only_pure

/-- The blocks of a segment go to the device. -/
lemma writeBlocks_spares {lba bs src} : (writeBlocks lba bs src).Only Op.Spares := by
  induction bs generalizing src with
  | nil => exact only_pure
  | cons x bs ih =>
    exact .bind nextBlock_spares fun _ => .bind (only_ask.mpr trivial) fun _ =>
      .bind only_check fun _ => .bind ih fun _ => only_pure

/-- One segment. -/
lemma writeSegment_spares {id seg stream} : (writeSegment id seg stream).Only Op.Spares := by
  refine .bind only_check fun _ => .bind (seekImage_observes.mono fun _ h => h.spares) fun _ => ?_
  refine .bind (only_askAs.mpr trivial) fun _ => ?_
  refine .bind writeBlocks_spares fun _ => .bind only_check fun _ => ?_
  refine .bind (readDigest_observes.mono fun _ h => h.spares) fun _ => .bind only_check fun _ => ?_
  exact .bind (only_askAs.mpr trivial) fun _ => only_pure

/-- All segments of a work. -/
lemma writeSegments_spares {id segs stream} : (writeSegments id segs stream).Only Op.Spares := by
  induction segs generalizing stream with
  | nil => exact only_pure
  | cons seg segs ih => exact .bind writeSegment_spares fun _ => ih

/-- A transfer. -/
lemma transfer_spares {X id p identity saved work} :
    (transfer X id p identity saved work).Only Op.Spares := by
  refine .bind (openStream_observes.mono fun _ h => h.spares) fun _ => ?_
  refine .bind writeSegments_spares fun _ => ?_
  refine .bind (capture_observes.mono fun _ h => h.spares) fun _ => ?_
  refine .bind only_check fun _ => .bind only_check fun _ => .bind (only_ask.mpr trivial) fun _ => ?_
  exact .bind only_check fun _ => .bind (only_askAs.mpr trivial) fun _ =>
    .bind (only_askAs.mpr trivial) fun _ => only_pure

end Flash

namespace Files

variable {f f' : Files}

/-- The files of all plans are the same. -/
def Same (f f' : Files) : Prop :=
  ∀ p : Path, p.Planned → f' p = f p

/-- Nothing has happened. -/
lemma same_refl : f.Same f :=
  fun _ _ => rfl

/-- One stretch after another. -/
lemma Same.trans {f'' : Files} (h : f.Same f') (h' : f'.Same f'') : f.Same f'' :=
  fun p hp => (h' p hp).trans (h p hp)

/-- A write elsewhere. -/
lemma same_set {p : Path} {b : Bytes} (h : ¬ p.Planned) : f.Same (f.set p b) :=
  fun _ hq => set_other fun e => h (e ▸ hq)

/-- A removal elsewhere. -/
lemma same_unset {p : Path} (h : ¬ p.Planned) : f.Same (f.unset p) :=
  fun _ hq => unset_other fun e => h (e ▸ hq)

/-- A rename between paths elsewhere. -/
lemma same_move {p q : Path} {b : Bytes} (h : ¬ p.Planned) (h' : ¬ q.Planned) :
    f.Same (f.move p q b) :=
  fun _ hr => move_other (fun e => h (e ▸ hr)) fun e => h' (e ▸ hr)

/-- A backup directory gets its final name. -/
lemma same_moveBackup {id : String} : f.Same (f.moveBackup id) := by
  intro p hp
  cases p with
  | plan dir i => rfl
  | used dir i => rfl
  | _ => exact hp.elim

/-- A file operation on other paths. -/
lemma Step.spares {e : Ev} (h : f.Step e f') (q : e.1.Spares) : f.Same f' := by
  obtain ⟨o, a⟩ := e
  cases o with
  | makeDir p | create p =>
    cases a with
    | error e =>
      obtain rfl | ⟨-, rfl⟩ := h
      · exact same_refl
      · exact same_set q
    | ok made =>
      cases made with
      | true =>
        obtain ⟨-, rfl⟩ := h
        exact same_set q
      | false =>
        obtain ⟨-, rfl⟩ := h
        exact same_refl
  | append p b =>
    cases a with
    | error e =>
      obtain rfl | ⟨c, k, -, rfl⟩ := h
      · exact same_refl
      · exact same_set q
    | ok u =>
      obtain ⟨c, -, rfl⟩ := h
      exact same_set q
  | rename p r =>
    cases a with
    | error e =>
      obtain rfl | ⟨c, -, rfl⟩ := h
      · exact same_refl
      · exact same_move q.1 q.2
    | ok u =>
      obtain ⟨c, -, rfl⟩ := h
      exact same_move q.1 q.2
  | renameBackup id =>
    cases a with
    | error e =>
      obtain rfl | ⟨-, rfl⟩ := h
      · exact same_refl
      · exact same_moveBackup
    | ok u =>
      obtain ⟨-, rfl⟩ := h
      exact same_moveBackup
  | remove p =>
    cases a with
    | error e =>
      obtain rfl | rfl := h
      · exact same_refl
      · exact same_unset q
    | ok u =>
      obtain rfl := h
      exact same_unset q
  | sources | present p | load p =>
    cases a with
    | error e => exact h ▸ same_refl
    | ok v => exact h.1 ▸ same_refl
  | _ => cases a <;> exact h ▸ same_refl

end Files

end K11CHaos.Engine
