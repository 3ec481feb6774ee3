import K11CHaos.Engine.Device

/-!
# Planning does not write

No part of planning writes to the device: the recovery backups, the archive that stands in for them and
the plan itself are files. One lemma for each function, along its own steps.
-/

namespace K11CHaos.Engine

open Prog

/-- A new file, whatever its path. -/
lemma createNew_quiet {code p} : (createNew code p).Only Op.Quiet :=
  .bind (only_askAs.mpr trivial) fun _ => only_check

/-- A new file with its bytes. -/
lemma saveNew_quiet {code p b} : (Workflow.saveNew code p b).Only Op.Quiet :=
  .bind createNew_quiet fun _ => only_askAs.mpr trivial

/-- The question whether the loader reads everything. -/
lemma requireFullRead_quiet : requireFullRead.Only Op.Quiet :=
  requireFullRead_observes.mono fun _ h => h.quiet

/-- One read of the device, retried or not. -/
lemma readExact_quiet {lba len} : (readExact lba len).Only Op.Quiet :=
  readExact_observes.mono fun _ h => h.quiet

/-- Reads of consecutive blocks. -/
lemma readBlocks_quiet {lba bs} : (readBlocks lba bs).Only Op.Quiet :=
  readBlocks_observes.mono fun _ h => h.quiet

namespace Archive

/-- The name of a new archive, tried until one is free. -/
lemma reserve_quiet {kind} : (reserve kind).Only Op.Quiet := by
  refine .bind (only_askAs.mpr trivial) fun _ => .bind (only_ask.mpr trivial) fun stamp => ?_
  generalize List.range 10000 = ns
  induction ns with
  | nil => exact only_reject
  | cons n ns ih =>
    refine .bind (only_ask.mpr trivial) fun there => ?_
    split_ifs
    · exact ih
    · refine .bind (only_askAs.mpr trivial) fun made => ?_
      split_ifs
      · exact only_pure
      · exact ih

/-- Both copies of the GPT. -/
lemma headers_quiet {identity} : (headers identity).Only Op.Quiet :=
  .bind only_check fun _ => .bind readExact_quiet fun _ => .bind readExact_quiet fun _ =>
    .bind only_check fun _ => .bind only_check fun _ => only_pure

/-- The ranges of a backup, read once. -/
lemma readRanges_quiet {rs} : (readRanges rs).Only Op.Quiet := by
  induction rs with
  | nil => exact only_pure
  | cons r rs ih => exact .bind readBlocks_quiet fun _ => .bind ih fun _ => only_pure

/-- The ranges of a backup, read again for comparison. -/
lemma compareDevice_quiet {rs} : (compareDevice rs).Only Op.Quiet := by
  induction rs with
  | nil => exact only_pure
  | cons r rs ih =>
    exact .bind (readDigest_observes.mono fun _ h => h.quiet) fun _ => .bind only_check fun _ => ih

/-- The footer of an archive. -/
lemma appendFooter_quiet {p m} : (appendFooter p m).Only Op.Quiet :=
  .bind only_check fun _ => .bind (only_askAs.mpr trivial) fun _ =>
    .bind (only_askAs.mpr trivial) fun _ => .bind (only_askAs.mpr trivial) fun _ =>
    .bind only_check fun _ => only_askAs.mpr trivial

/-- The report of a new archive. -/
lemma report_quiet {id} : (report id).Only Op.Quiet :=
  .bind (only_askAs.mpr trivial) fun _ => only_pure

/-- A backup between its first read and its rename. -/
lemma createBody_quiet {X id kind identity caps primary tail rs} :
    (createBody X id kind identity caps primary tail rs).Only Op.Quiet :=
  .bind readRanges_quiet fun _ => .bind (only_askAs.mpr trivial) fun _ =>
    .bind (only_ask.mpr trivial) fun _ => .bind compareDevice_quiet fun _ =>
    .bind (only_ask.mpr trivial) fun _ => .bind only_check fun _ =>
    .bind requireFullRead_quiet fun _ => .bind appendFooter_quiet fun _ =>
    .bind (only_askAs.mpr trivial) fun _ => .bind only_check fun _ => .bind only_check fun _ =>
    .bind (only_askAs.mpr trivial) fun _ => .bind report_quiet fun _ => only_pure

/-- A backup from the selection of a device to its report. -/
lemma create_quiet {X kind} : (create X kind).Only Op.Quiet :=
  .bind (only_ask.mpr trivial) fun _ => .bind only_check fun _ =>
    .bind requireFullRead_quiet fun _ => .bind headers_quiet fun _ => .bind only_check fun _ =>
    .bind reserve_quiet fun _ => .bind (only_askAs.mpr trivial) fun _ =>
    .bind createBody_quiet.attempt fun _ => .bind only_check fun _ => only_pure

end Archive

namespace Workflow

/-- A new backup directory. -/
lemma newDirectory_quiet : newDirectory.Only Op.Quiet := by
  refine .bind (only_askAs.mpr trivial) fun _ => .bind (only_ask.mpr trivial) fun stamp => ?_
  generalize List.range 100 = ns
  induction ns with
  | nil => exact only_reject
  | cons n ns ih =>
    refine .bind (only_askAs.mpr trivial) fun made => ?_
    split_ifs
    · exact only_pure
    · exact ih

/-- The blocks of one part of a backup. -/
lemma copyBlocks_quiet {p lba bs} : (copyBlocks p lba bs).Only Op.Quiet := by
  induction bs with
  | nil => exact only_pure
  | cons x bs ih =>
    exact .bind readExact_quiet fun _ => .bind (only_askAs.mpr trivial) fun _ =>
      .bind ih fun _ => only_pure

/-- All parts of a backup. -/
lemma copyParts_quiet {id ps} : (copyParts id ps).Only Op.Quiet := by
  induction ps with
  | nil => exact only_pure
  | cons p ps ih =>
    exact .bind createNew_quiet fun _ => .bind copyBlocks_quiet fun _ => .bind ih fun _ => only_pure

/-- All parts of a backup, read again. -/
lemma rereadParts_quiet {ps} : (rereadParts ps).Only Op.Quiet := by
  induction ps with
  | nil => exact only_pure
  | cons p ps ih => exact .bind readBlocks_quiet fun _ => .bind only_check fun _ => ih

/-- The saved files of a backup. -/
lemma verifySaved_quiet {id ps} : (verifySaved id ps).Only Op.Quiet := by
  induction ps with
  | nil => exact only_pure
  | cons p ps ih => exact .bind (only_askAs.mpr trivial) fun _ => .bind only_check fun _ => ih

/-- A backup directory between its first read and its manifest. -/
lemma backupBody_quiet {X id device identity caps ps} :
    (backupBody X id device identity caps ps).Only Op.Quiet :=
  .bind copyParts_quiet fun _ => .bind rereadParts_quiet fun _ => .bind verifySaved_quiet fun _ =>
    .bind (only_ask.mpr trivial) fun _ => .bind only_check fun _ =>
    .bind (only_askAs.mpr trivial) fun _ => .bind (only_askAs.mpr trivial) fun _ =>
    .bind only_check fun _ => .bind only_check fun _ => .bind requireFullRead_quiet fun _ =>
    .bind saveNew_quiet fun _ => .bind saveNew_quiet fun _ =>
    .bind (only_askAs.mpr trivial) fun _ => only_askAs.mpr trivial

/-- A whole backup directory. -/
lemma backup_quiet {X device} : (backup X device).Only Op.Quiet :=
  .bind only_check fun _ => .bind (only_ask.mpr trivial) fun _ => .bind only_check fun _ =>
    .bind requireFullRead_quiet fun _ => .bind only_check fun _ => .bind newDirectory_quiet fun _ =>
    .bind saveNew_quiet fun _ => .bind backupBody_quiet.attempt fun _ =>
    .bind only_check fun _ => only_pure

end Workflow

namespace Flash

/-- The boot area before and after a transaction. -/
lemma capture_quiet {identity} : (capture identity).Only Op.Quiet :=
  .bind readBlocks_quiet fun _ => .bind readExact_quiet fun _ =>
    .bind only_check fun _ => .bind only_check fun _ => only_pure

/-- A read of a file with a limit. -/
lemma readBounded_quiet {p max} : (readBounded p max).Only Op.Quiet :=
  .bind (only_askAs.mpr trivial) fun _ => .bind only_check fun _ => only_pure

/-- The saving of a plan: files are made, none is written over. -/
lemma savePlan_quiet {p} : (savePlan p).Only Op.Quiet := by
  refine .bind (only_askAs.mpr trivial) fun _ => ?_
  induction hn : 2 ^ 64 - p.attempt.getD 0 using Nat.strongRecOn generalizing p with
  | _ m ih =>
    rw [savePlanFrom]
    refine .bind (only_ask.mpr trivial) fun consumed => ?_
    split_ifs
    · exact ih _ (by rw [Option.getD_some]; omega) rfl
    · exact only_reject
    · refine .bind (only_ask.mpr trivial) fun pending => ?_
      split_ifs
      · exact .bind readBounded_quiet fun _ => .bind only_check fun _ => only_pure
      · exact .bind saveNew_quiet fun _ => only_pure

/-- The backup that an execution takes before its first write. -/
lemma recoveryBackup_quiet {X device op identity current recovery} :
    (recoveryBackup X device op identity current recovery).Only Op.Quiet := by
  cases recovery with
  | legacy =>
    exact .bind Workflow.backup_quiet fun _ => .bind (only_ask.mpr trivial) fun _ =>
      .bind only_check fun _ => .bind only_check fun _ => only_pure
  | backed id =>
    unfold recoveryBackup
    dsimp only
    split_ifs
    · exact .bind Archive.create_quiet fun _ => only_pure
    · exact .bind Archive.create_quiet fun _ => only_pure
    · exact .bind only_check fun _ => .bind (only_ask.mpr trivial) fun _ =>
        .bind only_check fun _ => .bind only_check fun _ => only_pure
  | directRestore => exact only_pure
  | skipBackup => exact only_pure

/-- The revision of the source that a plan records. -/
lemma revisionOf_quiet {X op source} : (revisionOf X op source).Only Op.Quiet := by
  unfold revisionOf
  split
  · exact .bind (only_ask.mpr trivial) fun _ => .bind only_check fun _ => only_pure
  · exact only_pure
  · exact only_pure

/-- Planning leaves the device alone. -/
lemma planInner_quiet {X device op source recovery} :
    (planInner X device op source recovery).Only Op.Quiet := by
  refine .bind only_check fun _ => .bind only_check fun _ => .bind (only_ask.mpr trivial) fun _ => ?_
  refine .bind only_check fun _ => .bind requireFullRead_quiet fun _ => .bind only_check fun _ => ?_
  refine .bind capture_quiet fun _ => .bind (only_ask.mpr trivial) fun _ => ?_
  refine .bind only_check fun work => .bind only_check fun _ => ?_
  split_ifs
  · exact only_pure
  · exact .bind recoveryBackup_quiet fun _ => .bind savePlan_quiet fun _ =>
      .bind revisionOf_quiet fun _ => only_pure

end Flash

end K11CHaos.Engine
