import K11CHaos.Scripts.BootTools

/-!
# The GPT repair of the boot fix

`repair_gpt` of `boot-fix-lib.sh` with the functions that it calls. The checks before and after the one
writing command are the same shell functions, so each has one lemma that says what it yields when it
succeeds: a read is a window of the disk (`readSectors_yields`), a comparison makes two windows equal,
and all of them leave the disk and the saved files alone (`Frame`).

`repairGpt_guarded` puts them together for every prefix of every run: the writing command is asked
only on a disk that is the saved one, and the pass line only on one that differs from it as permitted.
-/

namespace K11CHaos.Scripts.BootFix

open Prog

/-- The constants of the script: the GUID and the geometry of the disk. -/
structure Board where
  guid : String
  sectors : Nat
  first : Nat
  /-- The reserved area begins after the primary GPT. -/
  first_ge : 34 ≤ first
  /-- The backup GPT has its place at the end. -/
  sectors_ge : 33 ≤ sectors

/-- `K11C_TAIL`. -/
def Board.tail (b : Board) : Nat := b.sectors - 33

/-- The constants that the script has. -/
def k11c : Board :=
  ⟨"353A3772-554F-408B-A80B-05747613DEA7", 61071360, 34816, by decide, by decide⟩

/-- `$K11C_BACKUP/read.log`. -/
def readLog : File := .backup "read.log"

/-- `read_sectors`. -/
def readSectors (start count : Nat) (log out : File) : Sh Unit := do
  cmd (.dd .device out 512 start count log)
  check (.hasSize out (512 * count)) "Short disk read"

/-- `check_layout`. -/
def checkLayout (b : Board) (out : File) : Sh Unit := do
  cmd (.sfdiskDump out)
  check (.grep (.line ("label-id: " ++ b.guid)) out)
    "Unexpected disk GUID; wrong disk or changed state"
  check (.awk .layout out)
    "Expected existing eight-partition K11C layout with first LBA 34816"

/-- What `sgdisk --verify` reports for a disk without problems. -/
def noProblems : Pattern := .start "No problems found."

/-- `check_gpt_problem`. -/
def checkGptProblem (out : File) : Sh Unit := do
  cmd (.sgdiskVerify out)
  if ← test (.grep noProblems out) then
    cmd (.echo "GPT_ALREADY_CLEAN")
  else
    if ← test (.grep (.contains "Problem: main header's disk GUID") out) then
      check (.grep (.line "Identified 1 problems!") out)
        "Not the isolated disk-GUID mismatch; no disk write"
    else
      throw (.fail "Not the isolated disk-GUID mismatch; no disk write")

/-- `check_gpt_pair "$K11C_BACKUP/pair"`. -/
def checkGptPair (b : Board) : Sh Unit := do
  readSectors 0 34 readLog (.backup "pair.primary")
  readSectors b.tail 33 readLog (.backup "pair.backup")
  cmd (.dd (.backup "pair.primary") (.backup "pair.guid-primary") 1 568 16 readLog)
  cmd (.dd (.backup "pair.backup") (.backup "pair.guid-backup") 1 16440 16 readLog)
  check (.cmp (.backup "pair.guid-primary") (.backup "pair.guid-backup"))
    "On-disk GPT GUIDs differ"
  cmd (.dd (.backup "pair.primary") (.backup "pair.entries-primary") 512 2 32 readLog)
  cmd (.dd (.backup "pair.backup") (.backup "pair.entries-backup") 512 0 32 readLog)
  check (.cmp (.backup "pair.entries-primary") (.backup "pair.entries-backup"))
    "On-disk GPT partition arrays differ"

/-- `verify_gpt_clean`. -/
def verifyGptClean (b : Board) : Sh Unit := do
  cmd (.sgdiskVerify (.backup "verify.after"))
  cmd (.cat (.backup "verify.after"))
  check (.grep noProblems (.backup "verify.after")) "GPT verification not clean"
  checkGptPair b

/-- `check_backup`. -/
def checkBackup (b : Board) : Sh Unit := do
  check .isBackupDir "Backup directory not found"
  check .sha256sumC "Backup checksum failure"
  checkLayout b (.backup "partitions.current")
  check (.cmp (.backup "partitions.before") (.backup "partitions.current"))
    "Partition layout changed since backup"
  readSectors 0 34 readLog (.backup "primary.current")
  check (.cmp (.backup "gpt-primary.bin") (.backup "primary.current")) "Primary GPT/MBR changed"
  readSectors 34 (b.first - 34) readLog (.backup "reserved.current")
  check (.cmp (.backup "uboot-reserved.bin") (.backup "reserved.current"))
    "U-Boot/reserved bytes changed"

/-- The slices of the secondary header that may not change: an offset and a length. -/
def headerSlices : List (Nat × Nat) := [(0, 16), (20, 36), (72, 440)]

/-- The loop over the slices. -/
def checkHeader (b : Board) : List (Nat × Nat) → Sh Unit
  | [] => return ()
  | (off, len) :: slices => do
    cmd (.dd (.backup "gpt-backup.bin") (.backup "header.before") 1 (16384 + off) len readLog)
    cmd (.dd .device (.backup "header.after") 1 ((b.sectors - 1) * 512 + off) len readLog)
    check (.cmp (.backup "header.before") (.backup "header.after"))
      "Unexpected secondary GPT header change"
    checkHeader b slices

/-- The line of a repair that passed. -/
def passLine : String := "K11C_GPT_PASS primary_and_partitions_unchanged=1 uboot_unchanged=1"

/-- The checks of `repair_gpt` before its writing command. -/
def beforeRepair (b : Board) : Sh Unit := do
  readSectors b.tail 33 readLog (.backup "secondary.current")
  check (.cmp (.backup "gpt-backup.bin") (.backup "secondary.current"))
    "Backup GPT changed since backup"
  cmd (.dd (.backup "gpt-primary.bin") (.backup "entries.primary") 512 2 32 readLog)
  cmd (.dd (.backup "secondary.current") (.backup "entries.secondary") 512 0 32 readLog)
  check (.cmp (.backup "entries.primary") (.backup "entries.secondary"))
    "Partition arrays differ; not a GUID-only repair"

/-- The checks of `repair_gpt` after its writing command. -/
def afterRepair (b : Board) : Sh Unit := do
  checkBackup b
  readSectors b.tail 32 readLog (.backup "entries.after")
  cmd (.dd (.backup "gpt-backup.bin") (.backup "entries.before") 512 0 32 readLog)
  check (.cmp (.backup "entries.before") (.backup "entries.after"))
    "Backup partition entries changed"
  checkHeader b headerSlices
  verifyGptClean b

/-- `repair_gpt`. -/
def repairGpt (b : Board) : Sh Unit := do
  checkBackup b
  checkGptProblem (.backup "verify.current")
  if ← test (.grep noProblems (.backup "verify.current")) then
    verifyGptClean b
    cmd (.echo "K11C_GPT_PASS already_clean=1 writes=0")
  else
    beforeRepair b
    cmd (.echo "Updating only GPT metadata using the existing primary disk GUID.")
    if ← test (.sgdiskGuid b.guid (.backup "repair.log")) then
      cmd .sync
      afterRepair b
      cmd (.echo passLine)
    else
      cmd (.cat (.backup "repair.log"))
      throw (.fail "GPT utility failed; keep backups and send the log; no automatic rollback")

/-- The files that the repair writes beside the disk. -/
def scratch : List File :=
  [readLog, .backup "pair.primary", .backup "pair.backup", .backup "pair.guid-primary",
    .backup "pair.guid-backup", .backup "pair.entries-primary", .backup "pair.entries-backup",
    .backup "verify.after", .backup "verify.current", .backup "partitions.current",
    .backup "primary.current", .backup "reserved.current", .backup "secondary.current",
    .backup "entries.primary", .backup "entries.secondary", .backup "entries.after",
    .backup "entries.before", .backup "header.before", .backup "header.after",
    .backup "repair.log"]

/-- The files that `check_gpt_pair` writes. -/
def pairScratch : List File :=
  [readLog, .backup "pair.primary", .backup "pair.backup", .backup "pair.guid-primary",
    .backup "pair.guid-backup", .backup "pair.entries-primary", .backup "pair.entries-backup"]

section Parts

variable {blank : UInt8 → Bool} {w : World}

/-- A read that succeeds: the window of the disk in full length. -/
lemma readSectors_yields {start count : Nat} {out : File} :
    Yields (Step blank) (readSectors start count readLog out) w fun _ _ w' =>
      Frame [readLog, out] w w' ∧ ∃ disk, w .device = some disk ∧
        w' out = some (slice disk (512 * start) (512 * count)) ∧
        (slice disk (512 * start) (512 * count)).length = 512 * count := by
  unfold readSectors
  apply yields_cmd_bind
  rintro w1 ⟨l, x, rfl, ok⟩
  obtain ⟨disk, dev, rfl⟩ := ok rfl
  apply yields_check
  rintro w2 ⟨rfl, ok⟩
  obtain ⟨b, read, len⟩ := ok rfl
  rw [Function.update_self] at read
  cases read
  exact ⟨(Frame.refl.update (by simp)).update (by simp), disk, dev, Function.update_self .., len⟩

/-- A copy of a window that succeeds. -/
lemma dd_yields {α : Type} {src out : File} {bs skip count : Nat} {f : Unit → Sh α}
    {Q : List Call → α → World → Prop}
    (h : ∀ w' b, Frame [readLog, out] w w' → w src = some b →
      w' out = some (slice b (bs * skip) (bs * count)) →
      Yields (Step blank) (f ()) w' fun t => Q (⟨.dd src out bs skip count readLog, true⟩ :: t)) :
    Yields (Step blank) (cmd (.dd src out bs skip count readLog) >>= f) w Q := by
  apply yields_cmd_bind
  rintro w1 ⟨l, x, rfl, ok⟩
  obtain ⟨b, read, rfl⟩ := ok rfl
  exact h _ b ((Frame.refl.update (by simp)).update (by simp)) read (Function.update_self ..)

/-- The layout check that passes. -/
lemma checkLayout_yields {b : Board} {out : File} :
    Yields (Step blank) (checkLayout b out) w fun t _ w' =>
      Frame [out] w w' ∧ ⟨.sfdiskDump out, true⟩ ∈ t ∧ ∃ dump, w' out = some dump ∧
        (Pattern.line ("label-id: " ++ b.guid)).matches dump = true ∧
        Awk.layout.accepts blank dump = true := by
  unfold checkLayout
  apply yields_cmd_bind
  rintro w1 ⟨x, rfl⟩
  apply yields_check_bind
  rintro w2 ⟨rfl, ok⟩
  obtain ⟨dump, read, label⟩ := ok rfl
  apply yields_check
  rintro w3 ⟨rfl, ok⟩
  obtain ⟨dump', read', layout⟩ := ok rfl
  cases read.symm.trans read'
  exact ⟨Frame.refl.update (by simp), List.mem_cons_self, dump, read, label, layout⟩

/-- What `check_backup` finds: the saved layout is the one of the board, and the primary GPT and the
    reserved area of the disk are the saved ones. -/
structure Backed (blank : UInt8 → Bool) (b : Board) (w : World) (disk : Bytes) : Prop where
  layout : ∃ dump, w (.backup "partitions.before") = some dump ∧
    (Pattern.line ("label-id: " ++ b.guid)).matches dump = true ∧
    Awk.layout.accepts blank dump = true
  primary : w (.backup "gpt-primary.bin") = some (slice disk 0 (512 * 34))
  reserved : w (.backup "uboot-reserved.bin") =
    some (slice disk (512 * 34) (512 * (b.first - 34)))
  long : (slice disk 0 (512 * 34)).length = 512 * 34

/-- The calls of a `check_backup` that passed: the checksums matched, and the current layout was
    dumped and is the saved one. -/
structure Checked (t : List Call) : Prop where
  sums : ⟨.sha256sumC, true⟩ ∈ t
  dumped : ⟨.sfdiskDump (.backup "partitions.current"), true⟩ ∈ t
  same : ⟨.cmp (.backup "partitions.before") (.backup "partitions.current"), true⟩ ∈ t

/-- Checks stay made when more is done. -/
lemma Checked.append {t u : List Call} (h : Checked t) : Checked (t ++ u) where
  sums := List.mem_append_left _ h.sums
  dumped := List.mem_append_left _ h.dumped
  same := List.mem_append_left _ h.same

/-- `check_backup` that passes. -/
lemma checkBackup_yields {b : Board} :
    Yields (Step blank) (checkBackup b) w fun t _ w' =>
      Frame scratch w w' ∧ Checked t ∧ ∃ disk, w .device = some disk ∧ Backed blank b w disk := by
  unfold checkBackup
  apply yields_check_bind
  rintro w1 rfl
  apply yields_check_bind
  rintro w2 rfl
  apply (checkLayout_yields).bind
  rintro t1 _ w3 ⟨frame3, dumped, dump, read, label, layout⟩
  apply yields_check_bind
  rintro w4 ⟨rfl, ok⟩
  obtain ⟨saved, before, current⟩ := ok rfl
  cases read.symm.trans current
  apply readSectors_yields.bind
  rintro t2 _ w5 ⟨frame5, disk, dev, primary, long⟩
  apply yields_check_bind
  rintro w6 ⟨rfl, ok⟩
  obtain ⟨saved1, before1, current1⟩ := ok rfl
  cases primary.symm.trans current1
  apply readSectors_yields.bind
  rintro t3 _ w7 ⟨frame7, disk', dev', reserved, _⟩
  apply yields_check
  rintro w8 ⟨rfl, ok⟩
  obtain ⟨saved2, before2, current2⟩ := ok rfl
  cases reserved.symm.trans current2
  obtain rfl : disk = disk' := by
    have := (frame5.read dev' (by decide)).symm.trans dev
    exact (Option.some.inj this).symm
  have frame3 : Frame scratch _ _ := frame3.mono (by decide)
  have frame5 : Frame scratch _ _ := frame5.mono (by decide)
  have frame7 : Frame scratch _ _ := frame7.mono (by decide)
  refine ⟨frame3.trans (frame5.trans frame7), ⟨?_, ?_, ?_⟩, disk, frame3.read dev (by decide),
    ⟨⟨dump, frame3.read before (by decide), label, layout⟩, ?_, ?_, long⟩⟩
  · simp
  · simp [dumped]
  · simp
  · exact (frame3.trans frame5).read before1 (by decide)
  · exact (frame3.trans (frame5.trans frame7)).read before2 (by decide)

/-- `check_gpt_problem` that passes. -/
lemma checkGptProblem_yields {out : File}
    (mem : out ∈ scratch) :
    Yields (Step blank) (checkGptProblem out) w fun _ _ w' => Frame scratch w w' := by
  unfold checkGptProblem
  apply yields_cmd_bind
  rintro w1 ⟨x, rfl⟩
  have frame : Frame scratch w (Function.update w out x) := Frame.refl.update mem
  apply yields_test_bind
  rintro clean w2 ⟨rfl, _⟩
  cases clean with
  | true =>
    apply yields_cmd
    rintro w3 rfl
    exact frame
  | false =>
    apply yields_test_bind
    rintro guid w3 ⟨rfl, _⟩
    cases guid with
    | true =>
      apply yields_check
      rintro w4 ⟨rfl, _⟩
      exact frame
    | false => exact yields_throw

/-- What the final comparison of the two GPT copies finds on the disk. -/
structure Paired (b : Board) (disk : Bytes) : Prop where
  long : (slice disk (512 * b.tail) (512 * 33)).length = 512 * 33
  guids : slice disk 568 16 = slice disk (512 * b.tail + 16440) 16
  entries : slice disk 1024 (512 * 32) = slice disk (512 * b.tail) (512 * 32)

/-- `check_gpt_pair` that passes. -/
lemma checkGptPair_yields {b : Board} :
    Yields (Step blank) (checkGptPair b) w fun _ _ w' =>
      Frame pairScratch w w' ∧ ∃ disk, w .device = some disk ∧ Paired b disk := by
  unfold checkGptPair
  apply readSectors_yields.bind
  rintro t1 _ w1 ⟨frame1, disk, dev, primary, _⟩
  apply readSectors_yields.bind
  rintro t2 _ w2 ⟨frame2, disk', dev', backup, long⟩
  obtain rfl : disk = disk' := by
    have := (frame1.read dev' (by decide)).symm.trans dev
    exact (Option.some.inj this).symm
  replace primary := frame2.still primary (by decide)
  apply dd_yields
  rintro w3 b1 frame3 read1 guid1
  cases read1.symm.trans primary
  replace backup := frame3.still backup (by decide)
  replace primary := frame3.still primary (by decide)
  apply dd_yields
  rintro w4 b2 frame4 read2 guid2
  cases read2.symm.trans backup
  replace backup := frame4.still backup (by decide)
  replace primary := frame4.still primary (by decide)
  replace guid1 := frame4.still guid1 (by decide)
  apply yields_check_bind
  rintro w5 ⟨rfl, ok⟩
  obtain ⟨guid, same1, same2⟩ := ok rfl
  apply dd_yields
  rintro w6 b3 frame6 read3 entries1
  cases read3.symm.trans primary
  replace backup := frame6.still backup (by decide)
  apply dd_yields
  rintro w7 b4 frame7 read4 entries2
  cases read4.symm.trans backup
  replace entries1 := frame7.still entries1 (by decide)
  apply yields_check
  rintro w8 ⟨rfl, ok⟩
  obtain ⟨entries, same3, same4⟩ := ok rfl
  have frame1 : Frame pairScratch _ _ := frame1.mono (by decide)
  have frame2 : Frame pairScratch _ _ := frame2.mono (by decide)
  have frame3 : Frame pairScratch _ _ := frame3.mono (by decide)
  have frame4 : Frame pairScratch _ _ := frame4.mono (by decide)
  have frame6 : Frame pairScratch _ _ := frame6.mono (by decide)
  have frame7 : Frame pairScratch _ _ := frame7.mono (by decide)
  refine ⟨frame1.trans (frame2.trans (frame3.trans (frame4.trans (frame6.trans frame7)))), disk, dev,
    long, ?_, ?_⟩
  · have eq := (guid1.symm.trans same1).trans (same2.symm.trans guid2)
    have eq := Option.some.inj eq
    rw [slice_slice (by decide), slice_slice (by decide)] at eq
    simpa using eq
  · have eq := (entries1.symm.trans same3).trans (same4.symm.trans entries2)
    have eq := Option.some.inj eq
    rw [slice_slice (by decide), slice_slice (by decide)] at eq
    simpa using eq

/-- The report of the last verification, which a command of the trace wrote after any repair. -/
structure Verified (t : List Call) (w : World) : Prop where
  report : ∃ report, w (.backup "verify.after") = some report ∧ noProblems.matches report = true
  last : ∃ t1 t2, t = t1 ++ ⟨.sgdiskVerify (.backup "verify.after"), true⟩ :: t2 ∧
    ∀ guid out ok, ⟨.sgdiskGuid guid out, ok⟩ ∉ t2

/-- What was verified last counts, whatever came before. -/
lemma Verified.append {t u : List Call} {w : World} (h : Verified u w) : Verified (t ++ u) w := by
  obtain ⟨t1, t2, rfl, none⟩ := h.last
  exact ⟨h.report, t ++ t1, t2, (List.append_assoc ..).symm, none⟩

/-- One more call before the verification. -/
lemma Verified.cons {c : Call} {t : List Call} {w : World} (h : Verified t w) :
    Verified (c :: t) w := by
  obtain ⟨t1, t2, rfl, none⟩ := h.last
  exact ⟨h.report, c :: t1, t2, rfl, none⟩

/-- The command neither writes to the disk nor prints that the repair passed. -/
def Plain (o : Op) : Prop := (∀ guid out, o ≠ .sgdiskGuid guid out) ∧ o ≠ .echo passLine

/-- Reading sectors writes scratch files only. -/
lemma readSectors_plain {start count log out} : (readSectors start count log out).Only Plain :=
  (only_cmd ⟨nofun, nofun⟩).bind fun _ => only_check ⟨nofun, nofun⟩

/-- The comparison of the pair writes scratch files only. -/
lemma checkGptPair_plain {b : Board} : (checkGptPair b).Only Plain := by
  refine readSectors_plain.bind fun _ => readSectors_plain.bind fun _ => ?_
  refine (only_cmd ⟨nofun, nofun⟩).bind fun _ => (only_cmd ⟨nofun, nofun⟩).bind fun _ => ?_
  refine (only_check ⟨nofun, nofun⟩).bind fun _ => (only_cmd ⟨nofun, nofun⟩).bind fun _ => ?_
  exact (only_cmd ⟨nofun, nofun⟩).bind fun _ => only_check ⟨nofun, nofun⟩

/-- The verification writes scratch files only. -/
lemma verifyGptClean_plain {b : Board} : (verifyGptClean b).Only Plain := by
  refine (only_cmd ⟨nofun, nofun⟩).bind fun _ => (only_cmd ⟨nofun, nofun⟩).bind fun _ => ?_
  exact (only_check ⟨nofun, nofun⟩).bind fun _ => checkGptPair_plain

/-- The layout is read. -/
lemma checkLayout_plain {b : Board} {out} : (checkLayout b out).Only Plain := by
  refine (only_cmd ⟨nofun, nofun⟩).bind fun _ => (only_check ⟨nofun, nofun⟩).bind fun _ => ?_
  exact only_check ⟨nofun, nofun⟩

/-- The backup files are compared. -/
lemma checkBackup_plain {b : Board} : (checkBackup b).Only Plain := by
  refine (only_check ⟨nofun, nofun⟩).bind fun _ => (only_check ⟨nofun, nofun⟩).bind fun _ => ?_
  refine checkLayout_plain.bind fun _ => (only_check ⟨nofun, nofun⟩).bind fun _ => ?_
  refine readSectors_plain.bind fun _ => (only_check ⟨nofun, nofun⟩).bind fun _ => ?_
  exact readSectors_plain.bind fun _ => only_check ⟨nofun, nofun⟩

/-- The verdict of `sgdisk` is asked for. -/
lemma checkGptProblem_plain {out} : (checkGptProblem out).Only Plain := by
  refine (only_cmd ⟨nofun, nofun⟩).bind fun _ => (only_test ⟨nofun, nofun⟩).bind fun clean => ?_
  cases clean with
  | true => exact only_cmd ⟨nofun, by decide⟩
  | false =>
    refine (only_test ⟨nofun, nofun⟩).bind fun guid => ?_
    cases guid with
    | true => exact only_check ⟨nofun, nofun⟩
    | false => exact only_throw

/-- The headers are read. -/
lemma checkHeader_plain {b : Board} {slices} : (checkHeader b slices).Only Plain := by
  induction slices with
  | nil => exact only_pure
  | cons s slices ih =>
    refine (only_cmd ⟨nofun, nofun⟩).bind fun _ => (only_cmd ⟨nofun, nofun⟩).bind fun _ => ?_
    exact (only_check ⟨nofun, nofun⟩).bind fun _ => ih

/-- Before the repair nothing but scratch files changes. -/
lemma beforeRepair_plain {b : Board} : (beforeRepair b).Only Plain := by
  refine readSectors_plain.bind fun _ => (only_check ⟨nofun, nofun⟩).bind fun _ => ?_
  refine (only_cmd ⟨nofun, nofun⟩).bind fun _ => (only_cmd ⟨nofun, nofun⟩).bind fun _ => ?_
  exact only_check ⟨nofun, nofun⟩

/-- After the repair nothing but scratch files changes. -/
lemma afterRepair_plain {b : Board} : (afterRepair b).Only Plain := by
  refine checkBackup_plain.bind fun _ => readSectors_plain.bind fun _ => ?_
  refine (only_cmd ⟨nofun, nofun⟩).bind fun _ => (only_check ⟨nofun, nofun⟩).bind fun _ => ?_
  exact checkHeader_plain.bind fun _ => verifyGptClean_plain

/-- `verify_gpt_clean` that passes. -/
lemma verifyGptClean_yields {b : Board} :
    Yields (Step blank) (verifyGptClean b) w fun t _ w' =>
      Frame scratch w w' ∧ Verified t w' ∧ ∃ disk, w .device = some disk ∧ Paired b disk := by
  unfold verifyGptClean
  apply yields_cmd_bind
  rintro w1 ⟨x, rfl⟩
  apply yields_cmd_bind
  rintro w2 rfl
  apply yields_check_bind
  rintro w3 ⟨rfl, ok⟩
  obtain ⟨report, read, clean⟩ := ok rfl
  apply (checkGptPair_yields.and checkGptPair_plain.yields).mono
  rintro t _ w4 ⟨⟨frame, disk, dev, paired⟩, plain⟩
  refine ⟨?_, ⟨⟨report, frame.still read (by decide), clean⟩, [], _, rfl, ?_⟩, disk, ?_, paired⟩
  · exact (Frame.refl.update (by decide)).trans (frame.mono (by decide))
  · intro guid out ok mem
    have mem : ⟨.sgdiskGuid guid out, ok⟩ ∈ t := by simpa using mem
    exact (plain _ mem).1 guid out rfl
  · rwa [Function.update_of_ne (by decide)] at dev

/-- The checks before the writing command: the tail of the disk is the saved one, and the two entry
    arrays agree. -/
lemma beforeRepair_yields {b : Board} :
    Yields (Step blank) (beforeRepair b) w fun _ _ w' =>
      Frame scratch w w' ∧ ∃ disk primary, w .device = some disk ∧
        w (.backup "gpt-backup.bin") = some (slice disk (512 * b.tail) (512 * 33)) ∧
        w (.backup "gpt-primary.bin") = some primary ∧
        slice primary 1024 (512 * 32) = slice disk (512 * b.tail) (512 * 32) := by
  unfold beforeRepair
  apply readSectors_yields.bind
  rintro t1 _ w1 ⟨frame1, disk, dev, tail, _⟩
  apply yields_check_bind
  rintro w2 ⟨rfl, ok⟩
  obtain ⟨saved, before, current⟩ := ok rfl
  cases tail.symm.trans current
  apply dd_yields
  rintro w3 primary frame3 read3 entries1
  replace tail := frame3.still tail (by decide)
  apply dd_yields
  rintro w4 b4 frame4 read4 entries2
  cases read4.symm.trans tail
  replace entries1 := frame4.still entries1 (by decide)
  apply yields_check
  rintro w5 ⟨rfl, ok⟩
  obtain ⟨entries, same1, same2⟩ := ok rfl
  have frame1 : Frame scratch _ _ := frame1.mono (by decide)
  have frame3 : Frame scratch _ _ := frame3.mono (by decide)
  have frame4 : Frame scratch _ _ := frame4.mono (by decide)
  refine ⟨frame1.trans (frame3.trans frame4), disk, primary, dev, frame1.read before (by decide),
    frame1.read read3 (by decide), ?_⟩
  have eq := Option.some.inj ((entries1.symm.trans same1).trans (same2.symm.trans entries2))
  rw [slice_slice (by decide)] at eq
  simpa using eq

/-- The loop over the header slices that passes. -/
lemma checkHeader_yields {b : Board} {slices} {saved disk : Bytes}
    (back : w (.backup "gpt-backup.bin") = some saved)
    (dev : w .device = some disk) :
    Yields (Step blank) (checkHeader b slices) w fun _ _ w' =>
      Frame scratch w w' ∧ ∀ s ∈ slices,
        slice saved (16384 + s.1) s.2 = slice disk ((b.sectors - 1) * 512 + s.1) s.2 := by
  induction slices generalizing w with
  | nil => exact yields_pure ⟨Frame.refl, nofun⟩
  | cons s slices ih =>
    unfold checkHeader
    apply dd_yields
    rintro w1 b1 frame1 read1 before
    cases read1.symm.trans back
    apply dd_yields
    rintro w2 b2 frame2 read2 after
    cases read2.symm.trans (frame1.still dev (by decide))
    replace before := frame2.still before (by decide)
    apply yields_check_bind
    rintro w3 ⟨rfl, ok⟩
    obtain ⟨header, same1, same2⟩ := ok rfl
    have back' := frame2.still (frame1.still back (by decide)) (by decide)
    have dev' := frame2.still (frame1.still dev (by decide)) (by decide)
    have frame1 : Frame scratch _ _ := frame1.mono (by decide)
    have frame2 : Frame scratch _ _ := frame2.mono (by decide)
    apply (ih back' dev').mono
    rintro t _ w4 ⟨frame, rest⟩
    refine ⟨frame1.trans (frame2.trans frame), List.forall_mem_cons.mpr ⟨?_, rest⟩⟩
    have eq := Option.some.inj ((before.symm.trans same1).trans (same2.symm.trans after))
    simpa using eq

/-- The disk differs from the saved state as a repair may: the low sectors and the entries of the
    tail are the saved ones, the backup header has the saved bytes but for its CRC and its disk GUID,
    and the two GPT copies agree. -/
structure Minimal (b : Board) (primary reserved backup disk : Bytes) : Prop where
  low : slice disk 0 (512 * b.first) = primary ++ reserved
  entries : slice disk (512 * b.tail) (512 * 32) = slice backup 0 (512 * 32)
  header : ∀ i < 512, ¬ (16 ≤ i ∧ i < 20) → ¬ (56 ≤ i ∧ i < 72) →
    disk[(b.sectors - 1) * 512 + i]? = backup[512 * 32 + i]?
  pair : Paired b disk

/-- Bytes outside the CRC and the disk GUID are covered by the slices. -/
lemma header_of_slices {b : Board} {saved disk : Bytes} {i : Nat}
    (same : ∀ s ∈ headerSlices,
      slice saved (16384 + s.1) s.2 = slice disk ((b.sectors - 1) * 512 + s.1) s.2)
    (lt : i < 512)
    (crc : ¬ (16 ≤ i ∧ i < 20))
    (guid : ¬ (56 ≤ i ∧ i < 72)) :
    disk[(b.sectors - 1) * 512 + i]? = saved[512 * 32 + i]? := by
  have inside (off len) (mem : (off, len) ∈ headerSlices) (ge : off ≤ i) (le : i < off + len) :
      disk[(b.sectors - 1) * 512 + i]? = saved[512 * 32 + i]? := by
    have eq := congrArg (·[i - off]?) (same _ mem)
    simp only [getElem?_slice] at eq
    rw [if_pos (by omega), if_pos (by omega)] at eq
    have i1 : 16384 + off + (i - off) = 512 * 32 + i := by omega
    have i2 : (b.sectors - 1) * 512 + off + (i - off) = (b.sectors - 1) * 512 + i := by omega
    rw [i1, i2] at eq
    exact eq.symm
  by_cases h1 : i < 16
  · exact inside 0 16 (by decide) (by omega) (by omega)
  · by_cases h2 : i < 56
    · exact inside 20 36 (by decide) (by omega) (by omega)
    · exact inside 72 440 (by decide) (by omega) (by omega)

/-- The checks after the writing command. -/
lemma afterRepair_yields {b : Board} :
    Yields (Step blank) (afterRepair b) w fun t _ w' =>
      Frame scratch w w' ∧ Verified t w' ∧ ∃ disk primary reserved backup, w .device = some disk ∧
        w (.backup "gpt-primary.bin") = some primary ∧
        w (.backup "uboot-reserved.bin") = some reserved ∧
        w (.backup "gpt-backup.bin") = some backup ∧ Minimal b primary reserved backup disk := by
  unfold afterRepair
  apply checkBackup_yields.bind
  rintro t1 _ w1 ⟨frame1, _, disk, dev, backed⟩
  have dev1 := frame1.still dev (by decide)
  apply readSectors_yields.bind
  rintro t2 _ w2 ⟨frame2, disk2, read2, entries1, _⟩
  cases read2.symm.trans dev1
  have dev2 := frame2.still dev1 (by decide)
  apply dd_yields
  rintro w3 backup frame3 read3 entries2
  replace entries1 := frame3.still entries1 (by decide)
  have dev3 := frame3.still dev2 (by decide)
  apply yields_check_bind
  rintro w4 ⟨rfl, ok⟩
  obtain ⟨entries, same1, same2⟩ := ok rfl
  apply (checkHeader_yields (frame3.still read3 (by decide)) dev3).bind
  rintro t5 _ w5 ⟨frame5, header⟩
  apply verifyGptClean_yields.mono
  rintro t6 _ w6 ⟨frame6, verified, disk6, read6, paired⟩
  cases read6.symm.trans (frame5.still dev3 (by decide))
  have frame2 : Frame scratch _ _ := frame2.mono (by decide)
  have frame3 : Frame scratch _ _ := frame3.mono (by decide)
  have saved := (frame1.trans frame2).read read3 (by decide)
  refine ⟨frame1.trans (frame2.trans (frame3.trans (frame5.trans frame6))), ?_, disk, _, _, backup,
    dev, backed.primary, backed.reserved, saved, ?_, ?_, ?_, paired⟩
  · exact .append (.append (.cons (.cons (.append verified))))
  · have whole : 512 * b.first = 512 * 34 + 512 * (b.first - 34) := by
      rw [← Nat.mul_add, Nat.add_sub_cancel' b.first_ge]
    rw [whole, ← slice_append_slice, Nat.zero_add]
  · have eq := Option.some.inj ((entries1.symm.trans same2).trans (same1.symm.trans entries2))
    simpa using eq
  · exact fun i lt crc guid => header_of_slices header lt crc guid

/-- What holds when the writing command is asked for: the checks of the backup ran and passed, and the
    low sectors, the tail and both entry arrays of the disk are the saved ones. -/
structure Matched (blank : UInt8 → Bool) (b : Board) (w0 w : World) (t : List Call) : Prop where
  checked : Checked t
  disk : ∃ disk, w .device = some disk ∧ Backed blank b w0 disk ∧
    w0 (.backup "gpt-backup.bin") = some (slice disk (512 * b.tail) (512 * 33)) ∧
    slice disk 1024 (512 * 32) = slice disk (512 * b.tail) (512 * 32)

/-- What holds when the pass line is printed: the last verification reported no problems, and the disk
    differs from the saved state as a repair may. -/
structure Passed (b : Board) (w0 w : World) (t : List Call) : Prop where
  verified : Verified t w
  disk : ∃ disk primary reserved backup, w .device = some disk ∧
    w0 (.backup "gpt-primary.bin") = some primary ∧
    w0 (.backup "uboot-reserved.bin") = some reserved ∧
    w0 (.backup "gpt-backup.bin") = some backup ∧ Minimal b primary reserved backup disk

/-- The guard of a command: the two that matter may be asked in their states only. -/
def Guard (blank : UInt8 → Bool) (b : Board) (w0 : World) (t : List Call) (w : World) (o : Op) :
    Prop :=
  (∀ guid out, o = .sgdiskGuid guid out → Matched blank b w0 w t) ∧
    (o = .echo passLine → Passed b w0 w t)

/-- The other commands are not guarded. -/
lemma Plain.guard {b : Board} {w0 : World} {o : Op} (plain : Plain o) :
    ∀ t w, Guard blank b w0 t w o :=
  fun _ _ => ⟨fun guid out eq => absurd eq (plain.1 guid out), fun eq => absurd eq plain.2⟩

/-- A part without a guarded command. -/
lemma plain_guards {α : Type} {b : Board} {w0 : World} {m : Sh α} {t}
    (plain : m.Only Plain) : Guards (Step blank) (Guard blank b w0) m t w :=
  Only.guards (plain.mono fun _ h => h.guard)

/-- The guard of the writing command, after the checks on the way to it. -/
lemma matched_of_checks {b : Board} {w0 w1 w2 w3 : World} {disk disk' primary : Bytes} {t u}
    (frame1 : Frame scratch w0 w1)
    (frame2 : Frame scratch w1 w2)
    (frame3 : Frame scratch w2 w3)
    (checked : Checked t)
    (dev : w0 .device = some disk)
    (backed : Backed blank b w0 disk)
    (dev' : w2 .device = some disk')
    (tail : w2 (.backup "gpt-backup.bin") = some (slice disk' (512 * b.tail) (512 * 33)))
    (saved : w2 (.backup "gpt-primary.bin") = some primary)
    (entries : slice primary 1024 (512 * 32) = slice disk' (512 * b.tail) (512 * 32)) :
    Matched blank b w0 w3 (t ++ u) := by
  have frame := frame1.trans frame2
  cases (frame.read dev' (by decide)).symm.trans dev
  cases (frame.read saved (by decide)).symm.trans backed.primary
  refine ⟨checked.append, disk, (frame.trans frame3).still dev (by decide), backed,
    frame.read tail (by decide), ?_⟩
  rw [slice_slice (by decide)] at entries
  simpa using entries

/-- The guards of the part from the writing command on. -/
lemma write_guards {b : Board} {w0 : World} {t : List Call}
    (frame : Frame scratch w0 w)
    (matched : Matched blank b w0 w t) :
    Guards (Step blank) (Guard blank b w0)
      (do
        if ← test (.sgdiskGuid b.guid (.backup "repair.log")) then
          cmd .sync
          afterRepair b
          cmd (.echo passLine)
        else
          cmd (.cat (.backup "repair.log"))
          throw (.fail "GPT utility failed; keep backups and send the log; no automatic rollback"))
      t w := by
  apply guards_test_bind ⟨fun _ _ _ => matched, nofun⟩
  intro ok w1 st
  have writes : ∀ f ∈ [.backup "repair.log", .device], f ∈ File.device :: scratch := by decide
  have frame1 : Frame (.device :: scratch) w0 w1 :=
    (frame.mono (by decide)).trans ((step_frame st).mono writes)
  cases ok with
  | false =>
    apply guards_cmd_bind ⟨nofun, nofun⟩
    intro w2 _
    trivial
  | true =>
    apply guards_cmd_bind ⟨nofun, nofun⟩
    rintro w2 rfl
    apply (plain_guards afterRepair_plain).bind afterRepair_yields
    rintro t3 _ w3 ⟨frame3, verified, disk, primary, reserved, backup, dev, first, second, third,
      minimal⟩
    refine ⟨⟨nofun, fun _ => ⟨verified.append, disk, primary, reserved, backup, ?_, ?_, ?_, ?_,
      minimal⟩⟩, ?_⟩
    · exact frame3.still dev (by decide)
    · exact frame1.read first (by decide)
    · exact frame1.read second (by decide)
    · exact frame1.read third (by decide)
    · intro ok' w4 _
      cases ok' <;> trivial

/-- The guards of `repair_gpt`. -/
lemma repairGpt_guards {b : Board} :
    Guards (Step blank) (Guard blank b w) (repairGpt b) [] w := by
  unfold repairGpt
  apply (plain_guards checkBackup_plain).bind checkBackup_yields
  rintro t1 _ w1 ⟨frame1, checked, disk, dev, backed⟩
  apply (plain_guards checkGptProblem_plain).bind (checkGptProblem_yields (by decide))
  rintro t2 _ w2 frame2
  apply guards_test_bind ⟨nofun, nofun⟩
  rintro clean w3 ⟨rfl, _⟩
  cases clean with
  | true =>
    apply plain_guards
    exact verifyGptClean_plain.bind fun _ => only_cmd ⟨nofun, by decide⟩
  | false =>
    apply (plain_guards beforeRepair_plain).bind beforeRepair_yields
    rintro t4 _ w4 ⟨frame4, disk', primary, dev', tail, saved, entries⟩
    apply guards_cmd_bind ⟨nofun, fun eq => absurd eq (by decide)⟩
    rintro w5 rfl
    apply write_guards (frame1.trans (frame2.trans frame4))
    simp only [List.nil_append, List.append_assoc]
    exact matched_of_checks frame1 frame2 frame4 checked dev backed dev' tail saved entries

/-- Whatever the disk is and whatever the tools do: in every run of `repair_gpt`, cut off anywhere, the
    writing `sgdisk` starts only in a world in which every check has matched, and the pass line is
    printed only in one that a minimal change has left. -/
theorem repairGpt_guarded {b : Board} {w0 w : World} {t u : List Call} {o : Op} {ok : Bool}
    (run : Begins (repairGpt b) (t ++ ⟨o, ok⟩ :: u))
    (path : Lts.Path (Step blank) w0 t w) : Guard blank b w0 t w o :=
  repairGpt_guards.at run path

end Parts

section Sample

/-- A dump with the layout of the board. -/
def sampleDump : Bytes :=
  ascii "label-id: 353A3772-554F-408B-A80B-05747613DEA7\nstart= 34816,\nstart=\nstart=\nstart=\nstart=\nstart=\nstart=\nstart="

/-- A report of the one problem. -/
def sampleReport : Bytes :=
  ascii "Problem: main header's disk GUID\nIdentified 1 problems!"

/-- The saved files of a disk of zeros, and every other file as the checks leave it. -/
def sampleFiles : File → Option Bytes
  | .device => some (zeros (61071360 * 512))
  | .cmdline | .temp => none
  | .backup name =>
    if name ∈ ["partitions.before", "partitions.current"] then some sampleDump
    else if name ∈ ["gpt-primary.bin", "primary.current", "pair.primary"] then
      some (zeros (512 * 34))
    else if name ∈ ["gpt-backup.bin", "secondary.current", "pair.backup"] then
      some (zeros (512 * 33))
    else if name ∈ ["uboot-reserved.bin", "reserved.current"] then some (zeros (512 * 34782))
    else if name ∈ ["pair.guid-primary", "pair.guid-backup"] then some (zeros 16)
    else if name = "verify.current" then some sampleReport
    else if name = "verify.after" then some (ascii "No problems found.")
    else some (zeros (512 * 32))

/-- The same, with the header slices of some length. -/
def sample (before after : Nat) : World :=
  Function.update (Function.update sampleFiles (.backup "header.before") (some (zeros before)))
    (.backup "header.after") (some (zeros after))

/-- Tabs and spaces. -/
def sampleBlank (c : UInt8) : Bool := c == 32 || c == 9

variable {before after : Nat}

/-- A copy of zeros that the target already holds. -/
lemma sample_dd {w : World} {src out : File} {bs skip count n : Nat}
    (read : w src = some (zeros n))
    (le : bs * skip + bs * count ≤ n)
    (held : w out = some (zeros (bs * count))) :
    Step sampleBlank w ⟨.dd src out bs skip count readLog, true⟩ w := by
  refine ⟨w readLog, w out, ?_, fun _ => ⟨zeros n, read, ?_⟩⟩
  · simp only [Function.update_eq_self]
  · rw [held, slice_zeros le]

/-- Two files with the same bytes compare equal. -/
lemma sample_cmp {w : World} {f g : File} {b : Bytes}
    (left : w f = some b)
    (right : w g = some b) : Step sampleBlank w ⟨.cmp f g, true⟩ w :=
  ⟨rfl, fun _ => ⟨b, left, right⟩⟩

/-- An empty stretch of the device is read. -/
lemma sample_readSectors {start count : Nat} {out : File}
    (le : 512 * start + 512 * count ≤ 61071360 * 512)
    (held : sample before after out = some (zeros (512 * count))) :
    Leads (Step sampleBlank) (readSectors start count readLog out) (sample before after) ()
      (sample before after) := by
  refine leads_cmd_bind (sample_dd rfl le held) ?_
  exact leads_check ⟨rfl, fun _ => ⟨_, held, length_zeros⟩⟩

/-- The current layout is the one of the board. -/
lemma sample_checkLayout :
    Leads (Step sampleBlank) (checkLayout k11c (.backup "partitions.current"))
      (sample before after) () (sample before after) := by
  refine leads_cmd_bind ⟨some sampleDump, (Function.update_eq_self _ _).symm⟩ ?_
  refine leads_check_bind ⟨rfl, fun _ => ⟨sampleDump, rfl, by decide⟩⟩ ?_
  exact leads_check ⟨rfl, fun _ => ⟨sampleDump, rfl, by decide⟩⟩

/-- The backup is the one that was taken. -/
lemma sample_checkBackup :
    Leads (Step sampleBlank) (checkBackup k11c) (sample before after) ()
      (sample before after) := by
  refine leads_check_bind rfl ?_
  refine leads_check_bind rfl ?_
  apply sample_checkLayout.bind
  refine leads_check_bind (sample_cmp rfl rfl) ?_
  apply (sample_readSectors (by decide) rfl).bind
  refine leads_check_bind (sample_cmp rfl rfl) ?_
  apply (sample_readSectors (by decide) rfl).bind
  exact leads_check (sample_cmp rfl rfl)

/-- The problem that `sgdisk` names is the known one. -/
lemma sample_checkGptProblem :
    Leads (Step sampleBlank) (checkGptProblem (.backup "verify.current")) (sample before after) ()
      (sample before after) := by
  refine leads_cmd_bind ⟨some sampleReport, (Function.update_eq_self _ _).symm⟩ ?_
  refine leads_test_bind (show Step _ _ ⟨_, false⟩ _ from ⟨rfl, nofun⟩) ?_
  refine leads_test_bind (show Step _ _ ⟨_, true⟩ _ from
    ⟨rfl, fun _ => ⟨sampleReport, rfl, by decide⟩⟩) ?_
  exact leads_check ⟨rfl, fun _ => ⟨sampleReport, rfl, by decide⟩⟩

/-- The current pair differs only where the repair is meant. -/
lemma sample_checkGptPair :
    Leads (Step sampleBlank) (checkGptPair k11c) (sample before after) ()
      (sample before after) := by
  apply (sample_readSectors (by decide) rfl).bind
  apply (sample_readSectors (by decide) rfl).bind
  refine leads_cmd_bind (sample_dd rfl (by decide) rfl) ?_
  refine leads_cmd_bind (sample_dd rfl (by decide) rfl) ?_
  refine leads_check_bind (sample_cmp rfl rfl) ?_
  refine leads_cmd_bind (sample_dd rfl (by decide) rfl) ?_
  refine leads_cmd_bind (sample_dd rfl (by decide) rfl) ?_
  exact leads_check (sample_cmp rfl rfl)

/-- All checks before the repair pass. -/
lemma sample_beforeRepair :
    Leads (Step sampleBlank) (beforeRepair k11c) (sample before after) ()
      (sample before after) := by
  apply (sample_readSectors (by decide) rfl).bind
  refine leads_check_bind (sample_cmp rfl rfl) ?_
  refine leads_cmd_bind (sample_dd rfl (by decide) rfl) ?_
  refine leads_cmd_bind (sample_dd rfl (by decide) rfl) ?_
  exact leads_check (sample_cmp rfl rfl)

/-- The slices of the header are written one after the other. -/
lemma sample_checkHeader {off len : Nat} {slices} {w : World}
    (le : off + len ≤ 512)
    (rest : Leads (Step sampleBlank) (checkHeader k11c slices) (sample len len) () w) :
    Leads (Step sampleBlank) (checkHeader k11c ((off, len) :: slices)) (sample before after) () w := by
  have first : Step sampleBlank (sample before after)
      ⟨.dd (.backup "gpt-backup.bin") (.backup "header.before") 1 (16384 + off) len readLog, true⟩
      (sample len after) := by
    refine ⟨sample before after readLog, some (zeros len), ?_, fun _ => ⟨zeros (512 * 33), rfl, ?_⟩⟩
    · rw [Function.update_eq_self]
      unfold sample
      rw [Function.update_comm (by decide : File.backup "header.after" ≠ .backup "header.before"),
        Function.update_idem]
    · rw [slice_zeros (by omega), Nat.one_mul]
  have second : Step sampleBlank (sample len after)
      ⟨.dd .device (.backup "header.after") 1 ((k11c.sectors - 1) * 512 + off) len readLog, true⟩
      (sample len len) := by
    refine ⟨sample len after readLog, some (zeros len), ?_,
      fun _ => ⟨zeros (61071360 * 512), rfl, ?_⟩⟩
    · rw [Function.update_eq_self]
      unfold sample
      rw [Function.update_idem]
    · have sectors : k11c.sectors = 61071360 := rfl
      rw [sectors, slice_zeros (by omega), Nat.one_mul]
  refine leads_cmd_bind first ?_
  refine leads_cmd_bind second ?_
  refine leads_check_bind (sample_cmp rfl rfl) ?_
  exact rest

/-- The repaired header differs from the old one in its checksums only. -/
lemma sample_headerSlices :
    Leads (Step sampleBlank) (checkHeader k11c headerSlices) (sample before after) ()
      (sample 440 440) := by
  apply sample_checkHeader (by decide)
  apply sample_checkHeader (by decide)
  apply sample_checkHeader (by decide)
  exact leads_pure

/-- `sgdisk` finds nothing more to complain about. -/
lemma sample_verifyGptClean :
    Leads (Step sampleBlank) (verifyGptClean k11c) (sample before after) ()
      (sample before after) := by
  refine leads_cmd_bind
    ⟨some (ascii "No problems found."), (Function.update_eq_self (File.backup "verify.after") _).symm⟩ ?_
  refine leads_cmd_bind rfl ?_
  refine leads_check_bind ⟨rfl, fun _ => ⟨_, rfl, by decide⟩⟩ ?_
  exact sample_checkGptPair

/-- All checks after the repair pass. -/
lemma sample_afterRepair :
    Leads (Step sampleBlank) (afterRepair k11c) (sample 0 0) () (sample 440 440) := by
  apply sample_checkBackup.bind
  apply (sample_readSectors (by decide) rfl).bind
  refine leads_cmd_bind (sample_dd rfl (by decide) rfl) ?_
  refine leads_check_bind (sample_cmp rfl rfl) ?_
  apply sample_headerSlices.bind
  exact sample_verifyGptClean

/-- A run of the repair that prints the pass line. -/
lemma sample_repairGpt :
    EndsWith (Step sampleBlank) (repairGpt k11c) (sample 0 0) ⟨.echo passLine, true⟩ ()
      (sample 440 440) := by
  apply sample_checkBackup.endsWith
  apply sample_checkGptProblem.endsWith
  refine endsWith_test_bind (show Step _ _ ⟨_, false⟩ _ from ⟨rfl, nofun⟩) ?_
  apply sample_beforeRepair.endsWith
  refine endsWith_cmd_bind rfl ?_
  refine endsWith_test_bind (show Step _ _ ⟨_, true⟩ (sample 0 0) from
    ⟨some (zeros (512 * 32)), zeros (61071360 * 512), ?_⟩) ?_
  · have log : sample 0 0 (.backup "repair.log") = some (zeros (512 * 32)) := rfl
    have dev : sample 0 0 .device = some (zeros (61071360 * 512)) := rfl
    rw [← log, Function.update_eq_self, ← dev, Function.update_eq_self]
  refine endsWith_cmd_bind rfl ?_
  apply sample_afterRepair.endsWith
  exact endsWith_cmd rfl

/-- A repair that passes. -/
theorem repairGpt_guarded_pass :
    ∃ t, Begins (repairGpt k11c) (t ++ [⟨.echo passLine, true⟩]) ∧
      Lts.Path (Step sampleBlank) (sample 0 0) t (sample 440 440) ∧
      Passed k11c (sample 0 0) (sample 440 440) t := by
  obtain ⟨t, run, path⟩ := sample_repairGpt
  obtain ⟨w, before, last⟩ := path.append_inv
  cases last with
  | cons st last =>
    cases last with
    | nil =>
      -- printing a line leaves the world alone
      obtain rfl : w = sample 440 440 := st.symm
      have guard := repairGpt_guarded run.whole before
      exact ⟨t, run.whole, before, guard.2 rfl⟩

end Sample

end K11CHaos.Scripts.BootFix
