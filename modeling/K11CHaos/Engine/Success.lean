import K11CHaos.Engine.FinalDisk
import K11CHaos.Engine.World

/-!
# Executions in a world without faults

The outcome of an execution when nothing outside fails. Reads give the disk, writes reach it
(`run_readBlocks`, `run_writeBlocks`), so a segment whose source has the planned hash passes its own
checks (`run_writeSegment`). `Ready` lists what an execution checks before it claims its plan and
`Delivers` what it checks afterwards; with both it ends with a value (`run_executeWithGate`).
-/

namespace K11CHaos.Engine

open Prog World

section Rules

variable {host : Host} {w w' : World}

/-- A question that is answered. -/
lemma run_ask_bind {β : Type} {o : Op} {k : o.Out → Eng β} {a : o.Out}
    (h : w.exact host o = (.ok a, w')) :
    run (exact host) (ask o >>= k) w = run (exact host) (k a) w' :=
  run_bind_ok (by rw [ask, run_call, h])

/-- A question that is answered, with the code of the caller. -/
lemma run_askAs {code} {o : Op} {a : o.Out} (h : w.exact host o = (.ok a, w')) :
    run (exact host) (askAs code o) w = (.ok a, w') := by
  rw [askAs, run, h]
  rfl

/-- A question whose answer is known. -/
lemma run_askAs_bind {β : Type} {code} {o : Op} {k : o.Out → Eng β} {a : o.Out}
    (h : w.exact host o = (.ok a, w')) :
    run (exact host) (askAs code o >>= k) w = run (exact host) (k a) w' :=
  run_bind_ok (run_askAs h)

/-- A check that passes. -/
lemma run_check_bind {α β : Type} {x : Result α} {k : α → Eng β} {a : α} (h : x = .ok a) :
    run (exact host) (check x >>= k) w = run (exact host) (k a) w :=
  run_bind_ok (by rw [check, run_ofExcept, h])

/-- A test that finds nothing wrong. -/
lemma run_deny_bind {β : Type} {bad : Prop} [Decidable bad] {code detail} {k : Unit → Eng β}
    (h : ¬ bad) :
    run (exact host) (check (deny bad code detail) >>= k) w = run (exact host) (k ()) w :=
  run_check_bind (deny_ok.mpr h)

/-- A new file is made. -/
lemma run_createNew {code} {p : Path} (h : w.files p = none) :
    run (exact host) (createNew code p) w = (.ok (), ⟨w.disk, w.files.set p []⟩) :=
  (run_askAs_bind (exact_create h)).trans (by rw [check, run_ofExcept, deny_ok.mpr (by simp)])

/-- A stretch the loader holds is read. -/
lemma run_readExact {lba : UInt32} {len : Nat} (h : host.holds lba len) (small : len < 2 ^ 32) :
    run (exact host) (readExact lba len) w = (.ok (readAt w.disk (512 * lba.toNat) len), w) := by
  refine (run_ask_bind (exact_read h)).trans ?_
  refine (run_deny_bind ?_).trans run_pure
  rw [not_not, UInt32.toNat_ofNat']
  exact Nat.mod_eq_of_lt small

/-- Blocks that are read are those of the disk. -/
lemma run_readBlocks {lba : UInt32} {size offset total bs} (tl : Tiles size offset total bs)
    (small : size < 2 ^ 32) (al : ∀ x ∈ bs, 512 ∣ x.1)
    (fits : lba.toNat + total / 512 < 2 ^ 32) (inside : host.holds lba total) :
    run (exact host) (readBlocks lba bs) w =
      (.ok (readAt w.disk (512 * lba.toNat + offset) (total - offset)), w) := by
  induction tl with
  | nil =>
    rw [Nat.sub_self, readAt_zero]
    rfl
  | @cons offset n total bs pos le tl ih =>
    have lt := tl.le
    have at' := lba_add (al _ List.mem_cons_self)
      (show lba.toNat + offset / 512 < 2 ^ 32 by omega)
    refine (run_bind_ok (run_readExact ?_ (by omega))).trans ?_
    · simp only [Host.holds] at inside ⊢
      rw [at']
      omega
    refine (run_bind_ok (ih (fun y hy => al y (List.mem_cons_of_mem _ hy)) fits inside)).trans ?_
    rw [at', ← Nat.add_assoc, run_pure, readAt_append]
    congr 3
    omega

end Rules

/-- A range inside the disk of a host. -/
def Range.On (r : Range) (host : Host) : Prop :=
  512 ∣ r.bytes ∧ r.lba.toNat + r.bytes / 512 ≤ host.who.sectors.toNat

namespace Flash

section Rules

variable {host : Host} {w w' : World}

/-- The digest of a range on the eMMC. -/
lemma run_readDigest {r : Range} (on : r.On host) :
    run (exact host) (readDigest r.lba r.bytes) w =
      (.ok (hashBytes (readAt w.disk r.window.1 r.bytes)), w) := by
  have lt := host.who.sectors.toNat_lt
  have tl : Tiles chunk 0 r.bytes _ := chunk_tiles
  have ab := chunk_aligned on.1
  have le := on.2
  have al := on.1
  refine (run_bind_ok (run_readBlocks tl (by decide) (fun x hx => (ab x hx).1) (by omega) ?_)).trans
    run_pure
  simp only [Host.holds]
  omega

/-- The next block of a stream that has enough. -/
lemma run_nextBlock {src : Source} {n : Nat} (enough : n ≤ src.rest.length) :
    run (exact host) (nextBlock src n) w = (.ok (src.rest.take n), w) := by
  unfold nextBlock
  rw [if_neg (by omega)]
  split_ifs
  · exact run_pure
  · exact (run_askAs_bind rfl).trans run_pure

/-- Blocks that are written reach the disk. -/
lemma run_writeBlocks {lba : UInt32} {src : Source} {offset total bs}
    (tl : Tiles chunk offset total bs) (al : ∀ x ∈ bs, 512 ∣ x.1)
    (fits : lba.toNat + total / 512 < 2 ^ 32) (inside : host.holds lba total)
    (enough : total - offset ≤ src.rest.length) :
    run (exact host) (writeBlocks lba bs src) w =
      (.ok (src.rest.take (total - offset), { src with rest := src.rest.drop (total - offset) }),
        ⟨writeAt w.disk (512 * lba.toNat + offset) (src.rest.take (total - offset)), w.files⟩) := by
  induction bs generalizing src offset w with
  | nil =>
    cases tl
    simp [writeBlocks]
  | cons x bs ih =>
    cases tl with
    | @cons _ n _ _ pos le tl =>
      have lt := tl.le
      have at' := lba_add (al _ List.mem_cons_self)
        (show lba.toNat + offset / 512 < 2 ^ 32 by omega)
      have len : (src.rest.take n).length = n := by
        rw [List.length_take]
        omega
      have total' : total - offset = n + (total - (offset + n)) := by omega
      have stored : host.holds (lba + UInt32.ofNat (offset / 512)) (src.rest.take n).length := by
        simp only [Host.holds] at inside ⊢
        rw [at', len]
        omega
      -- one round of the loop: a block of the source, its write, the check of the count
      refine (run_bind_ok (run_nextBlock (by omega))).trans ?_
      refine (run_ask_bind (exact_write stored)).trans ?_
      refine (run_deny_bind ?_).trans ?_
      · rw [not_not, UInt32.toNat_ofNat', len]
        exact Nat.mod_eq_of_lt (Nat.lt_of_le_of_lt le (by decide))
      refine (run_bind_ok (ih tl (fun y hy => al y (List.mem_cons_of_mem _ hy)) ?_)).trans ?_
      · rw [List.length_drop]
        omega
      rw [run_pure, at', total', List.take_add, List.drop_drop]
      have joined := writeAt_append (d := w.disk) (a := 512 * lba.toNat + offset)
        (b := src.rest.take n) (c := (src.rest.drop n).take (total - (offset + n)))
      rw [len] at joined
      simp only [← Nat.add_assoc, joined]

/-- What a segment takes from its source is what its range promises. -/
structure Supplies (seg : Segment) (stream : Option Bytes) : Prop where
  source : ∃ src, payloadSource seg.range stream seg.payload = .ok src
  enough : seg.range.bytes ≤ (seg.payload.source stream).length
  hash : hashBytes ((seg.payload.source stream).take seg.range.bytes) = seg.range.sha256

/-- The archive stream behind a segment. -/
def behind (seg : Segment) (stream : Option Bytes) : Option Bytes :=
  if seg.payload = .archive then some ((seg.payload.source stream).drop seg.range.bytes) else stream

/-- A seek succeeds. -/
lemma run_seekImage {pl} : run (exact host) (seekImage pl) w = (.ok (), w) := by
  cases pl with
  | image file offset count => exact run_askAs rfl
  | bytes b => exact run_pure
  | archive => exact run_pure

/-- A segment that is supplied is written and passes its checks. -/
lemma run_writeSegment {id} {seg : Segment} {stream} (on : seg.range.On host)
    (s : Supplies seg stream) :
    run (exact host) (writeSegment id seg stream) w =
      (.ok (behind seg stream),
        ⟨writeAt w.disk seg.range.window.1
          ((seg.payload.source stream).take seg.range.bytes), w.files⟩) := by
  obtain ⟨src, hs⟩ := s.source
  have rest := payloadSource_ok hs
  have lt := host.who.sectors.toNat_lt
  have le := on.2
  have al := on.1
  have tl : Tiles chunk 0 seg.range.bytes _ := chunk_tiles
  have ab := chunk_aligned on.1
  have inside : host.holds seg.range.lba seg.range.bytes := by
    simp only [Host.holds]
    omega
  have enough := s.enough
  refine (run_check_bind hs).trans ?_
  refine (run_bind_ok run_seekImage).trans ?_
  refine (run_askAs_bind rfl).trans ?_
  refine (run_bind_ok (run_writeBlocks tl (fun x hx => (ab x hx).1) (by omega) inside
    (by rw [rest]; omega))).trans ?_
  rw [rest, Nat.sub_zero]
  refine (run_deny_bind (not_not.mpr s.hash)).trans ?_
  refine (run_bind_ok (run_readDigest on)).trans ?_
  refine (run_deny_bind ?_).trans ?_
  · have same := readAt_writeAt_same (d := w.disk) (a := seg.range.window.1)
      (b := (seg.payload.source stream).take seg.range.bytes)
    rw [List.length_take, Nat.min_eq_left enough] at same
    rw [not_not]
    exact (congrArg hashBytes same).trans s.hash
  refine (run_askAs_bind rfl).trans ?_
  exact run_pure

/-- Every segment takes from its source what its range promises. -/
def AllSupplied : List Segment → Option Bytes → Prop
  | [], _ => True
  | seg :: segs, stream => Supplies seg stream ∧ AllSupplied segs (behind seg stream)

/-- A disk with the segments of a work on it. -/
def imageOf (d : Disk) : List Segment → Option Bytes → Disk
  | [], _ => d
  | seg :: segs, stream =>
    imageOf (writeAt d seg.range.window.1 ((seg.payload.source stream).take seg.range.bytes)) segs
      (behind seg stream)

/-- All segments reach the eMMC. -/
lemma run_writeSegments {id} {segs : List Segment} {stream}
    (on : ∀ seg ∈ segs, seg.range.On host) (s : AllSupplied segs stream) :
    run (exact host) (writeSegments id segs stream) w =
      (.ok (), ⟨imageOf w.disk segs stream, w.files⟩) := by
  induction segs generalizing stream w with
  | nil => rfl
  | cons seg segs ih =>
    refine (run_bind_ok (run_writeSegment (on _ List.mem_cons_self) s.1)).trans ?_
    exact ih (fun s hs => on s (List.mem_cons_of_mem _ hs)) s.2

/-- The start of the backup copy. -/
lemma sectors_sub {sectors : UInt32} (big : 34849 < sectors) :
    (sectors - 33).toNat = sectors.toNat - 33 := by
  have := UInt32.lt_iff_toNat_lt.mp big
  rw [UInt32.toNat_sub_of_le]
  · rfl
  · rw [UInt32.le_iff_toNat_le]
    simp at this ⊢
    omega

/-- The front of the boot area in the read of the reserve. -/
lemma slice_head {d : Disk} :
    slice (readAt d 0 reserve) 512 (33 * 512) = (readAt d 0 (34 * 512)).drop 512 := by
  rw [slice_readAt (by decide)]
  have := slice_readAt (d := d) (a := 0) (n := 34 * 512) (o := 512) (l := 33 * 512) (by decide)
  rw [slice, List.take_of_length_le (by simp)] at this
  exact this.symm

/-- A capture gives the boot area. -/
lemma run_capture (big : 34849 < host.who.sectors)
    (u : Undenied (bootArea w.disk host.who.sectors)) :
    run (exact host) (capture host.who) w = (.ok (bootArea w.disk host.who.sectors), w) := by
  have lt := host.who.sectors.toNat_lt
  have sub := sectors_sub big
  have bigN : 34849 < host.who.sectors.toNat := UInt32.lt_iff_toNat_lt.mp big
  have tl : Tiles chunk 0 reserve _ := chunk_tiles
  have ab := chunk_aligned (show 512 ∣ reserve from ⟨34816, rfl⟩)
  have head : host.holds 0 reserve := by
    simp only [Host.holds, reserve, UInt32.toNat_zero]
    omega
  have last : host.holds (host.who.sectors - 33) (33 * 512) := by
    simp only [Host.holds, sub]
    omega
  refine (run_bind_ok (run_readBlocks tl (by decide) (fun x hx => (ab x hx).1)
    (by simp [reserve]) head)).trans ?_
  refine (run_bind_ok (run_readExact last (by decide))).trans ?_
  simp only [UInt32.toNat_zero, Nat.mul_zero, Nat.zero_add, Nat.sub_zero]
  obtain ⟨u1, u2⟩ := u
  rw [bootArea_primary, ← slice_head] at u1
  rw [bootArea_tail] at u2
  refine (run_check_bind u1).trans ((run_check_bind u2).trans ?_)
  rw [run_pure, take_head, drop_head, bootArea]

/-- What an execution checks before it claims its plan. -/
structure Ready (X : Crates) (host : Host) (w : World) (device : Device) (id : String)
    (c : Cleared) : Prop where
  stored : w.files (.plan .flash id) = some c.plan.json.bytes
  named : id = hashBytes c.plan.json.bytes
  bounded : c.plan.json.bytes.length ≤ maxPlan
  sound : planSound c.plan = .ok ()
  fresh : w.files (.journal .flash id) = none
  guarded : guard device = .ok ()
  instance' : c.plan.device.instanceId = device.instanceId
  location : c.plan.device.location = device.location
  identity : c.identity = host.who
  planned : c.plan.identity = host.who
  emmc : host.who.storage = "emmc"
  full : fullRead host.caps
  big : 34849 < host.who.sectors
  undenied : Undenied (bootArea w.disk host.who.sectors)
  saved : c.saved = bootArea w.disk host.who.sectors
  expected :
    match c.plan.targetBootSha256 with
    | some hash => c.saved.digest = hash
    | none => snapshot X w.files.store c.plan.backup host.who = .ok c.saved
  built : build X w.files.store c.plan.operation c.plan.source host.who c.saved true = .ok c.work
  ranges : c.work.ranges = c.plan.ranges

/-- What an execution checks after its first write, for the disk that the writes leave behind. -/
structure Delivers (X : Crates) (host : Host) (c : Cleared) (d' : Disk) : Prop where
  on : ∀ seg ∈ c.work.segments, seg.range.On host
  supplied : AllSupplied c.work.segments (c.work.stream X)
  undenied : Undenied (bootArea d' host.who.sectors)
  primary : (bootArea d' host.who.sectors).primary = c.work.primary
  tail : (bootArea d' host.who.sectors).tail = c.work.tail
  frame : frameChecks c.plan host.who c.saved (bootArea d' host.who.sectors) = .ok ()

/-- A loader that reads everything says so. -/
lemma run_requireFullRead (full : fullRead host.caps) :
    ∃ s, run (exact host) requireFullRead w = (.ok s, w) :=
  ⟨_, (run_ask_bind rfl).trans ((run_deny_bind full).trans run_pure)⟩

/-- The plan is loaded. -/
lemma run_loadPlan {X device id} {c : Cleared} (h : Ready X host w device id c) :
    run (exact host) (loadPlan X id) w = (.ok c.plan, w) := by
  have hex : hashId id = true := by
    rw [h.named]
    exact decide_eq_true (hashBytes_hex _)
  refine (run_deny_bind (by rw [hex]; decide)).trans ?_
  have read : run (exact host) (readBounded (.plan .flash id) maxPlan) w =
      (.ok c.plan.json.bytes, w) :=
    (run_askAs_bind (exact_load h.stored)).trans
      ((run_deny_bind (Nat.not_lt.mpr h.bounded)).trans run_pure)
  refine (run_bind_ok read).trans ?_
  refine (run_deny_bind (not_not.mpr h.named.symm)).trans ?_
  have parse : parsed "TRANSACTION_IO" (X.parsePlan c.plan.json.bytes) = .ok c.plan := by
    rw [X.parsePlan_bytes]
    rfl
  exact (run_check_bind parse).trans ((run_check_bind h.sound).trans run_pure)

/-- The expected boot area is built. -/
lemma run_expectedArea {X device id} {c : Cleared} (h : Ready X host w device id c) :
    run (exact host) (expectedArea X c.plan host.who) w = (.ok c.saved, w) := by
  have e := h.expected
  unfold expectedArea
  cases hp : c.plan.targetBootSha256 with
  | some hash =>
    rw [hp] at e
    refine (run_bind_ok (run_capture h.big h.undenied)).trans ?_
    rw [← h.saved]
    exact (run_deny_bind (not_not.mpr e)).trans run_pure
  | none =>
    rw [hp] at e
    exact (run_ask_bind rfl).trans (by rw [check, run_ofExcept, e])

/-- All checks before the claim pass. -/
lemma run_clear {X device id} {c : Cleared} (h : Ready X host w device id c) :
    run (exact host) (clear X device id true) w = (.ok c, w) := by
  obtain ⟨_, full⟩ := run_requireFullRead (w := w) h.full
  refine (run_deny_bind (by decide)).trans ?_
  refine (run_check_bind h.guarded).trans ?_
  refine (run_bind_ok (run_loadPlan h)).trans ?_
  refine (run_deny_bind (by simp [h.instance', h.location])).trans ?_
  refine (run_ask_bind (o := .identity) rfl).trans ?_
  refine (run_deny_bind (not_not.mpr h.emmc)).trans ?_
  refine (run_bind_ok full).trans ?_
  refine (run_deny_bind (UInt32.not_le.mpr h.big)).trans ?_
  refine (run_deny_bind (not_not.mpr h.planned.symm)).trans ?_
  refine (run_bind_ok (run_expectedArea h)).trans ?_
  refine (run_ask_bind (o := .sources) rfl).trans ?_
  refine (run_check_bind h.built).trans ?_
  refine (run_deny_bind (not_not.mpr h.ranges)).trans ?_
  refine (run_bind_ok (run_capture h.big h.undenied)).trans ?_
  refine (run_deny_bind (by simp [h.saved])).trans ?_
  refine (run_ask_bind (o := .identity) rfl).trans ?_
  refine (run_deny_bind (not_not.mpr rfl)).trans ?_
  refine (run_bind_ok full).trans ?_
  refine (run_ask_bind rfl).trans ?_
  rw [run_pure, ← h.identity]

/-- The transfer writes the work and ends with a report. -/
lemma run_transfer {X id} {c : Cleared}
    (big : 34849 < host.who.sectors)
    (h : Delivers X host c (imageOf w.disk c.work.segments (c.work.stream X))) :
    ∃ v, run (exact host) (transfer X id c.plan host.who c.saved c.work) w =
      (.ok v, ⟨imageOf w.disk c.work.segments (c.work.stream X), w.files⟩) := by
  have opened : run (exact host) (openStream X c.work) w = (.ok (c.work.stream X), w) := by
    unfold openStream Work.stream
    cases c.work.archive with
    | none => rfl
    | some a => exact (run_askAs_bind rfl).trans run_pure
  have outcome : ∃ v, (⟨c.plan.operation, (c.work.ranges.map Range.bytes).sum,
      Gpt.check (bootArea (imageOf w.disk c.work.segments (c.work.stream X))
        host.who.sectors).primary (bootArea (imageOf w.disk c.work.segments (c.work.stream X))
        host.who.sectors).tail host.who.sectors⟩ : Outcome) = v := ⟨_, rfl⟩
  obtain ⟨v, hv⟩ := outcome
  refine ⟨v, ?_⟩
  refine (run_bind_ok opened).trans ?_
  refine (run_bind_ok (run_writeSegments h.on h.supplied)).trans ?_
  refine (run_bind_ok (run_capture (w := ⟨_, w.files⟩) big h.undenied)).trans ?_
  refine (run_deny_bind (by simp [h.primary, h.tail])).trans ?_
  refine (run_check_bind h.frame).trans ?_
  refine (run_ask_bind (o := .identity) rfl).trans ?_
  refine (run_deny_bind (not_not.mpr rfl)).trans ?_
  refine (run_askAs_bind rfl).trans ((run_askAs_bind rfl).trans ?_)
  rw [run_pure, hv]

/-- An execution that is ready and delivers ends with a value, and its segments are on the disk. -/
lemma run_executeWithGate {X device id} {c : Cleared} (h : Ready X host w device id c)
    (after : Delivers X host c (imageOf w.disk c.work.segments (c.work.stream X))) :
    ∃ v files, run (exact host) (executeWithGate X device id true) w =
      (.ok v, ⟨imageOf w.disk c.work.segments (c.work.stream X), files⟩) := by
  have kept := Files.move_other (f := w.files) (p := .plan .flash id) (q := .used .flash id)
    (r := .journal .flash id) (b := c.plan.json.bytes) nofun nofun
  have fresh : (⟨w.disk, w.files.move (.plan .flash id) (.used .flash id) c.plan.json.bytes⟩ :
      World).files (.journal .flash id) = none :=
    kept.trans h.fresh
  obtain ⟨v, ht⟩ := run_transfer
    (w := ⟨w.disk, (w.files.move (.plan .flash id) (.used .flash id) c.plan.json.bytes).set
      (.journal .flash id) []⟩) h.big after
  refine ⟨v, (w.files.move (.plan .flash id) (.used .flash id) c.plan.json.bytes).set
    (.journal .flash id) [], (run_bind_ok (run_clear h)).trans ?_⟩
  refine (run_askAs_bind (exact_rename h.stored)).trans ?_
  refine (run_bind_ok (run_createNew fresh)).trans ?_
  refine (run_askAs_bind rfl).trans ?_
  refine (run_bind_ok run_attempt).trans ?_
  rw [h.identity, ht]
  exact run_pure

end Rules

end Flash

end K11CHaos.Engine
