import K11CHaos.Engine.Device

/-!
# Traces of a transfer

What a finished transfer has asked, in order. Every segment is written block by block and reread in full
(`runs_writeSegment_ok`), after the last one the boot area is captured and compared with the intended GPT
pair, and only then the end is journaled (`runs_transfer_complete`). Every write is inside the range of its segment, whatever the answers are and
wherever the run stops (`transfer_within`).

The ranges that `validate_ranges` lets through are `Laid`: whole sectors inside the disk that do not meet.
-/

namespace K11CHaos.Engine

open Prog

/-- Ranges of whole sectors inside the disk that do not meet. -/
structure Laid (rs : List Range) (sectors : UInt32) : Prop where
  sized : ∀ r ∈ rs, 0 < r.bytes ∧ 512 ∣ r.bytes
  inside : ∀ r ∈ rs, r.lba.toNat + r.bytes / 512 ≤ sectors.toNat
  apart : rs.Pairwise fun r s =>
    r.window.1 + r.window.2 ≤ s.window.1 ∨ s.window.1 + s.window.2 ≤ r.window.1

/-- Every question but the one that journals the end of a transaction. -/
def Op.Unfinished (id : String) (o : Op) : Prop :=
  o ≠ .note (.journal .flash id) .complete

/-- Observing finishes nothing. -/
lemma Op.Observes.unfinished {o : Op} {id} (h : o.Observes) : o.Unfinished id := by
  rintro rfl
  exact h

/-- The rest of a list of ranges is laid out as well. -/
lemma Laid.tail {r : Range} {rs : List Range} {sectors} (h : Laid (r :: rs) sectors) :
    Laid rs sectors :=
  ⟨fun s hs => h.sized s (List.mem_cons_of_mem _ hs),
    fun s hs => h.inside s (List.mem_cons_of_mem _ hs), h.apart.tail⟩

/-- The archive stream of a work. -/
def Work.stream (work : Work) (X : Crates) : Option Bytes :=
  work.archive.map fun a => (a.reader X).out

namespace Flash

/-- Spans that follow each other without overlap are pairwise in order. -/
lemma windows_pairwise {l : List (Nat × Nat)} (ord : ∀ a ∈ l, a.1 ≤ a.2)
    (h : ∀ r ∈ Gpt.windows2 l, r.1.2 ≤ r.2.1) : l.Pairwise fun a b => a.2 ≤ b.1 := by
  induction l with
  | nil => exact .nil
  | cons a l ih =>
    have rest := ih (fun b hb => ord b (List.mem_cons_of_mem _ hb)) fun r hr => by
      cases l with
      | nil => cases hr
      | cons b l => exact h r (List.mem_cons_of_mem _ hr)
    refine .cons (fun b hb => ?_) rest
    cases l with
    | nil => cases hb
    | cons c l =>
      have first : a.2 ≤ c.1 := h (a, c) List.mem_cons_self
      obtain rfl | hb := List.mem_cons.mp hb
      · exact first
      · have hc := ord c (List.mem_cons_of_mem _ List.mem_cons_self)
        have := List.rel_of_pairwise_cons rest hb
        omega

/-- `validate_ranges` lets through what is laid out soundly. -/
lemma validateRanges_laid {rs : List Range} {sectors : UInt32} {u}
    (h : validateRanges rs sectors = .ok u) : Laid rs sectors := by
  obtain ⟨_, h1, h2⟩ := bind_ok.mp h
  simp only [deny_ok, List.any_eq_true, decide_eq_true_eq, not_exists, not_and, not_or,
    Nat.not_lt, not_not] at h1 h2
  have one : ∀ r ∈ rs, 0 < r.bytes ∧ 512 ∣ r.bytes := fun r hr =>
    ⟨Nat.pos_of_ne_zero (h1 r hr).1, Nat.dvd_of_mod_eq_zero (h1 r hr).2.1⟩
  refine ⟨one, fun r hr => (h1 r hr).2.2, ?_⟩
  have perm : (Gpt.sortSpans (rs.map extent)).Perm (rs.map extent) := List.mergeSort_perm _ _
  have ord : ∀ a ∈ Gpt.sortSpans (rs.map extent), a.1 ≤ a.2 := by
    intro a ha
    obtain ⟨r, _, rfl⟩ := List.mem_map.mp (perm.mem_iff.mp ha)
    exact Nat.le_add_right _ _
  have sorted := (windows_pairwise ord h2).imp
    (S := fun a b : Nat × Nat => a.2 ≤ b.1 ∨ b.2 ≤ a.1) .inl
  have all := (perm.pairwise_iff fun h => h.symm).mp sorted
  refine (List.pairwise_map.mp all).imp_of_mem fun {r s} hr hs hrs => ?_
  have dr := (one r hr).2
  have ds := (one s hs).2
  simp only [extent, Range.window] at hrs ⊢
  omega

/-- A work that `build` returns has its ranges laid out soundly. -/
lemma build_laid {X st op source identity current verify work}
    (h : build X st op source identity current verify = .ok work) :
    Laid work.ranges identity.sectors := by
  obtain ⟨w, _, h1⟩ := bind_ok.mp h
  obtain ⟨_, h2, h3⟩ := bind_ok.mp h1
  cases h3
  exact validateRanges_laid h2

/-- The next block of a source: the bytes that are in memory, or what the stream gives. -/
lemma runs_nextBlock_ok {src : Source} {n t b} (h : Runs (nextBlock src n) t (.ok b)) :
    n ≤ src.rest.length ∧ b.length = n ∧
      (t = [] ∧ b = src.rest.take n ∨
        ∃ x : { b : Bytes // b.length = (src.rest.take n).length },
          t = [⟨.stream (src.rest.take n), .ok x⟩] ∧ b = x.1) := by
  unfold nextBlock at h
  split_ifs at h with short mem
  · obtain ⟨-, e⟩ := runs_reject.mp h
    cases e
  · obtain ⟨rfl, e⟩ := runs_pure.mp h
    cases e
    exact ⟨by omega, by rw [List.length_take]; omega, .inl ⟨rfl, rfl⟩⟩
  · obtain ⟨x, t1, rfl, h1⟩ := runs_askAs_bind_ok.mp h
    obtain ⟨rfl, e⟩ := runs_pure.mp h1
    cases e
    refine ⟨by omega, ?_, .inr ⟨x, rfl, rfl⟩⟩
    rw [x.2, List.length_take]
    omega

/-- The next block is no write. -/
lemma nextBlock_within {src : Source} {n rs} : (nextBlock src n).Only (Op.Within rs) := by
  unfold nextBlock
  split_ifs
  · exact only_reject
  · exact only_pure
  · exact .bind (only_askAs.mpr trivial) fun _ => only_pure

/-- One turn of the writing loop. -/
lemma runs_writeBlocks_cons_ok {lba : UInt32} {offset n bs src t res}
    (h : Runs (writeBlocks lba ((offset, n) :: bs) src) t (.ok res)) :
    ∃ tf block k tw rest,
      Runs (nextBlock src n) tf (.ok block) ∧
      UInt32.toNat k = n ∧
      Runs (writeBlocks lba bs { src with rest := src.rest.drop n }) tw (.ok rest) ∧
      t = tf ++ ⟨.write (lba + UInt32.ofNat (offset / 512)) block, .ok k⟩ :: tw ∧
      res = (block ++ rest.1, rest.2) := by
  obtain ⟨tf, block, t1, hf, h1, rfl⟩ := runs_bind_ok.mp h
  obtain ⟨k, t2, rfl, h2⟩ := runs_ask_bind_ok.mp h1
  obtain ⟨_, hk, h3⟩ := runs_check_bind_ok.mp h2
  obtain ⟨tw, rest, t4, hw, h4, rfl⟩ := runs_bind_ok.mp h3
  obtain ⟨rfl, e⟩ := runs_pure.mp h4
  cases e
  refine ⟨tf, block, k, tw, rest, hf, by simpa using hk, hw, ?_, rfl⟩
  rw [List.append_nil]

/-- The writing loop stays inside the range of its segment. -/
lemma writeBlocks_within {rs : List Range} {r : Range} {bs offset} {src : Source}
    (hr : r ∈ rs) (fits : r.lba.toNat + r.bytes / 512 < 2 ^ 32)
    (tl : Tiles chunk offset r.bytes bs) (al : ∀ x ∈ bs, 512 ∣ x.1 ∧ 512 ∣ x.2) :
    (writeBlocks r.lba bs src).Only (Op.Within rs) := by
  induction bs generalizing offset src with
  | nil => exact only_pure
  | cons x bs ih =>
    cases tl with
    | @cons _ n _ _ pos small tl =>
      have le := tl.le
      have ha := al _ List.mem_cons_self
      refine .bind_runs nextBlock_within fun _ block hf => ?_
      obtain ⟨_, len, _⟩ := runs_nextBlock_ok hf
      refine .bind (only_ask.mpr ⟨?_, ?_, ?_, r, hr, ?_, ?_⟩) fun _ =>
        .bind only_check fun _ =>
          .bind (ih tl fun y hy => al y (List.mem_cons_of_mem _ hy)) fun _ => only_pure
      · rintro rfl
        rw [List.length_nil] at len
        omega
      · rw [len]
        exact ha.2
      · rw [len]
        exact small
      · rw [lba_add ha.1 (by omega)]
        simp only [Range.window]
        omega
      · rw [lba_add ha.1 (by omega), len]
        simp only [Range.window]
        omega

/-- The trace of a seek: the other sources are in place. -/
def seeking : Payload → List Ev
  | .image _ _ _ => [⟨.reader, .ok ()⟩]
  | _ => []

/-- The seek of an image is asked for once. -/
lemma runs_seekImage_ok {pl t u} (h : Runs (seekImage pl) t (.ok u)) : t = seeking pl := by
  cases pl with
  | image file offset count => exact runs_askAs_ok.mp h
  | bytes b => exact (runs_pure.mp h).1
  | archive => exact (runs_pure.mp h).1

/-- A seek changes nothing. -/
lemma seekImage_observes {pl} : (seekImage pl).Only Op.Observes := by
  cases pl with
  | image file offset count => exact only_askAs.mpr trivial
  | bytes b => exact only_pure
  | archive => exact only_pure

/-- A written segment: its blocks went out, their hash and the one of the full reread are the planned
    one. -/
lemma runs_writeSegment_ok {id} {seg : Segment} {stream t out}
    (h : Runs (writeSegment id seg stream) t (.ok out)) :
    ∃ src written tw tr back,
      payloadSource seg.range stream seg.payload = .ok src ∧
      Runs (writeBlocks seg.range.lba (blocks chunk seg.range.bytes 0) src) tw (.ok written) ∧
      hashBytes written.1 = seg.range.sha256 ∧
      ReadAll seg.range.lba (blocks chunk seg.range.bytes 0) tr back ∧
      hashBytes back = seg.range.sha256 ∧
      t = seeking seg.payload ++ ⟨.note (.journal .flash id) (.writing seg.range), .ok ()⟩ ::
        (tw ++ (tr ++ [⟨.note (.journal .flash id) (.verified seg.range), .ok ()⟩])) ∧
      out = if seg.payload = .archive then some written.2.rest else stream := by
  obtain ⟨src, hs, h0⟩ := runs_check_bind_ok.mp h
  obtain ⟨t0, _, t1, hseek, h1, rfl⟩ := runs_bind_ok.mp h0
  obtain rfl := runs_seekImage_ok hseek
  obtain ⟨_, t1, rfl, h2⟩ := runs_askAs_bind_ok.mp h1
  obtain ⟨tw, written, t3, hw, h3, rfl⟩ := runs_bind_ok.mp h2
  obtain ⟨_, hh, h4⟩ := runs_check_bind_ok.mp h3
  obtain ⟨tr, actual, t5, hd, h5, rfl⟩ := runs_bind_ok.mp h4
  obtain ⟨back, hr, rfl⟩ := runs_readDigest_ok hd
  obtain ⟨_, ha, h6⟩ := runs_check_bind_ok.mp h5
  obtain ⟨_, t7, rfl, h7⟩ := runs_askAs_bind_ok.mp h6
  obtain ⟨rfl, e⟩ := runs_pure.mp h7
  cases e
  exact ⟨src, written, tw, tr, back, hs, hw, by simpa using hh, hr, by simpa using ha, rfl, rfl⟩

/-- The writes of a segment are inside its range. -/
lemma writeSegment_within {rs : List Range} {id} {seg : Segment} {stream}
    (hr : seg.range ∈ rs) (al : 512 ∣ seg.range.bytes)
    (fits : seg.range.lba.toNat + seg.range.bytes / 512 < 2 ^ 32) :
    (writeSegment id seg stream).Only (Op.Within rs) := by
  have tl : Tiles chunk 0 seg.range.bytes _ := chunk_tiles
  have ab := chunk_aligned al
  refine .bind only_check fun _ => ?_
  refine .bind (seekImage_observes.mono fun o ho => ho.quiet.within) fun _ => ?_
  refine .bind (only_askAs.mpr trivial) fun _ => ?_
  refine .bind (writeBlocks_within hr fits tl ab) fun _ => .bind only_check fun _ => ?_
  refine .bind (readDigest_observes.mono fun o ho => ho.quiet.within) fun _ => ?_
  exact .bind only_check fun _ => .bind (only_askAs.mpr trivial) fun _ => only_pure

/-- The segments write inside their ranges only. -/
lemma writeSegments_within {rs : List Range} {sectors : UInt32} {id} {segs : List Segment} {stream}
    (laid : Laid rs sectors) (hs : ∀ s ∈ segs, s.range ∈ rs) :
    (writeSegments id segs stream).Only (Op.Within rs) := by
  induction segs generalizing stream with
  | nil => exact only_pure
  | cons seg segs ih =>
    have hr := hs _ List.mem_cons_self
    have := laid.inside _ hr
    have := sectors.toNat_lt
    refine .bind (writeSegment_within hr (laid.sized _ hr).2 (by omega)) fun _ => ?_
    exact ih fun s h => hs s (List.mem_cons_of_mem _ h)

/-- Every range is reread in full after its last write, and what is read has the planned hash. -/
lemma runs_writeSegments_reread {id} {segs : List Segment} {sectors : UInt32} {stream t}
    (h : Runs (writeSegments id segs stream) t (.ok ()))
    (laid : Laid (segs.map Segment.range) sectors) :
    ∀ r ∈ segs.map Segment.range, ∃ pre tr back post,
      t = pre ++ (tr ++ post) ∧
      ReadAll r.lba (blocks chunk r.bytes 0) tr back ∧
      hashBytes back = r.sha256 ∧
      ∀ e ∈ post, e.1.Away r := by
  induction segs generalizing stream t with
  | nil => exact fun r hr => absurd hr List.not_mem_nil
  | cons seg segs ih =>
    obtain ⟨ts, stream', t', hs, hrest, rfl⟩ := runs_bind_ok.mp h
    have rest := laid.tail
    intro r hr
    obtain rfl | hr := List.mem_cons.mp hr
    · obtain ⟨_, _, tw, tr, back, _, _, _, hread, hash, rfl, _⟩ := runs_writeSegment_ok hs
      refine ⟨seeking seg.payload ++ ⟨.note (.journal .flash id) (.writing seg.range), .ok ()⟩ :: tw,
        tr, back, ⟨.note (.journal .flash id) (.verified seg.range), .ok ()⟩ :: t', ?_, hread, hash,
        ?_⟩
      · simp only [List.cons_append, List.append_assoc, List.nil_append]
      · intro e he
        obtain rfl | he := List.mem_cons.mp he
        · exact trivial
        · have within := (writeSegments_within rest fun s hs => List.mem_map_of_mem hs).runs hrest
          refine (within e he).away fun s hs => ?_
          exact (List.rel_of_pairwise_cons laid.apart hs).symm
    · obtain ⟨pre, tr, back, post, rfl, hread, hash, away⟩ := ih hrest rest r hr
      exact ⟨ts ++ pre, tr, back, post, by rw [List.append_assoc], hread, hash, away⟩

/-- The trace of a capture of the boot area and the last sectors, neither of them the vendor's read
    denial. -/
inductive Captured (identity : Identity) : List Ev → Snapshot → Prop where
  | mk {t head n} {tail : { b : Bytes // b.length = 33 * 512 }} :
    ReadAll 0 (blocks chunk reserve 0) t head →
    UInt32.toNat n = 33 * 512 →
    requireGptBytes (slice head 512 (33 * 512)) = .ok () →
    requireGptBytes tail.1 = .ok () →
    Captured identity (t ++ [⟨.read (identity.sectors - 33) (33 * 512), .ok (n, tail)⟩])
      ⟨head.take (34 * 512), head.drop (34 * 512), tail.1⟩

/-- Neither the GPT of a boot area nor its tail is the vendor's read denial. -/
structure Undenied (s : Snapshot) : Prop where
  primary : requireGptBytes (s.primary.drop 512) = .ok ()
  tail : requireGptBytes s.tail = .ok ()

/-- A captured front is 34 sectors. -/
lemma Captured.size {identity t s} (h : Captured identity t s) :
    s.primary.length = 34 * 512 := by
  cases h with
  | mk hread _ _ _ =>
    have tl : Tiles chunk 0 reserve _ := chunk_tiles
    rw [List.length_take, hread.length tl]
    rfl

/-- A captured snapshot carries no denial of the vendor. -/
lemma Captured.undenied {identity : Identity} {t s} (h : Captured identity t s) : Undenied s := by
  cases h with
  | mk hread hn u1 u2 =>
    have tl : Tiles chunk 0 reserve _ := chunk_tiles
    have len := hread.length tl
    refine ⟨?_, u2⟩
    rw [← u1]
    congr 1
    rw [List.drop_take, slice]

/-- What a capture has read. -/
lemma runs_capture_ok {identity t} {s : Snapshot} (h : Runs (capture identity) t (.ok s)) :
    Captured identity t s := by
  obtain ⟨th, head, t1, hh, h1, rfl⟩ := runs_bind_ok.mp h
  obtain ⟨tt, tl, t2, ht, h2, rfl⟩ := runs_bind_ok.mp h1
  obtain ⟨n, buf, rfl, hn, rfl⟩ := runs_readExact_ok ht
  obtain ⟨_, g1, h3⟩ := runs_check_bind_ok.mp h2
  obtain ⟨_, g2, h4⟩ := runs_check_bind_ok.mp h3
  obtain ⟨rfl, e⟩ := runs_pure.mp h4
  cases e
  exact .mk (runs_readBlocks_ok hh) hn g1 g2

/-- A capture changes nothing. -/
lemma capture_observes {identity} : (capture identity).Only Op.Observes :=
  .bind readBlocks_observes fun _ => .bind readExact_observes fun _ =>
    .bind only_check fun _ => .bind only_check fun _ => only_pure

/-- The trace of opening the archive stream. -/
def opening (work : Work) : List Ev :=
  if work.archive.isSome then [⟨.reader, .ok ()⟩] else []

/-- Which stream the works read from. -/
lemma runs_openStream_ok {X work t out} (h : Runs (openStream X work) t (.ok out)) :
    t = opening work ∧ out = work.stream X := by
  unfold openStream at h
  unfold opening Work.stream
  cases ha : work.archive with
  | none =>
    simp only [ha] at h
    obtain ⟨rfl, e⟩ := runs_pure.mp h
    cases e
    exact ⟨rfl, rfl⟩
  | some a =>
    simp only [ha] at h
    obtain ⟨_, t2, rfl, h1⟩ := runs_askAs_bind_ok.mp h
    obtain ⟨rfl, e⟩ := runs_pure.mp h1
    cases e
    exact ⟨rfl, rfl⟩

/-- Opening a stream changes nothing. -/
lemma openStream_observes {X work} : (openStream X work).Only Op.Observes := by
  unfold openStream
  cases work.archive with
  | none => exact only_pure
  | some a => exact .bind (only_askAs.mpr trivial) fun _ => only_pure

/-- A journal entry but the last is no end. -/
lemma journal_unfinished {id} {e : Event} (h : e ≠ .complete) :
    (journal id e).Only (Op.Unfinished id) :=
  only_askAs.mpr fun eq => h (by cases eq; rfl)

/-- Writing blocks is no end. -/
lemma writeBlocks_unfinished {id lba bs src} :
    (writeBlocks lba bs src).Only (Op.Unfinished id) := by
  induction bs generalizing src with
  | nil => exact only_pure
  | cons x bs ih =>
    refine .bind ?_ fun _ => .bind (only_ask.mpr nofun) fun _ => .bind only_check fun _ =>
      .bind ih fun _ => only_pure
    unfold nextBlock
    split_ifs
    · exact only_reject
    · exact only_pure
    · exact .bind (only_askAs.mpr nofun) fun _ => only_pure

/-- Writing segments is no end. -/
lemma writeSegments_unfinished {id segs stream} :
    (writeSegments id segs stream).Only (Op.Unfinished id) := by
  induction segs generalizing stream with
  | nil => exact only_pure
  | cons seg segs ih =>
    refine .bind ?_ fun _ => ih
    refine .bind only_check fun _ => .bind (seekImage_observes.mono fun o ho => ho.unfinished) fun _ => ?_
    refine .bind (journal_unfinished nofun) fun _ => ?_
    refine .bind writeBlocks_unfinished fun _ => .bind only_check fun _ => ?_
    refine .bind (readDigest_observes.mono fun o ho => ho.unfinished) fun _ => ?_
    exact .bind only_check fun _ => .bind (journal_unfinished nofun) fun _ => only_pure

/-- A transfer that journals its end: all segments are written and reread, then the final capture has
    the intended pair, passes the frame checks, and the identity is the same. -/
lemma runs_transfer_complete {X id p identity saved work t r e}
    (h : Runs (transfer X id p identity saved work) t r) (he : e ∈ t)
    (hc : e.1 = .note (.journal .flash id) .complete) :
    ∃ ts tc after a,
      Runs (writeSegments id work.segments (work.stream X)) ts (.ok ()) ∧
      Captured identity tc after ∧
      after.primary = work.primary ∧
      after.tail = work.tail ∧
      frameChecks p identity saved after = .ok () ∧
      t = opening work ++ (ts ++ (tc ++ [⟨.identity, .ok identity⟩,
        ⟨.note (.journal .flash id) .timings, .ok ()⟩,
        ⟨.note (.journal .flash id) .complete, a⟩])) := by
  have hu : ¬ e.1.Unfinished id := fun h => h hc
  obtain ⟨tp, _, t1, ho, h1, rfl, m1⟩ := h.reached
    (openStream_observes.mono fun o ho => ho.unfinished) he hu
  obtain ⟨rfl, rfl⟩ := runs_openStream_ok ho
  obtain ⟨ts, _, t2, hs, h2, rfl, m2⟩ := h1.reached writeSegments_unfinished m1 hu
  obtain ⟨tc, after, t3, hcap, h3, rfl, m3⟩ := h2.reached
    (capture_observes.mono fun o ho => ho.unfinished) m2 hu
  obtain ⟨_, _, t4, pair, h4, rfl, m4⟩ := h3.reached only_check m3 hu
  obtain ⟨_, _, t5, frame, h5, rfl, m5⟩ := h4.reached only_check m4 hu
  obtain ⟨_, last, t6, hl, h6, rfl, m6⟩ := h5.reached (only_ask.mpr nofun) m5 hu
  obtain ⟨_, _, t7, same, h7, rfl, m7⟩ := h6.reached only_check m6 hu
  obtain ⟨_, _, t8, ht, h8, rfl, m8⟩ := h7.reached (journal_unfinished nofun) m7 hu
  obtain ⟨rfl, e1⟩ := runs_check.mp pair
  obtain ⟨rfl, e2⟩ := runs_check.mp frame
  obtain rfl := runs_ask.mp hl
  obtain ⟨rfl, e3⟩ := runs_check.mp same
  obtain rfl := runs_askAs_ok.mp ht
  have both := deny_ok.mp e1.symm
  have still := deny_ok.mp e3.symm
  simp only [not_or, not_not] at both still
  subst still
  have stop : ∃ a, t8 = [⟨.note (.journal .flash id) .complete, a⟩] := by
    obtain ⟨_, h9, _⟩ | ⟨t9, _, t10, h9, h10, rfl⟩ := runs_bind.mp h8
    · obtain ⟨e', rfl, _⟩ := runs_askAs_error.mp h9
      exact ⟨_, rfl⟩
    · obtain rfl := runs_askAs_ok.mp h9
      obtain ⟨rfl, _⟩ := runs_pure.mp h10
      exact ⟨_, rfl⟩
  obtain ⟨a, rfl⟩ := stop
  exact ⟨ts, tc, after, a, hs, runs_capture_ok hcap, both.1, both.2, e2.symm, rfl⟩

/-- A transfer that ends with a value has journaled its end. -/
lemma runs_transfer_ok {X id p identity saved work t v}
    (h : Runs (transfer X id p identity saved work) t (.ok v)) :
    (⟨.note (.journal .flash id) .complete, .ok ()⟩ : Ev) ∈ t := by
  obtain ⟨t0, _, t1, _, h1, rfl⟩ := runs_bind_ok.mp h
  obtain ⟨t2, _, t3, _, h2, rfl⟩ := runs_bind_ok.mp h1
  obtain ⟨t4, _, t5, _, h3, rfl⟩ := runs_bind_ok.mp h2
  obtain ⟨_, _, h4⟩ := runs_check_bind_ok.mp h3
  obtain ⟨_, _, h5⟩ := runs_check_bind_ok.mp h4
  obtain ⟨_, t6, rfl, h6⟩ := runs_ask_bind_ok.mp h5
  obtain ⟨_, _, h7⟩ := runs_check_bind_ok.mp h6
  obtain ⟨_, t7, rfl, h8⟩ := runs_askAs_bind_ok.mp h7
  obtain ⟨_, t8, rfl, _⟩ := runs_askAs_bind_ok.mp h8
  refine List.mem_append_right _ (List.mem_append_right _ (List.mem_append_right _ ?_))
  exact .tail _ (.tail _ (.head _))

/-- The writes of a transfer are inside the ranges of its work. -/
lemma transfer_within {X id p identity saved} {work : Work} {sectors : UInt32}
    (laid : Laid work.ranges sectors) :
    (transfer X id p identity saved work).Only (Op.Within work.ranges) := by
  refine .bind (openStream_observes.mono fun o ho => ho.quiet.within) fun stream => ?_
  refine .bind (writeSegments_within laid fun s hs => List.mem_map_of_mem hs) fun _ => ?_
  refine .bind (capture_observes.mono fun o ho => ho.quiet.within) fun _ => ?_
  refine .bind only_check fun _ => .bind only_check fun _ => .bind (only_ask.mpr trivial) fun _ => ?_
  exact .bind only_check fun _ => .bind (only_askAs.mpr trivial) fun _ =>
    .bind (only_askAs.mpr trivial) fun _ => only_pure

end Flash

end K11CHaos.Engine
