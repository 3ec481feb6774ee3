import K11CHaos.Engine.Execute

/-!
# The disk after an execution

On a faithful device every written segment holds the bytes of its source (`writeSegments_faithful`), and
a capture is the boot area of the disk (`Captured.faithful`). Together with the order of an execution this
gives the final disk: after a success the ranges of the plan hold the bytes of their segments, the rest is
as before and the GPT pair is the one that `build` computed; after a failure everything outside the ranges
is as before (`execute_final_disk`).
-/

namespace K11CHaos.Engine

open Prog

/-- The bytes that a payload is read from. -/
def Payload.source (stream : Option Bytes) : Payload → Bytes
  | .bytes b => b
  | .image file offset count => slice file offset count
  | .archive => stream.getD []

/-- The bytes of each segment: its share of the source. The archive stream goes on from one segment to
    the next. -/
def contents : List Segment → Option Bytes → List Bytes
  | [], _ => []
  | seg :: segs, stream =>
    (seg.payload.source stream).take seg.range.bytes ::
      contents segs
        (if seg.payload = .archive then some ((seg.payload.source stream).drop seg.range.bytes)
         else stream)

/-- Every segment has contents. -/
@[simp] lemma length_contents {segs : List Segment} {stream} :
    (contents segs stream).length = segs.length := by
  induction segs generalizing stream with
  | nil => rfl
  | cons seg segs ih => rw [contents, List.length_cons, List.length_cons, ih]

/-- The bytes of the segments of a work. -/
def Work.contents (work : Work) (X : Crates) : List Bytes :=
  Engine.contents work.segments (work.stream X)

namespace Flash

/-- The boot area and the last sectors of a disk. -/
def bootArea (d : Disk) (sectors : UInt32) : Snapshot :=
  ⟨readAt d 0 (34 * 512), readAt d (34 * 512) (reserve - 34 * 512),
    readAt d (512 * (sectors - 33).toNat) (33 * 512)⟩

/-- The front of the boot area. -/
lemma bootArea_primary {d : Disk} {sectors : UInt32} :
    (bootArea d sectors).primary = readAt d 0 (34 * 512) := by
  rw [bootArea]

/-- The end of the boot area. -/
lemma bootArea_tail {d : Disk} {sectors : UInt32} :
    (bootArea d sectors).tail = readAt d (512 * (sectors - 33).toNat) (33 * 512) := by
  rw [bootArea]

/-- The first copy in the reserve. -/
lemma take_head {d : Disk} : (readAt d 0 reserve).take (34 * 512) = readAt d 0 (34 * 512) :=
  take_readAt (by decide)

/-- What follows the first copy in the reserve. -/
lemma drop_head {d : Disk} :
    (readAt d 0 reserve).drop (34 * 512) = readAt d (34 * 512) (reserve - 34 * 512) := by
  rw [drop_readAt, Nat.zero_add]

/-- A source gives what its payload has. -/
lemma payloadSource_ok {r stream pl src} (h : payloadSource r stream pl = .ok src) :
    src.rest = pl.source stream := by
  cases pl with
  | bytes b =>
    cases h
    rfl
  | image file offset count =>
    obtain ⟨_, _, h1⟩ := bind_ok.mp h
    cases h1
    rfl
  | archive =>
    cases stream with
    | none => cases h
    | some s =>
      cases h
      rfl

/-- A seek moves nothing on the device. -/
lemma seeking_path {who : Identity} {caps : Vector UInt8 8} {d d' : Disk} {pl : Payload}
    (p : Lts.Path (Faithful who caps) d (seeking pl) d') : d' = d := by
  cases pl with
  | image file offset count =>
    cases p with
    | cons st p =>
      cases p
      exact st
  | bytes b =>
    cases p
    rfl
  | archive =>
    cases p
    rfl

section Faithful

variable {who : Identity} {caps : Vector UInt8 8} {d d' : Disk}

/-- The next block is the front of the source. -/
lemma nextBlock_faithful {src : Source} {n t b} (h : Runs (nextBlock src n) t (.ok b))
    (p : Lts.Path (Faithful who caps) d t d') : d' = d ∧ b = src.rest.take n := by
  obtain ⟨_, _, ⟨rfl, rfl⟩ | ⟨x, rfl, rfl⟩⟩ := runs_nextBlock_ok h
  · cases p
    exact ⟨rfl, rfl⟩
  · cases p with
    | cons st p =>
      cases p
      exact st

/-- The writing loop stores the next bytes of its source, in order and without gaps. -/
lemma writeBlocks_faithful {lba : UInt32} {bs src t written offset total}
    (h : Runs (writeBlocks lba bs src) t (.ok written)) (tl : Tiles chunk offset total bs)
    (al : ∀ x ∈ bs, 512 ∣ x.1) (fits : lba.toNat + total / 512 < 2 ^ 32)
    (p : Lts.Path (Faithful who caps) d t d') :
    written.1 = src.rest.take (total - offset) ∧
      written.1.length = total - offset ∧
      written.2.rest = src.rest.drop (total - offset) ∧
      d' = writeAt d (512 * lba.toNat + offset) written.1 := by
  induction bs generalizing src t written offset d with
  | nil =>
    obtain ⟨rfl, e⟩ := runs_pure.mp h
    cases e
    cases tl
    cases p
    simp
  | cons x bs ih =>
    cases tl with
    | @cons _ n _ _ pos _ tl =>
      have le := tl.le
      obtain ⟨tf, block, k, tw, rest, hf, hk, hw, rfl, rfl⟩ := runs_writeBlocks_cons_ok h
      obtain ⟨enough, len, _⟩ := runs_nextBlock_ok hf
      obtain ⟨d1, d2, p1, st, p2⟩ := p.split
      obtain ⟨rfl, rfl⟩ := nextBlock_faithful hf p1
      have stored := st.1 (by rw [hk, len])
      obtain ⟨e1, e2, e3, e4⟩ := ih hw tl (fun y hy => al y (List.mem_cons_of_mem _ hy)) p2
      have total' : total - offset = n + (total - (offset + n)) := by omega
      refine ⟨?_, ?_, ?_, ?_⟩
      · rw [e1, total', List.take_add]
      · rw [List.length_append, len, e2, total']
      · rw [e3, total', List.drop_drop]
      · rw [e4, stored, lba_add (al _ List.mem_cons_self) (by omega), ← writeAt_append, len]
        congr 1
        omega

/-- A segment that was written and reread: its range holds the bytes of its source. -/
lemma writeSegment_faithful {id} {seg : Segment} {stream t out}
    (h : Runs (writeSegment id seg stream) t (.ok out)) (al : 512 ∣ seg.range.bytes)
    (fits : seg.range.lba.toNat + seg.range.bytes / 512 < 2 ^ 32)
    (p : Lts.Path (Faithful who caps) d t d') :
    let b := (seg.payload.source stream).take seg.range.bytes
    b.length = seg.range.bytes ∧
      hashBytes b = seg.range.sha256 ∧
      d' = writeAt d seg.range.window.1 b ∧
      out = if seg.payload = .archive then
          some ((seg.payload.source stream).drop seg.range.bytes)
        else stream := by
  obtain ⟨src, written, tw, tr, back, hs, hw, hash, hread, _, rfl, rfl⟩ := runs_writeSegment_ok h
  have tl : Tiles chunk 0 seg.range.bytes _ := chunk_tiles
  have ab := chunk_aligned al
  obtain ⟨d0, p0, pw⟩ := p.append_inv
  obtain rfl := seeking_path p0
  cases pw with
  | cons st pw =>
    obtain rfl := st
    obtain ⟨d1, p1, p2⟩ := pw.append_inv
    obtain ⟨d2, p3, p4⟩ := p2.append_inv
    obtain ⟨e1, e2, e3, e4⟩ := writeBlocks_faithful hw tl (fun x hx => (ab x hx).1) fits p1
    obtain ⟨rfl, _⟩ := hread.faithful tl (fun x hx => (ab x hx).1) fits p3
    cases p4 with
    | cons st p4 =>
      cases p4
      obtain rfl := st
      rw [payloadSource_ok hs, Nat.sub_zero] at e1 e3
      rw [e1] at hash e2 e4
      exact ⟨e2, hash, e4, by rw [e3]⟩

/-- After all segments every range holds the bytes of its segment. -/
lemma writeSegments_faithful {id} {segs : List Segment} {sectors : UInt32} {stream t}
    (h : Runs (writeSegments id segs stream) t (.ok ()))
    (laid : Laid (segs.map Segment.range) sectors)
    (p : Lts.Path (Faithful who caps) d t d') :
    ∀ rb ∈ (segs.map Segment.range).zip (contents segs stream),
      rb.2.length = rb.1.bytes ∧ hashBytes rb.2 = rb.1.sha256 ∧
        readAt d' rb.1.window.1 rb.1.bytes = rb.2 := by
  induction segs generalizing stream t d with
  | nil => exact fun rb hr => absurd hr List.not_mem_nil
  | cons seg segs ih =>
    obtain ⟨ts, stream', t', hs, hrest, rfl⟩ := runs_bind_ok.mp h
    obtain ⟨d1, p1, p2⟩ := p.append_inv
    have fits := laid.inside _ List.mem_cons_self
    have lt := sectors.toNat_lt
    obtain ⟨len, hash, rfl, rfl⟩ := writeSegment_faithful hs
      (laid.sized _ List.mem_cons_self).2 (by omega) p1
    have rest := laid.tail
    have within := (writeSegments_within rest fun s hs => List.mem_map_of_mem hs).runs hrest
    intro rb hr
    obtain rfl | hr := List.mem_cons.mp hr
    · refine ⟨len, hash, ?_⟩
      -- the later writes are inside the other ranges, which do not meet this one
      have kept : readAt d' seg.range.window.1 seg.range.bytes =
          readAt (writeAt d seg.range.window.1
            ((seg.payload.source stream).take seg.range.bytes)) seg.range.window.1
            seg.range.bytes :=
        readAt_congr fun x lo hi => path_within p2 within fun s hs hin => by
          have := List.rel_of_pairwise_cons laid.apart hs
          simp only [Inside, Range.window] at hin this lo hi
          omega
      have same := readAt_writeAt_same (d := d) (a := seg.range.window.1)
        (b := (seg.payload.source stream).take seg.range.bytes)
      rw [len] at same
      exact kept.trans same
    · exact ih hrest rest p2 rb hr

/-- A capture is the boot area of the disk. -/
lemma Captured.faithful {identity : Identity} {t s} (h : Captured identity t s)
    (p : Lts.Path (Faithful who caps) d t d') : d' = d ∧ s = bootArea d identity.sectors := by
  cases h with
  | mk hread hn _ _ =>
    have tl : Tiles chunk 0 reserve _ := chunk_tiles
    have ab := chunk_aligned (show 512 ∣ reserve from ⟨34816, rfl⟩)
    obtain ⟨d1, p1, p2⟩ := p.append_inv
    obtain ⟨same, hh⟩ := hread.faithful tl (fun x hx => (ab x hx).1) (by simp [reserve]) p1
    cases p2 with
    | cons st p2 =>
      cases p2
      obtain ⟨rfl, hb⟩ := st
      refine ⟨same, ?_⟩
      rw [hb hn, hh, same]
      simp only [UInt32.toNat_zero, Nat.mul_zero, Nat.zero_add, Nat.sub_zero]
      rw [take_head, drop_head, bootArea]

end Faithful

/-- A plan whose file a run has loaded: the text has the name of the file as its hash. -/
def Loaded (X : Crates) (id : String) (t : List Ev) (p : Plan) : Prop :=
  ∃ text, ⟨.load (.plan .flash id), .ok text⟩ ∈ t ∧ hashBytes text = id ∧ X.parsePlan text = .ok p

/-- What a run leaves outside the ranges of its plan: nothing changes there, and no write goes there. -/
structure Framed (p : Plan) (t : List Ev) (d d' : Disk) : Prop where
  writes : ∀ e ∈ t, e.1.Within p.ranges
  outside : ∀ x, (∀ r ∈ p.ranges, ¬ Inside x r.window) → d' x = d x

/-- What a successful run leaves: every range of the plan holds the bytes of its segment, with the planned
    hash, and both copies of the GPT are the intended ones. -/
structure Written (X : Crates) (p : Plan) (work : Work) (sectors : UInt32) (d' : Disk) : Prop where
  ranges : work.ranges = p.ranges
  laid : Laid p.ranges sectors
  all : (work.contents X).length = p.ranges.length
  stored : ∀ rb ∈ p.ranges.zip (work.contents X),
    rb.2.length = rb.1.bytes ∧ hashBytes rb.2 = rb.1.sha256 ∧
      readAt d' rb.1.window.1 rb.1.bytes = rb.2
  primary : readAt d' 0 (34 * 512) = work.primary
  tail : readAt d' (512 * (sectors - 33).toNat) (33 * 512) = work.tail

/-- The plan of the preflight was loaded. -/
lemma Preflight.loaded {X device id t t'} {c : Cleared} (h : Preflight X device id t c) :
    Loaded X id (t ++ t') c.plan := by
  cases h with
  | mk hash parse => exact ⟨_, .head _, hash, parse⟩

/-- The work of the preflight was built. -/
lemma Preflight.built {X device id t} {c : Cleared} (h : Preflight X device id t c) :
    ∃ st, (⟨.sources, .ok st⟩ : Ev) ∈ t ∧
      build X st c.plan.operation c.plan.source c.identity c.saved true = .ok c.work := by
  cases h with
  | mk _ _ _ _ _ _ _ _ _ _ built =>
    exact ⟨_, .tail _ (.tail _ (.tail _ (List.mem_append_right _ (.head _)))), built⟩

/-- The boot area that a cleared plan has found is the one of the disk. -/
lemma Preflight.saved {X device id t} {c : Cleared} {who caps} {d d' : Disk}
    (h : Preflight X device id t c) (p : Lts.Path (Faithful who caps) d t d') :
    c.saved.head = (bootArea d' c.identity.sectors).head ∧
      c.saved.tail = (bootArea d' c.identity.sectors).tail := by
  cases h with
  | mk _ _ _ _ _ _ _ _ _ _ _ _ cap head tail =>
    simp only [← List.cons_append] at p
    obtain ⟨d1, _, p1⟩ := p.append_inv
    cases p1 with
    | cons _ p1 =>
      obtain ⟨d2, p2, p3⟩ := p1.append_inv
      obtain ⟨rfl, rfl⟩ := cap.faithful p2
      have still : d' = d2 := by
        refine path_quiet p3 ?_
        simp only [List.mem_cons, List.not_mem_nil, or_false]
        rintro e (rfl | rfl | rfl) <;> trivial
      rw [still]
      exact ⟨head.symm, tail.symm⟩

/-- The part that only looks, the claim and the journal leave the disk alone. -/
lemma claim_quiet {id p} : ∀ e ∈ claim id p, e.1.Quiet := by
  simp only [claim, List.mem_cons, List.not_mem_nil, or_false]
  rintro e (rfl | rfl | rfl) <;> trivial

/-- Opening a stream asks quiet questions. -/
lemma opening_quiet {work} : ∀ e ∈ opening work, e.1.Quiet := by
  intro e he
  unfold opening at he
  split_ifs at he with h
  · obtain rfl := List.mem_singleton.mp he
    trivial
  · exact absurd he List.not_mem_nil

section Runs

variable {X : Crates} {who : Identity} {caps : Vector UInt8 8} {device : Device} {id : String}
  {confirmed : Bool} {t : List Ev} {d d' : Disk}

/-- Every run, wherever it stops, changes nothing or stays in the frame of the plan it has loaded. -/
lemma begins_framed (h : Begins (executeWithGate X device id confirmed) t)
    (p : Lts.Path (Faithful who caps) d t d') :
    (d' = d ∧ ∀ e ∈ t, e.1.Quiet) ∨ ∃ plan, Loaded X id t plan ∧ Framed plan t d d' := by
  obtain looks | ⟨tp, c, a, tx, hc, rfl, _, within⟩ := begins_executeWithGate h
  · have quiet : ∀ e ∈ t, e.1.Quiet := fun e he => (looks e he).quiet
    exact .inl ⟨path_quiet p quiet, quiet⟩
  · obtain ⟨_, pre⟩ := runs_clear_ok hc
    rw [pre.ranges] at within
    have all : ∀ e ∈ tp ++ ⟨.rename (.plan .flash id) (.used .flash id), a⟩ :: tx,
        e.1.Within c.plan.ranges := by
      intro e he
      obtain he | he := List.mem_append.mp he
      · exact (clear_observes.runs hc e he).quiet.within
      · obtain rfl | he := List.mem_cons.mp he
        · trivial
        · exact within e he
    exact .inr ⟨c.plan, pre.loaded, all, fun x out => path_within p all out⟩

/-- A successful run: its ranges hold the bytes of their segments, and the intended GPT pair is there. -/
lemma runs_written {v} (h : Runs (executeWithGate X device id confirmed) t (.ok v))
    (p : Lts.Path (Faithful who caps) d t d') :
    ∃ tp c,
      Runs (clear X device id confirmed) tp (.ok c) ∧
      (∃ tx, t = tp ++ tx) ∧
      Lts.Path (Faithful who caps) d tp d ∧
      c.identity = who ∧
      Written X c.plan c.work who.sectors d' ∧
      Framed c.plan t d d' ∧
      Undenied (bootArea d' who.sectors) ∧
      frameChecks c.plan who c.saved (bootArea d' who.sectors) = .ok () := by
  obtain ⟨tp, c, tx, hc, hx, rfl⟩ := runs_executeWithGate_ok h
  obtain ⟨_, pre⟩ := runs_clear_ok hc
  have laid := pre.laid
  have within : ∀ e ∈ tp ++ (claim id c.plan ++ tx), e.1.Within c.plan.ranges := by
    intro e he
    obtain he | he := List.mem_append.mp he
    · exact (clear_observes.runs hc e he).quiet.within
    · obtain he | he := List.mem_append.mp he
      · exact (claim_quiet e he).within
      · exact pre.ranges ▸ (transfer_within laid).runs hx e he
  have framed : Framed c.plan _ d d' := ⟨within, fun x out => path_within p within out⟩
  obtain ⟨ts, tc, after, a, hs, hcap, ep, et, frame, rfl⟩ :=
    runs_transfer_complete hx (runs_transfer_ok hx) rfl
  -- the path in its parts: checks, claim, opening, writes, capture, the last look
  have looks : ∀ e ∈ tp, e.1.Quiet := fun e he => (clear_observes.runs hc e he).quiet
  obtain ⟨d1, p1, p2⟩ := p.append_inv
  obtain rfl := path_quiet p1 looks
  obtain ⟨d2, p3, p4⟩ := p2.append_inv
  obtain rfl := path_quiet p3 claim_quiet
  obtain ⟨d3, p5, p6⟩ := p4.append_inv
  obtain rfl := path_quiet p5 opening_quiet
  obtain ⟨d4, p7, p8⟩ := p6.append_inv
  obtain ⟨d5, p9, p10⟩ := p8.append_inv
  have undenied := hcap.undenied
  obtain ⟨rfl, rfl⟩ := hcap.faithful p9
  -- the first question behind the capture asks for the identity again
  have same : c.identity = who := by
    cases p10 with
    | cons st _ => exact st.2
  have still : d' = d5 := by
    refine path_quiet p10 ?_
    simp only [List.mem_cons, List.not_mem_nil, or_false]
    rintro e (rfl | rfl | rfl) <;> trivial
  subst still
  have stored := writeSegments_faithful hs laid p7
  rw [same] at laid ep et frame undenied
  rw [bootArea_primary] at ep
  rw [bootArea_tail] at et
  refine ⟨tp, c, hc, ⟨_, rfl⟩, p1, same, ⟨pre.ranges, ?_, ?_, ?_, ep, et⟩, framed,
    undenied, frame⟩
  · rw [← pre.ranges]
    exact laid
  · rw [← pre.ranges, Work.contents, length_contents, Work.ranges, List.length_map]
  · rw [← pre.ranges]
    exact stored

end Runs

/-- The final disk. After a success the ranges of the plan hold exactly the bytes of their segments, each
    with its planned hash, the GPT pair is the one that `build` computed, and everything else is as before;
    every write was a whole number of sectors, at most one chunk and inside one range. After a failure
    everything outside the ranges of the plan is as before. -/
theorem execute_final_disk {X : Crates} {who : Identity} {caps : Vector UInt8 8} {device : Device}
    {id : String} {confirmed : Bool} {t : List Ev} {r : Result Outcome} {d d' : Disk}
    (h : Runs (executeWithGate X device id confirmed) t r)
    (p : Lts.Path (Faithful who caps) d t d') :
    match r with
    | .ok _ =>
      ∃ plan st saved work,
        Loaded X id t plan ∧
        (⟨.sources, .ok st⟩ : Ev) ∈ t ∧
        saved.head = (bootArea d who.sectors).head ∧
        saved.tail = (bootArea d who.sectors).tail ∧
        build X st plan.operation plan.source who saved true = .ok work ∧
        Written X plan work who.sectors d' ∧
        Framed plan t d d'
    | .error _ =>
      (d' = d ∧ ∀ e ∈ t, e.1.Quiet) ∨ ∃ plan, Loaded X id t plan ∧ Framed plan t d d' := by
  cases r with
  | error e => exact begins_framed h.whole p
  | ok v =>
    obtain ⟨tp, c, hc, ⟨tx, rfl⟩, p1, rfl, written, framed, _, _⟩ := runs_written h p
    obtain ⟨_, pre⟩ := runs_clear_ok hc
    obtain ⟨st, hst, built⟩ := pre.built
    obtain ⟨head, tail⟩ := pre.saved p1
    exact ⟨c.plan, st, c.saved, c.work, pre.loaded, List.mem_append_left _ hst, head, tail,
      built, written, framed⟩

end Flash

end K11CHaos.Engine
