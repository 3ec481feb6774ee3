import K11CHaos.Engine.HashWorker

/-!
# The loops that hash

`hash_range` of `flash.rs`, `read_digest` of `pipeline.rs`, `verify` and `raw` of `archive.rs` all call a
`HashWorker` in the same loop: take a buffer, fill it, submit it, until the range is done, and then
finish. Each error drops the worker. They differ in what they read from, which is a `Reader` here.

`Fill.refines` makes every step of the loop a run of calls, so the laws of the worker hold in the loop.
`Filled` says where the loop stands; with it the loop can always go on until it is finished or has given
up, and it finishes with the digest of the bytes that it read (`fills`).
-/

namespace K11CHaos.Engine.Pipeline

/-- `read_exact` of a source: the bytes at an offset, or a failure. -/
structure Reader where
  read : Nat → Nat → Option Bytes
  exact' : ∀ {offset len b}, read offset len = some b → b.length = len

/-- A file from an offset on. -/
def Reader.file (file : Bytes) (base : Nat) : Reader where
  read offset len :=
    if base + offset + len ≤ file.length then some (slice file (base + offset) len) else none
  exact' h := by
    split_ifs at h with inside
    obtain rfl := Option.some.inj h
    exact length_slice inside

/-- Some chunk of the range cannot be read. -/
def Reader.Fails (reader : Reader) (total : Nat) : Prop :=
  ∃ offset, offset < total ∧ reader.read offset (min (total - offset) chunk) = none

/-- What is left to do for the worker. -/
def Hashing.rank : Hashing → Nat
  | .receiving => 1
  | .returning _ => 3
  | .ended _ => 0

/-- What is left to do for the caller. -/
def Caller.rank (held : List Buffer) : Caller → Nat
  | .idle => if held = [] then 8 else 6
  | .asking => 7
  | .submitting _ => 13
  | .draining => 5
  | .closing => 4
  | .joining _ => 3
  | .dropped | .finished _ => 0

/-- The caller has given up. -/
def Caller.GaveUp : Caller → Prop
  | .closing | .joining false | .dropped => True
  | _ => False

namespace HashWorker

/-- The length of the next block. -/
def nextLen (s : HashWorker) : Nat :=
  min (s.total - s.offset) chunk

/-- What the loop submits: a buffer with the bytes that it read. -/
def nextBlock (s : HashWorker) (data : Buffer) (b : Bytes) : Block :=
  ⟨s.offset, s.nextLen, ⟨data.name, put data.data 0 b⟩⟩

/-- The loop gives up: the worker is dropped with what the caller has in its hand. -/
def giveUp (s : HashWorker) (wasted : List Buffer) : HashWorker :=
  { s with caller := .closing, input := s.input.dropSender, held := [],
           discarded := wasted ++ s.discarded }

/-- The steps of the loop. -/
inductive Fill (reader : Reader) : HashWorker → HashWorker → Prop where
  | buffer {s} :
    s.caller = .idle →
    s.held = [] →
    s.offset < s.total →
    Fill reader s { s with caller := .asking }
  | got {s data free} :
    s.caller = .asking →
    s.free.recv = some (some data, free) →
    Fill reader s { s with caller := .idle, free := free, held := [data] }
  | noBuffer {s free} :
    s.caller = .asking →
    s.free.recv = some (none, free) →
    Fill reader s (s.giveUp [])
  | unread {s data} :
    s.caller = .idle →
    s.held = [data] →
    reader.read s.offset s.nextLen = none →
    Fill reader s (s.giveUp [data])
  | submit {s data b} :
    s.caller = .idle →
    s.held = [data] →
    reader.read s.offset s.nextLen = some b →
    checkBlock (s.nextBlock data b) s.offset s.total = .ok () →
    Fill reader s { s with
      caller := .submitting (s.nextBlock data b)
      held := []
      offset := s.offset + s.nextLen }
  | rejected {s data b e} :
    s.caller = .idle →
    s.held = [data] →
    reader.read s.offset s.nextLen = some b →
    checkBlock (s.nextBlock data b) s.offset s.total = .error e →
    Fill reader s (s.giveUp [(s.nextBlock data b).data])
  | sent {s block input} :
    s.caller = .submitting block →
    s.input.send buffers block = some (true, input) →
    Fill reader s { s with caller := .idle, input := input, log := s.log ++ [block] }
  | refused {s block input} :
    s.caller = .submitting block →
    s.input.send buffers block = some (false, input) →
    Fill reader s (s.giveUp [block.data])
  | finish {s} :
    s.caller = .idle →
    s.held = [] →
    ¬ s.offset < s.total →
    Fill reader s { s with caller := .draining, input := s.input.dropSender }
  | drain {s data free} :
    s.caller = .draining →
    s.free.recv = some (some data, free) →
    Fill reader s { s with free := free, discarded := data :: s.discarded }
  | drained {s free} :
    s.caller = .draining →
    s.free.recv = some (none, free) →
    Fill reader s { s with caller := .joining true, free := s.free.dropReceiver }
  | disconnect {s} :
    s.caller = .closing →
    Fill reader s { s with caller := .joining false, free := s.free.dropReceiver }
  | joined {s r} :
    s.caller = .joining true →
    s.worker = .ended r →
    Fill reader s { s with caller := .finished (s.finishResult r) }
  | joinedDrop {s r} :
    s.caller = .joining false →
    s.worker = .ended r →
    Fill reader s { s with caller := .dropped }

/-- The interleaved steps of the loop and its worker. -/
def Fills (reader : Reader) (s : HashWorker) (_ : Unit) (s' : HashWorker) : Prop :=
  Work s s' ∨ Fill reader s s'

/-- Where the loop stands: what it holds and how far it is. -/
def Fits (s : HashWorker) : Caller → Prop
  | .idle => (s.held = [] ∧ s.offset ≤ s.total) ∨ ∃ data, s.held = [data] ∧ s.offset < s.total
  | .asking => s.held = [] ∧ s.offset < s.total
  | .submitting _ => s.held = [] ∧ s.offset ≤ s.total
  | .draining => s.offset = s.total ∧ s.free.receiver = true
  | .joining true | .finished _ => s.offset = s.total ∧ ∃ r, s.worker = .ended r
  | .closing | .joining false | .dropped => True

section
variable {reader : Reader} {total : Nat} {s s' : HashWorker}

/-! ## The loop as calls -/

/-- One call. -/
lemma Call.path (st : Call s s') : Lts.Path Step s [()] s' :=
  .cons (.inr st) .nil

/-- What gives up drops the worker. -/
lemma giveUp_path {ls : List Unit} {wasted : List Buffer}
    (path : Lts.Path Step s ls
      { s with caller := .idle, held := [], discarded := wasted ++ s.discarded }) :
    ∃ ls, Lts.Path Step s ls (s.giveUp wasted) :=
  ⟨_, path.append (Call.close rfl).path⟩

/-- Every step of the loop is a run of calls. -/
lemma Fill.refines (place : s.Fits s.caller) (st : Fill reader s s') :
    ∃ ls, Lts.Path Step s ls s' := by
  cases st with
  | buffer hc => exact ⟨_, (Call.buffer hc).path⟩
  | got hc hr =>
    have path := (Call.got hc hr).path
    rw [hc] at place
    rw [place.1] at path
    exact ⟨_, path⟩
  -- each error drops the worker, which is one more run of calls (`giveUp_path`)
  | noBuffer hc hr =>
    have path := (Call.closed hc hr).path
    rw [hc] at place
    rw [place.1] at path
    exact giveUp_path path
  | @unread data hc held =>
    have path := (@Call.discard s data [] (by rw [held])).path
    rw [hc] at path
    exact giveUp_path path
  | @submit data b hc held _ ok =>
    exact ⟨_, (@Call.submit s data [] _ hc (by rw [held]) rfl ok).path⟩
  | @rejected data b e hc held _ bad =>
    have path := (@Call.rejected s data [] e _ hc (by rw [held]) rfl bad).path
    rw [hc] at path
    exact giveUp_path path
  | sent hc hs => exact ⟨_, (Call.sent hc hs).path⟩
  | refused hc hs =>
    have path := (Call.refused hc hs).path
    rw [hc] at place
    rw [place.1] at path
    exact giveUp_path path
  | finish hc => exact ⟨_, (Call.finish hc).path⟩
  | drain hc hr => exact ⟨_, (Call.drain hc hr).path⟩
  | drained hc hr => exact ⟨_, (Call.drained hc hr).path⟩
  | disconnect hc => exact ⟨_, (Call.disconnect hc).path⟩
  | joined hc hw => exact ⟨_, (Call.joined hc hw).path⟩
  | joinedDrop hc hw => exact ⟨_, (Call.joinedDrop hc hw).path⟩

/-! ## What the worker leaves alone -/

/-- What a step of the worker leaves alone. -/
structure Apart (s s' : HashWorker) : Prop where
  alive : ∀ r, s.worker ≠ .ended r
  caller : s'.caller = s.caller
  held : s'.held = s.held
  offset : s'.offset = s.offset
  total : s'.total = s.total
  log : s'.log = s.log
  receiver : s'.free.receiver = s.free.receiver
  discarded : s'.discarded = s.discarded
  buffers : s'.all ⊆ s.all

/-- A step of the worker leaves the caller alone. -/
lemma Work.apart (st : Work s s') : Apart s s' := by
  cases st with
  | @block block input hw hr hb =>
    obtain ⟨items, -, -⟩ := Chan.recv_some.mp hr
    refine ⟨by simp [hw], rfl, rfl, rfl, rfl, rfl, rfl, rfl, fun b hb => ?_⟩
    simp only [all, hw, Hashing.hand, items, List.mem_append, List.map_cons, List.mem_cons,
      List.not_mem_nil] at hb ⊢
    tauto
  | @invalid block input e hw hr hb =>
    obtain ⟨items, -, -⟩ := Chan.recv_some.mp hr
    refine ⟨by simp [hw], rfl, rfl, rfl, rfl, rfl, rfl, rfl, fun b hb => ?_⟩
    simp only [all, hw, Hashing.hand, items, leave, List.mem_append, List.map_cons, List.mem_cons,
      List.not_mem_nil, Chan.dropReceiver_items, Chan.dropSender_items] at hb ⊢
    tauto
  | complete hw hr =>
    refine ⟨by simp [hw], rfl, rfl, rfl, rfl, rfl, rfl, rfl, fun b hb => ?_⟩
    simpa only [all, hw, Hashing.hand, leave, Chan.dropReceiver_items, Chan.dropSender_items]
      using hb
  | @returned data free hw hs =>
    obtain ⟨-, -, rfl⟩ := Chan.send_true.mp hs
    refine ⟨by simp [hw], rfl, rfl, rfl, rfl, rfl, rfl, rfl, fun b hb => ?_⟩
    simp only [all, hw, Hashing.hand, List.mem_append, List.mem_cons, List.not_mem_nil] at hb ⊢
    tauto
  | @unwanted data free hw hs =>
    refine ⟨by simp [hw], rfl, rfl, rfl, rfl, rfl, rfl, rfl, fun b hb => ?_⟩
    simp only [all, hw, Hashing.hand, leave, List.mem_append, List.mem_cons, List.not_mem_nil,
      Chan.dropReceiver_items, Chan.dropSender_items] at hb ⊢
    tauto

/-- The bytes sent are the same. -/
lemma Apart.submitted (a : Apart s s') : s'.submitted = s.submitted :=
  congrArg (List.flatMap Block.bytes) a.log

/-- Nobody has joined a worker that steps. -/
lemma Apart.not_joined {p : Prop} (a : Apart s s') : ¬ (p ∧ ∃ r, s.worker = .ended r) := by
  rintro ⟨-, r, hr⟩
  exact a.alive r hr

/-- The place of the loop does not depend on what the worker does. -/
lemma Apart.fits (a : Apart s s') (h : s.Fits s.caller) : s'.Fits s'.caller := by
  rw [a.caller]
  cases hc : s.caller with
  | idle | asking | submitting | draining =>
    rw [hc] at h
    simpa only [Fits, a.held, a.offset, a.total, a.receiver] using h
  | joining finish =>
    rw [hc] at h
    cases finish with
    | true => exact (a.not_joined h).elim
    | false => trivial
  | finished =>
    rw [hc] at h
    exact (a.not_joined h).elim
  | closing | dropped => trivial

/-! ## The invariant of the loop -/

/-- The invariant of the loop: where it stands, that its buffers have their size, that the worker ends
    with its input used up, that it submits what it reads, and why it gives up. -/
structure Filled (reader : Reader) (total : Nat) (s : HashWorker) : Prop where
  inv : s.Inv total
  place : s.Fits s.caller
  sized : ∀ b ∈ s.all, b.data.length = chunk
  used : ∀ r, s.worker = .ended r → ¬ s.caller.GaveUp → s.input.items = []
  kept : s.caller.Open → s.discarded = []
  read : ∀ b ∈ s.log, reader.read b.offset b.len = some b.bytes
  next : ∀ block, s.caller = .submitting block →
    reader.read block.offset block.len = some block.bytes
  gaveUp : s.caller.GaveUp → reader.Fails total
  result : ∀ r, s.caller = .finished r → r = .ok ⟨hashBytes s.submitted, total⟩

/-- Nothing is read at the start. -/
lemma Filled.new : Filled reader total (new total) where
  inv := .new
  place := .inl ⟨rfl, Nat.zero_le _⟩
  sized b hb := by
    simp only [all, HashWorker.new, pool, Chan.open', Hashing.hand, Caller.hand, List.map_nil,
      List.append_nil, List.mem_map] at hb
    obtain ⟨name, -, rfl⟩ := hb
    exact length_zeros
  used := nofun
  kept _ := rfl
  read := nofun
  next := nofun
  gaveUp := nofun
  result := nofun

/-- The caller wants its buffers back while the worker is not joined. -/
lemma Filled.wanted (h : s.Filled reader total) (alive : ∀ r, s.worker ≠ .ended r)
    (going : ¬ s.caller.GaveUp) : s.free.receiver = true := by
  have place := h.place
  cases hc : s.caller with
  | idle | asking | submitting => exact (h.inv.flow.opened (by rw [hc]; trivial)).2
  | draining =>
    rw [hc] at place
    exact place.2
  | joining finish =>
    rw [hc] at place going
    cases finish with
    | true =>
      obtain ⟨-, r, hr⟩ := place
      exact absurd hr (alive r)
    | false => exact absurd trivial going
  | finished =>
    rw [hc] at place
    obtain ⟨-, r, hr⟩ := place
    exact absurd hr (alive r)
  | closing | dropped =>
    rw [hc] at going
    exact absurd trivial going

/-- The worker ends only when its input is used up, unless the loop gave up. -/
lemma Filled.used_up (h : s.Filled reader total) (st : Work s s') {r : Result Digest}
    (ended : s'.worker = .ended r) (going : ¬ s'.caller.GaveUp) : s'.input.items = [] := by
  have a := st.apart
  cases st with
  | block | returned => cases ended
  | invalid hw hr hb =>
    obtain ⟨items, -, -⟩ := Chan.recv_some.mp hr
    have chain := h.inv.flow.chain
    rw [items] at chain
    cases chain with
    | cons ok _ =>
      rw [ok] at hb
      cases hb
  | complete hw hr => exact (Chan.recv_closed.mp hr).1
  | unwanted hw hs =>
    obtain ⟨shut, -⟩ := Chan.send_false.mp hs
    rw [h.wanted a.alive going] at shut
    cases shut

/-- The worker keeps the invariant. -/
lemma Filled.work (h : s.Filled reader total) (st : Work s s') : s'.Filled reader total := by
  have a := st.apart
  exact
    { inv := h.inv.step (l := ()) (.inl st)
      place := a.fits h.place
      sized := fun b hb => h.sized b (a.buffers hb)
      used := fun r ended going => h.used_up st ended going
      kept := fun op => a.discarded.trans (h.kept (a.caller ▸ op))
      read := fun b hb => h.read b (a.log ▸ hb)
      next := fun block hb => h.next block (a.caller.symm.trans hb)
      gaveUp := fun hg => h.gaveUp (a.caller ▸ hg)
      result := fun r hr => by rw [a.submitted]; exact h.result r (a.caller.symm.trans hr) }

/-- A buffer with a chunk of the range in it is as long as before. -/
lemma nextBlock_length {data : Buffer} {b : Bytes} (sized : data.data.length = chunk)
    (read : reader.read s.offset s.nextLen = some b) :
    (s.nextBlock data b).data.data.length = chunk := by
  have len : b.length ≤ chunk := by
    rw [reader.exact' read]
    exact Nat.min_le_right _ _
  exact (length_put (by omega)).trans sized

/-- What is submitted is what was read. -/
lemma nextBlock_bytes {data : Buffer} {b : Bytes}
    (read : reader.read s.offset s.nextLen = some b) : (s.nextBlock data b).bytes = b := by
  have len := reader.exact' read
  simp [nextBlock, Block.bytes, put, ← len]

/-- A chunk of the range passes the check. -/
lemma nextBlock_ok {data : Buffer} {b : Bytes} (sized : data.data.length = chunk)
    (read : reader.read s.offset s.nextLen = some b) (more : s.offset < s.total) :
    checkBlock (s.nextBlock data b) s.offset s.total = .ok () := by
  refine deny_ok.mpr ?_
  push Not
  refine ⟨rfl, ?_, rfl, nextBlock_length sized read⟩
  have : 0 < chunk := by decide
  show s.nextLen ≠ 0
  unfold nextLen
  omega

/-- While the caller has not begun to finish the worker is there. -/
lemma Flow.here (h : s.Flow) (op : s.caller.Open) :
    (∀ r, s.worker ≠ .ended r) ∧ s.input.receiver = true ∧ s.free.sender = true := by
  have alive : ∀ r, s.worker ≠ .ended r := by
    intro r hr
    have gone := (h.ended r hr).1
    rw [(h.opened op).1] at gone
    cases gone
  exact ⟨alive, (h.alive alive).1, (h.alive alive).2.1⟩

/-- What the loop holds is one of the buffers, and there is more to read. -/
lemma Filled.held (h : s.Filled reader total) {data : Buffer} (hc : s.caller = .idle)
    (held : s.held = [data]) : data.data.length = chunk ∧ s.offset < s.total := by
  have place := h.place
  rw [hc] at place
  refine ⟨h.sized data ?_, ?_⟩
  · simp only [all, held, List.mem_append, List.mem_singleton]
    tauto
  · obtain ⟨empty, -⟩ | ⟨-, -, more⟩ := place
    · rw [empty] at held
      cases held
    · exact more

/-- The loop keeps its place, and gives up only when it cannot read. -/
lemma Filled.fill_place (h : s.Filled reader total) (st : Fill reader s s') :
    s'.Fits s'.caller ∧ (s'.caller.GaveUp → reader.Fails total) := by
  have place := h.place
  have flow := h.inv.flow
  cases st with
  | buffer hc held more => exact ⟨⟨held, more⟩, nofun⟩
  | got hc hr =>
    rw [hc] at place
    exact ⟨.inr ⟨_, rfl, place.2⟩, nofun⟩
  -- the worker is still there while the loop asks, so this does not happen
  | noBuffer hc hr =>
    obtain ⟨-, gone, -⟩ := Chan.recv_closed.mp hr
    rw [(flow.here (by rw [hc]; trivial)).2.2] at gone
    cases gone
  | unread hc held none =>
    obtain ⟨-, more⟩ := h.held hc held
    refine ⟨trivial, fun _ => ⟨s.offset, h.inv.size ▸ more, ?_⟩⟩
    rwa [← h.inv.size]
  | submit hc held read ok =>
    obtain ⟨-, more⟩ := h.held hc held
    refine ⟨⟨rfl, ?_⟩, nofun⟩
    show s.offset + min (s.total - s.offset) chunk ≤ s.total
    omega
  -- a block that the loop makes is one that `submit` takes
  | rejected hc held read bad =>
    obtain ⟨size, more⟩ := h.held hc held
    rw [nextBlock_ok size read more] at bad
    cases bad
  | sent hc hs =>
    rw [hc] at place
    exact ⟨.inl place, nofun⟩
  | refused hc hs =>
    obtain ⟨gone, -⟩ := Chan.send_false.mp hs
    rw [(flow.here (by rw [hc]; trivial)).2.1] at gone
    cases gone
  | finish hc held done =>
    rw [hc] at place
    -- the loop finishes behind the last block and not before
    obtain ⟨-, le⟩ | ⟨-, -, more⟩ := place
    · exact ⟨⟨Nat.le_antisymm le (Nat.not_lt.mp done), (flow.opened (by rw [hc]; trivial)).2⟩, nofun⟩
    · exact absurd more done
  | drain hc hr =>
    obtain ⟨-, -, receiver⟩ := Chan.recv_some.mp hr
    rw [hc] at place
    refine ⟨?_, fun hg => h.gaveUp hg⟩
    show Fits _ s.caller
    rw [hc]
    exact ⟨place.1, receiver.trans place.2⟩
  | drained hc hr =>
    obtain ⟨-, gone, -⟩ := Chan.recv_closed.mp hr
    rw [hc] at place
    refine ⟨⟨place.1, ?_⟩, nofun⟩
    by_contra alive
    rw [(flow.alive fun r hr => alive ⟨r, hr⟩).2.1] at gone
    cases gone
  | disconnect hc => exact ⟨trivial, fun _ => h.gaveUp (by rw [hc]; trivial)⟩
  | joined hc hw =>
    rw [hc] at place
    exact ⟨place, nofun⟩
  | joinedDrop hc hw => exact ⟨trivial, fun _ => h.gaveUp (by rw [hc]; trivial)⟩

/-- The buffers keep their size. -/
lemma Filled.fill_sized (h : s.Filled reader total) (st : Fill reader s s') :
    ∀ b ∈ s'.all, b.data.length = chunk := by
  have kept : s'.all ⊆ s.all → ∀ b ∈ s'.all, b.data.length = chunk :=
    fun sub b hb => h.sized b (sub hb)
  cases st with
  | buffer hc | finish hc | disconnect hc | joined hc | joinedDrop hc | drained hc =>
    refine kept fun b hb => ?_
    simpa only [all, hc, Caller.hand, Chan.dropSender_items, Chan.dropReceiver_items] using hb
  | got hc hr | drain hc hr =>
    obtain ⟨items, -, -⟩ := Chan.recv_some.mp hr
    refine kept fun b hb => ?_
    simp only [all, hc, items, Caller.hand, List.mem_append, List.mem_cons,
      List.not_mem_nil] at hb ⊢
    tauto
  | noBuffer hc | refused hc =>
    refine kept fun b hb => ?_
    simp only [all, giveUp, hc, Caller.hand, List.mem_append, List.mem_cons, List.not_mem_nil,
      Chan.dropSender_items] at hb ⊢
    tauto
  | unread hc held =>
    refine kept fun b hb => ?_
    simp only [all, giveUp, hc, held, Caller.hand, List.mem_append, List.mem_cons, List.not_mem_nil,
      Chan.dropSender_items] at hb ⊢
    tauto
  | @submit data b hc held read ok =>
    have filled := nextBlock_length (h.held hc held).1 read
    intro c hb
    by_cases eq : c = (s.nextBlock data b).data
    · rw [eq]
      exact filled
    · refine h.sized c ?_
      simp only [all, hc, held, Caller.hand, List.mem_append, List.mem_cons, List.not_mem_nil, eq,
        false_or] at hb ⊢
      tauto
  | rejected hc held read bad =>
    obtain ⟨size, more⟩ := h.held hc held
    rw [nextBlock_ok size read more] at bad
    cases bad
  | sent hc hs =>
    obtain ⟨-, -, rfl⟩ := Chan.send_true.mp hs
    refine kept fun b hb => ?_
    simp only [all, hc, Caller.hand, List.map_append, List.map_cons, List.map_nil,
      List.mem_append, List.mem_cons, List.not_mem_nil] at hb ⊢
    tauto

/-- The loop leaves the input of a worker that has ended alone. -/
lemma Filled.fill_used (h : s.Filled reader total) (st : Fill reader s s') {r : Result Digest}
    (ended : s'.worker = .ended r) (going : ¬ s'.caller.GaveUp) : s'.input.items = [] := by
  have closed : s.worker = .ended r → ¬ s.caller.Open :=
    fun hw op => (h.inv.flow.here op).1 r hw
  cases st with
  | buffer hc | got hc | submit hc | sent hc | finish hc =>
    exact absurd (by rw [hc]; trivial) (closed ended)
  | drain => exact h.used r ended going
  | drained hc | joined hc => exact h.used r ended (by rw [hc]; exact id)
  | noBuffer | unread | rejected | refused | disconnect | joinedDrop => exact absurd trivial going

/-- The loop submits what it reads. -/
lemma Filled.fill_read (h : s.Filled reader total) (st : Fill reader s s') :
    (∀ b ∈ s'.log, reader.read b.offset b.len = some b.bytes) ∧
      (∀ block, s'.caller = .submitting block →
        reader.read block.offset block.len = some block.bytes) := by
  cases st with
  | submit hc held read ok =>
    refine ⟨h.read, ?_⟩
    rintro _ ⟨⟩
    rw [nextBlock_bytes read]
    exact read
  | sent hc hs =>
    refine ⟨fun b hb => ?_, by rintro _ ⟨⟩⟩
    obtain hb | hb := List.mem_append.mp hb
    · exact h.read b hb
    · obtain rfl := List.mem_singleton.mp hb
      exact h.next _ hc
  | drain => exact ⟨h.read, h.next⟩
  | _ => exact ⟨h.read, by rintro _ ⟨⟩⟩

/-- Nothing is thrown away before the end. -/
lemma Filled.fill_kept (h : s.Filled reader total) (st : Fill reader s s')
    (op : s'.caller.Open) : s'.discarded = [] := by
  cases st with
  | buffer hc | got hc | submit hc | sent hc => exact h.kept (by rw [hc]; trivial)
  | drain hc =>
    have op : s.caller.Open := op
    rw [hc] at op
    exact op.elim
  | _ => exact op.elim

/-- A finish behind the whole range has its digest. -/
lemma Filled.digest (h : s.Filled reader total) {r : Result Digest}
    (hc : s.caller = .joining true) (hw : s.worker = .ended r) :
    s.finishResult r = .ok ⟨hashBytes s.submitted, total⟩ := by
  have place := h.place
  have pending := h.inv.flow.pending
  rw [hc] at place pending
  have chain := h.inv.flow.chain
  have bytes := h.inv.flow.bytes
  rw [h.used r hw (by rw [hc]; exact id)] at chain bytes
  have count : s.count = s.total := by
    have length := chain.length
    rw [List.flatMap_nil, List.length_nil, Nat.add_zero] at length
    rw [← place.1, length]
    exact pending.symm
  have hashed : s.hashed = s.submitted := by
    rwa [List.flatMap_nil, List.append_nil] at bytes
  have ok : s.outcome = .ok ⟨hashBytes s.hashed, s.count⟩ :=
    bind_ok.mpr ⟨(), deny_ok.mpr (not_not.mpr count), rfl⟩
  rw [(h.inv.flow.ended r hw).2, ok, hashed, count, ← h.inv.size]
  refine bind_ok.mpr ⟨(), deny_ok.mpr ?_, rfl⟩
  rw [not_or, not_not, not_not]
  exact ⟨place.1, rfl⟩

/-- The loop keeps the invariant. -/
lemma Filled.fill (h : s.Filled reader total) (st : Fill reader s s') :
    s'.Filled reader total := by
  obtain ⟨ls, path⟩ := st.refines h.place
  obtain ⟨place, gaveUp⟩ := h.fill_place st
  obtain ⟨read, next⟩ := h.fill_read st
  refine
    { inv := path.keep (fun _ _ _ inv st => inv.step st) h.inv
      place := place
      sized := h.fill_sized st
      used := fun r ended going => h.fill_used st ended going
      kept := h.fill_kept st
      read := read
      next := next
      gaveUp := gaveUp
      result := ?_ }
  intro r hr
  cases st with
  | joined hc hw =>
    cases hr
    exact h.digest hc hw
  | drain hc =>
    rw [hc] at hr
    cases hr
  | _ => cases hr

/-! ## The loop ends -/

/-- The loop steps, unless it waits or is over. -/
lemma Filled.caller_moves (h : s.Filled reader total) :
    s.CallerWaits ∨ ((∃ r, s.caller = .finished r) ∨ s.caller = .dropped) ∨
      ∃ s', Fill reader s s' := by
  have place := h.place
  cases hc : s.caller with
  | idle =>
    rw [hc] at place
    obtain ⟨held, -⟩ | ⟨data, held, more⟩ := place
    · by_cases more : s.offset < s.total
      · exact .inr (.inr ⟨_, .buffer hc held more⟩)
      · exact .inr (.inr ⟨_, .finish hc held more⟩)
    · cases read : reader.read s.offset s.nextLen with
      | none => exact .inr (.inr ⟨_, .unread hc held read⟩)
      | some b =>
        exact .inr (.inr ⟨_, .submit hc held read (nextBlock_ok (h.held hc held).1 read more)⟩)
  | asking =>
    cases hr : s.free.recv with
    | none => exact .inl (.inl ⟨hc, hr⟩)
    | some p =>
      obtain ⟨data, free⟩ := p
      cases data with
      | some data => exact .inr (.inr ⟨_, .got hc hr⟩)
      | none => exact .inr (.inr ⟨_, .noBuffer hc hr⟩)
  | submitting block =>
    cases hs : s.input.send buffers block with
    | none => exact .inl (.inr (.inl ⟨block, hc, hs⟩))
    | some p =>
      obtain ⟨taken, input⟩ := p
      cases taken with
      | true => exact .inr (.inr ⟨_, .sent hc hs⟩)
      | false => exact .inr (.inr ⟨_, .refused hc hs⟩)
  | draining =>
    cases hr : s.free.recv with
    | none => exact .inl (.inr (.inr (.inl ⟨hc, hr⟩)))
    | some p =>
      obtain ⟨data, free⟩ := p
      cases data with
      | some data => exact .inr (.inr ⟨_, .drain hc hr⟩)
      | none => exact .inr (.inr ⟨_, .drained hc hr⟩)
  | closing => exact .inr (.inr ⟨_, .disconnect hc⟩)
  | joining finish =>
    by_cases ended : ∃ r, s.worker = .ended r
    · obtain ⟨r, hw⟩ := ended
      cases finish with
      | true => exact .inr (.inr ⟨_, .joined hc hw⟩)
      | false => exact .inr (.inr ⟨_, .joinedDrop hc hw⟩)
    · exact .inl (.inr (.inr (.inr ⟨finish, hc, fun r hw => ended ⟨r, hw⟩⟩)))
  | finished r => exact .inr (.inl (.inl ⟨r, rfl⟩))
  | dropped => exact .inr (.inl (.inr rfl))

/-- In the loop the two never wait for each other. -/
lemma Filled.no_mutual_wait (h : s.Filled reader total) : ¬ (s.WorkerWaits ∧ s.CallerWaits) := by
  intro waits
  obtain ⟨-, hc, all3⟩ := h.inv.flow.mutual_wait_iff.mp waits
  have place := h.place
  rw [hc] at place
  rw [place.1, h.kept (by rw [hc]; trivial)] at all3
  cases all3

/-- Nobody waits for a worker that has ended. -/
lemma Flow.ended_waits (h : s.Flow) {r : Result Digest} (ended : s.worker = .ended r) :
    ¬ s.CallerWaits := by
  have closed : ¬ s.caller.Open := fun op => (h.here op).1 r ended
  rintro (⟨hc, -⟩ | ⟨block, hc, -⟩ | ⟨hc, hr⟩ | ⟨finish, hc, alive⟩)
  · exact closed (by rw [hc]; trivial)
  · exact closed (by rw [hc]; trivial)
  · have left := h.left r ended
    rw [(Chan.recv_none.mp hr).2] at left
    cases left
  · exact alive r ended

/-- The loop and its worker can go on until the loop is over. -/
lemma Filled.progress (h : s.Filled reader total) :
    ((∃ r, s.caller = .finished r) ∨ s.caller = .dropped) ∨ ∃ s', Fills reader s () s' := by
  obtain waits | done | ⟨s', st⟩ := h.caller_moves
  · obtain waiting | ⟨r, ended⟩ | ⟨s', st⟩ := s.worker_moves
    · exact absurd ⟨waiting, waits⟩ h.no_mutual_wait
    · exact absurd waits (h.inv.flow.ended_waits ended)
    · exact .inr ⟨s', .inl st⟩
  · exact .inl done
  · exact .inr ⟨s', .inr st⟩

end

/-- A bound on the steps that are left. -/
def left (s : HashWorker) : Nat :=
  20 * (s.total - s.offset) + 4 * s.input.items.length + s.free.items.length + s.worker.rank +
    s.caller.rank s.held

/-- Every step of the worker leaves fewer. -/
lemma Work.left_lt {s s' : HashWorker} (st : Work s s') : s'.left < s.left := by
  cases st with
  | block hw hr =>
    obtain ⟨items, -, -⟩ := Chan.recv_some.mp hr
    simp only [left, hw, items, Hashing.rank, List.length_cons]
    omega
  | invalid hw hr =>
    obtain ⟨items, -, -⟩ := Chan.recv_some.mp hr
    simp only [left, hw, items, Hashing.rank, leave, List.length_cons, Chan.dropReceiver_items,
      Chan.dropSender_items]
    omega
  | complete hw =>
    simp only [left, hw, Hashing.rank, leave, Chan.dropReceiver_items, Chan.dropSender_items]
    omega
  | returned hw hs =>
    obtain ⟨-, -, rfl⟩ := Chan.send_true.mp hs
    simp only [left, hw, Hashing.rank, List.length_append, List.length_singleton]
    omega
  | unwanted hw =>
    simp only [left, hw, Hashing.rank, leave, Chan.dropReceiver_items, Chan.dropSender_items]
    omega

/-- Every step of the loop leaves fewer. -/
lemma Fill.left_lt {reader : Reader} {s s' : HashWorker} (st : Fill reader s s') :
    s'.left < s.left := by
  cases st with
  | buffer hc held =>
    simp only [left, hc, held, Caller.rank, if_true]
    omega
  | got hc hr =>
    obtain ⟨items, -, -⟩ := Chan.recv_some.mp hr
    simp only [left, hc, items, Caller.rank, List.length_cons, reduceCtorEq, if_false]
    omega
  | noBuffer hc | refused hc =>
    simp only [left, giveUp, hc, Caller.rank, Chan.dropSender_items]
    omega
  | unread hc held | rejected hc held =>
    simp only [left, giveUp, hc, held, Caller.rank, Chan.dropSender_items, reduceCtorEq, if_false]
    omega
  | submit hc held _ ok =>
    obtain ⟨-, some', -⟩ := checkBlock_ok ok
    have some' : 0 < min (s.total - s.offset) chunk := some'
    simp only [left, hc, held, nextLen, Caller.rank, reduceCtorEq, if_false]
    omega
  | sent hc hs =>
    obtain ⟨-, -, rfl⟩ := Chan.send_true.mp hs
    have : (if s.held = [] then 8 else 6) ≤ 8 := by split_ifs <;> decide
    simp only [left, hc, Caller.rank, List.length_append, List.length_singleton]
    omega
  | finish hc held =>
    simp only [left, hc, held, Caller.rank, if_true, Chan.dropSender_items]
    omega
  | drain hc hr =>
    obtain ⟨items, -, -⟩ := Chan.recv_some.mp hr
    simp only [left, hc, items, Caller.rank, List.length_cons]
    omega
  | drained hc | disconnect hc =>
    simp only [left, hc, Caller.rank, Chan.dropReceiver_items]
    omega
  | joined hc | joinedDrop hc =>
    simp only [left, hc, Caller.rank]
    omega

/-- Every step of the two leaves fewer. -/
lemma Fills.left_lt {reader : Reader} {s s' : HashWorker} {l : Unit} (st : Fills reader s l s') :
    s'.left < s.left :=
  st.elim Work.left_lt Fill.left_lt

/-- Every step of the two keeps the invariant. -/
lemma Filled.step {reader : Reader} {total : Nat} {s s' : HashWorker} {l : Unit}
    (h : s.Filled reader total) (st : Fills reader s l s') : s'.Filled reader total :=
  st.elim h.work h.fill

/-- Every run of the loop and its worker keeps the invariant. -/
lemma Fills.filled {reader : Reader} {total : Nat} {ls : List Unit} {s : HashWorker}
    (run : Lts.Exec (· = new total) (Fills reader) ls s) : s.Filled reader total := by
  refine run.invariant ?_ fun s l s' h st => h.step st
  rintro _ rfl
  exact .new

/-- Every run of the loop and its worker is bounded. -/
lemma Fills.length_le {reader : Reader} {total : Nat} {ls : List Unit} {s : HashWorker}
    (run : Lts.Exec (· = new total) (Fills reader) ls s) : ls.length ≤ 20 * total + 12 := by
  obtain ⟨_, rfl, path⟩ := run
  have bound := path.length_le (m := left) (fun _ _ _ h st => Filled.step h st)
    (fun _ _ _ _ st => st.left_lt) (Filled.new : Filled reader total (new total))
  have start : (new total).left = 20 * total + 12 := rfl
  omega

end HashWorker

end K11CHaos.Engine.Pipeline
