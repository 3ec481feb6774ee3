import K11CHaos.Engine.HashLoop

/-!
# The loop that writes

`execute_with_gate` of `flash.rs` calls a `ReadAhead` in one loop: ask for the next block, write it to the
device, give it back, until the range is done, and then finish. Each error drops the pipeline.

`Write.refines` makes every step of the loop a run of calls, so the laws of the read-ahead hold in the
loop. `Written` says where the loop stands; with it the loop can always go on until it is finished or has
given up, and it finishes with the digest of the bytes that the reader gave and the device took
(`Writes.written`, `Written.progress`). `pipelines` joins the laws of both pipelines and of their loops.
-/

namespace K11CHaos.Engine.Pipeline

/-- What is left to do for the worker of a read-ahead. -/
def Source.rank : Source → Nat
  | .looping => 10
  | .taking => 9
  | .reading _ => 8
  | .sending _ => 7
  | .failing _ => 6
  | .ended _ | .panicked => 0

/-- What is left to do for the consumer. -/
def Consumer.rank (held : List Block) : Consumer → Nat
  | .idle => if held = [] then 8 else 11
  | .receiving => 7
  | .recycling _ => 10
  | .closing _ => 5
  | .joining _ => 3
  | .dropped | .finished _ => 0

/-- The worker has failed. -/
def Source.Failed : Source → Prop
  | .failing _ | .ended (.error _) | .panicked => True
  | _ => False

/-- The consumer has given up. -/
def Consumer.GaveUp : Consumer → Prop
  | .closing false | .joining false | .dropped => True
  | _ => False

namespace ReadAhead

/-- The steps of the worker on what its reader gives. -/
inductive Reads (reader : Reader) : ReadAhead → ReadAhead → Prop where
  | fill {s data b} :
    s.worker = .reading data →
    reader.read s.read s.nextLen = some b →
    Reads reader s { s with
      worker := .sending ⟨s.read, s.nextLen, fill data b⟩
      hashed := s.hashed ++ (fill data b).data.take s.nextLen
      source := s.source ++ b }
  | readFails {s data message} :
    s.worker = .reading data →
    reader.read s.read s.nextLen = none →
    Reads reader s { s with
      worker := .failing (fail "TRANSACTION_IO" message), lost := data :: s.lost }
  | panics {s data} :
    s.worker = .reading data →
    reader.read s.read s.nextLen = none →
    Reads reader s ({ s with lost := data :: s.lost }.leave .panicked)
  | other {s s'} :
    (∀ data, s.worker ≠ .reading data) →
    Work s s' →
    Reads reader s s'

/-- The loop gives up: the pipeline is dropped with what the consumer has in its hand. -/
def giveUp (s : ReadAhead) (wasted : List Buffer) : ReadAhead :=
  { s with consumer := .closing false, ready := s.ready.dropReceiver, held := [],
           discarded := wasted ++ s.discarded }

/-- The steps of the loop on a device that takes some of the blocks. -/
inductive Write (device : Block → Bool) : ReadAhead → ReadAhead → Prop where
  | next {s} :
    s.consumer = .idle →
    s.held = [] →
    s.offset < s.total →
    Write device s { s with consumer := .receiving }
  | block {s block ready} :
    s.consumer = .receiving →
    s.ready.recv = some (some (.ok block), ready) →
    checkBlock block s.offset s.total = .ok () →
    Write device s { s with
      consumer := .idle
      ready := ready
      offset := s.offset + block.len
      held := [block]
      log := s.log ++ [block] }
  | invalid {s block ready e} :
    s.consumer = .receiving →
    s.ready.recv = some (some (.ok block), ready) →
    checkBlock block s.offset s.total = .error e →
    Write device s ({ s with ready := ready }.giveUp [block.data])
  | error {s e ready} :
    s.consumer = .receiving →
    s.ready.recv = some (some (.error e), ready) →
    Write device s ({ s with ready := ready }.giveUp [])
  | closed {s ready} :
    s.consumer = .receiving →
    s.ready.recv = some (none, ready) →
    Write device s (s.giveUp [])
  | refused {s block} :
    s.consumer = .idle →
    s.held = [block] →
    device block = false →
    Write device s (s.giveUp [block.data])
  | recycle {s block} :
    s.consumer = .idle →
    s.held = [block] →
    device block = true →
    Write device s { s with consumer := .recycling block, held := [] }
  | recycled {s block free} :
    s.consumer = .recycling block →
    s.free.send buffers block.data = some (true, free) →
    Write device s { s with consumer := .idle, free := free }
  | unwanted {s block free} :
    s.consumer = .recycling block →
    s.free.send buffers block.data = some (false, free) →
    Write device s { s with consumer := .idle, discarded := block.data :: s.discarded }
  | finish {s} :
    s.consumer = .idle →
    s.held = [] →
    ¬ s.offset < s.total →
    Write device s { s with consumer := .closing true, ready := s.ready.dropReceiver }
  | disconnect {s finish} :
    s.consumer = .closing finish →
    Write device s { s with consumer := .joining finish, free := s.free.dropSender }
  | joined {s r} :
    s.consumer = .joining true →
    s.worker = .ended r →
    Write device s { s with consumer := .finished (s.finishResult r) }
  | joinedPanic {s} :
    s.consumer = .joining true →
    s.worker = .panicked →
    Write device s
      { s with consumer := .finished (.error (workerError "Source worker panicked")) }
  | joinedDrop {s} :
    s.consumer = .joining false →
    s.worker = .panicked ∨ (∃ r, s.worker = .ended r) →
    Write device s { s with consumer := .dropped }

/-- The interleaved steps of the loop and its worker. -/
def Writes (reader : Reader) (device : Block → Bool) (s : ReadAhead) (_ : Unit) (s' : ReadAhead) :
    Prop :=
  Reads reader s s' ∨ Write device s s'

/-- Where the loop stands: what it holds and how far it is. -/
def Fits (s : ReadAhead) : Consumer → Prop
  | .idle => s.held = [] ∨ ∃ block, s.held = [block]
  | .receiving => s.held = [] ∧ s.offset < s.total
  | .recycling _ => s.held = []
  | .closing true | .joining true | .finished _ => s.held = [] ∧ s.offset = s.total
  | .closing false | .joining false | .dropped => True

section
variable {reader : Reader} {device : Block → Bool} {total : Nat} {s s' : ReadAhead}

/-! ## The loop as calls -/

/-- A reader is one of those that the worker may have. -/
lemma Reads.work (st : Reads reader s s') : Work s s' := by
  cases st with
  | fill hw read => exact .fill hw (reader.exact' read)
  | readFails hw => exact .readFails hw
  | panics hw => exact .panics hw
  | other _ st => exact st

/-- One step of the worker. -/
lemma Work.path (st : Work s s') : Lts.Path Step s [()] s' :=
  .cons (.inl st) .nil

/-- One call. -/
lemma Consume.path (st : Consume s s') : Lts.Path Step s [()] s' :=
  .cons (.inr st) .nil

/-- What gives up drops the pipeline. -/
lemma giveUp_path {ls : List Unit} {wasted : List Buffer} {s0 : ReadAhead}
    (path : Lts.Path Step s0 ls
      { s with consumer := .idle, held := [], discarded := wasted ++ s.discarded }) :
    ∃ ls, Lts.Path Step s0 ls (s.giveUp wasted) :=
  ⟨_, path.append (Consume.close false rfl).path⟩

/-- Every step of the loop is a run of calls. -/
lemma Write.refines (place : s.Fits s.consumer) (st : Write device s s') :
    ∃ ls, Lts.Path Step s ls s' := by
  cases st with
  | next hc => exact ⟨_, (Consume.next hc).path⟩
  | block hc hr hb =>
    have path := (Consume.block hc hr hb).path
    rw [hc] at place
    rw [place.1] at path
    exact ⟨_, path⟩
  | @invalid block ready e hc hr hb =>
    have path := (Consume.invalid hc hr hb).path
    rw [hc] at place
    rw [place.1] at path
    exact @giveUp_path { s with ready := ready } _ _ s path
  | @error e ready hc hr =>
    have path := (Consume.error hc hr).path
    rw [hc] at place
    rw [place.1] at path
    exact @giveUp_path { s with ready := ready } _ _ s path
  | closed hc hr =>
    have path := (Consume.closed hc hr).path
    rw [hc] at place
    rw [place.1] at path
    exact giveUp_path path
  | @refused block hc held =>
    have path := (@Consume.discard s block [] (by rw [held])).path
    rw [hc] at path
    exact giveUp_path path
  | @recycle block hc held => exact ⟨_, (@Consume.recycle s block [] hc (by rw [held])).path⟩
  | recycled hc hs => exact ⟨_, (Consume.recycled hc hs).path⟩
  | unwanted hc hs => exact ⟨_, (Consume.unwanted hc hs).path⟩
  | finish hc => exact ⟨_, (Consume.close true hc).path⟩
  | disconnect hc => exact ⟨_, (Consume.disconnect hc).path⟩
  | joined hc hw => exact ⟨_, (Consume.joined hc hw).path⟩
  | joinedPanic hc hw => exact ⟨_, (Consume.joinedPanic hc hw).path⟩
  | joinedDrop hc hw => exact ⟨_, (Consume.joinedDrop hc hw).path⟩

/-! ## The invariant of the loop -/

/-- Why the loop may give up: the reader or the device failed. -/
def Fault (reader : Reader) (device : Block → Bool) (s : ReadAhead) : Prop :=
  reader.Fails s.total ∨ ∃ b ∈ s.log, device b = false

/-- The block that the worker is about to send. -/
def onHand (s : ReadAhead) : List Block :=
  match s.worker with
  | .sending block => [block]
  | _ => []

/-- The invariant of the loop: where it stands, that the blocks hold what was read and were taken by the
    device, and why the worker fails or the loop gives up. -/
structure Written (reader : Reader) (device : Block → Bool) (total : Nat) (s : ReadAhead) :
    Prop where
  inv : s.Inv total
  place : s.Fits s.consumer
  kept : s.worker.Alive → s.consumer.Open → s.discarded = []
  read : ∀ b ∈ s.log ++ s.queued ++ s.onHand, reader.read b.offset b.len = some b.bytes
  mine : ∀ b ∈ s.held, b ∈ s.log
  taken : ¬ s.consumer.GaveUp → ∀ b ∈ s.log, b ∈ s.held ∨ device b = true
  failed : s.worker.Failed → s.Fault reader device
  reported : ∀ e, .error e ∈ s.ready.items → s.Fault reader device
  gaveUp : s.consumer.GaveUp → s.Fault reader device
  result : ∀ r, s.consumer = .finished r → ∃ d, r = .ok d

/-- Nothing is written at the start. -/
lemma Written.new : Written reader device total (new total) where
  inv := .new
  place := .inl rfl
  kept _ _ := rfl
  read := nofun
  mine := nofun
  taken _ := nofun
  failed := nofun
  reported := nofun
  gaveUp := nofun
  result := nofun

/-- No more is delivered than was read. -/
lemma Flow.behind (h : s.Flow) : s.offset ≤ s.read := by
  have := h.chain.length
  omega

/-- A loop that shut its ends before the worker was done has seen a fault. -/
lemma Written.shut (h : s.Written reader device total) (closed : ¬ s.consumer.Open)
    (more : s.read < s.total) : s.Fault reader device := by
  have place := h.place
  have behind := h.inv.flow.behind
  cases hc : s.consumer with
  | idle | receiving | recycling => exact absurd (by rw [hc]; trivial) closed
  | closing finish | joining finish =>
    cases finish with
    | true =>
      rw [hc] at place
      have := place.2
      omega
    | false => exact h.gaveUp (by rw [hc]; trivial)
  | finished =>
    rw [hc] at place
    have := place.2
    omega
  | dropped => exact h.gaveUp (by rw [hc]; trivial)

/-- The worker steps on what its reader gives, unless it waits or has ended. -/
lemma worker_moves :
    s.WorkerWaits ∨ ¬ s.worker.Alive ∨ ∃ s', Reads reader s s' := by
  cases hw : s.worker with
  | looping =>
    by_cases more : s.read < s.total
    · exact .inr (.inr ⟨_, .other (by simp [hw]) (.more hw more)⟩)
    · exact .inr (.inr ⟨_, .other (by simp [hw]) (.complete hw (Nat.not_lt.mp more))⟩)
  | taking =>
    cases hr : s.free.recv with
    | none => exact .inl (.inl ⟨hw, hr⟩)
    | some p =>
      obtain ⟨data, free⟩ := p
      cases data with
      | some data => exact .inr (.inr ⟨_, .other (by simp [hw]) (.take hw hr)⟩)
      | none => exact .inr (.inr ⟨_, .other (by simp [hw]) (.abandoned hw hr)⟩)
  | reading data =>
    cases read : reader.read s.read s.nextLen with
    | some b => exact .inr (.inr ⟨_, .fill hw read⟩)
    | none => exact .inr (.inr ⟨_, @Reads.readFails _ _ _ "" hw read⟩)
  | sending block =>
    cases hs : s.ready.send buffers (.ok block) with
    | none => exact .inl (.inr (.inl ⟨block, hw, hs⟩))
    | some p =>
      obtain ⟨taken, ready⟩ := p
      cases taken with
      | true => exact .inr (.inr ⟨_, .other (by simp [hw]) (.sent hw hs)⟩)
      | false => exact .inr (.inr ⟨_, .other (by simp [hw]) (.refused hw hs)⟩)
  | failing e =>
    cases hs : s.ready.send buffers (.error e) with
    | none => exact .inl (.inr (.inr ⟨e, hw, hs⟩))
    | some p =>
      obtain ⟨taken, ready⟩ := p
      exact .inr (.inr ⟨_, .other (by simp [hw]) (.report hw hs)⟩)
  | ended r => exact .inr (.inl id)
  | panicked => exact .inr (.inl id)

/-- What a step of the worker leaves alone. -/
structure Apart (s s' : ReadAhead) : Prop where
  alive : s.worker.Alive
  consumer : s'.consumer = s.consumer
  held : s'.held = s.held
  offset : s'.offset = s.offset
  total : s'.total = s.total
  log : s'.log = s.log
  discarded : s'.discarded = s.discarded

/-- A step of the worker leaves the consumer alone. -/
lemma Work.apart (st : Work s s') : Apart s s' := by
  cases st with
  | more hw | complete hw | take hw | abandoned hw | fill hw | readFails hw | panics hw | sent hw
  | refused hw | report hw => exact ⟨by rw [hw]; trivial, rfl, rfl, rfl, rfl, rfl, rfl⟩

/-- The place of the loop does not depend on what the worker does. -/
lemma Apart.fits (a : Apart s s') (h : s.Fits s.consumer) : s'.Fits s'.consumer := by
  rw [a.consumer]
  cases hc : s.consumer with
  | idle | receiving | recycling | finished =>
    rw [hc] at h
    simpa only [Fits, a.held, a.offset, a.total] using h
  | closing finish | joining finish =>
    rw [hc] at h
    cases finish with
    | true => simpa only [Fits, a.held, a.offset, a.total] using h
    | false => trivial
  | dropped => trivial

/-- A fault that was seen stays. -/
lemma Apart.fault (a : Apart s s') (h : s.Fault reader device) : s'.Fault reader device := by
  rwa [Fault, a.total, a.log]

/-- The worker fails only at a fault. -/
lemma Written.work_failed (h : s.Written reader device total) (st : Reads reader s s')
    (failed : s'.worker.Failed) : s.Fault reader device := by
  have ahead := h.inv.flow.ahead
  cases st with
  | fill => exact failed.elim
  | readFails hw none | panics hw none =>
    rw [hw] at ahead
    exact .inl ⟨s.read, ahead.2.1, none⟩
  | other notReading st =>
    cases st with
    | more | complete | take | fill | sent => exact failed.elim
    | readFails hw | panics hw => exact absurd hw (notReading _)
    | abandoned hw hr =>
      rw [hw] at ahead
      obtain ⟨-, gone, -⟩ := Chan.recv_closed.mp hr
      refine h.shut (fun op => ?_) ahead.2
      rw [(h.inv.ends.opened op).1] at gone
      cases gone
    | refused hw hs =>
      rw [hw] at ahead
      obtain ⟨-, pos, len, -⟩ := checkBlock_ok ahead.1
      obtain ⟨gone, -⟩ := Chan.send_false.mp hs
      refine h.shut (fun op => ?_) (by omega)
      rw [(h.inv.ends.opened op).2] at gone
      cases gone
    | report hw => exact h.failed (by rw [hw]; trivial)

/-- The worker reports only a fault. -/
lemma Written.work_reported (h : s.Written reader device total) (st : Reads reader s s')
    {e : Failure} (told : .error e ∈ s'.ready.items) : s.Fault reader device := by
  cases st with
  | fill | readFails | panics => exact h.reported e told
  | other notReading st =>
    cases st with
    | more | complete | take | abandoned | fill | readFails | panics | refused =>
      exact h.reported e told
    | sent hw hs =>
      obtain ⟨-, -, rfl⟩ := Chan.send_true.mp hs
      obtain told | told := List.mem_append.mp told
      · exact h.reported e told
      · cases List.mem_singleton.mp told
    | report hw => exact h.failed (by rw [hw]; trivial)

/-- The worker sends what it reads. -/
lemma Written.work_read (h : s.Written reader device total) (st : Reads reader s s') :
    ∀ b ∈ s'.log ++ s'.queued ++ s'.onHand, reader.read b.offset b.len = some b.bytes := by
  have ahead := h.inv.flow.ahead
  have before : ∀ b ∈ s.log ++ s.queued, reader.read b.offset b.len = some b.bytes :=
    fun b hb => h.read b (List.mem_append_left _ hb)
  cases st with
  | @fill data b hw read =>
    rw [hw] at ahead
    intro c hc
    obtain hc | hc := List.mem_append.mp hc
    · exact before c hc
    · obtain rfl := List.mem_singleton.mp hc
      have len := reader.exact' read
      have bytes : Block.bytes ⟨s.read, s.nextLen, fill data b⟩ = b := by
        simp [Block.bytes, ReadAhead.fill, put, ← len]
      rw [bytes]
      exact read
  | readFails | panics =>
    intro c hc
    exact before c (by simpa [onHand, leave, queued] using hc)
  | other notReading st =>
    cases st with
    | more | complete | take | abandoned | readFails | panics | refused =>
      intro c hc
      exact before c (by simpa [onHand, leave, queued] using hc)
    | fill hw => exact absurd hw (notReading _)
    | @sent block ready hw hs =>
      obtain ⟨-, -, rfl⟩ := Chan.send_true.mp hs
      intro c hc
      refine h.read c ?_
      simpa [onHand, hw, queued, Except.toOption] using hc
    | @report error taken ready hw hs =>
      intro c hc
      refine before c ?_
      cases taken with
      | true =>
        obtain ⟨-, -, rfl⟩ := Chan.send_true.mp hs
        simpa [onHand, leave, queued, Except.toOption] using hc
      | false =>
        obtain ⟨-, rfl⟩ := Chan.send_false.mp hs
        simpa [onHand, leave, queued] using hc

/-- The worker keeps the invariant. -/
lemma Written.work (h : s.Written reader device total) (st : Reads reader s s') :
    s'.Written reader device total := by
  have a := st.work.apart
  exact
    { inv := h.inv.step (l := ()) (.inl st.work)
      place := a.fits h.place
      kept := fun _ op => a.discarded.trans (h.kept a.alive (a.consumer ▸ op))
      read := h.work_read st
      mine := by rw [a.held, a.log]; exact h.mine
      taken := by rw [a.held, a.log, a.consumer]; exact h.taken
      failed := fun hf => a.fault (h.work_failed st hf)
      reported := fun e he => a.fault (h.work_reported st he)
      gaveUp := fun hg => a.fault (h.gaveUp (a.consumer ▸ hg))
      result := fun r hr => h.result r (a.consumer.symm.trans hr) }

/-- A queue without a sender and without blocks belongs to a worker that failed or delivered the whole
    range. -/
lemma Written.dry (h : s.Written reader device total) {ready : Chan (Result Block)}
    (hr : s.ready.recv = some (none, ready)) : s.Fault reader device ∨ s.offset = s.total := by
  obtain ⟨empty, gone, -⟩ := Chan.recv_closed.mp hr
  have ahead := h.inv.flow.ahead
  have chain := h.inv.flow.chain.length
  have none : s.queued = [] := by rw [queued, empty]; rfl
  rw [none, List.flatMap_nil, List.length_nil] at chain
  have alive : ¬ s.worker.Alive := by
    intro alive
    rw [(h.inv.ends.alive alive).2.1] at gone
    cases gone
  cases hw : s.worker with
  | looping | taking | reading | sending | failing => exact absurd (by rw [hw]; trivial) alive
  | panicked => exact .inl (h.failed (by rw [hw]; trivial))
  | ended r =>
    cases r with
    | error e => exact .inl (h.failed (by rw [hw]; trivial))
    | ok d =>
      rw [hw] at ahead
      obtain ⟨-, -, full⟩ := ahead
      exact .inr (by omega)

/-- The queue holds blocks that pass the check. -/
lemma Written.valid (h : s.Written reader device total) {block : Block}
    {ready : Chan (Result Block)} (hr : s.ready.recv = some (some (.ok block), ready)) :
    checkBlock block s.offset s.total = .ok () := by
  have chain := h.inv.flow.chain
  rw [queued, (Chan.recv_some.mp hr).1] at chain
  cases chain with
  | cons ok _ => exact ok

/-- The loop keeps its place, and gives up only at a fault. -/
lemma Written.write_place (h : s.Written reader device total) (st : Write device s s') :
    s'.Fits s'.consumer ∧ (s'.consumer.GaveUp → s.Fault reader device) := by
  have place := h.place
  cases st with
  | next hc held more => exact ⟨⟨held, more⟩, nofun⟩
  | block => exact ⟨.inr ⟨_, rfl⟩, nofun⟩
  | invalid hc hr bad =>
    rw [h.valid hr] at bad
    cases bad
  | @error e ready hc hr =>
    obtain ⟨items, -, -⟩ := Chan.recv_some.mp hr
    exact ⟨trivial, fun _ => h.reported e (by rw [items]; exact List.mem_cons_self)⟩
  | closed hc hr =>
    rw [hc] at place
    refine ⟨trivial, fun _ => (h.dry hr).resolve_right fun done => ?_⟩
    exact absurd place.2 (by omega)
  | refused hc held bad =>
    exact ⟨trivial, fun _ => .inr ⟨_, h.mine _ (by rw [held]; exact List.mem_cons_self), bad⟩⟩
  | recycle => exact ⟨rfl, nofun⟩
  | recycled hc | unwanted hc =>
    rw [hc] at place
    exact ⟨.inl place, nofun⟩
  | finish hc held done =>
    exact ⟨⟨held, Nat.le_antisymm h.inv.flow.within (Nat.not_lt.mp done)⟩, nofun⟩
  | @disconnect finish hc =>
    rw [hc] at place
    cases finish with
    | true => exact ⟨place, nofun⟩
    | false => exact ⟨trivial, fun _ => h.gaveUp (by rw [hc]; trivial)⟩
  | joined hc | joinedPanic hc =>
    rw [hc] at place
    exact ⟨place, nofun⟩
  | joinedDrop hc => exact ⟨trivial, fun _ => h.gaveUp (by rw [hc]; trivial)⟩

/-- What the loop keeps of the range and the blocks that it got. -/
lemma Write.log (st : Write device s s') : s'.total = s.total ∧ s.log ⊆ s'.log := by
  cases st with
  | block => exact ⟨rfl, List.subset_append_left _ _⟩
  | _ => exact ⟨rfl, List.Subset.refl _⟩

/-- A fault that was seen stays. -/
lemma Write.fault (st : Write device s s') (h : s.Fault reader device) :
    s'.Fault reader device := by
  obtain ⟨total, sub⟩ := st.log
  rw [Fault, total]
  exact h.imp_right fun ⟨b, hb, bad⟩ => ⟨b, sub hb, bad⟩

/-- Nothing is added to the queue by the loop. -/
lemma Write.reported (st : Write device s s') {e : Failure} (told : .error e ∈ s'.ready.items) :
    .error e ∈ s.ready.items := by
  cases st with
  | block hc hr | invalid hc hr | error hc hr =>
    rw [(Chan.recv_some.mp hr).1]
    exact List.mem_cons_of_mem _ told
  | _ => exact told

/-- The blocks stay those that were read. -/
lemma Written.write_read (h : s.Written reader device total) (st : Write device s s') :
    ∀ b ∈ s'.log ++ s'.queued ++ s'.onHand, reader.read b.offset b.len = some b.bytes := by
  have first {r : Result Block} {ready : Chan (Result Block)}
      (hr : s.ready.recv = some (some r, ready)) :
      s.queued = (r :: ready.items).filterMap Except.toOption := by
    rw [queued, (Chan.recv_some.mp hr).1]
  cases st with
  | block hc hr =>
    intro c mem
    refine h.read c ?_
    rw [first hr]
    simpa [onHand, queued, Except.toOption] using mem
  | invalid hc hr bad =>
    rw [h.valid hr] at bad
    cases bad
  | error hc hr =>
    intro c mem
    refine h.read c ?_
    rw [first hr]
    simpa [onHand, giveUp, queued, Except.toOption] using mem
  | _ => exact h.read

/-- What the loop holds it was given, and what it gave back the device took. -/
lemma Written.write_taken (h : s.Written reader device total) (st : Write device s s') :
    (∀ b ∈ s'.held, b ∈ s'.log) ∧
      (¬ s'.consumer.GaveUp → ∀ b ∈ s'.log, b ∈ s'.held ∨ device b = true) := by
  have place := h.place
  cases st with
  | next hc held | finish hc held =>
    exact ⟨h.mine, fun _ => h.taken (by rw [hc]; exact id)⟩
  | block hc hr hb =>
    rw [hc] at place
    refine ⟨fun b mem => List.mem_append_right _ mem, fun _ b mem => ?_⟩
    obtain mem | mem := List.mem_append.mp mem
    · have kept := h.taken (by rw [hc]; exact id) b mem
      rw [place.1] at kept
      exact .inr (kept.resolve_left List.not_mem_nil)
    · exact .inl mem
  | invalid | error | closed | refused => exact ⟨nofun, fun going => absurd trivial going⟩
  | @recycle block hc held ok =>
    refine ⟨nofun, fun _ b mem => .inr ?_⟩
    obtain mine | done := h.taken (by rw [hc]; exact id) b mem
    · rw [held] at mine
      obtain rfl := List.mem_singleton.mp mine
      exact ok
    · exact done
  | recycled hc | unwanted hc => exact ⟨h.mine, fun _ => h.taken (by rw [hc]; exact id)⟩
  | @disconnect finish hc =>
    refine ⟨h.mine, fun going => h.taken ?_⟩
    rw [hc]
    cases finish with
    | true => exact id
    | false => exact going
  | joined hc | joinedPanic hc => exact ⟨h.mine, fun _ => h.taken (by rw [hc]; exact id)⟩
  | joinedDrop => exact ⟨h.mine, fun going => absurd trivial going⟩

/-- The loop throws nothing away while it goes on and the worker is there. -/
lemma Written.write_kept (h : s.Written reader device total) (st : Write device s s')
    (alive : s'.worker.Alive) (op : s'.consumer.Open) : s'.discarded = [] := by
  cases st with
  | next hc | block hc | recycle hc | recycled hc => exact h.kept alive (by rw [hc]; trivial)
  | unwanted hc hs =>
    have alive : s.worker.Alive := alive
    have gone := (Chan.send_false.mp hs).1
    rw [(h.inv.ends.alive alive).1] at gone
    cases gone
  | _ => exact op.elim

/-- A worker that is joined behind the whole range has succeeded. -/
lemma Written.succeeded (h : s.Written reader device total) (whole : s.offset = s.total) :
    ¬ s.worker.Failed := by
  have ahead := h.inv.flow.ahead
  have behind := h.inv.flow.behind
  intro failed
  cases hw : s.worker with
  | looping | taking | reading | sending => rw [hw] at failed; exact failed
  | failing | panicked =>
    rw [hw] at ahead
    exact absurd ahead (by show ¬ s.read < s.total; omega)
  | ended r =>
    rw [hw] at ahead failed
    cases r with
    | ok d => exact failed
    | error e => exact absurd ahead (by show ¬ s.read < s.total; omega)

/-- A finish of the loop succeeds. -/
lemma Written.write_result (h : s.Written reader device total) (st : Write device s s')
    {r : Result Digest} (hr : s'.consumer = .finished r) : ∃ d, r = .ok d := by
  have place := h.place
  cases st with
  | @joined r hc hw =>
    cases hr
    rw [hc] at place
    have good := h.succeeded place.2
    have ahead := h.inv.flow.ahead
    rw [hw] at good ahead
    cases r with
    | error e => exact absurd trivial good
    | ok d =>
      obtain ⟨rfl, -, full⟩ := ahead
      refine ⟨_, bind_ok.mpr ⟨(), deny_ok.mpr ?_, rfl⟩⟩
      rw [not_or, not_not, not_not]
      exact ⟨place.2, full⟩
  | joinedPanic hc hw =>
    rw [hc] at place
    exact absurd (by rw [hw]; trivial) (h.succeeded place.2)
  | _ => cases hr

/-- The loop keeps the invariant. -/
lemma Written.write (h : s.Written reader device total) (st : Write device s s') :
    s'.Written reader device total := by
  obtain ⟨ls, path⟩ := st.refines h.place
  obtain ⟨place, gaveUp⟩ := h.write_place st
  obtain ⟨mine, taken⟩ := h.write_taken st
  have worker : s'.worker = s.worker := by cases st <;> rfl
  exact
    { inv := path.keep (fun _ _ _ inv st => inv.step st) h.inv
      place := place
      kept := h.write_kept st
      read := h.write_read st
      mine := mine
      taken := taken
      failed := fun hf => st.fault (h.failed (worker ▸ hf))
      reported := fun e told => st.fault (h.reported e (st.reported told))
      gaveUp := fun hg => st.fault (gaveUp hg)
      result := fun r hr => h.write_result st hr }

/-! ## The loop ends -/

/-- The loop steps, unless it waits or is over. -/
lemma Written.consumer_moves (h : s.Written reader device total) :
    s.ConsumerWaits ∨ ((∃ r, s.consumer = .finished r) ∨ s.consumer = .dropped) ∨
      ∃ s', Write device s s' := by
  have place := h.place
  cases hc : s.consumer with
  | idle =>
    rw [hc] at place
    obtain held | ⟨block, held⟩ := place
    · by_cases more : s.offset < s.total
      · exact .inr (.inr ⟨_, .next hc held more⟩)
      · exact .inr (.inr ⟨_, .finish hc held more⟩)
    · cases ok : device block with
      | true => exact .inr (.inr ⟨_, .recycle hc held ok⟩)
      | false => exact .inr (.inr ⟨_, .refused hc held ok⟩)
  | receiving =>
    cases hr : s.ready.recv with
    | none => exact .inl (.inl ⟨hc, hr⟩)
    | some p =>
      obtain ⟨r, ready⟩ := p
      cases r with
      | none => exact .inr (.inr ⟨_, .closed hc hr⟩)
      | some r =>
        cases r with
        | error e => exact .inr (.inr ⟨_, .error hc hr⟩)
        | ok block => exact .inr (.inr ⟨_, .block hc hr (h.valid hr)⟩)
  | recycling block =>
    cases hs : s.free.send buffers block.data with
    | none => exact .inl (.inr (.inl ⟨block, hc, hs⟩))
    | some p =>
      obtain ⟨taken, free⟩ := p
      cases taken with
      | true => exact .inr (.inr ⟨_, .recycled hc hs⟩)
      | false => exact .inr (.inr ⟨_, .unwanted hc hs⟩)
  | closing => exact .inr (.inr ⟨_, .disconnect hc⟩)
  | joining finish =>
    -- the join is the one wait on the thread itself
    by_cases ended : s.worker = .panicked ∨ ∃ r, s.worker = .ended r
    · cases finish with
      | false => exact .inr (.inr ⟨_, .joinedDrop hc ended⟩)
      | true =>
        obtain hw | ⟨r, hw⟩ := ended
        · exact .inr (.inr ⟨_, .joinedPanic hc hw⟩)
        · exact .inr (.inr ⟨_, .joined hc hw⟩)
    · exact .inl (.inr (.inr ⟨finish, hc, fun hw => ended (.inl hw), fun r hw => ended (.inr ⟨r, hw⟩)⟩))
  | finished r => exact .inr (.inl (.inl ⟨r, rfl⟩))
  | dropped => exact .inr (.inl (.inr rfl))

/-- In the loop the two never wait for each other. -/
lemma Written.no_mutual_wait (h : s.Written reader device total) :
    ¬ (s.WorkerWaits ∧ s.ConsumerWaits) := by
  intro waits
  obtain ⟨hw, hc, all3⟩ := h.inv.ends.mutual_wait_iff.mp waits
  have place := h.place
  rw [hc] at place
  rw [place.1, h.kept (by rw [hw]; trivial) (by rw [hc]; trivial)] at all3
  cases all3

/-- Nobody waits for a worker that has ended. -/
lemma Ends.ended_waits (h : s.Ends) (ended : ¬ s.worker.Alive) : ¬ s.ConsumerWaits := by
  obtain ⟨receiver, sender⟩ := h.gone ended
  rintro (⟨-, hr⟩ | ⟨block, -, hs⟩ | ⟨finish, -, calm, running⟩)
  · rw [(Chan.recv_none.mp hr).2] at sender
    cases sender
  · rw [(Chan.send_none.mp hs).1] at receiver
    cases receiver
  · cases hw : s.worker with
    | looping | taking | reading | sending | failing => exact ended (by rw [hw]; trivial)
    | ended r => exact running r hw
    | panicked => exact calm hw

/-- The loop and its worker can go on until the loop is over. -/
lemma Written.progress (h : s.Written reader device total) :
    ((∃ r, s.consumer = .finished r) ∨ s.consumer = .dropped) ∨
      ∃ s', Writes reader device s () s' := by
  obtain waits | done | ⟨s', st⟩ := h.consumer_moves
  · obtain waiting | ended | ⟨s', st⟩ :
        s.WorkerWaits ∨ ¬ s.worker.Alive ∨ ∃ s', Reads reader s s' := worker_moves
    · exact absurd ⟨waiting, waits⟩ h.no_mutual_wait
    · exact absurd waits (h.inv.ends.ended_waits ended)
    · exact .inr ⟨s', .inl st⟩
  · exact .inl done
  · exact .inr ⟨s', .inr st⟩

/-- Every step of the two keeps the invariant. -/
lemma Written.step {l : Unit} (h : s.Written reader device total)
    (st : Writes reader device s l s') : s'.Written reader device total :=
  st.elim h.work h.write

end

/-- A bound on the steps that are left. -/
def left (s : ReadAhead) : Nat :=
  20 * (s.total - s.read) + 5 * s.ready.items.length + s.free.items.length + s.worker.rank +
    s.consumer.rank s.held

/-- Every step of the worker leaves fewer. -/
lemma Work.left_lt {s s' : ReadAhead} (flow : s.Flow) (st : Work s s') : s'.left < s.left := by
  cases st with
  | more hw | fill hw | readFails hw =>
    simp only [left, hw, Source.rank]
    omega
  | complete hw | panics hw =>
    simp only [left, hw, Source.rank, leave, Chan.dropReceiver_items, Chan.dropSender_items]
    omega
  | take hw hr =>
    obtain ⟨items, -, -⟩ := Chan.recv_some.mp hr
    simp only [left, hw, items, Source.rank, List.length_cons]
    omega
  | abandoned hw | refused hw =>
    simp only [left, hw, Source.rank]
    omega
  | sent hw hs =>
    obtain ⟨-, -, rfl⟩ := Chan.send_true.mp hs
    have ahead := flow.ahead
    rw [hw] at ahead
    obtain ⟨-, pos, len, -⟩ := checkBlock_ok ahead.1
    simp only [left, hw, Source.rank, List.length_append, List.length_singleton]
    omega
  | @report error taken ready hw hs =>
    cases taken with
    | true =>
      obtain ⟨-, -, rfl⟩ := Chan.send_true.mp hs
      simp only [left, hw, Source.rank, leave, Chan.dropReceiver_items, Chan.dropSender_items,
        List.length_append, List.length_singleton]
      omega
    | false =>
      obtain ⟨-, rfl⟩ := Chan.send_false.mp hs
      simp only [left, hw, Source.rank, leave, Chan.dropReceiver_items, Chan.dropSender_items]
      omega

/-- Every step of the loop leaves fewer. -/
lemma Write.left_lt {device : Block → Bool} {s s' : ReadAhead} (place : s.Fits s.consumer)
    (st : Write device s s') : s'.left < s.left := by
  cases st with
  | next hc held | finish hc held =>
    simp only [left, hc, held, Consumer.rank, if_true, Chan.dropReceiver_items]
    omega
  | block hc hr | invalid hc hr | error hc hr =>
    obtain ⟨items, -, -⟩ := Chan.recv_some.mp hr
    simp only [left, giveUp, hc, items, Consumer.rank, List.length_cons, reduceCtorEq, if_false,
      Chan.dropReceiver_items]
    omega
  | closed hc =>
    simp only [left, giveUp, hc, Consumer.rank, Chan.dropReceiver_items]
    omega
  | refused hc held | recycle hc held =>
    simp only [left, giveUp, hc, held, Consumer.rank, reduceCtorEq, if_false,
      Chan.dropReceiver_items]
    omega
  | recycled hc hs =>
    obtain ⟨-, -, rfl⟩ := Chan.send_true.mp hs
    rw [hc] at place
    have held : s.held = [] := place
    simp only [left, hc, held, Consumer.rank, if_true, List.length_append, List.length_singleton]
    omega
  | unwanted hc =>
    rw [hc] at place
    have held : s.held = [] := place
    simp only [left, hc, held, Consumer.rank, if_true]
    omega
  | disconnect hc =>
    simp only [left, hc, Consumer.rank, Chan.dropSender_items]
    omega
  | joined hc | joinedPanic hc | joinedDrop hc =>
    simp only [left, hc, Consumer.rank]
    omega

/-- Every step of the two leaves fewer. -/
lemma Written.left_lt {reader : Reader} {device : Block → Bool} {total : Nat} {s s' : ReadAhead}
    {l : Unit} (h : s.Written reader device total) (st : Writes reader device s l s') :
    s'.left < s.left :=
  st.elim (fun st => Work.left_lt h.inv.flow st.work) (Write.left_lt h.place)

/-- Every run of the loop and its worker keeps the invariant. -/
lemma Writes.written {reader : Reader} {device : Block → Bool} {total : Nat} {ls : List Unit}
    {s : ReadAhead} (run : Lts.Exec (· = new total) (Writes reader device) ls s) :
    s.Written reader device total := by
  refine run.invariant ?_ fun s l s' h st => h.step st
  rintro _ rfl
  exact .new

/-- Every run of the loop and its worker is bounded. -/
lemma Writes.length_le {reader : Reader} {device : Block → Bool} {total : Nat} {ls : List Unit}
    {s : ReadAhead} (run : Lts.Exec (· = new total) (Writes reader device) ls s) :
    ls.length ≤ 20 * total + 21 := by
  obtain ⟨_, rfl, path⟩ := run
  have bound := path.length_le (m := left) (fun _ _ _ h st => Written.step h st)
    (fun _ _ _ h st => h.left_lt st) (Written.new : Written reader device total (new total))
  have start : (new total).left = 20 * total + 21 := rfl
  omega

/-! ## The laws of both pipelines -/

/-- What holds of a read-ahead with any reader and any consumer: what `next` delivered is in order and
    the start of what the reader gave, a finish that succeeds saw the whole range and has its digest, the
    three buffers are all there, and the two wait for each other only if the consumer withholds all three.
    A consumer that waits otherwise has a worker that can step. -/
structure Delivers (total : Nat) (s : ReadAhead) : Prop where
  inOrder : InOrder s.log
  starts : s.delivered <+: s.source
  finished : ∀ d, s.consumer = .finished (.ok d) →
    s.delivered = s.source ∧ s.delivered.length = total ∧ d = ⟨hashBytes s.delivered, total⟩
  conserved : (s.all.map Buffer.name).Perm (List.range buffers)
  waits : s.WorkerWaits ∧ s.ConsumerWaits ↔
    s.worker = .taking ∧ s.consumer = .receiving ∧ s.held.length + s.discarded.length = buffers
  answered : s.ConsumerWaits → ¬ s.WorkerWaits → ∃ s', Work s s'

/-- What holds of the loop behind any number of steps: the two never wait for each other, the steps are
    bounded, and the loop can go on until it is over. It finishes with the whole range, as the reader gave
    it and the device took it, and its digest; and it gives up only if the reader or the device failed. -/
structure Completes (reader : Reader) (device : Block → Bool) (total : Nat) (ls : List Unit)
    (s : ReadAhead) : Prop where
  laws : s.Delivers total
  apart : ¬ (s.WorkerWaits ∧ s.ConsumerWaits)
  bounded : ls.length ≤ 20 * total + 21
  goesOn : ((∃ r, s.consumer = .finished r) ∨ s.consumer = .dropped) ∨
    ∃ s', Writes reader device s () s'
  finished : ∀ r, s.consumer = .finished r →
    r = .ok ⟨hashBytes s.delivered, total⟩ ∧ s.delivered.length = total ∧
      ∀ b ∈ s.log, reader.read b.offset b.len = some b.bytes ∧ device b = true
  dropped : s.consumer = .dropped → reader.Fails total ∨ ∃ b ∈ s.log, device b = false

/-- A reader that gives no bytes is one of those that the worker may have. -/
def silent : Reader where
  read _ _ := none
  exact' := nofun

/-- The invariant gives what `next` and `finish` deliver. -/
lemma Inv.delivers {total : Nat} {s : ReadAhead} (h : s.Inv total) : s.Delivers total where
  inOrder := h.flow.logged.inOrder
  starts := h.flow.starts
  finished _ hd := h.finished hd
  conserved := h.ends.names
  waits := h.ends.mutual_wait_iff
  answered waits going := by
    obtain waiting | ended | ⟨s', st⟩ :
        s.WorkerWaits ∨ ¬ s.worker.Alive ∨ ∃ s', Reads silent s s' := worker_moves
    · exact absurd waiting going
    · exact absurd waits (h.ends.ended_waits ended)
    · exact ⟨s', st.work⟩

/-- A finish of the loop is behind blocks that the device took. -/
lemma Written.finished {reader : Reader} {device : Block → Bool} {total : Nat} {s : ReadAhead}
    (h : s.Written reader device total) {r : Result Digest} (hr : s.consumer = .finished r) :
    r = .ok ⟨hashBytes s.delivered, total⟩ ∧ s.delivered.length = total ∧
      ∀ b ∈ s.log, reader.read b.offset b.len = some b.bytes ∧ device b = true := by
  obtain ⟨d, rfl⟩ := h.result r hr
  obtain ⟨-, whole, rfl⟩ := h.inv.finished hr
  refine ⟨rfl, whole, fun b hb => ⟨?_, ?_⟩⟩
  · exact h.read b (List.mem_append_left _ (List.mem_append_left _ hb))
  · have place := h.place
    rw [hr] at place
    have taken := h.taken (by rw [hr]; exact id) b hb
    rw [place.1] at taken
    exact taken.resolve_left List.not_mem_nil

/-- Every run of the writer ends as it should. -/
lemma Writes.completes {reader : Reader} {device : Block → Bool} {total : Nat} {ls : List Unit}
    {s : ReadAhead} (run : Lts.Exec (· = new total) (Writes reader device) ls s) :
    s.Completes reader device total ls := by
  have written := Writes.written run
  exact
    { laws := written.inv.delivers
      apart := written.no_mutual_wait
      bounded := Writes.length_le run
      goesOn := written.progress
      finished := fun _ hr => written.finished hr
      dropped := fun hd => written.inv.size ▸ written.gaveUp (by rw [hd]; trivial) }

end ReadAhead

namespace HashWorker

/-- What holds of a hash worker with any caller: what it was sent is in order and what it hashed is the
    start of that, a finish that succeeds submitted the whole range and has its digest, the three buffers
    are all there, and the two wait for each other only if the caller withholds all three. A caller that
    waits otherwise has a worker that can step. -/
structure Hashes (total : Nat) (s : HashWorker) : Prop where
  inOrder : InOrder s.log
  starts : s.hashed <+: s.submitted
  finished : ∀ d, s.caller = .finished (.ok d) →
    s.submitted.length = total ∧ d = ⟨hashBytes s.submitted, total⟩
  conserved : (s.all.map Buffer.name).Perm (List.range buffers)
  waits : s.WorkerWaits ∧ s.CallerWaits ↔
    s.worker = .receiving ∧ s.caller = .asking ∧ s.held.length + s.discarded.length = buffers
  answered : s.CallerWaits → ¬ s.WorkerWaits → ∃ s', Work s s'

/-- What holds of the loop behind any number of steps: the two never wait for each other, the steps are
    bounded, and the loop can go on until it is over. It finishes with the digest of the whole range as
    the reader gave it, and gives up only if the reader failed. -/
structure Completes (reader : Reader) (total : Nat) (ls : List Unit) (s : HashWorker) : Prop where
  laws : s.Hashes total
  apart : ¬ (s.WorkerWaits ∧ s.CallerWaits)
  bounded : ls.length ≤ 20 * total + 12
  goesOn : ((∃ r, s.caller = .finished r) ∨ s.caller = .dropped) ∨ ∃ s', Fills reader s () s'
  finished : ∀ r, s.caller = .finished r →
    r = .ok ⟨hashBytes s.submitted, total⟩ ∧ s.submitted.length = total ∧
      ∀ b ∈ s.log, reader.read b.offset b.len = some b.bytes
  dropped : s.caller = .dropped → reader.Fails total

/-- The invariant gives what `receive` and `finish` deliver. -/
lemma Inv.hashes {total : Nat} {s : HashWorker} (h : s.Inv total) : s.Hashes total where
  inOrder := h.flow.logged.inOrder
  starts := ⟨_, h.flow.bytes⟩
  finished _ hd := h.finished hd
  conserved := h.flow.names
  waits := h.flow.mutual_wait_iff
  answered waits going := by
    obtain waiting | ⟨r, ended⟩ | moves := s.worker_moves
    · exact absurd waiting going
    · exact absurd waits (h.flow.ended_waits ended)
    · exact moves

/-- Every run of the caller ends as it should. -/
lemma Fills.completes {reader : Reader} {total : Nat} {ls : List Unit} {s : HashWorker}
    (run : Lts.Exec (· = new total) (Fills reader) ls s) : s.Completes reader total ls := by
  have filled := Fills.filled run
  refine
    { laws := filled.inv.hashes
      apart := filled.no_mutual_wait
      bounded := Fills.length_le run
      goesOn := filled.progress
      finished := fun r hr => ?_
      dropped := fun hd => filled.gaveUp (by rw [hd]; trivial) }
  have ok := filled.result r hr
  exact ⟨ok, (filled.inv.finished (hr.trans (congrArg _ ok))).1, filled.read⟩

end HashWorker

/-- Both pipelines, for every length: in every state that any reader and any consumer or caller reach in
    any interleaving, and in every run of the loops of the engine. -/
theorem pipelines (total : Nat) :
    (∀ s, ReadAhead.Reachable total s → s.Delivers total) ∧
    (∀ s, HashWorker.Reachable total s → s.Hashes total) ∧
    (∀ reader device ls s,
      Lts.Exec (· = ReadAhead.new total) (ReadAhead.Writes reader device) ls s →
      s.Completes reader device total ls) ∧
    (∀ reader ls s, Lts.Exec (· = HashWorker.new total) (HashWorker.Fills reader) ls s →
      s.Completes reader total ls) :=
  ⟨fun _ h => h.inv.delivers, fun _ h => h.inv.hashes, fun _ _ _ _ => ReadAhead.Writes.completes,
    fun _ _ _ => HashWorker.Fills.completes⟩

section Sample

/-- A source of sevens. -/
def sevens : Reader where
  read _ len := some (List.replicate len 7)
  exact' h := by
    obtain rfl := Option.some.inj h
    exact List.length_replicate

/-- Blocks of sevens are sevens. -/
lemma flatMap_sevens {bs : List Block} {n : Nat} (length : (bs.flatMap Block.bytes).length = n)
    (read : ∀ b ∈ bs, sevens.read b.offset b.len = some b.bytes) :
    bs.flatMap Block.bytes = List.replicate n 7 := by
  refine List.eq_replicate_iff.mpr ⟨length, fun x hx => ?_⟩
  obtain ⟨b, hb, hx⟩ := List.mem_flatMap.mp hx
  rw [← Option.some.inj (read b hb)] at hx
  exact List.eq_of_mem_replicate hx

/-- Four chunks and a sector more go through both loops. -/
theorem pipelines_sevens :
    (∃ ls s, Lts.Exec (· = ReadAhead.new (4 * chunk + 512))
        (ReadAhead.Writes sevens fun _ => true) ls s ∧
      s.delivered = List.replicate (4 * chunk + 512) 7 ∧
      s.consumer = .finished
        (.ok ⟨hashBytes (List.replicate (4 * chunk + 512) 7), 4 * chunk + 512⟩)) ∧
    (∃ ls s, Lts.Exec (· = HashWorker.new (4 * chunk + 512)) (HashWorker.Fills sevens) ls s ∧
      s.caller = .finished
        (.ok ⟨hashBytes (List.replicate (4 * chunk + 512) 7), 4 * chunk + 512⟩)) := by
  obtain ⟨-, -, writes, fills⟩ := pipelines (4 * chunk + 512)
  constructor
  · obtain ⟨ls, s, path, last⟩ := Lts.Path.exhaust (m := ReadAhead.left)
      (fun _ _ _ h st => ReadAhead.Written.step h st) (fun _ _ _ h st => h.left_lt st)
      _ (.new : ReadAhead.Written sevens (fun _ => true) (4 * chunk + 512) _)
    have run : Lts.Exec (· = _) _ ls s := ⟨_, rfl, path⟩
    have completes := writes _ _ _ _ run
    obtain (⟨r, done⟩ | dropped) | ⟨s', st⟩ := completes.goesOn
    · obtain ⟨rfl, whole, read⟩ := completes.finished r done
      have bytes := flatMap_sevens whole fun b hb => (read b hb).1
      exact ⟨ls, s, run, bytes, bytes ▸ done⟩
    · obtain ⟨_, -, none⟩ | ⟨_, -, refused⟩ := completes.dropped dropped
      · cases none
      · cases refused
    · exact absurd st (last _ _)
  · obtain ⟨ls, s, path, last⟩ := Lts.Path.exhaust (m := HashWorker.left)
      (fun _ _ _ h st => HashWorker.Filled.step h st) (fun _ _ _ _ st => st.left_lt)
      _ (.new : HashWorker.Filled sevens (4 * chunk + 512) _)
    have run : Lts.Exec (· = _) _ ls s := ⟨_, rfl, path⟩
    have completes := fills _ _ _ run
    obtain (⟨r, done⟩ | dropped) | ⟨s', st⟩ := completes.goesOn
    · obtain ⟨rfl, whole, read⟩ := completes.finished r done
      have bytes := flatMap_sevens whole read
      exact ⟨ls, s, run, bytes ▸ done⟩
    · obtain ⟨_, -, none⟩ := completes.dropped dropped
      cases none
    · exact absurd st (last _ _)

end Sample

/-! ## A consumer that keeps its blocks -/

namespace ReadAhead

/-- A consumer that has kept the first blocks, with a worker that is about to read the next one. -/
structure Keeps (total kept : Nat) (rest : List Buffer) (s : ReadAhead) : Prop where
  size : s.total = total
  worker : s.worker = .looping
  consumer : s.consumer = .idle
  free : s.free = Chan.open' rest
  ready : s.ready = Chan.open' []
  read : s.read = kept * chunk
  offset : s.offset = kept * chunk

/-- The worker reads one more block and the consumer takes it. -/
lemma Keeps.next {total kept : Nat} {data : Buffer} {rest : List Buffer} {s : ReadAhead}
    (h : s.Keeps total kept (data :: rest)) (size : data.data.length = chunk)
    (room : (kept + 1) * chunk ≤ total) :
    ∃ ls s', Lts.Path Step s ls s' ∧ s'.Keeps total (kept + 1) rest := by
  obtain ⟨n, free, ready, worker, read, _, _, _, consumer, offset, _, _, _⟩ := s
  obtain ⟨eq, rfl, rfl, rfl, rfl, rfl, rfl⟩ := h
  obtain rfl : n = total := eq
  have pos : 0 < chunk := by decide
  have after : (kept + 1) * chunk = kept * chunk + chunk := Nat.succ_mul _ _
  have len : min (n - kept * chunk) chunk = chunk := by omega
  have read : (zeros chunk).length = chunk := length_zeros
  have filled : (fill data (zeros chunk)).data.length = chunk := by
    rw [fill, length_put (by omega), size]
  have check : checkBlock
      ⟨kept * chunk, min (n - kept * chunk) chunk, fill data (zeros chunk)⟩
      (kept * chunk) n = .ok () := by
    refine deny_ok.mpr ?_
    push Not
    exact ⟨rfl, by rw [len]; exact pos.ne', rfl, filled⟩
  have more : kept * chunk < n := by omega
  have far : kept * chunk + min (n - kept * chunk) chunk = (kept + 1) * chunk := by omega
  refine ⟨_, _, .append (Work.path (.more rfl more)) (.append (Work.path (.take rfl rfl))
    (.append (Work.path (.fill (b := zeros chunk) rfl (read.trans len.symm)))
      (.append (Work.path (.sent rfl rfl)) (.append (Consume.path (.next rfl))
        (Consume.path (.block rfl rfl check)))))), ?_⟩
  exact ⟨rfl, rfl, rfl, rfl, rfl, far, far⟩

end ReadAhead

/-- A consumer that keeps three blocks and asks for a fourth waits for a worker that waits for it. -/
theorem kept_blocks_wait :
    ∃ s, ReadAhead.Reachable (4 * chunk) s ∧ s.WorkerWaits ∧ s.ConsumerWaits := by
  have start : (ReadAhead.new (4 * chunk)).Keeps (4 * chunk) 0 pool :=
    ⟨rfl, rfl, rfl, rfl, rfl, rfl, rfl⟩
  obtain ⟨ls1, s1, path1, keeps1⟩ := start.next length_zeros (by decide)
  obtain ⟨ls2, s2, path2, keeps2⟩ := keeps1.next length_zeros (by decide)
  obtain ⟨ls3, s3, path3, keeps3⟩ := keeps2.next length_zeros (by decide)
  have more : s3.read < s3.total := by
    rw [keeps3.read, keeps3.size]
    decide
  refine ⟨_, ⟨_, _, rfl, path1.append (path2.append (path3.append
    (.append (ReadAhead.Work.path (.more keeps3.worker more))
      (ReadAhead.Consume.path (.next keeps3.consumer)))))⟩,
    .inl ⟨rfl, ?_⟩, .inl ⟨rfl, ?_⟩⟩
  · show s3.free.recv = none
    rw [keeps3.free]
    rfl
  · show s3.ready.recv = none
    rw [keeps3.ready]
    rfl

end K11CHaos.Engine.Pipeline
