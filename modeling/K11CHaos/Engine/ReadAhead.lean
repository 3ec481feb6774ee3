import K11CHaos.Lib.Chan
import K11CHaos.Lib.Lts
import K11CHaos.Engine.Pipeline

/-!
# Read-ahead of a source

`ReadAhead` of `pipeline.rs`: a worker thread that reads and hashes blocks while the consumer writes the
block it got last. Two channels of three places connect them, `ready` to the consumer and `free` back
to the worker, and three buffers travel around. The steps are those of the two threads at their channel
operations, interleaved arbitrarily; the reader may fail or panic at any block, and the consumer may
give up at any moment. Timings are left out.

The consumer may be any that gives back only what it got. One that asks for a block while it keeps or
has thrown away all three buffers waits for a worker that waits for it, and no other does
(`Ends.mutual_wait_iff`). `ReadAhead.Flow` says where the bytes are: delivered, in the queue or in the
worker's hand, in the order of the source.
-/

namespace K11CHaos.Engine.Pipeline

/-- `BUFFERS`. -/
def buffers : Nat := 3

/-- A `Vec<u8>` of the pool; the name tells the three apart. -/
structure Buffer where
  name : Nat
  data : Bytes

/-- `struct Block`. -/
structure Block where
  offset : Nat
  len : Nat
  data : Buffer

/-- `struct Digest`, without its timing. -/
structure Digest where
  hash : String
  bytes : Nat
deriving DecidableEq

/-- The bytes of a block. -/
def Block.bytes (b : Block) : Bytes :=
  b.data.data.take b.len

/-- `worker_error`. -/
def workerError (message : String) : Failure :=
  fail "PIPELINE" message

/-- `RecvError` and `SendError` in an error. -/
def recvError : Failure := workerError "receiving on a closed channel"

def sendError : Failure := workerError "sending on a closed channel"

/-- `check_block`. -/
def checkBlock (b : Block) (offset total : Nat) : Result Unit :=
  deny (b.offset ≠ offset ∨ b.len = 0 ∨ b.len ≠ min (total - offset) chunk ∨
    b.data.data.length ≠ chunk) "PIPELINE" "Missing, reordered or invalid pipeline block"

/-- The pool of a new pipeline. -/
def pool : List Buffer :=
  (List.range buffers).map fun name => ⟨name, zeros chunk⟩

/-- Where the source worker stands. -/
inductive Source where
  | looping
  | taking
  | reading (data : Buffer)
  | sending (block : Block)
  | failing (error : Failure)
  | ended (r : Result Digest)
  | panicked

/-- Where the consumer stands in its calls. `closing` has dropped `ready`, `joining` both ends. -/
inductive Consumer where
  | idle
  | receiving
  | recycling (block : Block)
  | closing (finish : Bool)
  | joining (finish : Bool)
  | dropped
  | finished (r : Result Digest)

/-- The two threads of a `ReadAhead` and what is between them. `source` is what the reader returned so
    far, `log` the blocks that `next` handed out; `lost` and `discarded` are the buffers that the worker
    and the consumer dropped. -/
structure ReadAhead where
  total : Nat
  free : Chan Buffer
  ready : Chan (Result Block)
  worker : Source
  read : Nat
  hashed : Bytes
  source : Bytes
  lost : List Buffer
  consumer : Consumer
  offset : Nat
  held : List Block
  discarded : List Buffer
  log : List Block

namespace ReadAhead

/-- `ReadAhead::new`. -/
def new (total : Nat) : ReadAhead where
  total := total
  free := Chan.open' pool
  ready := Chan.open' []
  worker := .looping
  read := 0
  hashed := []
  source := []
  lost := []
  consumer := .idle
  offset := 0
  held := []
  discarded := []
  log := []

/-- The bytes that `next` handed out. -/
def delivered (s : ReadAhead) : Bytes :=
  s.log.flatMap Block.bytes

/-- The worker ends and drops its ends of the channels. -/
def leave (s : ReadAhead) (worker : Source) : ReadAhead :=
  { s with worker := worker, free := s.free.dropReceiver, ready := s.ready.dropSender }

/-- The length of the next block. -/
def nextLen (s : ReadAhead) : Nat :=
  min (s.total - s.read) chunk

/-- The buffer after `read_exact`. -/
def fill (data : Buffer) (b : Bytes) : Buffer :=
  { data with data := put data.data 0 b }

/-- The result of `finish` after the worker's. -/
def finishResult (s : ReadAhead) : Result Digest → Result Digest
  | .error e => .error e
  | .ok d => do
    deny (s.offset ≠ s.total ∨ d.bytes ≠ s.total) "PIPELINE"
      "Source pipeline ended before its full range"
    return d

/-- Steps of the worker. -/
inductive Work : ReadAhead → ReadAhead → Prop where
  | more {s} :
    s.worker = .looping →
    s.read < s.total →
    Work s { s with worker := .taking }
  | complete {s} :
    s.worker = .looping →
    s.total ≤ s.read →
    Work s (s.leave (.ended (.ok ⟨hashBytes s.hashed, s.read⟩)))
  | take {s data free} :
    s.worker = .taking →
    s.free.recv = some (some data, free) →
    Work s { s with worker := .reading data, free := free }
  | abandoned {s free} :
    s.worker = .taking →
    s.free.recv = some (none, free) →
    Work s { s with worker := .failing recvError }
  | fill {s data b} :
    s.worker = .reading data →
    b.length = s.nextLen →
    Work s { s with
      worker := .sending ⟨s.read, s.nextLen, fill data b⟩
      hashed := s.hashed ++ (fill data b).data.take s.nextLen
      source := s.source ++ b }
  | readFails {s data message} :
    s.worker = .reading data →
    Work s { s with worker := .failing (fail "TRANSACTION_IO" message), lost := data :: s.lost }
  | panics {s data} :
    s.worker = .reading data →
    Work s ({ s with lost := data :: s.lost }.leave .panicked)
  | sent {s block ready} :
    s.worker = .sending block →
    s.ready.send buffers (.ok block) = some (true, ready) →
    Work s { s with worker := .looping, ready := ready, read := s.read + block.len }
  | refused {s block ready} :
    s.worker = .sending block →
    s.ready.send buffers (.ok block) = some (false, ready) →
    Work s { s with worker := .failing sendError, lost := block.data :: s.lost }
  | report {s error taken ready} :
    s.worker = .failing error →
    s.ready.send buffers (.error error) = some (taken, ready) →
    Work s ({ s with ready := ready }.leave (.ended (.error error)))

/-- Steps of the consumer. -/
inductive Consume : ReadAhead → ReadAhead → Prop where
  | next {s} :
    s.consumer = .idle →
    Consume s { s with consumer := .receiving }
  | block {s block ready} :
    s.consumer = .receiving →
    s.ready.recv = some (some (.ok block), ready) →
    checkBlock block s.offset s.total = .ok () →
    Consume s { s with
      consumer := .idle
      ready := ready
      offset := s.offset + block.len
      held := block :: s.held
      log := s.log ++ [block] }
  | invalid {s block ready e} :
    s.consumer = .receiving →
    s.ready.recv = some (some (.ok block), ready) →
    checkBlock block s.offset s.total = .error e →
    Consume s { s with
      consumer := .idle, ready := ready, discarded := block.data :: s.discarded }
  | error {s e ready} :
    s.consumer = .receiving →
    s.ready.recv = some (some (.error e), ready) →
    Consume s { s with consumer := .idle, ready := ready }
  | closed {s ready} :
    s.consumer = .receiving →
    s.ready.recv = some (none, ready) →
    Consume s { s with consumer := .idle }
  | recycle {s block held} :
    s.consumer = .idle →
    s.held.Perm (block :: held) →
    Consume s { s with consumer := .recycling block, held := held }
  | recycled {s block free} :
    s.consumer = .recycling block →
    s.free.send buffers block.data = some (true, free) →
    Consume s { s with consumer := .idle, free := free }
  | unwanted {s block free} :
    s.consumer = .recycling block →
    s.free.send buffers block.data = some (false, free) →
    Consume s { s with consumer := .idle, discarded := block.data :: s.discarded }
  | discard {s block held} :
    s.held.Perm (block :: held) →
    Consume s { s with held := held, discarded := block.data :: s.discarded }
  | close {s} (finish : Bool) :
    s.consumer = .idle →
    Consume s { s with consumer := .closing finish, ready := s.ready.dropReceiver }
  | disconnect {s finish} :
    s.consumer = .closing finish →
    Consume s { s with consumer := .joining finish, free := s.free.dropSender }
  | joined {s r} :
    s.consumer = .joining true →
    s.worker = .ended r →
    Consume s { s with consumer := .finished (s.finishResult r) }
  | joinedPanic {s} :
    s.consumer = .joining true →
    s.worker = .panicked →
    Consume s { s with consumer := .finished (.error (workerError "Source worker panicked")) }
  | joinedDrop {s} :
    s.consumer = .joining false →
    s.worker = .panicked ∨ (∃ r, s.worker = .ended r) →
    Consume s { s with consumer := .dropped }

/-- The interleaved steps. -/
def Step (s : ReadAhead) (_ : Unit) (s' : ReadAhead) : Prop :=
  Work s s' ∨ Consume s s'

/-- A state that some interleaving reaches. -/
def Reachable (total : Nat) (s : ReadAhead) : Prop :=
  ∃ ls, Lts.Exec (· = new total) Step ls s

/-- The worker waits for the consumer. -/
def WorkerWaits (s : ReadAhead) : Prop :=
  (s.worker = .taking ∧ s.free.recv = none) ∨
  (∃ block, s.worker = .sending block ∧ s.ready.send buffers (.ok block) = none) ∨
  (∃ error, s.worker = .failing error ∧ s.ready.send buffers (.error error) = none)

/-- The consumer waits for the worker. -/
def ConsumerWaits (s : ReadAhead) : Prop :=
  (s.consumer = .receiving ∧ s.ready.recv = none) ∨
  (∃ block, s.consumer = .recycling block ∧ s.free.send buffers block.data = none) ∨
  (∃ finish, s.consumer = .joining finish ∧ s.worker ≠ .panicked ∧ ∀ r, s.worker ≠ .ended r)

/-! ## Where the bytes are -/

/-- The blocks in the queue. -/
def queued (s : ReadAhead) : List Block :=
  s.ready.items.filterMap Except.toOption

end ReadAhead

/-- Blocks that continue each other from one offset to another. -/
inductive Chained (total : Nat) : Nat → List Block → Nat → Prop where
  | nil {o} :
    Chained total o [] o
  | cons {o b bs e} :
    checkBlock b o total = .ok () →
    Chained total (o + b.len) bs e →
    Chained total o (b :: bs) e

/-- A block that passes is the next one, full or the last. -/
lemma checkBlock_ok {b : Block} {o total : Nat} (h : checkBlock b o total = .ok ()) :
    b.offset = o ∧ 0 < b.len ∧ b.len = min (total - o) chunk ∧ b.data.data.length = chunk := by
  have := deny_ok.mp h
  push Not at this
  obtain ⟨ho, hl, hlen, hd⟩ := this
  exact ⟨ho, Nat.pos_of_ne_zero hl, hlen, hd⟩

/-- The bytes of a block that passes. -/
lemma length_bytes {b : Block} {o total : Nat} (h : checkBlock b o total = .ok ()) :
    b.bytes.length = b.len := by
  obtain ⟨_, _, hlen, hd⟩ := checkBlock_ok h
  rw [Block.bytes, List.length_take, hd]
  omega

/-- One more block of a chain. -/
lemma Chained.concat {total o e bs b} (h : Chained total o bs e)
    (hb : checkBlock b e total = .ok ()) : Chained total o (bs ++ [b]) (e + b.len) := by
  induction h with
  | nil => exact .cons hb .nil
  | cons hc _ ih => exact .cons hc (ih hb)

/-- A chain does not pass the end. -/
lemma Chained.le {total o e bs} (h : Chained total o bs e) (ho : o ≤ total) : e ≤ total := by
  induction h with
  | nil => exact ho
  | cons hc _ ih =>
    obtain ⟨_, _, hlen, _⟩ := checkBlock_ok hc
    exact ih (by omega)

/-- A chain has the length of its span. -/
lemma Chained.length {total o e bs} (h : Chained total o bs e) :
    o + (bs.flatMap Block.bytes).length = e := by
  induction h with
  | nil => rfl
  | cons hc _ ih =>
    rw [List.flatMap_cons, List.length_append, length_bytes hc]
    omega

/-- A chain splits where its list does. -/
lemma Chained.split {total o e bs cs} (h : Chained total o (bs ++ cs) e) :
    ∃ m, Chained total o bs m ∧ Chained total m cs e := by
  induction bs generalizing o with
  | nil => exact ⟨o, .nil, h⟩
  | cons b bs ih =>
    cases h with
    | cons hc rest =>
      obtain ⟨m, first, second⟩ := ih rest
      exact ⟨m, .cons hc first, second⟩

/-- Blocks that come one behind the other from the first byte on: each at the offset where those before
    it end, none empty or longer than a chunk, none with bytes missing. -/
def InOrder (bs : List Block) : Prop :=
  ∀ before b after, bs = before ++ b :: after →
    b.offset = (before.flatMap Block.bytes).length ∧ 0 < b.len ∧ b.len ≤ chunk ∧
      b.bytes.length = b.len

/-- Blocks that pass the check one behind the other are in order. -/
lemma Chained.inOrder {total e bs} (h : Chained total 0 bs e) : InOrder bs := by
  rintro before b after rfl
  obtain ⟨m, first, rest⟩ := h.split
  have start := first.length
  cases rest with
  | cons hc _ =>
    obtain ⟨at', pos, len, _⟩ := checkBlock_ok hc
    exact ⟨by omega, pos, by omega, length_bytes hc⟩

namespace ReadAhead

/-- What the worker has read beyond the blocks it sent. -/
def Ahead (s : ReadAhead) : Source → Prop
  | .looping => s.source.length = s.read
  | .taking => s.source.length = s.read ∧ s.read < s.total
  | .reading data => s.source.length = s.read ∧ s.read < s.total ∧ data.data.length = chunk
  | .sending block => checkBlock block s.read s.total = .ok () ∧
    s.source = s.source.take s.read ++ block.bytes
  | .ended (.ok d) => d = ⟨hashBytes s.source, s.read⟩ ∧ s.source.length = s.read ∧ s.read = s.total
  | .failing _ | .ended (.error _) | .panicked => s.read < s.total

/-- The bytes of the source are delivered, queued or in the hand of the worker, in order. -/
structure Flow (s : ReadAhead) : Prop where
  hashed : s.hashed = s.source
  chain : Chained s.total s.offset s.queued s.read
  logged : Chained s.total 0 s.log s.offset
  bytes : s.delivered ++ s.queued.flatMap Block.bytes = s.source.take s.read
  ahead : s.Ahead s.worker
  sizes : ∀ d ∈ s.free.items, d.data.length = chunk
  held : ∀ b ∈ s.held, 0 < b.len ∧ b.len ≤ chunk ∧ b.data.data.length = chunk
  recycling : ∀ b, s.consumer = .recycling b → b.data.data.length = chunk

/-- Nothing has flowed at the start. -/
lemma Flow.new {total : Nat} : (new total).Flow where
  hashed := rfl
  chain := .nil
  logged := .nil
  bytes := rfl
  ahead := rfl
  sizes := by
    intro d hd
    obtain ⟨_, _, rfl⟩ := List.mem_map.mp hd
    exact length_zeros
  held := nofun
  recycling := nofun

/-- The consumer's counter is the length of what was delivered. -/
lemma Flow.delivered {s : ReadAhead} (h : s.Flow) : s.delivered.length = s.offset := by
  rw [← h.logged.length, Nat.zero_add]
  rfl

/-- No more than the range is delivered. -/
lemma Flow.within {s : ReadAhead} (h : s.Flow) : s.offset ≤ s.total :=
  h.logged.le (Nat.zero_le _)

/-- The worker's counter is the length of what it handed over. -/
lemma Flow.taken {s : ReadAhead} (h : s.Flow) : (s.source.take s.read).length = s.read := by
  rw [← h.bytes, List.length_append, h.delivered]
  exact h.chain.length

/-- The worker keeps the accounts. -/
lemma Flow.work {s s' : ReadAhead} (h : s.Flow) (st : Work s s') : s'.Flow := by
  cases st with
  | more hw lt =>
    have ahead := h.ahead
    rw [hw] at ahead
    exact { h with ahead := ⟨ahead, lt⟩ }
  | complete hw le =>
    have ahead : s.source.length = s.read := by simpa [hw, Ahead] using h.ahead
    have eq : s.read = s.total := Nat.le_antisymm (h.chain.le h.within) le
    exact { h with ahead := ⟨by rw [h.hashed]; rfl, ahead, eq⟩ }
  | take hw hr =>
    obtain ⟨items, _, _⟩ := Chan.recv_some.mp hr
    have ahead := h.ahead
    rw [hw] at ahead
    refine { h with ahead := ⟨ahead.1, ahead.2, ?_⟩, sizes := fun d hd => ?_ }
    · exact h.sizes _ (by rw [items]; exact List.mem_cons_self)
    · exact h.sizes d (by rw [items]; exact List.mem_cons_of_mem _ hd)
  | abandoned hw hr =>
    have ahead := h.ahead
    rw [hw] at ahead
    exact { h with ahead := ahead.2 }
  | @fill data b hw hb =>
    have ahead := h.ahead
    rw [hw] at ahead
    obtain ⟨len, lt, size⟩ := ahead
    have fits : b.length ≤ data.data.length := by
      rw [hb, size]
      exact Nat.min_le_right _ _
    have filled : (fill data b).data.length = chunk := by
      rw [fill, length_put (by omega), size]
    have taken : (fill data b).data.take s.nextLen = b := by
      rw [fill, ← hb]
      simp [put]
    have check : checkBlock ⟨s.read, s.nextLen, fill data b⟩ s.read s.total = .ok () := by
      refine deny_ok.mpr ?_
      push Not
      refine ⟨rfl, ?_, rfl, filled⟩
      have : 0 < chunk := by decide
      show s.nextLen ≠ 0
      unfold nextLen
      omega
    -- what was read is one block longer now than what was sent
    have all : s.source.take s.read = s.source := List.take_of_length_le (Nat.le_of_eq len)
    refine { h with hashed := ?_, bytes := ?_, ahead := ⟨check, ?_⟩ }
    · show s.hashed ++ (fill data b).data.take s.nextLen = s.source ++ b
      rw [h.hashed, taken]
    · show _ = (s.source ++ b).take s.read
      rw [List.take_append_of_le_length (Nat.le_of_eq len.symm)]
      exact h.bytes
    · show s.source ++ b = (s.source ++ b).take s.read ++ (fill data b).data.take s.nextLen
      rw [List.take_append_of_le_length (Nat.le_of_eq len.symm), all, taken]
  | readFails hw | panics hw =>
    have ahead := h.ahead
    rw [hw] at ahead
    exact { h with ahead := ahead.2.1 }
  | @sent block ready hw hs =>
    obtain ⟨_, _, rfl⟩ := Chan.send_true.mp hs
    have ahead := h.ahead
    rw [hw] at ahead
    obtain ⟨check, split⟩ := ahead
    have queue : queued { s with
        worker := .looping
        ready := { s.ready with items := s.ready.items ++ [.ok block] }
        read := s.read + block.len } = s.queued ++ [block] := by
      simp [queued, Except.toOption]
    have len : s.source.length = s.read + block.len := by
      rw [split, List.length_append, h.taken, length_bytes check]
    refine { h with chain := ?_, bytes := ?_, ahead := len }
    · rw [queue]
      exact h.chain.concat check
    · show s.delivered ++ _ = s.source.take (s.read + block.len)
      rw [queue, List.flatMap_append, ← List.append_assoc, h.bytes,
        List.take_of_length_le (Nat.le_of_eq len), List.flatMap_singleton]
      exact split.symm
  | refused hw hs =>
    have ahead := h.ahead
    rw [hw] at ahead
    obtain ⟨_, pos, len, _⟩ := checkBlock_ok ahead.1
    refine { h with ahead := ?_ }
    show s.read < s.total
    omega
  | @report error taken ready hw hs =>
    have queue : queued ({ s with ready := ready }.leave (.ended (.error error))) = s.queued := by
      cases taken with
      | true =>
        obtain ⟨_, _, rfl⟩ := Chan.send_true.mp hs
        simp [queued, leave, Except.toOption]
      | false =>
        obtain ⟨_, rfl⟩ := Chan.send_false.mp hs
        rfl
    have ahead := h.ahead
    rw [hw] at ahead
    refine { h with chain := ?_, bytes := ?_, ahead := ahead }
    · rw [queue]
      exact h.chain
    · rw [queue]
      exact h.bytes

/-- The consumer keeps the accounts. -/
lemma Flow.consume {s s' : ReadAhead} (h : s.Flow) (st : Consume s s') : s'.Flow := by
  -- a received block is the first of the queue, so it continues what was delivered
  have first {block : Block} {ready : Chan (Result Block)}
      (hr : s.ready.recv = some (some (.ok block), ready)) :
      s.queued = block :: ready.items.filterMap Except.toOption := by
    rw [queued, (Chan.recv_some.mp hr).1]
    rfl
  cases st with
  | next hc => exact { h with recycling := nofun }
  | @block block ready hc hr hb =>
    have chain := h.chain
    have bytes := h.bytes
    rw [first hr] at chain bytes
    obtain ⟨_, pos, len, size⟩ := checkBlock_ok hb
    cases chain with
    | cons _ rest =>
      refine { h with chain := rest, logged := h.logged.concat hb, bytes := ?_, held := ?_,
                      recycling := nofun }
      · show (s.log ++ [block]).flatMap Block.bytes ++ _ = _
        rw [List.flatMap_append, List.flatMap_singleton, List.append_assoc]
        exact bytes
      · intro b hb'
        obtain rfl | hb' := List.mem_cons.mp hb'
        · exact ⟨pos, by omega, size⟩
        · exact h.held b hb'
  | invalid hc hr hb =>
    have chain := h.chain
    rw [first hr] at chain
    cases chain with
    | cons ok _ =>
      rw [ok] at hb
      cases hb
  | @error e ready hc hr =>
    have queue : s.queued = ready.items.filterMap Except.toOption := by
      rw [queued, (Chan.recv_some.mp hr).1]
      rfl
    have chain := h.chain
    have bytes := h.bytes
    rw [queue] at chain bytes
    exact { h with chain := chain, bytes := bytes, recycling := nofun }
  | closed hc hr => exact { h with recycling := nofun }
  | recycle hc perm =>
    refine { h with held := fun b hb => ?_, recycling := ?_ }
    · exact h.held b (perm.mem_iff.mpr (List.mem_cons_of_mem _ hb))
    · rintro _ ⟨⟩
      exact (h.held _ (perm.mem_iff.mpr List.mem_cons_self)).2.2
  | recycled hc hs =>
    obtain ⟨_, _, rfl⟩ := Chan.send_true.mp hs
    refine { h with sizes := fun d hd => ?_, recycling := nofun }
    obtain hd | hd := List.mem_append.mp hd
    · exact h.sizes d hd
    · obtain rfl := List.mem_singleton.mp hd
      exact h.recycling _ hc
  | unwanted hc hs => exact { h with recycling := nofun }
  | discard perm =>
    exact { h with held := fun b hb => h.held b (perm.mem_iff.mpr (List.mem_cons_of_mem _ hb)) }
  | close finish hc => exact { h with recycling := nofun }
  | disconnect hc => exact { h with recycling := nofun }
  | joined hc hw => exact { h with recycling := nofun }
  | joinedPanic hc hw => exact { h with recycling := nofun }
  | joinedDrop hc hw => exact { h with recycling := nofun }

/-! ## The ends of the channels and the buffers -/

end ReadAhead

/-- The buffers in the hand of the worker. -/
def Source.hand : Source → List Buffer
  | .reading data => [data]
  | .sending block => [block.data]
  | _ => []

/-- The worker has not ended. -/
def Source.Alive : Source → Prop
  | .ended _ | .panicked => False
  | _ => True

/-- The worker has its buffers. -/
def Source.Sound : Source → Prop
  | .looping | .taking | .reading _ | .sending _ => True
  | _ => False

/-- The consumer has not begun to close. -/
def Consumer.Open : Consumer → Prop
  | .idle | .receiving | .recycling _ => True
  | _ => False

/-- The buffer that the consumer is giving back. -/
def Consumer.hand : Consumer → List Buffer
  | .recycling block => [block.data]
  | _ => []

namespace ReadAhead

/-- All buffers, wherever they are. -/
def all (s : ReadAhead) : List Buffer :=
  s.free.items ++ (s.queued.map Block.data ++ (s.worker.hand ++ (s.consumer.hand ++
    (s.held.map Block.data ++ (s.lost ++ s.discarded)))))

/-- Which ends are alive, and where the three buffers are. -/
structure Ends (s : ReadAhead) : Prop where
  names : (s.all.map Buffer.name).Perm (List.range buffers)
  alive : s.worker.Alive → s.free.receiver = true ∧ s.ready.sender = true ∧
    s.ready.items.length = s.queued.length
  gone : ¬ s.worker.Alive → s.free.receiver = false ∧ s.ready.sender = false
  sound : s.worker.Sound → s.lost = []
  failing : ∀ e, s.worker = .failing e → s.ready.receiver = true → s.lost ≠ []
  opened : s.consumer.Open → s.free.sender = true ∧ s.ready.receiver = true
  order : s.free.sender = false → s.ready.receiver = false
  joining : ∀ finish, s.consumer = .joining finish → s.free.sender = false ∧ s.ready.receiver = false
  closing : ∀ finish, s.consumer = .closing finish → s.ready.receiver = false

/-- The buffers of a state with one moved. -/
lemma Ends.moved {s s' : ReadAhead} (h : s.Ends)
    (eq : ∀ n, (s'.all.map Buffer.name).count n = (s.all.map Buffer.name).count n) :
    (s'.all.map Buffer.name).Perm (List.range buffers) :=
  List.perm_iff_count.mpr fun n => (eq n).trans (List.perm_iff_count.mp h.names n)

/-- All buffers are in the pool at the start. -/
lemma Ends.new {total : Nat} : (new total).Ends where
  names := by
    simp [all, ReadAhead.new, queued, pool, Chan.open', Source.hand, Consumer.hand,
      Function.comp_def]
  alive _ := ⟨rfl, rfl, rfl⟩
  gone h := absurd trivial h
  sound _ := rfl
  failing := nofun
  opened _ := ⟨rfl, rfl⟩
  order := nofun
  joining := nofun
  closing := nofun

/-- The worker keeps the buffers and the ends. -/
lemma Ends.work {s s' : ReadAhead} (h : s.Ends) (st : Work s s') : s'.Ends := by
  cases st with
  | more hw lt =>
    refine { h with names := h.moved fun n => ?_, alive := fun _ => h.alive (by rw [hw]; trivial),
                    gone := fun ha => absurd trivial ha, sound := fun _ => h.sound (by rw [hw]; trivial), failing := nofun }
    simp only [all, queued, hw, Source.hand]
  | complete hw le =>
    refine { h with names := h.moved fun n => ?_, alive := nofun, gone := fun _ => ⟨rfl, rfl⟩,
                    sound := nofun, failing := nofun }
    simp only [all, queued, hw, Source.hand, leave, Chan.dropReceiver_items, Chan.dropSender_items]
  | take hw hr =>
    obtain ⟨items, hs, hv⟩ := Chan.recv_some.mp hr
    obtain ⟨a1, a2, a3⟩ := h.alive (by rw [hw]; trivial)
    refine { h with names := h.moved fun n => ?_, alive := fun _ => ⟨hv.trans a1, a2, a3⟩,
                    gone := fun ha => absurd trivial ha,
                    sound := fun _ => h.sound (by rw [hw]; trivial), failing := nofun,
                    opened := fun ho => ⟨hs.trans (h.opened ho).1, (h.opened ho).2⟩,
                    order := fun hf => h.order (hs ▸ hf), joining := fun f hc => ?_ }
    · simp only [all, queued, hw, Source.hand, items, List.cons_append, List.nil_append,
        List.map_cons, List.map_append, List.count_cons, List.count_append]
      omega
    · exact ⟨hs.trans (h.joining f hc).1, (h.joining f hc).2⟩
  | abandoned hw hr =>
    obtain ⟨_, hs, _⟩ := Chan.recv_closed.mp hr
    refine { h with names := h.moved fun n => ?_, alive := fun _ => h.alive (by rw [hw]; trivial),
                    gone := fun ha => absurd trivial ha, sound := nofun, failing := ?_ }
    · simp only [all, queued, hw, Source.hand]
    · intro e _ hready
      rw [h.order hs] at hready
      cases hready
  | @fill data b hw hb =>
    refine { h with names := h.moved fun n => ?_, alive := fun _ => h.alive (by rw [hw]; trivial),
                    gone := fun ha => absurd trivial ha,
                    sound := fun _ => h.sound (by rw [hw]; trivial), failing := nofun }
    simp only [all, queued, hw, Source.hand, fill, List.map_append, List.map_cons, List.map_nil]
  | @readFails data message hw =>
    refine { h with names := h.moved fun n => ?_, alive := fun _ => h.alive (by rw [hw]; trivial),
                    gone := fun ha => absurd trivial ha, sound := nofun,
                    failing := fun _ _ _ => List.cons_ne_nil data s.lost }
    simp only [all, queued, hw, Source.hand, List.nil_append, List.map_cons, List.map_append,
      List.map_nil, List.count_cons, List.count_append, List.count_nil]
    omega
  | @panics data hw =>
    refine { h with names := h.moved fun n => ?_, alive := nofun, gone := fun _ => ⟨rfl, rfl⟩,
                    sound := nofun, failing := nofun }
    simp only [all, queued, hw, Source.hand, leave, Chan.dropReceiver_items, Chan.dropSender_items,
      List.nil_append, List.map_cons, List.map_append, List.map_nil, List.count_cons,
      List.count_append, List.count_nil]
    omega
  | @sent block ready hw hs =>
    obtain ⟨_, _, rfl⟩ := Chan.send_true.mp hs
    obtain ⟨a1, a2, a3⟩ := h.alive (by rw [hw]; trivial)
    refine { h with names := h.moved fun n => ?_, alive := fun _ => ⟨a1, a2, ?_⟩,
                    gone := fun ha => absurd trivial ha, sound := fun _ => h.sound (by rw [hw]; trivial), failing := nofun }
    · simp only [all, queued, hw, Source.hand, List.filterMap_append, List.filterMap_cons,
        List.filterMap_nil, Except.toOption, List.nil_append, List.map_cons, List.map_append,
        List.map_nil, List.count_cons, List.count_append, List.count_nil]
      omega
    · simp only [queued, List.filterMap_append, List.length_append, List.filterMap_cons,
        List.filterMap_nil, Except.toOption] at a3 ⊢
      rw [a3]
      rfl
  | @refused block ready hw hs =>
    obtain ⟨hr, _⟩ := Chan.send_false.mp hs
    refine { h with names := h.moved fun n => ?_, alive := fun _ => h.alive (by rw [hw]; trivial),
                    gone := fun ha => absurd trivial ha, sound := nofun,
                    failing := fun _ _ hready => ?_ }
    · simp only [all, queued, hw, Source.hand, List.nil_append, List.map_cons, List.map_append,
        List.map_nil, List.count_cons, List.count_append, List.count_nil]
      omega
    · exact List.cons_ne_nil block.data s.lost
  | @report error taken ready hw hs =>
    -- an error in the channel carries no buffer, whether it was taken or not
    have receiver : ready.receiver = s.ready.receiver ∧
        ready.items.filterMap Except.toOption = s.ready.items.filterMap Except.toOption := by
      cases taken with
      | true =>
        obtain ⟨_, _, rfl⟩ := Chan.send_true.mp hs
        simp [Except.toOption]
      | false =>
        obtain ⟨_, rfl⟩ := Chan.send_false.mp hs
        exact ⟨rfl, rfl⟩
    refine { h with names := h.moved fun n => ?_, alive := nofun, gone := fun _ => ⟨rfl, rfl⟩,
                    sound := nofun, failing := nofun,
                    opened := fun ho => ⟨(h.opened ho).1, receiver.1.trans (h.opened ho).2⟩,
                    order := fun hf => receiver.1.trans (h.order hf),
                    joining := fun f hc => ⟨(h.joining f hc).1, receiver.1.trans (h.joining f hc).2⟩,
                    closing := fun f hc => receiver.1.trans (h.closing f hc) }
    simp only [all, queued, hw, Source.hand, leave, Chan.dropReceiver_items, Chan.dropSender_items,
      receiver.2]

/-- A received block leaves the channel with its two ends as they were. -/
lemma Ends.received {s : ReadAhead} {r : Result Block} {ready : Chan (Result Block)} {offset : Nat}
    {held : List Block} {discarded : List Buffer} {log : List Block} (h : s.Ends)
    (hc : s.consumer = .receiving) (hr : s.ready.recv = some (some r, ready))
    {s' : ReadAhead} (is : s' = { s with
      consumer := .idle, ready := ready, offset := offset, held := held, discarded := discarded
      log := log })
    (names : ∀ n, (s'.all.map Buffer.name).count n = (s.all.map Buffer.name).count n) :
    s'.Ends := by
  obtain ⟨items, hs, hv⟩ := Chan.recv_some.mp hr
  have o := h.opened (by rw [hc]; trivial)
  subst is
  refine { h with names := h.moved names, alive := fun ha => ?_, failing := fun e he hr => ?_,
                  gone := fun ha => ⟨(h.gone ha).1, hs.trans (h.gone ha).2⟩,
                  opened := fun _ => ⟨o.1, hv.trans o.2⟩,
                  order := fun hf => hv.trans (h.order hf), joining := nofun, closing := nofun }
  · obtain ⟨a1, a2, a3⟩ := h.alive ha
    refine ⟨a1, hs.trans a2, ?_⟩
    -- while the worker lives no error is in the channel, so what is left are blocks
    have short := List.length_filterMap_le Except.toOption ready.items
    cases r <;>
      simp only [queued, items, List.filterMap_cons, Except.toOption, List.length_cons]
        at a3 short ⊢ <;> omega
  · exact h.failing e he (hv.symm.trans hr)

/-- The consumer keeps the buffers and the ends. -/
lemma Ends.consume {s s' : ReadAhead} (h : s.Ends) (st : Consume s s') : s'.Ends := by
  have counts {a b : List Buffer} (perm : a.Perm b) (n : Nat) :
      (a.map Buffer.name).count n = (b.map Buffer.name).count n :=
    (perm.map Buffer.name).count_eq n
  cases st with
  | next hc =>
    refine { h with names := h.moved fun n => ?_, opened := fun _ => h.opened (by rw [hc]; trivial),
                    joining := nofun, closing := nofun }
    simp only [all, queued, hc, Consumer.hand]
  | @block block ready hc hr hb | @invalid block ready e hc hr hb =>
    obtain ⟨items, -⟩ := Chan.recv_some.mp hr
    refine h.received hc hr rfl fun n => ?_
    simp only [all, queued, hc, Consumer.hand, items, List.filterMap_cons, Except.toOption,
      List.map_cons, List.map_append, List.count_cons, List.count_append]
    omega
  | @error e ready hc hr =>
    obtain ⟨items, -⟩ := Chan.recv_some.mp hr
    refine h.received hc hr rfl fun n => ?_
    simp only [all, queued, hc, Consumer.hand, items, List.filterMap_cons, Except.toOption]
  | closed hc hr =>
    refine { h with names := h.moved fun n => ?_, opened := fun _ => h.opened (by rw [hc]; trivial),
                    joining := nofun, closing := nofun }
    simp only [all, queued, hc, Consumer.hand]
  | @recycle block held hc perm =>
    refine { h with names := h.moved fun n => ?_, opened := fun _ => h.opened (by rw [hc]; trivial),
                    joining := nofun, closing := nofun }
    have := counts (perm.map Block.data) n
    simp only [all, queued, hc, Consumer.hand, List.nil_append, List.map_cons, List.map_append,
      List.map_nil, List.count_cons, List.count_append, List.count_nil] at this ⊢
    omega
  | @recycled block free hc hs =>
    obtain ⟨_, _, rfl⟩ := Chan.send_true.mp hs
    refine { h with names := h.moved fun n => ?_, opened := fun _ => h.opened (by rw [hc]; trivial),
                    joining := nofun, closing := nofun }
    simp only [all, queued, hc, Consumer.hand, List.nil_append, List.map_cons, List.map_append,
      List.map_nil, List.count_cons, List.count_append, List.count_nil]
    omega
  | @unwanted block free hc hs =>
    refine { h with names := h.moved fun n => ?_, opened := fun _ => h.opened (by rw [hc]; trivial),
                    joining := nofun, closing := nofun }
    simp only [all, queued, hc, Consumer.hand, List.nil_append, List.map_cons, List.map_append,
      List.map_nil, List.count_cons, List.count_append, List.count_nil]
    omega
  | @discard block held perm =>
    refine { h with names := h.moved fun n => ?_ }
    have := counts (perm.map Block.data) n
    simp only [all, queued, List.map_cons, List.map_append, List.count_cons,
      List.count_append] at this ⊢
    omega
  | close finish hc =>
    refine { h with names := h.moved fun n => ?_, failing := nofun, opened := nofun,
                    order := fun _ => rfl, joining := nofun, closing := fun _ _ => rfl }
    simp only [all, queued, hc, Consumer.hand, Chan.dropReceiver_items]
  | @disconnect finish hc =>
    refine { h with names := h.moved fun n => ?_, opened := nofun,
                    order := fun _ => h.closing finish hc,
                    joining := fun _ _ => ⟨rfl, h.closing finish hc⟩, closing := nofun }
    simp only [all, queued, hc, Consumer.hand, Chan.dropSender_items]
  | joined hc hw =>
    refine { h with names := h.moved fun n => ?_, opened := nofun, joining := nofun, closing := nofun }
    simp only [all, queued, hc, Consumer.hand]
  | joinedPanic hc hw =>
    refine { h with names := h.moved fun n => ?_, opened := nofun, joining := nofun, closing := nofun }
    simp only [all, queued, hc, Consumer.hand]
  | joinedDrop hc hw =>
    refine { h with names := h.moved fun n => ?_, opened := nofun, joining := nofun, closing := nofun }
    simp only [all, queued, hc, Consumer.hand]

/-! ## The laws -/

/-- `finish` succeeds after a worker that did, when everything was delivered. -/
def Done (s : ReadAhead) : Prop :=
  ∀ d, s.consumer = .finished (.ok d) → s.worker = .ended (.ok d) ∧ s.offset = s.total

/-- Every step keeps what a success of `finish` means. -/
lemma Done.step {s s' : ReadAhead} (h : s.Done) (st : Work s s' ∨ Consume s s') : s'.Done := by
  intro d hd
  obtain st | st := st
  · cases st with
    | report hw | complete hw | panics hw =>
      obtain ⟨ended, _⟩ := h d hd
      rw [ended] at hw
      cases hw
    | more hw | take hw | abandoned hw | fill hw | readFails hw | sent hw | refused hw =>
      obtain ⟨ended, _⟩ := h d hd
      rw [ended] at hw
      cases hw
  · cases st with
    | discard => exact h d hd
    | @joined r hc hw =>
      cases r with
      | error e => cases hd
      | ok d' =>
        obtain ⟨u, ok, eq⟩ := bind_ok.mp (Consumer.finished.inj hd)
        have := deny_ok.mp ok
        push Not at this
        cases eq
        exact ⟨hw, this.1⟩
    | _ => cases hd

/-- The invariants of a read-ahead. -/
structure Inv (total : Nat) (s : ReadAhead) : Prop where
  size : s.total = total
  flow : s.Flow
  ends : s.Ends
  done : s.Done

/-- The total never changes. -/
lemma Step.total {s s' : ReadAhead} (st : Step s () s') : s'.total = s.total := by
  obtain st | st := st <;> cases st <;> rfl

/-- The invariant at the start. -/
lemma Inv.new {total : Nat} : (new total).Inv total :=
  ⟨rfl, .new, .new, nofun⟩

/-- Every step keeps the invariants. -/
lemma Inv.step {total : Nat} {s s' : ReadAhead} {l : Unit} (h : s.Inv total) (st : Step s l s') :
    s'.Inv total :=
  ⟨(Step.total st).trans h.size, st.elim h.flow.work h.flow.consume,
    st.elim h.ends.work h.ends.consume, h.done.step st⟩

/-- The invariant in every reachable state. -/
lemma Reachable.inv {total : Nat} {s : ReadAhead} (h : Reachable total s) : s.Inv total := by
  obtain ⟨ls, h⟩ := h
  refine h.invariant ?_ fun s l s' inv st => inv.step st
  rintro s rfl
  exact .new

/-- There are three buffers. -/
lemma Ends.three {s : ReadAhead} (h : s.Ends) : s.all.length = buffers := by
  have := h.names.length_eq
  rwa [List.length_map, List.length_range] at this

/-- A worker that waits for the consumer while that waits for it has an empty pool, and the consumer
    asks for a block. -/
lemma Ends.waits {s : ReadAhead} (h : s.Ends) (worker : s.WorkerWaits)
    (consumer : s.ConsumerWaits) :
    s.worker = .taking ∧ s.free.items = [] ∧ s.consumer = .receiving ∧ s.ready.items = [] := by
  have three := h.three
  have bound : buffers = 3 := rfl
  simp only [all, List.length_append, List.length_map] at three
  obtain ⟨hw, hr⟩ | ⟨block, hw, hs⟩ | ⟨e, hw, hs⟩ := worker
  · obtain ⟨empty, sender⟩ := Chan.recv_none.mp hr
    obtain ⟨hc, hr⟩ | ⟨block, hc, hs⟩ | ⟨finish, hc, _⟩ := consumer
    · exact ⟨hw, empty, hc, (Chan.recv_none.mp hr).1⟩
    · obtain ⟨_, full⟩ := Chan.send_none.mp hs
      rw [empty] at full
      exact absurd full (by decide)
    · rw [(h.joining finish hc).1] at sender
      cases sender
  · -- the queue is full, but the worker has one of the three in its hand
    obtain ⟨_, full⟩ := Chan.send_none.mp hs
    obtain ⟨_, _, len⟩ := h.alive (by rw [hw]; trivial)
    simp only [hw, Source.hand, List.length_cons, List.length_nil] at three
    omega
  · -- the queue is full, but the worker has lost one of the three
    obtain ⟨receiver, full⟩ := Chan.send_none.mp hs
    obtain ⟨_, _, len⟩ := h.alive (by rw [hw]; trivial)
    have lost := List.length_pos_of_ne_nil (h.failing e hw receiver)
    omega

/-- The two wait for each other exactly when the consumer asks for a block while it keeps or has
    thrown away all three buffers, and the worker wants one. -/
lemma Ends.mutual_wait_iff {s : ReadAhead} (h : s.Ends) :
    (s.WorkerWaits ∧ s.ConsumerWaits) ↔
      s.worker = .taking ∧ s.consumer = .receiving ∧
        s.held.length + s.discarded.length = buffers := by
  have three := h.three
  simp only [all, List.length_append, List.length_map] at three
  constructor
  · rintro ⟨worker, consumer⟩
    obtain ⟨hw, empty, hc, queue⟩ := h.waits worker consumer
    have lost := h.sound (by rw [hw]; trivial)
    have none : s.queued = [] := by rw [queued, queue]; rfl
    simp only [empty, none, lost, hw, hc, Source.hand, Consumer.hand, List.length_nil] at three
    exact ⟨hw, hc, by omega⟩
  · rintro ⟨hw, hc, all3⟩
    obtain ⟨sender, _⟩ := h.opened (by rw [hc]; trivial)
    obtain ⟨_, alive, len⟩ := h.alive (by rw [hw]; trivial)
    refine ⟨.inl ⟨hw, Chan.recv_none.mpr ⟨?_, sender⟩⟩,
      .inl ⟨hc, Chan.recv_none.mpr ⟨?_, alive⟩⟩⟩
    · rw [← List.length_eq_zero_iff]
      omega
    · rw [← List.length_eq_zero_iff]
      omega

/-- What was delivered is the start of the source. -/
lemma Flow.starts {s : ReadAhead} (h : s.Flow) : s.delivered <+: s.source :=
  (List.prefix_append _ _).trans (h.bytes ▸ List.take_prefix _ _)

/-- A finish that succeeds saw the whole range. -/
lemma Inv.finished {total : Nat} {s : ReadAhead} (h : s.Inv total) {d : Digest}
    (hd : s.consumer = .finished (.ok d)) :
    s.delivered = s.source ∧ s.delivered.length = total ∧ d = ⟨hashBytes s.delivered, total⟩ := by
  obtain ⟨hw, whole⟩ := h.done d hd
  have ahead := h.flow.ahead
  rw [hw] at ahead
  obtain ⟨eq, len, full⟩ := ahead
  have length : s.delivered.length = s.source.length := by
    rw [h.flow.delivered, whole, len, full]
  have same : s.delivered = s.source := h.flow.starts.eq_of_length length
  refine ⟨same, ?_, ?_⟩
  · rw [h.flow.delivered, whole, h.size]
  · rw [eq, same, full, h.size]

end ReadAhead

end K11CHaos.Engine.Pipeline
