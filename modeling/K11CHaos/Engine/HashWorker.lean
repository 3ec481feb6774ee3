import K11CHaos.Engine.ReadAhead

/-!
# The hash worker

`HashWorker` of `pipeline.rs`: the caller fills buffers and submits them as blocks, a worker thread
hashes them in order and gives the buffers back. The channels are those of `ReadAhead` the other way
round. `finish` drops the input and drains the returned buffers before it joins, a drop disconnects both
ends first.

The caller may be any that submits only buffers that it got. One that asks for a buffer while it keeps
or has wasted all three waits for a worker that waits for it, and no other does
(`Flow.mutual_wait_iff`). `HashWorker.Flow` says that the hash and the queue are what was submitted.
-/

namespace K11CHaos.Engine.Pipeline

/-- Where the hash worker stands. -/
inductive Hashing where
  | receiving
  | returning (data : Buffer)
  | ended (r : Result Digest)

/-- Where its caller stands. `closing` has dropped the input of a worker that is not finished. -/
inductive Caller where
  | idle
  | asking
  | submitting (block : Block)
  | draining
  | closing
  | joining (finish : Bool)
  | dropped
  | finished (r : Result Digest)

/-- The two threads of a `HashWorker` and what is between them. `log` are the blocks that the worker was
    sent; `lost` and `discarded` are the buffers that the worker and the caller dropped. -/
structure HashWorker where
  total : Nat
  input : Chan Block
  free : Chan Buffer
  worker : Hashing
  count : Nat
  hashed : Bytes
  lost : List Buffer
  caller : Caller
  offset : Nat
  held : List Buffer
  discarded : List Buffer
  log : List Block

namespace HashWorker

/-- `HashWorker::new`. -/
def new (total : Nat) : HashWorker where
  total := total
  input := Chan.open' []
  free := Chan.open' pool
  worker := .receiving
  count := 0
  hashed := []
  lost := []
  caller := .idle
  offset := 0
  held := []
  discarded := []
  log := []

/-- The bytes that the worker was sent. -/
def submitted (s : HashWorker) : Bytes :=
  s.log.flatMap Block.bytes

/-- The worker ends and drops its ends of the channels. -/
def leave (s : HashWorker) (r : Result Digest) : HashWorker :=
  { s with worker := .ended r, input := s.input.dropReceiver, free := s.free.dropSender }

/-- The result after the loop of the worker. -/
def outcome (s : HashWorker) : Result Digest := do
  deny (s.count ≠ s.total) "PIPELINE" "Hash worker did not receive the full range"
  return ⟨hashBytes s.hashed, s.count⟩

/-- The result of `finish` after the worker's. -/
def finishResult (s : HashWorker) : Result Digest → Result Digest
  | .error e => .error e
  | .ok d => do
    deny (s.offset ≠ s.total ∨ d.bytes ≠ s.total) "PIPELINE"
      "Hash pipeline ended before its full range"
    return d

/-- Steps of the worker. -/
inductive Work : HashWorker → HashWorker → Prop where
  | block {s block input} :
    s.worker = .receiving →
    s.input.recv = some (some block, input) →
    checkBlock block s.count s.total = .ok () →
    Work s { s with
      worker := .returning block.data
      input := input
      count := s.count + block.len
      hashed := s.hashed ++ block.bytes }
  | invalid {s block input e} :
    s.worker = .receiving →
    s.input.recv = some (some block, input) →
    checkBlock block s.count s.total = .error e →
    Work s ({ s with input := input, lost := block.data :: s.lost }.leave (.error e))
  | complete {s input} :
    s.worker = .receiving →
    s.input.recv = some (none, input) →
    Work s (s.leave s.outcome)
  | returned {s data free} :
    s.worker = .returning data →
    s.free.send buffers data = some (true, free) →
    Work s { s with worker := .receiving, free := free }
  | unwanted {s data free} :
    s.worker = .returning data →
    s.free.send buffers data = some (false, free) →
    Work s ({ s with lost := data :: s.lost }.leave s.outcome)

/-- Steps of the caller. A buffer may be written to before it is submitted. -/
inductive Call : HashWorker → HashWorker → Prop where
  | buffer {s} :
    s.caller = .idle →
    Call s { s with caller := .asking }
  | got {s data free} :
    s.caller = .asking →
    s.free.recv = some (some data, free) →
    Call s { s with caller := .idle, free := free, held := data :: s.held }
  | closed {s free} :
    s.caller = .asking →
    s.free.recv = some (none, free) →
    Call s { s with caller := .idle }
  | submit {s data held} (block : Block) :
    s.caller = .idle →
    s.held.Perm (data :: held) →
    block.data.name = data.name →
    checkBlock block s.offset s.total = .ok () →
    Call s { s with caller := .submitting block, held := held, offset := s.offset + block.len }
  | rejected {s data held e} (block : Block) :
    s.caller = .idle →
    s.held.Perm (data :: held) →
    block.data.name = data.name →
    checkBlock block s.offset s.total = .error e →
    Call s { s with held := held, discarded := block.data :: s.discarded }
  | sent {s block input} :
    s.caller = .submitting block →
    s.input.send buffers block = some (true, input) →
    Call s { s with caller := .idle, input := input, log := s.log ++ [block] }
  | refused {s block input} :
    s.caller = .submitting block →
    s.input.send buffers block = some (false, input) →
    Call s { s with caller := .idle, discarded := block.data :: s.discarded }
  | discard {s data held} :
    s.held.Perm (data :: held) →
    Call s { s with held := held, discarded := data :: s.discarded }
  | finish {s} :
    s.caller = .idle →
    Call s { s with caller := .draining, input := s.input.dropSender }
  | drain {s data free} :
    s.caller = .draining →
    s.free.recv = some (some data, free) →
    Call s { s with free := free, discarded := data :: s.discarded }
  | drained {s free} :
    s.caller = .draining →
    s.free.recv = some (none, free) →
    Call s { s with caller := .joining true, free := s.free.dropReceiver }
  | close {s} :
    s.caller = .idle →
    Call s { s with caller := .closing, input := s.input.dropSender }
  | disconnect {s} :
    s.caller = .closing →
    Call s { s with caller := .joining false, free := s.free.dropReceiver }
  | joined {s r} :
    s.caller = .joining true →
    s.worker = .ended r →
    Call s { s with caller := .finished (s.finishResult r) }
  | joinedDrop {s r} :
    s.caller = .joining false →
    s.worker = .ended r →
    Call s { s with caller := .dropped }

/-- The interleaved steps. -/
def Step (s : HashWorker) (_ : Unit) (s' : HashWorker) : Prop :=
  Work s s' ∨ Call s s'

/-- A state that some interleaving reaches. -/
def Reachable (total : Nat) (s : HashWorker) : Prop :=
  ∃ ls, Lts.Exec (· = new total) Step ls s

/-- The worker waits for the caller. -/
def WorkerWaits (s : HashWorker) : Prop :=
  (s.worker = .receiving ∧ s.input.recv = none) ∨
  (∃ data, s.worker = .returning data ∧ s.free.send buffers data = none)

/-- The caller waits for the worker. -/
def CallerWaits (s : HashWorker) : Prop :=
  (s.caller = .asking ∧ s.free.recv = none) ∨
  (∃ block, s.caller = .submitting block ∧ s.input.send buffers block = none) ∨
  (s.caller = .draining ∧ s.free.recv = none) ∨
  (∃ finish, s.caller = .joining finish ∧ ∀ r, s.worker ≠ .ended r)

end HashWorker

/-- The buffer in the hand of the worker. -/
def Hashing.hand : Hashing → List Buffer
  | .returning data => [data]
  | _ => []

/-- The buffer in the hand of the caller. -/
def Caller.hand : Caller → List Buffer
  | .submitting block => [block.data]
  | _ => []

/-- The caller has not begun to finish. -/
def Caller.Open : Caller → Prop
  | .idle | .asking | .submitting _ => True
  | _ => False

namespace HashWorker

/-- All buffers, wherever they are. -/
def all (s : HashWorker) : List Buffer :=
  s.free.items ++ (s.input.items.map Block.data ++ (s.worker.hand ++ (s.caller.hand ++
    (s.held ++ (s.lost ++ s.discarded)))))

/-- What was accepted but not yet sent. -/
def Pending (s : HashWorker) : Caller → Prop
  | .submitting block => checkBlock block s.submitted.length s.total = .ok () ∧
    s.offset = s.submitted.length + block.len
  | _ => s.offset = s.submitted.length

/-- The hash and the queue are what was submitted, in order, and which ends are alive. -/
structure Flow (s : HashWorker) : Prop where
  chain : Chained s.total s.count s.input.items s.submitted.length
  logged : Chained s.total 0 s.log s.submitted.length
  bytes : s.hashed ++ s.input.items.flatMap Block.bytes = s.submitted
  pending : s.Pending s.caller
  ended : ∀ r, s.worker = .ended r → s.input.sender = false ∧ r = s.outcome
  left : ∀ r, s.worker = .ended r → s.free.sender = false
  alive : (∀ r, s.worker ≠ .ended r) → s.input.receiver = true ∧ s.free.sender = true ∧ s.lost = []
  opened : s.caller.Open → s.input.sender = true ∧ s.free.receiver = true
  closed : ¬ s.caller.Open → s.input.sender = false
  names : (s.all.map Buffer.name).Perm (List.range buffers)

/-- Nothing has been sent at the start. -/
lemma Flow.new {total : Nat} : (new total).Flow where
  chain := .nil
  logged := .nil
  bytes := rfl
  pending := rfl
  ended := nofun
  left := nofun
  alive _ := ⟨rfl, rfl, rfl⟩
  opened _ := ⟨rfl, rfl⟩
  closed h := absurd trivial h
  names := by simp [all, HashWorker.new, pool, Chan.open', Hashing.hand, Caller.hand, Function.comp_def]

/-- The buffers of a state with one moved. -/
lemma Flow.moved {s s' : HashWorker} (h : s.Flow)
    (eq : ∀ n, (s'.all.map Buffer.name).count n = (s.all.map Buffer.name).count n) :
    (s'.all.map Buffer.name).Perm (List.range buffers) :=
  List.perm_iff_count.mpr fun n => (eq n).trans (List.perm_iff_count.mp h.names n)

/-- The worker keeps the accounts. -/
lemma Flow.work {s s' : HashWorker} (h : s.Flow) (st : Work s s') : s'.Flow := by
  cases st with
  | @block block input hw hr hb =>
    obtain ⟨items, hs, hv⟩ := Chan.recv_some.mp hr
    have chain := h.chain
    have bytes := h.bytes
    rw [items] at chain bytes
    obtain ⟨a1, a2, a3⟩ := h.alive (by simp [hw])
    cases chain with
    | cons _ rest =>
      refine { h with chain := rest, bytes := ?_, ended := nofun, left := nofun,
                      alive := fun _ => ⟨hv.trans a1, a2, a3⟩,
                      opened := fun ho => ⟨hs.trans (h.opened ho).1, (h.opened ho).2⟩,
                      closed := fun ho => hs.trans (h.closed ho), names := h.moved fun n => ?_ }
      · rw [List.append_assoc]
        exact bytes
      · simp only [all, hw, Hashing.hand, items, List.nil_append, List.map_cons, List.map_append,
          List.map_nil, List.count_cons, List.count_append, List.count_nil]
        omega
  -- the queue only holds blocks that `submit` has checked
  | invalid hw hr hb =>
    obtain ⟨items, _, _⟩ := Chan.recv_some.mp hr
    have chain := h.chain
    rw [items] at chain
    cases chain with
    | cons ok _ =>
      rw [ok] at hb
      cases hb
  | complete hw hr =>
    obtain ⟨_, hs, _⟩ := Chan.recv_closed.mp hr
    refine { h with ended := ?_, left := fun _ _ => rfl, alive := fun ha => absurd rfl (ha _),
                    names := h.moved fun n => ?_ }
    · rintro _ ⟨⟩
      exact ⟨hs, rfl⟩
    · simp only [all, hw, Hashing.hand, leave, Chan.dropReceiver_items, Chan.dropSender_items]
  | @returned data free hw hs =>
    obtain ⟨_, _, rfl⟩ := Chan.send_true.mp hs
    refine { h with ended := nofun, left := nofun, alive := fun _ => h.alive (by simp [hw]),
                    names := h.moved fun n => ?_ }
    simp only [all, hw, Hashing.hand, List.nil_append, List.map_cons, List.map_append,
      List.map_nil, List.count_cons, List.count_append, List.count_nil]
    omega
  | @unwanted data free hw hs =>
    obtain ⟨hf, _⟩ := Chan.send_false.mp hs
    -- the caller keeps its end while it is open, so it has begun to finish
    have shut : ¬ s.caller.Open := by
      intro ho
      rw [(h.opened ho).2] at hf
      cases hf
    refine { h with ended := ?_, left := fun _ _ => rfl, alive := fun ha => absurd rfl (ha _),
                    names := h.moved fun n => ?_ }
    · rintro _ ⟨⟩
      exact ⟨h.closed shut, rfl⟩
    · simp only [all, hw, Hashing.hand, leave, Chan.dropReceiver_items, Chan.dropSender_items,
        List.nil_append, List.map_cons, List.map_append, List.map_nil, List.count_cons,
        List.count_append, List.count_nil]
      omega

/-- The caller turns to something else and perhaps drops its ends, with the same in its hand. -/
lemma Flow.turn {s : HashWorker} {c : Caller} {input : Chan Block} {free : Chan Buffer} (h : s.Flow)
    (pending : s.Pending c) (hand : c.hand = s.caller.hand)
    (queue : input.items = s.input.items ∧ input.receiver = s.input.receiver)
    (returned : free.items = s.free.items ∧ free.sender = s.free.sender)
    (ended : s.input.sender = false → input.sender = false)
    (opened : c.Open → input.sender = true ∧ free.receiver = true)
    (closed : ¬ c.Open → input.sender = false) :
    Flow { s with caller := c, input := input, free := free } := by
  obtain ⟨items, receiver⟩ := queue
  obtain ⟨items', sender⟩ := returned
  refine ⟨?_, h.logged, ?_, pending, fun r hw => ?_, fun r hw => sender.trans (h.left r hw),
    fun ha => ?_, opened, closed, h.moved fun n => ?_⟩
  · rw [items]
    exact h.chain
  · rw [items]
    exact h.bytes
  · exact ⟨ended (h.ended r hw).1, (h.ended r hw).2⟩
  · obtain ⟨a1, a2, a3⟩ := h.alive ha
    exact ⟨receiver.trans a1, sender.trans a2, a3⟩
  · simp only [all, hand, items, items']

/-- A block that was accepted is behind the others in the queue. -/
lemma Flow.sent {s : HashWorker} {block : Block} (h : s.Flow) (hc : s.caller = .submitting block) :
    Flow { s with
      caller := .idle
      input := { s.input with items := s.input.items ++ [block] }
      log := s.log ++ [block] } := by
  have pending := h.pending
  rw [hc] at pending
  obtain ⟨check, offset⟩ := pending
  have bytes : submitted { s with
      caller := .idle
      input := { s.input with items := s.input.items ++ [block] }
      log := s.log ++ [block] } = s.submitted ++ block.bytes := by
    rw [submitted, List.flatMap_append, List.flatMap_singleton]
    rfl
  have len : (s.submitted ++ block.bytes).length = s.submitted.length + block.len := by
    rw [List.length_append, length_bytes check]
  refine { h with chain := ?_, logged := ?_, bytes := ?_, ended := h.ended,
                  pending := offset.trans ((congrArg List.length bytes).trans len).symm,
                  opened := fun _ => h.opened (by rw [hc]; trivial),
                  closed := fun ho => absurd trivial ho, names := h.moved fun n => ?_ }
  · rw [bytes, len]
    exact h.chain.concat check
  · rw [bytes, len]
    exact h.logged.concat check
  · rw [bytes, List.flatMap_append, ← List.append_assoc, h.bytes, List.flatMap_singleton]
  · simp only [all, hc, Caller.hand, List.nil_append, List.map_cons, List.map_append,
      List.map_nil, List.count_cons, List.count_append, List.count_nil]
    omega

/-- The caller keeps the accounts. -/
lemma Flow.call {s s' : HashWorker} (h : s.Flow) (st : Call s s') : s'.Flow := by
  have counts {a b : List Buffer} (perm : a.Perm b) (n : Nat) :
      (a.map Buffer.name).count n = (b.map Buffer.name).count n :=
    (perm.map Buffer.name).count_eq n
  have pending := h.pending
  have opened := h.opened
  have closed := h.closed
  cases st with
  | buffer hc =>
    rw [hc] at pending opened
    exact h.turn pending (by rw [hc]; rfl) ⟨rfl, rfl⟩ ⟨rfl, rfl⟩ id (fun _ => opened trivial)
      fun ho => absurd trivial ho
  | @got data free hc hr =>
    obtain ⟨items, hs, hv⟩ := Chan.recv_some.mp hr
    rw [hc] at pending opened
    obtain ⟨o1, o2⟩ := opened trivial
    refine { h with pending := pending, alive := fun ha => ?_, left := fun r hw => hs.trans (h.left r hw),
                    opened := fun _ => ⟨o1, hv.trans o2⟩,
                    closed := fun ho => absurd trivial ho, names := h.moved fun n => ?_ }
    · obtain ⟨a1, a2, a3⟩ := h.alive ha
      exact ⟨a1, hs.trans a2, a3⟩
    · simp only [all, hc, Caller.hand, items, List.nil_append, List.cons_append, List.map_cons,
        List.map_append, List.count_cons, List.count_append]
      omega
  | closed hc hr =>
    rw [hc] at pending opened
    exact h.turn pending (by rw [hc]; rfl) ⟨rfl, rfl⟩ ⟨rfl, rfl⟩ id (fun _ => opened trivial)
      fun ho => absurd trivial ho
  | @submit data held block hc perm name hb =>
    rw [hc] at pending opened
    refine { h with pending := ⟨?_, congrArg (· + block.len) pending⟩,
                    opened := fun _ => opened trivial,
                    closed := fun ho => absurd trivial ho, names := h.moved fun n => ?_ }
    · show checkBlock block s.submitted.length s.total = .ok ()
      rw [← pending]
      exact hb
    · have := counts perm n
      simp only [all, hc, Caller.hand, List.nil_append, List.map_cons, List.map_append,
        List.map_nil, List.count_cons, List.count_append, List.count_nil, name] at this ⊢
      omega
  | @rejected data held e block hc perm name hb =>
    refine { h with names := h.moved fun n => ?_ }
    have := counts perm n
    simp only [all, List.map_cons, List.map_append, List.count_cons, List.count_append,
      name] at this ⊢
    omega
  | @sent block input hc hs =>
    obtain ⟨_, _, rfl⟩ := Chan.send_true.mp hs
    exact h.sent hc
  | @refused block input hc hs =>
    -- the worker only ends after the input was dropped
    obtain ⟨hr, _⟩ := Chan.send_false.mp hs
    rw [hc] at opened
    have alive : ∀ r, s.worker ≠ .ended r := by
      intro r hw
      have o := (opened trivial).1
      rw [(h.ended r hw).1] at o
      cases o
    rw [(h.alive alive).1] at hr
    cases hr
  | @discard data held perm =>
    refine { h with names := h.moved fun n => ?_ }
    have := counts perm n
    simp only [all, List.map_cons, List.map_append, List.count_cons, List.count_append] at this ⊢
    omega
  | finish hc =>
    rw [hc] at pending
    exact h.turn pending (by rw [hc]; rfl) ⟨rfl, rfl⟩ ⟨rfl, rfl⟩ (fun _ => rfl) nofun fun _ => rfl
  | @drain data free hc hr =>
    obtain ⟨items, hs, hv⟩ := Chan.recv_some.mp hr
    refine { h with alive := fun ha => ?_, left := fun r hw => hs.trans (h.left r hw),
                    opened := fun ho => ?_, names := h.moved fun n => ?_ }
    · obtain ⟨a1, a2, a3⟩ := h.alive ha
      exact ⟨a1, hs.trans a2, a3⟩
    · rw [hc] at ho
      cases ho
    · simp only [all, items, List.cons_append, List.map_cons, List.map_append, List.count_cons,
        List.count_append]
      omega
  | drained hc hr =>
    rw [hc] at pending closed
    exact h.turn pending (by rw [hc]; rfl) ⟨rfl, rfl⟩ ⟨rfl, rfl⟩ id nofun fun _ => closed id
  | close hc =>
    rw [hc] at pending
    exact h.turn pending (by rw [hc]; rfl) ⟨rfl, rfl⟩ ⟨rfl, rfl⟩ (fun _ => rfl) nofun fun _ => rfl
  | disconnect hc =>
    rw [hc] at pending closed
    exact h.turn pending (by rw [hc]; rfl) ⟨rfl, rfl⟩ ⟨rfl, rfl⟩ id nofun fun _ => closed id
  | joined hc hw =>
    rw [hc] at pending closed
    exact h.turn pending (by rw [hc]; rfl) ⟨rfl, rfl⟩ ⟨rfl, rfl⟩ id nofun fun _ => closed id
  | joinedDrop hc hw =>
    rw [hc] at pending closed
    exact h.turn pending (by rw [hc]; rfl) ⟨rfl, rfl⟩ ⟨rfl, rfl⟩ id nofun fun _ => closed id

/-! ## The laws -/

/-- `finish` succeeds after a worker that did, when everything was submitted. -/
def Done (s : HashWorker) : Prop :=
  ∀ d, s.caller = .finished (.ok d) → s.worker = .ended (.ok d) ∧ s.offset = s.total

/-- Every step keeps what a digest means. -/
lemma Done.step {s s' : HashWorker} (h : s.Done) (st : Work s s' ∨ Call s s') : s'.Done := by
  intro d hd
  obtain st | st := st
  · cases st with
    | block hw | invalid hw | complete hw | returned hw | unwanted hw =>
      obtain ⟨ended, _⟩ := h d hd
      rw [ended] at hw
      cases hw
  · cases st with
    | discard => exact h d hd
    | rejected _ hc | drain hc =>
      rw [hc] at hd
      cases hd
    | @joined r hc hw =>
      cases r with
      | error e => cases hd
      | ok d' =>
        obtain ⟨u, ok, eq⟩ := bind_ok.mp (Caller.finished.inj hd)
        have := deny_ok.mp ok
        push Not at this
        cases eq
        exact ⟨hw, this.1⟩
    | _ => cases hd

/-- The invariants of a hash worker. -/
structure Inv (total : Nat) (s : HashWorker) : Prop where
  size : s.total = total
  flow : s.Flow
  done : s.Done

/-- The total never changes. -/
lemma Step.total {s s' : HashWorker} (st : Step s () s') : s'.total = s.total := by
  obtain st | st := st <;> cases st <;> rfl

/-- The invariant at the start. -/
lemma Inv.new {total : Nat} : (new total).Inv total :=
  ⟨rfl, .new, nofun⟩

/-- Every step keeps the invariants. -/
lemma Inv.step {total : Nat} {s s' : HashWorker} {l : Unit} (h : s.Inv total) (st : Step s l s') :
    s'.Inv total :=
  ⟨(Step.total st).trans h.size, st.elim h.flow.work h.flow.call, h.done.step st⟩

/-- The invariant in every reachable state. -/
lemma Reachable.inv {total : Nat} {s : HashWorker} (h : Reachable total s) : s.Inv total := by
  obtain ⟨ls, h⟩ := h
  refine h.invariant ?_ fun s l s' inv st => inv.step st
  rintro s rfl
  exact .new

/-- A worker steps, unless it waits or has ended. -/
lemma worker_moves {s : HashWorker} :
    s.WorkerWaits ∨ (∃ r, s.worker = .ended r) ∨ ∃ s', Work s s' := by
  cases hw : s.worker with
  | ended r => exact .inr (.inl ⟨r, rfl⟩)
  | receiving =>
    cases hr : s.input.recv with
    | none => exact .inl (.inl ⟨hw, hr⟩)
    | some p =>
      obtain ⟨block, input⟩ := p
      cases block with
      | none => exact .inr (.inr ⟨_, .complete hw hr⟩)
      | some block =>
        cases hb : checkBlock block s.count s.total with
        | ok => exact .inr (.inr ⟨_, .block hw hr hb⟩)
        | error e => exact .inr (.inr ⟨_, .invalid hw hr hb⟩)
  | returning data =>
    cases hs : s.free.send buffers data with
    | none => exact .inl (.inr ⟨data, hw, hs⟩)
    | some p =>
      obtain ⟨taken, free⟩ := p
      cases taken with
      | true => exact .inr (.inr ⟨_, .returned hw hs⟩)
      | false => exact .inr (.inr ⟨_, .unwanted hw hs⟩)

/-- There are three buffers. -/
lemma Flow.three {s : HashWorker} (h : s.Flow) : s.all.length = buffers := by
  have := h.names.length_eq
  rwa [List.length_map, List.length_range] at this

/-- A worker that waits for the caller while that waits for it has an empty queue, and the caller asks
    for a buffer. -/
lemma Flow.waits {s : HashWorker} (h : s.Flow) (worker : s.WorkerWaits) (caller : s.CallerWaits) :
    s.worker = .receiving ∧ s.input.items = [] ∧ s.caller = .asking ∧ s.free.items = [] := by
  have three := h.three
  have bound : buffers = 3 := rfl
  simp only [all, List.length_append, List.length_map] at three
  obtain ⟨hw, hr⟩ | ⟨data, hw, hs⟩ := worker
  · obtain ⟨empty, sender⟩ := Chan.recv_none.mp hr
    have shut : s.caller.Open := by
      by_contra closed
      rw [h.closed closed] at sender
      cases sender
    obtain ⟨hc, hr⟩ | ⟨block, hc, hs⟩ | ⟨hc, hr⟩ | ⟨finish, hc, _⟩ := caller
    · exact ⟨hw, empty, hc, (Chan.recv_none.mp hr).1⟩
    · obtain ⟨_, full⟩ := Chan.send_none.mp hs
      rw [empty] at full
      exact absurd full (by decide)
    · rw [hc] at shut
      exact shut.elim
    · rw [hc] at shut
      exact shut.elim
  · -- the pool is full, but the worker has one of the three in its hand
    obtain ⟨_, full⟩ := Chan.send_none.mp hs
    simp only [hw, Hashing.hand, List.length_cons, List.length_nil] at three
    omega

/-- The two wait for each other exactly when the caller asks for a buffer while it keeps or has wasted
    all three, and the worker wants a block. -/
lemma Flow.mutual_wait_iff {s : HashWorker} (h : s.Flow) :
    (s.WorkerWaits ∧ s.CallerWaits) ↔
      s.worker = .receiving ∧ s.caller = .asking ∧
        s.held.length + s.discarded.length = buffers := by
  have three := h.three
  simp only [all, List.length_append, List.length_map] at three
  constructor
  · rintro ⟨worker, caller⟩
    obtain ⟨hw, queue, hc, empty⟩ := h.waits worker caller
    have lost := (h.alive (by simp [hw])).2.2
    simp only [empty, queue, lost, hw, hc, Hashing.hand, Caller.hand, List.length_nil] at three
    exact ⟨hw, hc, by omega⟩
  · rintro ⟨hw, hc, all3⟩
    obtain ⟨sender, _⟩ := h.opened (by rw [hc]; trivial)
    obtain ⟨_, alive, _⟩ := h.alive (by simp [hw])
    refine ⟨.inl ⟨hw, Chan.recv_none.mpr ⟨?_, sender⟩⟩,
      .inl ⟨hc, Chan.recv_none.mpr ⟨?_, alive⟩⟩⟩
    · rw [← List.length_eq_zero_iff]
      omega
    · rw [← List.length_eq_zero_iff]
      omega

/-- A finish that succeeds hashed the whole range. -/
lemma Inv.finished {total : Nat} {s : HashWorker} (h : s.Inv total) {d : Digest}
    (hd : s.caller = .finished (.ok d)) :
    s.submitted.length = total ∧ d = ⟨hashBytes s.submitted, total⟩ := by
  obtain ⟨hw, whole⟩ := h.done d hd
  have pending := h.flow.pending
  rw [hd] at pending
  have length : s.submitted.length = s.total := pending.symm.trans whole
  obtain ⟨u, ok, eq⟩ := bind_ok.mp (h.flow.ended _ hw).2.symm
  have full : s.count = s.total := by simpa using ok
  have queue := h.flow.chain.length
  have rest : s.input.items.flatMap Block.bytes = [] := by
    rw [← List.length_eq_zero_iff]
    omega
  have same : s.hashed = s.submitted := by
    have bytes := h.flow.bytes
    rwa [rest, List.append_nil] at bytes
  refine ⟨length.trans h.size, ?_⟩
  cases eq
  rw [same, full, h.size]

end HashWorker

end K11CHaos.Engine.Pipeline
