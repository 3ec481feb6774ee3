import K11CHaos.Inference.OutputLeases

/-!
# The detection server

`DetectionServer` and the handler of a POST in `service.py`, as threads (`Threads`) over one state: each
accepted connection is a call of `process_request` on the accepting side and, once it was submitted, a
task `_handle_connection` on the pool; `server_close` may be called any number of times. Programs are
translated line by line with their nested `try` and `finally`.

A submission may fail before or after the pool has taken the task (`Submission`), sending and receiving
may raise, and detection may fail in any way. Closing a socket does not raise. That the pool runs at most
`HTTP_WORKERS` tasks at a time is not used: here any task that was submitted may start. The shutdown of the
pool waits for every task that was submitted and for every one that has started; what a failed submission
left behind and no thread of the pool has taken until then never starts.
-/

namespace K11CHaos.Inference.Server

open Prog Threads

/-- `INFERENCE_WORKERS`. -/
def inferenceWorkers : Nat := 2

/-- `HTTP_WORKERS`. -/
def httpWorkers : Nat := inferenceWorkers + 1

/-- `MAX_HTTP_CONNECTIONS`. -/
def maxHttpConnections : Nat := httpWorkers + 4

/-- How a submission to the pool ends: it raises, and the pool may have queued the task before. -/
inductive Submission where
  | accepted
  | failed
  | queued
deriving DecidableEq

/-- The method of a request that the HTTP library calls, if it calls one. -/
inductive Method where
  | health
  | get
  | post
  | none
deriving DecidableEq

/-- A response: its status and its error code. -/
structure Response where
  status : Nat
  code : Option String

/-- What `_do_POST` comes to before it looks at `closing`, and what the detection comes to. -/
inductive Outcome where
  | ready
  | rejected (r : Response)
  | disconnected
  | failed

/-- What the threads ask; each thread works on its own request. -/
inductive Op (R : Type) where
  | lock
  | unlock
  | isClosing
  | setClosing
  | takeSlot
  | giveSlot
  | add
  | remove
  | submit
  | sendBusy
  | shutdownRequest
  | begin
  | receive
  | takeInference
  | giveInference
  | upload
  | detect
  | count
  | reply (r : Response)
  | finished
  | closeListener
  | connections
  | interrupt (r : R)
  | poolShutdown

/-- The answers: whether a flag is set, a slot was free, a release was in bounds, an element was there;
    how a submission or a part of a request ended. -/
def Op.Ans {R : Type} : Op R → Type
  | isClosing => Bool
  | takeSlot => Bool
  | giveSlot => Bool
  | remove => Bool
  | submit => Submission
  | sendBusy => Except Raised Unit
  | receive => Except Raised Method
  | takeInference => Bool
  | giveInference => Bool
  | upload => Except Raised Outcome
  | detect => Except Raised Outcome
  | reply _ => Except Raised Unit
  | connections => List R
  | _ => Unit

variable {R : Type}

abbrev Code (R : Type) := Prog (Op R) Op.Ans Raised

/-- A question with its answer. -/
abbrev Ev (R : Type) := Prog.Ev (Op R) Op.Ans

/-- An operation that does not raise. -/
def lock : Code R Unit := asked .lock Except.ok

def unlock : Code R Unit := asked .unlock Except.ok

def isClosing : Code R Bool := asked .isClosing Except.ok

def takeSlot : Code R Bool := asked .takeSlot Except.ok

def shutdownRequest : Code R Unit := asked .shutdownRequest Except.ok

/-- `BoundedSemaphore.release`. -/
def bounded (ok : Bool) : Except Raised Unit :=
  require (ok = true) "ValueError" "Semaphore released too many times"

def giveSlot : Code R Unit := asked .giveSlot fun (ok : Bool) => bounded ok

def giveInference : Code R Unit := asked .giveInference fun (ok : Bool) => bounded ok

/-- `set.remove`. -/
def remove : Code R Unit :=
  asked .remove fun (ok : Bool) => require (ok = true) "KeyError" ""

def reply (r : Response) : Code R Unit := asked (.reply r) id

/-- The part of `process_request` under the lock: the connection is accepted or not. -/
def admitConnection : Code R Bool := do
  let closing ← isClosing
  if closing then
    return false
  else
    let free ← takeSlot
    if free then
      asked .add Except.ok
      let submission : Submission ← asked .submit Except.ok
      if submission = .accepted then
        return true
      else
        remove
        giveSlot
        shutdownRequest
        throw ⟨"RuntimeError", "cannot schedule new futures"⟩
    else
      return false

/-- `sendall` of the refusal; an `OSError` is ignored. -/
def refuse : Code R Unit := do
  let sent ← (asked .sendBusy id : Code R Unit).attempt
  match sent with
  | .ok _ => return ()
  | .error e => if e.kind = "OSError" then return () else throw e

/-- `process_request`. -/
def processRequest : Code R Unit := do
  lock
  let accepted ← finallyDo admitConnection unlock
  if accepted then
    return ()
  else
    finallyDo refuse shutdownRequest

/-- The part of `_do_POST` from its look at `closing`. -/
def runDetection : Code R (Option Response) := do
  let closing ← isClosing
  if closing then
    return none
  else
    let outcome ← asked .detect id
    match outcome with
    | .rejected r => return some r
    | .disconnected => return none
    | .failed => return some ⟨503, some "inference_failed"⟩
    | .ready => do
      lock
      asked .count Except.ok
      unlock
      return some ⟨200, none⟩

/-- `_do_POST`; its exceptions are responses, except for those that its handlers do not catch. -/
def doPostInner : Code R (Option Response) := do
  let outcome ← asked .upload id
  match outcome with
  | .rejected r => return some r
  | .disconnected => return none
  | .failed => return some ⟨503, some "inference_failed"⟩
  | .ready => runDetection

/-- `do_POST`. -/
def doPost : Code R Unit := do
  let free : Bool ← asked .takeInference Except.ok
  if free then
    let response ← finallyDo doPostInner giveInference
    match response with
    | some r => reply r
    | none => return ()
  else
    reply ⟨503, some "server_busy"⟩

/-- `do_GET`. -/
def doGet (health : Bool) : Code R Unit := do
  if health then
    lock
    asked .count Except.ok
    unlock
    reply ⟨200, none⟩
  else
    reply ⟨404, some "not_found"⟩

/-- `finish_request`: one request is received and handled. -/
def finishRequest : Code R Unit := do
  let method ← asked .receive id
  match method with
  | .health => doGet true
  | .get => doGet false
  | .post => doPost
  | .none => return ()

/-- Exceptions that `_handle_connection` does not catch. -/
def uncaught (e : Raised) : Bool :=
  ["SystemExit", "KeyboardInterrupt", "GeneratorExit"].contains e.kind

/-- The `try` of `_handle_connection` with its two handlers. -/
def serve : Code R Unit := do
  let closing ← isClosing
  if closing then
    return ()
  else
    let r ← finishRequest.attempt
    match r with
    | .ok _ => return ()
    | .error e => if uncaught e then throw e else return ()

/-- The `finally` of `_handle_connection`. -/
def leave : Code R Unit := do
  shutdownRequest
  lock
  finallyDo (do
      remove
      giveSlot)
    unlock

/-- `_handle_connection` as a task of the pool, which keeps its exception. -/
def handleConnection : Code R Unit := do
  asked .begin Except.ok
  let _ ← (finallyDo serve leave).attempt
  asked .finished Except.ok

/-- The loop of `server_close`; an `OSError` is ignored. -/
def interruptAll : List R → Code R Unit
  | [] => return ()
  | r :: rs => do
    asked (.interrupt r) Except.ok
    interruptAll rs

/-- `server_close`. -/
def serverClose : Code R Unit := do
  lock
  let connections ← finallyDo (do
      asked .setClosing Except.ok
      asked .closeListener Except.ok
      asked .connections Except.ok)
    unlock
  interruptAll connections
  asked .poolShutdown Except.ok

/-- The threads: for each request its acceptance and its task, and the calls of `server_close`. -/
inductive Worker (R K : Type) where
  | accept (r : R)
  | handle (r : R)
  | close (k : K)
deriving DecidableEq

variable {K : Type} [DecidableEq R] [DecidableEq K]

/-- The program of a thread. -/
def Worker.code : Worker R K → Code R Unit
  | accept _ => processRequest
  | handle _ => handleConnection
  | close _ => serverClose

/-- The request of a thread. -/
def Worker.request : Worker R K → Option R
  | accept r => some r
  | handle r => some r
  | close _ => none

/-- The holder of `state_lock`, the flag, the free connection slots, `_connections`, the free inference
    slots with the threads that have one, the tasks that were submitted and are not done, those that the
    pool has from a submission that failed, and those that have started and are not done. -/
structure State (R K : Type) where
  holder : Option (Worker R K)
  closing : Bool
  free : Nat
  connections : List R
  inference : Nat
  posts : List (Worker R K)
  pending : List R
  stray : List R
  running : List R

/-- The server after `__init__`. -/
def State.initial : State R K :=
  ⟨none, false, maxHttpConnections, [], inferenceWorkers, [], [], [], []⟩

/-- What a thread may be answered, and the state after it. -/
def answers (s : State R K) (i : Worker R K) : Ev R → State R K → Prop
  | ⟨.lock, _⟩, s' => s.holder = none ∧ s' = { s with holder := some i }
  | ⟨.unlock, _⟩, s' => s' = { s with holder := none }
  | ⟨.isClosing, set⟩, s' => set = s.closing ∧ s' = s
  | ⟨.setClosing, _⟩, s' => s' = { s with closing := true }
  | ⟨.takeSlot, true⟩, s' => 0 < s.free ∧ s' = { s with free := s.free - 1 }
  | ⟨.takeSlot, false⟩, s' => s.free = 0 ∧ s' = s
  | ⟨.giveSlot, true⟩, s' => s.free < maxHttpConnections ∧ s' = { s with free := s.free + 1 }
  | ⟨.giveSlot, false⟩, s' => maxHttpConnections ≤ s.free ∧ s' = s
  | ⟨.add, _⟩, s' =>
    ∃ r, i.request = some r ∧ s' = { s with connections := s.connections.insert r }
  | ⟨.remove, true⟩, s' =>
    ∃ r, i.request = some r ∧ r ∈ s.connections ∧
      s' = { s with connections := s.connections.erase r }
  | ⟨.remove, false⟩, s' => ∃ r, i.request = some r ∧ r ∉ s.connections ∧ s' = s
  | ⟨.submit, .accepted⟩, s' =>
    ∃ r, i.request = some r ∧ s' = { s with pending := r :: s.pending }
  | ⟨.submit, .failed⟩, s' => s' = s
  | ⟨.submit, .queued⟩, s' =>
    ∃ r, i.request = some r ∧ s' = { s with stray := r :: s.stray }
  | ⟨.begin, _⟩, s' =>
    ∃ r, i.request = some r ∧ (r ∈ s.pending ∨ r ∈ s.stray) ∧
      s' = { s with running := r :: s.running }
  | ⟨.finished, _⟩, s' =>
    ∃ r, i.request = some r ∧
      s' = { s with
        pending := s.pending.filter fun x => x ≠ r
        running := s.running.filter fun x => x ≠ r }
  | ⟨.takeInference, true⟩, s' =>
    0 < s.inference ∧ s' = { s with inference := s.inference - 1, posts := i :: s.posts }
  | ⟨.takeInference, false⟩, s' => s.inference = 0 ∧ s' = s
  | ⟨.giveInference, true⟩, s' =>
    s.inference < inferenceWorkers ∧
      s' = { s with inference := s.inference + 1, posts := s.posts.erase i }
  | ⟨.giveInference, false⟩, s' => inferenceWorkers ≤ s.inference ∧ s' = s
  | ⟨.connections, l⟩, s' => l = s.connections ∧ s' = s
  | ⟨.poolShutdown, _⟩, s' => s.pending = [] ∧ s.running = [] ∧ s' = { s with stray := [] }
  | _, s' => s' = s

/-- The server with all its threads. -/
def start : Config (State R K) (Worker R K) (Op R) Op.Ans Raised Unit :=
  ⟨.initial, Worker.code⟩

end K11CHaos.Inference.Server
