import K11CHaos.Inference.DetectionServer

/-!
# The protocol of the detection server

Where a thread of the server stands (`Place`): in the acceptance of a connection, in its task on the
pool, or in `server_close`; and where each of its questions leads (`next`). The programs of
`DetectionServer` follow it, whatever is answered (`code_follows`). `Move` lists what a step can do to
the shared state.
-/

namespace K11CHaos.Inference.Server

open Prog Threads

variable {R K : Type}

/-- Where a thread stands. -/
inductive Place where
  -- `process_request`
  | idle
  | entered
  | openSeen
  | slotted
  | added
  | failed
  | undone
  | inside
  | out
  -- `_handle_connection`
  | waiting
  | serving
  | counting
  | computing
  | recording
  | shut
  | leaving
  | removed
  | left
  | gone
  | through
  -- `server_close`
  | running
  | closer
  | flagged
  | flushing
  | closed
deriving DecidableEq

/-- The place after a submission. -/
def onSubmission : Submission → Place
  | .accepted => .inside
  | _ => .failed

/-- The place after a question and its answer. -/
def next : Place → Ev R → Option Place
  | .idle, ⟨.lock, _⟩ => some .entered
  | .entered, ⟨.isClosing, set⟩ => some (cond set .inside .openSeen)
  | .openSeen, ⟨.takeSlot, free⟩ => some (cond free .slotted .inside)
  | .slotted, ⟨.add, _⟩ => some .added
  | .added, ⟨.submit, submission⟩ => some (onSubmission submission)
  | .failed, ⟨.remove, there⟩ => some (cond there .undone .inside)
  | .undone, ⟨.giveSlot, _⟩ => some .inside
  | .inside, ⟨.shutdownRequest, _⟩ => some .inside
  | .inside, ⟨.unlock, _⟩ => some .out
  | .out, ⟨.sendBusy, _⟩ => some .out
  | .out, ⟨.shutdownRequest, _⟩ => some .out
  | .waiting, ⟨.begin, _⟩ => some .serving
  | .serving, ⟨.isClosing, _⟩ => some .serving
  | .serving, ⟨.receive, _⟩ => some .serving
  | .serving, ⟨.reply _, _⟩ => some .serving
  | .serving, ⟨.lock, _⟩ => some .counting
  | .counting, ⟨.count, _⟩ => some .counting
  | .counting, ⟨.unlock, _⟩ => some .serving
  | .serving, ⟨.takeInference, free⟩ => some (cond free .computing .serving)
  | .computing, ⟨.upload, _⟩ => some .computing
  | .computing, ⟨.isClosing, _⟩ => some .computing
  | .computing, ⟨.detect, _⟩ => some .computing
  | .computing, ⟨.lock, _⟩ => some .recording
  | .recording, ⟨.count, _⟩ => some .recording
  | .recording, ⟨.unlock, _⟩ => some .computing
  | .computing, ⟨.giveInference, _⟩ => some .serving
  | .serving, ⟨.shutdownRequest, _⟩ => some .shut
  | .shut, ⟨.lock, _⟩ => some .leaving
  | .leaving, ⟨.remove, there⟩ => some (cond there .removed .left)
  | .removed, ⟨.giveSlot, _⟩ => some .left
  | .left, ⟨.unlock, _⟩ => some .gone
  | .gone, ⟨.finished, _⟩ => some .through
  | .running, ⟨.lock, _⟩ => some .closer
  | .closer, ⟨.setClosing, _⟩ => some .flagged
  | .flagged, ⟨.closeListener, _⟩ => some .flagged
  | .flagged, ⟨.connections, _⟩ => some .flagged
  | .flagged, ⟨.unlock, _⟩ => some .flushing
  | .flushing, ⟨.interrupt _, _⟩ => some .flushing
  | .flushing, ⟨.poolShutdown, _⟩ => some .closed
  | _, _ => none

/-- Where the threads end; `server_close` ends by returning. -/
def Ended (m : Place) (r : Except Raised Unit) : Prop :=
  m = .out ∨ m = .through ∨ m = .closed ∧ r = .ok ()

section Follow

/-- A step that always goes on to one place. -/
lemma step_follows {α β : Type} {post : Place → Except Raised β → Prop} {o : Op R}
    {f : o.Ans → Except Raised α} {k : α → Code R β} {m : Place} (m' : Place)
    (step : ∀ a, next m ⟨o, a⟩ = some m')
    (ok : ∀ b, Follows next post (k b) m') (error : ∀ e, post m' (.error e)) :
    Follows next post (asked o f >>= k) m := by
  refine follows_asked_bind fun a => ⟨m', step a, ?_⟩
  cases f a with
  | ok b => exact ok b
  | error e => exact error e

/-- The same where the step cannot fail. -/
lemma sure_follows {α β : Type} {post : Place → Except Raised β → Prop} {o : Op R}
    {f : o.Ans → α} {k : α → Code R β} {m : Place} (m' : Place)
    (step : ∀ a, next m ⟨o, a⟩ = some m') (ok : ∀ b, Follows next post (k b) m') :
    Follows next post (asked o (fun a => .ok (f a)) >>= k) m :=
  follows_asked_bind fun a => ⟨m', step a, ok (f a)⟩

/-- A last step that always ends in one place. -/
lemma last_follows {α : Type} {post : Place → Except Raised α → Prop} {o : Op R}
    {f : o.Ans → Except Raised α} {m : Place} (m' : Place)
    (step : ∀ a, next m ⟨o, a⟩ = some m') (all : ∀ r, post m' r) :
    Follows next post (asked o f) m :=
  follows_asked fun a => ⟨m', step a, all _⟩

/-- Acceptance ends under the lock, whatever happens. -/
lemma admitConnection_follows : Follows next (fun m _ => m = .inside) (admitConnection : Code R Bool) .entered := by
  refine follows_asked_bind fun (set : Bool) => ?_
  cases set with
  | true => exact ⟨.inside, rfl, follows_pure rfl⟩
  | false =>
    refine ⟨.openSeen, rfl, follows_asked_bind fun (free : Bool) => ?_⟩
    cases free with
    | false => exact ⟨.inside, rfl, follows_pure rfl⟩
    | true =>
      refine ⟨.slotted, rfl, sure_follows .added (fun _ => rfl) fun _ => ?_⟩
      refine follows_asked_bind fun (submission : Submission) =>
        ⟨onSubmission submission, rfl, ?_⟩
      have undo : Follows next (fun m _ => m = .inside) (do
          remove
          giveSlot
          shutdownRequest
          throw ⟨"RuntimeError", "cannot schedule new futures"⟩ : Code R Bool) .failed := by
        refine follows_asked_bind fun (there : Bool) => ?_
        cases there with
        | false => exact ⟨.inside, rfl, rfl⟩
        | true =>
          refine ⟨.undone, rfl, step_follows .inside (fun _ => rfl) (fun _ => ?_) fun e => rfl⟩
          exact sure_follows .inside (fun _ => rfl) fun _ => follows_throw rfl
      cases submission with
      | accepted => exact follows_pure rfl
      | failed => exact undo
      | queued => exact undo

/-- `process_request` ends without the lock. -/
lemma processRequest_follows : Follows next Ended (processRequest : Code R Unit) .idle := by
  refine sure_follows .entered (fun _ => rfl) fun _ => ?_
  have refused : Follows next (fun m _ => m = .out) (refuse : Code R Unit) .out := by
    have sent : Follows next (fun m r => m = .out) (asked .sendBusy id : Code R Unit).attempt .out :=
      Follows.attempt (last_follows .out (fun _ => rfl) fun _ => rfl) fun m r hm => hm
    refine sent.bind (fun m r hm => ?_) fun m e hm => hm
    subst hm
    cases r with
    | ok _ => exact follows_pure rfl
    | error e =>
      dsimp only
      split_ifs
      · exact follows_pure rfl
      · exact follows_throw rfl
  have admitted : Follows next (fun m _ => m = .out) (finallyDo admitConnection unlock : Code R Bool)
      .entered := by
    refine admitConnection_follows.finallyDo fun m r hm => ?_
    subst hm
    exact last_follows .out (fun _ => rfl) fun x => by cases x <;> rfl
  refine admitted.bind (fun m accepted hm => ?_) fun m e hm => .inl hm
  subst hm
  cases accepted with
  | true => exact follows_pure (.inl rfl)
  | false =>
    refine refused.finallyDo fun m r hm => ?_
    subst hm
    exact last_follows .out (fun _ => rfl) fun x => by cases x <;> exact .inl rfl

/-- A branch on a flag, where both sides go on from one place. -/
lemma branch_follows {α : Type} {post : Place → Except Raised α → Prop} {b : Bool}
    {x y : Code R α} {m : Place} (yes : Follows next post x m) (no : Follows next post y m) :
    Follows next post (if b = true then x else y) m := by
  cases b with
  | true => exact yes
  | false => exact no

/-- The detection runs where a request computes. -/
lemma runDetection_follows :
    Follows next (fun m _ => m = .computing) (runDetection : Code R (Option Response))
      .computing := by
  refine sure_follows .computing (fun _ => rfl) fun closing => branch_follows (follows_pure rfl) ?_
  refine step_follows .computing (fun _ => rfl) (fun outcome => ?_) fun e => rfl
  cases outcome with
  | rejected r => exact follows_pure rfl
  | disconnected => exact follows_pure rfl
  | failed => exact follows_pure rfl
  | ready =>
    exact sure_follows .recording (fun _ => rfl) fun _ =>
      sure_follows .recording (fun _ => rfl) fun _ =>
      sure_follows .computing (fun _ => rfl) fun _ => follows_pure rfl

/-- A POST request is answered where it computes. -/
lemma doPostInner_follows :
    Follows next (fun m _ => m = .computing) (doPostInner : Code R (Option Response))
      .computing := by
  refine step_follows .computing (fun _ => rfl) (fun outcome => ?_) fun e => rfl
  cases outcome with
  | ready => exact runDetection_follows
  | rejected r => exact follows_pure rfl
  | disconnected => exact follows_pure rfl
  | failed => exact follows_pure rfl

/-- A reply is sent where a request is served. -/
lemma reply_follows {r : Response} :
    Follows next (fun m _ => m = .serving) (reply r : Code R Unit) .serving :=
  last_follows .serving (fun _ => rfl) fun _ => rfl

/-- A POST gives back the inference slot that it took, whatever happens. -/
lemma doPost_follows : Follows next (fun m _ => m = .serving) (doPost : Code R Unit) .serving := by
  refine follows_asked_bind fun (free : Bool) => ?_
  cases free with
  | false => exact ⟨.serving, rfl, reply_follows⟩
  | true =>
    have released : Follows next (fun m _ => m = .serving)
        (finallyDo doPostInner giveInference : Code R (Option Response)) .computing := by
      refine doPostInner_follows.finallyDo fun m r hm => ?_
      subst hm
      exact last_follows .serving (fun _ => rfl) fun x => by cases x <;> rfl
    refine ⟨.computing, rfl, released.bind (fun m response hm => ?_) fun m e hm => hm⟩
    subst hm
    cases response with
    | none => exact follows_pure rfl
    | some r => exact reply_follows

/-- A GET request is answered where it is served. -/
lemma doGet_follows {health : Bool} :
    Follows next (fun m _ => m = .serving) (doGet health : Code R Unit) .serving := by
  refine branch_follows ?_ reply_follows
  exact sure_follows .counting (fun _ => rfl) fun _ =>
    sure_follows .counting (fun _ => rfl) fun _ =>
    sure_follows .serving (fun _ => rfl) fun _ => reply_follows

/-- A request is served without the lock and without an inference slot at its end. -/
lemma serve_follows : Follows next (fun m _ => m = .serving) (serve : Code R Unit) .serving := by
  have finish : Follows next (fun m _ => m = .serving) (finishRequest : Code R Unit) .serving := by
    refine step_follows .serving (fun _ => rfl) (fun method => ?_) fun e => rfl
    cases method with
    | health => exact doGet_follows
    | get => exact doGet_follows
    | post => exact doPost_follows
    | none => exact follows_pure rfl
  refine sure_follows .serving (fun _ => rfl) fun closing =>
    branch_follows (follows_pure rfl) ?_
  have caught : Follows next (fun m _ => m = .serving)
      (finishRequest : Code R Unit).attempt .serving :=
    finish.attempt fun m r hm => hm
  refine caught.bind (fun m r hm => ?_) fun m e hm => hm
  subst hm
  cases r with
  | ok _ => exact follows_pure rfl
  | error e => exact branch_follows (follows_throw rfl) (follows_pure rfl)

/-- The `finally` of a task: its connection is removed and its slot given back. -/
lemma leave_follows : Follows next (fun m _ => m = .gone) (leave : Code R Unit) .serving := by
  refine sure_follows .shut (fun _ => rfl) fun _ =>
    sure_follows .leaving (fun _ => rfl) fun _ => ?_
  have removed : Follows next (fun m _ => m = .left) (do
      remove
      giveSlot : Code R Unit) .leaving := by
    refine follows_asked_bind fun (there : Bool) => ?_
    cases there with
    | false => exact ⟨.left, rfl, rfl⟩
    | true => exact ⟨.removed, rfl, last_follows .left (fun _ => rfl) fun _ => rfl⟩
  refine removed.finallyDo fun m r hm => ?_
  subst hm
  exact last_follows .gone (fun _ => rfl) fun x => by cases x <;> rfl

/-- A task goes from its queue to its end. -/
lemma handleConnection_follows :
    Follows next Ended (handleConnection : Code R Unit) .waiting := by
  refine sure_follows .serving (fun _ => rfl) fun _ => ?_
  have handled : Follows next (fun m _ => m = .gone) (finallyDo serve leave : Code R Unit)
      .serving := by
    refine serve_follows.finallyDo fun m r hm => ?_
    subst hm
    exact leave_follows.mono fun m x hm => by cases x <;> exact hm
  have caught : Follows next (fun m r => m = .gone ∧ ∃ x, r = .ok x)
      (finallyDo serve leave : Code R Unit).attempt .serving :=
    handled.attempt fun m r hm => ⟨hm, r, rfl⟩
  refine caught.bind ?_ ?_
  · rintro m r ⟨rfl, -⟩
    exact last_follows .through (fun _ => rfl) fun _ => .inr (.inl rfl)
  · rintro m e ⟨-, x, ⟨⟩⟩

/-- The connections are interrupted one by one. -/
lemma interruptAll_follows {rs : List R} :
    Follows next (fun m r => m = .flushing ∧ r = .ok ()) (interruptAll rs) .flushing := by
  induction rs with
  | nil => exact follows_pure ⟨rfl, rfl⟩
  | cons r rs ih => exact sure_follows .flushing (fun _ => rfl) fun _ => ih

/-- A shutdown goes from running to its end. -/
lemma serverClose_follows : Follows next Ended (serverClose : Code R Unit) .running := by
  refine sure_follows .closer (fun _ => rfl) fun _ => ?_
  have flagged : Follows next (fun m r => m = .flagged ∧ ∃ l, r = .ok l) (do
      asked .setClosing Except.ok
      asked .closeListener Except.ok
      asked .connections Except.ok : Code R (List R)) .closer := by
    refine sure_follows .flagged (fun _ => rfl) fun _ =>
      sure_follows .flagged (fun _ => rfl) fun _ => ?_
    exact follows_asked fun l => ⟨.flagged, rfl, rfl, l, rfl⟩
  have unlocked : Follows next (fun m r => m = .flushing ∧ ∃ l, r = .ok l) (finallyDo (do
      asked .setClosing Except.ok
      asked .closeListener Except.ok
      asked .connections Except.ok) unlock : Code R (List R)) .closer := by
    refine flagged.finallyDo ?_
    rintro m r ⟨rfl, l, rfl⟩
    exact follows_asked fun _ => ⟨.flushing, rfl, rfl, l, rfl⟩
  refine unlocked.bind ?_ ?_
  · rintro m l ⟨rfl, -⟩
    refine interruptAll_follows.bind ?_ ?_
    · rintro m _ ⟨rfl, -⟩
      exact follows_asked fun _ => ⟨.closed, rfl, .inr (.inr ⟨rfl, rfl⟩)⟩
    · rintro m e ⟨-, ⟨⟩⟩
  · rintro m e ⟨-, l, ⟨⟩⟩

end Follow

variable {K : Type} [DecidableEq R] [DecidableEq K]

/-- Where a thread begins. -/
def Worker.place : Worker R K → Place
  | accept _ => .idle
  | handle _ => .waiting
  | close _ => .running

omit [DecidableEq R] [DecidableEq K] in
/-- Every program follows the protocol. -/
lemma code_follows (i : Worker R K) : Follows next Ended i.code i.place := by
  cases i with
  | accept r => exact processRequest_follows
  | handle r => exact handleConnection_follows
  | close k => exact serverClose_follows

/-- The places after `state_lock` has been acquired and after it has been released. -/
def Place.enter : Place → Option Place
  | idle => some entered
  | serving => some counting
  | computing => some recording
  | shut => some leaving
  | running => some closer
  | _ => none

def Place.leave : Place → Option Place
  | inside => some out
  | counting => some serving
  | recording => some computing
  | left => some gone
  | flagged => some flushing
  | _ => none

/-- The steps of the protocol. -/
inductive Move (s : State R K) (i : Worker R K) :
    Place → Ev R → Place → State R K → Prop where
  | quiet {m e} :
    next m e = some m →
    Move s i m e m s
  | lock {m m' u} :
    m.enter = some m' →
    s.holder = none →
    Move s i m ⟨.lock, u⟩ m' { s with holder := some i }
  | unlock {m m' u} :
    m.leave = some m' →
    Move s i m ⟨.unlock, u⟩ m' { s with holder := none }
  | refuse {set} :
    Move s i .entered ⟨.isClosing, set⟩ .inside s
  | stillOpen {set} :
    s.closing = false →
    Move s i .entered ⟨.isClosing, set⟩ .openSeen s
  | takeSlot :
    0 < s.free →
    Move s i .openSeen ⟨.takeSlot, true⟩ .slotted { s with free := s.free - 1 }
  | noSlot :
    Move s i .openSeen ⟨.takeSlot, false⟩ .inside s
  | add {r u} :
    i.request = some r →
    Move s i .slotted ⟨.add, u⟩ .added { s with connections := s.connections.insert r }
  | submitted {r} :
    i.request = some r →
    Move s i .added ⟨.submit, .accepted⟩ .inside { s with pending := r :: s.pending }
  | submitFailed :
    Move s i .added ⟨.submit, .failed⟩ .failed s
  | submitQueued {r} :
    i.request = some r →
    Move s i .added ⟨.submit, .queued⟩ .failed { s with stray := r :: s.stray }
  | undo {r} :
    i.request = some r →
    r ∈ s.connections →
    Move s i .failed ⟨.remove, true⟩ .undone { s with connections := s.connections.erase r }
  | nothingToUndo {r} :
    i.request = some r →
    r ∉ s.connections →
    Move s i .failed ⟨.remove, false⟩ .inside s
  | giveBack :
    s.free < maxHttpConnections →
    Move s i .undone ⟨.giveSlot, true⟩ .inside { s with free := s.free + 1 }
  | overUndone :
    maxHttpConnections ≤ s.free →
    Move s i .undone ⟨.giveSlot, false⟩ .inside s
  | begin {r u} :
    i.request = some r →
    r ∈ s.pending ∨ r ∈ s.stray →
    Move s i .waiting ⟨.begin, u⟩ .serving { s with running := r :: s.running }
  | takeInference :
    0 < s.inference →
    Move s i .serving ⟨.takeInference, true⟩ .computing
      { s with inference := s.inference - 1, posts := i :: s.posts }
  | giveInference :
    s.inference < inferenceWorkers →
    Move s i .computing ⟨.giveInference, true⟩ .serving
      { s with inference := s.inference + 1, posts := s.posts.erase i }
  | overInference :
    inferenceWorkers ≤ s.inference →
    Move s i .computing ⟨.giveInference, false⟩ .serving s
  | shut {u} :
    Move s i .serving ⟨.shutdownRequest, u⟩ .shut s
  | remove {r} :
    i.request = some r →
    r ∈ s.connections →
    Move s i .leaving ⟨.remove, true⟩ .removed { s with connections := s.connections.erase r }
  | nothingToRemove {r} :
    i.request = some r →
    r ∉ s.connections →
    Move s i .leaving ⟨.remove, false⟩ .left s
  | giveSlot :
    s.free < maxHttpConnections →
    Move s i .removed ⟨.giveSlot, true⟩ .left { s with free := s.free + 1 }
  | overRemoved :
    maxHttpConnections ≤ s.free →
    Move s i .removed ⟨.giveSlot, false⟩ .left s
  | finished {r u} :
    i.request = some r →
    Move s i .gone ⟨.finished, u⟩ .through
      { s with
        pending := s.pending.filter fun x => x ≠ r
        running := s.running.filter fun x => x ≠ r }
  | setClosing {u} :
    Move s i .closer ⟨.setClosing, u⟩ .flagged { s with closing := true }
  | poolShutdown {u} :
    s.pending = [] →
    s.running = [] →
    Move s i .flushing ⟨.poolShutdown, u⟩ .closed { s with stray := [] }

/-- A step of the protocol is one of these. -/
lemma move {s s' : State R K} {i m e m'} (hn : next m e = some m') (hs : answers s i e s') :
    Move s i m e m' s' := by
  have step := hn
  unfold next at hn
  split at hn
  -- the places that ask for the lock, and next those that release it
  case h_1 | h_16 | h_23 | h_28 | h_33 =>
    cases hn
    obtain ⟨free, rfl⟩ := hs
    exact .lock rfl free
  case h_9 | h_18 | h_25 | h_31 | h_37 =>
    cases hn
    obtain rfl := hs
    exact .unlock rfl
  -- what leaves the state of the server alone, whatever the answer
  case h_8 | h_10 | h_11 | h_14 | h_15 | h_17 | h_20 | h_22 | h_24 | h_35 | h_38 =>
    cases hn
    obtain rfl := hs
    exact .quiet step
  case h_13 | h_21 | h_36 =>
    cases hn
    obtain ⟨_, rfl⟩ := hs
    exact .quiet step
  case h_2 set =>
    obtain ⟨seen, rfl⟩ := hs
    cases set with
    | true =>
      cases hn
      exact .refuse
    | false =>
      cases hn
      exact .stillOpen seen.symm
  case h_3 free =>
    cases free with
    | true =>
      cases hn
      obtain ⟨pos, rfl⟩ := hs
      exact .takeSlot pos
    | false =>
      cases hn
      obtain ⟨_, rfl⟩ := hs
      exact .noSlot
  case h_4 =>
    cases hn
    obtain ⟨r, req, rfl⟩ := hs
    exact .add req
  -- the pool may take the request, refuse it, or queue it and then raise
  case h_5 submission =>
    cases submission with
    | accepted =>
      cases hn
      obtain ⟨r, req, rfl⟩ := hs
      exact .submitted req
    | failed =>
      cases hn
      obtain rfl := hs
      exact .submitFailed
    | queued =>
      cases hn
      obtain ⟨r, req, rfl⟩ := hs
      exact .submitQueued req
  case h_6 there =>
    cases there with
    | true =>
      cases hn
      obtain ⟨r, req, mem, rfl⟩ := hs
      exact .undo req mem
    | false =>
      cases hn
      obtain ⟨r, req, none, rfl⟩ := hs
      exact .nothingToUndo req none
  case h_7 given =>
    cases hn
    cases given with
    | true =>
      obtain ⟨room, rfl⟩ := hs
      exact .giveBack room
    | false =>
      obtain ⟨full, rfl⟩ := hs
      exact .overUndone full
  case h_12 =>
    cases hn
    obtain ⟨r, req, mem, rfl⟩ := hs
    exact .begin req mem
  case h_19 free =>
    cases free with
    | true =>
      cases hn
      obtain ⟨pos, rfl⟩ := hs
      exact .takeInference pos
    | false =>
      cases hn
      obtain ⟨_, rfl⟩ := hs
      exact .quiet step
  case h_26 given =>
    cases hn
    cases given with
    | true =>
      obtain ⟨room, rfl⟩ := hs
      exact .giveInference room
    | false =>
      obtain ⟨full, rfl⟩ := hs
      exact .overInference full
  case h_27 =>
    cases hn
    obtain rfl := hs
    exact .shut
  case h_29 there =>
    cases there with
    | true =>
      cases hn
      obtain ⟨r, req, mem, rfl⟩ := hs
      exact .remove req mem
    | false =>
      cases hn
      obtain ⟨r, req, none, rfl⟩ := hs
      exact .nothingToRemove req none
  case h_30 given =>
    cases hn
    cases given with
    | true =>
      obtain ⟨room, rfl⟩ := hs
      exact .giveSlot room
    | false =>
      obtain ⟨full, rfl⟩ := hs
      exact .overRemoved full
  case h_32 =>
    cases hn
    obtain ⟨r, req, rfl⟩ := hs
    exact .finished req
  case h_34 =>
    cases hn
    obtain rfl := hs
    exact .setClosing
  case h_39 =>
    cases hn
    obtain ⟨none, done, rfl⟩ := hs
    exact .poolShutdown none done
  case h_40 => cases hn

/-- The three kinds of threads. -/
inductive Side where
  | accept
  | handle
  | close
deriving DecidableEq

def Worker.side : Worker R K → Side
  | accept _ => .accept
  | handle _ => .handle
  | close _ => .close

/-- The kind of thread that comes to a place. -/
def Place.side : Place → Side
  | idle | entered | openSeen | slotted | added | failed | undone | inside | out => .accept
  | waiting | serving | counting | computing | recording | shut | leaving | removed | left | gone |
    through => .handle
  | running | closer | flagged | flushing | closed => .close

/-- The thread has `state_lock`. -/
def Place.locks : Place → Bool
  | entered | openSeen | slotted | added | failed | undone | inside | counting | recording |
    leaving | removed | left | closer | flagged => true
  | _ => false

/-- The thread has a slot for no connection of the set. -/
def Place.debt : Place → Nat
  | slotted | undone | removed => 1
  | _ => 0

/-- The thread has an inference slot. -/
def Place.computes : Place → Bool
  | computing | recording => true
  | _ => false

/-- An acceptance that has found the server open and has the lock since. -/
def Place.opens : Place → Bool
  | openSeen | slotted | added | failed | undone => true
  | _ => false

/-- An acceptance before its submission. -/
def Place.early : Place → Bool
  | idle | entered | openSeen | slotted | added => true
  | _ => false

/-- An acceptance whose connection is in the set. -/
def Place.holds : Place → Bool
  | added | failed => true
  | _ => false

/-- A task before it removes its connection. -/
def Place.active : Place → Bool
  | waiting | serving | counting | computing | recording | shut | leaving => true
  | _ => false

/-- A task that has started and is not done. -/
def Place.begun : Place → Bool
  | serving | counting | computing | recording | shut | leaving | removed | left | gone => true
  | _ => false

/-- A `server_close` that has set the flag. -/
def Place.closes : Place → Bool
  | flagged | flushing | closed => true
  | _ => false

section Moves

variable {s s' : State R K} {i : Worker R K} {m m' : Place} {e : Ev R}

/-- Entering takes the lock and owes nothing. -/
lemma enter_cases (h : m.enter = some m') :
    m'.side = m.side ∧ m.locks = false ∧ m'.locks = true ∧ m'.debt = 0 ∧ m'.computes = m.computes ∧
      m'.opens = false ∧ m'.closes = m.closes := by
  cases m <;> cases h <;> exact ⟨rfl, rfl, rfl, rfl, rfl, rfl, rfl⟩

/-- Leaving gives the lock back when nothing is owed. -/
lemma leave_cases (h : m.leave = some m') :
    m'.side = m.side ∧ m.locks = true ∧ m'.locks = false ∧ m.debt = 0 ∧ m'.computes = m.computes ∧
      m'.opens = false ∧ m'.closes = m.closes := by
  cases m <;> cases h <;> exact ⟨rfl, rfl, rfl, rfl, rfl, rfl, rfl⟩

/-- The lock does not start or end a task. -/
lemma enter_begun (h : m.enter = some m') : m'.begun = m.begun := by
  cases m <;> cases h <;> rfl

/-- Leaving does not change whether a task has begun. -/
lemma leave_begun (h : m.leave = some m') : m'.begun = m.begun := by
  cases m <;> cases h <;> rfl

/-- No step takes a thread to another side. -/
lemma Move.side_eq (h : Move s i m e m' s') : m'.side = m.side := by
  cases h with
  | lock enter => exact (enter_cases enter).1
  | unlock leave => exact (leave_cases leave).1
  | _ => rfl

/-- How a step changes the lock. -/
lemma Move.lock_move (h : Move s i m e m' s') :
    LockMove Place.locks State.holder i m m' s s' := by
  cases h with
  | lock enter free => exact .inr (.inl ⟨free, rfl, (enter_cases enter).2.2.1⟩)
  | unlock leave => exact .inr (.inr ⟨rfl, (leave_cases leave).2.1, (leave_cases leave).2.2.1⟩)
  | _ => exact .inl ⟨rfl, rfl⟩

/-- Without the lock no slot is taken or given back, and the set stays. -/
lemma Move.slots_same (h : Move s i m e m' s') (out : m.locks = false ∨ m'.locks = false) :
    s'.free = s.free ∧ s'.connections = s.connections ∧ m.debt = 0 ∧ m'.debt = 0 := by
  have free : ∀ m : Place, m.locks = false → m.debt = 0 := by
    intro m none
    cases m <;> first | rfl | cases none
  cases h with
  | quiet => exact ⟨rfl, rfl, free _ (out.elim id id), free _ (out.elim id id)⟩
  | lock enter =>
    obtain ⟨_, before, _, none, _⟩ := enter_cases enter
    exact ⟨rfl, rfl, free _ before, none⟩
  | unlock leave =>
    obtain ⟨_, _, after, none, _⟩ := leave_cases leave
    exact ⟨rfl, rfl, none, free _ after⟩
  | begin => exact ⟨rfl, rfl, rfl, rfl⟩
  | takeInference => exact ⟨rfl, rfl, rfl, rfl⟩
  | giveInference => exact ⟨rfl, rfl, rfl, rfl⟩
  | overInference => exact ⟨rfl, rfl, rfl, rfl⟩
  | shut => exact ⟨rfl, rfl, rfl, rfl⟩
  | finished => exact ⟨rfl, rfl, rfl, rfl⟩
  | poolShutdown => exact ⟨rfl, rfl, rfl, rfl⟩
  | _ => obtain none | none := out <;> cases none

/-- A step keeps the free slots, the connections and the slots of the thread for none, in sum. -/
lemma Move.slots_sum (h : Move s i m e m' s')
    (sum : s.free + s.connections.length + m.debt = maxHttpConnections)
    (new : ∀ r, m = .slotted → i.request = some r → r ∉ s.connections) :
    s'.free + s'.connections.length + m'.debt = maxHttpConnections := by
  by_cases out : m.locks = false ∨ m'.locks = false
  · obtain ⟨free, connections, none, none'⟩ := h.slots_same out
    rw [none] at sum
    rwa [free, connections, none']
  cases h with
  | lock enter => exact absurd (.inl (enter_cases enter).2.1) out
  | unlock leave => exact absurd (.inr (leave_cases leave).2.2.1) out
  | takeSlot pos =>
    change s.free - 1 + s.connections.length + 1 = maxHttpConnections
    change s.free + s.connections.length + 0 = maxHttpConnections at sum
    omega
  | @add r _ req =>
    change s.free + (s.connections.insert r).length + 0 = maxHttpConnections
    rw [List.length_insert_of_not_mem (new r rfl req)]
    exact sum
  | undo _ mem =>
    change s.free + (s.connections.erase _).length + 1 = maxHttpConnections
    rw [List.length_erase_of_mem mem]
    have pos := List.length_pos_of_mem mem
    change s.free + s.connections.length + 0 = maxHttpConnections at sum
    omega
  | remove _ mem =>
    change s.free + (s.connections.erase _).length + 1 = maxHttpConnections
    rw [List.length_erase_of_mem mem]
    have pos := List.length_pos_of_mem mem
    change s.free + s.connections.length + 0 = maxHttpConnections at sum
    omega
  | giveBack =>
    change s.free + 1 + s.connections.length + 0 = maxHttpConnections
    change s.free + s.connections.length + 1 = maxHttpConnections at sum
    omega
  | giveSlot =>
    change s.free + 1 + s.connections.length + 0 = maxHttpConnections
    change s.free + s.connections.length + 1 = maxHttpConnections at sum
    omega
  | overUndone full =>
    change s.free + s.connections.length + 1 = maxHttpConnections at sum
    omega
  | overRemoved full =>
    change s.free + s.connections.length + 1 = maxHttpConnections at sum
    omega
  | _ => exact sum

/-- A slot is given back only by a thread that has it, so there is room. -/
lemma Move.slot_room (h : Move s i m e m' s')
    (sum : s.free + s.connections.length + m.debt = maxHttpConnections) : e ≠ ⟨.giveSlot, false⟩ := by
  rintro rfl
  cases h with
  | quiet step => cases m <;> cases step
  | overUndone full =>
    change s.free + s.connections.length + 1 = maxHttpConnections at sum
    omega
  | overRemoved full =>
    change s.free + s.connections.length + 1 = maxHttpConnections at sum
    omega

/-- Slots are given back under the lock. -/
lemma Move.give_locks {ok : Bool} (h : Move s i m ⟨.giveSlot, ok⟩ m' s') : m.locks = true := by
  cases h with
  | quiet step => cases m <;> cases step
  | _ => rfl

/-- How a step changes the inference slots. -/
lemma Move.inference_cases (h : Move s i m e m' s') :
    (s'.inference = s.inference ∧ s'.posts = s.posts ∧ m'.computes = m.computes ∧
        e.1 ≠ .giveInference ∧ e ≠ ⟨.takeInference, true⟩) ∨
      (e = ⟨.takeInference, true⟩ ∧ 0 < s.inference ∧ s'.inference = s.inference - 1 ∧
        s'.posts = i :: s.posts ∧ m.computes = false ∧ m'.computes = true) ∨
      (e = ⟨.giveInference, true⟩ ∧ s'.inference = s.inference + 1 ∧ s'.posts = s.posts.erase i ∧
        m.computes = true ∧ m'.computes = false) ∨
      e = ⟨.giveInference, false⟩ ∧ inferenceWorkers ≤ s.inference ∧ m.computes = true := by
  cases h with
  | quiet step =>
    refine .inl ⟨rfl, rfl, rfl, fun give => ?_, fun take => ?_⟩
    · obtain ⟨o, a⟩ := e
      obtain rfl : o = .giveInference := give
      cases m <;> cases step
    · subst take
      cases m <;> cases step
  | lock enter => exact .inl ⟨rfl, rfl, (enter_cases enter).2.2.2.2.1, nofun, nofun⟩
  | unlock leave => exact .inl ⟨rfl, rfl, (leave_cases leave).2.2.2.2.1, nofun, nofun⟩
  | takeInference pos => exact .inr (.inl ⟨rfl, pos, rfl, rfl, rfl, rfl⟩)
  | giveInference => exact .inr (.inr (.inl ⟨rfl, rfl, rfl, rfl, rfl⟩))
  | overInference full => exact .inr (.inr (.inr ⟨rfl, full, rfl⟩))
  | _ => exact .inl ⟨rfl, rfl, rfl, nofun, nofun⟩

/-- How a step changes the flag, and who relies on it. -/
lemma Move.closing_cases (h : Move s i m e m' s') :
    (s'.closing = s.closing ∧ (m'.opens = true → m.opens = true ∨ s.closing = false) ∧
        m'.closes = m.closes ∧ e.1 ≠ .setClosing) ∨
      (e.1 = .setClosing ∧ m.locks = true ∧ s'.closing = true ∧ m'.opens = false) := by
  cases h with
  | @quiet m e step =>
    refine .inl ⟨rfl, .inl, rfl, fun set => ?_⟩
    obtain ⟨o, a⟩ := e
    obtain rfl : o = .setClosing := set
    cases m <;> cases step
  | lock enter =>
    have cases := (enter_cases enter).2.2.2.2.2
    exact .inl ⟨rfl, fun opens => absurd opens (by simp [cases.1]), cases.2, nofun⟩
  | unlock leave =>
    have cases := (leave_cases leave).2.2.2.2.2
    exact .inl ⟨rfl, fun opens => absurd opens (by simp [cases.1]), cases.2, nofun⟩
  | stillOpen free => exact .inl ⟨rfl, fun _ => .inr free, rfl, nofun⟩
  | setClosing => exact .inr ⟨rfl, rfl, rfl, rfl⟩
  | takeSlot => exact .inl ⟨rfl, fun _ => .inl rfl, rfl, nofun⟩
  | add => exact .inl ⟨rfl, fun _ => .inl rfl, rfl, nofun⟩
  | submitFailed => exact .inl ⟨rfl, fun _ => .inl rfl, rfl, nofun⟩
  | submitQueued => exact .inl ⟨rfl, fun _ => .inl rfl, rfl, nofun⟩
  | undo => exact .inl ⟨rfl, fun _ => .inl rfl, rfl, nofun⟩
  | _ => exact .inl ⟨rfl, nofun, rfl, nofun⟩

/-- How a step changes the tasks that the pool has. -/
lemma Move.pending_cases (h : Move s i m e m' s') :
    (s'.pending ⊆ s.pending ∧ s'.stray ⊆ s.stray) ∨ m.opens = true := by
  cases h with
  | finished => exact .inl ⟨fun r mem => (List.mem_filter.mp mem).1, fun _ => id⟩
  | poolShutdown => exact .inl ⟨fun _ => id, List.nil_subset _⟩
  | submitted => exact .inr rfl
  | submitQueued => exact .inr rfl
  | _ => exact .inl ⟨fun _ => id, fun _ => id⟩

/-- How a step changes the tasks that have started. -/
lemma Move.running_cases (h : Move s i m e m' s') :
    (s'.running = s.running ∧ (m'.begun = true → m.begun = true)) ∨
      (∃ r, i.request = some r ∧ (r ∈ s.pending ∨ r ∈ s.stray) ∧ s'.running = r :: s.running) ∨
      ∃ r, i.request = some r ∧ m = .gone ∧ m' = .through ∧
        s'.running = s.running.filter fun x => x ≠ r := by
  cases h with
  | quiet => exact .inl ⟨rfl, id⟩
  | lock enter => exact .inl ⟨rfl, (enter_begun enter).symm.trans⟩
  | unlock leave => exact .inl ⟨rfl, (leave_begun leave).symm.trans⟩
  | begin req known => exact .inr (.inl ⟨_, req, known, rfl⟩)
  | finished req => exact .inr (.inr ⟨_, req, rfl, rfl, rfl⟩)
  | _ => exact .inl ⟨rfl, by decide⟩

/-- The pool has no task, and none will start. -/
structure State.Drained (s : State R K) : Prop where
  pending : s.pending = []
  stray : s.stray = []
  running : s.running = []

/-- The pool is shut down when its tasks are done. -/
lemma Move.closed_cases (h : Move s i m e m' s') (closed : m' = .closed) :
    m = .closed ∧ s' = s ∨ s'.Drained := by
  cases h with
  | quiet => exact .inl ⟨closed, rfl⟩
  | lock enter => cases m <;> cases enter <;> cases closed
  | unlock leave => cases m <;> cases leave <;> cases closed
  | poolShutdown none done => exact .inr ⟨none, rfl, done⟩
  | _ => cases closed

/-- A pool without tasks stays without them while no connection is admitted. -/
lemma Move.drained (h : Move s i m e m' s') (opens : m.opens = false) (none : s.Drained) :
    s'.Drained := by
  obtain ⟨fewer, left⟩ | admits := h.pending_cases
  · refine ⟨List.subset_nil.mp (none.pending ▸ fewer), List.subset_nil.mp (none.stray ▸ left), ?_⟩
    obtain ⟨same, _⟩ | ⟨r, _, known, _⟩ | ⟨r, _, _, _, eq⟩ := h.running_cases
    · rw [same, none.running]
    · rw [none.pending, none.stray] at known
      exact absurd known (by simp)
    · rw [eq, none.running]
      rfl
  · rw [opens] at admits
    cases admits

/-- A step that admits a connection. -/
def admits : Ev R → Bool
  | ⟨.takeSlot, free⟩ => free
  | ⟨.add, _⟩ => true
  | ⟨.submit, _⟩ => true
  | _ => false

/-- Who admits a request relies on an open flag. -/
lemma Move.admits_opens (h : Move s i m e m' s') (admitted : admits e = true) : m.opens = true := by
  cases h with
  | quiet step =>
    obtain ⟨o, a⟩ := e
    cases o with
    | takeSlot => cases m <;> first | rfl | cases step
    | add => cases m <;> first | rfl | cases step
    | submit => cases m <;> first | rfl | cases step
    | _ => cases admitted
  | takeSlot => rfl
  | add => rfl
  | submitted => rfl
  | submitFailed => rfl
  | submitQueued => rfl
  | _ => cases admitted

end Moves

end K11CHaos.Inference.Server
