import K11CHaos.Inference.OutputLeases

/-!
# The protocol of a lease

Where a thread stands between its lease and its SDK calls (`Place`), and where each of its questions
leads (`next`). The programs of `OutputLeases` go from one place to the next, whatever is answered, and
end where the slot was given back and the lock released (`borrowOutputs_follows`, `close_follows`).

`Move` lists what a step of a thread can do to the shared state; the lemmas about it say what a step
changes: the lock, the slots, the context, and what a thread owes to the SDK.
-/

namespace K11CHaos.Inference

open Prog Threads

/-- Where a thread stands: without a slot; with one; with the lock, before it looked at the context,
    and in its SDK calls one after the other; in `close`; and with a slot that the queue refused. -/
inductive Place where
  | out
  | leased (slot : Nat)
  | locked (slot : Nat)
  | live (slot : Nat)
  | set (slot : Nat)
  | ran (slot : Nat)
  | got (slot : Nat)
  | released (slot : Nat)
  | closer
  | closing
  | taken (context : Nat)
  | destroyed
  | full (slot : Nat)
deriving DecidableEq

/-- The places that the lock is released from. -/
def Place.leave : Place → Option Place
  | locked slot | live slot | set slot | ran slot | released slot => some (leased slot)
  | closer | destroyed => some out
  | _ => none

/-- The place after a call with this code. -/
def onSuccess (code : Int) (done failed : Place) : Place :=
  if code = 0 then done else failed

/-- The place after a look at the context. -/
def onOpen (value : Nat) (opened closed : Place) : Place :=
  if value = 0 then closed else opened

/-- The place after a question and its answer. -/
def next : Place → Ev → Option Place
  | .out, ⟨.get, some slot⟩ => some (.leased slot)
  | .out, ⟨.get, none⟩ => some .out
  | .leased slot, ⟨.acquire, ok⟩ => some (cond ok (.locked slot) (.leased slot))
  | .locked slot, ⟨.context, value⟩ => some (onOpen value (.live slot) (.locked slot))
  | .live slot, ⟨.sdk .inputsSet, code⟩ => some (onSuccess code (.set slot) (.live slot))
  | .set slot, ⟨.sdk .run, code⟩ => some (onSuccess code (.ran slot) (.set slot))
  | .ran slot, ⟨.sdk .outputsGet, code⟩ => some (onSuccess code (.got slot) (.ran slot))
  | .got slot, ⟨.metadata _, _⟩ => some (.got slot)
  | .got slot, ⟨.sdk .outputsRelease, _⟩ => some (.released slot)
  | .leased slot, ⟨.body used, _⟩ => if used = slot then some (.leased slot) else none
  | .leased slot, ⟨.put back, ok⟩ =>
    if back = slot then some (cond ok .out (.full slot)) else none
  | .out, ⟨.lock, _⟩ => some .closer
  | .closer, ⟨.context, value⟩ => some (onOpen value .closing .closer)
  | .closing, ⟨.take, value⟩ => some (.taken value)
  | .taken context, ⟨.destroy used, _⟩ => if used = context then some .destroyed else none
  | m, ⟨.unlock, _⟩ => m.leave
  | _, _ => none

/-- Where `_inference` may end: in the critical section, and not between getting and releasing. -/
def Place.Inside (slot : Nat) (m : Place) : Prop :=
  m.leave = some (.leased slot)

section Follow

variable {slot : Nat}

/-- The lock is released from wherever a thread leaves its SDK calls. -/
lemma leave_follows {post : Place → Except Raised Unit → Prop} {m m' : Place}
    (leave : m.leave = some m') (h : ∀ r, post m' r) : Follows next post unlockContext m := by
  refine follows_asked fun _ => ⟨m', ?_, h _⟩
  cases m <;> exact leave

/-- After the outputs were got, they are released whether they were valid or not. -/
lemma outputs_follow :
    Follows next (fun m _ => m.Inside slot) (finallyDo (validate slot) (call .outputsRelease))
      (.got slot) := by
  have checked : Follows next (fun m _ => m = .got slot) (validate slot) (.got slot) :=
    follows_asked fun ok => ⟨.got slot, rfl, rfl⟩
  refine checked.finallyDo fun m r hm => ?_
  subst hm
  refine follows_asked fun code => ⟨.released slot, rfl, ?_⟩
  cases checkCode Sdk.outputsRelease.operation code with
  | ok _ => rfl
  | error e => rfl

/-- An SDK call that leads on when it succeeds and stays where it is when it fails. -/
lemma call_follows {c : Sdk} {m : Place} {k : Code Unit} (m' : Place)
    (step : ∀ code : Int, next m ⟨.sdk c, code⟩ = some (onSuccess code m' m))
    (stay : m.Inside slot) (rest : Follows next (fun m _ => m.Inside slot) k m') :
    Follows next (fun m _ => m.Inside slot) (call c >>= fun _ => k) m := by
  refine follows_asked_bind fun (code : Int) => ⟨_, step code, ?_⟩
  by_cases h : code = 0
  · rw [checkCode, require, onSuccess, if_pos h, if_pos h]
    exact rest
  · rw [checkCode, require, onSuccess, if_neg h, if_neg h]
    exact stay

/-- An inference stays inside its slot. -/
lemma inference_follows {valid : Bool} :
    Follows next (fun m _ => m.Inside slot) (inference valid slot) (.live slot) := by
  have checked : Follows next (fun m _ => m = .live slot)
      (Prog.ofExcept (require (valid = true) "ValueError"
        "Expected contiguous 416px NHWC uint8 input") : Code Unit) (.live slot) :=
    follows_ofExcept rfl
  refine checked.bind (fun m _ hm => ?_) fun m e hm => ?_
  · subst hm
    refine call_follows (.set slot) (fun _ => rfl) rfl ?_
    refine call_follows (.ran slot) (fun _ => rfl) rfl ?_
    exact call_follows (.got slot) (fun _ => rfl) rfl outputs_follow
  · subst hm
    rfl

/-- Under the lock, whatever happens, the lock is released and the slot kept. -/
lemma locked_follows {valid : Bool} :
    Follows next (fun m _ => m = .leased slot) (locked valid slot) (.locked slot) := by
  have inner : Follows next (fun m _ => m.Inside slot) (do
      let value ← contextValue
      Prog.ofExcept (require (value ≠ 0) "RuntimeError" "RKNN context closed")
      inference valid slot) (.locked slot) := by
    refine follows_asked_bind fun (value : Nat) => ⟨_, rfl, ?_⟩
    dsimp only
    by_cases h : value = 0
    · rw [onOpen, if_pos h, require, if_neg (not_not.mpr h)]
      exact follows_throw rfl
    · rw [onOpen, if_neg h, require, if_pos h]
      exact inference_follows
  exact inner.finallyDo fun m r hm => leave_follows hm fun x => by cases x <;> rfl

/-- Where a thread ends: without a slot, unless the queue refused it. -/
def Ended (m : Place) : Prop :=
  m = .out ∨ ∃ slot, m = .full slot

/-- A scope ends where it is out. -/
lemma borrowOutputs_follows {valid : Bool} :
    Follows next (fun m _ => Ended m) (borrowOutputs valid) .out := by
  refine follows_asked_bind fun (answer : Option Nat) => ?_
  cases answer with
  | none => exact ⟨.out, rfl, .inl rfl⟩
  | some slot =>
    refine ⟨.leased slot, rfl, ?_⟩
    have scope : Follows next (fun m _ => m = .leased slot) (do
        acquireContext
        locked valid slot
        withBlock slot) (.leased slot) := by
      refine follows_asked_bind fun (ok : Bool) => ?_
      cases ok with
      | false => exact ⟨.leased slot, rfl, rfl⟩
      | true =>
        refine ⟨.locked slot, rfl, locked_follows.bind (fun m _ hm => ?_) fun m e hm => hm⟩
        subst hm
        exact follows_asked fun _ => ⟨.leased slot, if_pos rfl, rfl⟩
    refine scope.finallyDo fun m r hm => ?_
    subst hm
    refine follows_asked fun (ok : Bool) => ⟨cond ok .out (.full slot), if_pos rfl, ?_⟩
    cases ok with
    | true => exact .inl rfl
    | false => exact .inr ⟨slot, rfl⟩

/-- A close ends where it is out. -/
lemma close_follows : Follows next (fun m _ => Ended m) close .out := by
  refine follows_asked_bind fun _ => ⟨.closer, rfl, ?_⟩
  have inner : Follows next (fun m _ => m.leave = some .out) (do
      let value ← contextValue
      if value ≠ 0 then
        let context ← takeContext
        asked (.destroy context) (checkCode "destroy")
      else
        return ()) .closer := by
    refine follows_asked_bind fun (value : Nat) => ⟨_, rfl, ?_⟩
    dsimp only
    by_cases h : value = 0
    · rw [onOpen, if_pos h, if_neg (not_not.mpr h)]
      exact follows_pure rfl
    · rw [onOpen, if_neg h, if_pos h]
      refine follows_asked_bind fun c => ⟨.taken c, rfl, ?_⟩
      exact follows_asked fun code => ⟨.destroyed, if_pos rfl, rfl⟩
  exact inner.finallyDo fun m r hm => leave_follows hm fun x => by cases x <;> exact .inl rfl

end Follow

variable {ι : Type} [DecidableEq ι]

/-! ## Steps -/

/-- A step of a thread: what its place, the question and the answer say about the state after it. -/
inductive Move (s : Shared ι) (i : ι) : Place → Ev → Place → Shared ι → Prop where
  | busy :
    Move s i .out ⟨.get, none⟩ .out s
  | get {slot queue} :
    s.queue = slot :: queue →
    Move s i .out ⟨.get, some slot⟩ (.leased slot)
      { s with queue := queue, leases := (i, slot) :: s.leases }
  | put {slot} :
    s.queue.length < 2 →
    Move s i (.leased slot) ⟨.put slot, true⟩ .out
      { s with queue := slot :: s.queue, leases := s.leases.erase (i, slot) }
  | refused {slot} :
    2 ≤ s.queue.length →
    Move s i (.leased slot) ⟨.put slot, false⟩ (.full slot) s
  | body {slot r} :
    Move s i (.leased slot) ⟨.body slot, r⟩ (.leased slot) s
  | acquire {slot} :
    s.holder = none →
    Move s i (.leased slot) ⟨.acquire, true⟩ (.locked slot) { s with holder := some i }
  | timeout {slot} :
    Move s i (.leased slot) ⟨.acquire, false⟩ (.leased slot) s
  | look {slot} :
    Move s i (.locked slot) ⟨.context, s.ctx⟩ (onOpen s.ctx (.live slot) (.locked slot)) s
  | inputsSet {slot code} :
    Move s i (.live slot) ⟨.sdk .inputsSet, code⟩ (onSuccess code (.set slot) (.live slot)) s
  | run {slot code} :
    Move s i (.set slot) ⟨.sdk .run, code⟩ (onSuccess code (.ran slot) (.set slot)) s
  | outputsGet {slot code} :
    Move s i (.ran slot) ⟨.sdk .outputsGet, code⟩ (onSuccess code (.got slot) (.ran slot)) s
  | metadata {slot b ok} :
    Move s i (.got slot) ⟨.metadata b, ok⟩ (.got slot) s
  | outputsRelease {slot code} :
    Move s i (.got slot) ⟨.sdk .outputsRelease, code⟩ (.released slot) s
  | lock {u} :
    s.holder = none →
    Move s i .out ⟨.lock, u⟩ .closer { s with holder := some i }
  | peek :
    Move s i .closer ⟨.context, s.ctx⟩ (onOpen s.ctx .closing .closer) s
  | take :
    Move s i .closing ⟨.take, s.ctx⟩ (.taken s.ctx) { s with ctx := 0 }
  | destroy {context code} :
    Move s i (.taken context) ⟨.destroy context, code⟩ .destroyed s
  | unlock {m m' u} :
    m.leave = some m' →
    Move s i m ⟨.unlock, u⟩ m' { s with holder := none }

/-- A step of the protocol is one of these. -/
lemma move {s s' : Shared ι} {i m e m'} (hn : next m e = some m') (hs : answers s i e s') :
    Move s i m e m' s' := by
  unfold next at hn
  split at hn
  case h_1 =>
    cases hn
    obtain ⟨queue, hq, rfl⟩ := hs
    exact .get hq
  case h_2 =>
    cases hn
    obtain rfl := hs
    exact .busy
  case h_3 slot ok =>
    cases hn
    cases ok with
    | true =>
      obtain ⟨free, rfl⟩ := hs
      exact .acquire free
    | false =>
      obtain rfl := hs
      exact .timeout
  case h_4 =>
    cases hn
    obtain ⟨rfl, rfl⟩ := hs
    exact .look
  case h_5 =>
    cases hn
    obtain rfl := hs
    exact .inputsSet
  case h_6 =>
    cases hn
    obtain rfl := hs
    exact .run
  case h_7 =>
    cases hn
    obtain rfl := hs
    exact .outputsGet
  case h_8 =>
    cases hn
    obtain rfl := hs
    exact .metadata
  case h_9 =>
    cases hn
    obtain rfl := hs
    exact .outputsRelease
  case h_10 slot used r =>
    split_ifs at hn with same
    cases hn
    subst same
    obtain rfl := hs
    exact .body
  case h_11 slot back ok =>
    split_ifs at hn with same
    cases hn
    subst same
    cases ok with
    | true =>
      obtain ⟨room, rfl⟩ := hs
      exact .put room
    | false =>
      obtain ⟨full, rfl⟩ := hs
      exact .refused full
  case h_12 =>
    cases hn
    obtain ⟨free, rfl⟩ := hs
    exact .lock free
  case h_13 =>
    cases hn
    obtain ⟨rfl, rfl⟩ := hs
    exact .peek
  case h_14 =>
    cases hn
    obtain ⟨rfl, rfl⟩ := hs
    exact .take
  case h_15 context used code =>
    split_ifs at hn with same
    cases hn
    subst same
    obtain rfl := hs
    exact .destroy
  case h_16 =>
    obtain rfl := hs
    exact .unlock hn
  case h_17 => cases hn

/-- The slot that a thread has. -/
def Place.slot : Place → Option Nat
  | leased slot | locked slot | live slot | set slot | ran slot | got slot | released slot |
    full slot => some slot
  | _ => none

/-- The thread has the context lock. -/
def Place.locks : Place → Bool
  | locked _ | live _ | set _ | ran _ | got _ | released _ | closer | closing | taken _ |
    destroyed => true
  | _ => false

/-- The thread has seen an open context, and the lock has not been free since. -/
def Place.opened : Place → Bool
  | live _ | set _ | ran _ | got _ | closing => true
  | _ => false

/-- Leaving keeps the slot. -/
lemma leave_slot {m m' : Place} (h : m.leave = some m') : m'.slot = m.slot := by
  cases m <;> cases h <;> rfl

/-- Leaving gives the lock back. -/
lemma leave_locks {m m' : Place} (h : m.leave = some m') : m.locks = true ∧ m'.locks = false := by
  cases m <;> cases h <;> exact ⟨rfl, rfl⟩

/-- Nobody has just opened a context when leaving. -/
lemma leave_not_opened {m m' : Place} (h : m.leave = some m') : m'.opened = false := by
  cases m <;> cases h <;> rfl

/-- Who has just opened a context holds the lock. -/
lemma opened_locks {m : Place} (h : m.opened = true) : m.locks = true := by
  cases m <;> first | rfl | exact h

/-- The call takes the context: one of the SDK calls of an inference, or the one that destroys it. -/
def Op.isSdk : Op → Bool
  | sdk _ | destroy _ => true
  | _ => false

/-- The code of a call that succeeded. -/
def succeeded (code : Int) : Bool :=
  decide (code = 0)

/-- The outputs were got. -/
def gets : Ev → Bool
  | ⟨.sdk .outputsGet, code⟩ => succeeded code
  | _ => false

/-- The outputs are released. -/
def releases : Ev → Bool
  | ⟨.sdk .outputsRelease, _⟩ => true
  | _ => false

/-- The thread has submitted its input and not released its outputs. -/
def Place.submitted : Place → Bool
  | set _ | ran _ | got _ => true
  | _ => false

/-- The thread has to release its outputs. -/
def Place.owes : Place → Bool
  | got _ => true
  | _ => false

section Moves

variable {s s' : Shared ι} {i : ι} {m m' : Place} {e : Ev}

/-- How a step changes the lock. -/
lemma Move.lock_move (h : Move s i m e m' s') :
    LockMove Place.locks Shared.holder i m m' s s' := by
  have seen : ∀ {a b : Place}, a.locks = true → b.locks = true →
      (onOpen s.ctx a b).locks = true := by
    intro a b ha hb
    unfold onOpen
    split_ifs <;> assumption
  have called : ∀ {code : Int} {a b : Place}, a.locks = true → b.locks = true →
      (onSuccess code a b).locks = true := by
    intro code a b ha hb
    unfold onSuccess
    split_ifs <;> assumption
  cases h with
  | acquire free => exact .inr (.inl ⟨free, rfl, rfl⟩)
  | lock free => exact .inr (.inl ⟨free, rfl, rfl⟩)
  | unlock leave => exact .inr (.inr ⟨rfl, leave_locks leave⟩)
  | look => exact .inl ⟨rfl, seen rfl rfl⟩
  | peek => exact .inl ⟨rfl, seen rfl rfl⟩
  | inputsSet => exact .inl ⟨rfl, called rfl rfl⟩
  | run => exact .inl ⟨rfl, called rfl rfl⟩
  | outputsGet => exact .inl ⟨rfl, called rfl rfl⟩
  | _ => exact .inl ⟨rfl, rfl⟩

/-- How a step changes the slots. -/
lemma Move.slot_cases (h : Move s i m e m' s') :
    (s'.queue = s.queue ∧ s'.leases = s.leases ∧ m'.slot = m.slot) ∨
      (∃ slot, s.queue = slot :: s'.queue ∧ s'.leases = (i, slot) :: s.leases ∧ m.slot = none ∧
        m'.slot = some slot) ∨
      ∃ slot, s'.queue = slot :: s.queue ∧ s'.leases = s.leases.erase (i, slot) ∧
        m.slot = some slot ∧ m'.slot = none := by
  cases h with
  | get top => exact .inr (.inl ⟨_, top, rfl, rfl, rfl⟩)
  | put room => exact .inr (.inr ⟨_, rfl, rfl, rfl, rfl⟩)
  | unlock leave => exact .inl ⟨rfl, rfl, leave_slot leave⟩
  | look => exact .inl ⟨rfl, rfl, by unfold onOpen; split_ifs <;> rfl⟩
  | peek => exact .inl ⟨rfl, rfl, by unfold onOpen; split_ifs <;> rfl⟩
  | inputsSet => exact .inl ⟨rfl, rfl, by unfold onSuccess; split_ifs <;> rfl⟩
  | run => exact .inl ⟨rfl, rfl, by unfold onSuccess; split_ifs <;> rfl⟩
  | outputsGet => exact .inl ⟨rfl, rfl, by unfold onSuccess; split_ifs <;> rfl⟩
  | _ => exact .inl ⟨rfl, rfl, rfl⟩

/-- How a step changes the context and who has seen it. -/
lemma Move.context_cases (h : Move s i m e m' s') :
    (s'.ctx = s.ctx ∧ (m'.opened = true → m.opened = true ∨ s.ctx ≠ 0) ∧ ∀ c, m' ≠ .taken c) ∨
      (e.1 = .take ∧ s'.ctx = 0 ∧ m = .closing ∧ m' = .taken s.ctx) := by
  have look : ∀ {a b : Place}, (onOpen s.ctx a b).opened = true → b.opened = true ∨ s.ctx ≠ 0 := by
    intro a b h
    by_cases hc : s.ctx = 0
    · rw [onOpen, if_pos hc] at h
      exact .inl h
    · exact .inr hc
  cases h with
  | take => exact .inr ⟨rfl, rfl, rfl, rfl⟩
  | look =>
    refine .inl ⟨rfl, look, fun c => ?_⟩
    unfold onOpen
    split_ifs <;> nofun
  | peek =>
    refine .inl ⟨rfl, look, fun c => ?_⟩
    unfold onOpen
    split_ifs <;> nofun
  | inputsSet => exact .inl ⟨rfl, fun _ => .inl rfl, by unfold onSuccess; split_ifs <;> nofun⟩
  | run => exact .inl ⟨rfl, fun _ => .inl rfl, by unfold onSuccess; split_ifs <;> nofun⟩
  | outputsGet => exact .inl ⟨rfl, fun _ => .inl rfl, by unfold onSuccess; split_ifs <;> nofun⟩
  | @unlock m m' u leave =>
    refine .inl ⟨rfl, fun h => ?_, fun c => ?_⟩
    · rw [leave_not_opened leave] at h
      cases h
    · cases m <;> cases leave <;> nofun
  | metadata => exact .inl ⟨rfl, fun _ => .inl rfl, nofun⟩
  | _ => exact .inl ⟨rfl, nofun, nofun⟩

/-- The queue refuses a slot only when it is full. -/
lemma Move.refused_cases {slot : Nat} (h : Move s i m e m' s') (full : m' = .full slot) :
    2 ≤ s.queue.length ∧ m.slot = some slot := by
  cases h with
  | refused two =>
    cases full
    exact ⟨two, rfl⟩
  | @unlock m m' u leave =>
    rw [full] at leave
    cases m <;> cases leave
  | look => exact absurd full (by unfold onOpen; split_ifs <;> nofun)
  | peek => exact absurd full (by unfold onOpen; split_ifs <;> nofun)
  | inputsSet => exact absurd full (by unfold onSuccess; split_ifs <;> nofun)
  | run => exact absurd full (by unfold onSuccess; split_ifs <;> nofun)
  | outputsGet => exact absurd full (by unfold onSuccess; split_ifs <;> nofun)
  | _ => cases full


/-- An SDK call is made under the lock, which is kept. -/
lemma Move.sdk_locks (h : Move s i m e m' s') (call : e.1.isSdk = true) :
    m.locks = true ∧ m'.locks = true := by
  cases h with
  | inputsSet => exact ⟨rfl, by unfold onSuccess; split_ifs <;> rfl⟩
  | run => exact ⟨rfl, by unfold onSuccess; split_ifs <;> rfl⟩
  | outputsGet => exact ⟨rfl, by unfold onSuccess; split_ifs <;> rfl⟩
  | outputsRelease => exact ⟨rfl, rfl⟩
  | destroy => exact ⟨rfl, rfl⟩
  | _ => cases call

/-- The lock is given up only by its release. -/
lemma Move.keeps_lock (h : Move s i m e m' s') (has : m.locks = true) (no : e.1 ≠ .unlock) :
    m'.locks = true := by
  cases h with
  | unlock => exact absurd rfl no
  | look => unfold onOpen; split_ifs <;> rfl
  | peek => unfold onOpen; split_ifs <;> rfl
  | inputsSet => unfold onSuccess; split_ifs <;> rfl
  | run => unfold onSuccess; split_ifs <;> rfl
  | outputsGet => unfold onSuccess; split_ifs <;> rfl
  | metadata => rfl
  | outputsRelease => rfl
  | take => rfl
  | destroy => rfl
  | _ => cases has

/-- An SDK call of an inference finds the context open. -/
lemma Move.sdk_opened {c : Sdk} (h : Move s i m e m' s') (call : e.1 = .sdk c) :
    m.opened = true := by
  cases h <;> first | rfl | cases call

/-- The first SDK call after a release of the lock submits an input. -/
lemma Move.sdk_submitted {c : Sdk} (h : Move s i m e m' s') (call : e.1 = .sdk c)
    (later : c ≠ .inputsSet) : m.submitted = true := by
  cases h with
  | inputsSet =>
    cases call
    exact absurd rfl later
  | run => rfl
  | outputsGet => rfl
  | outputsRelease => rfl
  | _ => cases call

/-- Only the submission of an input leads into the calls that follow it. -/
lemma Move.keeps_out (h : Move s i m e m' s') (out : m.submitted = false)
    (no : e.1 ≠ .sdk .inputsSet) : m'.submitted = false := by
  cases h with
  | inputsSet => exact absurd rfl no
  | look => unfold onOpen; split_ifs <;> rfl
  | peek => unfold onOpen; split_ifs <;> rfl
  | @unlock m m' u leave => cases m <;> cases leave <;> rfl
  | run => cases out
  | outputsGet => cases out
  | metadata => cases out
  | _ => rfl

/-- What succeeded is owed. -/
lemma owes_got {code : Int} {slot : Nat} :
    (onSuccess code (.got slot) (.ran slot)).owes = succeeded code := by
  unfold onSuccess succeeded
  split_ifs with ok
  · rw [decide_eq_true ok]
    rfl
  · rw [decide_eq_false ok]
    rfl

/-- What a thread owes: outputs that it got and has not released. -/
lemma Move.owes_count (h : Move s i m e m' s') :
    m.owes.toNat + (gets e).toNat = m'.owes.toNat + (releases e).toNat := by
  cases h with
  | outputsGet => exact (Nat.zero_add _).trans (congrArg Bool.toNat owes_got.symm)
  | look => unfold onOpen; split_ifs <;> rfl
  | peek => unfold onOpen; split_ifs <;> rfl
  | inputsSet => unfold onSuccess; split_ifs <;> rfl
  | run => unfold onSuccess; split_ifs <;> rfl
  | @unlock m m' u leave => cases m <;> cases leave <;> rfl
  | _ => rfl

/-- A body runs in the slot of its thread. -/
lemma Move.body_slot {slot : Nat} (h : Move s i m e m' s') (body : e.1 = .body slot) :
    m.slot = some slot := by
  cases h with
  | body =>
    cases body
    rfl
  | _ => cases body

/-- Taking the context closes it. -/
lemma Move.take_closes (h : Move s i m e m' s') (take : e.1 = .take) : s'.ctx = 0 := by
  cases h <;> first | rfl | cases take

/-- A context is destroyed by the thread that took it. -/
lemma Move.destroy_cases {c : Nat} (h : Move s i m e m' s') (call : e.1 = .destroy c) :
    m = .taken c ∧ m' = .destroyed ∧ s'.ctx = s.ctx := by
  cases h with
  | destroy =>
    cases call
    exact ⟨rfl, rfl, rfl⟩
  | _ => cases call

/-- Nothing is submitted by who has unlocked. -/
lemma Move.unlock_out (h : Move s i m e m' s') (unlock : e.1 = .unlock) :
    m'.submitted = false := by
  cases h with
  | @unlock m m' u leave => cases m <;> cases leave <;> rfl
  | _ => cases unlock

end Moves

end K11CHaos.Inference
