import K11CHaos.Lib.Threads

/-!
# Leases of the output buffers

`native.py`: inference on one `NativeRuntime` by any number of threads, and its end. A scope of
`borrow_outputs` leases one of two sets of output buffers from a queue, and under the context lock it
submits the input, runs the model and gets the outputs into its buffers (`_inference`); the lease lasts
until the `with` block of the caller is left. `close` takes the context under the same lock and destroys
it.

Each scope and each `close` is a thread (`Threads`), and its program is translated line by line with its
nested `try` and `finally`. The queue, the lock and the context are the shared state (`Shared`). Every
SDK call may fail, each of the two waits may time out at any moment, and the `with` block may raise.
-/

namespace K11CHaos.Inference

open Prog Threads

/-- A Python exception. -/
structure Raised where
  kind : String
  text : String
deriving DecidableEq

/-- The SDK calls of an inference. -/
inductive Sdk where
  | inputsSet
  | run
  | outputsGet
  | outputsRelease
deriving DecidableEq

/-- The name of a call in its error. -/
def Sdk.operation : Sdk → String
  | inputsSet => "inputs_set"
  | run => "run"
  | outputsGet => "outputs_get"
  | outputsRelease => "outputs_release"

/-- What the threads ask of the queue, the lock, the context and the SDK: `_output_slots.get` and
    `put_nowait`, `_context_lock.acquire(timeout=5)`, `with _context_lock` and its release,
    `ctx.value`, the exchange of `ctx`, the calls, the check of the metadata, the `with` block. -/
inductive Op where
  | get
  | put (slot : Nat)
  | acquire
  | lock
  | unlock
  | context
  | take
  | sdk (call : Sdk)
  | metadata (slot : Nat)
  | destroy (context : Nat)
  | body (slot : Nat)

/-- The answers: a slot unless the wait times out, whether there was room or a lock in time, the value
    of the context (0 when it is closed), the code of a call, whether the metadata are valid, and how
    the `with` block was left. -/
def Op.Ans : Op → Type
  | get => Option Nat
  | put _ => Bool
  | acquire => Bool
  | lock => Unit
  | unlock => Unit
  | context => Nat
  | take => Nat
  | sdk _ => Int
  | metadata _ => Bool
  | destroy _ => Int
  | body _ => Except Raised Unit

abbrev Code := Prog Op Op.Ans Raised

/-- A question with its answer. -/
abbrev Ev := Prog.Ev Op Op.Ans

/-- Raise unless a condition holds. -/
def require (ok : Prop) [Decidable ok] (kind text : String) : Except Raised Unit :=
  if ok then .ok () else .error ⟨kind, text⟩

/-- `check`. -/
def checkCode (operation : String) (code : Int) : Except Raised Unit :=
  require (code = 0) "RuntimeError" ("RKNN " ++ operation ++ " failed: " ++ toString code)

/-- An SDK call on the context, with `check`. -/
def call (c : Sdk) : Code Unit :=
  asked (.sdk c) (checkCode c.operation)

/-- `_output_slots.get(timeout=5)`. -/
def getSlot : Code Nat :=
  asked .get fun (slot : Option Nat) =>
    match slot with
    | some slot => .ok slot
    | none => .error ⟨"RuntimeError", "RKNN output buffers busy"⟩

/-- `_output_slots.put_nowait`. -/
def putSlot (slot : Nat) : Code Unit :=
  asked (.put slot) fun (ok : Bool) => require (ok = true) "Full" ""

/-- `_context_lock.acquire(timeout=5)`. -/
def acquireContext : Code Unit :=
  asked .acquire fun (ok : Bool) => require (ok = true) "RuntimeError" "RKNN context busy"

def lockContext : Code Unit :=
  asked .lock Except.ok

def unlockContext : Code Unit :=
  asked .unlock Except.ok

/-- `self.ctx.value`. -/
def contextValue : Code Nat :=
  asked .context Except.ok

/-- The context, which a new and empty one replaces. -/
def takeContext : Code Nat :=
  asked .take Except.ok

/-- The `with` block of the caller. -/
def withBlock (slot : Nat) : Code Unit :=
  asked (.body slot) id

/-- The loop over the outputs: the SDK has left their buffers and sizes as they were. -/
def validate (slot : Nat) : Code Unit :=
  asked (.metadata slot) fun (ok : Bool) =>
    require (ok = true) "ValueError" "Invalid float output buffer"

/-- `_inference` on a tensor that may be valid or not; its outputs are views of the buffers. -/
def inference (valid : Bool) (slot : Nat) : Code Unit := do
  Prog.ofExcept (require (valid = true) "ValueError" "Expected contiguous 416px NHWC uint8 input")
  call .inputsSet
  call .run
  call .outputsGet
  finallyDo (validate slot) (call .outputsRelease)

/-- The part of `borrow_outputs` under the context lock. -/
def locked (valid : Bool) (slot : Nat) : Code Unit :=
  finallyDo (do
      let value ← contextValue
      Prog.ofExcept (require (value ≠ 0) "RuntimeError" "RKNN context closed")
      inference valid slot)
    unlockContext

/-- A scope of `borrow_outputs` with the `with` block of its caller. -/
def borrowOutputs (valid : Bool) : Code Unit := do
  let slot ← getSlot
  finallyDo (do
      acquireContext
      locked valid slot
      withBlock slot)
    (putSlot slot)

/-- `close`. -/
def close : Code Unit := do
  lockContext
  finallyDo (do
      let value ← contextValue
      if value ≠ 0 then
        let context ← takeContext
        asked (.destroy context) (checkCode "destroy")
      else
        return ())
    unlockContext

/-- What a thread does on the runtime. -/
inductive Work where
  | scope (valid : Bool)
  | close

/-- The program of a thread. -/
def Work.code : Work → Code Unit
  | scope valid => borrowOutputs valid
  | close => Inference.close

variable {ι : Type} [DecidableEq ι]

/-- The queue of slots with its top first, the holder of the context lock, the context, and the slots
    that were taken from the queue and not given back, each with its thread. -/
structure Shared (ι : Type) where
  queue : List Nat
  holder : Option ι
  ctx : Nat
  leases : List (ι × Nat)

/-- The runtime after `__init__`: two slots in the queue, nobody holds the lock. -/
def Shared.initial (ctx : Nat) : Shared ι :=
  ⟨[1, 0], none, ctx, []⟩

/-- What a thread may be answered, and the state after it. -/
def answers (s : Shared ι) (i : ι) : Ev → Shared ι → Prop
  | ⟨.get, some slot⟩, s' =>
    ∃ queue, s.queue = slot :: queue ∧ s' = { s with queue := queue, leases := (i, slot) :: s.leases }
  | ⟨.put slot, true⟩, s' =>
    s.queue.length < 2 ∧
      s' = { s with queue := slot :: s.queue, leases := s.leases.erase (i, slot) }
  | ⟨.put _, false⟩, s' => 2 ≤ s.queue.length ∧ s' = s
  | ⟨.acquire, true⟩, s' => s.holder = none ∧ s' = { s with holder := some i }
  | ⟨.lock, _⟩, s' => s.holder = none ∧ s' = { s with holder := some i }
  | ⟨.unlock, _⟩, s' => s' = { s with holder := none }
  | ⟨.context, value⟩, s' => value = s.ctx ∧ s' = s
  | ⟨.take, value⟩, s' => value = s.ctx ∧ s' = { s with ctx := 0 }
  | _, s' => s' = s

/-- Scopes and calls of `close` on one runtime, each a thread. -/
def start (works : ι → Work) (ctx : Nat) : Config (Shared ι) ι Op Op.Ans Raised Unit :=
  ⟨.initial ctx, fun i => (works i).code⟩

end K11CHaos.Inference
