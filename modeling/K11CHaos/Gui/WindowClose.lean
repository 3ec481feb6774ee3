import K11CHaos.Gui.WriteControl
import Mathlib.Logic.Function.Basic

/-!
# Window close against the writing commands

`storage_execute`, `factory_execute` and `connectivity_execute` of
`installer/src-tauri/src/main.rs`, any number of invocations of each, interleaved with
`storage_cancel` and `CloseRequested`. An invocation first waits for `State::busy`. Only
`storage_execute` goes through the stage; the other two store `State::writing` themselves, outside
the stage lock, and then start their write whatever the stage says.

`writing_blocks_close` is the half of the close guarantee that holds in every run: a write in
progress blocks the close. The other half, no write after a close that was not blocked, fails for
`factory_execute` and `connectivity_execute` (`queued_factory_write_after_close`) and holds in the
runs where neither stores the flag under `closing` (`no_write_after_close`).
-/

namespace K11CHaos.Gui

/-- The commands that can write. -/
inductive Command where
  | storage | factory | connectivity
deriving DecidableEq, Repr

/-- How far an invocation of a command has come. -/
inductive Call where
  /-- not invoked yet -/
  | absent
  /-- confirmed, waiting for `busy` -/
  | queued (k : Command)
  /-- holds `busy`, nothing done yet -/
  | locked (k : Command)
  /-- `storage_execute` between `begin` and the permission -/
  | preparing
  /-- the flag is stored, the helper or the API call not yet started -/
  | armed (k : Command)
  /-- the write is in progress -/
  | writing (k : Command)
  /-- the helper or the API call is over, the flag not yet cleared -/
  | ended (k : Command)
  /-- nothing left but to release `busy` -/
  | finished (k : Command)
  /-- returned -/
  | done
deriving DecidableEq, Repr

/-- The invocation holds `busy`. -/
def Call.Active : Call → Prop
  | .absent | .queued _ | .done => False
  | _ => True

/-- The window process: the write control, the owner of `busy`, and every invocation. -/
structure Window where
  control : WriteControl
  busy : Option Nat
  call : Nat → Call

/-- Record the progress of one invocation. -/
def Window.set (w : Window) (i : Nat) (c : Call) : Window :=
  { w with call := Function.update w.call i c }

/-- One atomic access of an invocation, a call from the window, or the start or end of a write. -/
inductive Act where
  | invoke (i : Nat) (k : Command)
  | acquire (i : Nat)
  | begin (i : Nat) (r : Result Unit)
  | permit (i : Nat) (r : Result Unit) (sent : List Char)
  | poll (i : Nat) (cancelled : Bool)
  | exit (i : Nat)
  | finish (i : Nat)
  | skip (i : Nat)
  | store (i : Nat)
  | start (i : Nat)
  | abort (i : Nat)
  | clear (i : Nat)
  | release (i : Nat)
  | cancel (r : Result Unit)
  | close (blocked : Bool)

/-- The steps of the commands and of the window. -/
inductive WindowStep : Window → Act → Window → Prop where
  | invoke {w i k} :
    w.call i = .absent →
    WindowStep w (.invoke i k) (w.set i (.queued k))
  | acquire {w i k} :
    w.call i = .queued k →
    w.busy = none →
    WindowStep w (.acquire i) { w.set i (.locked k) with busy := some i }
  | begin_ok {w i c} :
    w.call i = .locked .storage →
    w.control.begin = (.ok (), c) →
    WindowStep w (.begin i (.ok ())) { w.set i .preparing with control := c }
  | begin_err {w i c e} :
    w.call i = .locked .storage →
    w.control.begin = (.error e, c) →
    WindowStep w (.begin i (.error e)) { w.set i (.finished .storage) with control := c }
  | permit {w i pipe r sent c} :
    -- once the byte is out the helper may write, even where `permit` then fails
    w.call i = .preparing →
    w.control.permit pipe = (r, sent, c) →
    WindowStep w (.permit i r sent)
      { w.set i (if sent = [] then .ended .storage else .writing .storage) with control := c }
  | poll_go {w i} :
    w.call i = .preparing ∨ w.call i = .writing .storage →
    w.control.isCancelled = false →
    WindowStep w (.poll i false) w
  | poll_kill {w i} :
    w.call i = .preparing ∨ w.call i = .writing .storage →
    w.control.isCancelled = true →
    WindowStep w (.poll i true) (w.set i (.ended .storage))
  | exit_preparing {w i} :
    w.call i = .preparing →
    WindowStep w (.exit i) (w.set i (.ended .storage))
  | exit {w i k} :
    w.call i = .writing k →
    WindowStep w (.exit i) (w.set i (.ended k))
  | finish {w i} :
    w.call i = .ended .storage →
    WindowStep w (.finish i) { w.set i (.finished .storage) with control := w.control.finish }
  | skip {w i} :
    -- `connectivity_execute` without a plan
    w.call i = .locked .connectivity →
    WindowStep w (.skip i) (w.set i (.finished .connectivity))
  | store {w i k} :
    k ≠ .storage →
    w.call i = .locked k →
    WindowStep w (.store i)
      { w.set i (.armed k) with control := { w.control with writing := true } }
  | start {w i k} :
    w.call i = .armed k →
    WindowStep w (.start i) (w.set i (.writing k))
  | abort {w i k} :
    w.call i = .armed k →
    WindowStep w (.abort i) (w.set i (.ended k))
  | clear {w i k} :
    k ≠ .storage →
    w.call i = .ended k →
    WindowStep w (.clear i)
      { w.set i (.finished k) with control := { w.control with writing := false } }
  | release {w i k} :
    w.call i = .finished k →
    WindowStep w (.release i) { w.set i .done with busy := none }
  | cancel {w r c} :
    w.control.cancel = (r, c) →
    WindowStep w (.cancel r) { w with control := c }
  | close {w b c} :
    w.control.closeBlocked = (b, c) →
    WindowStep w (.close b) { w with control := c }

/-- The start of the window process. -/
def WindowInit (w : Window) : Prop :=
  w = ⟨newState, none, fun _ => .absent⟩

/-- The act starts or releases a write: the permission byte, the `factory-execute` helper or
    `maintenance::execute`. -/
def Act.StartsWrite : Act → Prop
  | .permit _ _ sent => 'G' ∈ sent
  | .start _ => True
  | _ => False

/-- The act is a close request that lets the window close. -/
def Act.Closes : Act → Prop
  | .close false => True
  | _ => False

/-- The control is at rest: no session is open. -/
def WriteControl.AtRest (c : WriteControl) : Prop :=
  c.writing = false ∧ (c.stage = .idle ∨ c.stage = .closing)

/-- The control during a storage session that has no permission yet. -/
def WriteControl.Waiting (c : WriteControl) : Prop :=
  c.writing = false ∧ (c.stage = .preparing ∨ c.stage = .cancelled ∨ c.stage = .closing)

/-- The control during a storage session that has its permission. -/
def WriteControl.Granted (c : WriteControl) : Prop :=
  c.writing = true ∧ c.stage = .writing

/-- The control while one of the other two commands has the flag up; `late` tells whether it may
    have stored the flag after a close. -/
def WriteControl.Raised (late : Prop) (c : WriteControl) : Prop :=
  c.writing = true ∧ (c.stage = .idle ∨ late ∧ c.stage = .closing)

/-- The control each stage of the invocation that holds `busy` goes with. -/
def Call.Fits (late : Prop) (c : WriteControl) : Call → Prop
  | .absent | .queued _ | .done | .armed .storage => False
  | .locked _ | .finished _ => c.AtRest
  | .preparing => c.Waiting
  | .writing .storage => c.Granted
  | .ended .storage => c.Granted ∨ c.Waiting
  | .armed _ | .writing _ | .ended _ => c.Raised late

/-- Whoever is past `busy` owns it, and the control fits the owner. -/
structure Window.Inv (late : Prop) (w : Window) : Prop where
  owner : ∀ i, (w.call i).Active → w.busy = some i
  rest : w.busy = none → w.control.AtRest
  fits : ∀ i, w.busy = some i → (w.call i).Fits late w.control

/-- The invariant holds at the start. -/
lemma Window.inv_init {late : Prop} {w : Window} (h : WindowInit w) : w.Inv late := by
  subst h
  exact ⟨fun i h => h.elim, fun _ => ⟨rfl, .inl rfl⟩, fun i h => by cases h⟩

/-- The owner of `busy` moves on: only its own stage and the control change. -/
lemma Window.Inv.advance {late : Prop} {w : Window} {i : Nat} {c : WriteControl} {s : Call}
    (inv : w.Inv late) (own : w.busy = some i) (fit : s.Fits late c) :
    Window.Inv late { w.set i s with control := c } := by
  refine ⟨fun j act => ?_, fun h => ?_, fun j h => ?_⟩
  · by_cases e : j = i
    · subst e; exact own
    · exact inv.owner j (by simpa [Window.set, e] using act)
  · simp [Window.set, own] at h
  · have e : j = i := by
      have h : w.busy = some j := h
      rw [own] at h
      exact (Option.some.inj h).symm
    subst e
    simpa [Window.set] using fit

/-- A call from the window: only the control changes. -/
lemma Window.Inv.control {late : Prop} {w : Window} {c : WriteControl}
    (inv : w.Inv late) (rest : w.control.AtRest → c.AtRest)
    (fit : ∀ s : Call, s.Fits late w.control → s.Fits late c) :
    Window.Inv late { w with control := c } :=
  ⟨inv.owner, fun h => rest (inv.rest h), fun i h => fit _ (inv.fits i h)⟩

/-- `cancel` keeps the control fitting. -/
lemma Call.Fits.cancel {late : Prop} {c c' : WriteControl} {r s}
    (h : c.cancel = (r, c')) (fit : Call.Fits late c s) : s.Fits late c' := by
  obtain ⟨_, _, _, e⟩ | ⟨busy, e⟩ := c.cancel_cases <;> rw [e] at h <;> cases h
  · exact fit
  · cases s with
    | armed k | writing k | ended k =>
      cases k <;> rcases busy with h | h <;>
        simp_all [Fits, WriteControl.Raised, WriteControl.Granted, WriteControl.Waiting]
    | _ => rcases busy with h | h <;>
        simp_all [Fits, WriteControl.AtRest, WriteControl.Waiting]

/-- `close_blocked` keeps the control fitting. -/
lemma Call.Fits.close {late : Prop} {c c' : WriteControl} {b s}
    (h : c.closeBlocked = (b, c')) (fit : Call.Fits late c s) : s.Fits late c' := by
  obtain ⟨_, e⟩ | ⟨down, e⟩ := c.closeBlocked_cases <;> rw [e] at h <;> cases h
  · exact fit
  · cases s with
    | armed k | writing k | ended k =>
      cases k <;> simp_all [Fits, WriteControl.Raised, WriteControl.Granted, WriteControl.Waiting]
    | _ => simp_all [Fits, WriteControl.AtRest, WriteControl.Waiting]

/-- An invocation that waits for `busy` owns nothing yet. -/
lemma Window.Inv.invoke {late : Prop} {w : Window} {i : Nat} {k : Command} (inv : w.Inv late)
    (ab : w.call i = .absent) : Window.Inv late (w.set i (.queued k)) := by
  refine ⟨fun j act => ?_, inv.rest, fun j hj => ?_⟩
  · by_cases e : j = i
    · subst e; simp [Window.set, Call.Active] at act
    · exact inv.owner j (by simpa [Window.set, e] using act)
  · have fit := inv.fits j hj
    have e : j ≠ i := by rintro rfl; simp [ab, Call.Fits] at fit
    simpa [Window.set, e] using fit

/-- One that takes `busy` finds the control at rest. -/
lemma Window.Inv.acquire {late : Prop} {w : Window} {i : Nat} {k : Command} (inv : w.Inv late)
    (free : w.busy = none) : Window.Inv late { w.set i (.locked k) with busy := some i } := by
  refine ⟨fun j act => ?_, fun hb => by simp at hb, fun j hj => ?_⟩
  · by_cases e : j = i
    · subst e; rfl
    · have := inv.owner j (by simpa [Window.set, e] using act)
      simp [free] at this
  · have e : i = j := by simpa using hj
    subst e
    simpa [Window.set, Call.Fits] using inv.rest free

/-- One that gives `busy` back leaves the control at rest. -/
lemma Window.Inv.release {late : Prop} {w : Window} {i : Nat} (inv : w.Inv late)
    (bi : w.busy = some i) (rest : w.control.AtRest) :
    Window.Inv late { w.set i .done with busy := none } := by
  refine ⟨fun j act => ?_, fun _ => rest, fun j hj => by simp at hj⟩
  by_cases e : j = i
  · subst e; simp [Window.set, Call.Active] at act
  · have := inv.owner j (by simpa [Window.set, e] using act)
    rw [bi] at this
    exact absurd (Option.some.inj this).symm e

/-- Every step keeps the invariant, where `late` allows for a flag stored under `closing`. -/
lemma Window.inv_step {late : Prop} {w w' : Window} {a : Act}
    (inv : w.Inv late) (st : WindowStep w a w')
    (h : ∀ i, a = .store i → w.control.stage = .closing → late) : w'.Inv late := by
  -- the acting invocation owns `busy`, and the control fits its stage
  have own : ∀ i, (w.call i).Active → w.busy = some i ∧ (w.call i).Fits late w.control :=
    fun i act => ⟨inv.owner i act, inv.fits i (inv.owner i act)⟩
  cases st with
  | invoke ab => exact inv.invoke ab
  | acquire q free => exact inv.acquire free
  | @begin_ok i c lk hb =>
    obtain ⟨bi, fit⟩ := own i (by simp [lk, Call.Active])
    rw [lk] at fit
    obtain ⟨_, e⟩ | ⟨_, _, e⟩ := WriteControl.begin_cases fit.2 <;> rw [e] at hb <;> cases hb
    exact inv.advance bi ⟨fit.1, .inl rfl⟩
  | @begin_err i c e lk hb =>
    obtain ⟨bi, fit⟩ := own i (by simp [lk, Call.Active])
    rw [lk] at fit
    obtain ⟨_, e⟩ | ⟨_, _, e⟩ := WriteControl.begin_cases fit.2 <;> rw [e] at hb <;> cases hb
    exact inv.advance bi fit
  | @permit i pipe r sent c pr hp =>
    obtain ⟨bi, fit⟩ := own i (by simp [pr, Call.Active])
    rw [pr] at fit
    obtain ⟨_, _, e⟩ | ⟨_, _, _, e⟩ := w.control.permit_cases pipe <;> rw [e] at hp <;> cases hp
    · exact inv.advance bi (.inr fit)
    · refine inv.advance bi ?_
      split
      · exact .inl ⟨rfl, rfl⟩
      · exact ⟨rfl, rfl⟩
  | poll_go _ _ => exact inv
  | @poll_kill i at' cn =>
    have act : (w.call i).Active := by rcases at' with h | h <;> simp [h, Call.Active]
    obtain ⟨bi, fit⟩ := own i act
    refine inv.advance bi ?_
    rcases at' with h | h <;> rw [h] at fit
    · exact .inr fit
    · exact .inl fit
  | @exit_preparing i pr =>
    obtain ⟨bi, fit⟩ := own i (by simp [pr, Call.Active])
    rw [pr] at fit
    exact inv.advance bi (.inr fit)
  | @exit i k wr =>
    obtain ⟨bi, fit⟩ := own i (by simp [wr, Call.Active])
    rw [wr] at fit
    refine inv.advance bi ?_
    cases k
    · exact .inl fit
    · exact fit
    · exact fit
  | @finish i en =>
    obtain ⟨bi, fit⟩ := own i (by simp [en, Call.Active])
    refine inv.advance bi ⟨rfl, ?_⟩
    by_cases cl : w.control.stage = .closing <;> simp [WriteControl.finish, cl]
  | @skip i lk =>
    obtain ⟨bi, fit⟩ := own i (by simp [lk, Call.Active])
    rw [lk] at fit
    exact inv.advance bi fit
  | @store i k ns lk =>
    obtain ⟨bi, fit⟩ := own i (by simp [lk, Call.Active])
    rw [lk] at fit
    have up : WriteControl.Raised late { w.control with writing := true } := by
      refine ⟨rfl, ?_⟩
      rcases fit.2 with id | cl
      · exact .inl id
      · exact .inr ⟨h i rfl cl, cl⟩
    refine inv.advance bi ?_
    cases k
    · exact absurd rfl ns
    · exact up
    · exact up
  | @start i k ar | @abort i k ar =>
    obtain ⟨bi, fit⟩ := own i (by simp [ar, Call.Active])
    rw [ar] at fit
    refine inv.advance bi ?_
    cases k
    · exact fit.elim
    · exact fit
    · exact fit
  | @clear i k ns en =>
    obtain ⟨bi, fit⟩ := own i (by simp [en, Call.Active])
    rw [en] at fit
    have low : WriteControl.AtRest { w.control with writing := false } := by
      cases k
      · exact absurd rfl ns
      · exact ⟨rfl, fit.2.imp id And.right⟩
      · exact ⟨rfl, fit.2.imp id And.right⟩
    exact inv.advance bi low
  | @release i k fi =>
    obtain ⟨bi, fit⟩ := own i (by simp [fi, Call.Active])
    rw [fi] at fit
    exact inv.release bi fit
  | @cancel r c hc =>
    refine inv.control (fun rest => ?_) (fun s fit => fit.cancel hc)
    have fit : Call.Fits late w.control (.locked .storage) := rest
    exact fit.cancel hc
  | @close b c hc =>
    refine inv.control (fun rest => ?_) (fun s fit => fit.close hc)
    have fit : Call.Fits late w.control (.locked .storage) := rest
    exact fit.close hc

/-- In every run, a write in progress blocks the close. -/
theorem writing_blocks_close {as : List Act} {w : Window} {i : Nat} {k : Command}
    (run : Lts.Exec WindowInit WindowStep as w) (wr : w.call i = .writing k) :
    w.control.closeBlocked.1 = true := by
  have inv : w.Inv True :=
    run.invariant (fun _ => Window.inv_init)
      (fun _ _ _ inv st => Window.inv_step inv st (fun _ _ _ => trivial))
  have act : (w.call i).Active := by simp [wr, Call.Active]
  have fit := inv.fits i (inv.owner i act)
  have up : w.control.writing = true := by
    rw [wr] at fit
    cases k <;> exact fit.1
  simp [WriteControl.closeBlocked, up]

/-- `closing` is never left. -/
lemma WindowStep.closing {w w' : Window} {a : Act}
    (cl : w.control.stage = .closing) (st : WindowStep w a w') : w'.control.stage = .closing := by
  cases st with
  | begin_ok _ hb | begin_err _ hb =>
    simp [WriteControl.begin, cl] at hb
    try exact hb.2 ▸ cl
  | @permit _ pipe _ _ _ _ hp =>
    obtain ⟨_, _, e⟩ | ⟨prep, _⟩ := w.control.permit_cases pipe
    · rw [e] at hp; cases hp
      exact cl
    · simp [prep] at cl
  | finish _ => simp [WriteControl.finish, cl]
  | cancel hc =>
    obtain ⟨_, _, _, e⟩ | ⟨busy, _⟩ := w.control.cancel_cases
    · rw [e] at hc; cases hc
      exact cl
    · rcases busy with h | h <;> simp [h] at cl
  | close hc =>
    obtain ⟨_, e⟩ | ⟨_, e⟩ := w.control.closeBlocked_cases <;> rw [e] at hc <;> cases hc
    · exact cl
    · rfl
  | _ => exact cl

/-- The step does not store the flag while the window is closing. -/
def Act.Timely (w : Window) (a : Act) : Prop :=
  ∀ i, a = .store i → w.control.stage ≠ .closing

/-- In every run in which `factory_execute` and `connectivity_execute` store their flag only while
    the window is not closing, no write starts after a close that was not blocked, and a write in
    progress blocks the close. -/
theorem no_write_after_close {as : List Act} {w : Window}
    (run : Lts.Exec WindowInit (fun w a w' => a.Timely w ∧ WindowStep w a w') as w) :
    Lts.Never Act.Closes Act.StartsWrite as ∧
    ∀ i k, w.call i = .writing k → w.control.closeBlocked.1 = true := by
  refine ⟨?_, ?_⟩
  -- an accepted close leaves the stage at closing for good, and there nothing starts a write
  · refine run.never (J := Window.Inv False) (I := fun w => w.control.stage = .closing)
      (fun _ => Window.inv_init) ?_ ?_ ?_ ?_
    · intro w a w' inv st
      exact Window.inv_step inv st.2 (fun i e cl => st.1 i e cl)
    · intro w a w' _ st cl
      obtain ⟨_, st⟩ := st
      cases st with
      | @close b c hc =>
        obtain ⟨_, e⟩ | ⟨_, e⟩ := w.control.closeBlocked_cases <;> rw [e] at hc <;> cases hc
        · simp [Act.Closes] at cl
        · rfl
      | _ => simp [Act.Closes] at cl
    · intro w a w' _ cl st
      exact st.2.closing cl
    · intro w a w' inv cl st
      obtain ⟨_, st⟩ := st
      cases st with
      | @permit _ pipe r sent c _ hp =>
        obtain ⟨_, _, e⟩ | ⟨prep, _⟩ := w.control.permit_cases pipe
        · rw [e] at hp; cases hp
          simp [Act.StartsWrite]
        · simp [prep] at cl
      | @start i k ar =>
        have act : (w.call i).Active := by simp [ar, Call.Active]
        have fit := inv.fits i (inv.owner i act)
        rw [ar] at fit
        cases k
        · exact fit.elim
        -- with the flag stored in time the stage is still idle, so no close was accepted
        all_goals
          rcases fit.2 with id | ⟨f, _⟩
          · simp [id] at cl
          · exact f.elim
      | _ => simp [Act.StartsWrite]
  · intro i k wr
    obtain ⟨w0, hi, path⟩ := run
    exact writing_blocks_close ⟨w0, hi, path.mono (fun _ _ _ st => st.2)⟩ wr

/-- A `factory_execute` that runs to its end, with one close request during its write and one
    after it. -/
theorem no_write_after_close_factory :
    Lts.Never Act.Closes Act.StartsWrite
      [.invoke 0 .factory, .acquire 0, .store 0, .start 0, .close true, .exit 0, .clear 0,
        .release 0, .close false] :=
  (no_write_after_close ⟨_, rfl,
    .cons ⟨by simp [Act.Timely], .invoke rfl⟩ <| .cons ⟨by simp [Act.Timely], .acquire rfl rfl⟩ <|
    .cons ⟨by simp [Act.Timely, newState, Window.set], .store (by decide) rfl⟩ <|
    .cons ⟨by simp [Act.Timely], .start rfl⟩ <| .cons ⟨by simp [Act.Timely], .close rfl⟩ <|
    .cons ⟨by simp [Act.Timely], .exit rfl⟩ <|
    .cons ⟨by simp [Act.Timely], .clear (by decide) rfl⟩ <|
    .cons ⟨by simp [Act.Timely], .release rfl⟩ <| .cons ⟨by simp [Act.Timely], .close rfl⟩
    .nil⟩).1

/-- A `factory_execute` queued on `busy` when the close is let through still runs its helper: it
    never looks at the stage. -/
theorem queued_factory_write_after_close :
    ¬ ∀ as w, Lts.Exec WindowInit WindowStep as w →
      Lts.Never Act.Closes Act.StartsWrite as := by
  intro claim
  have run : Lts.Exec WindowInit WindowStep
      [.invoke 0 .factory, .close false, .acquire 0, .store 0, .start 0] _ :=
    ⟨_, rfl, .cons (.invoke rfl) <| .cons (.close rfl) <| .cons (.acquire rfl rfl) <|
      .cons (.store (by decide) rfl) <| .cons (.start rfl) .nil⟩
  exact claim _ _ run [.invoke 0 .factory] (.close false) [.acquire 0, .store 0] (.start 0) []
    rfl trivial trivial

end K11CHaos.Gui
