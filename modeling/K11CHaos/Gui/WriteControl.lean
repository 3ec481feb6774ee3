import K11CHaos.Lib.Lts
import K11CHaos.Engine.Failure

/-!
# The write control and the cancel gate of `storage_execute`

`WriteStage` and `WriteControl` of `installer/src-tauri/src/main.rs`. Every method takes the stage
lock for its whole body, so it is one function on the pair (stage, shared flag).

The second half is the worker of `storage_execute`: `begin`, then the loop of
`run_helper_controlled` (a permission for each `write-ready` line of the helper, a poll of
`cancelled` every pass, the exit of the helper or the timeout), then `finish`, over and over, with
`storage_cancel` and `CloseRequested` at any moment. `storage_cancel_gate` is the law the tests of
the same name sample.
-/

namespace K11CHaos.Gui

/-- `enum WriteStage`. -/
inductive WriteStage where
  | idle | preparing | cancelled | writing | closing
deriving DecidableEq, Repr

/-- `struct WriteControl`: the stage and the flag `State::writing` it shares. -/
structure WriteControl where
  stage : WriteStage
  writing : Bool
deriving DecidableEq, Repr

/-- What `write_all` and `flush` do on the helper's pipe: both succeed, nothing is written, or the
    byte goes out and the flush fails. -/
inductive Pipe where
  | accepts
  | refuses (e : String)
  | unflushed (e : String)
deriving DecidableEq, Repr

/-- `new_state`. -/
def newState : WriteControl :=
  ⟨.idle, false⟩

namespace WriteControl

/-- `WriteControl::begin`. -/
def begin (c : WriteControl) : Result Unit × WriteControl :=
  if c.stage = .closing then
    (.error (fail "STORAGE_CANCELLED" "Window is closing"), c)
  else
    (.ok (), { c with stage := .preparing })

/-- `WriteControl::cancel`. -/
def cancel (c : WriteControl) : Result Unit × WriteControl :=
  if c.stage = .writing then
    (.error (fail "WRITE_IN_PROGRESS" "Writing has already started"), c)
  else if c.stage = .idle then
    (.error (fail "NO_OPERATION" "No storage preflight is running"), c)
  else if c.stage = .closing then
    (.error (fail "STORAGE_CANCELLED" "Window close already cancelled preparation"), c)
  else
    (.ok (), { c with stage := .cancelled })

/-- `WriteControl::cancelled`. -/
def isCancelled (c : WriteControl) : Bool :=
  c.stage = .cancelled || c.stage = .closing

/-- `WriteControl::close_blocked`. -/
def closeBlocked (c : WriteControl) : Bool × WriteControl :=
  if c.writing then
    (true, c)
  else
    (false, { c with stage := .closing })

/-- `WriteControl::permit`, with the bytes that reach the pipe. -/
def permit (c : WriteControl) (pipe : Pipe) : Result Unit × List Char × WriteControl :=
  if c.stage ≠ .preparing then
    (.error (fail "STORAGE_CANCELLED" "Storage preparation cancelled"), [], c)
  else
    -- the flag and the stage change before the helper's gate is released
    let c' : WriteControl := ⟨.writing, true⟩
    match pipe with
    | .accepts => (.ok (), ['G'], c')
    | .refuses e => (.error (fail "HELPER_WRITE_GATE" e), [], c')
    | .unflushed e => (.error (fail "HELPER_WRITE_GATE" e), ['G'], c')

/-- `WriteControl::finish`. -/
def finish (c : WriteControl) : WriteControl :=
  ⟨if c.stage ≠ .closing then .idle else c.stage, false⟩

/-- The stage says `writing` exactly while the flag is up, as far as this control raised it. -/
def Coherent (c : WriteControl) : Prop :=
  c.stage = .writing ↔ c.writing = true

/-- `begin` from a control at rest. -/
lemma begin_cases {c : WriteControl} (idle : c.stage = .idle ∨ c.stage = .closing) :
    (c.stage = .idle ∧ c.begin = (.ok (), ⟨.preparing, c.writing⟩)) ∨
    (c.stage = .closing ∧ ∃ e, c.begin = (.error e, c)) := by
  obtain ⟨stage, w⟩ := c
  rcases idle with h | h <;> subst h <;> simp [begin]

/-- What `permit` does: it fails and leaves the control alone, or it was `preparing` and the control
    is `writing`, whatever the pipe did. -/
lemma permit_cases (c : WriteControl) (pipe : Pipe) :
    (c.stage ≠ .preparing ∧ ∃ e, c.permit pipe = (.error e, [], c)) ∨
    (c.stage = .preparing ∧ ∃ r sent, c.permit pipe = (r, sent, ⟨.writing, true⟩)) := by
  by_cases h : c.stage = .preparing
  · cases pipe <;> simp [permit, h]
  · simp [permit, h]

/-- At most one byte goes out for each call. -/
lemma permit_sent_length (c : WriteControl) (pipe : Pipe) :
    (c.permit pipe).2.1.length ≤ 1 := by
  unfold permit
  split
  · simp
  · cases pipe <;> simp

/-- What `cancel` does: it fails and leaves the control alone, or a preparation is cancelled. -/
lemma cancel_cases (c : WriteControl) :
    (c.stage ≠ .preparing ∧ c.stage ≠ .cancelled ∧ ∃ e, c.cancel = (.error e, c)) ∨
    ((c.stage = .preparing ∨ c.stage = .cancelled) ∧
      c.cancel = (.ok (), ⟨.cancelled, c.writing⟩)) := by
  obtain ⟨stage, w⟩ := c
  cases stage <;> simp [cancel]

/-- What `close_blocked` does. -/
lemma closeBlocked_cases (c : WriteControl) :
    (c.writing = true ∧ c.closeBlocked = (true, c)) ∨
    (c.writing = false ∧ c.closeBlocked = (false, ⟨.closing, false⟩)) := by
  obtain ⟨stage, w⟩ := c
  cases w <;> simp [closeBlocked]

end WriteControl

/-! ## The worker and the calls from the window -/

/-- Where the worker of `storage_execute` stands: outside a session, in the loop of
    `run_helper_controlled`, or past the loop with `finish` still to come. -/
inductive Worker where
  | outside | looping | left
deriving DecidableEq, Repr

/-- The control and its worker. -/
structure Gate where
  control : WriteControl
  worker : Worker
deriving DecidableEq, Repr

/-- One call of a `WriteControl` method with its answer, or the end of the helper. -/
inductive Label where
  | begin (r : Result Unit)
  | permit (r : Result Unit) (sent : List Char)
  | poll (cancelled : Bool)
  | exit
  | finish
  | cancel (r : Result Unit)
  | close (blocked : Bool)

/-- A step of the worker or of the window. -/
inductive GateStep : Gate → Label → Gate → Prop where
  | begin_ok {c c'} :
    c.begin = (.ok (), c') →
    GateStep ⟨c, .outside⟩ (.begin (.ok ())) ⟨c', .looping⟩
  | begin_err {c c' e} :
    c.begin = (.error e, c') →
    GateStep ⟨c, .outside⟩ (.begin (.error e)) ⟨c', .outside⟩
  | permit_ok {c c' pipe sent} :
    c.permit pipe = (.ok (), sent, c') →
    GateStep ⟨c, .looping⟩ (.permit (.ok ()) sent) ⟨c', .looping⟩
  | permit_err {c c' pipe sent e} :
    -- the worker kills the helper and leaves the loop
    c.permit pipe = (.error e, sent, c') →
    GateStep ⟨c, .looping⟩ (.permit (.error e) sent) ⟨c', .left⟩
  | poll_go {c} :
    c.isCancelled = false →
    GateStep ⟨c, .looping⟩ (.poll false) ⟨c, .looping⟩
  | poll_kill {c} :
    c.isCancelled = true →
    GateStep ⟨c, .looping⟩ (.poll true) ⟨c, .left⟩
  | exit {c} :
    GateStep ⟨c, .looping⟩ .exit ⟨c, .left⟩
  | finish {c} :
    GateStep ⟨c, .left⟩ .finish ⟨c.finish, .outside⟩
  | cancel {c c' r w} :
    c.cancel = (r, c') →
    GateStep ⟨c, w⟩ (.cancel r) ⟨c', w⟩
  | close {c c' b w} :
    c.closeBlocked = (b, c') →
    GateStep ⟨c, w⟩ (.close b) ⟨c', w⟩

/-- The start of the window process. -/
def GateInit (g : Gate) : Prop :=
  g = ⟨newState, .outside⟩

/-- Runs of the gate: the labels fired and the state reached. -/
abbrev GateRun : List Label → Gate → Prop :=
  Lts.Exec GateInit GateStep

/-- A `begin` that opened a session. -/
def Label.Begins : Label → Prop
  | .begin (.ok _) => True
  | _ => False

/-- A call that wrote the permission byte. -/
def Label.Sends : Label → Prop
  | .permit _ sent => 'G' ∈ sent
  | _ => False

/-- A permission granted to the worker. -/
def Label.Permits : Label → Prop
  | .permit (.ok _) _ => True
  | _ => False

/-- The end of a session. -/
def Label.Finishes : Label → Prop
  | .finish => True
  | _ => False

/-- A cancellation that was accepted. -/
def Label.Cancels : Label → Prop
  | .cancel (.ok _) => True
  | _ => False

/-- A close request that may close the window. -/
def Label.Closes : Label → Prop
  | .close false => True
  | _ => False

/-- Whatever stops a helper from outside: an accepted cancellation, a poll that sees one, or a close
    that was not blocked. -/
def Label.Stops (l : Label) : Prop :=
  l.Cancels ∨ l = .poll true ∨ l.Closes

/-- The invariant of the gate: the flag follows the stage, and the worker is outside a session
    exactly when the stage is at rest. -/
structure Gate.Inv (g : Gate) : Prop where
  coherent : g.control.Coherent
  outside : g.worker = .outside → g.control.stage = .idle ∨ g.control.stage = .closing
  inside : g.worker ≠ .outside → g.control.stage ≠ .idle

/-- The invariant holds at the start. -/
lemma Gate.inv_init {g : Gate} (h : GateInit g) : g.Inv := by
  subst h
  exact ⟨by simp [WriteControl.Coherent, newState], fun _ => .inl rfl, fun h => absurd rfl h⟩

/-- Every step keeps the invariant. -/
lemma Gate.inv_step {g g' : Gate} {l : Label} (inv : g.Inv) (st : GateStep g l g') : g'.Inv := by
  obtain ⟨coh, out, ins⟩ := inv
  cases st with
  | begin_ok h =>
    obtain ⟨idle, e⟩ | ⟨_, _, e⟩ := WriteControl.begin_cases (out rfl) <;> rw [e] at h
    · cases h
      simp only [WriteControl.Coherent] at coh ⊢
      exact ⟨by simp_all [WriteControl.Coherent], by simp, by simp⟩
    · cases h
  | begin_err h =>
    obtain ⟨_, e⟩ | ⟨_, _, e⟩ := WriteControl.begin_cases (out rfl) <;> rw [e] at h <;> cases h
    exact ⟨coh, out, ins⟩
  | @permit_ok c c' pipe sent h | @permit_err c c' pipe sent e h =>
    obtain ⟨_, _, e⟩ | ⟨_, _, _, e⟩ := c.permit_cases pipe <;> rw [e] at h <;> cases h
    all_goals first
      | exact ⟨coh, by simp, fun _ => ins (by simp)⟩
      | exact ⟨by simp [WriteControl.Coherent], by simp, by simp⟩
  | poll_go _ => exact ⟨coh, out, ins⟩
  | poll_kill _ => exact ⟨coh, by simp, fun _ => ins (by simp)⟩
  | exit => exact ⟨coh, by simp, fun _ => ins (by simp)⟩
  | @finish c =>
    refine ⟨?_, fun _ => ?_, by simp⟩
    · by_cases h : c.stage = .closing <;> simp [WriteControl.Coherent, WriteControl.finish, h]
    · by_cases h : c.stage = .closing <;> simp [WriteControl.finish, h]
  | @cancel c c' r w h =>
    obtain ⟨_, _, _, e⟩ | ⟨busy, e⟩ := c.cancel_cases <;> rw [e] at h <;> cases h
    · exact ⟨coh, out, ins⟩
    · have nw : c.writing = false := by
        simp only [WriteControl.Coherent] at coh
        rcases busy with h | h <;> simp_all
      refine ⟨by simp [WriteControl.Coherent, nw], fun hw => ?_, by simp⟩
      -- outside of a run the stage is neither of the two that cancel stops
      rcases busy with h | h <;> simp [h] at out <;> exact absurd hw out
  | @close c c' b w h =>
    obtain ⟨_, e⟩ | ⟨_, e⟩ := c.closeBlocked_cases <;> rw [e] at h <;> cases h
    · exact ⟨coh, out, ins⟩
    · exact ⟨by simp [WriteControl.Coherent], by simp, by simp⟩

/-- Only `begin` makes the stage `preparing`. -/
lemma GateStep.not_preparing {g g' : Gate} {l : Label}
    (np : g.control.stage ≠ .preparing) (st : GateStep g l g') (nb : ¬ l.Begins) :
    g'.control.stage ≠ .preparing := by
  cases st with
  | begin_ok _ => exact absurd trivial nb
  | @begin_err c c' e h =>
    unfold WriteControl.begin at h
    split at h <;> cases h
    exact np
  | @permit_ok c c' pipe sent h | @permit_err c c' pipe sent e h =>
    obtain ⟨_, _, e⟩ | ⟨_, _, _, e⟩ := c.permit_cases pipe <;> rw [e] at h <;> cases h
    all_goals first | exact np | simp
  | poll_go _ | poll_kill _ | exit => exact np
  | @finish c => by_cases h : c.stage = .closing <;> simp [WriteControl.finish, h]
  | @cancel c c' r w h =>
    obtain ⟨_, _, _, e⟩ | ⟨_, e⟩ := c.cancel_cases <;> rw [e] at h <;> cases h
    · exact np
    · simp
  | @close c c' b w h =>
    obtain ⟨_, e⟩ | ⟨_, e⟩ := c.closeBlocked_cases <;> rw [e] at h <;> cases h
    · exact np
    · simp

/-- A byte goes out, and a permission is granted, only from `preparing`. -/
lemma GateStep.preparing_of_send {g g' : Gate} {l : Label}
    (st : GateStep g l g') (h : l.Sends ∨ l.Permits) :
    g.control.stage = .preparing ∧ g'.control.stage = .writing := by
  cases st with
  | @permit_ok c c' pipe sent hp | @permit_err c c' pipe sent e hp =>
    obtain ⟨_, _, e⟩ | ⟨prep, _, _, e⟩ := c.permit_cases pipe <;> rw [e] at hp <;> cases hp
    all_goals first
      | exact ⟨prep, rfl⟩
      | simp [Label.Sends, Label.Permits] at h
  | _ => simp [Label.Sends, Label.Permits] at h

/-- While the stage is `writing` nothing stops the helper, and only `finish` leaves the stage. -/
lemma GateStep.writing {g g' : Gate} {l : Label} (inv : g.Inv)
    (wr : g.control.stage = .writing) (st : GateStep g l g') :
    ¬ l.Stops ∧ (¬ l.Finishes → g'.control.stage = .writing) := by
  have up : g.control.writing = true := inv.coherent.1 wr
  cases st with
  | begin_ok _ | begin_err _ => have out := inv.outside rfl; simp_all
  | @permit_ok c c' pipe sent h | @permit_err c c' pipe sent e h =>
    obtain ⟨_, _, e⟩ | ⟨_, _, _, e⟩ := c.permit_cases pipe <;> rw [e] at h <;> cases h
    all_goals simp_all [Label.Stops, Label.Cancels, Label.Closes]
  | poll_go _ => exact ⟨by simp [Label.Stops, Label.Cancels, Label.Closes], fun _ => wr⟩
  | @poll_kill c h =>
    replace wr : c.stage = .writing := wr
    simp [WriteControl.isCancelled, wr] at h
  | exit => exact ⟨by simp [Label.Stops, Label.Cancels, Label.Closes], fun _ => wr⟩
  | finish => exact ⟨by simp [Label.Stops, Label.Cancels, Label.Closes], fun h => absurd trivial h⟩
  | @cancel c c' r w h =>
    obtain ⟨_, _, _, e⟩ | ⟨busy, _⟩ := c.cancel_cases
    · rw [e] at h; cases h
      exact ⟨by simp [Label.Stops, Label.Cancels, Label.Closes], fun _ => wr⟩
    · rcases busy with h | h <;> simp [h] at wr
  | @close c c' b w h =>
    obtain ⟨_, e⟩ | ⟨down, _⟩ := c.closeBlocked_cases
    · rw [e] at h; cases h
      exact ⟨by simp [Label.Stops, Label.Cancels, Label.Closes], fun _ => wr⟩
    · simp [down] at up

/-- `closing` is never left. -/
lemma GateStep.closing {g g' : Gate} {l : Label} (inv : g.Inv)
    (cl : g.control.stage = .closing) (st : GateStep g l g') : g'.control.stage = .closing := by
  cases st with
  | @begin_ok c c' h | @begin_err c c' e h =>
    replace cl : c.stage = .closing := cl
    simp [WriteControl.begin, cl] at h
    try exact h.2 ▸ cl
  | @permit_ok c c' pipe sent h | @permit_err c c' pipe sent e h =>
    obtain ⟨_, _, e⟩ | ⟨prep, _⟩ := c.permit_cases pipe
    · rw [e] at h
      cases h <;> exact cl
    · exact absurd (prep.symm.trans cl) (by simp)
  | poll_go _ | poll_kill _ | exit => exact cl
  | @finish c =>
    replace cl : c.stage = .closing := cl
    simp [WriteControl.finish, cl]
  | @cancel c c' r w h =>
    obtain ⟨_, _, _, e⟩ | ⟨busy, _⟩ := c.cancel_cases
    · rw [e] at h; cases h
      exact cl
    · rcases busy with h | h <;> exact absurd (h.symm.trans cl) (by simp)
  | @close c c' b w h =>
    obtain ⟨_, e⟩ | ⟨_, e⟩ := c.closeBlocked_cases <;> rw [e] at h <;> cases h
    · exact cl
    · rfl

/-- A `begin` that succeeds found the stage open. -/
lemma GateStep.open_of_begins {g g' : Gate} {l : Label}
    (st : GateStep g l g') (h : l.Begins) : g.control.stage ≠ .closing := by
  cases st with
  | @begin_ok c c' hb =>
    intro cl
    replace cl : c.stage = .closing := cl
    simp [WriteControl.begin, cl] at hb
  | _ => simp [Label.Begins] at h

/-- An accepted cancellation leaves the stage `cancelled`, an accepted close `closing`. -/
lemma GateStep.stage_of_stop {g g' : Gate} {l : Label} (st : GateStep g l g') :
    (l.Cancels → g'.control.stage = .cancelled) ∧ (l.Closes → g'.control.stage = .closing) := by
  cases st with
  | @cancel c c' r w h =>
    refine ⟨fun ok => ?_, by simp [Label.Closes]⟩
    obtain ⟨_, _, _, e⟩ | ⟨_, e⟩ := c.cancel_cases <;> rw [e] at h <;> cases h
    · simp [Label.Cancels] at ok
    · rfl
  | @close c c' b w h =>
    refine ⟨by simp [Label.Cancels], fun ok => ?_⟩
    obtain ⟨_, e⟩ | ⟨_, e⟩ := c.closeBlocked_cases <;> rw [e] at h <;> cases h
    · simp [Label.Closes] at ok
    · rfl
  | _ => simp [Label.Cancels, Label.Closes]

/-- The cancel gate, over every run: the permission byte follows a `begin` and goes out at most once
    for each; after an accepted cancellation none goes out before the next `begin`; from the byte to
    `finish` no cancellation is accepted, no poll sees one and no close passes; and after a close no
    `begin` and no permission succeeds. -/
theorem storage_cancel_gate {ls : List Label} {g : Gate} (run : GateRun ls g) :
    Lts.Preceded Label.Begins Label.Sends ls ∧
    Lts.Separated Label.Sends Label.Sends Label.Begins ls ∧
    (∀ r sent, Label.permit r sent ∈ ls → sent.length ≤ 1) ∧
    Lts.Separated Label.Cancels Label.Sends Label.Begins ls ∧
    Lts.Separated Label.Sends Label.Stops Label.Finishes ls ∧
    Lts.Never Label.Closes (fun l => l.Begins ∨ l.Permits ∨ l.Sends) ls := by
  have base : ∀ g, GateInit g → g.Inv := fun _ => Gate.inv_init
  have inv : ∀ g l g', g.Inv → GateStep g l g' → g'.Inv := fun _ _ _ => Gate.inv_step
  have keepP : ∀ g l g', g.Inv → g.control.stage ≠ .preparing → GateStep g l g' →
      ¬ l.Begins → g'.control.stage ≠ .preparing :=
    fun _ _ _ _ np st nb => st.not_preparing np nb
  have barP : ∀ g l g', g.Inv → g.control.stage ≠ .preparing → GateStep g l g' → ¬ l.Sends :=
    fun _ _ _ _ np st s => np (st.preparing_of_send (.inl s)).1
  refine ⟨?_, ?_, ?_, ?_, ?_, ?_⟩
  -- nothing is sent outside of preparing, and only a begin leads there
  · refine run.preceded base inv ?_ keepP barP
    rintro _ rfl
    simp [newState]
  · refine run.separated base inv ?_ keepP barP
    intro g l g' _ st s
    simp [(st.preparing_of_send (.inl s)).2]
  · intro r sent mem
    obtain ⟨l1, l2, rfl⟩ := List.append_of_mem mem
    obtain ⟨_, _, path⟩ := run
    obtain ⟨_, _, _, st, _⟩ := path.split
    cases st with
    | @permit_ok c c' pipe _ h | @permit_err c c' pipe _ e h =>
      have := c.permit_sent_length pipe
      rwa [h] at this
  · refine run.separated base inv ?_ keepP barP
    intro g l g' _ st s
    simp [st.stage_of_stop.1 s]
  · refine run.separated (I := fun g => g.control.stage = .writing) base inv ?_ ?_ ?_
    · intro g l g' _ st s
      exact (st.preparing_of_send (.inl s)).2
    · intro g l g' hj wr st nf
      exact (st.writing hj wr).2 nf
    · intro g l g' hj wr st
      exact (st.writing hj wr).1
  · refine run.never (I := fun g => g.control.stage = .closing) base inv ?_ ?_ ?_
    · intro g l g' _ st s
      exact st.stage_of_stop.2 s
    · intro g l g' hj cl st
      exact st.closing hj cl
    · rintro g l g' _ cl st (b | p | s)
      · exact st.open_of_begins b cl
      · simp [(st.preparing_of_send (.inr p)).1] at cl
      · simp [(st.preparing_of_send (.inl s)).1] at cl

/-- Two sessions: one is permitted and a late cancellation refused, the next is cancelled and its
    permission refused. -/
theorem storage_cancel_gate_two_sessions :
    Lts.Separated Label.Sends Label.Stops Label.Finishes
      [.begin (.ok ()), .permit (.ok ()) ['G'],
        .cancel (.error (fail "WRITE_IN_PROGRESS" "Writing has already started")), .close true,
        .exit, .finish, .begin (.ok ()), .cancel (.ok ()), .close false,
        .permit (.error (fail "STORAGE_CANCELLED" "Storage preparation cancelled")) [],
        .finish] :=
  (storage_cancel_gate ⟨_, rfl,
    .cons (.begin_ok rfl) <| .cons (@GateStep.permit_ok _ _ .accepts _ rfl) <| .cons (.cancel rfl) <|
    .cons (.close rfl) <| .cons .exit <| .cons .finish <| .cons (.begin_ok rfl) <|
    .cons (.cancel rfl) <| .cons (.close rfl) <| .cons (@GateStep.permit_err _ _ .accepts _ _ rfl) <|
    .cons .finish .nil⟩).2.2.2.2.1

end K11CHaos.Gui
