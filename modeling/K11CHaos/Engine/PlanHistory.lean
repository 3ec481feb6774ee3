import K11CHaos.Engine.DirectRestore
import K11CHaos.Engine.PlanFiles

/-!
# Histories of plans

Everything that the engine does with plans in one base directory, over any number of commands
(`Call`), each of which may fail or be cut off at any question (`Turn`). Whatever the device, the sources,
the gate and the files answer, no plan is both pending and consumed, no plan writes twice, and a plan that
was returned stays as it is until it is consumed (`one_use`). So what is written for a plan is what was
returned to its user (`writes_previewed`), and on a faithful device no byte changes that this plan does not
cover (`changed_covered`).
-/

namespace K11CHaos.Engine

open Prog

/-! ## Executions -/

/-- A name with 64 digits is not empty. -/
lemma hashed_named {text : Bytes} {id : String} (h : hashBytes text = id) : id ≠ "" := by
  rintro rfl
  have hex := (hashBytes_hex text).1
  rw [h] at hex
  exact absurd hex (by decide)

/-- The preflight has read the identity that the plan names. -/
lemma Flash.Preflight.identity {X : Crates} {device : Device} {id : String} {t : List Ev}
    {c : Flash.Cleared} (h : Flash.Preflight X device id t c) :
    (⟨.identity, .ok c.plan.identity⟩ : Ev) ∈ t := by
  cases h with
  | mk _ _ _ _ _ who =>
    rw [← who]
    exact .tail _ (.head _)

namespace Factory

/-- Questions that change no file of a plan. -/
def Ask.Spares : Ask → Prop
  | engine o => o.Spares
  | _ => True

/-- The files of an installation. -/
def OnFiles (f : Files) (e : Event') (f' : Files) : Prop :=
  match e with
  | ⟨.engine o, a⟩ => f.Step ⟨o, a⟩ f'
  | _ => f' = f

section
variable {f f' : Files} {t : List Event'}

/-- An observation changes no file. -/
lemma OnFiles.observes {e : Event'} (h : OnFiles f e f') (q : e.1.Observes) : f' = f := by
  obtain ⟨o, a⟩ := e
  cases o with
  | engine o => exact Files.Step.observes (e := ⟨o, a⟩) h q
  | devices => exact h
  | connect d => exact h

/-- A question that spares the plans changes none of them. -/
lemma OnFiles.spares {e : Event'} (h : OnFiles f e f') (q : e.1.Spares) : f.Same f' := by
  obtain ⟨o, a⟩ := e
  cases o with
  | engine o => exact Files.Step.spares (e := ⟨o, a⟩) h q
  | devices =>
    obtain rfl := h
    exact Files.same_refl
  | connect d =>
    obtain rfl := h
    exact Files.same_refl

/-- A run of observations changes no file. -/
lemma onFiles_observes (p : Lts.Path OnFiles f t f') (q : ∀ e ∈ t, e.1.Observes) : f' = f :=
  (path_moves (R := Eq) p fun e he _ _ st => (st.observes (q e he)).symm).symm

/-- A run that spares the plans changes none of them. -/
lemma onFiles_spares (p : Lts.Path OnFiles f t f') (q : ∀ e ∈ t, e.1.Spares) : f.Same f' :=
  path_moves p fun e he _ _ st => st.spares (q e he)

/-- What is loaded while a run only looks is there before. -/
lemma onFiles_loaded {q : Path} {b : Bytes} (p : Lts.Path OnFiles f t f')
    (looks : ∀ e ∈ t, e.1.Observes) (mem : (⟨.engine (.load q), .ok b⟩ : Event') ∈ t) :
    f q = some b := by
  induction p with
  | nil => cases mem
  | cons st _ ih =>
    have still := st.observes (looks _ List.mem_cons_self)
    obtain _ | ⟨_, mem⟩ := mem
    · exact st.2
    · rw [← still]
      exact ih (fun e he => looks e (List.mem_cons_of_mem _ he)) mem

/-- The files of an engine function. -/
lemma onFiles_engine {u : List Ev} (p : Lts.Path OnFiles f (engineTrace u) f') :
    Lts.Path Files.Step f u f' := by
  induction u generalizing f with
  | nil =>
    cases p
    exact .nil
  | cons e u ih =>
    cases p with
    | cons st p => exact .cons st (ih p)

/-- The files of an engine function, as those of an installation. -/
lemma engine_onFiles {u : List Ev} (p : Lts.Path Files.Step f u f') :
    Lts.Path OnFiles f (engineTrace u) f' := by
  induction p with
  | nil => exact .nil
  | cons st _ ih => exact .cons st ih

/-- The disk of an engine function, as that of an installation. -/
lemma engine_onDevice {who : Identity} {caps : Vector UInt8 8} {d d' : Disk} {u : List Ev}
    (p : Lts.Path (Faithful who caps) d u d') : Lts.Path (OnDevice who caps) d (engineTrace u) d' := by
  induction p with
  | nil => exact .nil
  | cons st _ ih => exact .cons st ih

/-- The engine's part of two steps. -/
lemma engine_bind {α β : Type} {m : Eng α} {k : α → Eng β} :
    engine (m >>= k) = engine m >>= fun a => engine (k a) :=
  lift_bind

/-- Moves of the files are moves under the combined questions. -/
lemma moves_engine {α : Type} {m : Eng α} (h : Moves Files.Step Files.Grows m f) :
    Moves OnFiles Files.Grows (engine m) f := by
  intro t f' hb path
  obtain ⟨u, rfl, hu⟩ := begins_lift hb
  exact h hu (onFiles_engine path)

/-- An engine function that may add a plan and does not write, in an installation. -/
lemma engine_grows {α : Type} {m : Eng α} (moves : Moves Files.Step Files.Grows m f)
    (quiet : m.Only Op.Quiet) (h : Begins (engine m) t) (path : Lts.Path OnFiles f t f') :
    f.Grows f' ∧ ∀ e ∈ t, e.1.Quiet :=
  ⟨moves_engine moves h path, (Only.lift quiet : (engine m).Only Ask.Quiet).begins h⟩

end

section
variable {f f' : Files} {t : List Event'}

/-- A program that only looks, claims a plan, and spares all plans from then on. -/
lemma begins_claims {γ α : Type} {m : Install γ} {k : γ → Install α} {code id : String} {dir : PlanDir}
    (looks : m.Only Ask.Observes)
    (named : ∀ t c, Runs m t (.ok c) → id ≠ "")
    (rest : ∀ c, (k c).Only Ask.Spares)
    (h : Begins (m >>= fun c => engine (askAs code (.rename (.plan dir id) (.used dir id))) >>=
      fun _ => k c) t)
    (path : Lts.Path OnFiles f t f') :
    (f.Same f' ∧ ∀ e ∈ t, e.1.Quiet) ∨ f.Claims dir id f' := by
  obtain h1 | ⟨tp, c, t1, hc, h1, rfl⟩ := begins_bind h
  · -- the run was cut off while it looked
    have quiet := looks.begins h1
    exact .inl ⟨onFiles_observes path quiet ▸ Files.same_refl, fun e he => (quiet e he).quiet⟩
  obtain ⟨f1, p1, p2⟩ := path.append_inv
  have seen := looks.runs hc
  obtain rfl := onFiles_observes p1 seen
  have name := named tp c hc
  obtain h2 | ⟨t2, _, t3, h2, h3, rfl⟩ := begins_bind h1
  · -- the run was cut off at the claim
    obtain ⟨u, rfl, hu⟩ := begins_lift h2
    have quiet : ∀ e ∈ tp ++ engineTrace u, e.1.Quiet := by
      intro e he
      obtain he | he := List.mem_append.mp he
      · exact (seen e he).quiet
      · have only : (askAs code (.rename (.plan dir id) (.used dir id))).Only Op.Quiet :=
          only_askAs.mpr trivial
        obtain ⟨x, hx, rfl⟩ := List.mem_map.mp he
        exact only.begins hu x hx
    have p3 := onFiles_engine p2
    cases hu with
    | stop =>
      cases p3
      exact .inl ⟨Files.same_refl, quiet⟩
    | ask hu =>
      obtain rfl := begins_ofExcept.mp hu
      obtain _ | ⟨st, _ | _⟩ := p3
      obtain rfl | ⟨b, there, rfl⟩ := Files.Step.renamed st
      · exact .inl ⟨Files.same_refl, quiet⟩
      · exact .inr (Files.claims_move name there Files.same_refl)
  · obtain ⟨u, rfl, hu⟩ := runs_engine.mp h2
    obtain rfl := runs_askAs_ok.mp hu
    obtain ⟨f2, p3, p4⟩ := p2.append_inv
    obtain _ | ⟨⟨b, there, rfl⟩, _ | _⟩ := onFiles_engine p3
    exact .inr (Files.claims_move name there (onFiles_spares p4 ((rest c).begins h3)))

end

/-- What the engine does with plans, and the backups that it takes. -/
inductive Call where
  | plan (device : Device) (operation source : String) (recovery : Flash.Recovery)
  | execute (device : Device) (id : String) (confirmed : Bool)
  | planInstallation (device : Device) (source : String)
  | executeInstallation (id : String) (confirmed : Bool)
  | backup (device : Device)
  | archive (kind : String)

/-- A plan that was returned: its directory, its name and its text. -/
structure Saved where
  dir : PlanDir
  id : String
  text : Bytes

end Factory

open Factory

/-- The plan that planning returns. -/
def Flash.Planned.saved : Flash.Planned → Option Saved
  | .noChanges _ => none
  | .plan id p _ _ => some ⟨.flash, id, p.json.bytes⟩

/-- The plan that planning an installation returns. -/
def Factory.Planned.saved : Factory.Planned → Option Saved
  | .raw p => p.saved
  | .firmware id p _ => some ⟨.factory, id, p.json.bytes⟩

namespace Factory

/-- A command as a program: the plan that it returns, if it plans. -/
def Call.prog (X : Crates) : Call → Install (Option Saved)
  | plan device operation source recovery => do
    let p ← engine (Flash.planInner X device operation source recovery)
    return p.saved
  | execute device id confirmed => do
    let _ ← engine (Flash.executeWithGate X device id confirmed)
    return none
  | planInstallation device source => do
    let p ← engine (Factory.plan X device source)
    return p.saved
  | executeInstallation id confirmed => do
    let _ ← Factory.execute Pins.source X id confirmed
    return none
  | backup device => do
    let _ ← engine (Workflow.backup X device)
    return none
  | archive kind => do
    let _ ← engine (Archive.create X kind)
    return none

/-- The plan that a command executes. -/
def Call.target : Call → Option (PlanDir × String)
  | execute _ id _ => some (.flash, id)
  | executeInstallation id _ => some (.factory, id)
  | _ => none

/-- A command with its trace; one without a result was cut off. -/
structure Turn where
  call : Call
  trace : List Event'
  result : Option (Result (Option Saved))

/-- One command on the files. -/
def Turn.Step (X : Crates) (f : Files) (x : Turn) (f' : Files) : Prop :=
  Traces (x.call.prog X) x.trace x.result ∧ Lts.Path OnFiles f x.trace f'

/-- The command writes to the device, or lets the tool do it. -/
def Turn.Writes (x : Turn) : Prop :=
  ∃ e ∈ x.trace, ¬ e.1.Quiet

/-- A command writes for a plan. -/
def Turn.WritesFor (k : PlanDir × String) (x : Turn) : Prop :=
  x.Writes ∧ x.call.target = some k

/-- The command ends with a plan. -/
def Turn.Returns (x : Turn) (s : Saved) : Prop :=
  x.result = some (.ok (some s))

/-- A command keeps to the text of a plan: it saw the identity of the plan, and it writes only to the ranges
    of the plan, or lets the tool write the image that the plan names. -/
inductive Turn.Follows (X : Crates) (s : Saved) (x : Turn) : Prop
  | flash {p : Plan} :
    s.dir = .flash →
    X.parsePlan s.text = .ok p →
    (⟨.engine .identity, .ok p.identity⟩ : Event') ∈ x.trace →
    (∀ e ∈ x.trace, e.1.Quiet ∨ ∃ o : Op, e.1 = .engine o ∧ o.Within p.ranges) →
    Follows X s x
  | factory {p : FactoryPlan} {st : Store} {image : Image} {file : Bytes} :
    s.dir = .factory →
    X.parseFactoryPlan s.text = .ok p →
    (⟨.engine .identity, .ok p.identity⟩ : Event') ∈ x.trace →
    (⟨.engine .sources, .ok st⟩ : Event') ∈ x.trace →
    openImage X st p.source = .ok (image, file) →
    report image = p.sourceReport →
    (∀ e ∈ x.trace, e.1.Quiet ∨ e.1 = .engine (.tool image.path)) →
    Follows X s x

section
variable {X : Crates} {f f' : Files}

/-- The claim in an execution. -/
lemma executeWithGate_claim (X : Crates) (device : Device) (id : String) (confirmed : Bool) :
    ∃ k : Flash.Cleared → Eng Flash.Outcome,
      (∀ c, (k c).Only Op.Spares) ∧
      Flash.executeWithGate X device id confirmed =
        Flash.clear X device id confirmed >>= fun c =>
          askAs "TRANSACTION_IO" (.rename (.plan .flash id) (.used .flash id)) >>= fun _ => k c := by
  refine ⟨_, fun c => ?_, rfl⟩
  refine .bind (.bind (only_askAs.mpr not_false) fun _ => only_check) fun _ => ?_
  refine .bind (only_askAs.mpr trivial) fun _ => .bind Flash.transfer_spares.attempt fun run => ?_
  cases run with
  | ok v => exact only_pure
  | error e => exact .bind (Only.attempt (only_askAs.mpr trivial)) fun _ => only_throw

/-- The read-back spares the plans. -/
lemma factoryReadback_spares {expected identity image file checks} :
    (factoryReadback expected identity image file checks).Only Ask.Spares := by
  refine .bind (opened_observes.mono fun o ho => ?_) fun _ =>
    Only.lift (readback_observes.mono fun _ h => h.spares)
  cases o with
  | engine o => exact Op.Observes.spares ho
  | devices => trivial
  | connect d => trivial

/-- The vendor tool spares the plans. -/
lemma runTool_spares {pins image} : (runTool pins image).Only Op.Spares :=
  .bind (toolBundle_observes.mono fun _ h => h.spares) fun _ =>
    .bind (only_ask.mpr trivial) fun _ => .bind only_check fun _ => only_pure

/-- An installation after its claim spares the plans. -/
lemma install_spares {pins id c} : (install pins id c).Only Ask.Spares :=
  .bind (Only.lift (.bind runTool_spares fun _ => only_askAs.mpr trivial)) fun _ =>
    .bind factoryReadback_spares fun _ => only_pure

/-- The end of an installation spares the plans. -/
lemma finish_spares {id run} : (finish id run).Only Ask.Spares := by
  cases run with
  | ok v => exact .bind (Only.lift (only_askAs.mpr trivial)) fun _ => only_pure
  | error e => exact .bind (Only.attempt (Only.lift (only_askAs.mpr trivial))) fun _ => only_throw

/-- The claim in an installation. -/
lemma execute_claim (pins : Pins) (X : Crates) (id : String) (confirmed : Bool) :
    ∃ k : Clearance → Install Json,
      (∀ c, (k c).Only Ask.Spares) ∧
      Factory.execute pins X id confirmed =
        clear X id confirmed >>= fun c =>
          engine (askAs "FACTORY_IMAGE" (.rename (.plan .factory id) (.used .factory id))) >>=
            fun _ => k c := by
  refine ⟨fun c => engine (do
      createNew "FACTORY_IMAGE" (.journal .factory id)
      journal id (.started c.plan.json none)) >>= fun _ => (install pins id c).attempt >>= finish id,
    fun c => ?_, ?_⟩
  · refine .bind (Only.lift (.bind (.bind (only_askAs.mpr not_false) fun _ => only_check) fun _ =>
      only_askAs.mpr trivial)) fun _ => ?_
    exact .bind install_spares.attempt fun _ => finish_spares
  · refine congrArg (clear X id confirmed >>= ·) (funext fun c => ?_)
    rw [show engine (claim id c.plan) = _ from engine_bind, bind_assoc]
    rfl

/-- The preflight has loaded a plan with the digest it was asked for. -/
lemma Preflight.hash {id : String} {t : List Event'} {c : Clearance} (h : Preflight X id t c) :
    ∃ text, (⟨.engine (.load (.plan .factory id)), .ok text⟩ : Event') ∈ t ∧ hashBytes text = id ∧
      X.parseFactoryPlan text = .ok c.plan := by
  cases h with
  | mk hash _ parse => exact ⟨_, .head _, hash, parse⟩

/-- The preflight has read the identity that the plan names. -/
lemma Preflight.identity {id : String} {t : List Event'} {c : Clearance} (h : Preflight X id t c) :
    (⟨.engine .identity, .ok c.plan.identity⟩ : Event') ∈ t := by
  cases h with
  | mk => exact List.mem_append_right _ (List.mem_append_right _ List.mem_cons_self)

/-- The preflight has opened the image that the plan names. -/
lemma Preflight.source {id : String} {t : List Event'} {c : Clearance} (h : Preflight X id t c) :
    ∃ st, (⟨.engine .sources, .ok st⟩ : Event') ∈ t ∧
      openImage X st c.plan.source = .ok (c.image, c.file) ∧ report c.image = c.plan.sourceReport := by
  cases h with
  | mk _ _ _ _ opened told => exact ⟨_, .tail _ (.head _), opened, told⟩

/-- What one command does to the plans: planning may add one, an execution may consume its own. A command
    that does not consume a plan does not write. -/
lemma Turn.Step.cases {x : Turn} (h : x.Step X f f') :
    (f.Grows f' ∧ ∀ e ∈ x.trace, e.1.Quiet) ∨
      ∃ dir id, x.call.target = some (dir, id) ∧ f.Claims dir id f' := by
  obtain ⟨tr, path⟩ := h
  obtain ⟨call, t, r⟩ := x
  have hb := tr.begins
  cases call with
  | plan device operation source recovery =>
    exact .inl (engine_grows Flash.moves_planInner Flash.planInner_quiet (begins_map hb) path)
  | planInstallation device source =>
    exact .inl (engine_grows moves_plan plan_quiet (begins_map hb) path)
  | backup device =>
    exact .inl (engine_grows (moves_spares (Workflow.backup_saves.mono fun _ h => h.spares))
      Workflow.backup_quiet (begins_map hb) path)
  | archive kind =>
    exact .inl (engine_grows (moves_spares (Archive.create_saves.mono fun _ h => h.spares))
      Archive.create_quiet (begins_map hb) path)
  | execute device id confirmed =>
    have hb := begins_map hb
    obtain ⟨k, rest, shape⟩ := executeWithGate_claim X device id confirmed
    -- the claim stands between the part that looks and all that follows
    have split : engine (Flash.executeWithGate X device id confirmed) =
        engine (Flash.clear X device id confirmed) >>= fun c =>
          engine (askAs "TRANSACTION_IO" (.rename (.plan .flash id) (.used .flash id))) >>= fun _ =>
            engine (k c) := by
      rw [shape, engine_bind]
      exact congrArg (engine (Flash.clear X device id confirmed) >>= ·) (funext fun c => engine_bind)
    have named : ∀ t c, Runs (engine (Flash.clear X device id confirmed)) t (.ok c) → id ≠ "" := by
      intro t c hc
      obtain ⟨u, rfl, hu⟩ := runs_engine.mp hc
      have loaded : Flash.Loaded X id (u ++ []) c.plan := (Flash.runs_clear_ok hu).2.loaded
      obtain ⟨text, -, hash, -⟩ := loaded
      exact hashed_named hash
    have looks : (engine (Flash.clear X device id confirmed)).Only Ask.Observes :=
      Only.lift Flash.clear_observes
    rw [split] at hb
    obtain ⟨same, quiet⟩ | claims := begins_claims looks named (fun c => Only.lift (rest c)) hb path
    · exact .inl ⟨same.grows, quiet⟩
    · exact .inr ⟨.flash, id, rfl, claims⟩
  | executeInstallation id confirmed =>
    have hb := begins_map hb
    obtain ⟨k, rest, shape⟩ := execute_claim Pins.source X id confirmed
    have named : ∀ t c, Runs (clear X id confirmed) t (.ok c) → id ≠ "" := by
      intro t c hc
      obtain ⟨text, -, hash, -⟩ := (runs_clear_ok hc).2.hash
      exact hashed_named hash
    rw [shape] at hb
    obtain ⟨same, quiet⟩ | claims := begins_claims clear_observes named rest hb path
    · exact .inl ⟨same.grows, quiet⟩
    · exact .inr ⟨.factory, id, rfl, claims⟩

/-- Planning for `flash` ends with a plan that lies under its name and is not consumed. -/
lemma saved_flash {device : Device} {operation source : String} {recovery : Flash.Recovery} {t : List Ev}
    {p : Flash.Planned} {s : Saved}
    (h : Runs (Flash.planInner X device operation source recovery) t (.ok p))
    (saved : p.saved = some s) (path : Lts.Path Files.Step f t f') :
    s.id = hashBytes s.text ∧ f' (.used s.dir s.id) = none ∧ f' (.plan s.dir s.id) = some s.text := by
  cases p with
  | noChanges gpt => cases saved
  | plan id p firmware erases =>
    cases saved
    exact Flash.planInner_named h path

/-- Planning an installation ends with a plan that lies under its name and is not consumed. -/
lemma saved_factory {device : Device} {source : String} {t : List Ev} {p : Planned} {s : Saved}
    (h : Runs (plan X device source) t (.ok p)) (saved : p.saved = some s)
    (path : Lts.Path Files.Step f t f') :
    s.id = hashBytes s.text ∧ f' (.used s.dir s.id) = none ∧ f' (.plan s.dir s.id) = some s.text := by
  obtain ⟨_, _, h1⟩ := runs_check_bind_ok.mp h
  obtain ⟨who, t1, rfl, h2⟩ := runs_ask_bind_ok.mp h1
  obtain ⟨_, _, h3⟩ := runs_check_bind_ok.mp h2
  obtain ⟨t2, _, t3, _, h4, rfl⟩ := runs_bind_ok.mp h3
  obtain ⟨st, t4, rfl, h5⟩ := runs_ask_bind_ok.mp h4
  obtain ⟨opened, _, h6⟩ := runs_check_bind_ok.mp h5
  obtain _ | ⟨_, path⟩ := path
  obtain ⟨_, _, path⟩ := path.append_inv
  obtain _ | ⟨_, path⟩ := path
  split_ifs at h6
  · obtain ⟨t5, q, t6, h7, h8, rfl⟩ := runs_bind_ok.mp h6
    obtain ⟨rfl, e⟩ := runs_pure.mp h8
    cases e
    rw [List.append_nil] at path
    exact saved_flash h7 saved path
  · obtain ⟨_, _, h7⟩ := runs_check_bind_ok.mp h6
    obtain ⟨t5, _, t6, _, h8, rfl⟩ := runs_bind_ok.mp h7
    obtain ⟨_, _, h9⟩ := runs_check_bind_ok.mp h8
    obtain ⟨_, _, h10⟩ := runs_check_bind_ok.mp h9
    obtain ⟨t7, headers, t8, _, h11, rfl⟩ := runs_bind_ok.mp h10
    obtain ⟨t9, id, t10, h12, h13, rfl⟩ := runs_bind_ok.mp h11
    obtain ⟨rfl, e⟩ := runs_pure.mp h13
    cases e
    cases saved
    rw [List.append_nil] at path
    obtain ⟨_, _, path⟩ := path.append_inv
    obtain ⟨_, _, path⟩ := path.append_inv
    exact runs_savePlan_ok h12 path

/-- What an engine function returned, where a command ends with a part of it. -/
lemma runs_returned {α : Type} {m : Eng α} {g : α → Option Saved} {t : List Event'} {s : Saved}
    (h : Runs (engine m >>= fun a => pure (g a)) t (.ok (some s))) :
    ∃ u a, t = engineTrace u ∧ Runs m u (.ok a) ∧ g a = some s := by
  obtain ⟨t1, a, t2, h1, h2, rfl⟩ := runs_bind_ok.mp h
  obtain ⟨rfl, e⟩ := runs_pure.mp h2
  obtain ⟨u, rfl, hu⟩ := runs_engine.mp h1
  exact ⟨u, a, List.append_nil _, hu, (Except.ok.inj e).symm⟩

/-- A command that returns no plan returns none. -/
lemma not_returned {α : Type} {m : Install α} {t : List Event'} {s : Saved} :
    ¬ Runs (m >>= fun _ => (pure none : Install (Option Saved))) t (.ok (some s)) := by
  intro h
  obtain ⟨_, _, _, _, h2, rfl⟩ := runs_bind_ok.mp h
  obtain ⟨_, e⟩ := runs_pure.mp h2
  cases e

/-- A command that ends with a plan leaves it under its name, not consumed. -/
lemma Turn.Step.returned {x : Turn} {s : Saved} (h : x.Step X f f') (ok : x.Returns s) :
    s.id = hashBytes s.text ∧ f' (.used s.dir s.id) = none ∧ f' (.plan s.dir s.id) = some s.text := by
  obtain ⟨tr, path⟩ := h
  obtain ⟨call, t, r⟩ := x
  obtain rfl : r = _ := ok
  have hr : Runs (call.prog X) t (.ok (some s)) := tr
  cases call with
  | plan device operation source recovery =>
    obtain ⟨u, p, rfl, hu, saved⟩ := runs_returned hr
    exact saved_flash hu saved (onFiles_engine path)
  | planInstallation device source =>
    obtain ⟨u, p, rfl, hu, saved⟩ := runs_returned hr
    exact saved_factory hu saved (onFiles_engine path)
  | execute device id confirmed => exact absurd hr not_returned
  | executeInstallation id confirmed => exact absurd hr not_returned
  | backup device => exact absurd hr not_returned
  | archive kind => exact absurd hr not_returned

/-- A command that writes for a plan keeps to the text that lies there. -/
lemma Turn.Step.follows {x : Turn} {s : Saved} (st : x.Step X f f')
    (there : f (.plan s.dir s.id) = some s.text) (w : x.WritesFor (s.dir, s.id)) : x.Follows X s := by
  obtain ⟨⟨e, mem, loud⟩, target⟩ := w
  obtain ⟨tr, path⟩ := st
  obtain ⟨call, t, r⟩ := x
  have hb := tr.begins
  cases call with
  | execute device id confirmed =>
    obtain ⟨dir, id', text⟩ := s
    cases target
    obtain ⟨u, rfl, hu⟩ := begins_lift (begins_map hb)
    obtain looks | ⟨tp, c, a, tx, hc, rfl, _, within⟩ := Flash.begins_executeWithGate hu
    · obtain ⟨e, he, rfl⟩ := List.mem_map.mp mem
      exact absurd (looks e he).quiet loud
    obtain ⟨f1, p1, _⟩ := (onFiles_engine path).append_inv
    have looks := Flash.clear_observes.runs hc
    have pre := (Flash.runs_clear_ok hc).2
    obtain ⟨read, loaded, _, parse⟩ : Flash.Loaded X _ (tp ++ []) c.plan := pre.loaded
    rw [List.append_nil] at loaded
    -- the text that was read is the one that lies there
    have same := onFiles_loaded (engine_onFiles p1) (List.forall_mem_map.mpr looks)
      (List.mem_map_of_mem loaded)
    rw [there] at same
    cases same
    refine .flash rfl parse (List.mem_map_of_mem (List.mem_append_left _ pre.identity)) fun e he => ?_
    obtain ⟨q, hq, rfl⟩ := List.mem_map.mp he
    obtain hq | hq := List.mem_append.mp hq
    · exact .inl (looks q hq).quiet
    · obtain rfl | hq := List.mem_cons.mp hq
      · exact .inl trivial
      · exact .inr ⟨q.1, rfl, pre.ranges ▸ within q hq⟩
  | executeInstallation id confirmed =>
    obtain ⟨dir, id', text⟩ := s
    cases target
    obtain looks | ⟨tp, c, a, tx, _, pre, looks, rfl, tool⟩ := begins_execute (begins_map hb)
    · exact absurd (looks e mem).quiet loud
    obtain ⟨f1, p1, _⟩ := path.append_inv
    obtain ⟨read, loaded, _, parse⟩ := pre.hash
    have same := onFiles_loaded p1 looks loaded
    rw [there] at same
    cases same
    obtain ⟨st, sources, opened, told⟩ := pre.source
    refine .factory rfl parse (List.mem_append_left _ pre.identity) (List.mem_append_left _ sources)
      opened told fun e he => ?_
    obtain he | he := List.mem_append.mp he
    · exact .inl (looks e he).quiet
    · obtain rfl | he := List.mem_cons.mp he
      · exact .inl trivial
      · obtain ⟨b, u, rfl⟩ := List.append_of_mem he
        exact (em e.1.Quiet).imp_right fun loud => (tool b e u rfl loud).1
  | _ => cases target

/-! ## Histories -/

/-- No plan is both pending and consumed. -/
def Apart (f : Files) : Prop :=
  ∀ dir id, id ≠ "" → f (.plan dir id) = none ∨ f (.used dir id) = none

/-- A plan has been consumed. -/
def Consumed (f : Files) (k : PlanDir × String) : Prop :=
  f (.used k.1 k.2) ≠ none

/-- A plan lies under its name as it was returned, or it has been consumed. -/
def Intact (f : Files) (s : Saved) : Prop :=
  f (.plan s.dir s.id) = some s.text ∨ Consumed f (s.dir, s.id)

/-- More files keep the plans apart. -/
lemma Apart.grows (h : Apart f) (g : f.Grows f') : Apart f' := by
  intro dir id named
  rw [g.used]
  obtain same | ⟨-, rfl | free⟩ := g.plan dir id
  · rw [same]
    exact h dir id named
  · exact absurd rfl named
  · exact .inr free

/-- A claim keeps the plans apart. -/
lemma Apart.claims {dir : PlanDir} {id : String} (h : Apart f) (c : f.Claims dir id f') : Apart f' := by
  intro d i named
  by_cases same : Path.plan d i = .plan dir id
  · rw [same]
    exact .inl c.gone
  · have other : Path.used d i ≠ .used dir id := fun e => same (by cases e; rfl)
    rw [c.others (.plan d i) trivial same nofun, c.others (.used d i) trivial nofun other]
    exact h d i named

/-- Every command keeps the plans apart. -/
lemma Apart.step {x : Turn} (h : Apart f) (st : x.Step X f f') : Apart f' := by
  obtain ⟨g, -⟩ | ⟨dir, id, -, c⟩ := st.cases
  · exact h.grows g
  · exact h.claims c

/-- A consumed plan stays consumed. -/
lemma Consumed.step {k : PlanDir × String} {x : Turn} (h : Consumed f k) (st : x.Step X f f') :
    Consumed f' k := by
  obtain ⟨g, -⟩ | ⟨dir, id, -, c⟩ := st.cases
  · rw [Consumed, g.used]
    exact h
  · by_cases same : Path.used k.1 k.2 = .used dir id
    · rw [Consumed, same]
      exact c.used
    · rw [Consumed, c.others (.used k.1 k.2) trivial nofun same]
      exact h

/-- A returned plan stays as it is until it is consumed. -/
lemma Intact.step {s : Saved} {x : Turn} (h : Intact f s) (st : x.Step X f f') : Intact f' s := by
  obtain there | gone := h
  · obtain ⟨g, -⟩ | ⟨dir, id, -, c⟩ := st.cases
    · obtain same | ⟨absent, -⟩ := g.plan s.dir s.id
      · exact .inl (same.trans there)
      · rw [there] at absent
        cases absent
    · by_cases same : Path.plan s.dir s.id = .plan dir id
      · cases same
        exact .inr c.used
      · rw [Intact, c.others (.plan s.dir s.id) trivial same nofun]
        exact .inl there
  · exact .inr (gone.step st)

/-- A command that writes for a plan finds it pending and consumes it. -/
lemma Turn.Step.consumes {k : PlanDir × String} {x : Turn} (st : x.Step X f f') (w : x.WritesFor k) :
    f.Claims k.1 k.2 f' := by
  obtain ⟨⟨e, mem, loud⟩, target⟩ := w
  obtain ⟨-, quiet⟩ | ⟨dir, id, eq, c⟩ := st.cases
  · exact absurd (quiet e mem) loud
  · rw [target] at eq
    cases eq
    exact c

/-- What holds of plans after a history of commands. -/
structure OneUse (h : List Turn) (f : Files) : Prop where
  /-- No plan is both pending and consumed. -/
  apart : Apart f
  /-- No two commands write for one plan. -/
  once : ∀ k, Lts.Never (Turn.WritesFor k) (Turn.WritesFor k) h
  /-- A plan that was written is consumed. -/
  consumed : ∀ x ∈ h, ∀ k, x.WritesFor k → Consumed f k
  /-- A plan that has been written is not returned. -/
  fresh : ∀ s : Saved, Lts.Never (Turn.WritesFor (s.dir, s.id)) (Turn.Returns · s) h
  /-- A plan that was returned lies there until it is consumed. -/
  intact : ∀ x ∈ h, ∀ s, x.Returns s → Intact f s

/-- Plans are used once, over all histories. -/
theorem one_use {h : List Turn} (clean : Apart f) (path : Lts.Path (Turn.Step X) f h f') :
    OneUse h f' := by
  have exec : Lts.Exec Apart (Turn.Step X) h f' := ⟨f, clean, path⟩
  have spent (k) (s : Files) (x : Turn) (s' : Files) (_ : Apart s) (st : x.Step X s s')
      (w : x.WritesFor k) : Consumed s' k := (st.consumes w).used
  refine ⟨exec.invariant (fun _ h => h) fun _ _ _ h st => h.step st, fun k => ?_, fun x hx k w => ?_,
    fun s => ?_, fun x hx s ok => ?_⟩
  · -- behind the first write for a plan it is consumed, and a consumed plan is not pending
    refine exec.never (fun _ h => h) (fun _ _ _ h st => h.step st) (spent k)
      (fun _ _ _ _ c st => c.step st) fun s x s' apart gone st w => ?_
    have c := st.consumes w
    obtain absent | free := apart k.1 k.2 c.named
    · exact c.pending absent
    · exact gone free
  · obtain ⟨l1, l2, rfl⟩ := List.append_of_mem hx
    obtain ⟨s1, s2, _, st, rest⟩ := path.split
    exact rest.keep (I := (Consumed · k)) (fun _ _ _ c st => c.step st) (st.consumes w).used
  · refine exec.never (fun _ h => h) (fun _ _ _ h st => h.step st) (spent (s.dir, s.id))
      (fun _ _ _ _ c st => c.step st) fun s1 x s2 _ gone st ok => ?_
    exact gone.step st (st.returned ok).2.1
  · obtain ⟨l1, l2, rfl⟩ := List.append_of_mem hx
    obtain ⟨s1, s2, _, st, rest⟩ := path.split
    exact rest.keep (I := (Intact · s)) (fun _ _ _ c st => c.step st) (.inl (st.returned ok).2.2)

/-- A command that writes for a plan which is still as it was returned keeps to its text. -/
lemma Turn.Step.keeps {x : Turn} {s : Saved} (st : x.Step X f f') (apart : Apart f) (h : Intact f s)
    (w : x.WritesFor (s.dir, s.id)) : x.Follows X s := by
  obtain there | gone := h
  · exact st.follows there w
  · -- a consumed plan is not pending, so nothing writes for it
    have c := st.consumes w
    obtain absent | free := apart s.dir s.id c.named
    · exact absurd absent c.pending
    · exact absurd free gone

/-- What was previewed is what is written, over all histories: a command that writes for a plan which was
    returned before keeps to the text that was returned. -/
theorem writes_previewed {l1 l2 l3 : List Turn} {x y : Turn} {s : Saved} (clean : Apart f)
    (path : Lts.Path (Turn.Step X) f (l1 ++ x :: (l2 ++ y :: l3)) f')
    (returned : x.Returns s) (writes : y.WritesFor (s.dir, s.id)) : y.Follows X s := by
  obtain ⟨f1, f2, before, stx, rest⟩ := path.split
  obtain ⟨f3, f4, between, sty, _⟩ := rest.split
  have apart : Apart f3 := between.keep (fun _ _ _ h st => h.step st)
    ((before.keep (fun _ _ _ h st => h.step st) clean).step stx)
  have intact : Intact f3 s := between.keep (I := (Intact · s)) (fun _ _ _ h st => h.step st)
    (.inl (stx.returned returned).2.2)
  exact sty.keeps apart intact writes

/-! ## The disk -/

/-- One command on the files and on the disk of one device. -/
def Turn.OnBoth (X : Crates) (who : Identity) (caps : Vector UInt8 8) (s : Files × Disk) (x : Turn)
    (s' : Files × Disk) : Prop :=
  x.Step X s.1 s'.1 ∧ Lts.Path (OnDevice who caps) s.2 x.trace s'.2

/-- A history on files and disk, on its files. -/
lemma onBoth_files {who : Identity} {caps : Vector UInt8 8} {h : List Turn} {s s' : Files × Disk}
    (p : Lts.Path (Turn.OnBoth X who caps) s h s') : Lts.Path (Turn.Step X) s.1 h s'.1 := by
  induction p with
  | nil => exact .nil
  | cons st _ ih => exact .cons st.1 ih

/-- What is quiet or within some ranges leaves the bytes outside them. -/
lemma onDevice_within {who : Identity} {caps : Vector UInt8 8} {d d' : Disk} {rs : List Range} {a : Nat}
    {t : List Event'} (p : Lts.Path (OnDevice who caps) d t d')
    (w : ∀ e ∈ t, e.1.Quiet ∨ ∃ o : Op, e.1 = .engine o ∧ o.Within rs)
    (out : ∀ r ∈ rs, ¬ Inside a r.window) : d' a = d a := by
  induction p with
  | nil => rfl
  | @cons d e d1 t d' st _ ih =>
    rw [ih fun e he => w e (List.mem_cons_of_mem _ he)]
    obtain quiet | ⟨o, eq, within⟩ := w e List.mem_cons_self
    · rw [st.quiet quiet]
    · obtain ⟨q, b⟩ := e
      obtain rfl : q = .engine o := eq
      exact Faithful.within (e := ⟨o, b⟩) st within out

/-- A byte changes only by a command that writes for a plan, and whatever was returned as this plan before
    covers the byte. -/
theorem changed_covered {who : Identity} {caps : Vector UInt8 8} {h : List Turn} {s s' : Files × Disk}
    {a : Nat} (clean : Apart s.1) (path : Lts.Path (Turn.OnBoth X who caps) s h s')
    (changed : s'.2 a ≠ s.2 a) :
    ∃ l1 y l2 k, h = l1 ++ y :: l2 ∧ y.WritesFor k ∧
      ∀ x ∈ l1, ∀ v : Saved, x.Returns v → (v.dir, v.id) = k → v.dir = .flash →
        ∃ p, X.parsePlan v.text = .ok p ∧ ∃ r ∈ p.ranges, Inside a r.window := by
  obtain ⟨l1, y, l2, s1, s2, rfl, before, ⟨st, disk⟩, ne⟩ := path_changed (g := fun s => s.2 a) path changed
  have writes : y.Writes := by
    by_contra none
    exact ne (congrFun (onDevice_quiet disk fun e he => by_contra fun loud => none ⟨e, he, loud⟩) a)
  obtain ⟨e, mem, loud⟩ := writes
  obtain ⟨-, quiet⟩ | ⟨dir, id, target, -⟩ := st.cases
  · exact absurd (quiet e mem) loud
  refine ⟨l1, y, l2, (dir, id), rfl, ⟨⟨e, mem, loud⟩, target⟩, fun x hx v returned key flash => ?_⟩
  obtain ⟨b, m, rfl⟩ := List.append_of_mem hx
  obtain ⟨s3, s4, early, ⟨stx, _⟩, between⟩ := before.split
  have apart : Apart s1.1 := (onBoth_files before).keep (fun _ _ _ h st => h.step st) clean
  have intact : Intact s1.1 v := (onBoth_files between).keep (I := (Intact · v))
    (fun _ _ _ h st => h.step st) (.inl (stx.returned returned).2.2)
  rw [← key] at target
  cases st.keeps apart intact ⟨⟨e, mem, loud⟩, target⟩ with
  | @flash p _ parse _ within =>
    refine ⟨p, parse, ?_⟩
    by_contra outside
    exact ne (onDevice_within disk within fun r hr inside => outside ⟨r, hr, inside⟩)
  | factory other =>
    rw [flash] at other
    cases other

end

/-! ## The history of an image of zeros -/

/-- The base directory of the sample has no plans. -/
lemma plainFiles_apart {n : Nat} {x : UInt8} : Apart (plainFiles n x) :=
  fun _ _ _ => .inr (by simp [plainFiles, rawFiles])

/-- The execution of the planned image of zeros writes the end of its MBR. -/
lemma zeros_written : ∃ t v w,
    Runs (Flash.executeWithGate .reference Flash.sampleDevice (Flash.planId (Flash.samplePlan 0)) true) t
      (.ok v) ∧
    Lts.Path (World.Step Flash.sampleHost.who Flash.sampleHost.caps) (Flash.plannedWorld 0) t w ∧
    w.disk 510 = 0x55 := by
  obtain ⟨_, _, runs, path, clock⟩ := Flash.sample_runs (x := 0)
  obtain ⟨still, work, planning⟩ := Flash.runs_planInner_plan runs path clock
  obtain ⟨v, w, done⟩ := (planning.execution_iff still Flash.sample_kept .refl rfl).mpr
    ⟨Flash.samplePlan_short, Flash.sample_intact, Flash.sample_fit.mpr (by decide)⟩
  obtain ⟨t, executed, steps⟩ := World.exact_runs done
  refine ⟨t, v, w, executed, steps, ?_⟩
  obtain ⟨tp, c, hc, ⟨tx, rfl⟩, _, who, written, _⟩ := Flash.runs_written executed (World.path_disk steps)
  obtain ⟨_, seen, _⟩ := steps.append_inv
  obtain ⟨_, text, st, there, _, parse, sub, built, _⟩ := Flash.runs_clear_seen hc seen
  rw [planning.stored] at there
  obtain rfl := Option.some.inj there
  rw [Crates.parsePlan_bytes] at parse
  rw [← Except.ok.inj parse] at built
  -- the image is the one that was planned
  have built' : Flash.build .reference (Flash.plannedWorld 0).files.store "factory-raw"
      (Flash.sampleSource 0) c.identity c.saved true = .ok (plainWork 34850 0) :=
    Flash.stable_build Flash.sample_kept.store
      (plain_build (by decide) (by decide) (by rw [who]; rfl))
  have same : c.work = plainWork 34850 0 :=
    Except.ok.inj ((Flash.stable_build sub built).symm.trans built')
  have primary := congrArg (·[510]?) written.primary
  rw [same] at primary
  simp only [plainWork, getElem?_readAt, getElem?_slice] at primary
  rw [if_pos (by decide), if_pos (by decide), plainImage,
    List.getElem?_append_left (by rw [length_mbrSector]; decide)] at primary
  exact Option.some.inj (primary.trans (by simp [mbrSector, mbrEntry]))

/-- The plan of the image of zeros. -/
def zerosPlan : Saved :=
  ⟨.flash, Flash.planId (Flash.samplePlan 0), (Flash.samplePlan 0).json.bytes⟩

/-- The image of zeros is planned and written. -/
lemma zeros_history : ∃ x y f d,
    x.Returns zerosPlan ∧ y.WritesFor (zerosPlan.dir, zerosPlan.id) ∧
      Lts.Path (Turn.OnBoth .reference Flash.sampleHost.who Flash.sampleHost.caps)
        (plainFiles 34850 0, fun _ => 0) [x, y] (f, d) ∧
      d 510 = 0x55 := by
  obtain ⟨t, erases, runs, path, _⟩ := Flash.sample_runs (x := 0)
  obtain ⟨u, v, w, executed, steps, byte⟩ := zeros_written
  obtain ⟨e, mem, loud⟩ : ∃ e ∈ u, ¬ e.1.Quiet := by
    by_contra quiet
    have still := path_quiet (World.path_disk steps) fun e he =>
      by_contra fun loud => quiet ⟨e, he, loud⟩
    rw [still] at byte
    exact absurd byte (by decide)
  let x : Turn := ⟨.plan Flash.sampleDevice "factory-raw" (Flash.sampleSource 0) .directRestore,
    engineTrace t, some (.ok (some zerosPlan))⟩
  let y : Turn := ⟨.execute Flash.sampleDevice zerosPlan.id true, engineTrace u, some (.ok none)⟩
  have planned : x.OnBoth .reference Flash.sampleHost.who Flash.sampleHost.caps
      (plainFiles 34850 0, fun _ => 0) ((Flash.plannedWorld 0).files, (Flash.plannedWorld 0).disk) :=
    ⟨⟨runs_bind_ok.mpr ⟨_, _, [], runs_engine.mpr ⟨t, rfl, runs⟩, runs_pure.mpr ⟨rfl, rfl⟩,
      (List.append_nil _).symm⟩, engine_onFiles (World.path_files path)⟩,
      engine_onDevice (World.path_disk path)⟩
  have wrote : y.OnBoth .reference Flash.sampleHost.who Flash.sampleHost.caps
      ((Flash.plannedWorld 0).files, (Flash.plannedWorld 0).disk) (w.files, w.disk) :=
    ⟨⟨runs_bind_ok.mpr ⟨_, _, [], runs_engine.mpr ⟨u, rfl, executed⟩, runs_pure.mpr ⟨rfl, rfl⟩,
      (List.append_nil _).symm⟩, engine_onFiles (World.path_files steps)⟩,
      engine_onDevice (World.path_disk steps)⟩
  exact ⟨x, y, w.files, w.disk, rfl, ⟨⟨_, List.mem_map_of_mem mem, loud⟩, rfl⟩,
    .cons planned (.cons wrote .nil), byte⟩

/-- A plan of zeros is used once. -/
theorem one_use_of_zeros : ∃ x y f,
    x.Returns zerosPlan ∧ y.WritesFor (zerosPlan.dir, zerosPlan.id) ∧ OneUse [x, y] f := by
  obtain ⟨x, y, f, _, returned, writes, path, _⟩ := zeros_history
  exact ⟨x, y, f, returned, writes, one_use plainFiles_apart (onBoth_files path)⟩

/-- The later run follows the plan that was returned. -/
theorem writes_previewed_of_zeros : ∃ y : Turn,
    y.WritesFor (zerosPlan.dir, zerosPlan.id) ∧ y.Follows .reference zerosPlan := by
  obtain ⟨x, y, f, _, returned, writes, path, _⟩ := zeros_history
  have split : Lts.Path (Turn.Step .reference) (plainFiles 34850 0) ([] ++ x :: ([] ++ y :: [])) f :=
    onBoth_files path
  exact ⟨y, writes, writes_previewed plainFiles_apart split returned writes⟩

/-- The byte that changes lies in a range of the plan. -/
theorem changed_covered_of_zeros : ∃ x y : Turn,
    x.Returns zerosPlan ∧ y.WritesFor (zerosPlan.dir, zerosPlan.id) ∧
      ∃ l1 z l2 k, [x, y] = l1 ++ z :: l2 ∧ z.WritesFor k ∧
        ∀ w ∈ l1, ∀ v : Saved, w.Returns v → (v.dir, v.id) = k → v.dir = .flash →
          ∃ p, Crates.parsePlan .reference v.text = .ok p ∧ ∃ r ∈ p.ranges, Inside 510 r.window := by
  obtain ⟨x, y, f, d, returned, writes, path, byte⟩ := zeros_history
  have changed : d 510 ≠ (0 : UInt8) := by
    rw [byte]
    decide
  exact ⟨x, y, returned, writes, changed_covered plainFiles_apart path changed⟩

end Factory

end K11CHaos.Engine
