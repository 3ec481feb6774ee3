import Mathlib.Data.List.Count
import K11CHaos.Frigate.Controller

/-!
# Attempts on a container

What one pass of the controller asks, whatever Docker answers and wherever it is cut off. A request
that disturbs a container (`Acts`) belongs to the restart of the target of the pass (`Restart`): before
it come the saved intent, a preflight that succeeded and an inspection that did not show a clean stop
(`reached`, `Restart.acts`), and a pass stops and starts its target at most once (`counts`). Docker is
trusted with one thing, that the container it creates for the probe is not the target (`Fresh`).
-/

namespace K11CHaos.Frigate
open Prog

/-- The requests that disturb a container: a stop, a start, and a copy of more than the manifest. -/
def Acts (cid : String) : Op → Prop
  | .stop id => id = cid
  | .start id => id = cid
  | .archivePut id files _ => id = cid ∧ ∃ f ∈ files, f.1 ≠ manifest
  | _ => False

/-- No container that Docker creates has the id of the target. -/
def Fresh (c : Decoders) (cid : String) (t : List Event) : Prop :=
  ∀ name config r created id, (⟨.create name config, .ok r⟩ : Event) ∈ t →
    accept c r "POST /containers/create" = .ok created → created.item "Id" = .ok id → c.show id ≠ cid

/-! ## What each part may ask -/

section Only

variable {c : Decoders} {p : Op → Prop}

/-- One question to the host. -/
@[simp] lemma only_ask {o : Op} : (ask o).Only p ↔ p o :=
  only_call

/-- A test asks nothing. -/
@[simp] lemma only_require {ok : Bool} {message : String} : (require ok message).Only p := by
  cases ok <;> trivial

/-- The files of a container are only read. -/
def Reads : Op → Prop
  | .archiveGet _ _ => True
  | .archiveHead _ _ => True
  | _ => False

/-- `read_file` reads. -/
lemma readFile_only {cid path : String} : (readFile c cid path).Only Reads :=
  Only.bind (only_ask.mpr trivial) fun _ => only_ofExcept

/-- The stat of a path reads. -/
lemma pathStat_only {cid path : String} : (pathStat c cid path).Only Reads :=
  Only.bind (only_ask.mpr trivial) fun _ => only_ofExcept

/-- The directories of the files are looked at only. -/
lemma checkDirectories_only {cid : String} {paths : List String} :
    (checkDirectories c cid paths).Only Reads := by
  induction paths with
  | nil => exact only_pure
  | cons path paths ih =>
    refine Only.bind pathStat_only fun _ => Only.bind only_ofExcept fun _ => ?_
    exact Only.bind only_require fun _ => ih

/-- The mode of a file is looked at only. -/
lemma checkMode_only {cid path : String} {existing : Option Bytes} :
    (checkMode c cid path existing).Only Reads := by
  unfold checkMode
  split
  · exact Only.bind pathStat_only fun _ => only_ofExcept
  · exact only_pure

/-- What is pending is found by reading. -/
lemma pendingFiles_only {cid : String} {previous : Value} {files : Files} :
    (pendingFiles c cid previous files).Only Reads := by
  induction files with
  | nil => exact only_pure
  | cons f files ih =>
    obtain ⟨path, data⟩ := f
    unfold pendingFiles
    split
    · exact ih
    · refine Only.bind readFile_only fun _ => Only.bind only_ofExcept fun _ => ?_
      refine Only.bind only_require fun _ => Only.bind checkMode_only fun _ => ?_
      exact Only.bind ih fun _ => only_pure

/-- Collisions are found by reading. -/
lemma checkCollisions_only {cid : String} {files : Files} :
    (checkCollisions c cid files).Only Reads := by
  refine Only.bind checkDirectories_only fun _ => Only.bind readFile_only fun _ => ?_
  refine Only.bind only_ofExcept fun _ => Only.bind pendingFiles_only fun _ => ?_
  exact Only.bind only_ofExcept fun _ => only_pure

/-- The files are read back. -/
lemma readback_only {cid : String} {files : Files} : (readback c cid files).Only Reads := by
  induction files with
  | nil => exact only_pure
  | cons f files ih =>
    obtain ⟨path, data⟩ := f
    refine Only.bind readFile_only fun _ => Only.bind only_require fun _ => ?_
    split
    · refine Only.bind pathStat_only fun _ => Only.bind only_ofExcept fun _ => ?_
      exact Only.bind only_require fun _ => ih
    · exact ih

/-- The report prints. -/
lemma reportFfmpeg_only {files pending : Files} (h : ∀ line, p (.print line)) :
    (reportFfmpeg files pending).Only p := by
  unfold reportFfmpeg
  split
  · exact only_pure
  · exact only_ask.mpr (h _)

/-- The questions of a probe. -/
def Probes (id : String) : Op → Prop
  | .start i => i = id
  | .archivePut i _ _ => i = id
  | .inspect i => i = id
  | .archiveGet _ _ | .archiveHead _ _ | .logs _ | .delete _ | .monotonic | .sleep | .print _ => True
  | _ => False

/-- Whoever probes a container may read. -/
lemma Reads.probes {id : String} : ∀ o, Reads o → Probes id o := by
  intro o h
  cases o with
  | archiveGet | archiveHead => trivial
  | _ => cases h

/-- One start. -/
lemma start_only {id : String} (h : p (.start id)) : (start c id).Only p :=
  Only.bind (only_ask.mpr h) fun _ => only_ofExcept

/-- One stop. -/
lemma stop_only {id : String} (h : p (.stop id)) : (stop c id).Only p :=
  Only.bind (only_ask.mpr h) fun _ => only_ofExcept

/-- One inspection. -/
lemma inspect_only {id : String} (h : p (.inspect id)) : (inspect c id).Only p :=
  Only.bind (only_ask.mpr h) fun _ => only_ofExcept

/-- One archive with the files. -/
lemma putFiles_only {id : String} {files : Files} (h : p (.archivePut id files (entries files))) :
    (putFiles id files).Only p :=
  Only.bind (only_ask.mpr h) fun _ => only_require

/-- The state of the probe container is asked for. -/
lemma exited_only {id : String} {state : Value} : (exited c id state).Only (Probes id) := by
  refine Only.bind only_ofExcept fun code => ?_
  split
  · exact only_pure
  · refine Only.bind (Only.bind (only_ask.mpr trivial) fun _ => only_ask.mpr trivial) fun _ => ?_
    exact only_throw

/-- The wait for the probe container inspects it. -/
lemma poll_only {id : String} {deadline n : Nat} : (poll c id deadline n).Only (Probes id) := by
  induction n with
  | zero => exact only_throw
  | succ n ih =>
    refine Only.bind (only_ask.mpr trivial) fun now => ?_
    split
    · exact only_throw
    · refine Only.bind (inspect_only rfl) fun _ => Only.bind only_ofExcept fun _ => ?_
      refine Only.bind only_ofExcept fun _ => ?_
      split
      · exact Only.bind (only_ask.mpr trivial) fun _ => ih
      · exact exited_only

/-- A probe acts on its own container only. -/
lemma probe_only {id : String} {files : Files} : (probe c id files).Only (Probes id) := by
  refine Only.bind (checkCollisions_only.mono Reads.probes) fun _ => ?_
  refine Only.bind (putFiles_only rfl) fun _ => Only.bind (start_only rfl) fun _ => ?_
  exact Only.bind (only_ask.mpr trivial) fun _ => poll_only

/-- No question of a preflight is about the state. -/
def Outside : Op → Prop
  | .stop _ | .has _ | .set _ _ | .pop _ | .save => False
  | _ => True

/-- A probe is outside the container that is prepared. -/
lemma Probes.outside {id : String} : ∀ o, Probes id o → Outside o := by
  intro o h
  cases o with
  | stop | has | set | pop | save => exact h
  | _ => trivial

/-- Nothing before the restart acts on the container. -/
lemma preflight_only {image : Value} {files : Files} :
    (preflight c image files).Only Outside := by
  refine Only.bind (only_ask.mpr trivial) fun _ => ?_
  refine Only.bind (Only.bind (only_ask.mpr trivial) fun _ => only_ofExcept) fun _ => ?_
  refine Only.bind only_ofExcept fun _ => ?_
  refine Only.bind (probe_only.mono Probes.outside).attempt fun _ => ?_
  exact Only.bind (Only.bind (only_ask.mpr trivial) fun _ => only_ofExcept) fun _ => only_ofExcept

end Only

section Reached

variable {c : Decoders} {info : Value} {slug cid key x : String} {files : Files}

/-- A request whose response is decoded. -/
lemma runs_decoded {α : Type} {o : Op} {f : Reply o → Except Raised α} {t v}
    (h : Runs (do let r ← ask o; .ofExcept (f r)) t (.ok v)) :
    ∃ r, t = [⟨o, .ok r⟩] ∧ f r = .ok v := by
  obtain ⟨t1, r, t2, h1, h2, rfl⟩ := runs_bind_ok.mp h
  obtain rfl := runs_call.mp h1
  obtain ⟨rfl, hv⟩ := runs_ofExcept.mp h2
  exact ⟨r, rfl, hv.symm⟩

/-- The trace of a question that was answered. -/
lemma runs_ask_ok {o : Op} {t v} (h : Runs (ask o) t (.ok v)) : t = [⟨o, .ok v⟩] :=
  runs_call.mp h

/-- Reading is not acting. -/
lemma Reads.acts_not : ∀ o, Reads o → ¬ Acts cid o := by
  intro o h
  cases o with
  | archiveGet | archiveHead => exact id
  | _ => cases h

/-- A probe of one container does not act on another. -/
lemma Probes.acts_not {id : String} (h : id ≠ cid) : ∀ o, Probes id o → ¬ Acts cid o := by
  intro o ho ha
  cases o with
  | start i => exact h (Eq.trans (Eq.symm ho) ha)
  | archivePut i _ _ => exact h (Eq.trans (Eq.symm ho) ha.1)
  | stop => exact ho
  | _ => exact ha

/-- A preflight leaves the target alone: its requests go to the container it created. -/
lemma preflight_quiet {image : Value} {t} (h : Begins (preflight c image files) t)
    (hf : Fresh c cid t) : ∀ e ∈ t, ¬ Acts cid e.1 := by
  intro e he ha
  have quiet : ∀ {α : Type} {o : Op} {f : Reply o → Except Raised α}, ¬ Acts cid o →
      (do let r ← ask o; .ofExcept (f r) : Ctl α).Only (¬ Acts cid ·) :=
    fun ho => Only.bind (only_ask.mpr ho) fun _ => only_ofExcept
  obtain ⟨t1, hex, t2, _, g1, rfl, e1⟩ :=
    h.reached (p := (¬ Acts cid ·)) (only_ask.mpr id) he (not_not.mpr ha)
  obtain ⟨t3, created, t4, h3, g2, rfl, e2⟩ :=
    g1.reached (m := create c _ _) (p := (¬ Acts cid ·)) (quiet id) e1 (not_not.mpr ha)
  obtain ⟨r, rfl, hr⟩ := runs_decoded h3
  obtain ⟨t5, id, t6, h5, g3, rfl, e3⟩ :=
    g2.reached (m := .ofExcept _) (p := (¬ Acts cid ·)) only_ofExcept e2 (not_not.mpr ha)
  obtain ⟨_, hid⟩ := runs_ofExcept.mp h5
  have ne : c.show id ≠ cid := hf _ _ r created id (by simp) hr hid.symm
  refine (Only.bind (probe_only.mono (Probes.acts_not ne)).attempt fun _ => ?_).begins g3 e e3 ha
  exact Only.bind (quiet fun h => h) fun _ => only_ofExcept

/-- No preflight within a trace asks `e`. -/
def Apart (c : Decoders) (files : Files) (t : List Event) (e : Event) : Prop :=
  ∀ image u, Begins (preflight c image files) u → (∀ y ∈ u, y ∈ t) → e ∉ u

/-- Fewer events are apart as well. -/
lemma Apart.mono {t u : List Event} {e : Event} (h : Apart c files t e) (hu : ∀ y ∈ u, y ∈ t) :
    Apart c files u e :=
  fun image v hv sub => h image v hv fun y hy => hu y (sub y hy)

/-- What acts on a fresh container has nothing before it. -/
lemma Fresh.apart {t : List Event} (hf : Fresh c x t) {e : Event} (ha : Acts x e.1) :
    Apart c files t e := by
  intro _ u hu sub he
  refine preflight_quiet hu (fun name config r created id hm => ?_) e he ha
  exact hf name config r created id (sub _ hm)

/-- A stop is always apart. -/
lemma apart_stop {t : List Event} {e : Event} (h : e.1 = .stop x) : Apart c files t e := by
  intro _ u hu _ he
  have outside := preflight_only.begins hu e he
  rw [h] at outside
  exact outside

/-- A trace of the part between stop and start touches the target only as it does there. -/
lemma install_reached {t r} (h : Traces (install c info slug files cid key) t r) {e : Event}
    (he : e ∈ t) (ha : Acts x e.1) (hp : Apart c files t e) :
    ∃ image p resp fresh t3,
      t = p ++ ⟨.inspect cid, .ok resp⟩ :: t3 ∧ e ∈ t3 ∧
      info.item "Image" = .ok image ∧ Runs (preflight c image files) p (.ok ()) ∧
      accept c resp ("GET /containers/" ++ cid ++ "/json") = .ok fresh ∧
      cleanlyStopped fresh = .ok false ∧ Traces (restart c slug files cid key fresh) t3 r := by
  obtain ⟨t1, image, t2, h1, g1, rfl, e1⟩ :=
    h.reached (p := (¬ Acts x ·)) only_ofExcept he (not_not.mpr ha)
  obtain ⟨rfl, himage⟩ := runs_ofExcept.mp h1
  obtain g2 | ⟨p, _, t3, hprobe, g2, rfl⟩ := g1.bind_inv
  · exact absurd e1 (hp image _ g2 fun _ hy => hy)
  have e2 : e ∈ t3 := by
    obtain e2 | e2 := List.mem_append.mp e1
    · exact absurd e2 (hp image _ hprobe.whole fun y hy => by simp [hy])
    · exact e2
  obtain ⟨t4, fresh, t5, h4, g3, rfl, e3⟩ :=
    g2.reached (m := inspect c cid) (p := (¬ Acts x ·)) (inspect_only id) e2 (not_not.mpr ha)
  obtain ⟨resp, rfl, hfresh⟩ := runs_decoded h4
  obtain ⟨t6, _, t7, h6, g4, rfl, e4⟩ :=
    g3.reached (m := .ofExcept _) (p := (¬ Acts x ·)) only_ofExcept e3 (not_not.mpr ha)
  obtain ⟨rfl, hvalid⟩ := runs_ofExcept.mp h6
  obtain ⟨t8, stopped, t9, h8, g5, rfl, e5⟩ :=
    g4.reached (m := .ofExcept _) (p := (¬ Acts x ·)) only_ofExcept e4 (not_not.mpr ha)
  obtain ⟨rfl, hstopped⟩ := runs_ofExcept.mp h8
  cases stopped with
  | true =>
    have idle : (giveUp key).Only (¬ Acts x ·) :=
      Only.bind (only_ask.mpr id) fun _ => Only.bind (only_ask.mpr id) fun _ => only_pure
    exact absurd ha (idle.begins g5.begins e e5)
  | false => exact ⟨image, p, resp, fresh, t9, rfl, e5, himage.symm, hprobe, hfresh,
    hstopped.symm, g5⟩

/-- What becomes of an error of an attempt. -/
lemma caught_only {x : Except Raised Bool} :
    (caught key x).Only fun o => o = .set key .failed ∨ o = .save := by
  unfold caught
  split
  · exact only_pure
  · exact only_throw
  · refine Only.bind (only_ask.mpr (.inl rfl)) fun _ => ?_
    exact Only.bind (only_ask.mpr (.inr rfl)) fun _ => only_throw

/-- The parts of a pass that touches its target. -/
structure Restart (c : Decoders) (info : Value) (slug : String) (files : Files) (cid : String)
    (t : List Event) (r : Option (Except Raised Bool)) where
  data : Bytes
  checks : List Event
  image : Value
  probing : List Event
  resp : Response
  fresh : Value
  work : List Event
  rest : List Event
  result : Option (Except Raised Bool)
  payload : fileAt files manifest = .ok data
  wanted : shouldStart info = .ok true
  reads : ∀ e ∈ checks, Reads e.1
  imaged : info.item "Image" = .ok image
  probed : Runs (preflight c image files) probing (.ok ())
  inspected : accept c resp ("GET /containers/" ++ cid ++ "/json") = .ok fresh
  running : cleanlyStopped fresh = .ok false
  restarts : Traces (restart c slug files cid (keyOf cid data) fresh) work result
  ends : (result = none ∧ r = none ∧ rest = []) ∨
    ∃ x, result = some x ∧ Traces (caught (keyOf cid data) x) rest r
  trace : t = ⟨.has (keyOf cid data), .ok false⟩ :: (checks ++
    ⟨.set (keyOf cid data) .preparing, .ok ()⟩ :: ⟨.save, .ok ()⟩ :: (probing ++
      ⟨.inspect cid, .ok resp⟩ :: (work ++ rest)))

/-- A pass over what is already complete copies nothing but the manifest. -/
lemma adopt_only {pending : Files} (h : pending.all (·.1 == manifest) = true) :
    (adopt c files cid key pending).Only (¬ Acts x ·) := by
  have copies : (putManifest c cid files pending).Only (¬ Acts x ·) := by
    unfold putManifest
    split
    · exact only_pure
    · refine Only.bind (putFiles_only ?_) fun _ => ?_
      · rintro ⟨_, f, hf, ne⟩
        exact ne (by simpa using List.all_eq_true.mp h f hf)
      · refine Only.bind (readFile_only.mono Reads.acts_not) fun _ => ?_
        exact Only.bind only_ofExcept fun _ => only_require
  refine Only.bind copies fun _ => Only.bind (only_ask.mpr id) fun _ => ?_
  exact Only.bind (only_ask.mpr id) fun _ =>
    Only.bind (reportFfmpeg_only fun _ => id) fun _ => only_pure

/-- A trace that disturbs a container has the parts of a restart. -/
lemma reached {t r} (h : Traces (reconcile c info slug files) t r) {e : Event} (he : e ∈ t)
    (ha : Acts x e.1) (hp : Apart c files t e) :
    ∃ cid, info.item "Id" >>= Value.asStr = .ok cid ∧
      Nonempty (Restart c info slug files cid t r) := by
  obtain ⟨t1, _, t2, h1, g1, rfl, e1⟩ :=
    h.reached (m := .ofExcept _) (p := (¬ Acts x ·)) only_ofExcept he (not_not.mpr ha)
  obtain ⟨rfl, _⟩ := runs_ofExcept.mp h1
  obtain ⟨t3, cid, t4, h3, g2, rfl, e2⟩ :=
    g1.reached (m := .ofExcept _) (p := (¬ Acts x ·)) only_ofExcept e1 (not_not.mpr ha)
  obtain ⟨rfl, hcid⟩ := runs_ofExcept.mp h3
  obtain ⟨t5, data, t6, h5, g3, rfl, e3⟩ :=
    g2.reached (m := .ofExcept _) (p := (¬ Acts x ·)) only_ofExcept e2 (not_not.mpr ha)
  obtain ⟨rfl, hdata⟩ := runs_ofExcept.mp h5
  obtain ⟨t7, known, t8, h7, g4, rfl, e4⟩ :=
    g3.reached (m := ask _) (p := (¬ Acts x ·)) (only_ask.mpr id) e3 (not_not.mpr ha)
  obtain rfl := runs_ask_ok h7
  -- what was tried before is left alone
  cases known with
  | true => exact absurd ha (Only.begins (p := (¬ Acts x ·)) only_pure g4.begins e e4)
  | false =>
    obtain ⟨t9, wanted, t10, h9, g5, rfl, e5⟩ :=
      Traces.reached (m := .ofExcept _) (p := (¬ Acts x ·)) g4 only_ofExcept e4 (not_not.mpr ha)
    obtain ⟨rfl, hwanted⟩ := runs_ofExcept.mp h9
    cases wanted with
    | false => exact absurd ha (Only.begins (p := (¬ Acts x ·)) only_pure g5.begins e e5)
    | true =>
      obtain ⟨checks, pending, t11, h11, g6, rfl, e6⟩ :=
        Traces.reached (m := checkCollisions c cid files) (p := (¬ Acts x ·)) g5
          (checkCollisions_only.mono Reads.acts_not) e5 (not_not.mpr ha)
      -- only the manifest is missing: the files are adopted
      by_cases all : pending.all (·.1 == manifest) = true
      · rw [if_pos all] at g6
        exact absurd ha ((adopt_only all).begins g6.begins e e6)
      · rw [if_neg all] at g6
        obtain ⟨t12, ⟨⟩, t13, h12, g7, rfl, e7⟩ :=
          g6.reached (m := ask _) (p := (¬ Acts x ·)) (only_ask.mpr id) e6 (not_not.mpr ha)
        obtain rfl := runs_ask_ok h12
        obtain ⟨t14, ⟨⟩, t15, h14, g8, rfl, e8⟩ :=
          g7.reached (m := ask _) (p := (¬ Acts x ·)) (only_ask.mpr id) e7 (not_not.mpr ha)
        obtain rfl := runs_ask_ok h14
        have hreads : ∀ e ∈ checks, Reads e.1 := checkCollisions_only.runs h11
        have apart : Apart c files t15 e := hp.mono fun y hy => by simp [hy]
        -- the run was cut off in the installation, or went on to note how it ended
        obtain ⟨rfl, g9⟩ | ⟨t16, y, t17, g9, g10, rfl⟩ := g8.attempt
        · obtain ⟨image, p, resp, fr, work, rfl, _, himage, hp, hi, hs, hw⟩ :=
            install_reached (r := none) g9 e8 ha apart
          exact ⟨cid, hcid.symm, ⟨⟨data, checks, image, p, resp, fr, work, [], none, hdata.symm,
            hwanted.symm, hreads, himage, hp, hi, hs, hw, .inl ⟨rfl, rfl, rfl⟩, by simp⟩⟩⟩
        · have e9 : e ∈ t16 := by
            obtain e9 | e9 := List.mem_append.mp e8
            · exact e9
            · obtain eq | eq := caught_only.begins g10.begins e e9 <;> rw [eq] at ha <;> cases ha
          obtain ⟨image, p, resp, fr, work, rfl, _, himage, hp, hi, hs, hw⟩ :=
            install_reached (r := some y) g9 e9 ha
              (apart.mono fun _ => List.mem_append_left _)
          exact ⟨cid, hcid.symm, ⟨⟨data, checks, image, p, resp, fr, work, t17, some y, hdata.symm,
            hwanted.symm, hreads, himage, hp, hi, hs, hw, .inr ⟨y, rfl, g10⟩, by simp⟩⟩⟩

end Reached

namespace Restart

variable {c : Decoders} {info : Value} {slug cid x : String} {files : Files}
variable {t : List Event} {r : Option (Except Raised Bool)}

/-- What a pass asks up to the inspection that precedes the restart. -/
def before (s : Restart c info slug files cid t r) : List Event :=
  ⟨.has (keyOf cid s.data), .ok false⟩ :: (s.checks ++
    ⟨.set (keyOf cid s.data) .preparing, .ok ()⟩ :: ⟨.save, .ok ()⟩ :: (s.probing ++
      [⟨.inspect cid, .ok s.resp⟩]))

/-- The parts of a restart make its trace. -/
lemma trace_eq (s : Restart c info slug files cid t r) : t = s.before ++ (s.work ++ s.rest) :=
  s.trace.trans (by simp [before])

/-- The container is not disturbed before, but for the probe. -/
lemma before_quiet (s : Restart c info slug files cid t r) {e : Event} (he : e ∈ s.before)
    (hp : e ∉ s.probing) : ¬ Acts x e.1 := by
  intro ha
  simp only [before, List.mem_cons, List.mem_append, List.not_mem_nil, or_false] at he
  obtain rfl | he | rfl | rfl | he | rfl := he
  · exact ha
  · exact Reads.acts_not _ (s.reads e he) ha
  · exact ha
  · exact ha
  · exact hp he
  · exact ha

/-- What is apart is no event of the probe. -/
lemma probing_apart (s : Restart c info slug files cid t r) {e : Event} (hp : Apart c files t e) :
    e ∉ s.probing := by
  refine hp s.image _ s.probed.whole fun y hy => ?_
  rw [s.trace]
  simp [hy]

/-- Nor is it after an error. -/
lemma rest_only (s : Restart c info slug files cid t r) :
    ∀ e ∈ s.rest, e.1 = .set (keyOf cid s.data) .failed ∨ e.1 = .save := by
  obtain ⟨_, _, h⟩ | ⟨y, _, h⟩ := s.ends
  · simp [h]
  · exact caught_only.begins h.begins

/-- After the work nothing acts on the container any more. -/
lemma rest_quiet (s : Restart c info slug files cid t r) : ∀ e ∈ s.rest, ¬ Acts x e.1 := by
  intro e he ha
  obtain eq | eq := s.rest_only e he <;> rw [eq] at ha <;> exact ha

/-- The questions of a restart. -/
def Works (cid key : String) : Op → Prop
  | .stop id | .start id => id = cid
  | .archivePut id _ _ => id = cid
  | .archiveGet _ _ | .archiveHead _ _ | .print _ | .save => True
  | .set k _ => k = key
  | _ => False

/-- The work of a restart stops, copies, starts and records. -/
lemma works_only {key : String} {fresh : Value} :
    (restart c slug files cid key fresh).Only (Works cid key) := by
  have reads : ∀ o, Reads o → Works cid key o := by
    intro o h
    cases o with
    | archiveGet | archiveHead => trivial
    | _ => cases h
  refine Only.bind (checkCollisions_only.mono reads) fun _ => Only.bind only_ofExcept fun running => ?_
  refine Only.bind ?_ fun _ => ?_
  · cases running with
    | true => exact Only.bind (stop_only rfl) fun _ => only_pure
    | false => exact only_pure
  · refine Only.bind (putFiles_only rfl) fun _ => Only.bind (readback_only.mono reads) fun _ => ?_
    refine Only.bind (start_only rfl) fun _ => Only.bind (only_ask.mpr rfl) fun _ => ?_
    refine Only.bind (only_ask.mpr trivial) fun _ => ?_
    refine Only.bind (reportFfmpeg_only fun _ => trivial) fun _ => ?_
    exact Only.bind (only_ask.mpr trivial) fun _ => only_pure

/-- The same of the work of an accepted restart. -/
lemma work_only (s : Restart c info slug files cid t r) :
    ∀ e ∈ s.work, Works cid (keyOf cid s.data) e.1 :=
  works_only.begins s.restarts.begins

/-- Only the target of the pass is disturbed, and only in the restart. -/
lemma acts (s : Restart c info slug files cid t r) {e : Event} (he : e ∈ t) (ha : Acts x e.1)
    (hp : Apart c files t e) : e ∈ s.work ∧ x = cid := by
  rw [s.trace_eq, List.mem_append, List.mem_append] at he
  obtain he | he | he := he
  · exact absurd ha (s.before_quiet he (s.probing_apart hp))
  · refine ⟨he, ?_⟩
    have works := s.work_only e he
    obtain ⟨o, a⟩ := e
    cases o with
    | stop i => exact Eq.trans (Eq.symm ha) works
    | start i => exact Eq.trans (Eq.symm ha) works
    | archivePut i => exact Eq.trans (Eq.symm ha.1) works
    | _ => exact ha.elim
  · exact absurd ha (s.rest_quiet e he)

end Restart

/-- A stop of a container. -/
def stops (cid : String) : Op → Bool
  | .stop id => id == cid
  | _ => false

/-- A start of a container. -/
def starts (cid : String) : Op → Bool
  | .start id => id == cid
  | _ => false

/-- Only a stop stops. -/
lemma stops_iff {cid : String} {o : Op} : stops cid o = true ↔ o = .stop cid := by
  cases o with
  | stop id => exact beq_iff_eq.trans ⟨fun h => by rw [h], fun h => Op.stop.inj h⟩
  | _ => exact ⟨nofun, nofun⟩

/-- A stop acts. -/
lemma stops_acts {cid : String} {o : Op} (h : stops cid o = true) : Acts cid o := by
  cases o with
  | stop id => exact beq_iff_eq.mp h
  | _ => cases h

/-- A start acts. -/
lemma starts_acts {cid : String} {o : Op} (h : starts cid o = true) : Acts cid o := by
  cases o with
  | start id => exact beq_iff_eq.mp h
  | _ => cases h

section Counts

variable {c : Decoders} {info : Value} {slug cid x key : String} {files : Files}

/-- What only reads does none of the counted things. -/
lemma reads_atMost {m : Ctl Files} (hm : m.Only Reads) {p : Op → Bool}
    (h : ∀ o, Reads o → p o = false) : m.AtMost p 0 :=
  (hm.mono h).atMost

/-- Reading stops nothing. -/
lemma reads_stops : ∀ o, Reads o → stops x o = false := by
  intro o h
  cases o with
  | stop => cases h
  | _ => rfl

/-- Reading starts nothing. -/
lemma reads_starts : ∀ o, Reads o → starts x o = false := by
  intro o h
  cases o with
  | start => cases h
  | _ => rfl

/-- The stop before the copy, if the container runs. -/
lemma stopRunning_only {p : Op → Prop} {running : Bool} (h : p (.stop cid)) :
    (stopRunning c cid running).Only p := by
  cases running with
  | true => exact Only.bind (stop_only h) fun _ => only_pure
  | false => exact only_pure

/-- The copy, its read-back, the start and the record. -/
lemma copyAndStart_only {p : Op → Prop} {pending : Files}
    (hput : p (.archivePut cid pending (entries pending))) (hreads : ∀ o, Reads o → p o)
    (hstart : p (.start cid)) (hset : p (.set key .ready)) (hsave : p .save)
    (hprint : ∀ line, p (.print line)) : (copyAndStart c slug files cid key pending).Only p := by
  refine Only.bind (putFiles_only hput) fun _ => Only.bind (readback_only.mono hreads) fun _ => ?_
  refine Only.bind (start_only hstart) fun _ => Only.bind (only_ask.mpr hset) fun _ => ?_
  refine Only.bind (only_ask.mpr hsave) fun _ => Only.bind (reportFfmpeg_only hprint) fun _ => ?_
  exact Only.bind (only_ask.mpr (hprint _)) fun _ => only_pure

/-- A restart stops at most once. -/
lemma restart_stops {fresh : Value} : (restart c slug files cid key fresh).AtMost (stops x) 1 := by
  have one {running : Bool} : (stopRunning c cid running).AtMost (stops x) 1 := by
    cases running with
    | true =>
      refine AtMost.bind (k := 1) (n := 0) ?_ fun _ => Only.atMost only_pure
      exact AtMost.bind (k := 1) (n := 0) atMost_call fun _ => Only.atMost only_ofExcept
    | false => exact (Only.atMost only_pure).mono (Nat.zero_le 1)
  refine AtMost.bind (k := 0) (n := 1) (reads_atMost checkCollisions_only reads_stops) fun _ => ?_
  refine AtMost.bind (k := 0) (n := 1) (Only.atMost only_ofExcept) fun running => ?_
  refine AtMost.bind (k := 1) (n := 0) one fun _ => Only.atMost ?_
  exact copyAndStart_only rfl reads_stops rfl rfl rfl fun _ => rfl

/-- A restart starts at most once. -/
lemma restart_starts {fresh : Value} : (restart c slug files cid key fresh).AtMost (starts x) 1 := by
  refine AtMost.bind (k := 0) (n := 1) (reads_atMost checkCollisions_only reads_starts) fun _ => ?_
  refine AtMost.bind (k := 0) (n := 1) (Only.atMost only_ofExcept) fun running => ?_
  refine AtMost.bind (k := 0) (n := 1) (Only.atMost (stopRunning_only rfl)) fun _ => ?_
  refine AtMost.bind (k := 0) (n := 1) (Only.atMost (putFiles_only rfl)) fun _ => ?_
  refine AtMost.bind (k := 0) (n := 1) (Only.atMost (readback_only.mono reads_starts)) fun _ => ?_
  refine AtMost.bind (k := 1) (n := 0) ?_ fun _ => Only.atMost ?_
  · exact AtMost.bind (k := 1) (n := 0) atMost_call fun _ => Only.atMost only_ofExcept
  · refine Only.bind (only_ask.mpr rfl) fun _ => Only.bind (only_ask.mpr rfl) fun _ => ?_
    refine Only.bind (reportFfmpeg_only fun _ => rfl) fun _ => ?_
    exact Only.bind (only_ask.mpr rfl) fun _ => only_pure

/-- The restart alone counts. -/
lemma Restart.count {t r} (s : Restart c info slug files cid t r) {p : Op → Bool}
    (hp : ∀ e : Event, p e.1 = true → Acts x e.1 ∧ Apart c files t e) :
    t.countP (fun e => p e.1) = s.work.countP fun e => p e.1 := by
  have before : s.before.countP (fun e => p e.1) = 0 := by
    refine List.countP_eq_zero.mpr fun e he hpe => ?_
    obtain ⟨ha, apart⟩ := hp e hpe
    exact s.before_quiet he (s.probing_apart apart) ha
  have rest : s.rest.countP (fun e => p e.1) = 0 :=
    List.countP_eq_zero.mpr fun e he hpe => s.rest_quiet e he (hp e hpe).1
  conv_lhs => rw [s.trace_eq]
  rw [List.countP_append, List.countP_append, before, rest]
  omega

/-- What a restart asks at most once, a pass does. -/
lemma counts {t r} (h : Traces (reconcile c info slug files) t r) {p : Op → Bool}
    (hp : ∀ e : Event, p e.1 = true → Acts x e.1 ∧ Apart c files t e)
    (once : ∀ id key fresh, (restart c slug files id key fresh).AtMost p 1) :
    t.countP (fun e => p e.1) ≤ 1 := by
  by_cases quiet : ∀ e ∈ t, ¬ p e.1
  · rw [List.countP_eq_zero.mpr quiet]
    exact Nat.zero_le 1
  · push Not at quiet
    obtain ⟨e, he, hpe⟩ := quiet
    obtain ⟨ha, apart⟩ := hp e hpe
    obtain ⟨id, _, ⟨s⟩⟩ := reached h he ha apart
    rw [s.count hp]
    exact once _ _ _ _ s.restarts.begins

end Counts

end K11CHaos.Frigate
