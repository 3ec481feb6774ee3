import K11CHaos.Frigate.Preparation

/-!
# A target that was stopped

What becomes of a target after the controller's stop: it is started in the same pass, or something
between the two requests raised, and then the entry of the key stays and no later pass asks Docker
anything for that container and payload (`stopped_then_started`).
-/

namespace K11CHaos.Frigate
open Prog

section Stopped

variable {c : Decoders} {info : Value} {slug cid key : String} {files : Files}

/-- What lies between the stop of a target and its start: the decoded response to the stop, the copy,
    and the readback of every file with the modes of the executables. -/
def between (c : Decoders) (cid : String) (resp : Response) (files pending : Files) : Ctl Unit := do
  let _ ← .ofExcept (accept c resp ("POST /containers/" ++ cid ++ "/stop"))
  putFiles cid pending
  readback c cid files

/-- A list has one place for an element that is nowhere else. -/
lemma split_unique {α : Type} {p : α → Prop} {a b c d : List α} {x z : α}
    (h : a ++ x :: b = c ++ z :: d) (hx : p x) (before : ∀ y ∈ c, ¬ p y)
    (after : ∀ y ∈ d, ¬ p y) : b = d := by
  obtain ⟨u, rfl, tail⟩ | ⟨u, rfl, tail⟩ := List.append_eq_append_iff.mp h
  · cases u with
    | nil => exact (List.cons.inj tail).2
    | cons y u =>
      obtain ⟨rfl, _⟩ := List.cons.inj tail
      exact absurd hx (before x (by simp))
  · cases u with
    | nil => exact (List.cons.inj tail).2.symm
    | cons y u =>
      obtain ⟨_, rfl⟩ := List.cons.inj tail
      exact absurd hx (after x (by simp))

/-- A request is asked before its response is decoded. -/
lemma runs_request {α β : Type} {o : Op} {f : Reply o → Except Raised α} {g : α → Ctl β} {t r}
    (h : Runs ((do let a ← ask o; .ofExcept (f a)) >>= g) t r) : ∃ y ∈ t, y.1 = o := by
  have asked {t r} (h : Runs (do let a ← ask o; .ofExcept (f a)) t r) : ∃ y ∈ t, y.1 = o := by
    obtain ⟨_, h1, _⟩ | ⟨t1, _, t2, h1, _, rfl⟩ := runs_bind.mp h
    · exact ⟨_, by rw [runs_call.mp h1]; exact List.mem_singleton_self _, rfl⟩
    · exact ⟨_, by rw [runs_call.mp h1]; exact List.mem_cons_self, rfl⟩
  obtain ⟨_, h1, _⟩ | ⟨t1, _, t2, h1, _, rfl⟩ := runs_bind.mp h
  · exact asked h1
  · obtain ⟨y, hy, eq⟩ := asked h1
    exact ⟨y, List.mem_append_left _ hy, eq⟩

/-- After the copy and its readback comes the start. -/
lemma copy_then_start {pending : Files} {t x} (h : Runs (copyAndStart c slug files cid key pending) t x) :
    (∃ y ∈ t, y.1 = .start cid) ∨
      ∃ err, x = .error err ∧
        Runs (do putFiles cid pending; readback c cid files) t (.error err) := by
  obtain ⟨err, h1, rfl⟩ | ⟨t1, _, t2, h1, g1, rfl⟩ := runs_bind.mp h
  · exact .inr ⟨err, rfl, runs_bind_error.mpr (.inl h1)⟩
  · obtain ⟨err, h2, rfl⟩ | ⟨t3, _, t4, h2, g2, rfl⟩ := runs_bind.mp g1
    · exact .inr ⟨err, rfl, runs_bind_error.mpr (.inr ⟨t1, _, t2, h1, h2, rfl⟩)⟩
    · obtain ⟨y, hy, eq⟩ := runs_request g2
      exact .inl ⟨y, by simp [hy], eq⟩

/-- The stop of a running target fails with its request or with the response to it. -/
lemma runs_stopRunning {t y} (h : Runs (stopRunning c cid true) t y) :
    ∃ o, t = [⟨.stop cid, o⟩] ∧ ∀ resp, o = .ok resp →
      (∃ err, accept c resp ("POST /containers/" ++ cid ++ "/stop") = .error err ∧ y = .error err) ∨
      ∃ v, accept c resp ("POST /containers/" ++ cid ++ "/stop") = .ok v ∧ y = .ok () := by
  obtain ⟨err, h1, rfl⟩ | ⟨t1, v, t2, h1, h2, rfl⟩ := runs_bind.mp h
  · obtain ⟨err', h3, eq⟩ | ⟨t3, r, t4, h3, h4, rfl⟩ := runs_bind.mp h1
    · exact ⟨_, runs_call.mp h3, nofun⟩
    · obtain rfl := runs_call.mp h3
      obtain ⟨rfl, hacc⟩ := runs_ofExcept.mp h4
      refine ⟨_, rfl, fun resp eq => .inl ⟨err, ?_, rfl⟩⟩
      obtain rfl := Except.ok.inj eq
      exact hacc.symm
  · obtain ⟨r, rfl, hv⟩ := runs_decoded h1
    obtain ⟨rfl, rfl⟩ := runs_pure.mp h2
    refine ⟨_, rfl, fun resp eq => .inr ⟨v, ?_, rfl⟩⟩
    obtain rfl := Except.ok.inj eq
    exact hv

/-- A restart that stops its target starts it again, or fails in between. -/
lemma restart_after_stop {fresh : Value} {t x resp}
    (h : Runs (restart c slug files cid key fresh) t x)
    (he : (⟨.stop cid, .ok resp⟩ : Event) ∈ t) :
    ∃ a u, t = a ++ ⟨.stop cid, .ok resp⟩ :: u ∧ (∀ y ∈ a, y.1 ≠ .stop cid) ∧
      (∀ y ∈ u, y.1 ≠ .stop cid) ∧
      ((∃ y ∈ u, y.1 = .start cid) ∨
        ∃ pending err, x = .error err ∧ Runs (between c cid resp files pending) u (.error err)) := by
  have reads : ∀ o, Reads o → o ≠ .stop cid := by
    rintro _ h rfl
    exact h
  obtain ⟨a, pending, t1, h1, g1, rfl, e1⟩ :=
    h.reached (checkCollisions_only.mono reads) he (not_not.mpr rfl)
  obtain ⟨t2, running, t3, h2, g2, rfl, e2⟩ :=
    Runs.reached (m := .ofExcept _) (p := (· ≠ .stop cid)) g1 only_ofExcept e1 (not_not.mpr rfl)
  obtain ⟨rfl, _⟩ := runs_ofExcept.mp h2
  have quiet : ∀ {t x}, Runs (copyAndStart c slug files cid key pending) t x →
      ∀ y ∈ t, y.1 ≠ .stop cid :=
    fun h => (copyAndStart_only nofun reads nofun nofun nofun nofun).runs h
  have before : ∀ y ∈ a, y.1 ≠ .stop cid := (checkCollisions_only.mono reads).runs h1
  -- only a container that runs is stopped
  cases running with
  | false =>
    obtain ⟨_, h3, _⟩ | ⟨t4, _, t5, h3, g3, rfl⟩ := runs_bind.mp g2
    · cases h3
    · obtain ⟨rfl, _⟩ := runs_pure.mp h3
      exact absurd rfl (quiet g3 _ e2)
  | true =>
    obtain ⟨o, u, rfl, ho, rest⟩ : ∃ o u, t3 = ⟨.stop cid, o⟩ :: u ∧ (∀ y ∈ u, y.1 ≠ .stop cid) ∧
        (o = .ok resp → (∃ y ∈ u, y.1 = .start cid) ∨ ∃ pending err, x = .error err ∧
          Runs (between c cid resp files pending) u (.error err)) := by
      obtain ⟨err, h3, rfl⟩ | ⟨t4, _, u, h3, h4, rfl⟩ := runs_bind.mp g2
      · obtain ⟨o, rfl, ho⟩ := runs_stopRunning h3
        refine ⟨o, [], rfl, nofun, fun eq => .inr ⟨pending, err, rfl, ?_⟩⟩
        obtain ⟨err', hacc, eq'⟩ | ⟨_, _, eq'⟩ := ho resp eq
        · obtain rfl := Except.error.inj eq'
          exact runs_bind_error.mpr (.inl (runs_ofExcept.mpr ⟨rfl, hacc.symm⟩))
        · cases eq'
      · obtain ⟨o, rfl, ho⟩ := runs_stopRunning h3
        refine ⟨o, u, rfl, quiet h4, fun eq => ?_⟩
        obtain ⟨_, _, eq'⟩ | ⟨v, hacc, _⟩ := ho resp eq
        · cases eq'
        · obtain started | ⟨err, rfl, failed⟩ := copy_then_start h4
          · exact .inl started
          · refine .inr ⟨pending, err, rfl, runs_bind_error.mpr (.inr ⟨[], v, u, ?_, failed, rfl⟩)⟩
            exact runs_ofExcept.mpr ⟨rfl, hacc.symm⟩
    obtain eq : o = .ok resp := by
      obtain eq | mem := List.mem_cons.mp e2
      · cases eq
        rfl
      · exact absurd rfl (ho _ mem)
    subst eq
    exact ⟨a, u, rfl, before, ho, rest rfl⟩

/-- An error that was caught is reported. -/
lemma caught_error {e : Raised} {t r} (h : Runs (caught key (.error e)) t r) :
    ∃ err, r = .error err := by
  cases e with
  | exit => exact ⟨_, (runs_throw.mp h).2⟩
  | exception message =>
    obtain ⟨err, _, rfl⟩ | ⟨_, _, _, _, h1, rfl⟩ := runs_bind.mp h
    · exact ⟨err, rfl⟩
    · obtain ⟨err, _, rfl⟩ | ⟨_, _, _, _, h2, rfl⟩ := runs_bind.mp h1
      · exact ⟨err, rfl⟩
      · exact ⟨_, (runs_throw.mp h2).2⟩

/-- A pass that finds the entry of its key asks nothing else. -/
lemma Held.idle {data : Bytes} {t r w w'} (hk : Held (keyOf cid data) w)
    (h : Traces (reconcile c info slug files) t r) (p : Lts.Path Answered w t w')
    (ht : info.item "Id" >>= Value.asStr = .ok cid) (hd : fileAt files manifest = .ok data) :
    ∀ y ∈ t, ∃ k, y.1 = .has k := by
  intro y hy
  by_contra ne
  obtain ⟨id, data', t', hid, hdata, rfl, _, _⟩ :=
    reconcile_known (p := fun o => ∃ k, o = .has k) (fun k => ⟨k, rfl⟩) h hy ne
  obtain rfl := Except.ok.inj (ht.symm.trans hid)
  obtain rfl := Except.ok.inj (hd.symm.trans hdata)
  exact hk.known p

/-- Nor does any later pass over the same container and manifest. -/
lemma Held.idle_path {data : Bytes} {w ls w'} (hk : Held (keyOf cid data) w)
    (h : Lts.Path (Step c) w ls w') :
    ∀ p ∈ ls, p.info.item "Id" >>= Value.asStr = .ok cid → fileAt p.files manifest = .ok data →
      ∀ y ∈ p.trace, ∃ k, y.1 = .has k := by
  induction h with
  | nil => nofun
  | cons st _ ih =>
    intro p hp ht hd
    obtain ⟨r, w2, traces, path, kept⟩ := st.traces
    obtain rfl | hp := List.mem_cons.mp hp
    · exact hk.idle traces path ht hd
    · exact ih (kept _ (hk.pass traces path)) p hp ht hd

end Stopped

/-- A target that the controller has stopped is started in the same pass, unless the response to the
    stop, the copy, the readback or a mode check raises in between. Then the pass raises, the entry
    stays in memory and in the file, and no later pass asks Docker anything for the same container
    and manifest. -/
theorem stopped_then_started {c info slug files t r w w' cid resp t1 t2}
    (h : Runs (reconcile c info slug files) t r) (path : Lts.Path Answered w t w')
    (split : t = t1 ++ ⟨.stop cid, .ok resp⟩ :: t2) :
    (∃ y ∈ t2, y.1 = .start cid) ∨
    ∃ data, fileAt files manifest = .ok data ∧
      (∃ pending u v err, t2 = u ++ v ∧ Runs (between c cid resp files pending) u (.error err)) ∧
      (∃ err, r = .error err) ∧ Held (keyOf cid data) w' ∧
      ∀ ls w'', Lts.Path (Step c) w' ls w'' → ∀ p ∈ ls,
        p.info.item "Id" >>= Value.asStr = .ok cid → fileAt p.files manifest = .ok data →
          ∀ y ∈ p.trace, ∃ k, y.1 = .has k := by
  have he : (⟨.stop cid, .ok resp⟩ : Event) ∈ t := by simp [split]
  have traces : Traces (reconcile c info slug files) t (some r) := h
  have apart : Apart c files t ⟨.stop cid, .ok resp⟩ := apart_stop rfl
  obtain ⟨id, _, ⟨s⟩⟩ := reached traces he (show Acts cid (.stop cid) from rfl) apart
  obtain ⟨hw, rfl⟩ := s.acts he (show Acts cid (.stop cid) from rfl) apart
  obtain ⟨_, none, _⟩ | ⟨x, hx, hcaught⟩ := s.ends
  · cases none
  have work : Runs (restart c slug files cid (keyOf cid s.data) s.fresh) s.work x := by
    have := s.restarts
    rwa [hx] at this
  obtain ⟨a, u, hsplit, ha, hu, ends⟩ := restart_after_stop work hw
  -- there is one stop in the trace, so both splits are the same
  have tail : t2 = u ++ s.rest := by
    refine split_unique (p := fun y : Event => y.1 = .stop cid) (a := t1) (c := s.before ++ a)
      (x := ⟨.stop cid, .ok resp⟩) (z := ⟨.stop cid, .ok resp⟩) ?_ rfl ?_ ?_
    · rw [← split]
      refine s.trace_eq.trans ?_
      rw [hsplit]
      simp
    · intro y hy eq
      obtain hy | hy := List.mem_append.mp hy
      · exact s.before_quiet (x := cid) hy (s.probing_apart (apart_stop eq)) (by rw [eq]; rfl)
      · exact ha y hy eq
    · intro y hy eq
      obtain hy | hy := List.mem_append.mp hy
      · exact hu y hy eq
      · exact s.rest_quiet (x := cid) y hy (by rw [eq]; rfl)
  obtain ⟨y, hy, eq⟩ | ⟨pending, err, rfl, failed⟩ := ends
  · exact .inl ⟨y, by rw [tail]; exact List.mem_append_left _ hy, eq⟩
  · exact .inr ⟨s.data, s.payload, ⟨pending, u, s.rest, err, tail, failed⟩, caught_error hcaught,
      s.held path, fun ls w'' later => (s.held path).idle_path later⟩

/-- A Docker that refuses the copy into the target. -/
def refusingDocker : Docker :=
  ⟨[probeText, targetText runningText], text "\x7b\"Id\":\"p1\"\x7d", 500, false⟩

/-- The response of a request that was accepted. -/
def isDone (r : Response) : Bool :=
  r == ⟨204, [], []⟩

/-- An event is a stop of the container that was accepted. -/
def isStop (cid : String) : Event → Bool
  | ⟨.stop id, .ok r⟩ => id == cid && isDone r
  | _ => false

/-- The stop that was looked for. -/
lemma eq_of_isStop {cid : String} {e : Event} (h : isStop cid e = true) :
    e = ⟨.stop cid, .ok ⟨204, [], []⟩⟩ := by
  obtain ⟨o, r⟩ := e
  cases o with
  | stop id =>
    cases r with
    | ok r =>
      obtain ⟨h1, h2⟩ := Bool.and_eq_true_iff.mp h
      obtain rfl := beq_iff_eq.mp h1
      have done : (r : Response) = ⟨204, [], []⟩ := beq_iff_eq (α := Response).mp h2
      exact congrArg (fun r => (⟨.stop id, .ok r⟩ : Event)) done
    | error => cases h
  | _ => cases h

/-- The refused copy: the target was stopped and is not started. -/
lemma refused :
    (∃ w, Lts.Path Answered emptyWorld (samplePass refusingDocker).trace w) ∧
    (∃ t1 t2, (samplePass refusingDocker).trace = t1 ++ ⟨.stop "f1", .ok ⟨204, [], []⟩⟩ :: t2) ∧
    (samplePass refusingDocker).trace.all (!starts "f1" ·.1) = true := by
  have all : (emptyWorld.follow (samplePass refusingDocker).trace).isSome = true ∧
      (∃ h : 18 < (samplePass refusingDocker).trace.length,
        isStop "f1" ((samplePass refusingDocker).trace.get ⟨18, h⟩) = true) ∧
      (samplePass refusingDocker).trace.all (!starts "f1" ·.1) = true := by
    simp only [samplePass, refusingDocker, sampleDecoders, sampleTexts, statText, targetText_pieces,
      text_append]
    decide +kernel
  obtain ⟨follows, ⟨h, stopped⟩, quiet⟩ := all
  obtain ⟨w, eq⟩ := Option.isSome_iff_exists.mp follows
  refine ⟨⟨w, World.follow_path eq⟩, ⟨(samplePass refusingDocker).trace.take 18,
    (samplePass refusingDocker).trace.drop 19, ?_⟩, quiet⟩
  rw [← eq_of_isStop stopped, List.get_eq_getElem, ← List.drop_eq_getElem_cons, List.take_append_drop]

/-- The pass with the refused copy raises. -/
theorem stopped_then_started_refused :
    ∃ err, ((reconcile sampleDecoders (samplePass refusingDocker).info "ab_frigate-fa"
      sampleFiles).run Docker.answer refusingDocker).1 = .error err := by
  obtain ⟨⟨w, path⟩, ⟨t1, t2, split⟩, quiet⟩ := refused
  obtain ⟨y, hy, eq⟩ | ⟨_, _, _, raised, _⟩ :=
    stopped_then_started (sample_runs refusingDocker) path split
  · have mem : y ∈ (samplePass refusingDocker).trace := by simp [split, hy]
    have not := List.all_eq_true.mp quiet y mem
    rw [eq] at not
    exact absurd not (by decide)
  · exact raised

/-- After the refused copy the target was stopped, and no pass over it, then or later, starts it. -/
theorem stopped_for_good :
    ∃ w, Lts.Path (Step sampleDecoders) emptyWorld [samplePass refusingDocker] w ∧
      (∃ y ∈ (samplePass refusingDocker).trace, y = ⟨.stop "f1", .ok ⟨204, [], []⟩⟩) ∧
      (∀ y ∈ (samplePass refusingDocker).trace, y.1 ≠ .start "f1") ∧
      ∀ ls w', Lts.Path (Step sampleDecoders) w ls w' → ∀ p ∈ ls,
        p.info.item "Id" >>= Value.asStr = .ok "f1" → p.files = sampleFiles →
          ∀ y ∈ p.trace, y.1 ≠ .start "f1" := by
  obtain ⟨⟨w, path⟩, ⟨t1, t2, split⟩, quiet⟩ := refused
  have mem : (⟨.stop "f1", .ok ⟨204, [], []⟩⟩ : Event) ∈ (samplePass refusingDocker).trace := by
    simp [split]
  refine ⟨w, .cons (.pass (sample_runs refusingDocker) path) .nil, ⟨_, mem, rfl⟩, ?_, ?_⟩
  · intro y hy eq
    have not := List.all_eq_true.mp quiet y hy
    rw [eq] at not
    exact absurd not (by decide)
  · intro ls w' later p hp ht hd y hy eq
    have traces : Traces (reconcile sampleDecoders (samplePass refusingDocker).info
      (samplePass refusingDocker).slug (samplePass refusingDocker).files)
        (samplePass refusingDocker).trace (some _) := sample_runs refusingDocker
    have apart : Apart sampleDecoders sampleFiles (samplePass refusingDocker).trace
        ⟨.stop "f1", .ok ⟨204, [], []⟩⟩ := apart_stop rfl
    obtain ⟨id, _, ⟨s⟩⟩ := reached traces mem (show Acts "f1" (.stop "f1") from rfl) apart
    obtain ⟨_, rfl⟩ := s.acts mem (show Acts "f1" (.stop "f1") from rfl) apart
    obtain ⟨k, has⟩ := (s.held path).idle_path later p hp ht (hd ▸ s.payload) y hy
    rw [has] at eq
    cases eq

end K11CHaos.Frigate
